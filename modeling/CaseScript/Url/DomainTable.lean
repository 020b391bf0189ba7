import CaseScript.Unicode.Spans

/-!
# Url/DomainTable — the characters of host names, packed

Edition 17 of the standard. Sets that are asked of allowed characters only may hold others too.
-/

namespace CaseScript.Url

open Unicode (Spans)

/-- Characters that each become one other character. -/
def mappedNumbers : List String := [
  "X2o1W2_20_7A0n482_730km140l810r46i1W2OCW2e1l12q1325528729j12k10n715260tG20aD13240yC10222wC20",
  "230-410qC10sC10220wC10-C20cD10YD10240cD10gD20iD15260qD10220qD30220qD10222oD23240sD102402HF2H",
  "H2M0220X610l31d12e10Z82H2O0sYL10220bA10mYL30220bC10g410k4192g30la110r410la110Xa110r310p310f3",
  "10_Z110zZ1e10v710fd110zc110rc110z4X30e7h13260290e770i224g240W422-33W1W2IGW2i10G10x110n110P10",
  "B10H10T10h12N2O0h310_210z220t310_320220h310234Z83UW5G-1W2m2X12g1r12s10U1D2F_22X3g2W3xk201qCg",
  "2WcEd10WcE60WcEl10_1yNAFea20xaC10vaC10daC12ZaC20baC10tZC10dYC10cya21027q2_x5j14_x5l30riE10ja",
  "E13tiE30tiE10frD1EtiE90viE10pnD10xiE10viE12tiE20riE10ZkE12dlD20d410fkE12dkE20XlD12_kD20hkE20",
  "dkE10bkE10hWE10bkE10zlD12x320hkE12bkE20t310rkD10fkE10j314rwC32pvC20nlE10XlE12zkE22dxC20jwC12",
  "bwCF0rpCZ10nqD10npE10lqD10xgE10bqD10ppE10ZqD10XqD10xpD14tpD30t210rmD10tpD10f210tmD10rpD10vpD",
  "16tpD40ppD12XpD20pWE12voD20t912xoD20XqE14toD30jWDX2r42x40p330zxE2_22e3EFGAFGEFGEFGAFH7FFEFm2",
  "2F20p410zWED0h510tXE10h510vXED2F20d610tYED2F20_610xXE10DC0_710vYE10x710vYE50_zF10X-F10Z-F10b",
  "-F10d-F10f-F10h-F10j-F10l-F10n-F10p-F701U0zWGm10zZGH0_ZG10lWG3A_ZG60zaG10kP10zZG12fbG20XXG1I",
  "_aGA0zbG10kO10zaG12fcG30zYG10tYG10bYG10rXG10rZF10vYG16rYG40pYG12lYGd30zfG50tgF32bgG20dgG10fg",
  "G10hgG10l-F10jgG10lgG10hgG13jgG64ngG30pgG10rgG70pgG20vrE20xgG20zhG10haG12piG30piG12riG20u110",
  "hiG10fiG16fsD40_iG30ttE10puE10ruE10ztE10YD50XkG12ZkG22zjGO0jlG40xkG50XlG30_lG12pmG20ZmG10jmG",
  "40xlG50XmG30_mG12pnG20ZnG402zMGzYIs2o1fbIQo1zcIQ0phIsu1-2W3W30220j_K10hk710j-K35260tXL10v_K1",
  "0zXL10xXL20230270ZXM10jWM12zZL2Z32h332702z30Rm90yoUq20ugu1D0WmF10koF10epF10upF10grF10WuF10iu",
  "F10ovF10axF10iZH10sbH10WcH10idH10oeH10wfH10YjH10gkH10-kH10ouH10i-H10YWI10gWI10aYI10qYI10eaI1",
  "0WbI10mcI10sfI10ugI10iiI10oxJ10WWK10syK10Y-K10m-K10a_K10cWL10yaL10qYM10obM10WjM10ikM10mlM10w",
  "mM10aqM10eqM10wgN10ihN10YiN10wiN10WqN10kqN10sqN10-xN10myN10ezN10szN10kXO10kYO10mZO10keO10siP",
  "10mlP10umP10--Q10c_Q10gaR10ebR10WcR10edR10qfR10yfR10mwR10-xR10yzR10gzT10iXU10uYU10gcU10udU10",
  "eeU10qeU10whU10YiU10WkU10inW110ejX110-jX110ckX110ikX110wkX110ylX110-lX110-qX110iYY110qYY110u",
  "tY110guY110ixY110uxY110eyY110syY110gYZ110sYZ110ymZ110enZ110eqZ110erZ110auZ110yca110eda110eea",
  "110qya110kab110uab110Ymb110krb110eub110wlc110Yuc110yxd110mzd110WXe110aae110gee110-ee110efe11",
  "0ehe110-le110mme110Ycf110kcf110-cf110kdf110ief110eff110kff110gkf110mkf110wkf110Yih110yjh110a",
  "hi110whi110cji110w-i110o_i110-Zj110ucj110agk110Whk110yhk110Wkk110emk110qyk110gzk110kXl110yml",
  "110uol110u_l110WXm110eXm110-km110iwm110aYn110kYn110sYn110Wzo110mzo110cdp110ump110ymp110upp11",
  "0ewp110Wxp110cxp110oxp110qXq110sZq110Waq110waq110clq110goq110moq110yzq110W-q110a_q110wkr110u",
  "nr110aor110ksr110Wtr110atr110str110mvr110aos110Yht110qht110-jt110elt110slt110emt110kmt110yot",
  "110Ypt110Yqt110gqt110Yrt110sst110ott110Wut110qxt110myt110syt1h10_zN20dzNq10d220omH12smHu72XZ",
  "G20nuF10ZZG12nuF24dZG3ApuF60hYG14rZG30bYG1ItZGAe1x-FM2XbG22_vF20vvF10tvF10lvF10fvF10dvF10ZbG",
  "10ZvF10XvF12dbG20bbG12ZbG20zaG10xaG18vaG50raG10laG10zZG10nZG10fZG12XvF24vYG32bWG20XWG12n_F20",
  "l_F10z-F10v-F40ycE10olE10gdE10iqI10edE10ifE10cdE10ovX110-hE10ydE10gcE10uuJ10avI10snEb50smH10",
  "kZM10YqP10mqa1P0_rG12zrG24xrG30vrG12trG28rrG50avy110oY_110edW210smY210irZ210Ywa210mZd210-if2",
  "10qng210Yxi210u_j210kal210afm210wjn230aZg220WuD10sWE10kuD10mbI10WXE10mkF10wtD10ekF10gzD10mhG",
  "10ydQ10W-U10mwS10sfQ10cql110WfI10grP10ovQ10kdQ10sgZ110otG10e-V10sWj110iiZ110uXG10-pZ110wfX11",
  "0mjJ10wyk110weF10ajG10oaT10gso110WdE10klF10WiS10isD10muD10gsD10-pL10sqG10afG10wkK10shK10kZY1",
  "10ebE10oXj110ggG10ucJW10xY110vY110tY110rY112pY120nY110lY110jY110hY110fY110dY110bY110ZY110XY1",
  "10_X110zX110vX110tX110rX11ApX160lX110hX110dX110ZX118_W150zW110xW11AvW166tW1bwSj12W2R2S0Zbn21",
  "0Xbn2b4D2Gz12-10193240dWb2192D0220loo23326J2K0dqo210zqo210rqo210Xqo210dqo220Zno210poo210fno2",
  "10Ww11F2G0_210bqo210lZb213240jso21F2G0Xap2L0xtp210zup210vup210bup210230Xjp210hgp2ZR0fZ210h21",
  "0blq210PA0tjq27-4_yh2mzJ0xpw310Xrw312zqw324nqw330zpw310xpw310xlz3d10zjw310_jw310jjw310ljw310",
  "njw310pjw310ljw310njw310pjw310rjw310pjw310rjw310tjw310vjw310dkw310fkw310hkw310jkw310bkw310dk",
  "w310fkw310hkw310vkw310xkw310zkw310_kw310hiw310jiw310liw310niw310liw310niw310piw310riw310xkw3",
  "10zkw310_kw310Xlw310blw310dlw310flw310hlw310dlw310flw310hlw312jlw320llw310nlw310plw310flw310",
  "hlw310llw310nlw310llw310nlw310_lw310Xmw310Zlw310blw310rlw310tlw310fkw310hkw310jkw310lkw310bk",
  "w310dkw310fkw310hkw310bkw310dkw310fkw310hkw310nkw310pkw310rkw310tkw310dkw312fkw320hkw310jkw3",
  "10lkw310dkw312fkw320hkw310jkw310lkw310tkw310vkw310xkw310zkw310tjw312vjw320xjw3Y10how310jow31",
  "0low310now310_mw310Xnw310bnw310dnw310bnw310dnw320bnw310dnw310rnw310tnw310nnw310pnw310dnw310f",
  "nw310hnw310jnw310zvw310_vw3J0_ow310Xpw310Zpw310bpw3nG0d--310_Wd322nz-320d_-310jz-312XWd3Q0vX",
  "l310zXl310dz-310fz-312vW_320tx-310rx-312fYd322rYd322bZd322jZd326fZd360t--310r--350x--310z--3",
  "10_--310dY_310_ad330nX_310rX_310jX_310hZ_310dal312XZ_320_z-310zz-312nad320tZ_310pZ_312jZ_320",
  "hZ_310lY_310jY_310nY_320tW_312fa_320rY_3L2zby322_by322Xcy322Zcy322bcy320dcy310fcy312hcy322jc",
  "y320lcy310ncy312pcy322rcy320tcy310vcy312xcy320zcy310_cy312Xdy320Zdy310bdy312ddy320fdy310hdy3",
  "12jdy320ldy310ndy312pdy322rdy322tdy322vdy322xdy320zdy310_dy312Xey320Zey310bey312dey320fey310",
  "hey312jey320ley310ney312pey320rey310tey312vey320xey310zey312_ey320Xfy310Zfy312bfy320dfy310ff",
  "y310hfy310_ey310Xfy310Zfy312bfy320dfy310ffy312hfy320jfy310lfy312nfy320pfy310rfy312tfy320vfy3",
  "10xfy312zfy320_fy310Xgy312Zgy320bgy310dgy312fgy322hgy322jgy320lgy310ngy310pgy3D-1_j_3W1o1_h_",
  "3Qc2_j_3a12pzg320bp_312hrd320bsd310pcd310ddd310hid310fid310did310bid310Zid310ned310led310jed",
  "310tgd310ddd310zid310xid310vid310tid312rid320pid310nid310lid310jid310hid310fid310did310bid31",
  "0Zid310Xid310_hd310xhd310vhd310thd31Arhd360nhd310jhd310fhd310bhd318Xhd350_gd310zgd31Axgd360v",
  "gd310pgd312fmd332Xgt320n_s310Zgt312n_s324dgt33Ap_s360hft314rgt330bft31Itgt3DAXct38Abct38Afct",
  "384jct362xp_320hp_320xp_310_p_310vpl320hkj316nbl340vaj310bYj3oW1k2m2m5c2m2W6Kk2CSk2GCk282k2j",
  "F2XhY420vfZ410rkY410ZpY420dkY410ZYk110dkY410hkY412fpY420t_q310hpY410XpY410jkY410voY410_oY410",
  "bpY410nlY410xcZ410plY410_oY410dnY412zkY420zoY410msh310zWm110_oY410ish310ZnY410gsh310pgZ412vo",
  "Y420dpZ410toY410Ysh312roY420poY410bmY410hmY410hak110jmY410joY410zpj320boY412ZnY420vnY414h_Y4",
  "30Yrh310esh3cc1a3W4m6g1W2mw2-1W2WjL-1W2W3m1s1snNo1fdc7QI_hc7mu1o1zvf7Qo1nxf7Qo1bzf7QCv-f78Y1",
  "v-f7Io1jWg7Qo1XYg7Q3rZg730rZg730rZg732rZg746rZg75ErZg786fbg753fbg73Afbg77Kfbg7Bo1zcg7Qo1neg7",
  "Q2bgg736bgg76Ebgg79Cbgg78o1vhg7Q2jjg736jjg758jjg760jjg74Cjjg78o1Xlg7Qo1rmg7Qo1fog7Qo1zpg7Qo1",
  "nrg7Qo1btg7Qo1vug7Qo1jwg7Qo1Xyg7Qo1rzg7Qo1f_g7Qo1zWh7Qo1nYh7Q0btg710xcg73W1jlf7H0Xmf71Cjlf77",
  "0phw61W1Xnf7H0_mf71CXnf770njw610jof710fof710dof710nnf710znf710Xof71W1Xpf7H0rpf71CXpf770dlw61",
  "W1rqf7H0pqf71Crqf770bnw610Xsf710zrf710xrf710brf710nrf710rrf71W1rsf7H0ftf71Crsf770xow61W1fuf7",
  "H0duf71Cfuf770vqw610rvf710nvf710lvf710vuf710bvf710fvf71W1fwf7H0zwf71Cfwf770lsw61W1zxf7H0xxf7",
  "1Czxf770juw610fzf710bzf710Zzf710jyf710vyf710zyf71W1zzf7H0n-f71Czzf770Zww61W1n_f7H0l_f71Cn_f7",
  "70Xyw610zWg710vWg710tWg710XWg710jWg710nWg710v-f710x-f73Ixvh7AIlwh7AIZxh7AItxh7AIhyh7wX2G__j7",
  "94z_j73Kx_j7B0t_j712r_j720Xyy410Ztj710h_j710f_j710fsj710_vj710Xuj71GXYk792_Xk722xXk720vXk71A",
  "tXk762rXk720hzj710ZXk710dXk710rWk710_xj710rXz410txj7pa2Y2a2We12nzp720hzp710dzp720vxp710dzp71",
  "0pzp710Xzp710zxp716jyp740rzp710hzp710zyp710tzp710_yp710Z-p710_zp712r-p720n-p710l-p710b-p710Z",
  "-p710X-p710xwp710bsp710vtp710_wp720n_p710h_p720vzp730p_p720zzp716j-p740r_p710h_p710z-p710t_p",
  "710_-p720__p712rWq720nWq720bWq720XWq770hXq750pXq720z_p723jWq730rXq710hXq720tXq710_Wq720_Xq73",
  "0nYq720bYq720XYq720bwp720_-p720nZq710hZq720vXq730pZq710XZq710zXq713jYq730jYq710rZq710hZq710z",
  "Yq710tZq710_Yq720_Zq712raq720naq720baq710Zaq710Xaq710xWq720vzp722nbq720hbq710dbq712vZq720dbq",
  "710pbq710Xbq710zZq724jaq730rbq710hbq710zaq710tbq710_aq710Zcq710_bq712rcq720ncq710lcq710bcq71",
  "0Zcq710Xcq760ndq710hdq710ddq720vbq710ddq710pdq710Xdq710zbq724jcq730rdq710hdq710zcq710tdq710_",
  "cq710Zeq710_dq712req720neq710leq710beq710Zeq710Xeq7mJ0liu710phu74o1ziu7o60vqW7E0fyd610phh610",
  "hal610tqW710lun610rli610bZq510xki610dtn610n_b610nlW610Zec610zyl610Xff610Xfm610zcc610bWm610zj",
  "w510bm-510pto510dpi610t-k610ZnX610Zvd610bjd610nYo610XYo610X-m510hag610__n610rZl610lod610_ho5",
  "10xzd610Xhy510nxx510tYl610fxX610vob610zob610fm-510jyl610dek610xkm5L0nhf610Zcl6_i2I_xz7"]

/-- Characters that become several: how far each follows the one before, how many it becomes, and
how far each of these is from the one before it in the table. -/
def expandedNumbers : List String := [
  "e52W2mk172lk1ek152dk1Yk142Xk1km143hl1cXG_WG135cXGZXG132YXG_WGo32g3yf122xf121212C24s412r4s492",
  "gW1xa1x32JqH12pHqH12pHqH12ZH312431243128712871287b12Bi112h1i112h1i1b72p5ik112hk1kk112jk1qk11",
  "2pk1mm112lm1ck112bk1sk1z42rk1ov1A2nv1Yk113Xk1mk1DYG2ec1w1k72gAw412t2u212c5b512p2q2xz12oz3r1W",
  "42s9r1f12DZ112a1Jw43YHX4U23c3Z4UXv32zn7wb1c72aaEjqD12mqDlqD12oqDnqD12qqDpqD12sqDrqD12uqDtqD1",
  "2wqDvqD12yqDxqD12kqDjqD12mqDlqD12oqDnqD12qqDpqD12sqDrqD12uqDtqD12wqDvqD12yqDxqD12ksDjsD12msD",
  "lsD12osDnsD12qsDpsD12ssDrsD12usDtsD12wsDvsD12ysDxsD12ksDjsD12msDlsD12osDnsD12qsDpsD12ssDrsD1",
  "2usDtsD12wsDvsD12ysDxsD12kwDjwD12mwDlwD12owDnwD12qwDpwD12swDrwD12uwDtwD12wwDvwD12ywDxwD12kwD",
  "jwD12mwDlwD12owDnwD12qwDpwD12swDrwD12uwDtwD12wwDvwD12ywDxwD32kxDjxD12FG12PQ32w_Dv_D52FG12nv1",
  "cl122bl1cl112bl1ao113Zo1mk1q312aZErxD123412LM32wWEvWE523413nv1cl1b113_j1cl1Z113Xk1cl1-2E3Zo1",
  "el1d113_j1el1b113Xk1el1y2E3Zo1mk1F13_j1mk1D42sdEbyD12W1V12g1f132wZEvZE52W1V12nv1Yk112Xk1el1P",
  "2dl1cn1S2-lE01300022601300052dXG0221gk192hi10120x1120y1E4c_F000n22_xF2u23Z1Z3e3133Z3e422w3v4",
  "230d3W413Nd3i432s3p4D2G2A28B13ETE12GDP3D9k1L3j4cXGvWG13BcXGrWG14FcXGbXG1132cXGXXG131aXGXXG13",
  "3cXGzWG135aXGzWG133YXGzWG131WXGzWG137cXGxWG131-WGxWG139cXGtWG139YXGtWG135-WGtWG131wWGtWG12Dc",
  "XG22rzF013000120Q220P13QP014QP00120U220T13UT0620013000120Q220P13QP014QP00120U220T13UT0E3n3eX",
  "GXXGZ52m_G013000226013000vH2v_G112201202121412361258127A129C12BE12DG12D313FIF131KH131MJ131OL",
  "131QN131SP131UR131W1T131Y1V141I1D141I0F141I2H141I4J141I6L141I8N141IAP141ICR141IET141IGV141K3",
  "DL31o3l3131q3n3131s3p3131u3r3131w3t3131y3v3131-3x3131W4z3131Y4_3131a4X4131c4Z4131e4b4131g4d4",
  "131i4f4131k4h4131m4j4131o4l4131q4n4131s4p4131u4r4131w4t4131y4v4131-4x4131W5z4131Y5_4131a5X5t",
  "g14aWH000e33X_G06120013000bn12v1odO12ndOqdO32Z14W32o2g1X83_fOmj8jj8131qj8nj8131sj8pj8131wj8t",
  "j8131yj8vj8131-j8xj8131Yk8_j8131ck8Zk8131ek8bk8131ik8fk8131kk8hk8131mk8jk8131ok8lk8131qk8nk8",
  "131mzr2jzr2131Wdu2zcu2131uhv2rhv2131erx2brx2131Wwy2zvy2131u-z2r-z2131eeW3beW3131unY3rnY3131m",
  "sZ3jsZ3131WWc3z_b3131uad3rad3131mfe3jfe3131ekf3bkf3131Wpg3zog3131eja3bja3141u_Y3WUrzZ3141u_Y",
  "3Wg8rfh3231mzc1jzc1131ecd1bcd1131Y-c1_zc1131chh1Zhh1131ucd1rcd1131gqe1dqe1131szc1pzc1131cqe1",
  "Zqe1131gZd1dZd1131onf1lnf1131Wkp1zjp1131cau1Zau1131uWs1rWs1131Wmp1zlp1131owe2lwe2131klh1hlh1",
  "131wxo1txo1131aWq1XWq1131Ykp1_jp1131iny1fny1131g-f1d-f1131Ybv1_av1131odc2ldc2131gpy1dpy1131u",
  "ef1ref1131shd1phd1131ebg1bbg1131ypj1vpj1131shx1phx1131ojd1ljd1131-fc2xfc2131uof1rof1131gqy1d",
  "qy1131okd1lkd1131ayW2XyW2131syW2pyW2D3k48T12b3112201202121412361258127A129C12BE12B5126312411",
  "22012021214T2cWc3lrF12uXEdQq12foZ361258127A129C129712851263124112201202121412361258127A12791",
  "22kjp112hjp1ijp112fjp1gjp112djp1ejp112bjp1cjp112Zjp1ajp112Xjp1Yjp112_ip1Wjp112zip1-ip113jjp1",
  "1mjp113jjp10kjp113jjp12ijp112_fp11133QL123Y113JGVm12Wed1mw214p-H-2s2d314h2o4h1d3142Y5n1l3130",
  "q5X114j4k2m2b413N-4Z313r16q415r4Y1Jw4b314X2e5X5Y513Z5o4p313Ta5t113f3Di414z3y3h2A14v1a45a113_",
  "4Y4C13j4k4f112_23134w1Y314z4m3Aa114x4w3r2u312z4W415_3W4v3o3H16b3W4Ns1d3c215x3W44t2A13l1o3H15",
  "_2o3Hl1s215d4u3z2l1o414x3y3Uz213t1s4b413Bm3X213j1o4z114l2X1Mu315h3y3Z3s3t114n2c3Ib413Mm3Z313",
  "Bm3r213Fu3b412SV12a1a212b2s212n28130LA13Er2W215Qs2X4m3r213Is2l314Ou2V115j1Z3k1Uc213j1f2u312j",
  "1X212W2m115h1d3m4h2C14OZ3o5d315Sb1NVe413h1e1K15r1n2W1w3X112X1v113w1TE13Cc1j213i1o1p313Y2a2d4",
  "13Y2c2v314y1n3-4r213e1Ub212c1m113h1i1p213a1Y2X113VY2H14f1p3My313Tp3k413Pr1O13UQt315-2g1t3W3O",
  "14d1_2y3C12d1M15LMp1u2X112Jf314g3f3u1s214Z1s1d3c213Dm1b313s1m1X1139d4Y514Hj2Ac21211134j1m214",
  "X1Y1h2g1122N15OEr2h1Y4137t2A12lfOoeu112leu1meu112jeu1keu112heu1ieu112feu1geu112deu1eeu112beu",
  "1ceu112Zeu1aeu112Xeu1Yeu112_du1Weu113leu11oeu113leu10meu113leu12keu113leu14ieu113leu16geu113",
  "leu18eeu113leu1Aceu113leu1Caeu113leu1EYeu113leu1GWeu113jeu13oeu113jeu11meu113jeu10keu113jeu1",
  "2ieu113jeu14geu113Xbu1GT1265120e113b11Y1125E12BP122I13HIr313a3Ip312i3O12y_k1wv112wX2Xw812sf2",
  "uZ912fr2wg314Xf2rn4f_7eYL12xiy1T12QP12sr1rr112ON12KJ12KH12ML12A91323M141F3M128J12GF12ir1hr11",
  "2ir1fr112CB1287122a113T5a113P9a113b12a113BNa112aq1_q1122112FG121212BE122112-q1zq1120012JK123",
  "41300r313Y3Kr312s3r313o34r313s30p313W3Kp312q3p313m34p313q3mwGZwG14BmwGZwGX412y3T13KAT13O6T13",
  "CIT13Y1X1615SX16YxGZwG161X16YxGZwGX412y36129A12oq1nq112BC125C12FG12iq1hq112HI12LM12HI12BE12H",
  "I12gq1fq112JK12NO12JK12Nyr112tr1ur122js1U12R01202141axGpwG7225312Aa112X1D12EG12DA12501204123",
  "I12F212141336F12AO12LL13M7613245128F23G05126412211226122f113e1-vGlwG13NexGlwG12t3exo112bxo1c",
  "xo112Zxo1axo112Xxo1Yxo112_wo1Wxo112zwo1-wo112xwo1ywo112vwo1wwo112two1uwo113dxo11gxo113dxo10e",
  "xo113dxo12cxo113dxo14axo113dxo16Yxo113dxo18Wxo113dxo1A-wo113dxo1Cywo113dxo1Ewwo113dxo1Guwo11",
  "3bxo13gxo113bxo11exo113bxo10cxo113bxo12axo113bxo14Yxo113bxo16Wxo113bxo18-wo113bxo1Aywo113bxo",
  "1Cwwo113bxo1Euwo113Zxo15gxo113Zxo13exo113xto1BMXun12B01206125C13B061350C12E21212D2Wm24123T12",
  "UH12c1F123Du12c6Ok42sEb5D2x421212121-A12zA-A12zAa212Z2a212Z2YA12XAYA12XAWA12_9WA12_9aA12ZAaA",
  "12ZAqA12pAqA12pAqA12pAc212b2c212b2c252b2C12BE12D-112z1c212b2e212Z28127A129C12Bw112v1Y212X2a2",
  "12_1412361258127s112r1-112z1W212z12121q112p1y112x1-112x12121o112l11122m112j131241122k112Z1D1",
  "2EB12C912Aa112VF12GW112TJ12KH12IF12GU12RJ12KS12PQ12NP12QO12LR12SM127f112g1d112e1b112c18127G1",
  "2FI12Ff112g16125E12DG12Dt112u1j112k1h112i1f112g121214123C12BE12Bl112m1j112k1h112i12121A129C1",
  "29n112o1l112m1j112k101208127A127p112q1n112o1l112m1112261258125r112s1312441236120x112y1v112w1",
  "t112u1912A1122012p1W412z3-312j2k213_a3uY3A13XZ3wY3813XZ3yY3613XZ3-Y3413XZ3WZ3213XZ3YZ3-112p4",
  "M12LO12N-112z1W212_1c212b2e212Z2I12HK12Jw112v1y112x1Y212X2a212_1E12DG12Fs112r1u112t1-112z1W2",
  "12z1C12BE12Dq112p1s112r1y112x1-112HG12FI12FE12DG12Dt112u121214123C12BE12B2121A129C129x112y10",
  "122f112g1d112e11122012061258121k212h2n112o1l112m1912A71281122012d2C12BE12DG12F-112z1Y212z181",
  "27A129C12Bw112v1-112v1412361258127s112r1w112t1q112n12121o112l11122m112j13124k112Z1D12EB12C91",
  "2Aa112VF12GD12EW112TJ12KH12IF12GU12RJ12MQ12NP12QO12LR12SM127f112g1d112e1b112c18125f112g16123",
  "j112k1h112i1f112g121214121l112m1j112k1h112i121216123n112o1l112m1j112k10122p112q1n112o1l112m1",
  "11222120r112s13124o212h2x112y1v112w1t112u1912A512X2-112z1Y212z1w112v1-112v1s112r1w112t1q112p",
  "1u112d1a112Z1e112b1Y112X1c112721214121212211222126912A513DS613X1U413X1W1212p1a112Z1c112X1W11",
  "2VY112VU12TW112j1i112h1k112h1g112f1i112v1u112t1w112x1w112v1y112t1s112r1u112f1e112d1g112d1c11",
  "2b1e112h1F12GD12EB12CY112X151243128712A912Ca112Z1c112X1W112VY112VU12TW112j1i112h1k112h1g112f",
  "1i112v1u112t1w112x1w112v1y112t1s112r1u112f1e112d1g112d1c112b1e112h1F12GD12EB12CY112X15124312",
  "8712A9126F12GD12EB12CY112Z1e112b1c112VS12Z1D12EB12C912CF12GD12EB12IS12PQ12x1e212d2e2J3X24o11",
  "3r161133611336m113r18k113r1s1n1133s1l1135s1j1133o1l1131o1l1130m1A13v1m1813h1B113ED213CDw113h",
  "1a1l113Ca1l113Ca1n113Ea1013Z1a1013VF013GF013GW1013X1Dm113X1Dm113X1Fy113h1Y1j113CY1j113CY1013",
  "X1Y1013THu113b1Fk113TFk113RSl113KSl113KS013RSA13X1Po113NO013NO013NO813TM013LMA13VM813Fb1k113",
  "7b1k11356l113g160131j1m1131j1w113Bj1u1139l1013m1l1013m1h1k1131h1k11312l113k12l113m1l1113o1l1",
  "m1130l1w1139n1213m1n1o1130j1313o1j1k1330n1413o13n113s130132n1m1132n1u1135p1o1132p1o1132p1w11",
  "351A137181329013A9013v1Cu113_14y113_14w113z18u113_18s113z1s1A13_1s1813v1o1A13x12u113v1o1813h",
  "19s113d1Fw113h1Dw113d1Hw113Bl1y113B2A130v1w1130x1y11309A1390A13F6A137n1w113F6l113k1j1m113NOA",
  "13D4A137p1213m1j1u113Bl1o113340131l1o1132p121312w113v11y1139n1y113H8A13Z2Aw113D4013NPo113VW1",
  "013Z19u1137p1y1f13f1Uy813_84y814rAw10614_1u1r1I14e1l1m1h114CULO14d14g1714LMC5142f1Y1213VUA1I",
  "d1UAnY3kW3w106jY3oX3MC5jY3mY3f1Y1218n1m1dY3uW3m1v1w1614h1s9fAw1j22dY3gk112fk1gk112fk1gk112fk",
  "1gk1a12fk1sY312LM12rY3uY322tY3wY322vY3yY312RS12xY3-Y312TU12zY3WZ312VW112_Y3YZ312X1Y112XZ3aZ3",
  "12Z1a1s32RZ212a2Z212a2X212Y2X212Y2z112-1z112-1v112w1v1d72jW3ek1-ey12dj1712A912CB12ED12GF12IH",
  "12KJ12ML12ON12QP637o3l3131q3n3131s3p3131u3r3131w3t3131y3v3131-3x3131W4z3131Y4_3131a4X4131c4Z",
  "4131e4b4131g4d4131i4f4131k4h4131m4j4131o4l4131q4n4131s4p4131u4r4131w4t4131y4v4131-4x4131W5z4",
  "131Y5_4131a5X513s-NXwNawN32ZxN212c16S2Z1S12HI125T12U01350C122d1R2KJ12KH12IAa12RCm32YXO_212m6",
  "0_13z9mnRjnR131g_Ed_E131mdFjdF131gtLdtL131ggW1dgW1131-ZPxZP131ciZ1ZiZ1131oiHliH131cqQZqQ"]

/-- Characters that may stay, or that composing changes as it should. -/
def validSet : Spans := .unpack [
  "0X2Qb1X1711121112423131N17X11111111111111111111111111111111111111111111111111131121111113111",
  "11112111111111111111111111111111111111111111111111211111112111213241213321211111211211213111",
  "2317A111111111111112111111111111111112413111111111111111111111111111111111111111111111111111",
  "11111117212211411111111X39V625W3191W1111311348181RZ18111111111111111111111111131211122p1m111",
  "11111111111111111111111111111119111111111111111111111111111111111111111111111111111111211111",
  "11111112111111111111111111111111111111111111111111111111111111111111111111111111111111111111",
  "111111111111f1k113231t18R46HM1u24a31m12x12b3Ex12n12F1S211B5W17h21X518222M1711342922248142152",
  "P2316422M17121212211542233174117HA319131M1712152A131321F42C771318222M1712152922237342152IA21",
  "6331432111232333C4533142161EL5D131N1G291314721312242A7M131N1A152913147253142A13CD131p113164G",
  "2Q131I3O191127314611186A23Co1174Tb1211151O111C1A2511171A42W1C1x11a146111U1a11F1Db1W5m1i11Y32",
  "e7142711142f1142X1142711142F1v1142Z22W13Q6s2AWK1S3v27M9O9KCD1312Cq12e12A6A6B5A6v27h15c2AV1C4",
  "C413g125Bi14Q6B3-12X21T2B6A6E2k12CKj21c58y13F3p1A1r188h15i131B1I1SD1Y1b1W2111111111111111111",
  "11111111111111111111111111111111111111111111111111111111111111111111111111111111111111111111",
  "11111111111111111111111111111111111111152211111111111111111111111111111111111111111111111111",
  "11111111111111111111111111111111111111111111111986A88886A8888Eo124171719422887161L221151C318",
  "3212411183D17X281PEX1J131B122523111111141B16456m1315124y4212vFMBW5Xf11d33z72g4m1m11132111111",
  "41121651111111111111111111111111111111111111111111111111111111111111111111111111111111111111",
  "111111111111181114115j111512u181EO97171717171717171-3Y1Q141p2k811p111351s222221_26h1W32Ec2AG",
  "e28l11WCjaS3t19yAL11111111111111111111111111111111111111111111J11111111111111111111111111112",
  "w28Y1111111111111131111111111111111111111111111111111111111111111111111111111111118111121111",
  "11114111211131111111111111111111151511111111111111141112111111111111111Q22p13A6u18c28C6q3BU3",
  "k21B4X11t19E2A2d3OSA6262697171i14912q2k12A6azACN4n1ae8kB2g3Z23AD1511121219Z3X1hBIW22s18j13W1",
  "GL2i11iCC1Q1J121F2EY1x3534j13u21D31l1k1Y4T3n1FS4a19U5h15U1b14Eo2s32Ak1a14e18q1B1d1B1F17123q1",
  "Ct99MA8O1_36211i112312N1e289m1J125X13R5Rc1u14K2o11258131T234A797W2W1d14C9s13T2R5Q74C7m2f2t3p",
  "17k18A6GPT82m6V1g11322G689X1k18g1MQc1SKN9k24a19-115DP7A6r11I8d19W31KBI1l1-1711141F1B6x15A641",
  "8222M1712151A22232161572735BA11211c11A1121141A1282Ty215Ue28Ac5s12c1Y1b2BA6DJw16A6KSR2F4Nv5y1",
  "a4p1C82128121U122C9Ac282k12BRe28p2Df27As28u2Y1EA691j11EAT3W12M1Ef27121i13112198A66121b112167",
  "A6i14As7P7H1f13Tr21Fo1DxSc3l315Ba6io2Z3DmX1GMAxy35dIvr6w1cs1vH7V1A4n21A6U26Ac2AA171L5JmDw1c7",
  "x1W1Pi1h24v17HW25B79sc7f1W1X3p3zl8417121Z9F1T321E48iCae2h35D397A24Wx3s6a133qD6NFHFk12N9q3y1s",
  "7Ad12g28m3Lc2w3KCKCt29Pda1iKF51FmY1V66r671H271215a31m3j13E2A42WAVHw151mEg1s6h141W6V1M82W7714",
  "121F1b62Gh2g14A42nOa2i2z1oD2k8i14a3CF2F1F1b1L5V1W1Q3Z11Tu1QW36w4vU3H3D3w66C41FC4u18A6e18U2C4",
  "2E9d1uA8E2D3B3v1114G2C4A7p41y2A1bW1Wtf1W1-e42kq52nf7FkJYj2-GYl1hw45gf8"]

/-- Characters that are dropped. -/
def ignoredSet : Spans := .unpack ["j51XL1lm32po12r25x_11q2556qd41xap1Gl71W51_dl14lc58byhOm7"]

/-- Marks. -/
def markSet : Spans := .unpack [
  "WOm3p87d8j111121211e2Bm1LG1b37262214Z11URx2Bw1991O4191315h13x19g1w1s131I17A2T3u111G91A2Q6u1M",
  "U231B3u111GK2MAu111QA2U1x1G91e15t111PB2T3u111PB2FHt121G91A2T3c2MI2z1127C8Y3129B7f22R1111142n",
  "1K125m191a3KN443132734DC11A4_L3oT4S3T2U2Y2U91d52Y11s3Sx65v1h1m1r2l1Hc19C3UDu1Em1Ku431L416123",
  "c6W2mMX1-_23j41W3W1gH6f32qkT41AW12m22m813141N541p22o1IQID1c18PDi14l1Ea11Z2EC182j13o111322521",
  "1f1552i7812mvJ1XOGjU1Y71r45cq1Fe18b52zH4X25z92j26c2Bn14w33r1Ff1122A4j1B71z13a1EG2i11C3m1E841",
  "2y2C6121z4CL4t121G91AJZ2P11E2o2IN1n2Kh7IR2o2Hg3Db3FW8Fr7F1112j4G31SAe1714819Bk1Gc68d6Ho2b1w3",
  "L11Y2ExA49211m1FN1bd516FecBIWk25x17uW111Y2n2EhbJ2Xp4d2-G53M27U4q43xz1t14o181E1MLmg1m4W57tB1z",
  "14yF4-72p71217251wE7j37"]

/-- Letters that join with the one after them. -/
def joinsNextSet : Spans := .unpack [
  "Wn115111154D1712Z128GIc112911112e1321I35419111112VB3F24112326g2X1s25211A11A11421T12511GA5226",
  "1F-v31Ov2EY111ryZ1p1joO5815A13A4n411133121121S2nAY111_C212e331HC3S42Ck1112412212112152qfs1a2"]

/-- Letters that join with the one before them. -/
def joinsPreviousSet : Spans := .unpack [
  "Wn111U1AZ12131_211O2A321G11UTp1g2X1r2P7114145J3127GD1R-v31Ov2EY111ryZ1o1koO61112391A2165m4IN",
  "6oAZ1-C312e3LC4RIk1115181442rfs1a2"]

/-- Characters that letters join across. -/
def joinsThroughSet : Spans := .unpack [
  "WOm3p87d8j111121211e2Bm1LG1b37262214Z11URx2Bw1991O4191315h13x19g1v1t1111484137A2T1w114481K2Q",
  "5v114HU231B2v114841K2M8w1121148AB2U1z11C1o1131t11135HB2T1w11216152K2S2v124481K2T1e2175w2127C",
  "8Y3129B7f22R11111t1E15125m191c34161222P243G4D12261F1_L3oT3T2U2U2Z27812B91d52Y11s33429163x622",
  "1w111911286Dm1q2m11151151e19C2W142213u11123113w1822u431D17416132c6W2mMX1-_23j41W3W1gH4h32qkT",
  "41AW12m22m813141P251t42QID1c18PBk13m112422d11Z262222C181l11p1113225211g1281k712141mvJ1XOGjU1",
  "Y71r45cq1Fe18b52zH4X25z92j26c2Bn14x31s1Ff1122A3n142271z13a1518-11C2q19A421_2321126121z4138L2",
  "v1231b1Fc26D11111E2r282311N1q26114212k746212R2r282112g31112611b31112415Z8912W821141m4841W1Ae",
  "1624819623k1D12c611311f6E11o2M271212w3L11e223111xA2B2q155111N1bd516FecBC33Wk25x17uW11_14n21u",
  "bJ2Xp4d2WH3H827U4q43xz1t14o181E1MLmg1m4W57tB1z14yF4-72p71217251wE7j38"]

/-- Characters that run from left to right. -/
def leftSet : Spans := .unpack [
  "X3Qa3O1uDB7E2S1Y4337Ia34h48_7vRt1111484137A2T1u134661K4C27125t143ON2311Ct134843I4B818u132116",
  "6AB4IBz11C3Z1E31r13134JA4I721u13F9D4EEv124571K4Q2b2836v211D78Y311AA9e22R11115l1I15125n181c34",
  "161222P243G4D12261F1zL5m1Gs2BwK5o33T2UEHFt17812B7113Ac1r32Y11r3442916Dr4b1N223u111911286Dk1s",
  "2m11151151e19C2W142213u11123113w1825j4B1D17416132X5c3dFE1tAx1jDb2Q1sO1pAW8mPr57341Cn3F_2cH3P",
  "94215524s2622w21a6m1m-6W2jqLZ2z93_2IR4m226h1b31v313141P21888q1Ca2ACOD1c18PBh16m112422d11Z262",
  "22B3181l11p1113225211g128Be3t2b112143gtJcf1X81-1j22X2j1Z4n2l1s3AXW1_Z211s1F7OA1221Cn14227Eg1",
  "9a1519z113Bq19A421_232112612_1_213DA8u1331Z1Sx17C111116d1u182311N1q26114212k764212Ra1p182112",
  "Pc1h11112611Z33112419_7912-741141m4841W1622e1624891623k1D12m3t21311f6Eo2P17121h2n1L19_142111",
  "xA249q182111Ns2b1g1nX5H6P-bBC33-j27x17qW15u1Bl211CjbJ21mr4tG39G27U4x1t6q1i3Wr1t14o181E17qZ1h",
  "1rEj1AtBIi14AsES4-72p71217259X8ng2Q6z1v1QWm3wZj2"]

/-- Characters that run from right to left. -/
def rightSet : Spans := .unpack [
  "-j111121219b1J12111Dm1Y131b3F272AN1UTv2Bw192413O4191317f15o1Gg1poy111a5mL1ii2y84X7Fc1Ab56h2A",
  "aFc16VN82m7g13Ru1c2Bn14n3fWs1m6o2Y17pV"]

/-- Digits of the kind that is written with letters from right to left. -/
def arabicDigitSet : Spans := .unpack ["Wm16w2A12m31oD2m21jYX2A6As8V"]

/-- Digits of the other kind. -/
def europeanDigitSet : Spans := .unpack ["m1Au3251sn1Ash61366A-VKqps1AdURqlo1Aqs2o1We6Bbt2A"]

/-- Marks that run with the character that bears them. -/
def overlaySet : Spans := .unpack [
  "WOm3p87d8j111121211e2Bm1LG1b37262214Z11URx2Bw1991O4191315h13x19g1v1t1111484137A2T1w114481K2Q",
  "5v114HU231B2v114841K2M8w1121148AB2U1z11C1o1131t11135HB2T1w11F2K2S2v124481K2T1e2175w2127C8Y31",
  "29B7f22R11111t1E15125m191c34161222P243G4D12261F1_L3oT3T2U2U2Z27812B91d52Y11s33429163x6221w11",
  "1911286Dm1q2m11151151e19C2W142213u11123113w1822u431D17416132c6W2mMX1-_23j41W3W1gH4h32qkT41AW",
  "12m22m813141P251t42QID1c18PBk13m112422d11Z262222C181l11p1113225211g1281k712141mvJ1XOGjU1Y71r",
  "45cq1Fe18b52zH4X25z92j26c2Bn14x31s1Ff1122A3n142271z13a1518-11C2q19A421_2321126121z4138L2v123",
  "1b1Fc26D11111E2r282311N1q26114212k746212R2r282112g31112611b31112415Z8912W821141m4841W1622e16",
  "24819623k1D12c611311f6Eq2M271212w3L11e223111xA2B2q155111N1bd516FecBC33Wk25x17uW11_14n21ubJ2X",
  "p4d2WH3H827U4q43xz1t14o181E1MLmg1m4W57tB1z14yF4-72p71217251wE7j37"]

end CaseScript.Url
