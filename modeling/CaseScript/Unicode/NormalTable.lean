/-!
# Unicode/NormalTable — how characters are composed, packed

Edition 17 of the standard.
-/

namespace CaseScript.Unicode

/-- Composed characters: how far each follows the one before, the distance to its first part, and
its second part. -/
def pairNumbers : List String := [
  "W6z7WO1_7XO1X8YO1Z8ZO1b8eO1d8gO2d8dP1b8WO1d8XO1f8YO1h8eO1b8WO1d8XO1f8YO1h8eO2b8ZO1b8WO1d8XO1",
  "f8YO1h8ZO1j8eO3d8WO1f8XO1h8YO1j8eO1d8XO3z7WO1_7XO1X8YO1Z8ZO1b8eO1d8gO2d8dP1b8WO1d8XO1f8YO1h8",
  "eO1b8WO1d8XO1f8YO1h8eO2b8ZO1b8WO1d8XO1f8YO1h8ZO1j8eO3d8WO1f8XO1h8YO1j8eO1d8XO2h8eO1zBaO1_9aO",
  "1XCcO1ZAcO1bCeP1dAeP1bCXO1dAXO1fCYO1hAYO1jCdO1lAdO1nCiO1pAiO1pCiO1rAiO3vCaO1xAaO1zCcO1_AcO1X",
  "DdO1ZBdO1bDeP1dBeP1fDiO1hBiO1fDYO1hBYO1jDcO1lBcO1nDdO1pBdO1rDdP1tBdP1tDYO1vBYO3zDZO1_BZO1XEa",
  "O1ZCaO1bEcO1dCcO1fEeP1hCeP1jEdO4pEYO1rCYO1rEdP1tCdP2vEXO1xCXO1zEdP1_CdP1XFiO1ZDiO5fFXO1hDXO1",
  "jFdP1lDdP1nFiO1pDiO4vFaO1xDaO1zFcO1_DcO1XGhO1ZEhO3ZGXO1bEXO1dGdP1fEdP1hGiO1jEiO1jGXO1lEXO1nG",
  "YO1pEYO1rGdP1tEdP1vGiO1xEiO1xGdP1zEdP1_GiO1XFiO3bHZO1dFZO1fHaO1hFaO1jHcO1lFcO1nHgO1pFgO1rHhO",
  "1tFhO1vHeP1xFeP1vHYO1xFYO1vHYO1xFYO1zHeO1zHXO1_FXO1XIdO1ZGdO1bIiO1dGiOY1XLxO1ZJxOEpLxO1rJxOT",
  "tOiO1vMiO1hOiO1jMiO1ZOiO1bMiO1xNiO1zLiO1nFaO1pDaO1rFXO1tDXO1vFiO1xDiO1zFWO1_DWO2pHaO1rFaO1i4",
  "aO1i4aO1tHaO1vFaO3zPiO1_NiO1vPiO1xNiO1rPeP1tNeP13aO13aO1j3iO1cAiO1hOiO4vQXO1xOXO3pQWO1rOWO1f",
  "JXO1hHXO1hJXO1jHXO1hIXO1jGXO1zRlO1_PlO1XSnO1ZQnO1zRlO1_PlO1XSnO1ZQnO1zRlO1_PlO1XSnO1ZQnO1vRl",
  "O1xPlO1zRnO1_PnO1xRlO1zPlO1_RnO1XQnO1zRlO1_PlO1XSnO1ZQnO1fScP1hQcP1hScP1jQcP3hTiO1jRiO7fUdO1",
  "hSdO1bUdP1dSdP1dLaO1fJaO1jLaO1lJaO1zTdO1_RdO13aO13aO1nTaO1pRaOoAvj1XO1MXO2QXO1SXO1UXO2c1XO2k",
  "1XO1q1XO1q3XOQX1eO1BeO1AXO1GXO1IXO1KXO1s1XOQX1eO1BeO1PXO1FXO19XO51XO13eOi1g1WO1e1eO2W1XO41eO",
  "5SXO1MWO1g1cOB1cOW11cONr1WO1t1eO2_1XO41eO5Z2XO1f2WO1r1cOO3lO13lOg2rAcO1t8cOE_BcO1XAcO1ZCeO1b",
  "AeO3XCcO1ZAcO33eO13eO1hCeO1jAeO1jCeO1lAeO3pCaO1rAaO1tCeO1vAeO1lCeO1nAeO33eO13eO1zBeO1_9eO1rC",
  "aO1tAaO1vCeO1xAeO1zChO1_AhO1vCeO1xAeO3vCeO1xAeOf9Apo118qo11e2qo114ro11e2qo1w4g1qo121qo1H1qo1",
  "sI1yf281yf231yf2t47-j219tk2yB1sw237-v219tw2e23t-2s17-z217-z21Bt-2y33sY3u31rc371rc313sc327Yc3",
  "11rc3_37-f317-f31Btg3k41gk325lk311gk319_k3eI1kX4Wt21rv621rv621rv621rv621rv641rv6f11rv621rv63",
  "3rv613rv621rv6zLzxEbP1_vEbP1_xEdO1XwEdO1ZyEZP1bwEZP1dyEnP1fwEnP1XqEXO1ZoEXO1hyEdO1jwEdO1lyEZ",
  "P1nwEZP1pyEnP1rwEnP1tyEdP1vwEdP1xyEjP1zwEjP1ZmEWO1ZmEWO1dmEXO1dmEXO1bzEjP1dxEjP1fzEmP1hxEmP1",
  "d_DcO1d_DcO1lzEdO1nxEdO1nzEaO1pxEaO1pzEdO1rxEdO1tzEZP1vxEZP1xzEeO1zxEeO1_zEdP1XyEdP1Z-EkP1by",
  "EkP1b-EmP1dyEmP1zrEXO1_pEXO1f-EXO1hyEXO1j-EZP1lyEZP1n-EnP1pyEnP1p-EZP1ryEZP13aO13aO1x-EnP1zy",
  "EnP1_-EjP1XzEjP1X_EXO1ZzEXO1b_EdO1dzEdO1f_EZP1hzEZP1h_EdO1jzEdO1l_EZP1nzEZP1p_EnP1rzEnP1t_Ej",
  "P1vzEjP1jtEXO1lrEXO1ntEeO1prEeO1dmEWO1dmEWO1hmEXO1hmEXO1dWFXO1f-EXO1hWFdO1j-EdO1hWFdO1j-EdO1",
  "lWFZP1n-EZP13aO13aO1tWFnP1v-EnP1vWFdO1x-EdO1zWFZP1_-EZP1pmEdO1pmEdO1hmEdO1hmEdO1BdO1BdO1hXFd",
  "O1j_EdO1lXFZP1n_EZP1pXFnP1r_EnP1tXFjP1v_EjP1vXFaP1x_EaP1zXFmP1__EmP1XYFjP1ZWFjP1_mEXO1_mEXO1",
  "_mEeO1_mEeO1hYFZO1jWFZO1lYFZP1nWFZP1nYFWO1pWFWO1rYFXO1tWFXO1vYFeO1xWFeO1zYFdO1_WFdO1XZFZP1ZX",
  "FZP1ZZFdO1bXFdO1dZFeO1fXFeO1fZFdO1hXFdO1hZFYO1jXFYO1lZFZP1nXFZP1pZFnP1rXFnP1xYFnP1bYFeO1XYFg",
  "O1_XFgO2tnEdO5zbFZP1_ZFZP1XcFfO1ZaFfO1Z-EXO1byEXO1d-EWO1fyEWO1h-EfO1jyEfO1l-EZO1nyEZO1NYO1NY",
  "O1twEXO1twEXO1xwEWO1xwEWO1_wEfO1_wEfO1ZxEZO1ZxEZO1h1cO1h1cO1bdFZP1dbFZP1fdFfO1hbFfO1jdFZO1lb",
  "FZO1d_EXO1fzEXO1h_EWO1jzEWO1l_EfO1nzEfO1p_EZO1rzEZO1RYO1RYO1zdFfO1_bFfO1XeFZP1ZcFZP1vdFZP1xb",
  "FZP1zdFfO1_bFfO1t_EXO1vzEXO1x_EWO1zzEWO1__EfO1X-EfO1ZWFZO1b-EZO1NYO1NYO1ppEXO1ppEXO1tpEWO1tp",
  "EWO1xpEfO1xpEfO1_pEZO1_pEZO1ZqEZP1ZqEZP1zeFZP1_cFZP1XfFfO1ZdFfO1npEXO1npEXO1rpEWO1rpEWO1vpEf",
  "O1vpEfO1zpEZO1zpEZO1XqEZP1XqEZP1nfFWO1pdFWO1rfFZP1tdFZP1vfFfO1xdFfO1zfFZO1_dFZO7zqDpO1_qDqO1",
  "3WO13WO17XO17XO1BYQ1BYQ1jtDpO1ltDqO13WO13WO17XO17XO1BYQ1BYQ1rrDpO1trDqO13WO13WO17XO17XO3buDp",
  "O1duDqO13WO13WO17XO17XO3nsDpO1psDqO13WO13WO17XO17XO1BYQ1BYQ1XvDpO1ZvDqO13WO13WO17XO17XO1BYQ1",
  "BYQ1jtDpO1ltDqO13WO13WO17XO17XO1BYQ1BYQ1zvDpO1_vDqO13WO13WO17XO17XO1BYQ1BYQ1XuDpO1ZuDqO13WO1",
  "3WO17XO17XO3nwDpO1pwDqO13WO13WO17XO17XO3ruDpO1tuDqO13WO13WO17XO17XO1BYQ1BYQ2dxDqO23WO27XO2BY",
  "Q1jvDpO1lvDqO13WO13WO17XO17XO1BYQ1BYQ1zxDpO1_xDqO13WO13WO17XO17XO1BYQ1BYQ1zxDWO2vxDWO2vxDWO2",
  "vxDWO2nxDWO2fxDWO2bxDWO4_7bQ1_7bQ1_7bQ1_7bQ1_7bQ1_7bQ1_7bQ1_7bQ1_7bQ1_7bQ1_7bQ1_7bQ1_7bQ1_7b",
  "Q1_7bQ1_7bQ1_6bQ1_6bQ1_6bQ1_6bQ1_6bQ1_6bQ1_6bQ1_6bQ1_6bQ1_6bQ1_6bQ1_6bQ1_6bQ1_6bQ1_6bQ1_6bQ1",
  "_3bQ1_3bQ1_3bQ1_3bQ1_3bQ1_3bQ1_3bQ1_3bQ1_3bQ1_3bQ1_3bQ1_3bQ1_3bQ1_3bQ1_3bQ1_3bQ1z_DcO1__DaO1",
  "Z4bQ1ZWEbQ1lWEbQ2fWEYQ11bQ1jYEcO1lYEaO1nYEWO2rYEbQ5nnFYQ1x4bQ1tWEbQ1hXEbQ2zWEYQ11bQ1bZEWO2bZ",
  "EWO2fZEbQ1RWO1TXO1VYQ1jXEcO1lXEaO1lWEWO4vXEYQ1vWEYQ1zZEcO1_ZEaO1XaEWO3Y2WO1W2XO1-1YQ1rXEcO1t",
  "XEaO1jXEWO2bYEpO1dYEqO1XYEYQ1tXEYQ1baEcO1daEaO1faEWO2raEqO1fqFWO5h7bQ1pYEbQ1hYEbQ2vYEYQ11bQ1",
  "nbEWO2XbEWO2bbEbQ-CJuP1HuPJp1uPV6uP1CuP16uPr11uP51uP31uPO1uP21uPR9uP31uP33uP21uPNbYHuP21uPB_",
  "1uP1ZZHuP1XZHuP1NuP1NuP33uP13uP33uP13uP7BuP1BuP33uP13uP33uP13uPZ1JuP19uP19uP17uPn1d6uP1d6uP1",
  "X5uP1X5uP7l3uP1l3uP1l3uP1l3uP_g31vaC21vaC21vaC21vaC21vaC21vaC21vaC21vaC21vaC21vaC21vaC21vaC3",
  "1vaC21vaC21vaC71vaC13waC21vaC13waC21vaC13waC21vaC13waC21vaC13waCNx4vaCA1vaCE1vaC21vaC21vaC21",
  "vaC21vaC21vaC21vaC21vaC21vaC21vaC21vaC21vaC31vaC21vaC21vaC71vaC13waC21vaC13waC21vaC13waC21va",
  "C13waC21vaC13waCNx4vaC3FvaC1FvaC1FvaC1FvaC41vaChcr1IdORJdOsr21wba221wba2FBwba2Z46dfa216dfa2y",
  "G7-va219twa2t11f-a221xza295Y-a231f-a2q15Y-a229uza21Bf-a2p73wbb215mbb229zbb2y73ljb213ljb2zR5m",
  "fc2f_H5-eu217ffu219_eu21A_eu21DWfu219_eu219_eu21DWfu2WY31dhx21Bdhx211dhx2"]

/-- Characters that are taken apart and never composed: how far each follows the one before, how
many parts it has, and these. -/
def partNumbers : List String := [
  "WQ1WO11XO21pO12eOXOm11vLA1x191t5nk12re2yf212se2yf212te2yf212ye2yf212Xf2yf212Yf2yf212hf2yf212",
  "lf2yf2z32Xj2yj212Yj2yj222lj2yj2q22on2yn232un2yn2Z12sm2yn212tm2yn212ym2yn232hn2yn2-72Xv2yv212",
  "Yv2yv2cV2Yw3tz3A2iw3tz352nw3tz352sw3tz352xw3tz3D2Ww3rz3A2nx3ox322nx3qx312oz3Wy322pz3Wy392nx3",
  "Wy3I2oy3tz3A2yy3tz352Xz3tz352cz3tz352hz3tz3D2my3rz3uz32nTXO22rTXO22tTXO22vTXO22_TXO22bUXO22f",
  "UXO-12nSXO31vTB2rSXO22tSXO83vTeOXO82vSXO83bUeOXO82bTXO32e5XO11W3A2_SXO22fTXO21q531YW811ZW8b9",
  "1fT41h212X2gO-F1eWC11fWCoz12zsAuPanp11eYZ111qtP11gsZ111ecZ111nsR11onJ11b_K11yyd111yyd111ngM1",
  "1nka111diL11egM11slO11fpT11byV11_nX111wzX111udY111laa111YmQ11xeR11vcS11--S11zXX111gha111nlc1",
  "11YqJ11rxK11auQ11xmS11jnX111-md111mgN11h_R11jkX111ahY111fsO11ukW111_WY111gsN11tuP11ghR11ytS1",
  "1kca111cyJ11tjK11-sK11acP11psQ11mmS11dtT11XWW111cmX111yoX111llZ111ovb111lxc111wld111iaU11_hU",
  "11WjV11f-W111aua111_pd111ssY111_cM11auN11WZV11-ZW111YpS11gcU11YcZ111ttb111ucM11YZN11pmQ11wkR",
  "11luR11lfV11tnV11hob111osK11haW111ykK11ikK11ymU11-jV11n_W111rpb111WyY111lsO11YmQ11-tY111vnJ1",
  "1d_M11oWO11dyS11mhT11tuK11xdU11_zJ11fzN11jmJ11icR11uhP11YfV11Z-K11-YM11XuT11fYX111grY111wzQ1",
  "1mzZ111eaR11-tO11btW111WzO11bhT11krJ11fhK11fkK11XaQ11ddV11lpW111osY111lka111rtK11YYL11phM11i",
  "tN11bkP11-_R11gfU11jjb111gpc111tqd111ksd111xqK11csP11txQ11YxZ111qpN11miO11WmO11waP11ZvR11fgS",
  "11faT11gkU11qlV11lZW111cvZ111kdX111ZXa111gwa111tmK11ZrK11zbL11ecS11YcY111grY111fsN11r_N11xxO",
  "11kzQ11-XV11rxS11atJ11vtL11d_M11wjN11yWO11ozS11fZT11wyV11cYW111qna111stb111ewb111uWc111hyJ11",
  "kjU11qja111urb111XdO11cqJ11wcK11k_M11_XN11viP11YmQ11kkS11YoT11ydX111yZa111jyd111eqP11knb111f",
  "qK11xxP11p_P11XgR11yqR11fWT11vgT11hZU11meV11-Yc111jhK11knO11upb111hXK11veN11glR11gvZ111hyN11",
  "agO11tWQ11dyS11cqb111fnK11lWL11bZN11pmP11kwP11ebQ11bdR11cWT11YlT11vxV11lcY111XdY111ika111Ytb",
  "111_vK11wrR11zWL11mkS11uaT11wlX111Zrb111tYd111_qd111tyP11hkR11elW111hsU11WvU11oaV11WsS11vaS1",
  "1uwY111WsJ11svW111wnK11dmK11crN11psO11scV11byM11-eR11qrP11xvZ111iYY111job111hiY111psN11WgK11",
  "WkL31wYM21qpP31-kK11gvS11gsT11yfU11-gU11bhU11liU11swb111-bV11zzV21omX121utY131uXa111zda141ld",
  "c111ydc111efc111qjd111-ca111trb111kzJ11ddK11jgK11fsK11atK11nwK11ziL11cmL11epL11WYM11ebM11aZN",
  "11kZN11qaO11ehO11kiO11olO11lgP11YlP11nqP11baQ11thR11wmR11YvR11khS11hnS11YXT11naU11-fU11fgU11",
  "egU11mgU11sgU11zgU11jiU11kiU11WoU11XqU11W-U11qlV11fmV11XoV11oxV11bWW111jlW111vpW111vpW111tYX",
  "111meY111siY111XuY111vvY111pcZ111eeZ111szZ111uXa111Ztb111__b111xXc111rZO11ktm411umW131cnJ11r",
  "jK11ehK11WyJ11bgK11WiK11dsK11wtK11ziL11rgL11viL11YlL11wYM11pbM11agM11qgM11YpM11evM11osN11vsN",
  "11fxN11jzN11ucO11kgO11eeO11kiO11WhO11olO11qnO11a-O11yWP11oYP11sgP11qpP11tuP11xuP11swP11vxQ11",
  "wzQ11XgR11xsR11hsR11YvR11-WS11khS11dzT11rnS11lrS11gvS11nZT11ceT11xfT11zmT11_mT11gsT11xsT11qt",
  "T11gwT11WwT11icU11nrU11W-U11xZV11xgV11qlV11-vV11bWW111owW111l_W111vxX111XgY111ciY111siY111_r",
  "Y111utY111hsY111XuY111-tY111jtY111vvY111gyY111eeZ111uvZ111oZa111via111spa111ypb111Ztb111swb1",
  "11x-b111__b111hWc111xXc111ouc111yyd111gYg411aYg411r-i411zyE11uWG11vXG11foq411mct411ps_411Zwd",
  "111kyd1a22vk1qj122ol1tj1B2fl1Xk112fl1Yk113fl1yj1Xk113fl1yj1Yk112mk1tj112mk1uj112mk1yj112nk1y",
  "j112ok1yj112pk1yj112qk1yj112rk1yj112sk1yj122uk1yj112vk1yj112wk1yj112xk1yj112yk1yj122-k1yj122",
  "Wl1yj112Xl1yj122Zl1yj112al1yj122cl1yj112dl1yj112el1yj112fl1yj112gl1yj112rk1vj112nk1_j112xk1_",
  "j112al1_j1mmr12tgq3bhq312ugq3bhq313ugq3bhq3khq313ugq3bhq3lhq313ugq3bhq3mhq313ugq3bhq3nhq313u",
  "gq3bhq3ohq3t22vjq3bhq312wjq3bhq313vjq3bhq3khq313wjq3bhq3khq313vjq3bhq3lhq313wjq3bhq3lhq3Wof2",
  "1znJ11unJ11XoJ11YfW411WxJ11kzJ11xzJ11YWK11wZK11vaK11ddK11lcK11-aD11wnX411jgK11qgK11ahK11thK1",
  "1yeX411vbD11dhK11jiK11hgX411tiK11ajK11isJ11ijK11rjK11_ka511rlK11ZmK11_cD11xnK11coK11opK11tpK",
  "11reD11dsK11fsK11atK11wtK11buK11cuK11tuK11fwK11nwK11wwK11pxK11zxK11_xK11_xK11_xK11inY411mZS1",
  "1g-K11_-K11ZxY411h_K11n_K11cWL11-aL11uXL11eYL11eZL11YbL11sdL11meL11pgL11ZhL11aiL11aiL11viL11",
  "hjL11pjL11YkL11suL11cmL11tuL11noL11qpL11dmK11kdM11k-L11q_L11jWM11hyL11oXM11nXM11ibM11adb411o",
  "dM11tdM11ceM11weM11YfM11YhM11erb411gtb411ilM11xmM11dnM11ukM11cpM11ktD11ytD11euM11-vM11-vM11e",
  "kc411Z-M11u-M11d_M11p_M11uuc411__M11cWN11pwN11YXN11XyD11WZN11kZN11WcN11jaN11ald411ZgN11cld41",
  "1khN11hhN11yhN11XlN11YlN11lXE11zlN11enN11znN11fpN11YZE11Zie411yZE11mrN11prN11srN11gsN11oye51",
  "1-tN11nve411nve411XmW111YvN11YvN11dcE11uri411wku411YxN11hxN11ZdE11wyN11j-N11t-N11v_N11XaO11w",
  "fE11yeE11qaO11qsf411dcO11egO11igO11kgO11igO11whO11kiO11ojO11ajO11ljO11-kO11olO11slO11mmO11xm",
  "O11zoO11nrO11qsO11mwO11iug411zvO11ytO11exO11ZyO11a_O11n_g411YXP11b-O11fzO11knE11fZP11-ZP11za",
  "P11tZP11ipE11lgP11ihP11gWi411ZlP11utP11foP11vuE11nqP11euE11atE11oiK11riK11WuP11yqP11jbW111v-",
  "G11tuP11xuP11XvP11-wP11pwP11Z-i411fwE11w_P11byP11oYQ11baQ11jZj411kaQ11_WQ11qeQ11zyE11YgQ11Zj",
  "Q11glQ11erQ11Zrj411xsQ11uWF11XvQ11dbk411qwQ11kYF11oxQ11_yQ11wzQ11xzQ11jqk411hed411wtk411kYR1",
  "1ybl411_bR11jcR11dZR11seR11-fR11thR11XgR11fhR11uhR11biR11-el411qfR11lnR11kpR11pfF11hsR11dsR1",
  "1nsl411vlR11kxR11-wl411kyl411c-R11vXS11-WS11xWS11siF11gYS11zZS11tZS11jbS11bfX411bgS11Zpm411y",
  "iS11hzm411enS11rnS11moS11emn411WqS11rqS11rvn411qWo411wxS11hyS11irF11bzS11urF11urF11dYT11yYT1",
  "1nZT11baT11gcT11xuF11afT11sXp411-fT11oap411mhT11_ie411mmT11Xzp411uzp411aYq411y_F11eWG11qtT11",
  "pdq411odq411veq411pfq411-uT11_uT11_uT11gwT11vXG11hyT11cYG11saG11zWr411kYU11iaU11icU11ZdG11cn",
  "r411sgU11wqr411bsr411liU11hlU11lfG11WoU11goU11loU11yhs411drs411drs411ktU11YmG11hzs411c-U11f-",
  "U11dnG11Wat411ocV11WrG11edV11ZdV11WeV11cyt411ZhV11XuG11dkV11YmV11boV11qvG11enu411dou411vwG11",
  "vsu411wxV11-vu411ryV11w_V11bWW111wcv411Zfv411WZW111ejv411mZW111_wi411r-G11obW111ZeW111hWH11-",
  "fW111rrM11dzv411rzv411pyi411yyi411XmW111amW111-yZ111hZH11nqW111hqW111zqW111prK11nrW111prW111",
  "zrW111ctW111yvw411btW111zuW111ZxW111jzW111ZvW111zzW111d_W111tYX111pwW111g-W111i-W111y-W111sX",
  "x411hhx411rcx411hfH11ndX111pdX111seX111g-y411ahX111ivx411zgH11XhH11nzx411ocy411hhH11moX111yo",
  "X111dpX111fpX111frX111eqX111kuX111YtX111vxX111evX111hxX111cyX111tkH11X_X111XWY111vlH11WZY111",
  "ZZY111dpz411tcY111-cY111rnH11wdY111xbD11kb-411ch-411-rH11dsH11WrY111jtY111gyY111rYZ111eb_411",
  "hbZ111XcZ111xeZ111thZ111lv_411aWY411hkZ111yjZ111mlZ111-cY411qsZ111uvZ111okX511jlX511qaa111nd",
  "a111nea111kvX511xea111una111tsa111usa111ypa111v_a111rWb111w_Y511hib111riI11tjb111thZ511clI11",
  "Zsb111ojN11Zvb111bga511wma511kpI11spI11W_b111gWb511orI11sab511hWc111hWc111fXc111sjb511Ydc111",
  "pvI11ffc111djc111Ykc111-lc111k-I11mvc511ouc111WYd111zdd111kcJ11jdJ11dhd111kce511udJ11bee511k",
  "me511nqe511xrd111sgJ11vtd111-td111bud111lud111sud111xvd111Wmf5"]

/-- Runs of marks of one order: how far each begins after the end of the one before, its length, and
the order. -/
def orderNumbers : List String := [
  "WOLc701e704y601e701u605y602g604y602g60By605104y603c721c721m701c703y603c702y613c704y601c701e7",
  "02y601c701f702g701f702g701f70Dc7p85c7f81y604c701y603c701-601y606c706y602c701y602c701-601a701",
  "c701A01B01C01D01E01F01G01H01I02J01K01L01M11N11O01P11c701y611Ie28c701U01V01W1m11R01S01T01U01V",
  "01W101X101Y102c702y605c701y602c701y6G1Z1b37c724c701y601c722c711y602c701y6Z11a1U1c701y602c701",
  "y602c703y601c702y601c701y603c701y601c701y601c701y601c701y602c7W57c701y601c791y6O4c719c713c71",
  "5c7h13y6x12c703y604c7g15c705y60Ec711y602c701y602c701y603c703y601R01S01T03c701y602c702y605c7y",
  "117G1931c701y602c7d317G19m11c7z117G19k317G19k317G19_319k317G1971q201x2b317G19j329G19y319j32d",
  "3019D4h3i32s3019D4w3i22y6R1y611y611u6t11X401Y411a454Y421Y412c701912c7-11y6m317129o21y6lM3c7q",
  "T29U19z419A1c7h61a7l41-601c701y6x61c701y6d219K8c721y6m15c706y602c701y612y602c702y605c701y60I",
  "c701y626c701y604c701g7e217F19c11c701y607c7s129w117B29Z217u43c711105y602c704y601c717141y661c7",
  "32c7c62c701y607c701y602c701g701s601y601g60b1c701e702a701y601w601c701f701y601c701y6mM2c702104",
  "c703102c741c732101c701y601c702104y601c7-_23c7j419W3W1c7gH1w601a701e701-602W7f328qkT1c74Ac7W1",
  "2c7m22c7q819b119t419RIc7v13y6b119_217C19l71c712c701y622c752c711c7q119s719mvJ1QXO7c707y602c7j",
  "U1y6Y71y6r45c7oq11y611c7e11c701101y6419b51c701y6zH4c7X25c7z92c7j22y613y6c22y603c701y601c704y",
  "6n11c701y601c701y6W619f119E19v119017b23c7m129-117i219917g319017o517019m227G19O7c735c7v239n31",
  "9317N1c7Z319017x719017-319s319017p319j819017Y829417y419p219I19n219bD19Y817129n219fD29ilG19Wk",
  "251x17c7vb126ibJ11cc52u603131Y705u688y625c702y6U4c7q43c7xj37c71Hc727c712c715c7a31c7W57c7tB1c",
  "7z14c7yF2e701y601c7-71c701y6p71c721c772c751c7wE7y6j36c7017"]

end CaseScript.Unicode
