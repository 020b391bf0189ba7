/-!
# Unicode/AgeTable — when characters were added, packed

For each edition of the standard up to 16, oldest first, stand its names and the runs of what it
added.
-/

namespace CaseScript.Unicode

/-- What each edition added. -/
def ages : List (List String × List String) := [
  (["v11", "1.1"], [
    "0sF4Uu1v27l11AMc2Q2I2413157111K1i117311111111IDC1Y21C1f19r122223S2822t1c1271d111c1A19CR55N1E",
    "1311Q5JDE2e2251F1U2AdG31r12I253PG318222M171134211722239142152L7126422M1712121221154223B4117F",
    "C31711131M1712152A131321F15AH318222M1712242832238242134BH21633143211123233381345331491FCE318",
    "131N1A1547131472924AI218131N1A154713147271124AI218131N1G46231491824An4w14Tb12112211216417131",
    "111221D132511162A22YEc1Ad1414w25a25o2cW3x45w26M262c126281111111V2r11F1E261J23191l11NZ173RHBb",
    "1IUv1Qm1Dx2Lo7E11v3b4b1RBLh4Ls4Am2GK6s2n44142S1Z11114311727EV3O1EXY2u1711q2462-26e14-21GW3T3",
    "a1SS3o1FC4l11t34Z32VXm6cjKwYGkn6o67C56P151112121i3X1jBGW22s1e1Ca14CL4A1J1443111d4211-22-2362",
    "626233717E3"]),
  (["v20", "2.0"], [
    "ni1H1DK1xf2e21X17R46111L3711Xt31lG1qwY1azAwYg22-__12-__12-__12-__12-__12-__12-__12-__12-__12",
    "-__12-__12-__12-__1YWW4"]),
  (["v21", "2.1"], ["ib81lwt11"]),
  (["v30", "3.0"], [
    "sF4U82Ir35n11A5t29J1q3131111111U1C1Y21C1g1224y22y41e63Y3251F1g151E1U3Rr1n1nk121I3O1911273146",
    "1118I3rB1h11N371131F21m1Y1151217346QcD71_111142711142d111142V111427111427171N1V1114271d11J6S",
    "Z1r2CsJ9T3n2l4z23AMF1A6u28g1by11O6_23o12r22e21d39j81v311Ug42fE8X11s22kCW8Wi1Q1v2Cs6QCy1331XB",
    "OeIsj6goKja13I2G1C1311soL1xc13"]),
  (["v31", "3.1"], [
    "qV2wk-1W1me1V14CRr5c12c1ozo1s7Ad13q5YHr21d2122122241C1114121X21428171S141511371oA4Y94o1WWAts",
    "f1ffK-GZlXM1UW3"]),
  (["v32", "3.2"], [
    "WH1k91JDe32S1p42v122222n1G-A2XA1bg22dm1D17BN9KCD1312pc21654175D1-12o17o2Fe5Co7Ey31Uq1y8Kt4Au",
    "28M2w2C2A-6Ew2S4GW8WGxf13t2282-21m7Gn2Fn2FYlS2G1C131ghLx1nS13Gr12i11h72"]),
  (["v40", "4.0"], [
    "XH1I3t32_1Hm2853t45aG499W23r42F1j13T3qD1u51Z2111e41q23D1Z21x11X48X62_u21IAc8T3C4C413g125h3W1",
    "WOi3dN2c71pK2k91q82q38E2-Y1Elu12n11h12k24d54Z32V1Wk6W2z_h11f22tDC1Q1J121F2EY1x3534j139WIU11c",
    "42c1m22AsQ6211i1123121Wso1t2gB1-XhOm7"]),
  (["v41", "4.1"], [
    "tHBs85_44s72g51Y13Z21I1w16n7UlG1m21dF1l11fV2d9211g81_11_11d11V1V1V1F1d11N2VQcl1g16Q6A42W1S22",
    "iQu2nK217n15T4r11m21F1aKByH1b32IB5Gk87dQ6i7l11l1X1h3Ej1As191GN9717171717171717X1O42YTGk51dfR",
    "Maw1Nf7i1aoKg3sPAcPh2rGa14Egn141258131R434989dzn1c2-Y12"]),
  (["v50", "5.0"], [
    "YIEh93nA1g16G4c51bGx1WC212YR2D2jm3i24j1dI7p12iN4z22r11tICgM1q84fQ754y9D74_qU452-8u1eaOQ51Wt5",
    "lRn4Z3D4ith1IuY12"]),
  (["v51", "5.1"], [
    "mR422t21t51i4GY75B5W15k9InF2-61Z11k61T2i31i31Q282K8z5161T2C637hF2X3133j2151217346QW242gW21rM",
    "h13Cc2u13F3p1hASr54w26aB1h41-21r14qe11LA34e81V4hP54f135u831346YBW1O42JyN1Y5KukR8yf1i9KW12I8S",
    "Z452h3k35W4b29Cc1q2B1W5t19E2A24a-K3fRCq1k1Y4T3n1lo1Q51f_n11ss7i14a3"]),
  (["v52", "5.2"], [
    "af12wMk12FX61j2161Z12W41vk14X64y55a25o26WG1sJ9mHc2q52k11b2_11T2B6A6EYHZ1g81uL3t43s11-I1rL2T3",
    "4A1J114Ot21zV5s81D2h37_91oW1CqhR8ae1m1WDu2u9Ac5Sa3T3k21B42W4S4Z2O5W7k12AszAN4n1lp83ok3M19w52",
    "aAW1W4s13T2R58W4f2tGVXGY2-v7lX1ncl1B5V21B1112131358171P11221A421l31FY1E9tbj1rX4"]),
  (["v60", "6.0"], [
    "cf12u71-11WFS21x62J162R5wF6nD1G1J1zH4f22YS2XZ2q184yF1uK8S1lPBwM1J114T142S1Z11114392q13O1E1E2",
    "Wj11E1uX13bbT2h9212EAm21cO626269717ZaKG-X5k24UmyLvHdkH2-aGF2E2F1Fm211B1112131358171A6911221A",
    "421Ah2Q12l19L2k5X1F61c23KCb115LHF_1111s5143-1IOp451G1311111113162411241C4Bm1c2w1q3i-l1-6"]),
  (["v61", "6.1"], [
    "li11q31xK11Bt1RnF1jV2dF151l13hr23C6W88h14qs2111af12p1151u12g6AmiS1dr18Z11o72M1j22cNNtvJ2mw3u",
    "162mu1P7A6r11Ey1f27Acb1u18AsXMb2Bl1GHWpV41R1211211A14111161411111131211211111111112112417141",
    "4111A1H53151Hq12uJ2qU4y51G1311111113162411241"]),
  (["v62", "6.2"], ["wb81"]),
  (["v63", "6.3"], ["ym11fo64"]),
  (["v70", "7.0"], [
    "_R1eD8z22s31xK1B6i21u3171_J1p11i21_31a7AXe28aH2nCFvH2j7FbM3sP7bO1iY13AQ2W12Y13C18gJ7rYU6s7CB",
    "322b21eFVz34m5m142XsK7zQ2J1_9SZ11m1h1bCe18q1B1m4t99MA8u7_189mEW1W1d14Cf4I74C7lc11m6d1s21C16K",
    "BI1h1o3x15A7318222M17121529222391572735h8e28Ac5s12Is1b2BAcIp2C1WEv1sZ2g1g6C51hkHV1A42W3U26Ac",
    "2AA171L5JmZKh35D397A28ywAb62Ge_11W1ML2qGC91c21MCb11545CH7d2111s5142_1247TI1f11s2c22Dm1c2AGD3",
    "4i4r2h1C4u18A6e18U"]),
  (["v80", "8.0"], [
    "pb22k11rG1WB1a81rq1126Wc31h62Wp24z-S9es11m71Y16aA2YJ4Cm2kpK2mr2J1255y522G2k1WKp1Dp176fc14E5W",
    "5711141F1Bs21l21vJKY9Q3F4GvY31c7a6yr7dItyY1Btm1iKF51FzZ63k22l25a18_71h25p72h41_H9d35x11_ol1Y",
    "q5"]),
  (["v90", "9.0"], [
    "sb28MFzS1k614317N3du39oB1_l14ao22fhU1s81dcM2XPa14a1Yg31XEw21111YGDpi191j11EAT3W12M1EfvK1Vj_5",
    "JpNjeL71H271215rc2h25A42xX2Ik41-P1f11i92X13YH618812C1C4Fc1D"]),
  (["v100", "10.0"], [
    "WZ2BnC2y76WG1w12wz31-74bM1_P1o-11oJ5aN1drRLYwO3ms5e28q12N15zI7121i13112198AdqK1WXGz8n2iCaxF6",
    "jZ12Y12dGCJ18812P1IDc16u1Nfcr1nf7"]),
  (["v110", "11.0"], [
    "Wh11d11c31jG3p61g91t31jC1_31p_21tW1h123wt33MP4FhI5WN1xrR5_z1182aA2qfO2I1tLe18AcEe18g1pB1s33q",
    "F1Y91xL1b7y1XJ1YM6121b112167As9PdwJx2og65ktIK-37ud6a2wZ11fk11x64qB3S5243114OBDA72a1PW3E"]),
  (["v120", "12.0"], [
    "tZ31kG121211641717221D1_n31ks31r11lI1ghU625_S2uZPNeZ11uI1dN82k12B_42wf1o1D1mX59iuE641l19w22k",
    "W66ugA3H4uyBj13E2A42mBw151ho11rTz1kX11eh11a11b7CX93l11n1191f1632A63823m1q2S44353D6"]),
  (["v121", "12.1"], ["_tC1"]),
  (["v130", "13.0"], [
    "-b2AjK1kD1y31zf32sc41uL3eR5s_6AmnKDg-14g12r11xP4mnL1Zd3g11322-7SxB1c42gK152-a172128121U122C9",
    "Aso11pXK1B2Xu6ZFg19aWP3z23z11ef12Z12pD2w21b3142g1263T1e51E4FJ7793D7f1p41t1b1Azsg17YfMhw4"]),
  (["v140", "14.0"], [
    "zm11oIV1268L1IBfR1W11_31ln217191l71nLEz31m12xJ1bM1kx21l11pFB_iS3W-12E21115O3j-K1zBG_31k12mx1",
    "B1F17121B1F1712ZE61g119rz1Qc76i21sl11c47fRGmc5Z3zpEl21AcfH41712W94zk7k12N9q3bH2re3VnRVnf1714",
    "121F-s33m81eC1o21k52i14A483H36887d_g12rY44"]),
  (["v150", "15.0"], [
    "pd31wE1kXW23_P3-b2AsVH1f13Src519TycV1Y11gh8KnY36b8-1X11WY1g1Yl41t4345v21xK3F2a13B311E2A2C1E2",
    "WYl11sWNWZ4"]),
  (["v151", "15.1"], ["y_B4lF1Wmk5kJ"]),
  (["v160", "16.0"], [
    "ta21sr42l11f82yy13wj32blT3C3ZlNq1iw1c13T82o93t11Za1A11211c11A1121141A1282jNKyc1Y1EAWR1be5xy3",
    "be7w1cW3w1by71WuFw76qDyu5h141or4A42dE151k1171L12191X7b1"])]

end CaseScript.Unicode
