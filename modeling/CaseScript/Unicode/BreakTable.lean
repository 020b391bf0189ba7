/-!
# Unicode/BreakTable — the parts characters play where text is broken, packed

Edition 16 of the standard: breaks between characters as they are perceived, between words and
between sentences.
-/

namespace CaseScript.Unicode

/-- Parts in perceived characters. -/
def graphemeBreaks : List (List String × List String) := [
  (["cr"], ["D1"]),
  (["control", "cn"], ["0A121I_2X1D1kh11nl41y_1122O7n1Glqt11m7CqXDGWZY14lc58bqhOW1W3W4m7mm3"]),
  (["extend", "ex"], [
    "WOm3p87d8j111121211e2Bm1LG1b37262214Z11URx2Bw1991O4191315h13x19g1O1W1t1111484137A2T1w1111248",
    "191A2Q122v1142422331U231B2v11451241K2M611w1112148173A2U1x1111C191e1131t1113531472B2T1w112211",
    "331472B2S2v1211248191A2T1e2141231181n2127C8Y3129B7f22R11111t1E15125B1a191c34161222P243G4D122",
    "61F1_L3oT4S3T2U2W2217812B91j1311r32Y11s33429163x6221w11171111286A21m1Vn14m1A43c19C2W1426u111",
    "23115u1822u431D17416132c6W2iG1Z6X1-_23j41W3W1gH6f32qkT41AW12m22m813141P251t42QID1c18PB11i13m",
    "11242221a11Z262222C181l11p1113225211g1281k712141mvJ1XNGGGkB2zI1Y71r45cq131254e1341b52zH4X25z",
    "92l24c2Bn14x31s1Ff1122A3n142271z13a1518-11C2q19118421_23246121z4138L2v121111C191E735Z2126112",
    "1134311E2r282311N1n212611211212h71246212R2r282112g311128b31112415Z8912r71A441m442241W1Ae1624",
    "819623k1D12sC71611o2M271212w3631121711e223111xA2B2q1553N1bd516FecBC33Wk25x17uW11_14n21B2hbJ2",
    "Xp4k12N-G5368827U4q43xz1t14o181E1M51Fmg171H271215a31W57tB1z14yF4-72WN7j37mr25WXZOW3W4m7"]),
  (["l"], ["We4W3WWc1T"]),
  (["lf"], ["A1"]),
  (["lv"], [
    "WWh11R1R1R1R1R1R1R1R1R1R1R1R1R1R1R1R1R1R1R1R1R1R1R1R1R1R1R1R1R1R1R1R1R1R1R1R1R1R1R1R1R1R1R1R",
    "1R1R1R1R1R1R1R1R1R1R1R1R1R1R1R1R1R1R1R1R1R1R1R1R1R1R1R1R1R1R1R1R1R1R1R1R1R1R1R1R1R1R1R1R1R1R",
    "1R1R1R1R1R1R1R1R1R1R1R1R1R1R1R1R1R1R1R1R1R1R1R1R1R1R1R1R1R1R1R1R1R1R1R1R1R1R1R1R1R1R1R1R1R1R",
    "1R1R1R1R1R1R1R1R1R1R1R1R1R1R1R1R1R1R1R1R1R1R1R1R1R1R1R1R1R1R1R1R1R1R1R1R1R1R1R1R1R1R1R1R1R1R",
    "1R1R1R1R1R1R1R1R1R1R1R1R1R1R1R1R1R1R1R1R1R1R1R1R1R1R1R1R1R1R1R1R1R1R1R1R1R1R1R1R1R1R1R1R1R1R",
    "1R1R1R1R1R1R1R1R1R1R1R1R1R1R1R1R1R1R1R1R1R1R1R1R1R1R1R1R1R1R1R1R1R1R1R1R1R1R1R1R1R1R1R1R1R1R",
    "1R1R1R1R1R1R1R1R1R1R1R1R1R1R1R1R1R1R1R1R1R1R1R1R1R1R1R1R1R1R1R1R1R1R1R1R1R1R1R1R1R1R1R1R1R1R",
    "1R1R1R1R1R1R1R1R1R1R1R1R1R1R1R1R1R1R1R1R1R1R1R1R1R1R1R1R1R1R1R1R1R1R1R1R1R1R1R1R1R1R1R1R1R1R",
    "1R1R1R1R1R1R1R1R1R1R1R1R1R1R1R1R1R1R1R1R1R1R1R1R1R1R1R1R1R1R1R1R1"]),
  (["lvt"], [
    "XWh1R1R1R1R1R1R1R1R1R1R1R1R1R1R1R1R1R1R1R1R1R1R1R1R1R1R1R1R1R1R1R1R1R1R1R1R1R1R1R1R1R1R1R1R1",
    "R1R1R1R1R1R1R1R1R1R1R1R1R1R1R1R1R1R1R1R1R1R1R1R1R1R1R1R1R1R1R1R1R1R1R1R1R1R1R1R1R1R1R1R1R1R1",
    "R1R1R1R1R1R1R1R1R1R1R1R1R1R1R1R1R1R1R1R1R1R1R1R1R1R1R1R1R1R1R1R1R1R1R1R1R1R1R1R1R1R1R1R1R1R1",
    "R1R1R1R1R1R1R1R1R1R1R1R1R1R1R1R1R1R1R1R1R1R1R1R1R1R1R1R1R1R1R1R1R1R1R1R1R1R1R1R1R1R1R1R1R1R1",
    "R1R1R1R1R1R1R1R1R1R1R1R1R1R1R1R1R1R1R1R1R1R1R1R1R1R1R1R1R1R1R1R1R1R1R1R1R1R1R1R1R1R1R1R1R1R1",
    "R1R1R1R1R1R1R1R1R1R1R1R1R1R1R1R1R1R1R1R1R1R1R1R1R1R1R1R1R1R1R1R1R1R1R1R1R1R1R1R1R1R1R1R1R1R1",
    "R1R1R1R1R1R1R1R1R1R1R1R1R1R1R1R1R1R1R1R1R1R1R1R1R1R1R1R1R1R1R1R1R1R1R1R1R1R1R1R1R1R1R1R1R1R1",
    "R1R1R1R1R1R1R1R1R1R1R1R1R1R1R1R1R1R1R1R1R1R1R1R1R1R1R1R1R1R1R1R1R1R1R1R1R1R1R1R1R1R1R1R1R1R1",
    "R1R1R1R1R1R1R1R1R1R1R1R1R1R1R1R1R1R1R1R1R1R1R1R1R1R1R1R1R1R1R1R1R"]),
  (["prepend", "pp"], ["Wm16t61n11WC2m21hZ11kxW21F1q72jG1jh1111u71f26yL1xD1"]),
  (["regionalindicator", "ri"], ["cly3Q"]),
  (["spacingmark", "sm"], [
    "Ze21t11238412o12x126222s11w13Y21w138112r12y116222o31123313q13z14z12w112112k11E2x125313r12i22",
    "67J2_11_31g42_11n5192P2i11nv117812wA4234216W72w1111L6n41v14W21U142_112311r1882h51L1hvY1221u2",
    "2o1Gk41m11m124222l3222O1z412251j72121211pWP111_31j1342p31O2x11m1391E1z2332i53V2x11142222L2r2",
    "2F112d338231h3261121121k726421n338211j3112k3171b8391u75127111k438441q21T2-11tC1E1g317121r654",
    "211-A2C1m1282glG3an3t1"]),
  (["t"], ["ej4u2hkn1n1"]),
  (["v"], ["Wh4e2emn1Nyib1134"]),
  (["zwj"], ["jW81"])]

/-- Parts in words. -/
def wordBreaks : List (List String × List String) := [
  (["aletter", "le"], [
    "X2Q6Ql11A121115N1V1WF6Y1m351224116113111K1p21h48c51c124111f111e31i1h1Z121Z311F272A321F21UTv2",
    "B1OX192415M419131NP7B5O16Hg1w1s131I17AFG48222M17113431G1D213E2A186422M17121212V411J3G9131M17",
    "121531I1F2N1B8222M17121531U213F1H116331432111232333CM1q18131N1G31Q32122U148131N1A1531V212F2H",
    "9131f121G15383O65I3O191127v91_181a1R5p8c111512h11jA142711142f1142X1142711142F1v1142Z2b1GGs22",
    "63iJ2H1Q5h23B7IDJEIED13l5v2752Y1115c2AVX7Nk7l1H8s1UD2Ai1Qa1f13Aa12B5h123f141612315W6W2s8262c",
    "126281111111V2r11711331734264D5317q31D1GDb31412A1135611111141B245541Hf1jPq1su1b76432Cc111512",
    "u171GN9717171717171717m21rE1r12e6h11-2HW1WoRja1Z2k12j83GA2Kl1GV2m2Oc6221118LG13141NTq1Eo1-16",
    "3112BSANPT7l1S1m1f1N318q4B73C6262697171w16p3TazACN4n1au87C5u1Y3X1hBIW22s1e1Cq351d4a1Q6Qb2V36",
    "262623Z1C1Q1J121F2EY1x3b2r1h8T3n1l1W1DU5c1AU2a14815g1-4Ia14a14e18q1CB1F17121B1F17123q1Ct99MA",
    "8O61g119b26211i112312NAN9VX2J12AMAQc2u162W21F4131Tg1T3TZ181SRs1AMAJDIk3f2t1p1Dp1Da1c1S9Nw7g1",
    "62G3x1TA18Mg1Ik1LRNCr1v1221Dj1W1PQa1T1218Z131Cm1E4L111Z1I1PJ2_1711141F1A7l1c18222M17121531I1",
    "C5UA11211c111P111i1r1I4K3Um1K211u5l1f14a1m1K1x1h1D1dAi1q3W2V82128121OF111-282d1G111S1Ae171L1",
    "Bk1J1If2d6X1V91b1H1n1Um37121c1L1P6121W1E1dAJF11D1Y1y31l2wSc3l3Ha6io2X3FmX1H6Pxy35dIvr6UYt1vH",
    "7VHl2HUIm1G4VL5JmDj1p6W2W4h251Y2DW2211yWJh35D397Acx5r21d2122122241C11171X21428171S141511371q",
    "A2P1P1V1P1V1P1V1P1V1P18qv1V66b8-1o4j1A7G1XAUIi1aFSa7U21lF714121F1b6x1a271qb141R1211211A14111",
    "1614111111312112111111111121124171414111A1H53151HqJQ6Q6Q"]),
  (["cr"], ["D1"]),
  (["doublequote", "dq"], ["Y11"]),
  (["extend"], [
    "WOm3p87d8j111121211e2Bm1LG1b37262214Z11URx2Bw1991O4191315h13x19g1O1X1s131I17A2T3u1117222391A",
    "2Q123u1115422331U231B3u11181313K2M613u1117222373A2U1x15331491e15t1117131472B2T3u1117131472B2",
    "F1C4t1217131491A2T3c21461118I2z1127C8Y3129B7f22R1111142n1K125B1a191a3KN443132734DC11A4_L3oT4",
    "S3T2U2W2W191j1311r32Y11s3C4Cx65v1A1T21m1Vn15l1Hc19C3UDu1Em1Ku431L416123c6W2iG1Z6X1-_23j41W3W",
    "1gH6f32qkT41AW12m22m813141N541p22o1IQID1c18PDi14l1Ea11Z2EC182j13o1113225211f1552i7812mvJ1XNG",
    "GGkB2zI1Y71r45cq131254e1341b52zH4X25z92l24c2Bn14w33r1Ff1122A4j1B71z13a1EG2i11C3m1E8412y2C612",
    "1z4CL4t1217222391A22735Z291121141511E2o2IN1n2Kh7729R2o2Hg3Db3FW8Fr7612241112j472731SAe171481",
    "9Bk1GrC818o2M1Ew3631121711Y251215xA49211m1735N1bd516FecBIWk25x17uW111t174n21B2hbJ2Xp4k12N-G5",
    "368827U4q43xz1t14o181E1M51Fmg171H271215a31W57tB1z14yF4-72WN7j37mr25WXZOW3W4m7"]),
  (["extendnumlet", "ex"], ["_21l-71F2J1-kt12O3l71"]),
  (["format", "fo"], ["j51kh11nl41__12Q5n151Alqt11v73qXDGWZY14lc58cqhO1"]),
  (["hebrewletter", "hl"], ["mk1R44gfz111A1D151112121A"]),
  (["katakana", "ka"], ["nXC5b323x214m7Gm6l11u2kWp1u1oYi14171211_83o11E4"]),
  (["lf"], ["A1"]),
  (["midletter", "ml"], ["w11y31lM1tE1q41on61hlt11X21a61"]),
  (["midnum", "mn"], ["i11E1YQ1gG1Y42-21hC1hY61hkt1131x1131t51E1"]),
  (["midnumlet", "mb"], ["k11f_72A1jnt11q5161"]),
  (["newline", "nl"], ["B2u31Yz72"]),
  (["numeric", "nu"], [
    "m1Ack16w2A11n31IAc6Ac62m21Z4As3As3As3As3As3As3As3As3As3AW3As3Ac2As8Ac2Acw1Ac1Ai9AW4Bb5A6As5A",
    "s2Ac4A6AckY1AcLAc1Ac6AMAs2AsCAsuKAci1Aca2A6AyOAj21F1Y1Ay1Am4As8AsAAs3AsBAc3A6Ki2AcDAc3AsKAs2",
    "As7Ac2AcDAskGAcf2As2Ac4AsGAsxNAqs2o1Wg2AcDAsFAt7ArQAsq4A"]),
  (["regionalindicator", "ri"], ["cly3Q"]),
  (["singlequote", "sq"], ["d11"]),
  (["wsegspace"], ["W11_o51_h2713q21Wz31"]),
  (["zwj"], ["jW81"])]

/-- Parts in sentences. -/
def sentenceBreaks : List (List String × List String) := [
  (["aterm", "at"], ["k11r_71jnt11x51"]),
  (["cr"], ["D1"]),
  (["close", "cl"], [
    "Y1143n1111T111j11F1-p34zw12xh28P2A2s12E2vJ4T2mX167El22VApCM_14W12YW1EE22AO1I8hDA2813-ep12t62",
    "SG22G6f52n1111T1111212ouz13"]),
  (["extend", "ex"], [
    "WOm3p87d8j111121211e2Bm1LG1b37262214Z11URx2Bw1991O4191315h13x19g1O1X1s131I17A2T3u1117222391A",
    "2Q123u1115422331U231B3u11181313K2M613u1117222373A2U1x15331491e15t1117131472B2T3u1117131472B2",
    "F1C4t1217131491A2T3c21461118I2z1127C8Y3129B7f22R1111142n1K125B1a191a3KN443132734DC11A4_L3oT4",
    "S3T2U2W2W191j1311r32Y11s3C4Cx65v1A1T21m1Vn15l1Hc19C3UDu1Em1Ku431L416123c6W2iG2Y6X1-_23j41W3W",
    "1gH6f32qkT41AW12m22m813141N541p22o1IQID1c18PDi14l1Ea11Z2EC182j13o1113225211f1552i7812mvJ1XNG",
    "GGkB2zI1Y71r45cq131254e1341b52zH4X25z92l24c2Bn14w33r1Ff1122A4j1B71z13a1EG2i11C3m1E8412y2C612",
    "1z4CL4t1217222391A22735Z291121141511E2o2IN1n2Kh7729R2o2Hg3Db3FW8Fr7612241112j472731SAe171481",
    "9Bk1GrC818o2M1Ew3631121711Y251215xA49211m1735N1bd516FecBIWk25x17uW111t174n21B2hbJ2Xp4k12N-G5",
    "368827U4q43xz1t14o181E1M51Fmg171H271215a31W57tB1z14yF4-72WN7j37rsbOW3W4m7"]),
  (["format", "fo"], ["j51kh11o71-d41y_1122Q5n151Alqt11v73qXDGWZY14lc58cqhO1"]),
  (["lf"], ["A1"]),
  (["lower", "lo"], [
    "X3Ql11A141a1O1811111111111111111111111111111111111111111111111111111112111111111111111211111",
    "11111111111111111111111111111111111111111211113211121324121332121111121121121311122236121211",
    "11111111111111211111111111111111221113111111111111111111111111111111111111111111111111111111",
    "11117212211411111111b21a172U5i41113124I1RZ11233111111111111111111111115112122p1m111111111111",
    "11111111111111111111111911111111111111111111111111111111111111111111111111111211111111111121",
    "11111111111111111111111111111111111111111111111111111111111111111111111111111111111111111111",
    "111m1f1px21xN6Ya2911r3W6X2111111111111111111111111111111111111111111111111111111111111111111",
    "11111111111111111111111111111111111111111111111111111111111111111111111111111111119111111111",
    "1111111111111111111111111111111111111111111111111111111111111111111111111111111111111111986A",
    "88886A8888E2888888512613312842288A312v31D1GDj313231R14141228441X1G41hQQcw1m11132111111411218",
    "31111111111111111111111111111111111111111111111111111111111111111111111111111111111111111111",
    "11111112711141Cc11151peU111111111111111111111111111111111111111111111J1111111111111111111111",
    "11113b411111111111131111111111111111111111111111111111111111111111111111111111111A1111211111",
    "11114111211311111111111111111111515111111111111111411121311111111111M31113rPh11E6m2WwJ7C5fX1",
    "Qjc1e1e4a1x4B1F1712ZE1231g119be1p1z3Mwv2W1WiLW1wiPQQ71IQQQ411171BQQQQQQQQQQQQQQQQQSSP16QP16Q",
    "P16QP16QP1611qv1A1K66b8-1qb2Y1"]),
  (["numeric", "nu"], [
    "m1Ack16w2A12m31IAc6Ac62m21Z4As3As3As3As3As3As3As3As3As3AW3As3Ac2As8Ac2Acw1Ac1Ai9AW4Bb5A6As5A",
    "s2Ac4A6AckY1AcLAc1Ac6AMAs2AsCAsuKAci1Aca2A6AyOAj21F1Y1Ay1Am4As8AsAAs3AsBAc3A6Ki2AcDAc3AsKAs2",
    "As7Ac2AcDAskGAcf2As2Ac4AsGAsxNAqs2o1Wg2AcDAsFAt7ArQAsq4A"]),
  (["oletter", "le"], [
    "xD144m61a176CQ111b41aF1s3R45i1h1Z121Z311F272A321G11UTv2B1OX192415M419131NP7B5O16Hg1w1s131I17",
    "AFG48222M17113431G1D213E2A186422M17121212V411J3G9131M17121531I1F2N1B8222M17121531U213F1H1163",
    "31432111232333CM1q18131N1G31Q32122U148131N1A1531V212F2H9131f121G15383O65I3O191127w1m112C7w12",
    "11151O111A12912511L4W11_181a1R5p3h1K1G6443132734DC1X2h12iA142711142f1142X1142711142F1v1142Z2",
    "b1Gn3iJ2H1Q5h23B7IDJEIED13Fq1Z1141Z2v2752Y1115c2AVn1U25Bi14Qs1N9r1o21z2l1H8s1UD2Ai1Qa1f13Aa1",
    "Ih123f14161231wX14d2324dz2u171GN9717171717171717m21rE3P975254s2631w2145h11-2HW1m1GWGWk6W2jqL",
    "Z2k12j83GA2Y21G1W1m2d19e3161d313713141NTq1Eo1-163112BSANPT7l1S1G51AA51f1N318KN313o1113225211",
    "1O32B73C626269717n4Z1TazACN4n1ae8kB2g3Z211A1D151112121i3X1hBIW22s1e1Cq351d4f3u12V36262623Z1C",
    "1Q1J121F2EY1x3b2r1h8T3n1l1W1DU5c1AU2a14815w3k2Y3e18q1y2q1Ct99MA8P2z36211i112312NAN9VX2J12AMA",
    "Qc2u162W21F4131Tg1T3TZ181SRs1AMAJDIk3f2t5a1c16V1m8g162G3x1TA18Mg1Ik1LRNCr1v1221Dj1W1PQa1T121",
    "8Z131Cm1E4L111Z1I1PJ2_1711141F1A7l1c18222M17121531I1C5UA11211c111P111i1r1I4K3Um1K211u5l1f14a",
    "1m1K1x1h1D1d2Rb17v5i1p682128121OF111-282d1G111S1Ae171L1Bk1J1If2d6X1V91b1H1n1Um37121c1L1P6121",
    "W1E1dAJF11D1Y1y31l2wSc3l3Ha6io2X3FmX1H6Pxy35dIvr6UYt1vH7VHl2HUIm1G4VL5JmDj1pCh251Y2DW2211Su_",
    "58sc1f1Adt8417121Z9F1T321E48iCae2h35D397Amp81rFj1A7G1XAUIi1aFSa7U21lF714121F1b6c41qb141R1211",
    "211A141111614111111312112111111111121124171414111A1H53151Hag4Wtf1W1wX46-62Yq5Enf7FkJYj2-GYl1",
    "hw45WZ4"]),
  (["scontinue", "sc"], ["i12C2YQ1-E1k52gF1fW4151gW22i_31kmp1212S2T22221A1e52C2e21"]),
  (["sterm", "st"], [
    "X11T1fg11p43q51h13s71z111132b92at12sO142bO1c62z42j1151w92YB4Y52A222T3x52X22yT293lb33o91D1M2j",
    "D1ydT1k82Z7131-B2s22_21u42p43m42v71cnK122_12f51T1X21qt22zd15i14z52r34_33X4261G2u2212i31g92r3",
    "2rB25Ff32v73bG111x72t22aD2qL2g22fvI2b41X22B1fH2e91cmJ1el71"]),
  (["sep", "se"], ["b41Yz72"]),
  (["sp"], ["9112J1_31_k51_h2Ba11l11Wz31"]),
  (["upper", "up"], [
    "X2Qb3N17X11111111111111111111111111111111111111111111111111111111211111111111111121111111111",
    "11111111111111111111111111111111111121111321112132412133212111112112112131112317212121111111",
    "11111111121111111111111111122111311111111111111111111111111111111111111111111111111111111117",
    "212211411111111X91113181611311121H19Z11233111111111111111111111115121122p1m11111111111111111",
    "11111111111111111911111111111111111111111111111111111111111111111111111121111111111112111111",
    "111111111111111111111111111111111111111111111111111111111111111111111111111111111111111112c1",
    "fw2c11151oMs2pa21sB1111111111111111111111111111111111111111111111111111111111111111111111111",
    "11111111111111111111111111111111111111111111111111111111111111111111111111119111111111111111",
    "11111111111111111111111111111111111111111111111111111111111111111111111111111111119886A88886",
    "B111111188O8888885B5B4C5B5b8141332321356111111424A251QGJ1oPQmv1m1m11132111111411218311111111",
    "11111111111111111111111111111111111111111111111111111111111111111111111111111111111111111181",
    "1141jgU111111111111111111111111111111111111111111111J111111111111111111111111111d41111111111",
    "11131111111111111111111111111111111111111111111111111111111111111A11112111111114111211131111",
    "1111111111111111515111111111111111411123151111111O1hvLQbc1e1e4a1y4B1F1712gt1p1z4Mwv2W1WiLW1W",
    "jPQQQQQQ11221222418QQQ2142817R214151137RQQQQQQQQQQQUPX1PX1PX1PX1PX11rf4Y1kW2Q6Q6Q"])]

end CaseScript.Unicode
