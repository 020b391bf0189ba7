import CaseScript.Unicode.Spans

/-!
# Unicode/TextTable — what texts are taken for, packed

Edition 17 of the standard, by which the case, the letters and the printing of texts go.
-/

namespace CaseScript.Unicode

/-- Characters with case. -/
def casedSet : Spans := .unpack [
  "X2Q6Ql11A1415N1V1Z6144m62Z172U5W31g142224116113111K1p21h48c51c19f1tu2c111512h114WLs226Ya2B5h",
  "123W2W6W2s8262c126281111111V2r11711331734264D5317q31D1GDb31412A1135611111141641245541HW132nP",
  "q1su1b76432Cc11151oeUk1IUa4c3341j2K613rPh11E6m2WwJ7C5fW1Q6Qbb1m2W3a14a1q3B1F17121B1F1712ZE12",
  "31g119bc1p1Dp1z2MAMwu2W2WhLW2W1P2PifPr21d2122122241C11171X21428171S141511371qA2P1P1V1P1V1P1V",
  "1P1V1P18qv1A1K66b8-1oa2a2i_1Q6Q6Q"]

/-- Characters that are looked through when the end of a word is sought. -/
def caseIgnorableSet : Spans := .unpack [
  "d1161B1Z1111d2141114122tFW642419211x77l6151n1j111121211i11B6AB11Z11ALG1b381A14X1111URx2Bw1B4",
  "121OOh13i117259f1w1t1111484137A2D1F1w114481K2Q122v1142422331U231B2v11451241K2M611w1121148172",
  "B2U1z11C1o1131t1113531472B2T1w11216152K2S2v124481K2T1e217311w2127B9Y31299117f22R11111t1E1512",
  "5B1a191c34161222P243G4D12261F1-21WJ3oT3T2U2U2W2217812B3151j15p11X22Y11s33429163x6221w1117111",
  "1286A21d118k12CK4m11151151e19C2W142213u11123113w1822W26o231D17416132o1_1D1Y1b3zD113B3D3D3D2C",
  "582A12125n151A11D1GDp1X1hy22n33z31F1W3W1l11rE1a143551z26z23suR1Yd16k81Y341A11S4m22EY1k21N3c3",
  "432813141P251t42QID1c18PBk13m112422H1L2Y262222C181Z11B1p1113225211R1E25211a3593v312141mvJ1p4",
  "HzHG31CGY1121f517161B1Z1111l11j12Z21L3XG1Y71r45bW161g119cI31254e1341b52zH4c11Q511x92O1q16c2B",
  "n14x31s1Ff1122A3n14222141A1o13a1518-11C2q19A421_2321126121z4138L2v1231b1735c26D11111E2r28231",
  "1N1q26114212k746212R2r282112g31112611b31112415Z8912W821141m442241W1Ae1624819623k1D12c611311f",
  "671611o2M271212w3631121711e223111X21v82B2q155111N1rc5H6FecBC33Wk25x1794yF3e12YF1_1HW2212D2y_",
  "F41712-a3214yo4k12NWH39G27U4q43xz1t14o181E1M51Fmg171H2712155-1X11W5EmB1z14xF5-72p7121725191m",
  "E7j38lr25XWZO1UW3W4m7"]

/-- Letters, and marks that act as letters. -/
def alphabeticSet : Spans := .unpack [
  "X2Q6Ql11A1415N1V1gE4CE57111s21TI1224116113111K1p21h48c51c1216f1d1E111212118R44TB5u117Ec31848",
  "43A321Gm1Db3OX192415O2JJP7B5O17718g1AC376i21G134FDJ18222M17113438222211814215C2A14316422M171",
  "21212454222417411H6B319131M17121539131231F4L44318222M171215382222924215D1G216331432111232333",
  "C4533133161e1D131N1G38131382131224S418131N1A15381313825314D3CD131f1281313115475M6131I3O19112",
  "7861118I2Dw15761p1211151O111J13251161E4W11_181a14J4G1a1Z2t11125GW2A42c111512h11jA142711142f1",
  "142X1142711142F1v1142Z2b1GGs2263iJ2H1Q5h23B7KBLCKCD1312Cq12JE141Z2v27h15c2AV1C49NU25Bi14Qs1S",
  "4_12Ko11N2B3n1q11F18p1g124Ai11BEt1M3Aa12B5h123f141612315W6JY1Bs8262c126281111111V2r117113317",
  "34264D5317q31D1GDb31412A1135611111141B245541Hf1jPq1su1b76432Cc111512u171GN97171717171717171W",
  "1l11rE3P975254s2631w2145h11-2HW1m1GWGWk6W2jqLZ2k12j83GA2Kl1583n3d192d32o2KL1X1Oq1Ca211i16311",
  "3AX15Z1DT3p11CF1GGA51t19EIN3b21111O32G24B6262697171h11E6x3LazACN4n1ae8kB2g3c17C55C1D15111212",
  "1i3X1hBIW22s1e1Cq351d4a1Q6QBv236262623Z1C1Q1J121F2EY1x3b2r1h8T3n1l1W1DU5h15U2a14815g1-4Ia14a",
  "14e18q1CB1F17121B1F17123q1Ct99MA8O61g119b26211i112312NAN9VX2J12AMAQ6Qc1u162W241258131Tg1T3TZ",
  "181SRs1AMAJDIk3f2t1p1Dp1De1Y1S315Nw7g11232G6o133TA18Mg1Ik1LRN9c2h15Av191DPNp1H48Z1319W21492A",
  "111Z1I1Y12164-1711141F1A7v1N418222M171215382222316157SA11211c11A112114123111i1Y21314K3UY2221",
  "1u5s127P6Y1_11131x1s121d2R2EL7v5v1d3W2V82128121U122224z282k1261112Rp12AHe251If2d38u2X1V91j11",
  "711n1U2M1Ef27121i13112131122O6121b1121411Ni1a8N9H1f133l31l2wSc3l3Ha6io2X3FmX1H6Pxy35dIvr6l1n",
  "s1vH7VHl2HUIm1G4VL5JmDj1p6W2W1P2Pi1h24v17HW2211C79sc7f1W1X3p3zl8417121Z9F1T321E48iCae2h35D39",
  "7A41Xx5r21d2122122241C11171X21428171S141511371qA2P1P1V1P1V1P1V1P1V1P18qv1V66r671H2712155-1X1",
  "1m3j1A7G1XAUIi1aFSa7U21l6V1M82W7714121F1b6x1a23131qb141R1211211A1411116141111113121121111111",
  "11121124171414111A1H53151HqJQ6Q6Qsp3Wtf1W1-e42kq52nf7FkJYj2-GYl1hw45gf8"]

/-- Digits and other characters that stand for numbers. -/
def numericSet : Spans := .unpack [
  "m1Au325123Xj1Ac4Ac6AyCAs3A46i3As3As3A26k3Dp3A87d3Ae377Jj3AW3As3Ac2Ki8Ac2AlMKnR3l7A6AMAi9AW4B",
  "b5A6As5As2Ac4A6AsW11366Ac6p125sMy1k2MsJUfh11fO1P9E3tA4g4AU81FW1Ad1FWxSAy5AWA6w4Ac1Ac6AMAs2As",
  "CAsuKAjFj1Cv1H2rARa14T181c45g6AkT8P7d19h25M6W522G2k1W29q12U3h25e38O8f17gA6m1A6As8V-4Ag14m37c",
  "4UW4Ay1Am4A7Kx7AsAAs3AsBAc3A6Ki2CaDJz2AsKAs2TZ7Ac2As1AcBAc3LhX1l3XcFAcf2As2Ac4A17kGAc8NzA3vd",
  "NAck1KCKi3PrY1o1Wg2AcDAsFAt7AiM9W4AtOx11314i2j11FYUDZt2A"]

/-- Characters that merge with the one before them. -/
def extenderSet : Spans := .unpack [
  "WOm3p87d8j111121211e2Bm1LG1b37262214Z11URx2Bw1991O4191315h13x19g1O1W1t1111484137A2T1w1111248",
  "191A2Q122v1142422331U231B2v11451241K2M611w1112148173A2U1x1111C191e1131t1113531472B2T1w112211",
  "331472B2S2v1211248191A2T1e2141231181n2127C8Y3129B7f22R11111t1E15125B1a191c34161222P243G4D122",
  "61F1_L3oT4S3T2U2W2217812B91j1311r32Y11s33429163x6221w11171111286A21m1k12CK4m1A43c19C2W1426u1",
  "1123115u1822u431D17416132c6W2iG1Z6X1-_23j41W3W1gH6f32qkT41AW12m22m813141P251t42QID1c18PB11i1",
  "3m11242221a11Z262222C181l11p1113225211g1281k712141mvJ1XNGGGkB2zI1Y71r45cq131254e1341b52zH4X2",
  "5z92j26c2Bn14x31s1Ff1122A3n142271z13a1518-11C2q19118421_23246121z4138L2v121111C191E735Z21261",
  "121134311E2r282311N1n212611211212h71246212R2r282112g311128b31112415Z8912r71A441m442241W1Ae16",
  "24819623k1D12c611311f671611o2M271212w3631121711e223111xA2B2q1553N1bd516FecBC33Wk25x17uW11_14",
  "n21B2hbJ2Xp4k12N-G5368827U4q43xz1t14o181E1M51Fmg171H271215a31W57tB1z14yF4-72p71217251wE7j37r",
  "sbOW3W4m7"]

/-- Characters that print as themselves. -/
def printableSet : Spans := .unpack [
  "W1_2Y1C1XL1e12647111K1jC1c12o1231t18R46HM1W61m12x12b3Ex12n12F1S211B5W17h21X518222M1711342922",
  "248142152P2316422M17121212211542233174117HA319131M1712152A131321F42C771318222M17121529222373",
  "42152IA216331432111232333C4533142161EL5D131N1G291314721312242A7M131N1A152913147253142A13CD13",
  "1p113164G2Q131I3O191127314611186A23Cw14Tb1211151O111N2511171A24W1e21a14d11a11F1Db1c611512l42",
  "e7142711142f1142X1142711142F1v1142Z22W13Q6s2262WK1S3v27M9O9KCD1312Cq12e12A6A6B5A6v27h15c2AV1",
  "C4C413g125Bi14Q6B3-12X21T2B6A6E2k12CKj21c58y13F3-15h12B8h15sG262c126281111111V2r11F1E261J231",
  "9HO8l1H22R1D3Y1EX1Fi44wKMBLqu12-B5j111512u172EO97171717171717171-3Y1Q1v2Cs6QG1_11s22d35h11p1",
  "1g11s29m11jpS3t19yAKu58z6Ky13A6u18c28C6q3BU3k21B4X11t19E2A2d3OSA6262697171y14-32A6azACN4n1ae",
  "8kB2g3c17C55Q151112121gKW1GGA6p11J14451d44_41U362626233717D22C1Q1J121F2EY1x3534j13u21D31l1k1",
  "Y4T3n1FS4a19U5h15U1b14Eg1-42A6a14a14e18q1BC1F17121B1F17123q1Ct99MA8O61g119b26211i112312N1e28",
  "9m1J125X13R5Rc1u14K2o11258131T234A797W2W1d14C9s13T2R5Q74C7m2f2t1p1Dp17k18A6c13T82m6V1g11322G",
  "689X1k18g1MQc1SKN9k24a19-115DP7A6r11I8d19W31KBI1l1-1711141F1B6x15A6418222M1712151A2223216157",
  "2735BA11211c11A1121141A1282Ty215Ue28Ac5s12c1Y1b2BA6DJw16A6KSR2F4Nv5y1a3p2C82128121U122C9Ac28",
  "2k12BRe28p2Df27As28u2Y1EA691j11EAT3W12M1Ef27121i13112198A66121b112167A6i14As7P7H1f13Tr21Fo1D",
  "xSc3l315Ba6io2Z3DmX1GMAxy35dIvr6w1cs1vH7V1A4n21A6U26Ac2AA171L5JmDw1c6x25P2Pi1h24v17HW25B79sc",
  "7f1W1X3p3zl8417121Z9F1T321E48iCae2h35D397A24Wx3z73qD6NFHFk12N9q3y1s7Ad12g28m3Lc2w3KCKCt29Pd4",
  "r21d2122122241C11171X21428171S141511371qA2a92-LF51FmY1V66r671H2712155-1X11m3j13E2A42WAVHw151",
  "mEg1s6h141W6V1M82W7714121F1b62Gf1i24A42nOa2i2z1Y641R1211211A14111161411111131211211111111112",
  "1124171414111A1H53151Hq12k8i14a3CF2F1F1b1Ak5u1TDi14972E6w4vU3H3D3w66C41FC4u18A6e18U2C42E9d1u",
  "A8E2D3B3v1114G2C4A7p41d3bW1Wtf1W1-e42kq52nf7FkJYj2-GYl1hw45gf8"]

end CaseScript.Unicode
