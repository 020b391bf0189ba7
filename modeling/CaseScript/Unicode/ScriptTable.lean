/-!
# Unicode/ScriptTable — the scripts, packed

Edition 16 of the standard. `scripts` holds the characters of each script. Some characters are used
with scripts that are not their own: `scriptExtensions` holds all characters that are used with a
script, wherever these are not just its own.
-/

namespace CaseScript.Unicode

/-- The scripts by their names. -/
def scripts : List (List String × List String) := [
  (["adlm", "adlam"], ["Wew3i24A42"]),
  (["aghb", "caucasianalbanian"], ["mfX2q1B1"]),
  (["ahom"], ["Wub2R2F4N"]),
  (["arab", "arabic"], [
    "Wm15161E131W11ABQ1i31Y1m2m1m7V125h21Tmoy1p3GhB2m22s171W1Gm351d4Zx3VZ23t14Wut141R1211211A1411",
    "11614111111312112111111111121124171414111A1H53151Hq12"]),
  (["armi", "imperialaramaic"], ["WYY2M19"]),
  (["armn", "armenian"], ["nf1c12o123Ziz15"]),
  (["avst", "avestan"], ["WuY2s137"]),
  (["bali", "balinese"], ["Wu6j21o1"]),
  (["bamu", "bamum"], ["Wrf1u2eem1vH"]),
  (["bass", "bassavah"], ["msw2U26"]),
  (["batk", "batak"], ["W-6q184"]),
  (["beng", "bengali"], ["Wi2418222M1711342922248142152P"]),
  (["bhks", "bhaiksuki"], ["WWd291j11EAT"]),
  (["bopo", "bopomofo"], ["gN2vmBh1m3W1"]),
  (["brah", "brahmi"], ["WWa2k24a191"]),
  (["brai", "braille"], ["WWAW8"]),
  (["bugi", "buginese"], ["Wm6S22"]),
  (["buhd", "buhid"], ["Ww5K"]),
  (["cakm", "chakma"], ["Wea2r11I"]),
  (["cans", "canadianaboriginal"], ["WW5WKmHc2wjW2G"]),
  (["cari", "carian"], ["WrW2n1"]),
  (["cham"], ["Wmg1t19E2A24"]),
  (["cher", "cherokee"], ["Wz4s226oxb1m2"]),
  (["chrs", "chorasmian"], ["mzZ2S"]),
  (["copt", "coptic", "qaac"], ["YVEmaAq357"]),
  (["cpmn", "cyprominoan"], ["myh2Z3"]),
  (["cprt", "cypriot"], ["WWY26211i1123121"]),
  (["cyrl", "cyrillic"], ["WW1b42f5mw5BW51i21dZ4W1WYUW3kyL2Wmu1-1X11"]),
  (["deva", "devanagari"], ["We2n24F2QWxd1W1WmSA"]),
  (["diak", "divesakuru"], ["Wec272128121U122C9A"]),
  (["dogr", "dogra"], ["WWc2y1"]),
  (["dsrt", "deseret"], ["WWX2m2"]),
  (["dupl", "duployan"], ["WWl3h35D397A24"]),
  (["egyp", "egyptianhieroglyphs"], ["WWi2sY1Axy3"]),
  (["elba", "elbasan"], ["WeX2e1"]),
  (["elym", "elymaic"], ["W_Z2N"]),
  (["ethi", "ethiopic"], [
    "Wm4f2142711142f1142X1142711142F1v1142Z22W13Qcl6N9717171717171717YfV626269717nbl2714121F"]),
  (["gara", "garay"], ["WgZ2c13T82"]),
  (["geor", "georgian"], ["Wb4c111512h114my2h123WY4c11151"]),
  (["glag", "glagolitic"], ["WWBW3Wzi371H271215"]),
  (["gong", "gunjalagondi"], ["Whd26121b112167A"]),
  (["gonm", "masaramgondi"], ["Wed27121i13112198A"]),
  (["goth", "gothic"], ["mvW2R"]),
  (["gran", "grantha"], ["Wua2418222M1712152922232161572735"]),
  (["grek", "greek"], [
    "mR4132411411113111K1_1EGcf65o1545q21WAM262c126281111111V2r11F1E261J2319d91-nY11wkLl2H1_",
    "Yq1c2"]),
  (["gujr", "gujarati"], ["Xq2319131M1712152A131321F42C77"]),
  (["gukh", "gurungkhema"], ["Weu2w1"]),
  (["guru", "gurmukhi"], ["Xm2316422M17121212211542233174117H"]),
  (["hang", "hangul"], ["We4W8kn72X8-2n3VX2VXtTTZKazACN4n1az9V36262623"]),
  (["hani", "han"], [
    "WqBQ1v2Cs6l1111P9E4aUWk6W2WmKWeMkB2g3eeT2C2kWa1Wtf1W1wX46-62Yq5Enf7FkJYj2-GYl1hw45WZ4"]),
  (["hano", "hanunoo"], ["Wv5L"]),
  (["hatr", "hatran"], ["WdY2J1255"]),
  (["hebr", "hebrew"], ["ni1t18R46efz1Q151112121A"]),
  (["hira", "hiragana"], ["XYCs263Xx_2_8I1T3jbG1"]),
  (["hluw", "anatolianhieroglyphs"], ["WWn2dI"]),
  (["hmng", "pahawhhmong"], ["Wuw2c2AA171L5J"]),
  (["hmnp", "nyiakengpuachuehmong"], ["Weu3j13E2A42"]),
  (["hung", "oldhungarian"], ["WaZ2p1Dp176"]),
  (["ital", "olditalic"], ["WuW2a193"]),
  (["java", "javanese"], ["Wig1k22A42"]),
  (["kali", "kayahli"], ["Weg1k111"]),
  (["kana", "katakana"], ["XbCw223m7Gm6l11u2kWp1A1j1oYi14171211_83o11E4"]),
  (["kawi"], ["Wud2H1f13T"]),
  (["khar", "kharoshthi"], ["WmY241258131T234A79"]),
  (["khmr", "khmer"], ["Wy5-22A6AcFW1"]),
  (["khoj", "khojki"], ["Wma2I1l1"]),
  (["kits", "khitansmallscript"], ["a_x21xu6sEf11"]),
  (["knda", "kannada"], ["Wa3D131N1A152913147262142A13"]),
  (["krai", "kiratrai"], ["Wgx2w1"]),
  (["kthi", "kaithi"], ["Waa2Z2A1"]),
  (["lana", "taitham"], ["Wn6_11T2B6A6E"]),
  (["laoo", "lao"], ["Xq3211151O111N2511171A24"]),
  (["latn", "latin"], [
    "X2Q6Ql11F15N1V1XEd15xm6c16n1545D1c2X2W8nB1D1GDj4261R1Hf1ts2W1YrUc33Z2221118LEmPh11914syJ7wW1",
    "Q6QbX261g119bwr1V66"]),
  (["lepc", "lepcha"], ["WW7u13F33"]),
  (["limb", "limbu"], ["We6V1C4C413C"]),
  (["lina", "lineara"], ["WmX2t99MA8"]),
  (["linb", "linearb"], ["WWW2C1Q1J121F2EY1x3"]),
  (["lisu"], ["mcf1m1mrU1"]),
  (["lyci", "lycian"], ["WqW2T"]),
  (["lydi", "lydian"], ["WfY2Q51"]),
  (["mahj", "mahajani"], ["mga2d1"]),
  (["maka", "makasar"], ["Wtd2P"]),
  (["mand", "mandaic"], ["WY2S21"]),
  (["mani", "manichaean"], ["WsY2d14C"]),
  (["marc", "marchen"], ["mZd2W12M1E"]),
  (["medf", "medefaidrin"], ["Wox2x2"]),
  (["mend", "mendekikakui"], ["WWw3b62G"]),
  (["merc", "meroiticcursive"], ["WjY2O4K2k1"]),
  (["mero", "meroitichieroglyphs"], ["WiY2W1"]),
  (["mlym", "malayalam"], ["We3D131p113164G2Q"]),
  (["modi"], ["Wmb2b2BA"]),
  (["mong", "mongolian"], ["WW62211K6v27h1rj_1D"]),
  (["mroo", "mro"], ["Wow2V1A42"]),
  (["mtei", "meeteimayek"], ["Wtg1Nf6k12A"]),
  (["mult", "multani"], ["Wqa2711141F1B"]),
  (["mymr", "myanmar"], ["WW4W5Wgc1VX3W1mYRK"]),
  (["nagm", "nagmundari"], ["mcv3g1"]),
  (["nand", "nandinagari"], ["Wjc282k12B"]),
  (["narb", "oldnortharabian"], ["WqY2W1"]),
  (["nbat", "nabataean"], ["WaY2V89"]),
  (["newa"], ["WWb2y215"]),
  (["nkoo", "nko"], ["W-1x123"]),
  (["nshu", "nushu"], ["X_x21kiGiC"]),
  (["ogam", "ogham"], ["Wq5T"]),
  (["olck", "olchiki"], ["mY7m1"]),
  (["onao", "olonal"], ["mkv3h141"]),
  (["orkh", "oldturkic"], ["WWZ2f2"]),
  (["orya", "oriya"], ["Xu2318222M1712152922237342152I"]),
  (["osge", "osage"], ["mbX2a14a1"]),
  (["osma", "osmanya"], ["WaX2U2A"]),
  (["ougr", "olduyghur"], ["mxZ2Q"]),
  (["palm", "palmyrene"], ["WZY2W1"]),
  (["pauc", "paucinhau"], ["Wsc2v1"]),
  (["perm", "oldpermic"], ["mwW2h1"]),
  (["phag", "phagspa"], ["WYg1u1"]),
  (["phli", "inscriptionalpahlavi"], ["WxY2J58"]),
  (["phlp", "psalterpahlavi"], ["WyY2I74C7"]),
  (["phnx", "phoenician"], ["WeY2S31"]),
  (["plrd", "miao"], ["Wux2h24v17H"]),
  (["prti", "inscriptionalparthian"], ["WwY2M28"]),
  (["rjng", "rejang"], ["mfg1a1B1"]),
  (["rohg", "hanifirohingya"], ["WeZ2e18A"]),
  (["runr", "runic"], ["Wr5h23B"]),
  (["samr", "samaritan"], ["WW2k12F"]),
  (["sarb", "oldsoutharabian"], ["WpY2W1"]),
  (["saur", "saurashtra"], ["Wag1c28C"]),
  (["sgnw", "signwriting"], ["WWs3iKF51F"]),
  (["shaw", "shavian"], ["mYX2m1"]),
  (["shrd", "sharada"], ["Wia2W3"]),
  (["sidd", "siddham"], ["Wib2s12c1"]),
  (["sind", "khudawadi"], ["mra2x15A"]),
  (["sinh", "sinhala"], ["Xi331I3O191127314611186A23i_W2K"]),
  (["sogd", "sogdian"], ["mvZ2g1"]),
  (["sogo", "oldsogdian"], ["WuZ2e1"]),
  (["sora", "sorasompeng"], ["mca2P7A"]),
  (["soyo", "soyombo"], ["moc2p2"]),
  (["sund", "sundanese"], ["Wy6W2W88"]),
  (["sunu", "sunuwar"], ["W-c2Y1EA"]),
  (["sylo", "sylotinagri"], ["WWg1j1"]),
  (["syrc", "syriac"], ["Wu1E1y123m8B"]),
  (["tagb", "tagbanwa"], ["Wx5D1312"]),
  (["takr", "takri"], ["Wqb2w16A"]),
  (["tale", "taile"], ["mg6U25"]),
  (["talu", "newtailue"], ["Wi6i14Q6B32"]),
  (["taml", "tamil"], ["Yy2216331432111232333C4533142161ELb-a2o1D1"]),
  (["tang", "tangut"], ["W_x21Vu_58WOWG9"]),
  (["tavt", "taiviet"], ["Wqg1Z2O5"]),
  (["telu", "telugu"], ["WW3D131N1G291314721321242A79"]),
  (["tfng", "tifinagh"], ["mfBu172E1"]),
  (["tglg", "tagalog"], ["Wu5M91"]),
  (["thaa", "thaana"], ["Wy1o1"]),
  (["thai"], ["Xm3w15S"]),
  (["tibt", "tibetan"], ["Wu3e21a14d11a11F1742"]),
  (["tirh", "tirhuta"], ["Wab2e28A"]),
  (["tnsa", "tangsa"], ["mpw2l21A"]),
  (["todr", "todhri"], ["WkX2q1"]),
  (["toto"], ["mqu3V"]),
  (["tutg", "tulutigalari"], ["Wya2A11211c11A1121141A1282"]),
  (["ugar", "ugaritic"], ["WyW2U11"]),
  (["vaii", "vai"], ["Wef1i9"]),
  (["vith", "vithkuqi"], ["mhX2B1F17121B1F1712"]),
  (["wara", "warangciti"], ["Wbc2p2C1"]),
  (["wcho", "wancho"], ["Wsu3w151"]),
  (["xpeo", "oldpersian"], ["WzW2a14E"]),
  (["xsux", "cuneiform"], ["WWe2wSc3l315Ba6"]),
  (["yezi", "yezidi"], ["WqZ2g11322"]),
  (["yiii", "yi"], ["WWe1ja13t1"]),
  (["zanb", "zanabazarsquare"], ["Wmc2e2"]),
  (["zinh", "inherited", "qaai"], [
    "WOm3r82aEBQ1WN4xg4VXG31D17416132c6W2iG2Y6X1vv34h32bhp1GGElU1Y71wY41a-k1k12NWH3H827U4owhOm7"]),
  (["zyyy", "common"], [
    "0X2Q6Ql11F15N1V1XEd1552Kq31916111zJ161E131W11y41aG1X42vc11rC4Y91ll13d22h6211jc11D174161321bO",
    "C2t21B3B1FHX1_1c113261R1Hf134wKMBLWTW8qJ2W11f3WG-2oCL111PF844x2231w22p4GW1c191m1W2Vn2l11u2e5",
    "Wk6W2WeMY1c33b5Aq71W51hC1E2okK2m6AMZ11J14p411W1Q6QBA1j12W2717A5Y834j139m2Dp1j1a7Rajk14yw3w76",
    "qDy4q3y1s7Ad12-13H827U4z1r6KCKCt29Pd4r21d2122122241C11171X21428171S141511371qA2a92o1nZ5a2i2z",
    "1YMi14a3CF2F1F1b1Ak5u1Q12Di14972E6w4uU4H3D3t34_26C41FC4u18A6e18U2C42-1qACE2D3A5u17F2B697p41c",
    "3dWXO1UW3"])]

/-- What is used with a script, where that is not just the script. -/
def scriptExtensions : List (List String × List String) := [
  (["adlm", "adlam"], ["_m11W11km61nl31-rk3i24A42"]),
  (["aghb", "caucasianalbanian"], ["aO1i11i11nkW2q1B1"]),
  (["arab", "arabic"], [
    "Wm151t61Y1m2m1m7V125h21Tlw51nl31kep1p3GzD2s171W1Gm351d4ZVSax2VZ23t14Wut141R1211211A141111614",
    "111111312112111111111121124171414111A1H53151Hq12"]),
  (["armn", "armenian"], ["eO1eHc12o123Ziz15"]),
  (["avst", "avestan"], ["t51uhB2kct1s137"]),
  (["beng", "bengali"], ["yL1qq12H2Q418222M1711342922248142152Pns411122118181214123v_Y11"]),
  (["bopo", "bopomofo"], ["dM113D1G2reB34A1DA42161Z619h1m3W1bap12w85"]),
  (["bugi", "buginese"], ["Wm6S22lzZ11"]),
  (["buhd", "buhid"], ["rv529K"]),
  (["cakm", "chakma"], ["cl2Amo1AsbW2r11I"]),
  (["cari", "carian"], ["t51Yz7121pk31kZr1n1"]),
  (["cher", "cherokee"], ["WO31162M2B2kZ4s226oxb1m2"]),
  (["copt", "coptic", "qaac"], ["t51eI13211i32i3EmaAq357t81ecr1S"]),
  (["cpmn", "cyprominoan"], ["WeW22kqBZ3"]),
  (["cprt", "cypriot"], ["WeW234j139Ws16211i1123121"]),
  (["cyrl", "cyrillic"], ["yL1Z231111112151k7m9mw5BW51i21_31d_3W1Z21y_TW3kyL2Wmu1-1X11"]),
  (["deva", "devanagari"], ["yL1Zo1p22h1mw4d112sV1_vX1Ac5W1WmSA"]),
  (["dogr", "dogra"], ["ah2CWsd1Ac-Ry1"]),
  (["dupl", "duployan"], ["t51lI211O2tuA1ZkZ3h35D397A28"]),
  (["elba", "elbasan"], ["t51jI1wlW2e1"]),
  (["ethi", "ethiopic"], [
    "kO1nt3f2142711142f1142X1142711142F1v1142Z22W13Qcl6N9717171717171717YfV626269717nbl2714121F"]),
  (["gara", "garay"], ["im11E131WvX2c13T82"]),
  (["geor", "georgian"], ["t51nc11su2c111512m1my2h123wS1bb3c11151Z81"]),
  (["glag", "glagolitic"], ["t51hI111-B121X81nx21-w31bz2W3ZF1hXU1mik271H271215"]),
  (["gong", "gunjalagondi"], ["t51ib22w_a26121b112167A"]),
  (["gonm", "masaramgondi"], ["ah22wya27121i13112198A"]),
  (["goth", "gothic"], ["t51iI221e11-__1R"]),
  (["gran", "grantha"], ["ng22H2WKEyc4112U332sV1lmy1418222M1712151A22232161572735xY3211"]),
  (["grek", "greek"], [
    "t51eI2211111A1k1121g182411411113111K1_1EGcf65o1545q23-9M262c126281111111V2r11F1E261J2319-21e",
    "61-nY11wkLl2H1_Yq1c2"]),
  (["gujr", "gujarati"], ["ng22H2x8319131M1712152A131321F42C77mfd1A"]),
  (["gukh", "gurungkhema"], ["bh21wyr2w1"]),
  (["guru", "gurmukhi"], ["ng22H2x4316422M17121212211542233174117Hvjd1A"]),
  (["hang", "hangul"], ["We4W8Xm734A1DE361Z61r1-2n3VX2VXtTTZKazACN4n1fo92w85w1V36262623"]),
  (["hani", "han"], [
    "t51ekBQ1v2Cs6QG131D1D1D2169x51q4GW1c191m1e1u1n1FCp11u2PA5W3V1Wk6W2WmKWu18ulKkB2g3hR2w85yZS2C",
    "2kxOI-s72kj3Wtf1W1wX46-62Yq5Enf7FkJYj2-GYl1hw45WZ4"]),
  (["hano", "hanunoo"], ["Wv5N"]),
  (["hebr", "hebrew"], ["dO2eKt18R46efz1Q151112121A"]),
  (["hira", "hiragana"], ["XWC34A1DG611423s228w22egp12w85A1j12XZi1_8I1T3jbG1"]),
  (["hung", "oldhungarian"], ["wY8121pk31F1-nt1p1Dp176"]),
  (["java", "javanese"], ["Wig1k21B42"]),
  (["kali", "kayahli"], ["Weg1m1"]),
  (["kana", "katakana"], ["bO1T1zcB34A1DG61142x243W3m7Gm6l11u2jto12w8_1mYi14171211_83o11E4"]),
  (["khoj", "khojki"], ["ct2AWgd1AckQI1l1"]),
  (["knda", "kannada"], ["ng22H2wOD131N1A152913147262142A13y-311261N111xvY16"]),
  (["kthi", "kaithi"], ["ch2AXc91-lUAcYQZ2A1"]),
  (["latn", "latin"], [
    "X2Q6Ql11C1215N1V1XE31A11311911165RF1211F37212c11514Dr82gc12ez11aW3c16n1545D1c2v117W8l91X21D1",
    "GDp21v1261R1Hf1ts2W1tC1edU8Qc33Z2221118LEk91XGh11914syJ7wW1Q6QbX261g119bwr1V66"]),
  (["limb", "limbu"], ["bh21wy3V1C4C413C"]),
  (["lina", "lineara"], ["deW2j1ic1t99MA8"]),
  (["linb", "linearb"], ["WWW2C1Q1J121F2EY1x3534j139"]),
  (["lisu"], ["yL1G1yfB2acTm1mrU1"]),
  (["lyci", "lycian"], ["wY81bnu1T"]),
  (["lydi", "lydian"], ["t51vhB1kts1Q51"]),
  (["mahj", "mahajani"], ["t51ib2CWsd1AseQd1"]),
  (["mand", "mandaic"], ["Wo11_FS21"]),
  (["mani", "manichaean"], ["Wo11_ZX2d14C"]),
  (["mero", "meroitichieroglyphs"], ["zY81Yfw1W1"]),
  (["mlym", "malayalam"], ["ng22H2wSD131p113164G2Qww31N1zvY13"]),
  (["modi"], ["mXg1AckRb2BA"]),
  (["mong", "mongolian"], ["WW6Q6v27h1ay11n-3254qov1D"]),
  (["mult", "multani"], ["cp2AmWY2711141F1B"]),
  (["mymr", "myanmar"], ["WW4W5kac11n5VX3W1mYRK"]),
  (["nand", "nandinagari"], ["ng21I2WSAv_318171rvY16ghS82k12B"]),
  (["newa"], ["ng22Yy411291611111ouz1y215"]),
  (["nkoo", "nko"], ["im11E131WDx123-fz12"]),
  (["onao", "olonal"], ["ah22gZt3h141"]),
  (["orkh", "oldturkic"], ["wY81rk31lkt1f2"]),
  (["orya", "oriya"], ["ng22H2xC318222M1712152922237342152IYh41N1"]),
  (["osge", "osage"], ["XO12161i21tgW2a14a1"]),
  (["ougr", "olduyghur"], ["Wo11nbX21zZ1Q"]),
  (["perm", "oldpermic"], ["t51eI153A1lB1is_1h1"]),
  (["phag", "phagspa"], ["YW6211fX21o-31zXUu1"]),
  (["phlp", "psalterpahlavi"], ["Wo11_fX2I74C7"]),
  (["rohg", "hanifirohingya"], ["im11E131W11p41hnX2e18A"]),
  (["runr", "runic"], ["Wr5v2"]),
  (["samr", "samaritan"], ["WW2k12Fol91"]),
  (["shaw", "shavian"], ["t51uyW2m1"]),
  (["shrd", "sharada"], ["ng21by411122219121YwY1621dgQW3"]),
  (["sind", "khudawadi"], ["ah22gsd1AspQx15A"]),
  (["sinh", "sinhala"], ["ah22xW131I3O191127314611186A23zt31kdz1K"]),
  (["sogd", "sogdian"], ["Wo11ldY2g1"]),
  (["sunu", "sunuwar"], ["WO2119121S131kac2Y1EA"]),
  (["sylo", "sylotinagri"], ["ah22W4Ammd1j1"]),
  (["syrc", "syriac"], ["ZO22211O37212wM1E221W11ABQ1l4E1y123m8Bji5111"]),
  (["tagb", "tagbanwa"], ["rv52f1D1312"]),
  (["takr", "takri"], ["ah22gsd1AcoRw16A"]),
  (["tale", "taile"], ["WO25231pf3Ace2U25"]),
  (["taml", "tamil"], ["ng22H2yG216331432111232333C4533142161EL_c41uWZ11jmQ111t12Za3o1D1"]),
  (["tang", "tangut"], ["m_BGlF1mll21Vu_58WOWG9"]),
  (["telu", "telugu"], ["ng22H2wKD131N1G291314721321242A79rY421111N1"]),
  (["tfng", "tifinagh"], ["YO11114P1imAu172E1"]),
  (["tglg", "tagalog"], ["Wu5M91L2"]),
  (["thaa", "thaana"], ["im11E221W2As8o1Woz11A1"]),
  (["thai"], ["yL1Q1h11j11ls2w15S"]),
  (["tibt", "tibetan"], ["Wu3e21a14d11a11F1742jX84"]),
  (["tirh", "tirhuta"], ["ng22H2lx41C1F1zvY1AcYRe28A"]),
  (["todr", "todhri"], ["XO121219111g21XpW2q1"]),
  (["toto"], ["yL1p-t3V"]),
  (["tutg", "tulutigalari"], ["cd3AYW4111xvY16x51kqQA11211c11A1121141A1282"]),
  (["yezi", "yezidi"], ["im11E131W2AsWY2g11322"]),
  (["yiii", "yi"], ["XWC25A28_61auRja13t1wqM5"]),
  (["zinh", "inherited", "qaai"], [
    "lO1211F37212G121I1514ml12xg4VpNs11115iG2Y6W1met1GGElU1Yep1k12NWH3H827U4owhOm7"]),
  (["zyyy", "common"], [
    "0X2Q6Ql11C1215N1V1XE31A1131191116552K-316111zJ1t61aG1yg11rC4dX4C2X11V1A12171B3B1FHX1_1c11326",
    "1R1Hf134wKMBLWTW8qJ2W11f3WGN1O2A14111QYD131D1D1L1nGOV1n1FC4X5A5W3V1Wk6W2eeMQc33mU1E2arKAML2C",
    "1J14p411W1Q6Q6_3717A5oCDp1j1Zmo1w76qDy4q3y1s7Ad12-13H827U4z1r6KCKCt2R7d4r21d2122122241C11171",
    "X21428171S141511371qA2a92o1nZ5a2i2z1YMi14a3CF2F1F1b1Ak5u1Q12Di149N6w4uU4H3D3t34_26C41FC4u18A",
    "6e18U2C42-1qACE2D3A5u17F2B697p41c3dWXO1UW3"])]

end CaseScript.Unicode
