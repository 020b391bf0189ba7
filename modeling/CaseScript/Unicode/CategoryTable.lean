/-!
# Unicode/CategoryTable — the general categories, packed

Edition 16 of the standard. For each run of code points in turn stand the number of its category, in
the order of `Category.all`, and its length.
-/

namespace CaseScript.Unicode

/-- Every code point by runs of one category. -/
def categoryRuns : List String := [
  "PW1M1H3J1H3D1E1H1I1H1C1H28AH2I3H20QD1H1E1K1B1K11QD1I1E1I1PX1M1H1J4L1H1K1L141F1I1Q1L1K1L1I1A2",
  "K111H2K1A141G1A3H10NI1071OI11801110111011101110111011101110111011101110111011101110111011101",
  "11011101110111011101110111011101110111011101110112011101110111011101110111011101120111011101",
  "11011101110111011101110111011101110111011101110111011101110111011101110111011101110211011101",
  "13021101110211031204110211031302110211011101110211011201110211031101110212410113440121110121",
  "11012111011101110111011101110111011101120111011101110111011101110111011101120121110111031101",
  "11011101110111011101110111011101110111011101110111011101110111011101110111011101110111011101",
  "11011101110111011101170211021201110411011101110111011b2411R3IK43CKE35K731K131KH5m30111011131",
  "K10111S23113H101S4K201H103S101S102110HS1091Z101120313011101110111011101110111011101110111011",
  "1011101150111I1011102120p11m1011101110111011101110111011101110111011101110111011101110111011",
  "10111L15572011101110111011101110111011101110111011101110111011101110111011101110111011101110",
  "11101110111011101110111011102110111011101110111011101120111011101110111011101110111011101110",
  "11101110111011101110111011101110111011101110111011101110111011101110111011101110111011101110",
  "111011101110111011101110111011101110111011101110111011101110111S10c1S231H61f1H1C1S2L2J1S15j1",
  "C151H152H152H151S84RS444H2SBQ6I3H2J1H2L25BH1Q1H34W1314A5L8AH442514Z3H14157Q1L1563252L154428A",
  "43L241HES1Q141514U5RS24v25B41SE8A4X15932L1H331S251J24M54315931533155S2HFS14P53S2H1S14BS54OK1",
  "46S1Q2S5594f1315OQ15W1614s151615141635864516241574A52H28AH1314F5162S148S242S24MS147S141S344S",
  "251416354S262S2625141S861S442S14352S28A42J2A6L1J141H151S25261S146S442S24MS147S142S142S142S25",
  "1S16352S452S253S351S744S141S78A524351H1SA5261S149S143S14MS147S142S145S251416355S15261S16251S",
  "241SF4252S28AH1J1S74156S15162S148S242S24MS147S142S145S2514161516154S262S26251S75261S442S1435",
  "2S28AL141A6SA5141S146S343S144S342S141S142S342S343S34CS4625162S363S16351S241S661SE8AA3L6J1L1S",
  "551635148S143S14NS14GS251415364S153S154S752S143S241S24252S28AS7H1A7L1415162H148S143S14NS14AS",
  "145S25141615165S15162S16252S762S642S14252S28AS14261SC526249S143S14f152416354S163S1635141L1S4",
  "4361A74352S28AA9L146S15162S14IS34OS149S141S247S351S46353S151S168S68AS262H1SC4m1514257S4J1463",
  "158H18AH2Sb142S141S145S14OS141S14A51425941S245S131S157S18AS244SW141L3HFL1H1L352L68AAAL151L15",
  "1L151D1E1D1E16248S14a1S45E6155H152455BS15a1S1L851L6S1L2H5L4H2Sb14h16254615661526252418AH6466",
  "25244534163426743544D516252665141618A6351L20c1S101S501S21h1H131134fAS144S247S141S144S24f1S14",
  "4S24X1S144S247S141S144S24FS14v1S144S24Z2S253H9AKS34GLAS60s2S216S2C14iJL1H14HM14QD1E1S34h2H39",
  "348S74I5361S94J5261H2S94I52SC4DS143S152SC4q15261576851625BH331H3J14151S28AS6AAS6H6C1H453Q151",
  "8AS64Z1314r1S745524Y15141S54c2SA4VS153645263S462516653S4L1S3H28A4US245SB4i1S44QS68AA1S3LY14N",
  "526251S2H24r161516157S15161516258665AS2518AS68AS6H731H6S25E715GSn154614l1516155615165516248S",
  "1H28AH7LA59L9H352614U615462526153428A4i15161526351615362S8H44a168586252S3H58AS3438A4U36H2190",
  "111S50h1S203H8S853H15D61574451465142615241S51i13_11D311Y13b15W201110111011101110111011101110",
  "11101110111011101110111011101110111011101110111011101110111011101110111011101110111011101110",
  "11101110111011101110111011101110111011101110111011101110111011101110111011101110111011101110",
  "11101110111011101110111011101110111011101110111011101110111011101110111011101110111011901110",
  "11101110111011101110111011101110111011101110111011101110111011101110111011101110111011101110",
  "11101110111011101110111011101110111011101110111011101110111011101110111011101110111011101110",
  "11101190816S206S21808180816S206S218S101S101S101S10118081ES218281828182815S1120421K111K313S11",
  "20421K314S21204S1K31805K3S213S1120421K2S1MBQ5C6H2F1G1D1F2G1D1F1H8N1O1Q5M1H9F1G1H4B2H3I1D1E1H",
  "BI1H1B1HAM1Q5S1QAA131S2A6I3D1E131AAI3D1E1S13DS3JX1SF5D7451735CSFL201L401L21103120311L101L2I1",
  "05L601L101L101L104L11104114411L21202I50114L1I1L211L1AG9Z1011194A1L2S4I5L5I2L4I1L2I1L2I1L7I1L",
  "VI2L2I1L1I1LVIi8L8D1E1D1E1LKI2L7D1E1Ln2I1LUIPLe1I6Le2SMLBSLAy1Lk2AMLt5I1L9I1Ls1I8Ll3I1Lu7D1E",
  "1D1E1D1E1D1E1D1E1D1E1D1E1AULi1I5D1E1IVD1E1D1E1D1E1D1E1D1E1IGLW8IZ4D1E1D1E1D1E1D1E1D1E1D1E1D1",
  "E1D1E1D1E1D1E1D1E1I_1D1E1D1E1IW1D1E1IY8Lm1ILL2I6Ld1S2LW1S1Lf30m11m10111031201110111011104110",
  "11201163203110111011101110111011101110111011101110111011101110111011101110111011101110111011",
  "10111011101110111011101110111011101110111011101110111011101110111011101110111011101110111011",
  "1011101110111011101110112L601110111530111S5H4A1H21c1S111S511S24u1S731H1SE514NS947S147S147S14",
  "7S147S147S147S147S15W1H2F1G1F1G1H3F1G1H1F1G1H9C1H2C1H1F1G1H2F1G1D1E1D1E1D1E1D1E1H531HAC2H4C1",
  "H1D1HDL2H3D1E1D1E1D1E1D1E1C1SY1LQS1Lv2SCLs6SQLGM1H3L1314191D1E1D1E1D1E1D1E1D1E1L2D1E1D1E1D1E",
  "1D1E1C1D1E2L1995462C135L2933141H1L2S14s2S252K23241C14w2H13341S54h1S14-2S1L2A4LA4W1Lc1S9L14GL",
  "VS1AALUA8L1AFLW1AALd1AFLWA4Wk6LW24rmK314tZ1S3Lt1S94e136H24i831H34G8A42SK01110111011101110111",
  "011101110111011101110111011101110111011101110111011101110111011101110111415173H15AH131011101",
  "1101110111011101110111011101110111011101110111011132524c29A52H6S8KN39K2011101110111011101110",
  "11101130111011101110111011101110111011101110111011101110111011101110111011101110111011101110",
  "1110111011101110111011101110111011101113118011101110211011101110111011131K201110111410111011",
  "30111011101110111011101110111011101110111051105110111011101110111011101110111041101110211S20",
  "111S111S11101110111011101SL3301114132114751435144514N625261L451S3A6L2J1L1S64q1H4S8624o16G52S",
  "8H28AS65I46H341H142518A4S58H24N5B62SBH14TS353614l1516254625263HDS1318AS4H2455131498A45S14f15",
  "662526252S94351485161S28AS2H44G3146L3416151614o151415342524552415141SO4231H24B615262H2413261",
  "51SA46S246S246S947S147S11h1K1341931K2S41m24Z16251625162H16151S28AS64azASC4NS44n1S4TWW2RWe64k",
  "BS24g3Sc117SC15S541514AI14DS145S141S142S142S14i3KHSG4hBE1D1LG4W2S24s1S7L1SW14CJ1L35GH7D1E1H1",
  "S65GH1C2B2D1E1D1E1D1E1D1E1D1E1D1E1D1E1D1E1H2D1E1H4B3H3S1H4C1D1E1D1E1D1E1H3I1C1I3S1H1J1H2S445",
  "S14d4S2Q1S1H3J1H3D1E1H1I1H1C1H28AH2I3H20QD1H1E1K1B1K11QD1I1E1I1D1E1H1D1E1H24A314j1324VS346S2",
  "46S246S243S3J2I1K1L1J2S1L1I4L2SAQ3L2S24CS14QS14JS142S14FS24ESY14x3S5H3S4Aj1S3L99r1A4LHA2L3S1",
  "LDS3L1Sl1Lj151SY44TS34n1SF51ARS44W1A4S94K914891S54c155S54US1H14a1S448H195Sg10e11e14k2S28AS60",
  "a1S41a1S44e1S84q1SBH10BS10FS107S102S11BS11FS117S112S34q1SC4t9S94MSA48SO36S13g1S139Sb246S241S",
  "14i1S142S341S24NS1H1A84NL2A74VS8A9Sm14JS142S5A54MA6S3H14QS5H1SW24u1S4A242AGS2Ak14153S152S554",
  "44S143S14TS253S451A9S7H9S74TA2H14TA3SW148L14S52S4A5H7S94s1S3H74MS2A84JS5A84IS7H4SCA7Sm24f2St",
  "10p1SD1p1S7A64a154S88AS68A4431410MS355C1311MS8I2Sm6AVS14g1S152C1S242SG43St1544TAA41S84M5BA4H",
  "5SM4I54H4Sc14LA7SK4NS96151614r15FH7S4AK8A51425241S953614j163546252H2Q1H451SAQ1S24PS78AS6534a",
  "1556158S18AH4416241S84Z151H241S952614m163596244H454H161518A41H141H3S1AKSB4IS14P635362516152H",
  "6514251S-147S141S144S14FS14AH1S64l1516358S58AS65262S148S242S24MS147S142S145S15241625164S262S",
  "263S241S661S54562S257S355SB4AS141S241S14c1S1416356S161S261S164S162516151415141H2S1H2S852ST4r",
  "163586253615144H58AH2S1H15143SU4m1635661516452615242H141S88ASc54l16354S264526152HN4452SY14m1",
  "635862516152H341SB8AS6HDSJ4h15161516256615141H1S68AS68KSS4RS251615162546155S48AA2H3L147Sv54i",
  "163596152H1Sa30W11W18AA9SC48S241S248S142S14O66S162S25261514161416151H3S98ASc248S24d16354S252",
  "645141H14161SR415A4e156614154H851S8415662534k15D6152H341H5SD4f2S7HASs54X1H1SE8AS649S14b16157",
  "S156615141H5SA8AAJS3H24US25MS1615761526152Sf247S142S14c156S351S152S1574151S88AS646S142S14W16",
  "5S152S16251615141S78ASs94J5262H2S75241614DS14Y16255S362516151HD8A51Sr241SFALL8J4LHSDH14wSSc3",
  "9l3S1H5SB4a6Sio24X3H2SD4mX1QG51465FSA4xy3S54dISvr64U5C63538AScs14vHS74VS18AS4H24l2S18AS64US2",
  "55H1SA4m157H5L434H1L1SA8AS1A7S14LS54JSmD334e132H38ASc60W11W1ANH4Sb34h2S451416t1S7543DSW232H1",
  "3151SB62SE4u_5S84sc1Sf14ASdt834S137S132S14Z9SF41ST43S241SE44S84iCSae24h3S54DS349S74AS2L152H1",
  "Q4Syw3Lm78AS6LqDSi25k1S25NS9Lq3Sy1Ls7SALd1S2Ly16253L366Q858L257LU54Lz1SLLY253L1Sw3AKSCAKSCLt",
  "2S9APSd40Q1Q0Q17S11I0Q1Q01S102S201S202S204S10814S111S117S11B0Q1Q02S104S208S107S11Q02S104S105",
  "S101S307S11Q0Q1Q0Q1Q0Q1Q0Q1Q0Q1Q0Q1SS20PI11PI1160PI11PI1160PI11PI1160PI11PI1160PI11PI1160111",
  "S28o1LWG5t1L45o1L851LE51L2H5SF55S15FSmY11A411KS616Sr657S15HS257S152S155S53-1SX151Sm34j1S3573",
  "7S28AS441L1SWA4U51SH4i1548AS5J1SmE4R31548ASs64U52418AS4H1SWF47S144S142S14FS14b6S2A957Sf10Y11",
  "Y15731S48AS4H2SnOAx1L1A3J1A4Si2Aj1L1AFSY644S14RS142S141S241S14AS144S141S141S641S441S141S141S",
  "143S142S141S241S141S141S141S141S142S141S244S147S144S144S141S14AS14HS543S145S14HSq1I2Sk8Li1S4",
  "La3SCLFS2LFS1LFS1Lb1SAADLX5Su1LTSDLi1S4L9S7L2SEL6Sw4Lx7K5LuMS4LHS3LDS3Lt3S4L_2S6LCS4L1SFLCS4",
  "Lu1S8LAS6Le1S8LUS2LCS4L2S-1LqASCLES2LDS3LAS5Lu1S7LFS2LBS6L9S7Lp4S1Ly28AScW14Wtf1SW14wX4S64-6",
  "S24Yq5SE4nf7SF4kJSYj24-GSYl14hw4S54WZ4SnYtLQ1SUQW3SW45m7Smm_1R-__1S2R-__1S2"]

end CaseScript.Unicode
