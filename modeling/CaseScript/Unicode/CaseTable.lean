/-!
# Unicode/CaseTable — the partners of letters, packed

Letters with a partner at one distance come in spans. Each is given by how far it begins after the
one before, by its size and step, and by the distance to the partners.
-/

namespace CaseScript.Unicode

/-- Every character whose lower case is one other character, by edition 17. -/
def lowerRuns : List String := [
  "X2o1W2_3i1W2OCW2e1l12o1527F2Hj12k10n715280aD13240yC10222wC20230-410qC10sC10220wC10-C20cD10YD",
  "10240cD10gD20iD15260qD10220qD30220qD10222oD23240sD1024028041022041022041H2JH2J0413240X610l31",
  "d12e10Z82H2O0sYL10220bA10mYL30220bC10g410k4192g93260290e770i224g240W422-33W1W2IGW2i10G9N2S0t",
  "330220D10234Z83UW5G-1W2m2X12g1r12s10U1D2F_22X3g2W3lx2g2WcEd10WcE60WcEpM-4Wzh2m2AGva2027q2_x5",
  "j14_x5ZAr42-40zxE2_22e3EFGAFGEFGEFGAFH7FFEFW1EFGEFGEFG2F22p420HC6h540HC2F22d6E2F22_620DC2_72",
  "2x720Hg90vrE40zhG10haG70u1k1UW1Z102pPo1q1gw1-2W3W30220j_K10hk710j-K35260tXL10v_K10zXL10xXL20",
  "230292zZL2Z32h332702kgUj12W2R2Y5D2Gz12d23240dWb2192D0220loo23326J2K0dqo210zqo210rqo210Xqo210",
  "dqo220Zno210poo210fno210Ww11F2G0_210bqo210lZb213240jso21F2G0Xap2P02ivLo1W2_c1k2m2m5c2m2W6Kk2",
  "CSk2GCk282k2it1a3W4m6g1W2mw2-1W2WjL-1W2W3m1s1WpUY2a2"]

/-- Pairs of letters that differ in case only, by edition 16. -/
def foldRuns : List String := [
  "X2IW2BCW28CW2i38W26W1W2ICW2e1l12o1527F2Hj12k10n715280aD13240yC10222wC20230-410qC10sC10220wC1",
  "0-C20cD10YD10240cD10gD20iD15260qD10220qD30220qD10222oD23240sD102402HF2HH2M0220X610l31d12e10Z",
  "82H2O0sYL10220bA10mYL30220bC10g410k4192g93260290e770i224g240W422-333W233W230W243W232W262W232",
  "W232W2b10G9N2V0220D10234Z83UW5G2W233W23EW292W24CW288W2r1024T2c1r12s10U1D2F_22X3g2W3lx2g2WcEd",
  "10WcE60WcEhPAFna2027q2_x5j14_x5ZA_22Y3p12y10zxE2_22e3EFGAFGEFGEFGAFH7FFEFW1EFGEFGEFG2F22p420",
  "HC6h540H70baE52F22d690bZE52F22_620DC2_722x720Hs90u1k1UW1Z102pPo1q1gw1-2W3W30220j_K10hk710j-K",
  "35260tXL10v_K10zXL10xXL20230292zZL2Z32h332702kgU92CX12q1R2Y5D2Gz12d23240dWb2192D0220loo23326",
  "J2K0dqo210zqo210rqo210Xqo210dqo220Zno210poo210fno210Ww11F2G0_210bqo210lZb213240jso2102402652",
  "60Xap2P02xR-4_yh2ryJ02yW1o1W2_c1k2m2m5c2m2W6Kk2CSk2GCk282k2it1a3W4m6g1W2mw2-1W2WjL-1W2WsUY2a",
  "2"]

/-- Sets of three or more characters that differ in case only, each after its size. -/
def foldGroupNumbers : List String := [
  "3h2h3gf83p2p3_B3b6b7hf83aEbEcE3dEeEfE3gEhEiE3nFoFpF3oSoTmU3rSrTrV4uSuTnUqV4bQvSvT-z73wSwTmV3",
  "r5ySyT3WTWUsU3XTXUnV3ZTYUZU3cTcUrU3fTfUcf83oW1oX1Wa73qW1qX1Xa73-W1-X1Ya73XX1XY1Za74YX1YY1aa7",
  "ba73gX1gY1ca73YZ1ZZ1da73Wp7Xp7xq73ea7gof1hof1"]

end CaseScript.Unicode
