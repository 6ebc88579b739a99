/-!
# General categories of characters

Every code point has a general category, written with two letters: `Lu` is an
upper case letter, `Zs` a space, `Cn` a code point without a character.

**Data.**  The categories are stored as runs from code point 0 upwards, each run
as the category's two letters and its length in base 36.  Sets of code points are
stored as gaps and lengths in turn, also in base 36.
-/

namespace HeaderBindings
namespace Text

section Numbers

/-- The value of a digit in base 36. -/
def digit36 (c : Char) : Nat :=
  if c.isDigit then c.toNat - '0'.toNat else c.toNat - 'a'.toNat + 10

/-- The number that a text of digits in base 36 stands for. -/
def number36 (digits : List Char) : Nat :=
  digits.foldl (fun value c => 36 * value + digit36 c) 0

/-- The numbers of a text in which blanks separate them. -/
def numbers36 (text : List Char) : List Nat :=
  (text.splitOn ' ').map number36

/-- The closed ranges of code points given by gaps and lengths that follow position `start`. -/
def rangesFrom (start : Nat) : List Nat → List (Nat × Nat)
  | gap :: length :: rest =>
      (start + gap, start + gap + length - 1) :: rangesFrom (start + gap + length) rest
  | _ => []

/-- The closed ranges of a stored set of code points. -/
def storedRanges (text : String) : List (Nat × Nat) :=
  rangesFrom 0 (numbers36 text.toList)

/-- Whether a code point lies in one of the ranges. -/
def inRanges (ranges : List (Nat × Nat)) (code : Nat) : Bool :=
  ranges.any fun range => range.1 ≤ code && code ≤ range.2

end Numbers

section Categories

/-- A general category: the letter of its group, and the letter inside the group. -/
abbrev Category := Char × Char

/-- Reads runs: two letters, then digits up to the next upper case letter.  `current` is the
category of the digits read so far. -/
def readRuns (current : Category) (digits : List Char) : List Char → List (Category × Nat)
  | [] => [(current, number36 digits.reverse)]
  | c :: rest =>
      if c.isUpper then
        match rest with
        | [] => []
        | d :: rest => (current, number36 digits.reverse) :: readRuns (c, d) [] rest
      else readRuns current (c :: digits) rest

/-- The stored runs. -/
def categoryText : String :=
  "CcwZs1Po3Sc1Po3Ps1Pe1Po1Sm1Po1Pd1Po2NdaPo2Sm3Po2LuqPs1Po1Pe1Sk1Pc1Sk1LlqPs1Sm1Pe1Sm1CcxZs1" ++
  "Po1Sc4So1Po1Sk1So1Lo1Pi1Sm1Cf1So1Sk1So1Sm1No2Sk1Ll1Po2Sk1No1Lo1Pf1No3Po1LunSm1Lu7LloSm1Ll8" ++
  "Lu1Ll1Lu1Ll1Lu1Ll1Lu1Ll1Lu1Ll1Lu1Ll1Lu1Ll1Lu1Ll1Lu1Ll1Lu1Ll1Lu1Ll1Lu1Ll1Lu1Ll1Lu1Ll1Lu1Ll1" ++
  "Lu1Ll1Lu1Ll1Lu1Ll1Lu1Ll1Lu1Ll1Lu1Ll1Lu1Ll1Lu1Ll1Lu1Ll1Lu1Ll1Lu1Ll1Lu1Ll1Lu1Ll2Lu1Ll1Lu1Ll1" ++
  "Lu1Ll1Lu1Ll1Lu1Ll1Lu1Ll1Lu1Ll1Lu1Ll2Lu1Ll1Lu1Ll1Lu1Ll1Lu1Ll1Lu1Ll1Lu1Ll1Lu1Ll1Lu1Ll1Lu1Ll1" ++
  "Lu1Ll1Lu1Ll1Lu1Ll1Lu1Ll1Lu1Ll1Lu1Ll1Lu1Ll1Lu1Ll1Lu1Ll1Lu1Ll1Lu1Ll1Lu1Ll1Lu1Ll1Lu1Ll1Lu2Ll1" ++
  "Lu1Ll1Lu1Ll3Lu2Ll1Lu1Ll1Lu2Ll1Lu3Ll2Lu4Ll1Lu2Ll1Lu3Ll3Lu2Ll1Lu2Ll1Lu1Ll1Lu1Ll1Lu2Ll1Lu1Ll2" ++
  "Lu1Ll1Lu2Ll1Lu3Ll1Lu1Ll1Lu2Ll2Lo1Lu1Ll3Lo4Lu1Lt1Ll1Lu1Lt1Ll1Lu1Lt1Ll1Lu1Ll1Lu1Ll1Lu1Ll1Lu1" ++
  "Ll1Lu1Ll1Lu1Ll1Lu1Ll1Lu1Ll2Lu1Ll1Lu1Ll1Lu1Ll1Lu1Ll1Lu1Ll1Lu1Ll1Lu1Ll1Lu1Ll1Lu1Ll2Lu1Lt1Ll1" ++
  "Lu1Ll1Lu3Ll1Lu1Ll1Lu1Ll1Lu1Ll1Lu1Ll1Lu1Ll1Lu1Ll1Lu1Ll1Lu1Ll1Lu1Ll1Lu1Ll1Lu1Ll1Lu1Ll1Lu1Ll1" ++
  "Lu1Ll1Lu1Ll1Lu1Ll1Lu1Ll1Lu1Ll1Lu1Ll1Lu1Ll1Lu1Ll1Lu1Ll1Lu1Ll1Lu1Ll1Lu1Ll1Lu1Ll1Lu1Ll1Lu1Ll1" ++
  "Lu1Ll7Lu2Ll1Lu2Ll2Lu1Ll1Lu4Ll1Lu1Ll1Lu1Ll1Lu1Ll1Lu1Ll1xLo1LlrLmiSk4LmcSkeLm5Sk7Lm1Sk1Lm1Skh" ++
  "Mn34Lu1Ll1Lu1Ll1Lm1Sk1Lu1Ll1Cn2Lm1Ll3Po1Lu1Cn4Sk2Lu1Po1Lu3Cn1Lu1Cn1Lu2Ll1LuhCn1Lu9LlzLu1Ll2" ++
  "Lu3Ll3Lu1Ll1Lu1Ll1Lu1Ll1Lu1Ll1Lu1Ll1Lu1Ll1Lu1Ll1Lu1Ll1Lu1Ll1Lu1Ll1Lu1Ll1Lu1Ll5Lu1Ll1Sm1Lu1" ++
  "Ll1Lu2Ll2Lu1fLl1cLu1Ll1Lu1Ll1Lu1Ll1Lu1Ll1Lu1Ll1Lu1Ll1Lu1Ll1Lu1Ll1Lu1Ll1Lu1Ll1Lu1Ll1Lu1Ll1Lu1" ++
  "Ll1Lu1Ll1Lu1Ll1Lu1Ll1Lu1Ll1So1Mn5Me2Lu1Ll1Lu1Ll1Lu1Ll1Lu1Ll1Lu1Ll1Lu1Ll1Lu1Ll1Lu1Ll1Lu1Ll1" ++
  "Lu1Ll1Lu1Ll1Lu1Ll1Lu1Ll1Lu1Ll1Lu1Ll1Lu1Ll1Lu1Ll1Lu1Ll1Lu1Ll1Lu1Ll1Lu1Ll1Lu1Ll1Lu1Ll1Lu1Ll1" ++
  "Lu1Ll1Lu1Ll1Lu1Ll1Lu2Ll1Lu1Ll1Lu1Ll1Lu1Ll1Lu1Ll1Lu1Ll1Lu1Ll2Lu1Ll1Lu1Ll1Lu1Ll1Lu1Ll1Lu1Ll1" ++
  "Lu1Ll1Lu1Ll1Lu1Ll1Lu1Ll1Lu1Ll1Lu1Ll1Lu1Ll1Lu1Ll1Lu1Ll1Lu1Ll1Lu1Ll1Lu1Ll1Lu1Ll1Lu1Ll1Lu1Ll1" ++
  "Lu1Ll1Lu1Ll1Lu1Ll1Lu1Ll1Lu1Ll1Lu1Ll1Lu1Ll1Lu1Ll1Lu1Ll1Lu1Ll1Lu1Ll1Lu1Ll1Lu1Ll1Lu1Ll1Lu1Ll1" ++
  "Lu1Ll1Lu1Ll1Lu1Ll1Lu1Ll1Lu1Ll1Lu1Ll1Lu1Ll1Lu1Ll1Lu1Ll1Lu1Ll1Lu1Ll1Lu1Ll1Lu1Ll1Cn1Lu12Cn2Lm1" ++
  "Po6Ll15Po1Pd1Cn2So2Sc1Cn1Mn19Pd1Mn1Po1Mn2Po1Mn2Po1Mn1Cn8LorCn4Lo4Po2CnbCf6Sm3Po2Sc1Po2So2Mnb" ++
  "Po1Cf1Po3LowLm1LoaMnlNdaPo4Lo2Mn1Lo2rPo1Lo1Mn7Cf1So1Mn6Lm2Mn2So1Mn4Lo2NdaLo3So2Lo1PoeCn1Cf1" ++
  "Lo1Mn1LouMnrCn2Lo2hMnbLo1CneNdaLoxMn9Lm2So1Po3Lm1Cn2Mn1Sc2LomMn4Lm1Mn9Lm1Mn3Lm1Mn5Cn2PofCn1" ++
  "LopMn3Cn2Po1Cn1LobCn5LooSk1Lo6Cn1Cf2Cn6Mn8Lo15Lm1MnoCf1MnwMc1Lo1iMn1Mc1Mn1Lo1Mc3Mn8Mc4Mn1Mc2" ++
  "Lo1Mn7LoaMn2Po2NdaPo1Lm1LofMn1Mc2Cn1Lo8Cn2Lo2Cn2LomCn1Lo7Cn1Lo1Cn3Lo4Cn2Mn1Lo1Mc3Mn4Cn2Mc2" ++
  "Cn2Mc2Mn1Lo1Cn8Mc1Cn4Lo2Cn1Lo3Mn2Cn2NdaLo2Sc2No6So1Sc1Lo1Po1Mn1Cn2Mn2Mc1Cn1Lo6Cn4Lo2Cn2Lom" ++
  "Cn1Lo7Cn1Lo2Cn1Lo2Cn1Lo2Cn2Mn1Cn1Mc3Mn2Cn4Mn2Cn2Mn3Cn3Mn1Cn7Lo4Cn1Lo1Cn7NdaMn2Lo3Mn1Po1Cna" ++
  "Mn2Mc1Cn1Lo9Cn1Lo3Cn1LomCn1Lo7Cn1Lo2Cn1Lo5Cn2Mn1Lo1Mc3Mn5Cn1Mn2Mc1Cn1Mc2Mn1Cn2Lo1CnfLo2Mn2" ++
  "Cn2NdaPo1Sc1Cn7Lo1Mn6Cn1Mn1Mc2Cn1Lo8Cn2Lo2Cn2LomCn1Lo7Cn1Lo2Cn1Lo5Cn2Mn1Lo1Mc1Mn1Mc1Mn4Cn2" ++
  "Mc2Cn2Mc2Mn1Cn7Mn2Mc1Cn4Lo2Cn1Lo3Mn2Cn2NdaSo1Lo1No6CnaMn1Lo1Cn1Lo6Cn3Lo3Cn1Lo4Cn3Lo2Cn1Lo1" ++
  "Cn1Lo2Cn3Lo2Cn3Lo3Cn3LocCn4Mc2Mn1Mc2Cn3Mc3Cn1Mc3Mn1Cn2Lo1Cn6Mc1CneNdaNo3So6Sc1So1Cn5Mn1Mc3" ++
  "Mn1Lo8Cn1Lo3Cn1LonCn1LogCn2Mn1Lo1Mn3Mc4Cn1Mn3Cn1Mn4Cn7Mn2Cn1Lo3Cn2Lo1Cn2Lo2Mn2Cn2NdaCn7Po1" ++
  "No7So1Lo1Mn1Mc2Po1Lo8Cn1Lo3Cn1LonCn1LoaCn1Lo5Cn2Mn1Lo1Mc1Mn1Mc5Cn1Mn1Mc2Cn1Mc2Mn2Cn7Mc2Cn6" ++
  "Lo2Cn1Lo2Mn2Cn2NdaCn1Lo2Mc1CncMn2Mc2Lo9Cn1Lo3Cn1Lo15Mn2Lo1Mc3Mn4Cn1Mc3Cn1Mc3Mn1Lo1So1Cn4Lo3" ++
  "Mc1No7Lo3Mn2Cn2NdaNo9So1Lo6Cn1Mn1Mc2Cn1LoiCn3LooCn1Lo9Cn1Lo1Cn2Lo7Cn3Mn1Cn4Mc3Mn3Cn1Mn1Cn1" ++
  "Mc8Cn6NdaCn2Mc2Po1CncLo1cMn1Lo2Mn7Cn4Sc1Lo6Lm1Mn8Po1NdaPo2Cn11Lo2Cn1Lo1Cn1Lo5Cn1LooCn1Lo1Cn1" ++
  "LoaMn1Lo2Mn9Lo1Cn2Lo5Cn1Lm1Cn1Mn7Cn1NdaCn2Lo4CnwLo1So3PofSo1Po1So3Mn2So6NdaNoaSo1Mn1So1Mn1" ++
  "So1Mn1Ps1Pe1Ps1Pe1Mc2Lo8Cn1Lo10Cn4MneMc1Mn5Po1Mn2Lo5MnbCn1Mn10Cn1So8Mn1So6Cn1So2Po5So4Po2" ++
  "Cn11Lo17Mc2Mn4Mc1Mn6Mc1Mn2Mc2Mn2Lo1NdaPo6Lo6Mc2Mn2Lo4Mn3Lo1Mc3Lo2Mc7Lo3Mn4LodMn1Mc2Mn2Mc6Mn1" ++
  "Lo1Mc1NdaMc3Mn1So2Lu12Cn1Lu1Cn5Lu1Cn2Ll17Po1Lm1Ll3Lo95Cn1Lo4Cn2Lo7Cn1Lo1Cn1Lo4Cn2Lo15Cn1Lo4" ++
  "Cn2LoxCn1Lo4Cn2Lo7Cn1Lo1Cn1Lo4Cn2LofCn1Lo1lCn1Lo4Cn2Lo1vCn2Mn3Po9NokCn3LogSoaCn6Lu2eCn2Ll6" ++
  "Cn2Pd1Loh8So1Po1LohZs1LoqPs1Pe1Cn3Lo23Po3Nl3Lo8Cn7LoiMn3Mc1Cn9LojMn2Mc1Po2Cn9LoiMn2CncLodCn1" ++
  "Lo3Cn1Mn2CncLo1gMn2Mc1Mn7Mc8Mn1Mc2MnbPo3Lm1Po3Sc1Lo1Mn1Cn2NdaCn6NoaCn6Po6Pd1Po4Mn3Cf1Mn1Nda" ++
  "Cn6LozLm1Lo1hCn7Lo5Mn2LoyMn1Lo1Cn5Lo1yCnaLovCn1Mn3Mc4Mn2Mc3Cn4Mc2Mn1Mc6Mn3Cn4So1Cn3Po2NdaLou" ++
  "Cn2Lo5CnbLo18Cn4LoqCn6NdaNo1Cn3SoyLonMn2Mc2Mn1Cn2Po2Lo1hMc1Mn1Mc1Mn7Cn1Mn1Mc1Mn1Mc2Mn8Mc6Mna" ++
  "Cn2Mn1NdaCn6NdaCn6Po7Lm1Po6Cn2MneMe1MngCn1dMn4Mc1Lo1bMn1Mc1Mn5Mc1Mn1Mc5Mn1Mc2Lo8Cn3NdaPo7Soa" ++
  "Mn9So9Po2Cn1Mn2Mc1LouMc1Mn4Mc2Mn2Mc1Mn3Lo2NdaLo18Mn1Mc1Mn2Mc3Mn1Mc1Mn3Mc2Cn8Po4Lo10Mc8Mn8Mc2" ++
  "Mn2Cn3Po5NdaCn3Lo3NdaLouLm6Po2Ll9Cn7Lu17Cn2Lu3Po8Cn8Mn3Po1MndMc1Mn7Lo4Mn1Lo6Mn1Lo2Mc1Mn2Lo1" ++
  "Cn5Ll18Lm1rLldLm1LlyLm11Mn1sLu1Ll1Lu1Ll1Lu1Ll1Lu1Ll1Lu1Ll1Lu1Ll1Lu1Ll1Lu1Ll1Lu1Ll1Lu1Ll1Lu1" ++
  "Ll1Lu1Ll1Lu1Ll1Lu1Ll1Lu1Ll1Lu1Ll1Lu1Ll1Lu1Ll1Lu1Ll1Lu1Ll1Lu1Ll1Lu1Ll1Lu1Ll1Lu1Ll1Lu1Ll1Lu1" ++
  "Ll1Lu1Ll1Lu1Ll1Lu1Ll1Lu1Ll1Lu1Ll1Lu1Ll1Lu1Ll1Lu1Ll1Lu1Ll1Lu1Ll1Lu1Ll1Lu1Ll1Lu1Ll1Lu1Ll1Lu1" ++
  "Ll1Lu1Ll1Lu1Ll1Lu1Ll1Lu1Ll1Lu1Ll1Lu1Ll1Lu1Ll1Lu1Ll1Lu1Ll1Lu1Ll1Lu1Ll1Lu1Ll1Lu1Ll1Lu1Ll1Lu1" ++
  "Ll1Lu1Ll1Lu1Ll1Lu1Ll1Lu1Ll1Lu1Ll1Lu1Ll1Lu1Ll1Lu1Ll1Lu1Ll1Lu1Ll1Lu1Ll1Lu1Ll1Lu1Ll1Lu1Ll1Lu1" ++
  "Ll1Lu1Ll1Lu1Ll1Lu1Ll1Lu1Ll9Lu1Ll1Lu1Ll1Lu1Ll1Lu1Ll1Lu1Ll1Lu1Ll1Lu1Ll1Lu1Ll1Lu1Ll1Lu1Ll1Lu1" ++
  "Ll1Lu1Ll1Lu1Ll1Lu1Ll1Lu1Ll1Lu1Ll1Lu1Ll1Lu1Ll1Lu1Ll1Lu1Ll1Lu1Ll1Lu1Ll1Lu1Ll1Lu1Ll1Lu1Ll1Lu1" ++
  "Ll1Lu1Ll1Lu1Ll1Lu1Ll1Lu1Ll1Lu1Ll1Lu1Ll1Lu1Ll1Lu1Ll1Lu1Ll1Lu1Ll1Lu1Ll1Lu1Ll1Lu1Ll1Lu1Ll1Lu1" ++
  "Ll1Lu1Ll1Lu1Ll1Lu1Ll1Lu1Ll1Lu1Ll1Lu1Ll1Lu1Ll1Lu1Ll9Lu8Ll6Cn2Lu6Cn2Ll8Lu8Ll8Lu8Ll6Cn2Lu6Cn2" ++
  "Ll8Cn1Lu1Cn1Lu1Cn1Lu1Cn1Lu1Ll8Lu8LleCn2Ll8Lt8Ll8Lt8Ll8Lt8Ll5Cn1Ll2Lu4Lt1Sk1Ll1Sk3Ll3Cn1Ll2" ++
  "Lu4Lt1Sk3Ll4Cn2Ll2Lu4Cn1Sk3Ll8Lu5Sk3Cn2Ll3Cn1Ll2Lu4Lt1Sk2Cn1ZsbCf5Pd6Po2Pi1Pf1Ps1Pi2Pf1Ps1" ++
  "Pi1Po8Zl1Zp1Cf5Zs1Po9Pi1Pf1Po4Pc2Po3Sm1Ps1Pe1PobSm1Po1Pc1PoaZs1Cf5Cn1CfaNo1Lm1Cn2No6Sm3Ps1" ++
  "Pe1Lm1NoaSm3Ps1Pe1Cn1LmdCn3ScxCnfMndMe4Mn1Me3MncCnfSo2Lu1So4Lu1So2Ll1Lu3Ll2Lu3Ll1So1Lu1So2" ++
  "Sm1Lu5So6Lu1So1Lu1So1Lu1So1Lu4So1Ll1Lu4Ll1Lo4Ll1So2Ll2Lu2Sm5Lu1Ll4So1Sm1So2Ll1So1NogNlzLu1" ++
  "Ll1Nl4No1So2Cn4Sm5So5Sm2So4Sm1So2Sm1So2Sm1So7Sm1SovSm2So2Sm1So1Sm1SovSm7gSo8Ps1Pe1Ps1Pe1Sok" ++
  "Sm2So7Ps1Pe1So29Sm1SouSmpSo14Sm6So1xCnpSobCnlNo1oSo26NomSo53Sm1So9Sm1So1iSm8So33Sm1So6wPs1" ++
  "Pe1Ps1Pe1Ps1Pe1Ps1Pe1Ps1Pe1Ps1Pe1Ps1Pe1NouSo18Sm5Ps1Pe1SmvPs1Pe1Ps1Pe1Ps1Pe1Ps1Pe1Ps1Pe1Smg" ++
  "So74Sm3nPs1Pe1Ps1Pe1Ps1Pe1Ps1Pe1Ps1Pe1Ps1Pe1Ps1Pe1Ps1Pe1Ps1Pe1Ps1Pe1Ps1Pe1Sm1rPs1Pe1Ps1Pe1" ++
  "SmwPs1Pe1Sm76So1cSmlSo2Sm6So13Cn2SowCn1So2xLu1cLl1cLu1Ll1Lu3Ll2Lu1Ll1Lu1Ll1Lu1Ll1Lu4Ll1Lu1" ++
  "Ll2Lu1Ll6Lm2Lu3Ll1Lu1Ll1Lu1Ll1Lu1Ll1Lu1Ll1Lu1Ll1Lu1Ll1Lu1Ll1Lu1Ll1Lu1Ll1Lu1Ll1Lu1Ll1Lu1Ll1" ++
  "Lu1Ll1Lu1Ll1Lu1Ll1Lu1Ll1Lu1Ll1Lu1Ll1Lu1Ll1Lu1Ll1Lu1Ll1Lu1Ll1Lu1Ll1Lu1Ll1Lu1Ll1Lu1Ll1Lu1Ll1" ++
  "Lu1Ll1Lu1Ll1Lu1Ll1Lu1Ll1Lu1Ll1Lu1Ll1Lu1Ll1Lu1Ll1Lu1Ll1Lu1Ll1Lu1Ll1Lu1Ll1Lu1Ll1Lu1Ll1Lu1Ll1" ++
  "Lu1Ll1Lu1Ll1Lu1Ll1Lu1Ll1Lu1Ll1Lu1Ll1Lu1Ll2So6Lu1Ll1Lu1Ll1Mn3Lu1Ll1Cn5Po4No1Po2Ll12Cn1Ll1Cn5" ++
  "Ll1Cn2Lo1kCn7Lm1Po1CneMn1LonCn9Lo7Cn1Lo7Cn1Lo7Cn1Lo7Cn1Lo7Cn1Lo7Cn1Lo7Cn1Lo7Cn1MnwPo2Pi1Pf1" ++
  "Pi1Pf1Po3Pi1Pf1Po1Pi1Pf1Po9Pd1Po2Pd1Po1Pi1Pf1Po2Pi1Pf1Ps1Pe1Ps1Pe1Ps1Pe1Ps1Pe1Po5Lm1PoaPd2" ++
  "Po4Pd1Po1Ps1PodSo2Po3Ps1Pe1Ps1Pe1Ps1Pe1Ps1Pe1Pd1CnySoqCn1So2hCncSo5yCnqSocCn4Zs1Po3So1Lm1Lo1" ++
  "Nl1Ps1Pe1Ps1Pe1Ps1Pe1Ps1Pe1Ps1Pe1So2Ps1Pe1Ps1Pe1Ps1Pe1Ps1Pe1Pd1Ps1Pe2So1Nl9Mn4Mc2Pd1Lm5So2" ++
  "Nl3Lm1Lo1Po1So2Cn1Lo2eCn2Mn2Sk2Lm2Lo1Pd1Lo2iPo1Lm3Lo1Cn5Lo17Cn1Lo2mCn1So2No4SoaLowSo10CncLog" ++
  "SovCn1NoaSouNo8So1NofSowNoaSo13NofSo8wLo534So1sLog7pLm1LovrCn3So1jCn9Lo14Lm6Po2Lo7gLm1Po3Log" ++
  "NdaLo2CnkLu1Ll1Lu1Ll1Lu1Ll1Lu1Ll1Lu1Ll1Lu1Ll1Lu1Ll1Lu1Ll1Lu1Ll1Lu1Ll1Lu1Ll1Lu1Ll1Lu1Ll1Lu1" ++
  "Ll1Lu1Ll1Lu1Ll1Lu1Ll1Lu1Ll1Lu1Ll1Lu1Ll1Lu1Ll1Lu1Ll1Lu1Ll1Lo1Mn1Me3Po1MnaPo1Lm1Lu1Ll1Lu1Ll1" ++
  "Lu1Ll1Lu1Ll1Lu1Ll1Lu1Ll1Lu1Ll1Lu1Ll1Lu1Ll1Lu1Ll1Lu1Ll1Lu1Ll1Lu1Ll1Lu1Ll1Lm2Mn2Lo1yNlaMn2Po6" ++
  "Cn8SknLm9Sk2Lu1Ll1Lu1Ll1Lu1Ll1Lu1Ll1Lu1Ll1Lu1Ll1Lu1Ll3Lu1Ll1Lu1Ll1Lu1Ll1Lu1Ll1Lu1Ll1Lu1Ll1" ++
  "Lu1Ll1Lu1Ll1Lu1Ll1Lu1Ll1Lu1Ll1Lu1Ll1Lu1Ll1Lu1Ll1Lu1Ll1Lu1Ll1Lu1Ll1Lu1Ll1Lu1Ll1Lu1Ll1Lu1Ll1" ++
  "Lu1Ll1Lu1Ll1Lu1Ll1Lu1Ll1Lu1Ll1Lu1Ll1Lu1Ll1Lu1Ll1Lu1Ll1Lu1Ll1Lm1Ll8Lu1Ll1Lu1Ll1Lu2Ll1Lu1Ll1" ++
  "Lu1Ll1Lu1Ll1Lu1Ll1Lm1Sk2Lu1Ll1Lu1Ll1Lo1Lu1Ll1Lu1Ll3Lu1Ll1Lu1Ll1Lu1Ll1Lu1Ll1Lu1Ll1Lu1Ll1Lu1" ++
  "Ll1Lu1Ll1Lu1Ll1Lu1Ll1Lu5Ll1Lu5Ll1Lu1Ll1Lu1Ll1Lu1Ll1Lu1Ll1Lu1Ll1Lu1Ll1Lu1Ll1Lu4Ll1Lu1Ll1Cn5" ++
  "Lu1Ll1Cn1Ll1Cn1Ll1Lu1Ll1Lu1Ll1CnoLm3Lu1Ll1Lo1Lm2Ll1Lo7Mn1Lo3Mn1Lo4Mn1LonMc2Mn2Mc1So4Mn1Cn3" ++
  "No6So2Sc1So1Cn6Lo1gPo4Cn8Mc2Lo1eMcgMn2Cn8Po2NdaCn6MniLo6Po3Lo1Po1Lo2Mn1NdaLosMn8Po2LonMnbMc2" ++
  "CnbPo1LotCn3Mn3Mc1Lo1bMn1Mc2Mn4Mc2Mn2Mc3PodCn1Lm1NdaCn4Po2Lo5Mn1Lm1Lo9NdaLo5Cn1Lo15Mn6Mc2Mn2" ++
  "Mc2Mn2Cn9Lo3Mn1Lo8Mn1Mc1Cn2NdaCn2Po4LogLm1Lo6So3Lo1Mc1Mn1Mc1Lo1eMn1Lo1Mn3Lo2Mn2Lo5Mn2Lo1Mn1" ++
  "Lo1CnoLo2Lm1Po2LobMc1Mn2Mc2Po2Lo1Lm2Mc1Mn1CnaLo6Cn2Lo6Cn2Lo6Cn9Lo7Cn1Lo7Cn1Ll17Sk1Lm4Ll9Lm1" ++
  "Sk2Cn4Ll28LozMc2Mn1Mc2Mn1Mc2Po1Mc1Mn1Cn2NdaCn6Lo8mcCncLonCn4Lo1dCn4Cs1kwCo4xsLoa6Cn2Lo2yCn12" ++
  "Ll7CncLl5Cn5Lo1Mn1LoaSm1LodCn1Lo5Cn1Lo1Cn1Lo2Cn1Lo2Cn1Lo30SkhCngLoa3Pe1Ps1SogLo1sCn2Lo1iCn7" ++
  "So1CnwLocSc1So3MngPo7Ps1Pe1Po1Cn6MngPo1Pd2Pc2Ps1Pe1Ps1Pe1Ps1Pe1Ps1Pe1Ps1Pe1Ps1Pe1Ps1Pe1Ps1" ++
  "Pe1Po2Ps1Pe1Po4Pc3Po3Cn1Po4Pd1Ps1Pe1Ps1Pe1Ps1Pe1Po3Sm1Pd1Sm3Cn1Po1Sc1Po2Cn4Lo5Cn1Lo3rCn2Cf1" ++
  "Cn1Po3Sc1Po3Ps1Pe1Po1Sm1Po1Pd1Po2NdaPo2Sm3Po2LuqPs1Po1Pe1Sk1Pc1Sk1LlqPs1Sm1Pe1Sm1Ps1Pe1Po1" ++
  "Ps1Pe1Po2LoaLm1Lo19Lm2LovCn3Lo6Cn2Lo6Cn2Lo6Cn2Lo3Cn3Sc2Sm1Sk1So1Sc2Cn1So1Sm4So2CnaCf3So2Cn2" ++
  "LocCn1LoqCn1LojCn1Lo2Cn1LofCn2LoeCnyLo3fCn5Po3Cn4No19Cn3So9Nl1hNo4SohNo2So3Cn1SodCn3So1Cn1b" ++
  "So19Mn1Cn3mLotCn3Lo1dCnfMn1NorCn4LowNo4Cn9LokNl1Lo8Nl1Cn5Lo12Mn5Cn5LouCn1Po1Lo10Cn4Lo8Po1Nl5" ++
  "Cn16Lu14Ll14Lo26Cn2NdaCn6Lu10Cn4Ll10Cn4Lo14Cn8Lo1gCnbPo1LubCn1LufCn1Lu7Cn1Lu2Cn1LlbCn1LlfCn1" ++
  "Ll7Cn1Ll2Cn1vLo8nCn9LomCnaLo8CnoLm6Cn1Lm16Cn1Lm9Cn1xLo6Cn2Lo1Cn1Lo18Cn1Lo2Cn3Lo1Cn2LonCn1Po1" ++
  "No8LonSo2No7LovCn8No9Cn1cLojCn1Lo2Cn5No5LomNo6Cn3Po1LoqCn5Po1Cn1sLo1kCn4No2Lo2NogCn2No1aLo1" ++
  "Mn3Cn1Mn2Cn5Mn4Lo4Cn1Lo3Cn1LotCn2Mn3Cn4Mn1No9Cn7Po9Cn7LotNo2Po1LotNo3CnwLo8So1LosMn2Cn4No5" ++
  "Po7Cn9Lo1iCn3Po7LomCn2No8LojCn5No8LoiCn7Po4CncNo7Cn28Lo21Cn1jLu1fCndLl1fCn7No6Lo10Mn4Cn8Nda" ++
  "Cn86NovCn1Lo16Cn1Mn2Pd1Cn2Lo2Cn23Mn3LotNoaLo1Cn8LomMnbNo4Po5CnmLoiMn4Po4Cn12LolNo7CnkLonCn9" ++
  "Mc1Mn1Mc1Lo1hMnfPo7Cn4NokNdaMn1Lo2Mn2Lo1Cn9Mn3Mc1Lo19Mc3Mn4Mc2Mn2Po2Cf1Po4Mn1CnaCf1Cn2LopCn7" ++
  "NdaCn6Mn3Lo10Mn5Mc1Mn8Cn1NdaPo4Lo1Mc2Lo1Cn8LozMn1Po2Lo1Cn9Mn2Mc1Lo1cMc3Mn9Mc2Lo4Po4Mn4Po1Mc1" ++
  "Mn1NdaLo1Po1Lo1Po3Cn1NokCnbLoiCn1LopMc3Mn3Mc2Mn1Mc1Mn2Po6Mn1Lo2Mn1Cn1qLo7Cn1Lo1Cn1Lo4Cn1Lof" ++
  "Cn1LoaPo1Cn6Lo1bMn1Mc3Mn8Cn5NdaCn6Mn2Mc2Cn1Lo8Cn2Lo2Cn2LomCn1Lo7Cn1Lo2Cn1Lo5Cn1Mn2Lo1Mc2Mn1" ++
  "Mc4Cn2Mc2Cn2Mc3Cn2Lo1Cn6Mc1Cn5Lo5Mc2Cn2Mn7Cn3Mn5Cn3vLo1hMc3Mn8Mc2Mn3Mc1Mn1Lo4Po5NdaPo2Cn1Po1" ++
  "Mn1Lo3CnuLo1cMc3Mn6Mc1Mn1Mc4Mn2Mc1Mn2Lo2Po1Lo1Cn8NdaCn4mLo1bMc3Mn4Cn2Mc4Mn2Mc1Mn2PonLo4Mn2" ++
  "CnyLo1cMc3Mn8Mc2Mn1Mc1Mn2Po3Lo1CnbNdaCn6PodCnjLo17Mn1Mc1Mn1Mc2Mn6Mc1Mn1Lo1Po1Cn6NdaCn1iLor" ++
  "Cn2Mn3Mc2Mn4Mc1Mn5Cn4NdaNo2Po3So1Lo7Cn55Lo18Mc3Mn9Mc1Mn2Po1Cn2sLuwLlwNdaNo9CncLo8Cn2Lo1Cn2" ++
  "Lo8Cn1Lo2Cn1LooMc6Cn1Mc2Cn2Mn2Mc1Mn1Lo1Mc1Lo1Mc1Mn1Po3Cn9NdaCn1yLo8Cn2Lo13Mc3Mn4Cn2Mn2Mc4Mn1" ++
  "Lo1Po1Lo1Mc1CnrLo1MnaLo14Mn6Mc1Lo1Mn4Po8Mn1Cn8Lo1Mn6Mc2Mn3Lo1aMndMc1Mn2Po3Lo1Po5CndLo21Cn7" ++
  "PoaCn6uLo9Cn1Lo11Mc1Mn7Cn1Mn6Mc1Mn1Lo1Po5CnaNdaNojCn3Po2LouCn2MnmCn1Mc1Mn7Mc1Mn2Mc1Mn2Cn21" ++
  "Lo7Cn1Lo2Cn1Lo12Mn6Cn3Mn1Cn1Mn2Cn1Mn7Lo1Mn1Cn8NdaCn6Lo6Cn1Lo2Cn1LowMc5Cn1Mn2Cn1Mc2Mn1Mc1Mn1" ++
  "Lo1Cn7NdaCn8mLojMn2Mc2Po2Cn7Mn2Lo1Mc1LodCn1LoyMc2Mn5Cn3Mc2Mn1Mc1Mn1PodNdaCn2eLo1CnfNolSo8Sc4" ++
  "SohCndPo1LopmCn2uNl33Cn1Po5CnbLo5gCn218Lo2pPo2CndLotsCfgMn1Lo6MnfCn33eLog7Cn6ntLoftCn7LovCn1" ++
  "NdaCn4Po2Lo27Cn1NdaCn6LouCn2Mn5Po1CnaLo1cMn7Po5So4Lm4Po1So1CnaNdaCn1No7Cn1LolCn5LojCnj4Luw" ++
  "LlwNonPo4Cn2tLo23Cn4Mn1Lo1Mc1jCn7Mn4LmdCn1sLm2Po1Lm1Mn1CnbMc2CneLo4qgCn8LoyeCn16Lo9Cn6w7Lm4" ++
  "Cn1Lm7Cn1Lm2Cn1Lo83CnfLo1CntLo3Cn2Lo1CneLo4Cn8Lob0Cn1s4Lo2zCn5LodCn3Lo9Cn7LoaCn2So1Mn2Po1Cf4" ++
  "Cn3mkMn1aCn2MnnCn9So38Cn1oSo6uCnaSo13Cn2So1oMc2Mn3So3Mc6Cf8Mn8So2Mn7SouMn4So1pCnlSo1uMn3So1" ++
  "Cn3eNokCncNokCncSo2fCn9NopCn3rLuqLlqLuqLl7Cn1LliLuqLlqLu1Cn1Lu2Cn2Lu1Cn2Lu2Cn2Lu4Cn1Lu8Ll4" ++
  "Cn1Ll1Cn1Ll7Cn1LlbLuqLlqLu2Cn1Lu4Cn2Lu8Cn1Lu7Cn1LlqLu2Cn1Lu4Cn1Lu5Cn1Lu1Cn3Lu7Cn1LlqLuqLlq" ++
  "LuqLlqLuqLlqLuqLlqLuqLlqLuqLlsCn2LupSm1LlpSm1Ll6LupSm1LlpSm1Ll6LupSm1LlpSm1Ll6LupSm1LlpSm1" ++
  "Ll6LupSm1LlpSm1Ll6Lu1Ll1Cn2Nd1eSoe8Mn1jSo4Mn1eSo8Mn1SoeMn1So2Po5CnfMn5Cn1MnfCnuoLlaLo1LlkCn6" ++
  "Ll6Cn5xMn7Cn1MnhCn2Mn7Cn1Mn2Cn1Mn5Cn5Lm1qCnxMn1Cn34Lo19Cn3Mn7Lm7Cn2NdaCn4Lo1So1Cn8wLouMn1Cnh" ++
  "Lo18Mn4NdaCn5Sc1CncwLorLm1Mn4NdaCnkmLo7Cn1Lo4Cn1Lo2Cn1LofCn1Lo5hCn2No9Mn7Cn15LuyLlyMn7Lm1Cn4" ++
  "NdaCn4Po2CnltNo1nSo1No3Sc1No4Cn24No19So1NofCn5eLo4Cn1LorCn1Lo2Cn1Lo1Cn2Lo1Cn1LoaCn1Lo4Cn1Lo1" ++
  "Cn1Lo1Cn6Lo1Cn4Lo1Cn1Lo1Cn1Lo1Cn1Lo3Cn1Lo2Cn1Lo1Cn2Lo1Cn1Lo1Cn1Lo1Cn1Lo1Cn1Lo1Cn1Lo2Cn1Lo1" ++
  "Cn2Lo4Cn1Lo7Cn1Lo4Cn1Lo4Cn1Lo1Cn1LoaCn1LohCn5Lo3Cn1Lo5Cn1LohCn1gSm2Cn7iSo18Cn4So2sCncSofCn2" ++
  "SofCn1SofCn1So11CnaNodSo4hCn1kSotCndSo18Cn4So9Cn7So2CneSo6Cn4aSo6zSk5Sok8Cn4SohCn3SodCn3So3b" ++
  "Cn4So2nCn6SocCn4So1CnfSocCn4So1kCn8SoaCn6So14Cn8SouCn2So2Cn26So9gCncSoeCn2SodCn3So9Cn7So1a" ++
  "Cn1So7Cn8SoeCn4So9Cn7So9Cn7So43Cn1So1jCn11NdaCnsmLowyoCnwLo37eCn6Lo66Cn2Lo4g2CneLo5rlCn2e7" ++
  "Lof2Cn15uLo3t7Cn5Lo38gCnf975Cf1CnuCf2oCn3kMn6oCn1e6oCo1ekeCn2Co1ekeCn2"

/-- The categories of all code points, as runs from code point 0 upwards. -/
def categoryRuns : List (Category × Nat) :=
  (readRuns ('C', 'n') [] categoryText.toList).drop 1

/-- The category of a code point, counted from the start of a list of runs. -/
def categoryIn : List (Category × Nat) → Nat → Category
  | [], _ => ('C', 'n')
  | run :: runs, code => if code < run.2 then run.1 else categoryIn runs (code - run.2)

/-- The general category of a character. -/
def categoryOf (c : Char) : Category :=
  categoryIn categoryRuns c.toNat

/-- The closed ranges of the code points whose category passes a test. -/
def categoryRanges (test : Category → Bool) : List (Nat × Nat) :=
  (categoryRuns.foldl
    (fun (state : Nat × List (Nat × Nat)) run =>
      (state.1 + run.2,
        if test run.1 then (state.1, state.1 + run.2 - 1) :: state.2 else state.2))
    (0, [])).2.reverse

/-- Characters that extend the one before them on the page, such as accents. -/
def extendingRanges : List (Nat × Nat) :=
  storedRanges <|
    "lc 34 7n 7 7b 19 1 1 1 2 1 2 1 1 20 b 1c l g 1 2t 7 2 6 2 2 1 4 z 1 u r 2j b 1m 9 9 1 o " ++
    "4 1 9 1 3 1 5 17 3 1o 8 16 o 1 w 1j 1 1 1 4 8 4 1 3 7 a 2 t 1 1m 1 1 1 2 4 8 1 9 1 a 2 q " ++
    "1 2 2 1l 1 4 2 4 2 2 3 3 1 u 2 3 1 b 2 1l 1 4 5 1 2 4 1 k 2 m 6 1 1 1m 1 1 2 1 4 8 1 7 3 " ++
    "a 2 u 1 1n 1 1 1 c 1 9 1 14 1 3 1 1j 1 1 3 5 3 1 4 7 2 b 2 t 1 1m 1 2 1 2 1 3 1 5 2 7 2 " ++
    "b 2 s 2 1l 2 1 1 2 4 8 1 9 1 a 2 t 1 20 1 4 1 2 3 1 1 8 1 29 1 2 7 c 8 2q 1 2 9 b 7 21 2 " ++
    "r 1 1 1 1 1 1j e 1 5 1 2 5 b 1 10 9 1 2u 4 1 6 1 2 2 2 p 2 4 3 g 4 d 1 2 2 6 1 f 1 jj 3 " ++
    "qa 3 t 2 u 2 u 2 1s 2 1 7 8 1 2 b 9 1 19 3 1 1 39 2 y 1 3a 3 4 2 9 1 6 3 63 2 2 1 1m 1 1 " ++
    "7 1 1 1 1 2 8 6 a 2 1 1c v 1d 4 1c 7 1 1 5 1 14 9 c 2 w 4 2 2 1 3 1k 1 1 2 3 1 1 3 1m 8 " ++
    "2 2 48 3 1 d 1 7 4 1 6 1 3 2 5i 1s ek 1 5f x 2da 3 3x 1 2o w fe 6 2x 2 n9w 4 1 a w 2 28 " ++
    "2 7k 1 3 1 4 1 p 2 5 1 47 2 q i d 1 12 8 p b 1a 3 1c 1 2 4 2 2 13 1 1v 6 2 2 2 2 c 1 8 1 " ++
    "1b 1 1f 1 1 3 2 2 5 2 1 1 16 2 8 1 6m 1 2 1 4 1 fn4 1 kh g g g a6 2 gt 1 6a 1 45 5 1ae 3 " ++
    "1 2 5 4 14 3 4 1 4l 2 fx 4 ar 2 28 3 1y b 1d 4 3f 1 1i f 15 1 2 2 a 3 1d 4 2 2 7 1 1p 3 " ++
    "10 5 1 8 1q 1 c 2 1g 9 a 4 2 1 2n 3 2 1 1 2 6 1 2 1 4d 1 3 8 l 2 1l 2 1 1 1 1 m 1 e 7 3 " ++
    "5 5f 8 2 3 1 1 n 1 29 1 2 6 1 1 2 1 1 2 1 2 6j 1 2 4 6 2 1 2 r 2 2d 8 2 1 1 2 2y 1 1 1 2 " ++
    "6 1 1 2t 3 2 4 1 5 77 9 1 2 6t 1 a 2 1 1 4 1 40 4 2 2 4 1 w a 14 6 2 4 8 1 9 6 2 3 1a d " ++
    "1 2 ba 7 1 6 1 1 2a m 2 7 1 2 1 2 3e 6 3 1 1 2 1 7 1 1 20 2 3 1 1 1 9n 2 b 2 1g 5 5 1 1 " ++
    "1 459 1 6 f asa 5 1n 7 t4 1 1r 4 29 1 f5k 2 3mp 1a 2 n f2 1 1 3 4 5 8 8 2 7 u 4 44 3 1iz " ++
    "1j 4 1e 8 1 e 1 m 5 1 f 11s 7 1 h 2 7 1 2 1 5 2s 1 4g 7 af 1 1p 4 e4 4 rk 7 31 7 gzbp 2o " ++
    "3k 6o"

/-- Whether a character extends the one before it. -/
def isExtending (c : Char) : Bool :=
  inRanges extendingRanges c.toNat

/-- Whether a character shows as itself: it is no control, format, private or missing
character, and no space other than the blank. -/
def isPrintable (c : Char) : Bool :=
  c == ' ' || ((categoryOf c).1 != 'C' && (categoryOf c).1 != 'Z')

end Categories

end Text
end HeaderBindings
