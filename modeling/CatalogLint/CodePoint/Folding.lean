import CatalogLint.CodePoint.Boundaries

/-!
# Case folding

Two characters are equal up to case when their simple case foldings in Unicode 16 are. The
table lists the classes of this equivalence that have more than one member.
-/

namespace CatalogLint.CodePoint.Folding

/-- The classes that a list of distances writes: for each class the distance of its least
member from that of the class before, the number of further members, and the distance of each
from the one before. The first argument bounds the number of classes. -/
def classes : Nat → Nat → List Nat → List (List Nat)
  | bound + 1, last, distance :: count :: rest =>
    let least := last + distance
    (least :: Boundaries.sums least (rest.take count)) ::
      classes bound least (rest.drop count)
  | _, _, _ => []

/-- The classes of characters equal up to case. -/
def table : List (List Nat) :=
  let distances := Boundaries.readDistances
    ["CnbBgbbBgbbBgbbBgbbBgbbBgbbBgbbBgbbBgbbBgbcBgMKlbbBgbbBgbbBgbbBgbbBgbbBgbbBgbcBgKibb",
     "BgbbBgbbBgbbBgbbBgbbBgbbBgDncBCpBglbBgbbBgbbBgbbBgbbBgbcBgMFubbBgbbBgbbBgbbBgbbBgbbB",
     "gbbBgbbBgbbBgbbBgbbBgbbBgbbBgbbBgbbBgbbBgbbBgcbBgbbBgbbBgbbBgbbBgbbBgbbBgbbLGxBgbErb",
     "bbcbbcbbcbbcbbcbbcbbcbbcbbcbbcbbcbbcbbcbbcbbcbbcbbcbbcbbcbbcbbcbbcbbcbbebbcbbcbbdbbc",
     "bbcbbcbbcbbcbbcbbcbbdbbcbbcbbcbbcbbcbbcbbcbbcbbcbbcbbcbbcbbcbbcbbcbbcbbcbbcbbcbbcbbc",
     "bbcbbdbbcbbcbbdbHnbbIcbbbcbbcbHybbbcbHxbbHxbbbdbDbbbHubbHvbbbcbHxbbHzbbDtbbIdbbIbbbb",
     "cbGhbbCKYzbbIdbbIfbbFabbIgbbbcbbcbbcbIkbbbcbIkdbbcbIkbbbcbIjbbIjbbbcbbcbIlbbbebbdbCe",
     "fcbbdcbbdcbbdbbcbbcbbcbbcbbcbbcbbcbbdbbcbbcbbcbbcbbcbbcbbcbbcbbdcbbdbbebbcbbcbbcbbcb",
     "bcbbcbbcbbcbbcbbcbbcbbcbbcbbcbbcbbcbbcbbcbbcbbebbcbbcbbcbbcbbcbbcbbcbbcbbibPZfbbbdbP",
     "ZcbbPZzbbPZzbbbdbCrbbCtbbbcbbcbbcbbcbbcbPYtbbPYqbbPYskbCKPrfbCKPndbCKQpbbCKOebbCKPge",
     "bCKPgbbPXfbbCKPdfbPXlmbPWpfbCKPffbCKOgwbCKNlbbCKNiGldDgBgKPxBrbbcbbebbfbFabbFabbFacb",
     "EmhbBmcbBlbbBlbbBlcbCmcbClbbClbbKShbbBgbcBgBebbBgbbBgbcBgCmbbBgbbBgbdBgzBjccBgCcbbBg",
     "cbBgbbBgbbBgbcBgwbcBgBwccBfbbbBgbbBgbcBgpbbBgbbBgbcBgLDdbbBgbbBgfbKRrBfbijbbcbbcbbcb",
     "bcbbcbbcbbcbbcbbcbbcbbcbbebhfbbdbbgbDcbbDcbbDcbbDcbbDcbbDcbbDcbbDcbbDcbbDcbbDcbbDcbb",
     "DcbbDcbbDcbbDcbbBgbbBgbcBgJFibbBgbcBgJFhbbBgbbBgbbBgbbBgbbBgbbBgbbBgbbBgbbBgbcBgJEyb",
     "bBgbbBgbcBgJEwbdBgJEwbbbBgbbBgbbBgbbBgbbBgbbBgbbBgbcBgJEqbbBgbbBgbbBgbbBgbbBgBxbbccb",
     "JDscbbcbbcbbcbbcbbcbbcbbcbbcbbcbbcbbcbbcbbcbbcbbkbbcbbcbbcbbcbbcbbcbbcbbcbbcbbcbbcbb",
     "cbbcbbcbbcbbcbbcbbcbbcbbcbbcbbcbbcbbcbbcbbcbbcbpbbbcbbcbbcbbcbbcbbcbbdbbcbbcbbcbbcbb",
     "cbbcbbcbbcbbcbbcbbcbbcbbcbbcbbcbbcbbcbbcbbcbbcbbcbbcbbcbbcbbcbbcbbcbbcbbcbbcbbcbbcbb",
     "cbbcbbcbbcbbcbbcbbcbbcbbcbbcbbcbbcbbcbbcbbcbbdbBwbbBwbbBwbbBwbbBwbbBwbbBwbbBwbbBwbbB",
     "wbbBwbbBwbbBwbbBwbbBwbbBwbbBwbbBwbbBwbbBwbbBwbbBwbbBwbbBwbbBwbbBwbbBwbbBwbbBwbbBwbbB",
     "wbbBwbbBwbbBwbbBwbbBwbbBwbbBwEHebKTkbbKTkbbKTkbbKTkbbKTkbbKTkbbKTkbbKTkbbKTkbbKTkbbK",
     "TkbbKTkbbKTkbbKTkbbKTkbbKTkbbKTkbbKTkbbKTkbbKTkbbKTkbbKTkbbKTkbbKTkbbKTkbbKTkbbKTkbb",
     "KTkbbKTkbbKTkbbKTkbbKTkbbKTkbbKTkbbKTkbbKTkbbKTkbbKTkcbKTkgbKTkdbELsbbELsbbELsbbELsb",
     "bELsbbELsbbELsbbELsbbELsbbELsbbELsbbELsbbELsbbELsbbELsbbELsbbELsbbELsbbELsbbELsbbELs",
     "bbELsbbELsbbELsbbELsbbELsbbELsbbELsbbELsbbELsbbELsbbELsbbELsbbELsbbELsbbELsbbELsbbEL",
     "sbbELsbbELsbbELsbbELsbbELsdbELsbbELsbbELsZxbCFMubbCFMubbCFMubbCFMubbCFMubbCFMubbCFMu",
     "bbCFMubbCFMubbCFMubbCFMubbCFMubbCFMubbCFMubbCFMubbCFMubbCFMubbCFMubbCFMubbCFMubbCFMu",
     "bbCFMubbCFMubbCFMubbCFMubbCFMubbCFMubbCFMubbCFMubbCFMubbCFMubbCFMubbCFMubbCFMubbCFMu",
     "bbCFMubbCFMubbCFMubbCFMubbCFMubbCFMubbCFMubbCFMubbCFMubbCFMubbCFMubbCFMubbCFMubbCFMu",
     "bbCFMubbCFMubbCFMubbCFMubbCFMubbCFMubbCFMubbCFMubbCFMubbCFMubbCFMubbCFMubbCFMubbCFMu",
     "bbCFMubbCFMubbCFMubbCFMubbCFMubbCFMubbCFMubbCFMubbCFMubbCFMubbCFMubbCFMubbCFMubbCFMu",
     "bbCFMubbCFMubbCFMubbibbibbibbibbibbiDGlcCAEkbbbbJgbCAGyebFQsrbCAIyEkbbcbbcbbcbbcbbcb",
     "bcbbcbbcbbcbbcbbcbbcbbcbbcbbcbbcbbcbbcbbcbbcbbcbbcbbcbbcbbcbbcbbcbbcbbcbbcbbcbbcbbcb",
     "bcbbcbbcbbcbbcbbcbbcbbcbbcbbcbbcbbcbbcbbcbbccbCgcbbcbbcbbcbbcbbcbbcbbcbbcbbcbbcbbcbb",
     "cbbcbbcbbcbbcbbcbbcbbcbbcbbcbbcbbcbbcbbcbbmbbcbbcbbcbbcbbcbbcbbcbbcbbcbbcbbcbbcbbcbb",
     "cbbcbbcbbcbbcbbcbbcbbcbbcbbcbbcbbcbbcbbcbbcbbcbbcbbcbbcbbcbbcbbcbbcbbcbbcbbcbbcbbcbb",
     "cbbcbbcbbcbbcbbcbbcbibbibbibbibbibbibbibbijbibbibbibbibbibbilbibbibbibbibbibbibbibbi",
     "jbibbibbibbibbibbibbibbijbibbibbibbibbibbimbicbicbicbijbibbibbibbibbibbibbibbijbCwbb",
     "CwbbDibbDibbDibbDibbDwbbDwbbEybbEybbEibbEibbEwbbEwdbibbibbibbibbibbibbibbijbibbibbib",
     "bibbibbibbibbijbibbibbibbibbibbibbibbijbibbicbjqbjnbibbipbibbiebhobjMhbBcBubqbbqbbqb",
     "bqbbqbbqbbqbbqbbqbbqbbqbbqbbqbbqbbqbbqubbBFnbBabbBabbBabbBabbBabbBabbBabbBabbBabbBab",
     "bBabbBabbBabbBabbBabbBabbBabbBabbBabbBabbBabbBabbBabbBabbBabbBaCSvbBwbbBwbbBwbbBwbbB",
     "wbbBwbbBwbbBwbbBwbbBwbbBwbbBwbbBwbbBwbbBwbbBwbbBwbbBwbbBwbbBwbbBwbbBwbbBwbbBwbbBwbbB",
     "wbbBwbbBwbbBwbbBwbbBwbbBwbbBwbbBwbbBwbbBwbbBwbbBwbbBwbbBwbbBwbbBwbbBwbbBwbbBwbbBwbbB",
     "wbbBwBxbbhbbcbbcbbhbbdbblbbcbbcbbcbbcbbcbbcbbcbbcbbcbbcbbcbbcbbcbbcbbcbbcbbcbbcbbcbb",
     "cbbcbbcbbcbbcbbcbbcbbcbbcbbcbbcbbcbbcbbcbbcbbcbbcbbcbbcbbcbbcbbcbbcbbcbbcbbcbbcbbcbb",
     "cbbcbbjbbcbbfbbBTYkbbcbbcbbcbbcbbebbcbbcbbcbbcbbcbbcbbcbbcbbcbbcbbcbbcbbcbbcbbcbbcbb",
     "ubbcbbcbbcbbcbbcbbcbbcbbcbbcbbcbbcbbcbbcbbFgbbcbbcbbcbbcbbcbbcbbebbcbbcbbcbbcbbcbbcb",
     "bcbbcbbcbbcbbcbbcbbcbbcbbcbbcbbcbbcbbcbbcbbcbbcbbcbbcbbcbbcbbcbbcbbcbbcbblbbcbbdbbcb",
     "bcbbcbbcbbfbbfbbcbbcbBwcbbcbbcbbcbbcbbcbbcbbcbbcbbcbblbBJsbbbcbbcbbcbbcbbcbbcbbcbbfb",
     "bcbbdbbebbgbbcbbcbbBbbbBFLwbbBOmbBgbbBgbbBgbbBgbbBgbbBgbbBgbbBgbbBgbbBgbbBgbbBgbbBgb",
     "bBgbbBgbbBgbbBgbbBgbbBgbbBgbbBgbbBgbbBgbbBgbbBgbbBgBVabBobbBobbBobbBobbBobbBobbBobbB",
     "obbBobbBobbBobbBobbBobbBobbBobbBobbBobbBobbBobbBobbBobbBobbBobbBobbBobbBobbBobbBobbB",
     "obbBobbBobbBobbBobbBobbBobbBobbBobbBobbBobbBoFhbBobbBobbBobbBobbBobbBobbBobbBobbBobb",
     "BobbBobbBobbBobbBobbBobbBobbBobbBobbBobbBobbBobbBobbBobbBobbBobbBobbBobbBobbBobbBobb",
     "BobbBobbBobbBobbBobbBoGbbBnbbBnbbBnbbBnbbBnbbBnbbBnbbBnbbBnbbBnbbBncbBnbbBnbbBnbbBnb",
     "bBnbbBnbbBnbbBnbbBnbbBnbbBnbbBnbbBnbbBnbbBncbBnbbBnbbBnbbBnbbBnbbBnbbBncbBnbbBnCQdbC",
     "mbbCmbbCmbbCmbbCmbbCmbbCmbbCmbbCmbbCmbbCmbbCmbbCmbbCmbbCmbbCmbbCmbbCmbbCmbbCmbbCmbbC",
     "mbbCmbbCmbbCmbbCmbbCmbbCmbbCmbbCmbbCmbbCmbbCmbbCmbbCmbbCmbbCmbbCmbbCmbbCmbbCmbbCmbbC",
     "mbbCmbbCmbbCmbbCmbbCmbbCmbbCmbbCmGcbBgbbBgbbBgbbBgbbBgbbBgbbBgbbBgbbBgbbBgbbBgbbBgbb",
     "BgbbBgbbBgbbBgbbBgbbBgbbBgbbBgbbBgbbBgEGpbBgbbBgbbBgbbBgbbBgbbBgbbBgbbBgbbBgbbBgbbBg",
     "bbBgbbBgbbBgbbBgbbBgbbBgbbBgbbBgbbBgbbBgbbBgbbBgbbBgbbBgbbBgbbBgbbBgbbBgbbBgbbBgbbBg",
     "BGJxbBgbbBgbbBgbbBgbbBgbbBgbbBgbbBgbbBgbbBgbbBgbbBgbbBgbbBgbbBgbbBgbbBgbbBgbbBgbbBgb",
     "bBgbbBgbbBgbbBgbbBgbbBgbbBgbbBgbbBgbbBgbbBgbbBgBULlbBibbBibbBibbBibbBibbBibbBibbBibb",
     "BibbBibbBibbBibbBibbBibbBibbBibbBibbBibbBibbBibbBibbBibbBibbBibbBibbBibbBibbBibbBibb",
     "BibbBibbBibbBibbBi"]
  classes distances.length 0 distances

/-- The code points equal to this one up to case, itself included. -/
def equivalents (n : Nat) : List Nat :=
  (table.find? (·.contains n)).getD [n]

/-- The ASCII code points equal to this one up to the case of ASCII letters. -/
def asciiEquivalents (n : Nat) : List Nat :=
  if 0x41 ≤ n && n ≤ 0x5A then [n, n + 32]
  else if 0x61 ≤ n && n ≤ 0x7A then [n, n - 32]
  else [n]

end CatalogLint.CodePoint.Folding
