import CatalogLint.CodePoint.Boundaries

/-!
# General categories

The property `General_Category` of Unicode 16: each code point that is no surrogate is in
one of the categories of the table, and a group is the union of the categories whose short
names start alike. Categories and groups go by their short name, their long name and, for a
few, an older alias.
-/

namespace CatalogLint.CodePoint.Category

/-- The categories, by their spellings. -/
def table : List NamedSet := [
  ⟨["lu", "uppercaseletter"],
    ["CnBaDxxbhBhbbbbbbbbbbbbbbbbbbbbbbbbbbbbbbbbbbbbbbbbbbbbbbbbbbbbbbbcbbbbbbbbbbbbbbbcb",
     "bbbbbbbbbbbbbbbbbbbbbbbbbbbbbbbbbbbbbbbbbbbbbcbbbbdcbbbcbdcebcbddcbcbbbbbcbbcbbcbdbb",
     "bcdbhbcbcbcbbbbbbbbbbbbbbbcbbbbbbbbbbbbbbbbbcbcbbdbbbbbbbbbbbbbbbbbbbbbbbbbbbbbbbbbb",
     "bbbbbbbbbbbbbbbbbbbbbbbbhcbccbbebbbbbbbbLdbbbdbibgbbdbbbcbrbjBjbcddbbbbbbbbbbbbbbbbb",
     "bbbbbbfbcbbccBzBwbbbbbbbbbbbbbbbbbbbbbbbbbbbbbbbbbjbbbbbbbbbbbbbbbbbbbbbbbbbbbbbbbbb",
     "bbbbbbbbbbbbbbbbbbbbbcbbbbbbbbbbbbcbbbbbbbbbbbbbbbbbbbbbbbbbbbbbbbbbbbbbbbbbbbbbbbbb",
     "bbbbbbbbbbbbbbbbbbbbbbbbbbbbbbbbbbbbbbbbbbbbbbcBmEHdBmbbfbBBuDiDGlbgBrcdMibbbbbbbbbb",
     "bbbbbbbbbbbbbbbbbbbbbbbbbbbbbbbbbbbbbbbbbbbbbbbbbbbbbbbbbbbbbbbbbbbbbbbbbbbbbbbbbbbb",
     "bbbbbbbbbbbbbbbbbbbbbbbbbbbbbbbbbbbbbbbbbbbbbbbbbbbbbbbjbbbbbbbbbbbbbbbbbbbbbbbbbbbb",
     "bbbbbbbbbbbbbbbbbbbbbbbbbbbbbbbbbbbbbbbbbbbbbbbbbbbbbbbbbbbbbbbbbbbbbjiigkiiiiglbbbb",
     "bbbiiCuemememfleKcbebddcdcbdfgbbbbbbecekcfbCjbDZgBwBwbbdcbbbbbbebbcbidbbbbbbbbbbbbbb",
     "bbbbbbbbbbbbbbbbbbbbbbbbbbbbbbbbbbbbbbbbbbbbbbbbbbbbbbbbbbbbbbbbbbbbbbbbbbbbbbbbbbbb",
     "ibbbebBTYjbbbbbbbbbbbbbbbbbbbbbbbbbbbbbbbbbbbbbbbbbbbbbtbbbbbbbbbbbbbbbbbbbbbbbbbbbF",
     "fbbbbbbbbbbbbbdbbbbbbbbbbbbbbbbbbbbbbbbbbbbbbbbbbbbbbbbbbbbbbbbbbbbbbbbbbbbbkbbbbcbb",
     "bbbbbbebbbcbbbdbbbbbbbbbbbbbbbbbbbbfbfbbbbbbbbbbbbbbbebbbcdbfbbbbbbbybBHAhBaBUzBoFgB",
     "kGalbpbhbcCQcBzGbwEGoBgBGJwBgBMMqBaBaBaBaBaBabbccbcccebiBaBaBacbecibhBbcbebfbbdhBbBa",
     "BaBaBaBaBaBaBaBaBaBaBezBhzBhzBhzBhzBhbGNlBi"]⟩,
  ⟨["ll", "lowercaseletter"],
    ["DtBaCgbBpybibbbbbbbbbbbbbbbbbbbbbbbbbbbbbbbbbbbbbbbbbbbbbbbbbbbbbbbcbbbbbbbbbbbbbbbc",
     "bbbbbbbbbbbbbbbbbbbbbbbbbbbbbbbbbbbbbbbbbbbbbbcbbbbdcbbbcbdcebcbddcbcbbbbbcbbcbbcbdb",
     "bbcccdgbcbcbbbbbbbbbbbbbbbbcbbbbbbbbbbbbbbbbbccbbbdbbbbbbbbbbbbbbbbbbbbbbbbbbbbbbbbb",
     "bbbbbbbbbbbbbbbbbbbbbbbbbhcbccbbebbbbbbbbCrcBaHlbbbdbddsbBbBjbcddbbbbbbbbbbbbbbbbbbb",
     "bbbbfbbcbccBzBwbbbbbbbbbbbbbbbbbbbbbbbbbbbbbbbbbbjbbbbbbbbbbbbbbbbbbbbbbbbbbbbbbbbbb",
     "bbbbbbbbbbbbbbbbbbbcbbbbbbbbbbbbcbbbbbbbbbbbbbbbbbbbbbbbbbbbbbbbbbbbbbbbbbbbbbbbbbbb",
     "bbbbbbbbbbbbbbbbbbbbbbbbbbbbbbbbbbbbbbbbbbbbbBwBpEHbBrcdBDggDFujbbEnBsClnbBiDybbbbbb",
     "bbbbbbbbbbbbbbbbbbbbbbbbbbbbbbbbbbbbbbbbbbbbbbbbbbbbbbbbbbbbbbbbbbbbbbbbbbbbbbbbbbbb",
     "bbbbbbbbbbbbbbbbbbbbbbbbbbbbbbbbbbbbbbbbbbbbbbbbbbbbbbbbbbjbbbbbbbbbbbbbbbbbbbbbbbbb",
     "bbbbbbbbbbbbbbbbbbbbbbbbbbbbbbbbbbbbbbbbbbbbbbbbbbbbbbbbbbbbbbbbbbbbbbbbjigkiiiigkii",
     "iiociiiiiifbcgbddbciecciikdbcKobdcdbBbbebebccieebCbbEBbBwbbdcbbbbbbebbcbgfbbbbbbbbbb",
     "bbbbbbbbbbbbbbbbbbbbbbbbbbbbbbbbbbbbbbbbbbbbbbbbbbbbbbbbbbbbbbbbbbbbbbbbbbbbbbbbbbbb",
     "bbbbchbbbebmBmbbfbBTWdbbbbbbbbbbbbbbbbbbbbbbbbbbbbbbbbbbbbbbbbbbbbbtbbbbbbbbbbbbbbbb",
     "bbbbbbbbbbbFfbbbbbbbbbbbbdbbbbbbbbbbbbbbbbbbbbbbbbbbbbbbbbbbbbbbbbbbbbbbbbbbbbbbbbbb",
     "bbbbbibbbbcbbbbbbbbbebbbcbbdbbbbbbbbbbbbbbbbbbbbfbfbbbbbbbbbbbbbbbebbbcbdbbbbbbbbbbb",
     "BabdbBFpBrfjhDcBEAihmfBOzBaBVhBoFgBkFzlbpbhbcCRbBzEvwEGoBgBGJwBgBMMkBaBahbsBaBaBaebb",
     "bhblBaBaBaBaBaBaBaBaBaBaBaBaBaBaBaBaBaBcBczbgBazbgBazbgBazbgBazbgbbCSykbuggDUdBi"]⟩,
  ⟨["lt", "titlecaseletter"],
    ["RlbcbcbBmbLFhiiiiimbpbBvb"]⟩,
  ⟨["lm", "modifierletter"],
    ["BAmsemofhbbbFdbfbSkbIwbGicKjcebBfbjbdbGebGlbBVobExbVtbCPmbEdbXnbRwgGsClnbBiBlBAnbnbq",
     "nEMxcJhbHjbSbbBrffbDtcDpdBQBubBWcgKkbEkbBccErjDcbxbEbddcSbbwbFhbEebvcDzejbBFVibBtcCZ",
     "ogbBqbjCCxbBgbBJNseTodBocVenCmcbbYGqebhbcSGnCkHthBKfbBRbb"]⟩,
  ⟨["lo", "otherletter"],
    ["GobpbJwbeeIacBFuBbeeBtBgbkBjcbDvbbyckdcbqbbBeBdDllbyBhvwBqzhlfybgrBpChCcdbsbhkqpeicc",
     "cwbhbbdedbqbncbdockbigeccwbhbcbcbcBfebbtdqjbdbwbhbcbfdbsbpcxblicccwbhbcbfdbBecbdpbrb",
     "bgddbedcbbbcdcdddmwbCaibdbxbqdbBadcbccBebeibdbxbkbfdbBfcbcpcrjbdbBpcbqbfdidygfsdybjb",
     "bchCgBwbcmgChcbbbfbybbbkbcjbcfxeBgbClibBkBbfElBrubqgeedbdchdenmbEjMrbechbbbecBpbecBh",
     "bechbbbecpbCfbecCpBlqEjXwcrbBafCxgihsntosonbdpCaBobCpBjbCbhfcBibbfCskBfBxBecflBseBaC",
     "cxjCbGuBvriCcBenckBsBaBkBpdkBeEjebgbcdbBPqeENvCeyxjhbhbhbhbhbhbhbhVfbCbbeDiibbDmebfB",
     "rbDqrBgBwqTsJToCmBFCfbBRzCpBoiKieqkcCobBxCsGnbDzbdhbdbebxBdCaoByCkgdbbclBckxzBdhBvBt",
     "fcjkfbBpxdbiuqbgdbdBybbdccfcbbbycdlhbogcgcgjhbhFpBjBdQNsmxeBxMNcOccEcCpbbkbnbfbbbcbc",
     "bEeBhNzsCmcCcBomEmfbFfEbkbBtcBfdgcgcgcdBjmbBabtbcbpcoBiEtOzBddBxBvBgnubigBmkBecBkeiE",
     "yDaDuBoiCaDoCamLzjwkiFwgcbbBsbcdbcxkxjBfCntbckwkBaCsCegcCmbpebdbBdBqBddBdBjibBcBbCck",
     "wktnsEgCvHbBkBmebbLsBqgcqdChBdkbiwBqsBuvBbxmCbCfccbnBtBgzBaBkBdbcbiBjdbmBwoevbbbBjsb",
     "ztcClhbbbebpbkhBvBmicccwbhbcbfdbsbmfBekbbcbbBmbbzbbbBsCbseudBeBwucbbHcBvBpeBkBwubChB",
     "rnbCtBbBlhHdBsIdicbcibcbypbbbDqicBnqbbbBcbkBohbvblButbsCvHrBhBfjbBlrbBxBeEihbcbBmvbz",
     "gbcbBgobMptpbbnbBiEubDbBJmIwHoDXkDtpBPgrgzFXrfWlKDdBeCPuVxhBfrDbrBesBwBzvftQtBoPpCxf",
     "bGtJCaiBVqBpkNGhLfpbBddcboeiPgDKuEdfndjhkNBcbThBtBhbMjBesBsSqBbIvBecbTbhbebcbpbHpBZn",
     "ebBbbcbbcbbkbebbbbgbebbbbbbdbcbbcbbbbbbbbbbcbbcebhbebebbbkbrfdbfbrGOaCLFcBgGDugIocIN",
     "qoLBlpXyDQwUwCFyHHzfGFg"]⟩,
  ⟨["mn", "nonspacingmark"],
    ["BDoEiKpfKfBtbbbcbcbbCulBwvqbDxhcgccbeBjbBeBbDnlCgjjbyebjbdbfBrdChjBqybBgCdbbbeiebdhk",
     "cBdbCgbeeibucBabccCfbececcddbBecdblcCfbefbcebucwgbbCgbcbbeibhclcBebCjbmbBybdbCdbbdfd",
     "behclcBdbCgbcbgbfcucBccCfceeibucBdbCubhdbbDmbchmiDubcjlhCvcBbbbbbbCdobfbcflbBkjbDyeb",
     "gbccczcedqenbccgbpbBBbdBKkdBdcBecBecCmcbhibcljbBtdbbEncBibEodecjbgdIlccbCgbbhbbbbcig",
     "kcbBwobqBxeBwbbfbbfbBojmcBgeccbdCebbcdbbdCgiccFwdbnbhebgbdcHqCmBBsnebdmEOcdFlbDsBgVi",
     "eEdcBSQebekBgcDccKmbdbebzcfbFvcBasnbBmizlBudBwbceccBnbCpgccccmbibBvbBzbbdccfcbbBqcib",
     "JebcbebBDZsbBCjqqqBLlbIsbFtfCMgdbcfeBodebGjcWbeCnfMfcDbeCslBxeEtbCcpBpbcckdBxecchbCj",
     "dBkfbiCkbmcCajkecbDrdcbbcgbcbGbbdivcCfcdbBlhdfCsgnbbbbbocDhicdbbxbDggbbecbcJeegcbcBb",
     "cDhicbbcEcbbbcgbbDxbbbcebfJzjbcJwcbbebFoeccebBgkBogceibjgcdBunbcPqhbgbbDewchbcbcEsgd",
     "bbcbhbbCucdbbbNjclcCaffbbbxbHXtbgpQYymddDSafChhBOibCleDdbBDBkcGYzBucxUydrichBeeFsdCY",
     "dCdeByibobwfbpCAihbrchbcbfDwbGehOlbCjeToeJucBCihEfhBTCIvJg"]⟩,
  ⟨["mc", "spacingmark"],
    ["DKtbCdbcdiebcBycCgdgccckbBrbCgdCobCgdibbcCbcCgbbbgccckbDycbcddbdkbBpdCjeCjcCgbbfccbc",
     "jcBcbocCgdfdbdkbBqcCxdgiscMscClbGpcebgbcczckdchvccgcbkdCLsbBebEzbhibcNiecdecbgIqcCgb",
     "bbjbbcigFpbBwbfbbfbcCjbBebeccbCibcdbbdcBwiicGpbvbHHecBTLbccbDkcByqFmcBvbBwceccdEgccc",
     "ybBtbbbEfbccfbJdcbcbcbbBLXjbbbExbBtdecElbycChbBwdjcnbDpddcbbGodBfcCgcbecccdjbkcDgdhb",
     "cbbebcbbDxdicdbEcdgbbecbJddgecbEjdicbbEfbbcgbDzbbcebKbdjbJngbcebcbbbFmdieebDgbBdcCkb",
     "PrbobEcbhbcbIffecbbNmcmbBwcicbbYYydFJgCdEacBKXncgg"]⟩,
  ⟨["me", "enclosingmark"],
    ["BSqcIKqbCIgebdBYOxd"]⟩,
  ⟨["nd", "decimalnumber", "digit"],
    ["BwkCIokFekHqkPwkEokEokEokEokEokEokEokEokEokDskEokCskKskCskCTqkBmkLokEykGkkgkHakDikFe",
     "kgkCAEokBAckBmkHqkwkDikPqkBFMckCCkkDFykgkBEqkEykCikFokKskNekEokOkkDykguCykQgkDykZmkD",
     "ikJmkCskQgkYYgkDMckDikFekUokBKDykECqByDNckQgkTikJnkBGvkHBak"]⟩,
  ⟨["nl", "letternumber"],
    ["IRudDYtBjceFMsbzjodBSYlkBIFgCbRsbibFefMEsEh"]⟩,
  ⟨["no", "othernumber"],
    ["GwcfbcdDMrgOmgEqdFdhIjhrjQrkBPluBRvkSmbCMvbdggkHqqBpbBByCiDawYgBeCBhbBTceFikBeibpBgk",
     "BnpBSMigBHQnBtCnercNdBbBkeBZgizhBnjCxfwgGeccqcBuCmjCacBedCxfEaiyiBphMsgNoBfGckBqeEih",
     "FeuOpuBZxcQojBHntBGtvBCPqhBEsxBLYfumuEezIBujBJtChbdbeCyBtbpBLan"]⟩,
  ⟨["pc", "connectorpunctuation"],
    ["DrbMBvctbDGAocydJfb"]⟩,
  ⟨["pd", "dashpunctuation"],
    ["BtbCAubBzbFKjbBNpbDBdgFHxbcbBfcebBcbRebtbEhbCZWacBlbkbGnbFLobMgb"]⟩,
  ⟨["ps", "openpunctuation"],
    ["BobBybBfbFPebbbCUobDPmbdbBmbCdbpbYkbbbBebBPubbbbbbbbbbbbbDcbBgbbbbbbbbbPobbbbbbbbbbb",
     "bbbbbbbbbbCmbbbBhbBOvbbbbbbbzbsbbbbbbbQmbbbbbbbbbdbbbbbbbcbCZRtbIhbBdbbbbbbbbbbbbbbb",
     "dbrbbbbbGobBybBfbdbcb"]⟩,
  ⟨["pe", "closepunctuation"],
    ["BpbBzbBfbFPdbbbCUobDRdbCdbpbYkbbbBebBPubbbbbbbbbbbbbDcbBgbbbbbbbbbPobbbbbbbbbbbbbbbb",
     "bbbbbCmbbbBhbBOvbbbbbbbBsbbbbbbbQmbbbbbbbbbdbbbbbbbccCZRqbIjbBdbbbbbbbbbbbbbbbdbrbbb",
     "bbGobBzbBfbcbcb"]⟩,
  ⟨["pi", "initialpunctuation"],
    ["GpbLXkbcccbzbFFsbbbebcbpbdb"]⟩,
  ⟨["pf", "finalpunctuation"],
    ["HfbLWvbdbBcbFFsbbbebcbpbdb"]⟩,
  ⟨["po", "otherpunctuation"],
    ["BhdbdcbbbbckcdcBbbCqbfbochbBBabibRygBpbCcbcbcbBscucbcnbbdCweDybBroIzdCcpBfbKbckbFkbE",
     "qbErbPabmbOdbDmbkcGmpbbEibCwfecEhgGpbXojBDtbEudCtcGbdbdBlgbeMbcIicEyhbgGeckhBcdEueCh",
     "fCkcCmilbBGcciiijcecddlbbbkEUcebcEibFncedcbcjbcbbcckfbkcebbbncdQmdCfbHhbBRYgcKjdDvbk",
     "bElgOqeDicBodbbBxcBvbDtnqcEueEwcqcJpbBFCuhcbwbucceddbehdgbbcFtdbdcbbbbckcdcBbbBkbccP",
     "udZsbBwbPybBCpbHrbBfbKmjBmbEihCohDleBKqfBseHhhEfcbeEweBwcDbeebnbbdDkgEdbLmcbcEkfkcbb",
     "EabJqxEbdBcnCybFadJsbKedFzbDoiDfdbfDpkIhbDrfBqcYvcCwnGtbBRsfEJccWDvcFdbCnfibVgdLjeMp",
     "bBDBobLIlfEItbBHec"]⟩,
  ⟨["sm", "mathsymbol"],
    ["BrbqdCjbbbBtbebBlbBfbBDmbUhdJYhbnbBndndFjbBnfgbCqffcebcbcbhbBfccbbbBfKiBgcDmbBezBogS",
     "bbjbCciEhbMyfcBfkqJwFbwCleBgcJyBwvcgDASqbBFsbbdGibqdCjbbbFbbgeFEfcCYEzbzbBfbzbBfbzbB",
     "fbzbBfbzbIUec"]⟩,
  ⟨["sc", "currencysymbol"],
    ["BkbEveBWjbEtbTecTechbJlbKdbWjbDQpbDIiBhBZHvbBGMlbEebFybIlcdcMCseCVXebDRkb"]⟩,
  ⟨["sk", "modifiersymbol"],
    ["DqbbbCtbgbebdbUbemofhbbbrEnbocBXibIUmbbdldndndncGHocBSVrxjcDzcBLobocBEKkrBIhbbbGgbDO",
     "Ljf"]⟩,
  ⟨["so", "othersymbol"],
    ["GkbcbebbbBLpbKgcExcHybkbtcJnbTvbOjbFagbbFcbHzbBpbPbdpbbdcgubbbbbFdibgbcfeHpcBCykBBvb",
     "BBubGbBiNpkjjCChcbebckbbcggbbbbbbeblcobbcbbCgcjfcebcbcbhbBfccbbbBfKiieuchcDdbBezBogC",
     "uwlDdDawHbbjbCciEhbJoBsBsCmJwTsBwvcgBncBgbEbIvgNtcBuBabDlmIgBaqebncmbvcgcMycekBgBmjb",
     "qBflBeibpBgkBnpMiJToCmBGUiCdBHhekcbbWbdBFJaqExbBtdSqbdbecncMbjCfrcdbndbBvBtCLucWtbES",
     "sbDGnierBCNiefbBEUwbFVnJgqQuGaEmCiJmkBncCifdwchBeeCjvCodbHeDjBTxTsCdeByibobcCOubEHwb",
     "EzbBBtBseDwmpcpbpbBlxGfCeBdnBsejhcogFyJrfBCaerdndEpeDrgmebpmeCeikgBoiBecmecCkNcmocnd",
     "kfCehpclgjhFrbDo"]⟩,
  ⟨["zs", "spaceseparator"],
    ["BgbExbIHjbDPnlBkbBvbFXwb"]⟩,
  ⟨["zl", "lineseparator"],
    ["MEqb"]⟩,
  ⟨["zp", "paragraphseparator"],
    ["MErb"]⟩,
  ⟨["cc", "control", "cntrl"],
    ["aBgDrBh"]⟩,
  ⟨["cf", "format"],
    ["GrbCAkgwbHkbBxbOucDcbFTjbDAqfBafBxfbkDGHjbJpdGIzbpbNKkqBZQueHWxiBTKZmbBeDs"]⟩,
  ⟨["co", "privateuse"],
    ["DGVoJMeCAHXoDSYocDSYo"]⟩,
  ⟨["cn", "unassigned"],
    ["BIecgehbbbubPhbBmcBycdbCdiBbeglKkbCicDxoChcBxcpbBccbblfBfbcfJdbicccwbhbbdecjccceibec",
     "bfczcdbgeccwbhbcbcbccbbfeccddbhebbhrkdbjbdbwbhbcbfckbdbdcbpecmhhbdbicccwbhbcbfcjcccd",
     "hdecbfcskcbgddbedcbbbcdcdddmefddbecbgbovfnbdbxbqcjbdbehcbdcbceckhwbdbxbkbfcjbdbehcgc",
     "beckbdmnbdbBzbdbgeqcBabdbsdybjbbchdbegbbbigkcdmCgeBdBlcbbbfbybbbxcfbbbhbkceBgCubBkeB",
     "nbBkbpbnBlHqbbfbcOnbechbbbecBpbecBhbechbbbecpbCfbecCpcBgdBagDicgcZtdDlhwjyjumnbdbcmD",
     "qckgkgBagDlhBrfCskBfbmemebdBqcflBseBagldCkcCnbBdclgkgocBfBxCzbGkiCidpdCkfBrcliBrfUoc",
     "gcBmcgcibbbbbbbBfcCbbpbocgbtcdbjbDxbmcBbbndBhpBhpFkeZqwlvCRscBgbNlfBtbbfbcCehcoyjhbh",
     "bhbhbhbhbhbhbEwBiBabDlmIgBaDcbDicDzfBrbDqbDijBwbBRIrdCdjNkuHciHyccbbbivChdkgCeiCsimg",
     "EmlBedDableBhbCdjockcDzyBckgcgcgjhbhbCieEwckgQNsmxeBxDAyKAgcEcBmhmffBabfbbbcbcbEvqRd",
     "cCchbBgBqgBzbtbeefbFfcbbHidgcgcgcddhbhkfcmbBabtbcbpcoBiEtfdeBtdDkbndbBvBuFaBddBxpBce",
     "BkjBefBrfBebBleoBqGcckgBkeBkeBoiCalmbpbhbcblbpbhbcdCamLzjwkiygbBqbjCrgcbbBsbcdbcxbCu",
     "ijBwtbcfBhdBbfbCmCeeucBybcfibdbBdcdekhjhCmBgBnemjCcdBdcBbfBahemhDcCvCdBznBzhBuikgBmd",
     "BdicIaBfbBqbdccqdCdBsiBqwBaBmBcuxjDaeBkjCqkbczhkgCbbsiBnjDsbulsbBvCkhbbbebpblgChfkge",
     "bicccwbhbcbfbkcccdcbgbfhchdflkbbcbbBmbkbbcbbebkbcicBdDobfBeCuikGkCccBmBiCrlkgntCggkg",
     "uBcBbcpexHdCiDwDfmicbcibcbBebccmjkCsicBuclBbCuiDfnCvhkHaBiokgjbBtbokBddBgcwboCvhbcbB",
     "sdbbcbjikggbcbBlbcbghkLyzhrbBpdBdDhbpBynBJnDyEhbflHoDXkDvnBQskFXrfWlKDdCgCOsVxhBfbke",
     "DdbkgBecgkCskkbhbvftQqCgHqDnDxCxeCfhrCmflcoJCaiBVqBpkNFrebhbcbLfpbBddcboeiPgDKuEdfnd",
     "jhkciFVgJqgQuCyBucxjEmCiJmkBncHmvCsEsumumDjjzFfDhbCtbccbcccebmbbbhbCnbecibhbBcbebfbb",
     "dhbNccLgcBBapfbpBQmBfggIfhbrchbcbffCkBhbEiBtdockecMiBfrCgfbRwBqIgBrebSmhbebcbpbHpcqB",
     "pCyekecBEfCqCyCjHmebBbbcbbcbbkbebbbbgbebbbbbbdbcbbcbbbbbbbbbbcbbcebhbebebbbkbrfdbfbr",
     "CacKkBseDwmpcpbpbBlkGsCeBdnBsejhcogFyBLwerdndEpeDrgmebpmeCeikgBoiBecmecCkNcmocndkfCe",
     "hpclgjhFrbDyBNqCLFcBgGDugIocINqoLBlpXyDQwUwCFyHHzfGFgBOMXlbBeDsEyJgDSFoDSYocDSYo"]⟩]

/-- The groups of categories: their spellings and the short names of their members. -/
def groups : List (List String × List String) := [
  (["l", "letter"], ["lu", "ll", "lt", "lm", "lo"]),
  (["lc", "casedletter"], ["lu", "ll", "lt"]),
  (["m", "mark", "combiningmark"], ["mn", "mc", "me"]),
  (["n", "number"], ["nd", "nl", "no"]),
  (["p", "punctuation", "punct"], ["pc", "pd", "ps", "pe", "pi", "pf", "po"]),
  (["s", "symbol"], ["sm", "sc", "sk", "so"]),
  (["z", "separator"], ["zs", "zl", "zp"]),
  (["c", "other"], ["cc", "cf", "co", "cn"])]

/-- The boundaries of the category with this name. -/
def boundaries? (name : Text) : Option Boundaries := NamedSet.lookup? table name

/-- The sets whose union the name stands for: those of one category, or of a group. -/
def members? (name : Text) : Option (List Boundaries) :=
  match groups.find? (·.1.any (·.toList == name)) with
  | some (_, members) => some (members.filterMap fun member => boundaries? member.toList)
  | none => (boundaries? name).map ([·])

end CatalogLint.CodePoint.Category
