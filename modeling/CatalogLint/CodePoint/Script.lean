import CatalogLint.CodePoint.Boundaries

/-!
# Scripts

The properties `Script` and `Script_Extensions` of Unicode 16. The extensions of a script
hold the code points that are used with it; the second table lists them where they differ
from the script itself.
-/

namespace CatalogLint.CodePoint.Script

/-- The scripts, by their four-letter code and their name. -/
def table : List NamedSet := [
  ⟨["adlm", "adlam"],
    ["HDEuCyekec"]⟩,
  ⟨["ahom"],
    ["EBRcBbcpex"]⟩,
  ⟨["hluw", "anatolianhieroglyphs"],
    ["ESSeWl"]⟩,
  ⟨["arab", "arabic"],
    ["CHcfbgbobdbBgbklBabEebBiDcBwJgBfbcfCxbBdDNTwElqNzcDccCchbBgqEifbFfFVnBfCpdCdeDGLsebB",
     "bbcbbcbbkbebbbbgbebbbbbbdbcbbcbbbbbbbbbbcbbcebhbebebbbkbrfdbfbrCac"]⟩,
  ⟨["armn", "armenian"],
    ["BZdBmcBycdDOZjf"]⟩,
  ⟨["avst", "avestan"],
    ["DXCyCcdh"]⟩,
  ⟨["bali", "balinese"],
    ["KFwCzbBy"]⟩,
  ⟨["bamu", "bamum"],
    ["CLCqDkCVCqVx"]⟩,
  ⟨["bass", "bassavah"],
    ["FHKiBecg"]⟩,
  ⟨["batk", "batak"],
    ["KNgCaie"]⟩,
  ⟨["beng", "bengali"],
    ["DPoebicccwbhbbdecjccceibecbfcz"]⟩,
  ⟨["bhks", "bhaiksuki"],
    ["EDOijbBtbokBd"]⟩,
  ⟨["bopo", "bopomofo"],
    ["BCscRLxBrEiBg"]⟩,
  ⟨["brah", "brahmi"],
    ["DZAeDaeBkjb"]⟩,
  ⟨["brai", "braille"],
    ["PDwJw"]⟩,
  ⟨["bugi", "buginese"],
    ["JWaBccc"]⟩,
  ⟨["buhd", "buhid"],
    ["IUyu"]⟩,
  ⟨["cans", "canadianaboriginal"],
    ["HOyYqVoCsDTPqq"]⟩,
  ⟨["cari", "carian"],
    ["DTYmBx"]⟩,
  ⟨["aghb", "caucasianalbanian"],
    ["DUXsCalb"]⟩,
  ⟨["cakm", "chakma"],
    ["DZKaCbbs"]⟩,
  ⟨["cham"],
    ["CMJwCdjockce"]⟩,
  ⟨["cher", "cherokee"],
    ["HLgDicgCFJeDc"]⟩,
  ⟨["chrs", "chorasmian"],
    ["DYXcBc"]⟩,
  ⟨["zyyy", "common"],
    ["aCnBagBaBvbpbfxbBfbRhBnffcuEmbjbgbbbYnbgbobdbBgbGabTwbEzcBVtbPpeLebCGldCtcHvcbbBVhbn",
     "bhebgbdcbBDtmcDjbldlbprBhClBmbdcgbBbbrBpdeZqwlvBJsJwYecBgbEbTsDqPmvbbbzpieeDncdbDmcF",
     "rqBgBmjbBwCmBfDdBvbDkGmJToCmBHSiBiDydGjkJkbGebPfbocBEZqcIakwBjbtbeFrbbBgBagBalkbBtcC",
     "mhbhkfJydeBtdjDcnBzBtIuBbCSHweFVgJqgQuGaEmCiJmkBncCkdrichBeeCjIfumumDjjzFfDhbCtbccbc",
     "ccebmbbbhbCnbecibhbBcbebfbbdhbNccLgcByHThCqCyCjBBeBseDwmpcpbpbBlkGsCeBabcnBsejhcogFy",
     "BLwerdndEpeDrgmebpmeCeikgBoiBecmecCkNcmocndkfCehpclgjhFrbDyBSUXbbBeDs"]⟩,
  ⟨["copt", "coptic", "qaac"],
    ["BMgoPJkEmfh"]⟩,
  ⟨["xsux", "cuneiform"],
    ["EFBsBJmDyEhbflHo"]⟩,
  ⟨["cprt", "cypriot"],
    ["DVZkgcbbBsbcdbcb"]⟩,
  ⟨["cpmn", "cyprominoan"],
    ["EKYyDv"]⟩,
  ⟨["cyrl", "cyrillic"],
    ["BNkFdcGnIVolGebCybGFnBgBTOaDsBHEccDHPgCkBhb"]⟩,
  ⟨["dsrt", "deseret"],
    ["DUMaDc"]⟩,
  ⟨["deva", "devanagari"],
    ["DKqDdepcBaCIJgBgBREmk"]⟩,
  ⟨["diak", "divesakuru"],
    ["ECKuhcbcibcbBebccmjk"]⟩,
  ⟨["dogr", "dogra"],
    ["ECAyCi"]⟩,
  ⟨["dupl", "duployan"],
    ["GMDsEdfndjhkce"]⟩,
  ⟨["egyp", "egyptianhieroglyphs"],
    ["ELDgBQskFXr"]⟩,
  ⟨["elba", "elbasan"],
    ["DUVwBo"]⟩,
  ⟨["elym", "elymaic"],
    ["DYYyx"]⟩,
  ⟨["ethi", "ethiopic"],
    ["GVgCvbechbbbecBpbecBhbechbbbecpbCfbecCpcBgdBaJVaxjhbhbhbhbhbhbhbhBVKcgcgcgjhbhEPYfhb",
     "ebcbp"]⟩,
  ⟨["gara", "garay"],
    ["DXZcBmdBdic"]⟩,
  ⟨["geor", "georgian"],
    ["GHsBmbbfbcBrbeEJwBrcdGEaBmbbfb"]⟩,
  ⟨["glag", "glagolitic"],
    ["QRgDsGIZghbrchbcbf"]⟩,
  ⟨["goth", "gothic"],
    ["DUEaBb"]⟩,
  ⟨["gran", "grantha"],
    ["EADsebicccwbhbcbfcjcccdcbgbfhchdf"]⟩,
  ⟨["grek", "greek"],
    ["BHwebdcebbebbbbdbbbubCloqJNqfByfefDgbMiwcgcBmcgcibbbbbbbBfcCbbpbocgbtcdbjLjbCAJebBGN",
     "iDbrbDAXrCs"]⟩,
  ⟨["gujr", "gujarati"],
    ["DZldbjbdbwbhbcbfckbdbdcbpecmhh"]⟩,
  ⟨["gong", "gunjalagondi"],
    ["EEBwgbcbBlbcbghk"]⟩,
  ⟨["guru", "gurmukhi"],
    ["DUndbgeccwbhbcbcbccbbfeccddbhebbhr"]⟩,
  ⟨["gukh", "gurungkhema"],
    ["FDRsCg"]⟩,
  ⟨["hani", "han"],
    ["RPwBabDlmIgBvbbbzjoeBLcJToCmBFBkBHSiOccEcBSIicmcCCOkCLFcBgGDugIocINqoLBlpXyDQwUwCFyH",
     "HzfGFg"]⟩,
  ⟨["hang", "hangul"],
    ["GLkJwLLecJxDqEjBfCnBfBTAnBdYtQNsmxeBxPAiBfdgcgcgcd"]⟩,
  ⟨["rohg", "hanifirohingya"],
    ["DXWqBoik"]⟩,
  ⟨["hano", "hanunoo"],
    ["ITsv"]⟩,
  ⟨["hatr", "hatran"],
    ["DWIatbcff"]⟩,
  ⟨["hebr", "hebrew"],
    ["CCvCdiBbegDOVwBabfbbbcbcbk"]⟩,
  ⟨["hira", "hiragana"],
    ["SHdDigdFPEvLbsbBddYMvb"]⟩,
  ⟨["armi", "imperialaramaic"],
    ["DWBwwbj"]⟩,
  ⟨["zinh", "inherited", "qaai"],
    ["BDoEiKrcRklBabBCieGOxBfTtdbnbhebgbdcHqCmUecHmBhFTxeEdcCZUjqqoBLnbIsbGFabCTCuBucxUydr",
     "ichBeeBTLHiJg"]⟩,
  ⟨["phli", "inscriptionalpahlavi"],
    ["DXGqtfi"]⟩,
  ⟨["prti", "inscriptionalparthian"],
    ["DXFkwci"]⟩,
  ⟨["java", "javanese"],
    ["CMEyDackec"]⟩,
  ⟨["kthi", "kaithi"],
    ["DZFcCpkb"]⟩,
  ⟨["knda", "kannada"],
    ["ETcnbdbxbkbfcjbdbehcgcbeckbd"]⟩,
  ⟨["kana", "katakana"],
    ["SKvDmcdJgqIaBvbDkCZHekbBtCOUcebhbcbbLbdByboe"]⟩,
  ⟨["kawi"],
    ["EERwrbBpdBd"]⟩,
  ⟨["kali", "kayahli"],
    ["CMAaBubb"]⟩,
  ⟨["khar", "kharoshthi"],
    ["DWTcebcfibdbBdcdekhj"]⟩,
  ⟨["kits", "khitansmallscript"],
    ["FJIibKGxScBpb"]⟩,
  ⟨["khmr", "khmer"],
    ["IXkDqckgkSsBg"]⟩,
  ⟨["khoj", "khojki"],
    ["DZTwsbBv"]⟩,
  ⟨["sind", "khudawadi"],
    ["EAAqChfk"]⟩,
  ⟨["krai", "kiratrai"],
    ["FIIiCg"]⟩,
  ⟨["laoo", "lao"],
    ["FMvcbbbfbybbbxcfbbbhbkce"]⟩,
  ⟨["latn", "latin"],
    ["CnBagBaBvbpbfxbBfbRhBnfJXbBmgBxfefnbCsCnJwOfbnbqnFlcgbBbbrBpECtBgBULmDydCpccbbbivoBF",
     "kBrbjbeBEDqhBOkBagBaDCfgbBqbjDDNpBfgg"]⟩,
  ⟨["lepc", "lepcha"],
    ["KPsCedpdd"]⟩,
  ⟨["limb", "limbu"],
    ["JMeBfbmemebdm"]⟩,
  ⟨["lina", "lineara"],
    ["DVFsLzjwki"]⟩,
  ⟨["linb", "linearb"],
    ["DSYqmbBabtbcbpcoBiEt"]⟩,
  ⟨["lisu"],
    ["CKKuBwBUMab"]⟩,
  ⟨["lyci", "lycian"],
    ["DTXgBd"]⟩,
  ⟨["lydi", "lydian"],
    ["DWKmBafb"]⟩,
  ⟨["mahj", "mahajani"],
    ["DZNcBn"]⟩,
  ⟨["maka", "makasar"],
    ["EEQqz"]⟩,
  ⟨["mlym", "malayalam"],
    ["EYanbdbBzbdbgeqcBa"]⟩,
  ⟨["mand", "mandaic"],
    ["DDgBccb"]⟩,
  ⟨["mani", "manichaean"],
    ["DXAmBnem"]⟩,
  ⟨["marc", "marchen"],
    ["EDSqBgcwbo"]⟩,
  ⟨["gonm", "masaramgondi"],
    ["EDYehbcbBsdbbcbjik"]⟩,
  ⟨["medf", "medefaidrin"],
    ["FISeDn"]⟩,
  ⟨["mtei", "meeteimayek"],
    ["CMSmxHtBuck"]⟩,
  ⟨["mend", "mendekikakui"],
    ["HCUyHpcq"]⟩,
  ⟨["merc", "meroiticcursive"],
    ["DWPkyeucBu"]⟩,
  ⟨["mero", "meroitichieroglyphs"],
    ["DWOeBg"]⟩,
  ⟨["plrd", "miao"],
    ["FIZoCxeCfhr"]⟩,
  ⟨["modi"],
    ["EBHgCrlk"]⟩,
  ⟨["mong", "mongolian"],
    ["JCiccbbugDlhBrDSCbn"]⟩,
  ⟨["mroo", "mro"],
    ["FHEuBfbkec"]⟩,
  ⟨["mult", "multani"],
    ["DZYuhbbbebpbl"]⟩,
  ⟨["mymr", "myanmar"],
    ["GBoGeCGAyBfDtBgBPAmu"]⟩,
  ⟨["nbat", "nabataean"],
    ["DWEiBfij"]⟩,
  ⟨["nagm", "nagmundari"],
    ["HBPoBq"]⟩,
  ⟨["nand", "nandinagari"],
    ["ECQyicBucl"]⟩,
  ⟨["talu", "newtailue"],
    ["JRcBseBagldc"]⟩,
  ⟨["newa"],
    ["EANoDobf"]⟩,
  ⟨["nkoo", "nko"],
    ["CYiChcd"]⟩,
  ⟨["nshu", "nushu"],
    ["FJIfbYVmPg"]⟩,
  ⟨["hmnp", "nyiakengpuachuehmong"],
    ["HAEaBtdockec"]⟩,
  ⟨["ogam", "ogham"],
    ["INoBd"]⟩,
  ⟨["olck", "olchiki"],
    ["KSuBw"]⟩,
  ⟨["onao", "olonal"],
    ["HBZkBreb"]⟩,
  ⟨["hung", "oldhungarian"],
    ["DXRsBznBzhg"]⟩,
  ⟨["ital", "olditalic"],
    ["DUCeBkjd"]⟩,
  ⟨["narb", "oldnortharabian"],
    ["DWYaBg"]⟩,
  ⟨["perm", "oldpermic"],
    ["DUFgBr"]⟩,
  ⟨["xpeo", "oldpersian"],
    ["DUIiBkeo"]⟩,
  ⟨["sogo", "oldsogdian"],
    ["DYQiBo"]⟩,
  ⟨["sarb", "oldsoutharabian"],
    ["DWWuBg"]⟩,
  ⟨["orkh", "oldturkic"],
    ["DXMuCv"]⟩,
  ⟨["ougr", "olduyghur"],
    ["DYUqBa"]⟩,
  ⟨["orya", "oriya"],
    ["EEjdbicccwbhbcbfcjcccdhdecbfcs"]⟩,
  ⟨["osge", "osage"],
    ["DUSuBkeBk"]⟩,
  ⟨["osma", "osmanya"],
    ["DUQyBeck"]⟩,
  ⟨["hmng", "pahawhhmong"],
    ["FHMeCskkbhbvft"]⟩,
  ⟨["palm", "palmyrene"],
    ["DWDcBg"]⟩,
  ⟨["pauc", "paucinhau"],
    ["EDCaCf"]⟩,
  ⟨["phag", "phagspa"],
    ["CLSqCe"]⟩,
  ⟨["phnx", "phoenician"],
    ["DWJgBcdb"]⟩,
  ⟨["phlp", "psalterpahlavi"],
    ["DXHwshemh"]⟩,
  ⟨["rjng", "rejang"],
    ["CMBwBklb"]⟩,
  ⟨["runr", "runic"],
    ["IOuCxdl"]⟩,
  ⟨["samr", "samaritan"],
    ["DAuBucp"]⟩,
  ⟨["saur", "saurashtra"],
    ["CLVcCsim"]⟩,
  ⟨["shrd", "sharada"],
    ["DZOyDs"]⟩,
  ⟨["shaw", "shavian"],
    ["DUPcBw"]⟩,
  ⟨["sidd", "siddham"],
    ["EBCiCccBm"]⟩,
  ⟨["sgnw", "signwriting"],
    ["GWTkZcpfbp"]⟩,
  ⟨["sinh", "sinhala"],
    ["FCzdbsdybjbbchdbegbbbigkcdDULgu"]⟩,
  ⟨["sogd", "sogdian"],
    ["DYSeBq"]⟩,
  ⟨["sora", "sorasompeng"],
    ["DZIezhk"]⟩,
  ⟨["soyo", "soyombo"],
    ["ECXsDf"]⟩,
  ⟨["sund", "sundanese"],
    ["KKuCmJwi"]⟩,
  ⟨["sunu", "sunuwar"],
    ["EDLwBiok"]⟩,
  ⟨["sylo", "sylotinagri"],
    ["CLQeBt"]⟩,
  ⟨["syrc", "syriac"],
    ["CQyobCicdKml"]⟩,
  ⟨["tglg", "tagalog"],
    ["ISmwjb"]⟩,
  ⟨["tagb", "tagbanwa"],
    ["IWenbdbc"]⟩,
  ⟨["tale", "taile"],
    ["JPgBecf"]⟩,
  ⟨["lana", "taitham"],
    ["JXgClbBdclgkgo"]⟩,
  ⟨["tavt", "taiviet"],
    ["CMOuCpyf"]⟩,
  ⟨["takr", "takri"],
    ["EBMeCggk"]⟩,
  ⟨["taml", "tamil"],
    ["EJicbgddbedcbbbcdcdddmefddbecbgbovEALhBynb"]⟩,
  ⟨["tnsa", "tangsa"],
    ["FHGqDbbk"]⟩,
  ⟨["tang", "tangut"],
    ["FJIebBfJCaiBDoTsj"]⟩,
  ⟨["telu", "telugu"],
    ["EOenbdbxbqcjbdbehcbdcbceckhj"]⟩,
  ⟨["thaa", "thaana"],
    ["CVwBy"]⟩,
  ⟨["thai"],
    ["FHxCgfBc"]⟩,
  ⟨["tibt", "tibetan"],
    ["FRsCubBkeBnbBkbpbhec"]⟩,
  ⟨["tfng", "tifinagh"],
    ["RCyCehcob"]⟩,
  ⟨["tirh", "tirhuta"],
    ["EASmCuik"]⟩,
  ⟨["todr", "todhri"],
    ["DVDgCa"]⟩,
  ⟨["toto"],
    ["HATkBf"]⟩,
  ⟨["tutg", "tulutigalari"],
    ["EAIqkbbcbbBmbkbbcbbebkbcic"]⟩,
  ⟨["ugar", "ugaritic"],
    ["DUHcBebb"]⟩,
  ⟨["vaii", "vai"],
    ["CKMqLo"]⟩,
  ⟨["vith", "vithkuqi"],
    ["DVAelbpbhbcblbpbhbc"]⟩,
  ⟨["wcho", "wancho"],
    ["HAVgCgfb"]⟩,
  ⟨["wara", "warangciti"],
    ["ECHcDfmb"]⟩,
  ⟨["yezi", "yezidi"],
    ["DYLkBqbdcc"]⟩,
  ⟨["yiii", "yi"],
    ["CIPkBSvdCd"]⟩,
  ⟨["zanb", "zanabazarsquare"],
    ["ECUqCu"]⟩]

/-- The script extensions that differ from their script, by the code of the script. -/
def extensionTable : List NamedSet := [
  ⟨["adlm", "adlam"],
    ["CIhbBgbJWobFHhbGLRiCyekec"]⟩,
  ⟨["arab", "arabic"],
    ["CHcfbIhbBiDcBwJgBfbcfCxbBdIVnbFHhbCZRaElqRdcCchbBgqEifbFfBMhBcEIeBfCpdCdeDGLsebBbbcb",
     "bcbbkbebbbbgbebbbbbbdbcbbcbbbbbbbbbbcbbcebhbebebbbkbrfdbfbrCac"]⟩,
  ⟨["armn", "armenian"],
    ["BDwbVgBmcBycdDOZjf"]⟩,
  ⟨["avst", "avestan"],
    ["HbbRFscDFQcCcdh"]⟩,
  ⟨["beng", "bengali"],
    ["BAybCMucrcBaebicccwbhbbdecjccceibecbfczHDhbbbccbbibibcbebcdCBAfb"]⟩,
  ⟨["bopo", "bopomofo"],
    ["BBjbbdnbqcRBxdekbnkecbgbHnbjBrEiBgCZLtcKwf"]⟩,
  ⟨["bugi", "buginese"],
    ["JWaBcccCCKtb"]⟩,
  ⟨["buhd", "buhid"],
    ["IUncju"]⟩,
  ⟨["cari", "carian"],
    ["HbbLZmbcbFGdbDCLqBx"]⟩,
  ⟨["aghb", "caucasianalbanian"],
    ["BDsbBsbBsbDTQnCalb"]⟩,
  ⟨["cakm", "chakma"],
    ["DTmkCKekDTFqCbbs"]⟩,
  ⟨["cher", "cherokee"],
    ["BDodbbgcwclcGFuDicgCFJeDc"]⟩,
  ⟨["zyyy", "common"],
    ["aCnBagBaBvbmbcbfxbBfbRhdbkbbdbbjbbbgffcuEwbgbbbYnbIhbTwbCAubPpeGDbmcBhbBfbkbcbhbldlb",
     "prBhClBmbdcgbBbbrBpdeZqwlvBJsJwYecBgbEbTsxbyckbebbbBaQcbdbnbnbvbUjyBfbBxpmeGfkfDsBfb",
     "JToCmBHSqBaDydBLobocBFHskwvcmbtbeFrbbBgBagBagExhbhkfPmnBzBtCYNbJqgQuGaEmCiJmkBncCkdr",
     "ichBeeCjIfumumDjBbhFfDhbCtbccbcccebmbbbhbCnbecibhbBcbebfbbdhbNccLgcByHThCqCyCjBBeBse",
     "DwmpcpbpbBlkGsCeBabcnBsejxgFyBLwerdndEpeDrgmebpmeCeikgBoiBecmecCkNcmocndkfCehpclgjhF",
     "rbDyBSUXbbBeDs"]⟩,
  ⟨["copt", "coptic", "qaac"],
    ["HbbWmbdcbbEecEeoPJkEmfhKtbDCPcBc"]⟩,
  ⟨["cprt", "cypriot"],
    ["DTImdeBtdjCOmgcbbBsbcdbcb"]⟩,
  ⟨["cpmn", "cyprominoan"],
    ["DTImcRQkDv"]⟩,
  ⟨["cyrl", "cyrillic"],
    ["BAybCpdbbbbbbcbfbJeLsIVolGebCybExbGApBgCpbBTLkDsBHEccDHPgCkBhb"]⟩,
  ⟨["deva", "devanagari"],
    ["BAybCJrDfcBrHIeBnbcBNabBZFrkGkBgBREmk"]⟩,
  ⟨["dogr", "dogra"],
    ["DOmmCIDckBQIoCi"]⟩,
  ⟨["dupl", "duployan"],
    ["HbbWtcbbycQIhbFUQlEdfndjhkci"]⟩,
  ⟨["elba", "elbasan"],
    ["HbbWrbDTScBo"]⟩,
  ⟨["ethi", "ethiopic"],
    ["BEcbFRdCvbechbbbecBpbecBhbechbbbecpbCfbecCpcBgdBaJVaxjhbhbhbhbhbhbhbhBVKcgcgcgjhbhEP",
     "Yfhbebcbp"]⟩,
  ⟨["gara", "garay"],
    ["CHobobdbDVQuBmdBdic"]⟩,
  ⟨["geor", "georgian"],
    ["HbbBVlbEFeBmbbfbcBwEJwBrcdBJmbEUnBmbbfbJzb"]⟩,
  ⟨["glag", "glagolitic"],
    ["HbbWpbbbOsbcbJxbEIrbFVibEKrDsSpbBTNfbEOTkhbrchbcbf"]⟩,
  ⟨["goth", "gothic"],
    ["HbbWqccbBobDSYoBb"]⟩,
  ⟨["gran", "grantha"],
    ["DNtcrcYqoGKabbcBeddcBNabDNRjebicccwbhbcbfbkcccdcbgbfhchdfERrcbb"]⟩,
  ⟨["grek", "greek"],
    ["HbbWmccbbbbbkbBubcbBqicebbebbbbdbbbubCloqJNqfByfefDgdMgwcgcBmcgcibbbbbbbBfcCbbpbocgb",
     "tcdbjDqbHsbCAJebBGNiDbrbDAXrCs"]⟩,
  ⟨["gujr", "gujarati"],
    ["DNtcrcKxdbjbdbwbhbcbfckbdbdcbpecmhhCHNsk"]⟩,
  ⟨["gong", "gunjalagondi"],
    ["HbbDHkcEANigbcbBlbcbghk"]⟩,
  ⟨["guru", "gurmukhi"],
    ["DNtcrcFzdbgeccwbhbcbcbccbbfeccddbhebbhrCHSzk"]⟩,
  ⟨["gukh", "gurungkhema"],
    ["DOnbFADeCg"]⟩,
  ⟨["hani", "han"],
    ["HbbRIuBabDlmIgBaqbdbnbnbncbgjHfbFsqBgBmjbBwBoCeBxpmBzbDkzkfDsBfbJToCmBFBkCQyiBFBcOcc",
     "EcBHrcKwfBQPocmcBLRasLRycFEsCLFcBgGDugIocINqoLBlpXyDQwUwCFyHHzfGFg"]⟩,
  ⟨["hang", "hangul"],
    ["GLkJwLJldekbnodgbHnbCbDqEjBfCnBfBTAnBdYtQNsmxeBxOMzcKwfCgBfdgcgcgcd"]⟩,
  ⟨["rohg", "hanifirohingya"],
    ["CHobobdbBgbFrbDVHjBoik"]⟩,
  ⟨["hano", "hanunoo"],
    ["ITsx"]⟩,
  ⟨["hebr", "hebrew"],
    ["BDvcYyCdiBbegDOVwBabfbbbcbcbk"]⟩,
  ⟨["hira", "hiragana"],
    ["SErdekbnqgbbecdDiciDmcCZTgcKwfkbBtcCOUrLbsbBddYMvb"]⟩,
  ⟨["zinh", "inherited", "qaai"],
    ["BEdbcbbpdhcbcqbcbsbfbeCGmcGOxBfBDbCcbbbfUecHmBgDFSqqqoBLnbCZQoBucxUydrichBeeBTLHiJg"]⟩,
  ⟨["java", "javanese"],
    ["CMEyDablec"]⟩,
  ⟨["kthi", "kaithi"],
    ["DOokNXxbBUFekBNMsCpkb"]⟩,
  ⟨["knda", "kannada"],
    ["DNtcrcBEonbdbxbkbfcjbdbehcgcbeckbdGAebbcgbxbbbCASxg"]⟩,
  ⟨["kana", "katakana"],
    ["BDtbBdbQZtdekbnqgbbecDnedDsJgqIaBvbDkCYWbcKwClCOUaebhbcbbLbdByboe"]⟩,
  ⟨["kali", "kayahli"],
    ["CMAaBw"]⟩,
  ⟨["khoj", "khojki"],
    ["EDikCHOikBOBmsbBv"]⟩,
  ⟨["sind", "khudawadi"],
    ["DOmcCIDmkBOIgChfk"]⟩,
  ⟨["latn", "latin"],
    ["CnBagBaBvbmbcbfxbBfbRhdbkbbdbbjbbbgfBbpbcbbpdhcbcBmbfbenKrcBVecCXkbEOiBmgBxfefnbCsCf",
     "bhJwLrbCnbnbqnDfbCfcgbBbbrBpECtBgPrbBTUmiBaDydCpccbbbivoLqbTtBrbjbeBEDqhBOkBagBaDCfg",
     "bBqbjDDNpBfgg"]⟩,
  ⟨["limb", "limbu"],
    ["DOnbFXqBfbmemebdm"]⟩,
  ⟨["lina", "lineara"],
    ["DTItBtBVgLzjwki"]⟩,
  ⟨["linb", "linearb"],
    ["DSYqmbBabtbcbpcoBiEtfdeBtdj"]⟩,
  ⟨["lisu"],
    ["BAybqbRDkcBSFsBwBUMab"]⟩,
  ⟨["lyci", "lycian"],
    ["MGobDHQrBd"]⟩,
  ⟨["lydi", "lydian"],
    ["HbbRFtbDEXqBafb"]⟩,
  ⟨["mahj", "mahajani"],
    ["HbbDHkmCIDckBNUsBn"]⟩,
  ⟨["mlym", "malayalam"],
    ["DNtcrcBJmnbdbBzbdbgeqcBaFVebxbCASzd"]⟩,
  ⟨["mand", "mandaic"],
    ["CJobTrBccb"]⟩,
  ⟨["mani", "manichaean"],
    ["CJobDUQxBnem"]⟩,
  ⟨["gonm", "masaramgondi"],
    ["DOmcEAJqhbcbBsdbbcbjik"]⟩,
  ⟨["mero", "meroitichieroglyphs"],
    ["MGrbDKHmBg"]⟩,
  ⟨["modi"],
    ["CLSakBPOwCrlk"]⟩,
  ⟨["mong", "mongolian"],
    ["JCiBagDlhBrCWabFZtcfeDJFwn"]⟩,
  ⟨["mult", "multani"],
    ["DYkkDWAahbbbebpbl"]⟩,
  ⟨["mymr", "myanmar"],
    ["GBoGeCFUcbGvBfDtBgBPAmu"]⟩,
  ⟨["nand", "nandinagari"],
    ["DNtbscBImkGBhbibhbCASrgBQYsicBucl"]⟩,
  ⟨["newa"],
    ["DNtcHKcbbcjbgbbbbbDPOsDobf"]⟩,
  ⟨["nkoo", "nko"],
    ["CHobobdbQaChcdDOWsc"]⟩,
  ⟨["onao", "olonal"],
    ["DOmcGYKwBreb"]⟩,
  ⟨["hung", "oldhungarian"],
    ["MGobcbFGdbpbDGEgBznBzhg"]⟩,
  ⟨["perm", "oldpermic"],
    ["HbbWmbfdkbOdbDSMuBr"]⟩,
  ⟨["orkh", "oldturkic"],
    ["MGobFGfbDFZzCv"]⟩,
  ⟨["ougr", "olduyghur"],
    ["CJobDUSvbBSfBa"]⟩,
  ⟨["orya", "oriya"],
    ["DNtcrcPvdbicccwbhbcbfcjcccdhdecbfcsGPebxb"]⟩,
  ⟨["osge", "osage"],
    ["BDpbcbgbCybDTLvBkeBk"]⟩,
  ⟨["phag", "phagspa"],
    ["JCkcbbDCjbFZubBTNxCe"]⟩,
  ⟨["phlp", "psalterpahlavi"],
    ["CJobDUYhshemh"]⟩,
  ⟨["runr", "runic"],
    ["IOuDl"]⟩,
  ⟨["samr", "samaritan"],
    ["DAuBucpOJqb"]⟩,
  ⟨["shrd", "sharada"],
    ["DNtbHKfbbbcccbjbcbCATegcbBNWpDs"]⟩,
  ⟨["shaw", "shavian"],
    ["HbbDUIaBw"]⟩,
  ⟨["sinh", "sinhala"],
    ["DOmcBOldbsdybjbbchdbegbbbigkcdFRpbDOTqu"]⟩,
  ⟨["sogd", "sogdian"],
    ["CJobDWIpBq"]⟩,
  ⟨["sunu", "sunuwar"],
    ["BDocbbjbcbBcbdbECGkBiok"]⟩,
  ⟨["sylo", "sylotinagri"],
    ["DOmcEykCHWiBt"]⟩,
  ⟨["syrc", "syriac"],
    ["BDrcccbbydhcbcBCcboccbBgbklBabFnobCicdKmlIEfbbb"]⟩,
  ⟨["tglg", "tagalog"],
    ["ISmwjbvc"]⟩,
  ⟨["tagb", "tagbanwa"],
    ["IUncBpnbdbc"]⟩,
  ⟨["tale", "taile"],
    ["BDocfcdbEZzkDKwBecf"]⟩,
  ⟨["takr", "takri"],
    ["DOmcCIDmkBPTuCggk"]⟩,
  ⟨["taml", "tamil"],
    ["DNtcrcUucbgddbedcbbbcdcdddmefddbecbgbovGKdbCBBkbBOEfbbbCdcETfBynb"]⟩,
  ⟨["tang", "tangut"],
    ["SEaqTbbEQKmbBfJCaiBDoTsj"]⟩,
  ⟨["telu", "telugu"],
    ["DNtcrcZqnbdbxbqcjbdbehcbdcbceckhjGEvcbbbbxb"]⟩,
  ⟨["thaa", "thaana"],
    ["CHoboccbCmkKsByDPGqbkb"]⟩,
  ⟨["thai"],
    ["BAybBabBrbBtbEClCgfBc"]⟩,
  ⟨["tibt", "tibetan"],
    ["FRsCubBkeBnbBkbpbhecMEve"]⟩,
  ⟨["tfng", "tifinagh"],
    ["BDqbbbbezbPYaCehcob"]⟩,
  ⟨["tirh", "tirhuta"],
    ["DNtcrcHJjbmbpbCASzkBPAcCuik"]⟩,
  ⟨["todr", "todhri"],
    ["BDpbcbcbjbbbCwbDTWbCa"]⟩,
  ⟨["toto"],
    ["BAybGZSlBf"]⟩,
  ⟨["tutg", "tulutigalari"],
    ["EXakGBqbbbCASxgHfbBOJekbbcbbBmbkbbcbbebkbcic"]⟩,
  ⟨["yezi", "yezidi"],
    ["CHobobdbCmkDWAgBqbdcc"]⟩,
  ⟨["yiii", "yi"],
    ["SErcfkciIpbBQBcBSvdCdBIIcf"]⟩]

/-- The boundaries of the script with this name. -/
def boundaries? (name : Text) : Option Boundaries := NamedSet.lookup? table name

/-- The boundaries of the extensions of the script with this name. -/
def extensions? (name : Text) : Option Boundaries :=
  (NamedSet.lookup? extensionTable name).or (boundaries? name)

end CatalogLint.CodePoint.Script
