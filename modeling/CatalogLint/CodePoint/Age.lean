import CatalogLint.CodePoint.Boundaries

/-!
# Ages

The property `Age` of Unicode 16: the version in which a code point was assigned. A pattern that
names a version asks for the code points that were assigned by then.
-/

namespace CatalogLint.CodePoint.Age

/-- The code points that each version assigned, by its two spellings, the oldest first. -/
def table : List NamedSet := [
  ⟨["1.1", "v11"],
    ["aTieBeCeDlhBvbkwCsBacscebdbfhbbbubBsbhdbbbbbbbbsnmbCobmbBpjCbccccdBcciccCdBmchbBnbbB",
     "mkbjmBbffxbobdbbBaftnocCucfbpbBeckTzdbCbcscfdzqdbicccwbhbbdecbbhcccdjbecbfcvhbcgeccw",
     "bhbcbcbccbbfeccdlebbhpmdbhbbbdbwbhbcbfckbdbdcbpbfkrdbicccwbhbccecidccdicecbdelrcbgdd",
     "bedcbbbcdcdddibdefddbejbpmodbibdbxbkbfehbdbehcjcekscbibdbxbkbfehbdbehchbbcekscbibdbx",
     "bqegcdbejbicekFpCgeBdBlcbbccbbcbgebhbdbbbbccbnbdcfbbbgckccRiBmkBnebeDmfCqfDeEOkFzfDm",
     "gwcgcBmcgcibbbbbbbBfcCbbpbocgbtcdbjbBvbxBjhdBbrlBlsBeCfBaBwnDnvJiobbErFdBlBblvFjvFuk",
     "DcqugDiFpebecBcbBjbbbedbbhchoBfdyboDDhCehbbDgegcDqgBoeDqbqDsBddBkBcBcdBypmeBvbEpeDvc",
     "BfJWbBEXyYJqJXuIchmfgzbfbbbcbcbEeBhObqCmcCcBomBkemvekbtbeedbbbFfcbbDqcDqdgcgcgcddhbh",
     "od"]⟩,
  ⟨["2.0", "v20"],
    ["CCvrbnubDMxCubBhhBbegbbbvdhbbFQnbUhbCATwQNsEIFycDSYocDSYocDSYocDSYocDSYocDSYocDSYocD",
     "SYocDSYocDSYocDSYocDSYocDSYo"]⟩,
  ⟨["2.1", "v21"],
    ["MJsbDGOtb"]⟩,
  ⟨["3.0", "v30"],
    ["TieBeicsEnfBxbkfDjjtbEmbdbbbbbbbBebmbCobmbBqcceDocGabHsdDucfbpbBqfbobBedBbCbBxCFhcbs",
     "dybjbbchdbegbbbisdOjbBrbxdhbbdbpcbBwBibfbcbhdegBaQghbClbbbechbbbecBnbbbecBfbbbechbbb",
     "echbhbxbBfbbbechbBnbtgBcBjDhmYgjBddDdFnDpdkwpbkgDkiBqCWbbygDrdBycDhcCubDzjKjbErbbBeF",
     "icRpiBhbDicPiJwCCeBabDlmIgBamCiddbNpyWmJTeBFEgBSvdscqbmbdbbBGScbBVvd"]⟩,
  ⟨["3.1", "v31"],
    ["BMycDQQcBgBXwBfbemBbGzBmcBmCZDqJmkBndGyVaDhbCtbccbcccebmbbbebcbCnbecibhbBcbebfbbdhbN",
     "aeLeeByPDwCLEtBETdUwBPCQtbBeDs"]⟩,
  ⟨["3.2", "v32"],
    ["UybLqbtnEacBcbFrcCfcccccBxqNmcMjbDNhcCHjnbhlxjumnbdbcDIxbgfebhfnbCkcByhDepGmmJioEubB",
     "eCaKyuFvkDkiwcDmmckIooDmBceqJwTsBZndDjcicDqbJgqDdpDdpBRDicqbmbdbBGJaChBJdbdqCbcBsbJb",
     "c"]⟩,
  ⟨["4.0", "v40"],
    ["UzbsdEpcClrDcifdFvfTwejjCmdFtcpbBtdBddQubHcbCpbbbFgbDgdnbCpbChbEziHlcEFnbskKcBddmeme",
     "bdBqcfEdBgBDoEeBCpcIwbZjcLqbKqcEmiocBRaoCRncBxbBrcDaeGleDvcBfbJToCmCOQvbCvcQxmbBabtb",
     "cbpcoBiEtfdeBtdjWeBebbFecBmDcckBGwgcbbBsbcdbcbCYUiDjNybBTKDaJg"]⟩,
  ⟨["4.1", "v41"],
    ["VvlKsfGdeJmcGobBidCpbsbCggJhBeUhbDcbStbBvbBMncLjcbbKgbClbClbBnbBfbBfbBfbpbBnbxcBfBaC",
     "GcBqgBagkecBgBcccBGmDkZhcbhBxfBdeCbbDcbpbYulWabDxcslfqKkhBGhgJcBvbBvBhEdoBtkCcjbqxjh",
     "bhbhbhbhbhbhbhBhyecBJuqGsbBPItwCToxIzBsBFEaEcBFqkBFaCxUnBkeoCIsebcfibdbBbedejijCXPvC",
     "sBRac"]⟩,
  ⟨["5.0", "v50"],
    ["WgoLndMzbBqgqeGkbTxChOucbcBHicncFIjCyeBtWlhBzcBCueDpcCbbXbmBBmbKqeBGjhfeMenheBULjefc",
     "LaCeBKOmBafbIRgBHvFpDvneCOGisBQuc"]⟩,
  ⟨["5.1", "v51"],
    ["BHweccDjbHbbFkqIsflfBgfLqsTdcIobBjbHybBdcEebEebBacicuiHhbgbBdcmgdhSxcDtbddCzbfbcbhde",
     "gBaCmecDBebBBxBrdmCsCedpdBzMtBcGzeDmgNsbFjbDqbCbeBYabvkdeKebBfeBFffeBpdfKudbdegNqBgy",
     "ectBDkbGguBPPoiBZoLouBgcsiBcFbfcEdEgfEyCrjmBmDglbGeCdjockceBFSudBHpmCaBuFaBddBxCKdBa",
     "fbCXSjbLRqBseDw"]⟩,
  ⟨["5.2", "v52"],
    ["BYqcBCcBucpHlbCzbgbBjcEybCFpeHleHgfCqfDegTsbYgjVoCsGycBubCrClbBdclgkgoVaBjKgbBAudFvd",
     "CcbXibBArcBddekbtbbeyDjbBNhfKsbncEdhMhbBOcmBPLsiBXkBwQaDkMakGkBcDwBddDablecEyBceCpyf",
     "IqBuckQOkxeBxNBbdFGcwbjHecMmBgEyCcdBdcBbfiEyCvUpBfTtCoLVqBPfCTNdlfBfcblbbbcbdbdfibhb",
     "zbbccbkecbEhbpBiojCQLjGDp"]⟩,
  ⟨["6.0", "v60"],
    ["BYscJobCkbSmBccbIlctbgcBbfTmgQrbqbtbWbeCvcBIocDEnCaieTobZoiBcbBFjlBCcbtbbeBdbecBcbBj",
     "bbbedjcCadybobocCDkbobBPodBSEncLncbcokDcbBDugcgcgjhbhBEMtqHRiDaeBeBHEeVxBALbcYMgpcoc",
     "pbpDcbblbbbcbdbdfibhbkgjbbccbkecbkCxBabcBvjvcGsBhpgbCsdumBlbfvrpClbbbHabedCksyFrfbqb",
     "dbbbbbbbdbgcebbcebmelBwCsCgEmCUQmIo"]⟩,
  ⟨["6.1", "v61"],
    ["CCtbEmbZrbblCdBbTdbBMrcStbfbBvdEBbdmgJwiBreECqbbbBYqcBzbfbCecHukBRAebCNniBjbJicwbCzc",
     "BCoxBDZzcFUuCegcCRozhkgCbboCiCvhkBTuCeikBHKoCrlBvqrBVWiebBbbcbbcbbkbebbbbgbebbbbbbdb",
     "cbbcbbbbbbbbbbcbbcebhbebebbbkbrfdbfbrCacYicBLseHgbqbdbbbbbbbdbgcebbceb"]⟩,
  ⟨["6.2", "v62"],
    ["MKgb"]⟩,
  ⟨["6.3", "v63"],
    ["CIebJYve"]⟩,
  ⟨["7.0", "v70"],
    ["BIlbQiiDpcEobZrblgCybEqbhbYpbBzbCybExbIukDKriVccPlpVxcJdpBBhdBFqhBDtbBQidkBacBgcBidm",
     "biXuhBTOvgJmmldccCrbSuBfEveGuBwecBFIvhBHdctbMhBcBjbBwBrOzBoiCalbFoLzjwkiJoClijRwBgBg",
     "BnemFhshemhBVjbIaBnDibmbgulsbBrEkChfkhdbicccwbhbcbfcjcccdjbfhchdfKhCuikGkCccsCcCrlkW",
     "kDfmbRgCfDFiBqHumfbBALfBfbkecDsBecgkCskkbhbvftBEMaEdfndjhkciQKyHpcqCZwbBgwvcUmmjbCsb",
     "wmBlbfefmrhCtbbbHabecClcehBdsbBpbDiCscnBwCskqndeFkDhBrmeCeikgBoiBe"]⟩,
  ⟨["8.0", "v80"],
    ["DHrcBubUnbNobKabCMvbcgEVobHvcDYeeBRWvjCOubJgbBigMmcXmemDcBFFqcEBgtbcffHgccqcBuYqBznB",
     "zhgBVdeofGehbbbebpblDibDbbYjuLeBadpeqERpbIwHoLQqWlCAWllCHzZcpfbpJHddDacDbfBkiJvbCxfJ",
     "jcFjbWdjDzfChbCUClINq"]⟩,
  ⟨["9.0", "v90"],
    ["DHuiwpBJpbHybedbhxdFRzjOgbCHbeDXccBTZlbKsbBHQdcBEvBkeBkFAobRhDmbbbbTunCCxjbBtbokBddB",
     "gcwboBFMvbBfJBptBDbBGFlhbrchbcbfDIzCxfkecDDbsFmbBFybBpbLocBhdVagbiibcmbmepBmn"]⟩,
  ⟨["10.0", "v100"],
    ["DEmlPlcJsgTsbCgcFYwbJueBBhbBFzbCZabYcfBCmbBPXnvBLPidIQqCuiCacxbfXhhbcbBsdbbcbjikBFGp",
     "bYHkKzDdPgYAegBRpcBicTzmtbiibczbsnBmgCexDCPdLBl"]⟩,
  ⟨["11.0", "v110"],
    ["CAybBnbDybUfdIdbLmbEpbPhbExbENrbBOhBrcdFRmdwzepWpfBCibBPYhfCYhbicMmcBKVccsbBAtBoikRm",
     "BoiBqOhbEodTgbLebBAxbIvCiXlbBBegbcbBlbcbghkLyzBEApDnJPifBCJuuEwhJLwCqBScbCEzbIleOidB",
     "cfcedbbeylnkhcBkzDso"]⟩,
  ⟨["12.0", "v120"],
    ["EStbUgbcbcbbgebhbhccbnbFKhbFPubCbbWtbBTZmgcfBJrcBMBgxBRkbXcbBCpicBuclGdcBZmBynbHQujW",
     "JkgebBvjDmcJCwgPRcdreSAqBtdockecOeCgfbCJzbBKnCjBPebCBgbBkbIvmLddBvbBxbjbBpgdckgdicdB",
     "wDgBceedfdng"]⟩,
  ⟨["12.1", "v121"],
    ["TIdb"]⟩,
  ⟨["13.0", "v130"],
    ["DIckZdbQobEubFAjcGJubBAudBHofKPikBFDgnCYseBqcCbbBFveBGQqbEWxBqbdccJuBcOpbFecZabfcBTm",
     "hcbcibcbBebccmjkCKkbBEJrblcKFxSpBqjBLWudDpdCjbBYucBjcQtcDmbDxbecBqcgdBdbGmboepthhjdn",
     "hBpFrbCdBlkCMSjhBHTqHHz"]⟩,
  ⟨["14.0", "v140"],
    ["CIfbWwBfbcgivbslBHpbBgbExbDWhbhbjbJfbBAnoEvbBwcYlbBBhbEIobBvbTflBRAtdCYicocbbbfydBFT",
     "dbOrqExbBucCVglbpbhbcblbpbhbcRjgbBqbjCXxBaIwgCybCGsbFehBHpqHWyDvWDxDbbkBAEwebhbcLceL",
     "IbBucxjEmVdcEYvBfBHxBfBZdhbebcbpFQkdKmbPcbDebGscBsekeidrdgiihCNCpcGEve"]⟩,
  ⟨["15.0", "v150"],
    ["EXnbSgbDTAkdBFzdDIckBNarbBpdBcHXdbjBdBVHkbBibMRauERhgKbCkBhbBPwBqGUcbFvdefDlbZrdpcBk",
     "dldbbockcmbocCTHobBIWsGFg"]⟩,
  ⟨["15.1", "v151"],
    ["SEmeTbbKEIqXy"]⟩,
  ⟨["16.0", "v160"],
    ["DGpbHCgcBvbKfcCWydFFecBSQvdmdBJOlCaCTwBmdBdicLudCdbBSlkbbcbbBmbkbbcbbebkbcicBCvuBVwB",
     "iokBHgbHYzFXrKZtCgEOkCgLYjbXWiJqgQuIToBrebHCckecRnbfbBubhbvbcbjbIrBl"]⟩]

/-- The sets of the versions up to the one with this name. -/
def members? (name : Text) : Option (List Boundaries) :=
  (table.findIdx? (·.names.any (·.toList == name))).map fun n =>
    (table.take (n + 1)).map fun set => Boundaries.decode set.code

end CatalogLint.CodePoint.Age
