import Moniker.Pattern.CodePoints

/-!
# Unicode tables

The properties of characters, as of version 15 of the Unicode standard.  Names are
written with small letters, and without the blanks, dashes and underscores in them.
-/

namespace Moniker
namespace Pattern
namespace Unicode

/-- The general categories, all but the surrogates, which are no characters. -/
def categories : List Entry :=
  [
    ⟨"lu uppercaseletter", "",
      "CnBaDxxbhBhbbbbbbbbbbbbbbbbbbbbbbbbbbbbbbbbbbbbbbbbbbbbbbbbbbbbbbbcbbbbbbbbbbbbbbbcbbbbb" ++
      "bbbbbbbbbbbbbbbbbbbbbbbbbbbbbbbbbbbbbbbbbcbbbbdcbbbcbdcebcbddcbcbbbbbcbbcbbcbdbbbcdbhbcb" ++
      "cbcbbbbbbbbbbbbbbbcbbbbbbbbbbbbbbbbbcbcbbdbbbbbbbbbbbbbbbbbbbbbbbbbbbbbbbbbbbbbbbbbbbbbb" ++
      "bbbbbbbbbbbbhcbccbbebbbbbbbbLdbbbdbibgbbdbbbcbrbjBjbcddbbbbbbbbbbbbbbbbbbbbbbbfbcbbccBzB" ++
      "wbbbbbbbbbbbbbbbbbbbbbbbbbbbbbbbbbjbbbbbbbbbbbbbbbbbbbbbbbbbbbbbbbbbbbbbbbbbbbbbbbbbbbbb" ++
      "bcbbbbbbbbbbbbcbbbbbbbbbbbbbbbbbbbbbbbbbbbbbbbbbbbbbbbbbbbbbbbbbbbbbbbbbbbbbbbbbbbbbbbbb" ++
      "bbbbbbbbbbbbbbbbbbbbbbcBmEHdBmbbfbBBuDiDGsBrcdMibbbbbbbbbbbbbbbbbbbbbbbbbbbbbbbbbbbbbbbb" ++
      "bbbbbbbbbbbbbbbbbbbbbbbbbbbbbbbbbbbbbbbbbbbbbbbbbbbbbbbbbbbbbbbbbbbbbbbbbbbbbbbbbbbbbbbb" ++
      "bbbbbbbbbbbbbbbbbbbbbjbbbbbbbbbbbbbbbbbbbbbbbbbbbbbbbbbbbbbbbbbbbbbbbbbbbbbbbbbbbbbbbbbb" ++
      "bbbbbbbbbbbbbbbbbbbbbbbbbbbbbbbjiigkiiiiglbbbbbbbiiCuemememfleKcbebddcdcbdfgbbbbbbecekcf" ++
      "bCjbDZgBwBwbbdcbbbbbbebbcbidbbbbbbbbbbbbbbbbbbbbbbbbbbbbbbbbbbbbbbbbbbbbbbbbbbbbbbbbbbbb" ++
      "bbbbbbbbbbbbbbbbbbbbbbbbbbbbbbbbbbbbbbibbbebBTYjbbbbbbbbbbbbbbbbbbbbbbbbbbbbbbbbbbbbbbbb" ++
      "bbbbbtbbbbbbbbbbbbbbbbbbbbbbbbbbbFfbbbbbbbbbbbbbdbbbbbbbbbbbbbbbbbbbbbbbbbbbbbbbbbbbbbbb" ++
      "bbbbbbbbbbbbbbbbbbbbbbkbbbbcbbbbbbbbebbbcbbbdbbbbbbbbbbbbbbbbbbbbfbfbbbbbbbbbbbbbbbebbgb" ++
      "fbbbBcbBHAhBaBUzBoFgBkGalbpbhbcCQcBzENlBgBGJwBgBMMqBaBaBaBaBaBabbccbcccebiBaBaBacbecibhB" ++
      "bcbebfbbdhBbBaBaBaBaBaBaBaBaBaBaBaBezBhzBhzBhzBhzBhbGNlBi"⟩,
    ⟨"ll lowercaseletter", "",
      "DtBaCgbBpybibbbbbbbbbbbbbbbbbbbbbbbbbbbbbbbbbbbbbbbbbbbbbbbbbbbbbbbcbbbbbbbbbbbbbbbcbbbb" ++
      "bbbbbbbbbbbbbbbbbbbbbbbbbbbbbbbbbbbbbbbbbbcbbbbdcbbbcbdcebcbddcbcbbbbbcbbcbbcbdbbbcccdgb" ++
      "cbcbbbbbbbbbbbbbbbbcbbbbbbbbbbbbbbbbbccbbbdbbbbbbbbbbbbbbbbbbbbbbbbbbbbbbbbbbbbbbbbbbbbb" ++
      "bbbbbbbbbbbbbhcbccbbebbbbbbbbCrbBbHlbbbdbddsbBbBjbcddbbbbbbbbbbbbbbbbbbbbbbbfbbcbccBzBwb" ++
      "bbbbbbbbbbbbbbbbbbbbbbbbbbbbbbbbbjbbbbbbbbbbbbbbbbbbbbbbbbbbbbbbbbbbbbbbbbbbbbbbbbbbbbbc" ++
      "bbbbbbbbbbbbcbbbbbbbbbbbbbbbbbbbbbbbbbbbbbbbbbbbbbbbbbbbbbbbbbbbbbbbbbbbbbbbbbbbbbbbbbbb" ++
      "bbbbbbbbbbbbbbbbbbbbbBwBpEHbBrcdBDggDFujEpBsClnbBiDybbbbbbbbbbbbbbbbbbbbbbbbbbbbbbbbbbbb" ++
      "bbbbbbbbbbbbbbbbbbbbbbbbbbbbbbbbbbbbbbbbbbbbbbbbbbbbbbbbbbbbbbbbbbbbbbbbbbbbbbbbbbbbbbbb" ++
      "bbbbbbbbbbbbbbbbbbbbbbbbjbbbbbbbbbbbbbbbbbbbbbbbbbbbbbbbbbbbbbbbbbbbbbbbbbbbbbbbbbbbbbbb" ++
      "bbbbbbbbbbbbbbbbbbbbbbbbbbbbbbbbbbjigkiiiigkiiiiociiiiiifbcgbddbciecciikdbcKobdcdbBbbebe" ++
      "bccieebCbbEBbBwbbdcbbbbbbebbcbgfbbbbbbbbbbbbbbbbbbbbbbbbbbbbbbbbbbbbbbbbbbbbbbbbbbbbbbbb" ++
      "bbbbbbbbbbbbbbbbbbbbbbbbbbbbbbbbbbbbbbbbbbchbbbebmBmbbfbBTWdbbbbbbbbbbbbbbbbbbbbbbbbbbbb" ++
      "bbbbbbbbbbbbbbbbbtbbbbbbbbbbbbbbbbbbbbbbbbbbbFfbbbbbbbbbbbbdbbbbbbbbbbbbbbbbbbbbbbbbbbbb" ++
      "bbbbbbbbbbbbbbbbbbbbbbbbbbbbbbbbbbbibbbbcbbbbbbbbbebbbcbbdbbbbbbbbbbbbbbbbbbbbfbfbbbbbbb" ++
      "bbbbbbbbebbbgbbbbbbbbbBcbdbBFpBrfjhDcBEAihmfBOzBaBVhBoFgBkFzlbpbhbcCRbBzEMfBgBGJwBgBMMkB" ++
      "aBahbsBaBaBaebbbhblBaBaBaBaBaBaBaBaBaBaBaBaBaBaBaBaBaBcBczbgBazbgBazbgBazbgBazbgbbCSykbu" ++
      "ggDUdBi"⟩,
    ⟨"lt titlecaseletter", "", "RlbcbcbBmbLFhiiiiimbpbBvb"⟩,
    ⟨"lm modifierletter", "",
      "BAmsemofhbbbFdbfbSkbIwbGicKjcebBfbjbdbGebGlbBVobExbVtbCPmbEdbXnbRwgGsClnbBiBlBAnbnbqnEMx" ++
      "cJhbHjbSbbBrffbDtcDpdBQBubBWcgKkbEkbBccErjDcbxbEbddcSbbwbFhbEebvcDzejbBFVibBtcCZogbBqbjB" ++
      "LRxeBQlnCmcbbYGqebhbcSGnCkHthBKfbBRbb"⟩,
    ⟨"lo otherletter", "",
      "GobpbJwbeeIabBFvBbeeBtBgbkBjcbDvbbyckdcbqbbBeBdDllbyBhvwBqzhlfybgrBpChCcdbsbhkqpeicccwbh" ++
      "bbdedbqbncbdockbigeccwbhbcbcbcBfebbtdqjbdbwbhbcbfdbsbpcxblicccwbhbcbfdbBecbdpbrbbgddbedc" ++
      "bbbcdcdddmwbCaibdbxbqdbBadcbccBebeibdbxbkbfdbBfcbcpcrjbdbBpcbqbfdidygfsdybjbbchCgBwbcmgC" ++
      "hcbbbfbybbbkbcjbcfxeBgbClibBkBbfElBrubqgeedbdchdenmbEjMrbechbbbecBpbecBhbechbbbecpbCfbec" ++
      "CpBlqEjXwcrbBafCxgihsntosonbdpCaBobCpBjbCbhfcBibbfCskBfBxBecflBseBaCcxjCbGuBvriCcBenckBs" ++
      "BaBkBpdkBeEjebgbcdbBPqeENvCeyxjhbhbhbhbhbhbhbhVfbCbbeDiibbDmebfBrbDqrBgBwqTsJToCmBFCfbBR" ++
      "zCpBoiKieqkcCobBxCsGnbDzbdhbdbebxBdCaoByCkgdbbclBckxzBdhBvBtfcjkfbBpxdbiuqbgdbdBybbdccfc" ++
      "bbbycdlhbogcgcgjhbhFpBjBdQNsmxeBxMNcOccEcCpbbkbnbfbbbcbcbEeBhNzsCmcCcBomEmfbFfEbkbBtcBfd" ++
      "gcgcgcdBjmbBabtbcbpcoBiEtOzBddBxBvBgnubigBmkBecBkeiEyDaDuBoiCaGaLzjwkiFwgcbbBsbcdbcxkxjB" ++
      "fCntbckwkBaCsCegcCmbpebdbBdBqBddBdBjibBcBbCckwktnsEgCvHbBkNkBqgcDaBdkbiwBqsBuvBbxmCbCfcc" ++
      "bnBtBgzBaBkBdbcbiBjdbmBwoevbbbBjsbztcClhbbbebpbkhBvBmicccwbhbcbfdbsbmfGcCbseudBeBwucbbHc" ++
      "BvBpeBkBwubChBrnbCtBbBlhHdBsIdicbcibcbypbbbDqicBnqbbbBcbkBohbvblButbsCvKdjbBlrbBxBeEihbc" ++
      "bBmvbzgbcbBgobMptpbbnbBiEubDbBJmIwHoDXkDtpBPgrgFYvWlMUbVxhBfrDbrBesBwBzvftBHwCxfbGtJCaiB" ++
      "VqBqjNGhLfpbBddcboeiPgDKuEdfndjhkNBcbThBtBhbMjBesBsSqBbBDdhbebcbpbHpBZnebBbbcbbcbbkbebbb" ++
      "bgbebbbbbbdbcbbcbbbbbbbbbbcbbcebhbebebbbkbrfdbfbrGOaCLFcBgGDugIocINqoLBlEPjUwCFyHHzfGFg"⟩,
    ⟨"mn nonspacingmark", "",
      "BDoEiKpfKfBtbbbcbcbbCulBwvqbDxhcgccbeBjbBeBbDnlCgjjbyebjbdbfBrdCiiBqybBgCdbbbeiebdhkcBdb" ++
      "CgbeeibucBabccCfbececcddbBecdblcCfbefbcebucwgbbCgbcbbeibhclcBebCjbmbBybdbCdbbdfdbehclcBd" ++
      "bCgbcbgbfcucBccCfceeibucBdbCubhdbbDmbchmiDubcjlhCvcBbbbbbbCdobfbcflbBkjbDyebgbccczcedqen" ++
      "bccgbpbBBbdBKkdBdcBecBecCmcbhibcljbBtdbbEncBibEodecjbgdIlccbCgbbhbbbbcigkcbBwobqBxeBwbbf" ++
      "bbfbBojmcBgeccbdCebbcdbbdCgiccFwdbnbhebgbdcHqCmBBsnebdmEOcdFlbDsBgVieEdcBSQebekBgcDccKmb" ++
      "dbebzcfbFvcBasnbBmizlBudBwbceccBnbCpgccccmbibBvbBzbbdccfcbbBqcibJebcbebBDZsbBCjqqqBLlbIs" ++
      "bFtfCMgdbcfeBodebGjcWbeOxcDcdCslBxeEtbCcpBpbcckdBxecchbCjdBkfbiCkbmcCajkecbDrdcbbcgbcbGb" ++
      "bdivcCfcdbBlhdfHnicdbbxbDggbbecbcJeegcbcBbcDhicbbcEcbbbcgbbDxdcebfJzjbcJwcbbebFoeccebBgk" ++
      "BogceibjgcdBunbcPqhbgbbDewchbcbcEsgdbbcbhbbCucdbbbNjclcCaffbbbHYrbgpURqfChhBOibCleDdbBDB" ++
      "kcGYzBucxUydrichBeeFsdCYdCdeByibobwfbpCAihbrchbcbfDwbGehOlbCjeToeBMehEfhBTCIvJg"⟩,
    ⟨"mc spacingmark", "",
      "DKtbCdbcdiebcBycCgdgccckbBrbCgdCobCgdibbcCbcCgbbbgccckbDycbcddbdkbBpdCjeCjcCgbbfccbcjcBc" ++
      "bocCgdfdbdkbBqcCxdgiscMscClbGpcebgbcczckdchvccgcbkdCLsbBebEzbhibcNiecdecbgIqcCgbbbjbbcig" ++
      "FpbBwbfbbfbcCjbBebeccbCibcdbbdcBwiicGpbvbHHecBTLbccbDkcByqFmcBvbBwceccdEgcccybBtbbbEfbcc" ++
      "fbJdcbcbcbbBLXjbbbExbBtdecElbycChbBwdjcnbDpddcbbGodBfcCgcbecccdjbkcIbdicdbEcdgbbecbJddge" ++
      "cbEjdicbbEfbbcgbEbcebKbdjbJngbcebcbbbFmdieebDgbBdcCkbPrbobEcbhbcbIffecbbNmcmbBwcicbbBEIh" ++
      "CdEacBKXncgg"⟩,
    ⟨"me enclosingmark", "", "BSqcIKqbCIgebdBYOxd"⟩,
    ⟨"nd decimalnumber digit", "",
      "BwkCIokFekHqkPwkEokEokEokEokEokEokEokEokEokDskEokCskKskCskCTqkBmkLokEykGkkgkHakDikFekgkC" ++
      "AEokBAckBmkHqkwkDikPqkBFMckCCkkDFykBFgkEykCikFokKskNekEokOkkDykDykQgkDykBDekJmkCskQgkBCK" ++
      "skDikFekBPBwByDNckQgkTikBQskHBak"⟩,
    ⟨"nl letternumber", "", "IRudDYtBjceFMsbzjodBSYlkBIFgCbRsbibFefMEsEh"⟩,
    ⟨"no othernumber", "",
      "GwcfbcdDMrgOmgEqdFdhIjhrjQrkBPluBRvkSmbCMvbdggkHqqBpbBByCiDawYgBeCBhbBTceFikBeibpBgkBnpB" ++
      "SMigBHQnBtCnercNdBbBkeBZgizhBnjCxfwgGeccqcBuCmjCacBedCxfEaiyiBphMsgNoBfGckBqeEihFeuOpuBZ" ++
      "xcQojBHntBGtvBCPqhBEsxBLYfumuEezIBujBJtChbdbeCyBtbpBLan"⟩,
    ⟨"pc connectorpunctuation", "", "DrbMBvctbDGAocydJfb"⟩,
    ⟨"pd dashpunctuation", "", "BtbCAubBzbFKjbBNpbDBdgFHxbcbBfcebBcbRebtbEhbCZWacBlbkbGnbFXvb"⟩,
    ⟨"ps openpunctuation", "",
      "BobBybBfbFPebbbCUobDPmbdbBmbCdbpbYkbbbBebBPubbbbbbbbbbbbbDcbBgbbbbbbbbbPobbbbbbbbbbbbbbb" ++
      "bbbbbbCmbbbBhbBOvbbbbbbbzbsbbbbbbbQmbbbbbbbbbdbbbbbbbcbCZRtbIhbBdbbbbbbbbbbbbbbbdbrbbbbb" ++
      "GobBybBfbdbcb"⟩,
    ⟨"pe closepunctuation", "",
      "BpbBzbBfbFPdbbbCUobDRdbCdbpbYkbbbBebBPubbbbbbbbbbbbbDcbBgbbbbbbbbbPobbbbbbbbbbbbbbbbbbbb" ++
      "bCmbbbBhbBOvbbbbbbbBsbbbbbbbQmbbbbbbbbbdbbbbbbbccCZRqbIjbBdbbbbbbbbbbbbbbbdbrbbbbbGobBzb" ++
      "Bfbcbcb"⟩,
    ⟨"pi initialpunctuation", "", "GpbLXkbcccbzbFFsbbbebcbpbdb"⟩,
    ⟨"pf finalpunctuation", "", "HfbLWvbdbBcbFFsbbbebcbpbdb"⟩,
    ⟨"po otherpunctuation", "",
      "BhdbdcbbbbckcdcBbbCqbfbochbBBabibRygBpbCcbcbcbBscucbcnbbdCweDybBroIzdCcpBfbKbckbFkbEqbEr" ++
      "bPabmbOdbDmbkcGmpbbEibCwfecEhgGpbXojBDtbEudCtcGbdbdBlgbeMbcIicEyhbgGqhBccEveChfCkcCmilbB" ++
      "GcciiijcecddlbbbkEUcebcEibFncedcbcjbcbbcckfbkcebbbncdQmdCfbHhbBRYgcKjdDvbkbElgOqeDicBodb" ++
      "bBxcBvbDtnqcEueEwcqcJpbBFCuhcbwbucceddbehdgbbcFtdbdcbbbbckcdcBbbBkbccPudZsbBwbPybBCpbHrb" ++
      "BfbKmjBmbEihCohDleBKqfBseHhhEfcbeEweBwcDbeebnbbdDkgEdbQbfkcbbEabJqxEbdBcnCybFadJsbKedFzb" ++
      "DoiDfdbfDpkLzfBqcYvcCwnGtbBRsfEJccWDvcFdbCnfibBGseMpbBDBobLIlfFPyc"⟩,
    ⟨"sm mathsymbol", "",
      "BrbqdCjbbbBtbebBlbBfbBDmbUhdJYhbnbBndndFjbBnfgbCqffcebcbcbhbBfccbbbBfKiBgcDmbBezBogSbbjb" ++
      "CciEhbMyfcBfkqJwFbwCleBgcJyBwvcgDASqbBFsbbdGibqdCjbbbFbbgeDDJgbzbBfbzbBfbzbBfbzbBfbzbIUe" ++
      "c"⟩,
    ⟨"sc currencysymbol", "",
      "BkbEveBWjbEtbTecTechbJlbKdbWjbDQpbDIiBhBZHvbBGMlbEebFybIlcdcMCseCVXebDRkb"⟩,
    ⟨"sk modifiersymbol", "",
      "DqbbbCtbgbebdbUbemofhbbbrEnbocBXibIUmbbdldndndncGHocBSVrxjcDzcBLobocBEKkrBIhbbbGgbDOLjf"⟩,
    ⟨"so othersymbol", "",
      "GkbcbebbbBLpbKgcExcHybkbtcJnbTvbOjbFagbbFcbHzbBpbPbdpbbdcgubbbbbFdibgbcfeHpcBCykBBvbBBub" ++
      "GbBiNpkjjCChcbebckbbcggbbbbbbeblcobbcbbCgcjfcebcbcbhbBfccbbbBfKiieuchcDdbBezBogCrzlDdDaw" ++
      "HbbjbCciEhbJoBsBsCmJwTsBwvcgBncBgbEbIvgNtcBuBabDlmIgBamibncmbvcgcMycekBgBkBcBflBeibpBgkB" ++
      "npMiJToCmBGUiCdBHhekcbbWbdBFJaqExbBtdSqbdbecncMbjCfrcdbndbBvBtCLucWtbESsbDGnierBCNiefbBE" ++
      "UwbHCdEmCiJmkBncCifdwchBeeCjvCodbHeDjBTxTsCdeByibobcCOubEHwbEzbBBtBseDwmpcpbpbBlxGfCeBdn" ++
      "BsejhcogFyJrfBCaerdndEpeDrgmebpmeCeikgBoiBeccDaNcmocndjhBubhioejhjhFrbCd"⟩,
    ⟨"zs spaceseparator", "", "BgbExbIHjbDPnlBkbBvbFXwb"⟩,
    ⟨"zl lineseparator", "", "MEqb"⟩,
    ⟨"zp paragraphseparator", "", "MErb"⟩,
    ⟨"cc control cntrl", "", "aBgDrBh"⟩,
    ⟨"cf format", "", "GrbCAkgwbHkbBxbOucDcbFTjbDAqfBafBxfbkDGHjbJpdGIzbpbNKkqBZQueHWxiBTKZmbBeDs"⟩,
    ⟨"co privateuse", "", "DGVoJMeCAHXoDSYocDSYo"⟩
  ]

/-- The general categories that are made of several, and the sets that can be named
in their place. -/
def groups : List Entry :=
  [
    ⟨"l letter", "lu ll lt lm lo", ""⟩,
    ⟨"lc casedletter", "lu ll lt", ""⟩,
    ⟨"m mark combiningmark", "mn mc me", ""⟩,
    ⟨"n number", "nd nl no", ""⟩,
    ⟨"p punctuation punct", "pc pd ps pe pi pf po", ""⟩,
    ⟨"s symbol", "sm sc sk so", ""⟩,
    ⟨"z separator", "zs zl zp", ""⟩,
    ⟨"c other", "lu ll lt lm lo mn mc me nd nl no pc pd ps pe pi pf po sm sc sk so zs zl zp",
      "a"⟩,
    ⟨"cn unassigned",
      "lu ll lt lm lo mn mc me nd nl no pc pd ps pe pi pf po sm sc sk so zs zl zp cc cf co",
      "a"⟩,
    ⟨"assigned",
      "lu ll lt lm lo mn mc me nd nl no pc pd ps pe pi pf po sm sc sk so zs zl zp cc cf co",
      ""⟩,
    ⟨"any", "", "a"⟩,
    ⟨"ascii", "", "aEy"⟩
  ]

def scripts : List Entry :=
  [
    ⟨"adlm adlam", "", "HDEuCyekec"⟩,
    ⟨"aghb caucasianalbanian", "", "DUXsCalb"⟩,
    ⟨"ahom", "", "EBRcBbcpex"⟩,
    ⟨"arab arabic", "",
      "CHcfbgbobdbBgbklBabEebBiDcBwJgBfbcgCwbBdDNTwElqNzcDccCchbBgqEifbFfFVnBfEwdDGLsebBbbcbbcb" ++
      "bkbebbbbgbebbbbbbdbcbbcbbbbbbbbbbcbbcebhbebebbbkbrfdbfbrCac"⟩,
    ⟨"armi imperialaramaic", "", "DWBwwbj"⟩,
    ⟨"armn armenian", "", "BZdBmcBycdDOZjf"⟩,
    ⟨"avst avestan", "", "DXCyCcdh"⟩,
    ⟨"bali balinese", "", "KFwCzdBv"⟩,
    ⟨"bamu bamum", "", "CLCqDkCVCqVx"⟩,
    ⟨"bass bassavah", "", "FHKiBecg"⟩,
    ⟨"batk batak", "", "KNgCaie"⟩,
    ⟨"beng bengali", "", "DPoebicccwbhbbdecjccceibecbfcz"⟩,
    ⟨"bhks bhaiksuki", "", "EDOijbBtbokBd"⟩,
    ⟨"bopo bopomofo", "", "BCscRLxBrEiBg"⟩,
    ⟨"brah brahmi", "", "DZAeDaeBkjb"⟩,
    ⟨"brai braille", "", "PDwJw"⟩,
    ⟨"bugi buginese", "", "JWaBccc"⟩,
    ⟨"buhd buhid", "", "IUyu"⟩,
    ⟨"cakm chakma", "", "DZKaCbbs"⟩,
    ⟨"cans canadianaboriginal", "", "HOyYqVoCsDTPqq"⟩,
    ⟨"cari carian", "", "DTYmBx"⟩,
    ⟨"cham", "", "CMJwCdjockce"⟩,
    ⟨"cher cherokee", "", "HLgDicgCFJeDc"⟩,
    ⟨"chrs chorasmian", "", "DYXcBc"⟩,
    ⟨"copt coptic qaac", "", "BMgoPJkEmfh"⟩,
    ⟨"cpmn cyprominoan", "", "EKYyDv"⟩,
    ⟨"cprt cypriot", "", "DVZkgcbbBsbcdbcb"⟩,
    ⟨"cyrl cyrillic", "", "BNkFdcGnIVojGgbCybGFnBgBTOaDsBHEccDHPgCkBhb"⟩,
    ⟨"deva devanagari", "", "DKqDdepcBaCIJgBgBREmk"⟩,
    ⟨"diak divesakuru", "", "ECKuhcbcibcbBebccmjk"⟩,
    ⟨"dogr dogra", "", "ECAyCi"⟩,
    ⟨"dsrt deseret", "", "DUMaDc"⟩,
    ⟨"dupl duployan", "", "GMDsEdfndjhkce"⟩,
    ⟨"egyp egyptianhieroglyphs", "", "ELDgBQs"⟩,
    ⟨"elba elbasan", "", "DUVwBo"⟩,
    ⟨"elym elymaic", "", "DYYyx"⟩,
    ⟨"ethi ethiopic", "",
      "GVgCvbechbbbecBpbecBhbechbbbecpbCfbecCpcBgdBaJVaxjhbhbhbhbhbhbhbhBVKcgcgcgjhbhEPYfhbebcbp"⟩,
    ⟨"geor georgian", "", "GHsBmbbfbcBrbeEJwBrcdGEaBmbbfb"⟩,
    ⟨"glag glagolitic", "", "QRgDsGIZghbrchbcbf"⟩,
    ⟨"gong gunjalagondi", "", "EEBwgbcbBlbcbghk"⟩,
    ⟨"gonm masaramgondi", "", "EDYehbcbBsdbbcbjik"⟩,
    ⟨"goth gothic", "", "DUEaBb"⟩,
    ⟨"gran grantha", "", "EADsebicccwbhbcbfcjcccdcbgbfhchdf"⟩,
    ⟨"grek greek", "",
      "BHwebdcebbebbbbdbbbubCloqJNqfByfefDgbMiwcgcBmcgcibbbbbbbBfcCbbpbocgbtcdbjLjbCAJebBGNiDbr" ++
      "bDAXrCs"⟩,
    ⟨"gujr gujarati", "", "DZldbjbdbwbhbcbfckbdbdcbpecmhh"⟩,
    ⟨"guru gurmukhi", "", "DUndbgeccwbhbcbcbccbbfeccddbhebbhr"⟩,
    ⟨"hang hangul", "", "GLkJwLLecJxDqEjBfCnBfBTAnBdYtQNsmxeBxPAiBfdgcgcgcd"⟩,
    ⟨"hani han", "",
      "RPwBabDlmIgBvbbbzjoeBLcJToCmBFBkBHSiOccEcBSIicmcCCOkCLFcBgGDugIocINqoLBlEPjUwCFyHHzfGFg"⟩,
    ⟨"hano hanunoo", "", "ITsv"⟩,
    ⟨"hatr hatran", "", "DWIatbcff"⟩,
    ⟨"hebr hebrew", "", "CCvCdiBbegDOVwBabfbbbcbcbk"⟩,
    ⟨"hira hiragana", "", "SHdDigdFPEvLbsbBddYMvb"⟩,
    ⟨"hluw anatolianhieroglyphs", "", "ESSeWl"⟩,
    ⟨"hmng pahawhhmong", "", "FHMeCskkbhbvft"⟩,
    ⟨"hmnp nyiakengpuachuehmong", "", "HAEaBtdockec"⟩,
    ⟨"hung oldhungarian", "", "DXRsBznBzhg"⟩,
    ⟨"ital olditalic", "", "DUCeBkjd"⟩,
    ⟨"java javanese", "", "CMEyDackec"⟩,
    ⟨"kali kayahli", "", "CMAaBubb"⟩,
    ⟨"kana katakana", "", "SKvDmcdJgqIaBvbDkCZHekbBtCOUcebhbcbbLbdByboe"⟩,
    ⟨"kawi", "", "EERwrbBpdBc"⟩,
    ⟨"khar kharoshthi", "", "DWTcebcfibdbBdcdekhj"⟩,
    ⟨"khmr khmer", "", "IXkDqckgkSsBg"⟩,
    ⟨"khoj khojki", "", "DZTwsbBv"⟩,
    ⟨"kits khitansmallscript", "", "FJIibKGxSc"⟩,
    ⟨"knda kannada", "", "ETcnbdbxbkbfcjbdbehcgcbeckbd"⟩,
    ⟨"kthi kaithi", "", "DZFcCpkb"⟩,
    ⟨"lana taitham", "", "JXgClbBdclgkgo"⟩,
    ⟨"laoo lao", "", "FMvcbbbfbybbbxcfbbbhbkce"⟩,
    ⟨"latn latin", "",
      "CnBagBaBvbpbfxbBfbRhBnfJXbBmgBxfefnbCsCnJwOfbnbqnFlcgbBbbrBpECtBgBULmDydCmfcbbbfyoBFkBrb" ++
      "jbeBEDqhBOkBagBaDCfgbBqbjDDNpBfgg"⟩,
    ⟨"lepc lepcha", "", "KPsCedpdd"⟩,
    ⟨"limb limbu", "", "JMeBfbmemebdm"⟩,
    ⟨"lina lineara", "", "DVFsLzjwki"⟩,
    ⟨"linb linearb", "", "DSYqmbBabtbcbpcoBiEt"⟩,
    ⟨"lisu", "", "CKKuBwBUMab"⟩,
    ⟨"lyci lycian", "", "DTXgBd"⟩,
    ⟨"lydi lydian", "", "DWKmBafb"⟩,
    ⟨"mahj mahajani", "", "DZNcBn"⟩,
    ⟨"maka makasar", "", "EEQqz"⟩,
    ⟨"mand mandaic", "", "DDgBccb"⟩,
    ⟨"mani manichaean", "", "DXAmBnem"⟩,
    ⟨"marc marchen", "", "EDSqBgcwbo"⟩,
    ⟨"medf medefaidrin", "", "FISeDn"⟩,
    ⟨"mend mendekikakui", "", "HCUyHpcq"⟩,
    ⟨"merc meroiticcursive", "", "DWPkyeucBu"⟩,
    ⟨"mero meroitichieroglyphs", "", "DWOeBg"⟩,
    ⟨"mlym malayalam", "", "EYanbdbBzbdbgeqcBa"⟩,
    ⟨"modi", "", "EBHgCrlk"⟩,
    ⟨"mong mongolian", "", "JCiccbbugDlhBrDSCbn"⟩,
    ⟨"mroo mro", "", "FHEuBfbkec"⟩,
    ⟨"mtei meeteimayek", "", "CMSmxHtBuck"⟩,
    ⟨"mult multani", "", "DZYuhbbbebpbl"⟩,
    ⟨"mymr myanmar", "", "GBoGeCGAyBfDtBg"⟩,
    ⟨"nagm nagmundari", "", "HBPoBq"⟩,
    ⟨"nand nandinagari", "", "ECQyicBucl"⟩,
    ⟨"narb oldnortharabian", "", "DWYaBg"⟩,
    ⟨"nbat nabataean", "", "DWEiBfij"⟩,
    ⟨"newa", "", "EANoDobf"⟩,
    ⟨"nkoo nko", "", "CYiChcd"⟩,
    ⟨"nshu nushu", "", "FJIfbYVmPg"⟩,
    ⟨"ogam ogham", "", "INoBd"⟩,
    ⟨"olck olchiki", "", "KSuBw"⟩,
    ⟨"orkh oldturkic", "", "DXMuCv"⟩,
    ⟨"orya oriya", "", "EEjdbicccwbhbcbfcjcccdhdecbfcs"⟩,
    ⟨"osge osage", "", "DUSuBkeBk"⟩,
    ⟨"osma osmanya", "", "DUQyBeck"⟩,
    ⟨"ougr olduyghur", "", "DYUqBa"⟩,
    ⟨"palm palmyrene", "", "DWDcBg"⟩,
    ⟨"pauc paucinhau", "", "EDCaCf"⟩,
    ⟨"perm oldpermic", "", "DUFgBr"⟩,
    ⟨"phag phagspa", "", "CLSqCe"⟩,
    ⟨"phli inscriptionalpahlavi", "", "DXGqtfi"⟩,
    ⟨"phlp psalterpahlavi", "", "DXHwshemh"⟩,
    ⟨"phnx phoenician", "", "DWJgBcdb"⟩,
    ⟨"plrd miao", "", "FIZoCxeCfhr"⟩,
    ⟨"prti inscriptionalparthian", "", "DXFkwci"⟩,
    ⟨"rjng rejang", "", "CMBwBklb"⟩,
    ⟨"rohg hanifirohingya", "", "DXWqBoik"⟩,
    ⟨"runr runic", "", "IOuCxdl"⟩,
    ⟨"samr samaritan", "", "DAuBucp"⟩,
    ⟨"sarb oldsoutharabian", "", "DWWuBg"⟩,
    ⟨"saur saurashtra", "", "CLVcCsim"⟩,
    ⟨"sgnw signwriting", "", "GWTkZcpfbp"⟩,
    ⟨"shaw shavian", "", "DUPcBw"⟩,
    ⟨"shrd sharada", "", "DZOyDs"⟩,
    ⟨"sidd siddham", "", "EBCiCccBm"⟩,
    ⟨"sind khudawadi", "", "EAAqChfk"⟩,
    ⟨"sinh sinhala", "", "FCzdbsdybjbbchdbegbbbigkcdDULgu"⟩,
    ⟨"sogd sogdian", "", "DYSeBq"⟩,
    ⟨"sogo oldsogdian", "", "DYQiBo"⟩,
    ⟨"sora sorasompeng", "", "DZIezhk"⟩,
    ⟨"soyo soyombo", "", "ECXsDf"⟩,
    ⟨"sund sundanese", "", "KKuCmJwi"⟩,
    ⟨"sylo sylotinagri", "", "CLQeBt"⟩,
    ⟨"syrc syriac", "", "CQyobCicdKml"⟩,
    ⟨"tagb tagbanwa", "", "IWenbdbc"⟩,
    ⟨"takr takri", "", "EBMeCggk"⟩,
    ⟨"tale taile", "", "JPgBecf"⟩,
    ⟨"talu newtailue", "", "JRcBseBagldc"⟩,
    ⟨"taml tamil", "", "EJicbgddbedcbbbcdcdddmefddbecbgbovEALhBynb"⟩,
    ⟨"tang tangut", "", "FJIebBfJCaiBDoTsj"⟩,
    ⟨"tavt taiviet", "", "CMOuCpyf"⟩,
    ⟨"telu telugu", "", "EOenbdbxbqcjbdbehcbdcbceckhj"⟩,
    ⟨"tfng tifinagh", "", "RCyCehcob"⟩,
    ⟨"tglg tagalog", "", "ISmwjb"⟩,
    ⟨"thaa thaana", "", "CVwBy"⟩,
    ⟨"thai", "", "FHxCgfBc"⟩,
    ⟨"tibt tibetan", "", "FRsCubBkeBnbBkbpbhec"⟩,
    ⟨"tirh tirhuta", "", "EASmCuik"⟩,
    ⟨"tnsa tangsa", "", "FHGqDbbk"⟩,
    ⟨"toto", "", "HATkBf"⟩,
    ⟨"ugar ugaritic", "", "DUHcBebb"⟩,
    ⟨"vaii vai", "", "CKMqLo"⟩,
    ⟨"vith vithkuqi", "", "DVAelbpbhbcblbpbhbc"⟩,
    ⟨"wara warangciti", "", "ECHcDfmb"⟩,
    ⟨"wcho wancho", "", "HAVgCgfb"⟩,
    ⟨"xpeo oldpersian", "", "DUIiBkeo"⟩,
    ⟨"xsux cuneiform", "", "EFBsBJmDyEhbflHo"⟩,
    ⟨"yezi yezidi", "", "DYLkBqbdcc"⟩,
    ⟨"yiii yi", "", "CIPkBSvdCd"⟩,
    ⟨"zanb zanabazarsquare", "", "ECUqCu"⟩,
    ⟨"zinh inherited qaai", "",
      "BDoEiKrcRklBabBCieGOxBfTtdbnbhebgbdcHqCmUecHmBhFTxeEdcCZUjqqoBLnbIsbGFabCTCuBucxUydrichB" ++
      "eeBTLHiJg"⟩,
    ⟨"zyyy common", "",
      "aCnBagBaBvbpbfxbBfbRhBnffcuEmbjbgbbbYnbgbobdbBgbGabTwbEzcBVtbPpeLebCGldCtcHvcbbBVhbnbheb" ++
      "gbdcbBDtmcDjbldlbprBhClBmbdcgbBbbrBpdeZnzlvBJsJwYecBgbEbTsDqPmmefbbbzpieeDncdbDmcFrqBgBk" ++
      "CiCmBfDdBvbDkGmJToCmBHSiBiDydGjkJkbGebPfbocBEZqcIakwBjbtbeFrbbBgBagBalkbBtcCmhbhkfJydeBt" ++
      "djDcnBzBtIuBbCSHweHBwEmCiJmkBncCkdrichBeeCjIfumumDjjzFfDhbCtbccbcccebmbbbhbCnbecibhbBcbe" ++
      "bfbbdhbNccLgcByHThCqCyCjBBeBseDwmpcpbpbBlkGsCeBabcnBsejhcogFyBLwerdndEpeDrgmebpmeCeikgBo" ++
      "iBeccDaNcmocndjhBubhioejhjhFrbCdBlkBSUXbbBeDs"⟩
  ]

/-- How the characters that are used with a script differ from its own. -/
def extensions : List Entry :=
  [
    ⟨"adlm adlam", "", "CIhbBgb"⟩,
    ⟨"arab arabic", "", "CHobobdbBgbklBabDPMbcCDkBc"⟩,
    ⟨"beng bengali", "", "DNtcrcHJebbbccbbibibcbebcdCBAfb"⟩,
    ⟨"bopo bopomofo", "", "SErdekbnkecbgbHnbCZThcKwf"⟩,
    ⟨"bugi buginese", "", "CMHzb"⟩,
    ⟨"buhd buhid", "", "IUnc"⟩,
    ⟨"cakm chakma", "", "DTmkCKek"⟩,
    ⟨"copt coptic qaac", "", "DUAyBc"⟩,
    ⟨"cpmn cyprominoan", "", "DTImc"⟩,
    ⟨"cprt cypriot", "", "DTImdeBtdj"⟩,
    ⟨"cyrl cyrillic", "", "BSncJQnbGEkb"⟩,
    ⟨"deva devanagari", "", "DNtcrcHJeBnbcBNabBZFrk"⟩,
    ⟨"dogr dogra", "", "DOmmCIDck"⟩,
    ⟨"dupl duployan", "", "GMJwe"⟩,
    ⟨"geor georgian", "", "GLfb"⟩,
    ⟨"glag glagolitic", "", "BSmbcbPUxbBTNfb"⟩,
    ⟨"gong gunjalagondi", "", "DOmc"⟩,
    ⟨"gonm masaramgondi", "", "DOmc"⟩,
    ⟨"gran grantha", "", "DNtcrcYqoGKabbcBeddcBNabDNTqbETwcbb"⟩,
    ⟨"grek greek", "", "BGcbcbKAsc"⟩,
    ⟨"gujr gujarati", "", "DNtcrcCIDmk"⟩,
    ⟨"guru gurmukhi", "", "DNtcrcCIDmk"⟩,
    ⟨"hang hangul", "", "SErdekbnqbgbHnbCZThcKwf"⟩,
    ⟨"hani han", "", "SErdcbbkbnkecbgbeeHfbFsqBgBkCiBoCeBxpmBzbDkzkfDsBfBROjiBHAzcKwfDCHesLRyc"⟩,
    ⟨"hano hanunoo", "", "IUnc"⟩,
    ⟨"hira hiragana", "", "SErdekbnqgbbecDnedbDmcCZTgcKwfkbBtc"⟩,
    ⟨"java javanese", "", "CMHzb"⟩,
    ⟨"kali kayahli", "", "CMBub"⟩,
    ⟨"kana katakana", "", "SErdekbnqgbbecDnedbDmcCZTgcKwfkbBtc"⟩,
    ⟨"khoj khojki", "", "EDikCHOik"⟩,
    ⟨"knda kannada", "", "DNtcrcHJebbbhbxbbbCASxg"⟩,
    ⟨"kthi kaithi", "", "DOokCIDck"⟩,
    ⟨"latn latin", "", "BHjnKrcBVecCXkbFTrbHkbBYTziVeb"⟩,
    ⟨"limb limbu", "", "DOnb"⟩,
    ⟨"lina lineara", "", "DTItBt"⟩,
    ⟨"linb linearb", "", "DTImdeBtdj"⟩,
    ⟨"mahj mahajani", "", "DOmmCIDck"⟩,
    ⟨"mand mandaic", "", "CJob"⟩,
    ⟨"mani manichaean", "", "CJob"⟩,
    ⟨"mlym malayalam", "", "DNtcrcHJobCATxd"⟩,
    ⟨"modi", "", "CLSak"⟩,
    ⟨"mong mongolian", "", "JCkcbbDCjb"⟩,
    ⟨"mult multani", "", "DYkk"⟩,
    ⟨"mymr myanmar", "", "CMBub"⟩,
    ⟨"nand nandinagari", "", "DOmcBImkGBhbibhbCASrg"⟩,
    ⟨"nkoo nko", "", "CHobobdbDPPec"⟩,
    ⟨"orya oriya", "", "DNtcrcHJobxb"⟩,
    ⟨"ougr olduyghur", "", "CJobDUSvb"⟩,
    ⟨"perm oldpermic", "", "BSlb"⟩,
    ⟨"phag phagspa", "", "JCkcbb"⟩,
    ⟨"phlp psalterpahlavi", "", "CJob"⟩,
    ⟨"rohg hanifirohingya", "", "CHobobdbBgbFrb"⟩,
    ⟨"shrd sharada", "", "DNtbHKfbbbcccb"⟩,
    ⟨"sind khudawadi", "", "DOmcCIDmk"⟩,
    ⟨"sinh sinhala", "", "DOmc"⟩,
    ⟨"sogd sogdian", "", "CJob"⟩,
    ⟨"sylo sylotinagri", "", "DOmcEyk"⟩,
    ⟨"syrc syriac", "", "CHoboccbBgbklBabIXrbbb"⟩,
    ⟨"tagb tagbanwa", "", "IUnc"⟩,
    ⟨"takr takri", "", "DOmcCIDmk"⟩,
    ⟨"tale taile", "", "GEak"⟩,
    ⟨"taml tamil", "", "DNtcrcHJobCBBkbBOEfbbbCdc"⟩,
    ⟨"telu telugu", "", "DNtcrcHJobxb"⟩,
    ⟨"tglg tagalog", "", "IUnc"⟩,
    ⟨"thaa thaana", "", "CHoboccbCmkDPTgbkb"⟩,
    ⟨"tirh tirhuta", "", "DNtcrcHKmbCASzk"⟩,
    ⟨"yezi yezidi", "", "CHobobdbCmk"⟩,
    ⟨"yiii yi", "", "SErcfkciIpbDAEff"⟩,
    ⟨"zinh inherited qaai", "", "BGcbcbBdnKrcRklBabBCicHJxdbnbhebgbdcHqcCcbbbBDdbFTxeEdcDBQjbGFab"⟩,
    ⟨"zyyy common", "",
      "CHobobdbBgbBExcCWrbCJhcHvcbbBVhbnbhebgbdcbBFobFIpbRddcbbkbnqgbbeeDncdbDmcFrqBgBkCiBoCeBx" ++
      "pmBzbDkzkfDsBfBROjiLkkJkbGebBFPmcKbcKwfkbBtcNodeBtdjQbBbCSHweIPwsLRyc"⟩
  ]

def properties : List Entry :=
  [
    ⟨"ahex asciihexdigit", "", "BwkhgBag"⟩,
    ⟨"alpha alphabetic", "ll lm lo lt lu mc me mn nl",
      "BDoCrbBqKphKdBfGmbFecjdDflGejjbBactbBrdCiiBqkmcigCybqbdeDzbqbBwbCjbqbEgbqbBvdCibqbhbEpbE" ++
      "gbqbEgbqbEfcqbEubEugbbEdbnfbbCvcBbbbbbbecCqbbcCkbEibbcBEwdBKmcBebExctljbBtdbbLldLgbuicbB" ++
      "wpclEabpbBmjCccCgblcCpbFwdbvebgbcdHqBnolBBsBhBLdCaDAzdFlbBAggEbcBSQeejcEkcKqbBlbFvbBbsCf" ++
      "dBlbDrbmbJubbbCabJlcBFCcqqqBLlbIsbCUhdebGjcBOgdCslBxeHkbBpbobCfcEqcCkbCybieEacGwcDccqbyh" ++
      "dfHxbdbxbDvcJrcEwbEocElbKjcJycebGabDecsbDccQfbJybbcDdbQjcHYrbgpURqfChhBUbbBDBkbGZaBucxUw" ++
      "fdgiichBeeFsdCYdCdeByibobwfbpCMahOlbCjeToeBMehEfdbdCZtBagBagBaBSZFqJg"⟩,
    ⟨"bidic bidicontrol", "", "CIebJVlcBafCde"⟩,
    ⟨"bidim bidimirrored", "",
      "BocsbbbBcbbbBdbbbBtbpbFMseCUncDQqckcCccocGvbHkedgdbdcdebebbbbejfbbsfejcbbbicBfcefbjcctfc" ++
      "jfcceycqieuchcBPtoCwbcebcbdfefddoPnwcgboibhgdbefbccfebbdcckgccmtbecbbbcbbefcgdyclceebccc" ++
      "eBrcibBofbbbdffdebdfbbJwbTvedcbcocckBriQlkciDACrgfcGgcsbbbBcbbbBdbbbbcbcDDPnbCfbCfbCfbCf" ++
      "b"⟩,
    ⟨"ci caseignorable", "cf lm me mn sk", "BnbgblbEubBBrbSdbFsbJXjckbcbDGBbbCkbcbGvbgblb"⟩,
    ⟨"cased", "ll lt lu",
      "GobpbThjhcBefDsbCabFCzbEPzClnbBiBlBAnbnbqnHnBgBFqCaCWocBUGkcIcbEzddcBHiejbBIWsbcdbBqbjDD" ++
      "ZhCkGJaBagBagBa"⟩,
    ⟨"cwcf changeswhencasefolded", "lt lu",
      "GzbBpbEbbCbbRlbEubnhzcdbPlbFIuDicgDFujUjcIuiiiiikdcbkdcbBqdcbKgbebddcdcbdfgbdbdcccbbkcfb" ++
      "BaqBGgBaBYZoDcBEAihmfDEDsBaBaBaBaBaBabbccbcccebiBaBaBacbecibhBbcbebfbbdhBbBaBaBaBaBaBaBa" ++
      "BaBaBaBaBezBhzBhzBhzBhzBhb"⟩,
    ⟨"cwcm changeswhencasemapped", "ll lt lu",
      "MabDgbnbocobdbDubsgBbbcbbbcdcbbbcbfcbbccbhbcbbcdgfbbbicrFtbFkdBnbNrbBnbIXbBsClncdbqbmJxc" ++
      "bbXmbebckbbdfgbdbdcbdbcebceffwBgBFqCaCWdbcbcfEabBUIdcClivbgbzbBjbbbBkbBFpBjbhfjEIIhDhbCt" ++
      "bccbcccebmbbbhbCnbecibhbBcbebfbbdhbNcczbzbBfbzbBfbzbBfbzbBfbzbiCSykbugg"⟩,
    ⟨"cwl changeswhenlowercased", "lt lu",
      "BLqdLBhbebddcdcbdfgbdbdcccbbkcfbBaqBGgBaGHHoBaBaBaBaBaBabbccbcccebiBaBaBacbecibhBbcbebfb" ++
      "bdhBbBaBaBaBaBaBaBaBaBaBaBaBezBhzBhzBhzBhzBhb"⟩,
    ⟨"cwt changeswhentitlecased", "ll",
      "MabDgbnbocobdbfbcbcbBmbBvbsgBbbcbbbcdcbbbcbfcbbccbhbcbbcdgfbbbicrFtbHabNrbBnbEHbBrcdEOeB" ++
      "sClncdbqbmJxcbbXubdcdbBbbebebccieBmqBGqBaCWdbcbcfEabBUIdcClivbgbzbBjbbbBkbBFpBjbhfjEIJhB" ++
      "aBahbsBaBaBaebbbhblBaBaBaBaBaBaBaBaBaBaBaBaBaBaBaBaBaBcBczbgBazbgBazbgBazbgBazbgbbCSykbu" ++
      "gg"⟩,
    ⟨"cwu changeswhenuppercased", "ll lt",
      "MabDgbnbocobdbDubsgBbbcbbbcdcbbbcbfcbbccbhbcbbcdgfbbbicrFtbHabNrbBnbIXbBsClncdbqbmJxcbbX" ++
      "ubdcdbBbbebebccieBmqBGqBaCWdbcbcfEabBUIdcClivbgbzbBjbbbBkbBFpBjbhfjEIJhBaBahbsBaBaBaebbb" ++
      "hblBaBaBaBaBaBaBaBaBaBaBaBaBaBaBaBaBaBcBczbgBazbgBazbgBazbgBazbgbbCSykbugg"⟩,
    ⟨"dash", "pd", "MGhbBnbpbPab"⟩,
    ⟨"di defaultignorablecodepoint", "",
      "GrbZxbBBobEGwcCKhcDhfDApfBafBxqGKybCZMpqJfbGebDbjCTLneHWxiBTKZlGBo"⟩,
    ⟨"dep deprecated", "", "MrbBYvbDKtbbbDCjcDIjgBAvcBZRYkb"⟩,
    ⟨"dia diacritic", "sk",
      "HbbTksemofhbbbrDbbifgrbfbKefIbbCdrbBbbbbcbbFeiecFececddCpBbDnlCglBicEgbpiBpkqBcCjbqbdeBc" ++
      "bCwbqbEgbqbEgbqbBvdCibqbhbEpbEgbqbEgbqbEfcqbEubEugbbEdbnfCxcBbbbbbbecCodbcCkbEibbcBocefz" ++
      "hbbkcBBddBKmcGxljbNjdMbicbBwpclEabpbBmjCccFicCmgDezebgbcdByClDlmBllFRbdMfbTmgEbcDtbBSMkb" ++
      "mcbbBccDecBljEabEhcHubBbsCfeBkbDrbmbBkbFtdCneBzbDxejbFacBDZsbFrrXhqMibBtcBGabBTngbBqbjBF" ++
      "ecVzgSbdCslBxeHkbBpbCucEqcCkbCybjdEacGwcDdbqbyhdfHxbdbEtcJrcEwbEocElbKjcJycebGabDfbsbDdb" ++
      "QfbJybbcDdbIPjpURqfChhBQurDccYGcebhbcLThBucxUyddgiichBeeFMwCkHmhOlbCjeCFwhEfdbdEBgf"⟩,
    ⟨"emoji", "",
      "BjbgbfkEhbebLYrbmbIibwbDmgpcOdcmbGkbzledHrbIxckbjbCgebfjbcbcccbebcbbccbdbdcidfbbbfmlccbb" ++
      "cbbsbccsgbbbcdcfbcceclcfccbfcbbbcucfgbecbebcbcgbbcbbbbbgbdbgbkcpbcbebbbedbblcBwdjbobobOi" ++
      "cRvdtcBzbebBVubmbXdbbbGMRqbHubGecmcobckCxBabcxbubcjvcGsBicEiccbdcDfcdbKdbCllgbyhccimbcec" ++
      "becnccbicjbfdmdidcbbbebgbdbgDiBwCsficdekdbbcdbckItmebKxBvbkbHdEindjhBubhioejhj"⟩,
    ⟨"ecomp emojicomponent", "", "BjbgbfkMBjbIfbDFTrbDOIwBaTnfCEaeBSVUqDs"⟩,
    ⟨"emod emojimodifier", "", "HHIxf"⟩,
    ⟨"ebase emojimodifierbase", "",
      "OLhbIlbqeGSJvbCidcbcdEncclvtdbedbdhbbbybHtcebvbecGsddfDfbqdjblbWdbcbiigbjkcdCebCjcbcbbrd" ++
      "bnIvdBqj"⟩,
    ⟨"epres emojipresentation", "",
      "NHqcHxedbcbUbcvcBymBrbtbnbicrcfcibfbvbhcbbebcbhbecBcbBjbbbedbbCjdybobBHbcBzbebGPLebHubHi" ++
      "bckCxBabbybubcfbdvcGsBhmjbCsbwmBrefmrdbdCtbbbHfcClnebysbBacnbDiDhBwCsgbddcdeelchjItmebKx" ++
      "BvbkbHdEindjhBubhioejhj"⟩,
    ⟨"extpict extendedpictographic", "",
      "GnbebLYrbmbIibwbDmgpcOdcmbDrbCsbzledHrbIxckbjbCgebgbmbEkkEoclbbbbgbdbgbkcpbcbebbbedbblfB" ++
      "tdjbobobOicRvdtcBzbebBVubmbXdbbbGMRmJwndBfbCigmcobcksCfBbpkbubcjbejQsfMgiKgBwEyEmmDhBrme" ++
      "CeikgBoiBeDemBvbkbQzJwBNi"⟩,
    ⟨"ext extender", "",
      "HbbUqcBHubQzbBHabBCybExbDNfbCebXnbPibCqbHKjbBrfDzcDpdBQBubCGsbBLabwbFhbEebvcBFZvbDBkcEMs" ++
      "bXsdBVjbBEOfcBTkcbbBQYacDBad"⟩,
    ⟨"grbase graphemebase", "ll lm lo lt lu mc nd nl no pc pd po sc sk sm so zs",
      "BocBxbbbBdbbbBtbpbDKsbybNubybDybybJabscDzbybEpbpbNieCUncBTgbBWcizckcCccocYjeBdcBPtoDbcBf" ++
      "kPnwCleBgcBNoedcbcocckybsiQlkcibdocCZRacIhcBcqccqgGncBxbbbBdbbbbcbcCgcHLebybNgbmbJhbBImb" ++
      "CRTsbif"⟩,
    ⟨"grext graphemeextend", "me mn",
      "DRybybNubybDybybJabscDzbybEpbpbFBhbBVqbGCvcDAOkcHLebybNgbmbJhbBImbCRTsbifBTLAzDs"⟩,
    ⟨"hex hexdigit", "", "BwkhgBagDSLlkhgBag"⟩,
    ⟨"idsb idsbinaryoperator", "", "SEacci"⟩,
    ⟨"idst idstrinaryoperator", "", "SEcc"⟩,
    ⟨"idc idcontinue", "ll lm lo lt lu mc mn nd nl pc", "HbbBBrbGAjjCLcbCThbvbEYabXvc"⟩,
    ⟨"ids idstart", "ll lm lo lt lu nl", "JHlcDGjbvbEYabXvc"⟩,
    ⟨"ideo ideographic", "",
      "SEwczjodBLdJToCmBFBkBHSiOccEcBSIkbBbJCaiBVqBqjNUlPgBDEiCLFcBgGDugIocINqoLBlEPjUwCFyHHzfGFg"⟩,
    ⟨"joinc joincontrol", "", "MDoc"⟩,
    ⟨"loe logicalorderexception", "", "FKifEtfEDsdcbCCXmccbbc"⟩,
    ⟨"lower lowercase", "ll",
      "GobpbThjhcBefDsbCabFCzbEPzClnbBiBlBAnbnbqnIdqBGqBaCWocBUGkcIcbEzddcBHiejbBIWsbcdbBqbjDDZ" ++
      "hCk"⟩,
    ⟨"math", "sm",
      "DqbBHxdcbBacccKQybBbdlbBgeycocCnnebdcefsbebckbbdfgbdcccbdbgdeffCxfcebcbcbbbfccecesccbbbh" ++
      "bbgcLeeGmcbbybrbRdcmjfffcccdfobbbcgycCfbbbBdejcNecBfkPnwCleBgcDCLfbbbebIdbbbDCOvDhbCtbcc" ++
      "bcccebmbbbhbCnbecibhbBcbebfbbdhbNcczbzbBfbzbBfbzbBfbzbBfbzbicByIIqebBbbcbbcbbkbebbbbgbeb" ++
      "bbbbbdbcbbcbbbbbbbbbbcbbcebhbebebbbkbrfdbfbr"⟩,
    ⟨"nchar noncharactercodepoint", "",
      "DSDcBgUgcDSYocDSYocDSYocDSYocDSYocDSYocDSYocDSYocDSYocDSYocDSYocDSYocDSYocDSYocDSYocDSYo"⟩,
    ⟨"patsyn patternsyntax", "",
      "BhpkhBaebbBaeBihbbbcbbbcebebdbxbBfbLUeyipctbkLtBBsGeYgBeBRoTsEyOvdezpbCZQzcKbc"⟩,
    ⟨"patws patternwhitespace", "", "jfsbDwbLYmcyc"⟩,
    ⟨"pcm prependedconcatenationmark", "", "CHcgIhbBxbOucDcbDVXybpb"⟩,
    ⟨"qmark quotationmark", "", "BibebFbbpbLWuizcFIdbRpendDABpeHhbebDmc"⟩,
    ⟨"radical", "", "RPwBabDlmIg"⟩,
    ⟨"ri regionalindicator", "", "HGOkBa"⟩,
    ⟨"sterm sentenceterminal", "",
      "BhbmbqbCAbbFrdGybBrdJmbCjbbbdcLhcCPwcBEkbecBDtbHqcHwbfbMccNqeGscccBdcHgcCncBKucjdFGubnbw" ++
      "cQnbBSHwbKkcItbdbOscDicDrbFwcFrdFocJpbBFFibdcGnbmbqbCnbEDwcBXdfBseHhcEneExdEzcgbqcDkcbcE" ++
      "ebQbcOjcfpEbcJpdTxbbbJrcDjcQecBAqcCwcBCMbcFdbCnclbBGtbBDOgbLImb"⟩,
    ⟨"sd softdotted", "",
      "EbcHobKvbBebCabubMibDubbbJMnbBzbnbdbFcbGbbQfbIgcEGgbGELhcBycBycBycBycBycBycBycBycBycBycB" ++
      "ycBycDFybLtcBab"⟩,
    ⟨"term terminalpunctuation", "",
      "BhbkbbblcdbBFybibTtbCfbCubobbdGybBrlbbJbcCcpBfbKbcBWucGqbegLzcBEjiBDtbEudCtcGbddbBneccMc" ++
      "cNqeGscbdBdcHgfCkcBKucjdFGubnbebkbbcdcQmcBSHvcKjdItfOscDicDrbFvdFrdExbqcJpbBFFgdbeGnbkbb" ++
      "blcdbCnbcbBPqbBwbBSobHrbLycFwgCqgDleBKqfBseHhhEieExdEzcgbqcDkfEebQbdmcNuedpEbcJpdTxbbbJr" ++
      "cDjcecPydBtbYvcCwcBYxfBAMzcFdbCndkbBGscBDOgbLIle"⟩,
    ⟨"uideo unifiedideograph", "",
      "TSaJToCmBFBkBICscbbbckbbbbccdDVEcCLFcBgGDugIocINqoLBlHQdHHzfGFg"⟩,
    ⟨"upper uppercase", "lu", "MQqqBGgBaGSIyBagBagBa"⟩,
    ⟨"vs variationselector", "", "JCtdbbDJCaqBWNKyJg"⟩,
    ⟨"wspace whitespace space", "zs", "jfEpbLZmc"⟩,
    ⟨"xidc xidcontinue", "ll lm lo lt lu mc mn nd nl pc",
      "HbbBBebmbGAjjCLcbCThbvbEYabDACcgPqcEmbbbbbbbbbbbbbbb"⟩,
    ⟨"xids xidstart", "ll lm lo lt lu nl", "BIgbEBobExbDSrcDGjbvbEYabDACcgPqcEmbbbbbbbbbbbbbbbLbc"⟩
  ]

/-- The characters of words. -/
def word : Entry :=
  ⟨"word", "ll lm lo lt lu mc me mn nd nl pc", "MDocBTwCaGSHyBagBagBa"⟩

/-- The characters that are new in each version of the standard. -/
def ages : List Entry :=
  [
    ⟨"1.1 v11", "",
      "aTieBeCeDlhBvbkwCsBacscebdbfhbbbubBsbhdbbbbbbbbsnmbCobmbBpjCbccccdBcciccCdBmchbBnbbBmkbj" ++
      "mBbffxbobdbbBaftnocCucfbpbBeckTzdbCbcscfdzqdbicccwbhbbdecbbhcccdjbecbfcvhbcgeccwbhbcbcbc" ++
      "cbbfeccdlebbhpmdbhbbbdbwbhbcbfckbdbdcbpbfkrdbicccwbhbccecidccdicecbdelrcbgddbedcbbbcdcdd" ++
      "dibdefddbejbpmodbibdbxbkbfehbdbehcjcekscbibdbxbkbfehbdbehchbbcekscbibdbxbqegcdbejbicekFp" ++
      "CgeBdBlcbbccbbcbgebhbdbbbbccbnbdcfbbbgckccRiBmkBnebeDmfCqfDeEOkFzfDmgwcgcBmcgcibbbbbbbBf" ++
      "cCbbpbocgbtcdbjbBvbxBjhdBbrlBlsBeCfBaBwnDnvJiobbErFdBlBblvFjvFukDcqugDiFpebecBcbBjbbbedb" ++
      "bhchoBfdyboDDhCehbbDgegcDqgBoeDqbqDsBddBkBcBcdBypmeBvbEpeDvcBfJWbBEXyYJqJXuIchmfgzbfbbbc" ++
      "bcbEeBhObqCmcCcBomBkemvekbtbeedbbbFfcbbDqcDqdgcgcgcddhbhod"⟩,
    ⟨"2.0 v20", "",
      "CCvrbnubDMxCubBhhBbegbbbvdhbbFQnbUhbCATwQNsDoDAuEFBqcDSYocDSYocDSYocDSYocDSYocDSYocDSYoc" ++
      "DSYocDSYocDSYocDSYocDSYocDSYo"⟩,
    ⟨"2.1 v21", "", "MJsbDGOtb"⟩,
    ⟨"3.0 v30", "",
      "TieBeicsEnfBxbkfDjjtbEmbdbbbbbbbBebmbCobmbBqcceDocGabHsdDucfbpbBqfbobBedBbCbBxCFhcbsdybj" ++
      "bbchdbegbbbisdOjbBrbxdhbbdbpcbBwBibfbcbhdegBaQghbClbbbechbbbecBnbbbecBfbbbechbbbechbhbxb" ++
      "BfbbbechbBnbtgBcBjDhmYgjBddDdFnDpdkwpbkgDkiBqCWbbygDrdBycDhcCubDzjKjbErbbBeFicRpiBhbDicP" ++
      "iJwCCeBabDlmIgBamCiddbNpyWmJTeBFEgBSvdscqbmbdbbBGScbBVvd"⟩,
    ⟨"3.1 v31", "",
      "BMycDQQcBgBXwBfbemBbGzBmcBmCZDqJmkBndGyVaDhbCtbccbcccebmbbbebcbCnbecibhbBcbebfbbdhbNaeLe" ++
      "eByPDwCLEtBETdUwBPCQtbBeDs"⟩,
    ⟨"3.2 v32", "",
      "UybLqbtnEacBcbFrcCfcccccBxqNmcMjbDNhcCHjnbhlxjumnbdbcDIxbgfebhfnbCkcByhDepGmmJioEubBeCaK" ++
      "yuFvkDkiwcDmmckIooDmBceqJwTsBZndDjcicDqbJgqDdpDdpBRDicqbmbdbBGJaChBJdbdqCbcBsbJbc"⟩,
    ⟨"4.0 v40", "",
      "UzbsdEpcClrDcifdFvfTwejjCmdFtcpbBtdBddQubHcbCpbbbFgbDgdnbCpbChbEziHlcEFnbskKcBddmemebdBq" ++
      "cfEdBgBDoEeBCpcIwbZjcLqbKqcEmiocBRaoCRncBxbBrcDaeGleDvcBfbJToCmCOQvbCvcQxmbBabtbcbpcoBiE" ++
      "tfdeBtdjWeBebbFecBmDcckBGwgcbbBsbcdbcbCYUiDjNybBTKDaJg"⟩,
    ⟨"4.1 v41", "",
      "VvlKsfGdeJmcGobBidCpbsbCggJhBeUhbDcbStbBvbBMncLjcbbKgbClbClbBnbBfbBfbBfbpbBnbxcBfBaCGcBq" ++
      "gBagkecBgBcccBGmDkZhcbhBxfBdeCbbDcbpbYulWabDxcslfqKkhBGhgJcBvbBvBhEdoBtkCcjbqxjhbhbhbhbh" ++
      "bhbhbhBhyecBJuqGsbBPItwCToxIzBsBFEaEcBFqkBFaCxUnBkeoCIsebcfibdbBbedejijCXPvCsBRac"⟩,
    ⟨"5.0 v50", "",
      "WgoLndMzbBqgqeGkbTxChOucbcBHicncFIjCyeBtWlhBzcBCueDpcCbbXbmBBmbKqeBGjhfeMenheBULjefcLaCe" ++
      "BKOmBafbIRgBHvFpDvneCOGisBQuc"⟩,
    ⟨"5.1 v51", "",
      "BHweccDjbHbbFkqIsflfBgfLqsTdcIobBjbHybBdcEebEebBacicuiHhbgbBdcmgdhSxcDtbddCzbfbcbhdegBaC" ++
      "mecDBebBBxBrdmCsCedpdBzMtBcGzeDmgNsbFjbDqbCbeBYabvkdeKebBfeBFffeBpdfKudbdegNqBgyectBDkbG" ++
      "guBPPoiBZoLouBgcsiBcFbfcEdEgfEyCrjmBmDglbGeCdjockceBFSudBHpmCaBuFaBddBxCKdBafbCXSjbLRqBs" ++
      "eDw"⟩,
    ⟨"5.2 v52", "",
      "BYqcBCcBucpHlbCzbgbBjcEybCFpeHleHgfCqfDegTsbYgjVoCsGycBubCrClbBdclgkgoVaBjKgbBAudFvdCcbX" ++
      "ibBArcBddekbtbbeyDjbBNhfKsbncEdhMhbBOcmBPLsiBXkBwQaDkMakGkBcDwBddDablecEyBceCpyfIqBuckQO" ++
      "kxeBxNBbdFGcwbjHecMmBgEyCcdBdcBbfiEyCvUpBfTtCoLVqBPfCTNdlfBfcblbbbcbdbdfibhbzbbccbkecbEh" ++
      "bpBiojCQLjGDp"⟩,
    ⟨"6.0 v60", "",
      "BYscJobCkbSmBccbIlctbgcBbfTmgQrbqbtbWbeCvcBIocDEnCaieTobZoiBcbBFjlBCcbtbbeBdbecBcbBjbbbe" ++
      "djcCadybobocCDkbobBPodBSEncLncbcokDcbBDugcgcgjhbhBEMtqHRiDaeBeBHEeVxBALbcYMgpcocpbpDcbbl" ++
      "bbbcbdbdfibhbkgjbbccbkecbkCxBabcBvjvcGsBhpgbCsdumBlbfvrpClbbbHabedCksyFrfbqbdbbbbbbbdbgc" ++
      "ebbcebmelBwCsCgEmCUQmIo"⟩,
    ⟨"6.1 v61", "",
      "CCtbEmbZrbblCdBbTdbBMrcStbfbBvdEBbdmgJwiBreECqbbbBYqcBzbfbCecHukBRAebCNniBjbJicwbCzcBCox" ++
      "BDZzcFUuCegcCRozhkgCbboCiCvhkBTuCeikBHKoCrlBvqrBVWiebBbbcbbcbbkbebbbbgbebbbbbbdbcbbcbbbb" ++
      "bbbbbbcbbcebhbebebbbkbrfdbfbrCacYicBLseHgbqbdbbbbbbbdbgcebbceb"⟩,
    ⟨"6.2 v62", "", "MKgb"⟩,
    ⟨"6.3 v63", "", "CIebJYve"⟩,
    ⟨"7.0 v70", "",
      "BIlbQiiDpcEobZrblgCybEqbhbYpbBzbCybExbIukDKriVccPlpVxcJdpBBhdBFqhBDtbBQidkBacBgcBidmbiXu" ++
      "hBTOvgJmmldccCrbSuBfEveGuBwecBFIvhBHdctbMhBcBjbBwBrOzBoiCalbFoLzjwkiJoClijRwBgBgBnemFhsh" ++
      "emhBVjbIaBnDibmbgulsbBrEkChfkhdbicccwbhbcbfcjcccdjbfhchdfKhCuikGkCccsCcCrlkWkDfmbRgCfDFi" ++
      "BqHumfbBALfBfbkecDsBecgkCskkbhbvftBEMaEdfndjhkciQKyHpcqCZwbBgwvcUmmjbCsbwmBlbfefmrhCtbbb" ++
      "HabecClcehBdsbBpbDiCscnBwCskqndeFkDhBrmeCeikgBoiBe"⟩,
    ⟨"8.0 v80", "",
      "DHrcBubUnbNobKabCMvbcgEVobHvcDYeeBRWvjCOubJgbBigMmcXmemDcBFFqcEBgtbcffHgccqcBuYqBznBzhgB" ++
      "VdeofGehbbbebpblDibDbbYjuLeBadpeqERpbIwHoLQqWlCAWllCHzZcpfbpJHddDacDbfBkiJvbCxfJjcFjbWdj" ++
      "DzfChbCUClINq"⟩,
    ⟨"9.0 v90", "",
      "DHuiwpBJpbHybedbhxdFRzjOgbCHbeDXccBTZlbKsbBHQdcBEvBkeBkFAobRhDmbbbbTunCCxjbBtbokBddBgcwb" ++
      "oBFMvbBfJBptBDbBGFlhbrchbcbfDIzCxfkecDDbsFmbBFybBpbLocBhdVagbiibcmbmepBmn"⟩,
    ⟨"10.0 v100", "",
      "DEmlPlcJsgTsbCgcFYwbJueBBhbBFzbCZabYcfBCmbBPXnvBLPidIQqCuiCacxbfXhhbcbBsdbbcbjikBFGpbYHk" ++
      "KzDdPgYAegBRpcBicTzmtbiibczbsnBmgCexDCPdLBl"⟩,
    ⟨"11.0 v110", "",
      "CAybBnbDybUfdIdbLmbEpbPhbExbENrbBOhBrcdFRmdwzepWpfBCibBPYhfCYhbicMmcBKVccsbBAtBoikRmBoiB" ++
      "qOhbEodTgbLebBAxbIvCiXlbBBegbcbBlbcbghkLyzBEApDnJPifBCJuuEwhJLwCqBScbCEzbIleOidBcfcedbbe" ++
      "ylnkhcBkzDso"⟩,
    ⟨"12.0 v120", "",
      "EStbUgbcbcbbgebhbhccbnbFKhbFPubCbbWtbBTZmgcfBJrcBMBgxBRkbXcbBCpicBuclGdcBZmBynbHQujWJkge" ++
      "bBvjDmcJCwgPRcdreSAqBtdockecOeCgfbCJzbBKnCjBPebCBgbBkbIvmLddBvbBxbjbBpgdckgdicdBwDgBceed" ++
      "fdng"⟩,
    ⟨"12.1 v121", "", "TIdb"⟩,
    ⟨"13.0 v130", "",
      "DIckZdbQobEubFAjcGJubBAudBHofKPikBFDgnCYseBqcCbbBFveBGQqbEWxBqbdccJuBcOpbFecZabfcBTmhcbc" ++
      "ibcbBebccmjkCKkbBEJrblcKFxSpBqjBLWudDpdCjbBYucBjcQtcDmbDxbecBqcgdBdbGmboepthhjdnhBpFrbCd" ++
      "BlkCMSjhBHTqHHz"⟩,
    ⟨"14.0 v140", "",
      "CIfbWwBfbcgivbslBHpbBgbExbDWhbhbjbJfbBAnoEvbBwcYlbBBhbEIobBvbTflBRAtdCYicocbbbfydBFTdbOr" ++
      "qExbBucCVglbpbhbcblbpbhbcRjgbBqbjCXxBaIwgCybCGsbFehBHpqHWyDvWDxDbbkBAEwebhbcLceLIbBucxjE" ++
      "mVdcEYvBfBHxBfBZdhbebcbpFQkdKmbPcbDebGscBsekeidrdgiihCNCpcGEve"⟩,
    ⟨"15.0 v150", "",
      "EXnbSgbDTAkdBFzdDIckBNarbBpdBcHXdbjBdBVHkbBibMRauERhgKbCkBhbBPwBqGUcbFvdefDlbZrdpcBkdldb" ++
      "bockcmbocCTHobBIWsGFg"⟩
  ]

/-- The Hangul syllables of these breaks are left to a rule. -/
def graphemeBreaks : List Entry :=
  [
    ⟨"cn control", "cc cf", "kbcbCGogIhbBxbOucDcbIUbcBacChbDGRajGJcbpbBWFYobbJuJgFIm"⟩,
    ⟨"cr", "", "nb"⟩,
    ⟨"ex extend", "me mn",
      "DRybybNubybDybybJabscDzbybEpbpbFBhbBVqbGCvcDAOkcHLebybNgbmbJhbBImbCRTsbifNCafBSXYuDs"⟩,
    ⟨"l", "", "GLkDsCFOqBd"⟩,
    ⟨"lf", "", "kb"⟩,
    ⟨"pp prepend", "", "CHcgIhbBxbOucDcbBRnbDUGkbpbJkcCVrbbbJobCvgBAybRbb"⟩,
    ⟨"ri regionalindicator", "", "HGOkBa"⟩,
    ⟨"sm spacingmark", "mc",
      "DRybybNubybDybybJabscDzbybEpbpbDfbExbOlclbBpdchvbdgcbkdDSebbcIabHYmcBUIdbbbBNRkbybNgbmbJ" ++
      "hbOecUgbCRTsbif"⟩,
    ⟨"t", "", "GRwDkCWXnBx"⟩,
    ⟨"v", "", "GPcCuCWZwx"⟩,
    ⟨"zwj", "", "MDpb"⟩
  ]

def wordBreaks : List Entry :=
  [
    ⟨"cr", "", "nb"⟩,
    ⟨"dq doublequote", "", "Bib"⟩,
    ⟨"ex extendnumlet", "pc", "MExb"⟩,
    ⟨"extend", "mc me mn", "MDobDGRhcDONzfBSXYuDs"⟩,
    ⟨"fo format", "cf", "MDndBZTEgDs"⟩,
    ⟨"hl hebrewletter", "", "CFgBbeeDOVybbkbnbfbbbcbcbk"⟩,
    ⟨"ka katakana", "", "SGnfDxcdDnbeJgqIaBvbDkCZHeCeCOUcebhbcbbLbdByboe"⟩,
    ⟨"le aletter", "ll lm lo lt lu nl",
      "BBeemggcfhbbbrXedbbBrbCrBbefDBhBwbcmhCgcbbbfbybbbkbcjbcfbbveLcBrubqgeedbdchdenmbCQjCaBjb" ++
      "ebOhBecflBseBaDiCbDebDVaCaEFkczjhfcdgDigdbDmbeJgqTsJToCmBFBkCRgpjcDzcWzfbkkfDtxdbdBybbdc" ++
      "cfcbbbydEvbBDKmOccEcCpbbkbnbfbbbcbcbkBOgCgIWeBbBlhBHPpJCaiBVqBqjNFrebhbcbLfpbBddcboeiPgX" ++
      "OmBagBagBaFMkCLFcBgGDugIocINqoLBlEPjUwCFyHHzfGFg"⟩,
    ⟨"lf", "", "kb"⟩,
    ⟨"mb midnumlet", "", "BubMCfckbDGDpbGybgb"⟩,
    ⟨"ml midletter", "", "CgbEubBBrbSdbFsbJXybDGBbbCnbHob"⟩,
    ⟨"mn midnum", "", "BsbobBGcbUcbFacDqbPfbJFfbDFZvbdbChbdbHbbob"⟩,
    ⟨"nl newline", "", "lcEqbLZmc"⟩,
    ⟨"nu numeric", "nd", "CLfb"⟩,
    ⟨"ri regionalindicator", "", "HGOkBa"⟩,
    ⟨"sq singlequote", "", "Bnb"⟩,
    ⟨"wsegspace", "zs", "GebLXebBnb"⟩,
    ⟨"zwj", "", "MDpb"⟩
  ]

def sentenceBreaks : List Entry :=
  [
    ⟨"at aterm", "", "BubMCrbDGDpbHfb"⟩,
    ⟨"cl close", "",
      "BibedBxbbbBdbbbBtbpbFMseCUncDPjizckcCccocYjeBdcBPgghoDbcBfkPnwCleBgcBNmoocckybsiQlkcibdC" ++
      "ZRqcIhcBcqccqgGncBxbbbBdbbbbcbcDPOsd"⟩,
    ⟨"cr", "", "nb"⟩,
    ⟨"ex extend", "mc me mn", "MDocDGRgcBWMMyDs"⟩,
    ⟨"fo format", "cf", "MDocBZTEgDs"⟩,
    ⟨"le oletter", "lm lo nl",
      "GobpbThjhcBefFtbYibECyBrbeEJwBrcdEeClnbBiBlBAnbnbqnHnBgEEecBUGkcIcbEzddcBHiejbBFXccCZobc" ++
      "dbBqbjDDZhCk"⟩,
    ⟨"lf", "", "kb"⟩,
    ⟨"lo lower", "ll",
      "GobpbThjhcBefFtbFBhBrbeEPwClnbBiBlBAnbnbqnIdqBGqBaCWocBUGkcIcbEzddcBHiejbBIWsbcdbBqbjDDZ" ++
      "hCk"⟩,
    ⟨"nu numeric", "nd", "CLfc"⟩,
    ⟨"sc scontinue", "", "BscmbBYobGscSwbGBxbfbDBecGAubDAAwcbbBdcBdcdbcbkbGmcmbCvb"⟩,
    ⟨"se sep", "", "FdbLZmc"⟩,
    ⟨"sp", "zs", "jbbc"⟩,
    ⟨"st sterm", "",
      "BhbBdbCAbbFrdGybBrdJmbCjbbbdcLhcCPwcBEkbecBDtbHqcHwbfbMccNqeGscccBdcHgcCncBKucjdFGubnbwc" ++
      "QnbBSHwbKkcItbdbOscDicDrbFwcFrdFocJpbBFFmcGnbBdbCnbEDwcBXdfBseHhcEneExdEzcgbqcDkcbcEebQb" ++
      "cOjcfpEbcJpdTxbbbJrcDjcQecBAqcCwcBCMbcFdbCnclbBGtbBDOgbLImb"⟩,
    ⟨"up upper", "lt lu", "KVgBrcdBToqBGgBaGSIyBagBagBa"⟩
  ]

/-- Where the case of a run of characters is folded: the distance of its first
character from that of the run before, how many there are and how far apart, and the
character that the first one is folded to. -/
def foldings : String :=
  "CnBabDtEmbbBKulxbIqyhbJoBoycJxBydcLvhicMcrxcMtBubbJvbdcOogbbElcbbWxbccOxebbWybbbPcccbXac" ++
  "bbPgdbbSjbbbXdbbbXfbbbPmcbbXkbbbXncbbXtbbbXsbbbPtebbXzbbbYccbbYfbdcQbgbbYqbbbQicbbYtdbbQ" ++
  "ncbbYybbbQqccbZacccQuebbZibbbQzebbRdibbRmbbbRmcbbRpbbbRpcbbRsbjcRstjcSltbbTfbccTfebbPpbb" ++
  "bRfbucTlBobbPycjcVbybbQVdbbbWacbbPubbbQVedbbWgcbbOubbbYzbbbZcbfcWlJvbbBKrBrccBHxgbbBIdjb" ++
  "bBMxhbbBKecdbBKfebbBLkccbBLldrbBKjsjbBLbBfbbBLbnbbBLvbbbBKkbbbBKqebbBLebbbBKycmcBLxybbBK" ++
  "sbbbBKzdbbBKqbbbBKncbbBNccbbBMwbbbBNfddbBIhdqbBQmqBgbBPgDcrcBRdBqBbcBStCcbbBVjbhcBUwpBwc" ++
  "BVlDtBmbCAzEIpBmbRBcBnbbRCpgbbRCvBFfgbHOiDGabbBPibbbBPkbbbBPubcbBPxcbbBPybbbBQgbbbBRfbbb" ++
  "CKZjiBrbGJoBtdbGLhMlCxcLJlFzbbLNddbbIpcBwcLPpEaibLTgqgbLTwqibLUmqibLVcqgbLVsrecLWjpibLWy" ++
  "BgibLYeqibLYuqibLZkqcbMAaccbLXocbbMAdcbbBKrkebLXqebbMAtmcbMBgccbLXuocbMBwccbLXycbbMCbmcb" ++
  "LXwccbLYacbbMCpLmbbBLhebbEdbbbIvhbbMPyBuqbMRgBjbbMSaBFnBabNYmCTuBwbQTcDsbbQUzcbbXvbbbLEj" ++
  "bbbYnddcQVggbbWvbbbYbbbbWubbbWwcbbQVrdbbQVujcbWdcBycQWfEdccRAihbbRApBTYkxcCKYzCmocCLBlGg" ++
  "hcCLHrqBfcCLIhCtccCLLaebbLEfbfcCLLfnbbCLLscbbXpdccCLLxgkcCLMdubbXqbbbXgbbbXlbbbXwbbbXucb" ++
  "bZubbbYxbbbZtbbbCMWxbicCLNhqbbCLMabbbYsbbbLFabccCLOajbbCLOjgccCLOpBfbbCLPuBIhDcbHLgBFSbB" ++
  "abDSRhBVzBobDUNoGuBkbDUUiHktcDVBrbfcDVBsmhcDVCeqdcDVCuibbDVDcCQdBzbDXUeEPkBgbECIiBGLcBgb" ++
  "FITkBUMqBibHDGc"

end Unicode
end Pattern
end Moniker
