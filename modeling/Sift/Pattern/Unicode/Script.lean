/-!
The scripts of Unicode characters: the script to which a character belongs, and the scripts with
which it is used.

Each entry is the names of a class, in the form in which names are compared, and its code points
as gaps and lengths of ranges in one or more lines; `Ranges` says how the numbers are written.
-/

namespace Sift
namespace Pattern
namespace Unicode

/-- The scripts by their short and long names. -/
def scriptTable : List (List String × List String) :=
  [
    (["adlm", "adlam"], ["hdeUcXEJEB"]),
    (["aghb", "caucasianalbanian"], ["duxSbZLA"]),
    (["ahom"], ["ebrCbACOEW"]),
    (["arab", "arabic"],
      ["chCEBFBNBCBbFBJLZBeDBbHdCbVjGbEBBFcWBbCdntWeKQnYCdBCcBHAbGPeIEBfEfvNbEcPCcDDdglSDBbABBBA",
       "CABJBDBABAGAEABABABCBBBACABABABABABBBACDBGBDBDBABJBQFCBEBQcAB"]),
    (["armi", "imperialaramaic"], ["dwbWVBI"]),
    (["armn", "armenian"], ["bzDbLCbXCCdozJE"]),
    (["avst", "avestan"], ["dxcYcBDG"]),
    (["bali", "balinese"], ["kfWcYBbX"]),
    (["bamu", "bamum"], ["clcQdJcvcQvW"]),
    (["bass", "bassavah"], ["fhkIbDCF"]),
    (["batk", "batak"], ["knGbZID"]),
    (["beng", "bengali"], ["dpODBHCBCVBGBADDCICBCDIAEBBECY"]),
    (["bhks", "bhaiksuki"], ["edoIIBbSBNKbC"]),
    (["bopo", "bopomofo"], ["bcSBrlXbQeIbF"]),
    (["brah", "brahmi"], ["dzaEcZEbJJA"]),
    (["brai", "braille"], ["pdWjV"]),
    (["bugi", "buginese"], ["jwAbBCB"]),
    (["buhd", "buhid"], ["iuYT"]),
    (["cakm", "chakma"], ["dzkAcABR"]),
    (["cans", "canadianaboriginal"], ["hoYyPvOcRdtpQP"]),
    (["cari", "carian"], ["dtyMbW"]),
    (["cham"], ["cmjWcCJNCJCD"]),
    (["cher", "cherokee"], ["hlGdHCFcfjEdB"]),
    (["chrs", "chorasmian"], ["dyxCbB"]),
    (["copt", "qaac", "coptic"], ["bmGNpjKeLFG"]),
    (["cpmn", "cyprominoan"], ["ekyYdU"]),
    (["cprt", "cypriot"], ["dvzKFCABbRBBDACA"]),
    (["cyrl", "cyrillic"], ["bnKfCCgMivOKgEAcYAgfNbFbtoAdRbheCBdhpGcJbHA"]),
    (["deva", "devanagari"], ["dkQdCEOCZcijGbFbreMJ"]),
    (["diak", "divesakuru"], ["eckUGCACHBBBbDBBCLJJ"]),
    (["dogr", "dogra"], ["ecaYcH"]),
    (["dsrt", "deseret"], ["dumAdB"]),
    (["dupl", "duployan"], ["gmdSeCFMDIHJCD"]),
    (["egyp", "egyptianhieroglyphs"], ["eldGbqRKfxQ"]),
    (["elba", "elbasan"], ["duvWbN"]),
    (["elym", "elymaic"], ["dyyYW"]),
    (["ethi", "ethiopic"],
      ["gvGcUBDCGBABDCbOBDCbGBDCGBABDCOBcEBDCcOCbFDZjvAWJGBGBGBGBGBGBGBGbvkCFCFCFJGBGepyFGBDBBBO"]),
    (["gara", "garay"], ["dxzCbLDbCIB"]),
    (["geor", "georgian"], ["ghSbLBAFACbQBDejWbQCCgeAbLBAFA"]),
    (["glag", "glagolitic"], ["qrGdRgizGGBQCGBBBE"]),
    (["gong", "gunjalagondi"], ["eebWFBBBbKBBBFHJ"]),
    (["gonm", "masaramgondi"], ["edyEGBBBbRDABBBIIJ"]),
    (["goth", "gothic"], ["dueAbA"]),
    (["gran", "grantha"], ["eadSDBHCBCVBGBBBECICBCCCAGAFGCGDE"]),
    (["grek", "greek"],
      ["bhWDBCCDBAEABABCBABTBcKOPjnQEbYEEEdGAmIVCFCbLCFCHBABABABbECcABOBNCFBSCCBIlJAcajEAbgnIdAR",
       "AdaxRcR"]),
    (["gujr", "gujarati"], ["dzLCBIBCBVBGBBBECJBCBCCAPDCLHG"]),
    (["gukh", "gurungkhema"], ["fdrScF"]),
    (["guru", "gurmukhi"], ["duNCBFEBCVBGBBBBBBCABEEBCCDAHDBAHQ"]),
    (["han", "hani"],
      ["rpWZBdKMiFbVABAZIODblCjtNcMbfbJbhsIoBCeBbsiIBMBccoKclfBbGgdTGiNCinPOlbKPxXdqWuVcfYhhYFgf",
       "F"]),
    (["hang", "hangul"], ["glKjVllEBjXdPeJbEcNbEbtaNbCyTqnRMWEbWpaIbEDFCFCFCC"]),
    (["hano", "hanunoo"], ["itSU"]),
    (["hatr", "hatran"], ["dwiASBBFE"]),
    (["hebr", "hebrew"], ["ccVcCIbAEFdovWZBEBABBBBBJ"]),
    (["hira", "hiragana"], ["shDdHGCfpeVlASAbDCymVA"]),
    (["hluw", "anatolianhieroglyphs"], ["essEwK"]),
    (["hmng", "pahawhhmong"], ["fhmEcRKJBGBUFS"]),
    (["hmnp", "nyiakengpuachuehmong"], ["haeAbSDNCJEB"]),
    (["hung", "oldhungarian"], ["dxrSbYNbYHF"]),
    (["ital", "olditalic"], ["ducEbJJC"]),
    (["java", "javanese"], ["cmeYcZCJEB"]),
    (["kali", "kayahli"], ["cmaAbTBA"]),
    (["kana", "katakana"], ["skVdLCCjGPiAbUBdJczhEJBbScouCDBGBBBAlBCbYAOD"]),
    (["kawi"], ["eerWQBbODbC"]),
    (["khar", "kharoshthi"], ["dwtCDBBFHBCBbCCCEJHI"]),
    (["khmr", "khmer"], ["ixKdPCJGJsSbF"]),
    (["khoj", "khojki"], ["dztWRBbU"]),
    (["kits", "khitansmallscript"], ["fjiIAkgXsBbPA"]),
    (["knda", "kannada"], ["etCMBCBWBJBECIBCBDHBGBBDCJBC"]),
    (["krai", "kiratrai"], ["fiiIcF"]),
    (["kthi", "kaithi"], ["dzfCcOKA"]),
    (["lana", "taitham"], ["jxGcKBbCCKGJGN"]),
    (["lao", "laoo"], ["fmVBBABEBXBABWCEBABGBJCD"]),
    (["latn", "latin"],
      ["cNZGZbVAPAFWBbEBrGbNEjxBbLGbWFDFMBcRcNjVoFANAQMfLBGAbBARbOecTbFbulMdXDcOCBBABHVNbfKbQBIB",
       "DbedQGboKZGZdcFFBbPBIddnPbEGF"]),
    (["lepc", "lepcha"], ["kpScDDODC"]),
    (["limb", "limbu"], ["jmEbEBLELEADL"]),
    (["lina", "lineara"], ["dvfSlYJVKH"]),
    (["linb", "linearb"], ["dsyQLBZBSBBBOCNbIeS"]),
    (["lisu"], ["ckkUbVbumAA"]),
    (["lyci", "lycian"], ["dtxGbC"]),
    (["lydi", "lydian"], ["dwkMZFA"]),
    (["mahj", "mahajani"], ["dznCbM"]),
    (["maka", "makasar"], ["eeqQY"]),
    (["mand", "mandaic"], ["ddGbBCA"]),
    (["mani", "manichaean"], ["dxaMbMEL"]),
    (["marc", "marchen"], ["edsQbFCVBN"]),
    (["medf", "medefaidrin"], ["fisEdM"]),
    (["mend", "mendekikakui"], ["hcuYhOCP"]),
    (["merc", "meroiticcursive"], ["dwpKXETCbT"]),
    (["mero", "meroitichieroglyphs"], ["dwoEbF"]),
    (["miao", "plrd"], ["fizOcWEcEHQ"]),
    (["mlym", "malayalam"], ["eyAMBCBbYBCBFEPCZ"]),
    (["modi"], ["ebhGcQLJ"]),
    (["mong", "mongolian"], ["jcIBCABTGdKHbQdscBM"]),
    (["mro", "mroo"], ["fheUbEBJEB"]),
    (["mtei", "meeteimayek"], ["cmsMWhTbTCJ"]),
    (["mult", "multani"], ["dzyUGBABDBOBK"]),
    (["mymr", "myanmar"], ["gbOgDcgaYbEdTbFbpaMT"]),
    (["nagm", "nagmundari"], ["hbpObP"]),
    (["nand", "nandinagari"], ["ecqYHCbTCK"]),
    (["narb", "oldnortharabian"], ["dwyAbF"]),
    (["nbat", "nabataean"], ["dweIbEII"]),
    (["newa"], ["eanOdNBE"]),
    (["nko", "nkoo"], ["cyIcGCC"]),
    (["nshu", "nushu"], ["fjiFAyvMpF"]),
    (["ogam", "ogham"], ["inObC"]),
    (["olck", "olchiki"], ["ksUbV"]),
    (["onao", "olonal"], ["hbzKbQEA"]),
    (["orkh", "oldturkic"], ["dxmUcU"]),
    (["orya", "oriya"], ["eeJCBHCBCVBGBBBECICBCCHCEBBECR"]),
    (["osge", "osage"], ["dusUbJEbJ"]),
    (["osma", "osmanya"], ["duqYbDCJ"]),
    (["ougr", "olduyghur"], ["dyuQZ"]),
    (["palm", "palmyrene"], ["dwdCbF"]),
    (["pauc", "paucinhau"], ["edcAcE"]),
    (["perm", "oldpermic"], ["dufGbQ"]),
    (["phag", "phagspa"], ["clsQcD"]),
    (["phli", "inscriptionalpahlavi"], ["dxgQSFH"]),
    (["phlp", "psalterpahlavi"], ["dxhWRHDMG"]),
    (["phnx", "phoenician"], ["dwjGbBDA"]),
    (["prti", "inscriptionalparthian"], ["dxfKVCH"]),
    (["qaai", "zinh", "inherited"],
      ["bdOeHkRBrKKbAAbcIDgoXbEtTCBMBGEAGADBhQcLuEBhMbGftXDeDBczuJPQNblNAiSAgfAActcUbTCWuYCRHCGb",
       "EDbtlhIjF"]),
    (["rjng", "rejang"], ["cmbWbJLA"]),
    (["rohg", "hanifirohingya"], ["dxwQbNIJ"]),
    (["runr", "runic"], ["ioUcWDK"]),
    (["samr", "samaritan"], ["daUbTCO"]),
    (["sarb", "oldsoutharabian"], ["dwwUbF"]),
    (["saur", "saurashtra"], ["clvCcRIL"]),
    (["sgnw", "signwriting"], ["gwtKzBPEBO"]),
    (["shaw", "shavian"], ["dupCbV"]),
    (["shrd", "sharada"], ["dzoYdR"]),
    (["sidd", "siddham"], ["ebcIcBCbL"]),
    (["sind", "khudawadi"], ["eaaQcGFJ"]),
    (["sinh", "sinhala"], ["fcZCBRDXBIBACGDAEFBABHGJCCdulGT"]),
    (["sogd", "sogdian"], ["dysEbP"]),
    (["sogo", "oldsogdian"], ["dyqIbN"]),
    (["sora", "sorasompeng"], ["dziEYHJ"]),
    (["soyo", "soyombo"], ["ecxSdE"]),
    (["sund", "sundanese"], ["kkUcLjWH"]),
    (["sunu", "sunuwar"], ["edlWbHOJ"]),
    (["sylo", "sylotinagri"], ["clqEbS"]),
    (["syrc", "syriac"], ["cqYNBcHCCkMK"]),
    (["tagb", "tagbanwa"], ["iwEMBCBB"]),
    (["takr", "takri"], ["ebmEcFGJ"]),
    (["tale", "taile"], ["jpGbDCE"]),
    (["talu", "newtailue"], ["jrCbREZGKDB"]),
    (["taml", "tamil"], ["ejIBBFDCBDDBBABBDBDCDLEEDCBDCAGAOUealHbXNA"]),
    (["tang", "tangut"], ["fjiEAbFjbZIbdNtSI"]),
    (["tavt", "taiviet"], ["cmoUcOYE"]),
    (["telu", "telugu"], ["eoEMBCBWBPCIBCBDHBBCCACDCJHI"]),
    (["tfng", "tifinagh"], ["rcYcDHBOA"]),
    (["tglg", "tagalog"], ["isMVJA"]),
    (["thaa", "thaana"], ["cvWbX"]),
    (["thai"], ["fhXcFFbB"]),
    (["tibt", "tibetan"], ["frScTBbJEbMBbJBOBGEB"]),
    (["tirh", "tirhuta"], ["easMcTIJ"]),
    (["tnsa", "tangsa"], ["fhgQdABJ"]),
    (["todr", "todhri"], ["dvdGbZ"]),
    (["toto"], ["hatKbE"]),
    (["tutg", "tulutigalari"], ["eaiQJBACABbLBJBACABDBJBBIB"]),
    (["ugar", "ugaritic"], ["duhCbDBA"]),
    (["vai", "vaii"], ["ckmQlN"]),
    (["vith", "vithkuqi"], ["dvaEKBOBGBBBKBOBGBB"]),
    (["wara", "warangciti"], ["echCdEMA"]),
    (["wcho", "wancho"], ["havGcFFA"]),
    (["xpeo", "oldpersian"], ["duiIbJEN"]),
    (["xsux", "cuneiform"], ["efbSbjLdYeGBELhN"]),
    (["yezi", "yezidi"], ["dylKbPBCCB"]),
    (["yi", "yiii"], ["cipKbsUDcC"]),
    (["zanb", "zanabazarsquare"], ["ecuQcT"]),
    (["zyyy", "common"],
      ["AcMbAFbAbUBOBEXAbFArHbMFECTeMAJAGABAyNAGAOADAbGAgAAtWAeZBbvTApPDlEAcgLCcTBhVBBAbvHANAHDB",
       "FBCCAbdTLCdIBKDKBORbGcLbLBCCFBbABQbPCEzPWKVbjRjWyDCbFBeAtSdPpMUBABYPHEDdNBDAdMBfRPbGbLJA",
       "bWcLbFdCbVAdKgLjtOcLbhsIbHdYCgJJjKAgEApFAOBbezQBiAJWbIBSBDfRABbFbAFbAKKAbTBcMGBGKEjYCEbS",
       "DIdCMbZbSiUbAcshWDfvGjPGqTgAeLcIjLKbMCcJDQIBHbDEcIiFTMTMdIJYfFdGBcSBBCACBCDBLBABGBcMBDCH",
       "BGBbBBDBEBADGBnBClFCbXhtHcPcYcIbbEbREdVMOCOBOBbKKgRcEZBBNbREIHBOFfYblVEQDMDeOEdQGLEAPLEc",
       "DIJGbNIbDCLEBcKnBMNCMDJFcDHOCKGIHfQBdXbsuxBAbEdR"])
  ]

/-- The characters that are used with a script. -/
def scriptExtensionTable : List (List String × List String) :=
  [
    (["adlm", "adlam"], ["ciHAbGAjwOAfhHAglrIcXEJEB"]),
    (["aghb", "caucasianalbanian"], ["bdSAbSAbSAdtqNbZLA"]),
    (["ahom"], ["ebrCbACOEW"]),
    (["arab", "arabic"],
      ["chCEBiGBbHdCbVjGbEBBFcWBbCivNAfhHAczrAeKQrCCcBHAbGPeIEBfEbmHbBeiEbEcPCcDDdglSDBbABBBACAB",
       "JBDBABAGAEABABABCBBBACABABABABABBBACDBGBDBDBABJBQFCBEBQcAB"]),
    (["armi", "imperialaramaic"], ["dwbWVBI"]),
    (["armn", "armenian"], ["bdWAvGbLCbXCCdozJE"]),
    (["avst", "avestan"], ["hBArfSBdfqCcBDG"]),
    (["bali", "balinese"], ["kfWcYBbX"]),
    (["bamu", "bamum"], ["clcQdJcvcQvW"]),
    (["bass", "bassavah"], ["fhkIbDCF"]),
    (["batk", "batak"], ["knGbZID"]),
    (["beng", "bengali"], ["baYAcmUBRBbADBHCBCVBGBADDCICBCDIAEBBECYhdHABACBBAIAIACAEACCcbaFA"]),
    (["bhks", "bhaiksuki"], ["edoIIBbSBNKbC"]),
    (["bopo", "bopomofo"], ["bbJABCNAQBrbXCEJBMKDCAGAhNAJbQeIbFczlTBkWE"]),
    (["brah", "brahmi"], ["dzaEcZEbJJA"]),
    (["brai", "braille"], ["pdWjV"]),
    (["bugi", "buginese"], ["jwAbBCBcckTA"]),
    (["buhd", "buhid"], ["iuNBJT"]),
    (["cakm", "chakma"], ["dtMJckEJdtfQcABR"]),
    (["cans", "canadianaboriginal"], ["hoYyPvOcRdtpQP"]),
    (["cari", "carian"], ["hBAlzMACAfgDAdclQbW"]),
    (["cham"], ["cmjWcCJNCJCD"]),
    (["cher", "cherokee"], ["bdOCBAGBWBLBgfUdHCFcfjEdB"]),
    (["chrs", "chorasmian"], ["dyxCbB"]),
    (["copt", "qaac", "coptic"], ["hBAwMADBBAeEBeENpjKeLFGkTAdcpCbB"]),
    (["cpmn", "cyprominoan"], ["dtiMBrqKdU"]),
    (["cprt", "cypriot"], ["dtiMCEbSDIcoMFCABbRBBDACA"]),
    (["cyrl", "cyrillic"], ["baYAcPCBABABACAFAjElRivOKgEAcYAeXAgaPbFcPAbtlKdRbheCBdhpGcJbHA"]),
    (["deva", "devanagari"], ["baYAcjRdECbQhiEbMBBbnAAbzfRJgKbFbreMJ"]),
    (["diak", "divesakuru"], ["eckUGCACHBBBbDBBCLJJ"]),
    (["dogr", "dogra"], ["doMLcidCJbqiOcH"]),
    (["dsrt", "deseret"], ["dumAdB"]),
    (["dupl", "duployan"], ["hBAwTBBAYBqiHAfuqLeCFMDIHJCH"]),
    (["egyp", "egyptianhieroglyphs"], ["eldGbqRKfxQ"]),
    (["elba", "elbasan"], ["hBAwRAdtsCbN"]),
    (["elym", "elymaic"], ["dyyYW"]),
    (["ethi", "ethiopic"],
      ["beCAfrDcUBDCGBABDCbOBDCbGBDCGBABDCOBcEBDCcOCbFDZjvAWJGBGBGBGBGBGBGBGbvkCFCFCFJGBGepyFGBD",
       "BBBO"]),
    (["gara", "garay"], ["chOAOADAdvqUbLDbCIB"]),
    (["geor", "georgian"], ["hBAbvLAefEbLBAFACbVejWbQCCbjMAeuNbLBAFAjZA"]),
    (["glag", "glagolitic"], ["hBAwPABAoSACAjXAeiRAfvIAekRdRsPAbtnFAeotKGBQCGBBBE"]),
    (["gong", "gunjalagondi"], ["hBAdhKBeanIFBBBbKBBBFHJ"]),
    (["gonm", "masaramgondi"], ["doMBeajQGBBBbRDABBBIIJ"]),
    (["goth", "gothic"], ["hBAwQBCAbOAdsyObA"]),
    (["gran", "grantha"], ["dnTBRByQNgkAABBbECDBbnAAdnrJDBHCBCVBGBBBEBJCBCCCAGAFGCGDEerRBBA"]),
    (["grek", "greek"],
      ["hBAwMBCABABAKAbUACAbQHCDBAEABABCBABTBcKOPjnQEbYEEEdGCmGVCFCbLCFCHBABABABbECcABOBNCFBSCCB",
       "IdQAhSAcajEAbgnIdARAdaxRcR"]),
    (["gujr", "gujarati"], ["dnTBRBkXCBIBCBVBGBBBECJBCBCCAPDCLHGchnSJ"]),
    (["gukh", "gurungkhema"], ["doNAfadEcF"]),
    (["guru", "gurmukhi"], ["dnTBRBfZCBFEBCVBGBBBBBBCABEEBCCDAHDBAHQchsZJ"]),
    (["han", "hani"],
      ["hBAriUZBdKMiFbAPBCBMBMBMCAGIhFAfSPbGbLJAbWbNcEbWPLbZAdKYKEdSbEBjtNcMbfbJcqYHbfbCoBCeBbhR",
       "BkWEbqpOBMBblrARlrYBfeSclfBbGgdTGiNCinPOlbKPxXdqWuVcfYhhYFgfF"]),
    (["hang", "hangul"],
      ["glKjVljLCEJBMOCGAhNAcBdPeJbEcNbEbtaNbCyTqnRMWEbWomZBkWEcGbEDFCFCFCC"]),
    (["hano", "hanunoo"], ["itSW"]),
    (["hatr", "hatran"], ["dwiASBBFE"]),
    (["hebr", "hebrew"], ["bdVByYcCIbAEFdovWZBEBABBBBBJ"]),
    (["hira", "hiragana"], ["seRCEJBMQFBAEBDdHCHdMBcztGBkWEKAbTBcouRlASAbDCymVA"]),
    (["hluw", "anatolianhieroglyphs"], ["essEwK"]),
    (["hmng", "pahawhhmong"], ["fhmEcRKJBGBUFS"]),
    (["hmnp", "nyiakengpuachuehmong"], ["haeAbSDNCJEB"]),
    (["hung", "oldhungarian"], ["mgOACAfgDAPAdgeGbYNbYHF"]),
    (["ital", "olditalic"], ["ducEbJJC"]),
    (["java", "javanese"], ["cmeYcZBKEB"]),
    (["kali", "kayahli"], ["cmaAbV"]),
    (["kana", "katakana"],
      ["bdTAbDAqzTCEJBMQFBAEBdNDDdRjGPiAbUBdJcywBBkWcKcouADBGBBBAlBCbYAOD"]),
    (["kawi"], ["eerWQBbODbC"]),
    (["khar", "kharoshthi"], ["dwtCDBBFHBCBbCCCEJHI"]),
    (["khmr", "khmer"], ["ixKdPCJGJsSbF"]),
    (["khoj", "khojki"], ["edIJchoIJbobMRBbU"]),
    (["kits", "khitansmallscript"], ["fjiIAkgXsBbPA"]),
    (["knda", "kannada"], ["dnTBRBbeOMBCBWBJBECIBCBDHBGBBDCJBCgaEABBGAXABAcasXF"]),
    (["krai", "kiratrai"], ["fiiIcF"]),
    (["kthi", "kaithi"], ["doOJnxXAbufEJbnmScOKA"]),
    (["lana", "taitham"], ["jxGcKBbCCKGJGN"]),
    (["lao", "laoo"], ["fmVBBABEBXBABWCEBABGBJCD"]),
    (["latn", "latin"],
      ["cNZGZbVAMACAFWBbEBrGDAKABCBAJABAGEbBOBBBAMACCHBBBbMAFAEMkRBbvEBcxKAeoIbLGbWFDFMBcRcFAHjV",
       "lRAcNANAQMdFAcFBGAbBARbOecTbFpRAbtuMHbAdXDcOCBBABHVNlQAtTbQBIBDbedQGboKZGZdcFFBbPBIddnPb",
       "EGF"]),
    (["lepc", "lepcha"], ["kpScDDODC"]),
    (["limb", "limbu"], ["doNAfxQbEBLELEADL"]),
    (["lina", "lineara"], ["dtiTbSbvGlYJVKH"]),
    (["linb", "linearb"], ["dsyQLBZBSBBBOCNbIeSFCEbSDI"]),
    (["lisu"], ["baYAQArdKBbsfSbVbumAA"]),
    (["lyci", "lycian"], ["mgOAdhqRbC"]),
    (["lydi", "lydian"], ["hBArfTAdexQZFA"]),
    (["mahj", "mahajani"], ["hBAdhKLcidCJbnuSbM"]),
    (["maka", "makasar"], ["eeqQY"]),
    (["mand", "mandaic"], ["cjOAtRbBCA"]),
    (["mani", "manichaean"], ["cjOAduqXbMEL"]),
    (["marc", "marchen"], ["edsQbFCVBN"]),
    (["medf", "medefaidrin"], ["fisEdM"]),
    (["mend", "mendekikakui"], ["hcuYhOCP"]),
    (["merc", "meroiticcursive"], ["dwpKXETCbT"]),
    (["mero", "meroitichieroglyphs"], ["mgRAdkhMbF"]),
    (["miao", "plrd"], ["fizOcWEcEHQ"]),
    (["mlym", "malayalam"], ["dnTBRBbjMMBCBbYBCBFEPCZfvEAXAcasZC"]),
    (["modi"], ["clsAJbpoWcQLJ"]),
    (["mong", "mongolian"], ["jcIZGdKHbQcwAAfzTBFDdjfWM"]),
    (["mro", "mroo"], ["fheUbEBJEB"]),
    (["mtei", "meeteimayek"], ["cmsMWhTbTCJ"]),
    (["mult", "multani"], ["dyKJdwaAGBABDBOBK"]),
    (["mymr", "myanmar"], ["gbOgDcfuCAgVbEdTbFbpaMT"]),
    (["nagm", "nagmundari"], ["hbpObP"]),
    (["nand", "nandinagari"], ["doMBbiMJgbHAIAHAcasRFbqySHCbTCK"]),
    (["narb", "oldnortharabian"], ["dwyAbF"]),
    (["nbat", "nabataean"], ["dweIbEII"]),
    (["newa"], ["eanOdNBE"]),
    (["nko", "nkoo"], ["chOAOADAqAcGCCdowSB"]),
    (["nshu", "nushu"], ["fjiFAyvMpF"]),
    (["ogam", "ogham"], ["inObC"]),
    (["olck", "olchiki"], ["ksUbV"]),
    (["onao", "olonal"], ["doMBgykWbQEA"]),
    (["orkh", "oldturkic"], ["mgOAfgFAdfzZcU"]),
    (["orya", "oriya"], ["dnTBRBpVCBHCBCVBGBBBECICBCCHCEBBECRgpEAXA"]),
    (["osge", "osage"], ["bdPACAGAcYAdtlVbJEbJ"]),
    (["osma", "osmanya"], ["duqYbDCJ"]),
    (["ougr", "olduyghur"], ["cjOAdusVAbsFZ"]),
    (["palm", "palmyrene"], ["dwdCbF"]),
    (["pauc", "paucinhau"], ["edcAcE"]),
    (["perm", "oldpermic"], ["hBAwMAFCKAoDAdsmUbQ"]),
    (["phag", "phagspa"], ["jcKBBAdcJAfzUAbtnXcD"]),
    (["phli", "inscriptionalpahlavi"], ["dxgQSFH"]),
    (["phlp", "psalterpahlavi"], ["cjOAduyHRHDMG"]),
    (["phnx", "phoenician"], ["dwjGbBDA"]),
    (["prti", "inscriptionalparthian"], ["dxfKVCH"]),
    (["qaai", "zinh", "inherited"],
      ["beDACABLBBDGCACPBBBRBEBDcgMBgoXbEbdBcBBABEuEBhMbFdfsQPQNblNAczqObTCWuYCRHCGbEDbtlhIjF"]),
    (["rjng", "rejang"], ["cmbWbJLA"]),
    (["rohg", "hanifirohingya"], ["chOAOADAbGAfRAdvhJbNIJ"]),
    (["runr", "runic"], ["ioUdK"]),
    (["samr", "samaritan"], ["daUbTCOojQA"]),
    (["sarb", "oldsoutharabian"], ["dwwUbF"]),
    (["saur", "saurashtra"], ["clvCcRIL"]),
    (["sgnw", "signwriting"], ["gwtKzBPEBO"]),
    (["shaw", "shavian"], ["hBAduiAbV"]),
    (["shrd", "sharada"], ["dnTAhkFABACBCAcatRFCAbnwPdR"]),
    (["sidd", "siddham"], ["ebcIcBCbL"]),
    (["sind", "khudawadi"], ["doMBcidMJboiGcGFJ"]),
    (["sinh", "sinhala"], ["doMBboLCBRDXBIBACGDAEFBABHGJCCfrPAdotQT"]),
    (["sogd", "sogdian"], ["cjOAdwiPbP"]),
    (["sogo", "oldsogdian"], ["dyqIbN"]),
    (["sora", "sorasompeng"], ["dziEYHJ"]),
    (["soyo", "soyombo"], ["ecxSdE"]),
    (["sund", "sundanese"], ["kkUcLjWH"]),
    (["sunu", "sunuwar"], ["bdOBBAJACAbCADAecgKbHOJ"]),
    (["sylo", "sylotinagri"], ["doMBeYJchwIbS"]),
    (["syrc", "syriac"], ["bdRBCBBAVACCHBBAbcDAOBCAbGAKKbAAfNNBcHCCkMKieFABA"]),
    (["tagb", "tagbanwa"], ["iuNBbPMBCBB"]),
    (["takr", "takri"], ["doMBcidMJbptUcFGJ"]),
    (["tale", "taile"], ["bdOBFBDAezZJdkWbDCE"]),
    (["talu", "newtailue"], ["jrCbREZGKDB"]),
    (["taml", "tamil"], ["dnTBRBuUBBFDCBDDBBABBDBDCDLEEDCBDCAGAOUgkDAcbbKAboeFABAcDBetFbXNA"]),
    (["tang", "tangut"], ["seAPtBAeqkMAbFjbZIbdNtSI"]),
    (["tavt", "taiviet"], ["cmoUcOYE"]),
    (["telu", "telugu"], ["dnTBRBzQMBCBWBPCIBCBDHBBCCACDCJHIgfAAXA"]),
    (["tfng", "tifinagh"], ["bdQABACABApzAcDHBOA"]),
    (["tglg", "tagalog"], ["isMVJAVB"]),
    (["thaa", "thaana"], ["chOAOBCAcMJkSbXdpgQAKA"]),
    (["thai"], ["baYAbAAbRAbTAecLcFFbB"]),
    (["tibt", "tibetan"], ["frScTBbJEbMBbJBOBGEBmeVD"]),
    (["tirh", "tirhuta"], ["dnTBRBhkMAcasZJbpaCcTIJ"]),
    (["tnsa", "tangsa"], ["fhgQdABJ"]),
    (["todr", "todhri"], ["bdPACACAJABAcWAdtwBbZ"]),
    (["toto"], ["baYAgzsLbE"]),
    (["tutg", "tulutigalari"], ["exAJgbQABAcasXFhFAbojEJBACABbLBJBACABDBJBBIB"]),
    (["ugar", "ugaritic"], ["duhCbDBA"]),
    (["vai", "vaii"], ["ckmQlN"]),
    (["vith", "vithkuqi"], ["dvaEKBOBGBBBKBOBGBB"]),
    (["wara", "warangciti"], ["echCdEMA"]),
    (["wcho", "wancho"], ["havGcFFA"]),
    (["xpeo", "oldpersian"], ["duiIbJEN"]),
    (["xsux", "cuneiform"], ["efbSbjLdYeGBELhN"]),
    (["yezi", "yezidi"], ["chOAOADAcMJdwaGbPBCCB"]),
    (["yi", "yiii"], ["seRBFJCHiPAbqbCbsUDcCbiiCE"]),
    (["zanb", "zanabazarsquare"], ["ecuQcT"]),
    (["zyyy", "common"],
      ["AcMbAFbAbUBLBBBEXAbFArHCBJBADABIBABFFECTeWAGABAyNAiHAtWAcaUApPDgdBLCbGBbEBJBBBGBKDKBORbG",
       "cLbLBCCFBbABQbPCEzPWKVbjRjWyDCbFBeAtSWBXCJBDBABZqCADANANAVAuJXbFAbXOMDgFJFdRbFAjtOcLbhsQ",
       "ZdYCblOAOBbfhSJWUCLBSBDfRABbFbAFbAFeXGBGKEpMMbZbScynBjPGqTgAeLcIjLKbMCcJDQIBHbDEcIiFTMTM",
       "dIbBGfFdGBcSBBCACBCDBLBABGBcMBDCHBGBbBBDBEBADGBnBClFCbXhtHcPcYcIbbEbREdVMOCOBOBbKKgRcEZB",
       "BNbREIXFfYblVEQDMDeOEdQGLEAPLEcDIJGbNIbDCLEBcKnBMNCMDJFcDHOCKGIHfQBdXbsuxBAbEdR"])
  ]

end Unicode
end Pattern
end Sift
