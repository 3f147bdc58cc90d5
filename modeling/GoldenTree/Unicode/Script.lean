import GoldenTree.Unicode.Packed

/-! Scripts, as of version 16.0 of Unicode. -/
namespace GoldenTree.Unicode

open Text

/-- The scripts with the characters that belong to each alone. -/
def scripts : List NamedSet :=
  [⟨["adlm", "adlam"], "hdeUcXFJFB"⟩,
   ⟨["aghb", "caucasianalbanian"], "duxSbZMA"⟩,
   ⟨["ahom"], "ebrCbADOFW"⟩,
   ⟨["arab", "arabic"], String.join
     ["chCECFCNCCCbFCJMZCeDCbHdDbVjHbECBGcWCbCdntXeKRnYDdBDcBIAbHPeJECfEfvObEcQCcEDdglTDCbACBCA",
      "DACJCDCACAHAFACACACCCBCADACACACACACBCADDCGCDCDCACJCQGCCECQcBB"]⟩,
   ⟨["armi", "imperialaramaic"], "dwbWVCI"⟩,
   ⟨["armn", "armenian"], "bzDbLDbXDCdozKE"⟩,
   ⟨["avst", "avestan"], "dxcYcBEG"⟩,
   ⟨["bali", "balinese"], "kfWcYCbX"⟩,
   ⟨["bamu", "bamum"], "clcQdJcvcRvW"⟩,
   ⟨["bass", "bassavah"], "fhkIbDDF"⟩,
   ⟨["batk", "batak"], "knGbZJD"⟩,
   ⟨["beng", "bengali"], "dpODCHDBDVCGCAEDDIDBDDJAFBCEDY"⟩,
   ⟨["bhks", "bhaiksuki"], "edoIICbSCNLbC"⟩,
   ⟨["bopo", "bopomofo"], "bcSBrlYbQeJbF"⟩,
   ⟨["brah", "brahmi"], "dzaEcZFbJKA"⟩,
   ⟨["brai", "braille"], "pdWjV"⟩,
   ⟨["bugi", "buginese"], "jwAbBDB"⟩,
   ⟨["buhd", "buhid"], "iuYT"⟩,
   ⟨["cakm", "chakma"], "dzkAcACR"⟩,
   ⟨["cans", "canadianaboriginal"], "hoYyPvPcRdtpRP"⟩,
   ⟨["cari", "carian"], "dtyMbW"⟩,
   ⟨["cham"], "cmjWcCKNDJDD"⟩,
   ⟨["cher", "cherokee"], "hlGdHDFcfjFdB"⟩,
   ⟨["chrs", "chorasmian"], "dyxCbB"⟩,
   ⟨["copt", "coptic", "qaac"], "bmGNpjLeLGG"⟩,
   ⟨["cpmn", "cyprominoan"], "ekyYdU"⟩,
   ⟨["cprt", "cypriot"], "dvzKFDACbRCBEADA"⟩,
   ⟨["cyrl", "cyrillic"], "bnKfCDgMivPKgFAcZAgfObFbtoBdRbheDBdhpHcJbIA"⟩,
   ⟨["deva", "devanagari"], "dkQdCFODZcijHbFbreNJ"⟩,
   ⟨["diak", "divesakuru"], "eckUGDADHCBCbDCBDLKJ"⟩,
   ⟨["dogr", "dogra"], "ecaYcH"⟩,
   ⟨["dsrt", "deseret"], "dumAdB"⟩,
   ⟨["dupl", "duployan"], "gmdSeCGMEIIJDD"⟩,
   ⟨["egyp", "egyptianhieroglyphs"], "eldGbqRLfxQ"⟩,
   ⟨["elba", "elbasan"], "duvWbN"⟩,
   ⟨["elym", "elymaic"], "dyyYW"⟩,
   ⟨["ethi", "ethiopic"],
     "gvGcUCDDGCACDDbOCDDbGCDDGCACDDOCcECDDcODbFEZjvBWKGCGCGCGCGCGCGCGbvkDFDFDFKGCGepyGGCDCBCO"⟩,
   ⟨["gara", "garay"], "dxzCbLEbCJB"⟩,
   ⟨["geor", "georgian"], "ghSbLCAGADbQCDejXbQDCgeBbLCAGA"⟩,
   ⟨["glag", "glagolitic"], "qrGdRgizHGCQDGCBCE"⟩,
   ⟨["gong", "gunjalagondi"], "eebWFCBCbKCBCFIJ"⟩,
   ⟨["gonm", "masaramgondi"], "edyEGCBCbREACBCIJJ"⟩,
   ⟨["goth", "gothic"], "dueAbA"⟩,
   ⟨["gran", "grantha"], "eadSDCHDBDVCGCBCEDIDBDCDAHAGGDGEE"⟩,
   ⟨["grek", "greek"], String.join
     ["bhWDCCDDCAFACACCCACTCcKPPjnREbZEFEdHAmJVDFDbLDFDHCACACACbEDcACOCNDFCSDCCIlKAcajFAbgnJdAS",
      "AdaxScR"]⟩,
   ⟨["gujr", "gujarati"], "dzLCCICCCVCGCBCEDJCCCCDAQDDLIG"⟩,
   ⟨["gukh", "gurungkhema"], "fdrScF"⟩,
   ⟨["guru", "gurmukhi"], "duNCCFFBDVCGCBCBCBDACEFBDCEAIDCAIQ"⟩,
   ⟨["hang", "hangul"], "glKjVllFBjYdPeKbEcObEbtaObCyUqnRNWFbWpaJbEEFDFDFDC"⟩,
   ⟨["hani", "han"], String.join
     ["rpWZCdKNiFbWACAbAIPDblDjtNcNbfbJbhsJoBDeBbsiJBNBccoLclfBbHgdTHiNDinPPlbKQxXdqXuVcfZhhYGg",
      "fF"]⟩,
   ⟨["hano", "hanunoo"], "itSU"⟩,
   ⟨["hatr", "hatran"], "dwiASCBGE"⟩,
   ⟨["hebr", "hebrew"], "ccVcCJbAFFdovXZCECACBCBCJ"⟩,
   ⟨["hira", "hiragana"], "shDdHHCfpeWlATAbECymWA"⟩,
   ⟨["hluw", "anatolianhieroglyphs"], "essEwK"⟩,
   ⟨["hmng", "pahawhhmong"], "fhmEcRLJCGCUGS"⟩,
   ⟨["hmnp", "nyiakengpuachuehmong"], "haeAbSENDJFB"⟩,
   ⟨["hung", "oldhungarian"], "dxrSbYObYIF"⟩,
   ⟨["ital", "olditalic"], "ducEbJKC"⟩,
   ⟨["java", "javanese"], "cmeYcZDJFB"⟩,
   ⟨["kali", "kayahli"], "cmaAbTCA"⟩,
   ⟨["kana", "katakana"], "skVdLDCjHPiBbUCdJczhFJCbScouDDCGCBCAlCCbZAPD"⟩,
   ⟨["kawi"], "eerWQCbOEbC"⟩,
   ⟨["khar", "kharoshthi"], "dwtCDCBGHCCCbCDCFJII"⟩,
   ⟨["khmr", "khmer"], "ixKdPDJHJsTbF"⟩,
   ⟨["khoj", "khojki"], "dztWRCbU"⟩,
   ⟨["kits", "khitansmallscript"], "fjiIAkgYsBbQA"⟩,
   ⟨["knda", "kannada"], "etCMCCCWCJCEDICCCDIBHBCDDJCC"⟩,
   ⟨["krai", "kiratrai"], "fiiIcF"⟩,
   ⟨["kthi", "kaithi"], "dzfCcOLA"⟩,
   ⟨["lana", "taitham"], "jxGcKCbCDKHJHN"⟩,
   ⟨["laoo", "lao"], "fmVBCACECXCACWDECACGCJDD"⟩,
   ⟨["latn", "latin"], String.join
     ["cNZHZbWAQAGWCbECrGbOEjxCbLHbWGDGMCcRcOjVoGAOARMfMBHAbCASbOecUbFbulNdXEcODBCACHWNbfLbQCIC",
      "DbedRGboLZHZdcGFCbPCIddnQbEHF"]⟩,
   ⟨["lepc", "lepcha"], "kpScDEOEC"⟩,
   ⟨["limb", "limbu"], "jmEbECLFLFAEL"⟩,
   ⟨["lina", "lineara"], "dvfSlYKVLH"⟩,
   ⟨["linb", "linearb"], "dsyQLCZCSCBCODNbJeS"⟩,
   ⟨["lisu"], "ckkUbVbumBA"⟩,
   ⟨["lyci", "lycian"], "dtxGbC"⟩,
   ⟨["lydi", "lydian"], "dwkMZGA"⟩,
   ⟨["mahj", "mahajani"], "dznCbM"⟩,
   ⟨["maka", "makasar"], "eeqQY"⟩,
   ⟨["mand", "mandaic"], "ddGbBDA"⟩,
   ⟨["mani", "manichaean"], "dxaMbMFL"⟩,
   ⟨["marc", "marchen"], "edsQbFDVCN"⟩,
   ⟨["medf", "medefaidrin"], "fisEdM"⟩,
   ⟨["mend", "mendekikakui"], "hcuYhODP"⟩,
   ⟨["merc", "meroiticcursive"], "dwpKXFTDbT"⟩,
   ⟨["mero", "meroitichieroglyphs"], "dwoEbF"⟩,
   ⟨["mlym", "malayalam"], "eyAMCCCbYCCCFFPDZ"⟩,
   ⟨["modi"], "ebhGcQMJ"⟩,
   ⟨["mong", "mongolian"], "jcIBDACTHdKIbQdscCM"⟩,
   ⟨["mroo", "mro"], "fheUbECJFB"⟩,
   ⟨["mtei", "meeteimayek"], "cmsMWhUbTDJ"⟩,
   ⟨["mult", "multani"], "dzyUGCACDCOCK"⟩,
   ⟨["mymr", "myanmar"], "gbOgDcgaZbEdUbFbpaNT"⟩,
   ⟨["nagm", "nagmundari"], "hbpObP"⟩,
   ⟨["nand", "nandinagari"], "ecqYHDbTDK"⟩,
   ⟨["narb", "oldnortharabian"], "dwyAbF"⟩,
   ⟨["nbat", "nabataean"], "dweIbEJI"⟩,
   ⟨["newa"], "eanOdNCE"⟩,
   ⟨["nkoo", "nko"], "cyIcGDC"⟩,
   ⟨["nshu", "nushu"], "fjiFAyvNpF"⟩,
   ⟨["ogam", "ogham"], "inObC"⟩,
   ⟨["olck", "olchiki"], "ksUbV"⟩,
   ⟨["onao", "olonal"], "hbzKbQFA"⟩,
   ⟨["orkh", "oldturkic"], "dxmUcU"⟩,
   ⟨["orya", "oriya"], "eeJCCHDBDVCGCBCEDIDBDCICFBCEDR"⟩,
   ⟨["osge", "osage"], "dusUbJFbJ"⟩,
   ⟨["osma", "osmanya"], "duqYbDDJ"⟩,
   ⟨["ougr", "olduyghur"], "dyuQZ"⟩,
   ⟨["palm", "palmyrene"], "dwdCbF"⟩,
   ⟨["pauc", "paucinhau"], "edcAcE"⟩,
   ⟨["perm", "oldpermic"], "dufGbQ"⟩,
   ⟨["phag", "phagspa"], "clsQcD"⟩,
   ⟨["phli", "inscriptionalpahlavi"], "dxgQSGH"⟩,
   ⟨["phlp", "psalterpahlavi"], "dxhWRIDNG"⟩,
   ⟨["phnx", "phoenician"], "dwjGbBEA"⟩,
   ⟨["plrd", "miao"], "fizOcWFcEIQ"⟩,
   ⟨["prti", "inscriptionalparthian"], "dxfKVDH"⟩,
   ⟨["rjng", "rejang"], "cmbWbJMA"⟩,
   ⟨["rohg", "hanifirohingya"], "dxwQbNJJ"⟩,
   ⟨["runr", "runic"], "ioUcWEK"⟩,
   ⟨["samr", "samaritan"], "daUbTDO"⟩,
   ⟨["sarb", "oldsoutharabian"], "dwwUbF"⟩,
   ⟨["saur", "saurashtra"], "clvCcRJL"⟩,
   ⟨["sgnw", "signwriting"], "gwtKzBQECO"⟩,
   ⟨["shaw", "shavian"], "dupCbV"⟩,
   ⟨["shrd", "sharada"], "dzoYdR"⟩,
   ⟨["sidd", "siddham"], "ebcIcBDbL"⟩,
   ⟨["sind", "khudawadi"], "eaaQcGGJ"⟩,
   ⟨["sinh", "sinhala"], "fcZCCREXCICADGEAFFCACHHJDCdulHT"⟩,
   ⟨["sogd", "sogdian"], "dysEbP"⟩,
   ⟨["sogo", "oldsogdian"], "dyqIbN"⟩,
   ⟨["sora", "sorasompeng"], "dziEYIJ"⟩,
   ⟨["soyo", "soyombo"], "ecxSdE"⟩,
   ⟨["sund", "sundanese"], "kkUcLjXH"⟩,
   ⟨["sunu", "sunuwar"], "edlWbHPJ"⟩,
   ⟨["sylo", "sylotinagri"], "clqEbS"⟩,
   ⟨["syrc", "syriac"], "cqYNCcHDCkNK"⟩,
   ⟨["tagb", "tagbanwa"], "iwEMCCCB"⟩,
   ⟨["takr", "takri"], "ebmEcFHJ"⟩,
   ⟨["tale", "taile"], "jpGbDDE"⟩,
   ⟨["talu", "newtailue"], "jrCbRFZHKEB"⟩,
   ⟨["taml", "tamil"], "ejIBCFECCDEBCACBEBECELFEECCDDAHAPUealIbXOA"⟩,
   ⟨["tang", "tangut"], "fjiEAbGjbZJbdNtTI"⟩,
   ⟨["tavt", "taiviet"], "cmoUcOZE"⟩,
   ⟨["telu", "telugu"], "eoEMCCCWCPDICCCDIBCCDADDDJII"⟩,
   ⟨["tfng", "tifinagh"], "rcYcDIBPA"⟩,
   ⟨["tglg", "tagalog"], "isMVKA"⟩,
   ⟨["thaa", "thaana"], "cvWbX"⟩,
   ⟨["thai"], "fhXcFGbB"⟩,
   ⟨["tibt", "tibetan"], "frScTCbJFbMCbJCOCGFB"⟩,
   ⟨["tirh", "tirhuta"], "easMcTJJ"⟩,
   ⟨["tnsa", "tangsa"], "fhgQdACJ"⟩,
   ⟨["todr", "todhri"], "dvdGbZ"⟩,
   ⟨["toto"], "hatKbE"⟩,
   ⟨["tutg", "tulutigalari"], "eaiQJCADACbLCJCADACDCJCBJB"⟩,
   ⟨["ugar", "ugaritic"], "duhCbDCA"⟩,
   ⟨["vaii", "vai"], "ckmQlN"⟩,
   ⟨["vith", "vithkuqi"], "dvaEKCOCGCBCKCOCGCB"⟩,
   ⟨["wara", "warangciti"], "echCdENA"⟩,
   ⟨["wcho", "wancho"], "havGcFGA"⟩,
   ⟨["xpeo", "oldpersian"], "duiIbJFN"⟩,
   ⟨["xsux", "cuneiform"], "efbSbjLdZeGCEMhN"⟩,
   ⟨["yezi", "yezidi"], "dylKbPCCDB"⟩,
   ⟨["yiii", "yi"], "cipKbsUEcC"⟩,
   ⟨["zanb", "zanabazarsquare"], "ecuQcT"⟩,
   ⟨["zinh", "inherited", "qaai"], String.join
     ["bdOeHkSBrLKbBAbcJDgoYbEtUCCMCGFAHAEBhRcLuFBhNbGftYDeEBczuKPRNblOAiTAgfBActcVbTDWuZCSHDGb",
      "FDbtlhJjF"]⟩,
   ⟨["zyyy", "common"], String.join
     ["AcMbBFbBbUCOCEYAbGArIbMGEDTeNAKAHACAyOAHAPAEAbHAgBAtXAfABbvUApQDlFAcgMCcUBhWBCAbvIAOAIDC",
      "FCCDAbdULDdICKEKCOSbGcMbLCCDFCbACQbQCFzPXKWbjRjXyDDbFCeAtTdPpNUCACYQHFDdOBEAdNBfSPbHbLKA",
      "bXcLbGdCbWAdLgLjtPcLbhsJbHdZCgKJjLAgFApGAPBbezRBiBJXbICSCDfSACbFbBFbBKLAbUBcNGCGLEjZCFbS",
      "EIdDMcAbSiVbAcshXDfvHjPHqTgBeLcJjLLbMDcJEQJBIbDFcIiGTNTNdIKYfGdGCcSCBDADBDDCLCACGCcMCDDH",
      "CGCbBCDCECAEGCnBDlFDbXhtIcPcZcIbbFbRFdVNODOCOCbKLgRcFZCBObRFIIBPFfZblVFQEMEeOFdQHLFAQLFc",
      "DJJHbNJbDDLFBcLnBNNDMEJGcDIODKHIIfQCdXbsuxCAbFdR"]⟩]

/-- The scripts of which other characters are used too, or of which some are shared, with all
characters that each uses. -/
def scriptExtensions : List NamedSet :=
  [⟨["adlm", "adlam"], "ciHAbHAjwPAfhIAglrJcXFJFB"⟩,
   ⟨["aghb", "caucasianalbanian"], "bdSAbTAbTAdtqObZMA"⟩,
   ⟨["arab", "arabic"], String.join
     ["chCECiGCbHdDbVjHbECBGcWCbCivOAfhIAczrBeKRrCDcBIAbHPeJECfEbmIbBeiFbEcQCcEDdglTDCbACBCADAC",
      "JCDCACAHAFACACACCCBCADACACACACACBCADDCGCDCDCACJCQGCCECQcBB"]⟩,
   ⟨["armn", "armenian"], "bdWAvHbLDbXDCdozKE"⟩,
   ⟨["avst", "avestan"], "hBArfTBdfqDcBEG"⟩,
   ⟨["beng", "bengali"], "baYAcmVBSBbBDCHDBDVCGCAEDDIDBDDJAFBCEDYhdIACADBCAJAJADAFADCcbaGA"⟩,
   ⟨["bopo", "bopomofo"], "bbJACCOARBrbYCFJCMLDDAHAhOAKbQeJbFczlUBkXE"⟩,
   ⟨["bugi", "buginese"], "jwAbBDBcckUA"⟩,
   ⟨["buhd", "buhid"], "iuNBKT"⟩,
   ⟨["cakm", "chakma"], "dtMJckFJdtfRcACR"⟩,
   ⟨["cari", "carian"], "hBAlzNADAfgEAdclRbW"⟩,
   ⟨["cher", "cherokee"], "bdOCCAHBXBMBgfVdHDFcfjFdB"⟩,
   ⟨["copt", "coptic", "qaac"], "hBAwNAEBCAeFBeFNpjLeLGGkUAdcpDbB"⟩,
   ⟨["cpmn", "cyprominoan"], "dtiMBrqLdU"⟩,
   ⟨["cprt", "cypriot"], "dtiMCFbSEIcoNFDACbRCBEADA"⟩,
   ⟨["cyrl", "cyrillic"], "baYAcQCCACACADAGAjFlRivPKgFAcZAeYAgaQbFcQAbtlLdRbheDBdhpHcJbIA"⟩,
   ⟨["deva", "devanagari"], "baYAcjSdEDbQhiFbMCBbnBAbzfSJgLbFbreNJ"⟩,
   ⟨["dogr", "dogra"], "doMLcidDJbqiPcH"⟩,
   ⟨["dupl", "duployan"], "hBAwUBCAZBqiIAfuqMeCGMEIIJDH"⟩,
   ⟨["elba", "elbasan"], "hBAwSAdtsDbN"⟩,
   ⟨["ethi", "ethiopic"], String.join
     ["beCAfrEcUCDDGCACDDbOCDDbGCDDGCACDDOCcECDDcODbFEZjvBWKGCGCGCGCGCGCGCGbvkDFDFDFKGCGepyGGCD",
      "CBCO"]⟩,
   ⟨["gara", "garay"], "chOAPAEAdvqVbLEbCJB"⟩,
   ⟨["geor", "georgian"], "hBAbvMAefFbLCAGADbVejXbQDCbjNAeuObLCAGAkAA"⟩,
   ⟨["glag", "glagolitic"], "hBAwQACAoTADAjYAeiSAfvJAekSdRsQAbtnGAeotLGCQDGCBCE"⟩,
   ⟨["gong", "gunjalagondi"], "hBAdhLBeanJFCBCbKCBCFIJ"⟩,
   ⟨["gonm", "masaramgondi"], "doMBeajRGCBCbREACBCIJJ"⟩,
   ⟨["goth", "gothic"], "hBAwRBDAbPAdsyPbA"⟩,
   ⟨["gran", "grantha"], "dnTBSByRNgkBACBbFCEBbnBAdnrKDCHDBDVCGCBCECJDBDCDAHAGGDGEEerSBCA"⟩,
   ⟨["grek", "greek"], String.join
     ["hBAwNBDACACALAbVADAbRHDDCAFACACCCACTCcKPPjnREbZEFEdHCmHVDFDbLDFDHCACACACbEDcACOCNDFCSDCC",
      "IdRAhTAcajFAbgnJdASAdaxScR"]⟩,
   ⟨["gujr", "gujarati"], "dnTBSBkYCCICCCVCGCBCEDJCCCCDAQDDLIGchnTJ"⟩,
   ⟨["gukh", "gurungkhema"], "doNAfadFcF"⟩,
   ⟨["guru", "gurmukhi"], "dnTBSBgACCFFBDVCGCBCBCBDACEFBDCEAIDCAIQchtAJ"⟩,
   ⟨["hang", "hangul"], "glKjVljMCFJCMPCHAhOAcCdPeKbEcObEbtaObCyUqnRNWFbWonABkXEcHbEEFDFDFDC"⟩,
   ⟨["hani", "han"], String.join
     ["hBAriVZCdKNiFbBPCCCMCMCMDAHIhGAfTPbHbLKAbXbNcFbWQLcAAdLYLEdTbECjtNcNbfbJcqZHbfbDoBDeBbhS",
      "BkXEbqpPBNBblrBRlrZBfeTclfBbHgdTHiNDinPPlbKQxXdqXuVcfZhhYGgfF"]⟩,
   ⟨["hano", "hanunoo"], "itSW"⟩,
   ⟨["hebr", "hebrew"], "bdVByZcCJbAFFdovXZCECACBCBCJ"⟩,
   ⟨["hira", "hiragana"], "seRCFJCMRFCAFBEdHDHdNBcztHBkXELAbUBcouSlATAbECymWA"⟩,
   ⟨["hung", "oldhungarian"], "mgOADAfgEAQAdgeHbYObYIF"⟩,
   ⟨["java", "javanese"], "cmeYcZCKFB"⟩,
   ⟨["kali", "kayahli"], "cmaAbV"⟩,
   ⟨["kana", "katakana"], "bdTAbEAqzUCFJCMRFCAFBdODEdRjHPiBbUCdJcywCBkXcKcouBDCGCBCAlCCbZAPD"⟩,
   ⟨["khoj", "khojki"], "edIJchoJJbobNRCbU"⟩,
   ⟨["knda", "kannada"], "dnTBSBbePMCCCWCJCEDICCCDIBHBCDDJCCgaFACBHAYACAcasYF"⟩,
   ⟨["kthi", "kaithi"], "doOJnxYAbufFJbnmTcOLA"⟩,
   ⟨["latn", "latin"], String.join
     ["cNZHZbWANADAGWCbECrGEALACCCAKACAHEbCOCBCAQCIBCBbNAGAFMkSBbvFBcxLAeoJbLHbWGDGMCcRcGAIjVlS",
      "AcOAOARMdGAcGBHAbCASbOecUbFpSAbtuNHbBdXEcODBCACHWNlRAtUbQCICDbedRGboLZHZdcGFCbPCIddnQbEH",
      "F"]⟩,
   ⟨["limb", "limbu"], "doNAfxRbECLFLFAEL"⟩,
   ⟨["lina", "lineara"], "dtiTbSbvHlYKVLH"⟩,
   ⟨["linb", "linearb"], "dsyQLCZCSCBCODNbJeSGCFbSEI"⟩,
   ⟨["lisu"], "baYARArdLBbsfTbVbumBA"⟩,
   ⟨["lyci", "lycian"], "mgOAdhqSbC"⟩,
   ⟨["lydi", "lydian"], "hBArfUAdexRZGA"⟩,
   ⟨["mahj", "mahajani"], "hBAdhLLcidDJbnuTbM"⟩,
   ⟨["mand", "mandaic"], "cjOAtSbBDA"⟩,
   ⟨["mani", "manichaean"], "cjOAduqYbMFL"⟩,
   ⟨["mero", "meroitichieroglyphs"], "mgRAdkhNbF"⟩,
   ⟨["mlym", "malayalam"], "dnTBSBbjNMCCCbYCCCFFPDZfvFAYAcatAC"⟩,
   ⟨["modi"], "clsAJbpoXcQMJ"⟩,
   ⟨["mong", "mongolian"], "jcIZHdKIbQcwBAfzUBGDdjfXM"⟩,
   ⟨["mult", "multani"], "dyKJdwaBGCACDCOCK"⟩,
   ⟨["mymr", "myanmar"], "gbOgDcfuDAgWbEdUbFbpaNT"⟩,
   ⟨["nand", "nandinagari"], "dnTATBbiNJgbIAJAIAcasSFbqyTHDbTDK"⟩,
   ⟨["newa"], "dnTBhkDACBKAHACACAdpoTdNCE"⟩,
   ⟨["nkoo", "nko"], "chOAPAEAqBcGDCdowTB"⟩,
   ⟨["onao", "olonal"], "doMBgykXbQFA"⟩,
   ⟨["orkh", "oldturkic"], "mgOAfgGAdgaAcU"⟩,
   ⟨["orya", "oriya"], "dnTBSBpWCCHDBDVCGCBCEDIDBDCICFBCEDRgpFAYA"⟩,
   ⟨["osge", "osage"], "bdPADAHAcZAdtlWbJFbJ"⟩,
   ⟨["ougr", "olduyghur"], "cjOAdusWAbsGZ"⟩,
   ⟨["perm", "oldpermic"], "hBAwNAGCLAoEAdsmVbQ"⟩,
   ⟨["phag", "phagspa"], "jcKBCAdcKAfzVAbtnYcD"⟩,
   ⟨["phlp", "psalterpahlavi"], "cjOAduyIRIDNG"⟩,
   ⟨["rohg", "hanifirohingya"], "chOAPAEAbHAfSAdvhKbNJJ"⟩,
   ⟨["runr", "runic"], "ioUdK"⟩,
   ⟨["samr", "samaritan"], "daUbTDOojRA"⟩,
   ⟨["shaw", "shavian"], "hBAduiBbV"⟩,
   ⟨["shrd", "sharada"], "dnTAhkGACADBDAKADAcatFFDAbnwQdR"⟩,
   ⟨["sind", "khudawadi"], "doMBcidNJboiHcGGJ"⟩,
   ⟨["sinh", "sinhala"], "doMBboMCCREXCICADGEAFFCACHHJDCfrQAdotRT"⟩,
   ⟨["sogd", "sogdian"], "cjOAdwiQbP"⟩,
   ⟨["sunu", "sunuwar"], "bdOBCAKADAbDAEAecgLbHPJ"⟩,
   ⟨["sylo", "sylotinagri"], "doMBeZJchwJbS"⟩,
   ⟨["syrc", "syriac"], "bdRBDBCAZCIBCBbcDAPBDAbHALKbBAfONCcHDCkNKieGACA"⟩,
   ⟨["tagb", "tagbanwa"], "iuNBbQMCCCB"⟩,
   ⟨["takr", "takri"], "doMBcidNJbptVcFHJ"⟩,
   ⟨["tale", "taile"], "bdOBGBEAfaAJdkXbDDE"⟩,
   ⟨["taml", "tamil"], "dnTBSBuVBCFECCDEBCACBEBECELFEECCDDAHAPUgkEAcbbLAboeGACAcEBetGbXOA"⟩,
   ⟨["tang", "tangut"], "seAPtCAeqkNAbGjbZJbdNtTI"⟩,
   ⟨["telu", "telugu"], "dnTBSBzRMCCCWCPDICCCDIBCCDADDDJIIgeWBCACAYA"⟩,
   ⟨["tfng", "tifinagh"], "bdQACACDbAApyBcDIBPA"⟩,
   ⟨["tglg", "tagalog"], "isMVKAWB"⟩,
   ⟨["thaa", "thaana"], "chOAPBDAcNJkTbXdpgRALA"⟩,
   ⟨["thai"], "baYAbBAbSAbUAecMcFGbB"⟩,
   ⟨["tibt", "tibetan"], "frScTCbJFbMCbJCOCGFBmeWD"⟩,
   ⟨["tirh", "tirhuta"], "dnTBSBhjKANAQAcatAJbpaDcTJJ"⟩,
   ⟨["todr", "todhri"], "bdPADADAKACAcXAdtwCbZ"⟩,
   ⟨["toto"], "baYAgzsMbE"⟩,
   ⟨["tutg", "tulutigalari"], "exAJgbRACAcasYFhGAbojFJCADACbLCJCADACDCJCBJB"⟩,
   ⟨["yezi", "yezidi"], "chOAPAEAcNJdwaHbPCCDB"⟩,
   ⟨["yiii", "yi"], "seRBGJDHiQAbqbDbsUEcCbiiDE"⟩,
   ⟨["zinh", "inherited", "qaai"],
     "beDADACOEGDADPCBCRCECDcgNBgoYbEbdCcBCACEuFBhNbFdfsRPRNblOAczqPbTDWuZCSHDGbFDbtlhJjF"⟩,
   ⟨["zyyy", "common"], String.join
     ["AcMbBFbBbUCLCBCEYAbGArICCJCAEACICACFGEDTeXAHACAyOAiIAtXAcaVApQDgdCLDbGCbECJCBCGCKEKCOSbG",
      "cMbLCCDFCbACQbQCFzPXKWbjRjXyDDbFCeAtTWCXDJCDCACZqDAEAOAOAWAuKXbGAbYONDgGJGdRbGAjtPcLbhsR",
      "ZdZCblPAPBbfhTJXUDLCSCDfSACbFbBFbBFeYGCGLEpNMcAbScynCjPHqTgBeLcJjLLbMDcJEQJBIbDFcIiGTNTN",
      "dIbCGfGdGCcSCBDADBDDCLCACGCcMCDDHCGCbBCDCECAEGCnBDlFDbXhtIcPcZcIbbFbRFdVNODOCOCbKLgRcFZC",
      "BObRFIYFfZblVFQEMEeOFdQHLFAQLFcDJJHbNJbDDLFBcLnBNNDMEJGcDIODKHIIfQCdXbsuxCAbFdR"]⟩]

/-- The characters that belong to a script. -/
def script? (name : String) : Option CharSet := findNamed scripts name

/-- The characters that a script uses. -/
def scriptExtension? (name : String) : Option CharSet :=
  (findNamed scriptExtensions name).or (script? name)

end GoldenTree.Unicode
