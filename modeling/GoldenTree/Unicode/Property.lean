import GoldenTree.Unicode.Category

/-! Properties that a character has or has not, as of version 16.0 of Unicode. Some are unions of
categories and others and have no table of their own. -/
namespace GoldenTree.Unicode

open Text

/-- The properties that no other determines. -/
def storedProperties : List NamedSet :=
  [⟨["ahex", "asciihexdigit"], "bWJIFbBF"⟩,
   ⟨["bidic", "bidicontrol"], "ciEAjvMBbBEcED"⟩,
   ⟨["bidim", "bidimirrored"], String.join
     ["bOBTACAbDACAbEACAbUAQAfmTDcuOBdqRBLBcDBPBgWAhLDEFEAEBEDCDCACAFIGACRGDKBCACHCbFDDGAKBDSGB",
      "KEDBFXDPJDVBIBbpUNcXADDCBCCGDGCENpOVDFCNJAIFEAFECBDEFACCDBLFDBNSCDDACADACDGBHCZBMBFDCBDB",
      "FbQDHCbNGACAEEGCFAEECAjXAtWDEBCBPBDJbSHqMJDHdacSFGBgHBTACAbDACAbEACACBCBddpOAcGAcGAcGAcG",
      "A"]⟩,
   ⟨["cwcf", "changeswhencasefolded"], String.join
     ["cNZdNALWCHbHACACACACACACACACACACACACACACACACACACACACACACACACACACACADACACACACACACACACBCAC",
      "ACACACACACACACACACACACACACACACACACACACACACBCACACACBCACBCCDDCBCCEBCBCACACBCADACBCCCACBEAI",
      "BCBCBCACACACACACACACADACACACACACACACACADBCACCCACACACACACACACACACACACACACACACACACACACACAC",
      "ACACACACACACACAIBCBDACDCACACACAjNAbRACAEAJAHACCCACBCQCIXANCEBCACACACACACACACACACACACACBD",
      "BCACBDbYbXACACACACACACACACACACACACACACACACAKACACACACACACACACACACACACACACACACACACACACACAC",
      "ACACACACACBCACACACACACADACACACACACACACACACACACACACACACACACACACACACACACACACACACACACACACAC",
      "ACACACACACACACACACACACACACACACADbLbXAefHbLCAGAbfFFdfVJHbQDCmJACACACACACACACACACACACACACA",
      "CACACACACACACACACACACACACACACACACACACACACACACACACACACACACACACACACACACACACACACACACACACACA",
      "CACACACACACACACACACACACACACACACACAGBDACACACACACACACACACACACACACACACACACACACACACACACACACA",
      "CACACACACACACACACACACACACACACACACACACACACACACAKHJFLHJHJFMACACACAJHRbVDCDFGCDFMDNEGCDFlMA",
      "EBHAbUPUAbfNZcsVbVbXACCDACACACDCADAJCCACACACACACACACACACACACACACACACACACACACACACACACACAC",
      "ACACACACACACACACACACACACACACACACACACACACACACACAJACAFAbtyKACACACACACACACACACACACACACACACA",
      "CACACACACACACAUACACACACACACACACACACACACACAfGACACACACACACAEACACACACACACACACACACACACACACAC",
      "ACACACACACACACACACACACACACACACALACACBCACACACAFACADACAEACACACACACACACACACACECECACACACACAC",
      "ACACDCACBEAGACACACAZAbiHdBbeaJGNEbnUZbvAbNfHbJgBKCOCGCBcqDbYgCVegPbFbgjXbFbulLbH"]⟩,
   ⟨["cwl", "changeswhenlowercased"], String.join
     ["cNZdYWCGbIACACACACACACACACACACACACACACACACACACACACACACACACACACACADACACACACACACACADACACAC",
      "ACACACACACACACACACACACACACACACACACACACACBCACAEBCACBCCDDCBCCEBCBCACACBCADACBCCCACBEAIBCBC",
      "BCACACACACACACACADACACACACACACACACADBCACCCACACACACACACACACACACACACACACACACACACACACACACAC",
      "ACACACACACAIBCBDACDCACACACAlEACAEAJAHACCCACBCQCIbKAJACACACACACACACACACACACAGADACBDbYbXAC",
      "ACACACACACACACACACACACACACACACAKACACACACACACACACACACACACACACACACACACACACACACACACACACACBC",
      "ACACACACACADACACACACACACACACACACACACACACACACACACACACACACACACACACACACACACACACACACACACACAC",
      "ACACACACACACACACACADbLehEbLCAGAbbVdHdgMAHbQDCmJACACACACACACACACACACACACACACACACACACACACA",
      "CACACACACACACACACACACACACACACACACACACACACACACACACACACACACACACACACACACACACACACACACACACACA",
      "CACACACACACACACACACAKACACACACACACACACACACACACACACACACACACACACACACACACACACACACACACACACACA",
      "CACACACACACACACACACACACACACACAKHJFLHJHJFMACACACAJHZHJHJHJEMEMDNEMElMAEBHAbUPUAbfNZcsVbVb",
      "XACCDACACACDCADAJCCACACACACACACACACACACACACACACACACACACACACACACACACACACACACACACACACACACA",
      "CACACACACACACACACACACACACACAJACAFAbtyKACACACACACACACACACACACACACACACACACACACACACACAUACAC",
      "ACACACACACACACACACACACAfGACACACACACACAEACACACACACACACACACACACACACACACACACACACACACACACACA",
      "CACACACACACALACACBCACACACAFACADACAEACACACACACACACACACACECECACACACACACACACDCACBEAGACACACA",
      "ZAbhaIZbvAbNfHbJgBKCOCGCBcqDbYgCVegPbFbgjXbFbulLbH"]⟩,
   ⟨["cwt", "changeswhentitlecased"], String.join
     ["dTZcHAbQXCHCACACACACACACACACACACACACACACACACACACACACACACACACACACACADACACACACACACACBCACAC",
      "ACACACACACACACACACACACACACACACACACACACACADACACCDACADAEAGADAECDADACACADAFADAEACADAEACAFAC",
      "BCBCACACACACACACACACBCACACACACACACACACCCACAEACACACACACACACACACACACACACACACACACACACAEACAC",
      "ACACACACACACAJADBCAFACACACACFCBCACBEBCDCEDACBDAIADACBEFGALBgLAbSACAEAECTAbCbICBECCACACAC",
      "ACACACACACACACACECADADAcBbVCACACACACACACACACACACACACACACACACAKACACACACACACACACACACACACAC",
      "ACACACACACACACACACACACACACADACACACACACACBCACACACACACACACACACACACACACACACACACACACACACACAC",
      "ACACACACACACACACACACACACACACACACACACACACACACACACAbYbMfmFFdfVICAjFAEARAeLACACACACACACACAC",
      "ACACACACACACACACACACACACACACACACACACACACACACACACACACACACACACACACACACACACACACACACACACACAC",
      "ACACACACACACACACACACACACACACACACACACACACACACGGACACACACACACACACACACACACACACACACACACACACAC",
      "ACACACACACACACACACACACACACACACACACACACACACACACACACACIJFLHJHJFLHJHJNDHJHJHJECBHAECCBJDDBJ",
      "HLCCBnFAbIPFAbgMZctRbVCAEBCACACAHADALACACACACACACACACACACACACACACACACACACACACACACACACACA",
      "CACACACACACACACACACACACACACACACACACACACACACACACAJACAFANbLCAGAbtwEACACACACACACACACACACACA",
      "CACACACACACACACACACACAUACACACACACACACACACACACACACAfGACACACACACACAEACACACACACACACACACACAC",
      "ACACACACACACACACACACACACACACACACACACACALACADACACACACAFAFACBDACACACACACACACACACAMACACACAC",
      "ACACACAFACADAEAGACACAbBAbhDAbDdBbeaJGNEbpAZbvIbNfHbJgAKCOCGCBcrCbYeWVegPbFbgjXbFbulNbH"]⟩,
   ⟨["cwu", "changeswhenuppercased"], String.join
     ["dTZcHAbQXCHCACACACACACACACACACACACACACACACACACACACACACACACACACACACADACACACACACACACBCACAC",
      "ACACACACACACACACACACACACACACACACACACACACADACACCDACADAEAGADAECDADACACADAFADAEACADAEACAGBC",
      "BCBCACACACACACACACBCACACACACACACACACBCBCAEACACACACACACACACACACACACACACACACACACACAEACACAC",
      "ACACACACACAJADBCAFACACACACFCBCACBEBCDCEDACBDAIADACBEFGALBgLAbSACAEAECTAbCbICBECCACACACAC",
      "ACACACACACACACECADADAcBbVCACACACACACACACACACACACACACACACACAKACACACACACACACACACACACACACAC",
      "ACACACACACACACACACACACACADACACACACACACBCACACACACACACACACACACACACACACACACACACACACACACACAC",
      "ACACACACACACACACACACACACACACACACACACACACACACACAbYbMehDbQDCbdHFdfVICAjFAEARAeLACACACACACA",
      "CACACACACACACACACACACACACACACACACACACACACACACACACACACACACACACACACACACACACACACACACACACACA",
      "CACACACACACACACACACACACACACACACACACACACACACACACACGGACACACACACACACACACACACACACACACACACACA",
      "CACACACACACACACACACACACACACACACACACACACACACACACACACACACACIJFLHJHJFLHJHJNDcACBFACAECCBFAE",
      "DDBJHLCCBFAnAAbIPFAbgMZctRbVCAEBCACACAHADALACACACACACACACACACACACACACACACACACACACACACACA",
      "CACACACACACACACACACACACACACACACACACACACACACACACACACACAJACAFANbLCAGAbtwEACACACACACACACACA",
      "CACACACACACACACACACACACACACAUACACACACACACACACACACACACACAfGACACACACACACAEACACACACACACACAC",
      "ACACACACACACACACACACACACACACACACACACACACACACALACADACACACACAFAFACBDACACACACACACACACACAMAC",
      "ACACACACACACAFACADAEAGACACAbBAbhDAbDdBbeaJGNEbpAZbvIbNfHbJgAKCOCGCBcrCbYeWVegPbFbgjXbFbu",
      "lNbH"]⟩,
   ⟨["dash"], "bTAcaVAcAAfkKAbnQAdbEFcKAbOAQApBAeoJADAbGBFAbDArFAUAeIAczwBBbMALAgOAflPAmHA"⟩,
   ⟨["dep", "deprecated"], "mRAbyWAdkUACAdcKBdiKFbaWBbzryLA"⟩,
   ⟨["dia", "diacritic"], String.join
     ["dQACAcUAHAFADBtKgCCHGFSBFAKBjUEiCAcEbSCACBCBCAfCHFBfFBFBECcQbAdOKcHKbJBeXHbQJRbBcKARAEDb",
      "DAcXARAeHARAeHARAbWCcJARAIAeQAeHARAeHARAeGBRAeVAeIANFCAeEAOEcYBbCACACAFBcPCCBcLAeJACBbPB",
      "FEbAGCALBbbECbkNBbFAfTKKAnKClHAVHDAbXODKeBAQAbNIcDBcHAMBcPBcNFdFYFAHADCbZcKbXbJGLbMKrEAC",
      "CMCOCOCOBexLCmGAtNFeCDdSAbsmLANBCAbDBdFBPbHdZCeGBNAbMAfWAbCRcGDbLAdSANAbLAfUCcODcAAdXEKC",
      "eZBbdzTAbdQPkLACAbWAbUBcQAbdLAbtOFCbPCIyOCFAgKBwAFbNAbBEpKCcTKbYDhLAbQAcVBeRBcLAcZAKCeBB",
      "gXBdDBRAZGEEdMCCBOBdSAEAeUBjSBeXAePBeMAkKBjZBFAgBAdGATAdEAqGAjZACBdEAqKBYAhyBOqzQAdsBEcI",
      "GvTBvBQdDBygDDCGCBltIbTDWuZCEFJHDGbFDfmXcJhNGoMAcKDbdNBbcJGeGCCC"]⟩,
   ⟨["emoji"], String.join
     ["bJAHAGJeIAFAlySANAiJAXAdNFQBoEBNAgLAbAKFChSAiYBLAKAcHDCEKADADBDAFADACBDAEAEBJCGACAGLMBDA",
      "CBCATADBTFCACBEBGADBFBMBGBDAGBCACBVBGFCDDAFADADFCADACACAHAEAHALBQADAFACAFCCAMBbXCKAPAPAo",
      "JBrWCUBcAAFAbvVANAxEACAgmrRAhVAgFBNBPADJcYZCBYAVADIWBgTbHDeHDBCCDdEDCCkCCcKMFCXIBDHNADDD",
      "AFBOBDAJBKAGCNCJCDACAFAHAEAHdHbXcRGHDCFJEACBEADJiULFAkYbUCJChCeJMEJGcDIODKHI"]⟩,
   ⟨["ecomp", "emojicomponent"], "bJAHAGJmbKAiGAdftSAdoiXZtOEceBDbsvuRdR"⟩,
   ⟨["emod", "emojimodifier"], "hhiXE"⟩,
   ⟨["ebase", "emojimodifierbase"], String.join
     ["olHAiMARDgsjWAcJCDADCeOBDKWSEAFCCCIACAZAhUBFAWAFBgTCEEdGARCKAMAwEADAJHHAKJDCcFAcKBCBCASC",
      "CMiWCbRI"]⟩,
   ⟨["epres", "emojipresentation"], String.join
     ["nhQBhYDEADAuCBWBbZLbSAUAOAJBSBGBJAGAWAIBCAFADAIAFBbDAbKACAFCCAcKCZAPAbhCBcAAFAgplFAhVAhJ",
      "ADJcYZCAZAVADECCWBgTbGNICcRCVNbQFENQEAEcSCAChEDcKODCXTAbBBOAdJdGbXcRHAECDCFDMBIIiULFAkYb",
      "UCJChCeJMEJGcDIODKHI"]⟩,
   ⟨["extpict", "extendedpictographic"], String.join
     ["gNAFAlySANAiJAXAdNFQBoEBNAdSAcTAbAKFChSAiYBLAKAcHDCFCLCeJLeNDKCACAHAEAHALBQADAFACAFCCAME",
      "bUCKAPAPAoJBrWCUBcAAFAbvVANAxEACAgmrNjVOCbGAcJFNBPADJTcEbCOLAVADICDKqRGmFJkFbXeXeNLdIbQN",
      "DcFHLFbPHbFdDNbUCJCqYjXbnH"]⟩,
   ⟨["ext", "extender"], String.join
     ["hBAuRBbhVArAAyHAfIAdMAbcZAeYAdnGAcFAxOApJAcRAhkKAbSEeABdQCbqbVAcgTAblBAXAfIAeFAWBbfzWAdb",
      "LBcfCAbCAFAbvCAlIAeNBtFCbvKAbeoGBbtLBCAbqyBBbuGAbgVC"]⟩,
   ⟨["grlink", "graphemelink"], String.join
     ["dnPAeYAeYAeYAeYAeYAeYAeYAeGBRAeVAeIAeYAhUAgZBcpMBbFAgCAzEAiUAdYBcTBgqUAbukLAbMAfWAfNAeFA",
      "lYAjNAbjsSAchJAbQAPAcGAeSBfKAeNAgZAdVAeZCeKAeYAjTAeYAePAeNAkKAkABgGAdGATAdEAqGAkBBdEAqKB",
      "yzDA"]⟩,
   ⟨["hex", "hexdigit"], "bWJIFbBFdslMJIFbBF"⟩,
   ⟨["hyphen"], "bTAeYAbvXAhaAAdbEBfiCAbcMAczuMAgOAdKA"⟩,
   ⟨["idsb", "idsbinaryoperator"], "seABDJtEA"⟩,
   ⟨["idst", "idstrinaryoperator"], "seCB"⟩,
   ⟨["idsu", "idsunaryoperator"], "seOB"⟩,
   ⟨["idcompatmathcontinue"], "gWBGAmaHAEKCOoIAFAXAgjjFAbAAbGAbAAbGAbAAbGAbAAbGAbAA"⟩,
   ⟨["idcompatmathstart"], "mwWAFAXAgjjFAbAAbGAbAAbGAbAAbGAbAAbGAbAA"⟩,
   ⟨["ideo", "ideographic"], String.join
     ["seWBbAIPCblEjtNcNbfbJbhsJoBDeBbsiLAbCjbZJbvPbQJnuMpFbdeJclfBbHgdTHiNDinPPlbKQxXdqXuVcfZh",
      "hYGgfF"]⟩,
   ⟨["joinc", "joincontrol"], "mdOB"⟩,
   ⟨["loe", "logicalorderexception"], "fkIEeUEedTCDAccxNBDACB"⟩,
   ⟨["mcm", "modifiercombiningmark"], "ckIBDAfCAHAEBsOBCCEAbGA"⟩,
   ⟨["nchar", "noncharactercodepoint"],
     "dsdCbFuHBdsyPBdsyPBdsyPBdsyPBdsyPBdsyPBdsyPBdsyPBdsyPBdsyPBdsyPBdsyPBdsyPBdsyPBdsyPBdsyPB"⟩,
   ⟨["oalpha", "otheralphabetic"], String.join
     ["bgFAbEMwFNCACBCBCAcVKbXMCGRAdYGFDDBFAbKAbFPdZKdYBEICCCDeDAcJLEGHTcDBDOCBGCLBbECcHGDBDBLA",
      "LBbECcHEFBDBFAbFBEAMCcHHCCCBWBXCFCcHGDBDBKBLBbFAcIEECCCLAbPEcGGCCCCJBMBbECcHGCCCCJBMBQAN",
      "DcHGCCCCLALBbECcYFCACHTBcKADGTAdWADFCBRAgISKKCbJeHLCADDYDFCCCDGEDOLCALDclPBbFBbFBbFBcPSh",
      "HBbJAePLFIiPEcGJDTcXBMCbYEbXOcJCbFIDBcGKbZSpXbHcoObZdkHbFbtqBHbJBnRAJAYEdLBbZPCAcGAbNEbD",
      "LbUDbXLbMAcQNNAJBbUCbZACCDBGAbTEGAjEHbdzWAdeEEcmHCCBGDbeJDcOAmKBdCAkACcCNbUBMCbUIKAcKCbL",
      "LTBcGCbXMPBdPIDAHADAgCJYDcHGDBDBLALBdHICADACDCBeAMCCeDRjEGDGbEBdFOCAeDKeANjYMjOFCBDBEACA",
      "fNGDFFAbDJbRECDTKbVNpSHCGdGVCNeTFEACBCCCAEAcPECBCDnLDKBCAbXGECyyOQfjDACcCIDdQBbdaZAnkKGC",
      "QDGCBCEdXAdhWAczXZHZHZ"]⟩,
   ⟨["odi", "otherdefaultignorablecodepoint"], "bgPAfiMBckIBdhOAglJAdacQAdCIbwmiIACbDdTeXjHfiL"⟩,
   ⟨["ogrext", "othergraphemeextend"], String.join
     ["drYAZAnVAZAdZAZAiZACAFBCBKBeAAZAeQAQAdmSAbFAbnLAGACAGBdYAcUBboJAgcWBbtwUAeFAbgnMBgwNAeNA",
      "kFAPAKAdTAKADACCGAiRANAjIAkDAyKANAchGAbeoLBbkxOBHFbtlbAdR"]⟩,
   ⟨["oidc", "otheridcontinue"], "hBAbbSAgaKIclDAcjABgkSAdaeKA"⟩,
   ⟨["oids", "otheridstart"], "jhLBdgKAWAfvXB"⟩,
   ⟨["olower", "otherlowercase"], String.join
     ["gOAQAtIIIBbFEdTAcBAfdAAeqAcKOAbJbKbaOAOARMiEPbgRZcwPBbugLBiDAfACEBbhJDKAbiwTADCCbPCIddzI",
      "cJ"]⟩,
   ⟨["omath", "othermath"], String.join
     ["dQAbhYCDAbBBDBkqZAbCCMAbHDZBPBcOMFAEBFETAFADJCAEEHAEBDBCCCFEDGEcYEDDCBCBCACEDBFBFRDBCACG",
      "CAHBlFDgNBCAZASArEBNIGEGBDBEEPACADFZBcGACAbEDKBnFBbGJpOVcMDbHBdclGACAFAiEACAdcoWdGCcSCBD",
      "ADBDDCLCACGCcMCDDHCGCbBCDCECAEGCnBDYCYCbECYCbECYCbECYCbECYCHDbXiiRDCbACBCADACJCDCACAHAFA",
      "CACACCCBCADACACACACACBCADDCGCDCDCACJCQGCCECQ"]⟩,
   ⟨["oupper", "otheruppercase"], "mqQPbgHZgsiZZHZHZ"⟩,
   ⟨["patsyn", "patternsyntax"],
     "bHOLGbBDCAbBDbJGCACBCACBFAFAEAYAbGAluFXJODSCJlUbbRgFyFbFbrNtTeXoWCFYQAczrABkCB"⟩,
   ⟨["patws", "patternwhitespace"], "JETAdXAlyNBZB"⟩,
   ⟨["pcm", "prependedconcatenationmark"], "chCFiIAbYAoVBdDAdvxZAQA"⟩,
   ⟨["qmark", "quotationmark"], "bIAFAfCAQAlwVHbABfiEArQDOCdabQDhIAFAdNB"⟩,
   ⟨["radical"], "rpWZCdKNiF"⟩,
   ⟨["ri", "regionalindicator"], "hgoKZ"⟩,
   ⟨["sterm", "sentenceterminal"], String.join
     ["bHANARAcaCAfSCgZAbSCjNAcKACAEBlIBcpXBbeLAFBbdUAhRBgCBbUAGAmDBnRDgHBLBDBbEChGBcOBbjXAYBKC",
      "euYClVAOAXBqOAbshXAkLBiUAEAoTBdJBdSAfXBfSCfPBjQAbfcXADBcIAEBgOANARAcOAedXBbxEEbTDhIBeODe",
      "YCfABHARBdLBCBeFAlNBeOBoKBGOeCBjQCtYACAjSBdKBqFBbaRBcXBbcmCBfEAcOBMAvIBlLAbdoHAliNA"]⟩,
   ⟨["sd", "softdotted"], String.join
     ["eBBhPAkWAbFAcBAVAmJAdVACAjmOAcAAOAEAfDAgCAqGAiHBegHAgelIBbZBbZBbZBbZBbZBbZBbZBbZBbZBbZBb",
      "ZBbZBdfZAlUBbBA"]⟩,
   ⟨["term", "terminalpunctuation"], String.join
     ["bHALACAMBEAbfZAJAtUAcGAcVAPACCgZAbSKCAjCBcDFCHbGAkCBbwVBgRAFFmABbeKHbdUAeVCcUBgCCEAbODDB",
      "mDBnRDgHBLBCCbEChGEcLBbjXAYBKCeuYClVAOAFALACBEBqNBbshWBkKCiUEoTBdJBdSAfWCfSCeYARBjQAbfcX",
      "ADBcGCCDgOALACAMBEAcOADAbpRAbXAbsPAhSAlZBfXFcRFdMDbkREbTDhIGeJDeYCfABHARBdLEeFAlNBeOCNBn",
      "VDEOeCBjQCtYACAjSBdKBFBpZCbUAyWBcXBbyYEbanABfEAcOCLAvIBlKBbdoHAliMD"]⟩,
   ⟨["uideo", "unifiedideograph"],
     "tsAjtNcNbfbJbicTBCACBLACACBDCdveDclfBbHgdTHiNDinPPlbKQxXgrRhhYGgfF"⟩,
   ⟨["vs", "variationselector"], "jcTCCAdjcBPbwnkZjF"⟩,
   ⟨["wspace", "whitespace", "space"], "JETAdXAbBAihKAdpOKbEBGAbWAfxXA"⟩]

/-- The characters with one of some properties, given by their names. -/
def withProperties (names : List String) : CharSet :=
  CharSet.unionAll (names.filterMap (findNamed storedProperties))

def lowercase : CharSet := (inCategories ["ll"]).union (withProperties ["olower"])

def uppercase : CharSet := (inCategories ["lu"]).union (withProperties ["oupper"])

def cased : CharSet := CharSet.unionAll [lowercase, uppercase, inCategories ["lt"]]

def alphabetic : CharSet :=
  CharSet.unionAll [cased, inCategories ["lm", "lo", "nl"], withProperties ["oalpha"]]

def math : CharSet := (inCategories ["sm"]).union (withProperties ["omath"])

def graphemeExtend : CharSet := (inCategories ["mn", "me"]).union (withProperties ["ogrext"])

def graphemeBase : CharSet :=
  (CharSet.unionAll [other, inCategories ["zl", "zp"], graphemeExtend]).complement

/-- What need not show. Format characters are among it, but neither those that stand for something
by themselves nor those that begin a number or a name. -/
def defaultIgnorable : CharSet :=
  let most := (inCategories ["cf"]).union (withProperties ["odi", "vs"])
  most.difference (CharSet.unionAll
    [withProperties ["space", "pcm"], .span 0xFFF9 0xFFFB, .span 0x13430 0x1343F])

def changesWhenCasemapped : CharSet := withProperties ["cwl", "cwu", "cwt"]

/-- What is passed over when the case of a word is told: marks, format characters, modifiers and
what may stand inside a word. -/
def caseIgnorable : CharSet :=
  CharSet.unionAll [inCategories ["mn", "me", "cf", "lm", "sk"],
    CharSet.ofRanges [(0x27, 0x27), (0x2E, 0x2E), (0x3A, 0x3A), (0xB7, 0xB7), (0x387, 0x387),
      (0x55F, 0x55F), (0x5F4, 0x5F4), (0x2018, 0x2019), (0x2024, 0x2024), (0x2027, 0x2027),
      (0xFE13, 0xFE13), (0xFE52, 0xFE52), (0xFE55, 0xFE55), (0xFF07, 0xFF07), (0xFF0E, 0xFF0E),
      (0xFF1A, 0xFF1A)]]

/-- What belongs to patterns and so to no name. -/
def patternChars : CharSet := withProperties ["patsyn", "patws"]

/-- What a name may begin with. -/
def idStart : CharSet :=
  ((inCategories ["lu", "ll", "lt", "lm", "lo", "nl"]).union (withProperties ["oids"])).difference
    patternChars

/-- What a name may go on with. -/
def idContinue : CharSet :=
  (CharSet.unionAll [idStart, inCategories ["mn", "mc", "nd", "pc"], withProperties ["oidc"]]
    ).difference patternChars

/-- Characters whose compatibility forms do not go on with a name. -/
def unstableContinue : CharSet :=
  CharSet.ofRanges [(0x37A, 0x37A), (0x309B, 0x309C), (0xFC5E, 0xFC63), (0xFDFA, 0xFDFB),
    (0xFE70, 0xFE70), (0xFE72, 0xFE72), (0xFE74, 0xFE74), (0xFE76, 0xFE76), (0xFE78, 0xFE78),
    (0xFE7A, 0xFE7A), (0xFE7C, 0xFE7C), (0xFE7E, 0xFE7E)]

/-- Characters whose compatibility forms do not begin a name. -/
def unstableStart : CharSet :=
  unstableContinue.union
    (.ofRanges [(0xE33, 0xE33), (0xEB3, 0xEB3), (0xFF9E, 0xFF9F)])

def xidStart : CharSet := idStart.difference unstableStart

def xidContinue : CharSet := idContinue.difference unstableContinue

/-- The properties that others determine, under their names. -/
def derivedProperties : List (List String × CharSet) :=
  [(["lower", "lowercase"], lowercase),
   (["upper", "uppercase"], uppercase),
   (["cased"], cased),
   (["alpha", "alphabetic"], alphabetic),
   (["math"], math),
   (["grext", "graphemeextend"], graphemeExtend),
   (["grbase", "graphemebase"], graphemeBase),
   (["di", "defaultignorablecodepoint"], defaultIgnorable),
   (["cwcm", "changeswhencasemapped"], changesWhenCasemapped),
   (["ci", "caseignorable"], caseIgnorable),
   (["ids", "idstart"], idStart),
   (["idc", "idcontinue"], idContinue),
   (["xids", "xidstart"], xidStart),
   (["xidc", "xidcontinue"], xidContinue)]

def property? (name : String) : Option CharSet :=
  (findNamed storedProperties name).or
    ((derivedProperties.find? (·.1.contains name)).map (·.2))

/-- The characters that words consist of. -/
def wordChars : CharSet :=
  CharSet.unionAll [alphabetic, inCategories ["mn", "mc", "me", "nd", "pc"],
    withProperties ["joinc"]]

def decimalChars : CharSet := inCategories ["nd"]

def blankChars : CharSet := withProperties ["space"]

end GoldenTree.Unicode
