import GoldenTree.Unicode.Packed

/-! General categories, as of version 16.0 of Unicode. A category is named by its short or its long
name in simple form. -/
namespace GoldenTree.Unicode

open Text

/-- The general categories of assigned characters but not their groups. -/
def categories : List NamedSet :=
  [⟨["lu", "uppercaseletter"], String.join
     ["cNZdYWCGbIACACACACACACACACACACACACACACACACACACACACACACACACACACACADACACACACACACACADACACAC",
      "ACACACACACACACACACACACACACACACACACACACACBCACAEBCACBCCDDCBCCEBCBCACACBCADACBCCCACBEAIADAD",
      "ADACACACACACACACADACACACACACACACACADADACCCACACACACACACACACACACACACACACACACACACACACACACAC",
      "ACACACACACAIBCBDACDCACACACAlEACAEAJAHACCCACBCQCIbKADCEACACACACACACACACACACACAGADACBDbYbX",
      "ACACACACACACACACACACACACACACACACAKACACACACACACACACACACACACACACACACACACACACACACACACACACAC",
      "BCACACACACACADACACACACACACACACACACACACACACACACACACACACACACACACACACACACACACACACACACACACAC",
      "ACACACACACACACACACACADbLehEbLCAGAbbVdHdgMAHbQDCmJACACACACACACACACACACACACACACACACACACACA",
      "CACACACACACACACACACACACACACACACACACACACACACACACACACACACACACACACACACACACACACACACACACACACA",
      "CACACACACACACACACACACAKACACACACACACACACACACACACACACACACACACACACACACACACACACACACACACACACA",
      "CACACACACACACACACACACACACACACACAKHJFLHJHJFMACACACAJHcVDNDNDNEMDkDAFAECDCDAEEHACACACDDDLB",
      "GAcKAdzHbVbXACCDACACACDCADAJCCACACACACACACACACACACACACACACACACACACACACACACACACACACACACAC",
      "ACACACACACACACACACACACACACACACACACACACAJACAFAbtyKACACACACACACACACACACACACACACACACACACACA",
      "CACACAUACACACACACACACACACACACACACAfGACACACACACACAEACACACACACACACACACACACACACACACACACACAC",
      "ACACACACACACACACACACACALACACBCACACACAFACADACAEACACACACACACACACACACECECACACACACACACACDCAC",
      "BEAGACACACAZAbhaIZbvAbNfHbJgBKCOCGCBcqDbYgCVegPbFbgjXbFbmmRZbBZbBZbBACBDADBDDCHbBZbBBCDD",
      "HCGbCBCDCECAEGbCZbBZbBZbBZbBZbBZbFYbIYbIYbIYbIYbIAgnMbH"]⟩,
   ⟨["ll", "lowercaseletter"], String.join
     ["dTZcHAbQXCHCACACACACACACACACACACACACACACACACACACACACACACACACACACACBCACACACACACACACBCACAC",
      "ACACACACACACACACACACACACACACACACACACACACADACACCDACADAEBFADAECDADACACADACBCADAEACADBDCHAD",
      "ADACACACACACACACACBCACACACACACACACACBDACAEACACACACACACACACACACACACACACACACACACACACACACAC",
      "ACACACACACACGDADBCAFACACACACcQCbAhMACAEAECTAbCbICBECCACACACACACACACACACACACECADADBcAbVCA",
      "CACACACACACACACACACACACACACACACAKACACACACACACACACACACACACACACACACACACACACACACACACACACADA",
      "CACACACACACBCACACACACACACACACACACACACACACACACACACACACACACACACACACACACACACACACACACACACACA",
      "CACACACACACACACACACAbXbOehCbQDCbdHFdfVICAeObRcMMCbHdZACACACACACACACACACACACACACACACACACA",
      "CACACACACACACACACACACACACACACACACACACACACACACACACACACACACACACACACACACACACACACACACACACACA",
      "CACACACACACACACACACACACACICACACACACACACACACACACACACACACACACACACACACACACACACACACACACACACA",
      "CACACACACACACACACACACACACACACACACACIJFLHJHJFLHJHJNDHJHJHJECBHAECCBJDDBJHLCCBkPAEBEAbCAFA",
      "FADBJDFAcCAebCbVCAEBCACACAFACBCFGACACACACACACACACACACACACACACACACACACACACACACACACACACACA",
      "CACACACACACACACACACACACACACACACACACACACACACBIACAFANbLCAGAbtwEACACACACACACACACACACACACACA",
      "CACACACACACACACACAUACACACACACACACACACACACACACAfGACACACACACACCCACACACACACACACACACACACACAC",
      "ACACACACACACACACACACACACACACACACACACHCACADACACACACAFACADACCCACACACACACACACACACAGAGACACAC",
      "ACACACACAFACADAEACACACACACAbBAEAbfQbQGIIdBbeaJGNEbpAZbvIbNfHbJgAKCOCGCBcrCbYeWVegPbFbgjX",
      "bFbmmLZbBGCRbBZbBDCACGCKbBZbBZbBZbBZbBZbBZbBZbBZbBbBbDYCFbBYCFbBYCFbBYCFbBYCFCAcsZJCTHFd",
      "uEbH"]⟩,
   ⟨["lt", "titlecaseletter"], "rLADADAbNAlfIHJHJHNAQAbWA"⟩,
   ⟨["lm", "modifierletter"], String.join
     ["baMRFLPEIACAfEAGAsLAiXAgJBkKBFAbGAKAEAgFAgMAbvPAeYAvUAcpNAeEAxOArXFgTcKOAbJbKbaOAOARMemY",
      "BjIAhKAsCAbSEGAdUBdQCbqbVAbwDFkLAeLAbDBeSIdDAYAeCCEBsCAXAfIAeFAWBeADKAbfvJAbUBczPFCbPCIc",
      "cYAbHAbjnTDtPCbPBvFMcNBCAygRDCGCBsgOcJhUGbkGAbrCA"]⟩,
   ⟨["lo", "otherletter"], String.join
     ["gOAQAjXAFDiBAbfWbAFDbUbFCJbKBCdUCAZBLCDARACbDbEdKMAZbGWVbRYIKGXCFSbOcIcBEATAIJROFHDBDVCG",
      "CAEDEARAOBCCPBLAJFFBDVCGCBCBCBbGDCAUCRICCCVCGCBCEEATAQBYAMHDBDVCGCBCEEAbFBCCQASACFECCDEB",
      "CACBEBECELXAcBHCCCWCPEAbBCDADBbFAFHCCCWCJCEEAbGBCBQBSICCCbODARAGCJCZFGREXCICADGcHbVCBNFc",
      "IBCACECXCACJCBKADEYDbHAcMHCbJbCEeMbQVARFFDEAEBICFMNAeKmQCDDGCACDDbOCDDbGCDDGCACDDOCcECDD",
      "cObMPeKxVDQCZGcWHHIROSPRPMCCQbZbPAcQbICcAIEDbHCAGcRLbEbYbDDEMbRFZcDWKcAgVbUSHcDbDOBLbRbB",
      "bJbQCLbDeKDCFCBEAbpRDenWcDZWKGCGCGCGCGCGCGCGvGAcCAFdHJACdLFAGbQCdPSbFbXPtTjtNcNbfcECbrYc",
      "QbNJkHFPLBcPAbYcRgOAeAAEGCCCDCWbEbZPbXcLFEACBMbBLWbAbCIbUbUEDILECbOYCCHVPCFEAEbXCAEBDEDA",
      "CAZBEKIAPFDFDFKGCGfQbIbEqnRNWFbWmnDoBDeBcQACJCMCECACBCBCeDbInYTcLDcBbPLeNECfEeCJCbSDbEEF",
      "DFDFDCbKLCZCSCBCODNbJeSpAbCEbWbWbFOTCHHbLLbDDbJFHeZcZdVbNJbZdPbZNlYKVLHfXFDACbRCBEADWLWK",
      "bEcOSCBLVLZcTcDHBcNAQDCCCbCbRbCEbCbKHCbBbCcBLVLSOReHcUhCbJbNDCAlTbPHBRCcIbCLAJVbRRbVUbCW",
      "NcAcGBDAObSbHYbBbJbEADAJbIEANbVPDWACAbKRCYUBcMGCACDCOCJIbUbNHDBDVCGCBCEEATANEbFJCADACbLC",
      "AbAACAbTcATDVCbFbVVBCAhDbUbQDbLbVVAcIbQOAcUbAbMGhEbRiEHDADHCBCXQACAdRHDbMRACAbDALbNIAWAM",
      "bTUATcUhSbGbGICbKSAbYbDeJGCBCbLWAbAFCBCbFPAmQSQACMCbHeVAdCbjLiXhNdxLdSQbpFSFbAfxQGwKkdEb",
      "DcpVvWIbESdASbDTbVcAUGSqUbNpQcWGAgUjbZJbvPbQJngIlEQAbECDAPDJpFdkVeCGMEIIJnbDAtIbSbIAmKbD",
      "TbRsRbAiWbDDAtCGCDCBCOChObzODCbACBCADACJCDCACAHAFACACACCCBCADACACACACACBCADDCGCDCDCACJCQ",
      "GCCECQgoBclfBbHgdTHiNDinPPlbKQxXdqXuVcfZhhYGgfF"]⟩,
   ⟨["mn", "nonspacingmark"], String.join
     ["bdOeHkQEkGbSCACBCBCAcVKbXURAdYGDFDBCDbKAbFbAdOKcHIKAZDCICCCEbSCcIIbRXCbFcEACAFHFAEGLBbEA",
      "cHAFDJAVBbBADBcGAFBFBDCEAbFBEAMBcGAFECBFAVBXFCAcHADACDJAIBMBbFAcKANAbZAEAcEACCGCCDIBMBbE",
      "AcHADAHAGBVBbDBcGBFDJAVBbEAcVAICCAdNADGNHdVADIMGcWBbCACACAcENCECBGKCbJKAdZDCFCBDBbABFCRD",
      "OADBHAQAbbCCbkLCbEBbFBbFBcNBCGJADKKAbUCCAeOBbJAePCFBKAHCiMBDAcHACGCACADHHJDAbXNCPbYDbXAC",
      "ECAGAbPINBbHDDBCCcFACBEACCcHHDBfXCCMCGFAHAEBhRcLbbTMFAELeoDCfMAdTbFvJDeEBbsqFAFJbHBdDBkN",
      "AEAFAbABGAfWBbBROAbNHbAKbVCbXADDDBbOAcQFDBDBNAJAbWAcAACCDBGBCAbRBJAjFADAFAbdzTAbcKPRPblM",
      "AiTAfUEcmHCCBGDbPCFAgKBwCDcOEmGBdCDcTKbYDeUAcDObQADBLCbYDDBIAcKCbLECHcLANBcBILDDAdSCDACB",
      "HADAgCAEHWBcGBEAbMGEEcTFOACACAPBdIHDCCAYAdHFCAFBCBjFDHBCBbCBdIHDACBeDACADFCAdYACADDCEkAI",
      "CBjXBCAFAfPDDBFAbHJbPFDDJAKFDCbVMCBpRGCFCAdFVDGCBCBeTFEACBCGCAcVBEACAnKBMBcBEGACAYAhxUAH",
      "OqyZLECdsBEcIGboJAcMDdEAbdbLBgzAbTDWuZCSHDGbFDfTCcyEcCFbXJAPAXECOcaJGCQDGCBCEdXAgFGoMAcK",
      "DtPDjVBbcJGeGGbtciWjF"]⟩,
   ⟨["mc", "spacingmark"], String.join
     ["dkTAcEADCJDCBbZBcHCHBDBLAbSAcHCcPAcHCJACBcCBcHACAHBDBLAdZBCBECCCLAbQCcKDcKBcHACEDBCBKBbD",
      "APBcHCGCCCLAbRBcYCHHTBmTBcMAgQBFAHADBbABLCDGWBDFDALCclTAbFAfAAIHCBnJDDCFBCFiRBcHACAKACBJ",
      "FfQAbXAGACECBcKAbFAFBDAcJADCCAEBbXHJBgQAWAhhFBbtlCBDAdLBbZPfNBbWAbXBFBDCeHBDBZAbUACAeGAD",
      "BGAjEBCBCBCAblxKACAeYAbUCFBeMAZBcIAbXCKBOAdQCEBCAgPCbGBcHBCDDBDCKALBdHCIADACDCBCAdYCJBEA",
      "eDCHACDDAjECHDDAeKCJBCAeGACBHAeAACBFAkCCKAjOFCBFADACAfNCJDFAdHAbEBcLApSAPAeDAIADAiGEFBCA",
      "nNBNAbXBJBCAyyZCfjHcCeBBbkxOBHF"]⟩,
   ⟨["me", "enclosingmark"], "bsQBikRAciHDCCbyoYC"⟩,
   ⟨["nd", "decimalnumber", "digit"], String.join
     ["bWJciPJfFJhRJpXJePJePJePJePJePJePJePJePJePJdTJePJcTJkTJcTJctRJbNJlPJeZJgLJHJhBJdJJfFJHJc",
      "aePJbaDJbNJhRJXJdJJpRJbfmDJccLJdfZJHJbeRJeZJcJJfPJkTJnFJePJoLJdZJHTcZJqHJdZJzNJdJJjNJcTJ",
      "qHJyyHJdmDJdJJfFJuPJbkdZJecRbXdnDJqHJtJJjOJbgWJhbBJ"]⟩,
   ⟨["nl", "letternumber"], "irUCdyUbIDDfmTAbAIPCbsyMJbifHcArTAJAfFEmeTeG"⟩,
   ⟨["no", "othernumber"], String.join
     ["gWBGADCdmSFoNFeRCfEGiKGSIqSJbpMTbrWJsNAcmWAEFHJhRPbQAbbZcHdBVyHbDcbIAbtDDfJJbFHCObHJbOOb",
      "smJFbhqObScODSBnEbAbLDbzHHbAGbOIcYEXFgFBDPDbTcNIcBBbFCcYEeBHZHbQGmTFnPbEgDJbRDeJGfFToQTb",
      "zYBqPIbhOSbgUUbcpRGbeTWblyGTNTeFYibVIbjUcGCCCDcZbSCOblBM"]⟩,
   ⟨["pc", "connectorpunctuation"], "dRAmbWBUAdgaPBZCjGA"⟩,
   ⟨["pd", "dashpunctuation"], "bTAcaVAcAAfkKAbnQAdbEFfhYADAbGBFAbDArFAUAeIAczwBBbMALAgOAflPAmHA"⟩,
   ⟨["ps", "openpunctuation"], String.join
     ["bOAbZAbGAfpFACAcuPAdpNAEAbNAcEAQAyLACAbFAbpVACACACACACACAdDAbHACACACACApPACACACACACACACA",
      "CACACAcNACAbIAboWACACACAbAATACACACAqNACACACACAEACACACADAczrUAiIAbEACACACACACACACAEASACAC",
      "AgPAbZAbGAEADA"]⟩,
   ⟨["pe", "closepunctuation"], String.join
     ["bPAcAAbGAfpEACAcuPAdrEAcEAQAyLACAbFAbpVACACACACACACAdDAbHACACACACApPACACACACACACACACACAC",
      "AcNACAbIAboWACACACAbTACACACAqNACACACACAEACACACADBczrRAiKAbEACACACACACACACAEASACACAgPAcAA",
      "bGADADA"]⟩,
   ⟨["pi", "initialpunctuation"], "gPAlxLADBDAbAAffTACAFADAQAEA"⟩,
   ⟨["pf", "finalpunctuation"], "hFAlwWAEAbDAffTACAFADAQAEA"⟩,
   ⟨["po", "otherpunctuation"], String.join
     ["bHCCCDACACBLBEBbCAcRAGAPBIAbbBAJArZFbQAcDADADAbTBVBCBOACCcXDdZAbSNjACcDObGAkCBLAfLAeRAeS",
      "ApBANAoEAdNALBgNOCAeJAcXEFBeIFgQAxPIbdUAeVCcUBgCCCCbMFCDmCBiJBeZGCFgFBLGbDCeVDcIEcLBcNHM",
      "AbgDBJHJIDDDCEKCACJeuDDCBeJAfOBFCDADICBCADBLECJDDCACMDCqNCcGAhIAbryHBkKCdWALAeMFoRDdJBbP",
      "CCAbYBbWAdUMRBeVDeXBRBjQAbfcVGDAXAVBDDECCDICHACBfUCCCDACACBLBEBbCAbLADBpVCzTAbXApZAbcQAh",
      "SAbGAkNIbNAeJGcPGdMDbkREbTDhIGeGBCDeXDbXBdCDFAOACCdLFeEAlNBCBeLELBCAeBAjRWeCCbDMcZAfBCjT",
      "AkFCgAAdPHdGCCEdQJiIAdSEbRByWBcXMgUAbrTEejDBwdWBfEAcOEJAvHClKDmQAbdbPAliMEeiUAbhFB"]⟩,
   ⟨["sm", "mathsymbol"], String.join
     ["bRARCcKACAbUAFAbMAbGAbdNAuICjyIAOAbOCOCfKAbOEHAcREGBFADADAIAbGBDACAbGkHbHBdNAbFYbPFsCAKA",
      "cDHeIAmZEDbELPjXfAXcKFbFDjXbXUDFdasRAbfTACCgJARCcKACAfCAHDfeGBcyfAAbAAbGAbAAbGAbAAbGAbAA",
      "bGAbAAiuFB"]⟩,
   ⟨["sc", "currencysymbol"],
     "bKAeWDbwKAeUAtFBtFBIAjMAkEAwKAdqQAdiJbGbzhWAbgmMAeFAfZAiMBEBmcTDcvxFAdrLA"⟩,
   ⟨["sk", "modifiersymbol"],
     "dQACAcUAHAFAEAuCDNNGGCACQeOAPBbxJAiuNACCMCOCOCOBghPBbsvSWKBeABblPAPBbekLQbiIACAgHAdolKE"⟩,
   ⟨["so", "othersymbol"], String.join
     ["gKADAFACAblQAkHBeYBhZALAUBjOAtWAoKAfBFCAfDAiAAbQApCCQACCDFVACACAfEHCFCBGDhQBbcZJbbWAbbVA",
      "gCbHnQJKIccIBCDCBLACBHFCACACAFAMBPACBCAcHBKEDDCBCBCGCbEDBCACbEkJHFTDGDdCCbDbAbNHcTXKdEcZ",
      "XhACICcBJeGCjNbTbRcNjVtTbVWBHbMDbFCeAiWFnUBbVZCdKNiFbBPFAOBNAWBHBmZBFJbHbLKARbEMbDJAQbFL",
      "bMQmHjtPcLbguJcCbhIDLBCAwCCbfjBPeYAbUCsRAEAFBOBmCIcGQDCCMEAbWbSclVBwUAesTAdgOHFQbcnJDGAb",
      "euXAfvOjFRqTgBeLcJjLLbMDcHGCXBIbDFcIWcNEAhFdIbtYtRcEDbZHCNCBcoVAehXAfAAbbUbRFdVNODOCOCbK",
      "YgEcFbCObRFIIBPFfZjQGbbZFQEMEeOFdQHLFAQLFcDJJHbNJbDDLFBcLnBNNDMEJGcDIODKHIIfQCdN"]⟩,
   ⟨["zs", "spaceseparator"], "bGAeYAihKAdpOKbLAbWAfxXA"⟩,
   ⟨["zl", "lineseparator"], "meQA"⟩,
   ⟨["zp", "paragraphseparator"], "meRA"⟩,
   ⟨["cc", "control", "cntrl"], "AbFdSbG"⟩,
   ⟨["cf", "format"],
     "gRAcaLFXAhLAbYAoVBdDAftKAdaREbBEbYECJdghKAjQCgjAAQAnkLPbzqVDhwYHbtkzNAbFdR"⟩,
   ⟨["co", "privateuse"], "dgvOjmDcahxPdsyNDdsyN"⟩]

/-- The groups of categories with the short names of those in each. -/
def categoryGroups : List (List String × List String) :=
  [(["l", "letter"], ["lu", "ll", "lt", "lm", "lo"]),
   (["lc", "casedletter"], ["lu", "ll", "lt"]),
   (["m", "mark", "combiningmark"], ["mn", "mc", "me"]),
   (["n", "number"], ["nd", "nl", "no"]),
   (["p", "punctuation", "punct"], ["pc", "pd", "ps", "pe", "pi", "pf", "po"]),
   (["s", "symbol"], ["sm", "sc", "sk", "so"]),
   (["z", "separator"], ["zs", "zl", "zp"])]

/-- The characters of some categories, given by their names. -/
def inCategories (names : List String) : CharSet :=
  CharSet.unionAll (names.filterMap (findNamed categories))

/-- All characters that have a category of their own. -/
def assigned : CharSet := CharSet.unionAll (categories.map (·.chars))

def unassigned : CharSet := CharSet.surrogates.union assigned |>.complement

/-- What is no letter, mark, number, punctuation, symbol or separator. Surrogates count here, but
nowhere else. -/
def other : CharSet :=
  CharSet.unionAll [inCategories ["cc", "cf", "co"], unassigned, CharSet.surrogates]

def category? (name : String) : Option CharSet :=
  match name with
  | "any" => some .everything
  | "ascii" => some (.span 0 0x7F)
  | "assigned" => some unassigned.complement
  | "cn" | "unassigned" => some unassigned
  | "c" | "other" => some other
  | _ =>
    match categoryGroups.find? (·.1.contains name) with
    | some group => some (inCategories group.2)
    | none => findNamed categories name

end GoldenTree.Unicode
