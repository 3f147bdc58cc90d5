import GoldenTree.Unicode.Packed

/-! Where text breaks into characters as users see them, into words and into sentences, as of
version 16.0 of Unicode. -/
namespace GoldenTree.Unicode

open Text

/-- The classes of `Grapheme_Cluster_Break` without those of Hangul syllables. -/
def graphemeBreaks : List NamedSet :=
  [⟨["cn", "control"], "AJCBCRdSbGOAcbNAguSAdaRADBZGbYPdghKAjHLtuBPbzqVDhwYHbtkzMbFdTeXjHfiL"⟩,
   ⟨["cr"], "NA"⟩,
   ⟨["ex", "extend"], String.join
     ["bdOeHkQGkEbSCACBCBCAcVKbXURAdYGDFDBCDbKAbFbAdOKcHIKAZDCICCCEbSCcIIbRXCbFcEACAFHFAEGLBbEA",
      "cHACADDJAKALBbBADBcGAFBFBDCEAbFBEAMBcGAFECBFAVBXFCAcHACBCDJAICLBbFAcIACANAKAbPAEAcEACCGC",
      "CDIBMBbEAcHADBCAECCDIBMBbDBcGBCADDJAKALBbEAcVAFADCCAJAdEADGNHdVADIMGcWBbCACACAcENCECBGKC",
      "bJKAdZDCFCBDBbABFCRDOADBHAQAbbCCbkLDbDCbEBbFBcNBCGJADKKAbUCCAeOBbJAePCFBKAHCiMBDAcHACGCA",
      "CADHHJDAbXbEbYDbXJFCbNINBbHDDFcFACBEACEcFHDBfXCCMCGFAHAEBhRcLuFAhObGeoDCfMAdTbFvJFeCBbsq",
      "FDCJbHBdDBkNAEAFAbABGAfWBbBROAbNHbAKCAbTCbXADDDBDAbLAcQFDBDBNAJAbWAcAACCDBGBCAbRBJAjFADA",
      "FAbdzTAbcKPRPoDBxIAiTAfUEcmHCCBGDbPCFAgKBwCDcOEmGBdCDcTKbYDeUAcDObQADBLCbYDDBIAcKCbLECHc",
      "LANBcBICAJDDAdSCDDHADAgCAEHWBcGBCACANAKAPGEEcQADFCADACCFCCAPBdIHDCCAYAdEADFCADACBCBjCADD",
      "HBCBbCBdIHDACBeDACADHdYACADDCEkAICBjMALDFAfPDDBFAbHJbPFDDJAKFDCbVMCBpRGCFCAdFVDGCBCBeTFE",
      "ACBCGCAcVBEACAnKBMBcBEGCYAhxUAHOqyZLECdsBEcIGboJAcMDdEAMBbdaYBgzAbTDWuXEEFJHDGbFDfTCcyEc",
      "CFbXJAPAXECOcaJGCQDGCBCEdXAgFGoMAcKDtPDjVBbcJGeGGebHEbsxyVdReZjF"]⟩,
   ⟨["l"], "glKdRcfoRbC"⟩,
   ⟨["lf"], "KA"⟩,
   ⟨["pp", "prepend"], "chCFiIAbYAoVBdDAbrOAdugLAQAjLBuGAcbMACAjPAcWFbaZArCA"⟩,
   ⟨["ri", "regionalindicator"], "hgoKZ"⟩,
   ⟨["sm", "spacingmark"], String.join
     ["dkTAcEADCJDCBbZBcIBHBDBcDAcHCcPAcHCJACBcCBcJAHBDBeLACBECCCcBCcKDcKBcHADACBbVAPBcIBGCCCcC",
      "BcZBHGUBcMAeYAfJBcMAgWAKBbABbTAcsWAIHCBnJDDCFBCFiRBcHACAWFfQAcGDcNAbFAFBcMADCCAcCHJBgQAW",
      "AcasIBDAdLBbZPfNAbXAbXBFBDBeIBDBZAgCADBGAjEBCBCBCAblxKACAeYAbUCFBeMAZBcIAbXCKAPAdQCEBgRC",
      "bGBcIACDDBDBWBdIBQACBeACJBEAeEBHACBCADAjFBHDDAeKCJBCAeGACBeHAIAkCCKAjPECBIACAfNCJDFAdHAb",
      "EBcLApSAPAeDAIADAiGEFBCAnNBNAbXBJByzBCfjHcC"]⟩,
   ⟨["t"], "grWdJcwxObW"⟩,
   ⟨["v"], "gpCcTcwzXWcerDAED"⟩,
   ⟨["zwj"], "mdPA"⟩]

/-- The Hangul syllables without a final consonant, one before every 27 with one. -/
def openSyllables : CharSet :=
  .ofRanges ((List.range 399).map fun i => (0xAC00 + 28 * i, 0xAC00 + 28 * i))

/-- The Hangul syllables with a final consonant. -/
def closedSyllables : CharSet :=
  .ofRanges ((List.range 399).map fun i => (0xAC01 + 28 * i, 0xAC1B + 28 * i))

def graphemeBreak? (name : String) : Option CharSet :=
  match name with
  | "lv" => some openSyllables
  | "lvt" => some closedSyllables
  | _ => findNamed graphemeBreaks name

/-- The classes of `Word_Break`. -/
def wordBreaks : List NamedSet :=
  [⟨["cr"], "NA"⟩,
   ⟨["dq", "doublequote"], "bIA"⟩,
   ⟨["ex", "extendnumlet"], "dRAmbGAQBUAdgaPBZCjGA"⟩,
   ⟨["extend"], String.join
     ["bdOeHkQGkEbSCACBCBCAcVKbXURAdYGDFDBCDbKAbFbAdOKcHIKAZDCICCCEbSCcIIbRXCbGcDCCRCGLBbECcFAC",
      "GDBDCKALBbBADCcFACEFBDCEAbFBEAMCcFACHCCCCVBXFCCcFACGDBDCICLBbFAcIEECCDKAbPEcEACGCCCDIBMB",
      "bECcFACGCCCDIBMBQANDcEBCGCCCDKALBbECcTAFFCACHTBcKADGNHdVADIMGcWBbCACACAFBbYTCBGKCbJKAdXT",
      "YDFCCCDGEDOLCALDbbCCbkLDbDCbEBbFBcNbFKAbUCCAeOBbJAePLFLiMEcGJCbCDAbXbEbYEbWQbNINCbFMcFNb",
      "XTfXCCUFAHADChRcLuFAhObGeoDCfMAdTbFvJFeCBbsqFDCJbHBdDBkNAEAFAYEFAdGBbZRbBROAbNHbAMbTDbWN",
      "bLAcQNNAJBbUCbZACCDBGBCAbQEGBjDHCBbdzTAbcKPRPoDBxIAiTAfUEcmHCCBGDbPCFAgKBwCDcOEmGBdCDcTK",
      "bYDeTCcCObQADBLDbUKIAcKCbLNRBbTANCbXNJDCBdPLHADAgCLWDcEBCGDBDCKALBDGEEcQICADACDCECAPBdFR",
      "YAdETjCGDIbCBdFQeDMdYOjXOjMFCBDDCACBfMGDGEAbDJbPGCDJAKKbVPpQHCHdFVCNeTFEACBCGCAcPECBCEnK",
      "DKBCAbXGEEYAhxUAHOqyZRdsBEcIGboJACcCIDdEAMBbdaYBgzAbTDWuXEEFJHDGbFDfTCcyEcCFbXJAPAXECOca",
      "JGCQDGCBCEdXAgFGoMAcKDtPDjVBbcJGeGGebHEbsxyVdReZjF"]⟩,
   ⟨["fo", "format"], "gRAcaLFXAhLAbYAoVBdDAftKAdaUBbBEbYECJdghKAjQCgjAAQAnkLPbzqVDhwYHbtkzNA"⟩,
   ⟨["hl", "hebrewletter"], "cfGbAFDdovZACJCMCECACBCBCJ"⟩,
   ⟨["ka", "katakana"], "sgNEdYBEdMCDjHPiBbUCdJczhFcDcouDDCGCBCAlCCbZAPD"⟩,
   ⟨["le", "aletter"], String.join
     ["cNZHZbWALAFAGWCbECsLHbHeJECBDDCAHACCCACTCdECfIJgJCbLDDCACbOCAeBAbTbQbKBCdUCAQBIBLCDARACb",
      "DbEdKMAZbGKBFAGVFAKAEAYYIKGXCFSbPcHcBEATAIJQPFHDBDVCGCAEDEARAOBCCPBLAJFFBDVCGCBCBCBbGDCA",
      "UCRICCCVCGCBCEEATAQBYAMHDBDVCGCBCEEAbFBCCQASACFECCDEBCACBEBECELXAcBHCCCWCPEAbBCDADBbFAFH",
      "CCCWCJCEEAbGBCBQBSICCCbODARAGCJCZFGREXCICADGmCAcMHCbJbCEkQbLCAGADbQCmUCDDGCACDDbOCDDbGCD",
      "DGCACDDOCcECDDcObMPRdHDFExVDQCZGcWEKIROSPRPMCCgUdKIEDbHCAGcRLbEiSWjFbUSHcDbDOBLbRbBbJbQC",
      "LbJDKGbQDCbQDCFCBEAGhJcNkRDFDbLDFDHCACACACbEDcACGCAECCGEDDFFMGCCGeNAOARMdYAFADJCAEEHACAC",
      "ACDCKDDGEFASbObfIbZcrViUHDEBNbLCAGADcDIARWKGCGCGCGCGCGCGCGdDAsCAcCBhTbQCdPSbFbptPbsUcQbT",
      "DkIEPLBVbURbEDdBZhPDBCACHWPCCCDCWbEbZPbXcLFEACBMbBLWbAbCIbUbDAbXbOYCCHfTKICNFDFDFKGCGCcF",
      "HeKbEqnRNWFbWngVGNEcFdTbInYTcLDcBbPLeNECfEbLZHZcSbEEFDFDFDCbKLCZCSCBCODNbJeScScAkIbCEbWb",
      "WbFObDGbLLbDDbJFHCEbRgBTbJFbJFbNJbZNKCOCGCBCKCOCGCBEbZNlYKVLHZFCbPCIcSFDACbRCBEADWLWKbEc",
      "OSCBLVLZcTcDHBcNAQDCCCbCbRbCEbCbKHCbBbCcBLVLSOReHcUcEbYObYObJbNbBKWjRbPHBRCcIbCLAJVbRRbV",
      "UbCWNcAcGBDAObSbHYbBbJbEADAJbIEANbVPDWACAbKRCYUBcMGCACDCOCJIbUbNHDBDVCGCBCEEATANEbFJCADA",
      "CbLCAbAACAbTcATDVCbFbVVBCAhDbUbQDbLbVVAcIbQOAmQbReNcLbGHDADHCBCXQACAdRHDbMRACAbDALbNIAWA",
      "MbTUATcUhSbGbGICbKSAbYbDeJGCBCbLWAbAFCBCbFPAmQSQACMCbHeVAdCbjLdZeGShNdxLdSQbpFSFbAfxQGwK",
      "kdEbDcpVvWIbESdASbDTbVRDbGUGSqRbSiEcLeZcWGAcPMcNBCAbcvLeCGMEIIJiwLdGCcSCBDADBDDCLCACGCcM",
      "CDDHCGCbBCDCECAEGCnBDYCYCbECYCbECYCbECYCbECYCHcsZbEHFkCcJfRbSLGRAmKbDTbRsRbBiVbDDAtCGCDC",
      "BCOChOcIcPIAbuJDCbACBCADACJCDCACAHAFACACACCCBCADACACACACACBCADDCGCDCDCACJCQGCCECQyFZHZHZ"]⟩,
   ⟨["lf"], "KA"⟩,
   ⟨["mb", "midnumlet"], "bUAmcGBLAdgdQAgZAHA"⟩,
   ⟨["ml", "midletter"], "cGAeVAbbSAsEAfTAjxZAdgbCAcOAhPA"⟩,
   ⟨["mn", "midnum"], "bSAPAbgDAuDAfBBdRApGAjfGAdfzWAEAcIAEAhCAPA"⟩,
   ⟨["nl", "newline"], "LBeRAlzNB"⟩,
   ⟨["nu", "numeric"], String.join
     ["bWJciPJCAfDJhRJpXJePJePJePJePJePJePJePJePJePJdTJePJcTJkTJcTJctRJbNJlPJeZJgLJHJhBJdJJfFJH",
      "JcaePJbaDJbNJhRJXJdJJpRJbfmDJccLJdfZJHJbeRJeZJcJJfPJkTJnFJePJoLJdZJHTcZJqHJdZJzNJdJJjNJc",
      "TJqHJyyHJdmDJdJJfFJuPJbkdZJecRbXdnDJqHJtJJjOJbgWJhbBJ"]⟩,
   ⟨["ri", "regionalindicator"], "hgoKZ"⟩,
   ⟨["sq", "singlequote"], "bNA"⟩,
   ⟨["wsegspace"], "bGAimIAdpOGCCdHAfxXA"⟩,
   ⟨["zwj"], "mdPA"⟩]

def wordBreak? (name : String) : Option CharSet := findNamed wordBreaks name

/-- The classes of `Sentence_Break`. -/
def sentenceBreaks : List NamedSet :=
  [⟨["at", "aterm"], "bUAmcSAdgdQAhGA"⟩,
   ⟨["cl", "close"], String.join
     ["bIAFCbYACAbEACAbUAQAfmTDcuOBdpKHbABLBcDBPByKDbEBbpHFINdCBbGJpOVcMDbHBbnNNPBDJZATHqMJDHCC",
      "czrRBiIBbDPDBRFgOBbYACAbEACACBCBdpoTC"]⟩,
   ⟨["cr"], "NA"⟩,
   ⟨["ex", "extend"], String.join
     ["bdOeHkQGkEbSCACBCBCAcVKbXURAdYGDFDBCDbKAbFbAdOKcHIKAZDCICCCEbSCcIIbRXCbGcDCCRCGLBbECcFAC",
      "GDBDCKALBbBADCcFACEFBDCEAbFBEAMCcFACHCCCCVBXFCCcFACGDBDCICLBbFAcIEECCDKAbPEcEACGCCCDIBMB",
      "bECcFACGCCCDIBMBQANDcEBCGCCCDKALBbECcTAFFCACHTBcKADGNHdVADIMGcWBbCACACAFBbYTCBGKCbJKAdXT",
      "YDFCCCDGEDOLCALDbbCCbkLDbDCbEBbFBcNbFKAbUCCAeOBbJAePLFLiMEcGJCbCDAbXbEbYEbWQbNINCbFMcFNb",
      "XTfXCCUFAHADChRcLuFBhNbGeoDCfMAdTbFvJFeCBbsqFDCJbHBdDBkNAEAFAYEFAdGBbZRbBROAbNHbAMbTDbWN",
      "bLAcQNNAJBbUCbZACCDBGBCAbQEGBjDHCBbdzTAbcKPRPoDBxIAiTAfUEcmHCCBGDbPCFAgKBwCDcOEmGBdCDcTK",
      "bYDeTCcCObQADBLDbUKIAcKCbLNRBbTANCbXNJDCBdPLHADAgCLWDcEBCGDBDCKALBDGEEcQICADACDCECAPBdFR",
      "YAdETjCGDIbCBdFQeDMdYOjXOjMFCBDDCACBfMGDGEAbDJbPGCDJAKKbVPpQHCHdFVCNeTFEACBCGCAcPECBCEnK",
      "DKBCAbXGEEYAhxUAHOqyZRdsBEcIGboJACcCIDdEAMBbdaYBgzAbTDWuXEEFJHDGbFDfTCcyEcCFbXJAPAXECOca",
      "JGCQDGCBCEdXAgFGoMAcKDtPDjVBbcJGeGGbtcaGdReZjF"]⟩,
   ⟨["fo", "format"], "gRAcaLFXAhLAbYAoVBdDAftKAdaRADBbBEbYECJdghKAjQCgjAAQAnkLPbzqVDhwYHbtkzNA"⟩,
   ⟨["le", "oletter"], String.join
     ["rBAFDiBAbLGHLbBACAfEAsRAePbAFEbTbQbKBCdUCAQBIBLCDARACbDbEdKMAZbGKBFAGVFAKAEAYYIKGXCFSbPc",
      "HcBEATAIJQPFHDBDVCGCAEDEARAOBCCPBLAJFFBDVCGCBCBCBbGDCAUCRICCCVCGCBCEEATAQBYAMHDBDVCGCBCE",
      "EAbFBCCQASACFECCDEBCACBEBECELXAcBHCCCWCPEAbBCDADBbFAFHCCCWCJCEEAbGBCBQBSICCCbODARAGCJCZF",
      "GREXCICADGcHbVCBNGcHBCACECXCACJCBKADECAWDbHAcMHCbJbCEeMbQVARFFDEAEBICFMNAcObQDmTCDDGCACD",
      "DbOCDDbGCDDGCACDDOCcECDDcObMPeKxVDQCZGcWEKIROSPRPMCCQbZbKAFAcQdKIEDbHCAGcRLbEbYbDDEMbRFZ",
      "cDWKcAdFAdQbUSHcDbDOBLbRbBbJbQCLbJTbQDCbQDCFCBEAbpRDcUCDDekUcDIARWKGCGCGCGCGCGCGCGdDAsCC",
      "bAIIEDEFdHHCCdLCDGbQCdPSbFbXPtTjtNcNbguEcQbTDkIEPLBcPARAbHdBbOIeBAHAeAAEGCCCDCWbEbZPbXcL",
      "FEACBMbBLWbAbCIbUbDARECJLECbOYCCHVWEAEbXCAEBDEDACAZCDKICNFDFDFKGCGfQbIbEqnRNWFbWmnDoBDeB",
      "cQACJCMCECACBCBCeDbInYTcLDcBbPLeNECfEeCcDDbEEFDFDFDCbKLCZCSCBCODNbJeScScAkIbCEbWbWbFObDG",
      "bLLbDDbJFHCEeTcZdVbNJbZdPbZNlYKVLHbABeWFDACbRCBEADWLWKbEcOSCBLVLZcTcDHBcNAQDCCCbCbRbCEbC",
      "bKHCbBbCcBLVLSOReHcUhCbJbNFbGAkNbPHBRCcIbCLAJVbRRbVUbCWNcAcGBDAObSbHYbBbJbEADAJbIEANbVPD",
      "WACAbKRCYUBcMGCACDCOCJIbUbNHDBDVCGCBCEEATANEbFJCADACbLCAbAACAbTcATDVCbFbVVBCAhDbUbQDbLbV",
      "VAcIbQOAcUbAbMGhEbRiEHDADHCBCXQACAdRHDbMRACAbDALbNIAWAMbTUATcUhSbGbGICbKSAbYbDeJGCBCbLWA",
      "bAFCBCbFPAmQSQACMCbHeVAdCbjLdZeGShNdxLdSQbpFSFbAfxQGwKkdEbDcpVvWIbESdASbDTbVRDbGUGSqRbSp",
      "OcWGAcPMcNBCAbDjbZJbvPbQJnfSDCGCBClEQAbECDAPDJpFdkVeCGMEIIJnbDAtIbSLGRAmKbDTbRsRbBiVbDDA",
      "tCGCDCBCOChOfFAbuJDCbACBCADACJCDCACAHAFACACACCCBCADACACACACACBCADDCGCDCDCACJCQGCCECQgoBc",
      "lfBbHgdTHiNDinPPlbKQxXdqXuVcfZhhYGgfF"]⟩,
   ⟨["lf"], "KA"⟩,
   ⟨["lo", "lower"], String.join
     ["dTZbWALAFAbLXCHCACACACACACACACACACACACACACACACACACACACACACACACACACACACBCACACACACACACACBC",
      "ACACACACACACACACACACACACACACACACACACACACACACADACACCDACADAEBFADAECDADACACADACBCADAEACADBD",
      "CHADADACACACACACACACACBCACACACACACACACACBDACAEACACACACACACACACACACACACACACACACACACACACAC",
      "ACACACACACACACACGDADBCAFACACACACcQCbJIBbFEfLACAEADDTAbCbICBECCACACACACACACACACACACACECAD",
      "ADBcAbVCACACACACACACACACACACACACACACACACAKACACACACACACACACACACACACACACACACACACACACACACAC",
      "ACACACADACACACACACACBCACACACACACACACACACACACACACACACACACACACACACACACACACACACACACACACACAC",
      "ACACACACACACACACACACACACACACAbXbOeiUAbdKFdfVICAeOhJcOACACACACACACACACACACACACACACACACACA",
      "CACACACACACACACACACACACACACACACACACACACACACACACACACACACACACACACACACACACACACACACACACACACA",
      "CACACACACACACACACACACACACICACACACACACACACACACACACACACACACACACACACACACACACACACACACACACACA",
      "CACACACACACACACACACACACACACACACACACIJFLHJHJFLHJHJNDHJHJHJECBHAECCBJDDBJHLCCBeSAOARMeGAEB",
      "EAbCAFAFADBJDFAbIPFAbgMZctRbVCAEBCACACAFACBCHEACACACACACACACACACACACACACACACACACACACACAC",
      "ACACACACACACACACACACACACACACACACACACACACACACACACACACACACBIACAFANbLCAGAbtwEACACACACACACAC",
      "ACACACACACACACACACACACACACACACAUACACACACACACACACACACACACACCfEACACACACACACCCACACACACACACA",
      "CACACACACACACACACACACACACACACACACACACACACACACACJCACADACACACACAFACADACCCACACACACACACACACA",
      "CAGAGACACACACACACACAFACADAEACACACACACAXCCACCbfQbQCNHdBbeaJGNEbpAZbvIbNfHbJgAKCOCGCBrKADC",
      "CbPCIbxMbYeWVegPbFbgjXbFbmmLZbBGCRbBZbBDCACGCKbBZbBZbBZbBZbBZbBZbBZbBZbBbBbDYCFbBYCFbBYC",
      "FbBYCFbBYCFCAcsZJCTHFkCcJdhTbH"]⟩,
   ⟨["nu", "numeric"], String.join
     ["bWJciPJCBfCJhRJpXJePJePJePJePJePJePJePJePJePJdTJePJcTJkTJcTJctRJbNJlPJeZJgLJHJhBJdJJfFJH",
      "JcaePJbaDJbNJhRJXJdJJpRJbfmDJccLJdfZJHJbeRJeZJcJJfPJkTJnFJePJoLJdZJHTcZJqHJdZJzNJdJJjNJc",
      "TJqHJyyHJdmDJdJJfFJuPJbkdZJecRbXdnDJqHJtJJjOJbgWJhbBJ"]⟩,
   ⟨["sc", "scontinue"], "bSBNAbyPAgTBsXAgbYAGAdbFBgaVAdaaXBCAbEBbEBEADALAgNBNAcWA"⟩,
   ⟨["se", "sep"], "fDAlzNB"⟩,
   ⟨["sp"], "JACBUAeYAihKAdpOKbLAbWAfxXA"⟩,
   ⟨["st", "sterm"], String.join
     ["bHAbEAcaCAfSCgZAbSCjNAcKACAEBlIBcpXBbeLAFBbdUAhRBhXAGAmDBnRDgHBLBDBbEChGBcOBbkVBKCfgVAOA",
      "XBqOAbshXAkLBiUAEAoTBdJBdSAfXBfSCfPBjQAbffNBgOAbEAcOAedXBbxEEbTDhIBeODeYCfABHARBdLBCBeFA",
      "lNBeOBoKBGOeCBjQCtYACAjSBdKBqFBbaRBcXBbcmCBfEAcOBMAvIBlLAbdoHAliNA"]⟩,
   ⟨["up", "upper"], String.join
     ["cNZdYWCGbIACACACACACACACACACACACACACACACACACACACACACACACACACACACADACACACACACACACADACACAC",
      "ACACACACACACACACACACACACACACACACACACACACBCACAEBCACBCCDDCBCCEBCBCACACBCADACBCCCACBEAIBCBC",
      "BCACACACACACACACADACACACACACACACACADBCACCCACACACACACACACACACACACACACACACACACACACACACACAC",
      "ACACACACACAIBCBDACDCACACACAlEACAEAJAHACCCACBCQCIbKADCEACACACACACACACACACACACAGADACBDbYbX",
      "ACACACACACACACACACACACACACACACACAKACACACACACACACACACACACACACACACACACACACACACACACACACACAC",
      "BCACACACACACADACACACACACACACACACACACACACACACACACACACACACACACACACACACACACACACACACACACACAC",
      "ACACACACACACACACACACADbLehEbLCAGAbbVdHdgMAoLACACACACACACACACACACACACACACACACACACACACACAC",
      "ACACACACACACACACACACACACACACACACACACACACACACACACACACACACACACACACACACACACACACACACACACACAC",
      "ACACACACACACACACAKACACACACACACACACACACACACACACACACACACACACACACACACACACACACACACACACACACAC",
      "ACACACACACACACACACACACACACAKHJFLHJHJFMACACACAJHZHJHJHJEMEMDNEMEkCAFAECDCDAEEHACACACDDDLB",
      "GAbBPUAbfNZcsVbVbXACCDACACACDCADAJCCACACACACACACACACACACACACACACACACACACACACACACACACACAC",
      "ACACACACACACACACACACACACACACACACACACACACACACAJACAFAbtyKACACACACACACACACACACACACACACACACA",
      "CACACACACACAUACACACACACACACACACACACACACAfGACACACACACACAEACACACACACACACACACACACACACACACAC",
      "ACACACACACACACACACACACACACACALACACBCACACACAFACADACAEACACACACACACACACACACECECACACACACACAC",
      "ACDCACBEAGACACACAZAbhaIZbvAbNfHbJgBKCOCGCBcqDbYgCVegPbFbgjXbFbmmRZbBZbBZbBACBDADBDDCHbBZ",
      "bBBCDDHCGbCBCDCECAEGbCZbBZbBZbBZbBZbBZbFYbIYbIYbIYbIYbIAgnMbHdbJZHZHZ"]⟩]

def sentenceBreak? (name : String) : Option CharSet := findNamed sentenceBreaks name

end GoldenTree.Unicode
