import GoldenTree.Unicode.Packed

/-! In which version of Unicode a character was assigned, up to version 16.0. -/
namespace GoldenTree.Unicode

open Text

/-- The versions with the characters that each was the first to have, in order. -/
def ages : List NamedSet :=
  [⟨["1.1", "v11"], String.join
     ["AtHFbDcFdKIbUCJXcRbBBTBFAEAGGCACTCbRCGEACACACACROLCcNCLCbOKcADBDBEbBDHDBcEbLDGCbMCAbNJCI",
      "NbAGEYAPAEACZGSONDcTDECOCbDDJuACCcADRDEEYRCCHDBDVCGCAEDDACGDBDCKAFBCEDUIADFFBDVCGCBCBCBD",
      "ACEFBDCMDCAIONCCGCACCCVCGCBCEDJCCCCDAQAGJSCCHDBDVCGCBDDDHEBDCJBFBCCFKSBCFECCDEBCACBEBECE",
      "HCCFEECCDKAQLPCCHCCCWCJCEFGCCCDIBKBFJTBCHCCCWCJCEFGCCCDIBIACBFJTBCHCCCWCPFFDCCDKAJBFJfQc",
      "FFbCbMBCADBCADAHDCGCCCACADBCMCCDECACFDJDBrJbLLbMFAFdLGcPGdDeoLfYGdLHVDFDbLDFDHCACACACbED",
      "cACOCNDFCSDCCICbUCWbKGEbASKbMRbFcEbBbVOdMWjHPACeQfEbKbCKWfIWfTLdBRTHdHfQDCDDbBCbICACDEAC",
      "GDGPbEEXCNddIcDIACdFFFDdPHbNFdPCPdTbCEbJbDbBEbXQLFbUCeOFdUDbEjwCbexXyjRjxTiDGNEHYCECACBC",
      "BCeDbIoARcLDcBbPLbLDNUFJCSCDFCCACfEDACdPDdPEFDFDFDCEGCGPC"]⟩,
   ⟨["2.0", "v20"], String.join
     ["ccVQCMVAdmYcTCbGIbAFFCACUEGCAfqOAuIAcatXqnReifZBdsyPBdsyPBdsyPBdsyPBdsyPBdsyPBdsyPBdsyPB",
      "dsyPBdsyPBdsyPBdsyPBdsyPhlxH"]⟩,
   ⟨["2.1", "v21"], "mjSAdgoUA"⟩,
   ⟨["3.0", "v30"], String.join
     ["tIDbFHDReOEbYALEdKIUAeNAEACACACAbFANAcPANAbRBDDdPBgBAhTCdVBGAQAbRECNCbDEbAcCbWcfIBCREXCI",
      "CADGEAFFCACHTCoKAbSAYCIACCCODAbXbHCECBCGEDHZqHGCcKCACDDGCACDDbMCACDDbECACDDGCACDDGCGCWCb",
      "ECACDDGCbMCSHbBbKdGNyFKbCEdCfOdOEJXOCJHdJJbPcwCAZFdSCbZBdIBcVAeAIkKAeSACbDfJBrQHbIAdJBpJ",
      "jVccFZCdKNiFbBLcJCEAnQXwNjtDbfeHbsUERDPCLCCCAbgsDAbvWC"]⟩,
   ⟨["3.1", "v31"], String.join
     ["bmYBdqqDbFbxXbECDNbAhAbLDbLczdRjLLbMEgXvBdGCcSCBDADBDDCLCACDCBCcMCDDHCGCbBCDCECAEGCmZFlD",
      "FbXpdXcleSbetEuVbpcqUAbFdR"]⟩,
   ⟨["3.2", "v32"], String.join
     ["uYAlRAUMeBBbDAfSBcGBDBDBbYPnNBmKAdnIBchKMCGMWKTNMCCCBdiYAHEFAIEOAcLBbZGdFOgNLjJNeVAbFbZk",
      "ZTfWJdLHXBdNLDJiPNdNbBFPjXtRbzOCdKBJBdRAjHPdEOdEObrdJBRANAEAbgjBcGbjEAEPcCBbTAjCB"]⟩,
   ⟨["4.0", "v40"], String.join
     ["uZATCeQBcMQdDHGCfWEtXDKIcNCfUBQAbUCbECqVAhDAcQACAfHAdHCOAcQAcIAfAHhMBefOATJkDbCELFLFAEbP",
      "DEeEbFbdPeDbcQBiXAzKBlRAkRBeNHPBbrBNcrOBbYAbSBdBDgMDdWBbGAjtPcLcoqWAcWBqYLCZCSCBCODNbJeS",
      "GCFbSEIwFbDCAfFBbNdBDJbgXFDACbRCBEADAcyuJdInZAbtkdBjF"]⟩,
   ⟨["4.1", "v41"], String.join
     ["vVKkTEgEDjNBgPAbJCcQATAcHFjIbDuIAdDAsUAbWAbmOBlKBCAkHAcMAcMAbOAbGAbGAbGAQAbOAYBbGZcgDbPH",
      "ZHJFBbHbBDBbgNdJzIBCGbYEbEDcCAdDAQAyVKwBAdYBTKGPkLGbgIFjDbUCbUbIeCPbSLcBKARWKGCGCGCGCGCG",
      "CGCGbIXFBbjVPgTAbpiUVctPWjAbRbfeBeBbfRJbfBcWuObJFNciTDCBGHCCCbAFCFIJIcxpWcRbrBB"]⟩,
   ⟨["5.0", "v50"], String.join
     ["wGNlOCnAAbRFRDgLAtYcGoVBCBbhJBOBfiKcXFbSwMGcABbcVDdQBcCAxCLbbNAkRDbgKGGDmFMIDbulKDGBlBcD",
      "bkoNZGAirHbhUfQdUODcogJRbqVB"]⟩,
   ⟨["5.1", "v51"], String.join
     ["bhWDDBdKAhCAfLPiTEMEbHElRRtEBiPAbKAhZAbEBeFAeFAbBBJBVHhIAHAbEBNFEGsYBdUAECdAAGADAICFFbBc",
      "LFBdbFAbbYbQELcTcDEOEbYmUbBhADdNFnTAfKAdRAcCDbyBAWJEDkFAbGDbfGEFbOEEkVCCCFFnRbFZDDSbdLAg",
      "HTbppPHbzPlNVbFDRJbBfCEDeCeHEeZcQKLbNdFMAgFcCKNDJDDbfsVCbhQLcBbTfBbCEbWckEZGAcxsKAlrRbRF",
      "dV"]⟩,
   ⟨["5.2", "v52"], String.join
     ["byQBbcDbTDOhMAdAAHAbKBeZAcfQDhMDhHEcREdFFtTAyHIvPcRgZBbVAcScKCbCDKHJHNvBbIkHAbaVCfWCcDAx",
      "JAbaSBbECFJCSCAFXdKAbnIEkTAOBeEGmIAboDLbplTHbxLbVqBdJmBJgLbBdXbCEcZCKFBeZbBFcOZEiRbTDJqo",
      "LWFbWnbCCfgDVCIhFBmNbFeZcBEbCDbAGHeZcUuQbEtUcNlvRbpEctnEKGbEDAMACADAEAEEJAIAbAACBDALDDAe",
      "IAQbHPIcqlKgdO"]⟩,
   ⟨["6.0", "v60"], String.join
     ["bySBjPAcLAsNbBDAiMBUAHBbCEtNFqSARAUAwCDcWBbiPBdeObZJDtPAzPHbDAbfKKbcDAUACDbEAFBbDAbKACAF",
      "CKBcBCZAPAPBcdLAPAbpPCbseOBlOBCBPJdDAbdVFDFDFKGCGbemUPhrJcZFbDbheFvWbalCBymHODNDOCOdDACK",
      "CACBCCCCGHCGCJHICADBCJFBCJcYZCBbWIWBgTbGQFCcRETNbKCEWQQcKCACgZCDEcJTXfSECPCCCACACACCCFDD",
      "CADDCLFKbXcRcHeLcuqNiN"]⟩,
   ⟨["6.1", "v61"], String.join
     ["ccTAeNAzSACKcEbAtEAbmSBsUAGAbWCebCCNFjXHbSDecRACAbyRBcAAGAcFBhVJbraFAcnOHbKAjJBXAdABbcPW",
      "beaABfuVcDHBcrPYIJHcACNcJcUIJbtVcDJJbhkPcQMbURQbvwJDCbACBCADACJCDCACAHAFACACACCCBCADACAC",
      "ACACACBCADDCGCDCDCACJCQGCCECQcBByJBblTDhHARAEACACACAEAHBFACBFA"]⟩,
   ⟨["6.2", "v62"], "mkGA"⟩,
   ⟨["6.3", "v63"], "ciEAjyWD"⟩,
   ⟨["7.0", "v70"], String.join
     ["biLAqJHdQBePAzSAMFcZAeRAIAyQAcAAcZAeYAiVJdkSHvDBpMOvYBjEObbICbfRGbdUAbqJCLZDbFDbHELCHxVG",
      "btoWFjNLMCDBcSAsVbEeWDgVbVFBbfiWGbhEBUAmIbBbKAbXbQpAbNJbZMAfPlYKVLHjPcKJIrXbFbHbMFLfIRID",
      "NGbvKAiBbMdJANAHTMRCbQeLcGGJICCHDBDVCGCBCEDIDBDCKAGGDGEEkIcTJJgLcBDRcDcQMJwLdENArHcEdfJb",
      "PhVLGAbalGbECJFBdTbDDFLcRLJCGCUGSbemBeCGMEIIJDHqkZhODPczXAbHVWBuNLKAcTAXLbMAGDGLSGcUACAh",
      "BAFBcMBFGbERCbOCdHcTBObVcTJRMEDfLdGbSLFcDJJHbNJbD"]⟩,
   ⟨["8.0", "v80"], String.join
     ["dhRBbVAuOAnPAkBAcmWADFevPAhWBdyFDbrwWIcoVAjHAbJFmNBxNDNdBbffRBebHSCBGEhHBDPDbTyRbYObYIFb",
      "vEDPEgFGCACDCOCKdJAdCAyKTlFZEOFPerQAiXhNlqRwKcawMKciAzBQECOjhECdBBdCEbLHjWAcYEjKBfKAwEIe",
      "AEcIAcucMinP"]⟩,
   ⟨["9.0", "v90"], String.join
     ["dhUHXObjQAhZAFCCGYCfsAIoHAchCDdxDBbtzMAkTAbhqEBbeWbJFbJfaPArIdLCACAtVMccYICbSCNLbCEbFDVC",
      "NbfmWAbGjbOUbdAbgfMGCQDGCBCEdjAcWGJFBddCRfNAbfZAbQAlPBbICvBFCHJADLCLFObNM"]⟩,
   ⟨["10.0", "v100"], String.join
     ["deMKpMBjTFtTAcHBfyXAjVDbbIAbgAAczBAyDEbcNAbpxOUblpJCiqRcTJbZDWCExIGCBCbREACBCIJJbfgQAyhL",
      "kYdEpFyaFFbrQBbJBuALUAJHCBbAATMbNFcFWdcpElbK"]⟩,
   ⟨["11.0", "v110"], String.join
     ["caYAbOAdZAuGCiEAlNAeQApIAeYAenSAboIbQDCfrNCXYFOwQEbcJAbpyIEcyIAJBmNBbkvDBTAbaUbNJJrNbNJb",
      "PoIAePCtHAlFAbaYAiWcHxMAbbFFCBCbKCBCFIJlZYbeaQdMjpJEbcjVTeXGjlXcPbsDAcfAAiMDoJCbDEDDEACD",
      "ZKOJIBbLYdTN"]⟩,
   ⟨["12.0", "v120"], String.join
     ["esTAuHADADACFFAIAIBDAOAfkIAfpVAcCAwUAbtzNFDEbjSBbmbHWbrLAxDAbcQHDbTDKgEBbzNbXOAhqVIwjLFF",
      "AbWIdNBjcXFprDCSDsaRbSENDJFBoFcFGAckAAbkOcIbpFAcbHAbLAiWLlECbWAbYAKAbQFEBLFEHDCbXdFbDDFC",
      "GCOF"]⟩,
   ⟨["12.1", "v121"], "tiDA"⟩,
   ⟨["13.0", "v130"], String.join
     ["diCJzEAqPAeVAfaKBgjVAbaVCbhPEkpJJbfdHMcyTDbRBcCAbfWDbgqRAewYbPCCDBjVbBoQAfFBzBAGBbtNGDAD",
      "HCBCbDCBDLKJckLAbejSAMBkfYsObRIblwVCdQCcKAbyVBbKBqUBdNAdYAFBbRBHCbEAgNAPDQSIGKCOGbQfQCcC",
      "bMJcmsKGbhtRhhY"]⟩,
   ⟨["14.0", "v140"], String.join
     ["ciFAwXbECBHHWATKbhQAbHAeYAdwIAIAKAjGAbaONeWAbXByMAbbIAeiPAbWAtGKbraUCcyJBPBCACEZCbftEAoS",
      "PeYAbVBcvHKCOCGCBCKCOCGCBrKFCbPCIcxYZiXFcZAcgTAfFGbhQPhwZdUwdYdACJbaeXDCGCBlDDliCbTDWKeL",
      "vEBeyWbEbhYbEbzEGCDCBCOfqLCkNApDAdFAgTBbTDLDJCSCHHJGcncQBgeWD"]⟩,
   ⟨["15.0", "v150"], String.join
     ["exNAsHAdtaLCbgACdiDJbnBQCbOEbBhxEAKbCbvhLAbJAmrBTerIFkCcJbIAbpXbPguDAfWCFEdMAzSCQBbLCMCC",
      "APBLBNAPBcthPAbiwTgfF"]⟩,
   ⟨["15.1", "v151"], "seMDtCAkeiRxX"⟩,
   ⟨["16.0", "v160"], String.join
     ["dgPAhcHBbWAkGBcwZCffFBbsqWCNCbjoMbZctXbLEbCJBlVCcEAbsMJCADACbLCJCADACDCJCBJBbcWTbvXbHPJb",
      "hHAhzAfxQkzUcFeoLcFlyKAxwJjPHqTitPbQFAhcDJFBrOAGAbVAIAWADAKAiSbK"]⟩]

/-- All characters of a version, which are those that it or one before it was the first to have. -/
def age? (name : String) : Option CharSet :=
  if ages.any (·.names.contains name) then
    let earlier := ages.takeWhile fun n => !n.names.contains name
    some (CharSet.unionAll ((earlier ++ ages.filter (·.names.contains name)).map (·.chars)))
  else none

end GoldenTree.Unicode
