/-!
# Ages

The code points that each version of the character repertoire added, oldest version first.
-/

namespace CodeSearch.Unicode

/-- The versions of the repertoire and the code points they added. -/
def ages : List (String × String) := [
  ("1.1 v11",
    "AtHEbDcEdKHbUBJWcRbABSBEADAFGBABTBbRBGDABABABABRNLBcNBLBbOJcACBCBDbBCHCBcDbLCGBbMBAbMJBIMbAFE
    XAOADABZFSNNCcTCEBOBbDCJtZCBcACRCEDYQCBHCBCVBGBADDCABGCBCCJAEBBECUHACFEBCVBGBBBBBBCABEEBCCLDB
    AHOMCBGBABCBVBGBBBECJBCBCCAPAFJRCBHCBCVBGBBCDCHDBCCIBEBBCEKRBBFDCBDDBBABBDBDCDHBCEEDCBDJAPLOC
    BHBCBWBJBEEGBCBDHBJBEJSBBHBCBWBJBEEGBCBDHBHABBEJSBBHBCBWBPEFCCBDJAIBEJfPcFEbCbLBBACBBACAGDBGB
    CBABACBBMBCCEBABFCJCBrIbLKbMEAEdLFcPFdDeoKfYFdLGVCFCbLCFCHBABABABbECcABOBNCFBSCCBIBbUBWbJGDbA
    RKbLRbEcEbAbVNdMVjHOABeQfDbKbBKVfIVfTKdBQTGdHfPDBDCbBBbIBABDDABGCGObEDXBNddHcDHABdFEFCdPGbNEd
    PBPdSbCDbJbCbBDbXPLEbUBeOEdUCbEjwBbexXyjQjxTiCGMEGYBEBABBBBBeDbHoAQcLCcBbOLbKDMUEJBSBDECBABfE
    CABdPCdPDFCFCFCCDGBGOC"),
  ("2.0 v20",
    "ccVQBMUAdmXcTBbGHbAEFBABUDGBAfqNAuHAcatWqnRdOdaTefbQBdsyOBdsyOBdsyOBdsyOBdsyOBdsyOBdsyOBdsyOB
    dsyOBdsyOBdsyOBdsyOBdsyOhlxH"),
  ("2.1 v21",
    "mjSAdgoTA"),
  ("3.0 v30",
    "tIDbEHCReNEbXAKEdJITAeMADABABABAbEAMAcOAMAbQBCDdOBgAAhSCdUBFAPAbQEBNBbDDbAcBbWcfHBBRDXBIBACGD
    AEFBABHSCoJAbRAXCHABCBOCAbWbHBEBBBGDDGZqGGBcKBABDCGBABDCbMBABDCbEBABDCGBABDCGBGBWBbEBABDCGBbM
    BSGbBbJdGMyFJbCDdCfNdODJWOBJGdJIbPcwBAYFdRCbYBdHBcUAdZIkJAeRABbDfIBrPHbHAdIBpIjVccEZBdKMiFbAL
    cICDAnPXwMjtDbfeGbsUDRCPBLBCBAbgsCAbvVC"),
  ("3.1 v31",
    "bmYBdqqCbFbxWbEBDMbAgZbLCbLczdQjLKbMDgXvAdGBcSBBCACBCDBLBABDBBBcMBDCHBGBbBBDBEBADGBmZElDEbXpd
    WcleSbetDuVbpcqTAbEdR"),
  ("3.2 v32",
    "uYAlQATMeABbCAfRBcFBCBCBbXPnMBmJAdnHBchJMBGLWJTMMBCBBdiXAGEEAHENAcKBbYGdEOgMLjINeUAbEbZkYTfVJ
    dKHWBdMLCJiONdMbBEPjWtRbzNCdJBIBdQAjGPdDOdDObrdIBQAMADAbgjAcGbjDADPcBBbSAjBB"),
  ("4.0 v40",
    "uZASCePBcLQdCHFCfVEtWDJIcMCfTBPAbTCbDCqUAhCAcPABAfGAdGCNAcPAcHAeZHhLBefNASJkCbCDLELEADbPCEeDb
    FbdOeDbcPBiWAzJBlQAkQBeMHOBbrANcrNBbXAbRBdADgLDdVBbFAjtOcLcoqVAcVBqXLBZBSBBBOCNbIeSFCEbSDIwEb
    DBAfEBbMdBCJbgWFCABbRBBDACAcyuIdInYAbtkdAjF"),
  ("4.1 v41",
    "vVKkSEgDDjMBgOAbICcPASAcGFjHbDuHAdCAsTAbVAbmNBlJBBAkGAcLAcLAbNAbFAbFAbFAPAbNAXBbFZcgCbPGZGJEB
    bGbBCBbgMdJzHBBGbXEbDDcBAdCAPAyUKwAAdXBSKFPkKGbgHFjCbUBbUbHeCObSKcBJAQWJGBGBGBGBGBGBGBGbHXEBb
    jUPgSAbpiTVctOWiZbRbfeAeBbfQJbfAcWuNbJENciSDBBFHBCBbAECEIIIcxpVcRbrAB"),
  ("5.0 v50",
    "wGNlNCmZAbQFQDgKAtXcGoUBBBbhIBNBfiJcXEbSwLGbZBbcUDdPBcBAxBLbbMAkQDbgJGFDmEMHDbulJDFBlAcDbkoMZ
    FAirGbhUfPdUNDcogIRbqUB"),
  ("5.1 v51",
    "bhWDCBdJAhBAfKPiSELEbGElQRtDBiOAbJAhYAbDBeEAeEAbABIBUHhHAGAbDBMFDGsXBdTADCcZAFACAHCEFbAcLEBdb
    EAbbXbQDLcScDDODbYmTbBgZDdMFnSAfJAdQAcBDbyAAVJDDkEAbFDbfFEEbODEkUCBCEFnQbFYDCSbdKAgGTbppOHbzO
    lNUbFCRIbBfBECeCeGEeYcQJLbMdFLAgEcCJNCJCDbfsUCbhPLcAbTfAbCDbWckDZFAcxsJAlrQbREdV"),
  ("5.2 v52",
    "byQBbcCbTCOhLAcZAGAbJBeYAcfPDhLDhGEcQEdEFtSAyGIvOcRgYBbUAcRcKBbCCKGJGNvAbIkGAbaUCfVCcCAxIAbaR
    BbDCEJBSBAEXdJAbnHEkSANBeDGmHAboCLbplSHbxKbVqAdJmAJgKbBdWbCDcZBKEBeYbBEcOYEiQbTCJqoKWEbWnbBCf
    gCVBIhEBmMbFeYcBDbCCbAFHeYcUuPbEtTcNlvQbpEctnDKFbECALABACADADEIAHAZABBCAKDCAeHAPbHOIcqlJgdO"),
  ("6.0 v60",
    "bySBjOAcKAsMbBCAiLBTAGBbBEtMFqRAQATAwBDcVBbiOBdeNbZIDtOAzOHbCAbfJKbcCATABDbDAEBbCAbJABAECJBcA
    CYAOAOBcdKAOAbpOCbseNBlNBBBOJdCAbdUFCFCFJGBGbemTPhrIcZEbDbheEvWbalBBymGOCNCOBOdCABKBABBBCBCFH
    BGBJGIBACBBJEBBJcXZBBbVIVBgSbGPFBcRDTMbKBEVQPcKBABgZBDDcJSXfREBPBCBABABABCBFCDBACDBLEKbWcRcGe
    LcuqMiN"),
  ("6.1 v61",
    "ccTAeMAzRABKcDbAtDAbmRBsTAFAbVCebBCMFjWHbRDecQABAbyQBbZAFAcEBhUJbraEAcnNHbJAjIBWAcZBbcOWbdzZB
    fuUcDGBcrOYHJGcABNcIcUHJbtUcDIJbhkOcQLbUQQbvwIDBbABBBACABJBDBABAGAEABABABCBBBACABABABABABBBAC
    DBGBDBDBABJBQFCBEBQcAByIBblSDhGAQADABABABADAGBEABBEA"),
  ("6.2 v62",
    "mkGA"),
  ("6.3 v63",
    "ciEAjyVD"),
  ("7.0 v70",
    "biLAqIHdPBeOAzRALFcYAeQAHAyPAbZAcYAeXAiUJdkRHvCBpLOvXBjDObbHCbfQGbdTAbqICKZCbFCbHDLBHxUGbtoVF
    jMLLCCBcRAsUbEeVDgUbVEBbfiVGbhDBTAmHbBbJAbWbQoZbNIbZLAfOlYJVKHjOcKIIrWbFbGbMELfHRHDMGbvJAiAbM
    dIAMAGTLRBbQeKcGFJHCBHCBCVBGBBBECICBCCJAFGCGDEkHcTIJgKcBCRcCcQLJwKdEMArGcEdfIbPhULFAbalFbEBJE
    BdSbDCFKcRKJBGBUFSbemAeCFMDIHJCHqkYhOCPczWAbGVVBuMLJAcSAWLbLAFDFLRGcTABAhAAEBcLBEGbDRBbOBdHcS
    BNbVcSJQMDDfKdGbRLEcDIJGbNIbD"),
  ("8.0 v80",
    "dhRBbUAuNAnOAkAAcmVACFevOAhVBdyEDbrwVIcoUAjGAbIFmMBxMDMdBbffQBebGSBBFEhGBCPCbTyQbYNbYHFbvDDOE
    gEGBABDBOBKdIAdBAyJTlEZDOEPerPAiWhNlqQwKcawLKchZzBPEBOjhDCdABdBEbKHjVAcXEjJBfJAwDIdZEcHAcucLi
    nP"),
  ("9.0 v90",
    "dhUHWObjPAhYAECBGXCfrZIoGAchBDdxCBbtzLAkSAbhqDBbeVbJEbJfaOArHdLBABAtUMccXIBbSBNKbCDbFCVBNbfmV
    AbFjbOTbdAbgfLGBQCGBBBEdiZcWFJEBddBRfMAbfYAbPAlOBbHCvAFBHIACLBLEObMM"),
  ("10.0 v100",
    "deMKpLBjSFtSAcGBfyWAjUDbbHAbfZAczAAyCEbcMAbpxNUblpICiqQcTIbZCWBExHGBBBbRDABBBIIJbfgPAyhKkYdDp
    FyaEFbrPBbIBtZLTAIHBBZASMbMFcEWdcpDlbK"),
  ("11.0 v110",
    "caYAbNAdYAuFCiDAlMAePApHAeXAenRAboHbQCCfrMCWYEOwPEbcIAbpyHEcyHAIBmMBbkvCBSAbaTbNIJrMbNIbPoHAe
    OCtGAlEAbaXAiVcHxLAbbEFBBBbKBBBFHJlYYbeaPdMjpIEbcjUTeWGjlWcPbsCAceZAiLDoICbCECDDABDYKNJHBbKYd
    SN"),
  ("12.0 v120",
    "esTAuGACACABFEAHAHBCANAfkHAfpUAcBAwTAbtzMFCEbjRBbmbGWbrKAxCAbcPHCbTCKgDBbzMbXNAhqUIwjKFEAbVId
    MBjcWFprCCRDsaQbSDNCJEBoEcFFAcjZAbkNcIbpEAcbGAbKAiVLlDCbVAbXAJAbPFDBKFDHCCbWdFbCDECFCNF"),
  ("12.1 v121",
    "tiDA"),
  ("13.0 v130",
    "diCJzDAqOAeUAfaJBgjUAbaUCbhOEkpIJbfdGMcySDbQBcBAbfVDbgqQAewXbPBCCBjUbBoPAfEBzAAFBbtMGCACHBBBb
    DBBCLJJckKAbejRALBkfXsObQIblwUCdPCcJAbyUBbJBqTBdMAdXAEBbQBGCbDAgMAODPSHGJCNGbPfQBcCbLJcmsJGbh
    tQhhY"),
  ("14.0 v140",
    "ciFAwWbEBBGHVASKbhPAbGAeXAdwHAHAJAjFAbaNNeVAbWByLAbbHAeiOAbVAtFKbraTCcyIBOBBABEYCbftDAoRPeXAb
    UBcvGKBOBGBBBKBOBGBBrJFBbPBIcxXZiWFcYAcgSAfEGbhPPhwYdUwdXdABJbaeWDBGBBlCDliBbTCWJeLvDBeyVbEbh
    XbEbzDGBDBBBOfqKCkMApCAdEAgSBbSDKDICRCGHIGcncPBgeVD"),
  ("15.0 v150",
    "exNAsGAdtaKCbfZCdiCJbnAQBbODbBhxDAJbCbvhKAbIAmrATerHFkBcJbHAbpWbPguCAfVCEEdLAzRCPBbKCLCBAOBKB
    MAOBcthOAbiwSgfF")]

end CodeSearch.Unicode
