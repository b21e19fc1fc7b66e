/-!
# Text segmentation classes

The code points of each grapheme cluster, word and sentence break class.  The class "other" holds what
no row names.
-/

namespace CodeSearch.Unicode

/-- The grapheme cluster break classes. -/
def graphemeBreaks : List (String × String) := [
  ("cr",
    "NA"),
  ("cn control",
    "AJBBBRdRbGNAcbMAguRAdaQACBYGbXPdghJAjGLtuAPbzqUDhwXHbtkzLbFdSeXjGfiL"),
  ("ex extend",
    "bdOeHkPGkDbSBABBBBBAcUKbWUQAdXGCFCBBDbJAbEbAdNKcGIJAYDBIBCBEbRCcIHbQXBbFcDABAEHEADGKBbDAcGABA
    CDIAJAKBbAACBcFAEBEBCCDAbEBDALBcFAEEBBEAUBWFBAcGABBBDIAHCKBbEAcHABAMAJAbOADAcDABCFCBDHBLBbDAc
    GACACADAFBHBLBbCBcFBBACDIAJAKBbDAcUAEACCBAIAdDACGMHdUACILGcVBbBABABAcDNBEBBFKBbJJAdYDBFBBCBZB
    ECQDNACBGAPAbbBCbkKCbDBbEBbEBcMBBGIACKJAbTCBAeNBbIAeOCEBJAGCiLBCAcGABGBABACHGJCAbWbEbXDbWGBAF
    AbOIMBbGDCBBCcEABBDABCcGHCBfWCBMBGEAGADBhQcLuEAhNbGeoCCfLAdSbFvIFeBBbsqEDBJbGBdCBkMADAEAZBFAf
    VBbARNAbMHZKbUCbWACDCBbNAcPFCBCBMAIAbVAbZABCCBFBBAbQBIAjEACAEAbdzSAbcJPQPoCBxHAiSAfTEcmGCBBFD
    bOCEAgJBwBDoXBdCCcSKbXDeTAcCObPACBKCbXDCBHAcJCbKEBHcKAMBcAIKDCAdRCCABBGACAgBADHVBcFBBABAWAOGD
    EhNHCCBAXAdDACFBACABBBBjBACDGBBBbBBdHHCABBeCABACFBAdXCCDBEjZIBBjLAKBBAEAfODCBEAbGJbOFCDIAJFCC
    bUMBBpQGBFBAdEVCGBBBBeSFDABBBGBAcUBDABAnJBLBcAEFABAhyRAGOurQEcHGboIAcLDdDAbdbKBgyZbTCWuWABCEE
    IHCGbEDfSCcyDcCEbXIAOAWEBOcaIGBQCGBBBEdWAgEGoLAcJDtODbmEGeFGebGEbsxyUdReYjF"),
  ("l",
    "glKdRcfoQbC"),
  ("lf",
    "KA"),
  ("lv",
    "cndOAbBAbBAbBAbBAbBAbBAbBAbBAbBAbBAbBAbBAbBAbBAbBAbBAbBAbBAbBAbBAbBAbBAbBAbBAbBAbBAbBAbBAbBAb
    BAbBAbBAbBAbBAbBAbBAbBAbBAbBAbBAbBAbBAbBAbBAbBAbBAbBAbBAbBAbBAbBAbBAbBAbBAbBAbBAbBAbBAbBAbBAb
    BAbBAbBAbBAbBAbBAbBAbBAbBAbBAbBAbBAbBAbBAbBAbBAbBAbBAbBAbBAbBAbBAbBAbBAbBAbBAbBAbBAbBAbBAbBAb
    BAbBAbBAbBAbBAbBAbBAbBAbBAbBAbBAbBAbBAbBAbBAbBAbBAbBAbBAbBAbBAbBAbBAbBAbBAbBAbBAbBAbBAbBAbBAb
    BAbBAbBAbBAbBAbBAbBAbBAbBAbBAbBAbBAbBAbBAbBAbBAbBAbBAbBAbBAbBAbBAbBAbBAbBAbBAbBAbBAbBAbBAbBAb
    BAbBAbBAbBAbBAbBAbBAbBAbBAbBAbBAbBAbBAbBAbBAbBAbBAbBAbBAbBAbBAbBAbBAbBAbBAbBAbBAbBAbBAbBAbBAb
    BAbBAbBAbBAbBAbBAbBAbBAbBAbBAbBAbBAbBAbBAbBAbBAbBAbBAbBAbBAbBAbBAbBAbBAbBAbBAbBAbBAbBAbBAbBAb
    BAbBAbBAbBAbBAbBAbBAbBAbBAbBAbBAbBAbBAbBAbBAbBAbBAbBAbBAbBAbBAbBAbBAbBAbBAbBAbBAbBAbBAbBAbBAb
    BAbBAbBAbBAbBAbBAbBAbBAbBAbBAbBAbBAbBAbBAbBAbBAbBAbBAbBAbBAbBAbBAbBAbBAbBAbBAbBAbBAbBAbBAbBAb
    BAbBAbBAbBAbBAbBAbBAbBAbBAbBAbBAbBAbBAbBAbBAbBAbBAbBAbBAbBAbBAbBAbBAbBAbBAbBAbBAbBAbBAbBAbBAb
    BAbBAbBAbBAbBAbBAbBAbBAbBAbBAbBAbBAbBAbBAbBAbBAbBAbBAbBAbBAbBAbBAbBAbBAbBAbBAbBAbBAbBAbBAbBAb
    BAbBAbBAbBAbBAbBAbBAbBAbBAbBAbBAbBAbBAbBAbBAbBAbBAbBAbBAbBAbBAbBAbBAbBAbBAbBAbBAbBAbBAbBAbBAb
    BAbBAbBAbBAbBAbBAbBAbBAbBAbBAbBAbBAbBAbBAbBAbBAbBAbBAbBAbBAbBAbBAbBAbBAbBAbBAbBAbBA"),
  ("lvt",
    "cndPbABbABbABbABbABbABbABbABbABbABbABbABbABbABbABbABbABbABbABbABbABbABbABbABbABbABbABbABbABbA
    BbABbABbABbABbABbABbABbABbABbABbABbABbABbABbABbABbABbABbABbABbABbABbABbABbABbABbABbABbABbABbA
    BbABbABbABbABbABbABbABbABbABbABbABbABbABbABbABbABbABbABbABbABbABbABbABbABbABbABbABbABbABbABbA
    BbABbABbABbABbABbABbABbABbABbABbABbABbABbABbABbABbABbABbABbABbABbABbABbABbABbABbABbABbABbABbA
    BbABbABbABbABbABbABbABbABbABbABbABbABbABbABbABbABbABbABbABbABbABbABbABbABbABbABbABbABbABbABbA
    BbABbABbABbABbABbABbABbABbABbABbABbABbABbABbABbABbABbABbABbABbABbABbABbABbABbABbABbABbABbABbA
    BbABbABbABbABbABbABbABbABbABbABbABbABbABbABbABbABbABbABbABbABbABbABbABbABbABbABbABbABbABbABbA
    BbABbABbABbABbABbABbABbABbABbABbABbABbABbABbABbABbABbABbABbABbABbABbABbABbABbABbABbABbABbABbA
    BbABbABbABbABbABbABbABbABbABbABbABbABbABbABbABbABbABbABbABbABbABbABbABbABbABbABbABbABbABbABbA
    BbABbABbABbABbABbABbABbABbABbABbABbABbABbABbABbABbABbABbABbABbABbABbABbABbABbABbABbABbABbABbA
    BbABbABbABbABbABbABbABbABbABbABbABbABbABbABbABbABbABbABbABbABbABbABbABbABbABbABbABbABbABbABbA
    BbABbABbABbABbABbABbABbABbABbABbABbABbABbABbABbABbABbABbABbABbABbABbABbABbABbABbABbABbABbABbA
    BbABbABbABbABbABbABbABbABbABbABbABbABbABbABbABbABbABbABbABbABbABbABbABbABbABbABbABbA"),
  ("pp prepend",
    "chCFiHAbXAoUBdCAbrNAdugKAPAjKBcvRABAjOAcVFbaYArBA"),
  ("ri regionalindicator",
    "hgoKZ"),
  ("sm spacingmark",
    "dkTAcDACCIDBBbYBcHBGBCBcCAcGCcOAcGCIABBcBBcIAGBCBeKABBDCBCcACcJDcJBcGABBBBCBBBbNAOBcHBFCBCcBB
    cYBGGTBcLAeXAfIBcLAgVAJBZBbSAcmQAbEAeZAHHBBnIDCCEBBFiQBcGABAVFfPAcCABEBBcJAbEAEBCAcIACCBADBbW
    HIBgPAVAcasHBCAdKBbYPfMBbVAbWBEBCCeGBCBYAgBACBFAjDBBBBBBAblxJABAeXAbTCEBeLAYBcHAbWCJBNAdPCDBB
    AgOCbFBcHABDCBCCUBiBCIBDAeDBGABBBACAjEBGDCAeJCIBBAeFABBGAeHAkBCJAjOEBBEACABAfMCIDEAdGAbDBcKAp
    RAOAeCAHACAiFEEBBAnMBMAbWBIBBAbeiHcCeABbkxOAGA"),
  ("t",
    "grWdJcwxNbW"),
  ("v",
    "gpCcTcwzWW"),
  ("zwj",
    "mdPA")]

/-- The word break classes. -/
def wordBreaks : List (String × String) := [
  ("le aletter",
    "cNZGZbVAKAEAFWBbEBsLGbHeIEBBCDBAGABCBABTBdEBfIIgJBbLCDBABbOBAeAAbSbQbJBBdUBAPBHBKCCAQABbDbDdK
    LAYbGJBEAFVEAJADAXYHKFXBFRbPcGcBDASAHJPPEHCBCVBGBADDDAQANBBCOBKAIFEBCVBGBBBBBBbFDBATCQIBCBVBG
    BBBEDASAPBXALHCBCVBGBBBEDAbEBBCPARABFDCBDDBBABBDBDCDLWAcAHBCBWBPDAbACCACBbEAEHBCBWBJBEDAbFBBB
    PBRIBCBbOCAQAFCICYFFRDXBIBACGmBAcLHBbJbBEkPbLBAFACbQBmUBDCGBABDCbOBDCbGBDCGBABDCOBcEBDCcObLPQ
    dHCFDxVCQBZFcWDKHRNSOROMBCgTdKHECbHBAFcRKbEiRWjEbURHcCbDNBKbRbAbJbPCKbJCIHbQCCbPDBFBBDAFhJcMk
    RCFCbLCFCHBABABABbECcABGBADCBGDDCFEMFCBGeMANAQMdXAEACJBADEGABABABDBKCDFEEARbObfHbZcrUiUGDDBMb
    LBAFACcDHAQWJGBGBGBGBGBGBGBGdCAsBAcBBhSbQBdPRbFbptObsUcPbTCkIDPKBUbUQbECdBYhMFBBABEYPBCBDBWbD
    bZObXcKFDABBLbBKWZbCHbUbCAbWbOXCBHfSKHCMFCFCFJGBGBcFGeKbDqnRMWEbWngUGMEcEdTbHnYScLCcBbOLeMEBf
    EbKZGZcRbEDFCFCFCCbJLBZBSBBBOCNbIeScRcAkHbCDbWbVbFNbDFbLKbDCbJEHBEbQgBSbJEbJEbNIbZMKBOBGBBBKB
    OBGBBcPlYJVKHYFBbPBIcRFCABbRBBDACWKWJbEcNSBBKVKZcScDGBcMAPDBCBbCbQbCDbCbJHBbBbBcBKVKSNReGcUcD
    bYNbYNbJnKbPGBdAbCKAIVbQRbUUbBWMcAcFBCANbSbGYbAbJbDACAIbIDAMbVODVABAbJRBYTBcLGBABDBOBJHbUbMHC
    BCVBGBBBEDASAMEgCcASDUCbEbVUBBAhCbUbPDbKbVUAcHbQNAmPbReMcLbFHCACHBBBXPABAdQHCbMQABAbCAKbNHAVA
    LbTTAScUkDIBbKRAbXbDeIGBBBbLVAZFBBBbFOAmPSPABMBbHeUAdBbjLdYeGRhNdxKdSPbpFRFfyVwKmuBvWHbERdARb
    DSbVQDbFUFSbaMcLeYcWFAcOMcMBBAbcvKeCFMDIHJiwKdGBcSBBCACBCDBLBABGBcMBDCHBGBbBBDBEBADGBnBCYBYBb
    EBYBbEBYBbEBYBbEBYBHcsYbEGFkBcJfQbSKGQAmJbDSbRsQbBbdCGBDBBBOBhOcHcPHAbuIDBbABBBACABJBDBABAGAE
    ABABABCBBBACABABABABABBBACDBGBDBDBABJBQFCBEBQyEZGZGZ"),
  ("cr",
    "NA"),
  ("dq doublequote",
    "bIA"),
  ("extend",
    "bdOeHkPGkDbSBABBBBBAcUKbWUQAdXGCFCBBDbJAbEbAdNKcGIJAYDBIBCBEbRCcIHbQXBbGcCCBRBGKBbDCcEABGCBCC
    JAKBbAACCcEABEEBCCDAbEBDALCcEABHBCBCUBWFBCcEABGCBCCHCKBbEAcHEDCBDJAbOEcDABGBCBDHBLBbDCcEABGBC
    BDHBLBPAMDcDBBGBCBDJAKBbDCcSAEFBABHSBcJACGMHdUACILGcVBbBABABAEBbXTBBFKBbJJAdWTXDECBCCGDDNLBAK
    DbbBCbkKDbCCbDBbEBcMbFJAbTCBAeNBbIAeOLELiLEcFJBbCCAbWbEbXEbVQbMIMCbEMcENbWTfWCBUEAGACChQcLuEA
    hNbGeoCCfLAdSbFvIFeBBbsqEDBJbGBdCBkMADAEAXEEAdFBbYRbARNAbMHZMbSDbVNbKAcPNMAIBbTCbYABCCBFBBAbP
    EFBjCHBBbdzSAbcJPQPoCBxHAiSAfTEcmGCBBFDbOCEAgJBwBDoXBdCCcSKbXDeSCcBObPACBKDbTKHAcJCbKNQBbSAMC
    bWNIDBBdOLGACAgBLVDcDBBGCBCCJAKBCGDEhKRXAdDTjBGCIbBBdEQeCMdXOjWOjLFBBCDBABBfLGCGDAbCJbOGBDIAJ
    KbUPpPHBHdEVBNeSFDABBBGBAcOEBBBEnJDJBBAbWGDEhyRAGOurQEcHGboIABcCHDdDALBbdaXBgyZbTCWuWEDFIHCGb
    EDfSCcyDcCEbXIAOAWEBOcaIGBQCGBBBEdWAgEGoLAcJDtODbmEGeFGebGEbsxyUdReYjF"),
  ("ex extendnumlet",
    "dRAmbFAPBTAdgaOBYCjFA"),
  ("fo format",
    "gRAcaKFWAhKAbXAoUBdCAftJAdaTBbAEbXEBJdghJAjPCgiZAPAnkKPbzqUDhwXHbtkzMA"),
  ("hl hebrewletter",
    "cfGbAEDdovYABJBMBEBABBBBBJ"),
  ("ka katakana",
    "sgNEdXBDdMBDjGPiAbUBdJczhEcDcouCDBGBBBAlBCbYAOD"),
  ("lf",
    "KA"),
  ("ml midletter",
    "cGAeUAbbRAsDAfSAjxYAdgbBAcNAhOA"),
  ("mn midnum",
    "bSAOAbgCAuCAfABdQApFAjfFAdfzVADAcHADAhBAOA"),
  ("mb midnumlet",
    "bUAmcFBKAdgdPAgYAGA"),
  ("nl newline",
    "LBeQAlzMB"),
  ("nu numeric",
    "bWJciOJBAfCJhQJpWJeOJeOJeOJeOJeOJeOJeOJeOJeOJdSJeOJcSJkSJcSJctQJbMJlOJeYJgKJGJhAJdIJfEJGJcaeO
    JbaCJbMJhQJWJdIJpQJbfmCJccKJdfYJbfGJeYJcIJfOJkSJnEJeOJoKJdYJdYJqGJdYJbdEJjMJcSJqGJbckSJdIJfEJ
    bpbWbXdnCJqGJtIJbqSJhbAJ"),
  ("ri regionalindicator",
    "hgoKZ"),
  ("sq singlequote",
    "bNA"),
  ("wsegspace",
    "bGAimHAdpNGBCdGAfxWA"),
  ("zwj",
    "mdPA")]

/-- The sentence break classes. -/
def sentenceBreaks : List (String × String) := [
  ("at aterm",
    "bUAmcRAdgdPAhFA"),
  ("cr",
    "NA"),
  ("cl close",
    "bIAECbXABAbDABAbTAPAfmSDcuNBdpJHZBKBcCBOByJDbDBbpGFHNdBBbFJpNVcLDbGBbnMNOBCJYASHqLJCHBCczrQBi
    HBbCPCBQFgNBbXABAbDABABBBBdpoSC"),
  ("ex extend",
    "bdOeHkPGkDbSBABBBBBAcUKbWUQAdXGCFCBBDbJAbEbAdNKcGIJAYDBIBCBEbRCcIHbQXBbGcCCBRBGKBbDCcEABGCBCC
    JAKBbAACCcEABEEBCCDAbEBDALCcEABHBCBCUBWFBCcEABGCBCCHCKBbEAcHEDCBDJAbOEcDABGBCBDHBLBbDCcEABGBC
    BDHBLBPAMDcDBBGBCBDJAKBbDCcSAEFBABHSBcJACGMHdUACILGcVBbBABABAEBbXTBBFKBbJJAdWTXDECBCCGDDNLBAK
    DbbBCbkKDbCCbDBbEBcMbFJAbTCBAeNBbIAeOLELiLEcFJBbCCAbWbEbXEbVQbMIMCbEMcENbWTfWCBUEAGACChQcLuEB
    hMbGeoCCfLAdSbFvIFeBBbsqEDBJbGBdCBkMADAEAXEEAdFBbYRbARNAbMHZMbSDbVNbKAcPNMAIBbTCbYABCCBFBBAbP
    EFBjCHBBbdzSAbcJPQPoCBxHAiSAfTEcmGCBBFDbOCEAgJBwBDoXBdCCcSKbXDeSCcBObPACBKDbTKHAcJCbKNQBbSAMC
    bWNIDBBdOLGACAgBLVDcDBBGCBCCJAKBCGDEhKRXAdDTjBGCIbBBdEQeCMdXOjWOjLFBBCDBABBfLGCGDAbCJbOGBDIAJ
    KbUPpPHBHdEVBNeSFDABBBGBAcOEBBBEnJDJBBAbWGDEhyRAGOurQEcHGboIABcCHDdDALBbdaXBgyZbTCWuWEDFIHCGb
    EDfSCcyDcCEbXIAOAWEBOcaIGBQCGBBBEdWAgEGoLAcJDtODbmEGeFGbtcaFdReYjF"),
  ("fo format",
    "gRAcaKFWAhKAbXAoUBdCAftJAdaQACBbAEbXEBJdghJAjPCgiZAPAnkKPbzqUDhwXHbtkzMA"),
  ("lf",
    "KA"),
  ("lo lower",
    "dTZbVAKAEAbKXBHBABABABABABABABABABABABABABABABABABABABABABABABABABABABBBABABABABABABABBBABABA
    BABABABABABABABABABABABABABABABABABABABACABABCCABACADBEACADCCACABABACABBBACADABACBCCGACACABAB
    ABABABABABABBBABABABABABABABABBCABADABABABABABABABABABABABABABABABABABABABABABABABABABABABABA
    BGCACBBAEABABABABcQBbJHBbEEfKABADACDSAbBbIBBDCBABABABABABABABABABABABEBACACBbZbVBABABABABABAB
    ABABABABABABABABABABAJABABABABABABABABABABABABABABABABABABABABABABABABABABACABABABABABABBBABA
    BABABABABABABABABABABABABABABABABABABABABABABABABABABABABABABABABABABABABABABABABABABABABABAb
    WbOeiTAbdJFdfUIePhJcNABABABABABABABABABABABABABABABABABABABABABABABABABABABABABABABABABABABAB
    ABABABABABABABABABABABABABABABABABABABABABABABABABABABABABABABABABABABABABABIBABABABABABABABA
    BABABABABABABABABABABABABABABABABABABABABABABABABABABABABABABABABABABABABABABABABIIFKHIHIFKHI
    HINCHIHIHIEBBGADCBBIDCBIHKCBBeRANAQMeFADBDAbBAEAEACBIDEAbHPEAbgLZctQbVBADBBABABAEABBBHDABABAB
    ABABABABABABABABABABABABABABABABABABABABABABABABABABABABABABABABABABABABABABABABABABABABABABB
    HABAEAMbLBAFAbtwDABABABABABABABABABABABABABABABABABABABABABABATABABABABABABABABABABABABABCfDA
    BABABABABABCBABABABABABABABABABABABABABABABABABABABABABABABABABABABABABABJBABACABABABABAEABAC
    ABCBABABABABABABABABABAFAFABABABABABABABAEABAGABABABABAYCBABCbfPbQBNGdBbeaIGMEboZZbvHbNfGbJfZ
    KBOBGBBrJACCBbPBIbxLbYemFbFbgjWbFbmmKZbAGBRbAZbADBABGBKbAZbAZbAZbAZbAZbAZbAZbAZbAbBbCYBFbAYBF
    bAYBFbAYBFbAYBFBAcsYJBTGFkBcJdhSbH"),
  ("nu numeric",
    "bWJciOJBBfBJhQJpWJeOJeOJeOJeOJeOJeOJeOJeOJeOJdSJeOJcSJkSJcSJctQJbMJlOJeYJgKJGJhAJdIJfEJGJcaeO
    JbaCJbMJhQJWJdIJpQJbfmCJccKJdfYJbfGJeYJcIJfOJkSJnEJeOJoKJdYJdYJqGJdYJbdEJjMJcSJqGJbckSJdIJfEJ
    bpbWbXdnCJqGJtIJbqSJhbAJ"),
  ("le oletter",
    "rBAEDiAAbKGGLbAABAfDAsQAeObAEEbSbQbJBBdUBAPBHBKCCAQABbDbDdKLAYbGJBEAFVEAJADAXYHKFXBFRbPcGcBDA
    SAHJPPEHCBCVBGBADDDAQANBBCOBKAIFEBCVBGBBBBBBbFDBATCQIBCBVBGBBBEDASAPBXALHCBCVBGBBBEDAbEBBCPAR
    ABFDCBDDBBABBDBDCDLWAcAHBCBWBPDAbACCACBbEAEHBCBWBJBEDAbFBBBPBRIBCBbOCAQAFCICYFFRDXBIBACGcGbVB
    BMGcGBBABEBXBABJBBJACEBAVDbGAcLHBbJbBEeLbQUAQFEDDADBHCEMMAcNbQCmTBDCGBABDCbOBDCbGBDCGBABDCOBc
    EBDCcObLPeJxVCQBZFcWDKHRNSOROMBCPbZbJAEAcPdKHECbHBAFcRKbEbXbDCELbREZcCWJcAdEAdPbURHcCbDNBKbRb
    AbJbPCKbJSbQCCbPDBFBBDAbpQDcTCCDekTcDHAQWJGBGBGBGBGBGBGBGdCAsBCZIHECEEdHGCBdLBDFbQBdPRbFbWPtS
    jtNcMbguEcPbTCkIDPKBcOAQAbGdBbNIeAAGAdZADGBCBDBWbDbZObXcKFDABBLbBKWZbCHbUbCAQEBJKEBbOXCBHUWDA
    DbXBADBCECABAYCCKHCMFCFCFJGBGfPbIbDqnRMWEbWmnCoBCeBcPABJBMBEBABBBBBeDbHnYScLCcBbOLeMEBfEeBcDC
    bEDFCFCFCCbJLBZBSBBBOCNbIeScRcAkHbCDbWbVbFNbDFbLKbDCbJEHBEeScZdUbNIbZgAlYJVKHZBeVFCABbRBBDACW
    KWJbEcNSBBKVKZcScDGBcMAPDBCBbCbQbCDbCbJHBbBbBcBKVKSNReGcUhBbJnKbPGBdAbCKAIVbQRbUUbBWMcAcFBCAN
    bSbGYbAbJbDACAIbIDAMbVODVABAbJRBYTBcLGBABDBOBJHbUbMHCBCVBGBBBEDASAMEgCcASDUCbEbVUBBAhCbUbPDbK
    bVUAcHbQNAcTbAbLGhDbRiDHCACHBBBXPABAdQHCbMQABAbCAKbNHAVALbTTAScUkDIBbKRAbXbDeIGBBBbLVAZFBBBbF
    OAmPSPABMBbHeUAdBbjLdYeGRhNdxKdSPbpFRFfyVwKmuBvWHbERdARbDSbVQDbFUFSbhWcWFAcOMcMBBAbCjbZIbvPbQ
    InfRDBGBBBlEPAbDCCAODIpFdkUeCFMDIHJnbCAtHbSKGQAmJbDSbRsQbBbdCGBDBBBOBhOfEAbuIDBbABBBACABJBDBA
    BAGAEABABABCBBBACABABABABABBBACDBGBDBDBABJBQFCBEBQgoAclfBbGgdTGiNCinPOlbKepJuVcfYhhYFgfF"),
  ("sc scontinue",
    "bSBMAbyOAgSBsWAgbXAFAdbEBgaUAdaaWBBAbDBbDBDACAKAgMBMAcVA"),
  ("st sterm",
    "bHAbDAcaBAfRCgYAbRCjMAcJABADBlHBcpWBbeKAEBbdTAhQBhWAFAmCBnQDgSBCBbDBhGBcNBbkUBJCfgUANAWBqNAbs
    hWAkKBiTADAoSBdIBdRAfWBfRCfOBjPAbffMBgNAbDAcNAedWBbxDEbSDhHBeNDeXCeZBGAQBdKBBBeEAqBBoJBFOeBBj
    PCtXABAjRBdJBqEBbaQBcWBbcmBBfDAcNBLAbgTAbdoGAliMA"),
  ("se sep",
    "fDAlzMB"),
  ("sp",
    "JABBTAeXAihJAdpNKbKAbVAfxWA"),
  ("up upper",
    "cNZdXWBGbHABABABABABABABABABABABABABABABABABABABABABABABABABABABACABABABABABABABACABABABABABA
    BABABABABABABABABABABABABABABABABABBBABADBBABBBCCDBBBCDBBBBABABBBACABBBCBABBDAHBBBBBBABABABAB
    ABABABACABABABABABABABABACBBABCBABABABABABABABABABABABABABABABABABABABABABABABABABABABABAHBBB
    CABDBABABABAlDABADAIAGABCBABBBQBIbJACCDABABABABABABABABABABABAFACABBCbYbWABABABABABABABABABAB
    ABABABABABABAJABABABABABABABABABABABABABABABABABABABABABABABABABABABBBABABABABABACABABABABABA
    BABABABABABABABABABABABABABABABABABABABABABABABABABABABABABABABABABABABABABABABABABACbLehDbLB
    AFAbbUdHduWABABABABABABABABABABABABABABABABABABABABABABABABABABABABABABABABABABABABABABABABAB
    ABABABABABABABABABABABABABABABABABABABABABABABABABABABABABABABABABAJABABABABABABABABABABABABA
    BABABABABABABABABABABABABABABABABABABABABABABABABABABABABABABABABABABABAJHIFKHIHIFLABABABAIHY
    HIHIHIELELDMELEkBAEADCCCCADEGABABABDCDKBFAbAPTAbfMZcsUbVbWABCCABABABDBACAICBABABABABABABABABA
    BABABABABABABABABABABABABABABABABABABABABABABABABABABABABABABABABABABABABABABABAIABAEAbtyJABA
    BABABABABABABABABABABABABABABABABABABABABATABABABABABABABABABABABABABAfFABABABABABABADABABABA
    BABABABABABABABABABABABABABABABABABABABABABABABABABABAKABABBBABABABAEABACABADABABABABABABABAB
    ABABEBEBABABABABABABABDBAGAFABAbCAbhaHZbuZbNfGbJgAKBOBGBBcqCbYenLbFbgjWbFbmmQZbAZbAZbAABBCACB
    CDBHbAZbABBDCHBGbBBBDBEBADGbBZbAZbAZbAZbAZbAZbEYbHYbHYbHYbHYbHAgnLbHdbIZGZGZ")]

end CodeSearch.Unicode
