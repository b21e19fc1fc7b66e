/-!
# General categories

The code points of each general category.  A row names the category by its short and long names,
in lower case and without separators; the groups (letters, marks and so on) are unions of rows.
-/

namespace CodeSearch.Unicode

/-- The general categories and their code points. -/
def categories : List (String × String) := [
  ("cc control cntrl",
    "AbFdRbG"),
  ("cf format",
    "gRAcaKFWAhKAbXAoUBdCAftJAdaQEbAEbXEBJdghJAjPCgiZAPAnkKPbzqUDhwXHbtkzMAbEdR"),
  ("cn unassigned",
    "biEBGDHABAUApHAbMBbYBDAcDHbBDGKkKAcIBdXNcHBbXBPAbCBBALEbFACFjCAIBCBWAHABCEBJBCBEHBDCAFBZBDAGD
    CBWAHACACACBBAFDCBDCBGEABGRJDAJADAWAHACAFBKADADBBOEBMGHADAIBCBWAHACAFBJBCBDGDDCAFBSJCAGCDAECC
    ABACCCCDCMDFCDAEBBFBNVENADAXAQBJADAEGCADBBBEBKGWADAXAKAFBJADAEGCFCAEBKADLNADAbZADAGDQBbAADASC
    YAJABBHCBDGABAIFKBDLcGDbDbKCABAFAYABAXBFABAHAKBEbFcUAbKDbNAbKAPANbKhQABEBBoNAEBHABAEBbPAEBbHA
    EBHABAEBPAcFAEBcPBbGCbAFdIBGBzTCdLGWIYIULNADACLdQBKFKFbAFdLGbREcSJbFAMDMDBCbQBFKbSDbAFLCcKBcN
    AbDBLFKFOBbFbWcZCbVAeMHcICPCcIGbRBLHbREuOBGBbMBGBIABABABAbFBcBAPAOBGATBDAJAdXAMBbBANCbHObHOfK
    DzNYLUcrSBbGAnLEbTABEBBcEGCNYIHAHAHAHAHAHAHAHAeWbHbAAdLLiGZMDcMAdIBdZEbRAdQAdGLbVAbriRCcDInKT
    hCHhVECABAFXcHCKFcEHcSHMFeMKbECdAALDbHAcDIOBKBdZXbCJGBGBGIHAHAcIDeWBKFqnSLXDbXDnbABeCbLHLFEbA
    AFABACACAeVPrDBcCGBbFbQFbZATAEDFAfFBBAhICGBGBGBDCHAHJFBMAbAATACAPBObHeTEDDbTCdKANCBbUbUeZbDCb
    XObCDbKIbEEbREbEAbLDObPgCBKFbKDbKDbOHcAKMAPAHACALAPAHACcOlZIWJIXGAbQAJcQGBBAbSACCBBXAcUHJbVTA
    CEbHCbBEBcLcEDUBbYACEIADAbDBDDKGJGcMbFbNDMIcCCbDBbBEbAGELHdBcVcCbZMbZGbUHKlHbFAbQADBCcWbRHbQV
    bAbLbCTXIdADbKIcQJBBZGKFcBASHbNIdSAUKSAbVcJHABAEAPALFcHEKFEAIBCBWAHACAFAKBCBDBBFBEHBHCFfIdOAF
    bDcUHKgJcCBbMbHcRKKFNScGFKcBbBBPDXhCcIdVdFLIBBBIACAbEACBMIKcRIBbUBLbAcUHdFMcVGKjLJAbTAOJbDCbG
    BWAOcUHACAbSCBACAJHKFGACAbLACAGGKlXZGRAbPCbCdHBObYMbjNdXeHAFKhOdxJdVMbqSfyFwLmuAvXGbFAKDdDAKF
    bEBGJcSJKAHAVETbaLdNdWcXDcFGRcLFKCNjcAHbvQbPJnfQEAHACAlFOBbCDBBNEHpGdkTeDENCJGKBIgyTbUBXIeMcH
    jMJbNBhMUcSeRULULdJIZfEdHAcTACBBBCBEAMABAHAcNAEBIAHAbCAEAFABCHAnCBlGBbbAOFAPbqLbFFGiEHARBHACA
    FEcKbGBeHbTCOBKDCmHbFQcGEBrVbQbcNHAEACAPAhPBQbOcYDKDCbeEcQcXcJhLEAbBACABBBAKAEABABFBDBABABADA
    CABBBABABABABACABBEAHAEAEABAKAREDAFARbZCkJbSDdWLPBPAPAbLJgScDbDMbSDJGCNGfXblWDRCNCePDdRFMDBOM
    DcEHKFbOHbEBCcZnCLOBNCJGbUAHHODJGJGfRAcDbKKbnPclfCbFgdUFiOBinQNlbLepIuWcfXhhZEgfGbomxKBbDdSeX
    jGdsfNdsyOBdsyOB"),
  ("co privateuse",
    "dgvOjmDcahxOdsyNCdsyN"),
  ("ll lowercaseletter",
    "dTZcGAbPXBHBABABABABABABABABABABABABABABABABABABABABABABABABABABABBBABABABABABABABBBABABABABA
    BABABABABABABABABABABABABABABABABABACABABCCABACADBEACADCCACABABACABBBACADABACBCCGACACABABABAB
    ABABABABBBABABABABABABABABBCABADABABABABABABABABABABABABABABABABABABABABABABABABABABABABABGCA
    CBBAEABABABABcQBbAhLABADADCSAbBbIBBDCBABABABABABABABABABABABEBACACBbZbVBABABABABABABABABABABA
    BABABABABABAJABABABABABABABABABABABABABABABABABABABABABABABABABABACABABABABABABBBABABABABABAB
    ABABABABABABABABABABABABABABABABABABABABABABABABABABABABABABABABABABABABABABABABABAbWbOehBbQC
    CbdGFdfUIePbRcLMBbHdYABABABABABABABABABABABABABABABABABABABABABABABABABABABABABABABABABABABAB
    ABABABABABABABABABABABABABABABABABABABABABABABABABABABABABABABABABABABABABABIBABABABABABABABA
    BABABABABABABABABABABABABABABABABABABABABABABABABABABABABABABABABABABABABABABABABIIFKHIHIFKHI
    HINCHIHIHIEBBGADCBBIDCBIHKCBBkOADBDAbBAEAEACBIDEAcBAebBbVBADBBABABAEABBBFFABABABABABABABABABA
    BABABABABABABABABABABABABABABABABABABABABABABABABABABABABABABABABABABABABABABABBHABAEAMbLBAFA
    btwDABABABABABABABABABABABABABABABABABABABABABABATABABABABABABABABABABABABABAfFABABABABABABCB
    ABABABABABABABABABABABABABABABABABABABABABABABABABABABABABABABHBABACABABABABAEABACABCBABABABA
    BABABABABABAFAFABABABABABABABAEABAGABABABABAbCADAbfPbQFIHdBbeaIGMEboZZbvHbNfGbJfZKBOBGBBcrBbY
    emFbFbgjWbFbmmKZbAGBRbAZbADBABGBKbAZbAZbAZbAZbAZbAZbAZbAZbAbBbCYBFbAYBFbAYBFbAYBFbAYBFBAcsYJB
    TGFduDbH"),
  ("lm modifierletter",
    "baMRELOEHABAfDAFAsKAiWAgIBkJBEAbFAJADAgEAgLAbvOAeXAvTAcpMAeDAxNArWFgScKNAbIbKbaNANAQMemXBjHAh
    JAsBAbREFAdTBdPCbqbUAbwCFkKAeKAbCBeRIdCAXAeBCDBsBAWAfHAeEAVBdZDJAbfvIAbTBczOFBbPBIblrXDbqLMcM
    BBAygQDBGBBsgNcJhTGbkFAbrBA"),
  ("lo otherletter",
    "gOAPAjWAEDiAAbfVbAEDbTbFBJbJBBdUBAYBKCCAQABbDbDdKLAYbGVVbQYHKFXBFRbOcHcBDASAHJQOEHCBCVBGBADDD
    AQANBBCOBKAIFEBCVBGBBBBBBbFDBATCQIBCBVBGBBBEDASAPBXALHCBCVBGBBBEDAbEBBCPARABFDCBDDBBABBDBDCDL
    WAcAHBCBWBPDAbACCACBbEAEHBCBWBJBEDAbFBBBPBRIBCBbOCAQAFCICYFFRDXBIBACGcGbVBBMFcHBBABEBXBABJBBJ
    ACEXDbGAcLHBbJbBEeLbQUAQFEDDADBHCEMMAeJmQBDCGBABDCbOBDCbGBDCGBABDCOBcEBDCcObLPeJxVCQBZFcWGHHR
    NSOROMBCPbZbOAcPbIBcAHECbHBAFcRKbEbXbDCELbREZcCWJcAgUbURHcCbDNBKbRbAbJbPCKbDeJDBFBBDAbpQDenVc
    DYWJGBGBGBGBGBGBGBGvFAcBAEdHIABdLEAFbQBdPRbFbWPtSjtNcMbfcEBbrYcPbNIkHEPKBcOAbXcRgNAdZADGBCBDB
    WbDbZObXcKFDABBLbBKWZbCHbUbTECIKEBbOXCBHUPBFDADbXBADBCECABAYBDKHAOFCFCFJGBGfPbIbDqnRMWEbWmnCo
    BCeBcPABJBMBEBABBBBBeDbHnYScLCcBbOLeMEBfEeBJBbSCbEDFCFCFCCbJLBZBSBBBOCNbIeSoZbCDbWbVbFNTBHGbL
    KbDCbJEHeYcZdUbNIbZgAlYJVKHfWFCABbRBBDACWKWJbEcNSBBKVKZcScDGBcMAPDBCBbCbQbCDbCbJHBbBbBcBKVKSN
    ReGcUhBbJnKbPGBdAbCKAIVbQRbUUbBWMcAcFBCANbSbGYbAbJbDACAIbIDAMbVODVABAbJRBYTBcLGBABDBOBJHbUbMH
    CBCVBGBBBEDASAMEgCcASDUCbEbVUBBAhCbUbPDbKbVUAcHbQNAcTbAbLGhDbRiDHCACHBBBXPABAdQHCbMQABAbCAKbN
    HAVALbTTAScUkDIBbKRAbXbDeIGBBBbLVAZFBBBbFOAmPSPABMBbHeUAdBbjLiWhNdxKdSPbpFRFfyVwKmuBvWHbERdAR
    bDSbVbZUFSbhWcWFAgTjbZIbvPbQIngHlEPAbDCCAODIpFdkUeCFMDIHJnbCAtHbSbHAmJbDSbRsQbAbdDGBDBBBOBhOb
    zNDBbABBBACABJBDBABAGAEABABABCBBBACABABABABABBBACDBGBDBDBABJBQFCBEBQgoAclfBbGgdTGiNCinPOlbKep
    JuVcfYhhYFgfF"),
  ("lt titlecaseletter",
    "rLACACAbMAlfHHIHIHMAPAbVA"),
  ("lu uppercaseletter",
    "cNZdXWBGbHABABABABABABABABABABABABABABABABABABABABABABABABABABABACABABABABABABABACABABABABABA
    BABABABABABABABABABABABABABABABABABBBABADBBABBBCCDBBBCDBBBBABABBBACABBBCBABBDAHACACACABABABAB
    ABABABACABABABABABABABABACACABCBABABABABABABABABABABABABABABABABABABABABABABABABABABABABAHBBB
    CABDBABABABAlDABADAIAGABCBABBBQBIbJACCDABABABABABABABABABABABAFACABBCbYbWABABABABABABABABABAB
    ABABABABABABAJABABABABABABABABABABABABABABABABABABABABABABABABABABABBBABABABABABACABABABABABA
    BABABABABABABABABABABABABABABABABABABABABABABABABABABABABABABABABABABABABABABABABABACbLehDbLB
    AFAbbUdHdgSbQCCmIABABABABABABABABABABABABABABABABABABABABABABABABABABABABABABABABABABABABABAB
    ABABABABABABABABABABABABABABABABABABABABABABABABABABABABABABABABABABABABAJABABABABABABABABABA
    BABABABABABABABABABABABABABABABABABABABABABABABABABABABABABABABABABABABABABABAJHIFKHIHIFLABAB
    ABAIHcUDMDMDMELDkCAEADCCCCADEGABABABDCDKBFAcJAdzGbVbWABCCABABABDBACAICBABABABABABABABABABABAB
    ABABABABABABABABABABABABABABABABABABABABABABABABABABABABABABABABABABABABABAIABAEAbtyJABABABAB
    ABABABABABABABABABABABABABABABABABABATABABABABABABABABABABABABABAfFABABABABABABADABABABABABAB
    ABABABABABABABABABABABABABABABABABABABABABABABABAKABABBBABABABAEABACABADABABABABABABABABABABE
    BEBABABABABABABABDBAGAFABAbCAbhaHZbuZbNfGbJgAKBOBGBBcqCbYenLbFbgjWbFbmmQZbAZbAZbAABBCACBCDBHb
    AZbABBDCHBGbBBBDBEBADGbBZbAZbAZbAZbAZbAZbEYbHYbHYbHYbHYbHAgnLbH"),
  ("mc spacingmark",
    "dkTAcDACCIDBBbYBcGCGBCBKAbRAcGCcOAcGCIABBcBBcGABAGBCBKAdYBBBDCBCKAbPCcJDcJBcGABECBBBJBbCAOBcG
    CFCBCKAbQBcXCGHSBmSBcLAgPBEAGACBZBKCCGVBCFCAKCclSAbEAeZAHHBBnIDCCEBBFiQBcGABAJABBIFfPAbWAFABE
    BBcJAbEAEBCAcIACCBADBbWHIBgPAVAhhEBbtlBBCAdKBbYPfMBbVAbWBEBCCeGBCBYAbTABAeFACBFAjDBBBBBBAblxJ
    ABAeXAbTCEBeLAYBcHAbWCJBNAdPCDBBAgOCbFBcGBBDCBCCJAKBiBCIBDAeCCGABDCAjDCGDCAeJCIBBAeFABBGAeBBE
    AkBCJAjNFBBEACABAfMCIDEAdGAbDBcKApRAOAeCAHACAiFEEBBAnMBMAbWBIBBAbeiHcCeABbkxNBGF"),
  ("me enclosingmark",
    "bsQBikQAciGDBCbyoXC"),
  ("mn nonspacingmark",
    "bdOeHkPEkFbSBABBBBBAcUKbWUQAdXGCFCBBDbJAbEbAdNKcGIJAYDBIBCBEbRCcIHbQXBbFcDABAEHEADGKBbDAcGAED
    IAUBbAACBcFAEBEBCCDAbEBDALBcFAEEBBEAUBWFBAcGACABDIAHBLBbEAcJAMAbYADAcDABCFCBDHBLBbDAcGACAGAFB
    UBbCBcFBEDIAUBbDAcUAHCBAdMACGMHdUACILGcVBbBABABAcDNBEBBFKBbJJAdYDBFBBCBZBECQDNACBGAPAbbBCbkKC
    bDBbEBbEBcMBBGIACKJAbTCBAeNBbIAeOCEBJAGCiLBCAcGABGBABACHGJCAbWNBPbXDbWABEBAFAbOIMBbGDCBBCcEAB
    BDABCcGHCBfWCBMBGEAGADBhQcLbbSMEADLeoCCfLAdSbFvIDeDBbsqEAEJbGBdCBkMADAEAZBFAfVBbARNAbMHZKbUCb
    WACDCBbNAcPFCBCBMAIAbVAbZABCCBFBBAbQBIAjEACAEAbdzSAbcJPQPblLAiSAfTEcmGCBBFDbOCEAgJBwBDoXBdCCc
    SKbXDeTAcCObPACBKCbXDCBHAcJCbKEBHcKAMBcAIKDCAdRCCABBGACAgBADHVBcFBDAbLGDEhNHCCBAXAdGFBAEBBBjE
    DGBBBbBBdHHCABBeCABACFBAdXCCDBEjZIBBjWBBAEAfODCBEAbGJbOFCDIAJFCCbUMBBpQGBFBAdEVCGBBBBeSFDABBB
    GBAcUBDABAnJBLBcAEFABAhyRAGOurQEcHGboIAcLDdDAbdbKBgyZbTCWuYCRHCGbEDfSCcyDcCEbXIAOAWEBOcaIGBQC
    GBBBEdWAgEGoLAcJDtODbmEGeFGbtciVjF"),
  ("nd decimalnumber digit",
    "bWJciOJfEJhQJpWJeOJeOJeOJeOJeOJeOJeOJeOJeOJdSJeOJcSJkSJcSJctQJbMJlOJeYJgKJGJhAJdIJfEJGJcaeOJb
    aCJbMJhQJWJdIJpQJbfmCJccKJdfYJbfGJeYJcIJfOJkSJnEJeOJoKJdYJdYJqGJdYJbdEJjMJcSJqGJbckSJdIJfEJbp
    bWbXdnCJqGJtIJbqSJhbAJ"),
  ("nl letternumber",
    "irUCdyTbICDfmSAZIOCbsyLJbifGcArSAIAfEEmeSeG"),
  ("no othernumber",
    "gWBFACCdmRFoMFeQCfDGiJGRIqRJbpLTbrVJsMAcmVADFGJhQPbPAbbYcHdAVyGbDcbHAbtCDfIJbEHBObGJbNObsmIFb
    hqNbScNDRBnDbAbKDbzGHZGbNIcXEWFgEBCPCbTcMIcABbECcXEeAHYHbPGmSFnObEgCJbQDeIGfEToPTbzXBqOIbhNSb
    gTUbcpQGbeSWblyFTMTeEYibUIbjTcGBCBDcYbSBOblAM"),
  ("pc connectorpunctuation",
    "dRAmbVBTAdgaOBYCjFA"),
  ("pd dashpunctuation",
    "bTAcaUAbZAfkJAbnPAdbDFfhXACAbFBEAbCArEATAeHAczwABbLAKAgNAfxVA"),
  ("pe closepunctuation",
    "bPAbZAbFAfpDABAcuOAdrDAcDAPAyKABAbEAbpUABABABABABABAdCAbGABABABABApOABABABABABABABABABABAcMAB
    AbHAboVABABABAbSABABABAqMABABABABADABABABACBczrQAiJAbDABABABABABABABADARABABAgOAbZAbFACACA"),
  ("pf finalpunctuation",
    "hFAlwVADAbCAffSABAEACAPADA"),
  ("pi initialpunctuation",
    "gPAlxKACBCAZAffSABAEACAPADA"),
  ("po otherpunctuation",
    "bHCBCCABABBKBDBbBAcQAFAOBHAbbAAIArYFbPAcCACACAbSBUBBBNABCcWDdYAbRNiZCcCObFAkBBKAfKAeQAeRApAAM
    AoDAdMAKBgMOBAeIAcWEEBeHFgPAxOIbdTAeUCcTBgBCBCbLFBDmBBiIBeYGBFgQGbCBeVDcHEcKBcMHLAbgCBIHIICDC
    CDKBABJeuCDBBeIAfNBECCACIBBBACBKEBJCDBABMCCqMCcFAhHAbryGBkJCdVAKAeLFoQDdIBbOCBAbXBbVAdTMQBeUD
    eWBQBjPAbfcUGCAWAUBCDDCBDHCGABBfTCBCCABABBKBDBbBAbKACBpUCzSAbWApYAbcPAhRAbFAkMIbMAeIGcOGdLDbk
    QEbSDhHGeFBBDeWDbWBdBDEANABCdKFeDAqBEKBBAeAAjQWeBCbCMcYAfACjSAkECfZAdOHdFCBEdPJlZEbQByVBcWMgT
    AbrSEejCBwdVBfDAcNEIAbgSDmPAbdbOAliLEfpYB"),
  ("ps openpunctuation",
    "bOAbYAbFAfpEABAcuOAdpMADAbMAcDAPAyKABAbEAbpUABABABABABABAdCAbGABABABABApOABABABABABABABABABAB
    AcMABAbHAboVABABABAZASABABABAqMABABABABADABABABACAczrTAiHAbDABABABABABABABADARABABAgOAbYAbFAD
    ACA"),
  ("sc currencysymbol",
    "bKAeVDbwJAeTAtEBtEBHAjLAkDAwJAdqPAdiIbGbzhVAbgmLAeEAfYAiLBDBmcSDcvxEAdrKA"),
  ("sk modifiersymbol",
    "dQABAcTAGAEADAuBDMNFGBABQeNAOBbxIAiuMABCLCNCNCNBghOBbsvRWJBdZBblOAOBbekKQbiHABAgGAdolJE"),
  ("sm mathsymbol",
    "bRAQCcJABAbTAEAbLAbFAbdMAuHCjyHANAbNCNCfJAbNEGAcQEFBEACACAHAbFBCABAbFkHbGBdMAbEYbOFsBAJAcCHeH
    AmYECbEKPjWfAWcKEbFCjXbWUCFdasQAbfSABCgIAQCcJABAfBAGDddjGAZAbFAZAbFAZAbFAZAbFAZAiuEB"),
  ("so othersymbol",
    "gKACAEABAblPAkGBeXBhYAKATBjNAtVAoJAfAFBAfCAhZAbPApBCPABCCFUABABAfDHBFBBFDhPBbcYJbbVAbbUAgBbHn
    PJJIccHBBDBBKABBGFBABABAEALBOABBBAcGBJECDBBBBBGBbECBBABbEkIHETCGCdCBbDZbNGcQZKdDcZWhABIBcBIeG
    BjNbSbRcMjVtSbVVBGbMCbFBeAiVFnTBbUZBdKMiFbALIANBMAVBGBmYBEJbGbJbCbELbDIAPbFKbMPmHjtOcLbguIcCb
    hHDKBBAwBCbfjAPeXAbTCsQADAEBNBmBIcFQCCBMDAbVbSclUBwTAesSAdgNHEQbcnIDFAbeuWAhcDeLcIjLKbMCcHFCW
    BHbDEcIVcNDAhEdIbtXtRcDDbYHBNBBcoUAehWAeZAbbTbREdVMOCOBOBbKXgEcEbCNbREIHBOFfYjQFbbZEQDMDeOEdQ
    GLEAPLEcDIJGbNIbDCBdAnBMNCMDIHbTBGINEIHIHfQBcC"),
  ("zl lineseparator",
    "meQA"),
  ("zp paragraphseparator",
    "meRA"),
  ("zs spaceseparator",
    "bGAeXAihJAdpNKbKAbVAfxWA")]

end CodeSearch.Unicode
