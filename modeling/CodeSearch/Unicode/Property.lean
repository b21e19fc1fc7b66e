/-!
# Binary properties

The code points that have each binary property.  Rows are named by the short and long names of the
property, in lower case and without separators.
-/

namespace CodeSearch.Unicode

/-- The binary properties and the code points that have them. -/
def properties : List (String × String) := [
  ("ahex asciihexdigit",
    "bWJHFbAF"),
  ("alpha alphabetic",
    "cNZGZbVAKAEAFWBbEBrPELOEHABAdIAbQEBBCDBAGABCBABTBdEBfIIgJBbLCAGbObNNBABBBBBAIbAEDbDKFcDBGOdXB
    HEHECKCCAQbVNdWYbGJBEAFXCSTYHKFXBFRbPKLDGGcXBPBCEONSBHCBCVBGBADDDHCBCBBAIAEBBEMBKAECBFEBCVBGB
    BBBBBEEEBCBEAHDBARFLCBIBCBVBGBBBEDIBCBBDAPDVDECBHCBCVBGBBBEDHCBCBJBEBBENAQBBFDCBDDBBABBDBDCDL
    EEDCBCDAGAbOMBCBWBPDHBCBCIBBCCACDbCDBHBCBWBJBEDHBCBCIBGBBDNCMMBCBbOCHBCBCBAFDHEWFBCBRDXBIBACG
    IFBABHSBNcFFGGAbZBBABEBXBABSBCCEBAGAODbGAcLHBbJESEPBbJcPcCBACEQcLKDCbLBAFACbQBmUBDCGBABDCbOBD
    CbGBDCGBABDCOBcEBDCcObLPQdHCFDxVCQBZFcWDKHTLUMTMMBCBBMbZCSOAEAcPdKHbQFcRKbEBLEIXbDCELbREZcCbB
    EcKCTbYAXBLCbXbZBOBHbZbPCDKbRBKOcCWCKbJCIHbQCCbPDBFBBDAFhJbNNLkRCFCbLCFCHBABABABbECcABGBADCBG
    DDCFEMFCBGeMANAQMdXAEACJBADEGABABABDBKCDFEEARbObfHbZcrUiUGDDBMbLBAFACcDHAQWJGBGBGBGBGBGBGBGBb
    FbVAsBCZIHECEEdHGCBdLBDFbQBdPRbFbWPtSjtNcMbguEcPbTCkIDPKBUbUFHDeIbNICdYCcLFBBABEYTBbGYbZMcPBA
    bSFDABCKbGFbINbCDbYBLPAQPKEBcCJNSWDcQBABAYCCPCDLFCFCFJGBGBbQBNGeSVqnRMWEbWmnCoBCeBbMGMEFLBMBE
    BABBBBBeDbHnYScLCcBbOLeMEBfEbKZGZLdKDFCFCFCCbJLBZBSBBBOCNbIeScRcAkHbCDbWbVbFNbDFbQFbDCbJEHBEb
    QgBSbJEbJEbNIbZMKBOBGBBBKBOBGBBcPlYJVKHYFBbPBIcRFCABbRBBDACWKWJbEcNSBBKVKZcScDGBcMDBBFHBCBbCb
    QbCDbCbJHBbBbBcBKVKSNReGcUcDbYNbYNbNnGbPBBDBdAbCKAIVbQRbUUbBWJcRbREKcEJANYXbYRDIbIDAJcLBDJBKA
    BAbJRBbHCAGDcKGBABDBOBJHcEXDBHCBCVBGBBBEDHCBCBDAGAFGgAcNBCBDUCbEcNCBBAhCcBCGZFbIcKBADAcHcBCAc
    TbACNVGhDcEdZcLbFHCACHBBBbDBBCBCDdPHCbTCFBABBbBbYCJRcTFAScUkDIBbSBGBAbXbDCVBNcVGBBBbRDABBBCBA
    CBYFBBBbKBBBDBAmPWJQBbODCeHAdBbjLdYeGRhNdxKdSPbpFRFfyVwKmuBvWHbERdARbDSbVQDbFUFSbaMcLeYcWEcEH
    QcMBBAMBOjbZIbvPbQInfRDBGBBBlEPAbDCCAODIpFdkUeCFMDIHJEAiwFdGBcSBBCACBCDBLBABGBcMBDCHBGBbBBDBE
    BADGBnBCYBYBbEBYBbEBYBbEBYBbEBYBHcsYbEGFiFGBQCGBBBEFcJbHAeIbSKGQAmJbDSbRsQbBbdCGBDBBBOBhOcHcP
    DADAbuIDBbABBBACABJBDBABAGAEABABABCBBBACABABABABABBBACDBGBDBDBABJBQFCBEBQyEZGZGZfmKclfBbGgdTG
    iNCinPOlbKepJuVcfYhhYFgfF"),
  ("bidic bidicontrol",
    "ciEAjvLBbAEcDD"),
  ("bidim bidimirrored",
    "bOBSABAbCABAbDABAbTAPAfmSDcuNBdqQBKBcCBOBgVAhKDDFDADBDDBDBABAEIFABRFDJBBABHCbECDFAJBCSFBJECBE
    XCPIDUBHBbpTNcWACDBBBCFDFCDNpNVCFBNIAHFDAEEBBCEEABCCBKFCBMSBDCABACABDFBGCYBLBEDBBCBEbQCHBbNFA
    BADEFCEADEBAjWAtVDDBBBOBCJbRHqLJCHdacRFFBgGBSABAbCABAbDABABBBBddpNAcFAcFAcFAcFA"),
  ("ci caseignorable",
    "bNAGALAbJABAcTAEABAEACBtJhJEBEAJBBAjRGhZAFAbXbSBABBBBBAbSALFKKBAbJAKUQAdXHBJBDbHABAbEbAdNKcGK
    EACAYXbRCbSAHBGHbPcFcDABAEHEADGKBNAPAcGAEDIAUBbAACBcFAEBEBCCDAbEBDALBcFAEEBBEAUBWFBAcGACABDIA
    HBLBbEAcJAMAbYADAcDABCFCBDHBLBbDAcGACAGAFBUBbCBcFBEDIAUBbDAcUAHCBAdMACGLIdUACIJABGcVBbBABABAc
    DNBEBBFKBbJJAdYDBFBBCBZBECQDNACBGAPAdQAxKCbkKCbDBbEBbEBcMBBGIACKDAFAbTEbZAcNBbIAeOCEBJAGCiLBC
    AcGABGBABACHGJCAbNAIbEbXDbWABEBAFAbOIMBbGDCBBCcEABBDABCcGHCBcMFdECBMBGEAGADBbYcKNAbIdWrDABCLC
    NCNCNBMEIBKACACEbXEBJBANAQMbZbGejRBeJCeVAPAdSbFbVAsBAbKDDEFAdPFdPCbqbUAbwCFkKAdUDBJBAbCDdCBOb
    HdAAXCdZCDBIADAEAZBFAfVBbARNAbMHZKbUCbWACDCBRAVBcOFCBCBMAIAbJALAbZABCCBFBBAbBAOBFBBAdWEJCeRAC
    AEAbdzSAfRQwBPDAMPbIACAgNAHAGALAbJABAbVAbTBcPAVCtTAiSAfTEbnPFBbPBIwKCBBFDbOCEAgJBwBDoXBdCCcSK
    bXDeTAcCObPACBKCbXDCBCAEAKAbYCbKEBHcKAMBcAIKDCAdRCCABBGACAgBADHVBcFBDAbLGDEhNHCCBAXAdGFBAEBBB
    jEDGBBBbBBdHHCABBeCABACFBAdXCCDBEjZIBBjWBBAEAfODCBEAbGJbOFCDIAJFCCbUMBBpQGBFBAdEVCGBBBBeSFDAB
    BBGBAcUBDABAnJBLBcAEFABAhyBQGOurQEcHGJDbnVAcLQcMBBBygPDBGBBeuGBBDgyUbTCWuYCJPCGbEDfSCcyDcCEbX
    IAOAWEBOcaIGBQCGBBBEFcJbHAgENoEAcJDtNEbmEGeFHebFEbsxxPAbEdReYjF"),
  ("cased",
    "cNZGZbVAKAEAFWBbEBhMBDEhZBbJHBbEEdSAbQDCBCDBAGABCBABTBdEBfIIgJBbLJbOefFbLBAFACbQBDzWdHCFdfUIH
    bQCCcMhJcMkRCFCbLCFCHBABABABbECcABGBADCBGDDCFEMFCBGeMANAQMdXAEACJBADEGABABABDBFEACDFEEARbFDBb
    fLbZcrUiUGDDBMbLBAFAbtwCbTSbDfCdXDDBcGFBBABEYEBCbfPbQBNGdBbeaIGMEbnTZGZbtTdBdSbJEbJeMKBOBGBBB
    KBOBGBBrJACCBbPBIbuZbYNbYekZcLbgiQcLbmlKdGBcSBBCACBCDBLBABGBcMBDCHBGBbBBDBEBADGBnBCYBYBbEBYBb
    EBYBbEBYBbEBYBHcsYJBTGFkBcJdgKcPdaAZGZGZ"),
  ("cwcf changeswhencasefolded",
    "cNZdMAKWBHbGABABABABABABABABABABABABABABABABABABABABABABABABABABABACABABABABABABABABBBABABABA
    BABABABABABABABABABABABABABABABABABABBBABABABBBABBBCCDBBBCDBBBBABABBBACABBBCBABBDAHBBBBBBABAB
    ABABABABABACABABABABABABABABACBBABCBABABABABABABABABABABABABABABABABABABABABABABABABABABABABA
    HBBBCABDBABABABAjMAbQABADAIAGABCBABBBQBIWAMCDBBABABABABABABABABABABABABBCBBABBCbYbWABABABABAB
    ABABABABABABABABABABABAJABABABABABABABABABABABABABABABABABABABABABABABABABABABBBABABABABABACA
    BABABABABABABABABABABABABABABABABABABABABABABABABABABABABABABABABABABABABABABABABABABABABABAB
    ACbLbWAefGbLBAFAbfEFdfUIHbQCCmIABABABABABABABABABABABABABABABABABABABABABABABABABABABABABABAB
    ABABABABABABABABABABABABABABABABABABABABABABABABABABABABABABABABABABABABABABABABABABABAFBCABA
    BABABABABABABABABABABABABABABABABABABABABABABABABABABABABABABABABABABABABABABABABABABABABABAB
    AJHIFKHIHIFLABABABAIHQbVCCCFFCCFLDMEFCCFlLADBGAbTPTAbfMZcsUbVbWABCCABABABDBACAICBABABABABABAB
    ABABABABABABABABABABABABABABABABABABABABABABABABABABABABABABABABABABABABABABABABABABAIABAEAbt
    yJABABABABABABABABABABABABABABABABABABABABABABATABABABABABABABABABABABABABAfFABABABABABABADAB
    ABABABABABABABABABABABABABABABABABABABABABABABABABABABABABAKABABBBABABABAEABACABADABABABABABA
    BABABABABEBEBABABABABABABABDBAGAFABAbCAbiGdBbeaIGMEbnTZbuZbNfGbJgAKBOBGBBcqCbYenLbFbgjWbFbulK
    bH"),
  ("cwcm changeswhencasemapped",
    "cNZGZcGAKWBbEBcLBdFBMBNCNCBBAEdOBRGbABBBABBDBBABBBECABBCAHACABBDFFAKBgKAbQDCBDCBAGABCBABTBbUD
    bGBEBfCIgJBbLKbMefGbLBAFACbQCCzWdHCFdfUIHbQCChDADAQAeJfZCABeNCFCbLCFCHBABABABbECcABGBADCBGDDC
    FEMFCBGlLADBGAbBARbFDBbfLbZcrUeIBBBBHdXHDDBMbLBAFAbtwCbTSbBfENCcJJODCCEBYBbAFBEDbBBbhCAbCdBbe
    aIGMEbnTZGZbtTdBdSbJEbJeMKBOBGBBBKBOBGBBcoPbYNbYekZcLbgiQcLbukEcP"),
  ("cwl changeswhenlowercased",
    "cNZdXWBGbHABABABABABABABABABABABABABABABABABABABABABABABABABABABACABABABABABABABACABABABABABA
    BABABABABABABABABABABABABABABABABABBBABADBBABBBCCDBBBCDBBBBABABBBACABBBCBABBDAHBBBBBBABABABAB
    ABABABACABABABABABABABABACBBABCBABABABABABABABABABABABABABABABABABABABABABABABABABABABABAHBBB
    CABDBABABABAlDABADAIAGABCBABBBQBIbJAIABABABABABABABABABABABAFACABBCbYbWABABABABABABABABABABAB
    ABABABABABAJABABABABABABABABABABABABABABABABABABABABABABABABABABABBBABABABABABACABABABABABABA
    BABABABABABABABABABABABABABABABABABABABABABABABABABABABABABABABABABABABABABABABABACbLehDbLBAF
    AbbUdHdgSbQCCmIABABABABABABABABABABABABABABABABABABABABABABABABABABABABABABABABABABABABABABAB
    ABABABABABABABABABABABABABABABABABABABABABABABABABABABABABABABABABABABAJABABABABABABABABABABA
    BABABABABABABABABABABABABABABABABABABABABABABABABABABABABABABABABABABABABABAJHIFKHIHIFLABABAB
    AIHYHIHIHIELELDMELElLADBGAbTPTAbfMZcsUbVbWABCCABABABDBACAICBABABABABABABABABABABABABABABABABA
    BABABABABABABABABABABABABABABABABABABABABABABABABABABABABABABABAIABAEAbtyJABABABABABABABABABA
    BABABABABABABABABABABABABATABABABABABABABABABABABABABAfFABABABABABABADABABABABABABABABABABABA
    BABABABABABABABABABABABABABABABABABABAKABABBBABABABAEABACABADABABABABABABABABABABEBEBABABABAB
    ABABABDBAGAFABAbCAbhaHZbuZbNfGbJgAKBOBGBBcqCbYenLbFbgjWbFbulKbH"),
  ("cwt changeswhentitlecased",
    "dTZcGAbPXBHBABABABABABABABABABABABABABABABABABABABABABABABABABABABACABABABABABABABBBABABABABA
    BABABABABABABABABABABABABABABABABABACABABCCABACADAFACADBDACABABACAEACADABACADABAEABBBBBABABAB
    ABABABABABBBABABABABABABABABCBABADABABABABABABABABABABABABABABABABABABABADABABABABABABABABAIA
    CBBAEABABABABFBBBABBDBBABBBECABBCAHACABBDFFAKBgKAbRABADADCSAbBbIBBDCBABABABABABABABABABABABEB
    ACACAcAbVBABABABABABABABABABABABABABABABABAJABABABABABABABABABABABABABABABABABABABABABABABABA
    BABACABABABABABABBBABABABABABABABABABABABABABABABABABABABABABABABABABABABABABABABABABABABABAB
    ABABABABABABABABABABAbXbMfmEFdfUIjGADAQAeKABABABABABABABABABABABABABABABABABABABABABABABABABA
    BABABABABABABABABABABABABABABABABABABABABABABABABABABABABABABABABABABABABABABABABABABABABABAB
    ABABGFABABABABABABABABABABABABABABABABABABABABABABABABABABABABABABABABABABABABABABABABABABABA
    BABABABIIFKHIHIFKHIHINCHIHIHIEBBGADCBBIDCBIHKCBBnEAbHPEAbgLZctQbVBADBBABABAGACAKABABABABABABA
    BABABABABABABABABABABABABABABABABABABABABABABABABABABABABABABABABABABABABABABABABABABAIABAEAM
    bLBAFAbtwDABABABABABABABABABABABABABABABABABABABABABABATABABABABABABABABABABABABABAfFABABABAB
    ABABADABABABABABABABABABABABABABABABABABABABABABABABABABABABABABABAKABACABABABABAEAEABBCABABA
    BABABABABABABALABABABABABABABAEABAGAFABAbCAbhCAbCdBbeaIGMEboZZbvHbNfGbJfZKBOBGBBcrBbYemFbFbgj
    WbFbulMbH"),
  ("cwu changeswhenuppercased",
    "dTZcGAbPXBHBABABABABABABABABABABABABABABABABABABABABABABABABABABABACABABABABABABABBBABABABABA
    BABABABABABABABABABABABABABABABABABACABABCCABACADAFACADBDACABABACAEACADABACADABAFBBBBBBABABAB
    ABABABABBBABABABABABABABABBBBBADABABABABABABABABABABABABABABABABABABABADABABABABABABABABAIACB
    BAEABABABABFBBBABBDBBABBBECABBCAHACABBDFFAKBgKAbRABADADCSAbBbIBBDCBABABABABABABABABABABABEBAC
    ACAcAbVBABABABABABABABABABABABABABABABABAJABABABABABABABABABABABABABABABABABABABABABABABABABA
    BACABABABABABABBBABABABABABABABABABABABABABABABABABABABABABABABABABABABABABABABABABABABABABAB
    ABABABABABABABABABAbXbMehCbQCCbdGFdfUIjGADAQAeKABABABABABABABABABABABABABABABABABABABABABABAB
    ABABABABABABABABABABABABABABABABABABABABABABABABABABABABABABABABABABABABABABABABABABABABABABA
    BABABABABGFABABABABABABABABABABABABABABABABABABABABABABABABABABABABABABABABABABABABABABABABAB
    ABABABABABABIIFKHIHIFKHIHINCcABBEABADCBBEADDCBIHKCBBEAmZAbHPEAbgLZctQbVBADBBABABAGACAKABABABA
    BABABABABABABABABABABABABABABABABABABABABABABABABABABABABABABABABABABABABABABABABABABABABABAI
    ABAEAMbLBAFAbtwDABABABABABABABABABABABABABABABABABABABABABABATABABABABABABABABABABABABABAfFAB
    ABABABABABADABABABABABABABABABABABABABABABABABABABABABABABABABABABABABABAKABACABABABABAEAEABB
    CABABABABABABABABABALABABABABABABABAEABAGAFABAbCAbhCAbCdBbeaIGMEboZZbvHbNfGbJfZKBOBGBBcrBbYem
    FbFbgjWbFbulMbH"),
  ("dash",
    "bTAcaUAbZAfkJAbnPAdbDFcJAbNAPApAAeoIACAbFBEAbCArEATAeHAczwABbLAKAgNAfxVA"),
  ("di defaultignorablecodepoint",
    "gRAzXAbbOAegWBckHBdHEdaPEbAEbXPgkYAczmPPjFAgEAdBIctlNDhwXHbtkzLgbN"),
  ("dep deprecated",
    "mRAbyVAdkTABAdcJBdiJFbaVBbzryKA"),
  ("dia diacritic",
    "dQABAcTAGAEACBtJgCBHFFRBEAJBjTEiBAcDQBbABABBBAfEHEBfEBEBDCcPbAdNKcGKbIBeWHbPJQbBcJAQADDbCAcWA
    QAeGAQAeGAQAbVCcIAQAHAePAeGAQAeGAQAeFBQAeUAeUFBAeDANEcXBbBABABAEBcOCBBcKAeIABBbOBEEZGBAKBbbDC
    bkMBgXKJAnJCmBHCAbWOCKeAAPAbMIcCBfIBcMFdEYEAGACCbYcKdLLbLKrDABCLCNCNCNBexKCmFAtMFeBDdRAbsmKAM
    BBAbCBdEBObHdYCeFBhUAbBRcFDbKAdRAMAbKAfTCcNDbZAdWEJCeYBbdzSAbdPPkKABAbVAbTBcPAbdKAbtNFBbPBIbf
    EBvZFsBCcSKbXDhKAbPAcUBeQBcKAcYAJCeABgWBdDAQAYGDEhXADAeTBjRBeWAeOBeLAkJBjYBEAgAAdFASAdDAqFAjY
    ABBdDAipJOurQEcHGbqUQdCBygCDBGBBltHbTCWuYCDFIHCGbEDfmWcJhMGoLAcJDcfWGeFCBC"),
  ("emoji",
    "bJAGAFJeHAEAlyRAMAiIAWAdMFPBoDBMAgKAZKEChRAiXBKAJAcGDBEJACACBCAEACABBCADADBICFABAFLLBCABBBASA
    CBSFBABBDBFACBEBLBFBCAFBBABBUBFFBDCAEACACFBACABABAGADAGAKBPACAEABAECBALBbWCJAOAOAoIBrVCTBbZAE
    AbvUAMAxDABAgmrQAhUAgEBMBOACJcXZBBXAUACIVBgSbHCeHCBBCCdECCBkCBcKLFBXHBCHMACDCAEBNBCAIBJAFCMCI
    CCABAEAGADAGdHbWcRFHCCEJDABBDACJiTLEAkXbUBJBhCeIMDIHbTBGINEIHI"),
  ("ecomp emojicomponent",
    "bJAGAFJmbJAiFAdftRAdoiWZtNEceADbsvuQdR"),
  ("emod emojimodifier",
    "hhiXE"),
  ("ebase emojimodifierbase",
    "olHAiLAQDgsjVAcICCACCeNBCKVSDAECBCHABAYAhTBEAVAEBgSCDEdFAQCJALAwDACAIHGAJJCCcEAcJBBBBARCBMiVC
    bQI"),
  ("epres emojipresentation",
    "nhQBhXDDACAuBBVBbYLbRATANAIBRBFBIAFAVAHBBAEACAHAEBbCAbJABAECBAcJCYAOAbhBBbZAEAgplEAhUAhIACJcX
    ZBAYAUACEBCVBgSbGMIBcRBVMbQEEMQDADcSBABhECcKNDBXSAbABNAdIdGbWcRGADCCCEDLBHIiTLEAkXbUBJBhCeIMD
    IHbTBGINEIHI"),
  ("extpict extendedpictographic",
    "gNAEAlyRAMAiIAWAdMFPBoDBMAdRAcSAZKEChRAiXBKAJAcGDBFBLBeJKeNCKBABAGADAGAKBPACAEABAECBALEbTCJAO
    AOAoIBrVCTBbZAEAbvUAMAxDABAgmrMjVNCbFAcIFMBOACJScEbBOKAUACIBDJqRFmFIkFbWeXeMLdHbQMDcEHKFbOHbE
    dDMbUBJBqYjWbnH"),
  ("ext extender",
    "hBAuQBbhUAqZAbhAAbcYAeXAdnFAcEAxNApIAcQAhkJAbREdZBdPCbqbUAcgSAblAAWAfHAeEAVBbfzVAdbKBemSAxSCb
    vJAbeoFBbtKBBAbqyABdbAC"),
  ("grbase graphemebase",
    "bGdQbHMBwVeIHCFEGBABTBiPHgJBbLCbXCCbUABACACAJbAEFRJLABbTVPBdWIAGBCAEbFCABbDbDdKLAObQJGDXEAJAD
    AHOBYFABKFbERbPcFcCBABDIDBCHJCbCBBBHCBCVBGBADDDABBGBCBBANBBCEXFABFEBCVBGBBBBBBECYDBAHJCCBAMAB
    IBCBVBGBBBEDDIABBDAPBELHAIBBHCBCVBGBBBEDACAGBCBPBBCERLABFDCBDDBBABBDBDCDLFABBDCBCDAVUGCBHBCBW
    BPDADDTCCACBEJHJBKBCBWBJBEDBBBBBCBBBRBBBEJBCOKBCBbOCABBFCBCBBECBJEZCBBRDXBIBACGJBGGHJCCMbVBBL
    HIMbLBBABEBXBABJBBJACEBAJJCDbGXCbABABABNBbJSAFACEbXHBFBMbLbSEAGACBCYCDDPEMBBCFBOBbNBAFACoMBDC
    GBABDCbOBDCbGBDCGBABDCOBcEBDCcOFbCDZGdHCFCzSDdKHRDAJSCCJROMBCPbZCAHHBBLIDJGJGKFJGdKHECbHBAFcR
    KbEEDCCEBBFHADbPCELbREZGKDcECBDcDBAJABBIFNJGJGNdIbVHABEBJDbAJKDbFEBCADcDBACCBADBIbVIBFODcHHbQ
    CKLANAHDBFBCCAFhJcMkRCFCbLCFCHBABABABbECcABOBNCFBSCCBIBKFXHbWQBCbABMDbGcLfJEzMZKVcrRCbFBnFDBF
    bSBAFACcDHBPWJGBGBGBGBGBGBGBGbHdPbIZBdKMiFbALEbPGPBdHEdWFbQBdPBdFMbUBbriQDcCJnJUbUEAKbFCdBCFI
    hUFBBABEYPBCBDBYCEEJGcDIcPKLYMBbLIYLBLbDGbVBBEBCPBKEGBYBbOGBCBLCBHBACJCbFBbYBADBCECABAYQCHLFC
    FCFJGBGBcHEeMBBBDDJGqnRMWEbWmnCoBCeBbMGMEFABXBEBABBBBBeUQrCCcBHAbGPQJWbIBSBDEEBfEEgACbEDFCFCF
    CCDGBGNBCLBZBSBBBOCNbIeSFCEbSDdJBMDAbVbSfBbCDbWQbAEbJJbDFbLKbDBbKENbQgBCJGbJEbJEbNIbZLLBOBGBB
    BKBOBGBBcPlYJVKHYFBbPBIcRFCABbRBBDACWBcTIIbWSBBFbGDbAFAcMcDETCbUPDBCBbCKIHIHcLbGbKGLJcBDbCCbA
    FZHDMGdCcUcDbYNbYHbPMJlIbEBbPDACBdAbNIVLIWREDbMbBUWJABcBPGEbDBBCAMbWEBCBBDOYHJJbJFAJRIbIBCLbZ
    JJEBBPBTLRBbBDBBACFBBcLGBABDBOBKGbUBCNJIBBHCBCVBGBBBEDABABDCBCCCAMGgAcDIBDABUBABCbEbVBBGABBBA
    CACDIJgKbUBBGDCACbAbKbYIBBACDLJGMTbQBABBGABBGJcCbAFBEAJWhDbUJACAdWdEMHCACHBBBXBEBBEABDBCJJcSH
    CbPIDBDbBAKbNGBEHJAGBDbTNACINcUHJjMIBbLOABFKbCDbFZAHACAcXGBBBbLVAJJGFBBBbKEBBABAHJlYSCDJOBbJI
    BBABWdIAPbXNbjMdYeGBELhNdxKdUNbpFRFfyVwKmuBvWHbEBJEdCBJGbDHAKbVHOKJBGBUFSbaMdMdXcWFcDLMcMDMBO
    jbZIbvPbQInfRDBGBBBlEPAbDCCAODIpFdkUeCFMDIHJCACAhcAeLcIjLKbMCcHBADDVBHbDEcIVcNDAeSTMTMdIJYfFd
    GBcSBBCACBCDBLBABGBcMBDCHBGBbBBDBEBADGBnBClFCvPcDDbYHBNBGbrWbEGFkBcJfQbSKGCJEBmIbDSbREJFArWbB
    EJbcOGBDBBBOBhOCIbWcPHAEJEBbeFcPcYcIhMDBbABBBACABJBDBABAGAEABABABCBBBACABABABABABBBACDBGBDBDB
    ABJBQFCBEBQcABkKbREdVMOCOBOBbKKgRcEbCNbREIHBOFfYblVEQDMDeOEdQGLEAPLEcDIJGbNIbDCBdAnBMNCMDIHbT
    BGINEIHIHfQBcCbLJbnQclfBbGgdTGiNCinPOlbKepJuVcfYhhYFgfF"),
  ("grext graphemeextend",
    "bdOeHkPGkDbSBABBBBBAcUKbWUQAdXGCFCBBDbJAbEbAdNKcGIJAYDBIBCBEbRCcIHbQXBbFcDABAEHEADGKBbDAcGABA
    CDIAJAKBbAACBcFAEBEBCCDAbEBDALBcFAEEBBEAUBWFBAcGABBBDIAHCKBbEAcHABAMAJAbOADAcDABCFCBDHBLBbDAc
    GACACADAFBHBLBbCBcFBBACDIAJAKBbDAcUAEACCBAIAdDACGMHdUACILGcVBbBABABAcDNBEBBFKBbJJAdYDBFBBCBZB
    ECQDNACBGAPAbbBCbkKCbDBbEBbEBcMBBGIACKJAbTCBAeNBbIAeOCEBJAGCiLBCAcGABGBABACHGJCAbWbEbXDbWGBAF
    AbOIMBbGDCBBCcEABBDABCcGHCBfWCBMBGEAGADBhQcLuEAhNbGeoCCfLAdSbFvIFeBBbsqEDBJbGBdCBkMADAEAZBFAf
    VBbARNAbMHZKbUCbWACDCBbNAcPFCBCBMAIAbVAbZABCCBFBBAbQBIAjEACAEAbdzSAbcJPQPoCBxHAiSAfTEcmGCBBFD
    bOCEAgJBwBDoXBdCCcSKbXDeTAcCObPACBKCbXDCBHAcJCbKEBHcKAMBcAIKDCAdRCCABBGACAgBADHVBcFBBABAWAOGD
    EhNHCCBAXAdDACFBACABBBBjBACDGBBBbBBdHHCABBeCABACFBAdXCCDBEjZIBBjLAKBBAEAfODCBEAbGJbOFCDIAJFCC
    bUMBBpQGBFBAdEVCGBBBBeSFDABBBGBAcUBDABAnJBLBcAEFABAhyRAGOurQEcHGboIAcLDdDAbdbKBgyZbTCWuWABCEE
    IHCGbEDfSCcyDcCEbXIAOAWEBOcaIGBQCGBBBEdWAgEGoLAcJDtODbmEGeFGbtcaFdReYjF"),
  ("hex hexdigit",
    "bWJHFbAFdslLJHFbAF"),
  ("hyphen",
    "bTAeXAbvWAgzZAdbDBfiBAbcLAczuLAgNAdJA"),
  ("idsb idsbinaryoperator",
    "seABCH"),
  ("idst idstrinaryoperator",
    "seCB"),
  ("idc idcontinue",
    "bWJHZEABZbVAKABACAFWBbEBrPELOEHABAReMBBCDBAGEBABTBdEBfIBECgJBbLCAGbOIbSBABBBBBAIbAEDbDKFcVEdX
    BHCJBSCAQcGCdWOcBEACACbTSbBEKFXBFJcVBeYCJBSBHCBCVBGBADDCICBCDIAEBBECLKABACCBFEBCVBGBBBBBBCABE
    EBCCDAHDBAHPLCBIBCBVBGBBBECJBCBCCAPDCJJGBCBHCBCVBGBBBECICBCCHCEBBECJBAQBBFDCBDDBBABBDBDCDLEED
    CBDCAGAOJQMBCBWBPCIBCBDHBBCCACDCJQDBHBCBWBJBECIBCBDHBGBBDCJBCMMBCBbYBCBEFDHECJKFBCBRDXBIBACGD
    AEFBABHGJCBNcFFOBJbNBBABEBXBABWCEBABGBJCDbGAXBGJLABABAEJBbJETBRBbJJAcFcVGcZCbLBAFACbQBmUBDCGB
    ABDCbOBDCbGBDCGBABDCOBcEBDCcOCCJIOPQdHCFDxVCQBZFcWDKHVJVLTMMBCBBMdFDAEBCJbHCBKGdKHbQFcRKbEBLE
    LKbNCELbREZGKbLbBEcKBbCCKGJNAINBPbXcYDJRIMeLMcDIJDbWCIHbQCCQCBbMFuNCFCbLCFCHBABABABbECcABGBAD
    CBGDDCFEMFCBGcOBTAbCANAQMbZMEADLRAEACJBACFGABABABPCDFEEARbOdzBiUGIMbLBAFACcDHAPXJGBGBGBGBGBGB
    GBGBbFtXCZOBECEEdHCGBdLBDFbQBdPRbFbWPtSjtNcMbguEcPbTCkIDbBUbVEJBeKbLICdYCcLFBBABEYcBEATbZMcRK
    JGXDABbWCbJMbCDcMOKGbEBcCJNCJGWDcUYCCPCEKFCFCFJGBGBbQBNGeSBBCJGqnRMWEbWmnCoBCeBbMGMEFLBMBEBAB
    BBBBeDbHnYScLCcBbOLEPQPDBYCbGEBfETJHZEABZLdKDFCFCFCCbJLBZBSBBBOCNbIeScRcAfGAfAbCDbWPAbFbFNbDF
    bQFbDCbJEHBEbQgBCJGbJEbJEbNIbZMKBOBGBBBKBOBGBBcPlYJVKHYFBbPBIcRFCABbRBBDACWKWJbEcNSBBKVKZcScD
    GBcMDBBFHBCBbCCCEAbGbCDbCbJHBbDZcBKVKSNReGcUcDbYNbYNbNIJmObPBBDBcXbFKAIbGbFVbQUbBWJcSbFPJcHHA
    NYHJGcABJEDIbJCAJcQEDBMBAbJRBbKGDcKGBABDBOBJHcGFJGDBHCBCVBGBBBEBJCBCCCAGAFGCGDEfJcWFJEDbEcRBA
    IJgKcBCIXFbIcMDALJbMcEHJcCbACOEJGGhDcGdXcVVHCACHBBBbDBBCIMJcSHCbTCHBBbBcKIAIcVDAScUkDIBbSBIPJ
    YbDCVBNcVGBBBbRDABBBIIJGFBBBbKBBBFHJlYWJQBbODENJdIAdBbjLdYeGRhNdxKdSPbpFQVfyGwKmuBvWHbEBJGdAB
    JGbDCELcCJDMJJUFSbaMcLeYcWEcEHQcMBBBLBOjbZIbvPbQInfRDBGBBBlEPAbDCCAODIpFdkUeCFMDIHJDBgyZbTCWu
    WEDFIHCGbEDfSCrBdGBcSBBCACBCDBLBABGBcMBDCHBGBbBBDBEBADGBnBCYBYBbEBYBbEBYBbEBYBbEBYBHCbXtScCEb
    XIAOAWEBObqMbEGFiFGBQCGBBBEFcJbHAeIbSDNCJEAmJbERcFsCbPbcOGBDBBBOBhOLGbPcXEJbtUDBbABBBACABJBDB
    ABAGAEABABABCBBBACABABABABABBBACDBGBDBDBABJBQFCBEBQfaAJbnQclfBbGgdTGiNCinPOlbKepJuVcfYhhYFgfF
    bonhGjF"),
  ("ids idstart",
    "cNZGZbVAKAEAFWBbEBrPELOEHABAeZEBBCDBAGABCBABTBdEBfIIgJBbLCAGbOcTbAEDbTbQbJBBdUBAPBHBKCCAQABbD
    bDdKLAYbGJBEAFVEAJADAXYHKFXBFRbPcGcBDASAHJPPEHCBCVBGBADDDAQANBBCOBKAIFEBCVBGBBBBBBbFDBATCQIBC
    BVBGBBBEDASAPBXALHCBCVBGBBBEDAbEBBCPARABFDCBDDBBABBDBDCDLWAcAHBCBWBPDAbACCACBbEAEHBCBWBJBEDAb
    FBBBPBRIBCBbOCAQAFCICYFFRDXBIBACGcGbVBBMGcGBBABEBXBABJBBJACEBAVDbGAcLHBbJbBEeLbQUAQFEDDADBHCE
    MMARbLBAFACbQBmUBDCGBABDCbOBDCbGBDCGBABDCOBcEBDCcObLPQdHCFDxVCQBZFcWDKHRNSOROMBCPbZbJAEAcPdKH
    bOBAFcRKbEbXbDCELbREZcCWJcAdEAdPbURHcCbDNBKbRbAbJbPCKbJCIHbQCCbPDBFBBDAFhJcMkRCFCbLCFCHBABABA
    BbECcABGBADCBGDDCFEMFCBGeMANAQMdXAEACJBACFGABABABPCDFEEARbOdzBiUGDDBMbLBAFACcDHAQWJGBGBGBGBGB
    GBGBGvECZIHECEEdHEEBdLBDFbQBdPRbFbWPtSjtNcMbguEcPbTCkIDPKBUbUQbECdBbNICdYCcLFBBABEYPBCBDBWbDb
    ZObXcKFDABBLbBKWZbCHbUbCAQEBJKEBbOXCBHUWDADbXBADBCECABAYCCKHCMFCFCFJGBGBbQBNGeKbDqnRMWEbWmnCo
    BCeBbMGMEFABJBMBEBABBBBBeDbHnYScLCcBbOLeMEBfEbKZGZLdKDFCFCFCCbJLBZBSBBBOCNbIeScRcAkHbCDbWbVbF
    NbDFbLKbDCbJEHBEbQgBSbJEbJEbNIbZMKBOBGBBBKBOBGBBcPlYJVKHYFBbPBIcRFCABbRBBDACWKWJbEcNSBBKVKZcS
    cDGBcMAPDBCBbCbQbCDbCbJHBbBbBcBKVKSNReGcUcDbYNbYNbJnKbPGBdAbCKAIVbQRbUUbBWMcAcFBCANbSbGYbAbJb
    DACAIbIDAMbVODVABAbJRBYTBcLGBABDBOBJHbUbMHCBCVBGBBBEDASAMEgCcASDUCbEbVUBBAhCbUbPDbKbVUAcHbQNA
    cTbAbLGhDbReMcLbFHCACHBBBXPABAdQHCbMQABAbCAKbNHAVALbTTAScUkDIBbKRAbXbDeIGBBBbLVAZFBBBbFOAmPSP
    ABMBbHeUAdBbjLdYeGRhNdxKdSPbpFRFfyVwKmuBvWHbERdARbDSbVQDbFUFSbaMcLeYcWFAcOMcMBBAbCjbZIbvPbQIn
    fRDBGBBBlEPAbDCCAODIpFdkUeCFMDIHJiwKdGBcSBBCACBCDBLBABGBcMBDCHBGBbBBDBEBADGBnBCYBYBbEBYBbEBYB
    bEBYBbEBYBHcsYbEGFkBcJfQbSKGQAmJbDSbRsQbBbdCGBDBBBOBhOcHcPHAbuIDBbABBBACABJBDBABAGAEABABABCBB
    BACABABABABABBBACDBGBDBDBABJBQFCBEBQgoAclfBbGgdTGiNCinPOlbKepJuVcfYhhYFgfF"),
  ("ideo ideographic",
    "seWBZIOCblDjtNcMbfbJbhsIoBCeBbsiKAbBjbZIbvPbQInuLpFbdeIclfBbGgdTGiNCinPOlbKepJuVcfYhhYFgfF"),
  ("joinc joincontrol",
    "mdOB"),
  ("loe logicalorderexception",
    "fkIEeTEedSCCAccxMBCABB"),
  ("lower lowercase",
    "dTZbVAKAEAbKXBHBABABABABABABABABABABABABABABABABABABABABABABABABABABABBBABABABABABABABBBABABA
    BABABABABABABABABABABABABABABABABABABABACABABCCABACADBEACADCCACABABACABBBACADABACBCCGACACABAB
    ABABABABABABBBABABABABABABABABBCABADABABABABABABABABABABABABABABABABABABABABABABABABABABABABA
    BGCACBBAEABABABABcQBbJHBbEEdSAbRABADACDSAbBbIBBDCBABABABABABABABABABABABEBACACBbZbVBABABABABA
    BABABABABABABABABABABABAJABABABABABABABABABABABABABABABABABABABABABABABABABABACABABABABABABBB
    ABABABABABABABABABABABABABABABABABABABABABABABABABABABABABABABABABABABABABABABABABABABABABABA
    BAbWbOehBbQBDbdGFdfUIePhJcNABABABABABABABABABABABABABABABABABABABABABABABABABABABABABABABABAB
    ABABABABABABABABABABABABABABABABABABABABABABABABABABABABABABABABABABABABABABABABABIBABABABABA
    BABABABABABABABABABABABABABABABABABABABABABABABABABABABABABABABABABABABABABABABABABABABIIFKHI
    HIFKHIHINCHIHIHIEBBGADCBBIDCBIHKCBBeRANAQMeFADBDAbBAEAEACBIDEAbHPEAbgLZctQbVBADBBABABAEABBBHD
    ABABABABABABABABABABABABABABABABABABABABABABABABABABABABABABABABABABABABABABABABABABABABABABA
    BABABBHABAEAMbLBAFAbtwDABABABABABABABABABABABABABABABABABABABABABABATABABABABABABABABABABABAB
    ABCfDABABABABABABCBABABABABABABABABABABABABABABABABABABABABABABABABABABABABABABJBABACABABABAB
    AEABACABCBABABABABABABABABABAFAFABABABABABABABAEABAGABABABABAYCBABCbfPbQBNGdBbeaIGMEboZZbvHbN
    fGbJfZKBOBGBBrJACCBbPBIbxLbYemFbFbgjWbFbmmKZbAGBRbAZbADBABGBKbAZbAZbAZbAZbAZbAZbAZbAZbAbBbCYB
    FbAYBFbAYBFbAYBFbAYBFBAcsYJBTGFkBcJdhSbH"),
  ("math",
    "bRAQCbFAbDABAbTAEAbLAbFAbcACCAbABCCuHCjwNAbBCLADANAODVELEcNMEADBEESAEACJBACFGADBCBBCBFDNBAcQX
    BFBBEBEbFBAGBOkHIDUBdMAbEbABAYALGrDBMJEFEBCBDEOABACFLHFBcFABAbDDJCmYcLjWtRbWUCFdasQAbfRFBAgGA
    QCbDABAbDABAfBAGDdciDdGBcSBBCACBCDBLBABGBcMBDCHBGBbBBDBEBADGBnBClFCbXiiQDBbABBBACABJBDBABAGAE
    ABABABCBBBACABABABABABBBACDBGBDBDBABJBQFCBEBQcAB"),
  ("nchar noncharactercodepoint",
    "dsdCbFuGBdsyOBdsyOBdsyOBdsyOBdsyOBdsyOBdsyOBdsyOBdsyOBdsyOBdsyOBdsyOBdsyOBdsyOBdsyOBdsyOB"),
  ("patsyn patternsyntax",
    "bHOKGbADBAbADbIGBABBBABBEAEADAXAbFAluEXIOCSBJlTbbRgEyFbEbrNtSeXoVCEYPAczqZBkBB"),
  ("patws patternwhitespace",
    "JESAdWAlyMBYB"),
  ("pcm prependedconcatenationmark",
    "chCFiHAbXAoUBdCAdvxYAPA"),
  ("qmark quotationmark",
    "bIAEAfBAPAlwUHZBfiDArPDNCdabPDhHAEAdMB"),
  ("radical",
    "rpWZBdKMiF"),
  ("ri regionalindicator",
    "hgoKZ"),
  ("sterm sentenceterminal",
    "bHAMAQAcaBAfRCgYAbRCjMAcJABADBlHBcpWBbeKAEBbdTAhQBhWAFAmCBnQDgSBCBbDBhGBcNBbkUBJCfgUANAWBqNAb
    shWAkKBiTADAoSBdIBdRAfWBfRCfOBjPAbffIADBgNAMAQAcNAedWBbxDEbSDhHBeNDeXCeZBGAQBdKBBBeEAqBBoJBFO
    eBBjPCtXABAjRBdJBqEBbaQBcWBbcmBBfDAcNBLAbgTAbdoGAliMA"),
  ("sd softdotted",
    "eBBhOAkVAbEAcAAUAmIAdUABAjmNAbZANADAfCAgBAqFAiGBegGAgelHBbYBbYBbYBbYBbYBbYBbYBbYBbYBbYBbYBbYB
    dfYAlTBbAA"),
  ("term terminalpunctuation",
    "bHAKABALBDAbfYAIAtTAcFAcUAOABCgYAbRKBAjBBcCObFAkBBbwUBgQAEFlZBbeJHbdTAeUCcTBgBCDAbNDCBmCBnQDg
    SBBCbDBhGEcKBbkUBJCfgUANAEAKABBDBqMBbshVBkJCiTEoSBdIBdRAfVCfRCeXAQBjPAbffGCBDgNAKABALBDAcNACA
    bpQAbWAbsOAhRAlYBfWFcQFdLDbkQEbSDhHGeIDeXCeZBGAQBdKEeEAqBCMBnUDDOeBBjPCtXABAjRBdJBEBpYCbTAyVB
    cWBbyXEbamZBfDAcNCKAbgSBbdoGAliLD"),
  ("uideo unifiedideograph",
    "tsAjtNcMbfbJbicSBBABBKABABBCCdveCclfBbGgdTGiNCinPOlbKhqDhhYFgfF"),
  ("upper uppercase",
    "cNZdXWBGbHABABABABABABABABABABABABABABABABABABABABABABABABABABABACABABABABABABABACABABABABABA
    BABABABABABABABABABABABABABABABABABBBABADBBABBBCCDBBBCDBBBBABABBBACABBBCBABBDAHACACACABABABAB
    ABABABACABABABABABABABABACACABCBABABABABABABABABABABABABABABABABABABABABABABABABABABABABAHBBB
    CABDBABABABAlDABADAIAGABCBABBBQBIbJACCDABABABABABABABABABABABAFACABBCbYbWABABABABABABABABABAB
    ABABABABABABAJABABABABABABABABABABABABABABABABABABABABABABABABABABABBBABABABABABACABABABABABA
    BABABABABABABABABABABABABABABABABABABABABABABABABABABABABABABABABABABABABABABABABABACbLehDbLB
    AFAbbUdHdgSbQCCmIABABABABABABABABABABABABABABABABABABABABABABABABABABABABABABABABABABABABABAB
    ABABABABABABABABABABABABABABABABABABABABABABABABABABABABABABABABABABABABAJABABABABABABABABABA
    BABABABABABABABABABABABABABABABABABABABABABABABABABABABABABABABABABABABABABABAJHIFKHIHIFLABAB
    ABAIHcUDMDMDMELDkCAEADCCCCADEGABABABDCDKBFAbAPTAbfMZcsUbVbWABCCABABABDBACAICBABABABABABABABAB
    ABABABABABABABABABABABABABABABABABABABABABABABABABABABABABABABABABABABABABABABABAIABAEAbtyJAB
    ABABABABABABABABABABABABABABABABABABABABABATABABABABABABABABABABABABABAfFABABABABABABADABABAB
    ABABABABABABABABABABABABABABABABABABABABABABABABABABABAKABABBBABABABAEABACABADABABABABABABABA
    BABABEBEBABABABABABABABDBAGAFABAbCAbhaHZbuZbNfGbJgAKBOBGBBcqCbYenLbFbgjWbFbmmQZbAZbAZbAABBCAC
    BCDBHbAZbABBDCHBGbBBBDBEBADGbBZbAZbAZbAZbAZbAZbEYbHYbHYbHYbHYbHAgnLbHdbIZGZGZ"),
  ("vs variationselector",
    "jcTCBAdjcAPbwnkYjF"),
  ("wspace whitespace space",
    "JESAdWAbAAihJAdpNKbDBFAbVAfxWA"),
  ("xidc xidcontinue",
    "bWJHZEABZbVAKABACAFWBbEBrPELOEHABAReMBBDCBAGEBABTBdEBfIBECgJBbLCAGbOIbSBABBBBBAIbAEDbDKFcVEdX
    BHCJBSCAQcGCdWOcBEACACbTSbBEKFXBFJcVBeYCJBSBHCBCVBGBADDCICBCDIAEBBECLKABACCBFEBCVBGBBBBBBCABE
    EBCCDAHDBAHPLCBIBCBVBGBBBECJBCBCCAPDCJJGBCBHCBCVBGBBBECICBCCHCEBBECJBAQBBFDCBDDBBABBDBDCDLEED
    CBDCAGAOJQMBCBWBPCIBCBDHBBCCACDCJQDBHBCBWBJBECIBCBDHBGBBDCJBCMMBCBbYBCBEFDHECJKFBCBRDXBIBACGD
    AEFBABHGJCBNcFFOBJbNBBABEBXBABWCEBABGBJCDbGAXBGJLABABAEJBbJETBRBbJJAcFcVGcZCbLBAFACbQBmUBDCGB
    ABDCbOBDCbGBDCGBABDCOBcEBDCcOCCJIOPQdHCFDxVCQBZFcWDKHVJVLTMMBCBBMdFDAEBCJbHCBKGdKHbQFcRKbEBLE
    LKbNCELbREZGKbLbBEcKBbCCKGJNAINBPbXcYDJRIMeLMcDIJDbWCIHbQCCQCBbMFuNCFCbLCFCHBABABABbECcABGBAD
    CBGDDCFEMFCBGcOBTAbCANAQMbZMEADLRAEACJBACFGABABABPCDFEEARbOdzBiUGIMbLBAFACcDHAPXJGBGBGBGBGBGB
    GBGBbFtXCZOBECEEdHCBCCBdLBDFbQBdPRbFbWPtSjtNcMbguEcPbTCkIDbBUbVEJBeKbLICdYCcLFBBABEYcBEATbZMc
    RKJGXDABbWCbJMbCDcMOKGbEBcCJNCJGWDcUYCCPCEKFCFCFJGBGBbQBNGeSBBCJGqnRMWEbWmnCoBCeBbMGMEFLBMBEB
    ABBBBBeDbHfIGiJScLCcBbOJGPQPDBYCbHABADABABABABeVTJHZEABZLdKDFCFCFCCbJLBZBSBBBOCNbIeScRcAfGAfA
    bCDbWPAbFbFNbDFbQFbDCbJEHBEbQgBCJGbJEbJEbNIbZMKBOBGBBBKBOBGBBcPlYJVKHYFBbPBIcRFCABbRBBDACWKWJ
    bEcNSBBKVKZcScDGBcMDBBFHBCBbCCCEAbGbCDbCbJHBbDZcBKVKSNReGcUcDbYNbYNbNIJmObPBBDBcXbFKAIbGbFVbQ
    UbBWJcSbFPJcHHANYHJGcABJEDIbJCAJcQEDBMBAbJRBbKGDcKGBABDBOBJHcGFJGDBHCBCVBGBBBEBJCBCCCAGAFGCGD
    EfJcWFJEDbEcRBAIJgKcBCIXFbIcMDALJbMcEHJcCbACOEJGGhDcGdXcVVHCACHBBBbDBBCIMJcSHCbTCHBBbBcKIAIcV
    DAScUkDIBbSBIPJYbDCVBNcVGBBBbRDABBBIIJGFBBBbKBBBFHJlYWJQBbODENJdIAdBbjLdYeGRhNdxKdSPbpFQVfyGw
    KmuBvWHbEBJGdABJGbDCELcCJDMJJUFSbaMcLeYcWEcEHQcMBBBLBOjbZIbvPbQInfRDBGBBBlEPAbDCCAODIpFdkUeCF
    MDIHJDBgyZbTCWuWEDFIHCGbEDfSCrBdGBcSBBCACBCDBLBABGBcMBDCHBGBbBBDBEBADGBnBCYBYBbEBYBbEBYBbEBYB
    bEBYBHCbXtScCEbXIAOAWEBObqMbEGFiFGBQCGBBBEFcJbHAeIbSDNCJEAmJbERcFsCbPbcOGBDBBBOBhOLGbPcXEJbtU
    DBbABBBACABJBDBABAGAEABABABCBBBACABABABABABBBACDBGBDBDBABJBQFCBEBQfaAJbnQclfBbGgdTGiNCinPOlbK
    epJuVcfYhhYFgfFbonhGjF"),
  ("xids xidstart",
    "cNZGZbVAKAEAFWBbEBrPELOEHABAeZEBBDCBAGABCBABTBdEBfIIgJBbLCAGbOcTbAEDbTbQbJBBdUBAPBHBKCCAQABbD
    bDdKLAYbGJBEAFVEAJADAXYHKFXBFRbPcGcBDASAHJPPEHCBCVBGBADDDAQANBBCOBKAIFEBCVBGBBBBBBbFDBATCQIBC
    BVBGBBBEDASAPBXALHCBCVBGBBBEDAbEBBCPARABFDCBDDBBABBDBDCDLWAcAHBCBWBPDAbACCACBbEAEHBCBWBJBEDAb
    FBBBPBRIBCBbOCAQAFCICYFFRDXBIBACGcGbVBANGcGBBABEBXBABJBAKACEBAVDbGAcLHBbJbBEeLbQUAQFEDDADBHCE
    MMARbLBAFACbQBmUBDCGBABDCbOBDCbGBDCGBABDCOBcEBDCcObLPQdHCFDxVCQBZFcWDKHRNSOROMBCPbZbJAEAcPdKH
    bOBAFcRKbEbXbDCELbREZcCWJcAdEAdPbURHcCbDNBKbRbAbJbPCKbJCIHbQCCbPDBFBBDAFhJcMkRCFCbLCFCHBABABA
    BbECcABGBADCBGDDCFEMFCBGeMANAQMdXAEACJBACFGABABABPCDFEEARbOdzBiUGDDBMbLBAFACcDHAQWJGBGBGBGBGB
    GBGBGvECZIHECEEdHGCBdLBDFbQBdPRbFbWPtSjtNcMbguEcPbTCkIDPKBUbUQbECdBbNICdYCcLFBBABEYPBCBDBWbDb
    ZObXcKFDABBLbBKWZbCHbUbCAQEBJKEBbOXCBHUWDADbXBADBCECABAYCCKHCMFCFCFJGBGBbQBNGeKbDqnRMWEbWmnCo
    BCeBbMGMEFABJBMBEBABBBBBeDbHfIGiJScLCcBbOJePABADABABABABeVbKZGZLcDCbEDFCFCFCCbJLBZBSBBBOCNbIe
    ScRcAkHbCDbWbVbFNbDFbLKbDCbJEHBEbQgBSbJEbJEbNIbZMKBOBGBBBKBOBGBBcPlYJVKHYFBbPBIcRFCABbRBBDACW
    KWJbEcNSBBKVKZcScDGBcMAPDBCBbCbQbCDbCbJHBbBbBcBKVKSNReGcUcDbYNbYNbJnKbPGBdAbCKAIVbQRbUUbBWMcA
    cFBCANbSbGYbAbJbDACAIbIDAMbVODVABAbJRBYTBcLGBABDBOBJHbUbMHCBCVBGBBBEDASAMEgCcASDUCbEbVUBBAhCb
    UbPDbKbVUAcHbQNAcTbAbLGhDbReMcLbFHCACHBBBXPABAdQHCbMQABAbCAKbNHAVALbTTAScUkDIBbKRAbXbDeIGBBBb
    LVAZFBBBbFOAmPSPABMBbHeUAdBbjLdYeGRhNdxKdSPbpFRFfyVwKmuBvWHbERdARbDSbVQDbFUFSbaMcLeYcWFAcOMcM
    BBAbCjbZIbvPbQInfRDBGBBBlEPAbDCCAODIpFdkUeCFMDIHJiwKdGBcSBBCACBCDBLBABGBcMBDCHBGBbBBDBEBADGBn
    BCYBYBbEBYBbEBYBbEBYBbEBYBHcsYbEGFkBcJfQbSKGQAmJbDSbRsQbBbdCGBDBBBOBhOcHcPHAbuIDBbABBBACABJBD
    BABAGAEABABABCBBBACABABABABABBBACDBGBDBDBABJBQFCBEBQgoAclfBbGgdTGiNCinPOlbKepJuVcfYhhYFgfF"),
  ("olower otherlowercase",
    "gOAPAtHIHBbEEdSAcAAfcZAepZcKNAbIbKbaNANAQMiDPbgQZcwOBbugKBiCAeZCDBbhIDJAbiwSACCBbPBIddzHcJ"),
  ("oupper otheruppercase",
    "mqQPbgGZgsiYZGZGZ"),
  ("oalpha otheralphabetic",
    "ceANBABBBBBAcUKbWMBGQAdXGEDCBEAbJAbEPdYKdXBDIBCBDgLLDGGTcCBCOBBFCKBbDCcGGCBCBKAKBbDCcGEEBCBEA
    bEBDALCcGHBCBBVBWCECcGGCBCBJBKBbEAcHEDCBCKAbOEcFGBCBCIBLBbDCcGGBCBCIBLBPAMDcGGBCBCKAKBbDCcXFB
    ABHSBcJACGSAdVACFBBQAgHSJKBbJeGLBACDXDECBCCGDDNLBAKDclOBbEBbEBbEBcOShGBbIAeOLEIiOEcFJCTcWBLCb
    XEbWOcICbEICBcFKbYSqQNgaTbFbtqAHbIBnQAIAXEdKBbYPBAcFAbMEbCLbTDbWLbLAcPNMAIBbTCbYABCCBFAbSEFAj
    DHbdzVAdeDEcmGCBBFDbeIDoXBnBCcBNbTBLCbTIJAcJCbKLSBcFCbWMOBdOICAGACAgBJXDcGGCBCBKAKBiBMBCeCRjD
    GCGbDBdEOBAeCKdZNjXMjNFBBCBDABAfMGCFEAbCJbQEBDSKbUNpRHBGdFVBNeSFDABBBCBADAcOEBBBDnKDJBBAbWGDC
    beiGABcCHDdPBbdaYAnkJGBQCGBBBEdWAdhVA"),
  ("omath othermath",
    "dQAbhXCCAbABCBkqYAbBCLAbGDYBOBcNMEADBEESAEACJBADEGADBCBBCBFDDFEcXECDBBBBBABECBEBERCBBABGBAGBl
    EDgMBBAYARArDBMIFEFBCBDEOABACFYBcFABAbDDJBnEBbFJpNVcLDbGBdclFABAEAiDABAdcoVdGBcSBBCACBCDBLBAB
    GBcMBDCHBGBbBBDBEBADGBnBCYBYBbEBYBbEBYBbEBYBbEBYBHCbXiiQDBbABBBACABJBDBABAGAEABABABCBBBACABAB
    ABABABBBACDBGBDBDBABJBQFCBEBQ"),
  ("ogrext othergraphemeextend",
    "drYAYAnUAYAdYAYAjAASBdZAYAePAPAfbHAbvQAgcVBdaoKBhlEAYAnGAMAjHAbiMAcrtSAIEbtlaZdR"),
  ("oids otheridstart",
    "jhLBdgJAVAfvWB"),
  ("oidc otheridcontinue",
    "hBAbbRAgaJIclCAciZBgkRAdaeJA"),
  ("odi otherdefaultignorablecodepoint",
    "bgPAfiLBckHBdhNAglIAdacPAdBIbwmiHABbDdSeXjGfiL"),
  ("grlink graphemelink",
    "dnPAeXAeXAeXAeXAeXAeXAeXAeFBQAeUAeHAeXAhTAgYBcpLBbEAgBAzDAiTAdXBcSBgqTAbukKAbLAfVAfMAeEAlXAjM
    AbjsRAchIAbPAOAcFAeRBfJAeMAgYAdUAjKAeXAjSAeXAeOAeMAkJAjZBgFAdFASAdDAqFAkABdDAqJB")]

end CodeSearch.Unicode
