/-!
# Scripts

The code points of each script, and the code points that each script uses according to its script
extensions.  Rows are named by the four-letter code and by the full name of the script.
-/

namespace CodeSearch.Unicode

/-- The scripts and the code points that belong to them. -/
def scripts : List (String × String) := [
  ("adlm adlam",
    "hdeUcXEJEB"),
  ("ahom",
    "ebrCbACOEW"),
  ("hluw anatolianhieroglyphs",
    "essEwK"),
  ("arab arabic",
    "chCEBFBNBCBbFBJLZBeDBbHdCbVjGbEBBGcVBbCdntWeKQnYCdBCcBHAbGPeIEBfEfvNbEeWCdglSDBbABBBACABJBDBA
    BAGAEABABABCBBBACABABABABABBBACDBGBDBDBABJBQFCBEBQcAB"),
  ("armn armenian",
    "bzDbLCbXCCdozJE"),
  ("avst avestan",
    "dxcYcBDG"),
  ("bali balinese",
    "kfWcYDbU"),
  ("bamu bamum",
    "clcQdJcvcQvW"),
  ("bass bassavah",
    "fhkIbDCF"),
  ("batk batak",
    "knGbZID"),
  ("beng bengali",
    "dpODBHCBCVBGBADDCICBCDIAEBBECY"),
  ("bhks bhaiksuki",
    "edoIIBbSBNKbC"),
  ("bopo bopomofo",
    "bcSBrlXbQeIbF"),
  ("brah brahmi",
    "dzaEcZEbJJA"),
  ("brai braille",
    "pdWjV"),
  ("bugi buginese",
    "jwAbBCB"),
  ("buhd buhid",
    "iuYT"),
  ("cans canadianaboriginal",
    "hoYyPvOcRdtpQP"),
  ("cari carian",
    "dtyMbW"),
  ("aghb caucasianalbanian",
    "duxSbZLA"),
  ("cakm chakma",
    "dzkAcABR"),
  ("cham",
    "cmjWcCJNCJCD"),
  ("cher cherokee",
    "hlGdHCFcfjEdB"),
  ("chrs chorasmian",
    "dyxCbB"),
  ("zyyy common",
    "AcMbAFbAbUBOBEXAbFArHbMFECTeMAJAGABAyNAGAOADAbGAgAAtWAeZBbvTApPDlEAcgLCcTBhVBBAbvHANAHDBFBCCA
    bdTLCdIBKDKBORbGcLbLBCCFBbABQbPCEzMZKVbjRjWyDCbFBeAtSdPpMLEEBABYPHEDdNBDAdMBfRPbGbJcIcLbFdCbV
    AdKgLjtOcLbhsIbHdYCgJJjKAgEApFAOBbezQBiAJWbIBSBDfRABbFbAFbAKKAbTBcMGBGKEjYCEbSDIdCMbZbSiUbAcs
    hWDhbWeLcIjLKbMCcJDQIBHbDEcIiFTMTMdIJYfFdGBcSBBCACBCDBLBABGBcMBDCHBGBbBBDBEBADGBnBClFCbXhtHcP
    cYcIbbEbREdVMOCOBOBbKKgRcEZBBNbREIHBOFfYblVEQDMDeOEdQGLEAPLEcDIJGbNIbDCBdAnBMNCMDIHbTBGINEIHI
    HfQBcCbLJbsuxBAbEdR"),
  ("copt coptic qaac",
    "bmGNpjKeLFG"),
  ("xsux cuneiform",
    "efbSbjLdYeGBELhN"),
  ("cprt cypriot",
    "dvzKFCABbRBBDACA"),
  ("cpmn cyprominoan",
    "ekyYdU"),
  ("cyrl cyrillic",
    "bnKfCCgMivOIgGAcYAgfNbFbtoAdRbheCBdhpGcJbHA"),
  ("dsrt deseret",
    "dumAdB"),
  ("deva devanagari",
    "dkQdCEOCZcijGbFbreMJ"),
  ("diak divesakuru",
    "eckUGCACHBBBbDBBCLJJ"),
  ("dogr dogra",
    "ecaYcH"),
  ("dupl duployan",
    "gmdSeCFMDIHJCD"),
  ("egyp egyptianhieroglyphs",
    "eldGbqR"),
  ("elba elbasan",
    "duvWbN"),
  ("elym elymaic",
    "dyyYW"),
  ("ethi ethiopic",
    "gvGcUBDCGBABDCbOBDCbGBDCGBABDCOBcEBDCcOCbFDZjvAWJGBGBGBGBGBGBGBGbvkCFCFCFJGBGepyFGBDBBBO"),
  ("geor georgian",
    "ghSbLBAFACbQBDejWbQCCgeAbLBAFA"),
  ("glag glagolitic",
    "qrGdRgizGGBQCGBBBE"),
  ("goth gothic",
    "dueAbA"),
  ("gran grantha",
    "eadSDBHCBCVBGBBBECICBCCCAGAFGCGDE"),
  ("grek greek",
    "bhWDBCCDBAEABABCBABTBcKOPjnQEbYEEEdGAmIVCFCbLCFCHBABABABbECcABOBNCFBSCCBIlJAcajEAbgnIdARAdaxR
    cR"),
  ("gujr gujarati",
    "dzLCBIBCBVBGBBBECJBCBCCAPDCLHG"),
  ("gong gunjalagondi",
    "eebWFBBBbKBBBFHJ"),
  ("guru gurmukhi",
    "duNCBFEBCVBGBBBBBBCABEEBCCDAHDBAHQ"),
  ("hani han",
    "rpWZBdKMiFbVABAZIODblCjtNcMbfbJbhsIoBCeBbsiIBMBccoKclfBbGgdTGiNCinPOlbKepJuVcfYhhYFgfF"),
  ("hang hangul",
    "glKjVllEBjXdPeJbEcNbEbtaNbCyTqnRMWEbWpaIbEDFCFCFCC"),
  ("rohg hanifirohingya",
    "dxwQbNIJ"),
  ("hano hanunoo",
    "itSU"),
  ("hatr hatran",
    "dwiASBBFE"),
  ("hebr hebrew",
    "ccVcCIbAEFdovWZBEBABBBBBJ"),
  ("hira hiragana",
    "shDdHGCfpeVlASAbDCymVA"),
  ("armi imperialaramaic",
    "dwbWVBI"),
  ("zinh inherited qaai",
    "bdOeHkRBrKKbAAbcIDgoXbEtTCBMBGEAGADBhQcLuEBhMbGftXDeDBczuJPQNblNAiSAgfAActcUbTCWuYCRHCGbEDbtl
    hIjF"),
  ("phli inscriptionalpahlavi",
    "dxgQSFH"),
  ("prti inscriptionalparthian",
    "dxfKVCH"),
  ("java javanese",
    "cmeYcZCJEB"),
  ("kthi kaithi",
    "dzfCcOKA"),
  ("knda kannada",
    "etCMBCBWBJBECIBCBDHBGBBDCJBC"),
  ("kana katakana",
    "skVdLCCjGPiAbUBdJczhEJBbScouCDBGBBBAlBCbYAOD"),
  ("kawi",
    "eerWQBbODbB"),
  ("kali kayahli",
    "cmaAbTBA"),
  ("khar kharoshthi",
    "dwtCDBBFHBCBbCCCEJHI"),
  ("kits khitansmallscript",
    "fjiIAkgXsB"),
  ("khmr khmer",
    "ixKdPCJGJsSbF"),
  ("khoj khojki",
    "dztWRBbU"),
  ("sind khudawadi",
    "eaaQcGFJ"),
  ("laoo lao",
    "fmVBBABEBXBABWCEBABGBJCD"),
  ("latn latin",
    "cNZGZbVAPAFWBbEBrGbNEjxBbLGbWFDFMBcRcNjVoFANAQMfLBGAbBARbOecTbFbulMdXDcLFBBABEYNbfKbQBIBDbedQ
    GboKZGZdcFFBbPBIddnPbEGF"),
  ("lepc lepcha",
    "kpScDDODC"),
  ("limb limbu",
    "jmEbEBLELEADL"),
  ("lina lineara",
    "dvfSlYJVKH"),
  ("linb linearb",
    "dsyQLBZBSBBBOCNbIeS"),
  ("lisu",
    "ckkUbVbumAA"),
  ("lyci lycian",
    "dtxGbC"),
  ("lydi lydian",
    "dwkMZFA"),
  ("mahj mahajani",
    "dznCbM"),
  ("maka makasar",
    "eeqQY"),
  ("mlym malayalam",
    "eyAMBCBbYBCBFEPCZ"),
  ("mand mandaic",
    "ddGbBCA"),
  ("mani manichaean",
    "dxaMbMEL"),
  ("marc marchen",
    "edsQbFCVBN"),
  ("gonm masaramgondi",
    "edyEGBBBbRDABBBIIJ"),
  ("medf medefaidrin",
    "fisEdM"),
  ("mtei meeteimayek",
    "cmsMWhTbTCJ"),
  ("mend mendekikakui",
    "hcuYhOCP"),
  ("merc meroiticcursive",
    "dwpKXETCbT"),
  ("mero meroitichieroglyphs",
    "dwoEbF"),
  ("plrd miao",
    "fizOcWEcEHQ"),
  ("modi",
    "ebhGcQLJ"),
  ("mong mongolian",
    "jcIBCABTGdKHbQdscBM"),
  ("mroo mro",
    "fheUbEBJEB"),
  ("mult multani",
    "dzyUGBABDBOBK"),
  ("mymr myanmar",
    "gbOgDcgaYbEdTbF"),
  ("nbat nabataean",
    "dweIbEII"),
  ("nagm nagmundari",
    "hbpObP"),
  ("nand nandinagari",
    "ecqYHCbTCK"),
  ("talu newtailue",
    "jrCbREZGKDB"),
  ("newa",
    "eanOdNBE"),
  ("nkoo nko",
    "cyIcGCC"),
  ("nshu nushu",
    "fjiFAyvMpF"),
  ("hmnp nyiakengpuachuehmong",
    "haeAbSDNCJEB"),
  ("ogam ogham",
    "inObC"),
  ("olck olchiki",
    "ksUbV"),
  ("hung oldhungarian",
    "dxrSbYNbYHF"),
  ("ital olditalic",
    "ducEbJJC"),
  ("narb oldnortharabian",
    "dwyAbF"),
  ("perm oldpermic",
    "dufGbQ"),
  ("xpeo oldpersian",
    "duiIbJEN"),
  ("sogo oldsogdian",
    "dyqIbN"),
  ("sarb oldsoutharabian",
    "dwwUbF"),
  ("orkh oldturkic",
    "dxmUcU"),
  ("ougr olduyghur",
    "dyuQZ"),
  ("orya oriya",
    "eeJCBHCBCVBGBBBECICBCCHCEBBECR"),
  ("osge osage",
    "dusUbJEbJ"),
  ("osma osmanya",
    "duqYbDCJ"),
  ("hmng pahawhhmong",
    "fhmEcRKJBGBUFS"),
  ("palm palmyrene",
    "dwdCbF"),
  ("pauc paucinhau",
    "edcAcE"),
  ("phag phagspa",
    "clsQcD"),
  ("phnx phoenician",
    "dwjGbBDA"),
  ("phlp psalterpahlavi",
    "dxhWRHDMG"),
  ("rjng rejang",
    "cmbWbJLA"),
  ("runr runic",
    "ioUcWDK"),
  ("samr samaritan",
    "daUbTCO"),
  ("saur saurashtra",
    "clvCcRIL"),
  ("shrd sharada",
    "dzoYdR"),
  ("shaw shavian",
    "dupCbV"),
  ("sidd siddham",
    "ebcIcBCbL"),
  ("sgnw signwriting",
    "gwtKzBPEBO"),
  ("sinh sinhala",
    "fcZCBRDXBIBACGDAEFBABHGJCCdulGT"),
  ("sogd sogdian",
    "dysEbP"),
  ("sora sorasompeng",
    "dziEYHJ"),
  ("soyo soyombo",
    "ecxSdE"),
  ("sund sundanese",
    "kkUcLjWH"),
  ("sylo sylotinagri",
    "clqEbS"),
  ("syrc syriac",
    "cqYNBcHCCkMK"),
  ("tglg tagalog",
    "isMVJA"),
  ("tagb tagbanwa",
    "iwEMBCBB"),
  ("tale taile",
    "jpGbDCE"),
  ("lana taitham",
    "jxGcKBbCCKGJGN"),
  ("tavt taiviet",
    "cmoUcOYE"),
  ("takr takri",
    "ebmEcFGJ"),
  ("taml tamil",
    "ejIBBFDCBDDBBABBDBDCDLEEDCBDCAGAOUealHbXNA"),
  ("tnsa tangsa",
    "fhgQdABJ"),
  ("tang tangut",
    "fjiEAbFjbZIbdNtSI"),
  ("telu telugu",
    "eoEMBCBWBPCIBCBDHBBCCACDCJHI"),
  ("thaa thaana",
    "cvWbX"),
  ("thai",
    "fhXcFFbB"),
  ("tibt tibetan",
    "frScTBbJEbMBbJBOBGEB"),
  ("tfng tifinagh",
    "rcYcDHBOA"),
  ("tirh tirhuta",
    "easMcTIJ"),
  ("toto",
    "hatKbE"),
  ("ugar ugaritic",
    "duhCbDBA"),
  ("vaii vai",
    "ckmQlN"),
  ("vith vithkuqi",
    "dvaEKBOBGBBBKBOBGBB"),
  ("wcho wancho",
    "havGcFFA"),
  ("wara warangciti",
    "echCdEMA"),
  ("yezi yezidi",
    "dylKbPBCCB"),
  ("yiii yi",
    "cipKbsUDcC"),
  ("zanb zanabazarsquare",
    "ecuQcT")]

/-- The scripts and the code points that are used in them. -/
def scriptExtensions : List (String × String) := [
  ("adlm adlam",
    "ciHAbGAhavFcXEJEB"),
  ("ahom",
    "ebrCbACOEW"),
  ("hluw anatolianhieroglyphs",
    "essEwK"),
  ("arab arabic",
    "chCEBiGBbHdCbVjGbEBBGcVBbCdntWeKQrCCcBHAbGPeIEBfEbmHbBeiEbEeWCdglSDBbABBBACABJBDBABAGAEABABAB
    CBBBACABABABABABBBACDBGBDBDBABJBQFCBEBQcAB"),
  ("armn armenian",
    "bzDbLCbXCCdozJE"),
  ("avst avestan",
    "dxcYcBDG"),
  ("bali balinese",
    "kfWcYDbU"),
  ("bamu bamum",
    "clcQdJcvcQvW"),
  ("bass bassavah",
    "fhkIbDCF"),
  ("batk batak",
    "knGbZID"),
  ("beng bengali",
    "dnTBRBbADBHCBCVBGBADDCICBCDIAEBBECYhdHABACBBAIAIACAEACCcbaFA"),
  ("bhks bhaiksuki",
    "edoIIBbSBNKbC"),
  ("bopo bopomofo",
    "bcSBrbXCEJBMKDCAGAhNAJbQeIbFczlTBkWE"),
  ("brah brahmi",
    "dzaEcZEbJJA"),
  ("brai braille",
    "pdWjV"),
  ("bugi buginese",
    "jwAbBCBcckTA"),
  ("buhd buhid",
    "iuNBJT"),
  ("cans canadianaboriginal",
    "hoYyPvOcRdtpQP"),
  ("cari carian",
    "dtyMbW"),
  ("aghb caucasianalbanian",
    "duxSbZLA"),
  ("cakm chakma",
    "dtMJckEJdtfQcABR"),
  ("cham",
    "cmjWcCJNCJCD"),
  ("cher cherokee",
    "hlGdHCFcfjEdB"),
  ("chrs chorasmian",
    "dyxCbB"),
  ("zyyy common",
    "AcMbAFbAbUBOBEXAbFArHbMFECTeMAJAGABAyNAiHAtWAcaUApPDcrQCdlILCbGBcABKDKBORbGcLbLBCCFBbABQbPCEz
    MZKVbjRjWyDCbFBeAtScOBZpMLEADANANAVAuJXbFAbXOMDgFJFdRbFAjtOcLbhsQZdYCblOAOBbfhSJWUCLBSBDfRABb
    FbAFbAFeXGBGKEpMMbZbScztReLcIjLKbMCcJDQIBHbDEcIiFTMTMdIbBGfFdGBcSBBCACBCDBLBABGBcMBDCHBGBbBBD
    BEBADGBnBClFCbXhtHcPcYcIbbEbREdVMOCOBOBbKKgRcEZBBNbREIXFfYblVEQDMDeOEdQGLEAPLEcDIJGbNIbDCBdAn
    BMNCMDIHbTBGINEIHIHfQBcCbLJbsuxBAbEdR"),
  ("copt coptic qaac",
    "bmGNpjKeLFGdczWbB"),
  ("xsux cuneiform",
    "efbSbjLdYeGBELhN"),
  ("cprt cypriot",
    "dtiMCEbSDIcoMFCABbRBBDACA"),
  ("cpmn cyprominoan",
    "dtiMBrqKdU"),
  ("cyrl cyrillic",
    "bnKlRivOIgGAcYAeXAgaPbFcPAbtlKdRbheCBdhpGcJbHA"),
  ("dsrt deseret",
    "dumAdB"),
  ("deva devanagari",
    "dkQdECbQhiEbMBBbnAAbzfRJgKbFbreMJ"),
  ("diak divesakuru",
    "eckUGCACHBBBbDBBCLJJ"),
  ("dogr dogra",
    "doMLcidCJbqiOcH"),
  ("dupl duployan",
    "gmdSeCFMDIHJCH"),
  ("egyp egyptianhieroglyphs",
    "eldGbqR"),
  ("elba elbasan",
    "duvWbN"),
  ("elym elymaic",
    "dyyYW"),
  ("ethi ethiopic",
    "gvGcUBDCGBABDCbOBDCbGBDCGBABDCOBcEBDCcOCbFDZjvAWJGBGBGBGBGBGBGBGbvkCFCFCFJGBGepyFGBDBBBO"),
  ("geor georgian",
    "ghSbLBAFACbVejWbQCCgeAbLBAFA"),
  ("glag glagolitic",
    "bsMACAoyQdRsPAbtnFAeotKGBQCGBBBE"),
  ("goth gothic",
    "dueAbA"),
  ("gran grantha",
    "dnTBRByQNgkAABBbECDBbnAAdnrJDBHCBCVBGBBBEBJCBCCCAGAFGCGDEerRBBA"),
  ("grek greek",
    "bgCACAbQDBCCDBAEABABCBABTBcKOPjnQEbYEEEdGCmGVCFCbLCFCHBABABABbECcABOBNCFBSCCBIlJAcajEAbgnIdAR
    AdaxRcR"),
  ("gujr gujarati",
    "dnTBRBkXCBIBCBVBGBBBECJBCBCCAPDCLHGchnSJ"),
  ("gong gunjalagondi",
    "doMBeanIFBBBbKBBBFHJ"),
  ("guru gurmukhi",
    "dnTBRBfZCBFEBCVBGBBBBBBCABEEBCCDAHDBAHQchsZJ"),
  ("hani han",
    "rpWZBdKMiFbRCBMBMBMCAGIhFAfSPbGbJcIbNcEbWPLbZAdKYKEdSbEBjtNcMbfbJcqYHbfbCoBCeBbhRBkWEbqpOBMBb
    lrARlrYBfeSclfBbGgdTGiNCinPOlbKepJuVcfYhhYFgfF"),
  ("hang hangul",
    "glKjVljLCEJBMOCGAhNAcBdPeJbEcNbEbtaNbCyTqnRMWEbWomZBkWEcGbEDFCFCFCC"),
  ("rohg hanifirohingya",
    "chOAOADAbGAfRAdvhJbNIJ"),
  ("hano hanunoo",
    "itSW"),
  ("hatr hatran",
    "dwiASBBFE"),
  ("hebr hebrew",
    "ccVcCIbAEFdovWZBEBABBBBBJ"),
  ("hira hiragana",
    "seRCEJBMQFBAEBDdHCHdMBcztGBkWEKAbTBcouRlASAbDCymVA"),
  ("armi imperialaramaic",
    "dwbWVBI"),
  ("zinh inherited qaai",
    "bdOcNBBBbCcgMBgoXbEbdBcBBABEuEBhMbFdfsQPQNblNAczqObTCWuYCRHCGbEDbtlhIjF"),
  ("phli inscriptionalpahlavi",
    "dxgQSFH"),
  ("prti inscriptionalparthian",
    "dxfKVCH"),
  ("java javanese",
    "cmeYcZBKEB"),
  ("kthi kaithi",
    "doOJcidCJbnmScOKA"),
  ("knda kannada",
    "dnTBRBbeOMBCBWBJBECIBCBDHBGBBDCJBCgaEABAHAXABAcasXF"),
  ("kana katakana",
    "seRCEJBMQFBAEBdNDDdRjGPiAbUBdJcywBBkWcKcouADBGBBBAlBCbYAOD"),
  ("kawi",
    "eerWQBbODbB"),
  ("kali kayahli",
    "cmaAbV"),
  ("khar kharoshthi",
    "dwtCDBBFHBCBbCCCEJHI"),
  ("kits khitansmallscript",
    "fjiIAkgXsB"),
  ("khmr khmer",
    "ixKdPCJGJsSbF"),
  ("khoj khojki",
    "edIJchoIJbobMRBbU"),
  ("sind khudawadi",
    "doMBcidMJboiGcGFJ"),
  ("laoo lao",
    "fmVBBABEBXBABWCEBABGBJCD"),
  ("latn latin",
    "cNZGZbVAPAFWBbEBrGbNEeWMkRBbvEBcxKAeoIbLGbWFDFMBcRcNjVlRAcNANAQMdFAcFBGAbBARbOecTbFbukEHbAdXD
    cLFBBABEYNlQAtTbQBIBDbedQGboKZGZdcFFBbPBIddnPbEGF"),
  ("lepc lepcha",
    "kpScDDODC"),
  ("limb limbu",
    "doNAfxQbEBLELEADL"),
  ("lina lineara",
    "dtiTbSbvGlYJVKH"),
  ("linb linearb",
    "dsyQLBZBSBBBOCNbIeSFCEbSDI"),
  ("lisu",
    "ckkUbVbumAA"),
  ("lyci lycian",
    "dtxGbC"),
  ("lydi lydian",
    "dwkMZFA"),
  ("mahj mahajani",
    "doMLcidCJbnuSbM"),
  ("maka makasar",
    "eeqQY"),
  ("mlym malayalam",
    "dnTBRBbjMMBCBbYBCBFEPCZfvEAcatXC"),
  ("mand mandaic",
    "cjOAtRbBCA"),
  ("mani manichaean",
    "cjOAduqXbMEL"),
  ("marc marchen",
    "edsQbFCVBN"),
  ("gonm masaramgondi",
    "doMBeajQGBBBbRDABBBIIJ"),
  ("medf medefaidrin",
    "fisEdM"),
  ("mtei meeteimayek",
    "cmsMWhTbTCJ"),
  ("mend mendekikakui",
    "hcuYhOCP"),
  ("merc meroiticcursive",
    "dwpKXETCbT"),
  ("mero meroitichieroglyphs",
    "dwoEbF"),
  ("plrd miao",
    "fizOcWEcEHQ"),
  ("modi",
    "clsAJbpoWcQLJ"),
  ("mong mongolian",
    "jcIZGdKHbQcwAAdpgAM"),
  ("mroo mro",
    "fheUbEBJEB"),
  ("mult multani",
    "dyKJdwaAGBABDBOBK"),
  ("mymr myanmar",
    "gbOgDcfuCAgVbEdTbF"),
  ("nbat nabataean",
    "dweIbEII"),
  ("nagm nagmundari",
    "hbpObP"),
  ("nand nandinagari",
    "doMBbiMJgbHAIAHAcasRFbqySHCbTCK"),
  ("talu newtailue",
    "jrCbREZGKDB"),
  ("newa",
    "eanOdNBE"),
  ("nkoo nko",
    "chOAOADAqAcGCCdowSB"),
  ("nshu nushu",
    "fjiFAyvMpF"),
  ("hmnp nyiakengpuachuehmong",
    "haeAbSDNCJEB"),
  ("ogam ogham",
    "inObC"),
  ("olck olchiki",
    "ksUbV"),
  ("hung oldhungarian",
    "dxrSbYNbYHF"),
  ("ital olditalic",
    "ducEbJJC"),
  ("narb oldnortharabian",
    "dwyAbF"),
  ("perm oldpermic",
    "bsLAdsmUbQ"),
  ("xpeo oldpersian",
    "duiIbJEN"),
  ("sogo oldsogdian",
    "dyqIbN"),
  ("sarb oldsoutharabian",
    "dwwUbF"),
  ("orkh oldturkic",
    "dxmUcU"),
  ("ougr olduyghur",
    "cjOAdusVAbsFZ"),
  ("orya oriya",
    "dnTBRBpVCBHCBCVBGBBBECICBCCHCEBBECRgpEAXA"),
  ("osge osage",
    "dusUbJEbJ"),
  ("osma osmanya",
    "duqYbDCJ"),
  ("hmng pahawhhmong",
    "fhmEcRKJBGBUFS"),
  ("palm palmyrene",
    "dwdCbF"),
  ("pauc paucinhau",
    "edcAcE"),
  ("phag phagspa",
    "jcKBBAccqCcD"),
  ("phnx phoenician",
    "dwjGbBDA"),
  ("phlp psalterpahlavi",
    "cjOAduyHRHDMG"),
  ("rjng rejang",
    "cmbWbJLA"),
  ("runr runic",
    "ioUcWDK"),
  ("samr samaritan",
    "daUbTCO"),
  ("saur saurashtra",
    "clvCcRIL"),
  ("shrd sharada",
    "dnTAhkFABACBCAdoqPdR"),
  ("shaw shavian",
    "dupCbV"),
  ("sidd siddham",
    "ebcIcBCbL"),
  ("sgnw signwriting",
    "gwtKzBPEBO"),
  ("sinh sinhala",
    "doMBboLCBRDXBIBACGDAEFBABHGJCCdulGT"),
  ("sogd sogdian",
    "cjOAdwiPbP"),
  ("sora sorasompeng",
    "dziEYHJ"),
  ("soyo soyombo",
    "ecxSdE"),
  ("sund sundanese",
    "kkUcLjWH"),
  ("sylo sylotinagri",
    "doMBeYJchwIbS"),
  ("syrc syriac",
    "chOAOBCAbGAKKbAAfNNBcHCCkMKieFABA"),
  ("tglg tagalog",
    "isMVJAVB"),
  ("tagb tagbanwa",
    "iuNBbPMBCBB"),
  ("tale taile",
    "geAJdkWbDCE"),
  ("lana taitham",
    "jxGcKBbCCKGJGN"),
  ("tavt taiviet",
    "cmoUcOYE"),
  ("takr takri",
    "doMBcidMJbptUcFGJ"),
  ("taml tamil",
    "dnTBRBuUBBFDCBDDBBABBDBDCDLEEDCBDCAGAOUgkDAcbbKAboeFABAcDBetFbXNA"),
  ("tnsa tangsa",
    "fhgQdABJ"),
  ("tang tangut",
    "fjiEAbFjbZIbdNtSI"),
  ("telu telugu",
    "dnTBRBzQMBCBWBPCIBCBDHBBCCACDCJHIgfAAXA"),
  ("thaa thaana",
    "chOAOBCAcMJkSbXdpgQAKA"),
  ("thai",
    "fhXcFFbB"),
  ("tibt tibetan",
    "frScTBbJEbMBbJBOBGEB"),
  ("tfng tifinagh",
    "rcYcDHBOA"),
  ("tirh tirhuta",
    "dnTBRBhkMAcasZJbpaCcTIJ"),
  ("toto",
    "hatKbE"),
  ("ugar ugaritic",
    "duhCbDBA"),
  ("vaii vai",
    "ckmQlN"),
  ("vith vithkuqi",
    "dvaEKBOBGBBBKBOBGBB"),
  ("wcho wancho",
    "havGcFFA"),
  ("wara warangciti",
    "echCdEMA"),
  ("yezi yezidi",
    "chOAOADAcMJdwaGbPBCCB"),
  ("yiii yi",
    "seRBFJCHiPAbqbCbsUDcCbiiCE"),
  ("zanb zanabazarsquare",
    "ecuQcT")]

end CodeSearch.Unicode
