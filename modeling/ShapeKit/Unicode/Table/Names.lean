/-!
# Property and value names

The names by which a pattern may refer to Unicode properties and their values.
-/

namespace ShapeKit.Unicode.Table

/-- Every Unicode property by its names: the long name first, then its aliases. -/
def propertyNames : List (List String) :=
  [["kAccountingNumeric", "cjkAccountingNumeric"],
   ["kOtherNumeric", "cjkOtherNumeric"],
   ["kPrimaryNumeric", "cjkPrimaryNumeric"],
   ["Numeric_Value", "nv"],
   ["Bidi_Mirroring_Glyph", "bmg"],
   ["Bidi_Paired_Bracket", "bpb"],
   ["Case_Folding", "cf"],
   ["kCompatibilityVariant", "cjkCompatibilityVariant"],
   ["Decomposition_Mapping", "dm"],
   ["Equivalent_Unified_Ideograph", "EqUIdeo"],
   ["FC_NFKC_Closure", "FC_NFKC"],
   ["Lowercase_Mapping", "lc"],
   ["NFKC_Casefold", "NFKC_CF"],
   ["NFKC_Simple_Casefold", "NFKC_SCF"],
   ["Simple_Case_Folding", "scf", "sfc"],
   ["Simple_Lowercase_Mapping", "slc"],
   ["Simple_Titlecase_Mapping", "stc"],
   ["Simple_Uppercase_Mapping", "suc"],
   ["Titlecase_Mapping", "tc"],
   ["Uppercase_Mapping", "uc"],
   ["kIICore", "cjkIICore"],
   ["kIRG_GSource", "cjkIRG_GSource"],
   ["kIRG_HSource", "cjkIRG_HSource"],
   ["kIRG_JSource", "cjkIRG_JSource"],
   ["kIRG_KPSource", "cjkIRG_KPSource"],
   ["kIRG_KSource", "cjkIRG_KSource"],
   ["kIRG_MSource", "cjkIRG_MSource"],
   ["kIRG_SSource", "cjkIRG_SSource"],
   ["kIRG_TSource", "cjkIRG_TSource"],
   ["kIRG_UKSource", "cjkIRG_UKSource"],
   ["kIRG_USource", "cjkIRG_USource"],
   ["kIRG_VSource", "cjkIRG_VSource"],
   ["kRSUnicode", "cjkRSUnicode", "Unicode_Radical_Stroke", "URS"],
   ["ISO_Comment", "isc"],
   ["Jamo_Short_Name", "JSN"],
   ["kEH_Cat"],
   ["kEH_Desc"],
   ["kEH_HG"],
   ["kEH_IFAO"],
   ["kEH_JSesh"],
   ["Name", "na"],
   ["Unicode_1_Name", "na1"],
   ["Name_Alias"],
   ["Script_Extensions", "scx"],
   ["Age", "age"],
   ["Block", "blk"],
   ["Script", "sc"],
   ["Bidi_Class", "bc"],
   ["Bidi_Paired_Bracket_Type", "bpt"],
   ["Canonical_Combining_Class", "ccc"],
   ["Decomposition_Type", "dt"],
   ["East_Asian_Width", "ea"],
   ["General_Category", "gc"],
   ["Grapheme_Cluster_Break", "GCB"],
   ["Hangul_Syllable_Type", "hst"],
   ["Indic_Conjunct_Break", "InCB"],
   ["Indic_Positional_Category", "InPC"],
   ["Indic_Syllabic_Category", "InSC"],
   ["Joining_Group", "jg"],
   ["Joining_Type", "jt"],
   ["Line_Break", "lb"],
   ["NFC_Quick_Check", "NFC_QC"],
   ["NFD_Quick_Check", "NFD_QC"],
   ["NFKC_Quick_Check", "NFKC_QC"],
   ["NFKD_Quick_Check", "NFKD_QC"],
   ["Numeric_Type", "nt"],
   ["Sentence_Break", "SB"],
   ["Vertical_Orientation", "vo"],
   ["Word_Break", "WB"],
   ["ASCII_Hex_Digit", "AHex"],
   ["Alphabetic", "Alpha"],
   ["Bidi_Control", "Bidi_C"],
   ["Bidi_Mirrored", "Bidi_M"],
   ["Cased"],
   ["Composition_Exclusion", "CE"],
   ["Case_Ignorable", "CI"],
   ["Full_Composition_Exclusion", "Comp_Ex"],
   ["Changes_When_Casefolded", "CWCF"],
   ["Changes_When_Casemapped", "CWCM"],
   ["Changes_When_NFKC_Casefolded", "CWKCF"],
   ["Changes_When_Lowercased", "CWL"],
   ["Changes_When_Titlecased", "CWT"],
   ["Changes_When_Uppercased", "CWU"],
   ["Dash"],
   ["Deprecated", "Dep"],
   ["Default_Ignorable_Code_Point", "DI"],
   ["Diacritic", "Dia"],
   ["Emoji_Modifier_Base", "EBase"],
   ["Emoji_Component", "EComp"],
   ["Emoji_Modifier", "EMod"],
   ["Emoji"],
   ["Emoji_Presentation", "EPres"],
   ["Extender", "Ext"],
   ["Extended_Pictographic", "ExtPict"],
   ["Grapheme_Base", "Gr_Base"],
   ["Grapheme_Extend", "Gr_Ext"],
   ["Grapheme_Link", "Gr_Link"],
   ["Hex_Digit", "Hex"],
   ["Hyphen"],
   ["ID_Compat_Math_Continue"],
   ["ID_Compat_Math_Start"],
   ["ID_Continue", "IDC"],
   ["Ideographic", "Ideo"],
   ["ID_Start", "IDS"],
   ["IDS_Binary_Operator", "IDSB"],
   ["IDS_Trinary_Operator", "IDST"],
   ["IDS_Unary_Operator", "IDSU"],
   ["Join_Control", "Join_C"],
   ["kEH_NoMirror"],
   ["kEH_NoRotate"],
   ["Logical_Order_Exception", "LOE"],
   ["Lowercase", "Lower"],
   ["Math"],
   ["Modifier_Combining_Mark", "MCM"],
   ["Noncharacter_Code_Point", "NChar"],
   ["Other_Alphabetic", "OAlpha"],
   ["Other_Default_Ignorable_Code_Point", "ODI"],
   ["Other_Grapheme_Extend", "OGr_Ext"],
   ["Other_ID_Continue", "OIDC"],
   ["Other_ID_Start", "OIDS"],
   ["Other_Lowercase", "OLower"],
   ["Other_Math", "OMath"],
   ["Other_Uppercase", "OUpper"],
   ["Pattern_Syntax", "Pat_Syn"],
   ["Pattern_White_Space", "Pat_WS"],
   ["Prepended_Concatenation_Mark", "PCM"],
   ["Quotation_Mark", "QMark"],
   ["Radical"],
   ["Regional_Indicator", "RI"],
   ["Soft_Dotted", "SD"],
   ["Sentence_Terminal", "STerm"],
   ["Terminal_Punctuation", "Term"],
   ["Unified_Ideograph", "UIdeo"],
   ["Uppercase", "Upper"],
   ["Variation_Selector", "VS"],
   ["White_Space", "WSpace", "space"],
   ["XID_Continue", "XIDC"],
   ["XID_Start", "XIDS"],
   ["Expands_On_NFC", "XO_NFC"],
   ["Expands_On_NFD", "XO_NFD"],
   ["Expands_On_NFKC", "XO_NFKC"],
   ["Expands_On_NFKD", "XO_NFKD"]]

/-- The general categories and their groups by their names: the long name
first, then the one- or two-letter code and any other alias. -/
def categoryNames : List (List String) :=
  [["Other", "C"],
   ["Control", "Cc", "Cntrl"],
   ["Format", "Cf"],
   ["Unassigned", "Cn"],
   ["Private_Use", "Co"],
   ["Surrogate", "Cs"],
   ["Letter", "L"],
   ["Cased_Letter", "LC"],
   ["Lowercase_Letter", "Ll"],
   ["Modifier_Letter", "Lm"],
   ["Other_Letter", "Lo"],
   ["Titlecase_Letter", "Lt"],
   ["Uppercase_Letter", "Lu"],
   ["Mark", "M", "Combining_Mark"],
   ["Spacing_Mark", "Mc"],
   ["Enclosing_Mark", "Me"],
   ["Nonspacing_Mark", "Mn"],
   ["Number", "N"],
   ["Decimal_Number", "Nd", "Digit"],
   ["Letter_Number", "Nl"],
   ["Other_Number", "No"],
   ["Punctuation", "P", "Punct"],
   ["Connector_Punctuation", "Pc"],
   ["Dash_Punctuation", "Pd"],
   ["Close_Punctuation", "Pe"],
   ["Final_Punctuation", "Pf"],
   ["Initial_Punctuation", "Pi"],
   ["Other_Punctuation", "Po"],
   ["Open_Punctuation", "Ps"],
   ["Symbol", "S"],
   ["Currency_Symbol", "Sc"],
   ["Modifier_Symbol", "Sk"],
   ["Math_Symbol", "Sm"],
   ["Other_Symbol", "So"],
   ["Separator", "Z"],
   ["Line_Separator", "Zl"],
   ["Paragraph_Separator", "Zp"],
   ["Space_Separator", "Zs"]]

/-- The values of the age property by their names: the long name first, then
the version number, and `Unassigned` for code points not yet assigned. -/
def ageNames : List (List String) :=
  [["V1_1", "1.1"],
   ["V10_0", "10.0"],
   ["V11_0", "11.0"],
   ["V12_0", "12.0"],
   ["V12_1", "12.1"],
   ["V13_0", "13.0"],
   ["V14_0", "14.0"],
   ["V15_0", "15.0"],
   ["V2_0", "2.0"],
   ["V2_1", "2.1"],
   ["V3_0", "3.0"],
   ["V3_1", "3.1"],
   ["V3_2", "3.2"],
   ["V4_0", "4.0"],
   ["V4_1", "4.1"],
   ["V5_0", "5.0"],
   ["V5_1", "5.1"],
   ["V5_2", "5.2"],
   ["V6_0", "6.0"],
   ["V6_1", "6.1"],
   ["V6_2", "6.2"],
   ["V6_3", "6.3"],
   ["V7_0", "7.0"],
   ["V8_0", "8.0"],
   ["V9_0", "9.0"],
   ["Unassigned", "NA"],
   ["V15_1", "15.1"],
   ["V16_0", "16.0"],
   ["V17_0", "17.0"]]

/-- The values of the grapheme cluster break property by their names: the long name first. -/
def graphemeBreakNames : List (List String) :=
  [["Control", "CN"],
   ["CR"],
   ["E_Base", "EB"],
   ["E_Base_GAZ", "EBG"],
   ["E_Modifier", "EM"],
   ["Extend", "EX"],
   ["Glue_After_Zwj", "GAZ"],
   ["L"],
   ["LF"],
   ["LV"],
   ["LVT"],
   ["Prepend", "PP"],
   ["Regional_Indicator", "RI"],
   ["SpacingMark", "SM"],
   ["T"],
   ["V"],
   ["Other", "XX"],
   ["ZWJ"]]

/-- The values of the sentence break property by their names: the long name first. -/
def sentenceBreakNames : List (List String) :=
  [["ATerm", "AT"],
   ["Close", "CL"],
   ["CR"],
   ["Extend", "EX"],
   ["Format", "FO"],
   ["OLetter", "LE"],
   ["LF"],
   ["Lower", "LO"],
   ["Numeric", "NU"],
   ["SContinue", "SC"],
   ["Sep", "SE"],
   ["Sp", "SP"],
   ["STerm", "ST"],
   ["Upper", "UP"],
   ["Other", "XX"]]

/-- The values of the word break property by their names: the long name first. -/
def wordBreakNames : List (List String) :=
  [["CR"],
   ["Double_Quote", "DQ"],
   ["E_Base", "EB"],
   ["E_Base_GAZ", "EBG"],
   ["E_Modifier", "EM"],
   ["ExtendNumLet", "EX"],
   ["Extend"],
   ["Format", "FO"],
   ["Glue_After_Zwj", "GAZ"],
   ["Hebrew_Letter", "HL"],
   ["Katakana", "KA"],
   ["ALetter", "LE"],
   ["LF"],
   ["MidNumLet", "MB"],
   ["MidLetter", "ML"],
   ["MidNum", "MN"],
   ["Newline", "NL"],
   ["Numeric", "NU"],
   ["Regional_Indicator", "RI"],
   ["Single_Quote", "SQ"],
   ["WSegSpace"],
   ["Other", "XX"],
   ["ZWJ"]]


end ShapeKit.Unicode.Table
