/-!
# Other names of properties and values

Every property and value has a long name, by which the tables list it, and
most have a short one besides. A name is listed here only if it differs from
the long one in more than case and punctuation.
-/

namespace Emend.Unicode

/-- The short and other names of the general categories and of their groups. -/
def generalCategoryAliases : List (String × String) := [
  ("LC", "Cased_Letter"), ("Pe", "Close_Punctuation"), ("Pc", "Connector_Punctuation"),
  ("Cc", "Control"), ("Cntrl", "Control"), ("Sc", "Currency_Symbol"),
  ("Pd", "Dash_Punctuation"), ("Nd", "Decimal_Number"), ("Digit", "Decimal_Number"),
  ("Me", "Enclosing_Mark"), ("Pf", "Final_Punctuation"), ("Cf", "Format"),
  ("Pi", "Initial_Punctuation"), ("L", "Letter"), ("Nl", "Letter_Number"),
  ("Zl", "Line_Separator"), ("Ll", "Lowercase_Letter"), ("M", "Mark"),
  ("Combining_Mark", "Mark"), ("Sm", "Math_Symbol"), ("Lm", "Modifier_Letter"),
  ("Sk", "Modifier_Symbol"), ("Mn", "Nonspacing_Mark"), ("N", "Number"),
  ("Ps", "Open_Punctuation"), ("C", "Other"), ("Lo", "Other_Letter"), ("No", "Other_Number"),
  ("Po", "Other_Punctuation"), ("So", "Other_Symbol"), ("Zp", "Paragraph_Separator"),
  ("Co", "Private_Use"), ("P", "Punctuation"), ("Punct", "Punctuation"), ("Z", "Separator"),
  ("Zs", "Space_Separator"), ("Mc", "Spacing_Mark"), ("S", "Symbol"),
  ("Lt", "Titlecase_Letter"), ("Cn", "Unassigned"), ("Lu", "Uppercase_Letter")]

/-- The codes and other names of the scripts. -/
def scriptAliases : List (String × String) := [
  ("Adlm", "Adlam"), ("Aghb", "Caucasian_Albanian"), ("Arab", "Arabic"),
  ("Armi", "Imperial_Aramaic"), ("Armn", "Armenian"), ("Avst", "Avestan"), ("Bali", "Balinese"),
  ("Bamu", "Bamum"), ("Bass", "Bassa_Vah"), ("Batk", "Batak"), ("Beng", "Bengali"),
  ("Bhks", "Bhaiksuki"), ("Bopo", "Bopomofo"), ("Brah", "Brahmi"), ("Brai", "Braille"),
  ("Bugi", "Buginese"), ("Buhd", "Buhid"), ("Cakm", "Chakma"), ("Cans", "Canadian_Aboriginal"),
  ("Cari", "Carian"), ("Cher", "Cherokee"), ("Chrs", "Chorasmian"), ("Copt", "Coptic"),
  ("Cpmn", "Cypro_Minoan"), ("Cprt", "Cypriot"), ("Cyrl", "Cyrillic"), ("Deva", "Devanagari"),
  ("Diak", "Dives_Akuru"), ("Dogr", "Dogra"), ("Dsrt", "Deseret"), ("Dupl", "Duployan"),
  ("Egyp", "Egyptian_Hieroglyphs"), ("Elba", "Elbasan"), ("Elym", "Elymaic"),
  ("Ethi", "Ethiopic"), ("Gara", "Garay"), ("Geor", "Georgian"), ("Glag", "Glagolitic"),
  ("Gong", "Gunjala_Gondi"), ("Gonm", "Masaram_Gondi"), ("Goth", "Gothic"), ("Gran", "Grantha"),
  ("Grek", "Greek"), ("Gujr", "Gujarati"), ("Gukh", "Gurung_Khema"), ("Guru", "Gurmukhi"),
  ("Hang", "Hangul"), ("Hani", "Han"), ("Hano", "Hanunoo"), ("Hatr", "Hatran"),
  ("Hebr", "Hebrew"), ("Hira", "Hiragana"), ("Hluw", "Anatolian_Hieroglyphs"),
  ("Hmng", "Pahawh_Hmong"), ("Hmnp", "Nyiakeng_Puachue_Hmong"), ("Hung", "Old_Hungarian"),
  ("Ital", "Old_Italic"), ("Java", "Javanese"), ("Kali", "Kayah_Li"), ("Kana", "Katakana"),
  ("Khar", "Kharoshthi"), ("Khmr", "Khmer"), ("Khoj", "Khojki"),
  ("Kits", "Khitan_Small_Script"), ("Knda", "Kannada"), ("Krai", "Kirat_Rai"),
  ("Kthi", "Kaithi"), ("Lana", "Tai_Tham"), ("Laoo", "Lao"), ("Latn", "Latin"),
  ("Lepc", "Lepcha"), ("Limb", "Limbu"), ("Lina", "Linear_A"), ("Linb", "Linear_B"),
  ("Lyci", "Lycian"), ("Lydi", "Lydian"), ("Mahj", "Mahajani"), ("Maka", "Makasar"),
  ("Mand", "Mandaic"), ("Mani", "Manichaean"), ("Marc", "Marchen"), ("Medf", "Medefaidrin"),
  ("Mend", "Mende_Kikakui"), ("Merc", "Meroitic_Cursive"), ("Mero", "Meroitic_Hieroglyphs"),
  ("Mlym", "Malayalam"), ("Mong", "Mongolian"), ("Mroo", "Mro"), ("Mtei", "Meetei_Mayek"),
  ("Mult", "Multani"), ("Mymr", "Myanmar"), ("Nagm", "Nag_Mundari"), ("Nand", "Nandinagari"),
  ("Narb", "Old_North_Arabian"), ("Nbat", "Nabataean"), ("Nkoo", "Nko"), ("Nshu", "Nushu"),
  ("Ogam", "Ogham"), ("Olck", "Ol_Chiki"), ("Onao", "Ol_Onal"), ("Orkh", "Old_Turkic"),
  ("Orya", "Oriya"), ("Osge", "Osage"), ("Osma", "Osmanya"), ("Ougr", "Old_Uyghur"),
  ("Palm", "Palmyrene"), ("Pauc", "Pau_Cin_Hau"), ("Perm", "Old_Permic"), ("Phag", "Phags_Pa"),
  ("Phli", "Inscriptional_Pahlavi"), ("Phlp", "Psalter_Pahlavi"), ("Phnx", "Phoenician"),
  ("Plrd", "Miao"), ("Prti", "Inscriptional_Parthian"), ("Qaac", "Coptic"),
  ("Qaai", "Inherited"), ("Rjng", "Rejang"), ("Rohg", "Hanifi_Rohingya"), ("Runr", "Runic"),
  ("Samr", "Samaritan"), ("Sarb", "Old_South_Arabian"), ("Saur", "Saurashtra"),
  ("Sgnw", "SignWriting"), ("Shaw", "Shavian"), ("Shrd", "Sharada"), ("Sidd", "Siddham"),
  ("Sind", "Khudawadi"), ("Sinh", "Sinhala"), ("Sogd", "Sogdian"), ("Sogo", "Old_Sogdian"),
  ("Sora", "Sora_Sompeng"), ("Soyo", "Soyombo"), ("Sund", "Sundanese"), ("Sunu", "Sunuwar"),
  ("Sylo", "Syloti_Nagri"), ("Syrc", "Syriac"), ("Tagb", "Tagbanwa"), ("Takr", "Takri"),
  ("Tale", "Tai_Le"), ("Talu", "New_Tai_Lue"), ("Taml", "Tamil"), ("Tang", "Tangut"),
  ("Tavt", "Tai_Viet"), ("Telu", "Telugu"), ("Tfng", "Tifinagh"), ("Tglg", "Tagalog"),
  ("Thaa", "Thaana"), ("Tibt", "Tibetan"), ("Tirh", "Tirhuta"), ("Tnsa", "Tangsa"),
  ("Todr", "Todhri"), ("Tutg", "Tulu_Tigalari"), ("Ugar", "Ugaritic"), ("Vaii", "Vai"),
  ("Vith", "Vithkuqi"), ("Wara", "Warang_Citi"), ("Wcho", "Wancho"), ("Xpeo", "Old_Persian"),
  ("Xsux", "Cuneiform"), ("Yezi", "Yezidi"), ("Yiii", "Yi"), ("Zanb", "Zanabazar_Square"),
  ("Zinh", "Inherited"), ("Zyyy", "Common")]

/-- The short and other names of the binary properties. -/
def binaryPropertyAliases : List (String × String) := [
  ("AHex", "ASCII_Hex_Digit"), ("Alpha", "Alphabetic"), ("Bidi_C", "Bidi_Control"),
  ("Bidi_M", "Bidi_Mirrored"), ("CI", "Case_Ignorable"), ("CWCF", "Changes_When_Casefolded"),
  ("CWCM", "Changes_When_Casemapped"), ("CWL", "Changes_When_Lowercased"),
  ("CWT", "Changes_When_Titlecased"), ("CWU", "Changes_When_Uppercased"),
  ("DI", "Default_Ignorable_Code_Point"), ("Dep", "Deprecated"), ("Dia", "Diacritic"),
  ("EBase", "Emoji_Modifier_Base"), ("EComp", "Emoji_Component"), ("EMod", "Emoji_Modifier"),
  ("EPres", "Emoji_Presentation"), ("Ext", "Extender"), ("ExtPict", "Extended_Pictographic"),
  ("Gr_Base", "Grapheme_Base"), ("Gr_Ext", "Grapheme_Extend"), ("Gr_Link", "Grapheme_Link"),
  ("Hex", "Hex_Digit"), ("IDC", "ID_Continue"), ("IDS", "ID_Start"),
  ("IDSB", "IDS_Binary_Operator"), ("IDST", "IDS_Trinary_Operator"),
  ("IDSU", "IDS_Unary_Operator"), ("Ideo", "Ideographic"), ("Join_C", "Join_Control"),
  ("LOE", "Logical_Order_Exception"), ("Lower", "Lowercase"),
  ("MCM", "Modifier_Combining_Mark"), ("NChar", "Noncharacter_Code_Point"),
  ("OAlpha", "Other_Alphabetic"), ("ODI", "Other_Default_Ignorable_Code_Point"),
  ("OGr_Ext", "Other_Grapheme_Extend"), ("OIDC", "Other_ID_Continue"),
  ("OIDS", "Other_ID_Start"), ("OLower", "Other_Lowercase"), ("OMath", "Other_Math"),
  ("OUpper", "Other_Uppercase"), ("PCM", "Prepended_Concatenation_Mark"),
  ("Pat_Syn", "Pattern_Syntax"), ("Pat_WS", "Pattern_White_Space"), ("QMark", "Quotation_Mark"),
  ("RI", "Regional_Indicator"), ("SD", "Soft_Dotted"), ("STerm", "Sentence_Terminal"),
  ("Space", "White_Space"), ("Term", "Terminal_Punctuation"), ("UIdeo", "Unified_Ideograph"),
  ("Upper", "Uppercase"), ("VS", "Variation_Selector"), ("WSpace", "White_Space"),
  ("XIDC", "XID_Continue"), ("XIDS", "XID_Start")]

/-- The short names of the grapheme cluster break values. -/
def graphemeBreakAliases : List (String × String) := [
  ("CN", "Control"), ("EX", "Extend"), ("PP", "Prepend"), ("RI", "Regional_Indicator"),
  ("SM", "SpacingMark")]

/-- The short names of the word break values. -/
def wordBreakAliases : List (String × String) := [
  ("LE", "ALetter"), ("DQ", "Double_Quote"), ("EX", "ExtendNumLet"), ("FO", "Format"),
  ("HL", "Hebrew_Letter"), ("KA", "Katakana"), ("ML", "MidLetter"), ("MN", "MidNum"),
  ("MB", "MidNumLet"), ("NL", "Newline"), ("NU", "Numeric"), ("RI", "Regional_Indicator"),
  ("SQ", "Single_Quote")]

/-- The short names of the sentence break values. -/
def sentenceBreakAliases : List (String × String) := [
  ("AT", "ATerm"), ("CL", "Close"), ("EX", "Extend"), ("FO", "Format"), ("LO", "Lower"),
  ("NU", "Numeric"), ("LE", "OLetter"), ("SC", "SContinue"), ("ST", "STerm"), ("SE", "Sep"),
  ("UP", "Upper")]

end Emend.Unicode
