/-!
# Names of properties and values

The names of the Unicode properties and of their values, long and short, in the form that ignores
case, spaces, dashes and underscores; each stands for the name that the tables use.
-/

namespace SchemaSieve.Text.Unicode

/-- The properties. -/
def propertyNames : List (String × String) := [
  ("cjkaccountingnumeric", "kAccountingNumeric"), ("kaccountingnumeric", "kAccountingNumeric"),
  ("cjkothernumeric", "kOtherNumeric"), ("kothernumeric", "kOtherNumeric"),
  ("cjkprimarynumeric", "kPrimaryNumeric"), ("kprimarynumeric", "kPrimaryNumeric"),
  ("nv", "Numeric_Value"), ("numericvalue", "Numeric_Value"), ("bmg", "Bidi_Mirroring_Glyph"),
  ("bidimirroringglyph", "Bidi_Mirroring_Glyph"), ("bpb", "Bidi_Paired_Bracket"),
  ("bidipairedbracket", "Bidi_Paired_Bracket"), ("cf", "Case_Folding"),
  ("casefolding", "Case_Folding"), ("cjkcompatibilityvariant", "kCompatibilityVariant"),
  ("kcompatibilityvariant", "kCompatibilityVariant"), ("dm", "Decomposition_Mapping"),
  ("decompositionmapping", "Decomposition_Mapping"), ("equideo", "Equivalent_Unified_Ideograph"),
  ("equivalentunifiedideograph", "Equivalent_Unified_Ideograph"), ("fcnfkc", "FC_NFKC_Closure"),
  ("fcnfkcclosure", "FC_NFKC_Closure"), ("lc", "Lowercase_Mapping"),
  ("lowercasemapping", "Lowercase_Mapping"), ("nfkccf", "NFKC_Casefold"),
  ("nfkccasefold", "NFKC_Casefold"), ("nfkcscf", "NFKC_Simple_Casefold"),
  ("nfkcsimplecasefold", "NFKC_Simple_Casefold"), ("scf", "Simple_Case_Folding"),
  ("simplecasefolding", "Simple_Case_Folding"), ("sfc", "Simple_Case_Folding"),
  ("slc", "Simple_Lowercase_Mapping"), ("simplelowercasemapping", "Simple_Lowercase_Mapping"),
  ("stc", "Simple_Titlecase_Mapping"), ("simpletitlecasemapping", "Simple_Titlecase_Mapping"),
  ("suc", "Simple_Uppercase_Mapping"), ("simpleuppercasemapping", "Simple_Uppercase_Mapping"),
  ("tc", "Titlecase_Mapping"), ("titlecasemapping", "Titlecase_Mapping"),
  ("uc", "Uppercase_Mapping"), ("uppercasemapping", "Uppercase_Mapping"),
  ("cjkiicore", "kIICore"), ("kiicore", "kIICore"), ("cjkirggsource", "kIRG_GSource"),
  ("kirggsource", "kIRG_GSource"), ("cjkirghsource", "kIRG_HSource"),
  ("kirghsource", "kIRG_HSource"), ("cjkirgjsource", "kIRG_JSource"),
  ("kirgjsource", "kIRG_JSource"), ("cjkirgkpsource", "kIRG_KPSource"),
  ("kirgkpsource", "kIRG_KPSource"), ("cjkirgksource", "kIRG_KSource"),
  ("kirgksource", "kIRG_KSource"), ("cjkirgmsource", "kIRG_MSource"),
  ("kirgmsource", "kIRG_MSource"), ("cjkirgssource", "kIRG_SSource"),
  ("kirgssource", "kIRG_SSource"), ("cjkirgtsource", "kIRG_TSource"),
  ("kirgtsource", "kIRG_TSource"), ("cjkirguksource", "kIRG_UKSource"),
  ("kirguksource", "kIRG_UKSource"), ("cjkirgusource", "kIRG_USource"),
  ("kirgusource", "kIRG_USource"), ("cjkirgvsource", "kIRG_VSource"),
  ("kirgvsource", "kIRG_VSource"), ("cjkrsunicode", "kRSUnicode"), ("krsunicode", "kRSUnicode"),
  ("unicoderadicalstroke", "kRSUnicode"), ("urs", "kRSUnicode"), ("isc", "ISO_Comment"),
  ("isocomment", "ISO_Comment"), ("jsn", "Jamo_Short_Name"), ("jamoshortname", "Jamo_Short_Name"),
  ("kehcat", "kEH_Cat"), ("kehdesc", "kEH_Desc"), ("kehhg", "kEH_HG"), ("kehifao", "kEH_IFAO"),
  ("kehjsesh", "kEH_JSesh"), ("na", "Name"), ("name", "Name"), ("na1", "Unicode_1_Name"),
  ("unicode1name", "Unicode_1_Name"), ("namealias", "Name_Alias"), ("scx", "Script_Extensions"),
  ("scriptextensions", "Script_Extensions"), ("age", "Age"), ("blk", "Block"), ("block", "Block"),
  ("sc", "Script"), ("script", "Script"), ("bc", "Bidi_Class"), ("bidiclass", "Bidi_Class"),
  ("bpt", "Bidi_Paired_Bracket_Type"), ("bidipairedbrackettype", "Bidi_Paired_Bracket_Type"),
  ("ccc", "Canonical_Combining_Class"), ("canonicalcombiningclass", "Canonical_Combining_Class"),
  ("dt", "Decomposition_Type"), ("decompositiontype", "Decomposition_Type"),
  ("ea", "East_Asian_Width"), ("eastasianwidth", "East_Asian_Width"), ("gc", "General_Category"),
  ("generalcategory", "General_Category"), ("gcb", "Grapheme_Cluster_Break"),
  ("graphemeclusterbreak", "Grapheme_Cluster_Break"), ("hst", "Hangul_Syllable_Type"),
  ("hangulsyllabletype", "Hangul_Syllable_Type"), ("incb", "Indic_Conjunct_Break"),
  ("indicconjunctbreak", "Indic_Conjunct_Break"), ("inpc", "Indic_Positional_Category"),
  ("indicpositionalcategory", "Indic_Positional_Category"), ("insc", "Indic_Syllabic_Category"),
  ("indicsyllabiccategory", "Indic_Syllabic_Category"), ("jg", "Joining_Group"),
  ("joininggroup", "Joining_Group"), ("jt", "Joining_Type"), ("joiningtype", "Joining_Type"),
  ("lb", "Line_Break"), ("linebreak", "Line_Break"), ("nfcqc", "NFC_Quick_Check"),
  ("nfcquickcheck", "NFC_Quick_Check"), ("nfdqc", "NFD_Quick_Check"),
  ("nfdquickcheck", "NFD_Quick_Check"), ("nfkcqc", "NFKC_Quick_Check"),
  ("nfkcquickcheck", "NFKC_Quick_Check"), ("nfkdqc", "NFKD_Quick_Check"),
  ("nfkdquickcheck", "NFKD_Quick_Check"), ("nt", "Numeric_Type"), ("numerictype", "Numeric_Type"),
  ("sb", "Sentence_Break"), ("sentencebreak", "Sentence_Break"), ("vo", "Vertical_Orientation"),
  ("verticalorientation", "Vertical_Orientation"), ("wb", "Word_Break"),
  ("wordbreak", "Word_Break"), ("ahex", "ASCII_Hex_Digit"), ("asciihexdigit", "ASCII_Hex_Digit"),
  ("alpha", "Alphabetic"), ("alphabetic", "Alphabetic"), ("bidic", "Bidi_Control"),
  ("bidicontrol", "Bidi_Control"), ("bidim", "Bidi_Mirrored"), ("bidimirrored", "Bidi_Mirrored"),
  ("cased", "Cased"), ("ce", "Composition_Exclusion"),
  ("compositionexclusion", "Composition_Exclusion"), ("ci", "Case_Ignorable"),
  ("caseignorable", "Case_Ignorable"), ("compex", "Full_Composition_Exclusion"),
  ("fullcompositionexclusion", "Full_Composition_Exclusion"), ("cwcf", "Changes_When_Casefolded"),
  ("changeswhencasefolded", "Changes_When_Casefolded"), ("cwcm", "Changes_When_Casemapped"),
  ("changeswhencasemapped", "Changes_When_Casemapped"), ("cwkcf", "Changes_When_NFKC_Casefolded"),
  ("changeswhennfkccasefolded", "Changes_When_NFKC_Casefolded"),
  ("cwl", "Changes_When_Lowercased"), ("changeswhenlowercased", "Changes_When_Lowercased"),
  ("cwt", "Changes_When_Titlecased"), ("changeswhentitlecased", "Changes_When_Titlecased"),
  ("cwu", "Changes_When_Uppercased"), ("changeswhenuppercased", "Changes_When_Uppercased"),
  ("dash", "Dash"), ("dep", "Deprecated"), ("deprecated", "Deprecated"),
  ("di", "Default_Ignorable_Code_Point"),
  ("defaultignorablecodepoint", "Default_Ignorable_Code_Point"), ("dia", "Diacritic"),
  ("diacritic", "Diacritic"), ("ebase", "Emoji_Modifier_Base"),
  ("emojimodifierbase", "Emoji_Modifier_Base"), ("ecomp", "Emoji_Component"),
  ("emojicomponent", "Emoji_Component"), ("emod", "Emoji_Modifier"),
  ("emojimodifier", "Emoji_Modifier"), ("emoji", "Emoji"), ("epres", "Emoji_Presentation"),
  ("emojipresentation", "Emoji_Presentation"), ("ext", "Extender"), ("extender", "Extender"),
  ("extpict", "Extended_Pictographic"), ("extendedpictographic", "Extended_Pictographic"),
  ("grbase", "Grapheme_Base"), ("graphemebase", "Grapheme_Base"), ("grext", "Grapheme_Extend"),
  ("graphemeextend", "Grapheme_Extend"), ("grlink", "Grapheme_Link"),
  ("graphemelink", "Grapheme_Link"), ("hex", "Hex_Digit"), ("hexdigit", "Hex_Digit"),
  ("hyphen", "Hyphen"), ("idcompatmathcontinue", "ID_Compat_Math_Continue"),
  ("idcompatmathstart", "ID_Compat_Math_Start"), ("idc", "ID_Continue"),
  ("idcontinue", "ID_Continue"), ("ideo", "Ideographic"), ("ideographic", "Ideographic"),
  ("ids", "ID_Start"), ("idstart", "ID_Start"), ("idsb", "IDS_Binary_Operator"),
  ("idsbinaryoperator", "IDS_Binary_Operator"), ("idst", "IDS_Trinary_Operator"),
  ("idstrinaryoperator", "IDS_Trinary_Operator"), ("idsu", "IDS_Unary_Operator"),
  ("idsunaryoperator", "IDS_Unary_Operator"), ("joinc", "Join_Control"),
  ("joincontrol", "Join_Control"), ("kehnomirror", "kEH_NoMirror"),
  ("kehnorotate", "kEH_NoRotate"), ("loe", "Logical_Order_Exception"),
  ("logicalorderexception", "Logical_Order_Exception"), ("lower", "Lowercase"),
  ("lowercase", "Lowercase"), ("math", "Math"), ("mcm", "Modifier_Combining_Mark"),
  ("modifiercombiningmark", "Modifier_Combining_Mark"), ("nchar", "Noncharacter_Code_Point"),
  ("noncharactercodepoint", "Noncharacter_Code_Point"), ("oalpha", "Other_Alphabetic"),
  ("otheralphabetic", "Other_Alphabetic"), ("odi", "Other_Default_Ignorable_Code_Point"),
  ("otherdefaultignorablecodepoint", "Other_Default_Ignorable_Code_Point"),
  ("ogrext", "Other_Grapheme_Extend"), ("othergraphemeextend", "Other_Grapheme_Extend"),
  ("oidc", "Other_ID_Continue"), ("otheridcontinue", "Other_ID_Continue"),
  ("oids", "Other_ID_Start"), ("otheridstart", "Other_ID_Start"), ("olower", "Other_Lowercase"),
  ("otherlowercase", "Other_Lowercase"), ("omath", "Other_Math"), ("othermath", "Other_Math"),
  ("oupper", "Other_Uppercase"), ("otheruppercase", "Other_Uppercase"),
  ("patsyn", "Pattern_Syntax"), ("patternsyntax", "Pattern_Syntax"),
  ("patws", "Pattern_White_Space"), ("patternwhitespace", "Pattern_White_Space"),
  ("pcm", "Prepended_Concatenation_Mark"),
  ("prependedconcatenationmark", "Prepended_Concatenation_Mark"), ("qmark", "Quotation_Mark"),
  ("quotationmark", "Quotation_Mark"), ("radical", "Radical"), ("ri", "Regional_Indicator"),
  ("regionalindicator", "Regional_Indicator"), ("sd", "Soft_Dotted"),
  ("softdotted", "Soft_Dotted"), ("sterm", "Sentence_Terminal"),
  ("sentenceterminal", "Sentence_Terminal"), ("term", "Terminal_Punctuation"),
  ("terminalpunctuation", "Terminal_Punctuation"), ("uideo", "Unified_Ideograph"),
  ("unifiedideograph", "Unified_Ideograph"), ("upper", "Uppercase"), ("uppercase", "Uppercase"),
  ("vs", "Variation_Selector"), ("variationselector", "Variation_Selector"),
  ("wspace", "White_Space"), ("whitespace", "White_Space"), ("space", "White_Space"),
  ("xidc", "XID_Continue"), ("xidcontinue", "XID_Continue"), ("xids", "XID_Start"),
  ("xidstart", "XID_Start"), ("xonfc", "Expands_On_NFC"), ("expandsonnfc", "Expands_On_NFC"),
  ("xonfd", "Expands_On_NFD"), ("expandsonnfd", "Expands_On_NFD"), ("xonfkc", "Expands_On_NFKC"),
  ("expandsonnfkc", "Expands_On_NFKC"), ("xonfkd", "Expands_On_NFKD"),
  ("expandsonnfkd", "Expands_On_NFKD")]

/-- The values of `General_Category`. -/
def categoryNames : List (String × String) := [
  ("c", "C"), ("other", "C"), ("cc", "Cc"), ("control", "Cc"), ("cntrl", "Cc"), ("cf", "Cf"),
  ("format", "Cf"), ("cn", "Cn"), ("unassigned", "Cn"), ("co", "Co"), ("privateuse", "Co"),
  ("cs", "Cs"), ("surrogate", "Cs"), ("l", "L"), ("letter", "L"), ("lc", "LC"),
  ("casedletter", "LC"), ("ll", "Ll"), ("lowercaseletter", "Ll"), ("lm", "Lm"),
  ("modifierletter", "Lm"), ("lo", "Lo"), ("otherletter", "Lo"), ("lt", "Lt"),
  ("titlecaseletter", "Lt"), ("lu", "Lu"), ("uppercaseletter", "Lu"), ("m", "M"), ("mark", "M"),
  ("combiningmark", "M"), ("mc", "Mc"), ("spacingmark", "Mc"), ("me", "Me"),
  ("enclosingmark", "Me"), ("mn", "Mn"), ("nonspacingmark", "Mn"), ("n", "N"), ("number", "N"),
  ("nd", "Nd"), ("decimalnumber", "Nd"), ("digit", "Nd"), ("nl", "Nl"), ("letternumber", "Nl"),
  ("no", "No"), ("othernumber", "No"), ("p", "P"), ("punctuation", "P"), ("punct", "P"),
  ("pc", "Pc"), ("connectorpunctuation", "Pc"), ("pd", "Pd"), ("dashpunctuation", "Pd"),
  ("pe", "Pe"), ("closepunctuation", "Pe"), ("pf", "Pf"), ("finalpunctuation", "Pf"),
  ("pi", "Pi"), ("initialpunctuation", "Pi"), ("po", "Po"), ("otherpunctuation", "Po"),
  ("ps", "Ps"), ("openpunctuation", "Ps"), ("s", "S"), ("symbol", "S"), ("sc", "Sc"),
  ("currencysymbol", "Sc"), ("sk", "Sk"), ("modifiersymbol", "Sk"), ("sm", "Sm"),
  ("mathsymbol", "Sm"), ("so", "So"), ("othersymbol", "So"), ("z", "Z"), ("separator", "Z"),
  ("zl", "Zl"), ("lineseparator", "Zl"), ("zp", "Zp"), ("paragraphseparator", "Zp"), ("zs", "Zs"),
  ("spaceseparator", "Zs")]

/-- The values of `Script` and of `Script_Extensions`. -/
def scriptNames : List (String × String) := [
  ("adlm", "Adlam"), ("adlam", "Adlam"), ("aghb", "Caucasian_Albanian"),
  ("caucasianalbanian", "Caucasian_Albanian"), ("ahom", "Ahom"), ("arab", "Arabic"),
  ("arabic", "Arabic"), ("armi", "Imperial_Aramaic"), ("imperialaramaic", "Imperial_Aramaic"),
  ("armn", "Armenian"), ("armenian", "Armenian"), ("avst", "Avestan"), ("avestan", "Avestan"),
  ("bali", "Balinese"), ("balinese", "Balinese"), ("bamu", "Bamum"), ("bamum", "Bamum"),
  ("bass", "Bassa_Vah"), ("bassavah", "Bassa_Vah"), ("batk", "Batak"), ("batak", "Batak"),
  ("beng", "Bengali"), ("bengali", "Bengali"), ("bhks", "Bhaiksuki"), ("bhaiksuki", "Bhaiksuki"),
  ("bopo", "Bopomofo"), ("bopomofo", "Bopomofo"), ("brah", "Brahmi"), ("brahmi", "Brahmi"),
  ("brai", "Braille"), ("braille", "Braille"), ("bugi", "Buginese"), ("buginese", "Buginese"),
  ("buhd", "Buhid"), ("buhid", "Buhid"), ("cakm", "Chakma"), ("chakma", "Chakma"),
  ("cans", "Canadian_Aboriginal"), ("canadianaboriginal", "Canadian_Aboriginal"),
  ("cari", "Carian"), ("carian", "Carian"), ("cham", "Cham"), ("cher", "Cherokee"),
  ("cherokee", "Cherokee"), ("chrs", "Chorasmian"), ("chorasmian", "Chorasmian"),
  ("copt", "Coptic"), ("coptic", "Coptic"), ("qaac", "Coptic"), ("cpmn", "Cypro_Minoan"),
  ("cyprominoan", "Cypro_Minoan"), ("cprt", "Cypriot"), ("cypriot", "Cypriot"),
  ("cyrl", "Cyrillic"), ("cyrillic", "Cyrillic"), ("deva", "Devanagari"),
  ("devanagari", "Devanagari"), ("diak", "Dives_Akuru"), ("divesakuru", "Dives_Akuru"),
  ("dogr", "Dogra"), ("dogra", "Dogra"), ("dsrt", "Deseret"), ("deseret", "Deseret"),
  ("dupl", "Duployan"), ("duployan", "Duployan"), ("egyp", "Egyptian_Hieroglyphs"),
  ("egyptianhieroglyphs", "Egyptian_Hieroglyphs"), ("elba", "Elbasan"), ("elbasan", "Elbasan"),
  ("elym", "Elymaic"), ("elymaic", "Elymaic"), ("ethi", "Ethiopic"), ("ethiopic", "Ethiopic"),
  ("geor", "Georgian"), ("georgian", "Georgian"), ("glag", "Glagolitic"),
  ("glagolitic", "Glagolitic"), ("gong", "Gunjala_Gondi"), ("gunjalagondi", "Gunjala_Gondi"),
  ("gonm", "Masaram_Gondi"), ("masaramgondi", "Masaram_Gondi"), ("goth", "Gothic"),
  ("gothic", "Gothic"), ("gran", "Grantha"), ("grantha", "Grantha"), ("grek", "Greek"),
  ("greek", "Greek"), ("gujr", "Gujarati"), ("gujarati", "Gujarati"), ("guru", "Gurmukhi"),
  ("gurmukhi", "Gurmukhi"), ("hang", "Hangul"), ("hangul", "Hangul"), ("hani", "Han"),
  ("han", "Han"), ("hano", "Hanunoo"), ("hanunoo", "Hanunoo"), ("hatr", "Hatran"),
  ("hatran", "Hatran"), ("hebr", "Hebrew"), ("hebrew", "Hebrew"), ("hira", "Hiragana"),
  ("hiragana", "Hiragana"), ("hluw", "Anatolian_Hieroglyphs"),
  ("anatolianhieroglyphs", "Anatolian_Hieroglyphs"), ("hmng", "Pahawh_Hmong"),
  ("pahawhhmong", "Pahawh_Hmong"), ("hmnp", "Nyiakeng_Puachue_Hmong"),
  ("nyiakengpuachuehmong", "Nyiakeng_Puachue_Hmong"), ("hung", "Old_Hungarian"),
  ("oldhungarian", "Old_Hungarian"), ("ital", "Old_Italic"), ("olditalic", "Old_Italic"),
  ("java", "Javanese"), ("javanese", "Javanese"), ("kali", "Kayah_Li"), ("kayahli", "Kayah_Li"),
  ("kana", "Katakana"), ("katakana", "Katakana"), ("kawi", "Kawi"), ("khar", "Kharoshthi"),
  ("kharoshthi", "Kharoshthi"), ("khmr", "Khmer"), ("khmer", "Khmer"), ("khoj", "Khojki"),
  ("khojki", "Khojki"), ("kits", "Khitan_Small_Script"),
  ("khitansmallscript", "Khitan_Small_Script"), ("knda", "Kannada"), ("kannada", "Kannada"),
  ("kthi", "Kaithi"), ("kaithi", "Kaithi"), ("lana", "Tai_Tham"), ("taitham", "Tai_Tham"),
  ("laoo", "Lao"), ("lao", "Lao"), ("latn", "Latin"), ("latin", "Latin"), ("lepc", "Lepcha"),
  ("lepcha", "Lepcha"), ("limb", "Limbu"), ("limbu", "Limbu"), ("lina", "Linear_A"),
  ("lineara", "Linear_A"), ("linb", "Linear_B"), ("linearb", "Linear_B"), ("lisu", "Lisu"),
  ("lyci", "Lycian"), ("lycian", "Lycian"), ("lydi", "Lydian"), ("lydian", "Lydian"),
  ("mahj", "Mahajani"), ("mahajani", "Mahajani"), ("maka", "Makasar"), ("makasar", "Makasar"),
  ("mand", "Mandaic"), ("mandaic", "Mandaic"), ("mani", "Manichaean"),
  ("manichaean", "Manichaean"), ("marc", "Marchen"), ("marchen", "Marchen"),
  ("medf", "Medefaidrin"), ("medefaidrin", "Medefaidrin"), ("mend", "Mende_Kikakui"),
  ("mendekikakui", "Mende_Kikakui"), ("merc", "Meroitic_Cursive"),
  ("meroiticcursive", "Meroitic_Cursive"), ("mero", "Meroitic_Hieroglyphs"),
  ("meroitichieroglyphs", "Meroitic_Hieroglyphs"), ("mlym", "Malayalam"),
  ("malayalam", "Malayalam"), ("modi", "Modi"), ("mong", "Mongolian"), ("mongolian", "Mongolian"),
  ("mroo", "Mro"), ("mro", "Mro"), ("mtei", "Meetei_Mayek"), ("meeteimayek", "Meetei_Mayek"),
  ("mult", "Multani"), ("multani", "Multani"), ("mymr", "Myanmar"), ("myanmar", "Myanmar"),
  ("nagm", "Nag_Mundari"), ("nagmundari", "Nag_Mundari"), ("nand", "Nandinagari"),
  ("nandinagari", "Nandinagari"), ("narb", "Old_North_Arabian"),
  ("oldnortharabian", "Old_North_Arabian"), ("nbat", "Nabataean"), ("nabataean", "Nabataean"),
  ("newa", "Newa"), ("nkoo", "Nko"), ("nko", "Nko"), ("nshu", "Nushu"), ("nushu", "Nushu"),
  ("ogam", "Ogham"), ("ogham", "Ogham"), ("olck", "Ol_Chiki"), ("olchiki", "Ol_Chiki"),
  ("orkh", "Old_Turkic"), ("oldturkic", "Old_Turkic"), ("orya", "Oriya"), ("oriya", "Oriya"),
  ("osge", "Osage"), ("osage", "Osage"), ("osma", "Osmanya"), ("osmanya", "Osmanya"),
  ("ougr", "Old_Uyghur"), ("olduyghur", "Old_Uyghur"), ("palm", "Palmyrene"),
  ("palmyrene", "Palmyrene"), ("pauc", "Pau_Cin_Hau"), ("paucinhau", "Pau_Cin_Hau"),
  ("perm", "Old_Permic"), ("oldpermic", "Old_Permic"), ("phag", "Phags_Pa"),
  ("phagspa", "Phags_Pa"), ("phli", "Inscriptional_Pahlavi"),
  ("inscriptionalpahlavi", "Inscriptional_Pahlavi"), ("phlp", "Psalter_Pahlavi"),
  ("psalterpahlavi", "Psalter_Pahlavi"), ("phnx", "Phoenician"), ("phoenician", "Phoenician"),
  ("plrd", "Miao"), ("miao", "Miao"), ("prti", "Inscriptional_Parthian"),
  ("inscriptionalparthian", "Inscriptional_Parthian"), ("rjng", "Rejang"), ("rejang", "Rejang"),
  ("rohg", "Hanifi_Rohingya"), ("hanifirohingya", "Hanifi_Rohingya"), ("runr", "Runic"),
  ("runic", "Runic"), ("samr", "Samaritan"), ("samaritan", "Samaritan"),
  ("sarb", "Old_South_Arabian"), ("oldsoutharabian", "Old_South_Arabian"), ("saur", "Saurashtra"),
  ("saurashtra", "Saurashtra"), ("sgnw", "SignWriting"), ("signwriting", "SignWriting"),
  ("shaw", "Shavian"), ("shavian", "Shavian"), ("shrd", "Sharada"), ("sharada", "Sharada"),
  ("sidd", "Siddham"), ("siddham", "Siddham"), ("sind", "Khudawadi"), ("khudawadi", "Khudawadi"),
  ("sinh", "Sinhala"), ("sinhala", "Sinhala"), ("sogd", "Sogdian"), ("sogdian", "Sogdian"),
  ("sogo", "Old_Sogdian"), ("oldsogdian", "Old_Sogdian"), ("sora", "Sora_Sompeng"),
  ("sorasompeng", "Sora_Sompeng"), ("soyo", "Soyombo"), ("soyombo", "Soyombo"),
  ("sund", "Sundanese"), ("sundanese", "Sundanese"), ("sylo", "Syloti_Nagri"),
  ("sylotinagri", "Syloti_Nagri"), ("syrc", "Syriac"), ("syriac", "Syriac"), ("tagb", "Tagbanwa"),
  ("tagbanwa", "Tagbanwa"), ("takr", "Takri"), ("takri", "Takri"), ("tale", "Tai_Le"),
  ("taile", "Tai_Le"), ("talu", "New_Tai_Lue"), ("newtailue", "New_Tai_Lue"), ("taml", "Tamil"),
  ("tamil", "Tamil"), ("tang", "Tangut"), ("tangut", "Tangut"), ("tavt", "Tai_Viet"),
  ("taiviet", "Tai_Viet"), ("telu", "Telugu"), ("telugu", "Telugu"), ("tfng", "Tifinagh"),
  ("tifinagh", "Tifinagh"), ("tglg", "Tagalog"), ("tagalog", "Tagalog"), ("thaa", "Thaana"),
  ("thaana", "Thaana"), ("thai", "Thai"), ("tibt", "Tibetan"), ("tibetan", "Tibetan"),
  ("tirh", "Tirhuta"), ("tirhuta", "Tirhuta"), ("tnsa", "Tangsa"), ("tangsa", "Tangsa"),
  ("toto", "Toto"), ("ugar", "Ugaritic"), ("ugaritic", "Ugaritic"), ("vaii", "Vai"),
  ("vai", "Vai"), ("vith", "Vithkuqi"), ("vithkuqi", "Vithkuqi"), ("wara", "Warang_Citi"),
  ("warangciti", "Warang_Citi"), ("wcho", "Wancho"), ("wancho", "Wancho"),
  ("xpeo", "Old_Persian"), ("oldpersian", "Old_Persian"), ("xsux", "Cuneiform"),
  ("cuneiform", "Cuneiform"), ("yezi", "Yezidi"), ("yezidi", "Yezidi"), ("yiii", "Yi"),
  ("yi", "Yi"), ("zanb", "Zanabazar_Square"), ("zanabazarsquare", "Zanabazar_Square"),
  ("zinh", "Inherited"), ("inherited", "Inherited"), ("qaai", "Inherited"), ("zyyy", "Common"),
  ("common", "Common"), ("zzzz", "Unknown"), ("unknown", "Unknown"), ("todr", "Todhri"),
  ("todhri", "Todhri"), ("sunu", "Sunuwar"), ("sunuwar", "Sunuwar"), ("gara", "Garay"),
  ("garay", "Garay"), ("gukh", "Gurung_Khema"), ("gurungkhema", "Gurung_Khema"),
  ("krai", "Kirat_Rai"), ("kiratrai", "Kirat_Rai"), ("onao", "Ol_Onal"), ("olonal", "Ol_Onal"),
  ("tutg", "Tulu_Tigalari"), ("tulutigalari", "Tulu_Tigalari"), ("hrkt", "Katakana_Or_Hiragana"),
  ("katakanaorhiragana", "Katakana_Or_Hiragana")]

/-- The values of `Age`. -/
def ageNames : List (String × String) := [
  ("1.1", "1.1"), ("v11", "1.1"), ("2.0", "2.0"), ("v20", "2.0"), ("2.1", "2.1"), ("v21", "2.1"),
  ("3.0", "3.0"), ("v30", "3.0"), ("3.1", "3.1"), ("v31", "3.1"), ("3.2", "3.2"), ("v32", "3.2"),
  ("4.0", "4.0"), ("v40", "4.0"), ("4.1", "4.1"), ("v41", "4.1"), ("5.0", "5.0"), ("v50", "5.0"),
  ("5.1", "5.1"), ("v51", "5.1"), ("5.2", "5.2"), ("v52", "5.2"), ("6.0", "6.0"), ("v60", "6.0"),
  ("6.1", "6.1"), ("v61", "6.1"), ("6.2", "6.2"), ("v62", "6.2"), ("6.3", "6.3"), ("v63", "6.3"),
  ("7.0", "7.0"), ("v70", "7.0"), ("8.0", "8.0"), ("v80", "8.0"), ("9.0", "9.0"), ("v90", "9.0"),
  ("10.0", "10.0"), ("v100", "10.0"), ("11.0", "11.0"), ("v110", "11.0"), ("12.0", "12.0"),
  ("v120", "12.0"), ("12.1", "12.1"), ("v121", "12.1"), ("13.0", "13.0"), ("v130", "13.0"),
  ("14.0", "14.0"), ("v140", "14.0"), ("15.0", "15.0"), ("v150", "15.0"), ("15.1", "15.1"),
  ("v151", "15.1"), ("16.0", "16.0"), ("v160", "16.0"), ("na", "Unassigned"),
  ("unassigned", "Unassigned")]

/-- The values of `Grapheme_Cluster_Break`. -/
def graphemeBreakNames : List (String × String) := [
  ("cn", "Control"), ("control", "Control"), ("cr", "CR"), ("eb", "E_Base"), ("ebase", "E_Base"),
  ("ebg", "E_Base_GAZ"), ("ebasegaz", "E_Base_GAZ"), ("em", "E_Modifier"),
  ("emodifier", "E_Modifier"), ("ex", "Extend"), ("extend", "Extend"), ("gaz", "Glue_After_Zwj"),
  ("glueafterzwj", "Glue_After_Zwj"), ("l", "L"), ("lf", "LF"), ("lv", "LV"), ("lvt", "LVT"),
  ("pp", "Prepend"), ("prepend", "Prepend"), ("ri", "Regional_Indicator"),
  ("regionalindicator", "Regional_Indicator"), ("sm", "SpacingMark"),
  ("spacingmark", "SpacingMark"), ("t", "T"), ("v", "V"), ("xx", "Other"), ("other", "Other"),
  ("zwj", "ZWJ")]

/-- The values of `Word_Break`. -/
def wordBreakNames : List (String × String) := [
  ("cr", "CR"), ("dq", "Double_Quote"), ("doublequote", "Double_Quote"), ("eb", "E_Base"),
  ("ebase", "E_Base"), ("ebg", "E_Base_GAZ"), ("ebasegaz", "E_Base_GAZ"), ("em", "E_Modifier"),
  ("emodifier", "E_Modifier"), ("ex", "ExtendNumLet"), ("extendnumlet", "ExtendNumLet"),
  ("extend", "Extend"), ("fo", "Format"), ("format", "Format"), ("gaz", "Glue_After_Zwj"),
  ("glueafterzwj", "Glue_After_Zwj"), ("hl", "Hebrew_Letter"), ("hebrewletter", "Hebrew_Letter"),
  ("ka", "Katakana"), ("katakana", "Katakana"), ("le", "ALetter"), ("aletter", "ALetter"),
  ("lf", "LF"), ("mb", "MidNumLet"), ("midnumlet", "MidNumLet"), ("ml", "MidLetter"),
  ("midletter", "MidLetter"), ("mn", "MidNum"), ("midnum", "MidNum"), ("nl", "Newline"),
  ("newline", "Newline"), ("nu", "Numeric"), ("numeric", "Numeric"), ("ri", "Regional_Indicator"),
  ("regionalindicator", "Regional_Indicator"), ("sq", "Single_Quote"),
  ("singlequote", "Single_Quote"), ("wsegspace", "WSegSpace"), ("xx", "Other"),
  ("other", "Other"), ("zwj", "ZWJ")]

/-- The values of `Sentence_Break`. -/
def sentenceBreakNames : List (String × String) := [
  ("at", "ATerm"), ("aterm", "ATerm"), ("cl", "Close"), ("close", "Close"), ("cr", "CR"),
  ("ex", "Extend"), ("extend", "Extend"), ("fo", "Format"), ("format", "Format"),
  ("le", "OLetter"), ("oletter", "OLetter"), ("lf", "LF"), ("lo", "Lower"), ("lower", "Lower"),
  ("nu", "Numeric"), ("numeric", "Numeric"), ("sc", "SContinue"), ("scontinue", "SContinue"),
  ("se", "Sep"), ("sep", "Sep"), ("sp", "Sp"), ("st", "STerm"), ("sterm", "STerm"),
  ("up", "Upper"), ("upper", "Upper"), ("xx", "Other"), ("other", "Other")]

end SchemaSieve.Text.Unicode
