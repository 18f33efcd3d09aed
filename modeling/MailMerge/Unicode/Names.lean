/-!
# Names of properties

The names under which properties and their values may be asked for. Each row gives the full name and
all names that stand for it, in the loose form that `looseName` produces.
-/

namespace MailMerge.Unicode

/-- Every property of the character database, also those that no set can be asked for. -/
def propertyNames : List (String × String) := [
  ("ASCII_Hex_Digit", "ahex asciihexdigit"),
  ("Age", "age"),
  ("Alphabetic", "alpha alphabetic"),
  ("Bidi_Class", "bc bidiclass"),
  ("Bidi_Control", "bidic bidicontrol"),
  ("Bidi_Mirrored", "bidim bidimirrored"),
  ("Bidi_Mirroring_Glyph", "bmg bidimirroringglyph"),
  ("Bidi_Paired_Bracket", "bpb bidipairedbracket"),
  ("Bidi_Paired_Bracket_Type", "bpt bidipairedbrackettype"),
  ("Block", "blk block"),
  ("Canonical_Combining_Class", "ccc canonicalcombiningclass"),
  ("Case_Folding", "cf casefolding"),
  ("Case_Ignorable", "ci caseignorable"),
  ("Cased", "cased"),
  ("Changes_When_Casefolded", "cwcf changeswhencasefolded"),
  ("Changes_When_Casemapped", "cwcm changeswhencasemapped"),
  ("Changes_When_Lowercased", "cwl changeswhenlowercased"),
  ("Changes_When_NFKC_Casefolded", "cwkcf changeswhennfkccasefolded"),
  ("Changes_When_Titlecased", "cwt changeswhentitlecased"),
  ("Changes_When_Uppercased", "cwu changeswhenuppercased"),
  ("Composition_Exclusion", "ce compositionexclusion"),
  ("Dash", "dash"),
  ("Decomposition_Mapping", "dm decompositionmapping"),
  ("Decomposition_Type", "dt decompositiontype"),
  ("Default_Ignorable_Code_Point", "di defaultignorablecodepoint"),
  ("Deprecated", "dep deprecated"),
  ("Diacritic", "dia diacritic"),
  ("East_Asian_Width", "ea eastasianwidth"),
  ("Emoji", "emoji"),
  ("Emoji_Component", "ecomp emojicomponent"),
  ("Emoji_Modifier", "emod emojimodifier"),
  ("Emoji_Modifier_Base", "ebase emojimodifierbase"),
  ("Emoji_Presentation", "epres emojipresentation"),
  ("Equivalent_Unified_Ideograph", "equideo equivalentunifiedideograph"),
  ("Expands_On_NFC", "xonfc expandsonnfc"),
  ("Expands_On_NFD", "xonfd expandsonnfd"),
  ("Expands_On_NFKC", "xonfkc expandsonnfkc"),
  ("Expands_On_NFKD", "xonfkd expandsonnfkd"),
  ("Extended_Pictographic", "extpict extendedpictographic"),
  ("Extender", "ext extender"),
  ("FC_NFKC_Closure", "fcnfkc fcnfkcclosure"),
  ("Full_Composition_Exclusion", "compex fullcompositionexclusion"),
  ("General_Category", "gc generalcategory"),
  ("Grapheme_Base", "grbase graphemebase"),
  ("Grapheme_Cluster_Break", "gcb graphemeclusterbreak"),
  ("Grapheme_Extend", "grext graphemeextend"),
  ("Grapheme_Link", "grlink graphemelink"),
  ("Hangul_Syllable_Type", "hst hangulsyllabletype"),
  ("Hex_Digit", "hex hexdigit"),
  ("Hyphen", "hyphen"),
  ("IDS_Binary_Operator", "idsb idsbinaryoperator"),
  ("IDS_Trinary_Operator", "idst idstrinaryoperator"),
  ("IDS_Unary_Operator", "idsu idsunaryoperator"),
  ("ID_Compat_Math_Continue", "idcompatmathcontinue"),
  ("ID_Compat_Math_Start", "idcompatmathstart"),
  ("ID_Continue", "idc idcontinue"),
  ("ID_Start", "ids idstart"),
  ("ISO_Comment", "isc ocomment"),
  ("Ideographic", "ideo ideographic"),
  ("Indic_Conjunct_Break", "incb indicconjunctbreak"),
  ("Indic_Positional_Category", "inpc indicpositionalcategory"),
  ("Indic_Syllabic_Category", "insc indicsyllabiccategory"),
  ("Jamo_Short_Name", "jsn jamoshortname"),
  ("Join_Control", "joinc joincontrol"),
  ("Joining_Group", "jg joininggroup"),
  ("Joining_Type", "jt joiningtype"),
  ("Line_Break", "lb linebreak"),
  ("Logical_Order_Exception", "loe logicalorderexception"),
  ("Lowercase", "lower lowercase"),
  ("Lowercase_Mapping", "lc lowercasemapping"),
  ("Math", "math"),
  ("Modifier_Combining_Mark", "mcm modifiercombiningmark"),
  ("NFC_Quick_Check", "nfcqc nfcquickcheck"),
  ("NFD_Quick_Check", "nfdqc nfdquickcheck"),
  ("NFKC_Casefold", "nfkccf nfkccasefold"),
  ("NFKC_Quick_Check", "nfkcqc nfkcquickcheck"),
  ("NFKC_Simple_Casefold", "nfkcscf nfkcsimplecasefold"),
  ("NFKD_Quick_Check", "nfkdqc nfkdquickcheck"),
  ("Name", "na name"),
  ("Name_Alias", "namealias"),
  ("Noncharacter_Code_Point", "nchar noncharactercodepoint"),
  ("Numeric_Type", "nt numerictype"),
  ("Numeric_Value", "nv numericvalue"),
  ("Other_Alphabetic", "oalpha otheralphabetic"),
  ("Other_Default_Ignorable_Code_Point", "odi otherdefaultignorablecodepoint"),
  ("Other_Grapheme_Extend", "ogrext othergraphemeextend"),
  ("Other_ID_Continue", "oidc otheridcontinue"),
  ("Other_ID_Start", "oids otheridstart"),
  ("Other_Lowercase", "olower otherlowercase"),
  ("Other_Math", "omath othermath"),
  ("Other_Uppercase", "oupper otheruppercase"),
  ("Pattern_Syntax", "patsyn patternsyntax"),
  ("Pattern_White_Space", "patws patternwhitespace"),
  ("Prepended_Concatenation_Mark", "pcm prependedconcatenationmark"),
  ("Quotation_Mark", "qmark quotationmark"),
  ("Radical", "radical"),
  ("Regional_Indicator", "ri regionalindicator"),
  ("Script", "sc script"),
  ("Script_Extensions", "scx scriptextensions"),
  ("Sentence_Break", "sb sentencebreak"),
  ("Sentence_Terminal", "sterm sentenceterminal"),
  ("Simple_Case_Folding", "scf simplecasefolding sfc"),
  ("Simple_Lowercase_Mapping", "slc simplelowercasemapping"),
  ("Simple_Titlecase_Mapping", "stc simpletitlecasemapping"),
  ("Simple_Uppercase_Mapping", "suc simpleuppercasemapping"),
  ("Soft_Dotted", "sd softdotted"),
  ("Terminal_Punctuation", "term terminalpunctuation"),
  ("Titlecase_Mapping", "tc titlecasemapping"),
  ("Unicode_1_Name", "na1 unicode1name"),
  ("Unified_Ideograph", "uideo unifiedideograph"),
  ("Uppercase", "upper uppercase"),
  ("Uppercase_Mapping", "uc uppercasemapping"),
  ("Variation_Selector", "vs variationselector"),
  ("Vertical_Orientation", "vo verticalorientation"),
  ("White_Space", "wspace whitespace space"),
  ("Word_Break", "wb wordbreak"),
  ("XID_Continue", "xidc xidcontinue"),
  ("XID_Start", "xids xidstart"),
  ("kAccountingNumeric", "cjkaccountingnumeric kaccountingnumeric"),
  ("kCompatibilityVariant", "cjkcompatibilityvariant kcompatibilityvariant"),
  ("kIICore", "cjkiicore kiicore"),
  ("kIRG_GSource", "cjkirggsource kirggsource"),
  ("kIRG_HSource", "cjkirghsource kirghsource"),
  ("kIRG_JSource", "cjkirgjsource kirgjsource"),
  ("kIRG_KPSource", "cjkirgkpsource kirgkpsource"),
  ("kIRG_KSource", "cjkirgksource kirgksource"),
  ("kIRG_MSource", "cjkirgmsource kirgmsource"),
  ("kIRG_SSource", "cjkirgssource kirgssource"),
  ("kIRG_TSource", "cjkirgtsource kirgtsource"),
  ("kIRG_UKSource", "cjkirguksource kirguksource"),
  ("kIRG_USource", "cjkirgusource kirgusource"),
  ("kIRG_VSource", "cjkirgvsource kirgvsource"),
  ("kOtherNumeric", "cjkothernumeric kothernumeric"),
  ("kPrimaryNumeric", "cjkprimarynumeric kprimarynumeric"),
  ("kRSUnicode", "cjkrsunicode krsunicode unicoderadicalstroke urs")]

/-- General categories and their one-letter groups. -/
def generalCategoryNames : List (String × String) := [
  ("Cased_Letter", "lc casedletter"),
  ("Close_Punctuation", "pe closepunctuation"),
  ("Connector_Punctuation", "pc connectorpunctuation"),
  ("Control", "cc control cntrl"),
  ("Currency_Symbol", "sc currencysymbol"),
  ("Dash_Punctuation", "pd dashpunctuation"),
  ("Decimal_Number", "nd decimalnumber digit"),
  ("Enclosing_Mark", "me enclosingmark"),
  ("Final_Punctuation", "pf finalpunctuation"),
  ("Format", "cf format"),
  ("Initial_Punctuation", "pi initialpunctuation"),
  ("Letter", "l letter"),
  ("Letter_Number", "nl letternumber"),
  ("Line_Separator", "zl lineseparator"),
  ("Lowercase_Letter", "ll lowercaseletter"),
  ("Mark", "m mark combiningmark"),
  ("Math_Symbol", "sm mathsymbol"),
  ("Modifier_Letter", "lm modifierletter"),
  ("Modifier_Symbol", "sk modifiersymbol"),
  ("Nonspacing_Mark", "mn nonspacingmark"),
  ("Number", "n number"),
  ("Open_Punctuation", "ps openpunctuation"),
  ("Other", "c other"),
  ("Other_Letter", "lo otherletter"),
  ("Other_Number", "no othernumber"),
  ("Other_Punctuation", "po otherpunctuation"),
  ("Other_Symbol", "so othersymbol"),
  ("Paragraph_Separator", "zp paragraphseparator"),
  ("Private_Use", "co privateuse"),
  ("Punctuation", "p punctuation punct"),
  ("Separator", "z separator"),
  ("Space_Separator", "zs spaceseparator"),
  ("Spacing_Mark", "mc spacingmark"),
  ("Surrogate", "cs surrogate"),
  ("Symbol", "s symbol"),
  ("Titlecase_Letter", "lt titlecaseletter"),
  ("Unassigned", "cn unassigned"),
  ("Uppercase_Letter", "lu uppercaseletter")]

/-- Scripts. -/
def scriptNames : List (String × String) := [
  ("Adlam", "adlm adlam"),
  ("Ahom", "ahom"),
  ("Anatolian_Hieroglyphs", "hluw anatolianhieroglyphs"),
  ("Arabic", "arab arabic"),
  ("Armenian", "armn armenian"),
  ("Avestan", "avst avestan"),
  ("Balinese", "bali balinese"),
  ("Bamum", "bamu bamum"),
  ("Bassa_Vah", "bass bassavah"),
  ("Batak", "batk batak"),
  ("Bengali", "beng bengali"),
  ("Beria_Erfe", "berf beriaerfe"),
  ("Bhaiksuki", "bhks bhaiksuki"),
  ("Bopomofo", "bopo bopomofo"),
  ("Brahmi", "brah brahmi"),
  ("Braille", "brai braille"),
  ("Buginese", "bugi buginese"),
  ("Buhid", "buhd buhid"),
  ("Canadian_Aboriginal", "cans canadianaboriginal"),
  ("Carian", "cari carian"),
  ("Caucasian_Albanian", "aghb caucasianalbanian"),
  ("Chakma", "cakm chakma"),
  ("Cham", "cham"),
  ("Cherokee", "cher cherokee"),
  ("Chorasmian", "chrs chorasmian"),
  ("Common", "zyyy common"),
  ("Coptic", "copt coptic qaac"),
  ("Cuneiform", "xsux cuneiform"),
  ("Cypriot", "cprt cypriot"),
  ("Cypro_Minoan", "cpmn cyprominoan"),
  ("Cyrillic", "cyrl cyrillic"),
  ("Deseret", "dsrt deseret"),
  ("Devanagari", "deva devanagari"),
  ("Dives_Akuru", "diak divesakuru"),
  ("Dogra", "dogr dogra"),
  ("Duployan", "dupl duployan"),
  ("Egyptian_Hieroglyphs", "egyp egyptianhieroglyphs"),
  ("Elbasan", "elba elbasan"),
  ("Elymaic", "elym elymaic"),
  ("Ethiopic", "ethi ethiopic"),
  ("Garay", "gara garay"),
  ("Georgian", "geor georgian"),
  ("Glagolitic", "glag glagolitic"),
  ("Gothic", "goth gothic"),
  ("Grantha", "gran grantha"),
  ("Greek", "grek greek"),
  ("Gujarati", "gujr gujarati"),
  ("Gunjala_Gondi", "gong gunjalagondi"),
  ("Gurmukhi", "guru gurmukhi"),
  ("Gurung_Khema", "gukh gurungkhema"),
  ("Han", "hani han"),
  ("Hangul", "hang hangul"),
  ("Hanifi_Rohingya", "rohg hanifirohingya"),
  ("Hanunoo", "hano hanunoo"),
  ("Hatran", "hatr hatran"),
  ("Hebrew", "hebr hebrew"),
  ("Hiragana", "hira hiragana"),
  ("Imperial_Aramaic", "armi imperialaramaic"),
  ("Inherited", "zinh inherited qaai"),
  ("Inscriptional_Pahlavi", "phli inscriptionalpahlavi"),
  ("Inscriptional_Parthian", "prti inscriptionalparthian"),
  ("Javanese", "java javanese"),
  ("Kaithi", "kthi kaithi"),
  ("Kannada", "knda kannada"),
  ("Katakana", "kana katakana"),
  ("Katakana_Or_Hiragana", "hrkt katakanaorhiragana"),
  ("Kawi", "kawi"),
  ("Kayah_Li", "kali kayahli"),
  ("Kharoshthi", "khar kharoshthi"),
  ("Khitan_Small_Script", "kits khitansmallscript"),
  ("Khmer", "khmr khmer"),
  ("Khojki", "khoj khojki"),
  ("Khudawadi", "sind khudawadi"),
  ("Kirat_Rai", "krai kiratrai"),
  ("Lao", "laoo lao"),
  ("Latin", "latn latin"),
  ("Lepcha", "lepc lepcha"),
  ("Limbu", "limb limbu"),
  ("Linear_A", "lina lineara"),
  ("Linear_B", "linb linearb"),
  ("Lisu", "lisu"),
  ("Lycian", "lyci lycian"),
  ("Lydian", "lydi lydian"),
  ("Mahajani", "mahj mahajani"),
  ("Makasar", "maka makasar"),
  ("Malayalam", "mlym malayalam"),
  ("Mandaic", "mand mandaic"),
  ("Manichaean", "mani manichaean"),
  ("Marchen", "marc marchen"),
  ("Masaram_Gondi", "gonm masaramgondi"),
  ("Medefaidrin", "medf medefaidrin"),
  ("Meetei_Mayek", "mtei meeteimayek"),
  ("Mende_Kikakui", "mend mendekikakui"),
  ("Meroitic_Cursive", "merc meroiticcursive"),
  ("Meroitic_Hieroglyphs", "mero meroitichieroglyphs"),
  ("Miao", "plrd miao"),
  ("Modi", "modi"),
  ("Mongolian", "mong mongolian"),
  ("Mro", "mroo mro"),
  ("Multani", "mult multani"),
  ("Myanmar", "mymr myanmar"),
  ("Nabataean", "nbat nabataean"),
  ("Nag_Mundari", "nagm nagmundari"),
  ("Nandinagari", "nand nandinagari"),
  ("New_Tai_Lue", "talu newtailue"),
  ("Newa", "newa"),
  ("Nko", "nkoo nko"),
  ("Nushu", "nshu nushu"),
  ("Nyiakeng_Puachue_Hmong", "hmnp nyiakengpuachuehmong"),
  ("Ogham", "ogam ogham"),
  ("Ol_Chiki", "olck olchiki"),
  ("Ol_Onal", "onao olonal"),
  ("Old_Hungarian", "hung oldhungarian"),
  ("Old_Italic", "ital olditalic"),
  ("Old_North_Arabian", "narb oldnortharabian"),
  ("Old_Permic", "perm oldpermic"),
  ("Old_Persian", "xpeo oldpersian"),
  ("Old_Sogdian", "sogo oldsogdian"),
  ("Old_South_Arabian", "sarb oldsoutharabian"),
  ("Old_Turkic", "orkh oldturkic"),
  ("Old_Uyghur", "ougr olduyghur"),
  ("Oriya", "orya oriya"),
  ("Osage", "osge osage"),
  ("Osmanya", "osma osmanya"),
  ("Pahawh_Hmong", "hmng pahawhhmong"),
  ("Palmyrene", "palm palmyrene"),
  ("Pau_Cin_Hau", "pauc paucinhau"),
  ("Phags_Pa", "phag phagspa"),
  ("Phoenician", "phnx phoenician"),
  ("Psalter_Pahlavi", "phlp psalterpahlavi"),
  ("Rejang", "rjng rejang"),
  ("Runic", "runr runic"),
  ("Samaritan", "samr samaritan"),
  ("Saurashtra", "saur saurashtra"),
  ("Sharada", "shrd sharada"),
  ("Shavian", "shaw shavian"),
  ("Siddham", "sidd siddham"),
  ("Sidetic", "sidt sidetic"),
  ("SignWriting", "sgnw signwriting"),
  ("Sinhala", "sinh sinhala"),
  ("Sogdian", "sogd sogdian"),
  ("Sora_Sompeng", "sora sorasompeng"),
  ("Soyombo", "soyo soyombo"),
  ("Sundanese", "sund sundanese"),
  ("Sunuwar", "sunu sunuwar"),
  ("Syloti_Nagri", "sylo sylotinagri"),
  ("Syriac", "syrc syriac"),
  ("Tagalog", "tglg tagalog"),
  ("Tagbanwa", "tagb tagbanwa"),
  ("Tai_Le", "tale taile"),
  ("Tai_Tham", "lana taitham"),
  ("Tai_Viet", "tavt taiviet"),
  ("Tai_Yo", "tayo taiyo"),
  ("Takri", "takr takri"),
  ("Tamil", "taml tamil"),
  ("Tangsa", "tnsa tangsa"),
  ("Tangut", "tang tangut"),
  ("Telugu", "telu telugu"),
  ("Thaana", "thaa thaana"),
  ("Thai", "thai"),
  ("Tibetan", "tibt tibetan"),
  ("Tifinagh", "tfng tifinagh"),
  ("Tirhuta", "tirh tirhuta"),
  ("Todhri", "todr todhri"),
  ("Tolong_Siki", "tols tolongsiki"),
  ("Toto", "toto"),
  ("Tulu_Tigalari", "tutg tulutigalari"),
  ("Ugaritic", "ugar ugaritic"),
  ("Unknown", "zzzz unknown"),
  ("Vai", "vaii vai"),
  ("Vithkuqi", "vith vithkuqi"),
  ("Wancho", "wcho wancho"),
  ("Warang_Citi", "wara warangciti"),
  ("Yezidi", "yezi yezidi"),
  ("Yi", "yiii yi"),
  ("Zanabazar_Square", "zanb zanabazarsquare")]

/-- Versions. -/
def ageNames : List (String × String) := [
  ("Unassigned", "na unassigned"),
  ("V10_0", "10.0 v100"),
  ("V11_0", "11.0 v110"),
  ("V12_0", "12.0 v120"),
  ("V12_1", "12.1 v121"),
  ("V13_0", "13.0 v130"),
  ("V14_0", "14.0 v140"),
  ("V15_0", "15.0 v150"),
  ("V15_1", "15.1 v151"),
  ("V16_0", "16.0 v160"),
  ("V17_0", "17.0 v170"),
  ("V1_1", "1.1 v11"),
  ("V2_0", "2.0 v20"),
  ("V2_1", "2.1 v21"),
  ("V3_0", "3.0 v30"),
  ("V3_1", "3.1 v31"),
  ("V3_2", "3.2 v32"),
  ("V4_0", "4.0 v40"),
  ("V4_1", "4.1 v41"),
  ("V5_0", "5.0 v50"),
  ("V5_1", "5.1 v51"),
  ("V5_2", "5.2 v52"),
  ("V6_0", "6.0 v60"),
  ("V6_1", "6.1 v61"),
  ("V6_2", "6.2 v62"),
  ("V6_3", "6.3 v63"),
  ("V7_0", "7.0 v70"),
  ("V8_0", "8.0 v80"),
  ("V9_0", "9.0 v90")]

/-- Grapheme cluster breaks. -/
def graphemeClusterBreakNames : List (String × String) := [
  ("CR", "cr"),
  ("Control", "cn control"),
  ("E_Base", "eb ebase"),
  ("E_Base_GAZ", "ebg ebasegaz"),
  ("E_Modifier", "em emodifier"),
  ("Extend", "ex extend"),
  ("Glue_After_Zwj", "gaz glueafterzwj"),
  ("L", "l"),
  ("LF", "lf"),
  ("LV", "lv"),
  ("LVT", "lvt"),
  ("Other", "xx other"),
  ("Prepend", "pp prepend"),
  ("Regional_Indicator", "ri regionalindicator"),
  ("SpacingMark", "sm spacingmark"),
  ("T", "t"),
  ("V", "v"),
  ("ZWJ", "zwj")]

/-- Word breaks. -/
def wordBreakNames : List (String × String) := [
  ("ALetter", "le aletter"),
  ("CR", "cr"),
  ("Double_Quote", "dq doublequote"),
  ("E_Base", "eb ebase"),
  ("E_Base_GAZ", "ebg ebasegaz"),
  ("E_Modifier", "em emodifier"),
  ("Extend", "extend"),
  ("ExtendNumLet", "ex extendnumlet"),
  ("Format", "fo format"),
  ("Glue_After_Zwj", "gaz glueafterzwj"),
  ("Hebrew_Letter", "hl hebrewletter"),
  ("Katakana", "ka katakana"),
  ("LF", "lf"),
  ("MidLetter", "ml midletter"),
  ("MidNum", "mn midnum"),
  ("MidNumLet", "mb midnumlet"),
  ("Newline", "nl newline"),
  ("Numeric", "nu numeric"),
  ("Other", "xx other"),
  ("Regional_Indicator", "ri regionalindicator"),
  ("Single_Quote", "sq singlequote"),
  ("WSegSpace", "wsegspace"),
  ("ZWJ", "zwj")]

/-- Sentence breaks. -/
def sentenceBreakNames : List (String × String) := [
  ("ATerm", "at aterm"),
  ("CR", "cr"),
  ("Close", "cl close"),
  ("Extend", "ex extend"),
  ("Format", "fo format"),
  ("LF", "lf"),
  ("Lower", "lo lower"),
  ("Numeric", "nu numeric"),
  ("OLetter", "le oletter"),
  ("Other", "xx other"),
  ("SContinue", "sc scontinue"),
  ("STerm", "st sterm"),
  ("Sep", "se sep"),
  ("Sp", "sp"),
  ("Upper", "up upper")]

end MailMerge.Unicode
