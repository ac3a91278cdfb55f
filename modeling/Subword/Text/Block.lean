/-!
# Blocks of code points

The code points are laid out in blocks, each with one or several names. A block
is a stretch of code points, whether or not they have characters.

## Main definitions

* `Block`: A block with its names.
* `blocks`: All blocks, in order.
-/

namespace Subword

namespace Text

/-- The code points from `first` to `last`, with the names of their block, in capitals and
    without separators. -/
structure Block where
  first : Nat
  last : Nat
  names : List String

/-- All blocks, in order. -/
def blocks : List Block := [
    ⟨0x0000, 0x007F, ["BASICLATIN", "ASCII"]⟩,
    ⟨0x0080, 0x00FF, ["LATIN1SUPPLEMENT", "LATIN1SUP", "LATIN1"]⟩,
    ⟨0x0100, 0x017F, ["LATINEXTENDEDA", "LATINEXTA"]⟩,
    ⟨0x0180, 0x024F, ["LATINEXTENDEDB", "LATINEXTB"]⟩,
    ⟨0x0250, 0x02AF, ["IPAEXTENSIONS", "IPAEXT"]⟩,
    ⟨0x02B0, 0x02FF, ["SPACINGMODIFIERLETTERS", "MODIFIERLETTERS"]⟩,
    ⟨0x0300, 0x036F, ["COMBININGDIACRITICALMARKS", "DIACRITICALS"]⟩,
    ⟨0x0370, 0x03FF, ["GREEKANDCOPTIC", "GREEK"]⟩, ⟨0x0400, 0x04FF, ["CYRILLIC"]⟩,
    ⟨0x0500, 0x052F, ["CYRILLICSUPPLEMENT", "CYRILLICSUP", "CYRILLICSUPPLEMENTARY"]⟩,
    ⟨0x0530, 0x058F, ["ARMENIAN"]⟩, ⟨0x0590, 0x05FF, ["HEBREW"]⟩, ⟨0x0600, 0x06FF, ["ARABIC"]⟩,
    ⟨0x0700, 0x074F, ["SYRIAC"]⟩, ⟨0x0750, 0x077F, ["ARABICSUPPLEMENT", "ARABICSUP"]⟩,
    ⟨0x0780, 0x07BF, ["THAANA"]⟩, ⟨0x07C0, 0x07FF, ["NKO"]⟩, ⟨0x0800, 0x083F, ["SAMARITAN"]⟩,
    ⟨0x0840, 0x085F, ["MANDAIC"]⟩, ⟨0x0860, 0x086F, ["SYRIACSUPPLEMENT", "SYRIACSUP"]⟩,
    ⟨0x0870, 0x089F, ["ARABICEXTENDEDB", "ARABICEXTB"]⟩,
    ⟨0x08A0, 0x08FF, ["ARABICEXTENDEDA", "ARABICEXTA"]⟩, ⟨0x0900, 0x097F, ["DEVANAGARI"]⟩,
    ⟨0x0980, 0x09FF, ["BENGALI"]⟩, ⟨0x0A00, 0x0A7F, ["GURMUKHI"]⟩, ⟨0x0A80, 0x0AFF, ["GUJARATI"]⟩,
    ⟨0x0B00, 0x0B7F, ["ORIYA"]⟩, ⟨0x0B80, 0x0BFF, ["TAMIL"]⟩, ⟨0x0C00, 0x0C7F, ["TELUGU"]⟩,
    ⟨0x0C80, 0x0CFF, ["KANNADA"]⟩, ⟨0x0D00, 0x0D7F, ["MALAYALAM"]⟩, ⟨0x0D80, 0x0DFF, ["SINHALA"]⟩,
    ⟨0x0E00, 0x0E7F, ["THAI"]⟩, ⟨0x0E80, 0x0EFF, ["LAO"]⟩, ⟨0x0F00, 0x0FFF, ["TIBETAN"]⟩,
    ⟨0x1000, 0x109F, ["MYANMAR"]⟩, ⟨0x10A0, 0x10FF, ["GEORGIAN"]⟩,
    ⟨0x1100, 0x11FF, ["HANGULJAMO", "JAMO"]⟩, ⟨0x1200, 0x137F, ["ETHIOPIC"]⟩,
    ⟨0x1380, 0x139F, ["ETHIOPICSUPPLEMENT", "ETHIOPICSUP"]⟩, ⟨0x13A0, 0x13FF, ["CHEROKEE"]⟩,
    ⟨0x1400, 0x167F, ["UNIFIEDCANADIANABORIGINALSYLLABICS", "UCAS", "CANADIANSYLLABICS"]⟩,
    ⟨0x1680, 0x169F, ["OGHAM"]⟩, ⟨0x16A0, 0x16FF, ["RUNIC"]⟩, ⟨0x1700, 0x171F, ["TAGALOG"]⟩,
    ⟨0x1720, 0x173F, ["HANUNOO"]⟩, ⟨0x1740, 0x175F, ["BUHID"]⟩, ⟨0x1760, 0x177F, ["TAGBANWA"]⟩,
    ⟨0x1780, 0x17FF, ["KHMER"]⟩, ⟨0x1800, 0x18AF, ["MONGOLIAN"]⟩,
    ⟨0x18B0, 0x18FF, ["UNIFIEDCANADIANABORIGINALSYLLABICSEXTENDED", "UCASEXT"]⟩,
    ⟨0x1900, 0x194F, ["LIMBU"]⟩, ⟨0x1950, 0x197F, ["TAILE"]⟩, ⟨0x1980, 0x19DF, ["NEWTAILUE"]⟩,
    ⟨0x19E0, 0x19FF, ["KHMERSYMBOLS"]⟩, ⟨0x1A00, 0x1A1F, ["BUGINESE"]⟩,
    ⟨0x1A20, 0x1AAF, ["TAITHAM"]⟩,
    ⟨0x1AB0, 0x1AFF, ["COMBININGDIACRITICALMARKSEXTENDED", "DIACRITICALSEXT"]⟩,
    ⟨0x1B00, 0x1B7F, ["BALINESE"]⟩, ⟨0x1B80, 0x1BBF, ["SUNDANESE"]⟩, ⟨0x1BC0, 0x1BFF, ["BATAK"]⟩,
    ⟨0x1C00, 0x1C4F, ["LEPCHA"]⟩, ⟨0x1C50, 0x1C7F, ["OLCHIKI"]⟩,
    ⟨0x1C80, 0x1C8F, ["CYRILLICEXTENDEDC", "CYRILLICEXTC"]⟩,
    ⟨0x1C90, 0x1CBF, ["GEORGIANEXTENDED", "GEORGIANEXT"]⟩,
    ⟨0x1CC0, 0x1CCF, ["SUNDANESESUPPLEMENT", "SUNDANESESUP"]⟩,
    ⟨0x1CD0, 0x1CFF, ["VEDICEXTENSIONS", "VEDICEXT"]⟩,
    ⟨0x1D00, 0x1D7F, ["PHONETICEXTENSIONS", "PHONETICEXT"]⟩,
    ⟨0x1D80, 0x1DBF, ["PHONETICEXTENSIONSSUPPLEMENT", "PHONETICEXTSUP"]⟩,
    ⟨0x1DC0, 0x1DFF, ["COMBININGDIACRITICALMARKSSUPPLEMENT", "DIACRITICALSSUP"]⟩,
    ⟨0x1E00, 0x1EFF, ["LATINEXTENDEDADDITIONAL", "LATINEXTADDITIONAL"]⟩,
    ⟨0x1F00, 0x1FFF, ["GREEKEXTENDED", "GREEKEXT"]⟩,
    ⟨0x2000, 0x206F, ["GENERALPUNCTUATION", "PUNCTUATION"]⟩,
    ⟨0x2070, 0x209F, ["SUPERSCRIPTSANDSUBSCRIPTS", "SUPERANDSUB"]⟩,
    ⟨0x20A0, 0x20CF, ["CURRENCYSYMBOLS"]⟩,
    ⟨0x20D0, 0x20FF,
      ["COMBININGDIACRITICALMARKSFORSYMBOLS",
        "DIACRITICALSFORSYMBOLS",
        "COMBININGMARKSFORSYMBOLS"]⟩,
    ⟨0x2100, 0x214F, ["LETTERLIKESYMBOLS"]⟩, ⟨0x2150, 0x218F, ["NUMBERFORMS"]⟩,
    ⟨0x2190, 0x21FF, ["ARROWS"]⟩, ⟨0x2200, 0x22FF, ["MATHEMATICALOPERATORS", "MATHOPERATORS"]⟩,
    ⟨0x2300, 0x23FF, ["MISCELLANEOUSTECHNICAL", "MISCTECHNICAL"]⟩,
    ⟨0x2400, 0x243F, ["CONTROLPICTURES"]⟩, ⟨0x2440, 0x245F, ["OPTICALCHARACTERRECOGNITION", "OCR"]⟩,
    ⟨0x2460, 0x24FF, ["ENCLOSEDALPHANUMERICS", "ENCLOSEDALPHANUM"]⟩,
    ⟨0x2500, 0x257F, ["BOXDRAWING"]⟩, ⟨0x2580, 0x259F, ["BLOCKELEMENTS"]⟩,
    ⟨0x25A0, 0x25FF, ["GEOMETRICSHAPES"]⟩,
    ⟨0x2600, 0x26FF, ["MISCELLANEOUSSYMBOLS", "MISCSYMBOLS"]⟩, ⟨0x2700, 0x27BF, ["DINGBATS"]⟩,
    ⟨0x27C0, 0x27EF, ["MISCELLANEOUSMATHEMATICALSYMBOLSA", "MISCMATHSYMBOLSA"]⟩,
    ⟨0x27F0, 0x27FF, ["SUPPLEMENTALARROWSA", "SUPARROWSA"]⟩,
    ⟨0x2800, 0x28FF, ["BRAILLEPATTERNS", "BRAILLE"]⟩,
    ⟨0x2900, 0x297F, ["SUPPLEMENTALARROWSB", "SUPARROWSB"]⟩,
    ⟨0x2980, 0x29FF, ["MISCELLANEOUSMATHEMATICALSYMBOLSB", "MISCMATHSYMBOLSB"]⟩,
    ⟨0x2A00, 0x2AFF, ["SUPPLEMENTALMATHEMATICALOPERATORS", "SUPMATHOPERATORS"]⟩,
    ⟨0x2B00, 0x2BFF, ["MISCELLANEOUSSYMBOLSANDARROWS", "MISCARROWS"]⟩,
    ⟨0x2C00, 0x2C5F, ["GLAGOLITIC"]⟩, ⟨0x2C60, 0x2C7F, ["LATINEXTENDEDC", "LATINEXTC"]⟩,
    ⟨0x2C80, 0x2CFF, ["COPTIC"]⟩, ⟨0x2D00, 0x2D2F, ["GEORGIANSUPPLEMENT", "GEORGIANSUP"]⟩,
    ⟨0x2D30, 0x2D7F, ["TIFINAGH"]⟩, ⟨0x2D80, 0x2DDF, ["ETHIOPICEXTENDED", "ETHIOPICEXT"]⟩,
    ⟨0x2DE0, 0x2DFF, ["CYRILLICEXTENDEDA", "CYRILLICEXTA"]⟩,
    ⟨0x2E00, 0x2E7F, ["SUPPLEMENTALPUNCTUATION", "SUPPUNCTUATION"]⟩,
    ⟨0x2E80, 0x2EFF, ["CJKRADICALSSUPPLEMENT", "CJKRADICALSSUP"]⟩,
    ⟨0x2F00, 0x2FDF, ["KANGXIRADICALS", "KANGXI"]⟩,
    ⟨0x2FF0, 0x2FFF, ["IDEOGRAPHICDESCRIPTIONCHARACTERS", "IDC"]⟩,
    ⟨0x3000, 0x303F, ["CJKSYMBOLSANDPUNCTUATION", "CJKSYMBOLS"]⟩, ⟨0x3040, 0x309F, ["HIRAGANA"]⟩,
    ⟨0x30A0, 0x30FF, ["KATAKANA"]⟩, ⟨0x3100, 0x312F, ["BOPOMOFO"]⟩,
    ⟨0x3130, 0x318F, ["HANGULCOMPATIBILITYJAMO", "COMPATJAMO"]⟩, ⟨0x3190, 0x319F, ["KANBUN"]⟩,
    ⟨0x31A0, 0x31BF, ["BOPOMOFOEXTENDED", "BOPOMOFOEXT"]⟩, ⟨0x31C0, 0x31EF, ["CJKSTROKES"]⟩,
    ⟨0x31F0, 0x31FF, ["KATAKANAPHONETICEXTENSIONS", "KATAKANAEXT"]⟩,
    ⟨0x3200, 0x32FF, ["ENCLOSEDCJKLETTERSANDMONTHS", "ENCLOSEDCJK"]⟩,
    ⟨0x3300, 0x33FF, ["CJKCOMPATIBILITY", "CJKCOMPAT"]⟩,
    ⟨0x3400, 0x4DBF, ["CJKUNIFIEDIDEOGRAPHSEXTENSIONA", "CJKEXTA"]⟩,
    ⟨0x4DC0, 0x4DFF, ["YIJINGHEXAGRAMSYMBOLS", "YIJING"]⟩,
    ⟨0x4E00, 0x9FFF, ["CJKUNIFIEDIDEOGRAPHS", "CJK"]⟩, ⟨0xA000, 0xA48F, ["YISYLLABLES"]⟩,
    ⟨0xA490, 0xA4CF, ["YIRADICALS"]⟩, ⟨0xA4D0, 0xA4FF, ["LISU"]⟩, ⟨0xA500, 0xA63F, ["VAI"]⟩,
    ⟨0xA640, 0xA69F, ["CYRILLICEXTENDEDB", "CYRILLICEXTB"]⟩, ⟨0xA6A0, 0xA6FF, ["BAMUM"]⟩,
    ⟨0xA700, 0xA71F, ["MODIFIERTONELETTERS"]⟩, ⟨0xA720, 0xA7FF, ["LATINEXTENDEDD", "LATINEXTD"]⟩,
    ⟨0xA800, 0xA82F, ["SYLOTINAGRI"]⟩,
    ⟨0xA830, 0xA83F, ["COMMONINDICNUMBERFORMS", "INDICNUMBERFORMS"]⟩, ⟨0xA840, 0xA87F, ["PHAGSPA"]⟩,
    ⟨0xA880, 0xA8DF, ["SAURASHTRA"]⟩, ⟨0xA8E0, 0xA8FF, ["DEVANAGARIEXTENDED", "DEVANAGARIEXT"]⟩,
    ⟨0xA900, 0xA92F, ["KAYAHLI"]⟩, ⟨0xA930, 0xA95F, ["REJANG"]⟩,
    ⟨0xA960, 0xA97F, ["HANGULJAMOEXTENDEDA", "JAMOEXTA"]⟩, ⟨0xA980, 0xA9DF, ["JAVANESE"]⟩,
    ⟨0xA9E0, 0xA9FF, ["MYANMAREXTENDEDB", "MYANMAREXTB"]⟩, ⟨0xAA00, 0xAA5F, ["CHAM"]⟩,
    ⟨0xAA60, 0xAA7F, ["MYANMAREXTENDEDA", "MYANMAREXTA"]⟩, ⟨0xAA80, 0xAADF, ["TAIVIET"]⟩,
    ⟨0xAAE0, 0xAAFF, ["MEETEIMAYEKEXTENSIONS", "MEETEIMAYEKEXT"]⟩,
    ⟨0xAB00, 0xAB2F, ["ETHIOPICEXTENDEDA", "ETHIOPICEXTA"]⟩,
    ⟨0xAB30, 0xAB6F, ["LATINEXTENDEDE", "LATINEXTE"]⟩,
    ⟨0xAB70, 0xABBF, ["CHEROKEESUPPLEMENT", "CHEROKEESUP"]⟩, ⟨0xABC0, 0xABFF, ["MEETEIMAYEK"]⟩,
    ⟨0xAC00, 0xD7AF, ["HANGULSYLLABLES", "HANGUL"]⟩,
    ⟨0xD7B0, 0xD7FF, ["HANGULJAMOEXTENDEDB", "JAMOEXTB"]⟩, ⟨0xD800, 0xDB7F, ["HIGHSURROGATES"]⟩,
    ⟨0xDB80, 0xDBFF, ["HIGHPRIVATEUSESURROGATES", "HIGHPUSURROGATES"]⟩,
    ⟨0xDC00, 0xDFFF, ["LOWSURROGATES"]⟩, ⟨0xE000, 0xF8FF, ["PRIVATEUSEAREA", "PUA", "PRIVATEUSE"]⟩,
    ⟨0xF900, 0xFAFF, ["CJKCOMPATIBILITYIDEOGRAPHS", "CJKCOMPATIDEOGRAPHS"]⟩,
    ⟨0xFB00, 0xFB4F, ["ALPHABETICPRESENTATIONFORMS", "ALPHABETICPF"]⟩,
    ⟨0xFB50, 0xFDFF, ["ARABICPRESENTATIONFORMSA", "ARABICPFA"]⟩,
    ⟨0xFE00, 0xFE0F, ["VARIATIONSELECTORS", "VS"]⟩, ⟨0xFE10, 0xFE1F, ["VERTICALFORMS"]⟩,
    ⟨0xFE20, 0xFE2F, ["COMBININGHALFMARKS", "HALFMARKS"]⟩,
    ⟨0xFE30, 0xFE4F, ["CJKCOMPATIBILITYFORMS", "CJKCOMPATFORMS"]⟩,
    ⟨0xFE50, 0xFE6F, ["SMALLFORMVARIANTS", "SMALLFORMS"]⟩,
    ⟨0xFE70, 0xFEFF, ["ARABICPRESENTATIONFORMSB", "ARABICPFB"]⟩,
    ⟨0xFF00, 0xFFEF, ["HALFWIDTHANDFULLWIDTHFORMS", "HALFANDFULLFORMS"]⟩,
    ⟨0xFFF0, 0xFFFF, ["SPECIALS"]⟩, ⟨0x10000, 0x1007F, ["LINEARBSYLLABARY"]⟩,
    ⟨0x10080, 0x100FF, ["LINEARBIDEOGRAMS"]⟩, ⟨0x10100, 0x1013F, ["AEGEANNUMBERS"]⟩,
    ⟨0x10140, 0x1018F, ["ANCIENTGREEKNUMBERS"]⟩, ⟨0x10190, 0x101CF, ["ANCIENTSYMBOLS"]⟩,
    ⟨0x101D0, 0x101FF, ["PHAISTOSDISC", "PHAISTOS"]⟩, ⟨0x10280, 0x1029F, ["LYCIAN"]⟩,
    ⟨0x102A0, 0x102DF, ["CARIAN"]⟩, ⟨0x102E0, 0x102FF, ["COPTICEPACTNUMBERS"]⟩,
    ⟨0x10300, 0x1032F, ["OLDITALIC"]⟩, ⟨0x10330, 0x1034F, ["GOTHIC"]⟩,
    ⟨0x10350, 0x1037F, ["OLDPERMIC"]⟩, ⟨0x10380, 0x1039F, ["UGARITIC"]⟩,
    ⟨0x103A0, 0x103DF, ["OLDPERSIAN"]⟩, ⟨0x10400, 0x1044F, ["DESERET"]⟩,
    ⟨0x10450, 0x1047F, ["SHAVIAN"]⟩, ⟨0x10480, 0x104AF, ["OSMANYA"]⟩, ⟨0x104B0, 0x104FF, ["OSAGE"]⟩,
    ⟨0x10500, 0x1052F, ["ELBASAN"]⟩, ⟨0x10530, 0x1056F, ["CAUCASIANALBANIAN"]⟩,
    ⟨0x10570, 0x105BF, ["VITHKUQI"]⟩, ⟨0x105C0, 0x105FF, ["TODHRI"]⟩,
    ⟨0x10600, 0x1077F, ["LINEARA"]⟩, ⟨0x10780, 0x107BF, ["LATINEXTENDEDF", "LATINEXTF"]⟩,
    ⟨0x10800, 0x1083F, ["CYPRIOTSYLLABARY"]⟩, ⟨0x10840, 0x1085F, ["IMPERIALARAMAIC"]⟩,
    ⟨0x10860, 0x1087F, ["PALMYRENE"]⟩, ⟨0x10880, 0x108AF, ["NABATAEAN"]⟩,
    ⟨0x108E0, 0x108FF, ["HATRAN"]⟩, ⟨0x10900, 0x1091F, ["PHOENICIAN"]⟩,
    ⟨0x10920, 0x1093F, ["LYDIAN"]⟩, ⟨0x10940, 0x1095F, ["SIDETIC"]⟩,
    ⟨0x10980, 0x1099F, ["MEROITICHIEROGLYPHS"]⟩, ⟨0x109A0, 0x109FF, ["MEROITICCURSIVE"]⟩,
    ⟨0x10A00, 0x10A5F, ["KHAROSHTHI"]⟩, ⟨0x10A60, 0x10A7F, ["OLDSOUTHARABIAN"]⟩,
    ⟨0x10A80, 0x10A9F, ["OLDNORTHARABIAN"]⟩, ⟨0x10AC0, 0x10AFF, ["MANICHAEAN"]⟩,
    ⟨0x10B00, 0x10B3F, ["AVESTAN"]⟩, ⟨0x10B40, 0x10B5F, ["INSCRIPTIONALPARTHIAN"]⟩,
    ⟨0x10B60, 0x10B7F, ["INSCRIPTIONALPAHLAVI"]⟩, ⟨0x10B80, 0x10BAF, ["PSALTERPAHLAVI"]⟩,
    ⟨0x10C00, 0x10C4F, ["OLDTURKIC"]⟩, ⟨0x10C80, 0x10CFF, ["OLDHUNGARIAN"]⟩,
    ⟨0x10D00, 0x10D3F, ["HANIFIROHINGYA"]⟩, ⟨0x10D40, 0x10D8F, ["GARAY"]⟩,
    ⟨0x10E60, 0x10E7F, ["RUMINUMERALSYMBOLS", "RUMI"]⟩, ⟨0x10E80, 0x10EBF, ["YEZIDI"]⟩,
    ⟨0x10EC0, 0x10EFF, ["ARABICEXTENDEDC", "ARABICEXTC"]⟩, ⟨0x10F00, 0x10F2F, ["OLDSOGDIAN"]⟩,
    ⟨0x10F30, 0x10F6F, ["SOGDIAN"]⟩, ⟨0x10F70, 0x10FAF, ["OLDUYGHUR"]⟩,
    ⟨0x10FB0, 0x10FDF, ["CHORASMIAN"]⟩, ⟨0x10FE0, 0x10FFF, ["ELYMAIC"]⟩,
    ⟨0x11000, 0x1107F, ["BRAHMI"]⟩, ⟨0x11080, 0x110CF, ["KAITHI"]⟩,
    ⟨0x110D0, 0x110FF, ["SORASOMPENG"]⟩, ⟨0x11100, 0x1114F, ["CHAKMA"]⟩,
    ⟨0x11150, 0x1117F, ["MAHAJANI"]⟩, ⟨0x11180, 0x111DF, ["SHARADA"]⟩,
    ⟨0x111E0, 0x111FF, ["SINHALAARCHAICNUMBERS"]⟩, ⟨0x11200, 0x1124F, ["KHOJKI"]⟩,
    ⟨0x11280, 0x112AF, ["MULTANI"]⟩, ⟨0x112B0, 0x112FF, ["KHUDAWADI"]⟩,
    ⟨0x11300, 0x1137F, ["GRANTHA"]⟩, ⟨0x11380, 0x113FF, ["TULUTIGALARI"]⟩,
    ⟨0x11400, 0x1147F, ["NEWA"]⟩, ⟨0x11480, 0x114DF, ["TIRHUTA"]⟩, ⟨0x11580, 0x115FF, ["SIDDHAM"]⟩,
    ⟨0x11600, 0x1165F, ["MODI"]⟩, ⟨0x11660, 0x1167F, ["MONGOLIANSUPPLEMENT", "MONGOLIANSUP"]⟩,
    ⟨0x11680, 0x116CF, ["TAKRI"]⟩, ⟨0x116D0, 0x116FF, ["MYANMAREXTENDEDC", "MYANMAREXTC"]⟩,
    ⟨0x11700, 0x1174F, ["AHOM"]⟩, ⟨0x11800, 0x1184F, ["DOGRA"]⟩, ⟨0x118A0, 0x118FF, ["WARANGCITI"]⟩,
    ⟨0x11900, 0x1195F, ["DIVESAKURU"]⟩, ⟨0x119A0, 0x119FF, ["NANDINAGARI"]⟩,
    ⟨0x11A00, 0x11A4F, ["ZANABAZARSQUARE"]⟩, ⟨0x11A50, 0x11AAF, ["SOYOMBO"]⟩,
    ⟨0x11AB0, 0x11ABF, ["UNIFIEDCANADIANABORIGINALSYLLABICSEXTENDEDA", "UCASEXTA"]⟩,
    ⟨0x11AC0, 0x11AFF, ["PAUCINHAU"]⟩,
    ⟨0x11B00, 0x11B5F, ["DEVANAGARIEXTENDEDA", "DEVANAGARIEXTA"]⟩,
    ⟨0x11B60, 0x11B7F, ["SHARADASUPPLEMENT", "SHARADASUP"]⟩, ⟨0x11BC0, 0x11BFF, ["SUNUWAR"]⟩,
    ⟨0x11C00, 0x11C6F, ["BHAIKSUKI"]⟩, ⟨0x11C70, 0x11CBF, ["MARCHEN"]⟩,
    ⟨0x11D00, 0x11D5F, ["MASARAMGONDI"]⟩, ⟨0x11D60, 0x11DAF, ["GUNJALAGONDI"]⟩,
    ⟨0x11DB0, 0x11DEF, ["TOLONGSIKI"]⟩, ⟨0x11EE0, 0x11EFF, ["MAKASAR"]⟩,
    ⟨0x11F00, 0x11F5F, ["KAWI"]⟩, ⟨0x11FB0, 0x11FBF, ["LISUSUPPLEMENT", "LISUSUP"]⟩,
    ⟨0x11FC0, 0x11FFF, ["TAMILSUPPLEMENT", "TAMILSUP"]⟩, ⟨0x12000, 0x123FF, ["CUNEIFORM"]⟩,
    ⟨0x12400, 0x1247F, ["CUNEIFORMNUMBERSANDPUNCTUATION", "CUNEIFORMNUMBERS"]⟩,
    ⟨0x12480, 0x1254F, ["EARLYDYNASTICCUNEIFORM"]⟩, ⟨0x12F90, 0x12FFF, ["CYPROMINOAN"]⟩,
    ⟨0x13000, 0x1342F, ["EGYPTIANHIEROGLYPHS"]⟩,
    ⟨0x13430, 0x1345F, ["EGYPTIANHIEROGLYPHFORMATCONTROLS"]⟩,
    ⟨0x13460, 0x143FF, ["EGYPTIANHIEROGLYPHSEXTENDEDA", "EGYPTIANHIEROGLYPHSEXTA"]⟩,
    ⟨0x14400, 0x1467F, ["ANATOLIANHIEROGLYPHS"]⟩, ⟨0x16100, 0x1613F, ["GURUNGKHEMA"]⟩,
    ⟨0x16800, 0x16A3F, ["BAMUMSUPPLEMENT", "BAMUMSUP"]⟩, ⟨0x16A40, 0x16A6F, ["MRO"]⟩,
    ⟨0x16A70, 0x16ACF, ["TANGSA"]⟩, ⟨0x16AD0, 0x16AFF, ["BASSAVAH"]⟩,
    ⟨0x16B00, 0x16B8F, ["PAHAWHHMONG"]⟩, ⟨0x16D40, 0x16D7F, ["KIRATRAI"]⟩,
    ⟨0x16E40, 0x16E9F, ["MEDEFAIDRIN"]⟩, ⟨0x16EA0, 0x16EDF, ["BERIAERFE"]⟩,
    ⟨0x16F00, 0x16F9F, ["MIAO"]⟩,
    ⟨0x16FE0, 0x16FFF, ["IDEOGRAPHICSYMBOLSANDPUNCTUATION", "IDEOGRAPHICSYMBOLS"]⟩,
    ⟨0x17000, 0x187FF, ["TANGUT"]⟩, ⟨0x18800, 0x18AFF, ["TANGUTCOMPONENTS"]⟩,
    ⟨0x18B00, 0x18CFF, ["KHITANSMALLSCRIPT"]⟩,
    ⟨0x18D00, 0x18D7F, ["TANGUTSUPPLEMENT", "TANGUTSUP"]⟩,
    ⟨0x18D80, 0x18DFF, ["TANGUTCOMPONENTSSUPPLEMENT", "TANGUTCOMPONENTSSUP"]⟩,
    ⟨0x1AFF0, 0x1AFFF, ["KANAEXTENDEDB", "KANAEXTB"]⟩,
    ⟨0x1B000, 0x1B0FF, ["KANASUPPLEMENT", "KANASUP"]⟩,
    ⟨0x1B100, 0x1B12F, ["KANAEXTENDEDA", "KANAEXTA"]⟩,
    ⟨0x1B130, 0x1B16F, ["SMALLKANAEXTENSION", "SMALLKANAEXT"]⟩, ⟨0x1B170, 0x1B2FF, ["NUSHU"]⟩,
    ⟨0x1BC00, 0x1BC9F, ["DUPLOYAN"]⟩, ⟨0x1BCA0, 0x1BCAF, ["SHORTHANDFORMATCONTROLS"]⟩,
    ⟨0x1CC00, 0x1CEBF, ["SYMBOLSFORLEGACYCOMPUTINGSUPPLEMENT", "SYMBOLSFORLEGACYCOMPUTINGSUP"]⟩,
    ⟨0x1CEC0, 0x1CEFF, ["MISCELLANEOUSSYMBOLSSUPPLEMENT", "MISCSYMBOLSSUP"]⟩,
    ⟨0x1CF00, 0x1CFCF, ["ZNAMENNYMUSICALNOTATION", "ZNAMENNYMUSIC"]⟩,
    ⟨0x1D000, 0x1D0FF, ["BYZANTINEMUSICALSYMBOLS", "BYZANTINEMUSIC"]⟩,
    ⟨0x1D100, 0x1D1FF, ["MUSICALSYMBOLS", "MUSIC"]⟩,
    ⟨0x1D200, 0x1D24F, ["ANCIENTGREEKMUSICALNOTATION", "ANCIENTGREEKMUSIC"]⟩,
    ⟨0x1D2C0, 0x1D2DF, ["KAKTOVIKNUMERALS"]⟩, ⟨0x1D2E0, 0x1D2FF, ["MAYANNUMERALS"]⟩,
    ⟨0x1D300, 0x1D35F, ["TAIXUANJINGSYMBOLS", "TAIXUANJING"]⟩,
    ⟨0x1D360, 0x1D37F, ["COUNTINGRODNUMERALS", "COUNTINGROD"]⟩,
    ⟨0x1D400, 0x1D7FF, ["MATHEMATICALALPHANUMERICSYMBOLS", "MATHALPHANUM"]⟩,
    ⟨0x1D800, 0x1DAAF, ["SUTTONSIGNWRITING"]⟩, ⟨0x1DF00, 0x1DFFF, ["LATINEXTENDEDG", "LATINEXTG"]⟩,
    ⟨0x1E000, 0x1E02F, ["GLAGOLITICSUPPLEMENT", "GLAGOLITICSUP"]⟩,
    ⟨0x1E030, 0x1E08F, ["CYRILLICEXTENDEDD", "CYRILLICEXTD"]⟩,
    ⟨0x1E100, 0x1E14F, ["NYIAKENGPUACHUEHMONG"]⟩, ⟨0x1E290, 0x1E2BF, ["TOTO"]⟩,
    ⟨0x1E2C0, 0x1E2FF, ["WANCHO"]⟩, ⟨0x1E4D0, 0x1E4FF, ["NAGMUNDARI"]⟩,
    ⟨0x1E5D0, 0x1E5FF, ["OLONAL"]⟩, ⟨0x1E6C0, 0x1E6FF, ["TAIYO"]⟩,
    ⟨0x1E7E0, 0x1E7FF, ["ETHIOPICEXTENDEDB", "ETHIOPICEXTB"]⟩, ⟨0x1E800, 0x1E8DF, ["MENDEKIKAKUI"]⟩,
    ⟨0x1E900, 0x1E95F, ["ADLAM"]⟩, ⟨0x1EC70, 0x1ECBF, ["INDICSIYAQNUMBERS"]⟩,
    ⟨0x1ED00, 0x1ED4F, ["OTTOMANSIYAQNUMBERS"]⟩,
    ⟨0x1EE00, 0x1EEFF, ["ARABICMATHEMATICALALPHABETICSYMBOLS", "ARABICMATH"]⟩,
    ⟨0x1F000, 0x1F02F, ["MAHJONGTILES", "MAHJONG"]⟩, ⟨0x1F030, 0x1F09F, ["DOMINOTILES", "DOMINO"]⟩,
    ⟨0x1F0A0, 0x1F0FF, ["PLAYINGCARDS"]⟩,
    ⟨0x1F100, 0x1F1FF, ["ENCLOSEDALPHANUMERICSUPPLEMENT", "ENCLOSEDALPHANUMSUP"]⟩,
    ⟨0x1F200, 0x1F2FF, ["ENCLOSEDIDEOGRAPHICSUPPLEMENT", "ENCLOSEDIDEOGRAPHICSUP"]⟩,
    ⟨0x1F300, 0x1F5FF, ["MISCELLANEOUSSYMBOLSANDPICTOGRAPHS", "MISCPICTOGRAPHS"]⟩,
    ⟨0x1F600, 0x1F64F, ["EMOTICONS"]⟩, ⟨0x1F650, 0x1F67F, ["ORNAMENTALDINGBATS"]⟩,
    ⟨0x1F680, 0x1F6FF, ["TRANSPORTANDMAPSYMBOLS", "TRANSPORTANDMAP"]⟩,
    ⟨0x1F700, 0x1F77F, ["ALCHEMICALSYMBOLS", "ALCHEMICAL"]⟩,
    ⟨0x1F780, 0x1F7FF, ["GEOMETRICSHAPESEXTENDED", "GEOMETRICSHAPESEXT"]⟩,
    ⟨0x1F800, 0x1F8FF, ["SUPPLEMENTALARROWSC", "SUPARROWSC"]⟩,
    ⟨0x1F900, 0x1F9FF, ["SUPPLEMENTALSYMBOLSANDPICTOGRAPHS", "SUPSYMBOLSANDPICTOGRAPHS"]⟩,
    ⟨0x1FA00, 0x1FA6F, ["CHESSSYMBOLS"]⟩,
    ⟨0x1FA70, 0x1FAFF, ["SYMBOLSANDPICTOGRAPHSEXTENDEDA", "SYMBOLSANDPICTOGRAPHSEXTA"]⟩,
    ⟨0x1FB00, 0x1FBFF, ["SYMBOLSFORLEGACYCOMPUTING"]⟩,
    ⟨0x20000, 0x2A6DF, ["CJKUNIFIEDIDEOGRAPHSEXTENSIONB", "CJKEXTB"]⟩,
    ⟨0x2A700, 0x2B73F, ["CJKUNIFIEDIDEOGRAPHSEXTENSIONC", "CJKEXTC"]⟩,
    ⟨0x2B740, 0x2B81F, ["CJKUNIFIEDIDEOGRAPHSEXTENSIOND", "CJKEXTD"]⟩,
    ⟨0x2B820, 0x2CEAF, ["CJKUNIFIEDIDEOGRAPHSEXTENSIONE", "CJKEXTE"]⟩,
    ⟨0x2CEB0, 0x2EBEF, ["CJKUNIFIEDIDEOGRAPHSEXTENSIONF", "CJKEXTF"]⟩,
    ⟨0x2EBF0, 0x2EE5F, ["CJKUNIFIEDIDEOGRAPHSEXTENSIONI", "CJKEXTI"]⟩,
    ⟨0x2F800, 0x2FA1F, ["CJKCOMPATIBILITYIDEOGRAPHSSUPPLEMENT", "CJKCOMPATIDEOGRAPHSSUP"]⟩,
    ⟨0x30000, 0x3134F, ["CJKUNIFIEDIDEOGRAPHSEXTENSIONG", "CJKEXTG"]⟩,
    ⟨0x31350, 0x323AF, ["CJKUNIFIEDIDEOGRAPHSEXTENSIONH", "CJKEXTH"]⟩,
    ⟨0x323B0, 0x3347F, ["CJKUNIFIEDIDEOGRAPHSEXTENSIONJ", "CJKEXTJ"]⟩, ⟨0xE0000, 0xE007F, ["TAGS"]⟩,
    ⟨0xE0100, 0xE01EF, ["VARIATIONSELECTORSSUPPLEMENT", "VSSUP"]⟩,
    ⟨0xF0000, 0xFFFFF, ["SUPPLEMENTARYPRIVATEUSEAREAA", "SUPPUAA"]⟩,
    ⟨0x100000, 0x10FFFF, ["SUPPLEMENTARYPRIVATEUSEAREAB", "SUPPUAB"]⟩]

end Text

end Subword
