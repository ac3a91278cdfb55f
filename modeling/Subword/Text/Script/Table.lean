import Subword.Text.Span

/-!
# The script of each code point, as a table

A script is known by its code of four letters. A code point that no span covers
has no script. Some characters are used in writing several scripts; those are
listed once more, with all of them.
-/

namespace Subword

namespace Text

namespace Script

/-- A span of one script. -/
def of (first last : Nat) (code : String) : Span String :=
  ⟨first, last, code⟩

/-- The script of each code point. -/
def table : Array (Span String) := #[
    of 0x0000 0x0040 "Zyyy", of 0x0041 0x005A "Latn", of 0x005B 0x0060 "Zyyy",
    of 0x0061 0x007A "Latn", of 0x007B 0x00A9 "Zyyy", of 0x00AA 0x00AA "Latn",
    of 0x00AB 0x00B9 "Zyyy", of 0x00BA 0x00BA "Latn", of 0x00BB 0x00BF "Zyyy",
    of 0x00C0 0x00D6 "Latn", of 0x00D7 0x00D7 "Zyyy", of 0x00D8 0x00F6 "Latn",
    of 0x00F7 0x00F7 "Zyyy", of 0x00F8 0x02B8 "Latn", of 0x02B9 0x02DF "Zyyy",
    of 0x02E0 0x02E4 "Latn", of 0x02E5 0x02E9 "Zyyy", of 0x02EA 0x02EB "Bopo",
    of 0x02EC 0x02FF "Zyyy", of 0x0300 0x036F "Zinh", of 0x0370 0x0373 "Grek",
    of 0x0374 0x0374 "Zyyy", of 0x0375 0x0377 "Grek", of 0x037A 0x037D "Grek",
    of 0x037E 0x037E "Zyyy", of 0x037F 0x037F "Grek", of 0x0384 0x0384 "Grek",
    of 0x0385 0x0385 "Zyyy", of 0x0386 0x0386 "Grek", of 0x0387 0x0387 "Zyyy",
    of 0x0388 0x038A "Grek", of 0x038C 0x038C "Grek", of 0x038E 0x03A1 "Grek",
    of 0x03A3 0x03E1 "Grek", of 0x03E2 0x03EF "Copt", of 0x03F0 0x03FF "Grek",
    of 0x0400 0x0484 "Cyrl", of 0x0485 0x0486 "Zinh", of 0x0487 0x052F "Cyrl",
    of 0x0531 0x0556 "Armn", of 0x0559 0x058A "Armn", of 0x058D 0x058F "Armn",
    of 0x0591 0x05C7 "Hebr", of 0x05D0 0x05EA "Hebr", of 0x05EF 0x05F4 "Hebr",
    of 0x0600 0x0604 "Arab", of 0x0605 0x0605 "Zyyy", of 0x0606 0x060B "Arab",
    of 0x060C 0x060C "Zyyy", of 0x060D 0x061A "Arab", of 0x061B 0x061B "Zyyy",
    of 0x061C 0x061E "Arab", of 0x061F 0x061F "Zyyy", of 0x0620 0x063F "Arab",
    of 0x0640 0x0640 "Zyyy", of 0x0641 0x064A "Arab", of 0x064B 0x0655 "Zinh",
    of 0x0656 0x066F "Arab", of 0x0670 0x0670 "Zinh", of 0x0671 0x06DC "Arab",
    of 0x06DD 0x06DD "Zyyy", of 0x06DE 0x06FF "Arab", of 0x0700 0x070D "Syrc",
    of 0x070F 0x074A "Syrc", of 0x074D 0x074F "Syrc", of 0x0750 0x077F "Arab",
    of 0x0780 0x07B1 "Thaa", of 0x07C0 0x07FA "Nkoo", of 0x07FD 0x07FF "Nkoo",
    of 0x0800 0x082D "Samr", of 0x0830 0x083E "Samr", of 0x0840 0x085B "Mand",
    of 0x085E 0x085E "Mand", of 0x0860 0x086A "Syrc", of 0x0870 0x0891 "Arab",
    of 0x0897 0x08E1 "Arab", of 0x08E2 0x08E2 "Zyyy", of 0x08E3 0x08FF "Arab",
    of 0x0900 0x0950 "Deva", of 0x0951 0x0954 "Zinh", of 0x0955 0x0963 "Deva",
    of 0x0964 0x0965 "Zyyy", of 0x0966 0x097F "Deva", of 0x0980 0x0983 "Beng",
    of 0x0985 0x098C "Beng", of 0x098F 0x0990 "Beng", of 0x0993 0x09A8 "Beng",
    of 0x09AA 0x09B0 "Beng", of 0x09B2 0x09B2 "Beng", of 0x09B6 0x09B9 "Beng",
    of 0x09BC 0x09C4 "Beng", of 0x09C7 0x09C8 "Beng", of 0x09CB 0x09CE "Beng",
    of 0x09D7 0x09D7 "Beng", of 0x09DC 0x09DD "Beng", of 0x09DF 0x09E3 "Beng",
    of 0x09E6 0x09FE "Beng", of 0x0A01 0x0A03 "Guru", of 0x0A05 0x0A0A "Guru",
    of 0x0A0F 0x0A10 "Guru", of 0x0A13 0x0A28 "Guru", of 0x0A2A 0x0A30 "Guru",
    of 0x0A32 0x0A33 "Guru", of 0x0A35 0x0A36 "Guru", of 0x0A38 0x0A39 "Guru",
    of 0x0A3C 0x0A3C "Guru", of 0x0A3E 0x0A42 "Guru", of 0x0A47 0x0A48 "Guru",
    of 0x0A4B 0x0A4D "Guru", of 0x0A51 0x0A51 "Guru", of 0x0A59 0x0A5C "Guru",
    of 0x0A5E 0x0A5E "Guru", of 0x0A66 0x0A76 "Guru", of 0x0A81 0x0A83 "Gujr",
    of 0x0A85 0x0A8D "Gujr", of 0x0A8F 0x0A91 "Gujr", of 0x0A93 0x0AA8 "Gujr",
    of 0x0AAA 0x0AB0 "Gujr", of 0x0AB2 0x0AB3 "Gujr", of 0x0AB5 0x0AB9 "Gujr",
    of 0x0ABC 0x0AC5 "Gujr", of 0x0AC7 0x0AC9 "Gujr", of 0x0ACB 0x0ACD "Gujr",
    of 0x0AD0 0x0AD0 "Gujr", of 0x0AE0 0x0AE3 "Gujr", of 0x0AE6 0x0AF1 "Gujr",
    of 0x0AF9 0x0AFF "Gujr", of 0x0B01 0x0B03 "Orya", of 0x0B05 0x0B0C "Orya",
    of 0x0B0F 0x0B10 "Orya", of 0x0B13 0x0B28 "Orya", of 0x0B2A 0x0B30 "Orya",
    of 0x0B32 0x0B33 "Orya", of 0x0B35 0x0B39 "Orya", of 0x0B3C 0x0B44 "Orya",
    of 0x0B47 0x0B48 "Orya", of 0x0B4B 0x0B4D "Orya", of 0x0B55 0x0B57 "Orya",
    of 0x0B5C 0x0B5D "Orya", of 0x0B5F 0x0B63 "Orya", of 0x0B66 0x0B77 "Orya",
    of 0x0B82 0x0B83 "Taml", of 0x0B85 0x0B8A "Taml", of 0x0B8E 0x0B90 "Taml",
    of 0x0B92 0x0B95 "Taml", of 0x0B99 0x0B9A "Taml", of 0x0B9C 0x0B9C "Taml",
    of 0x0B9E 0x0B9F "Taml", of 0x0BA3 0x0BA4 "Taml", of 0x0BA8 0x0BAA "Taml",
    of 0x0BAE 0x0BB9 "Taml", of 0x0BBE 0x0BC2 "Taml", of 0x0BC6 0x0BC8 "Taml",
    of 0x0BCA 0x0BCD "Taml", of 0x0BD0 0x0BD0 "Taml", of 0x0BD7 0x0BD7 "Taml",
    of 0x0BE6 0x0BFA "Taml", of 0x0C00 0x0C0C "Telu", of 0x0C0E 0x0C10 "Telu",
    of 0x0C12 0x0C28 "Telu", of 0x0C2A 0x0C39 "Telu", of 0x0C3C 0x0C44 "Telu",
    of 0x0C46 0x0C48 "Telu", of 0x0C4A 0x0C4D "Telu", of 0x0C55 0x0C56 "Telu",
    of 0x0C58 0x0C5A "Telu", of 0x0C5C 0x0C5D "Telu", of 0x0C60 0x0C63 "Telu",
    of 0x0C66 0x0C6F "Telu", of 0x0C77 0x0C7F "Telu", of 0x0C80 0x0C8C "Knda",
    of 0x0C8E 0x0C90 "Knda", of 0x0C92 0x0CA8 "Knda", of 0x0CAA 0x0CB3 "Knda",
    of 0x0CB5 0x0CB9 "Knda", of 0x0CBC 0x0CC4 "Knda", of 0x0CC6 0x0CC8 "Knda",
    of 0x0CCA 0x0CCD "Knda", of 0x0CD5 0x0CD6 "Knda", of 0x0CDC 0x0CDE "Knda",
    of 0x0CE0 0x0CE3 "Knda", of 0x0CE6 0x0CEF "Knda", of 0x0CF1 0x0CF3 "Knda",
    of 0x0D00 0x0D0C "Mlym", of 0x0D0E 0x0D10 "Mlym", of 0x0D12 0x0D44 "Mlym",
    of 0x0D46 0x0D48 "Mlym", of 0x0D4A 0x0D4F "Mlym", of 0x0D54 0x0D63 "Mlym",
    of 0x0D66 0x0D7F "Mlym", of 0x0D81 0x0D83 "Sinh", of 0x0D85 0x0D96 "Sinh",
    of 0x0D9A 0x0DB1 "Sinh", of 0x0DB3 0x0DBB "Sinh", of 0x0DBD 0x0DBD "Sinh",
    of 0x0DC0 0x0DC6 "Sinh", of 0x0DCA 0x0DCA "Sinh", of 0x0DCF 0x0DD4 "Sinh",
    of 0x0DD6 0x0DD6 "Sinh", of 0x0DD8 0x0DDF "Sinh", of 0x0DE6 0x0DEF "Sinh",
    of 0x0DF2 0x0DF4 "Sinh", of 0x0E01 0x0E3A "Thai", of 0x0E3F 0x0E3F "Zyyy",
    of 0x0E40 0x0E5B "Thai", of 0x0E81 0x0E82 "Laoo", of 0x0E84 0x0E84 "Laoo",
    of 0x0E86 0x0E8A "Laoo", of 0x0E8C 0x0EA3 "Laoo", of 0x0EA5 0x0EA5 "Laoo",
    of 0x0EA7 0x0EBD "Laoo", of 0x0EC0 0x0EC4 "Laoo", of 0x0EC6 0x0EC6 "Laoo",
    of 0x0EC8 0x0ECE "Laoo", of 0x0ED0 0x0ED9 "Laoo", of 0x0EDC 0x0EDF "Laoo",
    of 0x0F00 0x0F47 "Tibt", of 0x0F49 0x0F6C "Tibt", of 0x0F71 0x0F97 "Tibt",
    of 0x0F99 0x0FBC "Tibt", of 0x0FBE 0x0FCC "Tibt", of 0x0FCE 0x0FD4 "Tibt",
    of 0x0FD5 0x0FD8 "Zyyy", of 0x0FD9 0x0FDA "Tibt", of 0x1000 0x109F "Mymr",
    of 0x10A0 0x10C5 "Geor", of 0x10C7 0x10C7 "Geor", of 0x10CD 0x10CD "Geor",
    of 0x10D0 0x10FA "Geor", of 0x10FB 0x10FB "Zyyy", of 0x10FC 0x10FF "Geor",
    of 0x1100 0x11FF "Hang", of 0x1200 0x1248 "Ethi", of 0x124A 0x124D "Ethi",
    of 0x1250 0x1256 "Ethi", of 0x1258 0x1258 "Ethi", of 0x125A 0x125D "Ethi",
    of 0x1260 0x1288 "Ethi", of 0x128A 0x128D "Ethi", of 0x1290 0x12B0 "Ethi",
    of 0x12B2 0x12B5 "Ethi", of 0x12B8 0x12BE "Ethi", of 0x12C0 0x12C0 "Ethi",
    of 0x12C2 0x12C5 "Ethi", of 0x12C8 0x12D6 "Ethi", of 0x12D8 0x1310 "Ethi",
    of 0x1312 0x1315 "Ethi", of 0x1318 0x135A "Ethi", of 0x135D 0x137C "Ethi",
    of 0x1380 0x1399 "Ethi", of 0x13A0 0x13F5 "Cher", of 0x13F8 0x13FD "Cher",
    of 0x1400 0x167F "Cans", of 0x1680 0x169C "Ogam", of 0x16A0 0x16EA "Runr",
    of 0x16EB 0x16ED "Zyyy", of 0x16EE 0x16F8 "Runr", of 0x1700 0x1715 "Tglg",
    of 0x171F 0x171F "Tglg", of 0x1720 0x1734 "Hano", of 0x1735 0x1736 "Zyyy",
    of 0x1740 0x1753 "Buhd", of 0x1760 0x176C "Tagb", of 0x176E 0x1770 "Tagb",
    of 0x1772 0x1773 "Tagb", of 0x1780 0x17DD "Khmr", of 0x17E0 0x17E9 "Khmr",
    of 0x17F0 0x17F9 "Khmr", of 0x1800 0x1801 "Mong", of 0x1802 0x1803 "Zyyy",
    of 0x1804 0x1804 "Mong", of 0x1805 0x1805 "Zyyy", of 0x1806 0x1819 "Mong",
    of 0x1820 0x1878 "Mong", of 0x1880 0x18AA "Mong", of 0x18B0 0x18F5 "Cans",
    of 0x1900 0x191E "Limb", of 0x1920 0x192B "Limb", of 0x1930 0x193B "Limb",
    of 0x1940 0x1940 "Limb", of 0x1944 0x194F "Limb", of 0x1950 0x196D "Tale",
    of 0x1970 0x1974 "Tale", of 0x1980 0x19AB "Talu", of 0x19B0 0x19C9 "Talu",
    of 0x19D0 0x19DA "Talu", of 0x19DE 0x19DF "Talu", of 0x19E0 0x19FF "Khmr",
    of 0x1A00 0x1A1B "Bugi", of 0x1A1E 0x1A1F "Bugi", of 0x1A20 0x1A5E "Lana",
    of 0x1A60 0x1A7C "Lana", of 0x1A7F 0x1A89 "Lana", of 0x1A90 0x1A99 "Lana",
    of 0x1AA0 0x1AAD "Lana", of 0x1AB0 0x1ADD "Zinh", of 0x1AE0 0x1AEB "Zinh",
    of 0x1B00 0x1B4C "Bali", of 0x1B4E 0x1B7F "Bali", of 0x1B80 0x1BBF "Sund",
    of 0x1BC0 0x1BF3 "Batk", of 0x1BFC 0x1BFF "Batk", of 0x1C00 0x1C37 "Lepc",
    of 0x1C3B 0x1C49 "Lepc", of 0x1C4D 0x1C4F "Lepc", of 0x1C50 0x1C7F "Olck",
    of 0x1C80 0x1C8A "Cyrl", of 0x1C90 0x1CBA "Geor", of 0x1CBD 0x1CBF "Geor",
    of 0x1CC0 0x1CC7 "Sund", of 0x1CD0 0x1CD2 "Zinh", of 0x1CD3 0x1CD3 "Zyyy",
    of 0x1CD4 0x1CE0 "Zinh", of 0x1CE1 0x1CE1 "Zyyy", of 0x1CE2 0x1CE8 "Zinh",
    of 0x1CE9 0x1CEC "Zyyy", of 0x1CED 0x1CED "Zinh", of 0x1CEE 0x1CF3 "Zyyy",
    of 0x1CF4 0x1CF4 "Zinh", of 0x1CF5 0x1CF7 "Zyyy", of 0x1CF8 0x1CF9 "Zinh",
    of 0x1CFA 0x1CFA "Zyyy", of 0x1D00 0x1D25 "Latn", of 0x1D26 0x1D2A "Grek",
    of 0x1D2B 0x1D2B "Cyrl", of 0x1D2C 0x1D5C "Latn", of 0x1D5D 0x1D61 "Grek",
    of 0x1D62 0x1D65 "Latn", of 0x1D66 0x1D6A "Grek", of 0x1D6B 0x1D77 "Latn",
    of 0x1D78 0x1D78 "Cyrl", of 0x1D79 0x1DBE "Latn", of 0x1DBF 0x1DBF "Grek",
    of 0x1DC0 0x1DFF "Zinh", of 0x1E00 0x1EFF "Latn", of 0x1F00 0x1F15 "Grek",
    of 0x1F18 0x1F1D "Grek", of 0x1F20 0x1F45 "Grek", of 0x1F48 0x1F4D "Grek",
    of 0x1F50 0x1F57 "Grek", of 0x1F59 0x1F59 "Grek", of 0x1F5B 0x1F5B "Grek",
    of 0x1F5D 0x1F5D "Grek", of 0x1F5F 0x1F7D "Grek", of 0x1F80 0x1FB4 "Grek",
    of 0x1FB6 0x1FC4 "Grek", of 0x1FC6 0x1FD3 "Grek", of 0x1FD6 0x1FDB "Grek",
    of 0x1FDD 0x1FEF "Grek", of 0x1FF2 0x1FF4 "Grek", of 0x1FF6 0x1FFE "Grek",
    of 0x2000 0x200B "Zyyy", of 0x200C 0x200D "Zinh", of 0x200E 0x2064 "Zyyy",
    of 0x2066 0x2070 "Zyyy", of 0x2071 0x2071 "Latn", of 0x2074 0x207E "Zyyy",
    of 0x207F 0x207F "Latn", of 0x2080 0x208E "Zyyy", of 0x2090 0x209C "Latn",
    of 0x20A0 0x20C1 "Zyyy", of 0x20D0 0x20F0 "Zinh", of 0x2100 0x2125 "Zyyy",
    of 0x2126 0x2126 "Grek", of 0x2127 0x2129 "Zyyy", of 0x212A 0x212B "Latn",
    of 0x212C 0x2131 "Zyyy", of 0x2132 0x2132 "Latn", of 0x2133 0x214D "Zyyy",
    of 0x214E 0x214E "Latn", of 0x214F 0x215F "Zyyy", of 0x2160 0x2188 "Latn",
    of 0x2189 0x218B "Zyyy", of 0x2190 0x2429 "Zyyy", of 0x2440 0x244A "Zyyy",
    of 0x2460 0x27FF "Zyyy", of 0x2800 0x28FF "Brai", of 0x2900 0x2B73 "Zyyy",
    of 0x2B76 0x2BFF "Zyyy", of 0x2C00 0x2C5F "Glag", of 0x2C60 0x2C7F "Latn",
    of 0x2C80 0x2CF3 "Copt", of 0x2CF9 0x2CFF "Copt", of 0x2D00 0x2D25 "Geor",
    of 0x2D27 0x2D27 "Geor", of 0x2D2D 0x2D2D "Geor", of 0x2D30 0x2D67 "Tfng",
    of 0x2D6F 0x2D70 "Tfng", of 0x2D7F 0x2D7F "Tfng", of 0x2D80 0x2D96 "Ethi",
    of 0x2DA0 0x2DA6 "Ethi", of 0x2DA8 0x2DAE "Ethi", of 0x2DB0 0x2DB6 "Ethi",
    of 0x2DB8 0x2DBE "Ethi", of 0x2DC0 0x2DC6 "Ethi", of 0x2DC8 0x2DCE "Ethi",
    of 0x2DD0 0x2DD6 "Ethi", of 0x2DD8 0x2DDE "Ethi", of 0x2DE0 0x2DFF "Cyrl",
    of 0x2E00 0x2E5D "Zyyy", of 0x2E80 0x2E99 "Hani", of 0x2E9B 0x2EF3 "Hani",
    of 0x2F00 0x2FD5 "Hani", of 0x2FF0 0x3004 "Zyyy", of 0x3005 0x3005 "Hani",
    of 0x3006 0x3006 "Zyyy", of 0x3007 0x3007 "Hani", of 0x3008 0x3020 "Zyyy",
    of 0x3021 0x3029 "Hani", of 0x302A 0x302D "Zinh", of 0x302E 0x302F "Hang",
    of 0x3030 0x3037 "Zyyy", of 0x3038 0x303B "Hani", of 0x303C 0x303F "Zyyy",
    of 0x3041 0x3096 "Hira", of 0x3099 0x309A "Zinh", of 0x309B 0x309C "Zyyy",
    of 0x309D 0x309F "Hira", of 0x30A0 0x30A0 "Zyyy", of 0x30A1 0x30FA "Kana",
    of 0x30FB 0x30FC "Zyyy", of 0x30FD 0x30FF "Kana", of 0x3105 0x312F "Bopo",
    of 0x3131 0x318E "Hang", of 0x3190 0x319F "Zyyy", of 0x31A0 0x31BF "Bopo",
    of 0x31C0 0x31E5 "Zyyy", of 0x31EF 0x31EF "Zyyy", of 0x31F0 0x31FF "Kana",
    of 0x3200 0x321E "Hang", of 0x3220 0x325F "Zyyy", of 0x3260 0x327E "Hang",
    of 0x327F 0x32CF "Zyyy", of 0x32D0 0x32FE "Kana", of 0x32FF 0x32FF "Zyyy",
    of 0x3300 0x3357 "Kana", of 0x3358 0x33FF "Zyyy", of 0x3400 0x4DBF "Hani",
    of 0x4DC0 0x4DFF "Zyyy", of 0x4E00 0x9FFF "Hani", of 0xA000 0xA48C "Yiii",
    of 0xA490 0xA4C6 "Yiii", of 0xA4D0 0xA4FF "Lisu", of 0xA500 0xA62B "Vaii",
    of 0xA640 0xA69F "Cyrl", of 0xA6A0 0xA6F7 "Bamu", of 0xA700 0xA721 "Zyyy",
    of 0xA722 0xA787 "Latn", of 0xA788 0xA78A "Zyyy", of 0xA78B 0xA7DC "Latn",
    of 0xA7F1 0xA7FF "Latn", of 0xA800 0xA82C "Sylo", of 0xA830 0xA839 "Zyyy",
    of 0xA840 0xA877 "Phag", of 0xA880 0xA8C5 "Saur", of 0xA8CE 0xA8D9 "Saur",
    of 0xA8E0 0xA8FF "Deva", of 0xA900 0xA92D "Kali", of 0xA92E 0xA92E "Zyyy",
    of 0xA92F 0xA92F "Kali", of 0xA930 0xA953 "Rjng", of 0xA95F 0xA95F "Rjng",
    of 0xA960 0xA97C "Hang", of 0xA980 0xA9CD "Java", of 0xA9CF 0xA9CF "Zyyy",
    of 0xA9D0 0xA9D9 "Java", of 0xA9DE 0xA9DF "Java", of 0xA9E0 0xA9FE "Mymr",
    of 0xAA00 0xAA36 "Cham", of 0xAA40 0xAA4D "Cham", of 0xAA50 0xAA59 "Cham",
    of 0xAA5C 0xAA5F "Cham", of 0xAA60 0xAA7F "Mymr", of 0xAA80 0xAAC2 "Tavt",
    of 0xAADB 0xAADF "Tavt", of 0xAAE0 0xAAF6 "Mtei", of 0xAB01 0xAB06 "Ethi",
    of 0xAB09 0xAB0E "Ethi", of 0xAB11 0xAB16 "Ethi", of 0xAB20 0xAB26 "Ethi",
    of 0xAB28 0xAB2E "Ethi", of 0xAB30 0xAB5A "Latn", of 0xAB5B 0xAB5B "Zyyy",
    of 0xAB5C 0xAB64 "Latn", of 0xAB65 0xAB65 "Grek", of 0xAB66 0xAB69 "Latn",
    of 0xAB6A 0xAB6B "Zyyy", of 0xAB70 0xABBF "Cher", of 0xABC0 0xABED "Mtei",
    of 0xABF0 0xABF9 "Mtei", of 0xAC00 0xD7A3 "Hang", of 0xD7B0 0xD7C6 "Hang",
    of 0xD7CB 0xD7FB "Hang", of 0xF900 0xFA6D "Hani", of 0xFA70 0xFAD9 "Hani",
    of 0xFB00 0xFB06 "Latn", of 0xFB13 0xFB17 "Armn", of 0xFB1D 0xFB36 "Hebr",
    of 0xFB38 0xFB3C "Hebr", of 0xFB3E 0xFB3E "Hebr", of 0xFB40 0xFB41 "Hebr",
    of 0xFB43 0xFB44 "Hebr", of 0xFB46 0xFB4F "Hebr", of 0xFB50 0xFD3D "Arab",
    of 0xFD3E 0xFD3F "Zyyy", of 0xFD40 0xFDCF "Arab", of 0xFDF0 0xFDFF "Arab",
    of 0xFE00 0xFE0F "Zinh", of 0xFE10 0xFE19 "Zyyy", of 0xFE20 0xFE2D "Zinh",
    of 0xFE2E 0xFE2F "Cyrl", of 0xFE30 0xFE52 "Zyyy", of 0xFE54 0xFE66 "Zyyy",
    of 0xFE68 0xFE6B "Zyyy", of 0xFE70 0xFE74 "Arab", of 0xFE76 0xFEFC "Arab",
    of 0xFEFF 0xFEFF "Zyyy", of 0xFF01 0xFF20 "Zyyy", of 0xFF21 0xFF3A "Latn",
    of 0xFF3B 0xFF40 "Zyyy", of 0xFF41 0xFF5A "Latn", of 0xFF5B 0xFF65 "Zyyy",
    of 0xFF66 0xFF6F "Kana", of 0xFF70 0xFF70 "Zyyy", of 0xFF71 0xFF9D "Kana",
    of 0xFF9E 0xFF9F "Zyyy", of 0xFFA0 0xFFBE "Hang", of 0xFFC2 0xFFC7 "Hang",
    of 0xFFCA 0xFFCF "Hang", of 0xFFD2 0xFFD7 "Hang", of 0xFFDA 0xFFDC "Hang",
    of 0xFFE0 0xFFE6 "Zyyy", of 0xFFE8 0xFFEE "Zyyy", of 0xFFF9 0xFFFD "Zyyy",
    of 0x10000 0x1000B "Linb", of 0x1000D 0x10026 "Linb", of 0x10028 0x1003A "Linb",
    of 0x1003C 0x1003D "Linb", of 0x1003F 0x1004D "Linb", of 0x10050 0x1005D "Linb",
    of 0x10080 0x100FA "Linb", of 0x10100 0x10102 "Zyyy", of 0x10107 0x10133 "Zyyy",
    of 0x10137 0x1013F "Zyyy", of 0x10140 0x1018E "Grek", of 0x10190 0x1019C "Zyyy",
    of 0x101A0 0x101A0 "Grek", of 0x101D0 0x101FC "Zyyy", of 0x101FD 0x101FD "Zinh",
    of 0x10280 0x1029C "Lyci", of 0x102A0 0x102D0 "Cari", of 0x102E0 0x102E0 "Zinh",
    of 0x102E1 0x102FB "Zyyy", of 0x10300 0x10323 "Ital", of 0x1032D 0x1032F "Ital",
    of 0x10330 0x1034A "Goth", of 0x10350 0x1037A "Perm", of 0x10380 0x1039D "Ugar",
    of 0x1039F 0x1039F "Ugar", of 0x103A0 0x103C3 "Xpeo", of 0x103C8 0x103D5 "Xpeo",
    of 0x10400 0x1044F "Dsrt", of 0x10450 0x1047F "Shaw", of 0x10480 0x1049D "Osma",
    of 0x104A0 0x104A9 "Osma", of 0x104B0 0x104D3 "Osge", of 0x104D8 0x104FB "Osge",
    of 0x10500 0x10527 "Elba", of 0x10530 0x10563 "Aghb", of 0x1056F 0x1056F "Aghb",
    of 0x10570 0x1057A "Vith", of 0x1057C 0x1058A "Vith", of 0x1058C 0x10592 "Vith",
    of 0x10594 0x10595 "Vith", of 0x10597 0x105A1 "Vith", of 0x105A3 0x105B1 "Vith",
    of 0x105B3 0x105B9 "Vith", of 0x105BB 0x105BC "Vith", of 0x105C0 0x105F3 "Todr",
    of 0x10600 0x10736 "Lina", of 0x10740 0x10755 "Lina", of 0x10760 0x10767 "Lina",
    of 0x10780 0x10785 "Latn", of 0x10787 0x107B0 "Latn", of 0x107B2 0x107BA "Latn",
    of 0x10800 0x10805 "Cprt", of 0x10808 0x10808 "Cprt", of 0x1080A 0x10835 "Cprt",
    of 0x10837 0x10838 "Cprt", of 0x1083C 0x1083C "Cprt", of 0x1083F 0x1083F "Cprt",
    of 0x10840 0x10855 "Armi", of 0x10857 0x1085F "Armi", of 0x10860 0x1087F "Palm",
    of 0x10880 0x1089E "Nbat", of 0x108A7 0x108AF "Nbat", of 0x108E0 0x108F2 "Hatr",
    of 0x108F4 0x108F5 "Hatr", of 0x108FB 0x108FF "Hatr", of 0x10900 0x1091B "Phnx",
    of 0x1091F 0x1091F "Phnx", of 0x10920 0x10939 "Lydi", of 0x1093F 0x1093F "Lydi",
    of 0x10940 0x10959 "Sidt", of 0x10980 0x1099F "Mero", of 0x109A0 0x109B7 "Merc",
    of 0x109BC 0x109CF "Merc", of 0x109D2 0x109FF "Merc", of 0x10A00 0x10A03 "Khar",
    of 0x10A05 0x10A06 "Khar", of 0x10A0C 0x10A13 "Khar", of 0x10A15 0x10A17 "Khar",
    of 0x10A19 0x10A35 "Khar", of 0x10A38 0x10A3A "Khar", of 0x10A3F 0x10A48 "Khar",
    of 0x10A50 0x10A58 "Khar", of 0x10A60 0x10A7F "Sarb", of 0x10A80 0x10A9F "Narb",
    of 0x10AC0 0x10AE6 "Mani", of 0x10AEB 0x10AF6 "Mani", of 0x10B00 0x10B35 "Avst",
    of 0x10B39 0x10B3F "Avst", of 0x10B40 0x10B55 "Prti", of 0x10B58 0x10B5F "Prti",
    of 0x10B60 0x10B72 "Phli", of 0x10B78 0x10B7F "Phli", of 0x10B80 0x10B91 "Phlp",
    of 0x10B99 0x10B9C "Phlp", of 0x10BA9 0x10BAF "Phlp", of 0x10C00 0x10C48 "Orkh",
    of 0x10C80 0x10CB2 "Hung", of 0x10CC0 0x10CF2 "Hung", of 0x10CFA 0x10CFF "Hung",
    of 0x10D00 0x10D27 "Rohg", of 0x10D30 0x10D39 "Rohg", of 0x10D40 0x10D65 "Gara",
    of 0x10D69 0x10D85 "Gara", of 0x10D8E 0x10D8F "Gara", of 0x10E60 0x10E7E "Arab",
    of 0x10E80 0x10EA9 "Yezi", of 0x10EAB 0x10EAD "Yezi", of 0x10EB0 0x10EB1 "Yezi",
    of 0x10EC2 0x10EC7 "Arab", of 0x10ED0 0x10ED8 "Arab", of 0x10EFA 0x10EFF "Arab",
    of 0x10F00 0x10F27 "Sogo", of 0x10F30 0x10F59 "Sogd", of 0x10F70 0x10F89 "Ougr",
    of 0x10FB0 0x10FCB "Chrs", of 0x10FE0 0x10FF6 "Elym", of 0x11000 0x1104D "Brah",
    of 0x11052 0x11075 "Brah", of 0x1107F 0x1107F "Brah", of 0x11080 0x110C2 "Kthi",
    of 0x110CD 0x110CD "Kthi", of 0x110D0 0x110E8 "Sora", of 0x110F0 0x110F9 "Sora",
    of 0x11100 0x11134 "Cakm", of 0x11136 0x11147 "Cakm", of 0x11150 0x11176 "Mahj",
    of 0x11180 0x111DF "Shrd", of 0x111E1 0x111F4 "Sinh", of 0x11200 0x11211 "Khoj",
    of 0x11213 0x11241 "Khoj", of 0x11280 0x11286 "Mult", of 0x11288 0x11288 "Mult",
    of 0x1128A 0x1128D "Mult", of 0x1128F 0x1129D "Mult", of 0x1129F 0x112A9 "Mult",
    of 0x112B0 0x112EA "Sind", of 0x112F0 0x112F9 "Sind", of 0x11300 0x11303 "Gran",
    of 0x11305 0x1130C "Gran", of 0x1130F 0x11310 "Gran", of 0x11313 0x11328 "Gran",
    of 0x1132A 0x11330 "Gran", of 0x11332 0x11333 "Gran", of 0x11335 0x11339 "Gran",
    of 0x1133B 0x1133B "Zinh", of 0x1133C 0x11344 "Gran", of 0x11347 0x11348 "Gran",
    of 0x1134B 0x1134D "Gran", of 0x11350 0x11350 "Gran", of 0x11357 0x11357 "Gran",
    of 0x1135D 0x11363 "Gran", of 0x11366 0x1136C "Gran", of 0x11370 0x11374 "Gran",
    of 0x11380 0x11389 "Tutg", of 0x1138B 0x1138B "Tutg", of 0x1138E 0x1138E "Tutg",
    of 0x11390 0x113B5 "Tutg", of 0x113B7 0x113C0 "Tutg", of 0x113C2 0x113C2 "Tutg",
    of 0x113C5 0x113C5 "Tutg", of 0x113C7 0x113CA "Tutg", of 0x113CC 0x113D5 "Tutg",
    of 0x113D7 0x113D8 "Tutg", of 0x113E1 0x113E2 "Tutg", of 0x11400 0x1145B "Newa",
    of 0x1145D 0x11461 "Newa", of 0x11480 0x114C7 "Tirh", of 0x114D0 0x114D9 "Tirh",
    of 0x11580 0x115B5 "Sidd", of 0x115B8 0x115DD "Sidd", of 0x11600 0x11644 "Modi",
    of 0x11650 0x11659 "Modi", of 0x11660 0x1166C "Mong", of 0x11680 0x116B9 "Takr",
    of 0x116C0 0x116C9 "Takr", of 0x116D0 0x116E3 "Mymr", of 0x11700 0x1171A "Ahom",
    of 0x1171D 0x1172B "Ahom", of 0x11730 0x11746 "Ahom", of 0x11800 0x1183B "Dogr",
    of 0x118A0 0x118F2 "Wara", of 0x118FF 0x118FF "Wara", of 0x11900 0x11906 "Diak",
    of 0x11909 0x11909 "Diak", of 0x1190C 0x11913 "Diak", of 0x11915 0x11916 "Diak",
    of 0x11918 0x11935 "Diak", of 0x11937 0x11938 "Diak", of 0x1193B 0x11946 "Diak",
    of 0x11950 0x11959 "Diak", of 0x119A0 0x119A7 "Nand", of 0x119AA 0x119D7 "Nand",
    of 0x119DA 0x119E4 "Nand", of 0x11A00 0x11A47 "Zanb", of 0x11A50 0x11AA2 "Soyo",
    of 0x11AB0 0x11ABF "Cans", of 0x11AC0 0x11AF8 "Pauc", of 0x11B00 0x11B09 "Deva",
    of 0x11B60 0x11B67 "Shrd", of 0x11BC0 0x11BE1 "Sunu", of 0x11BF0 0x11BF9 "Sunu",
    of 0x11C00 0x11C08 "Bhks", of 0x11C0A 0x11C36 "Bhks", of 0x11C38 0x11C45 "Bhks",
    of 0x11C50 0x11C6C "Bhks", of 0x11C70 0x11C8F "Marc", of 0x11C92 0x11CA7 "Marc",
    of 0x11CA9 0x11CB6 "Marc", of 0x11D00 0x11D06 "Gonm", of 0x11D08 0x11D09 "Gonm",
    of 0x11D0B 0x11D36 "Gonm", of 0x11D3A 0x11D3A "Gonm", of 0x11D3C 0x11D3D "Gonm",
    of 0x11D3F 0x11D47 "Gonm", of 0x11D50 0x11D59 "Gonm", of 0x11D60 0x11D65 "Gong",
    of 0x11D67 0x11D68 "Gong", of 0x11D6A 0x11D8E "Gong", of 0x11D90 0x11D91 "Gong",
    of 0x11D93 0x11D98 "Gong", of 0x11DA0 0x11DA9 "Gong", of 0x11DB0 0x11DDB "Tols",
    of 0x11DE0 0x11DE9 "Tols", of 0x11EE0 0x11EF8 "Maka", of 0x11F00 0x11F10 "Kawi",
    of 0x11F12 0x11F3A "Kawi", of 0x11F3E 0x11F5A "Kawi", of 0x11FB0 0x11FB0 "Lisu",
    of 0x11FC0 0x11FF1 "Taml", of 0x11FFF 0x11FFF "Taml", of 0x12000 0x12399 "Xsux",
    of 0x12400 0x1246E "Xsux", of 0x12470 0x12474 "Xsux", of 0x12480 0x12543 "Xsux",
    of 0x12F90 0x12FF2 "Cpmn", of 0x13000 0x13455 "Egyp", of 0x13460 0x143FA "Egyp",
    of 0x14400 0x14646 "Hluw", of 0x16100 0x16139 "Gukh", of 0x16800 0x16A38 "Bamu",
    of 0x16A40 0x16A5E "Mroo", of 0x16A60 0x16A69 "Mroo", of 0x16A6E 0x16A6F "Mroo",
    of 0x16A70 0x16ABE "Tnsa", of 0x16AC0 0x16AC9 "Tnsa", of 0x16AD0 0x16AED "Bass",
    of 0x16AF0 0x16AF5 "Bass", of 0x16B00 0x16B45 "Hmng", of 0x16B50 0x16B59 "Hmng",
    of 0x16B5B 0x16B61 "Hmng", of 0x16B63 0x16B77 "Hmng", of 0x16B7D 0x16B8F "Hmng",
    of 0x16D40 0x16D79 "Krai", of 0x16E40 0x16E9A "Medf", of 0x16EA0 0x16EB8 "Berf",
    of 0x16EBB 0x16ED3 "Berf", of 0x16F00 0x16F4A "Plrd", of 0x16F4F 0x16F87 "Plrd",
    of 0x16F8F 0x16F9F "Plrd", of 0x16FE0 0x16FE0 "Tang", of 0x16FE1 0x16FE1 "Nshu",
    of 0x16FE2 0x16FE3 "Hani", of 0x16FE4 0x16FE4 "Kits", of 0x16FF0 0x16FF6 "Hani",
    of 0x17000 0x18AFF "Tang", of 0x18B00 0x18CD5 "Kits", of 0x18CFF 0x18CFF "Kits",
    of 0x18D00 0x18D1E "Tang", of 0x18D80 0x18DF2 "Tang", of 0x1AFF0 0x1AFF3 "Kana",
    of 0x1AFF5 0x1AFFB "Kana", of 0x1AFFD 0x1AFFE "Kana", of 0x1B000 0x1B000 "Kana",
    of 0x1B001 0x1B11F "Hira", of 0x1B120 0x1B122 "Kana", of 0x1B132 0x1B132 "Hira",
    of 0x1B150 0x1B152 "Hira", of 0x1B155 0x1B155 "Kana", of 0x1B164 0x1B167 "Kana",
    of 0x1B170 0x1B2FB "Nshu", of 0x1BC00 0x1BC6A "Dupl", of 0x1BC70 0x1BC7C "Dupl",
    of 0x1BC80 0x1BC88 "Dupl", of 0x1BC90 0x1BC99 "Dupl", of 0x1BC9C 0x1BC9F "Dupl",
    of 0x1BCA0 0x1BCA3 "Zyyy", of 0x1CC00 0x1CCFC "Zyyy", of 0x1CD00 0x1CEB3 "Zyyy",
    of 0x1CEBA 0x1CED0 "Zyyy", of 0x1CEE0 0x1CEF0 "Zyyy", of 0x1CF00 0x1CF2D "Zinh",
    of 0x1CF30 0x1CF46 "Zinh", of 0x1CF50 0x1CFC3 "Zyyy", of 0x1D000 0x1D0F5 "Zyyy",
    of 0x1D100 0x1D126 "Zyyy", of 0x1D129 0x1D166 "Zyyy", of 0x1D167 0x1D169 "Zinh",
    of 0x1D16A 0x1D17A "Zyyy", of 0x1D17B 0x1D182 "Zinh", of 0x1D183 0x1D184 "Zyyy",
    of 0x1D185 0x1D18B "Zinh", of 0x1D18C 0x1D1A9 "Zyyy", of 0x1D1AA 0x1D1AD "Zinh",
    of 0x1D1AE 0x1D1EA "Zyyy", of 0x1D200 0x1D245 "Grek", of 0x1D2C0 0x1D2D3 "Zyyy",
    of 0x1D2E0 0x1D2F3 "Zyyy", of 0x1D300 0x1D356 "Zyyy", of 0x1D360 0x1D378 "Zyyy",
    of 0x1D400 0x1D454 "Zyyy", of 0x1D456 0x1D49C "Zyyy", of 0x1D49E 0x1D49F "Zyyy",
    of 0x1D4A2 0x1D4A2 "Zyyy", of 0x1D4A5 0x1D4A6 "Zyyy", of 0x1D4A9 0x1D4AC "Zyyy",
    of 0x1D4AE 0x1D4B9 "Zyyy", of 0x1D4BB 0x1D4BB "Zyyy", of 0x1D4BD 0x1D4C3 "Zyyy",
    of 0x1D4C5 0x1D505 "Zyyy", of 0x1D507 0x1D50A "Zyyy", of 0x1D50D 0x1D514 "Zyyy",
    of 0x1D516 0x1D51C "Zyyy", of 0x1D51E 0x1D539 "Zyyy", of 0x1D53B 0x1D53E "Zyyy",
    of 0x1D540 0x1D544 "Zyyy", of 0x1D546 0x1D546 "Zyyy", of 0x1D54A 0x1D550 "Zyyy",
    of 0x1D552 0x1D6A5 "Zyyy", of 0x1D6A8 0x1D7CB "Zyyy", of 0x1D7CE 0x1D7FF "Zyyy",
    of 0x1D800 0x1DA8B "Sgnw", of 0x1DA9B 0x1DA9F "Sgnw", of 0x1DAA1 0x1DAAF "Sgnw",
    of 0x1DF00 0x1DF1E "Latn", of 0x1DF25 0x1DF2A "Latn", of 0x1E000 0x1E006 "Glag",
    of 0x1E008 0x1E018 "Glag", of 0x1E01B 0x1E021 "Glag", of 0x1E023 0x1E024 "Glag",
    of 0x1E026 0x1E02A "Glag", of 0x1E030 0x1E06D "Cyrl", of 0x1E08F 0x1E08F "Cyrl",
    of 0x1E100 0x1E12C "Hmnp", of 0x1E130 0x1E13D "Hmnp", of 0x1E140 0x1E149 "Hmnp",
    of 0x1E14E 0x1E14F "Hmnp", of 0x1E290 0x1E2AE "Toto", of 0x1E2C0 0x1E2F9 "Wcho",
    of 0x1E2FF 0x1E2FF "Wcho", of 0x1E4D0 0x1E4F9 "Nagm", of 0x1E5D0 0x1E5FA "Onao",
    of 0x1E5FF 0x1E5FF "Onao", of 0x1E6C0 0x1E6DE "Tayo", of 0x1E6E0 0x1E6F5 "Tayo",
    of 0x1E6FE 0x1E6FF "Tayo", of 0x1E7E0 0x1E7E6 "Ethi", of 0x1E7E8 0x1E7EB "Ethi",
    of 0x1E7ED 0x1E7EE "Ethi", of 0x1E7F0 0x1E7FE "Ethi", of 0x1E800 0x1E8C4 "Mend",
    of 0x1E8C7 0x1E8D6 "Mend", of 0x1E900 0x1E94B "Adlm", of 0x1E950 0x1E959 "Adlm",
    of 0x1E95E 0x1E95F "Adlm", of 0x1EC71 0x1ECB4 "Zyyy", of 0x1ED01 0x1ED3D "Zyyy",
    of 0x1EE00 0x1EE03 "Arab", of 0x1EE05 0x1EE1F "Arab", of 0x1EE21 0x1EE22 "Arab",
    of 0x1EE24 0x1EE24 "Arab", of 0x1EE27 0x1EE27 "Arab", of 0x1EE29 0x1EE32 "Arab",
    of 0x1EE34 0x1EE37 "Arab", of 0x1EE39 0x1EE39 "Arab", of 0x1EE3B 0x1EE3B "Arab",
    of 0x1EE42 0x1EE42 "Arab", of 0x1EE47 0x1EE47 "Arab", of 0x1EE49 0x1EE49 "Arab",
    of 0x1EE4B 0x1EE4B "Arab", of 0x1EE4D 0x1EE4F "Arab", of 0x1EE51 0x1EE52 "Arab",
    of 0x1EE54 0x1EE54 "Arab", of 0x1EE57 0x1EE57 "Arab", of 0x1EE59 0x1EE59 "Arab",
    of 0x1EE5B 0x1EE5B "Arab", of 0x1EE5D 0x1EE5D "Arab", of 0x1EE5F 0x1EE5F "Arab",
    of 0x1EE61 0x1EE62 "Arab", of 0x1EE64 0x1EE64 "Arab", of 0x1EE67 0x1EE6A "Arab",
    of 0x1EE6C 0x1EE72 "Arab", of 0x1EE74 0x1EE77 "Arab", of 0x1EE79 0x1EE7C "Arab",
    of 0x1EE7E 0x1EE7E "Arab", of 0x1EE80 0x1EE89 "Arab", of 0x1EE8B 0x1EE9B "Arab",
    of 0x1EEA1 0x1EEA3 "Arab", of 0x1EEA5 0x1EEA9 "Arab", of 0x1EEAB 0x1EEBB "Arab",
    of 0x1EEF0 0x1EEF1 "Arab", of 0x1F000 0x1F02B "Zyyy", of 0x1F030 0x1F093 "Zyyy",
    of 0x1F0A0 0x1F0AE "Zyyy", of 0x1F0B1 0x1F0BF "Zyyy", of 0x1F0C1 0x1F0CF "Zyyy",
    of 0x1F0D1 0x1F0F5 "Zyyy", of 0x1F100 0x1F1AD "Zyyy", of 0x1F1E6 0x1F1FF "Zyyy",
    of 0x1F200 0x1F200 "Hira", of 0x1F201 0x1F202 "Zyyy", of 0x1F210 0x1F23B "Zyyy",
    of 0x1F240 0x1F248 "Zyyy", of 0x1F250 0x1F251 "Zyyy", of 0x1F260 0x1F265 "Zyyy",
    of 0x1F300 0x1F6D8 "Zyyy", of 0x1F6DC 0x1F6EC "Zyyy", of 0x1F6F0 0x1F6FC "Zyyy",
    of 0x1F700 0x1F7D9 "Zyyy", of 0x1F7E0 0x1F7EB "Zyyy", of 0x1F7F0 0x1F7F0 "Zyyy",
    of 0x1F800 0x1F80B "Zyyy", of 0x1F810 0x1F847 "Zyyy", of 0x1F850 0x1F859 "Zyyy",
    of 0x1F860 0x1F887 "Zyyy", of 0x1F890 0x1F8AD "Zyyy", of 0x1F8B0 0x1F8BB "Zyyy",
    of 0x1F8C0 0x1F8C1 "Zyyy", of 0x1F8D0 0x1F8D8 "Zyyy", of 0x1F900 0x1FA57 "Zyyy",
    of 0x1FA60 0x1FA6D "Zyyy", of 0x1FA70 0x1FA7C "Zyyy", of 0x1FA80 0x1FA8A "Zyyy",
    of 0x1FA8E 0x1FAC6 "Zyyy", of 0x1FAC8 0x1FAC8 "Zyyy", of 0x1FACD 0x1FADC "Zyyy",
    of 0x1FADF 0x1FAEA "Zyyy", of 0x1FAEF 0x1FAF8 "Zyyy", of 0x1FB00 0x1FB92 "Zyyy",
    of 0x1FB94 0x1FBFA "Zyyy", of 0x20000 0x2A6DF "Hani", of 0x2A700 0x2B81D "Hani",
    of 0x2B820 0x2CEAD "Hani", of 0x2CEB0 0x2EBE0 "Hani", of 0x2EBF0 0x2EE5D "Hani",
    of 0x2F800 0x2FA1D "Hani", of 0x30000 0x3134A "Hani", of 0x31350 0x33479 "Hani",
    of 0xE0001 0xE0001 "Zyyy", of 0xE0020 0xE007F "Zyyy", of 0xE0100 0xE01EF "Zinh"]

/-- A span that some scripts share. -/
def shared (first last : Nat) (codes : List String) : Span (List String) :=
  ⟨first, last, codes⟩

/-- Characters that several scripts use, or one other than their own. -/
def sharedTable : Array (Span (List String)) := #[
    shared 0x00B7 0x00B7 ["Avst", "Cari", "Copt", "Dupl", "Elba", "Geor", "Glag", "Gong", "Goth",
      "Grek", "Hani", "Latn", "Lydi", "Mahj", "Perm", "Shaw"],
    shared 0x02BC 0x02BC ["Beng", "Cyrl", "Deva", "Latn", "Lisu", "Thai", "Toto"],
    shared 0x02C7 0x02C7 ["Bopo", "Latn"],
    shared 0x02C9 0x02CB ["Bopo", "Latn"],
    shared 0x02CD 0x02CD ["Latn", "Lisu"],
    shared 0x02D7 0x02D7 ["Latn", "Thai"],
    shared 0x02D9 0x02D9 ["Bopo", "Latn"],
    shared 0x0300 0x0300 ["Cher", "Copt", "Cyrl", "Grek", "Latn", "Perm", "Sunu", "Tale"],
    shared 0x0301 0x0301 ["Cher", "Cyrl", "Grek", "Latn", "Osge", "Sunu", "Tale", "Todr"],
    shared 0x0302 0x0302 ["Cher", "Cyrl", "Latn", "Tfng"],
    shared 0x0303 0x0303 ["Glag", "Latn", "Sunu", "Syrc", "Thai"],
    shared 0x0304 0x0304 ["Aghb", "Cher", "Copt", "Cyrl", "Goth", "Grek", "Latn", "Osge", "Syrc",
      "Tfng", "Todr"],
    shared 0x0305 0x0305 ["Copt", "Elba", "Glag", "Goth", "Kana", "Latn"],
    shared 0x0306 0x0306 ["Cyrl", "Grek", "Latn", "Perm", "Tfng"],
    shared 0x0307 0x0307 ["Copt", "Dupl", "Hebr", "Latn", "Perm", "Syrc", "Tale", "Tfng", "Todr"],
    shared 0x0308 0x0308 ["Armn", "Cyrl", "Dupl", "Goth", "Grek", "Hebr", "Latn", "Perm", "Syrc",
      "Tale", "Tfng"],
    shared 0x0309 0x0309 ["Latn", "Tfng"],
    shared 0x030A 0x030A ["Dupl", "Latn", "Syrc"],
    shared 0x030B 0x030B ["Cher", "Cyrl", "Latn", "Osge"],
    shared 0x030C 0x030C ["Cher", "Latn", "Tale"],
    shared 0x030D 0x030D ["Latn", "Sunu"],
    shared 0x030E 0x030E ["Ethi", "Latn"],
    shared 0x0310 0x0310 ["Latn", "Sunu"],
    shared 0x0311 0x0311 ["Cyrl", "Latn", "Todr"],
    shared 0x0313 0x0313 ["Grek", "Latn", "Perm", "Todr"],
    shared 0x0323 0x0323 ["Cher", "Dupl", "Kana", "Latn", "Syrc", "Tfng"],
    shared 0x0324 0x0324 ["Cher", "Dupl", "Latn", "Syrc"],
    shared 0x0325 0x0325 ["Latn", "Syrc"],
    shared 0x032D 0x032D ["Latn", "Sunu", "Syrc"],
    shared 0x032E 0x032E ["Latn", "Syrc"],
    shared 0x0330 0x0330 ["Cher", "Latn", "Syrc"],
    shared 0x0331 0x0331 ["Aghb", "Cher", "Goth", "Latn", "Sunu", "Syrc", "Thai"],
    shared 0x0342 0x0342 ["Grek"],
    shared 0x0345 0x0345 ["Grek"],
    shared 0x0358 0x0358 ["Latn", "Osge"],
    shared 0x035E 0x035E ["Aghb", "Latn", "Todr"],
    shared 0x0363 0x036F ["Latn"],
    shared 0x0374 0x0375 ["Copt", "Grek"],
    shared 0x0483 0x0483 ["Cyrl", "Perm"],
    shared 0x0484 0x0484 ["Cyrl", "Glag"],
    shared 0x0485 0x0486 ["Cyrl", "Latn"],
    shared 0x0487 0x0487 ["Cyrl", "Glag"],
    shared 0x0589 0x0589 ["Armn", "Geor", "Glag"],
    shared 0x060C 0x060C ["Arab", "Gara", "Nkoo", "Rohg", "Syrc", "Thaa", "Yezi"],
    shared 0x061B 0x061B ["Arab", "Gara", "Nkoo", "Rohg", "Syrc", "Thaa", "Yezi"],
    shared 0x061C 0x061C ["Arab", "Syrc", "Thaa"],
    shared 0x061F 0x061F ["Adlm", "Arab", "Gara", "Nkoo", "Rohg", "Syrc", "Thaa", "Yezi"],
    shared 0x0640 0x0640 ["Adlm", "Arab", "Mand", "Mani", "Ougr", "Phlp", "Rohg", "Sogd", "Syrc"],
    shared 0x064B 0x0655 ["Arab", "Syrc"],
    shared 0x0660 0x0669 ["Arab", "Thaa", "Yezi"],
    shared 0x0670 0x0670 ["Arab", "Syrc"],
    shared 0x06D4 0x06D4 ["Arab", "Rohg"],
    shared 0x0951 0x0951 ["Beng", "Deva", "Gran", "Gujr", "Guru", "Knda", "Latn", "Mlym", "Nand",
      "Newa", "Orya", "Shrd", "Taml", "Telu", "Tirh"],
    shared 0x0952 0x0952 ["Beng", "Deva", "Gran", "Gujr", "Guru", "Knda", "Latn", "Mlym", "Newa",
      "Orya", "Taml", "Telu", "Tirh"],
    shared 0x0964 0x0964 ["Beng", "Deva", "Dogr", "Gong", "Gonm", "Gran", "Gujr", "Guru", "Knda",
      "Mahj", "Mlym", "Nand", "Onao", "Orya", "Sind", "Sinh", "Sylo", "Takr", "Taml", "Telu",
      "Tirh"],
    shared 0x0965 0x0965 ["Beng", "Deva", "Dogr", "Gong", "Gonm", "Gran", "Gujr", "Gukh", "Guru",
      "Knda", "Limb", "Mahj", "Mlym", "Nand", "Onao", "Orya", "Sind", "Sinh", "Sylo", "Takr",
      "Taml", "Telu", "Tirh"],
    shared 0x0966 0x096F ["Deva", "Dogr", "Kthi", "Mahj"],
    shared 0x09E6 0x09EF ["Beng", "Cakm", "Sylo"],
    shared 0x0A66 0x0A6F ["Guru", "Mult"],
    shared 0x0AE6 0x0AEF ["Gujr", "Khoj"],
    shared 0x0BE6 0x0BF3 ["Gran", "Taml"],
    shared 0x0CE6 0x0CEF ["Knda", "Nand", "Tutg"],
    shared 0x1040 0x1049 ["Cakm", "Mymr", "Tale"],
    shared 0x10FB 0x10FB ["Geor", "Glag", "Latn"],
    shared 0x16EB 0x16ED ["Runr"],
    shared 0x1735 0x1736 ["Buhd", "Hano", "Tagb", "Tglg"],
    shared 0x1802 0x1803 ["Mong", "Phag"],
    shared 0x1805 0x1805 ["Mong", "Phag"],
    shared 0x1CD0 0x1CD0 ["Beng", "Deva", "Gran", "Knda"],
    shared 0x1CD1 0x1CD1 ["Deva"],
    shared 0x1CD2 0x1CD2 ["Beng", "Deva", "Gran", "Knda"],
    shared 0x1CD3 0x1CD3 ["Deva", "Gran", "Knda"],
    shared 0x1CD4 0x1CD4 ["Deva"],
    shared 0x1CD5 0x1CD5 ["Beng", "Deva", "Newa", "Telu", "Tirh"],
    shared 0x1CD6 0x1CD6 ["Beng", "Deva", "Telu"],
    shared 0x1CD7 0x1CD7 ["Deva", "Newa", "Shrd"],
    shared 0x1CD8 0x1CD8 ["Beng", "Deva", "Newa", "Telu"],
    shared 0x1CD9 0x1CD9 ["Deva", "Shrd"],
    shared 0x1CDA 0x1CDA ["Deva", "Knda", "Mlym", "Orya", "Taml", "Telu"],
    shared 0x1CDB 0x1CDB ["Deva"],
    shared 0x1CDC 0x1CDD ["Deva", "Shrd"],
    shared 0x1CDE 0x1CDF ["Deva"],
    shared 0x1CE0 0x1CE0 ["Deva", "Shrd"],
    shared 0x1CE1 0x1CE1 ["Beng", "Deva"],
    shared 0x1CE2 0x1CE2 ["Deva", "Newa", "Tirh"],
    shared 0x1CE3 0x1CE8 ["Deva"],
    shared 0x1CE9 0x1CE9 ["Deva", "Nand", "Newa"],
    shared 0x1CEA 0x1CEA ["Beng", "Deva", "Shrd"],
    shared 0x1CEB 0x1CEB ["Deva", "Newa"],
    shared 0x1CEC 0x1CEC ["Deva"],
    shared 0x1CED 0x1CED ["Beng", "Deva", "Newa", "Shrd"],
    shared 0x1CEE 0x1CF1 ["Deva"],
    shared 0x1CF2 0x1CF2 ["Beng", "Deva", "Gran", "Knda", "Mlym", "Nand", "Orya", "Sinh", "Telu",
      "Tirh", "Tutg"],
    shared 0x1CF3 0x1CF3 ["Deva", "Gran"],
    shared 0x1CF4 0x1CF4 ["Deva", "Gran", "Knda", "Tutg"],
    shared 0x1CF5 0x1CF6 ["Beng", "Deva"],
    shared 0x1CF7 0x1CF7 ["Beng"],
    shared 0x1CF8 0x1CF9 ["Deva", "Gran"],
    shared 0x1CFA 0x1CFA ["Nand"],
    shared 0x1DC0 0x1DC1 ["Grek"],
    shared 0x1DF8 0x1DF8 ["Cyrl", "Latn", "Syrc"],
    shared 0x1DFA 0x1DFA ["Syrc"],
    shared 0x202F 0x202F ["Latn", "Mong", "Phag"],
    shared 0x204F 0x204F ["Adlm", "Arab"],
    shared 0x205A 0x205A ["Cari", "Geor", "Glag", "Hung", "Lyci", "Orkh"],
    shared 0x205D 0x205D ["Cari", "Grek", "Hung", "Mero"],
    shared 0x20F0 0x20F0 ["Deva", "Gran", "Latn"],
    shared 0x2E17 0x2E17 ["Copt", "Latn"],
    shared 0x2E30 0x2E30 ["Avst", "Orkh"],
    shared 0x2E31 0x2E31 ["Avst", "Cari", "Geor", "Hung", "Kthi", "Lydi", "Samr"],
    shared 0x2E3C 0x2E3C ["Dupl"],
    shared 0x2E41 0x2E41 ["Adlm", "Arab", "Hung"],
    shared 0x2E43 0x2E43 ["Cyrl", "Glag"],
    shared 0x2FF0 0x2FFF ["Hani", "Tang"],
    shared 0x3001 0x3001 ["Bopo", "Hang", "Hani", "Hira", "Kana", "Mong", "Yiii"],
    shared 0x3002 0x3002 ["Bopo", "Hang", "Hani", "Hira", "Kana", "Mong", "Phag", "Yiii"],
    shared 0x3003 0x3003 ["Bopo", "Hang", "Hani", "Hira", "Kana"],
    shared 0x3006 0x3006 ["Hani"],
    shared 0x3008 0x3009 ["Bopo", "Hang", "Hani", "Hira", "Kana", "Mong", "Tibt", "Yiii"],
    shared 0x300A 0x300B ["Bopo", "Hang", "Hani", "Hira", "Kana", "Lisu", "Mong", "Tibt", "Yiii"],
    shared 0x300C 0x3011 ["Bopo", "Hang", "Hani", "Hira", "Kana", "Yiii"],
    shared 0x3013 0x3013 ["Bopo", "Hang", "Hani", "Hira", "Kana"],
    shared 0x3014 0x301B ["Bopo", "Hang", "Hani", "Hira", "Kana", "Yiii"],
    shared 0x301C 0x301F ["Bopo", "Hang", "Hani", "Hira", "Kana"],
    shared 0x302A 0x302D ["Bopo", "Hani"],
    shared 0x3030 0x3030 ["Bopo", "Hang", "Hani", "Hira", "Kana"],
    shared 0x3031 0x3035 ["Hira", "Kana"],
    shared 0x3037 0x3037 ["Bopo", "Hang", "Hani", "Hira", "Kana"],
    shared 0x303C 0x303D ["Hani", "Hira", "Kana"],
    shared 0x303E 0x303F ["Hani"],
    shared 0x3099 0x309C ["Hira", "Kana"],
    shared 0x30A0 0x30A0 ["Hira", "Kana"],
    shared 0x30FB 0x30FB ["Bopo", "Hang", "Hani", "Hira", "Kana", "Yiii"],
    shared 0x30FC 0x30FC ["Hira", "Kana"],
    shared 0x3190 0x319F ["Hani"],
    shared 0x31C0 0x31E5 ["Hani"],
    shared 0x31EF 0x31EF ["Hani", "Tang"],
    shared 0x3220 0x3247 ["Hani"],
    shared 0x3280 0x32B0 ["Hani"],
    shared 0x32C0 0x32CB ["Hani"],
    shared 0x32FF 0x32FF ["Hani"],
    shared 0x3358 0x3370 ["Hani"],
    shared 0x337B 0x337F ["Hani"],
    shared 0x33E0 0x33FE ["Hani"],
    shared 0xA66F 0xA66F ["Cyrl", "Glag"],
    shared 0xA700 0xA707 ["Hani", "Latn"],
    shared 0xA830 0xA832 ["Deva", "Dogr", "Gujr", "Guru", "Khoj", "Knda", "Kthi", "Mahj", "Mlym",
      "Modi", "Nand", "Shrd", "Sind", "Takr", "Tirh", "Tutg"],
    shared 0xA833 0xA835 ["Deva", "Dogr", "Gujr", "Guru", "Khoj", "Knda", "Kthi", "Mahj", "Modi",
      "Nand", "Shrd", "Sind", "Takr", "Tirh", "Tutg"],
    shared 0xA836 0xA837 ["Deva", "Dogr", "Gujr", "Guru", "Khoj", "Kthi", "Mahj", "Modi", "Sind",
      "Takr", "Tirh"],
    shared 0xA838 0xA838 ["Deva", "Dogr", "Gujr", "Guru", "Khoj", "Kthi", "Mahj", "Modi", "Shrd",
      "Sind", "Takr", "Tirh"],
    shared 0xA839 0xA839 ["Deva", "Dogr", "Gujr", "Guru", "Khoj", "Kthi", "Mahj", "Modi", "Sind",
      "Takr", "Tirh"],
    shared 0xA8F1 0xA8F1 ["Beng", "Deva", "Tutg"],
    shared 0xA8F3 0xA8F3 ["Deva", "Taml"],
    shared 0xA92E 0xA92E ["Kali", "Latn", "Mymr"],
    shared 0xA9CF 0xA9CF ["Bugi", "Java"],
    shared 0xFD3E 0xFD3F ["Arab", "Nkoo"],
    shared 0xFDF2 0xFDF2 ["Arab", "Thaa"],
    shared 0xFDFD 0xFDFD ["Arab", "Thaa"],
    shared 0xFE45 0xFE46 ["Bopo", "Hang", "Hani", "Hira", "Kana"],
    shared 0xFF61 0xFF65 ["Bopo", "Hang", "Hani", "Hira", "Kana", "Yiii"],
    shared 0xFF70 0xFF70 ["Hira", "Kana"],
    shared 0xFF9E 0xFF9F ["Hira", "Kana"],
    shared 0x10100 0x10101 ["Cpmn", "Cprt", "Linb"],
    shared 0x10102 0x10102 ["Cprt", "Linb"],
    shared 0x10107 0x10133 ["Cprt", "Lina", "Linb"],
    shared 0x10137 0x1013F ["Cprt", "Linb"],
    shared 0x102E0 0x102FB ["Arab", "Copt"],
    shared 0x10AF2 0x10AF2 ["Mani", "Ougr"],
    shared 0x11301 0x11301 ["Gran", "Taml"],
    shared 0x11303 0x11303 ["Gran", "Taml"],
    shared 0x1133B 0x1133C ["Gran", "Taml"],
    shared 0x11FD0 0x11FD1 ["Gran", "Taml"],
    shared 0x11FD3 0x11FD3 ["Gran", "Taml"],
    shared 0x1BCA0 0x1BCA3 ["Dupl"],
    shared 0x1D360 0x1D371 ["Hani"],
    shared 0x1F250 0x1F251 ["Hani"]]

/-- The names of each script, in capitals and without separators, after its code. -/
def names : List (String × List String) := [
    ("Adlm", ["ADLM", "ADLAM"]), ("Aghb", ["AGHB", "CAUCASIANALBANIAN"]), ("Ahom", ["AHOM"]),
    ("Arab", ["ARAB", "ARABIC"]), ("Armi", ["ARMI", "IMPERIALARAMAIC"]),
    ("Armn", ["ARMN", "ARMENIAN"]), ("Avst", ["AVST", "AVESTAN"]), ("Bali", ["BALI", "BALINESE"]),
    ("Bamu", ["BAMU", "BAMUM"]), ("Bass", ["BASS", "BASSAVAH"]), ("Batk", ["BATK", "BATAK"]),
    ("Beng", ["BENG", "BENGALI"]), ("Berf", ["BERF", "BERIAERFE"]), ("Bhks", ["BHKS", "BHAIKSUKI"]),
    ("Bopo", ["BOPO", "BOPOMOFO"]), ("Brah", ["BRAH", "BRAHMI"]), ("Brai", ["BRAI", "BRAILLE"]),
    ("Bugi", ["BUGI", "BUGINESE"]), ("Buhd", ["BUHD", "BUHID"]), ("Cakm", ["CAKM", "CHAKMA"]),
    ("Cans", ["CANS", "CANADIANABORIGINAL"]), ("Cari", ["CARI", "CARIAN"]), ("Cham", ["CHAM"]),
    ("Cher", ["CHER", "CHEROKEE"]), ("Chrs", ["CHRS", "CHORASMIAN"]),
    ("Copt", ["COPT", "COPTIC", "QAAC"]), ("Cpmn", ["CPMN", "CYPROMINOAN"]),
    ("Cprt", ["CPRT", "CYPRIOT"]), ("Cyrl", ["CYRL", "CYRILLIC"]), ("Deva", ["DEVA", "DEVANAGARI"]),
    ("Diak", ["DIAK", "DIVESAKURU"]), ("Dogr", ["DOGR", "DOGRA"]), ("Dsrt", ["DSRT", "DESERET"]),
    ("Dupl", ["DUPL", "DUPLOYAN"]), ("Egyp", ["EGYP", "EGYPTIANHIEROGLYPHS"]),
    ("Elba", ["ELBA", "ELBASAN"]), ("Elym", ["ELYM", "ELYMAIC"]), ("Ethi", ["ETHI", "ETHIOPIC"]),
    ("Gara", ["GARA", "GARAY"]), ("Geor", ["GEOR", "GEORGIAN"]), ("Glag", ["GLAG", "GLAGOLITIC"]),
    ("Gong", ["GONG", "GUNJALAGONDI"]), ("Gonm", ["GONM", "MASARAMGONDI"]),
    ("Goth", ["GOTH", "GOTHIC"]), ("Gran", ["GRAN", "GRANTHA"]), ("Grek", ["GREK", "GREEK"]),
    ("Gujr", ["GUJR", "GUJARATI"]), ("Gukh", ["GUKH", "GURUNGKHEMA"]),
    ("Guru", ["GURU", "GURMUKHI"]), ("Hang", ["HANG", "HANGUL"]), ("Hani", ["HANI", "HAN"]),
    ("Hano", ["HANO", "HANUNOO"]), ("Hatr", ["HATR", "HATRAN"]), ("Hebr", ["HEBR", "HEBREW"]),
    ("Hira", ["HIRA", "HIRAGANA"]), ("Hluw", ["HLUW", "ANATOLIANHIEROGLYPHS"]),
    ("Hmng", ["HMNG", "PAHAWHHMONG"]), ("Hmnp", ["HMNP", "NYIAKENGPUACHUEHMONG"]),
    ("Hrkt", ["HRKT", "KATAKANAORHIRAGANA"]), ("Hung", ["HUNG", "OLDHUNGARIAN"]),
    ("Ital", ["ITAL", "OLDITALIC"]), ("Java", ["JAVA", "JAVANESE"]), ("Kali", ["KALI", "KAYAHLI"]),
    ("Kana", ["KANA", "KATAKANA"]), ("Kawi", ["KAWI"]), ("Khar", ["KHAR", "KHAROSHTHI"]),
    ("Khmr", ["KHMR", "KHMER"]), ("Khoj", ["KHOJ", "KHOJKI"]),
    ("Kits", ["KITS", "KHITANSMALLSCRIPT"]), ("Knda", ["KNDA", "KANNADA"]),
    ("Krai", ["KRAI", "KIRATRAI"]), ("Kthi", ["KTHI", "KAITHI"]), ("Lana", ["LANA", "TAITHAM"]),
    ("Laoo", ["LAOO", "LAO"]), ("Latn", ["LATN", "LATIN"]), ("Lepc", ["LEPC", "LEPCHA"]),
    ("Limb", ["LIMB", "LIMBU"]), ("Lina", ["LINA", "LINEARA"]), ("Linb", ["LINB", "LINEARB"]),
    ("Lisu", ["LISU"]), ("Lyci", ["LYCI", "LYCIAN"]), ("Lydi", ["LYDI", "LYDIAN"]),
    ("Mahj", ["MAHJ", "MAHAJANI"]), ("Maka", ["MAKA", "MAKASAR"]), ("Mand", ["MAND", "MANDAIC"]),
    ("Mani", ["MANI", "MANICHAEAN"]), ("Marc", ["MARC", "MARCHEN"]),
    ("Medf", ["MEDF", "MEDEFAIDRIN"]), ("Mend", ["MEND", "MENDEKIKAKUI"]),
    ("Merc", ["MERC", "MEROITICCURSIVE"]), ("Mero", ["MERO", "MEROITICHIEROGLYPHS"]),
    ("Mlym", ["MLYM", "MALAYALAM"]), ("Modi", ["MODI"]), ("Mong", ["MONG", "MONGOLIAN"]),
    ("Mroo", ["MROO", "MRO"]), ("Mtei", ["MTEI", "MEETEIMAYEK"]), ("Mult", ["MULT", "MULTANI"]),
    ("Mymr", ["MYMR", "MYANMAR"]), ("Nagm", ["NAGM", "NAGMUNDARI"]),
    ("Nand", ["NAND", "NANDINAGARI"]), ("Narb", ["NARB", "OLDNORTHARABIAN"]),
    ("Nbat", ["NBAT", "NABATAEAN"]), ("Newa", ["NEWA"]), ("Nkoo", ["NKOO", "NKO"]),
    ("Nshu", ["NSHU", "NUSHU"]), ("Ogam", ["OGAM", "OGHAM"]), ("Olck", ["OLCK", "OLCHIKI"]),
    ("Onao", ["ONAO", "OLONAL"]), ("Orkh", ["ORKH", "OLDTURKIC"]), ("Orya", ["ORYA", "ORIYA"]),
    ("Osge", ["OSGE", "OSAGE"]), ("Osma", ["OSMA", "OSMANYA"]), ("Ougr", ["OUGR", "OLDUYGHUR"]),
    ("Palm", ["PALM", "PALMYRENE"]), ("Pauc", ["PAUC", "PAUCINHAU"]),
    ("Perm", ["PERM", "OLDPERMIC"]), ("Phag", ["PHAG", "PHAGSPA"]),
    ("Phli", ["PHLI", "INSCRIPTIONALPAHLAVI"]), ("Phlp", ["PHLP", "PSALTERPAHLAVI"]),
    ("Phnx", ["PHNX", "PHOENICIAN"]), ("Plrd", ["PLRD", "MIAO"]),
    ("Prti", ["PRTI", "INSCRIPTIONALPARTHIAN"]), ("Rjng", ["RJNG", "REJANG"]),
    ("Rohg", ["ROHG", "HANIFIROHINGYA"]), ("Runr", ["RUNR", "RUNIC"]),
    ("Samr", ["SAMR", "SAMARITAN"]), ("Sarb", ["SARB", "OLDSOUTHARABIAN"]),
    ("Saur", ["SAUR", "SAURASHTRA"]), ("Sgnw", ["SGNW", "SIGNWRITING"]),
    ("Shaw", ["SHAW", "SHAVIAN"]), ("Shrd", ["SHRD", "SHARADA"]), ("Sidd", ["SIDD", "SIDDHAM"]),
    ("Sidt", ["SIDT", "SIDETIC"]), ("Sind", ["SIND", "KHUDAWADI"]), ("Sinh", ["SINH", "SINHALA"]),
    ("Sogd", ["SOGD", "SOGDIAN"]), ("Sogo", ["SOGO", "OLDSOGDIAN"]),
    ("Sora", ["SORA", "SORASOMPENG"]), ("Soyo", ["SOYO", "SOYOMBO"]),
    ("Sund", ["SUND", "SUNDANESE"]), ("Sunu", ["SUNU", "SUNUWAR"]),
    ("Sylo", ["SYLO", "SYLOTINAGRI"]), ("Syrc", ["SYRC", "SYRIAC"]), ("Tagb", ["TAGB", "TAGBANWA"]),
    ("Takr", ["TAKR", "TAKRI"]), ("Tale", ["TALE", "TAILE"]), ("Talu", ["TALU", "NEWTAILUE"]),
    ("Taml", ["TAML", "TAMIL"]), ("Tang", ["TANG", "TANGUT"]), ("Tavt", ["TAVT", "TAIVIET"]),
    ("Tayo", ["TAYO", "TAIYO"]), ("Telu", ["TELU", "TELUGU"]), ("Tfng", ["TFNG", "TIFINAGH"]),
    ("Tglg", ["TGLG", "TAGALOG"]), ("Thaa", ["THAA", "THAANA"]), ("Thai", ["THAI"]),
    ("Tibt", ["TIBT", "TIBETAN"]), ("Tirh", ["TIRH", "TIRHUTA"]), ("Tnsa", ["TNSA", "TANGSA"]),
    ("Todr", ["TODR", "TODHRI"]), ("Tols", ["TOLS", "TOLONGSIKI"]), ("Toto", ["TOTO"]),
    ("Tutg", ["TUTG", "TULUTIGALARI"]), ("Ugar", ["UGAR", "UGARITIC"]), ("Vaii", ["VAII", "VAI"]),
    ("Vith", ["VITH", "VITHKUQI"]), ("Wara", ["WARA", "WARANGCITI"]), ("Wcho", ["WCHO", "WANCHO"]),
    ("Xpeo", ["XPEO", "OLDPERSIAN"]), ("Xsux", ["XSUX", "CUNEIFORM"]), ("Yezi", ["YEZI", "YEZIDI"]),
    ("Yiii", ["YIII", "YI"]), ("Zanb", ["ZANB", "ZANABAZARSQUARE"]),
    ("Zinh", ["ZINH", "INHERITED", "QAAI"]), ("Zyyy", ["ZYYY", "COMMON"]),
    ("Zzzz", ["ZZZZ", "UNKNOWN"])]

end Script

end Text

end Subword
