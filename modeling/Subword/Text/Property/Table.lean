import Subword.Text.Span

/-!
# Properties of characters, as tables

Each table lists the code points that have one property, or those that have it
without belonging to the categories that bring it along.
-/

namespace Subword

namespace Text

namespace Property

/-- Characters that are mirrored in text from right to left. -/
def bidiMirroredTable : Array (Span Unit) := #[
    .within 0x0028 0x0029, .within 0x003C 0x003C, .within 0x003E 0x003E, .within 0x005B 0x005B,
    .within 0x005D 0x005D, .within 0x007B 0x007B, .within 0x007D 0x007D, .within 0x00AB 0x00AB,
    .within 0x00BB 0x00BB, .within 0x0F3A 0x0F3D, .within 0x169B 0x169C, .within 0x2039 0x203A,
    .within 0x2045 0x2046, .within 0x207D 0x207E, .within 0x208D 0x208E, .within 0x2140 0x2140,
    .within 0x2201 0x2204, .within 0x2208 0x220D, .within 0x2211 0x2211, .within 0x2215 0x2216,
    .within 0x221A 0x221D, .within 0x221F 0x2222, .within 0x2224 0x2224, .within 0x2226 0x2226,
    .within 0x222B 0x2233, .within 0x2239 0x2239, .within 0x223B 0x224C, .within 0x2252 0x2255,
    .within 0x225F 0x2260, .within 0x2262 0x2262, .within 0x2264 0x226B, .within 0x226D 0x228C,
    .within 0x228F 0x2292, .within 0x2298 0x2298, .within 0x22A2 0x22A3, .within 0x22A6 0x22B8,
    .within 0x22BE 0x22BF, .within 0x22C9 0x22CD, .within 0x22D0 0x22D1, .within 0x22D6 0x22ED,
    .within 0x22F0 0x22FF, .within 0x2308 0x230B, .within 0x2320 0x2321, .within 0x2329 0x232A,
    .within 0x2768 0x2775, .within 0x27C0 0x27C0, .within 0x27C3 0x27C6, .within 0x27C8 0x27C9,
    .within 0x27CB 0x27CD, .within 0x27D3 0x27D6, .within 0x27DC 0x27DE, .within 0x27E2 0x27EF,
    .within 0x2983 0x2998, .within 0x299B 0x29A0, .within 0x29A2 0x29AF, .within 0x29B8 0x29B8,
    .within 0x29C0 0x29C5, .within 0x29C9 0x29C9, .within 0x29CE 0x29D2, .within 0x29D4 0x29D5,
    .within 0x29D8 0x29DC, .within 0x29E1 0x29E1, .within 0x29E3 0x29E5, .within 0x29E8 0x29E9,
    .within 0x29F4 0x29F9, .within 0x29FC 0x29FD, .within 0x2A0A 0x2A1C, .within 0x2A1E 0x2A21,
    .within 0x2A24 0x2A24, .within 0x2A26 0x2A26, .within 0x2A29 0x2A29, .within 0x2A2B 0x2A2E,
    .within 0x2A34 0x2A35, .within 0x2A3C 0x2A3E, .within 0x2A57 0x2A58, .within 0x2A64 0x2A65,
    .within 0x2A6A 0x2A6D, .within 0x2A6F 0x2A70, .within 0x2A73 0x2A74, .within 0x2A79 0x2AA3,
    .within 0x2AA6 0x2AAD, .within 0x2AAF 0x2AD6, .within 0x2ADC 0x2ADC, .within 0x2ADE 0x2ADE,
    .within 0x2AE2 0x2AE6, .within 0x2AEC 0x2AEE, .within 0x2AF3 0x2AF3, .within 0x2AF7 0x2AFB,
    .within 0x2AFD 0x2AFD, .within 0x2BFE 0x2BFE, .within 0x2E02 0x2E05, .within 0x2E09 0x2E0A,
    .within 0x2E0C 0x2E0D, .within 0x2E1C 0x2E1D, .within 0x2E20 0x2E29, .within 0x2E55 0x2E5C,
    .within 0x3008 0x3011, .within 0x3014 0x301B, .within 0xFE59 0xFE5E, .within 0xFE64 0xFE65,
    .within 0xFF08 0xFF09, .within 0xFF1C 0xFF1C, .within 0xFF1E 0xFF1E, .within 0xFF3B 0xFF3B,
    .within 0xFF3D 0xFF3D, .within 0xFF5B 0xFF5B, .within 0xFF5D 0xFF5D, .within 0xFF5F 0xFF60,
    .within 0xFF62 0xFF63, .within 0x1D6DB 0x1D6DB, .within 0x1D715 0x1D715,
    .within 0x1D74F 0x1D74F, .within 0x1D789 0x1D789, .within 0x1D7C3 0x1D7C3]

/-- Dashes and hyphens. -/
def dashTable : Array (Span Unit) := #[
    .within 0x002D 0x002D, .within 0x058A 0x058A, .within 0x05BE 0x05BE, .within 0x1400 0x1400,
    .within 0x1806 0x1806, .within 0x2010 0x2015, .within 0x2053 0x2053, .within 0x207B 0x207B,
    .within 0x208B 0x208B, .within 0x2212 0x2212, .within 0x2E17 0x2E17, .within 0x2E1A 0x2E1A,
    .within 0x2E3A 0x2E3B, .within 0x2E40 0x2E40, .within 0x2E5D 0x2E5D, .within 0x301C 0x301C,
    .within 0x3030 0x3030, .within 0x30A0 0x30A0, .within 0xFE31 0xFE32, .within 0xFE58 0xFE58,
    .within 0xFE63 0xFE63, .within 0xFF0D 0xFF0D, .within 0x10D6E 0x10D6E, .within 0x10EAD 0x10EAD]

/-- Code points that are not shown where they are not supported. -/
def defaultIgnorableTable : Array (Span Unit) := #[
    .within 0x00AD 0x00AD, .within 0x034F 0x034F, .within 0x061C 0x061C, .within 0x115F 0x1160,
    .within 0x17B4 0x17B5, .within 0x180B 0x180F, .within 0x200B 0x200F, .within 0x202A 0x202E,
    .within 0x2060 0x206F, .within 0x3164 0x3164, .within 0xFE00 0xFE0F, .within 0xFEFF 0xFEFF,
    .within 0xFFA0 0xFFA0, .within 0xFFF0 0xFFF8, .within 0x1BCA0 0x1BCA3, .within 0x1D173 0x1D17A,
    .within 0xE0000 0xE0FFF]

/-- Characters whose use is discouraged. -/
def deprecatedTable : Array (Span Unit) := #[
    .within 0x0149 0x0149, .within 0x0673 0x0673, .within 0x0F77 0x0F77, .within 0x0F79 0x0F79,
    .within 0x17A3 0x17A4, .within 0x206A 0x206F, .within 0x2329 0x232A, .within 0xE0001 0xE0001]

/-- Marks and letters that change the sound of another one. -/
def diacriticTable : Array (Span Unit) := #[
    .within 0x005E 0x005E, .within 0x0060 0x0060, .within 0x00A8 0x00A8, .within 0x00AF 0x00AF,
    .within 0x00B4 0x00B4, .within 0x00B7 0x00B8, .within 0x02B0 0x034E, .within 0x0350 0x0357,
    .within 0x035D 0x0362, .within 0x0374 0x0375, .within 0x037A 0x037A, .within 0x0384 0x0385,
    .within 0x0483 0x0487, .within 0x0559 0x0559, .within 0x0591 0x05BD, .within 0x05BF 0x05BF,
    .within 0x05C1 0x05C2, .within 0x05C4 0x05C5, .within 0x05C7 0x05C7, .within 0x064B 0x0652,
    .within 0x0657 0x0658, .within 0x06DF 0x06E0, .within 0x06E5 0x06E6, .within 0x06EA 0x06EC,
    .within 0x0730 0x074A, .within 0x07A6 0x07B0, .within 0x07EB 0x07F5, .within 0x0818 0x0819,
    .within 0x0898 0x089F, .within 0x08C9 0x08D2, .within 0x08E3 0x08FE, .within 0x093C 0x093C,
    .within 0x094D 0x094D, .within 0x0951 0x0954, .within 0x0971 0x0971, .within 0x09BC 0x09BC,
    .within 0x09CD 0x09CD, .within 0x0A3C 0x0A3C, .within 0x0A4D 0x0A4D, .within 0x0ABC 0x0ABC,
    .within 0x0ACD 0x0ACD, .within 0x0AFD 0x0AFF, .within 0x0B3C 0x0B3C, .within 0x0B4D 0x0B4D,
    .within 0x0B55 0x0B55, .within 0x0BCD 0x0BCD, .within 0x0C3C 0x0C3C, .within 0x0C4D 0x0C4D,
    .within 0x0CBC 0x0CBC, .within 0x0CCD 0x0CCD, .within 0x0D3B 0x0D3C, .within 0x0D4D 0x0D4D,
    .within 0x0DCA 0x0DCA, .within 0x0E3A 0x0E3A, .within 0x0E47 0x0E4C, .within 0x0E4E 0x0E4E,
    .within 0x0EBA 0x0EBA, .within 0x0EC8 0x0ECC, .within 0x0F18 0x0F19, .within 0x0F35 0x0F35,
    .within 0x0F37 0x0F37, .within 0x0F39 0x0F39, .within 0x0F3E 0x0F3F, .within 0x0F82 0x0F84,
    .within 0x0F86 0x0F87, .within 0x0FC6 0x0FC6, .within 0x1037 0x1037, .within 0x1039 0x103A,
    .within 0x1063 0x1064, .within 0x1069 0x106D, .within 0x1087 0x108D, .within 0x108F 0x108F,
    .within 0x109A 0x109B, .within 0x135D 0x135F, .within 0x1714 0x1715, .within 0x1734 0x1734,
    .within 0x17C9 0x17D3, .within 0x17DD 0x17DD, .within 0x1939 0x193B, .within 0x1A60 0x1A60,
    .within 0x1A75 0x1A7C, .within 0x1A7F 0x1A7F, .within 0x1AB0 0x1ABE, .within 0x1AC1 0x1ACB,
    .within 0x1ACF 0x1ADD, .within 0x1AE0 0x1AEB, .within 0x1B34 0x1B34, .within 0x1B44 0x1B44,
    .within 0x1B6B 0x1B73, .within 0x1BAA 0x1BAB, .within 0x1BE6 0x1BE6, .within 0x1BF2 0x1BF3,
    .within 0x1C36 0x1C37, .within 0x1C78 0x1C7D, .within 0x1CD0 0x1CE8, .within 0x1CED 0x1CED,
    .within 0x1CF4 0x1CF4, .within 0x1CF7 0x1CF9, .within 0x1D2C 0x1D6A, .within 0x1D9B 0x1DBE,
    .within 0x1DC4 0x1DCF, .within 0x1DF5 0x1DFF, .within 0x1FBD 0x1FBD, .within 0x1FBF 0x1FC1,
    .within 0x1FCD 0x1FCF, .within 0x1FDD 0x1FDF, .within 0x1FED 0x1FEF, .within 0x1FFD 0x1FFE,
    .within 0x2CEF 0x2CF1, .within 0x2E2F 0x2E2F, .within 0x302A 0x302F, .within 0x3099 0x309C,
    .within 0x30FC 0x30FC, .within 0xA66F 0xA66F, .within 0xA67C 0xA67D, .within 0xA67F 0xA67F,
    .within 0xA69C 0xA69D, .within 0xA6F0 0xA6F1, .within 0xA700 0xA721, .within 0xA788 0xA78A,
    .within 0xA7F1 0xA7F1, .within 0xA7F8 0xA7F9, .within 0xA806 0xA806, .within 0xA82C 0xA82C,
    .within 0xA8C4 0xA8C4, .within 0xA8E0 0xA8F1, .within 0xA92B 0xA92E, .within 0xA953 0xA953,
    .within 0xA9B3 0xA9B3, .within 0xA9C0 0xA9C0, .within 0xA9E5 0xA9E5, .within 0xAA7B 0xAA7D,
    .within 0xAABF 0xAAC2, .within 0xAAF6 0xAAF6, .within 0xAB5B 0xAB5F, .within 0xAB69 0xAB6B,
    .within 0xABEC 0xABED, .within 0xFB1E 0xFB1E, .within 0xFE20 0xFE2F, .within 0xFF3E 0xFF3E,
    .within 0xFF40 0xFF40, .within 0xFF70 0xFF70, .within 0xFF9E 0xFF9F, .within 0xFFE3 0xFFE3,
    .within 0x102E0 0x102E0, .within 0x10780 0x10785, .within 0x10787 0x107B0,
    .within 0x107B2 0x107BA, .within 0x10A38 0x10A3A, .within 0x10A3F 0x10A3F,
    .within 0x10AE5 0x10AE6, .within 0x10D22 0x10D27, .within 0x10D4E 0x10D4E,
    .within 0x10D69 0x10D6D, .within 0x10EFA 0x10EFA, .within 0x10EFD 0x10EFF,
    .within 0x10F46 0x10F50, .within 0x10F82 0x10F85, .within 0x11046 0x11046,
    .within 0x11070 0x11070, .within 0x110B9 0x110BA, .within 0x11133 0x11134,
    .within 0x11173 0x11173, .within 0x111C0 0x111C0, .within 0x111CA 0x111CC,
    .within 0x11235 0x11236, .within 0x112E9 0x112EA, .within 0x1133B 0x1133C,
    .within 0x1134D 0x1134D, .within 0x11366 0x1136C, .within 0x11370 0x11374,
    .within 0x113CE 0x113D0, .within 0x113D2 0x113D3, .within 0x113E1 0x113E2,
    .within 0x11442 0x11442, .within 0x11446 0x11446, .within 0x114C2 0x114C3,
    .within 0x115BF 0x115C0, .within 0x1163F 0x1163F, .within 0x116B6 0x116B7,
    .within 0x1172B 0x1172B, .within 0x11839 0x1183A, .within 0x1193D 0x1193E,
    .within 0x11943 0x11943, .within 0x119E0 0x119E0, .within 0x11A34 0x11A34,
    .within 0x11A47 0x11A47, .within 0x11A99 0x11A99, .within 0x11C3F 0x11C3F,
    .within 0x11D42 0x11D42, .within 0x11D44 0x11D45, .within 0x11D97 0x11D97,
    .within 0x11DD9 0x11DD9, .within 0x11F41 0x11F42, .within 0x11F5A 0x11F5A,
    .within 0x13447 0x13455, .within 0x1612F 0x1612F, .within 0x16AF0 0x16AF4,
    .within 0x16B30 0x16B36, .within 0x16D6B 0x16D6C, .within 0x16F8F 0x16F9F,
    .within 0x16FF0 0x16FF1, .within 0x1AFF0 0x1AFF3, .within 0x1AFF5 0x1AFFB,
    .within 0x1AFFD 0x1AFFE, .within 0x1CF00 0x1CF2D, .within 0x1CF30 0x1CF46,
    .within 0x1D167 0x1D169, .within 0x1D16D 0x1D172, .within 0x1D17B 0x1D182,
    .within 0x1D185 0x1D18B, .within 0x1D1AA 0x1D1AD, .within 0x1E030 0x1E06D,
    .within 0x1E130 0x1E136, .within 0x1E2AE 0x1E2AE, .within 0x1E2EC 0x1E2EF,
    .within 0x1E5EE 0x1E5EF, .within 0x1E8D0 0x1E8D6, .within 0x1E944 0x1E946,
    .within 0x1E948 0x1E94A]

/-- Characters that can be shown as pictures. -/
def emojiTable : Array (Span Unit) := #[
    .within 0x0023 0x0023, .within 0x002A 0x002A, .within 0x0030 0x0039, .within 0x00A9 0x00A9,
    .within 0x00AE 0x00AE, .within 0x203C 0x203C, .within 0x2049 0x2049, .within 0x2122 0x2122,
    .within 0x2139 0x2139, .within 0x2194 0x2199, .within 0x21A9 0x21AA, .within 0x231A 0x231B,
    .within 0x2328 0x2328, .within 0x23CF 0x23CF, .within 0x23E9 0x23F3, .within 0x23F8 0x23FA,
    .within 0x24C2 0x24C2, .within 0x25AA 0x25AB, .within 0x25B6 0x25B6, .within 0x25C0 0x25C0,
    .within 0x25FB 0x25FE, .within 0x2600 0x2604, .within 0x260E 0x260E, .within 0x2611 0x2611,
    .within 0x2614 0x2615, .within 0x2618 0x2618, .within 0x261D 0x261D, .within 0x2620 0x2620,
    .within 0x2622 0x2623, .within 0x2626 0x2626, .within 0x262A 0x262A, .within 0x262E 0x262F,
    .within 0x2638 0x263A, .within 0x2640 0x2640, .within 0x2642 0x2642, .within 0x2648 0x2653,
    .within 0x265F 0x2660, .within 0x2663 0x2663, .within 0x2665 0x2666, .within 0x2668 0x2668,
    .within 0x267B 0x267B, .within 0x267E 0x267F, .within 0x2692 0x2697, .within 0x2699 0x2699,
    .within 0x269B 0x269C, .within 0x26A0 0x26A1, .within 0x26A7 0x26A7, .within 0x26AA 0x26AB,
    .within 0x26B0 0x26B1, .within 0x26BD 0x26BE, .within 0x26C4 0x26C5, .within 0x26C8 0x26C8,
    .within 0x26CE 0x26CF, .within 0x26D1 0x26D1, .within 0x26D3 0x26D4, .within 0x26E9 0x26EA,
    .within 0x26F0 0x26F5, .within 0x26F7 0x26FA, .within 0x26FD 0x26FD, .within 0x2702 0x2702,
    .within 0x2705 0x2705, .within 0x2708 0x270D, .within 0x270F 0x270F, .within 0x2712 0x2712,
    .within 0x2714 0x2714, .within 0x2716 0x2716, .within 0x271D 0x271D, .within 0x2721 0x2721,
    .within 0x2728 0x2728, .within 0x2733 0x2734, .within 0x2744 0x2744, .within 0x2747 0x2747,
    .within 0x274C 0x274C, .within 0x274E 0x274E, .within 0x2753 0x2755, .within 0x2757 0x2757,
    .within 0x2763 0x2764, .within 0x2795 0x2797, .within 0x27A1 0x27A1, .within 0x27B0 0x27B0,
    .within 0x27BF 0x27BF, .within 0x2934 0x2935, .within 0x2B05 0x2B07, .within 0x2B1B 0x2B1C,
    .within 0x2B50 0x2B50, .within 0x2B55 0x2B55, .within 0x3030 0x3030, .within 0x303D 0x303D,
    .within 0x3297 0x3297, .within 0x3299 0x3299, .within 0x1F004 0x1F004, .within 0x1F0CF 0x1F0CF,
    .within 0x1F170 0x1F171, .within 0x1F17E 0x1F17F, .within 0x1F18E 0x1F18E,
    .within 0x1F191 0x1F19A, .within 0x1F1E6 0x1F1FF, .within 0x1F201 0x1F202,
    .within 0x1F21A 0x1F21A, .within 0x1F22F 0x1F22F, .within 0x1F232 0x1F23A,
    .within 0x1F250 0x1F251, .within 0x1F300 0x1F321, .within 0x1F324 0x1F393,
    .within 0x1F396 0x1F397, .within 0x1F399 0x1F39B, .within 0x1F39E 0x1F3F0,
    .within 0x1F3F3 0x1F3F5, .within 0x1F3F7 0x1F4FD, .within 0x1F4FF 0x1F53D,
    .within 0x1F549 0x1F54E, .within 0x1F550 0x1F567, .within 0x1F56F 0x1F570,
    .within 0x1F573 0x1F57A, .within 0x1F587 0x1F587, .within 0x1F58A 0x1F58D,
    .within 0x1F590 0x1F590, .within 0x1F595 0x1F596, .within 0x1F5A4 0x1F5A5,
    .within 0x1F5A8 0x1F5A8, .within 0x1F5B1 0x1F5B2, .within 0x1F5BC 0x1F5BC,
    .within 0x1F5C2 0x1F5C4, .within 0x1F5D1 0x1F5D3, .within 0x1F5DC 0x1F5DE,
    .within 0x1F5E1 0x1F5E1, .within 0x1F5E3 0x1F5E3, .within 0x1F5E8 0x1F5E8,
    .within 0x1F5EF 0x1F5EF, .within 0x1F5F3 0x1F5F3, .within 0x1F5FA 0x1F64F,
    .within 0x1F680 0x1F6C5, .within 0x1F6CB 0x1F6D2, .within 0x1F6D5 0x1F6D8,
    .within 0x1F6DC 0x1F6E5, .within 0x1F6E9 0x1F6E9, .within 0x1F6EB 0x1F6EC,
    .within 0x1F6F0 0x1F6F0, .within 0x1F6F3 0x1F6FC, .within 0x1F7E0 0x1F7EB,
    .within 0x1F7F0 0x1F7F0, .within 0x1F90C 0x1F93A, .within 0x1F93C 0x1F945,
    .within 0x1F947 0x1F9FF, .within 0x1FA70 0x1FA7C, .within 0x1FA80 0x1FA8A,
    .within 0x1FA8E 0x1FAC6, .within 0x1FAC8 0x1FAC8, .within 0x1FACD 0x1FADC,
    .within 0x1FADF 0x1FAEA, .within 0x1FAEF 0x1FAF8]

/-- Parts of pictures made of several characters. -/
def emojiComponentTable : Array (Span Unit) := #[
    .within 0x0023 0x0023, .within 0x002A 0x002A, .within 0x0030 0x0039, .within 0x200D 0x200D,
    .within 0x20E3 0x20E3, .within 0xFE0F 0xFE0F, .within 0x1F1E6 0x1F1FF, .within 0x1F3FB 0x1F3FF,
    .within 0x1F9B0 0x1F9B3, .within 0xE0020 0xE007F]

/-- Pictures that can be followed by a colour of the skin. -/
def emojiModifierBaseTable : Array (Span Unit) := #[
    .within 0x261D 0x261D, .within 0x26F9 0x26F9, .within 0x270A 0x270D, .within 0x1F385 0x1F385,
    .within 0x1F3C2 0x1F3C4, .within 0x1F3C7 0x1F3C7, .within 0x1F3CA 0x1F3CC,
    .within 0x1F442 0x1F443, .within 0x1F446 0x1F450, .within 0x1F466 0x1F478,
    .within 0x1F47C 0x1F47C, .within 0x1F481 0x1F483, .within 0x1F485 0x1F487,
    .within 0x1F48F 0x1F48F, .within 0x1F491 0x1F491, .within 0x1F4AA 0x1F4AA,
    .within 0x1F574 0x1F575, .within 0x1F57A 0x1F57A, .within 0x1F590 0x1F590,
    .within 0x1F595 0x1F596, .within 0x1F645 0x1F647, .within 0x1F64B 0x1F64F,
    .within 0x1F6A3 0x1F6A3, .within 0x1F6B4 0x1F6B6, .within 0x1F6C0 0x1F6C0,
    .within 0x1F6CC 0x1F6CC, .within 0x1F90C 0x1F90C, .within 0x1F90F 0x1F90F,
    .within 0x1F918 0x1F91F, .within 0x1F926 0x1F926, .within 0x1F930 0x1F939,
    .within 0x1F93C 0x1F93E, .within 0x1F977 0x1F977, .within 0x1F9B5 0x1F9B6,
    .within 0x1F9B8 0x1F9B9, .within 0x1F9BB 0x1F9BB, .within 0x1F9CD 0x1F9CF,
    .within 0x1F9D1 0x1F9DD, .within 0x1FAC3 0x1FAC5, .within 0x1FAF0 0x1FAF8]

/-- Characters that are shown as pictures unless asked otherwise. -/
def emojiPresentationTable : Array (Span Unit) := #[
    .within 0x231A 0x231B, .within 0x23E9 0x23EC, .within 0x23F0 0x23F0, .within 0x23F3 0x23F3,
    .within 0x25FD 0x25FE, .within 0x2614 0x2615, .within 0x2648 0x2653, .within 0x267F 0x267F,
    .within 0x2693 0x2693, .within 0x26A1 0x26A1, .within 0x26AA 0x26AB, .within 0x26BD 0x26BE,
    .within 0x26C4 0x26C5, .within 0x26CE 0x26CE, .within 0x26D4 0x26D4, .within 0x26EA 0x26EA,
    .within 0x26F2 0x26F3, .within 0x26F5 0x26F5, .within 0x26FA 0x26FA, .within 0x26FD 0x26FD,
    .within 0x2705 0x2705, .within 0x270A 0x270B, .within 0x2728 0x2728, .within 0x274C 0x274C,
    .within 0x274E 0x274E, .within 0x2753 0x2755, .within 0x2757 0x2757, .within 0x2795 0x2797,
    .within 0x27B0 0x27B0, .within 0x27BF 0x27BF, .within 0x2B1B 0x2B1C, .within 0x2B50 0x2B50,
    .within 0x2B55 0x2B55, .within 0x1F004 0x1F004, .within 0x1F0CF 0x1F0CF,
    .within 0x1F18E 0x1F18E, .within 0x1F191 0x1F19A, .within 0x1F1E6 0x1F1FF,
    .within 0x1F201 0x1F201, .within 0x1F21A 0x1F21A, .within 0x1F22F 0x1F22F,
    .within 0x1F232 0x1F236, .within 0x1F238 0x1F23A, .within 0x1F250 0x1F251,
    .within 0x1F300 0x1F320, .within 0x1F32D 0x1F335, .within 0x1F337 0x1F37C,
    .within 0x1F37E 0x1F393, .within 0x1F3A0 0x1F3CA, .within 0x1F3CF 0x1F3D3,
    .within 0x1F3E0 0x1F3F0, .within 0x1F3F4 0x1F3F4, .within 0x1F3F8 0x1F43E,
    .within 0x1F440 0x1F440, .within 0x1F442 0x1F4FC, .within 0x1F4FF 0x1F53D,
    .within 0x1F54B 0x1F54E, .within 0x1F550 0x1F567, .within 0x1F57A 0x1F57A,
    .within 0x1F595 0x1F596, .within 0x1F5A4 0x1F5A4, .within 0x1F5FB 0x1F64F,
    .within 0x1F680 0x1F6C5, .within 0x1F6CC 0x1F6CC, .within 0x1F6D0 0x1F6D2,
    .within 0x1F6D5 0x1F6D8, .within 0x1F6DC 0x1F6DF, .within 0x1F6EB 0x1F6EC,
    .within 0x1F6F4 0x1F6FC, .within 0x1F7E0 0x1F7EB, .within 0x1F7F0 0x1F7F0,
    .within 0x1F90C 0x1F93A, .within 0x1F93C 0x1F945, .within 0x1F947 0x1F9FF,
    .within 0x1FA70 0x1FA7C, .within 0x1FA80 0x1FA8A, .within 0x1FA8E 0x1FAC6,
    .within 0x1FAC8 0x1FAC8, .within 0x1FACD 0x1FADC, .within 0x1FADF 0x1FAEA,
    .within 0x1FAEF 0x1FAF8]

/-- Pictures, and places that are kept for more. -/
def extendedPictographicTable : Array (Span Unit) := #[
    .within 0x00A9 0x00A9, .within 0x00AE 0x00AE, .within 0x203C 0x203C, .within 0x2049 0x2049,
    .within 0x2122 0x2122, .within 0x2139 0x2139, .within 0x2194 0x2199, .within 0x21A9 0x21AA,
    .within 0x231A 0x231B, .within 0x2328 0x2328, .within 0x23CF 0x23CF, .within 0x23E9 0x23F3,
    .within 0x23F8 0x23FA, .within 0x24C2 0x24C2, .within 0x25AA 0x25AB, .within 0x25B6 0x25B6,
    .within 0x25C0 0x25C0, .within 0x25FB 0x25FE, .within 0x2600 0x2604, .within 0x260E 0x260E,
    .within 0x2611 0x2611, .within 0x2614 0x2615, .within 0x2618 0x2618, .within 0x261D 0x261D,
    .within 0x2620 0x2620, .within 0x2622 0x2623, .within 0x2626 0x2626, .within 0x262A 0x262A,
    .within 0x262E 0x262F, .within 0x2638 0x263A, .within 0x2640 0x2640, .within 0x2642 0x2642,
    .within 0x2648 0x2653, .within 0x265F 0x2660, .within 0x2663 0x2663, .within 0x2665 0x2666,
    .within 0x2668 0x2668, .within 0x267B 0x267B, .within 0x267E 0x267F, .within 0x2692 0x2697,
    .within 0x2699 0x2699, .within 0x269B 0x269C, .within 0x26A0 0x26A1, .within 0x26A7 0x26A7,
    .within 0x26AA 0x26AB, .within 0x26B0 0x26B1, .within 0x26BD 0x26BE, .within 0x26C4 0x26C5,
    .within 0x26C8 0x26C8, .within 0x26CE 0x26CF, .within 0x26D1 0x26D1, .within 0x26D3 0x26D4,
    .within 0x26E9 0x26EA, .within 0x26F0 0x26F5, .within 0x26F7 0x26FA, .within 0x26FD 0x26FD,
    .within 0x2702 0x2702, .within 0x2705 0x2705, .within 0x2708 0x270D, .within 0x270F 0x270F,
    .within 0x2712 0x2712, .within 0x2714 0x2714, .within 0x2716 0x2716, .within 0x271D 0x271D,
    .within 0x2721 0x2721, .within 0x2728 0x2728, .within 0x2733 0x2734, .within 0x2744 0x2744,
    .within 0x2747 0x2747, .within 0x274C 0x274C, .within 0x274E 0x274E, .within 0x2753 0x2755,
    .within 0x2757 0x2757, .within 0x2763 0x2764, .within 0x2795 0x2797, .within 0x27A1 0x27A1,
    .within 0x27B0 0x27B0, .within 0x27BF 0x27BF, .within 0x2934 0x2935, .within 0x2B05 0x2B07,
    .within 0x2B1B 0x2B1C, .within 0x2B50 0x2B50, .within 0x2B55 0x2B55, .within 0x3030 0x3030,
    .within 0x303D 0x303D, .within 0x3297 0x3297, .within 0x3299 0x3299, .within 0x1F004 0x1F004,
    .within 0x1F02C 0x1F02F, .within 0x1F094 0x1F09F, .within 0x1F0AF 0x1F0B0,
    .within 0x1F0C0 0x1F0C0, .within 0x1F0CF 0x1F0D0, .within 0x1F0F6 0x1F0FF,
    .within 0x1F170 0x1F171, .within 0x1F17E 0x1F17F, .within 0x1F18E 0x1F18E,
    .within 0x1F191 0x1F19A, .within 0x1F1AE 0x1F1E5, .within 0x1F201 0x1F20F,
    .within 0x1F21A 0x1F21A, .within 0x1F22F 0x1F22F, .within 0x1F232 0x1F23A,
    .within 0x1F23C 0x1F23F, .within 0x1F249 0x1F25F, .within 0x1F266 0x1F321,
    .within 0x1F324 0x1F393, .within 0x1F396 0x1F397, .within 0x1F399 0x1F39B,
    .within 0x1F39E 0x1F3F0, .within 0x1F3F3 0x1F3F5, .within 0x1F3F7 0x1F3FA,
    .within 0x1F400 0x1F4FD, .within 0x1F4FF 0x1F53D, .within 0x1F549 0x1F54E,
    .within 0x1F550 0x1F567, .within 0x1F56F 0x1F570, .within 0x1F573 0x1F57A,
    .within 0x1F587 0x1F587, .within 0x1F58A 0x1F58D, .within 0x1F590 0x1F590,
    .within 0x1F595 0x1F596, .within 0x1F5A4 0x1F5A5, .within 0x1F5A8 0x1F5A8,
    .within 0x1F5B1 0x1F5B2, .within 0x1F5BC 0x1F5BC, .within 0x1F5C2 0x1F5C4,
    .within 0x1F5D1 0x1F5D3, .within 0x1F5DC 0x1F5DE, .within 0x1F5E1 0x1F5E1,
    .within 0x1F5E3 0x1F5E3, .within 0x1F5E8 0x1F5E8, .within 0x1F5EF 0x1F5EF,
    .within 0x1F5F3 0x1F5F3, .within 0x1F5FA 0x1F64F, .within 0x1F680 0x1F6C5,
    .within 0x1F6CB 0x1F6D2, .within 0x1F6D5 0x1F6E5, .within 0x1F6E9 0x1F6E9,
    .within 0x1F6EB 0x1F6F0, .within 0x1F6F3 0x1F6FF, .within 0x1F7DA 0x1F7FF,
    .within 0x1F80C 0x1F80F, .within 0x1F848 0x1F84F, .within 0x1F85A 0x1F85F,
    .within 0x1F888 0x1F88F, .within 0x1F8AE 0x1F8AF, .within 0x1F8BC 0x1F8BF,
    .within 0x1F8C2 0x1F8CF, .within 0x1F8D9 0x1F8FF, .within 0x1F90C 0x1F93A,
    .within 0x1F93C 0x1F945, .within 0x1F947 0x1F9FF, .within 0x1FA58 0x1FA5F,
    .within 0x1FA6E 0x1FAFF, .within 0x1FC00 0x1FFFD]

/-- Characters that prolong or repeat another one. -/
def extenderTable : Array (Span Unit) := #[
    .within 0x00B7 0x00B7, .within 0x02D0 0x02D1, .within 0x0640 0x0640, .within 0x07FA 0x07FA,
    .within 0x0A71 0x0A71, .within 0x0AFB 0x0AFB, .within 0x0B55 0x0B55, .within 0x0E46 0x0E46,
    .within 0x0EC6 0x0EC6, .within 0x180A 0x180A, .within 0x1843 0x1843, .within 0x1AA7 0x1AA7,
    .within 0x1C36 0x1C36, .within 0x1C7B 0x1C7B, .within 0x3005 0x3005, .within 0x3031 0x3035,
    .within 0x309D 0x309E, .within 0x30FC 0x30FE, .within 0xA015 0xA015, .within 0xA60C 0xA60C,
    .within 0xA9CF 0xA9CF, .within 0xA9E6 0xA9E6, .within 0xAA70 0xAA70, .within 0xAADD 0xAADD,
    .within 0xAAF3 0xAAF4, .within 0xFF70 0xFF70, .within 0x10781 0x10782, .within 0x10D4E 0x10D4E,
    .within 0x10D6A 0x10D6A, .within 0x10D6F 0x10D6F, .within 0x11237 0x11237,
    .within 0x1135D 0x1135D, .within 0x113D2 0x113D3, .within 0x115C6 0x115C8,
    .within 0x11A98 0x11A98, .within 0x11DD9 0x11DD9, .within 0x16B42 0x16B43,
    .within 0x16FE0 0x16FE1, .within 0x16FE3 0x16FE3, .within 0x16FF2 0x16FF3,
    .within 0x1E13C 0x1E13D, .within 0x1E5EF 0x1E5EF, .within 0x1E944 0x1E946]

/-- Hyphens and characters of that use. -/
def hyphenTable : Array (Span Unit) := #[
    .within 0x002D 0x002D, .within 0x00AD 0x00AD, .within 0x058A 0x058A, .within 0x1806 0x1806,
    .within 0x2010 0x2011, .within 0x2E17 0x2E17, .within 0x30FB 0x30FB, .within 0xFE63 0xFE63,
    .within 0xFF0D 0xFF0D, .within 0xFF65 0xFF65]

/-- Ideographs. -/
def ideographicTable : Array (Span Unit) := #[
    .within 0x3006 0x3007, .within 0x3021 0x3029, .within 0x3038 0x303A, .within 0x3400 0x4DBF,
    .within 0x4E00 0x9FFF, .within 0xF900 0xFA6D, .within 0xFA70 0xFAD9, .within 0x16FE4 0x16FE4,
    .within 0x16FF2 0x16FF6, .within 0x17000 0x18CD5, .within 0x18CFF 0x18D1E,
    .within 0x18D80 0x18DF2, .within 0x1B170 0x1B2FB, .within 0x20000 0x2A6DF,
    .within 0x2A700 0x2B81D, .within 0x2B820 0x2CEAD, .within 0x2CEB0 0x2EBE0,
    .within 0x2EBF0 0x2EE5D, .within 0x2F800 0x2FA1D, .within 0x30000 0x3134A,
    .within 0x31350 0x33479]

/-- Ideographs that stand for themselves. -/
def unifiedIdeographTable : Array (Span Unit) := #[
    .within 0x3400 0x4DBF, .within 0x4E00 0x9FFF, .within 0xFA0E 0xFA0F, .within 0xFA11 0xFA11,
    .within 0xFA13 0xFA14, .within 0xFA1F 0xFA1F, .within 0xFA21 0xFA21, .within 0xFA23 0xFA24,
    .within 0xFA27 0xFA29, .within 0x20000 0x2A6DF, .within 0x2A700 0x2B81D,
    .within 0x2B820 0x2CEAD, .within 0x2CEB0 0x2EBE0, .within 0x2EBF0 0x2EE5D,
    .within 0x30000 0x3134A, .within 0x31350 0x33479]

/-- Vowels that are stored in front of their consonant. -/
def logicalOrderExceptionTable : Array (Span Unit) := #[
    .within 0x0E40 0x0E44, .within 0x0EC0 0x0EC4, .within 0x19B5 0x19B7, .within 0x19BA 0x19BA,
    .within 0xAAB5 0xAAB6, .within 0xAAB9 0xAAB9, .within 0xAABB 0xAABC]

/-- Code points that are kept for the syntax of patterns. -/
def patternSyntaxTable : Array (Span Unit) := #[
    .within 0x0021 0x002F, .within 0x003A 0x0040, .within 0x005B 0x005E, .within 0x0060 0x0060,
    .within 0x007B 0x007E, .within 0x00A1 0x00A7, .within 0x00A9 0x00A9, .within 0x00AB 0x00AC,
    .within 0x00AE 0x00AE, .within 0x00B0 0x00B1, .within 0x00B6 0x00B6, .within 0x00BB 0x00BB,
    .within 0x00BF 0x00BF, .within 0x00D7 0x00D7, .within 0x00F7 0x00F7, .within 0x2010 0x2027,
    .within 0x2030 0x203E, .within 0x2041 0x2053, .within 0x2055 0x205E, .within 0x2190 0x245F,
    .within 0x2500 0x2775, .within 0x2794 0x2BFF, .within 0x2E00 0x2E7F, .within 0x3001 0x3003,
    .within 0x3008 0x3020, .within 0x3030 0x3030, .within 0xFD3E 0xFD3F, .within 0xFE45 0xFE46]

/-- Marks that go with the characters after them. -/
def prependedMarkTable : Array (Span Unit) := #[
    .within 0x0600 0x0605, .within 0x06DD 0x06DD, .within 0x070F 0x070F, .within 0x0890 0x0891,
    .within 0x08E2 0x08E2, .within 0x110BD 0x110BD, .within 0x110CD 0x110CD]

/-- Quotation marks. -/
def quotationMarkTable : Array (Span Unit) := #[
    .within 0x0022 0x0022, .within 0x0027 0x0027, .within 0x00AB 0x00AB, .within 0x00BB 0x00BB,
    .within 0x2018 0x201F, .within 0x2039 0x203A, .within 0x2E42 0x2E42, .within 0x300C 0x300F,
    .within 0x301D 0x301F, .within 0xFE41 0xFE44, .within 0xFF02 0xFF02, .within 0xFF07 0xFF07,
    .within 0xFF62 0xFF63]

/-- Parts of ideographs. -/
def radicalTable : Array (Span Unit) := #[
    .within 0x2E80 0x2E99, .within 0x2E9B 0x2EF3, .within 0x2F00 0x2FD5]

/-- Characters that end a sentence. -/
def sentenceTerminalTable : Array (Span Unit) := #[
    .within 0x0021 0x0021, .within 0x002E 0x002E, .within 0x003F 0x003F, .within 0x0589 0x0589,
    .within 0x061D 0x061F, .within 0x06D4 0x06D4, .within 0x0700 0x0702, .within 0x07F9 0x07F9,
    .within 0x0837 0x0837, .within 0x0839 0x0839, .within 0x083D 0x083E, .within 0x0964 0x0965,
    .within 0x104A 0x104B, .within 0x1362 0x1362, .within 0x1367 0x1368, .within 0x166E 0x166E,
    .within 0x1735 0x1736, .within 0x17D4 0x17D5, .within 0x1803 0x1803, .within 0x1809 0x1809,
    .within 0x1944 0x1945, .within 0x1AA8 0x1AAB, .within 0x1B4E 0x1B4F, .within 0x1B5A 0x1B5B,
    .within 0x1B5E 0x1B5F, .within 0x1B7D 0x1B7F, .within 0x1C3B 0x1C3C, .within 0x1C7E 0x1C7F,
    .within 0x2024 0x2024, .within 0x203C 0x203D, .within 0x2047 0x2049, .within 0x2CF9 0x2CFB,
    .within 0x2E2E 0x2E2E, .within 0x2E3C 0x2E3C, .within 0x2E53 0x2E54, .within 0x3002 0x3002,
    .within 0xA4FF 0xA4FF, .within 0xA60E 0xA60F, .within 0xA6F3 0xA6F3, .within 0xA6F7 0xA6F7,
    .within 0xA876 0xA877, .within 0xA8CE 0xA8CF, .within 0xA92F 0xA92F, .within 0xA9C8 0xA9C9,
    .within 0xAA5D 0xAA5F, .within 0xAAF0 0xAAF1, .within 0xABEB 0xABEB, .within 0xFE12 0xFE12,
    .within 0xFE15 0xFE16, .within 0xFE52 0xFE52, .within 0xFE56 0xFE57, .within 0xFF01 0xFF01,
    .within 0xFF0E 0xFF0E, .within 0xFF1F 0xFF1F, .within 0xFF61 0xFF61, .within 0x10A56 0x10A57,
    .within 0x10F55 0x10F59, .within 0x10F86 0x10F89, .within 0x11047 0x11048,
    .within 0x110BE 0x110C1, .within 0x11141 0x11143, .within 0x111C5 0x111C6,
    .within 0x111CD 0x111CD, .within 0x111DE 0x111DF, .within 0x11238 0x11239,
    .within 0x1123B 0x1123C, .within 0x112A9 0x112A9, .within 0x113D4 0x113D5,
    .within 0x1144B 0x1144C, .within 0x115C2 0x115C3, .within 0x115C9 0x115D7,
    .within 0x11641 0x11642, .within 0x1173C 0x1173E, .within 0x11944 0x11944,
    .within 0x11946 0x11946, .within 0x11A42 0x11A43, .within 0x11A9B 0x11A9C,
    .within 0x11C41 0x11C42, .within 0x11EF7 0x11EF8, .within 0x11F43 0x11F44,
    .within 0x16A6E 0x16A6F, .within 0x16AF5 0x16AF5, .within 0x16B37 0x16B38,
    .within 0x16B44 0x16B44, .within 0x16D6E 0x16D6F, .within 0x16E98 0x16E98,
    .within 0x1BC9F 0x1BC9F, .within 0x1DA88 0x1DA88]

/-- Letters whose dot gives way to an accent. -/
def softDottedTable : Array (Span Unit) := #[
    .within 0x0069 0x006A, .within 0x012F 0x012F, .within 0x0249 0x0249, .within 0x0268 0x0268,
    .within 0x029D 0x029D, .within 0x02B2 0x02B2, .within 0x03F3 0x03F3, .within 0x0456 0x0456,
    .within 0x0458 0x0458, .within 0x1D62 0x1D62, .within 0x1D96 0x1D96, .within 0x1DA4 0x1DA4,
    .within 0x1DA8 0x1DA8, .within 0x1E2D 0x1E2D, .within 0x1ECB 0x1ECB, .within 0x2071 0x2071,
    .within 0x2148 0x2149, .within 0x2C7C 0x2C7C, .within 0x1D422 0x1D423, .within 0x1D456 0x1D457,
    .within 0x1D48A 0x1D48B, .within 0x1D4BE 0x1D4BF, .within 0x1D4F2 0x1D4F3,
    .within 0x1D526 0x1D527, .within 0x1D55A 0x1D55B, .within 0x1D58E 0x1D58F,
    .within 0x1D5C2 0x1D5C3, .within 0x1D5F6 0x1D5F7, .within 0x1D62A 0x1D62B,
    .within 0x1D65E 0x1D65F, .within 0x1D692 0x1D693, .within 0x1DF1A 0x1DF1A,
    .within 0x1E04C 0x1E04D, .within 0x1E068 0x1E068]

/-- Punctuation that ends a part of a text. -/
def terminalPunctuationTable : Array (Span Unit) := #[
    .within 0x0021 0x0021, .within 0x002C 0x002C, .within 0x002E 0x002E, .within 0x003A 0x003B,
    .within 0x003F 0x003F, .within 0x037E 0x037E, .within 0x0387 0x0387, .within 0x0589 0x0589,
    .within 0x05C3 0x05C3, .within 0x060C 0x060C, .within 0x061B 0x061B, .within 0x061D 0x061F,
    .within 0x06D4 0x06D4, .within 0x0700 0x070A, .within 0x070C 0x070C, .within 0x07F8 0x07F9,
    .within 0x0830 0x0835, .within 0x0837 0x083E, .within 0x085E 0x085E, .within 0x0964 0x0965,
    .within 0x0E5A 0x0E5B, .within 0x0F08 0x0F08, .within 0x0F0D 0x0F12, .within 0x104A 0x104B,
    .within 0x1361 0x1368, .within 0x166E 0x166E, .within 0x16EB 0x16ED, .within 0x1735 0x1736,
    .within 0x17D4 0x17D6, .within 0x17DA 0x17DA, .within 0x1802 0x1805, .within 0x1808 0x1809,
    .within 0x1944 0x1945, .within 0x1AA8 0x1AAB, .within 0x1B4E 0x1B4F, .within 0x1B5A 0x1B5B,
    .within 0x1B5D 0x1B5F, .within 0x1B7D 0x1B7F, .within 0x1C3B 0x1C3F, .within 0x1C7E 0x1C7F,
    .within 0x2024 0x2024, .within 0x203C 0x203D, .within 0x2047 0x2049, .within 0x2CF9 0x2CFB,
    .within 0x2E2E 0x2E2E, .within 0x2E3C 0x2E3C, .within 0x2E41 0x2E41, .within 0x2E4C 0x2E4C,
    .within 0x2E4E 0x2E4F, .within 0x2E53 0x2E54, .within 0x3001 0x3002, .within 0xA4FE 0xA4FF,
    .within 0xA60D 0xA60F, .within 0xA6F3 0xA6F7, .within 0xA876 0xA877, .within 0xA8CE 0xA8CF,
    .within 0xA92F 0xA92F, .within 0xA9C7 0xA9C9, .within 0xAA5D 0xAA5F, .within 0xAADF 0xAADF,
    .within 0xAAF0 0xAAF1, .within 0xABEB 0xABEB, .within 0xFE12 0xFE12, .within 0xFE15 0xFE16,
    .within 0xFE50 0xFE52, .within 0xFE54 0xFE57, .within 0xFF01 0xFF01, .within 0xFF0C 0xFF0C,
    .within 0xFF0E 0xFF0E, .within 0xFF1A 0xFF1B, .within 0xFF1F 0xFF1F, .within 0xFF61 0xFF61,
    .within 0xFF64 0xFF64, .within 0x1039F 0x1039F, .within 0x103D0 0x103D0,
    .within 0x10857 0x10857, .within 0x1091F 0x1091F, .within 0x10A56 0x10A57,
    .within 0x10AF0 0x10AF5, .within 0x10B3A 0x10B3F, .within 0x10B99 0x10B9C,
    .within 0x10F55 0x10F59, .within 0x10F86 0x10F89, .within 0x11047 0x1104D,
    .within 0x110BE 0x110C1, .within 0x11141 0x11143, .within 0x111C5 0x111C6,
    .within 0x111CD 0x111CD, .within 0x111DE 0x111DF, .within 0x11238 0x1123C,
    .within 0x112A9 0x112A9, .within 0x113D4 0x113D5, .within 0x1144B 0x1144D,
    .within 0x1145A 0x1145B, .within 0x115C2 0x115C5, .within 0x115C9 0x115D7,
    .within 0x11641 0x11642, .within 0x1173C 0x1173E, .within 0x11944 0x11944,
    .within 0x11946 0x11946, .within 0x11A42 0x11A43, .within 0x11A9B 0x11A9C,
    .within 0x11AA1 0x11AA2, .within 0x11C41 0x11C43, .within 0x11C71 0x11C71,
    .within 0x11EF7 0x11EF8, .within 0x11F43 0x11F44, .within 0x12470 0x12474,
    .within 0x16A6E 0x16A6F, .within 0x16AF5 0x16AF5, .within 0x16B37 0x16B39,
    .within 0x16B44 0x16B44, .within 0x16D6E 0x16D6F, .within 0x16E97 0x16E98,
    .within 0x1BC9F 0x1BC9F, .within 0x1DA87 0x1DA8A]

/-- Lower case characters of other categories. -/
def otherLowercaseTable : Array (Span Unit) := #[
    .within 0x00AA 0x00AA, .within 0x00BA 0x00BA, .within 0x02B0 0x02B8, .within 0x02C0 0x02C1,
    .within 0x02E0 0x02E4, .within 0x0345 0x0345, .within 0x037A 0x037A, .within 0x10FC 0x10FC,
    .within 0x1D2C 0x1D6A, .within 0x1D78 0x1D78, .within 0x1D9B 0x1DBF, .within 0x2071 0x2071,
    .within 0x207F 0x207F, .within 0x2090 0x209C, .within 0x2170 0x217F, .within 0x24D0 0x24E9,
    .within 0x2C7C 0x2C7D, .within 0xA69C 0xA69D, .within 0xA770 0xA770, .within 0xA7F1 0xA7F4,
    .within 0xA7F8 0xA7F9, .within 0xAB5C 0xAB5F, .within 0xAB69 0xAB69, .within 0x10780 0x10780,
    .within 0x10783 0x10785, .within 0x10787 0x107B0, .within 0x107B2 0x107BA,
    .within 0x1E030 0x1E06D]

/-- Upper case characters of other categories. -/
def otherUppercaseTable : Array (Span Unit) := #[
    .within 0x2160 0x216F, .within 0x24B6 0x24CF, .within 0x1F130 0x1F149, .within 0x1F150 0x1F169,
    .within 0x1F170 0x1F189]

/-- Characters of alphabets that are neither letters nor of a case. -/
def otherAlphabeticTable : Array (Span Unit) := #[
    .within 0x0363 0x036F, .within 0x05B0 0x05BD, .within 0x05BF 0x05BF, .within 0x05C1 0x05C2,
    .within 0x05C4 0x05C5, .within 0x05C7 0x05C7, .within 0x0610 0x061A, .within 0x064B 0x0657,
    .within 0x0659 0x065F, .within 0x0670 0x0670, .within 0x06D6 0x06DC, .within 0x06E1 0x06E4,
    .within 0x06E7 0x06E8, .within 0x06ED 0x06ED, .within 0x0711 0x0711, .within 0x0730 0x073F,
    .within 0x07A6 0x07B0, .within 0x0816 0x0817, .within 0x081B 0x0823, .within 0x0825 0x0827,
    .within 0x0829 0x082C, .within 0x0897 0x0897, .within 0x08D4 0x08DF, .within 0x08E3 0x08E9,
    .within 0x08F0 0x0903, .within 0x093A 0x093B, .within 0x093E 0x094C, .within 0x094E 0x094F,
    .within 0x0955 0x0957, .within 0x0962 0x0963, .within 0x0981 0x0983, .within 0x09BE 0x09C4,
    .within 0x09C7 0x09C8, .within 0x09CB 0x09CC, .within 0x09D7 0x09D7, .within 0x09E2 0x09E3,
    .within 0x0A01 0x0A03, .within 0x0A3E 0x0A42, .within 0x0A47 0x0A48, .within 0x0A4B 0x0A4C,
    .within 0x0A51 0x0A51, .within 0x0A70 0x0A71, .within 0x0A75 0x0A75, .within 0x0A81 0x0A83,
    .within 0x0ABE 0x0AC5, .within 0x0AC7 0x0AC9, .within 0x0ACB 0x0ACC, .within 0x0AE2 0x0AE3,
    .within 0x0AFA 0x0AFC, .within 0x0B01 0x0B03, .within 0x0B3E 0x0B44, .within 0x0B47 0x0B48,
    .within 0x0B4B 0x0B4C, .within 0x0B56 0x0B57, .within 0x0B62 0x0B63, .within 0x0B82 0x0B82,
    .within 0x0BBE 0x0BC2, .within 0x0BC6 0x0BC8, .within 0x0BCA 0x0BCC, .within 0x0BD7 0x0BD7,
    .within 0x0C00 0x0C04, .within 0x0C3E 0x0C44, .within 0x0C46 0x0C48, .within 0x0C4A 0x0C4C,
    .within 0x0C55 0x0C56, .within 0x0C62 0x0C63, .within 0x0C81 0x0C83, .within 0x0CBE 0x0CC4,
    .within 0x0CC6 0x0CC8, .within 0x0CCA 0x0CCC, .within 0x0CD5 0x0CD6, .within 0x0CE2 0x0CE3,
    .within 0x0CF3 0x0CF3, .within 0x0D00 0x0D03, .within 0x0D3E 0x0D44, .within 0x0D46 0x0D48,
    .within 0x0D4A 0x0D4C, .within 0x0D57 0x0D57, .within 0x0D62 0x0D63, .within 0x0D81 0x0D83,
    .within 0x0DCF 0x0DD4, .within 0x0DD6 0x0DD6, .within 0x0DD8 0x0DDF, .within 0x0DF2 0x0DF3,
    .within 0x0E31 0x0E31, .within 0x0E34 0x0E3A, .within 0x0E4D 0x0E4D, .within 0x0EB1 0x0EB1,
    .within 0x0EB4 0x0EB9, .within 0x0EBB 0x0EBC, .within 0x0ECD 0x0ECD, .within 0x0F71 0x0F83,
    .within 0x0F8D 0x0F97, .within 0x0F99 0x0FBC, .within 0x102B 0x1036, .within 0x1038 0x1038,
    .within 0x103B 0x103E, .within 0x1056 0x1059, .within 0x105E 0x1060, .within 0x1062 0x1064,
    .within 0x1067 0x106D, .within 0x1071 0x1074, .within 0x1082 0x108D, .within 0x108F 0x108F,
    .within 0x109A 0x109D, .within 0x1712 0x1713, .within 0x1732 0x1733, .within 0x1752 0x1753,
    .within 0x1772 0x1773, .within 0x17B6 0x17C8, .within 0x1885 0x1886, .within 0x18A9 0x18A9,
    .within 0x1920 0x192B, .within 0x1930 0x1938, .within 0x1A17 0x1A1B, .within 0x1A55 0x1A5E,
    .within 0x1A61 0x1A74, .within 0x1ABF 0x1AC0, .within 0x1ACC 0x1ACE, .within 0x1B00 0x1B04,
    .within 0x1B35 0x1B43, .within 0x1B80 0x1B82, .within 0x1BA1 0x1BA9, .within 0x1BAC 0x1BAD,
    .within 0x1BE7 0x1BF1, .within 0x1C24 0x1C36, .within 0x1DD3 0x1DF4, .within 0x2DE0 0x2DFF,
    .within 0xA674 0xA67B, .within 0xA69E 0xA69F, .within 0xA802 0xA802, .within 0xA80B 0xA80B,
    .within 0xA823 0xA827, .within 0xA880 0xA881, .within 0xA8B4 0xA8C3, .within 0xA8C5 0xA8C5,
    .within 0xA8FF 0xA8FF, .within 0xA926 0xA92A, .within 0xA947 0xA952, .within 0xA980 0xA983,
    .within 0xA9B4 0xA9BF, .within 0xA9E5 0xA9E5, .within 0xAA29 0xAA36, .within 0xAA43 0xAA43,
    .within 0xAA4C 0xAA4D, .within 0xAA7B 0xAA7D, .within 0xAAB0 0xAAB0, .within 0xAAB2 0xAAB4,
    .within 0xAAB7 0xAAB8, .within 0xAABE 0xAABE, .within 0xAAEB 0xAAEF, .within 0xAAF5 0xAAF5,
    .within 0xABE3 0xABEA, .within 0xFB1E 0xFB1E, .within 0x10376 0x1037A, .within 0x10A01 0x10A03,
    .within 0x10A05 0x10A06, .within 0x10A0C 0x10A0F, .within 0x10D24 0x10D27,
    .within 0x10D69 0x10D69, .within 0x10EAB 0x10EAC, .within 0x10EFA 0x10EFC,
    .within 0x11000 0x11002, .within 0x11038 0x11045, .within 0x11073 0x11074,
    .within 0x11080 0x11082, .within 0x110B0 0x110B8, .within 0x110C2 0x110C2,
    .within 0x11100 0x11102, .within 0x11127 0x11132, .within 0x11145 0x11146,
    .within 0x11180 0x11182, .within 0x111B3 0x111BF, .within 0x111CE 0x111CF,
    .within 0x1122C 0x11234, .within 0x11237 0x11237, .within 0x1123E 0x1123E,
    .within 0x11241 0x11241, .within 0x112DF 0x112E8, .within 0x11300 0x11303,
    .within 0x1133E 0x11344, .within 0x11347 0x11348, .within 0x1134B 0x1134C,
    .within 0x11357 0x11357, .within 0x11362 0x11363, .within 0x113B8 0x113C0,
    .within 0x113C2 0x113C2, .within 0x113C5 0x113C5, .within 0x113C7 0x113CA,
    .within 0x113CC 0x113CD, .within 0x11435 0x11441, .within 0x11443 0x11445,
    .within 0x114B0 0x114C1, .within 0x115AF 0x115B5, .within 0x115B8 0x115BE,
    .within 0x115DC 0x115DD, .within 0x11630 0x1163E, .within 0x11640 0x11640,
    .within 0x116AB 0x116B5, .within 0x1171D 0x1172A, .within 0x1182C 0x11838,
    .within 0x11930 0x11935, .within 0x11937 0x11938, .within 0x1193B 0x1193C,
    .within 0x11940 0x11940, .within 0x11942 0x11942, .within 0x119D1 0x119D7,
    .within 0x119DA 0x119DF, .within 0x119E4 0x119E4, .within 0x11A01 0x11A0A,
    .within 0x11A35 0x11A39, .within 0x11A3B 0x11A3E, .within 0x11A51 0x11A5B,
    .within 0x11A8A 0x11A97, .within 0x11B60 0x11B67, .within 0x11C2F 0x11C36,
    .within 0x11C38 0x11C3E, .within 0x11C92 0x11CA7, .within 0x11CA9 0x11CB6,
    .within 0x11D31 0x11D36, .within 0x11D3A 0x11D3A, .within 0x11D3C 0x11D3D,
    .within 0x11D3F 0x11D41, .within 0x11D43 0x11D43, .within 0x11D47 0x11D47,
    .within 0x11D8A 0x11D8E, .within 0x11D90 0x11D91, .within 0x11D93 0x11D96,
    .within 0x11EF3 0x11EF6, .within 0x11F00 0x11F01, .within 0x11F03 0x11F03,
    .within 0x11F34 0x11F3A, .within 0x11F3E 0x11F40, .within 0x1611E 0x1612E,
    .within 0x16F4F 0x16F4F, .within 0x16F51 0x16F87, .within 0x16F8F 0x16F92,
    .within 0x16FF0 0x16FF1, .within 0x1BC9E 0x1BC9E, .within 0x1E000 0x1E006,
    .within 0x1E008 0x1E018, .within 0x1E01B 0x1E021, .within 0x1E023 0x1E024,
    .within 0x1E026 0x1E02A, .within 0x1E08F 0x1E08F, .within 0x1E6E3 0x1E6E3,
    .within 0x1E6E6 0x1E6E6, .within 0x1E6EE 0x1E6EF, .within 0x1E6F5 0x1E6F5,
    .within 0x1E947 0x1E947]

/-- Characters of formulas that are no mathematical symbols. -/
def otherMathTable : Array (Span Unit) := #[
    .within 0x005E 0x005E, .within 0x03D0 0x03D2, .within 0x03D5 0x03D5, .within 0x03F0 0x03F1,
    .within 0x03F4 0x03F5, .within 0x2016 0x2016, .within 0x2032 0x2034, .within 0x2040 0x2040,
    .within 0x2061 0x2064, .within 0x207D 0x207E, .within 0x208D 0x208E, .within 0x20D0 0x20DC,
    .within 0x20E1 0x20E1, .within 0x20E5 0x20E6, .within 0x20EB 0x20EF, .within 0x2102 0x2102,
    .within 0x2107 0x2107, .within 0x210A 0x2113, .within 0x2115 0x2115, .within 0x2119 0x211D,
    .within 0x2124 0x2124, .within 0x2128 0x2129, .within 0x212C 0x212D, .within 0x212F 0x2131,
    .within 0x2133 0x2138, .within 0x213C 0x213F, .within 0x2145 0x2149, .within 0x2195 0x2199,
    .within 0x219C 0x219F, .within 0x21A1 0x21A2, .within 0x21A4 0x21A5, .within 0x21A7 0x21A7,
    .within 0x21A9 0x21AD, .within 0x21B0 0x21B1, .within 0x21B6 0x21B7, .within 0x21BC 0x21CD,
    .within 0x21D0 0x21D1, .within 0x21D3 0x21D3, .within 0x21D5 0x21DB, .within 0x21DD 0x21DD,
    .within 0x21E4 0x21E5, .within 0x2308 0x230B, .within 0x23B4 0x23B5, .within 0x23B7 0x23B7,
    .within 0x23D0 0x23D0, .within 0x23E2 0x23E2, .within 0x25A0 0x25A1, .within 0x25AE 0x25B6,
    .within 0x25BC 0x25C0, .within 0x25C6 0x25C7, .within 0x25CA 0x25CB, .within 0x25CF 0x25D3,
    .within 0x25E2 0x25E2, .within 0x25E4 0x25E4, .within 0x25E7 0x25EC, .within 0x2605 0x2606,
    .within 0x2640 0x2640, .within 0x2642 0x2642, .within 0x2660 0x2663, .within 0x266D 0x266E,
    .within 0x27C5 0x27C6, .within 0x27E6 0x27EF, .within 0x2983 0x2998, .within 0x29D8 0x29DB,
    .within 0x29FC 0x29FD, .within 0xFE61 0xFE61, .within 0xFE63 0xFE63, .within 0xFE68 0xFE68,
    .within 0xFF3C 0xFF3C, .within 0xFF3E 0xFF3E, .within 0x1D400 0x1D454, .within 0x1D456 0x1D49C,
    .within 0x1D49E 0x1D49F, .within 0x1D4A2 0x1D4A2, .within 0x1D4A5 0x1D4A6,
    .within 0x1D4A9 0x1D4AC, .within 0x1D4AE 0x1D4B9, .within 0x1D4BB 0x1D4BB,
    .within 0x1D4BD 0x1D4C3, .within 0x1D4C5 0x1D505, .within 0x1D507 0x1D50A,
    .within 0x1D50D 0x1D514, .within 0x1D516 0x1D51C, .within 0x1D51E 0x1D539,
    .within 0x1D53B 0x1D53E, .within 0x1D540 0x1D544, .within 0x1D546 0x1D546,
    .within 0x1D54A 0x1D550, .within 0x1D552 0x1D6A5, .within 0x1D6A8 0x1D6C0,
    .within 0x1D6C2 0x1D6DA, .within 0x1D6DC 0x1D6FA, .within 0x1D6FC 0x1D714,
    .within 0x1D716 0x1D734, .within 0x1D736 0x1D74E, .within 0x1D750 0x1D76E,
    .within 0x1D770 0x1D788, .within 0x1D78A 0x1D7A8, .within 0x1D7AA 0x1D7C2,
    .within 0x1D7C4 0x1D7CB, .within 0x1D7CE 0x1D7FF, .within 0x1EE00 0x1EE03,
    .within 0x1EE05 0x1EE1F, .within 0x1EE21 0x1EE22, .within 0x1EE24 0x1EE24,
    .within 0x1EE27 0x1EE27, .within 0x1EE29 0x1EE32, .within 0x1EE34 0x1EE37,
    .within 0x1EE39 0x1EE39, .within 0x1EE3B 0x1EE3B, .within 0x1EE42 0x1EE42,
    .within 0x1EE47 0x1EE47, .within 0x1EE49 0x1EE49, .within 0x1EE4B 0x1EE4B,
    .within 0x1EE4D 0x1EE4F, .within 0x1EE51 0x1EE52, .within 0x1EE54 0x1EE54,
    .within 0x1EE57 0x1EE57, .within 0x1EE59 0x1EE59, .within 0x1EE5B 0x1EE5B,
    .within 0x1EE5D 0x1EE5D, .within 0x1EE5F 0x1EE5F, .within 0x1EE61 0x1EE62,
    .within 0x1EE64 0x1EE64, .within 0x1EE67 0x1EE6A, .within 0x1EE6C 0x1EE72,
    .within 0x1EE74 0x1EE77, .within 0x1EE79 0x1EE7C, .within 0x1EE7E 0x1EE7E,
    .within 0x1EE80 0x1EE89, .within 0x1EE8B 0x1EE9B, .within 0x1EEA1 0x1EEA3,
    .within 0x1EEA5 0x1EEA9, .within 0x1EEAB 0x1EEBB]

/-- Characters of other categories that case rules look through. -/
def otherCaseIgnorableTable : Array (Span Unit) := #[
    .within 0x0027 0x0027, .within 0x002E 0x002E, .within 0x003A 0x003A, .within 0x00B7 0x00B7,
    .within 0x0387 0x0387, .within 0x055F 0x055F, .within 0x05F4 0x05F4, .within 0x2018 0x2019,
    .within 0x2024 0x2024, .within 0x2027 0x2027, .within 0xFE13 0xFE13, .within 0xFE52 0xFE52,
    .within 0xFE55 0xFE55, .within 0xFF07 0xFF07, .within 0xFF0E 0xFF0E, .within 0xFF1A 0xFF1A]

/-- Characters other than letters that a name can begin with. -/
def otherNameStartTable : Array (Span Unit) := #[
    .within 0x1885 0x1886, .within 0x2118 0x2118, .within 0x212E 0x212E, .within 0x309B 0x309C]

/-- Other characters that a name can go on with. -/
def otherNamePartTable : Array (Span Unit) := #[
    .within 0x00B7 0x00B7, .within 0x0387 0x0387, .within 0x1369 0x1371, .within 0x19DA 0x19DA,
    .within 0x200C 0x200D, .within 0x30FB 0x30FB, .within 0xFF65 0xFF65]

/-- Characters that a name must not begin with, since normal forms change them. -/
def unstableNameStartTable : Array (Span Unit) := #[
    .within 0x037A 0x037A, .within 0x0E33 0x0E33, .within 0x0EB3 0x0EB3, .within 0x309B 0x309C,
    .within 0xFC5E 0xFC63, .within 0xFDFA 0xFDFB, .within 0xFE70 0xFE70, .within 0xFE72 0xFE72,
    .within 0xFE74 0xFE74, .within 0xFE76 0xFE76, .within 0xFE78 0xFE78, .within 0xFE7A 0xFE7A,
    .within 0xFE7C 0xFE7C, .within 0xFE7E 0xFE7E, .within 0xFF9E 0xFF9F]

/-- Characters that must not be in a name, since normal forms change them. -/
def unstableNamePartTable : Array (Span Unit) := #[
    .within 0x037A 0x037A, .within 0x309B 0x309C, .within 0xFC5E 0xFC63, .within 0xFDFA 0xFDFB,
    .within 0xFE70 0xFE70, .within 0xFE72 0xFE72, .within 0xFE74 0xFE74, .within 0xFE76 0xFE76,
    .within 0xFE78 0xFE78, .within 0xFE7A 0xFE7A, .within 0xFE7C 0xFE7C, .within 0xFE7E 0xFE7E]

/-- Characters of other categories that belong to the one in front. -/
def otherGraphemeExtendTable : Array (Span Unit) := #[
    .within 0x09BE 0x09BE, .within 0x09D7 0x09D7, .within 0x0B3E 0x0B3E, .within 0x0B57 0x0B57,
    .within 0x0BBE 0x0BBE, .within 0x0BD7 0x0BD7, .within 0x0CC0 0x0CC0, .within 0x0CC2 0x0CC2,
    .within 0x0CC7 0x0CC8, .within 0x0CCA 0x0CCB, .within 0x0CD5 0x0CD6, .within 0x0D3E 0x0D3E,
    .within 0x0D57 0x0D57, .within 0x0DCF 0x0DCF, .within 0x0DDF 0x0DDF, .within 0x1715 0x1715,
    .within 0x1734 0x1734, .within 0x1B35 0x1B35, .within 0x1B3B 0x1B3B, .within 0x1B3D 0x1B3D,
    .within 0x1B43 0x1B44, .within 0x1BAA 0x1BAA, .within 0x1BF2 0x1BF3, .within 0x200C 0x200C,
    .within 0x302E 0x302F, .within 0xA953 0xA953, .within 0xA9C0 0xA9C0, .within 0xFF9E 0xFF9F,
    .within 0x111C0 0x111C0, .within 0x11235 0x11235, .within 0x1133E 0x1133E,
    .within 0x1134D 0x1134D, .within 0x11357 0x11357, .within 0x113B8 0x113B8,
    .within 0x113C2 0x113C2, .within 0x113C5 0x113C5, .within 0x113C7 0x113C9,
    .within 0x113CF 0x113CF, .within 0x114B0 0x114B0, .within 0x114BD 0x114BD,
    .within 0x115AF 0x115AF, .within 0x116B6 0x116B6, .within 0x11930 0x11930,
    .within 0x1193D 0x1193D, .within 0x11F41 0x11F41, .within 0x16FF0 0x16FF1,
    .within 0x1D165 0x1D166, .within 0x1D16D 0x1D172, .within 0xE0020 0xE007F]

end Property

end Text

end Subword
