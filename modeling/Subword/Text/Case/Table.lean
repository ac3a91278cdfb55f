import Subword.Text.Span

/-!
# Case mappings, as tables

Letters that differ only in case are mostly at a fixed distance from each
other, in runs of neighbours or of every second code point. A span of a case
table therefore has a stride and the image of its first code point; the images
of the others follow at the same distance. Lower case and what decides the form
of a final sigma are those of edition 15.0 of the standard, folding, which only
patterns use, that of a later one.
-/

namespace Subword

namespace Text

namespace Case

/-- Every `stride`-th code point of a span, its first included, moves by as much as the
    first, which moves to `image`. -/
structure Shift where
  stride : Nat
  image : Nat

/-- A span of a case table. -/
def shift (first last stride image : Nat) : Span Shift :=
  ⟨first, last, ⟨stride, image⟩⟩

/-- Lower case of single code points; U+0130, whose lower case is two code points, is not in it. -/
def lowerTable : Array (Span Shift) := #[
    shift 0x0041 0x005A 1 0x0061, shift 0x00C0 0x00D6 1 0x00E0, shift 0x00D8 0x00DE 1 0x00F8,
    shift 0x0100 0x012E 2 0x0101, shift 0x0132 0x0136 2 0x0133, shift 0x0139 0x0147 2 0x013A,
    shift 0x014A 0x0176 2 0x014B, shift 0x0178 0x0178 1 0x00FF, shift 0x0179 0x017D 2 0x017A,
    shift 0x0181 0x0181 1 0x0253, shift 0x0182 0x0184 2 0x0183, shift 0x0186 0x0186 1 0x0254,
    shift 0x0187 0x0187 1 0x0188, shift 0x0189 0x018A 1 0x0256, shift 0x018B 0x018B 1 0x018C,
    shift 0x018E 0x018E 1 0x01DD, shift 0x018F 0x018F 1 0x0259, shift 0x0190 0x0190 1 0x025B,
    shift 0x0191 0x0191 1 0x0192, shift 0x0193 0x0193 1 0x0260, shift 0x0194 0x0194 1 0x0263,
    shift 0x0196 0x0196 1 0x0269, shift 0x0197 0x0197 1 0x0268, shift 0x0198 0x0198 1 0x0199,
    shift 0x019C 0x019C 1 0x026F, shift 0x019D 0x019D 1 0x0272, shift 0x019F 0x019F 1 0x0275,
    shift 0x01A0 0x01A4 2 0x01A1, shift 0x01A6 0x01A6 1 0x0280, shift 0x01A7 0x01A7 1 0x01A8,
    shift 0x01A9 0x01A9 1 0x0283, shift 0x01AC 0x01AC 1 0x01AD, shift 0x01AE 0x01AE 1 0x0288,
    shift 0x01AF 0x01AF 1 0x01B0, shift 0x01B1 0x01B2 1 0x028A, shift 0x01B3 0x01B5 2 0x01B4,
    shift 0x01B7 0x01B7 1 0x0292, shift 0x01B8 0x01B8 1 0x01B9, shift 0x01BC 0x01BC 1 0x01BD,
    shift 0x01C4 0x01C4 1 0x01C6, shift 0x01C5 0x01C5 1 0x01C6, shift 0x01C7 0x01C7 1 0x01C9,
    shift 0x01C8 0x01C8 1 0x01C9, shift 0x01CA 0x01CA 1 0x01CC, shift 0x01CB 0x01DB 2 0x01CC,
    shift 0x01DE 0x01EE 2 0x01DF, shift 0x01F1 0x01F1 1 0x01F3, shift 0x01F2 0x01F4 2 0x01F3,
    shift 0x01F6 0x01F6 1 0x0195, shift 0x01F7 0x01F7 1 0x01BF, shift 0x01F8 0x021E 2 0x01F9,
    shift 0x0220 0x0220 1 0x019E, shift 0x0222 0x0232 2 0x0223, shift 0x023A 0x023A 1 0x2C65,
    shift 0x023B 0x023B 1 0x023C, shift 0x023D 0x023D 1 0x019A, shift 0x023E 0x023E 1 0x2C66,
    shift 0x0241 0x0241 1 0x0242, shift 0x0243 0x0243 1 0x0180, shift 0x0244 0x0244 1 0x0289,
    shift 0x0245 0x0245 1 0x028C, shift 0x0246 0x024E 2 0x0247, shift 0x0370 0x0372 2 0x0371,
    shift 0x0376 0x0376 1 0x0377, shift 0x037F 0x037F 1 0x03F3, shift 0x0386 0x0386 1 0x03AC,
    shift 0x0388 0x038A 1 0x03AD, shift 0x038C 0x038C 1 0x03CC, shift 0x038E 0x038F 1 0x03CD,
    shift 0x0391 0x03A1 1 0x03B1, shift 0x03A3 0x03AB 1 0x03C3, shift 0x03CF 0x03CF 1 0x03D7,
    shift 0x03D8 0x03EE 2 0x03D9, shift 0x03F4 0x03F4 1 0x03B8, shift 0x03F7 0x03F7 1 0x03F8,
    shift 0x03F9 0x03F9 1 0x03F2, shift 0x03FA 0x03FA 1 0x03FB, shift 0x03FD 0x03FF 1 0x037B,
    shift 0x0400 0x040F 1 0x0450, shift 0x0410 0x042F 1 0x0430, shift 0x0460 0x0480 2 0x0461,
    shift 0x048A 0x04BE 2 0x048B, shift 0x04C0 0x04C0 1 0x04CF, shift 0x04C1 0x04CD 2 0x04C2,
    shift 0x04D0 0x052E 2 0x04D1, shift 0x0531 0x0556 1 0x0561, shift 0x10A0 0x10C5 1 0x2D00,
    shift 0x10C7 0x10C7 1 0x2D27, shift 0x10CD 0x10CD 1 0x2D2D, shift 0x13A0 0x13EF 1 0xAB70,
    shift 0x13F0 0x13F5 1 0x13F8, shift 0x1C90 0x1CBA 1 0x10D0, shift 0x1CBD 0x1CBF 1 0x10FD,
    shift 0x1E00 0x1E94 2 0x1E01, shift 0x1E9E 0x1E9E 1 0x00DF, shift 0x1EA0 0x1EFE 2 0x1EA1,
    shift 0x1F08 0x1F0F 1 0x1F00, shift 0x1F18 0x1F1D 1 0x1F10, shift 0x1F28 0x1F2F 1 0x1F20,
    shift 0x1F38 0x1F3F 1 0x1F30, shift 0x1F48 0x1F4D 1 0x1F40, shift 0x1F59 0x1F5F 2 0x1F51,
    shift 0x1F68 0x1F6F 1 0x1F60, shift 0x1F88 0x1F8F 1 0x1F80, shift 0x1F98 0x1F9F 1 0x1F90,
    shift 0x1FA8 0x1FAF 1 0x1FA0, shift 0x1FB8 0x1FB9 1 0x1FB0, shift 0x1FBA 0x1FBB 1 0x1F70,
    shift 0x1FBC 0x1FBC 1 0x1FB3, shift 0x1FC8 0x1FCB 1 0x1F72, shift 0x1FCC 0x1FCC 1 0x1FC3,
    shift 0x1FD8 0x1FD9 1 0x1FD0, shift 0x1FDA 0x1FDB 1 0x1F76, shift 0x1FE8 0x1FE9 1 0x1FE0,
    shift 0x1FEA 0x1FEB 1 0x1F7A, shift 0x1FEC 0x1FEC 1 0x1FE5, shift 0x1FF8 0x1FF9 1 0x1F78,
    shift 0x1FFA 0x1FFB 1 0x1F7C, shift 0x1FFC 0x1FFC 1 0x1FF3, shift 0x2126 0x2126 1 0x03C9,
    shift 0x212A 0x212A 1 0x006B, shift 0x212B 0x212B 1 0x00E5, shift 0x2132 0x2132 1 0x214E,
    shift 0x2160 0x216F 1 0x2170, shift 0x2183 0x2183 1 0x2184, shift 0x24B6 0x24CF 1 0x24D0,
    shift 0x2C00 0x2C2F 1 0x2C30, shift 0x2C60 0x2C60 1 0x2C61, shift 0x2C62 0x2C62 1 0x026B,
    shift 0x2C63 0x2C63 1 0x1D7D, shift 0x2C64 0x2C64 1 0x027D, shift 0x2C67 0x2C6B 2 0x2C68,
    shift 0x2C6D 0x2C6D 1 0x0251, shift 0x2C6E 0x2C6E 1 0x0271, shift 0x2C6F 0x2C6F 1 0x0250,
    shift 0x2C70 0x2C70 1 0x0252, shift 0x2C72 0x2C72 1 0x2C73, shift 0x2C75 0x2C75 1 0x2C76,
    shift 0x2C7E 0x2C7F 1 0x023F, shift 0x2C80 0x2CE2 2 0x2C81, shift 0x2CEB 0x2CED 2 0x2CEC,
    shift 0x2CF2 0x2CF2 1 0x2CF3, shift 0xA640 0xA66C 2 0xA641, shift 0xA680 0xA69A 2 0xA681,
    shift 0xA722 0xA72E 2 0xA723, shift 0xA732 0xA76E 2 0xA733, shift 0xA779 0xA77B 2 0xA77A,
    shift 0xA77D 0xA77D 1 0x1D79, shift 0xA77E 0xA786 2 0xA77F, shift 0xA78B 0xA78B 1 0xA78C,
    shift 0xA78D 0xA78D 1 0x0265, shift 0xA790 0xA792 2 0xA791, shift 0xA796 0xA7A8 2 0xA797,
    shift 0xA7AA 0xA7AA 1 0x0266, shift 0xA7AB 0xA7AB 1 0x025C, shift 0xA7AC 0xA7AC 1 0x0261,
    shift 0xA7AD 0xA7AD 1 0x026C, shift 0xA7AE 0xA7AE 1 0x026A, shift 0xA7B0 0xA7B0 1 0x029E,
    shift 0xA7B1 0xA7B1 1 0x0287, shift 0xA7B2 0xA7B2 1 0x029D, shift 0xA7B3 0xA7B3 1 0xAB53,
    shift 0xA7B4 0xA7C2 2 0xA7B5, shift 0xA7C4 0xA7C4 1 0xA794, shift 0xA7C5 0xA7C5 1 0x0282,
    shift 0xA7C6 0xA7C6 1 0x1D8E, shift 0xA7C7 0xA7C9 2 0xA7C8, shift 0xA7D0 0xA7D0 1 0xA7D1,
    shift 0xA7D6 0xA7D8 2 0xA7D7, shift 0xA7F5 0xA7F5 1 0xA7F6, shift 0xFF21 0xFF3A 1 0xFF41,
    shift 0x10400 0x10427 1 0x10428, shift 0x104B0 0x104D3 1 0x104D8,
    shift 0x10570 0x1057A 1 0x10597, shift 0x1057C 0x1058A 1 0x105A3,
    shift 0x1058C 0x10592 1 0x105B3, shift 0x10594 0x10595 1 0x105BB,
    shift 0x10C80 0x10CB2 1 0x10CC0, shift 0x118A0 0x118BF 1 0x118C0,
    shift 0x16E40 0x16E5F 1 0x16E60, shift 0x1E900 0x1E921 1 0x1E922]

/-- Simple case folding: code points that differ only in case fold to the same one. -/
def foldTable : Array (Span Shift) := #[
    shift 0x0041 0x005A 1 0x0061, shift 0x00B5 0x00B5 1 0x03BC, shift 0x00C0 0x00D6 1 0x00E0,
    shift 0x00D8 0x00DE 1 0x00F8, shift 0x0100 0x012E 2 0x0101, shift 0x0132 0x0136 2 0x0133,
    shift 0x0139 0x0147 2 0x013A, shift 0x014A 0x0176 2 0x014B, shift 0x0178 0x0178 1 0x00FF,
    shift 0x0179 0x017D 2 0x017A, shift 0x017F 0x017F 1 0x0073, shift 0x0181 0x0181 1 0x0253,
    shift 0x0182 0x0184 2 0x0183, shift 0x0186 0x0186 1 0x0254, shift 0x0187 0x0187 1 0x0188,
    shift 0x0189 0x018A 1 0x0256, shift 0x018B 0x018B 1 0x018C, shift 0x018E 0x018E 1 0x01DD,
    shift 0x018F 0x018F 1 0x0259, shift 0x0190 0x0190 1 0x025B, shift 0x0191 0x0191 1 0x0192,
    shift 0x0193 0x0193 1 0x0260, shift 0x0194 0x0194 1 0x0263, shift 0x0196 0x0196 1 0x0269,
    shift 0x0197 0x0197 1 0x0268, shift 0x0198 0x0198 1 0x0199, shift 0x019C 0x019C 1 0x026F,
    shift 0x019D 0x019D 1 0x0272, shift 0x019F 0x019F 1 0x0275, shift 0x01A0 0x01A4 2 0x01A1,
    shift 0x01A6 0x01A6 1 0x0280, shift 0x01A7 0x01A7 1 0x01A8, shift 0x01A9 0x01A9 1 0x0283,
    shift 0x01AC 0x01AC 1 0x01AD, shift 0x01AE 0x01AE 1 0x0288, shift 0x01AF 0x01AF 1 0x01B0,
    shift 0x01B1 0x01B2 1 0x028A, shift 0x01B3 0x01B5 2 0x01B4, shift 0x01B7 0x01B7 1 0x0292,
    shift 0x01B8 0x01B8 1 0x01B9, shift 0x01BC 0x01BC 1 0x01BD, shift 0x01C4 0x01C4 1 0x01C6,
    shift 0x01C5 0x01C5 1 0x01C6, shift 0x01C7 0x01C7 1 0x01C9, shift 0x01C8 0x01C8 1 0x01C9,
    shift 0x01CA 0x01CA 1 0x01CC, shift 0x01CB 0x01DB 2 0x01CC, shift 0x01DE 0x01EE 2 0x01DF,
    shift 0x01F1 0x01F1 1 0x01F3, shift 0x01F2 0x01F4 2 0x01F3, shift 0x01F6 0x01F6 1 0x0195,
    shift 0x01F7 0x01F7 1 0x01BF, shift 0x01F8 0x021E 2 0x01F9, shift 0x0220 0x0220 1 0x019E,
    shift 0x0222 0x0232 2 0x0223, shift 0x023A 0x023A 1 0x2C65, shift 0x023B 0x023B 1 0x023C,
    shift 0x023D 0x023D 1 0x019A, shift 0x023E 0x023E 1 0x2C66, shift 0x0241 0x0241 1 0x0242,
    shift 0x0243 0x0243 1 0x0180, shift 0x0244 0x0244 1 0x0289, shift 0x0245 0x0245 1 0x028C,
    shift 0x0246 0x024E 2 0x0247, shift 0x0345 0x0345 1 0x03B9, shift 0x0370 0x0372 2 0x0371,
    shift 0x0376 0x0376 1 0x0377, shift 0x037F 0x037F 1 0x03F3, shift 0x0386 0x0386 1 0x03AC,
    shift 0x0388 0x038A 1 0x03AD, shift 0x038C 0x038C 1 0x03CC, shift 0x038E 0x038F 1 0x03CD,
    shift 0x0391 0x03A1 1 0x03B1, shift 0x03A3 0x03AB 1 0x03C3, shift 0x03C2 0x03C2 1 0x03C3,
    shift 0x03CF 0x03CF 1 0x03D7, shift 0x03D0 0x03D0 1 0x03B2, shift 0x03D1 0x03D1 1 0x03B8,
    shift 0x03D5 0x03D5 1 0x03C6, shift 0x03D6 0x03D6 1 0x03C0, shift 0x03D8 0x03EE 2 0x03D9,
    shift 0x03F0 0x03F0 1 0x03BA, shift 0x03F1 0x03F1 1 0x03C1, shift 0x03F4 0x03F4 1 0x03B8,
    shift 0x03F5 0x03F5 1 0x03B5, shift 0x03F7 0x03F7 1 0x03F8, shift 0x03F9 0x03F9 1 0x03F2,
    shift 0x03FA 0x03FA 1 0x03FB, shift 0x03FD 0x03FF 1 0x037B, shift 0x0400 0x040F 1 0x0450,
    shift 0x0410 0x042F 1 0x0430, shift 0x0460 0x0480 2 0x0461, shift 0x048A 0x04BE 2 0x048B,
    shift 0x04C0 0x04C0 1 0x04CF, shift 0x04C1 0x04CD 2 0x04C2, shift 0x04D0 0x052E 2 0x04D1,
    shift 0x0531 0x0556 1 0x0561, shift 0x10A0 0x10C5 1 0x2D00, shift 0x10C7 0x10C7 1 0x2D27,
    shift 0x10CD 0x10CD 1 0x2D2D, shift 0x13F8 0x13FD 1 0x13F0, shift 0x1C80 0x1C80 1 0x0432,
    shift 0x1C81 0x1C81 1 0x0434, shift 0x1C82 0x1C82 1 0x043E, shift 0x1C83 0x1C84 1 0x0441,
    shift 0x1C85 0x1C85 1 0x0442, shift 0x1C86 0x1C86 1 0x044A, shift 0x1C87 0x1C87 1 0x0463,
    shift 0x1C88 0x1C88 1 0xA64B, shift 0x1C90 0x1CBA 1 0x10D0, shift 0x1CBD 0x1CBF 1 0x10FD,
    shift 0x1E00 0x1E94 2 0x1E01, shift 0x1E9B 0x1E9B 1 0x1E61, shift 0x1E9E 0x1E9E 1 0x00DF,
    shift 0x1EA0 0x1EFE 2 0x1EA1, shift 0x1F08 0x1F0F 1 0x1F00, shift 0x1F18 0x1F1D 1 0x1F10,
    shift 0x1F28 0x1F2F 1 0x1F20, shift 0x1F38 0x1F3F 1 0x1F30, shift 0x1F48 0x1F4D 1 0x1F40,
    shift 0x1F59 0x1F5F 2 0x1F51, shift 0x1F68 0x1F6F 1 0x1F60, shift 0x1F88 0x1F8F 1 0x1F80,
    shift 0x1F98 0x1F9F 1 0x1F90, shift 0x1FA8 0x1FAF 1 0x1FA0, shift 0x1FB8 0x1FB9 1 0x1FB0,
    shift 0x1FBA 0x1FBB 1 0x1F70, shift 0x1FBC 0x1FBC 1 0x1FB3, shift 0x1FBE 0x1FBE 1 0x03B9,
    shift 0x1FC8 0x1FCB 1 0x1F72, shift 0x1FCC 0x1FCC 1 0x1FC3, shift 0x1FD3 0x1FD3 1 0x0390,
    shift 0x1FD8 0x1FD9 1 0x1FD0, shift 0x1FDA 0x1FDB 1 0x1F76, shift 0x1FE3 0x1FE3 1 0x03B0,
    shift 0x1FE8 0x1FE9 1 0x1FE0, shift 0x1FEA 0x1FEB 1 0x1F7A, shift 0x1FEC 0x1FEC 1 0x1FE5,
    shift 0x1FF8 0x1FF9 1 0x1F78, shift 0x1FFA 0x1FFB 1 0x1F7C, shift 0x1FFC 0x1FFC 1 0x1FF3,
    shift 0x2126 0x2126 1 0x03C9, shift 0x212A 0x212A 1 0x006B, shift 0x212B 0x212B 1 0x00E5,
    shift 0x2132 0x2132 1 0x214E, shift 0x2160 0x216F 1 0x2170, shift 0x2183 0x2183 1 0x2184,
    shift 0x24B6 0x24CF 1 0x24D0, shift 0x2C00 0x2C2F 1 0x2C30, shift 0x2C60 0x2C60 1 0x2C61,
    shift 0x2C62 0x2C62 1 0x026B, shift 0x2C63 0x2C63 1 0x1D7D, shift 0x2C64 0x2C64 1 0x027D,
    shift 0x2C67 0x2C6B 2 0x2C68, shift 0x2C6D 0x2C6D 1 0x0251, shift 0x2C6E 0x2C6E 1 0x0271,
    shift 0x2C6F 0x2C6F 1 0x0250, shift 0x2C70 0x2C70 1 0x0252, shift 0x2C72 0x2C72 1 0x2C73,
    shift 0x2C75 0x2C75 1 0x2C76, shift 0x2C7E 0x2C7F 1 0x023F, shift 0x2C80 0x2CE2 2 0x2C81,
    shift 0x2CEB 0x2CED 2 0x2CEC, shift 0x2CF2 0x2CF2 1 0x2CF3, shift 0xA640 0xA66C 2 0xA641,
    shift 0xA680 0xA69A 2 0xA681, shift 0xA722 0xA72E 2 0xA723, shift 0xA732 0xA76E 2 0xA733,
    shift 0xA779 0xA77B 2 0xA77A, shift 0xA77D 0xA77D 1 0x1D79, shift 0xA77E 0xA786 2 0xA77F,
    shift 0xA78B 0xA78B 1 0xA78C, shift 0xA78D 0xA78D 1 0x0265, shift 0xA790 0xA792 2 0xA791,
    shift 0xA796 0xA7A8 2 0xA797, shift 0xA7AA 0xA7AA 1 0x0266, shift 0xA7AB 0xA7AB 1 0x025C,
    shift 0xA7AC 0xA7AC 1 0x0261, shift 0xA7AD 0xA7AD 1 0x026C, shift 0xA7AE 0xA7AE 1 0x026A,
    shift 0xA7B0 0xA7B0 1 0x029E, shift 0xA7B1 0xA7B1 1 0x0287, shift 0xA7B2 0xA7B2 1 0x029D,
    shift 0xA7B3 0xA7B3 1 0xAB53, shift 0xA7B4 0xA7C2 2 0xA7B5, shift 0xA7C4 0xA7C4 1 0xA794,
    shift 0xA7C5 0xA7C5 1 0x0282, shift 0xA7C6 0xA7C6 1 0x1D8E, shift 0xA7C7 0xA7C9 2 0xA7C8,
    shift 0xA7D0 0xA7D0 1 0xA7D1, shift 0xA7D6 0xA7D8 2 0xA7D7, shift 0xA7F5 0xA7F5 1 0xA7F6,
    shift 0xAB70 0xABBF 1 0x13A0, shift 0xFB05 0xFB05 1 0xFB06, shift 0xFF21 0xFF3A 1 0xFF41,
    shift 0x10400 0x10427 1 0x10428, shift 0x104B0 0x104D3 1 0x104D8,
    shift 0x10570 0x1057A 1 0x10597, shift 0x1057C 0x1058A 1 0x105A3,
    shift 0x1058C 0x10592 1 0x105B3, shift 0x10594 0x10595 1 0x105BB,
    shift 0x10C80 0x10CB2 1 0x10CC0, shift 0x118A0 0x118BF 1 0x118C0,
    shift 0x16E40 0x16E5F 1 0x16E60, shift 0x1E900 0x1E921 1 0x1E922]

/-- Letters with a case, those that are transparent to case left out. -/
def casedTable : Array (Span Unit) := #[
    .within 0x0041 0x005A, .within 0x0061 0x007A, .within 0x00AA 0x00AA, .within 0x00B5 0x00B5,
    .within 0x00BA 0x00BA, .within 0x00C0 0x00D6, .within 0x00D8 0x00F6, .within 0x00F8 0x01BA,
    .within 0x01BC 0x01BF, .within 0x01C4 0x0293, .within 0x0295 0x02AF, .within 0x0370 0x0373,
    .within 0x0376 0x0377, .within 0x037B 0x037D, .within 0x037F 0x037F, .within 0x0386 0x0386,
    .within 0x0388 0x038A, .within 0x038C 0x038C, .within 0x038E 0x03A1, .within 0x03A3 0x03F5,
    .within 0x03F7 0x0481, .within 0x048A 0x052F, .within 0x0531 0x0556, .within 0x0560 0x0588,
    .within 0x10A0 0x10C5, .within 0x10C7 0x10C7, .within 0x10CD 0x10CD, .within 0x10D0 0x10FA,
    .within 0x10FD 0x10FF, .within 0x13A0 0x13F5, .within 0x13F8 0x13FD, .within 0x1C80 0x1C88,
    .within 0x1C90 0x1CBA, .within 0x1CBD 0x1CBF, .within 0x1D00 0x1D2B, .within 0x1D6B 0x1D77,
    .within 0x1D79 0x1D9A, .within 0x1E00 0x1F15, .within 0x1F18 0x1F1D, .within 0x1F20 0x1F45,
    .within 0x1F48 0x1F4D, .within 0x1F50 0x1F57, .within 0x1F59 0x1F59, .within 0x1F5B 0x1F5B,
    .within 0x1F5D 0x1F5D, .within 0x1F5F 0x1F7D, .within 0x1F80 0x1FB4, .within 0x1FB6 0x1FBC,
    .within 0x1FBE 0x1FBE, .within 0x1FC2 0x1FC4, .within 0x1FC6 0x1FCC, .within 0x1FD0 0x1FD3,
    .within 0x1FD6 0x1FDB, .within 0x1FE0 0x1FEC, .within 0x1FF2 0x1FF4, .within 0x1FF6 0x1FFC,
    .within 0x2102 0x2102, .within 0x2107 0x2107, .within 0x210A 0x2113, .within 0x2115 0x2115,
    .within 0x2119 0x211D, .within 0x2124 0x2124, .within 0x2126 0x2126, .within 0x2128 0x2128,
    .within 0x212A 0x212D, .within 0x212F 0x2134, .within 0x2139 0x2139, .within 0x213C 0x213F,
    .within 0x2145 0x2149, .within 0x214E 0x214E, .within 0x2160 0x217F, .within 0x2183 0x2184,
    .within 0x24B6 0x24E9, .within 0x2C00 0x2C7B, .within 0x2C7E 0x2CE4, .within 0x2CEB 0x2CEE,
    .within 0x2CF2 0x2CF3, .within 0x2D00 0x2D25, .within 0x2D27 0x2D27, .within 0x2D2D 0x2D2D,
    .within 0xA640 0xA66D, .within 0xA680 0xA69B, .within 0xA722 0xA76F, .within 0xA771 0xA787,
    .within 0xA78B 0xA78E, .within 0xA790 0xA7CA, .within 0xA7D0 0xA7D1, .within 0xA7D3 0xA7D3,
    .within 0xA7D5 0xA7D9, .within 0xA7F5 0xA7F6, .within 0xA7FA 0xA7FA, .within 0xAB30 0xAB5A,
    .within 0xAB60 0xAB68, .within 0xAB70 0xABBF, .within 0xFB00 0xFB06, .within 0xFB13 0xFB17,
    .within 0xFF21 0xFF3A, .within 0xFF41 0xFF5A, .within 0x10400 0x1044F, .within 0x104B0 0x104D3,
    .within 0x104D8 0x104FB, .within 0x10570 0x1057A, .within 0x1057C 0x1058A,
    .within 0x1058C 0x10592, .within 0x10594 0x10595, .within 0x10597 0x105A1,
    .within 0x105A3 0x105B1, .within 0x105B3 0x105B9, .within 0x105BB 0x105BC,
    .within 0x10C80 0x10CB2, .within 0x10CC0 0x10CF2, .within 0x118A0 0x118DF,
    .within 0x16E40 0x16E7F, .within 0x1D400 0x1D454, .within 0x1D456 0x1D49C,
    .within 0x1D49E 0x1D49F, .within 0x1D4A2 0x1D4A2, .within 0x1D4A5 0x1D4A6,
    .within 0x1D4A9 0x1D4AC, .within 0x1D4AE 0x1D4B9, .within 0x1D4BB 0x1D4BB,
    .within 0x1D4BD 0x1D4C3, .within 0x1D4C5 0x1D505, .within 0x1D507 0x1D50A,
    .within 0x1D50D 0x1D514, .within 0x1D516 0x1D51C, .within 0x1D51E 0x1D539,
    .within 0x1D53B 0x1D53E, .within 0x1D540 0x1D544, .within 0x1D546 0x1D546,
    .within 0x1D54A 0x1D550, .within 0x1D552 0x1D6A5, .within 0x1D6A8 0x1D6C0,
    .within 0x1D6C2 0x1D6DA, .within 0x1D6DC 0x1D6FA, .within 0x1D6FC 0x1D714,
    .within 0x1D716 0x1D734, .within 0x1D736 0x1D74E, .within 0x1D750 0x1D76E,
    .within 0x1D770 0x1D788, .within 0x1D78A 0x1D7A8, .within 0x1D7AA 0x1D7C2,
    .within 0x1D7C4 0x1D7CB, .within 0x1DF00 0x1DF09, .within 0x1DF0B 0x1DF1E,
    .within 0x1DF25 0x1DF2A, .within 0x1E900 0x1E943, .within 0x1F130 0x1F149,
    .within 0x1F150 0x1F169, .within 0x1F170 0x1F189]

/-- Characters that case rules look through, such as apostrophes and marks. -/
def transparentTable : Array (Span Unit) := #[
    .within 0x0027 0x0027, .within 0x002E 0x002E, .within 0x003A 0x003A, .within 0x005E 0x005E,
    .within 0x0060 0x0060, .within 0x00A8 0x00A8, .within 0x00AD 0x00AD, .within 0x00AF 0x00AF,
    .within 0x00B4 0x00B4, .within 0x00B7 0x00B8, .within 0x02B0 0x036F, .within 0x0374 0x0375,
    .within 0x037A 0x037A, .within 0x0384 0x0385, .within 0x0387 0x0387, .within 0x0483 0x0489,
    .within 0x0559 0x0559, .within 0x055F 0x055F, .within 0x0591 0x05BD, .within 0x05BF 0x05BF,
    .within 0x05C1 0x05C2, .within 0x05C4 0x05C5, .within 0x05C7 0x05C7, .within 0x05F4 0x05F4,
    .within 0x0600 0x0605, .within 0x0610 0x061A, .within 0x061C 0x061C, .within 0x0640 0x0640,
    .within 0x064B 0x065F, .within 0x0670 0x0670, .within 0x06D6 0x06DD, .within 0x06DF 0x06E8,
    .within 0x06EA 0x06ED, .within 0x070F 0x070F, .within 0x0711 0x0711, .within 0x0730 0x074A,
    .within 0x07A6 0x07B0, .within 0x07EB 0x07F5, .within 0x07FA 0x07FA, .within 0x07FD 0x07FD,
    .within 0x0816 0x082D, .within 0x0859 0x085B, .within 0x0888 0x0888, .within 0x0890 0x0891,
    .within 0x0898 0x089F, .within 0x08C9 0x0902, .within 0x093A 0x093A, .within 0x093C 0x093C,
    .within 0x0941 0x0948, .within 0x094D 0x094D, .within 0x0951 0x0957, .within 0x0962 0x0963,
    .within 0x0971 0x0971, .within 0x0981 0x0981, .within 0x09BC 0x09BC, .within 0x09C1 0x09C4,
    .within 0x09CD 0x09CD, .within 0x09E2 0x09E3, .within 0x09FE 0x09FE, .within 0x0A01 0x0A02,
    .within 0x0A3C 0x0A3C, .within 0x0A41 0x0A42, .within 0x0A47 0x0A48, .within 0x0A4B 0x0A4D,
    .within 0x0A51 0x0A51, .within 0x0A70 0x0A71, .within 0x0A75 0x0A75, .within 0x0A81 0x0A82,
    .within 0x0ABC 0x0ABC, .within 0x0AC1 0x0AC5, .within 0x0AC7 0x0AC8, .within 0x0ACD 0x0ACD,
    .within 0x0AE2 0x0AE3, .within 0x0AFA 0x0AFF, .within 0x0B01 0x0B01, .within 0x0B3C 0x0B3C,
    .within 0x0B3F 0x0B3F, .within 0x0B41 0x0B44, .within 0x0B4D 0x0B4D, .within 0x0B55 0x0B56,
    .within 0x0B62 0x0B63, .within 0x0B82 0x0B82, .within 0x0BC0 0x0BC0, .within 0x0BCD 0x0BCD,
    .within 0x0C00 0x0C00, .within 0x0C04 0x0C04, .within 0x0C3C 0x0C3C, .within 0x0C3E 0x0C40,
    .within 0x0C46 0x0C48, .within 0x0C4A 0x0C4D, .within 0x0C55 0x0C56, .within 0x0C62 0x0C63,
    .within 0x0C81 0x0C81, .within 0x0CBC 0x0CBC, .within 0x0CBF 0x0CBF, .within 0x0CC6 0x0CC6,
    .within 0x0CCC 0x0CCD, .within 0x0CE2 0x0CE3, .within 0x0D00 0x0D01, .within 0x0D3B 0x0D3C,
    .within 0x0D41 0x0D44, .within 0x0D4D 0x0D4D, .within 0x0D62 0x0D63, .within 0x0D81 0x0D81,
    .within 0x0DCA 0x0DCA, .within 0x0DD2 0x0DD4, .within 0x0DD6 0x0DD6, .within 0x0E31 0x0E31,
    .within 0x0E34 0x0E3A, .within 0x0E46 0x0E4E, .within 0x0EB1 0x0EB1, .within 0x0EB4 0x0EBC,
    .within 0x0EC6 0x0EC6, .within 0x0EC8 0x0ECE, .within 0x0F18 0x0F19, .within 0x0F35 0x0F35,
    .within 0x0F37 0x0F37, .within 0x0F39 0x0F39, .within 0x0F71 0x0F7E, .within 0x0F80 0x0F84,
    .within 0x0F86 0x0F87, .within 0x0F8D 0x0F97, .within 0x0F99 0x0FBC, .within 0x0FC6 0x0FC6,
    .within 0x102D 0x1030, .within 0x1032 0x1037, .within 0x1039 0x103A, .within 0x103D 0x103E,
    .within 0x1058 0x1059, .within 0x105E 0x1060, .within 0x1071 0x1074, .within 0x1082 0x1082,
    .within 0x1085 0x1086, .within 0x108D 0x108D, .within 0x109D 0x109D, .within 0x10FC 0x10FC,
    .within 0x135D 0x135F, .within 0x1712 0x1714, .within 0x1732 0x1733, .within 0x1752 0x1753,
    .within 0x1772 0x1773, .within 0x17B4 0x17B5, .within 0x17B7 0x17BD, .within 0x17C6 0x17C6,
    .within 0x17C9 0x17D3, .within 0x17D7 0x17D7, .within 0x17DD 0x17DD, .within 0x180B 0x180F,
    .within 0x1843 0x1843, .within 0x1885 0x1886, .within 0x18A9 0x18A9, .within 0x1920 0x1922,
    .within 0x1927 0x1928, .within 0x1932 0x1932, .within 0x1939 0x193B, .within 0x1A17 0x1A18,
    .within 0x1A1B 0x1A1B, .within 0x1A56 0x1A56, .within 0x1A58 0x1A5E, .within 0x1A60 0x1A60,
    .within 0x1A62 0x1A62, .within 0x1A65 0x1A6C, .within 0x1A73 0x1A7C, .within 0x1A7F 0x1A7F,
    .within 0x1AA7 0x1AA7, .within 0x1AB0 0x1ACE, .within 0x1B00 0x1B03, .within 0x1B34 0x1B34,
    .within 0x1B36 0x1B3A, .within 0x1B3C 0x1B3C, .within 0x1B42 0x1B42, .within 0x1B6B 0x1B73,
    .within 0x1B80 0x1B81, .within 0x1BA2 0x1BA5, .within 0x1BA8 0x1BA9, .within 0x1BAB 0x1BAD,
    .within 0x1BE6 0x1BE6, .within 0x1BE8 0x1BE9, .within 0x1BED 0x1BED, .within 0x1BEF 0x1BF1,
    .within 0x1C2C 0x1C33, .within 0x1C36 0x1C37, .within 0x1C78 0x1C7D, .within 0x1CD0 0x1CD2,
    .within 0x1CD4 0x1CE0, .within 0x1CE2 0x1CE8, .within 0x1CED 0x1CED, .within 0x1CF4 0x1CF4,
    .within 0x1CF8 0x1CF9, .within 0x1D2C 0x1D6A, .within 0x1D78 0x1D78, .within 0x1D9B 0x1DFF,
    .within 0x1FBD 0x1FBD, .within 0x1FBF 0x1FC1, .within 0x1FCD 0x1FCF, .within 0x1FDD 0x1FDF,
    .within 0x1FED 0x1FEF, .within 0x1FFD 0x1FFE, .within 0x200B 0x200F, .within 0x2018 0x2019,
    .within 0x2024 0x2024, .within 0x2027 0x2027, .within 0x202A 0x202E, .within 0x2060 0x2064,
    .within 0x2066 0x206F, .within 0x2071 0x2071, .within 0x207F 0x207F, .within 0x2090 0x209C,
    .within 0x20D0 0x20F0, .within 0x2C7C 0x2C7D, .within 0x2CEF 0x2CF1, .within 0x2D6F 0x2D6F,
    .within 0x2D7F 0x2D7F, .within 0x2DE0 0x2DFF, .within 0x2E2F 0x2E2F, .within 0x3005 0x3005,
    .within 0x302A 0x302D, .within 0x3031 0x3035, .within 0x303B 0x303B, .within 0x3099 0x309E,
    .within 0x30FC 0x30FE, .within 0xA015 0xA015, .within 0xA4F8 0xA4FD, .within 0xA60C 0xA60C,
    .within 0xA66F 0xA672, .within 0xA674 0xA67D, .within 0xA67F 0xA67F, .within 0xA69C 0xA69F,
    .within 0xA6F0 0xA6F1, .within 0xA700 0xA721, .within 0xA770 0xA770, .within 0xA788 0xA78A,
    .within 0xA7F2 0xA7F4, .within 0xA7F8 0xA7F9, .within 0xA802 0xA802, .within 0xA806 0xA806,
    .within 0xA80B 0xA80B, .within 0xA825 0xA826, .within 0xA82C 0xA82C, .within 0xA8C4 0xA8C5,
    .within 0xA8E0 0xA8F1, .within 0xA8FF 0xA8FF, .within 0xA926 0xA92D, .within 0xA947 0xA951,
    .within 0xA980 0xA982, .within 0xA9B3 0xA9B3, .within 0xA9B6 0xA9B9, .within 0xA9BC 0xA9BD,
    .within 0xA9CF 0xA9CF, .within 0xA9E5 0xA9E6, .within 0xAA29 0xAA2E, .within 0xAA31 0xAA32,
    .within 0xAA35 0xAA36, .within 0xAA43 0xAA43, .within 0xAA4C 0xAA4C, .within 0xAA70 0xAA70,
    .within 0xAA7C 0xAA7C, .within 0xAAB0 0xAAB0, .within 0xAAB2 0xAAB4, .within 0xAAB7 0xAAB8,
    .within 0xAABE 0xAABF, .within 0xAAC1 0xAAC1, .within 0xAADD 0xAADD, .within 0xAAEC 0xAAED,
    .within 0xAAF3 0xAAF4, .within 0xAAF6 0xAAF6, .within 0xAB5B 0xAB5F, .within 0xAB69 0xAB6B,
    .within 0xABE5 0xABE5, .within 0xABE8 0xABE8, .within 0xABED 0xABED, .within 0xFB1E 0xFB1E,
    .within 0xFBB2 0xFBC2, .within 0xFE00 0xFE0F, .within 0xFE13 0xFE13, .within 0xFE20 0xFE2F,
    .within 0xFE52 0xFE52, .within 0xFE55 0xFE55, .within 0xFEFF 0xFEFF, .within 0xFF07 0xFF07,
    .within 0xFF0E 0xFF0E, .within 0xFF1A 0xFF1A, .within 0xFF3E 0xFF3E, .within 0xFF40 0xFF40,
    .within 0xFF70 0xFF70, .within 0xFF9E 0xFF9F, .within 0xFFE3 0xFFE3, .within 0xFFF9 0xFFFB,
    .within 0x101FD 0x101FD, .within 0x102E0 0x102E0, .within 0x10376 0x1037A,
    .within 0x10780 0x10785, .within 0x10787 0x107B0, .within 0x107B2 0x107BA,
    .within 0x10A01 0x10A03, .within 0x10A05 0x10A06, .within 0x10A0C 0x10A0F,
    .within 0x10A38 0x10A3A, .within 0x10A3F 0x10A3F, .within 0x10AE5 0x10AE6,
    .within 0x10D24 0x10D27, .within 0x10EAB 0x10EAC, .within 0x10EFD 0x10EFF,
    .within 0x10F46 0x10F50, .within 0x10F82 0x10F85, .within 0x11001 0x11001,
    .within 0x11038 0x11046, .within 0x11070 0x11070, .within 0x11073 0x11074,
    .within 0x1107F 0x11081, .within 0x110B3 0x110B6, .within 0x110B9 0x110BA,
    .within 0x110BD 0x110BD, .within 0x110C2 0x110C2, .within 0x110CD 0x110CD,
    .within 0x11100 0x11102, .within 0x11127 0x1112B, .within 0x1112D 0x11134,
    .within 0x11173 0x11173, .within 0x11180 0x11181, .within 0x111B6 0x111BE,
    .within 0x111C9 0x111CC, .within 0x111CF 0x111CF, .within 0x1122F 0x11231,
    .within 0x11234 0x11234, .within 0x11236 0x11237, .within 0x1123E 0x1123E,
    .within 0x11241 0x11241, .within 0x112DF 0x112DF, .within 0x112E3 0x112EA,
    .within 0x11300 0x11301, .within 0x1133B 0x1133C, .within 0x11340 0x11340,
    .within 0x11366 0x1136C, .within 0x11370 0x11374, .within 0x11438 0x1143F,
    .within 0x11442 0x11444, .within 0x11446 0x11446, .within 0x1145E 0x1145E,
    .within 0x114B3 0x114B8, .within 0x114BA 0x114BA, .within 0x114BF 0x114C0,
    .within 0x114C2 0x114C3, .within 0x115B2 0x115B5, .within 0x115BC 0x115BD,
    .within 0x115BF 0x115C0, .within 0x115DC 0x115DD, .within 0x11633 0x1163A,
    .within 0x1163D 0x1163D, .within 0x1163F 0x11640, .within 0x116AB 0x116AB,
    .within 0x116AD 0x116AD, .within 0x116B0 0x116B5, .within 0x116B7 0x116B7,
    .within 0x1171D 0x1171F, .within 0x11722 0x11725, .within 0x11727 0x1172B,
    .within 0x1182F 0x11837, .within 0x11839 0x1183A, .within 0x1193B 0x1193C,
    .within 0x1193E 0x1193E, .within 0x11943 0x11943, .within 0x119D4 0x119D7,
    .within 0x119DA 0x119DB, .within 0x119E0 0x119E0, .within 0x11A01 0x11A0A,
    .within 0x11A33 0x11A38, .within 0x11A3B 0x11A3E, .within 0x11A47 0x11A47,
    .within 0x11A51 0x11A56, .within 0x11A59 0x11A5B, .within 0x11A8A 0x11A96,
    .within 0x11A98 0x11A99, .within 0x11C30 0x11C36, .within 0x11C38 0x11C3D,
    .within 0x11C3F 0x11C3F, .within 0x11C92 0x11CA7, .within 0x11CAA 0x11CB0,
    .within 0x11CB2 0x11CB3, .within 0x11CB5 0x11CB6, .within 0x11D31 0x11D36,
    .within 0x11D3A 0x11D3A, .within 0x11D3C 0x11D3D, .within 0x11D3F 0x11D45,
    .within 0x11D47 0x11D47, .within 0x11D90 0x11D91, .within 0x11D95 0x11D95,
    .within 0x11D97 0x11D97, .within 0x11EF3 0x11EF4, .within 0x11F00 0x11F01,
    .within 0x11F36 0x11F3A, .within 0x11F40 0x11F40, .within 0x11F42 0x11F42,
    .within 0x13430 0x13440, .within 0x13447 0x13455, .within 0x16AF0 0x16AF4,
    .within 0x16B30 0x16B36, .within 0x16B40 0x16B43, .within 0x16F4F 0x16F4F,
    .within 0x16F8F 0x16F9F, .within 0x16FE0 0x16FE1, .within 0x16FE3 0x16FE4,
    .within 0x1AFF0 0x1AFF3, .within 0x1AFF5 0x1AFFB, .within 0x1AFFD 0x1AFFE,
    .within 0x1BC9D 0x1BC9E, .within 0x1BCA0 0x1BCA3, .within 0x1CF00 0x1CF2D,
    .within 0x1CF30 0x1CF46, .within 0x1D167 0x1D169, .within 0x1D173 0x1D182,
    .within 0x1D185 0x1D18B, .within 0x1D1AA 0x1D1AD, .within 0x1D242 0x1D244,
    .within 0x1DA00 0x1DA36, .within 0x1DA3B 0x1DA6C, .within 0x1DA75 0x1DA75,
    .within 0x1DA84 0x1DA84, .within 0x1DA9B 0x1DA9F, .within 0x1DAA1 0x1DAAF,
    .within 0x1E000 0x1E006, .within 0x1E008 0x1E018, .within 0x1E01B 0x1E021,
    .within 0x1E023 0x1E024, .within 0x1E026 0x1E02A, .within 0x1E030 0x1E06D,
    .within 0x1E08F 0x1E08F, .within 0x1E130 0x1E13D, .within 0x1E2AE 0x1E2AE,
    .within 0x1E2EC 0x1E2EF, .within 0x1E4EB 0x1E4EF, .within 0x1E8D0 0x1E8D6,
    .within 0x1E944 0x1E94B, .within 0x1F3FB 0x1F3FF, .within 0xE0001 0xE0001,
    .within 0xE0020 0xE007F, .within 0xE0100 0xE01EF]

end Case

end Text

end Subword
