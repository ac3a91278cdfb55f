import Subword.Text.Category.Table

/-!
# Categories that later editions of the standard add or change

The rules for plain text follow edition 15.0 of the standard, those for patterns
edition 17.0. The later one has more characters, and sorts two of the others
differently. Only where the two editions differ does this table say anything.
-/

namespace Subword

namespace Text

namespace Category

/-- The code points whose category is another one in the later edition. -/
def additions : Array (Span Turns) := #[
    all 0x0295 0x0295 .lo, all 0x088F 0x088F .lo, all 0x0897 0x0897 .mn, all 0x0C5C 0x0C5C .lo,
    all 0x0CDC 0x0CDC .lo, all 0x1ACF 0x1ADD .mn, all 0x1AE0 0x1AEB .mn, all 0x1B4E 0x1B4F .po,
    all 0x1B7F 0x1B7F .po, all 0x1C89 0x1C89 .lu, all 0x1C8A 0x1C8A .ll, all 0x20C1 0x20C1 .sc,
    all 0x2427 0x2429 .so, all 0x2B96 0x2B96 .so, all 0x2FFC 0x2FFF .so, all 0x31E4 0x31E5 .so,
    all 0x31EF 0x31EF .so, all 0xA7CB 0xA7CC .lu, all 0xA7CD 0xA7CD .ll, all 0xA7CE 0xA7CE .lu,
    all 0xA7CF 0xA7CF .ll, all 0xA7D2 0xA7D2 .lu, all 0xA7D4 0xA7D4 .lu, all 0xA7DA 0xA7DA .lu,
    all 0xA7DB 0xA7DB .ll, all 0xA7DC 0xA7DC .lu, all 0xA7F1 0xA7F1 .lm, all 0xFBC3 0xFBD2 .so,
    all 0xFD90 0xFD91 .so, all 0xFDC8 0xFDCE .so, all 0x105C0 0x105F3 .lo, all 0x10940 0x10959 .lo,
    all 0x10D40 0x10D49 .nd, all 0x10D4A 0x10D4D .lo, all 0x10D4E 0x10D4E .lm,
    all 0x10D4F 0x10D4F .lo, all 0x10D50 0x10D65 .lu, all 0x10D69 0x10D6D .mn,
    all 0x10D6E 0x10D6E .pd, all 0x10D6F 0x10D6F .lm, all 0x10D70 0x10D85 .ll,
    all 0x10D8E 0x10D8F .sm, all 0x10EC2 0x10EC4 .lo, all 0x10EC5 0x10EC5 .lm,
    all 0x10EC6 0x10EC7 .lo, all 0x10ED0 0x10ED0 .po, all 0x10ED1 0x10ED8 .so,
    all 0x10EFA 0x10EFC .mn, all 0x11380 0x11389 .lo, all 0x1138B 0x1138B .lo,
    all 0x1138E 0x1138E .lo, all 0x11390 0x113B5 .lo, all 0x113B7 0x113B7 .lo,
    all 0x113B8 0x113BA .mc, all 0x113BB 0x113C0 .mn, all 0x113C2 0x113C2 .mc,
    all 0x113C5 0x113C5 .mc, all 0x113C7 0x113CA .mc, all 0x113CC 0x113CD .mc,
    all 0x113CE 0x113CE .mn, all 0x113CF 0x113CF .mc, turns 0x113D0 0x113D3 .mn .lo,
    all 0x113D4 0x113D5 .po, all 0x113D7 0x113D8 .po, all 0x113E1 0x113E2 .mn,
    all 0x116D0 0x116E3 .nd, all 0x1171E 0x1171E .mc, all 0x11B60 0x11B60 .mn,
    all 0x11B61 0x11B61 .mc, all 0x11B62 0x11B64 .mn, all 0x11B65 0x11B65 .mc,
    all 0x11B66 0x11B66 .mn, all 0x11B67 0x11B67 .mc, all 0x11BC0 0x11BE0 .lo,
    all 0x11BE1 0x11BE1 .po, all 0x11BF0 0x11BF9 .nd, all 0x11DB0 0x11DD8 .lo,
    all 0x11DD9 0x11DD9 .lm, all 0x11DDA 0x11DDB .lo, all 0x11DE0 0x11DE9 .nd,
    all 0x11F5A 0x11F5A .mn, all 0x13460 0x143FA .lo, all 0x16100 0x1611D .lo,
    all 0x1611E 0x16129 .mn, all 0x1612A 0x1612C .mc, all 0x1612D 0x1612F .mn,
    all 0x16130 0x16139 .nd, all 0x16D40 0x16D42 .lm, all 0x16D43 0x16D6A .lo,
    all 0x16D6B 0x16D6C .lm, all 0x16D6D 0x16D6F .po, all 0x16D70 0x16D79 .nd,
    all 0x16EA0 0x16EB8 .lu, all 0x16EBB 0x16ED3 .ll, all 0x16FF2 0x16FF3 .lm,
    all 0x16FF4 0x16FF6 .nl, all 0x187F8 0x187FF .lo, all 0x18CFF 0x18CFF .lo,
    all 0x18D09 0x18D1E .lo, all 0x18D80 0x18DF2 .lo, all 0x1CC00 0x1CCEF .so,
    all 0x1CCF0 0x1CCF9 .nd, all 0x1CCFA 0x1CCFC .so, all 0x1CD00 0x1CEB3 .so,
    all 0x1CEBA 0x1CED0 .so, all 0x1CEE0 0x1CEEF .so, all 0x1CEF0 0x1CEF0 .sm,
    all 0x1E5D0 0x1E5ED .lo, all 0x1E5EE 0x1E5EF .mn, all 0x1E5F0 0x1E5F0 .lo,
    all 0x1E5F1 0x1E5FA .nd, all 0x1E5FF 0x1E5FF .po, all 0x1E6C0 0x1E6DE .lo,
    all 0x1E6E0 0x1E6E2 .lo, all 0x1E6E3 0x1E6E3 .mn, all 0x1E6E4 0x1E6E5 .lo,
    all 0x1E6E6 0x1E6E6 .mn, all 0x1E6E7 0x1E6ED .lo, all 0x1E6EE 0x1E6EF .mn,
    all 0x1E6F0 0x1E6F4 .lo, all 0x1E6F5 0x1E6F5 .mn, all 0x1E6FE 0x1E6FE .lo,
    all 0x1E6FF 0x1E6FF .lm, all 0x1F6D8 0x1F6D8 .so, all 0x1F777 0x1F77A .so,
    all 0x1F8B2 0x1F8BB .so, all 0x1F8C0 0x1F8C1 .so, all 0x1F8D0 0x1F8D8 .sm,
    all 0x1FA54 0x1FA57 .so, all 0x1FA89 0x1FA8A .so, all 0x1FA8E 0x1FA8F .so,
    all 0x1FABE 0x1FABE .so, all 0x1FAC6 0x1FAC6 .so, all 0x1FAC8 0x1FAC8 .so,
    all 0x1FACD 0x1FACD .so, all 0x1FADC 0x1FADC .so, all 0x1FADF 0x1FADF .so,
    all 0x1FAE9 0x1FAEA .so, all 0x1FAEF 0x1FAEF .so, all 0x1FBCB 0x1FBEF .so,
    all 0x1FBFA 0x1FBFA .so, all 0x2B73A 0x2B73F .lo, all 0x2CEA2 0x2CEAD .lo,
    all 0x2EBF0 0x2EE5D .lo, all 0x323B0 0x33479 .lo]

end Category

end Text

end Subword
