/-!
Classes of characters by general category: letters, digits, marks, and the characters that leave
no visible trace.  The categories are held as one list of runs in code point order, from which the
derived classes (word characters, blanks, printable characters, name characters) are read.
-/

namespace UrlRouting.Text

/-- The part of a character's general category that the derived classes distinguish. -/
inductive Category where
  | letter
  | mark
  | digit
  | letterNumber
  | otherNumber
  | connector
  | visible
  | hidden
  deriving DecidableEq, Repr

set_option maxRecDepth 20000 in
def categoryRuns : List (Nat × Category) := [
  (0x0, .hidden), (0x21, .visible), (0x30, .digit), (0x3a, .visible), (0x41, .letter),
  (0x5b, .visible), (0x5f, .connector), (0x60, .visible), (0x61, .letter), (0x7b, .visible),
  (0x7f, .hidden), (0xa1, .visible), (0xaa, .letter), (0xab, .visible), (0xad, .hidden),
  (0xae, .visible), (0xb2, .otherNumber), (0xb4, .visible), (0xb5, .letter), (0xb6, .visible),
  (0xb9, .otherNumber), (0xba, .letter), (0xbb, .visible), (0xbc, .otherNumber), (0xbf, .visible),
  (0xc0, .letter), (0xd7, .visible), (0xd8, .letter), (0xf7, .visible), (0xf8, .letter),
  (0x2c2, .visible), (0x2c6, .letter), (0x2d2, .visible), (0x2e0, .letter), (0x2e5, .visible),
  (0x2ec, .letter), (0x2ed, .visible), (0x2ee, .letter), (0x2ef, .visible), (0x300, .mark),
  (0x370, .letter), (0x375, .visible), (0x376, .letter), (0x378, .hidden), (0x37a, .letter),
  (0x37e, .visible), (0x37f, .letter), (0x380, .hidden), (0x384, .visible), (0x386, .letter),
  (0x387, .visible), (0x388, .letter), (0x38b, .hidden), (0x38c, .letter), (0x38d, .hidden),
  (0x38e, .letter), (0x3a2, .hidden), (0x3a3, .letter), (0x3f6, .visible), (0x3f7, .letter),
  (0x482, .visible), (0x483, .mark), (0x488, .visible), (0x48a, .letter), (0x530, .hidden),
  (0x531, .letter), (0x557, .hidden), (0x559, .letter), (0x55a, .visible), (0x560, .letter),
  (0x589, .visible), (0x58b, .hidden), (0x58d, .visible), (0x590, .hidden), (0x591, .mark),
  (0x5be, .visible), (0x5bf, .mark), (0x5c0, .visible), (0x5c1, .mark), (0x5c3, .visible),
  (0x5c4, .mark), (0x5c6, .visible), (0x5c7, .mark), (0x5c8, .hidden), (0x5d0, .letter),
  (0x5eb, .hidden), (0x5ef, .letter), (0x5f3, .visible), (0x5f5, .hidden), (0x606, .visible),
  (0x610, .mark), (0x61b, .visible), (0x61c, .hidden), (0x61d, .visible), (0x620, .letter),
  (0x64b, .mark), (0x660, .digit), (0x66a, .visible), (0x66e, .letter), (0x670, .mark),
  (0x671, .letter), (0x6d4, .visible), (0x6d5, .letter), (0x6d6, .mark), (0x6dd, .hidden),
  (0x6de, .visible), (0x6df, .mark), (0x6e5, .letter), (0x6e7, .mark), (0x6e9, .visible),
  (0x6ea, .mark), (0x6ee, .letter), (0x6f0, .digit), (0x6fa, .letter), (0x6fd, .visible),
  (0x6ff, .letter), (0x700, .visible), (0x70e, .hidden), (0x710, .letter), (0x711, .mark),
  (0x712, .letter), (0x730, .mark), (0x74b, .hidden), (0x74d, .letter), (0x7a6, .mark),
  (0x7b1, .letter), (0x7b2, .hidden), (0x7c0, .digit), (0x7ca, .letter), (0x7eb, .mark),
  (0x7f4, .letter), (0x7f6, .visible), (0x7fa, .letter), (0x7fb, .hidden), (0x7fd, .mark),
  (0x7fe, .visible), (0x800, .letter), (0x816, .mark), (0x81a, .letter), (0x81b, .mark),
  (0x824, .letter), (0x825, .mark), (0x828, .letter), (0x829, .mark), (0x82e, .hidden),
  (0x830, .visible), (0x83f, .hidden), (0x840, .letter), (0x859, .mark), (0x85c, .hidden),
  (0x85e, .visible), (0x85f, .hidden), (0x860, .letter), (0x86b, .hidden), (0x870, .letter),
  (0x888, .visible), (0x889, .letter), (0x88f, .hidden), (0x898, .mark), (0x8a0, .letter),
  (0x8ca, .mark), (0x8e2, .hidden), (0x8e3, .mark), (0x904, .letter), (0x93a, .mark),
  (0x93d, .letter), (0x93e, .mark), (0x950, .letter), (0x951, .mark), (0x958, .letter),
  (0x962, .mark), (0x964, .visible), (0x966, .digit), (0x970, .visible), (0x971, .letter),
  (0x981, .mark), (0x984, .hidden), (0x985, .letter), (0x98d, .hidden), (0x98f, .letter),
  (0x991, .hidden), (0x993, .letter), (0x9a9, .hidden), (0x9aa, .letter), (0x9b1, .hidden),
  (0x9b2, .letter), (0x9b3, .hidden), (0x9b6, .letter), (0x9ba, .hidden), (0x9bc, .mark),
  (0x9bd, .letter), (0x9be, .mark), (0x9c5, .hidden), (0x9c7, .mark), (0x9c9, .hidden),
  (0x9cb, .mark), (0x9ce, .letter), (0x9cf, .hidden), (0x9d7, .mark), (0x9d8, .hidden),
  (0x9dc, .letter), (0x9de, .hidden), (0x9df, .letter), (0x9e2, .mark), (0x9e4, .hidden),
  (0x9e6, .digit), (0x9f0, .letter), (0x9f2, .visible), (0x9f4, .otherNumber), (0x9fa, .visible),
  (0x9fc, .letter), (0x9fd, .visible), (0x9fe, .mark), (0x9ff, .hidden), (0xa01, .mark),
  (0xa04, .hidden), (0xa05, .letter), (0xa0b, .hidden), (0xa0f, .letter), (0xa11, .hidden),
  (0xa13, .letter), (0xa29, .hidden), (0xa2a, .letter), (0xa31, .hidden), (0xa32, .letter),
  (0xa34, .hidden), (0xa35, .letter), (0xa37, .hidden), (0xa38, .letter), (0xa3a, .hidden),
  (0xa3c, .mark), (0xa3d, .hidden), (0xa3e, .mark), (0xa43, .hidden), (0xa47, .mark),
  (0xa49, .hidden), (0xa4b, .mark), (0xa4e, .hidden), (0xa51, .mark), (0xa52, .hidden),
  (0xa59, .letter), (0xa5d, .hidden), (0xa5e, .letter), (0xa5f, .hidden), (0xa66, .digit),
  (0xa70, .mark), (0xa72, .letter), (0xa75, .mark), (0xa76, .visible), (0xa77, .hidden),
  (0xa81, .mark), (0xa84, .hidden), (0xa85, .letter), (0xa8e, .hidden), (0xa8f, .letter),
  (0xa92, .hidden), (0xa93, .letter), (0xaa9, .hidden), (0xaaa, .letter), (0xab1, .hidden),
  (0xab2, .letter), (0xab4, .hidden), (0xab5, .letter), (0xaba, .hidden), (0xabc, .mark),
  (0xabd, .letter), (0xabe, .mark), (0xac6, .hidden), (0xac7, .mark), (0xaca, .hidden),
  (0xacb, .mark), (0xace, .hidden), (0xad0, .letter), (0xad1, .hidden), (0xae0, .letter),
  (0xae2, .mark), (0xae4, .hidden), (0xae6, .digit), (0xaf0, .visible), (0xaf2, .hidden),
  (0xaf9, .letter), (0xafa, .mark), (0xb00, .hidden), (0xb01, .mark), (0xb04, .hidden),
  (0xb05, .letter), (0xb0d, .hidden), (0xb0f, .letter), (0xb11, .hidden), (0xb13, .letter),
  (0xb29, .hidden), (0xb2a, .letter), (0xb31, .hidden), (0xb32, .letter), (0xb34, .hidden),
  (0xb35, .letter), (0xb3a, .hidden), (0xb3c, .mark), (0xb3d, .letter), (0xb3e, .mark),
  (0xb45, .hidden), (0xb47, .mark), (0xb49, .hidden), (0xb4b, .mark), (0xb4e, .hidden),
  (0xb55, .mark), (0xb58, .hidden), (0xb5c, .letter), (0xb5e, .hidden), (0xb5f, .letter),
  (0xb62, .mark), (0xb64, .hidden), (0xb66, .digit), (0xb70, .visible), (0xb71, .letter),
  (0xb72, .otherNumber), (0xb78, .hidden), (0xb82, .mark), (0xb83, .letter), (0xb84, .hidden),
  (0xb85, .letter), (0xb8b, .hidden), (0xb8e, .letter), (0xb91, .hidden), (0xb92, .letter),
  (0xb96, .hidden), (0xb99, .letter), (0xb9b, .hidden), (0xb9c, .letter), (0xb9d, .hidden),
  (0xb9e, .letter), (0xba0, .hidden), (0xba3, .letter), (0xba5, .hidden), (0xba8, .letter),
  (0xbab, .hidden), (0xbae, .letter), (0xbba, .hidden), (0xbbe, .mark), (0xbc3, .hidden),
  (0xbc6, .mark), (0xbc9, .hidden), (0xbca, .mark), (0xbce, .hidden), (0xbd0, .letter),
  (0xbd1, .hidden), (0xbd7, .mark), (0xbd8, .hidden), (0xbe6, .digit), (0xbf0, .otherNumber),
  (0xbf3, .visible), (0xbfb, .hidden), (0xc00, .mark), (0xc05, .letter), (0xc0d, .hidden),
  (0xc0e, .letter), (0xc11, .hidden), (0xc12, .letter), (0xc29, .hidden), (0xc2a, .letter),
  (0xc3a, .hidden), (0xc3c, .mark), (0xc3d, .letter), (0xc3e, .mark), (0xc45, .hidden),
  (0xc46, .mark), (0xc49, .hidden), (0xc4a, .mark), (0xc4e, .hidden), (0xc55, .mark),
  (0xc57, .hidden), (0xc58, .letter), (0xc5b, .hidden), (0xc5d, .letter), (0xc5e, .hidden),
  (0xc60, .letter), (0xc62, .mark), (0xc64, .hidden), (0xc66, .digit), (0xc70, .hidden),
  (0xc77, .visible), (0xc78, .otherNumber), (0xc7f, .visible), (0xc80, .letter), (0xc81, .mark),
  (0xc84, .visible), (0xc85, .letter), (0xc8d, .hidden), (0xc8e, .letter), (0xc91, .hidden),
  (0xc92, .letter), (0xca9, .hidden), (0xcaa, .letter), (0xcb4, .hidden), (0xcb5, .letter),
  (0xcba, .hidden), (0xcbc, .mark), (0xcbd, .letter), (0xcbe, .mark), (0xcc5, .hidden),
  (0xcc6, .mark), (0xcc9, .hidden), (0xcca, .mark), (0xcce, .hidden), (0xcd5, .mark),
  (0xcd7, .hidden), (0xcdd, .letter), (0xcdf, .hidden), (0xce0, .letter), (0xce2, .mark),
  (0xce4, .hidden), (0xce6, .digit), (0xcf0, .hidden), (0xcf1, .letter), (0xcf3, .hidden),
  (0xd00, .mark), (0xd04, .letter), (0xd0d, .hidden), (0xd0e, .letter), (0xd11, .hidden),
  (0xd12, .letter), (0xd3b, .mark), (0xd3d, .letter), (0xd3e, .mark), (0xd45, .hidden),
  (0xd46, .mark), (0xd49, .hidden), (0xd4a, .mark), (0xd4e, .letter), (0xd4f, .visible),
  (0xd50, .hidden), (0xd54, .letter), (0xd57, .mark), (0xd58, .otherNumber), (0xd5f, .letter),
  (0xd62, .mark), (0xd64, .hidden), (0xd66, .digit), (0xd70, .otherNumber), (0xd79, .visible),
  (0xd7a, .letter), (0xd80, .hidden), (0xd81, .mark), (0xd84, .hidden), (0xd85, .letter),
  (0xd97, .hidden), (0xd9a, .letter), (0xdb2, .hidden), (0xdb3, .letter), (0xdbc, .hidden),
  (0xdbd, .letter), (0xdbe, .hidden), (0xdc0, .letter), (0xdc7, .hidden), (0xdca, .mark),
  (0xdcb, .hidden), (0xdcf, .mark), (0xdd5, .hidden), (0xdd6, .mark), (0xdd7, .hidden),
  (0xdd8, .mark), (0xde0, .hidden), (0xde6, .digit), (0xdf0, .hidden), (0xdf2, .mark),
  (0xdf4, .visible), (0xdf5, .hidden), (0xe01, .letter), (0xe31, .mark), (0xe32, .letter),
  (0xe34, .mark), (0xe3b, .hidden), (0xe3f, .visible), (0xe40, .letter), (0xe47, .mark),
  (0xe4f, .visible), (0xe50, .digit), (0xe5a, .visible), (0xe5c, .hidden), (0xe81, .letter),
  (0xe83, .hidden), (0xe84, .letter), (0xe85, .hidden), (0xe86, .letter), (0xe8b, .hidden),
  (0xe8c, .letter), (0xea4, .hidden), (0xea5, .letter), (0xea6, .hidden), (0xea7, .letter),
  (0xeb1, .mark), (0xeb2, .letter), (0xeb4, .mark), (0xebd, .letter), (0xebe, .hidden),
  (0xec0, .letter), (0xec5, .hidden), (0xec6, .letter), (0xec7, .hidden), (0xec8, .mark),
  (0xece, .hidden), (0xed0, .digit), (0xeda, .hidden), (0xedc, .letter), (0xee0, .hidden),
  (0xf00, .letter), (0xf01, .visible), (0xf18, .mark), (0xf1a, .visible), (0xf20, .digit),
  (0xf2a, .otherNumber), (0xf34, .visible), (0xf35, .mark), (0xf36, .visible), (0xf37, .mark),
  (0xf38, .visible), (0xf39, .mark), (0xf3a, .visible), (0xf3e, .mark), (0xf40, .letter),
  (0xf48, .hidden), (0xf49, .letter), (0xf6d, .hidden), (0xf71, .mark), (0xf85, .visible),
  (0xf86, .mark), (0xf88, .letter), (0xf8d, .mark), (0xf98, .hidden), (0xf99, .mark),
  (0xfbd, .hidden), (0xfbe, .visible), (0xfc6, .mark), (0xfc7, .visible), (0xfcd, .hidden),
  (0xfce, .visible), (0xfdb, .hidden), (0x1000, .letter), (0x102b, .mark), (0x103f, .letter),
  (0x1040, .digit), (0x104a, .visible), (0x1050, .letter), (0x1056, .mark), (0x105a, .letter),
  (0x105e, .mark), (0x1061, .letter), (0x1062, .mark), (0x1065, .letter), (0x1067, .mark),
  (0x106e, .letter), (0x1071, .mark), (0x1075, .letter), (0x1082, .mark), (0x108e, .letter),
  (0x108f, .mark), (0x1090, .digit), (0x109a, .mark), (0x109e, .visible), (0x10a0, .letter),
  (0x10c6, .hidden), (0x10c7, .letter), (0x10c8, .hidden), (0x10cd, .letter), (0x10ce, .hidden),
  (0x10d0, .letter), (0x10fb, .visible), (0x10fc, .letter), (0x1249, .hidden), (0x124a, .letter),
  (0x124e, .hidden), (0x1250, .letter), (0x1257, .hidden), (0x1258, .letter), (0x1259, .hidden),
  (0x125a, .letter), (0x125e, .hidden), (0x1260, .letter), (0x1289, .hidden), (0x128a, .letter),
  (0x128e, .hidden), (0x1290, .letter), (0x12b1, .hidden), (0x12b2, .letter), (0x12b6, .hidden),
  (0x12b8, .letter), (0x12bf, .hidden), (0x12c0, .letter), (0x12c1, .hidden), (0x12c2, .letter),
  (0x12c6, .hidden), (0x12c8, .letter), (0x12d7, .hidden), (0x12d8, .letter), (0x1311, .hidden),
  (0x1312, .letter), (0x1316, .hidden), (0x1318, .letter), (0x135b, .hidden), (0x135d, .mark),
  (0x1360, .visible), (0x1369, .otherNumber), (0x137d, .hidden), (0x1380, .letter),
  (0x1390, .visible), (0x139a, .hidden), (0x13a0, .letter), (0x13f6, .hidden), (0x13f8, .letter),
  (0x13fe, .hidden), (0x1400, .visible), (0x1401, .letter), (0x166d, .visible), (0x166f, .letter),
  (0x1680, .hidden), (0x1681, .letter), (0x169b, .visible), (0x169d, .hidden), (0x16a0, .letter),
  (0x16eb, .visible), (0x16ee, .letterNumber), (0x16f1, .letter), (0x16f9, .hidden),
  (0x1700, .letter), (0x1712, .mark), (0x1716, .hidden), (0x171f, .letter), (0x1732, .mark),
  (0x1735, .visible), (0x1737, .hidden), (0x1740, .letter), (0x1752, .mark), (0x1754, .hidden),
  (0x1760, .letter), (0x176d, .hidden), (0x176e, .letter), (0x1771, .hidden), (0x1772, .mark),
  (0x1774, .hidden), (0x1780, .letter), (0x17b4, .mark), (0x17d4, .visible), (0x17d7, .letter),
  (0x17d8, .visible), (0x17dc, .letter), (0x17dd, .mark), (0x17de, .hidden), (0x17e0, .digit),
  (0x17ea, .hidden), (0x17f0, .otherNumber), (0x17fa, .hidden), (0x1800, .visible),
  (0x180b, .mark), (0x180e, .hidden), (0x180f, .mark), (0x1810, .digit), (0x181a, .hidden),
  (0x1820, .letter), (0x1879, .hidden), (0x1880, .letter), (0x1885, .mark), (0x1887, .letter),
  (0x18a9, .mark), (0x18aa, .letter), (0x18ab, .hidden), (0x18b0, .letter), (0x18f6, .hidden),
  (0x1900, .letter), (0x191f, .hidden), (0x1920, .mark), (0x192c, .hidden), (0x1930, .mark),
  (0x193c, .hidden), (0x1940, .visible), (0x1941, .hidden), (0x1944, .visible), (0x1946, .digit),
  (0x1950, .letter), (0x196e, .hidden), (0x1970, .letter), (0x1975, .hidden), (0x1980, .letter),
  (0x19ac, .hidden), (0x19b0, .letter), (0x19ca, .hidden), (0x19d0, .digit),
  (0x19da, .otherNumber), (0x19db, .hidden), (0x19de, .visible), (0x1a00, .letter),
  (0x1a17, .mark), (0x1a1c, .hidden), (0x1a1e, .visible), (0x1a20, .letter), (0x1a55, .mark),
  (0x1a5f, .hidden), (0x1a60, .mark), (0x1a7d, .hidden), (0x1a7f, .mark), (0x1a80, .digit),
  (0x1a8a, .hidden), (0x1a90, .digit), (0x1a9a, .hidden), (0x1aa0, .visible), (0x1aa7, .letter),
  (0x1aa8, .visible), (0x1aae, .hidden), (0x1ab0, .mark), (0x1abe, .visible), (0x1abf, .mark),
  (0x1acf, .hidden), (0x1b00, .mark), (0x1b05, .letter), (0x1b34, .mark), (0x1b45, .letter),
  (0x1b4d, .hidden), (0x1b50, .digit), (0x1b5a, .visible), (0x1b6b, .mark), (0x1b74, .visible),
  (0x1b7f, .hidden), (0x1b80, .mark), (0x1b83, .letter), (0x1ba1, .mark), (0x1bae, .letter),
  (0x1bb0, .digit), (0x1bba, .letter), (0x1be6, .mark), (0x1bf4, .hidden), (0x1bfc, .visible),
  (0x1c00, .letter), (0x1c24, .mark), (0x1c38, .hidden), (0x1c3b, .visible), (0x1c40, .digit),
  (0x1c4a, .hidden), (0x1c4d, .letter), (0x1c50, .digit), (0x1c5a, .letter), (0x1c7e, .visible),
  (0x1c80, .letter), (0x1c89, .hidden), (0x1c90, .letter), (0x1cbb, .hidden), (0x1cbd, .letter),
  (0x1cc0, .visible), (0x1cc8, .hidden), (0x1cd0, .mark), (0x1cd3, .visible), (0x1cd4, .mark),
  (0x1ce9, .letter), (0x1ced, .mark), (0x1cee, .letter), (0x1cf4, .mark), (0x1cf5, .letter),
  (0x1cf7, .mark), (0x1cfa, .letter), (0x1cfb, .hidden), (0x1d00, .letter), (0x1dc0, .mark),
  (0x1e00, .letter), (0x1f16, .hidden), (0x1f18, .letter), (0x1f1e, .hidden), (0x1f20, .letter),
  (0x1f46, .hidden), (0x1f48, .letter), (0x1f4e, .hidden), (0x1f50, .letter), (0x1f58, .hidden),
  (0x1f59, .letter), (0x1f5a, .hidden), (0x1f5b, .letter), (0x1f5c, .hidden), (0x1f5d, .letter),
  (0x1f5e, .hidden), (0x1f5f, .letter), (0x1f7e, .hidden), (0x1f80, .letter), (0x1fb5, .hidden),
  (0x1fb6, .letter), (0x1fbd, .visible), (0x1fbe, .letter), (0x1fbf, .visible), (0x1fc2, .letter),
  (0x1fc5, .hidden), (0x1fc6, .letter), (0x1fcd, .visible), (0x1fd0, .letter), (0x1fd4, .hidden),
  (0x1fd6, .letter), (0x1fdc, .hidden), (0x1fdd, .visible), (0x1fe0, .letter), (0x1fed, .visible),
  (0x1ff0, .hidden), (0x1ff2, .letter), (0x1ff5, .hidden), (0x1ff6, .letter), (0x1ffd, .visible),
  (0x1fff, .hidden), (0x2010, .visible), (0x2028, .hidden), (0x2030, .visible),
  (0x203f, .connector), (0x2041, .visible), (0x2054, .connector), (0x2055, .visible),
  (0x205f, .hidden), (0x2070, .otherNumber), (0x2071, .letter), (0x2072, .hidden),
  (0x2074, .otherNumber), (0x207a, .visible), (0x207f, .letter), (0x2080, .otherNumber),
  (0x208a, .visible), (0x208f, .hidden), (0x2090, .letter), (0x209d, .hidden), (0x20a0, .visible),
  (0x20c1, .hidden), (0x20d0, .mark), (0x20dd, .visible), (0x20e1, .mark), (0x20e2, .visible),
  (0x20e5, .mark), (0x20f1, .hidden), (0x2100, .visible), (0x2102, .letter), (0x2103, .visible),
  (0x2107, .letter), (0x2108, .visible), (0x210a, .letter), (0x2114, .visible), (0x2115, .letter),
  (0x2116, .visible), (0x2119, .letter), (0x211e, .visible), (0x2124, .letter),
  (0x2125, .visible), (0x2126, .letter), (0x2127, .visible), (0x2128, .letter),
  (0x2129, .visible), (0x212a, .letter), (0x212e, .visible), (0x212f, .letter),
  (0x213a, .visible), (0x213c, .letter), (0x2140, .visible), (0x2145, .letter),
  (0x214a, .visible), (0x214e, .letter), (0x214f, .visible), (0x2150, .otherNumber),
  (0x2160, .letterNumber), (0x2183, .letter), (0x2185, .letterNumber), (0x2189, .otherNumber),
  (0x218a, .visible), (0x218c, .hidden), (0x2190, .visible), (0x2427, .hidden),
  (0x2440, .visible), (0x244b, .hidden), (0x2460, .otherNumber), (0x249c, .visible),
  (0x24ea, .otherNumber), (0x2500, .visible), (0x2776, .otherNumber), (0x2794, .visible),
  (0x2b74, .hidden), (0x2b76, .visible), (0x2b96, .hidden), (0x2b97, .visible), (0x2c00, .letter),
  (0x2ce5, .visible), (0x2ceb, .letter), (0x2cef, .mark), (0x2cf2, .letter), (0x2cf4, .hidden),
  (0x2cf9, .visible), (0x2cfd, .otherNumber), (0x2cfe, .visible), (0x2d00, .letter),
  (0x2d26, .hidden), (0x2d27, .letter), (0x2d28, .hidden), (0x2d2d, .letter), (0x2d2e, .hidden),
  (0x2d30, .letter), (0x2d68, .hidden), (0x2d6f, .letter), (0x2d70, .visible), (0x2d71, .hidden),
  (0x2d7f, .mark), (0x2d80, .letter), (0x2d97, .hidden), (0x2da0, .letter), (0x2da7, .hidden),
  (0x2da8, .letter), (0x2daf, .hidden), (0x2db0, .letter), (0x2db7, .hidden), (0x2db8, .letter),
  (0x2dbf, .hidden), (0x2dc0, .letter), (0x2dc7, .hidden), (0x2dc8, .letter), (0x2dcf, .hidden),
  (0x2dd0, .letter), (0x2dd7, .hidden), (0x2dd8, .letter), (0x2ddf, .hidden), (0x2de0, .mark),
  (0x2e00, .visible), (0x2e2f, .letter), (0x2e30, .visible), (0x2e5e, .hidden),
  (0x2e80, .visible), (0x2e9a, .hidden), (0x2e9b, .visible), (0x2ef4, .hidden),
  (0x2f00, .visible), (0x2fd6, .hidden), (0x2ff0, .visible), (0x2ffc, .hidden),
  (0x3001, .visible), (0x3005, .letter), (0x3007, .letterNumber), (0x3008, .visible),
  (0x3021, .letterNumber), (0x302a, .mark), (0x3030, .visible), (0x3031, .letter),
  (0x3036, .visible), (0x3038, .letterNumber), (0x303b, .letter), (0x303d, .visible),
  (0x3040, .hidden), (0x3041, .letter), (0x3097, .hidden), (0x3099, .mark), (0x309b, .visible),
  (0x309d, .letter), (0x30a0, .visible), (0x30a1, .letter), (0x30fb, .visible), (0x30fc, .letter),
  (0x3100, .hidden), (0x3105, .letter), (0x3130, .hidden), (0x3131, .letter), (0x318f, .hidden),
  (0x3190, .visible), (0x3192, .otherNumber), (0x3196, .visible), (0x31a0, .letter),
  (0x31c0, .visible), (0x31e4, .hidden), (0x31f0, .letter), (0x3200, .visible), (0x321f, .hidden),
  (0x3220, .otherNumber), (0x322a, .visible), (0x3248, .otherNumber), (0x3250, .visible),
  (0x3251, .otherNumber), (0x3260, .visible), (0x3280, .otherNumber), (0x328a, .visible),
  (0x32b1, .otherNumber), (0x32c0, .visible), (0x3400, .letter), (0x4dc0, .visible),
  (0x4e00, .letter), (0xa48d, .hidden), (0xa490, .visible), (0xa4c7, .hidden), (0xa4d0, .letter),
  (0xa4fe, .visible), (0xa500, .letter), (0xa60d, .visible), (0xa610, .letter), (0xa620, .digit),
  (0xa62a, .letter), (0xa62c, .hidden), (0xa640, .letter), (0xa66f, .mark), (0xa670, .visible),
  (0xa674, .mark), (0xa67e, .visible), (0xa67f, .letter), (0xa69e, .mark), (0xa6a0, .letter),
  (0xa6e6, .letterNumber), (0xa6f0, .mark), (0xa6f2, .visible), (0xa6f8, .hidden),
  (0xa700, .visible), (0xa717, .letter), (0xa720, .visible), (0xa722, .letter),
  (0xa789, .visible), (0xa78b, .letter), (0xa7cb, .hidden), (0xa7d0, .letter), (0xa7d2, .hidden),
  (0xa7d3, .letter), (0xa7d4, .hidden), (0xa7d5, .letter), (0xa7da, .hidden), (0xa7f2, .letter),
  (0xa802, .mark), (0xa803, .letter), (0xa806, .mark), (0xa807, .letter), (0xa80b, .mark),
  (0xa80c, .letter), (0xa823, .mark), (0xa828, .visible), (0xa82c, .mark), (0xa82d, .hidden),
  (0xa830, .otherNumber), (0xa836, .visible), (0xa83a, .hidden), (0xa840, .letter),
  (0xa874, .visible), (0xa878, .hidden), (0xa880, .mark), (0xa882, .letter), (0xa8b4, .mark),
  (0xa8c6, .hidden), (0xa8ce, .visible), (0xa8d0, .digit), (0xa8da, .hidden), (0xa8e0, .mark),
  (0xa8f2, .letter), (0xa8f8, .visible), (0xa8fb, .letter), (0xa8fc, .visible), (0xa8fd, .letter),
  (0xa8ff, .mark), (0xa900, .digit), (0xa90a, .letter), (0xa926, .mark), (0xa92e, .visible),
  (0xa930, .letter), (0xa947, .mark), (0xa954, .hidden), (0xa95f, .visible), (0xa960, .letter),
  (0xa97d, .hidden), (0xa980, .mark), (0xa984, .letter), (0xa9b3, .mark), (0xa9c1, .visible),
  (0xa9ce, .hidden), (0xa9cf, .letter), (0xa9d0, .digit), (0xa9da, .hidden), (0xa9de, .visible),
  (0xa9e0, .letter), (0xa9e5, .mark), (0xa9e6, .letter), (0xa9f0, .digit), (0xa9fa, .letter),
  (0xa9ff, .hidden), (0xaa00, .letter), (0xaa29, .mark), (0xaa37, .hidden), (0xaa40, .letter),
  (0xaa43, .mark), (0xaa44, .letter), (0xaa4c, .mark), (0xaa4e, .hidden), (0xaa50, .digit),
  (0xaa5a, .hidden), (0xaa5c, .visible), (0xaa60, .letter), (0xaa77, .visible), (0xaa7a, .letter),
  (0xaa7b, .mark), (0xaa7e, .letter), (0xaab0, .mark), (0xaab1, .letter), (0xaab2, .mark),
  (0xaab5, .letter), (0xaab7, .mark), (0xaab9, .letter), (0xaabe, .mark), (0xaac0, .letter),
  (0xaac1, .mark), (0xaac2, .letter), (0xaac3, .hidden), (0xaadb, .letter), (0xaade, .visible),
  (0xaae0, .letter), (0xaaeb, .mark), (0xaaf0, .visible), (0xaaf2, .letter), (0xaaf5, .mark),
  (0xaaf7, .hidden), (0xab01, .letter), (0xab07, .hidden), (0xab09, .letter), (0xab0f, .hidden),
  (0xab11, .letter), (0xab17, .hidden), (0xab20, .letter), (0xab27, .hidden), (0xab28, .letter),
  (0xab2f, .hidden), (0xab30, .letter), (0xab5b, .visible), (0xab5c, .letter), (0xab6a, .visible),
  (0xab6c, .hidden), (0xab70, .letter), (0xabe3, .mark), (0xabeb, .visible), (0xabec, .mark),
  (0xabee, .hidden), (0xabf0, .digit), (0xabfa, .hidden), (0xac00, .letter), (0xd7a4, .hidden),
  (0xd7b0, .letter), (0xd7c7, .hidden), (0xd7cb, .letter), (0xd7fc, .hidden), (0xf900, .letter),
  (0xfa6e, .hidden), (0xfa70, .letter), (0xfada, .hidden), (0xfb00, .letter), (0xfb07, .hidden),
  (0xfb13, .letter), (0xfb18, .hidden), (0xfb1d, .letter), (0xfb1e, .mark), (0xfb1f, .letter),
  (0xfb29, .visible), (0xfb2a, .letter), (0xfb37, .hidden), (0xfb38, .letter), (0xfb3d, .hidden),
  (0xfb3e, .letter), (0xfb3f, .hidden), (0xfb40, .letter), (0xfb42, .hidden), (0xfb43, .letter),
  (0xfb45, .hidden), (0xfb46, .letter), (0xfbb2, .visible), (0xfbc3, .hidden), (0xfbd3, .letter),
  (0xfd3e, .visible), (0xfd50, .letter), (0xfd90, .hidden), (0xfd92, .letter), (0xfdc8, .hidden),
  (0xfdcf, .visible), (0xfdd0, .hidden), (0xfdf0, .letter), (0xfdfc, .visible), (0xfe00, .mark),
  (0xfe10, .visible), (0xfe1a, .hidden), (0xfe20, .mark), (0xfe30, .visible),
  (0xfe33, .connector), (0xfe35, .visible), (0xfe4d, .connector), (0xfe50, .visible),
  (0xfe53, .hidden), (0xfe54, .visible), (0xfe67, .hidden), (0xfe68, .visible), (0xfe6c, .hidden),
  (0xfe70, .letter), (0xfe75, .hidden), (0xfe76, .letter), (0xfefd, .hidden), (0xff01, .visible),
  (0xff10, .digit), (0xff1a, .visible), (0xff21, .letter), (0xff3b, .visible),
  (0xff3f, .connector), (0xff40, .visible), (0xff41, .letter), (0xff5b, .visible),
  (0xff66, .letter), (0xffbf, .hidden), (0xffc2, .letter), (0xffc8, .hidden), (0xffca, .letter),
  (0xffd0, .hidden), (0xffd2, .letter), (0xffd8, .hidden), (0xffda, .letter), (0xffdd, .hidden),
  (0xffe0, .visible), (0xffe7, .hidden), (0xffe8, .visible), (0xffef, .hidden),
  (0xfffc, .visible), (0xfffe, .hidden), (0x10000, .letter), (0x1000c, .hidden),
  (0x1000d, .letter), (0x10027, .hidden), (0x10028, .letter), (0x1003b, .hidden),
  (0x1003c, .letter), (0x1003e, .hidden), (0x1003f, .letter), (0x1004e, .hidden),
  (0x10050, .letter), (0x1005e, .hidden), (0x10080, .letter), (0x100fb, .hidden),
  (0x10100, .visible), (0x10103, .hidden), (0x10107, .otherNumber), (0x10134, .hidden),
  (0x10137, .visible), (0x10140, .letterNumber), (0x10175, .otherNumber), (0x10179, .visible),
  (0x1018a, .otherNumber), (0x1018c, .visible), (0x1018f, .hidden), (0x10190, .visible),
  (0x1019d, .hidden), (0x101a0, .visible), (0x101a1, .hidden), (0x101d0, .visible),
  (0x101fd, .mark), (0x101fe, .hidden), (0x10280, .letter), (0x1029d, .hidden),
  (0x102a0, .letter), (0x102d1, .hidden), (0x102e0, .mark), (0x102e1, .otherNumber),
  (0x102fc, .hidden), (0x10300, .letter), (0x10320, .otherNumber), (0x10324, .hidden),
  (0x1032d, .letter), (0x10341, .letterNumber), (0x10342, .letter), (0x1034a, .letterNumber),
  (0x1034b, .hidden), (0x10350, .letter), (0x10376, .mark), (0x1037b, .hidden),
  (0x10380, .letter), (0x1039e, .hidden), (0x1039f, .visible), (0x103a0, .letter),
  (0x103c4, .hidden), (0x103c8, .letter), (0x103d0, .visible), (0x103d1, .letterNumber),
  (0x103d6, .hidden), (0x10400, .letter), (0x1049e, .hidden), (0x104a0, .digit),
  (0x104aa, .hidden), (0x104b0, .letter), (0x104d4, .hidden), (0x104d8, .letter),
  (0x104fc, .hidden), (0x10500, .letter), (0x10528, .hidden), (0x10530, .letter),
  (0x10564, .hidden), (0x1056f, .visible), (0x10570, .letter), (0x1057b, .hidden),
  (0x1057c, .letter), (0x1058b, .hidden), (0x1058c, .letter), (0x10593, .hidden),
  (0x10594, .letter), (0x10596, .hidden), (0x10597, .letter), (0x105a2, .hidden),
  (0x105a3, .letter), (0x105b2, .hidden), (0x105b3, .letter), (0x105ba, .hidden),
  (0x105bb, .letter), (0x105bd, .hidden), (0x10600, .letter), (0x10737, .hidden),
  (0x10740, .letter), (0x10756, .hidden), (0x10760, .letter), (0x10768, .hidden),
  (0x10780, .letter), (0x10786, .hidden), (0x10787, .letter), (0x107b1, .hidden),
  (0x107b2, .letter), (0x107bb, .hidden), (0x10800, .letter), (0x10806, .hidden),
  (0x10808, .letter), (0x10809, .hidden), (0x1080a, .letter), (0x10836, .hidden),
  (0x10837, .letter), (0x10839, .hidden), (0x1083c, .letter), (0x1083d, .hidden),
  (0x1083f, .letter), (0x10856, .hidden), (0x10857, .visible), (0x10858, .otherNumber),
  (0x10860, .letter), (0x10877, .visible), (0x10879, .otherNumber), (0x10880, .letter),
  (0x1089f, .hidden), (0x108a7, .otherNumber), (0x108b0, .hidden), (0x108e0, .letter),
  (0x108f3, .hidden), (0x108f4, .letter), (0x108f6, .hidden), (0x108fb, .otherNumber),
  (0x10900, .letter), (0x10916, .otherNumber), (0x1091c, .hidden), (0x1091f, .visible),
  (0x10920, .letter), (0x1093a, .hidden), (0x1093f, .visible), (0x10940, .hidden),
  (0x10980, .letter), (0x109b8, .hidden), (0x109bc, .otherNumber), (0x109be, .letter),
  (0x109c0, .otherNumber), (0x109d0, .hidden), (0x109d2, .otherNumber), (0x10a00, .letter),
  (0x10a01, .mark), (0x10a04, .hidden), (0x10a05, .mark), (0x10a07, .hidden), (0x10a0c, .mark),
  (0x10a10, .letter), (0x10a14, .hidden), (0x10a15, .letter), (0x10a18, .hidden),
  (0x10a19, .letter), (0x10a36, .hidden), (0x10a38, .mark), (0x10a3b, .hidden), (0x10a3f, .mark),
  (0x10a40, .otherNumber), (0x10a49, .hidden), (0x10a50, .visible), (0x10a59, .hidden),
  (0x10a60, .letter), (0x10a7d, .otherNumber), (0x10a7f, .visible), (0x10a80, .letter),
  (0x10a9d, .otherNumber), (0x10aa0, .hidden), (0x10ac0, .letter), (0x10ac8, .visible),
  (0x10ac9, .letter), (0x10ae5, .mark), (0x10ae7, .hidden), (0x10aeb, .otherNumber),
  (0x10af0, .visible), (0x10af7, .hidden), (0x10b00, .letter), (0x10b36, .hidden),
  (0x10b39, .visible), (0x10b40, .letter), (0x10b56, .hidden), (0x10b58, .otherNumber),
  (0x10b60, .letter), (0x10b73, .hidden), (0x10b78, .otherNumber), (0x10b80, .letter),
  (0x10b92, .hidden), (0x10b99, .visible), (0x10b9d, .hidden), (0x10ba9, .otherNumber),
  (0x10bb0, .hidden), (0x10c00, .letter), (0x10c49, .hidden), (0x10c80, .letter),
  (0x10cb3, .hidden), (0x10cc0, .letter), (0x10cf3, .hidden), (0x10cfa, .otherNumber),
  (0x10d00, .letter), (0x10d24, .mark), (0x10d28, .hidden), (0x10d30, .digit), (0x10d3a, .hidden),
  (0x10e60, .otherNumber), (0x10e7f, .hidden), (0x10e80, .letter), (0x10eaa, .hidden),
  (0x10eab, .mark), (0x10ead, .visible), (0x10eae, .hidden), (0x10eb0, .letter),
  (0x10eb2, .hidden), (0x10f00, .letter), (0x10f1d, .otherNumber), (0x10f27, .letter),
  (0x10f28, .hidden), (0x10f30, .letter), (0x10f46, .mark), (0x10f51, .otherNumber),
  (0x10f55, .visible), (0x10f5a, .hidden), (0x10f70, .letter), (0x10f82, .mark),
  (0x10f86, .visible), (0x10f8a, .hidden), (0x10fb0, .letter), (0x10fc5, .otherNumber),
  (0x10fcc, .hidden), (0x10fe0, .letter), (0x10ff7, .hidden), (0x11000, .mark),
  (0x11003, .letter), (0x11038, .mark), (0x11047, .visible), (0x1104e, .hidden),
  (0x11052, .otherNumber), (0x11066, .digit), (0x11070, .mark), (0x11071, .letter),
  (0x11073, .mark), (0x11075, .letter), (0x11076, .hidden), (0x1107f, .mark), (0x11083, .letter),
  (0x110b0, .mark), (0x110bb, .visible), (0x110bd, .hidden), (0x110be, .visible),
  (0x110c2, .mark), (0x110c3, .hidden), (0x110d0, .letter), (0x110e9, .hidden), (0x110f0, .digit),
  (0x110fa, .hidden), (0x11100, .mark), (0x11103, .letter), (0x11127, .mark), (0x11135, .hidden),
  (0x11136, .digit), (0x11140, .visible), (0x11144, .letter), (0x11145, .mark),
  (0x11147, .letter), (0x11148, .hidden), (0x11150, .letter), (0x11173, .mark),
  (0x11174, .visible), (0x11176, .letter), (0x11177, .hidden), (0x11180, .mark),
  (0x11183, .letter), (0x111b3, .mark), (0x111c1, .letter), (0x111c5, .visible), (0x111c9, .mark),
  (0x111cd, .visible), (0x111ce, .mark), (0x111d0, .digit), (0x111da, .letter),
  (0x111db, .visible), (0x111dc, .letter), (0x111dd, .visible), (0x111e0, .hidden),
  (0x111e1, .otherNumber), (0x111f5, .hidden), (0x11200, .letter), (0x11212, .hidden),
  (0x11213, .letter), (0x1122c, .mark), (0x11238, .visible), (0x1123e, .mark), (0x1123f, .hidden),
  (0x11280, .letter), (0x11287, .hidden), (0x11288, .letter), (0x11289, .hidden),
  (0x1128a, .letter), (0x1128e, .hidden), (0x1128f, .letter), (0x1129e, .hidden),
  (0x1129f, .letter), (0x112a9, .visible), (0x112aa, .hidden), (0x112b0, .letter),
  (0x112df, .mark), (0x112eb, .hidden), (0x112f0, .digit), (0x112fa, .hidden), (0x11300, .mark),
  (0x11304, .hidden), (0x11305, .letter), (0x1130d, .hidden), (0x1130f, .letter),
  (0x11311, .hidden), (0x11313, .letter), (0x11329, .hidden), (0x1132a, .letter),
  (0x11331, .hidden), (0x11332, .letter), (0x11334, .hidden), (0x11335, .letter),
  (0x1133a, .hidden), (0x1133b, .mark), (0x1133d, .letter), (0x1133e, .mark), (0x11345, .hidden),
  (0x11347, .mark), (0x11349, .hidden), (0x1134b, .mark), (0x1134e, .hidden), (0x11350, .letter),
  (0x11351, .hidden), (0x11357, .mark), (0x11358, .hidden), (0x1135d, .letter), (0x11362, .mark),
  (0x11364, .hidden), (0x11366, .mark), (0x1136d, .hidden), (0x11370, .mark), (0x11375, .hidden),
  (0x11400, .letter), (0x11435, .mark), (0x11447, .letter), (0x1144b, .visible),
  (0x11450, .digit), (0x1145a, .visible), (0x1145c, .hidden), (0x1145d, .visible),
  (0x1145e, .mark), (0x1145f, .letter), (0x11462, .hidden), (0x11480, .letter), (0x114b0, .mark),
  (0x114c4, .letter), (0x114c6, .visible), (0x114c7, .letter), (0x114c8, .hidden),
  (0x114d0, .digit), (0x114da, .hidden), (0x11580, .letter), (0x115af, .mark), (0x115b6, .hidden),
  (0x115b8, .mark), (0x115c1, .visible), (0x115d8, .letter), (0x115dc, .mark), (0x115de, .hidden),
  (0x11600, .letter), (0x11630, .mark), (0x11641, .visible), (0x11644, .letter),
  (0x11645, .hidden), (0x11650, .digit), (0x1165a, .hidden), (0x11660, .visible),
  (0x1166d, .hidden), (0x11680, .letter), (0x116ab, .mark), (0x116b8, .letter),
  (0x116b9, .visible), (0x116ba, .hidden), (0x116c0, .digit), (0x116ca, .hidden),
  (0x11700, .letter), (0x1171b, .hidden), (0x1171d, .mark), (0x1172c, .hidden), (0x11730, .digit),
  (0x1173a, .otherNumber), (0x1173c, .visible), (0x11740, .letter), (0x11747, .hidden),
  (0x11800, .letter), (0x1182c, .mark), (0x1183b, .visible), (0x1183c, .hidden),
  (0x118a0, .letter), (0x118e0, .digit), (0x118ea, .otherNumber), (0x118f3, .hidden),
  (0x118ff, .letter), (0x11907, .hidden), (0x11909, .letter), (0x1190a, .hidden),
  (0x1190c, .letter), (0x11914, .hidden), (0x11915, .letter), (0x11917, .hidden),
  (0x11918, .letter), (0x11930, .mark), (0x11936, .hidden), (0x11937, .mark), (0x11939, .hidden),
  (0x1193b, .mark), (0x1193f, .letter), (0x11940, .mark), (0x11941, .letter), (0x11942, .mark),
  (0x11944, .visible), (0x11947, .hidden), (0x11950, .digit), (0x1195a, .hidden),
  (0x119a0, .letter), (0x119a8, .hidden), (0x119aa, .letter), (0x119d1, .mark),
  (0x119d8, .hidden), (0x119da, .mark), (0x119e1, .letter), (0x119e2, .visible),
  (0x119e3, .letter), (0x119e4, .mark), (0x119e5, .hidden), (0x11a00, .letter), (0x11a01, .mark),
  (0x11a0b, .letter), (0x11a33, .mark), (0x11a3a, .letter), (0x11a3b, .mark), (0x11a3f, .visible),
  (0x11a47, .mark), (0x11a48, .hidden), (0x11a50, .letter), (0x11a51, .mark), (0x11a5c, .letter),
  (0x11a8a, .mark), (0x11a9a, .visible), (0x11a9d, .letter), (0x11a9e, .visible),
  (0x11aa3, .hidden), (0x11ab0, .letter), (0x11af9, .hidden), (0x11c00, .letter),
  (0x11c09, .hidden), (0x11c0a, .letter), (0x11c2f, .mark), (0x11c37, .hidden), (0x11c38, .mark),
  (0x11c40, .letter), (0x11c41, .visible), (0x11c46, .hidden), (0x11c50, .digit),
  (0x11c5a, .otherNumber), (0x11c6d, .hidden), (0x11c70, .visible), (0x11c72, .letter),
  (0x11c90, .hidden), (0x11c92, .mark), (0x11ca8, .hidden), (0x11ca9, .mark), (0x11cb7, .hidden),
  (0x11d00, .letter), (0x11d07, .hidden), (0x11d08, .letter), (0x11d0a, .hidden),
  (0x11d0b, .letter), (0x11d31, .mark), (0x11d37, .hidden), (0x11d3a, .mark), (0x11d3b, .hidden),
  (0x11d3c, .mark), (0x11d3e, .hidden), (0x11d3f, .mark), (0x11d46, .letter), (0x11d47, .mark),
  (0x11d48, .hidden), (0x11d50, .digit), (0x11d5a, .hidden), (0x11d60, .letter),
  (0x11d66, .hidden), (0x11d67, .letter), (0x11d69, .hidden), (0x11d6a, .letter),
  (0x11d8a, .mark), (0x11d8f, .hidden), (0x11d90, .mark), (0x11d92, .hidden), (0x11d93, .mark),
  (0x11d98, .letter), (0x11d99, .hidden), (0x11da0, .digit), (0x11daa, .hidden),
  (0x11ee0, .letter), (0x11ef3, .mark), (0x11ef7, .visible), (0x11ef9, .hidden),
  (0x11fb0, .letter), (0x11fb1, .hidden), (0x11fc0, .otherNumber), (0x11fd5, .visible),
  (0x11ff2, .hidden), (0x11fff, .visible), (0x12000, .letter), (0x1239a, .hidden),
  (0x12400, .letterNumber), (0x1246f, .hidden), (0x12470, .visible), (0x12475, .hidden),
  (0x12480, .letter), (0x12544, .hidden), (0x12f90, .letter), (0x12ff1, .visible),
  (0x12ff3, .hidden), (0x13000, .letter), (0x1342f, .hidden), (0x14400, .letter),
  (0x14647, .hidden), (0x16800, .letter), (0x16a39, .hidden), (0x16a40, .letter),
  (0x16a5f, .hidden), (0x16a60, .digit), (0x16a6a, .hidden), (0x16a6e, .visible),
  (0x16a70, .letter), (0x16abf, .hidden), (0x16ac0, .digit), (0x16aca, .hidden),
  (0x16ad0, .letter), (0x16aee, .hidden), (0x16af0, .mark), (0x16af5, .visible),
  (0x16af6, .hidden), (0x16b00, .letter), (0x16b30, .mark), (0x16b37, .visible),
  (0x16b40, .letter), (0x16b44, .visible), (0x16b46, .hidden), (0x16b50, .digit),
  (0x16b5a, .hidden), (0x16b5b, .otherNumber), (0x16b62, .hidden), (0x16b63, .letter),
  (0x16b78, .hidden), (0x16b7d, .letter), (0x16b90, .hidden), (0x16e40, .letter),
  (0x16e80, .otherNumber), (0x16e97, .visible), (0x16e9b, .hidden), (0x16f00, .letter),
  (0x16f4b, .hidden), (0x16f4f, .mark), (0x16f50, .letter), (0x16f51, .mark), (0x16f88, .hidden),
  (0x16f8f, .mark), (0x16f93, .letter), (0x16fa0, .hidden), (0x16fe0, .letter),
  (0x16fe2, .visible), (0x16fe3, .letter), (0x16fe4, .mark), (0x16fe5, .hidden), (0x16ff0, .mark),
  (0x16ff2, .hidden), (0x17000, .letter), (0x187f8, .hidden), (0x18800, .letter),
  (0x18cd6, .hidden), (0x18d00, .letter), (0x18d09, .hidden), (0x1aff0, .letter),
  (0x1aff4, .hidden), (0x1aff5, .letter), (0x1affc, .hidden), (0x1affd, .letter),
  (0x1afff, .hidden), (0x1b000, .letter), (0x1b123, .hidden), (0x1b150, .letter),
  (0x1b153, .hidden), (0x1b164, .letter), (0x1b168, .hidden), (0x1b170, .letter),
  (0x1b2fc, .hidden), (0x1bc00, .letter), (0x1bc6b, .hidden), (0x1bc70, .letter),
  (0x1bc7d, .hidden), (0x1bc80, .letter), (0x1bc89, .hidden), (0x1bc90, .letter),
  (0x1bc9a, .hidden), (0x1bc9c, .visible), (0x1bc9d, .mark), (0x1bc9f, .visible),
  (0x1bca0, .hidden), (0x1cf00, .mark), (0x1cf2e, .hidden), (0x1cf30, .mark), (0x1cf47, .hidden),
  (0x1cf50, .visible), (0x1cfc4, .hidden), (0x1d000, .visible), (0x1d0f6, .hidden),
  (0x1d100, .visible), (0x1d127, .hidden), (0x1d129, .visible), (0x1d165, .mark),
  (0x1d16a, .visible), (0x1d16d, .mark), (0x1d173, .hidden), (0x1d17b, .mark),
  (0x1d183, .visible), (0x1d185, .mark), (0x1d18c, .visible), (0x1d1aa, .mark),
  (0x1d1ae, .visible), (0x1d1eb, .hidden), (0x1d200, .visible), (0x1d242, .mark),
  (0x1d245, .visible), (0x1d246, .hidden), (0x1d2e0, .otherNumber), (0x1d2f4, .hidden),
  (0x1d300, .visible), (0x1d357, .hidden), (0x1d360, .otherNumber), (0x1d379, .hidden),
  (0x1d400, .letter), (0x1d455, .hidden), (0x1d456, .letter), (0x1d49d, .hidden),
  (0x1d49e, .letter), (0x1d4a0, .hidden), (0x1d4a2, .letter), (0x1d4a3, .hidden),
  (0x1d4a5, .letter), (0x1d4a7, .hidden), (0x1d4a9, .letter), (0x1d4ad, .hidden),
  (0x1d4ae, .letter), (0x1d4ba, .hidden), (0x1d4bb, .letter), (0x1d4bc, .hidden),
  (0x1d4bd, .letter), (0x1d4c4, .hidden), (0x1d4c5, .letter), (0x1d506, .hidden),
  (0x1d507, .letter), (0x1d50b, .hidden), (0x1d50d, .letter), (0x1d515, .hidden),
  (0x1d516, .letter), (0x1d51d, .hidden), (0x1d51e, .letter), (0x1d53a, .hidden),
  (0x1d53b, .letter), (0x1d53f, .hidden), (0x1d540, .letter), (0x1d545, .hidden),
  (0x1d546, .letter), (0x1d547, .hidden), (0x1d54a, .letter), (0x1d551, .hidden),
  (0x1d552, .letter), (0x1d6a6, .hidden), (0x1d6a8, .letter), (0x1d6c1, .visible),
  (0x1d6c2, .letter), (0x1d6db, .visible), (0x1d6dc, .letter), (0x1d6fb, .visible),
  (0x1d6fc, .letter), (0x1d715, .visible), (0x1d716, .letter), (0x1d735, .visible),
  (0x1d736, .letter), (0x1d74f, .visible), (0x1d750, .letter), (0x1d76f, .visible),
  (0x1d770, .letter), (0x1d789, .visible), (0x1d78a, .letter), (0x1d7a9, .visible),
  (0x1d7aa, .letter), (0x1d7c3, .visible), (0x1d7c4, .letter), (0x1d7cc, .hidden),
  (0x1d7ce, .digit), (0x1d800, .visible), (0x1da00, .mark), (0x1da37, .visible), (0x1da3b, .mark),
  (0x1da6d, .visible), (0x1da75, .mark), (0x1da76, .visible), (0x1da84, .mark),
  (0x1da85, .visible), (0x1da8c, .hidden), (0x1da9b, .mark), (0x1daa0, .hidden), (0x1daa1, .mark),
  (0x1dab0, .hidden), (0x1df00, .letter), (0x1df1f, .hidden), (0x1e000, .mark),
  (0x1e007, .hidden), (0x1e008, .mark), (0x1e019, .hidden), (0x1e01b, .mark), (0x1e022, .hidden),
  (0x1e023, .mark), (0x1e025, .hidden), (0x1e026, .mark), (0x1e02b, .hidden), (0x1e100, .letter),
  (0x1e12d, .hidden), (0x1e130, .mark), (0x1e137, .letter), (0x1e13e, .hidden), (0x1e140, .digit),
  (0x1e14a, .hidden), (0x1e14e, .letter), (0x1e14f, .visible), (0x1e150, .hidden),
  (0x1e290, .letter), (0x1e2ae, .mark), (0x1e2af, .hidden), (0x1e2c0, .letter), (0x1e2ec, .mark),
  (0x1e2f0, .digit), (0x1e2fa, .hidden), (0x1e2ff, .visible), (0x1e300, .hidden),
  (0x1e7e0, .letter), (0x1e7e7, .hidden), (0x1e7e8, .letter), (0x1e7ec, .hidden),
  (0x1e7ed, .letter), (0x1e7ef, .hidden), (0x1e7f0, .letter), (0x1e7ff, .hidden),
  (0x1e800, .letter), (0x1e8c5, .hidden), (0x1e8c7, .otherNumber), (0x1e8d0, .mark),
  (0x1e8d7, .hidden), (0x1e900, .letter), (0x1e944, .mark), (0x1e94b, .letter),
  (0x1e94c, .hidden), (0x1e950, .digit), (0x1e95a, .hidden), (0x1e95e, .visible),
  (0x1e960, .hidden), (0x1ec71, .otherNumber), (0x1ecac, .visible), (0x1ecad, .otherNumber),
  (0x1ecb0, .visible), (0x1ecb1, .otherNumber), (0x1ecb5, .hidden), (0x1ed01, .otherNumber),
  (0x1ed2e, .visible), (0x1ed2f, .otherNumber), (0x1ed3e, .hidden), (0x1ee00, .letter),
  (0x1ee04, .hidden), (0x1ee05, .letter), (0x1ee20, .hidden), (0x1ee21, .letter),
  (0x1ee23, .hidden), (0x1ee24, .letter), (0x1ee25, .hidden), (0x1ee27, .letter),
  (0x1ee28, .hidden), (0x1ee29, .letter), (0x1ee33, .hidden), (0x1ee34, .letter),
  (0x1ee38, .hidden), (0x1ee39, .letter), (0x1ee3a, .hidden), (0x1ee3b, .letter),
  (0x1ee3c, .hidden), (0x1ee42, .letter), (0x1ee43, .hidden), (0x1ee47, .letter),
  (0x1ee48, .hidden), (0x1ee49, .letter), (0x1ee4a, .hidden), (0x1ee4b, .letter),
  (0x1ee4c, .hidden), (0x1ee4d, .letter), (0x1ee50, .hidden), (0x1ee51, .letter),
  (0x1ee53, .hidden), (0x1ee54, .letter), (0x1ee55, .hidden), (0x1ee57, .letter),
  (0x1ee58, .hidden), (0x1ee59, .letter), (0x1ee5a, .hidden), (0x1ee5b, .letter),
  (0x1ee5c, .hidden), (0x1ee5d, .letter), (0x1ee5e, .hidden), (0x1ee5f, .letter),
  (0x1ee60, .hidden), (0x1ee61, .letter), (0x1ee63, .hidden), (0x1ee64, .letter),
  (0x1ee65, .hidden), (0x1ee67, .letter), (0x1ee6b, .hidden), (0x1ee6c, .letter),
  (0x1ee73, .hidden), (0x1ee74, .letter), (0x1ee78, .hidden), (0x1ee79, .letter),
  (0x1ee7d, .hidden), (0x1ee7e, .letter), (0x1ee7f, .hidden), (0x1ee80, .letter),
  (0x1ee8a, .hidden), (0x1ee8b, .letter), (0x1ee9c, .hidden), (0x1eea1, .letter),
  (0x1eea4, .hidden), (0x1eea5, .letter), (0x1eeaa, .hidden), (0x1eeab, .letter),
  (0x1eebc, .hidden), (0x1eef0, .visible), (0x1eef2, .hidden), (0x1f000, .visible),
  (0x1f02c, .hidden), (0x1f030, .visible), (0x1f094, .hidden), (0x1f0a0, .visible),
  (0x1f0af, .hidden), (0x1f0b1, .visible), (0x1f0c0, .hidden), (0x1f0c1, .visible),
  (0x1f0d0, .hidden), (0x1f0d1, .visible), (0x1f0f6, .hidden), (0x1f100, .otherNumber),
  (0x1f10d, .visible), (0x1f1ae, .hidden), (0x1f1e6, .visible), (0x1f203, .hidden),
  (0x1f210, .visible), (0x1f23c, .hidden), (0x1f240, .visible), (0x1f249, .hidden),
  (0x1f250, .visible), (0x1f252, .hidden), (0x1f260, .visible), (0x1f266, .hidden),
  (0x1f300, .visible), (0x1f6d8, .hidden), (0x1f6dd, .visible), (0x1f6ed, .hidden),
  (0x1f6f0, .visible), (0x1f6fd, .hidden), (0x1f700, .visible), (0x1f774, .hidden),
  (0x1f780, .visible), (0x1f7d9, .hidden), (0x1f7e0, .visible), (0x1f7ec, .hidden),
  (0x1f7f0, .visible), (0x1f7f1, .hidden), (0x1f800, .visible), (0x1f80c, .hidden),
  (0x1f810, .visible), (0x1f848, .hidden), (0x1f850, .visible), (0x1f85a, .hidden),
  (0x1f860, .visible), (0x1f888, .hidden), (0x1f890, .visible), (0x1f8ae, .hidden),
  (0x1f8b0, .visible), (0x1f8b2, .hidden), (0x1f900, .visible), (0x1fa54, .hidden),
  (0x1fa60, .visible), (0x1fa6e, .hidden), (0x1fa70, .visible), (0x1fa75, .hidden),
  (0x1fa78, .visible), (0x1fa7d, .hidden), (0x1fa80, .visible), (0x1fa87, .hidden),
  (0x1fa90, .visible), (0x1faad, .hidden), (0x1fab0, .visible), (0x1fabb, .hidden),
  (0x1fac0, .visible), (0x1fac6, .hidden), (0x1fad0, .visible), (0x1fada, .hidden),
  (0x1fae0, .visible), (0x1fae8, .hidden), (0x1faf0, .visible), (0x1faf7, .hidden),
  (0x1fb00, .visible), (0x1fb93, .hidden), (0x1fb94, .visible), (0x1fbcb, .hidden),
  (0x1fbf0, .digit), (0x1fbfa, .hidden), (0x20000, .letter), (0x2a6e0, .hidden),
  (0x2a700, .letter), (0x2b739, .hidden), (0x2b740, .letter), (0x2b81e, .hidden),
  (0x2b820, .letter), (0x2cea2, .hidden), (0x2ceb0, .letter), (0x2ebe1, .hidden),
  (0x2f800, .letter), (0x2fa1e, .hidden), (0x30000, .letter), (0x3134b, .hidden),
  (0xe0100, .mark), (0xe01f0, .hidden)]

/-- The category in force at `code`, given the one in force before the first listed run. -/
def categoryWithin (code : Nat) : Category → List (Nat × Category) → Category
  | current, [] => current
  | current, (start, next) :: rest =>
      if code < start then current else categoryWithin code next rest

def categoryOf (code : Nat) : Category :=
  categoryWithin code .hidden categoryRuns

def isLetter (char : Char) : Bool :=
  categoryOf char.toNat == .letter

def isDecimalDigit (char : Char) : Bool :=
  categoryOf char.toNat == .digit

def isWord (char : Char) : Bool :=
  match categoryOf char.toNat with
  | .letter | .digit | .letterNumber | .otherNumber => true
  | _ => char == '_'

/-- White space: the separators of every script and the control characters that act as such. -/
def isBlank (char : Char) : Bool :=
  [0x9, 0xa, 0xb, 0xc, 0xd, 0x1c, 0x1d, 0x1e, 0x1f, 0x20,
    0x85, 0xa0, 0x1680, 0x2000, 0x2001, 0x2002, 0x2003, 0x2004, 0x2005, 0x2006,
    0x2007, 0x2008, 0x2009, 0x200a, 0x2028, 0x2029, 0x202f, 0x205f, 0x3000].contains char.toNat

/-- Characters that are written as they are in quoted text: all but controls, format characters,
unassigned and private code points, and every separator other than the plain space. -/
def isPrintable (char : Char) : Bool :=
  char == ' ' || categoryOf char.toNat != .hidden

/-- Letters that do not start a name, since their compatibility form does not. -/
def nameStartExceptions : List Nat := [
  0x37a, 0xe33, 0xeb3, 0x2e2f, 0xfc5e, 0xfc5f, 0xfc60, 0xfc61, 0xfc62, 0xfc63, 0xfdfa, 0xfdfb,
  0xfe70, 0xfe72, 0xfe74, 0xfe76, 0xfe78, 0xfe7a, 0xfe7c, 0xfe7e, 0xff9e, 0xff9f]

/-- Letters and marks that do not continue a name, since their compatibility form does not. -/
def nameContinueExceptions : List Nat := [
  0x37a, 0x2e2f, 0xfc5e, 0xfc5f, 0xfc60, 0xfc61, 0xfc62, 0xfc63, 0xfdfa, 0xfdfb, 0xfe70, 0xfe72,
  0xfe74, 0xfe76, 0xfe78, 0xfe7a, 0xfe7c, 0xfe7e]

def isNameStart (char : Char) : Bool :=
  match categoryOf char.toNat with
  | .letter | .letterNumber => !nameStartExceptions.contains char.toNat
  | _ => [0x5f, 0x1885, 0x1886, 0x2118, 0x212e].contains char.toNat

def isNameContinue (char : Char) : Bool :=
  match categoryOf char.toNat with
  | .letter | .letterNumber | .digit | .mark | .connector =>
      !nameContinueExceptions.contains char.toNat
  | _ =>
      [0xb7, 0x387, 0x1369, 0x136a, 0x136b, 0x136c, 0x136d, 0x136e, 0x136f,
        0x1370, 0x1371, 0x19da, 0x2118, 0x212e].contains char.toNat

/-- An identifier: a non-empty name of name characters. -/
def isName (name : String) : Bool :=
  match name.toList with
  | [] => false
  | first :: rest => isNameStart first && rest.all isNameContinue

end UrlRouting.Text
