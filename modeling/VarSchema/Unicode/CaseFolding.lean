import VarSchema.Unicode.CharSet

/-!
# Characters that differ in case only

* `CaseFolding.offsets` : each character with the later ones that differ from it in case only;
* `CaseFolding.pairs` : the same as pairs of code points;
* `CharSet.folded` : a set and all characters that differ from a member in case only;
  `CharSet.asciiFolded` : the same within ASCII.
-/

namespace VarSchema

namespace CaseFolding

/-- Distances of code points, with the first characters of the pairs at that distance. -/
def offsets : List (Nat × String) := [
  (0x1, "
    100-12e/2 132-136/2 139-147/2 14a-176/2 179-17d/2 182 184 187 18b 191 198 1a0-1a4/2 1a7 1ac
    1af 1b3 1b5 1b8 1bc 1c4-1cd/3 1cf-1db/2 1de-1ee/2 1f1 1f4 1f8-21e/2 222-232/2 23b 241
    246-24e/2 370 372 376 3d8-3ee/2 3f7 3fa 460-480/2 48a-4be/2 4c1-4cd/2 4d0-52e/2 1c89
    1e00-1e94/2 1ea0-1efe/2 2183 2c60 2c67-2c6b/2 2c72 2c75 2c80-2ce2/2 2ceb 2ced 2cf2
    a640-a648/2 a64c-a66c/2 a680-a69a/2 a722-a72e/2 a732-a76e/2 a779 a77b a77e-a786/2 a78b a790
    a792 a796-a7a8/2 a7b4-a7c2/2 a7c7 a7c9 a7cc-a7da/2 a7f5 fb05"),
  (0x2, "1c4-1ca/3 1f1"), (0x7, "3f2 1fe5"),
  (0x8, "
    3cf 13f0-13f5 1f00-1f07 1f10-1f15 1f20-1f27 1f30-1f37 1f40-1f45 1f51-1f57/2 1f60-1f67
    1f80-1f87 1f90-1f97 1fa0-1fa7 1fb0-1fb1 1fd0-1fd1 1fe0-1fe1"),
  (0x9, "1fb3 1fc3 1ff3"), (0xF, "4c0"), (0x10, "2160-216f"), (0x1A, "24b6-24cf"),
  (0x1B, "16ea0-16eb8"), (0x1C, "2132"), (0x1F, "3a3"),
  (0x20, "
    41-5a c0-d6 d8-de 391-398 39a-39b 39d-3a1 3a3-3ab 410-42f ff21-ff3a 10d50-10d65 118a0-118bf
    16e40-16e5f"),
  (0x22, "1e900-1e921"), (0x25, "388-38a"), (0x26, "386"),
  (0x27, "10570-1057a 1057c-1058a 1058c-10592 10594-10595"), (0x28, "10400-10427 104b0-104d3"),
  (0x2F, "3a6"), (0x30, "531-556 2c00-2c2f a794"), (0x36, "3a0"), (0x38, "1bf"), (0x39, "398"),
  (0x3B, "1e60"), (0x3E, "392"), (0x3F, "38e-38f"), (0x40, "38c 10c80-10cb2"), (0x45, "244"),
  (0x47, "245"), (0x4A, "1f70-1f71"), (0x4F, "18e"), (0x50, "3a1 400-40f"), (0x54, "345"),
  (0x56, "39a 1f72-1f75"), (0x5C, "398"), (0x60, "395"), (0x61, "195"), (0x64, "1f76-1f77"),
  (0x70, "1f7a-1f7b"), (0x74, "345 37f"), (0x79, "ff"), (0x7E, "1f7c-1f7d"), (0x80, "1f78-1f79"),
  (0x82, "19e 37b-37d"), (0xA3, "19a"), (0xC3, "180"), (0xCA, "18f"), (0xCB, "190"),
  (0xCD, "189-18a 193"), (0xCE, "186"), (0xCF, "194"), (0xD1, "197"), (0xD2, "181"),
  (0xD3, "196 19c"), (0xD5, "19d"), (0xD6, "19f"), (0xD9, "1b1-1b2"), (0xDA, "1a6 1a9 1ae"),
  (0xDB, "1b7"), (0x12C, "53"), (0x2E7, "b5"), (0x307, "b5"), (0x3A0, "a7b3"),
  (0xBC0, "10d0-10fa 10fd-10ff"), (0xEE6, "1d7d"), (0x1825, "462"), (0x185C, "42a"),
  (0x1862, "421-422"), (0x1863, "422"), (0x1864, "41e"), (0x186D, "414"), (0x186E, "412"),
  (0x1C33, "3b0"), (0x1C43, "390"), (0x1C60, "10a0-10c5 10c7 10cd"), (0x1C79, "345"),
  (0x1D7D, "3a9"), (0x1DBF, "df"), (0x2066, "c5"), (0x20DF, "4b"), (0x29E7, "27d"), (0x29F7, "26b"),
  (0x29FD, "271"), (0x2A1C, "251"), (0x2A1E, "252"), (0x2A1F, "250"), (0x2A28, "23e"),
  (0x2A2B, "23a"), (0x2A3F, "23f-240"), (0x89C2, "1c88"), (0x89C3, "1c88"), (0x8A04, "1d79"),
  (0x8A38, "1d8e"), (0x97D0, "13a0-13ef"), (0xA512, "29e"), (0xA515, "29d"), (0xA528, "265"),
  (0xA52A, "287"), (0xA541, "26c"), (0xA543, "282"), (0xA544, "266 26a"), (0xA54B, "261"),
  (0xA54F, "25c"), (0xA567, "264"), (0xA641, "19b")]

/-- The pairs of characters that differ in case only, the lower code point first. All characters that
differ in case only have one lowest code point. -/
def pairs : List (Nat × Nat) :=
  offsets.flatMap fun (offset, table) => (CharSet.ofTable table).codes.map fun n => (n, n + offset)

end CaseFolding

namespace CharSet

/-- The set and all characters that differ from a member in case only. -/
def folded (s : CharSet) : CharSet :=
  let lowest := ofRanges (CaseFolding.pairs.filterMap fun (a, b) =>
    if s.hasCode a || s.hasCode b then some (a, a) else none)
  ofRanges (s.ranges ++ CaseFolding.pairs.flatMap fun (a, b) =>
    if lowest.hasCode a then [(a, a), (b, b)] else [])

/-- The set and the ASCII letters that differ from a member in case only. -/
def asciiFolded (s : CharSet) : CharSet :=
  ofRanges (s.ranges ++ (List.range 26).flatMap fun i =>
    if s.hasCode (0x41 + i) || s.hasCode (0x61 + i) then [(0x41 + i, 0x41 + i), (0x61 + i, 0x61 + i)]
    else [])

end CharSet

end VarSchema
