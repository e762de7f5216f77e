/-!
# Text segmentation data

The grapheme cluster, sentence and word break properties of every code point.
-/

namespace ShapeKit.Unicode.Table

/-- The values of the grapheme cluster break property that some code point has, by long
name; a value's number is its position plus one. -/
def graphemeBreakValues : List String :=
  ["CR", "Control", "Extend", "L", "LF", "LV", "LVT", "Prepend", "Regional_Indicator", "SpacingMark", "T", "V", "ZWJ"]

/-- The grapheme cluster break value of every code point as consecutive runs from
`0` to `10FFFF`: hexadecimal numbers in pairs, the length of a run and the
number of its value (`0` for `Other`). -/
def graphemeBreakRuns : List String :=
  ["a 2 1 5 2 2 1 1 12 2 5f 0 21 2 d 0 1 2 252 0 70 3 113 0 7 3 107 0 2d 3 1 0 1 3 1 0 2 3 1 0 2 3 1",
   "0 1 3 38 0 6 8 a 0 b 3 1 0 1 2 2e 0 15 3 10 0 1 3 65 0 7 3 1 8 1 0 6 3 2 0 2 3 1 0 4 3 21 0 1 8",
   "1 0 1 3 1e 0 1b 3 5b 0 b 3 3a 0 9 3 9 0 1 3 18 0 4 3 1 0 9 3 1 0 3 3 1 0 5 3 2b 0 3 3 34 0 2 8 6",
   "0 8 3 2a 0 18 3 1 8 20 3 1 a 36 0 1 3 1 a 1 3 1 0 3 a 8 3 4 a 1 3 2 a 1 0 7 3 a 0 2 3 1d 0 1 3 2",
   "a 38 0 1 3 1 0 1 3 2 a 4 3 2 0 2 a 2 0 2 a 1 3 9 0 1 3 a 0 2 3 1a 0 1 3 2 0 2 3 1 a 38 0 1 3 1 0",
   "3 a 2 3 4 0 2 3 2 0 3 3 3 0 1 3 1e 0 2 3 3 0 1 3 b 0 2 3 1 a 38 0 1 3 1 0 3 a 5 3 1 0 2 3 1 a 1",
   "0 2 a 1 3 14 0 2 3 16 0 6 3 1 0 1 3 2 a 38 0 1 3 1 0 2 3 1 a 4 3 2 0 2 a 2 0 2 a 1 3 7 0 3 3 a 0",
   "2 3 1e 0 1 3 3b 0 1 3 1 a 1 3 2 a 3 0 3 a 1 0 3 a 1 3 9 0 1 3 28 0 1 3 3 a 1 3 37 0 1 3 1 0 3 3",
   "4 a 1 0 3 3 1 0 4 3 7 0 2 3 b 0 2 3 1d 0 1 3 2 a 38 0 1 3 1 0 1 a 1 3 2 a 1 3 2 a 1 0 1 3 2 a 1",
   "0 2 a 2 3 7 0 2 3 b 0 2 3 f 0 1 a c 0 2 3 2 a 37 0 2 3 1 0 1 3 2 a 4 3 1 0 3 a 1 0 3 a 1 3 1 8 8",
   "0 1 3 a 0 2 3 1d 0 1 3 2 a 46 0 1 3 4 0 1 3 2 a 3 3 1 0 1 3 1 0 7 a 1 3 12 0 2 a 3d 0 1 3 1 0 1",
   "a 7 3 c 0 8 3 62 0 1 3 1 0 1 a 9 3 b 0 7 3 49 0 2 3 1b 0 1 3 1 0 1 3 1 0 1 3 4 0 2 a 31 0 e 3 1",
   "a 5 3 1 0 2 3 5 0 b 3 1 0 24 3 9 0 1 3 66 0 4 3 1 a 6 3 1 0 2 3 2 a 2 3 17 0 2 a 2 3 4 0 3 3 10",
   "0 4 3 d 0 1 3 1 0 1 a 2 3 6 0 1 3 f 0 1 3 62 0 60 4 48 c 58 b 15d 0 3 3 3b2 0 3 3 1 a 1c 0 2 3 1",
   "a 1d 0 2 3 1e 0 2 3 40 0 2 3 1 a 7 3 8 a 1 3 2 a b 3 9 0 1 3 2d 0 3 3 1 2 1 3 75 0 2 3 22 0 1 3",
   "76 0 3 3 4 a 2 3 3 a 4 0 2 a 1 3 6 a 3 3 db 0 2 3 2 a 1 3 39 0 1 a 1 3 1 a 7 3 1 0 1 3 1 0 1 3 2",
   "0 8 3 6 a a 3 2 0 1 3 30 0 1f 3 31 0 4 3 1 a 2f 0 7 3 1 a 1 3 5 a 1 3 2 a 26 0 9 3 c 0 2 3 1 a",
   "1e 0 1 a 4 3 2 a 2 3 1 a 3 3 38 0 1 3 1 a 2 3 3 a 1 3 1 a 3 3 2 a 30 0 8 a 8 3 2 a 2 3 98 0 3 3",
   "1 0 d 3 1 a 7 3 4 0 1 3 6 0 1 3 2 0 1 a 2 3 c6 0 40 3 20b 0 1 2 1 3 1 d 2 2 18 0 7 2 31 0 10 2",
   "60 0 21 3 bfe 0 3 3 8d 0 1 3 60 0 20 3 22a 0 6 3 69 0 2 3 75d4 0 4 3 1 0 a 3 20 0 2 3 50 0 2 3",
   "110 0 1 3 3 0 1 3 4 0 1 3 17 0 2 a 2 3 1 a 4 0 1 3 53 0 2 a 32 0 10 a 2 3 1a 0 12 3 d 0 1 3 26 0",
   "8 3 19 0 b 3 2 a c 0 1d 4 3 0 3 3 1 a 2f 0 1 3 2 a 4 3 2 a 2 3 3 a 24 0 1 3 43 0 6 3 2 a 2 3 2 a",
   "2 3 c 0 1 3 8 0 1 3 1 a 2e 0 1 3 33 0 1 3 1 0 3 3 2 0 2 3 5 0 2 3 1 0 1 3 29 0 1 a 2 3 2 a 5 0 1",
   "a 1 3 ec 0 2 a 1 3 2 a 1 3 2 a 1 0 1 a 1 3 12 0 1 6 1b 7 1 6 1b 7 1 6 1b 7 1 6 1b 7 1 6 1b 7 1 6",
   "1b 7 1 6 1b 7 1 6 1b 7 1 6 1b 7 1 6 1b 7 1 6 1b 7 1 6 1b 7 1 6 1b 7 1 6 1b 7 1 6 1b 7 1 6 1b 7 1",
   "6 1b 7 1 6 1b 7 1 6 1b 7 1 6 1b 7 1 6 1b 7 1 6 1b 7 1 6 1b 7 1 6 1b 7 1 6 1b 7 1 6 1b 7 1 6 1b 7",
   "1 6 1b 7 1 6 1b 7 1 6 1b 7 1 6 1b 7 1 6 1b 7 1 6 1b 7 1 6 1b 7 1 6 1b 7 1 6 1b 7 1 6 1b 7 1 6 1b",
   "7 1 6 1b 7 1 6 1b 7 1 6 1b 7 1 6 1b 7 1 6 1b 7 1 6 1b 7 1 6 1b 7 1 6 1b 7 1 6 1b 7 1 6 1b 7 1 6",
   "1b 7 1 6 1b 7 1 6 1b 7 1 6 1b 7 1 6 1b 7 1 6 1b 7 1 6 1b 7 1 6 1b 7 1 6 1b 7 1 6 1b 7 1 6 1b 7 1",
   "6 1b 7 1 6 1b 7 1 6 1b 7 1 6 1b 7 1 6 1b 7 1 6 1b 7 1 6 1b 7 1 6 1b 7 1 6 1b 7 1 6 1b 7 1 6 1b 7",
   "1 6 1b 7 1 6 1b 7 1 6 1b 7 1 6 1b 7 1 6 1b 7 1 6 1b 7 1 6 1b 7 1 6 1b 7 1 6 1b 7 1 6 1b 7 1 6 1b",
   "7 1 6 1b 7 1 6 1b 7 1 6 1b 7 1 6 1b 7 1 6 1b 7 1 6 1b 7 1 6 1b 7 1 6 1b 7 1 6 1b 7 1 6 1b 7 1 6",
   "1b 7 1 6 1b 7 1 6 1b 7 1 6 1b 7 1 6 1b 7 1 6 1b 7 1 6 1b 7 1 6 1b 7 1 6 1b 7 1 6 1b 7 1 6 1b 7 1",
   "6 1b 7 1 6 1b 7 1 6 1b 7 1 6 1b 7 1 6 1b 7 1 6 1b 7 1 6 1b 7 1 6 1b 7 1 6 1b 7 1 6 1b 7 1 6 1b 7",
   "1 6 1b 7 1 6 1b 7 1 6 1b 7 1 6 1b 7 1 6 1b 7 1 6 1b 7 1 6 1b 7 1 6 1b 7 1 6 1b 7 1 6 1b 7 1 6 1b",
   "7 1 6 1b 7 1 6 1b 7 1 6 1b 7 1 6 1b 7 1 6 1b 7 1 6 1b 7 1 6 1b 7 1 6 1b 7 1 6 1b 7 1 6 1b 7 1 6",
   "1b 7 1 6 1b 7 1 6 1b 7 1 6 1b 7 1 6 1b 7 1 6 1b 7 1 6 1b 7 1 6 1b 7 1 6 1b 7 1 6 1b 7 1 6 1b 7 1",
   "6 1b 7 1 6 1b 7 1 6 1b 7 1 6 1b 7 1 6 1b 7 1 6 1b 7 1 6 1b 7 1 6 1b 7 1 6 1b 7 1 6 1b 7 1 6 1b 7",
   "1 6 1b 7 1 6 1b 7 1 6 1b 7 1 6 1b 7 1 6 1b 7 1 6 1b 7 1 6 1b 7 1 6 1b 7 1 6 1b 7 1 6 1b 7 1 6 1b",
   "7 1 6 1b 7 1 6 1b 7 1 6 1b 7 1 6 1b 7 1 6 1b 7 1 6 1b 7 1 6 1b 7 1 6 1b 7 1 6 1b 7 1 6 1b 7 1 6",
   "1b 7 1 6 1b 7 1 6 1b 7 1 6 1b 7 1 6 1b 7 1 6 1b 7 1 6 1b 7 1 6 1b 7 1 6 1b 7 1 6 1b 7 1 6 1b 7 1",
   "6 1b 7 1 6 1b 7 1 6 1b 7 1 6 1b 7 1 6 1b 7 1 6 1b 7 1 6 1b 7 1 6 1b 7 1 6 1b 7 1 6 1b 7 1 6 1b 7",
   "1 6 1b 7 1 6 1b 7 1 6 1b 7 1 6 1b 7 1 6 1b 7 1 6 1b 7 1 6 1b 7 1 6 1b 7 1 6 1b 7 1 6 1b 7 1 6 1b",
   "7 1 6 1b 7 1 6 1b 7 1 6 1b 7 1 6 1b 7 1 6 1b 7 1 6 1b 7 1 6 1b 7 1 6 1b 7 1 6 1b 7 1 6 1b 7 1 6",
   "1b 7 1 6 1b 7 1 6 1b 7 1 6 1b 7 1 6 1b 7 1 6 1b 7 1 6 1b 7 1 6 1b 7 1 6 1b 7 1 6 1b 7 1 6 1b 7 1",
   "6 1b 7 1 6 1b 7 1 6 1b 7 1 6 1b 7 1 6 1b 7 1 6 1b 7 1 6 1b 7 1 6 1b 7 1 6 1b 7 1 6 1b 7 1 6 1b 7",
   "1 6 1b 7 1 6 1b 7 1 6 1b 7 1 6 1b 7 1 6 1b 7 1 6 1b 7 1 6 1b 7 1 6 1b 7 1 6 1b 7 1 6 1b 7 1 6 1b",
   "7 1 6 1b 7 1 6 1b 7 1 6 1b 7 1 6 1b 7 1 6 1b 7 1 6 1b 7 1 6 1b 7 1 6 1b 7 1 6 1b 7 1 6 1b 7 1 6",
   "1b 7 1 6 1b 7 1 6 1b 7 1 6 1b 7 1 6 1b 7 1 6 1b 7 1 6 1b 7 1 6 1b 7 1 6 1b 7 1 6 1b 7 1 6 1b 7 1",
   "6 1b 7 1 6 1b 7 1 6 1b 7 1 6 1b 7 1 6 1b 7 1 6 1b 7 1 6 1b 7 1 6 1b 7 1 6 1b 7 1 6 1b 7 1 6 1b 7",
   "1 6 1b 7 1 6 1b 7 1 6 1b 7 1 6 1b 7 1 6 1b 7 1 6 1b 7 1 6 1b 7 1 6 1b 7 1 6 1b 7 1 6 1b 7 1 6 1b",
   "7 1 6 1b 7 1 6 1b 7 1 6 1b 7 1 6 1b 7 1 6 1b 7 1 6 1b 7 1 6 1b 7 1 6 1b 7 1 6 1b 7 1 6 1b 7 1 6",
   "1b 7 1 6 1b 7 1 6 1b 7 1 6 1b 7 1 6 1b 7 1 6 1b 7 1 6 1b 7 1 6 1b 7 1 6 1b 7 1 6 1b 7 1 6 1b 7 1",
   "6 1b 7 1 6 1b 7 1 6 1b 7 1 6 1b 7 1 6 1b 7 1 6 1b 7 1 6 1b 7 1 6 1b 7 1 6 1b 7 1 6 1b 7 1 6 1b 7",
   "1 6 1b 7 1 6 1b 7 1 6 1b 7 1 6 1b 7 1 6 1b 7 1 6 1b 7 1 6 1b 7 1 6 1b 7 1 6 1b 7 1 6 1b 7 1 6 1b",
   "7 1 6 1b 7 1 6 1b 7 1 6 1b 7 1 6 1b 7 1 6 1b 7 1 6 1b 7 1 6 1b 7 1 6 1b 7 1 6 1b 7 1 6 1b 7 1 6",
   "1b 7 1 6 1b 7 1 6 1b 7 1 6 1b 7 1 6 1b 7 1 6 1b 7 1 6 1b 7 1 6 1b 7 1 6 1b 7 1 6 1b 7 1 6 1b 7 1",
   "6 1b 7 1 6 1b 7 1 6 1b 7 1 6 1b 7 1 6 1b 7 1 6 1b 7 1 6 1b 7 1 6 1b 7 1 6 1b 7 1 6 1b 7 1 6 1b 7",
   "1 6 1b 7 1 6 1b 7 1 6 1b 7 1 6 1b 7 1 6 1b 7 1 6 1b 7 1 6 1b 7 1 6 1b 7 1 6 1b 7 1 6 1b 7 1 6 1b",
   "7 1 6 1b 7 1 6 1b 7 1 6 1b 7 1 6 1b 7 1 6 1b 7 1 6 1b 7 1 6 1b 7 1 6 1b 7 1 6 1b 7 1 6 1b 7 1 6",
   "1b 7 1 6 1b 7 1 6 1b 7 1 6 1b 7 1 6 1b 7 1 6 1b 7 1 6 1b 7 c 0 17 c 4 0 31 b 2322 0 1 3 2e1 0 10",
   "3 10 0 10 3 cf 0 1 2 9e 0 2 3 50 0 c 2 201 0 1 3 e2 0 1 3 95 0 5 3 686 0 3 3 1 0 2 3 5 0 4 3 28",
   "0 3 3 4 0 1 3 a5 0 2 3 23d 0 4 3 183 0 2 3 50 0 3 3 46 0 b 3 31 0 4 3 7a 0 1 a 1 3 1 a 35 0 f 3",
   "29 0 1 3 2 0 2 3 a 0 3 3 1 a 2d 0 3 a 4 3 2 a 2 3 2 0 1 8 4 0 1 3 a 0 1 8 32 0 3 3 24 0 5 3 1 a",
   "8 3 10 0 2 a 2c 0 1 3 c 0 2 3 1 a 30 0 3 a 9 3 2 a 1 0 2 8 5 0 4 3 1 0 1 a 1 3 5c 0 3 a 3 3 2 a",
   "1 3 1 a 2 3 6 0 1 3 2 0 1 3 9d 0 1 3 3 a 8 3 15 0 2 3 2 a 37 0 2 3 1 0 1 3 1 a 1 3 4 a 2 0 2 a 2",
   "0 3 a 9 0 1 3 a 0 2 a 2 0 7 3 3 0 5 3 c0 0 3 a 8 3 2 a 3 3 1 a 1 3 17 0 1 3 51 0 1 3 2 a 6 3 1 a",
   "1 3 2 a 1 3 1 a 2 3 1 a 2 3 eb 0 1 3 2 a 4 3 2 0 4 a 2 3 1 a 2 3 1b 0 2 3 52 0 3 a 8 3 2 a 1 3 1",
   "a 2 3 6a 0 1 3 1 a 1 3 2 a 6 3 1 a 1 3 65 0 3 3 2 0 4 3 1 a 5 3 100 0 3 a 9 3 1 a 2 3 f5 0 1 3 5",
   "a 1 0 2 a 2 0 2 3 1 a 1 3 1 8 1 a 1 8 1 a 1 3 8d 0 3 a 4 3 2 0 2 3 4 a 1 3 3 0 1 a 1c 0 a 3 28 0",
   "6 3 1 a 1 8 4 3 8 0 1 3 9 0 6 3 2 a 3 3 28 0 6 8 d 3 1 a 2 3 195 0 1 a 7 3 1 0 6 3 1 a 1 3 52 0",
   "16 3 1 0 1 a 7 3 1 a 2 3 1 a 2 3 7a 0 6 3 3 0 1 3 1 0 2 3 1 0 7 3 1 8 1 3 42 0 5 a 1 0 2 3 1 0 2",
   "a 1 3 1 a 1 3 15b 0 2 3 2 a 9 0 2 3 1 8 1 a 30 0 2 a 5 3 3 0 2 a 1 3 1 a 1 3 14ed 0 10 2 1 3 6 0",
   "f 3 369a 0 5 3 3b 0 7 3 418 0 1 3 1 0 37 a 7 0 4 3 51 0 1 3 b 0 2 a 4cab 0 2 3 1 0 4 2 125c 0 2e",
   "3 2 0 17 3 21e 0 1 3 1 a 3 3 3 0 1 a 5 3 8 2 8 3 2 0 7 3 1e 0 4 3 94 0 3 3 7bb 0 37 3 4 0 32 3 8",
   "0 1 3 e 0 1 3 16 0 5 3 1 0 f 3 550 0 7 3 1 0 11 3 2 0 7 3 1 0 2 3 1 0 5 3 64 0 1 3 a0 0 7 3 177",
   "0 1 3 3d 0 4 3 1fc 0 4 3 3e0 0 7 3 6d 0 7 3 89b 0 1a 9 1fb 0 5 3 c0c00 0 20 2 60 3 80 2 f0 3 e10",
   "2 2f000 0"]

/-- The values of the sentence break property that some code point has, by long
name; a value's number is its position plus one. -/
def sentenceBreakValues : List String :=
  ["ATerm", "CR", "Close", "Extend", "Format", "LF", "Lower", "Numeric", "OLetter", "SContinue", "STerm", "Sep", "Sp", "Upper"]

/-- The sentence break value of every code point as consecutive runs from
`0` to `10FFFF`: hexadecimal numbers in pairs, the length of a run and the
number of its value (`0` for `Other`). -/
def sentenceBreakRuns : List String :=
  ["9 0 1 d 1 6 2 d 1 2 12 0 1 d 1 b 1 3 4 0 3 3 2 0 2 a 1 1 1 0 a 8 1 a 4 0 1 b 1 0 1a e 1 3 1 0 1",
   "3 3 0 1a 7 1 3 1 0 1 3 7 0 1 c 1a 0 1 d 9 0 1 7 1 3 1 0 1 5 7 0 1 7 4 0 1 7 1 3 4 0 17 e 1 0 7 e",
   "18 7 1 0 8 7 1 e 1 7 1 e 1 7 1 e 1 7 1 e 1 7 1 e 1 7 1 e 1 7 1 e 1 7 1 e 1 7 1 e 1 7 1 e 1 7 1 e",
   "1 7 1 e 1 7 1 e 1 7 1 e 1 7 1 e 1 7 1 e 1 7 1 e 1 7 1 e 1 7 1 e 1 7 1 e 1 7 1 e 1 7 1 e 1 7 1 e",
   "1 7 1 e 1 7 1 e 1 7 1 e 1 7 1 e 1 7 1 e 2 7 1 e 1 7 1 e 1 7 1 e 1 7 1 e 1 7 1 e 1 7 1 e 1 7 1 e",
   "1 7 1 e 2 7 1 e 1 7 1 e 1 7 1 e 1 7 1 e 1 7 1 e 1 7 1 e 1 7 1 e 1 7 1 e 1 7 1 e 1 7 1 e 1 7 1 e",
   "1 7 1 e 1 7 1 e 1 7 1 e 1 7 1 e 1 7 1 e 1 7 1 e 1 7 1 e 1 7 1 e 1 7 1 e 1 7 1 e 1 7 1 e 1 7 1 e",
   "1 7 2 e 1 7 1 e 1 7 1 e 3 7 2 e 1 7 1 e 1 7 2 e 1 7 3 e 2 7 4 e 1 7 2 e 1 7 3 e 3 7 2 e 1 7 2 e",
   "1 7 1 e 1 7 1 e 1 7 2 e 1 7 1 e 2 7 1 e 1 7 2 e 1 7 3 e 1 7 1 e 1 7 2 e 2 7 1 9 1 e 3 7 4 9 2 e",
   "1 7 2 e 1 7 2 e 1 7 1 e 1 7 1 e 1 7 1 e 1 7 1 e 1 7 1 e 1 7 1 e 1 7 1 e 1 7 1 e 2 7 1 e 1 7 1 e",
   "1 7 1 e 1 7 1 e 1 7 1 e 1 7 1 e 1 7 1 e 1 7 1 e 1 7 1 e 2 7 2 e 1 7 1 e 1 7 3 e 1 7 1 e 1 7 1 e",
   "1 7 1 e 1 7 1 e 1 7 1 e 1 7 1 e 1 7 1 e 1 7 1 e 1 7 1 e 1 7 1 e 1 7 1 e 1 7 1 e 1 7 1 e 1 7 1 e",
   "1 7 1 e 1 7 1 e 1 7 1 e 1 7 1 e 1 7 1 e 1 7 1 e 1 7 1 e 1 7 1 e 1 7 1 e 1 7 1 e 1 7 1 e 1 7 1 e",
   "1 7 1 e 1 7 1 e 1 7 1 e 7 7 2 e 1 7 2 e 2 7 1 e 1 7 4 e 1 7 1 e 1 7 1 e 1 7 1 e 1 7 1 e 45 7 1 9",
   "24 7 7 9 2 7 4 0 c 9 e 0 5 7 7 0 1 9 1 0 1 9 11 0 70 4 1 e 1 7 1 e 1 7 1 9 1 0 1 e 1 7 2 0 4 7 1",
   "0 1 e 6 0 1 e 1 0 3 e 1 0 1 e 1 0 2 e 1 7 11 e 1 0 9 e 23 7 1 e 2 7 3 e 3 7 1 e 1 7 1 e 1 7 1 e",
   "1 7 1 e 1 7 1 e 1 7 1 e 1 7 1 e 1 7 1 e 1 7 1 e 1 7 1 e 1 7 1 e 1 7 1 e 5 7 1 e 1 7 1 0 1 e 1 7",
   "2 e 2 7 33 e 30 7 1 e 1 7 1 e 1 7 1 e 1 7 1 e 1 7 1 e 1 7 1 e 1 7 1 e 1 7 1 e 1 7 1 e 1 7 1 e 1",
   "7 1 e 1 7 1 e 1 7 1 e 1 7 1 e 1 7 1 e 1 7 1 e 1 7 1 e 1 7 1 0 7 4 1 e 1 7 1 e 1 7 1 e 1 7 1 e 1",
   "7 1 e 1 7 1 e 1 7 1 e 1 7 1 e 1 7 1 e 1 7 1 e 1 7 1 e 1 7 1 e 1 7 1 e 1 7 1 e 1 7 1 e 1 7 1 e 1",
   "7 1 e 1 7 1 e 1 7 1 e 1 7 1 e 1 7 1 e 1 7 1 e 1 7 1 e 1 7 1 e 1 7 1 e 1 7 1 e 1 7 1 e 1 7 2 e 1",
   "7 1 e 1 7 1 e 1 7 1 e 1 7 1 e 1 7 1 e 1 7 1 e 2 7 1 e 1 7 1 e 1 7 1 e 1 7 1 e 1 7 1 e 1 7 1 e 1",
   "7 1 e 1 7 1 e 1 7 1 e 1 7 1 e 1 7 1 e 1 7 1 e 1 7 1 e 1 7 1 e 1 7 1 e 1 7 1 e 1 7 1 e 1 7 1 e 1",
   "7 1 e 1 7 1 e 1 7 1 e 1 7 1 e 1 7 1 e 1 7 1 e 1 7 1 e 1 7 1 e 1 7 1 e 1 7 1 e 1 7 1 e 1 7 1 e 1",
   "7 1 e 1 7 1 e 1 7 1 e 1 7 1 e 1 7 1 e 1 7 1 e 1 7 1 e 1 7 1 e 1 7 1 e 1 7 1 e 1 7 1 e 1 7 1 e 1",
   "7 1 e 1 7 1 e 1 7 1 e 1 7 1 e 1 7 1 e 1 7 1 e 1 7 1 0 26 e 2 0 1 9 3 0 1 a 2 0 29 7 1 b 7 0 2d 4",
   "1 0 1 4 1 0 2 4 1 0 2 4 1 0 1 4 8 0 1b 9 4 0 5 9 c 0 6 5 6 0 2 a 2 0 b 4 1 0 1 5 3 b 2b 9 15 4 a",
   "8 1 0 2 8 1 0 2 9 1 4 63 9 1 b 1 9 7 4 1 5 1 0 6 4 2 9 2 4 1 0 4 4 2 9 a 8 3 9 2 0 1 9 3 b c 0 1",
   "5 1 9 1 4 1e 9 1b 4 2 0 59 9 b 4 1 9 e 0 a 8 21 9 9 4 2 9 2 0 1 a 1 b 1 9 2 0 1 4 2 0 16 9 4 4 1",
   "9 9 4 1 9 3 4 1 9 5 4 9 0 1 b 1 0 1 b 3 0 2 b 1 0 19 9 3 4 4 0 b 9 5 0 18 9 1 0 6 9 1 0 2 5 6 0",
   "8 4 2a 9 18 4 1 5 21 4 36 9 3 4 1 9 12 4 1 9 7 4 a 9 2 4 2 b a 8 1 0 10 9 3 4 1 0 8 9 2 0 2 9 2",
   "0 16 9 1 0 7 9 1 0 1 9 3 0 4 9 2 0 1 4 1 9 7 4 2 0 2 4 2 0 3 4 1 9 8 0 1 4 4 0 2 9 1 0 3 9 2 4 2",
   "0 a 8 2 9 a 0 1 9 1 0 1 4 2 0 3 4 1 0 6 9 4 0 2 9 2 0 16 9 1 0 7 9 1 0 2 9 1 0 2 9 1 0 2 9 2 0 1",
   "4 1 0 5 4 4 0 2 4 2 0 3 4 3 0 1 4 7 0 4 9 1 0 1 9 7 0 a 8 2 4 3 9 1 4 b 0 3 4 1 0 9 9 1 0 3 9 1",
   "0 16 9 1 0 7 9 1 0 2 9 1 0 5 9 2 0 1 4 1 9 8 4 1 0 3 4 1 0 3 4 2 0 1 9 f 0 2 9 2 4 2 0 a 8 9 0 1",
   "9 6 4 1 0 3 4 1 0 8 9 2 0 2 9 2 0 16 9 1 0 7 9 1 0 2 9 1 0 5 9 2 0 1 4 1 9 7 4 2 0 2 4 2 0 3 4 7",
   "0 3 4 4 0 2 9 1 0 3 9 2 4 2 0 a 8 1 0 1 9 10 0 1 4 1 9 1 0 6 9 3 0 3 9 1 0 4 9 3 0 2 9 1 0 1 9 1",
   "0 2 9 3 0 2 9 3 0 3 9 3 0 c 9 4 0 5 4 3 0 3 4 1 0 4 4 2 0 1 9 6 0 1 4 e 0 a 8 10 0 5 4 8 9 1 0 3",
   "9 1 0 17 9 1 0 10 9 2 0 1 4 1 9 7 4 1 0 3 4 1 0 4 4 7 0 2 4 1 0 3 9 2 0 1 9 2 0 2 9 2 4 2 0 a 8",
   "10 0 1 9 3 4 1 0 8 9 1 0 3 9 1 0 17 9 1 0 a 9 1 0 5 9 2 0 1 4 1 9 7 4 1 0 3 4 1 0 4 4 7 0 2 4 6",
   "0 2 9 1 0 2 9 2 4 2 0 a 8 1 0 2 9 1 4 c 0 4 4 9 9 1 0 3 9 1 0 29 9 2 4 1 9 7 4 1 0 3 4 1 0 4 4 1",
   "9 5 0 3 9 1 4 7 0 3 9 2 4 2 0 a 8 a 0 6 9 1 0 3 4 1 0 12 9 3 0 18 9 1 0 9 9 1 0 1 9 2 0 7 9 3 0",
   "1 4 4 0 6 4 1 0 1 4 1 0 8 4 6 0 a 8 2 0 2 4 d 0 30 9 1 4 2 9 7 4 5 0 7 9 8 4 1 0 a 8 27 0 2 9 1",
   "0 1 9 1 0 5 9 1 0 18 9 1 0 1 9 1 0 a 9 1 4 2 9 9 4 1 9 2 0 5 9 1 0 1 9 1 0 7 4 1 0 a 8 2 0 4 9",
   "20 0 1 9 17 0 2 4 6 0 a 8 b 0 1 4 1 0 1 4 1 0 1 4 4 3 2 4 8 9 1 0 24 9 4 0 14 4 1 0 2 4 5 9 b 4",
   "1 0 24 4 9 0 1 4 39 0 2b 9 14 4 1 9 a 8 2 b 4 0 6 9 4 4 4 9 3 4 1 9 3 4 2 9 7 4 3 9 4 4 d 9 c 4",
   "1 9 1 4 a 8 4 4 2 0 26 e 1 0 1 e 5 0 1 e 2 0 2b 9 1 0 1 7 14c 9 1 0 4 9 2 0 7 9 1 0 1 9 1 0 4 9",
   "2 0 29 9 1 0 4 9 2 0 21 9 1 0 4 9 2 0 7 9 1 0 1 9 1 0 4 9 2 0 f 9 1 0 39 9 1 0 4 9 2 0 43 9 2 0",
   "3 4 2 0 1 b 4 0 2 b 17 0 10 9 10 0 56 e 2 0 6 7 3 0 26c 9 1 0 1 b 11 9 1 d 1a 9 2 3 3 0 4b 9 3 0",
   "b 9 7 0 12 9 4 4 9 0 13 9 3 4 2 b 9 0 12 9 2 4 c 0 d 9 1 0 3 9 1 0 2 4 c 0 34 9 20 4 3 0 1 9 4 0",
   "1 9 1 4 2 0 a 8 18 0 1 a 1 b 4 0 1 a 1 b 1 0 3 4 1 5 1 4 a 8 6 0 59 9 7 0 5 9 2 4 22 9 1 4 1 9 5",
   "0 46 9 a 0 1f 9 1 0 c 4 4 0 c 4 8 0 2 b a 8 1e 9 2 0 5 9 b 0 2c 9 4 0 1a 9 6 0 a 8 26 0 17 9 5 4",
   "4 0 35 9 a 4 1 0 1d 4 2 0 1 4 a 8 6 0 a 8 d 0 1 9 4 b 4 0 1f 4 31 0 5 4 2f 9 11 4 8 9 3 0 a 8 2",
   "b 2 0 2 b b 0 9 4 9 0 2 b 1 0 3 4 1e 9 d 4 2 9 a 8 2c 9 e 4 c 0 24 9 14 4 3 0 2 b 3 0 a 8 3 0 3",
   "9 a 8 24 9 2 b 9 7 7 0 2b 9 2 0 3 9 10 0 3 4 1 0 15 4 4 9 1 4 6 9 1 4 2 9 3 4 1 9 5 0 c0 7 40 4",
   "1 e 1 7 1 e 1 7 1 e 1 7 1 e 1 7 1 e 1 7 1 e 1 7 1 e 1 7 1 e 1 7 1 e 1 7 1 e 1 7 1 e 1 7 1 e 1 7",
   "1 e 1 7 1 e 1 7 1 e 1 7 1 e 1 7 1 e 1 7 1 e 1 7 1 e 1 7 1 e 1 7 1 e 1 7 1 e 1 7 1 e 1 7 1 e 1 7",
   "1 e 1 7 1 e 1 7 1 e 1 7 1 e 1 7 1 e 1 7 1 e 1 7 1 e 1 7 1 e 1 7 1 e 1 7 1 e 1 7 1 e 1 7 1 e 1 7",
   "1 e 1 7 1 e 1 7 1 e 1 7 1 e 1 7 1 e 1 7 1 e 1 7 1 e 1 7 1 e 1 7 1 e 1 7 1 e 1 7 1 e 1 7 1 e 1 7",
   "1 e 1 7 1 e 1 7 1 e 1 7 1 e 1 7 1 e 1 7 1 e 1 7 1 e 1 7 1 e 1 7 1 e 1 7 1 e 1 7 1 e 1 7 1 e 1 7",
   "1 e 1 7 1 e 1 7 1 e 1 7 1 e 1 7 1 e 1 7 1 e 1 7 1 e 1 7 1 e 1 7 1 e 1 7 1 e 1 7 1 e 1 7 1 e 1 7",
   "1 e 1 7 1 e 1 7 1 e 9 7 1 e 1 7 1 e 1 7 1 e 1 7 1 e 1 7 1 e 1 7 1 e 1 7 1 e 1 7 1 e 1 7 1 e 1 7",
   "1 e 1 7 1 e 1 7 1 e 1 7 1 e 1 7 1 e 1 7 1 e 1 7 1 e 1 7 1 e 1 7 1 e 1 7 1 e 1 7 1 e 1 7 1 e 1 7",
   "1 e 1 7 1 e 1 7 1 e 1 7 1 e 1 7 1 e 1 7 1 e 1 7 1 e 1 7 1 e 1 7 1 e 1 7 1 e 1 7 1 e 1 7 1 e 1 7",
   "1 e 1 7 1 e 1 7 1 e 1 7 1 e 1 7 1 e 1 7 1 e 1 7 1 e 1 7 1 e 1 7 1 e 1 7 1 e 1 7 1 e 1 7 1 e 1 7",
   "1 e 1 7 1 e 1 7 1 e 1 7 1 e 9 7 8 e 6 7 2 0 6 e 2 0 8 7 8 e 8 7 8 e 6 7 2 0 6 e 2 0 8 7 1 0 1 e",
   "1 0 1 e 1 0 1 e 1 0 1 e 8 7 8 e e 7 2 0 8 7 8 e 8 7 8 e 8 7 8 e 5 7 1 0 2 7 5 e 1 0 1 7 3 0 3 7",
   "1 0 2 7 5 e 3 0 4 7 2 0 2 7 4 e 4 0 8 7 5 e 5 0 3 7 1 0 2 7 5 e 3 0 b d 1 5 2 4 2 5 3 0 2 a 3 0",
   "8 3 4 0 1 1 3 0 2 c 5 5 1 d 9 0 2 3 1 0 2 b 7 0 2 3 3 b 15 0 1 d 5 5 1 0 a 5 1 0 1 7 b 0 2 3 1 7",
   "d 0 2 3 1 0 d 7 33 0 21 4 11 0 1 e 4 0 1 e 2 0 1 7 3 e 2 7 3 e 1 7 1 0 1 e 3 0 5 e 6 0 1 e 1 0 1",
   "e 1 0 1 e 1 0 4 e 1 0 1 7 4 e 1 7 4 9 1 7 2 0 2 7 2 e 5 0 1 e 4 7 4 0 1 7 11 0 10 e 10 7 3 9 1 e",
   "1 7 4 9 17f 0 4 3 1d 0 2 3 18b 0 1a e 1a 7 271 0 6 3 7 0 e 3 4f 0 2 3 1f 0 a 3 193 0 16 3 3f 0 4",
   "3 20 0 2 3 202 0 30 e 30 7 1 e 1 7 3 e 2 7 1 e 1 7 1 e 1 7 1 e 1 7 4 e 1 7 1 e 2 7 1 e 8 7 3 e 1",
   "7 1 e 1 7 1 e 1 7 1 e 1 7 1 e 1 7 1 e 1 7 1 e 1 7 1 e 1 7 1 e 1 7 1 e 1 7 1 e 1 7 1 e 1 7 1 e 1",
   "7 1 e 1 7 1 e 1 7 1 e 1 7 1 e 1 7 1 e 1 7 1 e 1 7 1 e 1 7 1 e 1 7 1 e 1 7 1 e 1 7 1 e 1 7 1 e 1",
   "7 1 e 1 7 1 e 1 7 1 e 1 7 1 e 1 7 1 e 1 7 1 e 1 7 1 e 1 7 1 e 1 7 1 e 1 7 1 e 1 7 1 e 1 7 1 e 1",
   "7 1 e 1 7 1 e 1 7 1 e 1 7 1 e 1 7 1 e 1 7 1 e 1 7 1 e 1 7 1 e 1 7 1 e 1 7 1 e 1 7 1 e 1 7 1 e 1",
   "7 1 e 2 7 6 0 1 e 1 7 1 e 1 7 3 4 1 e 1 7 c 0 26 7 1 0 1 7 5 0 1 7 2 0 38 9 7 0 1 9 f 0 1 4 17 9",
   "9 0 7 9 1 0 7 9 1 0 7 9 1 0 7 9 1 0 7 9 1 0 7 9 1 0 7 9 1 0 7 9 1 0 20 4 e 3 e 0 2 3 2 0 a 3 4 0",
   "1 b 1 9 c 0 1 b 5 0 1 3 10 0 2 b 8 3 1a3 0 1 d 1 a 1 b 2 0 3 9 a 3 2 0 8 3 1 0 3 3 1 0 9 9 6 4 1",
   "0 5 9 2 0 5 9 4 0 56 9 2 0 2 4 2 0 3 9 1 0 5a 9 1 0 4 9 5 0 2b 9 1 0 5e 9 11 0 20 9 30 0 10 9",
   "200 0 19c0 9 40 0 568d 9 43 0 2e 9 1 0 1 b 10d 9 1 0 2 b 10 9 a 8 2 9 14 0 1 e 1 7 1 e 1 7 1 e 1",
   "7 1 e 1 7 1 e 1 7 1 e 1 7 1 e 1 7 1 e 1 7 1 e 1 7 1 e 1 7 1 e 1 7 1 e 1 7 1 e 1 7 1 e 1 7 1 e 1",
   "7 1 e 1 7 1 e 1 7 1 e 1 7 1 e 1 7 1 e 1 7 1 e 1 7 1 e 1 7 1 e 1 7 1 9 4 4 1 0 a 4 1 0 1 9 1 e 1",
   "7 1 e 1 7 1 e 1 7 1 e 1 7 1 e 1 7 1 e 1 7 1 e 1 7 1 e 1 7 1 e 1 7 1 e 1 7 1 e 1 7 1 e 1 7 1 e 1",
   "7 1 e 3 7 2 4 50 9 2 4 1 0 1 b 3 0 1 b 1f 0 9 9 2 0 1 e 1 7 1 e 1 7 1 e 1 7 1 e 1 7 1 e 1 7 1 e",
   "1 7 1 e 3 7 1 e 1 7 1 e 1 7 1 e 1 7 1 e 1 7 1 e 1 7 1 e 1 7 1 e 1 7 1 e 1 7 1 e 1 7 1 e 1 7 1 e",
   "1 7 1 e 1 7 1 e 1 7 1 e 1 7 1 e 1 7 1 e 1 7 1 e 1 7 1 e 1 7 1 e 1 7 1 e 1 7 1 e 1 7 1 e 1 7 1 e",
   "1 7 1 e 1 7 1 e 1 7 1 e 1 7 1 e 1 7 1 e 1 7 1 e 1 7 1 e 1 7 1 e a 7 1 e 1 7 1 e 1 7 2 e 1 7 1 e",
   "1 7 1 e 1 7 1 e 1 7 1 e 1 7 1 9 2 0 1 e 1 7 1 e 1 7 1 9 1 e 1 7 1 e 3 7 1 e 1 7 1 e 1 7 1 e 1 7",
   "1 e 1 7 1 e 1 7 1 e 1 7 1 e 1 7 1 e 1 7 1 e 1 7 1 e 1 7 5 e 1 7 5 e 1 7 1 e 1 7 1 e 1 7 1 e 1 7",
   "1 e 1 7 1 e 1 7 1 e 1 7 1 e 1 7 4 e 1 7 1 e 1 7 5 0 1 e 1 7 1 0 1 7 1 0 1 7 1 e 1 7 1 e 1 7 18 0",
   "3 7 1 e 1 7 1 9 3 7 7 9 1 4 3 9 1 4 4 9 1 4 17 9 5 4 4 0 1 4 13 0 34 9 2 0 2 b 8 0 2 4 32 9 12 4",
   "8 0 2 b a 8 6 0 12 4 6 9 3 0 1 9 1 0 2 9 1 4 a 8 1c 9 8 4 1 0 1 b 17 9 d 4 c 0 1d 9 3 0 4 4 2f 9",
   "e 4 7 0 2 b 5 0 1 9 a 8 6 0 5 9 1 4 a 9 a 8 5 9 1 0 29 9 e 4 9 0 3 9 1 4 8 9 2 4 2 0 a 8 3 0 3 b",
   "17 9 3 0 1 9 3 4 32 9 1 4 1 9 3 4 2 9 2 4 5 9 2 4 1 9 1 4 1 9 18 0 3 9 2 0 b 9 5 4 2 b 3 9 2 4 a",
   "0 6 9 2 0 6 9 2 0 6 9 9 0 7 9 1 0 7 9 1 0 2b 7 1 0 e 7 6 0 50 7 23 9 8 4 1 b 2 4 2 0 a 8 6 0",
   "2ba4 9 c 0 17 9 4 0 31 9 2104 0 16e 9 2 0 6a 9 26 0 7 7 c 0 5 7 5 0 1 9 1 4 a 9 1 0 d 9 1 0 5 9",
   "1 0 1 9 1 0 2 9 1 0 2 9 1 0 6c 9 21 0 16b 9 2 3 10 0 40 9 2 0 36 9 28 0 c 9 4 0 10 4 2 a 1 0 1 a",
   "3 0 2 3 7 0 10 4 1 0 2 a 2 0 10 3 2 0 2 3 7 0 2 a 1 1 2 0 1 a 2 b 1 a 6 3 4 0 1 a c 0 5 9 1 0 87",
   "9 2 0 1 5 1 0 1 b 6 0 2 3 2 0 2 a 1 1 1 0 a 8 1 a 4 0 1 b 1 0 1a e 1 3 1 0 1 3 3 0 1a 7 1 3 1 0",
   "1 3 1 0 2 3 1 b 2 3 1 a 1 0 38 9 2 4 1f 9 3 0 6 9 2 0 6 9 2 0 6 9 2 0 3 9 1c 0 3 5 4 0 c 9 1 0",
   "1a 9 1 0 13 9 1 0 2 9 1 0 f 9 2 0 e 9 22 0 7b 9 45 0 35 9 88 0 1 4 82 0 1d 9 3 0 31 9 f 0 1 4 1f",
   "0 20 9 d 0 1e 9 5 0 26 9 5 4 5 0 1e 9 2 0 24 9 4 0 8 9 1 0 5 9 2a 0 28 e 28 7 4e 9 2 0 a 8 6 0",
   "24 e 4 0 24 7 4 0 28 9 8 0 34 9 c 0 b e 1 0 f e 1 0 7 e 1 0 2 e 1 0 b 7 1 0 f 7 1 0 7 7 1 0 2 7",
   "43 0 137 9 9 0 16 9 a 0 8 9 18 0 1 7 2 9 3 7 1 0 2a 7 1 0 9 7 45 0 6 9 2 0 1 9 1 0 2c 9 1 0 2 9",
   "3 0 1 9 2 0 17 9 a 0 17 9 9 0 1f 9 41 0 13 9 1 0 2 9 a 0 16 9 a 0 1a 9 46 0 38 9 6 0 2 9 40 0 1",
   "9 3 4 1 0 2 4 5 0 4 4 4 9 1 0 3 9 1 0 1d 9 2 0 3 4 4 0 1 4 16 0 2 b 8 0 1d 9 3 0 1d 9 23 0 8 9 1",
   "0 1c 9 2 4 19 0 36 9 a 0 16 9 a 0 13 9 d 0 12 9 6e 0 49 9 37 0 33 e d 0 33 7 d 0 24 9 4 4 8 0 a",
   "8 146 0 2a 9 1 0 2 4 3 0 2 9 4b 0 3 4 1d 9 a 0 1 9 8 0 16 9 b 4 4 0 5 b 16 0 12 9 4 4 4 b 26 0",
   "15 9 1b 0 17 9 9 0 3 4 35 9 f 4 2 b 1d 0 a 8 1 4 2 9 2 4 1 9 9 0 4 4 2d 9 b 4 2 0 1 5 4 b 1 4 a",
   "0 1 5 2 0 19 9 7 0 a 8 6 0 3 4 24 9 e 4 1 0 a 8 1 0 3 b 1 9 2 4 1 9 8 0 23 9 1 4 2 0 1 9 9 0 3 4",
   "30 9 e 4 4 9 2 b 2 0 4 4 1 b 2 4 a 8 1 9 1 0 1 9 1 0 2 b 20 0 12 9 1 0 19 9 c 4 2 b 1 0 2 b 1 0",
   "1 4 2 9 1 4 3e 0 7 9 1 0 1 9 1 0 4 9 1 0 f 9 1 0 a 9 1 b 6 0 2f 9 c 4 5 0 a 8 6 0 4 4 1 0 8 9 2",
   "0 2 9 2 0 16 9 1 0 7 9 1 0 2 9 1 0 5 9 1 0 2 4 1 9 7 4 2 0 2 4 2 0 3 4 2 0 1 9 6 0 1 4 5 0 5 9 2",
   "4 2 0 7 4 3 0 5 4 8b 0 35 9 12 4 4 9 2 b 3 0 a 8 4 0 1 4 3 9 1e 0 30 9 14 4 2 9 1 0 1 9 8 0 a 8",
   "a6 0 2f 9 7 4 2 0 9 4 1 0 2 b 5 0 f b 4 9 2 4 22 0 30 9 11 4 2 b 1 0 1 9 b 0 a 8 26 0 2b 9 d 4 1",
   "9 7 0 a 8 36 0 1b 9 2 0 f 4 4 0 a 8 2 0 3 b 1 0 7 9 b9 0 2c 9 f 4 65 0 20 e 20 7 a 8 15 0 8 9 2",
   "0 1 9 2 0 8 9 1 0 2 9 1 0 18 9 6 4 1 0 2 4 2 0 4 4 1 9 1 4 1 9 2 4 1 b 1 0 1 b 9 0 a 8 46 0 8 9",
   "2 0 27 9 7 4 2 0 7 4 1 9 1 0 1 9 1 4 1b 0 1 9 a 4 28 9 7 4 1 9 4 4 3 0 2 b 3 0 1 4 8 0 1 9 b 4",
   "2e 9 10 4 1 0 2 b 1 9 12 0 49 9 107 0 9 9 1 0 25 9 8 4 1 0 8 4 1 9 2 b d 0 a 8 18 0 1e 9 2 0 16",
   "4 1 0 e 4 49 0 7 9 1 0 2 9 1 0 26 9 6 4 3 0 1 4 1 0 2 4 1 0 7 4 1 9 1 4 8 0 a 8 6 0 6 9 1 0 2 9",
   "1 0 20 9 5 4 1 0 2 4 1 0 5 4 1 9 7 0 a 8 136 0 13 9 4 4 2 b 7 0 2 4 1 9 1 4 d 9 1 0 22 9 7 4 3 0",
   "5 4 2 b b 0 a 8 56 0 1 9 4f 0 39a 9 66 0 6f 9 11 0 c4 9 a4c 0 61 9 f 0 430 9 10 5 1 4 6 9 f 4",
   "faa 0 247 9 21b9 0 239 9 7 0 1f 9 1 0 a 8 4 0 2 b 4f 9 1 0 a 8 6 0 1e 9 2 0 5 4 1 b a 0 30 9 7 4",
   "2 b 7 0 4 9 1 b b 0 a 8 9 0 15 9 5 0 13 9 2b0 0 20 e 20 7 18 0 1 b 67 0 4b 9 4 0 1 4 1 9 37 4 7",
   "0 4 4 d 9 40 0 2 9 1 0 1 9 1 4 b 0 2 4 e 0 17f8 9 8 0 4d6 9 2a 0 9 9 22e7 0 4 9 1 0 7 9 1 0 2 9",
   "1 0 123 9 f 0 1 9 1d 0 3 9 2 0 1 9 e 0 4 9 8 0 18c 9 904 0 6b 9 5 0 d 9 3 0 9 9 7 0 a 9 3 0 2 4",
   "1 b 4 5 125c 0 2e 4 2 0 17 4 21e 0 5 4 3 0 6 4 8 5 8 4 2 0 7 4 1e 0 4 4 94 0 3 4 1bb 0 1a e 1a 7",
   "1a e 7 7 1 0 12 7 1a e 1a 7 1 e 1 0 2 e 2 0 1 e 2 0 2 e 2 0 4 e 1 0 8 e 4 7 1 0 1 7 1 0 7 7 1 0",
   "b 7 1a e 1a 7 2 e 1 0 4 e 2 0 8 e 1 0 7 e 1 0 1a 7 2 e 1 0 4 e 1 0 5 e 1 0 1 e 3 0 7 e 1 0 1a 7",
   "1a e 1a 7 1a e 1a 7 1a e 1a 7 1a e 1a 7 1a e 1a 7 1a e 1c 7 2 0 19 e 1 0 19 7 1 0 6 7 19 e 1 0",
   "19 7 1 0 6 7 19 e 1 0 19 7 1 0 6 7 19 e 1 0 19 7 1 0 6 7 19 e 1 0 19 7 1 0 6 7 1 e 1 7 2 0 32 8",
   "200 0 37 4 4 0 32 4 8 0 1 4 e 0 1 4 3 0 1 b 12 0 5 4 1 0 f 4 450 0 a 7 1 9 14 7 6 0 6 7 d5 0 7 4",
   "1 0 11 4 2 0 7 4 1 0 2 4 1 0 5 4 5 0 3e 7 21 0 1 4 70 0 2d 9 3 0 7 4 7 9 2 0 a 8 4 0 1 9 141 0",
   "1e 9 1 4 11 0 2c 9 4 4 a 8 1d6 0 1c 9 4 4 a 8 2e6 0 7 9 1 0 4 9 1 0 2 9 1 0 f 9 1 0 c5 9 b 0 7 4",
   "29 0 22 e 22 7 7 4 1 9 4 0 a 8 4a6 0 4 9 1 0 1b 9 1 0 2 9 1 0 1 9 2 0 1 9 1 0 a 9 1 0 4 9 1 0 1",
   "9 1 0 1 9 6 0 1 9 4 0 1 9 1 0 1 9 1 0 1 9 1 0 3 9 1 0 2 9 1 0 1 9 2 0 1 9 1 0 1 9 1 0 1 9 1 0 1",
   "9 1 0 1 9 1 0 2 9 1 0 1 9 2 0 4 9 1 0 7 9 1 0 4 9 1 0 4 9 1 0 1 9 1 0 a 9 1 0 11 9 5 0 3 9 1 0 5",
   "9 1 0 11 9 274 0 1a e 6 0 1a e 6 0 1a e 4ec 0 3 3 577 0 a 8 406 0 a6e0 9 20 0 103a 9 6 0 de 9 2",
   "0 1682 9 e 0 1d31 9 c1f 0 21e 9 5e2 0 134b 9 5 0 1060 9 adc51 0 1 5 1e 0 60 4 80 0 f0 4 2fe10 0"]

/-- The values of the word break property that some code point has, by long
name; a value's number is its position plus one. -/
def wordBreakValues : List String :=
  ["ALetter", "CR", "Double_Quote", "Extend", "ExtendNumLet", "Format", "Hebrew_Letter", "Katakana", "LF", "MidLetter", "MidNum", "MidNumLet", "Newline", "Numeric", "Regional_Indicator", "Single_Quote", "WSegSpace", "ZWJ"]

/-- The word break value of every code point as consecutive runs from
`0` to `10FFFF`: hexadecimal numbers in pairs, the length of a run and the
number of its value (`0` for `Other`). -/
def wordBreakRuns : List String :=
  ["a 0 1 9 2 d 1 2 12 0 1 11 1 0 1 3 4 0 1 10 4 0 1 b 1 0 1 c 1 0 a e 1 a 1 b 5 0 1a 1 4 0 1 5 1 0",
   "1a 1 a 0 1 d 24 0 1 1 2 0 1 6 7 0 1 1 1 0 1 a 2 0 1 1 5 0 17 1 1 0 1f 1 1 0 1e0 1 6 0 22 1 70 4",
   "5 1 1 0 2 1 2 0 4 1 1 b 1 1 6 0 1 1 1 a 3 1 1 0 1 1 1 0 14 1 1 0 53 1 1 0 8b 1 1 0 7 4 a6 1 1 0",
   "26 1 2 0 4 1 1 0 1 1 1 a 29 1 1 b 1 1 6 0 2d 4 1 0 1 4 1 0 2 4 1 0 2 4 1 0 1 4 8 0 1b 7 4 0 4 7",
   "1 1 1 a b 0 6 6 6 0 2 b 2 0 b 4 1 0 1 6 3 0 2b 1 15 4 a e 1 0 1 e 1 b 1 0 2 1 1 4 63 1 1 0 1 1 7",
   "4 1 6 1 0 6 4 2 1 2 4 1 0 4 4 2 1 a e 3 1 2 0 1 1 f 0 1 6 1 1 1 4 1e 1 1b 4 2 0 59 1 b 4 1 1 e 0",
   "a e 21 1 9 4 2 1 2 0 1 b 1 0 1 1 2 0 1 4 2 0 16 1 4 4 1 1 9 4 1 1 3 4 1 1 5 4 12 0 19 1 3 4 4 0",
   "b 1 5 0 18 1 1 0 6 1 1 0 2 6 6 0 8 4 2a 1 18 4 1 6 21 4 36 1 3 4 1 1 12 4 1 1 7 4 a 1 2 4 2 0 a",
   "e 1 0 10 1 3 4 1 0 8 1 2 0 2 1 2 0 16 1 1 0 7 1 1 0 1 1 3 0 4 1 2 0 1 4 1 1 7 4 2 0 2 4 2 0 3 4",
   "1 1 8 0 1 4 4 0 2 1 1 0 3 1 2 4 2 0 a e 2 1 a 0 1 1 1 0 1 4 2 0 3 4 1 0 6 1 4 0 2 1 2 0 16 1 1 0",
   "7 1 1 0 2 1 1 0 2 1 1 0 2 1 2 0 1 4 1 0 5 4 4 0 2 4 2 0 3 4 3 0 1 4 7 0 4 1 1 0 1 1 7 0 a e 2 4",
   "3 1 1 4 b 0 3 4 1 0 9 1 1 0 3 1 1 0 16 1 1 0 7 1 1 0 2 1 1 0 5 1 2 0 1 4 1 1 8 4 1 0 3 4 1 0 3 4",
   "2 0 1 1 f 0 2 1 2 4 2 0 a e 9 0 1 1 6 4 1 0 3 4 1 0 8 1 2 0 2 1 2 0 16 1 1 0 7 1 1 0 2 1 1 0 5 1",
   "2 0 1 4 1 1 7 4 2 0 2 4 2 0 3 4 7 0 3 4 4 0 2 1 1 0 3 1 2 4 2 0 a e 1 0 1 1 10 0 1 4 1 1 1 0 6 1",
   "3 0 3 1 1 0 4 1 3 0 2 1 1 0 1 1 1 0 2 1 3 0 2 1 3 0 3 1 3 0 c 1 4 0 5 4 3 0 3 4 1 0 4 4 2 0 1 1",
   "6 0 1 4 e 0 a e 10 0 5 4 8 1 1 0 3 1 1 0 17 1 1 0 10 1 2 0 1 4 1 1 7 4 1 0 3 4 1 0 4 4 7 0 2 4 1",
   "0 3 1 2 0 1 1 2 0 2 1 2 4 2 0 a e 10 0 1 1 3 4 1 0 8 1 1 0 3 1 1 0 17 1 1 0 a 1 1 0 5 1 2 0 1 4",
   "1 1 7 4 1 0 3 4 1 0 4 4 7 0 2 4 6 0 2 1 1 0 2 1 2 4 2 0 a e 1 0 2 1 1 4 c 0 4 4 9 1 1 0 3 1 1 0",
   "29 1 2 4 1 1 7 4 1 0 3 4 1 0 4 4 1 1 5 0 3 1 1 4 7 0 3 1 2 4 2 0 a e a 0 6 1 1 0 3 4 1 0 12 1 3",
   "0 18 1 1 0 9 1 1 0 1 1 2 0 7 1 3 0 1 4 4 0 6 4 1 0 1 4 1 0 8 4 6 0 a e 2 0 2 4 3d 0 1 4 2 0 7 4",
   "c 0 8 4 1 0 a e 57 0 1 4 2 0 9 4 b 0 7 4 1 0 a e 26 0 1 1 17 0 2 4 6 0 a e b 0 1 4 1 0 1 4 1 0 1",
   "4 4 0 2 4 8 1 1 0 24 1 4 0 14 4 1 0 2 4 5 1 b 4 1 0 24 4 9 0 1 4 64 0 14 4 1 0 a e c 0 4 4 4 0 3",
   "4 1 0 3 4 2 0 7 4 3 0 4 4 d 0 c 4 1 0 1 4 a e 4 4 2 0 26 1 1 0 1 1 5 0 1 1 2 0 2b 1 1 0 14d 1 1",
   "0 4 1 2 0 7 1 1 0 1 1 1 0 4 1 2 0 29 1 1 0 4 1 2 0 21 1 1 0 4 1 2 0 7 1 1 0 1 1 1 0 4 1 2 0 f 1",
   "1 0 39 1 1 0 4 1 2 0 43 1 2 0 3 4 20 0 10 1 10 0 56 1 2 0 6 1 3 0 26c 1 2 0 11 1 1 11 1a 1 5 0",
   "4b 1 3 0 b 1 7 0 12 1 4 4 9 0 13 1 3 4 b 0 12 1 2 4 c 0 d 1 1 0 3 1 1 0 2 4 40 0 20 4 9 0 1 4 2",
   "0 a e 21 0 3 4 1 6 1 4 a e 6 0 59 1 7 0 5 1 2 4 22 1 1 4 1 1 5 0 46 1 a 0 1f 1 1 0 c 4 4 0 c 4 a",
   "0 a e 80 0 a e 26 0 17 1 5 4 39 0 a 4 1 0 1d 4 2 0 1 4 a e 6 0 a e 16 0 1f 4 31 0 5 4 2f 1 11 4",
   "8 1 3 0 a e 11 0 9 4 c 0 3 4 1e 1 d 4 2 1 a e 2c 1 e 4 c 0 24 1 14 4 8 0 a e 3 0 3 1 a e 24 1 2",
   "0 9 1 7 0 2b 1 2 0 3 1 10 0 3 4 1 0 15 4 4 1 1 4 6 1 1 4 2 1 3 4 1 1 5 0 c0 1 40 4 116 1 2 0 6 1",
   "2 0 26 1 2 0 6 1 2 0 8 1 1 0 1 1 1 0 1 1 1 0 1 1 1 0 1f 1 2 0 35 1 1 0 7 1 1 0 1 1 3 0 3 1 1 0 7",
   "1 3 0 4 1 2 0 6 1 4 0 d 1 5 0 3 1 1 0 7 1 3 0 7 11 1 0 3 11 1 0 1 4 1 12 2 6 8 0 2 c a 0 1 c 2 0",
   "1 a 2 d 5 6 1 5 f 0 2 5 3 0 1 b f 0 1 5 a 0 1 11 5 6 1 0 a 6 1 0 1 1 d 0 1 1 10 0 d 1 33 0 21 4",
   "11 0 1 1 4 0 1 1 2 0 a 1 1 0 1 1 3 0 5 1 6 0 1 1 1 0 1 1 1 0 1 1 1 0 4 1 1 0 b 1 2 0 4 1 5 0 5 1",
   "4 0 1 1 11 0 29 1 32d 0 34 1 716 0 e5 1 6 0 4 1 3 4 2 1 c 0 26 1 1 0 1 1 5 0 1 1 2 0 38 1 7 0 1",
   "1 f 0 1 4 17 1 9 0 7 1 1 0 7 1 1 0 7 1 1 0 7 1 1 0 7 1 1 0 7 1 1 0 7 1 1 0 7 1 1 0 20 4 2f 0 1 1",
   "1d0 0 1 11 4 0 1 1 24 0 6 4 1 0 5 8 5 0 2 1 5c 0 2 4 2 8 3 0 5b 8 1 0 4 8 5 0 2b 1 1 0 5e 1 11 0",
   "20 1 30 0 10 8 d0 0 2f 8 1 0 58 8 6ca8 0 48d 1 43 0 2e 1 2 0 10d 1 3 0 10 1 a e 2 1 14 0 2f 1 4",
   "4 1 0 a 4 1 0 1f 1 2 4 50 1 2 4 16 0 c3 1 5 0 2 1 1 0 1 1 1 0 5 1 18 0 10 1 1 4 3 1 1 4 4 1 1 4",
   "17 1 5 4 4 0 1 4 13 0 34 1 c 0 2 4 32 1 12 4 a 0 a e 6 0 12 4 6 1 3 0 1 1 1 0 2 1 1 4 a e 1c 1 8",
   "4 2 0 17 1 d 4 c 0 1d 1 3 0 4 4 2f 1 e 4 e 0 1 1 a e b 0 1 4 a 0 a e 6 0 29 1 e 4 9 0 3 1 1 4 8",
   "1 2 4 2 0 a e 21 0 3 4 32 0 1 4 1 0 3 4 2 0 2 4 5 0 2 4 1 0 1 4 1e 0 b 1 5 4 2 0 3 1 2 4 a 0 6 1",
   "2 0 6 1 2 0 6 1 9 0 7 1 1 0 7 1 1 0 3a 1 6 0 73 1 8 4 1 0 2 4 2 0 a e 6 0 2ba4 1 c 0 17 1 4 0 31",
   "1 2304 0 7 1 c 0 5 1 5 0 1 7 1 4 a 7 1 0 d 7 1 0 5 7 1 0 1 7 1 0 2 7 1 0 2 7 1 0 a 7 62 1 21 0",
   "16b 1 12 0 40 1 2 0 36 1 28 0 c 1 4 0 10 4 1 b 2 0 1 a 1 b b 0 10 4 3 0 2 5 18 0 3 5 1 b 1 0 1 c",
   "1 0 1 b 1 a 1a 0 5 1 1 0 87 1 2 0 1 6 7 0 1 c 4 0 1 b 1 0 1 c 1 0 a e 1 a 1 b 5 0 1a 1 4 0 1 5 1",
   "0 1a 1 b 0 38 8 2 4 1f 1 3 0 6 1 2 0 6 1 2 0 6 1 2 0 3 1 1c 0 3 6 4 0 c 1 1 0 1a 1 1 0 13 1 1 0",
   "2 1 1 0 f 1 2 0 e 1 22 0 7b 1 45 0 35 1 88 0 1 4 82 0 1d 1 3 0 31 1 f 0 1 4 1f 0 20 1 d 0 1e 1 5",
   "0 26 1 5 4 5 0 1e 1 2 0 24 1 4 0 8 1 1 0 5 1 2a 0 9e 1 2 0 a e 6 0 24 1 4 0 24 1 4 0 28 1 8 0 34",
   "1 c 0 b 1 1 0 f 1 1 0 7 1 1 0 2 1 1 0 b 1 1 0 f 1 1 0 7 1 1 0 2 1 43 0 137 1 9 0 16 1 a 0 8 1 18",
   "0 6 1 1 0 2a 1 1 0 9 1 45 0 6 1 2 0 1 1 1 0 2c 1 1 0 2 1 3 0 1 1 2 0 17 1 a 0 17 1 9 0 1f 1 41 0",
   "13 1 1 0 2 1 a 0 16 1 a 0 1a 1 46 0 38 1 6 0 2 1 40 0 1 1 3 4 1 0 2 4 5 0 4 4 4 1 1 0 3 1 1 0 1d",
   "1 2 0 3 4 4 0 1 4 20 0 1d 1 3 0 1d 1 23 0 8 1 1 0 1c 1 2 4 19 0 36 1 a 0 16 1 a 0 13 1 d 0 12 1",
   "6e 0 49 1 37 0 33 1 d 0 33 1 d 0 24 1 4 4 8 0 a e 146 0 2a 1 1 0 2 4 3 0 2 1 4b 0 3 4 1d 1 a 0 1",
   "1 8 0 16 1 b 4 1f 0 12 1 4 4 2a 0 15 1 1b 0 17 1 9 0 3 4 35 1 f 4 1f 0 a e 1 4 2 1 2 4 1 1 9 0 4",
   "4 2d 1 b 4 2 0 1 6 4 0 1 4 a 0 1 6 2 0 19 1 7 0 a e 6 0 3 4 24 1 e 4 1 0 a e 4 0 1 1 2 4 1 1 8 0",
   "23 1 1 4 2 0 1 1 9 0 3 4 30 1 e 4 4 1 4 0 4 4 1 0 2 4 a e 1 1 1 0 1 1 23 0 12 1 1 0 19 1 c 4 6 0",
   "1 4 2 1 1 4 3e 0 7 1 1 0 1 1 1 0 4 1 1 0 f 1 1 0 a 1 7 0 2f 1 c 4 5 0 a e 6 0 4 4 1 0 8 1 2 0 2",
   "1 2 0 16 1 1 0 7 1 1 0 2 1 1 0 5 1 1 0 2 4 1 1 7 4 2 0 2 4 2 0 3 4 2 0 1 1 6 0 1 4 5 0 5 1 2 4 2",
   "0 7 4 3 0 5 4 8b 0 35 1 12 4 4 1 5 0 a e 4 0 1 4 3 1 1e 0 30 1 14 4 2 1 1 0 1 1 8 0 a e a6 0 2f",
   "1 7 4 2 0 9 4 17 0 4 1 2 4 22 0 30 1 11 4 3 0 1 1 b 0 a e 26 0 2b 1 d 4 1 1 7 0 a e 53 0 f 4 4 0",
   "a e c6 0 2c 1 f 4 65 0 40 1 a e 15 0 8 1 2 0 1 1 2 0 8 1 1 0 2 1 1 0 18 1 6 4 1 0 2 4 2 0 4 4 1",
   "1 1 4 1 1 2 4 c 0 a e 46 0 8 1 2 0 27 1 7 4 2 0 7 4 1 1 1 0 1 1 1 4 1b 0 1 1 a 4 28 1 7 4 1 1 4",
   "4 8 0 1 4 8 0 1 1 b 4 2e 1 10 4 3 0 1 1 12 0 49 1 107 0 9 1 1 0 25 1 8 4 1 0 8 4 1 1 f 0 a e 18",
   "0 1e 1 2 0 16 4 1 0 e 4 49 0 7 1 1 0 2 1 1 0 26 1 6 4 3 0 1 4 1 0 2 4 1 0 7 4 1 1 1 4 8 0 a e 6",
   "0 6 1 1 0 2 1 1 0 20 1 5 4 1 0 2 4 1 0 5 4 1 1 7 0 a e 136 0 13 1 4 4 9 0 2 4 1 1 1 4 d 1 1 0 22",
   "1 7 4 3 0 5 4 d 0 a e 56 0 1 1 4f 0 39a 1 66 0 6f 1 11 0 c4 1 a4c 0 61 1 f 0 430 1 10 6 1 4 6 1",
   "f 4 faa 0 247 1 21b9 0 239 1 7 0 1f 1 1 0 a e 6 0 4f 1 1 0 a e 6 0 1e 1 2 0 5 4 b 0 30 1 7 4 9 0",
   "4 1 c 0 a e 9 0 15 1 5 0 13 1 2b0 0 40 1 80 0 4b 1 4 0 1 4 1 1 37 4 7 0 4 4 d 1 40 0 2 1 1 0 1 1",
   "1 4 b 0 2 4 3ffe 0 4 8 1 0 7 8 1 0 2 8 1 0 1 8 11f 0 3 8 32 0 1 8 e 0 4 8 a98 0 6b 1 5 0 d 1 3 0",
   "9 1 7 0 a 1 3 0 2 4 1 0 4 6 125c 0 2e 4 2 0 17 4 21e 0 5 4 3 0 6 4 8 6 8 4 2 0 7 4 1e 0 4 4 94 0",
   "3 4 1bb 0 55 1 1 0 47 1 1 0 2 1 2 0 1 1 2 0 2 1 2 0 4 1 1 0 c 1 1 0 1 1 1 0 7 1 1 0 41 1 1 0 4 1",
   "2 0 8 1 1 0 7 1 1 0 1c 1 1 0 4 1 1 0 5 1 1 0 1 1 3 0 7 1 1 0 154 1 2 0 19 1 1 0 19 1 1 0 1f 1 1",
   "0 19 1 1 0 1f 1 1 0 19 1 1 0 1f 1 1 0 19 1 1 0 1f 1 1 0 19 1 1 0 8 1 2 0 32 e 200 0 37 4 4 0 32",
   "4 8 0 1 4 e 0 1 4 16 0 5 4 1 0 f 4 450 0 1f 1 6 0 6 1 d5 0 7 4 1 0 11 4 2 0 7 4 1 0 2 4 1 0 5 4",
   "5 0 3e 1 21 0 1 4 70 0 2d 1 3 0 7 4 7 1 2 0 a e 4 0 1 1 141 0 1e 1 1 4 11 0 2c 1 4 4 a e 1d6 0",
   "1c 1 4 4 a e 2e6 0 7 1 1 0 4 1 1 0 2 1 1 0 f 1 1 0 c5 1 b 0 7 4 29 0 44 1 7 4 1 1 4 0 a e 4a6 0",
   "4 1 1 0 1b 1 1 0 2 1 1 0 1 1 2 0 1 1 1 0 a 1 1 0 4 1 1 0 1 1 1 0 1 1 6 0 1 1 4 0 1 1 1 0 1 1 1 0",
   "1 1 1 0 3 1 1 0 2 1 1 0 1 1 2 0 1 1 1 0 1 1 1 0 1 1 1 0 1 1 1 0 1 1 1 0 2 1 1 0 1 1 2 0 4 1 1 0",
   "7 1 1 0 4 1 1 0 4 1 1 0 1 1 1 0 a 1 1 0 11 1 5 0 3 1 1 0 5 1 1 0 11 1 274 0 1a 1 6 0 1a 1 6 0 1a",
   "1 5c 0 1a f 1fb 0 5 4 7f0 0 a e c0407 0 1 6 1e 0 60 4 80 0 f0 4 2fe10 0"]


end ShapeKit.Unicode.Table
