/-!
# General category data

The general category of every code point, Unicode 17.0.
-/

namespace ShapeKit.Unicode.Table

/-- The general category of every code point as consecutive runs from `0`
to `10FFFF`: hexadecimal numbers in pairs, the length of a run and the
position of its category in `Category.all`. -/
def categoryRuns : List String :=
  ["20 19 1 16 3 11 1 13 3 11 1 d 1 e 1 11 1 12 1 11 1 c 2 11 a 8 2 11 3 12 2 11 1a 0 1 d 1 11 1 e 1",
   "14 1 b 1 14 1a 1 1 d 1 12 1 e 1 12 21 19 1 16 1 11 4 13 1 15 1 11 1 14 1 15 1 4 1 f 1 12 1 1a 1",
   "15 1 14 1 15 1 12 2 a 1 14 1 1 2 11 1 14 1 a 1 4 1 10 3 a 1 11 17 0 1 12 7 0 18 1 1 12 8 1 1 0 1",
   "1 1 0 1 1 1 0 1 1 1 0 1 1 1 0 1 1 1 0 1 1 1 0 1 1 1 0 1 1 1 0 1 1 1 0 1 1 1 0 1 1 1 0 1 1 1 0 1",
   "1 1 0 1 1 1 0 1 1 1 0 1 1 1 0 1 1 1 0 1 1 1 0 1 1 1 0 1 1 1 0 1 1 1 0 1 1 1 0 1 1 1 0 1 1 1 0 1",
   "1 1 0 1 1 1 0 1 1 1 0 2 1 1 0 1 1 1 0 1 1 1 0 1 1 1 0 1 1 1 0 1 1 1 0 1 1 1 0 1 1 1 0 2 1 1 0 1",
   "1 1 0 1 1 1 0 1 1 1 0 1 1 1 0 1 1 1 0 1 1 1 0 1 1 1 0 1 1 1 0 1 1 1 0 1 1 1 0 1 1 1 0 1 1 1 0 1",
   "1 1 0 1 1 1 0 1 1 1 0 1 1 1 0 1 1 1 0 1 1 1 0 1 1 1 0 1 1 1 0 1 1 1 0 1 1 1 0 1 1 2 0 1 1 1 0 1",
   "1 1 0 3 1 2 0 1 1 1 0 1 1 2 0 1 1 3 0 2 1 4 0 1 1 2 0 1 1 3 0 3 1 2 0 1 1 2 0 1 1 1 0 1 1 1 0 1",
   "1 2 0 1 1 1 0 2 1 1 0 1 1 2 0 1 1 3 0 1 1 1 0 1 1 2 0 2 1 1 4 1 0 3 1 4 4 1 0 1 2 1 1 1 0 1 2 1",
   "1 1 0 1 2 1 1 1 0 1 1 1 0 1 1 1 0 1 1 1 0 1 1 1 0 1 1 1 0 1 1 1 0 1 1 1 0 2 1 1 0 1 1 1 0 1 1 1",
   "0 1 1 1 0 1 1 1 0 1 1 1 0 1 1 1 0 1 1 1 0 1 1 1 0 2 1 1 0 1 2 1 1 1 0 1 1 3 0 1 1 1 0 1 1 1 0 1",
   "1 1 0 1 1 1 0 1 1 1 0 1 1 1 0 1 1 1 0 1 1 1 0 1 1 1 0 1 1 1 0 1 1 1 0 1 1 1 0 1 1 1 0 1 1 1 0 1",
   "1 1 0 1 1 1 0 1 1 1 0 1 1 1 0 1 1 1 0 1 1 1 0 1 1 1 0 1 1 1 0 1 1 1 0 1 1 1 0 1 1 1 0 1 1 1 0 1",
   "1 1 0 1 1 1 0 1 1 1 0 7 1 2 0 1 1 2 0 2 1 1 0 1 1 4 0 1 1 1 0 1 1 1 0 1 1 1 0 1 1 1 0 45 1 2 4",
   "1a 1 12 3 4 14 c 3 e 14 5 3 7 14 1 3 1 14 1 3 11 14 70 5 1 0 1 1 1 0 1 1 1 3 1 14 1 0 1 1 2 1d 1",
   "3 3 1 1 11 1 0 4 1d 2 14 1 0 1 11 3 0 1 1d 1 0 1 1d 2 0 1 1 11 0 1 1d 9 0 23 1 1 0 2 1 3 0 3 1 1",
   "0 1 1 1 0 1 1 1 0 1 1 1 0 1 1 1 0 1 1 1 0 1 1 1 0 1 1 1 0 1 1 1 0 1 1 1 0 1 1 1 0 1 1 1 0 5 1 1",
   "0 1 1 1 12 1 0 1 1 2 0 2 1 33 0 30 1 1 0 1 1 1 0 1 1 1 0 1 1 1 0 1 1 1 0 1 1 1 0 1 1 1 0 1 1 1 0",
   "1 1 1 0 1 1 1 0 1 1 1 0 1 1 1 0 1 1 1 0 1 1 1 0 1 1 1 0 1 1 1 0 1 1 1 0 1 1 1 15 5 5 2 7 1 0 1 1",
   "1 0 1 1 1 0 1 1 1 0 1 1 1 0 1 1 1 0 1 1 1 0 1 1 1 0 1 1 1 0 1 1 1 0 1 1 1 0 1 1 1 0 1 1 1 0 1 1",
   "1 0 1 1 1 0 1 1 1 0 1 1 1 0 1 1 1 0 1 1 1 0 1 1 1 0 1 1 1 0 1 1 1 0 1 1 1 0 1 1 1 0 1 1 1 0 1 1",
   "1 0 1 1 1 0 1 1 2 0 1 1 1 0 1 1 1 0 1 1 1 0 1 1 1 0 1 1 1 0 1 1 1 0 2 1 1 0 1 1 1 0 1 1 1 0 1 1",
   "1 0 1 1 1 0 1 1 1 0 1 1 1 0 1 1 1 0 1 1 1 0 1 1 1 0 1 1 1 0 1 1 1 0 1 1 1 0 1 1 1 0 1 1 1 0 1 1",
   "1 0 1 1 1 0 1 1 1 0 1 1 1 0 1 1 1 0 1 1 1 0 1 1 1 0 1 1 1 0 1 1 1 0 1 1 1 0 1 1 1 0 1 1 1 0 1 1",
   "1 0 1 1 1 0 1 1 1 0 1 1 1 0 1 1 1 0 1 1 1 0 1 1 1 0 1 1 1 0 1 1 1 0 1 1 1 0 1 1 1 0 1 1 1 0 1 1",
   "1 0 1 1 1 0 1 1 1 0 1 1 1 0 1 1 1 0 1 1 1 0 1 1 1 0 1 1 1 0 1 1 1 0 1 1 1 1d 26 0 2 1d 1 3 6 11",
   "29 1 1 11 1 c 2 1d 2 15 1 13 1 1d 2d 5 1 c 1 5 1 11 2 5 1 11 2 5 1 11 1 5 8 1d 1b 4 4 1d 4 4 2",
   "11 b 1d 6 1a 3 12 2 11 1 13 2 11 2 15 b 5 1 11 1 1a 3 11 20 4 1 3 a 4 15 5 a 8 4 11 2 4 1 5 63 4",
   "1 11 1 4 7 5 1 1a 1 15 6 5 2 3 2 5 1 15 4 5 2 4 a 8 3 4 2 15 1 4 e 11 1 1d 1 1a 1 4 1 5 1e 4 1b",
   "5 2 1d 59 4 b 5 1 4 e 1d a 8 21 4 9 5 2 3 1 15 3 11 1 3 2 1d 1 5 2 13 16 4 4 5 1 3 9 5 1 3 3 5 1",
   "3 5 5 2 1d f 11 1 1d 19 4 3 5 2 1d 1 11 1 1d b 4 5 1d 18 4 1 14 7 4 2 1a 5 1d 9 5 29 4 1 3 18 5",
   "1 1a 20 5 1 6 36 4 1 5 1 6 1 5 1 4 3 6 8 5 4 6 1 5 2 6 1 4 7 5 a 4 2 5 2 11 a 8 1 11 1 3 f 4 1 5",
   "2 6 1 1d 8 4 2 1d 2 4 2 1d 16 4 1 1d 7 4 1 1d 1 4 3 1d 4 4 2 1d 1 5 1 4 3 6 4 5 2 1d 2 6 2 1d 2",
   "6 1 5 1 4 8 1d 1 6 4 1d 2 4 1 1d 3 4 2 5 2 1d a 8 2 4 2 13 6 a 1 15 1 13 1 4 1 11 1 5 2 1d 2 5 1",
   "6 1 1d 6 4 4 1d 2 4 2 1d 16 4 1 1d 7 4 1 1d 2 4 1 1d 2 4 1 1d 2 4 2 1d 1 5 1 1d 3 6 2 5 4 1d 2 5",
   "2 1d 3 5 3 1d 1 5 7 1d 4 4 1 1d 1 4 7 1d a 8 2 5 3 4 1 5 1 11 a 1d 2 5 1 6 1 1d 9 4 1 1d 3 4 1",
   "1d 16 4 1 1d 7 4 1 1d 2 4 1 1d 5 4 2 1d 1 5 1 4 3 6 5 5 1 1d 2 5 1 6 1 1d 2 6 1 5 2 1d 1 4 f 1d",
   "2 4 2 5 2 1d a 8 1 11 1 13 7 1d 1 4 6 5 1 1d 1 5 2 6 1 1d 8 4 2 1d 2 4 2 1d 16 4 1 1d 7 4 1 1d 2",
   "4 1 1d 5 4 2 1d 1 5 1 4 1 6 1 5 1 6 4 5 2 1d 2 6 2 1d 2 6 1 5 7 1d 2 5 1 6 4 1d 2 4 1 1d 3 4 2 5",
   "2 1d a 8 1 15 1 4 6 a a 1d 1 5 1 4 1 1d 6 4 3 1d 3 4 1 1d 4 4 3 1d 2 4 1 1d 1 4 1 1d 2 4 3 1d 2",
   "4 3 1d 3 4 3 1d c 4 4 1d 2 6 1 5 2 6 3 1d 3 6 1 1d 3 6 1 5 2 1d 1 4 6 1d 1 6 e 1d a 8 3 a 6 15 1",
   "13 1 15 5 1d 1 5 3 6 1 5 8 4 1 1d 3 4 1 1d 17 4 1 1d 10 4 2 1d 1 5 1 4 3 5 4 6 1 1d 3 5 1 1d 4 5",
   "7 1d 2 5 1 1d 3 4 1 1d 2 4 2 1d 2 4 2 5 2 1d a 8 7 1d 1 11 7 a 1 15 1 4 1 5 2 6 1 11 8 4 1 1d 3",
   "4 1 1d 17 4 1 1d a 4 1 1d 5 4 2 1d 1 5 1 4 1 6 1 5 5 6 1 1d 1 5 2 6 1 1d 2 6 2 5 7 1d 2 6 5 1d 3",
   "4 1 1d 2 4 2 5 2 1d a 8 1 1d 2 4 1 6 c 1d 2 5 2 6 9 4 1 1d 3 4 1 1d 29 4 2 5 1 4 3 6 4 5 1 1d 3",
   "6 1 1d 3 6 1 5 1 4 1 15 4 1d 3 4 1 6 7 a 3 4 2 5 2 1d a 8 9 a 1 15 6 4 1 1d 1 5 2 6 1 1d 12 4 3",
   "1d 18 4 1 1d 9 4 1 1d 1 4 2 1d 7 4 3 1d 1 5 4 1d 3 6 3 5 1 1d 1 5 1 1d 8 6 6 1d a 8 2 1d 2 6 1",
   "11 c 1d 30 4 1 5 2 4 7 5 4 1d 1 13 6 4 1 3 8 5 1 11 a 8 2 11 25 1d 2 4 1 1d 1 4 1 1d 5 4 1 1d 18",
   "4 1 1d 1 4 1 1d a 4 1 5 2 4 9 5 1 4 2 1d 5 4 1 1d 1 3 1 1d 7 5 1 1d a 8 2 1d 4 4 20 1d 1 4 3 15",
   "f 11 1 15 1 11 3 15 2 5 6 15 a 8 a a 1 15 1 5 1 15 1 5 1 15 1 5 1 d 1 e 1 d 1 e 2 6 8 4 1 1d 24",
   "4 4 1d e 5 1 6 5 5 1 11 2 5 5 4 b 5 1 1d 24 5 1 1d 8 15 1 5 6 15 1 1d 2 15 5 11 4 15 2 11 25 1d",
   "2b 4 2 6 4 5 1 6 6 5 1 6 2 5 2 6 2 5 1 4 a 8 6 11 6 4 2 6 2 5 4 4 3 5 1 4 3 6 2 4 7 6 3 4 4 5 d",
   "4 1 5 2 6 2 5 6 6 1 5 1 4 1 6 a 8 3 6 1 5 2 15 26 0 1 1d 1 0 5 1d 1 0 2 1d 2b 1 1 11 1 3 3 1 149",
   "4 1 1d 4 4 2 1d 7 4 1 1d 1 4 1 1d 4 4 2 1d 29 4 1 1d 4 4 2 1d 21 4 1 1d 4 4 2 1d 7 4 1 1d 1 4 1",
   "1d 4 4 2 1d f 4 1 1d 39 4 1 1d 4 4 2 1d 43 4 2 1d 3 5 9 11 14 a 3 1d 10 4 a 15 6 1d 56 0 2 1d 6",
   "1 2 1d 1 c 26c 4 1 15 1 11 11 4 1 16 1a 4 1 d 1 e 3 1d 4b 4 3 11 3 9 8 4 7 1d 12 4 3 5 1 6 9 1d",
   "13 4 2 5 1 6 2 11 9 1d 12 4 2 5 c 1d d 4 1 1d 3 4 1 1d 2 5 c 1d 34 4 2 5 1 6 7 5 8 6 1 5 2 6 b 5",
   "3 11 1 3 3 11 1 13 1 4 1 5 2 1d a 8 6 1d a a 6 1d 6 11 1 c 4 11 3 5 1 1a 1 5 a 8 6 1d 23 4 1 3",
   "35 4 7 1d 5 4 2 5 22 4 1 5 1 4 5 1d 46 4 a 1d 1f 4 1 1d 3 5 4 6 2 5 3 6 4 1d 2 6 1 5 6 6 3 5 4",
   "1d 1 15 3 1d 2 11 a 8 1e 4 2 1d 5 4 b 1d 2c 4 4 1d 1a 4 6 1d a 8 1 a 3 1d 22 15 17 4 2 5 2 6 1 5",
   "2 1d 2 11 35 4 1 6 1 5 1 6 7 5 1 1d 1 5 1 6 1 5 2 6 8 5 6 6 a 5 2 1d 1 5 a 8 6 1d a 8 6 1d 7 11",
   "1 3 6 11 2 1d e 5 1 7 1f 5 2 1d c 5 14 1d 4 5 1 6 2f 4 1 5 1 6 5 5 1 6 1 5 5 6 1 5 2 6 8 4 1 1d",
   "2 11 a 8 7 11 a 15 9 5 9 15 3 11 2 5 1 6 1e 4 1 6 4 5 2 6 2 5 1 6 3 5 2 4 a 8 2c 4 1 5 1 6 2 5 3",
   "6 1 5 1 6 3 5 2 6 8 1d 4 11 24 4 8 6 8 5 2 6 2 5 3 1d 5 11 a 8 3 1d 3 4 a 8 1e 4 6 3 2 11 9 1 1",
   "0 1 1 5 1d 2b 0 2 1d 3 0 8 11 8 1d 3 5 1 11 d 5 1 6 7 5 4 4 1 5 6 4 1 5 2 4 1 6 2 5 1 4 5 1d 2c",
   "1 3f 3 d 1 1 3 22 1 25 3 40 5 1 0 1 1 1 0 1 1 1 0 1 1 1 0 1 1 1 0 1 1 1 0 1 1 1 0 1 1 1 0 1 1 1",
   "0 1 1 1 0 1 1 1 0 1 1 1 0 1 1 1 0 1 1 1 0 1 1 1 0 1 1 1 0 1 1 1 0 1 1 1 0 1 1 1 0 1 1 1 0 1 1 1",
   "0 1 1 1 0 1 1 1 0 1 1 1 0 1 1 1 0 1 1 1 0 1 1 1 0 1 1 1 0 1 1 1 0 1 1 1 0 1 1 1 0 1 1 1 0 1 1 1",
   "0 1 1 1 0 1 1 1 0 1 1 1 0 1 1 1 0 1 1 1 0 1 1 1 0 1 1 1 0 1 1 1 0 1 1 1 0 1 1 1 0 1 1 1 0 1 1 1",
   "0 1 1 1 0 1 1 1 0 1 1 1 0 1 1 1 0 1 1 1 0 1 1 1 0 1 1 1 0 1 1 1 0 1 1 1 0 1 1 1 0 1 1 1 0 1 1 1",
   "0 1 1 1 0 1 1 1 0 1 1 1 0 1 1 1 0 1 1 1 0 1 1 1 0 1 1 1 0 1 1 1 0 1 1 1 0 1 1 1 0 1 1 1 0 1 1 1",
   "0 1 1 1 0 1 1 1 0 1 1 1 0 1 1 1 0 1 1 1 0 1 1 1 0 9 1 1 0 1 1 1 0 1 1 1 0 1 1 1 0 1 1 1 0 1 1 1",
   "0 1 1 1 0 1 1 1 0 1 1 1 0 1 1 1 0 1 1 1 0 1 1 1 0 1 1 1 0 1 1 1 0 1 1 1 0 1 1 1 0 1 1 1 0 1 1 1",
   "0 1 1 1 0 1 1 1 0 1 1 1 0 1 1 1 0 1 1 1 0 1 1 1 0 1 1 1 0 1 1 1 0 1 1 1 0 1 1 1 0 1 1 1 0 1 1 1",
   "0 1 1 1 0 1 1 1 0 1 1 1 0 1 1 1 0 1 1 1 0 1 1 1 0 1 1 1 0 1 1 1 0 1 1 1 0 1 1 1 0 1 1 1 0 1 1 1",
   "0 1 1 1 0 1 1 1 0 1 1 1 0 1 1 1 0 1 1 1 0 1 1 1 0 1 1 1 0 9 1 8 0 6 1 2 1d 6 0 2 1d 8 1 8 0 8 1",
   "8 0 6 1 2 1d 6 0 2 1d 8 1 1 1d 1 0 1 1d 1 0 1 1d 1 0 1 1d 1 0 8 1 8 0 e 1 2 1d 8 1 8 2 8 1 8 2 8",
   "1 8 2 5 1 1 1d 2 1 4 0 1 2 1 14 1 1 3 14 3 1 1 1d 2 1 4 0 1 2 3 14 4 1 2 1d 2 1 4 0 1 1d 3 14 8",
   "1 5 0 3 14 2 1d 3 1 1 1d 2 1 4 0 1 2 2 14 1 1d b 16 5 1a 6 c 2 11 1 f 1 10 1 d 2 f 1 10 1 d 1 f",
   "8 11 1 17 1 18 5 1a 1 16 9 11 1 f 1 10 4 11 2 b 3 11 1 12 1 d 1 e b 11 1 12 1 11 1 b a 11 1 16 5",
   "1a 1 1d a 1a 1 a 1 3 2 1d 6 a 3 12 1 d 1 e 1 3 a a 3 12 1 d 1 e 1 1d d 3 3 1d 22 13 e 1d d 5 4 7",
   "1 5 3 7 c 5 f 1d 2 15 1 0 4 15 1 0 2 15 1 1 3 0 2 1 3 0 1 1 1 15 1 0 2 15 1 12 5 0 6 15 1 0 1 15",
   "1 0 1 15 1 0 1 15 4 0 1 15 1 1 4 0 1 1 4 4 1 1 2 15 2 1 2 0 5 12 1 0 4 1 1 15 1 12 2 15 1 1 1 15",
   "10 a 23 9 1 0 1 1 4 9 1 a 2 15 4 1d 5 12 5 15 2 12 4 15 1 12 2 15 1 12 2 15 1 12 7 15 1 12 1f 15",
   "2 12 2 15 1 12 1 15 1 12 1f 15 10c 12 8 15 1 d 1 e 1 d 1 e 14 15 2 12 7 15 1 d 1 e 51 15 1 12 1e",
   "15 19 12 28 15 6 12 48 15 16 1d b 15 15 1d 3c a 4e 15 16 a b7 15 1 12 9 15 1 12 36 15 8 12 6f 15",
   "1 12 f8 15 1 d 1 e 1 d 1 e 1 d 1 e 1 d 1 e 1 d 1 e 1 d 1 e 1 d 1 e 1e a 2c 15 5 12 1 d 1 e 1f 12",
   "1 d 1 e 1 d 1 e 1 d 1 e 1 d 1 e 1 d 1 e 10 12 100 15 83 12 1 d 1 e 1 d 1 e 1 d 1 e 1 d 1 e 1 d 1",
   "e 1 d 1 e 1 d 1 e 1 d 1 e 1 d 1 e 1 d 1 e 1 d 1 e 3f 12 1 d 1 e 1 d 1 e 20 12 1 d 1 e 102 12 30",
   "15 15 12 2 15 6 12 27 15 2 1d 8a 15 30 0 30 1 1 0 1 1 3 0 2 1 1 0 1 1 1 0 1 1 1 0 1 1 4 0 1 1 1",
   "0 2 1 1 0 6 1 2 3 3 0 1 1 1 0 1 1 1 0 1 1 1 0 1 1 1 0 1 1 1 0 1 1 1 0 1 1 1 0 1 1 1 0 1 1 1 0 1",
   "1 1 0 1 1 1 0 1 1 1 0 1 1 1 0 1 1 1 0 1 1 1 0 1 1 1 0 1 1 1 0 1 1 1 0 1 1 1 0 1 1 1 0 1 1 1 0 1",
   "1 1 0 1 1 1 0 1 1 1 0 1 1 1 0 1 1 1 0 1 1 1 0 1 1 1 0 1 1 1 0 1 1 1 0 1 1 1 0 1 1 1 0 1 1 1 0 1",
   "1 1 0 1 1 1 0 1 1 1 0 1 1 1 0 1 1 1 0 1 1 1 0 1 1 1 0 1 1 1 0 1 1 1 0 1 1 1 0 1 1 1 0 1 1 1 0 1",
   "1 1 0 1 1 1 0 1 1 1 0 1 1 1 0 2 1 6 15 1 0 1 1 1 0 1 1 3 5 1 0 1 1 5 1d 4 11 1 a 2 11 26 1 1 1d",
   "1 1 5 1d 1 1 2 1d 38 4 7 1d 1 3 1 11 e 1d 1 5 17 4 9 1d 7 4 1 1d 7 4 1 1d 7 4 1 1d 7 4 1 1d 7 4",
   "1 1d 7 4 1 1d 7 4 1 1d 7 4 1 1d 20 5 2 11 1 f 1 10 1 f 1 10 3 11 1 f 1 10 1 11 1 f 1 10 9 11 1 c",
   "2 11 1 c 1 11 1 f 1 10 2 11 1 f 1 10 1 d 1 e 1 d 1 e 1 d 1 e 1 d 1 e 5 11 1 3 a 11 2 c 4 11 1 c",
   "1 11 1 d d 11 2 15 3 11 1 d 1 e 1 d 1 e 1 d 1 e 1 d 1 e 1 c 22 1d 1a 15 1 1d 59 15 c 1d d6 15 1a",
   "1d 10 15 1 16 3 11 1 15 1 3 1 4 1 9 1 d 1 e 1 d 1 e 1 d 1 e 1 d 1 e 1 d 1 e 2 15 1 d 1 e 1 d 1 e",
   "1 d 1 e 1 d 1 e 1 c 1 d 2 e 1 15 9 9 4 5 2 6 1 c 5 3 2 15 3 9 1 3 1 4 1 11 2 15 1 1d 56 4 2 1d 2",
   "5 2 14 2 3 1 4 1 c 5a 4 1 11 3 3 1 4 5 1d 2b 4 1 1d 5e 4 1 1d 2 15 4 a a 15 20 4 26 15 9 1d 1 15",
   "10 4 1f 15 1 1d a a 1e 15 8 a 1 15 f a 20 15 a a 27 15 f a 140 15 19c0 4 40 15 5215 4 1 3 477 4",
   "3 1d 37 15 9 1d 28 4 6 3 2 11 10c 4 1 3 3 11 10 4 a 8 2 4 14 1d 1 0 1 1 1 0 1 1 1 0 1 1 1 0 1 1",
   "1 0 1 1 1 0 1 1 1 0 1 1 1 0 1 1 1 0 1 1 1 0 1 1 1 0 1 1 1 0 1 1 1 0 1 1 1 0 1 1 1 0 1 1 1 0 1 1",
   "1 0 1 1 1 0 1 1 1 0 1 1 1 0 1 1 1 0 1 1 1 0 1 1 1 0 1 1 1 4 1 5 3 7 1 11 a 5 1 11 1 3 1 0 1 1 1",
   "0 1 1 1 0 1 1 1 0 1 1 1 0 1 1 1 0 1 1 1 0 1 1 1 0 1 1 1 0 1 1 1 0 1 1 1 0 1 1 1 0 1 1 1 0 1 1 1",
   "0 1 1 2 3 2 5 46 4 a 9 2 5 6 11 8 1d 17 14 9 3 2 14 1 0 1 1 1 0 1 1 1 0 1 1 1 0 1 1 1 0 1 1 1 0",
   "1 1 1 0 3 1 1 0 1 1 1 0 1 1 1 0 1 1 1 0 1 1 1 0 1 1 1 0 1 1 1 0 1 1 1 0 1 1 1 0 1 1 1 0 1 1 1 0",
   "1 1 1 0 1 1 1 0 1 1 1 0 1 1 1 0 1 1 1 0 1 1 1 0 1 1 1 0 1 1 1 0 1 1 1 0 1 1 1 0 1 1 1 0 1 1 1 0",
   "1 1 1 0 1 1 1 0 1 1 1 0 1 1 1 0 1 1 1 0 1 1 1 0 1 1 1 0 1 1 1 0 1 1 1 3 8 1 1 0 1 1 1 0 1 1 2 0",
   "1 1 1 0 1 1 1 0 1 1 1 0 1 1 1 0 1 1 1 3 2 14 1 0 1 1 1 0 1 1 1 4 1 0 1 1 1 0 3 1 1 0 1 1 1 0 1 1",
   "1 0 1 1 1 0 1 1 1 0 1 1 1 0 1 1 1 0 1 1 1 0 1 1 1 0 1 1 1 0 1 1 5 0 1 1 5 0 1 1 1 0 1 1 1 0 1 1",
   "1 0 1 1 1 0 1 1 1 0 1 1 1 0 1 1 1 0 1 1 4 0 1 1 1 0 1 1 2 0 1 1 1 0 1 1 1 0 1 1 1 0 1 1 1 0 1 1",
   "1 0 1 1 1 0 1 1 1 0 1 1 1 0 14 1d 4 3 1 0 1 1 1 4 2 3 1 1 7 4 1 5 3 4 1 5 4 4 1 5 17 4 2 6 2 5 1",
   "6 4 15 1 5 3 1d 6 a 2 15 1 13 1 15 6 1d 34 4 4 11 8 1d 2 6 32 4 10 6 2 5 8 1d 2 11 a 8 6 1d 12 5",
   "6 4 3 11 1 4 1 11 2 4 1 5 a 8 1c 4 8 5 2 11 17 4 b 5 2 6 b 1d 1 11 1d 4 3 1d 3 5 1 6 2f 4 1 5 2",
   "6 4 5 2 6 2 5 3 6 d 11 1 1d 1 3 a 8 4 1d 2 11 5 4 1 5 1 3 9 4 a 8 5 4 1 1d 29 4 6 5 2 6 2 5 2 6",
   "2 5 9 1d 3 4 1 5 8 4 1 5 1 6 2 1d a 8 2 1d 4 11 10 4 1 3 6 4 3 15 1 4 1 6 1 5 1 6 32 4 1 5 1 4 3",
   "5 2 4 2 5 5 4 2 5 1 4 1 5 1 4 18 1d 2 4 1 3 2 11 b 4 1 6 2 5 2 6 2 11 1 4 2 3 1 6 1 5 a 1d 6 4 2",
   "1d 6 4 2 1d 6 4 9 1d 7 4 1 1d 7 4 1 1d 2b 1 1 14 4 3 9 1 1 3 2 14 4 1d 50 1 23 4 2 6 1 5 2 6 1 5",
   "2 6 1 11 1 6 1 5 2 1d a 8 6 1d 2ba4 4 c 1d 17 4 4 1d 31 4 4 1d 800 1b 1900 1c 16e 4 2 1d 6a 4 26",
   "1d 7 1 c 1d 5 1 5 1d 1 4 1 5 a 4 1 12 d 4 1 1d 5 4 1 1d 1 4 1 1d 2 4 1 1d 2 4 1 1d 6c 4 11 14 10",
   "15 16b 4 1 e 1 d 10 15 40 4 2 15 36 4 8 15 20 1d c 4 1 13 3 15 10 5 7 11 1 d 1 e 1 11 6 1d 10 5",
   "1 11 2 c 2 b 1 d 1 e 1 d 1 e 1 d 1 e 1 d 1 e 1 d 1 e 1 d 1 e 1 d 1 e 1 d 1 e 2 11 1 d 1 e 4 11 3",
   "b 3 11 1 1d 4 11 1 c 1 d 1 e 1 d 1 e 1 d 1 e 3 11 1 12 1 c 3 12 1 1d 1 11 1 13 2 11 4 1d 5 4 1",
   "1d 87 4 2 1d 1 1a 1 1d 3 11 1 13 3 11 1 d 1 e 1 11 1 12 1 11 1 c 2 11 a 8 2 11 3 12 2 11 1a 0 1",
   "d 1 11 1 e 1 14 1 b 1 14 1a 1 1 d 1 12 1 e 1 12 1 d 1 e 1 11 1 d 1 e 2 11 a 4 1 3 2d 4 2 3 1f 4",
   "3 1d 6 4 2 1d 6 4 2 1d 6 4 2 1d 3 4 3 1d 2 13 1 12 1 14 1 15 2 13 1 1d 1 15 4 12 2 15 a 1d 3 1a",
   "2 15 2 1d c 4 1 1d 1a 4 1 1d 13 4 1 1d 2 4 1 1d f 4 2 1d e 4 22 1d 7b 4 5 1d 3 11 4 1d 2d a 3 1d",
   "9 15 35 9 4 a 11 15 2 a 3 15 1 1d d 15 3 1d 1 15 2f 1d 2d 15 1 5 82 1d 1d 4 3 1d 31 4 f 1d 1 5",
   "1b a 4 1d 20 4 4 a 9 1d 14 4 1 9 8 4 1 9 5 1d 26 4 5 5 5 1d 1e 4 1 1d 1 11 24 4 4 1d 8 4 1 11 5",
   "9 2a 1d 28 0 28 1 4e 4 2 1d a 8 6 1d 24 0 4 1d 24 1 4 1d 28 4 8 1d 34 4 b 1d 1 11 b 0 1 1d f 0 1",
   "1d 7 0 1 1d 2 0 1 1d b 1 1 1d f 1 1 1d 7 1 1 1d 2 1 3 1d 34 4 c 1d 137 4 9 1d 16 4 a 1d 8 4 18",
   "1d 6 3 1 1d 2a 3 1 1d 9 3 45 1d 6 4 2 1d 1 4 1 1d 2c 4 1 1d 2 4 3 1d 1 4 2 1d 17 4 1 1d 1 11 8 a",
   "17 4 2 15 7 a 1f 4 8 1d 9 a 30 1d 13 4 1 1d 2 4 5 1d 5 a 16 4 6 a 3 1d 1 11 1a 4 5 1d 1 11 1a 4",
   "26 1d 38 4 4 1d 2 a 2 4 10 a 2 1d 2e a 1 4 3 5 1 1d 2 5 5 1d 4 5 4 4 1 1d 3 4 1 1d 1d 4 2 1d 3 5",
   "4 1d 1 5 9 a 7 1d 9 11 7 1d 1d 4 2 a 1 11 1d 4 3 a 20 1d 8 4 1 15 1c 4 2 5 4 1d 5 a 7 11 9 1d 36",
   "4 3 1d 7 11 16 4 2 1d 8 a 13 4 5 1d 8 a 12 4 7 1d 4 11 c 1d 7 a 50 1d 49 4 37 1d 33 0 d 1d 33 1",
   "7 1d 6 a 24 4 4 5 8 1d a 8 6 1d a 8 4 4 1 3 1 4 16 0 3 1d 5 5 1 c 1 3 16 1 8 1d 2 12 d0 1d 1f a",
   "1 1d 2a 4 1 1d 2 5 1 c 2 1d 2 4 10 1d 3 4 1 3 2 4 8 1d 1 11 8 15 21 1d 6 5 1d 4 a a 1 4 8 1d 16",
   "4 b 5 4 a 5 11 16 1d 12 4 4 5 4 11 26 1d 15 4 7 a 14 1d 17 4 9 1d 1 6 1 5 1 6 35 4 f 5 7 11 4 1d",
   "14 a a 8 1 5 2 4 2 5 1 4 9 1d 3 5 1 6 2d 4 3 6 4 5 2 6 2 5 2 11 1 1a 4 11 1 5 a 1d 1 1a 2 1d 19",
   "4 7 1d a 8 6 1d 3 5 24 4 5 5 1 6 8 5 1 1d a 8 4 11 1 4 2 6 1 4 8 1d 23 4 1 5 2 11 1 4 9 1d 2 5 1",
   "6 30 4 3 6 9 5 2 6 4 4 4 11 4 5 1 11 1 6 1 5 a 8 1 4 1 11 1 4 3 11 1 1d 14 a b 1d 12 4 1 1d 19 4",
   "3 6 3 5 2 6 1 5 1 6 2 5 6 11 1 5 2 4 1 5 3e 1d 7 4 1 1d 1 4 1 1d 4 4 1 1d f 4 1 1d a 4 1 11 6 1d",
   "2f 4 1 5 3 6 8 5 5 1d a 8 6 1d 2 5 2 6 1 1d 8 4 2 1d 2 4 2 1d 16 4 1 1d 7 4 1 1d 2 4 1 1d 5 4 1",
   "1d 2 5 1 4 2 6 1 5 4 6 2 1d 2 6 2 1d 3 6 2 1d 1 4 6 1d 1 6 5 1d 5 4 2 6 2 1d 7 5 3 1d 5 5 b 1d a",
   "4 1 1d 1 4 2 1d 1 4 1 1d 26 4 1 1d 1 4 3 6 6 5 1 1d 1 6 2 1d 1 6 1 1d 4 6 1 1d 2 6 1 5 1 6 1 5 1",
   "4 1 5 1 4 2 11 1 1d 2 11 8 1d 2 5 1d 1d 35 4 3 6 8 5 2 6 3 5 1 6 1 5 4 4 5 11 a 8 2 11 1 1d 1 11",
   "1 5 3 4 1e 1d 30 4 3 6 6 5 1 6 1 5 4 6 2 5 1 6 2 5 2 4 1 11 1 4 8 1d a 8 a6 1d 2f 4 3 6 4 5 2 1d",
   "4 6 2 5 1 6 2 5 17 11 4 4 2 5 22 1d 30 4 3 6 8 5 2 6 1 5 1 6 2 5 3 11 1 4 b 1d a 8 6 1d d 11 13",
   "1d 2b 4 1 5 1 6 1 5 2 6 6 5 1 6 1 5 1 4 1 11 6 1d a 8 6 1d 14 8 1c 1d 1b 4 2 1d 1 5 1 6 1 5 2 6",
   "4 5 1 6 5 5 4 1d a 8 2 a 3 11 1 15 7 4 b9 1d 2c 4 3 6 9 5 1 6 2 5 1 11 64 1d 20 0 20 1 a 8 9 a c",
   "1d 8 4 2 1d 1 4 2 1d 8 4 1 1d 2 4 1 1d 18 4 6 6 1 1d 2 6 2 1d 2 5 1 6 1 5 1 4 1 6 1 4 1 6 1 5 3",
   "11 9 1d a 8 46 1d 8 4 2 1d 27 4 3 6 4 5 2 1d 2 5 4 6 1 5 1 4 1 11 1 4 1 6 1b 1d 1 4 a 5 28 4 6 5",
   "1 6 1 4 4 5 8 11 1 5 8 1d 1 4 6 5 2 6 3 5 2e 4 d 5 1 6 2 5 3 11 1 4 5 11 d 1d 49 4 7 1d a 11 56",
   "1d 1 5 1 6 3 5 1 6 1 5 1 6 58 1d 21 4 1 11 e 1d a 8 6 1d 9 4 1 1d 25 4 1 6 7 5 1 1d 6 5 1 6 1 5",
   "1 4 5 11 a 1d a 8 13 a 3 1d 2 11 1e 4 2 1d 16 5 1 1d 1 6 7 5 1 6 2 5 1 6 2 5 49 1d 7 4 1 1d 2 4",
   "1 1d 26 4 6 5 3 1d 1 5 1 1d 2 5 1 1d 7 5 1 4 1 5 8 1d a 8 6 1d 6 4 1 1d 2 4 1 1d 20 4 5 6 1 1d 2",
   "5 1 1d 2 6 1 5 1 6 1 5 1 4 7 1d a 8 6 1d 29 4 1 3 2 4 4 1d a 8 f6 1d 13 4 2 5 2 6 2 11 7 1d 2 5",
   "1 4 1 6 d 4 1 1d 22 4 2 6 5 5 3 1d 2 6 1 5 1 6 1 5 d 11 a 8 1 5 55 1d 1 4 f 1d 15 a 8 15 4 13 11",
   "15 d 1d 1 11 39a 4 66 1d 6f 9 1 1d 5 11 b 1d c4 4 a4c 1d 61 4 2 11 d 1d 430 4 10 1a 1 5 6 4 f 5",
   "a 1d f9b 4 5 1d 247 4 1ab9 1d 1e 4 c 5 3 6 3 5 a 8 6c6 1d 239 4 7 1d 1f 4 1 1d a 8 4 1d 2 11 4f",
   "4 1 1d a 8 6 1d 1e 4 2 1d 5 5 1 11 a 1d 30 4 7 5 5 11 4 15 4 3 1 11 1 15 a 1d a 8 1 1d 7 a 1 1d",
   "15 4 5 1d 13 4 1b0 1d 3 3 28 4 2 3 3 11 a 8 c6 1d 20 0 20 1 17 a 4 11 5 1d 19 0 2 1d 19 1 2c 1d",
   "4b 4 4 1d 1 5 1 4 37 6 7 1d 4 5 d 3 40 1d 2 3 1 11 1 3 1 5 b 1d 2 6 2 3 3 9 9 1d 1cd6 4 29 1d 20",
   "4 61 1d 73 4 21fd 1d 4 3 1 1d 7 3 1 1d 2 3 1 1d 123 4 f 1d 1 4 1d 1d 3 4 2 1d 1 4 e 1d 4 4 8 1d",
   "18c 4 904 1d 6b 4 5 1d d 4 3 1d 9 4 7 1d a 4 2 1d 1 15 2 5 1 11 4 1a f5c 1d f0 15 a 8 3 15 3 1d",
   "1b4 15 6 1d 17 15 f 1d 10 15 1 12 f 1d 2e 5 2 1d 17 5 9 1d 74 15 3c 1d f6 15 a 1d 27 15 2 1d 3c",
   "15 2 6 3 5 3 15 6 6 8 1a 8 5 2 15 7 5 1e 15 4 5 3d 15 15 1d 42 15 3 5 1 15 7a 1d 14 a c 1d 14 a",
   "c 1d 57 15 9 1d 19 a 87 1d 1a 0 1a 1 1a 0 7 1 1 1d 12 1 1a 0 1a 1 1 0 1 1d 2 0 2 1d 1 0 2 1d 2 0",
   "2 1d 4 0 1 1d 8 0 4 1 1 1d 1 1 1 1d 7 1 1 1d b 1 1a 0 1a 1 2 0 1 1d 4 0 2 1d 8 0 1 1d 7 0 1 1d",
   "1a 1 2 0 1 1d 4 0 1 1d 5 0 1 1d 1 0 3 1d 7 0 1 1d 1a 1 1a 0 1a 1 1a 0 1a 1 1a 0 1a 1 1a 0 1a 1",
   "1a 0 1a 1 1a 0 1c 1 2 1d 19 0 1 12 19 1 1 12 6 1 19 0 1 12 19 1 1 12 6 1 19 0 1 12 19 1 1 12 6 1",
   "19 0 1 12 19 1 1 12 6 1 19 0 1 12 19 1 1 12 6 1 1 0 1 1 2 1d 32 8 200 15 37 5 4 15 32 5 8 15 1 5",
   "e 15 1 5 2 15 5 11 f 1d 5 5 1 1d f 5 450 1d a 1 1 4 14 1 6 1d 6 1 d5 1d 7 5 1 1d 11 5 2 1d 7 5 1",
   "1d 2 5 1 1d 5 5 5 1d 3e 3 21 1d 1 5 70 1d 2d 4 3 1d 7 5 7 3 2 1d a 8 4 1d 1 4 1 15 140 1d 1e 4 1",
   "5 11 1d 2c 4 4 5 a 8 5 1d 1 13 1d0 1d 1b 4 1 3 4 5 a 8 d6 1d 1e 4 2 5 1 4 a 8 4 1d 1 11 c0 1d 1f",
   "4 1 1d 3 4 1 5 2 4 1 5 7 4 2 5 5 4 1 5 8 1d 1 4 1 3 e0 1d 7 4 1 1d 4 4 1 1d 2 4 1 1d f 4 1 1d c5",
   "4 2 1d 9 a 7 5 29 1d 22 0 22 1 7 5 1 3 4 1d a 8 4 1d 2 11 311 1d 3b a 1 15 3 a 1 13 4 a 4c 1d 2d",
   "a 1 15 f a c2 1d 4 4 1 1d 1b 4 1 1d 2 4 1 1d 1 4 2 1d 1 4 1 1d a 4 1 1d 4 4 1 1d 1 4 1 1d 1 4 6",
   "1d 1 4 4 1d 1 4 1 1d 1 4 1 1d 1 4 1 1d 3 4 1 1d 2 4 1 1d 1 4 2 1d 1 4 1 1d 1 4 1 1d 1 4 1 1d 1 4",
   "1 1d 1 4 1 1d 2 4 1 1d 1 4 2 1d 4 4 1 1d 7 4 1 1d 4 4 1 1d 4 4 1 1d 1 4 1 1d a 4 1 1d 11 4 5 1d",
   "3 4 1 1d 5 4 1 1d 11 4 34 1d 2 12 10e 1d 2c 15 4 1d 64 15 c 1d f 15 2 1d f 15 1 1d f 15 1 1d 25",
   "15 a 1d d a a1 15 38 1d 1d 15 d 1d 2c 15 4 1d 9 15 7 1d 2 15 e 1d 6 15 9a 1d fb 15 5 14 2d9 15 3",
   "1d 11 15 3 1d d 15 3 1d da 15 6 1d c 15 4 1d 1 15 f 1d c 15 4 1d 38 15 8 1d a 15 6 1d 28 15 8 1d",
   "1e 15 2 1d c 15 4 1d 2 15 e 1d 9 12 27 1d 158 15 8 1d e 15 2 1d d 15 3 1d b 15 3 1d 39 15 1 1d 1",
   "15 4 1d 10 15 2 1d c 15 4 1d a 15 7 1d 93 15 1 1d 5c 15 a 8 1 15 405 1d a6e0 4 20 1d 111e 4 2 1d",
   "168e 4 2 1d 1d31 4 f 1d 26e 4 9a2 1d 21e 4 5e2 1d 134b 4 5 1d 212a 4 acb87 1d 1 1a 1e 1d 60 1a",
   "80 1d f0 5 fe10 1d fffe 1c 2 1d fffe 1c 2 1d"]

end ShapeKit.Unicode.Table
