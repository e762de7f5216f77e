/-!
# Script data

The script and the script extensions of every code point, Unicode 17.0.
-/

namespace ShapeKit.Unicode.Table

/-- The scripts, each with its names: the long name first, then the other
aliases. A script's number is its position in this list plus one. -/
def scriptNames : List (List String) :=
  [["Adlam", "Adlm"],
    ["Ahom"],
    ["Anatolian_Hieroglyphs", "Hluw"],
    ["Arabic", "Arab"],
    ["Armenian", "Armn"],
    ["Avestan", "Avst"],
    ["Balinese", "Bali"],
    ["Bamum", "Bamu"],
    ["Bassa_Vah", "Bass"],
    ["Batak", "Batk"],
    ["Bengali", "Beng"],
    ["Beria_Erfe", "Berf"],
    ["Bhaiksuki", "Bhks"],
    ["Bopomofo", "Bopo"],
    ["Brahmi", "Brah"],
    ["Braille", "Brai"],
    ["Buginese", "Bugi"],
    ["Buhid", "Buhd"],
    ["Canadian_Aboriginal", "Cans"],
    ["Carian", "Cari"],
    ["Caucasian_Albanian", "Aghb"],
    ["Chakma", "Cakm"],
    ["Cham"],
    ["Cherokee", "Cher"],
    ["Chorasmian", "Chrs"],
    ["Common", "Zyyy"],
    ["Coptic", "Copt", "Qaac"],
    ["Cuneiform", "Xsux"],
    ["Cypriot", "Cprt"],
    ["Cypro_Minoan", "Cpmn"],
    ["Cyrillic", "Cyrl"],
    ["Deseret", "Dsrt"],
    ["Devanagari", "Deva"],
    ["Dives_Akuru", "Diak"],
    ["Dogra", "Dogr"],
    ["Duployan", "Dupl"],
    ["Egyptian_Hieroglyphs", "Egyp"],
    ["Elbasan", "Elba"],
    ["Elymaic", "Elym"],
    ["Ethiopic", "Ethi"],
    ["Garay", "Gara"],
    ["Georgian", "Geor"],
    ["Glagolitic", "Glag"],
    ["Gothic", "Goth"],
    ["Grantha", "Gran"],
    ["Greek", "Grek"],
    ["Gujarati", "Gujr"],
    ["Gunjala_Gondi", "Gong"],
    ["Gurmukhi", "Guru"],
    ["Gurung_Khema", "Gukh"],
    ["Han", "Hani"],
    ["Hangul", "Hang"],
    ["Hanifi_Rohingya", "Rohg"],
    ["Hanunoo", "Hano"],
    ["Hatran", "Hatr"],
    ["Hebrew", "Hebr"],
    ["Hiragana", "Hira"],
    ["Imperial_Aramaic", "Armi"],
    ["Inherited", "Zinh", "Qaai"],
    ["Inscriptional_Pahlavi", "Phli"],
    ["Inscriptional_Parthian", "Prti"],
    ["Javanese", "Java"],
    ["Kaithi", "Kthi"],
    ["Kannada", "Knda"],
    ["Katakana", "Kana"],
    ["Kawi"],
    ["Kayah_Li", "Kali"],
    ["Kharoshthi", "Khar"],
    ["Khitan_Small_Script", "Kits"],
    ["Khmer", "Khmr"],
    ["Khojki", "Khoj"],
    ["Khudawadi", "Sind"],
    ["Kirat_Rai", "Krai"],
    ["Lao", "Laoo"],
    ["Latin", "Latn"],
    ["Lepcha", "Lepc"],
    ["Limbu", "Limb"],
    ["Linear_A", "Lina"],
    ["Linear_B", "Linb"],
    ["Lisu"],
    ["Lycian", "Lyci"],
    ["Lydian", "Lydi"],
    ["Mahajani", "Mahj"],
    ["Makasar", "Maka"],
    ["Malayalam", "Mlym"],
    ["Mandaic", "Mand"],
    ["Manichaean", "Mani"],
    ["Marchen", "Marc"],
    ["Masaram_Gondi", "Gonm"],
    ["Medefaidrin", "Medf"],
    ["Meetei_Mayek", "Mtei"],
    ["Mende_Kikakui", "Mend"],
    ["Meroitic_Cursive", "Merc"],
    ["Meroitic_Hieroglyphs", "Mero"],
    ["Miao", "Plrd"],
    ["Modi"],
    ["Mongolian", "Mong"],
    ["Mro", "Mroo"],
    ["Multani", "Mult"],
    ["Myanmar", "Mymr"],
    ["Nabataean", "Nbat"],
    ["Nag_Mundari", "Nagm"],
    ["Nandinagari", "Nand"],
    ["New_Tai_Lue", "Talu"],
    ["Newa"],
    ["Nko", "Nkoo"],
    ["Nushu", "Nshu"],
    ["Nyiakeng_Puachue_Hmong", "Hmnp"],
    ["Ogham", "Ogam"],
    ["Ol_Chiki", "Olck"],
    ["Ol_Onal", "Onao"],
    ["Old_Hungarian", "Hung"],
    ["Old_Italic", "Ital"],
    ["Old_North_Arabian", "Narb"],
    ["Old_Permic", "Perm"],
    ["Old_Persian", "Xpeo"],
    ["Old_Sogdian", "Sogo"],
    ["Old_South_Arabian", "Sarb"],
    ["Old_Turkic", "Orkh"],
    ["Old_Uyghur", "Ougr"],
    ["Oriya", "Orya"],
    ["Osage", "Osge"],
    ["Osmanya", "Osma"],
    ["Pahawh_Hmong", "Hmng"],
    ["Palmyrene", "Palm"],
    ["Pau_Cin_Hau", "Pauc"],
    ["Phags_Pa", "Phag"],
    ["Phoenician", "Phnx"],
    ["Psalter_Pahlavi", "Phlp"],
    ["Rejang", "Rjng"],
    ["Runic", "Runr"],
    ["Samaritan", "Samr"],
    ["Saurashtra", "Saur"],
    ["Sharada", "Shrd"],
    ["Shavian", "Shaw"],
    ["Siddham", "Sidd"],
    ["Sidetic", "Sidt"],
    ["SignWriting", "Sgnw"],
    ["Sinhala", "Sinh"],
    ["Sogdian", "Sogd"],
    ["Sora_Sompeng", "Sora"],
    ["Soyombo", "Soyo"],
    ["Sundanese", "Sund"],
    ["Sunuwar", "Sunu"],
    ["Syloti_Nagri", "Sylo"],
    ["Syriac", "Syrc"],
    ["Tagalog", "Tglg"],
    ["Tagbanwa", "Tagb"],
    ["Tai_Le", "Tale"],
    ["Tai_Tham", "Lana"],
    ["Tai_Viet", "Tavt"],
    ["Tai_Yo", "Tayo"],
    ["Takri", "Takr"],
    ["Tamil", "Taml"],
    ["Tangsa", "Tnsa"],
    ["Tangut", "Tang"],
    ["Telugu", "Telu"],
    ["Thaana", "Thaa"],
    ["Thai"],
    ["Tibetan", "Tibt"],
    ["Tifinagh", "Tfng"],
    ["Tirhuta", "Tirh"],
    ["Todhri", "Todr"],
    ["Tolong_Siki", "Tols"],
    ["Toto"],
    ["Tulu_Tigalari", "Tutg"],
    ["Ugaritic", "Ugar"],
    ["Vai", "Vaii"],
    ["Vithkuqi", "Vith"],
    ["Wancho", "Wcho"],
    ["Warang_Citi", "Wara"],
    ["Yezidi", "Yezi"],
    ["Yi", "Yiii"],
    ["Zanabazar_Square", "Zanb"]]

/-- The script of every code point as consecutive runs from `0` to `10FFFF`:
hexadecimal numbers in pairs, the length of a run and the number of its script
(`0` for none). -/
def scriptRuns : List String :=
  ["41 1a 1a 4b 6 1a 1a 4b 2f 1a 1 4b f 1a 1 4b 5 1a 17 4b 1 1a 1f 4b 1 1a 1c1 4b 27 1a 5 4b 5 1a 2",
   "e 14 1a 70 3b 4 2e 1 1a 3 2e 2 0 4 2e 1 1a 1 2e 4 0 1 2e 1 1a 1 2e 1 1a 3 2e 1 0 1 2e 1 0 14 2e",
   "1 0 3f 2e e 1b 10 2e 85 1f 2 3b a9 1f 1 0 26 5 2 0 32 5 2 0 3 5 1 0 37 38 8 0 1b 38 4 0 6 38 b 0",
   "5 4 1 1a 6 4 1 1a e 4 1 1a 3 4 1 1a 20 4 1 1a a 4 b 3b 1a 4 1 3b 6c 4 1 1a 22 4 e 92 1 0 3c 92 2",
   "0 3 92 30 4 32 9e e 0 3b 6a 2 0 3 6a 2e 84 2 0 f 84 1 0 1c 56 2 0 1 56 1 0 b 92 5 0 22 4 5 0 4b",
   "4 1 1a 1d 4 51 21 4 3b f 21 2 1a 1a 21 4 b 1 0 8 b 2 0 2 b 2 0 16 b 1 0 7 b 1 0 1 b 3 0 4 b 2 0",
   "9 b 2 0 2 b 2 0 4 b 8 0 1 b 4 0 2 b 1 0 5 b 2 0 19 b 2 0 3 31 1 0 6 31 4 0 2 31 2 0 16 31 1 0 7",
   "31 1 0 2 31 1 0 2 31 1 0 2 31 2 0 1 31 1 0 5 31 4 0 2 31 2 0 3 31 3 0 1 31 7 0 4 31 1 0 1 31 7 0",
   "11 31 a 0 3 2f 1 0 9 2f 1 0 3 2f 1 0 16 2f 1 0 7 2f 1 0 2 2f 1 0 5 2f 2 0 a 2f 1 0 3 2f 1 0 3 2f",
   "2 0 1 2f f 0 4 2f 2 0 c 2f 7 0 7 2f 1 0 3 79 1 0 8 79 2 0 2 79 2 0 16 79 1 0 7 79 1 0 2 79 1 0 5",
   "79 2 0 9 79 2 0 2 79 2 0 3 79 7 0 3 79 4 0 2 79 1 0 5 79 2 0 12 79 a 0 2 9a 1 0 6 9a 3 0 3 9a 1",
   "0 4 9a 3 0 2 9a 1 0 1 9a 1 0 2 9a 3 0 2 9a 3 0 3 9a 3 0 c 9a 4 0 5 9a 3 0 3 9a 1 0 4 9a 2 0 1 9a",
   "6 0 1 9a e 0 15 9a 5 0 d 9d 1 0 3 9d 1 0 17 9d 1 0 10 9d 2 0 9 9d 1 0 3 9d 1 0 4 9d 7 0 2 9d 1 0",
   "3 9d 1 0 2 9d 2 0 4 9d 2 0 a 9d 7 0 9 9d d 40 1 0 3 40 1 0 17 40 1 0 a 40 1 0 5 40 2 0 9 40 1 0",
   "3 40 1 0 4 40 7 0 2 40 5 0 3 40 1 0 4 40 2 0 a 40 1 0 3 40 c 0 d 55 1 0 3 55 1 0 33 55 1 0 3 55",
   "1 0 6 55 4 0 10 55 2 0 1a 55 1 0 3 8b 1 0 12 8b 3 0 18 8b 1 0 9 8b 1 0 1 8b 2 0 7 8b 3 0 1 8b 4",
   "0 6 8b 1 0 1 8b 1 0 8 8b 6 0 a 8b 2 0 3 8b c 0 3a 9f 4 0 1 1a 1c 9f 25 0 2 4a 1 0 1 4a 1 0 5 4a",
   "1 0 18 4a 1 0 1 4a 1 0 17 4a 2 0 5 4a 1 0 1 4a 1 0 7 4a 1 0 a 4a 2 0 4 4a 20 0 48 a0 1 0 24 a0 4",
   "0 27 a0 1 0 24 a0 1 0 f a0 1 0 7 a0 4 1a 2 a0 25 0 a0 64 26 2a 1 0 1 2a 5 0 1 2a 2 0 2b 2a 1 1a",
   "4 2a 100 34 49 28 1 0 4 28 2 0 7 28 1 0 1 28 1 0 4 28 2 0 29 28 1 0 4 28 2 0 21 28 1 0 4 28 2 0",
   "7 28 1 0 1 28 1 0 4 28 2 0 f 28 1 0 39 28 1 0 4 28 2 0 43 28 2 0 20 28 3 0 1a 28 6 0 56 18 2 0 6",
   "18 2 0 280 13 1d 6d 3 0 4b 83 3 1a b 83 7 0 16 93 9 0 1 93 15 36 2 1a 9 0 14 12 c 0 d 94 1 0 3",
   "94 1 0 2 94 c 0 5e 46 2 0 a 46 6 0 a 46 6 0 2 61 2 1a 1 61 1 1a 14 61 6 0 59 61 7 0 2b 61 5 0 46",
   "13 a 0 1f 4d 1 0 c 4d 4 0 c 4d 4 0 1 4d 3 0 c 4d 1e 95 2 0 5 95 b 0 2c 68 4 0 1a 68 6 0 b 68 3 0",
   "2 68 20 46 1c 11 2 0 2 11 3f 96 1 0 1d 96 2 0 b 96 6 0 a 96 6 0 e 96 2 0 2e 3b 2 0 c 3b 14 0 4d",
   "7 1 0 32 7 40 8f 34 a 8 0 4 a 38 4c 3 0 f 4c 3 0 3 4c 30 6e b 1f 5 0 2b 2a 2 0 3 2a 8 8f 8 0 3",
   "3b 1 1a d 3b 1 1a 7 3b 4 1a 1 3b 6 1a 1 3b 3 1a 2 3b 1 1a 5 0 26 4b 5 2e 1 1f 31 4b 5 2e 4 4b 5",
   "2e d 4b 1 1f 46 4b 1 2e 40 3b 100 4b 16 2e 2 0 6 2e 2 0 26 2e 2 0 6 2e 2 0 8 2e 1 0 1 2e 1 0 1",
   "2e 1 0 1 2e 1 0 1f 2e 2 0 35 2e 1 0 f 2e 1 0 e 2e 2 0 6 2e 1 0 13 2e 2 0 3 2e 1 0 9 2e 1 0 c 1a",
   "2 3b 57 1a 1 0 b 1a 1 4b 2 0 b 1a 1 4b f 1a 1 0 d 4b 3 0 22 1a e 0 21 3b f 0 26 1a 1 2e 3 1a 2",
   "4b 6 1a 1 4b 1b 1a 1 4b 11 1a 29 4b 3 1a 4 0 29a 1a 16 0 b 1a 15 0 3a0 1a 100 10 274 1a 2 0 8a",
   "1a 60 2b 20 4b 74 1b 5 0 7 1b 26 2a 1 0 1 2a 5 0 1 2a 2 0 38 a1 7 0 2 a1 e 0 1 a1 17 28 9 0 7 28",
   "1 0 7 28 1 0 7 28 1 0 7 28 1 0 7 28 1 0 7 28 1 0 7 28 1 0 7 28 1 0 20 1f 5e 1a 22 0 1a 33 1 0 59",
   "33 c 0 d6 33 1a 0 15 1a 1 33 1 1a 1 33 19 1a 9 33 4 3b 2 34 8 1a 4 33 4 1a 1 0 56 39 2 0 2 3b 2",
   "1a 3 39 1 1a 5a 41 2 1a 3 41 5 0 2b e 1 0 5e 34 1 0 10 1a 20 e 26 1a 9 0 1 1a 10 41 1f 34 1 0 40",
   "1a 1f 34 51 1a 2f 41 1 1a 58 41 a8 1a 19c0 33 40 1a 5200 33 48d ad 3 0 37 ad 9 0 30 50 12c a8 14",
   "0 60 1f 58 8 8 0 22 1a 66 4b 3 1a 52 4b 14 0 f 4b 2d 91 3 0 a 1a 6 0 38 7f 8 0 46 85 8 0 c 85 6",
   "0 20 21 2e 43 1 1a 1 43 24 82 b 0 1 82 1d 34 3 0 4e 3e 1 0 1 1a a 3e 4 0 2 3e 1f 64 1 0 37 17 9",
   "0 e 17 2 0 a 17 2 0 4 17 20 64 43 97 18 0 5 97 17 5b a 0 6 28 2 0 6 28 2 0 6 28 9 0 7 28 1 0 7",
   "28 1 0 2b 4b 1 1a 9 4b 1 2e 4 4b 2 1a 4 0 50 18 2e 5b 2 0 a 5b 6 0 2ba4 34 c 0 17 34 4 0 31 34",
   "2104 0 16e 33 2 0 6a 33 26 0 7 4b c 0 5 5 5 0 1a 38 1 0 5 38 1 0 1 38 1 0 2 38 1 0 2 38 1 0 a 38",
   "1ee 4 2 1a 90 4 20 0 10 4 10 3b a 1a 6 0 e 3b 2 1f 23 1a 1 0 13 1a 1 0 4 1a 4 0 5 4 1 0 87 4 2 0",
   "1 1a 1 0 20 1a 1a 4b 6 1a 1a 4b b 1a a 41 1 1a 2d 41 2 1a 1f 34 3 0 6 34 2 0 6 34 2 0 6 34 2 0 3",
   "34 3 0 7 1a 1 0 7 1a a 0 5 1a 2 0 c 4f 1 0 1a 4f 1 0 13 4f 1 0 2 4f 1 0 f 4f 2 0 e 4f 22 0 7b 4f",
   "5 0 3 1a 4 0 2d 1a 3 0 9 1a 4f 2e 1 0 d 1a 3 0 1 2e 2f 0 2d 1a 1 3b 82 0 1d 51 3 0 31 14 f 0 1",
   "3b 1b 1a 4 0 24 71 9 0 3 71 1b 2c 5 0 2b 73 5 0 1e a7 1 0 1 a7 24 74 4 0 e 74 2a 0 50 20 30 87",
   "1e 7b 2 0 a 7b 6 0 24 7a 4 0 24 7a 4 0 28 26 8 0 34 15 b 0 1 15 b a9 1 0 f a9 1 0 7 a9 1 0 2 a9",
   "1 0 b a9 1 0 f a9 1 0 7 a9 1 0 2 a9 3 0 34 a3 c 0 137 4e 9 0 16 4e a 0 8 4e 18 0 6 4b 1 0 2a 4b",
   "1 0 9 4b 45 0 6 1d 2 0 1 1d 1 0 2c 1d 1 0 2 1d 3 0 1 1d 2 0 1 1d 16 3a 1 0 9 3a 20 7d 1f 65 8 0",
   "9 65 30 0 13 37 1 0 2 37 5 0 5 37 1c 80 3 0 1 80 1a 52 5 0 1 52 1a 89 26 0 20 5e 18 5d 4 0 14 5d",
   "2 0 2e 5d 4 44 1 0 2 44 5 0 8 44 1 0 3 44 1 0 1d 44 2 0 3 44 4 0 a 44 7 0 9 44 7 0 20 76 20 72",
   "20 0 27 57 4 0 c 57 9 0 36 6 3 0 7 6 16 3d 2 0 8 3d 13 3c 5 0 8 3c 12 81 7 0 4 81 c 0 7 81 50 0",
   "49 77 37 0 33 70 d 0 33 70 7 0 6 70 28 35 8 0 a 35 6 0 26 29 3 0 1d 29 8 0 2 29 d0 0 1f 4 1 0 2a",
   "ac 1 0 3 ac 2 0 2 ac 10 0 6 4 8 0 9 4 21 0 6 4 28 75 8 0 2a 8c 16 0 1a 78 26 0 1c 19 14 0 17 27",
   "9 0 4e f 4 0 24 f 9 0 1 f 43 3f a 0 1 3f 2 0 19 8d 7 0 a 8d 6 0 35 16 1 0 12 16 8 0 27 53 9 0 60",
   "86 1 0 14 8b b 0 12 47 1 0 2f 47 3e 0 7 63 1 0 1 63 1 0 4 63 1 0 f 63 1 0 b 63 6 0 3b 48 5 0 a",
   "48 6 0 4 2d 1 0 8 2d 2 0 2 2d 2 0 16 2d 1 0 7 2d 1 0 2 2d 1 0 5 2d 1 0 1 3b 9 2d 2 0 2 2d 2 0 3",
   "2d 2 0 1 2d 6 0 1 2d 5 0 7 2d 2 0 7 2d 3 0 5 2d b 0 a a6 1 0 1 a6 2 0 1 a6 1 0 26 a6 1 0 a a6 1",
   "0 1 a6 2 0 1 a6 1 0 4 a6 1 0 a a6 1 0 2 a6 8 0 2 a6 1d 0 5c 69 1 0 5 69 1e 0 48 a2 8 0 a a2 a6 0",
   "36 88 2 0 26 88 22 0 45 60 b 0 a 60 6 0 d 61 13 0 3a 99 6 0 a 99 6 0 14 64 1c 0 1b 2 2 0 f 2 4 0",
   "17 2 b9 0 3c 23 64 0 53 ab c 0 1 ab 7 22 2 0 1 22 2 0 8 22 1 0 2 22 1 0 1e 22 1 0 2 22 2 0 c 22",
   "9 0 a 22 46 0 8 67 2 0 2e 67 2 0 b 67 1b 0 48 ae 8 0 53 8e d 0 10 13 39 7e 7 0 a 21 56 0 8 86 58",
   "0 22 90 e 0 a 90 6 0 9 d 1 0 2d d 1 0 e d a 0 1d d 3 0 20 58 2 0 16 58 1 0 e 58 49 0 7 59 1 0 2",
   "59 1 0 2c 59 3 0 1 59 1 0 2 59 1 0 9 59 8 0 a 59 6 0 6 30 1 0 2 30 1 0 25 30 1 0 2 30 1 0 6 30 7",
   "0 a 30 6 0 2c a4 4 0 a a4 f6 0 19 54 7 0 11 42 1 0 29 42 3 0 1d 42 55 0 1 50 f 0 32 9a d 0 1 9a",
   "39a 1c 66 0 6f 1c 1 0 5 1c b 0 c4 1c a4c 0 63 1e d 0 456 25 a 0 f9b 25 5 0 247 3 1ab9 0 3a 32",
   "6c6 0 239 8 7 0 1f 62 1 0 a 62 4 0 2 62 4f 9b 1 0 a 9b 6 0 1e 9 2 0 6 9 a 0 46 7c a 0 a 7c 1 0 7",
   "7c 1 0 15 7c 5 0 13 7c 1b0 0 3a 49 c6 0 5b 5a 5 0 19 c 2 0 19 c 2c 0 4b 5f 4 0 39 5f 7 0 11 5f",
   "40 0 1 9c 1 6b 2 33 1 45 b 0 7 33 9 0 1b00 9c 1d6 45 29 0 1 45 1f 9c 61 0 73 9c 21fd 0 4 41 1 0",
   "7 41 1 0 2 41 1 0 1 41 11f 39 3 41 f 0 1 39 1d 0 3 39 2 0 1 41 e 0 4 41 8 0 18c 6b 904 0 6b 24 5",
   "0 d 24 3 0 9 24 7 0 a 24 2 0 4 24 4 1a f5c 0 fd 1a 3 0 1b4 1a 6 0 17 1a f 0 11 1a f 0 2e 3b 2 0",
   "17 3b 9 0 74 1a 3c 0 f6 1a a 0 27 1a 2 0 3e 1a 3 3b 11 1a 8 3b 2 1a 7 3b 1e 1a 4 3b 3d 1a 15 0",
   "46 2e 7a 0 14 1a c 0 14 1a c 0 57 1a 9 0 19 1a 87 0 55 1a 1 0 47 1a 1 0 2 1a 2 0 1 1a 2 0 2 1a 2",
   "0 4 1a 1 0 c 1a 1 0 1 1a 1 0 7 1a 1 0 41 1a 1 0 4 1a 2 0 8 1a 1 0 7 1a 1 0 1c 1a 1 0 4 1a 1 0 5",
   "1a 1 0 1 1a 3 0 7 1a 1 0 154 1a 2 0 124 1a 2 0 32 1a 28c 8a f 0 5 8a 1 0 f 8a 450 0 1f 4b 6 0 6",
   "4b d5 0 7 2b 1 0 11 2b 2 0 7 2b 1 0 2 2b 1 0 5 2b 5 0 3e 1f 21 0 1 1f 70 0 2d 6c 3 0 e 6c 2 0 a",
   "6c 4 0 2 6c 140 0 1f a5 11 0 3a aa 5 0 1 aa 1d0 0 2a 66 d6 0 2b 6f 4 0 1 6f c0 0 1f 98 1 0 16 98",
   "8 0 2 98 e0 0 7 28 1 0 4 28 1 0 2 28 1 0 f 28 1 0 c5 5c 2 0 10 5c 29 0 4c 1 4 0 a 1 4 0 2 1 311",
   "0 44 1a 4c 0 3d 1a c2 0 4 4 1 0 1b 4 1 0 2 4 1 0 1 4 2 0 1 4 1 0 a 4 1 0 4 4 1 0 1 4 1 0 1 4 6 0",
   "1 4 4 0 1 4 1 0 1 4 1 0 1 4 1 0 3 4 1 0 2 4 1 0 1 4 2 0 1 4 1 0 1 4 1 0 1 4 1 0 1 4 1 0 1 4 1 0",
   "2 4 1 0 1 4 2 0 4 4 1 0 7 4 1 0 4 4 1 0 4 4 1 0 1 4 1 0 a 4 1 0 11 4 5 0 3 4 1 0 5 4 1 0 11 4 34",
   "0 2 4 10e 0 2c 1a 4 0 64 1a c 0 f 1a 2 0 f 1a 1 0 f 1a 1 0 25 1a a 0 ae 1a 38 0 1a 1a 1 39 2 1a",
   "d 0 2c 1a 4 0 9 1a 7 0 2 1a e 0 6 1a 9a 0 3d9 1a 3 0 11 1a 3 0 d 1a 3 0 da 1a 6 0 c 1a 4 0 1 1a",
   "f 0 c 1a 4 0 38 1a 8 0 a 1a 6 0 28 1a 8 0 1e 1a 2 0 c 1a 4 0 2 1a e 0 9 1a 27 0 158 1a 8 0 e 1a",
   "2 0 d 1a 3 0 b 1a 3 0 39 1a 1 0 1 1a 4 0 10 1a 2 0 c 1a 4 0 a 1a 7 0 93 1a 1 0 67 1a 405 0 a6e0",
   "33 20 0 111e 33 2 0 168e 33 2 0 1d31 33 f 0 26e 33 9a2 0 21e 33 5e2 0 134b 33 5 0 212a 33 acb87",
   "0 1 1a 1e 0 60 1a 80 0 f0 3b 2fe10 0"]

/-- The code points whose script extensions are not just their script, as
records ended by `;`: the gap from the previous record, the length of the
stretch less one, then the numbers of the scripts in its extensions, all in
hexadecimal. -/
def scriptExtensionRecords : List String :=
  ["b7 0 6 14 1b 24 26 2a 2b 2c 2e 30 33 4b 52 53 73 87; 204 0 b 1f 21 4b 50 9f a5; a 0 e 4b;",
   "1 2 e 4b; 1 0 4b 50; 9 0 4b 9f; 1 0 e 4b; 26 0 18 1b 1f 2e 4b 73 90 95;",
   "0 0 18 1f 2e 4b 7a 90 95 a3; 0 0 18 1f 4b a1; 0 0 2b 4b 90 92 9f;",
   "0 0 15 18 1b 1f 2c 2e 4b 7a 92 a1 a3; 0 0 1b 26 2b 2c 41 4b; 0 0 1f 2e 4b 73 a1;",
   "0 0 1b 24 38 4b 73 92 95 a1 a3; 0 0 5 1f 24 2c 2e 38 4b 73 92 95 a1; 0 0 4b a1; 0 0 24 4b 92;",
   "0 0 18 1f 4b 7a; 0 0 18 4b 95; 0 0 4b 90; 0 0 28 4b; 1 0 4b 90; 0 0 1f 4b a3; 1 0 2e 4b 73 a3;",
   "f 0 18 24 41 4b 92 a1; 0 0 18 24 4b 92; 0 0 4b 92; 7 0 4b 90 92; 0 0 4b 92; 1 0 18 4b 92;",
   "0 0 15 18 2c 4b 90 92 9f; 10 0 2e; 2 0 2e; 12 0 4b 7a; 5 0 15 4b a3; 4 c 4b; 4 1 1b 2e;",
   "10d 0 1f 73; 0 0 1f 2b; 0 1 1f 4b; 0 0 1f 2b; 101 0 5 2a 2b; 82 0 4 29 35 6a 92 9e ac;",
   "e 0 4 29 35 6a 92 9e ac; 0 0 4 92 9e; 2 0 1 4 29 35 6a 92 9e ac; 20 0 1 4 35 56 57 78 81 8c 92;",
   "a a 4 92; a 9 4 9e ac; 6 0 4 92; 63 0 4 35; 27c 0 b 21 2d 2f 31 40 4b 55 67 69 79 86 9a 9d a2;",
   "0 0 b 21 2d 2f 31 40 4b 55 69 79 9a 9d a2;",
   "11 0 b 21 23 2d 2f 30 31 40 48 53 55 59 67 6f 79 8b 91 99 9a 9d a2;",
   "0 0 b 21 23 2d 2f 30 31 32 40 48 4d 53 55 59 67 6f 79 8b 91 99 9a 9d a2; 0 9 21 23 3f 53;",
   "76 9 b 16 91; 76 9 31 63; 76 9 2f 47; f6 d 2d 9a; f2 9 40 67 a6; 350 9 16 64 95; b1 0 2a 2b 4b;",
   "5ef 2 83; 47 1 12 36 93 94; cb 1 61 7f; 1 0 61 7f; 4ca 0 b 21 2d 40; 0 0 21; 0 0 b 21 2d 40;",
   "0 0 21 2d 40; 0 0 21; 0 0 b 21 69 9d a2; 0 0 b 21 9d; 0 0 21 69 86; 0 0 b 21 69 9d; 0 0 21 86;",
   "0 0 21 40 55 79 9a 9d; 0 0 21; 0 1 21 86; 0 1 21; 0 0 21 86; 0 0 b 21; 0 0 21 69 a2; 0 5 21;",
   "0 0 21 67 69; 0 0 b 21 86; 0 0 21 69; 0 0 21; 0 0 b 21 69 86; 0 3 21;",
   "0 0 b 21 2d 40 55 67 79 8b 9d a2 a6; 0 0 21 2d; 0 0 21 2d 40 a6; 0 1 b 21; 0 0 b; 0 1 21 2d;",
   "0 0 67; c5 1 2e; 36 0 1f 4b 92; 1 0 92; 234 0 4b 61 7f; 1f 0 1 4; a 0 14 2a 2b 51 70 77;",
   "2 0 14 2e 5e 70; 92 0 21 2d 4b; d26 0 1b 4b; 18 0 6 77; 0 0 6 14 2a 3f 52 70 84; a 0 24;",
   "4 0 1 4 70; 1 0 1f 2b; 1ac f 33 9c; 1 0 e 33 34 39 41 61 ad; 0 0 e 33 34 39 41 61 7f ad;",
   "0 0 e 33 34 39 41; 2 0 33; 1 1 e 33 34 39 41 61 a0 ad; 0 1 e 33 34 39 41 50 61 a0 ad;",
   "0 5 e 33 34 39 41 ad; 1 0 e 33 34 39 41; 0 7 e 33 34 39 41 ad; 0 3 e 33 34 39 41; a 3 e 33;",
   "2 0 e 33 34 39 41; 0 4 39 41; 1 0 e 33 34 39 41; 4 1 33 39 41; 0 1 33; 59 3 39 41; 3 0 39 41;",
   "5a 0 e 33 34 39 41 ad; 0 0 39 41; 93 f 33; 20 25 33; 9 0 33 9c; 30 27 33; 38 30 33; f b 33;",
   "33 0 33; 58 18 33; a 4 33; 60 1e 33; 7270 0 1f 2b; 90 7 33 4b;",
   "128 2 21 23 2f 31 3f 40 47 48 53 55 60 67 86 99 a2 a6;",
   "0 2 21 23 2f 31 3f 40 47 48 53 60 67 86 99 a2 a6; 0 1 21 23 2f 31 3f 47 48 53 60 99 a2;",
   "0 0 21 23 2f 31 3f 47 48 53 60 86 99 a2; 0 0 21 23 2f 31 3f 47 48 53 60 99 a2; b7 0 b 21 a6;",
   "1 0 21 9a; 3a 0 43 4b 64; a0 0 11 3e; 536e 1 4 6a; b2 0 4 9e; a 0 4 9e; 47 1 e 33 34 39 41;",
   "11a 4 e 33 34 39 41 ad; a 0 39 41; 2d 1 39 41; 160 1 1d 1e 4f; 0 0 1d 4f; 4 2c 1d 4e 4f;",
   "3 8 1d 4f; 1a0 1b 4 1b; 7f6 0 57 78; 80e 0 2d 9a; 1 0 2d 9a; 37 1 2d 9a; c93 1 2d 9a; 1 0 2d 9a;",
   "9ccc 3 24; 16bc 11 33; 1ede 1 33;"]

/-- The scripts that have names but no code points of their own: every code
point of theirs is counted under another script. -/
def scriptsWithoutCodePoints : List (List String) :=
  [["Katakana_Or_Hiragana", "Hrkt"], ["Unknown", "Zzzz"]]

end ShapeKit.Unicode.Table
