import HttpRouter.Unicode.CodePointSet

namespace HttpRouter.Unicode

/-- A script with its names, the code points that belong to it, and further ones that it shares with
    other scripts. -/
structure Script where
  names : List String
  points : CodePointSet
  shared : CodePointSet := .empty

namespace Script

/-- Every script but the two below. -/
def ordinary : List Script := [
  { names := ["Adlam", "Adlm"]
    points := .ofSteps
      "1e900 4c 4 a 4 2"
    shared := .ofSteps
      "61f 1 20 1 1a0e 1 df1 1" },
  { names := ["Ahom"]
    points := .ofSteps
      "11700 1b 2 f 4 17" },
  { names := ["Anatolian_Hieroglyphs", "Hluw"]
    points := .ofSteps
      "14400 247" },
  { names := ["Arabic", "Arab"]
    points := .ofSteps
      "600 5 1 6 1 e 1 3 1 20 1 a b 1a 1 6c 1 22 50 30 f0 1f 1 2 5 4b 1 1d f250 73 10 16b 2 50 2
      36 7 1 20 10 70 5 1 87 f63 1f 43 3 37 4 df00 4 1 1b 1 2 1 1 2 1 1 a 1 4 1 1 1 1 6 1 4 1 1
      1 1 1 1 3 1 2 1 1 2 1 1 1 1 1 1 1 1 1 1 2 1 1 2 4 1 7 1 4 1 4 1 1 1 a 1 11 5 3 1 5 1 11 34
      2"
    shared := .ofSteps
      "60c 1 e 1 3 1 20 1 a b 1a 1 19de 1 df1 1 cefc 2 5a0 1c" },
  { names := ["Armenian", "Armn"]
    points := .ofSteps
      "531 26 2 32 2 3 f583 5"
    shared := .ofSteps
      "308 1" },
  { names := ["Avestan", "Avst"]
    points := .ofSteps
      "10b00 36 3 7"
    shared := .ofSteps
      "b7 1 2d78 2" },
  { names := ["Balinese", "Bali"]
    points := .ofSteps
      "1b00 4d 1 32" },
  { names := ["Bamum", "Bamu"]
    points := .ofSteps
      "a6a0 58 c108 239" },
  { names := ["Bassa_Vah", "Bass"]
    points := .ofSteps
      "16ad0 1e 2 6" },
  { names := ["Batak", "Batk"]
    points := .ofSteps
      "1bc0 34 8 4" },
  { names := ["Bengali", "Beng"]
    points := .ofSteps
      "980 4 1 8 2 2 2 16 1 7 1 1 3 4 2 9 2 2 2 4 8 1 4 2 1 5 2 19"
    shared := .ofSteps
      "2bc 1 694 2 11 2 136a 1 1 1 2 2 1 1 8 1 8 1 2 1 4 1 2 3 8bf9 1" },
  { names := ["Bhaiksuki", "Bhks"]
    points := .ofSteps
      "11c00 9 1 2d 1 e a 1d" },
  { names := ["Bopomofo", "Bopo"]
    points := .ofSteps
      "2ea 2 2e19 2b 70 20"
    shared := .ofSteps
      "2c7 1 1 3 d 1 2d27 3 4 a 1 d a 4 2 1 6 1 c3 1 cd49 2 11a 5" },
  { names := ["Brahmi", "Brah"]
    points := .ofSteps
      "11000 4e 4 24 9 1" },
  { names := ["Braille", "Brai"]
    points := .ofSteps
      "2800 100" },
  { names := ["Buginese", "Bugi"]
    points := .ofSteps
      "1a00 1c 2 2"
    shared := .ofSteps
      "a9cf 1" },
  { names := ["Buhid", "Buhd"]
    points := .ofSteps
      "1740 14"
    shared := .ofSteps
      "1735 2" },
  { names := ["Canadian_Aboriginal", "Cans"]
    points := .ofSteps
      "1400 280 230 46 101ba 10" },
  { names := ["Carian", "Cari"]
    points := .ofSteps
      "102a0 31"
    shared := .ofSteps
      "b7 1 1fa2 1 2 1 dd3 1" },
  { names := ["Caucasian_Albanian", "Aghb"]
    points := .ofSteps
      "10530 34 b 1"
    shared := .ofSteps
      "304 1 2c 1 2c 1" },
  { names := ["Chakma", "Cakm"]
    points := .ofSteps
      "11100 35 1 12"
    shared := .ofSteps
      "9e6 a 650 a" },
  { names := ["Cham"]
    points := .ofSteps
      "aa00 37 9 e 2 a 2 4" },
  { names := ["Cherokee", "Cher"]
    points := .ofSteps
      "13a0 56 2 6 9772 50"
    shared := .ofSteps
      "300 3 1 1 6 2 16 2 b 2" },
  { names := ["Chorasmian", "Chrs"]
    points := .ofSteps
      "10fb0 1c" },
  { names := ["Coptic", "Copt", "Qaac"]
    points := .ofSteps
      "3e2 e 2890 74 5 7"
    shared := .ofSteps
      "b7 1 248 1 3 2 1 1 6c 2 2aa1 1 d4c8 1c" },
  { names := ["Cuneiform", "Xsux"]
    points := .ofSteps
      "12000 39a 66 6f 1 5 b c4" },
  { names := ["Cypriot", "Cprt"]
    points := .ofSteps
      "10800 6 2 1 1 2c 1 2 3 1 2 1"
    shared := .ofSteps
      "10100 3 4 2d 3 9" },
  { names := ["Cypro_Minoan", "Cpmn"]
    points := .ofSteps
      "12f90 63"
    shared := .ofSteps
      "10100 2" },
  { names := ["Cyrillic", "Cyrl"]
    points := .ofSteps
      "400 85 2 a9 1750 b a0 1 4c 1 1067 20 7840 60 578e 2 e200 3e 21 1"
    shared := .ofSteps
      "2bc 1 43 3 1 1 1 1 1 1 2 1 5 1 173 2 1971 1 104a 1" },
  { names := ["Deseret", "Dsrt"]
    points := .ofSteps
      "10400 50" },
  { names := ["Devanagari", "Deva"]
    points := .ofSteps
      "900 51 4 f 2 1a 9f60 20 7200 a"
    shared := .ofSteps
      "2bc 1 694 2 11 2 136a 27 1 2 3f6 1 873f a" },
  { names := ["Dives_Akuru", "Diak"]
    points := .ofSteps
      "11900 7 2 1 2 8 1 2 1 1e 1 2 2 c 9 a" },
  { names := ["Dogra", "Dogr"]
    points := .ofSteps
      "11800 3c"
    shared := .ofSteps
      "964 c 9ec0 a" },
  { names := ["Duployan", "Dupl"]
    points := .ofSteps
      "1bc00 6b 5 d 3 9 7 a 2 4"
    shared := .ofSteps
      "b7 1 24f 2 1 1 18 2 2b17 1 18e63 4" },
  { names := ["Egyptian_Hieroglyphs", "Egyp"]
    points := .ofSteps
      "13000 456 a f9b" },
  { names := ["Elbasan", "Elba"]
    points := .ofSteps
      "10500 28"
    shared := .ofSteps
      "b7 1 24d 1" },
  { names := ["Elymaic", "Elym"]
    points := .ofSteps
      "10fe0 17" },
  { names := ["Ethiopic", "Ethi"]
    points := .ofSteps
      "1200 49 1 4 2 7 1 1 1 4 2 29 1 4 2 21 1 4 2 7 1 1 1 4 2 f 1 39 1 4 2 43 2 20 3 1a 19e6 17
      9 7 1 7 1 7 1 7 1 7 1 7 1 7 1 7 7d22 6 2 6 2 6 9 7 1 7 13cb1 7 1 4 1 2 1 f"
    shared := .ofSteps
      "30e 1" },
  { names := ["Garay", "Gara"]
    points := .ofSteps
      "10d40 26 3 1d 8 2"
    shared := .ofSteps
      "60c 1 e 1 3 1" },
  { names := ["Georgian", "Geor"]
    points := .ofSteps
      "10a0 26 1 1 5 1 2 2b 1 4 b90 2b 2 3 1040 26 1 1 5 1"
    shared := .ofSteps
      "b7 1 4d1 1 b71 1 f5e 1 dd6 1" },
  { names := ["Glagolitic", "Glag"]
    points := .ofSteps
      "2c00 60 1b3a0 7 1 11 2 7 1 2 1 5"
    shared := .ofSteps
      "b7 1 24b 1 1 1 17e 1 2 1 101 1 b71 1 f5e 1 de8 1 782b 1" },
  { names := ["Gothic", "Goth"]
    points := .ofSteps
      "10330 1b"
    shared := .ofSteps
      "b7 1 24c 2 2 1 28 1" },
  { names := ["Grantha", "Gran"]
    points := .ofSteps
      "11300 4 1 8 2 2 2 16 1 7 1 2 1 5 2 9 2 2 2 3 2 1 6 1 5 7 2 7 3 5"
    shared := .ofSteps
      "951 2 11 2 280 e 10dc 1 1 2 1e 3 3 2 3f6 1 f24a 1 c94 2 1 1" },
  { names := ["Greek", "Grek"]
    points := .ofSteps
      "370 4 1 3 2 4 1 1 4 1 1 1 1 3 1 1 1 14 1 3f e 10 1926 5 32 5 4 5 54 1 140 16 2 6 2 26 2 6
      2 8 1 1 1 1 1 1 1 1f 2 35 1 f 1 e 2 6 1 13 2 3 1 9 127 1 8a3e 1 55da 4f 11 1 d05f 46"
    shared := .ofSteps
      "b7 1 248 2 2 1 1 1 1 1 a 1 2e 1 2 1 2e 1 1a4b 2 29b 1" },
  { names := ["Gujarati", "Gujr"]
    points := .ofSteps
      "a81 3 1 9 1 3 1 16 1 7 1 2 1 5 2 a 1 3 1 3 2 1 f 4 2 c 7 7"
    shared := .ofSteps
      "951 2 11 2 9eca a" },
  { names := ["Gunjala_Gondi", "Gong"]
    points := .ofSteps
      "11d60 6 1 2 1 25 1 2 1 6 7 a"
    shared := .ofSteps
      "b7 1 8ac 2" },
  { names := ["Gurmukhi", "Guru"]
    points := .ofSteps
      "a01 3 1 6 4 2 2 16 1 7 1 2 1 2 1 2 2 1 1 5 4 2 2 3 3 1 7 4 1 1 7 11"
    shared := .ofSteps
      "951 2 11 2 9eca a" },
  { names := ["Gurung_Khema", "Gukh"]
    points := .ofSteps
      "16100 3a"
    shared := .ofSteps
      "965 1" },
  { names := ["Han", "Hani"]
    points := .ofSteps
      "2e80 1a 1 59 c d6 2f 1 1 1 19 9 e 4 3c4 19c0 40 5200 5900 16e 2 6a 7508 2 c 2 900e a6e0
      20 103a 6 de 2 1682 e 1d31 f 26e 9a2 21e 5e2 134b 5 1060"
    shared := .ofSteps
      "b7 1 2f38 10 1 3 2 1 1 a 1 d a 4 2 1 6 1 4 4 bb 1 94 10 20 26 9 1 30 28 38 31 f c 33 1 58
      19 a 5 60 1f 7301 8 573d 2 11a 5 d3fa 12 1ede 2" },
  { names := ["Hangul", "Hang"]
    points := .ofSteps
      "1100 100 1e2e 2 101 5e 71 1f 41 1f 76e1 1d 283 2ba4 c 17 4 31 27a4 1f 3 6 2 6 2 6 2 3"
    shared := .ofSteps
      "3001 3 4 a 1 d 10 1 6 1 c3 1 cd49 2 11a 5" },
  { names := ["Hanifi_Rohingya", "Rohg"]
    points := .ofSteps
      "10d00 28 8 a"
    shared := .ofSteps
      "60c 1 e 1 3 1 20 1 93 1" },
  { names := ["Hanunoo", "Hano"]
    points := .ofSteps
      "1720 15"
    shared := .ofSteps
      "1735 2" },
  { names := ["Hatran", "Hatr"]
    points := .ofSteps
      "108e0 13 1 2 5 5" },
  { names := ["Hebrew", "Hebr"]
    points := .ofSteps
      "591 37 8 1b 4 6 f528 1a 1 5 1 1 1 2 1 2 1 a"
    shared := .ofSteps
      "307 2" },
  { names := ["Hiragana", "Hira"]
    points := .ofSteps
      "3041 56 6 3 17f61 11f 12 1 1d 3 40ad 1"
    shared := .ofSteps
      "3001 3 4 a 1 d 10 6 1 1 4 2 5b 4 3 1 5a 2 cd48 2 11a 5 a 1 2d 2" },
  { names := ["Imperial_Aramaic", "Armi"]
    points := .ofSteps
      "10840 16 1 9" },
  { names := ["Inscriptional_Pahlavi", "Phli"]
    points := .ofSteps
      "10b60 13 5 8" },
  { names := ["Inscriptional_Parthian", "Prti"]
    points := .ofSteps
      "10b40 16 2 8" },
  { names := ["Javanese", "Java"]
    points := .ofSteps
      "a980 4e 2 a 4 2"
    shared := .ofSteps
      "a9cf 1" },
  { names := ["Kaithi", "Kthi"]
    points := .ofSteps
      "11080 43 a 1"
    shared := .ofSteps
      "966 a 24c1 1 79fe a" },
  { names := ["Kannada", "Knda"]
    points := .ofSteps
      "c80 d 1 3 1 17 1 a 1 5 2 9 1 3 1 4 7 2 6 2 1 4 2 a 1 3"
    shared := .ofSteps
      "951 2 11 2 136a 1 1 2 6 1 17 1 1 1 8b3b 6" },
  { names := ["Katakana", "Kana"]
    points := .ofSteps
      "30a1 5a 2 3 f0 10 d0 2f 1 58 cc0e a 1 2d b052 4 1 7 1 2 1 1 11f 3 32 1 e 4"
    shared := .ofSteps
      "305 1 1d 1 2cdd 3 4 a 1 d 10 6 1 1 4 2 5b 4 3 1 5a 2 cd48 2 11a 5 a 1 2d 2" },
  { names := ["Kawi"]
    points := .ofSteps
      "11f00 11 1 29 3 1d" },
  { names := ["Kayah_Li", "Kali"]
    points := .ofSteps
      "a900 2e 1 1"
    shared := .ofSteps
      "a92e 1" },
  { names := ["Kharoshthi", "Khar"]
    points := .ofSteps
      "10a00 4 1 2 5 8 1 3 1 1d 2 3 4 a 7 9" },
  { names := ["Khitan_Small_Script", "Kits"]
    points := .ofSteps
      "16fe4 1 1b1b 1d6 29 1" },
  { names := ["Khmer", "Khmr"]
    points := .ofSteps
      "1780 5e 2 a 6 a 1e6 20" },
  { names := ["Khojki", "Khoj"]
    points := .ofSteps
      "11200 12 1 2f"
    shared := .ofSteps
      "ae6 a 9d40 a" },
  { names := ["Khudawadi", "Sind"]
    points := .ofSteps
      "112b0 3b 5 a"
    shared := .ofSteps
      "964 2 9eca a" },
  { names := ["Kirat_Rai", "Krai"]
    points := .ofSteps
      "16d40 3a" },
  { names := ["Lao", "Laoo"]
    points := .ofSteps
      "e81 2 1 1 1 5 1 18 1 1 1 17 2 5 1 1 1 7 1 a 2 4" },
  { names := ["Latin", "Latn"]
    points := .ofSteps
      "41 1a 6 1a 2f 1 f 1 5 17 1 1f 1 1c1 27 5 1a1b 26 6 31 5 4 5 d 1 46 41 100 171 1 d 1 10 d
      8d 2 6 1 1b 1 11 29 ad7 20 7aa2 66 3 43 2 2 1 1 1 8 15 e 330 2b 1 9 1 4 4f96 7 41a 1a 6 1a
      825 6 1 2a 1 9 d745 1f 6 6"
    shared := .ofSteps
      "b7 1 204 1 a 1 1 3 1 1 9 1 1 1 26 f 1 2 1 1 c 1 2 3 7 2 1 2 26 1 5 1 4 d 115 2 4ca 2 7a8
      1 cfc 1 236 1 c0 1 d26 1 78e8 8 226 1" },
  { names := ["Lepcha", "Lepc"]
    points := .ofSteps
      "1c00 38 3 f 3 3" },
  { names := ["Limbu", "Limb"]
    points := .ofSteps
      "1900 1f 1 c 4 c 4 1 3 c"
    shared := .ofSteps
      "965 1" },
  { names := ["Linear_A", "Lina"]
    points := .ofSteps
      "10600 137 9 16 a 8"
    shared := .ofSteps
      "10107 2d" },
  { names := ["Linear_B", "Linb"]
    points := .ofSteps
      "10000 c 1 1a 1 13 1 2 1 f 2 e 22 7b"
    shared := .ofSteps
      "10100 3 4 2d 3 9" },
  { names := ["Lisu"]
    points := .ofSteps
      "a4d0 30 7ab0 1"
    shared := .ofSteps
      "2bc 1 10 1 2d3c 2" },
  { names := ["Lycian", "Lyci"]
    points := .ofSteps
      "10280 1d"
    shared := .ofSteps
      "205a 1" },
  { names := ["Lydian", "Lydi"]
    points := .ofSteps
      "10920 1a 5 1"
    shared := .ofSteps
      "b7 1 2d79 1" },
  { names := ["Mahajani", "Mahj"]
    points := .ofSteps
      "11150 27"
    shared := .ofSteps
      "b7 1 8ac c 9ec0 a" },
  { names := ["Makasar", "Maka"]
    points := .ofSteps
      "11ee0 19" },
  { names := ["Malayalam", "Mlym"]
    points := .ofSteps
      "d00 d 1 3 1 33 1 3 1 6 4 10 2 1a"
    shared := .ofSteps
      "951 2 11 2 1374 1 17 1 8b3d 3" },
  { names := ["Mandaic", "Mand"]
    points := .ofSteps
      "840 1c 2 1"
    shared := .ofSteps
      "640 1" },
  { names := ["Manichaean", "Mani"]
    points := .ofSteps
      "10ac0 27 4 c"
    shared := .ofSteps
      "640 1" },
  { names := ["Marchen", "Marc"]
    points := .ofSteps
      "11c70 20 2 16 1 e" },
  { names := ["Masaram_Gondi", "Gonm"]
    points := .ofSteps
      "11d00 7 1 2 1 2c 3 1 1 2 1 9 8 a"
    shared := .ofSteps
      "964 2" },
  { names := ["Medefaidrin", "Medf"]
    points := .ofSteps
      "16e40 5b" },
  { names := ["Meetei_Mayek", "Mtei"]
    points := .ofSteps
      "aae0 17 c9 2e 2 a" },
  { names := ["Mende_Kikakui", "Mend"]
    points := .ofSteps
      "1e800 c5 2 10" },
  { names := ["Meroitic_Cursive", "Merc"]
    points := .ofSteps
      "109a0 18 4 14 2 2e" },
  { names := ["Meroitic_Hieroglyphs", "Mero"]
    points := .ofSteps
      "10980 20"
    shared := .ofSteps
      "205d 1" },
  { names := ["Miao", "Plrd"]
    points := .ofSteps
      "16f00 4b 4 39 7 11" },
  { names := ["Modi"]
    points := .ofSteps
      "11600 45 b a"
    shared := .ofSteps
      "a830 a" },
  { names := ["Mongolian", "Mong"]
    points := .ofSteps
      "1800 2 2 1 1 14 6 59 7 2b fdb5 d"
    shared := .ofSteps
      "1802 2 1 1 829 1 fd1 2 5 4" },
  { names := ["Mro", "Mroo"]
    points := .ofSteps
      "16a40 1f 1 a 4 2" },
  { names := ["Multani", "Mult"]
    points := .ofSteps
      "11280 7 1 1 1 4 1 f 1 b"
    shared := .ofSteps
      "a66 a" },
  { names := ["Myanmar", "Mymr"]
    points := .ofSteps
      "1000 a0 9940 1f 61 20 6c50 14"
    shared := .ofSteps
      "a92e 1" },
  { names := ["Nabataean", "Nbat"]
    points := .ofSteps
      "10880 1f 8 9" },
  { names := ["Nag_Mundari", "Nagm"]
    points := .ofSteps
      "1e4d0 2a" },
  { names := ["Nandinagari", "Nand"]
    points := .ofSteps
      "119a0 8 2 2e 2 b"
    shared := .ofSteps
      "964 2 380 a ff9 1 8 1 7 1 8b35 6" },
  { names := ["New_Tai_Lue", "Talu"]
    points := .ofSteps
      "1980 2c 4 1a 6 b 3 2" },
  { names := ["Newa"]
    points := .ofSteps
      "11400 5c 1 5" },
  { names := ["Nko", "Nkoo"]
    points := .ofSteps
      "7c0 3b 2 3"
    shared := .ofSteps
      "60c 1 e 1 3 1 f71e 2" },
  { names := ["Nushu", "Nshu"]
    points := .ofSteps
      "16fe1 1 418e 18c" },
  { names := ["Nyiakeng_Puachue_Hmong", "Hmnp"]
    points := .ofSteps
      "1e100 2d 3 e 2 a 4 2" },
  { names := ["Ogham", "Ogam"]
    points := .ofSteps
      "1680 1d" },
  { names := ["Ol_Chiki", "Olck"]
    points := .ofSteps
      "1c50 30" },
  { names := ["Ol_Onal", "Onao"]
    points := .ofSteps
      "1e5d0 2b 4 1"
    shared := .ofSteps
      "964 2" },
  { names := ["Old_Hungarian", "Hung"]
    points := .ofSteps
      "10c80 33 d 33 7 6"
    shared := .ofSteps
      "205a 1 2 1 dd3 1 f 1" },
  { names := ["Old_Italic", "Ital"]
    points := .ofSteps
      "10300 24 9 3" },
  { names := ["Old_North_Arabian", "Narb"]
    points := .ofSteps
      "10a80 20" },
  { names := ["Old_Permic", "Perm"]
    points := .ofSteps
      "10350 2b"
    shared := .ofSteps
      "b7 1 248 1 5 3 a 1 16f 1" },
  { names := ["Old_Persian", "Xpeo"]
    points := .ofSteps
      "103a0 24 4 e" },
  { names := ["Old_Sogdian", "Sogo"]
    points := .ofSteps
      "10f00 28" },
  { names := ["Old_South_Arabian", "Sarb"]
    points := .ofSteps
      "10a60 20" },
  { names := ["Old_Turkic", "Orkh"]
    points := .ofSteps
      "10c00 49"
    shared := .ofSteps
      "205a 1 dd5 1" },
  { names := ["Old_Uyghur", "Ougr"]
    points := .ofSteps
      "10f70 1a"
    shared := .ofSteps
      "640 1 104b1 1" },
  { names := ["Oriya", "Orya"]
    points := .ofSteps
      "b01 3 1 8 2 2 2 16 1 7 1 2 1 5 2 9 2 2 2 3 7 3 4 2 1 5 2 12"
    shared := .ofSteps
      "951 2 11 2 1374 1 17 1" },
  { names := ["Osage", "Osge"]
    points := .ofSteps
      "104b0 24 4 24"
    shared := .ofSteps
      "301 1 2 1 6 1 4c 1" },
  { names := ["Osmanya", "Osma"]
    points := .ofSteps
      "10480 1e 2 a" },
  { names := ["Pahawh_Hmong", "Hmng"]
    points := .ofSteps
      "16b00 46 a a 1 7 1 15 5 13" },
  { names := ["Palmyrene", "Palm"]
    points := .ofSteps
      "10860 20" },
  { names := ["Pau_Cin_Hau", "Pauc"]
    points := .ofSteps
      "11ac0 39" },
  { names := ["Phags_Pa", "Phag"]
    points := .ofSteps
      "a840 38"
    shared := .ofSteps
      "1802 2 1 1 829 1 fd2 1" },
  { names := ["Phoenician", "Phnx"]
    points := .ofSteps
      "10900 1c 3 1" },
  { names := ["Psalter_Pahlavi", "Phlp"]
    points := .ofSteps
      "10b80 12 7 4 c 7"
    shared := .ofSteps
      "640 1" },
  { names := ["Rejang", "Rjng"]
    points := .ofSteps
      "a930 24 b 1" },
  { names := ["Runic", "Runr"]
    points := .ofSteps
      "16a0 4b 3 b"
    shared := .ofSteps
      "16eb 3" },
  { names := ["Samaritan", "Samr"]
    points := .ofSteps
      "800 2e 2 f"
    shared := .ofSteps
      "2e31 1" },
  { names := ["Saurashtra", "Saur"]
    points := .ofSteps
      "a880 46 8 c" },
  { names := ["Sharada", "Shrd"]
    points := .ofSteps
      "11180 60"
    shared := .ofSteps
      "951 1 1385 1 1 1 2 2 2 1 8b4f 6 2 1" },
  { names := ["Shavian", "Shaw"]
    points := .ofSteps
      "10450 30"
    shared := .ofSteps
      "b7 1" },
  { names := ["Siddham", "Sidd"]
    points := .ofSteps
      "11580 36 2 26" },
  { names := ["SignWriting", "Sgnw"]
    points := .ofSteps
      "1d800 28c f 5 1 f" },
  { names := ["Sinhala", "Sinh"]
    points := .ofSteps
      "d81 3 1 12 3 18 1 9 1 1 2 7 3 1 4 6 1 1 1 8 6 a 2 3 103ec 14"
    shared := .ofSteps
      "964 2 138c 1" },
  { names := ["Sogdian", "Sogd"]
    points := .ofSteps
      "10f30 2a"
    shared := .ofSteps
      "640 1" },
  { names := ["Sora_Sompeng", "Sora"]
    points := .ofSteps
      "110d0 19 7 a" },
  { names := ["Soyombo", "Soyo"]
    points := .ofSteps
      "11a50 53" },
  { names := ["Sundanese", "Sund"]
    points := .ofSteps
      "1b80 40 100 8" },
  { names := ["Sunuwar", "Sunu"]
    points := .ofSteps
      "11bc0 22 e a"
    shared := .ofSteps
      "300 2 1 1 9 1 2 1 1c 1 3 1" },
  { names := ["Syloti_Nagri", "Sylo"]
    points := .ofSteps
      "a800 2d"
    shared := .ofSteps
      "964 2 80 a" },
  { names := ["Syriac", "Syrc"]
    points := .ofSteps
      "700 e 1 3c 2 3 110 b"
    shared := .ofSteps
      "303 2 2 2 1 1 15 1 2 3 7 2 1 1 2db 1 e 2 2 1 20 1 a b 1a 1 1787 1 1 1" },
  { names := ["Tagalog", "Tglg"]
    points := .ofSteps
      "1700 16 9 1"
    shared := .ofSteps
      "1735 2" },
  { names := ["Tagbanwa", "Tagb"]
    points := .ofSteps
      "1760 d 1 3 1 2"
    shared := .ofSteps
      "1735 2" },
  { names := ["Tai_Le", "Tale"]
    points := .ofSteps
      "1950 1e 2 5"
    shared := .ofSteps
      "300 2 5 2 3 1 d33 a" },
  { names := ["Tai_Tham", "Lana"]
    points := .ofSteps
      "1a20 3f 1 1d 2 b 6 a 6 e" },
  { names := ["Tai_Viet", "Tavt"]
    points := .ofSteps
      "aa80 43 18 5" },
  { names := ["Takri", "Takr"]
    points := .ofSteps
      "11680 3a 6 a"
    shared := .ofSteps
      "964 2 9eca a" },
  { names := ["Tamil", "Taml"]
    points := .ofSteps
      "b82 2 1 6 3 3 1 4 3 2 1 1 1 2 3 2 3 3 3 c 4 5 3 3 1 4 2 1 6 1 e 15 113c5 32 d 1"
    shared := .ofSteps
      "951 2 11 2 1374 1 8c18 1 6a0d 1 1 1 37 2" },
  { names := ["Tangsa", "Tnsa"]
    points := .ofSteps
      "16a70 4f 1 a" },
  { names := ["Tangut", "Tang"]
    points := .ofSteps
      "16fe0 1 1f 17f8 8 300 200 9"
    shared := .ofSteps
      "2ff0 10 1ef 1" },
  { names := ["Telugu", "Telu"]
    points := .ofSteps
      "c00 d 1 3 1 17 1 10 2 9 1 3 1 4 7 2 1 3 2 1 2 4 2 a 7 9"
    shared := .ofSteps
      "951 2 11 2 1374 1 17 1" },
  { names := ["Thaana", "Thaa"]
    points := .ofSteps
      "780 32"
    shared := .ofSteps
      "60c 1 e 2 2 1 40 a f788 1 a 1" },
  { names := ["Thai"]
    points := .ofSteps
      "e01 3a 5 1c"
    shared := .ofSteps
      "2bc 1 1a 1 2b 1 2d 1" },
  { names := ["Tibetan", "Tibt"]
    points := .ofSteps
      "f00 48 1 24 4 27 1 24 1 f 1 7 4 2"
    shared := .ofSteps
      "3008 4" },
  { names := ["Tifinagh", "Tfng"]
    points := .ofSteps
      "2d30 38 7 2 e 1"
    shared := .ofSteps
      "302 1 1 1 2 1 1 1" },
  { names := ["Tirhuta", "Tirh"]
    points := .ofSteps
      "11480 48 8 a"
    shared := .ofSteps
      "951 2 11 2 138c 1 8b3d a" },
  { names := ["Todhri", "Todr"]
    points := .ofSteps
      "105c0 34"
    shared := .ofSteps
      "301 1 2 1 2 1 9 1 1 1 4a 1" },
  { names := ["Toto"]
    points := .ofSteps
      "1e290 1f"
    shared := .ofSteps
      "2bc 1" },
  { names := ["Tulu_Tigalari", "Tutg"]
    points := .ofSteps
      "11380 a 1 1 2 1 1 26 1 a 1 1 2 1 1 4 1 a 1 2 8 2"
    shared := .ofSteps
      "ce6 a 1002 1 1 1 8b3b 6 bb 1" },
  { names := ["Ugaritic", "Ugar"]
    points := .ofSteps
      "10380 1e 1 1" },
  { names := ["Vai", "Vaii"]
    points := .ofSteps
      "a500 12c" },
  { names := ["Vithkuqi", "Vith"]
    points := .ofSteps
      "10570 b 1 f 1 7 1 2 1 b 1 f 1 7 1 2" },
  { names := ["Wancho", "Wcho"]
    points := .ofSteps
      "1e2c0 3a 5 1" },
  { names := ["Warang_Citi", "Wara"]
    points := .ofSteps
      "118a0 53 c 1" },
  { names := ["Yezidi", "Yezi"]
    points := .ofSteps
      "10e80 2a 1 3 2 2"
    shared := .ofSteps
      "60c 1 e 1 3 1 40 a" },
  { names := ["Yi", "Yiii"]
    points := .ofSteps
      "a000 48d 3 37"
    shared := .ofSteps
      "3001 2 5 a 2 8 df 1 ce65 5" },
  { names := ["Zanabazar_Square", "Zanb"]
    points := .ofSteps
      "11a00 48" }]

/-- The characters that are not bound to a script. -/
def common : Script where
  names := ["Common", "Zyyy"]
  points := .ofSteps
    "0 41 1a 6 1a 2f 1 f 1 5 17 1 1f 1 1c1 27 5 5 2 14 74 1 9 1 6 1 1 1 27d 1 6 1 e 1 3 1 20 1
    9c 1 204 1 81 2 4d9 1 195 4 122 1 5ef 3 47 2 cb 2 1 1 4cd 1 d 1 7 4 1 6 1 3 2 1 305 c 2 57 1
    b 3 b 1 f 11 21 3f 26 1 3 2 6 1 1b 1 11 29 3 4 29a 16 b 15 3a0 100 274 2 20 1 69 200 5e 192
    15 1 1 1 19 f 8 4 4 5b 2 3 1 5a 2 93 10 20 26 9 1 30 40 1f 51 2f 1 58 a8 19c0 40 5900 22 66
    3 a5 a f4 1 a0 1 18b 1 e 2 51d2 2 d0 a 16 23 1 13 1 4 93 1 1 20 1a 6 1a b a 1 2d 2 40 7 1 7
    a 5 102 3 4 2d 3 9 50 d 33 2d e4 1b b9a4 4 f5c fa 6 1b4 9c 74 3c f6 a 27 2 3e 3 11 8 2 7 1e
    4 3d d5 14 c 14 c 57 9 19 87 55 1 47 1 2 2 1 2 2 2 4 1 c 1 1 1 7 1 41 1 4 2 8 1 7 1 1c 1 4 1
    5 1 1 3 7 1 154 2 124 2 32 1471 44 4c 3d 2c2 2c 4 64 c f 2 f 1 f 1 25 a ae 38 1a 1 2 d 2c 4
    9 7 2 e 6 9a 3d8 4 11 3 d 3 77 4 5f 6 c 4 1 f c 4 38 8 a 6 28 8 1e 2 c 4 2 3e 154 c e 2 d 3
    a 5 38 7 f 2 b 6 9 7 93 1 66 c0407 1 1e 60"

/-- The characters that take the script of the character before them. -/
def inherited : Script where
  names := ["Inherited", "Zinh", "Qaai"]
  points := .ofSteps
    "300 70 115 2 1c4 b 1a 1 2e0 4 115b 1f 201 3 1 d 1 7 4 1 6 1 3 2 c6 40 20c 2 c2 21 f39 4 6b
    2 cd65 10 10 e 3cf 1 e2 1 105a 1 bbc4 2e 2 17 220 3 11 8 2 7 1e 4 c2f52 f0"

/-- Every script. -/
def all : List Script :=
  common :: inherited :: ordinary

/-- The points that some script shares with others. -/
def allShared : CodePointSet :=
  .unionAll (ordinary.map (·.shared))

/-- The points a script is used with: its own ones and those it shares. What is listed with ordinary
    scripts counts no longer as common or inherited. -/
def extension (script : Script) : CodePointSet :=
  if script.names = common.names ∨ script.names = inherited.names then script.points \ allShared
  else script.points ∪ script.shared

end Script

end HttpRouter.Unicode
