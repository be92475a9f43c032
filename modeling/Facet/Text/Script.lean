import Facet.Text.Runs

namespace Facet.Text.Script

def runs : Runs String := .ofText id
    ["0Zyyy 41Latn 5bZyyy 61Latn 7bZyyy aaLatn abZyyy baLatn bbZyyy c0Latn d7Zyyy d8Latn f7Zyyy",
    "f8Latn 2b9Zyyy 2e0Latn 2e5Zyyy 2eaBopo 2ecZyyy 300Zinh 370Grek 374Zyyy 375Grek 378Zzzz",
    "37aGrek 37eZyyy 37fGrek 380Zzzz 384Grek 385Zyyy 386Grek 387Zyyy 388Grek 38bZzzz 38cGrek",
    "38dZzzz 38eGrek 3a2Zzzz 3a3Grek 3e2Copt 3f0Grek 400Cyrl 485Zinh 487Cyrl 530Zzzz 531Armn",
    "557Zzzz 559Armn 58bZzzz 58dArmn 590Zzzz 591Hebr 5c8Zzzz 5d0Hebr 5ebZzzz 5efHebr 5f5Zzzz",
    "600Arab 605Zyyy 606Arab 60cZyyy 60dArab 61bZyyy 61cArab 61fZyyy 620Arab 640Zyyy 641Arab",
    "64bZinh 656Arab 670Zinh 671Arab 6ddZyyy 6deArab 700Syrc 70eZzzz 70fSyrc 74bZzzz 74dSyrc",
    "750Arab 780Thaa 7b2Zzzz 7c0Nkoo 7fbZzzz 7fdNkoo 800Samr 82eZzzz 830Samr 83fZzzz 840Mand",
    "85cZzzz 85eMand 85fZzzz 860Syrc 86bZzzz 870Arab 892Zzzz 897Arab 8e2Zyyy 8e3Arab 900Deva",
    "951Zinh 955Deva 964Zyyy 966Deva 980Beng 984Zzzz 985Beng 98dZzzz 98fBeng 991Zzzz 993Beng",
    "9a9Zzzz 9aaBeng 9b1Zzzz 9b2Beng 9b3Zzzz 9b6Beng 9baZzzz 9bcBeng 9c5Zzzz 9c7Beng 9c9Zzzz",
    "9cbBeng 9cfZzzz 9d7Beng 9d8Zzzz 9dcBeng 9deZzzz 9dfBeng 9e4Zzzz 9e6Beng 9ffZzzz a01Guru",
    "a04Zzzz a05Guru a0bZzzz a0fGuru a11Zzzz a13Guru a29Zzzz a2aGuru a31Zzzz a32Guru a34Zzzz",
    "a35Guru a37Zzzz a38Guru a3aZzzz a3cGuru a3dZzzz a3eGuru a43Zzzz a47Guru a49Zzzz a4bGuru",
    "a4eZzzz a51Guru a52Zzzz a59Guru a5dZzzz a5eGuru a5fZzzz a66Guru a77Zzzz a81Gujr a84Zzzz",
    "a85Gujr a8eZzzz a8fGujr a92Zzzz a93Gujr aa9Zzzz aaaGujr ab1Zzzz ab2Gujr ab4Zzzz ab5Gujr",
    "abaZzzz abcGujr ac6Zzzz ac7Gujr acaZzzz acbGujr aceZzzz ad0Gujr ad1Zzzz ae0Gujr ae4Zzzz",
    "ae6Gujr af2Zzzz af9Gujr b00Zzzz b01Orya b04Zzzz b05Orya b0dZzzz b0fOrya b11Zzzz b13Orya",
    "b29Zzzz b2aOrya b31Zzzz b32Orya b34Zzzz b35Orya b3aZzzz b3cOrya b45Zzzz b47Orya b49Zzzz",
    "b4bOrya b4eZzzz b55Orya b58Zzzz b5cOrya b5eZzzz b5fOrya b64Zzzz b66Orya b78Zzzz b82Taml",
    "b84Zzzz b85Taml b8bZzzz b8eTaml b91Zzzz b92Taml b96Zzzz b99Taml b9bZzzz b9cTaml b9dZzzz",
    "b9eTaml ba0Zzzz ba3Taml ba5Zzzz ba8Taml babZzzz baeTaml bbaZzzz bbeTaml bc3Zzzz bc6Taml",
    "bc9Zzzz bcaTaml bceZzzz bd0Taml bd1Zzzz bd7Taml bd8Zzzz be6Taml bfbZzzz c00Telu c0dZzzz",
    "c0eTelu c11Zzzz c12Telu c29Zzzz c2aTelu c3aZzzz c3cTelu c45Zzzz c46Telu c49Zzzz c4aTelu",
    "c4eZzzz c55Telu c57Zzzz c58Telu c5bZzzz c5cTelu c5eZzzz c60Telu c64Zzzz c66Telu c70Zzzz",
    "c77Telu c80Knda c8dZzzz c8eKnda c91Zzzz c92Knda ca9Zzzz caaKnda cb4Zzzz cb5Knda cbaZzzz",
    "cbcKnda cc5Zzzz cc6Knda cc9Zzzz ccaKnda cceZzzz cd5Knda cd7Zzzz cdcKnda cdfZzzz ce0Knda",
    "ce4Zzzz ce6Knda cf0Zzzz cf1Knda cf4Zzzz d00Mlym d0dZzzz d0eMlym d11Zzzz d12Mlym d45Zzzz",
    "d46Mlym d49Zzzz d4aMlym d50Zzzz d54Mlym d64Zzzz d66Mlym d80Zzzz d81Sinh d84Zzzz d85Sinh",
    "d97Zzzz d9aSinh db2Zzzz db3Sinh dbcZzzz dbdSinh dbeZzzz dc0Sinh dc7Zzzz dcaSinh dcbZzzz",
    "dcfSinh dd5Zzzz dd6Sinh dd7Zzzz dd8Sinh de0Zzzz de6Sinh df0Zzzz df2Sinh df5Zzzz e01Thai",
    "e3bZzzz e3fZyyy e40Thai e5cZzzz e81Laoo e83Zzzz e84Laoo e85Zzzz e86Laoo e8bZzzz e8cLaoo",
    "ea4Zzzz ea5Laoo ea6Zzzz ea7Laoo ebeZzzz ec0Laoo ec5Zzzz ec6Laoo ec7Zzzz ec8Laoo ecfZzzz",
    "ed0Laoo edaZzzz edcLaoo ee0Zzzz f00Tibt f48Zzzz f49Tibt f6dZzzz f71Tibt f98Zzzz f99Tibt",
    "fbdZzzz fbeTibt fcdZzzz fceTibt fd5Zyyy fd9Tibt fdbZzzz 1000Mymr 10a0Geor 10c6Zzzz",
    "10c7Geor 10c8Zzzz 10cdGeor 10ceZzzz 10d0Geor 10fbZyyy 10fcGeor 1100Hang 1200Ethi 1249Zzzz",
    "124aEthi 124eZzzz 1250Ethi 1257Zzzz 1258Ethi 1259Zzzz 125aEthi 125eZzzz 1260Ethi 1289Zzzz",
    "128aEthi 128eZzzz 1290Ethi 12b1Zzzz 12b2Ethi 12b6Zzzz 12b8Ethi 12bfZzzz 12c0Ethi 12c1Zzzz",
    "12c2Ethi 12c6Zzzz 12c8Ethi 12d7Zzzz 12d8Ethi 1311Zzzz 1312Ethi 1316Zzzz 1318Ethi 135bZzzz",
    "135dEthi 137dZzzz 1380Ethi 139aZzzz 13a0Cher 13f6Zzzz 13f8Cher 13feZzzz 1400Cans 1680Ogam",
    "169dZzzz 16a0Runr 16ebZyyy 16eeRunr 16f9Zzzz 1700Tglg 1716Zzzz 171fTglg 1720Hano 1735Zyyy",
    "1737Zzzz 1740Buhd 1754Zzzz 1760Tagb 176dZzzz 176eTagb 1771Zzzz 1772Tagb 1774Zzzz 1780Khmr",
    "17deZzzz 17e0Khmr 17eaZzzz 17f0Khmr 17faZzzz 1800Mong 1802Zyyy 1804Mong 1805Zyyy 1806Mong",
    "181aZzzz 1820Mong 1879Zzzz 1880Mong 18abZzzz 18b0Cans 18f6Zzzz 1900Limb 191fZzzz 1920Limb",
    "192cZzzz 1930Limb 193cZzzz 1940Limb 1941Zzzz 1944Limb 1950Tale 196eZzzz 1970Tale 1975Zzzz",
    "1980Talu 19acZzzz 19b0Talu 19caZzzz 19d0Talu 19dbZzzz 19deTalu 19e0Khmr 1a00Bugi 1a1cZzzz",
    "1a1eBugi 1a20Lana 1a5fZzzz 1a60Lana 1a7dZzzz 1a7fLana 1a8aZzzz 1a90Lana 1a9aZzzz 1aa0Lana",
    "1aaeZzzz 1ab0Zinh 1adeZzzz 1ae0Zinh 1aecZzzz 1b00Bali 1b4dZzzz 1b4eBali 1b80Sund 1bc0Batk",
    "1bf4Zzzz 1bfcBatk 1c00Lepc 1c38Zzzz 1c3bLepc 1c4aZzzz 1c4dLepc 1c50Olck 1c80Cyrl 1c8bZzzz",
    "1c90Geor 1cbbZzzz 1cbdGeor 1cc0Sund 1cc8Zzzz 1cd0Zinh 1cd3Zyyy 1cd4Zinh 1ce1Zyyy 1ce2Zinh",
    "1ce9Zyyy 1cedZinh 1ceeZyyy 1cf4Zinh 1cf5Zyyy 1cf8Zinh 1cfaZyyy 1cfbZzzz 1d00Latn 1d26Grek",
    "1d2bCyrl 1d2cLatn 1d5dGrek 1d62Latn 1d66Grek 1d6bLatn 1d78Cyrl 1d79Latn 1dbfGrek 1dc0Zinh",
    "1e00Latn 1f00Grek 1f16Zzzz 1f18Grek 1f1eZzzz 1f20Grek 1f46Zzzz 1f48Grek 1f4eZzzz 1f50Grek",
    "1f58Zzzz 1f59Grek 1f5aZzzz 1f5bGrek 1f5cZzzz 1f5dGrek 1f5eZzzz 1f5fGrek 1f7eZzzz 1f80Grek",
    "1fb5Zzzz 1fb6Grek 1fc5Zzzz 1fc6Grek 1fd4Zzzz 1fd6Grek 1fdcZzzz 1fddGrek 1ff0Zzzz 1ff2Grek",
    "1ff5Zzzz 1ff6Grek 1fffZzzz 2000Zyyy 200cZinh 200eZyyy 2065Zzzz 2066Zyyy 2071Latn 2072Zzzz",
    "2074Zyyy 207fLatn 2080Zyyy 208fZzzz 2090Latn 209dZzzz 20a0Zyyy 20c2Zzzz 20d0Zinh 20f1Zzzz",
    "2100Zyyy 2126Grek 2127Zyyy 212aLatn 212cZyyy 2132Latn 2133Zyyy 214eLatn 214fZyyy 2160Latn",
    "2189Zyyy 218cZzzz 2190Zyyy 242aZzzz 2440Zyyy 244bZzzz 2460Zyyy 2800Brai 2900Zyyy 2b74Zzzz",
    "2b76Zyyy 2c00Glag 2c60Latn 2c80Copt 2cf4Zzzz 2cf9Copt 2d00Geor 2d26Zzzz 2d27Geor 2d28Zzzz",
    "2d2dGeor 2d2eZzzz 2d30Tfng 2d68Zzzz 2d6fTfng 2d71Zzzz 2d7fTfng 2d80Ethi 2d97Zzzz 2da0Ethi",
    "2da7Zzzz 2da8Ethi 2dafZzzz 2db0Ethi 2db7Zzzz 2db8Ethi 2dbfZzzz 2dc0Ethi 2dc7Zzzz 2dc8Ethi",
    "2dcfZzzz 2dd0Ethi 2dd7Zzzz 2dd8Ethi 2ddfZzzz 2de0Cyrl 2e00Zyyy 2e5eZzzz 2e80Hani 2e9aZzzz",
    "2e9bHani 2ef4Zzzz 2f00Hani 2fd6Zzzz 2ff0Zyyy 3005Hani 3006Zyyy 3007Hani 3008Zyyy 3021Hani",
    "302aZinh 302eHang 3030Zyyy 3038Hani 303cZyyy 3040Zzzz 3041Hira 3097Zzzz 3099Zinh 309bZyyy",
    "309dHira 30a0Zyyy 30a1Kana 30fbZyyy 30fdKana 3100Zzzz 3105Bopo 3130Zzzz 3131Hang 318fZzzz",
    "3190Zyyy 31a0Bopo 31c0Zyyy 31e6Zzzz 31efZyyy 31f0Kana 3200Hang 321fZzzz 3220Zyyy 3260Hang",
    "327fZyyy 32d0Kana 32ffZyyy 3300Kana 3358Zyyy 3400Hani 4dc0Zyyy 4e00Hani a000Yiii a48dZzzz",
    "a490Yiii a4c7Zzzz a4d0Lisu a500Vaii a62cZzzz a640Cyrl a6a0Bamu a6f8Zzzz a700Zyyy a722Latn",
    "a788Zyyy a78bLatn a7ddZzzz a7f1Latn a800Sylo a82dZzzz a830Zyyy a83aZzzz a840Phag a878Zzzz",
    "a880Saur a8c6Zzzz a8ceSaur a8daZzzz a8e0Deva a900Kali a92eZyyy a92fKali a930Rjng a954Zzzz",
    "a95fRjng a960Hang a97dZzzz a980Java a9ceZzzz a9cfZyyy a9d0Java a9daZzzz a9deJava a9e0Mymr",
    "a9ffZzzz aa00Cham aa37Zzzz aa40Cham aa4eZzzz aa50Cham aa5aZzzz aa5cCham aa60Mymr aa80Tavt",
    "aac3Zzzz aadbTavt aae0Mtei aaf7Zzzz ab01Ethi ab07Zzzz ab09Ethi ab0fZzzz ab11Ethi ab17Zzzz",
    "ab20Ethi ab27Zzzz ab28Ethi ab2fZzzz ab30Latn ab5bZyyy ab5cLatn ab65Grek ab66Latn ab6aZyyy",
    "ab6cZzzz ab70Cher abc0Mtei abeeZzzz abf0Mtei abfaZzzz ac00Hang d7a4Zzzz d7b0Hang d7c7Zzzz",
    "d7cbHang d7fcZzzz f900Hani fa6eZzzz fa70Hani fadaZzzz fb00Latn fb07Zzzz fb13Armn fb18Zzzz",
    "fb1dHebr fb37Zzzz fb38Hebr fb3dZzzz fb3eHebr fb3fZzzz fb40Hebr fb42Zzzz fb43Hebr fb45Zzzz",
    "fb46Hebr fb50Arab fd3eZyyy fd40Arab fdd0Zzzz fdf0Arab fe00Zinh fe10Zyyy fe1aZzzz fe20Zinh",
    "fe2eCyrl fe30Zyyy fe53Zzzz fe54Zyyy fe67Zzzz fe68Zyyy fe6cZzzz fe70Arab fe75Zzzz fe76Arab",
    "fefdZzzz feffZyyy ff00Zzzz ff01Zyyy ff21Latn ff3bZyyy ff41Latn ff5bZyyy ff66Kana ff70Zyyy",
    "ff71Kana ff9eZyyy ffa0Hang ffbfZzzz ffc2Hang ffc8Zzzz ffcaHang ffd0Zzzz ffd2Hang ffd8Zzzz",
    "ffdaHang ffddZzzz ffe0Zyyy ffe7Zzzz ffe8Zyyy ffefZzzz fff9Zyyy fffeZzzz 10000Linb",
    "1000cZzzz 1000dLinb 10027Zzzz 10028Linb 1003bZzzz 1003cLinb 1003eZzzz 1003fLinb 1004eZzzz",
    "10050Linb 1005eZzzz 10080Linb 100fbZzzz 10100Zyyy 10103Zzzz 10107Zyyy 10134Zzzz 10137Zyyy",
    "10140Grek 1018fZzzz 10190Zyyy 1019dZzzz 101a0Grek 101a1Zzzz 101d0Zyyy 101fdZinh 101feZzzz",
    "10280Lyci 1029dZzzz 102a0Cari 102d1Zzzz 102e0Zinh 102e1Zyyy 102fcZzzz 10300Ital 10324Zzzz",
    "1032dItal 10330Goth 1034bZzzz 10350Perm 1037bZzzz 10380Ugar 1039eZzzz 1039fUgar 103a0Xpeo",
    "103c4Zzzz 103c8Xpeo 103d6Zzzz 10400Dsrt 10450Shaw 10480Osma 1049eZzzz 104a0Osma 104aaZzzz",
    "104b0Osge 104d4Zzzz 104d8Osge 104fcZzzz 10500Elba 10528Zzzz 10530Aghb 10564Zzzz 1056fAghb",
    "10570Vith 1057bZzzz 1057cVith 1058bZzzz 1058cVith 10593Zzzz 10594Vith 10596Zzzz 10597Vith",
    "105a2Zzzz 105a3Vith 105b2Zzzz 105b3Vith 105baZzzz 105bbVith 105bdZzzz 105c0Todr 105f4Zzzz",
    "10600Lina 10737Zzzz 10740Lina 10756Zzzz 10760Lina 10768Zzzz 10780Latn 10786Zzzz 10787Latn",
    "107b1Zzzz 107b2Latn 107bbZzzz 10800Cprt 10806Zzzz 10808Cprt 10809Zzzz 1080aCprt 10836Zzzz",
    "10837Cprt 10839Zzzz 1083cCprt 1083dZzzz 1083fCprt 10840Armi 10856Zzzz 10857Armi 10860Palm",
    "10880Nbat 1089fZzzz 108a7Nbat 108b0Zzzz 108e0Hatr 108f3Zzzz 108f4Hatr 108f6Zzzz 108fbHatr",
    "10900Phnx 1091cZzzz 1091fPhnx 10920Lydi 1093aZzzz 1093fLydi 10940Sidt 1095aZzzz 10980Mero",
    "109a0Merc 109b8Zzzz 109bcMerc 109d0Zzzz 109d2Merc 10a00Khar 10a04Zzzz 10a05Khar 10a07Zzzz",
    "10a0cKhar 10a14Zzzz 10a15Khar 10a18Zzzz 10a19Khar 10a36Zzzz 10a38Khar 10a3bZzzz 10a3fKhar",
    "10a49Zzzz 10a50Khar 10a59Zzzz 10a60Sarb 10a80Narb 10aa0Zzzz 10ac0Mani 10ae7Zzzz 10aebMani",
    "10af7Zzzz 10b00Avst 10b36Zzzz 10b39Avst 10b40Prti 10b56Zzzz 10b58Prti 10b60Phli 10b73Zzzz",
    "10b78Phli 10b80Phlp 10b92Zzzz 10b99Phlp 10b9dZzzz 10ba9Phlp 10bb0Zzzz 10c00Orkh 10c49Zzzz",
    "10c80Hung 10cb3Zzzz 10cc0Hung 10cf3Zzzz 10cfaHung 10d00Rohg 10d28Zzzz 10d30Rohg 10d3aZzzz",
    "10d40Gara 10d66Zzzz 10d69Gara 10d86Zzzz 10d8eGara 10d90Zzzz 10e60Arab 10e7fZzzz 10e80Yezi",
    "10eaaZzzz 10eabYezi 10eaeZzzz 10eb0Yezi 10eb2Zzzz 10ec2Arab 10ec8Zzzz 10ed0Arab 10ed9Zzzz",
    "10efaArab 10f00Sogo 10f28Zzzz 10f30Sogd 10f5aZzzz 10f70Ougr 10f8aZzzz 10fb0Chrs 10fccZzzz",
    "10fe0Elym 10ff7Zzzz 11000Brah 1104eZzzz 11052Brah 11076Zzzz 1107fBrah 11080Kthi 110c3Zzzz",
    "110cdKthi 110ceZzzz 110d0Sora 110e9Zzzz 110f0Sora 110faZzzz 11100Cakm 11135Zzzz 11136Cakm",
    "11148Zzzz 11150Mahj 11177Zzzz 11180Shrd 111e0Zzzz 111e1Sinh 111f5Zzzz 11200Khoj 11212Zzzz",
    "11213Khoj 11242Zzzz 11280Mult 11287Zzzz 11288Mult 11289Zzzz 1128aMult 1128eZzzz 1128fMult",
    "1129eZzzz 1129fMult 112aaZzzz 112b0Sind 112ebZzzz 112f0Sind 112faZzzz 11300Gran 11304Zzzz",
    "11305Gran 1130dZzzz 1130fGran 11311Zzzz 11313Gran 11329Zzzz 1132aGran 11331Zzzz 11332Gran",
    "11334Zzzz 11335Gran 1133aZzzz 1133bZinh 1133cGran 11345Zzzz 11347Gran 11349Zzzz 1134bGran",
    "1134eZzzz 11350Gran 11351Zzzz 11357Gran 11358Zzzz 1135dGran 11364Zzzz 11366Gran 1136dZzzz",
    "11370Gran 11375Zzzz 11380Tutg 1138aZzzz 1138bTutg 1138cZzzz 1138eTutg 1138fZzzz 11390Tutg",
    "113b6Zzzz 113b7Tutg 113c1Zzzz 113c2Tutg 113c3Zzzz 113c5Tutg 113c6Zzzz 113c7Tutg 113cbZzzz",
    "113ccTutg 113d6Zzzz 113d7Tutg 113d9Zzzz 113e1Tutg 113e3Zzzz 11400Newa 1145cZzzz 1145dNewa",
    "11462Zzzz 11480Tirh 114c8Zzzz 114d0Tirh 114daZzzz 11580Sidd 115b6Zzzz 115b8Sidd 115deZzzz",
    "11600Modi 11645Zzzz 11650Modi 1165aZzzz 11660Mong 1166dZzzz 11680Takr 116baZzzz 116c0Takr",
    "116caZzzz 116d0Mymr 116e4Zzzz 11700Ahom 1171bZzzz 1171dAhom 1172cZzzz 11730Ahom 11747Zzzz",
    "11800Dogr 1183cZzzz 118a0Wara 118f3Zzzz 118ffWara 11900Diak 11907Zzzz 11909Diak 1190aZzzz",
    "1190cDiak 11914Zzzz 11915Diak 11917Zzzz 11918Diak 11936Zzzz 11937Diak 11939Zzzz 1193bDiak",
    "11947Zzzz 11950Diak 1195aZzzz 119a0Nand 119a8Zzzz 119aaNand 119d8Zzzz 119daNand 119e5Zzzz",
    "11a00Zanb 11a48Zzzz 11a50Soyo 11aa3Zzzz 11ab0Cans 11ac0Pauc 11af9Zzzz 11b00Deva 11b0aZzzz",
    "11b60Shrd 11b68Zzzz 11bc0Sunu 11be2Zzzz 11bf0Sunu 11bfaZzzz 11c00Bhks 11c09Zzzz 11c0aBhks",
    "11c37Zzzz 11c38Bhks 11c46Zzzz 11c50Bhks 11c6dZzzz 11c70Marc 11c90Zzzz 11c92Marc 11ca8Zzzz",
    "11ca9Marc 11cb7Zzzz 11d00Gonm 11d07Zzzz 11d08Gonm 11d0aZzzz 11d0bGonm 11d37Zzzz 11d3aGonm",
    "11d3bZzzz 11d3cGonm 11d3eZzzz 11d3fGonm 11d48Zzzz 11d50Gonm 11d5aZzzz 11d60Gong 11d66Zzzz",
    "11d67Gong 11d69Zzzz 11d6aGong 11d8fZzzz 11d90Gong 11d92Zzzz 11d93Gong 11d99Zzzz 11da0Gong",
    "11daaZzzz 11db0Tols 11ddcZzzz 11de0Tols 11deaZzzz 11ee0Maka 11ef9Zzzz 11f00Kawi 11f11Zzzz",
    "11f12Kawi 11f3bZzzz 11f3eKawi 11f5bZzzz 11fb0Lisu 11fb1Zzzz 11fc0Taml 11ff2Zzzz 11fffTaml",
    "12000Xsux 1239aZzzz 12400Xsux 1246fZzzz 12470Xsux 12475Zzzz 12480Xsux 12544Zzzz 12f90Cpmn",
    "12ff3Zzzz 13000Egyp 13456Zzzz 13460Egyp 143fbZzzz 14400Hluw 14647Zzzz 16100Gukh 1613aZzzz",
    "16800Bamu 16a39Zzzz 16a40Mroo 16a5fZzzz 16a60Mroo 16a6aZzzz 16a6eMroo 16a70Tnsa 16abfZzzz",
    "16ac0Tnsa 16acaZzzz 16ad0Bass 16aeeZzzz 16af0Bass 16af6Zzzz 16b00Hmng 16b46Zzzz 16b50Hmng",
    "16b5aZzzz 16b5bHmng 16b62Zzzz 16b63Hmng 16b78Zzzz 16b7dHmng 16b90Zzzz 16d40Krai 16d7aZzzz",
    "16e40Medf 16e9bZzzz 16ea0Berf 16eb9Zzzz 16ebbBerf 16ed4Zzzz 16f00Plrd 16f4bZzzz 16f4fPlrd",
    "16f88Zzzz 16f8fPlrd 16fa0Zzzz 16fe0Tang 16fe1Nshu 16fe2Hani 16fe4Kits 16fe5Zzzz 16ff0Hani",
    "16ff7Zzzz 17000Tang 18b00Kits 18cd6Zzzz 18cffKits 18d00Tang 18d1fZzzz 18d80Tang 18df3Zzzz",
    "1aff0Kana 1aff4Zzzz 1aff5Kana 1affcZzzz 1affdKana 1afffZzzz 1b000Kana 1b001Hira 1b120Kana",
    "1b123Zzzz 1b132Hira 1b133Zzzz 1b150Hira 1b153Zzzz 1b155Kana 1b156Zzzz 1b164Kana 1b168Zzzz",
    "1b170Nshu 1b2fcZzzz 1bc00Dupl 1bc6bZzzz 1bc70Dupl 1bc7dZzzz 1bc80Dupl 1bc89Zzzz 1bc90Dupl",
    "1bc9aZzzz 1bc9cDupl 1bca0Zyyy 1bca4Zzzz 1cc00Zyyy 1ccfdZzzz 1cd00Zyyy 1ceb4Zzzz 1cebaZyyy",
    "1ced1Zzzz 1cee0Zyyy 1cef1Zzzz 1cf00Zinh 1cf2eZzzz 1cf30Zinh 1cf47Zzzz 1cf50Zyyy 1cfc4Zzzz",
    "1d000Zyyy 1d0f6Zzzz 1d100Zyyy 1d127Zzzz 1d129Zyyy 1d167Zinh 1d16aZyyy 1d17bZinh 1d183Zyyy",
    "1d185Zinh 1d18cZyyy 1d1aaZinh 1d1aeZyyy 1d1ebZzzz 1d200Grek 1d246Zzzz 1d2c0Zyyy 1d2d4Zzzz",
    "1d2e0Zyyy 1d2f4Zzzz 1d300Zyyy 1d357Zzzz 1d360Zyyy 1d379Zzzz 1d400Zyyy 1d455Zzzz 1d456Zyyy",
    "1d49dZzzz 1d49eZyyy 1d4a0Zzzz 1d4a2Zyyy 1d4a3Zzzz 1d4a5Zyyy 1d4a7Zzzz 1d4a9Zyyy 1d4adZzzz",
    "1d4aeZyyy 1d4baZzzz 1d4bbZyyy 1d4bcZzzz 1d4bdZyyy 1d4c4Zzzz 1d4c5Zyyy 1d506Zzzz 1d507Zyyy",
    "1d50bZzzz 1d50dZyyy 1d515Zzzz 1d516Zyyy 1d51dZzzz 1d51eZyyy 1d53aZzzz 1d53bZyyy 1d53fZzzz",
    "1d540Zyyy 1d545Zzzz 1d546Zyyy 1d547Zzzz 1d54aZyyy 1d551Zzzz 1d552Zyyy 1d6a6Zzzz 1d6a8Zyyy",
    "1d7ccZzzz 1d7ceZyyy 1d800Sgnw 1da8cZzzz 1da9bSgnw 1daa0Zzzz 1daa1Sgnw 1dab0Zzzz 1df00Latn",
    "1df1fZzzz 1df25Latn 1df2bZzzz 1e000Glag 1e007Zzzz 1e008Glag 1e019Zzzz 1e01bGlag 1e022Zzzz",
    "1e023Glag 1e025Zzzz 1e026Glag 1e02bZzzz 1e030Cyrl 1e06eZzzz 1e08fCyrl 1e090Zzzz 1e100Hmnp",
    "1e12dZzzz 1e130Hmnp 1e13eZzzz 1e140Hmnp 1e14aZzzz 1e14eHmnp 1e150Zzzz 1e290Toto 1e2afZzzz",
    "1e2c0Wcho 1e2faZzzz 1e2ffWcho 1e300Zzzz 1e4d0Nagm 1e4faZzzz 1e5d0Onao 1e5fbZzzz 1e5ffOnao",
    "1e600Zzzz 1e6c0Tayo 1e6dfZzzz 1e6e0Tayo 1e6f6Zzzz 1e6feTayo 1e700Zzzz 1e7e0Ethi 1e7e7Zzzz",
    "1e7e8Ethi 1e7ecZzzz 1e7edEthi 1e7efZzzz 1e7f0Ethi 1e7ffZzzz 1e800Mend 1e8c5Zzzz 1e8c7Mend",
    "1e8d7Zzzz 1e900Adlm 1e94cZzzz 1e950Adlm 1e95aZzzz 1e95eAdlm 1e960Zzzz 1ec71Zyyy 1ecb5Zzzz",
    "1ed01Zyyy 1ed3eZzzz 1ee00Arab 1ee04Zzzz 1ee05Arab 1ee20Zzzz 1ee21Arab 1ee23Zzzz 1ee24Arab",
    "1ee25Zzzz 1ee27Arab 1ee28Zzzz 1ee29Arab 1ee33Zzzz 1ee34Arab 1ee38Zzzz 1ee39Arab 1ee3aZzzz",
    "1ee3bArab 1ee3cZzzz 1ee42Arab 1ee43Zzzz 1ee47Arab 1ee48Zzzz 1ee49Arab 1ee4aZzzz 1ee4bArab",
    "1ee4cZzzz 1ee4dArab 1ee50Zzzz 1ee51Arab 1ee53Zzzz 1ee54Arab 1ee55Zzzz 1ee57Arab 1ee58Zzzz",
    "1ee59Arab 1ee5aZzzz 1ee5bArab 1ee5cZzzz 1ee5dArab 1ee5eZzzz 1ee5fArab 1ee60Zzzz 1ee61Arab",
    "1ee63Zzzz 1ee64Arab 1ee65Zzzz 1ee67Arab 1ee6bZzzz 1ee6cArab 1ee73Zzzz 1ee74Arab 1ee78Zzzz",
    "1ee79Arab 1ee7dZzzz 1ee7eArab 1ee7fZzzz 1ee80Arab 1ee8aZzzz 1ee8bArab 1ee9cZzzz 1eea1Arab",
    "1eea4Zzzz 1eea5Arab 1eeaaZzzz 1eeabArab 1eebcZzzz 1eef0Arab 1eef2Zzzz 1f000Zyyy 1f02cZzzz",
    "1f030Zyyy 1f094Zzzz 1f0a0Zyyy 1f0afZzzz 1f0b1Zyyy 1f0c0Zzzz 1f0c1Zyyy 1f0d0Zzzz 1f0d1Zyyy",
    "1f0f6Zzzz 1f100Zyyy 1f1aeZzzz 1f1e6Zyyy 1f200Hira 1f201Zyyy 1f203Zzzz 1f210Zyyy 1f23cZzzz",
    "1f240Zyyy 1f249Zzzz 1f250Zyyy 1f252Zzzz 1f260Zyyy 1f266Zzzz 1f300Zyyy 1f6d9Zzzz 1f6dcZyyy",
    "1f6edZzzz 1f6f0Zyyy 1f6fdZzzz 1f700Zyyy 1f7daZzzz 1f7e0Zyyy 1f7ecZzzz 1f7f0Zyyy 1f7f1Zzzz",
    "1f800Zyyy 1f80cZzzz 1f810Zyyy 1f848Zzzz 1f850Zyyy 1f85aZzzz 1f860Zyyy 1f888Zzzz 1f890Zyyy",
    "1f8aeZzzz 1f8b0Zyyy 1f8bcZzzz 1f8c0Zyyy 1f8c2Zzzz 1f8d0Zyyy 1f8d9Zzzz 1f900Zyyy 1fa58Zzzz",
    "1fa60Zyyy 1fa6eZzzz 1fa70Zyyy 1fa7dZzzz 1fa80Zyyy 1fa8bZzzz 1fa8eZyyy 1fac7Zzzz 1fac8Zyyy",
    "1fac9Zzzz 1facdZyyy 1faddZzzz 1fadfZyyy 1faebZzzz 1faefZyyy 1faf9Zzzz 1fb00Zyyy 1fb93Zzzz",
    "1fb94Zyyy 1fbfbZzzz 20000Hani 2a6e0Zzzz 2a700Hani 2b81eZzzz 2b820Hani 2ceaeZzzz 2ceb0Hani",
    "2ebe1Zzzz 2ebf0Hani 2ee5eZzzz 2f800Hani 2fa1eZzzz 30000Hani 3134bZzzz 31350Hani 3347aZzzz",
    "e0001Zyyy e0002Zzzz e0020Zyyy e0080Zzzz e0100Zinh e01f0Zzzz"]

/-- The codes of all scripts that a character is used with, one behind the other, where these are not
just its own script; otherwise the code of the unknown script. -/
def extensionRuns : Runs String := .ofText id
    ["0Zzzz b7AvstCariCoptDuplElbaGeorGlagGongGothGrekHaniLatnLydiMahjPermShaw b8Zzzz",
    "2bcBengCyrlDevaLatnLisuThaiToto 2bdZzzz 2c7BopoLatn 2c8Zzzz 2c9BopoLatn 2ccZzzz",
    "2cdLatnLisu 2ceZzzz 2d7LatnThai 2d8Zzzz 2d9BopoLatn 2daZzzz",
    "300CherCoptCyrlGrekLatnPermSunuTale 301CherCyrlGrekLatnOsgeSunuTaleTodr",
    "302CherCyrlLatnTfng 303GlagLatnSunuSyrcThai",
    "304AghbCherCoptCyrlGothGrekLatnOsgeSyrcTfngTodr 305CoptElbaGlagGothKanaLatn",
    "306CyrlGrekLatnPermTfng 307CoptDuplHebrLatnPermSyrcTaleTfngTodr",
    "308ArmnCyrlDuplGothGrekHebrLatnPermSyrcTaleTfng 309LatnTfng 30aDuplLatnSyrc",
    "30bCherCyrlLatnOsge 30cCherLatnTale 30dLatnSunu 30eEthiLatn 30fZzzz 310LatnSunu",
    "311CyrlLatnTodr 312Zzzz 313GrekLatnPermTodr 314Zzzz 323CherDuplKanaLatnSyrcTfng",
    "324CherDuplLatnSyrc 325LatnSyrc 326Zzzz 32dLatnSunuSyrc 32eLatnSyrc 32fZzzz",
    "330CherLatnSyrc 331AghbCherGothLatnSunuSyrcThai 332Zzzz 342Grek 343Zzzz 345Grek 346Zzzz",
    "358LatnOsge 359Zzzz 35eAghbLatnTodr 35fZzzz 363Latn 370Zzzz 374CoptGrek 376Zzzz",
    "483CyrlPerm 484CyrlGlag 485CyrlLatn 487CyrlGlag 488Zzzz 589ArmnGeorGlag 58aZzzz",
    "60cArabGaraNkooRohgSyrcThaaYezi 60dZzzz 61bArabGaraNkooRohgSyrcThaaYezi 61cArabSyrcThaa",
    "61dZzzz 61fAdlmArabGaraNkooRohgSyrcThaaYezi 620Zzzz",
    "640AdlmArabMandManiOugrPhlpRohgSogdSyrc 641Zzzz 64bArabSyrc 656Zzzz 660ArabThaaYezi",
    "66aZzzz 670ArabSyrc 671Zzzz 6d4ArabRohg 6d5Zzzz",
    "951BengDevaGranGujrGuruKndaLatnMlymNandNewaOryaShrdTamlTeluTirh",
    "952BengDevaGranGujrGuruKndaLatnMlymNewaOryaTamlTeluTirh 953Zzzz",
    "964BengDevaDogrGongGonmGranGujrGuruKndaMahjMlymNandOnaoOryaSindSinhSyloTakrTamlTeluTirh",
    "965BengDevaDogrGongGonmGranGujrGukhGuruKndaLimbMahjMlymNandOnaoOryaSindSinhSyloTakrTamlTeluTirh",
    "966DevaDogrKthiMahj 970Zzzz 9e6BengCakmSylo 9f0Zzzz a66GuruMult a70Zzzz ae6GujrKhoj",
    "af0Zzzz be6GranTaml bf4Zzzz ce6KndaNandTutg cf0Zzzz 1040CakmMymrTale 104aZzzz",
    "10fbGeorGlagLatn 10fcZzzz 16ebRunr 16eeZzzz 1735BuhdHanoTagbTglg 1737Zzzz 1802MongPhag",
    "1804Zzzz 1805MongPhag 1806Zzzz 1cd0BengDevaGranKnda 1cd1Deva 1cd2BengDevaGranKnda",
    "1cd3DevaGranKnda 1cd4Deva 1cd5BengDevaNewaTeluTirh 1cd6BengDevaTelu 1cd7DevaNewaShrd",
    "1cd8BengDevaNewaTelu 1cd9DevaShrd 1cdaDevaKndaMlymOryaTamlTelu 1cdbDeva 1cdcDevaShrd",
    "1cdeDeva 1ce0DevaShrd 1ce1BengDeva 1ce2DevaNewaTirh 1ce3Deva 1ce9DevaNandNewa",
    "1ceaBengDevaShrd 1cebDevaNewa 1cecDeva 1cedBengDevaNewaShrd 1ceeDeva",
    "1cf2BengDevaGranKndaMlymNandOryaSinhTeluTirhTutg 1cf3DevaGran 1cf4DevaGranKndaTutg",
    "1cf5BengDeva 1cf7Beng 1cf8DevaGran 1cfaNand 1cfbZzzz 1dc0Grek 1dc2Zzzz 1df8CyrlLatnSyrc",
    "1df9Zzzz 1dfaSyrc 1dfbZzzz 202fLatnMongPhag 2030Zzzz 204fAdlmArab 2050Zzzz",
    "205aCariGeorGlagHungLyciOrkh 205bZzzz 205dCariGrekHungMero 205eZzzz 20f0DevaGranLatn",
    "20f1Zzzz 2e17CoptLatn 2e18Zzzz 2e30AvstOrkh 2e31AvstCariGeorHungKthiLydiSamr 2e32Zzzz",
    "2e3cDupl 2e3dZzzz 2e41AdlmArabHung 2e42Zzzz 2e43CyrlGlag 2e44Zzzz 2ff0HaniTang 3000Zzzz",
    "3001BopoHangHaniHiraKanaMongYiii 3002BopoHangHaniHiraKanaMongPhagYiii",
    "3003BopoHangHaniHiraKana 3004Zzzz 3006Hani 3007Zzzz 3008BopoHangHaniHiraKanaMongTibtYiii",
    "300aBopoHangHaniHiraKanaLisuMongTibtYiii 300cBopoHangHaniHiraKanaYiii 3012Zzzz",
    "3013BopoHangHaniHiraKana 3014BopoHangHaniHiraKanaYiii 301cBopoHangHaniHiraKana 3020Zzzz",
    "302aBopoHani 302eZzzz 3030BopoHangHaniHiraKana 3031HiraKana 3036Zzzz",
    "3037BopoHangHaniHiraKana 3038Zzzz 303cHaniHiraKana 303eHani 3040Zzzz 3099HiraKana 309dZzzz",
    "30a0HiraKana 30a1Zzzz 30fbBopoHangHaniHiraKanaYiii 30fcHiraKana 30fdZzzz 3190Hani 31a0Zzzz",
    "31c0Hani 31e6Zzzz 31efHaniTang 31f0Zzzz 3220Hani 3248Zzzz 3280Hani 32b1Zzzz 32c0Hani",
    "32ccZzzz 32ffHani 3300Zzzz 3358Hani 3371Zzzz 337bHani 3380Zzzz 33e0Hani 33ffZzzz",
    "a66fCyrlGlag a670Zzzz a700HaniLatn a708Zzzz",
    "a830DevaDogrGujrGuruKhojKndaKthiMahjMlymModiNandShrdSindTakrTirhTutg",
    "a833DevaDogrGujrGuruKhojKndaKthiMahjModiNandShrdSindTakrTirhTutg",
    "a836DevaDogrGujrGuruKhojKthiMahjModiSindTakrTirh",
    "a838DevaDogrGujrGuruKhojKthiMahjModiShrdSindTakrTirh",
    "a839DevaDogrGujrGuruKhojKthiMahjModiSindTakrTirh a83aZzzz a8f1BengDevaTutg a8f2Zzzz",
    "a8f3DevaTaml a8f4Zzzz a92eKaliLatnMymr a92fZzzz a9cfBugiJava a9d0Zzzz fd3eArabNkoo",
    "fd40Zzzz fdf2ArabThaa fdf3Zzzz fdfdArabThaa fdfeZzzz fe45BopoHangHaniHiraKana fe47Zzzz",
    "ff61BopoHangHaniHiraKanaYiii ff66Zzzz ff70HiraKana ff71Zzzz ff9eHiraKana ffa0Zzzz",
    "10100CpmnCprtLinb 10102CprtLinb 10103Zzzz 10107CprtLinaLinb 10134Zzzz 10137CprtLinb",
    "10140Zzzz 102e0ArabCopt 102fcZzzz 10af2ManiOugr 10af3Zzzz 11301GranTaml 11302Zzzz",
    "11303GranTaml 11304Zzzz 1133bGranTaml 1133dZzzz 11fd0GranTaml 11fd2Zzzz 11fd3GranTaml",
    "11fd4Zzzz 1bca0Dupl 1bca4Zzzz 1d360Hani 1d372Zzzz 1f250Hani 1f252Zzzz"]

def names : List (List String) := ([
    "adlm=adlam aghb=caucasianalbanian ahom=ahom arab=arabic armi=imperialaramaic armn=armenian",
    "avst=avestan bali=balinese bamu=bamum bass=bassavah batk=batak beng=bengali berf=beriaerfe",
    "bhks=bhaiksuki bopo=bopomofo brah=brahmi brai=braille bugi=buginese buhd=buhid cakm=chakma",
    "cans=canadianaboriginal cari=carian cham=cham cher=cherokee chrs=chorasmian",
    "copt=coptic=qaac cpmn=cyprominoan cprt=cypriot cyrl=cyrillic deva=devanagari",
    "diak=divesakuru dogr=dogra dsrt=deseret dupl=duployan egyp=egyptianhieroglyphs",
    "elba=elbasan elym=elymaic ethi=ethiopic gara=garay geor=georgian glag=glagolitic",
    "gong=gunjalagondi gonm=masaramgondi goth=gothic gran=grantha grek=greek gujr=gujarati",
    "gukh=gurungkhema guru=gurmukhi hang=hangul hani=han hano=hanunoo hatr=hatran hebr=hebrew",
    "hira=hiragana hluw=anatolianhieroglyphs hmng=pahawhhmong hmnp=nyiakengpuachuehmong",
    "hung=oldhungarian ital=olditalic java=javanese kali=kayahli kana=katakana kawi=kawi",
    "khar=kharoshthi khmr=khmer khoj=khojki kits=khitansmallscript knda=kannada krai=kiratrai",
    "kthi=kaithi lana=taitham laoo=lao latn=latin lepc=lepcha limb=limbu lina=lineara",
    "linb=linearb lisu=lisu lyci=lycian lydi=lydian mahj=mahajani maka=makasar mand=mandaic",
    "mani=manichaean marc=marchen medf=medefaidrin mend=mendekikakui merc=meroiticcursive",
    "mero=meroitichieroglyphs mlym=malayalam modi=modi mong=mongolian mroo=mro mtei=meeteimayek",
    "mult=multani mymr=myanmar nagm=nagmundari nand=nandinagari narb=oldnortharabian",
    "nbat=nabataean newa=newa nkoo=nko nshu=nushu ogam=ogham olck=olchiki onao=olonal",
    "orkh=oldturkic orya=oriya osge=osage osma=osmanya ougr=olduyghur palm=palmyrene",
    "pauc=paucinhau perm=oldpermic phag=phagspa phli=inscriptionalpahlavi phlp=psalterpahlavi",
    "phnx=phoenician plrd=miao prti=inscriptionalparthian rjng=rejang rohg=hanifirohingya",
    "runr=runic samr=samaritan sarb=oldsoutharabian saur=saurashtra sgnw=signwriting",
    "shaw=shavian shrd=sharada sidd=siddham sidt=sidetic sind=khudawadi sinh=sinhala",
    "sogd=sogdian sogo=oldsogdian sora=sorasompeng soyo=soyombo sund=sundanese sunu=sunuwar",
    "sylo=sylotinagri syrc=syriac tagb=tagbanwa takr=takri tale=taile talu=newtailue taml=tamil",
    "tang=tangut tavt=taiviet tayo=taiyo telu=telugu tfng=tifinagh tglg=tagalog thaa=thaana",
    "thai=thai tibt=tibetan tirh=tirhuta tnsa=tangsa todr=todhri tols=tolongsiki toto=toto",
    "tutg=tulutigalari ugar=ugaritic vaii=vai vith=vithkuqi wara=warangciti wcho=wancho",
    "xpeo=oldpersian xsux=cuneiform yezi=yezidi yiii=yi zanb=zanabazarsquare",
    "zinh=inherited=qaai zyyy=common zzzz=unknown"] : List String).flatMap (·.splitOn " ") |>.map (·.splitOn "=")

def of (c : Char) : String := ((runs.find? c).getD "Zzzz").map Char.toLower

def codes : List Char → List String
  | a :: b :: c :: d :: rest => String.ofList [a, b, c, d] :: codes rest
  | _ => []

def extensions (c : Char) : List String :=
  match (extensionRuns.find? c).getD "Zzzz" with
  | "Zzzz" => [of c]
  | joined => codes (joined.map Char.toLower).toList

def named? (name : String) : Option String :=
  (names.find? (·.contains name)).bind List.head?

end Facet.Text.Script
