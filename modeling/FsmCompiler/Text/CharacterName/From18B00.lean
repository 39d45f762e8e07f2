/-
# Names of the characters from U+18B00 to U+1CFFF

The table is written as `Text.CharacterName.Table` says.
-/

namespace FsmCompiler.Text.CharacterName

/-- The names of the characters from U+18B00 to U+1CFFF. -/
def namesFrom18B00 : String := "
  18B00 KHITAN SMALL SCRIPT CHARACTER-|18B00,18B01,18B02,18B03,18B04,18B05,18B06,18B07,18B08,18B09
  18B0A,18B0B,18B0C,18B0D,18B0E,18B0F,18B10,18B11,18B12,18B13,18B14,18B15,18B16,18B17,18B18,18B19
  18B1A,18B1B,18B1C,18B1D,18B1E,18B1F,18B20,18B21,18B22,18B23,18B24,18B25,18B26,18B27,18B28,18B29
  18B2A,18B2B,18B2C,18B2D,18B2E,18B2F,18B30,18B31,18B32,18B33,18B34,18B35,18B36,18B37,18B38,18B39
  18B3A,18B3B,18B3C,18B3D,18B3E,18B3F,18B40,18B41,18B42,18B43,18B44,18B45
  18B46 KHITAN SMALL SCRIPT CHARACTER-|18B46,18B47,18B48,18B49,18B4A,18B4B,18B4C,18B4D,18B4E,18B4F
  18B50,18B51,18B52,18B53,18B54,18B55,18B56,18B57,18B58,18B59,18B5A,18B5B,18B5C,18B5D,18B5E,18B5F
  18B60,18B61,18B62,18B63,18B64,18B65,18B66,18B67,18B68,18B69,18B6A,18B6B,18B6C,18B6D,18B6E,18B6F
  18B70,18B71,18B72,18B73,18B74,18B75,18B76,18B77,18B78,18B79,18B7A,18B7B,18B7C,18B7D,18B7E,18B7F
  18B80,18B81,18B82,18B83,18B84,18B85,18B86,18B87,18B88,18B89,18B8A,18B8B,18B8C,18B8D,18B8E,18B8F
  18B90,18B91,18B92,18B93,18B94,18B95,18B96,18B97,18B98,18B99,18B9A,18B9B,18B9C,18B9D,18B9E,18B9F
  18BA0,18BA1,18BA2,18BA3,18BA4,18BA5,18BA6,18BA7,18BA8,18BA9,18BAA,18BAB,18BAC,18BAD,18BAE,18BAF
  18BB0,18BB1,18BB2,18BB3,18BB4,18BB5,18BB6,18BB7,18BB8,18BB9,18BBA,18BBB,18BBC,18BBD,18BBE,18BBF
  18BC0,18BC1,18BC2,18BC3,18BC4,18BC5,18BC6,18BC7,18BC8,18BC9,18BCA,18BCB,18BCC,18BCD,18BCE,18BCF
  18BD0,18BD1,18BD2,18BD3,18BD4,18BD5,18BD6,18BD7,18BD8,18BD9,18BDA,18BDB,18BDC,18BDD,18BDE,18BDF
  18BE0,18BE1,18BE2,18BE3,18BE4,18BE5,18BE6,18BE7,18BE8,18BE9,18BEA,18BEB,18BEC,18BED,18BEE,18BEF
  18BF0,18BF1,18BF2,18BF3,18BF4,18BF5,18BF6,18BF7,18BF8,18BF9,18BFA,18BFB,18BFC,18BFD,18BFE,18BFF
  18C00,18C01,18C02,18C03,18C04,18C05,18C06,18C07,18C08,18C09,18C0A,18C0B,18C0C,18C0D,18C0E,18C0F
  18C10,18C11,18C12,18C13,18C14,18C15,18C16,18C17,18C18,18C19,18C1A,18C1B,18C1C,18C1D,18C1E,18C1F
  18C20,18C21,18C22,18C23,18C24,18C25,18C26,18C27,18C28,18C29,18C2A,18C2B,18C2C,18C2D,18C2E,18C2F
  18C30,18C31,18C32,18C33,18C34,18C35,18C36,18C37,18C38,18C39,18C3A,18C3B,18C3C,18C3D,18C3E,18C3F
  18C40,18C41,18C42,18C43,18C44,18C45,18C46,18C47,18C48,18C49,18C4A,18C4B,18C4C,18C4D,18C4E,18C4F
  18C50,18C51,18C52,18C53,18C54,18C55,18C56,18C57,18C58,18C59,18C5A,18C5B,18C5C,18C5D,18C5E,18C5F
  18C60,18C61,18C62,18C63,18C64,18C65,18C66,18C67,18C68,18C69,18C6A,18C6B,18C6C,18C6D,18C6E,18C6F
  18C70,18C71,18C72,18C73,18C74,18C75,18C76,18C77,18C78,18C79,18C7A,18C7B,18C7C,18C7D,18C7E,18C7F
  18C80,18C81,18C82,18C83,18C84,18C85,18C86,18C87,18C88,18C89,18C8A,18C8B,18C8C,18C8D,18C8E,18C8F
  18C90,18C91,18C92,18C93,18C94,18C95,18C96,18C97,18C98,18C99,18C9A,18C9B,18C9C,18C9D,18C9E,18C9F
  18CA0,18CA1,18CA2,18CA3,18CA4,18CA5,18CA6,18CA7,18CA8,18CA9,18CAA,18CAB,18CAC,18CAD,18CAE,18CAF
  18CB0,18CB1,18CB2,18CB3,18CB4,18CB5,18CB6,18CB7,18CB8,18CB9,18CBA,18CBB,18CBC,18CBD,18CBE,18CBF
  18CC0,18CC1,18CC2,18CC3,18CC4,18CC5,18CC6,18CC7,18CC8,18CC9,18CCA,18CCB,18CCC,18CCD,18CCE,18CCF
  18CD0,18CD1,18CD2,18CD3,18CD4,18CD5
  1AFF0 KATAKANA LETTER MINNAN TONE-|2,3,4,5,,7,8
  1AFF7 KATAKANA LETTER MINNAN NASALIZED TONE-|1,2,3,4,5,,7,8
  1B000 |KATAKANA LETTER ARCHAIC E,HIRAGANA LETTER ARCHAIC YE
  1B002 HENTAIGANA LETTER |A-1,A-2,A-3,A-WO,I-1,I-2,I-3,I-4,U-1,U-2,U-3,U-4,U-5,E-2,E-3,E-4,E-5
  E-6,O-1,O-2,O-3,KA-1,KA-2,KA-3,KA-4,KA-5,KA-6,KA-7,KA-8,KA-9,KA-10,KA-11,KA-KE,KI-1,KI-2,KI-3
  KI-4,KI-5,KI-6,KI-7,KI-8,KU-1,KU-2,KU-3,KU-4,KU-5,KU-6,KU-7,KE-1,KE-2,KE-3,KE-4,KE-5,KE-6,KO-1
  KO-2,KO-3,KO-KI,SA-1,SA-2,SA-3,SA-4,SA-5,SA-6,SA-7,SA-8,SI-1,SI-2,SI-3,SI-4,SI-5,SI-6,SU-1,SU-2
  SU-3,SU-4,SU-5,SU-6,SU-7,SU-8,SE-1,SE-2,SE-3,SE-4,SE-5,SO-1,SO-2,SO-3,SO-4,SO-5,SO-6,SO-7,TA-1
  TA-2,TA-3,TA-4,TI-1,TI-2,TI-3,TI-4,TI-5,TI-6,TI-7,TU-1,TU-2,TU-3,TU-4,TU-TO,TE-1,TE-2,TE-3,TE-4
  TE-5,TE-6,TE-7,TE-8,TE-9,TO-1,TO-2,TO-3,TO-4,TO-5,TO-6,TO-RA,NA-1,NA-2,NA-3,NA-4,NA-5,NA-6,NA-7
  NA-8,NA-9,NI-1,NI-2,NI-3,NI-4,NI-5,NI-6,NI-7,NI-TE,NU-1,NU-2,NU-3,NE-1,NE-2,NE-3,NE-4,NE-5,NE-6
  NE-KO,NO-1,NO-2,NO-3,NO-4,NO-5,HA-1,HA-2,HA-3,HA-4,HA-5,HA-6,HA-7,HA-8,HA-9,HA-10,HA-11,HI-1
  HI-2,HI-3,HI-4,HI-5,HI-6,HI-7,HU-1,HU-2,HU-3,HE-1,HE-2,HE-3,HE-4,HE-5,HE-6,HE-7,HO-1,HO-2,HO-3
  HO-4,HO-5,HO-6,HO-7,HO-8,MA-1,MA-2,MA-3,MA-4,MA-5,MA-6,MA-7,MI-1,MI-2,MI-3,MI-4,MI-5,MI-6,MI-7
  MU-1,MU-2,MU-3,MU-4,ME-1,ME-2,ME-MA,MO-1,MO-2,MO-3,MO-4,MO-5,MO-6,YA-1,YA-2,YA-3,YA-4,YA-5,YA-YO
  YU-1,YU-2,YU-3,YU-4,YO-1,YO-2,YO-3,YO-4,YO-5,YO-6,RA-1,RA-2,RA-3,RA-4,RI-1,RI-2,RI-3,RI-4,RI-5
  RI-6,RI-7,RU-1,RU-2,RU-3,RU-4,RU-5,RU-6,RE-1,RE-2,RE-3,RE-4,RO-1,RO-2,RO-3,RO-4,RO-5,RO-6,WA-1
  WA-2,WA-3,WA-4,WA-5,WI-1,WI-2,WI-3,WI-4,WI-5,WE-1,WE-2,WE-3,WE-4,WO-1,WO-2,WO-3,WO-4,WO-5,WO-6
  WO-7,N-MU-MO-1,N-MU-MO-2
  1B11F HIRAGANA LETTER ARCHAIC |WU
  1B120 KATAKANA LETTER ARCHAIC |YI,YE,WU
  1B150 HIRAGANA LETTER SMALL |WI,WE,WO
  1B164 KATAKANA LETTER SMALL |WI,WE,WO,N
  1B170 NUSHU CHARACTER-|1B170,1B171,1B172,1B173,1B174,1B175,1B176,1B177,1B178,1B179,1B17A,1B17B
  1B17C,1B17D,1B17E,1B17F,1B180,1B181,1B182,1B183,1B184,1B185,1B186,1B187,1B188,1B189,1B18A,1B18B
  1B18C,1B18D,1B18E,1B18F,1B190,1B191,1B192,1B193,1B194,1B195,1B196,1B197,1B198,1B199,1B19A,1B19B
  1B19C,1B19D,1B19E,1B19F,1B1A0,1B1A1,1B1A2,1B1A3,1B1A4,1B1A5,1B1A6,1B1A7,1B1A8,1B1A9,1B1AA,1B1AB
  1B1AC,1B1AD,1B1AE,1B1AF,1B1B0,1B1B1,1B1B2,1B1B3,1B1B4,1B1B5,1B1B6,1B1B7,1B1B8,1B1B9,1B1BA,1B1BB
  1B1BC,1B1BD,1B1BE,1B1BF,1B1C0,1B1C1,1B1C2,1B1C3,1B1C4,1B1C5,1B1C6,1B1C7,1B1C8,1B1C9,1B1CA,1B1CB
  1B1CC,1B1CD,1B1CE,1B1CF,1B1D0,1B1D1,1B1D2,1B1D3,1B1D4,1B1D5,1B1D6,1B1D7,1B1D8,1B1D9,1B1DA,1B1DB
  1B1DC,1B1DD,1B1DE,1B1DF,1B1E0,1B1E1,1B1E2,1B1E3,1B1E4,1B1E5,1B1E6,1B1E7,1B1E8,1B1E9,1B1EA,1B1EB
  1B1EC,1B1ED,1B1EE,1B1EF,1B1F0,1B1F1,1B1F2,1B1F3,1B1F4,1B1F5,1B1F6,1B1F7,1B1F8,1B1F9,1B1FA,1B1FB
  1B1FC,1B1FD,1B1FE,1B1FF,1B200,1B201,1B202,1B203,1B204,1B205,1B206,1B207,1B208,1B209,1B20A,1B20B
  1B20C,1B20D,1B20E,1B20F,1B210,1B211,1B212,1B213,1B214,1B215,1B216,1B217,1B218,1B219,1B21A,1B21B
  1B21C,1B21D,1B21E,1B21F,1B220,1B221,1B222,1B223,1B224,1B225,1B226,1B227,1B228,1B229,1B22A,1B22B
  1B22C,1B22D,1B22E,1B22F,1B230,1B231,1B232,1B233,1B234,1B235,1B236,1B237,1B238,1B239,1B23A,1B23B
  1B23C,1B23D,1B23E,1B23F,1B240,1B241,1B242,1B243,1B244,1B245,1B246,1B247,1B248,1B249,1B24A,1B24B
  1B24C,1B24D,1B24E,1B24F,1B250,1B251,1B252,1B253,1B254,1B255,1B256,1B257,1B258,1B259,1B25A,1B25B
  1B25C,1B25D,1B25E,1B25F,1B260,1B261,1B262,1B263,1B264,1B265,1B266,1B267,1B268,1B269,1B26A,1B26B
  1B26C,1B26D,1B26E,1B26F,1B270,1B271,1B272,1B273,1B274,1B275,1B276,1B277,1B278,1B279,1B27A,1B27B
  1B27C,1B27D,1B27E,1B27F,1B280,1B281,1B282,1B283,1B284,1B285,1B286,1B287,1B288,1B289,1B28A,1B28B
  1B28C,1B28D,1B28E,1B28F,1B290,1B291,1B292,1B293,1B294,1B295,1B296,1B297,1B298,1B299,1B29A,1B29B
  1B29C,1B29D,1B29E,1B29F,1B2A0,1B2A1,1B2A2,1B2A3,1B2A4,1B2A5,1B2A6,1B2A7,1B2A8,1B2A9,1B2AA,1B2AB
  1B2AC,1B2AD,1B2AE,1B2AF,1B2B0,1B2B1,1B2B2,1B2B3,1B2B4,1B2B5,1B2B6,1B2B7,1B2B8,1B2B9,1B2BA,1B2BB
  1B2BC,1B2BD,1B2BE,1B2BF,1B2C0,1B2C1,1B2C2,1B2C3,1B2C4,1B2C5,1B2C6,1B2C7,1B2C8,1B2C9,1B2CA,1B2CB
  1B2CC,1B2CD,1B2CE,1B2CF,1B2D0,1B2D1,1B2D2,1B2D3,1B2D4,1B2D5,1B2D6,1B2D7,1B2D8,1B2D9,1B2DA,1B2DB
  1B2DC,1B2DD,1B2DE,1B2DF,1B2E0,1B2E1,1B2E2,1B2E3,1B2E4,1B2E5,1B2E6,1B2E7,1B2E8,1B2E9,1B2EA,1B2EB
  1B2EC,1B2ED,1B2EE,1B2EF,1B2F0,1B2F1,1B2F2,1B2F3,1B2F4,1B2F5,1B2F6,1B2F7,1B2F8,1B2F9,1B2FA,1B2FB
  1BC00 DUPLOYAN LETTER |H,X,P,T,F,K,L,B,D,V,G,R,P N,D S,F N,K M,R S,TH,SLOAN DH,DH,KK,SLOAN J,HL
  LH,RH,M,N,J,S,M N,N M,J M,S J,M WITH DOT,N WITH DOT,J WITH DOT,J WITH DOTS INSIDE AND ABOVE
  S WITH DOT,S WITH DOT BELOW,M S,N S,J S,S S,M N S,N M S,J M S,S J S,J S WITH DOT,J N,J N S,S T
  S T R,S P,S P R,T S,T R S,W,WH,W R,S N,S M,K R S,G R S,S K,S K R,A,SLOAN OW,OA,O,AOU,I,E,IE
  SHORT I,UI,EE,SLOAN EH,ROMANIAN I,SLOAN EE,LONG I,YE,U,EU,XW,U N,LONG U,ROMANIAN U,UH,SLOAN U
  OOH,OW,OU,WA,WO,WI,WEI,WOW,NASAL U,NASAL O,NASAL I,NASAL A,PERNIN AN,PERNIN AM,SLOAN EN,SLOAN AN
  SLOAN ON,VOCALIC M
  1BC70 DUPLOYAN AFFIX |LEFT HORIZONTAL SECANT,MID HORIZONTAL SECANT,RIGHT HORIZONTAL SECANT
  LOW VERTICAL SECANT,MID VERTICAL SECANT,HIGH VERTICAL SECANT
  1BC76 DUPLOYAN AFFIX ATTACHED |SECANT,LEFT-TO-RIGHT SECANT,TANGENT,TAIL,E HOOK,I HOOK
  TANGENT HOOK
  1BC80 DUPLOYAN AFFIX HIGH |ACUTE,TIGHT ACUTE,GRAVE,LONG GRAVE,DOT,CIRCLE,LINE,WAVE,VERTICAL
  1BC90 DUPLOYAN AFFIX LOW |ACUTE,TIGHT ACUTE,GRAVE,LONG GRAVE,DOT,CIRCLE,LINE,WAVE,VERTICAL,ARROW
  1BC9C DUPLOYAN |SIGN O WITH CROSS,THICK LETTER SELECTOR,DOUBLE MARK
  PUNCTUATION CHINOOK FULL STOP
  1BCA0 SHORTHAND FORMAT |LETTER OVERLAP,CONTINUING OVERLAP,DOWN STEP,UP STEP
  1CF00 ZNAMENNY COMBINING MARK |GORAZDO NIZKO S KRYZHEM ON LEFT,NIZKO S KRYZHEM ON LEFT
  TSATA ON LEFT,GORAZDO NIZKO ON LEFT,NIZKO ON LEFT,SREDNE ON LEFT,MALO POVYSHE ON LEFT
  POVYSHE ON LEFT,VYSOKO ON LEFT,MALO POVYSHE S KHOKHLOM ON LEFT,POVYSHE S KHOKHLOM ON LEFT
  VYSOKO S KHOKHLOM ON LEFT,GORAZDO NIZKO S KRYZHEM ON RIGHT,NIZKO S KRYZHEM ON RIGHT
  TSATA ON RIGHT,GORAZDO NIZKO ON RIGHT,NIZKO ON RIGHT,SREDNE ON RIGHT,MALO POVYSHE ON RIGHT
  POVYSHE ON RIGHT,VYSOKO ON RIGHT,MALO POVYSHE S KHOKHLOM ON RIGHT,POVYSHE S KHOKHLOM ON RIGHT
  VYSOKO S KHOKHLOM ON RIGHT,TSATA S KRYZHEM,MALO POVYSHE S KRYZHEM,STRANNO MALO POVYSHE
  POVYSHE S KRYZHEM,POVYSHE STRANNO,VYSOKO S KRYZHEM,MALO POVYSHE STRANNO,GORAZDO VYSOKO,ZELO,ON
  RAVNO,TIKHAYA,BORZAYA,UDARKA,PODVERTKA,LOMKA,KUPNAYA,KACHKA,ZEVOK,SKOBA,RAZSEKA,KRYZH ON LEFT
  1CF30 ZNAMENNY COMBINING TONAL RANGE MARK |MRACHNO,SVETLO,TRESVETLO
  1CF33 ZNAMENNY COMBINING MARK |ZADERZHKA,DEMESTVENNY ZADERZHKA,OTSECHKA,PODCHASHIE
  PODCHASHIE WITH VERTICAL STROKE,CHASHKA,CHASHKA POLNAYA,OBLACHKO,SOROCHYA NOZHKA,TOCHKA
  DVOETOCHIE
  1CF3E ZNAMENNY COMBINING |ATTACHING VERTICAL OMET,MARK CURVED OMET,MARK KRYZH
  LOWER TONAL RANGE INDICATOR
  1CF42 ZNAMENNY PRIZNAK MODIFIER |LEVEL-2,LEVEL-3,DIRECTION FLIP,KRYZH,ROG
  1CF50 ZNAMENNY NEUME |KRYUK,KRYUK TIKHY,PARAKLIT,DVA V CHELNU,KLYUCH,ZANOZHEK,STOPITSA
  STOPITSA S OCHKOM,PEREVODKA,PEREVODKA NEPOSTOYANNAYA,STOPITSA WITH SOROCHYA NOZHKA,CHELYUSTKA
  PALKA,ZAPYATAYA
  1CF5E ZNAMENNY NEUME GOLUBCHIK |BORZY,TIKHY,MRACHNY,SVETLY,TRESVETLY
  1CF63 ZNAMENNY NEUME VRAKHIYA |PROSTAYA,MRACHNAYA,SVETLAYA,TRESVETLAYA
  1CF67 ZNAMENNY NEUME VRAKHIYA KLYUCHEVAYA |PROSTAYA,MRACHNAYA,SVETLAYA,TRESVETLAYA
  1CF6B ZNAMENNY NEUME |DOUBLE ZAPYATAYA,REVERSED CHELYUSTKA,DERBITSA,KHAMILO,CHASHKA,PODCHASHIE
  SKAMEYTSA MRACHNAYA,SKAMEYTSA SVETLAYA,SKAMEYTSA TRESVETLAYA,SKAMEYTSA TIKHAYA
  DEMESTVENNY KLYUCH,SKAMEYTSA KLYUCHEVAYA SVETLAYA,SKAMEYTSA KLYUCHENEPOSTOYANNAYA
  SKAMEYTSA KLYUCHEVAYA TIKHAYA
  1CF79 ZNAMENNY NEUME SKAMEYTSA DVOECHELNAYA |PROSTAYA,SVETLAYA,NEPOSTOYANNAYA,KLYUCHEVAYA
  1CF7D ZNAMENNY NEUME |SLOZHITIE,SLOZHITIE S ZAPYATOY,SLOZHITIE ZAKRYTOE,SLOZHITIE S KRYZHEM
  KRYZH,ROG,FITA,KOBYLA,ZMEYTSA,STATYA
  1CF87 ZNAMENNY NEUME STATYA |S ZAPYATOY,S KRYZHEM,S ZAPYATOY I KRYZHEM,S KRYZHEM I ZAPYATOY
  ZAKRYTAYA,ZAKRYTAYA S ZAPYATOY,S ROGOM,S DVUMYA ZAPYATYMI,S ZAPYATOY I PODCHASHIEM
  1CF90 ZNAMENNY NEUME |POLKULIZMY,STATYA NEPOSTOYANNAYA
  1CF92 ZNAMENNY NEUME STRELA |PROSTAYA,MRACHNOTIKHAYA,KRYZHEVAYA,POLUPOVODNAYA,POVODNAYA
  NEPOSTOYANNAYA,KLYUCHEPOVODNAYA,KLYUCHENEPOSTOYANNAYA,TIKHAYA PUTNAYA,DVOECHELNAYA
  DVOECHELNOKRYZHEVAYA,DVOECHELNOPOVODNAYA,DVOECHELNAYA KLYUCHEVAYA
  DVOECHELNOPOVODNAYA KLYUCHEVAYA,GROMNAYA WITH SINGLE ZAPYATAYA
  GROMOPOVODNAYA WITH SINGLE ZAPYATAYA,GROMNAYA,GROMOPOVODNAYA
  GROMOPOVODNAYA WITH DOUBLE ZAPYATAYA,GROMOKRYZHEVAYA,GROMOKRYZHEVAYA POVODNAYA
  1CFA7 ZNAMENNY NEUME |MECHIK,MECHIK POVODNY,MECHIK KLYUCHEVOY,MECHIK KLYUCHEPOVODNY
  MECHIK KLYUCHENEPOSTOYANNY,STRELA TRYASOGLASNAYA,STRELA TRYASOPOVODNAYA,STRELA TRYASOSTRELNAYA
  OSOKA,OSOKA SVETLAYA,OSOKA TRESVETLAYA,OSOKA KRYUKOVAYA SVETLAYA,OSOKA KLYUCHEVAYA SVETLAYA
  OSOKA KLYUCHEVAYA NEPOSTOYANNAYA,STRELA KRYUKOVAYA
  1CFB6 ZNAMENNY NEUME STRELA KRYUKOVAYA |POVODNAYA,GROMNAYA WITH SINGLE ZAPYATAYA
  GROMOPOVODNAYA WITH SINGLE ZAPYATAYA,GROMNAYA,GROMOPOVODNAYA
  GROMOPOVODNAYA WITH DOUBLE ZAPYATAYA,GROMOKRYZHEVAYA,GROMOKRYZHEVAYA POVODNAYA,TRYASKA
  1CFBF ZNAMENNY NEUME |KUFISMA,OBLAKO,DUDA,NEMKA,PAUK"

end FsmCompiler.Text.CharacterName
