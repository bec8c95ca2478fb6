import LabelTally.Text.Name.Run

/-!
# Names from U+1B000 to U+1BCA3

Old kana, and phonetic characters of women's script.
-/

namespace LabelTally.Text

/-- The names of these characters. -/
def oldKanaNames : List NameRun :=
  [⟨0x1b000, "", ["KATAKANA LETTER ARCHAIC E,HIRAGANA LETTER ARCHAIC YE"]⟩,
   ⟨0x1b002, "HENTAIGANA LETTER ",
    ["A-1,A-2,A-3,A-WO,I-1,I-2,I-3,I-4,U-1,U-2,U-3,U-4,U-5,E-2,E-3,E-4,E-5,E-6,O-1,O-2,O-3,KA-1",
     "KA-2,KA-3,KA-4,KA-5,KA-6,KA-7,KA-8,KA-9,KA-10,KA-11,KA-KE,KI-1,KI-2,KI-3,KI-4,KI-5,KI-6",
     "KI-7,KI-8,KU-1,KU-2,KU-3,KU-4,KU-5,KU-6,KU-7,KE-1,KE-2,KE-3,KE-4,KE-5,KE-6,KO-1,KO-2,KO-3",
     "KO-KI,SA-1,SA-2,SA-3,SA-4,SA-5,SA-6,SA-7,SA-8,SI-1,SI-2,SI-3,SI-4,SI-5,SI-6,SU-1,SU-2,SU-3",
     "SU-4,SU-5,SU-6,SU-7,SU-8,SE-1,SE-2,SE-3,SE-4,SE-5,SO-1,SO-2,SO-3,SO-4,SO-5,SO-6,SO-7,TA-1",
     "TA-2,TA-3,TA-4,TI-1,TI-2,TI-3,TI-4,TI-5,TI-6,TI-7,TU-1,TU-2,TU-3,TU-4,TU-TO,TE-1,TE-2,TE-3",
     "TE-4,TE-5,TE-6,TE-7,TE-8,TE-9,TO-1,TO-2,TO-3,TO-4,TO-5,TO-6,TO-RA,NA-1,NA-2,NA-3,NA-4,NA-5",
     "NA-6,NA-7,NA-8,NA-9,NI-1,NI-2,NI-3,NI-4,NI-5,NI-6,NI-7,NI-TE,NU-1,NU-2,NU-3,NE-1,NE-2,NE-3",
     "NE-4,NE-5,NE-6,NE-KO,NO-1,NO-2,NO-3,NO-4,NO-5,HA-1,HA-2,HA-3,HA-4,HA-5,HA-6,HA-7,HA-8,HA-9",
     "HA-10,HA-11,HI-1,HI-2,HI-3,HI-4,HI-5,HI-6,HI-7,HU-1,HU-2,HU-3,HE-1,HE-2,HE-3,HE-4,HE-5",
     "HE-6,HE-7,HO-1,HO-2,HO-3,HO-4,HO-5,HO-6,HO-7,HO-8,MA-1,MA-2,MA-3,MA-4,MA-5,MA-6,MA-7,MI-1",
     "MI-2,MI-3,MI-4,MI-5,MI-6,MI-7,MU-1,MU-2,MU-3,MU-4,ME-1,ME-2,ME-MA,MO-1,MO-2,MO-3,MO-4,MO-5",
     "MO-6,YA-1,YA-2,YA-3,YA-4,YA-5,YA-YO,YU-1,YU-2,YU-3,YU-4,YO-1,YO-2,YO-3,YO-4,YO-5,YO-6,RA-1",
     "RA-2,RA-3,RA-4,RI-1,RI-2,RI-3,RI-4,RI-5,RI-6,RI-7,RU-1,RU-2,RU-3,RU-4,RU-5,RU-6,RE-1,RE-2",
     "RE-3,RE-4,RO-1,RO-2,RO-3,RO-4,RO-5,RO-6,WA-1,WA-2,WA-3,WA-4,WA-5,WI-1,WI-2,WI-3,WI-4,WI-5",
     "WE-1,WE-2,WE-3,WE-4,WO-1,WO-2,WO-3,WO-4,WO-5,WO-6,WO-7,N-MU-MO-1,N-MU-MO-2"]⟩,
   ⟨0x1b11f, "HIRAGANA LETTER ARCHAIC ", ["WU"]⟩,
   ⟨0x1b120, "KATAKANA LETTER ARCHAIC ", ["YI,YE,WU"]⟩,
   ⟨0x1b150, "HIRAGANA LETTER SMALL ", ["WI,WE,WO"]⟩,
   ⟨0x1b164, "KATAKANA LETTER SMALL ", ["WI,WE,WO,N"]⟩,
   ⟨0x1b170, "NUSHU CHARACTER-",
    ["1B170,1B171,1B172,1B173,1B174,1B175,1B176,1B177,1B178,1B179,1B17A,1B17B,1B17C,1B17D,1B17E",
     "1B17F,1B180,1B181,1B182,1B183,1B184,1B185,1B186,1B187,1B188,1B189,1B18A,1B18B,1B18C,1B18D",
     "1B18E,1B18F,1B190,1B191,1B192,1B193,1B194,1B195,1B196,1B197,1B198,1B199,1B19A,1B19B,1B19C",
     "1B19D,1B19E,1B19F,1B1A0,1B1A1,1B1A2,1B1A3,1B1A4,1B1A5,1B1A6,1B1A7,1B1A8,1B1A9,1B1AA,1B1AB",
     "1B1AC,1B1AD,1B1AE,1B1AF,1B1B0,1B1B1,1B1B2,1B1B3,1B1B4,1B1B5,1B1B6,1B1B7,1B1B8,1B1B9,1B1BA",
     "1B1BB,1B1BC,1B1BD,1B1BE,1B1BF,1B1C0,1B1C1,1B1C2,1B1C3,1B1C4,1B1C5,1B1C6,1B1C7,1B1C8,1B1C9",
     "1B1CA,1B1CB,1B1CC,1B1CD,1B1CE,1B1CF,1B1D0,1B1D1,1B1D2,1B1D3,1B1D4,1B1D5,1B1D6,1B1D7,1B1D8",
     "1B1D9,1B1DA,1B1DB,1B1DC,1B1DD,1B1DE,1B1DF,1B1E0,1B1E1,1B1E2,1B1E3,1B1E4,1B1E5,1B1E6,1B1E7",
     "1B1E8,1B1E9,1B1EA,1B1EB,1B1EC,1B1ED,1B1EE,1B1EF,1B1F0,1B1F1,1B1F2,1B1F3,1B1F4,1B1F5,1B1F6",
     "1B1F7,1B1F8,1B1F9,1B1FA,1B1FB,1B1FC,1B1FD,1B1FE,1B1FF,1B200,1B201,1B202,1B203,1B204,1B205",
     "1B206,1B207,1B208,1B209,1B20A,1B20B,1B20C,1B20D,1B20E,1B20F,1B210,1B211,1B212,1B213,1B214",
     "1B215,1B216,1B217,1B218,1B219,1B21A,1B21B,1B21C,1B21D,1B21E,1B21F,1B220,1B221,1B222,1B223",
     "1B224,1B225,1B226,1B227,1B228,1B229,1B22A,1B22B,1B22C,1B22D,1B22E,1B22F,1B230,1B231,1B232",
     "1B233,1B234,1B235,1B236,1B237,1B238,1B239,1B23A,1B23B,1B23C,1B23D,1B23E,1B23F,1B240,1B241",
     "1B242,1B243,1B244,1B245,1B246,1B247,1B248,1B249,1B24A,1B24B,1B24C,1B24D,1B24E,1B24F,1B250",
     "1B251,1B252,1B253,1B254,1B255,1B256,1B257,1B258,1B259,1B25A,1B25B,1B25C,1B25D,1B25E,1B25F",
     "1B260,1B261,1B262,1B263,1B264,1B265,1B266,1B267,1B268,1B269,1B26A,1B26B,1B26C,1B26D,1B26E",
     "1B26F,1B270,1B271,1B272,1B273,1B274,1B275,1B276,1B277,1B278,1B279,1B27A,1B27B,1B27C,1B27D",
     "1B27E,1B27F,1B280,1B281,1B282,1B283,1B284,1B285,1B286,1B287,1B288,1B289,1B28A,1B28B,1B28C",
     "1B28D,1B28E,1B28F,1B290,1B291,1B292,1B293,1B294,1B295,1B296,1B297,1B298,1B299,1B29A,1B29B",
     "1B29C,1B29D,1B29E,1B29F,1B2A0,1B2A1,1B2A2,1B2A3,1B2A4,1B2A5,1B2A6,1B2A7,1B2A8,1B2A9,1B2AA",
     "1B2AB,1B2AC,1B2AD,1B2AE,1B2AF,1B2B0,1B2B1,1B2B2,1B2B3,1B2B4,1B2B5,1B2B6,1B2B7,1B2B8,1B2B9",
     "1B2BA,1B2BB,1B2BC,1B2BD,1B2BE,1B2BF,1B2C0,1B2C1,1B2C2,1B2C3,1B2C4,1B2C5,1B2C6,1B2C7,1B2C8",
     "1B2C9,1B2CA,1B2CB,1B2CC,1B2CD,1B2CE,1B2CF,1B2D0,1B2D1,1B2D2,1B2D3,1B2D4,1B2D5,1B2D6,1B2D7",
     "1B2D8,1B2D9,1B2DA,1B2DB,1B2DC,1B2DD,1B2DE,1B2DF,1B2E0,1B2E1,1B2E2,1B2E3,1B2E4,1B2E5,1B2E6",
     "1B2E7,1B2E8,1B2E9,1B2EA,1B2EB,1B2EC,1B2ED,1B2EE,1B2EF,1B2F0,1B2F1,1B2F2,1B2F3,1B2F4,1B2F5",
     "1B2F6,1B2F7,1B2F8,1B2F9,1B2FA,1B2FB"]⟩,
   ⟨0x1bc00, "DUPLOYAN LETTER ",
    ["H,X,P,T,F,K,L,B,D,V,G,R,P N,D S,F N,K M,R S,TH,SLOAN DH,DH,KK,SLOAN J,HL,LH,RH,M,N,J,S,M N",
     "N M,J M,S J,M WITH DOT,N WITH DOT,J WITH DOT,J WITH DOTS INSIDE AND ABOVE,S WITH DOT",
     "S WITH DOT BELOW,M S,N S,J S,S S,M N S,N M S,J M S,S J S,J S WITH DOT,J N,J N S,S T,S T R",
     "S P,S P R,T S,T R S,W,WH,W R,S N,S M,K R S,G R S,S K,S K R,A,SLOAN OW,OA,O,AOU,I,E,IE",
     "SHORT I,UI,EE,SLOAN EH,ROMANIAN I,SLOAN EE,LONG I,YE,U,EU,XW,U N,LONG U,ROMANIAN U,UH",
     "SLOAN U,OOH,OW,OU,WA,WO,WI,WEI,WOW,NASAL U,NASAL O,NASAL I,NASAL A,PERNIN AN,PERNIN AM",
     "SLOAN EN,SLOAN AN,SLOAN ON,VOCALIC M"]⟩,
   ⟨0x1bc70, "DUPLOYAN AFFIX ",
    ["LEFT HORIZONTAL SECANT,MID HORIZONTAL SECANT,RIGHT HORIZONTAL SECANT,LOW VERTICAL SECANT",
     "MID VERTICAL SECANT,HIGH VERTICAL SECANT"]⟩,
   ⟨0x1bc76, "DUPLOYAN AFFIX ATTACHED ",
    ["SECANT,LEFT-TO-RIGHT SECANT,TANGENT,TAIL,E HOOK,I HOOK,TANGENT HOOK"]⟩,
   ⟨0x1bc80, "DUPLOYAN AFFIX HIGH ",
    ["ACUTE,TIGHT ACUTE,GRAVE,LONG GRAVE,DOT,CIRCLE,LINE,WAVE,VERTICAL"]⟩,
   ⟨0x1bc90, "DUPLOYAN AFFIX LOW ",
    ["ACUTE,TIGHT ACUTE,GRAVE,LONG GRAVE,DOT,CIRCLE,LINE,WAVE,VERTICAL,ARROW"]⟩,
   ⟨0x1bc9c, "DUPLOYAN ",
    ["SIGN O WITH CROSS,THICK LETTER SELECTOR,DOUBLE MARK,PUNCTUATION CHINOOK FULL STOP"]⟩,
   ⟨0x1bca0, "SHORTHAND FORMAT ", ["LETTER OVERLAP,CONTINUING OVERLAP,DOWN STEP,UP STEP"]⟩]

end LabelTally.Text
