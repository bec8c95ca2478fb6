import LabelTally.Text.Name.Run

/-!
# Names from U+16800 to U+1AFFE

African syllables, and components of ideographs.
-/

namespace LabelTally.Text

/-- The names of these characters. -/
def ideographNames : List NameRun :=
  [⟨0x16800, "BAMUM LETTER PHASE-A ",
    ["NGKUE MFON,GBIEE FON,PON MFON PIPAEMGBIEE,PON MFON PIPAEMBA,NAA MFON,SHUENSHUET,TITA MFON",
     "NZA MFON,SHINDA PA NJI,PON PA NJI PIPAEMGBIEE,PON PA NJI PIPAEMBA,MAEMBGBIEE,TU MAEMBA",
     "NGANGU,MAEMVEUX,MANSUAE,MVEUAENGAM,SEUNYAM,NTOQPEN,KEUKEUTNDA,NKINDI,SUU,NGKUENZEUM,LAPAQ",
     "LET KUT,NTAP MFAA,MAEKEUP,PASHAE,GHEUAERAE,PAMSHAE,MON NGGEUAET,NZUN MEUT,U YUQ NAE",
     "GHEUAEGHEUAE,NTAP NTAA,SISA,MGBASA,MEUNJOMNDEUQ,MOOMPUQ,KAFA,PA LEERAEWA,NDA LEERAEWA,PET",
     "MAEMKPEN,NIKA,PUP,TUAEP,LUAEP,SONJAM,TEUTEUWEN,MAENYI,KET,NDAANGGEUAET,KUOQ,MOOMEUT,SHUM",
     "LOMMAE,FIRI,ROM,KPOQ,SOQ,MAP PIEET,SHIRAE,NTAP,SHOQ NSHUT YUM,NYIT MONGKEUAEQ,PAARAE",
     "NKAARAE,UNKNOWN,NGGEN,MAESI,NJAM,MBANYI,NYET,TEUAEN,SOT,PAAM,NSHIEE,MAEM,NYI,KAQ,NSHA,VEE",
     "LU,NEN,NAQ,MBAQ"]⟩,
   ⟨0x16857, "BAMUM LETTER PHASE-B ",
    ["NSHUET,TU MAEMGBIEE,SIEE,SET TU,LOM NTEUM,MBA MAELEE,KIEEM,YEURAE,MBAARAE,KAM,PEESHI",
     "YAFU LEERAEWA,LAM NSHUT NYAM,NTIEE SHEUOQ,NDU NJAA,GHEUGHEUAEM,PIT,TU NSIEE,SHET NJAQ",
     "SHEUAEQTU,MFON TEUAEQ,MBIT MBAAKET,NYI NTEUM,KEUPUQ,GHEUGHEN,KEUYEUX,LAANAE,PARUM,VEUM",
     "NGKINDI MVOP,NGGEU MBU,WUAET,SAKEUAE,TAAM,MEUQ,NGGUOQ,NGGUOQ LARGE,MFIYAQ,SUE,MBEURI",
     "MONTIEEN,NYAEMAE,PUNGAAM,MEUT NGGEET,FEUX,MBUOQ,FEE,KEUAEM,MA NJEUAENA,MA NJUQA,LET,NGGAAM",
     "NSEN,MA,KIQ,NGOM"]⟩,
   ⟨0x1688f, "BAMUM LETTER PHASE-C ",
    ["NGKUE MAEMBA,NZA,YUM,WANGKUOQ,NGGEN,NDEUAEREE,NGKAQ,GHARAE,MBEEKEET,GBAYI",
     "NYIR MKPARAQ MEUN,NTU MBIT,MBEUM,PIRIEEN,NDOMBU,MBAA CABBAGE-TREE,KEUSHEUAEP,GHAP,KEUKAQ",
     "YU MUOMAE,NZEUM,MBUE,NSEUAEN,MBIT,YEUQ,KPARAQ,KAA,SEUX,NDIDA,TAASHAE,NJUEQ,TITA YUE,SUAET",
     "NGGUAEN NYAM,VEUX,NANSANAQ,MA KEUAERI,NTAA,NGGUON,LAP,MBIRIEEN,MGBASAQ,NTEUNGBA,TEUTEUX",
     "NGGUM,FUE,NDEUT,NSA,NSHAQ,BUNG,VEUAEPEN,MBERAE,RU,NJAEM,LAM,TITUAEP,NSUOT NGOM,NJEEEE,KET",
     "NGGU,MAESI,MBUAEM,LU,KUT,NJAM,NGOM,WUP,NGGUEET,NSOM,NTEN,KUOP NKAARAE,NSUN,NDAM,MA NSIEE",
     "YAA,NDAP,SHUEQ,SETFON,MBI,MAEMBA,MBANYI,KEUSEUX,MBEUX,KEUM,MBAA PICKET,YUWOQ,NJEUX,MIEE",
     "MUAE,SHIQ,KEN LAW,KEN FATIGUE,NGAQ,NAQ,LIQ,PIN,PEN,TET"]⟩,
   ⟨0x168f1, "BAMUM LETTER PHASE-D ",
    ["MBUO,WAP,NJI,MFON,NJIEE,LIEE,NJEUT,NSHEE,NGGAAMAE,NYAM,WUAEN,NGKUN,SHEE,NGKAP,KEUAETMEUN",
     "TEUT,SHEUAE,NJAP,SUE,KET,YAEMMAE,KUOM,SAP,MFEUT,NDEUX,MALEERI,MEUT,SEUAEQ,YEN,NJEUAEM",
     "KEUOT MBUAE,NGKEURI,TU,GHAA,NGKYEE,FEUFEUAET,NDEE,MGBOFUM,LEUAEP,NDON,MONI,MGBEUN,PUUT",
     "MGBIEE,MFO,LUM,NSIEEP,MBAA,KWAET,NYET,TEUAEN,SOT,YUWOQ,KEUM,RAEM,TEEEE,NGKEUAEQ,MFEUAE",
     "NSIEET,KEUP,PIP,PEUTAE,NYUE,LET,NGGAAM,MFIEE,NGGWAEN,YUOM,PAP,YUOP,NDAM,NTEUM,SUAE,KUN",
     "NGGEUX,NGKIEE,TUOT,MEUN,KUQ,NSUM,TEUN,MAENJET,NGGAP,LEUM,NGGUOM,NSHUT,NJUEQ,GHEUAE,KU",
     "REN OLD,TAE,TOQ,NYI,RII,LEEEE,MEEEE,M,SUU,MU,SHII,SHEUX,KYEE,NU,SHU,NTEE,PEE,NI,SHOQ,PUQ",
     "MVOP,LOQ,REN MUCH,TI,NTUU,MBAA SEVEN,SAQ,FAA"]⟩,
   ⟨0x16966, "BAMUM LETTER PHASE-E ",
    ["NDAP,TOON,MBEUM,LAP,VOM,LOON,PAA,SOM,RAQ,NSHUOP,NDUN,PUAE,TAM,NGKA,KPEUX,WUO,SEE,NGGEUAET",
     "PAAM,TOO,KUOP,LOM,NSHIEE,NGOP,MAEM,NGKEUX,NGOQ,NSHUE,RIMGBA,NJEUX,PEEM,SAA,NGGURAE,MGBA",
     "GHEUX,NGKEUAEM,NJAEMLI,MAP,LOOT,NGGEEEE,NDIQ,TAEN NTEUM,SET,PUM,NDAA SOFTNESS",
     "NGGUAESHAE NYAM,YIEE,GHEUN,TUAE,YEUAE,PO,TUMAE,KEUAE,SUAEN,TEUAEQ,VEUAE,WEUX,LAAM,PU,TAAQ",
     "GHAAMAE,NGEUREUT,SHEUAEQ,MGBEN,MBEE,NZAQ,NKOM,GBET,TUM,KUET,YAP,NYI CLEAVER,YIT,MFEUQ",
     "NDIAQ,PIEEQ,YUEQ,LEUAEM,FUE,GBEUX,NGKUP,KET,MAE,NGKAAMI,GHET,FA,NTUM,PEUT,YEUM,NGGEUAE",
     "NYI BETWEEN,NZUQ,POON,MIEE,FUET,NAE,MUAE,GHEUAE,FU I,MVI,PUAQ,NGKUM,KUT,PIET,NTAP,YEUAET",
     "NGGUP,PA PEOPLE,FU CALL,FOM,NJEE,A,TOQ,O,I,LAQ,PA PLURAL,TAA,TAQ,NDAA MY HOUSE,SHIQ,YEUX",
     "NGUAE,YUAEN,YOQ SWIMMING,YOQ COVER,YUQ,YUN,KEUX,PEUX,NJEE EPOCH,PUE,WUE,FEE,VEE,LU,MI,REUX",
     "RAE,NGUAET,NGA,SHO,SHOQ,FU REMEDY,NA,PI,LOQ,KO,MEN,MA,MAQ,TEU,KI,MON,TEN,FAQ,GHOM"]⟩,
   ⟨0x16a03, "BAMUM LETTER PHASE-F ",
    ["KA,U,KU,EE,REE,TAE,NYI,LA,RII,RIEE,MEEEE,TAA,NDAA,NJAEM,M,SUU,SHII,SI,SEUX,KYEE,KET,NUAE",
     "NU,NJUAE,YOQ,SHU,YA,NSHA,PEUX,NTEE,WUE,PEE,RU,NI,REUX,KEN,NGKWAEN,NGGA,SHO,PUAE,FOM,WA,LI",
     "LOQ,KO,MBEN,REN,MA,MO,MBAA,TET,KPA,SAMBA,VUEQ"]⟩,
   ⟨0x16a40, "MRO LETTER ",
    ["TA,NGI,YO,MIM,BA,DA,A,PHI,KHAI,HAO,DAI,CHU,KEAAE,OL,MAEM,NIN,PA,OO,O,RO,SHI,THEA,EA,WA,E",
     "KO,LAN,LA,HAI,RI,TEK"]⟩,
   ⟨0x16a60, "MRO DIGIT ", ["ZERO,ONE,TWO,THREE,FOUR,FIVE,SIX,SEVEN,EIGHT,NINE"]⟩,
   ⟨0x16a6e, "MRO ", ["DANDA,DOUBLE DANDA"]⟩,
   ⟨0x16a70, "TANGSA LETTER ",
    ["OZ,OC,OQ,OX,AZ,AC,AQ,AX,VZ,VC,VQ,VX,EZ,EC,EQ,EX,IZ,IC,IQ,IX,UZ,UC,UQ,UX,AWZ,AWC,AWQ,AWX",
     "UIZ,UIC,UIQ,UIX,FINAL NG,LONG UEX,SHORT UEZ,SHORT AWX,UEC,UEZ,UEQ,UEX,UIUZ,UIUC,UIUQ,UIUX",
     "MZ,MC,MQ,MX,KA,KHA,GA,NGA,SA,YA,WA,PA,NYA,PHA,BA,MA,NA,HA,LA,HTA,TA,DA,RA,NHA,SHA,CA,TSA",
     "GHA,HTTA,THA,XA,FA,DHA,CHA,ZA"]⟩,
   ⟨0x16ac0, "TANGSA DIGIT ", ["ZERO,ONE,TWO,THREE,FOUR,FIVE,SIX,SEVEN,EIGHT,NINE"]⟩,
   ⟨0x16ad0, "BASSA VAH LETTER ",
    ["ENNI,KA,SE,FA,MBE,YIE,GAH,DHII,KPAH,JO,HWAH,WA,ZO,GBU,DO,CE,UWU,TO,BA,VU,YEIN,PA,WADDA,A,O",
     "OO,U,EE,E,I"]⟩,
   ⟨0x16af0, "BASSA VAH COMBINING ", ["HIGH TONE,LOW TONE,MID TONE,LOW-MID TONE,HIGH-LOW TONE"]⟩,
   ⟨0x16af5, "BASSA VAH FULL ", ["STOP"]⟩,
   ⟨0x16b00, "PAHAWH HMONG VOWEL ",
    ["KEEB,KEEV,KIB,KIV,KAUB,KAUV,KUB,KUV,KEB,KEV,KAIB,KAIV,KOOB,KOOV,KAWB,KAWV,KUAB,KUAV,KOB",
     "KOV,KIAB,KIAV,KAB,KAV,KWB,KWV,KAAB,KAAV"]⟩,
   ⟨0x16b1c, "PAHAWH HMONG CONSONANT ",
    ["VAU,NTSAU,LAU,HAU,NLAU,RAU,NKAU,QHAU,YAU,HLAU,MAU,CHAU,NCHAU,HNAU,PLHAU,NTHAU,NAU,AU,XAU",
     "CAU"]⟩,
   ⟨0x16b30, "PAHAWH HMONG MARK CIM ", ["TUB,SO,KES,KHAV,SUAM,HOM,TAUM"]⟩,
   ⟨0x16b37, "PAHAWH HMONG SIGN ",
    ["VOS THOM,VOS TSHAB CEEB,CIM CHEEM,VOS THIAB,VOS FEEM,XYEEM NTXIV,XYEEM RHO,XYEEM TOV",
     "XYEEM FAIB,VOS SEEV,MEEJ SUAB,VOS NRUA,IB YAM,XAUS,CIM TSOV ROG"]⟩,
   ⟨0x16b50, "PAHAWH HMONG DIGIT ", ["ZERO,ONE,TWO,THREE,FOUR,FIVE,SIX,SEVEN,EIGHT,NINE"]⟩,
   ⟨0x16b5b, "PAHAWH HMONG NUMBER ",
    ["TENS,HUNDREDS,TEN THOUSANDS,MILLIONS,HUNDRED MILLIONS,TEN BILLIONS,TRILLIONS"]⟩,
   ⟨0x16b63, "PAHAWH HMONG SIGN ",
    ["VOS LUB,XYOO,HLI,THIRD-STAGE HLI,ZWJ THAJ,HNUB,NQIG,XIAB,NTUJ,AV,TXHEEJ CEEV,MEEJ TSEEB",
     "TAU,LOS,MUS,CIM HAIS LUS NTOG NTOG,CIM CUAM TSHOOJ,CIM TXWV,CIM TXWV CHWV,CIM PUB DAWB",
     "CIM NRES TOS"]⟩,
   ⟨0x16b7d, "PAHAWH HMONG CLAN SIGN ",
    ["TSHEEJ,YEEG,LIS,LAUJ,XYOOJ,KOO,HAWJ,MUAS,THOJ,TSAB,PHAB,KHAB,HAM,VAJ,FAJ,YAJ,TSWB,KWM,VWJ"]⟩,
   ⟨0x16e40, "MEDEFAIDRIN CAPITAL LETTER ",
    ["M,S,V,W,ATIU,Z,KP,P,T,G,F,I,K,A,J,E,B,C,U,YU,L,Q,HP,NY,X,D,OE,N,R,O,AI,Y"]⟩,
   ⟨0x16e60, "MEDEFAIDRIN SMALL LETTER ",
    ["M,S,V,W,ATIU,Z,KP,P,T,G,F,I,K,A,J,E,B,C,U,YU,L,Q,HP,NY,X,D,OE,N,R,O,AI,Y"]⟩,
   ⟨0x16e80, "MEDEFAIDRIN DIGIT ", ["ZERO,ONE,TWO,THREE,FOUR,FIVE,SIX,SEVEN,EIGHT,NINE"]⟩,
   ⟨0x16e8a, "MEDEFAIDRIN NUMBER ",
    ["TEN,ELEVEN,TWELVE,THIRTEEN,FOURTEEN,FIFTEEN,SIXTEEN,SEVENTEEN,EIGHTEEN,NINETEEN"]⟩,
   ⟨0x16e94, "MEDEFAIDRIN ",
    ["DIGIT ONE ALTERNATE FORM,DIGIT TWO ALTERNATE FORM,DIGIT THREE ALTERNATE FORM,COMMA",
     "FULL STOP,SYMBOL AIVA,EXCLAMATION OH"]⟩,
   ⟨0x16f00, "MIAO LETTER ",
    ["PA,BA,YI PA,PLA,MA,MHA,ARCHAIC MA,FA,VA,VFA,TA,DA,YI TTA,YI TA,TTA,DDA,NA,NHA,YI NNA",
     "ARCHAIC NA,NNA,NNHA,LA,LYA,LHA,LHYA,TLHA,DLHA,TLHYA,DLHYA,KA,GA,YI KA,QA,QGA,NGA,NGHA",
     "ARCHAIC NGA,HA,XA,GHA,GHHA,TSSA,DZZA,NYA,NYHA,TSHA,DZHA,YI TSHA,YI DZHA,REFORMED TSHA,SHA",
     "SSA,ZHA,ZSHA,TSA,DZA,YI TSA,SA,ZA,ZSA,ZZA,ZZSA,ARCHAIC ZZA,ZZYA,ZZSYA,WA,AH,HHA,BRI,SYI",
     "DZYI,TE,TSE,RTE"]⟩,
   ⟨0x16f4f, "MIAO ",
    ["SIGN CONSONANT MODIFIER BAR,LETTER NASALIZATION,SIGN ASPIRATION,SIGN REFORMED VOICING",
     "SIGN REFORMED ASPIRATION"]⟩,
   ⟨0x16f54, "MIAO VOWEL SIGN ",
    ["A,AA,AHH,AN,ANG,O,OO,WO,W,E,EN,ENG,OEY,I,IA,IAN,IANG,IO,IE,II,IU,ING,U,UA,UAN,UANG,UU,UEI",
     "UNG,Y,YI,AE,AEE,ERR,ROUNDED ERR,ER,ROUNDED ER,AI,EI,AU,OU,N,NG,UOG,YUI,OG,OER,VW,IG,EA",
     "IONG,UI"]⟩,
   ⟨0x16f8f, "MIAO TONE ", ["RIGHT,TOP RIGHT,ABOVE,BELOW"]⟩,
   ⟨0x16f93, "MIAO LETTER TONE-", ["2,3,4,5,6,7,8"]⟩,
   ⟨0x16f9a, "MIAO LETTER REFORMED TONE-", ["1,2,4,5,6,8"]⟩,
   ⟨0x16fe0, "",
    ["TANGUT ITERATION MARK,NUSHU ITERATION MARK,OLD CHINESE HOOK MARK",
     "OLD CHINESE ITERATION MARK,KHITAN SMALL SCRIPT FILLER"]⟩,
   ⟨0x16ff0, "VIETNAMESE ALTERNATE READING MARK ", ["CA,NHAY"]⟩,
   ⟨0x18800, "TANGUT COMPONENT-",
    ["001,002,003,004,005,006,007,008,009,010,011,012,013,014,015,016,017,018,019,020,021,022",
     "023,024,025,026,027,028,029,030,031,032,033,034,035,036,037,038,039,040,041,042,043,044",
     "045,046,047,048,049,050,051,052,053,054,055,056,057,058,059,060,061,062,063,064,065,066",
     "067,068,069,070,071,072,073,074,075,076,077,078,079,080,081,082,083,084,085,086,087,088",
     "089,090,091,092,093,094,095,096,097,098,099,100,101,102,103,104,105,106,107,108,109,110",
     "111,112,113,114,115,116,117,118,119,120,121,122,123,124,125,126,127,128,129,130,131,132",
     "133,134,135,136,137,138,139,140,141,142,143,144,145,146,147,148,149,150,151,152,153,154",
     "155,156,157,158,159,160,161,162,163,164,165,166,167,168"]⟩,
   ⟨0x188a8, "TANGUT COMPONENT-",
    ["169,170,171,172,173,174,175,176,177,178,179,180,181,182,183,184,185,186,187,188,189,190",
     "191,192,193,194,195,196,197,198,199,200,201,202,203,204,205,206,207,208,209,210,211,212",
     "213,214,215,216,217,218,219,220,221,222,223,224,225,226,227,228,229,230,231,232,233,234",
     "235,236,237,238,239,240,241,242,243,244,245,246,247,248,249,250,251,252,253,254,255,256",
     "257,258,259,260,261,262,263,264,265,266,267,268,269,270,271,272,273,274,275,276,277,278",
     "279,280,281,282,283,284,285,286,287,288,289,290,291,292,293,294,295,296,297,298,299,300",
     "301,302,303,304,305,306,307,308,309,310,311,312,313,314,315,316,317,318,319,320,321,322",
     "323,324,325,326,327,328,329,330,331,332,333,334,335,336,337,338,339,340,341,342,343,344",
     "345,346,347,348,349,350,351,352,353,354,355,356,357,358,359,360,361,362,363,364,365,366",
     "367,368,369,370,371,372,373,374,375,376,377,378,379,380,381,382,383,384,385,386,387,388",
     "389,390,391,392,393,394,395,396,397,398,399,400,401,402,403,404,405,406,407,408,409,410",
     "411,412,413,414,415,416,417,418,419,420,421,422,423,424,425,426,427,428,429,430,431,432",
     "433,434,435,436,437,438,439,440,441,442,443,444,445,446,447,448,449,450,451,452,453,454",
     "455,456,457,458,459,460,461,462,463,464,465,466,467,468,469,470,471,472,473,474,475,476",
     "477,478,479,480,481,482,483,484,485,486,487,488,489,490,491,492,493,494,495,496,497,498",
     "499,500,501,502,503,504,505,506,507,508,509,510,511,512,513,514,515,516,517,518,519,520",
     "521,522,523,524,525,526,527,528,529,530,531,532,533,534,535,536,537,538,539,540,541,542",
     "543,544,545,546,547,548,549,550,551,552,553,554,555,556,557,558,559,560,561,562,563,564",
     "565,566,567,568,569,570,571,572,573,574,575,576,577,578,579,580,581,582,583,584,585,586",
     "587,588,589,590,591,592,593,594,595,596,597,598,599,600,601,602,603,604,605,606,607,608",
     "609,610,611,612,613,614,615,616,617,618,619,620,621,622,623,624,625,626,627,628,629,630",
     "631,632,633,634,635,636,637,638,639,640,641,642,643,644,645,646,647,648,649,650,651,652",
     "653,654,655,656,657,658,659,660,661,662,663,664,665,666,667,668,669,670,671,672,673,674",
     "675,676,677,678,679,680,681,682,683,684,685,686,687,688,689,690,691,692,693,694,695,696",
     "697,698,699,700,701,702,703,704,705,706,707,708,709,710,711,712,713,714,715,716,717,718",
     "719,720,721,722,723,724,725,726,727,728,729,730,731,732,733,734,735,736,737,738,739,740",
     "741,742,743,744,745,746,747,748,749,750,751,752,753,754,755,756,757,758,759,760,761,762",
     "763,764,765,766,767,768"]⟩,
   ⟨0x18b00, "KHITAN SMALL SCRIPT CHARACTER-",
    ["18B00,18B01,18B02,18B03,18B04,18B05,18B06,18B07,18B08,18B09,18B0A,18B0B,18B0C,18B0D,18B0E",
     "18B0F,18B10,18B11,18B12,18B13,18B14,18B15,18B16,18B17,18B18,18B19,18B1A,18B1B,18B1C,18B1D",
     "18B1E,18B1F,18B20,18B21,18B22,18B23,18B24,18B25,18B26,18B27,18B28,18B29,18B2A,18B2B,18B2C",
     "18B2D,18B2E,18B2F,18B30,18B31,18B32,18B33,18B34,18B35,18B36,18B37,18B38,18B39,18B3A,18B3B",
     "18B3C,18B3D,18B3E,18B3F,18B40,18B41,18B42,18B43,18B44,18B45,18B46,18B47,18B48,18B49,18B4A",
     "18B4B,18B4C,18B4D,18B4E,18B4F,18B50,18B51,18B52,18B53,18B54,18B55,18B56,18B57,18B58,18B59",
     "18B5A,18B5B,18B5C,18B5D,18B5E,18B5F,18B60,18B61,18B62,18B63,18B64,18B65,18B66,18B67,18B68",
     "18B69,18B6A,18B6B,18B6C,18B6D,18B6E,18B6F,18B70,18B71,18B72,18B73,18B74,18B75,18B76,18B77",
     "18B78,18B79,18B7A,18B7B,18B7C,18B7D,18B7E,18B7F,18B80,18B81,18B82,18B83,18B84,18B85,18B86",
     "18B87,18B88,18B89,18B8A,18B8B,18B8C,18B8D,18B8E,18B8F,18B90,18B91,18B92,18B93,18B94,18B95",
     "18B96,18B97,18B98,18B99,18B9A,18B9B,18B9C,18B9D,18B9E,18B9F,18BA0,18BA1,18BA2,18BA3,18BA4",
     "18BA5,18BA6,18BA7,18BA8,18BA9,18BAA,18BAB,18BAC,18BAD,18BAE,18BAF,18BB0,18BB1,18BB2,18BB3",
     "18BB4,18BB5,18BB6,18BB7,18BB8,18BB9,18BBA,18BBB,18BBC,18BBD,18BBE,18BBF,18BC0,18BC1,18BC2",
     "18BC3,18BC4,18BC5,18BC6,18BC7,18BC8,18BC9,18BCA,18BCB,18BCC,18BCD,18BCE,18BCF,18BD0,18BD1",
     "18BD2,18BD3,18BD4,18BD5,18BD6,18BD7,18BD8,18BD9,18BDA,18BDB,18BDC,18BDD,18BDE,18BDF,18BE0",
     "18BE1,18BE2,18BE3,18BE4,18BE5,18BE6,18BE7,18BE8,18BE9,18BEA,18BEB,18BEC,18BED,18BEE,18BEF",
     "18BF0,18BF1,18BF2,18BF3,18BF4,18BF5,18BF6,18BF7,18BF8,18BF9,18BFA,18BFB,18BFC,18BFD,18BFE",
     "18BFF,18C00,18C01,18C02,18C03,18C04,18C05,18C06,18C07,18C08,18C09,18C0A,18C0B,18C0C,18C0D",
     "18C0E,18C0F,18C10,18C11,18C12,18C13,18C14,18C15,18C16,18C17,18C18,18C19,18C1A,18C1B,18C1C",
     "18C1D,18C1E,18C1F,18C20,18C21,18C22,18C23,18C24,18C25,18C26,18C27,18C28,18C29,18C2A,18C2B",
     "18C2C,18C2D,18C2E,18C2F,18C30,18C31,18C32,18C33,18C34,18C35,18C36,18C37,18C38,18C39,18C3A",
     "18C3B,18C3C,18C3D,18C3E,18C3F,18C40,18C41,18C42,18C43,18C44,18C45,18C46,18C47,18C48,18C49",
     "18C4A,18C4B,18C4C,18C4D,18C4E,18C4F,18C50,18C51,18C52,18C53,18C54,18C55,18C56,18C57,18C58",
     "18C59,18C5A,18C5B,18C5C,18C5D,18C5E,18C5F,18C60,18C61,18C62,18C63,18C64,18C65,18C66,18C67",
     "18C68,18C69,18C6A,18C6B,18C6C,18C6D,18C6E,18C6F,18C70,18C71,18C72,18C73,18C74,18C75,18C76",
     "18C77,18C78,18C79,18C7A,18C7B,18C7C,18C7D,18C7E,18C7F,18C80,18C81,18C82,18C83,18C84,18C85",
     "18C86,18C87,18C88,18C89,18C8A,18C8B,18C8C,18C8D,18C8E,18C8F,18C90,18C91,18C92,18C93,18C94",
     "18C95,18C96,18C97,18C98,18C99,18C9A,18C9B,18C9C,18C9D,18C9E,18C9F,18CA0,18CA1,18CA2,18CA3",
     "18CA4,18CA5,18CA6,18CA7,18CA8,18CA9,18CAA,18CAB,18CAC,18CAD,18CAE,18CAF,18CB0,18CB1,18CB2",
     "18CB3,18CB4,18CB5,18CB6,18CB7,18CB8,18CB9,18CBA,18CBB,18CBC,18CBD,18CBE,18CBF,18CC0,18CC1",
     "18CC2,18CC3,18CC4,18CC5,18CC6,18CC7,18CC8,18CC9,18CCA,18CCB,18CCC,18CCD,18CCE,18CCF,18CD0",
     "18CD1,18CD2,18CD3,18CD4,18CD5"]⟩,
   ⟨0x1aff0, "KATAKANA LETTER MINNAN TONE-", ["2,3,4,5"]⟩,
   ⟨0x1aff5, "KATAKANA LETTER MINNAN TONE-", ["7,8"]⟩,
   ⟨0x1aff7, "KATAKANA LETTER MINNAN NASALIZED TONE-", ["1,2,3,4,5"]⟩,
   ⟨0x1affd, "KATAKANA LETTER MINNAN NASALIZED TONE-", ["7,8"]⟩]

end LabelTally.Text
