import LabelTally.Text.Name.Run

/-!
# Names from U+0900 to U+0DF4

Scripts of India and its neighbours.
-/

namespace LabelTally.Text

/-- The names of these characters. -/
def indiaNames : List NameRun :=
  [⟨0x0900, "DEVANAGARI SIGN ", ["INVERTED CANDRABINDU,CANDRABINDU,ANUSVARA,VISARGA"]⟩,
   ⟨0x0904, "DEVANAGARI LETTER ",
    ["SHORT A,A,AA,I,II,U,UU,VOCALIC R,VOCALIC L,CANDRA E,SHORT E,E,AI,CANDRA O,SHORT O,O,AU,KA",
     "KHA,GA,GHA,NGA,CA,CHA,JA,JHA,NYA,TTA,TTHA,DDA,DDHA,NNA,TA,THA,DA,DHA,NA,NNNA,PA,PHA,BA,BHA",
     "MA,YA,RA,RRA,LA,LLA,LLLA,VA,SHA,SSA,SA,HA"]⟩,
   ⟨0x093a, "DEVANAGARI ", ["VOWEL SIGN OE,VOWEL SIGN OOE,SIGN NUKTA,SIGN AVAGRAHA"]⟩,
   ⟨0x093e, "DEVANAGARI VOWEL SIGN ",
    ["AA,I,II,U,UU,VOCALIC R,VOCALIC RR,CANDRA E,SHORT E,E,AI,CANDRA O,SHORT O,O,AU"]⟩,
   ⟨0x094d, "DEVANAGARI ",
    ["SIGN VIRAMA,VOWEL SIGN PRISHTHAMATRA E,VOWEL SIGN AW,OM,STRESS SIGN UDATTA",
     "STRESS SIGN ANUDATTA,GRAVE ACCENT,ACUTE ACCENT,VOWEL SIGN CANDRA LONG E,VOWEL SIGN UE",
     "VOWEL SIGN UUE,LETTER QA,LETTER KHHA,LETTER GHHA,LETTER ZA,LETTER DDDHA,LETTER RHA",
     "LETTER FA,LETTER YYA,LETTER VOCALIC RR,LETTER VOCALIC LL,VOWEL SIGN VOCALIC L",
     "VOWEL SIGN VOCALIC LL,DANDA,DOUBLE DANDA,DIGIT ZERO,DIGIT ONE,DIGIT TWO,DIGIT THREE",
     "DIGIT FOUR,DIGIT FIVE,DIGIT SIX,DIGIT SEVEN,DIGIT EIGHT,DIGIT NINE,ABBREVIATION SIGN",
     "SIGN HIGH SPACING DOT"]⟩,
   ⟨0x0972, "DEVANAGARI LETTER ",
    ["CANDRA A,OE,OOE,AW,UE,UUE,MARWARI DDA,ZHA,HEAVY YA,GGA,JJA,GLOTTAL STOP,DDDA,BBA"]⟩,
   ⟨0x0980, "BENGALI ", ["ANJI,SIGN CANDRABINDU,SIGN ANUSVARA,SIGN VISARGA"]⟩,
   ⟨0x0985, "BENGALI LETTER ", ["A,AA,I,II,U,UU,VOCALIC R,VOCALIC L"]⟩,
   ⟨0x098f, "BENGALI LETTER ", ["E,AI"]⟩,
   ⟨0x0993, "BENGALI LETTER ",
    ["O,AU,KA,KHA,GA,GHA,NGA,CA,CHA,JA,JHA,NYA,TTA,TTHA,DDA,DDHA,NNA,TA,THA,DA,DHA,NA"]⟩,
   ⟨0x09aa, "BENGALI LETTER ", ["PA,PHA,BA,BHA,MA,YA,RA"]⟩,
   ⟨0x09b2, "BENGALI LETTER ", ["LA"]⟩,
   ⟨0x09b6, "BENGALI LETTER ", ["SHA,SSA,SA,HA"]⟩,
   ⟨0x09bc, "BENGALI SIGN ", ["NUKTA,AVAGRAHA"]⟩,
   ⟨0x09be, "BENGALI VOWEL SIGN ", ["AA,I,II,U,UU,VOCALIC R,VOCALIC RR"]⟩,
   ⟨0x09c7, "BENGALI VOWEL SIGN ", ["E,AI"]⟩,
   ⟨0x09cb, "BENGALI ", ["VOWEL SIGN O,VOWEL SIGN AU,SIGN VIRAMA,LETTER KHANDA TA"]⟩,
   ⟨0x09d7, "BENGALI AU LENGTH ", ["MARK"]⟩,
   ⟨0x09dc, "BENGALI LETTER ", ["RRA,RHA"]⟩,
   ⟨0x09df, "BENGALI LETTER ", ["YYA,VOCALIC RR,VOCALIC LL"]⟩,
   ⟨0x09e2, "BENGALI VOWEL SIGN VOCALIC ", ["L,LL"]⟩,
   ⟨0x09e6, "BENGALI DIGIT ", ["ZERO,ONE,TWO,THREE,FOUR,FIVE,SIX,SEVEN,EIGHT,NINE"]⟩,
   ⟨0x09f0, "BENGALI ",
    ["LETTER RA WITH MIDDLE DIAGONAL,LETTER RA WITH LOWER DIAGONAL,RUPEE MARK,RUPEE SIGN"]⟩,
   ⟨0x09f4, "BENGALI CURRENCY NUMERATOR ", ["ONE,TWO,THREE,FOUR,ONE LESS THAN THE DENOMINATOR"]⟩,
   ⟨0x09f9, "BENGALI ",
    ["CURRENCY DENOMINATOR SIXTEEN,ISSHAR,GANDA MARK,LETTER VEDIC ANUSVARA,ABBREVIATION SIGN",
     "SANDHI MARK"]⟩,
   ⟨0x0a01, "GURMUKHI SIGN ", ["ADAK BINDI,BINDI,VISARGA"]⟩,
   ⟨0x0a05, "GURMUKHI LETTER ", ["A,AA,I,II,U,UU"]⟩,
   ⟨0x0a0f, "GURMUKHI LETTER ", ["EE,AI"]⟩,
   ⟨0x0a13, "GURMUKHI LETTER ",
    ["OO,AU,KA,KHA,GA,GHA,NGA,CA,CHA,JA,JHA,NYA,TTA,TTHA,DDA,DDHA,NNA,TA,THA,DA,DHA,NA"]⟩,
   ⟨0x0a2a, "GURMUKHI LETTER ", ["PA,PHA,BA,BHA,MA,YA,RA"]⟩,
   ⟨0x0a32, "GURMUKHI LETTER ", ["LA,LLA"]⟩,
   ⟨0x0a35, "GURMUKHI LETTER ", ["VA,SHA"]⟩,
   ⟨0x0a38, "GURMUKHI LETTER ", ["SA,HA"]⟩,
   ⟨0x0a3c, "GURMUKHI SIGN ", ["NUKTA"]⟩,
   ⟨0x0a3e, "GURMUKHI VOWEL SIGN ", ["AA,I,II,U,UU"]⟩,
   ⟨0x0a47, "GURMUKHI VOWEL SIGN ", ["EE,AI"]⟩,
   ⟨0x0a4b, "GURMUKHI ", ["VOWEL SIGN OO,VOWEL SIGN AU,SIGN VIRAMA"]⟩,
   ⟨0x0a51, "GURMUKHI SIGN ", ["UDAAT"]⟩,
   ⟨0x0a59, "GURMUKHI LETTER ", ["KHHA,GHHA,ZA,RRA"]⟩,
   ⟨0x0a5e, "GURMUKHI LETTER ", ["FA"]⟩,
   ⟨0x0a66, "GURMUKHI DIGIT ", ["ZERO,ONE,TWO,THREE,FOUR,FIVE,SIX,SEVEN,EIGHT,NINE"]⟩,
   ⟨0x0a70, "GURMUKHI ", ["TIPPI,ADDAK,IRI,URA,EK ONKAR,SIGN YAKASH,ABBREVIATION SIGN"]⟩,
   ⟨0x0a81, "GUJARATI SIGN ", ["CANDRABINDU,ANUSVARA,VISARGA"]⟩,
   ⟨0x0a85, "GUJARATI LETTER ", ["A,AA,I,II,U,UU,VOCALIC R,VOCALIC L"]⟩,
   ⟨0x0a8d, "GUJARATI VOWEL CANDRA ", ["E"]⟩,
   ⟨0x0a8f, "GUJARATI ", ["LETTER E,LETTER AI,VOWEL CANDRA O"]⟩,
   ⟨0x0a93, "GUJARATI LETTER ",
    ["O,AU,KA,KHA,GA,GHA,NGA,CA,CHA,JA,JHA,NYA,TTA,TTHA,DDA,DDHA,NNA,TA,THA,DA,DHA,NA"]⟩,
   ⟨0x0aaa, "GUJARATI LETTER ", ["PA,PHA,BA,BHA,MA,YA,RA"]⟩,
   ⟨0x0ab2, "GUJARATI LETTER ", ["LA,LLA"]⟩,
   ⟨0x0ab5, "GUJARATI LETTER ", ["VA,SHA,SSA,SA,HA"]⟩,
   ⟨0x0abc, "GUJARATI SIGN ", ["NUKTA,AVAGRAHA"]⟩,
   ⟨0x0abe, "GUJARATI VOWEL SIGN ", ["AA,I,II,U,UU,VOCALIC R,VOCALIC RR,CANDRA E"]⟩,
   ⟨0x0ac7, "GUJARATI VOWEL SIGN ", ["E,AI,CANDRA O"]⟩,
   ⟨0x0acb, "GUJARATI ", ["VOWEL SIGN O,VOWEL SIGN AU,SIGN VIRAMA"]⟩,
   ⟨0x0ad0, "GUJARATI ", ["OM"]⟩,
   ⟨0x0ae0, "GUJARATI LETTER VOCALIC ", ["RR,LL"]⟩,
   ⟨0x0ae2, "GUJARATI VOWEL SIGN VOCALIC ", ["L,LL"]⟩,
   ⟨0x0ae6, "GUJARATI DIGIT ", ["ZERO,ONE,TWO,THREE,FOUR,FIVE,SIX,SEVEN,EIGHT,NINE"]⟩,
   ⟨0x0af0, "GUJARATI ", ["ABBREVIATION SIGN,RUPEE SIGN"]⟩,
   ⟨0x0af9, "GUJARATI ",
    ["LETTER ZHA,SIGN SUKUN,SIGN SHADDA,SIGN MADDAH,SIGN THREE-DOT NUKTA ABOVE",
     "SIGN CIRCLE NUKTA ABOVE,SIGN TWO-CIRCLE NUKTA ABOVE"]⟩,
   ⟨0x0b01, "ORIYA SIGN ", ["CANDRABINDU,ANUSVARA,VISARGA"]⟩,
   ⟨0x0b05, "ORIYA LETTER ", ["A,AA,I,II,U,UU,VOCALIC R,VOCALIC L"]⟩,
   ⟨0x0b0f, "ORIYA LETTER ", ["E,AI"]⟩,
   ⟨0x0b13, "ORIYA LETTER ",
    ["O,AU,KA,KHA,GA,GHA,NGA,CA,CHA,JA,JHA,NYA,TTA,TTHA,DDA,DDHA,NNA,TA,THA,DA,DHA,NA"]⟩,
   ⟨0x0b2a, "ORIYA LETTER ", ["PA,PHA,BA,BHA,MA,YA,RA"]⟩,
   ⟨0x0b32, "ORIYA LETTER ", ["LA,LLA"]⟩,
   ⟨0x0b35, "ORIYA LETTER ", ["VA,SHA,SSA,SA,HA"]⟩,
   ⟨0x0b3c, "ORIYA SIGN ", ["NUKTA,AVAGRAHA"]⟩,
   ⟨0x0b3e, "ORIYA VOWEL SIGN ", ["AA,I,II,U,UU,VOCALIC R,VOCALIC RR"]⟩,
   ⟨0x0b47, "ORIYA VOWEL SIGN ", ["E,AI"]⟩,
   ⟨0x0b4b, "ORIYA ", ["VOWEL SIGN O,VOWEL SIGN AU,SIGN VIRAMA"]⟩,
   ⟨0x0b55, "ORIYA ", ["SIGN OVERLINE,AI LENGTH MARK,AU LENGTH MARK"]⟩,
   ⟨0x0b5c, "ORIYA LETTER ", ["RRA,RHA"]⟩,
   ⟨0x0b5f, "ORIYA LETTER ", ["YYA,VOCALIC RR,VOCALIC LL"]⟩,
   ⟨0x0b62, "ORIYA VOWEL SIGN VOCALIC ", ["L,LL"]⟩,
   ⟨0x0b66, "ORIYA DIGIT ", ["ZERO,ONE,TWO,THREE,FOUR,FIVE,SIX,SEVEN,EIGHT,NINE"]⟩,
   ⟨0x0b70, "ORIYA ", ["ISSHAR,LETTER WA"]⟩,
   ⟨0x0b72, "ORIYA FRACTION ",
    ["ONE QUARTER,ONE HALF,THREE QUARTERS,ONE SIXTEENTH,ONE EIGHTH,THREE SIXTEENTHS"]⟩,
   ⟨0x0b82, "TAMIL SIGN ", ["ANUSVARA,VISARGA"]⟩,
   ⟨0x0b85, "TAMIL LETTER ", ["A,AA,I,II,U,UU"]⟩,
   ⟨0x0b8e, "TAMIL LETTER ", ["E,EE,AI"]⟩,
   ⟨0x0b92, "TAMIL LETTER ", ["O,OO,AU,KA"]⟩,
   ⟨0x0b99, "TAMIL LETTER ", ["NGA,CA"]⟩,
   ⟨0x0b9c, "TAMIL LETTER ", ["JA"]⟩,
   ⟨0x0b9e, "TAMIL LETTER ", ["NYA,TTA"]⟩,
   ⟨0x0ba3, "TAMIL LETTER ", ["NNA,TA"]⟩,
   ⟨0x0ba8, "TAMIL LETTER ", ["NA,NNNA,PA"]⟩,
   ⟨0x0bae, "TAMIL LETTER ", ["MA,YA,RA,RRA,LA,LLA,LLLA,VA,SHA,SSA,SA,HA"]⟩,
   ⟨0x0bbe, "TAMIL VOWEL SIGN ", ["AA,I,II,U,UU"]⟩,
   ⟨0x0bc6, "TAMIL VOWEL SIGN ", ["E,EE,AI"]⟩,
   ⟨0x0bca, "TAMIL ", ["VOWEL SIGN O,VOWEL SIGN OO,VOWEL SIGN AU,SIGN VIRAMA"]⟩,
   ⟨0x0bd0, "TAMIL ", ["OM"]⟩,
   ⟨0x0bd7, "TAMIL AU LENGTH ", ["MARK"]⟩,
   ⟨0x0be6, "TAMIL DIGIT ", ["ZERO,ONE,TWO,THREE,FOUR,FIVE,SIX,SEVEN,EIGHT,NINE"]⟩,
   ⟨0x0bf0, "TAMIL ",
    ["NUMBER TEN,NUMBER ONE HUNDRED,NUMBER ONE THOUSAND,DAY SIGN,MONTH SIGN,YEAR SIGN,DEBIT SIGN",
     "CREDIT SIGN,AS ABOVE SIGN,RUPEE SIGN,NUMBER SIGN"]⟩,
   ⟨0x0c00, "TELUGU SIGN ",
    ["COMBINING CANDRABINDU ABOVE,CANDRABINDU,ANUSVARA,VISARGA,COMBINING ANUSVARA ABOVE"]⟩,
   ⟨0x0c05, "TELUGU LETTER ", ["A,AA,I,II,U,UU,VOCALIC R,VOCALIC L"]⟩,
   ⟨0x0c0e, "TELUGU LETTER ", ["E,EE,AI"]⟩,
   ⟨0x0c12, "TELUGU LETTER ",
    ["O,OO,AU,KA,KHA,GA,GHA,NGA,CA,CHA,JA,JHA,NYA,TTA,TTHA,DDA,DDHA,NNA,TA,THA,DA,DHA,NA"]⟩,
   ⟨0x0c2a, "TELUGU LETTER ", ["PA,PHA,BA,BHA,MA,YA,RA,RRA,LA,LLA,LLLA,VA,SHA,SSA,SA,HA"]⟩,
   ⟨0x0c3c, "TELUGU SIGN ", ["NUKTA,AVAGRAHA"]⟩,
   ⟨0x0c3e, "TELUGU VOWEL SIGN ", ["AA,I,II,U,UU,VOCALIC R,VOCALIC RR"]⟩,
   ⟨0x0c46, "TELUGU VOWEL SIGN ", ["E,EE,AI"]⟩,
   ⟨0x0c4a, "TELUGU ", ["VOWEL SIGN O,VOWEL SIGN OO,VOWEL SIGN AU,SIGN VIRAMA"]⟩,
   ⟨0x0c55, "TELUGU ", ["LENGTH MARK,AI LENGTH MARK"]⟩,
   ⟨0x0c58, "TELUGU LETTER ", ["TSA,DZA,RRRA"]⟩,
   ⟨0x0c5d, "TELUGU LETTER NAKAARA ", ["POLLU"]⟩,
   ⟨0x0c60, "TELUGU LETTER VOCALIC ", ["RR,LL"]⟩,
   ⟨0x0c62, "TELUGU VOWEL SIGN VOCALIC ", ["L,LL"]⟩,
   ⟨0x0c66, "TELUGU DIGIT ", ["ZERO,ONE,TWO,THREE,FOUR,FIVE,SIX,SEVEN,EIGHT,NINE"]⟩,
   ⟨0x0c77, "TELUGU SIGN ", ["SIDDHAM"]⟩,
   ⟨0x0c78, "TELUGU FRACTION DIGIT ",
    ["ZERO FOR ODD POWERS OF FOUR,ONE FOR ODD POWERS OF FOUR,TWO FOR ODD POWERS OF FOUR",
     "THREE FOR ODD POWERS OF FOUR,ONE FOR EVEN POWERS OF FOUR,TWO FOR EVEN POWERS OF FOUR",
     "THREE FOR EVEN POWERS OF FOUR"]⟩,
   ⟨0x0c7f, "TELUGU SIGN ", ["TUUMU"]⟩,
   ⟨0x0c80, "KANNADA SIGN ", ["SPACING CANDRABINDU,CANDRABINDU,ANUSVARA,VISARGA,SIDDHAM"]⟩,
   ⟨0x0c85, "KANNADA LETTER ", ["A,AA,I,II,U,UU,VOCALIC R,VOCALIC L"]⟩,
   ⟨0x0c8e, "KANNADA LETTER ", ["E,EE,AI"]⟩,
   ⟨0x0c92, "KANNADA LETTER ",
    ["O,OO,AU,KA,KHA,GA,GHA,NGA,CA,CHA,JA,JHA,NYA,TTA,TTHA,DDA,DDHA,NNA,TA,THA,DA,DHA,NA"]⟩,
   ⟨0x0caa, "KANNADA LETTER ", ["PA,PHA,BA,BHA,MA,YA,RA,RRA,LA,LLA"]⟩,
   ⟨0x0cb5, "KANNADA LETTER ", ["VA,SHA,SSA,SA,HA"]⟩,
   ⟨0x0cbc, "KANNADA SIGN ", ["NUKTA,AVAGRAHA"]⟩,
   ⟨0x0cbe, "KANNADA VOWEL SIGN ", ["AA,I,II,U,UU,VOCALIC R,VOCALIC RR"]⟩,
   ⟨0x0cc6, "KANNADA VOWEL SIGN ", ["E,EE,AI"]⟩,
   ⟨0x0cca, "KANNADA ", ["VOWEL SIGN O,VOWEL SIGN OO,VOWEL SIGN AU,SIGN VIRAMA"]⟩,
   ⟨0x0cd5, "KANNADA ", ["LENGTH MARK,AI LENGTH MARK"]⟩,
   ⟨0x0cdd, "KANNADA LETTER ", ["NAKAARA POLLU,FA"]⟩,
   ⟨0x0ce0, "KANNADA LETTER VOCALIC ", ["RR,LL"]⟩,
   ⟨0x0ce2, "KANNADA VOWEL SIGN VOCALIC ", ["L,LL"]⟩,
   ⟨0x0ce6, "KANNADA DIGIT ", ["ZERO,ONE,TWO,THREE,FOUR,FIVE,SIX,SEVEN,EIGHT,NINE"]⟩,
   ⟨0x0cf1, "KANNADA SIGN ", ["JIHVAMULIYA,UPADHMANIYA"]⟩,
   ⟨0x0d00, "MALAYALAM SIGN ", ["COMBINING ANUSVARA ABOVE,CANDRABINDU,ANUSVARA,VISARGA"]⟩,
   ⟨0x0d04, "MALAYALAM LETTER ", ["VEDIC ANUSVARA,A,AA,I,II,U,UU,VOCALIC R,VOCALIC L"]⟩,
   ⟨0x0d0e, "MALAYALAM LETTER ", ["E,EE,AI"]⟩,
   ⟨0x0d12, "MALAYALAM LETTER ",
    ["O,OO,AU,KA,KHA,GA,GHA,NGA,CA,CHA,JA,JHA,NYA,TTA,TTHA,DDA,DDHA,NNA,TA,THA,DA,DHA,NA,NNNA,PA",
     "PHA,BA,BHA,MA,YA,RA,RRA,LA,LLA,LLLA,VA,SHA,SSA,SA,HA,TTTA"]⟩,
   ⟨0x0d3b, "MALAYALAM SIGN ", ["VERTICAL BAR VIRAMA,CIRCULAR VIRAMA,AVAGRAHA"]⟩,
   ⟨0x0d3e, "MALAYALAM VOWEL SIGN ", ["AA,I,II,U,UU,VOCALIC R,VOCALIC RR"]⟩,
   ⟨0x0d46, "MALAYALAM VOWEL SIGN ", ["E,EE,AI"]⟩,
   ⟨0x0d4a, "MALAYALAM ",
    ["VOWEL SIGN O,VOWEL SIGN OO,VOWEL SIGN AU,SIGN VIRAMA,LETTER DOT REPH,SIGN PARA"]⟩,
   ⟨0x0d54, "MALAYALAM ",
    ["LETTER CHILLU M,LETTER CHILLU Y,LETTER CHILLU LLL,AU LENGTH MARK",
     "FRACTION ONE ONE-HUNDRED-AND-SIXTIETH,FRACTION ONE FORTIETH,FRACTION THREE EIGHTIETHS",
     "FRACTION ONE TWENTIETH,FRACTION ONE TENTH,FRACTION THREE TWENTIETHS,FRACTION ONE FIFTH",
     "LETTER ARCHAIC II,LETTER VOCALIC RR,LETTER VOCALIC LL,VOWEL SIGN VOCALIC L",
     "VOWEL SIGN VOCALIC LL"]⟩,
   ⟨0x0d66, "MALAYALAM DIGIT ", ["ZERO,ONE,TWO,THREE,FOUR,FIVE,SIX,SEVEN,EIGHT,NINE"]⟩,
   ⟨0x0d70, "MALAYALAM ",
    ["NUMBER TEN,NUMBER ONE HUNDRED,NUMBER ONE THOUSAND,FRACTION ONE QUARTER,FRACTION ONE HALF",
     "FRACTION THREE QUARTERS,FRACTION ONE SIXTEENTH,FRACTION ONE EIGHTH",
     "FRACTION THREE SIXTEENTHS,DATE MARK"]⟩,
   ⟨0x0d7a, "MALAYALAM LETTER CHILLU ", ["NN,N,RR,L,LL,K"]⟩,
   ⟨0x0d81, "SINHALA SIGN ", ["CANDRABINDU,ANUSVARAYA,VISARGAYA"]⟩,
   ⟨0x0d85, "SINHALA LETTER ",
    ["AYANNA,AAYANNA,AEYANNA,AEEYANNA,IYANNA,IIYANNA,UYANNA,UUYANNA,IRUYANNA,IRUUYANNA,ILUYANNA",
     "ILUUYANNA,EYANNA,EEYANNA,AIYANNA,OYANNA,OOYANNA,AUYANNA"]⟩,
   ⟨0x0d9a, "SINHALA LETTER ",
    ["ALPAPRAANA KAYANNA,MAHAAPRAANA KAYANNA,ALPAPRAANA GAYANNA,MAHAAPRAANA GAYANNA",
     "KANTAJA NAASIKYAYA,SANYAKA GAYANNA,ALPAPRAANA CAYANNA,MAHAAPRAANA CAYANNA",
     "ALPAPRAANA JAYANNA,MAHAAPRAANA JAYANNA,TAALUJA NAASIKYAYA,TAALUJA SANYOOGA NAAKSIKYAYA",
     "SANYAKA JAYANNA,ALPAPRAANA TTAYANNA,MAHAAPRAANA TTAYANNA,ALPAPRAANA DDAYANNA",
     "MAHAAPRAANA DDAYANNA,MUURDHAJA NAYANNA,SANYAKA DDAYANNA,ALPAPRAANA TAYANNA",
     "MAHAAPRAANA TAYANNA,ALPAPRAANA DAYANNA,MAHAAPRAANA DAYANNA,DANTAJA NAYANNA"]⟩,
   ⟨0x0db3, "SINHALA LETTER ",
    ["SANYAKA DAYANNA,ALPAPRAANA PAYANNA,MAHAAPRAANA PAYANNA,ALPAPRAANA BAYANNA",
     "MAHAAPRAANA BAYANNA,MAYANNA,AMBA BAYANNA,YAYANNA,RAYANNA"]⟩,
   ⟨0x0dbd, "SINHALA LETTER DANTAJA ", ["LAYANNA"]⟩,
   ⟨0x0dc0, "SINHALA LETTER ",
    ["VAYANNA,TAALUJA SAYANNA,MUURDHAJA SAYANNA,DANTAJA SAYANNA,HAYANNA,MUURDHAJA LAYANNA",
     "FAYANNA"]⟩,
   ⟨0x0dca, "SINHALA SIGN AL-", ["LAKUNA"]⟩,
   ⟨0x0dcf, "SINHALA VOWEL SIGN ",
    ["AELA-PILLA,KETTI AEDA-PILLA,DIGA AEDA-PILLA,KETTI IS-PILLA,DIGA IS-PILLA,KETTI PAA-PILLA"]⟩,
   ⟨0x0dd6, "SINHALA VOWEL SIGN DIGA PAA-", ["PILLA"]⟩,
   ⟨0x0dd8, "SINHALA VOWEL SIGN ",
    ["GAETTA-PILLA,KOMBUVA,DIGA KOMBUVA,KOMBU DEKA,KOMBUVA HAA AELA-PILLA",
     "KOMBUVA HAA DIGA AELA-PILLA,KOMBUVA HAA GAYANUKITTA,GAYANUKITTA"]⟩,
   ⟨0x0de6, "SINHALA LITH DIGIT ", ["ZERO,ONE,TWO,THREE,FOUR,FIVE,SIX,SEVEN,EIGHT,NINE"]⟩,
   ⟨0x0df2, "SINHALA ",
    ["VOWEL SIGN DIGA GAETTA-PILLA,VOWEL SIGN DIGA GAYANUKITTA,PUNCTUATION KUNDDALIYA"]⟩]

end LabelTally.Text
