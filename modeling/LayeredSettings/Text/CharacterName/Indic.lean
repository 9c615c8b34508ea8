import LayeredSettings.Text.CharacterName.Run

namespace LayeredSettings

/-- Names of the characters from U+0900 to U+0DFF: the scripts of India and of Sri Lanka.
-/
def indicNames : List NameRun := [
  ⟨0x900, ["0DEVANAGARI SIGN INVERTED CANDRABINDU;2CANDRABINDU;2ANUSVARA;2VISARGA",
    "1LETTER SHORT A;2A;2AA;2I;2II;2U;2UU;2VOCALIC R;3L;2CANDRA E;2SHORT E;2E;2AI;2CANDRA O",
    "2SHORT O;2O;2AU;2KA;2KHA;2GA;2GHA;2NGA;2CA;2CHA;2JA;2JHA;2NYA;2TTA;2TTHA;2DDA;2DDHA;2NNA",
    "2TA;2THA;2DA;2DHA;2NA;2NNNA;2PA;2PHA;2BA;2BHA;2MA;2YA;2RA;2RRA;2LA;2LLA;2LLLA;2VA;2SHA;2SSA",
    "2SA;2HA;1VOWEL SIGN OE;3OOE;1SIGN NUKTA;2AVAGRAHA;1VOWEL SIGN AA;3I;3II;3U;3UU;3VOCALIC R",
    "4RR;3CANDRA E;3SHORT E;3E;3AI;3CANDRA O;3SHORT O;3O;3AU;1SIGN VIRAMA",
    "1VOWEL SIGN PRISHTHAMATRA E;3AW;1OM;1STRESS SIGN UDATTA;3ANUDATTA;1GRAVE ACCENT",
    "1ACUTE ACCENT;1VOWEL SIGN CANDRA LONG E;3UE;3UUE;1LETTER QA;2KHHA;2GHHA;2ZA;2DDDHA;2RHA;2FA",
    "2YYA;2VOCALIC RR;3LL;1VOWEL SIGN VOCALIC L;4LL;1DANDA;1DOUBLE DANDA;1DIGIT ZERO;2ONE;2TWO",
    "2THREE;2FOUR;2FIVE;2SIX;2SEVEN;2EIGHT;2NINE;1ABBREVIATION SIGN;1SIGN HIGH SPACING DOT",
    "1LETTER CANDRA A;2OE;2OOE;2AW;2UE;2UUE;2MARWARI DDA;2ZHA;2HEAVY YA;2GGA;2JJA;2GLOTTAL STOP",
    "2DDDA;2BBA;0BENGALI ANJI;1SIGN CANDRABINDU;2ANUSVARA;2VISARGA"]⟩,
  ⟨0x985, ["0BENGALI LETTER A;2AA;2I;2II;2U;2UU;2VOCALIC R;3L"]⟩,
  ⟨0x98F, ["0BENGALI LETTER E;2AI"]⟩,
  ⟨0x993, ["0BENGALI LETTER O;2AU;2KA;2KHA;2GA;2GHA;2NGA;2CA;2CHA;2JA;2JHA;2NYA;2TTA;2TTHA;2DDA",
    "2DDHA;2NNA;2TA;2THA;2DA;2DHA;2NA"]⟩,
  ⟨0x9AA, ["0BENGALI LETTER PA;2PHA;2BA;2BHA;2MA;2YA;2RA"]⟩,
  ⟨0x9B2, ["0BENGALI LETTER LA"]⟩,
  ⟨0x9B6, ["0BENGALI LETTER SHA;2SSA;2SA;2HA"]⟩,
  ⟨0x9BC, ["0BENGALI SIGN NUKTA;2AVAGRAHA;1VOWEL SIGN AA;3I;3II;3U;3UU;3VOCALIC R;4RR"]⟩,
  ⟨0x9C7, ["0BENGALI VOWEL SIGN E;3AI"]⟩,
  ⟨0x9CB, ["0BENGALI VOWEL SIGN O;3AU;1SIGN VIRAMA;1LETTER KHANDA TA"]⟩,
  ⟨0x9D7, ["0BENGALI AU LENGTH MARK"]⟩,
  ⟨0x9DC, ["0BENGALI LETTER RRA;2RHA"]⟩,
  ⟨0x9DF, ["0BENGALI LETTER YYA;2VOCALIC RR;3LL;1VOWEL SIGN VOCALIC L;4LL"]⟩,
  ⟨0x9E6, ["0BENGALI DIGIT ZERO;2ONE;2TWO;2THREE;2FOUR;2FIVE;2SIX;2SEVEN;2EIGHT;2NINE",
    "1LETTER RA WITH MIDDLE DIAGONAL;4LOWER DIAGONAL;1RUPEE MARK;2SIGN;1CURRENCY NUMERATOR ONE",
    "3TWO;3THREE;3FOUR;3ONE LESS THAN THE DENOMINATOR;2DENOMINATOR SIXTEEN;1ISSHAR;1GANDA MARK",
    "1LETTER VEDIC ANUSVARA;1ABBREVIATION SIGN;1SANDHI MARK"]⟩,
  ⟨0xA01, ["0GURMUKHI SIGN ADAK BINDI;2BINDI;2VISARGA"]⟩,
  ⟨0xA05, ["0GURMUKHI LETTER A;2AA;2I;2II;2U;2UU"]⟩,
  ⟨0xA0F, ["0GURMUKHI LETTER EE;2AI"]⟩,
  ⟨0xA13, ["0GURMUKHI LETTER OO;2AU;2KA;2KHA;2GA;2GHA;2NGA;2CA;2CHA;2JA;2JHA;2NYA;2TTA;2TTHA",
    "2DDA;2DDHA;2NNA;2TA;2THA;2DA;2DHA;2NA"]⟩,
  ⟨0xA2A, ["0GURMUKHI LETTER PA;2PHA;2BA;2BHA;2MA;2YA;2RA"]⟩,
  ⟨0xA32, ["0GURMUKHI LETTER LA;2LLA"]⟩,
  ⟨0xA35, ["0GURMUKHI LETTER VA;2SHA"]⟩,
  ⟨0xA38, ["0GURMUKHI LETTER SA;2HA"]⟩,
  ⟨0xA3C, ["0GURMUKHI SIGN NUKTA"]⟩,
  ⟨0xA3E, ["0GURMUKHI VOWEL SIGN AA;3I;3II;3U;3UU"]⟩,
  ⟨0xA47, ["0GURMUKHI VOWEL SIGN EE;3AI"]⟩,
  ⟨0xA4B, ["0GURMUKHI VOWEL SIGN OO;3AU;1SIGN VIRAMA"]⟩,
  ⟨0xA51, ["0GURMUKHI SIGN UDAAT"]⟩,
  ⟨0xA59, ["0GURMUKHI LETTER KHHA;2GHHA;2ZA;2RRA"]⟩,
  ⟨0xA5E, ["0GURMUKHI LETTER FA"]⟩,
  ⟨0xA66, ["0GURMUKHI DIGIT ZERO;2ONE;2TWO;2THREE;2FOUR;2FIVE;2SIX;2SEVEN;2EIGHT;2NINE;1TIPPI",
    "1ADDAK;1IRI;1URA;1EK ONKAR;1SIGN YAKASH;1ABBREVIATION SIGN"]⟩,
  ⟨0xA81, ["0GUJARATI SIGN CANDRABINDU;2ANUSVARA;2VISARGA"]⟩,
  ⟨0xA85, ["0GUJARATI LETTER A;2AA;2I;2II;2U;2UU;2VOCALIC R;3L;1VOWEL CANDRA E"]⟩,
  ⟨0xA8F, ["0GUJARATI LETTER E;2AI;1VOWEL CANDRA O"]⟩,
  ⟨0xA93, ["0GUJARATI LETTER O;2AU;2KA;2KHA;2GA;2GHA;2NGA;2CA;2CHA;2JA;2JHA;2NYA;2TTA;2TTHA;2DDA",
    "2DDHA;2NNA;2TA;2THA;2DA;2DHA;2NA"]⟩,
  ⟨0xAAA, ["0GUJARATI LETTER PA;2PHA;2BA;2BHA;2MA;2YA;2RA"]⟩,
  ⟨0xAB2, ["0GUJARATI LETTER LA;2LLA"]⟩,
  ⟨0xAB5, ["0GUJARATI LETTER VA;2SHA;2SSA;2SA;2HA"]⟩,
  ⟨0xABC, ["0GUJARATI SIGN NUKTA;2AVAGRAHA;1VOWEL SIGN AA;3I;3II;3U;3UU;3VOCALIC R;4RR",
    "3CANDRA E"]⟩,
  ⟨0xAC7, ["0GUJARATI VOWEL SIGN E;3AI;3CANDRA O"]⟩,
  ⟨0xACB, ["0GUJARATI VOWEL SIGN O;3AU;1SIGN VIRAMA"]⟩,
  ⟨0xAD0, ["0GUJARATI OM"]⟩,
  ⟨0xAE0, ["0GUJARATI LETTER VOCALIC RR;3LL;1VOWEL SIGN VOCALIC L;4LL"]⟩,
  ⟨0xAE6, ["0GUJARATI DIGIT ZERO;2ONE;2TWO;2THREE;2FOUR;2FIVE;2SIX;2SEVEN;2EIGHT;2NINE",
    "1ABBREVIATION SIGN;1RUPEE SIGN"]⟩,
  ⟨0xAF9, ["0GUJARATI LETTER ZHA;1SIGN SUKUN;2SHADDA;2MADDAH;2THREE-DOT NUKTA ABOVE",
    "2CIRCLE NUKTA ABOVE;2TWO-CIRCLE NUKTA ABOVE"]⟩,
  ⟨0xB01, ["0ORIYA SIGN CANDRABINDU;2ANUSVARA;2VISARGA"]⟩,
  ⟨0xB05, ["0ORIYA LETTER A;2AA;2I;2II;2U;2UU;2VOCALIC R;3L"]⟩,
  ⟨0xB0F, ["0ORIYA LETTER E;2AI"]⟩,
  ⟨0xB13, ["0ORIYA LETTER O;2AU;2KA;2KHA;2GA;2GHA;2NGA;2CA;2CHA;2JA;2JHA;2NYA;2TTA;2TTHA;2DDA",
    "2DDHA;2NNA;2TA;2THA;2DA;2DHA;2NA"]⟩,
  ⟨0xB2A, ["0ORIYA LETTER PA;2PHA;2BA;2BHA;2MA;2YA;2RA"]⟩,
  ⟨0xB32, ["0ORIYA LETTER LA;2LLA"]⟩,
  ⟨0xB35, ["0ORIYA LETTER VA;2SHA;2SSA;2SA;2HA"]⟩,
  ⟨0xB3C, ["0ORIYA SIGN NUKTA;2AVAGRAHA;1VOWEL SIGN AA;3I;3II;3U;3UU;3VOCALIC R;4RR"]⟩,
  ⟨0xB47, ["0ORIYA VOWEL SIGN E;3AI"]⟩,
  ⟨0xB4B, ["0ORIYA VOWEL SIGN O;3AU;1SIGN VIRAMA"]⟩,
  ⟨0xB55, ["0ORIYA SIGN OVERLINE;1AI LENGTH MARK;1AU LENGTH MARK"]⟩,
  ⟨0xB5C, ["0ORIYA LETTER RRA;2RHA"]⟩,
  ⟨0xB5F, ["0ORIYA LETTER YYA;2VOCALIC RR;3LL;1VOWEL SIGN VOCALIC L;4LL"]⟩,
  ⟨0xB66, ["0ORIYA DIGIT ZERO;2ONE;2TWO;2THREE;2FOUR;2FIVE;2SIX;2SEVEN;2EIGHT;2NINE;1ISSHAR",
    "1LETTER WA;1FRACTION ONE QUARTER;3HALF;2THREE QUARTERS;2ONE SIXTEENTH;3EIGHTH",
    "2THREE SIXTEENTHS"]⟩,
  ⟨0xB82, ["0TAMIL SIGN ANUSVARA;2VISARGA"]⟩,
  ⟨0xB85, ["0TAMIL LETTER A;2AA;2I;2II;2U;2UU"]⟩,
  ⟨0xB8E, ["0TAMIL LETTER E;2EE;2AI"]⟩,
  ⟨0xB92, ["0TAMIL LETTER O;2OO;2AU;2KA"]⟩,
  ⟨0xB99, ["0TAMIL LETTER NGA;2CA"]⟩,
  ⟨0xB9C, ["0TAMIL LETTER JA"]⟩,
  ⟨0xB9E, ["0TAMIL LETTER NYA;2TTA"]⟩,
  ⟨0xBA3, ["0TAMIL LETTER NNA;2TA"]⟩,
  ⟨0xBA8, ["0TAMIL LETTER NA;2NNNA;2PA"]⟩,
  ⟨0xBAE, ["0TAMIL LETTER MA;2YA;2RA;2RRA;2LA;2LLA;2LLLA;2VA;2SHA;2SSA;2SA;2HA"]⟩,
  ⟨0xBBE, ["0TAMIL VOWEL SIGN AA;3I;3II;3U;3UU"]⟩,
  ⟨0xBC6, ["0TAMIL VOWEL SIGN E;3EE;3AI"]⟩,
  ⟨0xBCA, ["0TAMIL VOWEL SIGN O;3OO;3AU;1SIGN VIRAMA"]⟩,
  ⟨0xBD0, ["0TAMIL OM"]⟩,
  ⟨0xBD7, ["0TAMIL AU LENGTH MARK"]⟩,
  ⟨0xBE6, ["0TAMIL DIGIT ZERO;2ONE;2TWO;2THREE;2FOUR;2FIVE;2SIX;2SEVEN;2EIGHT;2NINE;1NUMBER TEN",
    "2ONE HUNDRED;3THOUSAND;1DAY SIGN;1MONTH SIGN;1YEAR SIGN;1DEBIT SIGN;1CREDIT SIGN",
    "1AS ABOVE SIGN;1RUPEE SIGN;1NUMBER SIGN"]⟩,
  ⟨0xC00, ["0TELUGU SIGN COMBINING CANDRABINDU ABOVE;2CANDRABINDU;2ANUSVARA;2VISARGA",
    "2COMBINING ANUSVARA ABOVE;1LETTER A;2AA;2I;2II;2U;2UU;2VOCALIC R;3L"]⟩,
  ⟨0xC0E, ["0TELUGU LETTER E;2EE;2AI"]⟩,
  ⟨0xC12, ["0TELUGU LETTER O;2OO;2AU;2KA;2KHA;2GA;2GHA;2NGA;2CA;2CHA;2JA;2JHA;2NYA;2TTA;2TTHA",
    "2DDA;2DDHA;2NNA;2TA;2THA;2DA;2DHA;2NA"]⟩,
  ⟨0xC2A, ["0TELUGU LETTER PA;2PHA;2BA;2BHA;2MA;2YA;2RA;2RRA;2LA;2LLA;2LLLA;2VA;2SHA;2SSA;2SA",
    "2HA"]⟩,
  ⟨0xC3C, ["0TELUGU SIGN NUKTA;2AVAGRAHA;1VOWEL SIGN AA;3I;3II;3U;3UU;3VOCALIC R;4RR"]⟩,
  ⟨0xC46, ["0TELUGU VOWEL SIGN E;3EE;3AI"]⟩,
  ⟨0xC4A, ["0TELUGU VOWEL SIGN O;3OO;3AU;1SIGN VIRAMA"]⟩,
  ⟨0xC55, ["0TELUGU LENGTH MARK;1AI LENGTH MARK"]⟩,
  ⟨0xC58, ["0TELUGU LETTER TSA;2DZA;2RRRA"]⟩,
  ⟨0xC5D, ["0TELUGU LETTER NAKAARA POLLU"]⟩,
  ⟨0xC60, ["0TELUGU LETTER VOCALIC RR;3LL;1VOWEL SIGN VOCALIC L;4LL"]⟩,
  ⟨0xC66, ["0TELUGU DIGIT ZERO;2ONE;2TWO;2THREE;2FOUR;2FIVE;2SIX;2SEVEN;2EIGHT;2NINE"]⟩,
  ⟨0xC77, ["0TELUGU SIGN SIDDHAM;1FRACTION DIGIT ZERO FOR ODD POWERS OF FOUR",
    "3ONE FOR ODD POWERS OF FOUR;3TWO FOR ODD POWERS OF FOUR;3THREE FOR ODD POWERS OF FOUR",
    "3ONE FOR EVEN POWERS OF FOUR;3TWO FOR EVEN POWERS OF FOUR;3THREE FOR EVEN POWERS OF FOUR",
    "1SIGN TUUMU;0KANNADA SIGN SPACING CANDRABINDU;2CANDRABINDU;2ANUSVARA;2VISARGA;2SIDDHAM",
    "1LETTER A;2AA;2I;2II;2U;2UU;2VOCALIC R;3L"]⟩,
  ⟨0xC8E, ["0KANNADA LETTER E;2EE;2AI"]⟩,
  ⟨0xC92, ["0KANNADA LETTER O;2OO;2AU;2KA;2KHA;2GA;2GHA;2NGA;2CA;2CHA;2JA;2JHA;2NYA;2TTA;2TTHA",
    "2DDA;2DDHA;2NNA;2TA;2THA;2DA;2DHA;2NA"]⟩,
  ⟨0xCAA, ["0KANNADA LETTER PA;2PHA;2BA;2BHA;2MA;2YA;2RA;2RRA;2LA;2LLA"]⟩,
  ⟨0xCB5, ["0KANNADA LETTER VA;2SHA;2SSA;2SA;2HA"]⟩,
  ⟨0xCBC, ["0KANNADA SIGN NUKTA;2AVAGRAHA;1VOWEL SIGN AA;3I;3II;3U;3UU;3VOCALIC R;4RR"]⟩,
  ⟨0xCC6, ["0KANNADA VOWEL SIGN E;3EE;3AI"]⟩,
  ⟨0xCCA, ["0KANNADA VOWEL SIGN O;3OO;3AU;1SIGN VIRAMA"]⟩,
  ⟨0xCD5, ["0KANNADA LENGTH MARK;1AI LENGTH MARK"]⟩,
  ⟨0xCDD, ["0KANNADA LETTER NAKAARA POLLU;2FA"]⟩,
  ⟨0xCE0, ["0KANNADA LETTER VOCALIC RR;3LL;1VOWEL SIGN VOCALIC L;4LL"]⟩,
  ⟨0xCE6, ["0KANNADA DIGIT ZERO;2ONE;2TWO;2THREE;2FOUR;2FIVE;2SIX;2SEVEN;2EIGHT;2NINE"]⟩,
  ⟨0xCF1, ["0KANNADA SIGN JIHVAMULIYA;2UPADHMANIYA"]⟩,
  ⟨0xD00, ["0MALAYALAM SIGN COMBINING ANUSVARA ABOVE;2CANDRABINDU;2ANUSVARA;2VISARGA",
    "1LETTER VEDIC ANUSVARA;2A;2AA;2I;2II;2U;2UU;2VOCALIC R;3L"]⟩,
  ⟨0xD0E, ["0MALAYALAM LETTER E;2EE;2AI"]⟩,
  ⟨0xD12, ["0MALAYALAM LETTER O;2OO;2AU;2KA;2KHA;2GA;2GHA;2NGA;2CA;2CHA;2JA;2JHA;2NYA;2TTA;2TTHA",
    "2DDA;2DDHA;2NNA;2TA;2THA;2DA;2DHA;2NA;2NNNA;2PA;2PHA;2BA;2BHA;2MA;2YA;2RA;2RRA;2LA;2LLA",
    "2LLLA;2VA;2SHA;2SSA;2SA;2HA;2TTTA;1SIGN VERTICAL BAR VIRAMA;2CIRCULAR VIRAMA;2AVAGRAHA",
    "1VOWEL SIGN AA;3I;3II;3U;3UU;3VOCALIC R;4RR"]⟩,
  ⟨0xD46, ["0MALAYALAM VOWEL SIGN E;3EE;3AI"]⟩,
  ⟨0xD4A, ["0MALAYALAM VOWEL SIGN O;3OO;3AU;1SIGN VIRAMA;1LETTER DOT REPH;1SIGN PARA"]⟩,
  ⟨0xD54, ["0MALAYALAM LETTER CHILLU M;3Y;3LLL;1AU LENGTH MARK",
    "1FRACTION ONE ONE-HUNDRED-AND-SIXTIETH;3FORTIETH;2THREE EIGHTIETHS;2ONE TWENTIETH;3TENTH",
    "2THREE TWENTIETHS;2ONE FIFTH;1LETTER ARCHAIC II;2VOCALIC RR;3LL;1VOWEL SIGN VOCALIC L;4LL"]⟩,
  ⟨0xD66, ["0MALAYALAM DIGIT ZERO;2ONE;2TWO;2THREE;2FOUR;2FIVE;2SIX;2SEVEN;2EIGHT;2NINE",
    "1NUMBER TEN;2ONE HUNDRED;3THOUSAND;1FRACTION ONE QUARTER;3HALF;2THREE QUARTERS",
    "2ONE SIXTEENTH;3EIGHTH;2THREE SIXTEENTHS;1DATE MARK;1LETTER CHILLU NN;3N;3RR;3L;3LL;3K"]⟩,
  ⟨0xD81, ["0SINHALA SIGN CANDRABINDU;2ANUSVARAYA;2VISARGAYA"]⟩,
  ⟨0xD85, ["0SINHALA LETTER AYANNA;2AAYANNA;2AEYANNA;2AEEYANNA;2IYANNA;2IIYANNA;2UYANNA;2UUYANNA",
    "2IRUYANNA;2IRUUYANNA;2ILUYANNA;2ILUUYANNA;2EYANNA;2EEYANNA;2AIYANNA;2OYANNA;2OOYANNA",
    "2AUYANNA"]⟩,
  ⟨0xD9A, ["0SINHALA LETTER ALPAPRAANA KAYANNA;2MAHAAPRAANA KAYANNA;2ALPAPRAANA GAYANNA",
    "2MAHAAPRAANA GAYANNA;2KANTAJA NAASIKYAYA;2SANYAKA GAYANNA;2ALPAPRAANA CAYANNA",
    "2MAHAAPRAANA CAYANNA;2ALPAPRAANA JAYANNA;2MAHAAPRAANA JAYANNA;2TAALUJA NAASIKYAYA",
    "3SANYOOGA NAAKSIKYAYA;2SANYAKA JAYANNA;2ALPAPRAANA TTAYANNA;2MAHAAPRAANA TTAYANNA",
    "2ALPAPRAANA DDAYANNA;2MAHAAPRAANA DDAYANNA;2MUURDHAJA NAYANNA;2SANYAKA DDAYANNA",
    "2ALPAPRAANA TAYANNA;2MAHAAPRAANA TAYANNA;2ALPAPRAANA DAYANNA;2MAHAAPRAANA DAYANNA",
    "2DANTAJA NAYANNA"]⟩,
  ⟨0xDB3, ["0SINHALA LETTER SANYAKA DAYANNA;2ALPAPRAANA PAYANNA;2MAHAAPRAANA PAYANNA",
    "2ALPAPRAANA BAYANNA;2MAHAAPRAANA BAYANNA;2MAYANNA;2AMBA BAYANNA;2YAYANNA;2RAYANNA"]⟩,
  ⟨0xDBD, ["0SINHALA LETTER DANTAJA LAYANNA"]⟩,
  ⟨0xDC0, ["0SINHALA LETTER VAYANNA;2TAALUJA SAYANNA;2MUURDHAJA SAYANNA;2DANTAJA SAYANNA",
    "2HAYANNA;2MUURDHAJA LAYANNA;2FAYANNA"]⟩,
  ⟨0xDCA, ["0SINHALA SIGN AL-LAKUNA"]⟩,
  ⟨0xDCF, ["0SINHALA VOWEL SIGN AELA-PILLA;3KETTI AEDA-PILLA;3DIGA AEDA-PILLA;3KETTI IS-PILLA",
    "3DIGA IS-PILLA;3KETTI PAA-PILLA"]⟩,
  ⟨0xDD6, ["0SINHALA VOWEL SIGN DIGA PAA-PILLA"]⟩,
  ⟨0xDD8, ["0SINHALA VOWEL SIGN GAETTA-PILLA;3KOMBUVA;3DIGA KOMBUVA;3KOMBU DEKA",
    "3KOMBUVA HAA AELA-PILLA;5DIGA AELA-PILLA;5GAYANUKITTA;3GAYANUKITTA"]⟩,
  ⟨0xDE6, ["0SINHALA LITH DIGIT ZERO;3ONE;3TWO;3THREE;3FOUR;3FIVE;3SIX;3SEVEN;3EIGHT;3NINE"]⟩,
  ⟨0xDF2, ["0SINHALA VOWEL SIGN DIGA GAETTA-PILLA;4GAYANUKITTA;1PUNCTUATION KUNDDALIYA"]⟩]

end LayeredSettings
