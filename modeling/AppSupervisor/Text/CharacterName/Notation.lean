import AppSupervisor.Text.CharacterName.Row

/-!
Names of characters from U+1CF00 to U+1EEFF: notations for music, mathematics and signs.
-/

namespace AppSupervisor.Text

def notationMarksNames : List NameRow := [
    ⟨0x1cf00, "ZNAMENNY COMBINING MARK ", "GORAZDO NIZKO S KRYZHEM ON LEFT|NIZKO S KRYZHEM ON LEFT|
      TSATA ON LEFT|GORAZDO NIZKO ON LEFT|NIZKO ON LEFT|SREDNE ON LEFT|MALO POVYSHE ON LEFT|
      POVYSHE ON LEFT|VYSOKO ON LEFT|MALO POVYSHE S KHOKHLOM ON LEFT|POVYSHE S KHOKHLOM ON LEFT|
      VYSOKO S KHOKHLOM ON LEFT|GORAZDO NIZKO S KRYZHEM ON RIGHT|NIZKO S KRYZHEM ON RIGHT|
      TSATA ON RIGHT|GORAZDO NIZKO ON RIGHT|NIZKO ON RIGHT|SREDNE ON RIGHT|MALO POVYSHE ON RIGHT|
      POVYSHE ON RIGHT|VYSOKO ON RIGHT|MALO POVYSHE S KHOKHLOM ON RIGHT|POVYSHE S KHOKHLOM ON RIGHT|
      VYSOKO S KHOKHLOM ON RIGHT|TSATA S KRYZHEM|MALO POVYSHE S KRYZHEM|STRANNO MALO POVYSHE|
      POVYSHE S KRYZHEM|POVYSHE STRANNO|VYSOKO S KRYZHEM|MALO POVYSHE STRANNO|GORAZDO VYSOKO|ZELO|
      ON|RAVNO|TIKHAYA|BORZAYA|UDARKA|PODVERTKA|LOMKA|KUPNAYA|KACHKA|ZEVOK|SKOBA|RAZSEKA|
      KRYZH ON LEFT"⟩,
    ⟨0x1cf30, "ZNAMENNY COMBINING TONAL RANGE MARK ", "MRACHNO|SVETLO|TRESVETLO"⟩,
    ⟨0x1cf33, "ZNAMENNY COMBINING MARK ", "ZADERZHKA|DEMESTVENNY ZADERZHKA|OTSECHKA|PODCHASHIE|
      PODCHASHIE WITH VERTICAL STROKE|CHASHKA|CHASHKA POLNAYA|OBLACHKO|SOROCHYA NOZHKA|TOCHKA|
      DVOETOCHIE"⟩,
    ⟨0x1cf3e, "ZNAMENNY COMBINING ", "ATTACHING VERTICAL OMET|MARK CURVED OMET|MARK KRYZH|
      LOWER TONAL RANGE INDICATOR"⟩,
    ⟨0x1cf42, "ZNAMENNY PRIZNAK MODIFIER ", "LEVEL-2|LEVEL-3|DIRECTION FLIP|KRYZH|ROG"⟩,
    ⟨0x1cf50, "ZNAMENNY NEUME ", "KRYUK|KRYUK TIKHY|PARAKLIT|DVA V CHELNU|KLYUCH|ZANOZHEK|STOPITSA|
      STOPITSA S OCHKOM|PEREVODKA|PEREVODKA NEPOSTOYANNAYA|STOPITSA WITH SOROCHYA NOZHKA|CHELYUSTKA|
      PALKA|ZAPYATAYA"⟩,
    ⟨0x1cf5e, "ZNAMENNY NEUME GOLUBCHIK ", "BORZY|TIKHY|MRACHNY|SVETLY|TRESVETLY"⟩,
    ⟨0x1cf63, "ZNAMENNY NEUME VRAKHIYA ", "PROSTAYA|MRACHNAYA|SVETLAYA|TRESVETLAYA|
      KLYUCHEVAYA PROSTAYA|KLYUCHEVAYA MRACHNAYA|KLYUCHEVAYA SVETLAYA|KLYUCHEVAYA TRESVETLAYA"⟩,
    ⟨0x1cf6b, "ZNAMENNY NEUME ", "DOUBLE ZAPYATAYA|REVERSED CHELYUSTKA|DERBITSA|KHAMILO|CHASHKA|
      PODCHASHIE|SKAMEYTSA MRACHNAYA|SKAMEYTSA SVETLAYA|SKAMEYTSA TRESVETLAYA|SKAMEYTSA TIKHAYA|
      DEMESTVENNY KLYUCH|SKAMEYTSA KLYUCHEVAYA SVETLAYA|SKAMEYTSA KLYUCHENEPOSTOYANNAYA|
      SKAMEYTSA KLYUCHEVAYA TIKHAYA"⟩,
    ⟨0x1cf79, "ZNAMENNY NEUME SKAMEYTSA DVOECHELNAYA ", "PROSTAYA|SVETLAYA|NEPOSTOYANNAYA|
      KLYUCHEVAYA"⟩,
    ⟨0x1cf7d, "ZNAMENNY NEUME ", "SLOZHITIE|SLOZHITIE S ZAPYATOY|SLOZHITIE ZAKRYTOE|
      SLOZHITIE S KRYZHEM|KRYZH|ROG|FITA|KOBYLA|ZMEYTSA|STATYA|STATYA S ZAPYATOY|STATYA S KRYZHEM|
      STATYA S ZAPYATOY I KRYZHEM|STATYA S KRYZHEM I ZAPYATOY|STATYA ZAKRYTAYA|
      STATYA ZAKRYTAYA S ZAPYATOY|STATYA S ROGOM|STATYA S DVUMYA ZAPYATYMI|
      STATYA S ZAPYATOY I PODCHASHIEM|POLKULIZMY|STATYA NEPOSTOYANNAYA"⟩,
    ⟨0x1cf92, "ZNAMENNY NEUME STRELA ", "PROSTAYA|MRACHNOTIKHAYA|KRYZHEVAYA|POLUPOVODNAYA|POVODNAYA|
      NEPOSTOYANNAYA|KLYUCHEPOVODNAYA|KLYUCHENEPOSTOYANNAYA|TIKHAYA PUTNAYA|DVOECHELNAYA|
      DVOECHELNOKRYZHEVAYA|DVOECHELNOPOVODNAYA|DVOECHELNAYA KLYUCHEVAYA|
      DVOECHELNOPOVODNAYA KLYUCHEVAYA|GROMNAYA WITH SINGLE ZAPYATAYA|
      GROMOPOVODNAYA WITH SINGLE ZAPYATAYA|GROMNAYA|GROMOPOVODNAYA|
      GROMOPOVODNAYA WITH DOUBLE ZAPYATAYA|GROMOKRYZHEVAYA|GROMOKRYZHEVAYA POVODNAYA"⟩,
    ⟨0x1cfa7, "ZNAMENNY NEUME ", "MECHIK|MECHIK POVODNY|MECHIK KLYUCHEVOY|MECHIK KLYUCHEPOVODNY|
      MECHIK KLYUCHENEPOSTOYANNY|STRELA TRYASOGLASNAYA|STRELA TRYASOPOVODNAYA|
      STRELA TRYASOSTRELNAYA|OSOKA|OSOKA SVETLAYA|OSOKA TRESVETLAYA|OSOKA KRYUKOVAYA SVETLAYA|
      OSOKA KLYUCHEVAYA SVETLAYA|OSOKA KLYUCHEVAYA NEPOSTOYANNAYA|STRELA KRYUKOVAYA"⟩,
    ⟨0x1cfb6, "ZNAMENNY NEUME STRELA KRYUKOVAYA ", "POVODNAYA|GROMNAYA WITH SINGLE ZAPYATAYA|
      GROMOPOVODNAYA WITH SINGLE ZAPYATAYA|GROMNAYA|GROMOPOVODNAYA|
      GROMOPOVODNAYA WITH DOUBLE ZAPYATAYA|GROMOKRYZHEVAYA|GROMOKRYZHEVAYA POVODNAYA|TRYASKA"⟩,
    ⟨0x1cfbf, "ZNAMENNY NEUME ", "KUFISMA|OBLAKO|DUDA|NEMKA|PAUK"⟩,
    ⟨0x1d000, "BYZANTINE MUSICAL SYMBOL ", "PSILI|DASEIA|PERISPOMENI|OXEIA EKFONITIKON|OXEIA DIPLI|
      VAREIA EKFONITIKON|VAREIA DIPLI|KATHISTI|SYRMATIKI|PARAKLITIKI|YPOKRISIS|YPOKRISIS DIPLI|
      KREMASTI|APESO EKFONITIKON|EXO EKFONITIKON|TELEIA|KENTIMATA|APOSTROFOS|APOSTROFOS DIPLI|
      SYNEVMA|THITA|OLIGON ARCHAION|GORGON ARCHAION|PSILON|CHAMILON|VATHY|ISON ARCHAION|
      KENTIMA ARCHAION|KENTIMATA ARCHAION|SAXIMATA|PARICHON|STAVROS APODEXIA|OXEIAI ARCHAION|
      VAREIAI ARCHAION|APODERMA ARCHAION|APOTHEMA|KLASMA|REVMA|PIASMA ARCHAION|TINAGMA|ANATRICHISMA|
      SEISMA|SYNAGMA ARCHAION|SYNAGMA META STAVROU|OYRANISMA ARCHAION|THEMA|LEMOI|DYO|TRIA|TESSERA|
      KRATIMATA|APESO EXO NEO|FTHORA ARCHAION|IMIFTHORA|TROMIKON ARCHAION|KATAVA TROMIKON|PELASTON|
      PSIFISTON|KONTEVMA|CHOREVMA ARCHAION|RAPISMA|PARAKALESMA ARCHAION|PARAKLITIKI ARCHAION|
      ICHADIN|NANA|PETASMA|KONTEVMA ALLO|TROMIKON ALLO|STRAGGISMATA|GRONTHISMATA|ISON NEO|
      OLIGON NEO|OXEIA NEO|PETASTI|KOUFISMA|PETASTOKOUFISMA|KRATIMOKOUFISMA|PELASTON NEO|
      KENTIMATA NEO ANO|KENTIMA NEO ANO|YPSILI|APOSTROFOS NEO|APOSTROFOI SYNDESMOS NEO|YPORROI|
      KRATIMOYPORROON|ELAFRON|CHAMILI|MIKRON ISON|VAREIA NEO|PIASMA NEO|PSIFISTON NEO|OMALON|
      ANTIKENOMA|LYGISMA|PARAKLITIKI NEO|PARAKALESMA NEO|ETERON PARAKALESMA|KYLISMA|ANTIKENOKYLISMA|
      TROMIKON NEO|EKSTREPTON|SYNAGMA NEO|SYRMA|CHOREVMA NEO|EPEGERMA|SEISMA NEO|XIRON KLASMA|
      TROMIKOPSIFISTON|PSIFISTOLYGISMA|TROMIKOLYGISMA|TROMIKOPARAKALESMA|PSIFISTOPARAKALESMA|
      TROMIKOSYNAGMA|PSIFISTOSYNAGMA|GORGOSYNTHETON|ARGOSYNTHETON|ETERON ARGOSYNTHETON|
      OYRANISMA NEO|THEMATISMOS ESO|THEMATISMOS EXO|THEMA APLOUN|THES KAI APOTHES|KATAVASMA|
      ENDOFONON|YFEN KATO|YFEN ANO|STAVROS|KLASMA ANO|DIPLI ARCHAION|KRATIMA ARCHAION|KRATIMA ALLO|
      KRATIMA NEO|APODERMA NEO|APLI|DIPLI|TRIPLI|TETRAPLI|KORONIS|LEIMMA ENOS CHRONOU|
      LEIMMA DYO CHRONON|LEIMMA TRION CHRONON|LEIMMA TESSARON CHRONON|LEIMMA IMISEOS CHRONOU|
      GORGON NEO ANO|GORGON PARESTIGMENON ARISTERA|GORGON PARESTIGMENON DEXIA|DIGORGON|
      DIGORGON PARESTIGMENON ARISTERA KATO|DIGORGON PARESTIGMENON ARISTERA ANO|
      DIGORGON PARESTIGMENON DEXIA|TRIGORGON|ARGON|IMIDIARGON|DIARGON|AGOGI POLI ARGI|
      AGOGI ARGOTERI|AGOGI ARGI|AGOGI METRIA|AGOGI MESI|AGOGI GORGI|AGOGI GORGOTERI|
      AGOGI POLI GORGI|MARTYRIA PROTOS ICHOS|MARTYRIA ALLI PROTOS ICHOS|MARTYRIA DEYTEROS ICHOS|
      MARTYRIA ALLI DEYTEROS ICHOS|MARTYRIA TRITOS ICHOS|MARTYRIA TRIFONIAS|MARTYRIA TETARTOS ICHOS|
      MARTYRIA TETARTOS LEGETOS ICHOS|MARTYRIA LEGETOS ICHOS|MARTYRIA PLAGIOS ICHOS|
      ISAKIA TELOUS ICHIMATOS|APOSTROFOI TELOUS ICHIMATOS|FANEROSIS TETRAFONIAS|
      FANEROSIS MONOFONIAS|FANEROSIS DIFONIAS|MARTYRIA VARYS ICHOS|MARTYRIA PROTOVARYS ICHOS|
      MARTYRIA PLAGIOS TETARTOS ICHOS|GORTHMIKON N APLOUN|GORTHMIKON N DIPLOUN|
      ENARXIS KAI FTHORA VOU|IMIFONON|IMIFTHORON|FTHORA ARCHAION DEYTEROU ICHOU|FTHORA DIATONIKI PA|
      FTHORA DIATONIKI NANA|FTHORA NAOS ICHOS|FTHORA DIATONIKI DI|FTHORA SKLIRON DIATONON DI|
      FTHORA DIATONIKI KE|FTHORA DIATONIKI ZO|FTHORA DIATONIKI NI KATO|FTHORA DIATONIKI NI ANO|
      FTHORA MALAKON CHROMA DIFONIAS|FTHORA MALAKON CHROMA MONOFONIAS|FHTORA SKLIRON CHROMA VASIS|
      FTHORA SKLIRON CHROMA SYNAFI|FTHORA NENANO|CHROA ZYGOS|CHROA KLITON|CHROA SPATHI|
      FTHORA I YFESIS TETARTIMORION|FTHORA ENARMONIOS ANTIFONIA|YFESIS TRITIMORION|
      DIESIS TRITIMORION|DIESIS TETARTIMORION|DIESIS APLI DYO DODEKATA|
      DIESIS MONOGRAMMOS TESSERA DODEKATA|DIESIS DIGRAMMOS EX DODEKATA|
      DIESIS TRIGRAMMOS OKTO DODEKATA|YFESIS APLI DYO DODEKATA|YFESIS MONOGRAMMOS TESSERA DODEKATA|
      YFESIS DIGRAMMOS EX DODEKATA|YFESIS TRIGRAMMOS OKTO DODEKATA|GENIKI DIESIS|GENIKI YFESIS|
      DIASTOLI APLI MIKRI|DIASTOLI APLI MEGALI|DIASTOLI DIPLI|DIASTOLI THESEOS|SIMANSIS THESEOS|
      SIMANSIS THESEOS DISIMOU|SIMANSIS THESEOS TRISIMOU|SIMANSIS THESEOS TETRASIMOU|
      SIMANSIS ARSEOS|SIMANSIS ARSEOS DISIMOU|SIMANSIS ARSEOS TRISIMOU|SIMANSIS ARSEOS TETRASIMOU|
      DIGRAMMA GG|DIFTOGGOS OU|STIGMA|ARKTIKO PA|ARKTIKO VOU|ARKTIKO GA|ARKTIKO DI|ARKTIKO KE|
      ARKTIKO ZO|ARKTIKO NI|KENTIMATA NEO MESO|KENTIMA NEO MESO|KENTIMATA NEO KATO|KENTIMA NEO KATO|
      KLASMA KATO|GORGON NEO KATO"⟩,
    ⟨0x1d100, "MUSICAL SYMBOL ", "SINGLE BARLINE|DOUBLE BARLINE|FINAL BARLINE|REVERSE FINAL BARLINE|
      DASHED BARLINE|SHORT BARLINE|LEFT REPEAT SIGN|RIGHT REPEAT SIGN|REPEAT DOTS|DAL SEGNO|DA CAPO|
      SEGNO|CODA|REPEATED FIGURE-1|REPEATED FIGURE-2|REPEATED FIGURE-3|FERMATA|FERMATA BELOW|
      BREATH MARK|CAESURA|BRACE|BRACKET|ONE-LINE STAFF|TWO-LINE STAFF|THREE-LINE STAFF|
      FOUR-LINE STAFF|FIVE-LINE STAFF|SIX-LINE STAFF|SIX-STRING FRETBOARD|FOUR-STRING FRETBOARD|
      G CLEF|G CLEF OTTAVA ALTA|G CLEF OTTAVA BASSA|C CLEF|F CLEF|F CLEF OTTAVA ALTA|
      F CLEF OTTAVA BASSA|DRUM CLEF-1|DRUM CLEF-2"⟩,
    ⟨0x1d129, "MUSICAL SYMBOL ", "MULTIPLE MEASURE REST|DOUBLE SHARP|DOUBLE FLAT|FLAT UP|FLAT DOWN|
      NATURAL UP|NATURAL DOWN|SHARP UP|SHARP DOWN|QUARTER TONE SHARP|QUARTER TONE FLAT|COMMON TIME|
      CUT TIME|OTTAVA ALTA|OTTAVA BASSA|QUINDICESIMA ALTA|QUINDICESIMA BASSA|MULTI REST|WHOLE REST|
      HALF REST|QUARTER REST|EIGHTH REST|SIXTEENTH REST|THIRTY-SECOND REST|SIXTY-FOURTH REST|
      ONE HUNDRED TWENTY-EIGHTH REST|X NOTEHEAD|PLUS NOTEHEAD|CIRCLE X NOTEHEAD|
      SQUARE NOTEHEAD WHITE|SQUARE NOTEHEAD BLACK"⟩,
    ⟨0x1d148, "MUSICAL SYMBOL TRIANGLE NOTEHEAD ", "UP WHITE|UP BLACK|LEFT WHITE|LEFT BLACK|
      RIGHT WHITE|RIGHT BLACK|DOWN WHITE|DOWN BLACK|UP RIGHT WHITE|UP RIGHT BLACK"⟩,
    ⟨0x1d152, "MUSICAL SYMBOL ", "MOON NOTEHEAD WHITE|MOON NOTEHEAD BLACK|
      TRIANGLE-ROUND NOTEHEAD DOWN WHITE|TRIANGLE-ROUND NOTEHEAD DOWN BLACK|PARENTHESIS NOTEHEAD|
      VOID NOTEHEAD|NOTEHEAD BLACK|NULL NOTEHEAD|CLUSTER NOTEHEAD WHITE|CLUSTER NOTEHEAD BLACK|
      BREVE|WHOLE NOTE|HALF NOTE|QUARTER NOTE|EIGHTH NOTE|SIXTEENTH NOTE|THIRTY-SECOND NOTE|
      SIXTY-FOURTH NOTE|ONE HUNDRED TWENTY-EIGHTH NOTE|COMBINING STEM|COMBINING SPRECHGESANG STEM|
      COMBINING TREMOLO-1|COMBINING TREMOLO-2|COMBINING TREMOLO-3|FINGERED TREMOLO-1|
      FINGERED TREMOLO-2|FINGERED TREMOLO-3|COMBINING AUGMENTATION DOT|COMBINING FLAG-1|
      COMBINING FLAG-2|COMBINING FLAG-3|COMBINING FLAG-4|COMBINING FLAG-5|BEGIN BEAM|END BEAM|
      BEGIN TIE|END TIE|BEGIN SLUR|END SLUR|BEGIN PHRASE|END PHRASE"⟩,
    ⟨0x1d17b, "MUSICAL SYMBOL COMBINING ", "ACCENT|STACCATO|TENUTO|STACCATISSIMO|MARCATO|
      MARCATO-STACCATO|ACCENT-STACCATO|LOURE"⟩,
    ⟨0x1d183, "MUSICAL SYMBOL ARPEGGIATO ", "UP|DOWN"⟩,
    ⟨0x1d185, "MUSICAL SYMBOL COMBINING ", "DOIT|RIP|FLIP|SMEAR|BEND|DOUBLE TONGUE|TRIPLE TONGUE"⟩,
    ⟨0x1d18c, "MUSICAL SYMBOL ", "RINFORZANDO|SUBITO|Z|PIANO|MEZZO|FORTE|CRESCENDO|DECRESCENDO|
      GRACE NOTE SLASH|GRACE NOTE NO SLASH|TR|TURN|INVERTED TURN|TURN SLASH|TURN UP"⟩,
    ⟨0x1d19b, "MUSICAL SYMBOL ORNAMENT STROKE-", "1|2|3|4|5|6|7|8|9|10|11"⟩,
    ⟨0x1d1a6, "MUSICAL SYMBOL ", "HAUPTSTIMME|NEBENSTIMME|END OF STIMME|DEGREE SLASH|
      COMBINING DOWN BOW|COMBINING UP BOW|COMBINING HARMONIC|COMBINING SNAP PIZZICATO|PEDAL MARK|
      PEDAL UP MARK|HALF PEDAL MARK|GLISSANDO UP|GLISSANDO DOWN|WITH FINGERNAILS|DAMP|DAMP ALL|
      MAXIMA|LONGA|BREVIS|SEMIBREVIS WHITE|SEMIBREVIS BLACK|MINIMA|MINIMA BLACK|SEMIMINIMA WHITE|
      SEMIMINIMA BLACK|FUSA WHITE|FUSA BLACK|LONGA PERFECTA REST|LONGA IMPERFECTA REST|BREVIS REST|
      SEMIBREVIS REST|MINIMA REST|SEMIMINIMA REST"⟩,
    ⟨0x1d1c7, "MUSICAL SYMBOL TEMPUS PERFECTUM CUM PROLATIONE ", "PERFECTA|IMPERFECTA|
      PERFECTA DIMINUTION-1"⟩,
    ⟨0x1d1ca, "MUSICAL SYMBOL TEMPUS IMPERFECTUM CUM PROLATIONE ", "PERFECTA|IMPERFECTA|
      IMPERFECTA DIMINUTION-1|IMPERFECTA DIMINUTION-2|IMPERFECTA DIMINUTION-3"⟩,
    ⟨0x1d1cf, "MUSICAL SYMBOL ", "CROIX|GREGORIAN C CLEF|GREGORIAN F CLEF|SQUARE B|VIRGA|PODATUS|
      CLIVIS|SCANDICUS|CLIMACUS|TORCULUS|PORRECTUS|PORRECTUS FLEXUS|SCANDICUS FLEXUS|
      TORCULUS RESUPINUS|PES SUBPUNCTIS"⟩,
    ⟨0x1d1de, "MUSICAL SYMBOL KIEVAN ", "C CLEF|END OF PIECE|FINAL NOTE|RECITATIVE MARK|WHOLE NOTE|
      HALF NOTE|QUARTER NOTE STEM DOWN|QUARTER NOTE STEM UP|EIGHTH NOTE STEM DOWN|
      EIGHTH NOTE STEM UP|FLAT SIGN"⟩,
    ⟨0x1d1e9, "MUSICAL SYMBOL ", "SORI|KORON"⟩,
    ⟨0x1d200, "GREEK VOCAL NOTATION SYMBOL-", "1|2|3|4|5|6|7|8|9|10|11|12|13|14|15|16|17|18|19|20|
      21|22|23|24|50|51|52|53|54"⟩,
    ⟨0x1d21d, "GREEK INSTRUMENTAL NOTATION SYMBOL-", "1|2|4|5|7|8|11|12|13|14|17|18|19|23|24|25|26|
      27|29|30|32|36|37|38|39|40|42|43|45|47|48|49|50|51|52|53|54"⟩,
    ⟨0x1d242, "COMBINING GREEK MUSICAL ", "TRISEME|TETRASEME|PENTASEME"⟩,
    ⟨0x1d245, "GREEK MUSICAL ", "LEIMMA"⟩,
    ⟨0x1d2e0, "MAYAN NUMERAL ", "ZERO|ONE|TWO|THREE|FOUR|FIVE|SIX|SEVEN|EIGHT|NINE|TEN|ELEVEN|
      TWELVE|THIRTEEN|FOURTEEN|FIFTEEN|SIXTEEN|SEVENTEEN|EIGHTEEN|NINETEEN"⟩,
    ⟨0x1d300, "MONOGRAM FOR ", "EARTH"⟩,
    ⟨0x1d301, "DIGRAM FOR ", "HEAVENLY EARTH|HUMAN EARTH|EARTHLY HEAVEN|EARTHLY HUMAN|EARTH"⟩,
    ⟨0x1d306, "TETRAGRAM FOR ", "CENTRE|FULL CIRCLE|MIRED|BARRIER|KEEPING SMALL|CONTRARIETY|ASCENT|
      OPPOSITION|BRANCHING OUT|DEFECTIVENESS OR DISTORTION|DIVERGENCE|YOUTHFULNESS|INCREASE|
      PENETRATION|REACH|CONTACT|HOLDING BACK|WAITING|FOLLOWING|ADVANCE|RELEASE|RESISTANCE|EASE|JOY|
      CONTENTION|ENDEAVOUR|DUTIES|CHANGE|DECISIVENESS|BOLD RESOLUTION|PACKING|LEGION|CLOSENESS|
      KINSHIP|GATHERING|STRENGTH|PURITY|FULLNESS|RESIDENCE|LAW OR MODEL|RESPONSE|GOING TO MEET|
      ENCOUNTERS|STOVE|GREATNESS|ENLARGEMENT|PATTERN|RITUAL|FLIGHT|VASTNESS OR WASTING|CONSTANCY|
      MEASURE|ETERNITY|UNITY|DIMINISHMENT|CLOSED MOUTH|GUARDEDNESS|GATHERING IN|MASSING|
      ACCUMULATION|EMBELLISHMENT|DOUBT|WATCH|SINKING|INNER|DEPARTURE|DARKENING|DIMMING|EXHAUSTION|
      SEVERANCE|STOPPAGE|HARDNESS|COMPLETION|CLOSURE|FAILURE|AGGRAVATION|COMPLIANCE|ON THE VERGE|
      DIFFICULTIES|LABOURING|FOSTERING"⟩,
    ⟨0x1d360, "COUNTING ROD UNIT DIGIT ", "ONE|TWO|THREE|FOUR|FIVE|SIX|SEVEN|EIGHT|NINE"⟩,
    ⟨0x1d369, "COUNTING ROD TENS DIGIT ", "ONE|TWO|THREE|FOUR|FIVE|SIX|SEVEN|EIGHT|NINE"⟩,
    ⟨0x1d372, "IDEOGRAPHIC TALLY MARK ", "ONE|TWO|THREE|FOUR|FIVE"⟩,
    ⟨0x1d377, "TALLY MARK ", "ONE|FIVE"⟩,
    ⟨0x1d400, "MATHEMATICAL BOLD CAPITAL ", "A|B|C|D|E|F|G|H|I|J|K|L|M|N|O|P|Q|R|S|T|U|V|W|X|Y|Z"⟩,
    ⟨0x1d41a, "MATHEMATICAL BOLD SMALL ", "A|B|C|D|E|F|G|H|I|J|K|L|M|N|O|P|Q|R|S|T|U|V|W|X|Y|Z"⟩,
    ⟨0x1d434, "MATHEMATICAL ITALIC CAPITAL ", "A|B|C|D|E|F|G|H|I|J|K|L|M|N|O|P|Q|R|S|T|U|V|W|X|Y|
      Z"⟩,
    ⟨0x1d44e, "MATHEMATICAL ITALIC SMALL ", "A|B|C|D|E|F|G"⟩,
    ⟨0x1d456, "MATHEMATICAL ITALIC SMALL ", "I|J|K|L|M|N|O|P|Q|R|S|T|U|V|W|X|Y|Z"⟩,
    ⟨0x1d468, "MATHEMATICAL BOLD ITALIC CAPITAL ", "A|B|C|D|E|F|G|H|I|J|K|L|M|N|O|P|Q|R|S|T|U|V|W|X|
      Y|Z"⟩,
    ⟨0x1d482, "MATHEMATICAL BOLD ITALIC SMALL ", "A|B|C|D|E|F|G|H|I|J|K|L|M|N|O|P|Q|R|S|T|U|V|W|X|Y|
      Z"⟩,
    ⟨0x1d49c, "MATHEMATICAL SCRIPT CAPITAL ", "A"⟩,
    ⟨0x1d49e, "MATHEMATICAL SCRIPT CAPITAL ", "C|D"⟩,
    ⟨0x1d4a2, "MATHEMATICAL SCRIPT CAPITAL ", "G"⟩,
    ⟨0x1d4a5, "MATHEMATICAL SCRIPT CAPITAL ", "J|K"⟩,
    ⟨0x1d4a9, "MATHEMATICAL SCRIPT CAPITAL ", "N|O|P|Q"⟩,
    ⟨0x1d4ae, "MATHEMATICAL SCRIPT CAPITAL ", "S|T|U|V|W|X|Y|Z"⟩,
    ⟨0x1d4b6, "MATHEMATICAL SCRIPT SMALL ", "A|B|C|D"⟩,
    ⟨0x1d4bb, "MATHEMATICAL SCRIPT SMALL ", "F"⟩,
    ⟨0x1d4bd, "MATHEMATICAL SCRIPT SMALL ", "H|I|J|K|L|M|N"⟩,
    ⟨0x1d4c5, "MATHEMATICAL SCRIPT SMALL ", "P|Q|R|S|T|U|V|W|X|Y|Z"⟩,
    ⟨0x1d4d0, "MATHEMATICAL BOLD SCRIPT CAPITAL ", "A|B|C|D|E|F|G|H|I|J|K|L|M|N|O|P|Q|R|S|T|U|V|W|X|
      Y|Z"⟩,
    ⟨0x1d4ea, "MATHEMATICAL BOLD SCRIPT SMALL ", "A|B|C|D|E|F|G|H|I|J|K|L|M|N|O|P|Q|R|S|T|U|V|W|X|Y|
      Z"⟩,
    ⟨0x1d504, "MATHEMATICAL FRAKTUR CAPITAL ", "A|B"⟩,
    ⟨0x1d507, "MATHEMATICAL FRAKTUR CAPITAL ", "D|E|F|G"⟩,
    ⟨0x1d50d, "MATHEMATICAL FRAKTUR CAPITAL ", "J|K|L|M|N|O|P|Q"⟩,
    ⟨0x1d516, "MATHEMATICAL FRAKTUR CAPITAL ", "S|T|U|V|W|X|Y"⟩,
    ⟨0x1d51e, "MATHEMATICAL FRAKTUR SMALL ", "A|B|C|D|E|F|G|H|I|J|K|L|M|N|O|P|Q|R|S|T|U|V|W|X|Y|Z"⟩,
    ⟨0x1d538, "MATHEMATICAL DOUBLE-STRUCK CAPITAL ", "A|B"⟩,
    ⟨0x1d53b, "MATHEMATICAL DOUBLE-STRUCK CAPITAL ", "D|E|F|G"⟩,
    ⟨0x1d540, "MATHEMATICAL DOUBLE-STRUCK CAPITAL ", "I|J|K|L|M"⟩,
    ⟨0x1d546, "MATHEMATICAL DOUBLE-STRUCK CAPITAL ", "O"⟩,
    ⟨0x1d54a, "MATHEMATICAL DOUBLE-STRUCK CAPITAL ", "S|T|U|V|W|X|Y"⟩,
    ⟨0x1d552, "MATHEMATICAL DOUBLE-STRUCK SMALL ", "A|B|C|D|E|F|G|H|I|J|K|L|M|N|O|P|Q|R|S|T|U|V|W|X|
      Y|Z"⟩,
    ⟨0x1d56c, "MATHEMATICAL BOLD FRAKTUR CAPITAL ", "A|B|C|D|E|F|G|H|I|J|K|L|M|N|O|P|Q|R|S|T|U|V|W|
      X|Y|Z"⟩,
    ⟨0x1d586, "MATHEMATICAL BOLD FRAKTUR SMALL ", "A|B|C|D|E|F|G|H|I|J|K|L|M|N|O|P|Q|R|S|T|U|V|W|X|
      Y|Z"⟩,
    ⟨0x1d5a0, "MATHEMATICAL SANS-SERIF CAPITAL ", "A|B|C|D|E|F|G|H|I|J|K|L|M|N|O|P|Q|R|S|T|U|V|W|X|
      Y|Z"⟩,
    ⟨0x1d5ba, "MATHEMATICAL SANS-SERIF SMALL ", "A|B|C|D|E|F|G|H|I|J|K|L|M|N|O|P|Q|R|S|T|U|V|W|X|Y|
      Z"⟩,
    ⟨0x1d5d4, "MATHEMATICAL SANS-SERIF BOLD CAPITAL ", "A|B|C|D|E|F|G|H|I|J|K|L|M|N|O|P|Q|R|S|T|U|V|
      W|X|Y|Z"⟩,
    ⟨0x1d5ee, "MATHEMATICAL SANS-SERIF BOLD SMALL ", "A|B|C|D|E|F|G|H|I|J|K|L|M|N|O|P|Q|R|S|T|U|V|W|
      X|Y|Z"⟩,
    ⟨0x1d608, "MATHEMATICAL SANS-SERIF ITALIC CAPITAL ", "A|B|C|D|E|F|G|H|I|J|K|L|M|N|O|P|Q|R|S|T|U|
      V|W|X|Y|Z"⟩,
    ⟨0x1d622, "MATHEMATICAL SANS-SERIF ITALIC SMALL ", "A|B|C|D|E|F|G|H|I|J|K|L|M|N|O|P|Q|R|S|T|U|V|
      W|X|Y|Z"⟩,
    ⟨0x1d63c, "MATHEMATICAL SANS-SERIF BOLD ITALIC CAPITAL ", "A|B|C|D|E|F|G|H|I|J|K|L|M|N|O|P|Q|R|
      S|T|U|V|W|X|Y|Z"⟩,
    ⟨0x1d656, "MATHEMATICAL SANS-SERIF BOLD ITALIC SMALL ", "A|B|C|D|E|F|G|H|I|J|K|L|M|N|O|P|Q|R|S|
      T|U|V|W|X|Y|Z"⟩,
    ⟨0x1d670, "MATHEMATICAL MONOSPACE CAPITAL ", "A|B|C|D|E|F|G|H|I|J|K|L|M|N|O|P|Q|R|S|T|U|V|W|X|Y|
      Z"⟩,
    ⟨0x1d68a, "MATHEMATICAL MONOSPACE SMALL ", "A|B|C|D|E|F|G|H|I|J|K|L|M|N|O|P|Q|R|S|T|U|V|W|X|Y|
      Z"⟩,
    ⟨0x1d6a4, "MATHEMATICAL ITALIC SMALL DOTLESS ", "I|J"⟩,
    ⟨0x1d6a8, "MATHEMATICAL BOLD CAPITAL ", "ALPHA|BETA|GAMMA|DELTA|EPSILON|ZETA|ETA|THETA|IOTA|
      KAPPA|LAMDA|MU|NU|XI|OMICRON|PI|RHO|THETA SYMBOL|SIGMA|TAU|UPSILON|PHI|CHI|PSI|OMEGA"⟩,
    ⟨0x1d6c1, "MATHEMATICAL BOLD ", "NABLA"⟩,
    ⟨0x1d6c2, "MATHEMATICAL BOLD SMALL ", "ALPHA|BETA|GAMMA|DELTA|EPSILON|ZETA|ETA|THETA|IOTA|KAPPA|
      LAMDA|MU|NU|XI|OMICRON|PI|RHO|FINAL SIGMA|SIGMA|TAU|UPSILON|PHI|CHI|PSI|OMEGA"⟩,
    ⟨0x1d6db, "MATHEMATICAL BOLD ", "PARTIAL DIFFERENTIAL|EPSILON SYMBOL|THETA SYMBOL|KAPPA SYMBOL|
      PHI SYMBOL|RHO SYMBOL|PI SYMBOL"⟩,
    ⟨0x1d6e2, "MATHEMATICAL ITALIC CAPITAL ", "ALPHA|BETA|GAMMA|DELTA|EPSILON|ZETA|ETA|THETA|IOTA|
      KAPPA|LAMDA|MU|NU|XI|OMICRON|PI|RHO|THETA SYMBOL|SIGMA|TAU|UPSILON|PHI|CHI|PSI|OMEGA"⟩,
    ⟨0x1d6fb, "MATHEMATICAL ITALIC ", "NABLA"⟩,
    ⟨0x1d6fc, "MATHEMATICAL ITALIC SMALL ", "ALPHA|BETA|GAMMA|DELTA|EPSILON|ZETA|ETA|THETA|IOTA|
      KAPPA|LAMDA|MU|NU|XI|OMICRON|PI|RHO|FINAL SIGMA|SIGMA|TAU|UPSILON|PHI|CHI|PSI|OMEGA"⟩,
    ⟨0x1d715, "MATHEMATICAL ITALIC ", "PARTIAL DIFFERENTIAL|EPSILON SYMBOL|THETA SYMBOL|
      KAPPA SYMBOL|PHI SYMBOL|RHO SYMBOL|PI SYMBOL"⟩,
    ⟨0x1d71c, "MATHEMATICAL BOLD ITALIC CAPITAL ", "ALPHA|BETA|GAMMA|DELTA|EPSILON|ZETA|ETA|THETA|
      IOTA|KAPPA|LAMDA|MU|NU|XI|OMICRON|PI|RHO|THETA SYMBOL|SIGMA|TAU|UPSILON|PHI|CHI|PSI|OMEGA"⟩,
    ⟨0x1d735, "MATHEMATICAL BOLD ITALIC ", "NABLA"⟩,
    ⟨0x1d736, "MATHEMATICAL BOLD ITALIC SMALL ", "ALPHA|BETA|GAMMA|DELTA|EPSILON|ZETA|ETA|THETA|
      IOTA|KAPPA|LAMDA|MU|NU|XI|OMICRON|PI|RHO|FINAL SIGMA|SIGMA|TAU|UPSILON|PHI|CHI|PSI|OMEGA"⟩,
    ⟨0x1d74f, "MATHEMATICAL BOLD ITALIC ", "PARTIAL DIFFERENTIAL|EPSILON SYMBOL|THETA SYMBOL|
      KAPPA SYMBOL|PHI SYMBOL|RHO SYMBOL|PI SYMBOL"⟩,
    ⟨0x1d756, "MATHEMATICAL SANS-SERIF BOLD CAPITAL ", "ALPHA|BETA|GAMMA|DELTA|EPSILON|ZETA|ETA|
      THETA|IOTA|KAPPA|LAMDA|MU|NU|XI|OMICRON|PI|RHO|THETA SYMBOL|SIGMA|TAU|UPSILON|PHI|CHI|PSI|
      OMEGA"⟩,
    ⟨0x1d76f, "MATHEMATICAL SANS-SERIF BOLD ", "NABLA"⟩,
    ⟨0x1d770, "MATHEMATICAL SANS-SERIF BOLD SMALL ", "ALPHA|BETA|GAMMA|DELTA|EPSILON|ZETA|ETA|THETA|
      IOTA|KAPPA|LAMDA|MU|NU|XI|OMICRON|PI|RHO|FINAL SIGMA|SIGMA|TAU|UPSILON|PHI|CHI|PSI|OMEGA"⟩,
    ⟨0x1d789, "MATHEMATICAL SANS-SERIF BOLD ", "PARTIAL DIFFERENTIAL|EPSILON SYMBOL|THETA SYMBOL|
      KAPPA SYMBOL|PHI SYMBOL|RHO SYMBOL|PI SYMBOL"⟩,
    ⟨0x1d790, "MATHEMATICAL SANS-SERIF BOLD ITALIC CAPITAL ", "ALPHA|BETA|GAMMA|DELTA|EPSILON|ZETA|
      ETA|THETA|IOTA|KAPPA|LAMDA|MU|NU|XI|OMICRON|PI|RHO|THETA SYMBOL|SIGMA|TAU|UPSILON|PHI|CHI|PSI|
      OMEGA"⟩,
    ⟨0x1d7a9, "MATHEMATICAL SANS-SERIF BOLD ITALIC ", "NABLA"⟩,
    ⟨0x1d7aa, "MATHEMATICAL SANS-SERIF BOLD ITALIC SMALL ", "ALPHA|BETA|GAMMA|DELTA|EPSILON|ZETA|
      ETA|THETA|IOTA|KAPPA|LAMDA|MU|NU|XI|OMICRON|PI|RHO|FINAL SIGMA|SIGMA|TAU|UPSILON|PHI|CHI|PSI|
      OMEGA"⟩,
    ⟨0x1d7c3, "MATHEMATICAL SANS-SERIF BOLD ITALIC ", "PARTIAL DIFFERENTIAL|EPSILON SYMBOL|
      THETA SYMBOL|KAPPA SYMBOL|PHI SYMBOL|RHO SYMBOL|PI SYMBOL"⟩,
    ⟨0x1d7ca, "MATHEMATICAL BOLD ", "CAPITAL DIGAMMA|SMALL DIGAMMA"⟩,
    ⟨0x1d7ce, "MATHEMATICAL BOLD DIGIT ", "ZERO|ONE|TWO|THREE|FOUR|FIVE|SIX|SEVEN|EIGHT|NINE"⟩,
    ⟨0x1d7d8, "MATHEMATICAL DOUBLE-STRUCK DIGIT ", "ZERO|ONE|TWO|THREE|FOUR|FIVE|SIX|SEVEN|EIGHT|
      NINE"⟩,
    ⟨0x1d7e2, "MATHEMATICAL SANS-SERIF DIGIT ", "ZERO|ONE|TWO|THREE|FOUR|FIVE|SIX|SEVEN|EIGHT|
      NINE"⟩,
    ⟨0x1d7ec, "MATHEMATICAL SANS-SERIF BOLD DIGIT ", "ZERO|ONE|TWO|THREE|FOUR|FIVE|SIX|SEVEN|EIGHT|
      NINE"⟩,
    ⟨0x1d7f6, "MATHEMATICAL MONOSPACE DIGIT ", "ZERO|ONE|TWO|THREE|FOUR|FIVE|SIX|SEVEN|EIGHT|NINE"⟩,
    ⟨0x1d800, "SIGNWRITING HAND-", "FIST INDEX|CIRCLE INDEX|CUP INDEX|OVAL INDEX|HINGE INDEX|
      ANGLE INDEX|FIST INDEX BENT|CIRCLE INDEX BENT|FIST THUMB UNDER INDEX BENT|
      FIST INDEX RAISED KNUCKLE|FIST INDEX CUPPED|FIST INDEX HINGED|FIST INDEX HINGED LOW|
      CIRCLE INDEX HINGE|FIST INDEX MIDDLE|CIRCLE INDEX MIDDLE"⟩,
    ⟨0x1d810, "SIGNWRITING HAND-FIST INDEX ", "MIDDLE BENT|MIDDLE RAISED KNUCKLES|MIDDLE HINGED|
      UP MIDDLE HINGED|HINGED MIDDLE UP|MIDDLE CONJOINED|MIDDLE CONJOINED INDEX BENT|
      MIDDLE CONJOINED MIDDLE BENT|MIDDLE CONJOINED CUPPED|MIDDLE CONJOINED HINGED|MIDDLE CROSSED"⟩,
    ⟨0x1d81b, "SIGNWRITING HAND-", "CIRCLE INDEX MIDDLE CROSSED|FIST MIDDLE BENT OVER INDEX|
      FIST INDEX BENT OVER MIDDLE|FIST INDEX MIDDLE THUMB|CIRCLE INDEX MIDDLE THUMB"⟩,
    ⟨0x1d820, "SIGNWRITING HAND-FIST INDEX ", "MIDDLE STRAIGHT THUMB BENT|
      MIDDLE BENT THUMB STRAIGHT|MIDDLE THUMB BENT|MIDDLE HINGED SPREAD THUMB SIDE|
      UP MIDDLE HINGED THUMB SIDE|UP MIDDLE HINGED THUMB CONJOINED|HINGED MIDDLE UP THUMB SIDE|
      MIDDLE UP SPREAD THUMB FORWARD|MIDDLE THUMB CUPPED|MIDDLE THUMB CIRCLED|MIDDLE THUMB HOOKED|
      MIDDLE THUMB HINGED"⟩,
    ⟨0x1d82c, "SIGNWRITING HAND-FIST ", "THUMB BETWEEN INDEX MIDDLE STRAIGHT|
      INDEX MIDDLE CONJOINED THUMB SIDE|INDEX MIDDLE CONJOINED THUMB SIDE CONJOINED|
      INDEX MIDDLE CONJOINED THUMB SIDE BENT|MIDDLE THUMB HOOKED INDEX UP|
      INDEX THUMB HOOKED MIDDLE UP|INDEX MIDDLE CONJOINED HINGED THUMB SIDE|
      INDEX MIDDLE CROSSED THUMB SIDE|INDEX MIDDLE CONJOINED THUMB FORWARD|
      INDEX MIDDLE CONJOINED CUPPED THUMB FORWARD|MIDDLE THUMB CUPPED INDEX UP|
      INDEX THUMB CUPPED MIDDLE UP|MIDDLE THUMB CIRCLED INDEX UP|MIDDLE THUMB CIRCLED INDEX HINGED|
      INDEX THUMB ANGLED OUT MIDDLE UP|INDEX THUMB ANGLED IN MIDDLE UP|
      INDEX THUMB CIRCLED MIDDLE UP|INDEX MIDDLE THUMB CONJOINED HINGED|
      INDEX MIDDLE THUMB ANGLED OUT|INDEX MIDDLE THUMB ANGLED|MIDDLE THUMB ANGLED OUT INDEX UP|
      MIDDLE THUMB ANGLED OUT INDEX CROSSED|MIDDLE THUMB ANGLED INDEX UP|
      INDEX THUMB HOOKED MIDDLE HINGED"⟩,
    ⟨0x1d844, "SIGNWRITING HAND-FLAT FOUR ", "FINGERS|FINGERS BENT|FINGERS HINGED|FINGERS CONJOINED|
      FINGERS CONJOINED SPLIT"⟩,
    ⟨0x1d849, "SIGNWRITING HAND-", "CLAW FOUR FINGERS CONJOINED|FIST FOUR FINGERS CONJOINED BENT|
      HINGE FOUR FINGERS CONJOINED|FLAT FIVE FINGERS SPREAD|FLAT HEEL FIVE FINGERS SPREAD|
      FLAT FIVE FINGERS SPREAD FOUR BENT|FLAT HEEL FIVE FINGERS SPREAD FOUR BENT|
      FLAT FIVE FINGERS SPREAD BENT|FLAT HEEL FIVE FINGERS SPREAD BENT|
      FLAT FIVE FINGERS SPREAD THUMB FORWARD|CUP FIVE FINGERS SPREAD|CUP FIVE FINGERS SPREAD OPEN|
      HINGE FIVE FINGERS SPREAD OPEN|OVAL FIVE FINGERS SPREAD|FLAT FIVE FINGERS SPREAD HINGED|
      FLAT FIVE FINGERS SPREAD HINGED THUMB SIDE|FLAT FIVE FINGERS SPREAD HINGED NO THUMB|FLAT|
      FLAT BETWEEN PALM FACINGS|FLAT HEEL|FLAT THUMB SIDE|FLAT HEEL THUMB SIDE|FLAT THUMB BENT|
      FLAT THUMB FORWARD|FLAT SPLIT INDEX THUMB SIDE|FLAT SPLIT CENTRE|FLAT SPLIT CENTRE THUMB SIDE|
      FLAT SPLIT CENTRE THUMB SIDE BENT|FLAT SPLIT LITTLE|CLAW|CLAW THUMB SIDE|CLAW NO THUMB|
      CLAW THUMB FORWARD|HOOK CURLICUE|HOOK|CUP OPEN|CUP|CUP OPEN THUMB SIDE|CUP THUMB SIDE|
      CUP OPEN NO THUMB|CUP NO THUMB|CUP OPEN THUMB FORWARD|CUP THUMB FORWARD|CURLICUE OPEN|
      CURLICUE|CIRCLE|OVAL|OVAL THUMB SIDE|OVAL NO THUMB|OVAL THUMB FORWARD|HINGE OPEN|
      HINGE OPEN THUMB FORWARD|HINGE|HINGE SMALL|HINGE OPEN THUMB SIDE|HINGE THUMB SIDE|
      HINGE OPEN NO THUMB|HINGE NO THUMB|HINGE THUMB SIDE TOUCHING INDEX|
      HINGE THUMB BETWEEN MIDDLE RING|ANGLE|FIST INDEX MIDDLE RING|CIRCLE INDEX MIDDLE RING|
      HINGE INDEX MIDDLE RING|ANGLE INDEX MIDDLE RING|HINGE LITTLE|FIST INDEX MIDDLE RING BENT|
      FIST INDEX MIDDLE RING CONJOINED|HINGE INDEX MIDDLE RING CONJOINED|FIST LITTLE DOWN|
      FIST LITTLE DOWN RIPPLE STRAIGHT|FIST LITTLE DOWN RIPPLE CURVED|
      FIST LITTLE DOWN OTHERS CIRCLED|FIST LITTLE UP|FIST THUMB UNDER LITTLE UP|CIRCLE LITTLE UP|
      OVAL LITTLE UP|ANGLE LITTLE UP|FIST LITTLE RAISED KNUCKLE|FIST LITTLE BENT|
      FIST LITTLE TOUCHES THUMB|FIST LITTLE THUMB|HINGE LITTLE THUMB|FIST LITTLE INDEX THUMB|
      HINGE LITTLE INDEX THUMB|ANGLE LITTLE INDEX THUMB INDEX THUMB OUT|
      ANGLE LITTLE INDEX THUMB INDEX THUMB|FIST LITTLE INDEX|CIRCLE LITTLE INDEX|HINGE LITTLE INDEX|
      ANGLE LITTLE INDEX|FIST INDEX MIDDLE LITTLE|CIRCLE INDEX MIDDLE LITTLE|
      HINGE INDEX MIDDLE LITTLE|HINGE RING|ANGLE INDEX MIDDLE LITTLE|FIST INDEX MIDDLE CROSS LITTLE|
      CIRCLE INDEX MIDDLE CROSS LITTLE|FIST RING DOWN|HINGE RING DOWN INDEX THUMB HOOK MIDDLE|
      ANGLE RING DOWN MIDDLE THUMB INDEX CROSS|FIST RING UP|FIST RING RAISED KNUCKLE|
      FIST RING LITTLE|CIRCLE RING LITTLE|OVAL RING LITTLE|ANGLE RING LITTLE|FIST RING MIDDLE|
      FIST RING MIDDLE CONJOINED|FIST RING MIDDLE RAISED KNUCKLES|FIST RING INDEX|FIST RING THUMB|
      HOOK RING THUMB|FIST INDEX RING LITTLE|CIRCLE INDEX RING LITTLE|CURLICUE INDEX RING LITTLE ON|
      HOOK INDEX RING LITTLE OUT|HOOK INDEX RING LITTLE IN|HOOK INDEX RING LITTLE UNDER|
      CUP INDEX RING LITTLE|HINGE INDEX RING LITTLE|ANGLE INDEX RING LITTLE OUT|
      ANGLE INDEX RING LITTLE|FIST MIDDLE DOWN|HINGE MIDDLE|FIST MIDDLE UP|CIRCLE MIDDLE UP|
      FIST MIDDLE RAISED KNUCKLE|FIST MIDDLE UP THUMB SIDE|HOOK MIDDLE THUMB|
      FIST MIDDLE THUMB LITTLE|FIST MIDDLE LITTLE|FIST MIDDLE RING LITTLE|CIRCLE MIDDLE RING LITTLE|
      CURLICUE MIDDLE RING LITTLE ON|CUP MIDDLE RING LITTLE|HINGE MIDDLE RING LITTLE|
      ANGLE MIDDLE RING LITTLE OUT|ANGLE MIDDLE RING LITTLE IN|ANGLE MIDDLE RING LITTLE|
      CIRCLE MIDDLE RING LITTLE BENT|CLAW MIDDLE RING LITTLE CONJOINED|
      CLAW MIDDLE RING LITTLE CONJOINED SIDE|HOOK MIDDLE RING LITTLE CONJOINED OUT|
      HOOK MIDDLE RING LITTLE CONJOINED IN|HOOK MIDDLE RING LITTLE CONJOINED|HINGE INDEX HINGED|
      FIST INDEX THUMB SIDE|HINGE INDEX THUMB SIDE"⟩,
    ⟨0x1d8de, "SIGNWRITING HAND-FIST INDEX THUMB ", "SIDE THUMB DIAGONAL|SIDE THUMB CONJOINED|
      SIDE THUMB BENT|SIDE INDEX BENT|SIDE BOTH BENT|SIDE INDEX HINGE|FORWARD INDEX STRAIGHT|
      FORWARD INDEX BENT|HOOK|CURLICUE|CURVE THUMB INSIDE"⟩,
    ⟨0x1d8e9, "SIGNWRITING HAND-", "CLAW INDEX THUMB CURVE THUMB INSIDE|
      FIST INDEX THUMB CURVE THUMB UNDER|FIST INDEX THUMB CIRCLE|CUP INDEX THUMB|
      CUP INDEX THUMB OPEN|HINGE INDEX THUMB OPEN|HINGE INDEX THUMB LARGE|HINGE INDEX THUMB|
      HINGE INDEX THUMB SMALL|ANGLE INDEX THUMB OUT|ANGLE INDEX THUMB IN|ANGLE INDEX THUMB|
      FIST THUMB"⟩,
    ⟨0x1d8f6, "SIGNWRITING HAND-FIST THUMB ", "HEEL|SIDE DIAGONAL|SIDE CONJOINED|SIDE BENT|FORWARD|
      BETWEEN INDEX MIDDLE|BETWEEN MIDDLE RING|BETWEEN RING LITTLE|UNDER TWO FINGERS|
      OVER TWO FINGERS|UNDER THREE FINGERS|UNDER FOUR FINGERS|OVER FOUR RAISED KNUCKLES"⟩,
    ⟨0x1d903, "SIGNWRITING ", "HAND-FIST|HAND-FIST HEEL|TOUCH SINGLE|TOUCH MULTIPLE|TOUCH BETWEEN|
      GRASP SINGLE|GRASP MULTIPLE|GRASP BETWEEN|STRIKE SINGLE|STRIKE MULTIPLE|STRIKE BETWEEN|
      BRUSH SINGLE|BRUSH MULTIPLE|BRUSH BETWEEN|RUB SINGLE|RUB MULTIPLE|RUB BETWEEN|SURFACE SYMBOLS|
      SURFACE BETWEEN|SQUEEZE LARGE SINGLE|SQUEEZE SMALL SINGLE|SQUEEZE LARGE MULTIPLE|
      SQUEEZE SMALL MULTIPLE|SQUEEZE SEQUENTIAL|FLICK LARGE SINGLE|FLICK SMALL SINGLE|
      FLICK LARGE MULTIPLE|FLICK SMALL MULTIPLE|FLICK SEQUENTIAL|SQUEEZE FLICK ALTERNATING"⟩,
    ⟨0x1d921, "SIGNWRITING MOVEMENT-", "HINGE UP DOWN LARGE|HINGE UP DOWN SMALL|HINGE UP SEQUENTIAL|
      HINGE DOWN SEQUENTIAL|HINGE UP DOWN ALTERNATING LARGE|HINGE UP DOWN ALTERNATING SMALL|
      HINGE SIDE TO SIDE SCISSORS|WALLPLANE FINGER CONTACT|FLOORPLANE FINGER CONTACT"⟩,
    ⟨0x1d92a, "SIGNWRITING MOVEMENT-WALLPLANE ", "SINGLE STRAIGHT SMALL|SINGLE STRAIGHT MEDIUM|
      SINGLE STRAIGHT LARGE|SINGLE STRAIGHT LARGEST|SINGLE WRIST FLEX|DOUBLE STRAIGHT|
      DOUBLE WRIST FLEX|DOUBLE ALTERNATING|DOUBLE ALTERNATING WRIST FLEX|CROSS|
      TRIPLE STRAIGHT MOVEMENT|TRIPLE WRIST FLEX|TRIPLE ALTERNATING|TRIPLE ALTERNATING WRIST FLEX|
      BEND SMALL|BEND MEDIUM|BEND LARGE|CORNER SMALL|CORNER MEDIUM|CORNER LARGE|CORNER ROTATION|
      CHECK SMALL|CHECK MEDIUM|CHECK LARGE|BOX SMALL|BOX MEDIUM|BOX LARGE|ZIGZAG SMALL|
      ZIGZAG MEDIUM|ZIGZAG LARGE|PEAKS SMALL|PEAKS MEDIUM|PEAKS LARGE"⟩,
    ⟨0x1d94b, "SIGNWRITING TRAVEL-WALLPLANE ", "ROTATION-WALLPLANE SINGLE|ROTATION-WALLPLANE DOUBLE|
      ROTATION-WALLPLANE ALTERNATING|ROTATION-FLOORPLANE SINGLE|ROTATION-FLOORPLANE DOUBLE|
      ROTATION-FLOORPLANE ALTERNATING|SHAKING|ARM SPIRAL SINGLE|ARM SPIRAL DOUBLE|
      ARM SPIRAL TRIPLE"⟩,
    ⟨0x1d955, "SIGNWRITING MOVEMENT-DIAGONAL ", "AWAY SMALL|AWAY MEDIUM|AWAY LARGE|AWAY LARGEST|
      TOWARDS SMALL|TOWARDS MEDIUM|TOWARDS LARGE|TOWARDS LARGEST"⟩,
    ⟨0x1d95d, "SIGNWRITING MOVEMENT-DIAGONAL BETWEEN ", "AWAY SMALL|AWAY MEDIUM|AWAY LARGE|
      AWAY LARGEST|TOWARDS SMALL|TOWARDS MEDIUM|TOWARDS LARGE|TOWARDS LARGEST"⟩,
    ⟨0x1d965, "SIGNWRITING MOVEMENT-FLOORPLANE ", "SINGLE STRAIGHT SMALL|SINGLE STRAIGHT MEDIUM|
      SINGLE STRAIGHT LARGE|SINGLE STRAIGHT LARGEST|SINGLE WRIST FLEX|DOUBLE STRAIGHT|
      DOUBLE WRIST FLEX|DOUBLE ALTERNATING|DOUBLE ALTERNATING WRIST FLEX|CROSS|
      TRIPLE STRAIGHT MOVEMENT|TRIPLE WRIST FLEX|TRIPLE ALTERNATING MOVEMENT|
      TRIPLE ALTERNATING WRIST FLEX|BEND|CORNER SMALL|CORNER MEDIUM|CORNER LARGE|CHECK|BOX SMALL|
      BOX MEDIUM|BOX LARGE|ZIGZAG SMALL|ZIGZAG MEDIUM|ZIGZAG LARGE|PEAKS SMALL|PEAKS MEDIUM|
      PEAKS LARGE"⟩,
    ⟨0x1d981, "SIGNWRITING TRAVEL-FLOORPLANE ", "ROTATION-FLOORPLANE SINGLE|
      ROTATION-FLOORPLANE DOUBLE|ROTATION-FLOORPLANE ALTERNATING|ROTATION-WALLPLANE SINGLE|
      ROTATION-WALLPLANE DOUBLE|ROTATION-WALLPLANE ALTERNATING|SHAKING"⟩,
    ⟨0x1d988, "SIGNWRITING MOVEMENT-WALLPLANE CURVE ", "QUARTER SMALL|QUARTER MEDIUM|QUARTER LARGE|
      QUARTER LARGEST|HALF-CIRCLE SMALL|HALF-CIRCLE MEDIUM|HALF-CIRCLE LARGE|HALF-CIRCLE LARGEST|
      THREE-QUARTER CIRCLE SMALL|THREE-QUARTER CIRCLE MEDIUM"⟩,
    ⟨0x1d992, "SIGNWRITING MOVEMENT-WALLPLANE ", "HUMP SMALL|HUMP MEDIUM|HUMP LARGE|LOOP SMALL|
      LOOP MEDIUM|LOOP LARGE|LOOP SMALL DOUBLE|WAVE CURVE DOUBLE SMALL|WAVE CURVE DOUBLE MEDIUM|
      WAVE CURVE DOUBLE LARGE|WAVE CURVE TRIPLE SMALL|WAVE CURVE TRIPLE MEDIUM|
      WAVE CURVE TRIPLE LARGE|CURVE THEN STRAIGHT|CURVED CROSS SMALL|CURVED CROSS MEDIUM"⟩,
    ⟨0x1d9a2, "SIGNWRITING ROTATION-WALLPLANE ", "SINGLE|DOUBLE|ALTERNATE"⟩,
    ⟨0x1d9a5, "SIGNWRITING MOVEMENT-WALLPLANE ", "SHAKING|CURVE HITTING FRONT WALL|
      HUMP HITTING FRONT WALL|LOOP HITTING FRONT WALL|WAVE HITTING FRONT WALL"⟩,
    ⟨0x1d9aa, "SIGNWRITING ROTATION-WALLPLANE ", "SINGLE HITTING FRONT WALL|
      DOUBLE HITTING FRONT WALL|ALTERNATING HITTING FRONT WALL"⟩,
    ⟨0x1d9ad, "SIGNWRITING MOVEMENT-WALLPLANE ", "CURVE HITTING CHEST|HUMP HITTING CHEST|
      LOOP HITTING CHEST|WAVE HITTING CHEST"⟩,
    ⟨0x1d9b1, "SIGNWRITING ROTATION-WALLPLANE ", "SINGLE HITTING CHEST|DOUBLE HITTING CHEST|
      ALTERNATING HITTING CHEST"⟩,
    ⟨0x1d9b4, "SIGNWRITING MOVEMENT-WALLPLANE WAVE DIAGONAL PATH ", "SMALL|MEDIUM|LARGE"⟩,
    ⟨0x1d9b7, "SIGNWRITING MOVEMENT-FLOORPLANE CURVE HITTING CEILING ", "SMALL|LARGE"⟩,
    ⟨0x1d9b9, "SIGNWRITING MOVEMENT-FLOORPLANE HUMP HITTING CEILING ", "SMALL DOUBLE|LARGE DOUBLE|
      SMALL TRIPLE|LARGE TRIPLE"⟩,
    ⟨0x1d9bd, "SIGNWRITING MOVEMENT-FLOORPLANE LOOP HITTING CEILING ", "SMALL SINGLE|LARGE SINGLE|
      SMALL DOUBLE|LARGE DOUBLE"⟩,
    ⟨0x1d9c1, "SIGNWRITING MOVEMENT-FLOORPLANE WAVE HITTING CEILING ", "SMALL|LARGE"⟩,
    ⟨0x1d9c3, "SIGNWRITING ROTATION-FLOORPLANE ", "SINGLE HITTING CEILING|DOUBLE HITTING CEILING|
      ALTERNATING HITTING CEILING"⟩,
    ⟨0x1d9c6, "SIGNWRITING MOVEMENT-FLOORPLANE CURVE HITTING FLOOR ", "SMALL|LARGE"⟩,
    ⟨0x1d9c8, "SIGNWRITING MOVEMENT-FLOORPLANE HUMP HITTING FLOOR ", "SMALL DOUBLE|LARGE DOUBLE|
      TRIPLE SMALL TRIPLE|TRIPLE LARGE TRIPLE"⟩,
    ⟨0x1d9cc, "SIGNWRITING MOVEMENT-FLOORPLANE LOOP HITTING FLOOR ", "SMALL SINGLE|LARGE SINGLE|
      SMALL DOUBLE|LARGE DOUBLE"⟩,
    ⟨0x1d9d0, "SIGNWRITING MOVEMENT-FLOORPLANE WAVE HITTING FLOOR ", "SMALL|LARGE"⟩,
    ⟨0x1d9d2, "SIGNWRITING ROTATION-FLOORPLANE ", "SINGLE HITTING FLOOR|DOUBLE HITTING FLOOR|
      ALTERNATING HITTING FLOOR"⟩,
    ⟨0x1d9d5, "SIGNWRITING MOVEMENT-FLOORPLANE ", "CURVE SMALL|CURVE MEDIUM|CURVE LARGE|
      CURVE LARGEST|CURVE COMBINED|HUMP SMALL|LOOP SMALL|WAVE SNAKE|WAVE SMALL|WAVE LARGE"⟩,
    ⟨0x1d9df, "SIGNWRITING ROTATION-FLOORPLANE ", "SINGLE|DOUBLE|ALTERNATING"⟩,
    ⟨0x1d9e2, "SIGNWRITING MOVEMENT-FLOORPLANE SHAKING ", "PARALLEL"⟩,
    ⟨0x1d9e3, "SIGNWRITING MOVEMENT-WALLPLANE ARM CIRCLE ", "SMALL SINGLE|MEDIUM SINGLE|
      SMALL DOUBLE|MEDIUM DOUBLE"⟩,
    ⟨0x1d9e7, "SIGNWRITING MOVEMENT-FLOORPLANE ARM CIRCLE HITTING WALL ", "SMALL SINGLE|
      MEDIUM SINGLE|LARGE SINGLE|SMALL DOUBLE|MEDIUM DOUBLE|LARGE DOUBLE"⟩,
    ⟨0x1d9ed, "SIGNWRITING MOVEMENT-WALLPLANE WRIST CIRCLE FRONT ", "SINGLE|DOUBLE"⟩,
    ⟨0x1d9ef, "SIGNWRITING MOVEMENT-FLOORPLANE WRIST CIRCLE HITTING WALL ", "SINGLE|DOUBLE"⟩,
    ⟨0x1d9f1, "SIGNWRITING MOVEMENT-WALLPLANE FINGER CIRCLES ", "SINGLE|DOUBLE"⟩,
    ⟨0x1d9f3, "SIGNWRITING MOVEMENT-FLOORPLANE FINGER CIRCLES HITTING WALL ", "SINGLE|DOUBLE"⟩,
    ⟨0x1d9f5, "SIGNWRITING DYNAMIC ", "ARROWHEAD SMALL|ARROWHEAD LARGE|FAST|SLOW|TENSE|RELAXED|
      SIMULTANEOUS|SIMULTANEOUS ALTERNATING|EVERY OTHER TIME|GRADUAL"⟩,
    ⟨0x1d9ff, "SIGNWRITING ", "HEAD"⟩,
    ⟨0x1da00, "SIGNWRITING HEAD ", "RIM|MOVEMENT-WALLPLANE STRAIGHT|MOVEMENT-WALLPLANE TILT|
      MOVEMENT-FLOORPLANE STRAIGHT|MOVEMENT-WALLPLANE CURVE|MOVEMENT-FLOORPLANE CURVE|
      MOVEMENT CIRCLE"⟩,
    ⟨0x1da07, "SIGNWRITING FACE DIRECTION POSITION NOSE ", "FORWARD TILTING|UP OR DOWN|
      UP OR DOWN TILTING"⟩,
    ⟨0x1da0a, "SIGNWRITING EYEBROWS STRAIGHT ", "UP|NEUTRAL|DOWN"⟩,
    ⟨0x1da0d, "SIGNWRITING DREAMY EYEBROWS ", "NEUTRAL DOWN|DOWN NEUTRAL|UP NEUTRAL|NEUTRAL UP"⟩,
    ⟨0x1da11, "SIGNWRITING ", "FOREHEAD NEUTRAL|FOREHEAD CONTACT|FOREHEAD WRINKLED|EYES OPEN|
      EYES SQUEEZED|EYES CLOSED|EYE BLINK SINGLE|EYE BLINK MULTIPLE|EYES HALF OPEN|EYES WIDE OPEN|
      EYES HALF CLOSED|EYES WIDENING MOVEMENT|EYE WINK|EYELASHES UP|EYELASHES DOWN|
      EYELASHES FLUTTERING"⟩,
    ⟨0x1da21, "SIGNWRITING EYEGAZE-", "WALLPLANE STRAIGHT|WALLPLANE STRAIGHT DOUBLE|
      WALLPLANE STRAIGHT ALTERNATING|FLOORPLANE STRAIGHT|FLOORPLANE STRAIGHT DOUBLE|
      FLOORPLANE STRAIGHT ALTERNATING|WALLPLANE CURVED|FLOORPLANE CURVED|WALLPLANE CIRCLING"⟩,
    ⟨0x1da2a, "SIGNWRITING ", "CHEEKS PUFFED|CHEEKS NEUTRAL|CHEEKS SUCKED|TENSE CHEEKS HIGH|
      TENSE CHEEKS MIDDLE|TENSE CHEEKS LOW|EARS|NOSE NEUTRAL|NOSE CONTACT|NOSE WRINKLES|
      NOSE WIGGLES|AIR BLOWING OUT|AIR SUCKING IN|AIR BLOW SMALL ROTATIONS|AIR SUCK SMALL ROTATIONS|
      BREATH INHALE|BREATH EXHALE"⟩,
    ⟨0x1da3b, "SIGNWRITING MOUTH ", "CLOSED NEUTRAL|CLOSED FORWARD|CLOSED CONTACT|SMILE|
      SMILE WRINKLED|SMILE OPEN|FROWN|FROWN WRINKLED|FROWN OPEN|OPEN CIRCLE|OPEN FORWARD|
      OPEN WRINKLED|OPEN OVAL|OPEN OVAL WRINKLED|OPEN OVAL YAWN|OPEN RECTANGLE|
      OPEN RECTANGLE WRINKLED|OPEN RECTANGLE YAWN|KISS|KISS FORWARD|KISS WRINKLED|TENSE|
      TENSE FORWARD|TENSE SUCKED"⟩,
    ⟨0x1da53, "SIGNWRITING ", "LIPS PRESSED TOGETHER|LIP LOWER OVER UPPER|LIP UPPER OVER LOWER|
      MOUTH CORNERS|MOUTH WRINKLES SINGLE|MOUTH WRINKLES DOUBLE|TONGUE STICKING OUT FAR|
      TONGUE LICKING LIPS|TONGUE TIP BETWEEN LIPS|TONGUE TIP TOUCHING INSIDE MOUTH|
      TONGUE INSIDE MOUTH RELAXED|TONGUE MOVES AGAINST CHEEK|TONGUE CENTRE STICKING OUT|
      TONGUE CENTRE INSIDE MOUTH|TEETH|TEETH MOVEMENT|TEETH ON TONGUE|TEETH ON TONGUE MOVEMENT|
      TEETH ON LIPS|TEETH ON LIPS MOVEMENT|TEETH BITE LIPS|MOVEMENT-WALLPLANE JAW|
      MOVEMENT-FLOORPLANE JAW|NECK|HAIR|EXCITEMENT|SHOULDER HIP SPINE|SHOULDER HIP POSITIONS|
      WALLPLANE SHOULDER HIP MOVE|FLOORPLANE SHOULDER HIP MOVE|SHOULDER TILTING FROM WAIST|
      TORSO-WALLPLANE STRAIGHT STRETCH|TORSO-WALLPLANE CURVED BEND|TORSO-FLOORPLANE TWISTING|
      UPPER BODY TILTING FROM HIP JOINTS|LIMB COMBINATION"⟩,
    ⟨0x1da77, "SIGNWRITING LIMB LENGTH-", "1|2|3|4|5|6|7"⟩,
    ⟨0x1da7e, "SIGNWRITING ", "FINGER|LOCATION-WALLPLANE SPACE|LOCATION-FLOORPLANE SPACE|
      LOCATION HEIGHT|LOCATION WIDTH|LOCATION DEPTH|LOCATION HEAD NECK|LOCATION TORSO|
      LOCATION LIMBS DIGITS|COMMA|FULL STOP|SEMICOLON|COLON|PARENTHESIS"⟩,
    ⟨0x1da9b, "SIGNWRITING FILL MODIFIER-", "2|3|4|5|6"⟩,
    ⟨0x1daa1, "SIGNWRITING ROTATION MODIFIER-", "2|3|4|5|6|7|8|9|10|11|12|13|14|15|16"⟩,
    ⟨0x1df00, "LATIN ", "SMALL LETTER FENG DIGRAPH WITH TRILL|SMALL LETTER REVERSED SCRIPT G|
      LETTER SMALL CAPITAL TURNED G|SMALL LETTER REVERSED K|LETTER SMALL CAPITAL L WITH BELT"⟩,
    ⟨0x1df05, "LATIN SMALL LETTER ", "LEZH WITH RETROFLEX HOOK|TURNED Y WITH BELT|REVERSED ENG|
      TURNED R WITH LONG LEG AND RETROFLEX HOOK|T WITH HOOK AND RETROFLEX HOOK"⟩,
    ⟨0x1df0a, "LATIN ", "LETTER RETROFLEX CLICK WITH RETROFLEX HOOK|
      SMALL LETTER ESH WITH DOUBLE BAR|SMALL LETTER ESH WITH DOUBLE BAR AND CURL|
      SMALL LETTER TURNED T WITH CURL|LETTER INVERTED GLOTTAL STOP WITH CURL|
      LETTER STRETCHED C WITH CURL|LETTER SMALL CAPITAL TURNED K"⟩,
    ⟨0x1df11, "LATIN SMALL LETTER ", "L WITH FISHHOOK|DEZH DIGRAPH WITH PALATAL HOOK|
      L WITH BELT AND PALATAL HOOK|ENG WITH PALATAL HOOK|TURNED R WITH PALATAL HOOK|
      R WITH FISHHOOK AND PALATAL HOOK|TESH DIGRAPH WITH PALATAL HOOK|EZH WITH PALATAL HOOK|
      DEZH DIGRAPH WITH RETROFLEX HOOK|I WITH STROKE AND RETROFLEX HOOK|O WITH RETROFLEX HOOK|
      TESH DIGRAPH WITH RETROFLEX HOOK|C WITH RETROFLEX HOOK|S WITH CURL"⟩,
    ⟨0x1e000, "COMBINING GLAGOLITIC LETTER ", "AZU|BUKY|VEDE|GLAGOLI|DOBRO|YESTU|ZHIVETE"⟩,
    ⟨0x1e008, "COMBINING GLAGOLITIC LETTER ", "ZEMLJA|IZHE|INITIAL IZHE|I|DJERVI|KAKO|LJUDIJE|
      MYSLITE|NASHI|ONU|POKOJI|RITSI|SLOVO|TVRIDO|UKU|FRITU|HERU"⟩,
    ⟨0x1e01b, "COMBINING GLAGOLITIC LETTER ", "SHTA|TSI|CHRIVI|SHA|YERU|YERI|YATI"⟩,
    ⟨0x1e023, "COMBINING GLAGOLITIC LETTER ", "YU|SMALL YUS"⟩,
    ⟨0x1e026, "COMBINING GLAGOLITIC LETTER ", "YO|IOTATED SMALL YUS|BIG YUS|IOTATED BIG YUS|FITA"⟩,
    ⟨0x1e100, "NYIAKENG PUACHUE HMONG LETTER ", "MA|TSA|NTA|TA|HA|NA|XA|NKA|CA|LA|SA|ZA|NCA|NTSA|KA|
      DA|NYA|NRA|VA|NTXA|TXA|FA|RA|QA|YA|NQA|PA|XYA|NPA|DLA|NPLA|HAH|MLA|PLA|GA|RRA|A|AA|I|U|O|OO|E|
      EE|W"⟩,
    ⟨0x1e130, "NYIAKENG PUACHUE HMONG ", "TONE-B|TONE-M|TONE-J|TONE-V|TONE-S|TONE-G|TONE-D|
      SIGN FOR PERSON|SIGN FOR THING|SIGN FOR LOCATION|SIGN FOR ANIMAL|SIGN FOR INVERTEBRATE|
      SIGN XW XW|SYLLABLE LENGTHENER"⟩,
    ⟨0x1e140, "NYIAKENG PUACHUE HMONG DIGIT ", "ZERO|ONE|TWO|THREE|FOUR|FIVE|SIX|SEVEN|EIGHT|NINE"⟩,
    ⟨0x1e14e, "NYIAKENG PUACHUE HMONG ", "LOGOGRAM NYAJ|CIRCLED CA"⟩,
    ⟨0x1e290, "TOTO LETTER ", "PA|BA|TA|DA|KA|GA|MA|NA|NGA|SA|CHA|YA|WA|JA|HA|RA|LA|I|BREATHY I|IU|
      BREATHY IU|U|E|BREATHY E|EO|BREATHY EO|O|AE|BREATHY AE|A"⟩,
    ⟨0x1e2ae, "TOTO SIGN RISING ", "TONE"⟩,
    ⟨0x1e2c0, "WANCHO LETTER ", "AA|A|BA|CA|DA|GA|YA|PHA|LA|NA|PA|TA|THA|FA|SA|SHA|JA|ZA|WA|VA|KA|O|
      AU|RA|MA|KHA|HA|E|I|NGA|U|LLHA|TSA|TRA|ONG|AANG|ANG|ING|ON|EN|AAN|NYA|UEN|YIH"⟩,
    ⟨0x1e2ec, "WANCHO TONE ", "TUP|TUPNI|KOI|KOINI"⟩,
    ⟨0x1e2f0, "WANCHO DIGIT ", "ZERO|ONE|TWO|THREE|FOUR|FIVE|SIX|SEVEN|EIGHT|NINE"⟩,
    ⟨0x1e2ff, "WANCHO NGUN ", "SIGN"⟩,
    ⟨0x1e7e0, "ETHIOPIC SYLLABLE ", "HHYA|HHYU|HHYI|HHYAA|HHYEE|HHYE|HHYO"⟩,
    ⟨0x1e7e8, "ETHIOPIC SYLLABLE ", "GURAGE HHWA|HHWI|HHWEE|HHWE"⟩,
    ⟨0x1e7ed, "ETHIOPIC SYLLABLE GURAGE ", "MWI|MWEE"⟩,
    ⟨0x1e7f0, "ETHIOPIC SYLLABLE GURAGE ", "QWI|QWEE|QWE|BWI|BWEE|KWI|KWEE|KWE|GWI|GWEE|GWE|FWI|
      FWEE|PWI|PWEE"⟩,
    ⟨0x1e800, "MENDE KIKAKUI SYLLABLE ", "M001 KI|M002 KA|M003 KU|M065 KEE|M095 KE|M076 KOO|M048 KO|
      M179 KUA|M004 WI|M005 WA|M006 WU|M126 WEE|M118 WE|M114 WOO|M045 WO|M194 WUI|M143 WEI|M061 WVI|
      M049 WVA|M139 WVE|M007 MIN|M008 MAN|M009 MUN|M059 MEN|M094 MON|M154 MUAN|M189 MUEN|M010 BI|
      M011 BA|M012 BU|M150 BEE|M097 BE|M103 BOO|M138 BO|M013 I|M014 A|M015 U|M163 EE|M100 E|M165 OO|
      M147 O|M137 EI|M131 IN|M135 IN|M195 AN|M178 EN|M019 SI|M020 SA|M021 SU|M162 SEE|M116 SE|
      M136 SOO|M079 SO|M196 SIA|M025 LI|M026 LA|M027 LU|M084 LEE|M073 LE|M054 LOO|M153 LO|
      M110 LONG LE|M016 DI|M017 DA|M018 DU|M089 DEE|M180 DOO|M181 DO|M022 TI|M023 TA|M024 TU|
      M091 TEE|M055 TE|M104 TOO|M069 TO|M028 JI|M029 JA|M030 JU|M157 JEE|M113 JE|M160 JOO|M063 JO|
      M175 LONG JO|M031 YI|M032 YA|M033 YU|M109 YEE|M080 YE|M141 YOO|M121 YO|M034 FI|M035 FA|
      M036 FU|M078 FEE|M075 FE|M133 FOO|M088 FO|M197 FUA|M101 FAN|M037 NIN|M038 NAN|M039 NUN|
      M117 NEN|M169 NON|M176 HI|M041 HA|M186 HU|M040 HEE|M096 HE|M042 HOO|M140 HO|M083 HEEI|
      M128 HOOU|M053 HIN|M130 HAN|M087 HUN|M052 HEN|M193 HON|M046 HUAN|M090 NGGI|M043 NGGA|
      M082 NGGU|M115 NGGEE|M146 NGGE|M156 NGGOO|M120 NGGO|M159 NGGAA|M127 NGGUA|M086 LONG NGGE|
      M106 LONG NGGOO|M183 LONG NGGO|M155 GI|M111 GA|M168 GU|M190 GEE|M166 GUEI|M167 GUAN|M184 NGEN|
      M057 NGON|M177 NGUAN|M068 PI|M099 PA|M050 PU|M081 PEE|M051 PE|M102 POO|M066 PO|M145 MBI|
      M062 MBA|M122 MBU|M047 MBEE|M188 MBEE|M072 MBE|M172 MBOO|M174 MBO|M187 MBUU|M161 LONG MBE|
      M105 LONG MBOO|M142 LONG MBO|M132 KPI|M092 KPA|M074 KPU|M044 KPEE|M108 KPE|M112 KPOO|M158 KPO|
      M124 GBI|M056 GBA|M148 GBU|M093 GBEE|M107 GBE|M071 GBOO|M070 GBO|M171 RA|M123 NDI|M129 NDA|
      M125 NDU|M191 NDEE|M119 NDE|M067 NDOO|M064 NDO|M152 NJA|M192 NJU|M149 NJEE|M134 NJOO|M182 VI|
      M185 VA|M151 VU|M173 VEE|M085 VE|M144 VOO|M077 VO|M164 NYIN|M058 NYAN|M170 NYUN|M098 NYEN|
      M060 NYON"⟩,
    ⟨0x1e8c7, "MENDE KIKAKUI DIGIT ", "ONE|TWO|THREE|FOUR|FIVE|SIX|SEVEN|EIGHT|NINE"⟩,
    ⟨0x1e8d0, "MENDE KIKAKUI COMBINING NUMBER ", "TEENS|TENS|HUNDREDS|THOUSANDS|TEN THOUSANDS|
      HUNDRED THOUSANDS|MILLIONS"⟩,
    ⟨0x1e900, "ADLAM CAPITAL LETTER ", "ALIF|DAALI|LAAM|MIIM|BA|SINNYIIYHE|PE|BHE|RA|E|FA|I|O|DHA|
      YHE|WAW|NUN|KAF|YA|U|JIIM|CHI|HA|QAAF|GA|NYA|TU|NHA|VA|KHA|GBE|ZAL|KPO|SHA"⟩,
    ⟨0x1e922, "ADLAM SMALL LETTER ", "ALIF|DAALI|LAAM|MIIM|BA|SINNYIIYHE|PE|BHE|RA|E|FA|I|O|DHA|YHE|
      WAW|NUN|KAF|YA|U|JIIM|CHI|HA|QAAF|GA|NYA|TU|NHA|VA|KHA|GBE|ZAL|KPO|SHA"⟩,
    ⟨0x1e944, "ADLAM ", "ALIF LENGTHENER|VOWEL LENGTHENER|GEMINATION MARK|HAMZA|CONSONANT MODIFIER|
      GEMINATE CONSONANT MODIFIER|NUKTA|NASALIZATION MARK"⟩,
    ⟨0x1e950, "ADLAM DIGIT ", "ZERO|ONE|TWO|THREE|FOUR|FIVE|SIX|SEVEN|EIGHT|NINE"⟩,
    ⟨0x1e95e, "ADLAM INITIAL ", "EXCLAMATION MARK|QUESTION MARK"⟩,
    ⟨0x1ec71, "INDIC SIYAQ NUMBER ", "ONE|TWO|THREE|FOUR|FIVE|SIX|SEVEN|EIGHT|NINE|TEN|TWENTY|
      THIRTY|FORTY|FIFTY|SIXTY|SEVENTY|EIGHTY|NINETY|ONE HUNDRED|TWO HUNDRED|THREE HUNDRED|
      FOUR HUNDRED|FIVE HUNDRED|SIX HUNDRED|SEVEN HUNDRED|EIGHT HUNDRED|NINE HUNDRED|ONE THOUSAND|
      TWO THOUSAND|THREE THOUSAND|FOUR THOUSAND|FIVE THOUSAND|SIX THOUSAND|SEVEN THOUSAND|
      EIGHT THOUSAND|NINE THOUSAND|TEN THOUSAND|TWENTY THOUSAND|THIRTY THOUSAND|FORTY THOUSAND|
      FIFTY THOUSAND|SIXTY THOUSAND|SEVENTY THOUSAND|EIGHTY THOUSAND|NINETY THOUSAND|LAKH|LAKHAN"⟩,
    ⟨0x1eca0, "INDIC SIYAQ ", "LAKH MARK|NUMBER KAROR|NUMBER KARORAN"⟩,
    ⟨0x1eca3, "INDIC SIYAQ NUMBER PREFIXED ", "ONE|TWO|THREE|FOUR|FIVE|SIX|SEVEN|EIGHT|NINE"⟩,
    ⟨0x1ecac, "INDIC SIYAQ ", "PLACEHOLDER|FRACTION ONE QUARTER|FRACTION ONE HALF|
      FRACTION THREE QUARTERS|RUPEE MARK|NUMBER ALTERNATE ONE|NUMBER ALTERNATE TWO|
      NUMBER ALTERNATE TEN THOUSAND|ALTERNATE LAKH MARK"⟩,
    ⟨0x1ed01, "OTTOMAN SIYAQ NUMBER ", "ONE|TWO|THREE|FOUR|FIVE|SIX|SEVEN|EIGHT|NINE|TEN|TWENTY|
      THIRTY|FORTY|FIFTY|SIXTY|SEVENTY|EIGHTY|NINETY|ONE HUNDRED|TWO HUNDRED|THREE HUNDRED|
      FOUR HUNDRED|FIVE HUNDRED|SIX HUNDRED|SEVEN HUNDRED|EIGHT HUNDRED|NINE HUNDRED|ONE THOUSAND|
      TWO THOUSAND|THREE THOUSAND|FOUR THOUSAND|FIVE THOUSAND|SIX THOUSAND|SEVEN THOUSAND|
      EIGHT THOUSAND|NINE THOUSAND|TEN THOUSAND|TWENTY THOUSAND|THIRTY THOUSAND|FORTY THOUSAND|
      FIFTY THOUSAND|SIXTY THOUSAND|SEVENTY THOUSAND|EIGHTY THOUSAND|NINETY THOUSAND"⟩,
    ⟨0x1ed2e, "OTTOMAN SIYAQ ", "MARRATAN"⟩,
    ⟨0x1ed2f, "OTTOMAN SIYAQ ALTERNATE NUMBER ", "TWO|THREE|FOUR|FIVE|SIX|SEVEN|EIGHT|NINE|TEN|
      FOUR HUNDRED|SIX HUNDRED|TWO THOUSAND|TEN THOUSAND"⟩,
    ⟨0x1ed3c, "OTTOMAN SIYAQ FRACTION ONE ", "HALF|SIXTH"⟩,
    ⟨0x1ee00, "ARABIC MATHEMATICAL ", "ALEF|BEH|JEEM|DAL"⟩,
    ⟨0x1ee05, "ARABIC MATHEMATICAL ", "WAW|ZAIN|HAH|TAH|YEH|KAF|LAM|MEEM|NOON|SEEN|AIN|FEH|SAD|QAF|
      REH|SHEEN|TEH|THEH|KHAH|THAL|DAD|ZAH|GHAIN|DOTLESS BEH|DOTLESS NOON|DOTLESS FEH|DOTLESS QAF"⟩,
    ⟨0x1ee21, "ARABIC MATHEMATICAL INITIAL ", "BEH|JEEM"⟩,
    ⟨0x1ee24, "ARABIC MATHEMATICAL INITIAL ", "HEH"⟩,
    ⟨0x1ee27, "ARABIC MATHEMATICAL INITIAL ", "HAH"⟩,
    ⟨0x1ee29, "ARABIC MATHEMATICAL INITIAL ", "YEH|KAF|LAM|MEEM|NOON|SEEN|AIN|FEH|SAD|QAF"⟩,
    ⟨0x1ee34, "ARABIC MATHEMATICAL INITIAL ", "SHEEN|TEH|THEH|KHAH"⟩,
    ⟨0x1ee39, "ARABIC MATHEMATICAL INITIAL ", "DAD"⟩,
    ⟨0x1ee3b, "ARABIC MATHEMATICAL INITIAL ", "GHAIN"⟩,
    ⟨0x1ee42, "ARABIC MATHEMATICAL TAILED ", "JEEM"⟩,
    ⟨0x1ee47, "ARABIC MATHEMATICAL TAILED ", "HAH"⟩,
    ⟨0x1ee49, "ARABIC MATHEMATICAL TAILED ", "YEH"⟩,
    ⟨0x1ee4b, "ARABIC MATHEMATICAL TAILED ", "LAM"⟩,
    ⟨0x1ee4d, "ARABIC MATHEMATICAL TAILED ", "NOON|SEEN|AIN"⟩,
    ⟨0x1ee51, "ARABIC MATHEMATICAL TAILED ", "SAD|QAF"⟩,
    ⟨0x1ee54, "ARABIC MATHEMATICAL TAILED ", "SHEEN"⟩,
    ⟨0x1ee57, "ARABIC MATHEMATICAL TAILED ", "KHAH"⟩,
    ⟨0x1ee59, "ARABIC MATHEMATICAL TAILED ", "DAD"⟩,
    ⟨0x1ee5b, "ARABIC MATHEMATICAL TAILED ", "GHAIN"⟩,
    ⟨0x1ee5d, "ARABIC MATHEMATICAL TAILED DOTLESS ", "NOON"⟩,
    ⟨0x1ee5f, "ARABIC MATHEMATICAL TAILED DOTLESS ", "QAF"⟩,
    ⟨0x1ee61, "ARABIC MATHEMATICAL STRETCHED ", "BEH|JEEM"⟩,
    ⟨0x1ee64, "ARABIC MATHEMATICAL STRETCHED ", "HEH"⟩,
    ⟨0x1ee67, "ARABIC MATHEMATICAL STRETCHED ", "HAH|TAH|YEH|KAF"⟩,
    ⟨0x1ee6c, "ARABIC MATHEMATICAL STRETCHED ", "MEEM|NOON|SEEN|AIN|FEH|SAD|QAF"⟩,
    ⟨0x1ee74, "ARABIC MATHEMATICAL STRETCHED ", "SHEEN|TEH|THEH|KHAH"⟩,
    ⟨0x1ee79, "ARABIC MATHEMATICAL STRETCHED ", "DAD|ZAH|GHAIN|DOTLESS BEH"⟩,
    ⟨0x1ee7e, "ARABIC MATHEMATICAL STRETCHED DOTLESS ", "FEH"⟩,
    ⟨0x1ee80, "ARABIC MATHEMATICAL LOOPED ", "ALEF|BEH|JEEM|DAL|HEH|WAW|ZAIN|HAH|TAH|YEH"⟩,
    ⟨0x1ee8b, "ARABIC MATHEMATICAL LOOPED ", "LAM|MEEM|NOON|SEEN|AIN|FEH|SAD|QAF|REH|SHEEN|TEH|THEH|
      KHAH|THAL|DAD|ZAH|GHAIN"⟩,
    ⟨0x1eea1, "ARABIC MATHEMATICAL DOUBLE-STRUCK ", "BEH|JEEM|DAL"⟩,
    ⟨0x1eea5, "ARABIC MATHEMATICAL DOUBLE-STRUCK ", "WAW|ZAIN|HAH|TAH|YEH"⟩,
    ⟨0x1eeab, "ARABIC MATHEMATICAL DOUBLE-STRUCK ", "LAM|MEEM|NOON|SEEN|AIN|FEH|SAD|QAF|REH|SHEEN|
      TEH|THEH|KHAH|THAL|DAD|ZAH|GHAIN"⟩,
    ⟨0x1eef0, "ARABIC MATHEMATICAL OPERATOR ", "MEEM WITH HAH WITH TATWEEL|HAH WITH DAL"⟩]

end AppSupervisor.Text
