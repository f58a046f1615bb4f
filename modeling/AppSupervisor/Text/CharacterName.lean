import AppSupervisor.Text.CharacterName.AsiaAfricaAmerica
import AppSupervisor.Text.CharacterName.EastAsia
import AppSupervisor.Text.CharacterName.EuropeNearEast
import AppSupervisor.Text.CharacterName.HistoricScripts
import AppSupervisor.Text.CharacterName.MarkedLetters
import AppSupervisor.Text.CharacterName.Notation
import AppSupervisor.Text.CharacterName.Pictographs
import AppSupervisor.Text.CharacterName.PresentationForms
import AppSupervisor.Text.CharacterName.Symbols
import AppSupervisor.Text.Digit

/-!
Names of characters.

Characters can be asked for by the names that Unicode gives them. Most names are listed. Those of
unified ideographs and of Hangul syllables follow a rule and have to be in upper case, while the
case of all others does not count.
-/

namespace AppSupervisor.Text

/-! ### Names by rule -/

def codeOfDigits? (digits : List Char) : Option Nat :=
  let isUpperHex (c : Char) : Bool := isAsciiDigit c || ('A' ≤ c && c ≤ 'F')
  if (digits.length == 4 || digits.length == 5) && digits.all isUpperHex then
    some (digits.foldl (fun n c => n * 16 + (hexValue? c).getD 0) 0)
  else none

def unifiedIdeographs : List (Nat × Nat) :=
  [(0x3400, 0x4dbf), (0x4e00, 0x9fff), (0x20000, 0x2a6df), (0x2a700, 0x2b738), (0x2b740, 0x2b81d),
    (0x2b820, 0x2cea1), (0x2ceb0, 0x2ebe0), (0x30000, 0x3134a)]

def ideographOf? (digits : List Char) : Option Nat :=
  (codeOfDigits? digits).filter fun code =>
    unifiedIdeographs.any fun range => range.1 ≤ code && code ≤ range.2

def initialLetters : List String :=
  ["G", "GG", "N", "D", "DD", "R", "M", "B", "BB", "S", "SS", "", "J", "JJ", "C", "K", "T", "P",
    "H"]

def medialLetters : List String :=
  ["A", "AE", "YA", "YAE", "EO", "E", "YEO", "YE", "O", "WA", "WAE", "OE", "YO", "U", "WEO", "WE",
    "WI", "YU", "EU", "YI", "I"]

def finalLetters : List String :=
  ["", "G", "GG", "GS", "N", "NJ", "NH", "D", "L", "LG", "LM", "LB", "LS", "LT", "LP", "LH", "M",
    "B", "BS", "S", "SS", "NG", "J", "C", "K", "T", "P", "H"]

/-- Syllables have three letters, of which the last varies fastest along the code points. -/
def syllableOf? (letters : List Char) : Option Nat :=
  let syllables := initialLetters.flatMap fun initial =>
    medialLetters.flatMap fun medial => finalLetters.map (initial ++ medial ++ ·)
  (syllables.findIdx? (· == String.ofList letters)).map (0xac00 + ·)

def codedNames : List (String × Nat × Nat) :=
  [("CJK COMPATIBILITY IDEOGRAPH-", 0xf900, 0xfa6d),
    ("CJK COMPATIBILITY IDEOGRAPH-", 0xfa70, 0xfad9),
    ("CJK COMPATIBILITY IDEOGRAPH-", 0x2f800, 0x2fa1d),
    ("KHITAN SMALL SCRIPT CHARACTER-", 0x18b00, 0x18cd5), ("NUSHU CHARACTER-", 0x1b170, 0x1b2fb)]

/-- Names that end with a number: what they begin with, the least length of the number, the first
number and the last, and the code point that belongs to the first. -/
def numberedNames : List (String × Nat × Nat × Nat × Nat) :=
  [("TANGUT COMPONENT-", 3, 1, 768, 0x18800), ("VARIATION SELECTOR-", 1, 1, 16, 0xfe00),
    ("VARIATION SELECTOR-", 1, 17, 256, 0xe0100), ("VS", 1, 1, 16, 0xfe00),
    ("VS", 1, 17, 256, 0xe0100)]

def codedCode? (name : String) : Option Nat :=
  codedNames.findSome? fun (lead, first, last) =>
    ((List.range' first (last + 1 - first)).find? fun code =>
      lead ++ (hex code 4).map Char.toUpper == name)

def numberedCode? (name : String) : Option Nat :=
  numberedNames.findSome? fun (lead, width, first, last, code) =>
    ((List.range (last + 1 - first)).find? fun index =>
      let digits := Nat.toDigits 10 (first + index)
      lead ++ String.ofList (List.replicate (width - digits.length) '0' ++ digits) == name).map
        (code + ·)

/-! ### Listed names -/

def otherNames : List (Nat × String) := [
    (0x00, "NUL|NULL"), (0x01, "SOH|START OF HEADING"), (0x02, "START OF TEXT|STX"),
    (0x03, "END OF TEXT|ETX"), (0x04, "END OF TRANSMISSION|EOT"), (0x05, "ENQ|ENQUIRY"),
    (0x06, "ACK|ACKNOWLEDGE"), (0x07, "ALERT|BEL"), (0x08, "BACKSPACE|BS"),
    (0x09, "CHARACTER TABULATION|HORIZONTAL TABULATION|HT|TAB"),
    (0x0a, "END OF LINE|EOL|LF|LINE FEED|NEW LINE|NL"),
    (0x0b, "LINE TABULATION|VERTICAL TABULATION|VT"), (0x0c, "FF|FORM FEED"),
    (0x0d, "CARRIAGE RETURN|CR"), (0x0e, "LOCKING-SHIFT ONE|SHIFT OUT|SO"),
    (0x0f, "LOCKING-SHIFT ZERO|SHIFT IN|SI"), (0x10, "DATA LINK ESCAPE|DLE"),
    (0x11, "DC1|DEVICE CONTROL ONE"), (0x12, "DC2|DEVICE CONTROL TWO"),
    (0x13, "DC3|DEVICE CONTROL THREE"), (0x14, "DC4|DEVICE CONTROL FOUR"),
    (0x15, "NAK|NEGATIVE ACKNOWLEDGE"), (0x16, "SYN|SYNCHRONOUS IDLE"),
    (0x17, "END OF TRANSMISSION BLOCK|ETB"), (0x18, "CAN|CANCEL"), (0x19, "END OF MEDIUM|EOM"),
    (0x1a, "SUB|SUBSTITUTE"), (0x1b, "ESC|ESCAPE"),
    (0x1c, "FILE SEPARATOR|FS|INFORMATION SEPARATOR FOUR"),
    (0x1d, "GROUP SEPARATOR|GS|INFORMATION SEPARATOR THREE"),
    (0x1e, "INFORMATION SEPARATOR TWO|RECORD SEPARATOR|RS"),
    (0x1f, "INFORMATION SEPARATOR ONE|UNIT SEPARATOR|US"), (0x20, "SP"), (0x7f, "DEL|DELETE"),
    (0x80, "PAD|PADDING CHARACTER"), (0x81, "HIGH OCTET PRESET|HOP"),
    (0x82, "BPH|BREAK PERMITTED HERE"), (0x83, "NBH|NO BREAK HERE"), (0x84, "IND|INDEX"),
    (0x85, "NEL|NEXT LINE"), (0x86, "SSA|START OF SELECTED AREA"),
    (0x87, "END OF SELECTED AREA|ESA"),
    (0x88, "CHARACTER TABULATION SET|HORIZONTAL TABULATION SET|HTS"),
    (0x89, "CHARACTER TABULATION WITH JUSTIFICATION|HORIZONTAL TABULATION WITH JUSTIFICATION|HTJ"),
    (0x8a, "LINE TABULATION SET|VERTICAL TABULATION SET|VTS"),
    (0x8b, "PARTIAL LINE DOWN|PARTIAL LINE FORWARD|PLD"),
    (0x8c, "PARTIAL LINE BACKWARD|PARTIAL LINE UP|PLU"),
    (0x8d, "REVERSE INDEX|REVERSE LINE FEED|RI"), (0x8e, "SINGLE SHIFT TWO|SINGLE-SHIFT-2|SS2"),
    (0x8f, "SINGLE SHIFT THREE|SINGLE-SHIFT-3|SS3"), (0x90, "DCS|DEVICE CONTROL STRING"),
    (0x91, "PRIVATE USE ONE|PRIVATE USE-1|PU1"), (0x92, "PRIVATE USE TWO|PRIVATE USE-2|PU2"),
    (0x93, "SET TRANSMIT STATE|STS"), (0x94, "CANCEL CHARACTER|CCH"), (0x95, "MESSAGE WAITING|MW"),
    (0x96, "SPA|START OF GUARDED AREA|START OF PROTECTED AREA"),
    (0x97, "END OF GUARDED AREA|END OF PROTECTED AREA|EPA"), (0x98, "SOS|START OF STRING"),
    (0x99, "SGC|SINGLE GRAPHIC CHARACTER INTRODUCER"), (0x9a, "SCI|SINGLE CHARACTER INTRODUCER"),
    (0x9b, "CONTROL SEQUENCE INTRODUCER|CSI"), (0x9c, "ST|STRING TERMINATOR"),
    (0x9d, "OPERATING SYSTEM COMMAND|OSC"), (0x9e, "PM|PRIVACY MESSAGE"),
    (0x9f, "APC|APPLICATION PROGRAM COMMAND"), (0xa0, "NBSP"), (0xad, "SHY"),
    (0x1a2, "LATIN CAPITAL LETTER GHA"), (0x1a3, "LATIN SMALL LETTER GHA"), (0x34f, "CGJ"),
    (0x61c, "ALM"), (0x709, "SYRIAC SUBLINEAR COLON SKEWED LEFT"), (0xcde, "KANNADA LETTER LLLA"),
    (0xe9d, "LAO LETTER FO FON"), (0xe9f, "LAO LETTER FO FAY"), (0xea3, "LAO LETTER RO"),
    (0xea5, "LAO LETTER LO"), (0xfd0, "TIBETAN MARK BKA- SHOG GI MGO RGYAN"),
    (0x11ec, "HANGUL JONGSEONG YESIEUNG-KIYEOK"), (0x11ed, "HANGUL JONGSEONG YESIEUNG-SSANGKIYEOK"),
    (0x11ee, "HANGUL JONGSEONG SSANGYESIEUNG"), (0x11ef, "HANGUL JONGSEONG YESIEUNG-KHIEUKH"),
    (0x180b, "FVS1"), (0x180c, "FVS2"), (0x180d, "FVS3"), (0x180e, "MVS"), (0x180f, "FVS4"),
    (0x200b, "ZWSP"), (0x200c, "ZWNJ"), (0x200d, "ZWJ"), (0x200e, "LRM"), (0x200f, "RLM"),
    (0x202a, "LRE"), (0x202b, "RLE"), (0x202c, "PDF"), (0x202d, "LRO"), (0x202e, "RLO"),
    (0x202f, "NNBSP"), (0x205f, "MMSP"), (0x2060, "WJ"), (0x2066, "LRI"), (0x2067, "RLI"),
    (0x2068, "FSI"), (0x2069, "PDI"), (0x2118, "WEIERSTRASS ELLIPTIC FUNCTION"),
    (0x2448, "MICR ON US SYMBOL"), (0x2449, "MICR DASH SYMBOL"),
    (0x2b7a, "LEFTWARDS TRIANGLE-HEADED ARROW WITH DOUBLE VERTICAL STROKE"),
    (0x2b7c, "RIGHTWARDS TRIANGLE-HEADED ARROW WITH DOUBLE VERTICAL STROKE"),
    (0xa015, "YI SYLLABLE ITERATION MARK"), (0xaa6e, "MYANMAR LETTER KHAMTI LLA"),
    (0xfe18, "PRESENTATION FORM FOR VERTICAL RIGHT WHITE LENTICULAR BRACKET"),
    (0xfeff, "BOM|BYTE ORDER MARK|ZWNBSP"), (0x122d4, "CUNEIFORM SIGN NU11 TENU"),
    (0x122d5, "CUNEIFORM SIGN NU11 OVER NU11 BUR OVER BUR"),
    (0x16e56, "MEDEFAIDRIN CAPITAL LETTER H"), (0x16e57, "MEDEFAIDRIN CAPITAL LETTER NG"),
    (0x16e76, "MEDEFAIDRIN SMALL LETTER H"), (0x16e77, "MEDEFAIDRIN SMALL LETTER NG"),
    (0x1b001, "HENTAIGANA LETTER E-1"),
    (0x1d0c5, "BYZANTINE MUSICAL SYMBOL FTHORA SKLIRON CHROMA VASIS")]

def nameRows : List NameRow :=
  europeNearEastNames ++ asiaAfricaAmericaNames ++ markedLettersNames ++ symbolsNames ++
    eastAsiaNames ++ presentationFormsNames ++ historicScriptsNames ++ notationMarksNames ++
    pictographsNames

def listedCode? (name : String) : Option Nat :=
  (nameRows.findSome? (·.find? name)).or <|
    (otherNames.find? fun entry => (entry.2.splitOn "|").contains name).map (·.1)

def codeOfName? (name : String) : Option Nat :=
  let behind (lead : String) : List Char := name.toList.drop lead.length
  let ideograph := "CJK UNIFIED IDEOGRAPH-"
  let syllable := "HANGUL SYLLABLE "
  if name.startsWith syllable then syllableOf? (behind syllable)
  else if name.startsWith ideograph then ideographOf? (behind ideograph)
  else
    let name := name.map Char.toUpper
    ((listedCode? name).or (codedCode? name)).or (numberedCode? name)

end AppSupervisor.Text
