import TidyImports.Text.Blank
import TidyImports.Text.CharName.FromA
import TidyImports.Text.CharName.FromE
import TidyImports.Text.CharName.FromM
import TidyImports.Text.CharName.FromS

/-!
# Names of characters

`CharName.known` tells whether a text names a character. Most names are listed, and count in capital
and small letters; the syllables of Hangul are named by their sounds and the unified ideographs by
their numbers, in capital letters only.
-/

namespace TidyImports.Text.CharName

/-! ## Listed names -/

/-- Whether a list holds a name that is read backwards. The `latest` name, backwards as well, is
`whole` unless an ending has just given way. -/
def holds (name latest : Text) (whole : Bool) : Text → Bool
  | [] => latest == name
  | c :: rest =>
    if c.isLower then
      (whole && latest == name) || holds name (latest.drop (c.toNat - 'a'.toNat)) false rest
    else holds name (c :: latest) true rest

def listed (name : Text) : Bool :=
  [linesFromA, linesFromE, linesFromM, linesFromS].any fun lines =>
    holds (name.map Char.toUpper).reverse [] false (lines.flatMap String.toList)

/-! ## Syllables -/

def vowelLetter (c : Char) : Bool := c ∈ "AEIOUWY".toList

def firstSounds : List String :=
  ["G", "GG", "N", "D", "DD", "R", "M", "B", "BB", "S", "SS", "", "J", "JJ", "C", "K", "T", "P", "H"]

def middleSounds : List String :=
  ["A", "AE", "YA", "YAE", "EO", "E", "YEO", "YE", "O", "WA", "WAE", "OE", "YO", "U", "WEO", "WE",
    "WI", "YU", "EU", "YI", "I"]

def lastSounds : List String :=
  ["", "G", "GG", "GS", "N", "NJ", "NH", "D", "L", "LG", "LM", "LB", "LS", "LT", "LP", "LH", "M",
    "B", "BS", "S", "SS", "NG", "J", "C", "K", "T", "P", "H"]

/-- A syllable is a first sound, vowels, and a last sound; either sound may be missing. -/
def syllable (sounds : Text) : Bool :=
  let (first, rest) := sounds.span (!vowelLetter ·)
  let (middle, last) := rest.span vowelLetter
  firstSounds.contains (String.ofList first) && middleSounds.contains (String.ofList middle) &&
    lastSounds.contains (String.ofList last)

/-! ## Ideographs -/

def ideographRanges : List (Nat × Nat) :=
  [(0x3400, 0x4DBF), (0x4E00, 0x9FFF), (0x20000, 0x2A6DF), (0x2A700, 0x2B738), (0x2B740, 0x2B81D),
    (0x2B820, 0x2CEA1), (0x2CEB0, 0x2EBE0), (0x30000, 0x3134A)]

def capitalHexDigit (c : Char) : Bool := c.isDigit || ('A' ≤ c && c ≤ 'F')

/-- The number of an ideograph in four or five digits. -/
def ideograph (digits : Text) : Bool :=
  let number := digits.foldl (fun n c => n * 16 + (hexDigit? c).getD 0) 0
  (digits.length == 4 || digits.length == 5) && digits.all capitalHexDigit &&
    ideographRanges.any fun r => r.1 ≤ number && number ≤ r.2

/-! ## All names -/

def known (name : Text) : Bool :=
  match dropStart? "HANGUL SYLLABLE ".toList name with
  | some sounds => syllable sounds
  | none =>
    match dropStart? "CJK UNIFIED IDEOGRAPH-".toList name with
    | some digits => ideograph digits
    | none => listed name

end TidyImports.Text.CharName
