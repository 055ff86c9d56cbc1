import TidyImports.Number.Read
import TidyImports.Text.CharName
import TidyImports.Text.LineBreak

/-!
# Tokens of literals

The tokens that a literal is made of, as far as it matters whether they are well formed: numbers,
quoted texts, the constant words, brackets and signs. `tokens?` cuts a text into them and refuses
whatever else stands there. Line breaks count as blanks inside brackets; outside, nothing but
comments may follow one.
-/

namespace TidyImports.Literal

inductive Token where
  | number (imaginary : Bool)
  | text (bytes : Bool)
  /-- A constant that is a word or an ellipsis. -/
  | constant
  /-- The word that makes an empty set when it is called. -/
  | set
  | leftParen
  | rightParen
  | leftBrace
  | rightBrace
  | comma
  | colon
  | plus
  | minus
  deriving DecidableEq, Repr

/-- Brackets may stand in each other up to this depth. -/
def depthLimit : Nat := 200

/-- A character that may continue a name, and so may not follow a number. -/
def nameChar (c : Char) : Bool := c.isAlphanum || c == '_' || 128 ≤ c.toNat

def blank (c : Char) : Bool := c == ' ' || c == '\t' || c == '\x0c'

/-! ## Numbers -/

/-- What follows the digits of a number in another base. A low line may stand before each digit;
`bare` says that a digit must come next, `low` that a low line came last. -/
def basedRest (digit : Char → Bool) : (bare low : Bool) → Text → Option Text
  | bare, _, [] => if bare then none else some []
  | bare, low, c :: rest =>
    if digit c then basedRest digit false false rest
    else if c = '_' && !low then basedRest digit true true rest
    else if bare then none
    else some (c :: rest)

/-- What follows the exponent of a number, or the text itself without one. -/
def exponentRest (text : Text) : Option Text :=
  match text with
  | c :: rest =>
    if c = 'e' ∨ c = 'E' then
      match Numeral.digits (Numeral.sign rest).2 with
      | some (_ :: _, rest) => some rest
      | _ => none
    else some text
  | [] => some text

/-- Zero may have any number of digits; other integers have no leading zeros and not too many
digits. -/
def integerFits (digits : Text) : Bool :=
  digits.all (· == '0') || (digits.head? != some '0' && digits.length ≤ Numeral.digitLimit)

/-- A decimal number: whether it is imaginary, and what follows it. -/
def decimal? (text : Text) : Option (Bool × Text) := do
  let (whole, rest) ← Numeral.digits text
  let afterPoint ← match rest with
    | '.' :: rest => (Numeral.digits rest).map (·.2)
    | rest => some rest
  let rest' ← exponentRest afterPoint
  match rest' with
  | 'j' :: rest | 'J' :: rest => some (true, rest)
  | _ =>
    if rest'.length = rest.length && !integerFits whole then none else some (false, rest')

def number? (text : Text) : Option (Bool × Text) := do
  let (imaginary, rest) ← match text with
    | '0' :: 'x' :: rest | '0' :: 'X' :: rest =>
      (basedRest (fun c => (Text.hexDigit? c).isSome) true false rest).map (false, ·)
    | '0' :: 'o' :: rest | '0' :: 'O' :: rest =>
      (basedRest (fun c => '0' ≤ c && c ≤ '7') true false rest).map (false, ·)
    | '0' :: 'b' :: rest | '0' :: 'B' :: rest =>
      (basedRest (fun c => c == '0' || c == '1') true false rest).map (false, ·)
    | text => decimal? text
  if (rest.head?.map nameChar).getD false then none else some (imaginary, rest)

/-! ## Quoted texts -/

/-- The text before a closing quote on the same line, and what follows it. -/
def closed? (quote : Char) : Text → Option (Text × Text)
  | [] => none
  | '\\' :: c :: rest => (closed? quote rest).map fun (body, rest) => ('\\' :: c :: body, rest)
  | c :: rest =>
    if c = quote then some ([], rest)
    else if c = '\n' then none
    else (closed? quote rest).map fun (body, rest) => (c :: body, rest)

/-- The text before three closing quotes, and what follows them. -/
def closedThrice? (quote : Char) : Text → Option (Text × Text)
  | [] => none
  | '\\' :: c :: rest => (closedThrice? quote rest).map fun (body, rest) => ('\\' :: c :: body, rest)
  | c :: rest =>
    match Text.dropStart? [quote, quote, quote] (c :: rest) with
    | some rest => some ([], rest)
    | none => (closedThrice? quote rest).map fun (body, rest) => (c :: body, rest)

def quotedBody? (quote : Char) (text : Text) : Option (Text × Text) :=
  match Text.dropStart? [quote, quote] text with
  | some rest => closedThrice? quote rest
  | none => closed? quote text

/-- A text begins with so many hexadecimal digits. -/
def startsHex (count : Nat) (text : Text) : Bool :=
  (text.take count).length == count && (text.take count).all fun c => (Text.hexDigit? c).isSome

def hexValue (text : Text) : Nat := text.foldl (fun n c => n * 16 + (Text.hexDigit? c).getD 0) 0

/-- A text begins with the name of a character in braces. -/
def startsName (text : Text) : Bool :=
  match text with
  | '\x7b' :: rest =>
    match rest.span (· ≠ '\x7d') with
    | (name, '\x7d' :: _) => Text.CharName.known name
    | _ => false
  | _ => false

/-- Every escape is complete. In bytes only the hexadecimal one takes digits. -/
def escapesFit (bytes : Bool) : Text → Bool
  | '\\' :: 'x' :: rest => startsHex 2 rest && escapesFit bytes rest
  | '\\' :: 'u' :: rest => (bytes || startsHex 4 rest) && escapesFit bytes rest
  | '\\' :: 'U' :: rest =>
    (bytes || startsHex 8 rest && hexValue (rest.take 8) < 0x110000) && escapesFit bytes rest
  | '\\' :: 'N' :: rest => (bytes || startsName rest) && escapesFit bytes rest
  | '\\' :: _ :: rest => escapesFit bytes rest
  | _ :: rest => escapesFit bytes rest
  | [] => true

/-- The marks before a quote: whether the text is bytes, and whether its escapes are kept. -/
def quoteMarks? (marks : Text) : Option (Bool × Bool) :=
  match String.ofList (marks.map Char.toLower) with
  | "" | "u" => some (false, false)
  | "r" => some (false, true)
  | "b" => some (true, false)
  | "br" | "rb" => some (true, true)
  | _ => none

/-- A quoted text behind its marks and its first quote, and what follows it. -/
def quoted? (marks : Text) (quote : Char) (text : Text) : Option (Token × Text) := do
  let (bytes, raw) ← quoteMarks? marks
  let (body, rest) ← quotedBody? quote text
  if (raw || escapesFit bytes body) && (!bytes || body.all fun c => c.toNat < 128) then
    some (.text bytes, rest)
  else none

/-! ## Tokens -/

def word? (name : Text) : Option Token :=
  match String.ofList name with
  | "True" | "False" | "None" => some .constant
  | "set" => some .set
  | _ => none

def sign? : Char → Option Token
  | ',' => some .comma
  | ':' => some .colon
  | '+' => some .plus
  | '-' => some .minus
  | _ => none

/-- The first token of a text that begins with no blank, and what follows it. -/
def token? (text : Text) : Option (Token × Text) :=
  match text with
  | [] => none
  | '.' :: '.' :: '.' :: rest => some (.constant, rest)
  | c :: rest =>
    match sign? c with
    | some t => some (t, rest)
    | none =>
      if c = '"' ∨ c = '\'' then quoted? [] c rest
      else if c.isDigit ∨ c = '.' ∧ (rest.head?.map Char.isDigit).getD false then
        (number? text).map fun (imaginary, rest) => (.number imaginary, rest)
      else
        match text.span nameChar with
        | (name, '"' :: rest) => quoted? name '"' rest
        | (name, '\'' :: rest) => quoted? name '\'' rest
        | (name, rest) => (word? name).map (·, rest)

/-- What follows the blanks that a line begins with, and whether it is `indented` by them. A form
feed begins the line anew, a backslash at its end takes the next line in. -/
def margin (kept indented : Bool) : Text → Option (Bool × Text)
  | ' ' :: rest | '\t' :: rest => margin kept true rest
  | '\x0c' :: rest => margin kept false rest
  | '\\' :: rest =>
    match rest with
    | '\n' :: c :: rest => margin (kept || indented) indented (c :: rest)
    | _ => none
  | rest => some (kept || indented, rest)

/-- What follows the lines that hold nothing or a comment only, and whether it is indented. The fuel
bounds the count of lines. -/
def skipIdle : (fuel : Nat) → Text → Option (Bool × Text)
  | 0, text => some (false, text)
  | fuel + 1, text => do
    let (indented, rest) ← margin false false text
    match rest with
    | '\n' :: rest => skipIdle fuel rest
    | '#' :: rest => skipIdle fuel ((rest.dropWhile (· ≠ '\n')).drop 1)
    | rest => some (indented, rest)

/-- The tokens of a text inside `depth` brackets. Outside of all brackets nothing may follow the
line. The fuel bounds the count of characters. -/
def tokensFrom : (fuel depth : Nat) → Text → Option (List Token)
  | 0, _, _ => some []
  | _, _, [] => some []
  | fuel + 1, depth, c :: rest =>
    if blank c || (c = '\n' && 0 < depth) then tokensFrom fuel depth rest
    else if c = '\n' then do
      let (_, rest) ← skipIdle (fuel + 1) rest
      if rest.isEmpty then some [] else none
    else if c = '#' then tokensFrom fuel depth (rest.dropWhile (· ≠ '\n'))
    else
      match c, rest with
      | '\\', '\n' :: d :: rest => tokensFrom fuel depth (d :: rest)
      | '(', rest => opening fuel depth .leftParen rest
      | '\x7b', rest => opening fuel depth .leftBrace rest
      | ')', rest => closing fuel depth .rightParen rest
      | '\x7d', rest => closing fuel depth .rightBrace rest
      | c, rest => do
        let (t, rest) ← token? (c :: rest)
        let ts ← tokensFrom fuel depth rest
        pure (t :: ts)
where
  opening (fuel depth : Nat) (t : Token) (rest : Text) : Option (List Token) :=
    if depth < depthLimit then (tokensFrom fuel (depth + 1) rest).map (t :: ·) else none
  closing (fuel depth : Nat) (t : Token) (rest : Text) : Option (List Token) :=
    if 0 < depth then (tokensFrom fuel (depth - 1) rest).map (t :: ·) else none

def tokens? (text : Text) : Option (List Token) :=
  if '\x00' ∈ text then none
  else do
    let (indented, text) ← skipIdle (text.length + 1) text.unifyBreaks
    if indented then none else tokensFrom text.length 0 text

end TidyImports.Literal
