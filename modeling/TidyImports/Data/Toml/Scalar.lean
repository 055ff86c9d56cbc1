import TidyImports.Data.Value

/-!
# Scalars of TOML documents

Texts in their four forms, integers in four bases, floats, dates and times, and the parts of keys.
Every reader takes the text from the scalar on and returns what follows it. Line ends are line
feeds here.
-/

namespace TidyImports.Toml

inductive Fault where
  | malformed
  /-- A decimal integer of that many digits. -/
  | tooLong (digits : Nat)
  deriving DecidableEq, Repr

/-! ## White space and comments -/

def white (c : Char) : Bool := c = ' ' || c = '\t'

/-- A control character other than the tab, which may stand in comments and texts. -/
def control (c : Char) : Bool := (c.toNat < 32 && c ≠ '\t') || c.toNat == 127

def skipWhite (text : Text) : Text := text.dropWhile white

/-- White space, line breaks and comments between the items of an array. -/
def skipTrivia (inComment : Bool) : Text → Except Fault Text
  | [] => .ok []
  | c :: rest =>
    if c = '\n' then skipTrivia false rest
    else if inComment then
      if control c then .error .malformed else skipTrivia true rest
    else if white c then skipTrivia false rest
    else if c = '#' then skipTrivia true rest
    else .ok (c :: rest)

/-- A comment up to the end of its line, if one begins here. -/
def skipComment (text : Text) : Except Fault Text :=
  match text with
  | '#' :: rest =>
    let (comment, rest) := rest.span (· ≠ '\n')
    if comment.any control then .error .malformed else .ok rest
  | _ => .ok text

/-! ## Texts -/

def scalarChar? (ds : Text) : Option Char :=
  match ds.foldl (fun acc c => do let n ← acc; let d ← Text.hexDigit? c; pure (n * 16 + d)) (some 0) with
  | some n => if n < 0xD800 ∨ (0xE000 ≤ n ∧ n < 0x110000) then some (Char.ofNat n) else none
  | none => none

def simpleEscape? (c : Char) : Option Char :=
  if c = '"' ∨ c = '\\' then some c
  else if c = 'n' then some '\n'
  else if c = 'r' then some '\r'
  else if c = 't' then some '\t'
  else if c = 'b' then some '\x08'
  else if c = 'f' then some '\x0c'
  else none

/-- A basic text up to its closing quotes. After a backslash at the end of a line `folding` says
that blank characters are dropped, and whether a line break has been. -/
def readBasic (multiline : Bool) (folding : Option Bool) : Text → Except Fault (Text × Text)
  | [] => .error .malformed
  | c :: rest =>
    if folding.isSome && white c then readBasic multiline folding rest
    else if folding.isSome && c = '\n' then readBasic multiline (some true) rest
    else if folding = some false then .error .malformed
    else if c = '"' then
      if !multiline then .ok ([], rest)
      else
        match rest with
        | '"' :: '"' :: rest => .ok ([], rest)
        | rest => (readBasic multiline none rest).map fun (s, r) => (c :: s, r)
    else if c = '\\' then
      match rest with
      | [] => .error .malformed
      | e :: rest =>
        if multiline && (white e || e = '\n') then readBasic multiline (some (e = '\n')) rest
        else if e = 'u' then
          match rest with
          | a :: b :: c :: d :: rest =>
            match scalarChar? [a, b, c, d] with
            | some x => (readBasic multiline none rest).map fun (s, r) => (x :: s, r)
            | none => .error .malformed
          | _ => .error .malformed
        else if e = 'U' then
          match rest with
          | a :: b :: c :: d :: e :: f :: g :: h :: rest =>
            match scalarChar? [a, b, c, d, e, f, g, h] with
            | some x => (readBasic multiline none rest).map fun (s, r) => (x :: s, r)
            | none => .error .malformed
          | _ => .error .malformed
        else
          match simpleEscape? e with
          | some x => (readBasic multiline none rest).map fun (s, r) => (x :: s, r)
          | none => .error .malformed
    else if control c && !(multiline && c = '\n') then .error .malformed
    else (readBasic multiline none rest).map fun (s, r) => (c :: s, r)

/-- A literal text up to its closing quote or quotes. -/
def readLiteral (multiline : Bool) : Text → Except Fault (Text × Text)
  | [] => .error .malformed
  | c :: rest =>
    if c = '\'' && !multiline then .ok ([], rest)
    else
      match c, rest with
      | '\'', '\'' :: '\'' :: rest => .ok ([], rest)
      | c, rest =>
        if control c && !(multiline && c = '\n') then .error .malformed
        else (readLiteral multiline rest).map fun (s, r) => (c :: s, r)

/-- Up to two more quotes after the closing ones belong to the text. -/
def extraQuotes (quote : Char) : Text × Text → Text × Text
  | (s, rest) =>
    let more := (rest.take 2).takeWhile (· = quote)
    (s ++ more, rest.drop more.length)

/-- A line break right after the opening quotes is no part of the text. -/
def dropBreak : Text → Text
  | '\n' :: rest => rest
  | rest => rest

/-- A text in one of the four forms, from its opening quote on. -/
def readText : Text → Except Fault (String × Text)
  | '"' :: '"' :: '"' :: rest =>
    ((readBasic true none (dropBreak rest)).map (extraQuotes '"')).map fun (s, r) =>
      (String.ofList s, r)
  | '"' :: rest => (readBasic false none rest).map fun (s, r) => (String.ofList s, r)
  | '\'' :: '\'' :: '\'' :: rest =>
    ((readLiteral true (dropBreak rest)).map (extraQuotes '\'')).map fun (s, r) =>
      (String.ofList s, r)
  | '\'' :: rest => (readLiteral false rest).map fun (s, r) => (String.ofList s, r)
  | _ => .error .malformed

/-! ## Keys -/

def bareKey (c : Char) : Bool := c.isAlphanum || c = '-' || c = '_'

def readKeyPart (text : Text) : Except Fault (String × Text) :=
  match text with
  | '"' :: rest => (readBasic false none rest).map fun (s, r) => (String.ofList s, r)
  | '\'' :: rest => (readLiteral false rest).map fun (s, r) => (String.ofList s, r)
  | text =>
    match text.span bareKey with
    | ([], _) => .error .malformed
    | (name, rest) => .ok (String.ofList name, rest)

/-- The parts of a dotted key. The fuel bounds their count. -/
def readKey : (fuel : Nat) → Text → Except Fault (List String × Text)
  | 0, _ => .error .malformed
  | fuel + 1, text => do
    let (part, rest) ← readKeyPart text
    match skipWhite rest with
    | '.' :: rest =>
      let (parts, rest) ← readKey fuel (skipWhite rest)
      pure (part :: parts, rest)
    | rest => pure ([part], rest)

/-! ## Numbers -/

/-- Characters of a class, with single low lines between them left out. -/
def underscored (p : Char → Bool) : Text → Text × Text
  | [] => ([], [])
  | c :: rest =>
    if !p c then ([], c :: rest)
    else
      match rest with
      | '_' :: d :: later =>
        if p d then
          let (ds, r) := underscored p (d :: later)
          (c :: ds, r)
        else ([c], rest)
      | rest =>
        let (ds, r) := underscored p rest
        (c :: ds, r)
termination_by text => text.length

def decimal (c : Char) : Bool := c.isDigit

def inBase (base : Nat) (ds : Text) : Nat :=
  ds.foldl (fun n c => n * base + (Text.hexDigit? c).getD 0) 0

def belowBase (base : Nat) (c : Char) : Bool :=
  match Text.hexDigit? c with
  | some d => d < base
  | none => false

/-- An integer with a base mark. -/
def readBased? : Text → Option (Value × Text)
  | '0' :: mark :: rest =>
    let base := if mark = 'x' then 16 else if mark = 'o' then 8 else if mark = 'b' then 2 else 0
    match underscored (belowBase base) rest with
    | ([], _) => none
    | (ds, rest) => some (.int (inBase base ds), rest)
  | _ => none

/-- The point and the digits after it. -/
def fraction : Text → Text × Text
  | '.' :: rest =>
    match underscored decimal rest with
    | ([], _) => ([], '.' :: rest)
    | found => found
  | text => ([], text)

def exponent (text : Text) : Option Int × Text :=
  match text with
  | c :: rest =>
    if c = 'e' ∨ c = 'E' then
      let (negative, body) := Numeral.sign rest
      match underscored decimal body with
      | ([], _) => (none, text)
      | (ds, rest) => (some (if negative then -(Numeral.value ds : Int) else Numeral.value ds), rest)
    else (none, text)
  | [] => (none, [])

/-- The digits before the point: a lone zero, or digits that begin with none. -/
def wholeDigits : Text → Text × Text
  | '0' :: rest => (['0'], rest)
  | text => underscored decimal text

/-- A decimal integer or a float, `none` where neither begins. -/
def readDecimal? (text : Text) : Option (Except Fault (Value × Text)) :=
  let (negative, body) := Numeral.sign text
  match wholeDigits body with
  | ([], _) => none
  | (whole, afterWhole) =>
    let (part, afterPart) := fraction afterWhole
    let (power, rest) := exponent afterPart
    if part.isEmpty && power.isNone then
      if Numeral.digitLimit < whole.length then some (.error (.tooLong whole.length))
      else
        let n : Int := Numeral.value whole
        some (.ok (.int (if negative then -n else n), rest))
    else
      some (.ok (.float (Binary64.ofDecimal negative (Numeral.value (whole ++ part))
        (power.getD 0 - part.length)), rest))

/-! ## Dates and times -/

/-- Exactly `count` digits as a number. -/
def fixedDigits? (count : Nat) (text : Text) : Option (Nat × Text) :=
  let ds := text.take count
  if ds.length = count && ds.all decimal then some (Numeral.value ds, text.drop count) else none

def expect? (c : Char) : Text → Option Text
  | d :: rest => if c = d then some rest else none
  | [] => none

/-- Two digits that are at least `low` and at most `high`. -/
def between? (low high : Nat) (text : Text) : Option (Nat × Text) := do
  let (n, rest) ← fixedDigits? 2 text
  if low ≤ n ∧ n ≤ high then some (n, rest) else none

/-- A time of day; of the digits of its fraction six count. -/
def readClock? (text : Text) : Option (Clock × Text) := do
  let (hour, rest) ← between? 0 23 text
  let rest ← expect? ':' rest
  let (minute, rest) ← between? 0 59 rest
  let rest ← expect? ':' rest
  let (second, rest) ← between? 0 59 rest
  match rest with
  | '.' :: later =>
    match later.span decimal with
    | ([], _) => some (⟨hour, minute, second, 0⟩, rest)
    | (ds, later) =>
      let six := (ds ++ List.replicate 6 '0').take 6
      some (⟨hour, minute, second, Numeral.value six⟩, later)
  | rest => some (⟨hour, minute, second, 0⟩, rest)

/-- An offset from UTC in minutes. -/
def readOffset? : Text → Option (Int × Text)
  | [] => none
  | c :: rest =>
    if c = 'Z' ∨ c = 'z' then some (0, rest)
    else if c = '+' ∨ c = '-' then do
      let (hours, rest) ← between? 0 23 rest
      let rest ← expect? ':' rest
      let (minutes, rest) ← between? 0 59 rest
      let n : Int := hours * 60 + minutes
      some (if c = '-' then -n else n, rest)
    else none

/-- A date with or without a time; the calendar may refuse one of the right form. -/
def readDate? (text : Text) : Option (Except Fault (Value × Text)) := do
  let (year, rest) ← fixedDigits? 4 text
  let rest ← expect? '-' rest
  let (month, rest) ← between? 1 12 rest
  let rest ← expect? '-' rest
  let (day, rest) ← between? 1 31 rest
  let clock : Option (Clock × Text) :=
    match rest with
    | c :: later => if c = 'T' ∨ c = 't' ∨ c = ' ' then readClock? later else none
    | [] => none
  match Date.make? year month day with
  | none => some (.error .malformed)
  | some date =>
    match clock with
    | none => some (.ok (.moment (.date date), rest))
    | some (clock, rest) =>
      match readOffset? rest with
      | none => some (.ok (.moment (.naive date clock), rest))
      | some (offset, rest) => some (.ok (.moment (.aware date clock offset), rest))

/-! ## Scalars -/

def words : List (Text × Value) :=
  [("true".toList, .bool true), ("false".toList, .bool false)]

def floatWords : List (Text × Value) :=
  [("inf".toList, .float (.infinite false)), ("nan".toList, .float .nan),
    ("+inf".toList, .float (.infinite false)), ("-inf".toList, .float (.infinite true)),
    ("+nan".toList, .float .nan), ("-nan".toList, .float .nan)]

def readWord? (table : List (Text × Value)) (text : Text) : Option (Value × Text) :=
  table.findSome? fun (word, v) => (Text.dropStart? word text).map fun rest => (v, rest)

/-- A truth value, a date, a time or a number. -/
def readPlain (text : Text) : Except Fault (Value × Text) :=
  match readWord? words text with
  | some found => .ok found
  | none =>
    match readDate? text with
    | some found => found
    | none =>
      match readClock? text with
      | some (clock, rest) => .ok (.moment (.time clock), rest)
      | none =>
        match readBased? text with
        | some found => .ok found
        | none =>
          match readDecimal? text with
          | some found => found
          | none =>
            match readWord? floatWords text with
            | some found => .ok found
            | none => .error .malformed

end TidyImports.Toml
