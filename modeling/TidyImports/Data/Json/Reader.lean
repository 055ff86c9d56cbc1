import TidyImports.Data.Value

/-!
# JSON texts read

`Json.parse` reads one JSON value that fills a text. White space is space, tab, line feed and
carriage return; besides the standard's literals `NaN`, `Infinity` and `-Infinity` are read; of two
equal keys the later value wins in the place of the earlier one. A refusal says what was expected
and where: the place is the part of the text that was not read.

Two things are given up. Values nest to any depth, where a program runs out of stack at some depth.
And texts consist of characters proper, so that half a pair of units, which a JSON text may spell
as an escape, has no character to stand for it.
-/

namespace TidyImports.Json

inductive Cause where
  | value
  | name
  | colon
  | comma
  | unterminated
  | control
  | badEscape
  | badUnit
  | extra
  | byteOrderMark
  deriving DecidableEq, Repr

def Cause.message : Cause → String
  | .value => "Expecting value"
  | .name => "Expecting property name enclosed in double quotes"
  | .colon => "Expecting ':' delimiter"
  | .comma => "Expecting ',' delimiter"
  | .unterminated => "Unterminated string starting at"
  | .control => "Invalid control character at"
  | .badEscape => "Invalid \\escape"
  | .badUnit => "Invalid \\uXXXX escape"
  | .extra => "Extra data"
  | .byteOrderMark => "Unexpected UTF-8 BOM (decode using utf-8-sig)"

/-- Why a text was refused, with the part of it from the faulty place on. -/
inductive Refusal where
  | malformed (cause : Cause) (rest : Text)
  /-- An integer of that many digits. -/
  | tooLong (digits : Nat)
  deriving DecidableEq, Repr

def white (c : Char) : Bool := c = ' ' || c = '\t' || c = '\n' || c = '\r'

def skip (text : Text) : Text := text.dropWhile white

/-! ## Texts -/

def hexValue? (ds : Text) : Option Nat :=
  ds.foldl (fun acc c => do let n ← acc; let d ← Text.hexDigit? c; pure (n * 16 + d)) (some 0)

def simpleEscape? (c : Char) : Option Char :=
  if c = '"' ∨ c = '\\' ∨ c = '/' then some c
  else if c = 'n' then some '\n'
  else if c = 'r' then some '\r'
  else if c = 't' then some '\t'
  else if c = 'b' then some '\x08'
  else if c = 'f' then some '\x0c'
  else none

def highUnit (n : Nat) : Bool := 0xD800 ≤ n && n < 0xDC00

def lowUnit (n : Nat) : Bool := 0xDC00 ≤ n && n < 0xE000

/-- The character of one number, the replacement character for half a pair of units: such halves are
not told apart, and what holds one is not written back as it was. -/
def unitChar (n : Nat) : Char :=
  if highUnit n || lowUnit n then Char.ofNat 0xFFFD else Char.ofNat n

def pairChar (high low : Nat) : Char :=
  Char.ofNat (0x10000 + (high - 0xD800) * 0x400 + (low - 0xDC00))

/-- The text of a list of character numbers, in which two units of a pair are one character. -/
def joinUnits : List Nat → Text
  | [] => []
  | [n] => [unitChar n]
  | n :: m :: rest =>
    if highUnit n && lowUnit m then pairChar n m :: joinUnits rest
    else unitChar n :: joinUnits (m :: rest)

/-- The numbers of the characters of a text up to its closing quote; `opening` is the text from the
opening quote on. A character must follow the four digits of an escape. -/
def readUnits (opening : Text) : Text → Except Refusal (List Nat × Text)
  | [] => .error (.malformed .unterminated opening)
  | c :: rest =>
    if c = '"' then .ok ([], rest)
    else if c.toNat < 0x20 then .error (.malformed .control (c :: rest))
    else if c ≠ '\\' then (readUnits opening rest).map fun (ns, r) => (c.toNat :: ns, r)
    else
      match rest with
      | [] => .error (.malformed .unterminated opening)
      | e :: rest =>
        if e ≠ 'u' then
          match simpleEscape? e with
          | none => .error (.malformed .badEscape (c :: e :: rest))
          | some d => (readUnits opening rest).map fun (ns, r) => (d.toNat :: ns, r)
        else
          match rest with
          | d₁ :: d₂ :: d₃ :: d₄ :: after =>
            match hexValue? [d₁, d₂, d₃, d₄] with
            | some n =>
              if after.isEmpty then .error (.malformed .badUnit (e :: rest))
              else (readUnits opening after).map fun (ns, r) => (n :: ns, r)
            | none => .error (.malformed .badUnit (e :: rest))
          | _ => .error (.malformed .badUnit (e :: rest))

/-- The text whose opening quote was read. -/
def readText (rest : Text) : Except Refusal (String × Text) :=
  (readUnits ('"' :: rest) rest).map fun (ns, r) => (String.ofList (joinUnits ns), r)

/-! ## Numbers and literals -/

/-- The fraction of a number, empty when no digit follows the point. -/
def fraction : Text → Text × Text
  | '.' :: rest =>
    match rest.span Char.isDigit with
    | ([], _) => ([], '.' :: rest)
    | (ds, rest) => (ds, rest)
  | text => ([], text)

/-- The exponent of a number, `none` when no digit follows its letter. -/
def exponent (text : Text) : Option Int × Text :=
  match text with
  | c :: rest =>
    if c = 'e' ∨ c = 'E' then
      let (negative, body) := Numeral.sign rest
      match body.span Char.isDigit with
      | ([], _) => (none, text)
      | (ds, rest) => (some (if negative then -(Numeral.value ds : Int) else Numeral.value ds), rest)
    else (none, text)
  | [] => (none, [])

/-- The digits before the point: a lone zero, or digits that begin with none. -/
def wholeDigits : Text → Option (Text × Text)
  | '0' :: rest => some (['0'], rest)
  | text =>
    match text.span Char.isDigit with
    | ([], _) => none
    | (ds, rest) => some (ds, rest)

def readNumber (text : Text) : Except Refusal (Value × Text) :=
  let (negative, body) : Bool × Text :=
    match text with
    | '-' :: rest => (true, rest)
    | _ => (false, text)
  match wholeDigits body with
  | none =>
    match Text.dropStart? "Infinity".toList body with
    | some rest => .ok (.float (.infinite negative), rest)
    | none => .error (.malformed .value text)
  | some (whole, afterWhole) =>
    let (part, afterPart) := fraction afterWhole
    let (power, rest) := exponent afterPart
    if part.isEmpty && power.isNone then
      if Numeral.digitLimit < whole.length then .error (.tooLong whole.length)
      else
        let n : Int := Numeral.value whole
        .ok (.int (if negative then -n else n), rest)
    else
      .ok (.float (Binary64.ofDecimal negative (Numeral.value (whole ++ part))
        (power.getD 0 - part.length)), rest)

def words : List (Text × Value) :=
  [("null".toList, .null), ("true".toList, .bool true), ("false".toList, .bool false),
    ("NaN".toList, .float .nan)]

/-- A literal or a number. -/
def readScalar (text : Text) : Except Refusal (Value × Text) :=
  match words.findSome? fun (word, v) => (Text.dropStart? word text).map fun rest => (v, rest) with
  | some found => .ok found
  | none => readNumber text

/-! ## Values -/

mutual

/-- A value at the very start of the text. Every character read takes at most two units of fuel:
one for a value that begins with it and one for an item or entry. -/
def readValue : (fuel : Nat) → Text → Except Refusal (Value × Text)
  | 0, text => .error (.malformed .value text)
  | fuel + 1, text =>
    match text with
    | '"' :: rest => (readText rest).map fun (s, r) => (.text s, r)
    | '[' :: rest =>
      match skip rest with
      | ']' :: rest => .ok (.list [], rest)
      | rest => (readItems fuel rest).map fun (vs, r) => (.list vs, r)
    | '{' :: rest =>
      match skip rest with
      | '}' :: rest => .ok (.table [], rest)
      | rest => (readEntries fuel [] rest).map fun (es, r) => (.table es, r)
    | text => readScalar text

/-- One or more items up to the closing bracket. -/
def readItems : (fuel : Nat) → Text → Except Refusal (List Value × Text)
  | 0, text => .error (.malformed .value text)
  | fuel + 1, text => do
    let (v, rest) ← readValue fuel text
    match skip rest with
    | ']' :: rest => pure ([v], rest)
    | ',' :: rest =>
      let (vs, rest) ← readItems fuel (skip rest)
      pure (v :: vs, rest)
    | rest => .error (.malformed .comma rest)

/-- One or more entries up to the closing brace, put behind those read before. -/
def readEntries : (fuel : Nat) → (before : Table) → Text → Except Refusal (Table × Text)
  | 0, _, text => .error (.malformed .value text)
  | fuel + 1, before, text =>
    match text with
    | '"' :: rest => do
      let (key, rest) ← readText rest
      match skip rest with
      | ':' :: rest =>
        let (v, rest) ← readValue fuel (skip rest)
        let entries := before.put key v
        match skip rest with
        | '}' :: rest => pure (entries, rest)
        | ',' :: rest => readEntries fuel entries (skip rest)
        | rest => .error (.malformed .comma rest)
      | rest => .error (.malformed .colon rest)
    | text => .error (.malformed .name text)

end

/-! ## Whole texts -/

/-- Where a text is faulty, counted from one for lines and columns and from zero for characters. -/
structure Place where
  line : Nat
  column : Nat
  offset : Nat
  deriving DecidableEq, Repr

/-- The place where the last `left` characters of a text begin. -/
def Place.before (text : Text) (left : Nat) : Place :=
  let front := text.take (text.length - left)
  ⟨front.count '\n' + 1, (front.reverse.takeWhile (· ≠ '\n')).length + 1, front.length⟩

inductive Fault where
  | malformed (cause : Cause) (place : Place)
  | tooLong (digits : Nat)
  deriving DecidableEq, Repr

def Fault.message : Fault → String
  | .malformed cause p =>
    s!"{cause.message}: line {p.line} column {p.column} (char {p.offset})"
  | .tooLong digits => (Numeral.Fault.tooLong digits).message

def Refusal.fault (text : Text) : Refusal → Fault
  | .malformed cause rest => .malformed cause (Place.before text rest.length)
  | .tooLong digits => .tooLong digits

/-- The value that fills the text, white space around it aside. -/
def readWhole (text : Text) : Except Refusal Value :=
  if text.head? = some '\uFEFF' then .error (.malformed .byteOrderMark text)
  else do
    let (v, rest) ← readValue (2 * text.length + 2) (skip text)
    match skip rest with
    | [] => pure v
    | rest => .error (.malformed .extra rest)

/-- The value of a JSON text, nested to any depth. -/
def parse (text : Text) : Except Fault Value := (readWhole text).mapError (Refusal.fault text)

end TidyImports.Json
