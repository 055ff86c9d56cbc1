import TidyImports.Data.Value

/-!
# JSON texts written

`Json.write` writes a value as JSON, on one line or indented, with characters beyond ASCII as they
are or as escapes. A date or a time has no JSON form; `Value.obstacle?` finds one beforehand, and
here it is written as the text it displays as. Running out of stack on a deeply nested value is left
out, as it is in `Json.parse`.
-/

namespace TidyImports.Json

/-- Where line breaks go and which characters are escaped. -/
structure Style where
  indent : Option Nat
  ascii : Bool

/-- One line of ASCII. -/
def Style.inline : Style := ⟨none, true⟩

def Style.indented (width : Nat) : Style := ⟨some width, false⟩

/-! ## Texts -/

/-- A UTF-16 unit as an escape. -/
def unitEscape (n : Nat) : Text := '\\' :: 'u' :: Text.hex 4 n

/-- A character as one escape, or as two for one beyond the basic plane. -/
def charEscape (c : Char) : Text :=
  let n := c.toNat
  if n < 0x10000 then unitEscape n
  else unitEscape (0xD800 + (n - 0x10000) / 0x400) ++ unitEscape (0xDC00 + (n - 0x10000) % 0x400)

def writeChar (ascii : Bool) (c : Char) : Text :=
  if c = '"' then ['\\', '"']
  else if c = '\\' then ['\\', '\\']
  else if c = '\n' then ['\\', 'n']
  else if c = '\r' then ['\\', 'r']
  else if c = '\t' then ['\\', 't']
  else if c = '\x08' then ['\\', 'b']
  else if c = '\x0c' then ['\\', 'f']
  else if c.toNat < 0x20 then charEscape c
  else if ascii && 0x7F ≤ c.toNat then charEscape c
  else [c]

def writeText (ascii : Bool) (s : String) : Text :=
  '"' :: s.toList.flatMap (writeChar ascii) ++ ['"']

/-! ## Values -/

def writeDouble : Binary64 → Text
  | .nan => "NaN".toList
  | .infinite negative => (if negative then "-Infinity" else "Infinity").toList
  | x => x.written.toList

/-- A line break with the indentation of a depth, nothing on one line. -/
def Style.break (style : Style) (depth : Nat) : Text :=
  match style.indent with
  | none => []
  | some width => '\n' :: List.replicate (width * depth) ' '

/-- What stands between two items. -/
def Style.comma (style : Style) (depth : Nat) : Text :=
  match style.indent with
  | none => [',', ' ']
  | some _ => ',' :: style.break depth

mutual

/-- A value as JSON, nested to any depth. -/
def write (style : Style) (depth : Nat) : Value → Text
  | .null => "null".toList
  | .bool b => (if b then "true" else "false").toList
  | .int n => (toString n).toList
  | .float x => writeDouble x
  | .text s => writeText style.ascii s
  | .moment m => writeText style.ascii m.text
  | .list [] => ['[', ']']
  | .list (v :: rest) =>
    '[' :: style.break (depth + 1) ++ write style (depth + 1) v ++
      writeItems style (depth + 1) rest ++ style.break depth ++ [']']
  | .table [] => ['{', '}']
  | .table ((k, v) :: rest) =>
    '{' :: style.break (depth + 1) ++ writeText style.ascii k ++ [':', ' '] ++
      write style (depth + 1) v ++ writeEntries style (depth + 1) rest ++ style.break depth ++ ['}']

def writeItems (style : Style) (depth : Nat) : List Value → Text
  | [] => []
  | v :: rest => style.comma depth ++ write style depth v ++ writeItems style depth rest

def writeEntries (style : Style) (depth : Nat) : List (String × Value) → Text
  | [] => []
  | (k, v) :: rest =>
    style.comma depth ++ writeText style.ascii k ++ [':', ' '] ++ write style depth v ++
      writeEntries style depth rest

end

def render (style : Style) (v : Value) : String := String.ofList (write style 0 v)

end TidyImports.Json
