import TidyImports.Text.Basic

/-!
# White space and decimal digits

* `Text.blank` is the white space that `Text.strip` removes at both ends of a text and that
  `Text.words` cuts at;
* `Text.digit?` is the value of a decimal digit of any script: the zero of each script is
  listed, and its nine followers count up from it.
-/

namespace TidyImports.Text

/-! ## White space -/

/-- White space and bidirectional separators: the controls from tab to carriage return and from
file separator to unit separator, next line, and every space, line and paragraph separator. -/
def blank (c : Char) : Bool :=
  let n := c.toNat
  (9 ≤ n && n ≤ 13) || (28 ≤ n && n ≤ 32) || n == 0x85 || n == 0xA0 || n == 0x1680 ||
    (0x2000 ≤ n && n ≤ 0x200A) || n == 0x2028 || n == 0x2029 || n == 0x202F || n == 0x205F ||
    n == 0x3000

def strip (text : Text) : Text := stripWith blank text

/-- The words between white space. -/
def words (text : Text) : List Text :=
  (splitAt ' ' (text.map fun c => if blank c then ' ' else c)).filter (· ≠ [])

/-- A text of white space only; the empty text is one. -/
def allBlank (text : Text) : Bool := text.all blank

/-! ## Decimal digits -/

/-- The zeros of all scripts, in ascending order. -/
def zeros : List Nat :=
  [0x30, 0x660, 0x6F0, 0x7C0, 0x966, 0x9E6, 0xA66, 0xAE6, 0xB66, 0xBE6, 0xC66, 0xCE6, 0xD66,
   0xDE6, 0xE50, 0xED0, 0xF20, 0x1040, 0x1090, 0x17E0, 0x1810, 0x1946, 0x19D0, 0x1A80, 0x1A90,
   0x1B50, 0x1BB0, 0x1C40, 0x1C50, 0xA620, 0xA8D0, 0xA900, 0xA9D0, 0xA9F0, 0xAA50, 0xABF0,
   0xFF10, 0x104A0, 0x10D30, 0x11066, 0x110F0, 0x11136, 0x111D0, 0x112F0, 0x11450, 0x114D0,
   0x11650, 0x116C0, 0x11730, 0x118E0, 0x11950, 0x11C50, 0x11D50, 0x11DA0, 0x16A60, 0x16AC0,
   0x16B50, 0x1D7CE, 0x1D7D8, 0x1D7E2, 0x1D7EC, 0x1D7F6, 0x1E140, 0x1E2F0, 0x1E950, 0x1FBF0]

/-- The value of a decimal digit of any script. -/
def digit? (c : Char) : Option Nat :=
  if c.toNat < 128 then
    if c.isDigit then some (c.toNat - 48) else none
  else
    (zeros.find? fun z => z ≤ c.toNat && c.toNat < z + 10).map (c.toNat - ·)

/-- The value of a hexadecimal digit. -/
def hexDigit? (c : Char) : Option Nat :=
  let n := c.toNat
  if 48 ≤ n ∧ n ≤ 57 then some (n - 48)
  else if 97 ≤ n ∧ n ≤ 102 then some (n - 87)
  else if 65 ≤ n ∧ n ≤ 70 then some (n - 55)
  else none

/-- The digit of a value below sixteen. -/
def hexDigit (n : Nat) : Char := "0123456789abcdef".toList.getD n '0'

/-- A number in hexadecimal with exactly `width` digits. -/
def hex (width n : Nat) : Text :=
  (List.range width).reverse.map fun i => hexDigit (n / Nat.pow 16 i % 16)

end TidyImports.Text
