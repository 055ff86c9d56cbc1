import TidyImports.Text.Basic

/-!
# Line boundaries of prose and the line endings of files

Two notions of line end stand beside the plain line feed of `Text.lines`:

* `Text.boundary` marks every character that ends a line of prose; `Text.cut` cuts a text
  after each of them, and `flatten_cut` says that the pieces spell the text;
* `Text.Ending` is the line ending of a file: `unifyBreaks` turns all three endings into a
  line feed, `endingOf` reads the ending off the first break, `breakWith` puts it back.
-/

namespace TidyImports.Text

/-! ## Cutting after every boundary -/

/-- Line feed, vertical tab, form feed, carriage return, the three information separators,
next line, line separator and paragraph separator. -/
def boundary (c : Char) : Bool :=
  let n := c.toNat
  (10 ≤ n && n ≤ 13) || (28 ≤ n && n ≤ 30) || n == 0x85 || n == 0x2028 || n == 0x2029

/-- The lines of a text with their ends; a carriage return and its line feed stay together. -/
def cut : Text → List Text
  | [] => []
  | '\r' :: '\n' :: rest => ['\r', '\n'] :: cut rest
  | c :: rest =>
    if boundary c then [c] :: cut rest
    else
      match cut rest with
      | [] => [[c]]
      | piece :: pieces => (c :: piece) :: pieces

theorem flatten_cut (text : Text) : (cut text).flatten = text := by
  fun_induction cut text with
  | case1 => rfl
  | case2 rest ih => simp [ih]
  | case3 c rest _ hb ih => simp [ih]
  | case4 c rest _ hb hc ih =>
    rw [hc] at ih
    simp at ih
    simp [ih]
  | case5 c rest _ hb p ps hc ih =>
    rw [hc] at ih
    simpa using ih

/-- The lines of a text without their ends. -/
def cutBare (text : Text) : List Text :=
  (cut text).map fun line =>
    match line.reverse with
    | '\n' :: '\r' :: rest => rest.reverse
    | c :: rest => if boundary c then rest.reverse else line
    | [] => []

/-! ## Line endings of files -/

inductive Ending where
  | lf
  | cr
  | crlf
  deriving DecidableEq, Repr

def Ending.text : Ending → Text
  | .lf => ['\n']
  | .cr => ['\r']
  | .crlf => ['\r', '\n']

/-- The ending of that spelling; the empty spelling asks for line feeds as they are. -/
def Ending.ofText? : Text → Option Ending
  | [] => some .lf
  | ['\n'] => some .lf
  | ['\r'] => some .cr
  | ['\r', '\n'] => some .crlf
  | _ => none

/-- Every line break, of any of the three endings, as one line feed. -/
def unifyBreaks : Text → Text
  | [] => []
  | '\r' :: '\n' :: rest => '\n' :: unifyBreaks rest
  | c :: rest => (if c = '\r' then '\n' else c) :: unifyBreaks rest

/-- The ending of the first line feed: it is a pair when a carriage return stands before it. -/
def endingOf : Text → Ending
  | [] => .lf
  | '\r' :: '\n' :: _ => .crlf
  | c :: rest => if c = '\n' then .lf else endingOf rest

/-- Every line feed written as the given ending. -/
def breakWith (ending : Ending) (text : Text) : Text := replaceChar '\n' ending.text text

end TidyImports.Text
