import TidyImports.Text.Basic

/-!
# Terminal codes

A terminal code is an escape, an opening bracket, parameters and one letter. Output that does not
go to a terminal is written without them: `Text.withoutCodes` drops every code, and by
`withoutCodes_eq_self` a text without an escape is left as it is. What counts as a code is the
choice of a terminal library; results about printed texts rest on the laws `Text.DropsCodes` alone.
-/

namespace TidyImports.Text

def codeParameter (c : Char) : Bool := c.isDigit || c == ';' || c == '?'

/-- The length of the code that a text begins with, zero without one. -/
def codeLength : Text → Nat
  | '\x1b' :: '[' :: rest =>
    match rest.span codeParameter with
    | (parameters, c :: _) => if c.isAlpha then parameters.length + 3 else 0
    | (_, []) => 0
  | _ => 0

/-- The text behind its first `skipped` characters, without its codes. -/
def dropCodes : (skipped : Nat) → Text → Text
  | _, [] => []
  | n + 1, _ :: rest => dropCodes n rest
  | 0, c :: rest =>
    match codeLength (c :: rest) with
    | 0 => c :: dropCodes 0 rest
    | n + 1 => dropCodes n rest

def withoutCodes (text : Text) : Text := dropCodes 0 text

theorem codeLength_of_ne {c : Char} (h : c ≠ '\x1b') (rest : Text) :
    codeLength (c :: rest) = 0 := by
  unfold codeLength
  split
  · rename_i heq
    exact absurd (List.cons.inj heq).1 h
  · rfl

theorem withoutCodes_eq_self {text : Text} (h : '\x1b' ∉ text) : withoutCodes text = text := by
  induction text with
  | nil => rfl
  | cons c rest ih =>
    have hc : c ≠ '\x1b' := fun e => h (by simp [e])
    have hr : '\x1b' ∉ rest := fun m => h (List.mem_cons_of_mem c m)
    have := ih hr
    simp only [withoutCodes] at this ⊢
    simp [dropCodes, codeLength_of_ne hc, this]

end TidyImports.Text
