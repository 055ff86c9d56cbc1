/-!
# Texts and their lines

A text is a list of characters, so that columns, lengths and order all count code points.
Held here:

* `Text.lines` and `Text.unlines` cut a text at its line feeds and join it again;
  `unlines_lines` says that nothing is lost, `lines_unlines` that lines without a line
  feed come back as they were;
* `Text.le` is the order of texts;
* small searches on texts (`startsWith`, `contains`, `stripWith`).
-/

namespace TidyImports

abbrev Text := List Char

namespace Text

/-! ## Lines -/

/-- The pieces of a text between the characters `sep`; there is always at least one. -/
def splitAt (sep : Char) : Text → List Text
  | [] => [[]]
  | c :: rest =>
    if c = sep then [] :: splitAt sep rest
    else
      match splitAt sep rest with
      | [] => [[c]]
      | piece :: pieces => (c :: piece) :: pieces

def lines (text : Text) : List Text := splitAt '\n' text

def joinWith (sep : Text) : List Text → Text
  | [] => []
  | [piece] => piece
  | piece :: pieces => piece ++ sep ++ joinWith sep pieces

def unlines (ls : List Text) : Text := joinWith ['\n'] ls

theorem splitAt_ne_nil (sep : Char) (text : Text) : splitAt sep text ≠ [] := by
  cases text with
  | nil => simp [splitAt]
  | cons c rest =>
    by_cases h : c = sep
    · simp [splitAt, h]
    · simp only [splitAt, h, ↓reduceIte]
      cases splitAt sep rest <;> simp

theorem joinWith_cons {sep piece : Text} {pieces : List Text} (h : pieces ≠ []) :
    joinWith sep (piece :: pieces) = piece ++ sep ++ joinWith sep pieces := by
  cases pieces with
  | nil => exact absurd rfl h
  | cons p ps => rfl

theorem joinWith_splitAt (sep : Char) (text : Text) : joinWith [sep] (splitAt sep text) = text := by
  induction text with
  | nil => rfl
  | cons c rest ih =>
    by_cases h : c = sep
    · simp [splitAt, h, joinWith_cons (splitAt_ne_nil sep rest), ih]
    · simp only [splitAt, h, ↓reduceIte]
      cases hs : splitAt sep rest with
      | nil => exact absurd hs (splitAt_ne_nil sep rest)
      | cons p ps =>
        rw [hs] at ih
        cases ps with
        | nil => simpa [joinWith] using ih
        | cons q qs => simpa [joinWith] using ih

theorem unlines_lines (text : Text) : unlines (lines text) = text :=
  joinWith_splitAt '\n' text

theorem splitAt_append {sep : Char} {a : Text} (h : sep ∉ a) (b : Text) :
    splitAt sep (a ++ sep :: b) = a :: splitAt sep b := by
  induction a with
  | nil => simp [splitAt]
  | cons c rest ih =>
    have hc : c ≠ sep := fun e => h (by simp [e])
    have hr : sep ∉ rest := fun m => h (List.mem_cons_of_mem c m)
    simp [splitAt, hc, ih hr]

theorem splitAt_of_notMem {sep : Char} {a : Text} (h : sep ∉ a) : splitAt sep a = [a] := by
  induction a with
  | nil => rfl
  | cons c rest ih =>
    have hc : c ≠ sep := fun e => h (by simp [e])
    have hr : sep ∉ rest := fun m => h (List.mem_cons_of_mem c m)
    simp [splitAt, hc, ih hr]

theorem splitAt_joinWith {sep : Char} {pieces : List Text} (hne : pieces ≠ [])
    (h : ∀ p ∈ pieces, sep ∉ p) : splitAt sep (joinWith [sep] pieces) = pieces := by
  induction pieces with
  | nil => exact absurd rfl hne
  | cons p ps ih =>
    cases ps with
    | nil => simpa [joinWith] using splitAt_of_notMem (h p (by simp))
    | cons q qs =>
      rw [joinWith_cons (by simp)]
      simp only [List.append_assoc, List.singleton_append]
      rw [splitAt_append (h p (by simp)), ih (by simp) (fun x hx => h x (List.mem_cons_of_mem p hx))]

theorem lines_unlines {ls : List Text} (hne : ls ≠ []) (h : ∀ l ∈ ls, '\n' ∉ l) :
    lines (unlines ls) = ls :=
  splitAt_joinWith hne h

/-! ## Order -/

/-- Texts are ordered by their first difference; a beginning comes before the whole. -/
def le : Text → Text → Bool
  | [], _ => true
  | _ :: _, [] => false
  | c :: a, d :: b => if c = d then le a b else c.toNat < d.toNat

/-! ## Searching -/

/-- What follows `start` when the text begins with it. -/
def dropStart? : (start text : Text) → Option Text
  | [], text => some text
  | _ :: _, [] => none
  | c :: start, d :: text => if c = d then dropStart? start text else none

def startsWith (text start : Text) : Bool := (dropStart? start text).isSome

def contains (text part : Text) : Bool :=
  match text with
  | [] => part.isEmpty
  | _ :: rest => startsWith text part || contains rest part

/-- Every occurrence of the character `old` becomes `new`. -/
def replaceChar (old : Char) (new : Text) (text : Text) : Text :=
  text.flatMap fun c => if c = old then new else [c]

/-- The text without the characters of a class at its two ends. -/
def stripWith (p : Char → Bool) (text : Text) : Text :=
  ((text.dropWhile p).reverse.dropWhile p).reverse

end Text
end TidyImports
