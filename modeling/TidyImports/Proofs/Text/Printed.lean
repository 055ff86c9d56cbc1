import Mathlib.Data.List.TakeDrop
import TidyImports.Console.Codes
import TidyImports.Text.LineBreak
import TidyImports.Proofs.Text.Lines

/-!
# Texts printed one behind the other

A text that is printed in pieces can be read by lines when every piece ends its line. Terminal codes
that are taken out on the way do not move the ends of lines, but change what stands on them.

* `DropsCodes` — the laws of taking codes out; `dropsCodes_withoutCodes` says that they hold;
* `DropsCodes.lines_eq` — codes are taken out line by line;
* `OwnLines` — the lines of a printed text are these, the last one ended or not;
* `ownLines_flatten` — pieces that end their lines stand on lines of their own;
* `DropsCodes.ownLines_iff` — which pieces do that are printed without codes.
-/

namespace TidyImports.Text

/-! ## Terminal codes -/

/-- Whether no terminal code can hold the character. -/
def outsideCodes (c : Char) : Bool := c != '\x1b' && c != '[' && !codeParameter c && !c.isAlpha

theorem span_append_cons {p : Char → Bool} {c : Char} (h : p c = false) (a b : Text) :
    (a ++ c :: b).span p = ((a.span p).1, (a.span p).2 ++ c :: b) := by
  simp only [List.span_eq_takeWhile_dropWhile, Prod.mk.injEq]
  induction a with
  | nil => simp [h]
  | cons d a ih =>
    cases hd : p d with
    | true => simpa [hd] using ih
    | false => simp [hd]

theorem codeLength_bracket (rest : Text) :
    codeLength ('\x1b' :: '[' :: rest) =
      match rest.span codeParameter with
      | (parameters, c :: _) => if c.isAlpha then parameters.length + 3 else 0
      | (_, []) => 0 := rfl

theorem codeLength_of_not_bracket {d e : Char} (h : ¬ (d = '\x1b' ∧ e = '[')) (rest : Text) :
    codeLength (d :: e :: rest) = 0 := by
  unfold codeLength
  split
  · rename_i heq
    cases heq
    exact absurd ⟨rfl, rfl⟩ h
  · rfl

theorem codeLength_append {c : Char} (h : outsideCodes c = true) (a b : Text) :
    codeLength (a ++ c :: b) = codeLength a := by
  simp only [outsideCodes, Bool.and_eq_true, bne_iff_ne, Bool.not_eq_true'] at h
  obtain ⟨⟨⟨hescape, hbracket⟩, hparameter⟩, hletter⟩ := h
  match a with
  | [] => exact codeLength_of_ne hescape b
  | [d] =>
    have hlone : codeLength [d] = 0 := by
      unfold codeLength
      split
      · rename_i heq
        cases heq
      · rfl
    rw [hlone]
    exact codeLength_of_not_bracket (fun hcode => hbracket hcode.2) b
  | d :: e :: a =>
    by_cases hstart : d = '\x1b' ∧ e = '['
    · obtain ⟨rfl, rfl⟩ := hstart
      rw [List.cons_append, List.cons_append, codeLength_bracket, codeLength_bracket,
        span_append_cons hparameter]
      obtain ⟨parameters, rest⟩ := a.span codeParameter
      cases rest with
      | nil => simp [hletter]
      | cons => rfl
    · rw [List.cons_append, List.cons_append, codeLength_of_not_bracket hstart,
        codeLength_of_not_bracket hstart]

theorem codeLength_le (text : Text) : codeLength text ≤ text.length := by
  unfold codeLength
  split
  · rename_i rest
    have hlength : ((rest.span codeParameter).1 ++ (rest.span codeParameter).2).length =
        rest.length := by
      rw [List.span_eq_takeWhile_dropWhile, List.takeWhile_append_dropWhile]
    generalize rest.span codeParameter = cut at hlength ⊢
    obtain ⟨parameters, behind⟩ := cut
    cases behind with
    | nil => exact Nat.zero_le _
    | cons c behind =>
      simp only [List.length_append, List.length_cons] at hlength ⊢
      split <;> omega
  · exact Nat.zero_le _

theorem dropCodes_append {c : Char} (h : outsideCodes c = true) (a b : Text) {n : Nat}
    (hn : n ≤ a.length) : dropCodes n (a ++ c :: b) = dropCodes n a ++ c :: withoutCodes b := by
  induction a generalizing n with
  | nil =>
    obtain rfl : n = 0 := by simpa using hn
    have hnone : codeLength (c :: b) = 0 := codeLength_append h [] b
    simp [dropCodes, hnone, withoutCodes]
  | cons d a ih =>
    cases n with
    | succ n => exact ih (by simpa using hn)
    | zero =>
      have hlength := codeLength_le (d :: a)
      have happend := codeLength_append h (d :: a) b
      rw [List.cons_append] at happend ⊢
      rw [dropCodes, dropCodes, happend]
      cases hcode : codeLength (d :: a) with
      | zero => exact congrArg (d :: ·) (ih (Nat.zero_le _))
      | succ m =>
        rw [hcode] at hlength
        exact ih (by simpa using hlength)

theorem dropCodes_sublist (n : Nat) (text : Text) : (dropCodes n text).Sublist text := by
  induction text generalizing n with
  | nil => simp [dropCodes]
  | cons c text ih =>
    cases n with
    | succ n => exact (ih n).cons c
    | zero =>
      rw [dropCodes]
      split
      · exact (ih 0).cons_cons c
      · exact (ih _).cons c

/-- Codes are taken out of a text: nothing is added, codes do not reach over characters that belong
to none, and a text without an escape has none. -/
structure DropsCodes (strip : Text → Text) : Prop where
  sublist : ∀ text, (strip text).Sublist text
  append : ∀ {c}, outsideCodes c = true → ∀ a b, strip (a ++ c :: b) = strip a ++ c :: strip b
  self : ∀ {text}, '\x1b' ∉ text → strip text = text

theorem dropsCodes_withoutCodes : DropsCodes withoutCodes where
  sublist := dropCodes_sublist 0
  append h a b := dropCodes_append h a b (Nat.zero_le _)
  self := withoutCodes_eq_self

namespace DropsCodes

variable {strip : Text → Text} (hstrip : DropsCodes strip)

include hstrip

theorem nil : strip [] = [] := hstrip.self List.not_mem_nil

theorem cons {c : Char} (h : outsideCodes c = true) (b : Text) : strip (c :: b) = c :: strip b := by
  have happend := hstrip.append h [] b
  rwa [hstrip.nil] at happend

/-- No text is what is left of it without its codes with a character behind it that belongs to
none. -/
theorem append_ne {c : Char} (h : outsideCodes c = true) (text rest : Text) :
    strip text ++ c :: rest ≠ text := by
  induction hlength : text.length using Nat.strongRecOn generalizing text rest with
  | _ n ih =>
    intro heq
    -- without codes, both sides are a shorter text of the same kind
    have hshorter : (strip text).length < n := by
      have := congrArg List.length heq
      rw [hlength, List.length_append, List.length_cons] at this
      omega
    have hagain := congrArg strip heq
    rw [hstrip.append h] at hagain
    exact ih _ hshorter _ _ rfl hagain

theorem unlines_eq (ls : List Text) : strip (unlines ls) = unlines (ls.map strip) := by
  induction ls with
  | nil => exact hstrip.nil
  | cons l ls ih =>
    by_cases hls : ls = []
    · subst hls
      rfl
    · rw [List.map_cons, unlines_cons hls, unlines_cons (by simp [hls]),
        hstrip.append (by decide), ih]

theorem lines_eq (text : Text) : lines (strip text) = (lines text).map strip := by
  have hunlines := hstrip.unlines_eq (lines text)
  rw [unlines_lines] at hunlines
  rw [hunlines]
  apply lines_unlines_map
  intro line hline hmem
  exact newline_notMem_of_mem_lines text hline ((hstrip.sublist line).subset hmem)

end DropsCodes

/-! ## Pieces and lines -/

/-- The text ends its last line. -/
def Ended (text : Text) : Prop := text.getLast? = some '\n'

instance (text : Text) : Decidable (Ended text) := inferInstanceAs (Decidable (_ = _))

/-- A text without the line feed at its end. -/
def bare (text : Text) : Text := if Ended text then text.dropLast else text

/-- The lines of a printed text are these, the last one ended or not. -/
def OwnLines (shown : List Text) (printed : Text) : Prop :=
  lines printed = shown ∨ lines printed = shown ++ [[]]

theorem ended_concat (text : Text) : Ended (text ++ ['\n']) := List.getLast?_concat

theorem bare_concat (text : Text) : bare (text ++ ['\n']) = text := by
  rw [bare, if_pos (ended_concat text), List.dropLast_concat]

section

variable {piece text : Text} {pieces : List Text}

theorem Ended.bare_append (h : Ended piece) : bare piece ++ ['\n'] = piece := by
  obtain ⟨front, rfl⟩ := List.getLast?_eq_some_iff.mp h
  rw [bare_concat]

theorem lines_append_of_ended (hpiece : '\n' ∉ piece.dropLast) (h : Ended piece) (text : Text) :
    lines (piece ++ text) = bare piece :: lines text := by
  have hbare : '\n' ∉ bare piece := by rwa [bare, if_pos h]
  rw [← congrArg (· ++ text) h.bare_append, List.append_assoc, List.singleton_append]
  exact splitAt_append hbare text

theorem newline_notMem_dropLast_cons {c : Char} (hc : c ≠ '\n') (h : '\n' ∉ text.dropLast) :
    '\n' ∉ (c :: text).dropLast := by
  cases text with
  | nil => simp
  | cons => simpa [hc.symm] using h

/-- A line that is cut off a text has a line feed at its end only. -/
theorem newline_notMem_dropLast_of_mem_cut (h : piece ∈ cut text) : '\n' ∉ piece.dropLast := by
  fun_induction cut text generalizing piece with
  | case1 => cases h
  | case2 rest ih =>
    rcases List.mem_cons.mp h with rfl | h
    · decide
    · exact ih h
  | case3 c rest _ _ ih =>
    rcases List.mem_cons.mp h with rfl | h
    · exact List.not_mem_nil
    · exact ih h
  | case4 c rest _ _ _ =>
    obtain rfl := List.mem_singleton.mp h
    exact List.not_mem_nil
  | case5 c rest _ hc first more hrest ih =>
    rw [hrest] at ih
    rcases List.mem_cons.mp h with rfl | h
    · refine newline_notMem_dropLast_cons ?_ (ih List.mem_cons_self)
      rintro rfl
      exact hc (by decide)
    · exact ih (List.mem_cons_of_mem _ h)

theorem newline_notMem_of_not_ended (hpiece : '\n' ∉ piece.dropLast) (h : ¬ Ended piece) :
    '\n' ∉ piece := by
  intro hmem
  rcases List.eq_nil_or_concat piece with rfl | ⟨front, c, rfl⟩
  · cases hmem
  · simp only [List.concat_eq_append, List.dropLast_concat, List.mem_append,
      List.mem_singleton] at hpiece hmem
    simp only [Ended, List.concat_eq_append, List.getLast?_concat, Option.some.injEq] at h
    exact hmem.elim hpiece fun hc => h hc.symm

theorem lines_of_not_ended (hpiece : '\n' ∉ piece.dropLast) (h : ¬ Ended piece) :
    lines piece = [bare piece] := by
  rw [bare, if_neg h]
  exact splitAt_of_notMem (newline_notMem_of_not_ended hpiece h)

theorem ownLines_append_iff {shown : List Text} (hpiece : '\n' ∉ piece.dropLast) (h : Ended piece) :
    OwnLines (bare piece :: shown) (piece ++ text) ↔ OwnLines shown text := by
  simp [OwnLines, lines_append_of_ended hpiece h]

theorem ownLines_newline_append_iff {shown : List Text} (front text : Text) :
    OwnLines (lines front ++ shown) (front ++ '\n' :: text) ↔ OwnLines shown text := by
  simp [OwnLines, lines_append_newline]

theorem ended_of_mem_dropLast_cons {first : Text} {rest : List Text} (h : Ended first) :
    (∀ p ∈ (first :: rest).dropLast, Ended p) ↔ ∀ p ∈ rest.dropLast, Ended p := by
  cases rest with
  | nil => simp
  | cons => simp [h]

/-- Pieces that end their lines stand on lines of their own. -/
theorem ownLines_flatten (hpieces : ∀ p ∈ pieces, '\n' ∉ p.dropLast)
    (hended : ∀ p ∈ pieces.dropLast, Ended p) : OwnLines (pieces.map bare) pieces.flatten := by
  induction pieces with
  | nil => exact .inr rfl
  | cons first rest ih =>
    have hfirst := hpieces first List.mem_cons_self
    by_cases h : Ended first
    · rw [List.map_cons, List.flatten_cons, ownLines_append_iff hfirst h]
      exact ih (fun p hp => hpieces p (List.mem_cons_of_mem _ hp))
        ((ended_of_mem_dropLast_cons h).mp hended)
    · obtain rfl : rest = [] := by
        by_contra hrest
        exact h (hended first (by simp [List.dropLast_cons_of_ne_nil hrest]))
      rw [List.flatten_singleton]
      exact .inl (lines_of_not_ended hfirst h)

end

/-! ## Pieces without codes -/

/-- The text begins with a character of no terminal code, and a line feed stands nowhere but at
its end. -/
structure Piece (text : Text) : Prop where
  front : ∃ c rest, text = c :: rest ∧ outsideCodes c = true ∧ c ≠ '\n'
  newline : '\n' ∉ text.dropLast

section

variable {piece : Text} {pieces : List Text}

theorem Piece.ne_nil (h : Piece piece) : piece ≠ [] := by
  obtain ⟨c, rest, rfl, -, -⟩ := h.front
  exact List.cons_ne_nil c rest

theorem flatten_ne_nil (hpieces : ∀ p ∈ pieces, Piece p) (hne : pieces ≠ []) :
    pieces.flatten ≠ [] := by
  obtain ⟨first, rest, rfl⟩ := List.exists_cons_of_ne_nil hne
  simp [(hpieces first List.mem_cons_self).ne_nil]

theorem ended_append_iff (front : Text) (h : piece ≠ []) :
    Ended (front ++ piece) ↔ Ended piece := by
  rw [Ended, Ended, List.getLast?_append, List.getLast?_eq_some_getLast h, Option.some_or]

/-- Pieces that end their lines, up to the last one, make a text that ends its last line exactly
when the last piece does. -/
theorem ended_flatten_iff (hpieces : ∀ p ∈ pieces, Piece p) (hne : pieces ≠ [])
    (hended : ∀ p ∈ pieces.dropLast, Ended p) : Ended pieces.flatten ↔ ∀ p ∈ pieces, Ended p := by
  obtain ⟨front, last, rfl⟩ : ∃ front last, pieces = front ++ [last] :=
    ⟨_, _, (List.dropLast_concat_getLast hne).symm⟩
  rw [List.dropLast_concat] at hended
  rw [List.flatten_append, List.flatten_singleton,
    ended_append_iff _ (hpieces last (by simp)).ne_nil, List.forall_mem_append,
    List.forall_mem_singleton]
  exact (and_iff_right hended).symm

namespace DropsCodes

variable {strip : Text → Text} (hstrip : DropsCodes strip)

include hstrip

theorem flatten (hpieces : ∀ p ∈ pieces, Piece p) :
    strip pieces.flatten = (pieces.map strip).flatten := by
  induction pieces with
  | nil => exact hstrip.nil
  | cons first rest ih =>
    have ih := ih fun p hp => hpieces p (List.mem_cons_of_mem _ hp)
    rw [List.map_cons, List.flatten_cons, List.flatten_cons, ← ih]
    cases rest with
    | nil => rw [List.flatten_nil, hstrip.nil, List.append_nil, List.append_nil]
    | cons next more =>
      obtain ⟨c, line, rfl, hc, -⟩ := (hpieces next (by simp)).front
      rw [List.flatten_cons, List.cons_append, hstrip.append hc, hstrip.cons hc]

theorem bare_eq_iff (h : Ended piece) : strip (bare piece) = bare piece ↔ strip piece = piece := by
  have hpiece : strip piece = strip (bare piece) ++ ['\n'] := by
    have happend := hstrip.append (c := '\n') (by decide) (bare piece) []
    rwa [h.bare_append, hstrip.nil] at happend
  constructor
  · intro hbare
    rw [hpiece, hbare, h.bare_append]
  · intro hself
    rw [hself] at hpiece
    exact (List.append_cancel_right (h.bare_append.trans hpiece)).symm

theorem flatten_eq_self (hpieces : ∀ p ∈ pieces, Piece p) (hcodes : ∀ p ∈ pieces, strip p = p) :
    strip pieces.flatten = pieces.flatten := by
  rw [hstrip.flatten hpieces, List.map_congr_left hcodes, List.map_id']

/-- A piece that does not end its line makes one with the piece behind it. -/
theorem not_ownLines_of_not_ended {shown : List Text} {text : Text} (hpiece : '\n' ∉ piece.dropLast)
    (h : ¬ Ended piece) (hnext : Piece text) (rest : Text) :
    ¬ OwnLines (bare piece :: shown) (strip (piece ++ (text ++ rest))) := by
  obtain ⟨c, line, rfl, hc, hfeed⟩ := hnext.front
  obtain ⟨l, ls, hrest⟩ := exists_lines_eq_cons (line ++ rest)
  have hbehind : lines (c :: line ++ rest) = (c :: l) :: ls := by
    rw [List.cons_append, lines, splitAt, if_neg hfeed, ← lines, hrest]
  have hlast : lines piece = [] ++ [bare piece] := lines_of_not_ended hpiece h
  have hlines := lines_append hlast hbehind
  have hbare : bare piece = piece := if_neg h
  rw [hbare] at hlines ⊢
  intro hown
  rw [OwnLines, hstrip.lines_eq, hlines] at hown
  simp only [List.nil_append, List.map_cons, List.cons_append, List.cons.injEq,
    hstrip.append hc] at hown
  rcases hown with hown | hown
  · exact hstrip.append_ne hc _ _ hown.1
  · exact hstrip.append_ne hc _ _ hown.1

/-- Pieces that are printed without codes stand on lines of their own exactly when they end their
lines, up to the last one, and hold no codes. -/
theorem ownLines_iff (hpieces : ∀ p ∈ pieces, Piece p) :
    OwnLines (pieces.map bare) (strip pieces.flatten) ↔
      (∀ p ∈ pieces.dropLast, Ended p) ∧ ∀ p ∈ pieces, strip p = p := by
  constructor
  · intro hown
    induction pieces with
    | nil => exact ⟨nofun, nofun⟩
    | cons first rest ih =>
      have hfirst := (hpieces first List.mem_cons_self).newline
      have hrest : ∀ p ∈ rest, Piece p := fun p hp => hpieces p (List.mem_cons_of_mem _ hp)
      by_cases h : Ended first
      · rw [OwnLines, List.map_cons, List.flatten_cons, hstrip.lines_eq,
          lines_append_of_ended hfirst h, List.map_cons, List.cons_append, List.cons.injEq,
          List.cons.injEq, ← hstrip.lines_eq, ← and_or_left] at hown
        obtain ⟨hbare, hown⟩ := hown
        obtain ⟨hended, hcodes⟩ := ih hrest hown
        refine ⟨(ended_of_mem_dropLast_cons h).mpr hended, ?_⟩
        exact List.forall_mem_cons.mpr ⟨(hstrip.bare_eq_iff h).mp hbare, hcodes⟩
      · cases rest with
        | nil =>
          rw [List.flatten_singleton, OwnLines, hstrip.lines_eq, lines_of_not_ended hfirst h,
            bare, if_neg h] at hown
          have hself : strip first = first := by simpa [bare, h] using hown
          simp [hself]
        | cons next more =>
          -- the next piece would begin on the line of this one
          rw [List.map_cons, List.flatten_cons, List.flatten_cons] at hown
          exact absurd hown
            (hstrip.not_ownLines_of_not_ended hfirst h (hrest next List.mem_cons_self) _)
  · rintro ⟨hended, hcodes⟩
    rw [hstrip.flatten_eq_self hpieces hcodes]
    exact ownLines_flatten (fun p hp => (hpieces p hp).newline) hended

end DropsCodes

end

end TidyImports.Text
