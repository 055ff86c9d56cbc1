import TidyImports.Text.LineBreak

/-!
# Line endings unified and put back

* `breaks` — the line breaks of a text, one after the other;
* `unifyBreaks_breakWith`, `endingOf_breakWith` — a text without carriage returns comes back from
  whichever ending it was written with, and a line feed or a pair is recognised as the ending;
* `breakWith_unifyBreaks_iff` — putting one ending back gives the text as it was exactly when all
  its breaks have that ending;
* `breakWith_endingOf_iff` — the same of the ending that was read off the text.
-/

namespace TidyImports.Text

/-! ## The breaks of a text -/

/-- The line breaks in order; a carriage return and its line feed are one. -/
def breaks : Text → List Ending
  | [] => []
  | '\r' :: '\n' :: rest => .crlf :: breaks rest
  | c :: rest =>
    if c = '\r' then .cr :: breaks rest
    else if c = '\n' then .lf :: breaks rest
    else breaks rest

section

variable {rest : Text} {c : Char}

theorem unifyBreaks_cr (h : ∀ later, rest ≠ '\n' :: later) :
    unifyBreaks ('\r' :: rest) = '\n' :: unifyBreaks rest := by
  rw [unifyBreaks.eq_def]
  split
  · contradiction
  · rename_i later heq
    cases heq
    exact absurd rfl (h later)
  · rename_i heq
    cases heq
    rfl

theorem unifyBreaks_plain (hcr : c ≠ '\r') : unifyBreaks (c :: rest) = c :: unifyBreaks rest := by
  rw [unifyBreaks.eq_def]
  simp [hcr]

theorem breakWith_break (ending : Ending) :
    breakWith ending ('\n' :: rest) = ending.text ++ breakWith ending rest := rfl

theorem breakWith_plain (ending : Ending) (h : c ≠ '\n') :
    breakWith ending (c :: rest) = c :: breakWith ending rest := by
  simp [breakWith, replaceChar, h]

end

theorem lineFeed_notMem_breakWith_cr (text : Text) : '\n' ∉ breakWith .cr text := by
  induction text with
  | nil => simp [breakWith, replaceChar]
  | cons c rest ih =>
    by_cases hc : c = '\n'
    · subst hc
      simp [breakWith_break, Ending.text, ih]
    · simp [breakWith_plain .cr hc, ih, Ne.symm hc]

theorem breakWith_cr_ne (text later : Text) : breakWith .cr text ≠ '\n' :: later := by
  intro h
  exact lineFeed_notMem_breakWith_cr text (by simp [h])

/-! ## Written and read -/

theorem unifyBreaks_breakWith {text : Text} (h : '\r' ∉ text) (ending : Ending) :
    unifyBreaks (breakWith ending text) = text := by
  induction text with
  | nil => rfl
  | cons c rest ih =>
    rw [List.mem_cons, not_or] at h
    have hrest := ih h.2
    by_cases hc : c = '\n'
    · subst hc
      rw [breakWith_break]
      cases ending with
      | lf => exact congrArg ('\n' :: ·) hrest
      | crlf => exact congrArg ('\n' :: ·) hrest
      | cr =>
        rw [Ending.text, List.singleton_append, unifyBreaks_cr (breakWith_cr_ne rest), hrest]
    · rw [breakWith_plain ending hc, unifyBreaks_plain (Ne.symm h.1), hrest]

theorem endingOf_plain {c : Char} {rest : Text} (hcr : c ≠ '\r') (hlf : c ≠ '\n') :
    endingOf (c :: rest) = endingOf rest := by
  rw [endingOf.eq_def]
  simp [hcr, hlf]

theorem endingOf_cr {rest : Text} (h : ∀ later, rest ≠ '\n' :: later) :
    endingOf ('\r' :: rest) = endingOf rest := by
  rw [endingOf.eq_def]
  split
  · contradiction
  · rename_i later heq
    cases heq
    exact absurd rfl (h later)
  · rename_i heq
    cases heq
    rfl

/-- A text without breaks tells nothing of its ending. -/
theorem endingOf_breakWith {text : Text} (h : '\r' ∉ text) {ending : Ending} (he : ending ≠ .cr) :
    endingOf (breakWith ending text) = if '\n' ∈ text then ending else .lf := by
  induction text with
  | nil => rfl
  | cons c rest ih =>
    rw [List.mem_cons, not_or] at h
    by_cases hc : c = '\n'
    · subst hc
      rw [breakWith_break, if_pos List.mem_cons_self]
      cases ending with
      | lf => rfl
      | crlf => rfl
      | cr => exact absurd rfl he
    · rw [breakWith_plain ending hc, endingOf_plain (Ne.symm h.1) hc, ih h.2]
      simp [Ne.symm hc]

/-! ## Read and written -/

/-- Each break is compared with the one ending in its place. -/
theorem breakWith_unifyBreaks_iff (ending : Ending) (text : Text) :
    breakWith ending (unifyBreaks text) = text ↔ ∀ b ∈ breaks text, b = ending := by
  fun_induction breaks text with
  | case1 => simp [unifyBreaks, breakWith, replaceChar]
  | case2 rest ih =>
    rw [unifyBreaks, breakWith_break, List.forall_mem_cons, ← ih]
    cases ending with
    | crlf => simp [Ending.text]
    | lf => simp [Ending.text]
    | cr => simpa [Ending.text] using breakWith_cr_ne _ _
  | case3 rest hpair ih =>
    have hlone : ∀ later, rest ≠ '\n' :: later := fun later => hpair later rfl
    rw [unifyBreaks_cr hlone, breakWith_break, List.forall_mem_cons, ← ih]
    cases ending with
    | crlf => simpa [Ending.text] using fun h => hlone _ h.symm
    | lf => simp [Ending.text]
    | cr => simp [Ending.text]
  | case4 rest hpair hcr ih =>
    rw [unifyBreaks_plain hcr, breakWith_break, List.forall_mem_cons, ← ih]
    cases ending with
    | crlf => simp [Ending.text]
    | lf => simp [Ending.text]
    | cr => simp [Ending.text]
  | case5 c rest hpair hcr hlf ih =>
    rw [unifyBreaks_plain hcr, breakWith_plain ending hlf, List.cons_inj_right, ih]

/-- A lone carriage return is not looked at. -/
theorem endingOf_eq (text : Text) :
    endingOf text = ((breaks text).find? (· ≠ .cr)).getD .lf := by
  fun_induction breaks text with
  | case1 => rfl
  | case2 rest ih => rfl
  | case3 rest hpair ih =>
    rw [endingOf_cr fun later => hpair later rfl, ih]
    rfl
  | case4 rest hpair hcr ih => rfl
  | case5 c rest hpair hcr hlf ih => rw [endingOf_plain hcr hlf, ih]

theorem endingOf_ne_cr (text : Text) : endingOf text ≠ .cr := by
  rw [endingOf_eq]
  cases hfound : (breaks text).find? (· ≠ .cr) with
  | none => simp
  | some b => simpa using List.find?_some hfound

/-- The ending that was read off the text gives it back exactly when all its breaks are line feeds
or all are pairs. -/
theorem breakWith_endingOf_iff (text : Text) :
    breakWith (endingOf text) (unifyBreaks text) = text ↔
      ∃ ending, ending ≠ .cr ∧ ∀ b ∈ breaks text, b = ending := by
  rw [breakWith_unifyBreaks_iff]
  constructor
  · intro h
    exact ⟨endingOf text, endingOf_ne_cr text, h⟩
  · rintro ⟨ending, hending, h⟩ b hb
    -- the first break is no lone carriage return, so it is the one that counts
    obtain ⟨first, rest, hbreaks⟩ := List.exists_cons_of_ne_nil (List.ne_nil_of_mem hb)
    have hfirst : first = ending := h first (by simp [hbreaks])
    have hfound : endingOf text = ending := by
      rw [endingOf_eq, hbreaks, hfirst, List.find?_cons_of_pos (by simpa using hending)]
      rfl
    rw [h b hb, hfound]

end TidyImports.Text
