import Mathlib
import TidyImports.Linter.Launch
import TidyImports.Proofs.Data.Except
import TidyImports.Proofs.Session

/-!
# Which reports a linter call survives

A call of the linter is contained when it answers with diagnostics or fails as the linter. A report
is a list of records of any shape, and a record of the wrong shape fails in another way. So a call
is contained exactly when the records that the linter prints fit.

* `Marks`, `Proposes`, `FixFits`, `RecordFits`, `ReportFits` — the shapes, from a place to a report;
* `readRecords_ok_iff` — records are read exactly when each of them fits;
* `plain_readRecords` — else they never fail as the linter;
* `contained_ofLauncher_iff` — what this says of a call, whatever became of its process.
-/

namespace TidyImports

/-! ## Ways to fail -/

section

variable {α β : Type}

/-- A result, or a failure of the linter. -/
def Contained (r : Except Failure α) : Prop :=
  (∃ a, r = .ok a) ∨ ∃ fault text batches, r = .error (.linter fault text batches)

/-- No failure of the linter. -/
def Plain (r : Except Failure α) : Prop :=
  ∀ fault text batches, r ≠ .error (.linter fault text batches)

theorem Plain.contained_iff {r : Except Failure α} (h : Plain r) :
    Contained r ↔ ∃ a, r = .ok a := by
  constructor
  · rintro (hok | ⟨fault, text, batches, hr⟩)
    · exact hok
    · exact absurd hr (h fault text batches)
  · exact Or.inl

theorem plain_ok (a : α) : Plain (.ok a) := fun _ _ _ => nofun

theorem plain_invalid (what : Invalid) : Plain (.error (.invalid what) : Except Failure α) :=
  fun _ _ _ => nofun

theorem plain_misuse (how : Misuse) : Plain (.error (.misuse how) : Except Failure α) :=
  fun _ _ _ => nofun

theorem Plain.bind {r : Except Failure α} {next : α → Except Failure β} (h : Plain r)
    (k : ∀ a, Plain (next a)) : Plain (r >>= next) := by
  intro fault text batches heq
  rcases Except.bind_eq_error_iff.mp heq with hr | ⟨a, -, ha⟩
  · exact h fault text batches hr
  · exact k a fault text batches ha

end

namespace Report

/-! ## Fields -/

theorem member_eq_ok_iff {v w : Value} {key : String} :
    member v key = .ok w ↔ ∃ t, v = .table t ∧ Table.get? t key = some w := by
  unfold member
  split
  · rename_i t
    split
    · rename_i u hu
      simp [hu]
    · rename_i hnone
      simp [hnone]
  · rename_i hkind
    simp only [reduceCtorEq, false_iff, not_exists, not_and]
    intro t ht
    exact absurd ht (hkind t)

theorem field_eq_ok_iff {v w : Value} {key : String} :
    field v key = .ok w ↔ ∃ t, v = .table t ∧ (Table.get? t key).getD .null = w := by
  unfold field
  split
  · simp
  · rename_i hkind
    simp only [reduceCtorEq, false_iff, not_exists, not_and]
    intro t ht
    exact absurd ht (hkind t)

theorem plain_member (v : Value) (key : String) : Plain (member v key) := by
  unfold member
  split
  · split
    · exact plain_ok _
    · exact plain_misuse _
  · exact plain_misuse _

theorem plain_field (v : Value) (key : String) : Plain (field v key) := by
  unfold field
  split
  · exact plain_ok _
  · exact plain_misuse _

theorem plain_toInt (v : Value) : Plain (toInt v) := by
  unfold toInt
  split
  · exact plain_ok _
  · exact plain_ok _
  · exact plain_invalid _
  · split
    · exact plain_ok _
    · exact plain_misuse _
  · rename_i s
    cases Numeral.readInt s.toList with
    | ok n => exact plain_ok n
    | error fault => exact plain_invalid _
  · exact plain_misuse _

theorem plain_ofSpan {α : Type} (r : Except SpanFault α) : Plain (ofSpan r) := by
  cases r with
  | ok a => exact plain_ok a
  | error fault => exact plain_invalid _

theorem ofSpan_eq_ok_iff {α : Type} {r : Except SpanFault α} {a : α} :
    ofSpan r = .ok a ↔ r = .ok a := by
  cases r with
  | ok b => simp [ofSpan, Except.mapError]
  | error fault => simp [ofSpan, Except.mapError]

/-! ## Places -/

/-- The value gives the row and the column of the position, counted from one. -/
def Marks (v : Value) (p : Position) : Prop :=
  ∃ t row column, v = .table t ∧ Table.get? t "row" = some row ∧
    Table.get? t "column" = some column ∧ toInt row = .ok (p.line + 1 : Nat) ∧
    toInt column = .ok (p.column + 1 : Nat)

theorem ofOneBased_eq_ok_iff {row column : Int} {p : Position} :
    Position.ofOneBased row column = .ok p ↔
      row = (p.line + 1 : Nat) ∧ column = (p.column + 1 : Nat) := by
  unfold Position.ofOneBased Position.ofInts
  constructor
  · intro h
    split at h
    · cases h
    · cases h
      simp only
      omega
  · rintro ⟨rfl, rfl⟩
    rw [if_neg (by omega)]
    congr 1
    simp

theorem readPosition_eq_ok_iff {v : Value} {p : Position} :
    readPosition v = .ok p ↔ Marks v p := by
  unfold readPosition
  simp only [Except.bind_eq_ok_iff, member_eq_ok_iff, ofSpan_eq_ok_iff, ofOneBased_eq_ok_iff]
  constructor
  · rintro ⟨row, ⟨t, rfl, hrow⟩, n, hn, column, ⟨_, ⟨⟩, hcolumn⟩, m, hm, rfl, rfl⟩
    exact ⟨t, row, column, rfl, hrow, hcolumn, hn, hm⟩
  · rintro ⟨t, row, column, rfl, hrow, hcolumn, hn, hm⟩
    exact ⟨row, ⟨t, rfl, hrow⟩, _, hn, column, ⟨t, rfl, hcolumn⟩, _, hm, rfl, rfl⟩

theorem plain_readPosition (v : Value) : Plain (readPosition v) :=
  (plain_member v _).bind fun _ => (plain_toInt _).bind fun _ =>
    (plain_member v _).bind fun _ => (plain_toInt _).bind fun _ => plain_ofSpan _

/-! ## Proposals -/

/-- The value gives a place to start at and a place to stop at, not before it. -/
def Proposes (v : Value) : Prop :=
  ∃ t first last start stop, v = .table t ∧ Table.get? t "location" = some first ∧
    Table.get? t "end_location" = some last ∧ Marks first start ∧ Marks last stop ∧ start ≤ stop

theorem readProposal_ok_iff {v : Value} : (∃ p, readProposal v = .ok p) ↔ Proposes v := by
  unfold readProposal
  simp only [Except.bind_eq_ok_iff, member_eq_ok_iff, field_eq_ok_iff, ofSpan_eq_ok_iff,
    readPosition_eq_ok_iff]
  constructor
  · rintro ⟨p, first, ⟨t, rfl, hfirst⟩, start, hstart, last, ⟨_, ⟨⟩, hlast⟩, stop, hstop, range,
      hrange, -⟩
    refine ⟨t, first, last, start, stop, rfl, hfirst, hlast, hstart, hstop, ?_⟩
    unfold Range.ofPositions at hrange
    split at hrange
    · assumption
    · cases hrange
  · rintro ⟨t, first, last, start, stop, rfl, hfirst, hlast, hstart, hstop, hle⟩
    exact ⟨_, first, ⟨t, rfl, hfirst⟩, start, hstart, last, ⟨t, rfl, hlast⟩, stop, hstop, _,
      dif_pos hle, _, ⟨t, rfl, rfl⟩, rfl⟩

theorem plain_readProposal (v : Value) : Plain (readProposal v) :=
  (plain_member v _).bind fun _ => (plain_readPosition _).bind fun _ =>
    (plain_member v _).bind fun _ => (plain_readPosition _).bind fun _ =>
      (plain_ofSpan _).bind fun _ => (plain_field v _).bind fun _ => plain_ok _

theorem readProposals_ok_iff {vs : List Value} :
    (∃ ps, readProposals vs = .ok ps) ↔ ∀ v ∈ vs, Proposes v := by
  induction vs with
  | nil => simp [readProposals]
  | cons v vs ih =>
    rw [List.forall_mem_cons, ← ih, ← readProposal_ok_iff, readProposals]
    exact Except.cons_ok_iff

theorem plain_readProposals (vs : List Value) : Plain (readProposals vs) := by
  induction vs with
  | nil => exact plain_ok []
  | cons v vs ih => exact (plain_readProposal v).bind fun _ => ih.bind fun _ => plain_ok _

/-! ## Records -/

/-- The edits count as unset, or are a list of proposals. -/
def EditsFit (edits : Value) : Prop :=
  edits.truthy = false ∨ ∃ items, edits = .list items ∧ ∀ v ∈ items, Proposes v

/-- The fix counts as unset, or is a table whose edits fit. -/
def FixFits (fix : Value) : Prop :=
  fix.truthy = false ∨ ∃ t, fix = .table t ∧ EditsFit ((Table.get? t "edits").getD .null)

/-- What has items and is no list has one that is no table. -/
theorem exists_notProposes {v : Value} {items : List Value} (hitems : v.items? = some items)
    (htruthy : v.truthy = true) (hlist : ∀ vs, v ≠ .list vs) : ∃ w ∈ items, ¬ Proposes w := by
  have htext : ∀ s, ¬ Proposes (.text s) := by
    rintro s ⟨t, _, _, _, _, ⟨⟩, -⟩
  cases v with
  | text s =>
    cases hs : s.toList with
    | nil =>
      have hempty : s = "" := by rw [← String.ofList_toList (s := s), hs]
      rw [hempty] at htruthy
      cases htruthy
    | cons c cs =>
      rw [Value.items?, hs] at hitems
      cases hitems
      exact ⟨.text (String.ofList [c]), by simp, htext _⟩
  | table entries =>
    cases entries with
    | nil => cases htruthy
    | cons e rest =>
      cases hitems
      exact ⟨.text e.1, by simp, htext _⟩
  | list vs => exact absurd rfl (hlist vs)
  | _ => cases hitems

/-- Edits that do not count as unset are read as the items that they have. -/
theorem readItems_ok_iff {edits : Value} (htruthy : edits.truthy = true) :
    (∃ items ps, edits.items? = some items ∧ readProposals items = .ok ps) ↔ EditsFit edits := by
  constructor
  · rintro ⟨items, ps, hitems, hps⟩
    have hall := readProposals_ok_iff.mp ⟨ps, hps⟩
    rcases Classical.em (∃ vs, edits = .list vs) with ⟨vs, rfl⟩ | hlist
    · cases hitems
      exact Or.inr ⟨items, rfl, hall⟩
    · obtain ⟨w, hw, hnot⟩ := exists_notProposes hitems htruthy fun vs h => hlist ⟨vs, h⟩
      exact absurd (hall w hw) hnot
  · rintro (hfalse | ⟨items, rfl, hall⟩)
    · rw [htruthy] at hfalse
      cases hfalse
    · obtain ⟨ps, hps⟩ := readProposals_ok_iff.mpr hall
      exact ⟨items, ps, rfl, hps⟩

theorem readFix_ok_iff {fix : Value} : (∃ r, readFix fix = .ok r) ↔ FixFits fix := by
  unfold readFix FixFits
  cases fix.truthy with
  | false => simp
  | true =>
    simp only [Bool.not_true, Bool.false_eq_true, if_false, Except.bind_eq_ok_iff, field_eq_ok_iff,
      reduceCtorEq, false_or]
    constructor
    · rintro ⟨r, edits, ⟨t, rfl, hedits⟩, h⟩
      refine ⟨t, rfl, ?_⟩
      rw [hedits]
      cases htruthy : edits.truthy with
      | false => exact Or.inl htruthy
      | true =>
        rw [htruthy] at h
        simp only [Bool.not_true, Bool.false_eq_true, if_false] at h
        split at h
        · rename_i items hitems
          obtain ⟨ps, hps, -⟩ := Except.bind_eq_ok_iff.mp h
          exact (readItems_ok_iff htruthy).mp ⟨items, ps, hitems, hps⟩
        · cases h
    · rintro ⟨t, rfl, hfit⟩
      cases htruthy : ((Table.get? t "edits").getD .null).truthy with
      | false => exact ⟨none, _, ⟨t, rfl, rfl⟩, by rw [htruthy]; rfl⟩
      | true =>
        obtain ⟨items, ps, hitems, hps⟩ := (readItems_ok_iff htruthy).mpr hfit
        refine ⟨some ps, _, ⟨t, rfl, rfl⟩, ?_⟩
        rw [htruthy, hitems]
        simp only [Bool.not_true, Bool.false_eq_true, if_false, hps]
        rfl

theorem plain_readFix (fix : Value) : Plain (readFix fix) := by
  unfold readFix
  split
  · exact plain_ok none
  · refine (plain_field fix _).bind fun edits => ?_
    split
    · exact plain_ok none
    · split
      · exact (plain_readProposals _).bind fun _ => plain_ok _
      · exact plain_misuse _

/-- The location counts as unset, or marks a position. -/
def LocationFits (location : Value) : Prop :=
  location.truthy = false ∨ ∃ p, Marks location p

theorem readLocation_ok_iff {location : Value} :
    (∃ r, readLocation location = .ok r) ↔ LocationFits location := by
  unfold readLocation LocationFits
  cases location.truthy with
  | false => simp
  | true =>
    simp only [if_true, Except.bind_eq_ok_iff, readPosition_eq_ok_iff, reduceCtorEq, false_or]
    constructor
    · rintro ⟨r, p, hp, -⟩
      exact ⟨p, hp⟩
    · rintro ⟨p, hp⟩
      exact ⟨some p, p, hp, rfl⟩

theorem plain_readLocation (location : Value) : Plain (readLocation location) := by
  unfold readLocation
  split
  · exact (plain_readPosition location).bind fun _ => plain_ok _
  · exact plain_ok none

/-- The record is a table with a fix and a location that fit. -/
def RecordFits (v : Value) : Prop :=
  ∃ t, v = .table t ∧ FixFits ((Table.get? t "fix").getD .null) ∧
    LocationFits ((Table.get? t "location").getD .null)

theorem readRecord_ok_iff {v : Value} : (∃ d, readRecord v = .ok d) ↔ RecordFits v := by
  unfold readRecord RecordFits
  simp only [Except.bind_eq_ok_iff, field_eq_ok_iff]
  constructor
  · rintro ⟨d, _, ⟨t, rfl, rfl⟩, fix, hfix, _, ⟨_, ⟨⟩, rfl⟩, code, -, location, hlocation, -⟩
    exact ⟨t, rfl, readFix_ok_iff.mp ⟨fix, hfix⟩, readLocation_ok_iff.mp ⟨location, hlocation⟩⟩
  · rintro ⟨t, rfl, hfix, hlocation⟩
    obtain ⟨fix, hfix⟩ := readFix_ok_iff.mpr hfix
    obtain ⟨location, hlocation⟩ := readLocation_ok_iff.mpr hlocation
    exact ⟨_, _, ⟨t, rfl, rfl⟩, fix, hfix, _, ⟨t, rfl, rfl⟩, _, ⟨t, rfl, rfl⟩, location, hlocation,
      rfl⟩

theorem plain_readRecord (v : Value) : Plain (readRecord v) :=
  (plain_field v _).bind fun _ => (plain_readFix _).bind fun _ => (plain_field v _).bind fun _ =>
    (plain_field v _).bind fun _ => (plain_readLocation _).bind fun _ => plain_ok _

theorem readRecords_ok_iff {vs : List Value} :
    (∃ ds, readRecords vs = .ok ds) ↔ ∀ v ∈ vs, RecordFits v := by
  induction vs with
  | nil => simp [readRecords]
  | cons v vs ih =>
    rw [List.forall_mem_cons, ← ih, ← readRecord_ok_iff, readRecords]
    exact Except.cons_ok_iff

theorem plain_readRecords (vs : List Value) : Plain (readRecords vs) := by
  induction vs with
  | nil => exact plain_ok []
  | cons v vs ih => exact (plain_readRecord v).bind fun _ => ih.bind fun _ => plain_ok _

/-! ## Reports -/

/-- The report is blank, is no JSON at all (an integer of too many digits apart), is JSON of another
kind than a list, or is a list of records that fit. -/
def ReportFits (output : Text) : Prop :=
  Text.allBlank output = true ∨
    (∃ cause place, Json.parse output = .error (.malformed cause place)) ∨
    ∃ v, Json.parse output = .ok v ∧ ∀ records, v = .list records → ∀ r ∈ records, RecordFits r

theorem contained_parse_iff {output : Text} : Contained (parse output) ↔ ReportFits output := by
  unfold parse ReportFits
  split
  · rename_i hblank
    simp [hblank, Contained]
  · rename_i hblank
    simp only [hblank, Bool.false_eq_true, false_or]
    split
    · rename_i n hparse
      rw [(plain_invalid _).contained_iff, hparse]
      simp
    · rename_i fault hlong hparse
      cases fault with
      | tooLong n => exact absurd rfl (hlong n)
      | malformed cause place =>
        have hfail : Contained (.error (.linter (.unreadable (.malformed cause place)) [] []) :
            Except Failure (List Diagnostic)) := Or.inr ⟨_, _, _, rfl⟩
        exact iff_of_true hfail (Or.inl ⟨cause, place, hparse⟩)
    · rename_i records hparse
      rw [(plain_readRecords records).contained_iff, readRecords_ok_iff, hparse]
      simp
    · rename_i v hkind hparse
      have hfail : Contained (.error (.linter .notList [] []) : Except Failure (List Diagnostic)) :=
        Or.inr ⟨_, _, _, rfl⟩
      refine iff_of_true hfail (Or.inr ⟨v, hparse, ?_⟩)
      intro records heq
      exact absurd heq (hkind records)

end Report

/-! ## Calls -/

/-- The process was started, and a report that it printed in full fits. -/
def Outcome.Fits : Outcome → Prop
  | .missing | .timedOut => True
  | .refused .. => False
  | .finished status stdout _ => status = 0 → Report.ReportFits stdout

section

variable {σ : Type} {call : Call} {config : Config} {label seconds : String}

theorem contained_interpret_iff (hlabel : config.label = .ok label)
    (hseconds : Call.seconds call.timeout = .ok seconds) (program : String) (outcome : Outcome) :
    Contained (Call.interpret config call.timeout program outcome) ↔ outcome.Fits := by
  have hfail : ∀ fault, Contained (.error (.linter fault [] []) : Except Failure (List Diagnostic)) :=
    fun fault => Or.inr ⟨fault, [], [], rfl⟩
  cases outcome with
  | missing => exact iff_of_true (hfail _) trivial
  | refused cause path =>
    have hplain : Plain (.error (.lookup cause path) : Except Failure (List Diagnostic)) :=
      fun _ _ _ => nofun
    rw [Call.interpret, hplain.contained_iff]
    simp [Outcome.Fits]
  | timedOut =>
    rw [Call.interpret, hseconds, hlabel]
    exact iff_of_true (hfail _) trivial
  | finished status stdout stderr =>
    rw [Call.interpret, Outcome.Fits]
    split
    · rename_i hzero
      simp [hzero, Report.contained_parse_iff]
    · rename_i hstatus
      rw [hlabel]
      exact iff_of_true (hfail _) fun hzero => absurd hzero hstatus

/-- A call comes to what the outcome of its process means. -/
theorem outcome_ofLauncher (launch : Launcher σ) (text : Text) {arguments : List String}
    (hargs : call.arguments config = .ok arguments) (hlabel : config.label = .ok label)
    (s : Session σ) :
    ((Linter.ofLauncher call launch text config).outcome s).1 =
      Call.interpret config call.timeout (arguments.headD "") (launch arguments text s.world).1 := by
  unfold Linter.ofLauncher
  simp only [Run.outcome_bind, Run.outcome_ofExcept, hargs, Run.outcome_step]
  cases Call.interpret config call.timeout (arguments.headD "")
    (launch arguments text s.world).1 with
  | error f => rfl
  | ok diagnostics => simp [hlabel]

/-- **Contained calls.** A call of the linter answers with diagnostics or fails as the linter
exactly when its process was started and, where it succeeded, each record of the report fits. -/
theorem contained_ofLauncher_iff (launch : Launcher σ) (text : Text) {arguments : List String}
    (hargs : call.arguments config = .ok arguments) (hlabel : config.label = .ok label)
    (hseconds : Call.seconds call.timeout = .ok seconds) (s : Session σ) :
    ((∃ diagnostics, ((Linter.ofLauncher call launch text config).outcome s).1 = .ok diagnostics) ∨
      ∃ fault text' batches, ((Linter.ofLauncher call launch text config).outcome s).1 =
        .error (.linter fault text' batches)) ↔
      (launch arguments text s.world).1.Fits := by
  rw [outcome_ofLauncher launch text hargs hlabel s]
  exact contained_interpret_iff hlabel hseconds _ _

end

/-! ## A report that is not contained -/

/-- Prints one record whose row and column are zero. -/
def zeroLauncher : Launcher Unit := fun _ _ s =>
  (.finished 0 ("[\x7b\"code\": \"E902\", \"message\": \"m\", \"fix\": null, " ++
    "\"location\": \x7b\"row\": 0, \"column\": 0\x7d\x7d]").toList [], s)

def zeroCall : Call := ⟨["ruff"], "stdin.py", .int 30⟩

def zeroArguments : List String :=
  ["ruff", "check", "--isolated", "--no-cache", "--exit-zero", "--output-format", "json",
    "--stdin-filename", "stdin.py", "--config", "lint.select = [\"F821\"]", "-"]

theorem arguments_zeroCall : zeroCall.arguments Config.undefinedNames = .ok zeroArguments := by cbv

theorem outcome_zeroLauncher :
    ((Linter.ofLauncher zeroCall zeroLauncher "x\n".toList Config.undefinedNames).outcome
      (.start ())).1 = .error (.invalid (.span (.negative (-1) (-1)))) := by
  rw [outcome_ofLauncher zeroLauncher "x\n".toList arguments_zeroCall rfl]
  cbv

/-- A position out of bounds is no failure of the linter. -/
theorem not_contained_ofLauncher :
    ¬ ∀ (launch : Launcher Unit) (text : Text),
      Contained ((Linter.ofLauncher zeroCall launch text Config.undefinedNames).outcome
        (.start ())).1 := by
  intro h
  have hzero := h zeroLauncher "x\n".toList
  rw [outcome_zeroLauncher, (plain_invalid _).contained_iff] at hzero
  obtain ⟨_, ⟨⟩⟩ := hzero

theorem contained_ofLauncher_iff_zero :
    zeroCall.arguments Config.undefinedNames = .ok zeroArguments ∧
      Config.undefinedNames.label = .ok "undefined-names" ∧
      Call.seconds zeroCall.timeout = .ok (Binary64.ofInt 30).brief ∧
      ¬ (zeroLauncher zeroArguments "x\n".toList ()).1.Fits := by
  refine ⟨arguments_zeroCall, rfl, rfl, ?_⟩
  rw [← contained_ofLauncher_iff zeroLauncher "x\n".toList arguments_zeroCall rfl rfl (.start ()),
    outcome_zeroLauncher]
  rintro (⟨_, ⟨⟩⟩ | ⟨_, _, _, ⟨⟩⟩)

end TidyImports
