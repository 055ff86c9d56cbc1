import TidyImports.Linter.Proposal
import TidyImports.Proofs.Data.Json.Refusal
import TidyImports.Proofs.Linter.Report

/-!
# Reports of issues

An `Issue` is what a linter has to say where all that it says is of the usual kind. A record tells
of an issue when its fields hold what the issue is made of, in any order and beside any others
(`Tells`). A report of such records is read as the diagnostics of the issues if none of its numbers
is too long to be read.

* `readPosition_of_places`, `readProposal_of_replaces`, `readFix_of_fixes`, `readRecord_of_tells` —
  the parts of a record;
* `readRecords_of_tells`, `proposals_toDiagnostic` — the diagnostics of a report and their edits;
* `tells_recordValue`, `clearIff_recordValue`, `plainly_recordValue` — the record that is written
  for an issue tells of it, and can be read unless a row or column is too long;
* `parse_write_iff` — reports as they are written;
* `parse_records` — reports of records in any order and style.
-/

namespace TidyImports

/-! ## Issues -/

/-- A diagnostic of texts and edits. A fix has an edit. -/
structure Issue where
  code : Option String
  message : String
  fix : Option { batch : Batch // batch ≠ [] }
  location : Option Position

namespace Issue

def codeValue (i : Issue) : Value := i.code.elim .null .text

def fixValue (i : Issue) : Value :=
  match i.fix with
  | none => .null
  | some batch =>
    .table [("edits", .list (batch.1.map fun e => Report.proposalValue (Proposal.ofEdit e)))]

def locationValue (i : Issue) : Value := i.location.elim .null Report.positionValue

def edits (i : Issue) : Batch := i.fix.elim [] (·.1)

def toDiagnostic (i : Issue) : Diagnostic :=
  ⟨i.codeValue, .text i.message, i.fix.map fun batch => batch.1.map Proposal.ofEdit, i.location⟩

end Issue

/-- The edits of the diagnostics of issues are those of the issues, in order. -/
theorem proposals_toDiagnostic (issues : List Issue) :
    Proposal.batch? (Diagnostic.proposals (issues.map Issue.toDiagnostic)) =
      some (issues.flatMap Issue.edits) := by
  have hproposals : Diagnostic.proposals (issues.map Issue.toDiagnostic) =
      (issues.flatMap Issue.edits).map Proposal.ofEdit := by
    rw [Diagnostic.proposals, List.flatMap_map, List.map_flatMap]
    congr 1
    funext i
    rw [Issue.toDiagnostic, Issue.edits]
    cases i.fix <;> rfl
  rw [hproposals, Proposal.batch?_map_ofEdit]

namespace Report

/-! ## Records -/

/-- The value gives the row and the column of the position, counted from one, as integers. -/
def Places (v : Value) (p : Position) : Prop :=
  ∃ t, v = .table t ∧ Table.get? t "row" = some (.int (p.line + 1)) ∧
    Table.get? t "column" = some (.int (p.column + 1))

/-- The value is the text; an empty text may be unset. -/
def Inserts (v : Value) (text : Text) : Prop :=
  v = .text (String.ofList text) ∨ text = [] ∧ v = .null

/-- The value gives the range and the new text of the edit. -/
def Replaces (v : Value) (e : Edit) : Prop :=
  ∃ t first last, v = .table t ∧ Table.get? t "location" = some first ∧
    Table.get? t "end_location" = some last ∧ Places first e.range.start ∧
    Places last e.range.stop ∧ Inserts ((Table.get? t "content").getD .null) e.newText

/-- The value gives the edits of the fix, or is unset where there is no fix. -/
def Fixes (v : Value) : Option { batch : Batch // batch ≠ [] } → Prop
  | none => v = .null
  | some batch => ∃ t items, v = .table t ∧ Table.get? t "edits" = some (.list items) ∧
      List.Forall₂ Replaces items batch.1

def Locates (v : Value) : Option Position → Prop
  | none => v = .null
  | some p => Places v p

/-- The record has the fields of the issue, those that are absent being `null` or missing. -/
def Tells (v : Value) (i : Issue) : Prop :=
  ∃ t, v = .table t ∧ (Table.get? t "code").getD .null = i.codeValue ∧
    Table.get? t "message" = some (.text i.message) ∧
    Fixes ((Table.get? t "fix").getD .null) i.fix ∧
    Locates ((Table.get? t "location").getD .null) i.location

/-! ## Reading records -/

theorem readPosition_of_places {v : Value} {p : Position} (h : Places v p) :
    readPosition v = .ok p := by
  obtain ⟨t, rfl, hrow, hcolumn⟩ := h
  exact readPosition_eq_ok_iff.mpr ⟨t, _, _, rfl, hrow, hcolumn, rfl, rfl⟩

theorem readProposal_of_replaces {v : Value} {e : Edit} (h : Replaces v e) :
    readProposal v = .ok (Proposal.ofEdit e) := by
  obtain ⟨t, first, last, rfl, hfirst, hlast, hstart, hstop, hcontent⟩ := h
  have hrange : Range.ofPositions e.range.start e.range.stop = .ok e.range := dif_pos e.range.ordered
  have htext : (if ((Table.get? t "content").getD .null).truthy then
      (Table.get? t "content").getD .null else .text "") = .text (String.ofList e.newText) := by
    obtain heq | ⟨hempty, heq⟩ := hcontent
    · rw [heq]
      cases e.newText with
      | nil => rfl
      | cons c rest => exact if_pos (by simp [Value.truthy])
    · rw [heq, hempty]
      rfl
  unfold readProposal
  simp only [member, field, hfirst, hlast, bind, Except.bind, readPosition_of_places hstart,
    readPosition_of_places hstop, hrange, ofSpan, Except.mapError, htext]
  rfl

theorem readProposals_of_replaces {items : List Value} {batch : Batch}
    (h : List.Forall₂ Replaces items batch) :
    readProposals items = .ok (batch.map Proposal.ofEdit) := by
  induction h with
  | nil => rfl
  | cons hv _ ih =>
    rw [readProposals, readProposal_of_replaces hv, ih]
    rfl

theorem readFix_of_fixes {v : Value} {fix : Option { batch : Batch // batch ≠ [] }}
    (h : Fixes v fix) :
    readFix v = .ok (fix.map fun batch => batch.1.map Proposal.ofEdit) := by
  cases fix with
  | none =>
    rw [show v = .null from h]
    rfl
  | some batch =>
    obtain ⟨t, items, rfl, hedits, hitems⟩ := h
    -- without edits the fix would count as unset
    have hne : items ≠ [] := by
      rintro rfl
      exact batch.2 (List.forall₂_nil_left_iff.mp hitems)
    have htable : (Value.table t).truthy = true := by
      cases t with
      | nil => cases hedits
      | cons e rest => rfl
    have hlist : (Value.list items).truthy = true := by
      cases items with
      | nil => exact absurd rfl hne
      | cons v rest => rfl
    unfold readFix
    simp only [htable, field, hedits, Option.getD_some, bind, Except.bind, hlist, Value.items?,
      readProposals_of_replaces hitems]
    rfl

theorem readLocation_of_locates {v : Value} {location : Option Position} (h : Locates v location) :
    readLocation v = .ok location := by
  cases location with
  | none =>
    rw [show v = .null from h]
    rfl
  | some p =>
    have hread := readPosition_of_places h
    obtain ⟨t, rfl, hrow, -⟩ := h
    have htable : (Value.table t).truthy = true := by
      cases t with
      | nil => cases hrow
      | cons e rest => rfl
    rw [readLocation, if_pos htable, hread]
    rfl

theorem readRecord_of_tells {v : Value} {i : Issue} (h : Tells v i) :
    readRecord v = .ok i.toDiagnostic := by
  obtain ⟨t, rfl, hcode, hmessage, hfix, hlocation⟩ := h
  unfold readRecord
  simp only [field, bind, Except.bind, readFix_of_fixes hfix, readLocation_of_locates hlocation,
    hcode, hmessage]
  rfl

theorem readRecords_of_tells {records : List Value} {issues : List Issue}
    (h : List.Forall₂ Tells records issues) :
    readRecords records = .ok (issues.map Issue.toDiagnostic) := by
  induction h with
  | nil => rfl
  | cons hv _ ih =>
    rw [readRecords, readRecord_of_tells hv, ih]
    rfl

/-! ## Writing records -/

theorem places_positionValue (p : Position) : Places (positionValue p) p :=
  ⟨_, rfl, rfl, rfl⟩

theorem replaces_proposalValue (e : Edit) : Replaces (proposalValue (Proposal.ofEdit e)) e :=
  ⟨_, _, _, rfl, rfl, rfl, places_positionValue _, places_positionValue _, Or.inl rfl⟩

theorem recordValue_toDiagnostic (i : Issue) : recordValue i.toDiagnostic =
    .table [("code", i.codeValue), ("message", .text i.message), ("fix", i.fixValue),
      ("location", i.locationValue)] := by
  obtain ⟨code, message, fix, location⟩ := i
  have hfix : ∀ batch : { batch : Batch // batch ≠ [] },
      (batch.1.map Proposal.ofEdit).map proposalValue =
        batch.1.map fun e => proposalValue (Proposal.ofEdit e) := fun batch => List.map_map
  cases fix with
  | none => cases location <;> rfl
  | some batch =>
    cases location <;>
      simp only [recordValue, Issue.toDiagnostic, Option.map_some, hfix] <;> rfl

/-- The record that is written for an issue tells of it. -/
theorem tells_recordValue (i : Issue) : Tells (recordValue i.toDiagnostic) i := by
  rw [recordValue_toDiagnostic]
  refine ⟨_, rfl, rfl, rfl, ?_, ?_⟩
  · change Fixes i.fixValue i.fix
    rw [Issue.fixValue]
    cases i.fix with
    | none => exact rfl
    | some batch =>
      refine ⟨_, _, rfl, rfl, ?_⟩
      rw [List.forall₂_map_left_iff]
      exact List.forall₂_same.mpr fun e _ => replaces_proposalValue e
  · change Locates i.locationValue i.location
    rw [Issue.locationValue]
    cases i.location with
    | none => exact rfl
    | some p => exact places_positionValue p

/-! ## The form of written records -/

/-- Row and column can be read. -/
def Short (p : Position) : Prop :=
  Numeral.tooManyDigits (p.line + 1) = false ∧ Numeral.tooManyDigits (p.column + 1) = false

/-- Only the length of an integer can be the obstacle, and none is exactly where `P` holds. -/
def ClearIff (obstacle : Option Value.Obstacle) (P : Prop) : Prop :=
  obstacle ≠ some .moment ∧ (obstacle = none ↔ P)

theorem clearIff_none : ClearIff none True := ⟨nofun, by simp⟩

theorem ClearIff.or {o o' : Option Value.Obstacle} {P Q : Prop} (h : ClearIff o P)
    (k : ClearIff o' Q) : ClearIff (o.or o') (P ∧ Q) := by
  refine ⟨?_, ?_⟩
  · cases o with
    | none => exact k.1
    | some obstacle => exact h.1
  · rw [Option.or_eq_none_iff, h.2, k.2]

theorem clearIff_int (n : Int) :
    ClearIff (Value.int n).obstacle? (Numeral.tooManyDigits n = false) := by
  rw [Value.obstacle?]
  cases Numeral.tooManyDigits n <;> simp [ClearIff]

theorem clearIff_positionValue (p : Position) :
    ClearIff (positionValue p).obstacle? (Short p) := by
  simpa [positionValue, Value.obstacle?, Value.entriesObstacle?, Short] using
    (clearIff_int (p.line + 1)).or (clearIff_int (p.column + 1))

theorem clearIff_items {α : Type} {f : α → Value} {P : α → Prop}
    (h : ∀ a, ClearIff (f a).obstacle? (P a)) (as : List α) :
    ClearIff (Value.itemsObstacle? (as.map f)) (∀ a ∈ as, P a) := by
  induction as with
  | nil => simpa [Value.itemsObstacle?] using clearIff_none
  | cons a as ih =>
    rw [List.map_cons, Value.itemsObstacle?, List.forall_mem_cons]
    exact (h a).or ih

theorem clearIff_proposalValue (e : Edit) :
    ClearIff (proposalValue (Proposal.ofEdit e)).obstacle?
      (Short e.range.start ∧ Short e.range.stop) := by
  simpa [proposalValue, Proposal.ofEdit, Value.obstacle?, Value.entriesObstacle?] using
    (clearIff_positionValue e.range.start).or (clearIff_positionValue e.range.stop)

theorem clearIff_fixValue (i : Issue) : ClearIff i.fixValue.obstacle?
    (∀ e ∈ i.edits, Short e.range.start ∧ Short e.range.stop) := by
  rw [Issue.fixValue, Issue.edits]
  cases i.fix with
  | none => simpa [Value.obstacle?] using clearIff_none
  | some batch =>
    simpa [Value.obstacle?, Value.entriesObstacle?] using
      clearIff_items clearIff_proposalValue batch.1

theorem clearIff_locationValue (i : Issue) :
    ClearIff i.locationValue.obstacle? (∀ p ∈ i.location, Short p) := by
  rw [Issue.locationValue]
  cases i.location with
  | none => simpa [Value.obstacle?] using clearIff_none
  | some p => simpa using clearIff_positionValue p

/-- The places that the issue names can be read. -/
def ShortPlaces (i : Issue) : Prop :=
  (∀ e ∈ i.edits, Short e.range.start ∧ Short e.range.stop) ∧ ∀ p ∈ i.location, Short p

theorem clearIff_recordValue (i : Issue) :
    ClearIff (recordValue i.toDiagnostic).obstacle? (ShortPlaces i) := by
  have hcode : i.codeValue.obstacle? = none := by
    rw [Issue.codeValue]
    cases i.code <;> rfl
  rw [recordValue_toDiagnostic]
  simpa [Value.obstacle?, Value.entriesObstacle?, hcode, ShortPlaces] using
    (clearIff_fixValue i).or (clearIff_locationValue i)

/-- No key of a table twice, and no numbers but integers. -/
def Plainly (v : Value) : Prop := v.Keyed ∧ v.Whole

theorem plainly_null : Plainly .null := ⟨.null, .null⟩

theorem plainly_int (n : Int) : Plainly (.int n) := ⟨.int n, .int n⟩

theorem plainly_text (s : String) : Plainly (.text s) := ⟨.text s, .text s⟩

theorem plainly_list {items : List Value} (h : ∀ v ∈ items, Plainly v) : Plainly (.list items) :=
  ⟨.list fun v hv => (h v hv).1, .list fun v hv => (h v hv).2⟩

theorem plainly_table {entries : Table} (honce : entries.keys.Nodup)
    (h : ∀ e ∈ entries, Plainly e.2) : Plainly (.table entries) :=
  ⟨.table honce fun e he => (h e he).1, .table fun e he => (h e he).2⟩

theorem plainly_positionValue (p : Position) : Plainly (positionValue p) :=
  plainly_table (by simp [Table.keys]) (by simp [plainly_int])

theorem plainly_proposalValue (e : Edit) : Plainly (proposalValue (Proposal.ofEdit e)) :=
  plainly_table (by simp [Table.keys])
    (by simp [Proposal.ofEdit, plainly_text, plainly_positionValue])

theorem plainly_recordValue (i : Issue) : Plainly (recordValue i.toDiagnostic) := by
  have hcode : Plainly i.codeValue := by
    rw [Issue.codeValue]
    cases i.code with
    | none => exact plainly_null
    | some s => exact plainly_text s
  have hfix : Plainly i.fixValue := by
    rw [Issue.fixValue]
    cases i.fix with
    | none => exact plainly_null
    | some batch =>
      have hitems : Plainly (.list (batch.1.map fun e => proposalValue (Proposal.ofEdit e))) :=
        plainly_list (List.forall_mem_map.mpr fun e _ => plainly_proposalValue e)
      exact plainly_table (by simp [Table.keys]) (List.forall_mem_singleton.mpr hitems)
  have hlocation : Plainly i.locationValue := by
    rw [Issue.locationValue]
    cases i.location with
    | none => exact plainly_null
    | some p => exact plainly_positionValue p
  rw [recordValue_toDiagnostic]
  exact plainly_table (by simp [Table.keys]) (by simp [hcode, hfix, hlocation, plainly_text])

/-! ## Reports -/

section

variable {records : List Value} {issues : List Issue}

theorem allBlank_write (style : Json.Style) (records : List Value) (tail : Text) :
    Text.allBlank (Json.write style 0 (.list records) ++ tail) = false := by
  cases records with
  | nil => rfl
  | cons v rest => rfl

theorem parse_of_tells (htells : List.Forall₂ Tells records issues)
    (hkeyed : (Value.list records).Keyed) (hwhole : (Value.list records).Whole)
    (hclear : (Value.list records).obstacle? = none) (style : Json.Style) {tail : Text}
    (htail : ∀ c ∈ tail, Json.white c = true) :
    parse (Json.write style 0 (.list records) ++ tail) = .ok (issues.map Issue.toDiagnostic) := by
  have hread := Json.parse_write (Value.readable_of_obstacle? hkeyed hclear) hwhole style 0 htail
  rw [parse, allBlank_write, hread]
  exact readRecords_of_tells htells

theorem parse_of_digits (hkeyed : (Value.list records).Keyed)
    (hwhole : (Value.list records).Whole)
    (hdigits : (Value.list records).obstacle? = some .digits) (style : Json.Style) {tail : Text}
    (htail : ∀ c ∈ tail, Json.white c = true) :
    ∃ digits, Numeral.digitLimit < digits ∧
      parse (Json.write style 0 (.list records) ++ tail) =
        .error (.invalid (.numeral (.tooLong digits))) := by
  obtain ⟨digits, hlong, hread⟩ := Json.parse_write_tooLong hkeyed hwhole hdigits style 0 htail
  refine ⟨digits, hlong, ?_⟩
  rw [parse, allBlank_write, hread]
  rfl

end

/-- **Reports as they are written** are read back exactly when all places in them can be read. -/
theorem parse_write_iff (issues : List Issue) :
    parse (write (issues.map Issue.toDiagnostic)) = .ok (issues.map Issue.toDiagnostic) ↔
      ∀ i ∈ issues, ShortPlaces i := by
  have hrecords : (issues.map Issue.toDiagnostic).map recordValue =
      issues.map fun i => recordValue i.toDiagnostic := List.map_map
  obtain ⟨hkeyed, hwhole⟩ : Plainly (.list (issues.map fun i => recordValue i.toDiagnostic)) :=
    plainly_list (List.forall_mem_map.mpr fun i _ => plainly_recordValue i)
  have htells : List.Forall₂ Tells (issues.map fun i => recordValue i.toDiagnostic) issues :=
    List.forall₂_map_left_iff.mpr (List.forall₂_same.mpr fun i _ => tells_recordValue i)
  have htail : ∀ c ∈ ([] : Text), Json.white c = true := by simp
  obtain ⟨hdates, hclear⟩ := clearIff_items clearIff_recordValue issues
  rw [← hclear, write, hrecords, ← List.append_nil (Json.write _ _ _)]
  rw [← Value.obstacle?] at hdates ⊢
  constructor
  · intro hread
    cases hobstacle : (Value.list (issues.map fun i => recordValue i.toDiagnostic)).obstacle? with
    | none => rfl
    | some obstacle => cases obstacle with
      | moment => exact absurd hobstacle hdates
      | digits =>
        obtain ⟨digits, -, herror⟩ := parse_of_digits hkeyed hwhole hobstacle .inline htail
        rw [herror] at hread
        cases hread
  · intro hnone
    exact parse_of_tells htells hkeyed hwhole hnone .inline htail

/-- **Reports of issues.** A report whose records tell of issues and whose numbers can be read,
written in any style and with blanks behind it, is read as the diagnostics of the issues, in order
and with their edits. -/
theorem parse_records {records : List Value} {issues : List Issue}
    (htells : List.Forall₂ Tells records issues) (hkeyed : (Value.list records).Keyed)
    (hwhole : (Value.list records).Whole) (hclear : (Value.list records).obstacle? = none)
    (style : Json.Style) {tail : Text} (htail : ∀ c ∈ tail, Json.white c = true) :
    parse (Json.write style 0 (.list records) ++ tail) = .ok (issues.map Issue.toDiagnostic) ∧
      Proposal.batch? (Diagnostic.proposals (issues.map Issue.toDiagnostic)) =
        some (issues.flatMap Issue.edits) := by
  constructor
  · exact parse_of_tells htells hkeyed hwhole hclear style htail
  · exact proposals_toDiagnostic issues

/-! ### A report with unset fields, and one that is refused -/

/-- Deletes the first two characters; the text that replaces them is unset in the record. -/
def deleteTwo : Issue :=
  { code := none
    message := "m"
    fix := some ⟨[⟨⟨⟨0, 0⟩, ⟨0, 2⟩, by decide⟩, []⟩], by simp⟩
    location := some ⟨0, 0⟩ }

/-- A place on the first row. -/
def firstRow (column : Int) : Value := .table [("column", .int column), ("row", .int 1)]

def deleteTwoEdit : Value :=
  .table [("content", .null), ("end_location", firstRow 3), ("location", firstRow 1)]

def deleteTwoRecord : Value :=
  .table [("filename", .text "f.py"), ("message", .text "m"),
    ("fix", .table [("edits", .list [deleteTwoEdit])]), ("location", firstRow 1)]

theorem tells_deleteTwoRecord : Tells deleteTwoRecord deleteTwo := by
  have hfirst : Places (firstRow 1) ⟨0, 0⟩ := ⟨_, rfl, rfl, rfl⟩
  have hlast : Places (firstRow 3) ⟨0, 2⟩ := ⟨_, rfl, rfl, rfl⟩
  refine ⟨_, rfl, rfl, rfl, ⟨_, _, rfl, rfl, ?_⟩, hfirst⟩
  exact .cons ⟨_, _, _, rfl, rfl, rfl, hfirst, hlast, Or.inr ⟨rfl, rfl⟩⟩ .nil

theorem parse_records_unset :
    List.Forall₂ Tells [deleteTwoRecord] [deleteTwo] ∧ (Value.list [deleteTwoRecord]).Keyed ∧
      (Value.list [deleteTwoRecord]).Whole ∧
      (Value.list [deleteTwoRecord]).obstacle? = none ∧
      (∀ c ∈ ['\n'], Json.white c = true) ∧
      parse (Json.write .inline 0 (.list [deleteTwoRecord]) ++ ['\n']) =
        .ok [deleteTwo.toDiagnostic] := by
  have htells : List.Forall₂ Tells [deleteTwoRecord] [deleteTwo] :=
    .cons tells_deleteTwoRecord .nil
  have hplace : ∀ column, Plainly (firstRow column) := fun _ =>
    plainly_table (by simp [Table.keys]) (by simp [plainly_int])
  have hedit : Plainly deleteTwoEdit :=
    plainly_table (by simp [Table.keys]) (by simp [plainly_null, hplace])
  have hfix : Plainly (.table [("edits", .list [deleteTwoEdit])]) :=
    plainly_table (by simp [Table.keys])
      (List.forall_mem_singleton.mpr (plainly_list (List.forall_mem_singleton.mpr hedit)))
  have hrecord : Plainly deleteTwoRecord :=
    plainly_table (by simp [Table.keys]) (by simp [plainly_text, hplace, hfix])
  obtain ⟨hkeyed, hwhole⟩ : Plainly (.list [deleteTwoRecord]) :=
    plainly_list (List.forall_mem_singleton.mpr hrecord)
  have hclear : (Value.list [deleteTwoRecord]).obstacle? = none := by
    have hone := Numeral.tooManyDigits_of_lt_ten (n := 1) (by decide)
    have hthree := Numeral.tooManyDigits_of_lt_ten (n := 3) (by decide)
    simp [deleteTwoRecord, deleteTwoEdit, firstRow, Value.obstacle?, Value.itemsObstacle?,
      Value.entriesObstacle?, hone, hthree]
  have htail : ∀ c ∈ ['\n'], Json.white c = true := List.forall_mem_singleton.mpr rfl
  exact ⟨htells, hkeyed, hwhole, hclear, htail,
    (parse_records htells hkeyed hwhole hclear .inline htail).1⟩

/-- An issue at the beginning of a line. -/
def atLine (line : Nat) : Issue :=
  { code := none, message := "m", fix := none, location := some ⟨line, 0⟩ }

theorem parse_write_atLine {line : Nat} (h : Numeral.tooManyDigits (line + 1) = true) :
    parse (write [(atLine line).toDiagnostic]) ≠ .ok [(atLine line).toDiagnostic] := by
  intro hread
  have hshort := (parse_write_iff [atLine line]).mp hread (atLine line) (by simp)
  have hrow := (hshort.2 ⟨line, 0⟩ rfl).1
  rw [h] at hrow
  cases hrow

/-- The row has one digit more than may be read. -/
theorem parse_write_refused :
    parse (write [(atLine (Numeral.unwritable - 1)).toDiagnostic]) ≠
      .ok [(atLine (Numeral.unwritable - 1)).toDiagnostic] := by
  have hpos : 0 < Numeral.unwritable := by
    rw [Numeral.unwritable_eq]
    exact Nat.pow_pos (by decide)
  -- said of any number, since the one here is too long to be computed with
  have hrow : ∀ n : Nat, 0 < n → ((n - 1 : Nat) : Int) + 1 = n := fun n hn => by omega
  refine parse_write_atLine ?_
  rw [hrow _ hpos]
  exact Numeral.tooManyDigits_unwritable

end Report
end TidyImports
