import TidyImports.Proofs.Command.Turns

/-!
# Runs with and without writing

With `--check` or `--diff` a run of `format` shows what it would do to files and leaves them alone.
Under a linter that looks at nothing but the text it is handed, such a run finds for every input
what the same run finds that does write, as long as the system lets it.

* `World.refusal?`, `Fate.delivered` — files that the system does not open for writing;
* `Command.Turns.done` — the files after a run;
* `Command.Turns.agree` — the turns of both runs.
-/

namespace TidyImports

variable {ρ : Type}

/-! ## Linters on their own -/

namespace Command

/-- The linter answers from its own state, the call and the text that it is handed, and touches
nothing but its own state. -/
def Isolated (launch : Launcher (World ρ)) : Prop :=
  ∃ step : List String → Text → ρ → Outcome × ρ, ∀ arguments text w,
    launch arguments text w =
      ((step arguments text w.linter).1, { w with linter := (step arguments text w.linter).2 })

variable {launch : Launcher (World ρ)}

theorem formatText_frame (h : Isolated launch) (settings : Settings) (o : FormatOptions)
    (text : Text) (name : PathName) (s : Session (World ρ)) :
    ∃ l, ((formatText launch settings o text name).outcome s).2.world =
      { s.world with linter := l } := by
  obtain ⟨step, hstep⟩ := h
  let R : World ρ → World ρ → Prop := fun w w' => w = w' ∧ ∃ l, w = { s.world with linter := l }
  have hlaunch : ∀ arguments text w w', R w w' →
      (launch arguments text w).1 = (launch arguments text w').1 ∧
        R (launch arguments text w).2 (launch arguments text w').2 := by
    rintro arguments text w _ ⟨rfl, l, rfl⟩
    refine ⟨rfl, rfl, ?_⟩
    rw [hstep]
    exact ⟨_, rfl⟩
  exact (formatText_agrees hlaunch settings o text name s s ⟨rfl, _, rfl⟩).2.2

theorem formatText_linter (h : Isolated launch) (settings : Settings) (o : FormatOptions)
    (text : Text) (name : PathName) {s t : Session (World ρ)}
    (hlinter : t.world.linter = s.world.linter) :
    ((formatText launch settings o text name).outcome t).1 =
        ((formatText launch settings o text name).outcome s).1 ∧
      ((formatText launch settings o text name).outcome t).2.world.linter =
        ((formatText launch settings o text name).outcome s).2.world.linter := by
  obtain ⟨step, hstep⟩ := h
  let R : World ρ → World ρ → Prop := fun w w' => w.linter = w'.linter
  have hlaunch : ∀ arguments text w w', R w w' →
      (launch arguments text w).1 = (launch arguments text w').1 ∧
        R (launch arguments text w).2 (launch arguments text w').2 := by
    intro arguments text w w' hr
    have hsame : w.linter = w'.linter := hr
    rw [hstep, hstep, hsame]
    exact ⟨rfl, rfl⟩
  exact formatText_agrees hlaunch settings o text name t s hlinter

/-! ## One input -/

theorem fateOf_frame (h : Isolated launch) (settings : Settings) (o : FormatOptions)
    (name : PathName) (r : Except Failure (Text × Text.Ending)) (s : Session (World ρ)) :
    ∃ l, (fateOf launch settings o name r s).2.world = { s.world with linter := l } := by
  cases r with
  | error failure => exact ⟨s.world.linter, rfl⟩
  | ok found =>
    simp only [fateOf]
    exact formatText_frame h settings o found.1 name s

theorem fateOf_linter (h : Isolated launch) (settings : Settings) (o : FormatOptions)
    (name : PathName) (r : Except Failure (Text × Text.Ending)) {s t : Session (World ρ)}
    (hlinter : t.world.linter = s.world.linter) :
    (fateOf launch settings o name r t).1 = (fateOf launch settings o name r s).1 ∧
      (fateOf launch settings o name r t).2.world.linter =
        (fateOf launch settings o name r s).2.world.linter := by
  cases r with
  | error failure => exact ⟨rfl, hlinter⟩
  | ok found =>
    obtain ⟨hsame, hafter⟩ := formatText_linter h settings o found.1 name hlinter
    simp only [fateOf, hsame, hafter, and_self]

variable {settings : Settings} {o : FormatOptions}

theorem Reaches.files (h : Isolated launch) {path : String} {s t : Session (World ρ)} {fate : Fate}
    (hreach : Reaches launch settings o path s fate t) : SameFiles s.world t.world := by
  obtain ⟨name, r, u, -, hread, hfate⟩ := hreach
  have hfiles : SameFiles s.world u.world := by
    rw [outcome_readInput] at hread
    split at hread <;> cases hread <;> exact ⟨rfl, rfl⟩
  obtain ⟨l, hworld⟩ := fateOf_frame h settings o name r u
  rw [hfate] at hworld
  simp only at hworld
  rw [hworld]
  exact hfiles.trans ⟨rfl, rfl⟩

/-- The sessions have the same linter, guard and standard input, and their disks differ at most in
files that are not among the inputs still to come. -/
structure Alike (paths : List String) (s t : Session (World ρ)) : Prop where
  linter : t.world.linter = s.world.linter
  input : t.world.input = s.world.input
  guard : t.world.guard = s.world.guard
  shape : Disk.SameShape s.world.disk t.world.disk
  node : ∀ place ∈ inputPlaces s.world.disk paths,
    t.world.disk.node? place = s.world.disk.node? place

theorem Alike.refl (paths : List String) (s : Session (World ρ)) : Alike paths s s :=
  ⟨rfl, rfl, rfl, .refl _, fun _ _ => rfl⟩

section

variable {path : String} {rest : List String} {s s' : Session (World ρ)}
  (halike : Alike (path :: rest) s s') (hfile : path ≠ stdinPath → LeadsToFile s.world.disk path)

include halike hfile

theorem Alike.readInput_eq {name : PathName} (hname : o.inputName s.world.disk path = .ok name) :
    ∃ r u u', outcome (readInput path name) s = (.ok r, u) ∧
      outcome (readInput path name) s' = (.ok r, u') ∧
      u'.world.linter = u.world.linter ∧ u'.world.input = u.world.input := by
  rw [outcome_readInput, outcome_readInput]
  split
  · rw [halike.input]
    exact ⟨_, _, _, rfl, rfl, halike.linter, rfl⟩
  · rename_i hpath
    obtain ⟨name', bytes, hname', hat⟩ := hfile hpath
    rw [FormatOptions.inputName, if_neg hpath] at hname
    cases hname.symm.trans hname'
    have hplace : name.parts ∈ inputPlaces s.world.disk (path :: rest) :=
      mem_inputPlaces List.mem_cons_self hpath hname
    have hat' := hat.sameShape halike.shape (halike.node _ hplace)
    rw [halike.guard]
    cases hreading : (s.world.guard name.parts).reading with
    | none =>
      rw [hat.readSource_eq hreading, hat'.readSource_eq hreading]
      exact ⟨_, _, _, rfl, rfl, halike.linter, halike.input⟩
    | some refusal =>
      rw [hat.readSource_refused hreading, hat'.readSource_refused hreading]
      exact ⟨_, _, _, rfl, rfl, halike.linter, halike.input⟩

/-- An input comes to the same in both sessions. -/
theorem Alike.reaches (h : Isolated launch) {fate fate' : Fate} {t t' : Session (World ρ)}
    (hreach : Reaches launch settings o path s fate t)
    (hreach' : Reaches launch settings o path s' fate' t') :
    fate' = fate ∧ t'.world.linter = t.world.linter ∧ t'.world.input = t.world.input := by
  obtain ⟨name, r, u, hname, hread, hfate⟩ := hreach
  obtain ⟨name', r', u', hname', hread', hfate'⟩ := hreach'
  have hsame : o.inputName s'.world.disk path = o.inputName s.world.disk path := by
    unfold FormatOptions.inputName
    rw [halike.shape.resolve_eq]
  cases hname'.symm.trans (hsame.trans hname)
  obtain ⟨r₀, u₀, u₀', hread₀, hread₀', hlinter, hinput⟩ := halike.readInput_eq hfile hname
  cases hread.symm.trans hread₀
  cases hread'.symm.trans hread₀'
  obtain ⟨heq, hafter⟩ := fateOf_linter h settings o name r hlinter
  obtain ⟨l, hworld⟩ := fateOf_frame h settings o name r u
  obtain ⟨l', hworld'⟩ := fateOf_frame h settings o name r u'
  rw [hfate, hfate'] at heq hafter
  rw [hfate] at hworld
  rw [hfate'] at hworld'
  refine ⟨heq, hafter, ?_⟩
  simp only at hworld hworld'
  rw [hworld, hworld']
  exact hinput

end

end Command

/-! ## Refused writes -/

/-- The failure of writing the file of an input that the system does not open for it. -/
def World.refusal? (w : World ρ) (path : String) : Option Failure :=
  if path = stdinPath then none
  else
    match w.disk.resolve (.ofString path) with
    | .ok name => (w.guard name.parts).writing.map fun refusal =>
        .source (.write name.toString (.refused refusal name.toString))
    | .error _ => none

theorem World.refusal?_eq {w : World ρ} {path : String} {name : PathName} (hpath : path ≠ stdinPath)
    (hname : w.disk.resolve (.ofString path) = .ok name) :
    w.refusal? path = (w.guard name.parts).writing.map fun refusal =>
      .source (.write name.toString (.refused refusal name.toString)) := by
  rw [refusal?, if_neg hpath, hname]

theorem World.refusal?_congr {w w' : World ρ} (hshape : Disk.SameShape w.disk w'.disk)
    (hguard : w'.guard = w.guard) (path : String) : w'.refusal? path = w.refusal? path := by
  rw [refusal?, refusal?, hshape.resolve_eq, hguard]

namespace Fate

/-- What becomes of an input whose text would be changed, if writing fails so. -/
def delivered (writes : Bool) (refusal : Option Failure) (fate : Fate) : Fate :=
  match refusal with
  | none => fate
  | some failure => if writes && fate.changed then .failed failure else fate

variable {writes : Bool} {refusal : Option Failure} {fate : Fate}

theorem delivered_of_not (h : (writes && fate.changed) = false) :
    fate.delivered writes refusal = fate := by
  cases refusal with
  | none => rfl
  | some failure => rw [delivered, h, if_neg Bool.false_ne_true]

theorem changed_delivered :
    (fate.delivered true refusal).changed = (fate.changed && refusal.isNone) := by
  cases refusal with
  | none => exact (Bool.and_true _).symm
  | some failure =>
    cases hchanged : fate.changed with
    | false => rw [delivered_of_not (by rw [hchanged]; rfl), hchanged]; rfl
    | true => rw [delivered, hchanged]; rfl

theorem delivered_delivered :
    (fate.delivered writes refusal).delivered true refusal = fate.delivered true refusal := by
  cases refusal with
  | none => rfl
  | some failure =>
    cases hchanged : writes && fate.changed with
    | false => rw [delivered_of_not hchanged]
    | true =>
      have hfailed : fate.delivered writes (some failure) = .failed failure := if_pos hchanged
      have hfailed' : fate.delivered true (some failure) = .failed failure :=
        if_pos (Bool.and_eq_true_iff.mp hchanged).2
      rw [hfailed, hfailed', delivered_of_not (Bool.and_false _)]

end Fate

/-! ## Its file -/

/-- What a turn does to the disk: a file that was written is overwritten, and nothing else
differs. -/
structure Turn.Done (turn : Turn) (d d' : Disk) : Prop where
  input : turn.path = stdinPath → d' = d
  file : ∀ name bytes, turn.path ≠ stdinPath → d.resolve (.ofString turn.path) = .ok name →
    d.FileAt name bytes → Disk.Overwritten name.parts (turn.written.getD bytes) d d'

/-- The turn of one input in a run that does not write and in one that does, where writing fails
so. -/
structure Turn.Matches (refusal : Option Failure) (turn turn' : Turn) : Prop where
  path : turn'.path = turn.path
  fate : turn'.fate = turn.fate.delivered true refusal
  written : turn.path ≠ stdinPath → turn'.written.isSome = (turn.fate.changed && refusal.isNone)

theorem Turn.done_self {turn : Turn} (h : turn.written = none) (d : Disk) : turn.Done d d := by
  refine ⟨fun _ => rfl, fun name bytes _ _ hat => ?_⟩
  rw [h]
  exact Disk.overwritten_self hat.node

section

variable {turn : Turn} {d d' : Disk} (h : turn.Done d d')
  (hfile : turn.path ≠ stdinPath → Command.LeadsToFile d turn.path)

include h hfile

theorem Turn.Done.shape : Disk.SameShape d d' := by
  by_cases hpath : turn.path = stdinPath
  · rw [h.input hpath]
    exact .refl d
  · obtain ⟨name, bytes, hname, hat⟩ := hfile hpath
    exact (h.file name bytes hpath hname hat).sameShape hat.node

theorem Turn.Done.frame {place : Place} (hplace : place ∉ Command.inputPlaces d [turn.path]) :
    d'.node? place = d.node? place := by
  by_cases hpath : turn.path = stdinPath
  · rw [h.input hpath]
  · obtain ⟨name, bytes, hname, hat⟩ := hfile hpath
    refine (h.file name bytes hpath hname hat).node_of_ne ?_
    rintro rfl
    exact hplace (Command.mem_inputPlaces List.mem_cons_self hpath hname)

end

namespace Command

variable {launch : Launcher (World ρ)} {settings : Settings} {o : FormatOptions}

theorem rewrites_eq {path : String} (hpath : path ≠ stdinPath) (before after : Text) :
    o.rewrites path before after = (o.writes && before != after) := by
  rw [FormatOptions.rewrites, bne_iff_ne.mpr hpath, Bool.and_true]

/-- Once it was reached, writing the file of an input fails as `World.refusal?` says, or else
overwrites what has stood there before. -/
theorem Reaches.writeSource_eq (h : Isolated launch) {path : String} {s t : Session (World ρ)}
    {fate : Fate} (hreach : Reaches launch settings o path s fate t) (hpath : path ≠ stdinPath)
    (hfile : LeadsToFile s.world.disk path) {name : PathName}
    (hname : t.world.disk.resolve (.ofString path) = .ok name) (text : Text)
    (ending : Text.Ending) :
    ∃ bytes, s.world.disk.resolve (.ofString path) = .ok name ∧ s.world.disk.FileAt name bytes ∧
      writeSource t.world.disk name text ending t.world.guard =
        match s.world.refusal? path with
        | some failure => .error failure
        | none =>
          .ok (s.world.disk.put name.parts (.file (Utf8.encode (Text.breakWith ending text)))) := by
  obtain ⟨hdisk, hguard⟩ := hreach.files h
  obtain ⟨name', bytes, hname', hat⟩ := hfile
  rw [hdisk] at hname
  cases hname.symm.trans hname'
  refine ⟨bytes, hname, hat, ?_⟩
  rw [hdisk, hguard, World.refusal?_eq hpath hname]
  cases hwriting : (s.world.guard name.parts).writing with
  | none => exact hat.writeSource_eq hwriting text ending
  | some refusal => exact hat.writeSource_refused hwriting text ending

/-- What the turn of an input that is there comes to: its file, that it is written exactly where the
options say so and the text has changed, and its fate. -/
structure Effect (launch : Launcher (World ρ)) (settings : Settings) (o : FormatOptions)
    (path : String) (s : Session (World ρ)) (turn : Turn) (u : Session (World ρ)) : Prop where
  done : turn.Done s.world.disk u.world.disk
  guard : u.world.guard = s.world.guard
  written : path ≠ stdinPath → turn.written.isSome = (o.writes && turn.fate.changed)
  fate : ∃ fate t, Reaches launch settings o path s fate t ∧
    turn.fate = fate.delivered o.writes (s.world.refusal? path) ∧
    u.world.linter = t.world.linter ∧ u.world.input = t.world.input

theorem Takes.effect (h : Isolated launch) {path : String} {s u : Session (World ρ)} {turn : Turn}
    (hfile : path ≠ stdinPath → LeadsToFile s.world.disk path)
    (hturn : Takes launch settings o path s turn u) : Effect launch settings o path s turn u := by
  cases hturn with
  | @failed failure t _ hreach hkept =>
    have hfiles := (hreach.files h).trans hkept.files
    have hfate : (o.writes && (Fate.failed failure).changed) = false := Bool.and_false _
    refine ⟨hfiles.disk ▸ Turn.done_self rfl _, hfiles.guard, fun _ => hfate.symm, ?_⟩
    exact ⟨_, t, hreach, (Fate.delivered_of_not hfate).symm, hkept.linter, hkept.input⟩
  | @kept before after ending t _ hreach hunwritten hkept =>
    have hfiles := (hreach.files h).trans hkept.files
    refine ⟨hfiles.disk ▸ Turn.done_self rfl _, hfiles.guard, fun hpath => ?_, _, t, hreach, ?_,
      hkept.linter, hkept.input⟩
    · rw [rewrites_eq hpath] at hunwritten
      exact hunwritten.symm
    · by_cases hpath : path = stdinPath
      · rw [World.refusal?, if_pos hpath]
        rfl
      · rw [rewrites_eq hpath] at hunwritten
        exact (Fate.delivered_of_not hunwritten).symm
  | @written before after ending t _ name disk hreach hrewrites hname hwrite hkept =>
    have hpath : path ≠ stdinPath := (FormatOptions.rewrites_iff.mp hrewrites).2.1
    obtain ⟨bytes, hname, hat, hsource⟩ :=
      hreach.writeSource_eq h hpath (hfile hpath) hname after ending
    have hguard := hkept.files.guard.trans (hreach.files h).guard
    rw [rewrites_eq hpath] at hrewrites
    rw [hsource] at hwrite
    cases hrefusal : s.world.refusal? path with
    | some failure =>
      rw [hrefusal] at hwrite
      cases hwrite
    | none =>
      rw [hrefusal] at hwrite
      cases hwrite
      refine ⟨⟨fun hp => absurd hp hpath, ?_⟩, hguard, fun _ => hrewrites.symm, _, t, hreach, ?_,
        hkept.linter, hkept.input⟩
      · intro name' bytes' _ hname' hat'
        cases hname.symm.trans hname'
        rw [hkept.disk]
        exact Disk.overwritten_put (Disk.ne_nil_of_file hat.node) _
      · rw [hrefusal]
        rfl
  | @unwritten before after ending failure t _ name hreach hrewrites hname hwrite hkept =>
    have hpath : path ≠ stdinPath := (FormatOptions.rewrites_iff.mp hrewrites).2.1
    obtain ⟨bytes, hname, hat, hsource⟩ :=
      hreach.writeSource_eq h hpath (hfile hpath) hname after ending
    have hfiles := (hreach.files h).trans hkept.files
    rw [rewrites_eq hpath] at hrewrites
    rw [hsource] at hwrite
    cases hrefusal : s.world.refusal? path with
    | none =>
      rw [hrefusal] at hwrite
      cases hwrite
    | some failure =>
      rw [hrefusal] at hwrite
      cases hwrite
      refine ⟨hfiles.disk ▸ Turn.done_self rfl _, hfiles.guard, fun _ => ?_, _, t, hreach, ?_,
        hkept.linter, hkept.input⟩
      · exact (Bool.and_false _).symm
      · rw [hrefusal]
        exact (if_pos hrewrites).symm

/-! ## Separate inputs -/

/-- The inputs name files that are there, and no file twice. -/
structure Separate (d : Disk) (paths : List String) : Prop where
  files : ∀ path ∈ paths, path ≠ stdinPath → LeadsToFile d path
  nodup : (inputPlaces d paths).Nodup

theorem inputPlaces_cons (d : Disk) (path : String) (rest : List String) :
    inputPlaces d (path :: rest) = inputPlaces d [path] ++ inputPlaces d rest :=
  inputPlaces_append d [path] rest

section

variable {d d' : Disk} {path : String} {rest : List String} (h : Separate d (path :: rest))

include h

theorem Separate.first : path ≠ stdinPath → LeadsToFile d path :=
  h.files path List.mem_cons_self

theorem Separate.notMem {place : Place} (hplace : place ∈ inputPlaces d rest) :
    place ∉ inputPlaces d [path] := by
  have hnodup := h.nodup
  rw [inputPlaces_cons, List.nodup_append] at hnodup
  exact fun hfirst => hnodup.2.2 _ hfirst _ hplace rfl

theorem Separate.next (hshape : Disk.SameShape d d') : Separate d' rest := by
  refine ⟨fun path' hmem hpath => ?_, ?_⟩
  · exact (h.files path' (List.mem_cons_of_mem path hmem) hpath).sameShape hshape
  · have hnodup := h.nodup
    rw [inputPlaces_cons, List.nodup_append] at hnodup
    rw [inputPlaces_eq hshape]
    exact hnodup.2.1

end

/-! ## All inputs -/

/-- What turns do to the disk: every file that was written holds these bytes, and nothing else
differs. -/
structure TurnsDone (turns : List Turn) (d d' : Disk) : Prop where
  shape : Disk.SameShape d d'
  frame : ∀ place, place ∉ inputPlaces d (turns.map (·.path)) → d'.node? place = d.node? place
  file : ∀ turn ∈ turns, turn.path ≠ stdinPath → ∀ name bytes,
    d.resolve (.ofString turn.path) = .ok name → d.FileAt name bytes →
    d'.node? name.parts = some (.file (turn.written.getD bytes))

theorem TurnsDone.cons {turn : Turn} {turns : List Turn} {d d₁ d' : Disk}
    (hseparate : Separate d (turn.path :: turns.map (·.path))) (h : turn.Done d d₁)
    (hrest : TurnsDone turns d₁ d') : TurnsDone (turn :: turns) d d' := by
  have hshape := h.shape hseparate.first
  have hplaces : inputPlaces d₁ (turns.map (·.path)) = inputPlaces d (turns.map (·.path)) :=
    inputPlaces_eq hshape _
  refine ⟨hshape.trans hrest.shape, ?_, ?_⟩
  · intro place hplace
    rw [List.map_cons, inputPlaces_cons, List.mem_append, not_or] at hplace
    rw [hrest.frame place (hplaces ▸ hplace.2), h.frame hseparate.first hplace.1]
  · intro turn' hmem hpath name bytes hname hat
    rcases List.mem_cons.mp hmem with rfl | hmem
    · have hplace : name.parts ∉ inputPlaces d₁ (turns.map (·.path)) := by
        rw [hplaces]
        intro hlater
        exact hseparate.notMem hlater (mem_inputPlaces List.mem_cons_self hpath hname)
      rw [hrest.frame _ hplace, (h.file name bytes hpath hname hat).node, if_pos rfl]
    · have hplace : name.parts ∉ inputPlaces d [turn.path] :=
        hseparate.notMem (mem_inputPlaces (List.mem_map_of_mem hmem) hpath hname)
      refine hrest.file turn' hmem hpath name bytes ?_ ?_
      · rw [hshape.resolve_eq, hname]
      · exact hat.sameShape hshape (h.frame hseparate.first hplace)

/-- **Files after turns.** If the inputs are different files, each ends with what its own turn
wrote. -/
theorem Turns.done (h : Isolated launch) {s u : Session (World ρ)} {turns : List Turn}
    (hturns : Turns launch settings o s turns u)
    (hseparate : Separate s.world.disk (turns.map (·.path))) :
    TurnsDone turns s.world.disk u.world.disk := by
  induction hturns with
  | nil s => exact ⟨.refl _, fun _ _ => rfl, fun _ hmem => nomatch hmem⟩
  | @cons turn turns report s t u hturn hstep hrest ih =>
    have hdone := (hturn.effect h hseparate.first).done
    exact TurnsDone.cons hseparate hdone (ih (hseparate.next (hdone.shape hseparate.first)))

/-! ## Both runs -/

/-- After the turns of one input the sessions are alike for the others. -/
theorem Alike.next {rest : List String} {turn turn' : Turn} {s s' t t' : Session (World ρ)}
    (halike : Alike (turn.path :: rest) s s') (hpath : turn'.path = turn.path)
    (hseparate : Separate s.world.disk (turn.path :: rest))
    (hdone : turn.Done s.world.disk t.world.disk) (hdone' : turn'.Done s'.world.disk t'.world.disk)
    (hlinter : t'.world.linter = t.world.linter) (hinput : t'.world.input = t.world.input)
    (hguard : t'.world.guard = t.world.guard) : Alike rest t t' := by
  have hfile' : turn'.path ≠ stdinPath → LeadsToFile s'.world.disk turn'.path := by
    rw [hpath]
    exact fun hne => (hseparate.first hne).sameShape halike.shape
  have hshape := hdone.shape hseparate.first
  refine ⟨hlinter, hinput, hguard, ?_, fun place hplace => ?_⟩
  · exact hshape.symm.trans (halike.shape.trans (hdone'.shape hfile'))
  · rw [inputPlaces_eq hshape] at hplace
    have hother : place ∉ inputPlaces s.world.disk [turn.path] := hseparate.notMem hplace
    have hother' : place ∉ inputPlaces s'.world.disk [turn'.path] := by
      rwa [hpath, inputPlaces_eq halike.shape]
    rw [hdone.frame hseparate.first hother, hdone'.frame hfile' hother']
    refine halike.node place ?_
    rw [inputPlaces_cons]
    exact List.mem_append_right _ hplace

/-- **Runs with and without writing.** If the inputs are different files, a run that writes finds
for each of them what the run finds that does not, and rewrites those files whose text this one
finds changed; where the system refuses that, it fails. -/
theorem Turns.agree (h : Isolated launch) {s u s' u' : Session (World ρ)}
    {turns turns' : List Turn} (hturns : Turns launch settings o s turns u)
    (hturns' : Turns launch settings o.plain s' turns' u')
    (hpaths : turns'.map (·.path) = turns.map (·.path))
    (halike : Alike (turns.map (·.path)) s s')
    (hseparate : Separate s.world.disk (turns.map (·.path))) :
    List.Forall₂ (fun turn turn' => Turn.Matches (s.world.refusal? turn.path) turn turn')
      turns turns' := by
  -- Both runs go through the same inputs; the sessions stay alike for those still to come, since a
  -- file that one run has written is no input any more.
  induction hturns generalizing s' turns' with
  | nil s =>
    rw [List.map_nil, List.map_eq_nil_iff] at hpaths
    rw [hpaths]
    exact .nil
  | @cons turn turns report s t u hturn hstep hrest ih =>
    cases hturns' with
    | nil => cases hpaths
    | @cons turn' turns' report' _ t' _ hturn' hstep' hrest' =>
      rw [List.map_cons, List.map_cons, List.cons.injEq] at hpaths
      obtain ⟨hpath, hpaths⟩ := hpaths
      rw [hpath] at hturn'
      have hfile := hseparate.first
      have hfile' : turn.path ≠ stdinPath → LeadsToFile s'.world.disk turn.path :=
        fun hne => (hfile hne).sameShape halike.shape
      obtain ⟨hdone, hguard, -, fate, v, hreach, hfate, hlinter, hinput⟩ := hturn.effect h hfile
      obtain ⟨hdone', hguard', hwritten, fate', v', hreach', hfate', hlinter', hinput'⟩ :=
        hturn'.effect h hfile'
      obtain ⟨rfl, hsame, hleft⟩ := halike.reaches hfile h hreach hreach'
      have hnext : Alike (turns.map (·.path)) t t' := by
        refine halike.next hpath hseparate hdone hdone' ?_ ?_ ?_
        · rw [hlinter', hlinter, hsame]
        · rw [hinput', hinput, hleft]
        · rw [hguard', hguard, halike.guard]
      have hmatches : turn'.fate = turn.fate.delivered true (s.world.refusal? turn.path) := by
        rw [hfate', hfate, World.refusal?_congr halike.shape halike.guard, Fate.delivered_delivered]
        rfl
      refine .cons ⟨hpath, hmatches, fun hne => ?_⟩ ?_
      · rw [hwritten hne, hmatches, Fate.changed_delivered]
        rfl
      · have hrefusals := World.refusal?_congr (hdone.shape hfile) hguard
        refine (ih hrest' hpaths hnext (hseparate.next (hdone.shape hfile))).imp ?_
        exact fun turn _ hmatch => hrefusals turn.path ▸ hmatch

end Command
end TidyImports
