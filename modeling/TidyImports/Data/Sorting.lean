/-!
# Sorting by questions

`sort?` puts items into order by asking whether one item goes before another; a question without an
answer ends it. Where the answers agree with each other the result is the stable order. Where they
do not, as with numbers that are in no order to any other, the result hangs on the questions that
are asked, so these are fixed:

* the items are cut into runs that ascend, or strictly descend and are turned round; a short run is
  filled up item by item;
* two neighbouring runs are merged before those that a balanced tree over all items keeps together
  less closely;
* a merge takes items one by one until one side has won often enough, and then in leaps for as long
  as the leaps are long.
-/

namespace TidyImports.Sorting

variable {α : Type}

/-! ## Counting from one end -/

/-- How many of the first items pass, found by halving between `low` and `high`; of two middles the
nearer one is asked if `near`. -/
def halve (passes : α → Option Bool) (near : Bool) (items : Array α) :
    (fuel low high : Nat) → Option Nat
  | 0, low, _ => some low
  | fuel + 1, low, high =>
    if high ≤ low then some low
    else do
      let middle := if near then high - 1 - (high - low) / 2 else low + (high - low) / 2
      if ← passes (← items[middle]?) then halve passes near items fuel (middle + 1) high
      else halve passes near items fuel low middle

/-- The last of the places 0, 1, 3, 7, … whose item passes, and the next of them or the end. -/
def stride (passes : α → Option Bool) (items : Array α) :
    (fuel last next : Nat) → Option (Nat × Nat)
  | 0, last, _ => some (last, items.size)
  | fuel + 1, last, next =>
    if items.size ≤ next then some (last, items.size)
    else do
      if ← passes (← items[next]?) then stride passes items fuel next (2 * next + 1)
      else some (last, next)

/-- How many of the first items pass, found by strides and then by halving. -/
def leapOver (passes : α → Option Bool) (near : Bool) (list : List α) : Option Nat :=
  match list with
  | [] => some 0
  | x :: _ => do
    if ← passes x then
      let items := list.toArray
      let (last, next) ← stride passes items items.size 0 1
      halve passes near items items.size (last + 1) next
    else some 0

variable (less : α → α → Option Bool)

/-! ## Runs -/

/-- The items that go on with a run after its latest item, and what follows the run. -/
def follow (down : Bool) (latest : α) : List α → Option (List α × List α)
  | [] => some ([], [])
  | x :: rest => do
    if (← less x latest) = down then
      let (run, rest) ← follow down x rest
      pure (x :: run, rest)
    else pure ([], x :: rest)

/-- The run that a list begins with, in ascending order, and what follows it. -/
def firstRun : List α → Option (List α × List α)
  | [] => some ([], [])
  | [x] => some ([x], [])
  | x :: y :: rest => do
    let down ← less y x
    let (run, rest) ← follow less down y rest
    pure (if down then (x :: y :: run).reverse else x :: y :: run, rest)

/-- Puts an item behind all items of a run that it does not go before. -/
def insert (run : List α) (x : α) : Option (List α) := do
  let place ← halve (fun y => (less x y).map (!·)) false run.toArray (run.length + 1) 0 run.length
  pure (run.take place ++ x :: run.drop place)

def insertAll (run : List α) : List α → Option (List α)
  | [] => some run
  | x :: rest => do insertAll (← insert less run x) rest

/-- A count halved until it is below 64, rounded up once if a remainder was `lost` on the way. -/
def leastRun (lost : Bool) (count : Nat) : Nat :=
  if count < 64 then (if lost then count + 1 else count)
  else leastRun (lost || count % 2 == 1) (count / 2)

/-- The runs of a list, each but the last one of the least length or more. -/
def runs (least : Nat) : (fuel : Nat) → List α → Option (List (List α))
  | 0, _ | _, [] => some []
  | fuel + 1, items => do
    let (run, rest) ← firstRun less items
    let run ← insertAll less run (rest.take (least - run.length))
    pure (run :: (← runs least fuel (items.drop run.length)))

/-! ## Merging two runs -/

/-- A merge goes forward if the left run is not the longer one, and backward otherwise. -/
structure Merge (α : Type) where
  backward : Bool
  /-- What is left of the shorter run and of the other one, the nearest items first. -/
  short : List α
  long : List α
  /-- What is merged, the latest item first. -/
  done : List α
  /-- How often a side has to win in a row before leaps are tried. -/
  patience : Nat

namespace Merge

def ended (m : Merge α) : Bool := m.short.length ≤ 1 || m.long.isEmpty

def result (m : Merge α) : List α :=
  let items := m.done.reverse ++ m.long ++ m.short
  if m.backward then items.reverse else items

def takeShort (m : Merge α) (count : Nat) : Merge α :=
  { m with short := m.short.drop count, done := (m.short.take count).reverse ++ m.done }

def takeLong (m : Merge α) (count : Nat) : Merge α :=
  { m with long := m.long.drop count, done := (m.long.take count).reverse ++ m.done }

/-- Whether the item of the longer run is taken before that of the shorter one. -/
def longFirst (m : Merge α) (x y : α) : Option Bool :=
  if m.backward then less y x else less x y

/-- Takes items one by one until one side has won so often in a row that leaps pay. -/
def oneByOne : (fuel shortWins longWins : Nat) → Merge α → Option (Merge α)
  | 0, _, _, m => some m
  | fuel + 1, shortWins, longWins, m =>
    match m.short, m.long with
    | y :: _, x :: _ => do
      if ← m.longFirst less x y then
        let m := m.takeLong 1
        if m.ended || m.patience ≤ longWins + 1 then pure m
        else oneByOne fuel 0 (longWins + 1) m
      else
        let m := m.takeShort 1
        if m.ended || m.patience ≤ shortWins + 1 then pure m
        else oneByOne fuel (shortWins + 1) 0 m
    | _, _ => some m

/-- Takes what the shorter run has before the next item of the other, then that item: the length of
the leap, and the merge after it. -/
def leapShort (m : Merge α) : Option (Nat × Merge α) :=
  match m.long with
  | [] => some (0, m)
  | x :: _ => do
    let count ← leapOver (fun y => (m.longFirst less x y).map (!·)) m.backward m.short
    let m := m.takeShort count
    pure (count, if m.ended then m else m.takeLong 1)

/-- Takes what the longer run has before the next item of the other, then that item. -/
def leapLong (m : Merge α) : Option (Nat × Merge α) :=
  match m.short with
  | [] => some (0, m)
  | y :: _ => do
    let count ← leapOver (fun x => m.longFirst less x y) m.backward m.long
    let m := m.takeLong count
    pure (count, if m.ended then m else m.takeShort 1)

/-- A leap at least this long is worth another one. -/
def longLeap : Nat := 7

/-- Leaps in turns until both leaps of a turn are short; each turn makes the next leaps easier. -/
def leaps : (fuel : Nat) → Merge α → Option (Merge α)
  | 0, m => some m
  | fuel + 1, m => do
    let m := { m with patience := max 1 (m.patience - 1) }
    let (first, m) ← if m.backward then m.leapLong less else m.leapShort less
    if m.ended then pure m
    else
      let (second, m) ← if m.backward then m.leapShort less else m.leapLong less
      if m.ended then pure m
      else if longLeap ≤ first || longLeap ≤ second then leaps fuel m
      else pure { m with patience := m.patience + 1 }

def run : (fuel : Nat) → Merge α → Option (Merge α)
  | 0, m => some m
  | fuel + 1, m => do
    if m.ended then pure m
    else
      let m ← oneByOne less fuel 0 0 m
      if m.ended then pure m
      else run fuel (← leaps less fuel { m with patience := m.patience + 1 })

end Merge

/-- Two neighbouring runs as one, and the patience for the next merge. What already stands in its
place at either end stays out of the merge. -/
def mergeRuns (patience : Nat) (left right : List α) : Option (List α × Nat) :=
  match right, left.getLast? with
  | x :: _, some y => do
    let front ← leapOver (fun z => (less x z).map (!·)) false left
    let a := left.drop front
    if a.isEmpty then pure (left ++ right, patience)
    else
      let back ← leapOver (fun z => (less z y).map (!·)) true right.reverse
      let b := right.take (right.length - back)
      if b.isEmpty then pure (left ++ right, patience)
      else
        let start : Merge α :=
          if a.length ≤ b.length then ⟨false, a, b, [], patience⟩
          else ⟨true, b.reverse, a.reverse, [], patience⟩
        let m ← (start.takeLong 1).run less (a.length + b.length + 1)
        pure (left.take front ++ m.result ++ right.drop b.length, m.patience)
  | _, _ => some (left ++ right, patience)

/-! ## Merging all runs -/

/-- Runs that wait to be merged, the latest first, each with the depth in a balanced tree at which
it is parted from the next one. -/
structure Waiting (α : Type) where
  runs : List (List α × Nat)
  patience : Nat

/-- At how many halvings of `count` two places `a` and `b`, doubled, come to lie apart. -/
def depth (count : Nat) : (fuel a b : Nat) → Nat
  | 0, _, _ => 0
  | fuel + 1, a, b =>
    if count ≤ a then depth count fuel (2 * (a - count)) (2 * (b - count)) + 1
    else if count ≤ b then 1
    else depth count fuel (2 * a) (2 * b) + 1

namespace Waiting

/-- Merges the latest run into those before it that are parted at a greater depth. -/
def settle (limit : Nat) : (fuel : Nat) → Waiting α → Option (Waiting α)
  | 0, w => some w
  | fuel + 1, w =>
    match w.runs with
    | (z, d) :: (y, e) :: below =>
      if limit < e then do
        let (run, patience) ← mergeRuns less w.patience y z
        settle limit fuel ⟨(run, d) :: below, patience⟩
      else some w
    | _ => some w

/-- Adds a run of a list that has `count` items. -/
def push (count : Nat) (w : Waiting α) (run : List α) : Option (Waiting α) :=
  match w.runs with
  | [] => some { w with runs := [(run, 0)] }
  | (latest, _) :: below => do
    let start := below.foldl (fun n r => n + r.1.length) 0
    let a := 2 * start + latest.length
    let d := depth count (count + 2) a (a + latest.length + run.length)
    let w ← w.settle less d w.runs.length
    match w.runs with
    | (latest, _) :: below => some { w with runs := (run, 0) :: (latest, d) :: below }
    | [] => some { w with runs := [(run, 0)] }

def pushAll (count : Nat) (w : Waiting α) : List (List α) → Option (Waiting α)
  | [] => some w
  | run :: rest => do pushAll count (← w.push less count run) rest

/-- Merges what is left, the shorter neighbour of the middle run first. -/
def finish : (fuel : Nat) → Waiting α → Option (List α)
  | 0, _ => some []
  | fuel + 1, w =>
    match w.runs with
    | [] => some []
    | [(run, _)] => some run
    | (z, d) :: (y, e) :: below => do
      match below with
      | (x, _) :: below' =>
        if x.length < z.length then
          let (run, patience) ← mergeRuns less w.patience x y
          finish fuel ⟨(z, d) :: (run, e) :: below', patience⟩
        else
          let (run, patience) ← mergeRuns less w.patience y z
          finish fuel ⟨(run, d) :: below, patience⟩
      | [] =>
        let (run, _) ← mergeRuns less w.patience y z
        pure run

end Waiting

/-- The items in order, if every question that is asked has an answer. -/
def sort? (items : List α) : Option (List α) := do
  let parts ← runs less (leastRun false items.length) items.length items
  let waiting ← Waiting.pushAll less items.length ⟨[], Merge.longLeap⟩ parts
  waiting.finish less parts.length

end TidyImports.Sorting
