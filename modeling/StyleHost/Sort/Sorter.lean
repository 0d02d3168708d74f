import StyleHost.Collation.Comparator
import StyleHost.Sort.Gaps
import StyleHost.Sort.Key
import StyleHost.Sort.Permutation

/-!
# Sorting a selection

A selection is sorted by a list of keys. The first key is evaluated for every item at once; a
deeper key only when some pair of items ties on all keys before it, and then for the whole
selection. Items that tie on every key keep their input order.

* `KeyLevel` : the keys of all items under one specification, with their comparison.
* `Progress` : the levels evaluated so far and the specifications still pending.
* `Sorter.sort` : the sorted selection, with a record of evaluations and notices.

With fewer than two items, no keys, too many keys, or when there is no room for the keys of a level
or for the arrangement, the selection stays as it was. So it does if the collation data break down
over a language.
-/

namespace StyleHost

/-- The value of an expression for an item at a position of a selection of some size, or the
engine's error. -/
abbrev Evaluator (X I : Type) := X → I → (position size : Nat) → Except EngineError Value

/-- The place of an item in a selection. -/
structure SortEvent.Place where
  /-- Counted from one. -/
  position : Nat
  /-- The size of the selection. -/
  size : Nat
deriving DecidableEq

/-- An occurrence during a sort. -/
inductive SortEvent (X : Type) where
  /-- The evaluator was called for the item at a place. -/
  | evaluated (select : X) (place : SortEvent.Place)
  | note (notice : Notice)

/-- What a sort needs room for. -/
inductive Sorter.Storage where
  /-- The keys of a level, counted from zero. -/
  | keys (level : Nat)
  /-- The arrangement of the items. -/
  | order
deriving DecidableEq

/-- What a sort compares by. -/
structure Sorter where
  collations : Collations
  /-- The language of text keys that name none. -/
  defaultLocale : Option String := none
  /-- Whether there is room for something. -/
  hasRoom : Sorter.Storage → Bool := fun _ => true

/-- The keys of all items under one specification. -/
structure KeyLevel (n : Nat) where
  keys : Vector (Option SortKey) n
  order : SortOrder
  /-- How texts compare. -/
  collate : String → String → Ordering

/-- The order of two items at one level. -/
def KeyLevel.compare {n : Nat} (level : KeyLevel n) (a b : Fin n) : Ordering :=
  SortKey.compare level.collate level.order (level.keys.get a) (level.keys.get b)

/-- How far the evaluation of keys has come. -/
structure Progress (X : Type) (n : Nat) where
  /-- The levels evaluated so far, the first key first. -/
  levels : List (KeyLevel n)
  /-- The specifications of the levels not yet evaluated. -/
  pending : List (SortSpec X)
  events : List (SortEvent X)

namespace Sorter

variable {X I : Type} {n : Nat}

/-- Why a sort ends before its time. -/
inductive Stop where
  /-- There is no room for the keys of a level, or for the arrangement. -/
  | noRoom
  /-- The collation data broke down. -/
  | breakdown (cause : Panic)

/-- A step of a sort, which may end it. -/
abbrev SortM (X : Type) (n : Nat) := ExceptT Stop (StateM (Progress X n))

/-- The key of the item at index `i` under a specification. -/
def keyAt (evaluate : Evaluator X I) (items : Vector I n) (spec : SortSpec X) (i : Fin n) :
    Option SortKey :=
  SortKey.ofResult (evaluate spec.select (items.get i) (i + 1) n) spec.dataType

/-- The notice of an evaluation that failed. -/
def failureNotice (position : Nat) : Except EngineError Value → List Notice
  | .ok _ => []
  | .error e => [.keyFailed position e]

/-- What the evaluation of the key at index `i` leaves in the record. -/
def eventsAt (evaluate : Evaluator X I) (items : Vector I n) (spec : SortSpec X) (i : Fin n) :
    List (SortEvent X) :=
  .evaluated spec.select ⟨i + 1, n⟩ ::
    (failureNotice (i + 1) (evaluate spec.select (items.get i) (i + 1) n)).map .note

/-- How the texts of a level compare, with the notices of building the comparison; only a level of
texts needs one. -/
def collation (s : Sorter) (spec : SortSpec X) :
    Except Panic (String → String → Ordering) × List Notice :=
  match spec.dataType with
  | .text =>
    let (comparator, notices) :=
      Comparator.create s.collations (spec.lang.or s.defaultLocale) spec.caseOrder
    (comparator.map Comparator.compare, notices)
  | .number => (.ok fun _ _ => .eq, [])

/-- Evaluates the level of a specification, after which the specifications `rest` are pending. -/
def evaluateLevel (s : Sorter) (evaluate : Evaluator X I) (items : Vector I n)
    (spec : SortSpec X) (rest : List (SortSpec X)) : SortM X n (KeyLevel n) := do
  let p ← get
  if s.hasRoom (.keys p.levels.length) then
    let (collate, notices) := s.collation spec
    let events := p.events ++ (List.finRange n).flatMap (eventsAt evaluate items spec) ++
      notices.map .note
    match collate with
    | .error cause =>
      set { p with events := events }
      throw (.breakdown cause)
    | .ok collate =>
      let level : KeyLevel n := ⟨Vector.ofFn (keyAt evaluate items spec), spec.order, collate⟩
      set (Progress.mk (p.levels ++ [level]) rest events)
      return level
  else throw .noRoom

/-- The order of two items by the levels evaluated so far. -/
def compareLevels (levels : List (KeyLevel n)) (a b : Fin n) : Ordering :=
  match levels with
  | [] => .eq
  | level :: rest =>
    match level.compare a b with
    | .eq => compareLevels rest a b
    | o => o

/-- Breaks a tie of all levels evaluated so far: evaluates pending levels until one decides; after
the last the input order does. -/
def breakTie (s : Sorter) (evaluate : Evaluator X I) (items : Vector I n) (a b : Fin n) :
    List (SortSpec X) → SortM X n Ordering
  | [] => return Ord.compare a b
  | spec :: rest => do
    let level ← s.evaluateLevel evaluate items spec rest
    match level.compare a b with
    | .eq => breakTie s evaluate items a b rest
    | o => return o

/-- The order of two items by all keys, and by input order last. -/
def compareItems (s : Sorter) (evaluate : Evaluator X I) (items : Vector I n) (a b : Fin n) :
    SortM X n Ordering := do
  let p ← get
  match compareLevels p.levels a b with
  | .eq => s.breakTie evaluate items a b p.pending
  | o => return o

/-- The arrangement that sorts the items by the key `spec` and then by the keys `rest`. The first
level is evaluated before there is any arrangement. -/
def arrange (s : Sorter) (evaluate : Evaluator X I) (items : Vector I n) (spec : SortSpec X)
    (rest : List (SortSpec X)) : SortM X n (Vector (Fin n) n) := do
  discard (s.evaluateLevel evaluate items spec rest)
  if s.hasRoom .order then Gaps.sort (s.compareItems evaluate items) else throw .noRoom

/-- A selection after a sort, and what happened during the sort. -/
structure Sorted (X I : Type) where
  items : Array I
  events : List (SortEvent X)
  /-- Why the sort broke down, if it did. -/
  breakdown : Option Panic := none

/-- Sorts a selection by a list of keys. -/
def sort (s : Sorter) (evaluate : Evaluator X I) (items : Array I) (specs : List (SortSpec X)) :
    Sorted X I :=
  match specs with
  | [] => { items, events := [] }
  | spec :: rest =>
    if items.size < 2 then { items, events := [] }
    else if SortSpec.maxKeys ≤ specs.length then
      { items, events := [.note (.tooManyKeys specs.length)] }
    else
      match (s.arrange evaluate items.toVector spec rest).run.run ⟨[], specs, []⟩ with
      | (.ok order, p) =>
        { items := (Permutation.rearrange items.toVector order).toArray
          events := p.events ++ [.note (.sorted items.size p.levels.length specs.length)] }
      | (.error .noRoom, p) =>
        { items, events := p.events ++ [.note (.sortAbandoned items.size)] }
      | (.error (.breakdown cause), p) => { items, events := p.events, breakdown := some cause }

end Sorter

end StyleHost
