/-!
# Rearranging in place

`rearrange items source` puts into slot `k` the item that was in slot `source[k]`. It works in
place: it follows each cycle of the permutation, swapping the displaced item along, and marks a
slot as settled by letting it name itself as its own source.

* `Permutation.unsettled` : the number of slots that are not settled; every swap lowers it, so the
  walk ends whether or not `source` is a permutation.
* `Permutation.walk` : the walk over all cycles; it stops at a slot that names no source.
* `Permutation.rearrange` : the walk where all slots name one.
* `Permutation.rearrange?` : the walk by a list of numbers, which need not be slots.
-/

namespace StyleHost

namespace Permutation

variable {α ε : Type} {n : Nat}

/-- For each slot its source, or the fault of naming none. -/
abbrev Sources (ε : Type) (n : Nat) := Vector (Except ε (Fin n)) n

/-- Whether a slot names itself as its source. -/
def isSettled (source : Sources ε n) (k : Fin n) : Bool :=
  match source.get k with
  | .ok i => i == k
  | .error _ => false

/-- The number of slots that do not name themselves as their source. -/
def unsettled (source : Sources ε n) : Nat :=
  (List.finRange n).countP fun k => !isSettled source k

theorem countP_lt {p q : Fin n → Bool} {l : List (Fin n)} {k : Fin n} (hk : k ∈ l)
    (hle : ∀ x, p x = true → q x = true) (hp : p k = false) (hq : q k = true) :
    l.countP p < l.countP q := by
  induction l with
  | nil => simp at hk
  | cons a l ih =>
    have hmono : l.countP p ≤ l.countP q :=
      List.countP_mono_left fun x _ hx => hle x hx
    rcases List.mem_cons.mp hk with rfl | h
    · simp [hp, hq]
      omega
    · have := ih h
      cases hpa : p a
      · cases hqa : q a <;> simp [hpa, hqa] <;> omega
      · simp [hpa, hle a hpa]
        omega

theorem get_eq_getElem {β : Type} (v : Vector β n) (k : Fin n) : v.get k = v[k.val] := rfl

theorem get_set_self (source : Sources ε n) (k : Fin n) (x : Except ε (Fin n)) :
    (source.set k x).get k = x := by
  simp [get_eq_getElem]

theorem get_set_of_ne (source : Sources ε n) {k j : Fin n} (x : Except ε (Fin n)) (h : j ≠ k) :
    (source.set k x).get j = source.get j := by
  have : (k : Nat) ≠ j := fun e => h (Fin.ext e.symm)
  simp [get_eq_getElem, this]

/-- Settling a slot that was not settled leaves one slot fewer. -/
theorem unsettled_set_lt {source : Sources ε n} {k : Fin n} (h : isSettled source k = false) :
    unsettled (source.set k (.ok k)) < unsettled source := by
  refine countP_lt (List.mem_finRange k) (fun x hx => ?_) ?_ (by simp [h])
  · by_cases hxk : x = k
    · subst hxk
      simp [h]
    · rwa [isSettled, get_set_of_ne source _ hxk] at hx
  · simp [isSettled, get_set_self]

/-- Follows the cycle that began at `start` from `slot` on. -/
def follow (start slot : Fin n) (items : Vector α n) (source : Sources ε n) :
    Except ε (Vector α n × Sources ε n) :=
  match hs : source.get slot with
  | .error e => .error e
  | .ok next =>
    if h : next = start ∨ next = slot then .ok (items, source.set slot (.ok slot))
    else follow start next (items.swap slot next) (source.set slot (.ok slot))
termination_by unsettled source
decreasing_by
  exact unsettled_set_lt (by simpa [isSettled, hs] using fun e => h (.inr e))

/-- The items after the walk over all cycles, each begun at its first slot. -/
def walk (items : Vector α n) (source : Sources ε n) : Except ε (Vector α n) :=
  ((List.finRange n).foldlM (fun state start => follow start start state.1 state.2)
    (items, source)).map (·.1)

/-- The items rearranged so that slot `k` holds the item that was in slot `source[k]`. -/
def rearrange (items : Vector α n) (source : Vector (Fin n) n) : Vector α n :=
  match walk items (source.map (Except.ok (ε := Empty))) with
  | .ok rearranged => rearranged

/-- A number that should be below `size` and is not. -/
structure OutOfBounds where
  size : Nat
  index : Nat
deriving DecidableEq

/-- The wording of the failure. -/
def OutOfBounds.message (e : OutOfBounds) : String :=
  "index out of bounds: the len is " ++ toString e.size ++ " but the index is " ++
    toString e.index

/-- The slot that a list of numbers names for slot `k`. -/
def slotOf (size : Nat) (source : Array Nat) (k : Fin size) : Except OutOfBounds (Fin size) :=
  match source[k.val]? with
  | none => .error ⟨source.size, k.val⟩
  | some i => if h : i < size then .ok ⟨i, h⟩ else .error ⟨size, i⟩

/-- The items rearranged by the first numbers of a list, one for each item; the first number that
the walk meets and that names no slot is the fault. -/
def rearrange? (items : Array α) (source : Array Nat) : Except OutOfBounds (Array α) :=
  (walk items.toVector (Vector.ofFn (slotOf items.size source))).map (·.toArray)

end Permutation

end StyleHost
