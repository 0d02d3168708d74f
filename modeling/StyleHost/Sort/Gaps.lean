/-!
# Insertion sort with shrinking gaps

Sorts an arrangement of `n` positions by passes of insertion sort over ever closer neighbours: the
gap is half the length at first and is halved after each pass, down to one. The comparison is an
action of any monad, which may keep a state or give up.

* `Gaps.sink` : moves one entry down past greater ones, a gap at a time.
* `Gaps.pass` : sinks every entry of the arrangement once.
* `Gaps.sort` : passes for all gaps.
-/

namespace StyleHost

namespace Gaps

variable {n : Nat} {m : Type → Type} [Monad m]

/-- Moves the entry in slot `j` down, as long as the entry one gap below it is greater. -/
def sink (compare : Fin n → Fin n → m Ordering) (gap : Nat) (hgap : 0 < gap) (j : Nat)
    (hj : j < n) (order : Vector (Fin n) n) : m (Vector (Fin n) n) :=
  if h : gap ≤ j then do
    if (← compare order[j - gap] order[j]) = .gt then
      sink compare gap hgap (j - gap) (by omega) (order.swap (j - gap) j)
    else
      pure order
  else
    pure order
termination_by j

/-- Sinks the entries from slot `i` on. -/
def pass (compare : Fin n → Fin n → m Ordering) (gap : Nat) (hgap : 0 < gap) (i : Nat)
    (order : Vector (Fin n) n) : m (Vector (Fin n) n) :=
  if h : i < n then do
    pass compare gap hgap (i + 1) (← sink compare gap hgap i h order)
  else
    pure order
termination_by n - i

/-- Passes with the gaps `gap`, `gap / 2`, … down to one. -/
def passes (compare : Fin n → Fin n → m Ordering) (gap : Nat) (order : Vector (Fin n) n) :
    m (Vector (Fin n) n) :=
  if h : 0 < gap then do
    passes compare (gap / 2) (← pass compare gap h gap order)
  else
    pure order
termination_by gap

/-- The arrangement in which every position is in its own slot. -/
def identity (n : Nat) : Vector (Fin n) n := Vector.ofFn id

/-- The positions below `n` arranged in ascending order. -/
def sort (compare : Fin n → Fin n → m Ordering) : m (Vector (Fin n) n) :=
  passes compare (n / 2) (identity n)

end Gaps

end StyleHost
