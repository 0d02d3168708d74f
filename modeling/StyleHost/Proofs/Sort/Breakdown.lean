import Mathlib.Tactic.SplitIfs
import StyleHost.Proofs.Sort.Gaps
import StyleHost.Sort.Sorter

/-!
# How a sort breaks down

A sort has nothing of its own that could break down. If it does, then the collation data have broken
down over the language of one of its keys: the language that the key names, or the one that is meant
where a key names none.

* `Sorter.BreaksOver` : the data break down over the language of a key.
* `Sorter.breaksOver_of_sort` : nothing else makes a sort break down.
-/

namespace StyleHost

namespace Sorter

variable {X I : Type} {n : Nat} {s : Sorter} {evaluate : Evaluator X I} {items : Vector I n}
  {spec : SortSpec X} {specs rest : List (SortSpec X)} {cause : Panic}

/-- The collation data break down over the language of a key. -/
structure BreaksOver (s : Sorter) (spec : SortSpec X) (cause : Panic) : Prop where
  compares_texts : spec.dataType = .text
  breaks : ∃ tag, Comparator.tagOf (Comparator.trimmedLocale (spec.lang.or s.defaultLocale)) =
    .ok tag ∧ s.collations tag spec.caseOrder = .error cause

theorem breaksOver_of_collation (h : (s.collation spec).1 = .error cause) :
    s.BreaksOver spec cause := by
  rw [collation] at h
  cases htype : spec.dataType with
  | number =>
    rw [htype] at h
    cases h
  | text =>
    rw [htype] at h
    refine ⟨htype, ?_⟩
    dsimp only at h
    rw [Comparator.create] at h
    cases htag : Comparator.tagOf (Comparator.trimmedLocale (spec.lang.or s.defaultLocale)) with
    | error e =>
      rw [htag] at h
      cases h
    | ok tag =>
      rw [htag] at h
      refine ⟨tag, rfl, ?_⟩
      dsimp only at h
      cases hdata : s.collations tag spec.caseOrder with
      | error found =>
        rw [hdata] at h
        cases h
        rfl
      | ok collate? =>
        rw [hdata] at h
        cases collate? <;> cases h

/-! ### Where a sort can stop -/

/-- A stop is a breakdown only over one of the keys. -/
def StopsOver (s : Sorter) (specs : List (SortSpec X)) (stop : Stop) : Prop :=
  ∀ cause, stop = .breakdown cause → ∃ spec ∈ specs, s.BreaksOver spec cause

theorem evaluateLevel_stops {p : Progress X n} (hspec : spec ∈ specs) (hrest : rest ⊆ specs) :
    Ends (s.evaluateLevel evaluate items spec rest) (fun _ p' => p'.pending ⊆ specs)
      (fun stop _ => s.StopsOver specs stop) p := by
  have hcollation : ∀ cause, (s.collation spec).1 = .error cause →
      s.StopsOver specs (.breakdown cause) := by
    rintro cause hcause _ ⟨⟩
    exact ⟨spec, hspec, breaksOver_of_collation hcause⟩
  rw [evaluateLevel, Ends.bind_iff, Ends.get_iff]
  split
  · cases hbuilt : s.collation spec with
    | mk collate notices =>
      rw [hbuilt] at hcollation
      cases collate with
      | error cause => exact hcollation cause rfl
      | ok collate => exact hrest
  · exact nofun

theorem breakTie_stops {pending : List (SortSpec X)} (a b : Fin n) {p : Progress X n}
    (hp : p.pending ⊆ specs) (hpending : pending ⊆ specs) :
    Ends (s.breakTie evaluate items a b pending) (fun _ p' => p'.pending ⊆ specs)
      (fun stop _ => s.StopsOver specs stop) p := by
  induction pending generalizing p with
  | nil => exact Ends.pure_iff.2 hp
  | cons spec rest ih =>
    rw [List.cons_subset] at hpending
    rw [breakTie]
    refine Ends.bind_iff.2 ((evaluateLevel_stops hpending.1 hpending.2).mono fun level p' hp' => ?_)
    split
    · exact ih hp' hpending.2
    · exact Ends.pure_iff.2 hp'

theorem compareItems_stops {a b : Fin n} {p : Progress X n} (hp : p.pending ⊆ specs) :
    Ends (s.compareItems evaluate items a b) (fun _ p' => p'.pending ⊆ specs)
      (fun stop _ => s.StopsOver specs stop) p := by
  rw [compareItems, Ends.bind_iff, Ends.get_iff]
  split
  · exact breakTie_stops a b hp hp
  · exact Ends.pure_iff.2 hp

/-- What the comparison promises about how it stops. Nothing is said of the order of entries. -/
def stopping (s : Sorter) (evaluate : Evaluator X I) (items : Vector I n)
    (specs : List (SortSpec X)) : Gaps.Contract (s.compareItems evaluate items) where
  inv p := p.pending ⊆ specs
  mayPrecede _ _ _ := True
  stop stop _ := s.StopsOver specs stop
  compare_ends _ hp := (compareItems_stops hp).mono fun _ _ hp' =>
    ⟨hp', fun _ _ _ => trivial, by split <;> trivial⟩

variable (s evaluate items spec rest) in
/-- If an arrangement comes about, it is one of all positions. -/
theorem arrange_stops (p : Progress X n) :
    Ends (s.arrange evaluate items spec rest) (fun order _ => Gaps.IsPermutation order)
      (fun stop _ => s.StopsOver (spec :: rest) stop) p := by
  have hlevel : Ends (s.evaluateLevel evaluate items spec rest)
      (fun _ p' => p'.pending ⊆ spec :: rest) (fun stop _ => s.StopsOver (spec :: rest) stop) p :=
    evaluateLevel_stops List.mem_cons_self (List.subset_cons_self spec rest)
  have hdiscard : Ends (discard (s.evaluateLevel evaluate items spec rest))
      (fun _ p' => p'.pending ⊆ spec :: rest) (fun stop _ => s.StopsOver (spec :: rest) stop) p :=
    Ends.bind_iff.2 (hlevel.mono fun _ _ hp => Ends.pure_iff.2 hp)
  rw [arrange]
  refine Ends.bind_iff.2 (hdiscard.mono fun _ p' hp => ?_)
  split
  · exact (Gaps.sort_ends (stopping s evaluate items (spec :: rest)) hp).mono fun _ _ h => h.2.1
  · exact nofun

/-- **How a sort breaks down**: over the language of one of its keys. -/
theorem breaksOver_of_sort {items : Array I}
    (h : (s.sort evaluate items specs).breakdown = some cause) :
    ∃ spec ∈ specs, s.BreaksOver spec cause := by
  cases specs with
  | nil => cases h
  | cons spec rest =>
    have hstops := arrange_stops s evaluate items.toVector spec rest ⟨[], spec :: rest, []⟩
    rw [Ends] at hstops
    rw [sort] at h
    split_ifs at h
    split at h
    · cases h
    · cases h
    · rename_i found _ hrun
      rw [hrun] at hstops
      cases h
      exact hstops _ rfl

end Sorter

end StyleHost
