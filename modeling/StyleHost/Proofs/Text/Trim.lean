import Mathlib.Data.List.TakeWhile
import StyleHost.Text.Space

/-!
# What trimming leaves

Trimming leaves out characters of the class at both ends, and nothing else. What is left neither
starts nor ends with one.

* `Text.exists_append_trimList` : what is left out.
* `Text.trimList_append` : what is left.
-/

namespace StyleHost

namespace Text

variable {p : Char → Bool} {before core after : List Char}

/-- Trimming a text leaves out nothing but characters of the class. -/
theorem exists_append_trimList (p : Char → Bool) (cs : List Char) :
    ∃ before after, cs = before ++ (trimList p cs ++ after) ∧ (∀ c ∈ before, p c = true) ∧
      ∀ c ∈ after, p c = true := by
  refine ⟨cs.takeWhile p, ((cs.dropWhile p).reverse.takeWhile p).reverse, ?_,
    fun c hc => List.mem_takeWhile_imp hc, fun c hc => ?_⟩
  · rw [trimList, ← List.reverse_append, List.takeWhile_append_dropWhile, List.reverse_reverse,
      List.takeWhile_append_dropWhile]
  · exact List.mem_takeWhile_imp (List.mem_reverse.1 hc)

/-- A text in blanks is what is left of them. -/
theorem trimList_append (hbefore : ∀ c ∈ before, p c = true) (hafter : ∀ c ∈ after, p c = true)
    (hhead : ∀ c ∈ core.head?, p c = false) (hlast : ∀ c ∈ core.getLast?, p c = false) :
    trimList p (before ++ (core ++ after)) = core := by
  have hdrop {cs ds : List Char} (hcs : ∀ c ∈ cs, p c = true) (hds : ∀ c ∈ ds.head?, p c = false) :
      (cs ++ ds).dropWhile p = ds := by
    rw [List.dropWhile_append_of_pos hcs]
    cases ds with
    | nil => rfl
    | cons d ds => exact List.dropWhile_cons_of_neg (by simp [hds d rfl])
  rcases List.eq_nil_or_concat core with rfl | ⟨start, last, rfl⟩
  · have hall : ∀ c ∈ before ++ after, p c = true := by
      intro c hc
      exact (List.mem_append.1 hc).elim (hbefore c) (hafter c)
    have hempty : (before ++ after).dropWhile p = [] := List.dropWhile_eq_nil_iff.2 hall
    simp [trimList, hempty]
  · rw [List.concat_eq_append] at hhead hlast ⊢
    have hstart : ∀ c ∈ (start ++ [last] ++ after).head?, p c = false := by
      intro c hc
      refine hhead c ?_
      cases start <;> simpa using hc
    have hend : ∀ c ∈ (start ++ [last]).reverse.head?, p c = false := by
      simpa using hlast last (by simp)
    have hafter' : ∀ c ∈ after.reverse, p c = true := fun c hc => hafter c (List.mem_reverse.1 hc)
    rw [trimList, hdrop hbefore hstart, List.reverse_append, hdrop hafter' hend,
      List.reverse_reverse]

end Text

end StyleHost
