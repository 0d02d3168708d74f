import Mathlib.Data.List.Induction
import Mathlib.Data.List.Nodup
import StyleHost.Transform.Processor

/-!
# What a processor remembers

What a processor remembers is determined by what was asked of it since it was new. The stylesheet is
that of the last import that was a document, unless there was a reset after it. The parameters form
a map that keeps the order of insertion: a name has the value that it was last given, unless it was
dropped after that, and names stand in the order in which they came in.

* `Processor.Operation`, `Processor.after` : what can be asked of a processor, and what it leaves.
* `Processor.latestStylesheet`, `Processor.valueOf`, `Processor.names` : what a history leaves.
* `Processor.remembered_concat` : a processor remembers what its history leaves.
-/

namespace StyleHost

namespace Processor

/-- What can be asked of a processor. -/
inductive Operation where
  /-- The base is left to the processor if none is given. -/
  | importStylesheet (bytes : Bytes) (baseUri : Option String)
  | setParameter (ns : Option String) (name value : String)
  | getParameter (ns : Option String) (name : String)
  | removeParameter (ns : Option String) (name : String)
  | clearParameters
  | reset
  | transform (mode : Mode) (source : Bytes)
deriving DecidableEq

/-- The import that an operation asks for. -/
def importFrom (p : Processor) (bytes : Bytes) (baseUri : Option String) :
    Except TransformError Processor :=
  p.importStylesheet bytes (baseUri.getD defaultBase)

/-- A processor after an operation. A failed import leaves it as it was. -/
def after (p : Processor) : Operation → Processor
  | .importStylesheet bytes baseUri =>
    match p.importFrom bytes baseUri with
    | .ok next => next
    | .error _ => p
  | .setParameter ns name value => p.setParameter ns name value
  | .removeParameter ns name => p.removeParameter ns name
  | .clearParameters => p.clearParameters
  | .reset => p.reset
  | .getParameter _ _ | .transform _ _ => p

/-! ### Histories -/

/-- The stylesheet that an operation brings, if it is a document. -/
def Operation.stylesheet? : Operation → Option ImportedStylesheet
  | .importStylesheet bytes baseUri =>
    match Document.check bytes with
    | .ok () => some ⟨bytes, baseUri.getD defaultBase⟩
    | .error _ => none
  | _ => none

/-- Whether an operation makes the processor forget its stylesheet. -/
def Operation.isReset : Operation → Bool
  | .reset => true
  | _ => false

/-- The value that an operation gives to a name. -/
def Operation.valueFor? (name : String) : Operation → Option String
  | .setParameter _ n value => if n = name then some value else none
  | _ => none

/-- Whether an operation drops a name. -/
def Operation.drops (name : String) : Operation → Bool
  | .removeParameter _ n => n == name
  | .clearParameters | .reset => true
  | _ => false

/-- What the last operation that gave something gave, if none after it has put an end to it. -/
def latest {β : Type} (ends : Operation → Bool) (given? : Operation → Option β)
    (history : List Operation) : Option β :=
  (history.reverse.takeWhile (!ends ·)).findSome? given?

/-- The stylesheet of the last import since the last reset that brought a document. -/
def latestStylesheet (history : List Operation) : Option ImportedStylesheet :=
  latest Operation.isReset Operation.stylesheet? history

/-- The value that a name was last given since it was last dropped. -/
def valueOf (history : List Operation) (name : String) : Option String :=
  latest (Operation.drops name) (Operation.valueFor? name) history

/-- Names in the order of insertion, after an operation. -/
def insertInto (names : List String) : Operation → List String
  | .setParameter _ name _ => if name ∈ names then names else names ++ [name]
  | .removeParameter _ name => names.filter (· != name)
  | .clearParameters | .reset => []
  | _ => names

/-- The names of the parameters in the order of insertion. -/
def names (history : List Operation) : List String := history.foldl insertInto []

/-- The parameters with their values, in the order of insertion. -/
def parametersOf (history : List Operation) : List (String × String) :=
  (names history).map fun name => (name, (valueOf history name).getD "")

/-- What a history leaves. -/
def remembered (history : List Operation) : Processor :=
  ⟨latestStylesheet history, parametersOf history⟩

/-! ### One more operation -/

section

variable {history : List Operation} {op : Operation} {name : String}

theorem latest_concat {β : Type} {ends : Operation → Bool} {given? : Operation → Option β} :
    latest ends given? (history ++ [op]) =
      if ends op then none else (given? op).or (latest ends given? history) := by
  rw [latest, List.reverse_append, List.reverse_singleton, List.singleton_append,
    List.takeWhile_cons]
  cases ends op with
  | true => rfl
  | false =>
    rw [Bool.not_false, if_pos rfl, List.findSome?_cons]
    cases given? op <;> rfl

theorem names_concat : names (history ++ [op]) = insertInto (names history) op := by
  rw [names, List.foldl_concat]
  rfl

theorem valueOf_concat : valueOf (history ++ [op]) name =
    if op.drops name then none else (op.valueFor? name).or (valueOf history name) :=
  latest_concat

theorem names_nodup (history : List Operation) : (names history).Nodup := by
  induction history using List.reverseRecOn with
  | nil => exact List.nodup_nil
  | append_singleton history op ih =>
    rw [names_concat]
    cases op with
    | setParameter ns name value =>
      rw [insertInto]
      split
      · exact ih
      · rename_i hname
        exact List.concat_eq_append ▸ ih.concat hname
    | removeParameter ns name => exact ih.filter _
    | clearParameters | reset => exact List.nodup_nil
    | importStylesheet | getParameter | transform => exact ih

/-- Just the names that were given a value and not dropped since are there. -/
theorem mem_names_iff : name ∈ names history ↔ (valueOf history name).isSome = true := by
  induction history using List.reverseRecOn with
  | nil => simp [names, valueOf, latest]
  | append_singleton history op ih =>
    rw [names_concat, valueOf_concat]
    cases op with
    | setParameter ns other value =>
      simp only [insertInto, Operation.drops, Operation.valueFor?, Bool.false_eq_true, if_false]
      by_cases hname : other = name
      · subst hname
        split <;> simp_all
      · rw [if_neg hname, Option.none_or, ← ih]
        split <;> simp [Ne.symm hname]
    | removeParameter ns other =>
      simp only [insertInto, Operation.drops, Operation.valueFor?, Option.none_or, beq_iff_eq,
        List.mem_filter, bne_iff_ne, ih]
      by_cases hname : other = name
      · simp [hname]
      · simp [hname, Ne.symm hname]
    | clearParameters | reset => simp [insertInto, Operation.drops]
    | importStylesheet | getParameter | transform => exact ih

/-! ### What the processor does -/

theorem after_import (p : Processor) (bytes : Bytes) (baseUri : Option String) :
    p.after (.importStylesheet bytes baseUri) =
      { p with stylesheet :=
          (Operation.importStylesheet bytes baseUri).stylesheet?.or p.stylesheet } := by
  rw [after, importFrom, importStylesheet, Operation.stylesheet?]
  cases Document.check bytes <;> rfl

theorem setIn_of_not_mem {ps : List (String × String)} {value : String}
    (h : name ∉ ps.map Prod.fst) : setIn name value ps = ps ++ [(name, value)] := by
  induction ps with
  | nil => rfl
  | cons q ps ih =>
    rw [List.map_cons, List.mem_cons, not_or] at h
    rw [setIn, if_neg (Ne.symm h.1), ih h.2, List.cons_append]

/-- A value is replaced where it stands. -/
theorem setIn_of_mem {ps : List (String × String)} {value : String}
    (hnodup : (ps.map Prod.fst).Nodup) (h : name ∈ ps.map Prod.fst) :
    setIn name value ps = ps.map fun q => (q.1, if q.1 = name then value else q.2) := by
  induction ps with
  | nil => cases h
  | cons q ps ih =>
    rw [List.map_cons, List.nodup_cons] at hnodup
    rw [setIn, List.map_cons]
    by_cases hname : q.1 = name
    · -- the name does not stand in the rest
      have hrest : ps.map (fun r => (r.1, if r.1 = name then value else r.2)) = ps := by
        refine (List.map_congr_left fun r hr => ?_).trans (List.map_id ps)
        have hne : r.1 ≠ name := fun h =>
          hnodup.1 (List.mem_map.2 ⟨r, hr, h.trans hname.symm⟩)
        rw [if_neg hne]
        rfl
      rw [if_pos hname, if_pos hname, hrest]
    · rw [if_neg hname, if_neg hname, ih hnodup.2]
      rw [List.map_cons, List.mem_cons] at h
      exact h.resolve_left (Ne.symm hname)

/-- The parameters stand in the order of their names. -/
theorem names_parametersOf (history : List Operation) :
    (parametersOf history).map Prod.fst = names history := by
  simp [parametersOf, Function.comp_def]

/-- No name has two values. -/
theorem parametersOf_nodup (history : List Operation) :
    ((parametersOf history).map Prod.fst).Nodup :=
  names_parametersOf history ▸ names_nodup history

theorem mem_parametersOf_iff {value : String} :
    (name, value) ∈ parametersOf history ↔ valueOf history name = some value := by
  rw [parametersOf, List.mem_map]
  constructor
  · rintro ⟨n, hn, heq⟩
    obtain ⟨rfl, rfl⟩ := Prod.mk.inj heq
    obtain ⟨v, hv⟩ := Option.isSome_iff_exists.1 (mem_names_iff.1 hn)
    rw [hv]
    rfl
  · intro hvalue
    exact ⟨name, mem_names_iff.2 (by rw [hvalue]; rfl), by rw [hvalue]; rfl⟩

theorem getParameter_remembered (ns : Option String) :
    (remembered history).getParameter ns name = valueOf history name := by
  rw [getParameter, remembered, parametersOf]
  by_cases hname : name ∈ names history
  · obtain ⟨value, hvalue⟩ := Option.isSome_iff_exists.1 (mem_names_iff.1 hname)
    rw [List.lookup_graph _ hname, hvalue]
    rfl
  · -- a name that is not among the parameters has no value, and the search finds none
    have hnone := mt mem_names_iff.2 hname
    rw [Option.not_isSome_iff_eq_none] at hnone
    rw [hnone, List.lookup_eq_none_iff]
    rintro _ hmem
    obtain ⟨n, hn, rfl⟩ := List.mem_map.1 hmem
    exact bne_iff_ne.2 (ne_of_mem_of_not_mem hn hname).symm

theorem parametersOf_concat :
    parametersOf (history ++ [op]) = ((remembered history).after op).parameters := by
  rw [parametersOf, names_concat]
  simp only [valueOf_concat]
  cases op with
  | setParameter ns name value =>
    change _ = setIn name value (parametersOf history)
    -- the value of every name afterwards, whether or not it is the one that is set
    have hvalue : ∀ n, (if Operation.drops n (.setParameter ns name value) then none else
        (Operation.valueFor? n (.setParameter ns name value)).or (valueOf history n)).getD "" =
          if n = name then value else (valueOf history n).getD "" := by
      intro n
      simp only [Operation.drops, Operation.valueFor?, Bool.false_eq_true, if_false, eq_comm]
      split <;> rfl
    simp only [hvalue]
    rw [insertInto]
    split
    · rename_i hname
      rw [setIn_of_mem (parametersOf_nodup history) (names_parametersOf history ▸ hname),
        parametersOf, List.map_map]
      rfl
    · rename_i hname
      rw [setIn_of_not_mem (names_parametersOf history ▸ hname), List.map_append,
        List.map_singleton, if_pos rfl, parametersOf]
      refine congrArg (· ++ [(name, value)]) (List.map_congr_left fun n hn => ?_)
      rw [if_neg (ne_of_mem_of_not_mem hn hname)]
  | removeParameter ns name =>
    change _ = (parametersOf history).filter (·.1 != name)
    rw [parametersOf, List.filter_map, insertInto]
    refine List.map_congr_left fun n hn => ?_
    have hne : (name == n) = false := beq_false_of_ne (bne_iff_ne.1 (List.mem_filter.1 hn).2).symm
    simp [Operation.drops, Operation.valueFor?, hne]
  | clearParameters | reset => rfl
  | importStylesheet bytes baseUri =>
    rw [after_import]
    rfl
  | getParameter | transform => rfl

/-- **A processor remembers what its history leaves.** -/
theorem remembered_concat : remembered (history ++ [op]) = (remembered history).after op := by
  have hstylesheet : latestStylesheet (history ++ [op]) =
      ((remembered history).after op).stylesheet := by
    rw [latestStylesheet, latest_concat]
    cases op with
    | importStylesheet bytes baseUri =>
      rw [after_import]
      rfl
    | reset => rfl
    | setParameter | getParameter | removeParameter | clearParameters | transform => rfl
  rw [remembered, hstylesheet, parametersOf_concat]

end

end Processor

end StyleHost
