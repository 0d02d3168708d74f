import StyleHost.Proofs.Json.Strings

/-!
# Running over the members of an object

What becomes of a record when the members of an object are put into it one after another. Unknown
members are passed over, and a key that denotes no text or is given twice ends the run.

* `Slot`, `gather`, `fill`, `decodeRecord` : the run, and that over the elements of a list.
* `gather_legible`, `gather_given`, `gather_put` : what a run that ends says of the members.
* `gather_error` : what one that does not end says of them.
* `gather_eq` : the run is a merge, if each step of it is one.
-/

namespace StyleHost

namespace Json

variable {σ : Type}

/-- A field of a record as trees give it. -/
structure Slot (σ : Type) where
  key : String
  put : σ → Tree → Except Fault σ

/-- The members of an object, of which `seen` have been given before. -/
def gather (slots : List (Slot σ)) :
    List String → σ → List (Option String × Tree) → Except Fault σ
  | _, record, [] => .ok record
  | _, _, (none, _) :: _ => .error .misfit
  | seen, record, (some key, t) :: ms =>
    match slots.find? (·.key == key) with
    | none => gather slots seen record ms
    | some slot =>
      if key ∈ seen then .error (.twice key)
      else do gather slots (key :: seen) (← slot.put record t) ms

/-- The elements of a list, of which there may be too few but not too many. -/
def fill : List (Slot σ) → σ → List Tree → Except Fault σ
  | _, record, [] => .ok record
  | [], _, _ :: _ => .error .misfit
  | slot :: slots, record, t :: ts => do fill slots (← slot.put record t) ts

/-- A record. -/
def decodeRecord (slots : List (Slot σ)) (default : σ) : Tree → Except Fault σ
  | .object ms => gather slots [] default ms
  | .list ts => fill slots default ts
  | _ => .error .misfit

section runs

variable {slots : List (Slot σ)} {seen : List String} {record record' : σ}
  {ms : List (Option String × Tree)}

/-- How often a key is given. -/
def given (key : String) (ms : List (Option String × Tree)) : Nat :=
  (ms.map Prod.fst).count (some key)

theorem given_cons (key : String) (m : Option String × Tree) (ms : List (Option String × Tree)) :
    given key (m :: ms) = given key ms + if m.1 = some key then 1 else 0 := by
  simp [given, List.count_cons]

/-- What comes after a put that succeeds. -/
theorem put_bind_ok {r : Except Fault σ} {f : σ → Except Fault σ} (h : (r >>= f) = .ok record') :
    ∃ after, r = .ok after ∧ f after = .ok record' := by
  rcases r with e | after
  · cases h
  · exact ⟨after, rfl, h⟩

/-- A run that ends has met a text in each key. -/
theorem gather_legible (h : gather slots seen record ms = .ok record') :
    ∀ m ∈ ms, m.1 ≠ none := by
  fun_induction gather slots seen record ms with
  | case1 => simp
  | case2 => cases h
  | case3 seen record key t ms hunknown ih => simpa using ih h
  | case4 => cases h
  | case5 seen record key t ms slot hknown hseen ih =>
    obtain ⟨after, -, h⟩ := put_bind_ok h
    simpa using ih after h

/-- A run that ends has met each of its own keys once, and none that was given before. -/
theorem gather_given (h : gather slots seen record ms = .ok record') :
    ∀ key ∈ slots.map Slot.key, given key ms ≤ 1 ∧ (key ∈ seen → given key ms = 0) := by
  fun_induction gather slots seen record ms with
  | case1 => simp [given]
  | case2 => cases h
  | case3 seen record key t ms hunknown ih =>
    intro key' hkey'
    have hne : key ≠ key' := by
      rintro rfl
      obtain ⟨slot, hslot, rfl⟩ := List.mem_map.1 hkey'
      simpa using List.find?_eq_none.1 hunknown slot hslot
    simpa [given_cons, hne] using ih h key' hkey'
  | case4 => cases h
  | case5 seen record key t ms slot hknown hseen ih =>
    obtain ⟨after, -, h⟩ := put_bind_ok h
    intro key' hkey'
    obtain ⟨hone, hnone⟩ := ih after h key' hkey'
    by_cases heq : key = key'
    · subst heq
      have hzero := hnone List.mem_cons_self
      exact ⟨by simp [given_cons, hzero], fun hmem => absurd hmem hseen⟩
    · refine ⟨by simpa [given_cons, heq] using hone, fun hmem => ?_⟩
      simpa [given_cons, heq] using hnone (List.mem_cons_of_mem _ hmem)

/-- A run that ends has met only trees that fit. -/
theorem gather_put (h : gather slots seen record ms = .ok record') {key : String} {t : Tree}
    {slot : Slot σ} (hmem : (some key, t) ∈ ms)
    (hslot : slots.find? (·.key == key) = some slot) :
    ∃ before after, slot.put before t = .ok after := by
  fun_induction gather slots seen record ms with
  | case1 => cases hmem
  | case2 => cases h
  | case3 seen record key' t' ms hunknown ih =>
    rcases List.mem_cons.1 hmem with heq | hmem
    · cases heq
      rw [hslot] at hunknown
      cases hunknown
    · exact ih h hmem
  | case4 => cases h
  | case5 seen record key' t' ms slot' hknown hseen ih =>
    obtain ⟨after, hput, h⟩ := put_bind_ok h
    rcases List.mem_cons.1 hmem with heq | hmem
    · cases heq
      rw [hslot] at hknown
      cases hknown
      exact ⟨record, after, hput⟩
    · exact ih after h hmem

/-- **A run that does not end** has met a key that denotes no text, one of its own keys again, or a
tree that does not fit. -/
theorem gather_error {f : Fault} (h : gather slots seen record ms = .error f) :
    (f = .misfit ∧ ∃ m ∈ ms, m.1 = none) ∨
      (∃ key ∈ slots.map Slot.key, f = .twice key ∧
        (key ∈ seen ∧ 0 < given key ms ∨ 1 < given key ms)) ∨
      ∃ key t slot before, (some key, t) ∈ ms ∧ slots.find? (·.key == key) = some slot ∧
        slot.put before t = .error f := by
  fun_induction gather slots seen record ms with
  | case1 => cases h
  | case2 => cases h; exact .inl ⟨rfl, _, List.mem_cons_self, rfl⟩
  | case3 seen record key t ms hunknown ih =>
    rcases ih h with
      ⟨hf, m, hm, hkey⟩ | ⟨key', hkey', hf, hagain⟩ | ⟨key', t', slot, before, hmem, hput⟩
    · exact .inl ⟨hf, m, List.mem_cons_of_mem _ hm, hkey⟩
    · refine .inr (.inl ⟨key', hkey', hf, ?_⟩)
      rw [given_cons]
      exact hagain.imp (And.imp_right fun _ => by omega) fun _ => by omega
    · exact .inr (.inr ⟨key', t', slot, before, List.mem_cons_of_mem _ hmem, hput⟩)
  | case4 seen record key t ms slot hknown hseen =>
    cases h
    have hslot := List.mem_of_find?_eq_some hknown
    have hkey : slot.key = key := by simpa using List.find?_some hknown
    refine .inr (.inl ⟨key, hkey ▸ List.mem_map_of_mem hslot, rfl, .inl ⟨hseen, ?_⟩⟩)
    simp [given_cons]
  | case5 seen record key t ms slot hknown hseen ih =>
    cases hput : slot.put record t with
    | error f' =>
      rw [hput] at h
      cases h
      exact .inr (.inr ⟨key, t, slot, record, List.mem_cons_self, hknown, hput⟩)
    | ok after =>
      rw [hput] at h
      rcases ih after h with
        ⟨hf, m, hm, hkey⟩ | ⟨key', hkey', hf, hagain⟩ | ⟨key', t', slot, before, hmem, hput⟩
      · exact .inl ⟨hf, m, List.mem_cons_of_mem _ hm, hkey⟩
      · refine .inr (.inl ⟨key', hkey', hf, ?_⟩)
        rw [given_cons]
        rcases hagain with ⟨hmem, hlt⟩ | hlt
        · rcases List.mem_cons.1 hmem with rfl | hmem
          · exact .inr (by simpa using hlt)
          · exact .inl ⟨hmem, by omega⟩
        · exact .inr (by omega)
      · exact .inr (.inr ⟨key', t', slot, before, List.mem_cons_of_mem _ hmem, hput⟩)

/-- **A run that ends** has merged the members into the record, if a merge passes over what is
unknown and begins with what is known and not given again. Only members with the property `P` need
be considered, if all have it. -/
theorem gather_eq {merge : σ → List (Option String × Tree) → σ} {P : String → Tree → Prop}
    (nil : ∀ record, merge record [] = record)
    (unknown : ∀ record key t ms, slots.find? (·.key == key) = none →
      merge record ((some key, t) :: ms) = merge record ms)
    (known : ∀ record record' key slot t ms, slots.find? (·.key == key) = some slot → P key t →
      slot.put record t = .ok record' → given key ms = 0 →
      merge record ((some key, t) :: ms) = merge record' ms)
    (hP : ∀ key t, (some key, t) ∈ ms → P key t) (h : gather slots seen record ms = .ok record') :
    merge record ms = record' := by
  fun_induction gather slots seen record ms with
  | case1 => cases h; exact nil _
  | case2 => cases h
  | case3 seen record key t ms hunknown ih =>
    rw [unknown record key t ms hunknown]
    exact ih (fun key t hmem => hP key t (List.mem_cons_of_mem _ hmem)) h
  | case4 => cases h
  | case5 seen record key t ms slot hknown hseen ih =>
    obtain ⟨after, hput, h⟩ := put_bind_ok h
    have hslot := List.mem_of_find?_eq_some hknown
    have hkey : slot.key = key := by simpa using List.find?_some hknown
    have hgiven := (gather_given h key (hkey ▸ List.mem_map_of_mem hslot)).2 List.mem_cons_self
    rw [known record after key slot t ms hknown (hP key t List.mem_cons_self) hput hgiven]
    exact ih after (fun key t hmem => hP key t (List.mem_cons_of_mem _ hmem)) h

end runs

end Json

end StyleHost
