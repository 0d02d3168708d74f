import StyleHost.Proofs.Json.Value

/-!
# Records read back as they were written

A record is written as the members of an object. If the reader of every member takes its text for a
change of the record, the reader of the record makes all these changes, in order. What is not
written keeps its default.

* `Json.Entry` : a member that is read back.
* `Reads.record` : an object of such members.
-/

namespace StyleHost

namespace Json

variable {σ : Type} {fields : List (Member σ)}

/-- A member of an object: one of the fields, with a text that its reader takes for a change of the
record. -/
structure Entry (fields : List (Member σ)) where
  field : Member σ
  text : List Char
  change : σ → σ
  found : fields.find? (·.key == field.key) = some field
  reads : ∀ record, Reads (field.read record) text (change record)

namespace Entry

/-- The name under which a member is written. -/
def name (e : Entry fields) : String := e.field.key

/-- A member as it is written. -/
def written (e : Entry fields) : String × List Char := (e.name, e.text)

/-- A member as it stands in an object. -/
def chars (e : Entry fields) : List Char := writeText e.name.toList ++ ':' :: e.text

/-- The changes of all members, one after another. -/
def apply (entries : List (Entry fields)) (record : σ) : σ :=
  entries.foldl (fun record e => e.change record) record

end Entry

variable {e : Entry fields} {entries : List (Entry fields)}

/-! ### Objects -/

theorem flatten_intersperse (separator first : List Char) (rest : List (List Char)) :
    ((first :: rest).intersperse separator).flatten =
      first ++ rest.flatMap (separator ++ ·) := by
  induction rest generalizing first with
  | nil => simp
  | cons next rest ih =>
    rw [List.intersperse_cons_cons, List.flatten_cons, List.flatten_cons, ih, List.flatMap_cons,
      List.append_assoc]

/-- The members of an object stand behind each other with commas between them. -/
theorem writeObject_cons : writeObject ((e :: entries).map Entry.written) =
    '{' :: (e.chars ++ (entries.flatMap (fun e => ',' :: e.chars) ++ ['}'])) := by
  rw [writeObject, List.map_map]
  change '{' :: (((e.chars :: entries.map Entry.chars).intersperse [',']).flatten ++ ['}']) = _
  rw [flatten_intersperse, List.flatMap_map, List.append_assoc]
  rfl

theorem closed_comma (rest : List Char) : Closed (',' :: rest) := closed_cons rest (by decide)

theorem closed_brace (rest : List Char) : Closed ('}' :: rest) := closed_cons rest (by decide)

/-- Behind a member comes a comma or the closing brace. -/
theorem closed_members (entries : List (Entry fields)) (rest : List Char) :
    Closed (entries.flatMap (fun e => ',' :: e.chars) ++ '}' :: rest) := by
  cases entries with
  | nil => exact closed_brace rest
  | cons e entries => exact closed_comma _

/-- **One member.** Its key is found and its value changes the record. -/
theorem readMembers_entry (fuel : Nat) (isFirst : Bool) {seen : List String} (record : σ)
    (hseen : e.name ∉ seen) (position : Position) {rest : List Char} (hrest : Closed rest) :
    ∃ position', readMembers fields (fuel + 1) isFirst seen record
        ⟨position, (if isFirst then [] else [',']) ++ e.chars ++ rest⟩ =
      readMembers fields fuel false (e.name :: seen) (e.change record) ⟨position', rest⟩ := by
  have hstart : ∃ position', nextKey? isFirst
      ⟨position, (if isFirst then [] else [',']) ++ e.chars ++ rest⟩ =
        .ok (true, ⟨position', e.chars ++ rest⟩) := by
    cases isFirst with
    | true => exact ⟨position, rfl⟩
    | false => exact ⟨position.afterChar ',', rfl⟩
  obtain ⟨position₁, hstart⟩ := hstart
  obtain ⟨position₂, hkey⟩ := readText_writeText e.name.toList (position₁.afterChar '"')
    (':' :: e.text ++ rest)
  obtain ⟨position₃, hvalue⟩ := e.reads record (position₂.afterChar ':') rest hrest
  refine ⟨position₃, ?_⟩
  have hchars : e.chars ++ rest =
      '"' :: (e.name.toList.flatMap writeChar ++ '"' :: (':' :: e.text ++ rest)) := by
    simp [Entry.chars, writeText]
  have hcolon : expectColon ⟨position₂, ':' :: e.text ++ rest⟩ =
      .ok ⟨position₂.afterChar ':', e.text ++ rest⟩ := rfl
  rw [readMembers, hstart, ok_bind, hchars]
  dsimp only [Cursor.step_mk]
  rw [if_pos rfl, hkey, String.ofList_toList, ok_bind]
  dsimp only
  rw [show fields.find? (·.key == e.name) = some e.field from e.found]
  dsimp only
  rw [if_neg hseen, hcolon, ok_bind, hvalue, ok_bind]

/-- **All members** behind the first. -/
theorem readMembers_entries (entries : List (Entry fields)) (fuel : Nat)
    (h : entries.length < fuel) {seen : List String} (record : σ)
    (hnodup : (entries.map Entry.name).Nodup) (hseen : ∀ e ∈ entries, e.name ∉ seen)
    (position : Position) (rest : List Char) : ∃ position',
      readMembers fields fuel false seen record
          ⟨position, entries.flatMap (fun e => ',' :: e.chars) ++ '}' :: rest⟩ =
        .ok (Entry.apply entries record, ⟨position', rest⟩) := by
  induction entries generalizing fuel seen record position with
  | nil =>
    obtain ⟨fuel, rfl⟩ := Nat.exists_eq_succ_of_ne_zero (Nat.ne_zero_of_lt h)
    exact ⟨position.afterChar '}', rfl⟩
  | cons e entries ih =>
    obtain ⟨fuel, rfl⟩ := Nat.exists_eq_succ_of_ne_zero (Nat.ne_zero_of_lt h)
    obtain ⟨hfresh, hnodup⟩ := List.nodup_cons.1 hnodup
    obtain ⟨position₁, hentry⟩ := readMembers_entry fuel false record (hseen e List.mem_cons_self)
      position (closed_members entries rest)
    -- the names behind this one are neither its own nor any before it
    have hseen' : ∀ e' ∈ entries, e'.name ∉ e.name :: seen := by
      intro e' he' hmem
      rcases List.mem_cons.1 hmem with heq | hmem
      · exact hfresh (heq ▸ List.mem_map_of_mem he')
      · exact hseen e' (List.mem_cons_of_mem _ he') hmem
    obtain ⟨position₂, hrest⟩ := ih fuel (Nat.lt_of_succ_lt_succ h) (e.change record) hnodup hseen'
      position₁
    refine ⟨position₂, ?_⟩
    rw [List.flatMap_cons, List.append_assoc]
    exact hentry.trans hrest

theorem length_le_flatMap (entries : List (Entry fields)) :
    entries.length ≤ (entries.flatMap fun e => ',' :: e.chars).length := by
  induction entries with
  | nil => exact Nat.le_refl _
  | cons e entries ih =>
    simp only [List.flatMap_cons, List.length_append, List.length_cons]
    omega

/-- **A record** is read back with the changes of all its members. -/
theorem Reads.record (wanted : String) (default : σ) (entries : List (Entry fields))
    (hnodup : (entries.map Entry.name).Nodup) :
    Reads (readRecord wanted fields default) (writeObject (entries.map Entry.written))
      (Entry.apply entries default) := by
  intro position rest _
  cases entries with
  | nil => exact ⟨(position.afterChar '{').afterChar '}', rfl⟩
  | cons e entries =>
    obtain ⟨hfresh, hnodup⟩ := List.nodup_cons.1 hnodup
    have hseen : ∀ e' ∈ entries, e'.name ∉ [e.name] := fun e' he' hmem =>
      hfresh (List.mem_singleton.1 hmem ▸ List.mem_map_of_mem he')
    rw [writeObject_cons, List.cons_append, List.append_assoc, List.append_assoc,
      List.singleton_append]
    have hclosed := closed_members entries rest
    have hlength := length_le_flatMap entries
    generalize hmembers : entries.flatMap (fun e => ',' :: e.chars) ++ '}' :: rest = members
      at hclosed
    have hfuel : entries.length < ('{' :: (e.chars ++ members)).length := by
      simp only [← hmembers, List.length_cons, List.length_append]
      omega
    obtain ⟨position₁, hfirst⟩ := readMembers_entry (e := e) ('{' :: (e.chars ++ members)).length
      true default List.not_mem_nil (position.afterChar '{') hclosed
    obtain ⟨position₂, hrest⟩ := readMembers_entries entries _ hfuel (e.change default) hnodup hseen
      position₁ rest
    rw [hmembers] at hrest
    refine ⟨position₂, ?_⟩
    rw [readRecord, Cursor.skipBlanks_cons _ (by decide)]
    exact hfirst.trans hrest

end Json

end StyleHost
