import StyleHost.Config.Reader
import StyleHost.Proofs.Json.Record

/-!
# Configurations read back as they were written

The writer of configurations and their reader agree on every name and on every form of a value, so
that each configuration is read back as it was. An option that is absent is not written, and stays
absent; one that is present is written, whatever its value.

* `Policy.entries`, `Config.entries` : what is written, as members that are read back.
* `Config.Written` : the names in a written configuration.
* `Config.parse_toJson` : the round trip.
-/

namespace StyleHost

open Json

/-- What is written where is read back. -/
theorem Json.Reads.all {α : Type} {read : Cursor → Except Json.Error (α × Cursor)} {cs : List Char}
    {a : α} (h : Reads read cs a) : readAll read (String.ofList cs) = .ok a := by
  obtain ⟨position, hread⟩ := h ⟨1, 0⟩ [] closed_nil
  rw [List.append_nil] at hread
  rw [readAll, Cursor.start, String.toList_ofList, hread]
  rfl

/-! ### Policies -/

theorem Access.reads (a : Access) : Reads (readChoice Access.names) a.write a := by
  cases a with
  | allow => exact .choice "allow" (by decide)
  | forbid => exact .choice "forbid" (by decide)

/-- The member of a policy for a capability. -/
def Policy.entry (key : String) (capability : Capability) (a : Access)
    (found : Policy.fields.find? (·.key == key) = some (Policy.field key capability)) :
    Entry Policy.fields where
  field := Policy.field key capability
  text := a.write
  change policy := policy.set capability a
  found := found
  reads policy := a.reads.map (policy.set capability)

/-- The members of a policy. -/
def Policy.entries (p : Policy) : List (Entry Policy.fields) :=
  [Policy.entry "read_file" .readFile p.readFile rfl,
    Policy.entry "write_file" .writeFile p.writeFile rfl,
    Policy.entry "create_directory" .createDirectory p.createDirectory rfl,
    Policy.entry "read_network" .readNetwork p.readNetwork rfl,
    Policy.entry "write_network" .writeNetwork p.writeNetwork rfl]

theorem Policy.write_eq (p : Policy) : p.write = writeObject (p.entries.map Entry.written) := rfl

theorem Policy.apply_entries (p : Policy) : Entry.apply p.entries .standard = p := by
  rcases p with ⟨_, _, _, _, _⟩
  rfl

/-- The names in a policy are those of its fields, in order. -/
theorem Policy.names_entries (p : Policy) :
    p.entries.map Entry.name = Policy.fields.map Member.key := rfl

theorem Policy.reads (p : Policy) : Reads Policy.read p.write p := by
  have h := Reads.record "struct SecurityPolicy" .standard p.entries
    (by rw [names_entries]; decide)
  rwa [← write_eq, apply_entries] at h

/-! ### Configurations -/

/-- A member of a configuration. -/
def Config.entry {α : Type} {read : Cursor → Except Json.Error (α × Cursor)} {cs : List Char}
    {a : α} (key : String) (put : Config → α → Config) (h : Reads read cs a)
    (found : Config.fields.find? (·.key == key) = some (Config.field key read put)) :
    Entry Config.fields where
  field := Config.field key read put
  text := cs
  change config := put config a
  found := found
  reads config := h.map (put config)

/-- The limit of a fetch is read back as one that is there. -/
theorem Json.Reads.optionalWord (n : UInt64) :
    Reads (readOptional (readWord "u64")) (writeWord n) (some n) := by
  obtain ⟨d, ds, hds, hd⟩ := exists_digitChars_eq_cons n.toNat
  obtain ⟨hblank, -, hn⟩ := of_isDigit hd
  exact (Reads.word "u64" n).optional (by rw [writeWord, hds]; rfl) hblank hn

theorem Json.Reads.optionalString (s : String) :
    Reads (readOptional (readString "a string")) (writeText s.toList) (some s) :=
  (Reads.string "a string" s).optional (d := '"') rfl (by decide) (by decide)

/-- The members of a configuration. -/
def Config.entries (c : Config) : List (Entry Config.fields) :=
  [Config.entry "omitXmlDeclaration" _ (Reads.flag c.omitXmlDeclaration) rfl,
    Config.entry "maxVariables" _ (Reads.word "usize" c.maxVariables) rfl,
    Config.entry "exslt" _ (Reads.flag c.exslt) rfl,
    Config.entry "security" _ c.security.reads rfl] ++
    (c.fetchTimeoutMs.map fun n =>
      Config.entry "fetchTimeoutMs" _ (Reads.optionalWord n) rfl).toList ++
    (c.defaultLocale.map fun s =>
      Config.entry "defaultLocale" _ (Reads.optionalString s) rfl).toList

/-- The names in a configuration are those of its fields, in order; the last two are left out where
their option is absent. -/
theorem Config.names_entries (c : Config) : c.entries.map Entry.name =
    (Config.fields.map Member.key).take 4 ++
      (if c.fetchTimeoutMs.isSome then ["fetchTimeoutMs"] else []) ++
      (if c.defaultLocale.isSome then ["defaultLocale"] else []) := by
  rcases c with ⟨_, _, _, _, _ | _, _ | _⟩ <;> rfl

theorem Config.write_eq (c : Config) : c.write = writeObject (c.entries.map Entry.written) := by
  rcases c with ⟨_, _, _, _, _ | _, _ | _⟩ <;> rfl

theorem Config.apply_entries (c : Config) : Entry.apply c.entries {} = c := by
  rcases c with ⟨_, _, _, _, _ | _, _ | _⟩ <;> rfl

theorem Config.reads (c : Config) : Reads Config.read c.write c := by
  have hnodup : (c.entries.map Entry.name).Nodup := by
    rw [names_entries]
    split_ifs <;> decide
  have h := Reads.record "struct TransformConfig" {} c.entries hnodup
  rwa [← write_eq, apply_entries] at h

/-- The members that make up a written configuration. -/
structure Config.Written (c : Config) (members : List (String × List Char)) : Prop where
  text : c.toJson = String.ofList (writeObject members)
  /-- The reader knows all names. -/
  names : (members.map Prod.fst).Sublist (Config.fields.map Member.key)
  /-- It knows those of the policy, too. -/
  policy : ∃ decisions, ("security", writeObject decisions) ∈ members ∧
    decisions.map Prod.fst = Policy.fields.map Member.key
  /-- An absent option is left out, and no other. -/
  timeout : "fetchTimeoutMs" ∈ members.map Prod.fst ↔ c.fetchTimeoutMs ≠ none
  locale : "defaultLocale" ∈ members.map Prod.fst ↔ c.defaultLocale ≠ none

theorem Config.written_entries (c : Config) : c.Written (c.entries.map Entry.written) := by
  have hnames : (c.entries.map Entry.written).map Prod.fst = c.entries.map Entry.name := by
    rw [List.map_map]
    rfl
  constructor
  · rw [toJson, write_eq]
  · rw [hnames, names_entries]
    split_ifs <;> decide
  · refine ⟨c.security.entries.map Entry.written, ?_, by rw [List.map_map]; rfl⟩
    exact List.mem_map.2 ⟨entry "security" _ c.security.reads rfl, by simp [entries], rfl⟩
  · rw [hnames, names_entries, ← Option.isSome_iff_ne_none]
    simp [fields, field]
  · rw [hnames, names_entries, ← Option.isSome_iff_ne_none]
    simp [fields, field]

/-- **A configuration is read back as it was written.** -/
theorem Config.parse_toJson (c : Config) :
    Config.parse c.toJson = .ok c ∧ ∃ members, c.Written members :=
  ⟨c.reads.all, _, c.written_entries⟩

end StyleHost
