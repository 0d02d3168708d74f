import StyleHost.Config.Reader
import StyleHost.Proofs.Json.Members

/-!
# Partial configurations

A text that is an object replaces the settings that it mentions, and leaves the others at their
defaults. How it is laid out, in which order it mentions them and what else it holds makes no
difference; a setting that it mentions twice is an error.

* `Policy.merge`, `Config.merge` : the merge.
* `Config.Fits`, `Config.Legible`, `Config.Repeats` : what is asked of the members.
* `Config.parse_object` : what comes of a text.
-/

namespace StyleHost

open Json

/-! ### The merge -/

/-- A setting: what the members give under its key, or what it was. -/
def Json.replaced {α : Type} (key : String) (decode : Tree → Option α)
    (ms : List (Option String × Tree)) (default : α) : α :=
  ((ms.lookup (some key)).bind decode).getD default

/-- The key of a decision. -/
def Policy.key : Capability → String
  | .readFile => "read_file"
  | .writeFile => "write_file"
  | .createDirectory => "create_directory"
  | .readNetwork => "read_network"
  | .writeNetwork => "write_network"

/-- A policy with the decisions that the members give. -/
def Policy.merge (p : Policy) (ds : List (Option String × Tree)) : Policy :=
  let decision (c : Capability) : Access :=
    replaced (key c) (Tree.choice? Access.names) ds (p.access c)
  ⟨decision .readFile, decision .writeFile, decision .createDirectory, decision .readNetwork,
    decision .writeNetwork⟩

/-- The default policy with the decisions of an object. -/
def Policy.ofObject? : Tree → Option Policy
  | .object ds => some (Policy.standard.merge ds)
  | _ => none

/-- A configuration with the settings that the members give. -/
def Config.merge (c : Config) (ms : List (Option String × Tree)) : Config where
  omitXmlDeclaration := replaced "omitXmlDeclaration" Tree.flag? ms c.omitXmlDeclaration
  maxVariables := replaced "maxVariables" Tree.word? ms c.maxVariables
  exslt := replaced "exslt" Tree.flag? ms c.exslt
  security := replaced "security" Policy.ofObject? ms c.security
  fetchTimeoutMs := replaced "fetchTimeoutMs" (Tree.optional? Tree.word?) ms c.fetchTimeoutMs
  defaultLocale := replaced "defaultLocale" (Tree.optional? Tree.string?) ms c.defaultLocale

section replaced

variable {α : Type} {key key' : String} {decode : Tree → Option α} {t : Tree}
  {ms : List (Option String × Tree)}

theorem Json.replaced_cons_ne (h : key ≠ key') (default : α) :
    replaced key decode ((some key', t) :: ms) default = replaced key decode ms default := by
  have hne : (some key == some key') = false := by simpa using h
  rw [replaced, List.lookup_cons, hne]
  rfl

theorem Json.replaced_cons_self {a : α} (h : decode t = some a) (default : α) :
    replaced key decode ((some key, t) :: ms) default = a := by
  simp [replaced, h]

theorem Json.replaced_of_given (h : given key ms = 0) (default : α) :
    replaced key decode ms default = default := by
  induction ms with
  | nil => rfl
  | cons m ms ih =>
    rw [given_cons] at h
    have hne : m.1 ≠ some key := by
      intro heq
      simp [heq] at h
    have hlookup : (some key == m.1) = false := by simpa using Ne.symm hne
    rw [replaced, List.lookup_cons, hlookup]
    exact ih (by omega)

theorem Json.wanted_map_ok {β : Type} {o : Option α} {f : α → β} {b : β}
    (h : (wanted o).map f = .ok b) : ∃ a, o = some a ∧ b = f a := by
  rcases o with _ | a
  · cases h
  · cases h
    exact ⟨a, rfl, rfl⟩

end replaced

/-! ### What is asked of the members -/

/-- The keys of a configuration. -/
def Config.keys : List String :=
  ["omitXmlDeclaration", "maxVariables", "exslt", "security", "fetchTimeoutMs", "defaultLocale"]

/-- A member of a policy is a decision, if its key is one of a policy. -/
def Policy.Fits (key : String) (t : Tree) : Prop :=
  ∀ c, key = Policy.key c → t = .text (some "allow") ∨ t = .text (some "forbid")

/-- A member of a configuration is of the type that its key asks for. Of any other key nothing is
asked. -/
structure Config.Fits (key : String) (t : Tree) : Prop where
  omitXmlDeclaration : key = "omitXmlDeclaration" → ∃ b, t = .boolean b
  maxVariables : key = "maxVariables" → ∃ n, t.word? = some n
  exslt : key = "exslt" → ∃ b, t = .boolean b
  security : key = "security" →
    ∃ ds, t = .object ds ∧ ∀ key d, (some key, d) ∈ ds → Policy.Fits key d
  fetchTimeoutMs : key = "fetchTimeoutMs" → t = .null ∨ ∃ n, t.word? = some n
  defaultLocale : key = "defaultLocale" → t = .null ∨ ∃ s, t = .text s

variable {members : List (Option String × Tree)}

/-- Every key denotes a text, here and among the members of the policy, and so does the locale. -/
structure Config.Legible (members : List (Option String × Tree)) : Prop where
  keys : ∀ m ∈ members, m.1 ≠ none
  policy : ∀ ds, (some "security", .object ds) ∈ members → ∀ d ∈ ds, d.1 ≠ none
  locale : (some "defaultLocale", .text none) ∉ members

/-- A key of a configuration is given twice, or one of a policy within the same policy. -/
def Config.Repeats (key : String) (members : List (Option String × Tree)) : Prop :=
  (key ∈ Config.keys ∧ 1 < given key members) ∨
    ∃ ds, (some "security", .object ds) ∈ members ∧ (∃ c, key = Policy.key c) ∧ 1 < given key ds

/-! ### Policies -/

namespace Policy

/-- The slot of a decision. -/
def slot (c : Capability) : Slot Policy where
  key := key c
  put policy t := (wanted (t.choice? Access.names)).map (policy.set c)

/-- The slots of a policy. -/
def slots : List (Slot Policy) := Capability.all.map slot

theorem agrees (c : Capability) : Agrees (Policy.field (key c) c) (slot c) where
  key := rfl
  takes policy := (Takes.choice Access.names).map (policy.set c)

/-- The decoder of policies. -/
def decode : Tree → Except Fault Policy := decodeRecord slots .standard

theorem takes : Takes Policy.read decode := by
  have h : List.Forall₂ Agrees Policy.fields slots :=
    .cons (agrees .readFile) (.cons (agrees .writeFile) (.cons (agrees .createDirectory)
      (.cons (agrees .readNetwork) (.cons (agrees .writeNetwork) .nil))))
  exact Takes.record h "struct SecurityPolicy" .standard

theorem key_injective : Function.Injective key := by
  intro c d h
  cases c <;> cases d <;> first | rfl | exact absurd h (by decide)

theorem find?_slots {name : String} {slot : Slot Policy}
    (h : slots.find? (·.key == name) = some slot) :
    ∃ c, slot = Policy.slot c ∧ name = key c := by
  obtain ⟨c, -, rfl⟩ := List.mem_map.1 (List.mem_of_find?_eq_some h)
  have hname : key c = name := by simpa [Policy.slot] using List.find?_some h
  exact ⟨c, rfl, hname.symm⟩

theorem find?_key (c : Capability) : slots.find? (·.key == key c) = some (slot c) := by
  cases c <;> rfl

theorem eq_of_access {p q : Policy} (h : ∀ c, p.access c = q.access c) : p = q := by
  obtain ⟨_, _, _, _, _⟩ := p
  obtain ⟨_, _, _, _, _⟩ := q
  simpa [access] using
    And.intro (h .readFile) (And.intro (h .writeFile) (And.intro (h .createDirectory)
      (And.intro (h .readNetwork) (h .writeNetwork))))

theorem access_merge (p : Policy) (ds : List (Option String × Tree)) (c : Capability) :
    (p.merge ds).access c = replaced (key c) (Tree.choice? Access.names) ds (p.access c) := by
  cases c <;> rfl

/-- An unknown member is passed over. -/
theorem merge_unknown {name : String} (h : slots.find? (·.key == name) = none) (p : Policy)
    (t : Tree) (ds : List (Option String × Tree)) :
    p.merge ((some name, t) :: ds) = p.merge ds := by
  refine eq_of_access fun c => ?_
  have hne : key c ≠ name := by
    rintro rfl
    rw [find?_key] at h
    cases h
  rw [access_merge, access_merge, replaced_cons_ne hne]

/-- A decision that is not given again is put in its place. -/
theorem merge_known {c : Capability} {t : Tree} {a : Access} {ds : List (Option String × Tree)}
    (ht : t.choice? Access.names = some a) (hgiven : given (key c) ds = 0) (p : Policy) :
    p.merge ((some (key c), t) :: ds) = (p.set c a).merge ds := by
  refine eq_of_access fun d => ?_
  rw [access_merge, access_merge, access_set]
  by_cases hd : d = c
  · rw [hd, if_pos rfl, replaced_cons_self ht, replaced_of_given hgiven]
  · rw [if_neg hd, replaced_cons_ne (key_injective.ne hd)]

/-- **A policy that is read** from an object is the merge of its members. -/
theorem merge_of_decode {ds : List (Option String × Tree)} {p : Policy}
    (h : decode (.object ds) = .ok p) : Policy.standard.merge ds = p := by
  refine gather_eq (P := fun _ _ => True) (fun _ => rfl)
    (fun p name t ds h => merge_unknown h p t ds) ?_ (fun _ _ _ => trivial) h
  intro p p' name slot t ds hslot _ hput hgiven
  obtain ⟨c, rfl, rfl⟩ := find?_slots hslot
  obtain ⟨a, ha, rfl⟩ := wanted_map_ok hput
  exact merge_known ha hgiven p

/-- A policy that is read has a text in each key, and each of its own keys once. -/
theorem legible_of_decode {ds : List (Option String × Tree)} {p : Policy}
    (h : decode (.object ds) = .ok p) :
    (∀ d ∈ ds, d.1 ≠ none) ∧ ∀ c, given (key c) ds ≤ 1 := by
  refine ⟨gather_legible h, fun c => (gather_given h (key c) ?_).1⟩
  exact List.mem_map.2 ⟨slot c, List.mem_of_find?_eq_some (find?_key c), rfl⟩

/-- Where the decisions fit and the keys are texts, only a key given twice is at fault. -/
theorem twice_of_decode {ds : List (Option String × Tree)} {f : Fault}
    (hfits : ∀ key d, (some key, d) ∈ ds → Fits key d) (hlegible : ∀ d ∈ ds, d.1 ≠ none)
    (h : decode (.object ds) = .error f) : ∃ c, f = .twice (key c) ∧ 1 < given (key c) ds := by
  rcases gather_error h with
    ⟨-, d, hd, hkey⟩ | ⟨name, hname, rfl, ⟨hseen, -⟩ | hagain⟩ |
      ⟨name, t, slot, p, hmem, hslot, hput⟩
  · exact absurd hkey (hlegible d hd)
  · cases hseen
  · obtain ⟨slot, hslot, rfl⟩ := List.mem_map.1 hname
    obtain ⟨c, -, rfl⟩ := List.mem_map.1 hslot
    exact ⟨c, rfl, hagain⟩
  · obtain ⟨c, rfl, rfl⟩ := find?_slots hslot
    rcases hfits _ t hmem c rfl with rfl | rfl <;> cases hput

end Policy

/-! ### Configurations -/

namespace Config

/-- The slot of a setting. -/
def slot {α : Type} (key : String) (decode : Tree → Except Fault α) (put : Config → α → Config) :
    Slot Config where
  key := key
  put c t := (decode t).map (put c)

/-- The slots of a configuration. -/
def slots : List (Slot Config) :=
  [slot "omitXmlDeclaration" (fun t => wanted t.flag?)
      fun c x => { c with omitXmlDeclaration := x },
    slot "maxVariables" (fun t => wanted t.word?) fun c x => { c with maxVariables := x },
    slot "exslt" (fun t => wanted t.flag?) fun c x => { c with exslt := x },
    slot "security" Policy.decode fun c x => { c with security := x },
    slot "fetchTimeoutMs" (fun t => wanted (t.optional? Tree.word?))
      fun c x => { c with fetchTimeoutMs := x },
    slot "defaultLocale" (fun t => wanted (t.optional? Tree.string?))
      fun c x => { c with defaultLocale := x }]

theorem agrees {α : Type} {read : Cursor → Except Json.Error (α × Cursor)}
    {decode : Tree → Except Fault α} (h : Takes read decode) (key : String)
    (put : Config → α → Config) : Agrees (Config.field key read put) (slot key decode put) where
  key := rfl
  takes c := h.map (put c)

/-- The decoder of configurations. -/
def decode : Tree → Except Fault Config := decodeRecord slots {}

theorem takes : Takes Config.read decode := by
  have h : List.Forall₂ Agrees Config.fields slots :=
    .cons (agrees .flag _ _) (.cons (agrees (.word _) _ _) (.cons (agrees .flag _ _)
      (.cons (agrees Policy.takes _ _) (.cons (agrees (.optional (.word _)) _ _)
        (.cons (agrees (.optional (.string _)) _ _) .nil)))))
  exact Takes.record h "struct TransformConfig" {}

theorem mem_keys {name : String} {slot : Slot Config}
    (h : slots.find? (·.key == name) = some slot) : slot ∈ slots ∧ slot.key = name :=
  ⟨List.mem_of_find?_eq_some h, by simpa using List.find?_some h⟩

theorem map_key_slots : slots.map Slot.key = Config.keys := rfl

/-- An unknown member is passed over. -/
theorem merge_unknown {name : String} (h : slots.find? (·.key == name) = none) (c : Config)
    (t : Tree) (ms : List (Option String × Tree)) :
    c.merge ((some name, t) :: ms) = c.merge ms := by
  have hne : ∀ key ∈ Config.keys, key ≠ name := by
    rw [← map_key_slots]
    rintro _ hkey rfl
    obtain ⟨slot, hslot, heq⟩ := List.mem_map.1 hkey
    simpa [heq] using List.find?_eq_none.1 h slot hslot
  simp only [merge, replaced_cons_ne (hne "omitXmlDeclaration" (by decide)),
    replaced_cons_ne (hne "maxVariables" (by decide)), replaced_cons_ne (hne "exslt" (by decide)),
    replaced_cons_ne (hne "security" (by decide)),
    replaced_cons_ne (hne "fetchTimeoutMs" (by decide)),
    replaced_cons_ne (hne "defaultLocale" (by decide))]

/-- A setting that is not given again is put in its place. -/
theorem merge_known {c c' : Config} {name : String} {slot : Slot Config} {t : Tree}
    {ms : List (Option String × Tree)} (hslot : slots.find? (·.key == name) = some slot)
    (hfits : Fits name t) (hput : slot.put c t = .ok c') (hgiven : given name ms = 0) :
    c.merge ((some name, t) :: ms) = c'.merge ms := by
  obtain ⟨hmem, rfl⟩ := mem_keys hslot
  simp only [slots, List.mem_cons, List.not_mem_nil, or_false] at hmem
  rcases hmem with rfl | rfl | rfl | rfl | rfl | rfl
  case inr.inr.inr.inl =>
    -- the policy of an object is itself a merge
    obtain ⟨ds, rfl, -⟩ := hfits.security rfl
    dsimp only [Config.slot] at hput hgiven ⊢
    cases hpolicy : Policy.decode (.object ds) with
    | error f => rw [hpolicy] at hput; cases hput
    | ok p =>
      rw [hpolicy] at hput
      cases hput
      have hp : Policy.ofObject? (.object ds) = some p :=
        congrArg some (Policy.merge_of_decode hpolicy)
      simp [merge, replaced_cons_ne, replaced_cons_self hp, replaced_of_given hgiven]
  all_goals
    obtain ⟨x, hx, rfl⟩ := wanted_map_ok hput
    dsimp only [Config.slot] at hgiven ⊢
    simp [merge, replaced_cons_ne, replaced_cons_self hx, replaced_of_given hgiven]

/-- **A configuration that is read** from an object whose members fit is the merge of them. -/
theorem merge_of_decode {ms : List (Option String × Tree)} {c : Config}
    (hfits : ∀ key t, (some key, t) ∈ ms → Fits key t) (h : decode (.object ms) = .ok c) :
    ({} : Config).merge ms = c :=
  gather_eq (fun _ => rfl) (fun c _ t ms h => merge_unknown h c t ms)
    (fun _ _ _ _ _ _ hslot hfits hput hgiven => merge_known hslot hfits hput hgiven) hfits h

/-- A configuration that is read is legible, and repeats no key. -/
theorem legible_of_decode {ms : List (Option String × Tree)} {c : Config}
    (h : decode (.object ms) = .ok c) : Legible ms ∧ ∀ key, ¬Repeats key ms := by
  have hpolicy : ∀ ds, (some "security", .object ds) ∈ ms →
      ∃ p, Policy.decode (.object ds) = .ok p := by
    intro ds hmem
    obtain ⟨before, after, hput⟩ := gather_put h hmem rfl
    cases hdecode : Policy.decode (.object ds) with
    | ok p => exact ⟨p, rfl⟩
    | error f =>
      simp only [Config.slot, hdecode] at hput
      cases hput
  refine ⟨⟨gather_legible h, fun ds hmem => ?_, fun hmem => ?_⟩, ?_⟩
  · obtain ⟨p, hp⟩ := hpolicy ds hmem
    exact (Policy.legible_of_decode hp).1
  · obtain ⟨before, after, hput⟩ := gather_put h hmem rfl
    cases hput
  · rintro key (⟨hkey, hagain⟩ | ⟨ds, hmem, ⟨c, rfl⟩, hagain⟩)
    · have := (gather_given h key hkey).1
      omega
    · obtain ⟨p, hp⟩ := hpolicy ds hmem
      have := (Policy.legible_of_decode hp).2 c
      omega

/-- A member that fits is put in its place, unless it is a policy that repeats a key. -/
theorem put_error {c : Config} {slot : Slot Config} {t : Tree} {f : Fault}
    (hslot : slot ∈ slots) (hfit : Fits slot.key t)
    (hpolicy : ∀ ds, slot.key = "security" → t = .object ds → ∀ d ∈ ds, d.1 ≠ none)
    (hlocale : slot.key = "defaultLocale" → t ≠ .text none) (hput : slot.put c t = .error f) :
    ∃ ds key, slot.key = "security" ∧ t = .object ds ∧ f = .twice (Policy.key key) ∧
      1 < given (Policy.key key) ds := by
  simp only [slots, List.mem_cons, List.not_mem_nil, or_false] at hslot
  rcases hslot with rfl | rfl | rfl | rfl | rfl | rfl
  · obtain ⟨b, rfl⟩ := hfit.omitXmlDeclaration rfl
    cases hput
  · obtain ⟨n, hn⟩ := hfit.maxVariables rfl
    simp [Config.slot, hn, wanted, Except.map] at hput
  · obtain ⟨b, rfl⟩ := hfit.exslt rfl
    cases hput
  · obtain ⟨ds, rfl, hdecisions⟩ := hfit.security rfl
    cases hread : Policy.decode (.object ds) with
    | ok p =>
      simp only [Config.slot, hread] at hput
      cases hput
    | error f' =>
      simp only [Config.slot, hread] at hput
      cases hput
      obtain ⟨key, hf, hagain⟩ := Policy.twice_of_decode hdecisions (hpolicy ds rfl rfl) hread
      exact ⟨ds, key, rfl, rfl, hf, hagain⟩
  · rcases hfit.fetchTimeoutMs rfl with rfl | ⟨n, hn⟩
    · cases hput
    · obtain ⟨o, hsome⟩ := Tree.optional?_of_some hn
      simp [Config.slot, hsome, wanted, Except.map] at hput
  · rcases hfit.defaultLocale rfl with rfl | ⟨_ | s, rfl⟩
    · cases hput
    · exact absurd rfl (hlocale rfl)
    · cases hput

/-- Where the members fit and are legible, only a key given twice is at fault. -/
theorem repeats_of_decode {ms : List (Option String × Tree)} {f : Fault}
    (hfits : ∀ key t, (some key, t) ∈ ms → Fits key t) (hlegible : Legible ms)
    (h : decode (.object ms) = .error f) : ∃ key, f = .twice key ∧ Repeats key ms := by
  rcases gather_error h with
    ⟨-, m, hm, hkey⟩ | ⟨name, hname, rfl, ⟨hseen, -⟩ | hagain⟩ |
      ⟨name, t, slot, c, hmem, hslot, hput⟩
  · exact absurd hkey (hlegible.keys m hm)
  · cases hseen
  · exact ⟨name, rfl, .inl ⟨hname, hagain⟩⟩
  · obtain ⟨hslots, rfl⟩ := mem_keys hslot
    obtain ⟨ds, key, hsecurity, rfl, rfl, hagain⟩ := put_error hslots (hfits _ t hmem)
      (fun ds hsecurity ht => hlegible.policy ds (hsecurity ▸ ht ▸ hmem))
      (fun hlocale ht => hlegible.locale (hlocale ▸ ht ▸ hmem)) hput
    rw [hsecurity] at hmem
    exact ⟨_, rfl, .inr ⟨ds, hmem, ⟨key, rfl⟩, hagain⟩⟩

theorem settles {text : String} {t : Tree} (h : Document text t) :
    Settles (Config.parse text) (decode t) := .of_document takes h

/-- **What comes of an object.** It is merged over the defaults, member by member, if its members
are of the right types, its keys denote texts and none of them is repeated. A key that is repeated
is an error, and the one that is named where nothing else is amiss. -/
theorem parse_object {text : String} {ms : List (Option String × Tree)}
    (h : Document text (.object ms)) :
    ((∀ key t, (some key, t) ∈ ms → Fits key t) → Legible ms → (∀ key, ¬Repeats key ms) →
      Config.parse text = .ok (({} : Config).merge ms)) ∧
    ((∀ key t, (some key, t) ∈ ms → Fits key t) → Legible ms → (∃ key, Repeats key ms) →
      ∃ key position, Repeats key ms ∧
        Config.parse text = .error ⟨.duplicateField key, position⟩) ∧
    ((∃ key, Repeats key ms) → ∃ e, Config.parse text = .error e) ∧
    (¬Legible ms → ∃ e, Config.parse text = .error e) := by
  have hsettles := settles h
  cases hdecode : decode (.object ms) with
  | ok c =>
    obtain ⟨hlegible, hdistinct⟩ := legible_of_decode hdecode
    rw [hdecode] at hsettles
    refine ⟨fun hfits _ _ => ?_, fun _ _ hrepeats => ?_, fun hrepeats => ?_, fun hnot => ?_⟩
    · rw [merge_of_decode hfits hdecode]
      exact hsettles
    · exact absurd hrepeats (not_exists.2 hdistinct)
    · exact absurd hrepeats (not_exists.2 hdistinct)
    · exact absurd hlegible hnot
  | error f =>
    rw [hdecode] at hsettles
    have herror : ∃ e, Config.parse text = .error e := by
      cases f with
      | misfit => exact hsettles
      | twice key => exact hsettles.imp' (⟨.duplicateField key, ·⟩) fun _ => id
    refine ⟨fun hfits hlegible hdistinct => ?_, fun hfits hlegible _ => ?_, fun _ => herror,
      fun _ => herror⟩
    · obtain ⟨key, -, hrepeats⟩ := repeats_of_decode hfits hlegible hdecode
      exact absurd hrepeats (hdistinct key)
    · obtain ⟨key, rfl, hrepeats⟩ := repeats_of_decode hfits hlegible hdecode
      obtain ⟨position, hparse⟩ := hsettles
      exact ⟨key, position, hrepeats, hparse⟩

/-! ### A text with an escape in a key, an unknown member and a part of a policy -/

/-- A text in which nothing is escaped. -/
def plainly (cs : List Char)
    (h : (cs.all fun c => c != '"' && c != '\\' && !isControl c) = true) : List Piece :=
  cs.pmap Piece.plain (by simpa [and_assoc] using h)

def sampleText : String :=
  "\x7b \"ex\\u0073lt\":false,\"x\":[null],\"security\":\x7b\"read_network\":\"forbid\"\x7d\x7d"

def sample : List (Option String × Tree) :=
  [(some "exslt", .boolean false), (some "x", .list [.null]),
    (some "security", .object [(some "read_network", .text (some "forbid"))])]

theorem document_sample : Document sampleText (.object sample) := by
  have hlist : ∀ rest, Spelled (.value (.list [.null]))
      ('[' :: ("null".toList ++ ']' :: rest)) rest :=
    fun _ => .list (.refl _) (.oneElement (.null _)) (.refl _)
  have hpolicy := Spelled.object (.refl _) (.oneMember
    (.member (plainly "read_network".toList rfl) (.refl _) (.refl _)
      (.text (plainly "forbid".toList rfl) ['}', '}']))) (.refl _)
  have hmembers := Spelled.moreMembers
    (.member (plainly "ex".toList rfl ++
        .unit '0' '0' '7' '3' 0x73 rfl :: plainly "lt".toList rfl)
      (.refl _) (.refl _) (.boolean false _)) (.refl _) (.refl _)
    (.moreMembers (.member (plainly "x".toList rfl) (.refl _) (.refl _) (hlist _))
      (.refl _) (.refl _)
      (.oneMember (.member (plainly "security".toList rfl) (.refl _) (.refl _) hpolicy)))
  exact ⟨_, [], ⟨[], rfl, by simp⟩, .object ⟨[' '], rfl, by simp⟩ hmembers (.refl _), .refl _⟩

theorem fits_sample : ∀ key t, (some key, t) ∈ sample → Fits key t := by
  intro key t hmem
  simp only [sample, List.mem_cons, Prod.mk.injEq, Option.some.injEq, List.not_mem_nil,
    or_false] at hmem
  rcases hmem with ⟨rfl, rfl⟩ | ⟨rfl, rfl⟩ | ⟨rfl, rfl⟩ <;> constructor <;> simp [Policy.Fits]

theorem legible_sample : Legible sample := by
  constructor <;> simp [sample]

theorem not_repeats_sample (key : String) : ¬Repeats key sample := by
  have hkeys : ∀ key ∈ Config.keys, given key sample ≤ 1 := by decide
  rintro (⟨hkey, h⟩ | ⟨ds, hmem, ⟨c, rfl⟩, h⟩)
  · exact absurd h (Nat.not_lt.2 (hkeys key hkey))
  · simp only [sample, List.mem_cons, Prod.mk.injEq, Option.some.injEq, Tree.object.injEq,
      List.not_mem_nil, or_false, reduceCtorEq, and_false, false_or] at hmem
    obtain ⟨-, rfl⟩ := hmem
    cases c <;> simp [given, Policy.key] at h

theorem parse_object_sample : Document sampleText (.object sample) ∧
    (∀ key t, (some key, t) ∈ sample → Fits key t) ∧ Legible sample ∧
    (∀ key, ¬Repeats key sample) ∧ Config.parse sampleText =
      .ok { exslt := false, security := Policy.standard.set .readNetwork .forbid } :=
  ⟨document_sample, fits_sample, legible_sample, not_repeats_sample,
    (parse_object document_sample).1 fits_sample legible_sample not_repeats_sample⟩

/-- A key that denotes no text is an error, also if nothing asks for it, and so is such a locale. -/
theorem parse_unpaired :
    (Document "\x7b\"\\ud800\":null\x7d" (.object [(none, .null)]) ∧
      (∀ key t, (some key, t) ∈ [((none : Option String), Tree.null)] → Fits key t) ∧
      (∀ key, ¬Repeats key [(none, .null)]) ∧
      ¬∃ c, Config.parse "\x7b\"\\ud800\":null\x7d" = .ok c) ∧
    (Document "\x7b\"defaultLocale\":\"\\ud800\"\x7d"
        (.object [(some "defaultLocale", .text none)]) ∧
      (∀ key t, (some key, t) ∈ [(some "defaultLocale", Tree.text none)] → Fits key t) ∧
      (∀ key, ¬Repeats key [(some "defaultLocale", .text none)]) ∧
      ¬∃ c, Config.parse "\x7b\"defaultLocale\":\"\\ud800\"\x7d" = .ok c) := by
  have hsingle : ∀ m : Option String × Tree, (∀ ds, m.2 ≠ .object ds) →
      ∀ key, ¬Repeats key [m] := by
    rintro ⟨k, t⟩ ht key (⟨-, h⟩ | ⟨ds, h, -⟩)
    · rw [given_cons] at h
      have hnil : given key [] = 0 := rfl
      split at h <;> omega
    · simp only [List.mem_singleton, Prod.mk.injEq] at h
      exact ht ds h.2.symm
  refine ⟨⟨?_, by simp, hsingle _ nofun, ?_⟩, ?_, ?_, hsingle _ nofun, ?_⟩
  · exact ⟨_, [], .refl _, .object (.refl _) (.oneMember (.member
      [.unit 'd' '8' '0' '0' 0xD800 rfl] (.refl _) (.refl _) (.null ['}']))) (.refl _), .refl _⟩
  · have herror : Config.parse "\x7b\"\\ud800\":null\x7d" = .error ⟨.endOfEscape, ⟨1, 9⟩⟩ := by
      rfl
    rintro ⟨c, h⟩
    rw [herror] at h
    cases h
  · exact ⟨_, [], .refl _, .object (.refl _) (.oneMember (.member
      (plainly "defaultLocale".toList rfl) (.refl _) (.refl _)
      (.text [.unit 'd' '8' '0' '0' 0xD800 rfl] ['}']))) (.refl _), .refl _⟩
  · intro key t hmem
    simp only [List.mem_singleton, Prod.mk.injEq, Option.some.injEq] at hmem
    obtain ⟨rfl, rfl⟩ := hmem
    constructor <;> simp
  · have herror : Config.parse "\x7b\"defaultLocale\":\"\\ud800\"\x7d" =
        .error ⟨.endOfEscape, ⟨1, 25⟩⟩ := by
      rfl
    rintro ⟨c, h⟩
    rw [herror] at h
    cases h

end Config

end StyleHost
