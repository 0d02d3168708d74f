import Mathlib.Tactic.SplitIfs
import StyleHost.Proofs.Record
import StyleHost.Result.Plain
import StyleHost.Transform.Host

/-!
# Every HTML result declares its encoding

What counts as HTML is one notion for the media type and for the encoding: the method that counts.
An element is put in where a result is HTML, has a head, and no element of the head declares an
encoding. The one that is put in declares it, so nothing is put in twice.

* `Meta.Declares` : an element declares an encoding.
* `ResultTree.Silent` : a tree lacks a declaration.
* `ResultTree.KeepsHead` : the contract of a head. An element that is put in comes first, and
  nothing else changes.
* `ResultTree.Gives` : what declaring the encoding of a tree gives.
* `ResultTree.encoding_settled` : it is given just where it is lacking, and given once.
-/

namespace StyleHost

/-- An element declares an encoding: by its character set, or by standing for the header that holds
it, in any case. -/
def Meta.Declares (m : Meta) : Prop :=
  m.charset ≠ none ∨
    ∃ header, m.httpEquiv = some header ∧
      header.toList.map Text.lowerAscii = "content-type".toList

theorem Meta.declaresEncoding_iff {m : Meta} : m.declaresEncoding = true ↔ m.Declares := by
  have hname : "Content-Type".toList.map Text.lowerAscii = "content-type".toList := by decide
  simp only [declaresEncoding, Declares, Bool.or_eq_true, Option.isSome_iff_ne_none,
    Option.any_eq_true, Text.eqIgnoreCase_iff, hname]

namespace ResultTree

variable {T : Type} [ResultTree T] {tree tree' : T} {encoding? : Option String}
  {metas : List Meta}

/-- The element that is put in front of the others. -/
def declaration : Meta := ⟨none, some "Content-Type"⟩

theorem declares_declaration : declaration.Declares := by
  rw [← Meta.declaresEncoding_iff]
  decide

/-- An HTML tree with a head in which nothing declares an encoding. -/
structure Silent (tree : T) (encoding? : Option String) (metas : List Meta) : Prop where
  html : mediaType tree = .ok .html
  encoding : ResultTree.encoding? tree = .ok encoding?
  head : metas? tree = .ok (some metas)
  silent : ∀ m ∈ metas, ¬ m.Declares

/-- The contract of the head of a tree: an element that is put in stands for the header of the given
name and has no character set; it comes first, and all else stays. -/
structure KeepsHead (tree : T) : Prop where
  prependMeta : ∀ metas httpEquiv content, metas? tree = .ok (some metas) →
    ∃ tree', prependMeta tree httpEquiv content = .ok tree' ∧
      metas? tree' = .ok (some (⟨none, some httpEquiv⟩ :: metas)) ∧
      method? tree' = method? tree ∧ isHtmlDocument tree' = isHtmlDocument tree ∧
      ResultTree.encoding? tree' = ResultTree.encoding? tree

theorem Silent.unique {encoding₁ encoding₂ : Option String} {metas₁ metas₂ : List Meta}
    (h₁ : Silent tree encoding₁ metas₁) (h₂ : Silent tree encoding₂ metas₂) :
    encoding₁ = encoding₂ ∧ metas₁ = metas₂ := by
  have hencoding := h₁.encoding.symm.trans h₂.encoding
  have hhead := h₁.head.symm.trans h₂.head
  exact ⟨Except.ok.inj hencoding, Option.some.inj (Except.ok.inj hhead)⟩

/-! ### One notion of HTML -/

theorem ofMethod_eq_html_iff {method? : Option String} :
    MediaType.ofMethod method? = .html ↔ method? = some "html" := by
  unfold MediaType.ofMethod
  split <;> simp_all

theorem mediaType_eq_html_iff :
    mediaType tree = .ok .html ↔ effectiveMethod tree = .ok (some "html") := by
  unfold mediaType
  cases effectiveMethod tree with
  | error cause => exact ⟨nofun, nofun⟩
  | ok method? =>
    show Except.ok (MediaType.ofMethod method?) = .ok .html ↔ _
    simp [ofMethod_eq_html_iff]

/-! ### What is lacking -/

theorem bind_eq_ok_iff {α β : Type} {x : Except Panic α} {f : α → Except Panic β} {b : β} :
    (x >>= f) = .ok b ↔ ∃ a, x = .ok a ∧ f a = .ok b := by
  cases x with
  | error cause => exact ⟨nofun, nofun⟩
  | ok a =>
    constructor
    · intro h
      exact ⟨a, rfl, h⟩
    · rintro ⟨_, ⟨⟩, h⟩
      exact h

/-- The content of the element that a head lacks, if there is a head and it lacks one. -/
def lacking (encoding? : Option String) (head? : Option (List Meta)) : Option String :=
  head?.bind fun metas =>
    if metas.any Meta.declaresEncoding then none else some (encodingContent encoding?)

theorem lacking_eq_some_iff {head? : Option (List Meta)} {content : String} :
    lacking encoding? head? = some content ↔
      (∃ metas, head? = some metas ∧ ∀ m ∈ metas, ¬ m.Declares) ∧
        encodingContent encoding? = content := by
  cases head? with
  | none => simp [lacking]
  | some metas => simp [lacking, ← Meta.declaresEncoding_iff]

/-- **What a tree lacks.** Only a tree that is HTML is asked for its encoding and its head. -/
theorem missingDeclaration_eq_ok_iff {content? : Option String} :
    missingDeclaration tree = .ok content? ↔
      ∃ method?, effectiveMethod tree = .ok method? ∧
        if method? = some "html" then
          ∃ encoding? head?, ResultTree.encoding? tree = .ok encoding? ∧
            metas? tree = .ok head? ∧ lacking encoding? head? = content?
        else none = content? := by
  rw [missingDeclaration, bind_eq_ok_iff]
  refine exists_congr fun method? => and_congr_right fun _ => ?_
  split_ifs
  · simp only [bind_eq_ok_iff, exists_and_left]
    refine exists_congr fun encoding? => and_congr_right fun _ => exists_congr fun head? =>
      and_congr_right fun _ => ?_
    cases head? <;> exact Iff.of_eq (Except.ok.injEq _ _)
  · exact Iff.of_eq (Except.ok.injEq _ _)

/-- Something is lacking just in a silent tree. -/
theorem missingDeclaration_eq_some_iff {content : String} :
    missingDeclaration tree = .ok (some content) ↔
      ∃ encoding? metas, Silent tree encoding? metas ∧ encodingContent encoding? = content := by
  rw [missingDeclaration_eq_ok_iff]
  constructor
  · rintro ⟨method?, hmethod, h⟩
    split_ifs at h with hhtml
    obtain ⟨encoding?, head?, hencoding, hhead, hlacking⟩ := h
    obtain ⟨⟨metas, rfl, hsilent⟩, hcontent⟩ := lacking_eq_some_iff.1 hlacking
    subst hhtml
    exact ⟨encoding?, metas, ⟨mediaType_eq_html_iff.2 hmethod, hencoding, hhead, hsilent⟩, hcontent⟩
  · rintro ⟨encoding?, metas, h, hcontent⟩
    refine ⟨some "html", mediaType_eq_html_iff.1 h.html, ?_⟩
    rw [if_pos rfl]
    exact ⟨encoding?, some metas, h.encoding, h.head,
      lacking_eq_some_iff.2 ⟨⟨metas, rfl, h.silent⟩, hcontent⟩⟩

/-- The questions that are asked of a tree are answered. -/
structure Answers (tree : T) : Prop where
  method : ∃ method?, effectiveMethod tree = .ok method?
  encoding : mediaType tree = .ok .html → ∃ encoding?, ResultTree.encoding? tree = .ok encoding?
  head : mediaType tree = .ok .html → ∃ head?, metas? tree = .ok head?

theorem answers_iff : Answers tree ↔ ∃ content?, missingDeclaration tree = .ok content? := by
  simp only [missingDeclaration_eq_ok_iff]
  constructor
  · intro h
    obtain ⟨method?, hmethod⟩ := h.method
    by_cases hhtml : method? = some "html"
    · subst hhtml
      obtain ⟨encoding?, hencoding⟩ := h.encoding (mediaType_eq_html_iff.2 hmethod)
      obtain ⟨head?, hhead⟩ := h.head (mediaType_eq_html_iff.2 hmethod)
      exact ⟨_, _, hmethod, by rw [if_pos rfl]; exact ⟨encoding?, head?, hencoding, hhead, rfl⟩⟩
    · exact ⟨none, _, hmethod, by rw [if_neg hhtml]⟩
  · rintro ⟨content?, method?, hmethod, h⟩
    have hasked : mediaType tree = .ok .html → ∃ encoding? head?,
        ResultTree.encoding? tree = .ok encoding? ∧ metas? tree = .ok head? := by
      intro hhtml
      rw [mediaType_eq_html_iff, hmethod] at hhtml
      rw [if_pos (Except.ok.inj hhtml)] at h
      obtain ⟨encoding?, head?, hencoding, hhead, -⟩ := h
      exact ⟨encoding?, head?, hencoding, hhead⟩
    refine ⟨⟨method?, hmethod⟩, fun hhtml => ?_, fun hhtml => ?_⟩
    · obtain ⟨encoding?, -, hencoding, -⟩ := hasked hhtml
      exact ⟨encoding?, hencoding⟩
    · obtain ⟨-, head?, -, hhead⟩ := hasked hhtml
      exact ⟨head?, hhead⟩

/-! ### What is given -/

/-- Declaring the encoding of `tree` gives `tree'`, with an element put in or without. -/
def Gives (A : Type) (tree tree' : T) (inserted : Bool) : Prop :=
  (declareEncoding tree : WorkM A (T × Bool)).run.run.value = .ok (.ok (tree', inserted))

theorem gives_iff {A : Type} {inserted : Bool} :
    Gives A tree tree' inserted ↔ ∃ content?, missingDeclaration tree = .ok content? ∧
      match content? with
      | none => tree' = tree ∧ inserted = false
      | some content =>
        ResultTree.prependMeta tree "Content-Type" content = .ok tree' ∧ inserted = true := by
  unfold Gives declareEncoding
  rw [WorkM.value_ofExcept_bind]
  cases hmissing : missingDeclaration tree with
  | error cause => simp
  | ok content? =>
    cases content? with
    | none =>
      show Except.ok (Except.ok (tree, false)) = .ok (.ok (tree', inserted)) ↔ _
      simp [eq_comm]
    | some content =>
      show (WorkM.note (.insertingMeta content) >>= fun _ => _ : WorkM A _).run.run.value = _ ↔ _
      rw [WorkM.value_note_bind, WorkM.value_ofExcept_bind]
      cases hprepend : ResultTree.prependMeta tree "Content-Type" content with
      | error cause => simp [hprepend]
      | ok next =>
        show Except.ok (Except.ok (next, true)) = .ok (.ok (tree', inserted)) ↔ _
        simp [hprepend, eq_comm]

theorem gives_true_iff {A : Type} : Gives A tree tree' true ↔ ∃ encoding? metas,
    Silent tree encoding? metas ∧
      ResultTree.prependMeta tree "Content-Type" (encodingContent encoding?) = .ok tree' := by
  rw [gives_iff]
  constructor
  · rintro ⟨content?, hmissing, hcontent⟩
    cases content? with
    | none => simp at hcontent
    | some content =>
      obtain ⟨encoding?, metas, hsilent, rfl⟩ := missingDeclaration_eq_some_iff.1 hmissing
      exact ⟨encoding?, metas, hsilent, hcontent.1⟩
  · rintro ⟨encoding?, metas, hsilent, hprepend⟩
    exact ⟨_, missingDeclaration_eq_some_iff.2 ⟨encoding?, metas, hsilent, rfl⟩, hprepend, rfl⟩

theorem gives_false_iff {A : Type} :
    Gives A tree tree' false ↔ missingDeclaration tree = .ok none ∧ tree' = tree := by
  rw [gives_iff]
  constructor
  · rintro ⟨content?, hmissing, hcontent⟩
    cases content? with
    | none => exact ⟨hmissing, hcontent.1⟩
    | some content => simp at hcontent
  · rintro ⟨hmissing, htree⟩
    exact ⟨none, hmissing, htree, rfl⟩

/-- An element with the encoding of a tree, or with UTF-8, has been put in front of those in its
head. -/
structure Inserted (tree tree' : T) (encoding? : Option String) (metas : List Meta) : Prop where
  prepended : ResultTree.prependMeta tree "Content-Type"
    ("text/html; charset=" ++ encoding?.getD "UTF-8") = .ok tree'
  metas : metas? tree' = .ok (some (declaration :: metas))

/-- A tree after its encoding was declared: an HTML tree with a head has a declaration there, the
media type is what it was, and to declare the encoding once more changes nothing. -/
structure Settled (A : Type) (tree tree' : T) : Prop where
  mediaType_eq : mediaType tree' = mediaType tree
  declares : mediaType tree' = .ok .html → ∀ metas, metas? tree' = .ok (some metas) →
    ∃ m ∈ metas, m.Declares
  again : ∀ next inserted, Gives A tree' next inserted ↔ next = tree' ∧ inserted = false

theorem settled_of_none {A : Type} (h : missingDeclaration tree = .ok none) :
    Settled A tree tree where
  mediaType_eq := rfl
  declares hhtml metas hhead := by
    obtain ⟨method?, hmethod, hasked⟩ := missingDeclaration_eq_ok_iff.1 h
    rw [mediaType_eq_html_iff, hmethod] at hhtml
    rw [if_pos (Except.ok.inj hhtml)] at hasked
    obtain ⟨encoding?, head?, -, hhead', hlacking⟩ := hasked
    obtain rfl : head? = some metas := Except.ok.inj (hhead'.symm.trans hhead)
    by_cases hdeclares : ∃ m ∈ metas, m.Declares
    · exact hdeclares
    · have hsome : lacking encoding? (some metas) = some (encodingContent encoding?) :=
        lacking_eq_some_iff.2 ⟨⟨metas, rfl, by simpa using hdeclares⟩, rfl⟩
      simp [hlacking] at hsome
  again next inserted := by
    rw [gives_iff]
    simp [h]

section Contract

variable {A : Type} (h : KeepsHead tree)

include h

/-- **The element that is put in** is found by the search for a declaration. -/
theorem KeepsHead.inserted (hsilent : Silent tree encoding? metas)
    (hprepend : ResultTree.prependMeta tree "Content-Type" (encodingContent encoding?) =
      .ok tree') : Inserted tree tree' encoding? metas ∧ Settled A tree tree' := by
  obtain ⟨next, hnext, hkept⟩ :=
    h.prependMeta metas "Content-Type" (encodingContent encoding?) hsilent.head
  have heq : next = tree' := Except.ok.inj (hnext.symm.trans hprepend)
  rw [heq] at hkept
  obtain ⟨hmetas, hmethod, hdocument, hencoding⟩ := hkept
  have hmethod' : effectiveMethod tree' = effectiveMethod tree := by
    rw [effectiveMethod, effectiveMethod, hmethod, hdocument]
  have htype : mediaType tree' = mediaType tree := by rw [mediaType, mediaType, hmethod']
  have hlacking : lacking encoding? (some (declaration :: metas)) = none := by
    rw [Option.eq_none_iff_forall_ne_some]
    intro content hcontent
    obtain ⟨⟨_, ⟨⟩, hall⟩, -⟩ := lacking_eq_some_iff.1 hcontent
    exact hall declaration List.mem_cons_self declares_declaration
  have hnone : missingDeclaration tree' = .ok none := by
    refine missingDeclaration_eq_ok_iff.2
      ⟨some "html", by rw [hmethod', mediaType_eq_html_iff.1 hsilent.html], ?_⟩
    rw [if_pos rfl]
    exact ⟨encoding?, some (declaration :: metas), hencoding.trans hsilent.encoding, hmetas,
      hlacking⟩
  have hsettled : Settled A tree' tree' := settled_of_none hnone
  exact ⟨⟨hprepend, hmetas⟩, htype, hsettled.declares, hsettled.again⟩

theorem KeepsHead.exists_gives (hsilent : Silent tree encoding? metas) :
    ∃ tree', Gives A tree tree' true := by
  obtain ⟨tree', hprepend, -⟩ :=
    h.prependMeta metas "Content-Type" (encodingContent encoding?) hsilent.head
  exact ⟨tree', gives_true_iff.2 ⟨encoding?, metas, hsilent, hprepend⟩⟩

theorem KeepsHead.settled {inserted : Bool} (hgives : Gives A tree tree' inserted) :
    Settled A tree tree' := by
  cases inserted with
  | true =>
    obtain ⟨encoding?, metas, hsilent, hprepend⟩ := gives_true_iff.1 hgives
    exact (h.inserted hsilent hprepend).2
  | false =>
    obtain ⟨hmissing, rfl⟩ := gives_false_iff.1 hgives
    exact settled_of_none hmissing

theorem KeepsHead.exists_gives_iff :
    (∃ tree' inserted, Gives A tree tree' inserted) ↔ Answers tree := by
  rw [answers_iff]
  constructor
  · rintro ⟨tree', inserted, hgives⟩
    obtain ⟨content?, hmissing, -⟩ := gives_iff.1 hgives
    exact ⟨content?, hmissing⟩
  · rintro ⟨content?, hmissing⟩
    cases content? with
    | none => exact ⟨tree, false, gives_false_iff.2 ⟨hmissing, rfl⟩⟩
    | some content =>
      obtain ⟨encoding?, metas, hsilent, -⟩ := missingDeclaration_eq_some_iff.1 hmissing
      obtain ⟨tree', hgives⟩ := h.exists_gives hsilent
      exact ⟨tree', true, hgives⟩

end Contract

/-- To declare the encoding of a tree is no exchange with the engine. -/
theorem not_mem_exchanges_declareEncoding {A : Type} (tree : T) (told : A) :
    told ∉ (declareEncoding tree : WorkM A _).run.exchanges := by
  intro h
  obtain h | ⟨content?, -, h⟩ := WorkM.mem_exchanges_bind.1 h
  · exact List.not_mem_nil h
  cases content? with
  | none => exact List.not_mem_nil h
  | some content =>
    obtain h | ⟨-, -, h⟩ := WorkM.mem_exchanges_bind.1 h
    · exact List.not_mem_nil h
    obtain h | ⟨next, -, h⟩ := WorkM.mem_exchanges_bind.1 h
    · exact List.not_mem_nil h
    · exact List.not_mem_nil h

/-- **What is serialized in a run** is the tree that declaring its encoding gives. -/
theorem gives_of_serialized {X I D : Type}
    (h : .serialized tree' ∈ (Host.deliver tree : WorkM (Exchange X I D T) _).run.exchanges) :
    ∃ inserted, Gives (Exchange X I D T) tree tree' inserted := by
  obtain h | ⟨type, -, h⟩ := WorkM.mem_exchanges_bind.1 h
  · exact absurd h List.not_mem_nil
  obtain h | ⟨⟨next, inserted⟩, hgives, h⟩ := WorkM.mem_exchanges_bind.1 h
  · exact absurd h (not_mem_exchanges_declareEncoding _ _)
  refine ⟨inserted, ?_⟩
  obtain h | ⟨-, -, h⟩ := WorkM.mem_exchanges_bind.1 h
  · obtain ⟨⟩ : Exchange.serialized tree' = .serialized next := List.mem_singleton.1 h
    exact hgives
  obtain h | ⟨result, -, h⟩ := WorkM.mem_exchanges_bind.1 h
  · exact absurd h List.not_mem_nil
  · cases result <;> exact absurd h List.not_mem_nil

/-- **The encoding of a result is declared once.** Declaring it puts an element in just if the
result is HTML, has a head, and nothing in the head declares an encoding; the element holds the
declared encoding or UTF-8 and comes before the others. All other trees stay as they are. Whatever
was done, the result is settled, as is each tree that a run serializes. Nothing comes of a tree only
if it does not answer. -/
theorem encoding_settled {X I D : Type} (h : KeepsHead tree) :
    ((∃ tree', Gives (Exchange X I D T) tree tree' true) ↔
      ∃ encoding? metas, Silent tree encoding? metas) ∧
    (∀ tree' encoding? metas, Gives (Exchange X I D T) tree tree' true →
      Silent tree encoding? metas → Inserted tree tree' encoding? metas) ∧
    (∀ tree', Gives (Exchange X I D T) tree tree' false → tree' = tree) ∧
    (∀ tree' inserted, Gives (Exchange X I D T) tree tree' inserted →
      Settled (Exchange X I D T) tree tree') ∧
    (∀ tree', .serialized tree' ∈ (Host.deliver tree : WorkM (Exchange X I D T) _).run.exchanges →
      Settled (Exchange X I D T) tree tree') ∧
    ((∃ tree' inserted, Gives (Exchange X I D T) tree tree' inserted) ↔ Answers tree) := by
  refine ⟨⟨?_, ?_⟩, ?_, fun tree' hgives => (gives_false_iff.1 hgives).2,
    fun tree' inserted => h.settled, ?_, h.exists_gives_iff⟩
  · rintro ⟨tree', hgives⟩
    obtain ⟨encoding?, metas, hsilent, -⟩ := gives_true_iff.1 hgives
    exact ⟨encoding?, metas, hsilent⟩
  · rintro ⟨encoding?, metas, hsilent⟩
    exact h.exists_gives hsilent
  · intro tree' encoding? metas hgives hsilent
    obtain ⟨encoding', metas', hsilent', hprepend⟩ := gives_true_iff.1 hgives
    obtain ⟨rfl, rfl⟩ := hsilent.unique hsilent'
    exact (h.inserted (A := Exchange X I D T) hsilent hprepend).1
  · intro tree' hserialized
    obtain ⟨inserted, hgives⟩ := gives_of_serialized hserialized
    exact h.settled hgives

theorem keepsHead_plain (tree : PlainTree) : KeepsHead tree where
  prependMeta metas httpEquiv content hmetas := by
    refine ⟨_, rfl, ?_, rfl, rfl, rfl⟩
    cases hhead : tree.head with
    | none => simp [metas?, hhead] at hmetas
    | some head =>
      simp only [metas?, hhead, Option.map_some, Except.ok.injEq, Option.some.injEq] at hmetas
      simp [metas?, hmetas]

/-- An HTML document in Latin-1 that only asks to be loaded again. -/
def refreshingTree : PlainTree where
  encoding := some "ISO-8859-1"
  isHtml := true
  head := some [⟨⟨none, some "refresh"⟩, some "5"⟩]

theorem silent_refreshingTree :
    Silent refreshingTree (some "ISO-8859-1") [⟨none, some "refresh"⟩] where
  html := rfl
  encoding := rfl
  head := rfl
  silent := by
    intro m hm
    rw [← Meta.declaresEncoding_iff, List.mem_singleton.1 hm]
    decide

theorem encoding_settled_refreshing : KeepsHead refreshingTree ∧
    ∃ tree', Gives (Exchange Unit Unit Unit PlainTree) refreshingTree tree' true ∧
      Inserted refreshingTree tree' (some "ISO-8859-1") [⟨none, some "refresh"⟩] ∧
      Settled (Exchange Unit Unit Unit PlainTree) refreshingTree tree' := by
  have hkeeps := keepsHead_plain refreshingTree
  obtain ⟨hgives, hinserted, -, hsettled, -⟩ :=
    @encoding_settled PlainTree _ _ Unit Unit Unit hkeeps
  obtain ⟨tree', h⟩ := hgives.2 ⟨_, _, silent_refreshingTree⟩
  exact ⟨hkeeps, tree', h, hinserted _ _ _ h silent_refreshingTree, hsettled _ _ h⟩

end ResultTree

end StyleHost
