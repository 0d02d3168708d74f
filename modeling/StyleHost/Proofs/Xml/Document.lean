import Mathlib.Tactic.SplitIfs
import StyleHost.Xml.Document

/-!
# The grammar of documents

A document is an element with some events around it that do not count, and an element is an empty
tag or content between two tags of one name. The check of a document only counts how many elements
are open, since the reader has already matched the tags. Together they recognize the grammar.

* `Xml.IsContent`, `Xml.IsElement`, `Document.IsDocument` : the grammar.
* `Xml.Matched` : closing tags have the names of what they close. The reader makes sure of it.
* `Document.check_eq_ok_iff` : what passes the check.
-/

namespace StyleHost

namespace Xml

variable {e : Event} {es rest inner : List Event} {opened outer final : List Bytes} {name : Bytes}

/-! ### The grammar -/

/-- An event that may stand around the outermost element. -/
def Event.isMisc : Event → Bool
  | .comment | .instruction _ _ | .declaration | .doctype => true
  | .text content => content.all Text.isAsciiSpace
  | _ => false

/-- An event that opens or closes an element that can have content. -/
def Event.isTag : Event → Bool
  | .openTag _ | .closeTag _ => true
  | _ => false

/-- What may stand between the tags of an element. -/
inductive IsContent : List Event → Prop
  | nil : IsContent []
  | leaf {e : Event} {rest : List Event} (he : e.isTag = false) (hrest : IsContent rest) :
    IsContent (e :: rest)
  | element {name : Bytes} {inner rest : List Event} (hinner : IsContent inner)
    (hrest : IsContent rest) : IsContent (.openTag name :: (inner ++ .closeTag name :: rest))

/-- The events of one element. -/
inductive IsElement : List Event → Prop
  | empty : IsElement [.emptyTag]
  | tagged {name : Bytes} {inner : List Event} (hinner : IsContent inner) :
    IsElement (.openTag name :: (inner ++ [.closeTag name]))

/-! ### Matching tags -/

/-- The names of the open elements after an event; a tag can only close the innermost of them. -/
def Event.openedBy (opened : List Bytes) : Event → Option (List Bytes)
  | .openTag name => some (name :: opened)
  | .closeTag name =>
    match opened with
    | [] => none
    | expected :: outer => if name = expected then some outer else none
  | _ => some opened

/-- Every closing tag among the events has the name of what it closes. -/
def Matched (opened : List Bytes) (es : List Event) (final : List Bytes) : Prop :=
  es.foldlM Event.openedBy opened = some final

@[simp]
theorem matched_nil : Matched opened [] final ↔ opened = final := Option.some_inj

theorem matched_cons : Matched opened (e :: rest) final ↔
    ∃ next, e.openedBy opened = some next ∧ Matched next rest final := by
  rw [Matched, List.foldlM_cons, Option.bind_eq_bind, Option.bind_eq_some_iff]
  rfl

theorem matched_append : Matched opened (es ++ rest) final ↔
    ∃ next, Matched opened es next ∧ Matched next rest final := by
  rw [Matched, List.foldlM_append, Option.bind_eq_bind, Option.bind_eq_some_iff]
  rfl

theorem openedBy_of_not_isTag (h : e.isTag = false) : e.openedBy opened = some opened := by
  cases e <;> first | rfl | cases h

theorem openedBy_closeTag_eq_some {next : List Bytes} :
    (Event.closeTag name).openedBy opened = some next ↔ opened = name :: next := by
  cases opened with
  | nil => simp [Event.openedBy]
  | cons expected outer =>
    simp only [Event.openedBy, Option.ite_none_right_eq_some, Option.some_inj, List.cons.injEq]
    exact and_congr_left fun _ => eq_comm

/-- Where an open element is closed, its content ends. -/
theorem Matched.split : ∀ {es : List Event} {outer : List Bytes} {name : Bytes},
    Matched (name :: outer) es final → final.length ≤ outer.length →
      ∃ inner rest, es = inner ++ .closeTag name :: rest ∧ IsContent inner ∧
        Matched outer rest final
  | [], outer, name, h, hlength => by
    rw [matched_nil] at h
    rw [← h, List.length_cons] at hlength
    exact absurd hlength (Nat.not_succ_le_self _)
  | e :: es, outer, name, h, hlength => by
    obtain ⟨next, he, hes⟩ := matched_cons.1 h
    by_cases htag : e.isTag = false
    · obtain rfl := Option.some.inj ((openedBy_of_not_isTag htag).symm.trans he)
      obtain ⟨inner, rest, rfl, hinner, hrest⟩ := hes.split hlength
      exact ⟨e :: inner, rest, rfl, .leaf htag hinner, hrest⟩
    cases e with
    | openTag inside =>
      -- first to the end of the element that is opened here, then on to the end of the outer one
      obtain rfl := Option.some.inj he
      obtain ⟨deep, after, hdeepEq, hdeep, hafter⟩ := hes.split (Nat.le_succ_of_le hlength)
      have hshorter : after.length < es.length := by
        rw [hdeepEq, List.length_append, List.length_cons]
        omega
      obtain ⟨inner, rest, rfl, hinner, hrest⟩ := hafter.split hlength
      exact ⟨.openTag inside :: (deep ++ .closeTag inside :: inner), rest, by simp [hdeepEq],
        .element hdeep hinner, hrest⟩
    | closeTag found =>
      obtain ⟨rfl, rfl⟩ := List.cons.inj (openedBy_closeTag_eq_some.1 he)
      exact ⟨[], es, rfl, .nil, hes⟩
    | _ => exact absurd rfl htag
  -- what is left after an inner element is not the tail of the events, but it is shorter
  termination_by es => es.length
  decreasing_by all_goals simp only [List.length_cons]; omega

/-! ### The reader matches tags -/

/-- A piece takes up some of the text, and its event leaves the elements open that the piece
says. -/
def PieceResult.Follows (opened : List Bytes) (result : PieceResult) : Prop :=
  ∀ piece, result = .ok piece → 0 < piece.size ∧ piece.event.openedBy opened = some piece.opened

theorem PieceResult.Follows.error {fault : Cause × Nat} :
    Follows opened (.error fault) := nofun

theorem PieceResult.Follows.ok {piece : Piece} (hsize : 0 < piece.size)
    (h : piece.event.openedBy opened = some piece.opened) : Follows opened (.ok piece) := by
  rintro _ ⟨⟩
  exact ⟨hsize, h⟩

theorem readBang_follows (body : Bytes) : (readBang opened body).Follows opened := by
  unfold readBang
  split
  · split_ifs
    · rw [readCdata]
      split
      · split_ifs
        · exact .ok (Nat.succ_pos _) rfl
        · exact .error
      · exact .error
    · rw [readComment]
      split
      · split_ifs
        · exact .ok (Nat.succ_pos _) rfl
        · exact .error
      · exact .error
    · rw [readDoctype]
      split
      · dsimp only
        split_ifs
        · exact .error
        · exact .error
        · exact .ok (Nat.succ_pos _) rfl
      · exact .error
    · exact .error
  · exact .error

theorem readInstruction_follows (body : Bytes) : (readInstruction opened body).Follows opened := by
  rw [readInstruction]
  split
  · split_ifs
    · exact .error
    · refine .ok (Nat.succ_pos _) (openedBy_of_not_isTag ?_)
      rw [instructionOf]
      split <;> rfl
  · exact .error

theorem closeOf_follows (content : Bytes) (size : Nat) :
    (closeOf opened content (size + 1)).Follows opened := by
  unfold closeOf
  split
  · exact .error
  · dsimp only
    split_ifs with hname
    · exact .ok (Nat.succ_pos _) (openedBy_closeTag_eq_some.2 (by rw [hname]))
    · exact .error

theorem readTag_follows (body : Bytes) : (readTag opened body).Follows opened := by
  have hopen : ∀ content size,
      PieceResult.Follows opened (.ok (openOf opened content (size + 1))) := by
    intro content size
    rw [openOf]
    split_ifs <;> exact .ok (Nat.succ_pos _) rfl
  rw [readTag]
  split
  · dsimp only
    split
    · split_ifs
      · exact closeOf_follows _ _
      · exact hopen _ _
    · exact hopen _ _
  · exact .error

theorem next_follows (b : UInt8) (rest : Bytes) : (next opened b rest).Follows opened := by
  rw [next]
  split_ifs
  · unfold readMarkup
    split
    · split_ifs
      · exact readBang_follows _
      · exact readInstruction_follows _
      · exact readTag_follows _
    · exact .error
  · unfold readReference
    dsimp only
    split_ifs
    · exact .ok (Nat.succ_pos _) rfl
    · exact .error
  · exact .ok (Nat.succ_pos _) rfl

/-- **The reader matches tags.** -/
theorem scanUpTo_matched (fuel offset : Nat) (opened : List Bytes) (text : Bytes) :
    ∃ final, Matched opened ((scanUpTo fuel offset opened text).events.map Located.event)
      final := by
  induction fuel generalizing offset opened text with
  | zero => exact ⟨opened, matched_nil.2 rfl⟩
  | succ fuel ih =>
    cases text with
    | nil => exact ⟨opened, matched_nil.2 rfl⟩
    | cons b rest =>
      rw [scanUpTo]
      cases hnext : next opened b rest with
      | error fault => exact ⟨opened, matched_nil.2 rfl⟩
      | ok piece =>
        -- the names that the reader keeps are the ones that the tags leave open
        obtain ⟨final, hfinal⟩ := ih (offset + piece.size) piece.opened
          ((b :: rest).drop piece.size)
        exact ⟨final, matched_cons.2 ⟨piece.opened, (next_follows b rest piece hnext).2, hfinal⟩⟩

/-- A text has no more events than bytes, so that the bound on their number never ends the
reading. -/
theorem scanUpTo_eq {fuel fuel' : Nat} {text : Bytes} (h : text.length ≤ fuel)
    (h' : text.length ≤ fuel') (offset : Nat) (opened : List Bytes) :
    scanUpTo fuel offset opened text = scanUpTo fuel' offset opened text := by
  induction fuel generalizing fuel' offset opened text with
  | zero =>
    obtain rfl := List.eq_nil_of_length_eq_zero (Nat.le_zero.1 h)
    cases fuel' <;> rfl
  | succ fuel ih =>
    cases text with
    | nil => cases fuel' <;> rfl
    | cons b rest =>
      obtain ⟨fuel', rfl⟩ := Nat.exists_eq_succ_of_ne_zero (Nat.ne_zero_of_lt h')
      rw [scanUpTo, scanUpTo]
      cases hnext : next opened b rest with
      | error fault => rfl
      | ok piece =>
        -- every piece takes up some of the text, so both bounds still reach to its end
        have hsize := (next_follows b rest piece hnext).1
        have hrest : ((b :: rest).drop piece.size).length ≤ rest.length := by
          rw [List.length_drop, List.length_cons]
          omega
        dsimp only
        rw [ih (Nat.le_trans hrest (Nat.le_of_succ_le_succ h))
          (Nat.le_trans hrest (Nat.le_of_succ_le_succ h'))]

/-- What a text is read as, apart from the places of the events. -/
def eventsOf (bytes : Bytes) : List Event := (scan bytes).events.map Located.event

theorem eventsOf_matched (bytes : Bytes) : ∃ final, Matched [] (eventsOf bytes) final :=
  scanUpTo_matched _ _ _ _

end Xml

namespace Document

open Xml (Matched IsContent IsElement)

variable {e : Xml.Event} {es before after : List Xml.Event} {opened final : List Bytes}
  {s s' : State}

/-- The events of a document: an element, and around it what may stand there. -/
def IsDocument (es : List Xml.Event) : Prop :=
  ∃ before element after, es = before ++ element ++ after ∧
    (∀ e ∈ before, e.isMisc = true) ∧ IsElement element ∧ ∀ e ∈ after, e.isMisc = true

/-! ### Checking without places -/

/-- The state after an event, wherever it stands. -/
def accept (s : State) (e : Xml.Event) : Option State := (step s ⟨e, 0⟩).toOption

/-- The check passes over events from one state to another. -/
def Accepts (s : State) (es : List Xml.Event) (s' : State) : Prop := es.foldlM accept s = some s'

theorem accepts_nil : Accepts s [] s' ↔ s = s' := Option.some_inj

theorem accepts_cons : Accepts s (e :: es) s' ↔
    ∃ next, accept s e = some next ∧ Accepts next es s' := by
  rw [Accepts, List.foldlM_cons, Option.bind_eq_bind, Option.bind_eq_some_iff]
  rfl

theorem accepts_append : Accepts s (before ++ after) s' ↔
    ∃ next, Accepts s before next ∧ Accepts next after s' := by
  rw [Accepts, List.foldlM_append, Option.bind_eq_bind, Option.bind_eq_some_iff]
  rfl

theorem step_eq_ok_iff {e : Xml.Located} : step s e = .ok s' ↔ accept s e.event = some s' := by
  have hplace : (step s e).toOption = accept s e.event := by
    obtain ⟨event, finish⟩ := e
    rw [accept]
    cases event with
    | openTag | emptyTag | text | cdata | reference => simp only [step]; split_ifs <;> rfl
    | closeTag | comment | instruction | declaration | doctype => rfl
  rw [← hplace]
  cases step s e with
  | ok next => exact ⟨congrArg Except.toOption, fun h => congrArg _ (Option.some.inj h)⟩
  | error fault => exact ⟨(nomatch ·), (nomatch ·)⟩

theorem foldlM_step_eq_ok_iff {es : List Xml.Located} :
    es.foldlM step s = .ok s' ↔ Accepts s (es.map Xml.Located.event) s' := by
  induction es generalizing s with
  | nil =>
    rw [List.map_nil, accepts_nil]
    exact ⟨Except.ok.inj, congrArg Except.ok⟩
  | cons e es ih =>
    rw [List.foldlM_cons, List.map_cons, accepts_cons]
    simp only [← step_eq_ok_iff, ← ih]
    cases step s e with
    | error fault => exact ⟨(nomatch ·), fun ⟨_, h, _⟩ => nomatch h⟩
    | ok next => exact ⟨fun h => ⟨next, rfl, h⟩, fun ⟨_, h, hes⟩ => Except.ok.inj h ▸ hes⟩

theorem finish_eq_ok_iff : finish s = .ok () ↔ s = ⟨0, true⟩ := by
  rcases s with ⟨_ | depth, met⟩
  · cases met
    · exact ⟨(nomatch ·), (nomatch ·)⟩
    · exact ⟨fun _ => rfl, fun _ => rfl⟩
  · exact ⟨(nomatch ·), (nomatch ·)⟩

/-! ### From the grammar to the check -/

/-- Inside of an element. -/
theorem accepts_content (h : IsContent es) (depth : Nat) :
    Accepts ⟨depth + 1, true⟩ es ⟨depth + 1, true⟩ := by
  induction h generalizing depth with
  | nil => exact accepts_nil.2 rfl
  | @leaf e rest he hrest ih =>
    have haccept : accept ⟨depth + 1, true⟩ e = some ⟨depth + 1, true⟩ := by
      cases e <;> first | rfl | cases he
    exact accepts_cons.2 ⟨_, haccept, ih depth⟩
  | element hinner hrest ihinner ihrest =>
    refine accepts_cons.2 ⟨⟨depth + 2, true⟩, rfl, accepts_append.2 ⟨_, ihinner _, ?_⟩⟩
    exact accepts_cons.2 ⟨⟨depth + 1, true⟩, rfl, ihrest depth⟩

theorem accepts_element (h : IsElement es) : Accepts start es ⟨0, true⟩ := by
  cases h with
  | empty => exact accepts_cons.2 ⟨_, rfl, accepts_nil.2 rfl⟩
  | tagged hinner =>
    refine accepts_cons.2 ⟨⟨1, true⟩, rfl, accepts_append.2 ⟨_, accepts_content hinner 0, ?_⟩⟩
    exact accepts_cons.2 ⟨⟨0, true⟩, rfl, accepts_nil.2 rfl⟩

/-- Around the outermost element. -/
theorem accepts_misc (h : ∀ e ∈ es, e.isMisc = true) (met : Bool) :
    Accepts ⟨0, met⟩ es ⟨0, met⟩ := by
  induction es with
  | nil => exact accepts_nil.2 rfl
  | cons e es ih =>
    have haccept : accept ⟨0, met⟩ e = some ⟨0, met⟩ := by
      have he := h e List.mem_cons_self
      cases e with
      | text content =>
        rw [Xml.Event.isMisc] at he
        simp [accept, step, he, Except.toOption]
      | openTag | emptyTag | closeTag | cdata | reference => cases he
      | comment | instruction | declaration | doctype => rfl
    exact accepts_cons.2 ⟨_, haccept, ih fun e he => h e (List.mem_cons_of_mem _ he)⟩

/-! ### From the check to the grammar -/

/-- What is accepted outside of all elements. -/
theorem accept_outside {met : Bool} (hopened : e.openedBy [] = some opened)
    (h : accept ⟨0, met⟩ e = some s) :
    (e.isMisc = true ∧ opened = [] ∧ s = ⟨0, met⟩) ∨
      met = false ∧ (e = .emptyTag ∧ opened = [] ∧ s = ⟨0, true⟩ ∨
        ∃ name, e = .openTag name ∧ opened = [name] ∧ s = ⟨1, true⟩) := by
  cases e with
  | openTag name =>
    cases met with
    | false => exact .inr ⟨rfl, .inr ⟨name, rfl, (Option.some.inj hopened).symm,
        (Option.some.inj h).symm⟩⟩
    | true => cases h
  | emptyTag =>
    cases met with
    | false => exact .inr ⟨rfl, .inl ⟨rfl, (Option.some.inj hopened).symm,
        (Option.some.inj h).symm⟩⟩
    | true => cases h
  | text content =>
    simp only [accept, step] at h
    split_ifs at h with hblank
    · cases h
    · exact .inl ⟨by simpa [Xml.Event.isMisc] using hblank, (Option.some.inj hopened).symm,
        (Option.some.inj h).symm⟩
  | closeTag => cases hopened
  | cdata | reference => cases h
  | comment | instruction | declaration | doctype =>
    exact .inl ⟨rfl, (Option.some.inj hopened).symm, (Option.some.inj h).symm⟩

/-- The check counts the elements that are open. -/
theorem depth_of_accept (hdepth : s.depth = opened.length) (h : accept s e = some s')
    (hopened : e.openedBy opened = some final) : s'.depth = final.length := by
  cases e with
  | closeTag name =>
    rw [Xml.openedBy_closeTag_eq_some.1 hopened] at hdepth
    rw [← Option.some.inj h, hdepth]
    rfl
  | openTag | emptyTag | text | cdata | reference =>
    simp only [accept, step] at h
    split_ifs at h
    · cases h
    · rw [← Option.some.inj hopened, ← Option.some.inj h]
      simp [hdepth]
  | comment | instruction | declaration | doctype =>
    rw [← Option.some.inj hopened, ← Option.some.inj h, hdepth]

theorem Accepts.depth_eq (h : Accepts s es s') (hdepth : s.depth = opened.length)
    (hmatched : Matched opened es final) : s'.depth = final.length := by
  induction es generalizing s opened with
  | nil => rw [← accepts_nil.1 h, ← Xml.matched_nil.1 hmatched, hdepth]
  | cons e es ih =>
    obtain ⟨next, hnext, hrest⟩ := accepts_cons.1 h
    obtain ⟨inside, hinside, hmatched⟩ := Xml.matched_cons.1 hmatched
    exact ih hrest (depth_of_accept hdepth hnext hinside) hmatched

theorem isMisc_of_accepts (h : Accepts ⟨0, true⟩ es s) (hmatched : Matched [] es final) :
    ∀ e ∈ es, e.isMisc = true := by
  induction es with
  | nil => exact fun e he => absurd he List.not_mem_nil
  | cons e es ih =>
    obtain ⟨next, hnext, hrest⟩ := accepts_cons.1 h
    obtain ⟨inside, hinside, hmatched⟩ := Xml.matched_cons.1 hmatched
    rcases accept_outside hinside hnext with ⟨he, rfl, rfl⟩ | ⟨hmet, -⟩
    · exact List.forall_mem_cons.2 ⟨he, ih hrest hmatched⟩
    · cases hmet

theorem isDocument_of_accepts (h : Accepts start es ⟨0, true⟩) (hmatched : Matched [] es []) :
    IsDocument es := by
  induction es with
  | nil => cases accepts_nil.1 h
  | cons e es ih =>
    obtain ⟨next, hnext, hrest⟩ := accepts_cons.1 h
    obtain ⟨inside, hinside, hmatched⟩ := Xml.matched_cons.1 hmatched
    rcases accept_outside hinside hnext with
      ⟨he, rfl, rfl⟩ | ⟨-, ⟨rfl, rfl, rfl⟩ | ⟨name, rfl, rfl, rfl⟩⟩
    · obtain ⟨before, element, after, rfl, hbefore, hrest⟩ := ih hrest hmatched
      exact ⟨e :: before, element, after, rfl, List.forall_mem_cons.2 ⟨he, hbefore⟩, hrest⟩
    · exact ⟨[], [.emptyTag], es, rfl, nofun, .empty, isMisc_of_accepts hrest hmatched⟩
    · -- the tags say where the element ends, and the check comes out of it as it went in
      obtain ⟨inner, rest, rfl, hinner, hmatched⟩ := hmatched.split (Nat.le_refl 0)
      obtain ⟨inside, hinside, hrest⟩ := accepts_append.1 hrest
      obtain rfl := Option.some.inj ((accepts_content hinner 0).symm.trans hinside)
      obtain ⟨_, hclose, hrest⟩ := accepts_cons.1 hrest
      obtain rfl := Option.some.inj hclose
      exact ⟨[], .openTag name :: (inner ++ [.closeTag name]), rest, by simp, nofun,
        .tagged hinner, isMisc_of_accepts hrest hmatched⟩

/-! ### What passes the check -/

theorem accepts_iff (hmatched : Matched [] es final) :
    Accepts start es ⟨0, true⟩ ↔ IsDocument es := by
  constructor
  · intro h
    -- the check ends at depth zero, so that no tag is left open
    have hfinal : 0 = final.length := h.depth_eq rfl hmatched
    rw [List.eq_nil_of_length_eq_zero hfinal.symm] at hmatched
    exact isDocument_of_accepts h hmatched
  · rintro ⟨before, element, after, rfl, hbefore, helement, hafter⟩
    exact accepts_append.2 ⟨_, accepts_append.2 ⟨start, accepts_misc hbefore false,
      accepts_element helement⟩, accepts_misc hafter true⟩

section

variable {scan : Xml.Scan} {bytes : Bytes} {cause : Fault} {fault : Xml.Fault}

theorem checkScan_of_error (h : scan.events.foldlM step start = .error cause) :
    checkScan scan = .error cause := by
  rw [checkScan, h]
  rfl

theorem checkScan_of_ok (h : scan.events.foldlM step start = .ok s) :
    checkScan scan = match scan.fault with
      | some fault => .error (.unreadable fault)
      | none => finish s := by
  rw [checkScan, h]
  rfl

theorem checkScan_eq_ok_iff (hmatched : Matched [] (scan.events.map Xml.Located.event) final) :
    checkScan scan = .ok () ↔
      scan.fault = none ∧ IsDocument (scan.events.map Xml.Located.event) := by
  rw [← accepts_iff hmatched, ← foldlM_step_eq_ok_iff]
  cases hfold : scan.events.foldlM step start with
  | error cause =>
    rw [checkScan_of_error hfold]
    exact ⟨(nomatch ·), fun h => nomatch h.2⟩
  | ok s =>
    rw [checkScan_of_ok hfold, Except.ok.injEq, ← finish_eq_ok_iff]
    cases scan.fault with
    | some fault => exact ⟨(nomatch ·), fun h => nomatch h.1⟩
    | none => exact ⟨fun h => ⟨rfl, h⟩, And.right⟩

/-- **What passes the check**: the texts that can be read and whose events are those of a
document. -/
theorem check_eq_ok_iff : check bytes = .ok () ↔
    (Xml.scan bytes).fault = none ∧ IsDocument (Xml.eventsOf bytes) := by
  obtain ⟨final, hfinal⟩ := Xml.eventsOf_matched bytes
  exact checkScan_eq_ok_iff hfinal

theorem step_ne_unreadable {e : Xml.Located} : step s e ≠ .error (.unreadable fault) := by
  rw [step]
  split
  case h_1 | h_2 | h_4 | h_5 | h_6 => split_ifs <;> exact nofun
  all_goals exact nofun

theorem foldlM_step_ne_unreadable (es : List Xml.Located) (s : State) :
    es.foldlM step s ≠ .error (.unreadable fault) := by
  induction es generalizing s with
  | nil => exact nofun
  | cons e es ih =>
    intro hfold
    rw [List.foldlM_cons] at hfold
    cases hstep : step s e with
    | error cause =>
      rw [hstep] at hfold
      exact step_ne_unreadable (hstep.trans hfold)
    | ok next =>
      rw [hstep] at hfold
      exact ih next hfold

/-- A fault of reading that the check reports is the one that reading ends with. -/
theorem fault_of_check (h : check bytes = .error (.unreadable fault)) :
    (Xml.scan bytes).fault = some fault := by
  rw [check] at h
  cases hfold : (Xml.scan bytes).events.foldlM step start with
  | error cause =>
    rw [checkScan_of_error hfold, Except.error.injEq] at h
    exact absurd (hfold.trans (congrArg _ h)) (foldlM_step_ne_unreadable _ _)
  | ok s =>
    rw [checkScan_of_ok hfold] at h
    cases hfault : (Xml.scan bytes).fault with
    | some cause =>
      rw [hfault] at h
      cases h
      rfl
    | none =>
      rw [hfault] at h
      dsimp only at h
      rw [finish] at h
      split_ifs at h <;> cases h

end

end Document

end StyleHost
