import StyleHost.Proofs.Stylesheet.Reference
import StyleHost.Proofs.Xml.Defect

/-!
# Before and after the document element

References count outside of all elements. A text that can be read has its document element between
a prolog and an epilog, and nothing inside of the element counts, however deep. A reference in the
prolog is the answer, whatever follows it; if there is none, the epilog is searched in the same way.

* `Around` : the prolog and the epilog of the events of a text.
* `exists_around` : there always is such a pair.
* `reference_around` : where the reference comes from.
* `find_around` : what is found in a document, and which documents give the same answer.
-/

namespace StyleHost

namespace Stylesheet

open Xml

variable {e : Xml.Event} {es before after prolog epilog : List Xml.Event}
  {opened final : List Bytes} {depth : Nat} {href : String} {bytes : Bytes}

/-- The prolog and the epilog of events: what stands before the first element, and what stands
after it. There is nothing after an element that is never closed. -/
inductive Around : List Xml.Event → List Xml.Event → List Xml.Event → Prop
  | absent {prolog : List Xml.Event} (hprolog : ∀ e ∈ prolog, e.startsElement = false) :
    Around prolog prolog []
  | closed {prolog element epilog : List Xml.Event}
    (hprolog : ∀ e ∈ prolog, e.startsElement = false) (helement : IsElement element) :
    Around (prolog ++ (element ++ epilog)) prolog epilog
  | unclosed {prolog rest : List Xml.Event} {name : Bytes}
    (hprolog : ∀ e ∈ prolog, e.startsElement = false)
    (hopen : ∀ element after, IsElement element → .openTag name :: rest ≠ element ++ after) :
    Around (prolog ++ .openTag name :: rest) prolog []

/-! ### Counting open elements -/

/-- The number of open elements after events. -/
def depthAfterAll (depth : Nat) (es : List Xml.Event) : Nat := es.foldl depthAfter depth

theorem depthAfter_of_openedBy (h : e.openedBy opened = some final) :
    depthAfter opened.length e = final.length := by
  cases e with
  | closeTag name =>
    rw [openedBy_closeTag_eq_some.1 h]
    rfl
  | openTag | emptyTag | text | cdata | reference | comment | instruction | declaration | doctype =>
    rw [← Option.some.inj h]
    rfl

/-- The number that is counted is that of the tags that are open. -/
theorem depthAfterAll_of_matched (h : Matched opened es final) :
    depthAfterAll opened.length es = final.length := by
  induction es generalizing opened with
  | nil => rw [← matched_nil.1 h, depthAfterAll, List.foldl_nil]
  | cons e es ih =>
    obtain ⟨next, he, hes⟩ := matched_cons.1 h
    rw [← ih hes, ← depthAfter_of_openedBy he]
    rfl

theorem reference_append (depth : Nat) (before after : List Xml.Event) :
    reference depth (before ++ after) =
      (reference depth before).or (reference (depthAfterAll depth before) after) := by
  induction before generalizing depth with
  | nil => rw [List.nil_append, reference, Option.none_or, depthAfterAll, List.foldl_nil]
  | cons e before ih =>
    rw [List.cons_append, reference, reference, ih, Option.or_assoc]
    rfl

/-- A reference stands where no element is open. -/
theorem exists_of_reference_eq_some (h : reference depth es = some href) :
    ∃ before e after, es = before ++ e :: after ∧ depthAfterAll depth before = 0 ∧
      hrefOfEvent e = some href := by
  induction es generalizing depth with
  | nil => cases h
  | cons e es ih =>
    rw [reference] at h
    rcases Option.or_eq_some_iff.1 h with hhere | ⟨-, hrest⟩
    · split_ifs at hhere with hdepth
      · exact ⟨[], e, es, rfl, hdepth, hhere⟩
    · obtain ⟨before, e', after, rfl, hclosed, he'⟩ := ih hrest
      exact ⟨e :: before, e', after, rfl, hclosed, he'⟩

/-! ### The parts of a text -/

theorem depthAfterAll_append (depth : Nat) (before after : List Xml.Event) :
    depthAfterAll depth (before ++ after) =
      depthAfterAll (depthAfterAll depth before) after := List.foldl_append

/-- Nothing in an element refers. -/
theorem reference_content (h : IsContent es) (depth : Nat) :
    reference (depth + 1) es = none ∧ depthAfterAll (depth + 1) es = depth + 1 := by
  induction h generalizing depth with
  | nil => exact ⟨rfl, rfl⟩
  | @leaf e rest he hrest ih =>
    have hdepth : depthAfter (depth + 1) e = depth + 1 := by
      cases e <;> first | rfl | cases he
    refine ⟨?_, ?_⟩
    · rw [reference, if_neg (Nat.succ_ne_zero depth), hdepth, (ih depth).1, Option.none_or]
    · rw [depthAfterAll, List.foldl_cons, hdepth]
      exact (ih depth).2
  | @element name inner rest hinner hrest ihinner ihrest =>
    obtain ⟨hinner, hinside⟩ := ihinner (depth + 1)
    obtain ⟨hrest, hafter⟩ := ihrest depth
    refine ⟨?_, ?_⟩
    · rw [reference, if_neg (Nat.succ_ne_zero depth), Option.none_or, depthAfter,
        reference_append, hinner, Option.none_or, hinside, reference,
        if_neg (Nat.succ_ne_zero _), Option.none_or]
      exact hrest
    · have hstart : depthAfterAll (depth + 1) (.openTag name :: (inner ++ .closeTag name :: rest)) =
          depthAfterAll (depth + 2) (inner ++ .closeTag name :: rest) := rfl
      rw [hstart, depthAfterAll_append, hinside]
      exact hafter

theorem reference_element (h : IsElement es) :
    reference 0 es = none ∧ depthAfterAll 0 es = 0 := by
  cases h with
  | empty => exact ⟨rfl, rfl⟩
  | @tagged name inner hinner =>
    obtain ⟨hnone, hinside⟩ := reference_content hinner 0
    refine ⟨?_, ?_⟩
    · have hstart : reference 0 (.openTag name :: (inner ++ [.closeTag name])) =
          reference 1 (inner ++ [.closeTag name]) := rfl
      rw [hstart, reference_append, hnone, hinside]
      rfl
    · have hstart : depthAfterAll 0 (.openTag name :: (inner ++ [.closeTag name])) =
          depthAfterAll 1 (inner ++ [.closeTag name]) := rfl
      rw [hstart, depthAfterAll_append, hinside]
      rfl

/-- All references count before the first element. -/
theorem reference_prolog (h : ∀ e ∈ prolog, e.startsElement = false) :
    reference 0 prolog = prolog.findSome? hrefOfEvent ∧ depthAfterAll 0 prolog = 0 := by
  induction prolog with
  | nil => exact ⟨rfl, rfl⟩
  | cons e prolog ih =>
    obtain ⟨he, hprolog⟩ := List.forall_mem_cons.1 h
    obtain ⟨hfound, hclosed⟩ := ih hprolog
    have hdepth : depthAfter 0 e = 0 := by
      cases e <;> first | rfl | cases he
    refine ⟨?_, ?_⟩
    · rw [reference, if_pos rfl, hdepth, hfound, List.findSome?_cons]
      cases hrefOfEvent e <;> rfl
    · rw [depthAfterAll, List.foldl_cons, hdepth]
      exact hclosed

theorem Around.cons (h : Around es prolog epilog) (he : e.startsElement = false) :
    Around (e :: es) (e :: prolog) epilog := by
  cases h with
  | absent hprolog => exact .absent (List.forall_mem_cons.2 ⟨he, hprolog⟩)
  | closed hprolog helement => exact .closed (List.forall_mem_cons.2 ⟨he, hprolog⟩) helement
  | unclosed hprolog hopen => exact .unclosed (List.forall_mem_cons.2 ⟨he, hprolog⟩) hopen

/-- **All events have a prolog and an epilog.** -/
theorem exists_around (es : List Xml.Event) : ∃ prolog epilog, Around es prolog epilog := by
  have hnil : ∀ e ∈ ([] : List Xml.Event), e.startsElement = false := by simp
  induction es with
  | nil => exact ⟨[], [], .absent hnil⟩
  | cons e es ih =>
    by_cases hstart : e.startsElement = true
    · by_cases hclosed : ∃ element epilog, IsElement element ∧ e :: es = element ++ epilog
      · obtain ⟨element, epilog, helement, heq⟩ := hclosed
        have haround : Around ([] ++ (element ++ epilog)) [] epilog := .closed hnil helement
        rw [heq]
        exact ⟨[], epilog, haround⟩
      · cases e with
        | openTag name =>
          have haround : Around ([] ++ .openTag name :: es) [] [] := .unclosed hnil
            fun element after helement heq => hclosed ⟨element, after, helement, heq⟩
          exact ⟨[], [], haround⟩
        | emptyTag => exact absurd ⟨[.emptyTag], es, .empty, rfl⟩ hclosed
        | closeTag | text | cdata | reference | comment | instruction | declaration | doctype =>
          cases hstart
    · obtain ⟨prolog, epilog, h⟩ := ih
      exact ⟨e :: prolog, epilog, h.cons (Bool.eq_false_iff.2 hstart)⟩

/-- Nothing refers in an element that is never closed. -/
theorem reference_unclosed {rest : List Xml.Event} {name : Bytes} (h : Matched [name] rest final)
    (hopen : ∀ element after, IsElement element → .openTag name :: rest ≠ element ++ after) :
    reference 1 rest = none := by
  rw [Option.eq_none_iff_forall_ne_some]
  intro href hfound
  obtain ⟨before, e, after, rfl, hdepth, -⟩ := exists_of_reference_eq_some hfound
  obtain ⟨next, hbefore, -⟩ := matched_append.1 h
  have hnext : next.length = 0 := (depthAfterAll_of_matched hbefore).symm.trans hdepth
  -- where no element is open, this one has been closed
  obtain ⟨inner, between, rfl, hinner, -⟩ := hbefore.split (Nat.le_of_eq hnext)
  refine hopen (.openTag name :: (inner ++ [.closeTag name])) (between ++ e :: after)
    (.tagged hinner) ?_
  simp

/-- **Where the reference comes from**: the prolog, or else the epilog. -/
theorem reference_around (hmatched : Matched [] es final) (h : Around es prolog epilog) :
    reference 0 es = (prolog.findSome? hrefOfEvent).or (reference 0 epilog) := by
  cases h with
  | absent hprolog =>
    rw [(reference_prolog hprolog).1, reference, Option.or_none]
  | closed hprolog helement =>
    obtain ⟨hfound, hclosed⟩ := reference_prolog hprolog
    obtain ⟨hnone, hafter⟩ := reference_element helement
    rw [reference_append, hfound, hclosed, reference_append, hnone, hafter, Option.none_or]
  | @unclosed prolog rest name hprolog hopen =>
    obtain ⟨hfound, hclosed⟩ := reference_prolog hprolog
    obtain ⟨opened, hbefore, hrest⟩ := matched_append.1 hmatched
    have hopened : opened = [] :=
      List.eq_nil_of_length_eq_zero ((depthAfterAll_of_matched hbefore).symm.trans hclosed)
    rw [hopened] at hrest
    obtain ⟨next, hnext, hrest⟩ := matched_cons.1 hrest
    obtain rfl := Option.some.inj hnext
    have hinside : reference 0 (.openTag name :: rest) = none := reference_unclosed hrest hopen
    rw [reference_append, hfound, hclosed, hinside, reference]

/-! ### What is found -/

theorem find_eq_reference (h : (scan bytes).fault = none) :
    find bytes = .ok (reference 0 (eventsOf bytes)) := by
  rw [find_eq_ok_iff]
  exact ⟨_, reads_iff_scan.2 ⟨h, rfl⟩, rfl⟩

/-- Only an `xml-stylesheet` instruction refers. -/
theorem eq_instruction_of_hrefOfEvent (h : hrefOfEvent e = some href) :
    ∃ content, e = .instruction (codes "xml-stylesheet") content := by
  cases e with
  | instruction target content =>
    rw [hrefOfEvent] at h
    split_ifs at h with htarget
    exact ⟨content, by rw [htarget]⟩
  | openTag | emptyTag | closeTag | text | cdata | reference | comment | declaration | doctype =>
    cases h

/-- **What is found in a document** comes from an `xml-stylesheet` instruction outside of all
elements: from the first one in the prolog that refers, or if there is none from the first one in
the epilog. So two documents with one prolog give the same answer just if the prolog refers or the
epilogs agree. -/
theorem find_around (bytes : Bytes) (hread : (scan bytes).fault = none) :
    (∃ prolog epilog, Around (eventsOf bytes) prolog epilog ∧
      find bytes = .ok ((prolog.findSome? hrefOfEvent).or (reference 0 epilog))) ∧
    (∀ href, find bytes = .ok (some href) → ∃ before content after,
      eventsOf bytes = before ++ .instruction (codes "xml-stylesheet") content :: after ∧
        hrefOfEvent (.instruction (codes "xml-stylesheet") content) = some href ∧
        Matched [] before []) ∧
    ∀ other prolog epilog later, (scan other).fault = none →
      Around (eventsOf bytes) prolog epilog → Around (eventsOf other) prolog later →
        (find bytes = find other ↔
          prolog.findSome? hrefOfEvent ≠ none ∨ reference 0 epilog = reference 0 later) := by
  obtain ⟨final, hmatched⟩ := eventsOf_matched bytes
  have hfind := find_eq_reference hread
  refine ⟨?_, fun href h => ?_, fun other prolog epilog later hother haround haround' => ?_⟩
  · obtain ⟨prolog, epilog, haround⟩ := exists_around (eventsOf bytes)
    rw [reference_around hmatched haround] at hfind
    exact ⟨prolog, epilog, haround, hfind⟩
  · have hfound : reference 0 (eventsOf bytes) = some href := Except.ok.inj (hfind.symm.trans h)
    obtain ⟨before, e, after, hsplit, hclosed, he⟩ := exists_of_reference_eq_some hfound
    obtain ⟨content, rfl⟩ := eq_instruction_of_hrefOfEvent he
    rw [hsplit] at hmatched
    obtain ⟨opened, hbefore, -⟩ := matched_append.1 hmatched
    have hopened : opened = [] :=
      List.eq_nil_of_length_eq_zero ((depthAfterAll_of_matched hbefore).symm.trans hclosed)
    exact ⟨before, content, after, hsplit, he, hopened ▸ hbefore⟩
  · obtain ⟨final', hmatched'⟩ := eventsOf_matched other
    rw [hfind, find_eq_reference hother, reference_around hmatched haround,
      reference_around hmatched' haround', Except.ok.injEq]
    cases prolog.findSome? hrefOfEvent with
    | none => simp
    | some href => simp

/-- A document with a reference after its element. -/
def lateReference : Bytes := codes "<a/><?xml-stylesheet type='text/xsl' href='late.xsl'?>"

/-- The instruction of that document. -/
def lateInstruction : Xml.Event :=
  .instruction (codes "xml-stylesheet") (codes " type='text/xsl' href='late.xsl'")

theorem eventsOf_lateReference : eventsOf lateReference = [.emptyTag, lateInstruction] := by
  decide +kernel

theorem find_lateReference : find lateReference = .ok (some "late.xsl") := by
  have hreference : reference 0 [.emptyTag, lateInstruction] = some "late.xsl" := by
    decide +kernel
  rw [find_eq_reference (by decide +kernel), eventsOf_lateReference, hreference]

theorem around_emptyTag (epilog : List Xml.Event) : Around (.emptyTag :: epilog) [] epilog := by
  have h : Around ([] ++ ([.emptyTag] ++ epilog)) [] epilog := .closed (by simp) .empty
  exact h

theorem find_around_late : (scan lateReference).fault = none ∧
    (∃ prolog epilog, Around (eventsOf lateReference) prolog epilog ∧
      find lateReference = .ok ((prolog.findSome? hrefOfEvent).or (reference 0 epilog))) ∧
    ∃ before content after,
      eventsOf lateReference = before ++ .instruction (codes "xml-stylesheet") content :: after ∧
        Matched [] before [] := by
  have hread : (scan lateReference).fault = none := by decide +kernel
  obtain ⟨hparts, horigin, -⟩ := find_around lateReference hread
  obtain ⟨before, content, after, hsplit, -, hbefore⟩ := horigin _ find_lateReference
  exact ⟨hread, hparts, before, content, after, hsplit, hbefore⟩

/-- An instruction after the document element counts: of two documents that are the same up to the
start of their elements, only one has a reference. -/
theorem find_epilog : Around (eventsOf lateReference) [] [lateInstruction] ∧
    Around (eventsOf (codes "<a/>")) [] [] ∧
    find lateReference = .ok (some "late.xsl") ∧ find (codes "<a/>") = .ok none := by
  have hplain : eventsOf (codes "<a/>") = [.emptyTag] := by decide +kernel
  have hnone : find (codes "<a/>") = .ok none := by
    rw [find_eq_reference (by decide +kernel), hplain]
    rfl
  rw [eventsOf_lateReference, hplain]
  exact ⟨around_emptyTag _, around_emptyTag _, find_lateReference, hnone⟩

end Stylesheet

end StyleHost
