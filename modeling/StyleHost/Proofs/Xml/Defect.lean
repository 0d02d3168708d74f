import Mathlib.Data.List.Induction
import Mathlib.Tactic.ByContra
import StyleHost.Proofs.Xml.Document

/-!
# What is wrong with a text that is no document

The events of a text whose tags match are those of a document, or else one of four things is wrong
with them: there is no element, a second one outside of all others, one that is never closed, or
something outside of all elements that may only stand inside of one.

* `Document.Defect` : what can be wrong.
* `Document.accepts_of_placed` : where the check comes to, as long as nothing is out of place.
* `Document.isDocument_iff_not_defect` : the grammar and the defects.
* `Document.checkScan_grammar` : what passes the check, and what does not.
-/

namespace StyleHost

namespace Xml

/-- An event with which an element begins. -/
def Event.startsElement : Event → Bool
  | .openTag _ | .emptyTag => true
  | _ => false

/-- An event that may stand in an element only: text that is not blank, character data or a
reference. -/
def Event.isStray : Event → Bool
  | .text content => !content.all Text.isAsciiSpace
  | .cdata | .reference => true
  | _ => false

end Xml

namespace Document

open Xml (Matched)

variable {e : Xml.Event} {es rest : List Xml.Event} {opened final : List Bytes} {s s' : State}

/-- A second element begins where all elements before it are closed. -/
def HasSecondElement (es : List Xml.Event) : Prop :=
  ∃ before first between second after,
    es = before ++ first :: (between ++ second :: after) ∧
      first.startsElement = true ∧ Matched [] before [] ∧
      second.startsElement = true ∧ Matched [] (before ++ first :: between) []

/-- Something stands where all elements are closed that may stand in an element only. -/
def HasStray (es : List Xml.Event) : Prop :=
  ∃ before e after, es = before ++ e :: after ∧ e.isStray = true ∧ Matched [] before []

/-- What can be wrong with the events of a text. -/
inductive Defect (es : List Xml.Event) : Prop
  | noElement (h : ∀ e ∈ es, e.startsElement = false)
  | secondElement (h : HasSecondElement es)
  | unclosed (h : ¬Matched [] es [])
  | stray (h : HasStray es)

theorem HasSecondElement.append (h : HasSecondElement es) : HasSecondElement (es ++ rest) := by
  obtain ⟨before, first, between, second, after, rfl, h⟩ := h
  exact ⟨before, first, between, second, after ++ rest, by simp, h⟩

theorem HasStray.append (h : HasStray es) : HasStray (es ++ rest) := by
  obtain ⟨before, e, after, rfl, h⟩ := h
  exact ⟨before, e, after ++ rest, by simp, h⟩

/-! ### Where the check comes to -/

theorem met_of_accept (h : accept s e = some s') : s'.met = (s.met || e.startsElement) := by
  cases e with
  | openTag | emptyTag | text | cdata | reference =>
    simp only [accept, step] at h
    split_ifs at h
    · cases h
    · rw [← Option.some.inj h]
      simp [Xml.Event.startsElement]
  | closeTag | comment | instruction | declaration | doctype =>
    rw [← Option.some.inj h]
    simp [Xml.Event.startsElement]

/-- The check knows whether there was an element. -/
theorem Accepts.met_eq (h : Accepts s es s') :
    s'.met = (s.met || es.any Xml.Event.startsElement) := by
  induction es generalizing s with
  | nil => simp [← accepts_nil.1 h]
  | cons e es ih =>
    obtain ⟨next, hnext, hrest⟩ := accepts_cons.1 h
    rw [ih hrest, met_of_accept hnext, List.any_cons, Bool.or_assoc]

/-- Where the check fails. -/
theorem accept_eq_none_iff : accept s e = none ↔
    s.depth = 0 ∧ (s.met = true ∧ e.startsElement = true ∨ e.isStray = true) := by
  cases e with
  | openTag | emptyTag | text | cdata | reference =>
    simp only [accept, step, Xml.Event.startsElement, Xml.Event.isStray]
    split_ifs <;> simp_all [Except.toOption]
  | closeTag | comment | instruction | declaration | doctype =>
    simp [accept, step, Except.toOption, Xml.Event.startsElement, Xml.Event.isStray]

/-- The first element begins where no element is open. -/
theorem exists_first (hany : es.any Xml.Event.startsElement = true)
    (hmatched : Matched [] es final) : ∃ before first between,
      es = before ++ first :: between ∧ first.startsElement = true ∧ Matched [] before [] := by
  induction es with
  | nil => cases hany
  | cons e es ih =>
    by_cases hstart : e.startsElement = true
    · exact ⟨[], e, es, rfl, hstart, Xml.matched_nil.2 rfl⟩
    obtain ⟨next, he, hes⟩ := Xml.matched_cons.1 hmatched
    have hnext : next = [] := by
      cases e with
      | openTag | emptyTag => exact absurd rfl hstart
      | closeTag => cases he
      | text | cdata | reference | comment | instruction | declaration | doctype =>
        exact (Option.some.inj he).symm
    subst hnext
    rw [List.any_cons, Bool.eq_false_iff.2 hstart, Bool.false_or] at hany
    obtain ⟨before, first, between, rfl, hfirst, hbefore⟩ := ih hany hes
    exact ⟨e :: before, first, between, rfl, hfirst, Xml.matched_cons.2 ⟨[], he, hbefore⟩⟩

/-- **As long as nothing is out of place**, the check comes to a state that counts the open
elements. -/
theorem accepts_of_placed (hsecond : ¬HasSecondElement es) (hstray : ¬HasStray es)
    (hmatched : Matched [] es final) :
    Accepts start es ⟨final.length, es.any Xml.Event.startsElement⟩ := by
  induction es using List.reverseRecOn generalizing final with
  | nil =>
    rw [← Xml.matched_nil.1 hmatched]
    exact accepts_nil.2 rfl
  | append_singleton es e ih =>
    obtain ⟨opened, hes, hlast⟩ := Xml.matched_append.1 hmatched
    obtain ⟨after, he, hafter⟩ := Xml.matched_cons.1 hlast
    rw [Xml.matched_nil.1 hafter] at he
    have hrun := ih (fun h => hsecond h.append) (fun h => hstray h.append) hes
    cases haccept : accept ⟨opened.length, es.any Xml.Event.startsElement⟩ e with
    | some next =>
      have hstate : next = ⟨final.length, (es ++ [e]).any Xml.Event.startsElement⟩ := by
        rw [← depth_of_accept rfl haccept he, List.any_append, List.any_cons, List.any_nil,
          Bool.or_false, ← met_of_accept haccept]
      rw [← hstate]
      exact accepts_append.2 ⟨_, hrun, accepts_cons.2 ⟨next, haccept, accepts_nil.2 rfl⟩⟩
    | none =>
      obtain ⟨hdepth, hcause⟩ := accept_eq_none_iff.1 haccept
      obtain rfl := List.eq_nil_of_length_eq_zero hdepth
      rcases hcause with ⟨hmet, hstart⟩ | hout
      · obtain ⟨before, first, between, rfl, hfirst, hbefore⟩ := exists_first hmet hes
        exact absurd ⟨before, first, between, e, [], by simp, hfirst, hbefore, hstart, hes⟩ hsecond
      · exact absurd ⟨es, e, [], rfl, hout, hes⟩ hstray

/-! ### Documents and defects -/

/-- The check does not come past what is out of place. -/
theorem not_accepts_append {before after : List Xml.Event} (hclosed : Matched [] before [])
    (h : before.any Xml.Event.startsElement = true ∧ e.startsElement = true ∨ e.isStray = true) :
    ¬Accepts start (before ++ e :: after) s := by
  intro haccepts
  obtain ⟨mid, hmid, hrest⟩ := accepts_append.1 haccepts
  obtain ⟨next, hnext, -⟩ := accepts_cons.1 hrest
  have hdepth : mid.depth = 0 := hmid.depth_eq rfl hclosed
  have hmet : mid.met = before.any Xml.Event.startsElement := hmid.met_eq
  have hnone := accept_eq_none_iff.2 ⟨hdepth, hmet ▸ h⟩
  rw [hnext] at hnone
  cases hnone

theorem not_accepts_of_secondElement (h : HasSecondElement es) : ¬Accepts start es s := by
  obtain ⟨before, first, between, second, after, rfl, hfirst, -, hsecond, hclosed⟩ := h
  have hsplit : before ++ first :: (between ++ second :: after) =
      (before ++ first :: between) ++ second :: after := by simp
  rw [hsplit]
  exact not_accepts_append hclosed (.inl ⟨by simp [hfirst], hsecond⟩)

theorem not_accepts_of_stray (h : HasStray es) : ¬Accepts start es s := by
  obtain ⟨before, e, after, rfl, he, hclosed⟩ := h
  exact not_accepts_append hclosed (.inr he)

/-- **The events of a text whose tags match are those of a document, or have a defect.** -/
theorem isDocument_iff_not_defect (hmatched : Matched [] es final) :
    IsDocument es ↔ ¬Defect es := by
  rw [← accepts_iff hmatched]
  constructor
  · intro haccepts hdefect
    cases hdefect with
    | noElement h =>
      have hmet := haccepts.met_eq
      have hany : es.any Xml.Event.startsElement = false :=
        List.any_eq_false.2 fun e he => Bool.eq_false_iff.1 (h e he)
      rw [hany] at hmet
      cases hmet
    | secondElement h => exact not_accepts_of_secondElement h haccepts
    | unclosed h =>
      have hlength : 0 = final.length := haccepts.depth_eq rfl hmatched
      rw [List.eq_nil_of_length_eq_zero hlength.symm] at hmatched
      exact h hmatched
    | stray h => exact not_accepts_of_stray h haccepts
  · intro hdefect
    have hclosed : Matched [] es [] := by_contra fun h => hdefect (.unclosed h)
    have hany : es.any Xml.Event.startsElement = true := by
      by_contra hnone
      rw [Bool.not_eq_true, List.any_eq_false] at hnone
      exact hdefect (.noElement fun e he => Bool.eq_false_iff.2 (hnone e he))
    have hrun := accepts_of_placed (fun h => hdefect (.secondElement h))
      (fun h => hdefect (.stray h)) hclosed
    rwa [hany] at hrun

/-- The texts that pass are those that can be read and have no defect. -/
theorem check_eq_ok_iff_not_defect (bytes : Bytes) : check bytes = .ok () ↔
    (Xml.scan bytes).fault = none ∧ ¬Defect (Xml.eventsOf bytes) := by
  obtain ⟨final, hfinal⟩ := Xml.eventsOf_matched bytes
  rw [check_eq_ok_iff, isDocument_iff_not_defect hfinal]

/-- **What passes the check.** Of the events that a reader gives which matches tags, just those of
documents pass, if reading came to an end; what has a defect fails, however reading ended. -/
theorem checkScan_grammar (scan : Xml.Scan) (final : List Bytes)
    (hmatched : Matched [] (scan.events.map Xml.Located.event) final) :
    (checkScan scan = .ok () ↔
      scan.fault = none ∧ IsDocument (scan.events.map Xml.Located.event)) ∧
    (Defect (scan.events.map Xml.Located.event) → ∃ fault, checkScan scan = .error fault) := by
  refine ⟨checkScan_eq_ok_iff hmatched, fun hdefect => ?_⟩
  cases hcheck : checkScan scan with
  | error fault => exact ⟨fault, rfl⟩
  | ok _ =>
    have hdocument := ((checkScan_eq_ok_iff hmatched).1 hcheck).2
    exact absurd hdefect ((isDocument_iff_not_defect hmatched).1 hdocument)

/-- The events of `<a>x<b/></a> ` are those of a document; those of `<a/><b/>` are not. -/
theorem checkScan_grammar_of_tags :
    Matched [] [.openTag [97], .text [120], .emptyTag, .closeTag [97], .text [32]] [] ∧
    IsDocument [.openTag [97], .text [120], .emptyTag, .closeTag [97], .text [32]] ∧
    ∃ fault, checkScan ⟨[⟨.emptyTag, 4⟩, ⟨.emptyTag, 8⟩], none⟩ = .error fault := by
  have hmatched :
      Matched [] [.openTag [97], .text [120], .emptyTag, .closeTag [97], .text [32]] [] := rfl
  have hdefect : Defect [.emptyTag, .emptyTag] := by
    refine .secondElement ⟨[], .emptyTag, [], .emptyTag, [], rfl, rfl, ?_, rfl, ?_⟩ <;> rfl
  have hdocument := (checkScan_grammar
    ⟨[⟨.openTag [97], 3⟩, ⟨.text [120], 4⟩, ⟨.emptyTag, 8⟩, ⟨.closeTag [97], 12⟩, ⟨.text [32], 13⟩],
      none⟩ [] hmatched).1.1 rfl
  exact ⟨hmatched, hdocument.2,
    (checkScan_grammar ⟨[⟨.emptyTag, 4⟩, ⟨.emptyTag, 8⟩], none⟩ [] rfl).2 hdefect⟩

end Document

end StyleHost
