import Mathlib.Data.List.Forall2
import StyleHost.Proofs.Json.Choice
import StyleHost.Proofs.Json.Gather

/-!
# Records are read as what they say

A record is read from the members of an object, in whatever order they come and with unknown ones
among them, or from the elements of a list. What comes of it is the run over the tree that puts one
field after another.

* `Agrees` : a field is read as its slot says.
* `readMembers_spelled`, `readList_spelled` : objects and lists.
* `Takes.record`, `Settles.of_document` : records, and whole texts.
-/

namespace StyleHost

namespace Json

variable {σ : Type} {cs rest : List Char}

/-- A field is read as its slot says. -/
structure Agrees (field : Member σ) (slot : Slot σ) : Prop where
  key : field.key = slot.key
  takes : ∀ record, Takes (field.read record) (slot.put record)

section reading

variable {fields : List (Member σ)} {slots : List (Slot σ)} {ms : List (Option String × Tree)}

theorem find?_agrees (h : List.Forall₂ Agrees fields slots) (key : String) :
    (fields.find? (·.key == key) = none ∧ slots.find? (·.key == key) = none) ∨
      ∃ field slot, fields.find? (·.key == key) = some field ∧
        slots.find? (·.key == key) = some slot ∧ Agrees field slot := by
  induction h with
  | nil => exact .inl ⟨rfl, rfl⟩
  | @cons field slot fields slots hfield _ ih =>
    rw [List.find?_cons, List.find?_cons, hfield.key]
    cases slot.key == key with
    | true => exact .inr ⟨field, slot, rfl, rfl, hfield⟩
    | false => exact ih

/-! ### Objects -/

theorem failDuplicate_eq {α : Type} (c : Cursor) (key : String) : ∃ position,
    (failDuplicate c key : Except Error α) = .error ⟨.duplicateField key, position⟩ := by
  unfold failDuplicate
  dsimp only
  split <;> exact ⟨_, rfl⟩

/-- **One member.** It is skipped if it is unknown, is an error if it was given before, and is put
if it is new. -/
theorem readMembers_member (h : List.Forall₂ Agrees fields slots) {key : Option String} {t : Tree}
    {inside behind : List Char} (hmember : Spelled (.member key t) inside behind)
    (hclosed : Closed behind) {fuel : Nat}
    (hmore : ∀ seen record position, Comes
      (readMembers fields fuel false seen record ⟨position, behind⟩) rest
      (gather slots seen record ms))
    {isFirst : Bool} {c : Cursor} {position : Position}
    (hnext : nextKey? isFirst c = .ok (true, ⟨position, inside⟩)) (seen : List String)
    (record : σ) :
    Comes (readMembers fields (fuel + 1) isFirst seen record c) rest
      (gather slots seen record ((key, t) :: ms)) := by
  cases hmember with
  | @member _ behindKey _ _ _ ps stop start hvalue =>
    have hkey := readText_quoted ps (position.afterChar '"') behindKey
    rw [readMembers, hnext, ok_bind]
    dsimp only [quoted, Cursor.step_mk]
    rw [if_pos rfl]
    cases hmeaning : meaning ps with
    | none =>
      rw [hmeaning] at hkey
      obtain ⟨e, he⟩ := hkey
      exact ⟨e, by rw [he]; rfl⟩
    | some key =>
      rw [hmeaning] at hkey
      obtain ⟨position₁, hkey⟩ := hkey
      obtain ⟨position₂, hcolon⟩ := expectColon_blanks stop position₁
      rw [hkey, ok_bind, gather]
      dsimp only
      rcases find?_agrees h key with ⟨hfield, hslot⟩ | ⟨field, slot, hfield, hslot, hagrees⟩
      · obtain ⟨position₃, hskip⟩ := skipValue_spelled hvalue hclosed start position₂
        rw [hfield, hslot]
        dsimp only
        rw [hcolon, ok_bind, hskip, ok_bind]
        exact hmore seen record position₃
      · rw [hfield, hslot]
        dsimp only
        split
        · exact failDuplicate_eq _ key
        · rw [hcolon, ok_bind]
          exact (hagrees.takes record hvalue hclosed start position₂).bind
            fun record' position₃ _ => hmore (key :: seen) record' position₃

theorem Spelled.members_head (h : Spelled (.members ms) cs rest) : ∃ ds, cs = '"' :: ds := by
  cases h with
  | oneMember hmember => cases hmember; exact ⟨_, rfl⟩
  | moreMembers hmember _ _ _ => cases hmember; exact ⟨_, rfl⟩

theorem nextKey?_first {inside : List Char} (hstart : Blanks cs inside)
    (h : Spelled (.members ms) inside rest) (position : Position) :
    ∃ position', nextKey? true ⟨position, cs⟩ = .ok (true, ⟨position', inside⟩) := by
  obtain ⟨position', hskip⟩ := h.skipBlanks hstart position
  obtain ⟨ds, rfl⟩ := h.members_head
  exact ⟨position', by simp [nextKey?, hskip]⟩

theorem nextKey?_comma {comma inside : List Char} (hstop : Blanks cs (',' :: comma))
    (hstart : Blanks comma inside) (h : Spelled (.members ms) inside rest) (position : Position) :
    ∃ position', nextKey? false ⟨position, cs⟩ = .ok (true, ⟨position', inside⟩) := by
  obtain ⟨position₁, hcomma⟩ := Cursor.skipBlanks_mark position hstop (by decide)
  obtain ⟨position₂, hskip⟩ := h.skipBlanks hstart (position₁.afterChar ',')
  obtain ⟨ds, rfl⟩ := h.members_head
  exact ⟨position₂, by simp [nextKey?, hcomma, hskip]⟩

/-- The closing brace ends the members. -/
theorem readMembers_brace (fuel : Nat) (isFirst : Bool) (seen : List String) (record : σ)
    (h : Blanks cs ('}' :: rest)) (position : Position) :
    Comes (readMembers fields (fuel + 1) isFirst seen record ⟨position, cs⟩) rest
      (.ok record) := by
  obtain ⟨position', hskip⟩ := Cursor.skipBlanks_mark position h (by decide)
  exact ⟨position'.afterChar '}', by simp [readMembers, nextKey?, hskip, ok_bind]⟩

/-- **All members** of an object. -/
theorem readMembers_spelled (h : List.Forall₂ Agrees fields slots) {inside behind : List Char}
    (hmembers : Spelled (.members ms) inside behind) (hstop : Blanks behind ('}' :: rest))
    (fuel : Nat) (hfuel : ms.length < fuel) {isFirst : Bool} {c : Cursor} {position : Position}
    (hnext : nextKey? isFirst c = .ok (true, ⟨position, inside⟩)) (seen : List String)
    (record : σ) :
    Comes (readMembers fields fuel isFirst seen record c) rest (gather slots seen record ms) := by
  induction ms generalizing fuel isFirst seen record c position inside with
  | nil => cases hmembers
  | cons m ms ih =>
    obtain ⟨fuel, rfl⟩ := Nat.exists_eq_succ_of_ne_zero (Nat.ne_zero_of_lt hfuel)
    have hless := Nat.lt_of_succ_lt_succ hfuel
    cases hmembers with
    | oneMember hmember =>
      have hclosed := hstop.closed (closed_cons rest (by decide))
      refine readMembers_member h hmember hclosed (fun seen record position => ?_) hnext seen record
      obtain ⟨fuel, rfl⟩ := Nat.exists_eq_succ_of_ne_zero (Nat.ne_zero_of_lt hless)
      exact readMembers_brace fuel false seen record hstop position
    | moreMembers hmember stop start more =>
      have hclosed := stop.closed (closed_cons _ (by decide))
      refine readMembers_member h hmember hclosed (fun seen record position => ?_) hnext seen record
      obtain ⟨position', hnext⟩ := nextKey?_comma stop start more position
      exact ih more fuel hless hnext seen record

/-- There are no more members than characters. -/
theorem Spelled.members_length_le (h : Spelled (.members ms) cs rest) :
    ms.length ≤ cs.length := by
  induction ms generalizing cs with
  | nil => exact Nat.zero_le _
  | cons m ms ih =>
    cases h with
    | oneMember hmember =>
      have := hmember.length_lt
      simp only [List.length_cons, List.length_nil]
      omega
    | moreMembers hmember stop start more =>
      have := hmember.length_lt
      have := stop.length_le
      have := start.length_le
      have := ih more
      simp only [List.length_cons] at *
      omega

/-! ### Lists -/

/-- Where a list has one more element, it has not ended. -/
theorem endList_error {isFirst : Bool} {c c' : Cursor}
    (h : nextMember? isFirst c = .ok (true, c')) : ∃ e, endList c = .error e := by
  unfold nextMember? at h
  unfold endList
  dsimp only at h ⊢
  split at h
  case h_1 => cases h
  case h_2 => cases h
  case h_3 hbracket heq =>
    rw [heq]
    split
    case h_1 heq => cases heq
    case h_2 heq =>
      cases heq
      exact (hbracket rfl).elim
    case h_3 => split <;> exact ⟨_, rfl⟩
    case h_4 => exact ⟨_, rfl⟩

theorem nextMember?_first {p : Phrase} {inside : List Char} (hstart : Blanks cs inside)
    (h : Spelled p inside rest) (position : Position) :
    ∃ position', nextMember? true ⟨position, cs⟩ = .ok (true, ⟨position', inside⟩) := by
  obtain ⟨position', hskip⟩ := h.skipBlanks hstart position
  obtain ⟨d, ds, rfl, -, hlist, -⟩ := h.head
  exact ⟨position', by simp [nextMember?, hskip]⟩

theorem nextMember?_comma {p : Phrase} {comma inside : List Char}
    (hstop : Blanks cs (',' :: comma)) (hstart : Blanks comma inside)
    (h : Spelled p inside rest) (position : Position) :
    ∃ position', nextMember? false ⟨position, cs⟩ = .ok (true, ⟨position', inside⟩) := by
  obtain ⟨position₁, hcomma⟩ := Cursor.skipBlanks_mark position hstop (by decide)
  obtain ⟨position₂, hskip⟩ := h.skipBlanks hstart (position₁.afterChar ',')
  obtain ⟨d, ds, rfl, -, hlist, -⟩ := h.head
  refine ⟨position₂, ?_⟩
  simp [nextMember?, hcomma, hskip]
  split
  case h_1 heq => cases heq
  case h_2 heq => exact absurd (List.cons.inj heq).1 hlist
  case h_3 => rfl

/-- The elements of a list, up to its closing bracket. -/
def readList (fields : List (Member σ)) (isFirst : Bool) (record : σ) (c : Cursor) :
    Except Error (σ × Cursor) := do
  let (record, c) ← readElements isFirst record c fields
  .ok (record, ← endList c)

/-- The closing bracket ends the elements, however many there were. -/
theorem readList_bracket (fields : List (Member σ)) (isFirst : Bool) (record : σ)
    (h : Blanks cs (']' :: rest)) (position : Position) :
    Comes (readList fields isFirst record ⟨position, cs⟩) rest (.ok record) := by
  obtain ⟨position', hskip⟩ := Cursor.skipBlanks_mark position h (by decide)
  have hagain : (⟨position', ']' :: rest⟩ : Cursor).skipBlanks = ⟨position', ']' :: rest⟩ :=
    Cursor.skipBlanks_cons _ (by decide)
  refine ⟨position'.afterChar ']', ?_⟩
  cases fields with
  | nil => simp [readList, readElements, endList, hskip, ok_bind]
  | cons field fields =>
    simp [readList, readElements, nextMember?, endList, hskip, hagain, ok_bind]

/-- **All elements** of a list. -/
theorem readList_spelled (h : List.Forall₂ Agrees fields slots) {ts : List Tree}
    {inside behind : List Char} (helements : Spelled (.elements ts) inside behind)
    (hstop : Blanks behind (']' :: rest)) {isFirst : Bool} {c : Cursor} {position : Position}
    (hnext : nextMember? isFirst c = .ok (true, ⟨position, inside⟩)) (record : σ) :
    Comes (readList fields isFirst record c) rest (fill slots record ts) := by
  induction ts generalizing fields slots isFirst record c position inside with
  | nil => cases helements
  | cons t ts ih =>
    cases h with
    | nil =>
      obtain ⟨e, he⟩ := endList_error hnext
      exact ⟨e, by simp [readList, readElements, he, Bind.bind, Except.bind]⟩
    | @cons field slot fields slots hagrees h =>
      have hread : readList (field :: fields) isFirst record c =
          (field.read record ⟨position, inside⟩ >>= fun r => readList fields false r.1 r.2) := by
        rw [readList, readElements, hnext, ok_bind]
        dsimp only
        rw [if_pos rfl, bind_assoc]
        rfl
      rw [hread, fill]
      cases helements with
      | oneElement hvalue =>
        have hclosed := hstop.closed (closed_cons rest (by decide))
        refine (hagrees.takes record hvalue hclosed (.refl _) position).bind fun a position _ => ?_
        cases slots <;> exact readList_bracket fields false a hstop position
      | moreElements hvalue stop start more =>
        have hclosed := stop.closed (closed_cons _ (by decide))
        refine (hagrees.takes record hvalue hclosed (.refl _) position).bind fun a position _ => ?_
        obtain ⟨position', hnext⟩ := nextMember?_comma stop start more position
        exact ih h more hnext a

/-! ### Records -/

/-- **A record** is read as what its tree says. -/
theorem Takes.record (h : List.Forall₂ Agrees fields slots) (name : String) (default : σ) :
    Takes (readRecord name fields default) (decodeRecord slots default) := by
  intro t cs rest before hspelled hclosed hbefore position
  obtain ⟨position', hskip⟩ := hspelled.skipBlanks hbefore position
  rw [readRecord, hskip]
  cases hspelled with
  | emptyObject hempty =>
    exact readMembers_brace _ true [] default hempty (position'.afterChar '{')
  | object start hmembers stop =>
    obtain ⟨position'', hnext⟩ := nextKey?_first start hmembers (position'.afterChar '{')
    have hlength := Nat.le_trans hmembers.members_length_le start.length_le
    exact readMembers_spelled h hmembers stop _ (by simp only [List.length_cons]; omega) hnext []
      default
  | emptyList hempty =>
    have hfill : fill slots default [] = .ok default := by cases slots <;> rfl
    rw [decodeRecord, hfill]
    exact readList_bracket fields true default hempty (position'.afterChar '[')
  | list start helements stop =>
    obtain ⟨position'', hnext⟩ := nextMember?_first start helements (position'.afterChar '[')
    exact readList_spelled h helements stop hnext default
  | number n =>
    obtain ⟨d, ds, hd, hne⟩ := n.exists_chars_eq rest
    have hbrace := hne '{' (by decide) (by decide)
    have hbracket := hne '[' (by decide) (by decide)
    rw [hd]
    dsimp only
    split
    case h_1 heq => exact absurd (List.cons.inj heq).1 hbrace
    case h_2 heq => exact absurd (List.cons.inj heq).1 hbracket
    case h_3 => exact failType_error _ _
  | boolean b => cases b <;> exact failType_error _ _
  | null | text => exact failType_error _ _

end reading

/-! ### Whole texts -/

/-- A whole text comes to a result or to a fault. -/
def Settles {α : Type} (x : Except Error α) : Except Fault α → Prop
  | .ok a => x = .ok a
  | .error .misfit => ∃ e, x = .error e
  | .error (.twice key) => ∃ position, x = .error ⟨.duplicateField key, position⟩

theorem Settles.of_document {α : Type} {read : Cursor → Except Error (α × Cursor)}
    {decode : Tree → Except Fault α} (h : Takes read decode) {text : String} {t : Tree}
    (hdocument : Document text t) : Settles (readAll read text) (decode t) := by
  obtain ⟨cs, rest, hbefore, hspelled, hafter⟩ := hdocument
  have hread := h hspelled (hafter.closed closed_nil) hbefore ⟨1, 0⟩
  rw [readAll, Cursor.start]
  generalize decode t = r at hread ⊢
  rcases r with (_ | key) | a
  · obtain ⟨e, he⟩ := hread
    exact ⟨e, by rw [he]; rfl⟩
  · obtain ⟨position, he⟩ := hread
    exact ⟨position, by rw [he]; rfl⟩
  · obtain ⟨position, he⟩ := hread
    obtain ⟨position', hskip⟩ := Cursor.skipBlanks_of_blanks position hafter (by simp)
    rw [he, ok_bind]
    dsimp only
    rw [hskip]
    rfl

end Json

end StyleHost
