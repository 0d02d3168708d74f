import StyleHost.Proofs.Xml.Document

/-!
# A text read piece by piece

Reading a text takes one piece after the other, each as an event. A comment and an instruction are
pieces of their own wherever they stand; they end where they are closed for the first time. Text
between markup is one piece however long it is, so that it can only be taken apart up to the extent
of its events (`Reads.cons_text`).

* `Xml.Reads` : a text is read to its end as the given events.
* `Xml.reads_iff_scan` : that is what the reader does on a text without fault.
* `Xml.isPiece_comment`, `Xml.isPiece_instruction` : comments and instructions.
-/

namespace StyleHost

namespace Xml

variable {opened : List Bytes} {text rest content piece : Bytes} {b mark : UInt8} {e : Event}
  {es : List Event}

/-! ### Reading to the end -/

/-- A text is read to its end as the given events; `opened` are the elements open before it. -/
inductive Reads : List Bytes → Bytes → List Event → Prop
  | nil {opened : List Bytes} : Reads opened [] []
  | cons {opened : List Bytes} {b : UInt8} {rest : Bytes} {piece : Piece} {es : List Event}
    (hnext : next opened b rest = .ok piece)
    (hrest : Reads piece.opened ((b :: rest).drop piece.size) es) :
    Reads opened (b :: rest) (piece.event :: es)

theorem reads_nil : Reads opened [] es ↔ es = [] := by
  constructor
  · rintro ⟨⟩
    rfl
  · rintro rfl
    exact .nil

theorem reads_cons : Reads opened (b :: rest) es ↔ ∃ piece, next opened b rest = .ok piece ∧
    ∃ es', es = piece.event :: es' ∧ Reads piece.opened ((b :: rest).drop piece.size) es' := by
  constructor
  · rintro (_ | ⟨hnext, hrest⟩)
    exact ⟨_, hnext, _, rfl, hrest⟩
  · rintro ⟨piece, hnext, es', rfl, hrest⟩
    exact .cons hnext hrest

/-- What reading finds in any number of steps that is enough for the text. -/
theorem reads_iff_scanUpTo {fuel : Nat} (h : text.length ≤ fuel) (offset : Nat) :
    Reads opened text es ↔ (scanUpTo fuel offset opened text).fault = none ∧
      es = (scanUpTo fuel offset opened text).events.map Located.event := by
  induction fuel generalizing offset opened text es with
  | zero =>
    obtain rfl := List.eq_nil_of_length_eq_zero (Nat.le_zero.1 h)
    exact ⟨fun h => ⟨rfl, reads_nil.1 h⟩, fun h => reads_nil.2 h.2⟩
  | succ fuel ih =>
    cases text with
    | nil => exact ⟨fun h => ⟨rfl, reads_nil.1 h⟩, fun h => reads_nil.2 h.2⟩
    | cons b rest =>
      rw [reads_cons, scanUpTo]
      cases hnext : next opened b rest with
      | error fault =>
        constructor
        · rintro ⟨_, ⟨⟩, -⟩
        · rintro ⟨⟨⟩, -⟩
      | ok piece =>
        -- every piece takes up some of the text
        have hsize := (next_follows b rest piece hnext).1
        have hrest : ((b :: rest).drop piece.size).length ≤ fuel := by
          rw [List.length_drop]
          omega
        have hih (es : List Event) : Reads piece.opened ((b :: rest).drop piece.size) es ↔ _ :=
          ih hrest (offset + piece.size)
        constructor
        · rintro ⟨_, ⟨⟩, es', rfl, hreads⟩
          obtain ⟨hfault, rfl⟩ := (hih es').1 hreads
          exact ⟨hfault, rfl⟩
        · rintro ⟨hfault, rfl⟩
          exact ⟨piece, rfl, _, rfl, (hih _).2 ⟨hfault, rfl⟩⟩

/-- **Reading a text to its end** is what the reader does if it finds no fault. -/
theorem reads_iff_scan :
    Reads [] (withoutMark text) es ↔ (scan text).fault = none ∧ es = eventsOf text :=
  reads_iff_scanUpTo (Nat.le_refl _) 0

/-! ### Pieces of their own -/

/-- Some bytes are read as one event, wherever they stand. -/
def IsPiece (piece : Bytes) (e : Event) : Prop :=
  ∀ opened rest, ∃ b bs, piece ++ rest = b :: bs ∧
    next opened b bs = .ok ⟨e, piece.length, opened⟩

theorem IsPiece.reads (h : IsPiece piece e) (hrest : Reads opened rest es) :
    Reads opened (piece ++ rest) (e :: es) := by
  obtain ⟨b, bs, htext, hnext⟩ := h opened rest
  rw [htext, reads_cons]
  refine ⟨_, hnext, es, rfl, ?_⟩
  rwa [← htext, List.drop_left]

/-! ### Comments -/

/-- The comment with the given content. -/
def comment (content : Bytes) : Bytes := codes "<!--" ++ content ++ codes "-->"

/-- A `>` ends what is marked if it is the first that a mark precedes twice. -/
theorem findAfter_append {before last : UInt8} (hmark : mark ≠ code '>')
    (h : ¬[mark, mark, code '>'] <:+: before :: last :: content) (index : Nat) :
    findAfter mark before last index (content ++ mark :: mark :: code '>' :: rest) =
      some (index + content.length + 2) := by
  induction content generalizing before last index with
  | nil =>
    rw [List.nil_append, findAfter, if_neg fun hend => hmark hend.1, findAfter,
      if_neg fun hend => hmark hend.1, findAfter, if_pos ⟨rfl, rfl, rfl⟩]
    rfl
  | cons b content ih =>
    have hnot : ¬(b = code '>' ∧ last = mark ∧ before = mark) := by
      rintro ⟨rfl, rfl, rfl⟩
      exact h ⟨[], content, rfl⟩
    have hrest : ¬[mark, mark, code '>'] <:+: last :: b :: content :=
      fun hwithin => h (hwithin.trans (List.suffix_cons _ _).isInfix)
    rw [List.cons_append, findAfter, if_neg hnot, ih hrest, List.length_cons]
    congr 1
    omega

/-- Searching may start with the third byte, since the first two cannot be the end. -/
theorem findAfter_drop (hmark : mark ≠ 0) (index : Nat) (text : Bytes) :
    findAfter mark (text.getD 0 0) (text.getD 1 0) (index + 2) (text.drop 2) =
      findAfter mark 0 0 index text := by
  have hne {p q : Prop} : ¬(p ∧ 0 = mark ∧ q) := fun hend => hmark hend.2.1.symm
  have hne' {p q : Prop} : ¬(p ∧ q ∧ 0 = mark) := fun hend => hmark hend.2.2.symm
  match text with
  | [] => rfl
  | [b] =>
    rw [findAfter, if_neg hne]
    rfl
  | b :: c :: rest =>
    rw [findAfter, if_neg hne, findAfter, if_neg hne']
    rfl

/-- **A comment is one piece.** -/
theorem isPiece_comment (h : ¬codes "-->" <:+: content) : IsPiece (comment content) .comment := by
  intro opened rest
  have hstart : ¬[code '-', code '-', code '>'] <:+: 0 :: 0 :: content := by
    intro hwithin
    rcases List.infix_cons_iff.1 hwithin with hhead | hwithin
    · exact absurd (List.cons_prefix_cons.1 hhead).1 (by decide)
    rcases List.infix_cons_iff.1 hwithin with hhead | hwithin
    · exact absurd (List.cons_prefix_cons.1 hhead).1 (by decide)
    · exact h hwithin
  let body := content ++ code '-' :: code '-' :: code '>' :: rest
  have hfind : findAfter (code '-') ((code '-' :: code '-' :: body).getD 2 0)
      ((code '-' :: code '-' :: body).getD 3 0) 4 ((code '-' :: code '-' :: body).drop 4) =
        some (content.length + 4) := by
    refine (findAfter_drop (by decide) 2 body).trans ?_
    rw [findAfter_append (by decide) hstart]
    congr 1
    omega
  have hread : readComment opened (code '-' :: code '-' :: body) =
      .ok ⟨.comment, content.length + 4 + 3, opened⟩ := by
    rw [readComment, hfind]
    rfl
  have hlength : (comment content).length = content.length + 4 + 3 := by simp [comment, codes]
  refine ⟨code '<', code '!' :: code '-' :: code '-' :: body, ?_, ?_⟩
  · simp [comment, body, codes]
  · rw [next, if_pos rfl, readMarkup, if_pos rfl, readBang, if_neg (by decide), if_pos rfl, hread,
      hlength]

/-! ### Instructions -/

/-- The instruction with the given content. -/
def instruction (content : Bytes) : Bytes := codes "<?" ++ content ++ codes "?>"

/-- A `>` ends an instruction if it is the first after a question mark. -/
theorem findInstructionEnd_append {last : UInt8} (h : ¬codes "?>" <:+: last :: content)
    (index : Nat) : findInstructionEnd last index (content ++ code '?' :: code '>' :: rest) =
      some (index + content.length + 1) := by
  induction content generalizing last index with
  | nil =>
    rw [List.nil_append, findInstructionEnd, if_neg fun hend => absurd hend.1 (by decide),
      findInstructionEnd, if_pos ⟨rfl, rfl⟩]
    rfl
  | cons b content ih =>
    have hnot : ¬(b = code '>' ∧ last = code '?') := by
      rintro ⟨rfl, rfl⟩
      exact h ⟨[], content, rfl⟩
    have hrest : ¬codes "?>" <:+: b :: content :=
      fun hwithin => h (hwithin.trans (List.suffix_cons _ _).isInfix)
    rw [List.cons_append, findInstructionEnd, if_neg hnot, ih hrest, List.length_cons]
    congr 1
    omega

/-- **An instruction is one piece**, also the declaration of the document. -/
theorem isPiece_instruction (h : ¬codes "?>" <:+: code '?' :: content) :
    IsPiece (instruction content) (instructionOf content) := by
  intro opened rest
  let body := content ++ code '?' :: code '>' :: rest
  have hfind : findInstructionEnd 0 0 (code '?' :: body) = some (content.length + 2) := by
    rw [findInstructionEnd, if_neg fun hend => absurd hend.1 (by decide),
      findInstructionEnd_append h]
    congr 1
    omega
  have hcontent : ((code '?' :: body).take (content.length + 2 - 1)).drop 1 = content := by
    simp [body]
  have hread : readInstruction opened (code '?' :: body) =
      .ok ⟨instructionOf content, content.length + 2 + 2, opened⟩ := by
    rw [readInstruction, hfind]
    dsimp only
    rw [if_neg (by omega), hcontent]
  have hlength : (instruction content).length = content.length + 2 + 2 := by
    simp [instruction, codes]
  refine ⟨code '<', code '?' :: body, ?_, ?_⟩
  · simp [instruction, body, codes]
  · rw [next, if_pos rfl, readMarkup, if_neg (by decide), if_pos rfl, hread, hlength]

/-! ### Text -/

/-- Text is one piece up to the next markup. -/
theorem reads_text (hb : isMarkup b = false) : Reads opened (b :: rest) es ↔
    ∃ es', es = .text (b :: rest.takeWhile (!isMarkup ·)) :: es' ∧
      Reads opened (rest.dropWhile (!isMarkup ·)) es' := by
  rw [isMarkup, Bool.or_eq_false_iff, beq_eq_false_iff_ne, beq_eq_false_iff_ne] at hb
  have hsplit := List.takeWhile_append_dropWhile (p := (!isMarkup ·)) (l := rest)
  have hrest : (b :: rest).drop (b :: rest.takeWhile (!isMarkup ·)).length =
      rest.dropWhile (!isMarkup ·) := by
    rw [List.length_cons, List.drop_succ_cons]
    exact (congrArg _ hsplit.symm).trans List.drop_left
  rw [reads_cons, next, if_neg hb.1, if_neg hb.2]
  constructor
  · rintro ⟨_, ⟨⟩, es', rfl, hreads⟩
    exact ⟨es', rfl, hrest ▸ hreads⟩
  · rintro ⟨es', rfl, hreads⟩
    exact ⟨_, rfl, es', rfl, hrest ▸ hreads⟩

/-- A byte of text before what is read as `es` makes for one more event, or for a longer one. -/
theorem Reads.cons_text (hb : isMarkup b = false) (h : Reads opened rest es) :
    ∃ content tail, Reads opened (b :: rest) (.text content :: tail) ∧
      (es = tail ∨ ∃ shorter, es = .text shorter :: tail) := by
  cases rest with
  | nil => exact ⟨[b], es, (reads_text hb).2 ⟨es, rfl, h⟩, .inl rfl⟩
  | cons c rest =>
    cases hc : isMarkup c with
    | true =>
      have hdrop : (c :: rest).dropWhile (!isMarkup ·) = c :: rest :=
        List.dropWhile_cons_of_neg (by simp [hc])
      exact ⟨_, es, (reads_text hb).2 ⟨es, rfl, by rwa [hdrop]⟩, .inl rfl⟩
    | false =>
      obtain ⟨tail, rfl, htail⟩ := (reads_text hc).1 h
      have hdrop : (c :: rest).dropWhile (!isMarkup ·) = rest.dropWhile (!isMarkup ·) :=
        List.dropWhile_cons_of_pos (by simp [hc])
      exact ⟨_, tail, (reads_text hb).2 ⟨tail, rfl, by rwa [hdrop]⟩, .inr ⟨_, rfl⟩⟩

end Xml

end StyleHost
