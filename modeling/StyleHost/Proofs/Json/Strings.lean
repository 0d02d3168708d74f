import StyleHost.Json.Record
import StyleHost.Proofs.Json.Skipping

/-!
# Strings are read as what they denote

A reader of values sees characters, but what comes of it depends on the tree alone: two texts that
say the same are read alike, whatever their white space and their escapes. So each reader has a
decoder of trees that it agrees with, also on faults. The first one is that of strings, on which
all others rest.

* `Comes`, `Takes` : a reader agrees with a decoder.
* `readText_quoted` : strings, with the surrogates that denote no text.
-/

namespace StyleHost

namespace Json

/-- Why a tree is not what was wanted. -/
inductive Fault where
  /-- It is of another kind, or a string of it denotes no text. -/
  | misfit
  /-- It gives a field twice. -/
  | twice (key : String)

variable {α β : Type} {cs rest : List Char}

/-- A value that is there, or the fault of one that is not. -/
def wanted : Option α → Except Fault α
  | some a => .ok a
  | none => .error .misfit

/-- A reading comes to a result, with `rest` still ahead, or to a fault. -/
def Comes (x : Except Error (α × Cursor)) (rest : List Char) : Except Fault α → Prop
  | .ok a => ∃ position, x = .ok (a, ⟨position, rest⟩)
  | .error .misfit => ∃ e, x = .error e
  | .error (.twice key) => ∃ position, x = .error ⟨.duplicateField key, position⟩

theorem Comes.bind {x : Except Error (α × Cursor)} {r : Except Fault α} {after : List Char}
    {f : α × Cursor → Except Error (β × Cursor)} {g : α → Except Fault β} (h : Comes x rest r)
    (hf : ∀ a position, r = .ok a → Comes (f (a, ⟨position, rest⟩)) after (g a)) :
    Comes (x >>= f) after (r >>= g) := by
  rcases r with (_ | key) | a
  · obtain ⟨e, rfl⟩ := h
    exact ⟨e, rfl⟩
  · obtain ⟨position, rfl⟩ := h
    exact ⟨position, rfl⟩
  · obtain ⟨position, rfl⟩ := h
    exact hf a position rfl

theorem Comes.map {x : Except Error (α × Cursor)} {r : Except Fault α} (h : Comes x rest r)
    (f : α → β) : Comes (x.map fun r => (f r.1, r.2)) rest (r.map f) := by
  rcases r with (_ | key) | a
  · obtain ⟨e, rfl⟩ := h
    exact ⟨e, rfl⟩
  · obtain ⟨position, rfl⟩ := h
    exact ⟨position, rfl⟩
  · obtain ⟨position, rfl⟩ := h
    exact ⟨position, rfl⟩

/-- The reader agrees with the decoder on every value, however it is spelled. -/
def Takes (read : Cursor → Except Error (α × Cursor)) (decode : Tree → Except Fault α) : Prop :=
  ∀ ⦃t cs rest before⦄, Spelled (.value t) cs rest → Closed rest → Blanks before cs →
    ∀ position, Comes (read ⟨position, before⟩) rest (decode t)

theorem Takes.map {read : Cursor → Except Error (α × Cursor)} {decode : Tree → Except Fault α}
    (h : Takes read decode) (f : α → β) :
    Takes (fun c => (read c).map fun r => (f r.1, r.2)) fun t => (decode t).map f :=
  fun _ _ _ _ hspelled hclosed hbefore position => (h hspelled hclosed hbefore position).map f

/-! ### Strings -/

section units

variable {a b c d a' b' c' d' : Char} {first second : Nat}

/-- A unit that is no surrogate. -/
theorem readUnicode_unit (h : fourHex? a b c d = some first) (htrailing : isTrailing first = false)
    (hleading : isLeading first = false) (position : Position) (rest : List Char) : ∃ position',
      readUnicode ⟨position, a :: b :: c :: d :: rest⟩ =
        .ok (Char.ofNat first, ⟨position', rest⟩) := by
  obtain ⟨position', hunit⟩ := readUnit_of_fourHex h position rest
  exact ⟨position', by simp [readUnicode, hunit, htrailing, hleading, ok_bind]⟩

theorem readUnicode_trailing (h : fourHex? a b c d = some first)
    (htrailing : isTrailing first = true) (position : Position) (rest : List Char) :
    ∃ e, readUnicode ⟨position, a :: b :: c :: d :: rest⟩ = .error e := by
  obtain ⟨position', hunit⟩ := readUnit_of_fourHex h position rest
  exact ⟨⟨.loneSurrogate, position'⟩, by
    simp [readUnicode, hunit, htrailing, ok_bind, Cursor.failHere]⟩

/-- Two surrogates that belong together, and two that do not. -/
theorem readUnicode_pair (h : fourHex? a b c d = some first)
    (h' : fourHex? a' b' c' d' = some second) (htrailing : isTrailing first = false)
    (hleading : isLeading first = true) (position : Position) (rest : List Char) :
    Comes (readUnicode ⟨position, a :: b :: c :: d :: '\\' :: 'u' :: a' :: b' :: c' :: d' :: rest⟩)
      rest (wanted (if isTrailing second then some (pairChar first second) else none)) := by
  obtain ⟨position₁, hunit⟩ :=
    readUnit_of_fourHex h position ('\\' :: 'u' :: a' :: b' :: c' :: d' :: rest)
  obtain ⟨position₂, hunit'⟩ :=
    readUnit_of_fourHex h' ((position₁.afterChar '\\').afterChar 'u') rest
  have hread : readUnicode
      ⟨position, a :: b :: c :: d :: '\\' :: 'u' :: a' :: b' :: c' :: d' :: rest⟩ =
      if isTrailing second then .ok (pairChar first second, ⟨position₂, rest⟩)
      else .error ⟨.loneSurrogate, position₂⟩ := by
    simp [readUnicode, hunit, htrailing, hleading, ok_bind, expectInPair, hunit', Cursor.failHere]
  rw [hread]
  cases isTrailing second with
  | true => exact ⟨position₂, rfl⟩
  | false => exact ⟨_, rfl⟩

/-- A surrogate behind which there is no other unit. -/
theorem readUnicode_lone (h : fourHex? a b c d = some first) (htrailing : isTrailing first = false)
    (hleading : isLeading first = true) (position : Position)
    (hrest : ∀ cs, rest ≠ '\\' :: 'u' :: cs) :
    ∃ e, readUnicode ⟨position, a :: b :: c :: d :: rest⟩ = .error e := by
  obtain ⟨position', hunit⟩ := readUnit_of_fourHex h position rest
  have hread : readUnicode ⟨position, a :: b :: c :: d :: rest⟩ =
      (expectInPair ⟨position', rest⟩ '\\' >>= fun c => expectInPair c 'u' >>= fun c =>
        readUnit c >>= fun r => if isTrailing r.1 then .ok (pairChar first r.1, r.2)
          else r.2.failHere .loneSurrogate) := by
    simp [readUnicode, hunit, htrailing, hleading, ok_bind]
  rw [hread]
  rcases rest with _ | ⟨e, rest⟩
  · exact ⟨_, rfl⟩
  · by_cases he : e = '\\'
    · subst he
      rcases rest with _ | ⟨e, rest⟩
      · exact ⟨_, rfl⟩
      · have he : e ≠ 'u' := fun he => hrest rest (he ▸ rfl)
        simp [expectInPair, he, Cursor.failNext, Bind.bind, Except.bind]
    · simp [expectInPair, he, Cursor.failNext, Bind.bind, Except.bind]

end units

section escapes

variable {fuel : Nat} {read : List Char} {position : Position}

/-- An escape by number within a string. -/
theorem readTextUpTo_escape :
    readTextUpTo (fuel + 1) read ⟨position, '\\' :: 'u' :: cs⟩ =
      (readUnicode ⟨(position.afterChar '\\').afterChar 'u', cs⟩ >>= fun r =>
        readTextUpTo fuel (r.1 :: read) r.2) := rfl

theorem readTextUpTo_unit {position' : Position} {c : Char} {after : List Char}
    {r : Except Fault String}
    (h : readUnicode ⟨(position.afterChar '\\').afterChar 'u', cs⟩ = .ok (c, ⟨position', after⟩))
    (hmore : Comes (readTextUpTo fuel (c :: read) ⟨position', after⟩) rest r) :
    Comes (readTextUpTo (fuel + 1) read ⟨position, '\\' :: 'u' :: cs⟩) rest r := by
  rwa [readTextUpTo_escape, h, ok_bind]

theorem readTextUpTo_fault
    (h : ∃ e, readUnicode ⟨(position.afterChar '\\').afterChar 'u', cs⟩ = .error e) :
    ∃ e, readTextUpTo (fuel + 1) read ⟨position, '\\' :: 'u' :: cs⟩ = .error e := by
  obtain ⟨e, he⟩ := h
  exact ⟨e, by rw [readTextUpTo_escape, he]; rfl⟩

end escapes

theorem map_cons_map (read : List Char) (c : Char) (cs : Option (List Char)) :
    (cs.map (c :: ·)).map (fun cs => String.ofList (read.reverse ++ cs)) =
      cs.map fun cs => String.ofList ((c :: read).reverse ++ cs) := by
  cases cs <;> simp

/-- Only a unit is written as one: the letter of no short escape is that of a unit. -/
theorem flatMap_chars_ne_unit {ps : List Piece}
    (h : ∀ a b c d value hvalue ps', ps = .unit a b c d value hvalue :: ps' → False)
    (rest cs : List Char) : ps.flatMap Piece.chars ++ '"' :: rest ≠ '\\' :: 'u' :: cs := by
  intro heq
  rcases ps with _ | ⟨⟨c, hplain⟩ | ⟨letter, c, hshort⟩ | _, ps⟩
  · cases heq
  · obtain rfl : c = '\\' := by simp_all [Piece.chars]
    exact hplain.2.1 rfl
  · obtain rfl : letter = 'u' := by simp_all [Piece.chars]
    simp [escapes] at hshort
  · exact h _ _ _ _ _ _ _ rfl

/-- **The pieces of a string** are read as what they denote. Two of them make up one character
where they are surrogates, so that the induction is that of `denote`. -/
theorem readTextUpTo_pieces (ps : List Piece) (fuel : Nat) (h : ps.length < fuel)
    (read : List Char) (position : Position) (rest : List Char) :
    Comes (readTextUpTo fuel read ⟨position, ps.flatMap Piece.chars ++ '"' :: rest⟩) rest
      (wanted ((denote ps).map fun cs => String.ofList (read.reverse ++ cs))) := by
  induction ps using denote.induct generalizing fuel read position
  all_goals
    obtain ⟨fuel, rfl⟩ := Nat.exists_eq_succ_of_ne_zero (Nat.ne_zero_of_lt h)
  case case1 => exact ⟨position.afterChar '"', by simp [readTextUpTo]⟩
  case case2 c hplain ps ih =>
    obtain ⟨hquote, hbackslash, hcontrol⟩ := hplain
    rw [denote, map_cons_map]
    have hread := ih fuel (Nat.lt_of_succ_lt_succ h) (c :: read) (position.afterChar c)
    simpa [readTextUpTo, hcontrol, Piece.chars] using hread
  case case3 letter c hshort ps ih =>
    have hletter := (escapes_iff letter c).1 hshort
    have hu : letter ≠ 'u' := by rintro rfl; cases hletter
    rw [denote, map_cons_map]
    have hread := ih fuel (Nat.lt_of_succ_lt_succ h) (c :: read)
      ((position.afterChar '\\').afterChar letter)
    simpa [readTextUpTo, readEscape, hletter, ok_bind, Piece.chars] using hread
  case case4 first hfirst ps htrailing =>
    rw [denote_unit, if_pos htrailing]
    exact readTextUpTo_fault (readUnicode_trailing hfirst htrailing _ _)
  case case5 first hfirst htrailing hleading _ _ _ _ second hsecond ps hpair ih =>
    rw [Bool.not_eq_true] at htrailing
    have hread := readUnicode_pair hfirst hsecond htrailing hleading
      ((position.afterChar '\\').afterChar 'u') (ps.flatMap Piece.chars ++ '"' :: rest)
    rw [if_pos hpair] at hread
    obtain ⟨position', hread⟩ := hread
    rw [denote_unit, htrailing, if_neg (by decide), if_pos hleading]
    dsimp only
    rw [if_pos hpair, map_cons_map]
    simp only [List.flatMap_cons, Piece.chars, List.cons_append, List.nil_append]
    exact readTextUpTo_unit hread (ih fuel (by simp at h; omega) _ position')
  case case6 first hfirst htrailing hleading _ _ _ _ second hsecond ps hpair =>
    rw [Bool.not_eq_true] at htrailing
    have hread := readUnicode_pair hfirst hsecond htrailing hleading
      ((position.afterChar '\\').afterChar 'u') (ps.flatMap Piece.chars ++ '"' :: rest)
    rw [if_neg hpair] at hread
    rw [denote_unit, htrailing, if_neg (by decide), if_pos hleading]
    dsimp only
    rw [if_neg hpair]
    simp only [List.flatMap_cons, Piece.chars, List.cons_append, List.nil_append]
    exact readTextUpTo_fault hread
  case case7 first hfirst ps htrailing hleading hlone =>
    rw [Bool.not_eq_true] at htrailing
    rw [denote_unit, htrailing, if_neg (by decide), if_pos hleading]
    split
    case h_1 => exact absurd rfl (hlone _ _ _ _ _ _ _)
    case h_2 =>
      have hnext := flatMap_chars_ne_unit hlone rest
      exact readTextUpTo_fault (readUnicode_lone hfirst htrailing hleading _ hnext)
  case case8 first hfirst ps htrailing hleading ih =>
    rw [Bool.not_eq_true] at htrailing hleading
    obtain ⟨position', hread⟩ := readUnicode_unit hfirst htrailing hleading
      ((position.afterChar '\\').afterChar 'u') (ps.flatMap Piece.chars ++ '"' :: rest)
    rw [denote_unit, htrailing, hleading, if_neg (by decide), if_neg (by decide), map_cons_map]
    exact readTextUpTo_unit hread (ih fuel (Nat.lt_of_succ_lt_succ h) _ position')

/-- **A string** is read as the text that it denotes; one that denotes none is a fault. -/
theorem readText_quoted (ps : List Piece) (position : Position) (rest : List Char) :
    Comes (readText ⟨position, ps.flatMap Piece.chars ++ '"' :: rest⟩) rest
      (wanted (meaning ps)) := by
  have hlength := length_le_flatMap_chars ps
  have hread := readTextUpTo_pieces ps ((ps.flatMap Piece.chars ++ '"' :: rest).length + 1)
    (by rw [List.length_append]; omega) [] position rest
  exact hread

end Json

end StyleHost
