import StyleHost.Proofs.Json.Decoding

/-!
# Choices are read as what they say

A choice among names is a string, or an object that has the name as its only key and null as its
value.

* `Tree.choice?`, `Takes.choice` : the decoder, and the reader that agrees with it.
-/

namespace StyleHost

namespace Json

variable {α β : Type} {cs rest : List Char}

/-- A choice among names: as a string, or as the only key of an object with the value null. -/
def Tree.choice? (choices : List (String × α)) : Tree → Option α
  | .text name | .object [(name, .null)] =>
    name.bind fun name => (choices.find? (·.1 == name)).map (·.2)
  | _ => none

theorem expectColon_blanks (h : Blanks cs (':' :: rest)) (position : Position) :
    ∃ position', expectColon ⟨position, cs⟩ = .ok ⟨position', rest⟩ := by
  obtain ⟨position', hskip⟩ := Cursor.skipBlanks_mark position h (by decide)
  exact ⟨position'.afterChar ':', by simp [expectColon, hskip]⟩

/-- A null is expected and there, or something else is. -/
theorem expectNull_spelled {t : Tree} {before : List Char} (h : Spelled (.value t) cs rest)
    (hbefore : Blanks before cs) (position : Position) :
    (t = .null ∧ ∃ position', expectNull ⟨position, before⟩ = .ok ⟨position', rest⟩) ∨
      (t ≠ .null ∧ ∃ e, expectNull ⟨position, before⟩ = .error e) := by
  obtain ⟨position', hskip⟩ := h.skipBlanks hbefore position
  rw [expectNull, hskip]
  cases h with
  | null =>
    exact .inl ⟨rfl, Cursor.expectWord_append (position'.afterChar 'n') "ull".toList rest⟩
  | number n =>
    obtain ⟨d, ds, hd, hne⟩ := n.exists_chars_eq rest
    have hn := hne 'n' (by decide) (by decide)
    refine .inr ⟨nofun, ?_⟩
    rw [hd]
    dsimp only
    split
    case h_1 heq => exact absurd (List.cons.inj heq).1 hn
    case h_2 => exact failType_error _ _
  | boolean b => cases b <;> exact .inr ⟨nofun, failType_error _ _⟩
  | text | emptyList | list | emptyObject | object => exact .inr ⟨nofun, failType_error _ _⟩

section choices

variable (choices : List (String × α))

theorem readName_quoted (ps : List Piece) {before : List Char}
    (hbefore : Blanks before (quoted ps rest)) (position : Position) :
    Comes (readName choices ⟨position, before⟩) rest
      (wanted ((Tree.text (meaning ps)).choice? choices)) := by
  obtain ⟨position', hskip⟩ := Cursor.skipBlanks_mark position hbefore (by decide)
  have hread := readText_quoted ps (position'.afterChar '"') rest
  have hstring : readString "variant identifier" ⟨position, before⟩ =
      readText ⟨position'.afterChar '"', ps.flatMap Piece.chars ++ '"' :: rest⟩ := by
    rw [readString, hskip]
    rfl
  rw [readName, hstring, Tree.choice?]
  cases hname : meaning ps with
  | none =>
    rw [hname] at hread
    obtain ⟨e, he⟩ := hread
    exact ⟨e, by rw [he]; rfl⟩
  | some name =>
    rw [hname] at hread
    obtain ⟨position'', hread⟩ := hread
    rw [hread, ok_bind]
    dsimp only [Option.bind]
    cases choices.find? (·.1 == name) with
    | none => exact ⟨_, rfl⟩
    | some choice => exact ⟨position'', rfl⟩

theorem expectKey_quoted (ps : List Piece) (h : Blanks cs (quoted ps rest)) (position : Position) :
    ∃ position', expectKey ⟨position, cs⟩ = .ok ⟨position', quoted ps rest⟩ := by
  obtain ⟨position', hskip⟩ := Cursor.skipBlanks_mark position h (by decide)
  exact ⟨position', by rw [expectKey, hskip]; rfl⟩

/-- What has to follow the null of a choice that is an object. -/
def endChoice (a : α) (c : Cursor) : Except Error (α × Cursor) :=
  let c := c.skipBlanks
  match c.rest with
  | [] => c.failHere .endInObject
  | '}' :: _ => .ok (a, c.step)
  | _ => c.failHere .expectedValue

theorem endChoice_brace (a : α) (h : Blanks cs ('}' :: rest)) (position : Position) :
    Comes (endChoice a ⟨position, cs⟩) rest (.ok a) := by
  obtain ⟨position', hskip⟩ := Cursor.skipBlanks_mark position h (by decide)
  exact ⟨position'.afterChar '}', by simp [endChoice, hskip]⟩

theorem endChoice_comma (a : α) (h : Blanks cs (',' :: rest)) (position : Position) :
    ∃ e, endChoice a ⟨position, cs⟩ = .error e := by
  obtain ⟨position', hskip⟩ := Cursor.skipBlanks_mark position h (by decide)
  exact ⟨⟨.expectedValue, position'⟩, by simp [endChoice, hskip, Cursor.failHere]⟩

/-- A choice that is an object, behind its opening brace. -/
def readOnlyKey (c : Cursor) : Except Error (α × Cursor) := do
  let (a, c) ← readName choices (← expectKey c)
  endChoice a (← expectNull (← expectColon c))

/-- The first member: a name with its null. -/
theorem readOnlyKey_member {key : Option String} {t : Tree} {inside behind : List Char}
    {g : α → Except Fault α} (hstart : Blanks cs inside)
    (h : Spelled (.member key t) inside behind)
    (hnull : t = .null → ∀ a position, Comes (endChoice a ⟨position, behind⟩) rest (g a))
    (hother : t ≠ .null → ∀ a, g a = .error .misfit) (position : Position) :
    Comes (readOnlyKey choices ⟨position, cs⟩) rest
      (wanted ((Tree.text key).choice? choices) >>= g) := by
  cases h with
  | member ps stop start hvalue =>
    obtain ⟨position₁, hkey⟩ := expectKey_quoted ps hstart position
    rw [readOnlyKey, hkey, ok_bind]
    refine (readName_quoted choices ps (.refl _) position₁).bind fun a position₂ _ => ?_
    obtain ⟨position₃, hcolon⟩ := expectColon_blanks stop position₂
    dsimp only
    rw [hcolon, ok_bind]
    rcases expectNull_spelled hvalue start position₃ with ⟨ht, position₄, hread⟩ | ⟨ht, e, hread⟩
    · rw [hread, ok_bind]
      exact hnull ht a position₄
    · rw [hread, hother ht a]
      exact ⟨e, rfl⟩

theorem wanted_bind_misfit (o : Option α) :
    (wanted o >>= fun _ => (.error .misfit : Except Fault β)) = .error .misfit := by
  cases o <;> rfl

theorem wanted_bind_ok (o : Option α) : (wanted o >>= fun a => .ok a) = wanted o := by
  cases o <;> rfl

theorem readOnlyKey_members {ms : List (Option String × Tree)} {inside behind : List Char}
    (hstart : Blanks cs inside) (h : Spelled (.members ms) inside behind)
    (hstop : Blanks behind ('}' :: rest)) (position : Position) :
    Comes (readOnlyKey choices ⟨position, cs⟩) rest
      (wanted ((Tree.object ms).choice? choices)) := by
  cases h with
  | @oneMember key t _ _ hmember =>
    by_cases ht : t = .null
    · subst ht
      have hread := readOnlyKey_member choices hstart hmember
        (fun _ a => endChoice_brace a hstop) (fun h => absurd rfl h) position
      rwa [wanted_bind_ok] at hread
    · have hnone : (Tree.object [(key, t)]).choice? choices = none := by
        cases t <;> first | rfl | exact absurd rfl ht
      have hread : Comes (readOnlyKey choices ⟨position, cs⟩) rest
          (wanted ((Tree.text key).choice? choices) >>= fun _ => .error .misfit) :=
        readOnlyKey_member choices hstart hmember (fun h => absurd h ht) (fun _ _ => rfl) position
      rw [wanted_bind_misfit] at hread
      rw [hnone]
      exact hread
  | @moreMembers key t ms _ _ _ _ _ hmember stop _ more =>
    have hnone : (Tree.object ((key, t) :: ms)).choice? choices = none := by
      cases more <;> cases t <;> rfl
    have hread : Comes (readOnlyKey choices ⟨position, cs⟩) rest
        (wanted ((Tree.text key).choice? choices) >>= fun _ => .error .misfit) :=
      readOnlyKey_member (g := fun _ => .error .misfit) choices hstart hmember
        (fun _ a => endChoice_comma a stop) (fun _ _ => rfl) position
    rw [wanted_bind_misfit] at hread
    rw [hnone]
    exact hread

theorem Takes.choice : Takes (readChoice choices) fun t => wanted (t.choice? choices) := by
  intro t cs rest before h hclosed hbefore position
  obtain ⟨position', hskip⟩ := h.skipBlanks hbefore position
  rw [readChoice, hskip]
  cases h with
  | text ps => exact readName_quoted choices ps (.refl _) position'
  | number n =>
    obtain ⟨d, ds, hd, hne⟩ := n.exists_chars_eq rest
    have hquote := hne '"' (by decide) (by decide)
    have hbrace := hne '{' (by decide) (by decide)
    rw [hd]
    dsimp only
    split
    case h_1 heq => cases heq
    case h_2 heq => exact absurd (List.cons.inj heq).1 hquote
    case h_3 heq => exact absurd (List.cons.inj heq).1 hbrace
    case h_4 => exact ⟨_, rfl⟩
  | object start hmembers stop =>
    exact readOnlyKey_members choices start hmembers stop (position'.afterChar '{')
  | emptyObject hempty =>
    obtain ⟨position'', hend⟩ :=
      Cursor.skipBlanks_mark (position'.afterChar '{') hempty (by decide)
    refine ⟨⟨.expectedValue, position''.afterByte '}'⟩, ?_⟩
    change readOnlyKey choices ⟨position'.afterChar '{', _⟩ = _
    rw [readOnlyKey, expectKey, hend]
    rfl
  | boolean b => cases b <;> exact ⟨_, rfl⟩
  | null | emptyList | list => exact ⟨_, rfl⟩

end choices

end Json

end StyleHost
