import Mathlib.Tactic.SplitIfs
import StyleHost.Config.Printer
import StyleHost.Json.Record

/-!
# Values read back as they were written

What the writer puts down for a value, the reader takes for that value, wherever it stands and
whatever follows it (`Json.Reads`). Only a number needs something after it that cannot belong to it
(`Json.Closed`); in an object that is a comma or a brace.

* `Reads.flag`, `Reads.word`, `Reads.string`, `Reads.choice` : the values of fields.
* `Reads.optional` : a value that could be missing but is there.
-/

namespace StyleHost

namespace Json

variable {α : Type}

/-- Nothing that could belong to a number stands at the start of a text. -/
def Closed (rest : List Char) : Prop :=
  ∀ d ∈ rest.head?, d.isDigit = false ∧ d ≠ '.' ∧ d ≠ 'e' ∧ d ≠ 'E'

/-- The reader takes the text `cs` for `a`. -/
def Reads (read : Cursor → Except Error (α × Cursor)) (cs : List Char) (a : α) : Prop :=
  ∀ position rest, Closed rest → ∃ position',
    read ⟨position, cs ++ rest⟩ = .ok (a, ⟨position', rest⟩)

theorem closed_nil : Closed [] := nofun

theorem closed_cons {d : Char} (rest : List Char)
    (h : d.isDigit = false ∧ d ≠ '.' ∧ d ≠ 'e' ∧ d ≠ 'E') : Closed (d :: rest) := by
  rintro _ ⟨⟩
  exact h

theorem ok_bind {β : Type} (a : α) (f : α → Except Error β) : (Except.ok a >>= f) = f a := rfl

theorem Reads.map {β : Type} {read : Cursor → Except Error (α × Cursor)} {cs : List Char} {a : α}
    (h : Reads read cs a) (f : α → β) :
    Reads (fun c => (read c).map fun r => (f r.1, r.2)) cs (f a) := by
  intro position rest hrest
  obtain ⟨position', hread⟩ := h position rest hrest
  refine ⟨position', ?_⟩
  dsimp only
  rw [hread]
  rfl

/-! ### Cursors -/

namespace Cursor

variable {p : Char → Bool} {d : Char} {ds : List Char}

@[simp]
theorem step_mk (position : Position) (d : Char) (ds : List Char) :
    (⟨position, d :: ds⟩ : Cursor).step = ⟨position.afterChar d, ds⟩ := rfl

theorem skipWhile_append (position : Position) {cs rest : List Char} (hcs : ∀ d ∈ cs, p d = true)
    (hrest : ∀ d ∈ rest.head?, p d = false) :
    ∃ position', skipWhile p position (cs ++ rest) = ⟨position', rest⟩ := by
  induction cs generalizing position with
  | nil =>
    cases rest with
    | nil => exact ⟨position, rfl⟩
    | cons d ds => exact ⟨position, by rw [List.nil_append, skipWhile, hrest d rfl]; rfl⟩
  | cons d cs ih =>
    obtain ⟨position', h⟩ := ih (position.afterChar d) fun e he => hcs e (List.mem_cons_of_mem _ he)
    exact ⟨position', by rw [List.cons_append, skipWhile, if_pos (hcs d List.mem_cons_self), h]⟩

/-- There are no blanks before other characters. -/
theorem skipBlanks_cons (position : Position) (h : isBlank d = false) :
    (⟨position, d :: ds⟩ : Cursor).skipBlanks = ⟨position, d :: ds⟩ := by
  rw [skipBlanks, skipWhile, h]
  rfl

theorem expectWord_append (position : Position) (word rest : List Char) :
    ∃ position', (⟨position, word ++ rest⟩ : Cursor).expectWord word = .ok ⟨position', rest⟩ := by
  induction word generalizing position with
  | nil => exact ⟨position, rfl⟩
  | cons d word ih =>
    obtain ⟨position', h⟩ := ih (position.afterChar d)
    exact ⟨position', by rw [List.cons_append, expectWord]; exact (if_pos rfl).trans h⟩

end Cursor

/-! ### Booleans -/

theorem Reads.flag (b : Bool) : Reads readFlag (writeFlag b) b := by
  intro position rest _
  cases b with
  | true =>
    obtain ⟨position', h⟩ := Cursor.expectWord_append (position.afterChar 't') "rue".toList rest
    refine ⟨position', ?_⟩
    change (do .ok (true, ← Cursor.expectWord _ "rue".toList)) = _
    exact congrArg (fun x => x.map fun c => (true, c)) h
  | false =>
    obtain ⟨position', h⟩ := Cursor.expectWord_append (position.afterChar 'f') "alse".toList rest
    refine ⟨position', ?_⟩
    change (do .ok (false, ← Cursor.expectWord _ "alse".toList)) = _
    exact congrArg (fun x => x.map fun c => (false, c)) h

/-! ### Words -/

/-- Digits are appended as long as the number that they make with those before is in bounds. -/
theorem appendDigits_eq {bound value count : Nat} {ds : List Char}
    (h : Nat.ofDigitChars 10 ds value ≤ bound) :
    appendDigits bound value count ds =
      (Nat.ofDigitChars 10 ds value, count + ds.length, true) := by
  induction ds generalizing value count with
  | nil => rfl
  | cons d ds ih =>
    rw [Nat.ofDigitChars_cons] at h ⊢
    -- a number only grows with further digits
    have hle : 10 * value + (d.toNat - '0'.toNat) ≤ bound := by
      refine Nat.le_trans ?_ h
      rw [Nat.ofDigitChars_eq_ofDigitChars_zero]
      have hpow : 0 < 10 ^ ds.length := Nat.pow_pos (by decide)
      exact Nat.le_trans (Nat.le_mul_of_pos_left _ hpow) (Nat.le_add_right _ _)
    rw [appendDigits, if_pos hle, ih h, List.length_cons, Nat.add_assoc, Nat.add_comm 1]

/-- Only zero is written with a leading zero. -/
theorem head?_digitChars {n : Nat} (h : 0 < n) : (Number.digitChars n).head? ≠ some '0' := by
  rw [Number.digitChars]
  induction n using Nat.strongRecOn with
  | ind n ih =>
    by_cases hn : n < 10
    · have hall : ∀ m < 10, 0 < m → [m.digitChar].head? ≠ some '0' := by decide
      rw [Nat.toDigits_of_lt_base hn]
      exact hall n hn h
    · rw [Nat.toDigits_of_base_le (by decide) (Nat.le_of_not_lt hn), List.head?_append,
        Option.or_of_isSome (by simp [List.isSome_head?, Nat.toDigits_ne_nil])]
      exact ih (n / 10) (by omega) (by omega)

theorem isDigit_of_mem_digitChars {n : Nat} : ∀ d ∈ Number.digitChars n, d.isDigit = true :=
  fun _ => Nat.isDigit_of_mem_toDigits (by decide) (by decide)

theorem digits_append (position : Position) {ds rest : List Char} (hds : ∀ d ∈ ds, d.isDigit = true)
    (hafter : ∀ d ∈ rest.head?, d.isDigit = false) : ∃ position',
      (⟨position, ds ++ rest⟩ : Cursor).digits = (ds, ⟨position', rest⟩) := by
  have htake : (ds ++ rest).takeWhile Char.isDigit = ds := by
    rw [List.takeWhile_append_of_pos hds]
    cases rest with
    | nil => rw [List.takeWhile_nil, List.append_nil]
    | cons d rest => rw [List.takeWhile_cons_of_neg (by simp [hafter d rfl]), List.append_nil]
  obtain ⟨position', hskip⟩ := Cursor.skipWhile_append position hds hafter
  exact ⟨position', by rw [Cursor.digits, htake, hskip]⟩

theorem readTail_of_closed (value : Nat) (position : Position) {rest : List Char}
    (hrest : Closed rest) :
    readTail true value 0 ⟨position, rest⟩ = .ok (.natural value, ⟨position, rest⟩) := by
  cases rest with
  | nil => rfl
  | cons d rest =>
    obtain ⟨-, hpoint, he, hE⟩ := hrest d rfl
    unfold readTail
    split <;> simp_all [integerOf]

/-- An integer within 64 bits is read as it is. -/
theorem readNumber_digits {ds rest : List Char} (hne : ds ≠ []) (hds : ∀ d ∈ ds, d.isDigit = true)
    (hshort : ds.head? = some '0' → ds = ['0']) (h : Nat.ofDigitChars 10 ds 0 ≤ maxWord)
    (position : Position) (hrest : Closed rest) : ∃ position',
      readNumber true ⟨position, ds ++ rest⟩ =
        .ok (.natural (Nat.ofDigitChars 10 ds 0), ⟨position', rest⟩) := by
  obtain ⟨position', hdigits⟩ := digits_append position hds fun d hd => (hrest d hd).1
  have happend : appendDigits maxWord 0 0 ds = (Nat.ofDigitChars 10 ds 0, ds.length, true) := by
    rw [appendDigits_eq h, Nat.zero_add]
  refine ⟨position', ?_⟩
  rw [readNumber, hdigits]
  split
  case h_1 heq => exact absurd (congrArg Prod.fst heq) hne
  case h_2 heq =>
    -- a leading zero stands alone
    have hlead := congrArg Prod.fst heq
    dsimp only at hlead
    rw [hlead] at hshort
    cases hshort rfl
  case h_3 digits after _ _ heq =>
    obtain ⟨rfl, rfl⟩ := Prod.mk.inj heq
    rw [happend]
    dsimp only
    rw [Nat.sub_self]
    exact readTail_of_closed _ position' hrest

theorem readNumber_digitChars {n : Nat} (h : n ≤ maxWord) (position : Position) {rest : List Char}
    (hrest : Closed rest) : ∃ position',
      readNumber true ⟨position, Number.digitChars n ++ rest⟩ =
        .ok (.natural n, ⟨position', rest⟩) := by
  have hvalue : Nat.ofDigitChars 10 (Number.digitChars n) 0 = n := Nat.ofDigitChars_ten_toDigits
  have hshort : (Number.digitChars n).head? = some '0' → Number.digitChars n = ['0'] := by
    intro hzero
    rcases Nat.eq_zero_or_pos n with rfl | hpos
    · rfl
    · exact absurd hzero (head?_digitChars hpos)
  have hne : Number.digitChars n ≠ [] := Nat.toDigits_ne_nil
  obtain ⟨position', hread⟩ := readNumber_digits hne isDigit_of_mem_digitChars hshort
    (by rwa [hvalue]) position hrest
  exact ⟨position', by rwa [hvalue] at hread⟩

/-- A digit is neither blank nor the start of another value. -/
theorem of_isDigit {d : Char} (h : d.isDigit = true) :
    Cursor.isBlank d = false ∧ d ≠ '-' ∧ d ≠ 'n' := by
  have hblank : Cursor.isBlank d = false := by
    rw [Bool.eq_false_iff]
    simp only [Cursor.isBlank, Bool.or_eq_true, beq_iff_eq, ne_eq]
    rintro (((rfl | rfl) | rfl) | rfl) <;> cases h
  refine ⟨hblank, ?_, ?_⟩ <;> (rintro rfl; cases h)

theorem exists_digitChars_eq_cons (n : Nat) :
    ∃ d ds, Number.digitChars n = d :: ds ∧ d.isDigit = true := by
  obtain ⟨d, ds, h⟩ := List.exists_cons_of_ne_nil (Nat.toDigits_ne_nil (n := n) (b := 10))
  exact ⟨d, ds, h, isDigit_of_mem_digitChars d (h ▸ List.mem_cons_self)⟩

theorem Reads.word (wanted : String) (n : UInt64) : Reads (readWord wanted) (writeWord n) n := by
  intro position rest hrest
  obtain ⟨d, ds, hds, hd⟩ := exists_digitChars_eq_cons n.toNat
  obtain ⟨hblank, hminus, -⟩ := of_isDigit hd
  obtain ⟨position', hnumber⟩ :=
    readNumber_digitChars (Nat.le_sub_one_of_lt n.toNat_lt) position hrest
  refine ⟨position', ?_⟩
  rw [hds, List.cons_append] at hnumber
  rw [writeWord, hds, List.cons_append, readWord, Cursor.skipBlanks_cons _ hblank]
  dsimp only
  split
  case h_1 heq => exact absurd (List.cons.inj heq).1 hminus
  case h_2 heq =>
    obtain ⟨rfl, rfl⟩ := List.cons.inj heq
    rw [if_pos hd, hnumber]
    exact congrArg (fun n => Except.ok (n, _)) (UInt64.ofNat_toNat)
  case h_3 heq => cases heq

/-! ### Strings -/

/-- A control character is escaped by its number. -/
theorem exists_controlEscape {c : Char} (h : isControl c = true) : ∃ x y,
    controlEscape c = ['\\', 'u', '0', '0', x, y] ∧ fourHex? '0' '0' x y = some c.toNat := by
  have hall : ∀ n < 0x20, fourHex? '0' '0'
      (if n / 16 < 10 then Char.ofNat (48 + n / 16) else Char.ofNat (87 + n / 16))
      (if n % 16 < 10 then Char.ofNat (48 + n % 16) else Char.ofNat (87 + n % 16)) = some n := by
    decide
  exact ⟨_, _, rfl, hall c.toNat (of_decide_eq_true h)⟩

theorem readEscape_controlEscape {c : Char} (h : isControl c = true) (position : Position)
    (rest : List Char) : ∃ position',
      readEscape ⟨position, (controlEscape c).drop 1 ++ rest⟩ = .ok (c, ⟨position', rest⟩) := by
  obtain ⟨x, y, hescape, hunit⟩ := exists_controlEscape h
  have hsmall : c.toNat < 0x20 := of_decide_eq_true h
  have htrailing : isTrailing c.toNat = false := by simp [isTrailing]; omega
  have hleading : isLeading c.toNat = false := by simp [isLeading]; omega
  let start := position.afterChar 'u'
  refine ⟨(((start.afterChar '0').afterChar '0').afterChar x).afterChar y, ?_⟩
  rw [hescape]
  change readUnicode ⟨start, '0' :: '0' :: x :: y :: rest⟩ = _
  rw [readUnicode, readUnit]
  simp only [hunit]
  change (if isTrailing c.toNat = true then _ else if (!isLeading c.toNat) = true then _ else _) = _
  rw [htrailing, hleading, Char.ofNat_toNat]
  rfl

/-- **One character** is read as it was written. -/
theorem readTextUpTo_writeChar (fuel : Nat) (read : List Char) (c : Char) (position : Position)
    (rest : List Char) : ∃ position',
      readTextUpTo (fuel + 1) read ⟨position, writeChar c ++ rest⟩ =
        readTextUpTo fuel (c :: read) ⟨position', rest⟩ := by
  -- the seven short escapes, an escape by number, and a character that stands for itself
  unfold writeChar
  split_ifs with hquote hbackslash hback hform hline hreturn htab hcontrol
  · exact ⟨_, by rw [hquote]; rfl⟩
  · exact ⟨_, by rw [hbackslash]; rfl⟩
  · exact ⟨_, by rw [hback]; rfl⟩
  · exact ⟨_, by rw [hform]; rfl⟩
  · exact ⟨_, by rw [hline]; rfl⟩
  · exact ⟨_, by rw [hreturn]; rfl⟩
  · exact ⟨_, by rw [htab]; rfl⟩
  · obtain ⟨position', h⟩ := readEscape_controlEscape hcontrol (position.afterChar '\\') rest
    refine ⟨position', ?_⟩
    change (readEscape ⟨position.afterChar '\\', (controlEscape c).drop 1 ++ rest⟩ >>= fun r =>
      readTextUpTo fuel (r.1 :: read) r.2) = _
    rw [h]
    rfl
  · refine ⟨position.afterChar c, ?_⟩
    rw [List.singleton_append, readTextUpTo]
    dsimp only
    split
    case h_1 heq => cases heq
    case h_2 heq => exact absurd (List.cons.inj heq).1 hquote
    case h_3 heq => exact absurd (List.cons.inj heq).1 hbackslash
    case h_4 heq =>
      obtain ⟨rfl, rfl⟩ := List.cons.inj heq
      exact if_neg hcontrol

theorem writeChar_ne_nil (c : Char) : writeChar c ≠ [] := by
  unfold writeChar
  split_ifs <;> exact List.cons_ne_nil _ _

/-- **All characters** up to the closing quote. -/
theorem readTextUpTo_writeText (cs : List Char) (fuel : Nat) (h : cs.length < fuel)
    (read : List Char) (position : Position) (rest : List Char) : ∃ position',
      readTextUpTo fuel read ⟨position, cs.flatMap writeChar ++ '"' :: rest⟩ =
        .ok (String.ofList (read.reverse ++ cs), ⟨position', rest⟩) := by
  induction cs generalizing fuel read position with
  | nil =>
    obtain ⟨fuel, rfl⟩ := Nat.exists_eq_succ_of_ne_zero (Nat.ne_zero_of_lt h)
    exact ⟨_, by rw [List.append_nil]; rfl⟩
  | cons c cs ih =>
    obtain ⟨fuel, rfl⟩ := Nat.exists_eq_succ_of_ne_zero (Nat.ne_zero_of_lt h)
    obtain ⟨position₁, hchar⟩ := readTextUpTo_writeChar fuel read c position
      (cs.flatMap writeChar ++ '"' :: rest)
    obtain ⟨position₂, hrest⟩ := ih fuel (Nat.lt_of_succ_lt_succ h) (c :: read) position₁
    refine ⟨position₂, ?_⟩
    rw [List.flatMap_cons, List.append_assoc, hchar, hrest, List.reverse_cons, List.append_assoc]
    rfl

theorem readText_writeText (cs : List Char) (position : Position) (rest : List Char) :
    ∃ position', readText ⟨position, cs.flatMap writeChar ++ '"' :: rest⟩ =
      .ok (String.ofList cs, ⟨position', rest⟩) := by
  have hlength : cs.length ≤ (cs.flatMap writeChar).length := by
    induction cs with
    | nil => exact Nat.le_refl _
    | cons c cs ih =>
      have hc := List.length_pos_iff.2 (writeChar_ne_nil c)
      rw [List.flatMap_cons, List.length_append, List.length_cons]
      omega
  refine readTextUpTo_writeText cs _ ?_ [] position rest
  rw [List.length_append]
  omega

theorem Reads.string (wanted : String) (s : String) :
    Reads (readString wanted) (writeText s.toList) s := by
  intro position rest _
  obtain ⟨position', h⟩ := readText_writeText s.toList (position.afterChar '"') rest
  refine ⟨position', ?_⟩
  rw [String.ofList_toList] at h
  rw [writeText, List.cons_append, List.append_assoc, readString,
    Cursor.skipBlanks_cons _ (by decide)]
  exact h

/-- A choice is written as its name. -/
theorem Reads.choice {choices : List (String × α)} (name : String) {a : α}
    (h : choices.find? (·.1 == name) = some (name, a)) :
    Reads (readChoice choices) (writeText name.toList) a := by
  intro position rest hrest
  obtain ⟨position', hname⟩ := Reads.string "variant identifier" name position rest hrest
  refine ⟨position', ?_⟩
  rw [writeText, List.cons_append] at hname ⊢
  rw [readChoice, Cursor.skipBlanks_cons _ (by decide)]
  change readName choices _ = _
  rw [readName, hname, ok_bind]
  dsimp only
  rw [h]

/-- What is there is not taken for something missing. -/
theorem Reads.optional {read : Cursor → Except Error (α × Cursor)} {cs : List Char} {a : α}
    (h : Reads read cs a) {d : Char} (hhead : cs.head? = some d) (hblank : Cursor.isBlank d = false)
    (hd : d ≠ 'n') : Reads (readOptional read) cs (some a) := by
  intro position rest hrest
  obtain ⟨position', hread⟩ := h position rest hrest
  obtain ⟨ds, rfl⟩ : ∃ ds, cs = d :: ds := List.head?_eq_some_iff.1 hhead
  refine ⟨position', ?_⟩
  rw [List.cons_append] at hread ⊢
  rw [readOptional, Cursor.skipBlanks_cons _ hblank]
  dsimp only
  split
  case h_1 heq => exact absurd (List.cons.inj heq).1 hd
  case h_2 => rw [hread]; rfl

end Json

end StyleHost
