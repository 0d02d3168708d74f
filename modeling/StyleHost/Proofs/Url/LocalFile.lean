import Mathlib.Data.List.Forall2
import StyleHost.Url.FilePath

/-!
# The local file that a URL names

The segments of the path are decoded one by one, and each part of the local path is what a segment
decodes to, after a slash. A path that ends in a letter and a colon or a bar looks like one to a
drive, and gets one more slash.

* `Url.Decodes` : what bytes decode to.
* `Url.LocalPath` : the path of the local file that a URL names.
* `Url.toFilePath?_eq_some_iff` : a URL is read as that path, with a slash after a drive.
-/

namespace StyleHost

namespace Url

/-- A byte is the hexadecimal digit of a number, in either case. -/
def IsHexDigit (b : UInt8) (v : Nat) : Prop :=
  "0123456789abcdef".toList[v]? = some (Text.lowerAscii (Char.ofNat b.toNat))

instance (b : UInt8) (v : Nat) : Decidable (IsHexDigit b v) :=
  inferInstanceAs (Decidable (_ = _))

/-- What bytes decode to: a percent sign and two digits are one byte, and everything else stands
for itself. -/
inductive Decodes : Bytes → Bytes → Prop
  | nil : Decodes [] []
  | encoded {high low : UInt8} {v w : Nat} {rest decoded : Bytes} (hhigh : IsHexDigit high v)
      (hlow : IsHexDigit low w) (hrest : Decodes rest decoded) :
      Decodes (0x25 :: high :: low :: rest) (UInt8.ofNat (16 * v + w) :: decoded)
  | plain {b : UInt8} {rest decoded : Bytes}
      (hb : ∀ high low after v w, b :: rest = 0x25 :: high :: low :: after →
        IsHexDigit high v → ¬IsHexDigit low w)
      (hrest : Decodes rest decoded) : Decodes (b :: rest) (b :: decoded)

/-- The path of the local file that a URL names: the URL has no other host than the machine itself,
and each segment of its path decodes to a part of the local path. -/
structure LocalPath (u : Url) (path : Bytes) : Prop where
  isLocal : ∀ authority, u.authority = some authority →
    authority.host = .empty ∨ authority.host = .domain "localhost"
  exists_parts : ∃ names parts, names ≠ [] ∧ u.path = .segments names ∧
    List.Forall₂ (fun name part => Decodes (Utf8.encode name) part) names parts ∧
    path = parts.flatMap (slash :: ·)

/-- A path that ends as one to a drive does, in a letter and a colon or a bar. -/
def EndsInDrive (path : Bytes) : Prop :=
  ∃ before letter mark, path = before ++ [letter, mark] ∧
    ((0x41 ≤ letter ∧ letter ≤ 0x5A) ∨ (0x61 ≤ letter ∧ letter ≤ 0x7A)) ∧
    (mark = 0x3A ∨ mark = 0x7C)

variable {u : Url} {b high low : UInt8} {bytes decoded path : Bytes} {v w : Nat}

/-! ### Decoding -/

theorem IsHexDigit.lt (h : IsHexDigit b v) : v < 16 := (List.getElem?_eq_some_iff.1 h).1

/-- What is true of all bytes can be found out by trying them. -/
theorem forall_byte {p : UInt8 → Prop} (h : ∀ n : Fin 256, p (UInt8.ofNat n)) (b : UInt8) :
    p b := by
  have hb := h ⟨b.toNat, b.toNat_lt⟩
  rwa [UInt8.ofNat_toNat] at hb

theorem IsHexDigit.hexValue?_eq (h : IsHexDigit b v) : hexValue? b = some (UInt8.ofNat v) :=
  forall_byte (p := fun b => ∀ v : Fin 16, IsHexDigit b v → hexValue? b = some (UInt8.ofNat v))
    (by decide +kernel) b ⟨v, h.lt⟩ h

theorem isHexDigit_of_hexValue? {v : UInt8} (h : hexValue? b = some v) :
    IsHexDigit b v.toNat :=
  forall_byte (p := fun b => ∀ v ∈ hexValue? b, IsHexDigit b v.toNat) (by decide +kernel) b v h

theorem byteOf?_of_isHexDigit (hhigh : IsHexDigit high v) (hlow : IsHexDigit low w) :
    byteOf? high low = some (UInt8.ofNat (16 * v + w)) := by
  rw [byteOf?, hhigh.hexValue?_eq, hlow.hexValue?_eq, Nat.mul_comm, UInt8.ofNat_add,
    UInt8.ofNat_mul]
  rfl

theorem exists_of_byteOf? (h : byteOf? high low = some b) :
    ∃ v w, IsHexDigit high v ∧ IsHexDigit low w ∧ b = UInt8.ofNat (16 * v + w) := by
  simp only [byteOf?, Option.bind_eq_bind, Option.bind_eq_some_iff] at h
  obtain ⟨v, hv, w, hw, hb⟩ := h
  have hhigh := isHexDigit_of_hexValue? hv
  have hlow := isHexDigit_of_hexValue? hw
  refine ⟨v.toNat, w.toNat, hhigh, hlow, ?_⟩
  have hbyte : byteOf? high low = some b := by
    rw [byteOf?, hv, hw]
    exact hb
  exact Option.some.inj (hbyte.symm.trans (byteOf?_of_isHexDigit hhigh hlow))

theorem Decodes.eq (h : Decodes bytes decoded) : percentDecode bytes = decoded := by
  induction h with
  | nil => rfl
  | encoded hhigh hlow _ ih =>
    rw [percentDecode, byteOf?_of_isHexDigit hhigh hlow]
    exact congrArg _ ih
  | @plain b rest decoded hb _ ih =>
    generalize hbytes : b :: rest = bytes at hb
    fun_cases percentDecode bytes with
    | case1 high low after byte hbyte =>
      obtain ⟨v, w, hhigh, hlow, -⟩ := exists_of_byteOf? hbyte
      exact absurd hlow (hb high low after v w rfl hhigh)
    | case2 =>
      cases hbytes
      rw [ih]
    | case3 =>
      cases hbytes
      rw [ih]
    | case4 => cases hbytes

theorem decodes_percentDecode (bytes : Bytes) : Decodes bytes (percentDecode bytes) := by
  fun_induction percentDecode bytes with
  | case1 high low rest byte hbyte ih =>
    obtain ⟨v, w, hhigh, hlow, rfl⟩ := exists_of_byteOf? hbyte
    exact .encoded hhigh hlow ih
  | case2 high low rest hbyte ih =>
    refine .plain (fun _ _ _ v w heq hhigh hlow => ?_) ih
    cases heq
    rw [byteOf?_of_isHexDigit hhigh hlow] at hbyte
    cases hbyte
  | case3 b rest hb ih =>
    refine .plain (fun high low after _ _ heq _ _ => ?_) ih
    cases heq
    exact hb high low after rfl rfl
  | case4 => exact .nil

/-- **Bytes decode to one thing, and to that they are decoded.** -/
theorem decodes_iff : Decodes bytes decoded ↔ percentDecode bytes = decoded :=
  ⟨Decodes.eq, fun h => h ▸ decodes_percentDecode bytes⟩

/-! ### The path of a file -/

theorem isAlpha_iff (b : UInt8) : (Char.ofNat b.toNat).isAlpha = true ↔
    (0x41 ≤ b ∧ b ≤ 0x5A) ∨ (0x61 ≤ b ∧ b ≤ 0x7A) := by
  revert b
  refine forall_byte ?_
  decide +kernel

theorem EndsInDrive.getLast? (h : EndsInDrive path) :
    path.getLast? = some 0x3A ∨ path.getLast? = some 0x7C := by
  obtain ⟨before, letter, mark, rfl, -, hmark⟩ := h
  rw [List.getLast?_append_of_ne_nil before (List.cons_ne_nil letter [mark])]
  exact hmark.imp (congrArg some) (congrArg some)

theorem closeDrive_of_endsInDrive (h : EndsInDrive (slash :: path)) :
    closeDrive (slash :: path) = slash :: path ++ [slash] := by
  obtain ⟨before, letter, mark, hpath, hletter, hmark⟩ := h
  cases before with
  | nil =>
    -- the slash at the start is no letter
    obtain ⟨rfl, -⟩ := List.cons.inj hpath
    exact absurd hletter (by decide)
  | cons first before =>
    obtain ⟨c, more, hreverse⟩ : ∃ c more, (first :: before).reverse = c :: more :=
      List.exists_cons_of_ne_nil (by simp)
    rw [hpath, closeDrive, List.reverse_append, hreverse]
    exact if_pos ⟨(isAlpha_iff letter).2 hletter, hmark⟩

theorem closeDrive_of_not_endsInDrive (h : ¬EndsInDrive path) : closeDrive path = path := by
  rw [closeDrive]
  split
  · rename_i mark letter c before hreverse
    refine if_neg fun hdrive => h ⟨(c :: before).reverse, letter, mark, ?_,
      (isAlpha_iff letter).1 hdrive.1, hdrive.2⟩
    rw [← List.reverse_reverse path, hreverse]
    simp
  · rfl

theorem LocalPath.exists_cons (h : u.LocalPath path) : ∃ rest, path = slash :: rest := by
  obtain ⟨names, parts, hnames, -, hparts, rfl⟩ := h.exists_parts
  cases hparts with
  | nil => exact absurd rfl hnames
  | cons => exact ⟨_, rfl⟩

theorem flatMap_percentDecode {names : List String} {parts : List Bytes}
    (h : List.Forall₂ (fun name part => Decodes (Utf8.encode name) part) names parts) :
    (names.flatMap fun name => slash :: percentDecode (Utf8.encode name)) =
      parts.flatMap (slash :: ·) := by
  induction h with
  | nil => rfl
  | cons hpart _ ih => rw [List.flatMap_cons, List.flatMap_cons, hpart.eq, ih]

theorem LocalPath.toFilePath?_eq (h : u.LocalPath path) :
    u.toFilePath? = some (closeDrive path) := by
  obtain ⟨hlocal, names, parts, hnames, hpath, hparts, rfl⟩ := h
  obtain ⟨name, more, rfl⟩ := List.exists_cons_of_ne_nil hnames
  have hhost : (u.authority.map (·.host)).getD .empty = .empty ∨
      (u.authority.map (·.host)).getD .empty = .domain "localhost" := by
    cases hauthority : u.authority with
    | none => exact .inl rfl
    | some authority => exact hlocal authority hauthority
  rw [toFilePath?, hpath]
  dsimp only
  rw [if_pos hhost, flatMap_percentDecode hparts]

theorem exists_of_toFilePath? (h : u.toFilePath? = some path) :
    ∃ plain, u.LocalPath plain ∧ path = closeDrive plain := by
  rw [toFilePath?] at h
  split at h
  · rename_i name names hpath
    rw [Option.ite_none_right_eq_some] at h
    obtain ⟨hhost, hclose⟩ := h
    have hparts : List.Forall₂ (fun name part => Decodes (Utf8.encode name) part) (name :: names)
        ((name :: names).map fun name => percentDecode (Utf8.encode name)) := by
      rw [List.forall₂_map_right_iff, List.forall₂_same]
      exact fun name _ => decodes_percentDecode _
    refine ⟨_, ⟨fun authority hauthority => ?_, name :: names, _, List.cons_ne_nil _ _, hpath,
      hparts, rfl⟩, ?_⟩
    · rwa [hauthority] at hhost
    · rw [← flatMap_percentDecode hparts]
      exact (Option.some.inj hclose).symm
  · cases h

/-- **A URL is read as the path that it names, with a slash after a drive.** -/
theorem toFilePath?_eq_some_iff : u.toFilePath? = some path ↔
    (u.LocalPath path ∧ ¬EndsInDrive path) ∨
      ∃ drive, u.LocalPath drive ∧ EndsInDrive drive ∧ path = drive ++ [slash] := by
  constructor
  · intro h
    obtain ⟨plain, hplain, rfl⟩ := exists_of_toFilePath? h
    obtain ⟨rest, rfl⟩ := hplain.exists_cons
    by_cases hdrive : EndsInDrive (slash :: rest)
    · exact .inr ⟨_, hplain, hdrive, closeDrive_of_endsInDrive hdrive⟩
    · rw [closeDrive_of_not_endsInDrive hdrive]
      exact .inl ⟨hplain, hdrive⟩
  · rintro (⟨hplain, hdrive⟩ | ⟨drive, hplain, hdrive, rfl⟩)
    · rw [hplain.toFilePath?_eq, closeDrive_of_not_endsInDrive hdrive]
    · obtain ⟨rest, rfl⟩ := hplain.exists_cons
      rw [hplain.toFilePath?_eq, closeDrive_of_endsInDrive hdrive]

end Url

end StyleHost
