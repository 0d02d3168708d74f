import Mathlib
import StyleHost.Proofs.Text.Trim
import StyleHost.Proofs.Url.LocalFile

/-!
# How a local file is spelled as a URL

A `file` URL spells a place name by name, each after a slash: as the characters that may stand in a
name, or as encoded bytes. Whatever is spelled so is read back.

* `Url.Spells` : a text spells the names of a place.
* `Url.Spells.exists_localPath` : such a text is a URL, and the local path that it names leads
  along these names.
-/

namespace StyleHost

namespace Url

/-- A character that may stand in a name of a path, as itself or to encode a byte. -/
def isNameChar (c : Char) : Bool := c.isAlphanum || "-._~!$&'()*+,;=:@%".toList.contains c

/-- A name that no path leaves out: not empty, and not of dots. -/
def IsKept (part : Bytes) : Prop := part ≠ [] ∧ part ≠ [0x2E] ∧ part ≠ [0x2E, 0x2E]

instance (part : Bytes) : Decidable (IsKept part) := inferInstanceAs (Decidable (_ ∧ _))

/-- The text of a path along names. -/
def pathText (names : List String) : List Char := names.flatMap fun name => '/' :: name.toList

/-- A text is a `file` URL without a host that spells the names of a place. -/
structure Spells (uri : String) (place : List Bytes) : Prop where
  exists_names : ∃ scheme names, uri.toList = scheme ++ ("://".toList ++ pathText names) ∧
    scheme.map Text.lowerAscii = "file".toList ∧
    (∀ name ∈ names, name.toList.all isNameChar = true) ∧
    List.Forall₂ (fun name part => Decodes (Utf8.encode name) part) names place
  ne_nil : place ≠ []
  isKept : ∀ part ∈ place, IsKept part

variable {c : Char} {cs rest : List Char} {name : String} {names : List String} {part : Bytes}

/-! ### The characters of a name -/

theorem toNat_lt_of_isNameChar (hc : isNameChar c = true) : c.toNat < 128 := by
  rw [isNameChar, Bool.or_eq_true] at hc
  rcases hc with hc | hc
  · simp only [Char.isAlphanum, Char.isAlpha, Char.isUpper, Char.isLower, Char.isDigit,
      Bool.or_eq_true, Bool.and_eq_true, decide_eq_true_eq, UInt32.le_iff_toNat_le] at hc
    change ((65 ≤ c.toNat ∧ c.toNat ≤ 90) ∨ (97 ≤ c.toNat ∧ c.toNat ≤ 122)) ∨
      (48 ≤ c.toNat ∧ c.toNat ≤ 57) at hc
    omega
  · have hall : ("-._~!$&'()*+,;=:@%".toList.all (·.toNat < 128)) = true := by decide
    exact of_decide_eq_true (List.all_eq_true.1 hall c (List.contains_iff_mem.1 hc))

/-- What is true of the characters of a name can be found out by trying them. -/
theorem forall_nameChar {p : Char → Prop}
    (h : ∀ n : Fin 128, isNameChar (Char.ofNat n) = true → p (Char.ofNat n))
    (hc : isNameChar c = true) : p c := by
  have hc' := h ⟨c.toNat, toNat_lt_of_isNameChar hc⟩
  rw [Char.ofNat_toNat] at hc'
  exact hc' hc

/-- A character of a name has no meaning in a URL of its own. -/
structure IsPlain (c : Char) : Prop where
  isIgnored : isIgnored c = false
  isSlash : isSlash true c = false
  inPathSet : inPathSet c = false

theorem isPlain (hc : isNameChar c = true) : IsPlain c := by
  obtain ⟨hignored, hslash, hset⟩ := forall_nameChar
    (p := fun c => Url.isIgnored c = false ∧ Url.isSlash true c = false ∧ Url.inPathSet c = false)
    (by decide +kernel) hc
  exact ⟨hignored, hslash, hset⟩

theorem counted_eq (h : ∀ c ∈ cs, isNameChar c = true) : counted cs = cs :=
  List.filter_eq_self.2 fun c hc => by rw [(isPlain (h c hc)).isIgnored]; rfl

theorem percentEncode_eq (h : ∀ c ∈ cs, isNameChar c = true) :
    percentEncode inPathSet cs = cs := by
  induction cs with
  | nil => rfl
  | cons c cs ih =>
    rw [percentEncode, List.flatMap_cons, (isPlain (h c List.mem_cons_self)).inPathSet,
      if_neg Bool.false_ne_true]
    exact congrArg _ (ih fun d hd => h d (List.mem_cons_of_mem c hd))

theorem encodeSegment_eq (h : ∀ c ∈ name.toList, isNameChar c = true) :
    encodeSegment name.toList = name := by
  rw [encodeSegment, percentEncode_eq h, String.ofList_toList]

/-! ### Names of dots -/

/-- The ways to spell a dot. -/
def dotTexts : List (List Char) := [".".toList, "%2e".toList, "%2E".toList]

theorem exists_of_decodeDots (h : decodeDots cs = '.' :: rest) :
    ∃ dot ∈ dotTexts, ∃ after, cs = dot ++ after ∧ decodeDots after = rest := by
  fun_cases decodeDots cs with
  | case1 after =>
    rw [decodeDots] at h
    exact ⟨"%2e".toList, by decide, after, rfl, (List.cons.inj h).2⟩
  | case2 after =>
    rw [decodeDots] at h
    exact ⟨"%2E".toList, by decide, after, rfl, (List.cons.inj h).2⟩
  | case3 c after he hE =>
    rw [decodeDots.eq_3 c after he hE] at h
    obtain ⟨rfl, hafter⟩ := List.cons.inj h
    exact ⟨".".toList, by decide, after, rfl, hafter⟩
  | case4 => cases h

theorem eq_nil_of_decodeDots (h : decodeDots cs = []) : cs = [] := by
  fun_cases decodeDots cs with
  | case1 => cases h
  | case2 => cases h
  | case3 c after he hE =>
    rw [decodeDots.eq_3 c after he hE] at h
    cases h
  | case4 => rfl

theorem isDot_eq_false (hname : Decodes (Utf8.encode name) part) (hpart : IsKept part) :
    isDot name.toList = false := by
  refine beq_eq_false_iff_ne.2 fun h => hpart.2.1 ?_
  obtain ⟨dot, hdot, after, hcs, hafter⟩ := exists_of_decodeDots h
  obtain rfl := eq_nil_of_decodeDots hafter
  rw [← hname.eq, ← String.ofList_toList (s := name), hcs, List.append_nil]
  have hall : ∀ dot ∈ dotTexts, percentDecode (Utf8.encode (String.ofList dot)) = [0x2E] := by
    decide +kernel
  exact hall dot hdot

theorem isDotDot_eq_false (hname : Decodes (Utf8.encode name) part) (hpart : IsKept part) :
    isDotDot name.toList = false := by
  refine beq_eq_false_iff_ne.2 fun h => hpart.2.2 ?_
  obtain ⟨dot, hdot, more, hcs, hmore⟩ := exists_of_decodeDots h
  obtain ⟨other, hother, after, rfl, hafter⟩ := exists_of_decodeDots hmore
  obtain rfl := eq_nil_of_decodeDots hafter
  rw [← hname.eq, ← String.ofList_toList (s := name), hcs, List.append_nil]
  have hall : ∀ dot ∈ dotTexts, ∀ other ∈ dotTexts,
      percentDecode (Utf8.encode (String.ofList (dot ++ other))) = [0x2E, 0x2E] := by
    decide +kernel
  exact hall dot hdot other hother

/-! ### Reading the path -/

/-- A name that a path keeps as it is. -/
structure IsSegment (name : String) : Prop where
  isNameChar : ∀ c ∈ name.toList, isNameChar c = true
  isDot : isDot name.toList = false
  isDotDot : isDotDot name.toList = false
  isEmpty : name.isEmpty = false

theorem splitPath_slash (h : ∀ c ∈ cs, isNameChar c = true) :
    splitPath true (cs ++ '/' :: rest) = cs :: splitPath true rest := by
  induction cs with
  | nil => rfl
  | cons c cs ih =>
    have hc : ¬isSlash true c = true := by simp [(isPlain (h c List.mem_cons_self)).isSlash]
    rw [List.cons_append, splitPath, if_neg hc, ih fun d hd => h d (List.mem_cons_of_mem c hd)]

theorem splitPath_name (h : ∀ c ∈ cs, isNameChar c = true) : splitPath true cs = [cs] := by
  induction cs with
  | nil => rfl
  | cons c cs ih =>
    have hc : ¬isSlash true c = true := by simp [(isPlain (h c List.mem_cons_self)).isSlash]
    rw [splitPath, if_neg hc, ih fun d hd => h d (List.mem_cons_of_mem c hd)]

theorem splitPath_pathText (h : ∀ c ∈ cs, isNameChar c = true)
    (hnames : ∀ name ∈ names, ∀ c ∈ name.toList, isNameChar c = true) :
    splitPath true (cs ++ pathText names) = cs :: names.map String.toList := by
  induction names generalizing cs with
  | nil =>
    rw [pathText, List.flatMap_nil, List.append_nil, splitPath_name h]
    rfl
  | cons name names ih =>
    have htext : pathText (name :: names) = '/' :: (name.toList ++ pathText names) := rfl
    rw [htext, splitPath_slash h, ih (hnames name List.mem_cons_self) fun other hother =>
      hnames other (List.mem_cons_of_mem name hother)]
    rfl

/-- The trail of a `file` URL that has led along names. -/
def along (names : List String) : Trail := { isFile := true, directory := names }

theorem follow_along {before : List String} {isLast : Bool} (hname : IsSegment name)
    (hbefore : before ≠ []) :
    (along before).follow name.toList isLast = along (before ++ [name]) := by
  -- a drive can only be the first segment
  have hinner : ¬((along before).isFile && (along before).settled.isEmpty) = true := by
    simpa [along, Trail.settled] using hbefore
  rw [Trail.follow, counted_eq hname.isNameChar, hname.isDotDot, hname.isDot,
    if_neg Bool.false_ne_true, if_neg Bool.false_ne_true, Trail.name, if_neg hinner,
    counted_eq hname.isNameChar, encodeSegment_eq hname.isNameChar]
  simp [along, Trail.close]

theorem followAll_along {before : List String} (hnames : ∀ name ∈ names, IsSegment name)
    (hbefore : before ≠ []) :
    (along before).followAll (names.map String.toList) = along (before ++ names) := by
  induction names generalizing before with
  | nil => rw [List.map_nil, Trail.followAll, List.append_nil]
  | cons name names ih =>
    rw [List.map_cons, Trail.followAll, follow_along (hnames name List.mem_cons_self) hbefore,
      ih (fun other hother => hnames other (List.mem_cons_of_mem name hother)) (by simp),
      List.append_assoc]
    rfl

/-- A path along names leads along these names. -/
theorem pathFrom_pathText (hnames : ∀ name ∈ names, IsSegment name) (hne : names ≠ []) :
    pathFrom "file" [] (pathText names) = .segments names := by
  have hsplit : splitPath true (pathText names) = [] :: names.map String.toList :=
    splitPath_pathText (List.forall_mem_nil _) fun name hname => (hnames name hname).isNameChar
  obtain ⟨name, more, rfl⟩ := List.exists_cons_of_ne_nil hne
  -- the slash at the start closes an empty segment, which is left out in the end
  have hfirst : (along []).follow [] false = along [""] := by
    rw [Trail.follow]
    rfl
  have htrail : trailOf "file" [] (pathText (name :: more)) = along ("" :: name :: more) := by
    calc trailOf "file" [] (pathText (name :: more))
        = (along []).followAll ([] :: (name :: more).map String.toList) := congrArg _ hsplit
      _ = (along [""]).followAll ((name :: more).map String.toList) := by
        rw [← hfirst]
        rfl
      _ = along ("" :: name :: more) := followAll_along hnames (by simp)
  have hkept : (name :: more).dropWhile String.isEmpty = name :: more :=
    List.dropWhile_cons_of_neg (by simp [(hnames name List.mem_cons_self).isEmpty])
  have hsettled : (along ("" :: name :: more)).settled.dropWhile String.isEmpty = name :: more :=
    hkept
  rw [pathFrom, htrail, Trail.path, hsettled]
  rfl

/-! ### Reading the text -/

/-- A character that leaves the text of a URL whole. -/
structure IsInner (c : Char) : Prop where
  isPadding : isPadding c = false
  ne_hash : c ≠ '#'
  ne_question : c ≠ '?'

theorem isInner (hc : isNameChar c = true) : IsInner c := by
  obtain ⟨hpadding, hhash, hquestion⟩ := forall_nameChar
    (p := fun c => Url.isPadding c = false ∧ c ≠ '#' ∧ c ≠ '?') (by decide +kernel) hc
  exact ⟨hpadding, hhash, hquestion⟩

theorem isInner_slash : IsInner '/' := ⟨by decide, by decide, by decide⟩

theorem cutAt_eq {p : Char → Bool} (h : ∀ c ∈ cs, p c = false) : cutAt p cs = (cs, none) := by
  have htake : cs.takeWhile (!p ·) = cs :=
    List.takeWhile_eq_self_iff.2 fun c hc => by rw [h c hc]; rfl
  have hdrop : cs.dropWhile (!p ·) = [] :=
    List.dropWhile_eq_nil_iff.2 fun c hc => by rw [h c hc]; rfl
  rw [cutAt, htake, hdrop]
  rfl

theorem cutAt_append {p : Char → Bool} (h : ∀ c ∈ cs, p c = false) (hc : p c = true) :
    cutAt p (cs ++ c :: rest) = (cs, some rest) := by
  have hcs : ∀ d ∈ cs, (!p d) = true := fun d hd => by rw [h d hd]; rfl
  have hneg : ¬(!p c) = true := by simp [hc]
  have htake : (cs ++ c :: rest).takeWhile (!p ·) = cs := by
    rw [List.takeWhile_append_of_pos hcs, List.takeWhile_cons_of_neg (p := (!p ·)) hneg,
      List.append_nil]
  have hdrop : (cs ++ c :: rest).dropWhile (!p ·) = c :: rest := by
    rw [List.dropWhile_append_of_pos hcs, List.dropWhile_cons_of_neg (p := (!p ·)) hneg]
  rw [cutAt, htake, hdrop]
  rfl

theorem ofText_eq {uri : String} (h : ∀ c ∈ uri.toList, IsInner c) :
    Reference.ofText uri = ⟨uri.toList, none, none⟩ := by
  have htrim : Text.trimList isPadding ([] ++ (uri.toList ++ [])) = uri.toList :=
    Text.trimList_append (List.forall_mem_nil _) (List.forall_mem_nil _)
      (fun c hc => (h c (List.mem_of_mem_head? hc)).isPadding)
      (fun c hc => (h c (List.mem_of_getLast? hc)).isPadding)
  rw [List.nil_append, List.append_nil] at htrim
  have hhash : cutAt (· == '#') uri.toList = (uri.toList, none) :=
    cutAt_eq fun c hc => beq_eq_false_iff_ne.2 (h c hc).ne_hash
  have hquestion : cutAt (· == '?') uri.toList = (uri.toList, none) :=
    cutAt_eq fun c hc => beq_eq_false_iff_ne.2 (h c hc).ne_question
  rw [Reference.ofText, htrim, hhash]
  dsimp only
  rw [hquestion]
  rfl

theorem isAlpha_of_mem_scheme {scheme : List Char}
    (h : scheme.map Text.lowerAscii = "file".toList) (hc : c ∈ scheme) : c.isAlpha = true := by
  have hlower : (Text.lowerAscii c).isAlpha = true := by
    have hall : "file".toList.all Char.isAlpha = true := by decide
    exact List.all_eq_true.1 hall _ (h ▸ List.mem_map_of_mem hc)
  rw [Text.lowerAscii, Char.toLower] at hlower
  split at hlower
  · rename_i hupper
    have hupper' : c.isUpper = true := by simpa [Char.isUpper] using hupper
    rw [Char.isAlpha, hupper']
    rfl
  · exact hlower

theorem scheme?_eq {scheme : List Char} (h : scheme.map Text.lowerAscii = "file".toList) :
    scheme? (scheme ++ ':' :: rest) = some ("file", rest) := by
  have halpha : ∀ c ∈ scheme, c.isAlpha = true := fun c hc => isAlpha_of_mem_scheme h hc
  have hname : ∀ c ∈ scheme, isNameChar c = true := fun c hc => by
    simp [isNameChar, Char.isAlphanum, halpha c hc]
  have hcut : cutAt (· == ':') (scheme ++ ':' :: rest) = (scheme, some rest) := by
    refine cutAt_append (fun c hc => beq_eq_false_iff_ne.2 ?_) rfl
    rintro rfl
    exact absurd (halpha _ hc) (by decide)
  have hchars : scheme.all isSchemeChar = true :=
    List.all_eq_true.2 fun c hc => by simp [isSchemeChar, Char.isAlphanum, halpha c hc]
  obtain ⟨first, others, rfl⟩ : ∃ first others, scheme = first :: others :=
    List.exists_cons_of_ne_nil (by rintro rfl; cases h)
  rw [scheme?, hcut]
  dsimp only
  rw [counted_eq hname]
  dsimp only
  rw [halpha first List.mem_cons_self, hchars, h]
  rfl

theorem isInner_of_mem {scheme : List Char}
    (hcs : cs = scheme ++ ("://".toList ++ pathText names))
    (hscheme : scheme.map Text.lowerAscii = "file".toList)
    (hnames : ∀ name ∈ names, IsSegment name) : ∀ c ∈ cs, IsInner c := by
  intro c hc
  rw [hcs, List.mem_append, List.mem_append] at hc
  rcases hc with hc | hc | hc
  · exact isInner (by simp [isNameChar, Char.isAlphanum, isAlpha_of_mem_scheme hscheme hc])
  · have hsign : c = ':' ∨ c = '/' := by simpa using hc
    rcases hsign with rfl | rfl
    · exact isInner (by decide)
    · exact isInner_slash
  · obtain ⟨name, hname, hc⟩ := List.mem_flatMap.1 hc
    rcases List.mem_cons.1 hc with rfl | hc
    · exact isInner_slash
    · exact isInner ((hnames name hname).isNameChar c hc)

/-- A text that spells names is read as the URL of a path along these names. -/
theorem parse_of_pathText {uri : String} {scheme : List Char}
    (huri : uri.toList = scheme ++ ("://".toList ++ pathText names))
    (hscheme : scheme.map Text.lowerAscii = "file".toList)
    (hnames : ∀ name ∈ names, IsSegment name) (hne : names ≠ []) :
    parse uri = .ok ⟨"file", some noHost, .segments names, none, none⟩ := by
  have hinner := isInner_of_mem huri hscheme hnames
  obtain ⟨rest, hrest⟩ : ∃ rest, pathText names = '/' :: rest := by
    obtain ⟨name, more, rfl⟩ := List.exists_cons_of_ne_nil hne
    exact ⟨_, rfl⟩
  have hpath : pathFrom "file" [] ('/' :: rest) = .segments names := by
    rw [← hrest]
    exact pathFrom_pathText hnames hne
  have hsplit : uri.toList = scheme ++ ':' :: '/' :: '/' :: '/' :: rest := by
    rw [huri, hrest]
    rfl
  calc parse uri = resolve none ⟨uri.toList, none, none⟩ := by rw [parse, ofText_eq hinner]
    _ = resolveFile none ⟨uri.toList, none, none⟩ ('/' :: '/' :: '/' :: rest) := by
      simp only [resolve, hsplit, scheme?_eq hscheme, resolveAbsolute, if_true,
        Option.filter_none]
    _ = .ok ⟨"file", some noHost, pathFrom "file" [] ('/' :: rest), none, none⟩ := rfl
    _ = .ok ⟨"file", some noHost, .segments names, none, none⟩ := by rw [hpath]

variable {uri : String} {place : List Bytes}

theorem isSegment_of_decodes (hchars : ∀ c ∈ name.toList, isNameChar c = true)
    (hname : Decodes (Utf8.encode name) part) (hpart : IsKept part) : IsSegment name where
  isNameChar := hchars
  isDot := isDot_eq_false hname hpart
  isDotDot := isDotDot_eq_false hname hpart
  isEmpty := by
    rw [String.isEmpty_eq_false_iff]
    rintro rfl
    exact hpart.1 (hname.eq.symm.trans (by decide +kernel))

theorem isSegment_of_forall₂
    (hparts : List.Forall₂ (fun name part => Decodes (Utf8.encode name) part) names place)
    (hchars : ∀ name ∈ names, name.toList.all isNameChar = true)
    (hkept : ∀ part ∈ place, IsKept part) : ∀ name ∈ names, IsSegment name := by
  induction hparts with
  | nil => exact fun _ hname => absurd hname List.not_mem_nil
  | cons hpart _ ih =>
    rw [List.forall_mem_cons] at hchars hkept ⊢
    have hsegment := isSegment_of_decodes (List.all_eq_true.1 hchars.1) hpart hkept.1
    exact ⟨hsegment, ih hchars.2 hkept.2⟩

/-- **The local path of a URL that spells a place leads along its names.** -/
theorem Spells.exists_localPath (h : Spells uri place) :
    ∃ u, parse uri = .ok u ∧ u.LocalPath (place.flatMap (slash :: ·)) := by
  obtain ⟨scheme, names, huri, hscheme, hchars, hparts⟩ := h.exists_names
  have hne : names ≠ [] := by
    rintro rfl
    cases hparts
    exact h.ne_nil rfl
  have hsegments := isSegment_of_forall₂ hparts hchars h.isKept
  refine ⟨_, parse_of_pathText huri hscheme hsegments hne, ⟨?_, names, place, hne, rfl, hparts,
    rfl⟩⟩
  intro authority hauthority
  cases hauthority
  exact .inl rfl

end Url

end StyleHost
