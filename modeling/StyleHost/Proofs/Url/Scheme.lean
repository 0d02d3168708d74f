import StyleHost.Proofs.Text.Trim
import StyleHost.Url.Parser

/-!
# Where the scheme of a URL stands

A text that is read as a URL of its own has its scheme before its first colon. Before the scheme
there may be characters that do not count at the ends of a text, and within it characters that do
not count anywhere.

* `Url.Opening` : a text opens with padding, a name and a colon.
* `Url.opening_of_parse` : a text that is a URL opens so, and the scheme is the lower-case form of
  the characters of the name that count.
-/

namespace StyleHost

namespace Url

variable {cs rest : List Char} {scheme : String} {r : Reference} {u : Url}

/-! ### The scheme of a URL that was read -/

theorem scheme_of_ofAuthority (h : ofAuthority scheme r cs = .ok u) : u.scheme = scheme := by
  rw [ofAuthority] at h
  cases ha : parseAuthority scheme r.endsWithHead cs with
  | error cause =>
    rw [ha] at h
    cases h
  | ok a =>
    rw [ha] at h
    cases h
    rfl

theorem scheme_of_resolveFile (h : resolveFile none r cs = .ok u) : u.scheme = "file" := by
  rw [resolveFile] at h
  split at h
  · rename_i rest _
    split at h
    · rename_i inner _
      cases ha : parseFileAuthority inner with
      | error cause =>
        rw [ha] at h
        cases h
      | ok a =>
        rw [ha] at h
        cases h
        rfl
    · cases h
      rfl
  · cases h
    rfl

/-- Without a base, the scheme of a URL is the one that its text gives. -/
theorem scheme_of_resolveAbsolute (h : resolveAbsolute none scheme r rest = .ok u) :
    u.scheme = scheme := by
  rw [resolveAbsolute] at h
  split at h
  · rename_i hfile
    exact (scheme_of_resolveFile h).trans hfile.symm
  · split at h
    · exact scheme_of_ofAuthority h
    · split at h
      · exact scheme_of_ofAuthority h
      · cases h
        rfl
      · cases h
        rfl

/-! ### The opening of a text -/

/-- What does not count within a text does not count at its ends either. -/
theorem not_isIgnored_of_not_isPadding {c : Char} (h : isPadding c = false) :
    isIgnored c = false := by
  rw [isIgnored, Bool.or_eq_false_iff, Bool.or_eq_false_iff, beq_eq_false_iff_ne,
    beq_eq_false_iff_ne, beq_eq_false_iff_ne]
  refine ⟨⟨?_, ?_⟩, ?_⟩ <;> rintro rfl <;> exact absurd h (by decide)

/-- A text opens with padding, a name and a colon. -/
structure Opening (cs padding name : List Char) : Prop where
  exists_rest : ∃ rest, cs = padding ++ (name ++ ':' :: rest)
  isPadding : ∀ c ∈ padding, isPadding c = true
  not_mem : ':' ∉ name

theorem exists_of_cutAt {p : Char → Bool} {before after : List Char}
    (h : cutAt p cs = (before, some after)) :
    ∃ c, cs = before ++ c :: after ∧ p c = true ∧ ∀ x ∈ before, p x = false := by
  obtain ⟨hbefore, hafter⟩ := Prod.mk.inj h
  obtain ⟨c, hdrop⟩ : ∃ c, cs.dropWhile (!p ·) = c :: after := by
    cases hcs : cs.dropWhile (!p ·) with
    | nil =>
      rw [hcs] at hafter
      cases hafter
    | cons c tail =>
      rw [hcs] at hafter
      cases hafter
      exact ⟨c, rfl⟩
  refine ⟨c, ?_, ?_, fun x hx => ?_⟩
  · rw [← hbefore, ← hdrop, List.takeWhile_append_dropWhile]
  · have hhead := List.head?_dropWhile_not (!p ·) cs
    rw [hdrop] at hhead
    simpa using hhead
  · rw [← hbefore] at hx
    simpa using List.mem_takeWhile_imp hx

theorem cutAt_isPrefix (p : Char → Bool) (cs : List Char) : (cutAt p cs).1 <+: cs :=
  List.takeWhile_prefix _

/-- What stands before the query and the fragment of a reference is the start of its text, apart
from padding. -/
theorem exists_of_ofText (s : String) :
    ∃ before after, s.toList = before ++ ((Reference.ofText s).head ++ after) ∧
      ∀ c ∈ before, isPadding c = true := by
  obtain ⟨before, after, hs, hbefore, -⟩ := Text.exists_append_trimList isPadding s.toList
  obtain ⟨more, hmore⟩ : (Reference.ofText s).head <+: Text.trimList isPadding s.toList :=
    (cutAt_isPrefix (· == '?') _).trans (cutAt_isPrefix (· == '#') _)
  exact ⟨before, more ++ after, by rw [← List.append_assoc _ more, hmore, ← hs], hbefore⟩

theorem exists_of_scheme? (h : scheme? cs = some (scheme, rest)) :
    ∃ name, cs = name ++ ':' :: rest ∧ ':' ∉ name ∧
      (∀ c ∈ counted name, isSchemeChar c = true) ∧
      scheme = String.ofList ((counted name).map Text.lowerAscii) := by
  rw [scheme?] at h
  cases hcut : cutAt (· == ':') cs with
  | mk name after =>
    rw [hcut] at h
    dsimp only at h
    split at h
    · rename_i after first others hname
      split at h
      · rename_i hchars
        cases h
        obtain ⟨c, hcs, hc, hbefore⟩ := exists_of_cutAt hcut
        refine ⟨name, by rw [hcs, beq_iff_eq.1 hc], fun hmem => ?_,
          List.all_eq_true.1 (Bool.and_eq_true_iff.1 hchars).2, rfl⟩
        exact absurd (hbefore ':' hmem) (by decide)
      · cases h
    · cases h

/-- **A text that is a URL opens with its scheme.** -/
theorem opening_of_parse {s : String} (h : parse s = .ok u) :
    ∃ padding name, Opening s.toList padding name ∧
      (∀ c ∈ counted name, isSchemeChar c = true) ∧
      u.scheme = String.ofList ((counted name).map Text.lowerAscii) := by
  unfold parse resolve at h
  split at h
  · rename_i _ rest hscheme
    obtain ⟨name, hhead, hname, hchars, rfl⟩ := exists_of_scheme? hscheme
    obtain ⟨padding, after, hs, hpadding⟩ := exists_of_ofText s
    refine ⟨padding, name, ⟨⟨rest ++ after, ?_⟩, hpadding, hname⟩, hchars,
      scheme_of_resolveAbsolute h⟩
    rw [hs, hhead, List.append_assoc, List.cons_append]
  · contradiction
  · cases h

/-- The first colon of a text is the one of its opening. -/
theorem Opening.takeWhile {padding name : List Char} (h : Opening cs padding name) :
    cs.takeWhile (· != ':') = padding ++ name := by
  obtain ⟨⟨rest, rfl⟩, hpadding, hname⟩ := h
  rw [← List.append_assoc, List.takeWhile_append_of_pos]
  · simp
  · intro c hc
    rw [bne_iff_ne]
    rintro rfl
    rcases List.mem_append.1 hc with hc | hc
    · exact absurd (hpadding ':' hc) (by decide)
    · exact hname hc

end Url

end StyleHost
