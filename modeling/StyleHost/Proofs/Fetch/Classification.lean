import Mathlib
import StyleHost.Fetch.Http
import StyleHost.Proofs.Fetch.Admission
import StyleHost.Proofs.Url.Scheme

/-!
# How references are classified

A policy judges a reference by the text before its first colon, a fetcher by the URL that it reads
in the reference. The two agree on a reference that is sent to a server just if the text before its
first colon is free of blanks and controls. A URL in its normal form is always judged as what it
is, so only a reference that comes to a bridge as it was written can be judged wrongly: a blank
before it is enough.
-/

namespace StyleHost

namespace Capability

variable {uri : String} {c : Char} {scheme rest : List Char}

theorem not_isPadding_of_isSchemeChar (h : isSchemeChar c = true) : Url.isPadding c = false := by
  have hval : c.toNat = c.val.toNat := rfl
  rw [Url.isPadding, decide_eq_false_iff_not, hval]
  simp only [isSchemeChar, Char.isAlphanum, Char.isAlpha, Char.isUpper, Char.isLower,
    Char.isDigit, Bool.or_eq_true, Bool.and_eq_true, decide_eq_true_eq, beq_iff_eq, ge_iff_le,
    UInt32.le_iff_toNat_le] at h
  rcases h with ((((h | h) | h) | rfl) | rfl) | rfl
  · exact fun hle => absurd (h.1.trans hle) (by decide)
  · exact fun hle => absurd (h.1.trans hle) (by decide)
  · exact fun hle => absurd (h.1.trans hle) (by decide)
  all_goals decide

theorem takeWhile_colon (h : ∀ c ∈ scheme, isSchemeChar c = true) :
    (scheme ++ ':' :: rest).takeWhile (· != ':') = scheme := by
  rw [List.takeWhile_append_of_pos]
  · simp
  · intro c hc
    rw [bne_iff_ne]
    rintro rfl
    exact absurd (h ':' hc) (by decide)

theorem scheme?_eq_some_iff {cs : List Char} : scheme? cs = some scheme ↔
    1 < scheme.length ∧ (∀ c ∈ scheme, isSchemeChar c = true) ∧
      ∃ rest, cs = scheme ++ ':' :: rest := by
  constructor
  · intro h
    rw [scheme?, Option.ite_none_right_eq_some] at h
    obtain ⟨⟨hlength, htwo, hchars⟩, hscheme⟩ := h
    obtain rfl := Option.some.inj hscheme
    refine ⟨htwo, List.all_eq_true.1 hchars, ?_⟩
    have hsplit := List.takeWhile_append_dropWhile (p := (· != ':')) (l := cs)
    cases hdrop : cs.dropWhile (· != ':') with
    | nil =>
      rw [hdrop, List.append_nil] at hsplit
      rw [hsplit] at hlength
      exact absurd hlength (Nat.lt_irrefl _)
    | cons c rest =>
      have hc := List.head?_dropWhile_not (· != ':') cs
      simp only [hdrop, List.head?_cons, bne_eq_false_iff_eq] at hc
      rw [hdrop, hc] at hsplit
      exact ⟨rest, hsplit.symm⟩
  · rintro ⟨htwo, hchars, rest, rfl⟩
    rw [scheme?, takeWhile_colon hchars, if_pos ⟨by simp, htwo, List.all_eq_true.2 hchars⟩]

/-- **What needs the network**: a reference under any scheme but that of files. -/
theorem toRead_eq_readNetwork_iff :
    toRead uri = .readNetwork ↔ ∃ scheme rest, uri.toList = scheme ++ ':' :: rest ∧
      1 < scheme.length ∧ (∀ c ∈ scheme, isSchemeChar c = true) ∧
      scheme.map Text.lowerAscii ≠ "file".toList := by
  have hfile : ∀ scheme, Text.eqIgnoreCase (String.ofList scheme) "file" = true ↔
      scheme.map Text.lowerAscii = "file".toList := by
    intro scheme
    rw [Text.eqIgnoreCase_iff, String.toList_ofList]
    rfl
  rw [toRead]
  cases h : scheme? uri.toList with
  | none =>
    refine ⟨(nomatch ·), ?_⟩
    rintro ⟨scheme, rest, huri, htwo, hchars, -⟩
    rw [scheme?_eq_some_iff.2 ⟨htwo, hchars, rest, huri⟩] at h
    cases h
  | some scheme =>
    obtain ⟨htwo, hchars, rest, huri⟩ := scheme?_eq_some_iff.1 h
    dsimp only
    constructor
    · intro hnetwork
      refine ⟨scheme, rest, huri, htwo, hchars, fun hs => ?_⟩
      rw [if_pos ((hfile scheme).2 hs)] at hnetwork
      cases hnetwork
    · rintro ⟨scheme', rest', huri', htwo', hchars', hs'⟩
      have hscheme' := scheme?_eq_some_iff.2 ⟨htwo', hchars', rest', huri'⟩
      obtain rfl := Option.some.inj (hscheme'.symm.trans h)
      exact if_neg (mt (hfile _).1 hs')

theorem toRead_eq (uri : String) : toRead uri = .readFile ∨ toRead uri = .readNetwork := by
  rw [toRead]
  split
  · split
    · exact .inl rfl
    · exact .inr rfl
  · exact .inl rfl

end Capability

namespace Bridge

variable {A : Type} {b : Bridge} {uri : String}

/-- A request that is served asks the fetcher for its own document. -/
theorem fetches_of_admitted (h : b.policy.admits uri = true) (hservice : b.service = .serving) :
    (b.fetch uri : HostM A _).fetches = [uri] := by
  rw [fetch, if_pos h, hservice, serve]
  cases b.fetcher.fetch uri with
  | bytes | fails | panics => rfl
  | stalls => cases b.timeoutMs <;> rfl

end Bridge

namespace Http

variable {A : Type} {uri : String} {url : Url}

/-- The text of a reference before its first colon, which is all of it if there is none. -/
def beforeColon (uri : String) : List Char := uri.toList.takeWhile (· != ':')

theorem parse_of_target (h : target uri = .ok url) :
    Url.parse uri = .ok url ∧ (url.scheme = "http" ∨ url.scheme = "https") := by
  rw [target] at h
  cases hparse : Url.parse uri with
  | error cause =>
    rw [hparse] at h
    cases h
  | ok parsed =>
    rw [hparse] at h
    dsimp only at h
    split at h
    · rename_i hscheme
      cases h
      exact ⟨rfl, by simpa [schemes] using hscheme⟩
    · cases h

/-- The schemes under which requests are sent are words in lower case, and need the network. -/
theorem network_of_scheme {scheme : String} (h : scheme = "http" ∨ scheme = "https") :
    1 < scheme.toList.length ∧ (∀ c ∈ scheme.toList, Capability.isSchemeChar c = true) ∧
      scheme.toList.map Text.lowerAscii = scheme.toList ∧ scheme.toList ≠ "file".toList := by
  rcases h with rfl | rfl <;> exact ⟨by decide, List.all_eq_true.1 rfl, rfl, by decide⟩

theorem toRead_iff_of_target (h : target uri = .ok url) :
    Capability.toRead uri = .readNetwork ↔ ∀ c ∈ beforeColon uri, Url.isPadding c = false := by
  obtain ⟨hparse, hscheme⟩ := parse_of_target h
  obtain ⟨padding, name, hopening, hchars, hname⟩ := Url.opening_of_parse hparse
  rw [beforeColon, hopening.takeWhile, Capability.toRead_eq_readNetwork_iff]
  constructor
  · rintro ⟨scheme, rest, huri, -, hplain, -⟩ c hc
    rw [← hopening.takeWhile, huri, Capability.takeWhile_colon hplain] at hc
    exact Capability.not_isPadding_of_isSchemeChar (hplain c hc)
  · intro hplain
    -- without blanks and controls, all characters before the colon belong to the scheme
    have hpadding : padding = [] := by
      refine List.eq_nil_iff_forall_not_mem.2 fun c hc => ?_
      have hnot := hplain c (List.mem_append_left _ hc)
      rw [hopening.isPadding c hc] at hnot
      cases hnot
    have hcounted : Url.counted name = name := by
      refine List.filter_eq_self.2 fun c hc => ?_
      rw [Bool.not_eq_true']
      exact Url.not_isIgnored_of_not_isPadding (hplain c (List.mem_append_right _ hc))
    obtain ⟨rest, huri⟩ := hopening.exists_rest
    rw [hpadding, List.nil_append] at huri
    rw [hcounted] at hchars hname
    obtain ⟨htwo, -, -, hfile⟩ := network_of_scheme hscheme
    rw [hname, String.toList_ofList] at htwo hfile
    exact ⟨name, rest, huri, by rwa [List.length_map] at htwo, hchars, hfile⟩

/-- A URL in its normal form is judged as what it is. -/
theorem toRead_toString (h : url.scheme = "http" ∨ url.scheme = "https") :
    Capability.toRead url.toString = .readNetwork := by
  obtain ⟨htwo, hchars, hlower, hfile⟩ := network_of_scheme h
  obtain ⟨rest, hrest⟩ : ∃ rest, url.toString.toList = url.scheme.toList ++ ':' :: rest := by
    unfold Url.toString
    simp only [String.toList_append, List.append_assoc]
    exact ⟨_, rfl⟩
  rw [Capability.toRead_eq_readNetwork_iff]
  exact ⟨url.scheme.toList, rest, hrest, htwo, hchars, by rwa [hlower]⟩

/-- **A bridge without the network.** A reference that is sent to a server passes just if there is
a blank or a control before its first colon. -/
theorem fetches_of_target (h : target uri = .ok url) {b : Bridge}
    (hnetwork : b.policy.readNetwork = .forbid) (hfile : b.policy.readFile = .allow)
    (hservice : b.service = .serving) :
    (b.fetch uri : HostM A _).fetches = [] ↔ ∀ c ∈ beforeColon uri, Url.isPadding c = false := by
  rw [← toRead_iff_of_target h]
  rcases Capability.toRead_eq uri with hread | hread
  · have hadmits : b.policy.admits uri = true := by
      rw [Policy.admits, hread, Policy.allows, Policy.access, hfile]
      rfl
    rw [Bridge.fetches_of_admitted hadmits hservice, hread]
    exact ⟨(nomatch ·), (nomatch ·)⟩
  · have hadmits : b.policy.admits uri = false := by
      rw [Policy.admits, hread, Policy.allows, Policy.access, hnetwork]
      rfl
    rw [Bridge.fetch_of_refused hadmits, hread]
    exact ⟨fun _ => rfl, fun _ => rfl⟩

/-- **Which references that are sent to a server are judged as such**: those without a blank or a
control before their first colon, so in particular every URL in its normal form. Any other slips
past a policy that forbids the network and allows files. -/
theorem toRead_of_target (h : target uri = .ok url) :
    (Capability.toRead uri = .readNetwork ↔ ∀ c ∈ beforeColon uri, Url.isPadding c = false) ∧
      Capability.toRead url.toString = .readNetwork ∧
      ∀ b : Bridge, b.policy.readNetwork = .forbid → b.policy.readFile = .allow →
        b.service = .serving → ((b.fetch uri : HostM A _).fetches = [] ↔
          ∀ c ∈ beforeColon uri, Url.isPadding c = false) :=
  ⟨toRead_iff_of_target h, toRead_toString (parse_of_target h).2,
    fun _ hnetwork hfile hservice => fetches_of_target h hnetwork hfile hservice⟩

/-- A reference to a server at an address, with nothing but the address. -/
def addressed : Url where
  scheme := "http"
  authority := some { host := .ipv6 #v[0, 0, 0, 0, 0, 0, 0, 1] }
  path := .segments [""]

/-- A bridge that may read files and not the network. -/
def offline : Bridge where
  fetcher := .ofOutcomes "any" fun _ => .bytes []
  policy := { Policy.lockedDown with readFile := .allow }

theorem toRead_tabbedUri : target "ht\ttp://[::1]/" = .ok addressed ∧
    Capability.toRead "ht\ttp://[::1]/" = .readFile ∧
    Capability.toRead addressed.toString = .readNetwork ∧
    (offline.fetch "ht\ttp://[::1]/" : HostM Unit _).fetches ≠ [] := by
  have htarget : target "ht\ttp://[::1]/" = .ok addressed := by cbv
  have htab : ¬∀ c ∈ beforeColon "ht\ttp://[::1]/", Url.isPadding c = false :=
    fun h => absurd (h '\t' (by decide)) (by decide)
  obtain ⟨hread, hnormal, hfetches⟩ := toRead_of_target (A := Unit) htarget
  exact ⟨htarget, (Capability.toRead_eq _).resolve_right (mt hread.1 htab), hnormal,
    mt (hfetches offline rfl rfl rfl).1 htab⟩

/-- A reference with a blank before it is sent to its server, but judged as a file. -/
theorem toRead_paddedUri :
    ¬ ((∀ uri url, target uri = .ok url → Capability.toRead uri = .readNetwork) ∨
      ∀ b : Bridge, b.policy.readNetwork = .forbid → b.policy.readFile = .allow →
        ∀ uri url, target uri = .ok url → (b.fetch uri : HostM Unit _).fetches = []) := by
  have htarget : target " http://[::1]/" = .ok addressed := by cbv
  rintro (h | h)
  · exact absurd (h _ _ htarget) (by decide)
  · exact absurd (h offline rfl rfl _ _ htarget) (by decide)

end Http

end StyleHost
