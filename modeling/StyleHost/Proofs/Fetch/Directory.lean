import Mathlib
import StyleHost.Fetch.Directory
import StyleHost.Proofs.Fetch.FileTree
import StyleHost.Proofs.Url.FileUri

/-!
# What a directory fetcher reads

A reference means a path, and a path leads to a place or nowhere. A directory fetcher gives the
content of a file just if the file is readable and its place lies beneath that of the base, name by
name. What it answers otherwise depends only on how far this fails.

The path of a `file` URL is the local path that it names, save one thing: a path that ends in a
letter and a colon or a bar is taken for one to a drive and gets a slash, and such a path leads to
no file. A file with such a name is read as a path from the base, but not as a URL.

* `DirectoryFetcher.Means` : the path that a reference means, if it means one.
* `DirectoryFetcher.Confined` : what a fetcher answers to a reference, for a base at a given place.
  A directory fetcher answers so to every reference, whatever its tree and its base.
* `DirectoryFetcher.driveDirectory_misses` : a readable file beneath the base that is not found.
-/

namespace StyleHost

namespace Text

/-- A character whose lower-case form is no letter is that form. -/
theorem eq_of_lowerAscii_eq {c d : Char} (h : lowerAscii c = d) (hd : d.isLower = false) :
    c = d := by
  rw [lowerAscii, Char.toLower] at h
  split at h
  · rename_i hupper
    have hfirst : 65 ≤ c.val.toNat := UInt32.le_iff_toNat_le.1 hupper.1
    have hlast : c.val.toNat ≤ 90 := UInt32.le_iff_toNat_le.1 hupper.2
    have hval : d.val.toNat = c.val.toNat + 32 := by
      subst h
      rw [UInt32.toNat_add]
      exact Nat.mod_eq_of_lt (Nat.lt_of_le_of_lt (Nat.add_le_add_right hlast 32) (by decide))
    -- the letters from 97 on are those in lower case
    have hlower : d.isLower = true := by
      simp only [Char.isLower, ge_iff_le, Bool.and_eq_true, decide_eq_true_eq,
        UInt32.le_iff_toNat_le, hval]
      exact ⟨Nat.add_le_add_right hfirst 32, Nat.add_le_add_right hlast 32⟩
    rw [hlower] at hd
    cases hd
  · exact h

end Text

namespace DirectoryFetcher

/-- A reference that starts with the scheme of files, in any case. -/
def IsFileRef (uri : String) : Prop :=
  ∃ scheme rest, uri.toList = scheme ++ ':' :: rest ∧
    scheme.map Text.lowerAscii = "file".toList

/-- The path that a reference means: the local path that a `file` URL names, with a slash after what
looks like a drive, or the base joined with a path that does not start at the root. -/
inductive Means (f : DirectoryFetcher) (uri : String) : Bytes → Prop
  | url {url : Url} {path : Bytes} (href : IsFileRef uri) (hurl : Url.parse uri = .ok url)
      (hpath : url.LocalPath path) (hdrive : ¬Url.EndsInDrive path) : Means f uri path
  | drive {url : Url} {path : Bytes} (href : IsFileRef uri) (hurl : Url.parse uri = .ok url)
      (hpath : url.LocalPath path) (hdrive : Url.EndsInDrive path) :
      Means f uri (path ++ [Url.slash])
  | joined (href : ¬IsFileRef uri) (hpath : FileTree.isAbsolute (Utf8.encode uri) = false) :
      Means f uri (f.inBase (Utf8.encode uri))

/-- What a fetcher whose base is at a place answers to a reference. -/
structure Confined (f : DirectoryFetcher) (base : Place) (uri : String) : Prop where
  /-- Bytes are given for a readable file beneath the base, and for nothing else. -/
  ok_iff : ∀ content, f.fetch uri = .ok content ↔
    ∃ path place, f.Means uri path ∧ f.tree.Resolves path place ∧ base <+: place ∧
      f.tree.find? place = some (.file content)
  outside : ∀ path place, f.Means uri path → f.tree.Resolves path place → ¬base <+: place →
    f.fetch uri = .error (.forbidden uri)
  fromRoot : ¬IsFileRef uri → FileTree.isAbsolute (Utf8.encode uri) = true →
    f.fetch uri = .error (.forbidden uri)
  nowhere : ∀ path, f.Means uri path → (∀ place, ¬f.tree.Resolves path place) →
    f.fetch uri = .error (.notFound uri)
  directory : ∀ path place, f.Means uri path → f.tree.Resolves path place → base <+: place →
    f.tree.find? place = some .directory →
    f.fetch uri = .error (.io "Is a directory (os error 21)")
  unreadable : ∀ path place, f.Means uri path → f.tree.Resolves path place → base <+: place →
    f.tree.find? place = some .unreadable →
    f.fetch uri = .error (.io "Permission denied (os error 13)")
  noPath : IsFileRef uri → (∀ path, ¬f.Means uri path) → f.fetch uri = .error (.invalidUri uri)
  /-- A readable file beneath the base is read where a URL spells its place. -/
  spelled : ∀ place content, Url.Spells uri place →
    (∀ name ∈ place, FileTree.separator ∉ name ∧ 0 ∉ name) → f.tree.IsCanonical place →
    base <+: place → f.tree.find? place = some (.file content) →
    ¬Url.EndsInDrive (place.flatMap (Url.slash :: ·)) → f.fetch uri = .ok content
  /-- No file is found where the path of a URL looks like one to a drive. -/
  drive : ∀ url path place, IsFileRef uri → Url.parse uri = .ok url → url.LocalPath path →
    Url.EndsInDrive path → f.tree.Resolves path place → f.tree.find? place ≠ some .directory →
    f.fetch uri = .error (.notFound uri)
  /-- The places that are compared are free of links and dot segments. -/
  canonical : f.tree.IsCanonical base ∧
    ∀ path place, f.Means uri path → f.tree.Resolves path place → f.tree.IsCanonical place

variable {f : DirectoryFetcher} {uri : String} {path : Bytes} {base place : Place}

/-! ### The path of a reference -/

theorem isFileUri_iff : isFileUri uri = true ↔ IsFileRef uri := by
  rw [isFileUri, Text.eqIgnoreCase_iff, String.toList_ofList]
  constructor
  · intro h
    -- the five characters that are compared are those of the scheme and its colon
    have hsplit : "file:".toList.map Text.lowerAscii = "file".toList ++ [':'] := rfl
    obtain ⟨scheme, colon, htake, hscheme, hcolon⟩ := List.map_eq_append_iff.1 (h.trans hsplit)
    obtain ⟨c, _, rfl, hc, hnil⟩ := List.map_eq_cons_iff.1 hcolon
    obtain rfl := List.map_eq_nil_iff.1 hnil
    obtain rfl := Text.eq_of_lowerAscii_eq hc rfl
    refine ⟨scheme, uri.toList.drop 5, ?_, hscheme⟩
    calc uri.toList = uri.toList.take 5 ++ uri.toList.drop 5 := (List.take_append_drop 5 _).symm
      _ = scheme ++ ':' :: uri.toList.drop 5 := by rw [htake, List.append_assoc]; rfl
  · rintro ⟨scheme, rest, huri, hscheme⟩
    have hlength : scheme.length = 4 := by
      rw [← List.length_map, hscheme]
      rfl
    rw [huri, List.take_append, List.take_of_length_le (by omega), hlength, List.map_append,
      hscheme]
    rfl

theorem candidate_of_url {url : Url} (href : IsFileRef uri) (hurl : Url.parse uri = .ok url)
    (hpath : url.toFilePath? = some path) : f.candidate uri = .ok path := by
  rw [candidate, if_pos (isFileUri_iff.2 href), hurl]
  dsimp only
  rw [hpath]

theorem Means.candidate (h : f.Means uri path) : f.candidate uri = .ok path := by
  cases h with
  | url href hurl hpath hdrive =>
    exact candidate_of_url href hurl (Url.toFilePath?_eq_some_iff.2 (.inl ⟨hpath, hdrive⟩))
  | drive href hurl hpath hdrive =>
    exact candidate_of_url href hurl
      (Url.toFilePath?_eq_some_iff.2 (.inr ⟨_, hpath, hdrive, rfl⟩))
  | joined href hpath =>
    rw [DirectoryFetcher.candidate, if_neg (mt isFileUri_iff.1 href)]
    dsimp only
    rw [hpath]
    rfl

theorem means_of_toFilePath? {url : Url} (href : IsFileRef uri) (hurl : Url.parse uri = .ok url)
    (hpath : url.toFilePath? = some path) : f.Means uri path := by
  rcases Url.toFilePath?_eq_some_iff.1 hpath with ⟨hlocal, hdrive⟩ | ⟨_, hlocal, hdrive, rfl⟩
  · exact .url href hurl hlocal hdrive
  · exact .drive href hurl hlocal hdrive

theorem means_of_candidate (h : f.candidate uri = .ok path) : f.Means uri path := by
  rw [candidate] at h
  split at h
  · rename_i href
    split at h
    · rename_i url hurl
      split at h
      · rename_i path' hpath
        cases h
        exact means_of_toFilePath? (isFileUri_iff.1 href) hurl hpath
      · cases h
    · cases h
  · rename_i href
    dsimp only at h
    split at h
    · cases h
    · rename_i hpath
      cases h
      exact .joined (mt isFileUri_iff.2 href) (Bool.not_eq_true _ ▸ hpath)

theorem isFileRef_of_spells (h : Url.Spells uri place) : IsFileRef uri := by
  obtain ⟨scheme, names, huri, hscheme, -⟩ := h.exists_names
  exact ⟨scheme, _, huri, hscheme⟩

theorem candidate_of_fromRoot (href : ¬IsFileRef uri)
    (hroot : FileTree.isAbsolute (Utf8.encode uri) = true) :
    f.candidate uri = .error (.forbidden uri) := by
  rw [candidate, if_neg (mt isFileUri_iff.1 href)]
  exact if_pos hroot

theorem candidate_of_noPath (href : IsFileRef uri) (hpath : ∀ path, ¬f.Means uri path) :
    f.candidate uri = .error (.invalidUri uri) := by
  rw [candidate, if_pos (isFileUri_iff.2 href)]
  split
  · rename_i url hurl
    split
    · rename_i path hfile
      exact absurd (means_of_toFilePath? href hurl hfile) (hpath path)
    · rfl
  · rfl

/-! ### The answer to a reference -/

theorem fetch_of_error {cause : FetchError} (h : f.candidate uri = .error cause) :
    f.fetch uri = .error cause := by
  rw [fetch, h]
  rfl

theorem fetch_of_nowhere (h : f.Means uri path) (hpath : ∀ place, ¬f.tree.Resolves path place) :
    f.fetch uri = .error (.notFound uri) := by
  rw [fetch, h.candidate]
  simp only [bind, Except.bind, FileTree.resolve?_eq_none_iff.2 hpath]

theorem fetch_of_resolves (h : f.Means uri path) (hpath : f.tree.Resolves path place) :
    f.fetch uri = if f.contains place then f.read uri place else .error (.forbidden uri) := by
  rw [fetch, h.candidate]
  simp only [bind, Except.bind, FileTree.resolve?_eq_some_iff.2 hpath]

theorem contains_iff (hbase : f.tree.Resolves (Utf8.encode f.base) base) :
    f.contains place = true ↔ base <+: place := by
  rw [contains, basePlace?, FileTree.resolve?_eq_some_iff.2 hbase]
  exact List.isPrefixOf_iff_prefix

theorem fetch_of_inside (hbase : f.tree.Resolves (Utf8.encode f.base) base)
    (h : f.Means uri path) (hpath : f.tree.Resolves path place) (hplace : base <+: place) :
    f.fetch uri = f.read uri place := by
  rw [fetch_of_resolves h hpath, if_pos ((contains_iff hbase).2 hplace)]

theorem fetch_of_outside (hbase : f.tree.Resolves (Utf8.encode f.base) base)
    (h : f.Means uri path) (hpath : f.tree.Resolves path place) (hplace : ¬base <+: place) :
    f.fetch uri = .error (.forbidden uri) := by
  rw [fetch_of_resolves h hpath, if_neg (mt (contains_iff hbase).1 hplace)]

/-- **A readable file beneath the base is read where a URL spells its place.** -/
theorem fetch_of_spells (hbase : f.tree.Resolves (Utf8.encode f.base) base) {content : Bytes}
    (h : Url.Spells uri place) (hnames : ∀ name ∈ place, FileTree.separator ∉ name ∧ 0 ∉ name)
    (hcanonical : f.tree.IsCanonical place) (hinside : base <+: place)
    (hfile : f.tree.find? place = some (.file content))
    (hdrive : ¬Url.EndsInDrive (place.flatMap (Url.slash :: ·))) : f.fetch uri = .ok content := by
  obtain ⟨url, hurl, hpath⟩ := h.exists_localPath
  have hmeans : f.Means uri (place.flatMap (Url.slash :: ·)) :=
    .url (isFileRef_of_spells h) hurl hpath hdrive
  rw [fetch_of_inside hbase hmeans (hcanonical.resolves h.ne_nil hnames) hinside, read, hfile]

/-- No file is found where the path of a URL looks like one to a drive. -/
theorem fetch_of_drive {url : Url} (href : IsFileRef uri) (hurl : Url.parse uri = .ok url)
    (hpath : url.LocalPath path) (hdrive : Url.EndsInDrive path)
    (hresolves : f.tree.Resolves path place) (hplace : f.tree.find? place ≠ some .directory) :
    f.fetch uri = .error (.notFound uri) :=
  fetch_of_nowhere (.drive href hurl hpath hdrive) fun _ => hresolves.not_concat hplace

theorem read_eq_ok_iff {content : Bytes} :
    f.read uri place = .ok content ↔ f.tree.find? place = some (.file content) := by
  rw [read]
  split <;> simp_all

/-- Bytes come from a readable file beneath the base. -/
theorem exists_of_fetch (hbase : f.tree.Resolves (Utf8.encode f.base) base) {content : Bytes}
    (h : f.fetch uri = .ok content) :
    ∃ path place, f.Means uri path ∧ f.tree.Resolves path place ∧ base <+: place ∧
      f.tree.find? place = some (.file content) := by
  cases hpath : f.candidate uri with
  | error cause =>
    rw [fetch_of_error hpath] at h
    cases h
  | ok path =>
    have hmeans := means_of_candidate hpath
    cases hplace : f.tree.resolve? path with
    | none =>
      rw [fetch_of_nowhere hmeans (FileTree.resolve?_eq_none_iff.1 hplace)] at h
      cases h
    | some place =>
      have hresolves := FileTree.resolve?_eq_some_iff.1 hplace
      by_cases hinside : base <+: place
      · rw [fetch_of_inside hbase hmeans hresolves hinside] at h
        exact ⟨path, place, hmeans, hresolves, hinside, read_eq_ok_iff.1 h⟩
      · rw [fetch_of_outside hbase hmeans hresolves hinside] at h
        cases h

/-- **A directory fetcher reads beneath its base and nowhere else.** -/
theorem fetch_confined (f : DirectoryFetcher) {base : Place}
    (hbase : f.tree.Resolves (Utf8.encode f.base) base) (uri : String) :
    f.Confined base uri where
  ok_iff content := by
    refine ⟨exists_of_fetch hbase, ?_⟩
    rintro ⟨path, place, hmeans, hresolves, hinside, hfile⟩
    rw [fetch_of_inside hbase hmeans hresolves hinside]
    exact read_eq_ok_iff.2 hfile
  outside _ _ hmeans hresolves := fetch_of_outside hbase hmeans hresolves
  fromRoot href hroot := fetch_of_error (candidate_of_fromRoot href hroot)
  nowhere _ := fetch_of_nowhere
  directory path place hmeans hresolves hinside hnode := by
    rw [fetch_of_inside hbase hmeans hresolves hinside, read, hnode]
  unreadable path place hmeans hresolves hinside hnode := by
    rw [fetch_of_inside hbase hmeans hresolves hinside, read, hnode]
  noPath href hpath := fetch_of_error (candidate_of_noPath href hpath)
  spelled _ _ := fetch_of_spells hbase
  drive _ _ _ := fetch_of_drive
  canonical := ⟨hbase.isCanonical, fun _ _ _ hresolves => hresolves.isCanonical⟩

/-- A base with a file and with a link to a file of a sibling, whose name begins as that of the
base. -/
def linkedDirectory : DirectoryFetcher where
  tree := ⟨[([Utf8.encode "base"], .directory),
    ([Utf8.encode "base", Utf8.encode "in.xml"], .file [1]),
    ([Utf8.encode "base", Utf8.encode "out.xml"], .link (Utf8.encode "../base2/in.xml")),
    ([Utf8.encode "base2"], .directory),
    ([Utf8.encode "base2", Utf8.encode "in.xml"], .file [2])], []⟩
  base := "/base"

theorem linkedDirectory_reads :
    linkedDirectory.tree.Resolves (Utf8.encode "/base") [Utf8.encode "base"] ∧
      linkedDirectory.fetch "in.xml" = .ok [1] ∧
      linkedDirectory.fetch "out.xml" = .error (.forbidden "out.xml") ∧
      linkedDirectory.fetch "FILE:///base/%69n.xml" = .ok [1] := by
  have hbase : linkedDirectory.tree.Resolves (Utf8.encode "/base") [Utf8.encode "base"] :=
    FileTree.resolve?_eq_some_iff.1 (by cbv)
  have hin : linkedDirectory.tree.Resolves (linkedDirectory.inBase (Utf8.encode "in.xml"))
      [Utf8.encode "base", Utf8.encode "in.xml"] :=
    FileTree.resolve?_eq_some_iff.1 (by cbv)
  have hout : linkedDirectory.tree.Resolves (linkedDirectory.inBase (Utf8.encode "out.xml"))
      [Utf8.encode "base2", Utf8.encode "in.xml"] :=
    FileTree.resolve?_eq_some_iff.1 (by cbv)
  have hmeans : linkedDirectory.Means "in.xml" (linkedDirectory.inBase (Utf8.encode "in.xml")) :=
    .joined (mt isFileUri_iff.2 (by decide +kernel)) (by decide +kernel)
  have hmeans' : linkedDirectory.Means "out.xml"
      (linkedDirectory.inBase (Utf8.encode "out.xml")) :=
    .joined (mt isFileUri_iff.2 (by decide +kernel)) (by decide +kernel)
  have hspells : Url.Spells "FILE:///base/%69n.xml" [Utf8.encode "base", Utf8.encode "in.xml"] := by
    refine ⟨⟨"FILE".toList, ["base", "%69n.xml"], by decide +kernel, by decide +kernel,
      by decide +kernel, .cons ?_ (.cons ?_ .nil)⟩, List.cons_ne_nil _ _, by decide +kernel⟩
    · exact Url.decodes_iff.2 (by decide +kernel)
    · exact Url.decodes_iff.2 (by decide +kernel)
  have hdrive : ¬Url.EndsInDrive
      ([Utf8.encode "base", Utf8.encode "in.xml"].flatMap (Url.slash :: ·)) :=
    mt Url.EndsInDrive.getLast? (by decide +kernel)
  refine ⟨hbase, ?_, ?_, ?_⟩
  · exact ((fetch_confined linkedDirectory hbase "in.xml").ok_iff [1]).2
      ⟨_, _, hmeans, hin, by decide +kernel, by decide +kernel⟩
  · exact (fetch_confined linkedDirectory hbase "out.xml").outside _ _ hmeans' hout
      (by decide +kernel)
  · exact (fetch_confined linkedDirectory hbase "FILE:///base/%69n.xml").spelled _ _ hspells
      (by decide +kernel) hin.isCanonical (by decide +kernel) (by decide +kernel) hdrive

/-- A base with a file whose path looks like one to a drive. -/
def driveDirectory : DirectoryFetcher where
  tree := ⟨[([Utf8.encode "base"], .directory),
    ([Utf8.encode "base", Utf8.encode "xb:"], .file [1])], []⟩
  base := "/base"

/-- A readable file beneath the base is not found by the URL that names it, though it is read as a
path from the base. -/
theorem driveDirectory_misses :
    ∃ url path place, driveDirectory.tree.Resolves (Utf8.encode "/base") [Utf8.encode "base"] ∧
      Url.parse "file:///base/xb:" = .ok url ∧ url.LocalPath path ∧
      driveDirectory.tree.Resolves path place ∧ [Utf8.encode "base"] <+: place ∧
      driveDirectory.tree.find? place = some (.file [1]) ∧
      driveDirectory.fetch "xb:" = .ok [1] ∧
      driveDirectory.fetch "file:///base/xb:" = .error (.notFound "file:///base/xb:") := by
  have hspells : Url.Spells "file:///base/xb:" [Utf8.encode "base", Utf8.encode "xb:"] := by
    refine ⟨⟨"file".toList, ["base", "xb:"], by decide +kernel, by decide +kernel,
      by decide +kernel, .cons ?_ (.cons ?_ .nil)⟩, List.cons_ne_nil _ _, by decide +kernel⟩
    · exact Url.decodes_iff.2 (by decide +kernel)
    · exact Url.decodes_iff.2 (by decide +kernel)
  have hbase : driveDirectory.tree.Resolves (Utf8.encode "/base") [Utf8.encode "base"] :=
    FileTree.resolve?_eq_some_iff.1 (by cbv)
  have hplace : driveDirectory.tree.Resolves (driveDirectory.inBase (Utf8.encode "xb:"))
      [Utf8.encode "base", Utf8.encode "xb:"] :=
    FileTree.resolve?_eq_some_iff.1 (by cbv)
  have hmeans : driveDirectory.Means "xb:" (driveDirectory.inBase (Utf8.encode "xb:")) :=
    .joined (mt isFileUri_iff.2 (by decide +kernel)) (by decide +kernel)
  obtain ⟨url, hurl, hpath⟩ := hspells.exists_localPath
  have hresolves := hplace.isCanonical.resolves (List.cons_ne_nil _ _) (by decide +kernel)
  have hread : driveDirectory.fetch "xb:" = .ok [1] := by
    rw [fetch_of_inside hbase hmeans hplace (by decide +kernel)]
    exact read_eq_ok_iff.2 (by decide +kernel)
  refine ⟨url, _, _, hbase, hurl, hpath, hresolves, by decide +kernel, by decide +kernel, hread, ?_⟩
  refine fetch_of_drive (isFileRef_of_spells hspells) hurl hpath ?_ hresolves (by decide +kernel)
  exact ⟨Utf8.encode "/base/x", 0x62, 0x3A, by decide +kernel, by decide, by decide⟩

end DirectoryFetcher

end StyleHost
