import StyleHost.Proofs.Fetch.Classification
import StyleHost.Proofs.Fetch.Directory
import StyleHost.Proofs.Fetch.Series
import StyleHost.Proofs.Text.Utf8

/-!
# Files with names that look remote

A policy judges a reference by its scheme, while a directory fetcher takes whatever does not start
with the scheme of files for a path from its base. The name of a file may hold a colon, so a path
can start with what a policy takes for a scheme: `notes:1.xml` is judged to need the network, and
is read from the base.

* `DirectoryFetcher.exists_route` : the names of a path from the base are followed from the place of
  the base.
* `DirectoryFetcher.LooksRemote` : the names of files that are judged so.
* `DirectoryFetcher.Classified` : where judgement and fetcher agree. All that is read is judged as a
  file, but for paths that start with such a name of the base directory.
-/

namespace StyleHost

namespace FileTree

variable {t : FileTree} {m n : Nat} {place goal goal' : Place} {ns : List FileName}

/-- Names lead to one place only. -/
theorem Leads.unique (h : t.Leads m place ns goal) (h' : t.Leads n place ns goal') :
    goal = goal' := by
  have hwalk : t.walk (m + n) place ns = some goal :=
    walk_eq_some_iff.2 ⟨m, Nat.le_add_right m n, h⟩
  have hwalk' : t.walk (m + n) place ns = some goal' :=
    walk_eq_some_iff.2 ⟨n, Nat.le_add_left n m, h'⟩
  exact Option.some.inj (hwalk.symm.trans hwalk')

/-- The empty name at the end of a path that ends in a separator adds nothing. -/
theorem Leads.of_concat_nil (h : t.Leads n place (ns ++ [[]]) goal) :
    ∃ k ≤ n, t.Leads k place ns goal := by
  obtain ⟨k, l, via, rfl, hns, hlast⟩ := h.split
  cases hlast with
  | stay _ _ hrest =>
    cases hrest
    exact ⟨k, Nat.le_refl _, hns⟩
  | enter _ hname => exact absurd rfl hname.1
  | follow _ hname => exact absurd rfl hname.1

/-- A name with a colon is no dot segment. -/
theorem isEntry_of_colon {name : FileName} (h : 0x3A ∈ name) : IsEntry name := by
  refine ⟨?_, ?_, ?_⟩ <;> rintro rfl <;> exact absurd h (by decide)

/-- Names lead only through entries that exist. -/
theorem Leads.find?_ne_none {name : FileName} (h : t.Leads n place (name :: ns) goal)
    (hname : IsEntry name) : t.find? (place ++ [name]) ≠ none := by
  cases h with
  | stay _ hplain => exact absurd hplain (not_or.2 ⟨hname.1, hname.2.1⟩)
  | up => exact absurd rfl hname.2.2
  | enter _ _ hnode => exact hnode ▸ nofun
  | follow _ _ hnode => exact hnode ▸ nofun

end FileTree

namespace DirectoryFetcher

open HostM

/-- A name of a file that a policy takes for a reference to the network: it starts with the word of
a scheme, other than that of files, and a colon. -/
structure LooksRemote (name : String) : Prop where
  not_mem : '/' ∉ name.toList
  opening : ∃ scheme rest, name.toList = scheme ++ ':' :: rest ∧ 1 < scheme.length ∧
    (∀ c ∈ scheme, Capability.isSchemeChar c = true) ∧ scheme.map Text.lowerAscii ≠ "file".toList

variable {f : DirectoryFetcher} {uri name : String} {content path : Bytes} {base place : Place}

/-! ### Judgement -/

theorem LooksRemote.toRead (h : LooksRemote name) : Capability.toRead name = .readNetwork :=
  Capability.toRead_eq_readNetwork_iff.2 h.opening

/-- What stands before the first of some character. -/
theorem takeWhile_ne {c : Char} {before : List Char} (h : c ∉ before) (after : List Char) :
    (before ++ c :: after).takeWhile (· != c) = before := by
  rw [List.takeWhile_append_of_pos]
  · simp
  · intro d hd
    rw [bne_iff_ne]
    rintro rfl
    exact h hd

/-- A reference with the scheme of files is judged as a file. -/
theorem toRead_of_isFileRef (h : IsFileRef uri) : Capability.toRead uri = .readFile := by
  refine (Capability.toRead_eq uri).resolve_right fun hnetwork => ?_
  obtain ⟨scheme, rest, huri, hscheme⟩ := h
  obtain ⟨scheme', rest', huri', -, hchars, hother⟩ :=
    Capability.toRead_eq_readNetwork_iff.1 hnetwork
  have hcolon : ':' ∉ scheme := fun hmem => by
    have hfile := List.mem_map_of_mem (f := Text.lowerAscii) hmem
    rw [hscheme] at hfile
    exact absurd hfile (by decide)
  -- both schemes end at the first colon
  have hsame : scheme = scheme' := by
    rw [← takeWhile_ne hcolon rest, ← huri, huri', Capability.takeWhile_colon hchars]
  exact hother (hsame ▸ hscheme)

/-- The first name of a path that is judged to need the network looks remote. -/
theorem exists_looksRemote (h : Capability.toRead uri = .readNetwork) :
    ∃ name after, LooksRemote name ∧ uri.toList = name.toList ++ after ∧
      (after = [] ∨ after.head? = some '/') := by
  obtain ⟨scheme, rest, huri, htwo, hchars, hother⟩ := Capability.toRead_eq_readNetwork_iff.1 h
  have hslash : ∀ c ∈ scheme ++ [':'], (c != '/') = true := by
    intro c hc
    rw [bne_iff_ne]
    rintro rfl
    rcases List.mem_append.1 hc with hc | hc
    · exact absurd (hchars '/' hc) (by decide)
    · exact absurd (List.mem_singleton.1 hc) (by decide)
  have hsplit : uri.toList = (scheme ++ [':']) ++ rest := by rw [huri, List.append_assoc]; rfl
  refine ⟨String.ofList (uri.toList.takeWhile (· != '/')), uri.toList.dropWhile (· != '/'),
    ⟨?_, scheme, rest.takeWhile (· != '/'), ?_, htwo, hchars, hother⟩, ?_, ?_⟩
  · rw [String.toList_ofList]
    exact fun hmem => absurd (List.mem_takeWhile_imp hmem) (by decide)
  · rw [String.toList_ofList, hsplit, List.takeWhile_append_of_pos hslash, List.append_assoc]
    rfl
  · rw [String.toList_ofList, List.takeWhile_append_dropWhile]
  · cases hdrop : uri.toList.dropWhile (· != '/') with
    | nil => exact .inl rfl
    | cons c cs =>
      have hc := List.head?_dropWhile_not (· != '/') uri.toList
      rw [hdrop] at hc
      exact .inr (congrArg some (by simpa using hc))

/-! ### Names as bytes -/

theorem LooksRemote.not_mem_encode (h : LooksRemote name) :
    FileTree.separator ∉ Utf8.encode name :=
  fun hmem => h.not_mem (Utf8.mem_of_mem_encode hmem (by decide))

theorem LooksRemote.isEntry (h : LooksRemote name) : FileTree.IsEntry (Utf8.encode name) := by
  refine FileTree.isEntry_of_colon ?_
  obtain ⟨scheme, rest, hname, -⟩ := h.opening
  rw [Utf8.encode_eq, hname]
  exact List.mem_flatMap.2 ⟨':', List.mem_append_right _ List.mem_cons_self, by decide⟩

theorem LooksRemote.isAbsolute_encode (h : LooksRemote name) :
    FileTree.isAbsolute (Utf8.encode name) = false := by
  rw [FileTree.isAbsolute, beq_eq_false_iff_ne]
  exact fun hhead => h.not_mem_encode (List.mem_of_head? hhead)

/-- The names of a path are its first name and what follows the slash behind it. -/
theorem names_encode (h : LooksRemote name) {after : List Char}
    (huri : uri.toList = name.toList ++ after) (hafter : after = [] ∨ after.head? = some '/') :
    ∃ more, FileTree.names (Utf8.encode uri) = Utf8.encode name :: more := by
  have hencode : Utf8.encode uri = Utf8.encode name ++ after.flatMap String.utf8EncodeChar := by
    rw [Utf8.encode_eq, huri, List.flatMap_append, Utf8.encode_eq]
  have hfirst := FileTree.names_of_not_mem h.not_mem_encode
  cases after with
  | nil =>
    rw [hencode, List.flatMap_nil, List.append_nil, hfirst]
    exact ⟨[], rfl⟩
  | cons c cs =>
    obtain rfl : c = '/' := by simpa using hafter
    have hslash : ('/' :: cs).flatMap String.utf8EncodeChar =
        FileTree.separator :: cs.flatMap String.utf8EncodeChar := rfl
    rw [hencode, hslash, FileTree.names_join, hfirst]
    exact ⟨_, rfl⟩

/-! ### Paths from the base -/

/-- The names of a path from the base are followed from the place of the base, to which the names of
the base lead. -/
theorem exists_route (hbase : f.tree.Resolves (Utf8.encode f.base) base) (path : Bytes) :
    ∃ n before, n ≤ FileTree.maxLinks ∧ f.tree.Leads n [] before base ∧
      before <+: f.tree.route (Utf8.encode f.base) ∧
      f.tree.route (f.inBase path) = before ++ FileTree.names path := by
  obtain ⟨hne, -, n, hn, hleads⟩ := hbase
  by_cases hlast : (Utf8.encode f.base).getLast? = some FileTree.separator
  · -- the base ends in a separator, so its last name is empty
    obtain ⟨front, hfront⟩ := List.getLast?_eq_some_iff.1 hlast
    obtain ⟨way, hway, -⟩ := f.tree.exists_route_join front
    have hpath : f.inBase path = front ++ FileTree.separator :: path := by
      rw [inBase, if_pos (.inr hlast), hfront, List.append_assoc]
      rfl
    rw [hfront, hway] at hleads
    obtain ⟨k, hk, hleads⟩ := hleads.of_concat_nil
    refine ⟨k, way, hk.trans hn, hleads, ?_, by rw [hpath, hway]⟩
    rw [hfront, hway]
    exact List.prefix_append way _
  · obtain ⟨way, hway, hroute⟩ := f.tree.exists_route_join (Utf8.encode f.base)
    have hpath : f.inBase path = Utf8.encode f.base ++ FileTree.separator :: path :=
      if_neg (not_or.2 ⟨hne, hlast⟩)
    rw [← hroute hne] at hleads ⊢
    exact ⟨n, way, hn, hleads, List.prefix_refl way, by rw [hpath, hway]⟩

theorem inBase_ne_nil (h : path ≠ []) : f.inBase path ≠ [] := by
  rw [inBase]
  split_ifs
  · exact List.append_ne_nil_of_right_ne_nil _ h
  · exact List.append_ne_nil_of_right_ne_nil _ (List.cons_ne_nil _ _)

theorem mem_inBase {b : UInt8} (h : b ∈ f.inBase path) :
    b ∈ Utf8.encode f.base ∨ b = FileTree.separator ∨ b ∈ path := by
  rw [inBase] at h
  split_ifs at h
  · exact (List.mem_append.1 h).imp_right .inr
  · exact (List.mem_append.1 h).imp_right List.mem_cons.1

/-- A file of the base directory is read by its name. -/
theorem fetch_of_looksRemote (hbase : f.tree.Resolves (Utf8.encode f.base) base)
    (hdirectory : f.tree.find? base = some .directory) (hname : LooksRemote name)
    (hzero : '\x00' ∉ name.toList)
    (hfile : f.tree.find? (base ++ [Utf8.encode name]) = some (.file content)) :
    f.fetch name = .ok content := by
  have hmeans : f.Means name (f.inBase (Utf8.encode name)) :=
    .joined (fun href => nomatch (toRead_of_isFileRef href).symm.trans hname.toRead)
      hname.isAbsolute_encode
  have hresolves : f.tree.Resolves (f.inBase (Utf8.encode name)) (base ++ [Utf8.encode name]) := by
    obtain ⟨n, way, hn, hleads, -, hroute⟩ := exists_route hbase (Utf8.encode name)
    refine ⟨inBase_ne_nil hname.isEntry.1, fun hmem => ?_, FileTree.walk_eq_some_iff.1 ?_⟩
    · rcases mem_inBase hmem with hmem | hmem | hmem
      · exact hbase.2.1 hmem
      · exact absurd hmem (by decide)
      · exact hzero (Utf8.mem_of_mem_encode hmem (by decide))
    · rw [hroute, FileTree.names_of_not_mem hname.not_mem_encode, hleads.walk hn,
        FileTree.walk_enter hdirectory hname.isEntry hfile nofun, FileTree.walk_nil]
  rw [fetch_of_inside hbase hmeans hresolves (List.prefix_append _ _)]
  exact read_eq_ok_iff.2 hfile

/-- Nothing is read if the base is nowhere. -/
theorem exists_base_of_fetch (h : f.fetch uri = .ok content) :
    ∃ base, f.tree.Resolves (Utf8.encode f.base) base := by
  cases hbase : f.basePlace? with
  | some base => exact ⟨base, FileTree.resolve?_eq_some_iff.1 hbase⟩
  | none =>
    have hcontains : ∀ place, f.contains place = false := fun place => by
      rw [contains, hbase]
      rfl
    cases hpath : f.candidate uri with
    | error cause => cases (fetch_of_error hpath).symm.trans h
    | ok path =>
      have hmeans := means_of_candidate hpath
      cases hplace : f.tree.resolve? path with
      | none =>
        cases (fetch_of_nowhere hmeans (FileTree.resolve?_eq_none_iff.1 hplace)).symm.trans h
      | some place =>
        rw [fetch_of_resolves hmeans (FileTree.resolve?_eq_some_iff.1 hplace), hcontains] at h
        cases h

/-- What is read and judged to need the network is a path that starts with the name of an entry of
the base directory. -/
theorem exists_entry_of_fetch (hfetch : f.fetch uri = .ok content)
    (hread : Capability.toRead uri = .readNetwork) :
    ∃ base name after, f.tree.Resolves (Utf8.encode f.base) base ∧ LooksRemote name ∧
      uri.toList = name.toList ++ after ∧ (after = [] ∨ after.head? = some '/') ∧
      f.tree.find? (base ++ [Utf8.encode name]) ≠ none := by
  obtain ⟨base, hbase⟩ := exists_base_of_fetch hfetch
  obtain ⟨path, place, hmeans, ⟨-, -, k, -, hleads⟩, -⟩ := exists_of_fetch hbase hfetch
  obtain ⟨name, after, hname, huri, hafter⟩ := exists_looksRemote hread
  refine ⟨base, name, after, hbase, hname, huri, hafter, ?_⟩
  cases hmeans with
  | url href | drive href => exact nomatch (toRead_of_isFileRef href).symm.trans hread
  | joined =>
    obtain ⟨n, way, -, hway, -, hroute⟩ := exists_route hbase (Utf8.encode uri)
    obtain ⟨more, hnames⟩ := names_encode hname huri hafter
    rw [hroute, hnames] at hleads
    obtain ⟨l, m, via, -, hvia, hrest⟩ := hleads.split
    obtain rfl := hvia.unique hway
    exact hrest.find?_ne_none hname.isEntry

/-! ### Bridges -/

/-- Just these bytes pass a bridge that forbids files and allows the network. -/
theorem bridge_fetch_iff {A : Type} {b : Bridge} (hfetcher : b.fetcher = f.fetcher)
    (hservice : b.service = .serving) (hfile : b.policy.readFile = .forbid)
    (hnetwork : b.policy.readNetwork = .allow) :
    (∃ after, (b.fetch uri : HostM A _).run.value = .ok (some content, after)) ↔
      f.fetch uri = .ok content ∧ Capability.toRead uri = .readNetwork := by
  have houtcome : b.fetcher.fetch uri = .ofExcept (f.fetch uri) := by rw [hfetcher]; rfl
  have hsettles : b.Settles uri := by
    intro _ hstalls
    rw [houtcome] at hstalls
    cases hfetch : f.fetch uri <;> rw [hfetch] at hstalls <;> cases hstalls
  have hadmits : b.policy.admits uri = true ↔ Capability.toRead uri = .readNetwork := by
    rcases Capability.toRead_eq uri with hread | hread <;>
      simp [Policy.admits, Policy.allows, Policy.access, hread, hfile, hnetwork]
  have hbytes : b.fetcher.fetch uri = .bytes content ↔ f.fetch uri = .ok content := by
    rw [houtcome]
    cases f.fetch uri <;> simp [Fetcher.Outcome.ofExcept]
  have hanswer : (∃ after, (b.fetch uri : HostM A _).run.value = .ok (some content, after)) ↔
      b.answer uri = some content := by
    rw [(Bridge.fetch_gives hservice hsettles).returns]
    simp
  rw [hanswer, Bridge.answer_eq_some_iff, hadmits, hbytes, and_comm]

/-! ### Where judgement and fetcher agree -/

/-- How the references are judged of which a fetcher gives the bytes. -/
structure Classified (A : Type) (f : DirectoryFetcher) : Prop where
  /-- A reference with the scheme of files is judged as a file. -/
  fileRef : ∀ uri, IsFileRef uri → Capability.toRead uri = .readFile
  /-- So is any other that is read, unless it starts with the name of an entry of the base directory
  that looks remote. -/
  remote : ∀ uri content, f.fetch uri = .ok content → Capability.toRead uri = .readNetwork →
    ∃ base name after, f.tree.Resolves (Utf8.encode f.base) base ∧ LooksRemote name ∧
      uri.toList = name.toList ++ after ∧ (after = [] ∨ after.head? = some '/') ∧
      f.tree.find? (base ++ [Utf8.encode name]) ≠ none
  /-- Without such entries the judgement is right. -/
  sound : (∀ base name, f.tree.Resolves (Utf8.encode f.base) base → LooksRemote name →
      f.tree.find? (base ++ [Utf8.encode name]) = none) →
    ∀ uri content, f.fetch uri = .ok content → Capability.toRead uri = .readFile
  /-- A file with such a name is read, and judged to need the network. -/
  entry : ∀ base name content, f.tree.Resolves (Utf8.encode f.base) base →
    f.tree.find? base = some .directory → LooksRemote name → '\x00' ∉ name.toList →
    f.tree.find? (base ++ [Utf8.encode name]) = some (.file content) →
    f.fetch name = .ok content ∧ Capability.toRead name = .readNetwork
  /-- What is judged wrongly, and nothing else, passes a bridge that forbids files and allows the
  network. -/
  bridge : ∀ b : Bridge, b.fetcher = f.fetcher → b.service = .serving →
    b.policy.readFile = .forbid → b.policy.readNetwork = .allow → ∀ uri content,
    (∃ after, (b.fetch uri : HostM A _).run.value = .ok (some content, after)) ↔
      f.fetch uri = .ok content ∧ Capability.toRead uri = .readNetwork

/-- **Where judgement and fetcher agree**: on all references that are read, but for paths that start
with a name that looks remote. -/
theorem fetch_classified (A : Type) (f : DirectoryFetcher) : f.Classified A where
  fileRef _ := toRead_of_isFileRef
  remote _ _ := exists_entry_of_fetch
  sound hnone uri content hfetch := by
    refine (Capability.toRead_eq uri).resolve_right fun hread => ?_
    obtain ⟨base, name, -, hbase, hname, -, -, hentry⟩ := exists_entry_of_fetch hfetch hread
    exact hentry (hnone base name hbase hname)
  entry _ _ _ hbase hdirectory hname hzero hfile :=
    ⟨fetch_of_looksRemote hbase hdirectory hname hzero hfile, hname.toRead⟩
  bridge _ hfetcher hservice hfile hnetwork _ _ :=
    bridge_fetch_iff hfetcher hservice hfile hnetwork

/-- A directory with a file whose name holds a colon. -/
def colonDirectory : DirectoryFetcher where
  tree := ⟨[([Utf8.encode "base"], .directory),
    ([Utf8.encode "base", Utf8.encode "notes:1.xml"], .file [1])], []⟩
  base := "/base"

/-- A bridge to it that allows the network and no files. -/
def networkOnly : Bridge where
  fetcher := colonDirectory.fetcher
  policy := { Policy.lockedDown with readNetwork := .allow }

theorem resolves_colonDirectory :
    colonDirectory.tree.Resolves (Utf8.encode "/base") [Utf8.encode "base"] :=
  FileTree.resolve?_eq_some_iff.1 (by cbv)

theorem looksRemote_notes : LooksRemote "notes:1.xml" where
  not_mem := by decide
  opening := ⟨"notes".toList, "1.xml".toList, rfl, by decide, List.all_eq_true.1 rfl, by decide⟩

theorem colonDirectory_classified : colonDirectory.fetch "notes:1.xml" = .ok [1] ∧
    ∃ after, (networkOnly.fetch "notes:1.xml" : HostM Unit _).run.value =
      .ok (some [1], after) := by
  have hclassified := fetch_classified Unit colonDirectory
  have hentry := hclassified.entry _ _ [1] resolves_colonDirectory (by decide +kernel)
    looksRemote_notes (by decide) (by decide +kernel)
  exact ⟨hentry.1, (hclassified.bridge networkOnly rfl rfl rfl rfl _ _).2 hentry⟩

/-- What the file holds passes a bridge that forbids files. -/
theorem colonDirectory_slips :
    ¬ ((∀ (f : DirectoryFetcher) uri content, f.fetch uri = .ok content →
        Capability.toRead uri = .readFile) ∨
      ∀ (f : DirectoryFetcher) (b : Bridge), b.fetcher = f.fetcher →
        b.policy.readFile = .forbid → b.policy.readNetwork = .allow →
        ∀ uri content after, (b.fetch uri : HostM Unit _).run.value ≠
          .ok (some content, after)) := by
  have hfetch : colonDirectory.fetch "notes:1.xml" = .ok [1] :=
    fetch_of_looksRemote resolves_colonDirectory (by decide +kernel) looksRemote_notes (by decide)
      (by decide +kernel)
  obtain ⟨after, hbridge⟩ := (bridge_fetch_iff (A := Unit) (b := networkOnly) rfl rfl rfl rfl).2
    ⟨hfetch, looksRemote_notes.toRead⟩
  rintro (h | h)
  · exact absurd ((h _ _ _ hfetch).symm.trans looksRemote_notes.toRead) nofun
  · exact h colonDirectory networkOnly rfl rfl rfl _ _ _ hbridge

end DirectoryFetcher

end StyleHost
