import Mathlib.Data.List.Basic
import StyleHost.Fetch.FileTree

/-!
# Where paths lead

The rules by which a path leads to a place, apart from the way in which a tree follows it: a link
leads to where its target leads, and the rest of the path goes on from there.

* `FileTree.Leads` : where names lead from a place, and how many links are followed on the way.
* `FileTree.Resolves` : where a path leads, as long as no more links are followed than may be.
* `FileTree.IsCanonical` : a place without dot segments and without links on the way to it.

A tree finds the place of a path whenever there is one (`FileTree.resolve?_eq_some_iff`), there is
only one (`FileTree.Resolves.unique`), and it is canonical (`FileTree.Resolves.isCanonical`): its
own names lead to it, without any link (`FileTree.IsCanonical.leads`,
`FileTree.IsCanonical.resolves`).
-/

namespace StyleHost

namespace FileTree

/-- A name that stands for an entry of a directory. -/
def IsEntry (name : FileName) : Prop := name ≠ [] ∧ name ≠ dot ∧ name ≠ dotDot

/-- Where the target of a link starts that stands in the directory at a place. -/
def linkStart (place : Place) (target : Bytes) : Place := if isAbsolute target then [] else place

/-- Names lead from a place to another one, and a number of links are followed on the way. -/
inductive Leads (t : FileTree) : Nat → Place → List FileName → Place → Prop
  | here (place : Place) : Leads t 0 place [] place
  | stay {n : Nat} {place goal : Place} {name : FileName} {rest : List FileName}
      (hplace : t.find? place = some .directory) (hname : name = [] ∨ name = dot)
      (hrest : Leads t n place rest goal) : Leads t n place (name :: rest) goal
  | up {n : Nat} {place goal : Place} {rest : List FileName}
      (hplace : t.find? place = some .directory) (hrest : Leads t n place.dropLast rest goal) :
      Leads t n place (dotDot :: rest) goal
  | enter {n : Nat} {place goal : Place} {name : FileName} {rest : List FileName} {node : FileNode}
      (hplace : t.find? place = some .directory) (hname : IsEntry name)
      (hnode : t.find? (place ++ [name]) = some node) (hlink : ∀ target, node ≠ .link target)
      (hrest : Leads t n (place ++ [name]) rest goal) : Leads t n place (name :: rest) goal
  | follow {m n : Nat} {place via goal : Place} {name : FileName} {rest : List FileName}
      {target : Bytes} (hplace : t.find? place = some .directory) (hname : IsEntry name)
      (hnode : t.find? (place ++ [name]) = some (.link target))
      (htarget : Leads t m (linkStart place target) (names target) via)
      (hrest : Leads t n via rest goal) : Leads t (m + n + 1) place (name :: rest) goal

/-- A path leads to a place, as long as no more links are followed than may be. -/
def Resolves (t : FileTree) (path : Bytes) (place : Place) : Prop :=
  path ≠ [] ∧ 0 ∉ path ∧ ∃ n ≤ maxLinks, t.Leads n [] (t.route path) place

/-- A place without dot segments that is no link, and that only directories lead to. -/
structure IsCanonical (t : FileTree) (place : Place) : Prop where
  entries : ∀ name ∈ place, IsEntry name
  above : ∀ p, p <+: place → p ≠ place → t.find? p = some .directory
  present : ∃ node, t.find? place = some node ∧ ∀ target, node ≠ .link target

variable {t : FileTree} {k m n links : Nat} {place via goal goal' : Place}
  {name : FileName} {ns rest : List FileName}

/-! ### The names of a path -/

theorem names_ne_nil (path : Bytes) : names path ≠ [] := by
  cases path with
  | nil => exact List.cons_ne_nil _ _
  | cons b bs =>
    rw [names]
    split_ifs
    · exact List.cons_ne_nil _ _
    · split <;> exact List.cons_ne_nil _ _

/-- A separator parts the names before it from those after it. -/
theorem names_join (before after : Bytes) :
    names (before ++ separator :: after) = names before ++ names after := by
  induction before with
  | nil =>
    rw [List.nil_append, names.eq_2, if_pos rfl]
    rfl
  | cons b bs ih =>
    rw [List.cons_append, names, ih, names]
    by_cases hb : b = separator
    · rw [if_pos hb, if_pos hb]
      rfl
    · rw [if_neg hb, if_neg hb]
      cases hbs : names bs with
      | nil => exact absurd hbs (names_ne_nil bs)
      | cons name rest => rfl

theorem names_of_not_mem {name : Bytes} (h : separator ∉ name) : names name = [name] := by
  induction name with
  | nil => rfl
  | cons b bs ih =>
    have hb : b ≠ separator := fun he => h (he ▸ List.mem_cons_self)
    rw [names, if_neg hb, ih fun hbs => h (List.mem_cons_of_mem _ hbs)]

theorem names_flatMap (hname : separator ∉ name) (hplace : ∀ other ∈ place, separator ∉ other) :
    names (name ++ place.flatMap (separator :: ·)) = name :: place := by
  induction place generalizing name with
  | nil => rw [List.flatMap_nil, List.append_nil, names_of_not_mem hname]
  | cons other place ih =>
    rw [List.forall_mem_cons] at hplace
    rw [List.flatMap_cons, List.cons_append, names_join, names_of_not_mem hname,
      ih hplace.1 hplace.2]
    rfl

/-- The route of a path is that of what stands before a separator, and then the names after it. -/
theorem exists_route_join (t : FileTree) (before : Bytes) :
    ∃ way, (∀ after, t.route (before ++ separator :: after) = way ++ names after) ∧
      (before ≠ [] → way = t.route before) := by
  have habsolute : ∀ after, isAbsolute (before ++ separator :: after) =
      isAbsolute (before ++ [separator]) := by
    cases before <;> exact fun _ => rfl
  refine ⟨if isAbsolute (before ++ [separator]) then names before
    else t.workingDirectory ++ names before, fun after => ?_, fun hne => ?_⟩
  · rw [route, habsolute, names_join]
    split_ifs
    · rfl
    · exact (List.append_assoc _ _ _).symm
  · rw [route, isAbsolute, isAbsolute, List.head?_append_of_ne_nil _ hne]

/-! ### Following names -/

theorem walk_nil : t.walk links place [] = some place := by rw [walk]

theorem walk_stop (hplace : t.find? place ≠ some .directory) :
    t.walk links place (name :: rest) = none := by
  rw [walk, if_pos hplace]

theorem walk_stay (hplace : t.find? place = some .directory) (hname : name = [] ∨ name = dot) :
    t.walk links place (name :: rest) = t.walk links place rest := by
  rw [walk, if_neg (not_not.2 hplace), if_pos hname]

theorem walk_up (hplace : t.find? place = some .directory) :
    t.walk links place (dotDot :: rest) = t.walk links place.dropLast rest := by
  rw [walk, if_neg (not_not.2 hplace), if_neg (by decide), if_pos rfl]

theorem walk_entry (hplace : t.find? place = some .directory) (hname : IsEntry name) :
    t.walk links place (name :: rest) =
      match t.find? (place ++ [name]) with
      | none => none
      | some (.link target) =>
        match links with
        | 0 => none
        | links + 1 => t.walk links (linkStart place target) (names target ++ rest)
      | some _ => t.walk links (place ++ [name]) rest := by
  obtain ⟨hempty, hdot, hdotDot⟩ := hname
  rw [walk, if_neg (not_not.2 hplace), if_neg (not_or.2 ⟨hempty, hdot⟩), if_neg hdotDot]
  rfl

theorem walk_enter {node : FileNode} (hplace : t.find? place = some .directory)
    (hname : IsEntry name) (hnode : t.find? (place ++ [name]) = some node)
    (hlink : ∀ target, node ≠ .link target) :
    t.walk links place (name :: rest) = t.walk links (place ++ [name]) rest := by
  rw [walk_entry hplace hname, hnode]
  cases node with
  | link target => exact absurd rfl (hlink target)
  | file | unreadable | directory => rfl

theorem walk_follow {target : Bytes} (hplace : t.find? place = some .directory)
    (hname : IsEntry name) (hnode : t.find? (place ++ [name]) = some (.link target)) :
    t.walk (links + 1) place (name :: rest) =
      t.walk links (linkStart place target) (names target ++ rest) := by
  rw [walk_entry hplace hname, hnode]

/-- Where names lead, the walk comes, and it goes on with the links that are left. -/
theorem Leads.walk (h : t.Leads n place ns goal) (hn : n ≤ links) (rest : List FileName) :
    t.walk links place (ns ++ rest) = t.walk (links - n) goal rest := by
  induction h generalizing links rest with
  | here place => rfl
  | stay hplace hname _ ih => rw [List.cons_append, walk_stay hplace hname, ih hn]
  | up hplace _ ih => rw [List.cons_append, walk_up hplace, ih hn]
  | enter hplace hname hnode hlink _ ih =>
    rw [List.cons_append, walk_enter hplace hname hnode hlink, ih hn]
  | @follow m n place via goal name ns target hplace hname hnode _ _ ihtarget ihrest =>
    obtain ⟨links, rfl⟩ : ∃ l, links = l + 1 := ⟨links - 1, by omega⟩
    have hleft : links - m - n = links + 1 - (m + n + 1) := by omega
    rw [List.cons_append, walk_follow hplace hname hnode, ihtarget (by omega), ihrest (by omega),
      hleft]

/-- Names that lead to a place lead somewhere on the way. -/
theorem Leads.split (h : t.Leads k place (ns ++ rest) goal) :
    ∃ m n via, k = m + n ∧ t.Leads m place ns via ∧ t.Leads n via rest goal := by
  induction ns generalizing k place with
  | nil => exact ⟨0, k, place, (Nat.zero_add k).symm, .here place, h⟩
  | cons name ns ih =>
    cases h with
    | stay hplace hname h =>
      obtain ⟨m, n, via, rfl, hns, hrest⟩ := ih h
      exact ⟨m, n, via, rfl, .stay hplace hname hns, hrest⟩
    | up hplace h =>
      obtain ⟨m, n, via, rfl, hns, hrest⟩ := ih h
      exact ⟨m, n, via, rfl, .up hplace hns, hrest⟩
    | enter hplace hname hnode hlink h =>
      obtain ⟨m, n, via, rfl, hns, hrest⟩ := ih h
      exact ⟨m, n, via, rfl, .enter hplace hname hnode hlink hns, hrest⟩
    | @follow l _ _ _ _ _ _ _ hplace hname hnode htarget h =>
      obtain ⟨m, n, via, rfl, hns, hrest⟩ := ih h
      exact ⟨l + m + 1, n, via, by omega, .follow hplace hname hnode htarget hns, hrest⟩

theorem exists_leads_of_walk (h : t.walk links place ns = some goal) :
    ∃ n ≤ links, t.Leads n place ns goal := by
  fun_induction t.walk links place ns with
  | case1 =>
    cases h
    exact ⟨0, Nat.zero_le _, .here _⟩
  | case2 => cases h
  | case3 links place name rest hplace hname ih =>
    obtain ⟨n, hn, hrest⟩ := ih h
    exact ⟨n, hn, .stay (not_not.1 hplace) hname hrest⟩
  | case4 links place rest hplace _ ih =>
    obtain ⟨n, hn, hrest⟩ := ih h
    exact ⟨n, hn, .up (not_not.1 hplace) hrest⟩
  | case5 => cases h
  | case6 => cases h
  | case7 place name rest hplace hplain hup target hnode links ih =>
    -- the walk follows target and rest as one path; the place between them has to be found
    obtain ⟨k, hk, hall⟩ := ih h
    obtain ⟨m, n, via, rfl, htarget, hrest⟩ := hall.split
    have hname : IsEntry name := ⟨fun h => hplain (.inl h), fun h => hplain (.inr h), hup⟩
    exact ⟨m + n + 1, by omega, .follow (not_not.1 hplace) hname hnode htarget hrest⟩
  | case8 links place name rest hplace hplain hup node hlink hnode ih =>
    obtain ⟨n, hn, hrest⟩ := ih h
    have hname : IsEntry name := ⟨fun h => hplain (.inl h), fun h => hplain (.inr h), hup⟩
    exact ⟨n, hn, .enter (not_not.1 hplace) hname hnode hlink hrest⟩

theorem walk_eq_some_iff :
    t.walk links place ns = some goal ↔ ∃ n ≤ links, t.Leads n place ns goal := by
  refine ⟨exists_leads_of_walk, ?_⟩
  rintro ⟨n, hn, h⟩
  rw [← List.append_nil ns, h.walk hn, walk_nil]

/-- **A tree finds the place of a path if there is one.** -/
theorem resolve?_eq_some_iff {path : Bytes} :
    t.resolve? path = some place ↔ t.Resolves path place := by
  rw [resolve?, Option.ite_none_left_eq_some, walk_eq_some_iff, not_or]
  exact and_assoc

theorem resolve?_eq_none_iff {path : Bytes} :
    t.resolve? path = none ↔ ∀ place, ¬ t.Resolves path place := by
  simp only [← resolve?_eq_some_iff, Option.eq_none_iff_forall_ne_some]

theorem Resolves.unique {path : Bytes} (h : t.Resolves path goal) (h' : t.Resolves path goal') :
    goal = goal' :=
  Option.some.inj ((resolve?_eq_some_iff.2 h).symm.trans (resolve?_eq_some_iff.2 h'))

/-- A path with a separator at its end leads to directories only. -/
theorem Resolves.not_concat {path : Bytes} (h : t.Resolves path place)
    (hplace : t.find? place ≠ some .directory) : ¬t.Resolves (path ++ [separator]) goal := by
  obtain ⟨hempty, -, n, hn, hleads⟩ := h
  -- the separator leaves an empty name, and no name leads on from a file
  obtain ⟨way, hroute, hway⟩ := exists_route_join t path
  have hconcat : t.route (path ++ [separator]) = t.route path ++ [[]] := by
    rw [hroute [], hway hempty]
    rfl
  rw [← resolve?_eq_some_iff, resolve?, hconcat, hleads.walk hn, walk_stop hplace, ite_self]
  exact fun h => nomatch h

/-! ### Canonical places -/

theorem find?_root : t.find? [] = some .directory := if_pos rfl

theorem isCanonical_root : t.IsCanonical [] where
  entries _ h := absurd h List.not_mem_nil
  above _ h hne := absurd (List.prefix_nil.1 h) hne
  present := ⟨.directory, find?_root, fun _ h => nomatch h⟩

theorem IsCanonical.dropLast (h : t.IsCanonical place) : t.IsCanonical place.dropLast := by
  by_cases hroot : place = []
  · -- above the root there is only the root
    rwa [hroot] at h ⊢
  have hne : place.dropLast ≠ place := fun he => by
    have := congrArg List.length he
    rw [List.length_dropLast] at this
    have := List.length_pos_of_ne_nil hroot
    omega
  have hparent := List.dropLast_prefix place
  refine ⟨fun name hname => h.entries name (hparent.subset hname), fun p hp hpne => ?_,
    ⟨.directory, h.above _ hparent hne, fun _ h => nomatch h⟩⟩
  refine h.above p (hp.trans hparent) fun he => hpne ?_
  exact hp.eq_of_length_le (he ▸ hparent.length_le)

theorem IsCanonical.append {node : FileNode} (h : t.IsCanonical place)
    (hplace : t.find? place = some .directory) (hname : IsEntry name)
    (hnode : t.find? (place ++ [name]) = some node) (hlink : ∀ target, node ≠ .link target) :
    t.IsCanonical (place ++ [name]) := by
  refine ⟨fun other hother => ?_, fun p hp hne => ?_, ⟨node, hnode, hlink⟩⟩
  · rcases List.mem_append.1 hother with hother | hother
    · exact h.entries other hother
    · exact List.mem_singleton.1 hother ▸ hname
  · rcases List.prefix_concat_iff.1 hp with rfl | hp
    · exact absurd rfl hne
    · by_cases heq : p = place
      · exact heq ▸ hplace
      · exact h.above p hp heq

theorem IsCanonical.linkStart {target : Bytes} (h : t.IsCanonical place) :
    t.IsCanonical (linkStart place target) := by
  unfold FileTree.linkStart
  split
  · exact isCanonical_root
  · exact h

/-- **Names lead from canonical places to canonical places.** -/
theorem Leads.isCanonical (h : t.Leads n place ns goal) (hplace : t.IsCanonical place) :
    t.IsCanonical goal := by
  induction h with
  | here => exact hplace
  | stay _ _ _ ih => exact ih hplace
  | up _ _ ih => exact ih hplace.dropLast
  | enter hdir hname hnode hlink _ ih => exact ih (hplace.append hdir hname hnode hlink)
  | follow _ _ _ _ _ ihtarget ihrest => exact ihrest (ihtarget hplace.linkStart)

/-- A canonical place is where its own names lead, without any link. -/
theorem IsCanonical.leads (h : t.IsCanonical place) : t.Leads 0 [] place place := by
  have hfrom : ∀ rest p, p ++ rest = place → t.Leads 0 p rest place := by
    intro rest
    induction rest with
    | nil =>
      rintro p rfl
      rw [List.append_nil]
      exact .here p
    | cons name rest ih =>
      intro p hp
      have hnext : p ++ [name] ++ rest = place := by rw [List.append_assoc]; exact hp
      have hdir : t.find? p = some .directory := by
        refine h.above p ⟨name :: rest, hp⟩ fun he => ?_
        rw [he, List.append_right_eq_self] at hp
        cases hp
      have hname : IsEntry name := h.entries name (by simp [← hp])
      by_cases hlast : p ++ [name] = place
      · obtain ⟨node, hnode, hlink⟩ := h.present
        exact .enter hdir hname (hlast ▸ hnode) hlink (ih _ hnext)
      · have hnode := h.above (p ++ [name]) ⟨rest, hnext⟩ hlast
        exact .enter hdir hname hnode (fun _ he => nomatch he) (ih _ hnext)
  exact hfrom place [] rfl

/-- The path of the names of a canonical place leads to it. -/
theorem IsCanonical.resolves (h : t.IsCanonical place) (hne : place ≠ [])
    (hnames : ∀ name ∈ place, separator ∉ name ∧ 0 ∉ name) :
    t.Resolves (place.flatMap (separator :: ·)) place := by
  have hsplit : names (place.flatMap (separator :: ·)) = [] :: place :=
    @names_flatMap place [] List.not_mem_nil fun name hname => (hnames name hname).1
  have habsolute : isAbsolute (place.flatMap (separator :: ·)) = true := by
    obtain ⟨name, more, rfl⟩ := List.exists_cons_of_ne_nil hne
    rfl
  refine ⟨fun hempty => ?_, fun hzero => ?_, 0, Nat.zero_le _, ?_⟩
  · rw [hempty] at habsolute
    cases habsolute
  · obtain ⟨name, hname, hmem⟩ := List.mem_flatMap.1 hzero
    rcases List.mem_cons.1 hmem with hmem | hmem
    · exact absurd hmem (by decide)
    · exact (hnames name hname).2 hmem
  · rw [route, if_pos habsolute, hsplit]
    exact .stay find?_root (.inl rfl) h.leads

theorem Resolves.isCanonical {path : Bytes} (h : t.Resolves path place) : t.IsCanonical place := by
  obtain ⟨-, -, n, -, hleads⟩ := h
  exact hleads.isCanonical isCanonical_root

end FileTree

end StyleHost
