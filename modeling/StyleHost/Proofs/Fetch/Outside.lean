import StyleHost.Proofs.Fetch.RemoteNames

/-!
# What an answer tells of the outside

A directory fetcher follows a path before it checks where the path leads. So a reference may look at
places outside the base, and what it finds there shows in the answer: a place that exists is
forbidden, and one that does not is not found.

* `FileTree.looks` : the places that a walk looks at. It depends on nothing else (`walk_congr`), and
  on each of them (`walk_eq_none`).
* `DirectoryFetcher.AtHome` : the places that a fetcher may look at without leaving.
* `DirectoryFetcher.Stays` : a reference that leaves none of them. Its answer is the same in all
  trees that are the same at home.
* `DirectoryFetcher.Told` : just which answers depend on the outside.
-/

namespace StyleHost

namespace FileTree

/-- The places that a walk looks at, in order. -/
def looks (t : FileTree) (links : Nat) (place : Place) (pending : List FileName) : List Place :=
  match pending with
  | [] => []
  | name :: rest =>
    if t.find? place ≠ some .directory then [place]
    else if name = [] ∨ name = dot then place :: t.looks links place rest
    else if name = dotDot then place :: t.looks links place.dropLast rest
    else
      match t.find? (place ++ [name]) with
      | none => [place, place ++ [name]]
      | some (.link target) =>
        match links with
        | 0 => [place, place ++ [name]]
        | links + 1 =>
          place :: (place ++ [name]) ::
            t.looks links (linkStart place target) (names target ++ rest)
      | some _ => place :: (place ++ [name]) :: t.looks links (place ++ [name]) rest
termination_by (links, pending.length)

/-- What stands at the places for which `K` holds. -/
def keep (t : FileTree) (K : Place → Prop) [DecidablePred K] : FileTree :=
  { t with nodes := t.nodes.filter fun node => K node.1 }

variable {t t' : FileTree} {K : Place → Prop} {n links : Nat} {base place goal : Place}
  {name : FileName} {ns rest : List FileName}

/-! ### What a walk looks at -/

theorem walk_blocked (hplace : t.find? place ≠ some .directory) :
    t.walk links place (name :: rest) = none := by
  rw [walk, if_pos hplace]

theorem looks_nil : t.looks links place [] = [] := by rw [looks]

theorem looks_blocked (hplace : t.find? place ≠ some .directory) :
    t.looks links place (name :: rest) = [place] := by
  rw [looks, if_pos hplace]

theorem looks_stay (hplace : t.find? place = some .directory) (hname : name = [] ∨ name = dot) :
    t.looks links place (name :: rest) = place :: t.looks links place rest := by
  rw [looks, if_neg (not_not.2 hplace), if_pos hname]

theorem looks_up (hplace : t.find? place = some .directory) :
    t.looks links place (dotDot :: rest) = place :: t.looks links place.dropLast rest := by
  rw [looks, if_neg (not_not.2 hplace), if_neg (by decide), if_pos rfl]

theorem looks_entry (hplace : t.find? place = some .directory) (hname : IsEntry name) :
    t.looks links place (name :: rest) =
      match t.find? (place ++ [name]) with
      | none => [place, place ++ [name]]
      | some (.link target) =>
        match links with
        | 0 => [place, place ++ [name]]
        | links + 1 =>
          place :: (place ++ [name]) ::
            t.looks links (linkStart place target) (names target ++ rest)
      | some _ => place :: (place ++ [name]) :: t.looks links (place ++ [name]) rest := by
  obtain ⟨hempty, hdot, hdotDot⟩ := hname
  rw [looks, if_neg (not_not.2 hplace), if_neg (not_or.2 ⟨hempty, hdot⟩), if_neg hdotDot]

theorem looks_enter {node : FileNode} (hplace : t.find? place = some .directory)
    (hname : IsEntry name) (hnode : t.find? (place ++ [name]) = some node)
    (hlink : ∀ target, node ≠ .link target) :
    t.looks links place (name :: rest) =
      place :: (place ++ [name]) :: t.looks links (place ++ [name]) rest := by
  rw [looks_entry hplace hname, hnode]
  cases node with
  | link target => exact absurd rfl (hlink target)
  | file | unreadable | directory => rfl

theorem looks_follow {target : Bytes} (hplace : t.find? place = some .directory)
    (hname : IsEntry name) (hnode : t.find? (place ++ [name]) = some (.link target)) :
    t.looks (links + 1) place (name :: rest) =
      place :: (place ++ [name]) ::
        t.looks links (linkStart place target) (names target ++ rest) := by
  rw [looks_entry hplace hname, hnode]

/-- A walk taken step by step. -/
@[elab_as_elim]
theorem walk_induct (t : FileTree) {motive : Nat → Place → List FileName → Prop}
    (done : ∀ links place, motive links place [])
    (blocked : ∀ links place name rest, t.find? place ≠ some .directory →
      motive links place (name :: rest))
    (stay : ∀ links place name rest, t.find? place = some .directory → name = [] ∨ name = dot →
      motive links place rest → motive links place (name :: rest))
    (up : ∀ links place rest, t.find? place = some .directory →
      motive links place.dropLast rest → motive links place (dotDot :: rest))
    (missing : ∀ links place name rest, t.find? place = some .directory → IsEntry name →
      t.find? (place ++ [name]) = none → motive links place (name :: rest))
    (enter : ∀ links place name rest node, t.find? place = some .directory → IsEntry name →
      t.find? (place ++ [name]) = some node → (∀ target, node ≠ .link target) →
      motive links (place ++ [name]) rest → motive links place (name :: rest))
    (exhausted : ∀ place name rest target, t.find? place = some .directory → IsEntry name →
      t.find? (place ++ [name]) = some (.link target) → motive 0 place (name :: rest))
    (follow : ∀ links place name rest target, t.find? place = some .directory → IsEntry name →
      t.find? (place ++ [name]) = some (.link target) →
      motive links (linkStart place target) (names target ++ rest) →
      motive (links + 1) place (name :: rest)) (links : Nat) (place : Place) (ns : List FileName) :
    motive links place ns := by
  have isEntry {name : FileName} (hplain : ¬(name = [] ∨ name = dot)) (hup : name ≠ dotDot) :
      IsEntry name := ⟨fun h => hplain (.inl h), fun h => hplain (.inr h), hup⟩
  induction links, place, ns using looks.induct t with
  | case1 => exact done _ _
  | case2 links place name rest hplace => exact blocked _ _ _ _ hplace
  | case3 links place name rest hplace hname ih =>
    exact stay _ _ _ _ (not_not.1 hplace) hname ih
  | case4 links place rest hplace _ ih => exact up _ _ _ (not_not.1 hplace) ih
  | case5 links place name rest hplace hplain hup hnode =>
    exact missing _ _ _ _ (not_not.1 hplace) (isEntry hplain hup) hnode
  | case6 place name rest hplace hplain hup target hnode =>
    exact exhausted _ _ _ _ (not_not.1 hplace) (isEntry hplain hup) hnode
  | case7 place name rest hplace hplain hup target hnode links ih =>
    exact follow _ _ _ _ _ (not_not.1 hplace) (isEntry hplain hup) hnode ih
  | case8 links place name rest hplace hplain hup node hlink hnode ih =>
    exact enter _ _ _ _ _ (not_not.1 hplace) (isEntry hplain hup) hnode hlink ih

/-- **A walk depends only on what it looks at.** -/
theorem walk_congr (h : ∀ p ∈ t.looks links place ns, t'.find? p = t.find? p) :
    t'.walk links place ns = t.walk links place ns := by
  -- each step of the walk in `t` looks at one or two places, and `t'` is the same there
  induction links, place, ns using walk_induct t with
  | done => rw [walk_nil, walk_nil]
  | blocked links place name rest hplace =>
    rw [looks_blocked hplace, List.forall_mem_singleton] at h
    rw [walk_blocked hplace, walk_blocked (h ▸ hplace)]
  | stay links place name rest hplace hname ih =>
    rw [looks_stay hplace hname, List.forall_mem_cons] at h
    rw [walk_stay hplace hname, walk_stay (h.1.trans hplace) hname, ih h.2]
  | up links place rest hplace ih =>
    rw [looks_up hplace, List.forall_mem_cons] at h
    rw [walk_up hplace, walk_up (h.1.trans hplace), ih h.2]
  | missing links place name rest hplace hname hnode =>
    rw [looks_entry hplace hname, hnode, List.forall_mem_cons, List.forall_mem_singleton] at h
    rw [walk_entry hplace hname, walk_entry (h.1.trans hplace) hname, h.2, hnode]
  | enter links place name rest node hplace hname hnode hlink ih =>
    rw [looks_enter hplace hname hnode hlink, List.forall_mem_cons, List.forall_mem_cons] at h
    obtain ⟨hplace', hnode', hrest⟩ := h
    rw [walk_enter hplace hname hnode hlink,
      walk_enter (hplace'.trans hplace) hname (hnode'.trans hnode) hlink, ih hrest]
  | exhausted place name rest target hplace hname hnode =>
    rw [looks_entry hplace hname, hnode, List.forall_mem_cons, List.forall_mem_singleton] at h
    rw [walk_entry hplace hname, walk_entry (h.1.trans hplace) hname, h.2, hnode]
  | follow links place name rest target hplace hname hnode ih =>
    rw [looks_follow hplace hname hnode, List.forall_mem_cons, List.forall_mem_cons] at h
    obtain ⟨hplace', hnode', hrest⟩ := h
    rw [walk_follow hplace hname hnode,
      walk_follow (hplace'.trans hplace) hname (hnode'.trans hnode), ih hrest]

/-- **A walk needs each of the places that it looks at**: where it comes to an end in a part of a
tree, all of them are in that part. -/
theorem forall_looks_of_walk
    (hpart : ∀ p node, t'.find? p = some node → K p ∧ t.find? p = some node)
    (h : t'.walk links place ns = some goal) : ∀ p ∈ t.looks links place ns, K p := by
  -- the induction is on the walk in the part: what it finds there is found in the whole tree
  induction links, place, ns using walk_induct t' with
  | done => simp [looks_nil]
  | blocked links place name rest hplace =>
    rw [walk_blocked hplace] at h
    cases h
  | stay links place name rest hplace hname ih =>
    have ⟨hK, hfind⟩ := hpart _ _ hplace
    rw [walk_stay hplace hname] at h
    rw [looks_stay hfind hname, List.forall_mem_cons]
    exact ⟨hK, ih h⟩
  | up links place rest hplace ih =>
    have ⟨hK, hfind⟩ := hpart _ _ hplace
    rw [walk_up hplace] at h
    rw [looks_up hfind, List.forall_mem_cons]
    exact ⟨hK, ih h⟩
  | missing links place name rest hplace hname hnode =>
    rw [walk_entry hplace hname, hnode] at h
    cases h
  | enter links place name rest node hplace hname hnode hlink ih =>
    have ⟨hK, hfind⟩ := hpart _ _ hplace
    have ⟨hK', hfind'⟩ := hpart _ _ hnode
    rw [walk_enter hplace hname hnode hlink] at h
    rw [looks_enter hfind hname hfind' hlink, List.forall_mem_cons, List.forall_mem_cons]
    exact ⟨hK, hK', ih h⟩
  | exhausted place name rest target hplace hname hnode =>
    rw [walk_entry hplace hname, hnode] at h
    cases h
  | follow links place name rest target hplace hname hnode ih =>
    have ⟨hK, hfind⟩ := hpart _ _ hplace
    have ⟨hK', hfind'⟩ := hpart _ _ hnode
    rw [walk_follow hplace hname hnode] at h
    rw [looks_follow hfind hname hfind', List.forall_mem_cons, List.forall_mem_cons]
    exact ⟨hK, hK', ih h⟩

theorem lookup_filter [DecidablePred K] (nodes : List (Place × FileNode)) :
    (nodes.filter fun node => K node.1).lookup place =
      if K place then nodes.lookup place else none := by
  induction nodes with
  | nil => simp
  | cons entry nodes ih =>
    obtain ⟨other, node⟩ := entry
    by_cases heq : place = other
    · subst heq
      by_cases hkeep : K place
      · simp [hkeep]
      · simpa [hkeep] using ih
    · have hne : (place == other) = false := beq_eq_false_iff_ne.2 heq
      by_cases hkeep : K other <;> simp [List.lookup_cons, hkeep, hne, ih]

theorem find?_keep [DecidablePred K] (hroot : K []) :
    (t.keep K).find? place = if K place then t.find? place else none := by
  by_cases hplace : place = []
  · rw [hplace, find?_root, find?_root, if_pos hroot]
  · rw [find?, find?, if_neg hplace, if_neg hplace]
    exact lookup_filter t.nodes

/-- Looking goes on from where names lead. -/
theorem Leads.looks (h : t.Leads n place ns goal) (hn : n ≤ links) (rest : List FileName) :
    t.looks links place (ns ++ rest) =
      t.looks links place ns ++ t.looks (links - n) goal rest := by
  induction h generalizing links rest with
  | here place => rw [looks_nil]; rfl
  | stay hplace hname _ ih =>
    rw [List.cons_append, looks_stay hplace hname, looks_stay hplace hname, ih hn]; rfl
  | up hplace _ ih => rw [List.cons_append, looks_up hplace, looks_up hplace, ih hn]; rfl
  | enter hplace hname hnode hlink _ ih =>
    rw [List.cons_append, looks_enter hplace hname hnode hlink,
      looks_enter hplace hname hnode hlink, ih hn]
    rfl
  | @follow m n place via goal name ns target hplace hname hnode htarget hrest ihtarget ihrest =>
    obtain ⟨links, rfl⟩ : ∃ l, links = l + 1 := ⟨links - 1, by omega⟩
    have hleft : links - m - n = links + 1 - (m + n + 1) := by omega
    rw [List.cons_append, looks_follow hplace hname hnode, looks_follow hplace hname hnode,
      ihtarget (by omega), ihtarget (by omega), ihrest (by omega), hleft]
    simp

/-- Names without `..` that lead to a place without links are looked up on the way to it. -/
theorem Leads.looks_prefix (h : t.Leads n place ns goal) (hn : n = 0) (hup : dotDot ∉ ns) :
    place <+: goal ∧ ∀ p ∈ t.looks links place ns, p <+: goal := by
  induction h with
  | here place => simp [looks_nil]
  | stay hplace hname _ ih =>
    obtain ⟨hgoal, hlooks⟩ := ih hn fun h => hup (List.mem_cons_of_mem _ h)
    rw [looks_stay hplace hname, List.forall_mem_cons]
    exact ⟨hgoal, hgoal, hlooks⟩
  | up => exact absurd List.mem_cons_self hup
  | enter hplace hname hnode hlink _ ih =>
    obtain ⟨hgoal, hlooks⟩ := ih hn fun h => hup (List.mem_cons_of_mem _ h)
    have hplace' := (List.prefix_append _ _).trans hgoal
    rw [looks_enter hplace hname hnode hlink, List.forall_mem_cons, List.forall_mem_cons]
    exact ⟨hplace', hplace', hgoal, hlooks⟩
  | follow => cases hn

/-- Where there are no links, names without `..` are looked up beneath the place they start from. -/
theorem looks_beneath (hlinks : ∀ p, base <+: p → ∀ target, t.find? p ≠ some (.link target))
    (hplace : base <+: place) (hup : dotDot ∉ ns) :
    ∀ p ∈ t.looks links place ns, base <+: p := by
  have entry {place : Place} {name : FileName} (h : base <+: place) : base <+: place ++ [name] :=
    h.trans (List.prefix_append _ _)
  induction links, place, ns using walk_induct t with
  | done => simp [looks_nil]
  | blocked links place name rest hdir => rwa [looks_blocked hdir, List.forall_mem_singleton]
  | stay links place name rest hdir hname ih =>
    rw [looks_stay hdir hname, List.forall_mem_cons]
    exact ⟨hplace, ih hplace fun h => hup (List.mem_cons_of_mem _ h)⟩
  | up => exact absurd List.mem_cons_self hup
  | missing links place name rest hdir hname hnode =>
    rw [looks_entry hdir hname, hnode, List.forall_mem_cons, List.forall_mem_singleton]
    exact ⟨hplace, entry hplace⟩
  | enter links place name rest node hdir hname hnode hlink ih =>
    rw [looks_enter hdir hname hnode hlink, List.forall_mem_cons, List.forall_mem_cons]
    exact ⟨hplace, entry hplace, ih (entry hplace) fun h => hup (List.mem_cons_of_mem _ h)⟩
  | exhausted place name rest target hdir hname hnode =>
    exact absurd hnode (hlinks _ (entry hplace) target)
  | follow links place name rest target hdir hname hnode =>
    exact absurd hnode (hlinks _ (entry hplace) target)

end FileTree

namespace DirectoryFetcher

variable {f g : DirectoryFetcher} {base place : Place} {uri : String} {path : Bytes}

/-- A place that a fetcher may look at without leaving its base: one beneath the base, one above
it, or one that the path of the base goes by. -/
def AtHome (f : DirectoryFetcher) (base place : Place) : Prop :=
  base <+: place ∨ place <+: base ∨
    place ∈ f.tree.looks FileTree.maxLinks [] (f.tree.route (Utf8.encode f.base))

instance (f : DirectoryFetcher) (base : Place) : DecidablePred (f.AtHome base) :=
  fun _ => inferInstanceAs (Decidable (_ ∨ _ ∨ _))

/-- Fetchers with the same base, and with the same at all places that are at home. -/
structure SameHome (f g : DirectoryFetcher) (base : Place) : Prop where
  base_eq : g.base = f.base
  workingDirectory_eq : g.tree.workingDirectory = f.tree.workingDirectory
  find?_eq : ∀ place, f.AtHome base place → g.tree.find? place = f.tree.find? place

/-- A reference for which no place is looked at that is not at home. -/
def Stays (f : DirectoryFetcher) (base : Place) (uri : String) : Prop :=
  ∀ path, f.Means uri path →
    ∀ place ∈ f.tree.looks FileTree.maxLinks [] (f.tree.route path), f.AtHome base place

/-- The fetcher with nothing outside. -/
def alone (f : DirectoryFetcher) (base : Place) : DirectoryFetcher :=
  { f with tree := f.tree.keep (f.AtHome base) }

/-! ### References that stay -/

theorem SameHome.candidate_eq (h : f.SameHome g base) : g.candidate uri = f.candidate uri := by
  have hinBase : g.inBase = f.inBase := by
    funext path
    rw [inBase, inBase, h.base_eq]
  rw [candidate, candidate, hinBase]

theorem SameHome.resolve?_eq (h : f.SameHome g base)
    (hpath : ∀ place ∈ f.tree.looks FileTree.maxLinks [] (f.tree.route path), f.AtHome base place) :
    g.tree.resolve? path = f.tree.resolve? path := by
  have hroute : g.tree.route path = f.tree.route path := by
    rw [FileTree.route, FileTree.route, h.workingDirectory_eq]
  rw [FileTree.resolve?, FileTree.resolve?, hroute,
    FileTree.walk_congr fun place hplace => h.find?_eq place (hpath place hplace)]

theorem SameHome.contains_eq (h : f.SameHome g base) : g.contains place = f.contains place := by
  rw [contains, contains, basePlace?, basePlace?, h.base_eq,
    h.resolve?_eq fun _ hplace => .inr (.inr hplace)]

theorem SameHome.resolves_base (h : f.SameHome g base)
    (hbase : f.tree.Resolves (Utf8.encode f.base) base) :
    g.tree.Resolves (Utf8.encode g.base) base := by
  rw [← FileTree.resolve?_eq_some_iff] at hbase ⊢
  rw [h.base_eq, h.resolve?_eq fun _ hplace => .inr (.inr hplace), hbase]

/-- A reference that stays has the same answer whatever there is outside. -/
theorem SameHome.fetch_eq (h : f.SameHome g base)
    (hbase : f.tree.Resolves (Utf8.encode f.base) base) (hstays : f.Stays base uri) :
    g.fetch uri = f.fetch uri := by
  rw [fetch, fetch, h.candidate_eq]
  cases hpath : f.candidate uri with
  | error cause => rfl
  | ok path =>
    simp only [bind, Except.bind, h.contains_eq,
      h.resolve?_eq (hstays path (means_of_candidate hpath))]
    cases f.tree.resolve? path with
    | none => rfl
    | some place =>
      dsimp only
      split
      · rename_i hinside
        rw [read, read, h.find?_eq place (.inl ((contains_iff hbase).1 hinside))]
      · rfl

/-! ### References that leave -/

theorem atHome_root : f.AtHome base [] := .inr (.inl List.nil_prefix)

theorem sameHome_alone : f.SameHome (f.alone base) base where
  base_eq := rfl
  workingDirectory_eq := rfl
  find?_eq _ hplace := (FileTree.find?_keep atHome_root).trans (if_pos hplace)

/-- A reference that leaves is not found where nothing is outside. -/
theorem fetch_alone (hleaves : ¬f.Stays base uri) :
    (f.alone base).fetch uri = .error (.notFound uri) := by
  unfold Stays at hleaves
  push Not at hleaves
  obtain ⟨path, hmeans, place, hlooks, hplace⟩ := hleaves
  have hmeans' : (f.alone base).Means uri path :=
    means_of_candidate (sameHome_alone.candidate_eq.trans hmeans.candidate)
  refine fetch_of_nowhere hmeans' fun goal hgoal => ?_
  obtain ⟨-, -, hwalk⟩ := hgoal
  refine hplace (FileTree.forall_looks_of_walk (fun p node hnode => ?_)
    (FileTree.walk_eq_some_iff.2 hwalk) place hlooks)
  have hnode : (if f.AtHome base p then f.tree.find? p else none) = some node :=
    (FileTree.find?_keep atHome_root).symm.trans hnode
  split at hnode
  · exact ⟨‹_›, hnode⟩
  · cases hnode

/-! ### Where nothing can lead outside -/

/-- A path of the base without `..` and links goes by no place that is not above the base. -/
theorem atHome_iff (hbase : f.tree.Leads 0 [] (f.tree.route (Utf8.encode f.base)) base)
    (hup : FileTree.dotDot ∉ f.tree.route (Utf8.encode f.base)) :
    f.AtHome base place ↔ base <+: place ∨ place <+: base := by
  refine ⟨?_, Or.imp_right .inl⟩
  rintro (h | h | h)
  · exact .inl h
  · exact .inr h
  · exact .inr ((hbase.looks_prefix rfl hup).2 place h)

/-- A path without `..` stays if there are no links beneath the base. -/
theorem stays_of_plain (hbase : f.tree.Resolves (Utf8.encode f.base) base) (href : ¬IsFileRef uri)
    (hup : FileTree.dotDot ∉ FileTree.names (Utf8.encode uri))
    (hlinks : ∀ p, base <+: p → ∀ target, f.tree.find? p ≠ some (.link target)) :
    f.Stays base uri := by
  rintro path (⟨href', -, -, -⟩ | ⟨href', -, -, -⟩ | ⟨-, -⟩) place hplace
  · exact absurd href' href
  · exact absurd href' href
  obtain ⟨n, before, hn, hleads, ⟨after, hafter⟩, hroute⟩ := exists_route hbase (Utf8.encode uri)
  rw [hroute, hleads.looks hn, List.mem_append] at hplace
  -- the walk comes to the base by the names of the base, and does not leave it any more
  rcases hplace with hplace | hplace
  · refine .inr (.inr ?_)
    rw [← hafter, hleads.looks hn]
    exact List.mem_append_left _ hplace
  · exact .inl (FileTree.looks_beneath hlinks (List.prefix_refl base) hup place hplace)

/-! ### Answers that depend on the outside -/

/-- What the answer to a reference tells of the outside, for a base at a given place. -/
structure Told (f : DirectoryFetcher) (base : Place) (uri : String) : Prop where
  /-- Only for a path of the base with links or `..` is anything at home that is neither beneath
  the base nor above it. -/
  atHome_iff : f.tree.Leads 0 [] (f.tree.route (Utf8.encode f.base)) base →
    FileTree.dotDot ∉ f.tree.route (Utf8.encode f.base) →
    ∀ place, f.AtHome base place ↔ base <+: place ∨ place <+: base
  /-- A reference that stays is answered alike whatever is outside. -/
  same : f.Stays base uri → ∀ g, f.SameHome g base → g.fetch uri = f.fetch uri
  /-- One that leaves is not found if nothing is outside. -/
  alone : ¬f.Stays base uri →
    f.SameHome (f.alone base) base ∧ (f.alone base).fetch uri = .error (.notFound uri)
  /-- So the answer is the same for all that may be outside if the reference stays, and otherwise
  only if it is never found. -/
  same_iff : (∀ g, f.SameHome g base → g.fetch uri = f.fetch uri) ↔
    f.Stays base uri ∨ ∀ g, f.SameHome g base → g.fetch uri = .error (.notFound uri)
  /-- What is forbidden is there, unless the reference starts at the root. -/
  forbidden_iff : ∀ path, f.Means uri path →
    (f.fetch uri = .error (.forbidden uri) ↔
      ∃ place, f.tree.Resolves path place ∧ ¬base <+: place)
  /-- All paths without `..` stay if there are no links beneath the base. -/
  plain : ¬IsFileRef uri → FileTree.dotDot ∉ FileTree.names (Utf8.encode uri) →
    (∀ p, base <+: p → ∀ target, f.tree.find? p ≠ some (.link target)) → f.Stays base uri

/-- The answer is forbidden just if the path leads to a place outside. -/
theorem fetch_eq_forbidden_iff (hbase : f.tree.Resolves (Utf8.encode f.base) base)
    (hmeans : f.Means uri path) :
    f.fetch uri = .error (.forbidden uri) ↔
      ∃ place, f.tree.Resolves path place ∧ ¬base <+: place := by
  refine ⟨fun hfetch => ?_, fun ⟨place, hplace, hout⟩ => fetch_of_outside hbase hmeans hplace hout⟩
  cases hresolve : f.tree.resolve? path with
  | none =>
    rw [fetch_of_nowhere hmeans (FileTree.resolve?_eq_none_iff.1 hresolve)] at hfetch
    cases hfetch
  | some place =>
    have hplace := FileTree.resolve?_eq_some_iff.1 hresolve
    refine ⟨place, hplace, fun hinside => ?_⟩
    rw [fetch_of_inside hbase hmeans hplace hinside, read] at hfetch
    split at hfetch <;> cases hfetch

/-- **What an answer tells of the outside**: nothing just if the reference stays at home or is found
nowhere. -/
theorem fetch_told (f : DirectoryFetcher) {base : Place}
    (hbase : f.tree.Resolves (Utf8.encode f.base) base) (uri : String) : f.Told base uri where
  atHome_iff hleads hup _ := DirectoryFetcher.atHome_iff hleads hup
  same hstays _ hsame := hsame.fetch_eq hbase hstays
  alone hleaves := ⟨sameHome_alone, fetch_alone hleaves⟩
  same_iff := by
    constructor
    · intro hall
      -- alone, a reference that leaves is not found
      refine or_iff_not_imp_left.2 fun hleaves g hsame => ?_
      rw [hall g hsame, ← hall _ sameHome_alone, fetch_alone hleaves]
    · rintro (hstays | hnone) g hsame
      · exact hsame.fetch_eq hbase hstays
      · rw [hnone g hsame, hnone f ⟨rfl, rfl, fun _ _ => rfl⟩]
  forbidden_iff _ := fetch_eq_forbidden_iff hbase
  plain := stays_of_plain hbase

/-- An empty base, and a file beside it. -/
def secretDirectory : DirectoryFetcher where
  tree := ⟨[([Utf8.encode "base"], .directory), ([Utf8.encode "secret.xml"], .file [1])], []⟩
  base := "/base"

theorem resolves_secretDirectory :
    secretDirectory.tree.Resolves (Utf8.encode "/base") [Utf8.encode "base"] :=
  FileTree.resolve?_eq_some_iff.1 (by cbv)

theorem means_secret :
    secretDirectory.Means "../secret.xml" (secretDirectory.inBase (Utf8.encode "../secret.xml")) :=
  .joined (mt isFileUri_iff.2 (by decide +kernel)) (by decide +kernel)

theorem resolves_secret :
    secretDirectory.tree.Resolves (secretDirectory.inBase (Utf8.encode "../secret.xml"))
      [Utf8.encode "secret.xml"] :=
  FileTree.resolve?_eq_some_iff.1 (by cbv)

/-- The reference to the file looks at it, which is not at home. -/
theorem not_stays_secret : ¬secretDirectory.Stays [Utf8.encode "base"] "../secret.xml" := by
  have haway : ¬secretDirectory.AtHome [Utf8.encode "base"] [Utf8.encode "secret.xml"] :=
    of_decide_eq_false (by cbv)
  have hlooks : [Utf8.encode "secret.xml"] ∈ secretDirectory.tree.looks FileTree.maxLinks []
      (secretDirectory.tree.route (secretDirectory.inBase (Utf8.encode "../secret.xml"))) :=
    List.contains_iff_mem.1 (by cbv)
  exact fun hstays => haway (hstays _ means_secret _ hlooks)

theorem secretDirectory_tells :
    secretDirectory.fetch "../secret.xml" = .error (.forbidden "../secret.xml") ∧
      (secretDirectory.alone [Utf8.encode "base"]).fetch "../secret.xml" =
        .error (.notFound "../secret.xml") := by
  have htold := fetch_told secretDirectory resolves_secretDirectory "../secret.xml"
  exact ⟨(htold.forbidden_iff _ means_secret).2 ⟨_, resolves_secret, by decide +kernel⟩,
    (htold.alone not_stays_secret).2⟩

/-- Whether a file is there outside the base shows in the answer. -/
theorem secretDirectory_differs :
    ¬∀ (f g : DirectoryFetcher) (base : Place), g.base = f.base →
      g.tree.workingDirectory = f.tree.workingDirectory →
      f.tree.Resolves (Utf8.encode f.base) base → g.tree.Resolves (Utf8.encode g.base) base →
      (∀ place, base <+: place ∨ place <+: base → g.tree.find? place = f.tree.find? place) →
      ∀ uri, g.fetch uri = f.fetch uri := by
  intro h
  have hsame : secretDirectory.SameHome (secretDirectory.alone [Utf8.encode "base"])
      [Utf8.encode "base"] := sameHome_alone
  have heq := h secretDirectory (secretDirectory.alone [Utf8.encode "base"]) _ rfl rfl
    resolves_secretDirectory (hsame.resolves_base resolves_secretDirectory)
    (fun place hplace => hsame.find?_eq place (hplace.elim .inl (.inr ∘ .inl))) "../secret.xml"
  rw [fetch_alone not_stays_secret,
    fetch_of_outside resolves_secretDirectory means_secret resolves_secret (by decide +kernel)]
    at heq
  cases heq

end DirectoryFetcher

end StyleHost
