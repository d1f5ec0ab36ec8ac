import DomBindings.FileSystem.Tree
import Mathlib.Data.List.Induction

/-!
# The way along a path

`FileTree.follow` goes along names as far as the next link, then on from there, and counts the
links. `Leads` is the same way as a relation with a rule for each name, so that what holds along it
is shown by induction on its rules: a way is made of two ways that meet in a directory
(`Leads.append`, `Leads.split`), and is there in every tree that keeps the directories and links
(`Leads.of_keepsWays`). The names and the place where they begin leave no choice (`Leads.unique`).
-/

namespace DomBindings

/-- Whether a name between slashes is one that something in a directory may have. -/
structure Path.IsEntryName (part : Text) : Prop where
  /-- it leads somewhere else -/
  moves : Path.staysInPlace part = false
  /-- it does not lead up -/
  down : Path.leadsUp part = false
  /-- it is not too long -/
  short : (Text.encode part).length ≤ FileTree.maxNameBytes

theorem Path.IsEntryName.of_not {part : Text} (hs : ¬ Path.staysInPlace part = true)
    (hu : ¬ Path.leadsUp part = true)
    (hl : ¬ FileTree.maxNameBytes < (Text.encode part).length) : Path.IsEntryName part :=
  ⟨by simpa using hs, by simpa using hu, Nat.not_lt.mp hl⟩

theorem Path.moves_of_leadsUp {part : Text} (h : Path.leadsUp part = true) :
    Path.staysInPlace part = false := by
  simp_all [Path.leadsUp, Path.staysInPlace]

/-- Whether no way goes on through what is at a place: it is neither a directory nor a link. -/
def FileNode.IsEnd : Option FileNode → Prop
  | some .directory | some (.link _) => False
  | _ => True

theorem FileNode.isEnd_some {node : FileNode} (hd : node = .directory → False)
    (hl : ∀ target, node = .link target → False) : IsEnd (some node) := by
  cases node with
  | directory => exact hd rfl
  | link target => exact hl target rfl
  | file | sink => trivial

namespace FileTree

variable {t t' : FileTree} {here place place' mid : Place} {names above rest : List Text}
  {part name : Text} {node node' : Option FileNode} {n m k : Nat}

/-! ### Ways -/

/-- Names lead from a directory, through so many links, to a place and to what is there, if
anything. -/
inductive Leads (t : FileTree) : Place → List Text → Nat → Place → Option FileNode → Prop
  /-- No names lead nowhere else. -/
  | here {here : Place} : t.Leads here [] 0 here (some .directory)
  /-- A name that stays in place is passed over. -/
  | stay {here place : Place} {part : Text} {rest : List Text} {n : Nat} {node : Option FileNode}
      (h : Path.staysInPlace part = true) (way : t.Leads here rest n place node) :
      t.Leads here (part :: rest) n place node
  /-- Double dots lead to the directory above. -/
  | up {here place : Place} {part : Text} {rest : List Text} {n : Nat} {node : Option FileNode}
      (h : Path.leadsUp part = true) (way : t.Leads here.dropLast rest n place node) :
      t.Leads here (part :: rest) n place node
  /-- The last name may be that of a file, or of nothing. -/
  | last {here : Place} {part : Text} {node : Option FileNode} (hp : Path.IsEntryName part)
      (hn : t.node? (here ++ [part]) = node) (he : FileNode.IsEnd node) :
      t.Leads here [part] 0 (here ++ [part]) node
  /-- The name of a directory leads into it. -/
  | down {here place : Place} {part : Text} {rest : List Text} {n : Nat} {node : Option FileNode}
      (hp : Path.IsEntryName part) (hn : t.node? (here ++ [part]) = some .directory)
      (way : t.Leads (here ++ [part]) rest n place node) :
      t.Leads here (part :: rest) n place node
  /-- The name of a link leads where its target does. -/
  | through {here place : Place} {part target : Text} {rest : List Text} {n : Nat}
      {node : Option FileNode} (hp : Path.IsEntryName part)
      (hn : t.node? (here ++ [part]) = some (.link target))
      (way : t.Leads (startOf here target) (Text.splitOn '/' target ++ rest) n place node) :
      t.Leads here (part :: rest) (n + 1) place node

@[simp] theorem leads_nil_iff :
    t.Leads here [] n place node ↔ n = 0 ∧ place = here ∧ node = some .directory := by
  constructor
  · rintro ⟨⟩
    exact ⟨rfl, rfl, rfl⟩
  · rintro ⟨rfl, rfl, rfl⟩
    exact .here

theorem leads_stay_iff (h : Path.staysInPlace part = true) :
    t.Leads here (part :: rest) n place node ↔ t.Leads here rest n place node := by
  refine ⟨fun way => ?_, .stay h⟩
  cases way with
  | stay _ way => exact way
  | up hu _ => simp [Path.moves_of_leadsUp hu] at h
  | last hp _ _ | down hp _ _ | through hp _ _ => simp [hp.moves] at h

theorem leads_up_iff (h : Path.leadsUp part = true) :
    t.Leads here (part :: rest) n place node ↔ t.Leads here.dropLast rest n place node := by
  refine ⟨fun way => ?_, .up h⟩
  cases way with
  | stay hs _ => simp [Path.moves_of_leadsUp h] at hs
  | up _ way => exact way
  | last hp _ _ | down hp _ _ | through hp _ _ => simp [hp.down] at h

/-- The name of an entry is the last one, or that of a directory or of a link. -/
theorem Leads.entry_cases (hp : Path.IsEntryName part)
    (way : t.Leads here (part :: rest) n place node) :
    (rest = [] ∧ n = 0 ∧ place = here ++ [part] ∧ t.node? (here ++ [part]) = node ∧
        FileNode.IsEnd node) ∨
      (t.node? (here ++ [part]) = some .directory ∧ t.Leads (here ++ [part]) rest n place node) ∨
      ∃ target m, t.node? (here ++ [part]) = some (.link target) ∧ n = m + 1 ∧
        t.Leads (startOf here target) (Text.splitOn '/' target ++ rest) m place node := by
  cases way with
  | stay hs _ => simp [hp.moves] at hs
  | up hu _ => simp [hp.down] at hu
  | last _ hn he => exact .inl ⟨rfl, rfl, rfl, hn, he⟩
  | down _ hn way => exact .inr (.inl ⟨hn, way⟩)
  | through _ hn way => exact .inr (.inr ⟨_, _, hn, rfl, way⟩)

theorem leads_end_iff (hp : Path.IsEntryName part) (hn : t.node? (here ++ [part]) = node')
    (he : FileNode.IsEnd node') :
    t.Leads here (part :: rest) n place node ↔
      rest = [] ∧ n = 0 ∧ place = here ++ [part] ∧ node = node' := by
  constructor
  · intro way
    obtain ⟨hr, h0, hplace, hn', -⟩ | ⟨hn', -⟩ | ⟨_, _, hn', -⟩ := way.entry_cases hp
    · exact ⟨hr, h0, hplace, hn'.symm.trans hn⟩
    all_goals
      rw [← hn, hn'] at he
      exact he.elim
  · rintro ⟨rfl, rfl, rfl, rfl⟩
    exact .last hp hn he

theorem leads_down_iff (hp : Path.IsEntryName part)
    (hn : t.node? (here ++ [part]) = some .directory) :
    t.Leads here (part :: rest) n place node ↔ t.Leads (here ++ [part]) rest n place node := by
  refine ⟨fun way => ?_, .down hp hn⟩
  obtain ⟨-, -, -, hn', he⟩ | ⟨-, way⟩ | ⟨_, _, hn', -⟩ := way.entry_cases hp
  · rw [← hn', hn] at he
    exact he.elim
  · exact way
  · simp [hn] at hn'

theorem leads_through_iff {target : Text} (hp : Path.IsEntryName part)
    (hn : t.node? (here ++ [part]) = some (.link target)) :
    t.Leads here (part :: rest) n place node ↔
      ∃ m, n = m + 1 ∧
        t.Leads (startOf here target) (Text.splitOn '/' target ++ rest) m place node := by
  constructor
  · intro way
    obtain ⟨-, -, -, hn', he⟩ | ⟨hn', -⟩ | ⟨target', m, hn', hm, way⟩ := way.entry_cases hp
    · rw [← hn', hn] at he
      exact he.elim
    · simp [hn] at hn'
    · obtain rfl : target = target' := by simpa [hn] using hn'
      exact ⟨m, hm, way⟩
  · rintro ⟨m, rfl, way⟩
    exact .through hp hn way

/-- A name that is too long leads nowhere. -/
theorem not_leads_of_long (hs : Path.staysInPlace part = false) (hu : Path.leadsUp part = false)
    (hl : maxNameBytes < (Text.encode part).length) :
    ¬ t.Leads here (part :: rest) n place node := by
  intro way
  cases way with
  | stay h _ => simp [hs] at h
  | up h _ => simp [hu] at h
  | last hp _ _ | down hp _ _ | through hp _ _ => exact absurd hp.short (Nat.not_le.mpr hl)

/-! ### Following paths -/

/-- Where a way leads from a stop on. -/
def LeadsOn (t : FileTree) (n : Nat) (place : Place) (node : Option FileNode) : Stop → Prop
  | .found place' node' => n = 0 ∧ place = place' ∧ node = some node'
  | .free place' => n = 0 ∧ place = place' ∧ node = none
  | .atLink directory target rest =>
    ∃ m, n = m + 1 ∧
      t.Leads (startOf directory target) (Text.splitOn '/' target ++ rest) m place node
  | .refused _ => False

/-- Names lead where they lead from the first link on. -/
theorem leads_iff_advance :
    t.Leads here names n place node ↔ t.LeadsOn n place node (t.advance here names) := by
  fun_induction advance t here names with
  | case1 here => exact leads_nil_iff
  | case2 here part rest h ih => exact (leads_stay_iff h).trans ih
  | case3 here part rest hs h ih => exact (leads_up_iff h).trans ih
  | case4 here part rest hs hu hl =>
    exact iff_of_false (not_leads_of_long (by simpa using hs) (by simpa using hu) hl) id
  | case5 here part rest hs hu hl hn hr =>
    have hp := Path.IsEntryName.of_not hs hu hl
    rw [leads_end_iff hp hn trivial]
    simp [LeadsOn, List.isEmpty_iff.mp hr]
  | case6 here part rest hs hu hl hn hr =>
    have hp := Path.IsEntryName.of_not hs hu hl
    rw [leads_end_iff hp hn trivial]
    exact iff_of_false (fun h => hr (List.isEmpty_iff.mpr h.1)) id
  | case7 here part rest hs hu hl hn ih =>
    have hp := Path.IsEntryName.of_not hs hu hl
    exact (leads_down_iff hp hn).trans ih
  | case8 here part rest hs hu hl target hn =>
    have hp := Path.IsEntryName.of_not hs hu hl
    exact leads_through_iff hp hn
  | case9 here part rest hs hu hl found hd hlink hn hr =>
    have hp := Path.IsEntryName.of_not hs hu hl
    rw [leads_end_iff hp hn (FileNode.isEnd_some hd hlink)]
    simp [LeadsOn, List.isEmpty_iff.mp hr]
  | case10 here part rest hs hu hl found hd hlink hn hr =>
    have hp := Path.IsEntryName.of_not hs hu hl
    rw [leads_end_iff hp hn (FileNode.isEnd_some hd hlink)]
    exact iff_of_false (fun h => hr (List.isEmpty_iff.mpr h.1)) id

theorem throughLinks_eq_ok_iff {stop : Stop} :
    t.throughLinks k stop = .ok (place, node) ↔ ∃ n ≤ k, t.LeadsOn n place node stop := by
  induction k generalizing stop with
  | zero => cases stop <;> simp [throughLinks, LeadsOn, eq_comm]
  | succ k ih =>
    cases stop with
    | found | free => simp [throughLinks, LeadsOn, and_left_comm, eq_comm]
    | refused => simp [throughLinks, LeadsOn]
    | atLink directory target rest =>
      rw [throughLinks, ih]
      simp only [← leads_iff_advance]
      constructor
      · rintro ⟨n, hn, way⟩
        exact ⟨n + 1, Nat.succ_le_succ hn, n, rfl, way⟩
      · rintro ⟨_, hn, n, rfl, way⟩
        exact ⟨n, Nat.le_of_succ_le_succ hn, way⟩

/-- A path leads where its names do, unless it is too long or there are too many links on the
way. -/
theorem follow_eq_ok_iff {p : Path} :
    t.follow p = .ok (place, node) ↔
      (Text.encode p.text).length ≤ maxPathBytes ∧
        ∃ n ≤ maxLinks, t.Leads (t.start p) p.parts n place node := by
  unfold follow
  split
  · next h => simp [Nat.not_le.mpr h]
  · next h => simp only [throughLinks_eq_ok_iff, leads_iff_advance, Nat.not_lt.mp h, true_and]

/-- Names lead from a place to one place only, and through the same links. -/
theorem Leads.unique (way : t.Leads here names n place node)
    (way' : t.Leads here names m place' node') : n = m ∧ place = place' ∧ node = node' := by
  induction n using Nat.strongRecOn generalizing here names m with
  | ind n ih =>
    rw [leads_iff_advance] at way way'
    -- both go on from the same stop
    cases hstop : t.advance here names with
    | found | free =>
      rw [hstop] at way way'
      obtain ⟨rfl, rfl, rfl⟩ := way
      obtain ⟨rfl, rfl, rfl⟩ := way'
      exact ⟨rfl, rfl, rfl⟩
    | refused =>
      rw [hstop] at way
      exact way.elim
    | atLink directory target rest =>
      rw [hstop] at way way'
      obtain ⟨n, rfl, way⟩ := way
      obtain ⟨m, rfl, way'⟩ := way'
      obtain ⟨rfl, h⟩ := ih n (Nat.lt_succ_self n) way way'
      exact ⟨rfl, h⟩

/-! ### Ways that meet -/

/-- Two ways that meet in a directory are one. -/
theorem Leads.append (way : t.Leads here names n mid (some .directory))
    (way' : t.Leads mid rest m place node) : t.Leads here (names ++ rest) (n + m) place node := by
  generalize hd : some FileNode.directory = d at way
  induction way with
  | here => simpa using way'
  | stay h _ ih => exact .stay h (ih way' hd)
  | up h _ ih => exact .up h (ih way' hd)
  | last _ _ he =>
    rw [← hd] at he
    exact he.elim
  | down hp hn _ ih => exact .down hp hn (ih way' hd)
  | @through here _ part target names n _ hp hn _ ih =>
    have := ih way' hd
    rw [List.append_assoc] at this
    rw [Nat.succ_add]
    exact .through hp hn this

/-- A way along two lists of names meets a directory in between, unless it ends with the first
list. -/
theorem Leads.split (way : t.Leads here (names ++ rest) n place node) :
    (rest = [] ∧ t.Leads here names n place node) ∨
      ∃ mid m k, m + k = n ∧ t.Leads here names m mid (some .directory) ∧
        t.Leads mid rest k place node := by
  generalize hw : names ++ rest = whole at way
  induction way generalizing names with
  | here =>
    obtain ⟨rfl, rfl⟩ := List.append_eq_nil_iff.mp hw
    exact .inl ⟨rfl, .here⟩
  | @stay here _ part whole n _ h way ih =>
    obtain ⟨rfl, rfl⟩ | ⟨names, rfl, rfl⟩ := List.append_eq_cons_iff.mp hw
    · exact .inr ⟨here, 0, n, Nat.zero_add n, .here, .stay h way⟩
    · obtain ⟨hr, way'⟩ | ⟨mid, m, k, hn, first, second⟩ := ih rfl
      · exact .inl ⟨hr, .stay h way'⟩
      · exact .inr ⟨mid, m, k, hn, .stay h first, second⟩
  | @up here _ part whole n _ h way ih =>
    obtain ⟨rfl, rfl⟩ | ⟨names, rfl, rfl⟩ := List.append_eq_cons_iff.mp hw
    · exact .inr ⟨here, 0, n, Nat.zero_add n, .here, .up h way⟩
    · obtain ⟨hr, way'⟩ | ⟨mid, m, k, hn, first, second⟩ := ih rfl
      · exact .inl ⟨hr, .up h way'⟩
      · exact .inr ⟨mid, m, k, hn, .up h first, second⟩
  | @last here part _ hp hn he =>
    obtain ⟨rfl, rfl⟩ | ⟨names, rfl, h⟩ := List.append_eq_cons_iff.mp hw
    · exact .inr ⟨here, 0, 0, Nat.zero_add 0, .here, .last hp hn he⟩
    · obtain ⟨rfl, rfl⟩ := List.append_eq_nil_iff.mp h.symm
      exact .inl ⟨rfl, .last hp hn he⟩
  | @down here _ part whole n _ hp hn way ih =>
    obtain ⟨rfl, rfl⟩ | ⟨names, rfl, rfl⟩ := List.append_eq_cons_iff.mp hw
    · exact .inr ⟨here, 0, n, Nat.zero_add n, .here, .down hp hn way⟩
    · obtain ⟨hr, way'⟩ | ⟨mid, m, k, hsum, first, second⟩ := ih rfl
      · exact .inl ⟨hr, .down hp hn way'⟩
      · exact .inr ⟨mid, m, k, hsum, .down hp hn first, second⟩
  | @through here _ part target whole n _ hp hn way ih =>
    obtain ⟨rfl, rfl⟩ | ⟨names, rfl, rfl⟩ := List.append_eq_cons_iff.mp hw
    · exact .inr ⟨here, 0, n + 1, Nat.zero_add _, .here, .through hp hn way⟩
    · obtain ⟨hr, way'⟩ | ⟨mid, m, k, hsum, first, second⟩ := ih (List.append_assoc _ _ _)
      · exact .inl ⟨hr, .through hp hn way'⟩
      · exact .inr ⟨mid, m + 1, k, by omega, .through hp hn first, second⟩

/-! ### Ways in other trees -/

/-- Whether the directories and links of a tree are in another one, and both have one working
directory. -/
structure KeepsWays (t t' : FileTree) : Prop where
  /-- the working directory stays -/
  working : t'.working = t.working
  /-- what a way goes on through stays -/
  node : ∀ {place : Place} {node : FileNode}, t.node? place = some node →
    ¬ FileNode.IsEnd (some node) → t'.node? place = some node

/-- A way is there in a tree that keeps directories and links: to the same directory, or to what is
there now instead of a file or of nothing. -/
theorem Leads.of_keepsWays (hk : t.KeepsWays t') (way : t.Leads here names n place node)
    (hnode : node = some .directory ∧ node' = some .directory ∨
      FileNode.IsEnd node ∧ FileNode.IsEnd node' ∧ t'.node? place = node') :
    t'.Leads here names n place node' := by
  induction way with
  | here =>
    obtain ⟨-, rfl⟩ | ⟨he, -⟩ := hnode
    · exact .here
    · exact he.elim
  | stay h _ ih => exact .stay h (ih hnode)
  | up h _ ih => exact .up h (ih hnode)
  | last hp hn he =>
    obtain ⟨rfl, -⟩ | ⟨-, he', hn'⟩ := hnode
    · exact he.elim
    · exact .last hp hn' he'
  | down hp hn _ ih => exact .down hp (hk.node hn id) (ih hnode)
  | through hp hn _ ih => exact .through hp (hk.node hn id) (ih hnode)

/-- A path that leads to a directory leads there in every tree that keeps directories and links. -/
theorem KeepsWays.follow_directory (hk : t.KeepsWays t') {p : Path}
    (h : t.follow p = .ok (place, some .directory)) :
    t'.follow p = .ok (place, some .directory) := by
  obtain ⟨hlength, n, hn, way⟩ := follow_eq_ok_iff.mp h
  refine follow_eq_ok_iff.mpr ⟨hlength, n, hn, ?_⟩
  rw [start, hk.working]
  exact way.of_keepsWays hk (.inl ⟨rfl, rfl⟩)

/-- A path that leads to a file or to nothing leads to what is put there instead. -/
theorem KeepsWays.follow_end (hk : t.KeepsWays t') {p : Path} (h : t.follow p = .ok (place, node))
    (he : FileNode.IsEnd node) (he' : FileNode.IsEnd (t'.node? place)) :
    t'.follow p = .ok (place, t'.node? place) := by
  obtain ⟨hlength, n, hn, way⟩ := follow_eq_ok_iff.mp h
  refine follow_eq_ok_iff.mpr ⟨hlength, n, hn, ?_⟩
  rw [start, hk.working]
  exact way.of_keepsWays hk (.inr ⟨he, he', rfl⟩)

/-- A way ends in a directory, in a file or with nothing, and not at a link. -/
theorem Leads.directory_or_isEnd (way : t.Leads here names n place node) :
    node = some .directory ∨ FileNode.IsEnd node := by
  induction way with
  | here => exact .inl rfl
  | stay _ _ ih | up _ _ ih | down _ _ _ ih | through _ _ _ ih => exact ih
  | last _ _ he => exact .inr he

/-- The end of a way is at its place, which is not the root. -/
theorem Leads.node?_eq (way : t.Leads here names n place node) (he : FileNode.IsEnd node) :
    place ≠ [] ∧ t.node? place = node := by
  induction way with
  | here => exact he.elim
  | stay _ _ ih | up _ _ ih | down _ _ _ ih | through _ _ _ ih => exact ih he
  | last _ hn _ => exact ⟨by simp, hn⟩

/-! ### Places on their own -/

/-- Whether a place is a directory and so are the places above it. -/
def Stands (t : FileTree) (place : Place) : Prop :=
  ∀ above name, above ++ [name] <+: place →
    Path.IsEntryName name ∧ t.node? (above ++ [name]) = some .directory

theorem stands_nil : t.Stands [] :=
  fun above name h => by simp at h

theorem Stands.of_isPrefix (h : t.Stands place) (hp : place' <+: place) : t.Stands place' :=
  fun above name ha => h above name (ha.trans hp)

theorem Stands.push (h : t.Stands place) (hname : Path.IsEntryName name)
    (hn : t.node? (place ++ [name]) = some .directory) : t.Stands (place ++ [name]) := by
  intro above last ha
  obtain he | ha := List.prefix_concat_iff.mp ha
  · obtain ⟨rfl, rfl⟩ : above = place ∧ last = name := by simpa using he
    exact ⟨hname, hn⟩
  · exact h above last ha

/-- A standing place stands in every tree that keeps the directories. -/
theorem KeepsWays.stands (hk : t.KeepsWays t') (h : t.Stands place) : t'.Stands place :=
  fun above name ha => ⟨(h above name ha).1, hk.node (h above name ha).2 id⟩

theorem Stands.startOf (h : t.Stands here) (target : Text) : t.Stands (startOf here target) := by
  unfold FileTree.startOf
  split
  · exact stands_nil
  · exact h

/-- From a standing place a way leads to one, or to the end of a way in one. -/
theorem Leads.stands (way : t.Leads here names n place node) (h : t.Stands here) :
    (t.Stands place ∧ node = some .directory) ∨
      ∃ above name, place = above ++ [name] ∧ t.Stands above ∧ Path.IsEntryName name ∧
        t.node? place = node ∧ FileNode.IsEnd node := by
  induction way with
  | here => exact .inl ⟨h, rfl⟩
  | stay _ _ ih => exact ih h
  | up _ _ ih => exact ih (h.of_isPrefix (List.dropLast_prefix _))
  | last hp hn he => exact .inr ⟨_, _, rfl, h, hp, hn, he⟩
  | down hp hn _ ih => exact ih (h.push hp hn)
  | through _ _ _ ih => exact ih (h.startOf _)

/-- The names of a standing place lead from the root to it, without links. -/
theorem Stands.leads (h : t.Stands place) : t.Leads [] place 0 place (some .directory) := by
  induction place using List.reverseRecOn with
  | nil => exact .here
  | append_singleton above name ih =>
    obtain ⟨hname, hn⟩ := h above name (List.prefix_refl _)
    have hlast : t.Leads above [name] 0 (above ++ [name]) (some .directory) :=
      .down hname hn .here
    exact (ih (h.of_isPrefix (List.prefix_append _ _))).append hlast

/-- What is at the end of a way from a standing place is found along the names of its place. -/
theorem Leads.from_root (way : t.Leads here names n place node) (h : t.Stands here) :
    t.Leads [] place 0 place node := by
  obtain ⟨hplace, rfl⟩ | ⟨above, name, rfl, habove, hname, hn, he⟩ := way.stands h
  · exact hplace.leads
  · exact habove.leads.append (.last hname hn he)

end FileTree

end DomBindings
