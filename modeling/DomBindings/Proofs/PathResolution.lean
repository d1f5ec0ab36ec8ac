import DomBindings.FileSystem.Resolve
import DomBindings.Proofs.PathWalks
import DomBindings.Proofs.Traversal
import Mathlib.Data.List.Perm.Subperm

/-!
# Resolved paths

`FileTree.resolve` finds the place of a path by another recursion than `FileTree.follow`: it
resolves a link on its own, and refuses one that it is resolving already. On a way that ends it
refuses none, since a link that led to itself would lead through more links than it leads through
(`Pending`). So both find the same place, and reading there is reading through the path.
-/

namespace DomBindings.FileTree

variable {t : FileTree} {here place : Place} {names : List Text} {node : Option FileNode}
  {n m : Nat} {p : Path} {links : Nat} {pending : List Place}

/-! ### Links that are being resolved -/

/-- What holds of the links that are being resolved when so many are still on the way, and so many
more may be resolved in each other. -/
structure Pending (t : FileTree) (n links : Nat) (pending : List Place) : Prop where
  /-- no link is resolved within itself -/
  nodup : pending.Nodup
  /-- they are links -/
  isLink : ∀ link ∈ pending, ∃ target, t.node? link = some (.link target)
  /-- the way is within the way of each of them -/
  within : ∀ link ∈ pending, ∀ target, t.node? link = some (.link target) →
    ∀ m place node, t.Leads (startOf link.dropLast target) (Text.splitOn '/' target) m place node →
      n ≤ m
  /-- all links of the tree may be resolved in each other -/
  enough : t.nodes.length < links + pending.length

theorem pending_nil (t : FileTree) (n : Nat) : t.Pending n (t.nodes.length + 1) [] :=
  ⟨List.nodup_nil, by simp, by simp, Nat.lt_succ_self _⟩

theorem Pending.of_le (h : t.Pending n links pending) (hm : m ≤ n) : t.Pending m links pending :=
  { h with within := fun link hl target hn k place node way =>
      Nat.le_trans hm (h.within link hl target hn k place node way) }

/-- The place of a link is one of the places of the tree. -/
theorem mem_places_of_link {link : Place} {target : Text} (h : t.node? link = some (.link target)) :
    link ∈ t.nodes.map Prod.fst := by
  unfold node? at h
  split at h
  · cases h
  · obtain ⟨before, after, hnodes, -⟩ := List.lookup_eq_some_iff.mp h
    simp [hnodes]

/-- A link on the way is not being resolved. -/
theorem Pending.not_mem {part target : Text} (h : t.Pending n links pending)
    (hn : t.node? (here ++ [part]) = some (.link target))
    (way : t.Leads (startOf here target) (Text.splitOn '/' target) m place node) (hm : m < n) :
    here ++ [part] ∉ pending := by
  intro hmem
  have hdrop : (here ++ [part]).dropLast = here := List.dropLast_concat
  rw [← hdrop] at way
  exact absurd (h.within _ hmem target hn m place node way) (Nat.not_le.mpr hm)

/-- So it may be resolved as well. -/
theorem Pending.push {part target : Text} (h : t.Pending n links pending)
    (hn : t.node? (here ++ [part]) = some (.link target))
    (way : t.Leads (startOf here target) (Text.splitOn '/' target) m place node) (hm : m < n) :
    ∃ links', links = links' + 1 ∧ t.Pending m links' ((here ++ [part]) :: pending) := by
  have hnodup : ((here ++ [part]) :: pending).Nodup :=
    List.nodup_cons.mpr ⟨h.not_mem hn way hm, h.nodup⟩
  have hlinks : ∀ link ∈ (here ++ [part]) :: pending,
      ∃ target, t.node? link = some (.link target) :=
    List.forall_mem_cons.mpr ⟨⟨target, hn⟩, h.isLink⟩
  have hcount : pending.length + 1 ≤ t.nodes.length := by
    have hsub : (here ++ [part]) :: pending ⊆ t.nodes.map Prod.fst := fun link hl =>
      (hlinks link hl).elim fun _ => mem_places_of_link
    simpa using (List.subperm_of_subset hnodup hsub).length_le
  have henough := h.enough
  obtain ⟨links', rfl⟩ : ∃ links', links = links' + 1 := ⟨links - 1, by omega⟩
  refine ⟨links', rfl, hnodup, hlinks, ?_, by rw [List.length_cons]; omega⟩
  intro link hl target' hn' k place' node' way'
  obtain rfl | hl := List.mem_cons.mp hl
  · obtain rfl : target = target' := by simpa [hn] using hn'
    rw [List.dropLast_concat] at way'
    exact Nat.le_of_eq (way.unique way').1
  · exact (h.of_le (Nat.le_of_lt hm)).within link hl target' hn' k place' node' way'

/-! ### Agreement -/

/-- Names resolve to the place that they lead to. -/
theorem Leads.resolveNames_eq (way : t.Leads here names n place node)
    (hp : t.Pending n links pending) :
    t.resolveNames (t.resolveLink links pending) here names = (place, true) := by
  induction n using Nat.strongRecOn generalizing here names place node links pending with
  | ind n ihn =>
    induction way with
    | here => rfl
    | stay h _ ih => simpa [resolveNames, h] using ih ihn hp
    | up h _ ih => simpa [resolveNames, Path.moves_of_leadsUp h, h] using ih ihn hp
    | @last _ _ node hname hn he =>
      cases node with
      | none => simp [resolveNames, hname.moves, hname.down, hn]
      | some node =>
        cases node with
        | file | sink => simp [resolveNames, hname.moves, hname.down, hn]
        | directory | link => exact he.elim
    | down hname hn _ ih => simpa [resolveNames, hname.moves, hname.down, hn] using ih ihn hp
    | @through here place part target rest n node hname hn way _ =>
      -- the target leads to where the rest of the names goes on
      obtain ⟨mid, m, d, hm, first, second⟩ : ∃ mid m d, m < n + 1 ∧
          t.Leads (startOf here target) (Text.splitOn '/' target) m mid d ∧
          t.resolveNames (t.resolveLink links pending) mid rest = (place, true) := by
        obtain ⟨rfl, first⟩ | ⟨mid, m, k, hsum, first, second⟩ := way.split
        · exact ⟨place, n, node, Nat.lt_succ_self n, first, rfl⟩
        · exact ⟨mid, m, _, by omega, first, ihn k (by omega) second (hp.of_le (by omega))⟩
      have hmem := hp.not_mem hn first hm
      obtain ⟨links, rfl, hp'⟩ := hp.push hn first hm
      have hlink : t.resolveLink (links + 1) pending (here ++ [part]) here target
          = (mid, true) := by
        simpa [resolveLink, hmem] using ihn m hm first hp'
      simp [resolveNames, hname.moves, hname.down, hn, hlink, second]

/-- A path that leads somewhere is resolved to the place that it leads to. -/
theorem resolve_eq_of_follow {place' : Place} (h : t.follow p = .ok (place, node))
    (hr : t.resolve p = .ok place') : place' = place := by
  obtain ⟨-, n, -, way⟩ := follow_eq_ok_iff.mp h
  rw [resolve, way.resolveNames_eq (pending_nil t n)] at hr
  split at hr
  · cases hr
  · dsimp only at hr
    split at hr
    · cases hr
    · exact (Except.ok.inj hr).symm

/-! ### Reading -/

theorem through_eq_ok_iff {α : Type} {s : Text} {e : Except FileCause α} {x : α} :
    through s e = .ok x ↔ e = .ok x := by
  cases e <;> simp [through]

theorem locate_eq_ok_iff {found : Place × Option FileNode} :
    t.locate p = .ok found ↔ hasNull p = false ∧ t.follow p = .ok found := by
  unfold locate
  split
  · next h => simp [h]
  · next h => simp [h, through_eq_ok_iff]

/-- What is read through a path: the bytes of a file, or nothing. -/
theorem read_eq_ok_iff {bytes : List UInt8} :
    t.read p = .ok bytes ↔
      hasNull p = false ∧ ∃ place,
        (∃ executable, t.follow p = .ok (place, some (.file bytes executable))) ∨
          t.follow p = .ok (place, some .sink) ∧ bytes = [] := by
  simp only [read, Traversal.bind_eq_ok_iff, locate_eq_ok_iff, through_eq_ok_iff]
  constructor
  · rintro ⟨⟨place, node⟩, ⟨hnull, hf⟩, hnode⟩
    rcases node with _ | _ | _ | _ | _ <;> cases hnode
    · exact ⟨hnull, place, .inl ⟨_, hf⟩⟩
    · exact ⟨hnull, place, .inr ⟨hf, rfl⟩⟩
  · rintro ⟨hnull, place, ⟨executable, hf⟩ | ⟨hf, rfl⟩⟩
    · exact ⟨_, ⟨hnull, hf⟩, rfl⟩
    · exact ⟨_, ⟨hnull, hf⟩, rfl⟩

/-- What is read at the place that a path resolves to is read through the path. -/
theorem read_eq_of_resolve {place' : Place} {bytes : List UInt8} (hw : t.Stands t.working)
    (h : t.follow p = .ok (place, node)) (hr : t.resolve p = .ok place')
    (hb : t.read place'.path = .ok bytes) : t.read p = .ok bytes := by
  have hnull : hasNull p = false := by
    unfold resolve at hr
    split at hr
    · cases hr
    · next hnull => simpa using hnull
  obtain rfl := resolve_eq_of_follow h hr
  have hstart : t.Stands (t.start p) := by
    unfold start
    split
    · exact hw
    · exact stands_nil
  -- the way along the names of the place leads to what is there
  have hplace : ∀ {found node'}, t.follow place'.path = .ok (found, node') → node' = node := by
    intro found node' hf
    obtain ⟨-, n, -, way⟩ := follow_eq_ok_iff.mp h
    obtain ⟨-, n', -, way'⟩ := follow_eq_ok_iff.mp hf
    exact (way'.unique (way.from_root hstart)).2.2
  obtain ⟨-, found, hfile | hsink⟩ := read_eq_ok_iff.mp hb
  · obtain ⟨executable, hf⟩ := hfile
    exact read_eq_ok_iff.mpr ⟨hnull, place', .inl ⟨executable, by rw [hplace hf, h]⟩⟩
  · obtain ⟨hf, hbytes⟩ := hsink
    exact read_eq_ok_iff.mpr ⟨hnull, place', .inr ⟨by rw [hplace hf, h], hbytes⟩⟩

/-! ### Questions -/

/-- Going along names is refused where nothing is on the way, where something on it is no directory,
or where a name is too long. -/
theorem advance_refused {here : Place} {names : List Text}
    (h : t.advance here names = .refused cause) :
    cause.leadsNowhere = true ∨ cause = .nameTooLong := by
  fun_induction advance t here names with
  | case1 | case5 | case8 | case9 => cases h
  | case2 _ _ _ _ ih | case3 _ _ _ _ _ ih => exact ih h
  | case4 =>
    cases h
    exact .inr rfl
  | case6 | case10 =>
    cases h
    exact .inl rfl
  | case7 _ _ _ _ _ _ _ ih => exact ih h

theorem follow_error_cases (h : t.follow p = .error cause) :
    cause.leadsNowhere = true ∨ cause = .nameTooLong := by
  have hlinks (links : Nat) (here : Place) (names : List Text)
      (h : t.throughLinks links (t.advance here names) = .error cause) :
      cause.leadsNowhere = true ∨ cause = .nameTooLong := by
    induction links generalizing here names with
    | zero =>
      cases hstop : t.advance here names with
      | found | free => simp [hstop, throughLinks] at h
      | atLink =>
        rw [hstop] at h
        cases h
        exact .inl rfl
      | refused =>
        rw [hstop] at h
        cases h
        exact advance_refused hstop
    | succ links ih =>
      cases hstop : t.advance here names with
      | found | free => simp [hstop, throughLinks] at h
      | atLink =>
        rw [hstop] at h
        exact ih _ _ h
      | refused =>
        rw [hstop] at h
        cases h
        exact advance_refused hstop
  unfold follow at h
  split at h
  · cases h
    exact .inr rfl
  · exact hlinks _ _ _ h

/-- Whether a path leads to a file with these bytes, all links followed. -/
def HoldsFile (t : FileTree) (p : Path) (bytes : List UInt8) : Prop :=
  ∃ place executable, t.locate p = .ok (place, some (.file bytes executable))

/-- Whether the file system cannot be asked what a path leads to, since the path, a name in it or
the target of a link on the way is too long. -/
def IsOutOfReach (t : FileTree) (p : Path) : Prop :=
  t.locate p = .error (.refused .nameTooLong p.text)

/-- What comes of asking whether a path leads to a file. -/
theorem isFile_cases (t : FileTree) (p : Path) :
    (t.isFile p = .ok true ∧ ∃ bytes, t.HoldsFile p bytes) ∨
      (t.isFile p = .ok false ∧ (¬ ∃ bytes, t.HoldsFile p bytes) ∧ ¬ t.IsOutOfReach p) ∨
      (t.isFile p = .error (.refused .nameTooLong p.text) ∧ t.IsOutOfReach p) := by
  unfold isFile probe HoldsFile IsOutOfReach locate
  by_cases hnull : hasNull p = true
  · simp [hnull, bind, Except.bind, pure, Except.pure]
  simp only [hnull]
  cases hfollow : t.follow p with
  | ok found =>
    obtain ⟨place, node⟩ := found
    rcases node with _ | ⟨bytes, executable⟩ | _ | _ | _ <;>
      simp [through, bind, Except.bind, pure, Except.pure]
  | error cause =>
    rcases follow_error_cases hfollow with hnowhere | rfl
    · have hcause : cause ≠ .nameTooLong := by
        rintro rfl
        cases hnowhere
      simp [through, bind, Except.bind, pure, Except.pure, hnowhere, hcause]
    · simp [through, bind, Except.bind, FileCause.leadsNowhere]

/-- A path leads to a file just if asking for it says so. -/
theorem isFile_eq_true_iff : t.isFile p = .ok true ↔ ∃ bytes, t.HoldsFile p bytes := by
  rcases isFile_cases t p with ⟨h, hfile⟩ | ⟨h, hfile, -⟩ | ⟨h, hfar⟩
  · exact iff_of_true h hfile
  · exact iff_of_false (by simp [h]) hfile
  · refine iff_of_false (by simp [h]) ?_
    rintro ⟨bytes, place, executable, hfound⟩
    cases hfar.symm.trans hfound

theorem isFile_eq_error (h : t.IsOutOfReach p) :
    t.isFile p = .error (.refused .nameTooLong p.text) := by
  rcases isFile_cases t p with ⟨-, bytes, place, executable, hfound⟩ | ⟨-, -, hreach⟩ | ⟨he, -⟩
  · cases h.symm.trans hfound
  · exact absurd h hreach
  · exact he

theorem isFile_directory {place : Place} (h : t.locate p = .ok (place, some .directory)) :
    t.isFile p = .ok false := by
  rcases isFile_cases t p with ⟨-, bytes, place, executable, hfound⟩ | ⟨hfile, -⟩ | ⟨-, hfar⟩
  · cases h.symm.trans hfound
  · exact hfile
  · cases h.symm.trans hfar

theorem HoldsFile.read_eq (h : t.HoldsFile p bytes) : t.read p = .ok bytes := by
  obtain ⟨place, executable, hfound⟩ := h
  obtain ⟨hnull, hfollow⟩ := locate_eq_ok_iff.mp hfound
  exact read_eq_ok_iff.mpr ⟨hnull, place, .inl ⟨executable, hfollow⟩⟩

end DomBindings.FileTree
