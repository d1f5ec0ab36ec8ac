import DomBindings.Program.Writing
import DomBindings.Proofs.PathResolution

/-!
# Writing files

What changes when a file is written with the directories above it. Directories are only added where
nothing was, each at a place to which the path above the file, or one above that, leads in the end
(`AddsDirectories`); this holds also when the writing fails on the way. Then the file that the path
leads to gets its bytes, and all else stays (`WritesFile`), unless the path leads to a device, which
keeps nothing.
-/

namespace DomBindings

/-- Whether all names of a path lead somewhere else, as in a path that is read from a text. -/
def Path.IsPlain (p : Path) : Prop :=
  ∀ part ∈ p.parts, Path.staysInPlace part = false

theorem Path.isPlain_ofText (s : Text) : (Path.ofText s).IsPlain := by
  intro part h
  simpa using (List.mem_filter.mp h).2

/-- Whether there is a file that may be run. -/
def FileNode.isProgram : Option FileNode → Bool
  | some (.file _ executable) => executable
  | _ => false

namespace FileTree

variable {t t' t'' : FileTree} {p : Path} {place other : Place} {bytes : List UInt8}

/-! ### Directories -/

/-- A directory has been added where a path, or one above it, now leads. -/
structure IsAdded (t t' : FileTree) (p : Path) (place : Place) : Prop where
  /-- nothing was there -/
  free : t.node? place = none
  /-- a directory is there -/
  directory : t'.node? place = some .directory
  /-- the path or one above it leads there -/
  above : ∃ names, names <+: p.parts ∧ t'.follow ⟨p.anchor, names⟩ = .ok (place, some .directory)

/-- Directories have been added along a path, and nothing else has changed. -/
structure AddsDirectories (t t' : FileTree) (p : Path) : Prop where
  /-- the working directory stays -/
  working : t'.working = t.working
  /-- each place is as it was, or a directory has been added there -/
  node : ∀ place, t'.node? place = t.node? place ∨ t.IsAdded t' p place

namespace AddsDirectories

theorem refl (t : FileTree) (p : Path) : t.AddsDirectories t p :=
  ⟨rfl, fun _ => .inl rfl⟩

theorem keepsWays (h : t.AddsDirectories t' p) : t.KeepsWays t' := by
  refine ⟨h.working, fun {place node} hn _ => ?_⟩
  obtain hsame | hadded := h.node place
  · rw [hsame, hn]
  · rw [hadded.free] at hn
    cases hn

theorem trans (h : t.AddsDirectories t' p) (h' : t'.AddsDirectories t'' p) :
    t.AddsDirectories t'' p := by
  refine ⟨h'.working.trans h.working, fun place => ?_⟩
  obtain hsame | hadded := h.node place
  · obtain hsame' | hadded' := h'.node place
    · exact .inl (hsame'.trans hsame)
    · exact .inr ⟨hsame ▸ hadded'.free, hadded'.directory, hadded'.above⟩
  · obtain ⟨names, hnames, hf⟩ := hadded.above
    exact .inr ⟨hadded.free, h'.keepsWays.node hadded.directory id,
      names, hnames, h'.keepsWays.follow_directory hf⟩

/-- What has been added along a path above has been added along the path. -/
theorem of_isPrefix {anchor : Anchor} {names parts : List Text}
    (h : t.AddsDirectories t' ⟨anchor, names⟩) (hp : names <+: parts) :
    t.AddsDirectories t' ⟨anchor, parts⟩ := by
  refine ⟨h.working, fun place => (h.node place).imp_right fun hadded => ?_⟩
  obtain ⟨names', hnames, hf⟩ := hadded.above
  exact ⟨hadded.free, hadded.directory, names', hnames.trans hp, hf⟩

end AddsDirectories

/-- A directory is made in a directory that is there, under a name that is free. -/
theorem exists_of_addDirectory (h : t.addDirectory p = .ok t') :
    ∃ above name place, p.parts = above ++ [name] ∧
      t.follow ⟨p.anchor, above⟩ = .ok (place, some .directory) ∧
      Path.leadsUp name = false ∧ (Text.encode name).length ≤ maxNameBytes ∧
      t.node? (place ++ [name]) = none ∧ t' = t.put (place ++ [name]) .directory := by
  unfold addDirectory at h
  split at h
  · cases h
  · next name hlast =>
    obtain ⟨above, hparts⟩ := List.getLast?_eq_some_iff.mp hlast
    have hparent : p.parent = ⟨p.anchor, above⟩ := by simp [Path.parent, hparts]
    obtain ⟨⟨place, node⟩, hfollow, h⟩ := Traversal.bind_eq_ok_iff.mp h
    rw [hparent] at hfollow
    split at h
    · next place heq =>
      obtain ⟨rfl, rfl⟩ := Prod.mk.inj heq
      split at h
      · cases h
      · next hu =>
        split at h
        · cases h
        · next hl =>
          split at h
          · cases h
          · next hfree =>
            exact ⟨above, name, place, hparts, hfollow, by simpa using hu, Nat.not_lt.mp hl, hfree,
              (Except.ok.inj h).symm⟩
    · cases h
    · cases h

/-- Where no way goes on, a node may be put without harm to any way. -/
theorem keepsWays_put (h : FileNode.IsEnd (t.node? place)) (node : FileNode) :
    t.KeepsWays (t.put place node) := by
  have hplace : place ≠ [] := by
    rintro rfl
    exact h
  refine ⟨rfl, fun {other old} hn hway => ?_⟩
  rw [node?_put t other node hplace, if_neg (fun he => ?_), hn]
  rw [← he, hn] at h
  exact hway h

theorem addsDirectories_of_makeDirectory (hp : p.IsPlain) (h : t.makeDirectory p = .ok t') :
    t.AddsDirectories t' p := by
  unfold makeDirectory at h
  split at h
  · cases h
  split at h
  · cases h
  next hlength =>
  obtain ⟨above, name, place, hparts, hfollow, hu, hl, hfree, rfl⟩ :=
    exists_of_addDirectory (through_eq_ok_iff.mp h)
  have hname : Path.IsEntryName name := ⟨hp name (by simp [hparts]), hu, hl⟩
  have hk : t.KeepsWays (t.put (place ++ [name]) .directory) :=
    keepsWays_put (hfree ▸ trivial) _
  have hput : ∀ other, (t.put (place ++ [name]) .directory).node? other
      = if other = place ++ [name] then some .directory else t.node? other :=
    fun other => node?_put t other .directory (by simp)
  have hleads : (t.put (place ++ [name]) .directory).follow p
      = .ok (place ++ [name], some .directory) := by
    obtain ⟨-, n, hn, way⟩ := follow_eq_ok_iff.mp (hk.follow_directory hfollow)
    refine follow_eq_ok_iff.mpr ⟨Nat.not_lt.mp hlength, n, hn, ?_⟩
    rw [hparts]
    exact way.append (.down hname (by simp [hput]) .here)
  refine ⟨rfl, fun other => ?_⟩
  by_cases ho : other = place ++ [name]
  · subst ho
    exact .inr ⟨hfree, by simp [hput], p.parts, List.prefix_refl _, hleads⟩
  · exact .inl (by simp [hput, ho])

/-- Making directories along names adds directories, whether or not it fails on the way. -/
theorem addsDirectories_makeDirectoriesAlong (anchor : Anchor) {names : List Text}
    (hp : ∀ part ∈ names, Path.staysInPlace part = false) (t : FileTree) :
    t.AddsDirectories (makeDirectoriesAlong anchor names t).2 ⟨anchor, names.reverse⟩ := by
  have hplain : ∀ {names : List Text}, (∀ part ∈ names, Path.staysInPlace part = false) →
      (⟨anchor, names.reverse⟩ : Path).IsPlain :=
    fun h part hpart => h part (List.mem_reverse.mp hpart)
  -- what has been added along the names above has been added along all of them
  have hlonger : ∀ {t t' : FileTree} {name : Text} {above : List Text},
      t.AddsDirectories t' ⟨anchor, above.reverse⟩ →
        t.AddsDirectories t' ⟨anchor, (name :: above).reverse⟩ :=
    fun h => h.of_isPrefix (by simp)
  fun_induction makeDirectoriesAlong anchor names t with
  | case1 names t p made hmade => exact addsDirectories_of_makeDirectory (hplain hp) hmade
  | case2 t => exact .refl t _
  | case3 t name above e t' hfails p _ ih =>
    have h := ih fun part hpart => hp part (List.mem_cons_of_mem _ hpart)
    rw [hfails] at h
    exact hlonger h
  | case4 t name above t' hdone made p hmade _ ih =>
    have h := ih fun part hpart => hp part (List.mem_cons_of_mem _ hpart)
    rw [hdone] at h
    exact (hlonger h).trans (addsDirectories_of_makeDirectory (hplain hp) hmade)
  | case5 t name above t' hdone p _ _ ih | case6 t name above t' hdone _ p _ _ _ ih =>
    have h := ih fun part hpart => hp part (List.mem_cons_of_mem _ hpart)
    rw [hdone] at h
    exact hlonger h
  | case7 names t => exact .refl t _

/-- Making the directories of a path adds directories along it, whether or not it fails. -/
theorem addsDirectories_makeDirectories (hp : p.IsPlain) (t : FileTree) :
    t.AddsDirectories (t.makeDirectories p).2 p := by
  have h := addsDirectories_makeDirectoriesAlong p.anchor
    (fun part hpart => hp part (List.mem_reverse.mp hpart)) t
  rwa [List.reverse_reverse] at h

/-! ### Files -/

/-- A file has been written through a path, directories have been added above it, and nothing else
has changed. -/
structure WritesFile (t t' : FileTree) (p : Path) (bytes : List UInt8) (place : Place) :
    Prop where
  /-- the working directory stays -/
  working : t'.working = t.working
  /-- there was a file or nothing -/
  before : t.node? place = none ∨ ∃ old executable, t.node? place = some (.file old executable)
  /-- the path leads to the bytes, in a file that is a program if it was one -/
  leads : t'.follow p = .ok (place, some (.file bytes (FileNode.isProgram (t.node? place))))
  /-- every other place is as it was, or a directory above the file has been added there -/
  elsewhere : ∀ other, other ≠ place →
    t'.node? other = t.node? other ∨ t.IsAdded t' p.parent other

/-- What a path may lead to that is written through it: a file, which gets the bytes, nothing, in
whose stead a file is made, or a device, which keeps nothing. -/
theorem exists_of_write (h : t.write p bytes = .ok t') :
    ∃ place node, t.follow p = .ok (place, node) ∧
      ((node = none ∨ ∃ old executable, node = some (.file old executable)) ∧
          t' = t.put place (.file bytes (FileNode.isProgram node)) ∨
        node = some .sink ∧ t' = t) := by
  obtain ⟨⟨place, node⟩, hlocate, hnode⟩ := Traversal.bind_eq_ok_iff.mp h
  obtain ⟨-, hfollow⟩ := locate_eq_ok_iff.mp hlocate
  obtain ⟨-, n, -, way⟩ := follow_eq_ok_iff.mp hfollow
  refine ⟨place, node, hfollow, ?_⟩
  rw [through_eq_ok_iff] at hnode
  rcases node with _ | ⟨old, executable⟩ | _ | target | _
  · exact .inl ⟨.inl rfl, (Except.ok.inj hnode).symm⟩
  · exact .inl ⟨.inr ⟨old, executable, rfl⟩, (Except.ok.inj hnode).symm⟩
  · cases hnode
  · obtain h | h := way.directory_or_isEnd
    · cases h
    · exact h.elim
  · exact .inr ⟨rfl, (Except.ok.inj hnode).symm⟩

/-- What a successful write has changed since the tree before directories were added. -/
theorem AddsDirectories.write {t₀ : FileTree} (h : t₀.AddsDirectories t p.parent)
    (hw : t.write p bytes = .ok t') :
    (∃ place, t₀.WritesFile t' p bytes place) ∨
      ∃ place, t'.follow p = .ok (place, some .sink) ∧ t₀.AddsDirectories t' p.parent := by
  obtain ⟨place, node, hfollow, ⟨hbefore, rfl⟩ | ⟨rfl, rfl⟩⟩ := exists_of_write hw
  · obtain ⟨-, n, -, way⟩ := follow_eq_ok_iff.mp hfollow
    have hend : FileNode.IsEnd node := by
      obtain rfl | ⟨_, _, rfl⟩ := hbefore <;> trivial
    obtain ⟨hplace, hnode⟩ := way.node?_eq hend
    have hnode₀ : t₀.node? place = node := by
      obtain hsame | hadded := h.node place
      · rw [← hsame, hnode]
      · rw [← hnode, hadded.directory] at hend
        exact hend.elim
    have hk : t.KeepsWays (t.put place (.file bytes (FileNode.isProgram node))) :=
      keepsWays_put (hnode ▸ hend) _
    refine .inl ⟨place, h.working, hnode₀ ▸ hbefore, ?_, fun other ho => ?_⟩
    · have hput : (t.put place (.file bytes (FileNode.isProgram node))).node? place
          = some (.file bytes (FileNode.isProgram node)) := by
        rw [node?_put t place _ hplace, if_pos rfl]
      rw [hnode₀, ← hput]
      exact hk.follow_end hfollow hend (hput ▸ trivial)
    · rw [node?_put t other _ hplace, if_neg ho]
      obtain hsame | hadded := h.node other
      · exact .inl hsame
      · obtain ⟨names, hnames, hf⟩ := hadded.above
        exact .inr ⟨hadded.free, hk.node hadded.directory id, names, hnames,
          hk.follow_directory hf⟩
  · exact .inr ⟨place, hfollow, h⟩

/-- What has changed when a file has been written with the directories above it. -/
theorem exists_of_writeWithParents (hp : p.IsPlain)
    (h : t.writeWithParents p bytes = (.ok (), t')) :
    (∃ place, t.WritesFile t' p bytes place) ∨
      ∃ place, t'.follow p = .ok (place, some .sink) ∧ t.AddsDirectories t' p.parent := by
  have hparent : p.parent.IsPlain := fun part hpart => hp part ((List.dropLast_subset _) hpart)
  have hadds := addsDirectories_makeDirectories hparent t
  unfold writeWithParents at h
  split at h
  · cases h
  · next t₁ hmade =>
    rw [hmade] at hadds
    split at h
    · cases h
    · next written hwrite =>
      obtain ⟨-, rfl⟩ := Prod.mk.inj h
      exact hadds.write hwrite

theorem WritesFile.keepsWays (h : t.WritesFile t' p bytes place) : t.KeepsWays t' := by
  refine ⟨h.working, fun {other node} hn hway => ?_⟩
  by_cases ho : other = place
  · obtain hfree | ⟨old, executable, hfile⟩ := h.before
    · rw [ho, hfree] at hn
      cases hn
    · rw [ho, hfile] at hn
      exact absurd (hn ▸ trivial) hway
  · obtain hsame | hadded := h.elsewhere other ho
    · rw [hsame, hn]
    · rw [hadded.free] at hn
      cases hn

end FileTree

/-! ### The account of a written file -/

/-- What is said about a file: the line feeds of the text, and how many bytes are read there. -/
theorem WrittenFile.counts_of_ofTree {t : FileTree} {p : Path} {content : Text} {file : WrittenFile}
    {found : Place × Option FileNode} (hw : t.Stands t.working) (hf : t.follow p = .ok found)
    (h : WrittenFile.ofTree t p content = .ok file) :
    file.lineCount = Text.countOf '\n' content ∧
      ∃ bytes, t.read p = .ok bytes ∧ file.byteCount = bytes.length := by
  obtain ⟨place, hresolve, h⟩ := Traversal.bind_eq_ok_iff.mp h
  obtain ⟨bytes, hread, h⟩ := Traversal.bind_eq_ok_iff.mp h
  obtain rfl := Except.ok.inj h
  exact ⟨rfl, bytes, FileTree.read_eq_of_resolve hw hf hresolve hread, rfl⟩

/-- A text has been written through a path, and this is said about the file. The bytes that are counted
are those that are read back. A device keeps nothing, so there they are none, whatever was written. -/
structure WrittenFile.IsOf (file : WrittenFile) (t t' : FileTree) (p : Path) (content : Text) :
    Prop where
  /-- the line feeds of the text are counted -/
  lineCount : file.lineCount = Text.countOf '\n' content
  /-- a file has the bytes of the text, and they are counted, or there is a device -/
  change : (∃ place, t.WritesFile t' p (Text.encode content) place) ∧
      file.byteCount = (Text.encode content).length ∨
    (∃ place, t'.follow p = .ok (place, some .sink)) ∧ t.AddsDirectories t' p.parent ∧
      file.byteCount = 0

/-- A text that has been written, with what is then said about the file. -/
theorem WrittenFile.isOf_of_write {t t' : FileTree} {p : Path} {content : Text}
    {file : WrittenFile} (hplain : p.IsPlain) (hworking : t.Stands t.working)
    (hwrite : t.writeWithParents p (Text.encode content) = (.ok (), t'))
    (hfile : WrittenFile.ofTree t' p content = .ok file) : file.IsOf t t' p content := by
  obtain ⟨place, h⟩ | ⟨place, hsink, hadds⟩ := FileTree.exists_of_writeWithParents hplain hwrite
  · have hstands : t'.Stands t'.working := h.working ▸ h.keepsWays.stands hworking
    obtain ⟨hlines, bytes, hread, hbytes⟩ := counts_of_ofTree hstands h.leads hfile
    obtain ⟨-, found, ⟨executable, hf⟩ | ⟨hf, -⟩⟩ := FileTree.read_eq_ok_iff.mp hread
    · rw [h.leads] at hf
      cases hf
      exact ⟨hlines, .inl ⟨⟨place, h⟩, hbytes⟩⟩
    · rw [h.leads] at hf
      cases hf
  · have hstands : t'.Stands t'.working := hadds.working ▸ hadds.keepsWays.stands hworking
    obtain ⟨hlines, bytes, hread, hbytes⟩ := counts_of_ofTree hstands hsink hfile
    obtain ⟨-, found, ⟨executable, hf⟩ | ⟨-, rfl⟩⟩ := FileTree.read_eq_ok_iff.mp hread
    · rw [hsink] at hf
      cases hf
    · exact ⟨hlines, .inr ⟨⟨place, hsink⟩, hadds, hbytes⟩⟩

/-- The bytes that were written are counted just if the path leads to no device, or if there were
none. -/
theorem WrittenFile.IsOf.byteCount_eq_iff {t t' : FileTree} {p : Path} {content : Text}
    {file : WrittenFile} (h : file.IsOf t t' p content) :
    file.byteCount = (Text.encode content).length ↔
      content = [] ∨ ∀ place, t'.follow p ≠ .ok (place, some .sink) := by
  obtain ⟨⟨place, hwrites⟩, hbytes⟩ | ⟨⟨place, hsink⟩, -, hbytes⟩ := h.change
  · refine iff_of_true hbytes (.inr fun place' hsink => ?_)
    rw [hwrites.leads] at hsink
    cases hsink
  · rw [hbytes, or_iff_left fun hnone => hnone place hsink]
    cases content with
    | nil => exact iff_of_true rfl rfl
    | cons c rest =>
      refine iff_of_false (fun hzero => ?_) (List.cons_ne_nil c rest)
      have hempty := List.eq_nil_of_length_eq_zero (Int.ofNat_inj.mp hzero.symm)
      exact String.utf8EncodeChar_ne_nil (List.append_eq_nil_iff.mp hempty).1

end DomBindings
