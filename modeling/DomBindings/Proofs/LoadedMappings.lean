import DomBindings.Proofs.DocumentFormat
import DomBindings.Proofs.Traversal
import DomBindings.Yaml.Construction
import Mathlib.Data.List.Induction

/-!
# Mappings as they are loaded

A document writes a mapping as pairs of nodes, and nothing keeps it from writing a key twice. What
is loaded binds the pairs in turn: a key that comes again keeps its first place and takes the later
value. So a loaded mapping has the names of its pairs in the order in which they first come
(`Table.names_ofList`), each with the last value that it is written with (`Table.get?_ofList`), and
there are as many entries as pairs exactly where no name is repeated (`Table.size_ofList_iff`).

Only a node that writes pairs loads as a mapping. The scalars of a document are read one by one
while it is made, and none of them is read as a mapping: an invariant of making (`Make.StaysPlain`),
which is kept by every action of it. With that, the fields of a loaded mapping are a table of the
nodes that are written in it (`Yaml.Node.fields_value`), provided that no other mapping is merged.
-/

namespace DomBindings

/-! ### Keys that are bound in turn -/

namespace Value

/-- The code of a number does not begin as that of a text does. -/
theorem numberCode_ne_cons (x : Binary64) (rest : List Nat) : numberCode x ≠ 5 :: rest := by
  cases x with
  | finite negative m e =>
    rw [numberCode, dyadicCode]
    split <;> simp
  | infinite negative => simp [numberCode]
  | nan identity => simp [numberCode]

/-- Nothing but itself is alike to a text. -/
theorem alike_text_iff {s : Text} {v : Value} : Alike (.text s) v ↔ v = .text s := by
  constructor
  · intro h
    cases v with
    | text s' =>
      have hcodes : s.map Char.toNat = s'.map Char.toNat := (List.cons.inj (List.cons.inj h).2).2
      have hinj : Function.Injective Char.toNat := fun _ _ h => Char.toNat_inj.mp h
      rw [hinj.list_map hcodes]
    | float x => exact absurd h.symm (numberCode_ne_cons x _)
    | _ => cases (List.cons.inj h).1
  · rintro rfl
    exact Alike.refl _

/-- Among texts, keys are bound as names are in tables. -/
theorem bind_map {α : Type} (f : α → Value) (name : Text) (x : α) (entries : List (Text × α)) :
    bind (.text name) (f x) (entries.map fun e => (.text e.1, f e.2))
      = (Table.put name x entries).map fun e => (.text e.1, f e.2) := by
  induction entries with
  | nil => rfl
  | cons e rest ih =>
    rw [List.map_cons, bind, ih, Table.put]
    by_cases h : e.1 = name
    · rw [if_pos h, if_pos (alike_text_iff.mpr (h ▸ rfl)), h]
      rfl
    · rw [if_neg h, if_neg fun hlike => h (Value.text.inj (alike_text_iff.mp hlike)).symm]
      rfl

/-- A mapping whose keys are texts is a table of what they are bound to. -/
theorem ofEntries_map {α : Type} (f : α → Value) (entries : List (Text × α)) :
    ofEntries (entries.map fun e => (.text e.1, f e.2))
      = .map ((Table.ofList entries).entries.map fun e => (.text e.1, f e.2)) := by
  induction entries using List.reverseRecOn with
  | nil => rfl
  | append_singleton entries e ih =>
    rw [ofEntries, List.map_append, List.foldl_append, Value.map.inj ih,
      Table.entries_ofList_append_singleton]
    exact congrArg Value.map (bind_map f e.1 e.2 _)

theorem exists_alike_bind (key value : Value) (entries : List (Value × Value)) :
    (∃ e ∈ bind key value entries, Alike e.1 key) ∧
      ∀ e ∈ entries, ∃ e' ∈ bind key value entries, e'.1 = e.1 := by
  induction entries with
  | nil => exact ⟨⟨_, List.mem_singleton_self _, .refl _⟩, fun _ h => nomatch h⟩
  | cons first rest ih =>
    obtain ⟨k, v⟩ := first
    rw [bind]
    split
    · next h =>
      refine ⟨⟨_, List.mem_cons_self, h⟩,
        List.forall_mem_cons.mpr ⟨⟨_, List.mem_cons_self, rfl⟩, fun e he => ?_⟩⟩
      exact ⟨e, List.mem_cons_of_mem _ he, rfl⟩
    · obtain ⟨⟨e, he, hlike⟩, hrest⟩ := ih
      refine ⟨⟨e, List.mem_cons_of_mem _ he, hlike⟩,
        List.forall_mem_cons.mpr ⟨⟨_, List.mem_cons_self, rfl⟩, fun e he => ?_⟩⟩
      obtain ⟨e', he', heq⟩ := hrest e he
      exact ⟨e', List.mem_cons_of_mem _ he', heq⟩

/-- Every key that is bound is alike to a key of the mapping. -/
theorem exists_alike_ofEntries {entries bound : List (Value × Value)}
    (h : ofEntries entries = .map bound) : ∀ e ∈ entries, ∃ e' ∈ bound, Alike e'.1 e.1 := by
  induction entries using List.reverseRecOn generalizing bound with
  | nil => exact fun _ h => nomatch h
  | append_singleton entries last ih =>
    rw [ofEntries, List.foldl_append] at h
    obtain rfl := Value.map.inj h
    obtain ⟨hlast, hkept⟩ := exists_alike_bind last.1 last.2
      (entries.foldl (fun bound e => bind e.1 e.2 bound) [])
    intro e he
    rcases List.mem_append.mp he with he | he
    · obtain ⟨e', he', hlike⟩ := ih rfl e he
      obtain ⟨e'', he'', heq⟩ := hkept e' he'
      exact ⟨e'', he'', heq ▸ hlike⟩
    · obtain rfl := List.mem_singleton.mp he
      exact hlast

/-- Whether a value is a mapping. -/
def isMapping : Value → Bool
  | .map _ => true
  | _ => false

end Value

namespace Yaml

open Traversal

/-! ### Scalars are no mappings -/

theorem isMapping_of_readTruth {s : Text} {v : Value} (h : readTruth s = .ok v) :
    v.isMapping = false := by
  simp only [readTruth] at h
  split at h
  · obtain rfl := Except.ok.inj h
    rfl
  · split at h
    · obtain rfl := Except.ok.inj h
      rfl
    · cases h

theorem isMapping_of_readInteger {s : Text} {v : Value} (h : readInteger s = .ok v) :
    v.isMapping = false := by
  unfold readInteger at h
  split at h
  · cases h
  · obtain ⟨n, -, h⟩ := bind_eq_ok_iff.mp h
    obtain rfl := Except.ok.inj h
    rfl
  · obtain ⟨n, -, h⟩ := bind_eq_ok_iff.mp h
    obtain rfl := Except.ok.inj h
    rfl

theorem isMapping_of_readFloat {id : Nat} {s : Text} {v : Value} (h : readFloat id s = .ok v) :
    v.isMapping = false := by
  unfold readFloat at h
  split at h
  · cases h
  · simp only at h
    split at h
    · obtain rfl := Except.ok.inj h
      rfl
    · obtain ⟨x, -, h⟩ := bind_eq_ok_iff.mp h
      obtain rfl := Except.ok.inj h
      rfl

theorem isMapping_of_readBinary {s : Text} {v : Value} (h : readBinary s = .ok v) :
    v.isMapping = false := by
  unfold readBinary at h
  split at h
  · split at h
    · obtain rfl := Except.ok.inj h
      rfl
    · cases h
  · cases h

theorem isMapping_of_readMoment {s : Text} {v : Value} (h : readMoment s = .ok v) :
    v.isMapping = false := by
  unfold readMoment at h
  split at h
  · cases h
  · simp only at h
    split at h
    · split at h
      · obtain rfl := Except.ok.inj h
        rfl
      · cases h
    · split at h
      · obtain rfl := Except.ok.inj h
        rfl
      · cases h

/-- Under no tag is a text read as a mapping. -/
theorem isMapping_of_readScalar {id : Nat} {tag : Tag} {s : Text} {v : Value}
    (h : readScalar id tag s = .ok v) : v.isMapping = false := by
  cases tag with
  | null | str =>
    obtain rfl := Except.ok.inj h
    rfl
  | bool => exact isMapping_of_readTruth h
  | int => exact isMapping_of_readInteger h
  | float => exact isMapping_of_readFloat h
  | binary => exact isMapping_of_readBinary h
  | timestamp => exact isMapping_of_readMoment h
  | _ => cases h

theorem isMapping_of_readAsScalar {texts : List Nat} {n : Node} {v : Value}
    (h : n.readAsScalar texts = .ok v) : v.isMapping = false := by
  unfold Node.readAsScalar at h
  split at h
  iterate 4 cases h
  split at h
  · split at h
    · cases h
    · exact isMapping_of_readScalar h
  · cases h

/-! ### Making reads no mapping -/

/-- No scalar was read as a mapping. -/
def Making.IsPlain (m : Making) : Prop :=
  ∀ e ∈ m.scalars, e.2.isMapping = false

/-- An action that reads no scalar as a mapping. -/
def Make.StaysPlain {α : Type} (x : Make α) : Prop :=
  ∀ m a m', m.IsPlain → x.run m = .ok (a, m') → m'.IsPlain

namespace Make.StaysPlain

variable {α β : Type} {x : Make α} {f : α → Make β}

theorem pure (a : α) : StaysPlain (pure a) := by
  intro m _ m' hm h
  obtain ⟨-, rfl⟩ := Prod.mk.inj (Except.ok.inj h)
  exact hm

theorem throw (e : Fault) : StaysPlain (throw e : Make α) := by
  intro m _ m' _ h
  cases h

theorem get : StaysPlain (get : Make Making) := by
  intro m _ m' hm h
  obtain ⟨-, rfl⟩ := Prod.mk.inj (Except.ok.inj h)
  exact hm

/-- Making goes on with the scalars that were read if only other things are changed. -/
theorem modify {f : Making → Making} (h : ∀ m, (f m).scalars = m.scalars) :
    StaysPlain (modify f : Make PUnit) := by
  intro m _ m' hm hrun
  obtain ⟨-, rfl⟩ := Prod.mk.inj (Except.ok.inj hrun)
  rw [Making.IsPlain, h]
  exact hm

theorem lift (x : Except Fault α) : StaysPlain (liftM x : Make α) := by
  intro m _ m' hm h
  obtain ⟨_, -, hpure⟩ := bind_eq_ok_iff.mp h
  obtain ⟨-, rfl⟩ := Prod.mk.inj (Except.ok.inj hpure)
  exact hm

theorem bind (hx : x.StaysPlain) (hf : ∀ a, (f a).StaysPlain) : StaysPlain (x >>= f) := by
  intro m b m' hm h
  rw [StateT.run_bind] at h
  obtain ⟨⟨a, m₁⟩, hrun, hrest⟩ := bind_eq_ok_iff.mp h
  exact hf a m₁ b m' (hx m a m₁ hm hrun) hrest

theorem meet (n : Node) : (n.meet).StaysPlain := by
  unfold Node.meet
  split
  · exact pure _
  · intro m a m' hm h
    rw [StateT.run_bind] at h
    obtain ⟨⟨m₁, m₂⟩, hget, hrest⟩ := bind_eq_ok_iff.mp h
    obtain ⟨rfl, rfl⟩ := Prod.mk.inj (Except.ok.inj hget)
    split at hrest
    · obtain ⟨⟨v, m₂⟩, hlift, hrest⟩ := bind_eq_ok_iff.mp hrest
      obtain ⟨v', hread, hpure⟩ := bind_eq_ok_iff.mp hlift
      obtain ⟨rfl, rfl⟩ := Prod.mk.inj (Except.ok.inj hpure)
      obtain ⟨-, rfl⟩ := Prod.mk.inj (Except.ok.inj hrest)
      exact List.forall_mem_cons.mpr ⟨isMapping_of_readAsScalar hread, hm⟩
    · obtain ⟨-, rfl⟩ := Prod.mk.inj (Except.ok.inj hrest)
      exact hm

theorem meetAll (nodes : List Node) : (Node.meetAll nodes).StaysPlain := by
  induction nodes with
  | nil => exact pure _
  | cons n rest ih => exact (meet n).bind fun _ => ih.bind fun _ => pure _

theorem meetEntries (entries : List (Node × Node)) : (Node.meetEntries entries).StaysPlain := by
  induction entries with
  | nil => exact pure _
  | cons e rest ih =>
    have hvalue (key : List Node) := (meet e.2).bind fun value =>
      ih.bind fun others => pure (key ++ value ++ others)
    rw [Node.meetEntries]
    refine (meet e.1).bind fun key => ?_
    split
    · exact (throw _).bind fun _ => hvalue key
    · exact hvalue key

theorem meetPairs (nodes : List Node) : (Node.meetPairs nodes).StaysPlain := by
  induction nodes with
  | nil => exact pure _
  | cons n rest ih =>
    have hpair (k v : Node) := (meet k).bind fun key => (meet v).bind fun value =>
      ih.bind fun others => pure (key ++ value ++ others)
    unfold Node.meetPairs
    split
    · refine get.bind fun m => ?_
      split
      · refine (lift _).bind fun entries => ?_
        beta_reduce
        split
        · exact hpair _ _
        · exact throw _
      · refine (pure _).bind fun entries => ?_
        beta_reduce
        split
        · exact hpair _ _
        · exact throw _
    · exact throw _

theorem writeOut (id : Nat) (entries : List (Node × Node)) :
    (Node.writeOut id entries).StaysPlain := by
  refine (lift _).bind fun flat => bind ?_ fun _ => pure flat
  exact modify fun _ => rfl

theorem unfold (n : Node) : (n.unfold).StaysPlain := by
  unfold Node.unfold
  split
  · exact meetAll _
  · exact (writeOut _ _).bind fun _ => meetEntries _
  · exact (writeOut _ _).bind fun _ => meetEntries _
  · exact meetPairs _
  · exact meetPairs _
  · exact throw _

theorem unfoldAll (nodes : List Node) : (Node.unfoldAll nodes).StaysPlain := by
  induction nodes with
  | nil => exact pure _
  | cons n rest ih =>
    rw [Node.unfoldAll]
    refine get.bind fun m => ?_
    split
    · exact ih
    · refine bind ?_ fun _ => (unfold n).bind fun _ => ih.bind fun _ => pure _
      exact modify fun _ => rfl

theorem makeLevels (level : List Node) (depth : Nat) :
    (Node.makeLevels level depth).StaysPlain := by
  induction depth generalizing level with
  | zero => exact pure _
  | succ depth ih => exact (unfoldAll level).bind fun _ => ih _

theorem make (n : Node) : (n.make).StaysPlain :=
  (meet n).bind fun _ => makeLevels _ _

end Make.StaysPlain

theorem Making.isPlain_initial : Making.initial.IsPlain :=
  List.forall_mem_nil _

/-- Making a document reads no scalar of it as a mapping. -/
theorem Making.isPlain_of_make {n : Node} {made : Making}
    (h : n.make.run .initial = .ok ((), made)) : made.IsPlain :=
  Make.StaysPlain.make n _ _ _ isPlain_initial h

namespace Node

/-! ### The fields of a node -/

mutual

/-- Whether no key in a node merges mappings, however deep it stands. -/
def mergesNothing : Node → Bool
  | .scalar _ _ _ => true
  | .sequence _ _ items => itemsMergeNothing items
  | .mapping _ _ entries => entriesMergeNothing entries

/-- Whether no key in several nodes does. -/
def itemsMergeNothing : List Node → Bool
  | [] => true
  | n :: rest => mergesNothing n && itemsMergeNothing rest

/-- Whether no key of a mapping, or in its keys and values, does. -/
def entriesMergeNothing : List (Node × Node) → Bool
  | [] => true
  | (k, v) :: rest =>
    k.tag ≠ .merge && mergesNothing k && mergesNothing v && entriesMergeNothing rest

end

/-- The keys and values that a node writes, if it is a mapping. -/
def written : Node → List (Node × Node)
  | .mapping _ .map entries => entries
  | _ => []

/-- The pairs whose keys are read as names, by those names. -/
def named (scalars : List (Nat × Value)) (pairs : List (Node × Node)) : List (Text × Node) :=
  pairs.filterMap fun e => (Document.nameOf? (e.1.value scalars)).map fun name => (name, e.2)

theorem mergesNothing_of_mem_entries {entries : List (Node × Node)}
    (h : entriesMergeNothing entries = true) {e : Node × Node} (he : e ∈ entries) :
    e.2.mergesNothing = true := by
  induction entries with
  | nil => cases he
  | cons first rest ih =>
    simp only [entriesMergeNothing, Bool.and_eq_true] at h
    rcases List.mem_cons.mp he with rfl | he
    · exact h.1.2
    · exact ih h.2 he

theorem mergesNothing_of_mem_named {scalars : List (Nat × Value)} {n : Node}
    (h : n.mergesNothing = true) {e : Text × Node} (he : e ∈ named scalars n.written) :
    e.2.mergesNothing = true := by
  obtain ⟨p, hp, hname⟩ := List.mem_filterMap.mp he
  obtain ⟨name, -, rfl⟩ := Option.map_eq_some_iff.mp hname
  unfold written at hp
  split at hp
  · exact mergesNothing_of_mem_entries h hp
  · cases hp

theorem entryValues_eq (scalars : List (Nat × Value)) {entries : List (Node × Node)}
    (h : entriesMergeNothing entries = true) : entryValues scalars entries
      = ([], entries.map fun e => (e.1.value scalars, e.2.value scalars)) := by
  induction entries with
  | nil => rw [entryValues, List.map_nil]
  | cons e rest ih =>
    simp only [entriesMergeNothing, Bool.and_eq_true, decide_eq_true_eq] at h
    rw [entryValues, ih h.2, List.map_cons]
    exact if_neg h.1.1.1

/-- Without others to merge, a mapping binds what it writes in turn. -/
theorem value_mapping (scalars : List (Nat × Value)) (id : Nat) {entries : List (Node × Node)}
    (h : entriesMergeNothing entries = true) : (mapping id .map entries).value scalars
      = .ofEntries (entries.map fun e => (e.1.value scalars, e.2.value scalars)) := by
  rw [value, entryValues_eq scalars h]
  rfl

theorem isMapping_scalarValue {m : Making} (h : m.IsPlain) (id : Nat) :
    (scalarValue m.scalars id).isMapping = false := by
  rw [scalarValue]
  cases hlookup : m.scalars.lookup id with
  | none => rfl
  | some v =>
    obtain ⟨l₁, l₂, hsplit, -⟩ := List.lookup_eq_some_iff.mp hlookup
    exact h (id, v) (hsplit ▸ List.mem_append_right _ List.mem_cons_self)

/-- A node that is no mapping loads as none. -/
theorem isMapping_value {m : Making} (h : m.IsPlain) {n : Node}
    (hn : ∀ id entries, n ≠ .mapping id .map entries) :
    (n.value m.scalars).isMapping = false := by
  cases n with
  | scalar id tag content =>
    rw [value]
    exact isMapping_scalarValue h id
  | sequence id tag items =>
    unfold value
    split
    iterate 3 rfl
    exact isMapping_scalarValue h id
  | mapping id tag entries =>
    unfold value
    split
    · exact absurd rfl (hn id entries)
    · rfl
    · exact isMapping_scalarValue h id

/-- Every key of a mapping that loads as a table is a name. -/
theorem exists_name_of_isTable {scalars : List (Nat × Value)} {id : Nat}
    {entries : List (Node × Node)} (hmerge : entriesMergeNothing entries = true)
    (h : Document.IsTable ((mapping id .map entries).value scalars)) :
    ∀ e ∈ entries, ∃ name, Document.nameOf? (e.1.value scalars) = some name := by
  rw [value_mapping scalars id hmerge] at h
  rcases h with h | ⟨bound, hbound, hnames⟩
  · cases h
  · intro e he
    obtain ⟨e', he', hlike⟩ :=
      Value.exists_alike_ofEntries hbound _ (List.mem_map.mpr ⟨e, he, rfl⟩)
    obtain ⟨⟨name, v⟩, hname, rfl⟩ := List.mem_map.mp he'
    have hkey : e.1.value scalars = .text name := Value.alike_text_iff.mp hlike
    exact ⟨name, hkey ▸ Document.nameOf?_text (hnames _ hname)⟩

theorem map_named {scalars : List (Nat × Value)} {entries : List (Node × Node)}
    (h : ∀ e ∈ entries, ∃ name, Document.nameOf? (e.1.value scalars) = some name) :
    (named scalars entries).map (fun e => (Value.text e.1, e.2.value scalars))
      = entries.map fun e => (e.1.value scalars, e.2.value scalars) := by
  induction entries with
  | nil => rfl
  | cons e rest ih =>
    obtain ⟨⟨name, hname⟩, hrest⟩ := List.forall_mem_cons.mp h
    have hnamed : named scalars (e :: rest) = (name, e.2) :: named scalars rest :=
      List.filterMap_cons_some (by rw [hname]; rfl)
    rw [hnamed, List.map_cons, List.map_cons, ih hrest, (Document.text_of_nameOf? hname).1]

/-- The fields of a mapping are the last values that are written under their names. -/
theorem fields_mapping {scalars : List (Nat × Value)} {id : Nat} {entries : List (Node × Node)}
    (hmerge : entriesMergeNothing entries = true)
    (h : Document.IsTable ((mapping id .map entries).value scalars)) :
    Document.fields ((mapping id .map entries).value scalars)
      = (Table.ofList (named scalars entries)).map (value scalars) := by
  have hvalue : (mapping id .map entries).value scalars
      = .map (((Table.ofList (named scalars entries)).map (value scalars)).entries.map
          fun e => (.text e.1, e.2)) := by
    rw [value_mapping scalars id hmerge, ← map_named (exists_name_of_isTable hmerge h),
      Value.ofEntries_map]
    simp only [Table.map, List.map_map, Function.comp_def]
  rw [hvalue] at h ⊢
  exact Table.ext (Document.fields_entries h.names_ne_nil (Table.nodup _))

/-- What loads as a table has only names for keys, and its fields are the last values that are
written under them. -/
theorem fields_value {m : Making} (hplain : m.IsPlain) {n : Node}
    (hmerge : n.mergesNothing = true) (h : Document.IsTable (n.value m.scalars)) :
    (∀ e ∈ n.written, ∃ name, Document.nameOf? (e.1.value m.scalars) = some name) ∧
      Document.fields (n.value m.scalars)
        = (Table.ofList (named m.scalars n.written)).map (value m.scalars) := by
  by_cases hn : ∃ id entries, n = .mapping id .map entries
  · obtain ⟨id, entries, rfl⟩ := hn
    exact ⟨exists_name_of_isTable hmerge h, fields_mapping hmerge h⟩
  · have hnot : ∀ id entries, n ≠ .mapping id .map entries := fun id entries heq =>
      hn ⟨id, entries, heq⟩
    have hwritten : n.written = [] := by
      unfold written
      split
      · exact absurd rfl (hnot _ _)
      · rfl
    have hnull : n.value m.scalars = .null := by
      rcases h with h | ⟨entries, h, -⟩
      · exact h
      · have hmap := isMapping_value hplain hnot
        rw [h] at hmap
        cases hmap
    rw [hwritten, hnull]
    exact ⟨List.forall_mem_nil _, rfl⟩

end Node

end Yaml

end DomBindings
