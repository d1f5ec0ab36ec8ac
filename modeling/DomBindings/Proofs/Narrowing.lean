import DomBindings.Proofs.Extraction
import Mathlib.Data.List.Nodup

/-!
# Narrowing settles each entry by itself

A table that is narrowed by others keeps the entries that all of them define alike, in its own order
and form. So what the others must have is settled for each entry by itself (`narrow_congr`), and it
does not matter in which order they come or how often one of them does. That they may be narrowed
among themselves before takes more: then an entry is compared with what one of them has and not with
what all of them have, and that makes no difference only since likeness is symmetric and transitive
(`defines_narrow_iff`).
-/

namespace DomBindings

namespace Table

section Parts

variable {α : Type} {s t whole : Table α}

/-- Two parts of a table that bind the same names are the same part, since both have its order. -/
theorem eq_of_parts (hs : s.entries.Sublist whole.entries) (ht : t.entries.Sublist whole.entries)
    (h : ∀ name x, s.get? name = some x ↔ t.get? name = some x) : s = t := by
  have hwhole : whole.entries.Nodup := List.Nodup.of_map Prod.fst whole.nodup
  have hperm : s.entries.Perm t.entries := by
    refine (List.perm_ext_iff_of_nodup (hwhole.sublist hs) (hwhole.sublist ht)).mpr ?_
    rintro ⟨name, x⟩
    rw [← get?_eq_some_iff, ← get?_eq_some_iff, h]
  exact ext ((hwhole.perm_iff_eq_of_sublist hs ht).mp hperm)

end Parts

variable {α : Type} [Definition α] {t : Table α} {others others' : List (Table α)}

/-! ### What narrowing depends on -/

/-- Two lists narrow a table to the same if they agree about each of its entries. -/
theorem narrow_congr
    (h : ∀ name x, t.get? name = some x →
      ((∀ other ∈ others, other.Defines name x) ↔ ∀ other ∈ others', other.Defines name x)) :
    t.narrow others = t.narrow others' := by
  apply eq_of_parts (entries_narrow_sublist t others) (entries_narrow_sublist t others')
  intro name x
  rw [get?_narrow_iff, get?_narrow_iff]
  exact and_congr_right (h name x)

/-- So neither the order of a list counts, nor how often it has a table. -/
theorem narrow_eq_of_mem_iff (h : ∀ other, other ∈ others ↔ other ∈ others') :
    t.narrow others = t.narrow others' := by
  apply narrow_congr
  intro name x _
  simp only [h]

theorem narrow_append (t : Table α) (others later : List (Table α)) :
    t.narrow (others ++ later) = (t.narrow others).narrow later :=
  List.foldl_append

theorem names_narrow_sublist (t : Table α) (others : List (Table α)) :
    (t.narrow others).names.Sublist t.names :=
  (entries_narrow_sublist t others).map Prod.fst

/-- A name that is gone does not come back. -/
theorem not_mem_names_narrow_append {name : Text} (h : name ∉ (t.narrow others).names)
    (later : List (Table α)) : name ∉ (t.narrow (others ++ later)).names := by
  rw [narrow_append]
  intro hback
  exact h ((names_narrow_sublist _ later).mem hback)

end Table

/-- So the common interface of a vocabulary, form and order included, depends on its first element
and on which others there are. -/
theorem Vocabulary.common_eq_of_mem_iff {v w : Vocabulary} {first : Element}
    {rest rest' : List Element} (hv : v.elements.values = first :: rest)
    (hw : w.elements.values = first :: rest') (h : ∀ e, e ∈ rest ↔ e ∈ rest') :
    v.common = w.common := by
  have hmem {β : Type} (f : Element → β) (y : β) : y ∈ rest.map f ↔ y ∈ rest'.map f := by
    simp only [List.mem_map, h]
  rw [common_eq hv, common_eq hw]
  exact congrArg₂ Interface.mk (Table.narrow_eq_of_mem_iff (hmem _))
    (Table.narrow_eq_of_mem_iff (hmem _))

namespace Table

variable {α : Type} [Definition α] {t : Table α} {others : List (Table α)}

/-! ### Narrowing the others first -/

variable [LawfulDefinition α]

/-- What is left of a table defines what all of the tables define that it was narrowed by. -/
theorem defines_narrow_iff {name : Text} {x : α} :
    (t.narrow others).Defines name x ↔ ∀ other ∈ t :: others, other.Defines name x := by
  rw [List.forall_mem_cons]
  constructor
  · rintro ⟨y, hy, hyx⟩
    obtain ⟨hy, hall⟩ := get?_narrow_iff.mp hy
    refine ⟨⟨y, hy, hyx⟩, fun other hother => ?_⟩
    obtain ⟨z, hz, hzy⟩ := hall other hother
    exact ⟨z, hz, LawfulDefinition.trans hzy hyx⟩
  · rintro ⟨⟨y, hy, hyx⟩, hall⟩
    refine ⟨y, get?_narrow_iff.mpr ⟨hy, fun other hother => ?_⟩, hyx⟩
    -- the other table has something alike to the entry, and the entry is alike to what `t` has
    obtain ⟨z, hz, hzx⟩ := hall other hother
    exact ⟨z, hz, LawfulDefinition.trans hzx (LawfulDefinition.symm hyx)⟩

/-- The tables of each group may be put together before. -/
theorem narrow_groups (t : Table α) (groups : List (Table α × List (Table α))) :
    t.narrow (groups.map fun g => g.1.narrow g.2)
      = t.narrow (groups.flatMap fun g => g.1 :: g.2) := by
  apply narrow_congr
  intro name x _
  simp only [List.forall_mem_map, defines_narrow_iff, List.mem_flatMap]
  constructor
  · rintro h other ⟨g, hg, hother⟩
    exact h g hg other hother
  · intro h g hg other hother
    exact h other ⟨g, hg, hother⟩

/-- A table is narrowed by others without regard to how they come. -/
structure NarrowsSteadily (t : Table α) : Prop where
  /-- an entry is kept, in its own form, if all the others define it alike, and only then -/
  keeps_iff : ∀ others name x, (t.narrow others).get? name = some x ↔
    t.get? name = some x ∧ ∀ other ∈ others, other.Defines name x
  /-- the names that are kept stand as they stood -/
  names : ∀ others, (t.narrow others).names.Sublist t.names
  /-- a name that is gone at some point is gone ever after -/
  gone : ∀ others later name, name ∉ (t.narrow others).names →
    name ∉ (t.narrow (others ++ later)).names
  /-- two others may change places -/
  swap : ∀ b c, (t.intersect b).intersect c = (t.intersect c).intersect b
  /-- to narrow by one of them again changes nothing -/
  again : ∀ b, (t.intersect b).intersect b = t.intersect b
  /-- and two of them may be put together before -/
  group : ∀ b c, t.intersect (b.intersect c) = (t.intersect b).intersect c
  /-- so it is with lists: it counts which tables they have, and not where or how often -/
  members : ∀ others others', (∀ other, other ∈ others ↔ other ∈ others') →
    t.narrow others = t.narrow others'
  /-- nor does it count how they are grouped -/
  groups : ∀ groups : List (Table α × List (Table α)),
    t.narrow (groups.map fun g => g.1.narrow g.2) = t.narrow (groups.flatMap fun g => g.1 :: g.2)

/-- Every table is, if likeness is an equivalence. The laws for two tables are those for lists of
them. -/
theorem narrowsSteadily (t : Table α) : t.NarrowsSteadily where
  keeps_iff _ _ _ := get?_narrow_iff
  names := names_narrow_sublist t
  gone _ later _ h := not_mem_names_narrow_append h later
  swap b c := by
    change t.narrow [b, c] = t.narrow [c, b]
    exact narrow_eq_of_mem_iff fun other => (List.Perm.swap c b []).mem_iff
  again b := by
    change t.narrow [b, b] = t.narrow [b]
    exact narrow_eq_of_mem_iff fun other => by simp
  group b c := narrow_groups t [(b, [c])]
  members _ _ h := narrow_eq_of_mem_iff h
  groups := narrow_groups t

end Table

/-- **Narrowing is steady.** Tables of attributes and tables of events are narrowed to the same
entries, in the same order and form, however the tables that they are narrowed by are ordered,
repeated or grouped; and what is once gone stays gone. -/
theorem narrowing_isSteady :
    (∀ t : Table Attribute, t.NarrowsSteadily) ∧ ∀ t : Table Event, t.NarrowsSteadily :=
  ⟨Table.narrowsSteadily, Table.narrowsSteadily⟩

end DomBindings
