import DomBindings.Proofs.Extraction

/-!
# A second extraction finds nothing

Extraction takes out all that the elements share, so nothing that they share is left. An entry that
all remainders defined alike would have been defined alike by all tables to begin with, and its name
would have been taken out (`IsShared.exists_not_defines`). So what is common to a vocabulary from
which the common interface was taken is empty, and taking it out again changes nothing.
-/

namespace DomBindings

namespace Table

variable {α : Type}

/-- A table that binds no name is the empty one. -/
theorem eq_empty_of_get? {t : Table α} (h : ∀ name, t.get? name = none) : t = empty := by
  refine ext (List.eq_nil_iff_forall_not_mem.mpr ?_)
  rintro ⟨name, x⟩ hmem
  rw [← get?_eq_some_iff, h name] at hmem
  cases hmem

/-- To take no names out of a table changes nothing. -/
theorem without_empty (t : Table α) : t.without (empty : Table α) = t :=
  ext (List.filter_eq_self.mpr fun _ _ => rfl)

variable [Definition α] [LawfulDefinition α]

/-- Nothing is defined alike by what is left of all tables: of each entry that one of them has,
there is a table whose remainder has nothing alike. -/
theorem IsShared.exists_not_defines {shared first : Table α} {all : List (Table α)}
    (hs : IsShared shared first all) (hfirst : first ∈ all) (name : Text) (x : α) :
    ∃ t ∈ all, ¬ (t.without shared).Defines name x := by
  by_contra hnone
  have hall : ∀ t ∈ all, (t.without shared).Defines name x := fun t ht =>
    Classical.byContradiction fun hnot => hnone ⟨t, ht, hnot⟩
  -- then the name was not taken out, and the first table binds it
  obtain ⟨y, hy, hyx⟩ := hall first hfirst
  obtain ⟨htaken, hy⟩ := (isRemainder_without hs hfirst).get?_own_iff.mp hy
  -- but all tables had it, so it was
  have hshared : shared.get? name = some y := by
    refine (hs.get?_iff name y).mpr ⟨hy, fun t ht => ?_⟩
    obtain ⟨z, hz, hzx⟩ := hall t ht
    exact ⟨z, ((isRemainder_without hs ht).get?_own_iff.mp hz).2,
      LawfulDefinition.trans hzx (LawfulDefinition.symm hyx)⟩
  rw [htaken] at hshared
  cases hshared

/-- So what is left of tables that share something shares nothing. -/
theorem IsShared.again_eq_empty {shared first : Table α} {all : List (Table α)}
    (hs : IsShared shared first all) (hfirst : first ∈ all) {again : Table α}
    (ha : IsShared again (first.without shared) (all.map (·.without shared))) : again = empty := by
  refine eq_empty_of_get? fun name => Option.eq_none_iff_forall_ne_some.mpr fun x hx => ?_
  obtain ⟨-, hall⟩ := (ha.get?_iff name x).mp hx
  obtain ⟨t, ht, hnot⟩ := hs.exists_not_defines hfirst name x
  exact hnot (hall _ (List.mem_map_of_mem ht))

end Table

namespace Vocabulary

theorem values_prune (v : Vocabulary) (shared : Interface) :
    (v.prune shared).elements.values
      = v.elements.values.map fun e => { e with interface := e.interface.without shared } := by
  simp [prune, Table.values, Table.map, Function.comp_def]

theorem mem_values_prune_iff {v : Vocabulary} {shared : Interface} {own : Element} :
    own ∈ (v.prune shared).elements.values ↔
      ∃ e ∈ v.elements.values, { e with interface := e.interface.without shared } = own := by
  rw [values_prune, List.mem_map]

/-- To take nothing out of a vocabulary changes nothing. -/
theorem prune_empty (v : Vocabulary) : v.prune .empty = v := by
  have helements : v.elements.map (fun e => { e with interface := e.interface.without .empty })
      = v.elements := by
    refine Table.ext ((List.map_congr_left ?_).trans (List.map_id _))
    rintro ⟨name, e⟩ -
    simp only [Interface.without, Interface.empty, Table.without_empty, id]
  rw [prune, helements]

/-- What is left of the elements has what is left of their tables. -/
theorem attributes_prune (v : Vocabulary) (shared : Interface) :
    (v.prune shared).elements.values.map (fun e => e.interface.attributes)
      = (v.elements.values.map fun e => e.interface.attributes).map
        (·.without shared.attributes) := by
  rw [values_prune, List.map_map, List.map_map]
  rfl

theorem events_prune (v : Vocabulary) (shared : Interface) :
    (v.prune shared).elements.values.map (fun e => e.interface.events)
      = (v.elements.values.map fun e => e.interface.events).map (·.without shared.events) := by
  rw [values_prune, List.map_map, List.map_map]
  rfl

/-- What is left of the elements has nothing in common. -/
theorem common_prune (v : Vocabulary) : (v.prune v.common).common = .empty := by
  cases hv : v.elements.values with
  | nil =>
    rw [common, values_prune, hv]
    rfl
  | cons first rest =>
    have hpruned := values_prune v v.common
    rw [hv, List.map_cons] at hpruned
    have hfirst : first ∈ v.elements.values := hv ▸ List.mem_cons_self
    have hattributes : (v.prune v.common).common.attributes = .empty := by
      refine (isShared_attributes hv).again_eq_empty (List.mem_map_of_mem hfirst) ?_
      rw [← attributes_prune]
      exact isShared_attributes hpruned
    have hevents : (v.prune v.common).common.events = .empty := by
      refine (isShared_events hv).again_eq_empty (List.mem_map_of_mem hfirst) ?_
      rw [← events_prune]
      exact isShared_events hpruned
    calc (v.prune v.common).common
        = ⟨(v.prune v.common).common.attributes, (v.prune v.common).common.events⟩ := rfl
      _ = .empty := by rw [hattributes, hevents, Interface.empty]

/-- The elements of a vocabulary share nothing. -/
structure SharesNothing (v : Vocabulary) : Prop where
  /-- an extraction leaves every table as it is, in its order, and has nothing to show for it -/
  extract_eq : v.extract = (v, .empty)
  /-- of each attribute of an element, some element defines nothing alike under its name -/
  attributes : ∀ e ∈ v.elements.values, ∀ name a, e.interface.attributes.get? name = some a →
    ∃ other ∈ v.elements.values, ¬ other.interface.attributes.Defines name a
  /-- and so it is with each event -/
  events : ∀ e ∈ v.elements.values, ∀ name event, e.interface.events.get? name = some event →
    ∃ other ∈ v.elements.values, ¬ other.interface.events.Defines name event

/-- What extraction leaves of a vocabulary, be it empty, shares nothing. -/
theorem extract_sharesNothing (v : Vocabulary) : v.extract.1.SharesNothing where
  extract_eq := by
    change ((v.prune v.common).prune (v.prune v.common).common, (v.prune v.common).common) = _
    rw [common_prune, prune_empty]
    rfl
  attributes := by
    intro own hown name a _
    obtain ⟨e, he, -⟩ := mem_values_prune_iff.mp hown
    obtain ⟨first, rest, hv⟩ := List.exists_cons_of_ne_nil (List.ne_nil_of_mem he)
    obtain ⟨t, ht, hnot⟩ := (isShared_attributes hv).exists_not_defines
      (List.mem_map_of_mem (hv ▸ List.mem_cons_self)) name a
    obtain ⟨other, hother, rfl⟩ := List.mem_map.mp ht
    exact ⟨_, mem_values_prune_iff.mpr ⟨other, hother, rfl⟩, hnot⟩
  events := by
    intro own hown name event _
    obtain ⟨e, he, -⟩ := mem_values_prune_iff.mp hown
    obtain ⟨first, rest, hv⟩ := List.exists_cons_of_ne_nil (List.ne_nil_of_mem he)
    obtain ⟨t, ht, hnot⟩ := (isShared_events hv).exists_not_defines
      (List.mem_map_of_mem (hv ▸ List.mem_cons_self)) name event
    obtain ⟨other, hother, rfl⟩ := List.mem_map.mp ht
    exact ⟨_, mem_values_prune_iff.mpr ⟨other, hother, rfl⟩, hnot⟩

end Vocabulary

end DomBindings
