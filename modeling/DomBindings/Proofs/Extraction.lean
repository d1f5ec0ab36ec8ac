import DomBindings.Proofs.Likeness
import DomBindings.Proofs.Table
import DomBindings.Vocabulary.Extraction

/-!
# What is extracted

The common tables are narrowed element by element. The invariant of that fold is that a table keeps,
in its first form and order, just the entries that all tables so far define alike
(`get?_narrow_iff`); taking the common names out of an element leaves the rest of its tables as they
are. So extraction loses nothing, and what it takes out is exactly what all elements share.
-/

namespace DomBindings

namespace Table

/-- The names of another table are gone, and the others are bound as before. -/
theorem get?_without {α β : Type} (t : Table α) (other : Table β) (name : Text) :
    (t.without other).get? name = if other.contains name then none else t.get? name := by
  apply Option.ext
  intro x
  rw [get?_eq_some_iff, without, mem_entries_filter, ← get?_eq_some_iff]
  cases other.contains name with
  | false => simp
  | true => simp

variable {α : Type} [Definition α]

/-- A table binds a name to something alike to a definition. -/
def Defines (t : Table α) (name : Text) (x : α) : Prop :=
  ∃ y, t.get? name = some y ∧ Definition.alike y x = true

theorem get?_intersect_iff {a b : Table α} {name : Text} {x : α} :
    (a.intersect b).get? name = some x ↔ a.get? name = some x ∧ b.Defines name x := by
  rw [get?_eq_some_iff, get?_eq_some_iff, intersect, mem_entries_filter, Defines]
  refine and_congr_right fun _ => ?_
  cases b.get? name with
  | none => simp
  | some y => simp

/-- A table narrowed by others in turn. -/
def narrow (t : Table α) (others : List (Table α)) : Table α :=
  others.foldl intersect t

/-- Narrowing keeps what all the others define alike. -/
theorem get?_narrow_iff {t : Table α} {others : List (Table α)} {name : Text} {x : α} :
    (t.narrow others).get? name = some x ↔
      t.get? name = some x ∧ ∀ other ∈ others, other.Defines name x := by
  -- the invariant of the fold; each table that it passes adds its own condition
  induction others generalizing t with
  | nil => simp [narrow]
  | cons other others ih =>
    change ((t.intersect other).narrow others).get? name = some x ↔ _
    rw [ih, get?_intersect_iff, List.forall_mem_cons, and_assoc]

/-- Narrowing keeps the order of the entries. -/
theorem entries_narrow_sublist (t : Table α) (others : List (Table α)) :
    (t.narrow others).entries.Sublist t.entries := by
  induction others generalizing t with
  | nil => exact .refl _
  | cons other others ih => exact (ih (t.intersect other)).trans (entries_filter_sublist t _)

/-- A table holds what tables share: the entries of the first one that all of them define alike, in
its order. -/
structure IsShared (shared first : Table α) (all : List (Table α)) : Prop where
  /-- what is shared is bound as in the first table -/
  get?_iff : ∀ name x, shared.get? name = some x ↔
    first.get? name = some x ∧ ∀ t ∈ all, t.Defines name x
  /-- in its order -/
  order : shared.entries.Sublist first.entries

/-- A table is what is left of another one without a third one's names, and with the third one's
entries put back it binds every name to something alike to what it was bound to. -/
structure IsRemainder (own shared original : Table α) : Prop where
  /-- the names that are taken out are gone, and the others are bound as before -/
  get?_eq : ∀ name, own.get? name = if shared.contains name then none else original.get? name
  /-- in the order in which they were -/
  order : own.entries.Sublist original.entries
  /-- nothing is lost -/
  restored : ∀ name, Option.Rel (fun x y => Definition.alike x y = true)
    ((shared.get? name).or (own.get? name)) (original.get? name)

namespace IsRemainder

variable {own shared original : Table α} {name : Text} {x : α}

/-- What is left was there before, under a name that is not taken out. -/
theorem get?_own_iff (h : IsRemainder own shared original) :
    own.get? name = some x ↔ shared.get? name = none ∧ original.get? name = some x := by
  rw [h.get?_eq, contains]
  cases shared.get? name <;> simp

/-- What is taken out was there before in a form alike to it. -/
theorem exists_of_shared (h : IsRemainder own shared original)
    (hx : shared.get? name = some x) :
    ∃ y, original.get? name = some y ∧ Definition.alike x y = true := by
  have hback := h.restored name
  rw [hx, Option.some_or] at hback
  cases hy : original.get? name with
  | none =>
    rw [hy] at hback
    cases hback
  | some y =>
    rw [hy] at hback
    cases hback with
    | some hxy => exact ⟨y, rfl, hxy⟩

/-- What was there before is left, or something alike to it is taken out. -/
theorem own_or_shared (h : IsRemainder own shared original) (hx : original.get? name = some x) :
    own.get? name = some x ∨
      ∃ y, shared.get? name = some y ∧ Definition.alike y x = true := by
  cases hy : shared.get? name with
  | none => exact .inl (h.get?_own_iff.mpr ⟨hy, hx⟩)
  | some y =>
    obtain ⟨x', hx', hyx⟩ := h.exists_of_shared hy
    obtain rfl := Option.some.inj (hx'.symm.trans hx)
    exact .inr ⟨y, rfl, hyx⟩

end IsRemainder

variable [LawfulDefinition α]

/-- Narrowing the first of several tables by the others leaves what all of them share. -/
theorem isShared_narrow (first : Table α) (others : List (Table α)) :
    IsShared (first.narrow others) first (first :: others) where
  get?_iff name x := by
    rw [get?_narrow_iff, List.forall_mem_cons]
    refine and_congr_right fun hx => (and_iff_right ?_).symm
    exact ⟨x, hx, LawfulDefinition.refl x⟩
  order := entries_narrow_sublist first others

/-- What is shared can be put back into each of the tables that share it. -/
theorem isRemainder_without {shared first : Table α} {all : List (Table α)}
    (hs : IsShared shared first all) {t : Table α} (ht : t ∈ all) :
    IsRemainder (t.without shared) shared t where
  get?_eq := get?_without t shared
  order := entries_filter_sublist t _
  restored name := by
    -- a shared name comes back in the first table's form, any other one was left in place
    rw [get?_without, contains]
    cases hname : shared.get? name with
    | none =>
      rw [Option.none_or, Option.isSome_none, if_neg Bool.false_ne_true]
      cases t.get? name with
      | none => exact .none
      | some y => exact .some (LawfulDefinition.refl y)
    | some x =>
      obtain ⟨y, hy, hyx⟩ := ((hs.get?_iff name x).mp hname).2 t ht
      rw [hy, Option.some_or]
      exact .some (LawfulDefinition.symm hyx)

end Table

/-- An element without the attributes and events of an interface. -/
structure Element.IsPruned (shared : Interface) (old new : Element) : Prop where
  description : new.description = old.description
  ref : new.ref = old.ref
  host : new.host = old.host
  attributes : Table.IsRemainder new.interface.attributes shared.attributes old.interface.attributes
  events : Table.IsRemainder new.interface.events shared.events old.interface.events

namespace Vocabulary

/-- A vocabulary is taken apart into an interface that all its elements share and what is left of
them. The interface has the form and the order that it has in the first element. -/
structure IsExtraction (first : Element) (v pruned : Vocabulary) (shared : Interface) : Prop where
  attributes : Table.IsShared shared.attributes first.interface.attributes
    (v.elements.values.map fun e => e.interface.attributes)
  events : Table.IsShared shared.events first.interface.events
    (v.elements.values.map fun e => e.interface.events)
  /-- the elements keep their names and their order -/
  elements : List.Forall₂ (fun old new => new.1 = old.1 ∧ Element.IsPruned shared old.2 new.2)
    v.elements.entries pruned.elements.entries
  namespaceUri : pruned.namespaceUri = v.namespaceUri
  version : pruned.version = v.version

/-- Interfaces are intersected table by table. -/
theorem foldl_intersect (i : Interface) (elements : List Element) :
    elements.foldl (fun shared e => shared.intersect e.interface) i
      = ⟨i.attributes.narrow (elements.map fun e => e.interface.attributes),
          i.events.narrow (elements.map fun e => e.interface.events)⟩ := by
  induction elements generalizing i with
  | nil => rfl
  | cons e elements ih => exact ih (i.intersect e.interface)

theorem common_eq {v : Vocabulary} {first : Element} {rest : List Element}
    (h : v.elements.values = first :: rest) :
    v.common = ⟨first.interface.attributes.narrow (rest.map fun e => e.interface.attributes),
      first.interface.events.narrow (rest.map fun e => e.interface.events)⟩ := by
  rw [common, h]
  exact foldl_intersect first.interface rest

theorem isShared_attributes {v : Vocabulary} {first : Element} {rest : List Element}
    (h : v.elements.values = first :: rest) :
    Table.IsShared v.common.attributes first.interface.attributes
      (v.elements.values.map fun e => e.interface.attributes) := by
  rw [common_eq h, h, List.map_cons]
  exact Table.isShared_narrow _ _

theorem isShared_events {v : Vocabulary} {first : Element} {rest : List Element}
    (h : v.elements.values = first :: rest) :
    Table.IsShared v.common.events first.interface.events
      (v.elements.values.map fun e => e.interface.events) := by
  rw [common_eq h, h, List.map_cons]
  exact Table.isShared_narrow _ _

/-- What is left of an element can be completed from the common interface. -/
theorem isPruned_of_mem {v : Vocabulary} {e : Element} (he : e ∈ v.elements.values) :
    Element.IsPruned v.common e { e with interface := e.interface.without v.common } := by
  obtain ⟨first, rest, h⟩ := List.exists_cons_of_ne_nil (List.ne_nil_of_mem he)
  exact ⟨rfl, rfl, rfl,
    Table.isRemainder_without (isShared_attributes h) (List.mem_map_of_mem he),
    Table.isRemainder_without (isShared_events h) (List.mem_map_of_mem he)⟩

/-- A common attribute is an attribute of some element. -/
theorem exists_mem_of_common {v : Vocabulary} {name : Text} {a : Attribute}
    (h : v.common.attributes.get? name = some a) :
    ∃ e ∈ v.elements.values, e.interface.attributes.get? name = some a := by
  cases hv : v.elements.values with
  | nil =>
    rw [common, hv] at h
    cases h
  | cons first rest =>
    exact ⟨first, List.mem_cons_self, ((isShared_attributes hv).get?_iff name a).mp h |>.1⟩

/-- Extraction takes out exactly what all elements share, and loses nothing. -/
theorem extract_exact {v : Vocabulary} {first : Element} {rest : List Element}
    (h : v.elements.values = first :: rest) :
    IsExtraction first v v.extract.1 v.extract.2 where
  attributes := isShared_attributes h
  events := isShared_events h
  elements := by
    change List.Forall₂ _ _ (v.elements.entries.map _)
    rw [List.forall₂_map_right_iff, List.forall₂_same]
    exact fun e he => ⟨rfl, isPruned_of_mem (List.mem_map_of_mem he)⟩
  namespaceUri := rfl
  version := rfl

/-- An element with an attribute that may be shared, one of its own, and an event. -/
def sampleElement (own : Text) (signed : Value) : Element where
  description := []
  ref := []
  host := "HTMLElement".toList
  interface := {
    attributes := .ofList
      [("hidden".toList, ⟨[], [], .typed "boolean".toList ⟨signed, .null, .null, .null⟩ none⟩),
       (own, ⟨[], [], .literal "auto".toList false⟩)]
    events := .ofList [("click".toList, ⟨[], [], "MouseEvent".toList⟩)] }

/-- Two elements that share an attribute, although one of its options is a truth value in the first
element and a number in the second. -/
def twoElements (own : Text) : Vocabulary where
  namespaceUri := "urn:sample".toList
  version := ⟨[], []⟩
  elements := .ofList [("a".toList, sampleElement "href".toList (.bool true)),
    ("q".toList, sampleElement own (.int 1))]

/-- What the two have in common is taken out of both. -/
theorem extract_exact_twoElements :
    (twoElements "cite".toList).extract.2.attributes.names = ["hidden".toList] ∧
      IsExtraction (sampleElement "href".toList (.bool true)) (twoElements "cite".toList)
        (twoElements "cite".toList).extract.1 (twoElements "cite".toList).extract.2 :=
  ⟨rfl, extract_exact (show (twoElements "cite".toList).elements.values = _ from rfl)⟩

end Vocabulary

end DomBindings
