import DomBindings.Proofs.Acceptance
import DomBindings.Proofs.ModuleParts
import Mathlib.Data.List.Perm.Basic

/-!
# The order of the source does not show

Tables keep the order in which a vocabulary was written, but what is generated goes by names. Two
vocabularies with the same entries in the tables of their elements have the same module or the same
error (`declarationLines_eq_of_isReordered`): every step of the extraction keeps the entries the
same, and the properties of a table are taken in the order of the names.

When the elements themselves change places, the extraction starts from another element and the
common interface has that element's definitions. They are alike to the others', so the names that
are taken out are the same, what is left of an element is the same, and the shared properties are
the same; the module consists of the same parts in another order (`IsPermuted.parts`).
-/

namespace DomBindings

open Traversal

/-! ### Tables with the same entries -/

namespace Table

variable {α β : Type}

theorem get?_eq_of_perm {s t : Table α} (h : s.entries.Perm t.entries) (name : Text) :
    s.get? name = t.get? name := by
  apply Option.ext
  intro x
  rw [get?_eq_some_iff, get?_eq_some_iff, h.mem_iff]

/-- The order of the names does not depend on the order of the entries. -/
theorem byName_eq_of_perm {s t : Table α} (h : s.entries.Perm t.entries) :
    s.byName = t.byName :=
  eq_of_increasing s.byName_increasing t.byName_increasing fun _ => by
    rw [mem_byName, mem_byName, h.mem_iff]

theorem isEmpty_eq_of_perm {s t : Table α} (h : s.entries.Perm t.entries) :
    s.isEmpty = t.isEmpty := by
  rw [isEmpty, isEmpty, Bool.eq_iff_iff, List.isEmpty_iff, List.isEmpty_iff]
  exact ⟨fun hs => (hs ▸ h).nil_eq.symm, fun ht => (ht ▸ h).eq_nil⟩

theorem intersect_perm [Definition α] {s s' t t' : Table α} (hs : s.entries.Perm s'.entries)
    (ht : t.entries.Perm t'.entries) :
    (s.intersect t).entries.Perm (s'.intersect t').entries := by
  have hget : t.get? = t'.get? := funext (get?_eq_of_perm ht)
  rw [intersect, intersect, hget]
  exact hs.filter _

theorem without_perm {s s' : Table α} {t t' : Table β} (hs : s.entries.Perm s'.entries)
    (ht : ∀ name, t.contains name = t'.contains name) :
    (s.without t).entries.Perm (s'.without t').entries := by
  have hcontains : t.contains = t'.contains := funext ht
  rw [without, without, hcontains]
  exact hs.filter _

/-- The entries of a table in the opposite order. -/
def reverse (t : Table α) : Table α :=
  ⟨t.entries.reverse, by rw [List.map_reverse, List.nodup_reverse]; exact t.nodup⟩

end Table

/-- Interfaces with the same attributes and events, in whatever order. -/
structure Interface.IsReordered (i j : Interface) : Prop where
  attributes : i.attributes.entries.Perm j.attributes.entries
  events : i.events.entries.Perm j.events.entries

/-- Elements that differ in the order of their attributes and events only. -/
structure Element.IsReordered (e e' : Element) : Prop where
  description : e.description = e'.description
  ref : e.ref = e'.ref
  host : e.host = e'.host
  interface : e.interface.IsReordered e'.interface

/-- Vocabularies that differ in the order of the attributes and events of their elements only. -/
structure Vocabulary.IsReordered (v w : Vocabulary) : Prop where
  namespaceUri : v.namespaceUri = w.namespaceUri
  version : v.version = w.version
  elements : List.Forall₂ (fun a b => a.1 = b.1 ∧ a.2.IsReordered b.2)
    v.elements.entries w.elements.entries

namespace Interface.IsReordered

theorem refl (i : Interface) : i.IsReordered i :=
  ⟨.refl _, .refl _⟩

theorem intersect {i i' j j' : Interface} (h : i.IsReordered i') (k : j.IsReordered j') :
    (i.intersect j).IsReordered (i'.intersect j') :=
  ⟨Table.intersect_perm h.attributes k.attributes, Table.intersect_perm h.events k.events⟩

theorem without {i i' j j' : Interface} (h : i.IsReordered i') (k : j.IsReordered j') :
    (i.without j).IsReordered (i'.without j') where
  attributes := Table.without_perm h.attributes fun name => by
    rw [Table.contains, Table.contains, Table.get?_eq_of_perm k.attributes]
  events := Table.without_perm h.events fun name => by
    rw [Table.contains, Table.contains, Table.get?_eq_of_perm k.events]

/-- The properties of an interface are the same in whatever order its tables are, and so is what is
wrong with it. -/
theorem properties_eq {i j : Interface} (h : i.IsReordered j) (host : Text) :
    i.properties host = j.properties host := by
  rw [properties, properties, attributeProperties, attributeProperties, eventProperties,
    eventProperties, Table.byName_eq_of_perm h.attributes, Table.byName_eq_of_perm h.events]

end Interface.IsReordered

theorem Element.IsReordered.hasOwn_eq {e e' : Element} (h : e.IsReordered e') :
    e.hasOwn = e'.hasOwn := by
  rw [hasOwn, hasOwn, Interface.isEmpty, Interface.isEmpty,
    Table.isEmpty_eq_of_perm h.interface.attributes, Table.isEmpty_eq_of_perm h.interface.events]

namespace Declarations

theorem ownTypes_eq_of_isReordered {entries entries' : List (Text × Element)}
    (h : List.Forall₂ (fun a b => a.1 = b.1 ∧ a.2.IsReordered b.2) entries entries') :
    ownTypes entries = ownTypes entries' := by
  induction h with
  | nil => rfl
  | @cons a b entries entries' hab _ ih =>
    obtain ⟨name, e⟩ := a
    obtain ⟨name', e'⟩ := b
    obtain ⟨rfl, he⟩ := hab
    rw [ownTypes, ownTypes, he.hasOwn_eq, he.host, he.interface.properties_eq, ih]

/-- A module depends on the entries of the tables only. -/
theorem ofVocabulary_eq_of_isReordered {v w : Vocabulary} {i j : Interface}
    (h : v.IsReordered w) (k : i.IsReordered j) : ofVocabulary v i = ofVocabulary w j := by
  have hnames : w.elements.names = v.elements.names :=
    map_eq_of_forall₂ (fun _ _ hab => hab.1.symm) h.elements
  have hattributes : w.elements.entries.map (fun e => (e.1, attributesType e.1 e.2))
      = v.elements.entries.map fun e => (e.1, attributesType e.1 e.2) :=
    map_eq_of_forall₂ (fun _ _ hab => by
      rw [attributesType, attributesType, hab.1, hab.2.hasOwn_eq, hab.2.host]) h.elements
  have hinterfaces : w.elements.entries.map (fun e => (e.1, e.2.host))
      = v.elements.entries.map fun e => (e.1, e.2.host) :=
    map_eq_of_forall₂ (fun _ _ hab => by rw [hab.1, hab.2.host]) h.elements
  have hfactories : w.elements.entries.map
        (fun e => Factory.mk e.1 (Identifier.factory e.1) e.2.description e.2.ref)
      = v.elements.entries.map
        fun e => Factory.mk e.1 (Identifier.factory e.1) e.2.description e.2.ref :=
    map_eq_of_forall₂ (fun _ _ hab => by rw [hab.1, hab.2.description, hab.2.ref]) h.elements
  rw [ofVocabulary, ofVocabulary, hnames, k.properties_eq, ownTypes_eq_of_isReordered h.elements,
    h.namespaceUri, hattributes, hinterfaces, hfactories]

end Declarations

namespace Vocabulary

/-- The first of two lists of elements that differ in the order of their tables is narrowed as the
second is. -/
theorem foldl_intersect_isReordered {es es' : List Element}
    (h : List.Forall₂ Element.IsReordered es es') {i j : Interface} (hij : i.IsReordered j) :
    (es.foldl (fun shared e => shared.intersect e.interface) i).IsReordered
      (es'.foldl (fun shared e => shared.intersect e.interface) j) := by
  induction h generalizing i j with
  | nil => exact hij
  | cons he _ ih => exact ih (hij.intersect he.interface)

namespace IsReordered

variable {v w : Vocabulary}

theorem common (h : v.IsReordered w) : v.common.IsReordered w.common := by
  have hvalues : List.Forall₂ Element.IsReordered v.elements.values w.elements.values := by
    rw [Table.values, Table.values, List.forall₂_map_left_iff, List.forall₂_map_right_iff]
    exact h.elements.imp fun _ _ hab => hab.2
  rw [Vocabulary.common, Vocabulary.common]
  generalize v.elements.values = es at hvalues
  generalize w.elements.values = es' at hvalues
  cases hvalues with
  | nil => exact .refl _
  | cons he hrest => exact foldl_intersect_isReordered hrest he.interface

theorem pruned (h : v.IsReordered w) : v.extract.1.IsReordered w.extract.1 where
  namespaceUri := h.namespaceUri
  version := h.version
  elements := by
    change List.Forall₂ _ (v.elements.entries.map _) (w.elements.entries.map _)
    rw [List.forall₂_map_left_iff, List.forall₂_map_right_iff]
    refine h.elements.imp fun a b hab => ⟨hab.1, ?_⟩
    exact ⟨hab.2.description, hab.2.ref, hab.2.host, hab.2.interface.without h.common⟩

end IsReordered

/-- The order of attributes and events inside the elements has no influence on the module, nor on
what is reported where there is none. -/
theorem declarationLines_eq_of_isReordered {v w : Vocabulary} (h : v.IsReordered w) :
    declarationLines w.extract.1 w.extract.2 = declarationLines v.extract.1 v.extract.2 :=
  congrArg (Declarations.lines <$> ·)
    (Declarations.ofVocabulary_eq_of_isReordered h.pruned h.common).symm

end Vocabulary

/-! ### Elements in other places -/

namespace Table

variable {α : Type} [Definition α]

/-- Tables that bind the same names to definitions that are alike. -/
def IsAlike (s t : Table α) : Prop :=
  ∀ name, Option.Rel (fun x y => Definition.alike x y = true) (s.get? name) (t.get? name)

namespace IsAlike

variable {s t : Table α}

theorem exists_right (h : s.IsAlike t) {name : Text} {x : α} (hx : s.get? name = some x) :
    ∃ y, t.get? name = some y ∧ Definition.alike x y = true := by
  have hrel := h name
  rw [hx] at hrel
  generalize t.get? name = y at hrel
  cases hrel with
  | some hxy => exact ⟨_, rfl, hxy⟩

theorem contains_eq (h : s.IsAlike t) (name : Text) : s.contains name = t.contains name := by
  have hrel := h name
  rw [contains, contains]
  generalize s.get? name = x at hrel
  generalize t.get? name = y at hrel
  cases hrel <;> rfl

variable [LawfulDefinition α]

theorem refl (s : Table α) : s.IsAlike s := by
  intro name
  cases s.get? name with
  | none => exact .none
  | some x => exact .some (LawfulDefinition.refl x)

theorem symm (h : s.IsAlike t) : t.IsAlike s := by
  intro name
  have hrel := h name
  generalize s.get? name = x at hrel
  generalize t.get? name = y at hrel
  cases hrel with
  | none => exact .none
  | some hxy => exact .some (LawfulDefinition.symm hxy)

end IsAlike

variable [LawfulDefinition α]

/-- What tables share in the form of one of them, they share in the form of any other. -/
theorem exists_shared {shared shared' first first' : Table α} {all all' : List (Table α)}
    (h : IsShared shared first all) (h' : IsShared shared' first' all') (hfirst : first' ∈ all')
    (hall : ∀ t, t ∈ all ↔ t ∈ all') {name : Text} {x : α} (hx : shared.get? name = some x) :
    ∃ y, shared'.get? name = some y ∧ Definition.alike x y = true := by
  have hdefines := ((h.get?_iff name x).mp hx).2
  obtain ⟨y, hy, hyx⟩ := hdefines first' ((hall first').mpr hfirst)
  refine ⟨y, (h'.get?_iff name y).mpr ⟨hy, fun t ht => ?_⟩, LawfulDefinition.symm hyx⟩
  obtain ⟨z, hz, hzx⟩ := hdefines t ((hall t).mpr ht)
  exact ⟨z, hz, LawfulDefinition.trans hzx (LawfulDefinition.symm hyx)⟩

/-- So it does not matter in whose form what is shared is kept. -/
theorem isAlike_of_isShared {shared shared' first first' : Table α} {all all' : List (Table α)}
    (h : IsShared shared first all) (h' : IsShared shared' first' all') (hfirst : first ∈ all)
    (hfirst' : first' ∈ all') (hall : ∀ t, t ∈ all ↔ t ∈ all') : shared.IsAlike shared' := by
  intro name
  cases hx : shared.get? name with
  | some x =>
    obtain ⟨y, hy, hxy⟩ := exists_shared h h' hfirst' hall hx
    rw [hy]
    exact .some hxy
  | none =>
    cases hy : shared'.get? name with
    | none => exact .none
    | some y =>
      obtain ⟨x, hx', -⟩ := exists_shared h' h hfirst (fun t => (hall t).symm) hy
      rw [hx] at hx'
      cases hx'

end Table

/-- Tables that are alike have the same listing, if definitions that are alike have the same
property. -/
theorem IsListing.eq_of_isAlike {α : Type} [Definition α] [LawfulDefinition α] {s t : Table α}
    {has : Text → α → Property → Prop} {ps qs : List Property} (hs : IsListing s has ps)
    (ht : IsListing t has qs) (h : s.IsAlike t)
    (hlike : ∀ name x y p, Definition.alike x y = true → has name x p → has name y p) :
    ps = qs := by
  refine Table.eq_of_increasing hs.increasing ht.increasing fun p => ?_
  rw [hs.mem_iff, ht.mem_iff]
  constructor
  · rintro ⟨name, x, hx, hp⟩
    obtain ⟨y, hy, hxy⟩ := h.exists_right hx
    exact ⟨name, y, hy, hlike name x y p hxy hp⟩
  · rintro ⟨name, y, hy, hp⟩
    obtain ⟨x, hx, hyx⟩ := h.symm.exists_right hy
    exact ⟨name, x, hx, hlike name y x p hyx hp⟩

/-- Interfaces with definitions that are alike have the same properties. -/
theorem Interface.properties_eq_of_isAlike {i j : Interface} {host : Text} {ps qs : List Property}
    (ha : i.attributes.IsAlike j.attributes) (he : i.events.IsAlike j.events)
    (hi : i.properties host = .ok ps) (hj : j.properties host = .ok qs) : ps = qs := by
  obtain ⟨as, has, rfl⟩ := properties_eq_ok_iff.mp hi
  obtain ⟨bs, hbs, rfl⟩ := properties_eq_ok_iff.mp hj
  have hattributes : as = bs :=
    (attributeProperties_listing has).eq_of_isAlike (attributeProperties_listing hbs) ha
      fun _ _ _ _ => Property.ofAttribute_eq_of_alike
  have hevents : i.eventProperties host = j.eventProperties host :=
    (eventProperties_listing i host).eq_of_isAlike (eventProperties_listing j host) he
      fun _ _ _ _ hxy hp => Event.alike_iff.mp hxy ▸ hp
  rw [hattributes, hevents]

namespace Vocabulary

/-- Vocabularies with the same elements in different places. -/
structure IsPermuted (v w : Vocabulary) : Prop where
  namespaceUri : v.namespaceUri = w.namespaceUri
  version : v.version = w.version
  elements : v.elements.entries.Perm w.elements.entries

namespace IsPermuted

variable {v w : Vocabulary}

theorem symm (h : v.IsPermuted w) : w.IsPermuted v :=
  ⟨h.namespaceUri.symm, h.version.symm, h.elements.symm⟩

theorem values (h : v.IsPermuted w) : v.elements.values.Perm w.elements.values :=
  h.elements.map Prod.snd

theorem names (h : v.IsPermuted w) : v.elements.names.Perm w.elements.names :=
  h.elements.map Prod.fst

/-- The common interface has the definitions of another first element, which are alike. -/
theorem common_isAlike (h : v.IsPermuted w) : v.common.attributes.IsAlike w.common.attributes ∧
    v.common.events.IsAlike w.common.events := by
  cases hv : v.elements.values with
  | nil =>
    -- there is nothing in common in both
    have hw : w.elements.values = [] := (hv ▸ h.values).nil_eq.symm
    rw [common, common, hv, hw]
    exact ⟨.refl _, .refl _⟩
  | cons first rest =>
    obtain ⟨first', rest', hw⟩ : ∃ first' rest', w.elements.values = first' :: rest' :=
      List.exists_cons_of_ne_nil fun hw =>
        List.cons_ne_nil first rest (hv.symm.trans (hw ▸ h.values).eq_nil)
    have hfirst : first ∈ v.elements.values := hv ▸ List.mem_cons_self
    have hfirst' : first' ∈ w.elements.values := hw ▸ List.mem_cons_self
    exact ⟨Table.isAlike_of_isShared (isShared_attributes hv) (isShared_attributes hw)
        (List.mem_map_of_mem hfirst) (List.mem_map_of_mem hfirst')
        fun _ => (h.values.map _).mem_iff,
      Table.isAlike_of_isShared (isShared_events hv) (isShared_events hw)
        (List.mem_map_of_mem hfirst) (List.mem_map_of_mem hfirst')
        fun _ => (h.values.map _).mem_iff⟩

/-- The same names are taken out, so the same is left of each element. -/
theorem pruned (h : v.IsPermuted w) : v.extract.1.IsPermuted w.extract.1 where
  namespaceUri := h.namespaceUri
  version := h.version
  elements := by
    obtain ⟨ha, he⟩ := h.common_isAlike
    have hwithout (i : Interface) : i.without w.common = i.without v.common := by
      have hattributes : w.common.attributes.contains = v.common.attributes.contains :=
        funext fun name => (ha.contains_eq name).symm
      have hevents : w.common.events.contains = v.common.events.contains :=
        funext fun name => (he.contains_eq name).symm
      rw [Interface.without, Interface.without, Table.without, Table.without, Table.without,
        Table.without, hattributes, hevents]
    change (v.elements.entries.map _).Perm (w.elements.entries.map _)
    simp only [hwithout]
    exact h.elements.map _

theorem hasClash_iff (h : v.IsPermuted w) : v.HasClash ↔ w.HasClash := by
  simp only [HasClash, h.names.mem_iff]

theorem hasReservedName_iff (h : v.IsPermuted w) : v.HasReservedName ↔ w.HasReservedName := by
  simp only [HasReservedName, h.values.mem_iff]

theorem hasRefusedValues_iff (h : v.IsPermuted w) :
    v.HasRefusedValues ↔ w.HasRefusedValues := by
  simp only [HasRefusedValues, h.values.mem_iff]

/-- What is wrong with a vocabulary is wrong with it in any order, so a module can be generated in
all orders or in none. -/
theorem succeeds_iff (h : v.IsPermuted w) :
    (∃ lines, declarationLines v.extract.1 v.extract.2 = .ok lines) ↔
      ∃ lines, declarationLines w.extract.1 w.extract.2 = .ok lines := by
  rw [← fault?_eq_none_iff, ← fault?_eq_none_iff, fault?_declarationLines,
    fault?_declarationLines, Option.or_eq_none_iff, Option.or_eq_none_iff]
  simp only [← Option.not_isSome_iff_eq_none, exists_offence_iff, isSome_fault?_iff,
    exists_clash_iff, h.hasClash_iff, h.hasReservedName_iff, h.hasRefusedValues_iff]

/-- The parts of the module are the same, and stand where their elements do. -/
theorem parts (h : v.IsPermuted w) {d : Declarations}
    (hd : Declarations.ofVocabulary v.extract.1 v.extract.2 = .ok d) :
    ∃ shared ps qs, List.Forall₂ (fun e p => p.IsOf e.1 e.2) v.extract.1.elements.entries ps ∧
      List.Forall₂ (fun e p => p.IsOf e.1 e.2) w.extract.1.elements.entries qs ∧ ps.Perm qs ∧
      d = .ofParts v.namespaceUri shared ps ∧
      Declarations.ofVocabulary w.extract.1 w.extract.2
        = .ok (.ofParts v.namespaceUri shared qs) := by
  obtain ⟨hnames, shared, ps, hshared, hps, rfl⟩ := Declarations.ofVocabulary_eq_ok_iff.mp hd
  obtain ⟨qs, hqs, hperm⟩ := List.perm_comp_forall₂ h.pruned.elements.symm hps
  -- the shared properties exist in the other order too, since a module does
  obtain ⟨_, hlines⟩ := h.succeeds_iff.mp ⟨_, congrArg (Declarations.lines <$> ·) hd⟩
  obtain ⟨d', hd'⟩ : ∃ d', Declarations.ofVocabulary w.extract.1 w.extract.2 = .ok d' := by
    rw [← fault?_eq_none_iff, ← fault?_map Declarations.lines]
    exact fault?_eq_none_iff.mpr ⟨_, hlines⟩
  have hshared' := Declarations.shared_of_ofVocabulary hd'
  obtain rfl : shared = d'.shared :=
    Interface.properties_eq_of_isAlike h.common_isAlike.1 h.common_isAlike.2 hshared hshared'
  refine ⟨_, ps, qs, hps, hqs, hperm.symm, rfl, Declarations.ofVocabulary_eq_ok_iff.mpr ?_⟩
  refine ⟨?_, _, qs, hshared', hqs, by rw [h.pruned.namespaceUri.symm]; rfl⟩
  exact (h.pruned.names.map Identifier.factory).nodup_iff.mp hnames

end IsPermuted

/-- What is extracted and generated from a vocabulary and from one with the same elements in
different places. -/
structure AgreesUpToPlaces (v w : Vocabulary) : Prop where
  /-- the same attributes and events are common to all elements, with equal definitions, -/
  commonAttributes : v.extract.2.attributes.IsAlike w.extract.2.attributes
  commonEvents : v.extract.2.events.IsAlike w.extract.2.events
  /-- the same is left of each element, -/
  own : ∀ name, v.extract.1.elements.get? name = w.extract.1.elements.get? name
  /-- a module can be generated from both or from neither, -/
  succeeds_iff : (∃ lines, declarationLines v.extract.1 v.extract.2 = .ok lines) ↔
    ∃ lines, declarationLines w.extract.1 w.extract.2 = .ok lines
  /-- and it has the same shared properties and the same parts, which stand where the elements do
  that they are of -/
  parts : ∀ lines, declarationLines v.extract.1 v.extract.2 = .ok lines → ∃ shared ps qs,
    List.Forall₂ (fun e p => p.IsOf e.1 e.2) v.extract.1.elements.entries ps ∧
    List.Forall₂ (fun e p => p.IsOf e.1 e.2) w.extract.1.elements.entries qs ∧ ps.Perm qs ∧
    lines = (Declarations.ofParts v.namespaceUri shared ps).lines ∧
    declarationLines w.extract.1 w.extract.2
      = .ok (Declarations.ofParts v.namespaceUri shared qs).lines

/-- The order in which a vocabulary was written has no influence on what is generated, except that
the parts of a module stand in the order of the elements. -/
theorem generation_orderIndependent (v : Vocabulary) :
    (∀ w, v.IsReordered w →
      declarationLines w.extract.1 w.extract.2 = declarationLines v.extract.1 v.extract.2) ∧
    ∀ w, v.IsPermuted w → v.AgreesUpToPlaces w := by
  refine ⟨fun w h => declarationLines_eq_of_isReordered h, fun w h => ?_⟩
  exact {
    commonAttributes := h.common_isAlike.1
    commonEvents := h.common_isAlike.2
    own := Table.get?_eq_of_perm h.pruned.elements
    succeeds_iff := h.succeeds_iff
    parts := by
      intro lines hlines
      rw [declarationLines] at hlines
      cases hd : Declarations.ofVocabulary v.extract.1 v.extract.2 with
      | error err =>
        rw [hd] at hlines
        cases hlines
      | ok d =>
        rw [hd] at hlines
        obtain rfl := Except.ok.inj hlines
        obtain ⟨shared, ps, qs, hps, hqs, hperm, rfl, hw⟩ := h.parts hd
        exact ⟨shared, ps, qs, hps, hqs, hperm, rfl,
          congrArg (Declarations.lines <$> ·) hw⟩ }

/-- The vocabulary with its elements in the opposite order. -/
def turned (v : Vocabulary) : Vocabulary :=
  { v with elements := v.elements.reverse }

/-- The vocabulary with the attributes and events of each element in the opposite order. -/
def turnedInside (v : Vocabulary) : Vocabulary :=
  { v with elements := v.elements.map fun e =>
      { e with interface := ⟨e.interface.attributes.reverse, e.interface.events.reverse⟩ } }

theorem isPermuted_turned (v : Vocabulary) : v.IsPermuted v.turned :=
  ⟨rfl, rfl, (List.reverse_perm _).symm⟩

theorem isReordered_turnedInside (v : Vocabulary) : v.IsReordered v.turnedInside where
  namespaceUri := rfl
  version := rfl
  elements := by
    rw [turnedInside, Table.map, List.forall₂_map_right_iff, List.forall₂_same]
    exact fun e _ => ⟨rfl, rfl, rfl, rfl, (List.reverse_perm _).symm, (List.reverse_perm _).symm⟩

/-- Two elements that share an attribute in different forms may change places, and so may the
attributes in them. -/
theorem generation_orderIndependent_twoElements :
    (twoElements "cite".toList).IsReordered (twoElements "cite".toList).turnedInside ∧
      declarationLines (twoElements "cite".toList).turnedInside.extract.1
          (twoElements "cite".toList).turnedInside.extract.2
        = declarationLines (twoElements "cite".toList).extract.1
          (twoElements "cite".toList).extract.2 ∧
      (twoElements "cite".toList).IsPermuted (twoElements "cite".toList).turned ∧
      (twoElements "cite".toList).AgreesUpToPlaces (twoElements "cite".toList).turned :=
  ⟨isReordered_turnedInside _,
    (generation_orderIndependent _).1 _ (isReordered_turnedInside _), isPermuted_turned _,
    (generation_orderIndependent _).2 _ (isPermuted_turned _)⟩

end Vocabulary

end DomBindings
