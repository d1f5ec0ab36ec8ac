import DomBindings.Proofs.Declarations
import DomBindings.Proofs.Extraction

/-!
# Factoring changes no interface

What the elements share is declared once, with the first element's definitions, and each element
declares only the rest. Put together in the order of their keys, the shared properties and an
element's own ones are the properties that the element would have by itself: a name is either taken
out, and then the definition that is declared for it is alike to the element's, or it is left in
place.
-/

namespace DomBindings

open Traversal

namespace Property

/-- Puts the properties of two lists together in the order of their keys. -/
def merge (ps qs : List Property) : List Property :=
  List.merge ps qs fun p q => !decide (q.key < p.key)

theorem mem_merge {ps qs : List Property} {p : Property} : p ∈ merge ps qs ↔ p ∈ ps ∨ p ∈ qs :=
  List.mem_merge

/-- Lists whose keys increase and that have no key in common are put together to such a list. -/
theorem merge_increasing {ps qs : List Property} (hp : ps.Pairwise fun p q => p.key < q.key)
    (hq : qs.Pairwise fun p q => p.key < q.key) (hne : ∀ p ∈ ps, ∀ q ∈ qs, p.key ≠ q.key) :
    (merge ps qs).Pairwise fun p q => p.key < q.key := by
  have hweak : ∀ {rs : List Property}, (rs.Pairwise fun p q => p.key < q.key) →
      rs.Pairwise fun p q => (!decide (q.key < p.key)) = true :=
    fun h => h.imp fun hlt => by simpa using List.lt_asymm hlt
  -- putting together keeps the weak order, which is strict as no key comes twice
  have hsorted : (merge ps qs).Pairwise fun p q => (!decide (q.key < p.key)) = true := by
    refine List.pairwise_merge ?_ ?_ ps qs (hweak hp) (hweak hq)
    · intro a b c hab hbc
      simp only [Bool.not_eq_true', decide_eq_false_iff_not] at hab hbc ⊢
      exact Text.not_lt_trans hab hbc
    · intro a b
      by_cases hba : b.key < a.key
      · simp [List.lt_asymm hba]
      · simp [hba]
  have hkeys : (merge ps qs).Pairwise fun p q => p.key ≠ q.key := by
    refine (List.Perm.pairwise_iff (fun h => Ne.symm h) (List.merge_perm_append _)).mpr ?_
    exact List.pairwise_append.mpr ⟨hp.imp Text.ne_of_lt, hq.imp Text.ne_of_lt, hne⟩
  refine (hsorted.and hkeys).imp ?_
  rintro p q ⟨hle, hneq⟩
  exact Text.lt_of_not_lt_of_ne (by simpa using hle) hneq

end Property

/-- The handler of one event, bound to one host and to another. -/
def Property.IsRebound (host other : Text) (p q : Property) : Prop :=
  ∃ name event, p = Property.ofEvent host name event ∧ q = Property.ofEvent other name event

theorem Interface.eventProperties_rebound (i : Interface) (host other : Text) :
    List.Forall₂ (Property.IsRebound host other) (i.eventProperties host)
      (i.eventProperties other) := by
  rw [eventProperties, eventProperties, List.forall₂_map_left_iff, List.forall₂_map_right_iff,
    List.forall₂_same]
  rintro ⟨name, event⟩ -
  exact ⟨name, event, rfl, rfl⟩

/-- The properties of a table are those of what is taken out of it and of what is left, put together
in the order of their keys: the property of a name that is taken out is made of a definition alike
to the table's, so it is the same. -/
theorem eq_merge_of_isRemainder {α : Type} [Definition α] [LawfulDefinition α]
    {own shared original : Table α} (hr : Table.IsRemainder own shared original)
    {has : Text → α → Property → Prop} {whole sharedPs ownPs : List Property}
    (hw : IsListing original has whole) (hs : IsListing shared has sharedPs)
    (ho : IsListing own has ownPs) (keyPrefix : Text)
    (hkey : ∀ name x p, has name x p → p.key = keyPrefix ++ name)
    (hlike : ∀ name x y p, Definition.alike x y = true → has name x p → has name y p) :
    whole = Property.merge sharedPs ownPs := by
  have hdisjoint : ∀ p ∈ sharedPs, ∀ q ∈ ownPs, p.key ≠ q.key := by
    intro p hp q hq hpq
    obtain ⟨name, x, hx, hxp⟩ := (hs.mem_iff p).mp hp
    obtain ⟨name', y, hy, hyq⟩ := (ho.mem_iff q).mp hq
    rw [hkey name x p hxp, hkey name' y q hyq] at hpq
    obtain rfl := List.append_cancel_left hpq
    rw [(hr.get?_own_iff.mp hy).1] at hx
    cases hx
  -- both lists increase under their keys, so the same members are enough
  refine Table.eq_of_increasing hw.increasing
    (Property.merge_increasing hs.increasing ho.increasing hdisjoint) fun p => ?_
  rw [Property.mem_merge, hw.mem_iff, hs.mem_iff, ho.mem_iff]
  constructor
  · rintro ⟨name, y, hy, hyp⟩
    rcases hr.own_or_shared hy with hown | ⟨x, hx, hxy⟩
    · exact .inr ⟨name, y, hown, hyp⟩
    · exact .inl ⟨name, x, hx, hlike name y x p (LawfulDefinition.symm hxy) hyp⟩
  · rintro (⟨name, x, hx, hxp⟩ | ⟨name, y, hy, hyp⟩)
    · obtain ⟨y, hy, hxy⟩ := hr.exists_of_shared hx
      exact ⟨name, y, hy, hlike name x y p hxy hxp⟩
    · exact ⟨name, y, (hr.get?_own_iff.mp hy).2, hyp⟩

namespace Vocabulary

/-- The interface of an element whose own part and whose shared part have properties has them. -/
theorem attributeProperties_ok_of_pruned {v : Vocabulary} {e : Element}
    (he : e ∈ v.elements.values) {sharedAs ownAs : List Property}
    (hs : v.common.attributeProperties = .ok sharedAs)
    (ho : (e.interface.without v.common).attributeProperties = .ok ownAs) :
    ∃ as, e.interface.attributeProperties = .ok as := by
  refine Interface.attributeProperties_ok_iff.mpr fun name a ha => ?_
  rcases (isPruned_of_mem he).attributes.own_or_shared ha with hown | ⟨b, hb, hba⟩
  · exact Interface.attributeProperties_ok_iff.mp ⟨ownAs, ho⟩ name a hown
  · obtain ⟨p, hp⟩ := Interface.attributeProperties_ok_iff.mp ⟨sharedAs, hs⟩ name b hb
    exact ⟨p, Property.ofAttribute_eq_of_alike hba hp⟩

/-- The properties of an element are the shared ones and its own, put together. -/
theorem properties_eq_merge {v : Vocabulary} {e : Element} (he : e ∈ v.elements.values)
    {sharedAs ownAs : List Property} (hs : v.common.attributeProperties = .ok sharedAs)
    (ho : (e.interface.without v.common).attributeProperties = .ok ownAs) (host : Text) :
    e.interface.properties host = .ok (Property.merge sharedAs ownAs ++
      Property.merge (v.common.eventProperties host)
        ((e.interface.without v.common).eventProperties host)) := by
  obtain ⟨as, has⟩ := attributeProperties_ok_of_pruned he hs ho
  have hpruned := isPruned_of_mem he
  have hattributes : as = Property.merge sharedAs ownAs :=
    eq_merge_of_isRemainder hpruned.attributes (Interface.attributeProperties_listing has)
      (Interface.attributeProperties_listing hs) (Interface.attributeProperties_listing ho) []
      (fun _ _ _ => Property.key_of_ofAttribute)
      (fun _ _ _ _ => Property.ofAttribute_eq_of_alike)
  have hevents : e.interface.eventProperties host = Property.merge _ _ :=
    eq_merge_of_isRemainder hpruned.events (Interface.eventProperties_listing e.interface host)
      (Interface.eventProperties_listing v.common host)
      (Interface.eventProperties_listing (e.interface.without v.common) host)
      Property.handlerPrefix (fun _ _ _ hp => hp ▸ rfl)
      (fun _ _ _ _ hxy hp => Event.alike_iff.mp hxy ▸ hp)
  exact Interface.properties_eq_ok_iff.mpr ⟨as, has, by rw [hattributes, hevents]⟩

/-- The declarations of a module say of each element what the element says itself. The properties
that the elements share, `sharedAs` for the attributes, are declared once, and each element has
further ones. -/
structure IsFactored (v : Vocabulary) (d : Declarations) (sharedAs : List Property) : Prop where
  /-- the shared type has the properties of the common interface, bound to a parameter -/
  shared : d.shared = sharedAs ++ v.extract.2.eventProperties Declarations.hostParameter
  /-- and is declared -/
  declared : InterfaceBody.declarationLines Declarations.sharedOpening d.shared ∈ d.sections
  /-- with a host in place of the parameter they are those of the common interface -/
  common : ∀ host, v.extract.2.properties host = .ok (sharedAs ++ v.extract.2.eventProperties host)
  /-- where nothing but the host of the handlers is different -/
  rebound : ∀ host, List.Forall₂ (Property.IsRebound Declarations.hostParameter host)
    (v.extract.2.eventProperties Declarations.hostParameter) (v.extract.2.eventProperties host)
  /-- put together with what is left of an element, they are the properties that the element has
  before anything is taken out of it -/
  elements : ∀ name e, v.elements.get? name = some e → ∃ own ownAs,
    v.extract.1.elements.get? name = some own ∧
    own.interface.properties e.host = .ok (ownAs ++ own.interface.eventProperties e.host) ∧
    e.interface.properties e.host = .ok (Property.merge sharedAs ownAs ++
      Property.merge (v.extract.2.eventProperties e.host) (own.interface.eventProperties e.host))

/-- Where a module can be generated, factoring out what the elements share has changed no element's
properties, although the shared ones are made of the first element's definitions. -/
theorem factored_properties {v : Vocabulary} {lines : List Text}
    (h : declarationLines v.extract.1 v.extract.2 = .ok lines) :
    ∃ d sharedAs, Declarations.ofVocabulary v.extract.1 v.extract.2 = .ok d ∧ d.lines = lines ∧
      IsFactored v d sharedAs := by
  rw [declarationLines] at h
  cases hd : Declarations.ofVocabulary v.extract.1 v.extract.2 with
  | error err =>
    rw [hd] at h
    cases h
  | ok d =>
    rw [hd] at h
    obtain ⟨sharedAs, hs, hshared⟩ :=
      Interface.properties_eq_ok_iff.mp (Declarations.shared_of_ofVocabulary hd)
    refine ⟨d, sharedAs, rfl, Except.ok.inj h, ?_⟩
    exact {
      shared := hshared
      declared := by simp [Declarations.sections]
      common := fun host => Interface.properties_eq_ok_iff.mpr ⟨sharedAs, hs, rfl⟩
      rebound := fun host => v.common.eventProperties_rebound _ host
      elements := by
        intro name e he
        have hown : v.extract.1.elements.get? name
            = some { e with interface := e.interface.without v.common } := by
          rw [extract, prune, Table.get?_map, he]
          rfl
        obtain ⟨ownAs, ho⟩ := Declarations.attributeProperties_of_ofVocabulary hd
          (Table.get?_eq_some_iff.mp hown)
        have hvalue : e ∈ v.elements.values :=
          List.mem_map_of_mem (Table.get?_eq_some_iff.mp he)
        exact ⟨_, ownAs, hown, Interface.properties_eq_ok_iff.mpr ⟨ownAs, ho, rfl⟩,
          properties_eq_merge hvalue hs ho e.host⟩ }

/-- Two elements that share an attribute have their properties back. -/
theorem factored_properties_twoElements :
    ∃ lines, declarationLines (twoElements "cite".toList).extract.1
        (twoElements "cite".toList).extract.2 = .ok lines ∧
      ∃ d sharedAs, Declarations.ofVocabulary (twoElements "cite".toList).extract.1
          (twoElements "cite".toList).extract.2 = .ok d ∧
        d.lines = lines ∧ IsFactored (twoElements "cite".toList) d sharedAs :=
  ⟨_, rfl, factored_properties rfl⟩

end Vocabulary

end DomBindings
