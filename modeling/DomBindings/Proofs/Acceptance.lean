import DomBindings.Proofs.Declarations
import DomBindings.Proofs.Extraction
import DomBindings.Proofs.SpecReading

/-!
# Which vocabularies are accepted

The attributes are looked at where they are written: a shared one is looked at once, in the first
element's form, and the others in what is left of their elements. Still nothing escapes, and nothing
is refused without need. An attribute is left in place or a definition alike to it is shared, and
definitions that are alike are both at fault or neither (`exists_offence_iff`). What is wrong first
is what is reported (`fault?_declarationLines`).
-/

namespace DomBindings

open Traversal

/-! ### What is wrong with an attribute -/

/-- What is wrong with an attribute: its name is that of a handler, or else its values are
refused. -/
def Attribute.offence? (name : Text) (a : Attribute) : Option SchemaError :=
  if Property.handlerPrefix.isPrefixOf name then some (.reservedName name)
  else fault? a.values.typeText

theorem Property.fault?_ofAttribute (name : Text) (a : Attribute) :
    fault? (ofAttribute name a) = a.offence? name := by
  rw [ofAttribute, Attribute.offence?]
  split
  · rfl
  · cases a.values.typeText <;> rfl

/-- Attributes that are alike are both at fault or neither. -/
theorem Attribute.isSome_offence?_eq_of_alike {name : Text} {a b : Attribute}
    (h : Definition.alike a b = true) : (a.offence? name).isSome = (b.offence? name).isSome := by
  rw [offence?, offence?]
  split
  · rfl
  · exact ValueSpec.isSome_fault?_typeText_eq_of_alike (Attribute.alike_iff.mp h).2.2

theorem findSome?_flatMap {α β γ : Type} (f : α → List β) (g : β → Option γ) (xs : List α) :
    (xs.flatMap f).findSome? g = xs.findSome? fun x => (f x).findSome? g := by
  induction xs with
  | nil => rfl
  | cons x xs ih =>
    rw [List.flatMap_cons, List.findSome?_append, List.findSome?_cons, ih]
    cases (f x).findSome? g <;> rfl

namespace Vocabulary

/-- The attributes in the order in which they are looked at: those that are shared by their names,
and then for each element in turn those that are left by theirs. -/
def checkOrder (v : Vocabulary) : List (Text × Attribute) :=
  v.extract.2.attributes.byName ++
    v.extract.1.elements.entries.flatMap fun e => e.2.interface.attributes.byName

/-- Every specification in a vocabulary was read from a loaded value. -/
def IsRead (v : Vocabulary) : Prop :=
  ∀ e ∈ v.elements.values, ∀ a ∈ e.interface.attributes.values,
    ∃ raw, ValueSpec.ofValue raw = .ok a.values

/-- Two elements have one identifier. -/
def HasClash (v : Vocabulary) : Prop :=
  ∃ first ∈ v.elements.names, ∃ second ∈ v.elements.names,
    first ≠ second ∧ Identifier.factory first = Identifier.factory second

/-- Some attribute has the name of a handler. -/
def HasReservedName (v : Vocabulary) : Prop :=
  ∃ e ∈ v.elements.values, ∃ name ∈ e.interface.attributes.names,
    Property.handlerPrefix.isPrefixOf name = true

/-- The values of some attribute are refused. -/
def HasRefusedValues (v : Vocabulary) : Prop :=
  ∃ e ∈ v.elements.values, ∃ a ∈ e.interface.attributes.values, ∃ err,
    a.values.typeText = .error err

/-- A module fails with a clash, or else with the first attribute at fault. -/
theorem fault?_declarationLines (v : Vocabulary) :
    fault? (declarationLines v.extract.1 v.extract.2)
      = (fault? (Declarations.findClash [] v.elements.names)).or
        (v.checkOrder.findSome? fun e => e.2.offence? e.1) := by
  have hnames : v.extract.1.elements.names = v.elements.names := Table.names_map _ _
  have hproperties (i : Interface) : fault? i.attributeProperties
      = i.attributes.byName.findSome? fun e => e.2.offence? e.1 := by
    rw [Interface.attributeProperties, fault?_mapM]
    exact congrArg (List.findSome? · _) (funext fun e => Property.fault?_ofAttribute e.1 e.2)
  rw [declarationLines, fault?_map, Declarations.fault?_ofVocabulary, hnames, checkOrder,
    List.findSome?_append, findSome?_flatMap]
  simp only [hproperties]

/-! ### Nothing escapes, and nothing is refused without need -/

/-- An attribute that is looked at is an attribute of some element. -/
theorem exists_element_of_mem_checkOrder {v : Vocabulary} {name : Text} {a : Attribute}
    (h : (name, a) ∈ v.checkOrder) :
    ∃ e ∈ v.elements.values, (name, a) ∈ e.interface.attributes.entries := by
  rw [checkOrder, List.mem_append, List.mem_flatMap] at h
  rcases h with hshared | ⟨⟨n, own⟩, hown, ha⟩
  · rw [Table.mem_byName, ← Table.get?_eq_some_iff] at hshared
    obtain ⟨e, he, ha⟩ := exists_mem_of_common hshared
    exact ⟨e, he, Table.get?_eq_some_iff.mp ha⟩
  · obtain ⟨⟨n', e⟩, he, heq⟩ := List.mem_map.mp hown
    obtain ⟨rfl, rfl⟩ := Prod.mk.inj heq
    have hvalue : e ∈ v.elements.values := List.mem_map_of_mem he
    rw [Table.mem_byName] at ha
    exact ⟨e, hvalue, (isPruned_of_mem hvalue).attributes.order.subset ha⟩

/-- An attribute of an element is looked at, or one alike to it is. -/
theorem exists_alike_mem_checkOrder {v : Vocabulary} {e : Element} {name : Text} {a : Attribute}
    (he : e ∈ v.elements.values) (ha : (name, a) ∈ e.interface.attributes.entries) :
    ∃ b, (name, b) ∈ v.checkOrder ∧ Definition.alike b a = true := by
  simp only [checkOrder, List.mem_append, List.mem_flatMap]
  rcases (isPruned_of_mem he).attributes.own_or_shared (Table.get?_eq_some_iff.mpr ha) with
    hown | ⟨b, hb, hba⟩
  · obtain ⟨⟨n, e'⟩, hentry, rfl⟩ := List.mem_map.mp he
    refine ⟨a, .inr ⟨_, List.mem_map_of_mem hentry, ?_⟩, LawfulDefinition.refl a⟩
    exact Table.mem_byName.mpr (Table.get?_eq_some_iff.mp hown)
  · exact ⟨b, .inl (Table.mem_byName.mpr (Table.get?_eq_some_iff.mp hb)), hba⟩

/-- Something that is looked at is at fault exactly when some attribute has a name or values that
are refused. -/
theorem exists_offence_iff {v : Vocabulary} :
    ((v.checkOrder.findSome? fun e => e.2.offence? e.1).isSome = true) ↔
      v.HasReservedName ∨ v.HasRefusedValues := by
  rw [List.findSome?_isSome_iff]
  constructor
  · rintro ⟨⟨name, a⟩, hmem, hfault⟩
    -- what is looked at is an attribute of some element
    obtain ⟨e, he, ha⟩ := exists_element_of_mem_checkOrder hmem
    rw [Attribute.offence?] at hfault
    split at hfault
    · next hname => exact .inl ⟨e, he, name, Table.mem_names_iff.mpr ⟨a, ha⟩, hname⟩
    · exact .inr ⟨e, he, a, List.mem_map_of_mem ha, isSome_fault?_iff.mp hfault⟩
  · intro h
    obtain ⟨e, he, name, a, ha, hfault⟩ : ∃ e ∈ v.elements.values, ∃ name a,
        (name, a) ∈ e.interface.attributes.entries ∧ (a.offence? name).isSome = true := by
      rcases h with ⟨e, he, name, hname, hreserved⟩ | ⟨e, he, a, ha, hrefused⟩
      · obtain ⟨a, ha⟩ := Table.mem_names_iff.mp hname
        exact ⟨e, he, name, a, ha, by simp [Attribute.offence?, hreserved]⟩
      · obtain ⟨⟨name, _⟩, hentry, rfl⟩ := List.mem_map.mp ha
        refine ⟨e, he, name, _, hentry, ?_⟩
        rw [Attribute.offence?]
        split
        · rfl
        · exact isSome_fault?_iff.mpr hrefused
    -- the offence itself may never be looked at, but what is alike to it is one too
    obtain ⟨b, hb, hba⟩ := exists_alike_mem_checkOrder he ha
    exact ⟨_, hb, (Attribute.isSome_offence?_eq_of_alike hba).trans hfault⟩

/-- A clash that is found is one of two different elements. -/
theorem clash_of_findClash {v : Vocabulary} {err : SchemaError}
    (h : Declarations.findClash [] v.elements.names = .error err) :
    ∃ first ∈ v.elements.names, ∃ second ∈ v.elements.names,
      first ≠ second ∧ Identifier.factory first = Identifier.factory second ∧
      err = .identifierClash first second (Identifier.factory second) := by
  obtain ⟨middle, second, after, hnames, first, hfirst, hclash, herr⟩ :=
    @Declarations.findClash_eq_error [] _ _ h
  rw [List.nil_append] at hfirst
  refine ⟨first, by simp [hnames, hfirst], second, by simp [hnames], ?_, hclash, herr⟩
  have hnodup : v.elements.names.Nodup := v.elements.nodup
  rw [hnames] at hnodup
  rintro rfl
  exact (List.nodup_append.mp hnodup).2.2 _ hfirst _ List.mem_cons_self rfl

/-- The search for a clash fails exactly when there is one. -/
theorem exists_clash_iff {v : Vocabulary} :
    (∃ err, Declarations.findClash [] v.elements.names = .error err) ↔ v.HasClash := by
  constructor
  · rintro ⟨err, herr⟩
    obtain ⟨first, hfirst, second, hsecond, hne, hclash, -⟩ := clash_of_findClash herr
    exact ⟨first, hfirst, second, hsecond, hne, hclash⟩
  · rintro ⟨first, hfirst, second, hsecond, hne, hclash⟩
    cases h : Declarations.findClash [] v.elements.names with
    | error err => exact ⟨err, rfl⟩
    | ok _ =>
      have hnodup : (v.elements.names.map Identifier.factory).Nodup :=
        (@Declarations.findClash_eq_ok_iff [] _ List.nodup_nil).mp h
      exact absurd (List.inj_on_of_nodup_map hnodup hfirst hsecond hclash) hne

/-- With a clash, a module fails with it. -/
theorem error_of_hasClash {v : Vocabulary} (h : v.HasClash) :
    ∃ first ∈ v.elements.names, ∃ second ∈ v.elements.names,
      first ≠ second ∧ Identifier.factory first = Identifier.factory second ∧
      declarationLines v.extract.1 v.extract.2
        = .error (.identifierClash first second (Identifier.factory second)) := by
  obtain ⟨err, herr⟩ := exists_clash_iff.mpr h
  obtain ⟨first, hfirst, second, hsecond, hne, hclash, rfl⟩ := clash_of_findClash herr
  refine ⟨first, hfirst, second, hsecond, hne, hclash, fault?_eq_some_iff.mp ?_⟩
  rw [fault?_declarationLines, herr, fault?_error, Option.some_or]

/-- Without a clash, it fails as the first attribute at fault does. -/
theorem error_iff_of_not_hasClash {v : Vocabulary} (h : ¬ v.HasClash) (err : SchemaError) :
    declarationLines v.extract.1 v.extract.2 = .error err ↔
      v.checkOrder.findSome? (fun e => e.2.offence? e.1) = some err := by
  rw [← exists_clash_iff, ← isSome_fault?_iff, Option.not_isSome_iff_eq_none] at h
  rw [← fault?_eq_some_iff, fault?_declarationLines, h, Option.none_or]

/-- The attributes that are looked at are those of a vocabulary that was read, so there is nothing
wrong with their specifications but a type that is not known. -/
theorem offence_of_isRead {v : Vocabulary} (h : v.IsRead) {name : Text} {a : Attribute}
    (hmem : (name, a) ∈ v.checkOrder) {err : SchemaError} (herr : a.offence? name = some err) :
    (∃ name, err = .reservedName name) ∨ ∃ kind, err = .unknownKind kind := by
  rw [Attribute.offence?] at herr
  split at herr
  · exact .inl ⟨name, (Option.some.inj herr).symm⟩
  · obtain ⟨e, he, ha⟩ := exists_element_of_mem_checkOrder hmem
    obtain ⟨raw, hraw⟩ := h e he a (List.mem_map_of_mem ha)
    exact .inr (ValueSpec.unknownKind_of_isRead (ValueSpec.isRead_of_ofValue hraw) herr)

/-- So without a clash, a module fails with a reserved name or a type that is not known. -/
theorem cause_of_not_hasClash {v : Vocabulary} (h : v.IsRead) (hclash : ¬ v.HasClash)
    {err : SchemaError} (herr : declarationLines v.extract.1 v.extract.2 = .error err) :
    (∃ name, err = .reservedName name) ∨ ∃ kind, err = .unknownKind kind := by
  obtain ⟨⟨name, a⟩, hmem, ha⟩ :=
    List.exists_of_findSome?_eq_some ((error_iff_of_not_hasClash hclash err).mp herr)
  exact offence_of_isRead h hmem ha

/-- What comes of generating a module, in terms of what is wrong with the vocabulary. -/
structure IsChecked (v : Vocabulary) (outcome : Except SchemaError (List Text)) : Prop where
  /-- it fails exactly when something is wrong -/
  fails_iff : (∃ err, outcome = .error err) ↔ v.HasClash ∨ v.HasReservedName ∨ v.HasRefusedValues
  /-- with a clash, whatever else is wrong, -/
  clash : v.HasClash → ∃ first ∈ v.elements.names, ∃ second ∈ v.elements.names,
    first ≠ second ∧ Identifier.factory first = Identifier.factory second ∧
    outcome = .error (.identifierClash first second (Identifier.factory second))
  /-- and else as the first attribute that is at fault does, -/
  first_offence : ¬ v.HasClash → ∀ err, outcome = .error err ↔
    ∃ before name a after, v.checkOrder = before ++ (name, a) :: after ∧
      a.offence? name = some err ∧ ∀ e ∈ before, e.2.offence? e.1 = none
  /-- which has a reserved name or a type that is not known -/
  cause : ¬ v.HasClash → ∀ err, outcome = .error err →
    (∃ name, err = .reservedName name) ∨ ∃ kind, err = .unknownKind kind
  /-- so it is never refused for the form of a specification -/
  not_unrecognized : ∀ err, outcome = .error err → err.code ≠ .unrecognizedSpec

/-- A module can be generated from a vocabulary that was read exactly when nothing is wrong with the
vocabulary itself, and what is wrong with it is reported in the order of the checks. -/
theorem generation_isChecked {v : Vocabulary} (h : v.IsRead) :
    v.IsChecked (declarationLines v.extract.1 v.extract.2) where
  fails_iff := by
    rw [← isSome_fault?_iff, fault?_declarationLines, Option.isSome_or, Bool.or_eq_true,
      isSome_fault?_iff, exists_clash_iff, exists_offence_iff]
  clash := error_of_hasClash
  first_offence := by
    intro hclash err
    rw [error_iff_of_not_hasClash hclash, List.findSome?_eq_some_iff]
    simp only [Prod.exists]
  cause := fun hclash _ => cause_of_not_hasClash h hclash
  not_unrecognized := by
    intro err herr
    by_cases hclash : v.HasClash
    · obtain ⟨_, -, _, -, -, -, hclash⟩ := error_of_hasClash hclash
      obtain rfl := Except.error.inj (herr.symm.trans hclash)
      exact SchemaCode.noConfusion
    · rcases cause_of_not_hasClash h hclash herr with ⟨name, rfl⟩ | ⟨kind, rfl⟩
      · exact SchemaCode.noConfusion
      · exact SchemaCode.noConfusion

theorem isRead_twoElements : (twoElements "onload".toList).IsRead := by
  have htyped (signed : Value) : ValueSpec.ofValue (.map [(.text "type".toList,
      .text "boolean".toList), (.text "signed".toList, signed)])
        = .ok (.typed "boolean".toList ⟨signed, .null, .null, .null⟩ none) := rfl
  have htoken : ValueSpec.ofValue (.text "auto".toList) = .ok (.literal "auto".toList false) := rfl
  intro e he a ha
  rcases List.mem_pair.mp he with rfl | rfl
  · rcases List.mem_pair.mp ha with rfl | rfl
    · exact ⟨_, htyped (.bool true)⟩
    · exact ⟨_, htoken⟩
  · rcases List.mem_pair.mp ha with rfl | rfl
    · exact ⟨_, htyped (.int 1)⟩
    · exact ⟨_, htoken⟩

/-- A handler's name in the second of two elements is found. -/
theorem generation_isChecked_twoElements :
    (twoElements "onload".toList).IsRead ∧ (twoElements "onload".toList).HasReservedName ∧
      (twoElements "onload".toList).IsChecked
        (declarationLines (twoElements "onload".toList).extract.1
          (twoElements "onload".toList).extract.2) := by
  refine ⟨isRead_twoElements, ?_, generation_isChecked isRead_twoElements⟩
  exact ⟨_, List.mem_cons_of_mem _ List.mem_cons_self, "onload".toList,
    List.mem_cons_of_mem _ List.mem_cons_self, rfl⟩

end Vocabulary

end DomBindings
