import DomBindings.Proofs.Factoring
import DomBindings.Proofs.Lines
import DomBindings.Proofs.ModuleParts
import DomBindings.Report.ElementDetail

/-!
# The account of an element agrees with the module

The account of an element is made of the element as it was read, with its own definitions. The
module has the shared properties in the form of the first element, and the others in what is left of
each element. The two still say the same of each attribute and event: where an entry is marked
common, its very line is among those of the shared type (`attribute_mem_sharedLines_iff`,
`event_mem_sharedLines_iff`), and otherwise in the element's own type.
-/

namespace DomBindings

open Traversal

/-- A name that is taken out of a table is one of its names. -/
theorem Table.IsRemainder.contains_of_shared {α : Type} [Definition α]
    {own shared original : Table α} (h : IsRemainder own shared original) (name : Text)
    (hname : shared.contains name = true) : original.contains name = true := by
  obtain ⟨x, hx⟩ := Option.isSome_iff_exists.mp hname
  obtain ⟨y, hy, -⟩ := h.exists_of_shared hx
  exact contains_of_get? hy

/-- The names under which an interface has something of its own are not all gone. -/
theorem Element.hasOwn_of_get? {e : Element} {name : Text}
    (h : (∃ a, e.interface.attributes.get? name = some a) ∨
      ∃ ev, e.interface.events.get? name = some ev) : e.hasOwn = true := by
  by_contra hnone
  obtain ⟨hattributes, hevents⟩ := hasOwn_eq_false_iff.mp (Bool.eq_false_iff.mpr hnone)
  rcases h with ⟨a, ha⟩ | ⟨ev, hev⟩
  · exact List.ne_nil_of_mem (Table.get?_eq_some_iff.mp ha) (List.isEmpty_iff.mp hattributes)
  · exact List.ne_nil_of_mem (Table.get?_eq_some_iff.mp hev) (List.isEmpty_iff.mp hevents)

/-- The line of an attribute or of an event's handler. -/
def Property.declaration (key type : Text) : Text :=
  bindingLine "?: ".toList key type

namespace Declarations

/-- The lines of the type of the shared attributes. -/
def sharedLines (d : Declarations) : List Text :=
  InterfaceBody.declarationLines sharedOpening d.shared

/-- A line stands in the type of an element's own attributes. -/
def HasOwnLine (d : Declarations) (name line : Text) : Prop :=
  ∃ t ∈ d.attributesTypes, t.element = name ∧ line ∈ attributesTypeLines t

theorem mem_sharedLines_iff {d : Declarations} {key type : Text} :
    Property.declaration key type ∈ d.sharedLines ↔ ∃ p ∈ d.shared, p.key = key ∧ p.type = type :=
  InterfaceBody.bindingLine_mem_iff rfl

/-- The properties of an element have their lines in the element's type. -/
theorem hasOwnLine_of_mem {v : Vocabulary} {shared : Interface} {d : Declarations}
    (h : ofVocabulary v shared = .ok d) {name : Text} {e : Element}
    (he : (name, e) ∈ v.elements.entries) (hown : e.hasOwn = true) {ps : List Property}
    (hps : e.interface.properties e.host = .ok ps) {p : Property} (hp : p ∈ ps) :
    d.HasOwnLine name (Property.declaration p.key p.type) := by
  obtain ⟨t, ht, hname, -, -, hproperties⟩ := exists_ownType h he hown
  obtain rfl := Except.ok.inj (hps.symm.trans hproperties)
  exact ⟨t, ht, hname, List.mem_cons_of_mem _ (InterfaceBody.line_mem_declarationLines hp _)⟩

end Declarations

/-- Entries of an account list a table in the order of its names, and the mark of each says where
it is declared: where it is common, it is among what is shared, and otherwise among the element's
own. As many are common as are shared. -/
structure DetailEntry.IsAccountOf {α : Type} (t : Table α) (sharedSize : Nat)
    (States : α → Text → Prop) (InShared InOwn : DetailEntry → Prop) (entries : List DetailEntry) :
    Prop where
  /-- each entry of the table is listed once -/
  names_iff : ∀ name, name ∈ entries.map DetailEntry.name ↔ name ∈ t.names
  increasing : entries.Pairwise fun a b => a.name < b.name
  /-- with what the table says -/
  states : ∀ entry ∈ entries, ∃ x, t.get? entry.name = some x ∧ States x entry.type
  common_iff : ∀ entry ∈ entries, entry.common = true ↔ InShared entry
  own : ∀ entry ∈ entries, entry.common = false → InOwn entry
  count : (entries.filter DetailEntry.common).length = sharedSize

/-- Entries made from a table in the order of its names, each marked by whether its name is
shared. -/
def DetailEntry.AreMade {α : Type} (t shared : Table α) (States : α → Text → Prop)
    (entries : List DetailEntry) : Prop :=
  List.Forall₂ (fun e entry => entry.name = e.1 ∧ States e.2 entry.type ∧
    entry.common = shared.contains e.1) t.byName entries

namespace DetailEntry.AreMade

variable {α : Type} {t shared : Table α} {States : α → Text → Prop} {entries : List DetailEntry}

theorem names_eq (h : AreMade t shared States entries) :
    entries.map DetailEntry.name = t.byName.map Prod.fst :=
  map_eq_of_forall₂ (fun _ _ he => he.1) h

theorem states (h : AreMade t shared States entries) {entry : DetailEntry} (he : entry ∈ entries) :
    ∃ x, t.get? entry.name = some x ∧ States x entry.type ∧
      entry.common = shared.contains entry.name := by
  obtain ⟨⟨name, x⟩, hmem, rfl, hstates, hcommon⟩ := exists_mem_of_forall₂ h.flip he
  exact ⟨x, Table.get?_eq_some_iff.mpr (Table.mem_byName.mp hmem), hstates, hcommon⟩

/-- As many entries are marked as names are shared, if the table has them all. -/
theorem count_common (h : AreMade t shared States entries)
    (hshared : ∀ name, shared.contains name = true → t.contains name = true) :
    (entries.filter DetailEntry.common).length = shared.size := by
  -- the names of the entries that are marked are the shared names
  have hnames : (entries.filter DetailEntry.common).map DetailEntry.name
      = (t.byName.map Prod.fst).filter shared.contains := by
    rw [← h.names_eq, List.filter_map]
    refine congrArg _ (List.filter_congr fun entry he => ?_)
    obtain ⟨_, -, -, hcommon⟩ := h.states he
    exact hcommon
  have hperm : ((t.byName.map Prod.fst).filter shared.contains).Perm shared.names := by
    refine (List.perm_ext_iff_of_nodup ?_ (show shared.names.Nodup from shared.nodup)).mpr
      fun name => ?_
    · exact ((t.byName_perm.map Prod.fst).nodup_iff.mpr t.nodup).filter _
    · have hname : name ∈ t.byName.map Prod.fst ↔ t.contains name = true := by
        rw [(t.byName_perm.map Prod.fst).mem_iff]
        exact Table.mem_names_iff_contains
      rw [List.mem_filter, hname, Table.mem_names_iff_contains]
      exact and_iff_right_of_imp (hshared name)
  rw [← List.length_map DetailEntry.name, hnames, hperm.length_eq, Table.names, List.length_map,
    Table.size]

/-- Entries that are made from a table are an account of it, if each is declared where its mark
says. -/
theorem isAccountOf (h : AreMade t shared States entries)
    (hshared : ∀ name, shared.contains name = true → t.contains name = true)
    {InShared InOwn : DetailEntry → Prop}
    (hin : ∀ entry x, t.get? entry.name = some x → States x entry.type →
      (InShared entry ↔ shared.contains entry.name = true) ∧
      (shared.contains entry.name = false → InOwn entry)) :
    IsAccountOf t shared.size States InShared InOwn entries where
  names_iff name := by
    rw [h.names_eq, (t.byName_perm.map Prod.fst).mem_iff, Table.names]
  increasing := by
    have hnames := List.pairwise_map.mpr t.byName_increasing
    rw [← h.names_eq] at hnames
    exact List.pairwise_map.mp hnames
  states entry he := by
    obtain ⟨x, hx, hstates, -⟩ := h.states he
    exact ⟨x, hx, hstates⟩
  common_iff entry he := by
    obtain ⟨x, hx, hstates, hcommon⟩ := h.states he
    rw [hcommon, (hin entry x hx hstates).1]
  own entry he hown := by
    obtain ⟨x, hx, hstates, hcommon⟩ := h.states he
    exact (hin entry x hx hstates).2 (hcommon ▸ hown)
  count := h.count_common hshared

end DetailEntry.AreMade

namespace ElementDetail

/-- What the account of an element says agrees with the module `d`. -/
structure AgreesWith (v : Vocabulary) (d : Declarations) (name : Text) (e : Element)
    (detail : ElementDetail) : Prop where
  /-- it begins with the row of the element in the table of elements -/
  summary : detail.summary ∈ ElementSummary.ofVocabulary v
  summary_unique : ∀ row ∈ ElementSummary.ofVocabulary v, row.name = name → row = detail.summary
  /-- an attribute has its line in the shared type or in the element's own -/
  attributes : DetailEntry.IsAccountOf e.interface.attributes v.extract.2.attributes.size
    (fun a type => a.values.typeText = .ok type)
    (fun entry => Property.declaration entry.name entry.type ∈ d.sharedLines)
    (fun entry => d.HasOwnLine name (Property.declaration entry.name entry.type))
    detail.attributes
  /-- and so has the handler of an event, which is bound to the parameter or to the element's
  host -/
  events : DetailEntry.IsAccountOf e.interface.events v.extract.2.events.size
    (fun event type => event.interface = type)
    (fun entry => Property.declaration (Property.handlerPrefix ++ entry.name)
      (Property.handlerType Declarations.hostParameter entry.type) ∈ d.sharedLines)
    (fun entry => d.HasOwnLine name (Property.declaration (Property.handlerPrefix ++ entry.name)
      (Property.handlerType e.host entry.type)))
    detail.events

end ElementDetail

namespace Vocabulary

variable {v : Vocabulary} {d : Declarations}

/-- The shared properties are those of the common attributes and of the common events. -/
theorem mem_shared_iff (h : Declarations.ofVocabulary v.extract.1 v.extract.2 = .ok d)
    {p : Property} : p ∈ d.shared ↔
      (∃ name a, v.common.attributes.get? name = some a ∧ Property.ofAttribute name a = .ok p) ∨
      ∃ name event, v.common.events.get? name = some event ∧
        Property.ofEvent Declarations.hostParameter name event = p := by
  obtain ⟨as, has, hshared⟩ :=
    Interface.properties_eq_ok_iff.mp (Declarations.shared_of_ofVocabulary h)
  rw [hshared, List.mem_append, (Interface.attributeProperties_listing has).mem_iff,
    (Interface.eventProperties_listing v.extract.2 _).mem_iff]
  rfl

/-- What is left of an element. -/
def own (v : Vocabulary) (e : Element) : Element :=
  { e with interface := e.interface.without v.common }

theorem own_mem {name : Text} {e : Element} (he : v.elements.get? name = some e) :
    (name, v.own e) ∈ v.extract.1.elements.entries :=
  List.mem_map_of_mem (Table.get?_eq_some_iff.mp he)

theorem mem_values_of_get? {name : Text} {e : Element} (he : v.elements.get? name = some e) :
    e ∈ v.elements.values :=
  List.mem_map_of_mem (Table.get?_eq_some_iff.mp he)

/-- Where a module can be generated, each attribute of each element has a property. -/
theorem exists_property (h : Declarations.ofVocabulary v.extract.1 v.extract.2 = .ok d)
    {name : Text} {e : Element} (he : v.elements.get? name = some e) {attr : Text} {a : Attribute}
    (ha : e.interface.attributes.get? attr = some a) : ∃ p, Property.ofAttribute attr a = .ok p := by
  obtain ⟨sharedAs, hs, -⟩ :=
    Interface.properties_eq_ok_iff.mp (Declarations.shared_of_ofVocabulary h)
  obtain ⟨ownAs, ho⟩ := Declarations.attributeProperties_of_ofVocabulary h (own_mem he)
  have hok := attributeProperties_ok_of_pruned (mem_values_of_get? he) hs ho
  exact Interface.attributeProperties_ok_iff.mp hok attr a ha

/-- An attribute has its line in the shared type exactly when its name is common. -/
theorem attribute_mem_sharedLines_iff
    (h : Declarations.ofVocabulary v.extract.1 v.extract.2 = .ok d) {name : Text} {e : Element}
    (he : v.elements.get? name = some e) {attr type : Text} {a : Attribute}
    (ha : e.interface.attributes.get? attr = some a) (htype : a.values.typeText = .ok type) :
    Property.declaration attr type ∈ d.sharedLines ↔
      v.common.attributes.contains attr = true := by
  obtain ⟨p, hp⟩ := exists_property h he ha
  obtain ⟨-, type', htype', hp'⟩ := Property.ofAttribute_eq_ok_iff.mp hp
  obtain rfl := Except.ok.inj (htype.symm.trans htype')
  rw [Declarations.mem_sharedLines_iff]
  constructor
  · rintro ⟨q, hq, hkey, -⟩
    rcases (mem_shared_iff h).mp hq with ⟨n, b, hb, hqb⟩ | ⟨n, event, -, rfl⟩
    · rw [Property.key_of_ofAttribute hqb] at hkey
      exact Table.contains_of_get? (hkey ▸ hb)
    · exact absurd ((Property.key_of_ofAttribute hp).trans hkey.symm)
        (Property.key_ne_of_ofAttribute hp n)
  · intro hcontains
    obtain ⟨b, hb⟩ := Option.isSome_iff_exists.mp hcontains
    -- the property that is declared is made of a definition alike to the element's
    obtain ⟨a', ha', hba⟩ :=
      (isPruned_of_mem (mem_values_of_get? he)).attributes.exists_of_shared hb
    obtain rfl := Option.some.inj (ha.symm.trans ha')
    obtain ⟨sharedAs, hs, -⟩ :=
      Interface.properties_eq_ok_iff.mp (Declarations.shared_of_ofVocabulary h)
    obtain ⟨q, hq⟩ := Interface.attributeProperties_ok_iff.mp ⟨sharedAs, hs⟩ attr b hb
    have hqa := Property.ofAttribute_eq_of_alike hba hq
    obtain rfl := Except.ok.inj (hp.symm.trans hqa)
    exact ⟨p, (mem_shared_iff h).mpr (.inl ⟨attr, b, hb, hq⟩), by rw [hp'], by rw [hp']⟩

/-- And otherwise it has its line in the element's own type. -/
theorem attribute_hasOwnLine (h : Declarations.ofVocabulary v.extract.1 v.extract.2 = .ok d)
    {name : Text} {e : Element} (he : v.elements.get? name = some e) {attr type : Text}
    {a : Attribute} (ha : e.interface.attributes.get? attr = some a)
    (htype : a.values.typeText = .ok type) (hcommon : v.common.attributes.contains attr = false) :
    d.HasOwnLine name (Property.declaration attr type) := by
  obtain ⟨p, hp⟩ := exists_property h he ha
  obtain ⟨-, type', htype', hp'⟩ := Property.ofAttribute_eq_ok_iff.mp hp
  obtain rfl := Except.ok.inj (htype.symm.trans htype')
  have hown : (v.own e).interface.attributes.get? attr = some a :=
    (isPruned_of_mem (mem_values_of_get? he)).attributes.get?_own_iff.mpr
      ⟨Option.not_isSome_iff_eq_none.mp (Bool.eq_false_iff.mp hcommon), ha⟩
  obtain ⟨ownAs, ho⟩ := Declarations.attributeProperties_of_ofVocabulary h (own_mem he)
  have hmem : p ∈ ownAs :=
    ((Interface.attributeProperties_listing ho).mem_iff p).mpr ⟨attr, a, hown, hp⟩
  have hline := Declarations.hasOwnLine_of_mem h (own_mem he)
    (Element.hasOwn_of_get? (.inl ⟨a, hown⟩))
    (Interface.properties_eq_ok_iff.mpr ⟨ownAs, ho, rfl⟩) (List.mem_append_left _ hmem)
  rwa [hp'] at hline

/-- The handler of an event has its line in the shared type exactly when the event is common. -/
theorem event_mem_sharedLines_iff
    (h : Declarations.ofVocabulary v.extract.1 v.extract.2 = .ok d) {name : Text} {e : Element}
    (he : v.elements.get? name = some e) {event : Text} {x : Event}
    (hx : e.interface.events.get? event = some x) :
    Property.declaration (Property.handlerPrefix ++ event)
        (Property.handlerType Declarations.hostParameter x.interface) ∈ d.sharedLines ↔
      v.common.events.contains event = true := by
  rw [Declarations.mem_sharedLines_iff]
  constructor
  · rintro ⟨q, hq, hkey, -⟩
    rcases (mem_shared_iff h).mp hq with ⟨n, b, -, hqb⟩ | ⟨n, y, hy, rfl⟩
    · exact absurd hkey (Property.key_ne_of_ofAttribute hqb event)
    · exact Table.contains_of_get? (List.append_cancel_left hkey ▸ hy)
  · intro hcontains
    obtain ⟨y, hy⟩ := Option.isSome_iff_exists.mp hcontains
    obtain ⟨x', hx', hyx⟩ := (isPruned_of_mem (mem_values_of_get? he)).events.exists_of_shared hy
    obtain rfl := Option.some.inj (hx.symm.trans hx')
    obtain rfl := Event.alike_iff.mp hyx
    exact ⟨_, (mem_shared_iff h).mpr (.inr ⟨event, y, hy, rfl⟩), rfl, rfl⟩

/-- And otherwise it has its line in the element's own type. -/
theorem event_hasOwnLine (h : Declarations.ofVocabulary v.extract.1 v.extract.2 = .ok d)
    {name : Text} {e : Element} (he : v.elements.get? name = some e) {event : Text} {x : Event}
    (hx : e.interface.events.get? event = some x)
    (hcommon : v.common.events.contains event = false) :
    d.HasOwnLine name (Property.declaration (Property.handlerPrefix ++ event)
      (Property.handlerType e.host x.interface)) := by
  have hown : (v.own e).interface.events.get? event = some x :=
    (isPruned_of_mem (mem_values_of_get? he)).events.get?_own_iff.mpr
      ⟨Option.not_isSome_iff_eq_none.mp (Bool.eq_false_iff.mp hcommon), hx⟩
  obtain ⟨ownAs, ho⟩ := Declarations.attributeProperties_of_ofVocabulary h (own_mem he)
  have hmem : Property.ofEvent e.host event x ∈ (v.own e).interface.eventProperties e.host :=
    ((Interface.eventProperties_listing _ _).mem_iff _).mpr ⟨event, x, hown, rfl⟩
  exact Declarations.hasOwnLine_of_mem h (own_mem he) (Element.hasOwn_of_get? (.inr ⟨x, hown⟩))
    (Interface.properties_eq_ok_iff.mpr ⟨ownAs, ho, rfl⟩) (List.mem_append_right _ hmem)

end Vocabulary

namespace ElementDetail

/-- An account can be given when every attribute has a type. -/
theorem exists_ofElement {shared : Interface} {name : Text} {e : Element}
    (h : ∀ attr a, e.interface.attributes.get? attr = some a → ∃ t, a.values.typeText = .ok t) :
    ∃ detail, ofElement shared name e = .ok detail ∧
      detail.summary = ElementSummary.ofElement name e ∧
      DetailEntry.AreMade e.interface.attributes shared.attributes
        (fun a type => a.values.typeText = .ok type) detail.attributes ∧
      DetailEntry.AreMade e.interface.events shared.events
        (fun event type => event.interface = type) detail.events := by
  obtain ⟨attributes, hattributes⟩ : ∃ as, e.interface.attributes.byName.mapM (fun x =>
      (DetailEntry.mk x.1 · (shared.attributes.contains x.1)) <$> x.2.values.typeText)
        = .ok as := by
    rw [← fault?_eq_none_iff, fault?_mapM, List.findSome?_eq_none_iff]
    rintro ⟨attr, a⟩ hmem
    obtain ⟨t, ht⟩ := h attr a (Table.get?_eq_some_iff.mpr (Table.mem_byName.mp hmem))
    exact fault?_eq_none_iff.mpr ⟨_, map_eq_ok_iff.mpr ⟨t, ht, rfl⟩⟩
  have hmade := (mapM_eq_ok_iff _ _ _).mp hattributes
  refine ⟨_, bind_eq_ok_iff.mpr ⟨attributes, hattributes, rfl⟩, ?_, ?_, ?_⟩
  · rw [← hmade.length_eq, List.length_map, Table.length_byName, Table.length_byName]
    rfl
  · refine hmade.imp fun x y hxy => ?_
    obtain ⟨t, ht, rfl⟩ := map_eq_ok_iff.mp hxy
    exact ⟨rfl, ht, rfl⟩
  · rw [DetailEntry.AreMade, List.forall₂_map_right_iff, List.forall₂_same]
    exact fun x _ => ⟨rfl, rfl, rfl⟩

end ElementDetail

namespace Vocabulary

/-- Where a module can be generated, an account can be given of each element, and it agrees with the
module: on which attributes and events all elements have in common, on their types and interfaces,
and on where they are declared. -/
theorem detail_agreesWith_module {v : Vocabulary} {lines : List Text}
    (h : declarationLines v.extract.1 v.extract.2 = .ok lines) {name : Text} {e : Element}
    (he : v.elements.get? name = some e) :
    ∃ d detail, Declarations.ofVocabulary v.extract.1 v.extract.2 = .ok d ∧ d.lines = lines ∧
      ElementDetail.ofVocabulary v name = .ok (some detail) ∧ detail.AgreesWith v d name e := by
  obtain ⟨d, hd, hlines⟩ := map_eq_ok_iff.mp h
  obtain ⟨detail, hdetail, hsummary, hattributes, hevents⟩ :=
    @ElementDetail.exists_ofElement v.common name e fun attr a ha => by
      obtain ⟨p, hp⟩ := exists_property hd he ha
      obtain ⟨-, t, ht, -⟩ := Property.ofAttribute_eq_ok_iff.mp hp
      exact ⟨t, ht⟩
  refine ⟨d, detail, hd, hlines, ?_, ?_⟩
  · rw [ElementDetail.ofVocabulary, he]
    exact map_eq_ok_iff.mpr ⟨detail, hdetail, rfl⟩
  · have hpruned := isPruned_of_mem (mem_values_of_get? he)
    exact {
      summary := by
        rw [hsummary]
        exact List.mem_map_of_mem (f := fun x => ElementSummary.ofElement x.1 x.2)
          (Table.get?_eq_some_iff.mp he)
      summary_unique := by
        intro row hrow hname
        obtain ⟨⟨n, e'⟩, hmem, rfl⟩ := List.mem_map.mp hrow
        obtain rfl : n = name := hname
        obtain rfl := Option.some.inj (he.symm.trans (Table.get?_eq_some_iff.mpr hmem))
        exact hsummary.symm
      attributes := hattributes.isAccountOf hpruned.attributes.contains_of_shared fun entry a ha htype =>
        ⟨attribute_mem_sharedLines_iff hd he ha htype, attribute_hasOwnLine hd he ha htype⟩
      events := by
        refine hevents.isAccountOf hpruned.events.contains_of_shared fun entry x hx hinterface => ?_
        rw [← hinterface]
        exact ⟨event_mem_sharedLines_iff hd he hx, event_hasOwnLine hd he hx⟩ }

/-- The account of the second of two elements, whose shared attribute is declared in the form of the
first. -/
theorem detail_agreesWith_module_twoElements :
    ∃ lines, declarationLines (twoElements "cite".toList).extract.1
        (twoElements "cite".toList).extract.2 = .ok lines ∧
      (twoElements "cite".toList).elements.get? "q".toList
        = some (sampleElement "cite".toList (.int 1)) ∧
      ∃ d detail, Declarations.ofVocabulary (twoElements "cite".toList).extract.1
          (twoElements "cite".toList).extract.2 = .ok d ∧ d.lines = lines ∧
        ElementDetail.ofVocabulary (twoElements "cite".toList) "q".toList = .ok (some detail) ∧
        detail.AgreesWith (twoElements "cite".toList) d "q".toList
          (sampleElement "cite".toList (.int 1)) :=
  ⟨_, rfl, rfl, detail_agreesWith_module rfl rfl⟩

end Vocabulary

end DomBindings
