import DomBindings.Proofs.SpecReading
import DomBindings.Proofs.Table
import DomBindings.Vocabulary.Reader

/-!
# The form of a vocabulary document

Which loaded values have the form of a vocabulary, level by level: a document holds a table of
elements, an element tables of attributes and of events, and an attribute a value specification.
Tables may be absent, but what they hold may not be.

A value that has not this form departs from it in one place or in several. The departures are listed
in the order in which a document is checked: at each level the mapping and its tables before its
texts, and both before what the tables hold. A document departs in no place
(`IsVocabulary.departures_eq_nil`).
-/

namespace DomBindings.Document

/-! ### Mappings -/

/-- The name that a key is, if it is a text that is not empty. -/
def nameOf? : Value → Option Text
  | .text (c :: cs) => some (c :: cs)
  | _ => none

/-- The entries of a mapping whose keys are names. -/
def fieldEntries (entries : List (Value × Value)) : List (Text × Value) :=
  entries.filterMap fun e => (nameOf? e.1).map fun name => (name, e.2)

/-- What the names in a value are bound to. -/
def fields : Value → Table Value
  | .map entries => .ofList (fieldEntries entries)
  | _ => .empty

/-- What a name is bound to in a value, and the absent value where it is not bound. -/
def part (raw : Value) (name : String) : Value :=
  ((fields raw).get? name.toList).getD .null

/-- A mapping, all of whose keys are texts that are not empty. -/
def IsMapping (raw : Value) : Prop :=
  ∃ entries : List (Text × Value), raw = .map (entries.map fun e => (.text e.1, e.2)) ∧
    ∀ e ∈ entries, e.1 ≠ []

/-- A mapping, or nothing in its place. -/
def IsTable (raw : Value) : Prop :=
  raw = .null ∨ IsMapping raw

/-- A name is bound to a text that is not empty. -/
def BindsText (raw : Value) (name : String) : Prop :=
  ∃ s, s ≠ [] ∧ (fields raw).get? name.toList = some (.text s)

theorem text_of_nameOf? {key : Value} {name : Text} (h : nameOf? key = some name) :
    key = .text name ∧ name ≠ [] := by
  unfold nameOf? at h
  split at h
  · obtain rfl := Option.some.inj h
    exact ⟨rfl, List.cons_ne_nil _ _⟩
  · cases h

theorem nameOf?_text {s : Text} (h : s ≠ []) : nameOf? (.text s) = some s := by
  cases s with
  | nil => exact absurd rfl h
  | cons c cs => rfl

theorem fieldEntries_map {entries : List (Text × Value)} (h : ∀ e ∈ entries, e.1 ≠ []) :
    fieldEntries (entries.map fun e => (.text e.1, e.2)) = entries := by
  rw [fieldEntries, List.filterMap_map]
  have hall : ∀ e ∈ entries, ((fun e : Value × Value => (nameOf? e.1).map fun name => (name, e.2))
      ∘ fun e : Text × Value => (Value.text e.1, e.2)) e = some e := by
    intro e he
    change (nameOf? (.text e.1)).map _ = _
    rw [nameOf?_text (h e he)]
    rfl
  rw [List.filterMap_congr hall, List.filterMap_some]

/-- The keys of a loaded mapping differ, and then it binds its names as they stand. -/
theorem fields_entries {entries : List (Text × Value)} (h : ∀ e ∈ entries, e.1 ≠ [])
    (hdistinct : (entries.map Prod.fst).Nodup) :
    (fields (.map (entries.map fun e => (.text e.1, e.2)))).entries = entries := by
  rw [fields, fieldEntries_map h, Table.entries_ofList hdistinct]

/-- The names in a mapping are texts that are not empty. -/
theorem IsTable.names_ne_nil {entries : List (Text × Value)}
    (h : IsTable (.map (entries.map fun e => (.text e.1, e.2)))) : ∀ e ∈ entries, e.1 ≠ [] := by
  rcases h with h | ⟨entries', heq, hnames⟩
  · cases h
  · have hinj : Function.Injective fun e : Text × Value => (Value.text e.1, e.2) := by
      rintro ⟨n, v⟩ ⟨n', v'⟩ h
      obtain ⟨hn, hv⟩ := Prod.mk.inj h
      exact Prod.ext (Value.text.inj hn) hv
    obtain rfl := hinj.list_map (Value.map.inj heq)
    exact hnames

/-- A value with something in it is no absent one. -/
theorem IsTable.isMapping {raw : Value} (h : IsTable raw) {name : Text} {v : Value}
    (hget : (fields raw).get? name = some v) : IsMapping raw := by
  rcases h with rfl | h
  · cases hget
  · exact h

/-- What a value holds can be written if the value can. -/
theorem isWritable_of_mem_fields {raw : Value} (h : raw.IsWritable) :
    ∀ e ∈ (fields raw).entries, e.2.IsWritable := by
  intro e he
  unfold fields at he
  split at he
  · next entries =>
    obtain ⟨⟨k, v⟩, hmem, hname⟩ := List.mem_filterMap.mp (Table.mem_of_mem_ofList he)
    obtain ⟨name, -, rfl⟩ := Option.map_eq_some_iff.mp hname
    exact (h.entry _ hmem).2
  · cases he

theorem isWritable_part {raw : Value} (h : raw.IsWritable) (name : String) :
    (part raw name).IsWritable := by
  rw [part]
  cases hget : (fields raw).get? name.toList with
  | none => exact Value.isWritable_null
  | some v => exact isWritable_of_mem_fields h _ (Table.get?_eq_some_iff.mp hget)

/-! ### The levels of a document -/

/-- The form of an attribute: its values are stated, in a form that can be read. -/
structure IsAttribute (raw : Value) : Prop where
  mapping : IsMapping raw
  values : ∃ node spec, (fields raw).get? "values".toList = some node ∧
    ValueSpec.ofValue node = .ok spec

/-- The form of an event: its interface is stated. -/
structure IsEvent (raw : Value) : Prop where
  mapping : IsMapping raw
  interface : BindsText raw "interface"

/-- The form of an element. -/
structure IsElement (raw : Value) : Prop where
  mapping : IsMapping raw
  interface : BindsText raw "interface"
  attributesTable : IsTable (part raw "attributes")
  eventsTable : IsTable (part raw "events")
  attributes : ∀ e ∈ (fields (part raw "attributes")).entries, IsAttribute e.2
  events : ∀ e ∈ (fields (part raw "events")).entries, IsEvent e.2

/-- The form of a vocabulary. -/
structure IsVocabulary (raw : Value) : Prop where
  mapping : IsMapping raw
  namespaceUri : BindsText raw "namespace"
  version : IsTable (part raw "version")
  elementsTable : IsTable (part raw "elements")
  elements : ∀ e ∈ (fields (part raw "elements")).entries, IsElement e.2

/-! ### Departures -/

/-- A departure from the form. -/
inductive Departure where
  /-- something is no mapping where one is needed -/
  | notAMapping (place kind : Text)
  /-- a key is no text, or the empty one -/
  | badKey (place : Text) (key : Value)
  /-- something is not stated that must be -/
  | missing (place key : Text)
  /-- a value specification cannot be read -/
  | values (node : Value) (refusal : SchemaError)

/-- The error by which a departure is reported. -/
def Departure.error : Departure → SchemaError
  | .notAMapping place kind => .notAMapping place kind
  | .badKey place key => .badKey place key
  | .missing place key => .missing place key
  | .values _ refusal => refusal

/-- The code under which a departure is reported. -/
def Departure.code : Departure → SchemaCode
  | .values _ _ => .unrecognizedSpec
  | _ => .malformed

/-- The keys that are no names. -/
def badKeys (place : Text) (entries : List (Value × Value)) : List Departure :=
  (entries.filter fun e => (nameOf? e.1).isNone).map fun e => .badKey place e.1

/-- Departures from the form of a table. -/
def tableDepartures (place : Text) : Value → List Departure
  | .null => []
  | .map entries => badKeys place entries
  | raw => [.notAMapping place raw.kindName]

/-- The departure where a text is not stated. -/
def textDepartures (place : Text) (raw : Value) (name : String) : List Departure :=
  match (fields raw).get? name.toList with
  | some (.text (_ :: _)) => []
  | _ => [.missing place name.toList]

/-- The departure where a value specification has none of the known forms. -/
def specDepartures (node : Value) : List Departure :=
  match ValueSpec.ofValue node with
  | .error (.schema refusal) => [.values node refusal]
  | _ => []

/-- The departure where the values of an attribute are not stated or cannot be read. -/
def valuesDepartures (place : Text) (raw : Value) : List Departure :=
  match (fields raw).get? "values".toList with
  | none => [.missing place "values".toList]
  | some node => specDepartures node

/-- Departures from the form of an attribute, in the order of checking. -/
def attributeDepartures (place : Text) (raw : Value) : List Departure :=
  [tableDepartures place raw, valuesDepartures place raw].flatten

/-- Departures from the form of an event, in the order of checking. -/
def eventDepartures (place : Text) (raw : Value) : List Departure :=
  [tableDepartures place raw, textDepartures place raw "interface"].flatten

/-- Departures from the form of an element, in the order of checking. -/
def elementDepartures (name : Text) (raw : Value) : List Departure :=
  let here := place "element" name
  [tableDepartures here raw,
   tableDepartures (here ++ " attributes".toList) (part raw "attributes"),
   tableDepartures (here ++ " events".toList) (part raw "events"),
   textDepartures here raw "interface",
   (fields (part raw "attributes")).entries.flatMap fun e =>
     attributeDepartures (here ++ place " attribute" e.1) e.2,
   (fields (part raw "events")).entries.flatMap fun e =>
     eventDepartures (here ++ place " event" e.1) e.2].flatten

/-- Departures from the form of a vocabulary, in the order of checking. -/
def departures (raw : Value) : List Departure :=
  let here := "vocabulary document".toList
  [tableDepartures here raw,
   tableDepartures "version".toList (part raw "version"),
   tableDepartures "elements".toList (part raw "elements"),
   textDepartures here raw "namespace",
   (fields (part raw "elements")).entries.flatMap fun e => elementDepartures e.1 e.2].flatten

theorem IsMapping.departures_eq_nil {raw : Value} (h : IsMapping raw) (place : Text) :
    tableDepartures place raw = [] := by
  obtain ⟨entries, rfl, hnames⟩ := h
  rw [tableDepartures, badKeys, List.map_eq_nil_iff, List.filter_eq_nil_iff]
  intro e he
  obtain ⟨⟨name, v⟩, hmem, rfl⟩ := List.mem_map.mp he
  change ¬ (nameOf? (.text name)).isNone = true
  rw [nameOf?_text (hnames _ hmem)]
  exact Bool.false_ne_true

theorem IsTable.departures_eq_nil {raw : Value} (h : IsTable raw) (place : Text) :
    tableDepartures place raw = [] := by
  rcases h with rfl | h
  · rfl
  · exact h.departures_eq_nil place

theorem BindsText.departures_eq_nil {raw : Value} {name : String} (h : BindsText raw name)
    (place : Text) : textDepartures place raw name = [] := by
  obtain ⟨s, hs, hget⟩ := h
  obtain ⟨c, cs, rfl⟩ := List.exists_cons_of_ne_nil hs
  rw [textDepartures, hget]

theorem IsAttribute.departures_eq_nil {raw : Value} (h : IsAttribute raw) (place : Text) :
    attributeDepartures place raw = [] := by
  obtain ⟨node, spec, hget, hspec⟩ := h.values
  have hvalues : valuesDepartures place raw = [] := by
    simp only [valuesDepartures, specDepartures, hget, hspec]
  rw [attributeDepartures, h.mapping.departures_eq_nil, hvalues]
  rfl

theorem IsEvent.departures_eq_nil {raw : Value} (h : IsEvent raw) (place : Text) :
    eventDepartures place raw = [] := by
  rw [eventDepartures, h.mapping.departures_eq_nil, h.interface.departures_eq_nil]
  rfl

theorem IsElement.departures_eq_nil {raw : Value} (h : IsElement raw) (name : Text) :
    elementDepartures name raw = [] := by
  simp only [elementDepartures]
  rw [h.mapping.departures_eq_nil, h.attributesTable.departures_eq_nil,
    h.eventsTable.departures_eq_nil, h.interface.departures_eq_nil,
    List.flatMap_eq_nil_iff.mpr fun e he => (h.attributes e he).departures_eq_nil _,
    List.flatMap_eq_nil_iff.mpr fun e he => (h.events e he).departures_eq_nil _]
  rfl

/-- A vocabulary departs from its form in no place. -/
theorem IsVocabulary.departures_eq_nil {raw : Value} (h : IsVocabulary raw) :
    departures raw = [] := by
  simp only [departures]
  rw [h.mapping.departures_eq_nil, h.version.departures_eq_nil,
    h.elementsTable.departures_eq_nil, h.namespaceUri.departures_eq_nil,
    List.flatMap_eq_nil_iff.mpr fun e he => (h.elements e he).departures_eq_nil _]
  rfl

end DomBindings.Document
