import DomBindings.Proofs.DocumentFormat
import DomBindings.Proofs.Traversal

/-!
# Reading is checking

The reader of vocabularies stops at the first departure from their form, and where there is none it
gives a vocabulary that says what the document says. Both are carried through the reader by one
relation, `Reads`: what is true of a result, and which departures are met on the way. The departures
of two steps are those of the first followed by those of the second (`Reads.bind`), so the
departures of the whole come out in the order of checking.

The one other failure is a number in the document that cannot be written, which is needed for a
description or for a message.
-/

namespace DomBindings

namespace Document

open Traversal

/-- Reading gives something of which `Post` is true, or stops at the first of the departures. The
refusal can be worded if `W` is true, and a number cannot be written only if `W` is not. -/
inductive Reads {α : Type} (Post : α → Prop) (W : Prop) :
    List Departure → Except ReadError α → Prop
  | ok {a : α} : Post a → Reads Post W [] (.ok a)
  | refused {d : Departure} {ds : List Departure} : d.error.code = d.code →
      (W → ∃ m, d.error.message = .ok m) → Reads Post W (d :: ds) (.error (.schema d.error))
  | unwritable {e : NumeralError} {ds : List Departure} : ¬ W →
      Reads Post W ds (.error (.numeral e))

section

variable {α β : Type} {P : α → Prop} {Q : β → Prop} {W : Prop} {raw : Value}

/-- The departures of two steps come one after the other. -/
theorem Reads.bind {ds ds' : List Departure} {x : Except ReadError α}
    {f : α → Except ReadError β} (hx : Reads P W ds x) (hf : ∀ a, P a → Reads Q W ds' (f a)) :
    Reads Q W (ds ++ ds') (x >>= f) := by
  cases hx with
  | ok ha => exact hf _ ha
  | refused hcode hmessage => exact .refused hcode hmessage
  | unwritable hw => exact .unwritable hw

/-- A step that meets no departures adds none. -/
theorem Reads.andThen {ds : List Departure} {x : Except ReadError α}
    {f : α → Except ReadError β} (hx : Reads P W [] x) (hf : ∀ a, P a → Reads Q W ds (f a)) :
    Reads Q W ds (x >>= f) :=
  hx.bind hf

/-- What is made of a result meets no more departures. -/
theorem Reads.map {ds : List Departure} {x : Except ReadError α} {f : α → β}
    (hx : Reads P W ds x) (hf : ∀ a, P a → Q (f a)) : Reads Q W ds (f <$> x) := by
  cases hx with
  | ok ha => exact .ok (hf _ ha)
  | refused hcode hmessage => exact .refused hcode hmessage
  | unwritable hw => exact .unwritable hw

theorem reads_traverseEntries {S : α → β → Prop} {deps : Text × α → List Departure}
    {f : Text → α → Except ReadError β} {entries : List (Text × α)}
    (h : ∀ e ∈ entries, Reads (S e.2) W (deps e) (f e.1 e.2)) :
    Reads (fun es => List.Forall₂ (fun e e' => e'.1 = e.1 ∧ S e.2 e'.2) entries es.val) W
      (entries.flatMap deps) (Table.traverseEntries f entries) := by
  induction entries with
  | nil => exact .ok .nil
  | cons e rest ih =>
    obtain ⟨name, x⟩ := e
    have hrest := ih fun e he => h e (List.mem_cons_of_mem _ he)
    rw [Table.traverseEntries_cons, List.flatMap_cons]
    exact (h (name, x) List.mem_cons_self).bind fun y hy =>
      hrest.map fun others ho => List.Forall₂.cons ⟨rfl, hy⟩ ho

/-- The things of a table are read in turn, and keep their names and their order. -/
theorem reads_traverse {S : α → β → Prop} {deps : Text × α → List Departure}
    {f : Text → α → Except ReadError β} {t : Table α}
    (h : ∀ e ∈ t.entries, Reads (S e.2) W (deps e) (f e.1 e.2)) :
    Reads (fun t' : Table β => List.Forall₂ (fun e e' => e'.1 = e.1 ∧ S e.2 e'.2)
      t.entries t'.entries) W (t.entries.flatMap deps) (t.traverse f) := by
  rw [Table.traverse_eq_map]
  exact (reads_traverseEntries h).map fun es hes => hes

/-! ### Tables and texts -/

theorem namedEntries_of_name {place name : Text} (h : name ≠ []) (v : Value)
    (rest : List (Value × Value)) : namedEntries place ((.text name, v) :: rest) =
      (fun others => (name, v) :: others) <$> namedEntries place rest := by
  obtain ⟨c, cs, rfl⟩ := List.exists_cons_of_ne_nil h
  rw [namedEntries]
  cases namedEntries place rest <;> rfl

theorem namedEntries_of_badKey {place : Text} {k : Value} (h : nameOf? k = none) (v : Value)
    (rest : List (Value × Value)) :
    namedEntries place ((k, v) :: rest) = schemaFault (.badKey place k) := by
  unfold namedEntries
  split
  · cases h
  · rfl

/-- The entries of a mapping are read up to the first key that is no name. -/
theorem reads_namedEntries {entries : List (Value × Value)} (place : Text)
    (h : W → ∀ e ∈ entries, e.1.IsWritable) :
    Reads (fun es => es = fieldEntries entries ∧
        entries = es.map (fun e => (.text e.1, e.2)) ∧ ∀ e ∈ es, e.1 ≠ [])
      W (badKeys place entries) (namedEntries place entries) := by
  induction entries with
  | nil => exact .ok ⟨rfl, rfl, fun _ he => nomatch he⟩
  | cons e rest ih =>
    obtain ⟨k, v⟩ := e
    cases hname : nameOf? k with
    | none =>
      have hdepartures : badKeys place ((k, v) :: rest)
          = .badKey place k :: badKeys place rest := by
        rw [badKeys, List.filter_cons_of_pos (by simp [hname])]
        rfl
      rw [namedEntries_of_badKey hname, hdepartures]
      refine Reads.refused (d := .badKey place k) rfl fun hw => ?_
      obtain ⟨s, hs⟩ := h hw (k, v) List.mem_cons_self
      exact ⟨_, bind_eq_ok_iff.mpr ⟨s, hs, rfl⟩⟩
    | some name =>
      have hdepartures : badKeys place ((k, v) :: rest) = badKeys place rest := by
        rw [badKeys, List.filter_cons_of_neg (by simp [hname])]
        rfl
      have hfields : fieldEntries ((k, v) :: rest) = (name, v) :: fieldEntries rest :=
        List.filterMap_cons_some (by rw [hname]; rfl)
      obtain ⟨rfl, hne⟩ := text_of_nameOf? hname
      rw [namedEntries_of_name hne, hdepartures]
      refine (ih fun hw e he => h hw e (List.mem_cons_of_mem _ he)).map ?_
      rintro others ⟨rfl, hentries, hnames⟩
      refine ⟨hfields.symm, ?_, List.forall_mem_cons.mpr ⟨hne, hnames⟩⟩
      rw [List.map_cons, ← hentries]

/-- A table is read as what its names are bound to. -/
theorem reads_readMapping (place : Text) (h : W → raw.IsWritable) :
    Reads (fun t => t = fields raw ∧ IsTable raw) W (tableDepartures place raw)
      (readMapping place raw) := by
  unfold readMapping
  split
  · exact .ok ⟨rfl, .inl rfl⟩
  · next entries =>
    have hentries := reads_namedEntries place fun hw e he => ((h hw).entry e he).1
    refine hentries.map (f := Table.ofList) ?_
    rintro es ⟨rfl, hmap, hnames⟩
    exact ⟨rfl, .inr ⟨_, congrArg Value.map hmap, hnames⟩⟩
  · next hnull hmap =>
    have hdepartures : tableDepartures place raw = [.notAMapping place raw.kindName] := by
      unfold tableDepartures
      split
      · exact absurd rfl hnull
      · exact absurd rfl (hmap _)
      · rfl
    rw [hdepartures]
    exact Reads.refused (d := .notAMapping place raw.kindName) rfl fun _ => ⟨_, rfl⟩

theorem reads_readSubMapping (place : Text) (name : String) (h : W → raw.IsWritable) :
    Reads (fun t => t = fields (part raw name) ∧ IsTable (part raw name)) W
      (tableDepartures place (part raw name)) (readSubMapping place (fields raw) name) :=
  reads_readMapping place fun hw => isWritable_part (h hw) name

theorem reads_readRequiredText (place : Text) (name : String) :
    Reads (fun s => s ≠ [] ∧ (fields raw).get? name.toList = some (.text s)) W
      (textDepartures place raw name) (readRequiredText place (fields raw) name) := by
  have hmissing (P : Text → Prop) : Reads P W [.missing place name.toList]
      (schemaFault (.missing place name.toList)) :=
    Reads.refused (d := .missing place name.toList) rfl fun _ => ⟨_, rfl⟩
  rw [textDepartures, readRequiredText]
  cases (fields raw).get? name.toList with
  | none => exact hmissing _
  | some v =>
    cases v with
    | text s =>
      cases s with
      | nil => exact hmissing _
      | cons c cs => exact .ok ⟨List.cons_ne_nil _ _, rfl⟩
    | _ => exact hmissing _

/-- A description is what a value is displayed as, without white space around; where none is given,
it is empty. -/
inductive IsDescription : Value → Text → Prop
  | absent : IsDescription .null []
  | given {v : Value} {s : Text} : v ≠ .null → v.display = .ok s → IsDescription v (Text.trim s)

theorem reads_readOptionalText {name : String} (h : W → raw.IsWritable) :
    Reads (IsDescription (part raw name)) W [] (readOptionalText (fields raw) name) := by
  unfold part readOptionalText
  split
  · next hget =>
    rw [hget]
    exact .ok .absent
  · next hget =>
    rw [hget]
    exact .ok .absent
  · next v hnull hget =>
    rw [hget]
    split
    · next s hs => exact .ok (.given hnull hs)
    · next e he =>
      refine .unwritable fun hw => ?_
      have hv := isWritable_of_mem_fields (h hw) _ (Table.get?_eq_some_iff.mp hget)
      obtain ⟨s, hs⟩ := hv.exists_display
      rw [hs] at he
      cases he

theorem reads_spec {node : Value} (h : W → node.IsWritable) :
    Reads (fun spec => ValueSpec.ofValue node = .ok spec) W (specDepartures node)
      (ValueSpec.ofValue node) := by
  rw [specDepartures]
  cases hread : ValueSpec.ofValue node with
  | ok spec => exact .ok rfl
  | error e =>
    have hfault := (ValueSpec.isSpecFault_of_ofValue hread).mono h
    cases e with
    | schema refusal => exact Reads.refused (d := .values node refusal) hfault.1 hfault.2
    | numeral e => exact .unwritable hfault

/-! ### The levels of a document -/

/-- An attribute is what a value states. -/
structure IsAttributeOf (raw : Value) (a : Attribute) : Prop where
  mapping : IsMapping raw
  values : ∃ node, (fields raw).get? "values".toList = some node ∧
    ValueSpec.ofValue node = .ok a.values
  description : IsDescription (part raw "description") a.description
  ref : IsDescription (part raw "ref") a.ref

/-- An event is what a value states. -/
structure IsEventOf (raw : Value) (e : Event) : Prop where
  mapping : IsMapping raw
  interface : (fields raw).get? "interface".toList = some (.text e.interface) ∧ e.interface ≠ []
  description : IsDescription (part raw "description") e.description
  ref : IsDescription (part raw "ref") e.ref

/-- An element is what a value states: its attributes and events have the names of the entries of the
tables, in their order. -/
structure IsElementOf (raw : Value) (e : Element) : Prop where
  mapping : IsMapping raw
  host : (fields raw).get? "interface".toList = some (.text e.host) ∧ e.host ≠ []
  description : IsDescription (part raw "description") e.description
  ref : IsDescription (part raw "ref") e.ref
  attributesTable : IsTable (part raw "attributes")
  attributes : List.Forall₂ (fun x y => y.1 = x.1 ∧ IsAttributeOf x.2 y.2)
    (fields (part raw "attributes")).entries e.interface.attributes.entries
  eventsTable : IsTable (part raw "events")
  events : List.Forall₂ (fun x y => y.1 = x.1 ∧ IsEventOf x.2 y.2)
    (fields (part raw "events")).entries e.interface.events.entries

/-- A vocabulary is what a document states. -/
structure IsVocabularyOf (raw : Value) (v : Vocabulary) : Prop where
  mapping : IsMapping raw
  namespaceUri : (fields raw).get? "namespace".toList = some (.text v.namespaceUri) ∧
    v.namespaceUri ≠ []
  versionTable : IsTable (part raw "version")
  ref : IsDescription (part (part raw "version") "ref") v.version.ref
  pubdate : IsDescription (part (part raw "version") "pubdate") v.version.pubdate
  elementsTable : IsTable (part raw "elements")
  elements : List.Forall₂ (fun x y => y.1 = x.1 ∧ IsElementOf x.2 y.2)
    (fields (part raw "elements")).entries v.elements.entries

theorem reads_attribute (place : Text) (h : W → raw.IsWritable) :
    Reads (IsAttributeOf raw) W (attributeDepartures place raw) (Attribute.ofValue place raw) := by
  unfold Attribute.ofValue attributeDepartures valuesDepartures
  refine (reads_readMapping place h).bind ?_
  rintro t ⟨rfl, htable⟩
  cases hget : (fields raw).get? "values".toList with
  | none => exact Reads.refused (d := .missing place "values".toList) rfl fun _ => ⟨_, rfl⟩
  | some node =>
    refine (reads_readOptionalText h).andThen fun description hdescription => ?_
    refine (reads_readOptionalText h).andThen fun ref href => ?_
    have hnode : W → node.IsWritable := fun hw =>
      isWritable_of_mem_fields (h hw) _ (Table.get?_eq_some_iff.mp hget)
    refine (reads_spec hnode).bind fun spec hspec => ?_
    exact .ok ⟨htable.isMapping hget, ⟨node, hget, hspec⟩, hdescription, href⟩

theorem reads_event (place : Text) (h : W → raw.IsWritable) :
    Reads (IsEventOf raw) W (eventDepartures place raw) (Event.ofValue place raw) := by
  unfold Event.ofValue eventDepartures
  refine (reads_readMapping place h).bind ?_
  rintro t ⟨rfl, htable⟩
  refine (reads_readOptionalText h).andThen fun description hdescription => ?_
  refine (reads_readOptionalText h).andThen fun ref href => ?_
  refine (reads_readRequiredText place "interface").bind ?_
  rintro interface ⟨hne, hget⟩
  exact .ok ⟨htable.isMapping hget, ⟨hget, hne⟩, hdescription, href⟩

theorem reads_element (name : Text) (h : W → raw.IsWritable) :
    Reads (IsElementOf raw) W (elementDepartures name raw) (Element.ofValue name raw) := by
  unfold Element.ofValue elementDepartures
  refine (reads_readMapping _ h).bind ?_
  rintro t ⟨rfl, htable⟩
  refine (reads_readSubMapping _ "attributes" h).bind ?_
  rintro t ⟨rfl, hattributesTable⟩
  refine (reads_readSubMapping _ "events" h).bind ?_
  rintro t ⟨rfl, heventsTable⟩
  refine (reads_readOptionalText h).andThen fun description hdescription => ?_
  refine (reads_readOptionalText h).andThen fun ref href => ?_
  refine (reads_readRequiredText _ "interface").bind ?_
  rintro host ⟨hne, hget⟩
  refine (reads_traverse (S := IsAttributeOf) fun x hx =>
    reads_attribute (place "element" name ++ place " attribute" x.1) fun hw =>
      isWritable_of_mem_fields (isWritable_part (h hw) _) x hx).bind fun _ hattributes => ?_
  refine (reads_traverse (S := IsEventOf) fun x hx =>
    reads_event (place "element" name ++ place " event" x.1) fun hw =>
      isWritable_of_mem_fields (isWritable_part (h hw) _) x hx).bind fun _ hevents => ?_
  exact .ok ⟨htable.isMapping hget, ⟨hget, hne⟩, hdescription, href, hattributesTable, hattributes,
    heventsTable, hevents⟩

theorem reads_vocabulary (h : W → raw.IsWritable) :
    Reads (IsVocabularyOf raw) W (departures raw) (Vocabulary.ofValue raw) := by
  unfold Vocabulary.ofValue departures
  refine (reads_readMapping _ h).bind ?_
  rintro t ⟨rfl, htable⟩
  refine (reads_readSubMapping _ "version" h).bind ?_
  rintro t ⟨rfl, hversionTable⟩
  refine (reads_readSubMapping _ "elements" h).bind ?_
  rintro t ⟨rfl, helementsTable⟩
  refine (reads_readRequiredText _ "namespace").bind ?_
  rintro uri ⟨hne, hget⟩
  refine (reads_readOptionalText fun hw => isWritable_part (h hw) _).andThen fun ref href => ?_
  refine (reads_readOptionalText fun hw => isWritable_part (h hw) _).andThen
    fun pubdate hpubdate => ?_
  refine (reads_traverse (S := IsElementOf) fun x hx => reads_element x.1 fun hw =>
    isWritable_of_mem_fields (isWritable_part (h hw) _) x hx).bind fun elements helements => ?_
  exact .ok ⟨htable.isMapping hget, ⟨hget, hne⟩, hversionTable, href, hpubdate, helementsTable,
    helements⟩

end

/-! ### What is read -/

theorem IsAttributeOf.isAttribute {raw : Value} {a : Attribute} (h : IsAttributeOf raw a) :
    IsAttribute raw where
  mapping := h.mapping
  values := by
    obtain ⟨node, hget, hspec⟩ := h.values
    exact ⟨node, _, hget, hspec⟩

theorem IsEventOf.isEvent {raw : Value} {e : Event} (h : IsEventOf raw e) : IsEvent raw where
  mapping := h.mapping
  interface := ⟨_, h.interface.2, h.interface.1⟩

theorem IsElementOf.isElement {raw : Value} {e : Element} (h : IsElementOf raw e) :
    IsElement raw where
  mapping := h.mapping
  interface := ⟨_, h.host.2, h.host.1⟩
  attributesTable := h.attributesTable
  eventsTable := h.eventsTable
  attributes := by
    intro x hx
    obtain ⟨y, -, -, hy⟩ := exists_mem_of_forall₂ h.attributes hx
    exact hy.isAttribute
  events := by
    intro x hx
    obtain ⟨y, -, -, hy⟩ := exists_mem_of_forall₂ h.events hx
    exact hy.isEvent

/-- A vocabulary is what a document states only if the document has the form of one. -/
theorem IsVocabularyOf.isVocabulary {raw : Value} {v : Vocabulary} (h : IsVocabularyOf raw v) :
    IsVocabulary raw where
  mapping := h.mapping
  namespaceUri := ⟨_, h.namespaceUri.2, h.namespaceUri.1⟩
  version := h.versionTable
  elementsTable := h.elementsTable
  elements := by
    intro x hx
    obtain ⟨y, -, -, hy⟩ := exists_mem_of_forall₂ h.elements hx
    exact hy.isElement

/-- The elements are those of the document, in its order. -/
theorem IsVocabularyOf.names_eq {raw : Value} {v : Vocabulary} (h : IsVocabularyOf raw v)
    {entries : List (Text × Value)}
    (hraw : part raw "elements" = .map (entries.map fun e => (.text e.1, e.2)))
    (hdistinct : (entries.map Prod.fst).Nodup) : v.elements.names = entries.map Prod.fst := by
  have htable := h.elementsTable
  have helements := h.elements
  rw [hraw] at htable helements
  rw [fields_entries htable.names_ne_nil hdistinct] at helements
  exact map_eq_of_forall₂ (fun _ _ hxy => hxy.1) helements

/-- What reading a document comes to. It fails on a number only where the document cannot be written;
apart from that, it tells documents of the form from others. -/
structure IsReading (raw : Value) (outcome : Except ReadError Vocabulary) : Prop where
  unwritable : (∃ e, outcome = .error (.numeral e)) → ¬ raw.IsWritable
  accepts_iff : (∀ e, outcome ≠ .error (.numeral e)) →
    ((∃ v, outcome = .ok v) ↔ IsVocabulary raw)
  /-- the vocabulary is what the document states -/
  faithful : ∀ v, outcome = .ok v → IsVocabularyOf raw v
  /-- with the elements in its order, since the keys of a loaded mapping differ -/
  names_eq : ∀ v (entries : List (Text × Value)), outcome = .ok v →
    part raw "elements" = .map (entries.map fun e => (.text e.1, e.2)) →
    (entries.map Prod.fst).Nodup → v.elements.names = entries.map Prod.fst
  /-- and otherwise the first departure is reported, under its code -/
  refuses : (∀ e, outcome ≠ .error (.numeral e)) → ¬ IsVocabulary raw →
    ∃ first rest, departures raw = first :: rest ∧ outcome = .error (.schema first.error) ∧
      first.error.code = first.code ∧ (raw.IsWritable → ∃ m, first.error.message = .ok m)

/-- The reader accepts the documents of the form of a vocabulary and no others, reads them as what
they state, and reports the first departure of any other. -/
theorem isReading_ofValue (raw : Value) : IsReading raw (Vocabulary.ofValue raw) := by
  have hreads : Reads (IsVocabularyOf raw) raw.IsWritable (departures raw)
      (Vocabulary.ofValue raw) := reads_vocabulary id
  generalize Vocabulary.ofValue raw = outcome at hreads
  generalize hdepartures : departures raw = ds at hreads
  cases hreads with
  | @ok v hv =>
    exact {
      unwritable := fun ⟨_, h⟩ => nomatch h
      accepts_iff := fun _ => iff_of_true ⟨v, rfl⟩ hv.isVocabulary
      faithful := by
        rintro _ ⟨⟩
        exact hv
      names_eq := by
        rintro _ entries ⟨⟩ hraw hdistinct
        exact hv.names_eq hraw hdistinct
      refuses := fun _ hnot => absurd hv.isVocabulary hnot }
  | @refused d rest hcode hmessage =>
    have hnot : ¬ IsVocabulary raw := by
      intro h
      rw [h.departures_eq_nil] at hdepartures
      cases hdepartures
    exact {
      unwritable := fun ⟨_, h⟩ => nomatch h
      accepts_iff := fun _ => iff_of_false (fun ⟨_, h⟩ => nomatch h) hnot
      faithful := fun _ h => nomatch h
      names_eq := fun _ _ h => nomatch h
      refuses := fun _ _ => ⟨d, rest, hdepartures, rfl, hcode, hmessage⟩ }
  | @unwritable e _ hw =>
    exact {
      unwritable := fun _ => hw
      accepts_iff := fun h => absurd rfl (h e)
      faithful := fun _ h => nomatch h
      names_eq := fun _ _ h => nomatch h
      refuses := fun h => absurd rfl (h e) }

/-- A document of the form is read as what it states, with nothing where nothing is written. -/
example : Vocabulary.ofValue (.map [(.text "namespace".toList, .text "u".toList),
      (.text "elements".toList, .map [(.text "a".toList, .map
        [(.text "interface".toList, .text "X".toList)])])])
    = .ok ⟨"u".toList, ⟨[], []⟩, .ofList [("a".toList, ⟨[], [], "X".toList, .empty⟩)]⟩ :=
  rfl

/-- In others the tables are checked before the texts, -/
example : Vocabulary.ofValue (.map [(.text "version".toList, .int 1)])
    = .error (.schema (.notAMapping "version".toList "int".toList)) :=
  rfl

/-- and none is of the form without a namespace. -/
example : Vocabulary.ofValue .null
    = .error (.schema (.missing "vocabulary document".toList "namespace".toList)) :=
  rfl

end Document

end DomBindings
