import DomBindings.Proofs.Declarations
import DomBindings.Proofs.Lines

/-!
# Reading a body back

The body of an interface holds all that its tables say of names, types and interfaces. The line of
an entry begins with two spaces and a quote, which no line of a comment does, whatever is said in it
(`filter_opensProperty_lines`), so the lines of the entries can be told from the others. Such a line
is taken apart into a key and a type, and the key shows by its first letters whether it is that of a
handler (`entryOf?`); no attribute has such a key, or there would be no body. So tables with one
body for one host say the same.
-/

namespace DomBindings

open Traversal

/-- What the line of an entry says. -/
inductive StatedEntry where
  /-- the name of an attribute and the text of its type -/
  | attribute (name type : Text)
  /-- the name of an event and its interface -/
  | event (name eventInterface : Text)
deriving DecidableEq, Repr

/-- The name and the type of an attribute. -/
def StatedEntry.attribute? : StatedEntry → Option (Text × Text)
  | .attribute name type => some (name, type)
  | .event _ _ => none

/-- The name and the interface of an event. -/
def StatedEntry.event? : StatedEntry → Option (Text × Text)
  | .event name eventInterface => some (name, eventInterface)
  | .attribute _ _ => none

namespace InterfaceBody

/-! ### The reader -/

/-- Reads the interface of an event from the type of its handlers, given their host. -/
def readHandler? (host type : Text) : Option Text := do
  let rest ← Text.after? ("EventHandler<".toList ++ host ++ ", ".toList) type
  if rest.getLast? = some '>' then some rest.dropLast else none

/-- Reads the line of an entry. A key that begins with `on` is that of an event. -/
def entryOf? (host line : Text) : Option StatedEntry := do
  let (key, type) ← readBinding? "?: ".toList line
  match Text.after? "on".toList key with
  | some name => (readHandler? host type).map (.event name)
  | none => some (.attribute key type)

/-- Whether a line begins with two spaces and a quote. -/
def opensProperty (line : Text) : Bool :=
  "  \"".toList.isPrefixOf line

theorem readHandler?_handlerType (host eventInterface : Text) :
    readHandler? host (Property.handlerType host eventInterface) = some eventInterface := by
  have htype : Property.handlerType host eventInterface
      = "EventHandler<".toList ++ host ++ ", ".toList ++ (eventInterface ++ ['>']) :=
    List.append_assoc _ _ _
  rw [readHandler?, htype, Text.after?_append, Option.bind_eq_bind, Option.bind_some,
    List.getLast?_concat, if_pos rfl, List.dropLast_concat]

/-- The line of an attribute says its name and its type, -/
theorem entryOf?_ofAttribute {name : Text} {a : Attribute} {p : Property}
    (h : Property.ofAttribute name a = .ok p) (host : Text) :
    entryOf? host p.line = some (.attribute p.key p.type) := by
  obtain ⟨hreserved, type, -, rfl⟩ := Property.ofAttribute_eq_ok_iff.mp h
  have hafter : Text.after? "on".toList name = none := by
    change (if Property.handlerPrefix.isPrefixOf name then _ else none) = none
    rw [hreserved, if_neg Bool.false_ne_true]
  rw [entryOf?, Property.line_eq, readBinding?_bindingLine]
  simp only [Option.bind_eq_bind, Option.bind_some, hafter]

/-- and that of an event its name and its interface. -/
theorem entryOf?_ofEvent (host name : Text) (e : Event) :
    entryOf? host (Property.ofEvent host name e).line = some (.event name e.interface) := by
  have hafter : Text.after? "on".toList (Property.handlerPrefix ++ name) = some name :=
    Text.after?_append _ _
  rw [entryOf?, Property.line_eq, readBinding?_bindingLine]
  simp only [Option.bind_eq_bind, Option.bind_some, Property.ofEvent, hafter,
    readHandler?_handlerType, Option.map_some]

/-! ### The lines of entries -/

/-- No line of a comment begins as that of an entry does. -/
theorem opensProperty_of_mem_comment {description ref line : Text}
    (h : line ∈ DocComment.lines description ref "  ".toList) : opensProperty line = false := by
  obtain ⟨rest, rfl | rfl⟩ := DocComment.begins_of_mem_lines h
  · rfl
  · rfl

theorem filter_opensProperty_property (p : Property) :
    p.lines.filter opensProperty = [p.line] := by
  have hcomment : (DocComment.lines p.description p.ref "  ".toList).filter opensProperty = [] :=
    List.filter_eq_nil_iff.mpr fun line hline => by
      rw [opensProperty_of_mem_comment hline]
      exact Bool.false_ne_true
  have hline : opensProperty p.line = true := rfl
  rw [Property.lines, List.filter_append, hcomment, List.nil_append,
    List.filter_cons_of_pos hline, List.filter_nil]

/-- Among the lines of a body, those of the entries are known by how they begin. -/
theorem filter_opensProperty_lines (ps : List Property) :
    (lines ps).filter opensProperty = ps.map Property.line := by
  have hinner : (innerLines ps).filter opensProperty = ps.map Property.line := by
    rw [innerLines, ← List.filterMap_eq_filter, filterMap_intercalate rfl, List.flatMap_map]
    simp only [List.filterMap_eq_filter, filter_opensProperty_property]
    exact List.map_eq_flatMap.symm
  have hopening : opensProperty ['\x7b'] = false := rfl
  have hclosing : opensProperty ['\x7d'] = false := rfl
  rw [lines, List.cons_append, List.filter_cons, hopening, List.filter_append, hinner,
    List.filter_cons, hclosing]
  simp

/-- The lines of the last property come last, and of these the one that declares it. -/
theorem exists_innerLines_append (ps : List Property) (p : Property) :
    ∃ before, innerLines (ps ++ [p]) = before ++ [p.line] := by
  induction ps with
  | nil => exact ⟨_, List.intercalate_singleton⟩
  | cons q ps ih =>
    obtain ⟨before, hbefore⟩ := ih
    obtain ⟨next, rest, hnext⟩ := List.exists_cons_of_ne_nil (List.append_ne_nil_of_right_ne_nil
      (ps.map Property.lines) (List.cons_ne_nil p.lines []))
    rw [innerLines, List.map_append, List.map_singleton, hnext] at hbefore
    refine ⟨q.lines ++ [[]] ++ before, ?_⟩
    rw [innerLines, List.map_append, List.map_singleton, List.map_cons, List.cons_append, hnext,
      List.intercalate_cons_cons, hbefore]
    simp only [List.append_assoc]

/-- The line in front of the closing brace is not blank. -/
theorem exists_ink_before_closing (ps : List Property) :
    ∀ line, (lines ps).dropLast.getLast? = some line → ∃ c ∈ line, Text.isBlank c = false := by
  intro line hline
  rw [lines, List.dropLast_concat] at hline
  rcases ps.eq_nil_or_concat with rfl | ⟨init, p, rfl⟩
  · obtain rfl := Option.some.inj hline
    exact ⟨'\x7b', List.mem_singleton_self _, rfl⟩
  · -- the last line of a property ends with a semicolon
    obtain ⟨before, hbefore⟩ := exists_innerLines_append init p
    rw [List.concat_eq_append, hbefore, ← List.cons_append, List.getLast?_concat] at hline
    obtain rfl := Option.some.inj hline
    exact ⟨';', List.mem_append_right _ (List.mem_singleton_self _), rfl⟩

end InterfaceBody

/-! ### What the lines say -/

/-- An interface has an entry that says this, with a description and a reference. -/
inductive Interface.Documents (i : Interface) : StatedEntry → Text → Text → Prop
  | attribute {name type : Text} {a : Attribute} :
      i.attributes.get? name = some a → a.values.typeText = .ok type →
      Documents i (.attribute name type) a.description a.ref
  | event {name : Text} {e : Event} : i.events.get? name = some e →
      Documents i (.event name e.interface) e.description e.ref

namespace InterfaceBody

/-- The lines of an entry: its comment, and behind it the line from which it is read. -/
def IsBlockOf (i : Interface) (host : Text) (block : List Text) (entry : StatedEntry) : Prop :=
  ∃ description ref line, i.Documents entry description ref ∧
    block = DocComment.lines description ref "  ".toList ++ [line] ∧
    entryOf? host line = some entry

/-- The entries of attributes, and those of events behind them. -/
def stated (attributes events : List (Text × Text)) : List StatedEntry :=
  attributes.map (fun e => .attribute e.1 e.2) ++ events.map fun e => .event e.1 e.2

/-- Lines that state the entries of an interface: names and types of its attributes, and names and
interfaces of its events. -/
structure States (i : Interface) (host : Text) (lines : List Text)
    (attributes events : List (Text × Text)) : Prop where
  /-- between braces the lines of the entries, with an empty line between two of them -/
  layout : ∃ blocks, lines = ['\x7b'] :: List.intercalate [[]] blocks ++ [['\x7d']] ∧
    List.Forall₂ (IsBlockOf i host) blocks (stated attributes events)
  /-- and no blank line before the brace -/
  closing : ∀ line, lines.dropLast.getLast? = some line → ∃ c ∈ line, Text.isBlank c = false
  /-- the lines that begin as that of an entry does are one for each, and read as it -/
  read : (lines.filter opensProperty).map (entryOf? host)
    = (stated attributes events).map some
  attributes_increasing : attributes.Pairwise fun a b => a.1 < b.1
  attributes_iff : ∀ name type, (name, type) ∈ attributes ↔
    ∃ a, i.attributes.get? name = some a ∧ a.values.typeText = .ok type
  events_increasing : events.Pairwise fun a b => a.1 < b.1
  events_iff : ∀ name eventInterface, (name, eventInterface) ∈ events ↔
    ∃ e, i.events.get? name = some e ∧ e.interface = eventInterface

/-- A property says what an entry does, and with its words. -/
def Says (i : Interface) (host : Text) (p : Property) (entry : StatedEntry) : Prop :=
  i.Documents entry p.description p.ref ∧ entryOf? host p.line = some entry

theorem says_of_ofAttribute {i : Interface} {name : Text} {a : Attribute} {p : Property}
    (hget : i.attributes.get? name = some a) (h : Property.ofAttribute name a = .ok p)
    (host : Text) : Says i host p (.attribute p.key p.type) := by
  refine ⟨?_, entryOf?_ofAttribute h host⟩
  obtain ⟨-, type, htype, rfl⟩ := Property.ofAttribute_eq_ok_iff.mp h
  exact .attribute hget htype

theorem says_of_ofEvent {i : Interface} {name : Text} {e : Event}
    (hget : i.events.get? name = some e) (host : Text) :
    Says i host (Property.ofEvent host name e) (.event name e.interface) :=
  ⟨.event hget, entryOf?_ofEvent host name e⟩

variable {i : Interface} {as : List Property}

/-- The properties of attributes have their names and types, -/
theorem mem_map_attributeProperties_iff (has : i.attributeProperties = .ok as) (name type : Text) :
    (name, type) ∈ as.map (fun p => (p.key, p.type)) ↔
      ∃ a, i.attributes.get? name = some a ∧ a.values.typeText = .ok type := by
  have hlisting := Interface.attributeProperties_listing has
  rw [List.mem_map]
  constructor
  · rintro ⟨p, hp, heq⟩
    obtain ⟨name', a, hget, hof⟩ := (hlisting.mem_iff p).mp hp
    obtain ⟨-, type', htype, rfl⟩ := Property.ofAttribute_eq_ok_iff.mp hof
    obtain ⟨rfl, rfl⟩ := Prod.mk.inj heq
    exact ⟨a, hget, htype⟩
  · rintro ⟨a, hget, htype⟩
    obtain ⟨p, hof⟩ := Interface.attributeProperties_ok_iff.mp ⟨as, has⟩ name a hget
    refine ⟨p, (hlisting.mem_iff p).mpr ⟨name, a, hget, hof⟩, ?_⟩
    obtain ⟨-, type', htype', rfl⟩ := Property.ofAttribute_eq_ok_iff.mp hof
    rw [Except.ok.inj (htype.symm.trans htype')]

/-- and the entries of events in the order of their names have those names and interfaces. -/
theorem mem_map_events_byName_iff (i : Interface) (name eventInterface : Text) :
    (name, eventInterface) ∈ i.events.byName.map (fun e => (e.1, e.2.interface)) ↔
      ∃ e, i.events.get? name = some e ∧ e.interface = eventInterface := by
  rw [List.mem_map]
  constructor
  · rintro ⟨⟨name', e⟩, he, heq⟩
    obtain ⟨rfl, rfl⟩ := Prod.mk.inj heq
    exact ⟨e, Table.get?_eq_some_iff.mpr (Table.mem_byName.mp he), rfl⟩
  · rintro ⟨e, hget, rfl⟩
    exact ⟨(name, e), Table.mem_byName.mpr (Table.get?_eq_some_iff.mp hget), rfl⟩

/-- The properties of an interface say its entries, one for one. -/
theorem forall₂_stating (has : i.attributeProperties = .ok as) (host : Text) :
    List.Forall₂ (Says i host) (as ++ i.eventProperties host)
      (stated (as.map fun p => (p.key, p.type))
        (i.events.byName.map fun e => (e.1, e.2.interface))) := by
  refine List.rel_append ?_ ?_
  · rw [List.map_map, List.forall₂_map_right_iff, List.forall₂_same]
    intro p hp
    obtain ⟨name, a, hget, hof⟩ := ((Interface.attributeProperties_listing has).mem_iff p).mp hp
    exact says_of_ofAttribute hget hof host
  · rw [Interface.eventProperties, List.map_map, List.forall₂_map_right_iff,
      List.forall₂_map_left_iff, List.forall₂_same]
    intro e he
    exact says_of_ofEvent (Table.get?_eq_some_iff.mpr (Table.mem_byName.mp he)) host

/-- The lines of a body state the entries of the interface. -/
theorem states_lines (has : i.attributeProperties = .ok as) (host : Text) :
    States i host (lines (as ++ i.eventProperties host)) (as.map fun p => (p.key, p.type))
      (i.events.byName.map fun e => (e.1, e.2.interface)) where
  layout := by
    refine ⟨_, rfl, List.forall₂_map_left_iff.mpr ((forall₂_stating has host).imp ?_)⟩
    exact fun p entry h => ⟨_, _, p.line, h.1, rfl, h.2⟩
  closing := exists_ink_before_closing _
  read := by
    rw [filter_opensProperty_lines, List.map_map]
    exact (map_eq_of_forall₂ (fun p entry h => h.2.symm) (forall₂_stating has host)).symm
  attributes_increasing :=
    List.pairwise_map.mpr (Interface.attributeProperties_listing has).increasing
  attributes_iff := mem_map_attributeProperties_iff has
  events_increasing := List.pairwise_map.mpr i.events.byName_increasing
  events_iff := mem_map_events_byName_iff i

/-! ### Bodies that are the same -/

/-- The attributes and the events are known from what is stated. -/
theorem stated_inj {attributes events attributes' events' : List (Text × Text)}
    (h : stated attributes events = stated attributes' events') :
    attributes = attributes' ∧ events = events' := by
  have hattributes (as es : List (Text × Text)) :
      (stated as es).filterMap StatedEntry.attribute? = as := by
    simp [stated, List.filterMap_map, Function.comp_def, StatedEntry.attribute?]
  have hevents (as es : List (Text × Text)) :
      (stated as es).filterMap StatedEntry.event? = es := by
    simp [stated, List.filterMap_map, Function.comp_def, StatedEntry.event?]
  constructor
  · rw [← hattributes attributes events, h, hattributes]
  · rw [← hevents attributes events, h, hevents]

/-- The lines determine what is stated. -/
theorem States.eq_of_lines_eq {j : Interface} {host : Text} {lines : List Text}
    {attributes events attributes' events' : List (Text × Text)}
    (hi : States i host lines attributes events) (hj : States j host lines attributes' events') :
    attributes = attributes' ∧ events = events' :=
  stated_inj (List.map_injective_iff.mpr (fun _ _ => Option.some.inj) (hi.read.symm.trans hj.read))

/-- Two look-ups give the same under a view if each has what the other has. -/
theorem map_eq_map_of_exists {α β : Type} {f : α → β} {x y : Option α}
    (hx : ∀ a, x = some a → ∃ b, y = some b ∧ f b = f a)
    (hy : ∀ b, y = some b → ∃ a, x = some a ∧ f a = f b) : x.map f = y.map f := by
  cases x with
  | none =>
    cases y with
    | none => rfl
    | some b =>
      obtain ⟨_, h, -⟩ := hy b rfl
      cases h
  | some a =>
    obtain ⟨b, rfl, hb⟩ := hx a rfl
    exact congrArg some hb.symm

/-- Where an attribute is in a table, one of the same type is in a table with the same body. -/
theorem States.exists_attribute {j : Interface} {host : Text} {lines : List Text}
    {attributes events attributes' events' : List (Text × Text)}
    (has : i.attributeProperties = .ok as)
    (hi : States i host lines attributes events) (hj : States j host lines attributes' events')
    {name : Text} {a : Attribute} (hget : i.attributes.get? name = some a) :
    ∃ b, j.attributes.get? name = some b ∧ b.values.typeText = a.values.typeText := by
  obtain ⟨p, hof⟩ := Interface.attributeProperties_ok_iff.mp ⟨as, has⟩ name a hget
  obtain ⟨-, type, htype, -⟩ := Property.ofAttribute_eq_ok_iff.mp hof
  obtain ⟨rfl, -⟩ := hi.eq_of_lines_eq hj
  rw [htype]
  exact (hj.attributes_iff name type).mp ((hi.attributes_iff name type).mpr ⟨a, hget, htype⟩)

/-- And where an event is in it, one with the same interface is. -/
theorem States.exists_event {j : Interface} {host : Text} {lines : List Text}
    {attributes events attributes' events' : List (Text × Text)}
    (hi : States i host lines attributes events) (hj : States j host lines attributes' events')
    {name : Text} {e : Event} (hget : i.events.get? name = some e) :
    ∃ f, j.events.get? name = some f ∧ f.interface = e.interface := by
  obtain ⟨-, rfl⟩ := hi.eq_of_lines_eq hj
  exact (hj.events_iff name _).mp ((hi.events_iff name _).mpr ⟨e, hget, rfl⟩)

/-- **A body reads back.** Between its braces stand the lines of the entries, each behind its
comment, and no others begin with two spaces and a quote. Read from these lines, the attributes come
with their types and then the events with their interfaces, both in the order of their names. So
interfaces with one body for one host have attributes of the same names and types and events of the
same names and interfaces. -/
theorem lines_readBack {host : Text} {ps : List Property} (h : i.properties host = .ok ps) :
    (∃ attributes events, States i host (lines ps) attributes events) ∧
    ∀ (j : Interface) (ps' : List Property), j.properties host = .ok ps' → lines ps' = lines ps →
      (∀ name, (i.attributes.get? name).map (fun a => a.values.typeText)
        = (j.attributes.get? name).map fun a => a.values.typeText) ∧
      ∀ name, (i.events.get? name).map Event.interface
        = (j.events.get? name).map Event.interface := by
  obtain ⟨as, has, rfl⟩ := Interface.properties_eq_ok_iff.mp h
  have hi := states_lines has host
  refine ⟨⟨_, _, hi⟩, fun j ps' h' hlines => ?_⟩
  obtain ⟨bs, hbs, rfl⟩ := Interface.properties_eq_ok_iff.mp h'
  have hj := states_lines hbs host
  rw [hlines] at hj
  refine ⟨fun name => map_eq_map_of_exists (fun a ha => ?_) fun b hb => ?_,
    fun name => map_eq_map_of_exists (fun e he => ?_) fun f hf => ?_⟩
  · exact hi.exists_attribute has hj ha
  · exact hj.exists_attribute hbs hi hb
  · exact hi.exists_event hj he
  · exact hj.exists_event hi hf

/-- An interface whose names and comments imitate lines of a body. -/
def imitatingInterface : Interface where
  attributes := .ofList [("z".toList, ⟨"  \"a\"?: b;".toList, "*/".toList, .union []⟩),
    ("a\"?: \"x\";".toList, ⟨[], [], .literal "é\n".toList false⟩)]
  events := .ofList [("onload".toList, ⟨[], [], "A, B>".toList⟩)]

/-- Its body reads back all the same. -/
theorem lines_readBack_imitating : ∃ ps, imitatingInterface.properties "H, I".toList = .ok ps ∧
    ∃ attributes events, States imitatingInterface "H, I".toList (lines ps) attributes events ∧
      stated attributes events = [.attribute "a\"?: \"x\";".toList "\"é\\n\"".toList,
        .attribute "z".toList "never".toList, .event "onload".toList "A, B>".toList] := by
  obtain ⟨ps, h, hread⟩ : ∃ ps, imitatingInterface.properties "H, I".toList = .ok ps ∧
      ((lines ps).filter opensProperty).map (entryOf? "H, I".toList)
        = [some (.attribute "a\"?: \"x\";".toList "\"é\\n\"".toList),
          some (.attribute "z".toList "never".toList),
          some (.event "onload".toList "A, B>".toList)] := ⟨_, rfl, by decide +kernel⟩
  obtain ⟨⟨attributes, events, hstates⟩, -⟩ := lines_readBack h
  refine ⟨ps, h, attributes, events, hstates, ?_⟩
  exact List.map_injective_iff.mpr (fun _ _ => Option.some.inj) (hstates.read.symm.trans hread)

end InterfaceBody

end DomBindings
