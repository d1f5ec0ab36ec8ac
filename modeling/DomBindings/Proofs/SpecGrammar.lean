import DomBindings.Proofs.LevelOrder

/-!
# Which values state a specification

Reading a specification accepts a set of values that can be described without reading: texts, lists
of members of the set, mappings with a condition and values that are in it, and mappings with a type
(`StatesSpec`, the least such set). What is read mirrors the value constructor by constructor
(`Mirrors`), and this determines it: `ofValue_eq_ok_iff`. The specification under `member-values` is
read like any other, and from then on nobody looks at it.

A condition is kept as it is displayed, and a number may have too many digits for that. So the two
descriptions agree where all conditions can be displayed (`Value.ConditionsDisplay`), which is so in
every value that can be written.
-/

namespace DomBindings

open Traversal

namespace Value

/-! ### The parts of a value -/

/-- The values that a value holds, as far as reading follows them: the items of a list, and what the
keys of a mapping are bound to. -/
def parts : Value → List Value
  | .list items => items
  | .map entries => entries.map Prod.snd
  | _ => []

/-- One value stands in another, at any depth. -/
inductive StandsIn (v : Value) : Value → Prop
  /-- a value stands in itself -/
  | refl : StandsIn v v
  /-- and in what holds a value that it stands in -/
  | part {p raw : Value} : p ∈ raw.parts → StandsIn v p → StandsIn v raw

/-- Every condition that stands in a value can be displayed. -/
def ConditionsDisplay (raw : Value) : Prop :=
  ∀ entries condition, StandsIn (.map entries) raw →
    lookup? "when".toList entries = some condition → ∃ s, condition.display = .ok s

theorem sizeOf_lt_of_mem_parts {p raw : Value} (h : p ∈ raw.parts) : sizeOf p < sizeOf raw := by
  cases raw with
  | list items =>
    have hitems : sizeOf p < sizeOf items := List.sizeOf_lt_of_mem h
    simp only [list.sizeOf_spec]
    omega
  | map entries =>
    obtain ⟨⟨k, v⟩, hmem, rfl⟩ := List.mem_map.mp h
    have := List.sizeOf_lt_of_mem hmem
    simp only [map.sizeOf_spec, Prod.mk.sizeOf_spec] at this ⊢
    omega
  | _ => cases h

/-- What passes from the parts of a value to the value holds of all values. -/
theorem induction_parts {P : Value → Prop} (step : ∀ raw, (∀ p ∈ raw.parts, P p) → P raw)
    (raw : Value) : P raw :=
  step raw fun p hp =>
    have := sizeOf_lt_of_mem_parts hp
    induction_parts step p
termination_by sizeOf raw

/-- What a key is looked up to is a part of the mapping. -/
theorem mem_parts_of_lookup? {key : Text} {v : Value} {entries : List (Value × Value)}
    (h : lookup? key entries = some v) : v ∈ parts (.map entries) := by
  obtain ⟨k, hk⟩ := exists_mem_of_lookup? h
  exact List.mem_map.mpr ⟨(k, v), hk, rfl⟩

theorem ConditionsDisplay.part {p raw : Value} (h : raw.ConditionsDisplay) (hp : p ∈ raw.parts) :
    p.ConditionsDisplay :=
  fun entries condition hstands => h entries condition (.part hp hstands)

theorem IsWritable.of_standsIn {v raw : Value} (h : raw.IsWritable) (hstands : StandsIn v raw) :
    v.IsWritable := by
  induction hstands with
  | refl => exact h
  | @part p raw hp _ ih =>
    cases raw with
    | list items => exact ih (h.item p hp)
    | map entries =>
      obtain ⟨e, he, rfl⟩ := List.mem_map.mp hp
      exact ih (h.entry e he).2
    | _ => cases hp

/-- Where a value can be written, so can all that stands in it. -/
theorem IsWritable.conditionsDisplay {raw : Value} (h : raw.IsWritable) :
    raw.ConditionsDisplay := by
  intro entries condition hstands hlookup
  obtain ⟨k, hk⟩ := exists_mem_of_lookup? hlookup
  exact ((h.of_standsIn hstands).entry _ hk).2.exists_display

end Value

namespace ValueSpec

open Value

/-! ### The grammar -/

/-- The values that state a specification. -/
inductive StatesSpec : Value → Prop
  /-- a text does -/
  | text (s : Text) : StatesSpec (.text s)
  /-- a list of values that do -/
  | list {items : List Value} : (∀ item ∈ items, StatesSpec item) → StatesSpec (.list items)
  /-- a mapping with a condition, if its values do; whatever else it says -/
  | conditional {entries : List (Value × Value)} {condition values : Value} :
      lookup? "when".toList entries = some condition →
      lookup? "values".toList entries = some values → StatesSpec values → StatesSpec (.map entries)
  /-- a mapping without one that names a type, if what it says of members, if anything, does -/
  | typed {entries : List (Value × Value)} {kind : Text} :
      lookup? "when".toList entries = none → lookup? "type".toList entries = some (.text kind) →
      (∀ members, lookup? "member-values".toList entries = some members → members ≠ .null →
        StatesSpec members) → StatesSpec (.map entries)

/-- A specification that mirrors a value. -/
inductive Mirrors : Value → ValueSpec → Prop
  /-- a token for a text, which is a pattern between two slashes -/
  | text {s : Text} {isPattern : Bool} :
      (isPattern = true ↔ 2 ≤ s.length ∧ s.head? = some '/' ∧ s.getLast? = some '/') →
      Mirrors (.text s) (.literal s isPattern)
  /-- a union for a list, member by member -/
  | list {items : List Value} {members : List ValueSpec} :
      List.Forall₂ Mirrors items members → Mirrors (.list items) (.union members)
  /-- a condition, as it is displayed, with what mirrors the values -/
  | conditional {entries : List (Value × Value)} {condition values : Value} {shown : Text}
      {spec : ValueSpec} :
      lookup? "when".toList entries = some condition →
      lookup? "values".toList entries = some values → condition.display = .ok shown →
      Mirrors values spec → Mirrors (.map entries) (.conditional shown spec)
  /-- a type of which no members are stated -/
  | typed {entries : List (Value × Value)} {kind : Text} :
      lookup? "when".toList entries = none → lookup? "type".toList entries = some (.text kind) →
      (∀ members, lookup? "member-values".toList entries = some members → members = .null) →
      Mirrors (.map entries) (.typed kind (optionsOf entries) none)
  /-- a type with what mirrors its members -/
  | typedWithMembers {entries : List (Value × Value)} {kind : Text} {members : Value}
      {spec : ValueSpec} :
      lookup? "when".toList entries = none → lookup? "type".toList entries = some (.text kind) →
      lookup? "member-values".toList entries = some members → members ≠ .null →
      Mirrors members spec → Mirrors (.map entries) (.typed kind (optionsOf entries) (some spec))

theorem isPatternToken_iff {s : Text} : isPatternToken s = true ↔
    2 ≤ s.length ∧ s.head? = some '/' ∧ s.getLast? = some '/' := by
  simp only [isPatternToken, Bool.and_eq_true, decide_eq_true_eq, and_assoc]
  rfl

/-! ### Reading a mapping -/

/-- What a name is bound to is looked up and then read. -/
theorem ofField?_eq (name : Text) (entries : List (Value × Value)) :
    ofField? name entries = (lookup? name entries).map ofValue := by
  fun_induction lookup? name entries with
  | case1 => rfl
  | case2 v rest => simp [ofField?]
  | case3 k v rest hk ih => simp [ofField?, hk, ih]
  | case4 e rest hk ih =>
    obtain ⟨k, v⟩ := e
    cases k with
    | text key => exact (hk key v rfl).elim
    | _ => exact ih

theorem ofValues_eq_mapM (items : List Value) : ofValues items = items.mapM ofValue := by
  induction items with
  | nil => rfl
  | cons item items ih =>
    rw [ofValues, List.mapM_cons, ih]

variable {entries : List (Value × Value)}

/-- A mapping with a condition is read as that, and must have values. -/
theorem ofValue_of_condition {condition : Value}
    (hwhen : lookup? "when".toList entries = some condition) :
    ofValue (.map entries) = match lookup? "values".toList entries with
      | none => .error (.schema (.conditionWithoutValues (.map entries)))
      | some values => do
        let shown ← displayed condition
        let spec ← ofValue values
        return .conditional shown spec := by
  rw [ofValue, hwhen]
  simp only [ofField?_eq]
  cases lookup? "values".toList entries <;> rfl

/-- Without a condition the type counts. -/
theorem ofValue_of_type {kind : Text} (hwhen : lookup? "when".toList entries = none)
    (htype : lookup? "type".toList entries = some (.text kind)) :
    ofValue (.map entries) = match lookup? "member-values".toList entries with
      | none => .ok (.typed kind (optionsOf entries) none)
      | some .null => .ok (.typed kind (optionsOf entries) none)
      | some members => do
        let spec ← ofValue members
        return .typed kind (optionsOf entries) (some spec) := by
  rw [ofValue, hwhen, htype]
  simp only [ofField?_eq]
  cases hmembers : lookup? "member-values".toList entries with
  | none => rfl
  | some members => cases members <;> rfl

/-- And without both there is nothing to read. -/
theorem ofValue_of_neither (hwhen : lookup? "when".toList entries = none)
    (htype : ∀ kind, lookup? "type".toList entries ≠ some (.text kind)) :
    ofValue (.map entries) = refuse (.map entries) := by
  rw [ofValue, hwhen]
  cases hlookup : lookup? "type".toList entries with
  | none => rfl
  | some named =>
    cases named with
    | text kind => exact absurd hlookup (htype kind)
    | _ => rfl

theorem displayed_eq_ok_iff {v : Value} {s : Text} : displayed v = .ok s ↔ v.display = .ok s := by
  rw [displayed]
  cases v.display <;> simp

theorem displayed_eq_numeral_iff {v : Value} {e : NumeralError} :
    displayed v = .error (.numeral e) ↔ v.display = .error e := by
  rw [displayed]
  cases v.display <;> simp

/-! ### What is read -/

theorem mirrors_of_ofValue_map {spec : ValueSpec}
    (ih : ∀ p ∈ Value.parts (.map entries), ∀ spec, ofValue p = .ok spec → Mirrors p spec)
    (h : ofValue (.map entries) = .ok spec) : Mirrors (.map entries) spec := by
  cases hwhen : lookup? "when".toList entries with
  | some condition =>
    rw [ofValue_of_condition hwhen] at h
    cases hvalues : lookup? "values".toList entries with
    | none =>
      rw [hvalues] at h
      cases h
    | some values =>
      rw [hvalues] at h
      obtain ⟨shown, hshown, h⟩ := bind_eq_ok_iff.mp h
      obtain ⟨inner, hinner, h⟩ := bind_eq_ok_iff.mp h
      obtain rfl := Except.ok.inj h
      exact .conditional hwhen hvalues (displayed_eq_ok_iff.mp hshown)
        (ih values (mem_parts_of_lookup? hvalues) inner hinner)
  | none =>
    by_cases htype : ∃ kind, lookup? "type".toList entries = some (.text kind)
    · obtain ⟨kind, htype⟩ := htype
      rw [ofValue_of_type hwhen htype] at h
      split at h
      · next hmembers =>
        obtain rfl := Except.ok.inj h
        refine .typed hwhen htype fun members hm => ?_
        cases hmembers.symm.trans hm
      · next hmembers =>
        obtain rfl := Except.ok.inj h
        exact .typed hwhen htype fun members hm => (Option.some.inj (hmembers.symm.trans hm)).symm
      · next members hnull hmembers =>
        obtain ⟨inner, hinner, h⟩ := bind_eq_ok_iff.mp h
        obtain rfl := Except.ok.inj h
        exact .typedWithMembers hwhen htype hmembers hnull
          (ih members (mem_parts_of_lookup? hmembers) inner hinner)
    · rw [ofValue_of_neither hwhen fun kind hkind => htype ⟨kind, hkind⟩] at h
      cases h

theorem ofValue_map_of_mirrors {spec : ValueSpec}
    (ih : ∀ p ∈ Value.parts (.map entries), ∀ spec, Mirrors p spec → ofValue p = .ok spec)
    (h : Mirrors (.map entries) spec) : ofValue (.map entries) = .ok spec := by
  cases h with
  | conditional hwhen hvalues hshown hinner =>
    rw [ofValue_of_condition hwhen, hvalues]
    simp only
    rw [displayed_eq_ok_iff.mpr hshown, ih _ (mem_parts_of_lookup? hvalues) _ hinner]
    rfl
  | typed hwhen htype hmembers =>
    rw [ofValue_of_type hwhen htype]
    split
    · rfl
    · rfl
    · next members hnull hlookup => exact (hnull (hmembers members hlookup)).elim
  | typedWithMembers hwhen htype hlookup hnull hinner =>
    rw [ofValue_of_type hwhen htype, hlookup]
    split
    · next h => cases h
    · next h => exact (hnull (Option.some.inj h)).elim
    · next members _ h =>
      obtain rfl := Option.some.inj h
      rw [ih _ (mem_parts_of_lookup? hlookup) _ hinner]
      rfl

/-- **What is read mirrors the value**, and what mirrors it is read. -/
theorem ofValue_eq_ok_iff (raw : Value) : ∀ spec, ofValue raw = .ok spec ↔ Mirrors raw spec := by
  induction raw using induction_parts with
  | step raw ih =>
    intro spec
    cases raw with
    | text s =>
      rw [ofValue, Except.ok.injEq]
      constructor
      · rintro rfl
        exact .text isPatternToken_iff
      · rintro (h | _ | _ | _ | _)
        rw [Bool.eq_iff_iff.mpr (isPatternToken_iff.trans h.symm)]
    | list items =>
      have hitems (members : List ValueSpec) :
          List.Forall₂ (fun item member => ofValue item = .ok member) items members
            ↔ List.Forall₂ Mirrors items members := by
        rw [List.forall₂_iff_zip, List.forall₂_iff_zip]
        refine and_congr_right fun _ => ⟨fun h a b hab => ?_, fun h a b hab => ?_⟩
        · exact (ih a (List.of_mem_zip hab).1 b).mp (h hab)
        · exact (ih a (List.of_mem_zip hab).1 b).mpr (h hab)
      rw [ofValue, ofValues_eq_mapM, bind_eq_ok_iff]
      constructor
      · rintro ⟨members, hmembers, h⟩
        obtain rfl := Except.ok.inj h
        exact .list ((hitems members).mp ((mapM_eq_ok_iff _ _ _).mp hmembers))
      · rintro (_ | h | _ | _ | _)
        exact ⟨_, (mapM_eq_ok_iff _ _ _).mpr ((hitems _).mpr h), rfl⟩
    | map entries =>
      exact ⟨mirrors_of_ofValue_map fun p hp spec => (ih p hp spec).mp,
        ofValue_map_of_mirrors fun p hp spec => (ih p hp spec).mpr⟩
    | _ =>
      constructor
      · intro h
        cases h
      · intro h
        cases h

/-! ### What is refused -/

/-- A value that a specification mirrors states one. -/
theorem statesSpec_of_mirrors (raw : Value) : ∀ spec, Mirrors raw spec → StatesSpec raw := by
  induction raw using induction_parts with
  | step raw ih =>
    rintro spec (_ | hitems | ⟨hwhen, hvalues, -, hinner⟩ | ⟨hwhen, htype, hmembers⟩
      | ⟨hwhen, htype, hlookup, -, hinner⟩)
    · exact .text _
    · refine .list fun item hitem => ?_
      obtain ⟨member, -, hmember⟩ := exists_mem_of_forall₂ hitems hitem
      exact ih item hitem member hmember
    · exact .conditional hwhen hvalues (ih _ (mem_parts_of_lookup? hvalues) _ hinner)
    · exact .typed hwhen htype fun members hm hnull => (hnull (hmembers members hm)).elim
    · refine .typed hwhen htype fun members hm _ => ?_
      obtain rfl := Option.some.inj (hlookup.symm.trans hm)
      exact ih _ (mem_parts_of_lookup? hlookup) _ hinner

/-- A value that states a specification is read, if its conditions can be displayed. -/
theorem exists_of_statesSpec {raw : Value} (h : StatesSpec raw) (hshow : raw.ConditionsDisplay) :
    ∃ spec, ofValue raw = .ok spec := by
  induction h with
  | text s => exact ⟨_, rfl⟩
  | @list items _ ih =>
    have hall : fault? (items.mapM ofValue) = none := by
      rw [fault?_mapM, List.findSome?_eq_none_iff]
      exact fun item hitem => fault?_eq_none_iff.mpr (ih item hitem (hshow.part hitem))
    obtain ⟨members, hmembers⟩ := fault?_eq_none_iff.mp hall
    rw [ofValue, ofValues_eq_mapM, hmembers]
    exact ⟨_, rfl⟩
  | conditional hwhen hvalues _ ih =>
    obtain ⟨shown, hshown⟩ := hshow _ _ .refl hwhen
    obtain ⟨inner, hinner⟩ := ih (hshow.part (mem_parts_of_lookup? hvalues))
    exact ⟨_, (ofValue_eq_ok_iff _ _).mpr
      (.conditional hwhen hvalues hshown ((ofValue_eq_ok_iff _ _).mp hinner))⟩
  | @typed entries kind hwhen htype _ ih =>
    by_cases hmembers : ∀ members, lookup? "member-values".toList entries = some members →
        members = .null
    · exact ⟨_, (ofValue_eq_ok_iff _ _).mpr (.typed hwhen htype hmembers)⟩
    · obtain ⟨members, hlookup, hnull⟩ : ∃ members,
          lookup? "member-values".toList entries = some members ∧ members ≠ .null := by
        simpa using hmembers
      obtain ⟨inner, hinner⟩ :=
        ih members hlookup hnull (hshow.part (mem_parts_of_lookup? hlookup))
      exact ⟨_, (ofValue_eq_ok_iff _ _).mpr
        (.typedWithMembers hwhen htype hlookup hnull ((ofValue_eq_ok_iff _ _).mp hinner))⟩

/-- A number that cannot be written is met in a condition only. -/
theorem exists_condition_of_numeral (raw : Value) : ∀ e, ofValue raw = .error (.numeral e) →
    ∃ entries condition, StandsIn (.map entries) raw ∧
      lookup? "when".toList entries = some condition ∧ condition.display = .error e := by
  induction raw using induction_parts with
  | step raw ih =>
    intro e h
    -- what goes wrong with a part stands in the whole as well
    have hpart : ∀ p ∈ raw.parts, ofValue p = .error (.numeral e) →
        ∃ entries condition, StandsIn (.map entries) raw ∧
          lookup? "when".toList entries = some condition ∧ condition.display = .error e := by
      intro p hp hnumeral
      obtain ⟨entries, condition, hstands, hwhen, hshown⟩ := ih p hp e hnumeral
      exact ⟨entries, condition, .part hp hstands, hwhen, hshown⟩
    cases raw with
    | list items =>
      rw [ofValue, ofValues_eq_mapM] at h
      rcases bind_eq_error_iff.mp h with h | ⟨_, -, h⟩
      · rw [← fault?_eq_some_iff, fault?_mapM] at h
        obtain ⟨item, hitem, hfault⟩ := List.exists_of_findSome?_eq_some h
        exact hpart item hitem (fault?_eq_some_iff.mp hfault)
      · cases h
    | map entries =>
      cases hwhen : lookup? "when".toList entries with
      | some condition =>
        rw [ofValue_of_condition hwhen] at h
        split at h
        · cases h
        · next values hvalues =>
          rcases bind_eq_error_iff.mp h with h | ⟨_, -, h⟩
          · exact ⟨entries, condition, .refl, hwhen, displayed_eq_numeral_iff.mp h⟩
          · rcases bind_eq_error_iff.mp h with h | ⟨_, -, h⟩
            · exact hpart values (mem_parts_of_lookup? hvalues) h
            · cases h
      | none =>
        by_cases htype : ∃ kind, lookup? "type".toList entries = some (.text kind)
        · obtain ⟨kind, htype⟩ := htype
          rw [ofValue_of_type hwhen htype] at h
          split at h
          · cases h
          · cases h
          · next members _ hmembers =>
            rcases bind_eq_error_iff.mp h with h | ⟨_, -, h⟩
            · exact hpart members (mem_parts_of_lookup? hmembers) h
            · cases h
        · rw [ofValue_of_neither hwhen fun kind hkind => htype ⟨kind, hkind⟩] at h
          cases h
    | _ => cases h

/-! ### What is left to go wrong -/

/-- A type that is not known is reached; the members of lists are not looked at. -/
def ReachesStrangeKind (spec : ValueSpec) : Prop :=
  ∃ kind options members, Reaches spec (.typed kind options members) ∧ kind ∉ knownKinds

theorem strangeKind?_eq_some_iff {leaf : ValueSpec} {kind : Text} :
    strangeKind? leaf = some kind ↔
      ∃ options members, leaf = .typed kind options members ∧ kind ∉ knownKinds := by
  cases leaf with
  | typed kind' options members =>
    rw [strangeKind?]
    constructor
    · intro h
      split at h
      · cases h
      · next hkind =>
        obtain rfl := Option.some.inj h
        exact ⟨options, members, rfl, hkind⟩
    · rintro ⟨options, members, heq, hkind⟩
      obtain ⟨rfl, -, -⟩ := ValueSpec.typed.inj heq
      exact if_neg hkind
  | _ =>
    constructor
    · intro h
      cases h
    · rintro ⟨_, _, h, _⟩
      cases h

theorem isSome_strangeKind_iff {spec : ValueSpec} :
    (∃ kind, spec.leaves.findSome? strangeKind? = some kind) ↔ spec.ReachesStrangeKind := by
  rw [← Option.isSome_iff_exists, List.findSome?_isSome_iff]
  constructor
  · rintro ⟨leaf, hleaf, hstrange⟩
    obtain ⟨kind, hkind⟩ := Option.isSome_iff_exists.mp hstrange
    obtain ⟨options, members, rfl, hunknown⟩ := strangeKind?_eq_some_iff.mp hkind
    exact ⟨kind, options, members, (mem_leaves_iff.mp hleaf).1, hunknown⟩
  · rintro ⟨kind, options, members, hreach, hunknown⟩
    refine ⟨_, mem_leaves_iff.mpr ⟨hreach, rfl⟩, ?_⟩
    rw [strangeKind?_eq_some_iff.mpr ⟨options, members, rfl, hunknown⟩]
    rfl

/-- What was read has a type unless a type that is not known is reached. -/
theorem typeText_of_isRead {spec : ValueSpec} (h : spec.IsRead) :
    ((∃ type, spec.typeText = .ok type) ↔ ¬ spec.ReachesStrangeKind) ∧
      ((∃ e, spec.typeText = .error e ∧ e.code = .unknownType) ↔ spec.ReachesStrangeKind) := by
  have hfault : fault? spec.typeText = (spec.leaves.findSome? strangeKind?).map .unknownKind := by
    rw [typeText, fault?_map, fault?_typeExpr, findSome?_refusal?_eq h]
  rw [← isSome_strangeKind_iff]
  cases hstrange : spec.leaves.findSome? strangeKind? with
  | none =>
    obtain ⟨type, htype⟩ := fault?_eq_none_iff.mp (hfault.trans (congrArg _ hstrange))
    simp [htype]
  | some kind =>
    have herror : spec.typeText = .error (.unknownKind kind) :=
      fault?_eq_some_iff.mp (hfault.trans (congrArg _ hstrange))
    simp [herror, SchemaError.code]

/-- **Which values state a specification.** Where the conditions in a value can be displayed, it is
read if and only if it states a specification; any other value is refused as having none of the
forms. What is read mirrors the value, and then no form is missed any more: there is a type for it,
or a type that is not known is reached and reported, which the members of lists cannot cause. -/
theorem ofValue_isExact {raw : Value} (h : raw.ConditionsDisplay) :
    ((∃ spec, ofValue raw = .ok spec) ↔ StatesSpec raw) ∧
    (¬ StatesSpec raw → ∃ e, ofValue raw = .error (.schema e) ∧ e.code = .unrecognizedSpec ∧
      (raw.IsWritable → ∃ message, e.message = .ok message)) ∧
    ∀ spec, ofValue raw = .ok spec → Mirrors raw spec ∧
      ((∃ type, spec.typeText = .ok type) ↔ ¬ spec.ReachesStrangeKind) ∧
      ((∃ e, spec.typeText = .error e ∧ e.code = .unknownType) ↔ spec.ReachesStrangeKind) := by
  have hstates : (∃ spec, ofValue raw = .ok spec) ↔ StatesSpec raw :=
    ⟨fun ⟨spec, hspec⟩ => statesSpec_of_mirrors raw spec ((ofValue_eq_ok_iff raw spec).mp hspec),
      fun hraw => exists_of_statesSpec hraw h⟩
  refine ⟨hstates, fun hnone => ?_, fun spec hspec => ?_⟩
  · cases hread : ofValue raw with
    | ok spec => exact absurd (hstates.mp ⟨spec, hread⟩) hnone
    | error e =>
      cases e with
      | schema e =>
        obtain ⟨hcode, hmessage⟩ := isSpecFault_of_ofValue hread
        exact ⟨e, rfl, hcode, hmessage⟩
      | numeral e =>
        obtain ⟨entries, condition, hstands, hwhen, hshown⟩ :=
          exists_condition_of_numeral raw e hread
        obtain ⟨s, hs⟩ := h entries condition hstands hwhen
        cases hs.symm.trans hshown
  · exact ⟨(ofValue_eq_ok_iff raw spec).mp hspec, typeText_of_isRead (isRead_of_ofValue hspec)⟩

/-- A list of a pattern, a condition that is no text over the type of lists, whose members have a
type that is not known, and a type of which it is said that it has no members. -/
def mixedNode : Value :=
  .list [.text "/x/".toList,
    .map [(.text "when".toList, .list [.bool true, .null]),
      (.text "values".toList, .map [(.text "type".toList, .text "list".toList),
        (.text "member-values".toList, .map [(.text "type".toList, .text "odd".toList)])])],
    .map [(.text "member-values".toList, .null), (.text "type".toList, .text "boolean".toList)]]

/-- It is read, and the type that is not known does no harm. -/
theorem ofValue_isExact_mixedNode : mixedNode.ConditionsDisplay ∧ StatesSpec mixedNode ∧
    ∃ spec, ofValue mixedNode = .ok spec ∧ Mirrors mixedNode spec ∧
      spec.typeText = .ok "boolean | (\x7b\x7d & string)".toList ∧ ¬ spec.ReachesStrangeKind := by
  have hshow : mixedNode.ConditionsDisplay := IsWritable.conditionsDisplay ⟨_, rfl⟩
  obtain ⟨haccepts, -, hspec⟩ := ofValue_isExact hshow
  obtain ⟨spec, hread, htype⟩ : ∃ spec, ofValue mixedNode = .ok spec ∧
      spec.typeText = .ok "boolean | (\x7b\x7d & string)".toList := ⟨_, rfl, rfl⟩
  obtain ⟨hmirrors, hsucceeds, -⟩ := hspec spec hread
  exact ⟨hshow, haccepts.mp ⟨spec, hread⟩, spec, hread, hmirrors, htype, hsucceeds.mp ⟨_, htype⟩⟩

/-- A condition is not saved by a type beside it. -/
example : ofValue (.map [(.text "when".toList, .null), (.text "type".toList, .text "list".toList)])
    = .error (.schema (.conditionWithoutValues
      (.map [(.text "when".toList, .null), (.text "type".toList, .text "list".toList)]))) :=
  rfl

end ValueSpec

end DomBindings
