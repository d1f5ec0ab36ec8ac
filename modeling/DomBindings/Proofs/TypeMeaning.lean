import DomBindings.Number.Binary64
import DomBindings.Proofs.Leaves
import DomBindings.Proofs.TypeReading
import Mathlib.Data.List.Nodup

/-!
# What a written type admits

The type of a specification, read back member by member, says what its leaves say: there is one
member for each primitive and each token that is reached, and one for all texts exactly when a
pattern or a type of texts is reached (`ValueSpec.IsReadAs`). So a value is admitted by the type if
and only if it is admitted by some leaf; no token can change that, whatever it looks like.
-/

namespace DomBindings

/-- What an attribute may be set to. -/
inductive AttributeValue where
  /-- a truth value -/
  | truth (b : Bool)
  /-- a number -/
  | number (x : Binary64)
  /-- a text -/
  | text (s : Text)

/-- The values that a member of a written type admits. -/
inductive Member.Admits : Member → AttributeValue → Prop
  | truth (b : Bool) : Admits (.primitive .boolean) (.truth b)
  | number (x : Binary64) : Admits (.primitive .number) (.number x)
  | literal (token : Text) : Admits (.literal token) (.text token)
  | openMark (s : Text) : Admits .openMark (.text s)
  | anyText (s : Text) : Admits .anyText (.text s)

/-- The names of the types whose values are those of a primitive. -/
def Primitive.kinds : Primitive → List Text
  | .boolean => ["boolean".toList]
  | .number => ["integer".toList, "real".toList]

namespace ValueSpec

/-- The leaves that widen a type to all texts. -/
inductive IsWildcard : ValueSpec → Prop
  /-- a pattern -/
  | pattern (token : Text) : IsWildcard (.literal token true)
  /-- the type of texts -/
  | string (options : TypeOptions) (members : Option ValueSpec) :
      IsWildcard (.typed "string".toList options members)
  /-- the type of lists, whose members are not looked at -/
  | list (options : TypeOptions) (members : Option ValueSpec) :
      IsWildcard (.typed "list".toList options members)

/-- The values that a leaf admits. -/
inductive LeafAdmits : ValueSpec → AttributeValue → Prop
  | token (token : Text) : LeafAdmits (.literal token false) (.text token)
  | truth {kind : Text} (options : TypeOptions) (members : Option ValueSpec) (b : Bool) :
      kind ∈ Primitive.boolean.kinds → LeafAdmits (.typed kind options members) (.truth b)
  | number {kind : Text} (options : TypeOptions) (members : Option ValueSpec) (x : Binary64) :
      kind ∈ Primitive.number.kinds → LeafAdmits (.typed kind options members) (.number x)
  | wild {leaf : ValueSpec} (s : Text) : IsWildcard leaf → LeafAdmits leaf (.text s)

/-- Members that say what the leaves of a specification say: nothing is added, lost or said
twice. -/
structure IsReadAs (spec : ValueSpec) (members : List Member) : Prop where
  nodup : members.Nodup
  ne_nil : members ≠ []
  /-- the primitives that are reached -/
  primitive_iff : ∀ p, .primitive p ∈ members ↔
    ∃ kind ∈ p.kinds, ∃ options inner, Reaches spec (.typed kind options inner)
  /-- the tokens that are reached -/
  literal_iff : ∀ token, .literal token ∈ members ↔ Reaches spec (.literal token false)
  /-- all texts, when a leaf that admits them is reached -/
  wild_iff : .openMark ∈ members ∨ .anyText ∈ members ↔
    ∃ leaf, Reaches spec leaf ∧ IsWildcard leaf
  /-- the type of all texts and that without values stand alone, and the mark does not -/
  anyText_alone : .anyText ∈ members → members = [.anyText]
  noValue_alone : .noValue ∈ members → members = [.noValue]
  openMark_beside : .openMark ∈ members → members ≠ [.openMark]
  /-- the values that are admitted -/
  admits_iff : ∀ x, (∃ m ∈ members, m.Admits x) ↔ ∃ leaf, Reaches spec leaf ∧ LeafAdmits leaf x

/-! ### What is reached -/

theorem kindMeaning?_primitive_iff {kind : Text} {p : Primitive} :
    kindMeaning? kind = some (.primitive p) ↔ kind ∈ p.kinds := by
  constructor
  · intro h
    unfold kindMeaning? at h
    split at h
    · next hkind =>
      obtain rfl := KindMeaning.primitive.inj (Option.some.inj h)
      exact List.mem_singleton.mpr hkind
    split at h
    · next hkind =>
      obtain rfl := KindMeaning.primitive.inj (Option.some.inj h)
      rw [Bool.or_eq_true, decide_eq_true_iff, decide_eq_true_iff] at hkind
      exact List.mem_pair.mpr hkind
    split at h
    · cases h
    · cases h
  · intro h
    cases p with
    | boolean =>
      obtain rfl := List.mem_singleton.mp h
      rfl
    | number =>
      rcases List.mem_pair.mp h with rfl | rfl
      · rfl
      · rfl

theorem kindMeaning?_anyText_iff {kind : Text} :
    kindMeaning? kind = some .anyText ↔ kind = "string".toList ∨ kind = "list".toList := by
  constructor
  · intro h
    unfold kindMeaning? at h
    split at h
    · cases h
    split at h
    · cases h
    split at h
    · next hkind => rwa [Bool.or_eq_true, decide_eq_true_iff, decide_eq_true_iff] at hkind
    · cases h
  · rintro (rfl | rfl) <;> rfl

theorem mem_primitives_iff {spec : ValueSpec} {p : Primitive} : p ∈ spec.primitives ↔
    ∃ kind ∈ p.kinds, ∃ options inner, Reaches spec (.typed kind options inner) := by
  rw [primitives, List.mem_eraseDups, List.mem_filterMap]
  constructor
  · rintro ⟨leaf, hleaf, hp⟩
    cases leaf with
    | typed kind options inner =>
      refine ⟨kind, kindMeaning?_primitive_iff.mp ?_, options, inner, (mem_leaves_iff.mp hleaf).1⟩
      rw [primitive?] at hp
      cases h : kindMeaning? kind with
      | none => simp [h] at hp
      | some meaning => cases meaning <;> simp_all
    | _ => cases hp
  · rintro ⟨kind, hkind, options, inner, hreach⟩
    refine ⟨_, mem_leaves_iff.mpr ⟨hreach, rfl⟩, ?_⟩
    rw [primitive?, kindMeaning?_primitive_iff.mpr hkind]

theorem mem_tokens_iff {spec : ValueSpec} {token : Text} :
    token ∈ spec.tokens ↔ Reaches spec (.literal token false) := by
  rw [tokens, List.mem_eraseDups, List.mem_filterMap]
  constructor
  · rintro ⟨leaf, hleaf, htoken⟩
    cases leaf with
    | literal token' isPattern =>
      cases isPattern with
      | false =>
        obtain rfl := Option.some.inj htoken
        exact (mem_leaves_iff.mp hleaf).1
      | true => cases htoken
    | _ => cases htoken
  · exact fun hreach => ⟨_, mem_leaves_iff.mpr ⟨hreach, rfl⟩, rfl⟩

theorem isWild_iff {leaf : ValueSpec} : leaf.isWild = true ↔ IsWildcard leaf := by
  constructor
  · intro h
    cases leaf with
    | literal token isPattern =>
      obtain rfl : isPattern = true := h
      exact .pattern token
    | typed kind options inner =>
      rcases kindMeaning?_anyText_iff.mp (of_decide_eq_true h) with rfl | rfl
      · exact .string options inner
      · exact .list options inner
    | _ => cases h
  · rintro (token | ⟨options, inner⟩ | ⟨options, inner⟩) <;> rfl

theorem isOpen_iff {spec : ValueSpec} :
    spec.isOpen = true ↔ ∃ leaf, Reaches spec leaf ∧ IsWildcard leaf := by
  rw [isOpen, List.any_eq_true]
  refine exists_congr fun leaf => ?_
  rw [mem_leaves_iff, isWild_iff, and_assoc]
  refine and_congr_right fun _ => and_iff_right_of_imp ?_
  rintro (token | ⟨options, inner⟩ | ⟨options, inner⟩) <;> rfl

/-! ### The members of the type -/

/-- Whatever members say what the leaves say admit what the leaves admit. -/
theorem admits_iff_of_members {spec : ValueSpec} {members : List Member}
    (hprimitive : ∀ p, .primitive p ∈ members ↔
      ∃ kind ∈ p.kinds, ∃ options inner, Reaches spec (.typed kind options inner))
    (hliteral : ∀ token, .literal token ∈ members ↔ Reaches spec (.literal token false))
    (hwild : .openMark ∈ members ∨ .anyText ∈ members ↔
      ∃ leaf, Reaches spec leaf ∧ IsWildcard leaf) (x : AttributeValue) :
    (∃ m ∈ members, m.Admits x) ↔ ∃ leaf, Reaches spec leaf ∧ LeafAdmits leaf x := by
  constructor
  · rintro ⟨m, hm, hadmits⟩
    cases hadmits with
    | truth b =>
      obtain ⟨kind, hkind, options, inner, hreach⟩ := (hprimitive .boolean).mp hm
      exact ⟨_, hreach, .truth options inner b hkind⟩
    | number y =>
      obtain ⟨kind, hkind, options, inner, hreach⟩ := (hprimitive .number).mp hm
      exact ⟨_, hreach, .number options inner y hkind⟩
    | literal token => exact ⟨_, (hliteral token).mp hm, .token token⟩
    | openMark s =>
      obtain ⟨leaf, hreach, hleaf⟩ := hwild.mp (.inl hm)
      exact ⟨leaf, hreach, .wild s hleaf⟩
    | anyText s =>
      obtain ⟨leaf, hreach, hleaf⟩ := hwild.mp (.inr hm)
      exact ⟨leaf, hreach, .wild s hleaf⟩
  · rintro ⟨leaf, hreach, hadmits⟩
    cases hadmits with
    | token token => exact ⟨_, (hliteral token).mpr hreach, .literal token⟩
    | truth options inner b hkind =>
      exact ⟨_, (hprimitive .boolean).mpr ⟨_, hkind, options, inner, hreach⟩, .truth b⟩
    | number options inner y hkind =>
      exact ⟨_, (hprimitive .number).mpr ⟨_, hkind, options, inner, hreach⟩, .number y⟩
    | wild s hleaf =>
      rcases hwild.mpr ⟨leaf, hreach, hleaf⟩ with hm | hm
      · exact ⟨_, hm, .openMark s⟩
      · exact ⟨_, hm, .anyText s⟩

end ValueSpec

namespace TypeExpr

theorem primitive_mem_parts_iff {t : TypeExpr} {p : Primitive} :
    .primitive p ∈ t.parts ↔ p ∈ t.primitives := by
  rw [← t.view_parts.1, List.mem_filterMap]
  simp [Member.primitive?_eq_some_iff]

theorem literal_mem_parts_iff {t : TypeExpr} {token : Text} :
    .literal token ∈ t.parts ↔ token ∈ t.tokens := by
  rw [← t.view_parts.2.1, List.mem_filterMap]
  simp [Member.token?_eq_some_iff]

theorem wild_mem_parts_iff {t : TypeExpr} :
    .openMark ∈ t.parts ∨ .anyText ∈ t.parts ↔ t.isOpen = true := by
  rw [← t.view_parts.2.2, List.any_eq_true]
  simp [Member.isWild_iff, and_or_left, exists_or]

theorem mem_closedParts_iff {t : TypeExpr} {m : Member} : m ∈ t.closedParts ↔
    (∃ p ∈ t.primitives, .primitive p = m) ∨ ∃ token ∈ t.tokens, .literal token = m := by
  rw [closedParts, List.mem_append, List.mem_map, List.mem_map]

/-- The last member is none of those before it. -/
theorem not_mem_closedParts_of_mem_lastParts {t : TypeExpr} {m : Member} (h : m ∈ t.lastParts) :
    m ∉ t.closedParts := by
  rw [mem_closedParts_iff]
  rw [lastParts] at h
  rintro (⟨p, -, rfl⟩ | ⟨token, -, rfl⟩) <;> split at h <;> simp at h

/-- Where primitives and tokens do not repeat, no member does. -/
theorem nodup_parts {t : TypeExpr} (hp : t.primitives.Nodup) (ht : t.tokens.Nodup) :
    t.parts.Nodup := by
  have hclosed : t.closedParts.Nodup := by
    refine List.nodup_append.mpr ⟨hp.map ?_, ht.map ?_, ?_⟩
    · exact fun _ _ h => Member.primitive.inj h
    · exact fun _ _ h => Member.literal.inj h
    · intro m hm m' hm'
      obtain ⟨p, -, rfl⟩ := List.mem_map.mp hm
      obtain ⟨token, -, rfl⟩ := List.mem_map.mp hm'
      exact Member.noConfusion
  have hlast : t.lastParts.Nodup := by
    rw [lastParts]
    split <;> simp
  refine List.nodup_append.mpr ⟨hclosed, hlast, ?_⟩
  rintro m hm m' hm' rfl
  exact not_mem_closedParts_of_mem_lastParts hm' hm

/-- The type of all texts and the type without values stand alone, and the mark does not. -/
theorem parts_alone (t : TypeExpr) :
    (.anyText ∈ t.parts → t.parts = [.anyText]) ∧ (.noValue ∈ t.parts → t.parts = [.noValue]) ∧
      (.openMark ∈ t.parts → t.parts ≠ [.openMark]) := by
  have hclosed : .anyText ∉ t.closedParts ∧ .noValue ∉ t.closedParts ∧
      .openMark ∉ t.closedParts := by
    simp [mem_closedParts_iff]
  rw [parts, lastParts]
  cases h : t.closedParts with
  | nil => cases t.isOpen <;> simp
  | cons m ms =>
    rw [h] at hclosed
    cases t.isOpen <;> simp_all

end TypeExpr

namespace ValueSpec

theorem nodup_eraseDups {α : Type} [BEq α] [LawfulBEq α] : ∀ xs : List α, xs.eraseDups.Nodup
  | [] => by simp
  | x :: xs => by
    rw [List.eraseDups_cons, List.nodup_cons]
    refine ⟨by simp [List.mem_eraseDups], nodup_eraseDups _⟩
termination_by xs => xs.length
decreasing_by
  exact Nat.lt_succ_of_le (List.length_filter_le _ _)

/-- What the leaves of a specification say, as a type expression. -/
def reduced (spec : ValueSpec) : TypeExpr :=
  ⟨spec.primitives, spec.tokens, spec.isOpen⟩

theorem text_of_typeText {spec : ValueSpec} {text : Text} (h : spec.typeText = .ok text) :
    text = spec.reduced.render := by
  rw [typeText] at h
  cases ht : spec.typeExpr with
  | error e =>
    rw [ht] at h
    cases h
  | ok t =>
    rw [ht] at h
    obtain ⟨-, rfl⟩ := typeExpr_eq_ok_iff.mp ht
    exact (Except.ok.inj h).symm

/-- The members of the type say what the leaves say. -/
theorem isReadAs_parts (spec : ValueSpec) : spec.IsReadAs spec.reduced.parts := by
  have hprimitive (p : Primitive) : .primitive p ∈ spec.reduced.parts ↔
      ∃ kind ∈ p.kinds, ∃ options inner, Reaches spec (.typed kind options inner) :=
    TypeExpr.primitive_mem_parts_iff.trans mem_primitives_iff
  have hliteral (token : Text) : .literal token ∈ spec.reduced.parts ↔
      Reaches spec (.literal token false) :=
    TypeExpr.literal_mem_parts_iff.trans mem_tokens_iff
  have hwild : .openMark ∈ spec.reduced.parts ∨ .anyText ∈ spec.reduced.parts ↔
      ∃ leaf, Reaches spec leaf ∧ IsWildcard leaf :=
    TypeExpr.wild_mem_parts_iff.trans isOpen_iff
  obtain ⟨hanyText, hnoValue, hopenMark⟩ := spec.reduced.parts_alone
  exact {
    nodup := TypeExpr.nodup_parts (nodup_eraseDups _) (nodup_eraseDups _)
    ne_nil := spec.reduced.parts_ne_nil
    primitive_iff := hprimitive
    literal_iff := hliteral
    wild_iff := hwild
    anyText_alone := hanyText
    noValue_alone := hnoValue
    openMark_beside := hopenMark
    admits_iff := admits_iff_of_members hprimitive hliteral hwild }

/-- A written type is unambiguous: read back, it has one member for each thing that some leaf
says, and specifications have the same type only where they agree on what their leaves say, and in
which order. -/
theorem typeText_unambiguous {spec : ValueSpec} {text : Text} (h : spec.typeText = .ok text) :
    (∃ members, TypeExpr.read? text = some members ∧ spec.IsReadAs members) ∧
      ∀ (other : ValueSpec) (otherText : Text), other.typeText = .ok otherText →
        (text = otherText ↔ spec.primitives = other.primitives ∧ spec.tokens = other.tokens ∧
          spec.isOpen = other.isOpen) := by
  obtain rfl := text_of_typeText h
  refine ⟨⟨_, TypeExpr.read?_render _, spec.isReadAs_parts⟩, ?_⟩
  intro other otherText hother
  obtain rfl := text_of_typeText hother
  rw [TypeExpr.render_inj, reduced, reduced, TypeExpr.mk.injEq]

/-- A union of a truth value, a token that imitates other members, and a pattern under a
condition. -/
def imitation : ValueSpec :=
  .union [.literal "a\" | (\x7b\x7d & string)\n".toList false, .typed "boolean".toList .none none,
    .conditional "always".toList (.literal "/a/".toList true)]

/-- The token of the imitation is one member of what is read. -/
theorem typeText_unambiguous_imitation :
    ∃ text, imitation.typeText = .ok text ∧
      (∃ members, TypeExpr.read? text = some members ∧ imitation.IsReadAs members) ∧
      ∀ (other : ValueSpec) (otherText : Text), other.typeText = .ok otherText →
        (text = otherText ↔ imitation.primitives = other.primitives ∧
          imitation.tokens = other.tokens ∧ imitation.isOpen = other.isOpen) :=
  ⟨_, rfl, typeText_unambiguous rfl⟩

end ValueSpec

end DomBindings
