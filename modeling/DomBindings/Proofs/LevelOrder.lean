import DomBindings.Proofs.PropertyKeys
import DomBindings.Proofs.SpecReading
import DomBindings.Proofs.TypeMeaning

/-!
# Types by levels

The walk that reduces a specification has a queue and three things that it collects. What it comes
to can be said without them: list the leaves by depth, and from left to right within a depth; if a
type among them is not known, the first such is reported; otherwise the type has the primitives and
then the tokens, each where it first comes in the list, and last the mark of an open type
(`writtenBy`). The walk has worked off its queue by then, so more steps change nothing
(`reduceQueue_of_size_le`), and what it collects without repetition is the list without repetitions,
also after it is written, since different things are written differently (`eraseDups_map`).
-/

namespace DomBindings.ValueSpec

open Traversal

/-! ### What the leaves say -/

/-- The types that are known. -/
def knownKinds : List Text :=
  ["string", "list", "boolean", "integer", "real"].map String.toList

/-- The type that a leaf names and that is not known. -/
def strangeKind? : ValueSpec → Option Text
  | .typed kind _ _ => if kind ∈ knownKinds then none else some kind
  | _ => none

/-- The primitive that is written for a leaf. -/
def writtenPrimitive? : ValueSpec → Option Text
  | .typed kind _ _ =>
    if kind ∈ Primitive.boolean.kinds then some "boolean".toList
    else if kind ∈ Primitive.number.kinds then some "number".toList
    else none
  | _ => none

/-- The token that is written for a leaf. -/
def writtenToken? : ValueSpec → Option Text
  | .literal token false => some token.quote
  | _ => none

/-- Whether any text will do for a leaf. -/
def takesAnyText : ValueSpec → Bool
  | .literal _ isPattern => isPattern
  | .typed kind _ _ => kind = "string".toList || kind = "list".toList
  | _ => false

/-- The primitives and the tokens that are written for leaves, each where it first comes. -/
def writtenMembers (leaves : List ValueSpec) : List Text :=
  (leaves.filterMap writtenPrimitive?).eraseDups ++ (leaves.filterMap writtenToken?).eraseDups

/-- The type that is written for leaves. -/
def writtenBy (leaves : List ValueSpec) : Text :=
  if leaves = [] then "never".toList
  else if writtenMembers leaves = [] then "string".toList
  else
    List.intercalate " | ".toList <|
      if leaves.any takesAnyText then writtenMembers leaves ++ ["(\x7b\x7d & string)".toList]
      else writtenMembers leaves

/-! ### The walk and the list -/

/-- A walk with steps enough works off the whole queue: more steps change nothing. -/
theorem reduceQueue_of_size_le {spec : ValueSpec} {steps : Nat} (h : spec.size ≤ steps) :
    reduceQueue steps [spec] .never = spec.typeExpr := by
  have hsize : sizeAll [spec] = spec.size := by simp [sizeAll]
  rw [← hsize] at h
  rw [typeExpr, ← hsize, reduceQueue_eq_foldlM (Nat.le_refl _) h,
    reduceQueue_eq_foldlM (Nat.le_refl _) (Nat.le_refl _)]

/-- Repetitions may be dropped before different things are made different things, or after. -/
theorem eraseDups_map {α β : Type} [BEq α] [LawfulBEq α] [BEq β] [LawfulBEq β] {f : α → β}
    (hf : Function.Injective f) : ∀ xs : List α, (xs.map f).eraseDups = xs.eraseDups.map f
  | [] => rfl
  | x :: xs => by
    have hfilter : (xs.map f).filter (fun y => !y == f x)
        = (xs.filter fun y => !y == x).map f := by
      rw [List.filter_map]
      refine congrArg (List.map f) (List.filter_congr fun y _ => ?_)
      by_cases hy : y = x
      · simp [hy]
      · have hne : f y ≠ f x := fun he => hy (hf he)
        simp [hy, hne]
    rw [List.map_cons, List.eraseDups_cons, hfilter, eraseDups_map hf, List.eraseDups_cons,
      List.map_cons]
termination_by xs => xs.length
decreasing_by
  exact Nat.lt_succ_of_le (List.length_filter_le _ _)

/-- The meaning of a type, for one that is known and one that is not. -/
theorem kindMeaning?_eq_none_iff {kind : Text} : kindMeaning? kind = none ↔ kind ∉ knownKinds := by
  unfold kindMeaning? knownKinds
  simp only [List.map_cons, List.map_nil, List.mem_cons, List.not_mem_nil, or_false]
  generalize "boolean".toList = boolean, "integer".toList = integer, "real".toList = real,
    "string".toList = string, "list".toList = list
  split
  · next h => simp [h]
  split
  · next h =>
    rcases (by simpa using h : kind = integer ∨ kind = real) with rfl | rfl <;> simp
  split
  · next h =>
    rcases (by simpa using h : kind = string ∨ kind = list) with rfl | rfl <;> simp
  · simp_all

theorem writtenPrimitive?_eq (leaf : ValueSpec) :
    writtenPrimitive? leaf = (primitive? leaf).map Primitive.name := by
  cases leaf with
  | typed kind options members =>
    simp only [writtenPrimitive?, primitive?, ← kindMeaning?_primitive_iff]
    cases kindMeaning? kind with
    | none => rfl
    | some meaning =>
      cases meaning with
      | anyText => rfl
      | primitive p => cases p <;> rfl
  | _ => rfl

theorem writtenToken?_eq (leaf : ValueSpec) :
    writtenToken? leaf = (token? leaf).map Text.quote := by
  cases leaf with
  | literal token isPattern => cases isPattern <;> rfl
  | _ => rfl

theorem takesAnyText_eq (leaf : ValueSpec) : takesAnyText leaf = isWild leaf := by
  cases leaf with
  | typed kind options members =>
    rw [Bool.eq_iff_iff, takesAnyText, isWild, Bool.or_eq_true, decide_eq_true_iff,
      decide_eq_true_iff, decide_eq_true_iff, kindMeaning?_anyText_iff]
  | _ => rfl

theorem refusal?_eq {leaf : ValueSpec} (h : ∀ raw, leaf ≠ .unread raw) :
    refusal? leaf = (strangeKind? leaf).map .unknownKind := by
  cases leaf with
  | typed kind options members =>
    rw [refusal?, strangeKind?]
    split
    · next hkind => rw [if_neg (kindMeaning?_eq_none_iff.mp hkind)]; rfl
    · next meaning hkind =>
      rw [if_pos]
      · rfl
      · by_contra hstrange
        rw [kindMeaning?_eq_none_iff.mpr hstrange] at hkind
        cases hkind
  | unread raw => exact absurd rfl (h raw)
  | _ => rfl

theorem findSome?_refusal?_eq {spec : ValueSpec} (h : spec.IsRead) :
    spec.leaves.findSome? refusal? = (spec.leaves.findSome? strangeKind?).map .unknownKind := by
  have hleaves : ∀ leaf ∈ spec.leaves, refusal? leaf = (strangeKind? leaf).map .unknownKind := by
    intro leaf hleaf
    refine refusal?_eq fun raw hraw => h raw ?_
    exact hraw ▸ (mem_leaves_iff.mp hleaf).1
  -- leaf by leaf, up to the first
  generalize spec.leaves = leaves at hleaves
  induction leaves with
  | nil => rfl
  | cons leaf leaves ih =>
    rw [List.findSome?_cons, List.findSome?_cons, hleaves leaf List.mem_cons_self]
    cases strangeKind? leaf with
    | some kind => rfl
    | none => exact ih fun other hother => hleaves other (List.mem_cons_of_mem _ hother)

/-- The primitives and tokens are written as they are collected. -/
theorem closedMembers_reduced (spec : ValueSpec) :
    spec.reduced.closedMembers = writtenMembers spec.leaves := by
  have hname : Function.Injective Primitive.name := by
    rintro (_ | _) (_ | _) h
    · rfl
    · cases h
    · cases h
    · rfl
  rw [TypeExpr.closedMembers, reduced, primitives, tokens, ← eraseDups_map hname,
    ← eraseDups_map Text.quote_injective, List.map_filterMap, List.map_filterMap, writtenMembers,
    funext writtenPrimitive?_eq, funext writtenToken?_eq]

theorem mem_writtenMembers_iff {leaves : List ValueSpec} {s : Text} : s ∈ writtenMembers leaves ↔
    ∃ leaf ∈ leaves, writtenPrimitive? leaf = some s ∨ writtenToken? leaf = some s := by
  simp only [writtenMembers, List.mem_append, List.mem_eraseDups, List.mem_filterMap, and_or_left,
    exists_or]

/-- A leaf that is not refused says something: a primitive, a token, or that any text will do. -/
theorem exists_written_or_takesAnyText {leaf : ValueSpec} (hleaf : leaf.isLeaf = true)
    (hknown : refusal? leaf = none) :
    (∃ s, writtenPrimitive? leaf = some s ∨ writtenToken? leaf = some s)
      ∨ takesAnyText leaf = true := by
  rw [writtenPrimitive?_eq, writtenToken?_eq, takesAnyText_eq]
  cases leaf with
  | literal token isPattern =>
    cases isPattern with
    | false => exact .inl ⟨token.quote, .inr rfl⟩
    | true => exact .inr rfl
  | typed kind options members =>
    rw [refusal?] at hknown
    rw [primitive?, isWild]
    cases hkind : kindMeaning? kind with
    | none =>
      rw [hkind] at hknown
      cases hknown
    | some meaning =>
      cases meaning with
      | primitive p => exact .inl ⟨p.name, .inl rfl⟩
      | anyText => exact .inr rfl
  | conditional condition values => cases hleaf
  | union members => cases hleaf
  | unread raw => cases hknown

/-- So where nothing is written for the leaves, any text will do for each of them. -/
theorem takesAnyText_of_writtenMembers_eq_nil {spec : ValueSpec}
    (hknown : spec.leaves.findSome? refusal? = none) (hnone : writtenMembers spec.leaves = []) :
    ∀ leaf ∈ spec.leaves, takesAnyText leaf = true := by
  intro leaf hleaf
  rcases exists_written_or_takesAnyText (mem_leaves_iff.mp hleaf).2
    (List.findSome?_eq_none_iff.mp hknown leaf hleaf) with ⟨s, hs⟩ | hany
  · have hmem : s ∈ writtenMembers spec.leaves := mem_writtenMembers_iff.mpr ⟨leaf, hleaf, hs⟩
    rw [hnone] at hmem
    cases hmem
  · exact hany

/-- What is written for the leaves is the written form of what they say. -/
theorem render_reduced {spec : ValueSpec} (hknown : spec.leaves.findSome? refusal? = none) :
    spec.reduced.render = writtenBy spec.leaves := by
  have hany := @takesAnyText_of_writtenMembers_eq_nil spec hknown
  have hopen : spec.reduced.isOpen = spec.leaves.any takesAnyText := by
    rw [reduced, isOpen, funext takesAnyText_eq]
  rw [TypeExpr.render, TypeExpr.members, hopen, spec.closedMembers_reduced, writtenBy]
  cases hleaves : spec.leaves with
  | nil => rfl
  | cons leaf leaves =>
    rw [if_neg (List.cons_ne_nil leaf leaves)]
    cases hwritten : writtenMembers (leaf :: leaves) with
    | nil =>
      rw [hleaves] at hany
      rw [List.any_cons, hany hwritten leaf List.mem_cons_self, Bool.true_or]
      rfl
    | cons m ms => cases (leaf :: leaves).any takesAnyText <;> rfl

/-- **Types by levels.** The walk over a specification works off its queue. If a leaf names a type
that is not known, the first that does, by depth and then from left to right, is reported, and
nothing else ever is. Otherwise the type is what is written for the leaves in this order. -/
theorem typeText_eq_byLevels {spec : ValueSpec} (h : spec.IsRead) :
    (∀ steps, spec.size ≤ steps → reduceQueue steps [spec] .never = spec.typeExpr) ∧
    (∀ kind, spec.leaves.findSome? strangeKind? = some kind →
      ∃ e : SchemaError, spec.typeText = .error e ∧ e.code = .unknownType ∧
        e.message = .ok ("Unknown value type: ".toList ++ kind)) ∧
    (spec.leaves.findSome? strangeKind? = none → spec.typeText = .ok (writtenBy spec.leaves)) := by
  have hfault := spec.fault?_typeExpr
  rw [findSome?_refusal?_eq h] at hfault
  refine ⟨fun steps => reduceQueue_of_size_le, fun kind hkind => ?_, fun hknown => ?_⟩
  · rw [hkind] at hfault
    refine ⟨.unknownKind kind, ?_, rfl, rfl⟩
    rw [typeText, fault?_eq_some_iff.mp hfault]
    rfl
  · have hnone : spec.leaves.findSome? refusal? = none := by
      rw [findSome?_refusal?_eq h, hknown]
      rfl
    rw [typeText, typeExpr_eq_ok_iff.mpr ⟨hnone, rfl⟩]
    exact congrArg Except.ok (render_reduced hnone)

/-- A union in which the first member is the deepest, and one member is empty. -/
def unevenUnion : ValueSpec :=
  .union [
    .conditional "c".toList (.union [.literal "b".toList false, .typed "real".toList .none none]),
    .literal "a".toList false, .union [], .typed "list".toList .none (some (.literal [] false)),
    .literal "a".toList false]

/-- What stands at a lesser depth comes first, wherever it stands in the text. -/
theorem typeText_eq_byLevels_uneven : unevenUnion.IsRead ∧
    unevenUnion.typeText = .ok "number | \"a\" | \"b\" | (\x7b\x7d & string)".toList := by
  have hread : unevenUnion.IsRead :=
    @isRead_of_ofValue
      (.list [.map [(.text "when".toList, .text "c".toList), (.text "values".toList,
          .list [.text "b".toList, .map [(.text "type".toList, .text "real".toList)]])],
        .text "a".toList, .list [],
        .map [(.text "type".toList, .text "list".toList), (.text "member-values".toList, .text [])],
        .text "a".toList]) unevenUnion rfl
  exact ⟨hread, (typeText_eq_byLevels hread).2.2 rfl⟩

/-- And of two types that are not known the one at the lesser depth is reported. -/
example : (ValueSpec.union [.union [.typed "odd".toList .none none],
    .typed "strange".toList .none none]).typeText = .error (.unknownKind "strange".toList) :=
  rfl

end DomBindings.ValueSpec
