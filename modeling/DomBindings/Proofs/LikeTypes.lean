import DomBindings.Proofs.Leaves

/-!
# Specifications that are alike have one type

Likeness forgets the options of typed values and the form of loaded values inside them, and a type
expression never looks at either. So specifications that are alike have the same shape, their leaves
correspond one to one, and each leaf adds what the other one adds: `typeText_eq_of_alike`. Only the
wording of a refusal may differ, where it shows a value that was never read.
-/

namespace DomBindings.ValueSpec

open Traversal

mutual

theorem size_eq_of_alike : ∀ {a b : ValueSpec}, a.alike b = true → a.size = b.size
  | .literal _ _, _, h => by
    obtain rfl := literal_alike_iff.mp h
    rfl
  | .typed _ _ _, _, h => by
    obtain ⟨_, _, rfl, -, -⟩ := typed_alike_iff.mp h
    rfl
  | .conditional _ _, _, h => by
    obtain ⟨_, rfl, hv⟩ := conditional_alike_iff.mp h
    rw [size, size, size_eq_of_alike hv]
  | .union _, _, h => by
    obtain ⟨_, rfl, hm⟩ := union_alike_iff.mp h
    rw [size, size, sizeAll_eq_of_alike hm]
  | .unread _, _, h => by
    obtain ⟨_, rfl, -⟩ := unread_alike_iff.mp h
    rfl

theorem sizeAll_eq_of_alike : ∀ {as bs : List ValueSpec},
    alikeAll as bs = true → sizeAll as = sizeAll bs
  | [], [], _ => rfl
  | _ :: _, _ :: _, h => by
    rw [alikeAll, Bool.and_eq_true] at h
    rw [sizeAll, sizeAll, size_eq_of_alike h.1, sizeAll_eq_of_alike h.2]
  | [], _ :: _, h => by simp [alikeAll] at h
  | _ :: _, [], h => by simp [alikeAll] at h

end

/-- The forms of two specifications that are alike, as far as a type depends on them. -/
inductive AlikeForm : ValueSpec → ValueSpec → Prop
  | literal (token : Text) (isPattern : Bool) :
      AlikeForm (.literal token isPattern) (.literal token isPattern)
  | typed (kind : Text) (options options' : TypeOptions) (members members' : Option ValueSpec) :
      AlikeForm (.typed kind options members) (.typed kind options' members')
  | conditional (condition : Text) {values values' : ValueSpec} : values.alike values' = true →
      AlikeForm (.conditional condition values) (.conditional condition values')
  | union {members members' : List ValueSpec} : List.Forall₂ IsAlike members members' →
      AlikeForm (.union members) (.union members')
  | unread (raw raw' : Value) : AlikeForm (.unread raw) (.unread raw')

theorem alikeForm {a b : ValueSpec} (h : a.alike b = true) : AlikeForm a b := by
  cases a with
  | literal token isPattern =>
    obtain rfl := literal_alike_iff.mp h
    exact .literal token isPattern
  | typed kind options members =>
    obtain ⟨options', members', rfl, -, -⟩ := typed_alike_iff.mp h
    exact .typed kind options options' members members'
  | conditional condition values =>
    obtain ⟨_, rfl, hv⟩ := conditional_alike_iff.mp h
    exact .conditional condition hv
  | union members =>
    obtain ⟨_, rfl, hm⟩ := union_alike_iff.mp h
    exact .union (alikeAll_iff.mp hm)
  | unread raw =>
    obtain ⟨raw', rfl, -⟩ := unread_alike_iff.mp h
    exact .unread raw raw'

/-- The parts of specifications that are alike correspond. -/
theorem parts_alike {a b : ValueSpec} (h : a.alike b = true) :
    List.Forall₂ IsAlike a.parts b.parts := by
  cases alikeForm h with
  | conditional condition hv => exact .cons hv .nil
  | union hm => exact hm
  | _ => exact .nil

theorem isLeaf_eq_of_alike {a b : ValueSpec} (h : a.alike b = true) : a.isLeaf = b.isLeaf := by
  cases alikeForm h <;> rfl

/-- So do the specifications at each depth. -/
theorem atDepth_alike {a b : ValueSpec} (h : a.alike b = true) (depth : Nat) :
    List.Forall₂ IsAlike (a.atDepth depth) (b.atDepth depth) := by
  induction depth generalizing a b with
  | zero => exact .cons h .nil
  | succ depth ih => exact List.rel_flatMap (parts_alike h) fun _ _ hp => ih hp

/-- And the leaves. -/
theorem leaves_alike {a b : ValueSpec} (h : a.alike b = true) :
    List.Forall₂ IsAlike a.leaves b.leaves := by
  -- both are searched to the same depth
  rw [leaves, leaves, size_eq_of_alike h]
  refine List.rel_flatMap (List.forall₂_same.mpr fun _ _ => rfl) ?_
  rintro depth _ rfl
  exact List.rel_filter (fun _ _ hs => iff_of_eq (congrArg (· = true) (isLeaf_eq_of_alike hs)))
    (atDepth_alike h depth)

/-- What a leaf adds does not depend on its options, and not on the form of a loaded value. -/
theorem contribution_eq_of_alike {a b : ValueSpec} (h : a.alike b = true) :
    primitive? a = primitive? b ∧ token? a = token? b ∧ isWild a = isWild b ∧
      ((refusal? a).isSome = (refusal? b).isSome) := by
  cases alikeForm h <;> exact ⟨rfl, rfl, rfl, rfl⟩

/-! ### What corresponding lists give -/

section Corresponding

variable {α β : Type} {R : α → α → Prop} {xs ys : List α}

theorem filterMap_eq_of_forall₂ {f : α → Option β} (hf : ∀ x y, R x y → f x = f y)
    (h : List.Forall₂ R xs ys) : xs.filterMap f = ys.filterMap f := by
  induction h with
  | nil => rfl
  | cons hxy _ ih => rw [List.filterMap_cons, List.filterMap_cons, hf _ _ hxy, ih]

theorem any_eq_of_forall₂ {p : α → Bool} (hp : ∀ x y, R x y → p x = p y)
    (h : List.Forall₂ R xs ys) : xs.any p = ys.any p := by
  induction h with
  | nil => rfl
  | cons hxy _ ih => rw [List.any_cons, List.any_cons, hp _ _ hxy, ih]

/-- A search succeeds exactly when some member is found. -/
theorem isSome_findSome?_eq_any (f : α → Option β) (xs : List α) :
    (xs.findSome? f).isSome = xs.any fun x => (f x).isSome := by
  induction xs with
  | nil => rfl
  | cons x xs ih =>
    rw [List.findSome?_cons, List.any_cons]
    cases f x with
    | none => exact ih
    | some y => rfl

end Corresponding

/-! ### The type -/

theorem primitives_eq_of_alike {a b : ValueSpec} (h : a.alike b = true) :
    a.primitives = b.primitives :=
  congrArg List.eraseDups <|
    filterMap_eq_of_forall₂ (fun _ _ hs => (contribution_eq_of_alike hs).1) (leaves_alike h)

theorem tokens_eq_of_alike {a b : ValueSpec} (h : a.alike b = true) : a.tokens = b.tokens :=
  congrArg List.eraseDups <|
    filterMap_eq_of_forall₂ (fun _ _ hs => (contribution_eq_of_alike hs).2.1) (leaves_alike h)

theorem isOpen_eq_of_alike {a b : ValueSpec} (h : a.alike b = true) : a.isOpen = b.isOpen :=
  any_eq_of_forall₂ (fun _ _ hs => (contribution_eq_of_alike hs).2.2.1) (leaves_alike h)

/-- Of specifications that are alike both are refused or neither. -/
theorem isSome_refusal_eq_of_alike {a b : ValueSpec} (h : a.alike b = true) :
    (a.leaves.findSome? refusal?).isSome = (b.leaves.findSome? refusal?).isSome := by
  rw [isSome_findSome?_eq_any, isSome_findSome?_eq_any]
  exact any_eq_of_forall₂ (fun _ _ hs => (contribution_eq_of_alike hs).2.2.2) (leaves_alike h)

/-- Specifications that are alike have the same type expression. -/
theorem typeExpr_eq_of_alike {a b : ValueSpec} (h : a.alike b = true) {t : TypeExpr}
    (ha : a.typeExpr = .ok t) : b.typeExpr = .ok t := by
  rw [typeExpr_eq_ok_iff, ← Option.isNone_iff_eq_none, ← Option.isSome_eq_false_iff] at ha ⊢
  rwa [← isSome_refusal_eq_of_alike h, ← primitives_eq_of_alike h, ← tokens_eq_of_alike h,
    ← isOpen_eq_of_alike h]

/-- Specifications that are alike have the same written type. -/
theorem typeText_eq_of_alike {a b : ValueSpec} (h : a.alike b = true) {text : Text}
    (ha : a.typeText = .ok text) : b.typeText = .ok text := by
  rw [typeText] at ha ⊢
  cases ht : a.typeExpr with
  | error e =>
    rw [ht] at ha
    cases ha
  | ok t =>
    rw [ht] at ha
    rw [typeExpr_eq_of_alike h ht]
    exact ha

/-- And of their written types both fail or neither. -/
theorem isSome_fault?_typeText_eq_of_alike {a b : ValueSpec} (h : a.alike b = true) :
    (fault? a.typeText).isSome = (fault? b.typeText).isSome := by
  rw [typeText, typeText, fault?_map, fault?_map, fault?_typeExpr, fault?_typeExpr,
    isSome_refusal_eq_of_alike h]

end DomBindings.ValueSpec
