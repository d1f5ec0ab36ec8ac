import DomBindings.Vocabulary.Basic
import Mathlib.Data.List.Forall2

/-!
# Likeness is an equivalence

Definitions are compared as data, not by identity, and loaded values inside them by their codes, so
likeness is coarser than equality. It is still an equivalence, for specifications by induction on
their trees and for the definitions of attributes and events after it. What a specification is
alike to has the same constructor and alike parts; the inversion lemmas say so, one for each
constructor.
-/

namespace DomBindings

namespace TypeOptions

theorem alike_iff {a b : TypeOptions} :
    a.alike b = true ↔ a.signed.Alike b.signed ∧ a.separator.Alike b.separator ∧
      a.ordered.Alike b.ordered ∧ a.unique.Alike b.unique := by
  simp [alike, and_assoc]

theorem alike_refl (a : TypeOptions) : a.alike a = true :=
  alike_iff.mpr ⟨.refl _, .refl _, .refl _, .refl _⟩

theorem alike_symm {a b : TypeOptions} (h : a.alike b = true) : b.alike a = true := by
  obtain ⟨h₁, h₂, h₃, h₄⟩ := alike_iff.mp h
  exact alike_iff.mpr ⟨h₁.symm, h₂.symm, h₃.symm, h₄.symm⟩

theorem alike_trans {a b c : TypeOptions} (h : a.alike b = true) (k : b.alike c = true) :
    a.alike c = true := by
  obtain ⟨h₁, h₂, h₃, h₄⟩ := alike_iff.mp h
  obtain ⟨k₁, k₂, k₃, k₄⟩ := alike_iff.mp k
  exact alike_iff.mpr ⟨h₁.trans k₁, h₂.trans k₂, h₃.trans k₃, h₄.trans k₄⟩

end TypeOptions

namespace ValueSpec

/-! ### What a specification is alike to -/

theorem literal_alike_iff {token : Text} {isPattern : Bool} {b : ValueSpec} :
    (literal token isPattern).alike b = true ↔ b = literal token isPattern := by
  cases b with
  | literal token' isPattern' =>
    simp only [alike, Bool.and_eq_true, beq_iff_eq, literal.injEq]
    exact and_congr eq_comm eq_comm
  | _ => simp [alike]

theorem typed_alike_iff {kind : Text} {options : TypeOptions} {members : Option ValueSpec}
    {b : ValueSpec} :
    (typed kind options members).alike b = true ↔ ∃ options' members',
      b = typed kind options' members' ∧ options.alike options' = true ∧
        alikeOption members members' = true := by
  cases b with
  | typed kind' options' members' =>
    simp only [alike, Bool.and_eq_true, beq_iff_eq, typed.injEq]
    constructor
    · rintro ⟨⟨rfl, ho⟩, hm⟩
      exact ⟨options', members', ⟨rfl, rfl, rfl⟩, ho, hm⟩
    · rintro ⟨_, _, ⟨rfl, rfl, rfl⟩, ho, hm⟩
      exact ⟨⟨rfl, ho⟩, hm⟩
  | _ => simp [alike]

theorem conditional_alike_iff {condition : Text} {values b : ValueSpec} :
    (conditional condition values).alike b = true ↔ ∃ values',
      b = conditional condition values' ∧ values.alike values' = true := by
  cases b with
  | conditional condition' values' =>
    simp only [alike, Bool.and_eq_true, beq_iff_eq, conditional.injEq]
    constructor
    · rintro ⟨rfl, hv⟩
      exact ⟨values', ⟨rfl, rfl⟩, hv⟩
    · rintro ⟨_, ⟨rfl, rfl⟩, hv⟩
      exact ⟨rfl, hv⟩
  | _ => simp [alike]

theorem union_alike_iff {members : List ValueSpec} {b : ValueSpec} :
    (union members).alike b = true ↔ ∃ members',
      b = union members' ∧ alikeAll members members' = true := by
  cases b with
  | union members' => simp [alike]
  | _ => simp [alike]

theorem unread_alike_iff {raw : Value} {b : ValueSpec} :
    (unread raw).alike b = true ↔ ∃ raw', b = unread raw' ∧ raw.Alike raw' := by
  cases b with
  | unread raw' => simp [alike]
  | _ => simp [alike]

/-- Likeness as a relation. -/
def IsAlike (a b : ValueSpec) : Prop :=
  a.alike b = true

theorem alikeAll_iff {as bs : List ValueSpec} :
    alikeAll as bs = true ↔ List.Forall₂ IsAlike as bs := by
  induction as generalizing bs with
  | nil => cases bs <;> simp [alikeAll]
  | cons a as ih => cases bs <;> simp [alikeAll, IsAlike, ih]

/-! ### Equivalence -/

mutual

theorem alike_refl : ∀ a : ValueSpec, a.alike a = true
  | .literal _ _ => literal_alike_iff.mpr rfl
  | .typed _ options members =>
    typed_alike_iff.mpr ⟨options, members, rfl, options.alike_refl, alikeOption_refl members⟩
  | .conditional _ values => conditional_alike_iff.mpr ⟨values, rfl, alike_refl values⟩
  | .union members => union_alike_iff.mpr ⟨members, rfl, alikeAll_refl members⟩
  | .unread raw => unread_alike_iff.mpr ⟨raw, rfl, .refl raw⟩

theorem alikeOption_refl : ∀ a : Option ValueSpec, alikeOption a a = true
  | none => rfl
  | some a => alike_refl a

theorem alikeAll_refl : ∀ as : List ValueSpec, alikeAll as as = true
  | [] => rfl
  | a :: as => by rw [alikeAll, alike_refl a, alikeAll_refl as, Bool.and_self]

end

mutual

theorem alike_symm : ∀ {a b : ValueSpec}, a.alike b = true → b.alike a = true
  | .literal _ _, _, h => by
    obtain rfl := literal_alike_iff.mp h
    exact alike_refl _
  | .typed _ _ _, _, h => by
    obtain ⟨_, _, rfl, ho, hm⟩ := typed_alike_iff.mp h
    exact typed_alike_iff.mpr ⟨_, _, rfl, TypeOptions.alike_symm ho, alikeOption_symm hm⟩
  | .conditional _ _, _, h => by
    obtain ⟨_, rfl, hv⟩ := conditional_alike_iff.mp h
    exact conditional_alike_iff.mpr ⟨_, rfl, alike_symm hv⟩
  | .union _, _, h => by
    obtain ⟨_, rfl, hm⟩ := union_alike_iff.mp h
    exact union_alike_iff.mpr ⟨_, rfl, alikeAll_symm hm⟩
  | .unread _, _, h => by
    obtain ⟨_, rfl, hr⟩ := unread_alike_iff.mp h
    exact unread_alike_iff.mpr ⟨_, rfl, hr.symm⟩

theorem alikeOption_symm : ∀ {a b : Option ValueSpec},
    alikeOption a b = true → alikeOption b a = true
  | none, none, _ => rfl
  | some _, some _, h => alike_symm (by simpa [alikeOption] using h)
  | none, some _, h => by simp [alikeOption] at h
  | some _, none, h => by simp [alikeOption] at h

theorem alikeAll_symm : ∀ {as bs : List ValueSpec}, alikeAll as bs = true → alikeAll bs as = true
  | [], [], _ => rfl
  | _ :: _, _ :: _, h => by
    rw [alikeAll, Bool.and_eq_true] at h ⊢
    exact ⟨alike_symm h.1, alikeAll_symm h.2⟩
  | [], _ :: _, h => by simp [alikeAll] at h
  | _ :: _, [], h => by simp [alikeAll] at h

end

mutual

theorem alike_trans : ∀ {a b c : ValueSpec}, a.alike b = true → b.alike c = true →
    a.alike c = true
  | .literal _ _, _, _, h, k => by
    obtain rfl := literal_alike_iff.mp h
    exact k
  | .typed _ _ _, _, _, h, k => by
    obtain ⟨_, _, rfl, ho, hm⟩ := typed_alike_iff.mp h
    obtain ⟨_, _, rfl, ho', hm'⟩ := typed_alike_iff.mp k
    exact typed_alike_iff.mpr
      ⟨_, _, rfl, TypeOptions.alike_trans ho ho', alikeOption_trans hm hm'⟩
  | .conditional _ _, _, _, h, k => by
    obtain ⟨_, rfl, hv⟩ := conditional_alike_iff.mp h
    obtain ⟨_, rfl, hv'⟩ := conditional_alike_iff.mp k
    exact conditional_alike_iff.mpr ⟨_, rfl, alike_trans hv hv'⟩
  | .union _, _, _, h, k => by
    obtain ⟨_, rfl, hm⟩ := union_alike_iff.mp h
    obtain ⟨_, rfl, hm'⟩ := union_alike_iff.mp k
    exact union_alike_iff.mpr ⟨_, rfl, alikeAll_trans hm hm'⟩
  | .unread _, _, _, h, k => by
    obtain ⟨_, rfl, hr⟩ := unread_alike_iff.mp h
    obtain ⟨_, rfl, hr'⟩ := unread_alike_iff.mp k
    exact unread_alike_iff.mpr ⟨_, rfl, hr.trans hr'⟩

theorem alikeOption_trans : ∀ {a b c : Option ValueSpec},
    alikeOption a b = true → alikeOption b c = true → alikeOption a c = true
  | none, none, _, _, k => k
  | some _, some _, some _, h, k => by
    rw [alikeOption] at h k ⊢
    exact alike_trans h k
  | some _, some _, none, _, k => by simp [alikeOption] at k
  | none, some _, _, h, _ => by simp [alikeOption] at h
  | some _, none, _, h, _ => by simp [alikeOption] at h

theorem alikeAll_trans : ∀ {as bs cs : List ValueSpec},
    alikeAll as bs = true → alikeAll bs cs = true → alikeAll as cs = true
  | [], [], _, _, k => k
  | _ :: _, _ :: _, _ :: _, h, k => by
    rw [alikeAll, Bool.and_eq_true] at h k ⊢
    exact ⟨alike_trans h.1 k.1, alikeAll_trans h.2 k.2⟩
  | _ :: _, _ :: _, [], _, k => by simp [alikeAll] at k
  | [], _ :: _, _, h, _ => by simp [alikeAll] at h
  | _ :: _, [], _, h, _ => by simp [alikeAll] at h

end

end ValueSpec

/-! ### Definitions -/

/-- A kind of definitions whose likeness is an equivalence. -/
class LawfulDefinition (α : Type) [Definition α] : Prop where
  /-- a definition is alike to itself -/
  refl : ∀ a : α, Definition.alike a a = true
  /-- likeness goes both ways -/
  symm : ∀ {a b : α}, Definition.alike a b = true → Definition.alike b a = true
  /-- definitions alike to one definition are alike -/
  trans : ∀ {a b c : α}, Definition.alike a b = true → Definition.alike b c = true →
    Definition.alike a c = true

theorem Attribute.alike_iff {a b : Attribute} :
    Definition.alike a b = true ↔
      a.description = b.description ∧ a.ref = b.ref ∧ a.values.alike b.values = true := by
  simp [Definition.alike, Attribute.alike, and_assoc]

theorem Event.alike_iff {a b : Event} : Definition.alike a b = true ↔ a = b := by
  simp [Definition.alike]

instance : LawfulDefinition Attribute where
  refl a := Attribute.alike_iff.mpr ⟨rfl, rfl, ValueSpec.alike_refl _⟩
  symm h := by
    obtain ⟨hd, hr, hv⟩ := Attribute.alike_iff.mp h
    exact Attribute.alike_iff.mpr ⟨hd.symm, hr.symm, ValueSpec.alike_symm hv⟩
  trans h k := by
    obtain ⟨hd, hr, hv⟩ := Attribute.alike_iff.mp h
    obtain ⟨hd', hr', hv'⟩ := Attribute.alike_iff.mp k
    exact Attribute.alike_iff.mpr ⟨hd.trans hd', hr.trans hr', ValueSpec.alike_trans hv hv'⟩

instance : LawfulDefinition Event where
  refl _ := Event.alike_iff.mpr rfl
  symm h := Event.alike_iff.mpr (Event.alike_iff.mp h).symm
  trans h k := Event.alike_iff.mpr ((Event.alike_iff.mp h).trans (Event.alike_iff.mp k))

end DomBindings
