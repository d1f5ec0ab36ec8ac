import DomBindings.Proofs.Traversal
import DomBindings.SchemaError

/-!
# Values that can be written

A value cannot be written where an integer in it has too many digits, and that is the only reason.
So the parts of a value that can be written can be written too, and a value that can be written as a
message has it can be displayed.
-/

namespace DomBindings

open Traversal

namespace Value

/-- A message can show a value. -/
def IsWritable (v : Value) : Prop :=
  ∃ s, v.literal = .ok s

theorem isWritable_null : IsWritable .null :=
  ⟨_, rfl⟩

theorem isWritable_of_literals : ∀ {items : List Value} {ss : List Text},
    literals items = .ok ss → ∀ v ∈ items, v.IsWritable
  | [], _, _ => fun _ hv => nomatch hv
  | first :: rest, _, h => by
    rw [literals] at h
    obtain ⟨s, hs, h⟩ := bind_eq_ok_iff.mp h
    obtain ⟨others, hothers, -⟩ := bind_eq_ok_iff.mp h
    exact List.forall_mem_cons.mpr ⟨⟨s, hs⟩, isWritable_of_literals hothers⟩

theorem isWritable_of_entryLiterals : ∀ {entries : List (Value × Value)} {ss : List Text},
    entryLiterals entries = .ok ss → ∀ e ∈ entries, e.1.IsWritable ∧ e.2.IsWritable
  | [], _, _ => fun _ he => nomatch he
  | (k, v) :: rest, _, h => by
    rw [entryLiterals] at h
    obtain ⟨key, hkey, h⟩ := bind_eq_ok_iff.mp h
    obtain ⟨value, hvalue, h⟩ := bind_eq_ok_iff.mp h
    obtain ⟨others, hothers, -⟩ := bind_eq_ok_iff.mp h
    exact List.forall_mem_cons.mpr
      ⟨⟨⟨key, hkey⟩, ⟨value, hvalue⟩⟩, isWritable_of_entryLiterals hothers⟩

/-- The items of a sequence can be written if it can, -/
theorem IsWritable.item {items : List Value} (h : IsWritable (.list items)) :
    ∀ v ∈ items, v.IsWritable := by
  obtain ⟨s, hs⟩ := h
  rw [literal] at hs
  obtain ⟨ss, hss, -⟩ := bind_eq_ok_iff.mp hs
  exact isWritable_of_literals hss

/-- and so can the keys of a mapping and what they are bound to. -/
theorem IsWritable.entry {entries : List (Value × Value)} (h : IsWritable (.map entries)) :
    ∀ e ∈ entries, e.1.IsWritable ∧ e.2.IsWritable := by
  obtain ⟨s, hs⟩ := h
  rw [literal] at hs
  obtain ⟨ss, hss, -⟩ := bind_eq_ok_iff.mp hs
  exact isWritable_of_entryLiterals hss

/-- What a key is looked up to is bound in the mapping. -/
theorem exists_mem_of_lookup? {key : Text} {v : Value} {entries : List (Value × Value)}
    (h : lookup? key entries = some v) : ∃ k, (k, v) ∈ entries := by
  fun_induction lookup? key entries with
  | case1 => cases h
  | case2 w rest =>
    obtain rfl := Option.some.inj h
    exact ⟨_, List.mem_cons_self⟩
  | case3 _ _ _ _ ih | case4 _ _ _ ih =>
    obtain ⟨k, hk⟩ := ih h
    exact ⟨k, List.mem_cons_of_mem _ hk⟩

/-- A value that can be written can be displayed: only some texts are displayed otherwise. -/
theorem IsWritable.exists_display {v : Value} (h : v.IsWritable) : ∃ s, v.display = .ok s := by
  unfold display
  split
  · exact ⟨_, rfl⟩
  · exact ⟨_, rfl⟩
  · exact ⟨_, rfl⟩
  · exact h

end Value

end DomBindings
