import DomBindings.Proofs.Leaves
import DomBindings.Proofs.Writability

/-!
# Specifications that were read

Reading turns every part of a loaded value into a specification or fails, so no loaded value is left
standing in what was read (`isRead_of_ofValue`). All that can be wrong with it later is a type that
is not known (`unknownKind_of_isRead`). Where reading fails, the value has none of the known forms,
or a number in it cannot be written (`isSpecFault_of_ofValue`).
-/

namespace DomBindings.ValueSpec

open Traversal

/-- No loaded value stands where a specification belongs. -/
def IsRead (spec : ValueSpec) : Prop :=
  ∀ raw, ¬ Reaches spec (.unread raw)

theorem isRead_of_parts {spec : ValueSpec} (hleaf : ∀ raw, spec ≠ .unread raw)
    (h : ∀ p ∈ spec.parts, p.IsRead) : spec.IsRead := by
  intro raw hreach
  cases hreach with
  | refl => exact hleaf raw rfl
  | part hp hreach => exact h _ hp raw hreach

/-- A mapping without a condition is read as a typed value. -/
theorem typed_of_ofValue {entries : List (Value × Value)} {spec : ValueSpec}
    (hwhen : Value.lookup? "when".toList entries = none) (h : ofValue (.map entries) = .ok spec) :
    ∃ kind options members, spec = .typed kind options members := by
  simp only [ofValue, hwhen] at h
  split at h
  · split at h
    · exact ⟨_, _, _, (Except.ok.inj h).symm⟩
    · exact ⟨_, _, _, (Except.ok.inj h).symm⟩
    · split at h
      · exact ⟨_, _, _, (Except.ok.inj h).symm⟩
      · obtain ⟨inner, -, h⟩ := bind_eq_ok_iff.mp h
        exact ⟨_, _, _, (Except.ok.inj h).symm⟩
  · cases h

mutual

/-- What is read holds no value that was not. -/
theorem isRead_of_ofValue : ∀ {raw : Value} {spec : ValueSpec}, ofValue raw = .ok spec →
    spec.IsRead
  | .text token, spec, h => by
    obtain rfl := Except.ok.inj h
    exact isRead_of_parts (fun _ => ValueSpec.noConfusion) (fun _ hp => nomatch hp)
  | .list items, spec, h => by
    rw [ofValue] at h
    obtain ⟨members, hm, h⟩ := bind_eq_ok_iff.mp h
    obtain rfl := Except.ok.inj h
    exact isRead_of_parts (fun _ => ValueSpec.noConfusion) (isRead_of_ofValues hm)
  | .map entries, spec, h => by
    have h' := h
    rw [ofValue] at h
    split at h
    · -- a condition
      split at h
      · cases h
      · next values hvalues =>
        obtain ⟨condition, -, h⟩ := bind_eq_ok_iff.mp h
        obtain ⟨inner, rfl, h⟩ := bind_eq_ok_iff.mp h
        obtain rfl := Except.ok.inj h
        refine isRead_of_parts (fun _ => ValueSpec.noConfusion) fun p hp => ?_
        obtain rfl := List.mem_singleton.mp hp
        exact isRead_of_ofField? hvalues
    · -- a typed value, whatever is said of its members
      next hwhen =>
      obtain ⟨kind, options, members, rfl⟩ := typed_of_ofValue hwhen h'
      exact isRead_of_parts (fun _ => ValueSpec.noConfusion) (fun _ hp => nomatch hp)
  | .null, _, h => nomatch h
  | .bool _, _, h => nomatch h
  | .int _, _, h => nomatch h
  | .float _, _, h => nomatch h
  | .date _, _, h => nomatch h
  | .moment _, _, h => nomatch h
  | .bytes _, _, h => nomatch h
  | .pair _ _, _, h => nomatch h
  | .set _, _, h => nomatch h

theorem isRead_of_ofValues : ∀ {raws : List Value} {specs : List ValueSpec},
    ofValues raws = .ok specs → ∀ spec ∈ specs, spec.IsRead
  | [], specs, h => by
    obtain rfl := Except.ok.inj h
    exact fun _ hs => nomatch hs
  | raw :: raws, specs, h => by
    rw [ofValues] at h
    obtain ⟨first, hfirst, h⟩ := bind_eq_ok_iff.mp h
    obtain ⟨others, hothers, h⟩ := bind_eq_ok_iff.mp h
    obtain rfl := Except.ok.inj h
    exact List.forall_mem_cons.mpr ⟨isRead_of_ofValue hfirst, isRead_of_ofValues hothers⟩

theorem isRead_of_ofField? : ∀ {entries : List (Value × Value)} {name : Text} {spec : ValueSpec},
    ofField? name entries = some (.ok spec) → spec.IsRead
  | [], _, _, h => nomatch h
  | (key, raw) :: rest, name, spec, h => by
    unfold ofField? at h
    split at h
    · split at h
      · exact isRead_of_ofValue (Option.some.inj h)
      · exact isRead_of_ofField? h
    · exact isRead_of_ofField? h

end

/-- All that can be wrong with a specification that was read is a type that is not known. -/
theorem unknownKind_of_isRead {spec : ValueSpec} {e : SchemaError} (h : spec.IsRead)
    (he : fault? spec.typeText = some e) : ∃ kind, e = .unknownKind kind := by
  rw [typeText, fault?_map, fault?_typeExpr] at he
  obtain ⟨leaf, hleaf, hrefused⟩ := List.exists_of_findSome?_eq_some he
  cases leaf with
  | typed kind options members =>
    rw [refusal?] at hrefused
    split at hrefused
    · exact ⟨kind, (Option.some.inj hrefused).symm⟩
    · cases hrefused
  | unread raw => exact absurd (mem_leaves_iff.mp hleaf).1 (h raw)
  | _ => cases hrefused

/-! ### Values that are not read -/

/-- What can go wrong with reading a specification. It has none of the known forms, which can be
told if `W` is true, and a number in it cannot be written only if `W` is not. -/
def IsSpecFault (W : Prop) : ReadError → Prop
  | .schema e => e.code = .unrecognizedSpec ∧ (W → ∃ m, e.message = .ok m)
  | .numeral _ => ¬ W

theorem IsSpecFault.mono {W W' : Prop} (hW : W' → W) {e : ReadError} (h : IsSpecFault W e) :
    IsSpecFault W' e := by
  cases e with
  | schema e => exact ⟨h.1, fun hw => h.2 (hW hw)⟩
  | numeral e => exact fun hw => h (hW hw)

/-- A value that is refused as having none of the forms can be shown if it can be written. -/
theorem isSpecFault_undecipherable {raw : Value} {e : ReadError}
    (h : refuse raw = (.error e : Except ReadError ValueSpec)) :
    IsSpecFault raw.IsWritable e := by
  obtain rfl := Except.error.inj h
  refine ⟨rfl, ?_⟩
  rintro ⟨s, hs⟩
  exact ⟨_, bind_eq_ok_iff.mpr ⟨s, hs, rfl⟩⟩

/-- A condition is displayed if it can be written. -/
theorem isSpecFault_of_displayed {v : Value} {e : ReadError} (h : displayed v = .error e) :
    IsSpecFault v.IsWritable e := by
  rw [displayed] at h
  split at h
  · cases h
  · next hdisplay =>
    obtain rfl := Except.error.inj h
    intro hw
    obtain ⟨s, hs⟩ := hw.exists_display
    rw [hs] at hdisplay
    cases hdisplay

mutual

/-- Reading a specification fails as one of a part, or because the value has none of the forms. -/
theorem isSpecFault_of_ofValue : ∀ {raw : Value} {e : ReadError}, ofValue raw = .error e →
    IsSpecFault raw.IsWritable e
  | .text token, _, h => nomatch h
  | .list items, e, h => by
    rw [ofValue] at h
    rcases bind_eq_error_iff.mp h with h | ⟨members, -, h⟩
    · exact (isSpecFault_of_ofValues h).mono Value.IsWritable.item
    · cases h
  | .map entries, e, h => by
    have hentries : Value.IsWritable (.map entries) → ∀ e ∈ entries, e.2.IsWritable :=
      fun hw e he => (hw.entry e he).2
    rw [ofValue] at h
    split at h
    · -- a condition
      next condition hcondition =>
      split at h
      · obtain rfl := Except.error.inj h
        refine ⟨rfl, ?_⟩
        rintro ⟨s, hs⟩
        exact ⟨_, bind_eq_ok_iff.mpr ⟨s, hs, rfl⟩⟩
      · next values hvalues =>
        rcases bind_eq_error_iff.mp h with h | ⟨_, -, h⟩
        · obtain ⟨k, hk⟩ := Value.exists_mem_of_lookup? hcondition
          exact (isSpecFault_of_displayed h).mono fun hw => hentries hw _ hk
        · rcases bind_eq_error_iff.mp h with rfl | ⟨_, -, h⟩
          · exact (isSpecFault_of_ofField hvalues).mono hentries
          · cases h
    · -- a typed value, or none of the forms
      split at h
      · split at h
        · cases h
        · cases h
        · split at h
          · cases h
          · next members hmembers =>
            rcases bind_eq_error_iff.mp h with rfl | ⟨_, -, h⟩
            · exact (isSpecFault_of_ofField hmembers).mono hentries
            · cases h
      · exact isSpecFault_undecipherable h
  | .null, _, h => isSpecFault_undecipherable h
  | .bool _, _, h => isSpecFault_undecipherable h
  | .int _, _, h => isSpecFault_undecipherable h
  | .float _, _, h => isSpecFault_undecipherable h
  | .date _, _, h => isSpecFault_undecipherable h
  | .moment _, _, h => isSpecFault_undecipherable h
  | .bytes _, _, h => isSpecFault_undecipherable h
  | .pair _ _, _, h => isSpecFault_undecipherable h
  | .set _, _, h => isSpecFault_undecipherable h

theorem isSpecFault_of_ofValues : ∀ {raws : List Value} {e : ReadError},
    ofValues raws = .error e → IsSpecFault (∀ raw ∈ raws, raw.IsWritable) e
  | [], _, h => nomatch h
  | raw :: raws, e, h => by
    rw [ofValues] at h
    rcases bind_eq_error_iff.mp h with h | ⟨_, -, h⟩
    · exact (isSpecFault_of_ofValue h).mono fun hw => hw raw List.mem_cons_self
    · rcases bind_eq_error_iff.mp h with h | ⟨_, -, h⟩
      · exact (isSpecFault_of_ofValues h).mono fun hw r hr => hw r (List.mem_cons_of_mem _ hr)
      · cases h

theorem isSpecFault_of_ofField : ∀ {entries : List (Value × Value)} {name : Text} {e : ReadError},
    ofField? name entries = some (.error e) → IsSpecFault (∀ e ∈ entries, e.2.IsWritable) e
  | [], _, _, h => nomatch h
  | (key, raw) :: rest, name, e, h => by
    have hrest : (∀ e ∈ (key, raw) :: rest, e.2.IsWritable) → ∀ e ∈ rest, e.2.IsWritable :=
      fun hw e he => hw e (List.mem_cons_of_mem _ he)
    unfold ofField? at h
    split at h
    · split at h
      · exact (isSpecFault_of_ofValue (Option.some.inj h)).mono
          fun hw => hw (_, raw) List.mem_cons_self
      · exact (isSpecFault_of_ofField h).mono hrest
    · exact (isSpecFault_of_ofField h).mono hrest

end

end DomBindings.ValueSpec
