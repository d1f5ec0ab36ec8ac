import DomBindings.Json
import DomBindings.Proofs.Traversal

/-!
# Refused documents

A document is refused because it is malformed or because a numeral in it cannot be read. The only
numerals that are refused are integers of too many digits (`refusesExcess_read`): the reader takes a
numeral only where it has the form of one.
-/

namespace DomBindings.Json

variable {α β : Type}

/-- Whether a reading that is refused for a number is refused for its digits, of which there are too
many. -/
def RefusesExcess (reading : Except JsonError α) : Prop :=
  ∀ e, reading = .error (.numeral e) →
    ∃ digits, maxDecimalDigits < digits ∧ e = .tooLongToRead digits

namespace RefusesExcess

theorem ok (x : α) : RefusesExcess (.ok x) := by
  intro e h
  cases h

theorem malformed : RefusesExcess (.error .malformed : Except JsonError α) := by
  intro e h
  cases h

theorem bind {x : Except JsonError α} {f : α → Except JsonError β} (hx : RefusesExcess x)
    (hf : ∀ a, RefusesExcess (f a)) : RefusesExcess (x >>= f) := by
  intro e h
  rcases Traversal.bind_eq_error_iff.mp h with h | ⟨a, -, h⟩
  · exact hx e h
  · exact hf a e h

end RefusesExcess

theorem refusesExcess_readText (s : Text) : RefusesExcess (readText s) := by
  unfold readText
  split
  · exact .ok _
  · exact .malformed

theorem refusesExcess_readNumber (s : Text) : RefusesExcess (readNumber s) := by
  unfold readNumber
  generalize (if s.head? = some '-' then (['-'], s.drop 1) else ([], s)) = start
  dsimp only
  split
  · exact .malformed
  split
  · next hlong =>
    rintro e ⟨⟩
    exact ⟨_, of_decide_eq_true (Bool.and_eq_true_iff.mp hlong).2, rfl⟩
  · exact .ok _

theorem refusesExcess_readSimple (s : Text) : RefusesExcess (readSimple s) := by
  unfold readSimple
  split
  · exact .ok _
  · exact refusesExcess_readNumber s

theorem refusesExcess_read_parts (fuel : Nat) :
    (∀ s, RefusesExcess (readValue fuel s)) ∧ (∀ s, RefusesExcess (readItems fuel s)) ∧
      ∀ s, RefusesExcess (readMembers fuel s) := by
  induction fuel with
  | zero => exact ⟨fun _ => .malformed, fun _ => .malformed, fun _ => .malformed⟩
  | succ fuel ih =>
    obtain ⟨hvalue, hitems, hmembers⟩ := ih
    refine ⟨fun s => ?_, fun s => ?_, fun s => ?_⟩
    · rw [readValue.eq_def]
      dsimp only
      split
      · exact .bind (refusesExcess_readText _) fun _ => .ok _
      · split
        · exact .ok _
        · exact .bind (hitems _) fun _ => .ok _
      · split
        · exact .ok _
        · exact .bind (hmembers _) fun _ => .ok _
      · exact refusesExcess_readSimple _
    · rw [readItems]
      refine .bind (hvalue s) fun read => ?_
      dsimp only
      split
      · exact .ok _
      · exact .bind (hitems _) fun _ => .ok _
      · exact .malformed
    · rw [readMembers]
      refine .bind (refusesExcess_readText s) fun read => ?_
      dsimp only
      split
      · refine .bind (hvalue _) fun read => ?_
        split
        · exact .ok _
        · exact .bind (hmembers _) fun _ => .ok _
        · exact .malformed
      · exact .malformed

theorem refusesExcess_read (s : Text) : RefusesExcess (read s) := by
  refine .bind ((refusesExcess_read_parts _).1 _) fun read => ?_
  dsimp only
  split
  · exact .ok _
  · exact .malformed

/-! ### A document that is one long numeral -/

theorem read_ones {n : Nat} (h : maxDecimalDigits < n) :
    read (List.replicate n '1') = .error (.numeral (.tooLongToRead n)) := by
  obtain ⟨m, rfl⟩ := Nat.exists_eq_succ_of_ne_zero (Nat.ne_of_gt (Nat.zero_lt_of_lt h))
  have hwhole : splitWhole ('1' :: List.replicate m '1') = (List.replicate (m + 1) '1', []) := by
    have hdigits : splitWhole ('1' :: List.replicate m '1')
        = splitDigits (List.replicate (m + 1) '1') := rfl
    rw [hdigits, splitDigits, List.takeWhile_replicate, List.dropWhile_replicate]
    rfl
  have hnumber : readNumber ('1' :: List.replicate m '1')
      = .error (.numeral (.tooLongToRead (m + 1))) := by
    have hminus : ¬ ('1' :: List.replicate m '1').head? = some '-' := by
      rw [List.head?_cons]
      decide
    unfold readNumber
    rw [if_neg hminus]
    simp only [hwhole, List.length_replicate]
    exact if_pos (decide_eq_true h)
  have hvalue (fuel : Nat) : readValue (fuel + 1) ('1' :: List.replicate m '1')
      = .error (.numeral (.tooLongToRead (m + 1))) := hnumber
  have hspace : skipSpace (List.replicate (m + 1) '1') = '1' :: List.replicate m '1' := rfl
  rw [read, hspace, hvalue]
  rfl

end DomBindings.Json
