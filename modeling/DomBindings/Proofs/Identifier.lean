import DomBindings.Identifier

/-!
# The characters of identifiers

What an identifier is made of in the end are characters that it may hold, whatever the name was. So
an identifier in a line ends at the first other character, and it can be read from there.
-/

namespace DomBindings.Identifier

theorem isAllowed_replaceChar (c : Char) : isAllowed (replaceChar c) = true := by
  rw [replaceChar]
  split
  · next h => exact h
  · rfl

/-- Every character of a sanitized name may stand in an identifier. -/
theorem isAllowed_of_mem_sanitize {name : Text} {c : Char} (h : c ∈ sanitize name) :
    isAllowed c = true := by
  have hmap : ∀ c ∈ name.map replaceChar, isAllowed c = true := by
    intro c hc
    obtain ⟨c', -, rfl⟩ := List.mem_map.mp hc
    exact isAllowed_replaceChar c'
  unfold sanitize avoidDigit at h
  split at h
  · next d rest hrest =>
    split at h
    · rcases List.mem_cons.mp h with rfl | h
      · rfl
      · exact hmap c h
    · exact hmap c h
  · cases h

/-- And so may every character of a factory's identifier. -/
theorem isAllowed_of_mem_factory {name : Text} {c : Char} (h : c ∈ factory name) :
    isAllowed c = true := by
  rw [factory, avoidReserved] at h
  split at h
  · rcases List.mem_append.mp h with h | h
    · exact isAllowed_of_mem_sanitize h
    · obtain rfl := List.mem_singleton.mp h
      rfl
  · exact isAllowed_of_mem_sanitize h

/-- Where no low line is, none was put: not for a character, -/
theorem replaceChar_eq_self {c : Char} (h : replaceChar c ≠ '_') : replaceChar c = c := by
  rw [replaceChar] at h ⊢
  split at h
  · next hallowed => rw [if_pos hallowed]
  · exact absurd rfl h

/-- not in front of a digit, -/
theorem avoidDigit_eq_self {s : Text} (h : '_' ∉ avoidDigit s) : avoidDigit s = s := by
  cases s with
  | nil => rfl
  | cons c rest =>
    rw [avoidDigit] at h ⊢
    split at h
    · exact absurd List.mem_cons_self h
    · next hdigit => rw [if_neg hdigit]

/-- and not behind a reserved word. -/
theorem avoidReserved_eq_self {s : Text} (h : '_' ∉ avoidReserved s) : avoidReserved s = s := by
  rw [avoidReserved] at h ⊢
  split at h
  · exact absurd (List.mem_append_right _ (List.mem_singleton_self _)) h
  · next hreserved => rw [if_neg hreserved]

/-- So an identifier without a low line is the name that it was made of. -/
theorem eq_of_factory_eq {name identifier : Text} (h : factory name = identifier)
    (hline : '_' ∉ identifier) : name = identifier := by
  subst h
  have hreserved : factory name = sanitize name := avoidReserved_eq_self hline
  rw [hreserved] at hline ⊢
  have hdigit : sanitize name = name.map replaceChar := avoidDigit_eq_self hline
  rw [hdigit] at hline ⊢
  refine ((List.map_congr_left fun c hc => replaceChar_eq_self fun hc' => ?_).trans
    (List.map_id' name)).symm
  exact hline (hc' ▸ List.mem_map_of_mem hc)

/-- An identifier ends where a character follows that it may not hold. -/
theorem takeWhile_isAllowed {identifier : Text} (h : ∀ c ∈ identifier, isAllowed c = true)
    {c : Char} (hc : isAllowed c = false) (rest : Text) :
    (identifier ++ c :: rest).takeWhile isAllowed = identifier := by
  rw [List.takeWhile_append_of_pos h, List.takeWhile_cons_of_neg (by simp [hc]), List.append_nil]

theorem dropWhile_isAllowed {identifier : Text} (h : ∀ c ∈ identifier, isAllowed c = true)
    {c : Char} (hc : isAllowed c = false) (rest : Text) :
    (identifier ++ c :: rest).dropWhile isAllowed = c :: rest := by
  rw [List.dropWhile_append_of_pos h, List.dropWhile_cons_of_neg (by simp [hc])]

end DomBindings.Identifier
