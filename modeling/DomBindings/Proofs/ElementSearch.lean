import DomBindings.Report.ElementTable
import Mathlib.Data.List.Infix

/-!
# The search for elements

The search compares lower-case forms, and one letter has two of them: a capital sigma becomes the
final form at the end of a word. So the lower-case form of a text depends on what stands around it
(`Text.lowerIn`), but only where a sigma has no letter of the text itself on one of its sides. A
text whose sigmas all have what decides about them is found in every name that holds it. Any other
text is missed in some name: a letter in front or behind makes another sigma of one of its own, and
then the name has too few of the sigmas that are searched for (`select_missesNothing_iff`).
-/

namespace DomBindings

namespace Text

variable {before after before' after' s t : Text}

/-! ### Lower case in a context -/

/-- Whether a capital sigma takes the final form between two texts, the nearest character first. -/
def isFinal (before after : Text) : Bool :=
  startsCased before && !startsCased after

/-- The lower-case form of a character between two texts, the nearest character first. -/
def formIn (before after : Text) (c : Char) : Text :=
  if c = 'Σ' then if isFinal before after then ['ς'] else ['σ'] else lowerChar c

/-- The lower-case form of a text between two others, of the one in front the nearest character
first. -/
def lowerIn (before after : Text) : Text → Text
  | [] => []
  | c :: rest => formIn before (rest ++ after) c ++ lowerIn (c :: before) after rest

theorem lowerAfter_append (before s t : Text) :
    lowerAfter before (s ++ t) = lowerIn before t s ++ lowerAfter (s.reverse ++ before) t := by
  induction s generalizing before with
  | nil => rfl
  | cons c s ih =>
    have hstep : lowerAfter before (c :: (s ++ t))
        = formIn before (s ++ t) c ++ lowerAfter (c :: before) (s ++ t) := rfl
    rw [List.cons_append, hstep, ih, lowerIn, List.append_assoc, List.reverse_cons,
      List.append_assoc, List.singleton_append]

theorem lower_eq_lowerIn (s : Text) : lower s = lowerIn [] [] s := by
  have hwhole := lowerAfter_append [] s []
  rw [List.append_nil] at hwhole
  rw [lower, hwhole]
  exact List.append_nil _

/-- The lower-case form of a text that is held by another is that of its place there. -/
theorem lower_append_append (b s a : Text) :
    lower (b ++ s ++ a) = lowerIn [] (s ++ a) b ++ lowerIn b.reverse a s
      ++ lowerAfter (s.reverse ++ b.reverse) a := by
  rw [lower, List.append_assoc, lowerAfter_append, lowerAfter_append, List.append_nil,
    List.append_assoc]

theorem lowerIn_append (before after s t : Text) :
    lowerIn before after (s ++ t)
      = lowerIn before (t ++ after) s ++ lowerIn (s.reverse ++ before) after t := by
  induction s generalizing before with
  | nil => rfl
  | cons c s ih =>
    rw [List.cons_append, lowerIn, lowerIn, ih, List.append_assoc, List.append_assoc,
      List.reverse_cons, List.append_assoc, List.singleton_append]

/-- The form of a sigma at a place in a text between two others. -/
theorem formIn_sigma (before after : Text) :
    formIn before after 'Σ' = if isFinal before after then ['ς'] else ['σ'] :=
  if_pos rfl

/-- Texts around a text that decide alike about its sigmas give it the same form. -/
theorem lowerIn_congr (h : ∀ p q, s = p ++ 'Σ' :: q →
      isFinal (p.reverse ++ before) (q ++ after) = isFinal (p.reverse ++ before') (q ++ after')) :
    lowerIn before after s = lowerIn before' after' s := by
  induction s generalizing before before' with
  | nil => rfl
  | cons c s ih =>
    have hform : formIn before (s ++ after) c = formIn before' (s ++ after') c := by
      by_cases hc : c = 'Σ'
      · subst hc
        rw [formIn_sigma, formIn_sigma, show isFinal before (s ++ after) = _ from h [] s rfl]
        rfl
      · rw [formIn, formIn, if_neg hc, if_neg hc]
    rw [lowerIn, lowerIn, hform, ih]
    rintro p q rfl
    simpa using h (c :: p) q rfl

/-- Where the texts around a text never make more sigmas of a form, the text has no more of it. -/
theorem count_lowerIn_le {x : Char} (h : ∀ p q, s = p ++ 'Σ' :: q →
      (formIn (p.reverse ++ before) (q ++ after) 'Σ').count x
        ≤ (formIn (p.reverse ++ before') (q ++ after') 'Σ').count x) :
    (lowerIn before after s).count x ≤ (lowerIn before' after' s).count x := by
  induction s generalizing before before' with
  | nil => exact Nat.le_refl _
  | cons c s ih =>
    have hform : (formIn before (s ++ after) c).count x
        ≤ (formIn before' (s ++ after') c).count x := by
      by_cases hc : c = 'Σ'
      · subst hc
        exact h [] s rfl
      · rw [formIn, formIn, if_neg hc, if_neg hc]
    rw [lowerIn, lowerIn, List.count_append, List.count_append]
    refine Nat.add_le_add hform (ih ?_)
    rintro p q rfl
    simpa using h (c :: p) q rfl

/-- With fewer of them at one place, it has fewer. -/
theorem count_lowerIn_lt {x : Char} (h : ∀ p q, s = p ++ 'Σ' :: q →
      (formIn (p.reverse ++ before) (q ++ after) 'Σ').count x
        ≤ (formIn (p.reverse ++ before') (q ++ after') 'Σ').count x)
    {p q : Text} (hs : s = p ++ 'Σ' :: q)
    (hless : (formIn (p.reverse ++ before) (q ++ after) 'Σ').count x
      < (formIn (p.reverse ++ before') (q ++ after') 'Σ').count x) :
    (lowerIn before after s).count x < (lowerIn before' after' s).count x := by
  subst hs
  have hfront : (lowerIn before ('Σ' :: q ++ after) p).count x
      ≤ (lowerIn before' ('Σ' :: q ++ after') p).count x := by
    refine count_lowerIn_le fun p' q' hp => ?_
    simpa [hp] using h p' (q' ++ 'Σ' :: q) (by simp [hp])
  have hbehind : (lowerIn ('Σ' :: (p.reverse ++ before)) after q).count x
      ≤ (lowerIn ('Σ' :: (p.reverse ++ before')) after' q).count x := by
    refine count_lowerIn_le fun p' q' hq => ?_
    simpa [hq] using h (p ++ 'Σ' :: p') q' (by simp [hq])
  rw [lowerIn_append, lowerIn_append, lowerIn, lowerIn]
  simp only [List.count_append]
  omega

/-! ### What decides about a sigma -/

/-- Whether there is a character that is not passed over in search of a cased one. -/
def holdsWeight (s : Text) : Bool :=
  s.any fun c => !inRanges caseIgnorableRanges c

theorem startsCased_append (s t : Text) :
    startsCased (s ++ t) = if holdsWeight s then startsCased s else startsCased t := by
  induction s with
  | nil => rfl
  | cons c s ih =>
    cases hc : inRanges caseIgnorableRanges c with
    | true => simp [startsCased, holdsWeight, hc, ih]
    | false => simp [startsCased, holdsWeight, hc]

theorem startsCased_of_not_holdsWeight (h : holdsWeight s = false) : startsCased s = false := by
  have hnone := startsCased_append s []
  rwa [List.append_nil, h] at hnone

/-- Whether what stands on the sides of a sigma, the nearest character first, decides about its form
whatever stands beyond: behind it comes a cased character, or in front of it stands one that is not
cased, or there is something on both sides that is not passed over. -/
def Decides (before after : Text) : Prop :=
  startsCased after = true ∨
    holdsWeight before = true ∧ (startsCased before = false ∨ holdsWeight after = true)

/-- Whether a text decides about the form of each capital sigma in it. -/
def IsSettled (s : Text) : Prop :=
  ∀ p q, s = p ++ 'Σ' :: q → Decides p.reverse q

theorem Decides.isFinal_append (h : Decides s t) (before after : Text) :
    isFinal (s ++ before) (t ++ after) = isFinal s t := by
  have hweight : startsCased t = true → holdsWeight t = true := fun hcased => by
    by_contra hnone
    simp [startsCased_of_not_holdsWeight (Bool.eq_false_iff.mpr hnone)] at hcased
  rw [isFinal, isFinal, startsCased_append, startsCased_append]
  rcases h with hcased | ⟨hs, hcased | ht⟩
  · simp [hcased, hweight hcased]
  · simp [hs, hcased]
  · simp [hs, ht]

/-- A settled text has the same lower-case form wherever it stands. -/
theorem IsSettled.lowerIn_eq (h : IsSettled s) (before after : Text) :
    lowerIn before after s = lower s := by
  rw [lower_eq_lowerIn]
  refine lowerIn_congr fun p q hs => ?_
  rw [(h p q hs).isFinal_append, List.append_nil, List.append_nil]

/-- So it is found in the lower-case form of every text that holds it. -/
theorem IsSettled.lower_isInfix (h : IsSettled s) (hst : s <:+: t) : lower s <:+: lower t := by
  obtain ⟨b, a, rfl⟩ := hst
  rw [lower_append_append, h.lowerIn_eq]
  exact ⟨_, _, rfl⟩

/-! ### Sigmas that are not decided about -/

theorem count_formIn_le_of_final (h : isFinal before after = true → isFinal before' after' = true) :
    (formIn before after 'Σ').count 'ς' ≤ (formIn before' after' 'Σ').count 'ς' ∧
      (formIn before' after' 'Σ').count 'σ' ≤ (formIn before after 'Σ').count 'σ' := by
  rw [formIn_sigma, formIn_sigma]
  cases hfinal : isFinal before after with
  | true => simp [h hfinal]
  | false => cases isFinal before' after' <;> decide

theorem startsCased_letter : startsCased ['a'] = true := by
  decide +kernel

/-- A letter in front makes a final sigma of one in front of which nothing decides. -/
theorem not_lower_isInfix_cons {p q : Text} (hs : s = p ++ 'Σ' :: q)
    (hp : holdsWeight p.reverse = false) (hq : startsCased q = false) :
    ¬ lower s <:+: lower ('a' :: s) := by
  have hmore (p q : Text) (h : isFinal p.reverse q = true) :
      isFinal (p.reverse ++ ['a']) q = true := by
    simp only [isFinal, Bool.and_eq_true] at h ⊢
    refine ⟨?_, h.2⟩
    rw [startsCased_append]
    split
    · exact h.1
    · exact startsCased_letter
  have hhere : isFinal (p.reverse ++ ['a']) q = true := by
    rw [isFinal, startsCased_append, hp, hq, startsCased_letter]
    rfl
  have halone : isFinal p.reverse q = false := by
    rw [isFinal, startsCased_of_not_holdsWeight hp, Bool.false_and]
  have hless : (lowerIn ['a'] [] s).count 'σ' < (lowerIn [] [] s).count 'σ' := by
    refine count_lowerIn_lt (fun p q _ => ?_) hs ?_
    · simpa using (count_formIn_le_of_final (hmore p q)).2
    · simp [formIn_sigma, hhere, halone]
  have hname : lower ('a' :: s) = 'a' :: lowerIn ['a'] [] s := by
    have hplace := lower_append_append ['a'] s []
    rw [List.append_nil, List.singleton_append] at hplace
    rw [hplace]
    exact List.append_nil _
  intro hinfix
  have hcount := hinfix.sublist.count_le 'σ'
  rw [hname, lower_eq_lowerIn, List.count_cons_of_ne (by decide)] at hcount
  omega

/-- A letter behind makes another sigma of a final one behind which nothing decides. -/
theorem not_lower_isInfix_concat {p q : Text} (hs : s = p ++ 'Σ' :: q)
    (hp : startsCased p.reverse = true) (hq : holdsWeight q = false) :
    ¬ lower s <:+: lower (s ++ ['a']) := by
  have hmore (p q : Text) (h : isFinal p.reverse (q ++ ['a']) = true) :
      isFinal p.reverse q = true := by
    simp only [isFinal, Bool.and_eq_true, Bool.not_eq_true'] at h ⊢
    refine ⟨h.1, ?_⟩
    obtain ⟨-, hnext⟩ := h
    rw [startsCased_append] at hnext
    split at hnext
    · exact hnext
    · rw [startsCased_letter] at hnext
      cases hnext
  have hhere : isFinal p.reverse (q ++ ['a']) = false := by
    rw [isFinal, startsCased_append, hp, hq, startsCased_letter]
    rfl
  have halone : isFinal p.reverse q = true := by
    rw [isFinal, hp, startsCased_of_not_holdsWeight hq]
    rfl
  have hless : (lowerIn [] ['a'] s).count 'ς' < (lowerIn [] [] s).count 'ς' := by
    refine count_lowerIn_lt (fun p q _ => ?_) hs ?_
    · simpa using (count_formIn_le_of_final (hmore p q)).1
    · simp [formIn_sigma, hhere, halone]
  have hname : lower (s ++ ['a']) = lowerIn [] ['a'] s ++ ['a'] := by
    have hplace := lower_append_append [] s ['a']
    rw [List.nil_append] at hplace
    rw [hplace]
    rfl
  intro hinfix
  have hcount := hinfix.sublist.count_le 'ς'
  rw [hname, lower_eq_lowerIn, List.count_append] at hcount
  have hletter : ['a'].count 'ς' = 0 := by decide
  omega

/-- A text that is not settled is missed in some text that holds it. -/
theorem exists_missed (h : ¬ IsSettled s) : ∃ t, s <:+: t ∧ ¬ lower s <:+: lower t := by
  simp only [IsSettled, not_forall] at h
  obtain ⟨p, q, hs, hundecided⟩ := h
  obtain ⟨hcased, hopen⟩ := not_or.mp hundecided
  by_cases hp : holdsWeight p.reverse = true
  · obtain ⟨hfront, hbehind⟩ := not_or.mp fun h => hopen ⟨hp, h⟩
    exact ⟨s ++ ['a'], List.infix_append [] s ['a'],
      not_lower_isInfix_concat hs (Bool.not_eq_false _ ▸ hfront) (Bool.eq_false_iff.mpr hbehind)⟩
  · exact ⟨'a' :: s, List.infix_append ['a'] s [] |>.trans (by simp),
      not_lower_isInfix_cons hs (Bool.eq_false_iff.mpr hp) (Bool.eq_false_iff.mpr hcased)⟩

/-- A search finds what stands somewhere in a text. -/
theorem occursIn_iff {part s : Text} : occursIn part s = true ↔ part <:+: s := by
  induction s with
  | nil => simp [occursIn]
  | cons c s ih =>
    rw [occursIn, Bool.or_eq_true, ih, List.isPrefixOf_iff_prefix, List.infix_cons_iff]

end Text

namespace ElementSummary

/-- The rows of a search are those with names that hold its text in lower case. -/
theorem select_eq_filter (needle : Text) (rows : List ElementSummary) :
    select needle rows = rows.filter (matchesText needle) := by
  unfold select
  split
  · next hempty =>
    obtain rfl := List.isEmpty_iff.mp hempty
    refine (List.filter_eq_self.mpr fun row _ => ?_).symm
    exact Text.occursIn_iff.mpr (List.nil_infix)
  · rfl

theorem matchesText_iff {needle : Text} {row : ElementSummary} :
    matchesText needle row = true ↔ Text.lower needle <:+: Text.lower row.name :=
  Text.occursIn_iff

/-- Whether a search for a text misses no name that holds it. -/
structure MissesNothing (needle : Text) : Prop where
  /-- it gives every row with a name that holds the text as it is written -/
  finds : ∀ rows : List ElementSummary, ∀ row ∈ rows, needle <:+: row.name →
    row ∈ select needle rows
  /-- it adds rows to those that a search by the letters as they are would give -/
  adds : ∀ rows : List ElementSummary,
    (rows.filter fun row => Text.occursIn needle row.name).Sublist (select needle rows)

/-- **A search misses no match just if the text decides about its sigmas.** It always gives rows of
the list, in their order. Every name that holds the text is among theirs if and only if each capital
sigma of the text has in the text what decides about its form. -/
theorem select_missesNothing_iff (needle : Text) :
    (∀ rows, (select needle rows).Sublist rows) ∧
      (MissesNothing needle ↔ Text.IsSettled needle) := by
  refine ⟨fun rows => ?_, fun h => ?_, fun h => ?_⟩
  · rw [select_eq_filter]
    exact List.filter_sublist
  · by_contra hopen
    obtain ⟨name, hholds, hmissed⟩ := Text.exists_missed hopen
    have hfound := h.finds [⟨name, [], 0, 0⟩] _ List.mem_cons_self hholds
    rw [select_eq_filter] at hfound
    exact hmissed (matchesText_iff.mp (List.of_mem_filter hfound))
  · have hmatch : ∀ row : ElementSummary, needle <:+: row.name → matchesText needle row = true :=
      fun row hholds => matchesText_iff.mpr (h.lower_isInfix hholds)
    refine ⟨fun rows row hrow hholds => ?_, fun rows => ?_⟩
    · rw [select_eq_filter]
      exact List.mem_filter.mpr ⟨hrow, hmatch row hholds⟩
    · rw [select_eq_filter]
      exact List.monotone_filter_right rows fun row hholds =>
        hmatch row (Text.occursIn_iff.mp hholds)

/-- The name goes on behind the sigma, which is final in the text that is searched for. -/
theorem select_misses_finalSigma :
    "ΑΣ".toList <:+: "ΑΣΑ".toList ∧
      select "ΑΣ".toList [⟨"ΑΣΑ".toList, "X".toList, 0, 0⟩] = [] := by
  decide +kernel

end ElementSummary

end DomBindings
