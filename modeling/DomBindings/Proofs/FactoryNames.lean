import DomBindings.Proofs.Identifier

/-!
# The names of factories

The identifier of a factory is made in three steps, and what a step adds is a low line: in the place
of a character, in front of a digit, or behind a reserved word. No reserved word holds a low line
(`not_isReserved_of_mem`), so neither of the last two steps can make one. That settles what an
identifier looks like, when the steps change nothing, and which names meet in one identifier: those
that are the same once their characters are replaced, and besides them only a reserved word and the
word with a low line behind it (`avoidReserved_eq_iff`).
-/

namespace DomBindings.Identifier

/-- A character that an identifier may begin with: an ASCII letter, a low line or a dollar sign. -/
def isFirst (c : Char) : Bool :=
  ('A' ≤ c && c ≤ 'Z') || ('a' ≤ c && c ≤ 'z') || c = '_' || c = '$'

/-- The form of an identifier: a character that it may begin with, and behind it only characters
that it may hold. -/
def HasForm : Text → Prop
  | [] => False
  | c :: rest => isFirst c = true ∧ ∀ d ∈ rest, isAllowed d = true

/-- The second text is the first, a reserved word, with a low line behind it. -/
def IsMarkedWord (word marked : Text) : Prop :=
  isReserved word = true ∧ marked = word ++ ['_']

/-! ### What the steps can make -/

/-- What an identifier may hold but not begin with are the digits. -/
theorem isAllowed_eq (c : Char) : isAllowed c = (isFirst c || Text.isAsciiDigit c) := by
  rw [isAllowed, isFirst, Bool.or_right_comm _ (Text.isAsciiDigit c) (decide (c = '_')),
    Bool.or_right_comm _ (Text.isAsciiDigit c) (decide (c = '$'))]

theorem isAllowed_of_isFirst {c : Char} (h : isFirst c = true) : isAllowed c = true := by
  rw [isAllowed_eq, h, Bool.true_or]

theorem not_isAsciiDigit_of_isFirst {c : Char} (h : isFirst c = true) :
    Text.isAsciiDigit c = false := by
  rw [Bool.eq_false_iff]
  intro hdigit
  simp only [isFirst, Text.isAsciiDigit, Bool.or_eq_true, Bool.and_eq_true, decide_eq_true_eq,
    Char.le_def, UInt32.le_iff_toNat_le] at h hdigit
  obtain ⟨hlow, hhigh⟩ := hdigit
  change 48 ≤ c.val.toNat at hlow
  change c.val.toNat ≤ 57 at hhigh
  rcases h with ((⟨h, -⟩ | ⟨h, -⟩) | rfl) | rfl
  · change 65 ≤ c.val.toNat at h
    omega
  · change 97 ≤ c.val.toNat at h
    omega
  · exact absurd hhigh (by decide)
  · exact absurd hlow (by decide)

theorem replaceChar_of_isAllowed {c : Char} (h : isAllowed c = true) : replaceChar c = c := by
  rw [replaceChar, if_pos h]

/-- A text with a low line is no reserved word. -/
theorem not_isReserved_of_mem {s : Text} (h : '_' ∈ s) : isReserved s = false := by
  have hnone : reservedWords.all (fun word => !word.contains '_') = true := rfl
  rw [Bool.eq_false_iff]
  intro hreserved
  have hword := List.all_eq_true.mp hnone s (List.contains_iff_mem.mp hreserved)
  rw [List.contains_iff_mem.mpr h] at hword
  cases hword

theorem not_isReserved_append (s : Text) : isReserved (s ++ ['_']) = false :=
  not_isReserved_of_mem (List.mem_append_right _ (List.mem_singleton_self _))

/-- A name with its characters replaced has the form of an identifier, unless it is empty. -/
theorem hasForm_sanitize {name : Text} (h : name ≠ []) : HasForm (sanitize name) := by
  have hallowed := @isAllowed_of_mem_sanitize name
  obtain ⟨c, rest, rfl⟩ := List.exists_cons_of_ne_nil h
  unfold sanitize at hallowed ⊢
  rw [List.map_cons, avoidDigit] at hallowed ⊢
  split at hallowed
  · next hdigit =>
    rw [if_pos hdigit]
    exact ⟨rfl, fun d hd => hallowed (List.mem_cons_of_mem _ hd)⟩
  · next hdigit =>
    rw [if_neg hdigit]
    have hfirst := hallowed List.mem_cons_self
    rw [isAllowed_eq, Bool.eq_false_iff.mpr hdigit, Bool.or_false] at hfirst
    exact ⟨hfirst, fun d hd => hallowed (List.mem_cons_of_mem _ hd)⟩

/-- And a name that has the form already keeps all its characters. -/
theorem sanitize_eq_self {name : Text} (h : HasForm name) : sanitize name = name := by
  cases name with
  | nil => exact h.elim
  | cons c rest =>
    obtain ⟨hfirst, hrest⟩ := h
    have hmap : (c :: rest).map replaceChar = c :: rest := by
      rw [List.map_cons, replaceChar_of_isAllowed (isAllowed_of_isFirst hfirst),
        List.map_congr_left fun d hd => replaceChar_of_isAllowed (hrest d hd), List.map_id']
    rw [sanitize, hmap, avoidDigit, not_isAsciiDigit_of_isFirst hfirst, if_neg Bool.false_ne_true]

theorem HasForm.append {s : Text} (h : HasForm s) {t : Text}
    (ht : ∀ d ∈ t, isAllowed d = true) : HasForm (s ++ t) := by
  cases s with
  | nil => exact h.elim
  | cons c rest => exact ⟨h.1, List.forall_mem_append.mpr ⟨h.2, ht⟩⟩

theorem HasForm.avoidReserved {s : Text} (h : HasForm s) : HasForm (avoidReserved s) := by
  rw [Identifier.avoidReserved]
  split
  · exact h.append (List.forall_mem_singleton.mpr rfl)
  · exact h

/-- Behind the last step there is no reserved word. -/
theorem not_isReserved_avoidReserved (s : Text) : isReserved (avoidReserved s) = false := by
  rw [avoidReserved]
  split
  · exact not_isReserved_append s
  · next h => exact Bool.eq_false_iff.mpr h

theorem avoidReserved_of_not_isReserved {s : Text} (h : isReserved s = false) :
    avoidReserved s = s := by
  rw [avoidReserved, h, if_neg Bool.false_ne_true]

/-- The last step makes the same of two texts if they are the same, or one of them is a reserved
word and the other is what the step makes of it. -/
theorem avoidReserved_eq_iff {s t : Text} : avoidReserved s = avoidReserved t ↔
    s = t ∨ IsMarkedWord s t ∨ IsMarkedWord t s := by
  constructor
  · intro h
    rw [avoidReserved, avoidReserved] at h
    split at h
    · next hs =>
      split at h
      · exact .inl (List.append_cancel_right h)
      · exact .inr (.inl ⟨hs, h.symm⟩)
    · split at h
      · next ht => exact .inr (.inr ⟨ht, h⟩)
      · exact .inl h
  · have hmarked : ∀ {word marked}, IsMarkedWord word marked →
        avoidReserved word = avoidReserved marked := by
      rintro word _ ⟨hword, rfl⟩
      rw [avoidReserved_of_not_isReserved (not_isReserved_append word), avoidReserved, if_pos hword]
    rintro (rfl | h | h)
    · rfl
    · exact hmarked h
    · exact (hmarked h).symm

/-! ### Factories -/

theorem hasForm_factory {name : Text} (h : name ≠ []) : HasForm (factory name) :=
  (hasForm_sanitize h).avoidReserved

/-- A name that is an identifier already, and free to use, is kept. -/
theorem factory_eq_self {name : Text} (hform : HasForm name) (hfree : isReserved name = false) :
    factory name = name := by
  rw [factory, sanitize_eq_self hform, avoidReserved_of_not_isReserved hfree]

theorem factory_factory (name : Text) : factory (factory name) = factory name := by
  by_cases h : name = []
  · subst h
    rfl
  · exact factory_eq_self (hasForm_factory h) (not_isReserved_avoidReserved _)

/-- **The names of factories.** The identifier made of a name that is not empty has the form of an
identifier and is no reserved word, and it is the name itself just if that has this form and is no
reserved word. Making an identifier of an identifier changes nothing. Two names have one identifier
if their characters are replaced by the same ones, or if that makes a reserved word of one and the
same word with a low line behind it of the other; and in no other case. -/
theorem factory_isLawful :
    (∀ name, name ≠ [] → HasForm (factory name) ∧ isReserved (factory name) = false ∧
      (factory name = name ↔ HasForm name ∧ isReserved name = false)) ∧
    (∀ name, factory (factory name) = factory name) ∧
    ∀ a b, factory a = factory b ↔ sanitize a = sanitize b ∨
      IsMarkedWord (sanitize a) (sanitize b) ∨ IsMarkedWord (sanitize b) (sanitize a) := by
  refine ⟨fun name h => ?_, factory_factory, fun a b => avoidReserved_eq_iff⟩
  have hform := hasForm_factory h
  have hfree : isReserved (factory name) = false := not_isReserved_avoidReserved _
  refine ⟨hform, hfree, fun hself => ?_, fun hname => factory_eq_self hname.1 hname.2⟩
  rw [hself] at hform hfree
  exact ⟨hform, hfree⟩

/-- So `class` gets a low line behind it and becomes what `class*` becomes; and of `1é` the letter
becomes a low line, and the digit gets one in front of it. -/
theorem factory_isLawful_class :
    ("class".toList ≠ [] ∧ HasForm (factory "class".toList) ∧
      factory "class".toList ≠ "class".toList) ∧
    factory "class".toList = factory "class*".toList ∧
    factory "1é".toList = "_1_".toList ∧ HasForm "_1_".toList := by
  obtain ⟨hform, -, hself⟩ := factory_isLawful.1 "class".toList (by decide)
  refine ⟨⟨by decide, hform, fun h => ?_⟩, ?_, rfl, ?_⟩
  · exact absurd (hself.mp h).2 (by decide)
  · exact (factory_isLawful.2.2 _ _).mpr (.inr (.inl ⟨rfl, rfl⟩))
  · exact (factory_isLawful.1 "1é".toList (by decide)).1

end DomBindings.Identifier
