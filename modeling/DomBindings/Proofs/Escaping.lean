import DomBindings.Proofs.DocComment
import Mathlib.Data.List.TakeWhile

/-!
# What a doc comment says

The lines of a doc comment are the template with two texts in it, the description and the reference.
Both stand there as they are, but for a backslash in each end mark: a text falls into pieces without
an end mark, and the escaped text joins the same pieces by guarded marks (`isGuarded_escape`). The
line of the description loses its white space at the end, and never more than that, since the
template has no white space where the description begins to be empty.
-/

namespace DomBindings

namespace Text

/-- Whether a text is another one without the white space at its end. -/
structure IsTrimmed (s trimmed : Text) : Prop where
  /-- only white space is gone -/
  rest : ∃ blanks : Text, s = trimmed ++ blanks ∧ ∀ c ∈ blanks, isBlank c = true
  /-- all of it is gone -/
  last : ∀ c ∈ trimmed.getLast?, isBlank c = false

theorem isTrimmed_trimEnd (s : Text) : IsTrimmed s (trimEnd s) where
  rest := by
    refine ⟨(s.reverse.takeWhile isBlank).reverse, ?_, fun c hc => ?_⟩
    · rw [trimEnd, ← List.reverse_append, List.takeWhile_append_dropWhile, List.reverse_reverse]
    · exact List.mem_takeWhile_imp (List.mem_reverse.mp hc)
  last := by
    intro c hc
    rw [trimEnd, List.getLast?_reverse] at hc
    have hkept := List.head?_dropWhile_not isBlank s.reverse
    rw [Option.mem_def.mp hc] at hkept
    simpa using hkept

end Text

namespace DocComment

/-! ### Guarded texts -/

/-- An end mark with a backslash in it. -/
def guardedMark : Text :=
  "*\\/".toList

/-- Whether a text is another one with a backslash in each end mark: both join the same pieces, in
which there is no end mark. -/
def IsGuarded (s guarded : Text) : Prop :=
  ∃ pieces : List Text, (∀ piece ∈ pieces, NoEnd piece) ∧
    s = List.intercalate endMark pieces ∧ guarded = List.intercalate guardedMark pieces

/-- Pieces begin as what they are joined to, unless the first is empty. -/
theorem head?_intercalate_of_ne_nil {first : Text} (h : first ≠ []) (mark : Text)
    (pieces : List Text) : (List.intercalate mark (first :: pieces)).head? = first.head? := by
  obtain ⟨c, rest, rfl⟩ := List.exists_cons_of_ne_nil h
  cases pieces with
  | nil => simp
  | cons next pieces => simp [List.intercalate_cons_cons]

/-- A character in front of joined pieces is one in front of the first of them. -/
theorem cons_intercalate (c : Char) (first mark : Text) (pieces : List Text) :
    c :: List.intercalate mark (first :: pieces)
      = List.intercalate mark ((c :: first) :: pieces) := by
  cases pieces with
  | nil => simp
  | cons next pieces => simp [List.intercalate_cons_cons]

theorem isGuarded_escape (s : Text) : IsGuarded s (escape s) := by
  -- the first piece is named, since characters go in front of it
  have hpieces : ∃ first pieces, (∀ piece ∈ first :: pieces, NoEnd piece) ∧
      s = List.intercalate endMark (first :: pieces) ∧
      escape s = List.intercalate guardedMark (first :: pieces) := by
    fun_induction escape s with
    | case1 rest ih =>
      obtain ⟨first, pieces, hnone, hs, hescape⟩ := ih
      refine ⟨[], first :: pieces, List.forall_mem_cons.mpr ⟨noEnd_nil, hnone⟩, ?_, ?_⟩
      · rw [List.intercalate_cons_cons, ← hs]
        rfl
      · rw [List.intercalate_cons_cons, ← hescape]
        rfl
    | case2 c rest hmark ih =>
      obtain ⟨first, pieces, hnone, hs, hescape⟩ := ih
      obtain ⟨hfirst, hpieces⟩ := List.forall_mem_cons.mp hnone
      have hseam : ¬ (c = '*' ∧ first.head? = some '/') := by
        rintro ⟨rfl, hhead⟩
        have hne : first ≠ [] := fun h => by simp [h] at hhead
        rw [← head?_intercalate_of_ne_nil hne endMark pieces, ← hs] at hhead
        obtain ⟨rest', rfl⟩ := List.head?_eq_some_iff.mp hhead
        exact hmark rest' rfl rfl
      refine ⟨c :: first, pieces,
        List.forall_mem_cons.mpr ⟨noEnd_cons_iff.mpr ⟨hseam, hfirst⟩, hpieces⟩, ?_, ?_⟩
      · rw [← cons_intercalate, ← hs]
      · rw [← cons_intercalate, ← hescape]
    | case3 => exact ⟨[], [], by simpa using noEnd_nil, rfl, rfl⟩
  obtain ⟨first, pieces, h⟩ := hpieces
  exact ⟨first :: pieces, h⟩

theorem isEmpty_escape (s : Text) : (escape s).isEmpty = s.isEmpty := by
  fun_cases escape s <;> rfl

/-! ### The lines -/

/-- Whether lines are a doc comment with this description and this reference. -/
structure IsOn (description ref indent : Text) (ls : List Text) : Prop where
  /-- it begins as a doc comment does -/
  begins : indent ++ "/**".toList <+: Text.joinLines ls
  /-- it is closed at its end and nowhere before -/
  closes : EndsOnce (Text.joinLines ls)
  /-- its lines are those of the template, with the guarded texts in them -/
  content : ∃ description' ref' first,
    IsGuarded description description' ∧ IsGuarded ref ref' ∧
    Text.IsTrimmed (indent ++ "/** ".toList ++ description') first ∧
    ls = if ref.isEmpty then [first, indent ++ " *".toList, indent ++ " */".toList]
      else [first, indent ++ " *".toList, indent ++ " * @see ".toList ++ ref',
        indent ++ " */".toList]

/-- The first line begins a comment, since what is trimmed is behind the last star. -/
theorem isPrefix_firstLine (indent rest : Text) :
    indent ++ "/**".toList <+: Text.trimEnd (indent ++ "/** ".toList ++ rest) := by
  have hsplit : indent ++ "/** ".toList ++ rest = (indent ++ "/*".toList) ++ '*' :: ' ' :: rest := by
    simp
  rw [hsplit, Text.trimEnd_append_cons _ (by decide)]
  exact ⟨Text.trimEnd (' ' :: rest), by simp⟩

/-- **A doc comment says what it is given and closes at its end only**, whatever the description
and the reference are. -/
theorem lines_closeOnce (description ref : Text) (width : Nat) :
    IsOn description ref (List.replicate width ' ')
      (lines description ref (List.replicate width ' ')) where
  begins := by
    refine (isPrefix_firstLine _ (escape description)).trans ?_
    rw [lines, List.append_assoc, Text.joinLines]
    simp only [List.cons_append, List.intercalate_cons_cons, List.append_assoc]
    exact List.prefix_append _ _
  closes := endsOnce_text (fun _ h => List.eq_of_mem_replicate h) description ref
  content := by
    refine ⟨escape description, escape ref, _, isGuarded_escape description, isGuarded_escape ref,
      Text.isTrimmed_trimEnd _, ?_⟩
    rw [lines, isEmpty_escape]
    split <;> rfl

end DocComment

end DomBindings
