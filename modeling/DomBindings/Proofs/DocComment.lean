import DomBindings.Proofs.Lines
import Mathlib.Data.List.Infix

/-!
# Where a comment ends

A comment is closed by the first end mark in it, so what a comment says must not hold one. The end
mark has two characters, and a text that is put together holds it in one of its parts or across a
seam (`noEnd_append`). An escaped text holds none (`noEnd_escape`) and begins as the text itself
does, so no seam of the template makes one either, and a doc comment ends at its own end mark
whatever it says (`endsOnce_text`).
-/

namespace DomBindings.DocComment

/-- What closes a comment. -/
def endMark : Text :=
  "*/".toList

/-- A text without an end mark in it. -/
def NoEnd (s : Text) : Prop :=
  ¬ endMark <:+: s

instance (s : Text) : Decidable (NoEnd s) :=
  inferInstanceAs (Decidable (¬ endMark <:+: s))

/-- A comment with one end mark, which stands at its end. -/
def EndsOnce (comment : Text) : Prop :=
  ∃ body, comment = body ++ endMark ∧
    ∀ before after, comment = before ++ endMark ++ after → before = body ∧ after = []

/-! ### Texts without an end mark -/

/-- An end mark stands at the beginning or behind the first character. -/
theorem noEnd_cons_iff {c : Char} {s : Text} :
    NoEnd (c :: s) ↔ ¬ (c = '*' ∧ s.head? = some '/') ∧ NoEnd s := by
  have hbegins : endMark <+: c :: s ↔ c = '*' ∧ s.head? = some '/' := by
    cases s with
    | nil => simp [endMark]
    | cons d s => simp [endMark, eq_comm]
  rw [NoEnd, List.infix_cons_iff, hbegins, not_or]
  rfl

theorem noEnd_nil : NoEnd [] := by
  decide

theorem noEnd_of_star_not_mem {s : Text} (h : '*' ∉ s) : NoEnd s :=
  fun hmark => h (hmark.subset (by decide))

/-- Where two texts meet, the first one's last character and the second one's first may make an end
mark. -/
theorem noEnd_append_iff {s t : Text} : NoEnd (s ++ t) ↔
    NoEnd s ∧ NoEnd t ∧ ¬ (s.getLast? = some '*' ∧ t.head? = some '/') := by
  induction s with
  | nil => simp [noEnd_nil]
  | cons c s ih =>
    cases s with
    | nil => simp [noEnd_cons_iff, noEnd_nil, and_comm]
    | cons d s =>
      rw [List.cons_append, noEnd_cons_iff, ih, noEnd_cons_iff (c := c), List.getLast?_cons_cons,
        and_assoc]
      rfl

/-- A text behind one that does not end with a star, -/
theorem noEnd_append_of_last {s t : Text} (hs : NoEnd s) (ht : NoEnd t)
    (hlast : s.getLast? ≠ some '*') : NoEnd (s ++ t) :=
  noEnd_append_iff.mpr ⟨hs, ht, fun h => hlast h.1⟩

/-- and one in front of a text that does not begin with a slash. -/
theorem noEnd_append_of_head {s t : Text} (hs : NoEnd s) (ht : NoEnd t)
    (hhead : t.head? ≠ some '/') : NoEnd (s ++ t) :=
  noEnd_append_iff.mpr ⟨hs, ht, fun h => hhead h.2⟩

/-- A comment ends once if there is no end mark in front of its own. -/
theorem endsOnce_append_endMark_iff {body : Text} : EndsOnce (body ++ endMark) ↔ NoEnd body := by
  constructor
  · rintro ⟨body', hbody, honce⟩ ⟨before, after, rfl⟩
    obtain rfl := List.append_cancel_right hbody
    have hearlier := honce before (after ++ endMark) (by simp only [List.append_assoc])
    exact absurd hearlier.2 (List.append_ne_nil_of_right_ne_nil _ (by decide))
  · refine fun hnone => ⟨body, rfl, fun before after h => ?_⟩
    -- a mark that ends earlier lies in the body, or its slash is the star of the last mark
    rcases after.eq_nil_or_concat with rfl | ⟨init, last, rfl⟩
    · rw [List.append_nil] at h
      exact ⟨(List.append_cancel_right h).symm, rfl⟩
    · exfalso
      rw [List.concat_eq_append, ← List.append_assoc,
        show body ++ endMark = (body ++ ['*']) ++ ['/'] by simp [endMark]] at h
      have hinside : NoEnd (body ++ ['*']) :=
        noEnd_append_of_head hnone (by decide) (by decide)
      exact hinside ⟨before, init, (List.append_inj_left' h rfl).symm⟩

/-! ### Escaped texts -/

theorem head?_escape (s : Text) : (escape s).head? = s.head? := by
  fun_cases escape s <;> rfl

theorem noEnd_escape (s : Text) : NoEnd (escape s) := by
  fun_induction escape s with
  | case1 rest ih => simp [noEnd_cons_iff, ih]
  | case2 c rest hmark ih =>
    refine noEnd_cons_iff.mpr ⟨?_, ih⟩
    rintro ⟨rfl, hhead⟩
    rw [head?_escape] at hhead
    obtain ⟨rest', rfl⟩ := List.head?_eq_some_iff.mp hhead
    exact hmark rest' rfl rfl
  | case3 => exact noEnd_nil

/-! ### Doc comments -/

theorem isPrefix_trimEnd (s : Text) : Text.trimEnd s <+: s := by
  rw [Text.trimEnd, ← List.reverse_suffix, List.reverse_reverse]
  exact List.dropWhile_suffix _

theorem NoEnd.mono {s t : Text} (ht : NoEnd t) (h : s <+: t) : NoEnd s :=
  fun hmark => ht (hmark.trans h.isInfix)

/-- The text of a doc comment. -/
def text (description ref indent : Text) : Text :=
  Text.joinLines (lines description ref indent)

/-- Lines without end marks hold none when they are joined. -/
theorem noEnd_joinLines {ls : List Text} (h : ∀ line ∈ ls, NoEnd line) :
    NoEnd (Text.joinLines ls) := by
  induction ls with
  | nil => exact noEnd_nil
  | cons line ls ih =>
    have hline := h line List.mem_cons_self
    cases ls with
    | nil => simpa [Text.joinLines] using hline
    | cons next ls =>
      have hrest := ih fun l hl => h l (List.mem_cons_of_mem _ hl)
      have hbehind : NoEnd (['\n'] ++ Text.joinLines (next :: ls)) :=
        noEnd_append_of_last (by decide) hrest (by decide)
      rw [Text.joinLines, List.intercalate_cons_cons, List.append_assoc]
      exact noEnd_append_of_head hline hbehind (by simp)

/-- The end of the last line is the end of what is joined. -/
theorem joinLines_append_last (ls : List Text) (last ending : Text) :
    Text.joinLines (ls ++ [last ++ ending]) = Text.joinLines (ls ++ [last]) ++ ending := by
  by_cases hls : ls = []
  · simp [hls, Text.joinLines]
  · rw [Text.joinLines_append hls (List.cons_ne_nil _ _),
      Text.joinLines_append hls (List.cons_ne_nil _ _)]
    simp [Text.joinLines]

variable {indent : Text}

/-- An indentation in front of a template does not change where the template ends. -/
theorem noEnd_indented (hindent : ∀ c ∈ indent, c = ' ') {s : Text} (hs : NoEnd s) :
    NoEnd (indent ++ s) := by
  have hstar : '*' ∉ indent := fun h => absurd (hindent _ h) (by decide)
  exact noEnd_append_of_last (noEnd_of_star_not_mem hstar) hs fun h =>
    hstar (List.mem_of_getLast? h)

/-- No line of a doc comment holds an end mark before the one that closes it. -/
theorem noEnd_of_mem_lines (hindent : ∀ c ∈ indent, c = ' ') {description ref line : Text}
    (h : line ∈ (lines description ref indent).dropLast) : NoEnd line := by
  have hlines : (lines description ref indent).dropLast
      = [Text.trimEnd (indent ++ ("/** ".toList ++ escape description)), indent ++ " *".toList]
        ++ (if (escape ref).isEmpty then []
            else [indent ++ (" * @see ".toList ++ escape ref)]) := by
    rw [lines, List.dropLast_concat, List.append_assoc, List.append_assoc]
  rw [hlines, List.mem_append] at h
  rcases h with h | h
  · simp only [List.mem_cons, List.not_mem_nil, or_false] at h
    rcases h with rfl | rfl
    · exact (noEnd_indented hindent
        (noEnd_append_of_last (by decide) (noEnd_escape _) (by decide))).mono
          (isPrefix_trimEnd _)
    · exact noEnd_indented hindent (by decide)
  · split at h
    · cases h
    · obtain rfl := List.mem_singleton.mp h
      exact noEnd_indented hindent
        (noEnd_append_of_last (by decide) (noEnd_escape _) (by decide))

/-- A doc comment ends at its own end mark, whatever it says. -/
theorem endsOnce_text (hindent : ∀ c ∈ indent, c = ' ') (description ref : Text) :
    EndsOnce (text description ref indent) := by
  have hclosing : indent ++ " */".toList = indent ++ " ".toList ++ endMark := by
    rw [List.append_assoc]
    rfl
  have hlines : lines description ref indent
      = (lines description ref indent).dropLast ++ [indent ++ " ".toList ++ endMark] := by
    rw [lines, List.dropLast_concat, hclosing]
  rw [text, hlines, joinLines_append_last, endsOnce_append_endMark_iff]
  refine noEnd_joinLines fun line hline => ?_
  rcases List.mem_append.mp hline with hline | hline
  · exact noEnd_of_mem_lines hindent hline
  · obtain rfl := List.mem_singleton.mp hline
    exact noEnd_indented hindent (by decide)

end DomBindings.DocComment
