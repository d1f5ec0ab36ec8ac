import DomBindings.Proofs.Scanning

/-!
# Tokens of which an account is given

Half of a surrogate pair is met in one place only: behind a backslash between double quotes, where
a letter and digits that write it follow. So the scanner gives an account of every text that does
not hold these (`WritesHalf`), whatever else is wrong with it.

And a node can be part of itself only where a name is given and used, for which there are two signs.
In a text without one of them no token does the one or the other (`Token.TiesNothing`).
-/

namespace DomBindings.Yaml

/-! ### Conditions -/

/-- A text writes half of a surrogate pair: a backslash, a letter that asks for digits, and as many
of them, which are those of a half. -/
def WritesHalf (s : Text) : Prop :=
  ∃ letter digits values, escapeWidth? letter = some digits.length ∧
    digits.mapM Text.asciiDigitValue? = some values ∧
    Text.isHalf (Numeral.ofDigits 16 values) ∧ '\\' :: letter :: digits <:+: s

theorem not_writesHalf_of_not_mem {s : Text} (h : '\\' ∉ s) : ¬ WritesHalf s := by
  rintro ⟨letter, digits, values, -, -, -, hwithin⟩
  exact h (hwithin.subset List.mem_cons_self)

/-- A token with which no node comes to be part of itself: where nodes are named, none that uses a
name, and else none that names a node. -/
def Token.TiesNothing (named : Bool) : Token → Prop
  | .alias _ => named = false
  | .anchor _ => named = true
  | _ => True

/-- An account is given of how a reading ends, and its result has a property. -/
abbrev Accounts {α : Type} (P : α → Prop) (x : Except Fault α) : Prop :=
  Yields (· ≠ .unaccounted) P x

theorem accounts_scanFault {α : Type} {P : α → Prop} : Accounts P scanFault :=
  Fault.noConfusion

/-- The end of a reading is a place that can be reached. -/
abbrev Passes {α : Type} (C : Cursor → Prop) (x : Except Fault (α × Cursor)) : Prop :=
  Accounts (fun r => C r.2) x

/-! ### Lexemes without escapes for characters -/

section Lexemes

variable {C : Cursor → Prop} (hC : Cursor.IsKept C) {c : Cursor} (h : C c)
include hC h

theorem accounts_restOfLine : Accounts C (restOfLine c) :=
  .ite (hC.lineBreak (hC.skipComment (hC.dropWhile h _))) accounts_scanFault

theorem passes_versionNumber : Passes C (versionNumber c) := by
  simp only [versionNumber]
  split
  · exact accounts_scanFault
  · split
    · exact hC.span h _
    · exact Fault.noConfusion

theorem passes_name : Passes C (name c) :=
  .ite accounts_scanFault (hC.span h _)

theorem passes_anchorName : Passes C (anchorName c) :=
  (passes_name hC (hC c h)).bind fun _ h => .ite h accounts_scanFault

theorem passes_tagHandle : Passes C (tagHandle c) := by
  refine .ite accounts_scanFault (.ite (hC c h) ?_)
  exact .ite (hC _ (hC.span (hC c h) _)) accounts_scanFault

theorem passes_escapedBytes (fuel : Nat) : Passes C (escapedBytes c fuel) := by
  induction fuel generalizing c with
  | zero => exact h
  | succ fuel ih =>
    rw [escapedBytes]
    split
    · split
      · split
        · exact (ih (hC.skip h 3)).bind fun _ h => h
        · exact accounts_scanFault
      · exact accounts_scanFault
    · exact h

theorem passes_tagText (fuel : Nat) : Passes C (tagText c fuel) := by
  induction fuel generalizing c with
  | zero => exact h
  | succ fuel ih =>
    rw [tagText]
    dsimp only
    split
    · refine (passes_escapedBytes hC (hC.span h _) _).bind fun r hr => ?_
      split
      · exact accounts_scanFault
      · exact (ih hr).bind fun _ h => h
    · exact hC.span h _

theorem passes_tagBody : Passes C (tagBody c) :=
  .ite (passes_tagText hC h _) accounts_scanFault

theorem passes_tag : Passes C (tag c) := by
  unfold tag
  extract_lets ending suffixed
  have hending (r : Option Text × Text × Cursor) (hr : C r.2.2) : Passes C (ending r) :=
    .ite hr accounts_scanFault
  have hsuffixed (r : Text × Cursor) (hr : C r.2) : Passes C (suffixed r) :=
    (passes_tagBody hC hr).bind fun r' hr => hending (some r.1, r'.1, r'.2) hr
  clear_value suffixed ending
  refine .ite ?_ (.ite (.behind (hending _ (hC c h))) ?_)
  · exact (passes_tagBody hC (hC.skip h 2)).bind fun _ hr =>
      .ite (.behind (hending _ (hC _ hr))) accounts_scanFault
  · exact .ite ((passes_tagHandle hC h).bind hsuffixed) (.behind (hsuffixed _ (hC c h)))

theorem passes_directive : Passes C (directive c) := by
  unfold directive
  refine (passes_name hC (hC c h)).bind fun r hr => ?_
  dsimp -zeta only
  extract_lets ending read
  have hending (r : Directive × Cursor) (hr : C r.2) : Passes C (ending r) :=
    (accounts_restOfLine hC hr).bind fun _ h => h
  have hread (u : Unit) : Passes C (read u) := by
    clear_value ending
    refine .ite ?_ (.ite ?_ (.behind (hending _ (hC.dropWhile hr _))))
    · refine (passes_versionNumber hC (hC.dropWhile hr _)).bind fun r hr => ?_
      exact .ite accounts_scanFault <| (passes_versionNumber hC (hC _ hr)).bind fun _ hr =>
        .ite (.behind (hending _ hr)) accounts_scanFault
    · refine (passes_tagHandle hC (hC.dropWhile hr _)).bind fun r hr => ?_
      exact .ite accounts_scanFault <| (passes_tagBody hC (hC.dropWhile hr _)).bind fun _ hr =>
        .ite (.behind (hending _ hr)) accounts_scanFault
  exact .ite accounts_scanFault (hread ())

theorem passes_blockHeader : Passes C (blockHeader c) := by
  -- The digit of an indentation is looked at without passing it.
  have hdigit (c : Cursor) : Accounts (fun _ => True) (indentDigit? c) := by
    unfold indentDigit?
    split
    · exact .ite accounts_scanFault (.ite trivial trivial)
    · trivial
  have hnext := hC c h
  unfold blockHeader
  extract_lets ending
  have hending (r : Chomping × Option Nat × Cursor) (hr : C r.2.2) : Passes C (ending r) :=
    .ite hr accounts_scanFault
  clear_value ending
  split
  · refine (hdigit _).bind fun n _ => ?_
    split
    · exact .behind (hending _ (hC _ hnext))
    · exact .behind (hending _ hnext)
  · refine (hdigit _).bind fun n _ => ?_
    split
    · split
      · exact .behind (hending _ (hC _ hnext))
      · exact .behind (hending _ hnext)
    · exact .behind (hending _ h)

theorem kept_findIndent (deepest fuel : Nat) : C (findIndent c deepest fuel).2.2 := by
  induction fuel generalizing c deepest with
  | zero => exact h
  | succ fuel ih =>
    rw [findIndent]
    split
    · exact ih (hC c h) _
    · split
      · exact ih (hC.lineBreak h) _
      · exact h
    · exact h

theorem kept_blockBreaks (indent fuel : Nat) : C (blockBreaks c indent fuel).2 := by
  induction fuel generalizing c with
  | zero => exact h
  | succ fuel ih =>
    rw [blockBreaks]
    dsimp only
    split
    · exact ih (hC.lineBreak (hC.skipSpacesTo h _))
    · exact hC.skipSpacesTo h _

theorem kept_blockLines (folded : Bool) (indent : Nat) (before : Text) (fuel : Nat) :
    C (blockLines folded indent before c fuel).2 := by
  induction fuel generalizing c before with
  | zero => exact h
  | succ fuel ih =>
    have hnext := kept_blockBreaks hC (hC.lineBreak (hC.span h (!isBreak ·))) indent
    rw [blockLines]
    dsimp only
    split
    · exact ih (hnext _) _
    · exact hnext _

theorem passes_blockScalar (parent : Int) (folded : Bool) :
    Passes C (blockScalar parent folded c) := by
  have hlines (breaks : Text) (indent : Nat) {c : Cursor} (h : C c) :
      C (if c.column = indent && c.peek?.isSome then
        blockLines folded indent breaks c (c.rest.length + 1) else (([], [], breaks), c)).2 := by
    split
    · exact kept_blockLines hC h _ _ _ _
    · exact h
  unfold blockScalar
  refine (passes_blockHeader hC (hC c h)).bind fun r hr => ?_
  refine (accounts_restOfLine hC hr).bind fun c' h' => ?_
  obtain ⟨⟨chomping, stated⟩, -⟩ := r
  cases stated with
  | none =>
    have hfirst := kept_findIndent hC h' 0 (c'.rest.length + 1)
    exact hlines _ _ hfirst
  | some n =>
    have hfirst := kept_blockBreaks hC h' (max 1 (parent + 1).toNat + n - 1) (c'.rest.length + 1)
    exact hlines _ _ hfirst

theorem kept_plainBreaks (fuel : Nat) : C (plainBreaks c fuel).2 := by
  induction fuel generalizing c with
  | zero => exact h
  | succ fuel ih =>
    rw [plainBreaks]
    split
    · exact ih (hC c h)
    · split
      · dsimp only
        split
        · exact hC.lineBreak h
        · exact ih (hC.lineBreak h)
      · exact h
    · exact h

theorem kept_plainWhite : C (plainWhite c).2.2 := by
  have hbreak := hC.lineBreak (hC.span h (· = ' '))
  have hnext := kept_plainBreaks hC hbreak ((c.span (· = ' ')).2.lineBreak.2.rest.length + 1)
  simp only [plainWhite]
  split
  · split
    · exact hbreak
    · split
      · next hbreaks =>
        rw [hbreaks] at hnext
        exact hnext
      · next hbreaks =>
        rw [hbreaks] at hnext
        split
        · exact hnext
        · split
          · exact hnext
          · exact hnext
  · exact hC.span h _

theorem kept_plainPieces (flow : Bool) (indent : Int) (white : Text) (broken : Bool) (fuel : Nat) :
    C (plainPieces flow indent white broken c fuel).2.2 := by
  induction fuel generalizing c white broken with
  | zero => exact h
  | succ fuel ih =>
    have hnext := kept_plainWhite hC (hC.skip h (plainWord flow c.rest).length)
    rw [plainPieces]
    split
    · exact h
    · dsimp only
      split
      · exact h
      · split
        · exact hnext
        · exact ih hnext _ _

theorem kept_plainScalar (flow : Bool) (parent : Int) : C (plainScalar flow parent c).2.2 :=
  kept_plainPieces hC h flow (parent + 1) [] false (c.rest.length + 1)

theorem passes_quotedBreaks (fuel : Nat) : Passes C (quotedBreaks c fuel) := by
  induction fuel generalizing c with
  | zero => exact h
  | succ fuel ih =>
    have hnext := hC.dropWhile h fun ch => ch = ' ' || ch = '\t'
    rw [quotedBreaks]
    refine .ite accounts_scanFault (.ite ?_ hnext)
    exact (ih (hC.lineBreak hnext)).bind fun _ h => h

theorem passes_quotedWhite : Passes C (quotedWhite c) := by
  have hnext := hC.span h fun ch => ch = ' ' || ch = '\t'
  simp only [quotedWhite]
  split
  · exact accounts_scanFault
  · refine .ite ?_ hnext
    exact (passes_quotedBreaks hC (hC.lineBreak hnext) _).bind fun _ h => .ite h (.ite h h)

end Lexemes

/-! ### Quoted scalars -/

theorem Cursor.rest_advance (c : Cursor) : c.advance.rest = c.rest.tail := by
  unfold Cursor.advance
  split
  · next hrest => rw [hrest]; rfl
  · next hrest =>
    rw [hrest]
    split
    · rfl
    · split
      · rfl
      · rfl

/-- Wherever the text that is left is the end of a text, it is so behind the next character. -/
theorem isKept_suffix (s : Text) : Cursor.IsKept fun c => c.rest <:+ s := by
  intro c h
  rw [Cursor.rest_advance]
  exact (List.tail_suffix c.rest).trans h

/-- Digits that do not write half of a surrogate pair write a character or are refused. -/
theorem accounts_escapedChar {digits : Text}
    (h : ∀ values, digits.mapM Text.asciiDigitValue? = some values →
      ¬ Text.isHalf (Numeral.ofDigits 16 values)) :
    Accounts (fun _ => True) (escapedChar digits) := by
  unfold escapedChar
  split
  · exact accounts_scanFault
  · next values hvalues =>
    refine .ite Fault.noConfusion ?_
    rw [if_neg (h values hvalues)]
    trivial

section Quoted

variable {s : Text} (hhalf : ¬ WritesHalf s)
include hhalf

/-- **An account is given of every escape of a text that writes no half of a surrogate pair.** -/
theorem passes_quotedEscape {c : Cursor} (h : '\\' :: c.rest <:+ s) :
    Passes (·.rest <:+ s) (quotedEscape c) := by
  have hkept := isKept_suffix s
  have hc : c.rest <:+ s := (List.suffix_cons _ _).trans h
  unfold quotedEscape
  split
  · exact accounts_scanFault
  · next ch hpeek =>
    obtain ⟨rest, hrest⟩ := List.head?_eq_some_iff.mp hpeek
    split
    · exact hkept c hc
    · next width _ hwidth =>
      dsimp only
      split
      · exact accounts_scanFault
      · next hlength =>
        have hdigits : ∀ values,
            (c.advance.rest.take width).mapM Text.asciiDigitValue? = some values →
              ¬ Text.isHalf (Numeral.ofDigits 16 values) := by
          intro values hvalues hisHalf
          have hwithin : '\\' :: ch :: c.advance.rest.take width <:+: s := by
            refine List.IsInfix.trans (List.IsPrefix.isInfix ?_) h.isInfix
            rw [Cursor.rest_advance, hrest]
            exact ⟨rest.drop width, by simp⟩
          refine hhalf ⟨ch, c.advance.rest.take width, values, ?_, hvalues, hisHalf, hwithin⟩
          rw [List.length_take, Nat.min_eq_left (Nat.not_lt.mp hlength), hwidth]
        exact (accounts_escapedChar hdigits).bind fun _ _ => hkept.skip (hkept c hc) width
    · exact .ite (passes_quotedBreaks hkept (hkept.lineBreak hc) _) accounts_scanFault

theorem passes_quotedContent (double : Bool) {c : Cursor} (h : c.rest <:+ s) (fuel : Nat) :
    Passes (·.rest <:+ s) (quotedContent double c fuel) := by
  have hkept := isKept_suffix s
  induction fuel generalizing c with
  | zero => exact accounts_scanFault
  | succ fuel ih =>
    rw [quotedContent]
    split
    · exact accounts_scanFault
    · next ch rest hrest =>
      refine .ite ?_ (.ite ?_ (.ite (hkept c h) (.guarded (fun hescape => ?_) ?_)))
      · exact (passes_quotedWhite hkept h).bind fun _ h => (ih h).bind fun _ h => h
      · exact (ih (hkept.skip h 2)).bind fun _ h => h
      · have hbehind : '\\' :: c.advance.rest <:+ s := by
          obtain ⟨-, hch⟩ := (Bool.and_eq_true_iff.mp hescape)
          rw [Cursor.rest_advance, hrest, ← of_decide_eq_true hch]
          exact hrest ▸ h
        exact (passes_quotedEscape hhalf hbehind).bind fun _ h => (ih h).bind fun _ h => h
      · exact (ih (hkept c h)).bind fun _ h => h

/-- **The scanner gives an account of a text that writes no half of a surrogate pair.** Its tokens
tie nothing where one of the signs for names does not stand in it. -/
theorem scanRule_accounts {named : Bool} (hnames : (if named then '*' else '&') ∉ s) :
    ScanRule (·.rest <:+ s) (Token.TiesNothing named) (· ≠ .unaccounted) where
  advance := isKept_suffix s
  refusal := Fault.noConfusion
  other t ht := by
    unfold Token.TiesNothing
    split
    · exact ht.elim
    · exact ht.elim
    · trivial
  directive _ h := passes_directive (isKept_suffix s) h
  tag _ h := passes_tag (isKept_suffix s) h
  block parent folded _ h := passes_blockScalar (isKept_suffix s) h parent folded
  quoted double _ h := (passes_quotedContent hhalf double (isKept_suffix s _ h) _).bind fun _ h => h
  reference c h hpeek := by
    refine (passes_anchorName (isKept_suffix s) h).bind fun r hr => ⟨?_, hr⟩
    cases named with
    | false => exact rfl
    | true => exact absurd (h.subset (List.mem_of_head? hpeek)) hnames
  anchor c h hpeek := by
    refine (passes_anchorName (isKept_suffix s) h).bind fun r hr => ⟨?_, hr⟩
    cases named with
    | false => exact absurd (h.subset (List.mem_of_head? hpeek)) hnames
    | true => exact rfl
  plain flow parent _ h := ⟨trivial, kept_plainScalar (isKept_suffix s) h flow parent⟩

end Quoted

end DomBindings.Yaml
