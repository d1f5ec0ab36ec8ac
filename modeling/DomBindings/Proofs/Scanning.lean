import DomBindings.Yaml.TokenStream

/-!
# What the scanner keeps

Between two tokens the scanner does no more than pass characters, note where a key may begin and put
marks into the queue. So what has to be known of it is told by its lexemes (`ScanRule`). A property
of tokens is one of all tokens that a text delivers if names and plain scalars have it where they
are read, and all others in any case; and a property of faults is one of the fault behind them if
the refusal of a text has it, and every fault of a lexeme (`ScanRule.tokens`). Lexemes are read at
places that can be reached, which is any property of places that advancing keeps.
-/

namespace DomBindings.Yaml

/-! ### Ways to end -/

/-- How a reading may end: its fault has a property, or its result has one. -/
def Yields {α : Type} (F : Fault → Prop) (P : α → Prop) : Except Fault α → Prop
  | .error f => F f
  | .ok a => P a

namespace Yields

variable {α β : Type} {F : Fault → Prop} {P : α → Prop} {Q : β → Prop}
variable {x : Except Fault α} {f : α → Except Fault β}

theorem bind (hx : Yields F P x) (hf : ∀ a, P a → Yields F Q (f a)) : Yields F Q (x >>= f) := by
  cases x with
  | error e => exact hx
  | ok a => exact hf a hx

/-- What is done under a condition may rely on it. -/
theorem guarded {c : Prop} [Decidable c] {y : Except Fault α} (hx : c → Yields F P x)
    (hy : Yields F P y) : Yields F P (if c then x else y) := by
  split
  · next hc => exact hx hc
  · exact hy

theorem ite {c : Prop} [Decidable c] {y : Except Fault α} (hx : Yields F P x)
    (hy : Yields F P y) : Yields F P (if c then x else y) :=
  guarded (fun _ => hx) hy

/-- Any reading ends in some way. -/
theorem any : Yields (fun _ => True) (fun _ => True) x := by
  cases x <;> trivial

/-- What is yielded behind a result is yielded from it on. -/
theorem behind {a : α} (h : Yields F Q (f a)) : Yields F Q (.ok a >>= f) :=
  h

end Yields

/-! ### Places -/

namespace Cursor

/-- A property of places is kept where a character is passed. -/
def IsKept (C : Cursor → Prop) : Prop :=
  ∀ c, C c → C c.advance

namespace IsKept

variable {C : Cursor → Prop} (hC : IsKept C) {c : Cursor} (h : C c)
include hC h

theorem skip (n : Nat) : C (c.skip n) := by
  induction n generalizing c with
  | zero => exact h
  | succ n ih => exact ih (hC c h)

theorem dropWhile (p : Char → Bool) : C (c.dropWhile p) :=
  hC.skip h _

theorem span (p : Char → Bool) : C (c.span p).2 :=
  hC.skip h _

theorem skipSpacesTo (column : Nat) : C (c.skipSpacesTo column) :=
  hC.skip h _

theorem lineBreak : C c.lineBreak.2 := by
  unfold Cursor.lineBreak
  split
  · exact hC.skip h 2
  · split
    · exact hC c h
    · split
      · exact hC c h
      · exact h
  · exact h

theorem skipComment : C c.skipComment := by
  unfold Cursor.skipComment
  split
  · exact hC.dropWhile h _
  · exact h

end IsKept

end Cursor

/-! ### Kinds of tokens -/

/-- A token that is neither a name nor a plain scalar. -/
def Token.IsOther : Token → Prop
  | .alias _ | .anchor _ | .scalar _ true => False
  | _ => True

/-- What a lexeme is read as is neither a name nor a plain scalar. -/
abbrev ReadsOther (x : Except Fault (Token × Cursor)) : Prop :=
  Yields (fun _ => True) (fun r => r.1.IsOther) x

/-- What is read last says so, whatever came before. -/
theorem ReadsOther.after {α : Type} {x : Except Fault α} {f : α → Except Fault (Token × Cursor)}
    (hf : ∀ a, ReadsOther (f a)) : ReadsOther (x >>= f) :=
  Yields.any.bind fun a _ => hf a

theorem readsOther_directive (c : Cursor) : ReadsOther (directive c) := by
  unfold directive
  refine ReadsOther.after fun _ => ?_
  dsimp only
  repeat' first | exact trivial | refine ReadsOther.after fun _ => ?_ | split

theorem readsOther_tag (c : Cursor) : ReadsOther (tag c) := by
  simp only [tag]
  repeat' first | exact trivial | refine ReadsOther.after fun _ => ?_ | split

theorem readsOther_blockScalar (parent : Int) (folded : Bool) (c : Cursor) :
    ReadsOther (blockScalar parent folded c) :=
  ReadsOther.after fun _ => ReadsOther.after fun _ => trivial

theorem readsOther_quotedScalar (double : Bool) (c : Cursor) :
    ReadsOther (quotedScalar double c) :=
  ReadsOther.after fun _ => trivial

/-! ### The rule -/

/-- How a lexeme may be read: a fault has a property, and a result is a token that has one, with a
place that can be reached. -/
abbrev ReadsLexeme (C : Cursor → Prop) (Q : Token → Prop) (F : Fault → Prop)
    (x : Except Fault (Token × Cursor)) : Prop :=
  Yields F (fun r => Q r.1 ∧ C r.2) x

/-- What has to hold of places, tokens and faults for the scanner to keep it. Of a name it is known
which sign it stands behind. -/
structure ScanRule (C : Cursor → Prop) (Q : Token → Prop) (F : Fault → Prop) : Prop where
  /-- a place behind one that can be reached can be reached -/
  advance : Cursor.IsKept C
  /-- a text may be refused -/
  refusal : F (.format .scanning)
  /-- tokens that are neither names nor plain scalars have the property -/
  other : ∀ t, t.IsOther → Q t
  /-- behind a directive the text can be reached, -/
  directive : ∀ c, C c → Yields F (fun r => C r.2) (directive c)
  /-- behind a tag, -/
  tag : ∀ c, C c → Yields F (fun r => C r.2) (tag c)
  /-- a block scalar -/
  block : ∀ parent folded c, C c → Yields F (fun r => C r.2) (blockScalar parent folded c)
  /-- and a quoted one -/
  quoted : ∀ double c, C c → Yields F (fun r => C r.2) (quotedScalar double c)
  /-- the uses of names have the property, -/
  reference : ∀ c, C c → c.peek? = some '*' → ReadsLexeme C Q F (TokenState.readAlias c)
  /-- the namings of nodes -/
  anchor : ∀ c, C c → c.peek? = some '&' → ReadsLexeme C Q F (TokenState.readAnchor c)
  /-- and plain scalars -/
  plain : ∀ flow parent c, C c →
    Q (plainScalar flow parent c).1 ∧ C (plainScalar flow parent c).2.2

namespace TokenState

/-- What holds of a state between two tokens: its place can be reached, and the tokens that wait
have the property. -/
def Holds (C : Cursor → Prop) (Q : Token → Prop) (s : TokenState) : Prop :=
  C s.cursor ∧ ∀ t ∈ s.waiting, Q t

theorem Holds.place {C : Cursor → Prop} {Q : Token → Prop} {s : TokenState} (h : s.Holds C Q) :
    C s.cursor :=
  h.1

/-- What holds may be said of what is added to the queue, and of the place behind it. -/
theorem Holds.followedBy {C : Cursor → Prop} {Q : Token → Prop} {s s' : TokenState}
    (h : s.Holds C Q) {t : Token} (hwaiting : s'.waiting = s.waiting ++ [t]) (ht : Q t)
    (hplace : C s'.cursor) : s'.Holds C Q := by
  refine ⟨hplace, fun t' ht' => ?_⟩
  rw [hwaiting] at ht'
  rcases List.mem_append.mp ht' with ht' | ht'
  · exact h.2 t' ht'
  · exact List.mem_singleton.mp ht' ▸ ht

end TokenState

namespace ScanRule

open TokenState

variable {C : Cursor → Prop} {Q : Token → Prop} {F : Fault → Prop} (rule : ScanRule C Q F)
include rule

/-- A lexeme that is read as neither a name nor a plain scalar. -/
theorem lexeme {x : Except Fault (Token × Cursor)} (hplace : Yields F (fun r => C r.2) x)
    (hother : ReadsOther x) : ReadsLexeme C Q F x := by
  cases x with
  | error e => exact hplace
  | ok r => exact ⟨rule.other _ hother, hplace⟩

theorem passWhite {c : Cursor} (hc : C c) (flow allowed : Bool) (fuel : Nat) :
    C (TokenState.passWhite c flow allowed fuel).1 := by
  induction fuel generalizing c allowed with
  | zero => exact hc
  | succ fuel ih =>
    have hnext := rule.advance.skipComment (rule.advance.dropWhile hc (· = ' '))
    rw [TokenState.passWhite]
    split
    · exact ih (rule.advance.lineBreak hnext) _
    · exact hnext

section Steps

variable {s : TokenState} (h : s.Holds C Q)
include h

theorem unwind (column : Int) : (s.unwind column).Holds C Q := by
  rw [TokenState.unwind]
  split
  · exact h
  · refine ⟨h.place, fun t ht => ?_⟩
    rcases List.mem_append.mp ht with ht | ht
    · exact h.2 t ht
    · rw [List.eq_of_mem_replicate ht]
      exact rule.other _ trivial

/-- What is put in front of a key are marks. -/
theorem confirm (k : KeyCandidate) : (s.confirm k).Holds C Q := by
  have hmarked {marks : List Token} (hmarks : ∀ t ∈ marks, t.IsOther) (place : Nat) :
      ∀ t ∈ s.waiting.take place ++ marks ++ s.waiting.drop place, Q t := by
    intro t ht
    rcases List.mem_append.mp ht with ht | ht
    · rcases List.mem_append.mp ht with ht | ht
      · exact h.2 t (List.mem_of_mem_take ht)
      · exact rule.other t (hmarks t ht)
    · exact h.2 t (List.mem_of_mem_drop ht)
  have hkey : ∀ t ∈ [Token.key], t.IsOther := List.forall_mem_singleton.mpr trivial
  have hstart : Token.blockMappingStart.IsOther := trivial
  simp only [TokenState.confirm]
  split
  · exact ⟨h.place, hmarked (List.forall_mem_cons.mpr ⟨hstart, hkey⟩) _⟩
  · exact ⟨h.place, hmarked hkey _⟩

theorem dropStale : Yields F (Holds C Q) s.dropStale :=
  .ite rule.refusal h

theorem dropCandidate : Yields F (Holds C Q) s.dropCandidate :=
  .ite rule.refusal h

/-- Noting a place does not move. -/
theorem noteCandidate :
    Yields F (fun s' => s'.Holds C Q ∧ s'.cursor = s.cursor) s.noteCandidate := by
  have hdrop : Yields F (fun s' => s'.Holds C Q ∧ s'.cursor = s.cursor) s.dropCandidate :=
    .ite rule.refusal ⟨h, rfl⟩
  exact .ite (hdrop.bind fun _ h => h) ⟨h, rfl⟩

theorem openHere {t : Token} (ht : t.IsOther) : Yields F (Holds C Q) (s.openHere t) :=
  .ite h <| .ite rule.refusal <|
    .ite (h.followedBy rfl (rule.other t ht) h.place) h

theorem fetchEnd : Yields F (Holds C Q) s.fetchEnd :=
  (rule.dropCandidate (rule.unwind h (-1))).bind fun _ h =>
    h.followedBy rfl (rule.other _ trivial) h.place

theorem fetchDirective : Yields F (Holds C Q) s.fetchDirective :=
  (rule.dropCandidate (rule.unwind h (-1))).bind fun _ h =>
    (rule.lexeme (rule.directive _ h.place) (readsOther_directive _)).bind fun _ ht =>
      h.followedBy rfl ht.1 ht.2

theorem fetchMarker {t : Token} (ht : t.IsOther) : Yields F (Holds C Q) (s.fetchMarker t) :=
  (rule.dropCandidate (rule.unwind h (-1))).bind fun _ h =>
    h.followedBy rfl (rule.other t ht) (rule.advance.skip h.place 3)

theorem fetchOpening {t : Token} (ht : t.IsOther) : Yields F (Holds C Q) (s.fetchOpening t) :=
  (rule.noteCandidate h).bind fun _ h =>
    h.1.followedBy rfl (rule.other t ht) (rule.advance _ h.1.place)

theorem fetchClosing {t : Token} (ht : t.IsOther) : Yields F (Holds C Q) (s.fetchClosing t) :=
  (rule.dropCandidate h).bind fun _ h =>
    h.followedBy rfl (rule.other t ht) (rule.advance _ h.place)

/-- The token of a mark is read where a key may no longer begin. -/
theorem fetchMark {allowed : Bool} {t : Token} (ht : t.IsOther) :
    Yields F (Holds C Q) ({ s with keyAllowed := allowed }.dropCandidate >>= fun s =>
      pure { s.emit t with cursor := s.cursor.advance }) :=
  (rule.dropCandidate (s := { s with keyAllowed := allowed }) h).bind fun _ h =>
    h.followedBy rfl (rule.other t ht) (rule.advance _ h.place)

theorem fetchComma : Yields F (Holds C Q) s.fetchComma :=
  rule.fetchMark h trivial

theorem fetchEntry : Yields F (Holds C Q) s.fetchEntry :=
  (rule.openHere (t := .blockSequenceStart) h trivial).bind fun _ h => rule.fetchMark h trivial

theorem fetchKey : Yields F (Holds C Q) s.fetchKey :=
  (rule.openHere (t := .blockMappingStart) h trivial).bind fun _ h => rule.fetchMark h trivial

theorem fetchValue : Yields F (Holds C Q) s.fetchValue := by
  simp only [TokenState.fetchValue]
  split
  · next k _ =>
    have h := rule.confirm h k
    exact h.followedBy rfl (rule.other _ trivial) (rule.advance _ h.place)
  · exact (rule.openHere (t := .blockMappingStart) h trivial).bind fun _ h =>
      rule.fetchMark h trivial

/-- A lexeme is read at the place of the state. -/
theorem fetchLexeme {read : Cursor → Except Fault (Token × Cursor)}
    (hread : ReadsLexeme C Q F (read s.cursor)) : Yields F (Holds C Q) (s.fetchLexeme read) := by
  refine (rule.noteCandidate h).bind fun s' h' => ?_
  rw [h'.2]
  exact hread.bind fun _ ht => h'.1.followedBy rfl ht.1 ht.2

theorem fetchBlockScalar (folded : Bool) : Yields F (Holds C Q) (s.fetchBlockScalar folded) :=
  (rule.dropCandidate (s := { s with keyAllowed := true }) h).bind fun _ h =>
    (rule.lexeme (rule.block _ folded _ h.place) (readsOther_blockScalar _ _ _)).bind fun _ ht =>
      h.followedBy rfl ht.1 ht.2

theorem fetchPlain : Yields F (Holds C Q) s.fetchPlain :=
  (rule.noteCandidate h).bind fun _ h =>
    h.1.followedBy rfl (rule.plain _ _ _ h.1.place).1 (rule.plain _ _ _ h.1.place).2

theorem toNextToken : s.toNextToken.Holds C Q := by
  simp only [TokenState.toNextToken]
  refine ⟨rule.passWhite ?_ _ _ _, h.2⟩
  split
  · exact rule.advance _ h.place
  · exact h.place

/-- **Whatever token is read next, what holds goes on to hold.** -/
theorem fetch : Yields F (Holds C Q) s.fetch := by
  refine (rule.dropStale (rule.toNextToken h)).bind fun s h => ?_
  have h := rule.unwind h s.cursor.column
  dsimp only
  split
  · exact rule.fetchEnd h
  · next ch hpeek =>
    have hreference (hch : ch = '*') := rule.reference _ h.place (hch ▸ hpeek)
    have hanchor (hch : ch = '&') := rule.anchor _ h.place (hch ▸ hpeek)
    have hquoted (double : Bool) :=
      rule.lexeme (rule.quoted double _ h.place) (readsOther_quotedScalar double _)
    exact .ite (rule.fetchDirective h) <|
      .ite (rule.fetchMarker h trivial) <|
      .ite (rule.fetchMarker h trivial) <|
      .ite (rule.fetchOpening h trivial) <|
      .ite (rule.fetchOpening h trivial) <|
      .ite (rule.fetchClosing h trivial) <|
      .ite (rule.fetchClosing h trivial) <|
      .ite (rule.fetchComma h) <|
      .ite (rule.fetchEntry h) <|
      .ite (rule.fetchKey h) <|
      .ite (rule.fetchValue h) <|
      .guarded (fun hch => rule.fetchLexeme h (hreference hch)) <|
      .guarded (fun hch => rule.fetchLexeme h (hanchor hch)) <|
      .ite (rule.fetchLexeme h (rule.lexeme (rule.tag _ h.place) (readsOther_tag _))) <|
      .ite (rule.fetchBlockScalar h false) <|
      .ite (rule.fetchBlockScalar h true) <|
      .ite (rule.fetchLexeme h (hquoted false)) <|
      .ite (rule.fetchLexeme h (hquoted true)) <|
      .ite (rule.fetchPlain h) rule.refusal

/-- So the tokens that are delivered from here have the property, and so has the fault behind
them. -/
theorem deliver (fuel : Nat) :
    (∀ t ∈ (s.deliver fuel).1, Q t) ∧ ∀ f ∈ (s.deliver fuel).2, F f := by
  induction fuel generalizing s with
  | zero => exact ⟨List.forall_mem_nil _, nofun⟩
  | succ fuel ih =>
    have hstep : Yields F (Holds C Q) (s.fetch >>= TokenState.dropStale) :=
      (rule.fetch h).bind fun _ h => rule.dropStale h
    rw [TokenState.deliver]
    split
    · next e hfetch =>
      rw [hfetch] at hstep
      refine ⟨List.forall_mem_nil _, fun f hf => ?_⟩
      rwa [← Option.some.inj hf]
    · next s' hfetch =>
      rw [hfetch] at hstep
      dsimp only
      split
      · exact ⟨hstep.2, nofun⟩
      · have hrest := ih (s := { s' with
            waiting := s'.waiting.drop s'.ready
            delivered := s'.delivered + s'.ready })
          ⟨hstep.1, fun t ht => hstep.2 t (List.mem_of_mem_drop ht)⟩
        refine ⟨fun t ht => ?_, hrest.2⟩
        rcases List.mem_append.mp ht with ht | ht
        · exact hstep.2 t (List.mem_of_mem_take ht)
        · exact hrest.1 t ht

end Steps

/-- **What the scanner keeps holds of all tokens of a text, and of the fault behind them.** -/
theorem tokens {s : Text} (h : C (.ofText s)) :
    (∀ t ∈ (Yaml.tokens s).1, Q t) ∧ ∀ f ∈ (Yaml.tokens s).2, F f :=
  rule.deliver (s := .start s) ⟨h, List.forall_mem_nil _⟩ _

end ScanRule

end DomBindings.Yaml
