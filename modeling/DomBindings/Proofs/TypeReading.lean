import DomBindings.ValueSpec.TypeExpr
import Mathlib.Data.List.Basic

/-!
# Reading a written type

A reader that knows nothing but the written form of a type. It cuts the text at the bars that stand
outside string literals, and takes each piece for what it says; a literal is read as JSON.

The tokens of a type may hold quotes, backslashes and bars of their own, or imitate its other
members. None of that shows: what is written for a character never leaves the literal
(`splitFrom_of_isQuoted`), so the reader passes over every member as a whole (`IsWhole`). What was
written is cut where it was put together (`split_intercalate`), and it reads back
(`read?_render`); so the text of a type expression determines it (`render_inj`).
-/

namespace DomBindings

/-- A member of a written type. -/
inductive Member where
  /-- a primitive type -/
  | primitive (p : Primitive)
  /-- a string literal -/
  | literal (token : Text)
  /-- the mark of an open type beside other members -/
  | openMark
  /-- the type of all texts -/
  | anyText
  /-- the type without values -/
  | noValue
deriving DecidableEq, Repr

namespace Member

/-- What is written for a member. -/
def text : Member → Text
  | .primitive p => p.name
  | .literal token => Text.quote token
  | .openMark => TypeExpr.openMark
  | .anyText => TypeExpr.anyText
  | .noValue => TypeExpr.noValue

/-- The primitive type that a member stands for. -/
def primitive? : Member → Option Primitive
  | .primitive p => some p
  | _ => none

/-- The token that a member stands for. -/
def token? : Member → Option Text
  | .literal token => some token
  | _ => none

/-- Whether a member stands for all texts. -/
def isWild : Member → Bool
  | .openMark | .anyText => true
  | _ => false

theorem primitive?_eq_some_iff {m : Member} {p : Primitive} :
    m.primitive? = some p ↔ m = .primitive p := by
  cases m <;> simp [primitive?]

theorem token?_eq_some_iff {m : Member} {token : Text} :
    m.token? = some token ↔ m = .literal token := by
  cases m <;> simp [token?]

theorem isWild_iff {m : Member} : m.isWild = true ↔ m = .openMark ∨ m = .anyText := by
  cases m <;> simp [isWild]

/-- The members that are no literals. -/
def words : List Member :=
  [.primitive .boolean, .primitive .number, .openMark, .anyText, .noValue]

/-- Reads a member. -/
def read? (piece : Text) : Option Member :=
  match Text.readQuoted? piece with
  | some (token, []) => some (.literal token)
  | some (_, _ :: _) => none
  | none => words.find? fun m => m.text = piece

/-- What is written for a member reads as that member. -/
theorem read?_text (m : Member) : read? m.text = some m := by
  cases m with
  | literal token =>
    have h := Text.readQuoted?_quote token []
    rw [List.append_nil] at h
    rw [text, read?, h]
  | primitive p => cases p <;> rfl
  | openMark => rfl
  | anyText => rfl
  | noValue => rfl

theorem mapM_read?_text (ms : List Member) : (ms.map text).mapM read? = some ms := by
  induction ms with
  | nil => rfl
  | cons m ms ih =>
    rw [List.map_cons, List.mapM_cons, read?_text, ih]
    rfl

end Member

namespace TypeExpr

/-! ### Cutting a text into members -/

/-- Where a reader stands in a written type. -/
inductive Mode where
  /-- outside the literals -/
  | outside
  /-- in a literal -/
  | inside
  /-- in a literal, behind a backslash -/
  | escaped
deriving DecidableEq, Repr

/-- Where the reader stands behind a character. -/
def Mode.next : Mode → Char → Mode
  | .outside, c => if c = '"' then .inside else .outside
  | .inside, c => if c = '"' then .outside else if c = '\\' then .escaped else .inside
  | .escaped, _ => .inside

/-- Changes the first piece. -/
def onFirst (f : Text → Text) : List Text → List Text
  | [] => []
  | piece :: pieces => f piece :: pieces

/-- Cuts what is ahead of a reader at the separators outside the literals. -/
def splitFrom : Mode → Text → List Text
  | _, [] => [[]]
  | .outside, ' ' :: '|' :: ' ' :: rest => [] :: splitFrom .outside rest
  | mode, c :: rest => onFirst (c :: ·) (splitFrom (mode.next c) rest)

/-- The pieces of a written type. -/
def split (s : Text) : List Text :=
  splitFrom .outside s

/-- Reads a written type. -/
def read? (s : Text) : Option (List Member) :=
  (split s).mapM Member.read?

theorem onFirst_onFirst (f g : Text → Text) (pieces : List Text) :
    onFirst f (onFirst g pieces) = onFirst (fun piece => f (g piece)) pieces := by
  cases pieces <;> rfl

/-- In a literal, nothing is a separator. -/
theorem splitFrom_of_ne_outside {mode : Mode} (h : mode ≠ .outside) (c : Char) (rest : Text) :
    splitFrom mode (c :: rest) = onFirst (c :: ·) (splitFrom (mode.next c) rest) := by
  cases mode with
  | outside => exact absurd rfl h
  | inside => simp [splitFrom]
  | escaped => simp [splitFrom]

/-- A digit of a numeric escape is neither a quote nor a backslash. -/
theorem splitFrom_digit {c : Char} {n : Nat} (h : Text.asciiDigitValue? c = some n)
    (rest : Text) :
    splitFrom .inside (c :: rest) = onFirst (c :: ·) (splitFrom .inside rest) := by
  have hquote : c ≠ '"' := by
    rintro rfl
    cases h
  have hbackslash : c ≠ '\\' := by
    rintro rfl
    cases h
  rw [splitFrom_of_ne_outside (by decide), Mode.next, if_neg hquote, if_neg hbackslash]

/-- A backslash and what stands behind it are passed over together. -/
theorem splitFrom_escape (e : Char) (rest : Text) :
    splitFrom .inside ('\\' :: e :: rest)
      = onFirst (fun piece => '\\' :: e :: piece) (splitFrom .inside rest) := by
  rw [splitFrom_of_ne_outside (by decide), splitFrom_of_ne_outside (by decide), onFirst_onFirst]
  rfl

/-- The forms in which a character may be written in a literal. -/
inductive IsQuoted (c : Char) : Text → Prop
  /-- behind a backslash -/
  | escape (e : Char) : IsQuoted c ['\\', e]
  /-- by its number -/
  | numeric {x y z w : Char} : Text.fourHexDigits? x y z w = some c.toNat →
      IsQuoted c ['\\', 'u', x, y, z, w]
  /-- as it is -/
  | plain : c ≠ '"' → c ≠ '\\' → IsQuoted c [c]

theorem isQuoted_quoteChar (c : Char) : IsQuoted c (Text.quoteChar c) := by
  unfold Text.quoteChar
  -- seven escapes of one letter, then the other control characters, then all that is left
  split; · exact .escape _
  split; · exact .escape _
  split; · exact .escape _
  split; · exact .escape _
  split; · exact .escape _
  split; · exact .escape _
  split; · exact .escape _
  split
  · next h =>
    obtain ⟨x, y, z, w, hdigits, hvalue⟩ := Text.fourHexDigits?_hexNumeral h
    rw [hdigits]
    exact .numeric hvalue
  · next hquote hbackslash _ _ _ _ _ _ => exact .plain hquote hbackslash

/-- What is written for a character in a literal does not leave the literal. -/
theorem splitFrom_of_isQuoted {c : Char} {w : Text} (h : IsQuoted c w) (rest : Text) :
    splitFrom .inside (w ++ rest) = onFirst (w ++ ·) (splitFrom .inside rest) := by
  cases h with
  | escape e => exact splitFrom_escape e rest
  | @numeric x y z w hvalue =>
    simp only [Text.fourHexDigits?, Option.bind_eq_bind, Option.bind_eq_some_iff] at hvalue
    obtain ⟨_, hx, _, hy, _, hz, _, hw, -⟩ := hvalue
    simp only [List.cons_append, List.nil_append]
    rw [splitFrom_escape, splitFrom_digit hx, splitFrom_digit hy, splitFrom_digit hz,
      splitFrom_digit hw]
    simp only [onFirst_onFirst]
  | plain hquote hbackslash =>
    rw [List.singleton_append, splitFrom_of_ne_outside (by decide), Mode.next, if_neg hquote,
      if_neg hbackslash]
    rfl

/-- So the reader passes over all that is written between the quotes. -/
theorem splitFrom_quoteBody (token rest : Text) :
    splitFrom .inside (Text.quoteBody token ++ rest)
      = onFirst (Text.quoteBody token ++ ·) (splitFrom .inside rest) := by
  induction token with
  | nil =>
    change splitFrom .inside rest = onFirst id (splitFrom .inside rest)
    cases splitFrom .inside rest <;> rfl
  | cons c token ih =>
    rw [Text.quoteBody, List.flatMap_cons, List.append_assoc,
      splitFrom_of_isQuoted (isQuoted_quoteChar c)]
    rw [Text.quoteBody] at ih
    rw [ih, onFirst_onFirst]
    simp only [List.append_assoc]

/-- A text stays in one piece, whatever follows it. -/
def IsWhole (w : Text) : Prop :=
  ∀ rest, splitFrom .outside (w ++ rest) = onFirst (w ++ ·) (splitFrom .outside rest)

/-- A word without spaces and quotes stays in one piece. -/
theorem isWhole_of_plain {w : Text} (h : (w.all fun c => c != ' ' && c != '"') = true) :
    IsWhole w := by
  intro rest
  induction w with
  | nil =>
    change splitFrom .outside rest = onFirst id (splitFrom .outside rest)
    cases splitFrom .outside rest <;> rfl
  | cons c w ih =>
    simp only [List.all_cons, Bool.and_eq_true, bne_iff_ne] at h
    obtain ⟨⟨hspace, hquote⟩, hw⟩ := h
    have hc : splitFrom .outside (c :: (w ++ rest))
        = onFirst (c :: ·) (splitFrom (Mode.outside.next c) (w ++ rest)) := by
      simp [splitFrom, hspace]
    rw [List.cons_append, hc, Mode.next, if_neg hquote, ih hw, onFirst_onFirst]
    rfl

theorem IsWhole.append {a b : Text} (ha : IsWhole a) (hb : IsWhole b) : IsWhole (a ++ b) := by
  intro rest
  rw [List.append_assoc, ha, hb, onFirst_onFirst]
  simp only [List.append_assoc]

/-- A space is no separator unless a bar follows. -/
theorem IsWhole.behind_space {c : Char} {w : Text} (hc : c ≠ '|') (h : IsWhole (c :: w)) :
    IsWhole (' ' :: c :: w) := by
  intro rest
  have hspace : splitFrom .outside (' ' :: c :: (w ++ rest))
      = onFirst (' ' :: ·) (splitFrom .outside (c :: (w ++ rest))) := by
    simp [splitFrom, hc, Mode.next]
  have hw := h rest
  rw [List.cons_append] at hw
  rw [List.cons_append, List.cons_append, hspace, hw, onFirst_onFirst]
  rfl

theorem isWhole_openMark : IsWhole openMark := by
  have hand : IsWhole ['&'] := isWhole_of_plain rfl
  have hstring : IsWhole "string)".toList := isWhole_of_plain rfl
  have hbraces : IsWhole ['(', '\x7b', '\x7d'] := isWhole_of_plain rfl
  exact hbraces.append ((hand.behind_space (by decide)).append (hstring.behind_space (by decide)))

/-- What is written for a member stays in one piece. -/
theorem isWhole_text (m : Member) : IsWhole m.text := by
  intro rest
  cases m with
  | literal token =>
    have hopen : ∀ after, splitFrom .outside ('"' :: after)
        = onFirst ('"' :: ·) (splitFrom .inside after) := fun after => by
      simp [splitFrom, Mode.next]
    rw [Member.text, Text.quote, List.cons_append, List.cons_append, List.append_assoc, hopen,
      splitFrom_quoteBody, List.singleton_append, splitFrom_of_ne_outside (by decide),
      onFirst_onFirst, onFirst_onFirst]
    simp [Mode.next]
  | primitive p => cases p <;> exact isWhole_of_plain rfl rest
  | openMark => exact isWhole_openMark rest
  | anyText => exact isWhole_of_plain rfl rest
  | noValue => exact isWhole_of_plain rfl rest

/-- Texts that stay in one piece are cut where they were put together. -/
theorem split_intercalate {ws : List Text} (hne : ws ≠ []) (h : ∀ w ∈ ws, IsWhole w) :
    split (List.intercalate separator ws) = ws := by
  induction ws with
  | nil => exact absurd rfl hne
  | cons w ws ih =>
    have hw := h w List.mem_cons_self
    cases ws with
    | nil =>
      -- the last member is followed by nothing, and the others by a separator
      have hend := hw []
      rw [List.append_nil] at hend
      rw [List.intercalate_singleton, split, hend, splitFrom, onFirst, List.append_nil]
    | cons w' ws =>
      have hrest := ih (List.cons_ne_nil _ _) fun v hv => h v (List.mem_cons_of_mem _ hv)
      have hcut : ∀ after, splitFrom .outside (separator ++ after)
          = [] :: splitFrom .outside after := fun after => by simp [separator, splitFrom]
      rw [List.intercalate_cons_cons, split, List.append_assoc, hw, hcut, ← split, hrest, onFirst,
        List.append_nil]

/-! ### The members of a type expression -/

/-- The members for the primitives and the tokens. -/
def closedParts (t : TypeExpr) : List Member :=
  t.primitives.map .primitive ++ t.tokens.map .literal

/-- The member behind them, if there is one: it says whether the type is open where nothing else
does, and marks an open type. -/
def lastParts (t : TypeExpr) : List Member :=
  match t.closedParts.isEmpty, t.isOpen with
  | true, true => [.anyText]
  | true, false => [.noValue]
  | false, true => [.openMark]
  | false, false => []

/-- The members of a type expression. -/
def parts (t : TypeExpr) : List Member :=
  t.closedParts ++ t.lastParts

theorem members_eq (t : TypeExpr) : t.members = t.parts.map Member.text := by
  have hclosed : t.closedMembers = t.closedParts.map Member.text := by
    simp [closedMembers, closedParts, Function.comp_def, Member.text]
  rw [members, parts, lastParts, hclosed]
  cases t.closedParts with
  | nil => cases t.isOpen <;> rfl
  | cons m ms => cases t.isOpen <;> simp [Member.text]

theorem parts_ne_nil (t : TypeExpr) : t.parts ≠ [] := by
  rw [parts, lastParts]
  cases t.closedParts with
  | nil => cases t.isOpen <;> simp
  | cons m ms => simp

/-- What was written for a type expression reads back. -/
theorem read?_render (t : TypeExpr) : read? t.render = some t.parts := by
  have hsplit : split t.render = t.parts.map Member.text := by
    rw [render, members_eq]
    refine split_intercalate (by simpa using t.parts_ne_nil) fun w hw => ?_
    obtain ⟨m, -, rfl⟩ := List.mem_map.mp hw
    exact isWhole_text m
  rw [read?, hsplit, Member.mapM_read?_text]

/-- What a type expression is made of can be seen in its members. -/
theorem view_parts (t : TypeExpr) : t.parts.filterMap Member.primitive? = t.primitives ∧
    t.parts.filterMap Member.token? = t.tokens ∧ t.parts.any Member.isWild = t.isOpen := by
  have hlast : t.lastParts.filterMap Member.primitive? = [] ∧
      t.lastParts.filterMap Member.token? = [] ∧ t.lastParts.any Member.isWild = t.isOpen := by
    rw [lastParts]
    cases t.closedParts.isEmpty <;> cases t.isOpen <;> exact ⟨rfl, rfl, rfl⟩
  have hclosed : t.closedParts.any Member.isWild = false := by
    rw [List.any_eq_false]
    intro m hm
    simp only [closedParts, List.mem_append, List.mem_map] at hm
    rcases hm with ⟨p, -, rfl⟩ | ⟨token, -, rfl⟩ <;> simp [Member.isWild]
  obtain ⟨hp, ht, ho⟩ := hlast
  refine ⟨?_, ?_, ?_⟩
  · simp [parts, hp, closedParts, List.filterMap_append, List.filterMap_map, Function.comp_def,
      Member.primitive?]
  · simp [parts, ht, closedParts, List.filterMap_append, List.filterMap_map, Function.comp_def,
      Member.token?]
  · rw [parts, List.any_append, hclosed, ho, Bool.false_or]

/-- Type expressions with the same members are the same. -/
theorem parts_inj {s t : TypeExpr} (h : s.parts = t.parts) : s = t := by
  obtain ⟨hp, ht, ho⟩ := view_parts s
  obtain ⟨hp', ht', ho'⟩ := view_parts t
  rw [h] at hp ht ho
  cases s
  cases t
  obtain rfl := hp.symm.trans hp'
  obtain rfl := ht.symm.trans ht'
  obtain rfl := ho.symm.trans ho'
  rfl

/-- Type expressions with the same text are the same. -/
theorem render_inj {s t : TypeExpr} : s.render = t.render ↔ s = t := by
  refine ⟨fun h => parts_inj ?_, fun h => h ▸ rfl⟩
  have hs := s.read?_render
  rw [h, t.read?_render] at hs
  exact (Option.some.inj hs).symm

end TypeExpr

end DomBindings
