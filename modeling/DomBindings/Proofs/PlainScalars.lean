import DomBindings.Proofs.Scanning
import Mathlib.Tactic.SplitIfs

/-!
# The texts of plain scalars

A plain scalar goes on over white space only to another word, so no text of one ends in white space
(`endsFirmly_plainPieces`, by induction on the pieces). That is all a resolution has to know of
where its text comes from: a line feed at the end, which the forms of scalars overlook, is never
there.

From the scanner it has to be carried through the queue of tokens. Nothing but a plain scalar puts a
plain scalar into the queue (`scanRule_isFirm`), and so it holds of all tokens that a document
delivers (`endsFirmly_of_mem_tokens`).
-/

namespace DomBindings.Yaml

/-! ### A scalar ends in a word -/

/-- The last character of a text, if there is one, is no white space. -/
def EndsFirmly (s : Text) : Prop :=
  ∀ c ∈ s.getLast?, isWhite c = false

theorem endsFirmly_nil : EndsFirmly [] := by
  intro c hc
  cases hc

/-- Texts that are put together end as the last of them that is not empty. -/
theorem endsFirmly_append {a b : Text} (hb : EndsFirmly b) (ha : b = [] → EndsFirmly a) :
    EndsFirmly (a ++ b) := by
  intro c hc
  rw [List.getLast?_append] at hc
  cases hlast : b.getLast? with
  | none =>
    rw [hlast, Option.none_or] at hc
    exact ha (List.getLast?_eq_none_iff.mp hlast) c hc
  | some d =>
    rw [hlast, Option.some_or] at hc
    exact hb c (hlast ▸ hc)

/-- A word holds no white space. -/
theorem isWhite_of_mem_plainWord {flow : Bool} {s : Text} {c : Char} (h : c ∈ plainWord flow s) :
    isWhite c = false := by
  induction s with
  | nil => cases h
  | cons d rest ih =>
    rw [plainWord] at h
    split_ifs at h with hwhite
    · cases h
    · cases h
    · cases h
    · rcases List.mem_cons.mp h with rfl | h
      · exact Bool.eq_false_iff.mpr hwhite
      · exact ih h

theorem endsFirmly_plainWord (flow : Bool) (s : Text) : EndsFirmly (plainWord flow s) :=
  fun _ hc => isWhite_of_mem_plainWord (List.mem_of_getLast? hc)

/-- **The pieces of a plain scalar end in a word**, whatever white space stood in front of the
first of them. -/
theorem endsFirmly_plainPieces (flow : Bool) (indent : Int) (white : Text) (broken : Bool)
    (c : Cursor) (fuel : Nat) :
    EndsFirmly (plainPieces flow indent white broken c fuel).1 := by
  induction fuel generalizing white broken c with
  | zero => exact endsFirmly_nil
  | succ fuel ih =>
    rw [plainPieces]
    split
    · exact endsFirmly_nil
    · by_cases hempty : (plainWord flow c.rest).isEmpty
      · rw [if_pos hempty]
        exact endsFirmly_nil
      · have hword : EndsFirmly (white ++ plainWord flow c.rest) :=
          endsFirmly_append (endsFirmly_plainWord flow _) fun h =>
            absurd (List.isEmpty_iff.mpr h) hempty
        rw [if_neg hempty]
        -- The white space behind the word counts only where another word follows.
        dsimp only
        split
        · exact hword
        · exact endsFirmly_append (ih _ _ _) fun _ => hword

/-! ### From the scanner to the tokens -/

/-- A token that is no plain scalar, or one whose text ends firmly. -/
def Token.IsFirm : Token → Prop
  | .scalar content true => EndsFirmly content
  | _ => True

/-- **Whatever is read, it is firm**: a plain scalar because its text ends firmly, and the rest
because it is none. -/
theorem scanRule_isFirm : ScanRule (fun _ => True) Token.IsFirm fun _ => True where
  advance _ _ := trivial
  refusal := trivial
  other t ht := by
    unfold Token.IsFirm
    split
    · exact ht.elim
    · trivial
  directive _ _ := .any
  tag _ _ := .any
  block _ _ _ _ := .any
  quoted _ _ _ := .any
  reference _ _ _ := Yields.any.bind fun _ _ => ⟨trivial, trivial⟩
  anchor _ _ _ := Yields.any.bind fun _ _ => ⟨trivial, trivial⟩
  plain flow parent c _ :=
    ⟨endsFirmly_plainPieces flow (parent + 1) [] false c (c.rest.length + 1), trivial⟩

/-- **No plain scalar of a document ends in white space.** -/
theorem endsFirmly_of_mem_tokens {document s : Text}
    (h : Token.scalar s true ∈ (tokens document).1) : EndsFirmly s :=
  (scanRule_isFirm.tokens trivial).1 _ h

end DomBindings.Yaml
