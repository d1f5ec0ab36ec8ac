import DomBindings.Proofs.LoadedScalars
import DomBindings.Proofs.PlainScalars
import DomBindings.ValueSpec.TypeExpr

/-!
# How plain scalars are resolved

The rules of vocabularies are those of the format, but for the one for truth values: it is taken out
at the front and a narrower one is put at the end. Neither changes what becomes of other texts. What
the new rule takes, the old one took before (`isTakenBy_standardTruthRule_of_mem`); and what the old
one took, none of the rules between them takes (`not_isTakenBy_of_truth`), so a text that it loses
does not fall to another rule but becomes a text. Hence the tags differ only at truth values, and
there the new rule decides (`resolve_vocabularyRules_of_bool`).

Among the words that begin with a letter there are only truth values and absent values besides
texts, since the other rules lead with digits and signs. So such a word is loaded as it is written,
with nine exceptions, and as a specification it is its own token.
-/

namespace DomBindings.Yaml

/-! ### The first rule that takes a text -/

/-- Whether a text is taken by a rule when the turn of it comes. -/
def isTakenBy (s : Text) (rule : ResolutionRule) : Bool :=
  rule.leads.contains s.head? && rule.accepts (withoutFinalBreak s)

theorem resolve_eq (rules : List ResolutionRule) (s : Text) :
    resolve rules s = ((rules.find? (isTakenBy s)).map (·.tag)).getD .str := by
  unfold resolve
  split
  · next rule hfind =>
    have htake : rules.find? (isTakenBy s) = some rule := hfind
    rw [htake, Option.map_some, Option.getD_some]
  · next hfind =>
    have hnone : rules.find? (isTakenBy s) = none := hfind
    rw [hnone, Option.map_none, Option.getD_none]

/-- A text is resolved by a rule that takes it, if there is any. -/
theorem resolve_eq_or (rules : List ResolutionRule) (s : Text) :
    resolve rules s = .str ∨ ∃ rule ∈ rules, isTakenBy s rule ∧ rule.tag = resolve rules s := by
  rw [resolve_eq]
  cases hfind : rules.find? (isTakenBy s) with
  | none => exact .inl rfl
  | some rule =>
    exact .inr ⟨rule, List.mem_of_find?_eq_some hfind, List.find?_some hfind, rfl⟩

/-- A text without a final line feed is what the forms see of it, and one with such a feed begins
as they see it unless it is the feed alone. -/
theorem head?_withoutFinalBreak {s : Text} (h : withoutFinalBreak s ≠ []) :
    (withoutFinalBreak s).head? = s.head? := by
  rw [withoutFinalBreak] at h ⊢
  split
  · next rest hreverse =>
    have hrest : rest.reverse ≠ [] := by simpa only [hreverse] using h
    have hs : s = rest.reverse ++ ['\n'] := by
      rw [← List.reverse_reverse s, hreverse, List.reverse_cons]
    rw [hs, List.head?_append_of_ne_nil _ hrest]
  · rfl

/-- Where a text ends firmly, the forms see all of it. -/
theorem withoutFinalBreak_eq_self {s : Text} (h : EndsFirmly s) : withoutFinalBreak s = s := by
  rw [withoutFinalBreak]
  split
  · next rest hreverse =>
    have hlast : s.getLast? = some '\n' := by
      rw [← List.head?_reverse, hreverse, List.head?_cons]
    cases h '\n' hlast
  · rfl

/-! ### Truth values -/

/-- The words that are true in vocabularies, -/
def trueWords : List Text :=
  ["true".toList, "True".toList, "TRUE".toList]

/-- those that are false, -/
def falseWords : List Text :=
  ["false".toList, "False".toList, "FALSE".toList]

/-- and both. -/
def truthWords : List Text :=
  trueWords ++ falseWords

/-- The truth values of the format. -/
def formatTruthWords : List Text :=
  ["yes".toList, "Yes".toList, "YES".toList, "no".toList, "No".toList, "NO".toList,
   "true".toList, "True".toList, "TRUE".toList, "false".toList, "False".toList,
   "FALSE".toList, "on".toList, "On".toList, "ON".toList, "off".toList, "Off".toList,
   "OFF".toList]

/-- The rules that both lists have. -/
def commonRules : List ResolutionRule :=
  standardRules.filter fun rule => rule.tag ≠ .bool

theorem standardRules_eq : standardRules = standardTruthRule :: commonRules :=
  rfl

theorem vocabularyRules_eq : vocabularyRules = commonRules ++ [vocabularyTruthRule] :=
  rfl

/-- A truth value of the format has a form of its own: it is no other scalar. -/
theorem formatTruthWords_disjoint :
    (formatTruthWords.all fun w => !w.isEmpty &&
      commonRules.all fun rule => !(rule.leads.contains w.head? && rule.accepts w)) = true := by
  rfl

/-- The words of vocabularies are among those of the format, and the narrower rule leads with the
first letters of them. -/
theorem truthWords_subset :
    (truthWords.all fun w => !w.isEmpty && vocabularyTruthRule.leads.contains w.head? &&
      standardTruthRule.leads.contains w.head? && formatTruthWords.contains w) = true := by
  rfl

/-- None of the other rules takes a truth value of the format. -/
theorem not_isTakenBy_of_truth {s : Text} (h : isTakenBy s standardTruthRule) :
    ∀ rule ∈ commonRules, isTakenBy s rule = false := by
  intro rule hrule
  rw [isTakenBy, Bool.and_eq_true] at h
  have hword : withoutFinalBreak s ∈ formatTruthWords := List.contains_iff_mem.mp h.2
  have hall := List.all_eq_true.mp formatTruthWords_disjoint _ hword
  rw [Bool.and_eq_true, Bool.not_eq_true', List.isEmpty_eq_false_iff] at hall
  rw [isTakenBy, ← head?_withoutFinalBreak hall.1]
  exact (Bool.not_eq_true' _).mp (List.all_eq_true.mp hall.2 rule hrule)

/-- The rule of vocabularies takes the six words and no other text. -/
theorem isTakenBy_vocabularyTruthRule_iff {s : Text} :
    isTakenBy s vocabularyTruthRule ↔ withoutFinalBreak s ∈ truthWords := by
  rw [isTakenBy, Bool.and_eq_true]
  constructor
  · exact fun h => List.contains_iff_mem.mp h.2
  · intro h
    have hall := List.all_eq_true.mp truthWords_subset _ h
    simp only [Bool.and_eq_true, Bool.not_eq_true', List.isEmpty_eq_false_iff] at hall
    exact ⟨head?_withoutFinalBreak hall.1.1.1 ▸ hall.1.1.2, List.contains_iff_mem.mpr h⟩

/-- What the rule of vocabularies takes, that of the format takes too. -/
theorem isTakenBy_standardTruthRule_of_mem {s : Text} (h : withoutFinalBreak s ∈ truthWords) :
    isTakenBy s standardTruthRule := by
  have hall := List.all_eq_true.mp truthWords_subset _ h
  simp only [Bool.and_eq_true, Bool.not_eq_true', List.isEmpty_eq_false_iff] at hall
  rw [isTakenBy, Bool.and_eq_true]
  exact ⟨head?_withoutFinalBreak hall.1.1.1 ▸ hall.1.2, hall.2⟩

/-- No other rule gives truth values. -/
theorem tag_ne_bool_of_mem_commonRules {rule : ResolutionRule} (h : rule ∈ commonRules) :
    rule.tag ≠ .bool :=
  of_decide_eq_true (List.mem_filter.mp h).2

/-- The format reads a truth value exactly where its own rule takes the text. -/
theorem resolve_standardRules_eq_bool_iff {s : Text} :
    resolve standardRules s = .bool ↔ isTakenBy s standardTruthRule := by
  constructor
  · intro h
    rcases resolve_eq_or standardRules s with hstr | ⟨rule, hmem, htakes, htag⟩
    · rw [h] at hstr
      cases hstr
    · rcases List.mem_cons.mp (standardRules_eq ▸ hmem) with rfl | hmem
      · exact htakes
      · exact absurd (htag.trans h) (tag_ne_bool_of_mem_commonRules hmem)
  · intro h
    rw [resolve_eq, standardRules_eq, List.find?_cons_of_pos h]
    rfl

/-- **A text that is no truth value of the format keeps its tag.** -/
theorem resolve_vocabularyRules_of_ne_bool {s : Text} (h : resolve standardRules s ≠ .bool) :
    resolve vocabularyRules s = resolve standardRules s := by
  have hstandard : ¬ isTakenBy s standardTruthRule := resolve_standardRules_eq_bool_iff.not.mp h
  have hvocabulary : ¬ isTakenBy s vocabularyTruthRule := fun htakes =>
    hstandard (isTakenBy_standardTruthRule_of_mem (isTakenBy_vocabularyTruthRule_iff.mp htakes))
  rw [resolve_eq, resolve_eq, vocabularyRules_eq, standardRules_eq, List.find?_append,
    List.find?_cons_of_neg hstandard, List.find?_cons_of_neg hvocabulary, List.find?_nil,
    Option.or_none]

/-- **And one that is a truth value of the format** stays one if it is among the six words, and
becomes a text otherwise. -/
theorem resolve_vocabularyRules_of_bool {s : Text} (h : resolve standardRules s = .bool) :
    (withoutFinalBreak s ∈ truthWords → resolve vocabularyRules s = .bool) ∧
      (withoutFinalBreak s ∉ truthWords → resolve vocabularyRules s = .str) := by
  have hcommon := not_isTakenBy_of_truth (resolve_standardRules_eq_bool_iff.mp h)
  have hfind : commonRules.find? (isTakenBy s) = none :=
    List.find?_eq_none.mpr fun rule hrule => Bool.eq_false_iff.mp (hcommon rule hrule)
  rw [resolve_eq, vocabularyRules_eq, List.find?_append, hfind, Option.none_or,
    ← isTakenBy_vocabularyTruthRule_iff]
  constructor
  · intro hword
    rw [List.find?_cons_of_pos hword]
    rfl
  · intro hword
    rw [List.find?_cons_of_neg hword]
    rfl

/-! ### Words -/

/-- An ASCII letter. -/
def isLetter (c : Char) : Bool :=
  ('A' ≤ c && c ≤ 'Z') || ('a' ≤ c && c ≤ 'z')

/-- The absent values that are written in letters. -/
def absentWords : List Text :=
  ["null".toList, "Null".toList, "NULL".toList]

/-- Of the rules that both lists have, only that for absent values leads with letters. -/
theorem commonRules_lead :
    (commonRules.all fun rule => rule.tag = .null ||
      rule.leads.all fun lead => !goesOn isLetter lead) = true := by
  rfl

/-- That rule accepts the tilde and the empty text besides words. -/
theorem accepts_of_tag_eq_null {rule : ResolutionRule} (h : rule ∈ commonRules)
    (htag : rule.tag = .null) (s : Text) :
    rule.accepts s = ("~".toList :: (absentWords ++ [[]])).contains s := by
  change rule ∈ [_, _, _, _, _, _, _] at h
  simp only [List.mem_cons, List.not_mem_nil, or_false] at h
  rcases h with rfl | rfl | rfl | rfl | rfl | rfl | rfl <;> first | rfl | cases htag

theorem mem_absentWords_of_isTakenBy {s : Text} (hfirm : EndsFirmly s)
    (hletter : goesOn isLetter s.head?) {rule : ResolutionRule} (hrule : rule ∈ commonRules)
    (h : isTakenBy s rule) : s ∈ absentWords := by
  rw [isTakenBy, Bool.and_eq_true, withoutFinalBreak_eq_self hfirm] at h
  have hlead := List.all_eq_true.mp commonRules_lead rule hrule
  rcases (Bool.or_eq_true _ _).mp hlead with htag | hlead
  · have haccepts := h.2
    rw [accepts_of_tag_eq_null hrule (of_decide_eq_true htag), List.contains_iff_mem] at haccepts
    rcases List.mem_cons.mp haccepts with rfl | haccepts
    · cases hletter
    · rcases List.mem_append.mp haccepts with haccepts | haccepts
      · exact haccepts
      · rw [List.mem_singleton.mp haccepts] at hletter
        cases hletter
  · have hno := List.all_eq_true.mp hlead s.head? (List.contains_iff_mem.mp h.1)
    rw [hletter] at hno
    cases hno

/-- No text is resolved to a collection. -/
theorem isCollection_resolve (s : Text) : (resolve vocabularyRules s).isCollection = false := by
  have hall : (vocabularyRules.all fun rule => !rule.tag.isCollection) = true := by rfl
  rcases resolve_eq_or vocabularyRules s with h | ⟨rule, hmem, -, h⟩
  · rw [h]
    rfl
  · rw [← h]
    exact Bool.not_eq_true' _ ▸ List.all_eq_true.mp hall rule hmem

theorem resolve_of_mem_absentWords {s : Text} (h : s ∈ absentWords) :
    resolve vocabularyRules s = .null := by
  have hall : (absentWords.all fun w => resolve vocabularyRules w = .null) = true := by rfl
  exact of_decide_eq_true (List.all_eq_true.mp hall s h)

theorem resolve_of_mem_truthWords {s : Text} (h : s ∈ truthWords) :
    resolve vocabularyRules s = .bool := by
  have hall : (truthWords.all fun w => resolve vocabularyRules w = .bool) = true := by rfl
  exact of_decide_eq_true (List.all_eq_true.mp hall s h)

/-- **Any other word is a text.** -/
theorem resolve_of_letter {s : Text} (hfirm : EndsFirmly s) (hletter : goesOn isLetter s.head?)
    (habsent : s ∉ absentWords) (htruth : s ∉ truthWords) : resolve vocabularyRules s = .str := by
  rcases resolve_eq_or vocabularyRules s with hstr | ⟨rule, hmem, htaken, -⟩
  · exact hstr
  · rw [vocabularyRules_eq] at hmem
    rcases List.mem_append.mp hmem with hmem | hmem
    · exact absurd (mem_absentWords_of_isTakenBy hfirm hletter hmem htaken) habsent
    · rw [List.mem_singleton.mp hmem, isTakenBy_vocabularyTruthRule_iff,
        withoutFinalBreak_eq_self hfirm] at htaken
      exact absurd htaken htruth

theorem readTruth_of_mem {s : Text} (h : s ∈ truthWords) :
    readTruth s = .ok (.bool (trueWords.contains s)) := by
  change s ∈ [_, _, _, _, _, _] at h
  simp only [List.mem_cons, List.not_mem_nil, or_false] at h
  rcases h with rfl | rfl | rfl | rfl | rfl | rfl <;> rfl

/-! ### Loading -/

/-- What a plain scalar that begins with a letter is loaded as. -/
def wordValue (s : Text) : Value :=
  match resolve vocabularyRules s with
  | .null => .null
  | .bool => .bool (trueWords.contains s)
  | _ => .text s

theorem wordValue_of_mem_absentWords {s : Text} (h : s ∈ absentWords) : wordValue s = .null := by
  rw [wordValue, resolve_of_mem_absentWords h]

theorem wordValue_of_mem_truthWords {s : Text} (h : s ∈ truthWords) :
    wordValue s = .bool (trueWords.contains s) := by
  rw [wordValue, resolve_of_mem_truthWords h]

section Words

variable {s : Text} (hfirm : EndsFirmly s) (hletter : goesOn isLetter s.head?)
include hfirm hletter

theorem wordValue_of_letter (habsent : s ∉ absentWords) (htruth : s ∉ truthWords) :
    wordValue s = .text s := by
  rw [wordValue, resolve_of_letter hfirm hletter habsent htruth]

/-- A word is a truth value where it is one of the six words, -/
theorem exists_wordValue_eq_bool_iff : (∃ b, wordValue s = .bool b) ↔ s ∈ truthWords := by
  constructor
  · rintro ⟨b, h⟩
    by_contra htruth
    by_cases habsent : s ∈ absentWords
    · cases (wordValue_of_mem_absentWords habsent).symm.trans h
    · cases (wordValue_of_letter hfirm hletter habsent htruth).symm.trans h
  · exact fun h => ⟨_, wordValue_of_mem_truthWords h⟩

/-- and absent where it says so. -/
theorem wordValue_eq_null_iff : wordValue s = .null ↔ s ∈ absentWords := by
  constructor
  · intro h
    by_contra habsent
    by_cases htruth : s ∈ truthWords
    · cases (wordValue_of_mem_truthWords htruth).symm.trans h
    · cases (wordValue_of_letter hfirm hletter habsent htruth).symm.trans h
  · exact wordValue_of_mem_absentWords

/-- The scalar that a word is resolved to is read as the value of the word. -/
theorem readAsScalar_word (id : Nat) (texts : List Nat) :
    (Node.scalar id (resolve vocabularyRules s) s).readAsScalar texts = .ok (wordValue s) := by
  by_cases habsent : s ∈ absentWords
  · rw [resolve_of_mem_absentWords habsent, wordValue_of_mem_absentWords habsent]
    rfl
  · by_cases htruth : s ∈ truthWords
    · rw [resolve_of_mem_truthWords htruth, wordValue_of_mem_truthWords htruth]
      exact readTruth_of_mem htruth
    · rw [resolve_of_letter hfirm hletter habsent htruth,
        wordValue_of_letter hfirm hletter habsent htruth]
      rfl

end Words

namespace Node

/-- A name that was not given yet is taken. -/
theorem reserve_of_new {r : Reader} {word : Text} (h : r.anchors.lookup word = none) :
    (reserve (some word)).run r = .ok ((), { r with anchors := (word, none) :: r.anchors }) := by
  unfold reserve
  dsimp only
  rw [StateT.run_bind]
  change (if (r.anchors.lookup word).isSome then composeFault else _ : Reading Unit).run r = _
  rw [h]
  rfl

/-- A plain scalar decides how its node is read, but for its name. -/
theorem readNode_scalar {r : Reader} {s : Text} {anchor : Option Text} {rest : List Token}
    (h : r.tokens = anchor.toList.map .anchor ++ .scalar s true :: rest)
    (block indentless : Bool) (fuel : Nat) :
    (readNode block indentless (fuel + 1)).run r
      = (reserve anchor).run { r with tokens := rest } >>= fun p =>
          (do
            let node ← newScalar none s true
            fill anchor node
            return node : Reading Node).run p.2 := by
  obtain ⟨rules, tokens, fault, handles, anchors, fresh, cyclic⟩ := r
  obtain rfl : tokens = anchor.toList.map .anchor ++ .scalar s true :: rest := h
  cases anchor <;> cases indentless <;> rfl

/-- A plain scalar without a tag makes a node with the tag that the rules give. -/
theorem readNode_plain {r : Reader} {s : Text} {anchor : Option Text} {rest : List Token}
    (htokens : r.tokens = anchor.toList.map .anchor ++ .scalar s true :: rest)
    (hnew : ∀ word ∈ anchor, r.anchors.lookup word = none) (block indentless : Bool) (fuel : Nat) :
    ∃ r', (readNode block indentless (fuel + 1)).run r
      = .ok (.scalar r.fresh (resolve r.rules s) s, r') ∧ r'.tokens = rest := by
  rw [readNode_scalar htokens]
  cases anchor with
  | none => exact ⟨_, rfl, rfl⟩
  | some word =>
    rw [reserve_of_new (r := { r with tokens := rest }) (hnew word rfl)]
    exact ⟨_, rfl, rfl⟩

end Node

/-- A plain scalar without a tag is loaded as a value. -/
structure LoadsAs (s : Text) (v : Value) : Prop where
  /-- its token, which a name may stand before, makes a node with the tag that the rules of
  vocabularies give, -/
  isRead : ∀ (r : Node.Reader) (anchor : Option Text) (rest : List Token) (block indentless : Bool)
    (fuel : Nat), r.rules = vocabularyRules →
      r.tokens = anchor.toList.map .anchor ++ .scalar s true :: rest →
        (∀ word ∈ anchor, r.anchors.lookup word = none) →
          ∃ r', (Node.readNode block indentless (fuel + 1)).run r
            = .ok (.scalar r.fresh (resolve vocabularyRules s) s, r') ∧ r'.tokens = rest
  /-- the node is read as the value, -/
  isMade : ∀ (id : Nat) (texts : List Nat),
    (Node.scalar id (resolve vocabularyRules s) s).readAsScalar texts = .ok v
  /-- and so it has this value in every document whose value is put together from it -/
  stands : ∀ (document : Text) (n : Node) (made : Making) (id : Nat),
    Node.ofText vocabularyRules document = .ok (some n) → n.make.run .initial = .ok ((), made) →
      n.TakesPart (.scalar id (resolve vocabularyRules s) s) →
        (Node.scalar id (resolve vocabularyRules s) s).value made.scalars = v

theorem loadsAs_wordValue {s : Text} (hfirm : EndsFirmly s) (hletter : goesOn isLetter s.head?) :
    LoadsAs s (wordValue s) where
  isRead r anchor rest block indentless fuel hrules htokens hnew :=
    hrules ▸ Node.readNode_plain htokens hnew block indentless fuel
  isMade := readAsScalar_word hfirm hletter
  stands document n made id hnode hmade hpart := by
    obtain ⟨texts, hread⟩ := Node.readAsScalar_of_make hnode hmade hpart (isCollection_resolve s)
    rw [readAsScalar_word hfirm hletter] at hread
    exact (Except.ok.inj hread).symm

/-! ### Attribute tokens -/

/-- A text that begins with a letter is no pattern, so as a specification it is its own token. -/
theorem typeText_of_letter {s : Text} (hletter : goesOn isLetter s.head?) :
    ∃ spec, ValueSpec.ofValue (.text s) = .ok spec ∧ spec.typeText = .ok (Text.quote s) := by
  have hpattern : ValueSpec.isPatternToken s = false := by
    cases s with
    | nil => rfl
    | cons c rest =>
      have hslash : c ≠ '/' := by
        rintro rfl
        cases hletter
      simp [ValueSpec.isPatternToken, hslash]
  refine ⟨.literal s false, ?_, ?_⟩
  · rw [ValueSpec.ofValue, hpattern]
  · have hreduced : (ValueSpec.literal s false).typeExpr = .ok ⟨[], [s], false⟩ := by
      rw [ValueSpec.typeExpr, ValueSpec.size, ValueSpec.reduceQueue]
      rfl
    rw [ValueSpec.typeText, hreduced]
    exact congrArg Except.ok List.intercalate_singleton

/-- The text of a plain scalar of some document, or of one that is left out. -/
def IsPlainText (s : Text) : Prop :=
  s = [] ∨ ∃ document, Token.scalar s true ∈ (tokens document).1

theorem IsPlainText.endsFirmly {s : Text} (h : IsPlainText s) : EndsFirmly s := by
  rcases h with rfl | ⟨document, h⟩
  · exact endsFirmly_nil
  · exact endsFirmly_of_mem_tokens h

/-- **The rules of vocabularies change truth values only.** -/
theorem resolution_changesTruthsOnly {s : Text} (h : IsPlainText s) :
    (resolve standardRules s ≠ .bool → resolve vocabularyRules s = resolve standardRules s) ∧
    (resolve standardRules s = .bool →
      (resolve vocabularyRules s = .bool ↔ s ∈ truthWords) ∧
        (s ∉ truthWords → resolve vocabularyRules s = .str)) ∧
    (goesOn isLetter s.head? →
      ∃ v, LoadsAs s v ∧ ((∃ b, v = .bool b) ↔ s ∈ truthWords) ∧ (v = .null ↔ s ∈ absentWords) ∧
        (s ∉ truthWords → s ∉ absentWords → v = .text s ∧
          ∃ spec, ValueSpec.ofValue v = .ok spec ∧ spec.typeText = .ok (Text.quote s))) := by
  refine ⟨resolve_vocabularyRules_of_ne_bool, fun hbool => ?_, fun hletter => ?_⟩
  · obtain ⟨htruth, htext⟩ := resolve_vocabularyRules_of_bool hbool
    rw [withoutFinalBreak_eq_self h.endsFirmly] at htruth htext
    refine ⟨⟨fun htag => ?_, htruth⟩, htext⟩
    by_contra hword
    cases (htext hword).symm.trans htag
  · have hfirm := h.endsFirmly
    refine ⟨wordValue s, loadsAs_wordValue hfirm hletter,
      exists_wordValue_eq_bool_iff hfirm hletter, wordValue_eq_null_iff hfirm hletter, ?_⟩
    intro htruth habsent
    rw [wordValue_of_letter hfirm hletter habsent htruth]
    exact ⟨rfl, typeText_of_letter hletter⟩

/-- The word that answers a question: a truth value of the format, a text in vocabularies. -/
theorem resolution_changesTruthsOnly_yes : IsPlainText "yes".toList ∧
    resolve standardRules "yes".toList = .bool ∧ goesOn isLetter "yes".toList.head? ∧
    resolve vocabularyRules "yes".toList = .str ∧ LoadsAs "yes".toList (.text "yes".toList) := by
  have hplain : IsPlainText "yes".toList :=
    .inr ⟨"yes".toList, List.contains_iff_mem.mp (by rfl)⟩
  obtain ⟨-, htruth, hloads⟩ := resolution_changesTruthsOnly hplain
  have hno : "yes".toList ∉ truthWords := by decide
  obtain ⟨v, hloads, -, -, htext⟩ := hloads rfl
  obtain ⟨rfl, -⟩ := htext hno (by decide)
  exact ⟨hplain, rfl, rfl, (htruth rfl).2 hno, hloads⟩

/-- The tokens that are truth values of the format stay tokens, beside a truth value and an absent
one. -/
example : ((loadVocabularyText "[on, No, TRUE, Null]".toList).toOption.map fun v => decide
    (v.Alike (.list [.text "on".toList, .text "No".toList, .bool true, .null]))) = some true := by
  decide +kernel

end DomBindings.Yaml
