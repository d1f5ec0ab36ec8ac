import DomBindings.Declarations.Preamble
import DomBindings.Proofs.DocComment
import DomBindings.Proofs.Traversal
import DomBindings.Vocabulary.Reader

/-!
# The preamble as a comment

The preamble of a module says in line comments where the module comes from. What it says is taken as
it stands, so the preamble is a comment just as far as the texts in it allow: a line feed in one of
them begins a line of its own, which must begin with slashes itself (`StaysInComment`). Between the
texts and the end of a line stand only blanks and parentheses, and these make no such beginning
(`staysInComment_append`). A text without line feeds always stays in its comment.
-/

namespace DomBindings

open Traversal

namespace Text

/-! ### Lines -/

/-- What a line comment begins with. -/
def lineComment : Text :=
  "//".toList

@[simp] theorem lineComment_cons_cons_iff {c d : Char} {s : Text} :
    lineComment <+: c :: d :: s ↔ c = '/' ∧ d = '/' := by
  simp [lineComment, eq_comm]

@[simp] theorem lineComment_ne_nil : lineComment ≠ [] := by
  decide

@[simp] theorem not_lineComment_singleton (c : Char) : ¬ lineComment <+: [c] :=
  fun h => absurd h.length_le (by simp [lineComment])

/-- The lines of a text all begin as line comments do. -/
def IsLineComments (s : Text) : Prop :=
  ∀ line ∈ splitOn '\n' s, lineComment <+: line

/-- The lines of a text behind the first all begin as line comments do. -/
def StaysInComment (s : Text) : Prop :=
  ∀ line ∈ (splitOn '\n' s).tail, lineComment <+: line

/-- The pieces of a text that begins with something other than the separating character. -/
theorem splitOn_cons_of_ne {sep c : Char} (h : c ≠ sep) (s : Text) :
    splitOn sep (c :: s)
      = (c :: (splitOn sep s).headD []) :: (splitOn sep s).tail := by
  rw [splitOn, if_neg h]
  cases splitOn sep s <;> rfl

theorem splitOn_ne_nil (sep : Char) (s : Text) : splitOn sep s ≠ [] := by
  cases s with
  | nil => exact List.cons_ne_nil _ _
  | cons c s =>
    by_cases h : c = sep
    · simp [splitOn, h]
    · simp [splitOn_cons_of_ne h]

/-- Texts with the separating character in between have the pieces of both. -/
theorem splitOn_append_cons (sep : Char) (s t : Text) :
    splitOn sep (s ++ sep :: t) = splitOn sep s ++ splitOn sep t := by
  induction s with
  | nil => simp [splitOn]
  | cons c s ih =>
    by_cases h : c = sep
    · simp [splitOn, h, ih]
    · obtain ⟨piece, pieces, hs⟩ := List.exists_cons_of_ne_nil (splitOn_ne_nil sep s)
      rw [List.cons_append, splitOn_cons_of_ne h, splitOn_cons_of_ne h, ih, hs]
      rfl

/-- The lines of joined texts are the lines of the texts. -/
theorem splitOn_joinLines {ls : List Text} (h : ls ≠ []) :
    splitOn '\n' (joinLines ls) = ls.flatMap (splitOn '\n') := by
  induction ls with
  | nil => exact absurd rfl h
  | cons l ls ih =>
    cases ls with
    | nil => simp [joinLines]
    | cons l' ls =>
      rw [joinLines, List.intercalate_cons_cons, List.append_assoc, List.singleton_append,
        splitOn_append_cons, List.flatMap_cons]
      exact congrArg _ (ih (List.cons_ne_nil _ _))

/-- So joined texts are line comments if each of them is. -/
theorem isLineComments_joinLines_iff {ls : List Text} (h : ls ≠ []) :
    IsLineComments (joinLines ls) ↔ ∀ l ∈ ls, IsLineComments l := by
  rw [IsLineComments, splitOn_joinLines h]
  simp only [List.mem_flatMap, forall_exists_index, and_imp, IsLineComments]
  exact forall_comm.trans (forall_congr' fun _ => forall_comm)

/-! ### Texts in line comments -/

/-- A line comment is begun in the first line of a text just if it is begun in the text. -/
theorem lineComment_headD_splitOn_iff (s : Text) :
    lineComment <+: (splitOn '\n' s).headD [] ↔ lineComment <+: s := by
  have hfirst : ∀ (c : Char) (s : Text), (splitOn '\n' (c :: s)).headD []
      = if c = '\n' then [] else c :: (splitOn '\n' s).headD [] := by
    intro c s
    split
    · next h => simp [splitOn, h]
    · next h => simp [splitOn_cons_of_ne h]
  rcases s with _ | ⟨c, _ | ⟨d, s⟩⟩
  · simp [splitOn]
  · rw [hfirst]
    split <;> simp [splitOn]
  · rw [hfirst, hfirst]
    by_cases hc : c = '\n'
    · simp [hc]
    · by_cases hd : d = '\n' <;> simp [hc, hd]

theorem staysInComment_nil : StaysInComment [] :=
  fun _ h => nomatch h

/-- What is behind a line feed must begin as a line comment does. -/
theorem staysInComment_cons_iff {c : Char} {s : Text} :
    StaysInComment (c :: s) ↔ (c = '\n' → lineComment <+: s) ∧ StaysInComment s := by
  obtain ⟨piece, pieces, hs⟩ := List.exists_cons_of_ne_nil (splitOn_ne_nil '\n' s)
  by_cases h : c = '\n'
  · have hfirst := lineComment_headD_splitOn_iff s
    rw [hs] at hfirst
    simp [StaysInComment, splitOn, h, hs, ← hfirst]
  · simp [StaysInComment, splitOn_cons_of_ne h, h]

/-- A text without line feeds stays in its comment. -/
theorem staysInComment_of_not_mem {s : Text} (h : '\n' ∉ s) : StaysInComment s := by
  induction s with
  | nil => exact staysInComment_nil
  | cons c s ih =>
    rw [List.mem_cons, not_or] at h
    exact staysInComment_cons_iff.mpr ⟨fun hc => absurd hc.symm h.1, ih h.2⟩

/-- Two texts stay in their comment together as each does for itself, unless the second one adds a
slash to the first. -/
theorem staysInComment_append {s t : Text} (ht : t.head? ≠ some '/') :
    StaysInComment (s ++ t) ↔ StaysInComment s ∧ StaysInComment t := by
  induction s with
  | nil => simp [staysInComment_nil]
  | cons c s ih =>
    have hbegins : lineComment <+: s ++ t ↔ lineComment <+: s := by
      rcases s with _ | ⟨a, _ | ⟨b, s⟩⟩
      · rcases t with _ | ⟨d, _ | ⟨e, t⟩⟩ <;> simp_all
      · cases t <;> simp_all
      · simp
    rw [List.cons_append, staysInComment_cons_iff, staysInComment_cons_iff, ih, hbegins, and_assoc]

/-- What is in front of the first line feed does not matter. -/
theorem staysInComment_append_of_not_mem {s : Text} (hs : '\n' ∉ s) (t : Text) :
    StaysInComment (s ++ t) ↔ StaysInComment t := by
  induction s with
  | nil => rfl
  | cons c s ih =>
    rw [List.mem_cons, not_or] at hs
    rw [List.cons_append, staysInComment_cons_iff, ih hs.2]
    exact and_iff_right fun hc => absurd hc.symm hs.1

/-- A text is line comments if it begins as one does and stays in it. -/
theorem isLineComments_iff (s : Text) :
    IsLineComments s ↔ lineComment <+: s ∧ StaysInComment s := by
  obtain ⟨first, rest, hs⟩ := List.exists_cons_of_ne_nil (splitOn_ne_nil '\n' s)
  have hfirst := lineComment_headD_splitOn_iff s
  rw [hs, List.headD_cons] at hfirst
  rw [IsLineComments, hs, List.forall_mem_cons, hfirst, StaysInComment, hs, List.tail_cons]

/-- A template that begins as a line comment does is one with a text that stays in it. -/
theorem isLineComments_append_iff {template : Text} (htemplate : lineComment <+: template)
    (hfeed : '\n' ∉ template) (s : Text) :
    IsLineComments (template ++ s) ↔ StaysInComment s := by
  rw [isLineComments_iff, staysInComment_append_of_not_mem hfeed]
  exact and_iff_right (htemplate.trans (List.prefix_append _ _))

/-! ### Trimmed texts -/

/-- A text that does not begin with white space. -/
def BeginsInk (s : Text) : Prop :=
  ∀ c, s.head? = some c → isBlank c = false

theorem beginsInk_nil : BeginsInk [] := by
  simp [BeginsInk]

theorem beginsInk_trim (s : Text) : BeginsInk (trim s) := by
  intro c hc
  obtain ⟨rest, hrest⟩ := DocComment.isPrefix_trimEnd (trimStart s)
  have hhead : (trimStart s).head? = some c := by
    rw [← hrest, List.head?_append, show trimEnd (trimStart s) = trim s from rfl, hc]
    rfl
  have hdrop := List.head?_dropWhile_not isBlank s
  rw [show s.dropWhile isBlank = trimStart s from rfl, hhead] at hdrop
  simpa using hdrop

end Text

namespace Provenance

open Text

/-- A standard stays in its comment as its reference and its date do. -/
theorem staysInComment_standard_iff {version : Version} (href : BeginsInk version.ref) :
    StaysInComment (standard version) ↔
      StaysInComment version.ref ∧ StaysInComment version.pubdate := by
  obtain ⟨ref, pubdate⟩ := version
  have hdate : StaysInComment ('(' :: (pubdate ++ [')'])) ↔ StaysInComment pubdate := by
    rw [staysInComment_cons_iff, staysInComment_append (by decide)]
    simp [staysInComment_cons_iff, staysInComment_nil]
  by_cases hpubdate : pubdate = []
  · simp [standard, hpubdate, staysInComment_nil]
  · have hend : ∀ s : Text, trimEnd (s ++ [')']) = s ++ [')'] := fun s =>
      trimEnd_append_cons s (by decide) []
    have hstandard : standard ⟨ref, pubdate⟩
        = trim (ref ++ " (".toList ++ pubdate ++ [')']) := by
      simp [standard, hpubdate]
    cases ref with
    | nil =>
      have htrim : standard ⟨[], pubdate⟩ = '(' :: (pubdate ++ [')']) := by
        rw [hstandard]
        exact hend ('(' :: pubdate)
      rw [htrim, hdate]
      simp [staysInComment_nil]
    | cons c ref =>
      have htrim : standard ⟨c :: ref, pubdate⟩
          = (c :: ref) ++ (' ' :: '(' :: (pubdate ++ [')'])) := by
        have hstart : trimStart (c :: ref ++ " (".toList ++ pubdate ++ [')'])
            = c :: ref ++ " (".toList ++ pubdate ++ [')'] := by
          rw [List.cons_append, List.cons_append, List.cons_append, trimStart,
            List.dropWhile_cons_of_neg (by simp [href c rfl])]
        rw [hstandard, trim, hstart, hend]
        simp
      rw [htrim, staysInComment_append (by simp), @staysInComment_cons_iff ' ', hdate]
      simp

theorem beginsInk_of_readOptionalText {t : Table Value} {name : String} {s : Text}
    (h : readOptionalText t name = .ok s) : BeginsInk s := by
  rw [readOptionalText] at h
  split at h
  · obtain rfl := Except.ok.inj h
    exact beginsInk_nil
  · obtain rfl := Except.ok.inj h
    exact beginsInk_nil
  · split at h
    · obtain rfl := Except.ok.inj h
      exact beginsInk_trim _
    · cases h

/-- The reference of a standard that is read does not begin with white space. -/
theorem beginsInk_ref_of_ofValue {raw : Value} {v : Vocabulary}
    (h : Vocabulary.ofValue raw = .ok v) : BeginsInk v.version.ref := by
  rw [Vocabulary.ofValue] at h
  obtain ⟨document, -, h⟩ := bind_eq_ok_iff.mp h
  obtain ⟨version, -, h⟩ := bind_eq_ok_iff.mp h
  obtain ⟨elements, -, h⟩ := bind_eq_ok_iff.mp h
  obtain ⟨namespaceUri, -, h⟩ := bind_eq_ok_iff.mp h
  obtain ⟨ref, href, h⟩ := bind_eq_ok_iff.mp h
  obtain ⟨pubdate, -, h⟩ := bind_eq_ok_iff.mp h
  obtain ⟨read, -, h⟩ := bind_eq_ok_iff.mp h
  obtain rfl := Except.ok.inj h
  exact beginsInk_of_readOptionalText href

/-- There is a preamble where the file has a name, and it has lines. -/
theorem exists_preamble {p : Provenance} (h : p.source ≠ []) :
    ∃ preamble, p.preamble? = some preamble ∧ preamble ≠ [] := by
  have hname : p.source.isEmpty = false := List.isEmpty_eq_false_iff.mpr h
  exact ⟨_, by rw [preamble?, hname, if_neg Bool.false_ne_true],
    List.append_ne_nil_of_right_ne_nil _ (List.cons_ne_nil _ _)⟩

/-- The preamble stands in front of the declarations, with an empty line in between. -/
theorem assemble?_eq {p : Provenance} {preamble : List Text} (h : p.preamble? = some preamble)
    (hne : preamble ≠ []) (declarations : List Text) :
    p.assemble? declarations = some (joinLines preamble ++ '\n' ::
      if declarations = [] then [] else '\n' :: joinLines declarations ++ ['\n']) := by
  rw [assemble?, h, Option.map_some]
  by_cases hd : declarations = []
  · simp [hd]
  · have hempty : joinLines ([] :: declarations) = '\n' :: joinLines declarations :=
      joinLines_append (List.cons_ne_nil [] []) hd
    have hsome : declarations.isEmpty = false := List.isEmpty_eq_false_iff.mpr hd
    rw [hsome, if_neg Bool.false_ne_true, if_neg hd,
      joinLines_append hne (List.cons_ne_nil _ _), hempty, List.append_assoc, List.cons_append]

/-- A preamble is line comments if the texts behind its templates stay in their comments. -/
theorem isLineComments_preamble_iff {p : Provenance} {preamble : List Text}
    (h : p.preamble? = some preamble) : IsLineComments (joinLines preamble) ↔
      StaysInComment p.source ∧ StaysInComment (standard p.version) ∧
        StaysInComment p.namespaceUri := by
  have hborder : IsLineComments border := (isLineComments_iff _).mpr
    ⟨by decide +kernel, staysInComment_of_not_mem (by decide +kernel)⟩
  have htitle : IsLineComments "// | DOM element bindings for TypeScript".toList :=
    (isLineComments_iff _).mpr
      ⟨by decide +kernel, staysInComment_of_not_mem (by decide +kernel)⟩
  have hgenerator : IsLineComments "// | Generated by domgen".toList :=
    (isLineComments_iff _).mpr
      ⟨by decide +kernel, staysInComment_of_not_mem (by decide +kernel)⟩
  have hsource := @isLineComments_append_iff "// | Source: ".toList (by decide +kernel)
    (by decide +kernel) p.source
  have hstandard := @isLineComments_append_iff "// | Standard: ".toList (by decide +kernel)
    (by decide +kernel) (standard p.version)
  have hnamespace := @isLineComments_append_iff "// | Namespace: ".toList (by decide +kernel)
    (by decide +kernel) p.namespaceUri
  -- where nothing is known of the standard, it is the empty text, which stays in any comment
  have hunknown : (p.version.ref.isEmpty && p.version.pubdate.isEmpty) = true →
      StaysInComment (standard p.version) := by
    intro hnone
    rw [Bool.and_eq_true, List.isEmpty_iff, List.isEmpty_iff] at hnone
    rw [standard, hnone.1, hnone.2]
    exact staysInComment_nil
  rw [preamble?] at h
  split at h
  · cases h
  · obtain rfl := Option.some.inj h
    generalize border = border at *
    generalize "// | DOM element bindings for TypeScript".toList = title at *
    generalize "// | Generated by domgen".toList = generator at *
    generalize "// | Source: ".toList = sourceTemplate at *
    generalize "// | Standard: ".toList = standardTemplate at *
    generalize "// | Namespace: ".toList = namespaceTemplate at *
    rw [isLineComments_joinLines_iff (by simp)]
    split
    · next hnone => simp [hborder, htitle, hgenerator, hsource, hnamespace, hunknown hnone]
    · simp [hborder, htitle, hgenerator, hsource, hstandard, hnamespace]

/-- The preamble of a module that is made from a vocabulary in a file with a name stands in front of
the declarations, and all its lines are line comments if the name of the file, the identifier of the
document language and both texts of the standard stay in their comments, and only then. -/
theorem preamble_isComment_iff {raw : Value} {v : Vocabulary} {source : Text}
    (h : Vocabulary.ofValue raw = .ok v) (hsource : source ≠ []) (declarations : List Text) :
    ∃ preamble, (ofVocabulary source v).preamble? = some preamble ∧
      (ofVocabulary source v).assemble? declarations = some (joinLines preamble ++ '\n' ::
        if declarations = [] then [] else '\n' :: joinLines declarations ++ ['\n']) ∧
      (IsLineComments (joinLines preamble) ↔
        ∀ s ∈ [source, v.namespaceUri, v.version.ref, v.version.pubdate], StaysInComment s) := by
  obtain ⟨preamble, hpreamble, hne⟩ := @exists_preamble (ofVocabulary source v) hsource
  refine ⟨preamble, hpreamble, assemble?_eq hpreamble hne declarations, ?_⟩
  have hstandard := staysInComment_standard_iff (beginsInk_ref_of_ofValue h)
  rw [isLineComments_preamble_iff hpreamble]
  simp only [ofVocabulary, hstandard, List.forall_mem_cons, List.not_mem_nil, false_imp_iff,
    implies_true, and_true]
  constructor
  · rintro ⟨hs, ⟨href, hpubdate⟩, hnamespace⟩
    exact ⟨hs, hnamespace, href, hpubdate⟩
  · rintro ⟨hs, hnamespace, href, hpubdate⟩
    exact ⟨hs, ⟨href, hpubdate⟩, hnamespace⟩

/-- A document with this text for the identifier of the document language, and with a standard. -/
def documentOf (namespaceUri : Text) : Value :=
  .map [(.text "namespace".toList, .text namespaceUri),
    (.text "version".toList, .map [(.text "ref".toList, .text " https://x/ ".toList),
      (.text "pubdate".toList, .text "2023-01-01".toList)])]

/-- The vocabulary of that document. -/
def vocabularyOf (namespaceUri : Text) : Vocabulary where
  namespaceUri := namespaceUri
  version := ⟨"https://x/".toList, "2023-01-01".toList⟩
  elements := .empty

/-- So it is for a document with a standard. -/
theorem preamble_isComment_iff_dated :
    Vocabulary.ofValue (documentOf "urn:x".toList) = .ok (vocabularyOf "urn:x".toList) ∧
      "x.yaml".toList ≠ [] ∧
      ∃ preamble, (ofVocabulary "x.yaml".toList (vocabularyOf "urn:x".toList)).preamble?
          = some preamble ∧
        (ofVocabulary "x.yaml".toList (vocabularyOf "urn:x".toList)).assemble? []
          = some (joinLines preamble ++ '\n' ::
            if ([] : List Text) = [] then [] else '\n' :: joinLines [] ++ ['\n']) ∧
        (IsLineComments (joinLines preamble) ↔
          ∀ s ∈ ["x.yaml".toList, (vocabularyOf "urn:x".toList).namespaceUri,
            (vocabularyOf "urn:x".toList).version.ref,
            (vocabularyOf "urn:x".toList).version.pubdate], StaysInComment s) := by
  have h : Vocabulary.ofValue (documentOf "urn:x".toList) = .ok (vocabularyOf "urn:x".toList) := rfl
  exact ⟨h, by decide, preamble_isComment_iff h (by decide) []⟩

/-- A document is read that has a line feed in the identifier of its language, and the preamble of
its module has a line that is no comment. -/
theorem preamble_not_isComment_lineFeed :
    Vocabulary.ofValue (documentOf "urn:x\nalert(1)".toList)
        = .ok (vocabularyOf "urn:x\nalert(1)".toList) ∧
      ∃ preamble, (ofVocabulary "x.yaml".toList (vocabularyOf "urn:x\nalert(1)".toList)).preamble?
          = some preamble ∧
        ¬ IsLineComments (joinLines preamble) := by
  obtain ⟨preamble, hpreamble, -⟩ := @exists_preamble
    (ofVocabulary "x.yaml".toList (vocabularyOf "urn:x\nalert(1)".toList)) (by decide)
  refine ⟨rfl, preamble, hpreamble, fun hcomments => ?_⟩
  have hstays := ((isLineComments_preamble_iff hpreamble).mp hcomments).2.2
  exact absurd (hstays "alert(1)".toList (by decide +kernel)) (by decide +kernel)

end Provenance

end DomBindings
