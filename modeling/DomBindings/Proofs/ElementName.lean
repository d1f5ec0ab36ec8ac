import DomBindings.Proofs.Configuration

/-!
# Names that are single words

The element that is to be described must be named by a single word. The check of a name sees a line
feed at its very end as the end of the line and not as a part of the name, so it lets one more kind
of names through: a word with a line feed behind it (`isElementName_iff`). About every other name it
is right. What is let through is taken as it is, so the line feed is still there in the
configuration that is made of the name (`element_of_ofArguments`).
-/

namespace DomBindings

open Traversal

namespace Text

/-! ### Words -/

/-- A single word: there are characters, and none of them is white space. -/
structure IsWord (s : Text) : Prop where
  ne_nil : s ≠ []
  solid : ∀ c ∈ s, isBlank c = false

/-- A word with a line feed behind it. -/
def IsWordLine (s : Text) : Prop :=
  ∃ word : Text, word.IsWord ∧ s = word ++ ['\n']

variable {s : Text}

theorem isWord_iff : (!s.isEmpty && s.all fun c => !isBlank c) = true ↔ s.IsWord := by
  simp only [Bool.and_eq_true, Bool.not_eq_true', List.isEmpty_eq_false_iff, List.all_eq_true]
  exact ⟨fun h => ⟨h.1, h.2⟩, fun h => ⟨h.ne_nil, h.solid⟩⟩

/-- A line feed is white space, so no word has one. -/
theorem IsWord.getLast?_ne (h : s.IsWord) : s.getLast? ≠ some '\n' := by
  intro hlast
  have hblank : isBlank '\n' = false := h.solid _ (List.mem_of_getLast? hlast)
  exact absurd hblank (by decide)

theorem IsWordLine.getLast?_eq (h : s.IsWordLine) : s.getLast? = some '\n' := by
  obtain ⟨word, -, rfl⟩ := h
  exact List.getLast?_concat

theorem IsWordLine.not_isWord (h : s.IsWordLine) : ¬ s.IsWord :=
  fun hword => hword.getLast?_ne h.getLast?_eq

theorem isWordLine_append_iff {word : Text} : IsWordLine (word ++ ['\n']) ↔ word.IsWord := by
  constructor
  · rintro ⟨word', hword', h⟩
    rwa [List.append_cancel_right h]
  · intro hword
    exact ⟨word, hword, rfl⟩

end Text

namespace Config

/-! ### The check of a name -/

variable {name : Text}

/-- The check lets words through, with or without a line feed behind them. -/
theorem isElementName_iff : isElementName name = true ↔ name.IsWord ∨ name.IsWordLine := by
  by_cases hlast : name.getLast? = some '\n'
  · -- what is looked at is the name without its last character
    obtain ⟨word, rfl⟩ := List.getLast?_eq_some_iff.mp hlast
    have hnot : ¬ Text.IsWord (word ++ ['\n']) := fun hword => hword.getLast?_ne hlast
    rw [isElementName, if_pos hlast, List.dropLast_concat, Text.isWord_iff, or_iff_right hnot,
      Text.isWordLine_append_iff]
  · have hnot : ¬ name.IsWordLine := fun hline => hlast hline.getLast?_eq
    rw [isElementName, if_neg hlast, Text.isWord_iff, or_iff_left hnot]

theorem checkElementName_eq_error (h : ¬ (name.IsWord ∨ name.IsWordLine)) :
    checkElementName name = .error (.invalidElementName name) :=
  if_neg (mt isElementName_iff.mp h)

/-! ### The name in a configuration -/

variable {t : FileTree} {a : Arguments} {d : DiscoveryConfig}

/-- The element in the configuration of a report is that in the arguments, and its name has been
checked. If an element is to be described, it is there. -/
theorem element_of_ofArguments (h : ofArguments t a = .ok (.discovery d)) :
    (d.kind = .info → d.element ≠ none) ∧ d.element = a.info ∧
      ∀ name ∈ a.info, isElementName name = true := by
  obtain ⟨-, spec, -, -, hways⟩ := cases_of_ofArguments h
  rcases hways with ⟨hreport, -, hnames, hd⟩ | ⟨-, command, -, hd⟩
  · obtain rfl := Config.discovery.inj hd
    refine ⟨fun hkind => ?_, rfl, hnames⟩
    have hlist : a.listElements = false := by
      cases hlist : a.listElements with
      | false => rfl
      | true => simp [hlist] at hkind
    rw [Arguments.wantsReport, hlist, Bool.false_or] at hreport
    exact Option.isSome_iff_ne_none.mp hreport
  · cases hd

/-- A name in the configuration of a report is of one of the two kinds that are let through. -/
theorem isWord_or_isWordLine_of_element (h : ofArguments t a = .ok (.discovery d))
    (hname : d.element = some name) : name.IsWord ∨ name.IsWordLine := by
  obtain ⟨-, helement, hnames⟩ := element_of_ofArguments h
  exact isElementName_iff.mp (hnames name (helement.symm.trans hname))

/-- Names are checked to be single words: such a name is given back, any other one is refused under
the code for names, and so no element is described under a name that is none. -/
structure ChecksWord (name : Text) : Prop where
  accepts_iff : checkElementName name = .ok name ↔ name.IsWord
  refuses : ¬ name.IsWord → ∃ e, checkElementName name = .error e ∧ e.code = .invalidElementName
  described : ∀ (t : FileTree) (a : Arguments) (d : DiscoveryConfig),
    ofArguments t a = .ok (.discovery d) → d.kind = .info → d.element = some name → name.IsWord

/-- It is so for every name but the words with a line feed behind them. -/
theorem checksWord_iff : ChecksWord name ↔ ¬ name.IsWordLine := by
  constructor
  · intro h hline
    have haccepted : checkElementName name = .ok name :=
      checkElementName_eq_ok_iff.mpr ⟨rfl, isElementName_iff.mpr (.inr hline)⟩
    exact hline.not_isWord (h.accepts_iff.mp haccepted)
  · intro hline
    refine ⟨?_, fun hword => ?_, fun t a d h _ hname => ?_⟩
    · rw [checkElementName_eq_ok_iff, and_iff_right rfl, isElementName_iff, or_iff_left hline]
    · exact ⟨_, checkElementName_eq_error (not_or.mpr ⟨hword, hline⟩), rfl⟩
    · exact (isWord_or_isWordLine_of_element h hname).resolve_right hline

/-- **The name of a described element is a word, but for a line feed behind it.** A name is checked
as it is meant if and only if it is not a word with a line feed behind it: the check gives back
words, and also words with a line feed behind them, and refuses all other names. A configuration
that describes an element has a name for it, and the name is of one of the two kinds. -/
theorem describedName_isWord_or_isWordLine (name : Text) :
    (ChecksWord name ↔ ¬ name.IsWordLine) ∧
    (checkElementName name = .ok name ↔ name.IsWord ∨ name.IsWordLine) ∧
    (¬ (name.IsWord ∨ name.IsWordLine) →
      checkElementName name = .error (.invalidElementName name)) ∧
    ∀ (t : FileTree) (a : Arguments) (d : DiscoveryConfig),
      ofArguments t a = .ok (.discovery d) → (d.kind = .info → d.element ≠ none) ∧
        (d.element = some name → name.IsWord ∨ name.IsWordLine) := by
  refine ⟨checksWord_iff, ?_, checkElementName_eq_error, ?_⟩
  · rw [checkElementName_eq_ok_iff, and_iff_right rfl, isElementName_iff]
  · intro t a d h
    exact ⟨(element_of_ofArguments h).1, isWord_or_isWordLine_of_element h⟩

/-- Arguments that ask for the description of an element and for nothing else. -/
def describing (spec : Path) (name : Text) : Arguments :=
  { Arguments.initial with spec := some spec, info := some name }

/-- Where the vocabulary file is there, an element is described if its name is let through. -/
theorem ofArguments_describing {spec : Path} {name : Text}
    (hleads : t.leadsSomewhere spec = .ok true) (hname : isElementName name = true) :
    ofArguments t (describing spec name) = .ok (.discovery ⟨.info, none, some name, spec⟩) := by
  have hspec : checkPath t (some spec) "--spec".toList (some specAdvice) = .ok spec := by
    rw [checkPath, hleads]
  have hchecked : checkElementName name = .ok name := checkElementName_eq_ok_iff.mpr ⟨rfl, hname⟩
  have hreport : discoveryOf (describing spec name) spec = .ok ⟨.info, none, some name, spec⟩ :=
    bind_eq_ok_iff.mpr ⟨_, map_eq_ok_iff.mpr ⟨name, hchecked, rfl⟩, rfl⟩
  have hfilter : ¬ ((describing spec name).filter.isSome
      && !(describing spec name).listElements) = true := Bool.false_ne_true
  have hboth : ¬ ((describing spec name).wantsGeneration
      && (describing spec name).wantsReport) = true := Bool.false_ne_true
  have hasked : (describing spec name).wantsReport = true := rfl
  rw [ofArguments, if_neg hfilter, if_neg hboth]
  refine bind_eq_ok_iff.mpr ⟨spec, hspec, ?_⟩
  rw [if_pos hasked, hreport]
  rfl

theorem leadsSomewhere_smallTree : smallTree.leadsSomewhere (.ofText "x.yaml".toList) = .ok true :=
  rfl

/-- A word is described under its name. -/
theorem describedName_isWord_or_isWordLine_div :
    ChecksWord "div".toList ∧ ∃ d,
      ofArguments smallTree (describing (.ofText "x.yaml".toList) "div".toList)
        = .ok (.discovery d) ∧
      d.kind = .info ∧ d.element = some "div".toList ∧
      (Text.IsWord "div".toList ∨ Text.IsWordLine "div".toList) := by
  have hword : Text.IsWord "div".toList := Text.isWord_iff.mp (by decide)
  have hc := ofArguments_describing leadsSomewhere_smallTree (isElementName_iff.mpr (.inl hword))
  obtain ⟨hchecks, -, -, hconfig⟩ := describedName_isWord_or_isWordLine "div".toList
  exact ⟨hchecks.mpr fun hline => hline.not_isWord hword, _, hc, rfl, rfl,
    (hconfig _ _ _ hc).2 rfl⟩

/-- A name with a line feed behind it is no word, but it is let through from the arguments into the
configuration, as it is. -/
theorem describedName_not_isWord_lineFeed :
    ¬ ChecksWord "div\n".toList ∧ ∃ a d,
      Arguments.ofTexts (["--spec", "x.yaml", "--info", "div\n"].map String.toList) = .ok a ∧
      ofArguments smallTree a = .ok (.discovery d) ∧ d.kind = .info ∧
      d.element = some "div\n".toList ∧ ¬ Text.IsWord "div\n".toList := by
  have hline : Text.IsWordLine "div\n".toList :=
    ⟨"div".toList, Text.isWord_iff.mp (by decide), by decide⟩
  have ha : Arguments.ofTexts (["--spec", "x.yaml", "--info", "div\n"].map String.toList)
      = .ok (describing (.ofText "x.yaml".toList) "div\n".toList) := by
    rfl
  have hc := ofArguments_describing leadsSomewhere_smallTree (isElementName_iff.mpr (.inr hline))
  exact ⟨fun h => checksWord_iff.mp h hline, _, _, ha, hc, rfl, rfl, hline.not_isWord⟩

end Config

end DomBindings
