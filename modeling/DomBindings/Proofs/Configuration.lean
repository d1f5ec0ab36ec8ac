import DomBindings.CommandLine.Config
import DomBindings.Proofs.Outcome

/-!
# Configurations are complete

Arguments that have been read never ask for both reports: each of the two options looks for the
other when it is taken, and so the invariant is kept by every step (`apply_keeps`). With it, the
checks of a configuration leave only such as have all that their work needs. So two things that the
work is prepared for never come to pass: that an element is to be described and none is named, and
that the command of the formatter has no words (`configuration_complete`).
-/

namespace DomBindings

open Traversal

namespace Arguments

/-! ### What is read from arguments -/

/-- At most one report is asked for, and the vocabulary file is named by a text. -/
structure IsExclusive (a : Arguments) : Prop where
  report : a.listElements = true → a.info = none
  spec : ∃ s, a.spec = some (.ofText s)

theorem isExclusive_initial : initial.IsExclusive :=
  ⟨fun h => absurd h Bool.false_ne_true, _, rfl⟩

variable {a a' : Arguments}

theorem isExclusive_of_takeFlag {o : ProgramOption} (h : a.IsExclusive)
    (ha : takeFlag a o = .ok a') : a'.IsExclusive := by
  cases o with
  | help => cases ha
  | noFormat => exact Except.ok.inj ha ▸ ⟨h.report, h.spec⟩
  | listElements =>
    rw [takeFlag] at ha
    split at ha
    · cases ha
    · next hinfo =>
      exact Except.ok.inj ha ▸ ⟨fun _ => Option.not_isSome_iff_eq_none.mp hinfo, h.spec⟩
  | _ => exact Except.ok.inj ha ▸ h

theorem isExclusive_of_takeValue {value : Text} {o : ProgramOption} (h : a.IsExclusive)
    (ha : takeValue a value o = .ok a') : a'.IsExclusive := by
  cases o with
  | spec => exact Except.ok.inj ha ▸ ⟨h.report, value, rfl⟩
  | info =>
    rw [takeValue] at ha
    split at ha
    · cases ha
    · next hlist => exact Except.ok.inj ha ▸ ⟨fun hlist' => absurd hlist' hlist, h.spec⟩
  | output => exact Except.ok.inj ha ▸ ⟨h.report, h.spec⟩
  | formatter => exact Except.ok.inj ha ▸ ⟨h.report, h.spec⟩
  | filter => exact Except.ok.inj ha ▸ ⟨h.report, h.spec⟩
  | _ => exact Except.ok.inj ha ▸ h

/-- What every option keeps that is taken, the whole reading keeps. -/
theorem apply_keeps {P : Arguments → Prop}
    (hflag : ∀ {a a' o}, P a → takeFlag a o = .ok a' → P a')
    (hvalue : ∀ {a a' value o}, P a → takeValue a value o = .ok a' → P a')
    {extras : List Text} {kinds : List Kind} (h : P a) (ha : apply a extras kinds = .ok a') :
    P a' := by
  fun_induction apply a extras kinds with
  | case1 => exact Except.ok.inj ha ▸ h
  | case3 a extras s rest ih => exact ih h ha
  | case4 a extras s rest ih => exact ih h ha
  | case7 a extras o value rest _ ih | case9 a extras o _ value rest ih =>
    obtain ⟨b, hb, ha⟩ := bind_eq_ok_iff.mp ha
    exact ih b (hvalue h hb) ha
  | case11 a extras o rest _ ih =>
    obtain ⟨b, hb, ha⟩ := bind_eq_ok_iff.mp ha
    exact ih b (hflag h hb) ha
  | _ => cases ha

theorem isExclusive_of_ofTexts {arguments : List Text} (h : ofTexts arguments = .ok a) :
    a.IsExclusive := by
  unfold ofTexts at h
  split at h
  · exact apply_keeps isExclusive_of_takeFlag isExclusive_of_takeValue isExclusive_initial h
  · cases h

end Arguments

/-! ### What is made of them -/

namespace Config

variable {a : Arguments} {t : FileTree} {c : Config}

theorem eq_of_checkPath {p : Option Path} {flag : Text} {advice : Option Text} {spec : Path}
    (h : checkPath t p flag advice = .ok spec) :
    p = some spec ∧ t.leadsSomewhere spec = .ok true := by
  unfold checkPath at h
  split at h
  · cases h
  split at h
  · next hleads =>
    obtain rfl := Except.ok.inj h
    exact ⟨rfl, hleads⟩
  · cases h
  · cases h

theorem checkElementName_eq_ok_iff {name checked : Text} :
    checkElementName name = .ok checked ↔ checked = name ∧ isElementName name = true := by
  rw [checkElementName]
  split
  · next hname =>
    rw [Except.ok.injEq, and_iff_left hname]
    exact eq_comm
  · next hname => exact iff_of_false nofun fun h => hname h.2

/-- The name of an element is taken as it is, if it is taken. -/
theorem eq_of_mapM_checkElementName {info element : Option Text}
    (h : info.mapM checkElementName = .ok element) :
    element = info ∧ ∀ name ∈ info, isElementName name = true := by
  cases info with
  | none => exact ⟨(Except.ok.inj h).symm, nofun⟩
  | some name =>
    obtain ⟨checked, hchecked, helement⟩ := map_eq_ok_iff.mp h
    obtain ⟨rfl, hname⟩ := checkElementName_eq_ok_iff.mp hchecked
    refine ⟨helement.symm, ?_⟩
    rintro _ ⟨⟩
    exact hname

theorem ne_nil_of_readCommand {commandLine : Option Text} {command : List Text}
    (h : readCommand commandLine = .ok command) : command ≠ [] := by
  unfold readCommand at h
  split at h
  · exact Except.ok.inj h ▸ List.cons_ne_nil _ _
  split at h
  · cases h
  · next hne _ => exact Except.ok.inj h ▸ hne
  · cases h

/-- The two ways to a configuration, and the checks on them. -/
theorem cases_of_ofArguments (h : ofArguments t a = .ok c) :
    (a.filter ≠ none → a.listElements = true) ∧
    ∃ spec, a.spec = some spec ∧ t.leadsSomewhere spec = .ok true ∧
      (a.wantsReport = true ∧ a.wantsGeneration = false ∧
          (∀ name ∈ a.info, isElementName name = true) ∧
          c = .discovery ⟨if a.listElements then .listElements else .info, a.filter, a.info, spec⟩ ∨
        a.wantsReport = false ∧ ∃ command, readCommand a.formatter = .ok command ∧
          c = .generate ⟨spec, a.output.getD defaultOutput, !a.noFormat, command⟩) := by
  unfold ofArguments at h
  split at h
  · cases h
  next hfilter =>
  split at h
  · cases h
  next hboth =>
  obtain ⟨spec, hspec, h⟩ := bind_eq_ok_iff.mp h
  obtain ⟨hnamed, hleads⟩ := eq_of_checkPath hspec
  have hlisted : a.filter ≠ none → a.listElements = true := by
    intro hsome
    by_contra hlist
    exact hfilter (by simp [Option.isSome_iff_ne_none.mpr hsome, hlist])
  refine ⟨hlisted, spec, hnamed, hleads, ?_⟩
  split at h
  · next hreport =>
    left
    rw [hreport, Bool.and_true, Bool.not_eq_true] at hboth
    refine ⟨hreport, hboth, ?_⟩
    split at h
    · next d hd =>
      obtain ⟨element, helement, hd⟩ := bind_eq_ok_iff.mp hd
      obtain ⟨rfl, hnames⟩ := eq_of_mapM_checkElementName helement
      refine ⟨hnames, ?_⟩
      rw [← Except.ok.inj h, ← Except.ok.inj hd]
    · cases h
  · next hreport =>
    right
    obtain ⟨g, hg, h⟩ := bind_eq_ok_iff.mp h
    obtain ⟨command, hcommand, hg⟩ := bind_eq_ok_iff.mp hg
    refine ⟨Bool.eq_false_iff.mpr hreport, command, hcommand, ?_⟩
    rw [← Except.ok.inj h, ← Except.ok.inj hg]

/-- A report is one that the arguments ask for. -/
structure IsReportFor (a : Arguments) (d : DiscoveryConfig) : Prop where
  /-- nothing is asked for that only generating does -/
  alone : a.output = none ∧ a.noFormat = false ∧ a.formatter = none
  /-- there are two kinds of reports -/
  kind : d.kind = .listElements ∨ d.kind = .info
  /-- an element is named where it is described, and there only -/
  kind_info_iff : d.kind = .info ↔ d.element ≠ none
  element_iff : d.element ≠ none ↔ a.info ≠ none
  /-- only lists are narrowed -/
  filter : d.filter ≠ none → d.kind = .listElements

/-- A configuration is one for the arguments. -/
structure IsFor (a : Arguments) (t : FileTree) (c : Config) : Prop where
  /-- a report is made if one is asked for -/
  discovery_iff : (∃ d, c = .discovery d) ↔ a.listElements = true ∨ a.info ≠ none
  discovery : ∀ d, c = .discovery d → IsReportFor a d
  /-- the command of the formatter has words -/
  generate : ∀ g, c = .generate g → g.command ≠ []
  /-- the vocabulary file was there -/
  spec : a.spec = some c.spec ∧ t.leadsSomewhere c.spec = .ok true

/-- The report that is made of arguments that ask for one. -/
theorem isReportFor_of_asked (ha : a.IsExclusive) (spec : Path)
    (hasked : a.listElements = true ∨ a.info ≠ none) (hgeneration : a.wantsGeneration = false)
    (hfilter : a.filter ≠ none → a.listElements = true) :
    IsReportFor a ⟨if a.listElements then .listElements else .info, a.filter, a.info, spec⟩ where
  alone := by
    simp only [Arguments.wantsGeneration, Bool.or_eq_false_iff, Option.isSome_eq_false_iff,
      Option.isNone_iff_eq_none] at hgeneration
    exact and_assoc.mp hgeneration
  kind := by
    cases a.listElements with
    | true => exact .inl rfl
    | false => exact .inr rfl
  kind_info_iff := by
    cases hlist : a.listElements with
    | true => simp [ha.report hlist]
    | false => simpa [hlist] using hasked
  element_iff := Iff.rfl
  filter := fun hsome => if_pos (hfilter hsome)

/-- What the checks let through is a configuration for the arguments, if they ask for one report. -/
theorem isFor_of_ofArguments (ha : a.IsExclusive) (h : ofArguments t a = .ok c) :
    c.IsFor a t := by
  have hwants : a.wantsReport = true ↔ a.listElements = true ∨ a.info ≠ none := by
    rw [Arguments.wantsReport, Bool.or_eq_true, Option.isSome_iff_ne_none]
  obtain ⟨hfilter, spec, hspec, hleads, hways⟩ := cases_of_ofArguments h
  rcases hways with ⟨hreport, hgeneration, -, rfl⟩ | ⟨hreport, command, hcommand, rfl⟩
  · have hasked := hwants.mp hreport
    exact {
      discovery_iff := iff_of_true ⟨_, rfl⟩ hasked
      discovery := by
        rintro _ ⟨⟩
        exact isReportFor_of_asked ha spec hasked hgeneration hfilter
      generate := fun _ hg => Config.noConfusion hg
      spec := ⟨hspec, hleads⟩ }
  · have hnone : ¬ (a.listElements = true ∨ a.info ≠ none) := by
      rw [← hwants, hreport]
      exact Bool.false_ne_true
    exact {
      discovery_iff := iff_of_false (fun ⟨_, hd⟩ => Config.noConfusion hd) hnone
      discovery := fun _ hd => Config.noConfusion hd
      generate := by
        rintro _ ⟨⟩
        exact ne_nil_of_readCommand hcommand
      spec := ⟨hspec, hleads⟩ }

/-- So its work has what it needs. -/
theorem IsFor.isComplete (ha : a.IsExclusive) (h : c.IsFor a t) : Program.IsComplete c := by
  cases c with
  | discovery d => exact (h.discovery d rfl).kind_info_iff.mp
  | generate g =>
    obtain ⟨s, hs⟩ := ha.spec
    have hspec : g.spec = .ofText s := Option.some.inj (h.spec.1.symm.trans hs)
    exact ⟨hspec ▸ Path.isPlain_ofText s, h.generate g rfl⟩

/-- **Configurations are complete.** A configuration that is made of arguments is one for them: a
report if one is asked for and nothing else, with an element if one is described and a filter only
on a list; or else a generation, with a command that has words. The vocabulary file was there. So no
work on it, in whatever session, finds that no element is named or that the command is empty. -/
theorem configuration_complete {arguments : List Text} (ha : Arguments.ofTexts arguments = .ok a)
    (h : ofArguments t a = .ok c) : c.IsFor a t ∧ ∀ (run : CommandRunner) (x : Session),
      ((Program.perform run c).run.run x).1 ≠ .error .noElement ∧
      ((Program.perform run c).run.run x).1 ≠ .error .noCommand := by
  have hexclusive := Arguments.isExclusive_of_ofTexts ha
  have hfor := isFor_of_ofArguments hexclusive h
  refine ⟨hfor, fun run x => ?_⟩
  rw [Program.perform_eq_outcome]
  have hfault {fault : Fault} (h : Program.outcome run x.tree c = .error fault) :=
    Program.isOfWork_or_isMissing_of_outcome (hfor.isComplete hexclusive) h
  constructor
  · intro h
    rcases hfault h with hwork | ⟨hexit, -⟩
    · cases hwork
    · cases hexit
  · intro h
    rcases hfault h with hwork | ⟨hexit, -⟩
    · cases hwork
    · cases hexit

/-- Arguments that ask for the description of an element. -/
def describeArguments : List Text :=
  ["--spec", "x.yaml", "--info", "div"].map String.toList

/-- So the element is named when they are read where the vocabulary file is there. -/
theorem configuration_complete_describe :
    ∃ a c, Arguments.ofTexts describeArguments = .ok a ∧ ofArguments smallTree a = .ok c ∧
      c = .discovery ⟨.info, none, some "div".toList, .ofText "x.yaml".toList⟩ ∧
      c.IsFor a smallTree ∧ ∀ (run : CommandRunner) (x : Session),
        ((Program.perform run c).run.run x).1 ≠ .error .noElement ∧
        ((Program.perform run c).run.run x).1 ≠ .error .noCommand := by
  have ha : Arguments.ofTexts describeArguments
      = .ok { Arguments.initial with
          spec := some (.ofText "x.yaml".toList), info := some "div".toList } := by
    rfl
  have hc : ofArguments smallTree { Arguments.initial with
      spec := some (.ofText "x.yaml".toList), info := some "div".toList }
      = .ok (.discovery ⟨.info, none, some "div".toList, .ofText "x.yaml".toList⟩) := by
    rfl
  exact ⟨_, _, ha, hc, rfl, configuration_complete ha hc⟩

end Config

end DomBindings
