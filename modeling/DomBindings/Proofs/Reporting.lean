import DomBindings.Proofs.Configuration

/-!
# Which failures are reported

A run fails in its arguments, in its configuration or in its work, and `Program.failure?` says where
and how, by the files and the arguments alone. Most failures are reported and end the run with a
status. The others leave it as they are, and they are enumerated in `Failure.Escapes`: command lines
and paths that the configuration stumbles on, bytes that are no text, numbers that are too long,
scalars that make no value of the kind they claim, and circles of links.

That nothing else escapes rests on the completeness of configurations: the faults of incomplete ones
are not reported either, but they never come up. How a run ends is said only where an account is given
of the vocabulary that it reads (`IsAccountedFor`).
-/

namespace DomBindings

open Traversal

namespace Program

/-! ### Failures -/

/-- Where a run fails, and how. -/
inductive Failure where
  /-- the arguments are not gone beyond -/
  | arguments (stop : ArgumentsStop)
  /-- no configuration is made of them -/
  | configuration (fault : ConfigFault)
  /-- the work fails -/
  | work (fault : Fault)

/-- The fault in a failure. -/
def Failure.fault : Failure → Fault
  | .arguments .help => .exit 0
  | .arguments (.error _) => .exit 2
  | .configuration fault => .ofConfig fault
  | .work fault => fault

/-- The failure of a run, if it fails. -/
def failure? (run : CommandRunner) (arguments : List Text) (t : FileTree) : Option Failure :=
  match Arguments.ofTexts arguments with
  | .error stop => some (.arguments stop)
  | .ok a =>
    match Config.ofArguments t a with
    | .error fault => some (.configuration fault)
    | .ok c => (fault? (outcome run t c)).map .work

/-- The failures that are not reported. -/
inductive Failure.Escapes : Failure → Prop
  /-- the command line of the formatter cannot be divided into words -/
  | words (e : CommandLine.WordsError) : Escapes (.configuration (.words e))
  /-- the file system cannot tell whether the vocabulary file is there -/
  | lookUp (e : FileError) : Escapes (.configuration (.file e))
  /-- a vocabulary, a manifest or an output of the formatter is no text -/
  | encoding (e : Text.Utf8Error) : Escapes (.work (.encoding e))
  /-- a vocabulary or a manifest has a number that is too long -/
  | numeral (e : NumeralError) : Escapes (.work (.numeral e))
  /-- a document has the form of one, but a scalar in it makes no value of its kind -/
  | document {f : Yaml.Fault} : f ≠ .unaccounted → (∀ stage, f ≠ .format stage) →
      Escapes (.work (.document f))
  /-- a path has a null character in it -/
  | nullCharacter : Escapes (.work (.file .nullCharacter))
  /-- a path leads in a circle of links -/
  | linkLoop (path : Text) : Escapes (.work (.file (.linkLoop path)))

/-- How a run that has left this session ends, given its failure. -/
inductive EndsAs (y : Session) : Option Failure → Except Fault Unit → Prop
  | done : EndsAs y none (.ok ())
  | explained : Arguments.explanation <:+ y.printed →
      EndsAs y (some (.arguments .help)) (.error (.exit 0))
  | misused {e : ArgumentsError} : Arguments.complaint e <:+ y.complaints →
      EndsAs y (some (.arguments (.error e))) (.error (.exit 2))
  | misconfigured {e : ConfigError} : configReport e ++ ['\n'] <:+ y.printed →
      EndsAs y (some (.configuration (.config e))) (.error (.exit 1))
  | notFound {name label : Text} : Discovery.notFound name label ++ ['\n'] <:+ y.complaints →
      EndsAs y (some (.work (.exit 1))) (.error (.exit 1))
  | reported {fault : Fault} {report : Text} : report? fault = some report →
      report ++ ['\n'] <:+ y.printed → EndsAs y (some (.work fault)) (.error (.exit 1))
  | escaped {failure : Failure} : failure.Escapes → EndsAs y (some failure) (.error failure.fault)

theorem Failure.Escapes.not_exit {failure : Failure} (h : failure.Escapes) (status : Nat) :
    failure.fault ≠ .exit status := by
  cases h <;> exact Fault.noConfusion

/-- An account is given of the vocabulary that a run with these arguments reads, if there is one. -/
def IsAccountedFor (arguments : List Text) (t : FileTree) : Prop :=
  ∀ a c, Arguments.ofTexts arguments = .ok a → Config.ofArguments t a = .ok c →
    Vocabulary.IsAccountedFor t c.spec

/-! ### Reporting -/

variable {run : CommandRunner} {t : FileTree} {spec : Path} {x y : Session} {fault : Fault}

/-- A fault of work on a vocabulary of which an account is given is reported, or else it escapes. -/
theorem reported_or_escapes (haccounted : Vocabulary.IsAccountedFor t spec)
    (h : fault.IsOfWork t spec) :
    (∃ report, report? fault = some report) ∨
      report? fault = none ∧ (Failure.work fault).Escapes := by
  cases h with
  | @schema e message hmessage =>
    refine .inl ⟨"Schema error [".toList ++ e.code.name ++ "]: ".toList ++ message, ?_⟩
    rw [report?, hmessage]
  | formatter e => exact .inl ⟨_, rfl⟩
  | @document f hload =>
    have hne : f ≠ .unaccounted := by
      rintro rfl
      exact Vocabulary.load_ne_unaccounted haccounted hload
    cases f with
    | format stage => exact .inl ⟨_, rfl⟩
    | _ => exact .inr ⟨rfl, .document hne fun _ => Yaml.Fault.noConfusion⟩
  | file e =>
    cases e with
    | refused cause path => exact .inl ⟨_, rfl⟩
    | nullCharacter => exact .inr ⟨rfl, .nullCharacter⟩
    | linkLoop path => exact .inr ⟨rfl, .linkLoop path⟩
  | encoding e => exact .inr ⟨rfl, .encoding e⟩
  | numeral e => exact .inr ⟨rfl, .numeral e⟩

/-! ### Runs -/

section

variable {α : Type} {a : Action α} {handler : Fault → Action α}

/-- What succeeds is not handled, -/
theorem run_tryCatch_ok {v : α} (h : a.run.run x = (.ok v, y)) :
    (tryCatch a handler).run.run x = (.ok v, y) := by
  rw [ExceptT.run_tryCatch, StateT.run_bind, h]
  rfl

/-- and a fault is handled in the session that it leaves. -/
theorem run_tryCatch_error (h : a.run.run x = (.error fault, y)) :
    (tryCatch a handler).run.run x = (handler fault).run.run y := by
  rw [ExceptT.run_tryCatch, StateT.run_bind, h]
  rfl

end

theorem run_ask {α : Type} (question : FileTree → Except Fault α) (x : Session) :
    (Action.ask question).run.run x = (question x.tree, x) := by
  change (Action.orFail id (question x.tree)).run.run x = _
  cases question x.tree <;> rfl

section

variable {arguments : List Text} {a : Arguments}

/-- Arguments in order leave the session alone, and the configuration is made of them. -/
theorem run_configure (ha : Arguments.ofTexts arguments = .ok a) (x : Session) :
    (configure arguments).run.run x
      = ((Config.ofArguments x.tree a).mapError Fault.ofConfig, x) := by
  have hread : (readArguments arguments).run.run x = (.ok a, x) := by
    rw [readArguments, ha]
    rfl
  rw [configure, Action.run_bind_ok hread, run_ask]

/-- Arguments that are not gone beyond end the run. -/
theorem endsAs_of_stop {stop : ArgumentsStop} (ha : Arguments.ofTexts arguments = .error stop) :
    ∃ fault y, (configureOrReport arguments).run.run x = (.error fault, y) ∧
      EndsAs y (some (.arguments stop)) (.error fault) := by
  cases stop with
  | help =>
    have hread : (readArguments arguments).run.run x
        = (.error (.exit 0), { x with printed := x.printed ++ Arguments.explanation }) := by
      rw [readArguments, ha]
      rfl
    exact ⟨_, _, run_tryCatch_error (Action.run_bind_error hread),
      .explained (List.suffix_append x.printed _)⟩
  | error e =>
    have hread : (readArguments arguments).run.run x
        = (.error (.exit 2), { x with complaints := x.complaints ++ Arguments.complaint e }) := by
      rw [readArguments, ha]
      rfl
    exact ⟨_, _, run_tryCatch_error (Action.run_bind_error hread),
      .misused (List.suffix_append x.complaints _)⟩

/-- A configuration that is not made ends it too. -/
theorem endsAs_of_misconfigured {e : ConfigFault} (ha : Arguments.ofTexts arguments = .ok a)
    (hc : Config.ofArguments x.tree a = .error e) :
    ∃ fault y, (configureOrReport arguments).run.run x = (.error fault, y) ∧
      EndsAs y (some (.configuration e)) (.error fault) := by
  have hrun : (configure arguments).run.run x = (.error (.ofConfig e), x) := by
    rw [run_configure ha, hc]
    rfl
  cases e with
  | config e =>
    exact ⟨_, _, run_tryCatch_error hrun, .misconfigured (List.suffix_append x.printed _)⟩
  | words e => exact ⟨_, _, run_tryCatch_error hrun, .escaped (.words e)⟩
  | file e => exact ⟨_, _, run_tryCatch_error hrun, .escaped (.lookUp e)⟩

end

/-- An element that is not there is complained about. -/
theorem complaints_of_isMissing {c : DiscoveryConfig} (h : Discovery.IsMissing x.tree c) :
    ∃ name label y, (discover c).run.run x = (.error (.exit 1), y) ∧
      Discovery.notFound name label ++ ['\n'] <:+ y.complaints := by
  obtain ⟨hkind, v, name, hload, helement, hget⟩ := h
  have hask : (Action.ask fun t => Vocabulary.load t c.spec).run.run x = (.ok v, x) := by
    rw [run_ask, hload]
  have hdetail : ElementDetail.ofVocabulary v name = .ok none := by
    rw [ElementDetail.ofVocabulary, hget]
  have hrun : (discover c).run.run x = (.error (.exit 1),
      { x with
          complaints := x.complaints ++ Discovery.notFound name c.spec.name ++ ['\n'] }) := by
    rw [discover, Action.run_bind_ok hask, hkind, helement, Discovery.describe, hdetail]
    rfl
  exact ⟨name, c.spec.name, _, hrun, x.complaints, (List.append_assoc _ _ _).symm⟩

theorem endsAs_of_work {c : Config} (hc : IsComplete c) (x : Session)
    (haccounted : Vocabulary.IsAccountedFor x.tree c.spec) :
    EndsAs ((performOrReport run c).run.run x).2
      ((fault? (outcome run x.tree c)).map .work) ((performOrReport run c).run.run x).1 := by
  rcases hrun : (perform run c).run.run x with ⟨result, y⟩
  have hresult := perform_eq_outcome run c x
  rw [hrun] at hresult
  rw [← hresult]
  cases result with
  | ok v =>
    rw [performOrReport, run_tryCatch_ok hrun]
    exact .done
  | error fault =>
    rw [performOrReport, run_tryCatch_error hrun]
    rcases isOfWork_or_isMissing_of_outcome hc hresult.symm with hwork | ⟨rfl, d, rfl, hmissing⟩
    · rcases reported_or_escapes haccounted hwork with ⟨report, hreport⟩ | ⟨hreport, hescapes⟩
      · rw [hreport]
        exact .reported hreport (List.suffix_append y.printed _)
      · rw [hreport]
        exact .escaped hescapes
    · obtain ⟨name, label, z, hz, hcomplaint⟩ := complaints_of_isMissing hmissing
      obtain rfl : z = y := congrArg Prod.snd (hz.symm.trans hrun)
      exact .notFound hcomplaint

/-- A run ends as its failure says, if an account is given of what it reads. -/
theorem endsAs_run (run : CommandRunner) {arguments : List Text} {x : Session}
    (haccounted : IsAccountedFor arguments x.tree) :
    EndsAs ((Program.run run arguments).run.run x).2 (failure? run arguments x.tree)
      ((Program.run run arguments).run.run x).1 := by
  cases ha : Arguments.ofTexts arguments with
  | error stop =>
    have hfailure : failure? run arguments x.tree = some (.arguments stop) := by
      simp only [failure?, ha]
    obtain ⟨fault, y, hrun, hends⟩ := @endsAs_of_stop x _ _ ha
    rw [hfailure, Program.run, Action.run_bind_error hrun]
    exact hends
  | ok a =>
    cases hc : Config.ofArguments x.tree a with
    | error e =>
      have hfailure : failure? run arguments x.tree = some (.configuration e) := by
        simp only [failure?, ha, hc]
      obtain ⟨fault, y, hrun, hends⟩ := endsAs_of_misconfigured ha hc
      rw [hfailure, Program.run, Action.run_bind_error hrun]
      exact hends
    | ok c =>
      have hfailure : failure? run arguments x.tree
          = (fault? (outcome run x.tree c)).map .work := by
        simp only [failure?, ha, hc]
      have hrun : (configureOrReport arguments).run.run x = (.ok c, x) := by
        refine run_tryCatch_ok ?_
        rw [run_configure ha, hc]
        rfl
      have hexclusive := Arguments.isExclusive_of_ofTexts ha
      rw [hfailure, Program.run, Action.run_bind_ok hrun]
      have hcomplete := (Config.isFor_of_ofArguments hexclusive hc).isComplete hexclusive
      exact endsAs_of_work hcomplete x (haccounted a c ha hc)

/-- A fault that escapes is not reported. -/
theorem report?_eq_none_of_escapes (h : (Failure.work fault).Escapes) : report? fault = none := by
  cases h with
  | @document f _ hform =>
    cases f with
    | format stage => exact absurd rfl (hform stage)
    | _ => rfl
  | _ => rfl

/-- A run returns or exits where no failure escapes. -/
theorem EndsAs.returns_or_exits_iff {failure : Option Failure} {result : Except Fault Unit}
    (h : EndsAs y failure result) :
    (result = .ok () ∨ ∃ status, result = .error (.exit status)) ↔
      ∀ f, failure = some f → ¬ f.Escapes := by
  cases h with
  | done => exact iff_of_true (.inl rfl) fun _ hf => nomatch hf
  | explained _ => exact iff_of_true (.inr ⟨0, rfl⟩) (by rintro _ ⟨⟩ ⟨⟩)
  | misused _ => exact iff_of_true (.inr ⟨2, rfl⟩) (by rintro _ ⟨⟩ ⟨⟩)
  | misconfigured _ => exact iff_of_true (.inr ⟨1, rfl⟩) (by rintro _ ⟨⟩ ⟨⟩)
  | notFound _ => exact iff_of_true (.inr ⟨1, rfl⟩) (by rintro _ ⟨⟩ ⟨⟩)
  | reported hreport _ =>
    refine iff_of_true (.inr ⟨1, rfl⟩) ?_
    rintro _ ⟨⟩ hescapes
    rw [report?_eq_none_of_escapes hescapes] at hreport
    cases hreport
  | @escaped failure hescapes =>
    refine iff_of_false ?_ fun h => h failure rfl hescapes
    rintro (hok | ⟨status, hexit⟩)
    · cases hok
    · exact hescapes.not_exit status (Except.error.inj hexit)

/-- **Failures are reported, with these exceptions.** Let an account be given of the vocabulary that
a run reads: no escape in it stands for half of a surrogate pair, and no node is part of itself. A run
that does not fail returns. One that is stopped by its arguments, by an error of its configuration, or
in its work ends with a status and has said why, unless the failure is one of those that escape; and
such a failure leaves the run as the fault that it is. So a run returns or exits if and only if no
failure escapes. -/
theorem run_reports_unless_escapes (run : CommandRunner) (arguments : List Text) (x : Session)
    (haccounted : IsAccountedFor arguments x.tree) :
    EndsAs ((Program.run run arguments).run.run x).2 (failure? run arguments x.tree)
        ((Program.run run arguments).run.run x).1 ∧
      ((((Program.run run arguments).run.run x).1 = .ok () ∨
          ∃ status, ((Program.run run arguments).run.run x).1 = .error (.exit status)) ↔
        ∀ failure, failure? run arguments x.tree = some failure → ¬ failure.Escapes) :=
  have hends := endsAs_run run haccounted
  ⟨hends, hends.returns_or_exits_iff⟩

/-- A vocabulary with an escape and with a node that stands in two places. -/
def sharedElement : Text :=
  ["namespace: \"\\u0075\"", "elements:", "  a: &a {interface: X}", "  b: *a"].flatMap
    fun line => line.toList ++ ['\n']

/-- A file with it. -/
def sharedTree : FileTree where
  nodes := [(["x.yaml".toList], .file (Text.encode sharedElement) false)]
  working := []

/-- Arguments that ask for the table of its elements. -/
def listArguments : List Text :=
  ["--spec", "x.yaml", "--list-elements"].map String.toList

theorem isAccountedFor_sharedTree : IsAccountedFor listArguments sharedTree := by
  intro a c ha hc
  have hargs : Arguments.ofTexts listArguments = .ok { Arguments.initial with
      spec := some (.ofText "x.yaml".toList), listElements := true } := by
    rfl
  obtain rfl := Except.ok.inj (hargs.symm.trans ha)
  have hconfig : Config.ofArguments sharedTree { Arguments.initial with
      spec := some (.ofText "x.yaml".toList), listElements := true }
      = .ok (.discovery ⟨.listElements, none, none, .ofText "x.yaml".toList⟩) := by
    rfl
  obtain rfl := Except.ok.inj (hconfig.symm.trans hc)
  obtain ⟨v, hload, -⟩ := @exists_of_toOption _ _
    (Vocabulary.load sharedTree (.ofText "x.yaml".toList)) (fun _ => true) (by decide +kernel)
  exact Vocabulary.isAccountedFor_of_load hload

/-- So a run that lists its elements returns. -/
theorem run_reports_unless_escapes_sharedElement :
    IsAccountedFor listArguments sharedTree ∧
      ((Program.run (constantRunner []) listArguments).run.run (.ofTree sharedTree)).1 = .ok () := by
  obtain ⟨hends, -⟩ := run_reports_unless_escapes (constantRunner []) listArguments
    (.ofTree sharedTree) isAccountedFor_sharedTree
  have hnone : failure? (constantRunner []) listArguments sharedTree = none :=
    Option.isNone_iff_eq_none.mp (by decide +kernel)
  rw [show (Session.ofTree sharedTree).tree = sharedTree from rfl, hnone] at hends
  refine ⟨isAccountedFor_sharedTree, ?_⟩
  generalize ((Program.run (constantRunner []) listArguments).run.run (.ofTree sharedTree)).1
    = result at hends
  cases hends with
  | done => rfl

/-- Arguments with a command line of the formatter in which a quote is not closed. -/
def unclosedQuote : List Text :=
  ["--spec", "x.yaml", "--prettier-command", "'"].map String.toList

/-- With them a run neither returns nor exits, although all else is in order. -/
theorem run_escapes_unclosedQuote :
    ((Program.run (constantRunner []) unclosedQuote).run.run (.ofTree smallTree)).1
        = .error (.words .unclosedQuote) ∧
      ¬ (((Program.run (constantRunner []) unclosedQuote).run.run (.ofTree smallTree)).1 = .ok () ∨
        ∃ status, ((Program.run (constantRunner []) unclosedQuote).run.run (.ofTree smallTree)).1
          = .error (.exit status)) := by
  have haccounted : IsAccountedFor unclosedQuote (Session.ofTree smallTree).tree := by
    intro a c ha hc
    have hargs : Arguments.ofTexts unclosedQuote = .ok { Arguments.initial with
        spec := some (.ofText "x.yaml".toList), formatter := some ['\''] } := by
      rfl
    obtain rfl := Except.ok.inj (hargs.symm.trans ha)
    cases hc
  have hends := endsAs_run (constantRunner []) haccounted
  have hfailure : failure? (constantRunner []) unclosedQuote smallTree
      = some (.configuration (.words .unclosedQuote)) := rfl
  rw [show (Session.ofTree smallTree).tree = smallTree from rfl, hfailure] at hends
  refine ⟨?_, fun h => hends.returns_or_exits_iff.mp h _ rfl (.words _)⟩
  generalize ((Program.run (constantRunner []) unclosedQuote).run.run (.ofTree smallTree)).1
    = result at hends
  cases hends with
  | escaped _ => rfl

end Program

end DomBindings
