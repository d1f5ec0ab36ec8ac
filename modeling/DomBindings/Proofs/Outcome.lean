import DomBindings.Program.Run
import DomBindings.Proofs.Generation
import DomBindings.Proofs.Preamble

/-!
# What work comes to

Doing what a configuration says is an action, which prints on the way. Whether it fails, and with
which fault, depends on the files alone, and `Program.outcome` says it without a session. Its stages
fail with few kinds of faults (`Fault.IsOfWork`): the others belong to the configuration, or would
mean that a configuration lacks what it must have. A fault of a document is always that of the
vocabulary.
-/

namespace DomBindings

open Traversal

/-! ### Faults -/

/-- The faults of work on the vocabulary in a file. What is wrong with it can be worded, and no other
document has a fault. -/
inductive Fault.IsOfWork (t : FileTree) (spec : Path) : Fault → Prop
  | schema {e : SchemaError} {message : Text} : e.message = .ok message →
      IsOfWork t spec (.schema e)
  | formatter (e : FormatterError) : IsOfWork t spec (.formatter e)
  | document {f : Yaml.Fault} : Vocabulary.load t spec = .error (.document f) →
      IsOfWork t spec (.document f)
  | file (e : FileError) : IsOfWork t spec (.file e)
  | encoding (e : Text.Utf8Error) : IsOfWork t spec (.encoding e)
  | numeral (e : NumeralError) : IsOfWork t spec (.numeral e)

variable {run : CommandRunner} {t : FileTree} {spec : Path} {fault : Fault}

theorem Fault.isOfWork_ofSchema (e : SchemaError) : (Fault.ofSchema e).IsOfWork t spec := by
  unfold Fault.ofSchema
  split
  · next hmessage => exact .schema hmessage
  · exact .numeral _

theorem Fault.isOfWork_ofRead (e : ReadError) : (Fault.ofRead e).IsOfWork t spec := by
  cases e with
  | schema e => exact isOfWork_ofSchema e
  | numeral e => exact .numeral e

theorem Vocabulary.isOfWork_of_load (h : Vocabulary.load t spec = .error fault) :
    fault.IsOfWork t spec := by
  have hload := h
  unfold load at h
  split at h
  · exact Except.error.inj h ▸ .file _
  unfold ofBytes at h
  split at h
  · exact Except.error.inj h ▸ .encoding _
  unfold ofText at h
  split at h
  · obtain rfl := Except.error.inj h
    exact .document hload
  split at h
  · exact Except.error.inj h ▸ Fault.isOfWork_ofRead _
  · cases h

namespace ConfigSearch

theorem isOfWork_of_qualifies {candidate : Place} (h : qualifies t candidate = .error fault) :
    fault.IsOfWork t spec := by
  unfold qualifies at h
  split at h
  · exact Except.error.inj h ▸ .file _
  · cases h
  split at h
  · split at h
    · exact Except.error.inj h ▸ .file _
    unfold hasEntry at h
    split at h
    · exact Except.error.inj h ▸ .encoding _
    split at h
    · cases h
    · cases h
    · exact Except.error.inj h ▸ .numeral _
  · cases h

theorem isOfWork_of_firstQualifying {candidates : List Place}
    (h : firstQualifying t candidates = .error fault) : fault.IsOfWork t spec := by
  induction candidates with
  | nil => cases h
  | cons candidate rest ih =>
    rcases bind_eq_error_iff.mp h with h | ⟨found, -, h⟩
    · exact isOfWork_of_qualifies h
    · cases found with
      | true => cases h
      | false => exact ih h

end ConfigSearch

theorem isOfWork_of_findFormatterConfig {target : Path}
    (h : findFormatterConfig t target = .error fault) : fault.IsOfWork t spec := by
  unfold findFormatterConfig at h
  split at h
  · exact Except.error.inj h ▸ .file _
  rcases bind_eq_error_iff.mp h with h | ⟨found, -, h⟩
  · exact ConfigSearch.isOfWork_of_firstQualifying h
  · cases found with
    | none => exact Except.error.inj h ▸ .formatter _
    | some place => cases h

theorem Formatter.isOfWork_of_outcome {target : Path} {r : CommandResult}
    (h : Formatter.outcome target r = .error fault) : fault.IsOfWork t spec := by
  unfold Formatter.outcome at h
  split at h
  · exact Except.error.inj h ▸ .encoding _
  split at h
  · exact Except.error.inj h ▸ .encoding _
  split at h
  · cases h
  · exact Except.error.inj h ▸ .formatter _

/-- A command that has words either is there or is refused by the file system. -/
theorem Formatter.isOfWork_startFault {command : List Text} (hcommand : command ≠ [])
    (e : FileError) : (startFault command e).IsOfWork t spec := by
  obtain ⟨name, arguments, rfl⟩ := List.exists_cons_of_ne_nil hcommand
  unfold startFault
  split
  · exact .formatter _
  · exact .file _

/-! ### Discovery -/

namespace Discovery

/-- What the description of an element comes to. -/
def describeOutcome (v : Vocabulary) : Option Text → Except Fault Unit
  | none => .error .noElement
  | some name =>
    match ElementDetail.ofVocabulary v name with
    | .error e => .error (.ofSchema e)
    | .ok none => .error (.exit 1)
    | .ok (some _) => .ok ()

/-- What a report comes to. -/
def outcome (t : FileTree) (c : DiscoveryConfig) : Except Fault Unit := do
  let v ← Vocabulary.load t c.spec
  match c.kind with
  | .info => describeOutcome v c.element
  | _ => .ok ()

/-- An element is to be described that is not in the vocabulary. -/
def IsMissing (t : FileTree) (c : DiscoveryConfig) : Prop :=
  c.kind = .info ∧ ∃ v name, Vocabulary.load t c.spec = .ok v ∧ c.element = some name ∧
    v.elements.get? name = none

theorem ends_describe (v : Vocabulary) (label : Text) (element : Option Text) (t : FileTree) :
    (describe v label element).Ends t (describeOutcome v element) t := by
  cases element with
  | none => exact Action.ends_throw _ t
  | some name =>
    rw [describe, describeOutcome]
    cases hdetail : ElementDetail.ofVocabulary v name with
    | error e => exact (Action.ends_throw _ t).bind_error
    | ok detail =>
      refine (Action.ends_pure detail t).bind ?_
      cases detail with
      | none => exact Action.Ends.bind (fun _ hx => ⟨rfl, hx⟩) (Action.ends_throw _ t)
      | some d => exact Action.ends_print _ t

theorem ends_discover (c : DiscoveryConfig) (t : FileTree) :
    (discover c).Ends t (outcome t c) t := by
  unfold discover outcome
  cases hload : Vocabulary.load t c.spec with
  | error fault => exact (Action.ends_ask hload).bind_error
  | ok v =>
    refine (Action.ends_ask hload).bind ?_
    cases c.kind with
    | listElements => exact Action.ends_print _ t
    | info => exact ends_describe v _ _ t
    | unknown name => exact Action.ends_pure _ t

theorem get?_eq_none_of_ofVocabulary {v : Vocabulary} {name : Text}
    (h : ElementDetail.ofVocabulary v name = .ok none) : v.elements.get? name = none := by
  unfold ElementDetail.ofVocabulary at h
  split at h
  · next hget => exact hget
  · obtain ⟨d, -, hd⟩ := map_eq_ok_iff.mp h
    cases hd

/-- A report fails because of the vocabulary, or because the element is not in it. -/
theorem isOfWork_or_isMissing_of_outcome {c : DiscoveryConfig}
    (helement : c.kind = .info → c.element ≠ none) (h : outcome t c = .error fault) :
    fault.IsOfWork t c.spec ∨ fault = .exit 1 ∧ IsMissing t c := by
  rcases bind_eq_error_iff.mp h with h | ⟨v, hload, h⟩
  · exact .inl (Vocabulary.isOfWork_of_load h)
  split at h
  · next hkind =>
    obtain ⟨name, hname⟩ := Option.ne_none_iff_exists'.mp (helement hkind)
    rw [hname, describeOutcome] at h
    split at h
    · exact .inl (Except.error.inj h ▸ Fault.isOfWork_ofSchema _)
    · next hnone =>
      have hget := get?_eq_none_of_ofVocabulary hnone
      exact .inr ⟨(Except.error.inj h).symm, hkind, v, name, hload, hname, hget⟩
    · cases h
  · cases h

end Discovery

/-! ### Generation -/

namespace Generation

/-- What the writing of a module comes to. -/
def writeOutcome (t : FileTree) (p : Path) (content : Text) : Except Fault WrittenFile :=
  match t.writeWithParents p (Text.encode content) with
  | (.error e, _) => .error (.file e)
  | (.ok (), written) => (WrittenFile.ofTree written p content).mapError .file

/-- What a generation comes to. -/
def outcome (run : CommandRunner) (t : FileTree) (c : GenerateConfig) :
    Except Fault WrittenFile :=
  match finalText run c t with
  | (.error fault, _) => .error fault
  | (.ok text, t') => writeOutcome t' c.output text

theorem exists_ends_writeModule (p : Path) (content : Text) (t : FileTree) :
    ∃ t', (writeModule p content).Ends t (writeOutcome t p content) t' := by
  unfold writeOutcome
  rcases hw : t.writeWithParents p (Text.encode content) with ⟨result, t'⟩
  cases result with
  | error e => exact ⟨t', ends_writeModule_error hw⟩
  | ok _ => exact ⟨t', ends_writeModule_ok hw⟩

theorem exists_ends_generate (run : CommandRunner) (c : GenerateConfig) (t : FileTree) :
    ∃ t', (generate run c).Ends t (outcome run t c) t' := by
  unfold outcome
  rcases htext : finalText run c t with ⟨result, t₁⟩
  cases result with
  | error fault => exact ⟨t₁, ends_generate_error htext⟩
  | ok text =>
    obtain ⟨t', hwrite⟩ := exists_ends_writeModule c.output text t₁
    exact ⟨t', ends_generate_of_write htext hwrite⟩

theorem isOfWork_of_writeOutcome {t' : FileTree} {p : Path} {content : Text}
    (h : writeOutcome t' p content = .error fault) : fault.IsOfWork t spec := by
  unfold writeOutcome at h
  split at h
  · exact Except.error.inj h ▸ .file _
  · cases hfile : WrittenFile.ofTree _ p content with
    | error e =>
      rw [hfile] at h
      exact Except.error.inj h ▸ .file e
    | ok file =>
      rw [hfile] at h
      cases h

/-- A file without a name is a directory, so a vocabulary that has been loaded has a source. -/
theorem name_ne_nil_of_load {p : Path} {v : Vocabulary} (hplain : p.IsPlain)
    (h : Vocabulary.load t p = .ok v) : p.name ≠ [] := by
  intro hname
  have hparts : p.parts = [] := by
    by_contra hne
    have hlast : p.parts.getLast hne = [] := by
      rwa [Path.name, List.getLastD_eq_getLast?, List.getLast?_eq_some_getLast hne] at hname
    exact Bool.noConfusion (hlast ▸ hplain _ (List.getLast_mem hne))
  unfold Vocabulary.load at h
  split at h
  · cases h
  · next bytes hread =>
    obtain ⟨-, place, hfollow⟩ := FileTree.read_eq_ok_iff.mp hread
    rcases hfollow with ⟨executable, hfollow⟩ | ⟨hfollow, -⟩
    · obtain ⟨-, n, -, hleads⟩ := FileTree.follow_eq_ok_iff.mp hfollow
      rw [hparts, FileTree.leads_nil_iff] at hleads
      cases hleads.2.2
    · obtain ⟨-, n, -, hleads⟩ := FileTree.follow_eq_ok_iff.mp hfollow
      rw [hparts, FileTree.leads_nil_iff] at hleads
      cases hleads.2.2

theorem isOfWork_of_unformatted {c : GenerateConfig} (hplain : c.spec.IsPlain)
    (h : unformatted c t = .error fault) : fault.IsOfWork t c.spec := by
  rcases bind_eq_error_iff.mp h with h | ⟨v, hload, h⟩
  · exact Vocabulary.isOfWork_of_load h
  unfold sourceText at h
  split at h
  · exact Except.error.inj h ▸ Fault.isOfWork_ofSchema _
  · next lines _ =>
    obtain ⟨preamble, hpreamble, -⟩ := @Provenance.exists_preamble
      (.ofVocabulary c.spec.name v) (name_ne_nil_of_load hplain hload)
    rw [Provenance.assemble?, hpreamble] at h
    cases h

theorem isOfWork_of_findConfig {c : GenerateConfig} (h : findConfig c t = .error fault) :
    fault.IsOfWork t spec := by
  unfold findConfig at h
  split at h
  · cases hfound : findFormatterConfig t c.output with
    | error e =>
      rw [hfound] at h
      exact Except.error.inj h ▸ isOfWork_of_findFormatterConfig hfound
    | ok config =>
      rw [hfound] at h
      cases h
  · cases h

theorem isOfWork_of_finalText {c : GenerateConfig} (hplain : c.spec.IsPlain)
    (hcommand : c.command ≠ []) (h : (finalText run c t).1 = .error fault) :
    fault.IsOfWork t c.spec := by
  unfold finalText at h
  split at h
  · next hconfig => exact Except.error.inj h ▸ isOfWork_of_findConfig hconfig
  split at h
  · next hsource => exact Except.error.inj h ▸ isOfWork_of_unformatted hplain hsource
  split at h
  · cases h
  unfold Formatter.format at h
  split at h
  · exact Except.error.inj h ▸ Formatter.isOfWork_startFault hcommand _
  · exact Formatter.isOfWork_of_outcome h

theorem isOfWork_of_outcome {c : GenerateConfig} (hplain : c.spec.IsPlain)
    (hcommand : c.command ≠ []) (h : outcome run t c = .error fault) :
    fault.IsOfWork t c.spec := by
  unfold outcome at h
  split at h
  · next htext =>
    obtain rfl := Except.error.inj h
    exact isOfWork_of_finalText hplain hcommand (congrArg Prod.fst htext)
  · exact isOfWork_of_writeOutcome h

end Generation

/-! ### Work of either kind -/

namespace Program

/-- What doing what a configuration says comes to. -/
def outcome (run : CommandRunner) (t : FileTree) : Config → Except Fault Unit
  | .discovery c => Discovery.outcome t c
  | .generate c => (fun _ => ()) <$> Generation.outcome run t c

theorem exists_ends_perform (run : CommandRunner) (c : Config) (t : FileTree) :
    ∃ t', (perform run c).Ends t (outcome run t c) t' := by
  cases c with
  | discovery c => exact ⟨t, Discovery.ends_discover c t⟩
  | generate c =>
    obtain ⟨t', hgenerate⟩ := Generation.exists_ends_generate run c t
    rw [perform, outcome]
    cases hresult : Generation.outcome run t c with
    | error fault => exact ⟨t', (hresult ▸ hgenerate).bind_error⟩
    | ok file => exact ⟨t', (hresult ▸ hgenerate).bind (Action.ends_pure _ t')⟩

/-- A configuration has what its work needs: a name where an element is to be described; and where
the module is to be made, a vocabulary file that is named by a text and a command with words. -/
def IsComplete : Config → Prop
  | .discovery c => c.kind = .info → c.element ≠ none
  | .generate c => c.spec.IsPlain ∧ c.command ≠ []

/-- Work fails because of what it works on, or because an element is not there. -/
theorem isOfWork_or_isMissing_of_outcome {c : Config} (hc : IsComplete c)
    (h : outcome run t c = .error fault) :
    fault.IsOfWork t c.spec ∨ fault = .exit 1 ∧ ∃ d, c = .discovery d ∧ Discovery.IsMissing t d := by
  cases c with
  | discovery c =>
    refine (Discovery.isOfWork_or_isMissing_of_outcome hc h).imp_right ?_
    rintro ⟨hfault, hmissing⟩
    exact ⟨hfault, c, rfl, hmissing⟩
  | generate c =>
    rw [outcome] at h
    cases hresult : Generation.outcome run t c with
    | error e =>
      rw [hresult] at h
      exact .inl (Except.error.inj h ▸ Generation.isOfWork_of_outcome hc.1 hc.2 hresult)
    | ok file =>
      rw [hresult] at h
      cases h

/-- The result of the work, whatever has been printed before. -/
theorem perform_eq_outcome (run : CommandRunner) (c : Config) (x : Session) :
    ((perform run c).run.run x).1 = outcome run x.tree c := by
  obtain ⟨t', hends⟩ := exists_ends_perform run c x.tree
  exact (hends x rfl).1

end Program

end DomBindings
