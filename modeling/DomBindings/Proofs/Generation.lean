import DomBindings.Program.Generation
import DomBindings.Proofs.Writing

/-!
# Generation writes all or nothing

A generation is a row of stages that may fail (`Generation.finalText`) and a write behind them. Only
the formatter and the write touch the files. So with a formatter that leaves the files alone, a
generation that fails before the write has changed nothing, and one that succeeds has changed
nothing but the file and the directories above it (`generate_allOrNothing`). It counts the bytes that
it has written, unless it has written to a device: there it counts those that are read back, which are
none. What is printed on the way does not matter for that: `Action.Ends` speaks of the result and the
files of an action only.
-/

namespace DomBindings

/-! ### Actions -/

/-- How an action ends that begins with these files, whatever has been printed before: with which
result and which files. -/
def Action.Ends {α : Type} (a : Action α) (t : FileTree) (result : Except Fault α)
    (t' : FileTree) : Prop :=
  ∀ x : Session, x.tree = t → (a.run.run x).1 = result ∧ (a.run.run x).2.tree = t'

namespace Action

variable {α β ε : Type} {a : Action α} {f : α → Action β} {t t' t'' : FileTree}

theorem ends_pure (v : α) (t : FileTree) : (pure v : Action α).Ends t (.ok v) t :=
  fun _ h => ⟨rfl, h⟩

theorem ends_throw (fault : Fault) (t : FileTree) :
    (throw fault : Action α).Ends t (.error fault) t :=
  fun _ h => ⟨rfl, h⟩

/-- A run of the action ends so. -/
theorem Ends.eq {x y : Session} {result result' : Except Fault α} (h : a.Ends x.tree result t')
    (hrun : a.run.run x = (result', y)) : result' = result ∧ y.tree = t' := by
  have := h x rfl
  rwa [hrun] at this

/-- An action goes on with the result of its first part, -/
theorem run_bind_ok {v : α} {x y : Session} (h : a.run.run x = (.ok v, y)) :
    (a >>= f).run.run x = (f v).run.run y := by
  rw [ExceptT.run_bind, StateT.run_bind, h]
  rfl

/-- and it ends where its first part fails. -/
theorem run_bind_error {fault : Fault} {x y : Session} (h : a.run.run x = (.error fault, y)) :
    (a >>= f).run.run x = (.error fault, y) := by
  rw [ExceptT.run_bind, StateT.run_bind, h]
  rfl

theorem Ends.bind {v : α} {result : Except Fault β} (h : a.Ends t (.ok v) t')
    (h' : (f v).Ends t' result t'') : (a >>= f).Ends t result t'' := by
  intro x hx
  obtain ⟨hv, ht⟩ := h x hx
  rw [run_bind_ok (Prod.ext hv rfl)]
  exact h' _ ht

theorem Ends.bind_error {fault : Fault} (h : a.Ends t (.error fault) t') :
    (a >>= f).Ends t (.error fault) t' := by
  intro x hx
  obtain ⟨hv, ht⟩ := h x hx
  rw [run_bind_error (Prod.ext hv rfl)]
  exact ⟨rfl, ht⟩

/-- Printing leaves the files alone. -/
theorem ends_print (s : Text) (t : FileTree) : (print s).Ends t (.ok ()) t :=
  fun _ h => ⟨rfl, h⟩

theorem ends_printLine (s : Text) (t : FileTree) : (printLine s).Ends t (.ok ()) t :=
  ends_print _ t

theorem ends_orFail (fault : ε → Fault) (result : Except ε α) (t : FileTree) :
    (orFail fault result).Ends t (result.mapError fault) t := by
  cases result with
  | error e => exact ends_throw _ t
  | ok v => exact ends_pure v t

theorem ends_orFail_id {given result : Except Fault α} (h : given = result) (t : FileTree) :
    (orFail id given).Ends t result t := by
  subst h
  cases given with
  | error fault => exact ends_throw fault t
  | ok v => exact ends_pure v t

/-- An action that begins with a look at the session goes on as it does for each session. -/
theorem ends_get_bind {f : Session → Action β} {result : Except Fault β}
    (h : ∀ x : Session, x.tree = t → (f x).Ends t result t') : (get >>= f).Ends t result t' :=
  fun x hx => h x hx x hx

/-- A question is answered by the files, and they stay. -/
theorem ends_ask {question : FileTree → Except Fault α} {result : Except Fault α}
    (h : question t = result) : (ask question).Ends t result t := by
  refine ends_get_bind fun x hx => ?_
  rw [hx]
  exact ends_orFail_id h t

/-- A change of the files ends with its result and its files. -/
theorem ends_change (g : FileTree → Except FileError α × FileTree) (t : FileTree) :
    (change g).Ends t ((g t).1.mapError .file) (g t).2 := by
  refine ends_get_bind fun x hx => ?_
  rw [hx]
  exact Ends.bind (fun _ _ => ⟨rfl, rfl⟩) (ends_orFail .file (g t).1 (g t).2)

end Action

/-! ### The stages before the write -/

namespace Generation

variable {run : CommandRunner} {c : GenerateConfig} {t t' : FileTree}

/-- The module of the vocabulary file, before it is formatted. -/
def unformatted (c : GenerateConfig) (t : FileTree) : Except Fault Text := do
  let v ← Vocabulary.load t c.spec
  sourceText (.ofVocabulary c.spec.name v) v.extract.1 v.extract.2

/-- The stages before the write: the text that is to be written, and the files after the
formatter. -/
def finalText (run : CommandRunner) (c : GenerateConfig) (t : FileTree) :
    Except Fault Text × FileTree :=
  match findConfig c t with
  | .error fault => (.error fault, t)
  | .ok config =>
    match unformatted c t with
    | .error fault => (.error fault, t)
    | .ok source =>
      match config with
      | none => (.ok source, t)
      | some config => Formatter.format run t source c.output config c.command

theorem ends_formatWith (run : CommandRunner) (c : GenerateConfig) (config : Path) (source : Text)
    (t : FileTree) :
    (formatWith run c config source).Ends t
      (Formatter.format run t source c.output config c.command).1
      (Formatter.format run t source c.output config c.command).2 := by
  refine Action.ends_get_bind fun x hx => ?_
  rw [hx]
  exact Action.Ends.bind (fun _ _ => ⟨rfl, rfl⟩) (Action.ends_orFail_id rfl _)

/-- The draft is made by the stages, and its text is theirs. -/
theorem ends_draft (run : CommandRunner) (c : GenerateConfig) (t : FileTree) :
    ∃ result, (draft run c).Ends t result (finalText run c t).2 ∧
      Draft.text <$> result = (finalText run c t).1 := by
  cases hc : findConfig c t with
  | error fault =>
    have htext : finalText run c t = (.error fault, t) := by simp [finalText, hc]
    rw [htext]
    exact ⟨.error fault, (Action.ends_ask hc).bind_error, rfl⟩
  | ok config =>
    have hconfig := Action.ends_ask hc
    cases hv : Vocabulary.load t c.spec with
    | error fault =>
      have htext : finalText run c t = (.error fault, t) := by
        simp [finalText, unformatted, hc, hv, bind, Except.bind]
      rw [htext]
      exact ⟨.error fault, hconfig.bind <| (Action.ends_printLine _ t).bind
        (Action.ends_ask hv).bind_error, rfl⟩
    | ok v =>
      have hload : (Action.ask fun t => Vocabulary.load t c.spec).Ends t (.ok v) t :=
        Action.ends_ask hv
      cases hs : sourceText (.ofVocabulary c.spec.name v) v.extract.1 v.extract.2 with
      | error fault =>
        have htext : finalText run c t = (.error fault, t) := by
          simp [finalText, unformatted, hc, hv, hs, bind, Except.bind]
        rw [htext]
        exact ⟨.error fault, hconfig.bind <| (Action.ends_printLine _ t).bind <| hload.bind <|
          (Action.ends_printLine _ t).bind <| (Action.ends_printLine _ t).bind
          (Action.ends_orFail_id hs t).bind_error, rfl⟩
      | ok source =>
        have hsource := Action.ends_orFail_id hs t
        cases config with
        | none =>
          have htext : finalText run c t = (.ok source, t) := by
            simp [finalText, unformatted, hc, hv, hs, bind, Except.bind]
          rw [htext]
          exact ⟨.ok ⟨_, _, _, source⟩, hconfig.bind <| (Action.ends_printLine _ t).bind <|
            hload.bind <| (Action.ends_printLine _ t).bind <| (Action.ends_printLine _ t).bind <|
            hsource.bind <| Action.ends_pure _ t, rfl⟩
        | some config =>
          have htext : finalText run c t
              = Formatter.format run t source c.output config c.command := by
            simp [finalText, unformatted, hc, hv, hs, bind, Except.bind]
          have hformat := ends_formatWith run c config source t
          rw [htext]
          rcases hf : Formatter.format run t source c.output config c.command with ⟨formatted, t'⟩
          rw [hf] at hformat
          cases formatted with
          | error fault =>
            exact ⟨.error fault, hconfig.bind <| (Action.ends_printLine _ t).bind <|
              hload.bind <| (Action.ends_printLine _ t).bind <| (Action.ends_printLine _ t).bind <|
              hsource.bind <| (Action.ends_printLine _ t).bind hformat.bind_error, rfl⟩
          | ok text =>
            exact ⟨.ok ⟨_, _, _, text⟩, hconfig.bind <| (Action.ends_printLine _ t).bind <|
              hload.bind <| (Action.ends_printLine _ t).bind <| (Action.ends_printLine _ t).bind <|
              hsource.bind <| (Action.ends_printLine _ t).bind <| hformat.bind <|
              Action.ends_pure _ t', rfl⟩

end Generation

/-! ### The write -/

/-- A write that fails ends with an error of the file system. -/
theorem ends_writeModule_error {p : Path} {content : Text} {t t' : FileTree} {e : FileError}
    (h : t.writeWithParents p (Text.encode content) = (.error e, t')) :
    (writeModule p content).Ends t (.error (.file e)) t' := by
  have hchange := Action.ends_change (fun t => t.writeWithParents p (Text.encode content)) t
  simp only [h] at hchange
  exact hchange.bind_error

/-- Otherwise it ends with what is said about the file. -/
theorem ends_writeModule_ok {p : Path} {content : Text} {t t' : FileTree}
    (h : t.writeWithParents p (Text.encode content) = (.ok (), t')) :
    (writeModule p content).Ends t ((WrittenFile.ofTree t' p content).mapError .file) t' := by
  have hchange := Action.ends_change (fun t => t.writeWithParents p (Text.encode content)) t
  simp only [h] at hchange
  refine hchange.bind (Action.ends_get_bind fun x hx => ?_)
  rw [hx]
  exact Action.ends_orFail .file _ t'

/-! ### The whole generation -/

variable {run : CommandRunner} {c : GenerateConfig} {t t₁ t' : FileTree} {text : Text}

/-- A generation fails as the stages before the write do. -/
theorem ends_generate_error {fault : Fault}
    (h : Generation.finalText run c t = (.error fault, t')) :
    (generate run c).Ends t (.error fault) t' := by
  obtain ⟨result, hdraft, htext⟩ := Generation.ends_draft run c t
  rw [h] at hdraft htext
  cases result with
  | error e =>
    obtain rfl : e = fault := Except.error.inj htext
    exact hdraft.bind_error
  | ok d => cases htext

/-- And it ends as the write does when they succeed. -/
theorem ends_generate_of_write {result : Except Fault WrittenFile}
    (h : Generation.finalText run c t = (.ok text, t₁))
    (hwrite : (writeModule c.output text).Ends t₁ result t') :
    (generate run c).Ends t result t' := by
  obtain ⟨drafted, hdraft, htext⟩ := Generation.ends_draft run c t
  rw [h] at hdraft htext
  cases drafted with
  | error e => cases htext
  | ok d =>
    obtain rfl : d.text = text := Except.ok.inj htext
    cases result with
    | error e => exact hdraft.bind hwrite.bind_error
    | ok file =>
      exact hdraft.bind <| hwrite.bind <|
        ((Action.ends_printLine _ t').bind (Action.ends_print _ t')).bind (Action.ends_pure file t')

namespace Generation

/-- With a formatter that leaves the files alone, the stages before the write do. -/
theorem finalText_tree (hrun : ∀ words input r, run t words input = .ok r → r.tree = t) :
    (finalText run c t).2 = t := by
  unfold finalText
  split
  · rfl
  · split
    · rfl
    · next source _ =>
      split
      · rfl
      · next config _ =>
        unfold Formatter.format
        split
        · rfl
        · next r hr => exact hrun _ _ r hr

/-- The text that is not formatted is assembled from the declarations of the vocabulary. -/
theorem exists_of_unformatted (h : unformatted c t = .ok text) :
    ∃ v lines, Vocabulary.load t c.spec = .ok v ∧
      declarationLines v.extract.1 v.extract.2 = .ok lines ∧
      (Provenance.ofVocabulary c.spec.name v).assemble? lines = some text := by
  obtain ⟨v, hv, hs⟩ := Traversal.bind_eq_ok_iff.mp h
  unfold sourceText at hs
  split at hs
  · cases hs
  · next lines hlines =>
    split at hs
    · cases hs
    · next text' htext =>
      obtain rfl := Except.ok.inj hs
      exact ⟨v, lines, hv, hlines, htext⟩

theorem finalText_eq_unformatted (run : CommandRunner) (t : FileTree) (hformat : c.format = false) :
    (finalText run c t).1 = unformatted c t := by
  unfold finalText findConfig
  rw [if_neg (by simp [hformat])]
  cases unformatted c t <;> rfl

end Generation

/-- A generation whose stages succeed ends as the write of the final text does. -/
theorem generate_eq_of_finalText {x y : Session} {result : Except Fault WrittenFile}
    (h : (generate run c).run.run x = (result, y))
    (htext : Generation.finalText run c x.tree = (.ok text, t₁)) :
    (∃ e, t₁.writeWithParents c.output (Text.encode text) = (.error e, y.tree) ∧
        result = .error (.file e)) ∨
      t₁.writeWithParents c.output (Text.encode text) = (.ok (), y.tree) ∧
        result = (WrittenFile.ofTree y.tree c.output text).mapError .file := by
  rcases hw : t₁.writeWithParents c.output (Text.encode text) with ⟨written, t'⟩
  cases written with
  | error e =>
    obtain ⟨hresult, rfl⟩ := (ends_generate_of_write htext (ends_writeModule_error hw)).eq h
    exact .inl ⟨e, rfl, hresult⟩
  | ok _ =>
    obtain ⟨hresult, rfl⟩ := (ends_generate_of_write htext (ends_writeModule_ok hw)).eq h
    exact .inr ⟨rfl, hresult⟩

/-- If it fails, the file system has refused something. -/
theorem exists_fileError_of_generate {x y : Session} {fault : Fault}
    (h : (generate run c).run.run x = (.error fault, y))
    (htext : Generation.finalText run c x.tree = (.ok text, t₁)) : ∃ e, fault = .file e := by
  obtain ⟨e, -, hresult⟩ | ⟨-, hresult⟩ := generate_eq_of_finalText h htext
  · exact ⟨e, Except.error.inj hresult⟩
  · cases hfile : WrittenFile.ofTree y.tree c.output text with
    | error e => exact ⟨e, Except.error.inj (hfile ▸ hresult)⟩
    | ok file =>
      rw [hfile] at hresult
      cases hresult

/-- If it returns, it has written the final text. -/
theorem isOf_of_generate {x y : Session} {file : WrittenFile} (hplain : c.output.IsPlain)
    (hworking : t₁.Stands t₁.working) (h : (generate run c).run.run x = (.ok file, y))
    (htext : Generation.finalText run c x.tree = (.ok text, t₁)) :
    file.IsOf t₁ y.tree c.output text := by
  obtain ⟨e, -, hresult⟩ | ⟨hwrite, hresult⟩ := generate_eq_of_finalText h htext
  · cases hresult
  · cases hfile : WrittenFile.ofTree y.tree c.output text with
    | error e =>
      rw [hfile] at hresult
      cases hresult
    | ok file' =>
      rw [hfile] at hresult
      obtain rfl := Except.ok.inj hresult
      exact WrittenFile.isOf_of_write hplain hworking hwrite hfile

/-- **Generation is all or nothing.** Let the formatter leave the files alone, the output path be one
that a text writes, and the working directory be there. If a stage before the write fails, and not
for want of an account of the vocabulary, the generation fails with its fault, and all files are as
they were. If the generation returns, nothing has changed but the output file, which holds the final
text, and directories above it that were not there. The line feeds that are counted are those of the
text. The bytes are those of the text just if the path leads to no device, or if there are none. Without
the formatter the final text is the one assembled from the declarations. -/
theorem generate_allOrNothing {x y : Session} {result : Except Fault WrittenFile}
    (hrun : ∀ words input r, run x.tree words input = .ok r → r.tree = x.tree)
    (hplain : c.output.IsPlain) (hworking : x.tree.Stands x.tree.working)
    (h : (generate run c).run.run x = (result, y)) :
    (∀ fault, fault ≠ .document .unaccounted →
      (Generation.finalText run c x.tree).1 = .error fault →
        result = .error fault ∧ y.tree = x.tree) ∧
    ∀ file, result = .ok file →
      ∃ text, (Generation.finalText run c x.tree).1 = .ok text ∧
        file.IsOf x.tree y.tree c.output text ∧
        (file.byteCount = (Text.encode text).length ↔
          text = [] ∨ ∀ place, y.tree.follow c.output ≠ .ok (place, some .sink)) ∧
        (c.format = false → ∃ v lines, Vocabulary.load x.tree c.spec = .ok v ∧
          declarationLines v.extract.1 v.extract.2 = .ok lines ∧
          (Provenance.ofVocabulary c.spec.name v).assemble? lines = some text) := by
  rcases htext : Generation.finalText run c x.tree with ⟨text, t₁⟩
  obtain rfl : t₁ = x.tree := by rw [← Generation.finalText_tree hrun, htext]
  constructor
  · rintro fault - rfl
    exact (ends_generate_error htext).eq h
  · rintro file rfl
    cases text with
    | error fault => cases ((ends_generate_error htext).eq h).1
    | ok text =>
      have hof := isOf_of_generate hplain hworking h htext
      refine ⟨text, rfl, hof, hof.byteCount_eq_iff, fun hformat => ?_⟩
      have hunformatted := Generation.finalText_eq_unformatted run x.tree hformat
      rw [htext] at hunformatted
      exact Generation.exists_of_unformatted hunformatted.symm

/-! ### A file and a device -/

/-- A formatter that gives the same bytes whatever it is given. -/
def constantRunner (output : List UInt8) : CommandRunner :=
  fun t _ _ => .ok ⟨t, 0, output, []⟩

/-- Files with a vocabulary, a configuration of the formatter and a device. -/
def smallTree : FileTree where
  nodes := [(["dev".toList], .directory), (["dev".toList, "null".toList], .sink),
    (["x.yaml".toList], .file (Text.encode "namespace: u".toList) false),
    ([".prettierrc".toList], .file [] false)]
  working := []

/-- The generation in these files that writes to a path. -/
def smallGeneration (output : Text) : GenerateConfig :=
  ⟨.ofText "x.yaml".toList, .ofText output, true, ["prettier".toList]⟩

/-- How it ends with a formatter that gives these bytes. -/
def smallRun (formatted : Text) (output : Text) : Except Fault WrittenFile × Session :=
  (generate (constantRunner (Text.encode formatted)) (smallGeneration output)).run.run
    (.ofTree smallTree)

/-- So it is where the file and its directory are new. -/
theorem generate_allOrNothing_newDirectory :
    ∃ file y text place, smallRun "a\n".toList "src/o.ts".toList = (.ok file, y) ∧
      smallTree.WritesFile y.tree (.ofText "src/o.ts".toList) (Text.encode text) place ∧
      file.lineCount = Text.countOf '\n' text ∧ file.byteCount = (Text.encode text).length := by
  have hkeeps : ∀ words input r,
      constantRunner (Text.encode "a\n".toList) smallTree words input = .ok r →
        r.tree = smallTree := fun _ _ _ hr => Except.ok.inj hr ▸ rfl
  obtain ⟨file, hfile, htest⟩ := @Traversal.exists_of_toOption _ _
    (smallRun "a\n".toList "src/o.ts".toList).1 (fun file => decide (file.byteCount = 2))
    (by decide +kernel)
  rcases hrun : smallRun "a\n".toList "src/o.ts".toList with ⟨result, y⟩
  rw [hrun] at hfile
  subst hfile
  obtain ⟨text, -, hof, -⟩ :=
    (generate_allOrNothing hkeeps (Path.isPlain_ofText _) FileTree.stands_nil hrun).2 file rfl
  obtain ⟨⟨place, hwrites⟩, hbytes⟩ | ⟨-, -, hbytes⟩ := hof.change
  · exact ⟨file, y, text, place, rfl, hwrites, hof.lineCount, hbytes⟩
  · simp [hbytes] at htest

/-- To a device nothing is written: the run returns, but its count of bytes is not that of the text,
and the path leads to no file with them. -/
theorem generate_device_keepsNothing :
    ∃ file y text, smallRun "a\n".toList "/dev/null".toList = (.ok file, y) ∧
      (Generation.finalText (constantRunner (Text.encode "a\n".toList))
        (smallGeneration "/dev/null".toList) smallTree).1 = .ok text ∧
      file.byteCount ≠ (Text.encode text).length ∧
      ∀ place bytes executable,
        y.tree.follow (.ofText "/dev/null".toList)
          ≠ .ok (place, some (.file bytes executable)) := by
  obtain ⟨text, htext, hlength⟩ := @Traversal.exists_of_toOption _ _
    (Generation.finalText (constantRunner (Text.encode "a\n".toList))
        (smallGeneration "/dev/null".toList) smallTree).1
    (fun text => decide ((Text.encode text).length = 2)) (by decide +kernel)
  obtain ⟨file, hfile, hzero⟩ := @Traversal.exists_of_toOption _ _
    (smallRun "a\n".toList "/dev/null".toList).1 (fun file => decide (file.byteCount = 0))
    (by decide +kernel)
  obtain ⟨found, hfound, hsink⟩ := @Traversal.exists_of_toOption _ _
    ((smallRun "a\n".toList "/dev/null".toList).2.tree.follow (.ofText "/dev/null".toList))
    (fun found => decide (found.2 = some .sink)) (by decide +kernel)
  rcases hrun : smallRun "a\n".toList "/dev/null".toList with ⟨result, y⟩
  rw [hrun] at hfile hfound
  subst hfile
  refine ⟨file, y, text, rfl, htext, ?_, fun place bytes executable hfollow => ?_⟩
  · rw [of_decide_eq_true hzero, of_decide_eq_true hlength]
    decide
  · obtain rfl := Except.ok.inj (hfound.symm.trans hfollow)
    simp at hsink

end DomBindings
