import DomBindings.Formatter.Command
import DomBindings.Formatter.ConfigSearch
import DomBindings.Program.Loading
import DomBindings.Program.Writing

/-!
# Generation

From a vocabulary file to the module: the configuration of the formatter is looked for, the
vocabulary is loaded, the declarations are made, formatted and written, and an account is printed.
All that can fail without the file that is written comes before it is written.
-/

namespace DomBindings

namespace Generation

/-- A module that is ready to be written. -/
structure Draft where
  /-- where it comes from -/
  provenance : Provenance
  /-- the vocabulary without what its elements share -/
  pruned : Vocabulary
  /-- what its elements share -/
  shared : Interface
  /-- its text -/
  text : Text

/-- The text of the module of a vocabulary, before it is formatted. -/
def sourceText (p : Provenance) (pruned : Vocabulary) (shared : Interface) : Except Fault Text :=
  match declarationLines pruned shared with
  | .error e => .error (.ofSchema e)
  | .ok lines =>
    match p.assemble? lines with
    | none => .error .noSource
    | some text => .ok text

/-- The configuration of the formatter, if the module is to be formatted. -/
def findConfig (c : GenerateConfig) (t : FileTree) : Except Fault (Option Path) :=
  if c.format then some <$> findFormatterConfig t c.output else .ok none

/-- Formats a module, which may change the files. -/
def formatWith (run : CommandRunner) (c : GenerateConfig) (config : Path) (source : Text) :
    Action Text := do
  let (result, t) := Formatter.format run (← get).tree source c.output config c.command
  modify fun x => { x with tree := t }
  Action.orFail id result

/-- Makes the text of the module, and prints what is done on the way. -/
def draft (run : CommandRunner) (c : GenerateConfig) : Action Draft := do
  let config ← Action.ask (findConfig c)
  Action.printLine ("Loading: ".toList ++ c.spec.text)
  let v ← Action.ask fun t => Vocabulary.load t c.spec
  Action.printLine
    ("  Vocabulary: ".toList ++ Text.numeral v.elements.size ++ " elements".toList)
  let (pruned, shared) := v.extract
  Action.printLine
    ("  Common: ".toList ++ Text.numeral shared.attributes.size ++ " attributes, ".toList
      ++ Text.numeral shared.events.size ++ " events".toList)
  let provenance := Provenance.ofVocabulary c.spec.name v
  let source ← Action.orFail id (sourceText provenance pruned shared)
  match config with
  | none => return ⟨provenance, pruned, shared, source⟩
  | some config =>
    Action.printLine ("  Formatting: ".toList ++ config.text)
    return ⟨provenance, pruned, shared, ← formatWith run c config source⟩

/-- Prints the account of a module that has been written. -/
def account (d : Draft) (file : WrittenFile) : Action Unit := do
  Action.printLine
    ("  Written: ".toList ++ Text.signedNumeral file.lineCount ++ " lines to ".toList ++ file.path)
  Action.print (GenerationSummary.of d.provenance d.pruned d.shared file).render

end Generation

/-- Generates the module of a vocabulary. -/
def generate (run : CommandRunner) (c : GenerateConfig) : Action WrittenFile := do
  let d ← Generation.draft run c
  let file ← writeModule c.output d.text
  Generation.account d file
  return file

end DomBindings
