import DomBindings.CommandLine.Config
import DomBindings.Declarations.Preamble
import DomBindings.SchemaError
import DomBindings.Yaml.Fault

/-!
# Faults of a run

Why a part of a run fails, by cause.
-/

namespace DomBindings

/-- Why the module cannot be formatted. -/
inductive FormatterError where
  /-- there is no configuration for the file that is to be written -/
  | noConfig (target : Text)
  /-- there is no such command -/
  | commandNotFound (command : Text)
  /-- the command fails; what it says about that is shown -/
  | commandFailed (target detail : Text)
deriving DecidableEq, Repr

/-- The wording of an error. -/
def FormatterError.message : FormatterError → Text
  | .noConfig target => "failed to find prettier config for ".toList ++ target
  | .commandNotFound command => "formatter command not found: ".toList ++ command
  | .commandFailed target detail =>
    "formatter failed for ".toList ++ target ++ ": ".toList ++ detail

/-- Why a part of a run fails. -/
inductive Fault where
  /-- something is wrong with the configuration -/
  | config (e : ConfigError)
  /-- the command line of the formatter cannot be divided into words -/
  | words (e : CommandLine.WordsError)
  /-- the vocabulary has not the form of one -/
  | schema (e : SchemaError)
  /-- the module cannot be formatted -/
  | formatter (e : FormatterError)
  /-- the document does not load -/
  | document (f : Yaml.Fault)
  /-- an access to the file system fails -/
  | file (e : FileError)
  /-- bytes are no text -/
  | encoding (e : Text.Utf8Error)
  /-- a number cannot be read or written -/
  | numeral (e : NumeralError)
  /-- the file with the vocabulary has no name -/
  | noSource
  /-- no element is named that could be described -/
  | noElement
  /-- the command of the formatter has no words -/
  | noCommand
  /-- the run ends with this status -/
  | exit (status : Nat)
deriving Repr

namespace Fault

/-- The wording of a fault. -/
def message : Fault → Text
  | .config e => e.message
  | .words e => e.message
  | .schema e =>
    match e.message with
    | .ok s => s
    | .error unwritable => unwritable.message
  | .formatter e => e.message
  | .document f => f.message
  | .file e => e.message
  | .encoding e => e.message
  | .numeral e => e.message
  | .noSource => Provenance.noSourceMessage
  | .noElement => []
  | .noCommand => "tuple index out of range".toList
  | .exit status => Text.numeral status

/-- The fault that an error of a vocabulary makes. One that cannot be worded, because a number in it
has too many digits, is a fault of that number. -/
def ofSchema (e : SchemaError) : Fault :=
  match e.message with
  | .ok _ => .schema e
  | .error unwritable => .numeral unwritable

/-- The fault that an error in reading a vocabulary makes. -/
def ofRead : ReadError → Fault
  | .schema e => .ofSchema e
  | .numeral e => .numeral e

/-- The fault that an error in making a configuration makes. -/
def ofConfig : ConfigFault → Fault
  | .config e => .config e
  | .words e => .words e
  | .file e => .file e

end Fault

end DomBindings
