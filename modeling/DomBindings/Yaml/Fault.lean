import DomBindings.Calendar
import DomBindings.Number.Integer

/-!
# Faults of documents

Why a text does not load. The five kinds of faults that concern the format are told apart only by
what was being done with the text; the others come from scalars whose text does not make a value of
the kind they claim.

Two things may stand in a document that have no place here: half of a surrogate pair, which an escape
can write and no text holds, and a node that is part of itself. Of a document with one of them no
account is given (`Fault.unaccounted`): that it does not load here says nothing about it, and
statements about documents name the condition that it does not come up.
-/

namespace DomBindings.Yaml

/-- What was being done with a document that does not follow the format. -/
inductive Stage where
  /-- looking for characters that a document must not hold -/
  | reading
  /-- dividing the text into tokens -/
  | scanning
  /-- arranging tokens as nodes -/
  | parsing
  /-- following names to nodes and counting documents -/
  | composing
  /-- making values of nodes -/
  | constructing
deriving DecidableEq, Repr

/-- The name under which a fault at this stage is reported. -/
def Stage.title : Stage → Text
  | .reading => "ReaderError".toList
  | .scanning => "ScannerError".toList
  | .parsing => "ParserError".toList
  | .composing => "ComposerError".toList
  | .constructing => "ConstructorError".toList

/-- Why a text does not load. -/
inductive Fault where
  /-- the text does not follow the format -/
  | format (stage : Stage)
  /-- no account is given of the text -/
  | unaccounted
  /-- an escape names a code point beyond the last one -/
  | codePoint (wide : Bool)
  /-- an integer's text is no numeral, or too long a one -/
  | numeral (e : NumeralError)
  /-- a number's text has no characters where one is needed -/
  | emptyNumeral
  /-- a floating-point number's text is no decimal -/
  | decimal (text : Text)
  /-- a number in base sixty has too many places -/
  | tooManyPlaces
  /-- a truth value's text is none of the words for one -/
  | truthValue (text : Text)
  /-- a moment's text has not the form of one -/
  | moment
  /-- a moment is not written in a scalar -/
  | momentOfMapping
  /-- a moment's numbers make none -/
  | calendar (e : CalendarError)
deriving DecidableEq, Repr

/-- An escape stands for half of a surrogate pair. -/
@[match_pattern]
def Fault.halfCharacter : Fault :=
  .unaccounted

/-- A node is part of itself. -/
@[match_pattern]
def Fault.recursive : Fault :=
  .unaccounted

/-- The wording of a fault; one of the format is named by its stage. -/
def Fault.message : Fault → Text
  | .format stage => stage.title
  | .unaccounted => "no account is given of this text".toList
  | .codePoint true => "Python int too large to convert to C int".toList
  | .codePoint false => "chr() arg not in range(0x110000)".toList
  | .numeral e => e.message
  | .emptyNumeral => "string index out of range".toList
  | .decimal text => "could not convert string to float: ".toList ++ Text.literal text
  | .tooManyPlaces => "int too large to convert to float".toList
  | .truthValue text => Text.literal text
  | .moment => "'NoneType' object has no attribute 'groupdict'".toList
  | .momentOfMapping => "expected string or bytes-like object, got 'list'".toList
  | .calendar e => e.message

end DomBindings.Yaml
