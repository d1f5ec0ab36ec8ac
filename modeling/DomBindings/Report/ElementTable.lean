import DomBindings.Number.Integer
import DomBindings.Text.Layout
import DomBindings.Text.LetterCase
import DomBindings.Vocabulary.Basic

/-!
# The table of elements

One row for each element of a vocabulary, with the sizes of its tables, and the search for elements
by a part of their names. Names and interfaces fill columns as wide as the widest of them. The counts
of a vocabulary are sizes and are always short; rows from elsewhere may have any, and their table is
refused where one of them is too long for a numeral (`ElementSummary.write`).
-/

namespace DomBindings

/-- A row of the table. -/
structure ElementSummary where
  /-- the name of the element -/
  name : Text
  /-- its host interface -/
  host : Text
  /-- the number of its attributes -/
  attributeCount : Int
  /-- the number of its events -/
  eventCount : Int
deriving DecidableEq, Repr

namespace ElementSummary

/-- The row of an element. -/
def ofElement (name : Text) (e : Element) : ElementSummary :=
  ⟨name, e.host, e.interface.attributes.size, e.interface.events.size⟩

/-- The rows of a vocabulary. -/
def ofVocabulary (v : Vocabulary) : List ElementSummary :=
  v.elements.entries.map fun (name, e) => ofElement name e

/-- Whether a text occurs in the name, letter case aside. -/
def matchesText (needle : Text) (row : ElementSummary) : Bool :=
  Text.occursIn (Text.lower needle) (Text.lower row.name)

/-- The rows of which the name holds a text, letter case aside. -/
def select (needle : Text) (rows : List ElementSummary) : List ElementSummary :=
  if needle.isEmpty then rows else rows.filter (matchesText needle)

/-- The width of the column for the number of attributes. -/
def attributeColumn : Nat := 14

/-- The greatest of some widths. -/
def widest (texts : List Text) : Nat :=
  (texts.map List.length).foldl max 0

/-- The line of a row, with the widths of its columns. -/
def line (nameWidth hostWidth : Nat) (row : ElementSummary) : Text :=
  "  ".toList ++ row.name.rightpad nameWidth ' ' ++ "  ".toList
    ++ row.host.rightpad hostWidth ' ' ++ "  ".toList
    ++ (Text.signedNumeral row.attributeCount ++ " attributes".toList).rightpad attributeColumn ' '
    ++ Text.signedNumeral row.eventCount ++ " events".toList

/-- The lines of the rows. -/
def lines (rows : List ElementSummary) : List Text :=
  rows.map (line (widest (rows.map name)) (widest (rows.map host)))

/-- The table under its heading. -/
def table (rows : List ElementSummary) (label : Text) : Text :=
  Text.joinLines
    ([Text.numeral rows.length ++ " elements in ".toList ++ label ++ [':'], []]
      ++ lines rows ++ [[]])

/-- Whether numerals can be written for the counts of a row. -/
def isWritable (row : ElementSummary) : Bool :=
  (Numeral.write row.attributeCount).isOk && (Numeral.write row.eventCount).isOk

/-- The table of rows with any counts. -/
def write (rows : List ElementSummary) (label : Text) : Except NumeralError Text :=
  if rows.all isWritable then .ok (table rows label) else .error .tooLongToWrite

end ElementSummary

end DomBindings
