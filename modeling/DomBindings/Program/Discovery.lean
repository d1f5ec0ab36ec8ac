import DomBindings.Program.Loading
import DomBindings.Program.Session
import DomBindings.Report.ElementDetail

/-!
# Discovery

Reports on a vocabulary file: the table of its elements, and the account of one element.
-/

namespace DomBindings

namespace Discovery

/-- The table of the elements, narrowed by a filter if there is one. -/
def elementTable (v : Vocabulary) (label : Text) (filter : Option Text) : Text :=
  let rows := ElementSummary.ofVocabulary v
  ElementSummary.table (filter.elim rows fun needle => ElementSummary.select needle rows) label

/-- The complaint about an element that is not there. -/
def notFound (name label : Text) : Text :=
  "Error: element '".toList ++ name ++ "' not found in ".toList ++ label

/-- Describes an element. -/
def describe (v : Vocabulary) (label : Text) : Option Text → Action Unit
  | none => Action.fail .noElement
  | some name => do
    match ← Action.orFail .ofSchema (ElementDetail.ofVocabulary v name) with
    | none =>
      Action.complainLine (notFound name label)
      Action.fail (.exit 1)
    | some d => Action.print d.render

end Discovery

/-- Reports on a vocabulary. -/
def discover (c : DiscoveryConfig) : Action Unit := do
  let v ← Action.ask fun t => Vocabulary.load t c.spec
  match c.kind with
  | .listElements => Action.print (Discovery.elementTable v c.spec.name c.filter)
  | .info => Discovery.describe v c.spec.name c.element
  | .unknown _ => return

end DomBindings
