import DomBindings.CommandLine.Arguments
import DomBindings.CommandLine.Words
import DomBindings.FileSystem.Access

/-!
# Configurations

What a run of the program is to do, made of its arguments: to report on a vocabulary or to generate
the module. Arguments that contradict each other, a vocabulary file that is not there, a name that
is none and an empty command line of the formatter are refused, in this order.
-/

namespace DomBindings

/-- The code under which an error of a configuration is reported. -/
inductive ConfigCode where
  /-- reporting and generating are asked for at once -/
  | conflict
  /-- a filter is given, but no list is asked for -/
  | filterWithoutList
  /-- the name of an element is none -/
  | invalidElementName
  /-- the command line of the formatter has no words -/
  | invalidCommand
  /-- a path leads nowhere -/
  | pathNotFound
deriving DecidableEq, Repr

namespace ConfigCode

/-- The name of a code. -/
def name : ConfigCode → Text
  | .conflict => "CONFLICT_GENERATE_DISCOVERY".toList
  | .filterWithoutList => "FILTER_WITHOUT_LIST".toList
  | .invalidElementName => "INVALID_ELEMENT_NAME".toList
  | .invalidCommand => "INVALID_PRETTIER_COMMAND".toList
  | .pathNotFound => "PATH_NOT_FOUND".toList

/-- All codes. -/
def all : List ConfigCode :=
  [.conflict, .filterWithoutList, .invalidElementName, .invalidCommand, .pathNotFound]

/-- The code with a name. -/
def ofName? (s : Text) : Option ConfigCode :=
  all.find? (·.name = s)

/-- The wording for a name that no code has. -/
def unknownMessage (s : Text) : Text :=
  "Unknown config error code: ".toList ++ s

end ConfigCode

/-- What is wrong with a configuration. -/
inductive ConfigError where
  /-- reporting and generating are asked for at once -/
  | conflict
  /-- a filter is given, but no list is asked for -/
  | filterWithoutList
  /-- the name of an element is none -/
  | invalidElementName (name : Text)
  /-- the command line of the formatter has no words -/
  | emptyCommand
  /-- an option that needs a path has none; the advice may be given -/
  | pathMissing (flag : Text) (advice : Option Text)
  /-- the path of an option leads nowhere; the advice may be given -/
  | pathNotFound (flag path : Text) (advice : Option Text)
deriving DecidableEq, Repr

namespace ConfigError

/-- The code under which an error is reported. -/
def code : ConfigError → ConfigCode
  | .conflict => .conflict
  | .filterWithoutList => .filterWithoutList
  | .invalidElementName _ => .invalidElementName
  | .emptyCommand => .invalidCommand
  | .pathMissing _ _ | .pathNotFound _ _ _ => .pathNotFound

/-- The wording of an error. -/
def message : ConfigError → Text
  | .conflict => "Generate flags cannot be combined with discovery flags.".toList
  | .filterWithoutList => "--filter requires --list-elements.".toList
  | .invalidElementName name => "Invalid element name: ".toList ++ Text.literal name
  | .emptyCommand => "--prettier-command must not be empty.".toList
  | .pathMissing flag _ => flag ++ " is required: no path provided.".toList
  | .pathNotFound flag path _ =>
    "Path for ".toList ++ flag ++ " does not exist: ".toList ++ path

/-- The advice that is given, or else this one. An empty one counts as none. -/
def orElse (advice : Option Text) (other : Text) : Text :=
  match advice with
  | some (c :: rest) => c :: rest
  | _ => other

/-- What to do about an error. -/
def advice : ConfigError → Text
  | .conflict => "Choose either generate mode or one discovery command.".toList
  | .filterWithoutList => "Add --list-elements or remove --filter.".toList
  | .invalidElementName _ =>
    "Pass a single element name without whitespace (for example --info div).".toList
  | .emptyCommand =>
    "Pass a command line, for example --prettier-command \"npx prettier\".".toList
  | .pathMissing flag given =>
    orElse given
      ("Pass the path explicitly: ".toList ++ flag ++ " /path/to/resource".toList)
  | .pathNotFound _ _ given => orElse given "Provide an existing path for this flag.".toList

end ConfigError

/-- Why a configuration cannot be made of arguments. -/
inductive ConfigFault where
  /-- something is wrong with it -/
  | config (e : ConfigError)
  /-- the command line of the formatter cannot be divided -/
  | words (e : CommandLine.WordsError)
  /-- the file system cannot tell what a path leads to -/
  | file (e : FileError)
deriving DecidableEq, Repr

/-- The kinds of reports. -/
inductive ReportKind where
  /-- the table of the elements -/
  | listElements
  /-- the detail of an element -/
  | info
  /-- a name that no kind has -/
  | unknown (name : Text)
deriving DecidableEq, Repr

/-- The name of a kind of report. -/
def ReportKind.name : ReportKind → Text
  | .listElements => "list-elements".toList
  | .info => "info".toList
  | .unknown name => name

/-- The kind of report that has a name. -/
def ReportKind.ofName (s : Text) : ReportKind :=
  if s = ReportKind.listElements.name then .listElements
  else if s = ReportKind.info.name then .info
  else .unknown s

/-- A report on a vocabulary. -/
structure DiscoveryConfig where
  /-- what is reported -/
  kind : ReportKind
  /-- which elements are listed -/
  filter : Option Text
  /-- the element that is described -/
  element : Option Text
  /-- the file with the vocabulary -/
  spec : Path
deriving DecidableEq, Repr

/-- A generation of the module. -/
structure GenerateConfig where
  /-- the file with the vocabulary -/
  spec : Path
  /-- the file to be written -/
  output : Path
  /-- whether the module is formatted -/
  format : Bool
  /-- the command of the formatter -/
  command : List Text
deriving DecidableEq, Repr

/-- What a run of the program is to do. -/
inductive Config where
  /-- to report on a vocabulary -/
  | discovery (c : DiscoveryConfig)
  /-- to generate the module -/
  | generate (c : GenerateConfig)
deriving DecidableEq, Repr

namespace Config

/-- The file with the vocabulary. -/
def spec : Config → Path
  | .discovery c => c.spec
  | .generate c => c.spec

/-- The file that is written when none is named. -/
def defaultOutput : Path :=
  .ofText "src/html.ts".toList

/-- The command of the formatter when none is given. -/
def defaultCommand : List Text :=
  ["npx", "--no-install", "prettier"].map String.toList

/-- The advice for the vocabulary file. -/
def specAdvice : Text :=
  "Pass the vocabulary file explicitly: --spec /path/to/html.yaml".toList

/-! ### The parts of a configuration -/

/-- Whether a text is a word without blanks. A line feed at its end does not count. -/
def isElementName (s : Text) : Bool :=
  let word := if s.getLast? = some '\n' then s.dropLast else s
  !word.isEmpty && word.all fun c => !Text.isBlank c

/-- Checks the name of an element. -/
def checkElementName (name : Text) : Except ConfigError Text :=
  if isElementName name then .ok name else .error (.invalidElementName name)

/-- Checks that the path of an option leads somewhere. -/
def checkPath (t : FileTree) (p : Option Path) (flag : Text) (advice : Option Text) :
    Except ConfigFault Path :=
  match p with
  | none => .error (.config (.pathMissing flag advice))
  | some p =>
    match t.leadsSomewhere p with
    | .ok true => .ok p
    | .ok false => .error (.config (.pathNotFound flag p.text advice))
    | .error e => .error (.file e)

/-- The command of the formatter that a command line gives. -/
def readCommand (commandLine : Option Text) : Except ConfigFault (List Text) :=
  match commandLine with
  | none => .ok defaultCommand
  | some s =>
    match CommandLine.words s with
    | .ok [] => .error (.config .emptyCommand)
    | .ok words => .ok words
    | .error e => .error (.words e)

end Config

namespace Arguments

/-- Whether something is asked for that only generating does. -/
def wantsGeneration (a : Arguments) : Bool :=
  a.output.isSome || a.noFormat || a.formatter.isSome

/-- Whether a report is asked for. -/
def wantsReport (a : Arguments) : Bool :=
  a.listElements || a.info.isSome

end Arguments

namespace Config

/-- The report that arguments ask for. -/
def discoveryOf (a : Arguments) (spec : Path) : Except ConfigError DiscoveryConfig := do
  let element ← a.info.mapM checkElementName
  return ⟨if a.listElements then .listElements else .info, a.filter, element, spec⟩

/-- The generation that arguments ask for. -/
def generateOf (a : Arguments) (spec : Path) : Except ConfigFault GenerateConfig := do
  let command ← readCommand a.formatter
  return ⟨spec, a.output.getD defaultOutput, !a.noFormat, command⟩

/-- The configuration that arguments ask for. -/
def ofArguments (t : FileTree) (a : Arguments) : Except ConfigFault Config :=
  if a.filter.isSome && !a.listElements then .error (.config .filterWithoutList)
  else if a.wantsGeneration && a.wantsReport then .error (.config .conflict)
  else do
    let spec ← checkPath t a.spec "--spec".toList (some specAdvice)
    if a.wantsReport then
      match discoveryOf a spec with
      | .ok c => return .discovery c
      | .error e => .error (.config e)
    else return .generate (← generateOf a spec)

end Config

end DomBindings
