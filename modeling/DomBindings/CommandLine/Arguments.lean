import DomBindings.FileSystem.Path
import DomBindings.Text.Digit
import DomBindings.Text.Literal

/-!
# Arguments

The options of the program and how they are read from its arguments. A long option may be cut short
as long as that leaves one, and may have its value behind an equals sign. What begins with a hyphen
is taken for an option, unless it is a negative number or has a space in it.

Reading has two passes, and an argument that could be two options is refused in the first one:
`classifyAll` says what each argument is, and `apply` takes options and values together.
-/

namespace DomBindings

/-- What the arguments of the program ask for. -/
structure Arguments where
  /-- the file with the vocabulary -/
  spec : Option Path
  /-- the file to be written -/
  output : Option Path
  /-- whether the module is not to be formatted -/
  noFormat : Bool
  /-- the command line of the formatter -/
  formatter : Option Text
  /-- whether the elements are to be listed -/
  listElements : Bool
  /-- the element to be described -/
  info : Option Text
  /-- which elements are to be listed -/
  filter : Option Text
deriving DecidableEq, Repr

/-- The options of the program. -/
inductive ProgramOption where
  /-- explains the options -/
  | help
  /-- names the file with the vocabulary -/
  | spec
  /-- names the file to be written -/
  | output
  /-- leaves the module as it is -/
  | noFormat
  /-- gives the command line of the formatter -/
  | formatter
  /-- lists the elements -/
  | listElements
  /-- describes an element -/
  | info
  /-- narrows the list of elements -/
  | filter
deriving DecidableEq, Repr

namespace ProgramOption

/-- All options, in the order in which they are explained. -/
def all : List ProgramOption :=
  [.help, .spec, .output, .noFormat, .formatter, .listElements, .info, .filter]

/-- The long name of an option. -/
def name : ProgramOption → Text
  | .help => "--help".toList
  | .spec => "--spec".toList
  | .output => "--output".toList
  | .noFormat => "--no-format".toList
  | .formatter => "--prettier-command".toList
  | .listElements => "--list-elements".toList
  | .info => "--info".toList
  | .filter => "--filter".toList

/-- The option as errors name it. -/
def title (o : ProgramOption) : Text :=
  if o = .help then "-h/--help".toList else o.name

/-- Whether an option has a value. -/
def takesValue : ProgramOption → Bool
  | .help | .noFormat | .listElements => false
  | _ => true

end ProgramOption

/-- Why the arguments cannot be read. -/
inductive ArgumentsError where
  /-- an argument could be any of several options -/
  | ambiguous (argument : Text) (options : List ProgramOption)
  /-- there are arguments that are no options and belong to none -/
  | unrecognized (arguments : List Text)
  /-- an option lacks its value -/
  | valueMissing (o : ProgramOption)
  /-- an option that has no value is given one -/
  | valueIgnored (o : ProgramOption) (value : Text)
  /-- an option is given with another that excludes it -/
  | excluded (o other : ProgramOption)
deriving DecidableEq, Repr

/-- The wording of an error. -/
def ArgumentsError.message : ArgumentsError → Text
  | .ambiguous argument options =>
    "ambiguous option: ".toList ++ argument ++ " could match ".toList
      ++ List.intercalate ", ".toList (options.map ProgramOption.name)
  | .unrecognized arguments =>
    "unrecognized arguments: ".toList ++ List.intercalate [' '] arguments
  | .valueMissing o => about o "expected one argument".toList
  | .valueIgnored o value => about o ("ignored explicit argument ".toList ++ Text.literal value)
  | .excluded o other => about o ("not allowed with argument ".toList ++ other.title)
where
  /-- The wording of what is wrong with an option. -/
  about (o : ProgramOption) (what : Text) : Text :=
    "argument ".toList ++ o.title ++ ": ".toList ++ what

/-- Why the program does not go on after its arguments. -/
inductive ArgumentsStop where
  /-- the options are to be explained -/
  | help
  /-- the arguments cannot be read -/
  | error (e : ArgumentsError)
deriving DecidableEq, Repr

namespace Arguments

/-- The arguments when nothing is asked for. -/
def initial : Arguments :=
  ⟨some (.ofText "machine-standards/dom/html.yaml".toList), none, false, none, false, none, none⟩

/-! ### What each argument is -/

/-- What an argument is by itself. -/
inductive Kind where
  /-- a value, or nothing that is known -/
  | value (s : Text)
  /-- nothing that is known, and no value -/
  | stray (s : Text)
  /-- an option, perhaps with a value behind an equals sign -/
  | option (o : ProgramOption) (value : Option Text)
  /-- the short name of the help option, and what follows it -/
  | shortHelp (tail : Text)
deriving DecidableEq, Repr

/-- Divides a text at its first equals sign. -/
def splitValue (s : Text) : Text × Option Text :=
  match s.dropWhile (· ≠ '=') with
  | [] => (s, none)
  | _ :: value => (s.takeWhile (· ≠ '='), some value)

/-- Whether there is at least one digit, and nothing else but a line feed at the end. -/
def isDigits (s : Text) : Bool :=
  let digits := if s.getLast? = some '\n' then s.dropLast else s
  !digits.isEmpty && digits.all fun c => (Text.digitValue? c).isSome

/-- Whether a text is a negative number: a hyphen and digits, among them a point. -/
def isNegativeNumber : Text → Bool
  | '-' :: s =>
    isDigits s ||
      match s.dropWhile fun c => (Text.digitValue? c).isSome with
      | '.' :: fraction => isDigits fraction
      | _ => false
  | _ => false

/-- The options that a text is the name of, or the beginning of the name. -/
def candidates (s : Text) : List ProgramOption :=
  match ProgramOption.all.filter (·.name = s) with
  | [] => ProgramOption.all.filter (s.isPrefixOf ·.name)
  | exact => exact

/-- What an argument is that begins with a hyphen and names no option. -/
def unnamed (s : Text) : Kind :=
  if isNegativeNumber s || s.contains ' ' then .value s else .stray s

/-- What an argument is. -/
def classify (s : Text) : Except ArgumentsError Kind :=
  match s with
  | '-' :: '-' :: _ =>
    let (name, value) := splitValue s
    match candidates name with
    | [] => .ok (unnamed s)
    | [o] => .ok (.option o value)
    | options => .error (.ambiguous s options)
  | '-' :: 'h' :: tail => .ok (.shortHelp tail)
  | '-' :: _ :: _ => .ok (unnamed s)
  | _ => .ok (.value s)

/-- What the arguments are. Behind two hyphens there are no options. -/
def classifyAll : List Text → Except ArgumentsError (List Kind)
  | [] => .ok []
  | s :: rest =>
    if s = ['-', '-'] then .ok (.stray s :: rest.map .value)
    else do return (← classify s) :: (← classifyAll rest)

/-! ### Options and values together -/

/-- The value that the help option is wrongly given by what follows its short name. The short name
may be given several times behind one hyphen, the first time with an equals sign behind it. -/
def helpValue? : Text → Option Text
  | [] => none
  | ['='] => some []
  | '=' :: tail | tail => beyondRepeats tail
where
  /-- What is left when the letter of the option is dropped as often as it stands at the front. -/
  beyondRepeats (tail : Text) : Option Text :=
    match tail.dropWhile (· = 'h') with
    | [] => none
    | value => some value

/-- Takes an option that has no value. -/
def takeFlag (a : Arguments) : ProgramOption → Except ArgumentsStop Arguments
  | .help => .error .help
  | .listElements =>
    if a.info.isSome then .error (.error (.excluded .listElements .info))
    else .ok { a with listElements := true }
  | .noFormat => .ok { a with noFormat := true }
  | _ => .ok a

/-- Takes an option with its value. -/
def takeValue (a : Arguments) (value : Text) : ProgramOption → Except ArgumentsStop Arguments
  | .spec => .ok { a with spec := some (.ofText value) }
  | .output => .ok { a with output := some (.ofText value) }
  | .formatter => .ok { a with formatter := some value }
  | .info =>
    if a.listElements then .error (.error (.excluded .info .listElements))
    else .ok { a with info := some value }
  | .filter => .ok { a with filter := some value }
  | _ => .ok a

/-- Takes the arguments one after the other; those that belong nowhere are collected. -/
def apply (a : Arguments) (extras : List Text) : List Kind → Except ArgumentsStop Arguments
  | [] => if extras.isEmpty then .ok a else .error (.error (.unrecognized extras))
  | .value s :: rest => apply a (extras ++ [s]) rest
  | .stray s :: rest => apply a (extras ++ [s]) rest
  | .shortHelp tail :: _ =>
    match helpValue? tail with
    | some value => .error (.error (.valueIgnored .help value))
    | none => .error .help
  | .option o (some value) :: rest =>
    if o.takesValue then do apply (← takeValue a value o) extras rest
    else .error (.error (.valueIgnored o value))
  | .option o none :: rest =>
    if o.takesValue then
      match rest with
      | .value value :: rest => do apply (← takeValue a value o) extras rest
      | _ => .error (.error (.valueMissing o))
    else do apply (← takeFlag a o) extras rest

/-- What the arguments ask for. -/
def ofTexts (arguments : List Text) : Except ArgumentsStop Arguments :=
  match classifyAll arguments with
  | .ok kinds => apply initial [] kinds
  | .error e => .error (.error e)

/-! ### The explanation -/

/-- How the program is called. -/
def usage : Text :=
  Text.joinLines (["usage: domgen [-h] [--spec SPEC] [--output OUTPUT] [--no-format]",
    "              [--prettier-command PRETTIER_COMMAND]",
    "              [--list-elements | --info INFO] [--filter FILTER]", ""].map String.toList)

/-- The explanation of the options. -/
def explanation : Text :=
  usage ++ Text.joinLines (["", "Generate TypeScript DOM element bindings from a vocabulary", "",
    "options:", "  -h, --help            show this help message and exit", "  --spec SPEC",
    "  --output OUTPUT", "  --no-format", "  --prettier-command PRETTIER_COMMAND",
    "  --list-elements", "  --info INFO", "  --filter FILTER", ""].map String.toList)

/-- What is said about arguments that cannot be read. -/
def complaint (e : ArgumentsError) : Text :=
  usage ++ "domgen: error: ".toList ++ e.message ++ ['\n']

end Arguments

end DomBindings
