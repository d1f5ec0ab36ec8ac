import DomBindings.FileSystem.Access
import DomBindings.Shell.Printing

/-!
# Utilities

The commands that need no shell: each takes its arguments, its input and the files, and says what
came of it.
-/

namespace DomBindings.Shell

/-- What a utility is given. -/
structure UtilityCall where
  /-- its name -/
  name : Text
  /-- the name that it complains under -/
  title : Text
  /-- its arguments -/
  arguments : List Text
  /-- its input -/
  input : List UInt8
  /-- the files -/
  tree : FileTree

/-- What came of a utility. -/
structure UtilityResult where
  /-- the files after it -/
  tree : FileTree
  /-- what is left of its input -/
  input : List UInt8
  /-- its output -/
  output : List UInt8
  /-- what it complained about -/
  errors : List UInt8
  /-- its status -/
  status : Nat

namespace UtilityCall

/-- Prints these bytes, and leaves the input as it is. -/
def done (c : UtilityCall) (output : List UInt8) : UtilityResult :=
  ⟨c.tree, c.input, output, [], 0⟩

/-- Prints these bytes after it has read all input. -/
def doneReading (c : UtilityCall) (output : List UInt8) : UtilityResult :=
  ⟨c.tree, [], output, [], 0⟩

/-- Complains in lines. -/
def complain (c : UtilityCall) (lines : List Text) : UtilityResult :=
  ⟨c.tree, c.input, [],
    lines.flatMap fun line => Text.encode (c.title ++ ": ".toList ++ line ++ ['\n']), 1⟩

/-- Complains, and says where there is help. -/
def misused (c : UtilityCall) (line : Text) : UtilityResult :=
  let r := c.complain [line]
  { r with errors := r.errors
      ++ Text.encode ("Try '".toList ++ c.title ++ " --help' for more information.\n".toList) }

/-- The complaint about an option that does not exist, if an argument is one. The letters of the
short options that exist are given. -/
def badOption? (c : UtilityCall) (letters : Text) : Option UtilityResult :=
  let options := (c.arguments.takeWhile (· ≠ ['-', '-'])).filter fun s =>
    s.head? = some '-' && 1 < s.length
  options.findSome? fun s =>
    match s with
    | '-' :: '-' :: _ =>
      some (c.misused ("unrecognized option '".toList ++ s.takeWhile (· ≠ '=') ++ ['\'']))
    | _ =>
      match (s.drop 1).find? fun x => !letters.contains x with
      | some x => some (c.misused ("invalid option -- '".toList ++ [x, '\'']))
      | none => none

/-- The arguments that are no options. -/
def operands (c : UtilityCall) : List Text :=
  let (options, rest) := (c.arguments.takeWhile (· ≠ ['-', '-']),
    c.arguments.dropWhile (· ≠ ['-', '-']))
  options.filter (fun s => s.head? ≠ some '-' || s.length = 1) ++ rest.drop 1

/-- Whether an option of one letter is given. -/
def hasFlag (c : UtilityCall) (letter : Char) : Bool :=
  (c.arguments.takeWhile (· ≠ ['-', '-'])).any fun s =>
    s.head? = some '-' && (s.drop 1).contains letter

/-- The file that an argument names, read; a hyphen names the input. -/
def readOperand (c : UtilityCall) (operand : Text) : Except Text (List UInt8) :=
  if operand = ['-'] then .ok c.input
  else if operand.isEmpty then .error ("\x27\x27: ".toList ++ FileCause.missing.message)
  else
    match c.tree.read (.ofText operand) with
    | .ok bytes => .ok bytes
    | .error (.refused cause _) => .error (operand ++ ": ".toList ++ cause.message)
    | .error e => .error e.message

end UtilityCall

/-! ### Copying and choosing -/

/-- Copies files, or the input, to the output. -/
def cat (c : UtilityCall) : UtilityResult :=
  match c.badOption? ['u'] with
  | some r => r
  | none =>
    let operands := if c.operands.isEmpty then [['-']] else c.operands
    operands.foldl (fun r operand =>
      match ({ c with input := r.input } : UtilityCall).readOperand operand with
      | .ok bytes =>
        { r with output := r.output ++ bytes, input := if operand = ['-'] then [] else r.input }
      | .error line =>
        { r with errors := r.errors ++ (c.complain [line]).errors, status := 1 }) (c.done [])

/-- Divides bytes into lines, each with its line feed. -/
def linesOf : List UInt8 → List (List UInt8)
  | [] => []
  | b :: rest =>
    if b = 10 then [10] :: linesOf rest
    else
      match linesOf rest with
      | [] => [[b]]
      | line :: lines => (b :: line) :: lines

/-- The count that an option gives, and what is counted. -/
def readCount? : List Text → Option (Char × Nat)
  | [] => some ('n', 10)
  | ('-' :: letter :: digits) :: rest =>
    if Text.isAsciiDigit letter && digits.all Text.isAsciiDigit && rest.isEmpty then
      some ('n', digitsNumber (letter :: digits))
    else
      match digits, rest with
      | [], [count] =>
        if count.all Text.isAsciiDigit then some (letter, digitsNumber count) else none
      | digits, [] =>
        if digits.all Text.isAsciiDigit then some (letter, digitsNumber digits) else none
      | _, _ => none
  | _ => none

/-- Copies the beginning or the end of the input. -/
def part (fromStart : Bool) (c : UtilityCall) : UtilityResult :=
  match readCount? c.arguments with
  | some ('n', count) =>
    let lines := linesOf c.input
    c.doneReading
      (if fromStart then lines.take count else lines.drop (lines.length - count)).flatten
  | some ('c', count) =>
    c.doneReading
      (if fromStart then c.input.take count else c.input.drop (c.input.length - count))
  | _ =>
    match c.badOption? "nc".toList with
    | some r => r
    | none => c.misused "invalid arguments".toList

/-- Counts the lines, the words or the bytes of the input. -/
def count (c : UtilityCall) : UtilityResult :=
  let isSpace (b : UInt8) : Bool := b = 32 || (9 ≤ b && b ≤ 13)
  match c.arguments with
  | [['-', 'l']] => answer (c.input.count 10)
  | [['-', 'c']] => answer c.input.length
  | [['-', 'w']] =>
    answer (c.input.foldl (fun (inWord, n) b =>
      if isSpace b then (false, n) else (true, if inWord then n else n + 1))
      ((false, 0) : Bool × Nat)).2
  | _ =>
    match c.badOption? "lcw".toList with
    | some r => r
    | none => c.misused "invalid arguments".toList
where
  /-- The number in a line. -/
  answer (n : Nat) : UtilityResult :=
    c.doneReading (Text.encode (Text.numeral n ++ ['\n']))

/-! ### Replacing bytes -/

/-- The bytes of a class. -/
def classBytes (name : Text) : List UInt8 :=
  let range (first last : Char) : List UInt8 :=
    (List.range (last.toNat + 1 - first.toNat)).map fun i => UInt8.ofNat (first.toNat + i)
  if name = "upper".toList then range 'A' 'Z'
  else if name = "lower".toList then range 'a' 'z'
  else if name = "digit".toList then range '0' '9'
  else if name = "alpha".toList then range 'A' 'Z' ++ range 'a' 'z'
  else if name = "alnum".toList then range '0' '9' ++ range 'A' 'Z' ++ range 'a' 'z'
  else if name = "space".toList then [9, 10, 11, 12, 13, 32]
  else if name = "blank".toList then [9, 32]
  else []

/-- A byte of a set and the rest of what writes the set. -/
def readSetByte : List UInt8 → Option (UInt8 × List UInt8)
  | [] => none
  | 92 :: b :: rest =>
    let c := Char.ofNat b.toNat
    match escapeByte? c with
    | some e => some (e, rest)
    | none =>
      if isOctal c then
        let digits := ((b :: rest).take 3).takeWhile fun b => 48 ≤ b && b ≤ 55
        some (octalByte (digits.map fun b => Char.ofNat b.toNat), (b :: rest).drop digits.length)
      else some (b, rest)
  | b :: rest => some (b, rest)

/-- The bytes of a set, in order; the number bounds the steps. -/
def setBytes : Nat → List UInt8 → List UInt8
  | 0, _ => []
  | fuel + 1, s =>
    match s with
    | 91 :: 58 :: rest =>
      let name := rest.takeWhile (· ≠ 58)
      classBytes (name.map fun b => Char.ofNat b.toNat)
        ++ setBytes fuel (rest.drop (name.length + 2))
    | _ =>
      match readSetByte s with
      | none => []
      | some (first, rest) =>
        match rest with
        | 45 :: rest' =>
          match readSetByte rest' with
          | some (last, after) =>
            (List.range (last.toNat + 1 - first.toNat)).map (fun i => UInt8.ofNat (first.toNat + i))
              ++ setBytes fuel after
          | none => first :: setBytes fuel rest
        | _ => first :: setBytes fuel rest

/-- The byte that stands in another set where a byte stands in a set; the last byte of the other set
stands for all that it lacks. -/
def replaced (set other : List UInt8) (b : UInt8) : UInt8 :=
  match set.reverse.idxOf? b with
  | none => b
  | some i =>
    let place := set.length - 1 - i
    (other[place]?).getD (other.getLast?.getD b)

/-- Drops bytes of a set that repeat the byte before them. -/
def squeeze (set : List UInt8) : List UInt8 → List UInt8
  | a :: b :: rest =>
    if a = b && set.contains a then squeeze set (b :: rest) else a :: squeeze set (b :: rest)
  | s => s

/-- A text in typographic quotes. -/
def inQuotes (s : Text) : Text :=
  '‘' :: s ++ ['’']

/-- Replaces, drops or squeezes the bytes of a set in the input. Its options stand before the
sets. -/
def exchange (given : UtilityCall) : UtilityResult :=
  let isOption (s : Text) : Bool := s.head? = some '-' && 1 < s.length
  let sets := given.arguments.dropWhile isOption
  let c := { given with arguments := given.arguments.takeWhile isOption }
  match c.badOption? "cCds".toList with
  | some r => r
  | none =>
    let all := (List.range 256).map UInt8.ofNat
    let bytesOf (s : Text) : List UInt8 := setBytes (s.length * 4 + 1) (Text.encode s)
    let chosen (s : Text) : List UInt8 :=
      if c.hasFlag 'c' || c.hasFlag 'C' then all.filter fun b => !(bytesOf s).contains b
      else bytesOf s
    match sets with
    | [] => c.misused "missing operand".toList
    | [set] =>
      if c.hasFlag 'd' then c.doneReading (c.input.filter fun b => !(chosen set).contains b)
      else if c.hasFlag 's' then c.doneReading (squeeze (chosen set) c.input)
      else
        let r := c.misused "Two strings must be given when translating.".toList
        let first := c.complain ["missing operand after ".toList ++ inQuotes set]
        { r with errors := first.errors ++ r.errors.drop ((Text.encode c.title).length + 2) }
    | [set, other] =>
      let output := c.input.map (replaced (chosen set) (bytesOf other))
      c.doneReading (if c.hasFlag 's' then squeeze (bytesOf other) output else output)
    | _ :: _ :: extra :: _ => c.misused ("extra operand ".toList ++ inQuotes extra)

/-! ### Files -/

/-- Copies the input to the output and to files. -/
def tee (c : UtilityCall) : UtilityResult :=
  match c.badOption? "ai".toList with
  | some r => r
  | none =>
    c.operands.foldl (fun r operand =>
      match r.tree.write (.ofText operand) c.input with
      | .ok t => { r with tree := t }
      | .error (.refused cause _) =>
        { r with
          errors := r.errors ++ (c.complain [operand ++ ": ".toList ++ cause.message]).errors
          status := 1 }
      | .error _ => { r with status := 1 }) (c.doneReading c.input)

/-- Changes the files for each argument, and complains where that fails. -/
def onEach (c : UtilityCall) (letters : String) (what : String)
    (change : FileTree → Path → Except FileError FileTree) : UtilityResult :=
  match c.badOption? letters.toList with
  | some r => r
  | none =>
    c.operands.foldl (fun r operand =>
      match change r.tree (.ofText operand) with
      | .ok t => { r with tree := t }
      | .error (.refused cause _) =>
        { r with
          errors := r.errors ++ (c.complain
            [what.toList ++ " '".toList ++ operand ++ "': ".toList ++ cause.message]).errors
          status := 1 }
      | .error _ => { r with status := 1 }) (c.done [])

/-- Makes files that are missing. -/
def touch (c : UtilityCall) : UtilityResult :=
  onEach c "" "cannot touch" fun t p =>
    match t.locate p with
    | .ok (_, none) => t.write p []
    | .ok (_, some _) => .ok t
    | .error e => .error e

/-- Makes directories. -/
def makeDirectories (c : UtilityCall) : UtilityResult :=
  onEach c "p" "cannot create directory" fun t p =>
    if c.hasFlag 'p' then
      match t.makeDirectories p with
      | (.ok (), t) => .ok t
      | (.error e, _) => .error e
    else t.makeDirectory p

/-- Removes files, and with an option what is in directories. -/
def remove (c : UtilityCall) : UtilityResult :=
  onEach c "rf" "cannot remove" fun t p =>
    match t.locate p.parent with
    | .ok (place, some .directory) =>
      let there := place ++ [p.name]
      match t.node? there with
      | none => if c.hasFlag 'f' then .ok t else .error (.refused .missing p.text)
      | some .directory =>
        if c.hasFlag 'r' then
          .ok { t with nodes := t.nodes.filter fun (other, _) => !there.isPrefixOf other }
        else .error (.refused .isDirectory p.text)
      | some _ => .ok (t.erase there)
    | _ => if c.hasFlag 'f' then .ok t else .error (.refused .missing p.text)

/-! ### Conditions -/

/-- Whether the arguments of a condition are true, if they are one. -/
def holds? (t : FileTree) : List Text → Option Bool
  | [] => some false
  | ['!'] :: rest => (holds? t rest).map (!·)
  | [s] => some (!s.isEmpty)
  | [op, s] =>
    let is (question : FileTree → Path → Except FileError Bool) : Option Bool :=
      some (match question t (.ofText s) with | .ok b => b | .error _ => false)
    if op = "-z".toList then some s.isEmpty
    else if op = "-n".toList then some (!s.isEmpty)
    else if op = "-f".toList then is FileTree.isFile
    else if op = "-d".toList then is FileTree.isDirectory
    else if op = "-e".toList then is FileTree.leadsSomewhere
    else none
  | [a, op, b] =>
    if op = ['='] then some (a = b)
    else if op = "!=".toList then some (a ≠ b)
    else
      match argumentNumber? a, argumentNumber? b with
      | some m, some n =>
        if op = "-eq".toList then some (m = n)
        else if op = "-ne".toList then some (m ≠ n)
        else if op = "-lt".toList then some (m < n)
        else if op = "-le".toList then some (m ≤ n)
        else if op = "-gt".toList then some (m > n)
        else if op = "-ge".toList then some (m ≥ n)
        else none
      | _, _ => none
  | _ => none

/-- Answers a condition by its status. -/
def condition (c : UtilityCall) : UtilityResult :=
  let arguments :=
    if c.name = ['['] && c.arguments.getLast? = some [']'] then c.arguments.dropLast
    else c.arguments
  match holds? c.tree arguments with
  | some true => c.done []
  | some false => { c.done [] with status := 1 }
  | none => { c.complain ["unexpected operator".toList] with status := 2 }

/-! ### All utilities -/

/-- Prints the arguments through the first one as a format. -/
def printf (c : UtilityCall) : UtilityResult :=
  match c.arguments with
  | [] => { c.complain ["usage: printf format [arg ...]".toList] with status := 2 }
  | ['-', '-'] :: format :: rest | format :: rest =>
    c.done (printAll format (rest.length + 1) rest)

/-- The utilities that have a file of their own. -/
def utilities : List (Text × (UtilityCall → UtilityResult)) :=
  [("true", fun c => c.done []), ("false", fun c => { c.done [] with status := 1 }),
   ("echo", fun c => c.done (echoPlain c.arguments)), ("printf", printf), ("cat", cat),
   ("head", part true), ("tail", part false), ("wc", count), ("tr", exchange), ("tee", tee),
   ("touch", touch), ("mkdir", makeDirectories), ("rm", remove), ("test", condition),
   ("[", condition), ("sleep", fun c => (c.badOption? []).getD (c.done []))].map
  fun (name, run) => (name.toList, run)

/-- The utilities that a shell has in itself. -/
def builtins : List (Text × (UtilityCall → UtilityResult)) :=
  [(":", fun c => c.done []), ("true", fun c => c.done []),
   ("false", fun c => { c.done [] with status := 1 }),
   ("echo", fun c => c.done (echoEscaped c.arguments)), ("printf", printf),
   ("test", condition), ("[", condition),
   ("pwd", fun c => c.done (Text.encode (c.tree.working.path.text ++ ['\n'])))].map
    fun (name, run) => (name.toList, run)

end DomBindings.Shell
