import DomBindings.FileSystem.Resolve
import DomBindings.Json
import DomBindings.Program.Fault

/-!
# The search for the formatter's configuration

The configuration that governs a file is the first in its directory, or else in the nearest
directory above that has one. In each directory the files of certain names are tried in order, and
last the package manifest, which counts if it has an entry for the formatter. Only files count, not
directories with such a name.
-/

namespace DomBindings

namespace ConfigSearch

/-- The names of configuration files, in the order in which they are tried. -/
def fileNames : List Text :=
  [".prettierrc", ".prettierrc.json", ".prettierrc.json5", ".prettierrc.yaml", ".prettierrc.yml",
   ".prettierrc.toml", ".prettierrc.js", ".prettierrc.cjs", ".prettierrc.mjs",
   "prettier.config.js", "prettier.config.cjs", "prettier.config.mjs"].map String.toList

/-- The name of the package manifest. -/
def manifestName : Text :=
  "package.json".toList

/-- The entry of the formatter in a package manifest. -/
def manifestEntry : Text :=
  "prettier".toList

/-- Whether bytes are a manifest with an entry for the formatter. What is no document has none. -/
def hasEntry (bytes : List UInt8) : Except Fault Bool :=
  match Text.ofFileBytes bytes with
  | .error e => .error (.encoding e)
  | .ok s =>
    match Json.read s with
    | .ok manifest => .ok (manifest.hasMember manifestEntry)
    | .error .malformed => .ok false
    | .error (.numeral e) => .error (.numeral e)

/-- Whether there is a configuration at the place of a candidate. -/
def qualifies (t : FileTree) (candidate : Place) : Except Fault Bool :=
  match t.isFile candidate.path with
  | .error e => .error (.file e)
  | .ok false => .ok false
  | .ok true =>
    if candidate.getLast? = some manifestName then
      match t.read candidate.path with
      | .error e => .error (.file e)
      | .ok bytes => hasEntry bytes
    else .ok true

/-- The first candidate at whose place there is a configuration. -/
def firstQualifying (t : FileTree) : List Place → Except Fault (Option Place)
  | [] => .ok none
  | candidate :: rest => do
    if ← qualifies t candidate then return some candidate else firstQualifying t rest

/-- A place and those above it, given its names from the last one to the first. -/
def upwardFrom : List Text → List Place
  | [] => [[]]
  | name :: above => (name :: above).reverse :: upwardFrom above

/-- A place and those above it. -/
def upward (place : Place) : List Place :=
  upwardFrom place.reverse

/-- The candidates in a directory. -/
def candidatesIn (directory : Place) : List Place :=
  (fileNames ++ [manifestName]).map fun name => directory ++ [name]

/-- The candidates for a file, the nearest first. -/
def candidatesFor (target : Place) : List Place :=
  (upward target.dropLast).flatMap candidatesIn

end ConfigSearch

/-- The configuration that governs the file a path names. -/
def findFormatterConfig (t : FileTree) (target : Path) : Except Fault Path :=
  match t.resolve target with
  | .error e => .error (.file e)
  | .ok place => do
    match ← ConfigSearch.firstQualifying t (ConfigSearch.candidatesFor place) with
    | some found => return found.path
    | none => .error (.formatter (.noConfig target.text))

end DomBindings
