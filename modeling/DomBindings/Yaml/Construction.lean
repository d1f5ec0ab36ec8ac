import DomBindings.Yaml.Node
import DomBindings.Yaml.Scalar

/-!
# From nodes to values

The value of a document is made in two steps. `Node.make` goes through the nodes, all collections of
one depth before those below them. It reads each scalar where it is met first, and writes out the
mappings that merge others. That order decides which of several faults is reported, and what a node
is read as that a name brings to several places. `Node.value` then builds the value from the leaves
up.

A mapping may merge others: the entries of a mapping under the merging key, or of several in a
sequence, come in front of its own, and of several the later ones in front. A key that is an equals
sign becomes a text when its mapping is written out, and is one from then on wherever its name
stands.
-/

namespace DomBindings.Yaml

/-- What making the values of a document has brought about so far. Nodes are given by their
numbers. -/
structure Making where
  /-- the values that scalars were read as -/
  scalars : List (Nat × Value)
  /-- the collections that were put together -/
  collections : List Nat
  /-- the mappings that were written out -/
  flattened : List Nat
  /-- the equals signs that became texts -/
  texts : List Nat

/-- Before anything is made. -/
def Making.initial : Making :=
  ⟨[], [], [], []⟩

/-- Making with a fault. -/
abbrev Make := StateT Making (Except Fault)

namespace Node

/-! ### Scalars -/

/-- The tag of a node, given the equals signs that became texts. -/
def tagAmong (texts : List Nat) (n : Node) : Tag :=
  if n.tag = .value && texts.contains n.id then .str else n.tag

mutual

/-- The text of a scalar. A mapping stands for the value of its first key that is an equals
sign. -/
def scalarText? (texts : List Nat) : Node → Option Text
  | .scalar _ _ content => some content
  | .sequence _ _ _ => none
  | .mapping _ _ entries => valueText? texts entries

/-- The text of the value of the first key that is an equals sign. -/
def valueText? (texts : List Nat) : List (Node × Node) → Option Text
  | [] => none
  | (k, v) :: rest =>
    if k.tagAmong texts = .value then scalarText? texts v else valueText? texts rest

end

/-- A mapping among the nodes that may stand for scalars. -/
def isMapping : Node → Bool
  | .mapping _ _ _ => true
  | _ => false

/-- Reads a node as a scalar. A moment must be written in a scalar, not in a mapping that stands for
one. -/
def readAsScalar (texts : List Nat) (n : Node) : Except Fault Value :=
  match n.tagAmong texts with
  | .unknown _ | .merge | .value | .yaml => constructFault
  | tag =>
    match n.scalarText? texts with
    | some s =>
      if tag = .timestamp && n.isMapping then .error .momentOfMapping else readScalar n.id tag s
    | none => constructFault

/-! ### Merging -/

mutual

/-- The entries that a mapping merges, and its own. Only mappings and sequences of mappings can be
merged. -/
def merged : List (Node × Node) → Except Fault (List (Node × Node) × List (Node × Node))
  | [] => .ok ([], [])
  | (k, v) :: rest => do
    if k.tag = .merge then
      let front ← mergedEntries v
      let (others, own) ← merged rest
      .ok (front ++ others, own)
    else
      let (others, own) ← merged rest
      .ok (others, (k, v) :: own)

/-- The entries that a node brings when it is merged. -/
def mergedEntries : Node → Except Fault (List (Node × Node))
  | .mapping _ _ entries => do
    let (front, own) ← merged entries
    .ok (front ++ own)
  | .sequence _ _ items => mergedItems items
  | .scalar _ _ _ => constructFault

/-- The entries that several mappings bring, those of the last mapping first. -/
def mergedItems : List Node → Except Fault (List (Node × Node))
  | [] => .ok []
  | n :: rest =>
    match n with
    | .mapping _ _ entries => do
      let (front, own) ← merged entries
      let others ← mergedItems rest
      .ok (others ++ front ++ own)
    | _ => constructFault

end

/-- The entries of a mapping, merged ones in front. -/
def flatten (entries : List (Node × Node)) : Except Fault (List (Node × Node)) := do
  let (front, own) ← merged entries
  .ok (front ++ own)

mutual

/-- The numbers of the mappings that entries merge, directly or through others. -/
def mergedNumbers : List (Node × Node) → List Nat
  | [] => []
  | (k, v) :: rest =>
    if k.tag = .merge then broughtNumbers v ++ mergedNumbers rest else mergedNumbers rest

/-- The numbers of the mappings that a node brings when it is merged. -/
def broughtNumbers : Node → List Nat
  | .mapping id _ entries => id :: mergedNumbers entries
  | .sequence _ _ items => itemNumbers items
  | .scalar _ _ _ => []

/-- The numbers of the mappings that several nodes bring. -/
def itemNumbers : List Node → List Nat
  | [] => []
  | n :: rest => broughtNumbers n ++ itemNumbers rest

end

/-- Writes out a mapping with those that it merges; the equals signs among its keys become
texts. -/
def writeOut (id : Nat) (entries : List (Node × Node)) : Make (List (Node × Node)) := do
  let flat ← flatten entries
  let signs := (flat.map Prod.fst).filter (·.tag = .value)
  modify fun m =>
    { m with
      flattened := id :: mergedNumbers entries ++ m.flattened
      texts := signs.map Node.id ++ m.texts }
  return flat

/-! ### Making -/

/-- Whether the value of a node may be a key: collections may not. -/
def isKey (n : Node) : Bool :=
  !n.tag.isCollection

/-- Meets a node: reads it if it is a scalar that was not read before, and returns it to be put
together later if it is a collection. -/
def meet (n : Node) : Make (List Node) := do
  if n.tag.isCollection then return [n]
  let m ← get
  if (m.scalars.lookup n.id).isNone then
    let v ← n.readAsScalar m.texts
    set { m with scalars := (n.id, v) :: m.scalars }
  return []

/-- Meets nodes in turn. -/
def meetAll : List Node → Make (List Node)
  | [] => return []
  | n :: rest => do
    let first ← meet n
    let others ← meetAll rest
    return first ++ others

/-- Meets the keys and values of a mapping in turn. -/
def meetEntries : List (Node × Node) → Make (List Node)
  | [] => return []
  | (k, v) :: rest => do
    let key ← meet k
    if !k.isKey then throw (.format .constructing)
    let value ← meet v
    let others ← meetEntries rest
    return key ++ value ++ others

/-- Meets the one entry of each mapping in a list of pairs. The entries that a mapping merges count
only where it was written out before. -/
def meetPairs : List Node → Make (List Node)
  | [] => return []
  | n :: rest =>
    match n with
    | .mapping id _ entries => do
      let entries ← if (← get).flattened.contains id then flatten entries else pure entries
      match entries with
      | [(k, v)] =>
        let key ← meet k
        let value ← meet v
        let others ← meetPairs rest
        return key ++ value ++ others
      | _ => throw (.format .constructing)
    | _ => throw (.format .constructing)

/-- Puts one collection together as far as its own nodes go, and returns the collections among
them. -/
def unfold (n : Node) : Make (List Node) := do
  match n.tag, n with
  | .seq, .sequence _ _ items => meetAll items
  | .map, .mapping id _ entries => meetEntries (← writeOut id entries)
  | .set, .mapping id _ entries => meetEntries (← writeOut id entries)
  | .omap, .sequence _ _ items => meetPairs items
  | .pairs, .sequence _ _ items => meetPairs items
  | _, _ => throw (.format .constructing)

/-- Puts collections together in turn, each of them once; returns the collections among their
nodes. -/
def unfoldAll : List Node → Make (List Node)
  | [] => return []
  | n :: rest => do
    if (← get).collections.contains n.id then unfoldAll rest
    else
      modify fun m => { m with collections := n.id :: m.collections }
      let inner ← unfold n
      let others ← unfoldAll rest
      return inner ++ others

/-- Puts the collections of one depth together, then those below them, for as many depths as
there are. -/
def makeLevels (level : List Node) : Nat → Make Unit
  | 0 => return
  | depth + 1 => do
    let next ← unfoldAll level
    makeLevels next depth

mutual

/-- The number of depths of a tree. -/
def depth : Node → Nat
  | .scalar _ _ _ => 1
  | .sequence _ _ items => depthOfItems items + 1
  | .mapping _ _ entries => depthOfEntries entries + 1

/-- The greatest depth of some nodes. -/
def depthOfItems : List Node → Nat
  | [] => 0
  | n :: rest => max n.depth (depthOfItems rest)

/-- The greatest depth of some keys and values. -/
def depthOfEntries : List (Node × Node) → Nat
  | [] => 0
  | (k, v) :: rest => max (max k.depth v.depth) (depthOfEntries rest)

end

/-- Makes the values of all scalars of a document. -/
def make (n : Node) : Make Unit := do
  let level ← meet n
  makeLevels level n.depth

/-! ### Values -/

/-- The value of the scalar with a number. -/
def scalarValue (scalars : List (Nat × Value)) (id : Nat) : Value :=
  (scalars.lookup id).getD .null

mutual

/-- The value of a node, given those of its scalars. -/
def value (scalars : List (Nat × Value)) : Node → Value
  | .scalar id _ _ => scalarValue scalars id
  | .sequence id tag items =>
    match tag with
    | .seq => .list (values scalars items)
    | .omap | .pairs => .list (pairValues scalars items)
    | _ => scalarValue scalars id
  | .mapping id tag entries =>
    match tag with
    | .map =>
      let (front, own) := entryValues scalars entries
      .ofEntries (front ++ own)
    | .set =>
      let (front, own) := entryValues scalars entries
      .ofMembers ((front ++ own).map Prod.fst)
    | _ => scalarValue scalars id

/-- The values of several nodes. -/
def values (scalars : List (Nat × Value)) : List Node → List Value
  | [] => []
  | n :: rest => value scalars n :: values scalars rest

/-- The pairs of mappings with one entry each. -/
def pairValues (scalars : List (Nat × Value)) : List Node → List Value
  | [] => []
  | n :: rest => (broughtValues scalars n).map (fun (k, v) => .pair k v) ++ pairValues scalars rest

/-- The values of the entries of a mapping: those that it merges, and its own. -/
def entryValues (scalars : List (Nat × Value)) :
    List (Node × Node) → List (Value × Value) × List (Value × Value)
  | [] => ([], [])
  | (k, v) :: rest =>
    let (others, own) := entryValues scalars rest
    if k.tag = .merge then (broughtValues scalars v ++ others, own)
    else (others, (value scalars k, value scalars v) :: own)

/-- The values of the entries that a node brings when it is merged. -/
def broughtValues (scalars : List (Nat × Value)) : Node → List (Value × Value)
  | .mapping _ _ entries =>
    let (front, own) := entryValues scalars entries
    front ++ own
  | .sequence _ _ items => itemValues scalars items
  | .scalar _ _ _ => []

/-- The values of the entries that several nodes bring, those of the last node first. -/
def itemValues (scalars : List (Nat × Value)) : List Node → List (Value × Value)
  | [] => []
  | n :: rest => itemValues scalars rest ++ broughtValues scalars n

end

end Node

/-! ### Documents -/

/-- A character that a document may hold. -/
def isReadable (c : Char) : Bool :=
  c = '\t' || c = '\n' || c = '\r' || ('\x20' ≤ c && c ≤ '\x7e') || c = '\x85'
    || ('\xa0' ≤ c && c ≤ '\ud7ff') || ('\ue000' ≤ c && c ≤ '\ufffd') || 0x10000 ≤ c.toNat

/-- Loads the one document of a text; a text without any loads as the absent value. -/
def load (rules : List ResolutionRule) (s : Text) : Except Fault Value := do
  if !s.all isReadable then throw (.format .reading)
  match ← Node.ofText rules s with
  | none => return .null
  | some n => do
    let (_, made) ← n.make.run .initial
    return n.value made.scalars

/-- Loads the text of a vocabulary. -/
def loadVocabularyText (s : Text) : Except Fault Value :=
  load vocabularyRules s

/-- An account is given of a text: while it is loaded, no escape is met that stands for half of a
surrogate pair, and no node that is part of itself. Of most texts this can be seen without loading
them (`isAccountedFor_of_not_writesHalf`). -/
def IsAccountedFor (s : Text) : Prop :=
  loadVocabularyText s ≠ .error .unaccounted

end DomBindings.Yaml
