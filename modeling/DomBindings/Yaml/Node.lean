import DomBindings.Yaml.Tag
import DomBindings.Yaml.TokenStream

/-!
# Nodes

The tree of a document. Each node has its tag, given or resolved, and a number of its own; where a
name is used, the node that was named stands again, with the same number. `Node.ofTokens` reads the
one document of a text.
-/

namespace DomBindings.Yaml

/-- A node of a document. -/
inductive Node where
  /-- a scalar with its text -/
  | scalar (id : Nat) (tag : Tag) (content : Text)
  /-- a sequence of nodes -/
  | sequence (id : Nat) (tag : Tag) (items : List Node)
  /-- a mapping, as the keys and values that are written -/
  | mapping (id : Nat) (tag : Tag) (entries : List (Node × Node))
deriving Repr

namespace Node

/-- The number of a node. -/
def id : Node → Nat
  | .scalar id _ _ => id
  | .sequence id _ _ => id
  | .mapping id _ _ => id

/-- The tag of a node. -/
def tag : Node → Tag
  | .scalar _ tag _ => tag
  | .sequence _ tag _ => tag
  | .mapping _ tag _ => tag

/-- What is known while a document is read. -/
structure Reader where
  /-- the rules that give plain scalars their tags -/
  rules : List ResolutionRule
  /-- the tokens that are left -/
  tokens : List Token
  /-- the fault behind the last of them -/
  fault : Option Fault
  /-- what the handles of tags stand for -/
  handles : List (Text × Text)
  /-- the named nodes, a node being absent while it is read -/
  anchors : List (Text × Option Node)
  /-- the number of the next node -/
  fresh : Nat
  /-- whether a node is part of itself -/
  cyclic : Bool

/-- Reading with a state and a fault. -/
abbrev Reading := StateT Reader (Except Fault)

/-- The refusal of tokens that make no node. -/
def parseFault {α : Type} : Reading α :=
  throw (.format .parsing)

/-- The refusal of a name or of a second document. -/
def composeFault {α : Type} : Reading α :=
  throw (.format .composing)

/-- The next token. Where there is none, its place is taken by the fault behind the last one. -/
def peek : Reading Token := do
  let r ← get
  match r.tokens with
  | t :: _ => return t
  | [] => throw (r.fault.getD (.format .scanning))

/-- Passes a token. -/
def pass : Reading Unit :=
  modify fun r => { r with tokens := r.tokens.drop 1 }

/-- A number for a new node. -/
def newId : Reading Nat := do
  let r ← get
  set { r with fresh := r.fresh + 1 }
  return r.fresh

/-- Whether the next token is one of those given. -/
def nextIs (options : List Token) : Reading Bool := do
  return options.contains (← peek)

/-- The name of a node, where its tokens begin with one. -/
def readAnchor? : Reading (Option Text) := do
  match ← peek with
  | .anchor word => pass; return some word
  | _ => return none

/-- The tag of a node as it is written, where its tokens begin with one. -/
def readTag? : Reading (Option (Option Text × Text)) := do
  match ← peek with
  | .tag handle suffix => pass; return some (handle, suffix)
  | _ => return none

/-- The name of a tag: what its handle stands for, and what follows. -/
def tagName (written : Option (Option Text × Text)) : Reading (Option Text) := do
  match written with
  | none => return none
  | some (none, suffix) => return some suffix
  | some (some handle, suffix) =>
    match (← get).handles.lookup handle with
    | some expansion => return some (expansion ++ suffix)
    | none => parseFault

/-- The name and the tag of a node, in either order. -/
def readProperties : Reading (Option Text × Option Text) := do
  match ← readAnchor? with
  | some word => return (some word, ← tagName (← readTag?))
  | none => do
    let written ← readTag?
    let anchor ← match written with
      | some _ => readAnchor?
      | none => pure none
    return (anchor, ← tagName written)

/-- Whether a tag leaves the kind of the node open: none, or the exclamation mark alone. -/
def isOpenTag (name : Option Text) : Bool :=
  name = none || name = some ['!']

/-- The tag of a collection. -/
def collectionTag (name : Option Text) (usual : Tag) : Tag :=
  match name with
  | some n => if isOpenTag name then usual else Tag.ofName n
  | none => usual

/-- The tag of a scalar: the one that is written; for a plain scalar, or where the exclamation mark
asks for it, the one that the rules give; and that of a text otherwise. -/
def scalarTag (rules : List ResolutionRule) (name : Option Text) (content : Text) (plain : Bool) :
    Tag :=
  match name with
  | none => if plain then resolve rules content else .str
  | some n => if isOpenTag name then resolve rules content else Tag.ofName n

/-- Gives a node its name; a name can be given once. -/
def reserve (anchor : Option Text) : Reading Unit := do
  match anchor with
  | none => return
  | some word =>
    if ((← get).anchors.lookup word).isSome then composeFault
    else modify fun r => { r with anchors := (word, none) :: r.anchors }

/-- Fills in the node that a name was given to. -/
def fill (anchor : Option Text) (node : Node) : Reading Unit :=
  match anchor with
  | none => pure ()
  | some word => modify fun r => { r with anchors := (word, some node) :: r.anchors }

/-- The node that a name was given to. A node that is not read yet is part of itself, and no account is
given of the document, unless it has a fault of form. -/
def nodeNamed (word : Text) : Reading Node := do
  match (← get).anchors.lookup word with
  | none => composeFault
  | some none =>
    modify fun r => { r with cyclic := true }
    return .scalar 0 .null []
  | some (some node) => return node

/-- A scalar. -/
def newScalar (name : Option Text) (content : Text) (plain : Bool) : Reading Node := do
  let id ← newId
  return .scalar id (scalarTag (← get).rules name content plain) content

/-- The node of a place where nothing is written. -/
def absent : Reading Node :=
  newScalar none [] true

mutual

/-- A node. Block collections are read only where `block` allows them, and a sequence that is not
indented, whose hyphens stand in the column of the mapping around it, only where `indentless`
does. -/
def readNode (block indentless : Bool) : Nat → Reading Node
  | 0 => parseFault
  | fuel + 1 => do
    match ← peek with
    | .alias word => pass; nodeNamed word
    | _ => do
      let (anchor, name) ← readProperties
      let t ← peek
      if indentless && t = .blockEntry then
        reserve anchor
        let id ← newId
        let items ← readIndentless fuel
        let node := Node.sequence id (collectionTag name .seq) items
        fill anchor node
        return node
      else
        match t with
        | .scalar content plain => do
          pass
          reserve anchor
          let node ← newScalar name content plain
          fill anchor node
          return node
        | .flowSequenceStart => do
          reserve anchor
          let id ← newId
          pass
          let items ← readFlowItems true fuel
          let node := Node.sequence id (collectionTag name .seq) items
          fill anchor node
          return node
        | .flowMappingStart => do
          reserve anchor
          let id ← newId
          pass
          let entries ← readFlowEntries true fuel
          let node := Node.mapping id (collectionTag name .map) entries
          fill anchor node
          return node
        | .blockSequenceStart => do
          if !block then readMissing anchor name
          else
            reserve anchor
            let id ← newId
            pass
            let items ← readBlockItems fuel
            let node := Node.sequence id (collectionTag name .seq) items
            fill anchor node
            return node
        | .blockMappingStart => do
          if !block then readMissing anchor name
          else
            reserve anchor
            let id ← newId
            pass
            let entries ← readBlockEntries fuel
            let node := Node.mapping id (collectionTag name .map) entries
            fill anchor node
            return node
        | _ => readMissing anchor name

/-- A node of which only the name or the tag is written. -/
def readMissing (anchor name : Option Text) : Reading Node := do
  if anchor.isNone && name.isNone then parseFault
  else
    reserve anchor
    let node ← newScalar name [] true
    fill anchor node
    return node

/-- The node in front of one of the tokens given, or the absent one. -/
def readUnless (ends : List Token) (block : Bool) : Nat → Reading Node
  | 0 => parseFault
  | fuel + 1 => do
    if ← nextIs ends then absent else readNode block block fuel

/-- The items of a block sequence. -/
def readBlockItems : Nat → Reading (List Node)
  | 0 => parseFault
  | fuel + 1 => do
    match ← peek with
    | .blockEntry => do
      pass
      let item ←
        if ← nextIs [.blockEntry, .blockEnd] then absent else readNode true false fuel
      return item :: (← readBlockItems fuel)
    | .blockEnd => pass; return []
    | _ => parseFault

/-- The items of a sequence that is not indented. -/
def readIndentless : Nat → Reading (List Node)
  | 0 => parseFault
  | fuel + 1 => do
    match ← peek with
    | .blockEntry => do
      pass
      let item ←
        if ← nextIs [.blockEntry, .key, .value, .blockEnd] then absent
        else readNode true false fuel
      return item :: (← readIndentless fuel)
    | _ => return []

/-- The entries of a block mapping. -/
def readBlockEntries : Nat → Reading (List (Node × Node))
  | 0 => parseFault
  | fuel + 1 => do
    match ← peek with
    | .key => do
      pass
      let key ← readUnless [.key, .value, .blockEnd] true fuel
      let value ← readValue [.key, .value, .blockEnd] true fuel
      return (key, value) :: (← readBlockEntries fuel)
    | .value => parseFault
    | .blockEnd => pass; return []
    | _ => parseFault

/-- The value behind a key: the absent one where no colon stands or where one of the tokens given
follows it. -/
def readValue (ends : List Token) (block : Bool) : Nat → Reading Node
  | 0 => parseFault
  | fuel + 1 => do
    match ← peek with
    | .value => pass; readUnless ends block fuel
    | _ => absent

/-- The items of a sequence in brackets. A pair without braces is a mapping with one entry. -/
def readFlowItems (first : Bool) : Nat → Reading (List Node)
  | 0 => parseFault
  | fuel + 1 => do
    if (← peek) = .flowSequenceEnd then pass; return []
    if !first then
      if (← peek) = .flowEntry then pass else parseFault
    match ← peek with
    | .key => do
      let id ← newId
      pass
      let key ← readUnless [.value, .flowEntry, .flowSequenceEnd] false fuel
      let value ← readValue [.flowEntry, .flowSequenceEnd] false fuel
      return .mapping id .map [(key, value)] :: (← readFlowItems false fuel)
    | .flowSequenceEnd => pass; return []
    | _ => do
      let item ← readNode false false fuel
      return item :: (← readFlowItems false fuel)

/-- The entries of a mapping in braces. A node alone is a key without a value. -/
def readFlowEntries (first : Bool) : Nat → Reading (List (Node × Node))
  | 0 => parseFault
  | fuel + 1 => do
    if (← peek) = .flowMappingEnd then pass; return []
    if !first then
      if (← peek) = .flowEntry then pass else parseFault
    match ← peek with
    | .key => do
      pass
      let key ← readUnless [.value, .flowEntry, .flowMappingEnd] false fuel
      let value ← readValue [.flowEntry, .flowMappingEnd] false fuel
      return (key, value) :: (← readFlowEntries false fuel)
    | .flowMappingEnd => pass; return []
    | _ => do
      let key ← readNode false false fuel
      let value ← absent
      return (key, value) :: (← readFlowEntries false fuel)

end

/-! ### Documents -/

/-- The handles that every document has. -/
def defaultHandles : List (Text × Text) :=
  [(['!'], ['!']), (['!', '!'], tagBase)]

/-- The directives in front of a document: at most one version, which must be a first one, and each
handle at most once. -/
def readDirectives (versioned : Bool) (handles : List (Text × Text)) :
    Nat → Reading (List (Text × Text))
  | 0 => parseFault
  | fuel + 1 => do
    match ← peek with
    | .directive d => do
      pass
      match d with
      | .version major _ =>
        if versioned || major ≠ 1 then parseFault else readDirectives true handles fuel
      | .handle word expansion =>
        if (handles.lookup word).isSome then parseFault
        else readDirectives versioned ((word, expansion) :: handles) fuel
      | .other => readDirectives versioned handles fuel
    | _ => return handles ++ defaultHandles

/-- Passes markers that close documents. -/
def passDocumentEnds : Nat → Reading Unit
  | 0 => parseFault
  | fuel + 1 => do
    if (← peek) = .documentEnd then pass; passDocumentEnds fuel

/-- Passes the opening of a document behind its directives; nothing is there when the text has
ended. -/
def openDocument (fuel : Nat) : Reading Bool := do
  passDocumentEnds fuel
  if (← peek) = .streamEnd then return false
  let handles ← readDirectives false [] fuel
  if (← peek) ≠ .documentStart then parseFault
  pass
  modify fun r => { r with handles := handles }
  return true

/-- The document of a text, which must be the only one; nothing when the text holds none. -/
def readDocument (fuel : Nat) : Reading (Option Node) := do
  let explicit ←
    match ← peek with
    | .directive _ | .documentStart | .streamEnd => pure true
    | _ => pure false
  if explicit then
    if !(← openDocument fuel) then return none
  let node ←
    match ← peek with
    | .directive _ | .documentStart | .documentEnd | .streamEnd =>
      if explicit then absent else readNode true false fuel
    | _ => readNode true false fuel
  if (← peek) = .documentEnd then pass
  if ← openDocument fuel then composeFault
  return some node

/-- Reads the document of the tokens delivered from a text and of the fault behind them. No node of it
may be part of itself. -/
def ofTokens (rules : List ResolutionRule) (tokens : List Token) (fault : Option Fault) :
    Except Fault (Option Node) := do
  let start : Reader := ⟨rules, tokens, fault, defaultHandles, [], 1, false⟩
  let (node, r) ← (readDocument (3 * tokens.length + 3)).run start
  if r.cyclic then .error .recursive else .ok node

/-- Reads the document of a text. -/
def ofText (rules : List ResolutionRule) (s : Text) : Except Fault (Option Node) :=
  let (delivered, fault) := tokens s
  ofTokens rules delivered fault

end Node

end DomBindings.Yaml
