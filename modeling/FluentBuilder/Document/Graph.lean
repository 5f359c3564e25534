import FluentBuilder.Document.Tag
import FluentBuilder.Document.Token
import FluentBuilder.Table

/-!
# Nodes of a document

A document is a graph: an alias stands for the very node that its anchor names, which may even be a
node around it. Nodes are therefore listed, and refer to each other by their positions. A node is
listed before its parts, so that an alias inside of them finds it.

`Composing.node` reads one node. What it does with the nodes inside is told apart by shape: structures
by indentation (`blockItems`, `blockEntries`) and structures in brackets (`flowItems`,
`flowEntries`); each of them is given the reader for the nodes inside.
-/

namespace FluentBuilder.Document

/-! ### Graphs -/

/-- What a node holds. -/
inductive Content where
  | scalar (text : CodePoints)
  | list (items : List Nat)
  | map (entries : List (Nat × Nat))
  deriving DecidableEq, Repr

/-- A node. -/
structure GraphNode where
  /-- Its kind. -/
  tag : Tag
  /-- What it holds. -/
  content : Content
  deriving DecidableEq, Repr

/-- The nodes of a document. -/
structure Graph where
  /-- All nodes. -/
  nodes : Array GraphNode
  /-- The position of the node that is the document, unless it is empty. -/
  root : Option Nat

/-! ### Reading tokens -/

/-- A document that is partly composed. -/
structure Composition where
  /-- The tokens left. -/
  tokens : List Token
  /-- The nodes so far. -/
  nodes : Array GraphNode
  /-- The nodes that have names. -/
  anchors : Table Nat
  /-- What handles of tags stand for. -/
  handles : Table String

/-- A computation that composes nodes. -/
abbrev Composing := StateT Composition (Except DocumentFault)

namespace Composing

/-- The next token, if the text can be read that far. -/
def peek : Composing Token := do
  match (← get).tokens with
  | [] => throw .malformed
  | .broken fault :: _ => throw fault
  | token :: _ => return token

/-- Leaves the next token behind. -/
def skip : Composing Unit :=
  modify fun s => { s with tokens := s.tokens.tail }

/-- The next token cannot stand here. -/
def refuse {α : Type} : Composing α := do
  let _ ← peek
  throw .malformed

/-- Leaves the next token behind, which has to be the given one. -/
def expect (token : Token) : Composing Unit := do
  if (← peek) = token then skip else refuse

/-- Leaves the next token behind if it is the given one. -/
def accept (token : Token) : Composing Bool := do
  if (← peek) = token then
    skip
    return true
  else return false

/-- Lists a node. -/
def add (node : GraphNode) : Composing Nat := do
  let s ← get
  set { s with nodes := s.nodes.push node }
  return s.nodes.size

/-- Replaces a listed node. -/
def put (id : Nat) (node : GraphNode) : Composing Unit :=
  modify fun s => { s with nodes := s.nodes.setIfInBounds id node }

/-- A node where nothing is written. -/
def nothing : Composing Nat := add ⟨.null, .scalar []⟩

/-! ### Anchors and tags -/

/-- The whole tag of a token. -/
def wholeTag (handle : Option String) (suffix : String) : Composing String := do
  match handle with
  | none => return suffix
  | some handle =>
    match (← get).handles.find? handle with
    | some meaning => return meaning ++ suffix
    | none => throw .malformed

/-- The anchor that may stand here. -/
def anchor? : Composing (Option String) := do
  match ← peek with
  | .anchor name =>
    skip
    return some name
  | _ => return none

/-- The tag that may stand here, by its handle and the rest. -/
def tag? : Composing (Option (Option String × String)) := do
  match ← peek with
  | .tag handle suffix =>
    skip
    return some (handle, suffix)
  | _ => return none

/-- The anchor and the tag before a node, in any order. -/
def properties : Composing (Option String × Option String) := do
  let first ← anchor?
  let tag ← tag?
  let anchor ← if first.isNone && tag.isSome then anchor? else pure first
  return (anchor, ← tag.mapM fun (handle, suffix) => wholeTag handle suffix)

/-- Gives a name to a node. A name is given once. -/
def nameNode (name : Option String) (id : Nat) : Composing Unit := do
  match name with
  | none => return
  | some name =>
    if ((← get).anchors.find? name).isSome then throw .malformed
    modify fun s => { s with anchors := s.anchors.put name id }

/-- The tag of a node that has `fallback` if nothing else is said. -/
def tagOr (fallback : Tag) (written : Option String) : Tag :=
  match written with
  | none => fallback
  | some name => if name == "!" then fallback else Tag.ofName name

/-- The tag of a scalar. -/
def scalarTag (written : Option String) (text : CodePoints) (isPlain : Bool) : Tag :=
  match written with
  | none => if isPlain then Tag.ofPlain text else .text
  | some name => if name == "!" then Tag.ofPlain text else Tag.ofName name

/-! ### Structures -/

/-- A node, unless one of the given tokens says that nothing is written. -/
def nodeUnless (ends : List Token) (node : Composing Nat) : Composing Nat := do
  if ends.contains (← peek) then nothing else node

/-- The value of a key, if one is written. -/
def valueUnless (ends : List Token) (node : Composing Nat) : Composing Nat := do
  if ← accept .value then nodeUnless ends node else nothing

/-- The items of a list by indentation. -/
def blockItems (node : Composing Nat) : (fuel : Nat) → Composing (List Nat)
  | 0 => refuse
  | fuel + 1 => do
    if ← accept .item then
      let first ← nodeUnless [.item, .blockEnd] node
      return first :: (← blockItems node fuel)
    else
      expect .blockEnd
      return []

/-- The items of a list that stands at the column of the mapping around it. -/
def levelItems (node : Composing Nat) : (fuel : Nat) → Composing (List Nat)
  | 0 => refuse
  | fuel + 1 => do
    if ← accept .item then
      let first ← nodeUnless [.item, .key, .value, .blockEnd] node
      return first :: (← levelItems node fuel)
    else return []

/-- The entries of a mapping by indentation. -/
def blockEntries (node : Composing Nat) : (fuel : Nat) → Composing (List (Nat × Nat))
  | 0 => refuse
  | fuel + 1 => do
    if ← accept .key then
      let ends := [Token.key, .value, .blockEnd]
      let key ← nodeUnless ends node
      let value ← valueUnless ends node
      return (key, value) :: (← blockEntries node fuel)
    else
      expect .blockEnd
      return []

/-- A mapping of one entry as an item in brackets. -/
def pairItem (node : Composing Nat) : Composing Nat := do
  let id ← add ⟨.map, .map []⟩
  let key ← nodeUnless [.value, .comma, .closeBracket] node
  let value ← valueUnless [.comma, .closeBracket] node
  put id ⟨.map, .map [(key, value)]⟩
  return id

/-- The items of a list in brackets. -/
def flowItems (node : Composing Nat) : (fuel : Nat) → (isFirst : Bool) → Composing (List Nat)
  | 0, _ => refuse
  | fuel + 1, isFirst => do
    if ← accept .closeBracket then return []
    if !isFirst then expect .comma
    if ← accept .key then
      let first ← pairItem node
      return first :: (← flowItems node fuel false)
    else if ← accept .closeBracket then return []
    else
      let first ← node
      return first :: (← flowItems node fuel false)

/-- The entries of a mapping in braces. -/
def flowEntries (node : Composing Nat) : (fuel : Nat) → (isFirst : Bool) →
    Composing (List (Nat × Nat))
  | 0, _ => refuse
  | fuel + 1, isFirst => do
    if ← accept .closeBrace then return []
    if !isFirst then expect .comma
    if ← accept .key then
      let key ← nodeUnless [.value, .comma, .closeBrace] node
      let value ← valueUnless [.comma, .closeBrace] node
      return (key, value) :: (← flowEntries node fuel false)
    else if ← accept .closeBrace then return []
    else
      let key ← node
      let value ← nothing
      return (key, value) :: (← flowEntries node fuel false)

/-! ### Nodes -/

/-- Lists a list with its items. -/
def listNode (anchor tag : Option String) (items : Composing (List Nat)) : Composing Nat := do
  let tag := tagOr .list tag
  let id ← add ⟨tag, .list []⟩
  nameNode anchor id
  put id ⟨tag, .list (← items)⟩
  return id

/-- Lists a mapping with its entries. -/
def mapNode (anchor tag : Option String) (entries : Composing (List (Nat × Nat))) :
    Composing Nat := do
  let tag := tagOr .map tag
  let id ← add ⟨tag, .map []⟩
  nameNode anchor id
  put id ⟨tag, .map (← entries)⟩
  return id

/-- Lists a scalar. -/
def scalarNode (anchor : Option String) (tag : Tag) (text : CodePoints) : Composing Nat := do
  let id ← add ⟨tag, .scalar text⟩
  nameNode anchor id
  return id

/-- The node that an alias stands for. -/
def aliasNode (name : String) : Composing Nat := do
  match (← get).anchors.find? name with
  | some id => return id
  | none => throw .malformed

/-- Reads a node. Structures by indentation can only stand where `isBlock` says so, and a list at the
column around it only where `isLevel` does. Every structure inside another one takes a token, so that
no more than there are tokens can be inside each other. -/
def node : (depth : Nat) → (isBlock isLevel : Bool) → Composing Nat
  | 0, _, _ => refuse
  | depth + 1, isBlock, isLevel => do
    match ← peek with
    | .reference name =>
      skip
      aliasNode name
    | _ =>
      let (anchor, tag) ← properties
      let fuel := (← get).tokens.length + 1
      match ← peek with
      | .item =>
        if isLevel then listNode anchor tag (levelItems (node depth true false) fuel)
        else if anchor.isSome || tag.isSome then scalarNode anchor (tagOr .null tag) []
        else refuse
      | .scalar text isPlain =>
        skip
        scalarNode anchor (scalarTag tag text isPlain) text
      | .openBracket =>
        skip
        listNode anchor tag (flowItems (node depth false false) fuel true)
      | .openBrace =>
        skip
        mapNode anchor tag (flowEntries (node depth false false) fuel true)
      | token =>
        if isBlock && token = .listStart then
          skip
          listNode anchor tag (blockItems (node depth true false) fuel)
        else if isBlock && token = .mapStart then
          skip
          mapNode anchor tag (blockEntries (node depth true true) fuel)
        else if anchor.isSome || tag.isSome then scalarNode anchor (tagOr .null tag) []
        else refuse

/-! ### Documents -/

/-- What handles stand for where nothing is said. -/
def standardHandles : Table String := [("!", "!"), ("!!", Tag.family)]

/-- The directives before a document: at most one version, which has to be a first one, and at most one
meaning for each handle. -/
def directives : (fuel : Nat) → (hasVersion : Bool) → (handles : Table String) →
    Composing (Table String)
  | 0, _, _ => refuse
  | fuel + 1, hasVersion, handles => do
    match ← peek with
    | .directive (.version major) =>
      if hasVersion || major ≠ 1 then throw .malformed
      skip
      directives fuel true handles
    | .directive (.handle handle meaning) =>
      if (handles.find? handle).isSome then throw .malformed
      skip
      directives fuel hasVersion (handles.put handle meaning)
    | .directive .other =>
      skip
      directives fuel hasVersion handles
    | _ => return handles

/-- Leaves the ends of documents behind. -/
def skipEnds : (fuel : Nat) → Composing Unit
  | 0 => refuse
  | fuel + 1 => do
    if ← accept .documentEnd then skipEnds fuel

/-- A document with its beginning marked. -/
def markedDocument (fuel : Nat) : Composing Nat := do
  let handles ← directives fuel false []
  modify fun s => { s with handles := handles ++ standardHandles }
  expect .documentStart
  match ← peek with
  | .directive _ | .documentStart | .documentEnd | .finish => nothing
  | _ => node fuel true false

/-- The only document of a text, if there is one. -/
def document : Composing (Option Nat) := do
  let fuel := (← get).tokens.length + 1
  let root ← match ← peek with
    | .finish => pure none
    | .directive _ | .documentStart => some <$> markedDocument fuel
    | _ => some <$> node fuel true false
  skipEnds fuel
  if ← accept .finish then return root
  let _ ← directives fuel false []
  expect .documentStart
  throw .malformed

end Composing

/-- The graph that tokens make up. -/
def Graph.ofTokens (tokens : List Token) : Except DocumentFault Graph :=
  (Composing.document.run ⟨tokens, #[], [], Composing.standardHandles⟩).map fun (root, s) =>
    ⟨s.nodes, root⟩

end FluentBuilder.Document
