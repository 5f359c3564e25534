import FluentBuilder.Document.Graph
import FluentBuilder.Document.Layout
import FluentBuilder.Document.Number
import FluentBuilder.Document.Value

/-!
# Values of nodes

The tag of a node says which value it stands for. Nodes are given their values from the outside in and
from the front to the back: a structure has its value before its parts have theirs (`Meaning`), so
that a structure may be a part of itself. `Graph.value` puts the values together.

Keys of a mapping are values that can be compared: no lists, mappings or sets. A key that comes again
keeps its place and gets the new value. What a mapping takes over from others comes before its own
entries, so that its own entries win.
-/

namespace FluentBuilder.Document

/-! ### Keys -/

/-- Are the numbers equal? -/
def sameNumber (n : Int) (x : Binary64) : Bool :=
  match x with
  | .finite isNegative m e =>
    let (p, q) := Binary64.scale 2 e m 1
    n * q == (if isNegative then -(p : Int) else p)
  | _ => false

/-- The whole number that a truth value or a whole number is. -/
def Value.int? : Value → Option Int
  | .bool b => some (if b then 1 else 0)
  | .int n => some n
  | _ => none

/-- Are the floating point numbers equal? The result without a value equals nothing. -/
def sameFloat (x y : Binary64) : Bool :=
  x ≠ .notANumber && (x = y || (x.isZero && y.isZero))

/-- Are these equal? Truth values are the numbers zero and one, and numbers are compared by their
values. -/
def Value.equals (v w : Value) : Bool :=
  match v.int?, w.int?, v, w with
  | some m, some n, _, _ => m == n
  | some n, none, _, .float x => sameNumber n x
  | none, some n, .float x, _ => sameNumber n x
  | _, _, .float x, .float y => sameFloat x y
  | _, _, .null, .null => true
  | _, _, .text s, .text t => s == t
  | _, _, .bytes s, .bytes t => s == t
  | _, _, .date d, .date e => d == e
  | _, _, .moment m, .moment n => m.same n
  | _, _, _, _ => false

/-- A key. -/
structure Key where
  /-- Its value. -/
  value : Value
  /-- The node that it is made from, unless all nodes share it. -/
  source : Option Nat

/-- Is the key the result without a value? -/
def Key.isNaN (k : Key) : Bool :=
  match k.value with
  | .float .notANumber => true
  | _ => false

/-- Are these the same key? The result without a value is the same if it is made from one node, or by
its name. -/
def Key.same (k l : Key) : Bool :=
  if k.isNaN && l.isNaN then k.source == l.source else k.value.equals l.value

/-! ### Bytes -/

/-- The value of a digit in base 64. -/
def sextet? (c : Char) : Option Nat :=
  if 'A' ≤ c && c ≤ 'Z' then some (c.toNat - 'A'.toNat)
  else if 'a' ≤ c && c ≤ 'z' then some (c.toNat - 'a'.toNat + 26)
  else if c.isDigit then some (c.toNat - '0'.toNat + 52)
  else if c == '+' then some 62
  else if c == '/' then some 63
  else none

/-- Bytes written in base 64, four digits for three bytes. Other characters are passed over; the
reading ends at an equals sign that makes up the four. `count` digits of the four are read, and
`left` is what their bits leave over. -/
def bytesFrom (count left padding : Nat) : List Char → Except DocumentFault (List UInt8)
  | [] => if count = 0 then .ok [] else .error .malformed
  | c :: rest =>
    if c == '=' then
      if 2 ≤ count && 4 ≤ count + padding + 1 then .ok []
      else bytesFrom count left (if 2 ≤ count then padding + 1 else padding) rest
    else match sextet? c with
      | none => bytesFrom count left padding rest
      | some d =>
        if count = 0 then bytesFrom 1 d 0 rest
        else
          let bits := left * 64 + d
          let unread := 6 - 2 * count
          let byte := (bits / Nat.pow 2 unread).toUInt8
          (bytesFrom ((count + 1) % 4) (bits % Nat.pow 2 unread) 0 rest).map (byte :: ·)

/-- The bytes that a text writes in base 64. -/
def bytesOfText (text : CodePoints) : Except DocumentFault (List UInt8) :=
  if text.all (· < 128) then bytesFrom 0 0 0 (text.map Char.ofNat) else .error .malformed

/-! ### Scalars -/

/-- The truth value of a text. -/
def boolOfText (text : CodePoints) : Except DocumentFault Bool :=
  let word := inSmallLetters text
  if (Tag.trueWords.map CodePoints.ofText).contains word then .ok true
  else if (Tag.falseWords.map CodePoints.ofText).contains word then .ok false
  else .error (.truthValue word)

/-- The day or moment that a text writes. -/
def stampOfText (text : CodePoints) : Except DocumentFault Value := do
  let .ok text := text.toText | throw .noMoment
  let cs := text.toList
  let cs := if cs.getLast? == some '\n' then cs.dropLast else cs
  match Stamp.ofChars? cs with
  | none => throw .noMoment
  | some s =>
    match s.clock with
    | none => ((Date.make s.year s.month s.day).map Value.date).mapError .calendar
    | some c =>
      ((Moment.make s.year s.month s.day c.hour c.minute c.second (Stamp.microseconds c.fraction)
        c.offset).map Value.moment).mapError .calendar

/-- Is a node of this kind a scalar? -/
def Tag.isScalar : Tag → Bool
  | .null | .bool | .int | .float | .binary | .timestamp | .text => true
  | _ => false

/-- The value of a scalar. -/
def scalarValue (tag : Tag) (text : CodePoints) : Except DocumentFault Value :=
  match tag with
  | .null => .ok .null
  | .bool => (boolOfText text).map .bool
  | .int => (intOfText text).map .int
  | .float => (floatOfText text).map .float
  | .binary => (bytesOfText text).map .bytes
  | .timestamp => stampOfText text
  | .text => .ok (.text text)
  | _ => .error .malformed

/-! ### Meanings -/

/-- What a node stands for, by the positions of its parts. -/
inductive Meaning where
  /-- A value without parts. -/
  | value (value : Value)
  | list (items : List Nat)
  | pairs (entries : List (Nat × Nat))
  | map (entries : List (Value × Nat))
  | set (members : List Value)

/-- The meanings found so far. -/
structure Interpretation where
  /-- The nodes. A key that stands for its mapping becomes a text in a mapping of its own. -/
  nodes : Array GraphNode
  /-- The meanings. -/
  meanings : List (Nat × Meaning)
  /-- The structures whose parts have no meaning yet. -/
  waiting : List Nat

/-- A computation that finds meanings. -/
abbrev Interpreting := StateT Interpretation (Except DocumentFault)

/-- Is the node a text by itself? -/
def GraphNode.isScalar (node : GraphNode) : Bool :=
  match node.content with
  | .scalar _ => true
  | _ => false

namespace Interpreting

/-- The node at a position. -/
def nodeAt (id : Nat) : Interpreting GraphNode := do
  match (← get).nodes[id]? with
  | some node => return node
  | none => throw .malformed

/-- The text that a node holds: its own, or that of the value that stands for the mapping. -/
def textAt : (depth : Nat) → Nat → Interpreting CodePoints
  | 0, _ => throw .malformed
  | depth + 1, id => do
    match (← nodeAt id).content with
    | .scalar text => return text
    | .list _ => throw .malformed
    | .map entries =>
      let found ← entries.filterM fun e => return (← nodeAt e.1).tag = .value
      match found with
      | e :: _ => textAt depth e.2
      | [] => throw .malformed

/-- Gives a node a meaning. -/
def define (id : Nat) (m : Meaning) : Interpreting Unit :=
  modify fun s => { s with meanings := (id, m) :: s.meanings }

/-- Gives a node its meaning, unless it has one. Structures wait for their parts. -/
def enter (id : Nat) : Interpreting Unit := do
  let s ← get
  if s.meanings.any (·.1 == id) || s.waiting.contains id then return
  let tag := (← nodeAt id).tag
  if tag.isScalar then
    let text ← textAt (s.nodes.size + 1) id
    if tag = .timestamp && !(← nodeAt id).isScalar then throw .mappedMoment
    define id (.value (← (scalarValue tag text : Except DocumentFault Value)))
  else if [Tag.list, .map, .set, .omap, .pairs].contains tag then
    set { s with waiting := s.waiting ++ [id] }
  else throw .malformed

/-! ### Mappings -/

/-- The entries of a mapping. -/
def entriesAt (id : Nat) : Interpreting (List (Nat × Nat)) := do
  match (← nodeAt id).content with
  | .map entries => return entries
  | _ => throw .malformed

/-- Gives a mapping other entries. -/
def setEntries (id : Nat) (entries : List (Nat × Nat)) : Interpreting Unit := do
  let node ← nodeAt id
  modify fun s => { s with nodes := s.nodes.setIfInBounds id { node with content := .map entries } }

/-- Lets a mapping take over the entries of others, from its entry `index` on: `taken` is what it has
taken over so far and comes before its own entries. A key that asks for this is gone before the other
mappings take over what they have to, so that each key is followed once; a mapping that is one of its
own others gives what it has at that moment. -/
def takeOver : (fuel : Nat) → (id index : Nat) → (taken : List (Nat × Nat)) → Interpreting Unit
  | 0, _, _, _ => throw .malformed
  | fuel + 1, id, index, taken => do
    let entries ← entriesAt id
    match entries[index]? with
    | none => if !taken.isEmpty then setEntries id (taken ++ entries)
    | some (key, value) =>
      let node ← nodeAt key
      match node.tag with
      | .merge =>
        setEntries id (entries.eraseIdx index)
        let given (other : Nat) : Interpreting (List (Nat × Nat)) := do
          takeOver fuel other 0 []
          entriesAt other
        let more ← match (← nodeAt value).content with
          | .map _ => given value
          | .list items => do
            let parts ← items.mapM given
            pure parts.reverse.flatten
          | .scalar _ => throw .malformed
        takeOver fuel id index (taken ++ more)
      | .value =>
        modify fun s => { s with nodes := s.nodes.setIfInBounds key { node with tag := .text } }
        takeOver fuel id (index + 1) taken
      | _ => takeOver fuel id (index + 1) taken

/-- The number of parts of all nodes. -/
def partCount (nodes : Array GraphNode) : Nat :=
  nodes.foldl (fun n node => n + match node.content with
    | .scalar _ => 0
    | .list items => items.length
    | .map entries => entries.length) 0

/-- A key. -/
def keyAt (id : Nat) : Interpreting Key := do
  enter id
  match ((← get).meanings.find? (·.1 == id)).map Prod.snd with
  | some (.value v) =>
    let text ← textAt ((← get).nodes.size + 1) id
    return ⟨v, if isNamedNaN text then none else some id⟩
  | _ => throw .malformed

/-- Puts an entry. -/
def putEntry (key : Key) (value : Nat) : List (Key × Nat) → List (Key × Nat)
  | [] => [(key, value)]
  | e :: rest => if e.1.same key then (e.1, value) :: rest else e :: putEntry key value rest

/-- The entries of a mapping under their keys. What a mapping takes over can at most double with every
part, which bounds the number of steps. -/
def mapEntries (id : Nat) : Interpreting (List (Value × Nat)) := do
  takeOver (Nat.pow 4 (partCount (← get).nodes + 2)) id 0 []
  let found ← (← entriesAt id).foldlM (fun found (key, value) => do
    let key ← keyAt key
    enter value
    return putEntry key value found) []
  return found.map fun e => (e.1.value, e.2)

/-- The pair that a mapping of one entry is. -/
def pairAt (id : Nat) : Interpreting (Nat × Nat) := do
  match (← nodeAt id).content with
  | .map [(key, value)] =>
    enter key
    enter value
    return (key, value)
  | _ => throw .malformed

/-! ### All nodes -/

/-- Gives a waiting structure its meaning. -/
def complete (id : Nat) : Interpreting Unit := do
  let node ← nodeAt id
  match node.tag, node.content with
  | .list, .list items =>
    items.forM enter
    define id (.list items)
  | .map, .map _ => define id (.map (← mapEntries id))
  | .set, .map _ => define id (.set ((← mapEntries id).map Prod.fst))
  | .omap, .list items => define id (.pairs (← items.mapM pairAt))
  | .pairs, .list items => define id (.pairs (← items.mapM pairAt))
  | _, _ => throw .malformed

/-- Gives all waiting structures their meanings, the first one first. Every node waits at most once. -/
def completeAll : (fuel : Nat) → Interpreting Unit
  | 0 => return
  | fuel + 1 => do
    match (← get).waiting with
    | [] => return
    | id :: _ =>
      complete id
      modify fun s => { s with waiting := s.waiting.tail }
      completeAll fuel

end Interpreting

/-- The meanings of a node and of all its parts. -/
def Graph.meanings (g : Graph) (root : Nat) : Except DocumentFault (List (Nat × Meaning)) :=
  let find : Interpreting Unit := do
    Interpreting.enter root
    Interpreting.completeAll (g.nodes.size + 1)
  (find.run ⟨g.nodes, [], []⟩).map fun (_, s) => s.meanings

/-! ### Values -/

/-- The value of a node. A structure that is a part of itself is not taken apart again; `free` says
how many levels there are before structures begin to count as being around their parts. -/
def valueOf (meanings : List (Nat × Meaning)) :
    (depth free : Nat) → (around : List Nat) → Nat → Value
  | 0, _, _, _ => .null
  | depth + 1, free, around, id =>
    let inside := valueOf meanings depth (free - 1) (if free = 0 then id :: around else around)
    match (meanings.find? (·.1 == id)).map Prod.snd with
    | none => .null
    | some (.value v) => v
    | some (.set members) => .set members
    | some (.list items) =>
      if around.contains id then .enclosingList else .list (items.map inside)
    | some (.pairs entries) =>
      if around.contains id then .enclosingList
      else .list (entries.map fun e => .pair (inside e.1) (inside e.2))
    | some (.map entries) =>
      if around.contains id then .enclosingMap
      else .map (entries.map fun e => (e.1, inside e.2))

/-- The value of a document. In a configuration every value below the second level is one by itself. -/
def Graph.value (g : Graph) : Except DocumentFault Value :=
  match g.root with
  | none => .ok .null
  | some root =>
    (g.meanings root).map fun meanings => valueOf meanings (g.nodes.size + 3) 2 [] root

/-- The value of the document that a text writes. -/
def Value.ofText (text : String) : Except DocumentFault Value :=
  Graph.ofTokens (tokensOf text) >>= Graph.value

end FluentBuilder.Document
