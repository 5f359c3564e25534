import FluentBuilder.Decimal.Shortest
import FluentBuilder.Document.Calendar
import FluentBuilder.Text.CodePoints
import FluentBuilder.Text.Quoted

/-!
# Document values

The values that a configuration document holds. `Value.render` is the text of a value by itself and
`Value.expression` its text inside another one, where texts are quoted.
-/

namespace FluentBuilder.Document

/-- A value of a document. -/
inductive Value where
  /-- The absent value. -/
  | null
  /-- A truth value. -/
  | bool (value : Bool)
  /-- A whole number. -/
  | int (value : Int)
  /-- A floating point number. -/
  | float (value : Binary64)
  /-- A text. -/
  | text (value : CodePoints)
  /-- Bytes. -/
  | bytes (value : List UInt8)
  /-- A day. -/
  | date (value : Date)
  /-- A moment. -/
  | moment (value : Moment)
  /-- A list. -/
  | list (items : List Value)
  /-- Two values as one. -/
  | pair (first second : Value)
  /-- Values under keys. -/
  | map (entries : List (Value × Value))
  /-- A set. -/
  | set (members : List Value)
  /-- A list that this value is a part of. -/
  | enclosingList
  /-- A mapping that this value is a part of. -/
  | enclosingMap
  deriving Repr, Inhabited

namespace Value

/-! ### Texts -/

/-- The text of a truth value. -/
def boolText (b : Bool) : String := if b then "True" else "False"

mutual

/-- The text of a value inside another one. -/
def expression : Value → String
  | .null => "None"
  | .bool b => boolText b
  | .int n => toString n
  | .float x => x.render
  | .text s => Quoted.text s
  | .bytes bs => Quoted.bytes bs
  | .date d => d.expression
  | .moment m => m.expression
  | .list items => "[" ++ String.intercalate ", " (expressions items) ++ "]"
  | .pair a b => "(" ++ expression a ++ ", " ++ expression b ++ ")"
  | .map entries => "\x7b" ++ String.intercalate ", " (entryExpressions entries) ++ "\x7d"
  | .set [] => "set()"
  | .set members => "\x7b" ++ String.intercalate ", " (expressions members) ++ "\x7d"
  | .enclosingList => "[...]"
  | .enclosingMap => "\x7b...\x7d"

/-- The texts of some values. -/
def expressions : List Value → List String
  | [] => []
  | v :: rest => expression v :: expressions rest

/-- The texts of keys with their values. -/
def entryExpressions : List (Value × Value) → List String
  | [] => []
  | (k, v) :: rest => (expression k ++ ": " ++ expression v) :: entryExpressions rest

end

/-- The text of a value by itself. -/
def render : Value → CodePoints
  | .text s => s
  | .date d => .ofText d.render
  | .moment m => .ofText m.render
  | v => .ofText v.expression

/-- The most digits of a whole number that is written. -/
def writtenDigits : Nat := 4300

mutual

/-- Is no whole number in the value too long to be written? -/
def isWritable : Value → Bool
  | .int n => n.natAbs < Nat.pow 10 writtenDigits
  | .list items => areWritable items
  | .pair a b => isWritable a && isWritable b
  | .map entries => entriesAreWritable entries
  | .set members => areWritable members
  | _ => true

/-- Are these values writable? -/
def areWritable : List Value → Bool
  | [] => true
  | v :: rest => isWritable v && areWritable rest

/-- Are these keys and values writable? -/
def entriesAreWritable : List (Value × Value) → Bool
  | [] => true
  | (k, v) :: rest => isWritable k && isWritable v && entriesAreWritable rest

end

/-! ### Parts -/

/-- Is the value empty or nought? -/
def isNegligible : Value → Bool
  | .null => true
  | .bool b => !b
  | .int n => n == 0
  | .float x => x.isZero
  | .text s => s.isEmpty
  | .bytes bs => bs.isEmpty
  | .list items => items.isEmpty
  | .map entries => entries.isEmpty
  | .set members => members.isEmpty
  | _ => false

/-- The value under a textual key. -/
def entry? (v : Value) (key : String) : Option Value :=
  match v with
  | .map entries =>
    (entries.find? fun e =>
      match e.1 with
      | .text s => s == CodePoints.ofText key
      | _ => false).map Prod.snd
  | _ => none

end Value
end FluentBuilder.Document
