import FluentBuilder.Text.Digit
import FluentBuilder.Text.Quoted

/-!
# Switches

A switch is an argument that begins with a hyphen. It may be written in full, with two hyphens by any
beginning that no other switch has, and with one hyphen together with others of one letter. Its value
stands behind an equals sign or is the next argument. Everything behind two lone hyphens is an
argument, whatever it begins with.
-/

namespace FluentBuilder.CommandLine

/-! ### Commands -/

/-- What a switch asks for. -/
inductive Request where
  | help
  | version
  | out
  | config
  | check
  | verbose
  deriving DecidableEq, Repr

/-- A switch. -/
structure Switch where
  /-- The ways to write it. -/
  spellings : List String
  /-- Has it a value? -/
  takesValue : Bool
  /-- What it asks for. -/
  request : Request
  deriving DecidableEq, Repr

/-- The name of a switch in messages. -/
def Switch.name (s : Switch) : String := String.intercalate "/" s.spellings

/-- What a run leaves: how it exits, and what it writes to its two outputs. -/
structure Report where
  /-- Zero if all is well. -/
  exit : Nat
  /-- The text for the standard output. -/
  output : String
  /-- The text for the error output. -/
  errors : String
  deriving DecidableEq, Repr

/-- A command. -/
structure Command where
  /-- Its name. -/
  name : String
  /-- How it is used. -/
  usage : String
  /-- What is told about it. -/
  description : String
  /-- Its switches. -/
  switches : List Switch

namespace Command

/-- The refusal of wrong arguments. -/
def refusal (c : Command) (message : String) : Report :=
  ⟨2, "", c.usage ++ c.name ++ ": error: " ++ message ++ "\n"⟩

/-- The refusal of a switch. -/
def switchRefusal (c : Command) (s : Switch) (message : String) : Report :=
  c.refusal ("argument " ++ s.name ++ ": " ++ message)

/-- All switches by their spellings. -/
def spellings (c : Command) : List (String × Switch) :=
  c.switches.flatMap fun s => s.spellings.map fun spelling => (spelling, s)

/-- The switch of a spelling. -/
def spelled? (c : Command) (spelling : String) : Option Switch :=
  (c.spellings.find? fun e => e.1 == spelling).map Prod.snd

end Command

/-! ### Kinds of arguments -/

/-- A switch as it was found in an argument. -/
structure Found where
  /-- The switch. -/
  switch : Switch
  /-- How it is written in full. -/
  spelling : String
  /-- The text behind it in the same argument. -/
  value : Option String
  deriving DecidableEq, Repr

/-- The kind of an argument. -/
inductive Mark where
  /-- It is no switch. -/
  | plain
  /-- It is two lone hyphens. -/
  | separator
  /-- It is a switch. -/
  | switch (found : Found)
  /-- It looks like a switch, but there is no such switch. -/
  | unknown
  deriving DecidableEq, Repr

/-- Is the argument a switch or like one? -/
def Mark.isSwitch : Mark → Bool
  | .switch _ | .unknown => true
  | _ => false

/-- The parts of an argument before and behind its first equals sign. -/
def splitEquals (arg : List Char) : String × Option String :=
  let before := arg.takeWhile (· != '=')
  match arg.drop before.length with
  | [] => (String.ofList before, none)
  | _ :: behind => (String.ofList before, some (String.ofList behind))

/-- Does a text begin with another one? -/
def hasStart (text start : String) : Bool := start.toList.isPrefixOf text.toList

/-- The switches that an argument may mean: those that begin with it, and one of a letter that it begins
with. -/
def Command.candidates (c : Command) (arg : List Char) : List Found :=
  match arg with
  | '-' :: '-' :: _ =>
    let (start, value) := splitEquals arg
    c.spellings.filterMap fun (spelling, s) =>
      if hasStart spelling start then some ⟨s, spelling, value⟩ else none
  | _ =>
    c.spellings.filterMap fun (spelling, s) =>
      if spelling == String.ofList (arg.take 2) then
        some ⟨s, spelling, some (String.ofList (arg.drop 2))⟩
      else if hasStart spelling (String.ofList arg) then some ⟨s, spelling, none⟩
      else none

/-- Is it a decimal digit of some script? -/
def isDigit (c : Char) : Bool := (Text.decimalDigit? c.toNat).isSome

/-- Does an argument write a negative number? It is a whole number or a fraction, perhaps with a line
feed behind it. -/
def isNegativeNumber (arg : List Char) : Bool :=
  match arg with
  | '-' :: body =>
    let body := if body.getLast? = some '\n' then body.dropLast else body
    match body.dropWhile isDigit with
    | [] => !body.isEmpty
    | '.' :: digits => !digits.isEmpty && digits.all isDigit
    | _ => false
  | _ => false

/-- The kind of an argument before any lone hyphens. -/
def Command.mark (c : Command) (arg : String) : Except Report Mark :=
  let cs := arg.toList
  let (start, value) := splitEquals cs
  if cs.head? != some '-' then .ok .plain
  else match c.spelled? arg, c.spelled? start with
    | some s, _ => .ok (.switch ⟨s, arg, none⟩)
    | none, some s => .ok (.switch ⟨s, start, value⟩)
    | none, none =>
      if cs.length = 1 then .ok .plain
      else match c.candidates cs with
        | [found] => .ok (.switch found)
        | [] => if isNegativeNumber cs || cs.contains ' ' then .ok .plain else .ok .unknown
        | found => .error (c.refusal ("ambiguous option: " ++ arg ++ " could match " ++
            String.intercalate ", " (found.map Found.spelling)))

/-- An argument with its kind. -/
abbrev Marked := String × Mark

/-- All arguments with their kinds. -/
def Command.marks (c : Command) : List String → Except Report (List Marked)
  | [] => .ok []
  | arg :: rest =>
    if arg == "--" then .ok ((arg, .separator) :: rest.map fun other => (other, .plain))
    else do
      let mark ← c.mark arg
      return (arg, mark) :: (← c.marks rest)

/-! ### Reading switches -/

/-- A request with the value of its switch. -/
structure Setting where
  /-- What is asked for. -/
  request : Request
  /-- The value, empty if the switch has none. -/
  value : String
  deriving DecidableEq, Repr

/-- What a switch asks for, with the arguments left behind it. Letters behind a switch of one letter
are more switches; there are no more of them than `fuel`. -/
def Command.readSwitch (c : Command) : (fuel : Nat) → Found → List Marked →
    Except Report (List Setting × List Marked)
  | 0, _, rest => .ok ([], rest)
  | fuel + 1, found, rest =>
    let s := found.switch
    match found.value with
    | none =>
      if s.takesValue then
        match rest with
        | (value, .plain) :: rest => .ok ([⟨s.request, value⟩], rest)
        | _ => .error (c.switchRefusal s "expected one argument")
      else .ok ([⟨s.request, ""⟩], rest)
    | some value =>
      let refused := c.switchRefusal s ("ignored explicit argument " ++
        Quoted.text (CodePoints.ofText value))
      if s.takesValue then .ok ([⟨s.request, if value == "--" then "" else value⟩], rest)
      else match found.spelling.toList, value.toList with
        | ['-', _], letter :: more =>
          let spelling := String.ofList ['-', letter]
          match c.spelled? spelling with
          | some next => do
            let value := if more.isEmpty then none else some (String.ofList more)
            let (settings, rest) ← c.readSwitch fuel ⟨next, spelling, value⟩ rest
            return (⟨s.request, ""⟩ :: settings, rest)
          | none => .error refused
        | _, _ => .error refused

end FluentBuilder.CommandLine
