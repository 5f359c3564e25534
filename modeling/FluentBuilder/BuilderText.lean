import FluentBuilder.Blueprint

/-!
# The text of a builder

The module that a blueprint describes, written out. The text depends on the blueprint alone.
-/

namespace FluentBuilder.Blueprint

/-- The version that the first line names. -/
def version : String := "0.1.0"

/-- The slots as a tuple of quoted names. A single one has a comma behind it. -/
def slotsText (b : Blueprint) : String :=
  match b.members.map fun m => "\"" ++ m.attribute ++ "\"" with
  | [name] => "(" ++ name ++ ",)"
  | names => "(" ++ String.intercalate ", " names ++ ")"

/-- The lines before the class. -/
def headLines (b : Blueprint) : List String :=
  ["# Code generated by buildergen " ++ version ++ " from " ++ b.target ++ ". DO NOT EDIT.",
    "",
    "from __future__ import annotations",
    ""] ++
  b.imports.map (fun m => "import " ++ m) ++
  ["",
    "from buildergen.runtime import ABSENT, Absent, fluent, require",
    "",
    ""]

/-- The lines between those and the slots of a new builder. -/
def classLines (b : Blueprint) : List String :=
  ["class " ++ b.name ++ ":",
    "    \"\"\"Fluent builder for `" ++ b.target ++ "`.\"\"\"",
    "",
    "    __slots__ = " ++ b.slotsText,
    "",
    "    def __init__(self) -> None:"]

/-- The line of a slot of a new builder, which is absent. -/
def slotLine (m : Member) : String :=
  "        self." ++ m.attribute ++ ": " ++ m.type.render ++ " | Absent = ABSENT"

/-- The lines of the slots of a new builder. -/
def slotLines (b : Blueprint) : List String :=
  match b.members with
  | [] => ["        pass"]
  | members => members.map slotLine

/-- The lines of the setter of a member. -/
def setterLines (b : Blueprint) (m : Member) : List String :=
  ["",
    "    @fluent",
    "    def " ++ m.name ++ "(self, " ++ m.name ++ ": " ++ m.setterType.render ++ ") -> " ++ b.name ++ ":",
    "        self." ++ m.attribute ++ " = " ++ m.name,
    "        return self"]

/-- The lines that build the target from the slots in order. -/
def buildLines (b : Blueprint) : List String :=
  ["",
    "    @fluent",
    "    def build(self) -> " ++ b.target ++ ":"] ++
  match b.members with
  | [] => ["        return " ++ b.target ++ "()"]
  | members =>
    ["        return " ++ b.target ++ "("] ++
    members.map (fun m =>
      "            require(self." ++ m.attribute ++ ", \"" ++ m.name ++ "\", \"" ++ b.target ++ "\"),") ++
    ["        )"]

/-- All lines of the module. -/
def lines (b : Blueprint) : List String :=
  b.headLines ++ b.classLines ++ b.slotLines ++ b.members.flatMap b.setterLines ++ b.buildLines

/-- The text of the module. Every line ends with a line feed. -/
def render (b : Blueprint) : String :=
  String.join (b.lines.map (· ++ "\n"))

end FluentBuilder.Blueprint
