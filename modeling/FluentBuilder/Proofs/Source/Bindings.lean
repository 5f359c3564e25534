import FluentBuilder.Proofs.Source.Extending

/-!
# What names stand for at module level

The statements of a module bind names one after the other, and a name stands for what the last of them
binds (`Module.lastBinding?`). Modules keep their bindings in two tables without order between them: what
is imported and what is defined. The second one is asked first, so that a definition hides every import
of its name, also a later one. `qualify_eq_last_iff` says when a name is seen as what it stands for all
the same: unless it stands for something imported while another statement of the module defines it.

**The route.** The table of imports has the last import of a name under it (`find?_imports`), since
imports are put into it in order. If the name is not defined anywhere, all its bindings are imports, and
the last of these is the last binding (`lastBinding?_of_not_defines`).
-/

namespace FluentBuilder.Source

open Syntax

/-! ### Bindings -/

/-- What a name is bound to. -/
inductive Binding where
  /-- Something that is imported, by its qualified name. -/
  | imported (qualified : String)
  /-- A class, a function or a value of the module itself. -/
  | defined
  deriving DecidableEq, Repr

/-- The qualified name of what a name is bound to in a module. -/
def Binding.qualified (m : Module) (name : String) : Binding → String
  | .imported qualified => qualified
  | .defined => m.name ++ "." ++ name

/-- The import that a binding is. -/
def Binding.import? : Binding → Option String
  | .imported qualified => some qualified
  | .defined => none

namespace Module

variable {m : Module} {name : String} {b : Binding}

/-- The names that a statement binds, in order. Importing a module by its dotted name binds the first
segment, importing everything binds no name that is known, and an annotation without a value binds
nothing. -/
def bindingsOf (m : Module) : Statement → List (String × Binding)
  | .importModules names =>
    names.map fun a =>
      match a.rename with
      | some rename => (rename, .imported a.name)
      | none => ((Dotted.splitHead a.name).1, .imported (Dotted.splitHead a.name).1)
  | .importFrom target names level =>
    (names.filter (·.name != "*")).map fun a =>
      (a.rename.getD a.name, .imported (Dotted.within (m.importSource target level) a.name))
  | .assign targets => (targets.filterMap plainName).map fun id => (id, .defined)
  | .annotated target _ (some _) => (plainName target).toList.map fun id => (id, .defined)
  | .classDef name .. => [(name, .defined)]
  | .functionDef name .. => [(name, .defined)]
  | _ => []

/-- The names that the statements of a module bind, in order. -/
def bindings (m : Module) : List (String × Binding) := m.body.flatMap m.bindingsOf

/-- What a name is bound to last. -/
def lastBinding? (m : Module) (name : String) : Option Binding :=
  ((m.bindings.filter (·.1 == name)).getLast?).map Prod.snd

/-! ### The two tables -/

/-- What a statement imports are those of its bindings that are imports. -/
theorem importsOf_eq (m : Module) (s : Statement) :
    m.importsOf s = (m.bindingsOf s).filterMap fun entry => entry.2.import?.map (entry.1, ·) := by
  cases s with
  | importModules names =>
    rw [importsOf, bindingsOf, List.filterMap_map, ← List.filterMap_eq_map]
    refine List.filterMap_congr fun a _ => ?_
    cases hrename : a.rename <;> simp [hrename, Binding.import?]
  | importFrom target names level =>
    rw [importsOf, bindingsOf, List.filterMap_map, ← List.filterMap_eq_map]
    rfl
  | annotated target hint value => cases value <;> simp [importsOf, bindingsOf, Binding.import?]
  | _ => simp [importsOf, bindingsOf, Binding.import?]

/-- The name of a binding that is no import is defined by the statement. -/
theorem mem_definedBy_of_defined {s : Statement} (h : (name, .defined) ∈ m.bindingsOf s) :
    name ∈ definedBy s := by
  cases s with
  | importModules names =>
    obtain ⟨a, -, heq⟩ := List.mem_map.mp h
    cases hrename : a.rename <;> simp [hrename] at heq
  | importFrom target names level =>
    obtain ⟨a, -, heq⟩ := List.mem_map.mp h
    cases heq
  | annotated target hint value => cases value <;> simp_all [bindingsOf, definedBy]
  | _ => simp_all [bindingsOf, definedBy]

/-- A name that is bound to something of the module is one that the module defines. -/
theorem defines_of_mem_bindings (h : (name, .defined) ∈ m.bindings) : m.defines name = true := by
  obtain ⟨s, hs, hmem⟩ := List.mem_flatMap.mp h
  exact List.any_eq_true.mpr ⟨s, hs, List.contains_iff_mem.mpr (mem_definedBy_of_defined hmem)⟩

/-- Under a name stands the last import of it. -/
theorem find?_imports (m : Module) (name : String) :
    m.imports.find? name =
      ((m.bindings.filter (·.1 == name)).filterMap fun entry => entry.2.import?).getLast? := by
  have hentries : m.body.flatMap m.importsOf =
      m.bindings.filterMap fun entry => entry.2.import?.map (entry.1, ·) := by
    rw [bindings, List.filterMap_flatMap]
    exact List.flatMap_congr fun s _ => importsOf_eq m s
  rw [imports, Table.find?_ofEntries, hentries, ← List.getLast?_map]
  refine congrArg List.getLast? ?_
  rw [List.filter_filterMap, List.map_filterMap, List.filterMap_filter]
  refine List.filterMap_congr fun entry _ => ?_
  cases hkind : entry.2.import? <;> by_cases hname : entry.1 = name <;> simp [hname]

/-- **Where a name is not defined**, its last binding is its last import. -/
theorem find?_imports_of_not_defines (hdefines : m.defines name = false)
    (h : m.lastBinding? name = some b) : m.imports.find? name = some (b.qualified m name) := by
  have himports : ∀ entry ∈ m.bindings.filter (·.1 == name),
      entry.2.import? = some (entry.2.qualified m name) := by
    rintro ⟨other, bound⟩ hentry
    obtain ⟨hmem, hname⟩ := List.mem_filter.mp hentry
    obtain rfl : other = name := by simpa using hname
    cases bound with
    | imported qualified => rfl
    | defined => cases (defines_of_mem_bindings hmem).symm.trans hdefines
  rw [find?_imports, List.filterMap_congr himports, List.filterMap_eq_map', List.getLast?_map]
  obtain ⟨entry, hlast, rfl⟩ := Option.map_eq_some_iff.mp h
  rw [hlast]
  rfl

end Module

/-! ### What names are seen as -/

/-- At module level a name without points is seen as one of the module if the module defines it, and
else as what it was imported as last. -/
theorem Tree.qualify_of_lastBinding (tree : Tree) {m : Module} {name : String} {b : Binding}
    (hpoint : '.' ∉ name.toList) (h : m.lastBinding? name = some b) :
    tree.qualify m [] name =
      if m.defines name then m.name ++ "." ++ name else b.qualified m name := by
  have hsplit : Dotted.splitHead name = (name, "") := by
    rw [Dotted.splitHead, Dotted.segments_of_not_mem hpoint]
    rfl
  cases hdefines : m.defines name with
  | true => simp [qualify, hsplit, qualifyHead, hdefines]
  | false =>
    simp [qualify, hsplit, qualifyHead, hdefines, Module.find?_imports_of_not_defines hdefines h]

/-- **When a name is seen as what it stands for.** A name that some statement of the module binds is seen
from module level as what the last of these statements binds, unless that is something imported, of
another qualified name than one of the module has, and some other statement defines the name. Then it is
seen as one of the module. -/
theorem Tree.qualify_eq_last_iff (tree : Tree) (m : Module) (name : String) (b : Binding)
    (hpoint : '.' ∉ name.toList) (h : m.lastBinding? name = some b) :
    (tree.qualify m [] name = b.qualified m name ↔
      (b = .defined ∨ m.defines name = false ∨ b.qualified m name = m.name ++ "." ++ name)) ∧
    (tree.qualify m [] name ≠ b.qualified m name →
      tree.qualify m [] name = m.name ++ "." ++ name) := by
  rw [qualify_of_lastBinding tree hpoint h]
  cases hdefines : m.defines name with
  | false => simp
  | true =>
    simp only [if_true, Bool.true_eq_false, false_or, implies_true, and_true]
    constructor
    · exact fun heq => .inr heq.symm
    · rintro (rfl | heq)
      · rfl
      · exact heq.symm

/-- A module that defines a class, imports another one under the same name, and then a third one under
two names. -/
def importedLate : Module :=
  ⟨"m", Path.ofText "m.py", false,
    [.classDef "Car" [] [] [] ⟨1, 0⟩, .importFrom (some "lib") [⟨"Car", none⟩] 0,
      .importFrom (some "lib") [⟨"Van", none⟩] 0, .importModules [⟨"fleet.cars", some "Van"⟩]]⟩

/-- The last import of a name that is not defined is what the name is seen as. -/
theorem Tree.qualify_of_importedLate :
    importedLate.lastBinding? "Van" = some (.imported "fleet.cars") ∧
      Tree.empty.qualify importedLate [] "Van" = "fleet.cars" := by
  have hlast : importedLate.lastBinding? "Van" = some (.imported "fleet.cars") := by decide
  have hiff := (Tree.empty.qualify_eq_last_iff importedLate "Van" _ (by decide) hlast).1
  exact ⟨hlast, hiff.mpr (.inr (.inl (by decide)))⟩

/-- **A class hides what is imported after it**: the name stands for the imported class, and is seen as the
one of the module. -/
theorem Tree.qualify_ne_last_of_importedLate :
    importedLate.lastBinding? "Car" = some (.imported "lib.Car") ∧
      Tree.empty.qualify importedLate [] "Car" = "m.Car" ∧
      Tree.empty.qualify importedLate [] "Car" ≠ (Binding.imported "lib.Car").qualified importedLate "Car" := by
  decide

end FluentBuilder.Source
