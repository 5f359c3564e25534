import FluentBuilder.Proofs.Table
import FluentBuilder.Source.Tree

/-!
# What is marked

Whether a declaration carries the marker depends on its module alone (`isMarked_eq`): decorators are seen
from module level, where no class of the tree is looked up. So where two trees have the same modules but
for some names, the same declarations are marked in these modules (`markedBeside_eq`).
-/

namespace FluentBuilder.Source

variable {m : Module} {scope : List String} {d : Declaration} {tree tree' : Tree}

mutual

/-- What a statement declares is in its module. -/
theorem module_of_mem_declarationsOf : (statement : Syntax.Statement) → {scope : List String} →
    d ∈ declarationsOf m scope statement → d.module = m
  | .classDef name bases decorators body position, scope, h => by
    rw [declarationsOf] at h
    rcases List.mem_cons.mp h with rfl | h
    · rfl
    · exact module_of_mem_declarationsIn body h
  | .functionDef name decorators position, scope, h => by
    rw [declarationsOf] at h
    rw [List.mem_singleton.mp h]
  | .importModules _, _, h => by cases h
  | .importFrom _ _ _, _, h => by cases h
  | .assign _, _, h => by cases h
  | .annotated _ _ _, _, h => by cases h
  | .other, _, h => by cases h

/-- What statements declare is in their module. -/
theorem module_of_mem_declarationsIn : (statements : List Syntax.Statement) → {scope : List String} →
    d ∈ declarationsIn m scope statements → d.module = m
  | [], _, h => by cases h
  | statement :: rest, scope, h => by
    rw [declarationsIn] at h
    rcases List.mem_append.mp h with h | h
    · exact module_of_mem_declarationsOf statement h
    · exact module_of_mem_declarationsIn rest h

end

namespace Tree

/-- **The marker is seen from module level**, so that the tree does not matter. -/
theorem isMarked_eq (tree tree' : Tree) : tree.isMarked = tree'.isMarked := rfl

/-- The marked declarations of a module. -/
def markedIn (m : Module) : List Declaration := m.declarations.filter Tree.empty.isMarked

/-- The marked declarations of a tree are those of its modules, one after the other. -/
theorem marked_eq_flatMap (tree : Tree) :
    tree.marked = tree.modules.flatMap fun entry => markedIn entry.2 := by
  rw [marked, isMarked_eq tree .empty, declarations, List.filter_flatMap]
  rfl

/-- The marked declarations that are in modules of other names. -/
def markedBeside (tree : Tree) (names : List String) : List Declaration :=
  tree.marked.filter fun d => !names.contains d.module.name

/-- They are those of these modules, one after the other. -/
theorem markedBeside_eq_flatMap {names : List String}
    (hnames : ∀ entry ∈ tree.modules, entry.2.name = entry.1) :
    tree.markedBeside names =
      (tree.modules.filter fun entry => !names.contains entry.1).flatMap fun entry => markedIn entry.2 := by
  rw [markedBeside, marked_eq_flatMap, List.filter_flatMap]
  generalize tree.modules = modules at hnames
  induction modules with
  | nil => rfl
  | cons entry rest ih =>
    obtain ⟨hentry, hrest⟩ := List.forall_mem_cons.mp hnames
    -- All that is declared in a module is in the module of one name.
    have hmodule : ∀ d ∈ markedIn entry.2, d.module.name = entry.1 := by
      intro d hd
      rw [module_of_mem_declarationsIn _ (List.mem_of_mem_filter hd), hentry]
    rw [List.flatMap_cons, ih hrest]
    by_cases hname : entry.1 ∈ names
    · have hnone : (markedIn entry.2).filter (fun d => !names.contains d.module.name) = [] := by
        rw [List.filter_eq_nil_iff]
        intro d hd
        simpa [hmodule d hd] using hname
      rw [hnone, List.filter_cons_of_neg (by simpa using hname), List.nil_append]
    · have hall : (markedIn entry.2).filter (fun d => !names.contains d.module.name) =
          markedIn entry.2 := by
        rw [List.filter_eq_self]
        intro d hd
        simpa [hmodule d hd] using hname
      rw [hall, List.filter_cons_of_pos (by simpa using hname), List.flatMap_cons]

/-- **What is marked in a module does not depend on other modules**: where two trees have the same modules
but for some names, the same declarations are marked in these modules, in the same order. -/
theorem markedBeside_eq {modules modules' : Table Module} {names : List String}
    (hdistinct : modules.names.Nodup) (hdistinct' : modules'.names.Nodup)
    (hnames : ∀ entry ∈ modules, entry.2.name = entry.1)
    (hnames' : ∀ entry ∈ modules', entry.2.name = entry.1)
    (hagree : ∀ name, name ∉ names → modules.find? name = modules'.find? name) :
    (ofModules modules).markedBeside names = (ofModules modules').markedBeside names := by
  have hsorted : ∀ {table : Table Module}, (∀ entry ∈ table, entry.2.name = entry.1) →
      ∀ entry ∈ (ofModules table).modules, entry.2.name = entry.1 := fun h entry hentry =>
    h entry (mem_sortedBy.mp hentry)
  rw [markedBeside_eq_flatMap (hsorted hnames), markedBeside_eq_flatMap (hsorted hnames')]
  congr 1
  refine Table.sorted_filter_eq hdistinct hdistinct' fun entry hentry => ?_
  rw [← Table.find?_eq_some_iff hdistinct, ← Table.find?_eq_some_iff hdistinct', hagree entry.1]
  simpa using hentry

/-- No marked declaration of the tree is in a module of these names. -/
def Quiet (tree : Tree) (names : List String) : Prop :=
  ∀ d ∈ tree.marked, d.module.name ∉ names

/-- Where the tree is quiet, all marked declarations are in modules of other names. -/
theorem Quiet.markedBeside_eq {names : List String} (h : tree.Quiet names) :
    tree.markedBeside names = tree.marked :=
  List.filter_eq_self.mpr fun d hd => by simpa using h d hd

end Tree

end FluentBuilder.Source
