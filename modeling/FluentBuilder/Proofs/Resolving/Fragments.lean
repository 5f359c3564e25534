import FluentBuilder.Proofs.Resolving.NonNull

/-!
# What the text of a reference is made of

The text of a reference consists of fragments: names with the modules that they are qualified by, and
texts that need no module (`TypeRef.render_eq_join`). The modules that a reference asks for are computed
apart from its text. For a `Settled` reference, in which nothing without a name has a module, they are
exactly those that the text is written with (`Settled.mem_modules_iff`), and the absent value can be taken
from it without a module being added (`modules_nonNull_subset`).
-/

namespace FluentBuilder

/-- A part of the text of a reference. -/
inductive Fragment where
  /-- A text that needs no module. -/
  | text (s : String)
  /-- A name with its module before it. -/
  | qualified (module name : String)
  deriving DecidableEq, Repr

namespace Fragment

/-- The text of a fragment. -/
def render : Fragment → String
  | .text s => s
  | .qualified module name => module ++ "." ++ name

/-- The module that a fragment is written with. -/
def module? : Fragment → Option String
  | .text _ => none
  | .qualified module _ => some module

/-- Lists of fragments with a separator between them. -/
def separated (separator : String) : List (List Fragment) → List Fragment
  | [] => []
  | [fragments] => fragments
  | fragments :: next :: rest => fragments ++ .text separator :: separated separator (next :: rest)

/-- The text of some fragments. -/
def renderAll (fragments : List Fragment) : String := String.join (fragments.map render)

/-- The text of one list of fragments after another. -/
theorem renderAll_append (front back : List Fragment) :
    renderAll (front ++ back) = renderAll front ++ renderAll back := by
  rw [renderAll, List.map_append, String.join_append, renderAll, renderAll]

/-- The text of one fragment before others. -/
theorem renderAll_cons (first : Fragment) (rest : List Fragment) :
    renderAll (first :: rest) = first.render ++ renderAll rest := by
  rw [renderAll, List.map_cons, String.join_cons, renderAll]

/-- The text of one fragment. -/
theorem renderAll_singleton (fragment : Fragment) : renderAll [fragment] = fragment.render := by
  rw [renderAll_cons, renderAll, List.map_nil, String.join_nil, String.append_empty]

/-- The texts of the lists stand with the separator between them. -/
theorem renderAll_separated (separator : String) (lists : List (List Fragment)) :
    renderAll (separated separator lists) = String.intercalate separator (lists.map renderAll) := by
  induction lists with
  | nil => rfl
  | cons fragments rest ih =>
    cases rest with
    | nil => rw [separated, List.map_cons, List.map_nil, String.intercalate_singleton]
    | cons next rest =>
      rw [separated, renderAll_append, renderAll_cons, ih]
      simp only [List.map_cons, String.intercalate_cons_cons, String.append_assoc]
      rfl

/-- Separators are not written with a module. -/
theorem mem_filterMap_separated {separator module : String} {lists : List (List Fragment)} :
    module ∈ (separated separator lists).filterMap module? ↔
      ∃ fragments ∈ lists, module ∈ fragments.filterMap module? := by
  induction lists with
  | nil => simp [separated]
  | cons fragments rest ih =>
    cases rest with
    | nil => simp [separated]
    | cons next rest =>
      rw [separated, List.filterMap_append, List.mem_append, List.filterMap_cons_none rfl, ih]
      simp

end Fragment

namespace TypeRef

variable {r : TypeRef} {module : String}

/-- The fragment of a name in a module. -/
def nameFragment (module qualname : String) : Fragment :=
  if module == "" || module == "builtins" then .text qualname else .qualified module qualname

mutual

/-- The fragments of a reference. -/
def fragments : TypeRef → List Fragment
  | ⟨module, qualname, args, _, literal⟩ =>
    match literal with
    | some text => [.text text]
    | .none =>
      if qualname.isEmpty then
        .text "[" :: (Fragment.separated ", " (fragmentsOfAll args) ++ [.text "]"])
      else if args.isEmpty then [nameFragment module qualname]
      else if module == "typing" && qualname == "Union" then
        Fragment.separated " | " (fragmentsOfAll args)
      else
        nameFragment module qualname ::
          .text "[" :: (Fragment.separated ", " (fragmentsOfAll args) ++ [.text "]"])

/-- The fragments of some references, each by itself. -/
def fragmentsOfAll : List TypeRef → List (List Fragment)
  | [] => []
  | r :: rest => r.fragments :: fragmentsOfAll rest

end

/-- The modules that the text of a reference is written with. -/
def writtenModules (r : TypeRef) : List String := r.fragments.filterMap Fragment.module?

/-- The fragments of some references are those of each. -/
theorem fragmentsOfAll_eq (rs : List TypeRef) : fragmentsOfAll rs = rs.map fragments := by
  induction rs with
  | nil => rfl
  | cons r rest ih => rw [fragmentsOfAll, ih, List.map_cons]

/-- The modules of some references are those of each, one after the other. -/
theorem modulesOfAll_eq (rs : List TypeRef) : modulesOfAll rs = rs.flatMap modules := by
  induction rs with
  | nil => rfl
  | cons r rest ih => rw [modulesOfAll, ih, List.flatMap_cons]

/-- The fragment of a name is its text. -/
theorem render_nameFragment (module qualname : String) (primitive : Bool) :
    (nameFragment module qualname).render = (⟨module, qualname, [], primitive, .none⟩ : TypeRef).name := by
  rw [nameFragment, TypeRef.name]
  split <;> rfl

mutual

/-- **The text of a reference is that of its fragments.** -/
theorem render_eq_renderAll : (r : TypeRef) → r.render = Fragment.renderAll r.fragments
  | ⟨_, _, _, _, some text⟩ => by
    rw [render, fragments, Fragment.renderAll_singleton]
    rfl
  | ⟨module, qualname, args, primitive, .none⟩ => by
      rw [render, fragments]
      simp only [renderAll_eq_map args, ← render_nameFragment module qualname primitive, isUnion]
      split
      · rw [Fragment.renderAll_cons, Fragment.renderAll_append, Fragment.renderAll_singleton,
          Fragment.renderAll_separated, ← String.append_assoc]
        rfl
      · split
        · exact (Fragment.renderAll_singleton _).symm
        · split
          · rw [Fragment.renderAll_separated]
          · rw [Fragment.renderAll_cons, Fragment.renderAll_cons, Fragment.renderAll_append,
              Fragment.renderAll_singleton, Fragment.renderAll_separated, ← String.append_assoc,
              ← String.append_assoc]
            rfl

/-- The texts of some references are those of their fragments. -/
theorem renderAll_eq_map : (rs : List TypeRef) →
    renderAll rs = (fragmentsOfAll rs).map Fragment.renderAll
  | [] => rfl
  | r :: rest => by
    rw [renderAll, fragmentsOfAll, List.map_cons, render_eq_renderAll r, renderAll_eq_map rest]

end

/-! ### References without unnamed modules -/

/-- A reference in which nothing without a name has a module, and no text has arguments. -/
inductive Settled : TypeRef → Prop
  /-- A text. -/
  | text (text : String) : Settled (.ofLiteral text)
  /-- A list of its arguments. -/
  | list {args : List TypeRef} {primitive : Bool} (hargs : ∀ a ∈ args, Settled a) :
    Settled ⟨"", "", args, primitive, .none⟩
  /-- A name with its arguments. -/
  | named {module qualname : String} {args : List TypeRef} {primitive : Bool} (hname : qualname ≠ "")
    (hargs : ∀ a ∈ args, Settled a) : Settled ⟨module, qualname, args, primitive, .none⟩

/-- The arguments of a settled reference are settled. -/
theorem Settled.args (h : r.Settled) : ∀ a ∈ r.args, a.Settled := by
  cases h with
  | text text => exact fun a ha => absurd ha List.not_mem_nil
  | list hargs => exact hargs
  | named hname hargs => exact hargs

/-- The module of a name is written, unless it is that of the built-in names or there is none. -/
theorem module?_nameFragment {outer qualname : String} :
    (nameFragment outer qualname).module? = some module ↔
      (outer ≠ "" ∧ outer ≠ "builtins") ∧ outer = module := by
  rw [nameFragment]
  split
  · next h =>
    refine ⟨fun hnone => (Option.some_ne_none _ hnone.symm).elim, fun ⟨⟨hempty, hbuiltins⟩, _⟩ => ?_⟩
    simp [hempty, hbuiltins] at h
  · next h =>
    rw [Bool.or_eq_true, not_or, beq_iff_eq, beq_iff_eq] at h
    simp [Fragment.module?, h]

/-- The modules that arguments are written with are those that each is written with. -/
theorem mem_separated_iff {separator : String} {args : List TypeRef} :
    module ∈ (Fragment.separated separator (fragmentsOfAll args)).filterMap Fragment.module? ↔
      ∃ a ∈ args, module ∈ a.writtenModules := by
  rw [Fragment.mem_filterMap_separated, fragmentsOfAll_eq]
  simp [writtenModules]

/-- The modules that a reference asks for are its own one, if it is to be written, and those of its
arguments. -/
theorem mem_modules_iff :
    module ∈ r.modules ↔
      (r.literal = .none ∧ (r.module ≠ "" ∧ r.module ≠ "builtins") ∧
        ¬(r.isUnion = true ∧ r.args ≠ []) ∧ r.module = module) ∨
      ∃ a ∈ r.args, module ∈ a.modules := by
  obtain ⟨outer, qualname, args, primitive, literal⟩ := r
  rw [modules, List.mem_append, modulesOfAll_eq, List.mem_flatMap]
  refine or_congr_left ?_
  cases literal with
  | some text => simp
  | none =>
    have hown : module = outer ↔ outer = module := eq_comm
    by_cases hunion : (outer == "typing" && qualname == "Union") = true <;> by_cases hnil : args = [] <;>
      simp [isUnion, hunion, hnil, hown]

/-- A list is written with the modules of its arguments. -/
theorem mem_writtenModules_list {args : List TypeRef} {primitive : Bool} :
    module ∈ writtenModules ⟨"", "", args, primitive, .none⟩ ↔ ∃ a ∈ args, module ∈ a.writtenModules := by
  rw [writtenModules, fragments, if_pos (by decide), List.filterMap_cons_none rfl, List.filterMap_append,
    List.mem_append, mem_separated_iff, List.filterMap_cons_none rfl, List.filterMap_nil]
  simp

/-- A name with arguments is written with its own module, if it is no union, and those of its
arguments. -/
theorem mem_writtenModules_named {outer qualname : String} {args : List TypeRef} {primitive : Bool}
    (hname : qualname ≠ "") :
    module ∈ writtenModules ⟨outer, qualname, args, primitive, .none⟩ ↔
      ((outer ≠ "" ∧ outer ≠ "builtins") ∧
        ¬((outer == "typing" && qualname == "Union") = true ∧ args ≠ []) ∧ outer = module) ∨
      ∃ a ∈ args, module ∈ a.writtenModules := by
  rw [writtenModules, fragments]
  simp only [String.isEmpty_iff, hname, if_false]
  split
  · next hnil =>
    obtain rfl := List.isEmpty_iff.mp hnil
    simp [List.mem_filterMap, module?_nameFragment]
  · next hne =>
    split
    · next hunion => rw [mem_separated_iff, hunion]; simp_all
    · next hunion =>
      have hbehind : module ∈ (.text "[" :: (Fragment.separated ", " (fragmentsOfAll args) ++
          [.text "]"])).filterMap Fragment.module? ↔ ∃ a ∈ args, module ∈ a.writtenModules := by
        rw [List.filterMap_cons_none rfl, List.filterMap_append, List.mem_append, mem_separated_iff,
          List.filterMap_cons_none rfl, List.filterMap_nil]
        simp
      rw [← hbehind, ← List.singleton_append, List.filterMap_append, List.mem_append, List.mem_filterMap]
      simp [module?_nameFragment, hunion]

/-- **A settled reference asks for the modules that its text is written with.** -/
theorem Settled.mem_modules_iff (h : r.Settled) : module ∈ r.modules ↔ module ∈ r.writtenModules := by
  induction h with
  | text text => simp [ofLiteral, modules, modulesOfAll, writtenModules, fragments, Fragment.module?]
  | @list args primitive hargs ih =>
    rw [TypeRef.mem_modules_iff, mem_writtenModules_list, ← exists_congr fun a => and_congr_right (ih a)]
    simp
  | @named outer qualname args primitive hname hargs ih =>
    rw [TypeRef.mem_modules_iff, mem_writtenModules_named hname,
      ← exists_congr fun a => and_congr_right (ih a)]
    simp [isUnion]

/-! ### The type of a setter -/

/-- Without the absent value a type is itself, one of its arguments, or the union of some of them. -/
theorem nonNull_cases (r : TypeRef) :
    r.nonNull = r ∨ r.nonNull ∈ r.args ∨
      ∃ members, members ≠ [] ∧ members ⊆ r.args ∧ r.isUnion = true ∧
        r.nonNull = { named r.module r.qualname with args := members } := by
  cases hholds : r.holdsNone with
  | false => exact .inl (nonNull_of_not_holdsNone hholds)
  | true =>
    have hpresent : r.presentMembers ⊆ r.args := by
      rw [presentMembers_of_isChoice (isChoice_of_holdsNone hholds)]
      exact List.filter_subset_self _
    right
    rcases holdsNone_cases hholds with hoptional | hunion
    · left
      rw [nonNull_of_isOptional hoptional]
      exact List.mem_cons_self
    · rcases nonNull_of_isUnion hunion hholds with hone | ⟨hmany, hmembers⟩
      · left
        exact hpresent (hone ▸ List.mem_cons_self)
      · exact .inr ⟨r.presentMembers, List.ne_nil_of_length_pos (by omega), hpresent, hunion, hmembers⟩

/-- **Taking the absent value away adds no module.** -/
theorem modules_nonNull_subset (r : TypeRef) : r.nonNull.modules ⊆ r.modules := by
  intro module hmodule
  rcases r.nonNull_cases with hself | harg | ⟨members, hne, hsub, hunion, heq⟩
  · rwa [hself] at hmodule
  · exact mem_modules_iff.mpr (.inr ⟨_, harg, hmodule⟩)
  · rw [heq] at hmodule
    rcases mem_modules_iff.mp hmodule with ⟨-, -, hnotUnion, -⟩ | ⟨a, ha, hmem⟩
    · exact absurd ⟨hunion, hne⟩ hnotUnion
    · exact mem_modules_iff.mpr (.inr ⟨a, hsub ha, hmem⟩)

/-- Taking the absent value from a settled reference leaves one. -/
theorem Settled.nonNull (h : r.Settled) : r.nonNull.Settled := by
  rcases r.nonNull_cases with hself | harg | ⟨members, -, hsub, hunion, heq⟩
  · rwa [hself]
  · exact h.args _ harg
  · rw [heq]
    rw [isUnion, Bool.and_eq_true, beq_iff_eq, beq_iff_eq] at hunion
    have hname : r.qualname ≠ "" := by
      rw [hunion.2]
      decide
    exact .named hname fun a ha => h.args a (hsub ha)

end TypeRef

end FluentBuilder
