import FluentBuilder.Proofs.Resolving.Canonical
import FluentBuilder.Proofs.Resolving.NonNull

/-!
# Library types that are found again

The reference to a type of the library is made of the module and the name that the type was defined under,
or of the name that it was looked up by. A library is what can be found in a running program (`Host`): a
name is looked up behind the longest module that can be imported, from member to member. Here is when what
a reference is made of leads to the type again (`found_at_canonical_iff`): always for a name that is kept,
and for a definition exactly if the type can be found where it says. Then the reference is that of its own
name, and the text with its imports evaluates to the type.

**The route.** A reference is made of the name itself or of the definition (`canonical_cases`). Where
modules are members of the modules around them, it does not matter at which module a look-up begins
(`Host.lookUp_eq_walk`), and evaluating a reference is looking up its path (`Host.evaluate_plain`).
-/

namespace FluentBuilder

open Dotted

/-! ### Looking up names in a running program -/

/-- Is it a type? -/
def Denotation.isType : Denotation → Bool
  | .type _ _ => true
  | .value => false

/-- A running program: its modules, what is in them, and what that is. -/
structure Host (Object : Type) where
  /-- The module of a name, if it can be imported. -/
  module? : String → Option Object
  /-- What an object has under a name. -/
  member? : Object → String → Option Object
  /-- What an object is. -/
  kind : Object → Denotation

namespace Host

variable {Object : Type}

/-- What one comes to from an object, from member to member. -/
def walk (host : Host Object) : Object → List String → Option Object
  | object, [] => some object
  | object, name :: rest => (host.member? object name).bind (host.walk · rest)

/-- What stands under a dotted name: the longest module that can be imported, but not all of the name, and
from there the members. -/
def lookUp (host : Host Object) (name : String) : Option Object :=
  ((Source.Tree.splits (segments name)).findSome? fun split =>
    (host.module? (join split.1)).map (·, split.2)).bind fun start => host.walk start.1 start.2

/-- The type that an object stands for with arguments, or the object. -/
def unwrap (host : Host Object) (object : Object) : Object :=
  match host.member? object "__origin__" with
  | some origin => if (host.kind origin).isType then origin else object
  | none => object

/-- What a dotted name denotes. -/
def find (host : Host Object) (name : String) : Option Object :=
  (host.lookUp name).map host.unwrap

/-- What a name is where modules are imported: an import gives a name to the outermost module, and other
names are those that are built in. -/
def global (host : Host Object) (imports : List String) (name : String) : Option Object :=
  if imports.any fun module => (splitHead module).1 == name then host.module? name
  else (host.module? "builtins").bind (host.member? · name)

/-- What a dotted text evaluates to where modules are imported. -/
def evaluate (host : Host Object) (imports : List String) (text : String) : Option Object :=
  if imports.all fun module => (host.module? module).isSome then
    match segments text with
    | [] => none
    | head :: rest => (host.global imports head).bind (host.walk · rest)
  else none

/-- The modules that enclose the name are members of the modules around them. -/
def Bound (host : Host Object) (name : String) : Prop :=
  ∀ outer inner module, '.' ∉ inner.toList → Encloses (outer ++ "." ++ inner) name →
    host.module? (outer ++ "." ++ inner) = some module →
      ∃ package, host.module? outer = some package ∧ host.member? package inner = some module

end Host

/-- The library tells of its names what a running program finds. -/
def Library.Reads {Object : Type} (library : Library) (host : Host Object) : Prop :=
  ∀ name, library.owns name = true → library.denotes name = (host.find name).map host.kind

/-- The whole name that a reference is made of. -/
def TypeRef.path (r : TypeRef) : String := r.module ++ "." ++ r.qualname

/-! ### Where a look-up begins -/

namespace Host

variable {Object : Type} {host : Host Object} {name head : String} {front back rest : List String}
variable {object top module : Object}

/-- Going on from what one has come to. -/
theorem walk_append (host : Host Object) (object : Object) (front back : List String) :
    host.walk object (front ++ back) = (host.walk object front).bind (host.walk · back) := by
  induction front generalizing object with
  | nil => rfl
  | cons name front ih =>
    rw [List.cons_append, walk, walk, Option.bind_assoc]
    exact congrArg _ (funext ih)

/-- **A module is found from the outermost module around it.** -/
theorem exists_outermost (hbound : host.Bound name) (hname : segments name = front ++ back)
    (hfront : front ≠ []) (hback : back ≠ []) (hmodule : host.module? (join front) = some module) :
    ∃ head rest top, front = head :: rest ∧ host.module? head = some top ∧
      host.walk top rest = some module := by
  -- From behind: the last module is a member of the one before it.
  induction front using List.reverseRecOn generalizing back module with
  | nil => exact absurd rfl hfront
  | append_singleton front last ih =>
    by_cases hnil : front = []
    · rw [hnil, List.nil_append, join_singleton] at hmodule
      exact ⟨last, [], module, by rw [hnil, List.nil_append], hmodule, rfl⟩
    · have hpoint : '.' ∉ last.toList :=
        not_mem_of_mem_segments (hname ▸ List.mem_append_left _ (List.mem_concat_self))
      have hjoin : join (front ++ [last]) = join front ++ "." ++ last := by
        rw [join_append hnil (List.cons_ne_nil _ _), join_singleton]
      have hencloses : Encloses (join front ++ "." ++ last) name :=
        ⟨join back, by rw [← hjoin, ← join_append hfront hback, ← hname, join_segments]⟩
      rw [hjoin] at hmodule
      obtain ⟨package, hpackage, hmember⟩ := hbound _ _ _ hpoint hencloses hmodule
      rw [List.append_assoc] at hname
      obtain ⟨head, rest, top, rfl, hhead, hwalk⟩ := ih hname hnil (List.cons_ne_nil _ _) hpackage
      refine ⟨head, rest ++ [last], top, List.cons_append, hhead, ?_⟩
      rw [walk_append, hwalk, Option.bind_some, walk, hmember]
      rfl

/-- **A look-up may begin at the outermost module.** -/
theorem lookUp_eq_walk (hbound : host.Bound name) (hname : segments name = head :: rest) (hrest : rest ≠ [])
    (hhead : host.module? head = some top) : host.lookUp name = host.walk top rest := by
  rw [lookUp]
  cases hfound : (Source.Tree.splits (segments name)).findSome? fun split =>
      (host.module? (join split.1)).map (·, split.2) with
  | none =>
    have hsplit : ([head], rest) ∈ Source.Tree.splits (segments name) :=
      Source.Tree.mem_splits_iff.mpr ⟨hname, List.cons_ne_nil _ _, hrest⟩
    have hnone := List.findSome?_eq_none_iff.mp hfound _ hsplit
    rw [join_singleton, hhead] at hnone
    cases hnone
  | some found =>
    obtain ⟨⟨front, back⟩, hsplit, hmap⟩ := List.exists_of_findSome?_eq_some hfound
    obtain ⟨module, hmodule, rfl⟩ := Option.map_eq_some_iff.mp hmap
    obtain ⟨hparts, hfront, hback⟩ := Source.Tree.mem_splits_iff.mp hsplit
    obtain ⟨first, others, outermost, rfl, hfirst, hwalk⟩ :=
      exists_outermost hbound hparts hfront hback hmodule
    obtain ⟨rfl, hothers⟩ := List.cons.inj (hname.symm.trans (hparts.trans List.cons_append))
    obtain rfl := Option.some.inj (hhead.symm.trans hfirst)
    rw [Option.bind_some, hothers, walk_append, hwalk, Option.bind_some]

/-- What is found has a point in its name. -/
theorem mem_of_find (h : host.find name = some object) : '.' ∈ name.toList := by
  by_contra hpoint
  obtain ⟨found, hfound, -⟩ := Option.map_eq_some_iff.mp h
  rw [lookUp, segments_of_not_mem hpoint] at hfound
  cases hfound

/-! ### Evaluating references -/

/-- The text of a reference without arguments needs its module, unless that is built in. -/
theorem imports_plain {outer qualname : String} {primitive : Bool} (houter : outer ≠ "") :
    (⟨outer, qualname, [], primitive, none⟩ : TypeRef).imports =
      if outer = "builtins" then [] else [outer] := by
  rw [TypeRef.imports, TypeRef.modules, TypeRef.modulesOfAll]
  by_cases hbuiltins : outer = "builtins"
  · simp [hbuiltins, sortedNames, sortedBy]
  · simp [hbuiltins, houter, List.eraseDups_cons, sortedNames, sortedBy, insertSorted]

/-- **Evaluating the text of a reference is looking up its path**, if the imports succeed. -/
theorem evaluate_plain {outer qualname : String} {primitive : Bool} (houter : outer ≠ "")
    (hqualname : qualname ≠ "") (hbound : host.Bound (outer ++ "." ++ qualname)) :
    host.evaluate (⟨outer, qualname, [], primitive, none⟩ : TypeRef).imports
        (⟨outer, qualname, [], primitive, none⟩ : TypeRef).render =
      (host.module? outer).bind fun _ => host.lookUp (outer ++ "." ++ qualname) := by
  have hempty : qualname.isEmpty = false := by rwa [← Bool.not_eq_true, String.isEmpty_iff]
  have hrender : (⟨outer, qualname, [], primitive, none⟩ : TypeRef).render =
      if outer = "builtins" then qualname else outer ++ "." ++ qualname := by
    rw [TypeRef.render]
    simp [hempty, TypeRef.name, houter]
  obtain ⟨first, others, hsegments⟩ := exists_segments_eq_cons qualname
  rw [imports_plain houter, hrender]
  by_cases hbuiltins : outer = "builtins"
  · subst hbuiltins
    rw [if_pos rfl, if_pos rfl, evaluate, hsegments]
    simp only [List.all_nil, if_true, global, List.any_nil, Bool.false_eq_true, if_false]
    cases hmodule : host.module? "builtins" with
    | none => rfl
    | some top =>
      have hpath : segments ("builtins" ++ "." ++ qualname) = "builtins" :: first :: others := by
        rw [segments_append, hsegments]
        rfl
      rw [Option.bind_some, Option.bind_some, lookUp_eq_walk hbound hpath (List.cons_ne_nil _ _) hmodule]
      rfl
  · rw [if_neg hbuiltins, if_neg hbuiltins, evaluate, segments_append]
    cases hmodule : host.module? outer with
    | none => simp [hmodule]
    | some module =>
      have hback : segments qualname ≠ [] := hsegments ▸ List.cons_ne_nil _ _
      have hfront : segments outer ≠ [] := by
        obtain ⟨head, rest, hhead⟩ := exists_segments_eq_cons outer
        exact hhead ▸ List.cons_ne_nil _ _
      obtain ⟨head, rest, top, hhead, htop, -⟩ := exists_outermost hbound (segments_append _ _) hfront hback
        (by rwa [join_segments])
      have hpath : segments (outer ++ "." ++ qualname) = head :: (rest ++ segments qualname) := by
        rw [segments_append, hhead, List.cons_append]
      have hglobal : host.global [outer] head = some top := by
        rw [global, List.any_cons, splitHead_fst hhead, beq_self_eq_true, Bool.true_or, if_pos rfl, htop]
      rw [hhead, List.cons_append, Option.bind_some,
        lookUp_eq_walk hbound hpath (List.append_ne_nil_of_right_ne_nil _ hback) htop]
      simp [hmodule, hglobal]

end Host

/-! ### What references to types of the library are made of -/

section

variable {s : Surroundings} {name module qualname p : String}

/-- A type with this definition is referred to by it: it has a module and a name, is not local, and its
module is not private. -/
def IsHome (module qualname : String) : Prop :=
  module ≠ "" ∧ qualname ≠ "" ∧ '<' ∉ qualname.toList ∧ hasPrivateSegment module = false

/-- The reference to a type by its definition. -/
def homeRef (module qualname : String) : TypeRef :=
  { TypeRef.named module qualname with
    primitive := module == "builtins" && primitiveNames.contains qualname }

/-- A reference by the custom for names is made of the name. -/
theorem path_guessedRef (h : '.' ∈ name.toList) : (guessedRef name).path = name :=
  guessedSplit_append h

/-- A type with a definition to refer to it by. -/
theorem libraryRef_of_isHome (h : IsHome module qualname) :
    libraryRef name (.type module qualname) = some (homeRef module qualname) := by
  obtain ⟨hmodule, hqualname, hlocal, hprivate⟩ := h
  rw [libraryRef, if_neg (by simp [hmodule, hqualname, hlocal])]
  simp [hprivate, homeRef]

/-- Without one, the name is kept. -/
theorem path_of_not_isHome (hpoint : '.' ∈ name.toList) (h : ¬ IsHome module qualname) {ref : TypeRef}
    (href : libraryRef name (.type module qualname) = some ref) : ref.path = name := by
  rw [libraryRef] at href
  split at href
  · cases href
  · next hwritten =>
    have hprivate : hasPrivateSegment module = true := by
      by_contra hpublic
      exact h (by simpa [IsHome, hpublic, and_assoc] using hwritten)
    obtain rfl := Option.some.inj href
    show (if hasPrivateSegment module then guessedSplit name else (module, qualname)).1 ++ "." ++
      (if hasPrivateSegment module then guessedSplit name else (module, qualname)).2 = name
    rw [if_pos hprivate]
    exact guessedSplit_append hpoint

/-- A primitive type is built in. -/
theorem canonical_primitive (s : Surroundings) (h : p ∈ primitiveNames) :
    s.canonical ("builtins" ++ "." ++ p) = homeRef "builtins" p := by
  have hall : ∀ p ∈ primitiveNames, splitLast ("builtins" ++ "." ++ p) = ("builtins", p) := by decide
  have hcontains : primitiveNames.contains p = true := List.contains_iff_mem.mpr h
  have hprimitive : ("builtins" == "builtins" && primitiveNames.contains p) = true := by
    rw [beq_self_eq_true, hcontains, Bool.true_and]
  rw [Surroundings.canonical, hall p h]
  dsimp only
  rw [if_pos hprimitive, homeRef, hprimitive]

/-- **A reference to a type of the library is made of the definition of the type, or of the name** that it
was looked up by, which is so for primitive types and where there is no definition to refer to. -/
theorem canonical_cases (howns : s.library.owns name = true) (hpoint : '.' ∈ name.toList)
    (hdenotes : s.library.denotes name = some (.type module qualname)) :
    (IsHome module qualname ∧ s.canonical name = homeRef module qualname) ∨
    ((IsHome module qualname → ∃ p ∈ primitiveNames, name = "builtins" ++ "." ++ p) ∧
      (s.canonical name).path = name) := by
  by_cases hprimitive : (splitLast name).1 = "builtins" ∧ (splitLast name).2 ∈ primitiveNames
  · have hname := splitLast_append hpoint
    rw [hprimitive.1] at hname
    refine .inr ⟨fun _ => ⟨_, hprimitive.2, hname.symm⟩, ?_⟩
    rw [← hname, canonical_primitive s hprimitive.2]
    rfl
  · have hother :
        ((splitLast name).1 == "builtins" && primitiveNames.contains (splitLast name).2) = false := by
      simpa using hprimitive
    rw [Surroundings.canonical]
    dsimp only
    rw [hother, if_neg Bool.false_ne_true, if_pos howns, hdenotes, Option.bind_some]
    by_cases hhome : IsHome module qualname
    · exact .inl ⟨hhome, by rw [libraryRef_of_isHome hhome]⟩
    · refine .inr ⟨fun h => absurd h hhome, ?_⟩
      cases href : libraryRef name (.type module qualname) with
      | some ref => exact path_of_not_isHome hpoint hhome href
      | none =>
        dsimp only
        cases hsplit : s.tree.splitQualified name with
        | some parts => exact (Source.Tree.splitQualified_eq_some_iff.mp hsplit).1.symm
        | none =>
          dsimp only
          split
          · next hempty =>
            have hname := splitLast_append hpoint
            rw [String.isEmpty_iff.mp hempty] at hname
            exact hname
          · exact path_guessedRef hpoint

/-- The reference to the definition of a type is made of it again. -/
theorem canonical_home (hhome : IsHome module qualname) (howns : s.library.owns module = true)
    (hdenotes : s.library.denotes (module ++ "." ++ qualname) = some (.type module qualname)) :
    s.canonical (module ++ "." ++ qualname) = homeRef module qualname := by
  have hpoint : '.' ∈ (module ++ "." ++ qualname).toList := by
    rw [toList_append_point]
    exact List.mem_append_right _ List.mem_cons_self
  have hwhole : s.library.owns (module ++ "." ++ qualname) = true := by rw [owns_append, howns]
  rcases canonical_cases hwhole hpoint hdenotes with ⟨-, h⟩ | ⟨hprimitive, -⟩
  · exact h
  · obtain ⟨p, hp, hname⟩ := hprimitive hhome
    have hflat : ∀ p ∈ primitiveNames, '.' ∉ p.toList := by decide
    obtain ⟨rfl, rfl⟩ := append_point_inj_of_not_mem (by decide) (hflat p hp) hname
    exact canonical_primitive s hp

end

/-! ### Finding types again -/

section

variable {Object : Type} {host : Host Object} {s : Surroundings} {name module qualname : String}
variable {found : Object}

/-- The library knows the definition of a type that is found. -/
theorem Library.Reads.denotes (hreads : s.library.Reads host) (howns : s.library.owns name = true)
    (hfound : host.find name = some found) (htype : host.kind found = .type module qualname) :
    s.library.denotes name = some (.type module qualname) := by
  rw [hreads name howns, hfound, Option.map_some, htype]

/-- **What a reference is made of leads to the type again**, unless it is made of a definition that does
not. -/
theorem find_path_iff (hreads : s.library.Reads host) (howns : s.library.owns name = true)
    (hfound : host.find name = some found) (htype : host.kind found = .type module qualname) :
    host.find (s.canonical name).path = some found ↔
      (IsHome module qualname → (∀ p ∈ primitiveNames, name ≠ "builtins" ++ "." ++ p) →
        host.find (module ++ "." ++ qualname) = some found) := by
  rcases canonical_cases howns (Host.mem_of_find hfound) (hreads.denotes howns hfound htype) with
    ⟨hhome, href⟩ | ⟨hkept, hpath⟩
  · rw [href]
    refine ⟨fun hagain _ _ => hagain, fun hdefined => ?_⟩
    by_cases hprimitive : ∃ p ∈ primitiveNames, name = "builtins" ++ "." ++ p
    · obtain ⟨p, hp, rfl⟩ := hprimitive
      rw [← href, canonical_primitive s hp]
      exact hfound
    · exact hdefined hhome fun p hp hname => hprimitive ⟨p, hp, hname⟩
  · rw [hpath]
    refine iff_of_true hfound fun hhome hother => ?_
    obtain ⟨p, hp, hname⟩ := hkept hhome
    exact absurd hname (hother p hp)

/-- **A reference that leads to its type is the reference to what it is made of.** -/
theorem canonical_path (hreads : s.library.Reads host) (howns : s.library.owns name = true)
    (hfound : host.find name = some found) (htype : host.kind found = .type module qualname)
    (hagain : host.find (s.canonical name).path = some found)
    (howned : s.library.owns (s.canonical name).module = true) :
    s.canonical (s.canonical name).path = s.canonical name := by
  rcases canonical_cases howns (Host.mem_of_find hfound) (hreads.denotes howns hfound htype) with
    ⟨hhome, href⟩ | ⟨-, hpath⟩
  · rw [href] at hagain howned ⊢
    have hdefined : host.find (module ++ "." ++ qualname) = some found := hagain
    have hwhole : s.library.owns (module ++ "." ++ qualname) = true := by
      rw [owns_append]
      exact howned
    exact canonical_home hhome howned (hreads.denotes hwhole hdefined htype)
  · rw [hpath]

/-- **Evaluating a reference is looking up what it is made of**, if its module can be imported. -/
theorem evaluate_canonical (hreads : s.library.Reads host) (howns : s.library.owns name = true)
    (hfound : host.find name = some found) (htype : host.kind found = .type module qualname)
    (hfilled : Filled name) (hbound : host.Bound (s.canonical name).path) :
    host.evaluate (s.canonical name).imports (s.canonical name).render =
      (host.module? (s.canonical name).module).bind fun _ => host.lookUp (s.canonical name).path := by
  have hparts : (s.canonical name).module ≠ "" ∧ (s.canonical name).qualname ≠ "" := by
    rcases canonical_cases howns (Host.mem_of_find hfound) (hreads.denotes howns hfound htype) with
      ⟨hhome, href⟩ | ⟨-, hpath⟩
    · rw [href]
      exact ⟨hhome.1, hhome.2.1⟩
    · rw [← hpath, TypeRef.path, filled_append_iff] at hfilled
      exact ⟨hfilled.1.ne_empty, hfilled.2.ne_empty⟩
  obtain ⟨hargs, hliteral⟩ := s.canonical_plain name
  generalize s.canonical name = ref at hparts hbound hargs hliteral ⊢
  obtain ⟨outer, inner, args, primitive, literal⟩ := ref
  obtain rfl : args = [] := hargs
  obtain rfl : literal = none := hliteral
  exact Host.evaluate_plain hparts.1 hparts.2 hbound

/-- **A type of the library is found again by its reference, unless its definition misleads.** What the
reference is made of leads to the type if that is the name it was looked up by; if it is the definition,
it leads to the type exactly if the type can be found where it was defined. A reference that leads to its
type, in a module that belongs to the library, is the reference to what it is made of. Where the modules
around the type are members of each other, its text evaluates to the type, from its imports, exactly if it
leads there and its module can be imported. -/
theorem found_at_canonical_iff (hreads : s.library.Reads host) (howns : s.library.owns name = true)
    (hfound : host.find name = some found) (htype : host.kind found = .type module qualname) :
    (host.find (s.canonical name).path = some found ↔
      (IsHome module qualname → (∀ p ∈ primitiveNames, name ≠ "builtins" ++ "." ++ p) →
        host.find (module ++ "." ++ qualname) = some found)) ∧
    (host.find (s.canonical name).path = some found → s.library.owns (s.canonical name).module = true →
      s.canonical (s.canonical name).path = s.canonical name) ∧
    (Filled name → host.Bound (s.canonical name).path →
      ((host.evaluate (s.canonical name).imports (s.canonical name).render).map host.unwrap = some found ↔
        (host.module? (s.canonical name).module).isSome ∧
          host.find (s.canonical name).path = some found)) := by
  refine ⟨find_path_iff hreads howns hfound htype, canonical_path hreads howns hfound htype,
    fun hfilled hbound => ?_⟩
  rw [evaluate_canonical hreads howns hfound htype hfilled hbound]
  cases host.module? (s.canonical name).module with
  | none => simp
  | some imported => simp [Host.find]

end

/-! ### A type with two names, and a type without any -/

/-- A program with a type that is defined in one module, and that another module has with arguments. -/
def sequenceHost : Host String where
  module? name :=
    if name ∈ ["builtins", "collections", "collections.abc", "typing"] then some name else none
  member? object name := Table.find? [("collections.abc", "collections.abc"),
    ("collections.abc.Sequence", "sequence"), ("typing.Sequence", "alias"),
    ("alias.__origin__", "sequence")] (object ++ "." ++ name)
  kind object := if object = "sequence" then .type "collections.abc" "Sequence" else .value

/-- The library of this program, and no tree. -/
def sequenceSurroundings : Surroundings where
  tree := ⟨[]⟩
  library := {
    roots := ["collections", "typing"]
    submodules := ["collections.abc"]
    packages := ["collections"]
    foreign := []
    denotes name := (sequenceHost.find name).map sequenceHost.kind }
  parse := Syntax.parseExpression

/-- The modules around the definition are members of each other. -/
theorem bound_sequenceHost (name : String) : sequenceHost.Bound name := by
  intro outer inner module hpoint hencloses hmodule
  have hall : ∀ name ∈ ["builtins", "collections", "collections.abc", "typing"],
      name = "collections" ++ "." ++ "abc" ∨ '.' ∉ name.toList := by decide
  change (if _ then some (outer ++ "." ++ inner) else none) = _ at hmodule
  split at hmodule
  · next hmem =>
    obtain rfl := Option.some.inj hmodule
    rcases hall _ hmem with hname | hflat
    · obtain ⟨rfl, rfl⟩ := append_point_inj_of_not_mem (by decide) (by decide) hname
      exact ⟨"collections", by decide, by decide⟩
    · rw [toList_append_point] at hflat
      exact absurd (List.mem_append_right _ List.mem_cons_self) hflat
  · cases hmodule

/-- An alias of a type is referred to by the definition of the type, which is found there, and the text
evaluates to it. -/
theorem found_at_canonical_of_sequence :
    sequenceHost.find "typing.Sequence" = some "sequence" ∧
    (sequenceSurroundings.canonical "typing.Sequence").path = "collections.abc.Sequence" ∧
    sequenceHost.find "collections.abc.Sequence" = some "sequence" ∧
    sequenceSurroundings.canonical "collections.abc.Sequence" =
      sequenceSurroundings.canonical "typing.Sequence" ∧
    (sequenceSurroundings.canonical "typing.Sequence").imports = ["collections.abc"] ∧
    (sequenceHost.evaluate ["collections.abc"] "collections.abc.Sequence").map sequenceHost.unwrap =
      some "sequence" := by
  have hfind : sequenceHost.find "typing.Sequence" = some "sequence" := by decide
  have howns : sequenceSurroundings.library.owns "typing.Sequence" = true := by decide
  have hpath : (sequenceSurroundings.canonical "typing.Sequence").path = "collections.abc.Sequence" := by
    decide
  have himports : (sequenceSurroundings.canonical "typing.Sequence").imports = ["collections.abc"] := by
    decide
  have hrender : (sequenceSurroundings.canonical "typing.Sequence").render = "collections.abc.Sequence" := by
    decide
  have hdefined : sequenceHost.find ("collections.abc" ++ "." ++ "Sequence") = some "sequence" := by
    decide
  obtain ⟨hagain, hrepeated, hevaluates⟩ :=
    found_at_canonical_iff (s := sequenceSurroundings) (fun _ _ => rfl) howns hfind rfl
  have hfound := hagain.mpr fun _ _ => hdefined
  have hevaluated := (hevaluates (by decide) (bound_sequenceHost _)).mpr ⟨by decide, hfound⟩
  have hsame := hrepeated hfound (by decide)
  rw [himports, hrender] at hevaluated
  rw [hpath] at hfound hsame
  exact ⟨hfind, hpath, hfound, hsame, himports, hevaluated⟩

/-! ### A type that cannot be found where it was defined -/

/-- The name of the type of functions, and the name that it was defined under. -/
def functionNames : List String := ["types.FunctionType", "builtins.function"]

/-- The characters of these names. -/
theorem toList_functionNames : functionNames.map String.toList =
    [['t', 'y', 'p', 'e', 's', '.', 'F', 'u', 'n', 'c', 't', 'i', 'o', 'n', 'T', 'y', 'p', 'e'],
      ['b', 'u', 'i', 'l', 't', 'i', 'n', 's', '.', 'f', 'u', 'n', 'c', 't', 'i', 'o', 'n']] := by
  rw [functionNames, List.map_cons, List.map_cons, List.map_nil, String.toList_ofList, String.toList_ofList]

set_option maxRecDepth 10000 in
/-- Neither is a type that is defined under the name given. -/
theorem functionNames_notMem_homeTypes : ∀ w ∈ homeTypes, w.toList ∉ functionNames.map String.toList := by
  rw [homeTypes, toList_functionNames]
  repeat refine forall_mem_wordsOf_cons (P := (· ∉ _)) (by decide) ?_
  exact fun w hw => absurd hw List.not_mem_nil

set_option maxRecDepth 10000 in
/-- Neither is known as a thing that is no type. -/
theorem functionNames_notMem_otherValues :
    ∀ w ∈ otherValues, w.toList ∉ functionNames.map String.toList := by
  rw [otherValues, toList_functionNames]
  repeat refine forall_mem_wordsOf_cons (P := (· ∉ _)) (by decide) ?_
  exact fun w hw => absurd hw List.not_mem_nil

set_option maxRecDepth 10000 in
/-- One entry is about these names. -/
theorem functionNames_otherTypes :
    ∀ w ∈ otherTypes, w.toList.takeWhile (· != '=') ∈ functionNames.map String.toList →
      w.toList =
        ['t', 'y', 'p', 'e', 's', '.', 'F', 'u', 'n', 'c', 't', 'i', 'o', 'n', 'T', 'y', 'p', 'e', '=', 'b',
         'u', 'i', 'l', 't', 'i', 'n', 's', ':', 'f', 'u', 'n', 'c', 't', 'i', 'o', 'n'] := by
  rw [otherTypes, toList_functionNames]
  repeat
    refine forall_mem_wordsOf_cons (P := fun cs => List.takeWhile _ cs ∈ _ → cs = _) (by decide) ?_
  exact fun w hw => absurd hw List.not_mem_nil

/-- What the entry says. -/
theorem parseEntry_functionType : parseEntry "types.FunctionType=builtins:function" =
    ("types.FunctionType", .type "builtins" "function") := by decide

/-- What is known of these names is what the entry says. -/
theorem eq_of_denotes_functionNames {name : String} {known : Denotation} (h : name ∈ functionNames)
    (hdenotes : Library.standard.denotes name = some known) :
    (name, known) = ("types.FunctionType", .type "builtins" "function") := by
  have hcs : name.toList ∈ functionNames.map String.toList := List.mem_map_of_mem h
  rcases denotes_cases hdenotes with ⟨hhome, -⟩ | ⟨w, hw, hknown⟩ | ⟨hvalue, -⟩
  · exact absurd hcs (functionNames_notMem_homeTypes name hhome)
  · have hname : name = (parseEntry w).1 := by rw [hknown]
    rw [hname, parseEntry, String.toList_ofList] at hcs
    have hentry : w = "types.FunctionType=builtins:function" :=
      String.toList_inj.mp ((functionNames_otherTypes w hw hcs).trans (String.toList_ofList).symm)
    rw [← hknown, hentry, parseEntry_functionType]
  · exact absurd hcs (functionNames_notMem_otherValues name hvalue)

/-- The library has the type of functions, under another name. -/
theorem denotes_functionType :
    Library.standard.denotes "types.FunctionType" = some (.type "builtins" "function") := by
  cases hdenotes : Library.standard.denotes "types.FunctionType" with
  | none =>
    have hentry : "types.FunctionType=builtins:function" ∈ otherTypes := by
      rw [otherTypes]
      iterate 25 refine mem_wordsOf_cons.mpr (.inr ?_)
      exact mem_wordsOf_cons.mpr (.inl (by decide))
    have hlisted : ("types.FunctionType", .type "builtins" "function") ∈ denotations := by
      rw [← parseEntry_functionType, denotations, List.mem_append, List.mem_append]
      exact .inl (.inr (List.mem_map_of_mem hentry))
    exact absurd hdenotes (denotes_ne_none hlisted)
  | some known =>
    rw [(Prod.mk.inj (eq_of_denotes_functionNames List.mem_cons_self hdenotes)).2]

/-- The library does not have it under the name that it was defined under. -/
theorem denotes_function : Library.standard.denotes "builtins.function" = none := by
  rw [Option.eq_none_iff_forall_ne_some]
  intro known hdenotes
  have heq := eq_of_denotes_functionNames (List.mem_cons_of_mem _ List.mem_cons_self) hdenotes
  exact absurd (Prod.mk.inj heq).1 (by decide)

set_option maxRecDepth 10000 in
/-- It is no built-in name, either. -/
theorem isBuiltinName_function : isBuiltinName "function" = false := by
  have hnone : ∀ w ∈ builtinNames, w.toList ≠ ['f', 'u', 'n', 'c', 't', 'i', 'o', 'n'] := by
    rw [builtinNames]
    repeat refine forall_mem_wordsOf_cons (P := (· ≠ _)) (by decide) ?_
    exact fun w hw => absurd hw List.not_mem_nil
  rw [isBuiltinName, ← Bool.not_eq_true, List.contains_iff_mem]
  exact fun hmem => hnone "function" hmem (by decide)

/-- The type of functions is referred to by a name that leads nowhere: it is no name of the library, and
no built-in name, so that the text of the reference means nothing. -/
theorem not_found_at_canonical_of_function :
    Library.standard.owns "types.FunctionType" = true ∧
    Library.standard.denotes "types.FunctionType" = some (.type "builtins" "function") ∧
    (Surroundings.ofTree ⟨[]⟩).canonical "types.FunctionType" = .named "builtins" "function" ∧
    Library.standard.denotes (TypeRef.named "builtins" "function").path = none ∧
    (TypeRef.named "builtins" "function").imports = [] ∧
    (TypeRef.named "builtins" "function").render = "function" ∧ isBuiltinName "function" = false := by
  have howns : Library.standard.owns "types.FunctionType" = true := by
    have hroot : "types" ∈ libraryRoots := by
      rw [libraryRoots]
      iterate 27 refine mem_wordsOf_cons.mpr (.inr ?_)
      exact mem_wordsOf_cons.mpr (.inl (by decide))
    have hhead : (splitHead "types.FunctionType").1 = "types" := by decide
    rw [Library.owns, hhead]
    exact Bool.or_eq_true_iff.mpr (.inr (List.contains_iff_mem.mpr hroot))
  have hcanonical : (Surroundings.ofTree ⟨[]⟩).canonical "types.FunctionType" =
      .named "builtins" "function" := by
    rcases canonical_cases (s := .ofTree ⟨[]⟩) howns (by decide) denotes_functionType with
      ⟨-, href⟩ | ⟨hprimitive, -⟩
    · exact href
    · have hnone : ∀ p ∈ primitiveNames, "types.FunctionType" ≠ "builtins" ++ "." ++ p := by decide
      obtain ⟨p, hp, hname⟩ := hprimitive (by unfold IsHome; decide)
      exact absurd hname (hnone p hp)
  exact ⟨howns, denotes_functionType, hcanonical, denotes_function, by decide, by decide,
    isBuiltinName_function⟩

end FluentBuilder
