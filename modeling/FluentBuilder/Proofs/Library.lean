import FluentBuilder.Resolver

/-!
# The special forms in the standard library

The standard library knows the special forms of annotations as values and not as types, so that the custom
for names decides what they are (`canonical_specialForm`). The library is a table of texts. That a name is
no type of it is shown line by line (`forall_mem_wordsOf_cons`), with the characters of each line at hand.
-/

namespace FluentBuilder

open Source

/-! ### The words of some lines -/

/-- What holds of the words of the first line and of those of the others holds of all. -/
theorem forall_mem_wordsOf_cons {P : List Char → Prop} {cs : List Char} {lines : List String}
    (hfirst : ∀ w ∈ Dotted.pieces ' ' cs, P w) (hrest : ∀ w ∈ wordsOf lines, P w.toList) :
    ∀ w ∈ wordsOf (String.ofList cs :: lines), P w.toList := by
  intro w hw
  rw [wordsOf, List.flatMap_cons, String.toList_ofList, List.mem_append] at hw
  rcases hw with hw | hw
  · obtain ⟨piece, hpiece, rfl⟩ := List.mem_map.mp hw
    rw [String.toList_ofList]
    exact hfirst piece hpiece
  · exact hrest w hw

/-- The words of some lines are those of the first one and those of the others. -/
theorem mem_wordsOf_cons {w : String} {cs : List Char} {lines : List String} :
    w ∈ wordsOf (String.ofList cs :: lines) ↔ w.toList ∈ Dotted.pieces ' ' cs ∨ w ∈ wordsOf lines := by
  rw [wordsOf, List.flatMap_cons, String.toList_ofList, List.mem_append, List.mem_map, wordsOf]
  constructor
  · rintro (⟨piece, hpiece, rfl⟩ | hrest)
    · exact .inl (by rwa [String.toList_ofList])
    · exact .inr hrest
  · rintro (hfirst | hrest)
    · exact .inl ⟨_, hfirst, String.ofList_toList⟩
    · exact .inr hrest

/-- `int` is a built-in name. -/
theorem isBuiltinName_int : isBuiltinName "int" = true := by
  refine List.contains_iff_mem.mpr ?_
  rw [builtinNames]
  iterate 20 refine mem_wordsOf_cons.mpr (.inr ?_)
  exact mem_wordsOf_cons.mpr (.inl (by decide))

/-! ### Special forms -/

/-- The names of special forms. -/
def specialForms : List String := ["typing.Optional", "typing.Union", "typing.Literal"]

/-- The characters of these names. -/
theorem toList_specialForms : specialForms.map String.toList =
    [['t', 'y', 'p', 'i', 'n', 'g', '.', 'O', 'p', 't', 'i', 'o', 'n', 'a', 'l'],
      ['t', 'y', 'p', 'i', 'n', 'g', '.', 'U', 'n', 'i', 'o', 'n'],
      ['t', 'y', 'p', 'i', 'n', 'g', '.', 'L', 'i', 't', 'e', 'r', 'a', 'l']] := by
  rw [specialForms, List.map_cons, List.map_cons, List.map_cons, List.map_nil, String.toList_ofList,
    String.toList_ofList, String.toList_ofList]

/-- They are names in one module. -/
theorem splitLast_specialForm {name : String} (h : name ∈ specialForms) :
    (Dotted.splitLast name).1 = "typing" := by
  have hall : ∀ form ∈ specialForms, (Dotted.splitLast form).1 = "typing" := by decide
  exact hall name h

set_option maxRecDepth 10000 in
/-- No special form is a type that is defined under the name given. -/
theorem homeTypes_notMem : ∀ w ∈ homeTypes, w.toList ∉ specialForms.map String.toList := by
  rw [homeTypes, toList_specialForms]
  repeat refine forall_mem_wordsOf_cons (P := (· ∉ _)) (by decide +kernel) ?_
  exact fun w hw => absurd hw List.not_mem_nil

set_option maxRecDepth 10000 in
/-- No special form is a type that is defined under another name. -/
theorem otherTypes_notMem :
    ∀ w ∈ otherTypes, w.toList.takeWhile (· != '=') ∉ specialForms.map String.toList := by
  rw [otherTypes, toList_specialForms]
  repeat refine forall_mem_wordsOf_cons (P := (List.takeWhile _ · ∉ _)) (by decide +kernel) ?_
  exact fun w hw => absurd hw List.not_mem_nil

/-- What is known of a name stands in one of the three lists. -/
theorem denotes_cases {name : String} {known : Denotation}
    (h : Library.standard.denotes name = some known) :
    (name ∈ homeTypes ∧ known = .type (Dotted.parent name) (Dotted.lastSegment name)) ∨
      (∃ w ∈ otherTypes, parseEntry w = (name, known)) ∨ (name ∈ otherValues ∧ known = .value) := by
  obtain ⟨⟨name', known'⟩, hfound, rfl⟩ := Option.map_eq_some_iff.mp h
  obtain rfl : name' = name := by simpa using List.find?_some hfound
  have hmem := List.mem_of_find?_eq_some hfound
  rw [denotations, List.mem_append, List.mem_append] at hmem
  rcases hmem with (hhome | hother) | hvalue
  · obtain ⟨w, hw, heq⟩ := List.mem_map.mp hhome
    obtain ⟨rfl, rfl⟩ := Prod.mk.inj heq
    exact .inl ⟨hw, rfl⟩
  · exact .inr (.inl (List.mem_map.mp hother))
  · obtain ⟨w, hw, heq⟩ := List.mem_map.mp hvalue
    obtain ⟨rfl, rfl⟩ := Prod.mk.inj heq
    exact .inr (.inr ⟨hw, rfl⟩)

/-- What is listed is known. -/
theorem denotes_ne_none {name : String} {known : Denotation} (h : (name, known) ∈ denotations) :
    Library.standard.denotes name ≠ none := by
  intro hdenotes
  have hnone := List.find?_eq_none.mp (Option.map_eq_none_iff.mp hdenotes) _ h
  exact hnone (beq_self_eq_true name)

/-- A special form is no type of the library. -/
theorem denotes_specialForm {name : String} (h : name ∈ specialForms) (module qualname : String) :
    Library.standard.denotes name ≠ some (.type module qualname) := by
  intro hdenotes
  have hcs : name.toList ∈ specialForms.map String.toList := List.mem_map_of_mem h
  rcases denotes_cases hdenotes with ⟨hhome, -⟩ | ⟨w, hw, hentry⟩ | ⟨-, hvalue⟩
  · exact homeTypes_notMem name hhome hcs
  · have hname : name = (parseEntry w).1 := by rw [hentry]
    rw [hname, parseEntry, String.toList_ofList] at hcs
    exact otherTypes_notMem w hw hcs
  · cases hvalue

/-- **A special form has the reference that the custom for names gives it**, in a tree without the
module of the form. -/
theorem canonical_specialForm {tree : Tree} {name : String} (h : name ∈ specialForms)
    (hsplit : tree.splitQualified name = none) :
    (Surroundings.ofTree tree).canonical name = guessedRef name := by
  have hlibrary : (Library.standard.denotes name).bind (libraryRef name) = none ∨
      (Library.standard.denotes name).bind (libraryRef name) = some (guessedRef name) := by
    cases hdenotes : Library.standard.denotes name with
    | none => exact .inl rfl
    | some known =>
      cases known with
      | type module qualname => exact absurd hdenotes (denotes_specialForm h module qualname)
      | value => exact .inr rfl
  have hfound : (if (Surroundings.ofTree tree).library.owns name then
        ((Surroundings.ofTree tree).library.denotes name).bind (libraryRef name) else none) = none ∨
      (if (Surroundings.ofTree tree).library.owns name then
        ((Surroundings.ofTree tree).library.denotes name).bind (libraryRef name) else none) =
        some (guessedRef name) := by
    split
    · exact hlibrary
    · exact .inl rfl
  have htree : (Surroundings.ofTree tree).tree.splitQualified name = none := hsplit
  have hmodule := splitLast_specialForm h
  rcases hlast : Dotted.splitLast name with ⟨module, qualname⟩
  rw [hlast] at hmodule
  obtain rfl : module = "typing" := hmodule
  rw [Surroundings.canonical, hlast, htree]
  rcases hfound with hnone | hguessed
  · simp [hnone]
  · simp [hguessed]

end FluentBuilder
