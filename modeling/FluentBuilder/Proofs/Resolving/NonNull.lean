import FluentBuilder.Blueprint
import FluentBuilder.Proofs.Library
import FluentBuilder.Proofs.Resolving.Meaning

/-!
# The absent value in the parameter of a setter

The setter of a field takes the type of the field without the absent value. What is taken away is the
absent value that stands directly in an optional type or in a union. It can stand deeper too, since only
unions written with `|` are flattened, and then the parameter admits it still. `setterType_spec` says
exactly when, and that no other alternative is ever lost.

**The route.** A type is a choice of its `members`; what it comes down to are its `alternatives`.
`TypeRef.nonNull` is taken apart once (`nonNull_cases`), and everything about it is read off the cases.
Annotations come in by induction on their form: the alternatives of what an annotation is resolved to are
the types that its names stand for (`exists_ref_of_isChoice`).
-/

namespace FluentBuilder

open Syntax

namespace TypeRef

variable {r a : TypeRef}

/-! ### What a type is a choice of -/

/-- Is it an optional type? -/
def isOptional (r : TypeRef) : Bool :=
  r.module == "typing" && r.qualname == "Optional" && r.args.length = 1

/-- Is it a choice of its arguments? -/
def isChoice (r : TypeRef) : Bool :=
  r.isOptional || r.isUnion && !r.args.isEmpty

/-- What a type is a choice of at first sight: its arguments, or itself. -/
def members (r : TypeRef) : List TypeRef :=
  if r.isChoice then r.args else [r]

/-- The members other than the absent value. -/
def presentMembers (r : TypeRef) : List TypeRef :=
  r.members.filter fun a => !a.isNone

/-- Does the absent value stand in the type, beside something else or as what an optional type adds? -/
def holdsNone (r : TypeRef) : Bool :=
  r.isOptional || r.isUnion && r.args.any isNone && r.args.any fun a => !a.isNone

/-- A type that admits the absent value. -/
inductive AdmitsNone : TypeRef → Prop
  /-- The type of the absent value. -/
  | absent {r : TypeRef} (h : r.isNone = true) : AdmitsNone r
  /-- An optional type, whatever its arguments. -/
  | optional {r : TypeRef} (hmodule : r.module = "typing") (hname : r.qualname = "Optional")
    (hargs : r.args ≠ []) : AdmitsNone r
  /-- A union with a member that does. -/
  | union {r a : TypeRef} (h : r.isUnion = true) (hmem : a ∈ r.args) (ha : AdmitsNone a) :
    AdmitsNone r

mutual

/-- The alternatives other than the absent value, at any depth. -/
def alternatives : TypeRef → List TypeRef
  | ⟨module, qualname, args, primitive, literal⟩ =>
    let r : TypeRef := ⟨module, qualname, args, primitive, literal⟩
    if r.isNone then [] else if r.isChoice then alternativesOfAll args else [r]

/-- The alternatives of several types. -/
def alternativesOfAll : List TypeRef → List TypeRef
  | [] => []
  | r :: rest => r.alternatives ++ alternativesOfAll rest

end

/-- The alternatives of several types, one after the other. -/
theorem alternativesOfAll_eq (rs : List TypeRef) : alternativesOfAll rs = rs.flatMap alternatives := by
  induction rs with
  | nil => rw [alternativesOfAll, List.flatMap_nil]
  | cons r rest ih => rw [alternativesOfAll, ih, List.flatMap_cons]

/-- The alternatives of a type. -/
theorem alternatives_eq (r : TypeRef) : r.alternatives =
    if r.isNone then [] else if r.isChoice then r.args.flatMap alternatives else [r] := by
  obtain ⟨module, qualname, args, primitive, literal⟩ := r
  rw [alternatives, alternativesOfAll_eq]

/-- The absent value is no other alternative. -/
theorem alternatives_of_isNone (h : r.isNone = true) : r.alternatives = [] := by
  rw [alternatives_eq, if_pos h]

/-- The type of the absent value is no optional type and no union. -/
theorem not_choice_of_isNone (h : r.isNone = true) : r.isOptional = false ∧ r.isUnion = false := by
  simp only [isNone, Bool.and_eq_true, beq_iff_eq] at h
  obtain ⟨⟨⟨⟨hmodule, -⟩, -⟩, -⟩, -⟩ := h
  simp [isOptional, isUnion, hmodule]

/-- An optional type is no union. -/
theorem isUnion_of_isOptional (h : r.isOptional = true) : r.isUnion = false := by
  simp only [isOptional, Bool.and_eq_true, beq_iff_eq] at h
  simp [isUnion, h.1.2]

/-- The alternatives of a choice are those of its arguments. -/
theorem alternatives_of_isChoice (h : r.isChoice = true) :
    r.alternatives = r.args.flatMap alternatives := by
  have hnone : r.isNone = false := by
    by_contra hnone
    have hboth := not_choice_of_isNone (Bool.eq_true_of_not_eq_false hnone)
    rw [isChoice, hboth.1, hboth.2] at h
    cases h
  rw [alternatives_eq, hnone, h]
  rfl

/-- Without the absent value among the members there are the same alternatives. -/
theorem flatMap_filter_alternatives (rs : List TypeRef) :
    (rs.filter fun a => !a.isNone).flatMap alternatives = rs.flatMap alternatives := by
  induction rs with
  | nil => rfl
  | cons r rest ih =>
    cases hnone : r.isNone with
    | true => rw [List.filter_cons_of_neg (by simp [hnone]), ih, List.flatMap_cons,
        alternatives_of_isNone hnone, List.nil_append]
    | false => rw [List.filter_cons_of_pos (by simp [hnone]), List.flatMap_cons, ih, List.flatMap_cons]

/-! ### Taking the absent value away -/

/-- An optional type is without the absent value what it is of. -/
theorem nonNull_of_isOptional (h : r.isOptional = true) : r.args = [r.nonNull] := by
  have hcheck := h
  simp only [isOptional, Bool.and_eq_true, decide_eq_true_eq] at h
  obtain ⟨a, ha⟩ := List.length_eq_one_iff.mp h.2
  have hnonNull : r.nonNull = r.args.headD r := if_pos hcheck
  rw [hnonNull, ha, List.headD_cons]

/-- What holds the absent value is a choice. -/
theorem isChoice_of_holdsNone (h : r.holdsNone = true) : r.isChoice = true := by
  simp only [holdsNone, isChoice, Bool.or_eq_true, Bool.and_eq_true, Bool.not_eq_true'] at h ⊢
  refine h.imp id fun hunion => ⟨hunion.1.1, ?_⟩
  obtain ⟨a, ha, -⟩ := List.any_eq_true.mp hunion.2
  exact List.isEmpty_eq_false_iff.mpr (List.ne_nil_of_mem ha)

/-- What holds the absent value is an optional type or a union. -/
theorem holdsNone_cases (h : r.holdsNone = true) : r.isOptional = true ∨ r.isUnion = true := by
  rw [holdsNone, Bool.or_eq_true, Bool.and_eq_true, Bool.and_eq_true] at h
  exact h.imp id fun hunion => hunion.1.1

/-- The members of a choice are its arguments. -/
theorem members_of_isChoice (h : r.isChoice = true) : r.members = r.args := if_pos h

/-- The present members of a choice. -/
theorem presentMembers_of_isChoice (h : r.isChoice = true) :
    r.presentMembers = r.args.filter fun a => !a.isNone := by
  rw [presentMembers, members_of_isChoice h]

/-- A type that does not hold the absent value stays as it is. -/
theorem nonNull_of_not_holdsNone (h : r.holdsNone = false) : r.nonNull = r := by
  simp only [holdsNone, Bool.or_eq_false_iff] at h
  have hoptional : ¬ (r.module == "typing" && r.qualname == "Optional" && r.args.length = 1) = true := by
    intro hoptional
    cases h.1.symm.trans hoptional
  rw [nonNull, if_neg hoptional]
  split
  · rfl
  · next hunion =>
    have hkept : (r.args.filter fun a => !a.isNone).isEmpty ||
        (r.args.filter fun a => !a.isNone).length = r.args.length := by
      rw [show r.isUnion = true by simpa using hunion, Bool.true_and, Bool.and_eq_false_iff] at h
      rcases h.2 with hnone | hpresent
      · have hall : (r.args.filter fun a => !a.isNone) = r.args :=
          List.filter_eq_self.mpr fun a ha => by simpa using List.any_eq_false.mp hnone a ha
        simp [hall]
      · have hempty : (r.args.filter fun a => !a.isNone) = [] :=
          List.filter_eq_nil_iff.mpr fun a ha => List.any_eq_false.mp hpresent a ha
        simp [hempty]
    rw [if_pos hkept]

/-- A union that holds the absent value is without it the one other member, or the union of the other
members. -/
theorem nonNull_of_isUnion (hunion : r.isUnion = true) (h : r.holdsNone = true) :
    r.presentMembers = [r.nonNull] ∨
      (2 ≤ r.presentMembers.length ∧
        r.nonNull = { named r.module r.qualname with args := r.presentMembers }) := by
  have hmembers := presentMembers_of_isChoice (isChoice_of_holdsNone h)
  have hoptional : r.isOptional = false := by
    by_contra hoptional
    cases (isUnion_of_isOptional (Bool.eq_true_of_not_eq_false hoptional)).symm.trans hunion
  rw [holdsNone, hoptional, hunion, Bool.false_or, Bool.true_and, Bool.and_eq_true] at h
  obtain ⟨gone, hgone, hnone⟩ := List.any_eq_true.mp h.1
  obtain ⟨kept, hkept, hpresent⟩ := List.any_eq_true.mp h.2
  have hmem : kept ∈ r.args.filter fun a => !a.isNone := List.mem_filter.mpr ⟨hkept, hpresent⟩
  have hless : (r.args.filter fun a => !a.isNone).length < r.args.length :=
    List.length_filter_lt_length_iff_exists.mpr ⟨gone, hgone, by simp [hnone]⟩
  rw [isOptional] at hoptional
  rw [hmembers, nonNull, hoptional, hunion]
  rcases hcore : r.args.filter fun a => !a.isNone with _ | ⟨first, _ | ⟨second, rest⟩⟩
  · rw [hcore] at hmem
    cases hmem
  · have hlength : ¬ 1 = r.args.length := by simpa [hcore] using hless.ne
    left
    rw [hcore]
    simp [hlength]
  · have hlength : ¬ rest.length + 1 + 1 = r.args.length := by simpa [hcore] using hless.ne
    right
    rw [hcore]
    simp [hlength]

/-- **No other alternative is lost.** -/
theorem alternatives_nonNull (r : TypeRef) : r.nonNull.alternatives = r.alternatives := by
  cases hholds : r.holdsNone with
  | false => rw [nonNull_of_not_holdsNone hholds]
  | true =>
    have hchoice := isChoice_of_holdsNone hholds
    rw [alternatives_of_isChoice hchoice]
    rcases holdsNone_cases hholds with hoptional | hunion
    · conv_rhs => rw [nonNull_of_isOptional hoptional, List.flatMap_singleton]
    · rw [← flatMap_filter_alternatives, ← presentMembers_of_isChoice hchoice]
      rcases nonNull_of_isUnion hunion hholds with hone | ⟨hlength, hseveral⟩
      · rw [hone, List.flatMap_singleton]
      · have hagain : r.nonNull.isChoice = true := by
          have hnonempty : r.presentMembers ≠ [] := by
            rintro hempty
            rw [hempty] at hlength
            cases hlength
          have hsame : (named r.module r.qualname).isUnion = true := hunion
          rw [hseveral, isChoice, Bool.or_eq_true, Bool.and_eq_true]
          exact .inr ⟨hsame, by simpa using hnonempty⟩
        rw [alternatives_of_isChoice hagain, hseveral]

/-- A type admits the absent value iff it is that, an optional type, or a union of which a member
does. -/
theorem admitsNone_iff : r.AdmitsNone ↔
    r.isNone = true ∨ (r.module = "typing" ∧ r.qualname = "Optional" ∧ r.args ≠ []) ∨
      (r.isUnion = true ∧ ∃ a ∈ r.args, a.AdmitsNone) := by
  constructor
  · intro h
    cases h with
    | absent h => exact .inl h
    | optional hmodule hname hargs => exact .inr (.inl ⟨hmodule, hname, hargs⟩)
    | union h hmem ha => exact .inr (.inr ⟨h, _, hmem, ha⟩)
  · rintro (h | ⟨hmodule, hname, hargs⟩ | ⟨h, a, hmem, ha⟩)
    · exact .absent h
    · exact .optional hmodule hname hargs
    · exact .union h hmem ha

/-- A union admits the absent value iff a member does. -/
theorem admitsNone_iff_of_isUnion (h : r.isUnion = true) :
    r.AdmitsNone ↔ ∃ a ∈ r.args, a.AdmitsNone := by
  rw [admitsNone_iff]
  constructor
  · rintro (hnone | ⟨-, hname, -⟩ | ⟨-, hmember⟩)
    · cases (not_choice_of_isNone hnone).2.symm.trans h
    · simp [isUnion, hname] at h
    · exact hmember
  · exact fun hmember => .inr (.inr ⟨h, hmember⟩)

/-- A choice that does not hold the absent value is a union. -/
theorem isUnion_of_isChoice (h : r.holdsNone = false) (hchoice : r.isChoice = true) :
    r.isUnion = true := by
  rw [holdsNone, Bool.or_eq_false_iff] at h
  rw [isChoice, h.1, Bool.false_or, Bool.and_eq_true] at hchoice
  exact hchoice.1

/-- A union that does not hold the absent value is of it alone, or has no such member. -/
theorem args_of_not_holdsNone (h : r.holdsNone = false) (hunion : r.isUnion = true) :
    (∀ a ∈ r.args, a.isNone = false) ∨ ∀ a ∈ r.args, a.isNone = true := by
  rw [holdsNone, Bool.or_eq_false_iff, hunion, Bool.true_and, Bool.and_eq_false_iff] at h
  refine h.2.imp (fun hnone a ha => ?_) fun hpresent a ha => ?_
  · simpa using List.any_eq_false.mp hnone a ha
  · simpa using List.any_eq_false.mp hpresent a ha

/-- A type that is kept as it is has, if it is not the absent value alone, all its members still. -/
theorem presentMembers_of_not_holdsNone (h : r.holdsNone = false) (hpresent : r.alternatives ≠ []) :
    r.presentMembers = r.members := by
  refine List.filter_eq_self.mpr fun a ha => ?_
  by_contra hnone
  have hnone : a.isNone = true := by simpa using hnone
  cases hchoice : r.isChoice with
  | false =>
    rw [members, hchoice, if_neg Bool.false_ne_true, List.mem_singleton] at ha
    rw [ha] at hnone
    exact hpresent (alternatives_of_isNone hnone)
  | true =>
    rw [members_of_isChoice hchoice] at ha
    rw [alternatives_of_isChoice hchoice] at hpresent
    rcases args_of_not_holdsNone h (isUnion_of_isChoice h hchoice) with hkept | hgone
    · cases (hkept a ha).symm.trans hnone
    · exact hpresent (List.flatMap_eq_nil_iff.mpr fun b hb => alternatives_of_isNone (hgone b hb))

/-- The present members of an optional type: what it is of, unless that is the absent value. -/
theorem presentMembers_of_isOptional (h : r.isOptional = true) :
    r.presentMembers = if r.nonNull.isNone then [] else [r.nonNull] := by
  have hchoice : r.isChoice = true := by rw [isChoice, h, Bool.true_or]
  rw [presentMembers_of_isChoice hchoice, nonNull_of_isOptional h]
  cases hnone : r.nonNull.isNone with
  | false => simp [hnone]
  | true => simp [hnone]

/-- **When the absent value is left**: what a type is without it admits it still iff a member other than
it does. -/
theorem admitsNone_nonNull_iff (hpresent : r.alternatives ≠ []) :
    r.nonNull.AdmitsNone ↔ ∃ a ∈ r.presentMembers, a.AdmitsNone := by
  cases hholds : r.holdsNone with
  | false =>
    rw [nonNull_of_not_holdsNone hholds, presentMembers_of_not_holdsNone hholds hpresent]
    cases hchoice : r.isChoice with
    | false => simp [members, hchoice]
    | true =>
      rw [members_of_isChoice hchoice]
      exact admitsNone_iff_of_isUnion (isUnion_of_isChoice hholds hchoice)
  | true =>
    rcases holdsNone_cases hholds with hoptional | hunion
    · have hleft : r.nonNull.isNone = false := by
        by_contra hnone
        rw [← alternatives_nonNull] at hpresent
        exact hpresent (alternatives_of_isNone (Bool.eq_true_of_not_eq_false hnone))
      simp [presentMembers_of_isOptional hoptional, hleft]
    · rcases nonNull_of_isUnion hunion hholds with hone | ⟨-, hseveral⟩
      · simp [hone]
      · have hsame : r.nonNull.isUnion = true := by
          rw [hseveral]
          exact hunion
        rw [admitsNone_iff_of_isUnion hsame, hseveral]

/-! ### Taking it away twice -/

/-- A type is no argument of itself. -/
theorem not_mem_args (r : TypeRef) : r ∉ r.args := by
  intro h
  have hless := List.sizeOf_lt_of_mem h
  obtain ⟨module, qualname, args, primitive, literal⟩ := r
  simp at hless
  omega

/-- No present member is the absent value. -/
theorem isNone_of_mem_presentMembers (h : a ∈ r.presentMembers) : a.isNone = false := by
  simpa using (List.mem_filter.mp h).2

/-- A type is kept as it is iff it does not hold the absent value. -/
theorem nonNull_eq_self_iff : r.nonNull = r ↔ r.holdsNone = false := by
  refine ⟨fun h => ?_, nonNull_of_not_holdsNone⟩
  by_contra hnot
  have hholds : r.holdsNone = true := Bool.eq_true_of_not_eq_false hnot
  have hmem : r.nonNull ∉ r.args := by
    rw [h]
    exact not_mem_args r
  rcases holdsNone_cases hholds with hoptional | hunion
  · rw [nonNull_of_isOptional hoptional] at hmem
    exact hmem List.mem_cons_self
  · have hpresent := presentMembers_of_isChoice (isChoice_of_holdsNone hholds)
    rcases nonNull_of_isUnion hunion hholds with hone | ⟨-, hseveral⟩
    · have hone' : r.nonNull ∈ r.presentMembers := hone ▸ List.mem_cons_self
      rw [hpresent] at hone'
      exact hmem (List.mem_filter.mp hone').1
    · have hargs : r.args = r.presentMembers := by
        rw [h] at hseveral
        exact congrArg args hseveral
      have hsame : ∀ a ∈ r.args, a.isNone = false := fun a ha =>
        isNone_of_mem_presentMembers (hargs ▸ ha)
      simp only [holdsNone, Bool.or_eq_true, Bool.and_eq_true] at hholds
      rcases hholds with hoptional | ⟨⟨-, hgone⟩, -⟩
      · cases (isUnion_of_isOptional hoptional).symm.trans hunion
      · obtain ⟨gone, hmem, hnone⟩ := List.any_eq_true.mp hgone
        cases (hsame gone hmem).symm.trans hnone

/-- **When it can be taken away twice**: unless one present member is left that holds the absent value
itself. -/
theorem nonNull_nonNull_iff :
    r.nonNull.nonNull = r.nonNull ↔
      ¬ ∃ a, r.holdsNone = true ∧ r.presentMembers = [a] ∧ a.holdsNone = true := by
  rw [nonNull_eq_self_iff]
  cases hholds : r.holdsNone with
  | false => simp [nonNull_of_not_holdsNone hholds, hholds]
  | true =>
    rcases holdsNone_cases hholds with hoptional | hunion
    · rw [presentMembers_of_isOptional hoptional]
      cases hnone : r.nonNull.isNone with
      | false => simp
      | true =>
        have hboth := not_choice_of_isNone hnone
        simp [holdsNone, hboth]
    · rcases nonNull_of_isUnion hunion hholds with hone | ⟨hlength, hseveral⟩
      · simp [hone]
      · have hsame : r.nonNull.isUnion = true := by
          rw [hseveral]
          exact hunion
        have hkept : r.nonNull.args.any isNone = false := by
          rw [hseveral]
          exact List.any_eq_false.mpr fun a ha => by simp [isNone_of_mem_presentMembers ha]
        have hoptional : r.nonNull.isOptional = false := by
          by_contra hoptional
          cases (isUnion_of_isOptional (Bool.eq_true_of_not_eq_false hoptional)).symm.trans hsame
        have hfalse : r.nonNull.holdsNone = false := by
          rw [holdsNone, hoptional, hkept, Bool.and_false, Bool.false_and, Bool.or_false]
        refine iff_of_true hfalse ?_
        rintro ⟨a, -, hone, -⟩
        rw [hone] at hlength
        simp at hlength

end TypeRef

/-! ### Choices as annotations -/

/-- A canonical reference has no arguments and is no text. -/
theorem Surroundings.canonical_plain (s : Surroundings) (qualified : String) :
    (s.canonical qualified).args = [] ∧ (s.canonical qualified).literal = none := by
  have hguessed : (guessedRef qualified).args = [] ∧ (guessedRef qualified).literal = none := ⟨rfl, rfl⟩
  have hlibrary : ∀ known ref, libraryRef qualified known = some ref →
      ref.args = [] ∧ ref.literal = none := by
    intro known ref href
    cases known with
    | value => exact Option.some.inj href ▸ hguessed
    | type module qualname =>
      rw [libraryRef] at href
      split at href
      · cases href
      · exact Option.some.inj href ▸ ⟨rfl, rfl⟩
  rw [Surroundings.canonical]
  dsimp only
  split
  · exact ⟨rfl, rfl⟩
  · split
    · next ref href =>
      split at href
      · obtain ⟨known, -, hsome⟩ := Option.bind_eq_some_iff.mp href
        exact hlibrary known ref hsome
      · cases href
    · split
      · exact ⟨rfl, rfl⟩
      · split
        · exact ⟨rfl, rfl⟩
        · exact hguessed

namespace Resolving

variable {s : Surroundings} {qualify : String → String} {forward : CodePoints → Resolving TypeRef}
variable {e : Expr}

/-- An annotation of names, the absent value, `|`, unions and optional types. -/
inductive IsChoice (s : Surroundings) (qualify : String → String) : Expr → Prop
  /-- The absent value. -/
  | absent : IsChoice s qualify (.constant .none)
  /-- A dotted name. -/
  | name {e : Expr} {dotted : String} (h : e.dottedName = some dotted) : IsChoice s qualify e
  /-- A union with `|`. -/
  | either {left right : Expr} (hleft : IsChoice s qualify left) (hright : IsChoice s qualify right) :
    IsChoice s qualify (.binary .bitOr left right)
  /-- A union of its arguments. -/
  | union {base index : Expr} {dotted : String} (hbase : base.dottedName = some dotted)
    (hunion : (s.canonical (qualify dotted)).isUnion = true) (hnonempty : indexItems index ≠ [])
    (hitems : ∀ e ∈ indexItems index, IsChoice s qualify e) : IsChoice s qualify (.subscript base index)
  /-- An optional type. -/
  | optional {base index item : Expr} {dotted : String} (hbase : base.dottedName = some dotted)
    (hmodule : (s.canonical (qualify dotted)).module = "typing")
    (hname : (s.canonical (qualify dotted)).qualname = "Optional") (hindex : indexItems index = [item])
    (hitem : IsChoice s qualify item) : IsChoice s qualify (.subscript base index)

mutual

/-- The types that the names in a choice stand for, in order. -/
def choices (s : Surroundings) (qualify : String → String) : Expr → List TypeRef
  | .binary _ left right => choices s qualify left ++ choices s qualify right
  | .subscript _ (.tuple items) => choicesOfAll s qualify items
  | .subscript _ item => choices s qualify item
  | e =>
    (e.dottedName.map fun dotted => s.canonical (qualify dotted)).toList.filter fun a => !a.isNone

/-- The types that the names in several choices stand for. -/
def choicesOfAll (s : Surroundings) (qualify : String → String) : List Expr → List TypeRef
  | [] => []
  | e :: rest => choices s qualify e ++ choicesOfAll s qualify rest

end

/-- The types of several choices, one after the other. -/
theorem choicesOfAll_eq (items : List Expr) :
    choicesOfAll s qualify items = items.flatMap (choices s qualify) := by
  induction items with
  | nil => rw [choicesOfAll, List.flatMap_nil]
  | cons e rest ih => rw [choicesOfAll, ih, List.flatMap_cons]

/-- The types of a choice with arguments are those of its arguments. -/
theorem choices_subscript (base index : Expr) :
    choices s qualify (.subscript base index) = (indexItems index).flatMap (choices s qualify) := by
  cases index with
  | tuple items => rw [choices, choicesOfAll_eq, indexItems]
  | _ => simp [choices, indexItems]

/-- The types of a dotted name are the alternatives of its canonical reference. -/
theorem choices_dottedName {dotted : String} (h : e.dottedName = some dotted) :
    choices s qualify e = (s.canonical (qualify dotted)).alternatives := by
  have hargs := (s.canonical_plain (qualify dotted)).1
  have hsingle : (s.canonical (qualify dotted)).isChoice = false := by
    simp [TypeRef.isChoice, TypeRef.isOptional, hargs]
  have hchoices : choices s qualify e =
      (e.dottedName.map fun dotted => s.canonical (qualify dotted)).toList.filter
        fun a => !a.isNone := by
    cases e with
    | name id => rfl
    | «attribute» value member => rfl
    | _ => cases h
  rw [hchoices, h, TypeRef.alternatives_eq, hsingle]
  cases hnone : (s.canonical (qualify dotted)).isNone with
  | true => simp [hnone]
  | false => simp [hnone]

/-- No list of types is a choice. -/
theorem argument_of_isChoice (h : IsChoice s qualify e) :
    argument s qualify forward e = expr s qualify forward e := by
  cases e with
  | list items => cases h with | name h => cases h
  | _ => rw [argument]; simp

/-- The arguments of unions and of optional types are types. -/
theorem argumentRefs_of_form {base : TypeRef} (hmodule : base.module = "typing")
    (hname : base.qualname = "Union" ∨ base.qualname = "Optional") (hliteral : base.literal = none)
    (items : List Expr) :
    argumentRefs s qualify forward base items = arguments s qualify forward items := by
  have hwritten : base.name = "typing.Union" ∨ base.name = "typing.Optional" := by
    rw [TypeRef.name, hliteral, hmodule]
    exact hname.imp (fun h => by rw [h]; rfl) fun h => by rw [h]; rfl
  have hforms : literalForms.contains base.name = false ∧ annotatedForms.contains base.name = false := by
    rcases hwritten with h | h <;> rw [h] <;> decide
  rw [argumentRefs, hforms.1, hforms.2]
  rfl

/-- Several choices are resolved, one after the other. -/
theorem exists_refs_of_choices (hforward : ∀ value, Memoised s (forward value)) {items : List Expr}
    (hitems : ∀ e ∈ items, IsChoice s qualify e)
    (hrefs : ∀ e ∈ items, ∃ r, outcome (expr s qualify forward e) = .ok r ∧
      r.alternatives = choices s qualify e) :
    ∃ rs, outcome (arguments s qualify forward items) = .ok rs ∧ rs.length = items.length ∧
      rs.flatMap TypeRef.alternatives = items.flatMap (choices s qualify) := by
  rw [outcome_arguments hforward]
  induction items with
  | nil => exact ⟨[], rfl, rfl, rfl⟩
  | cons e rest ih =>
    obtain ⟨r, hr, hchoices⟩ := hrefs e List.mem_cons_self
    obtain ⟨rs, hrs, hlength, hothers⟩ := ih (fun e he => hitems e (List.mem_cons_of_mem _ he))
      fun e he => hrefs e (List.mem_cons_of_mem _ he)
    refine ⟨r :: rs, ?_, by rw [List.length_cons, hlength, List.length_cons], ?_⟩
    · rw [Outcome.mapM_cons, argument_of_isChoice (hitems e List.mem_cons_self), hr, hrs]
      rfl
    · rw [List.flatMap_cons, hchoices, hothers, List.flatMap_cons]

/-- Arguments make no union. -/
@[simp] theorem isUnion_withArguments (base : TypeRef) (args : List TypeRef) :
    (withArguments base args).isUnion = base.isUnion := rfl

/-- What stands for a type in a union is there, and has the alternatives of the type. -/
theorem unionMembers_spec (r : TypeRef) :
    unionMembers r ≠ [] ∧ (unionMembers r).flatMap TypeRef.alternatives = r.alternatives := by
  rw [unionMembers]
  split
  · next h =>
    have hchoice : r.isChoice = true := by rw [TypeRef.isChoice, h, Bool.or_true]
    rw [TypeRef.alternatives_of_isChoice hchoice]
    rw [Bool.and_eq_true, Bool.not_eq_true', List.isEmpty_eq_false_iff] at h
    exact ⟨h.2, rfl⟩
  · exact ⟨List.cons_ne_nil _ _, by rw [List.flatMap_singleton]⟩

/-- A choice is resolved, and the alternatives of what it is resolved to are the types of its names. -/
theorem exists_ref_of_isChoice (hforward : ∀ value, Memoised s (forward value))
    (h : IsChoice s qualify e) :
    ∃ r, outcome (expr s qualify forward e) = .ok r ∧ r.alternatives = choices s qualify e := by
  induction h with
  | absent =>
    refine ⟨.none, by rw [expr]; rfl, ?_⟩
    rw [TypeRef.alternatives_of_isNone (by decide)]
    rfl
  | name h => exact ⟨_, outcome_dottedName h, (choices_dottedName h).symm⟩
  | @either left right _ _ ihleft ihright =>
    obtain ⟨l, hl, hleft⟩ := ihleft
    obtain ⟨r, hr, hright⟩ := ihright
    obtain ⟨hsome, hmembers⟩ := unionMembers_spec l
    refine ⟨_, by rw [outcome_either hforward, hl, hr]; rfl, ?_⟩
    have hchoice : ({ TypeRef.named "typing" "Union" with
        args := unionMembers l ++ unionMembers r } : TypeRef).isChoice = true := by
      rw [TypeRef.isChoice, Bool.or_eq_true, Bool.and_eq_true]
      exact .inr ⟨by simp [TypeRef.isUnion, TypeRef.named], by simp [hsome]⟩
    rw [TypeRef.alternatives_of_isChoice hchoice, choices, ← hleft, ← hright, ← hmembers,
      ← (unionMembers_spec r).2]
    exact List.flatMap_append
  | @union base index dotted hbase hunion hnonempty hitems ih =>
    obtain ⟨rs, hrs, hlength, hall⟩ := exists_refs_of_choices hforward hitems ih
    obtain ⟨-, hliteral⟩ := s.canonical_plain (qualify dotted)
    have hform := hunion
    simp only [TypeRef.isUnion, Bool.and_eq_true, beq_iff_eq] at hform
    refine ⟨withArguments (s.canonical (qualify dotted)) rs, ?_, ?_⟩
    · rw [outcome_subscript hforward, outcome_dottedName hbase]
      simp only [Except.bind]
      rw [argumentRefs_of_form hform.1 (.inl hform.2) hliteral, hrs]
      rfl
    · have hsome : rs ≠ [] := by
        rintro rfl
        exact hnonempty (List.eq_nil_of_length_eq_zero hlength.symm)
      have hchoice : (withArguments (s.canonical (qualify dotted)) rs).isChoice = true := by
        rw [TypeRef.isChoice, isUnion_withArguments, hunion, Bool.or_eq_true]
        exact .inr (by simpa [withArguments] using hsome)
      rw [TypeRef.alternatives_of_isChoice hchoice, choices_subscript, ← hall]
      rfl
  | @optional base index item dotted hbase hmodule hname hindex hitem ih =>
    have hitems : ∀ e ∈ indexItems index, IsChoice s qualify e := by simpa [hindex] using hitem
    obtain ⟨rs, hrs, hlength, hall⟩ :=
      exists_refs_of_choices hforward hitems (by simpa [hindex] using ih)
    obtain ⟨-, hliteral⟩ := s.canonical_plain (qualify dotted)
    refine ⟨withArguments (s.canonical (qualify dotted)) rs, ?_, ?_⟩
    · rw [outcome_subscript hforward, outcome_dottedName hbase]
      simp only [Except.bind]
      rw [argumentRefs_of_form hmodule (.inr hname) hliteral, hrs]
      rfl
    · have hchoice : (withArguments (s.canonical (qualify dotted)) rs).isChoice = true := by
        simp [TypeRef.isChoice, TypeRef.isOptional, withArguments, hmodule, hname, hlength, hindex]
      rw [TypeRef.alternatives_of_isChoice hchoice, choices_subscript, ← hall]
      rfl

end Resolving

/-! ### The parameter of a setter -/

open Resolving Source Stateful

/-- **What a setter takes.** A field whose annotation is a choice has a type, and the parameter of its
setter has all the alternatives of the annotation but the absent value. If there are any, the parameter
admits the absent value iff a member of the type other than it does. Taking the absent value away once
more changes nothing, unless one member was left that holds it itself. -/
theorem setterType_spec (s : Surroundings) (d : Declaration) (name : String) {e : Expr}
    (h : IsChoice s (s.tree.qualify d.module d.innerScope) e) :
    ∃ r, (∀ table, Sound s table → (exec (hint s e d) table).1 = .ok r) ∧
      (Member.mk name r).setterType.alternatives =
        choices s (s.tree.qualify d.module d.innerScope) e ∧
      (choices s (s.tree.qualify d.module d.innerScope) e ≠ [] →
        ((Member.mk name r).setterType.AdmitsNone ↔ ∃ a ∈ r.presentMembers, a.AdmitsNone)) ∧
      ((Member.mk name r).setterType.nonNull = (Member.mk name r).setterType ↔
        ¬ ∃ a, r.holdsNone = true ∧ r.presentMembers = [a] ∧ a.holdsNone = true) := by
  have hforward := fun value : CodePoints =>
    memoised_quoted s (s.tree.qualify d.module d.innerScope) (value.length + 1) value
  obtain ⟨r, hr, halternatives⟩ := exists_ref_of_isChoice hforward h
  refine ⟨r, fun table hsound => ?_, ?_, fun hchoices => ?_, TypeRef.nonNull_nonNull_iff⟩
  · exact ((memoised_hint s e d).exec_eq hsound).trans hr
  · rw [Member.setterType, TypeRef.alternatives_nonNull, halternatives]
  · exact TypeRef.admitsNone_nonNull_iff (halternatives ▸ hchoices)

/-- The class of an optional field, and of a field that is optional twice. -/
def trunkModule : Module :=
  ⟨"m", Path.ofText "m.py", false,
    [.importFrom (some "typing") [⟨"Optional", none⟩] 0,
      .classDef "Car" [] []
        [.annotated (.name "size") (.subscript (.name "Optional") (.name "int")) none,
          .annotated (.name "spare")
            (.subscript (.name "Optional") (.subscript (.name "Optional") (.name "int"))) none] ⟨2, 0⟩]⟩

/-- The tree of this module. -/
def trunk : Tree := ⟨[("m", trunkModule)]⟩

/-- The class. -/
def trunkCar : Declaration :=
  ⟨trunkModule, [], "Car", [], ⟨2, 0⟩, .classDef []
    [.annotated (.name "size") (.subscript (.name "Optional") (.name "int")) none,
      .annotated (.name "spare")
        (.subscript (.name "Optional") (.subscript (.name "Optional") (.name "int"))) none]⟩

/-- The type of integers. -/
def intRef : TypeRef := ⟨"builtins", "int", [], true, none⟩

/-- An optional type. -/
def optionalRef (r : TypeRef) : TypeRef := ⟨"typing", "Optional", [r], false, none⟩

/-- What a name in the class stands for. -/
abbrev trunkName : String → String :=
  (Surroundings.ofTree trunk).tree.qualify trunkCar.module trunkCar.innerScope

/-- The names in the class stand for what one expects. -/
theorem canonical_trunk :
    (Surroundings.ofTree trunk).canonical (trunkName "Optional") = .named "typing" "Optional" ∧
      (Surroundings.ofTree trunk).canonical (trunkName "int") = intRef := by
  have hform : trunkName "Optional" = "typing.Optional" := by decide
  have hbuiltin : trunk.qualifyHead trunkModule ["Car"] "int" = "builtins.int" := by
    have hnested : (trunk.findClass? "m.Car").filter (fun d => d.nestedClasses.contains "int") = none :=
      rfl
    have howner : (if ["Car"].isEmpty then none
        else trunk.findClass? (Dotted.join [trunkModule.name, "Car"])) = trunk.findClass? "m.Car" := rfl
    have hdefined : trunkModule.defines "int" = false := by decide
    have himported : trunkModule.imports.find? "int" = none := by decide
    unfold Tree.qualifyHead
    dsimp only
    rw [howner, hnested, hdefined, himported, isBuiltinName_int]
    rfl
  have hplain : Dotted.splitHead "int" = ("int", "") := by decide
  have hint : trunkName "int" = "builtins.int" := by
    show trunk.qualify trunkModule ["Car"] "int" = _
    rw [Tree.qualify, hplain]
    dsimp only
    rw [hbuiltin]
    rfl
  rw [hform, hint]
  exact ⟨canonical_specialForm (by decide) (by decide), rfl⟩

/-- The optional types in the class are choices. -/
theorem isChoice_trunk {item : Expr} (hindex : indexItems item = [item])
    (h : IsChoice (.ofTree trunk) trunkName item) :
    IsChoice (.ofTree trunk) trunkName (.subscript (.name "Optional") item) := by
  refine .optional (dottedName_name "Optional") ?_ ?_ hindex h
  · rw [canonical_trunk.1]; rfl
  · rw [canonical_trunk.1]; rfl

/-- What an optional type in the class is resolved to. -/
theorem outcome_trunk {forward : CodePoints → Resolving TypeRef}
    (hforward : ∀ value, Memoised (.ofTree trunk) (forward value)) {item : Expr} {r : TypeRef}
    (hindex : indexItems item = [item]) (h : IsChoice (.ofTree trunk) trunkName item)
    (hr : outcome (expr (.ofTree trunk) trunkName forward item) = .ok r) :
    outcome (expr (.ofTree trunk) trunkName forward (.subscript (.name "Optional") item)) =
      .ok (optionalRef r) := by
  rw [outcome_subscript hforward, outcome_dottedName (dottedName_name "Optional"), canonical_trunk.1]
  simp only [Except.bind]
  rw [argumentRefs_of_form rfl (.inr rfl) rfl, outcome_arguments hforward, hindex,
    Outcome.mapM_cons, argument_of_isChoice h, hr]
  rfl

/-- The annotation of the optional field. -/
abbrev trunkSize : Expr := .subscript (.name "Optional") (.name "int")

/-- The annotation of the field that is optional twice. -/
abbrev trunkSpare : Expr := .subscript (.name "Optional") trunkSize

/-- The annotations are choices of one type. -/
theorem choices_trunk :
    IsChoice (.ofTree trunk) trunkName trunkSize ∧ choices (.ofTree trunk) trunkName trunkSize = [intRef] ∧
      IsChoice (.ofTree trunk) trunkName trunkSpare ∧
      choices (.ofTree trunk) trunkName trunkSpare = [intRef] := by
  have hint : choices (.ofTree trunk) trunkName (.name "int") = [intRef] := by
    rw [choices_dottedName (dottedName_name "int"), canonical_trunk.2]
    rfl
  have hsize : choices (.ofTree trunk) trunkName trunkSize = [intRef] := by
    rw [choices_subscript]
    exact (List.append_nil _).trans hint
  have hspare : choices (.ofTree trunk) trunkName trunkSpare = [intRef] := by
    rw [choices_subscript]
    exact (List.append_nil _).trans hsize
  have hchoice := isChoice_trunk rfl (.name (dottedName_name "int"))
  exact ⟨hchoice, hsize, isChoice_trunk rfl hchoice, hspare⟩

/-- The types of the two fields. -/
theorem hint_trunk :
    (exec (hint (.ofTree trunk) trunkSize trunkCar) []).1 = .ok (optionalRef intRef) ∧
      (exec (hint (.ofTree trunk) trunkSpare trunkCar) []).1 =
        .ok (optionalRef (optionalRef intRef)) := by
  have hforward := fun value : CodePoints =>
    memoised_quoted (.ofTree trunk) trunkName (value.length + 1) value
  have hint : outcome (expr (.ofTree trunk) trunkName
      (fun value => quoted (.ofTree trunk) trunkName (value.length + 1) value) (.name "int")) =
      .ok intRef := by
    rw [outcome_dottedName (dottedName_name "int"), canonical_trunk.2]
  have hsize := outcome_trunk hforward rfl (.name (dottedName_name "int")) hint
  exact ⟨hsize, outcome_trunk hforward rfl choices_trunk.1 hsize⟩

/-- The setter of the optional field takes an integer. -/
theorem setterType_of_trunk :
    ∃ r, (exec (hint (.ofTree trunk) trunkSize trunkCar) []).1 = .ok r ∧
      (Member.mk "size" r).setterType.alternatives = [intRef] ∧
      ¬ (Member.mk "size" r).setterType.AdmitsNone := by
  obtain ⟨hchoice, hchoices, -, -⟩ := choices_trunk
  obtain ⟨r, hr, halternatives, hadmits, -⟩ := setterType_spec (.ofTree trunk) trunkCar "size" hchoice
  have hhint := hr [] (sound_nil _)
  obtain rfl := Except.ok.inj (hint_trunk.1.symm.trans hhint)
  refine ⟨_, hhint, halternatives.trans hchoices, fun h => ?_⟩
  obtain ⟨a, ha, hnone⟩ := (hadmits (by rw [hchoices]; exact List.cons_ne_nil _ _)).mp h
  obtain rfl : a = intRef := List.mem_singleton.mp ha
  rcases TypeRef.admitsNone_iff.mp hnone with hself | ⟨hmodule, -⟩ | ⟨hunion, -⟩
  · cases hself
  · exact absurd hmodule (by decide)
  · cases hunion

/-- **The absent value can be left**: the setter of the field that is optional twice takes an optional
type, of which it could be taken away once more. -/
theorem admitsNone_of_trunk :
    ∃ e r, Statement.annotated (.name "spare") e none ∈ trunkCar.body ∧
      IsChoice (.ofTree trunk) trunkName e ∧ choices (.ofTree trunk) trunkName e ≠ [] ∧
      (exec (hint (.ofTree trunk) e trunkCar) []).1 = .ok r ∧
      (Member.mk "spare" r).setterType.AdmitsNone ∧
      (Member.mk "spare" r).setterType.nonNull ≠ (Member.mk "spare" r).setterType := by
  obtain ⟨-, -, hchoice, hchoices⟩ := choices_trunk
  refine ⟨trunkSpare, optionalRef (optionalRef intRef), List.mem_cons_of_mem _ List.mem_cons_self,
    hchoice, by rw [hchoices]; exact List.cons_ne_nil _ _, hint_trunk.2, ?_, ?_⟩
  · exact .optional rfl rfl (List.cons_ne_nil _ _)
  · intro hsame
    have hmodule : intRef.module = (optionalRef intRef).module := congrArg TypeRef.module hsame
    exact absurd hmodule (by decide)

end FluentBuilder
