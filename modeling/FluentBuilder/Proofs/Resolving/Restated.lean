import FluentBuilder.Proofs.Resolving.Reference
import FluentBuilder.Proofs.Syntax.Joined

/-!
# Annotations with the names that their references write

An annotation can be restated with the names that references write: each dotted name is replaced by that of
its reference, and unions are written with bars, without unions in them (`restated`). What becomes of the
items of an index is a parameter. They are kept as they are (`indexKept`), or written as those of a
reference are (`indexWritten`), which leaves no trace of an index without items and of a tuple of one item.
For annotations made of names, unions, items and lists (`Composed`) the two differ exactly where such an
index stands somewhere (`Thin`, `Composed.restated_eq_or_lt`).
-/

namespace FluentBuilder.Resolving

open Syntax

/-! ### Restating -/

/-- The items of an index as they are; one item may be a tuple of one item. -/
def indexKept (tupled : Bool) (value : Expr) : List Expr → Expr
  | [item] => .subscript value (if tupled then .tuple [item] else item)
  | items => .subscript value (.tuple items)

/-- The items of an index as those of a reference are written. -/
def indexWritten (_ : Bool) (value : Expr) : List Expr → Expr
  | [] => value
  | [item] => .subscript value item
  | items => .subscript value (.tuple items)

/-- What a base with items is restated as, by what becomes of the items if it is no union. -/
def withItems (indexed : Expr → List Expr → Expr) (isUnion : Bool) (value : Expr) : List Expr → Expr
  | [] => indexed value []
  | first :: rest => if isUnion then rest.foldl Expr.union first else indexed value (first :: rest)

variable (refer : String → TypeRef) (indexed : Bool → Expr → List Expr → Expr)

/-- Does an expression name the union of its items? -/
def namesUnion (value : Expr) : Bool := value.dottedName.any fun dotted => (refer dotted).isUnion

mutual

/-- An annotation with the names that are written in the references `refer` to its dotted names. -/
def restated : Expr → Expr
  | .name id => .ofDotted (refer id).name
  | .attribute value member =>
    match (Expr.attribute value member).dottedName with
    | some dotted => .ofDotted (refer dotted).name
    | none => .attribute value member
  | .subscript value index =>
    match index with
    | .tuple items =>
      withItems (indexed true) (namesUnion refer value) (restated value) (restatedAll items)
    | item => withItems (indexed false) (namesUnion refer value) (restated value) [restated item]
  | .binary .bitOr left right => (restated left).union (restated right)
  | .list items => .list (restatedAll items)
  | e => e

/-- Annotations with the names that are written in references. -/
def restatedAll : List Expr → List Expr
  | [] => []
  | e :: rest => restated e :: restatedAll rest

end

/-- Is it a tuple? -/
def isTuple : Expr → Bool
  | .tuple _ => true
  | _ => false

/-- Each annotation is restated by itself. -/
theorem restatedAll_eq_map (items : List Expr) :
    restatedAll refer indexed items = items.map (restated refer indexed) := by
  induction items with
  | nil => rfl
  | cons e rest ih => rw [restatedAll, ih, List.map_cons]

variable {refer indexed} {n : Nat} {e value index : Expr} {dotted : String} {items : List Expr}

/-- A dotted name is replaced. -/
theorem restated_dottedName (h : e.dottedName = some dotted) :
    restated refer indexed e = .ofDotted (refer dotted).name := by
  cases e with
  | name id =>
    obtain rfl := Option.some.inj ((dottedName_name id).symm.trans h)
    rw [restated]
  | «attribute» value member =>
    rw [restated]
    split
    · next found hfound =>
      obtain rfl := Option.some.inj (hfound.symm.trans h)
      rfl
    · next hnone => cases hnone.symm.trans h
  | _ => cases h

/-- An annotation with items. -/
theorem restated_subscript : restated refer indexed (.subscript value index) =
    withItems (indexed (isTuple index)) (namesUnion refer value) (restated refer indexed value)
      ((indexItems index).map (restated refer indexed)) := by
  cases index with
  | tuple items =>
    rw [restated, restatedAll_eq_map]
    rfl
  | _ =>
    rw [restated]
    · rfl
    · exact fun items => nofun

/-! ### Annotations made of names, unions, items and lists -/

/-- Where an expression stands: a type, or an argument, which can be a list of types. -/
inductive Role where
  | type | argument

/-- The segments of the name that a reference writes can be read as those of a dotted name. -/
def Legible (r : TypeRef) : Prop := ∀ w ∈ Dotted.segments r.name, IsName w

/-- The annotations made of dotted names, `None`, three points, unions, and dotted names with types and
lists of types as items, with brackets nested at most so deep. The bases of items do not name the forms with
items of their own kind. -/
inductive Composed (refer : String → TypeRef) : (n : Nat) → Role → Expr → Prop where
  | none {n : Nat} : Composed refer n .type (.constant .none)
  | ellipsis {n : Nat} : Composed refer n .type (.constant .ellipsis)
  | dotted {n : Nat} {e : Expr} {dotted : String} (hname : e.dottedName = some dotted)
    (hlegible : Legible (refer dotted)) : Composed refer n .type e
  | subscript {n : Nat} {value index : Expr} {dotted : String} (hname : value.dottedName = some dotted)
    (hlegible : Legible (refer dotted)) (hliteral : (refer dotted).name ∉ literalForms)
    (hannotated : (refer dotted).name ∉ annotatedForms)
    (hitems : ∀ e ∈ indexItems index, Composed refer n .argument e) :
    Composed refer (n + 1) .type (.subscript value index)
  | either {n : Nat} {left right : Expr} (hleft : Composed refer n .type left)
    (hright : Composed refer n .type right) : Composed refer n .type (.binary .bitOr left right)
  | list {n : Nat} {items : List Expr} (hitems : ∀ e ∈ items, Composed refer n .type e) :
    Composed refer (n + 1) .argument (.list items)
  | single {n : Nat} {e : Expr} (h : Composed refer n .type e) : Composed refer n .argument e

/-- A type is no list. -/
theorem Composed.isList_eq_false (h : Composed refer n .type e) : isList e = false := by
  cases h with
  | @dotted n e dotted hname hlegible =>
    cases e with
    | list items => cases hname
    | _ => rfl
  | _ => rfl

/-! ### Indices that are not written -/

/-- Somewhere in an annotation there is an index without items, or a tuple of one item that is no member of
a union. -/
inductive Thin (refer : String → TypeRef) : Expr → Prop where
  | empty {value : Expr} : Thin refer (.subscript value (.tuple []))
  | single {value e : Expr} (hunion : namesUnion refer value = false) :
    Thin refer (.subscript value (.tuple [e]))
  | item {value index e : Expr} (he : e ∈ indexItems index) (h : Thin refer e) :
    Thin refer (.subscript value index)
  | listed {items : List Expr} {e : Expr} (he : e ∈ items) (h : Thin refer e) : Thin refer (.list items)
  | left {left right : Expr} (h : Thin refer left) : Thin refer (.binary .bitOr left right)
  | right {left right : Expr} (h : Thin refer right) : Thin refer (.binary .bitOr left right)

mutual

/-- The number of tuples in an annotation. -/
def tupleCount : Expr → Nat
  | .attribute value _ => tupleCount value
  | .subscript value index => tupleCount value + tupleCount index
  | .tuple items => tupleCountAll items + 1
  | .list items => tupleCountAll items
  | .binary _ left right => tupleCount left + tupleCount right
  | _ => 0

/-- The number of tuples in annotations. -/
def tupleCountAll : List Expr → Nat
  | [] => 0
  | e :: rest => tupleCount e + tupleCountAll rest

end

/-- A union has the tuples of its members. -/
theorem tupleCount_union (left right : Expr) :
    tupleCount (left.union right) = tupleCount left + tupleCount right := by
  fun_induction Expr.union left right with
  | case1 first last ih => rw [tupleCount, ih, tupleCount, Nat.add_assoc]
  | case2 right hright => rw [tupleCount]

/-- So does a union of any number of members. -/
theorem tupleCount_foldl_union (rest : List Expr) (first : Expr) :
    tupleCount (rest.foldl Expr.union first) = tupleCountAll (first :: rest) := by
  induction rest generalizing first with
  | nil => rfl
  | cons next rest ih =>
    rw [List.foldl_cons, ih, tupleCountAll, tupleCountAll, tupleCountAll, tupleCount_union, Nat.add_assoc]

/-- Either two ways to restate an annotation agree and it is not thin, or it is thin and a tuple is lost. -/
def Told (refer : String → TypeRef) (e : Expr) : Prop :=
  restated refer indexWritten e = restated refer indexKept e ∧ ¬ Thin refer e ∨
    tupleCount (restated refer indexWritten e) < tupleCount (restated refer indexKept e) ∧ Thin refer e

/-- The same holds of several annotations if it holds of each. -/
theorem told_all (h : ∀ e ∈ items, Told refer e) :
    items.map (restated refer indexWritten) = items.map (restated refer indexKept) ∧
        (∀ e ∈ items, ¬ Thin refer e) ∨
      tupleCountAll (items.map (restated refer indexWritten)) <
        tupleCountAll (items.map (restated refer indexKept)) ∧ ∃ e ∈ items, Thin refer e := by
  induction items with
  | nil => exact .inl ⟨rfl, nofun⟩
  | cons e rest ih =>
    obtain ⟨he, hrest⟩ := List.forall_mem_cons.mp h
    simp only [List.map_cons, tupleCountAll, List.forall_mem_cons, List.exists_mem_cons_iff]
    rcases he with ⟨heq, hthick⟩ | ⟨hlt, hthin⟩ <;> rcases ih hrest with ⟨heqs, hthicks⟩ | ⟨hlts, hthins⟩
    · exact .inl ⟨by rw [heq, heqs], hthick, hthicks⟩
    · exact .inr ⟨by rw [heq]; omega, .inr hthins⟩
    · exact .inr ⟨by rw [heqs]; omega, .inl hthin⟩
    · exact .inr ⟨by omega, .inl hthin⟩

/-- An index is a tuple, or one item. -/
theorem isTuple_or (index : Expr) :
    (∃ items, index = .tuple items) ∨ isTuple index = false ∧ indexItems index = [index] := by
  cases index with
  | tuple items => exact .inl ⟨items, rfl⟩
  | _ => exact .inr ⟨rfl, rfl⟩

/-- An annotation with items is thin iff its index is, or an item. -/
theorem thin_subscript_iff : Thin refer (.subscript value index) ↔
    index = .tuple [] ∨ (∃ e, index = .tuple [e] ∧ namesUnion refer value = false) ∨
      ∃ e ∈ indexItems index, Thin refer e := by
  constructor
  · intro h
    cases h with
    | empty => exact .inl rfl
    | single hunion => exact .inr (.inl ⟨_, rfl, hunion⟩)
    | item he h => exact .inr (.inr ⟨_, he, h⟩)
  · rintro (rfl | ⟨e, rfl, hunion⟩ | ⟨e, he, h⟩)
    · exact .empty
    · exact .single hunion
    · exact .item he h

/-- A union is thin iff one of its sides is. -/
theorem thin_either_iff {left right : Expr} :
    Thin refer (.binary .bitOr left right) ↔ Thin refer left ∨ Thin refer right := by
  constructor
  · intro h
    cases h with
    | left h => exact .inl h
    | right h => exact .inr h
  · exact fun h => h.elim .left .right

/-- A list is thin iff one of its items is. -/
theorem thin_list_iff : Thin refer (.list items) ↔ ∃ e ∈ items, Thin refer e := by
  constructor
  · intro h
    cases h with
    | listed he h => exact ⟨_, he, h⟩
  · rintro ⟨e, he, h⟩
    exact .listed he h

/-- An annotation with items, if it is known how its items are restated. -/
theorem told_subscript (hname : value.dottedName = some dotted) (hitems : ∀ e ∈ indexItems index, Told refer e) :
    Told refer (.subscript value index) := by
  have htold := told_all hitems
  rw [Told, thin_subscript_iff, restated_subscript, restated_subscript, restated_dottedName hname,
    restated_dottedName hname]
  generalize Expr.ofDotted (refer dotted).name = base
  rcases isTuple_or index with ⟨items, rfl⟩ | ⟨htuple, hindex⟩
  · rw [indexItems] at htold hitems ⊢
    simp only [isTuple, Expr.tuple.injEq]
    cases items with
    | nil =>
      -- Nothing is written of an index without items.
      refine .inr ⟨?_, .inl rfl⟩
      simp only [List.map_nil, withItems, indexWritten, indexKept, tupleCount]
      omega
    | cons first rest =>
      cases hunion : namesUnion refer value with
      | true =>
        simp only [List.map_cons, withItems, if_true, tupleCount_foldl_union] at htold ⊢
        rcases htold with ⟨heq, hthick⟩ | ⟨hlt, hthin⟩
        · obtain ⟨hfirst, hrest⟩ := List.cons.inj heq
          exact .inl ⟨by rw [hfirst, hrest], by simpa using hthick⟩
        · exact .inr ⟨hlt, by simpa using hthin⟩
      | false =>
        cases rest with
        | nil =>
          -- Nothing is written of the tuple of one item.
          refine .inr ⟨?_, .inr (.inl ⟨first, rfl, rfl⟩)⟩
          have hle : tupleCount (restated refer indexWritten first) ≤
              tupleCount (restated refer indexKept first) := by
            rcases hitems first List.mem_cons_self with ⟨heq, -⟩ | ⟨hlt, -⟩
            · exact le_of_eq (congrArg tupleCount heq)
            · exact le_of_lt hlt
          simp only [List.map_cons, List.map_nil, withItems, Bool.false_eq_true, if_false, if_true,
            indexWritten, indexKept, tupleCount, tupleCountAll]
          omega
        | cons second rest =>
          simpa [withItems, indexWritten, indexKept, tupleCount] using htold
  · have hnot : ∀ items, index ≠ .tuple items := by
      rintro items rfl
      cases htuple
    rw [hindex] at htold ⊢
    cases hunion : namesUnion refer value with
    | true => simpa [hnot, htuple, withItems, tupleCountAll] using htold
    | false => simpa [hnot, htuple, withItems, indexWritten, indexKept, tupleCount, tupleCountAll] using htold

/-- **Two ways to restate an annotation agree iff it is not thin.** -/
theorem Composed.told {role : Role} (h : Composed refer n role e) : Told refer e := by
  induction h with
  | none | ellipsis => exact .inl ⟨rfl, nofun⟩
  | @dotted n e dotted hname hlegible =>
    refine .inl ⟨by rw [restated_dottedName hname, restated_dottedName hname], ?_⟩
    rintro (_ | _ | _ | _ | _ | _) <;> cases hname
  | subscript hname hlegible hliteral hannotated hitems ih => exact told_subscript hname ih
  | @either n left right hleft hright ihleft ihright =>
    rw [Told, thin_either_iff, restated, restated, tupleCount_union, tupleCount_union, not_or]
    rcases ihleft with ⟨hl, hthick⟩ | ⟨hl, hthin⟩ <;> rcases ihright with ⟨hr, hthick'⟩ | ⟨hr, hthin'⟩
    · exact .inl ⟨by rw [hl, hr], hthick, hthick'⟩
    · exact .inr ⟨by rw [hl]; omega, .inr hthin'⟩
    · exact .inr ⟨by rw [hr]; omega, .inl hthin⟩
    · exact .inr ⟨by omega, .inl hthin⟩
  | @list n items hitems ih =>
    rw [Told, thin_list_iff, restated, restated, restatedAll_eq_map, restatedAll_eq_map, tupleCount, tupleCount,
      not_exists]
    simpa using told_all ih
  | single h ih => exact ih

end FluentBuilder.Resolving
