import FluentBuilder.Proofs.Lineage.Descent
import FluentBuilder.Proofs.Source.Kind

/-!
# Special kinds are inherited

A class is of a special kind if it or a class of the tree that it descends from declares a base of that
kind. The kind is found by a search with a list of classes that are pending and a list of names that were
seen. It comes to an end in every tree, also where classes descend from themselves, and gives the plain
kind exactly if no class that is reached declares a special base (`kindOf_of_findClass`).

**The route.** `Searches` is the search without a bound on its steps: one constructor for each thing that
a step can do. The steps that the bound allows for suffice for such a search (`searches_specialKind`).
What it finds was declared by a class that is reached (`Searches.exists_declares`). Where it finds
nothing, the invariant is that all that a seen class leads to is seen or pending (`Explored`); in the end
nothing is pending, so that everything that is reached was seen (`Searches.exists_explored`).
-/

namespace FluentBuilder.Source.Tree

open Lineage

variable {tree : Tree} {seen : List String} {pending : List Declaration} {d : Declaration} {kind : Kind}
  {result : Option Kind}

/-! ### The search -/

/-- A search for a special kind, with the names that were seen, the classes that are pending, and what
comes of it. -/
inductive Searches (tree : Tree) : List String → List Declaration → Option Kind → Prop where
  /-- Nothing is pending. -/
  | done {seen : List String} : Searches tree seen [] none
  /-- A class was seen before. -/
  | skip {seen : List String} {d : Declaration} {rest : List Declaration} {result : Option Kind}
    (hseen : d.qualifiedName ∈ seen) (hrest : Searches tree seen rest result) :
    Searches tree seen (d :: rest) result
  /-- A class has a special base. -/
  | found {seen : List String} {d : Declaration} {rest : List Declaration} {kind : Kind}
    (hfresh : d.qualifiedName ∉ seen) (hkind : (tree.baseClasses d).findSome? Kind.ofBase = some kind) :
    Searches tree seen (d :: rest) (some kind)
  /-- A class has none, and the classes of the tree among its bases come next. -/
  | next {seen : List String} {d : Declaration} {rest : List Declaration} {result : Option Kind}
    (hfresh : d.qualifiedName ∉ seen) (hplain : (tree.baseClasses d).findSome? Kind.ofBase = none)
    (hrest : Searches tree (d.qualifiedName :: seen)
      (((tree.baseClasses d).filterMap tree.findClass?).reverse ++ rest) result) :
    Searches tree seen (d :: rest) result

/-- **The search comes to an end**: one step for each class that is pending and one for each base
expression of a class that is not seen make a whole search. -/
theorem searches_specialKind {classes : List Declaration}
    (hfound : ∀ name c, tree.findClass? name = some c → c ∈ classes) {fuel : Nat}
    (hpending : pending ⊆ classes) (hfuel : pending.length + unseenBases classes seen ≤ fuel) :
    tree.Searches seen pending (tree.specialKind fuel seen pending) := by
  induction fuel generalizing seen pending with
  | zero =>
    obtain rfl : pending = [] := List.length_eq_zero_iff.mp (by omega)
    exact .done
  | succ fuel ih =>
    cases pending with
    | nil => exact .done
    | cons d rest =>
      obtain ⟨hd, hrest⟩ := List.cons_subset.mp hpending
      rw [List.length_cons] at hfuel
      rw [specialKind]
      cases hseen : seen.contains d.qualifiedName with
      | true => exact .skip (List.contains_iff_mem.mp hseen) (ih hrest (by omega))
      | false =>
        have hfresh : d.qualifiedName ∉ seen := fun hmem =>
          Bool.false_ne_true (hseen.symm.trans (List.contains_iff_mem.mpr hmem))
        rw [if_neg Bool.false_ne_true]
        cases hspecial : (tree.baseClasses d).findSome? Kind.ofBase with
        | some kind =>
          simp only [hspecial]
          exact .found hfresh hspecial
        | none =>
          simp only [hspecial]
          refine .next hfresh hspecial (ih (List.append_subset.mpr ⟨fun c hc => ?_, hrest⟩) ?_)
          · obtain ⟨name, -, hname⟩ := List.mem_filterMap.mp (List.mem_reverse.mp hc)
            exact hfound name c hname
          · have hbases := length_filterMap_baseClasses_le tree d
            have hunseen := unseenBases_cons hd hseen
            rw [List.length_append, List.length_reverse]
            omega

/-- The kind of a class is what the search comes to, or the plain one. -/
theorem exists_searches_of_isClass (tree : Tree) (hclass : d.isClass = true) :
    ∃ result, tree.Searches [] [d] result ∧ tree.kindOf d = result.getD .plainClass := by
  have hclasses : ∀ name c, tree.findClass? name = some c → c ∈ d :: tree.declarations :=
    fun name c hfound =>
      List.mem_cons_of_mem _ (List.mem_reverse.mp (List.mem_of_find?_eq_some hfound))
  exact ⟨_, searches_specialKind hclasses
    (List.cons_subset.mpr ⟨List.mem_cons_self, List.nil_subset _⟩)
    ((kindFuel_eq tree d).ge.trans (Nat.le_succ _)), by rw [kindOf, if_pos hclass]⟩

/-! ### What is declared -/

/-- The class of a qualified name declares a base. -/
def Declares (tree : Tree) (name base : String) : Prop :=
  ∃ d, tree.findClass? name = some d ∧ base ∈ tree.baseClasses d

/-- A class that is found declares its bases under its name. -/
theorem declares_iff {name base : String} (h : tree.findClass? name = some d) :
    tree.Declares name base ↔ base ∈ tree.baseClasses d := by
  refine ⟨fun ⟨other, hother, hbase⟩ => ?_, fun hbase => ⟨d, h, hbase⟩⟩
  obtain rfl := Option.some.inj (h.symm.trans hother)
  exact hbase

/-- The classes of the tree among the bases of a class are those that it leads to. -/
theorem mem_filterMap_findClass? {p : Declaration} (h : tree.findClass? d.qualifiedName = some d)
    (hp : p ∈ (tree.baseClasses d).filterMap tree.findClass?) :
    tree.findClass? p.qualifiedName = some p ∧
      IsBase tree.parentsOf d.qualifiedName p.qualifiedName := by
  obtain ⟨base, hbase, hfound⟩ := List.mem_filterMap.mp hp
  obtain rfl := qualifiedName_of_findClass hfound
  refine ⟨hfound, ?_⟩
  rw [IsBase, parentsOf_eq_parents h, parents, List.mem_filter, hfound]
  exact ⟨hbase, rfl⟩

/-- What a class leads to is found among its bases. -/
theorem exists_of_isBase {name base : String} (h : tree.findClass? name = some d)
    (hbase : IsBase tree.parentsOf name base) :
    ∃ p ∈ (tree.baseClasses d).filterMap tree.findClass?, p.qualifiedName = base := by
  rw [IsBase, parentsOf_eq_parents h] at hbase
  obtain ⟨p, hp⟩ := exists_findClass_of_mem_parents hbase
  exact ⟨p, List.mem_filterMap.mpr ⟨base, (List.mem_filter.mp hbase).1, hp⟩, qualifiedName_of_findClass hp⟩

/-- The pending classes are found under their names. -/
def Pending (tree : Tree) (pending : List Declaration) : Prop :=
  ∀ d ∈ pending, tree.findClass? d.qualifiedName = some d

/-- The classes that come next are found under their names. -/
theorem Pending.next (h : tree.Pending (d :: pending)) :
    tree.Pending (((tree.baseClasses d).filterMap tree.findClass?).reverse ++ pending) := by
  intro p hp
  rcases List.mem_append.mp hp with hp | hp
  · exact (mem_filterMap_findClass? (h d List.mem_cons_self) (List.mem_reverse.mp hp)).1
  · exact h p (List.mem_cons_of_mem _ hp)

/-! ### What is found -/

/-- **A kind that is found** is that of a base which a class declares that is reached. -/
theorem Searches.exists_declares (h : tree.Searches seen pending (some kind))
    (hpending : tree.Pending pending) :
    ∃ d ∈ pending, ∃ c base, Descends tree.parentsOf d.qualifiedName c ∧ tree.Declares c base ∧
      Kind.ofBase base = some kind := by
  generalize hresult : some kind = result at h
  induction h with
  | done => cases hresult
  | skip hseen _ ih =>
    obtain ⟨d, hd, hdeclares⟩ := ih (fun d hd => hpending d (List.mem_cons_of_mem _ hd)) hresult
    exact ⟨d, List.mem_cons_of_mem _ hd, hdeclares⟩
  | @found seen d rest kind hfresh hkind =>
    obtain rfl := Option.some.inj hresult
    obtain ⟨base, hbase, hspecial⟩ := List.exists_of_findSome?_eq_some hkind
    exact ⟨d, List.mem_cons_self, d.qualifiedName, base, .refl,
      ⟨d, hpending d List.mem_cons_self, hbase⟩, hspecial⟩
  | @next seen d rest result hfresh hplain _ ih =>
    obtain ⟨p, hp, c, base, hdescends, hdeclares⟩ := ih hpending.next hresult
    rcases List.mem_append.mp hp with hp | hp
    · have hbase := (mem_filterMap_findClass? (hpending d List.mem_cons_self) (List.mem_reverse.mp hp)).2
      exact ⟨d, List.mem_cons_self, c, base, hdescends.head hbase, hdeclares⟩
    · exact ⟨p, List.mem_cons_of_mem _ hp, c, base, hdescends, hdeclares⟩

/-! ### Where nothing is found -/

/-- The classes that were seen declare no special bases, and what they lead to was seen or is pending. -/
structure Explored (tree : Tree) (seen : List String) (pending : List Declaration) : Prop where
  /-- No special base is declared. -/
  plain : ∀ name ∈ seen, ∀ base, tree.Declares name base → Kind.ofBase base = none
  /-- Nothing is left out. -/
  closed : ∀ name ∈ seen, ∀ base, IsBase tree.parentsOf name base →
    base ∈ seen ∨ ∃ d ∈ pending, d.qualifiedName = base

/-- A class that was seen before need not be pending. -/
theorem Explored.skip (h : tree.Explored seen (d :: pending)) (hseen : d.qualifiedName ∈ seen) :
    tree.Explored seen pending where
  plain := h.plain
  closed := fun name hname base hbase => by
    rcases h.closed name hname base hbase with hmem | ⟨p, hp, rfl⟩
    · exact .inl hmem
    · rcases List.mem_cons.mp hp with rfl | hp
      · exact .inl hseen
      · exact .inr ⟨p, hp, rfl⟩

/-- A class without special bases is seen when all that it leads to is pending. -/
theorem Explored.next (h : tree.Explored seen (d :: pending))
    (hd : tree.findClass? d.qualifiedName = some d)
    (hplain : (tree.baseClasses d).findSome? Kind.ofBase = none) :
    tree.Explored (d.qualifiedName :: seen)
      (((tree.baseClasses d).filterMap tree.findClass?).reverse ++ pending) where
  plain := fun name hname base hdeclares => by
    rcases List.mem_cons.mp hname with rfl | hname
    · exact List.findSome?_eq_none_iff.mp hplain base ((declares_iff hd).mp hdeclares)
    · exact h.plain name hname base hdeclares
  closed := fun name hname base hbase => by
    rcases List.mem_cons.mp hname with rfl | hname
    · obtain ⟨p, hp, hqualified⟩ := exists_of_isBase hd hbase
      exact .inr ⟨p, List.mem_append_left _ (List.mem_reverse.mpr hp), hqualified⟩
    · rcases h.closed name hname base hbase with hmem | ⟨p, hp, hqualified⟩
      · exact .inl (List.mem_cons_of_mem _ hmem)
      · rcases List.mem_cons.mp hp with rfl | hp
        · exact .inl (hqualified ▸ List.mem_cons_self)
        · exact .inr ⟨p, List.mem_append_right _ hp, hqualified⟩

/-- **Where nothing is found**, everything that was pending is seen in the end, and so is all that it
leads to. -/
theorem Searches.exists_explored (h : tree.Searches seen pending none) (hpending : tree.Pending pending)
    (hexplored : tree.Explored seen pending) :
    ∃ all, tree.Explored all [] ∧ seen ⊆ all ∧ ∀ d ∈ pending, d.qualifiedName ∈ all := by
  generalize hresult : (none : Option Kind) = result at h
  induction h with
  | @done seen => exact ⟨seen, hexplored, List.Subset.refl _, fun d hd => absurd hd List.not_mem_nil⟩
  | @skip seen d rest result hseen _ ih =>
    obtain ⟨all, hall, hsub, hrest⟩ :=
      ih (fun d hd => hpending d (List.mem_cons_of_mem _ hd)) (hexplored.skip hseen) hresult
    exact ⟨all, hall, hsub, List.forall_mem_cons.mpr ⟨hsub hseen, hrest⟩⟩
  | found => cases hresult
  | @next seen d rest result hfresh hplain _ ih =>
    obtain ⟨all, hall, hsub, hrest⟩ :=
      ih hpending.next (hexplored.next (hpending d List.mem_cons_self) hplain) hresult
    obtain ⟨hself, hseen⟩ := List.cons_subset.mp hsub
    exact ⟨all, hall, hseen,
      List.forall_mem_cons.mpr ⟨hself, fun p hp => hrest p (List.mem_append_right _ hp)⟩⟩

/-- What is reached from a seen class was seen, when nothing is pending. -/
theorem Explored.mem_of_descends {all : List String} (h : tree.Explored all []) {name c : String}
    (hname : name ∈ all) (hdescends : Descends tree.parentsOf name c) : c ∈ all := by
  induction hdescends with
  | refl => exact hname
  | tail _ hbase ih =>
    rcases h.closed _ ih _ hbase with hmem | ⟨p, hp, -⟩
    · exact hmem
    · cases hp

/-! ### The kind of a class -/

/-- No base is special in a plain way. -/
theorem ofBase_ne_plainClass (base : String) : Kind.ofBase base ≠ some .plainClass := by
  rw [Kind.ofBase]
  split_ifs <;> simp

/-- **The kind of a class**, in any tree.

* The search for it comes to an end.
* It is the plain kind iff no class that the class descends from, itself included, declares a special
  base.
* If such bases are declared, and all of them are of one kind, it is that kind. -/
theorem kindOf_of_findClass (tree : Tree) (name : String) (d : Declaration)
    (h : tree.findClass? name = some d) :
    (∃ result, tree.Searches [] [d] result ∧ tree.kindOf d = result.getD .plainClass) ∧
    (tree.kindOf d = .plainClass ↔
      ∀ c base, Descends tree.parentsOf d.qualifiedName c → tree.Declares c base →
        Kind.ofBase base = none) ∧
    ∀ kind,
      (∃ c base, Descends tree.parentsOf d.qualifiedName c ∧ tree.Declares c base ∧
        Kind.ofBase base = some kind) →
      (∀ c base other, Descends tree.parentsOf d.qualifiedName c → tree.Declares c base →
        Kind.ofBase base = some other → other = kind) →
      tree.kindOf d = kind := by
  have hself := findClass?_qualifiedName h
  have hclass : d.isClass = true := by
    have hfound := List.find?_some h
    exact (Bool.and_eq_true_iff.mp hfound).1
  have hpending : tree.Pending [d] := fun p hp => by rwa [List.mem_singleton.mp hp]
  obtain ⟨result, hsearch, hkind⟩ := exists_searches_of_isClass tree hclass
  refine ⟨⟨result, hsearch, hkind⟩, ?_⟩
  rw [hkind]
  cases result with
  | some kind =>
    obtain ⟨p, hp, c, base, hdescends, hdeclares, hspecial⟩ := hsearch.exists_declares hpending
    obtain rfl := List.mem_singleton.mp hp
    refine ⟨⟨?_, fun hnone => ?_⟩, fun other _ hall => hall c base kind hdescends hdeclares hspecial⟩
    · rintro rfl
      exact absurd hspecial (ofBase_ne_plainClass base)
    · cases (hnone c base hdescends hdeclares).symm.trans hspecial
  | none =>
    have hstart : tree.Explored [] [d] :=
      ⟨fun _ hname => absurd hname List.not_mem_nil, fun _ hname => absurd hname List.not_mem_nil⟩
    obtain ⟨all, hall, -, hseen⟩ := hsearch.exists_explored hpending hstart
    have hplain : ∀ c base, Descends tree.parentsOf d.qualifiedName c → tree.Declares c base →
        Kind.ofBase base = none := fun c base hdescends =>
      hall.plain c (hall.mem_of_descends (hseen d List.mem_cons_self) hdescends) base
    refine ⟨⟨fun _ => hplain, fun _ => rfl⟩, fun kind ⟨c, base, hdescends, hdeclares, hspecial⟩ _ => ?_⟩
    cases (hplain c base hdescends hdeclares).symm.trans hspecial

/-- Two classes that descend from each other, one of them from an enumeration too. -/
def entangled : Tree :=
  let cls (name : String) (bases : List String) : Syntax.Statement :=
    .classDef name (bases.map .name) [] [] ⟨1, 0⟩
  ⟨[("m", ⟨"m", Path.ofText "m.py", false,
    [.importFrom (some "enum") [⟨"Enum", none⟩] 0, cls "A" ["B"], cls "B" ["A", "Enum"],
      cls "C" ["C"]]⟩)]⟩

/-- A class is an enumeration that descends from itself by way of one, and a class that only descends from
itself is a plain one: it declares no special base anywhere. -/
theorem kindOf_of_entangled :
    (∃ d, entangled.findClass? "m.A" = some d ∧ entangled.kindOf d = .enumeration ∧
      ¬ ∀ c base, Descends entangled.parentsOf d.qualifiedName c → entangled.Declares c base →
        Kind.ofBase base = none) ∧
    ∃ d, entangled.findClass? "m.C" = some d ∧ entangled.kindOf d = .plainClass ∧
      ∀ c base, Descends entangled.parentsOf d.qualifiedName c → entangled.Declares c base →
        Kind.ofBase base = none := by
  have hkinds : (entangled.findClass? "m.A").map entangled.kindOf = some .enumeration ∧
      (entangled.findClass? "m.C").map entangled.kindOf = some .plainClass := by decide
  obtain ⟨a, ha, hspecial⟩ := Option.map_eq_some_iff.mp hkinds.1
  obtain ⟨c, hc, hplain⟩ := Option.map_eq_some_iff.mp hkinds.2
  refine ⟨⟨a, ha, hspecial, fun hnone => ?_⟩, c, hc, hplain, ?_⟩
  · have heq := (kindOf_of_findClass entangled "m.A" a ha).2.1.mpr hnone
    cases hspecial.symm.trans heq
  · exact (kindOf_of_findClass entangled "m.C" c hc).2.1.mp hplain

end FluentBuilder.Source.Tree
