import FluentBuilder.Proofs.Resolving.Memo

/-!
# Annotations in two surroundings

What an annotation is resolved to depends on the surroundings by the names that are looked up for it
alone: where these have the same canonical references, it is resolved alike (`exec_hint_eq`). The names
are those in the table that is left behind (`lookedUp`), since names are only ever added to a table.
-/

namespace FluentBuilder.Resolving

open Syntax Stateful

variable {s s' : Surroundings} {α β : Type} {d d' : Source.Declaration}

/-- The names that are looked up for an annotation. -/
def lookedUp (s : Surroundings) (e : Expr) (d : Source.Declaration) : List String :=
  (exec (hint s e d) []).2.names

/-- A plain name is looked up as it is seen from the class. -/
theorem lookedUp_name (s : Surroundings) (id : String) (d : Source.Declaration) :
    lookedUp s (.name id) d = [s.tree.qualify d.module d.innerScope id] := by
  rw [lookedUp, hint, hintWith, expr]
  rfl

/-- Names that were looked up stay in the table, and where they have the same canonical references in
other surroundings, a part comes to the same there. -/
structure Carries (s s' : Surroundings) (part part' : Resolving α) : Prop where
  /-- Names stay in the table. -/
  grows : Keeps (fun table table' : Table TypeRef => table.names ⊆ table'.names) part
  /-- A part comes to the same. -/
  exec_eq : ∀ table, (∀ name ∈ (exec part table).2.names, s'.canonical name = s.canonical name) →
    exec part' table = exec part table

/-- What leaves the table alone comes to the same. -/
theorem carries_of_const {part : Resolving α} (h : ∀ table, (exec part table).2 = table) :
    Carries s s' part part where
  grows := Keeps.of_eq (fun table => List.Subset.refl table.names) h
  exec_eq := fun _ _ => rfl

/-- One part after another comes to the same. -/
theorem Carries.bind {part part' : Resolving α} {next next' : α → Resolving β}
    (hpart : Carries s s' part part') (hnext : ∀ a, Carries s s' (next a) (next' a)) :
    Carries s s' (part >>= next) (part' >>= next') where
  grows := Keeps.bind (fun _ _ _ h h' => List.Subset.trans h h') hpart.grows fun a => (hnext a).grows
  exec_eq := by
    intro table hsame
    rw [exec_bind] at hsame ⊢
    rw [exec_bind]
    have hfirst := hpart.exec_eq table
    generalize exec part table = outcome at hsame hfirst ⊢
    obtain ⟨fault | a, table'⟩ := outcome
    · rw [hfirst hsame]
    · have hlater : table'.names ⊆ (exec (next a) table').2.names := (hnext a).grows table'
      rw [hfirst fun name hname => hsame name (hlater hname)]
      exact (hnext a).exec_eq table' hsame

/-- A name that is looked up is in the table afterwards. -/
theorem mem_names_exec_name (s : Surroundings) (qualified : String) (table : Table TypeRef) :
    qualified ∈ (exec (name s qualified) table).2.names := by
  cases hfound : table.find? qualified with
  | some ref =>
    rw [exec_name_of_find?_eq_some hfound]
    exact Table.isSome_find?_iff.mp (Option.isSome_iff_exists.mpr ⟨ref, hfound⟩)
  | none =>
    rw [exec_name_of_find?_eq_none hfound, Table.names_put]
    split
    · assumption
    · simp

/-- Looking up a name comes to the same, if it has the same canonical reference. -/
theorem carries_name (qualified : String) :
    Carries s s' (name s qualified) (name s' qualified) where
  grows := by
    intro table
    cases hfound : table.find? qualified with
    | some ref =>
      rw [exec_name_of_find?_eq_some hfound]
      exact List.Subset.refl table.names
    | none =>
      rw [exec_name_of_find?_eq_none hfound, Table.names_put]
      split
      · exact List.Subset.refl _
      · exact List.subset_append_left _ _
  exec_eq := by
    intro table hsame
    cases hfound : table.find? qualified with
    | some ref => rw [exec_name_of_find?_eq_some hfound, exec_name_of_find?_eq_some hfound]
    | none =>
      rw [exec_name_of_find?_eq_none hfound, exec_name_of_find?_eq_none hfound,
        hsame qualified (mem_names_exec_name s qualified table)]

/-- All annotations do. -/
theorem closed_carries (hparse : s'.parse = s.parse) :
    Closed s s' fun {α : Type} (part part' : Resolving α) => Carries s s' part part' where
  parse_eq := hparse
  pure a := carries_of_const fun table => by rw [exec_pure]
  throw fault := carries_of_const fun table => by rw [exec_throw]
  bind := fun hpart hnext => hpart.bind hnext
  name := carries_name

/-- **An annotation is resolved alike in other surroundings**, where names are qualified alike and those
that are looked up for it have the same canonical references. -/
theorem exec_hint_eq (hparse : s'.parse = s.parse)
    (hqualify : s'.tree.qualify d'.module d'.innerScope = s.tree.qualify d.module d.innerScope) (e : Expr)
    (hsame : ∀ name ∈ lookedUp s e d, s'.canonical name = s.canonical name) :
    exec (hint s' e d') [] = exec (hint s e d) [] := by
  rw [hint, hqualify]
  exact ((closed_carries hparse).hintWith _ e).exec_eq [] hsame

end FluentBuilder.Resolving
