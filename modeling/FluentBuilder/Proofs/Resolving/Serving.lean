import FluentBuilder.Proofs.Resolving.Meaning

/-!
# A resolver that is asked again and again

One resolver answers many queries: for annotations in the bodies of all kinds of classes, for names, and for
the schemas of classes. The table goes on from one query to the next, also past one that fails. Each query
is answered as by itself (`serve_of_sound`), and the table that is left has each name that was looked up,
once and in the order in which they were looked up first (`table_serve`). So nothing is looked up twice
(`serve_again`).

**The route.** All that a part does to a table of canonical references is to put names into it, and which
names these are does not depend on the table (`LooksUp`). This holds of looking up a name, and it is closed
under what annotations and schemas are made of (`closed_steady`, `pervades_steady`). Queries then follow by
induction along the list.

The library is given once: what a name denotes in it does not change from one query to the next. A program
in which the import of one module makes other names known is not covered.
-/

namespace FluentBuilder.Resolving

open Syntax Stateful

/-! ### What look-ups do to the table -/

section

variable {s : Surroundings} {table : Table TypeRef} {names : List String} {name : String}

/-- A table with the canonical references of names put into it, one after the other. -/
def remember (s : Surroundings) (table : Table TypeRef) (names : List String) : Table TypeRef :=
  names.foldl (fun table name => table.put name (s.canonical name)) table

/-- Names are remembered one after the other. -/
theorem remember_append (s : Surroundings) (table : Table TypeRef) (names more : List String) :
    remember s table (names ++ more) = remember s (remember s table names) more :=
  List.foldl_append

/-- The last name is remembered last. -/
theorem remember_concat (s : Surroundings) (table : Table TypeRef) (names : List String) (name : String) :
    remember s table (names ++ [name]) = (remember s table names).put name (s.canonical name) :=
  remember_append s table names [name]

/-- The names that are remembered are added to those of the table. -/
theorem mem_names_remember :
    name ∈ (remember s table names).names ↔ name ∈ table.names ∨ name ∈ names := by
  induction names using List.reverseRecOn with
  | nil => simp [remember]
  | append_singleton names last ih =>
    rw [remember_concat, Table.names_put, List.mem_append, List.mem_singleton, ← or_assoc, ← ih]
    split
    · next hlast =>
      constructor
      · exact .inl
      · rintro (h | rfl)
        · exact h
        · exact hlast
    · rw [List.mem_append, List.mem_singleton]

namespace Sound

/-- A table of canonical references stays one. -/
theorem remember (h : Sound s table) (names : List String) :
    Sound s (Resolving.remember s table names) := by
  induction names generalizing table with
  | nil => exact h
  | cons name rest ih => exact ih (h.put name)

/-- A name that is in the table changes nothing when it is put into it again. -/
theorem put_eq (h : Sound s table) (hname : name ∈ table.names) :
    table.put name (s.canonical name) = table := by
  obtain ⟨ref, hfound⟩ := Option.isSome_iff_exists.mp (Table.isSome_find?_iff.mpr hname)
  rw [← h name ref hfound]
  exact Table.put_of_find? hfound

/-- Nor do several of them. -/
theorem remember_eq (h : Sound s table) (hnames : names ⊆ table.names) :
    Resolving.remember s table names = table := by
  induction names with
  | nil => rfl
  | cons name rest ih =>
    obtain ⟨hname, hrest⟩ := List.cons_subset.mp hnames
    rw [Resolving.remember, List.foldl_cons, h.put_eq hname]
    exact ih hrest

end Sound

/-! ### Names that are remembered several times -/

/-- Without repetitions, a name that was there before comes to nothing, and another one comes last. -/
theorem eraseDups_concat (names : List String) (name : String) :
    (names ++ [name]).eraseDups =
      if name ∈ names then names.eraseDups else names.eraseDups ++ [name] := by
  rw [List.eraseDups_append]
  split
  · next hold => simp [List.removeAll, hold]
  · next hnew => simp [List.removeAll, hnew, List.eraseDups_cons]

/-- **What is remembered from the empty table on**: each name once, in the order in which they came first,
with its canonical reference. -/
theorem remember_nil (s : Surroundings) (names : List String) :
    remember s [] names = names.eraseDups.map fun name => (name, s.canonical name) := by
  induction names using List.reverseRecOn with
  | nil => rfl
  | append_singleton names name ih =>
    have hmem : name ∈ (remember s [] names).names ↔ name ∈ names := by
      rw [mem_names_remember]
      simp [Table.names]
    rw [remember_concat, eraseDups_concat]
    split
    · next hold => rw [((sound_nil s).remember names).put_eq (hmem.mpr hold), ih]
    · next hnew => rw [Table.put_of_notMem (hmem.not.mpr hnew), ih, List.map_append, List.map_singleton]

/-- The names that are in the table then. -/
theorem names_remember_nil (s : Surroundings) (names : List String) :
    (remember s [] names).names = names.eraseDups := by
  rw [remember_nil, Table.names, List.map_map]
  exact List.map_id _

/-- It does not matter how often a name is remembered. -/
theorem Sound.remember_eraseDups (h : Sound s table) (names : List String) :
    Resolving.remember s table names.eraseDups = Resolving.remember s table names := by
  induction names using List.reverseRecOn with
  | nil => rfl
  | append_singleton names name ih =>
    rw [eraseDups_concat, remember_concat]
    split
    · next hold => rw [ih, (h.remember names).put_eq (mem_names_remember.mpr (.inr hold))]
    · rw [remember_concat, ih]

end

/-! ### Parts that only look names up -/

section

variable {s : Surroundings} {table : Table TypeRef} {ε α β : Type}
variable {part : ExceptT ε (StateM (Table TypeRef)) α} {result : Except ε α} {names : List String}
variable {next : α → ExceptT ε (StateM (Table TypeRef)) β}

/-- From every table of canonical references a part has this result, and it puts these names into it. -/
def LooksUp (s : Surroundings) (part : ExceptT ε (StateM (Table TypeRef)) α) (result : Except ε α)
    (names : List String) : Prop :=
  ∀ table, Sound s table → exec part table = (result, remember s table names)

/-- What leaves the table alone looks nothing up. -/
theorem looksUp_of_const (h : ∀ table, exec part table = (result, table)) : LooksUp s part result [] :=
  fun table _ => h table

/-- A name is looked up. -/
theorem looksUp_name (s : Surroundings) (qualified : String) :
    LooksUp s (Resolving.name s qualified) (.ok (s.canonical qualified)) [qualified] := by
  intro table hsound
  cases hfound : table.find? qualified with
  | some ref =>
    have hmem : qualified ∈ table.names :=
      Table.isSome_find?_iff.mp (Option.isSome_iff_exists.mpr ⟨ref, hfound⟩)
    rw [exec_name_of_find?_eq_some hfound, hsound qualified ref hfound,
      hsound.remember_eq (List.cons_subset.mpr ⟨hmem, List.nil_subset _⟩)]
  | none => exact exec_name_of_find?_eq_none hfound

namespace LooksUp

/-- After a fault nothing more is looked up. -/
theorem bind_error {fault : ε} (h : LooksUp s part (.error fault) names) :
    LooksUp s (part >>= next) (.error fault) names :=
  fun table hsound => exec_bind_of_error (h table hsound)

/-- One part after another looks up the names of both. -/
theorem bind_ok {a : α} {result' : Except ε β} {more : List String} (h : LooksUp s part (.ok a) names)
    (hnext : LooksUp s (next a) result' more) : LooksUp s (part >>= next) result' (names ++ more) := by
  intro table hsound
  rw [exec_bind_of_ok (h table hsound), hnext _ (hsound.remember names), remember_append]

/-- Faults under another name do not change what is looked up. -/
theorem adapt {ε' : Type} (h : LooksUp s part result names) (f : ε → ε') :
    LooksUp s (ExceptT.adapt f part) (result.mapError f) names := by
  intro table hsound
  rw [exec_adapt, h table hsound]

end LooksUp

/-- A part that only looks names up: neither its result nor these names depend on the table. -/
def Steady (s : Surroundings) (part : ExceptT ε (StateM (Table TypeRef)) α) : Prop :=
  ∃ result names, LooksUp s part result names

/-- What leaves the table alone is steady. -/
theorem steady_of_const (h : ∀ table, exec part table = (result, table)) : Steady s part :=
  ⟨result, [], looksUp_of_const h⟩

/-- One steady part after another is steady. -/
theorem Steady.bind (h : Steady s part) (hnext : ∀ a, Steady s (next a)) : Steady s (part >>= next) := by
  obtain ⟨fault | a, names, hpart⟩ := h
  · exact ⟨.error fault, names, hpart.bind_error⟩
  · obtain ⟨result, more, hrest⟩ := hnext a
    exact ⟨result, names ++ more, hpart.bind_ok hrest⟩

/-- **What a steady part comes to**: its result is the one by itself, and it puts into the table the names
that it looks up by itself. -/
theorem Steady.exec_eq (h : Steady s part) (hsound : Sound s table) :
    exec part table = (outcome part, remember s table (exec part []).2.names) := by
  obtain ⟨result, names, hpart⟩ := h
  rw [outcome, hpart [] (sound_nil s), hpart table hsound, names_remember_nil, hsound.remember_eraseDups]

/-- Being steady is closed. -/
theorem closed_steady (s : Surroundings) :
    Closed s s fun {α : Type} (part _ : Resolving α) => Steady s part where
  parse_eq := rfl
  pure a := steady_of_const fun table => exec_pure a table
  throw fault := steady_of_const fun table => exec_throw fault table
  bind := fun hpart hnext => hpart.bind hnext
  name qualified := ⟨_, _, looksUp_name s qualified⟩

/-- Being steady pervades. -/
theorem pervades_steady (s : Surroundings) : Pervades s fun {_ _ : Type} part => Steady s part where
  const := steady_of_const
  bind := Steady.bind
  adapt := fun f ⟨result, names, h⟩ => ⟨result.mapError f, names, h.adapt f⟩
  hint e _ := (closed_steady s).hintWith _ e

end

/-! ### Queries -/

/-- What a resolver can be asked for. -/
inductive Query where
  /-- The reference of an annotation in the body of a class. -/
  | hint (e : Expr) (d : Source.Declaration)
  /-- The reference to a qualified name. -/
  | name (qualified : String)
  /-- The schema of a class. -/
  | schema (d : Source.Declaration)

/-- What a resolver answers. -/
inductive Answer where
  /-- A reference, or why there is none. -/
  | reference (result : Except ResolveFault TypeRef)
  /-- A schema, or why there is none. -/
  | schema (result : Except SchemaFault Schema)

namespace Query

/-- The answer to a query, and the table after it. -/
def answer (s : Surroundings) : Query → Table TypeRef → Answer × Table TypeRef
  | .hint e d, table => (exec (Resolving.hint s e d) table).map Answer.reference id
  | .name qualified, table => (exec (Resolving.name s qualified) table).map Answer.reference id
  | .schema d, table => (exec (Resolving.schema s d) table).map Answer.schema id

/-- The answer of a resolver that was asked nothing before. -/
def alone (s : Surroundings) (q : Query) : Answer := (q.answer s []).1

/-- The names that are looked up for a query, each once. -/
def names (s : Surroundings) (q : Query) : List String := (q.answer s []).2.names

/-- **The answer to a query does not depend on the table**, and all that happens to the table is that the
names of the query are looked up. -/
theorem answer_of_sound {s : Surroundings} {table : Table TypeRef} (h : Sound s table) (q : Query) :
    q.answer s table = (q.alone s, remember s table (q.names s)) := by
  cases q with
  | hint e d =>
    have hsteady : Steady s (Resolving.hint s e d) := (pervades_steady s).hint e d
    rw [answer, hsteady.exec_eq h]
    rfl
  | name qualified =>
    have hsteady : Steady s (Resolving.name s qualified) := (closed_steady s).name qualified
    rw [answer, hsteady.exec_eq h]
    rfl
  | schema d =>
    have hsteady : Steady s (Resolving.schema s d) := (pervades_steady s).schema d
    rw [answer, hsteady.exec_eq h]
    rfl

end Query

/-- The answers to queries, one after the other, and the table after them. A query that fails does not take
back what was looked up for it. -/
def serve (s : Surroundings) : List Query → Table TypeRef → List Answer × Table TypeRef
  | [], table => ([], table)
  | q :: rest, table =>
    let (answer, table) := q.answer s table
    let (answers, table) := serve s rest table
    (answer :: answers, table)

/-- **Each query is answered as by itself**, and the names of all of them are looked up. -/
theorem serve_of_sound {s : Surroundings} {table : Table TypeRef} (h : Sound s table) (queries : List Query) :
    serve s queries table = (queries.map (·.alone s), remember s table (queries.flatMap (·.names s))) := by
  induction queries generalizing table with
  | nil => rfl
  | cons q rest ih =>
    rw [serve, q.answer_of_sound h]
    simp only [ih (h.remember _), List.map_cons, List.flatMap_cons, remember_append]

/-- A resolver has a table of canonical references. -/
theorem sound_serve (s : Surroundings) (queries : List Query) : Sound s (serve s queries []).2 := by
  rw [serve_of_sound (sound_nil s)]
  exact (sound_nil s).remember _

/-- **What a resolver has in its table**: each name that was looked up, once and in the order in which they
were looked up first, with its canonical reference. -/
theorem table_serve (s : Surroundings) (queries : List Query) :
    (serve s queries []).2 =
      (queries.flatMap (·.names s)).eraseDups.map fun name => (name, s.canonical name) := by
  rw [serve_of_sound (sound_nil s), remember_nil]

/-- **Nothing is looked up twice**: the same queries again have the same answers and leave the table as it
is. -/
theorem serve_again (s : Surroundings) (queries : List Query) :
    serve s queries (serve s queries []).2 = serve s queries [] := by
  have hsound := sound_serve s queries
  have hknown : queries.flatMap (·.names s) ⊆ (serve s queries []).2.names := by
    intro name hname
    rw [serve_of_sound (sound_nil s)]
    exact mem_names_remember.mpr (.inr hname)
  rw [serve_of_sound hsound, hsound.remember_eq hknown, serve_of_sound (sound_nil s)]

/-- A module with two classes. -/
def partModule (name : String) : Source.Module :=
  ⟨name, Path.ofText (name ++ ".py"), false,
    [.classDef "Part" [] [] [] ⟨1, 0⟩, .classDef "Car" [] [] [] ⟨3, 0⟩]⟩

/-- The second one of them. -/
def partCar (name : String) : Source.Declaration :=
  ⟨partModule name, [], "Car", [], ⟨3, 0⟩, .classDef [] []⟩

/-- In two modules `Part` means two classes. Each is looked up once, under its own name. -/
example :
    let s : Surroundings := ⟨⟨[("a", partModule "a"), ("b", partModule "b")]⟩,
      ⟨[], [], [], [], fun _ => none⟩, parseExpression⟩
    (serve s [.hint (.name "Part") (partCar "b"), .hint (.name "Part") (partCar "a"),
      .name "b.Part", .hint (.name "Part") (partCar "a")] []).2.map
        (fun entry => (entry.1, entry.2.name)) = [("b.Part", "b.Part"), ("a.Part", "a.Part")] := by
  simp only [serve, Query.answer, hint, hintWith, expr]
  decide

end FluentBuilder.Resolving
