import FluentBuilder.Proofs.Stateful
import FluentBuilder.Proofs.Table
import FluentBuilder.Schema

/-!
# The table of canonical references

References are looked up in a table that is passed on from one annotation to the next and from one
class to the next. The table has no influence on what is found: from every table that holds canonical
references only (`Sound`) the result is the same, and the table left behind is one of these again
(`Memoised`). So the schema of a class is what it is by itself (`schema_of_sound`).

**The route.** Annotations are resolved by looking up names, putting results together and failing.
What is closed under these holds of every annotation (`Closed.expr`, by induction on the expression,
and `Closed.hintWith`), and being memoised is closed under them (`closed_memoised`). Such properties are
stated of two surroundings at once, so that annotations can be compared too. From annotations they go on to
fields, classes and schemas (`Pervades.schema`).
-/

namespace FluentBuilder

open Syntax Stateful

namespace Resolving

variable {s : Surroundings} {table : Table TypeRef} {ε α β : Type}

/-! ### Properties of all annotations -/

/-- A property of the same part in two surroundings that holds of looking up a name, of results, of faults
other than that of a bound, and of one such part after another. -/
structure Composes (s s' : Surroundings) (P : {α : Type} → Resolving α → Resolving α → Prop) : Prop where
  /-- It holds of results. -/
  pure : ∀ {α : Type} (a : α), P (Pure.pure a) (Pure.pure a)
  /-- It holds of the other faults. -/
  throw : ∀ {α : Type} {fault : ResolveFault}, fault ≠ .tooDeep →
    P (throw fault : Resolving α) (MonadExcept.throw fault)
  /-- It holds of one part after another. -/
  bind : ∀ {α β : Type} {part part' : Resolving α} {next next' : α → Resolving β},
    P part part' → (∀ a, P (next a) (next' a)) → P (part >>= next) (part' >>= next')
  /-- It holds of looking up a name. -/
  name : ∀ qualified, P (Resolving.name s qualified) (Resolving.name s' qualified)

namespace Composes

variable {s' : Surroundings} {P : {α : Type} → Resolving α → Resolving α → Prop}

/-- It holds of texts. -/
theorem written (h : Composes s s' P) (e : Expr) : P (written e) (written e) := by
  unfold Resolving.written
  split
  · exact h.pure _
  · exact h.throw ResolveFault.noConfusion

/-- It holds of several texts. -/
theorem writtenAll (h : Composes s s' P) (es : List Expr) : P (writtenAll es) (writtenAll es) := by
  induction es with
  | nil => exact h.pure _
  | cons e rest ih => exact h.bind (h.written e) fun _ => h.bind ih fun _ => h.pure _

end Composes

/-- A property of the same part in two surroundings that holds of looking up a name, of results and of
faults, and of one such part after another. Quoted annotations are read alike in both. -/
structure Closed (s s' : Surroundings) (P : {α : Type} → Resolving α → Resolving α → Prop) : Prop where
  /-- Quoted annotations are read alike. -/
  parse_eq : s'.parse = s.parse
  /-- It holds of results. -/
  pure : ∀ {α : Type} (a : α), P (Pure.pure a) (Pure.pure a)
  /-- It holds of faults. -/
  throw : ∀ {α : Type} (fault : ResolveFault), P (throw fault : Resolving α) (MonadExcept.throw fault)
  /-- It holds of one part after another. -/
  bind : ∀ {α β : Type} {part part' : Resolving α} {next next' : α → Resolving β},
    P part part' → (∀ a, P (next a) (next' a)) → P (part >>= next) (part' >>= next')
  /-- It holds of looking up a name. -/
  name : ∀ qualified, P (Resolving.name s qualified) (Resolving.name s' qualified)

namespace Closed

variable {s' : Surroundings} {P : {α : Type} → Resolving α → Resolving α → Prop}

/-- It composes. -/
theorem composes (h : Closed s s' P) : Composes s s' P :=
  ⟨h.pure, fun _ => h.throw _, h.bind, h.name⟩

/-- It holds of texts. -/
theorem written (h : Closed s s' P) (e : Expr) : P (written e) (written e) := h.composes.written e

/-- It holds of several texts. -/
theorem writtenAll (h : Closed s s' P) (es : List Expr) : P (writtenAll es) (writtenAll es) :=
  h.composes.writtenAll es

section

variable {qualify : String → String} {forward forward' : CodePoints → Resolving TypeRef}

mutual

/-- It holds of annotations if it holds of the quoted ones in them. -/
theorem expr (h : Closed s s' P) (hforward : ∀ value, P (forward value) (forward' value)) (e : Expr) :
    P (Resolving.expr s qualify forward e) (Resolving.expr s' qualify forward' e) := by
  unfold Resolving.expr
  split
  · exact h.pure _
  · exact h.pure _
  · exact hforward _
  · split
    · exact h.pure _
    · exact h.throw _
  · exact h.name _
  · split
    · exact h.name _
    · exact h.written _
  · next value index =>
    refine h.bind (h.expr hforward value) fun base => ?_
    split
    · next items =>
      split
      · exact h.bind (h.writtenAll items) fun _ => h.pure _
      · split
        · cases items with
          | nil => exact h.pure _
          | cons first rest =>
            exact h.bind (h.expr hforward first) fun _ => h.bind (h.writtenAll rest) fun _ =>
              h.pure _
        · exact h.bind (h.arguments hforward items) fun _ => h.pure _
    · split
      · exact h.bind (h.written index) fun _ => h.pure _
      · split
        · exact h.bind (h.expr hforward index) fun _ => h.pure _
        · exact h.bind (h.argument hforward index) fun _ => h.pure _
  · next left right =>
    exact h.bind (h.expr hforward left) fun _ => h.bind (h.expr hforward right) fun _ => h.pure _
  · exact h.written _

/-- It holds of arguments. -/
theorem argument (h : Closed s s' P) (hforward : ∀ value, P (forward value) (forward' value))
    (e : Expr) :
    P (Resolving.argument s qualify forward e) (Resolving.argument s' qualify forward' e) := by
  unfold Resolving.argument
  split
  · next items => exact h.bind (h.types hforward items) fun _ => h.pure _
  · exact h.expr hforward e

/-- It holds of lists of arguments. -/
theorem arguments (h : Closed s s' P) (hforward : ∀ value, P (forward value) (forward' value)) :
    (es : List Expr) →
      P (Resolving.arguments s qualify forward es) (Resolving.arguments s' qualify forward' es)
  | [] => by
    rw [Resolving.arguments, Resolving.arguments]
    exact h.pure _
  | e :: rest => by
    rw [Resolving.arguments, Resolving.arguments]
    exact h.bind (h.argument hforward e) fun _ => h.bind (h.arguments hforward rest) fun _ => h.pure _

/-- It holds of lists of types. -/
theorem types (h : Closed s s' P) (hforward : ∀ value, P (forward value) (forward' value)) :
    (es : List Expr) →
      P (Resolving.types s qualify forward es) (Resolving.types s' qualify forward' es)
  | [] => by
    rw [Resolving.types, Resolving.types]
    exact h.pure _
  | e :: rest => by
    rw [Resolving.types, Resolving.types]
    exact h.bind (h.expr hforward e) fun _ => h.bind (h.types hforward rest) fun _ => h.pure _

end

/-- It holds of quoted annotations. -/
theorem quoted (h : Closed s s' P) (depth : Nat) (value : CodePoints) :
    P (Resolving.quoted s qualify depth value) (Resolving.quoted s' qualify depth value) := by
  induction depth generalizing value with
  | zero => exact h.throw _
  | succ depth ih =>
    rw [Resolving.quoted, Resolving.quoted, h.parse_eq]
    split
    · exact h.throw _
    · split
      · exact h.expr ih _
      · exact h.throw _
      · exact h.pure _

/-- **It holds of every annotation.** -/
theorem hintWith (h : Closed s s' P) (qualify : String → String) (e : Expr) :
    P (Resolving.hintWith s qualify e) (Resolving.hintWith s' qualify e) :=
  h.expr (fun _ => h.quoted _ _) e

end

end Closed

/-! ### Tables of canonical references -/

/-- The table holds canonical references only. -/
def Sound (s : Surroundings) (table : Table TypeRef) : Prop :=
  ∀ name ref, table.find? name = some ref → ref = s.canonical name

/-- The empty table holds nothing. -/
theorem sound_nil (s : Surroundings) : Sound s [] :=
  fun name ref h => by cases (Table.find?_nil name).symm.trans h

/-- A table of canonical references is one with another of them in it. -/
theorem Sound.put (h : Sound s table) (name : String) : Sound s (table.put name (s.canonical name)) := by
  intro other ref hfound
  rw [Table.find?_put] at hfound
  split at hfound
  · next hname => rw [← hname, Option.some.inj hfound]
  · exact h other ref hfound

section

variable {part : ExceptT ε (StateM (Table TypeRef)) α} {result : Except ε α}
variable {next : α → ExceptT ε (StateM (Table TypeRef)) β}

/-- From every table of canonical references a part has this result, and it leaves such a table. -/
def Yields (s : Surroundings) (part : ExceptT ε (StateM (Table TypeRef)) α) (result : Except ε α) :
    Prop :=
  ∀ table, Sound s table → (exec part table).1 = result ∧ Sound s (exec part table).2

/-- A part that leaves the table alone yields its result. -/
theorem yields_of_const (h : ∀ table, exec part table = (result, table)) : Yields s part result :=
  fun table htable => by rw [h]; exact ⟨rfl, htable⟩

/-- The fault of a part is that of what comes after it. -/
theorem Yields.bind_error {fault : ε} (h : Yields s part (.error fault)) :
    Yields s (part >>= next) (.error fault) := by
  intro table htable
  obtain ⟨hfirst, hsound⟩ := h table htable
  rw [exec_bind_of_error (Prod.ext hfirst rfl)]
  exact ⟨rfl, hsound⟩

/-- What comes after a part begins with its result. -/
theorem Yields.bind_ok {a : α} {result' : Except ε β} (h : Yields s part (.ok a))
    (hnext : Yields s (next a) result') : Yields s (part >>= next) result' := by
  intro table htable
  obtain ⟨hfirst, hsound⟩ := h table htable
  rw [exec_bind_of_ok (Prod.ext hfirst rfl)]
  exact hnext _ hsound

/-- A part yields its result with its faults under another name. -/
theorem Yields.adapt {ε' : Type} (h : Yields s part result) (f : ε → ε') :
    Yields s (ExceptT.adapt f part) (result.mapError f) := by
  intro table htable
  obtain ⟨hfirst, hsound⟩ := h table htable
  rw [← hfirst]
  exact ⟨rfl, hsound⟩

/-- From every table of canonical references a part has the same result, and it leaves such a table. -/
def Memoised (s : Surroundings) (part : ExceptT ε (StateM (Table TypeRef)) α) : Prop :=
  ∃ result, Yields s part result

/-- A part that leaves the table alone is memoised. -/
theorem memoised_of_const (h : ∀ table, exec part table = (result, table)) : Memoised s part :=
  ⟨result, yields_of_const h⟩

/-- One memoised part after another is memoised. -/
theorem Memoised.bind (hpart : Memoised s part) (hnext : ∀ a, Memoised s (next a)) :
    Memoised s (part >>= next) := by
  obtain ⟨fault | a, hresult⟩ := hpart
  · exact ⟨.error fault, hresult.bind_error⟩
  · obtain ⟨result', hresult'⟩ := hnext a
    exact ⟨result', hresult.bind_ok hresult'⟩

/-- A memoised part is memoised with its faults under another name. -/
theorem Memoised.adapt {ε' : Type} (h : Memoised s part) (f : ε → ε') :
    Memoised s (ExceptT.adapt f part) := by
  obtain ⟨result, hresult⟩ := h
  exact ⟨result.mapError f, hresult.adapt f⟩

end

/-- A name that is in the table is found there. -/
theorem exec_name_of_find?_eq_some {qualified : String} {ref : TypeRef}
    (h : table.find? qualified = some ref) : exec (name s qualified) table = (.ok ref, table) := by
  rw [name, exec_bind_of_ok (exec_get table), h]
  rfl

/-- A name that is not in the table is put into it. -/
theorem exec_name_of_find?_eq_none {qualified : String} (h : table.find? qualified = none) :
    exec (name s qualified) table =
      (.ok (s.canonical qualified), table.put qualified (s.canonical qualified)) := by
  rw [name, exec_bind_of_ok (exec_get table), h]
  rfl

/-- Looking up a name gives the canonical reference. -/
theorem exec_name (hsound : Sound s table) (qualified : String) :
    (exec (Resolving.name s qualified) table).1 = .ok (s.canonical qualified) ∧
      Sound s (exec (Resolving.name s qualified) table).2 := by
  cases hfound : table.find? qualified with
  | some ref =>
    rw [exec_name_of_find?_eq_some hfound, hsound qualified ref hfound]
    exact ⟨rfl, hsound⟩
  | none =>
    rw [exec_name_of_find?_eq_none hfound]
    exact ⟨rfl, hsound.put qualified⟩

/-- Looking up a name is memoised. -/
theorem memoised_name (s : Surroundings) (qualified : String) :
    Memoised s (Resolving.name s qualified) :=
  ⟨.ok (s.canonical qualified), fun _ hsound => exec_name hsound qualified⟩

/-- Being memoised is closed. -/
theorem closed_memoised (s : Surroundings) :
    Closed s s fun {α : Type} (part _ : Resolving α) => Memoised s part where
  parse_eq := rfl
  pure a := memoised_of_const fun table => exec_pure a table
  throw fault := memoised_of_const fun table => exec_throw fault table
  bind := fun hpart hnext => hpart.bind hnext
  name := memoised_name s

/-- **Annotations are memoised.** -/
theorem memoised_hint (s : Surroundings) (e : Expr) (d : Source.Declaration) :
    Memoised s (Resolving.hint s e d) :=
  (closed_memoised s).hintWith _ e

/-! ### Schemas -/

/-- A property of parts that use the table: it holds of annotations, of what leaves the table alone, of one
part after another, and of a part with its faults under another name. -/
structure Pervades (s : Surroundings)
    (P : {ε α : Type} → ExceptT ε (StateM (Table TypeRef)) α → Prop) : Prop where
  /-- It holds of what leaves the table alone. -/
  const : ∀ {ε α : Type} {part : ExceptT ε (StateM (Table TypeRef)) α} {result : Except ε α},
    (∀ table, exec part table = (result, table)) → P part
  /-- It holds of one part after another. -/
  bind : ∀ {ε α β : Type} {part : ExceptT ε (StateM (Table TypeRef)) α}
    {next : α → ExceptT ε (StateM (Table TypeRef)) β},
    P part → (∀ a, P (next a)) → P (part >>= next)
  /-- It holds of a part with its faults under another name. -/
  adapt : ∀ {ε ε' α : Type} {part : ExceptT ε (StateM (Table TypeRef)) α} (f : ε → ε'),
    P part → P (ExceptT.adapt f part)
  /-- It holds of annotations. -/
  hint : ∀ (e : Expr) (d : Source.Declaration), P (Resolving.hint s e d)

namespace Pervades

variable {P : {ε α : Type} → ExceptT ε (StateM (Table TypeRef)) α → Prop}

/-- It holds of the fields of a class. -/
theorem putFields (h : Pervades s P) (d : Source.Declaration) (fields : Table Field)
    (own : List (String × Expr)) : P (putFields s d fields own) := by
  induction own generalizing fields with
  | nil => exact h.const fun table => exec_pure fields table
  | cons field rest ih =>
    rw [Resolving.putFields]
    exact h.bind (h.adapt _ (h.hint field.2 d)) fun _ => ih _

/-- It holds of the fields of classes. -/
theorem putClasses (h : Pervades s P) (fields : Table Field) (classes : List Source.Declaration) :
    P (putClasses s fields classes) := by
  induction classes generalizing fields with
  | nil => exact h.const fun table => exec_pure fields table
  | cons d rest ih =>
    rw [Resolving.putClasses]
    refine h.bind (h.const fun table => exec_mk_pure _ table) fun own => ?_
    exact h.bind (h.putFields d fields own) fun _ => ih _

/-- **It holds of schemas.** -/
theorem schema (h : Pervades s P) (d : Source.Declaration) : P (schema s d) := by
  have hrest : P (do
      let names ← ofExcept ((lineage s.tree d).mapError .lineage)
      let fields ← Resolving.putClasses s [] (lineDeclarations s.tree d names).reverse
      return (⟨d.module.name, d.qualname, d.module.package, fields.map Prod.snd⟩ : Schema)) := by
    refine h.bind (h.const fun table => exec_mk_pure _ table) fun names => ?_
    exact h.bind (h.putClasses [] _) fun fields => h.const fun table => exec_pure _ table
  rw [Resolving.schema]
  split
  · exact h.bind (h.const fun table => exec_throw _ table) fun _ => hrest
  · exact hrest

end Pervades

/-- Being memoised pervades. -/
theorem pervades_memoised (s : Surroundings) :
    Pervades s fun {_ _ : Type} part => Memoised s part where
  const := memoised_of_const
  bind := Memoised.bind
  adapt f h := h.adapt f
  hint := memoised_hint s

/-- The fields of a class are memoised. -/
theorem memoised_putFields (s : Surroundings) (d : Source.Declaration) (fields : Table Field)
    (own : List (String × Expr)) : Memoised s (putFields s d fields own) :=
  (pervades_memoised s).putFields d fields own

/-- Schemas are memoised. -/
theorem memoised_schema (s : Surroundings) (d : Source.Declaration) : Memoised s (schema s d) :=
  (pervades_memoised s).schema d

end Resolving

/-- The schema of a declaration, by itself. -/
def schemaOf (s : Surroundings) (d : Source.Declaration) : Except SchemaFault Schema :=
  (exec (Resolving.schema s d) []).1

/-- **The table has no influence on schemas**: from every table of canonical references the schema of a
declaration is what it is by itself, and the table left behind is such a table. -/
theorem schema_of_sound {s : Surroundings} {table : Table TypeRef} (h : Resolving.Sound s table)
    (d : Source.Declaration) :
    (exec (Resolving.schema s d) table).1 = schemaOf s d ∧
      Resolving.Sound s (exec (Resolving.schema s d) table).2 := by
  obtain ⟨result, hresult⟩ := Resolving.memoised_schema s d
  obtain ⟨hfirst, hsound⟩ := hresult table h
  obtain ⟨hself, -⟩ := hresult [] (Resolving.sound_nil s)
  exact ⟨hfirst.trans hself.symm, hsound⟩

/-- A schema that is found is that of the declaration. -/
theorem schema_of_schemaOf {s : Surroundings} {d : Source.Declaration} {schema : Schema}
    (h : schemaOf s d = .ok schema) :
    d.isClass = true ∧ schema.module = d.module.name ∧ schema.qualname = d.qualname ∧
      schema.package = d.module.package := by
  have hexec : exec (Resolving.schema s d) [] = (.ok schema, _) := Prod.ext h rfl
  rw [Resolving.schema] at hexec
  split at hexec
  · obtain ⟨_, _, hthrown, -⟩ := exec_bind_ok_iff.mp hexec
    cases hthrown
  · next hclass =>
    obtain ⟨names, _, -, hexec⟩ := exec_bind_ok_iff.mp hexec
    obtain ⟨fields, _, -, hexec⟩ := exec_bind_ok_iff.mp hexec
    obtain rfl := Except.ok.inj (Prod.mk.inj hexec).1
    exact ⟨by simpa using hclass, rfl, rfl, rfl⟩

end FluentBuilder
