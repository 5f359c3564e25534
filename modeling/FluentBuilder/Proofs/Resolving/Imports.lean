import FluentBuilder.Proofs.Blueprint
import FluentBuilder.Proofs.Resolving.Fragments
import FluentBuilder.Proofs.Resolving.Reference
import FluentBuilder.Proofs.Resolving.Spelling

/-!
# The imports of a builder

The module of a builder imports the module of the class and the modules that the types of its fields are
written with, and no others, each once and in ascending order (`imports_cover_text`). What setters take is
written with no further module.

**The route.** Modules are collected from references, and written by their texts. These agree for settled
references, and whatever an annotation is resolved to is settled: a property of results that goes through
all ways to put parts together (`Settles`), and that holds of looking up a name that does not end with a
point (`settled_canonical`). In a tree that is read no name does (`Surroundings.spelled_ofTree`).
-/

namespace FluentBuilder

open Dotted Stateful Syntax

/-! ### Canonical references are settled -/

/-- What is named by the custom has a name, if the last segment is not empty. -/
theorem guessedSplit_snd_ne_empty {name : String} (h : lastSegment name ≠ "") :
    (guessedSplit name).2 ≠ "" := by
  by_cases hpoint : '.' ∈ name.toList
  · intro hempty
    rw [← guessedSplit_append hpoint, hempty, lastSegment_append] at h
    exact h (by decide)
  · have hlength : (segments name).length = 1 := by rw [segments_of_not_mem hpoint, List.length_singleton]
    rw [guessedSplit, if_neg (by omega)]
    exact h

/-- What a name of the library denotes has a name, too. -/
theorem libraryRef_qualname_ne_empty {name : String} (h : lastSegment name ≠ "") {known : Denotation}
    {ref : TypeRef} (href : libraryRef name known = some ref) : ref.qualname ≠ "" := by
  cases known with
  | value => exact Option.some.inj href ▸ guessedSplit_snd_ne_empty h
  | type module qualname =>
    rw [libraryRef] at href
    split at href
    · cases href
    · next hwritten =>
      have hname : qualname ≠ "" := by
        rintro rfl
        simp at hwritten
      obtain rfl := Option.some.inj href
      show (if hasPrivateSegment module then guessedSplit name else (module, qualname)).2 ≠ ""
      split
      · exact guessedSplit_snd_ne_empty h
      · exact hname

/-- The reference to a name that does not end with a point has a name. -/
theorem canonical_qualname_ne_empty (s : Surroundings) {name : String} (h : lastSegment name ≠ "") :
    (s.canonical name).qualname ≠ "" := by
  rw [Surroundings.canonical]
  dsimp only
  split
  · exact h
  · split
    · next ref href =>
      split at href
      · obtain ⟨known, -, hsome⟩ := Option.bind_eq_some_iff.mp href
        exact libraryRef_qualname_ne_empty h hsome
      · cases href
    · split
      · next module qualname hsplit =>
        rintro rfl
        rw [(Source.Tree.splitQualified_eq_some_iff.mp hsplit).1, lastSegment_append] at h
        exact h (by decide)
      · split
        · exact h
        · exact guessedSplit_snd_ne_empty h

/-- **The reference to a name that does not end with a point is settled.** -/
theorem settled_canonical (s : Surroundings) {name : String} (h : lastSegment name ≠ "") :
    (s.canonical name).Settled := by
  obtain ⟨hargs, hliteral⟩ := s.canonical_plain name
  have hname := canonical_qualname_ne_empty s h
  generalize s.canonical name = ref at hargs hliteral hname
  obtain ⟨module, qualname, args, primitive, literal⟩ := ref
  obtain rfl : args = [] := hargs
  obtain rfl : literal = none := hliteral
  exact .named hname fun a ha => absurd ha List.not_mem_nil

/-! ### Resolved references are settled -/

namespace TypeRef

/-- A settled base with settled arguments is settled. -/
theorem Settled.withArguments {base : TypeRef} (h : base.Settled) {args : List TypeRef}
    (hargs : ∀ a ∈ args, a.Settled) : (Resolving.withArguments base args).Settled := by
  cases h with
  | text text => exact .list hargs
  | list hother => exact .list hargs
  | named hname hother => exact .named hname hargs

/-- What a settled type has in the place of a member of a union is settled. -/
theorem Settled.unionMembers {r : TypeRef} (h : r.Settled) : ∀ a ∈ Resolving.unionMembers r, a.Settled := by
  rw [Resolving.unionMembers]
  split
  · exact h.args
  · exact fun a ha => List.mem_singleton.mp ha ▸ h

end TypeRef

namespace Resolving

variable {s : Surroundings} {qualify : String → String} {forward : CodePoints → Resolving TypeRef}
variable {α β : Type} {Q : α → Prop} {R : β → Prop}

/-- What a part comes to has a property, if no name that is looked up on the way ends with a point. -/
structure Settles (s : Surroundings) (Q : α → Prop) (part : Resolving α) : Prop where
  /-- The table does not matter. -/
  memoised : Memoised s part
  /-- Names stay in the table. -/
  grows : Keeps (fun table table' : Table TypeRef => table.names ⊆ table'.names) part
  /-- What it comes to has the property. -/
  result : ∀ table, Sound s table → (∀ name ∈ (exec part table).2.names, lastSegment name ≠ "") →
    ∀ a, (exec part table).1 = .ok a → Q a

namespace Settles

/-- What leaves the table alone and has the property. -/
theorem of_const {part : Resolving α} {result : Except ResolveFault α}
    (h : ∀ table, exec part table = (result, table)) (hresult : ∀ a, result = .ok a → Q a) :
    Settles s Q part where
  memoised := memoised_of_const h
  grows := Keeps.of_eq (fun table => List.Subset.refl table.names) fun table => by rw [h]
  result := fun table _ _ a ha => hresult a (by rw [← ha, h])

/-- A result. -/
theorem pure {a : α} (h : Q a) : Settles s Q (Pure.pure a : Resolving α) :=
  of_const (fun table => exec_pure a table) fun _ ha => Except.ok.inj ha ▸ h

/-- A fault. -/
theorem throw (fault : ResolveFault) : Settles s Q (throw fault : Resolving α) :=
  of_const (fun table => exec_throw fault table) fun _ ha => by cases ha

/-- One part after another: what the first one comes to has its property. -/
theorem bind {part : Resolving α} {next : α → Resolving β} (hpart : Settles s Q part)
    (hnext : ∀ a, Settles s (fun b => Q a → R b) (next a)) : Settles s R (part >>= next) where
  memoised := hpart.memoised.bind fun a => (hnext a).memoised
  grows := Keeps.bind (fun _ _ _ h h' => List.Subset.trans h h') hpart.grows fun a => (hnext a).grows
  result := by
    intro table hsound hnames b hb
    obtain ⟨a, table', hfirst, hsecond⟩ := exec_bind_ok_iff.mp (Prod.ext hb rfl)
    rw [exec_bind_of_ok hfirst] at hnames
    have hsound' : Sound s table' := by
      obtain ⟨_, hyields⟩ := hpart.memoised
      have hkept := (hyields table hsound).2
      rwa [hfirst] at hkept
    have hgrown : table'.names ⊆ (exec (next a) table').2.names := (hnext a).grows table'
    have hearlier : ∀ name ∈ (exec part table).2.names, lastSegment name ≠ "" := by
      rw [hfirst]
      exact fun name hname => hnames name (hgrown hname)
    have ha : Q a := hpart.result table hsound hearlier a (by rw [hfirst])
    exact (hnext a).result table' hsound' hnames b (by rw [hsecond]) ha

/-- A part of which less is asked. -/
theorem mono {Q' : α → Prop} {part : Resolving α} (h : Settles s Q part) (himp : ∀ a, Q a → Q' a) :
    Settles s Q' part :=
  ⟨h.memoised, h.grows, fun table hsound hnames a ha => himp a (h.result table hsound hnames a ha)⟩

/-- Looking up a name. -/
theorem name (s : Surroundings) (qualified : String) :
    Settles s TypeRef.Settled (Resolving.name s qualified) where
  memoised := memoised_name s qualified
  grows := ((closed_carries rfl).name qualified : Carries s s _ _).grows
  result := by
    intro table hsound hnames ref href
    obtain rfl := Except.ok.inj ((exec_name hsound qualified).1.symm.trans href)
    exact settled_canonical s (hnames qualified (mem_names_exec_name s qualified table))

/-- A text. -/
theorem written (e : Expr) : Settles s TypeRef.Settled (Resolving.written e) := by
  unfold Resolving.written
  split
  · exact pure (.text _)
  · exact throw _

/-- Texts. -/
theorem writtenAll (es : List Expr) : Settles s (∀ a ∈ ·, a.Settled) (Resolving.writtenAll es) := by
  induction es with
  | nil => exact pure fun a ha => absurd ha List.not_mem_nil
  | cons e rest ih =>
    rw [Resolving.writtenAll]
    exact (written e).bind fun ref => ih.bind fun refs => pure fun hrefs href =>
      List.forall_mem_cons.mpr ⟨href, hrefs⟩

mutual

/-- Annotations, if the quoted ones in them are settled. -/
theorem expr (hforward : ∀ value, Settles s TypeRef.Settled (forward value)) (e : Expr) :
    Settles s TypeRef.Settled (Resolving.expr s qualify forward e) := by
  unfold Resolving.expr
  split
  · exact pure (.named (by decide) fun a ha => absurd ha List.not_mem_nil)
  · exact pure (.text _)
  · exact hforward _
  · split
    · exact pure (.text _)
    · exact throw _
  · exact name _ _
  · split
    · exact name _ _
    · exact written _
  · next value index =>
    refine (expr hforward value).bind fun base => ?_
    split
    · next items =>
      split
      · exact (writtenAll items).bind fun refs => pure fun hrefs hbase => hbase.withArguments hrefs
      · split
        · cases items with
          | nil => exact pure fun hbase => hbase.withArguments fun a ha => absurd ha List.not_mem_nil
          | cons first rest =>
            exact (expr hforward first).bind fun ref => (writtenAll rest).bind fun refs =>
              pure fun hrefs href hbase => hbase.withArguments (List.forall_mem_cons.mpr ⟨href, hrefs⟩)
        · exact (arguments hforward items).bind fun refs => pure fun hrefs hbase =>
            hbase.withArguments hrefs
    · split
      · exact (written index).bind fun ref => pure fun href hbase =>
          hbase.withArguments (List.forall_mem_singleton.mpr href)
      · split
        · exact (expr hforward index).bind fun ref => pure fun href hbase =>
            hbase.withArguments (List.forall_mem_singleton.mpr href)
        · exact (argument hforward index).bind fun ref => pure fun href hbase =>
            hbase.withArguments (List.forall_mem_singleton.mpr href)
  · next left right =>
    refine (expr hforward left).bind fun l => (expr hforward right).bind fun r => pure fun hr hl => ?_
    exact .named (by decide) (List.forall_mem_append.mpr ⟨hl.unionMembers, hr.unionMembers⟩)
  · exact written _

/-- Arguments. -/
theorem argument (hforward : ∀ value, Settles s TypeRef.Settled (forward value)) (e : Expr) :
    Settles s TypeRef.Settled (Resolving.argument s qualify forward e) := by
  unfold Resolving.argument
  split
  · next items => exact (types hforward items).bind fun refs => pure fun hrefs => .list hrefs
  · exact expr hforward e

/-- Lists of arguments. -/
theorem arguments (hforward : ∀ value, Settles s TypeRef.Settled (forward value)) :
    (es : List Expr) → Settles s (∀ a ∈ ·, a.Settled) (Resolving.arguments s qualify forward es)
  | [] => by
    rw [Resolving.arguments]
    exact pure fun a ha => absurd ha List.not_mem_nil
  | e :: rest => by
    rw [Resolving.arguments]
    exact (argument hforward e).bind fun ref => (arguments hforward rest).bind fun refs =>
      pure fun hrefs href => List.forall_mem_cons.mpr ⟨href, hrefs⟩

/-- Lists of types. -/
theorem types (hforward : ∀ value, Settles s TypeRef.Settled (forward value)) :
    (es : List Expr) → Settles s (∀ a ∈ ·, a.Settled) (Resolving.types s qualify forward es)
  | [] => by
    rw [Resolving.types]
    exact pure fun a ha => absurd ha List.not_mem_nil
  | e :: rest => by
    rw [Resolving.types]
    exact (expr hforward e).bind fun ref => (types hforward rest).bind fun refs =>
      pure fun hrefs href => List.forall_mem_cons.mpr ⟨href, hrefs⟩

end

/-- Quoted annotations. -/
theorem quoted (depth : Nat) (value : CodePoints) :
    Settles s TypeRef.Settled (Resolving.quoted s qualify depth value) := by
  induction depth generalizing value with
  | zero => exact throw _
  | succ depth ih =>
    rw [Resolving.quoted]
    split
    · exact throw _
    · split
      · exact expr ih _
      · exact throw _
      · exact pure (.text _)

end Settles

/-- **Whatever an annotation is resolved to is settled**, if no name that is looked up for it ends with a
point. -/
theorem settled_of_hasType {k : Contribution} {type : TypeRef} (h : k.HasType s type)
    (hnames : ∀ name ∈ lookedUp s k.hint k.owner, lastSegment name ≠ "") : type.Settled :=
  (Settles.expr (fun _ => Settles.quoted _ _) k.hint).result [] (sound_nil s) hnames type
    (h [] (sound_nil s))

end Resolving

/-! ### Imports -/

section

variable {s : Surroundings} {d : Source.Declaration} {schema : Schema} {table : Table TypeRef}
variable {b : Blueprint}

/-- The declarations of a line are declarations of the tree. -/
theorem lineDeclarations_subset {tree : Source.Tree} (hd : d ∈ tree.declarations) (names : List String) :
    lineDeclarations tree d names ⊆ tree.declarations := by
  refine List.cons_subset.mpr ⟨hd, fun c hc => ?_⟩
  obtain ⟨name, -, hfound⟩ := List.mem_filterMap.mp hc
  exact List.mem_reverse.mp (List.mem_of_find?_eq_some hfound)

/-- The types of the fields of a schema are settled. -/
theorem settled_of_mem_fields (hspelled : s.Spelled) (hd : d ∈ s.tree.declarations)
    (hsound : Resolving.Sound s table) (h : (exec (Resolving.schema s d) table).1 = .ok schema) :
    ∀ f ∈ schema.fields, f.type.Settled := by
  intro f hf
  obtain ⟨names, -, hreadable, -, -, -, htypes⟩ := fields_of_schema hsound h
  obtain ⟨last, hlast, -, htype⟩ := htypes f hf
  -- The last contribution of the name is an own field of a class of the line.
  have hwalk := List.mem_of_mem_filter (List.mem_of_getLast? hlast)
  obtain ⟨c, hc, hgiven⟩ := List.mem_flatMap.mp hwalk
  rw [List.mem_reverse] at hc
  obtain ⟨own, hown⟩ := hreadable c hc
  rw [contributions_of_ok hown] at hgiven
  obtain ⟨field, hfield, rfl⟩ := List.mem_map.mp hgiven
  exact Resolving.settled_of_hasType htype
    (hspelled c (lineDeclarations_subset hd names hc) own hown field hfield)

/-- What is left of a list without repetitions has none. -/
theorem nodup_eraseDups {α : Type} [BEq α] [LawfulBEq α] (xs : List α) : xs.eraseDups.Nodup := by
  induction hn : xs.length using Nat.strong_induction_on generalizing xs with
  | _ n ih =>
    cases xs with
    | nil => exact .nil
    | cons x xs =>
      rw [List.length_cons] at hn
      have hlength := List.length_filter_le (fun y => !y == x) xs
      rw [List.eraseDups_cons, List.nodup_cons, List.mem_eraseDups, List.mem_filter]
      exact ⟨by simp, ih _ (by omega) _ rfl⟩

/-- The modules that a builder imports stand in ascending order, each once. -/
theorem pairwise_imports (hb : Blueprint.ofSchema schema = .ok b) : b.imports.Pairwise (· < ·) := by
  obtain ⟨-, -, -, -, -, -, himports⟩ := Schema.ofSchema_eq_ok hb
  rw [himports, sortedNames]
  refine pairwise_lt_of_nodup (pairwise_sortedBy _) ?_
  rw [List.map_id', (perm_sortedBy _).nodup_iff]
  exact (nodup_eraseDups _).filter _

/-- The modules that a builder imports are that of the class and those that the types of the fields ask
for, without that of the tools. -/
theorem mem_imports_iff (hb : Blueprint.ofSchema schema = .ok b) {module : String} :
    module ∈ b.imports ↔
      (module = b.targetModule ∨ ∃ p ∈ b.members, module ∈ p.type.modules) ∧ module ≠ runtimeModule := by
  obtain ⟨-, -, -, -, htarget, hmembers, himports⟩ := Schema.ofSchema_eq_ok hb
  rw [himports, sortedNames, mem_sortedBy, List.mem_filter, List.mem_eraseDups, List.mem_cons,
    List.mem_flatMap, htarget, hmembers, bne_iff_ne]
  simp

/-- **The imports of a builder are what its text needs.** They stand in ascending order, each once. A module
is imported iff it is that of the class, or the type of a field is written with it. The texts of types are
those of their fragments, and what a setter takes is written with imported modules only. -/
theorem imports_cover_text (hspelled : s.Spelled) (hd : d ∈ s.tree.declarations)
    (hsound : Resolving.Sound s table) (h : (exec (Resolving.schema s d) table).1 = .ok schema)
    (hb : Blueprint.ofSchema schema = .ok b) (hmodule : b.targetModule ≠ runtimeModule)
    (hfields : ∀ p ∈ b.members, runtimeModule ∉ p.type.writtenModules) :
    b.imports.Pairwise (· < ·) ∧
    (∀ module, module ∈ b.imports ↔
      module = b.targetModule ∨ ∃ p ∈ b.members, module ∈ p.type.writtenModules) ∧
    (∀ p ∈ b.members, p.type.render = Fragment.renderAll p.type.fragments ∧
      p.setterType.render = Fragment.renderAll p.setterType.fragments) ∧
    ∀ p ∈ b.members, ∀ module ∈ p.setterType.writtenModules, module ∈ b.imports := by
  have hsettled : ∀ p ∈ b.members, p.type.Settled := by
    obtain ⟨-, -, -, -, -, hmembers, -⟩ := Schema.ofSchema_eq_ok hb
    rw [hmembers, List.forall_mem_map]
    exact settled_of_mem_fields hspelled hd hsound h
  have himports : ∀ module, module ∈ b.imports ↔
      module = b.targetModule ∨ ∃ p ∈ b.members, module ∈ p.type.writtenModules := by
    intro module
    have hwritten : (∃ p ∈ b.members, module ∈ p.type.modules) ↔
        ∃ p ∈ b.members, module ∈ p.type.writtenModules :=
      exists_congr fun p => and_congr_right fun hp => (hsettled p hp).mem_modules_iff
    rw [mem_imports_iff hb, hwritten, and_iff_left_iff_imp]
    rintro (rfl | ⟨p, hp, hmem⟩)
    · exact hmodule
    · rintro rfl
      exact hfields p hp hmem
  refine ⟨pairwise_imports hb, himports, fun p _ => ⟨p.type.render_eq_renderAll,
    p.setterType.render_eq_renderAll⟩, fun p hp module hmem => ?_⟩
  have hasked : module ∈ p.type.modules :=
    p.type.modules_nonNull_subset ((hsettled p hp).nonNull.mem_modules_iff.mpr hmem)
  exact (himports module).mpr (.inr ⟨p, hp, (hsettled p hp).mem_modules_iff.mp hasked⟩)

end

/-! ### A class with imports from several modules -/

open Source

/-- An annotation of an optional type. -/
def motorHint : Expr := .binary .bitOr (.name "Motor") (.constant .none)

/-- An annotation with a list of types and a type for arguments. -/
def loadHint : Expr := .subscript (.name "Box") (.tuple [.list [.name "Crate"], .name "Nut"])

/-- A module with a class and with imports from other modules. -/
def cratesModule : Module :=
  ⟨"shop.crates", .ofText "shop/crates.py", false,
    [.importFrom (some "shop.parts") [⟨"Box", none⟩, ⟨"Motor", none⟩] 0,
      .importFrom (some "shop.tools") [⟨"Nut", none⟩] 0,
      .classDef "Crate" [] []
        [.annotated (.name "motor") motorHint none, .annotated (.name "load") loadHint none] ⟨3, 0⟩]⟩

/-- The class. -/
def crate : Declaration :=
  ⟨cratesModule, [], "Crate", [], ⟨3, 0⟩, .classDef []
    [.annotated (.name "motor") motorHint none, .annotated (.name "load") loadHint none]⟩

/-- The tree of the module. -/
def cratesTree : Tree := ⟨[("shop.crates", cratesModule)]⟩

/-- The type of the first field. -/
def motorType : TypeRef :=
  { TypeRef.named "typing" "Union" with args := [.named "shop.parts" "Motor", .none] }

/-- The type of the second field. -/
def loadType : TypeRef :=
  { TypeRef.named "shop.parts" "Box" with
    args := [{ TypeRef.named "" "" with args := [.named "shop.crates" "Crate"] },
      .named "shop.tools" "Nut"] }

/-- The schema of the class. -/
def crateSchema : Schema :=
  ⟨"shop.crates", "Crate", "shop",
    [⟨"motor", motorType, "shop.crates.Crate"⟩, ⟨"load", loadType, "shop.crates.Crate"⟩]⟩

/-- The own fields of the class. -/
theorem ownFields_crate :
    ownFields (.ofTree cratesTree) crate = .ok [("motor", motorHint), ("load", loadHint)] := rfl

/-- What the names in the annotations stand for. -/
theorem qualify_crate :
    ["Motor", "Box", "Crate", "Nut"].map (cratesTree.qualify crate.module crate.innerScope) =
      ["shop.parts.Motor", "shop.parts.Box", "shop.crates.Crate", "shop.tools.Nut"] := by
  decide +kernel

/-- The references to these names. -/
theorem canonical_crate :
    ["shop.parts.Motor", "shop.parts.Box", "shop.crates.Crate", "shop.tools.Nut"].map
        (Surroundings.ofTree cratesTree).canonical =
      [.named "shop.parts" "Motor", .named "shop.parts" "Box", .named "shop.crates" "Crate",
        .named "shop.tools" "Nut"] := by
  have howns : ∀ name, (splitHead name).1 = "shop" →
      (Surroundings.ofTree cratesTree).library.owns name = false := fun _ => not_owns_of_head_shop
  simp only [List.map_cons, List.map_nil]
  rw [canonical_of_not_owns (howns "shop.parts.Motor" (by decide +kernel)),
    canonical_of_not_owns (howns "shop.parts.Box" (by decide +kernel)),
    canonical_of_not_owns (howns "shop.crates.Crate" (by decide +kernel)),
    canonical_of_not_owns (howns "shop.tools.Nut" (by decide +kernel))]
  rfl

/-- The tree is one that can be read. -/
theorem spelled_crates : cratesTree.Spelled where
  named := by decide
  body := by
    have hnames : ∀ name ∈ ["Box", "Motor", "Nut", "Crate", "motor", "load"], Text.IsSegment name := by
      simp [Text.IsSegment, Text.IsSeparator]
    simp only [List.forall_mem_cons, List.not_mem_nil, false_imp_iff, implies_true, and_true] at hnames
    obtain ⟨hbox, hmotor, hnut, hcrate, hfield, hfield'⟩ := hnames
    intro entry hentry
    obtain rfl := List.mem_singleton.mp hentry
    refine List.forall_mem_cons.mpr ⟨.importFrom ?_, List.forall_mem_cons.mpr ⟨.importFrom ?_,
      List.forall_mem_singleton.mpr (.classDef hcrate ?_)⟩⟩
    · simp [hbox, hmotor]
    · simp [hnut]
    · have hlist : (Expr.list [.name "Crate"]).Spelled := .list (List.forall_mem_singleton.mpr (.name hcrate))
      have hitems : (Expr.tuple [.list [.name "Crate"], .name "Nut"]).Spelled :=
        .tuple (List.forall_mem_cons.mpr ⟨hlist, List.forall_mem_singleton.mpr (.name hnut)⟩)
      exact List.forall_mem_cons.mpr ⟨.annotated (.name hfield) (.either (.name hmotor) (.plain rfl)),
        List.forall_mem_singleton.mpr (.annotated (.name hfield') (.subscript (.name hbox) hitems))⟩

/-- What the annotations are resolved to. -/
theorem reference_crate :
    Resolving.reference (.ofTree cratesTree) (cratesTree.qualify crate.module crate.innerScope) motorHint =
        .ok motorType ∧
      Resolving.reference (.ofTree cratesTree) (cratesTree.qualify crate.module crate.innerScope) loadHint =
        .ok loadType := by
  have hqualify := qualify_crate
  have hcanonical := canonical_crate
  simp only [List.map_cons, List.map_nil, List.cons.injEq, and_true] at hqualify hcanonical
  obtain ⟨hmotor, hbox, hcrate, hnut⟩ := hqualify
  obtain ⟨hmotorRef, hboxRef, hcrateRef, hnutRef⟩ := hcanonical
  have hname : ∀ id, Resolving.reference (.ofTree cratesTree)
      (cratesTree.qualify crate.module crate.innerScope) (.name id) =
        .ok ((Surroundings.ofTree cratesTree).canonical
          (cratesTree.qualify crate.module crate.innerScope id)) := fun id =>
    Resolving.reference_dottedName (dottedName_name id)
  constructor
  · rw [motorHint, Resolving.reference_either, hname, hmotor, hmotorRef, Resolving.reference_none]
    rfl
  · rw [loadHint, Resolving.reference_subscript, hname, hbox, hboxRef, Except.bind,
      Resolving.argumentReferences, if_neg (by decide), if_neg (by decide), Resolving.indexItems,
      Outcome.mapM_cons, Outcome.mapM_cons, Resolving.argumentReference_list,
      Resolving.argumentReference_of_not_list rfl, Outcome.mapM_cons, hname, hname, hcrate, hcrateRef, hnut,
      hnutRef]
    rfl

/-- The class has this schema. -/
theorem schema_crate : (exec (Resolving.schema (.ofTree cratesTree) crate) []).1 = .ok crateSchema := by
  have hline : lineage cratesTree crate = .ok ["shop.crates.Crate"] := by decide +kernel
  have hdeclarations : lineDeclarations cratesTree crate ["shop.crates.Crate"] = [crate] := rfl
  obtain ⟨hmotor, hload⟩ := reference_crate
  refine (Resolving.schema_eq_ok_iff (Resolving.sound_nil _)).mpr
    ⟨rfl, ["shop.crates.Crate"], crateSchema.fields, hline, ?_, ?_, rfl⟩
  · exact fun c hc => ⟨_, List.mem_singleton.mp hc ▸ ownFields_crate⟩
  · show List.Forall₂ _ (walk _ (lineDeclarations cratesTree crate ["shop.crates.Crate"])) _
    rw [hdeclarations, walk_singleton, contributions_of_ok ownFields_crate]
    refine .cons ⟨rfl, by decide +kernel, fun table hsound => ?_⟩
      (.cons ⟨rfl, by decide +kernel, fun table hsound => ?_⟩ .nil)
    · exact (Resolving.exec_hint hsound motorHint crate).trans hmotor
    · exact (Resolving.exec_hint hsound loadHint crate).trans hload

/-- The builder of the class imports the modules that the types are written with. The module of unions is
not among them, since `|` is written for these. -/
theorem imports_cover_text_crate :
    ∃ b, Blueprint.ofSchema crateSchema = .ok b ∧
      b.members.map (·.type.render) =
        ["shop.parts.Motor | None", "shop.parts.Box[[shop.crates.Crate], shop.tools.Nut]"] ∧
      b.imports.Pairwise (· < ·) ∧
      (∀ module, module ∈ b.imports ↔ module ∈ ["shop.crates", "shop.parts", "shop.tools"]) ∧
      ∀ p ∈ b.members, ∀ module ∈ p.setterType.writtenModules, module ∈ b.imports := by
  obtain ⟨b, hb⟩ : ∃ b, Blueprint.ofSchema crateSchema = .ok b := ⟨_, rfl⟩
  obtain ⟨-, -, -, -, htarget, hmembers, -⟩ := Schema.ofSchema_eq_ok hb
  have hmodules : b.members.map (·.type.writtenModules) =
      [["shop.parts"], ["shop.parts", "shop.crates", "shop.tools"]] := by
    rw [hmembers]
    decide +kernel
  have hruntime : ∀ p ∈ b.members, runtimeModule ∉ p.type.writtenModules := by
    rw [hmembers]
    decide +kernel
  obtain ⟨hordered, himports, -, hsetter⟩ :=
    imports_cover_text (Surroundings.spelled_ofTree spelled_crates) (List.mem_singleton.mpr rfl)
      (Resolving.sound_nil _) schema_crate hb
      (by rw [htarget]; decide) hruntime
  refine ⟨b, hb, by rw [hmembers]; decide +kernel, hordered, fun module => ?_, hsetter⟩
  have hwritten : (∃ p ∈ b.members, module ∈ p.type.writtenModules) ↔
      ∃ modules ∈ b.members.map (·.type.writtenModules), module ∈ modules := by
    simp
  rw [himports, hwritten, hmodules, htarget, crateSchema]
  simp
  grind

end FluentBuilder
