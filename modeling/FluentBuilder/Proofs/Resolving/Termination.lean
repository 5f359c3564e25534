import FluentBuilder.Proofs.Resolving.Reference

/-!
# Resolving comes to an end

Types and arguments are resolved by two functions that call each other, and themselves for the parts of
an annotation and for what is read from a quoted one. `Call.body` is what one call does, with no bound on
the calls inside each other, and `Call.inner` are the calls that it makes. The bound that quoted
annotations are resolved with here is no part of that, and it decides nothing: what annotations are
resolved to is the one solution of the unbounded recursion, and each call is answered within finitely many
others, whatever it is a call for (`calls_terminate`). All that is asked for is that the texts in what is
read from a text are shorter than that text.

**The route.** A call is inside another one because it is for what is read from a text that the other one
holds, or because it is for a part (`read_or_part`). A part holds no texts but those of the whole, and it is
lighter (`Call.weight`). What is read may be heavier than all before it, but holds shorter texts only. So
calls are inside each other to a finite depth, by induction on a bound of the texts, and within it by
induction on the weight (`calls_wellFounded`). From this, and from what a call depends on (`body_congr`),
the rest follows by induction on calls.
-/

namespace FluentBuilder.Resolving

open Syntax Stateful

variable {s : Surroundings} {qualify : String → String} {e : Expr}

/-! ### Calls -/

/-- A call of one of the two functions. -/
inductive Call where
  /-- For the reference of a type. -/
  | type (e : Expr)
  /-- For the reference of an argument, which may be a list of types. -/
  | argument (e : Expr)

namespace Call

/-- What a call is for. -/
def subject : Call → Expr
  | .type e => e
  | .argument e => e

/-- How much a call has to go through; that of an argument has its type still before it. -/
noncomputable def weight : Call → Nat
  | .type e => 2 * sizeOf e
  | .argument e => 2 * sizeOf e + 1

/-- The calls that a call may make. What is read from a quoted annotation is resolved in its place; which
items of an index are resolved, and whether as types or as arguments, depends on the base. -/
def inner (s : Surroundings) : Call → List Call
  | .type (.constant (.text v _)) =>
    match (stripped v).toText with
    | .error _ => []
    | .ok text =>
      match s.parse text with
      | .ok e => [.type e]
      | .error _ => []
  | .type (.subscript value index) =>
    .type value :: (indexItems index).flatMap fun e => [.type e, .argument e]
  | .type (.binary .bitOr left right) => [.type left, .type right]
  | .type _ => []
  | .argument (.list items) => items.map .type
  | .argument e => [.type e]

/-- A text as a reference, unless it cannot be written. -/
def textOrFault : Except RenderFault String → Resolving TypeRef
  | .ok text => return .ofLiteral text
  | .error fault => throw (.unwritable fault)

/-- The references of the arguments of a base. -/
def baseArguments (resolve : Call → Resolving TypeRef) (base : TypeRef) (items : List Expr) :
    Resolving (List TypeRef) :=
  if literalForms.contains base.name then writtenAll items
  else if annotatedForms.contains base.name then
    match items with
    | [] => return []
    | first :: rest => do
      let ref ← resolve (.type first)
      return ref :: (← writtenAll rest)
  else items.mapM fun e => resolve (.argument e)

/-- What a call does, `resolve` being what it calls. -/
def body (s : Surroundings) (qualify : String → String) (resolve : Call → Resolving TypeRef) :
    Call → Resolving TypeRef
  | .type (.constant (.text v _)) =>
    match (stripped v).toText with
    | .error run => throw (.surrogates run)
    | .ok text =>
      match s.parse text with
      | .ok e => resolve (.type e)
      | .error .nullCharacter => throw .nullCharacter
      | .error (.fault _) => return .ofLiteral (Quoted.text v)
  | .type (.constant .none) => return .none
  | .type (.constant .ellipsis) => return .ofLiteral "..."
  | .type (.constant value) => textOrFault value.render
  | .type (.name id) => name s (qualify id)
  | .type (.attribute value member) =>
    match (Expr.attribute value member).dottedName with
    | some dotted => name s (qualify dotted)
    | none => written (.attribute value member)
  | .type (.subscript value index) => do
    let base ← resolve (.type value)
    return withArguments base (← baseArguments resolve base (indexItems index))
  | .type (.binary .bitOr left right) => do
    let left ← resolve (.type left)
    let right ← resolve (.type right)
    return { TypeRef.named "typing" "Union" with args := unionMembers left ++ unionMembers right }
  | .type e => written e
  | .argument (.list items) => do
    return { TypeRef.named "" "" with args := ← items.mapM fun e => resolve (.type e) }
  | .argument e => resolve (.type e)

/-- The recursion, cut off where calls are inside each other to some depth. -/
def within (s : Surroundings) (qualify : String → String) : (depth : Nat) → Call → Resolving TypeRef
  | 0, _ => throw .tooDeep
  | depth + 1, call => body s qualify (within s qualify depth) call

/-- What a call comes to. -/
def run (s : Surroundings) (qualify : String → String) : Call → Resolving TypeRef
  | .type e => hintWith s qualify e
  | .argument e => Resolving.argument s qualify (fun v => quoted s qualify (v.length + 1) v) e

variable {call next : Call} {resolve resolve' : Call → Resolving TypeRef}

/-! ### Calls inside each other -/

/-- The only call inside that for a quoted annotation is for what is read from it. -/
theorem mem_inner_text {v : CodePoints} {marked : Bool} :
    next ∈ (Call.type (.constant (.text v marked))).inner s ↔ ∃ e, s.Reads v e ∧ next = .type e := by
  rw [inner]
  constructor
  · intro h
    split at h
    · cases h
    · next text htext =>
      split at h
      · next e he => exact ⟨e, ⟨text, htext, he⟩, List.mem_singleton.mp h⟩
      · cases h
  · rintro ⟨e, ⟨text, htext, he⟩, rfl⟩
    simp [htext, he]

/-- The calls inside that for an annotation with arguments are for its base and for items of its index. -/
theorem mem_inner_subscript {value index : Expr} :
    next ∈ (Call.type (.subscript value index)).inner s ↔
      next = .type value ∨ ∃ e ∈ indexItems index, next = .type e ∨ next = .argument e := by
  simp [inner]

/-- A call inside another one is for what is read from a text, or it is for a part: it is lighter, and it
holds no other texts. -/
theorem read_or_part (h : next ∈ call.inner s) :
    (∃ v e, call.subject.Holds v ∧ s.Reads v e ∧ next = .type e) ∨
      (next.weight < call.weight ∧ ∀ v, next.subject.Holds v → call.subject.Holds v) := by
  cases call with
  | type e =>
    cases e with
    | constant value =>
      cases value with
      | text v marked =>
        obtain ⟨e, hreads, rfl⟩ := mem_inner_text.mp h
        exact .inl ⟨v, e, .text marked, hreads, rfl⟩
      | _ => cases h
    | subscript value index =>
      right
      rcases mem_inner_subscript.mp h with rfl | ⟨e, he, heq⟩
      · refine ⟨?_, fun v hv => hv.value⟩
        simp only [weight, Expr.subscript.sizeOf_spec]
        omega
      · have hsmaller : sizeOf e < sizeOf (Expr.subscript value index) := sizeOf_lt_of_mem_indexItems he
        have hheld : ∀ v, e.Holds v → (Expr.subscript value index).Holds v :=
          fun v => holds_of_mem_indexItems he
        rcases heq with rfl | rfl
        · exact ⟨by simp only [weight]; omega, hheld⟩
        · exact ⟨by simp only [weight]; omega, hheld⟩
    | binary op left right =>
      cases op with
      | bitOr =>
        right
        rcases List.mem_pair.mp h with rfl | rfl
        · refine ⟨?_, fun v hv => hv.left⟩
          simp only [weight, Expr.binary.sizeOf_spec]
          omega
        · refine ⟨?_, fun v hv => hv.right⟩
          simp only [weight, Expr.binary.sizeOf_spec]
          omega
      | _ => cases h
    | _ => cases h
  | argument e =>
    right
    cases e with
    | list items =>
      obtain ⟨e, he, rfl⟩ := List.mem_map.mp h
      have hsmaller := List.sizeOf_lt_of_mem he
      refine ⟨?_, fun v hv => .list he hv⟩
      simp only [weight, Expr.list.sizeOf_spec]
      omega
    | _ =>
      obtain rfl := List.mem_singleton.mp h
      exact ⟨Nat.lt_succ_self _, fun v hv => hv⟩

/-- **Calls are inside each other to a finite depth.** -/
theorem calls_wellFounded (hs : s.Shortens) :
    WellFounded fun next call : Call => next ∈ call.inner s := by
  have hacc : ∀ n w (call : Call), call.subject.HoldsBelow n → call.weight = w →
      Acc (fun next call : Call => next ∈ call.inner s) call := by
    intro n
    induction n using Nat.strong_induction_on with
    | _ n ihlength =>
    intro w
    induction w using Nat.strong_induction_on with
    | _ w ihweight =>
    intro call hbelow hweight
    refine Acc.intro call fun next hnext => ?_
    -- What is read may be heavier than the whole annotation, but its texts are shorter than `v`.
    rcases read_or_part hnext with ⟨v, e, hv, hreads, rfl⟩ | ⟨hlighter, hheld⟩
    · exact ihlength v.length (hbelow v hv) _ (.type e) (hs.holdsBelow hreads) rfl
    · exact ihweight next.weight (hweight ▸ hlighter) next (fun v hv => hbelow v (hheld v hv)) rfl
  exact ⟨fun call => hacc (sizeOf call.subject) _ call (fun v => length_lt_of_holds) rfl⟩

/-! ### What calls do -/

section

variable {P : {α : Type} → Resolving α → Resolving α → Prop}

/-- What composes holds of one part for each item. -/
theorem mapM_composes (h : Composes s s P) {items : List Expr} {f f' : Expr → Resolving TypeRef}
    (hitems : ∀ e ∈ items, P (f e) (f' e)) : P (items.mapM f) (items.mapM f') := by
  induction items with
  | nil => exact h.pure _
  | cons e rest ih =>
    rw [List.mapM_cons, List.mapM_cons]
    exact h.bind (hitems e List.mem_cons_self) fun _ =>
      h.bind (ih fun e' he => hitems e' (List.mem_cons_of_mem e he)) fun _ => h.pure _

/-- It holds of the arguments of a base if it holds of the calls for them. -/
theorem baseArguments_composes (h : Composes s s P) (base : TypeRef) {items : List Expr}
    (hitems : ∀ e ∈ items, ∀ next, next = .type e ∨ next = .argument e →
      P (resolve next) (resolve' next)) :
    P (baseArguments resolve base items) (baseArguments resolve' base items) := by
  unfold Call.baseArguments
  split
  · exact h.writtenAll items
  split
  · cases items with
    | nil => exact h.pure _
    | cons first rest =>
      exact h.bind (hitems first List.mem_cons_self _ (.inl rfl)) fun _ =>
        h.bind (h.writtenAll rest) fun _ => h.pure _
  · exact mapM_composes h fun e he => hitems e he _ (.inr rfl)

/-- **It holds of what a call does if it holds of the calls inside it.** -/
theorem body_composes (h : Composes s s P) (call : Call)
    (hinner : ∀ next ∈ call.inner s, P (resolve next) (resolve' next)) :
    P (body s qualify resolve call) (body s qualify resolve' call) := by
  unfold Call.body
  split
  · next v marked =>
    split
    · exact h.throw ResolveFault.noConfusion
    · next text htext =>
      split
      · next e he => exact hinner _ (mem_inner_text.mpr ⟨e, ⟨text, htext, he⟩, rfl⟩)
      · exact h.throw ResolveFault.noConfusion
      · exact h.pure _
  · exact h.pure _
  · exact h.pure _
  · unfold textOrFault
    split
    · exact h.pure _
    · exact h.throw ResolveFault.noConfusion
  · exact h.name _
  · split
    · exact h.name _
    · exact h.written _
  · next value index =>
    refine h.bind (hinner _ (mem_inner_subscript.mpr (.inl rfl))) fun base => ?_
    refine h.bind (baseArguments_composes h base fun e he next hnext => ?_) fun _ => h.pure _
    exact hinner next (mem_inner_subscript.mpr (.inr ⟨e, he, hnext⟩))
  · next left right =>
    refine h.bind (hinner _ List.mem_cons_self) fun _ => ?_
    exact h.bind (hinner _ (List.mem_cons_of_mem _ List.mem_cons_self)) fun _ => h.pure _
  · exact h.written _
  · next items =>
    exact h.bind (mapM_composes h fun e he => hinner _ (List.mem_map_of_mem he)) fun _ => h.pure _
  · next e hlist =>
    cases e with
    | list items => exact absurd rfl (hlist items)
    | _ => exact hinner _ List.mem_cons_self

end

/-- Being the same composes. -/
theorem composes_eq (s : Surroundings) :
    Composes s s fun {α : Type} (part part' : Resolving α) => part = part' where
  pure _ := rfl
  throw _ := rfl
  bind := by
    rintro α β part part' next next' rfl hnext
    exact bind_congr hnext
  name _ := rfl

/-- Looking up a name never fails, whatever the table. -/
theorem exists_exec_name (s : Surroundings) (qualified : String) (table : Table TypeRef) :
    ∃ ref table', exec (name s qualified) table = (.ok ref, table') := by
  rw [name, exec_bind_of_ok (exec_get table)]
  cases table.find? qualified with
  | some ref => exact ⟨ref, table, rfl⟩
  | none => exact ⟨_, _, rfl⟩

/-- Not to meet the bound composes. -/
theorem composes_failsWith (s : Surroundings) :
    Composes s s fun {α : Type} (part _ : Resolving α) => FailsWith (· ≠ .tooDeep) part where
  pure a := FailsWith.of_ok fun table => ⟨a, table, rfl⟩
  throw hfault := FailsWith.throw hfault
  bind := FailsWith.bind
  name qualified := FailsWith.of_ok (exists_exec_name s qualified)

/-- **A call depends only on the calls inside it.** -/
theorem body_congr (h : ∀ next ∈ call.inner s, resolve next = resolve' next) :
    body s qualify resolve call = body s qualify resolve' call :=
  body_composes (composes_eq s) call h

/-- A call meets the bound only if a call inside it does. -/
theorem failsWith_body (h : ∀ next ∈ call.inner s, FailsWith (· ≠ .tooDeep) (resolve next)) :
    FailsWith (· ≠ .tooDeep) (body s qualify resolve call) := by
  have hcomposes := composes_failsWith s
  apply body_composes hcomposes call
  exacts [h, resolve]

/-! ### What annotations are resolved to -/

/-- Types are resolved one by one. -/
theorem types_eq_mapM (forward : CodePoints → Resolving TypeRef) (items : List Expr) :
    types s qualify forward items = items.mapM (expr s qualify forward) := by
  induction items with
  | nil => rw [types]; rfl
  | cons e rest ih => rw [types, List.mapM_cons, ih]

/-- Arguments are resolved one by one. -/
theorem arguments_eq_mapM (forward : CodePoints → Resolving TypeRef) (items : List Expr) :
    arguments s qualify forward items = items.mapM (Resolving.argument s qualify forward) := by
  induction items with
  | nil => rw [arguments]; rfl
  | cons e rest ih => rw [arguments, List.mapM_cons, ih]

/-- What a quoted annotation comes to is what a call for it does. -/
theorem run_text (hs : s.Shortens) (v : CodePoints) (marked : Bool) :
    run s qualify (.type (.constant (.text v marked))) =
      body s qualify (run s qualify) (.type (.constant (.text v marked))) := by
  have hquoted : run s qualify (.type (.constant (.text v marked))) =
      quoted s qualify (v.length + 1) v := by
    rw [run, hintWith, expr]
  rcases readings s v with ⟨run, hrun⟩ | ⟨e, he⟩ | ⟨text, htext, hnull | ⟨fault, hfault⟩⟩
  · simp only [hquoted, quoted_of_surrogates hrun, body, hrun]
  · have hread : hintWith s qualify (.constant (.text v marked)) = hintWith s qualify e :=
      hintWith_of_reads hs he marked
    obtain ⟨text, htext, hparse⟩ := he
    simpa only [run, body, htext, hparse] using hread
  · simp only [hquoted, quoted_of_null htext hnull, body, htext, hnull]
  · simp only [hquoted, quoted_of_fault htext hfault, body, htext, hfault]

/-- **What a call comes to is what it does**: what annotations are resolved to with a bound is a solution of
the recursion without one. -/
theorem run_eq_body (hs : s.Shortens) (call : Call) :
    run s qualify call = body s qualify (run s qualify) call := by
  cases call with
  | type e =>
    cases e with
    | constant value =>
      cases value with
      | text v marked => exact run_text hs v marked
      | none | ellipsis => simp only [run, hintWith, expr, body]
      | _ =>
        simp only [run, hintWith, expr, body]
        -- The text is not to be evaluated, which is as long as numbers may be.
        generalize Constant.render _ = text
        cases text <;> rfl
    | «attribute» value member =>
      cases hname : (Expr.attribute value member).dottedName with
      | some dotted => simp only [run, hintWith, expr, body, hname]
      | none => simp only [run, hintWith, expr, body, hname]
    | subscript value index =>
      simp only [run, hintWith, expr_subscript, body, argumentRefs, baseArguments, arguments_eq_mapM]
      rfl
    | binary op left right =>
      cases op with
      | bitOr => simp only [run, hintWith, expr, body]
      | _ => simp only [run, hintWith, expr, body]
    | _ => simp only [run, hintWith, expr, body]
  | argument e =>
    cases e with
    | list items => simp only [run, Resolving.argument, body, types_eq_mapM]; rfl
    | _ => simp only [run, Resolving.argument, body, hintWith]

/-! ### Termination -/

/-- **Every call is answered within finitely many others**, by induction on the calls inside each other. -/
theorem exists_within (hs : s.Shortens) (call : Call) :
    ∃ depth, ∀ more, within s qualify (depth + more) call = run s qualify call := by
  induction call using (calls_wellFounded hs).induction
  next call ih =>
  obtain ⟨depth, hdepth⟩ : ∃ depth, ∀ next ∈ call.inner s, ∀ more,
      within s qualify (depth + more) next = run s qualify next := by
    generalize call.inner s = calls at ih ⊢
    induction calls with
    | nil => exact ⟨0, fun next hnext => absurd hnext List.not_mem_nil⟩
    | cons first rest ihrest =>
      obtain ⟨depth, hfirst⟩ := ih first List.mem_cons_self
      obtain ⟨depth', hrest⟩ := ihrest fun next hnext => ih next (List.mem_cons_of_mem _ hnext)
      refine ⟨depth + depth', fun next hnext more => ?_⟩
      rcases List.mem_cons.mp hnext with rfl | hmem
      · rw [Nat.add_assoc, hfirst]
      · rw [Nat.add_comm depth, Nat.add_assoc, hrest next hmem]
  refine ⟨depth + 1, fun more => ?_⟩
  rw [Nat.add_right_comm, within, run_eq_body hs]
  exact body_congr fun next hnext => hdepth next hnext more

/-- No call meets the bound, whatever is in the table. -/
theorem failsWith_run (hs : s.Shortens) (call : Call) :
    FailsWith (· ≠ .tooDeep) (run s qualify call) := by
  induction call using (calls_wellFounded hs).induction
  next call ih =>
  rw [run_eq_body hs]
  exact failsWith_body ih

/-- **Resolving comes to an end.** If the texts in what is read from a text are shorter than it, calls are
inside each other to a finite depth, and a call depends only on those inside it. What calls come to is the
one solution of the recursion, which every call reaches if the recursion is cut off deep enough, and no
call fails because of a bound. -/
theorem calls_terminate (hs : s.Shortens) (qualify : String → String) :
    (WellFounded fun next call : Call => next ∈ call.inner s) ∧
    (∀ (call : Call) (resolve resolve' : Call → Resolving TypeRef),
      (∀ next ∈ call.inner s, resolve next = resolve' next) →
        body s qualify resolve call = body s qualify resolve' call) ∧
    (∀ resolve : Call → Resolving TypeRef,
      resolve = body s qualify resolve ↔ resolve = run s qualify) ∧
    (∀ call, ∃ depth, ∀ more, within s qualify (depth + more) call = run s qualify call) ∧
    ∀ call table, (exec (run s qualify call) table).1 ≠ .error .tooDeep := by
  refine ⟨calls_wellFounded hs, fun call resolve resolve' => body_congr, fun resolve => ⟨fun heq => ?_, ?_⟩,
    exists_within hs, fun call table hfault => ?_⟩
  · funext call
    induction call using (calls_wellFounded hs).induction
    next call ih =>
    rw [heq, run_eq_body hs]
    exact body_congr ih
  · rintro rfl
    exact funext (run_eq_body hs)
  · exact failsWith_run hs call table .tooDeep _ (Prod.ext hfault rfl) rfl

/-- The absent value, quoted twice. -/
def twiceQuoted : Expr := .constant (.text [39, 78, 111, 110, 101, 39] false)

/-- What is quoted twice is read in a call of its own, and the recursion comes to an end. -/
theorem exists_within_twiceQuoted :
    (Surroundings.ofTree Source.Tree.empty).Shortens ∧
      Call.type (.constant (.text [78, 111, 110, 101] false)) ∈
        (Call.type twiceQuoted).inner (.ofTree Source.Tree.empty) ∧
      ∃ depth, within (.ofTree Source.Tree.empty) id depth (.type twiceQuoted) =
        run (.ofTree Source.Tree.empty) id (.type twiceQuoted) := by
  have htext : (stripped [39, 78, 111, 110, 101, 39]).toText = .ok "'None'" := by cbv
  have hparse : parseExpression "'None'" = .ok (.constant (.text [78, 111, 110, 101] false)) := by cbv
  have hshortens := shortens_ofTree Source.Tree.empty
  obtain ⟨depth, hdepth⟩ := (calls_terminate hshortens id).2.2.2.1 (.type twiceQuoted)
  exact ⟨hshortens, mem_inner_text.mpr ⟨_, reads_ofTree htext hparse, rfl⟩, depth, hdepth 0⟩

end Call
end FluentBuilder.Resolving
