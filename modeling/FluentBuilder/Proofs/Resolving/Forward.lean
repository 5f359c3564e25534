import Mathlib
import FluentBuilder.Proofs.Resolving.Meaning
import FluentBuilder.Proofs.Syntax.Shortness

/-!
# Quoted annotations

A quoted annotation is resolved like the expression that it is read as (`hintWith_of_reads`), however
deeply quoted annotations are nested in each other: the number of nested readings that `quoted` allows
for is never too small, because every text is longer than those that are quoted in it
(`Surroundings.Shortens`, `shortens_ofTree`).

**The route.** Resolving an annotation depends only on how the texts that it holds are resolved
(`expr_congr`, by induction on the expression). So the number of readings allowed for does not matter
once it exceeds the length of the text (`quoted_eq`, by induction on that number), and what holds of an
annotation as soon as it holds of all that is read from its texts holds of every annotation
(`reading_induction`).
-/

namespace FluentBuilder

open Syntax Stateful

/-! ### Reading quoted annotations -/

/-- Quoted texts are shorter than the text that they stand in. -/
def Surroundings.Shortens (s : Surroundings) : Prop :=
  ∀ text e, s.parse text = .ok e → e.HoldsBelow text.length

/-- In the surroundings of a source tree quoted texts are shorter than the text that they stand in. -/
theorem shortens_ofTree (tree : Source.Tree) : (Surroundings.ofTree tree).Shortens :=
  fun _ _ => holdsBelow_of_parseExpression

/-- A quoted annotation is read as an expression, without the blanks at its ends. -/
def Surroundings.Reads (s : Surroundings) (v : CodePoints) (e : Expr) : Prop :=
  ∃ text, (Resolving.stripped v).toText = .ok text ∧ s.parse text = .ok e

/-- In a source tree annotations are read as expressions. -/
theorem reads_ofTree {tree : Source.Tree} {v : CodePoints} {text : String} {e : Expr}
    (htext : (Resolving.stripped v).toText = .ok text) (h : parseExpression text = .ok e) :
    (Surroundings.ofTree tree).Reads v e :=
  ⟨text, htext, h⟩

/-- The absent value can be quoted. -/
theorem reads_quotedNone (tree : Source.Tree) :
    (Surroundings.ofTree tree).Reads [78, 111, 110, 101] (.constant .none) := by
  have htext : (Resolving.stripped [78, 111, 110, 101]).toText = .ok "None" := by cbv
  have hparse : parseExpression "None" = .ok (.constant .none) := by cbv
  exact reads_ofTree htext hparse

/-- A quoted annotation is read as one expression. -/
theorem Surroundings.Reads.unique {s : Surroundings} {v : CodePoints} {e e' : Expr} (h : s.Reads v e)
    (h' : s.Reads v e') : e = e' := by
  obtain ⟨text, htext, he⟩ := h
  obtain ⟨text', htext', he'⟩ := h'
  obtain rfl := Except.ok.inj (htext.symm.trans htext')
  exact Except.ok.inj (he.symm.trans he')

/-- What is left without blanks is no longer. -/
theorem length_stripped_le (v : CodePoints) : (Resolving.stripped v).length ≤ v.length := by
  have hdrop (p : Nat → Bool) (cs : List Nat) : (cs.dropWhile p).length ≤ cs.length :=
    (List.dropWhile_suffix p).length_le
  rw [Resolving.stripped, Text.trimEnds, List.length_reverse]
  exact (hdrop _ _).trans ((List.length_reverse).trans_le (hdrop _ _))

/-- A text has as many characters as there are code points. -/
theorem length_of_toText {v : CodePoints} {text : String} (h : v.toText = .ok text) :
    text.length = v.length := by
  rw [CodePoints.toText] at h
  split at h
  · obtain rfl := Except.ok.inj h
    rw [String.length_ofList, List.length_map]
  · cases h

/-- What is quoted in a quoted annotation is shorter than that. -/
theorem Surroundings.Shortens.holdsBelow {s : Surroundings} (hs : s.Shortens) {v : CodePoints} {e : Expr}
    (h : s.Reads v e) : e.HoldsBelow v.length := by
  obtain ⟨text, htext, he⟩ := h
  intro w hw
  have hlength := length_of_toText htext
  exact (hs text e he w hw).trans_le (hlength.trans_le (length_stripped_le v))

namespace Resolving

variable {s : Surroundings} {qualify : String → String} {forward forward' : CodePoints → Resolving TypeRef}

/-! ### The texts of an annotation -/

section

mutual

/-- An annotation depends on how the texts that it holds are resolved. -/
theorem expr_congr (e : Expr) (h : ∀ v, e.Holds v → forward v = forward' v) :
    expr s qualify forward e = expr s qualify forward' e := by
  unfold expr
  split
  · rfl
  · rfl
  · next v marked => exact h v (.text marked)
  · rfl
  · rfl
  · rfl
  · next value index =>
    rw [expr_congr value fun v hv => h v hv.value]
    refine bind_congr fun base => ?_
    split
    · next items =>
      have hitems : ∀ e ∈ items, ∀ v, e.Holds v → forward v = forward' v :=
        fun e he v hv => h v (.index (.tuple he hv))
      rw [arguments_congr items hitems]
      cases items with
      | nil => rfl
      | cons first rest =>
        dsimp only
        rw [expr_congr first (hitems first List.mem_cons_self)]
    · have hindex : ∀ v, index.Holds v → forward v = forward' v := fun v hv => h v hv.index
      rw [expr_congr index hindex, argument_congr index hindex]
  · next left right =>
    rw [expr_congr left fun v hv => h v hv.left, expr_congr right fun v hv => h v hv.right]
  · rfl

/-- So does an argument. -/
theorem argument_congr (e : Expr) (h : ∀ v, e.Holds v → forward v = forward' v) :
    argument s qualify forward e = argument s qualify forward' e := by
  unfold argument
  split
  · next items => rw [types_congr items fun e he v hv => h v (.list he hv)]
  · exact expr_congr e h

/-- So do arguments. -/
theorem arguments_congr (es : List Expr) (h : ∀ e ∈ es, ∀ v, e.Holds v → forward v = forward' v) :
    arguments s qualify forward es = arguments s qualify forward' es := by
  match es with
  | [] => rw [arguments, arguments]
  | e :: rest =>
    rw [arguments, arguments, argument_congr e (h e List.mem_cons_self),
      arguments_congr rest fun e he => h e (List.mem_cons_of_mem _ he)]

/-- So do types. -/
theorem types_congr (es : List Expr) (h : ∀ e ∈ es, ∀ v, e.Holds v → forward v = forward' v) :
    types s qualify forward es = types s qualify forward' es := by
  match es with
  | [] => rw [types, types]
  | e :: rest =>
    rw [types, types, expr_congr e (h e List.mem_cons_self),
      types_congr rest fun e he => h e (List.mem_cons_of_mem _ he)]

end

end

/-! ### The number of readings -/

section

variable {v : CodePoints} {text : String} {e : Expr} {depth : Nat}

/-- A quoted annotation with surrogates cannot be read. -/
theorem quoted_of_surrogates {run : SurrogateRun} (h : (stripped v).toText = .error run) :
    quoted s qualify (depth + 1) v = throw (.surrogates run) := by
  simp only [quoted, h]

/-- A quoted annotation with the character of code zero cannot be read. -/
theorem quoted_of_null (htext : (stripped v).toText = .ok text)
    (h : s.parse text = .error .nullCharacter) :
    quoted s qualify (depth + 1) v = throw .nullCharacter := by
  simp only [quoted, htext, h]

/-- A quoted annotation that cannot be read for another reason stays a text. -/
theorem quoted_of_fault {fault : Fault} (htext : (stripped v).toText = .ok text)
    (h : s.parse text = .error (.fault fault)) :
    quoted s qualify (depth + 1) v = pure (.ofLiteral (Quoted.text v)) := by
  simp only [quoted, htext, h]

/-- A quoted annotation is resolved like the expression that it is read as. -/
theorem quoted_of_reads (h : s.Reads v e) :
    quoted s qualify (depth + 1) v = expr s qualify (quoted s qualify depth) e := by
  obtain ⟨text, htext, he⟩ := h
  simp only [quoted, htext, he]

/-- A quoted annotation is read, or it is not for one of three reasons. -/
theorem readings (s : Surroundings) (v : CodePoints) :
    (∃ run, (stripped v).toText = .error run) ∨ (∃ e, s.Reads v e) ∨
      ∃ text, (stripped v).toText = .ok text ∧
        (s.parse text = .error .nullCharacter ∨ ∃ fault, s.parse text = .error (.fault fault)) := by
  cases htext : (stripped v).toText with
  | error run => exact .inl ⟨run, rfl⟩
  | ok text =>
    cases hparse : s.parse text with
    | ok e => exact .inr (.inl ⟨e, text, htext, hparse⟩)
    | error reason =>
      refine .inr (.inr ⟨text, rfl, ?_⟩)
      cases reason with
      | nullCharacter => exact .inl hparse
      | fault fault => exact .inr ⟨fault, hparse⟩

end

/-- More readings than a text has characters make no difference: what is quoted in it is shorter. -/
theorem quoted_eq (hs : s.Shortens) {depth depth' : Nat} {v : CodePoints} (h : v.length < depth)
    (h' : v.length < depth') : quoted s qualify depth v = quoted s qualify depth' v := by
  induction depth generalizing depth' v with
  | zero => exact absurd h (Nat.not_lt_zero _)
  | succ depth ih =>
    cases depth' with
    | zero => exact absurd h' (Nat.not_lt_zero _)
    | succ depth' =>
      rcases readings s v with ⟨run, hrun⟩ | ⟨e, he⟩ | ⟨text, htext, hnull | ⟨fault, hfault⟩⟩
      · rw [quoted_of_surrogates hrun, quoted_of_surrogates hrun]
      · rw [quoted_of_reads he, quoted_of_reads he]
        refine expr_congr e fun w hw => ?_
        have hshort := hs.holdsBelow he w hw
        exact ih (by omega) (by omega)
      · rw [quoted_of_null htext hnull, quoted_of_null htext hnull]
      · rw [quoted_of_fault htext hfault, quoted_of_fault htext hfault]

/-- **A quoted annotation is resolved like the expression that it is read as.** -/
theorem hintWith_of_reads (hs : s.Shortens) {v : CodePoints} {e : Expr} (h : s.Reads v e)
    (marked : Bool) :
    hintWith s qualify (.constant (.text v marked)) = hintWith s qualify e := by
  have hexpr : hintWith s qualify (.constant (.text v marked)) =
      quoted s qualify (v.length + 1) v := by
    rw [hintWith, expr]
  rw [hexpr, quoted_of_reads h, hintWith]
  exact expr_congr e fun w hw => quoted_eq hs (hs.holdsBelow h w hw) (Nat.lt_succ_self _)

end Resolving

/-! ### Induction over what is read -/

/-- The texts that an expression holds are bounded. -/
theorem length_lt_of_holds {v : CodePoints} {e : Expr} (h : e.Holds v) : v.length < sizeOf e := by
  have hsize (cs : List Nat) : cs.length ≤ sizeOf cs := by
    induction cs with
    | nil => exact Nat.zero_le _
    | cons c cs ih =>
      simp only [List.length_cons, List.cons.sizeOf_spec]
      omega
  induction h with
  | text marked =>
    have := hsize v
    simp only [Expr.constant.sizeOf_spec, Constant.text.sizeOf_spec]
    omega
  | value _ ih | index _ ih | left _ ih | right _ ih =>
    simp
    omega
  | tuple he _ ih | list he _ ih =>
    have := List.sizeOf_lt_of_mem he
    simp
    omega

/-- **Induction over what is read.** What holds of an annotation as soon as it holds of all that is
read from the texts in it, holds of every annotation. -/
theorem reading_induction {s : Surroundings} (hs : s.Shortens) {motive : Expr → Prop}
    (h : ∀ e, (∀ v e', e.Holds v → s.Reads v e' → motive e') → motive e) (e : Expr) : motive e := by
  have hbelow : ∀ n e, e.HoldsBelow n → motive e := by
    intro n
    induction n using Nat.strong_induction_on with
    | _ n ih =>
      intro e he
      exact h e fun v e' hv hreads => ih v.length (he v hv) e' (hs.holdsBelow hreads)
  exact hbelow (sizeOf e) e fun v hv => length_lt_of_holds hv

end FluentBuilder
