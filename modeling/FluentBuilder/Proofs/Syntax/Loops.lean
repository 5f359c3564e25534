import FluentBuilder.Proofs.Syntax.Levels

/-!
# Loops over parts of phrases

Members and items go on behind a value, bars behind a union, and commas behind an item. For each of these
there is a loop, and what has been read up to a place can be carried on (`ValueRuns`, `UnionRuns`,
`ItemsRun`): it begins with one part, a further part adds a step, and it ends where nothing follows that
would go on.
-/

namespace FluentBuilder.Syntax.Grammar

open Grammar.Parser

variable {α : Type} {i : Input} {place mid next : Nat} {P : Memo → Prop} {e : Expr}

/-! ### Values -/

/-- What continues a value. -/
def valueStep (rules : Rules) (start : Nat) (left : Located) : Parser Located :=
  choice [memberStep left start, generatorStep rules left start, callStep rules left start,
    itemStep rules left start]

/-- What stands behind a value that is complete. -/
def valueEnds : List (Option Lexeme) := [some .comma, some .bar, some .closing, none]

/-- No call stands behind a value. -/
theorem misses_calls (P : Memo → Prop) (d start : Nat) (left : Located) (hi : Phrasal i)
    (hplace : place < i.scan.tokens.size) :
    Misses i (generatorStep (Rule.reader d) left start) place P P ∧
      Misses i (callStep (Rule.reader d) left start) place P P := by
  have hparen {P : Memo → Prop} : Misses i (sign "(") place P P :=
    (hi.known place hplace).misses_sign (by decide)
  constructor
  · refine Misses.bind ?_
    cases d with
    | zero => exact fun progress hm => ⟨progress, rfl, hm⟩
    | succ d =>
      refine Misses.unremembered .generator rfl ?_
      exact Misses.orElse (Misses.here_bind (Misses.bind hparen)) (misses_diagnosis hi.sound _)
  · exact Misses.bind hparen

/-- Nothing continues a value in front of what ends it. -/
theorem misses_valueStep {d start : Nat} {left : Located} {o : Option Lexeme} (hi : Phrasal i)
    (hat : At i place o) (ho : o ∈ valueEnds) : Misses i (valueStep (Rule.reader d) start left) place P P := by
  have hsign {text : String} (ht : ∀ o ∈ valueEnds, isToken .sign text o = false) :
      Misses i (sign text) place P P := misses_sign hat (ht o ho)
  obtain ⟨hgenerator, hcall⟩ := misses_calls P d start left hi hat.lt_size
  refine Misses.choice fun p hp => ?_
  simp only [List.mem_cons, List.not_mem_nil, or_false] at hp
  rcases hp with rfl | rfl | rfl | rfl
  · exact Misses.bind (hsign (by decide))
  · exact hgenerator
  · exact hcall
  · exact Misses.bind (hsign (by decide))

/-- A member continues a value. -/
theorem matches_member {d start : Nat} {left : Located} {w : String} (hpoint : At i place (some .point))
    (hword : At i (place + 1) (some (.word w))) (hw : IsName w) (hleft : left.expr = e) :
    Matches i (valueStep (Rule.reader d) start left) place (place + 2) (Fresh i place) fun v m =>
      v.expr = .attribute e w ∧ Fresh i (place + 2) m := by
  obtain ⟨t, ht, hkind, htext⟩ := hword
  have hname : t.kind = .name := hkind.trans hw.kind_eq
  refine Matches.orElse_left (Matches.bind (matches_sign hpoint (by decide)) fun _ => ?_)
  refine Matches.bind (matches_identifier ht hname) fun name => ?_
  rintro progress ⟨rfl, hm⟩
  refine ⟨.whole (.attribute left.expr (nameOf t)) start, progress, rfl, ?_, hm.mono (Nat.le_add_right _ 2)⟩
  show Expr.attribute left.expr (Text.normalForm t.text) = _
  rw [hleft, htext]
  exact congrArg _ hw.normal

/-- Items continue a value. -/
theorem matches_item {d start : Nat} {left : Located} {index : Expr} (hi : Phrasal i)
    (hopening : At i place (some .opening))
    (hindex : Matches i (slices (Rule.reader d)) (place + 1) next (Fresh i (place + 1)) fun v m =>
      v.expr = index ∧ Fresh i next m)
    (hclosing : At i next (some .closing)) (hleft : left.expr = e) :
    Matches i (valueStep (Rule.reader d) start left) place (next + 1) (Fresh i place) fun v m =>
      v.expr = .subscript e index ∧ Fresh i (next + 1) m := by
  obtain ⟨hgenerator, hcall⟩ :=
    misses_calls (Fresh i place) d start left hi hopening.lt_size
  refine Misses.orElse_matches (Misses.bind (misses_sign hopening (by decide)))
    (Misses.orElse_matches hgenerator (Misses.orElse_matches hcall (Matches.orElse_left ?_)))
  refine Matches.bind (matches_sign hopening (by decide)) fun _ => ?_
  refine Matches.bind (hindex.mono (fun _ hm => hm.mono (Nat.le_succ place)) fun _ _ => id) fun v => ?_
  refine Matches.bind (matches_sign hclosing (by decide)) fun _ => Matches.pure ?_
  rintro m ⟨hv, hm⟩
  refine ⟨?_, hm.mono (Nat.le_succ next)⟩
  show Expr.subscript left.expr v.expr = _
  rw [hleft, hv]

/-- A value is read up to a place, where it may go on. -/
def ValueRuns (i : Input) (d : Nat) (e : Expr) (place next n : Nat) : Prop :=
  ∃ mid a k, ReadsAs i (atom (Rule.reader d)) a place mid ∧ k ≤ n ∧
    ∀ (v : Located) (start : Nat), v.expr = a →
      Runs i (valueStep (Rule.reader d) start) mid next v (Fresh i mid)
        (fun w m => w.expr = e ∧ Fresh i next m) k

namespace ValueRuns

variable {d n : Nat}

/-- A value begins with an atom. -/
theorem ofAtom (h : ReadsAs i (atom (Rule.reader d)) e place next) : ValueRuns i d e place next n :=
  ⟨next, e, 0, h, Nat.zero_le n, fun _ _ hv => Runs.zero fun _ hm => ⟨hv, hm⟩⟩

/-- It goes on. -/
theorem step {e' : Expr} (h : ValueRuns i d e place mid n)
    (hstep : ∀ (left : Located) start, left.expr = e →
      Matches i (valueStep (Rule.reader d) start left) mid next (Fresh i mid) fun v m =>
        v.expr = e' ∧ Fresh i next m) : ValueRuns i d e' place next (n + 1) := by
  obtain ⟨first, a, k, hatom, hk, hruns⟩ := h
  refine ⟨first, a, k + 1, hatom, Nat.succ_le_succ hk, fun v start hv => ?_⟩
  refine (hruns v start hv).succ fun w => ?_
  rintro progress ⟨hw, hm⟩
  exact hstep w start hw progress hm

/-- A bound on the steps can be raised. -/
theorem mono {n' : Nat} (h : ValueRuns i d e place next n) (hle : n ≤ n') :
    ValueRuns i d e place next n' := by
  obtain ⟨mid, a, k, hatom, hk, hruns⟩ := h
  exact ⟨mid, a, k, hatom, Nat.le_trans hk hle, hruns⟩

/-- It ends. -/
theorem primary {o : Option Lexeme} (h : ValueRuns i d e place next n) (hi : Phrasal i)
    (hn : n ≤ i.scan.tokens.size) (hat : At i next o) (ho : o ∈ valueEnds) :
    ReadsAs i (primary (Rule.reader d)) e place next := by
  obtain ⟨mid, a, k, hatom, hk, hruns⟩ := h
  refine Matches.here_bind (Matches.bind hatom fun v => ?_)
  rintro progress ⟨hv, hm⟩
  exact (hruns v place hv).extendWhile (Nat.le_trans hk hn)
    (fun w => misses_valueStep hi hat ho) progress hm

end ValueRuns

/-! ### Unions -/

/-- What continues a union. -/
def unionStep (rules : Rules) (start : Nat) (left : Located) : Parser Located := do
  let op ← choice [do let _ ← sign "|"; return BinaryOp.bitOr]
  let right : Located ← rules .bitXor
  return .whole (.binary op left.expr right.expr) start

/-- A union is a value that goes on. -/
theorem bitOr_eq (rules : Rules) : bitOr rules = (do
    let start ← here
    let first : Located ← rules .bitXor
    extendWhile (unionStep rules start) first) := rfl

/-- What stands behind a union that is complete. -/
def unionEnds : List (Option Lexeme) := [some .comma, some .closing, none]

/-- A union is read up to a place, where it may go on. -/
def UnionRuns (i : Input) (d : Nat) (e : Expr) (place next n : Nat) : Prop :=
  ∃ mid a k, ReadsAs i (Rule.reader d .bitXor) a place mid ∧ k ≤ n ∧
    ∀ (v : Located) (start : Nat), v.expr = a →
      Runs i (unionStep (Rule.reader d) start) mid next v (Fresh i mid)
        (fun w m => w.expr = e ∧ Fresh i next m) k

namespace UnionRuns

variable {d n : Nat}

/-- A union begins with a value. -/
theorem ofValue (h : ReadsAs i (Rule.reader d .bitXor) e place next) : UnionRuns i d e place next n :=
  ⟨next, e, 0, h, Nat.zero_le n, fun _ _ hv => Runs.zero fun _ hm => ⟨hv, hm⟩⟩

/-- It goes on. -/
theorem step {right : Expr} (h : UnionRuns i d e place mid n) (hbar : At i mid (some .bar))
    (hright : ReadsAs i (Rule.reader d .bitXor) right (mid + 1) next) :
    UnionRuns i d (.binary .bitOr e right) place next (n + 1) := by
  obtain ⟨first, a, k, hvalue, hk, hruns⟩ := h
  refine ⟨first, a, k + 1, hvalue, Nat.succ_le_succ hk, fun v start hv => ?_⟩
  refine (hruns v start hv).succ fun left => ?_
  have hop : Matches i (choice [do let _ ← sign "|"; return BinaryOp.bitOr]) mid (mid + 1)
      (fun m => left.expr = e ∧ Fresh i mid m) fun op m =>
        op = .bitOr ∧ left.expr = e ∧ Fresh i (mid + 1) m :=
    Matches.orElse_left (Matches.bind (matches_sign hbar (by decide)) fun _ =>
      Matches.pure fun m hm => ⟨rfl, hm.1, hm.2.mono (Nat.le_succ mid)⟩)
  refine Matches.bind hop fun op => ?_
  rintro progress ⟨rfl, hleft, hm⟩
  obtain ⟨w, later, heq, hw, hlater⟩ := hright progress hm
  refine ⟨.whole (.binary .bitOr left.expr w.expr) start, later, ?_, ?_, hlater⟩
  · show Parser.bind (Rule.reader d .bitXor : Parser Located) _ i (mid + 1) progress = _
    rw [Parser.bind, heq]
    rfl
  · show Expr.binary .bitOr left.expr w.expr = _
    rw [hleft, hw]

/-- A bound on the steps can be raised. -/
theorem mono {n' : Nat} (h : UnionRuns i d e place next n) (hle : n ≤ n') :
    UnionRuns i d e place next n' := by
  obtain ⟨mid, a, k, hvalue, hk, hruns⟩ := h
  exact ⟨mid, a, k, hvalue, Nat.le_trans hk hle, hruns⟩

/-- It ends. -/
theorem bitOr {o : Option Lexeme} (h : UnionRuns i d e place next n) (hn : n ≤ i.scan.tokens.size)
    (hat : At i next o) (ho : o ∈ unionEnds) : ReadsAs i (bitOr (Rule.reader d)) e place next := by
  obtain ⟨mid, a, k, hvalue, hk, hruns⟩ := h
  have hbar {P : Memo → Prop} : Misses i (sign "|") next P P := by
    have hnone : ∀ o ∈ unionEnds, isToken .sign "|" o = false := by decide
    exact misses_sign hat (hnone o ho)
  rw [bitOr_eq]
  refine Matches.here_bind (Matches.bind hvalue fun v => ?_)
  rintro progress ⟨hv, hm⟩
  exact (hruns v place hv).extendWhile (Nat.le_trans hk hn)
    (fun w => Misses.bind (Misses.orElse (Misses.bind hbar) Misses.miss)) progress hm

end UnionRuns

/-! ### Sequences of items -/

/-- An expression of `k` lexemes is read by all rules that are deep enough. -/
def Legible (i : Input) (k : Nat) (e : Expr) (place next : Nat) : Prop :=
  place < next ∧ ∀ d, 14 * k + 13 ≤ d → Rereads i d e place next

/-- Items are expressions of at most `k` lexemes. -/
def ItemOf (i : Input) (k : Nat) (p : Parser Located) : Prop :=
  ∀ e place next, Legible i k e place next → next < i.scan.tokens.size →
    Matches i p place next (Primed i .expression (fun v : Located => v.expr = e) place next) fun v m =>
      v.expr = e ∧ Fresh i next m

/-- Puts a further value before others. -/
def collect (p : Parser α) (found : List α) : Parser (List α) := do
  let value ← p
  return value :: found

/-- Items with commas between them are read up to a place, where they may go on. -/
def ItemsRun (i : Input) (k : Nat) (es : List Expr) (place next n : Nat) : Prop :=
  ∃ e rest mid, es = e :: rest ∧ Legible i k e place mid ∧ mid ≤ next ∧
    (rest = [] ∧ mid = next ∨ rest ≠ [] ∧ At i mid (some .comma)) ∧
    ∀ p, ItemOf i k p → ∃ steps ≤ n,
      Runs i (collect (sign "," >>= fun _ => p)) mid next [] (Fresh i mid)
        (fun found m => found.reverse.map Located.expr = rest ∧ Fresh i next m) steps

namespace ItemsRun

variable {k n : Nat} {es : List Expr}

/-- There is a first item. -/
theorem one (h : Legible i k e place next) : ItemsRun i k [e] place next n :=
  ⟨e, [], next, rfl, h, Nat.le_refl next, .inl ⟨rfl, rfl⟩, fun _ _ =>
    ⟨0, Nat.zero_le n, Runs.zero fun _ hm => ⟨rfl, hm⟩⟩⟩

/-- There is one more item. -/
theorem step (h : ItemsRun i k es place mid n) (hcomma : At i mid (some .comma))
    (he : Legible i k e (mid + 1) next) (hnext : next < i.scan.tokens.size) :
    ItemsRun i k (es ++ [e]) place next (n + 1) := by
  obtain ⟨e₀, rest, first, rfl, hread, hle, hbehind, hruns⟩ := h
  have hlt := he.1
  refine ⟨e₀, rest ++ [e], first, rfl, hread, by omega, .inr ⟨by simp, ?_⟩, fun p hp => ?_⟩
  · rcases hbehind with ⟨-, rfl⟩ | ⟨-, hat⟩
    · exact hcomma
    · exact hat
  · obtain ⟨steps, hsteps, hrun⟩ := hruns p hp
    refine ⟨steps + 1, Nat.succ_le_succ hsteps, hrun.succ fun found => ?_⟩
    rintro progress ⟨hfound, hm⟩
    have hitem : Matches i (sign "," >>= fun _ => p) mid next (Fresh i mid) fun v m =>
        v.expr = e ∧ Fresh i next m :=
      Matches.bind (matches_sign hcomma (by decide)) fun _ =>
        (hp e (mid + 1) next he hnext).mono (fun _ hm => .inl (hm.mono (Nat.le_succ mid))) fun _ _ => id
    have hcollect : Matches i (collect (sign "," >>= fun _ => p) found) mid next (Fresh i mid)
        fun l m => l.reverse.map Located.expr = rest ++ [e] ∧ Fresh i next m :=
      Matches.bind hitem fun v => Matches.pure fun m hv => ⟨by simp [hfound, hv.1], hv.2⟩
    exact hcollect progress hm

/-- A bound on the steps can be raised. -/
theorem mono {n' : Nat} (h : ItemsRun i k es place next n) (hle : n ≤ n') :
    ItemsRun i k es place next n' := by
  obtain ⟨e, rest, mid, heq, hread, hmid, hbehind, hruns⟩ := h
  refine ⟨e, rest, mid, heq, hread, hmid, hbehind, fun p hp => ?_⟩
  obtain ⟨steps, hsteps, hrun⟩ := hruns p hp
  exact ⟨steps, Nat.le_trans hsteps hle, hrun⟩

/-- They end. -/
theorem separated {o : Option Lexeme} (h : ItemsRun i k es place next n) (hn : n ≤ i.scan.tokens.size)
    (hat : At i next o) (ho : isToken .sign "," o = false) :
    ∃ e mid, Legible i k e place mid ∧ (es = [e] ∧ mid = next ∨ 2 ≤ es.length ∧ At i mid (some .comma)) ∧
      ∀ p, ItemOf i k p → Matches i (separated p (sign ",")) place next
        (Primed i .expression (fun v : Located => v.expr = e) place mid) fun l m =>
          l.map Located.expr = es ∧ Fresh i next m := by
  obtain ⟨e, rest, mid, rfl, hread, hle, hbehind, hruns⟩ := h
  refine ⟨e, mid, hread, ?_, fun p hp => ?_⟩
  · rcases hbehind with ⟨rfl, rfl⟩ | ⟨hne, hcomma⟩
    · exact .inl ⟨rfl, rfl⟩
    · exact .inr ⟨Nat.succ_le_succ (List.length_pos_iff.mpr hne), hcomma⟩
  · obtain ⟨steps, hsteps, hrun⟩ := hruns p hp
    have hmid : mid < i.scan.tokens.size := Nat.lt_of_le_of_lt hle hat.lt_size
    refine Matches.bind (hp e place mid hread hmid) fun first => ?_
    rintro progress ⟨hfirst, hm⟩
    have hmany : Matches i (many (sign "," >>= fun _ => p)) mid next (Fresh i mid) fun l m =>
        l.map Located.expr = rest ∧ Fresh i next m :=
      Matches.bind (hrun.extendWhile (Nat.le_trans hsteps hn) fun found =>
        Misses.bind (Misses.bind (misses_sign hat ho))) fun found => Matches.pure fun _ hm => hm
    have hall : Matches i (many (sign "," >>= fun _ => p) >>= fun rest => pure (first :: rest)) mid next
        (Fresh i mid) fun l m => l.map Located.expr = e :: rest ∧ Fresh i next m :=
      Matches.bind hmany fun l => Matches.pure fun m hl => ⟨by simp [hfirst, hl.1], hl.2⟩
    exact hall progress hm

end ItemsRun

end FluentBuilder.Syntax.Grammar
