import FluentBuilder.Proofs.Syntax.Phrases

/-!
# Levels of expressions

Between an expression and the values in it stand the levels of all operators. In a phrase there are no
operators but bars: each of the other levels reads what the one below it reads (`ReadsAs`), since what could
follow is not there (`Known`). So a value is read from the level below bars (`ReadsAs.bitXor`), and what bars
join is read as an expression (`ReadsAs.expression`).

An expression is tried more than once at a place, as one that stands before a sign and then as one that does
not. It is read the first time and found noted after that (`Rereads`).
-/

namespace FluentBuilder.Syntax.Grammar

open Grammar.Parser

variable {α : Type} {i : Input} {place mid next : Nat} {P : Memo → Prop} {e : Expr} {rules : Rules}

/-! ### Tokens of phrases -/

/-- A token of a phrase, or the one behind it. -/
def Known (i : Input) (place : Nat) : Prop :=
  ∃ o, At i place o ∧ ∀ w, o = some (.word w) → w = "None" ∨ Text.isReservedWord w = false

/-- The signs of phrases. -/
def signTexts : List String := [".", "...", ",", "|", "[", "]"]

/-- Any other sign is not there. -/
theorem Known.misses_sign {text : String} (h : Known i place) (ht : text ∉ signTexts) :
    Misses i (sign text) place P P := by
  obtain ⟨o, hat, -⟩ := h
  refine Grammar.misses_sign hat ?_
  cases o with
  | none => rfl
  | some l =>
    rw [isToken, Bool.and_eq_false_iff]
    cases l with
    | word w =>
      left
      rw [Lexeme.kind]
      split <;> rfl
    | _ =>
      right
      refine beq_eq_false_iff_ne.mpr ?_
      rintro rfl
      exact ht (by decide)

/-- What begins with such a sign is not there. -/
theorem Known.misses_signed {β : Type} {text : String} {f : Nat → Token → Parser β} (h : Known i place)
    (ht : text ∉ signTexts) : Misses i (here >>= fun start => sign text >>= f start) place P P :=
  Misses.here_bind (Misses.bind (h.misses_sign ht))

/-- No reserved word is there but the one for the absent value. -/
theorem Known.misses_keyword {text : String} (h : Known i place) (ht : text ≠ "None") :
    Misses i (keyword text) place P P := by
  obtain ⟨o, hat, hword⟩ := h
  refine Grammar.misses_keyword hat ?_
  cases o with
  | none => rfl
  | some l =>
    rw [isToken, Bool.and_eq_false_iff]
    cases l with
    | word w =>
      rcases hword w rfl with rfl | hfree
      · exact .inr (beq_eq_false_iff_ne.mpr (Ne.symm ht))
      · left
        rw [Lexeme.kind, hfree]
        rfl
    | _ => exact .inl rfl

/-- Neither a number nor a quoted constant is there. -/
theorem Known.misses_ofKind {kind : TokenKind} (h : Known i place)
    (hkind : kind ∉ [.name, .keyword, .sign, .finish]) : Misses i (ofKind kind) place P P := by
  obtain ⟨o, hat, -⟩ := h
  refine Grammar.misses_ofKind hat ?_
  rintro rfl
  refine hkind ?_
  cases o with
  | none => decide
  | some l =>
    cases l with
    | word w =>
      show (if Text.isReservedWord w then TokenKind.keyword else .name) ∈ _
      split <;> decide
    | _ => decide

/-! ### Levels without operators -/

/-- An expression is read where nothing was read before. -/
abbrev ReadsAs (i : Input) (p : Parser Located) (e : Expr) (place next : Nat) : Prop :=
  Matches i p place next (Fresh i place) fun v m => v.expr = e ∧ Fresh i next m

/-- Nothing is there to be repeated. -/
theorem matches_many_nil {p : Parser α} (h : Misses i p place P P) :
    Matches i (many p) place place P fun l m => l = [] ∧ P m := by
  refine Matches.bind (Runs.extendWhile (Q := fun l m => l = [] ∧ P m) (R := fun l m => l = [] ∧ P m)
    (Runs.zero fun m hm => ⟨rfl, hm⟩) (Nat.zero_le _) fun found => ?_) fun found => ?_
  · refine Misses.bind fun progress hm => ?_
    obtain ⟨later, heq, hlater⟩ := h progress hm.2
    exact ⟨later, heq, hm.1, hlater⟩
  · refine Matches.pure ?_
    rintro m ⟨rfl, hm⟩
    exact ⟨rfl, hm⟩

namespace ReadsAs

variable {operand : Parser Located}

/-- An operand without operators behind it. -/
theorem leftAssociative {operators : List (String × BinaryOp)} (h : ReadsAs i operand e place next)
    (hnext : Known i next) (hoperators : ∀ o ∈ operators, o.1 ∉ signTexts) :
    ReadsAs i (leftAssociative operators operand) e place next := by
  refine Matches.here_bind (Matches.bind h fun first => ?_)
  refine Runs.extendWhile (Q := fun v m => v.expr = e ∧ Fresh i next m)
    (Runs.zero fun m hm => hm) (Nat.zero_le _) fun w => Misses.bind (Misses.choice fun p hp => ?_)
  obtain ⟨⟨text, op⟩, hmem, rfl⟩ := List.mem_map.mp hp
  exact Misses.bind (hnext.misses_sign (hoperators _ hmem))

/-- Conditions without words behind them. -/
theorem joinedBy {op : BoolOp} {word : String} (h : ReadsAs i operand e place next)
    (hnext : Known i next) (hword : word ≠ "None") :
    ReadsAs i (joinedBy op word operand) e place next := by
  refine Matches.here_bind (Matches.bind h fun first => ?_)
  refine Matches.bind (matches_many_nil (Misses.bind (hnext.misses_keyword hword))) fun others => ?_
  rintro progress ⟨rfl, hm⟩
  exact ⟨first, progress, rfl, hm⟩

/-- A value that is not awaited. -/
theorem awaited (h : ReadsAs i (rules .primary) e place next) (hplace : Known i place) :
    ReadsAs i (awaited rules) e place next :=
  Misses.orElse_matches (Misses.here_bind (Misses.bind (hplace.misses_keyword (by decide)))) h

/-- A value without a power. -/
theorem power (h : ReadsAs i (rules .awaited) e place next) (hnext : Known i next) :
    ReadsAs i (power rules) e place next := by
  refine Matches.here_bind (Matches.bind h fun base => ?_)
  refine Matches.bind (Misses.optional (Misses.bind (hnext.misses_sign (by decide)))) fun exponent => ?_
  rintro progress ⟨rfl, hm⟩
  exact ⟨base, progress, rfl, hm⟩

/-- A value without a sign before it. -/
theorem factor (h : ReadsAs i (rules .awaited) e place next) (hplace : Known i place)
    (hnext : Known i next) : ReadsAs i (factor rules) e place next :=
  Misses.orElse_matches (hplace.misses_signed (by decide))
    (Misses.orElse_matches (hplace.misses_signed (by decide))
      (Misses.orElse_matches (hplace.misses_signed (by decide)) (Matches.orElse_left (h.power hnext))))

/-- An operand without comparisons. -/
theorem comparison (h : ReadsAs i (rules .bitOr) e place next) (hnext : Known i next) :
    ReadsAs i (comparison rules) e place next := by
  have hop {P : Memo → Prop} : Misses i compareOp next P P := by
    refine Misses.choice fun p hp => ?_
    simp only [List.mem_cons, List.not_mem_nil, or_false] at hp
    rcases hp with rfl | rfl | rfl | rfl | rfl | rfl | rfl | rfl | rfl | rfl
    all_goals
      first
        | exact Misses.bind (hnext.misses_sign (by decide))
        | exact Misses.bind (hnext.misses_keyword (by decide))
  refine Matches.here_bind (Matches.bind h fun first => ?_)
  refine Matches.bind (matches_many_nil (Misses.bind hop)) fun rest => ?_
  rintro progress ⟨rfl, hm⟩
  exact ⟨first, progress, rfl, hm⟩

/-- A condition that is not negated. -/
theorem inversion (h : ReadsAs i (rules .bitOr) e place next) (hplace : Known i place)
    (hnext : Known i next) : ReadsAs i (inversion rules) e place next :=
  Misses.orElse_matches (Misses.here_bind (Misses.bind (hplace.misses_keyword (by decide))))
    (h.comparison hnext)

end ReadsAs

/-! ### Rules -/

section Rules

variable {d : Nat} {rule : Rule} {Q : rule.Value → Prop}

/-- A rule reads what its body reads. -/
theorem matches_reader (hrule : rule.isRemembered = true) (hplace : place < i.scan.tokens.size)
    (hlt : place < next)
    (h : Matches i (Rule.body (Rule.reader d) rule) place next (Fresh i place) fun v m =>
      Q v ∧ Fresh i next m) :
    Matches i (Rule.reader (d + 1) rule) place next (Primed i rule Q place next) fun v m =>
      Q v ∧ Noted i rule Q place next m :=
  Matches.memoised hrule hplace hlt h

/-- A rule that is read for the first time at a place. -/
theorem matches_reader_of_fresh (hrule : rule.isRemembered = true) (hplace : place < i.scan.tokens.size)
    (hlt : place < next)
    (h : Matches i (Rule.body (Rule.reader d) rule) place next (Fresh i place) fun v m =>
      Q v ∧ Fresh i next m) :
    Matches i (Rule.reader (d + 1) rule) place next (Fresh i place) fun v m => Q v ∧ Fresh i next m :=
  (matches_reader hrule hplace hlt h).mono (fun _ => .inl) fun _ _ hm => ⟨hm.1, hm.2.2⟩

end Rules

/-- An expression is read, be it for the first time or not. -/
abbrev Rereads (i : Input) (d : Nat) (e : Expr) (place next : Nat) : Prop :=
  Matches i (Rule.reader d .expression : Parser Located) place next
    (Primed i .expression (fun v : Located => v.expr = e) place next) fun v m =>
      v.expr = e ∧ Noted i .expression (fun v : Located => v.expr = e) place next m

/-- The texts of phrases, in which no mistakes are looked for. -/
structure Phrasal (i : Input) : Prop where
  /-- No mistakes are looked for. -/
  sound : i.diagnosing = false
  /-- All tokens are those of phrases. -/
  known : ∀ place < i.scan.tokens.size, Known i place

namespace ReadsAs

variable {d : Nat}

/-- The operators above a value are not there. -/
theorem bitXor (hi : Phrasal i) (hplace : place < next) (hnext : next < i.scan.tokens.size)
    (h : ReadsAs i (primary (Rule.reader d)) e place next) :
    ReadsAs i (Rule.reader (d + 8) .bitXor) e place next := by
  have hsize : place < i.scan.tokens.size := Nat.lt_trans hplace hnext
  have hhere := hi.known place hsize
  have hthere := hi.known next hnext
  have hprimary : ReadsAs i (Rule.reader (d + 1) .primary) e place next :=
    matches_reader_of_fresh rfl hsize hplace h
  have hawaited : ReadsAs i (Rule.reader (d + 2) .awaited) e place next :=
    matches_reader_of_fresh rfl hsize hplace (hprimary.awaited hhere)
  have hfactor : ReadsAs i (Rule.reader (d + 3) .factor) e place next :=
    matches_reader_of_fresh rfl hsize hplace (hawaited.factor hhere hthere)
  have hterm : ReadsAs i (Rule.reader (d + 4) .term) e place next :=
    matches_reader_of_fresh rfl hsize hplace (hfactor.leftAssociative hthere (by decide))
  have hsum : ReadsAs i (Rule.reader (d + 5) .sum) e place next :=
    matches_reader_of_fresh rfl hsize hplace (hterm.leftAssociative hthere (by decide))
  have hshift : ReadsAs i (Rule.reader (d + 6) .shift) e place next :=
    matches_reader_of_fresh rfl hsize hplace (hsum.leftAssociative hthere (by decide))
  have hbitAnd : ReadsAs i (Rule.reader (d + 7) .bitAnd) e place next :=
    matches_reader_of_fresh rfl hsize hplace (hshift.leftAssociative hthere (by decide))
  exact matches_reader_of_fresh rfl hsize hplace (hbitAnd.leftAssociative hthere (by decide))

/-- An expression that is a condition: the condition is read at most once, and found to be one. -/
theorem soundExpression (hnext : Known i next)
    (h : Matches i (rules .disjunction : Parser Located) place next
      (Primed i .disjunction (fun v : Located => v.expr = e) place next) fun v m =>
        v.expr = e ∧ Noted i .disjunction (fun v : Located => v.expr = e) place next m) :
    ReadsAs i (soundExpression rules) e place next := by
  refine Misses.orElse_matches (S := Noted i .disjunction (fun v : Located => v.expr = e) place next)
    (Misses.here_bind (Matches.bind_misses (h.mono (fun _ => .inl) fun _ _ => id) fun body => ?_)) ?_
  · exact (Misses.bind (hnext.misses_keyword (by decide))).mono (fun _ hm => hm.2) fun _ => id
  · exact Matches.orElse_left (h.mono (fun _ => .inr) fun _ _ hm => ⟨hm.1, hm.2.2⟩)

/-- The operators above a union are not there, and neither are conditions. -/
theorem expression (hi : Phrasal i) (hplace : place < next) (hnext : next < i.scan.tokens.size)
    (h : ReadsAs i (bitOr (Rule.reader d)) e place next) : Rereads i (d + 5) e place next := by
  have hsize : place < i.scan.tokens.size := Nat.lt_trans hplace hnext
  have hhere := hi.known place hsize
  have hthere := hi.known next hnext
  have hbitOr : ReadsAs i (Rule.reader (d + 1) .bitOr) e place next :=
    matches_reader_of_fresh rfl hsize hplace h
  have hinversion : ReadsAs i (Rule.reader (d + 2) .inversion) e place next :=
    matches_reader_of_fresh rfl hsize hplace (hbitOr.inversion hhere hthere)
  have hconjunction : ReadsAs i (Rule.reader (d + 3) .conjunction) e place next :=
    matches_reader_of_fresh rfl hsize hplace (hinversion.joinedBy hthere (by decide))
  have hsound : ReadsAs i (Grammar.soundExpression (Rule.reader (d + 4))) e place next :=
    soundExpression hthere
      (matches_reader rfl hsize hplace (hconjunction.joinedBy hthere (by decide)))
  refine matches_reader rfl hsize hplace ?_
  exact Misses.orElse_matches (misses_diagnosis hi.sound _)
    (Misses.orElse_matches (misses_diagnosis hi.sound _) (Matches.orElse_left hsound))

end ReadsAs

/-! ### Items -/

/-- A name is read. -/
theorem matches_identifier {t : Token} (ht : i.scan.tokens[place]? = some t) (hkind : t.kind = .name) :
    Matches i identifier place (place + 1) P fun name m => name = nameOf t ∧ P m := by
  refine Matches.bind (matches_tokenIf ht (decide_eq_true hkind)) fun v => ?_
  rintro progress ⟨rfl, hm⟩
  exact ⟨nameOf v, progress, rfl, rfl, hm⟩

/-- A name is an expression. -/
theorem matches_nameExpr {t : Token} (ht : i.scan.tokens[place]? = some t) (hkind : t.kind = .name) :
    Matches i nameExpr place (place + 1) P fun v m => v.expr = .name (nameOf t) ∧ P m := by
  refine Matches.here_bind (Matches.bind (matches_identifier ht hkind) fun name => ?_)
  rintro progress ⟨rfl, hm⟩
  exact ⟨.whole (.name (nameOf t)) place, progress, rfl, rfl, hm⟩

/-- Anything else is no name. -/
theorem misses_nameExpr {t : Token} (ht : i.scan.tokens[place]? = some t) (hkind : t.kind ≠ .name) :
    Misses i nameExpr place P P :=
  Misses.here_bind (Misses.bind (Misses.bind (misses_tokenIf ht (decide_eq_false hkind))))

/-- No name is given in passing. -/
theorem misses_assignment (rules : Rules) (hplace : Known i place) (hsecond : Known i (place + 1)) :
    Misses i (assignmentExpression rules) place P P := by
  obtain ⟨o, ⟨t, ht, -⟩, -⟩ := hplace
  by_cases hkind : t.kind = .name
  · refine Matches.bind_misses (matches_nameExpr ht hkind) fun v => Misses.bind ?_
    exact (hsecond.misses_sign (by decide)).mono (fun _ hm => hm.2) fun _ => id
  · exact Misses.bind (misses_nameExpr ht hkind)

/-- An expression to which no name is given. -/
theorem matches_named {d : Nat} (hi : Phrasal i) (hplace : place < next) (hnext : next < i.scan.tokens.size)
    (h : Rereads i d e place next) :
    Matches i (Rule.reader (d + 1) .namedExpression : Parser Located) place next
      (Primed i .expression (fun v : Located => v.expr = e) place next) fun v m =>
        v.expr = e ∧ Noted i .expression (fun v : Located => v.expr = e) place next m := by
  have hassignment := misses_assignment (P := Primed i .expression (fun v : Located => v.expr = e) place next)
    (Rule.reader d) (hi.known place (by omega)) (hi.known (place + 1) (by omega))
  refine Matches.unremembered .namedExpression rfl ?_
  refine Misses.orElse_matches hassignment (Misses.orElse_matches (misses_diagnosis hi.sound _)
    (Matches.orElse_left (Matches.bind h fun v => ?_)))
  refine Matches.bind (Misses.notAhead ((hi.known next hnext).misses_sign (by decide))) fun _ => ?_
  exact Matches.pure fun _ hm => hm

/-- An item that is an expression. -/
theorem matches_slice {d : Nat} (hi : Phrasal i) (hplace : place < next) (hnext : next < i.scan.tokens.size)
    (h : Rereads i d e place next) (h' : Rereads i (d + 1) e place next) :
    Matches i (slice (Rule.reader (d + 1))) place next
      (Primed i .expression (fun v : Located => v.expr = e) place next) fun v m =>
        v.expr = e ∧ Noted i .expression (fun v : Located => v.expr = e) place next m := by
  refine Misses.orElse_matches (S := Noted i .expression (fun v : Located => v.expr = e) place next)
    (Misses.here_bind (Matches.bind_misses (Matches.optional h') fun o => Misses.bind ?_)) ?_
  · refine ((hi.known next hnext).misses_sign (by decide)).mono ?_ fun _ => id
    rintro m ⟨v, -, -, hm⟩
    exact hm
  · exact (matches_named hi hplace hnext h).mono (fun _ => .inr) fun _ _ => id

end FluentBuilder.Syntax.Grammar
