import FluentBuilder.Proofs.Syntax.Loops

/-!
# Phrases are read

A text of the lexemes of a phrase is read as the expression that they spell (`parseExpression_textOf`). This
is shown for each part of a phrase wherever it stands, by induction over what its lexemes spell
(`partRuns_of_spells`), with as many steps as the lexemes ask for.

Rules that fail are tried before the one that reads. Where a bracket is closed at once all rules fail
(`misses_reader`), and they leave nothing behind that an expression could be found noted as.
-/

namespace FluentBuilder.Syntax.Grammar

open Grammar.Parser

variable {α : Type} {i : Input} {place mid next : Nat} {P : Memo → Prop} {e : Expr} {rules : Rules}

/-! ### Brackets -/

section Brackets

variable {d k : Nat} {es : List Expr} {o : Option Lexeme}

/-- What stands between the brackets behind a value is an item. -/
theorem itemOf_slice {other : Parser Located} (hi : Phrasal i) (hd : 14 * k + 14 ≤ d) :
    ItemOf i k (slice (Rule.reader d) <|> other) := by
  intro e place next hread hnext
  obtain ⟨d, rfl⟩ := Nat.exists_eq_add_one_of_ne_zero (show d ≠ 0 by omega)
  have hslice := matches_slice hi hread.1 hnext (hread.2 d (by omega)) (hread.2 (d + 1) (by omega))
  exact Matches.orElse_left (hslice.mono (fun _ => id) fun _ _ hm => ⟨hm.1, hm.2.2⟩)

/-- What stands in a list is an item. -/
theorem itemOf_starNamedExpression (hi : Phrasal i) (hd : 14 * k + 14 ≤ d) :
    ItemOf i k (starNamedExpression (Rule.reader d)) := by
  intro e place next hread hnext
  obtain ⟨d, rfl⟩ := Nat.exists_eq_add_one_of_ne_zero (show d ≠ 0 by omega)
  have hplace := hi.known place (Nat.lt_trans hread.1 hnext)
  have hnamed := matches_named hi hread.1 hnext (hread.2 d (by omega))
  exact Misses.orElse_matches (Misses.here_bind (Misses.bind (hplace.misses_sign (by decide))))
    (hnamed.mono (fun _ => id) fun _ _ hm => ⟨hm.1, hm.2.2⟩)

/-- One argument. -/
theorem matches_slices_one (hi : Phrasal i) (hread : Legible i k e place next) (hd : 14 * k + 14 ≤ d)
    (hat : At i next (some .closing)) :
    ReadsAs i (slices (Rule.reader d)) e place next := by
  obtain ⟨d, rfl⟩ := Nat.exists_eq_add_one_of_ne_zero (show d ≠ 0 by omega)
  have hslice : ReadsAs i (slice (Rule.reader (d + 1))) e place next :=
    (matches_slice hi hread.1 hat.lt_size (hread.2 d (by omega)) (hread.2 (d + 1) (by omega))).mono
      (fun _ => .inl) fun _ _ hm => ⟨hm.1, hm.2.2⟩
  refine Matches.orElse_left (Matches.bind hslice fun v => ?_)
  exact Matches.bind (Misses.notAhead (misses_sign hat (by decide))) fun _ => Matches.pure fun _ => id

/-- Several arguments: the first one is read, and read again as one of them. -/
theorem matches_slices_tuple (hi : Phrasal i) (hread : Legible i k e place mid) (hd : 14 * k + 14 ≤ d)
    (hcomma : At i mid (some .comma)) (hat : At i next (some .closing))
    (hall : ∀ p, ItemOf i k p → Matches i (separated p (sign ",")) place next
      (Primed i .expression (fun v : Located => v.expr = e) place mid) fun l m =>
        l.map Located.expr = es ∧ Fresh i next m) :
    ReadsAs i (slices (Rule.reader d)) (.tuple es) place next := by
  obtain ⟨d, rfl⟩ := Nat.exists_eq_add_one_of_ne_zero (show d ≠ 0 by omega)
  have hslice := matches_slice hi hread.1 hcomma.lt_size (hread.2 d (by omega)) (hread.2 (d + 1) (by omega))
  refine Misses.orElse_matches (S := Noted i .expression (fun v : Located => v.expr = e) place mid)
    (Matches.bind_misses (hslice.mono (fun _ => .inl) fun _ _ => id) fun v => Misses.bind ?_) ?_
  · exact Matches.notAhead (matches_sign hcomma (by decide)) fun _ _ hm => hm.2
  · refine Matches.here_bind (Matches.bind
      ((hall _ (itemOf_slice hi (by omega))).mono (fun _ => .inr) fun _ _ => id) fun items => ?_)
    refine Matches.bind (Misses.optional (misses_sign hat (by decide))) fun _ => Matches.pure ?_
    rintro m ⟨-, hitems, hm⟩
    exact ⟨congrArg Expr.tuple hitems, hm⟩

/-- A list. -/
theorem matches_listDisplay (hi : Phrasal i) (hd : 14 * k + 14 ≤ d)
    (hopening : At i place (some .opening)) (hat : At i next (some .closing))
    (hall : ∀ p, ItemOf i k p → Matches i (separated p (sign ",")) (place + 1) next
      (Primed i .expression (fun v : Located => v.expr = e) (place + 1) mid) fun l m =>
        l.map Located.expr = es ∧ Fresh i next m) :
    ReadsAs i (listDisplay (Rule.reader d)) (.list es) place (next + 1) := by
  refine Matches.here_bind (Matches.bind (matches_sign hopening (by decide)) fun _ => ?_)
  have hitems : Matches i (starNamedExpressions (Rule.reader d)) (place + 1) next (Fresh i place)
      fun l m => l.map Located.expr = es ∧ Fresh i next m :=
    Matches.bind ((hall _ (itemOf_starNamedExpression hi hd)).mono
      (fun _ hm => .inl (hm.mono (Nat.le_succ place))) fun _ _ => id) fun l =>
      Matches.bind (Misses.optional (misses_sign hat (by decide))) fun _ =>
        Matches.pure fun _ hm => hm.2
  refine Matches.bind (Matches.optional hitems) fun items => ?_
  refine Matches.bind (matches_sign hat (by decide)) fun _ => Matches.pure ?_
  rintro m ⟨l, rfl, hl, hm⟩
  exact ⟨congrArg Expr.list hl, hm.mono (Nat.le_succ next)⟩

end Brackets

/-! ### Where nothing is read -/

/-- The rules through which an expression is read. -/
def ladder : List Rule :=
  [.expression, .namedExpression, .disjunction, .conjunction, .inversion, .bitOr, .bitXor, .bitAnd, .shift,
    .sum, .term, .factor, .awaited, .primary]

/-- A sign is no name, no word and no constant. -/
theorem misses_words (rules : Rules) {l : Lexeme} (hi : Phrasal i) (hat : At i place (some l))
    (hl : l.kind = .sign) :
    Misses i nameExpr place P P ∧
      (∀ word value, Misses i (constantWord word value) place P P) ∧
      Misses i (do ahead (ofKind .quoted); rules .quotedTexts : Parser Located) place P P ∧
      Misses i numberConstant place P P := by
  have hknown := hi.known place hat.lt_size
  refine ⟨?_, fun word value => ?_, ?_, ?_⟩
  · refine Misses.here_bind (Misses.bind (Misses.bind (misses_ofKind hat ?_)))
    show l.kind ≠ .name
    rw [hl]
    decide
  · refine Misses.here_bind (Misses.bind (misses_keyword hat ?_))
    rw [isToken, hl]
    rfl
  · exact Misses.bind (Misses.ahead (hknown.misses_ofKind (by decide)))
  · exact Misses.here_bind (Misses.bind (hknown.misses_ofKind (by decide)))

/-- No atom begins with a bracket that is closed. -/
theorem misses_atom (hi : Phrasal i) (hat : At i place (some .closing)) :
    Misses i (atom rules) place P P := by
  obtain ⟨hname, hword, hquoted, hnumber⟩ := misses_words (P := P) rules hi hat rfl
  have hsign {text : String} (ht : isToken .sign text (some .closing) = false) :
      Misses i (ahead (sign text)) place P P := Misses.ahead (misses_sign hat ht)
  refine Misses.choice fun p hp => ?_
  simp only [List.mem_cons, List.not_mem_nil, or_false] at hp
  rcases hp with rfl | rfl | rfl | rfl | rfl | rfl | rfl | rfl | rfl | rfl
  · exact hname
  · exact hword _ _
  · exact hword _ _
  · exact hword _ _
  · exact hquoted
  · exact hnumber
  · exact Misses.bind (hsign (by decide))
  · exact Misses.bind (hsign (by decide))
  · exact Misses.bind (hsign (by decide))
  · exact Misses.here_bind (Misses.bind (misses_sign hat (by decide)))

/-- **Where a bracket is closed nothing is read**, whatever rule is tried. -/
theorem misses_reader (hi : Phrasal i) (hat : At i place (some .closing)) (d : Nat) :
    ∀ rule ∈ ladder, Misses i (Rule.reader d rule) place (Clear i place) (Clear i place) := by
  have hknown := hi.known place hat.lt_size
  induction d with
  | zero => exact fun rule _ progress hm => ⟨progress, rfl, hm⟩
  | succ d ih =>
    have hname := (misses_words (P := Clear i place) (Rule.reader d) hi hat rfl).1
    have hleft {operators : List (String × BinaryOp)} {operand : Parser Located}
        (h : Misses i operand place (Clear i place) (Clear i place)) :
        Misses i (leftAssociative operators operand) place (Clear i place) (Clear i place) :=
      Misses.here_bind (Misses.bind h)
    intro rule hrule
    refine Misses.memoised ?_
    simp only [ladder, List.mem_cons, List.not_mem_nil, or_false] at hrule
    rcases hrule with rfl | rfl | rfl | rfl | rfl | rfl | rfl | rfl | rfl | rfl | rfl | rfl | rfl | rfl
    · have hdisjunction := ih .disjunction (by decide)
      have hlambda : Misses i (lambda (Rule.reader d)) place (Clear i place) (Clear i place) :=
        Misses.here_bind (Misses.bind (hknown.misses_keyword (by decide)))
      exact Misses.orElse (misses_diagnosis hi.sound _) (Misses.orElse (misses_diagnosis hi.sound _)
        (Misses.orElse (Misses.orElse (Misses.here_bind (Misses.bind hdisjunction))
          (Misses.orElse hdisjunction (Misses.orElse hlambda Misses.miss))) Misses.miss))
    · exact Misses.orElse (Misses.bind hname)
        (Misses.orElse (misses_diagnosis hi.sound _)
          (Misses.orElse (Misses.bind (ih .expression (by decide))) Misses.miss))
    · exact Misses.here_bind (Misses.bind (ih .conjunction (by decide)))
    · exact Misses.here_bind (Misses.bind (ih .inversion (by decide)))
    · exact Misses.orElse (Misses.here_bind (Misses.bind (hknown.misses_keyword (by decide))))
        (Misses.here_bind (Misses.bind (ih .bitOr (by decide))))
    · exact hleft (ih .bitXor (by decide))
    · exact hleft (ih .bitAnd (by decide))
    · exact hleft (ih .shift (by decide))
    · exact hleft (ih .sum (by decide))
    · exact hleft (ih .term (by decide))
    · exact hleft (ih .factor (by decide))
    · exact Misses.orElse (hknown.misses_signed (by decide))
        (Misses.orElse (hknown.misses_signed (by decide))
          (Misses.orElse (hknown.misses_signed (by decide))
            (Misses.orElse (Misses.here_bind (Misses.bind (ih .awaited (by decide)))) Misses.miss)))
    · exact Misses.orElse (Misses.here_bind (Misses.bind (hknown.misses_keyword (by decide))))
        (ih .primary (by decide))
    · exact Misses.here_bind (Misses.bind (misses_atom hi hat))

/-- A list without items. -/
theorem matches_listDisplay_nil {d : Nat} (hi : Phrasal i) (hopening : At i place (some .opening))
    (hat : At i (place + 1) (some .closing)) :
    ReadsAs i (listDisplay (Rule.reader d)) (.list []) place (place + 2) := by
  have hknown := hi.known (place + 1) hat.lt_size
  have hitems : Misses i (starNamedExpressions (Rule.reader d)) (place + 1) (Fresh i place)
      (Fresh i (place + 2)) := by
    refine (Misses.bind (S := Clear i (place + 1)) (Misses.bind (Misses.orElse
      (Misses.here_bind (Misses.bind (hknown.misses_sign (by decide))))
      (misses_reader hi hat d .namedExpression (by decide))))).mono (fun m hm => ?_) fun m hm => hm.1
    exact (hm.mono (Nat.le_succ place)).clear
  refine Matches.here_bind (Matches.bind (matches_sign hopening (by decide)) fun _ => ?_)
  refine Matches.bind (Misses.optional hitems) fun items => ?_
  refine Matches.bind (matches_sign hat (by decide)) fun _ => Matches.pure ?_
  rintro m ⟨rfl, hm⟩
  exact ⟨rfl, hm⟩

/-! ### Atoms -/

section Atoms

/-- A name. -/
theorem atom_name {w : String} (hat : At i place (some (.word w))) (hw : IsName w) :
    ReadsAs i (atom rules) (.name w) place (place + 1) := by
  obtain ⟨t, ht, hkind, htext⟩ := hat
  have hname : t.kind = .name := hkind.trans hw.kind_eq
  have hnormal : nameOf t = w := by
    rw [nameOf, htext]
    exact hw.normal
  refine Matches.orElse_left ((matches_nameExpr ht hname).mono (fun _ => id) fun v m hm => ?_)
  exact ⟨by rw [hm.1, hnormal], hm.2.mono (Nat.le_succ place)⟩

/-- The absent value. -/
theorem atom_none (hat : At i place (some (.word "None"))) :
    ReadsAs i (atom rules) (.constant .none) place (place + 1) := by
  have hname : Misses i nameExpr place (Fresh i place) (Fresh i place) :=
    Misses.here_bind (Misses.bind (Misses.bind (misses_ofKind hat (by decide))))
  have hword {text : String} {value : Constant} (ht : isToken .keyword text (some (.word "None")) = false) :
      Misses i (constantWord text value) place (Fresh i place) (Fresh i place) :=
    Misses.here_bind (Misses.bind (misses_keyword hat ht))
  refine Misses.orElse_matches hname (Misses.orElse_matches (hword (by decide))
    (Misses.orElse_matches (hword (by decide)) (Matches.orElse_left ?_)))
  exact Matches.here_bind (Matches.bind (matches_keyword hat (by decide)) fun _ =>
    Matches.pure fun m hm => ⟨rfl, hm.mono (Nat.le_succ place)⟩)

/-- Three points. -/
theorem atom_points (hi : Phrasal i) (hat : At i place (some .points)) :
    ReadsAs i (atom rules) (.constant .ellipsis) place (place + 1) := by
  obtain ⟨hname, hword, hquoted, hnumber⟩ :=
    misses_words (P := Fresh i place) rules hi hat rfl
  have hsign {text : String} (ht : isToken .sign text (some .points) = false) :
      Misses i (ahead (sign text)) place (Fresh i place) (Fresh i place) :=
    Misses.ahead (misses_sign hat ht)
  refine Misses.orElse_matches hname (Misses.orElse_matches (hword _ _)
    (Misses.orElse_matches (hword _ _) (Misses.orElse_matches (hword _ _)
      (Misses.orElse_matches hquoted (Misses.orElse_matches hnumber ?_)))))
  refine Misses.orElse_matches (Misses.bind (hsign (by decide)))
    (Misses.orElse_matches (Misses.bind (hsign (by decide)))
      (Misses.orElse_matches (Misses.bind (hsign (by decide))) (Matches.orElse_left ?_)))
  exact Matches.here_bind (Matches.bind (matches_sign hat (by decide)) fun _ =>
    Matches.pure fun m hm => ⟨rfl, hm.mono (Nat.le_succ place)⟩)

/-- A list. -/
theorem atom_list {es : List Expr} (hi : Phrasal i) (hat : At i place (some .opening))
    (h : ReadsAs i (listDisplay rules) (.list es) place next) :
    ReadsAs i (atom rules) (.list es) place next := by
  obtain ⟨hname, hword, hquoted, hnumber⟩ :=
    misses_words (P := Fresh i place) rules hi hat rfl
  refine Misses.orElse_matches hname (Misses.orElse_matches (hword _ _)
    (Misses.orElse_matches (hword _ _) (Misses.orElse_matches (hword _ _)
      (Misses.orElse_matches hquoted (Misses.orElse_matches hnumber ?_)))))
  refine Misses.orElse_matches (Misses.bind (Misses.ahead (misses_sign hat (by decide))))
    (Matches.orElse_left ?_)
  exact Matches.bind (Matches.ahead (matches_sign hat (by decide)) fun _ _ => id) fun _ =>
    Matches.orElse_left h

end Atoms

/-! ### Phrases -/

/-- What the lexemes of a part of a phrase are read as, wherever they stand. -/
def PartRuns (i : Input) (e : Expr) (ls : List Lexeme) : Part → Prop
  | .value => ∀ d place, 14 * ls.length ≤ d → Stands i place ls →
      ValueRuns i d e place (place + ls.length) ls.length
  | .union => ∀ d place, 14 * ls.length + 8 ≤ d → Stands i place ls →
      ∀ o ∈ valueEnds, At i (place + ls.length) o → UnionRuns i d e place (place + ls.length) ls.length
  | .items => ∀ k place, ls.length ≤ k → Stands i place ls → ∀ o ∈ unionEnds, At i (place + ls.length) o →
      ∃ es, e = .tuple es ∧ ItemsRun i k es place (place + ls.length) ls.length

section Parts

variable {ls : List Lexeme} {o : Option Lexeme} {d : Nat}

/-- A value in front of what ends it. -/
theorem bitXor_of_value (hi : Phrasal i) (h : PartRuns i e ls .value) (hne : 0 < ls.length)
    (hd : 14 * ls.length + 8 ≤ d) (hstands : Stands i place ls) (ho : o ∈ valueEnds)
    (hat : At i (place + ls.length) o) :
    ReadsAs i (Rule.reader d .bitXor) e place (place + ls.length) := by
  obtain ⟨d, rfl⟩ := Nat.exists_eq_add_of_le' (show 8 ≤ d by omega)
  have hsize := hat.lt_size
  exact ((h d place (by omega) hstands).primary hi (by omega) hat ho).bitXor hi (by omega) hsize

/-- A union in front of what ends it. -/
theorem legible_of_union {k : Nat} (hi : Phrasal i) (h : PartRuns i e ls .union) (hne : 0 < ls.length)
    (hk : ls.length ≤ k) (hstands : Stands i place ls) (ho : o ∈ unionEnds)
    (hat : At i (place + ls.length) o) : Legible i k e place (place + ls.length) := by
  have hsize := hat.lt_size
  have hends : o ∈ valueEnds := by
    simp only [unionEnds, List.mem_cons, List.not_mem_nil, or_false] at ho
    rcases ho with rfl | rfl | rfl <;> simp [valueEnds]
  refine ⟨by omega, fun d hd => ?_⟩
  obtain ⟨d, rfl⟩ := Nat.exists_eq_add_of_le' (show 5 ≤ d by omega)
  have hunion := h d place (by omega) hstands o hends hat
  exact (hunion.bitOr (by omega) hat ho).expression hi (by omega) hsize

end Parts

/-- The number of lexemes with others in brackets behind them. -/
theorem length_indexed (ls ls' : List Lexeme) :
    (ls ++ Lexeme.opening :: (ls' ++ [.closing])).length = ls.length + 1 + ls'.length + 1 := by
  simp only [List.length_append, List.length_cons, List.length_nil]
  omega

/-- The number of lexemes with one between them. -/
theorem length_joined (ls ls' : List Lexeme) (l : Lexeme) :
    (ls ++ l :: ls').length = ls.length + 1 + ls'.length := by
  simp only [List.length_append, List.length_cons]
  omega

/-- **The parts of a phrase are read as what they spell.** -/
theorem partRuns_of_spells (hi : Phrasal i) {n : Nat} {part : Part} {e : Expr} {ls : List Lexeme}
    (h : Spells n part e ls) : PartRuns i e ls part := by
  induction h with
  | name hw =>
    intro d place hd hstands
    exact .ofAtom (atom_name hstands.1 hw)
  | none =>
    intro d place hd hstands
    exact .ofAtom (atom_none hstands.1)
  | points =>
    intro d place hd hstands
    exact .ofAtom (atom_points hi hstands.1)
  | @member n e ls w h hw ih =>
    intro d place hd hstands
    rw [List.length_append] at hd
    obtain ⟨hvalue, hpoint, hword, -⟩ := stands_append.mp hstands
    have hruns := (ih d place (by omega) hvalue).step fun left start hleft =>
      matches_member hpoint hword hw hleft
    rw [List.length_append, ← Nat.add_assoc]
    exact hruns.mono (by simp)
  | @item n e ls index ls' h hindex ih ihindex =>
    intro d place hd hstands
    obtain ⟨hvalue, hopening, hclosed⟩ := stands_append.mp hstands
    obtain ⟨hinside, hclosing, -⟩ := stands_append.mp hclosed
    have hlength := length_indexed ls ls'
    have hread := legible_of_union hi ihindex hindex.length_pos (Nat.le_refl _) hinside (by decide) hclosing
    have hslices := matches_slices_one (d := d) hi hread (by omega) hclosing
    have hruns := (ih d place (by omega) hvalue).step fun left start hleft =>
      matches_item hi hopening hslices hclosing hleft
    rw [hlength, ← Nat.add_assoc, ← Nat.add_assoc, ← Nat.add_assoc]
    exact hruns.mono (by omega)
  | @tuple n e ls es ls' h htwo hitems ih ihitems =>
    intro d place hd hstands
    obtain ⟨hvalue, hopening, hclosed⟩ := stands_append.mp hstands
    obtain ⟨hinside, hclosing, -⟩ := stands_append.mp hclosed
    have hlength := length_indexed ls ls'
    have hsize := hclosing.lt_size
    obtain ⟨es', heq, hrun⟩ := ihitems ls'.length _ (Nat.le_refl _) hinside _ (by decide) hclosing
    obtain rfl := Expr.tuple.inj heq
    obtain ⟨first, mid, hread, hbehind, hall⟩ := hrun.separated (by omega) hclosing (by decide)
    rcases hbehind with ⟨rfl, -⟩ | ⟨-, hcomma⟩
    · exact absurd htwo (Nat.not_succ_le_self 1)
    · have hslices := matches_slices_tuple (d := d) hi hread (by omega) hcomma hclosing hall
      have hruns := (ih d place (by omega) hvalue).step fun left start hleft =>
        matches_item hi hopening hslices hclosing hleft
      rw [hlength, ← Nat.add_assoc, ← Nat.add_assoc, ← Nat.add_assoc]
      exact hruns.mono (by omega)
  | empty =>
    intro d place hd hstands
    exact .ofAtom (atom_list hi hstands.1 (matches_listDisplay_nil hi hstands.1 hstands.2.1))
  | @list n es ls hitems ih =>
    intro d place hd hstands
    obtain ⟨hopening, hclosed⟩ := hstands
    obtain ⟨hinside, hclosing, -⟩ := stands_append.mp hclosed
    have hlength : (Lexeme.opening :: (ls ++ [.closing])).length = 1 + ls.length + 1 := by
      simp
      omega
    have hsize := hclosing.lt_size
    obtain ⟨es', heq, hrun⟩ := ih ls.length _ (Nat.le_refl _) hinside _ (by decide) hclosing
    obtain rfl := Expr.tuple.inj heq
    obtain ⟨first, mid, -, -, hall⟩ := hrun.separated (by omega) hclosing (by decide)
    rw [hlength, ← Nat.add_assoc, ← Nat.add_assoc]
    exact .ofAtom (atom_list hi hopening (matches_listDisplay hi (by omega) hopening hclosing hall))
  | single h ih =>
    intro d place hd hstands o ho hat
    exact .ofValue (bitXor_of_value hi ih h.length_pos hd hstands ho hat)
  | @either n left right ls ls' hleft hright ih ih' =>
    intro d place hd hstands o ho hat
    obtain ⟨hfirst, hbar, hsecond⟩ := stands_append.mp hstands
    have hlength := length_joined ls ls' .bar
    rw [hlength, ← Nat.add_assoc, ← Nat.add_assoc] at hat ⊢
    have hvalue := bitXor_of_value (d := d) hi ih' hright.length_pos (by omega) hsecond ho hat
    have hruns := (ih d place (by omega) hfirst _ (by decide) hbar).step hbar hvalue
    exact hruns.mono (by omega)
  | first h ih =>
    intro k place hk hstands o ho hat
    exact ⟨_, rfl, .one (legible_of_union hi ih h.length_pos hk hstands ho hat)⟩
  | @next n es e ls ls' hitems h ih ih' =>
    intro k place hk hstands o ho hat
    obtain ⟨hfirst, hcomma, hsecond⟩ := stands_append.mp hstands
    have hlength := length_joined ls ls' .comma
    rw [hlength, ← Nat.add_assoc, ← Nat.add_assoc] at hat ⊢
    obtain ⟨es', heq, hrun⟩ := ih k place (by omega) hfirst _ (by decide) hcomma
    obtain rfl := Expr.tuple.inj heq
    have hread := legible_of_union (k := k) hi ih' h.length_pos (by omega) hsecond ho hat
    exact ⟨_, rfl, (hrun.step hcomma hread hat.lt_size).mono (by omega)⟩

/-! ### Texts -/

/-- An expression that takes up the whole text. -/
theorem matches_wholeExpression {d n : Nat} {ls : List Lexeme} (hi : Phrasal i)
    (h : Spells n .union e ls) (hd : 14 * ls.length + 13 ≤ d) (hstands : Stands i 0 ls)
    (hat : At i ls.length none) :
    Matches i (wholeExpression (Rule.reader d)) 0 (ls.length + 1) (Fresh i 0) fun v _ => v = e := by
  have hend : At i (0 + ls.length) none := by rwa [Nat.zero_add]
  have hread := legible_of_union hi (partRuns_of_spells hi h) h.length_pos (Nat.le_refl _) hstands
    (by decide) hend
  rw [Nat.zero_add] at hread
  have hexpression : ReadsAs i (Rule.reader d .expression) e 0 ls.length :=
    (hread.2 d hd).mono (fun _ => .inl) fun _ _ hm => ⟨hm.1, hm.2.2⟩
  have hcomma {P : Memo → Prop} : Misses i (sign ",") ls.length P P := misses_sign hat (by decide)
  have hexpressions : Matches i (expressions (Rule.reader d)) 0 ls.length (Fresh i 0) fun v _ =>
      v.expr = e := by
    refine Matches.here_bind (Matches.bind hexpression fun first => ?_)
    refine Matches.bind (matches_many_nil (Misses.bind hcomma)) fun rest => ?_
    rintro progress ⟨rfl, hm⟩
    obtain ⟨comma, later, heq, rfl, -⟩ := (hcomma (P := fun _ => True)).optional progress trivial
    refine ⟨first, later, ?_, hm.1⟩
    show Parser.bind (Parser.optional (sign ",")) _ i ls.length progress = _
    rw [Parser.bind, heq]
    rfl
  refine Matches.bind hexpressions fun v => ?_
  refine Matches.bind (matches_many_nil (misses_ofKind hat (by decide))) fun _ => ?_
  refine Matches.bind (matches_finish hat) fun _ => Matches.pure ?_
  rintro m ⟨-, hv⟩
  exact hv

/-- The tokens of the lexemes of a phrase stand in its text, and nothing else does. -/
theorem stands_of_shows {tokens : List Token} {ls : List Lexeme} (h : List.Forall₂ Token.Shows tokens ls)
    (skipped rest : List Token) (hi : i.scan.tokens = (skipped ++ (tokens ++ rest)).toArray) :
    Stands i skipped.length ls := by
  induction h generalizing skipped with
  | nil => trivial
  | @cons t l tokens ls hshows hrest ih =>
    refine ⟨⟨t, by rw [hi]; simp, hshows⟩, ?_⟩
    have hskipped : (skipped ++ [t]).length = skipped.length + 1 := by simp
    rw [← hskipped]
    exact ih (skipped ++ [t]) (by rw [hi]; simp)

/-- A text that matches at the first attempt. -/
theorem readText_of_matched {whole : Rules → Parser α} {fields : Literal.FieldReader} {source : SourceText}
    {scan : Scan} {v : α} {later : Progress} (hscan : Scan.ofSource source = scan)
    (h : whole (Rule.reader (64 * (scan.tokens.size + 2))) ⟨source, scan, false, fields⟩ 0
      ⟨0, Array.replicate (scan.tokens.size + 1) []⟩ = .matched v next later) :
    readText whole fields source = .ok v := by
  subst hscan
  unfold readText
  dsimp only
  rw [h]

end FluentBuilder.Syntax.Grammar

namespace FluentBuilder.Syntax

open Grammar

/-- All tokens of the text of a phrase are known. -/
theorem phrasal_of_shows {i : Input} {n : Nat} {ls : List Lexeme} {shown : List Token} {last : Token}
    (hsound : i.diagnosing = false) (hformed : Formed n ls) (hshown : List.Forall₂ Token.Shows shown ls)
    (hlast : last.kind = .finish) (hi : i.scan.tokens = (shown ++ [last]).toArray) : Phrasal i := by
  refine ⟨hsound, fun place hplace => ?_⟩
  have hsize : i.scan.tokens.size = shown.length + 1 := by rw [hi]; simp
  by_cases hlt : place < shown.length
  · have hls : place < ls.length := hshown.length_eq ▸ hlt
    have hshows : shown[place].Shows ls[place] := hshown.get hlt hls
    refine ⟨some ls[place], ⟨shown[place], ?_, hshows⟩, fun w hw => ?_⟩
    · rw [hi, List.getElem?_toArray, List.getElem?_append_left hlt, List.getElem?_eq_getElem hlt]
    · have hmem : Lexeme.word w ∈ ls := Option.some.inj hw ▸ List.getElem_mem hls
      exact (hformed.words w hmem).2
  · obtain rfl : place = shown.length := by omega
    exact ⟨none, ⟨last, by rw [hi]; simp, hlast⟩, nofun⟩

/-- **The text of a phrase is read as the expression that it spells.** -/
theorem parseExpression_textOf {e : Expr} {ls : List Lexeme} (h : Spells 200 .union e ls) :
    parseExpression (textOf ls) = .ok e := by
  have hformed := h.formed
  obtain ⟨l, hl, hbegins⟩ := hformed.begins
  obtain ⟨first, rfl⟩ : ∃ first, ls = l :: first := ⟨ls.tail, (List.cons_head?_tail hl).symm⟩
  have hwords : ∀ w, Lexeme.word w ∈ l :: first → Text.isIdentifier w = true :=
    fun w hw => (hformed.words w hw).1
  obtain ⟨tokens, hscan, shown, last, rfl, hshown, hlast⟩ :=
    scan_charsOf hbegins hformed.chain hwords (hformed.depth 0 (by omega))
  have hne : charsOf (l :: first) ≠ [] := by
    obtain ⟨c, cs, hchars, -⟩ := exists_charsOf_of_begins hbegins hwords
    rw [hchars]
    exact List.cons_ne_nil c cs
  let depth := (charsOf (l :: first)).length + 1
  let i : Input := ⟨.ofText [charsOf (l :: first)] none, ⟨(shown ++ [last]).toArray, none⟩, false,
    readField depth⟩
  have hlength : shown.length = (l :: first).length := hshown.length_eq
  have hphrasal : Phrasal i := phrasal_of_shows rfl hformed hshown hlast rfl
  have hstands : Stands i 0 (l :: first) := stands_of_shows hshown [] [last] rfl
  have hat : At i (l :: first).length none := ⟨last, by simp [i, ← hlength], hlast⟩
  have hsize : i.scan.tokens.size = shown.length + 1 := by simp [i]
  have hfresh : Fresh i 0 (Array.replicate (i.scan.tokens.size + 1) []) := by
    refine ⟨by simp, fun other _ => ?_⟩
    simp only [Array.getD_eq_getD_getElem?, Array.getElem?_replicate]
    split <;> rfl
  obtain ⟨v, later, heq, rfl⟩ :=
    matches_wholeExpression (d := 64 * (i.scan.tokens.size + 2)) hphrasal h (by omega) hstands hat
      ⟨0, Array.replicate (i.scan.tokens.size + 1) []⟩ hfresh
  rw [parseExpression, readWith_textOf _ hne hwords, readText_of_matched hscan heq]
  rfl

end FluentBuilder.Syntax
