import FluentBuilder.Proofs.Outcome
import FluentBuilder.Proofs.Syntax.Consumption
import FluentBuilder.Proofs.Syntax.Statements
import FluentBuilder.Proofs.Syntax.Unescape
import FluentBuilder.Syntax.Interpolation
import Mathlib.Algebra.Order.BigOperators.Group.List

/-!
# What is quoted in a text is shorter than the text

An expression holds texts (`Expr.Holds`), and each of them has less characters than the text that the
expression was read from (`holdsBelow_of_parseExpression`). So a text that is read again, because it
stands for the expression that is written in it, leads to ever shorter texts.

**The route.** To hold only texts below some length is inherited, so that it is enough to look at quoted
constants. The inside of a quoted token is shorter than the token (`Literal.length_body_lt`), and the code
points that it stands for are no more than its characters. Adjacent tokens without replacement fields make
up one text, whose length is the sum (`Literal.concatenate_of_isCarrier`). What `many1` reads of them is a
row of tokens that stand next to each other (`Row`, `row_of_many1`); together these have no more characters
than the text, and the value that they make up is shorter than they are.
-/

namespace FluentBuilder.Syntax

/-! ### Quoted constants -/

namespace Literal

/-- The characters between the quotes are less than those of the token. -/
theorem length_body_lt {cs : List Char} (h : 0 < cs.length) :
    (Quotation.ofToken cs).body.length < cs.length := by
  have hbody : (Quotation.ofToken cs).body.length ≤
      (cs.drop (cs.takeWhile Char.isAlpha).length).length - 2 * (Quotation.ofToken cs).quotes :=
    List.length_take_le _ _
  have hquotes : 0 < (Quotation.ofToken cs).quotes := by
    simp only [Quotation.ofToken]
    split
    · split <;> decide
    · decide
  rw [List.length_drop] at hbody
  omega

/-- A quoted token of a row of texts without fields holds the code points of its inside. -/
theorem Part.content_eq_ok {readField : FieldReader} {part : Part} {held : Content}
    (hfields : (Quotation.ofToken part.written).hasFields = false)
    (h : part.content readField false = .ok held) :
    ∃ codes : CodePoints, held = .pieces [.text codes] ∧
      codes.length ≤ (Quotation.ofToken part.written).body.length := by
  obtain ⟨plain, hplain, h⟩ := Outcome.bind_eq_ok_iff.mp h
  rw [Outcome.mapError_eq_ok_iff] at hplain
  cases hbytes : (Quotation.ofToken part.written).isBytes with
  | true => simp [hbytes] at h
  | false =>
    simp only [hfields, hbytes, Bool.false_eq_true, if_false] at hplain
    simp only [hbytes, hfields, bne_self_eq_false, Bool.false_eq_true, if_false] at h
    obtain rfl : plain = held := Except.ok.inj h
    cases hcodes : unescape (Quotation.ofToken part.written).isRaw (Quotation.ofToken part.written).body with
    | error cause =>
      rw [hcodes] at hplain
      cases hplain
    | ok codes =>
      rw [hcodes] at hplain
      exact ⟨codes, (Except.ok.inj hplain).symm, length_le_of_unescape hcodes⟩

/-- The code points that quoted tokens without fields hold together are less than their characters;
`codesOf` gives those of a text. -/
theorem length_codes_le {readField : FieldReader} {codesOf : Piece Expr → CodePoints}
    (htext : ∀ codes, codesOf (.text codes) = codes) {parts : List Part} {contents : List Content}
    (hfields : ∀ part ∈ parts, (Quotation.ofToken part.written).hasFields = false)
    (hwritten : ∀ part ∈ parts, 0 < part.written.length)
    (h : List.Forall₂ (fun part held => part.content readField false = .ok held) parts contents) :
    ((contents.flatMap Content.asPieces).flatMap codesOf).length + parts.length ≤
      (parts.map (·.written.length)).sum := by
  induction h with
  | nil => exact Nat.le_refl 0
  | @cons part held parts contents hcontent _ ih =>
    obtain ⟨codes, rfl, hcodes⟩ := Part.content_eq_ok (hfields part List.mem_cons_self) hcontent
    have hbody := length_body_lt (hwritten part List.mem_cons_self)
    have hrest := ih (fun p hp => hfields p (List.mem_cons_of_mem _ hp))
      fun p hp => hwritten p (List.mem_cons_of_mem _ hp)
    simp only [List.flatMap_cons, Content.asPieces, List.flatMap_append, List.flatMap_nil,
      List.append_nil, List.length_append, List.length_cons, List.map_cons, List.sum_cons, htext]
    omega

/-- **Adjacent quoted tokens make up a form that is looked at by its parts only if they make up a text,
which is shorter than they are.** -/
theorem concatenate_of_isCarrier {readField : FieldReader} {parts : List Part} {value : Expr}
    (h : concatenate readField parts = .ok value) (hcarrier : value.isCarrier = true)
    (hwritten : ∀ part ∈ parts, 0 < part.written.length) :
    ∃ codes marked, value = .constant (.text codes marked) ∧
      codes.length + parts.length ≤ (parts.map (·.written.length)).sum := by
  obtain ⟨contents, hcontents, h⟩ := Outcome.bind_eq_ok_iff.mp h
  dsimp only at h
  split at h
  · obtain rfl := Except.ok.inj h
    cases hcarrier
  next hbytes =>
  split at h
  · obtain rfl := Except.ok.inj h
    cases hcarrier
  next hfields =>
  obtain rfl := Except.ok.inj h
  rw [Bool.not_eq_true] at hbytes
  rw [hbytes] at hcontents
  refine ⟨_, _, rfl, length_codes_le (fun codes => rfl) (fun part hpart => ?_) hwritten
    (Outcome.mapM_eq_ok_iff.mp hcontents)⟩
  simpa using fun hhas => hfields (List.any_eq_true.mpr ⟨_, List.mem_map_of_mem hpart, hhas⟩)

end Literal

/-! ### What an expression holds -/

/-- The texts that an expression holds at the places that it is looked at by: as values and indices of
items, as items of tuples and lists, and as sides of `|`. -/
inductive Expr.Holds (v : CodePoints) : Expr → Prop where
  /-- The text itself. -/
  | text (marked : Bool) : Holds v (.constant (.text v marked))
  /-- In the value of an item. -/
  | value {value index : Expr} : Holds v value → Holds v (.subscript value index)
  /-- In the index of an item. -/
  | index {value index : Expr} : Holds v index → Holds v (.subscript value index)
  /-- In a tuple. -/
  | tuple {items : List Expr} {e : Expr} : e ∈ items → Holds v e → Holds v (.tuple items)
  /-- In a list. -/
  | list {items : List Expr} {e : Expr} : e ∈ items → Holds v e → Holds v (.list items)
  /-- On the left of `|`. -/
  | left {left right : Expr} : Holds v left → Holds v (.binary .bitOr left right)
  /-- On the right of `|`. -/
  | right {left right : Expr} : Holds v right → Holds v (.binary .bitOr left right)

/-- All texts that an expression holds have less than `n` characters. -/
def Expr.HoldsBelow (n : Nat) (e : Expr) : Prop := ∀ v, e.Holds v → v.length < n

/-- To hold texts of less than `n` characters only is inherited. -/
theorem gathered_holdsBelow (n : Nat) : Gathered (.ofExpr (Expr.HoldsBelow n)) where
  plain hplain v hv := by cases hv <;> cases hplain
  name _ v hv := by cases hv
  member _ _ v hv := by cases hv
  subscript hvalue hindex v hv := by
    cases hv with
    | value hv => exact hvalue v hv
    | index hv => exact hindex v hv
  tuple hitems v hv := by
    cases hv with
    | tuple he hv => exact hitems _ he v hv
  list hitems v hv := by
    cases hv with
    | list he hv => exact hitems _ he v hv
  either hleft hright v hv := by
    cases hv with
    | left hv => exact hleft v hv
    | right hv => exact hright v hv
  importModules _ := trivial
  importFrom _ := trivial
  assign := trivial
  annotated _ _ := trivial
  classDef _ _ := trivial
  functionDef _ := trivial
  other := trivial

namespace Grammar

open Grammar.Parser

variable {i : Input} {P : Demand} {α β : Type} {Q : α → Prop}

/-! ### Rows of tokens -/

/-- What was matched by one parser after another. -/
theorem exists_of_bind {p : Parser α} {f : α → Parser β} {place next : Nat} {progress later : Progress}
    {b : β} (h : (p >>= f) i place progress = .matched b next later) :
    ∃ a mid between, p i place progress = .matched a mid between ∧
      f a i mid between = .matched b next later := by
  replace h : Parser.bind p f i place progress = .matched b next later := h
  rw [Parser.bind] at h
  cases hp : p i place progress with
  | matched a mid between =>
    rw [hp] at h
    exact ⟨a, mid, between, rfl, h⟩
  | missed between =>
    rw [hp] at h
    cases h
  | halted halt between =>
    rw [hp] at h
    cases h

/-- A token that was read by a test. -/
theorem token_of_tokenIf {test : Token → Bool} {place next : Nat} {progress later : Progress} {t : Token}
    (h : tokenIf test i place progress = .matched t next later) :
    next = place + 1 ∧ i.scan.tokens[place]? = some t ∧ test t = true := by
  obtain ⟨u, mid, between, htoken, h⟩ := exists_of_bind h
  have hu : i.scan.tokens[place]? = some u ∧ mid = place := by
    rw [token] at htoken
    split at htoken
    · next found =>
      cases htoken
      exact ⟨found, rfl⟩
    · split at htoken <;> cases htoken
  cases htest : test u with
  | false =>
    rw [htest] at h
    cases h
  | true =>
    rw [htest] at h
    cases h
    exact ⟨congrArg (· + 1) hu.2, hu.1, htest⟩

/-- The tokens of a kind stand next to each other, from a place on. -/
def Row (i : Input) (kind : TokenKind) (place : Nat) (tokens : List Token) : Prop :=
  tokens <+: i.scan.tokens.toList.drop place ∧ ∀ t ∈ tokens, t.kind = kind

/-- A token before a row of them. -/
theorem Row.cons {kind : TokenKind} {place : Nat} {t : Token} {tokens : List Token}
    (ht : i.scan.tokens[place]? = some t) (hkind : t.kind = kind) (h : Row i kind (place + 1) tokens) :
    Row i kind place (t :: tokens) := by
  refine ⟨?_, List.forall_mem_cons.mpr ⟨hkind, h.2⟩⟩
  rw [← Array.getElem?_toList] at ht
  obtain ⟨hlt, rfl⟩ := List.getElem?_eq_some_iff.mp ht
  rw [List.drop_eq_getElem_cons hlt]
  exact List.cons_prefix_cons.mpr ⟨rfl, h.1⟩

/-- What many tokens of a kind are read as: those that stand next to each other. -/
theorem row_of_loop {kind : TokenKind} {fuel : Nat} {found all : List Token} {place next : Nat}
    {progress later : Progress}
    (h : extendWhile.loop (fun found => do
        let value ← ofKind kind
        return value :: found) fuel found i place progress = .matched all next later) :
    ∃ read, all = read.reverse ++ found ∧ Row i kind place read := by
  have none (place : Nat) : Row i kind place [] :=
    ⟨List.nil_prefix, fun t ht => absurd ht List.not_mem_nil⟩
  induction fuel generalizing found place progress with
  | zero =>
    cases h
    exact ⟨[], rfl, none _⟩
  | succ fuel ih =>
    cases hstep : (do
        let value ← ofKind kind
        return value :: found : Parser (List Token)) i place progress with
    | matched grown mid between =>
      obtain ⟨t, after, progress, ht, hgrown⟩ := exists_of_bind hstep
      cases hgrown
      obtain ⟨rfl, htoken, htest⟩ := token_of_tokenIf ht
      rw [loop_of_matched hstep] at h
      obtain ⟨read, rfl, hread⟩ := ih h
      exact ⟨t :: read, by simp, hread.cons htoken (of_decide_eq_true htest)⟩
    | missed between =>
      rw [loop_of_missed hstep] at h
      cases h
      exact ⟨[], rfl, none _⟩
    | halted halt between =>
      rw [loop_of_halted hstep] at h
      cases h

/-- At least one token of a kind: a row of them. -/
theorem row_of_many1 {kind : TokenKind} {tokens : List Token} {place next : Nat}
    {progress later : Progress}
    (h : many1 (ofKind kind) i place progress = .matched tokens next later) :
    0 < tokens.length ∧ Row i kind place tokens := by
  obtain ⟨first, mid, between, hfirst, h⟩ := exists_of_bind h
  obtain ⟨rest, after, last, hrest, h⟩ := exists_of_bind h
  obtain ⟨found, before, far, hfound, hrest⟩ := exists_of_bind hrest
  cases h
  cases hrest
  obtain ⟨rfl, htoken, htest⟩ := token_of_tokenIf hfirst
  obtain ⟨read, rfl, hread⟩ := row_of_loop hfound
  rw [List.append_nil, List.reverse_reverse]
  exact ⟨Nat.succ_pos _, hread.cons htoken (of_decide_eq_true htest)⟩

namespace Keeps

/-- A parser of which it is known what it reads when it matches. -/
theorem of_matched {p : Parser α} (h : Passes i P p)
    (hmatched : ∀ place progress a next later, p i place progress = .matched a next later → Q a) :
    Keeps i P Q p := by
  intro place progress hbears
  have houtcome := h place progress hbears
  cases hresult : p i place progress with
  | matched a next later =>
    rw [hresult] at houtcome
    exact ⟨hmatched _ _ _ _ _ hresult, houtcome.2⟩
  | missed later =>
    rw [hresult] at houtcome
    exact houtcome
  | halted halt later => trivial

/-- The characters of a row of tokens are no more than those of all. -/
theorem extent_of_row {n place : Nat} {kind : TokenKind} {tokens : List Token}
    (h : Reader.Taken n 0 i.scan.tokens) (hrow : Row i kind place tokens) :
    (tokens.map (·.text.length)).sum ≤ n := by
  have hpart : tokens.Sublist i.scan.tokens.toList := hrow.1.sublist.trans (List.drop_sublist _ _)
  exact ((hpart.map _).sum_le_sum fun _ _ => Nat.zero_le _).trans h.extent

/-- Adjacent quoted constants are shorter than the text that they stand in. -/
theorem holdsBelow_of_concatenate {n place : Nat} {tokens : List Token} {value : Expr}
    {part : Token → Literal.Part} (hpart : ∀ t, (part t).written = t.text.toList)
    (h : Reader.Taken n 0 i.scan.tokens) (hpositive : 0 < tokens.length)
    (hrow : Row i .quoted place tokens)
    (hvalue : Literal.concatenate i.readField (tokens.map part) = .ok value) : value.HoldsBelow n := by
  cases hcarrier : value.isCarrier with
  | false => exact (gathered_holdsBelow n).plain hcarrier
  | true =>
    have hmem : ∀ t ∈ tokens, t ∈ i.scan.tokens.toList := fun t ht =>
      List.mem_of_mem_drop (hrow.1.subset ht)
    obtain ⟨codes, marked, rfl, hcodes⟩ := Literal.concatenate_of_isCarrier hvalue hcarrier fun p hp => by
      obtain ⟨t, ht, rfl⟩ := List.mem_map.mp hp
      rw [hpart, String.length_toList]
      exact h.quoted t (hmem t ht) (hrow.2 t ht)
    have hextent := extent_of_row h hrow
    rw [List.length_map, List.map_map] at hcodes
    intro v hv
    cases hv
    simp only [Function.comp_def, hpart, String.length_toList] at hcodes
    omega

/-- Quoted constants are shorter than the text that they stand in. -/
theorem quotedTexts {n : Nat} (h : Reader.Taken n 0 i.scan.tokens) :
    Reads i (.ofExpr (Expr.HoldsBelow n)) Grammar.quotedTexts := by
  have hrow : Keeps i (.ofExpr (Expr.HoldsBelow n))
      (fun tokens => 0 < tokens.length ∧ ∃ place, Row i .quoted place tokens)
      (Parser.many1 (Parser.ofKind .quoted)) :=
    of_matched (many1 (ofKind .quoted)).any fun place _ _ _ _ hmatched =>
      ⟨(row_of_many1 hmatched).1, place, (row_of_many1 hmatched).2⟩
  refine after here fun start => bind hrow fun tokens ⟨hpositive, place, hrow⟩ => ?_
  intro other progress hbears
  dsimp only
  split
  · next value hvalue =>
    exact ⟨holdsBelow_of_concatenate (fun t => rfl) h hpositive hrow hvalue, hbears⟩
  · trivial
  · trivial

end Keeps

/-- A text is read with success at the first attempt only, in which no mistakes are looked for. -/
theorem matched_of_readText {whole : Rules → Parser α} {readField : Literal.FieldReader}
    {source : SourceText} {value : α} (h : readText whole readField source = .ok value) :
    ∃ next later, whole (Rule.reader (64 * ((Scan.ofSource source).tokens.size + 2)))
      ⟨source, Scan.ofSource source, false, readField⟩ 0
      ⟨0, Array.replicate ((Scan.ofSource source).tokens.size + 1) []⟩ = .matched value next later := by
  rw [readText] at h
  split at h
  · next found next later hmatched =>
    obtain rfl := Except.ok.inj h
    exact ⟨next, later, hmatched⟩
  · cases h
  · split at h
    · cases h
    all_goals
      dsimp only at h
      split at h <;> cases h

/-- Nothing is remembered at first. -/
theorem bears_replicate (P : Demand) (reach count : Nat) :
    Progress.Bears P ⟨reach, Array.replicate count []⟩ := by
  intro place r hr
  rw [Array.getD_eq_getD_getElem?, Array.getElem?_replicate] at hr
  split at hr
  · cases hr
  · cases hr

/-- What is read has a property that the parser keeps. -/
theorem of_readText (P : Demand) {whole : Rules → Parser α} {readField : Literal.FieldReader}
    {source : SourceText} {value : α} (hkeeps : ∀ (i : Input) (depth : Nat), i.scan = Scan.ofSource source →
      i.diagnosing = false → Keeps i P Q (whole (Rule.reader depth)))
    (h : readText whole readField source = .ok value) : Q value := by
  obtain ⟨next, later, hmatched⟩ := matched_of_readText h
  have houtcome : Outcome.Bears P Q (.matched value next later) := by
    rw [← hmatched]
    exact hkeeps _ _ rfl rfl 0 _ (bears_replicate P 0 _)
  exact houtcome.1

end Grammar

/-- **The texts that an expression holds have less characters than the text that it is read from.** -/
theorem holdsBelow_of_parseExpression {text : String} {e : Expr} (h : parseExpression text = .ok e) :
    e.HoldsBelow text.length := by
  rw [parseExpression, readWith] at h
  split at h
  · cases h
  rw [Outcome.mapError_eq_ok_iff] at h
  have hlines : ((splitLines (unifyLineEnds text.toList)).map List.length).sum ≤ text.length := by
    rw [sum_length_splitLines, ← String.length_toList]
    exact length_unifyLineEnds_le _
  obtain ⟨hextent, hquoted⟩ := taken_ofSource (.ofText (splitLines (unifyLineEnds text.toList)) none)
  refine Grammar.of_readText (.ofExpr (Expr.HoldsBelow text.length)) (fun i depth hscan hdiagnosing => ?_) h
  refine Grammar.Keeps.wholeExpression (gathered_holdsBelow _) (fun _ _ _ => trivial) hdiagnosing
    (Grammar.Keeps.quotedTexts ?_) depth
  rw [hscan]
  exact ⟨hextent.trans hlines, hquoted⟩

end FluentBuilder.Syntax
