import FluentBuilder.Proofs.Outcome
import FluentBuilder.Proofs.Syntax.Shortness
import FluentBuilder.Proofs.Text.Identifier
import FluentBuilder.Syntax.Lexer

/-!
# Names in what is read

The names in an expression that was read are segments of dotted names: they are not empty, and there are no
separators in them (`spelled_of_parseExpression`). The same holds of the names in the statements of a module
that declare something (`spelled_of_parseModule`).

**The route.** The name tokens of a text are words: they have characters, and nothing but characters of
identifiers (`spelled_ofSource`). Only `Reader.word` makes such tokens. Beyond ASCII it refuses what is no
identifier; of ASCII characters it takes letters, digits and underscores only. The other lexemes have kinds
of their own, so that the lemmas for them say no more than that. A name is the normal form of the text of
such a token (`Text.isSegment_normalForm`), and the grammar puts names where they belong (`Gathered`).
-/

namespace FluentBuilder.Syntax

/-! ### Tokens -/

/-- A name has characters, and nothing but characters of words. -/
def Token.Spelled (t : Token) : Prop :=
  t.kind = .name → t.text ≠ "" ∧ ∀ c ∈ t.text.toList, Text.IsWordCode c.toNat

namespace Reader

/-! ### Words -/

/-- The characters of a word that are ASCII are letters, digits and underscores. -/
theorem isWordCode_of_isWordPart {c : Char} (h : isWordPart c = true) (hascii : c.toNat < 128) :
    Text.IsWordCode c.toNat := by
  refine Text.isWordCode_of_lt hascii ?_
  rw [isWordPart, Bool.or_eq_true, Bool.or_eq_true] at h
  rcases h with (halphanum | hunderscore) | hbeyond
  · exact Text.le_toNat_of_isAlphanum halphanum
  · rw [eq_of_beq hunderscore]
    decide
  · exact absurd hascii (Nat.not_lt.mpr (of_decide_eq_true hbeyond))

/-- A character at which a word begins is one of the word. -/
theorem isWordPart_of_isWordStart {c : Char} (h : isWordStart c = true) : isWordPart c = true := by
  rw [isWordStart, Bool.or_eq_true, Bool.or_eq_true] at h
  rw [isWordPart, Char.isAlphanum, Bool.or_eq_true, Bool.or_eq_true, Bool.or_eq_true]
  exact h.imp_left (Or.imp_left .inl)

/-- A text stops being an identifier at one of its characters, if it has any. -/
theorem lt_length_of_identifierBreak {cs : List Char} {i : Nat} (hne : cs ≠ [])
    (h : Text.identifierBreak cs = some i) : i < cs.length := by
  cases cs with
  | nil => exact absurd rfl hne
  | cons first rest =>
    rw [Text.identifierBreak] at h
    split at h
    · obtain rfl := Option.some.inj h
      exact Nat.succ_pos _
    · dsimp only at h
      split at h
      · cases h
      next hkept =>
      obtain rfl := Option.some.inj h
      have hle := (List.takeWhile_prefix Text.isIdentifierContinue (l := rest)).length_le
      rw [beq_iff_eq] at hkept
      rw [List.length_cons]
      omega

/-- A word that is read is a name with characters of words. -/
theorem spelled_of_word {r after : Reader} {t : Token} {c : Char} {cs : List Char} (hrest : r.rest = c :: cs)
    (hstart : isWordStart c = true) (h : r.word = .ok (t, after)) : t.Spelled := by
  have hne : r.rest.takeWhile isWordPart ≠ [] := by
    rw [hrest, List.takeWhile_cons, isWordPart_of_isWordStart hstart]
    exact List.cons_ne_nil _ _
  unfold word at h
  extract_lets letters after' fault at h
  split at h
  · cases h
  next hnone =>
  obtain ⟨rfl, -⟩ := Prod.mk.inj (Except.ok.inj h)
  intro _
  simp only [token, String.toList_ofList]
  refine ⟨fun hempty => hne (String.ofList_eq_empty_iff.mp hempty), ?_⟩
  by_cases hascii : letters.all (fun c => c.toNat < 128) = true
  · intro d hd
    have hall : letters.all isWordPart = true := List.all_takeWhile
    exact isWordCode_of_isWordPart (List.all_eq_true.mp hall d hd)
      (of_decide_eq_true (List.all_eq_true.mp hascii d hd))
  · cases hbreak : Text.identifierBreak letters with
    | none => exact Text.isWordCode_of_identifierBreak hbreak
    | some i =>
      have hlt := lt_length_of_identifierBreak hne hbreak
      simp only [fault, hascii, hbreak, Bool.false_eq_true, if_false, Option.bind_some,
        Option.map_eq_none_iff, List.getElem?_eq_none_iff] at hnone
      exact absurd hlt (Nat.not_lt.mpr hnone)

/-! ### Other lexemes -/

/-- A token of another kind is no name. -/
theorem spelled_of_kind {t : Token} (h : t.kind ≠ .name) : t.Spelled := fun hname => absurd hname h

/-- A quoted constant is no name. -/
theorem spelled_of_quoted {r after : Reader} {letters : Nat} {t : Token}
    (h : r.quoted letters = .ok (t, after)) : t.Spelled := by
  unfold quoted at h
  extract_lets quote body at h
  split at h
  dsimp only at h
  split at h
  · obtain ⟨rfl, -⟩ := Prod.mk.inj (Except.ok.inj h)
    exact spelled_of_kind (by decide : TokenKind.quoted ≠ .name)
  · cases h

/-- A sign is no name. -/
theorem spelled_of_sign {r after : Reader} {c : Char} {t : Token} (h : r.sign c = .ok (t, after)) :
    t.Spelled := by
  unfold sign at h
  extract_lets length after' finish at h
  have hfinish {last : Reader}
      (h : Except.ok (finish last) = (.ok (t, after) : Except Stop (Token × Reader))) : t.Spelled := by
    obtain ⟨rfl, -⟩ := Prod.mk.inj (Except.ok.inj h)
    exact spelled_of_kind (by decide : TokenKind.sign ≠ .name)
  split at h
  · exact hfinish h
  split at h
  · split at h
    · cases h
    · exact hfinish h
  split at h
  · split at h
    · cases h
    · split at h
      · exact hfinish h
      · cases h
  · split at h
    · exact hfinish h
    · cases h

/-! ### Steps -/

/-- The token of a step is spelled, if there is one. -/
def Step.Spelled : Step → Prop
  | .token t _ => t.Spelled
  | .skip _ => True

/-- The token of a step. -/
theorem spelled_of_map {result : Except Stop (Token × Reader)} {step : Step}
    (hresult : ∀ t after, result = .ok (t, after) → t.Spelled)
    (h : result.map (fun (t, r) => Step.token t r) = .ok step) : step.Spelled := by
  cases result with
  | error stop => cases h
  | ok pair =>
    obtain rfl := Except.ok.inj h
    exact hresult pair.1 pair.2 rfl

/-- The token of a lexeme is spelled. -/
theorem spelled_of_lexeme {r : Reader} {blank : Bool} {fuel : Nat} {step : Step}
    (h : r.lexeme blank fuel = .ok step) : step.Spelled := by
  induction fuel generalizing r with
  | zero => cases h
  | succ fuel ih =>
    unfold lexeme at h
    extract_lets begun blanks before at h
    split at h
    next _ s hs =>
    split at h
    · split at h
      · obtain rfl := Except.ok.inj h
        exact spelled_of_kind (by decide : TokenKind.finish ≠ .name)
      · cases h
    next c next hrest =>
    extract_lets at h
    split at h
    · split at h
      · obtain rfl := Except.ok.inj h
        trivial
      · obtain rfl := Except.ok.inj h
        exact spelled_of_kind (by decide : TokenKind.newline ≠ .name)
    split at h
    · exact spelled_of_map (fun t after => spelled_of_quoted) h
    split at h
    · next hstart => exact spelled_of_map (fun t after => spelled_of_word hrest hstart) h
    split at h
    · split at h
      · obtain rfl := Except.ok.inj h
        exact spelled_of_kind (by decide : TokenKind.number ≠ .name)
      · cases h
      · cases h
    split at h
    · split at h
      · exact ih h
      · cases h
    · exact spelled_of_map (fun t after => spelled_of_sign) h

/-- The token of a step of reading is spelled. -/
theorem spelled_of_step {r : Reader} {step : Step} (h : r.step = .ok step) : step.Spelled := by
  have begun {begun : Reader} {blank : Bool}
      (h : (if begun.dedentsDue > 0 then
          let r := { begun with dedentsDue := begun.dedentsDue - 1 }
          .ok (.token (r.token .dedent [] r.line none) r)
        else if begun.indentDue then
          let r := { begun with indentDue := false }
          .ok (.token (r.token .indent [] r.line none) r)
        else begun.lexeme blank begun.limit) = (.ok step : Except Stop Step)) : step.Spelled := by
    split at h
    · obtain rfl := Except.ok.inj h
      exact spelled_of_kind (by decide : TokenKind.dedent ≠ .name)
    split at h
    · obtain rfl := Except.ok.inj h
      exact spelled_of_kind (by decide : TokenKind.indent ≠ .name)
    · exact spelled_of_lexeme h
  rw [Reader.step] at h
  rcases ite_eq_iff.mp h with ⟨-, h⟩ | ⟨-, h⟩
  · obtain ⟨⟨after, blank⟩, -, h⟩ := Outcome.bind_eq_ok_iff.mp h
    exact begun h
  · exact begun h

/-- The tokens that are read are spelled: by induction on the steps. -/
theorem spelled_tokens {fuel : Nat} {r : Reader} {read : Array Token} (h : ∀ t ∈ read, t.Spelled) :
    ∀ t ∈ (r.tokens read fuel).tokens, t.Spelled := by
  induction fuel generalizing r read with
  | zero => exact h
  | succ fuel ih =>
    rw [tokens]
    cases hstep : r.step with
    | error stop => exact h
    | ok step =>
      have hspelled := spelled_of_step hstep
      cases step with
      | skip after => exact ih h
      | token t after =>
        have hpush : ∀ u ∈ read.push t, u.Spelled := by
          intro u hu
          rcases Array.mem_push.mp hu with hu | rfl
          · exact h u hu
          · exact hspelled
        dsimp only
        split
        · exact hpush
        · exact ih hpush

end Reader

/-- **The names of a text have characters, and nothing but characters of words.** -/
theorem spelled_ofSource (source : SourceText) : ∀ t ∈ (Scan.ofSource source).tokens, t.Spelled :=
  Reader.spelled_tokens fun t ht => absurd ht (Array.not_mem_empty t)

/-! ### Expressions and statements -/

/-- The names in an expression are segments, at the places that it is looked at by. -/
inductive Expr.Spelled : Expr → Prop where
  /-- An expression that is not looked at by its parts. -/
  | plain {e : Expr} : e.isCarrier = false → Spelled e
  /-- A text. -/
  | text (value : CodePoints) (marked : Bool) : Spelled (.constant (.text value marked))
  /-- A name. -/
  | name {id : String} : Text.IsSegment id → Spelled (.name id)
  /-- A member of a value. -/
  | member {value : Expr} {name : String} : Spelled value → Text.IsSegment name →
    Spelled (.attribute value name)
  /-- An item of a value. -/
  | subscript {value index : Expr} : Spelled value → Spelled index → Spelled (.subscript value index)
  /-- A tuple. -/
  | tuple {items : List Expr} : (∀ e ∈ items, Spelled e) → Spelled (.tuple items)
  /-- A list. -/
  | list {items : List Expr} : (∀ e ∈ items, Spelled e) → Spelled (.list items)
  /-- Two sides of `|`. -/
  | either {left right : Expr} : Spelled left → Spelled right → Spelled (.binary .bitOr left right)

/-- The names by which a statement declares something are segments. -/
inductive Statement.Spelled : Statement → Prop where
  /-- An import of modules. -/
  | importModules {names : List Alias} :
    (∀ a ∈ names, IsDotted Text.IsSegment a.name ∧ ∀ r ∈ a.rename, Text.IsSegment r) →
      Spelled (.importModules names)
  /-- An import of names. -/
  | importFrom {module : Option String} {names : List Alias} {level : Nat} :
    (∀ a ∈ names, (a.name = "*" ∨ Text.IsSegment a.name) ∧ ∀ r ∈ a.rename, Text.IsSegment r) →
      Spelled (.importFrom module names level)
  /-- An assignment. -/
  | assign {targets : List Expr} : Spelled (.assign targets)
  /-- An annotated target. -/
  | annotated {target hint : Expr} {value : Option Expr} : target.Spelled → hint.Spelled →
    Spelled (.annotated target hint value)
  /-- A class. -/
  | classDef {name : String} {bases decorators : List Expr} {body : List Statement} {position : Position} :
    Text.IsSegment name → (∀ s ∈ body, Spelled s) →
      Spelled (.classDef name bases decorators body position)
  /-- A function. -/
  | functionDef {name : String} {decorators : List Expr} {position : Position} :
    Text.IsSegment name → Spelled (.functionDef name decorators position)
  /-- Any other statement. -/
  | other : Spelled .other

/-- That names are segments. -/
def spelling : Demand := ⟨Text.IsSegment, Expr.Spelled, Statement.Spelled⟩

/-- That names are segments follows from the parts. -/
theorem gathered_spelling : Gathered spelling where
  plain := .plain
  name := .name
  member := .member
  subscript := .subscript
  tuple := .tuple
  list := .list
  either := .either
  importModules := .importModules
  importFrom := .importFrom
  assign := .assign
  annotated := .annotated
  classDef := .classDef
  functionDef := .functionDef
  other := .other

/-- No names stand in quoted constants, replacement fields apart. -/
theorem Literal.spelled_of_concatenate {readField : FieldReader} {parts : List Part} {value : Expr}
    (h : concatenate readField parts = .ok value) : value.Spelled := by
  obtain ⟨contents, -, h⟩ := Outcome.bind_eq_ok_iff.mp h
  dsimp only at h
  split at h
  · obtain rfl := Except.ok.inj h
    exact .plain rfl
  split at h
  · obtain rfl := Except.ok.inj h
    exact .plain rfl
  · obtain rfl := Except.ok.inj h
    exact .text _ _

namespace Grammar

open Grammar.Parser

variable {i : Input}

/-- The names of a text are segments. -/
theorem names_of_scan {source : SourceText} (h : i.scan = Scan.ofSource source) : i.Names spelling := by
  intro t ht hkind
  rw [h] at ht
  obtain ⟨hne, hcodes⟩ := spelled_ofSource source t ht hkind
  exact Text.isSegment_normalForm hne hcodes

/-- Quoted constants. -/
theorem Keeps.spelledQuotedTexts : Reads i spelling Grammar.quotedTexts := by
  refine after here fun start => after (many1 (ofKind .quoted)).any fun tokens => ?_
  intro place progress hbears
  dsimp only
  split
  · next value hvalue => exact ⟨Literal.spelled_of_concatenate hvalue, hbears⟩
  · trivial
  · trivial

end Grammar

/-- **The names in an expression that is read are segments.** -/
theorem spelled_of_parseExpression {text : String} {e : Expr} (h : parseExpression text = .ok e) :
    e.Spelled := by
  rw [parseExpression, readWith] at h
  split at h
  · cases h
  rw [Outcome.mapError_eq_ok_iff] at h
  exact Grammar.of_readText spelling (fun i depth hscan hdiagnosing =>
    Grammar.Keeps.wholeExpression gathered_spelling (Grammar.names_of_scan hscan) hdiagnosing
      Grammar.Keeps.spelledQuotedTexts depth) h

/-- **The names by which a module that is read declares something are segments.** -/
theorem spelled_of_parseModule {text : String} {file : Option (List UInt8)} {body : List Statement}
    (h : parseModule text file = .ok body) : ∀ s ∈ body, s.Spelled := by
  rw [parseModule, readWith] at h
  split at h
  · cases h
  rw [Outcome.mapError_eq_ok_iff] at h
  exact Grammar.of_readText spelling (fun i depth hscan hdiagnosing =>
    Grammar.Keeps.wholeModule gathered_spelling (Grammar.names_of_scan hscan) hdiagnosing
      Grammar.Keeps.spelledQuotedTexts depth) h

end FluentBuilder.Syntax
