import FluentBuilder.Syntax.Grammar

/-!
# Properties of what is read

Something can be asked of names, of expressions and of statements (`Demand`). What is asked of expressions is
inherited if it holds of an expression as soon as it holds of the parts that it is looked at by: names, the
value and the index of an item, the items of a tuple or a list, the sides of `|`, and quoted constants. Of
any other form it holds without conditions (`Inherited`).

`Keeps` says that a parser only reads values of which something holds, as long as what is asked holds of all
that is remembered. It goes through all ways to put parsers together. A text is read with success at the
first attempt only, in which no mistakes are looked for, so that nothing is said about parsers that look for
them.
-/

namespace FluentBuilder.Syntax

/-- Is an expression looked at by its parts? -/
def Expr.isCarrier : Expr → Bool
  | .name _ | .constant (.text ..) | .attribute .. | .subscript .. | .tuple _ | .list _
  | .binary .bitOr .. => true
  | _ => false

/-- What is asked of what is read. -/
structure Demand where
  /-- What is asked of names. -/
  name : String → Prop
  /-- What is asked of expressions. -/
  expr : Expr → Prop
  /-- What is asked of statements. -/
  statement : Statement → Prop

/-- Something is asked of expressions only. -/
def Demand.ofExpr (P : Expr → Prop) : Demand := ⟨fun _ => True, P, fun _ => True⟩

/-- What is asked of expressions holds of an expression if it holds of the parts that it is looked at by. -/
structure Inherited (P : Demand) : Prop where
  /-- It holds of expressions that are not looked at by their parts. -/
  plain : ∀ {e : Expr}, e.isCarrier = false → P.expr e
  /-- It holds of a name. -/
  name : ∀ {id : String}, P.name id → P.expr (.name id)
  /-- It holds of a member of a value. -/
  member : ∀ {value : Expr} {member : String}, P.expr value → P.name member →
    P.expr (.attribute value member)
  /-- It holds of an item of a value. -/
  subscript : ∀ {value index : Expr}, P.expr value → P.expr index → P.expr (.subscript value index)
  /-- It holds of a tuple. -/
  tuple : ∀ {items : List Expr}, (∀ e ∈ items, P.expr e) → P.expr (.tuple items)
  /-- It holds of a list. -/
  list : ∀ {items : List Expr}, (∀ e ∈ items, P.expr e) → P.expr (.list items)
  /-- It holds of two sides of `|`. -/
  either : ∀ {left right : Expr}, P.expr left → P.expr right → P.expr (.binary .bitOr left right)

namespace Grammar

open Grammar.Parser

variable {i : Input} {P : Demand} {α β : Type} {Q : α → Prop} {R : β → Prop}

/-! ### What is remembered -/

/-- What is asked of the things of a kind. -/
def Category.Bears (P : Demand) : (c : Category) → c.Value → Prop
  | .expression, v => P.expr v.expr
  | .statements, body => ∀ s ∈ body, P.statement s
  | .arguments, _ | .nothing, _ => True

/-- What is asked holds of what was read. -/
def Reading.Bears (P : Demand) (r : Reading) : Prop :=
  ∀ v next, r.result = some (v, next) → r.rule.category.Bears P v

/-- What is asked holds of everything that is remembered. -/
def Progress.Bears (P : Demand) (progress : Progress) : Prop :=
  ∀ place, ∀ r ∈ progress.memo.getD place [], r.Bears P

/-- What is asked holds of what is noted. -/
theorem Progress.Bears.note {progress : Progress} (h : progress.Bears P) (place : Nat) {r : Reading}
    (hr : r.Bears P) : Progress.Bears P (Progress.note progress place r) := by
  intro other s hs
  by_cases hsame : place = other
  · subst hsame
    have hmem : s = r ∨ s ∈ progress.memo.getD place [] := by
      simp only [Progress.note, Array.getD_eq_getD_getElem?, Array.getElem?_modify] at hs ⊢
      cases hfound : progress.memo[place]? with
      | none => simp [hfound] at hs
      | some read => simpa [hfound] using hs
    rcases hmem with rfl | hmem
    · exact hr
    · exact h place s hmem
  · refine h other s ?_
    simpa [Progress.note, Array.getD_eq_getD_getElem?, Array.getElem?_modify, hsame] using hs

/-- What is asked holds of what is remembered of a rule. -/
theorem bears_of_remembered {rule : Rule} {readings : List Reading} {v : rule.Value} {next : Nat}
    (hall : ∀ r ∈ readings, r.Bears P) (h : remembered rule readings = some (some (v, next))) :
    rule.category.Bears P v := by
  induction readings with
  | nil => cases h
  | cons r rest ih =>
    obtain ⟨other, result⟩ := r
    rw [remembered] at h
    split at h
    · next hsame =>
      subst hsame
      exact hall _ List.mem_cons_self v next (Option.some.inj h)
    · exact ih (fun r hr => hall r (List.mem_cons_of_mem _ hr)) h

/-! ### Steps -/

section Steps

variable {step : α → Parser α} {fuel place next : Nat} {a b : α} {progress later : Progress}

/-- A step that matches is followed by more. -/
theorem loop_of_matched (h : step a i place progress = .matched b next later) :
    extendWhile.loop step (fuel + 1) a i place progress =
      extendWhile.loop step fuel b i next later := by
  simp only [extendWhile.loop, h]

/-- A step that misses is the last one. -/
theorem loop_of_missed (h : step a i place progress = .missed later) :
    extendWhile.loop step (fuel + 1) a i place progress = .matched a place later := by
  simp only [extendWhile.loop, h]

/-- A step that ends reading ends it. -/
theorem loop_of_halted {halt : Halt} (h : step a i place progress = .halted halt later) :
    extendWhile.loop step (fuel + 1) a i place progress = .halted halt later := by
  simp only [extendWhile.loop, h]

end Steps

/-! ### Parsers that keep what is asked -/

/-- The result of an attempt bears what is asked: its value has `Q`, and what is remembered bears it. -/
def Outcome.Bears (P : Demand) (Q : α → Prop) : Outcome α → Prop
  | .matched value _ progress => Q value ∧ progress.Bears P
  | .missed progress => progress.Bears P
  | .halted _ _ => True

/-- As long as everything remembered bears what is asked, so does what the parser leaves to be remembered,
and the values that it reads have the property `Q`. -/
def Keeps (i : Input) (P : Demand) (Q : α → Prop) (p : Parser α) : Prop :=
  ∀ place progress, Progress.Bears P progress → (p i place progress).Bears P Q

/-- The parser reads expressions of which holds what is asked of them. -/
abbrev Reads (i : Input) (P : Demand) (p : Parser Located) : Prop :=
  Keeps i P (Category.Bears P .expression) p

/-- The parser reads something of which nothing is asked. -/
abbrev Passes (i : Input) (P : Demand) (p : Parser α) : Prop := Keeps i P (fun _ => True) p

namespace Keeps

variable {p q : Parser α} {f : α → Parser β}

/-- A parser keeps what follows from what it keeps. -/
theorem mono {Q' : α → Prop} (h : Keeps i P Q p) (himp : ∀ a, Q a → Q' a) : Keeps i P Q' p := by
  intro place progress hbears
  have houtcome := h place progress hbears
  rcases hresult : p i place progress with ⟨value, next, later⟩ | later | ⟨halt, later⟩
  · rw [hresult] at houtcome
    exact ⟨himp value houtcome.1, houtcome.2⟩
  · rw [hresult] at houtcome
    exact houtcome
  · trivial

/-- A parser of values of which nothing is asked. -/
theorem any (h : Keeps i P Q p) : Passes i P p :=
  h.mono fun _ _ => trivial

/-- A value. -/
theorem pure {a : α} (h : Q a) : Keeps i P Q (Pure.pure a : Parser α) :=
  fun _ _ hbears => ⟨h, hbears⟩

/-- One parser after another. -/
theorem bind (hp : Keeps i P Q p) (hf : ∀ a, Q a → Keeps i P R (f a)) :
    Keeps i P R (p >>= f) := by
  intro place progress hbears
  have houtcome := hp place progress hbears
  show Outcome.Bears P R (Parser.bind p f i place progress)
  rw [Parser.bind]
  rcases hresult : p i place progress with ⟨value, next, later⟩ | later | ⟨halt, later⟩
  · rw [hresult] at houtcome
    exact hf value houtcome.1 next later houtcome.2
  · rw [hresult] at houtcome
    exact houtcome
  · trivial

/-- A parser that never matches. -/
theorem miss : Keeps i P Q (Parser.miss : Parser α) := fun _ _ hbears => hbears

/-- One parser after another, where nothing is asked of what the first one reads. -/
theorem after (hp : Passes i P p) (hf : ∀ a, Keeps i P R (f a)) : Keeps i P R (p >>= f) :=
  bind hp fun a _ => hf a

/-- A second parser where the first one misses. -/
theorem orElse (hp : Keeps i P Q p) (hq : Keeps i P Q q) : Keeps i P Q (p <|> q) := by
  intro place progress hbears
  have houtcome := hp place progress hbears
  show Outcome.Bears P Q (Parser.orElse p (fun _ => q) i place progress)
  rw [Parser.orElse]
  rcases hresult : p i place progress with ⟨value, next, later⟩ | later | ⟨halt, later⟩
  · rw [hresult] at houtcome
    exact houtcome
  · rw [hresult] at houtcome
    exact hq place later houtcome
  · trivial

/-- The first alternative that matches. -/
theorem choice {ps : List (Parser α)} (h : ∀ p ∈ ps, Keeps i P Q p) :
    Keeps i P Q (Parser.choice ps) := by
  induction ps with
  | nil => exact miss
  | cons p rest ih =>
    exact orElse (h p List.mem_cons_self) (ih fun q hq => h q (List.mem_cons_of_mem _ hq))

/-- A choice between one parser and others. -/
theorem choice_cons {ps : List (Parser α)} (hp : Keeps i P Q p) (hps : Keeps i P Q (Parser.choice ps)) :
    Keeps i P Q (Parser.choice (p :: ps)) :=
  orElse hp hps

/-- A choice between no parsers. -/
theorem choice_nil : Keeps i P Q (Parser.choice ([] : List (Parser α))) := miss

/-- A parser on whose match all depends. -/
theorem commit {tail : α → Parser β} {other : Parser β} (hp : Keeps i P Q p)
    (htail : ∀ a, Q a → Keeps i P R (tail a)) (hother : Keeps i P R other) :
    Keeps i P R (Parser.commit p tail other) := by
  intro place progress hbears
  have houtcome := hp place progress hbears
  rw [Parser.commit]
  rcases hresult : p i place progress with ⟨value, next, later⟩ | later | ⟨halt, later⟩
  · rw [hresult] at houtcome
    exact htail value houtcome.1 next later houtcome.2
  · rw [hresult] at houtcome
    exact hother place later houtcome
  · trivial

/-- Something or nothing. -/
theorem optional (hp : Keeps i P Q p) : Keeps i P (fun o => ∀ a ∈ o, Q a) (Parser.optional p) := by
  intro place progress hbears
  have houtcome := hp place progress hbears
  rw [Parser.optional]
  rcases hresult : p i place progress with ⟨value, next, later⟩ | later | ⟨halt, later⟩
  · rw [hresult] at houtcome
    exact ⟨fun a ha => Option.some.inj ha ▸ houtcome.1, houtcome.2⟩
  · rw [hresult] at houtcome
    exact ⟨fun a ha => (Option.not_mem_none a ha).elim, houtcome⟩
  · trivial

/-- A look ahead. -/
theorem ahead (hp : Keeps i P Q p) : Passes i P (Parser.ahead p) := by
  intro place progress hbears
  have houtcome := hp place progress hbears
  rw [Parser.ahead]
  rcases hresult : p i place progress with ⟨value, next, later⟩ | later | ⟨halt, later⟩
  · rw [hresult] at houtcome
    exact ⟨trivial, houtcome.2⟩
  · rw [hresult] at houtcome
    exact houtcome
  · trivial

/-- A look ahead for nothing of the kind. -/
theorem notAhead (hp : Keeps i P Q p) : Passes i P (Parser.notAhead p) := by
  intro place progress hbears
  have houtcome := hp place progress hbears
  rw [Parser.notAhead]
  rcases hresult : p i place progress with ⟨value, next, later⟩ | later | ⟨halt, later⟩
  · rw [hresult] at houtcome
    exact houtcome.2
  · rw [hresult] at houtcome
    exact ⟨trivial, houtcome⟩
  · trivial

/-- The place. -/
theorem here : Passes i P Parser.here := fun _ _ hbears => ⟨trivial, hbears⟩

/-- A value that is extended. -/
theorem extendWhile {step : α → Parser α} {start : α} (hstart : Q start)
    (hstep : ∀ a, Q a → Keeps i P Q (step a)) : Keeps i P Q (Parser.extendWhile step start) := by
  have hloop : ∀ fuel a, Q a → Keeps i P Q (Parser.extendWhile.loop step fuel a) := by
    intro fuel
    induction fuel with
    | zero => exact fun a ha => pure ha
    | succ fuel ih =>
      intro a ha place progress hbears
      have houtcome := hstep a ha place progress hbears
      rcases hresult : step a i place progress with ⟨value, next, later⟩ | later | ⟨halt, later⟩
      · rw [loop_of_matched hresult]
        rw [hresult] at houtcome
        exact ih value houtcome.1 next later houtcome.2
      · rw [loop_of_missed hresult]
        rw [hresult] at houtcome
        exact ⟨ha, houtcome⟩
      · rw [loop_of_halted hresult]
        trivial
  exact fun place progress hbears => hloop _ start hstart place progress hbears

/-- As many matches as there are. -/
theorem many (hp : Keeps i P Q p) : Keeps i P (fun as => ∀ a ∈ as, Q a) (Parser.many p) := by
  refine bind (extendWhile (Q := fun as => ∀ a ∈ as, Q a) (fun a ha => absurd ha List.not_mem_nil)
    fun found hfound => bind hp fun value hvalue => pure ?_) fun found hfound => pure ?_
  · intro a ha
    rcases List.mem_cons.mp ha with rfl | ha
    · exact hvalue
    · exact hfound a ha
  · exact fun a ha => hfound a (List.mem_reverse.mp ha)

/-- A first match and further ones. -/
theorem cons {a : α} {as : List α} (ha : Q a) (has : ∀ b ∈ as, Q b) : ∀ b ∈ a :: as, Q b := by
  intro b hb
  rcases List.mem_cons.mp hb with rfl | hb
  · exact ha
  · exact has b hb

/-- At least one match. -/
theorem many1 (hp : Keeps i P Q p) : Keeps i P (fun as => ∀ a ∈ as, Q a) (Parser.many1 p) :=
  bind hp fun _ hfirst => bind (many hp) fun _ hrest => pure (cons hfirst hrest)

/-- Matches with separators between them. -/
theorem separated {separator : Parser β} (hp : Keeps i P Q p) (hseparator : Keeps i P R separator) :
    Keeps i P (fun as => ∀ a ∈ as, Q a) (Parser.separated p separator) :=
  bind hp fun _ hfirst => bind (many (bind hseparator fun _ _ => hp)) fun _ hrest =>
    pure (cons hfirst hrest)

/-- The next token. -/
theorem token : Keeps i P (· ∈ i.scan.tokens) Parser.token := by
  intro place progress hbears
  rw [Parser.token]
  split
  · next t ht => exact ⟨Array.mem_of_getElem? ht, hbears⟩
  · split
    · trivial
    · exact hbears

/-- A token that passes a test. -/
theorem tokenIf (test : Token → Bool) :
    Keeps i P (fun t => t ∈ i.scan.tokens ∧ test t = true) (Parser.tokenIf test) := by
  refine bind token fun t ht => ?_
  cases htest : test t with
  | false => exact miss
  | true => exact fun _ _ hbears => ⟨⟨ht, htest⟩, hbears⟩

/-- A sign. -/
theorem sign (text : String) : Passes i P (Parser.sign text) := (tokenIf _).any

/-- A reserved word. -/
theorem keyword (text : String) : Passes i P (Parser.keyword text) := (tokenIf _).any

/-- A word that is reserved at some places only. -/
theorem softKeyword (text : String) : Passes i P (Parser.softKeyword text) := (tokenIf _).any

/-- A token of a kind. -/
theorem ofKind (kind : TokenKind) : Passes i P (Parser.ofKind kind) := (tokenIf _).any

/-- A parser that looks for mistakes, where none are looked for. -/
theorem diagnosis (hi : i.diagnosing = false) : Keeps i P Q (Parser.diagnosis p) := by
  intro place progress hbears
  rw [Parser.diagnosis, hi]
  exact hbears

/-- A fault at a token. -/
theorem faultAt (cause : Cause) (index : Nat) : Keeps i P Q (Parser.faultAt cause index : Parser α) :=
  fun _ _ _ => trivial

/-- A fault at the last token looked at. -/
theorem faultHere (cause : Cause) : Keeps i P Q (Parser.faultHere cause : Parser α) :=
  fun _ _ _ => trivial

/-- A sign that has to stand here. -/
theorem forced (text : String) : Passes i P (Parser.forced text) := by
  intro place progress hbears
  have houtcome : Outcome.Bears P (fun _ => True) (Parser.sign text i place progress) :=
    sign text place progress hbears
  rw [Parser.forced]
  rcases hresult : Parser.sign text i place progress with ⟨t, next, later⟩ | later | ⟨halt, later⟩
  · rw [hresult] at houtcome
    exact houtcome
  · trivial
  · trivial

/-- A rule of which it is remembered what it read. -/
theorem memoised {rule : Rule} {p : Parser rule.Value} (hp : Keeps i P (rule.category.Bears P) p) :
    Keeps i P (rule.category.Bears P) (Parser.memoised rule p) := by
  intro place progress hbears
  rw [Parser.memoised]
  split
  · exact hp place progress hbears
  · split
    · next hfound => exact ⟨bears_of_remembered (hbears place) hfound, hbears⟩
    · exact hbears
    · have houtcome := hp place progress hbears
      rcases hresult : p i place progress with ⟨value, next, later⟩ | later | ⟨halt, later⟩
      · rw [hresult] at houtcome
        refine ⟨houtcome.1, houtcome.2.note place fun v n h => ?_⟩
        obtain ⟨rfl, rfl⟩ := Prod.mk.inj (Option.some.inj h)
        exact houtcome.1
      · rw [hresult] at houtcome
        exact houtcome.note place fun v n h => by cases h
      · trivial

end Keeps
end Grammar
end FluentBuilder.Syntax
