import FluentBuilder.Proofs.Syntax.Keeping
import FluentBuilder.Proofs.Syntax.Lexemes

/-!
# What attempts come to

`Matches` and `Misses` say of a parser at a place what an attempt comes to, from notes with some property
and with what notes it leaves. How far tokens were looked at is left open. There is one lemma for each way
to put parsers together; repetition is followed step by step (`Runs`).

A rule leaves a note of what it read. Reading goes on from place to place, so that nothing is noted yet
from the place of a rule on (`Fresh`), unless the rule itself was read there before (`Primed`). After it the
note stands, and nothing is noted from the next place on (`Noted`). A rule that misses leaves nothing but
notes of that (`Clear`).
-/

namespace FluentBuilder.Syntax.Grammar

open Grammar.Parser

/-- What the rules read, by place. -/
abbrev Memo : Type := Array (List Reading)

variable {α β : Type} {i : Input} {place mid next : Nat} {P S T : Memo → Prop}

/-- An attempt at a place matches up to the next one. -/
def Matches (i : Input) (p : Parser α) (place next : Nat) (P : Memo → Prop) (Q : α → Memo → Prop) :
    Prop :=
  ∀ progress : Progress, P progress.memo →
    ∃ value later, p i place progress = .matched value next later ∧ Q value later.memo

/-- An attempt at a place misses. -/
def Misses (i : Input) (p : Parser α) (place : Nat) (P S : Memo → Prop) : Prop :=
  ∀ progress : Progress, P progress.memo → ∃ later, p i place progress = .missed later ∧ S later.memo

/-! ### Parsers put together -/

section Combinators

variable {p q : Parser α} {f : α → Parser β} {Q : α → Memo → Prop} {R : β → Memo → Prop} {value : α}

theorem Matches.mono {R : α → Memo → Prop} (h : Matches i p place next P Q) (hpre : ∀ m, S m → P m)
    (hpost : ∀ v m, Q v m → R v m) : Matches i p place next S R := by
  intro progress hm
  obtain ⟨v, later, heq, hv⟩ := h progress (hpre _ hm)
  exact ⟨v, later, heq, hpost v _ hv⟩

theorem Misses.mono (h : Misses i p place P S) (hpre : ∀ m, T m → P m) {R : Memo → Prop}
    (hpost : ∀ m, S m → R m) : Misses i p place T R := by
  intro progress hm
  obtain ⟨later, heq, hlater⟩ := h progress (hpre _ hm)
  exact ⟨later, heq, hpost _ hlater⟩

theorem Matches.pure (h : ∀ m, P m → Q value m) :
    Matches i (pure value : Parser α) place place P Q :=
  fun progress hm => ⟨value, progress, rfl, h _ hm⟩

theorem Matches.here : Matches i here place place P fun v m => v = place ∧ P m :=
  fun progress hm => ⟨place, progress, rfl, rfl, hm⟩

theorem Matches.bind (hp : Matches i p place mid P Q) (hf : ∀ v, Matches i (f v) mid next (Q v) R) :
    Matches i (p >>= f) place next P R := by
  intro progress hm
  obtain ⟨v, later, heq, hv⟩ := hp progress hm
  obtain ⟨w, last, hlast, hw⟩ := hf v later hv
  refine ⟨w, last, ?_, hw⟩
  show Parser.bind p f i place progress = _
  rw [Parser.bind, heq]
  exact hlast

theorem Misses.bind (hp : Misses i p place P S) : Misses i (p >>= f) place P S := by
  intro progress hm
  obtain ⟨later, heq, hlater⟩ := hp progress hm
  refine ⟨later, ?_, hlater⟩
  show Parser.bind p f i place progress = _
  rw [Parser.bind, heq]

theorem Matches.bind_misses (hp : Matches i p place mid P Q) (hf : ∀ v, Misses i (f v) mid (Q v) S) :
    Misses i (p >>= f) place P S := by
  intro progress hm
  obtain ⟨v, later, heq, hv⟩ := hp progress hm
  obtain ⟨last, hlast, hmemo⟩ := hf v later hv
  refine ⟨last, ?_, hmemo⟩
  show Parser.bind p f i place progress = _
  rw [Parser.bind, heq]
  exact hlast

/-- A place does not matter where it is only remembered. -/
theorem Matches.here_bind {f : Nat → Parser β} (h : Matches i (f place) place next P R) :
    Matches i (Parser.here >>= f) place next P R :=
  Matches.bind Matches.here fun v => by
    rintro progress ⟨rfl, hm⟩
    exact h progress hm

theorem Misses.here_bind {f : Nat → Parser β} (h : Misses i (f place) place P S) :
    Misses i (Parser.here >>= f) place P S :=
  Matches.bind_misses Matches.here fun v => by
    rintro progress ⟨rfl, hm⟩
    exact h progress hm

theorem Misses.miss : Misses i (Parser.miss : Parser α) place P P :=
  fun progress hm => ⟨progress, rfl, hm⟩

theorem Matches.orElse_left (hp : Matches i p place next P Q) : Matches i (p <|> q) place next P Q := by
  intro progress hm
  obtain ⟨v, later, heq, hv⟩ := hp progress hm
  refine ⟨v, later, ?_, hv⟩
  show Parser.orElse p (fun _ => q) i place progress = _
  rw [Parser.orElse, heq]

theorem Misses.orElse_matches (hp : Misses i p place P S) (hq : Matches i q place next S Q) :
    Matches i (p <|> q) place next P Q := by
  intro progress hm
  obtain ⟨later, heq, hlater⟩ := hp progress hm
  obtain ⟨v, last, hlast, hv⟩ := hq later hlater
  refine ⟨v, last, ?_, hv⟩
  show Parser.orElse p (fun _ => q) i place progress = _
  rw [Parser.orElse, heq]
  exact hlast

theorem Misses.orElse (hp : Misses i p place P S) (hq : Misses i q place S T) :
    Misses i (p <|> q) place P T := by
  intro progress hm
  obtain ⟨later, heq, hlater⟩ := hp progress hm
  obtain ⟨last, hlast, hmemo⟩ := hq later hlater
  refine ⟨last, ?_, hmemo⟩
  show Parser.orElse p (fun _ => q) i place progress = _
  rw [Parser.orElse, heq]
  exact hlast

/-- A choice of parsers that all miss and leave the notes in some state. -/
theorem Misses.choice {ps : List (Parser α)} (h : ∀ p ∈ ps, Misses i p place P P) :
    Misses i (Parser.choice ps) place P P := by
  induction ps with
  | nil => exact Misses.miss
  | cons p ps ih =>
    exact Misses.orElse (h p List.mem_cons_self) (ih fun q hq => h q (List.mem_cons_of_mem p hq))

theorem Matches.optional (hp : Matches i p place next P Q) :
    Matches i (Parser.optional p) place next P fun o m => ∃ v, o = some v ∧ Q v m := by
  intro progress hm
  obtain ⟨v, later, heq, hv⟩ := hp progress hm
  refine ⟨some v, later, ?_, v, rfl, hv⟩
  rw [Parser.optional, heq]

theorem Misses.optional (hp : Misses i p place P S) :
    Matches i (Parser.optional p) place place P fun o m => o = none ∧ S m := by
  intro progress hm
  obtain ⟨later, heq, hlater⟩ := hp progress hm
  refine ⟨none, later, ?_, rfl, hlater⟩
  rw [Parser.optional, heq]

theorem Matches.ahead (hp : Matches i p place next P Q) (hQ : ∀ v m, Q v m → S m) :
    Matches i (Parser.ahead p) place place P fun _ m => S m := by
  intro progress hm
  obtain ⟨v, later, heq, hv⟩ := hp progress hm
  refine ⟨(), later, ?_, hQ v _ hv⟩
  rw [Parser.ahead, heq]

theorem Misses.ahead (hp : Misses i p place P S) : Misses i (Parser.ahead p) place P S := by
  intro progress hm
  obtain ⟨later, heq, hlater⟩ := hp progress hm
  refine ⟨later, ?_, hlater⟩
  rw [Parser.ahead, heq]

theorem Misses.notAhead (hp : Misses i p place P S) :
    Matches i (Parser.notAhead p) place place P fun _ m => S m := by
  intro progress hm
  obtain ⟨later, heq, hlater⟩ := hp progress hm
  refine ⟨(), later, ?_, hlater⟩
  rw [Parser.notAhead, heq]

theorem Matches.notAhead (hp : Matches i p place next P Q) (hQ : ∀ v m, Q v m → S m) :
    Misses i (Parser.notAhead p) place P S := by
  intro progress hm
  obtain ⟨v, later, heq, hv⟩ := hp progress hm
  refine ⟨later, ?_, hQ v _ hv⟩
  rw [Parser.notAhead, heq]

/-- No mistakes are looked for. -/
theorem misses_diagnosis (hi : i.diagnosing = false) (p : Parser α) :
    Misses i (diagnosis p) place P P := by
  intro progress hm
  refine ⟨progress, ?_, hm⟩
  rw [diagnosis, hi]
  rfl

end Combinators

/-! ### Tokens -/

/-- The token of a lexeme, or the one at the end of the text. -/
def Fits (t : Token) : Option Lexeme → Prop
  | some l => t.Shows l
  | none => t.kind = .finish

/-- The lexeme whose token stands at a place, or nothing at the end of the text. -/
def At (i : Input) (place : Nat) (o : Option Lexeme) : Prop :=
  ∃ t, i.scan.tokens[place]? = some t ∧ Fits t o

/-- The tokens of lexemes stand from a place on. -/
def Stands (i : Input) : Nat → List Lexeme → Prop
  | _, [] => True
  | place, l :: ls => At i place (some l) ∧ Stands i (place + 1) ls

theorem stands_append {ls ls' : List Lexeme} :
    Stands i place (ls ++ ls') ↔ Stands i place ls ∧ Stands i (place + ls.length) ls' := by
  induction ls generalizing place with
  | nil => simp [Stands]
  | cons l ls ih =>
    rw [List.cons_append, Stands, Stands, ih, List.length_cons, and_assoc, Nat.add_assoc,
      Nat.add_comm 1]

theorem At.lt_size {o : Option Lexeme} (h : At i place o) : place < i.scan.tokens.size := by
  obtain ⟨t, ht, -⟩ := h
  exact (Array.getElem?_eq_some_iff.mp ht).1

/-- Is it the lexeme of a certain token? -/
def isToken (kind : TokenKind) (text : String) : Option Lexeme → Bool
  | some l => l.kind = kind && l.text == text
  | none => false

section Tokens

variable {o : Option Lexeme} {test : Token → Bool} {t : Token} {text : String}

theorem tests_eq {kind : TokenKind} (hkind : kind ≠ .finish) (h : Fits t o) :
    (t.kind = kind && t.text == text) = isToken kind text o := by
  cases o with
  | none => simp [show t.kind = .finish from h, Ne.symm hkind, isToken]
  | some l => rw [isToken, h.1, h.2]

theorem matches_token (ht : i.scan.tokens[place]? = some t) :
    Matches i token place place P fun v m => v = t ∧ P m := by
  intro progress hm
  refine ⟨t, { progress with reach := max progress.reach (place + 1) }, ?_, rfl, hm⟩
  rw [token, ht]

theorem matches_tokenIf (ht : i.scan.tokens[place]? = some t) (htest : test t = true) :
    Matches i (tokenIf test) place (place + 1) P fun v m => v = t ∧ P m := by
  refine Matches.bind (matches_token ht) fun v => ?_
  cases hv : test v with
  | true =>
    rintro progress ⟨rfl, hm⟩
    exact ⟨v, progress, rfl, rfl, hm⟩
  | false =>
    rintro progress ⟨rfl, -⟩
    rw [htest] at hv
    cases hv

theorem misses_tokenIf (ht : i.scan.tokens[place]? = some t) (htest : test t = false) :
    Misses i (tokenIf test) place P P := by
  refine Matches.bind_misses (matches_token ht) fun v => ?_
  cases hv : test v with
  | false =>
    rintro progress ⟨rfl, hm⟩
    exact ⟨progress, rfl, hm⟩
  | true =>
    rintro progress ⟨rfl, -⟩
    rw [htest] at hv
    cases hv

theorem matches_sign (h : At i place o) (ho : isToken .sign text o = true) :
    Matches i (sign text) place (place + 1) P fun _ m => P m := by
  obtain ⟨t, ht, hfits⟩ := h
  refine (matches_tokenIf ht ?_).mono (fun _ => id) fun _ _ => And.right
  exact (tests_eq (by decide) hfits).trans ho

theorem misses_sign (h : At i place o) (ho : isToken .sign text o = false) :
    Misses i (sign text) place P P := by
  obtain ⟨t, ht, hfits⟩ := h
  exact misses_tokenIf ht ((tests_eq (by decide) hfits).trans ho)

theorem matches_keyword (h : At i place o) (ho : isToken .keyword text o = true) :
    Matches i (keyword text) place (place + 1) P fun _ m => P m := by
  obtain ⟨t, ht, hfits⟩ := h
  refine (matches_tokenIf ht ?_).mono (fun _ => id) fun _ _ => And.right
  exact (tests_eq (by decide) hfits).trans ho

theorem misses_keyword (h : At i place o) (ho : isToken .keyword text o = false) :
    Misses i (keyword text) place P P := by
  obtain ⟨t, ht, hfits⟩ := h
  exact misses_tokenIf ht ((tests_eq (by decide) hfits).trans ho)

/-- A token of another kind is needed. -/
theorem misses_ofKind {kind : TokenKind} (h : At i place o)
    (ho : (o.map Lexeme.kind).getD .finish ≠ kind) : Misses i (ofKind kind) place P P := by
  obtain ⟨t, ht, hfits⟩ := h
  refine misses_tokenIf ht (decide_eq_false ?_)
  cases o with
  | none => rwa [show t.kind = .finish from hfits]
  | some l => rwa [hfits.1]

/-- The token at the end of the text. -/
theorem matches_finish (h : At i place none) :
    Matches i (ofKind .finish) place (place + 1) P fun _ m => P m := by
  obtain ⟨t, ht, hfits⟩ := h
  exact (matches_tokenIf ht (decide_eq_true (p := t.kind = .finish) hfits)).mono (fun _ => id) fun _ _ => And.right

end Tokens

/-! ### Repetition -/

section Repetition

variable {step : α → Parser α} {Q R : α → Memo → Prop} {v : α} {n : Nat}

/-- So many steps lead from a place to another one. -/
def Runs (i : Input) (step : α → Parser α) (place next : Nat) (v : α) (P : Memo → Prop)
    (Q : α → Memo → Prop) (n : Nat) : Prop :=
  ∀ fuel (progress : Progress), P progress.memo → ∃ w later,
    extendWhile.loop step (fuel + n) v i place progress = extendWhile.loop step fuel w i next later ∧
      Q w later.memo

theorem Runs.zero (h : ∀ m, P m → Q v m) : Runs i step place place v P Q 0 :=
  fun _ progress hm => ⟨v, progress, rfl, h _ hm⟩

theorem Runs.succ (hruns : Runs i step place mid v P Q n)
    (hstep : ∀ w, Matches i (step w) mid next (Q w) R) : Runs i step place next v P R (n + 1) := by
  intro fuel progress hm
  obtain ⟨w, later, heq, hw⟩ := hruns (fuel + 1) progress hm
  obtain ⟨u, last, hlast, hu⟩ := hstep w later hw
  refine ⟨u, last, ?_, hu⟩
  rw [← Nat.add_right_comm, Nat.add_assoc] at heq
  rw [heq, loop_of_matched hlast]

theorem Runs.mono (hruns : Runs i step place next v P Q n) (hpost : ∀ w m, Q w m → R w m) :
    Runs i step place next v P R n := by
  intro fuel progress hm
  obtain ⟨w, later, heq, hw⟩ := hruns fuel progress hm
  exact ⟨w, later, heq, hpost w _ hw⟩

/-- Steps are repeated until one misses. -/
theorem Runs.extendWhile (hruns : Runs i step place next v P Q n) (hn : n ≤ i.scan.tokens.size)
    (hstep : ∀ w, Misses i (step w) next (Q w) (R w)) :
    Matches i (extendWhile step v) place next P R := by
  intro progress hm
  obtain ⟨w, later, heq, hw⟩ := hruns (i.scan.tokens.size - n + 1) progress hm
  obtain ⟨last, hlast, hmemo⟩ := hstep w later hw
  refine ⟨w, last, ?_, hmemo⟩
  rw [Parser.extendWhile, show i.scan.tokens.size + 1 = i.scan.tokens.size - n + 1 + n by omega, heq,
    loop_of_missed hlast]

end Repetition

/-! ### Notes -/

/-- Nothing is noted from a place on. -/
def Fresh (i : Input) (place : Nat) (m : Memo) : Prop :=
  i.scan.tokens.size < m.size ∧ ∀ other, place ≤ other → m.getD other [] = []

/-- Nothing is noted from a place on but that nothing was read there. -/
def Clear (i : Input) (place : Nat) (m : Memo) : Prop :=
  Fresh i (place + 1) m ∧ ∀ r ∈ m.getD place [], r.result = none

/-- It is noted what a rule read at a place, and nothing is noted behind it. -/
def Noted (i : Input) (rule : Rule) (Q : rule.Value → Prop) (place next : Nat) (m : Memo) : Prop :=
  (∃ v, Q v ∧ remembered rule (m.getD place []) = some (some (v, next))) ∧ Fresh i next m

/-- A rule can be tried at a place. -/
def Primed (i : Input) (rule : Rule) (Q : rule.Value → Prop) (place next : Nat) (m : Memo) : Prop :=
  Fresh i place m ∨ Noted i rule Q place next m

variable {rule : Rule} {Q : rule.Value → Prop} {m : Memo}

theorem Fresh.mono (h : Fresh i place m) (hle : place ≤ next) : Fresh i next m :=
  ⟨h.1, fun other hother => h.2 other (Nat.le_trans hle hother)⟩

theorem Fresh.clear (h : Fresh i place m) : Clear i place m :=
  ⟨h.mono (Nat.le_succ place), by rw [h.2 place (Nat.le_refl place)]; nofun⟩

theorem getD_modify (m : Memo) (place other : Nat) (r : Reading) :
    (m.modify place (r :: ·)).getD other [] =
      if place = other ∧ place < m.size then r :: m.getD place [] else m.getD other [] := by
  simp only [Array.getD_eq_getD_getElem?, Array.getElem?_modify]
  by_cases hsame : place = other
  · subst hsame
    by_cases hlt : place < m.size
    · simp [hlt]
    · simp [hlt]
  · simp [hsame]

/-- What is remembered of a rule is a note of it. -/
theorem exists_mem_of_remembered {readings : List Reading} {result : Option (rule.Value × Nat)}
    (h : remembered rule readings = some result) : ⟨rule, result⟩ ∈ readings := by
  induction readings with
  | nil => cases h
  | cons r rest ih =>
    obtain ⟨other, found⟩ := r
    rw [remembered] at h
    split at h
    · next hsame =>
      subst hsame
      obtain rfl := Option.some.inj h
      exact List.mem_cons_self
    · exact List.mem_cons_of_mem _ (ih h)

/-- The last note of a rule is remembered. -/
theorem remembered_cons (result : Option (rule.Value × Nat)) (readings : List Reading) :
    remembered rule (⟨rule, result⟩ :: readings) = some result := by
  rw [remembered, dif_pos rfl]

/-- Notes stand at their places. -/
theorem Fresh.note {r : Reading} (h : Fresh i next m) (hlt : place < next) :
    Fresh i next (m.modify place (r :: ·)) := by
  refine ⟨by rw [Array.size_modify]; exact h.1, fun other hother => ?_⟩
  have hother' : ¬ (place = other ∧ place < m.size) := fun heq => by omega
  rw [getD_modify, if_neg hother', h.2 other hother]

/-- **A rule that is remembered** reads what it reads, and this is noted. -/
theorem Matches.memoised {p : Parser rule.Value} (hrule : rule.isRemembered = true)
    (hplace : place < i.scan.tokens.size) (hlt : place < next)
    (h : Matches i p place next (Fresh i place) fun v m => Q v ∧ Fresh i next m) :
    Matches i (memoised rule p) place next (Primed i rule Q place next) fun v m =>
      Q v ∧ Noted i rule Q place next m := by
  rintro progress (hfresh | hnoted)
  · have hnone : remembered rule (progress.memo.getD place []) = none := by
      rw [hfresh.2 place (Nat.le_refl place)]
      rfl
    obtain ⟨v, later, heq, hv, hlater⟩ := h progress hfresh
    refine ⟨v, Progress.note later place ⟨rule, some (v, next)⟩, ?_, hv, ⟨v, hv, ?_⟩, hlater.note hlt⟩
    · simp only [Parser.memoised, hrule, hnone, heq]
      rfl
    · show remembered rule ((later.memo.modify place (⟨rule, some (v, next)⟩ :: ·)).getD place []) = _
      rw [getD_modify, if_pos ⟨rfl, Nat.lt_trans hplace hlater.1⟩, remembered_cons]
  · obtain ⟨⟨v, hv, hremembered⟩, hfresh⟩ := hnoted
    refine ⟨v, progress, ?_, hv, ⟨v, hv, hremembered⟩, hfresh⟩
    simp only [Parser.memoised, hrule, hremembered]
    rfl

/-- A rule that is not remembered. -/
theorem Matches.unremembered (rule : Rule) {p : Parser rule.Value} {P : Memo → Prop}
    {R : rule.Value → Memo → Prop}
    (hrule : rule.isRemembered = false) (h : Matches i p place next P R) :
    Matches i (Parser.memoised rule p) place next P R := by
  intro progress hm
  obtain ⟨v, later, heq, hv⟩ := h progress hm
  refine ⟨v, later, ?_, hv⟩
  simp only [Parser.memoised, hrule, heq]
  rfl

/-- A rule that is not remembered misses. -/
theorem Misses.unremembered (rule : Rule) {p : Parser rule.Value} {P S : Memo → Prop}
    (hrule : rule.isRemembered = false) (h : Misses i p place P S) :
    Misses i (Parser.memoised rule p) place P S := by
  intro progress hm
  obtain ⟨later, heq, hlater⟩ := h progress hm
  refine ⟨later, ?_, hlater⟩
  simp only [Parser.memoised, hrule, heq]
  rfl

/-- A rule that misses where nothing was read. -/
theorem Misses.memoised {p : Parser rule.Value} (h : Misses i p place (Clear i place) (Clear i place)) :
    Misses i (memoised rule p) place (Clear i place) (Clear i place) := by
  intro progress hclear
  obtain ⟨later, heq, hlater⟩ := h progress hclear
  cases hrule : rule.isRemembered with
  | false => exact Misses.unremembered _ hrule h progress hclear
  | true =>
    cases hremembered : remembered rule (progress.memo.getD place []) with
    | some result =>
      have hnone : result = none := hclear.2 _ (exists_mem_of_remembered hremembered)
      subst hnone
      refine ⟨progress, ?_, hclear⟩
      simp only [Parser.memoised, hrule, hremembered]
      rfl
    | none =>
      refine ⟨Progress.note later place ⟨rule, none⟩, ?_, hlater.1.note (Nat.lt_succ_self place), ?_⟩
      · simp only [Parser.memoised, hrule, hremembered, heq]
        rfl
      · intro r hr
        have hmem : r ∈ (later.memo.modify place (⟨rule, none⟩ :: ·)).getD place [] := hr
        rw [getD_modify] at hmem
        split at hmem
        · rcases List.mem_cons.mp hmem with rfl | hmem
          · rfl
          · exact hlater.2 r hmem
        · exact hlater.2 r hmem

end FluentBuilder.Syntax.Grammar
