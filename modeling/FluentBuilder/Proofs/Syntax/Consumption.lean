import Mathlib
import FluentBuilder.Proofs.Outcome
import FluentBuilder.Syntax.Lexer

/-!
# Tokens are made of the characters of the text

The reader passes every character once, so that the tokens of a text have together no more characters
than the text (`taken_ofSource`). `Reader.left` counts the characters that are still to be read, and
`Reader.Takes` says of a token that it has no more characters than were passed for it. The lemmas follow
the reader function by function; a step is `takes_of_step`, and all steps are `Reader.taken_tokens`.

Lines and line ends are at the end: dividing a text into lines keeps its characters, and unifying its
line ends makes no more of them.
-/

namespace FluentBuilder.Syntax

namespace Reader

/-- The number of characters that are not read. -/
def left (r : Reader) : Nat := r.rest.length + (r.later.map List.length).sum

/-- Beginning a line reads nothing. -/
@[simp] theorem left_ready (r : Reader) (within : Bool) : (r.ready within).left = r.left := by
  obtain ⟨source, rest, later⟩ := r
  cases rest with
  | nil =>
    cases later with
    | nil => rfl
    | cons next later => simp [ready, left]
  | cons c rest => rfl

/-- Reading characters. -/
theorem left_advance (r : Reader) (n : Nat) : (r.rest.take n).length + (r.advance n).left = r.left := by
  have hsplit : (r.rest.take n).length + (r.rest.drop n).length = r.rest.length := by
    rw [← List.length_append, List.take_append_drop]
  simp only [left, advance]
  omega

/-- Reading characters leaves no more of them. -/
theorem left_advance_le (r : Reader) (n : Nat) : (r.advance n).left ≤ r.left :=
  r.left_advance n ▸ Nat.le_add_left _ _

/-- Going past a backslash leaves no more characters. -/
theorem left_of_continueLine {r after : Reader} {within : Bool}
    (h : r.continueLine within = .ok after) : after.left ≤ r.left := by
  unfold continueLine at h
  split at h
  · dsimp only at h
    split at h
    · cases h
    · obtain rfl := Except.ok.inj h
      rw [left_ready]
      exact left_advance_le r _
  · cases h

/-- Measuring the indentation leaves no more characters. -/
theorem left_of_measure {fuel : Nat} {r after : Reader} {i j : Indentation}
    (h : r.measure i fuel = .ok (after, j)) : after.left ≤ r.left := by
  induction fuel generalizing r i with
  | zero =>
    obtain ⟨rfl, -⟩ := Prod.mk.inj (Except.ok.inj h)
    exact Nat.le_refl _
  | succ fuel ih =>
    unfold measure at h
    split at h
    · exact Nat.le_trans (ih h) (left_advance_le r 1)
    · exact Nat.le_trans (ih h) (left_advance_le r 1)
    · exact Nat.le_trans (ih h) (left_advance_le r 1)
    · split at h
      · next next hnext => exact Nat.le_trans (ih h) (left_of_continueLine hnext)
      · cases h
    · obtain ⟨rfl, -⟩ := Prod.mk.inj (Except.ok.inj h)
      exact Nat.le_refl _

/-- Comparing the indentation reads nothing. -/
theorem left_of_indentTo {r after : Reader} {wide narrow : Nat}
    (h : r.indentTo wide narrow = .ok after) : after.left = r.left := by
  unfold indentTo at h
  dsimp only at h
  repeat' split at h
  all_goals first
    | (obtain rfl := Except.ok.inj h; rfl)
    | cases h

/-- Beginning a line leaves no more characters. -/
theorem left_of_beginLine {r after : Reader} {blank : Bool} (h : r.beginLine = .ok (after, blank)) :
    after.left ≤ r.left := by
  obtain ⟨⟨begun, i⟩, hbegun, h⟩ := Outcome.bind_eq_ok_iff.mp h
  have hle : begun.left ≤ r.left := left_ready r false ▸ left_of_measure hbegun
  rcases ite_eq_iff.mp h with ⟨-, h⟩ | ⟨-, h⟩
  · obtain ⟨rfl, -⟩ := Prod.mk.inj (Except.ok.inj h)
    exact hle
  · have hindented {wide narrow : Nat} {flag : Bool}
        (h : ((Reader.indentTo { begun with atLineStart := false } wide narrow) >>=
          fun r => .ok (r, flag)) = .ok (after, blank)) : after.left ≤ r.left := by
      obtain ⟨indented, hindented, h⟩ := Outcome.bind_eq_ok_iff.mp h
      obtain ⟨rfl, -⟩ := Prod.mk.inj (Except.ok.inj h)
      exact Nat.le_trans (Nat.le_of_eq (left_of_indentTo hindented)) hle
    rcases ite_eq_iff.mp h with ⟨-, h⟩ | ⟨-, h⟩
    · exact hindented h
    · exact hindented h

/-- A reader that has a character before it reads one by going on. -/
theorem left_advance_one {r : Reader} {c : Char} {cs : List Char} (h : r.rest = c :: cs) :
    (r.advance 1).left + 1 = r.left := by
  have hsplit := r.left_advance 1
  rw [h] at hsplit
  simpa [Nat.add_comm] using hsplit

/-- A quoted constant grows by what is read. -/
theorem left_of_quotedEnd {quote : Char} {size seen fuel : Nat} {r after : Reader}
    {read whole : List Char} (h : r.quotedEnd quote size seen read fuel = .ok (after, whole)) :
    whole.length + after.left ≤ read.length + r.left ∧ read.length ≤ whole.length := by
  induction fuel generalizing r seen read with
  | zero => cases h
  | succ fuel ih =>
    unfold quotedEnd at h
    split at h
    · obtain ⟨rfl, rfl⟩ := Prod.mk.inj (Except.ok.inj h)
      exact ⟨Nat.le_refl _, Nat.le_refl _⟩
    have hready := left_ready r true
    dsimp only at h
    split at h
    · cases h
    next c cs hrest =>
    have hone := left_advance_one hrest
    split at h
    · cases h
    split at h
    · have hrec := ih h
      simp only [List.length_cons] at hrec
      omega
    split at h
    · split at h
      · cases h
      next d ds hmore =>
      have htwo := left_advance_one hmore
      have hagain := left_ready ((r.ready true).advance 1) true
      have hrec := ih h
      simp only [List.length_cons] at hrec
      omega
    · have hrec := ih h
      simp only [List.length_cons] at hrec
      omega

/-- A token takes the characters that are read for it; a quoted constant takes some. -/
def Takes (r : Reader) (t : Token) (after : Reader) : Prop :=
  t.text.length + after.left ≤ r.left ∧ (t.kind = .quoted → 0 < t.text.length)

/-- A token of the characters read by going on. -/
theorem takes_advance {r after : Reader} {kind : TokenKind} {n line : Nat} {column : Option Nat}
    (hkind : kind ≠ .quoted) (hafter : after.left = (r.advance n).left) :
    r.Takes (after.token kind (r.rest.take n) line column) after := by
  refine ⟨?_, fun h => absurd h hkind⟩
  have hsplit := r.left_advance n
  simp only [token, String.length_ofList]
  omega

/-- A quoted constant takes its characters. -/
theorem takes_of_quoted {r after : Reader} {letters : Nat} {t : Token} {c : Char} {cs : List Char}
    (hrest : r.rest = c :: cs) (h : r.quoted letters = .ok (t, after)) : r.Takes t after := by
  unfold quoted at h
  extract_lets quote body at h
  split at h
  next size opening seen hopening =>
  have hpositive : 0 < opening := by
    clear_value body
    repeat' split at hopening
    all_goals
      simp only [Prod.mk.injEq] at hopening
      omega
  dsimp only at h
  cases hend : (r.advance opening).quotedEnd quote size seen (r.rest.take opening).reverse r.limit with
  | error reached =>
    rw [hend] at h
    cases h
  | ok reached =>
    obtain ⟨last, read⟩ := reached
    rw [hend] at h
    obtain ⟨rfl, rfl⟩ := Prod.mk.inj (Except.ok.inj h)
    obtain ⟨hleft, hread⟩ := left_of_quotedEnd hend
    have hsplit := r.left_advance opening
    have hfirst : 0 < (r.rest.take opening).length := by
      rw [List.length_take, hrest, List.length_cons]
      omega
    rw [List.length_reverse] at hleft hread
    refine ⟨?_, fun _ => ?_⟩
    · simp only [token, String.length_ofList, List.length_reverse]
      omega
    · simp only [token, String.length_ofList, List.length_reverse]
      omega

/-- A sign takes its characters. -/
theorem takes_of_sign {r after : Reader} {c : Char} {t : Token} (h : r.sign c = .ok (t, after)) :
    r.Takes t after := by
  unfold sign at h
  extract_lets length after' finish at h
  have hfinish {last : Reader}
      (h : Except.ok (finish last) = (.ok (t, after) : Except Stop (Token × Reader)))
      (hlast : last.left = after'.left) : r.Takes t after := by
    obtain ⟨rfl, rfl⟩ := Prod.mk.inj (Except.ok.inj h)
    exact takes_advance (by decide) hlast
  split at h
  · exact hfinish h rfl
  split at h
  · split at h
    · cases h
    · exact hfinish h rfl
  split at h
  · split at h
    · cases h
    · split at h
      · exact hfinish h rfl
      · cases h
  · split at h
    · exact hfinish h rfl
    · cases h

/-- A word takes its characters. -/
theorem takes_of_word {r after : Reader} {t : Token} (h : r.word = .ok (t, after)) :
    r.Takes t after := by
  unfold word at h
  extract_lets cs after' fault at h
  split at h
  · cases h
  · next kind _ _ =>
    obtain ⟨rfl, rfl⟩ := Prod.mk.inj (Except.ok.inj h)
    have hcs : cs = r.rest.take cs.length := List.prefix_iff_eq_take.mp (List.takeWhile_prefix _)
    have hkind : kind ≠ .quoted := by
      rcases ite_eq_or_eq (Text.isReservedWord (String.ofList cs) = true) TokenKind.keyword .name with
        hword | hword
      · exact fun h => by cases hword.symm.trans h
      · exact fun h => by cases hword.symm.trans h
    have htakes : r.Takes (after'.token kind (r.rest.take cs.length) r.line (some r.column)) after' :=
      takes_advance hkind rfl
    rwa [← hcs] at htakes

/-- What a reader takes with fewer characters before it. -/
theorem Takes.mono {r s after : Reader} {t : Token} (h : s.Takes t after) (hle : s.left ≤ r.left) :
    r.Takes t after :=
  ⟨Nat.le_trans h.1 hle, h.2⟩

/-- A step takes the characters that are read by it. -/
def Step.Takes (r : Reader) : Step → Prop
  | .token t after => r.Takes t after
  | .skip after => after.left ≤ r.left

/-- What a step takes with fewer characters before it. -/
theorem Step.Takes.mono {r s : Reader} {step : Step} (h : step.Takes s) (hle : s.left ≤ r.left) :
    step.Takes r := by
  cases step with
  | token t after => exact Reader.Takes.mono h hle
  | skip after => exact Nat.le_trans h hle

/-- The token of a step. -/
theorem takes_of_map {r s : Reader} {result : Except Stop (Token × Reader)} {step : Step}
    (hle : s.left ≤ r.left) (hresult : ∀ t after, result = .ok (t, after) → s.Takes t after)
    (h : result.map (fun (t, r) => Step.token t r) = .ok step) : step.Takes r := by
  cases result with
  | error stop => cases h
  | ok pair =>
    obtain rfl := Except.ok.inj h
    exact (hresult pair.1 pair.2 rfl).mono hle

/-- A token without characters. -/
theorem takes_nil {r after : Reader} {kind : TokenKind} {line : Nat} {column : Option Nat}
    {place : Reader} (hkind : kind ≠ .quoted) (hle : after.left ≤ r.left) :
    r.Takes (place.token kind [] line column) after :=
  ⟨by simpa [token] using hle, fun h => absurd h hkind⟩

/-- A lexeme takes its characters. -/
theorem takes_of_lexeme {r : Reader} {blank : Bool} {fuel : Nat} {step : Step}
    (h : r.lexeme blank fuel = .ok step) : step.Takes r := by
  induction fuel generalizing r with
  | zero => cases h
  | succ fuel ih =>
    unfold lexeme at h
    extract_lets begun blanks before at h
    split at h
    next _ s hs =>
    have hle : s.left ≤ r.left := by
      have hbefore : before.left ≤ r.left :=
        Nat.le_trans (left_advance_le begun _) (Nat.le_of_eq (left_ready r false))
      split at hs
      · obtain ⟨-, rfl⟩ := Prod.mk.inj hs
        exact Nat.le_trans (left_advance_le _ _) hbefore
      · obtain ⟨-, rfl⟩ := Prod.mk.inj hs
        exact hbefore
    split at h
    · split at h
      · obtain rfl := Except.ok.inj h
        exact takes_nil (by decide) hle
      · cases h
    next c next hrest =>
    extract_lets at h
    split at h
    · have hafter : (s.advance 1).left ≤ r.left := Nat.le_trans (left_advance_le s 1) hle
      split at h
      · obtain rfl := Except.ok.inj h
        exact hafter
      · obtain rfl := Except.ok.inj h
        exact takes_nil (by decide) hafter
    split at h
    · exact takes_of_map hle (fun t after => takes_of_quoted hrest) h
    split at h
    · exact takes_of_map hle (fun t after => takes_of_word) h
    split at h
    · split at h
      · obtain rfl := Except.ok.inj h
        exact (takes_advance (by decide) rfl).mono hle
      · cases h
      · cases h
    split at h
    · split at h
      · next hnext =>
        exact (ih h).mono (Nat.le_trans (left_of_continueLine hnext) hle)
      · cases h
    · exact takes_of_map hle (fun t after => takes_of_sign) h

/-- A step of reading takes the characters that are read by it. -/
theorem takes_of_step {r : Reader} {step : Step} (h : r.step = .ok step) : step.Takes r := by
  have begun {begun : Reader} {blank : Bool} (hle : begun.left ≤ r.left)
      (h : (if begun.dedentsDue > 0 then
          let r := { begun with dedentsDue := begun.dedentsDue - 1 }
          .ok (.token (r.token .dedent [] r.line none) r)
        else if begun.indentDue then
          let r := { begun with indentDue := false }
          .ok (.token (r.token .indent [] r.line none) r)
        else begun.lexeme blank begun.limit) = (.ok step : Except Stop Step)) : step.Takes r := by
    split at h
    · obtain rfl := Except.ok.inj h
      exact takes_nil (by decide) hle
    split at h
    · obtain rfl := Except.ok.inj h
      exact takes_nil (by decide) hle
    · exact (takes_of_lexeme h).mono hle
  rw [Reader.step] at h
  rcases ite_eq_iff.mp h with ⟨-, h⟩ | ⟨-, h⟩
  · obtain ⟨⟨after, blank⟩, hafter, h⟩ := Outcome.bind_eq_ok_iff.mp h
    exact begun (left_of_beginLine hafter) h
  · exact begun (Nat.le_refl _) h

/-- Of `characters` characters the tokens leave `left`, and quoted constants take some. -/
structure Taken (characters left : Nat) (tokens : Array Token) : Prop where
  /-- The number of characters of the tokens. -/
  extent : (tokens.toList.map (·.text.length)).sum + left ≤ characters
  /-- A quoted constant has characters. -/
  quoted : ∀ t ∈ tokens.toList, t.kind = .quoted → 0 < t.text.length

/-- One more token. -/
theorem Taken.push {characters : Nat} {r after : Reader} {t : Token} {read : Array Token}
    (hread : Taken characters r.left read) (h : r.Takes t after) :
    Taken characters after.left (read.push t) := by
  constructor
  · have hextent := hread.extent
    have htaken := h.1
    simp only [Array.toList_push, List.map_append, List.sum_append, List.map_cons, List.map_nil,
      List.sum_cons, List.sum_nil]
    omega
  · intro u hu
    rw [Array.toList_push] at hu
    rcases List.mem_append.mp hu with hu | hu
    · exact hread.quoted u hu
    · rw [List.mem_singleton.mp hu]
      exact h.2

/-- Less characters are left. -/
theorem Taken.mono {characters left left' : Nat} {read : Array Token} (h : Taken characters left read)
    (hle : left' ≤ left) : Taken characters left' read :=
  ⟨Nat.le_trans (Nat.add_le_add_left hle _) h.extent, h.quoted⟩

/-- The tokens that are read take no more characters than there are: by induction on the steps. -/
theorem taken_tokens {characters fuel : Nat} {r : Reader} {read : Array Token}
    (h : Taken characters r.left read) : Taken characters 0 (r.tokens read fuel).tokens := by
  induction fuel generalizing r read with
  | zero => exact h.mono (Nat.zero_le _)
  | succ fuel ih =>
    rw [tokens]
    cases hstep : r.step with
    | error stop => exact h.mono (Nat.zero_le _)
    | ok step =>
      have htakes := takes_of_step hstep
      cases step with
      | skip after => exact ih (h.mono htakes)
      | token t after =>
        have hpush := h.push htakes
        dsimp only
        split
        · exact hpush.mono (Nat.zero_le _)
        · exact ih hpush

end Reader

/-! ### Whole texts -/

/-- The tokens of a text take no more characters than its lines have. -/
theorem taken_ofSource (source : SourceText) :
    Reader.Taken (source.lines.toList.map List.length).sum 0 (Scan.ofSource source).tokens := by
  refine Reader.taken_tokens ⟨?_, fun t ht => absurd ht (by simp)⟩
  simp [Reader.left, Reader.start]

/-- A measure that grows by one with every item grows by their number. -/
theorem measure_foldl {σ : Type} {f : σ → Char → σ} {measure : σ → Nat}
    (hstep : ∀ s c, measure (f s c) = measure s + 1) (cs : List Char) (s : σ) :
    measure (cs.foldl f s) = measure s + cs.length := by
  induction cs generalizing s with
  | nil => rfl
  | cons c cs ih =>
    rw [List.foldl_cons, ih, hstep, List.length_cons]
    omega

/-- The characters of lines and of one that is not complete. -/
def lineCharacters (s : List (List Char) × List Char) : Nat := (s.1.map List.length).sum + s.2.length

/-- Lines have the characters of their text. -/
theorem sum_length_splitLines (cs : List Char) :
    ((splitLines cs).map List.length).sum = cs.length := by
  unfold splitLines
  split
  next lines last hlines =>
  have hall := congrArg lineCharacters hlines
  rw [@measure_foldl _ _ lineCharacters] at hall
  · simp only [lineCharacters, List.map_nil, List.sum_nil, List.length_nil] at hall
    rw [List.map_reverse, List.sum_reverse]
    cases last with
    | nil => simpa [Nat.add_comm] using hall.symm
    | cons c last => simpa [Nat.add_comm] using hall.symm
  · rintro ⟨lines, current⟩ c
    dsimp only
    split
    · simp only [lineCharacters, List.map_cons, List.sum_cons, List.length_reverse, List.length_cons,
        List.length_nil]
      omega
    · simp only [lineCharacters, List.length_cons]
      omega

/-- Unified line ends are no more characters. -/
theorem length_unifyLineEnds_le (cs : List Char) : (unifyLineEnds cs).length ≤ cs.length := by
  induction cs using unifyLineEnds.induct with
  | case1 => exact Nat.le_refl 0
  | case2 rest ih =>
    simp only [unifyLineEnds, List.length_cons]
    omega
  | case3 c rest hnot ih =>
    rw [unifyLineEnds]
    · simp only [List.length_cons]
      omega
    · exact hnot

end FluentBuilder.Syntax
