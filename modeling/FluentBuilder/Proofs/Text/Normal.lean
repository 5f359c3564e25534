import FluentBuilder.Text.Composition

/-!
# Normal forms and leading characters

A leading ASCII character that composes with nothing stays apart from what follows it: the normal
form of the whole is that character before the normal form of the rest (`composeAll_cons`). An
underscore is such a character, so a name in normal form stays in normal form behind one
(`normalForm_underscore`).

Decomposition is followed on the reversed text, where the leading character stands at the end and no
mark passes it (`insertMark_append_starter`). Composition is followed state by state: with the
leading character in front, the states are those without it, but for that character at the far end
of what is finished (`Behind`).
-/

namespace FluentBuilder.Text

/-! ### Decomposition -/

/-- ASCII characters are base characters. -/
theorem combiningClass_of_lt {c : Nat} (h : c < 128) : combiningClass c = 0 := by
  rw [combiningClass, if_pos h]

/-- ASCII characters are their own decomposition. -/
theorem decompose_of_lt {c : Nat} (h : c < 128) : decompose c = [c] := by
  rw [decompose, if_pos h]

/-- No mark is put before a base character. -/
theorem insertMark_append_starter {starter : Nat} (h : combiningClass starter = 0) (c : Nat)
    (before : List Nat) :
    insertMark c (before ++ [starter]) = insertMark c before ++ [starter] := by
  induction before with
  | nil => simp [insertMark, h]
  | cons d before ih =>
    simp only [List.cons_append, insertMark]
    split
    · rw [ih, List.cons_append]
    · rfl

/-- The decomposition behind a base character is that of what stands there. -/
theorem foldl_insertMark_append {starter : Nat} (h : combiningClass starter = 0) (cs before : List Nat) :
    cs.foldl (fun before c => insertMark c before) (before ++ [starter]) =
      cs.foldl (fun before c => insertMark c before) before ++ [starter] := by
  induction cs generalizing before with
  | nil => rfl
  | cons c cs ih => rw [List.foldl_cons, List.foldl_cons, insertMark_append_starter h, ih]

/-- An ASCII character is decomposed apart from what follows. -/
theorem decomposeAll_cons {c : Nat} (h : c < 128) (cs : List Nat) :
    decomposeAll (c :: cs) = c :: decomposeAll cs := by
  have hfold := foldl_insertMark_append (combiningClass_of_lt h) (cs.flatMap decompose) []
  rw [List.nil_append] at hfold
  rw [decomposeAll, List.flatMap_cons, decompose_of_lt h, List.singleton_append, List.foldl_cons,
    insertMark, hfold, List.reverse_append, List.reverse_singleton, List.singleton_append,
    decomposeAll]

/-! ### Composition -/

/-- A character that begins no pair composes with nothing. -/
theorem composePair_eq_none {a : Nat} (h : a < 128) (hapart : composesAscii a = false) (b : Nat) :
    composePair a b = none := by
  rw [composePair, hapart, decide_eq_true h]
  rfl

/-- A state of composition behind a leading character: the state without it, and the character at the
far end of what is finished, or as the starter as long as there is no other. -/
def Behind (leading : Nat) (without state : Composing) : Prop :=
  (without.starter = none ∧ without.finished = [] ∧
    state = ⟨[], some leading, without.behind⟩) ∨
  (without.starter ≠ none ∧
    state = ⟨without.finished ++ [leading], without.starter, without.behind⟩)

/-- A character that begins no pair joins with nothing. -/
theorem joined_eq_none {a : Nat} (h : a < 128) (hapart : composesAscii a = false) (behind : List Nat)
    (b : Nat) : joined a behind b = none := by
  unfold joined
  rw [composePair_eq_none h hapart, ite_self]

/-- A step of composition keeps the leading character apart. -/
theorem Behind.add {leading : Nat} (h : leading < 128) (hapart : composesAscii leading = false)
    {without state : Composing} (hbehind : Behind leading without state) (c : Nat) :
    Behind leading (without.add c) (state.add c) := by
  obtain ⟨finished, starter, behind⟩ := without
  rcases hbehind with ⟨hstarter, hfinished, rfl⟩ | ⟨hstarter, rfl⟩
  · simp only at hstarter hfinished
    subst hstarter hfinished
    simp only [Composing.add, joined_eq_none h hapart]
    by_cases hclass : (combiningClass c == 0) = true
    · rw [if_pos hclass, if_pos hclass]
      exact .inr ⟨Option.some_ne_none c, by simp [Composing.reversed]⟩
    · rw [if_neg hclass, if_neg hclass]
      exact .inl ⟨rfl, rfl, rfl⟩
  · obtain ⟨s, hs⟩ := Option.ne_none_iff_exists'.mp hstarter
    simp only at hs
    subst hs
    -- What is joined depends on the starter and on what is behind it, and those are the same.
    simp only [Composing.add]
    cases joined s behind c with
    | some whole => exact .inr ⟨Option.some_ne_none whole, rfl⟩
    | none =>
      by_cases hclass : (combiningClass c == 0) = true
      · simp only [if_pos hclass]
        exact .inr ⟨Option.some_ne_none c, by simp [Composing.reversed]⟩
      · simp only [if_neg hclass]
        exact .inr ⟨Option.some_ne_none s, rfl⟩

/-- Composition keeps the leading character apart. -/
theorem Behind.foldl {leading : Nat} (h : leading < 128) (hapart : composesAscii leading = false)
    {without state : Composing} (hbehind : Behind leading without state) (cs : List Nat) :
    Behind leading (cs.foldl Composing.add without) (cs.foldl Composing.add state) := by
  induction cs generalizing without state with
  | nil => exact hbehind
  | cons c cs ih => exact ih (hbehind.add h hapart c)

/-- What is composed behind a leading character. -/
theorem Behind.reversed_eq {leading : Nat} {without state : Composing}
    (hbehind : Behind leading without state) : state.reversed = without.reversed ++ [leading] := by
  obtain ⟨finished, starter, behind⟩ := without
  rcases hbehind with ⟨hstarter, hfinished, rfl⟩ | ⟨hstarter, rfl⟩
  · simp only at hstarter hfinished
    simp [Composing.reversed, hstarter, hfinished]
  · obtain ⟨s, hs⟩ := Option.ne_none_iff_exists'.mp hstarter
    simp only at hs
    simp [Composing.reversed, hs]

/-- **A leading ASCII character that composes with nothing stays apart.** -/
theorem composeAll_cons {c : Nat} (h : c < 128) (hapart : composesAscii c = false) (cs : List Nat) :
    composeAll (c :: cs) = c :: composeAll cs := by
  have hfirst : Composing.add ⟨[], none, []⟩ c = ⟨[], some c, []⟩ := by
    simp [Composing.add, Composing.reversed, combiningClass_of_lt h]
  have hbehind : Behind c ⟨[], none, []⟩ ⟨[], some c, []⟩ := .inl ⟨rfl, rfl, rfl⟩
  rw [composeAll, decomposeAll_cons h, List.foldl_cons, hfirst,
    (hbehind.foldl h hapart (decomposeAll cs)).reversed_eq, List.reverse_append,
    List.reverse_singleton, List.singleton_append, composeAll]

/-! ### Names behind an underscore -/

/-- **A text in normal form is in normal form behind an underscore.** -/
theorem normalForm_underscore {s : String} (h : normalForm s = s) :
    normalForm ("_" ++ s) = "_" ++ s := by
  have hlist : ("_" ++ s).toList = '_' :: s.toList := by rw [String.toList_append]; rfl
  rw [normalForm] at h ⊢
  rw [hlist, List.all_cons, show decide ('_'.toNat < 128) = true from rfl, Bool.true_and]
  split
  · rfl
  · next hascii =>
    rw [if_neg hascii] at h
    have hchars := congrArg String.toList h
    rw [String.toList_ofList] at hchars
    rw [List.map_cons, composeAll_cons (by decide) (by decide), List.map_cons, hchars,
      ← String.toList_inj, String.toList_ofList, hlist]
    rfl

end FluentBuilder.Text
