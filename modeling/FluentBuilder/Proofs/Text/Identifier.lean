import Mathlib
import FluentBuilder.Proofs.Text.Case
import FluentBuilder.Text.Composition
import FluentBuilder.Text.Identifier

/-!
# Normal forms of identifiers

An identifier has no separator of names or paths in it, and nor has its normal form (`isSegment_normalForm`),
although there are characters that fall apart into some: fractions have a stroke, numbered lists have
points. These stand in few ranges (`separatingRanges`) and the characters of identifiers outside of them,
so that what an identifier is decomposed to stands behind the separators (`isHigh_of_mem_decompose`). From
there composition is followed state by state (`isHigh_of_mem_add`).

The tables are checked line by line.
-/

namespace FluentBuilder.Text

/-! ### Characters that fall apart into separators -/

/-- The ranges of the characters that fall apart into separators, with no character of identifiers in
them. -/
def separatingRanges : List (Nat × Nat) :=
  [(0xA0, 0xA8), (0xAF, 0xB4), (0xB8, 0xB8), (0x2D8, 0x2DD), (0x37A, 0x37A), (0x384, 0x385),
    (0x1FBD, 0x1FBD), (0x1FBF, 0x1FC1), (0x1FCD, 0x1FCF), (0x1FDD, 0x1FDF), (0x1FED, 0x1FEE),
    (0x1FFD, 0x203E), (0x2048, 0x2049), (0x205F, 0x205F), (0x207A, 0x207E), (0x208A, 0x208E),
    (0x2100, 0x2101), (0x2105, 0x2106), (0x2474, 0x24B5), (0x3000, 0x3000), (0x309B, 0x309C),
    (0x3200, 0x33D8), (0xFB29, 0xFB29), (0xFC5E, 0xFC63), (0xFDFA, 0xFDFB), (0xFE10, 0xFE19),
    (0xFE30, 0xFE30), (0xFE35, 0xFE4C), (0xFE50, 0xFE70), (0xFE72, 0xFE72), (0xFE74, 0xFE76),
    (0xFE78, 0xFE78), (0xFE7A, 0xFE7A), (0xFE7C, 0xFE7C), (0xFE7E, 0xFE7E), (0xFF01, 0xFF0F),
    (0xFFE3, 0xFFE3), (0x1F100, 0x1F129)]

/-- Does a range of code points have nothing in common with these ranges? -/
def isApart (range : Nat × Nat) : Bool :=
  separatingRanges.all fun separating => range.2 < separating.1 || separating.2 < range.1

/-- What is left of a row from the code point `first` on. -/
def MapRow.startingAt (row : MapRow) (first : Nat) : MapRow :=
  ⟨(first, row.range.2), row.target.map (· + (first - row.range.1))⟩

/-- Do all characters of a row that are not in one of the ranges have their images behind the
separators? A row that begins in a range may go on behind it. -/
def staysHigh (row : MapRow) : Bool :=
  hasHighImages row || separatingRanges.any fun separating =>
    separating.1 ≤ row.range.1 &&
      (row.range.2 ≤ separating.2 || row.target.length == 1 && hasHighImages (row.startingAt (separating.2 + 1)))

/-! ### Tables -/

/-- What holds of the words of every line holds of all words. -/
theorem of_mem_wordsOfLines {lines : List String} {p : List Char → Bool}
    (h : ∀ line ∈ lines, (splitAt ' ' line.toList).all p = true) :
    ∀ word ∈ wordsOfLines lines, p word = true := by
  intro word hword
  obtain ⟨line, hline, hword⟩ := List.mem_flatMap.mp hword
  exact List.all_eq_true.mp (h line hline) word hword

/-- The characters that may begin an identifier stand apart. -/
theorem identifierStartTable_isApart : ∀ row ∈ identifierStartTable.rows, isApart row = true := by
  intro row hrow
  rw [identifierStartTable, RangeTable.ofLines, List.mem_toArray, List.mem_map] at hrow
  obtain ⟨word, hword, rfl⟩ := hrow
  refine of_mem_wordsOfLines (p := fun word => isApart (readRange word)) ?_ word hword
  repeat' first
    | exact List.forall_mem_nil _
    | refine List.forall_mem_cons.mpr ⟨?_, ?_⟩
    | (rw [String.toList_ofList]; decide +kernel)

/-- The characters that may continue an identifier stand apart. -/
theorem identifierContinueTable_isApart : ∀ row ∈ identifierContinueTable.rows, isApart row = true := by
  intro row hrow
  rw [identifierContinueTable, RangeTable.ofLines, List.mem_toArray, List.mem_map] at hrow
  obtain ⟨word, hword, rfl⟩ := hrow
  refine of_mem_wordsOfLines (p := fun word => isApart (readRange word)) ?_ word hword
  repeat' first
    | exact List.forall_mem_nil _
    | refine List.forall_mem_cons.mpr ⟨?_, ?_⟩
    | (rw [String.toList_ofList]; decide +kernel)

/-- What does not fall apart into separators stays behind them. -/
theorem decompositionTable_staysHigh : ∀ row ∈ decompositionTable.rows, staysHigh row = true := by
  intro row hrow
  rw [decompositionTable, MapTable.ofLines, List.mem_toArray, List.mem_map] at hrow
  obtain ⟨word, hword, rfl⟩ := hrow
  refine of_mem_wordsOfLines (p := fun word => staysHigh (MapRow.ofText word)) ?_ word hword
  repeat' first
    | exact List.forall_mem_nil _
    | refine List.forall_mem_cons.mpr ⟨?_, ?_⟩
    | (rw [String.toList_ofList]; decide +kernel)

/-! ### Looking up -/

/-- A code point of a word: it stands behind the separators and outside of the ranges of characters that
fall apart into some. -/
def IsWordCode (c : Nat) : Prop := IsHigh c ∧ isApart (c, c) = true

/-- What is apart from a range around it is apart. -/
theorem isApart_of_mem {range : Nat × Nat} (h : isApart range = true) {c : Nat} (hfirst : range.1 ≤ c)
    (hlast : c ≤ range.2) : isApart (c, c) = true := by
  rw [isApart, List.all_eq_true] at h ⊢
  intro separating hmem
  have hrange := h separating hmem
  rw [Bool.or_eq_true, decide_eq_true_eq, decide_eq_true_eq] at hrange ⊢
  omega

/-- A code point in a table of ranges that are apart is apart. -/
theorem isApart_of_contains {table : RangeTable} (h : ∀ row ∈ table.rows, isApart row = true) {c : Nat}
    (hcontains : table.contains c = true) : isApart (c, c) = true := by
  obtain ⟨i, hi⟩ := Option.isSome_iff_exists.mp hcontains
  obtain ⟨first, last, hrow, hfirst, hlast⟩ := exists_of_bisect hi
  exact isApart_of_mem (h (first, last) (Array.mem_of_getElem? hrow)) hfirst hlast

/-- ASCII characters are apart. -/
theorem isApart_of_lt {c : Nat} (h : c < 128) : isApart (c, c) = true :=
  have hascii : isApart (0, 127) = true := by decide
  isApart_of_mem hascii (Nat.zero_le c) (Nat.le_of_lt_succ h)

/-- The code point of a character that stands behind the separators. -/
theorem isHigh_toNat {c : Char} (h : 0x30 ≤ c.toNat) : IsHigh c.toNat := ⟨h, c.valid⟩

/-- ASCII characters that are behind the separators make up words. -/
theorem isWordCode_of_lt {c : Char} (hascii : c.toNat < 128) (h : 0x30 ≤ c.toNat) : IsWordCode c.toNat :=
  ⟨isHigh_toNat h, isApart_of_lt hascii⟩

/-- ASCII letters and digits are behind the separators. -/
theorem le_toNat_of_isAlphanum {c : Char} (h : c.isAlphanum = true) : 0x30 ≤ c.toNat := by
  have hcode : c.toNat = c.val.toNat := rfl
  simp only [Char.isAlphanum, Char.isAlpha, Char.isUpper, Char.isLower, Char.isDigit, Bool.or_eq_true,
    Bool.and_eq_true, decide_eq_true_eq, ge_iff_le, UInt32.le_iff_toNat_le] at h
  have hcapital : 'A'.val.toNat = 65 := rfl
  have hsmall : 'a'.val.toNat = 97 := rfl
  have hdigit : '0'.val.toNat = 48 := rfl
  omega

/-- The characters that may begin an identifier make up words. -/
theorem isWordCode_of_isIdentifierStart {c : Char} (h : isIdentifierStart c = true) :
    IsWordCode c.toNat := by
  rw [isIdentifierStart] at h
  split at h
  · next hascii =>
    refine isWordCode_of_lt hascii ?_
    rcases Bool.or_eq_true_iff.mp h with h | h
    · exact le_toNat_of_isAlphanum (by rw [Char.isAlphanum, h, Bool.true_or])
    · rw [eq_of_beq h]
      decide
  · next hbeyond =>
    exact ⟨isHigh_toNat (by omega), isApart_of_contains identifierStartTable_isApart h⟩

/-- The characters that may continue an identifier make up words. -/
theorem isWordCode_of_isIdentifierContinue {c : Char} (h : isIdentifierContinue c = true) :
    IsWordCode c.toNat := by
  rw [isIdentifierContinue] at h
  split at h
  · next hascii =>
    refine isWordCode_of_lt hascii ?_
    rcases Bool.or_eq_true_iff.mp h with h | h
    · exact le_toNat_of_isAlphanum h
    · rw [eq_of_beq h]
      decide
  · next hbeyond =>
    exact ⟨isHigh_toNat (by omega), isApart_of_contains identifierContinueTable_isApart h⟩

/-- A text that does not stop being an identifier has only characters of words. -/
theorem isWordCode_of_identifierBreak {cs : List Char} (h : identifierBreak cs = none) :
    ∀ c ∈ cs, IsWordCode c.toNat := by
  cases cs with
  | nil => exact fun c hc => absurd hc List.not_mem_nil
  | cons first rest =>
    rw [identifierBreak] at h
    split at h
    · cases h
    next hstart =>
    dsimp only at h
    split at h
    · next hkept =>
      have hrest : rest.takeWhile isIdentifierContinue = rest :=
        (List.takeWhile_prefix _).eq_of_length (eq_of_beq hkept)
      intro c hc
      rcases List.mem_cons.mp hc with rfl | hc
      · exact isWordCode_of_isIdentifierStart (by simpa using hstart)
      · have hall : rest.all isIdentifierContinue = true := hrest ▸ List.all_takeWhile
        exact isWordCode_of_isIdentifierContinue (List.all_eq_true.mp hall c hc)
    · cases h

/-! ### Decomposition -/

/-- A part of a text between separators is always there. -/
theorem splitAt_ne_nil (separator : Char) (cs : List Char) : splitAt separator cs ≠ [] := by
  rw [splitAt]
  split
  exact fun h => absurd (List.reverse_eq_nil_iff.mp h) (List.cons_ne_nil _ _)

/-- A row has images. -/
theorem target_ofText_ne_nil (word : List Char) : (MapRow.ofText word).target ≠ [] := by
  rw [MapRow.ofText]
  split
  · exact fun h => splitAt_ne_nil ',' _ (List.map_eq_nil_iff.mp h)
  · exact List.cons_ne_nil _ _

/-- The images that are found are those of a row: of one that maps a range, the image as far from the
first one as the code point, or else all. -/
theorem exists_row_of_find? {table : MapTable} {c : Nat} {images : List Nat}
    (h : table.find? c = some images) :
    ∃ row ∈ table.rows, row.range.1 ≤ c ∧ c ≤ row.range.2 ∧
      ((∃ first, row.target = [first] ∧ images = [first + (c - row.range.1)]) ∨
        row.target.length ≠ 1 ∧ images = row.target) := by
  simp only [MapTable.find?, bind, Option.bind_eq_some_iff] at h
  obtain ⟨i, hi, row, hrow, htarget⟩ := h
  obtain ⟨first, last, hrange, hfirst, hlast⟩ := exists_of_bisect hi
  rw [hrow, Option.map_some, Option.some.injEq] at hrange
  refine ⟨row, Array.mem_of_getElem? hrow, by rw [hrange]; exact hfirst, by rw [hrange]; exact hlast, ?_⟩
  split at htarget
  · next image himage => exact .inl ⟨image, himage, (Option.some.inj htarget).symm⟩
  · next hnot =>
    refine .inr ⟨fun hlength => ?_, (Option.some.inj htarget).symm⟩
    obtain ⟨image, himage⟩ := List.length_eq_one_iff.mp hlength
    exact hnot image himage

/-- Images of a row that stays behind the separators. -/
theorem isHigh_of_hasHighImages {row : MapRow} (h : hasHighImages row = true) {image : Nat}
    (himage : image ∈ row.target) {n : Nat} (hn : n ≤ row.range.2 - row.range.1) : IsHigh (image + n) := by
  have hends := List.all_eq_true.mp h image himage
  simp only [Bool.and_eq_true, Bool.or_eq_true, decide_eq_true_eq] at hends
  unfold IsHigh Nat.isValidChar
  omega

/-- The images of a code point that is apart stand behind the separators. -/
theorem isHigh_of_find?_of_isApart {c d : Nat} {images : List Nat}
    (hfound : decompositionTable.find? c = some images) (h : isApart (c, c) = true) (hd : d ∈ images) :
    IsHigh d := by
  obtain ⟨row, hrow, hfirst, hlast, himages⟩ := exists_row_of_find? hfound
  rcases Bool.or_eq_true_iff.mp (decompositionTable_staysHigh row hrow) with hall | hsome
  · rcases himages with ⟨image, htarget, rfl⟩ | ⟨-, rfl⟩
    · rw [List.mem_singleton.mp hd]
      exact isHigh_of_hasHighImages hall (htarget ▸ List.mem_singleton_self image) (by omega)
    · exact isHigh_of_hasHighImages hall hd (Nat.zero_le _)
  · -- The row begins in one of the ranges, and the code point stands behind it.
    obtain ⟨separating, hmem, hbegins⟩ := List.any_eq_true.mp hsome
    rw [Bool.and_eq_true, decide_eq_true_eq, Bool.or_eq_true, decide_eq_true_eq, Bool.and_eq_true,
      beq_iff_eq] at hbegins
    have hbehind : separating.2 < c := by
      have hapart := List.all_eq_true.mp h separating hmem
      rw [Bool.or_eq_true, decide_eq_true_eq, decide_eq_true_eq] at hapart
      omega
    obtain ⟨hlength, hrest⟩ := hbegins.2.resolve_left (by omega)
    rcases himages with ⟨image, htarget, rfl⟩ | ⟨hnot, -⟩
    · have hlater : image + (separating.2 + 1 - row.range.1) ∈ (row.startingAt (separating.2 + 1)).target := by
        rw [MapRow.startingAt, htarget]
        exact List.mem_singleton_self _
      have hhigh : IsHigh (image + (separating.2 + 1 - row.range.1) +
          (c - row.range.1 - (separating.2 + 1 - row.range.1))) := by
        refine isHigh_of_hasHighImages hrest hlater ?_
        show _ ≤ row.range.2 - (separating.2 + 1)
        omega
      have hsum : image + (separating.2 + 1 - row.range.1) +
          (c - row.range.1 - (separating.2 + 1 - row.range.1)) = image + (c - row.range.1) := by omega
      rw [List.mem_singleton.mp hd, ← hsum]
      exact hhigh
    · exact absurd hlength hnot

/-- **What characters of words are decomposed to stands behind the separators.** -/
theorem isHigh_of_mem_decompose {c d : Nat} (h : IsWordCode c) (hd : d ∈ decompose c) : IsHigh d := by
  rw [decompose] at hd
  split at hd
  · rw [List.mem_singleton.mp hd]
    exact h.1
  split at hd
  · next hsyllable =>
    -- The letters of a syllable.
    rw [Bool.and_eq_true, decide_eq_true_eq, decide_eq_true_eq] at hsyllable
    have hletters : d = 0x1100 + (c - 0xAC00) / 588 ∨ d = 0x1161 + (c - 0xAC00) % 588 / 28 ∨
        d = 0x11A7 + (c - 0xAC00) % 28 := by
      dsimp only at hd
      split at hd
      · simp only [List.mem_cons, List.not_mem_nil, or_false] at hd
        omega
      · simp only [List.mem_append, List.mem_cons, List.not_mem_nil, or_false] at hd
        omega
    unfold IsHigh Nat.isValidChar
    omega
  · cases hfound : decompositionTable.find? c with
    | none =>
      rw [hfound, Option.getD_none] at hd
      rw [List.mem_singleton.mp hd]
      exact h.1
    | some images =>
      rw [hfound, Option.getD_some] at hd
      exact isHigh_of_find?_of_isApart hfound h.2 hd

/-- A character is decomposed to something. -/
theorem decompose_ne_nil (c : Nat) : decompose c ≠ [] := by
  rw [decompose]
  split
  · exact List.cons_ne_nil _ _
  split
  · dsimp only
    split
    · exact List.cons_ne_nil _ _
    · exact List.append_ne_nil_of_left_ne_nil (List.cons_ne_nil _ _) _
  · cases hfound : decompositionTable.find? c with
    | none => exact List.cons_ne_nil _ _
    | some images =>
      obtain ⟨row, hrow, -, -, ⟨first, -, rfl⟩ | ⟨-, rfl⟩⟩ := exists_row_of_find? hfound
      · exact List.cons_ne_nil _ _
      · rw [decompositionTable, MapTable.ofLines, List.mem_toArray, List.mem_map] at hrow
        obtain ⟨word, -, rfl⟩ := hrow
        exact target_ofText_ne_nil word

/-- A mark is put among the characters. -/
theorem mem_insertMark {c d : Nat} {before : List Nat} :
    d ∈ insertMark c before ↔ d = c ∨ d ∈ before := by
  induction before with
  | nil => rw [insertMark, List.mem_singleton, or_iff_left List.not_mem_nil]
  | cons e before ih =>
    rw [insertMark]
    split
    · rw [List.mem_cons, ih, List.mem_cons]
      exact or_left_comm
    · rw [List.mem_cons]

/-- Putting marks in their order keeps the characters. -/
theorem mem_foldl_insertMark {cs : List Nat} {d : Nat} {before : List Nat} :
    d ∈ cs.foldl (fun before c => insertMark c before) before ↔ d ∈ cs ∨ d ∈ before := by
  induction cs generalizing before with
  | nil => rw [List.foldl_nil, or_iff_right List.not_mem_nil]
  | cons c cs ih =>
    rw [List.foldl_cons, ih, mem_insertMark, List.mem_cons, or_assoc]
    exact or_left_comm

/-- The decomposition of a text is made of those of its characters. -/
theorem mem_decomposeAll {cs : List Nat} {d : Nat} : d ∈ decomposeAll cs ↔ ∃ c ∈ cs, d ∈ decompose c := by
  rw [decomposeAll, List.mem_reverse, mem_foldl_insertMark, or_iff_left List.not_mem_nil, List.mem_flatMap]

/-! ### Composition -/

/-- Does a row of compositions lead behind the separators? -/
def composesHigh (row : Nat × Nat × Nat) : Bool := hasHighImages ⟨(0, 0), [row.2.2]⟩

/-- All rows of compositions lead behind the separators. -/
theorem compositionRows_composesHigh : ∀ row ∈ compositionRows, composesHigh row = true := by
  intro row hrow
  rw [compositionRows, List.mem_toArray, List.mem_map] at hrow
  obtain ⟨word, hword, rfl⟩ := hrow
  refine of_mem_wordsOfLines (p := fun word => composesHigh (readComposition word)) ?_ word hword
  rw [compositionRows.compositionText]
  repeat' first
    | exact List.forall_mem_nil _
    | refine List.forall_mem_cons.mpr ⟨?_, ?_⟩
    | (rw [String.toList_ofList]; decide +kernel)

/-- The character that a pair is found to compose to is that of a row. -/
theorem exists_row_of_findPair {rows : Array (Nat × Nat × Nat)} {pair : Nat × Nat} {fuel low high whole : Nat}
    (h : findPair rows pair fuel low high = some whole) : ∃ row ∈ rows, row.2.2 = whole := by
  induction fuel generalizing low high with
  | zero => cases h
  | succ fuel ih =>
    rw [findPair] at h
    split at h
    · dsimp only at h
      split at h
      · next first second image hrow =>
        split at h
        · exact ih h
        · split at h
          · exact ih h
          · exact ⟨_, Array.mem_of_getElem? hrow, Option.some.inj h⟩
      · cases h
    · cases h

/-- What a pair composes to stands behind the separators. -/
theorem isHigh_of_composePair {a b whole : Nat} (h : composePair a b = some whole) : IsHigh whole := by
  rw [composePair] at h
  split at h
  · cases h
  split at h
  · next hletters =>
    simp only [Bool.and_eq_true, decide_eq_true_eq] at hletters
    have hwhole := Option.some.inj h
    unfold IsHigh Nat.isValidChar
    omega
  split at h
  · next hsyllable =>
    simp only [Bool.and_eq_true, decide_eq_true_eq, beq_iff_eq] at hsyllable
    have hwhole := Option.some.inj h
    unfold IsHigh Nat.isValidChar
    omega
  · obtain ⟨row, hrow, rfl⟩ := exists_row_of_findPair h
    exact isHigh_of_hasHighImages (compositionRows_composesHigh row hrow) (List.mem_singleton_self _)
      (Nat.zero_le _)

/-- What joins composes. -/
theorem composePair_of_joined {starter c whole : Nat} {behind : List Nat}
    (h : joined starter behind c = some whole) : composePair starter c = some whole := by
  unfold joined at h
  exact (Option.ite_none_left_eq_some.mp h).2

/-- The characters of a state after one more are those before it, and that one or what it joins to. -/
theorem mem_reversed_add {s : Composing} {c d : Nat} (h : d ∈ (s.add c).reversed) :
    d ∈ s.reversed ∨ d = c ∨ ∃ starter, composePair starter c = some d := by
  obtain ⟨finished, starter, behind⟩ := s
  have hnew (h : d ∈ (if (combiningClass c == 0) = true then
      (⟨Composing.reversed ⟨finished, starter, behind⟩, some c, []⟩ : Composing)
      else ⟨finished, starter, c :: behind⟩).reversed) :
      d ∈ Composing.reversed ⟨finished, starter, behind⟩ ∨ d = c := by
    split at h
    · rcases List.mem_cons.mp h with rfl | h
      · exact .inr rfl
      · exact .inl h
    · rcases List.mem_cons.mp h with rfl | h
      · exact .inr rfl
      · exact .inl h
  cases starter with
  | none => exact (hnew h).imp_right .inl
  | some starter =>
    rw [Composing.add] at h
    dsimp only at h
    cases hjoined : joined starter behind c with
    | none =>
      rw [hjoined] at h
      exact (hnew h).imp_right .inl
    | some whole =>
      rw [hjoined] at h
      rcases List.mem_append.mp h with hbehind | hfront
      · exact .inl (List.mem_append_left _ hbehind)
      · rcases List.mem_cons.mp hfront with rfl | hfinished
        · exact .inr (.inr ⟨starter, composePair_of_joined hjoined⟩)
        · exact .inl (List.mem_append_right _ (List.mem_cons_of_mem _ hfinished))

/-- A state to which a character was added is not empty. -/
theorem reversed_add_ne_nil (s : Composing) (c : Nat) : (s.add c).reversed ≠ [] := by
  obtain ⟨finished, starter, behind⟩ := s
  have hnew (t : Composing) : (if (combiningClass c == 0) = true then
      (⟨t.reversed, some c, []⟩ : Composing) else { t with behind := c :: t.behind }).reversed ≠ [] := by
    split
    · exact List.cons_ne_nil _ _
    · exact List.cons_ne_nil _ _
  cases starter with
  | none => exact hnew _
  | some starter =>
    rw [Composing.add]
    dsimp only
    cases joined starter behind c with
    | none => exact hnew _
    | some whole => exact List.append_ne_nil_of_right_ne_nil _ (List.cons_ne_nil _ _)

/-- A state of composition with nothing but characters from behind the separators. -/
theorem isHigh_of_mem_foldl {cs : List Nat} (hcs : ∀ c ∈ cs, IsHigh c) {s : Composing}
    (hs : ∀ d ∈ s.reversed, IsHigh d) : ∀ d ∈ (cs.foldl Composing.add s).reversed, IsHigh d := by
  induction cs generalizing s with
  | nil => exact hs
  | cons c cs ih =>
    obtain ⟨hc, hrest⟩ := List.forall_mem_cons.mp hcs
    refine ih hrest fun d hd => ?_
    rcases mem_reversed_add hd with hd | rfl | ⟨starter, hpair⟩
    · exact hs d hd
    · exact hc
    · exact isHigh_of_composePair hpair

/-- **The normal form of a text of characters of words has characters from behind the separators.** -/
theorem isHigh_of_mem_composeAll {cs : List Nat} (h : ∀ c ∈ cs, IsWordCode c) :
    ∀ d ∈ composeAll cs, IsHigh d := by
  intro d hd
  rw [composeAll, List.mem_reverse] at hd
  refine isHigh_of_mem_foldl (fun e he => ?_) (fun e he => absurd he List.not_mem_nil) d hd
  obtain ⟨c, hc, he⟩ := mem_decomposeAll.mp he
  exact isHigh_of_mem_decompose (h c hc) he

/-- The composition of characters is not empty. -/
theorem foldl_add_ne_nil {cs : List Nat} (hne : cs ≠ []) (s : Composing) :
    (cs.foldl Composing.add s).reversed ≠ [] := by
  rcases List.eq_nil_or_concat cs with rfl | ⟨front, last, rfl⟩
  · exact absurd rfl hne
  · rw [List.concat_eq_append, List.foldl_append, List.foldl_cons, List.foldl_nil]
    exact reversed_add_ne_nil _ last

/-- The normal form of a text with characters has some. -/
theorem composeAll_ne_nil {cs : List Nat} (hne : cs ≠ []) : composeAll cs ≠ [] := by
  rw [composeAll]
  refine fun h => foldl_add_ne_nil (fun hnil => ?_) _ (List.reverse_eq_nil_iff.mp h)
  obtain ⟨c, hc⟩ := List.exists_mem_of_ne_nil cs hne
  obtain ⟨d, hd⟩ := List.exists_mem_of_ne_nil _ (decompose_ne_nil c)
  have hmem : d ∈ decomposeAll cs := mem_decomposeAll.mpr ⟨c, hc, hd⟩
  rw [hnil] at hmem
  exact absurd hmem List.not_mem_nil

/-! ### Segments -/

/-- A text that can be a segment of a dotted name or of a path: it is not empty and has no separators. -/
def IsSegment (name : String) : Prop := name ≠ "" ∧ ∀ c ∈ name.toList, ¬ IsSeparator c

instance (name : String) : Decidable (IsSegment name) :=
  inferInstanceAs (Decidable (name ≠ "" ∧ ∀ c ∈ name.toList, ¬ IsSeparator c))

/-- **The normal form of an identifier is a segment.** -/
theorem isSegment_normalForm {name : String} (hne : name ≠ "")
    (h : ∀ c ∈ name.toList, IsWordCode c.toNat) : IsSegment (normalForm name) := by
  rw [normalForm]
  split
  · exact ⟨hne, fun c hc => Nat.not_lt.mpr (h c hc).1.1⟩
  · have hcodes : ∀ code ∈ name.toList.map Char.toNat, IsWordCode code := List.forall_mem_map.mpr h
    refine ⟨fun hempty => ?_, fun c hc => ?_⟩
    · have hlist := congrArg String.toList hempty
      rw [String.toList_ofList] at hlist
      exact composeAll_ne_nil (by simpa using hne) (List.map_eq_nil_iff.mp hlist)
    · rw [String.toList_ofList] at hc
      obtain ⟨code, hcode, rfl⟩ := List.mem_map.mp hc
      exact not_isSeparator_ofNat (isHigh_of_mem_composeAll hcodes code hcode)

end FluentBuilder.Text
