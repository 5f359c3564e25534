import FluentBuilder.Syntax.Literal
import Mathlib.Data.List.TakeWhile
import Mathlib.Data.Nat.Digits.Defs

/-!
# Escapes make a text shorter

A text with escapes is read in ASCII, where a character beyond ASCII takes ten characters
(`Literal.inAscii`). This is longer than the text, so that the length of what is read is not bounded by
the characters read one by one.

**The route.** `inAscii` goes through a text by parts: a character, a backslash with the character
behind it, a character beyond ASCII (`inAscii_induction`). An escape takes digits, which stand for
themselves (`eq_of_inAscii_append`), or a name in braces, which ends with the first closing brace
(`exists_of_inAscii_closing`); these are all (`Takes`, `exists_of_escape`). So whatever an escape takes,
it ends where a part ends (`exists_of_takes`), and it gives no more code points than the text has
characters there (`length_le_of_unescapeFrom`).
-/

namespace FluentBuilder.Syntax.Literal

/-! ### Texts in ASCII -/

/-- The digits of a number are no other characters. -/
theorem not_mem_toDigits {c : Char} (hc : ∀ n, Nat.digitChar n ≠ c) (n : Nat) :
    c ∉ Nat.toDigits 16 n := by
  induction n using Nat.strong_induction_on with
  | _ n ih =>
    rw [Nat.toDigits_eq_if (by decide)]
    split
    · simpa using (hc n).symm
    · next hlarge =>
      have hsmaller : n / 16 < n := Nat.div_lt_self (by omega) (by decide)
      simpa using ⟨ih _ hsmaller, (hc _).symm⟩

/-- A character beyond ASCII is written by a backslash, a letter and eight characters, none of which
is a brace. -/
theorem byNumber_eq (c : Char) :
    ∃ digits : List Char, byNumber c = '\\' :: 'U' :: digits ∧ digits.length = 8 ∧
      ∀ d ∈ digits, d.toNat ≠ 125 := by
  refine ⟨List.replicate (8 - (Nat.toDigits 16 c.toNat).length) '0' ++ Nat.toDigits 16 c.toNat, rfl,
    ?_, ?_⟩
  · have hcode : c.toNat < 16 ^ 8 := by
      rcases c.valid with h | h
      · exact lt_trans h (by decide)
      · exact lt_trans h.2 (by decide)
    have hlength := (Nat.length_toDigits_le_iff (by decide : 1 < 16) (by decide : 0 < 8)).mpr hcode
    simp only [List.length_append, List.length_replicate]
    omega
  · intro d hd hbrace
    obtain rfl : d = Char.ofNat 125 := by rw [← hbrace, Char.ofNat_toNat]
    rcases List.mem_append.mp hd with hd | hd
    · exact absurd (List.eq_of_mem_replicate hd) (by decide)
    · exact not_mem_toDigits (fun n => Nat.digitChar_ne _ (by decide)) _ hd

/-- A backslash that begins no escape. -/
theorem backslash_eq : backslash = ['\\', 'u', '0', '0', '5', 'c'] := by decide

/-- A backslash before a character of ASCII stays, with the character. -/
theorem inAscii_escape {c : Char} (hc : c.toNat < 128) (rest : List Char) :
    inAscii ('\\' :: c :: rest) = '\\' :: c :: inAscii rest := by
  rw [inAscii, if_neg (by omega)]

/-- A backslash before a character beyond ASCII is written out. -/
theorem inAscii_escape_beyond {c : Char} (hc : 128 ≤ c.toNat) (rest : List Char) :
    inAscii ('\\' :: c :: rest) = backslash ++ (byNumber c ++ inAscii rest) := by
  rw [inAscii, if_pos hc, List.append_assoc]

/-- A character of ASCII stays. -/
theorem inAscii_plain {c : Char} (hslash : c ≠ '\\') (hc : c.toNat < 128) (rest : List Char) :
    inAscii (c :: rest) = c :: inAscii rest := by
  rw [inAscii, if_neg (by omega), List.singleton_append]
  · rintro rfl rfl
    exact hslash rfl
  · rintro d more rfl rfl
    exact hslash rfl

/-- A character beyond ASCII is written by its number. -/
theorem inAscii_beyond {c : Char} (hc : 128 ≤ c.toNat) (rest : List Char) :
    inAscii (c :: rest) = byNumber c ++ inAscii rest := by
  have hslash : c ≠ '\\' := by
    rintro rfl
    exact absurd hc (by decide)
  rw [inAscii, if_pos hc]
  · rintro rfl rfl
    exact hslash rfl
  · rintro d more rfl rfl
    exact hslash rfl

/-- Induction over a text by the parts of it that are written in ASCII as a whole. -/
@[elab_as_elim]
theorem inAscii_induction {motive : List Char → Prop} (nil : motive []) (slash : motive ['\\'])
    (escape : ∀ c rest, c.toNat < 128 → motive rest → motive ('\\' :: c :: rest))
    (escapeBeyond : ∀ c rest, 128 ≤ c.toNat → motive rest → motive ('\\' :: c :: rest))
    (plain : ∀ c rest, c ≠ '\\' → c.toNat < 128 → motive rest → motive (c :: rest))
    (beyond : ∀ c rest, 128 ≤ c.toNat → motive rest → motive (c :: rest)) (body : List Char) :
    motive body := by
  induction body using inAscii.induct with
  | case1 => exact nil
  | case2 => exact slash
  | case3 c rest hc ih => exact escapeBeyond c rest hc ih
  | case4 c rest hc ih => exact escape c rest (by omega) ih
  | case5 c rest hend hmore ih =>
    have hslash : c ≠ '\\' := by
      rintro rfl
      cases rest with
      | nil => exact hend rfl rfl
      | cons d more => exact hmore d more rfl rfl
    by_cases hc : c.toNat < 128
    · exact plain c rest hslash hc ih
    · exact beyond c rest (by omega) ih

/-- What does not begin with a backslash in ASCII begins with a character as it stands. -/
theorem eq_of_inAscii {body : List Char} {c : Char} {text : List Char} (hslash : c ≠ '\\') :
    inAscii body = c :: text → ∃ rest, body = c :: rest ∧ text = inAscii rest := by
  intro h
  cases body using inAscii_induction with
  | nil => cases h
  | slash => exact absurd (List.cons.inj (backslash_eq.symm.trans h)).1.symm hslash
  | escape d rest hd =>
    rw [inAscii_escape hd] at h
    exact absurd (List.cons.inj h).1.symm hslash
  | escapeBeyond d rest hd =>
    rw [inAscii_escape_beyond hd, backslash_eq] at h
    exact absurd (List.cons.inj h).1.symm hslash
  | plain d rest hd hascii =>
    rw [inAscii_plain hd hascii] at h
    obtain ⟨rfl, rfl⟩ := List.cons.inj h
    exact ⟨rest, rfl, rfl⟩
  | beyond d rest hd =>
    obtain ⟨digits, hdigits, -⟩ := byNumber_eq d
    rw [inAscii_beyond hd, hdigits] at h
    exact absurd (List.cons.inj h).1.symm hslash

/-- Characters at the beginning that are no backslashes are characters as they stand. -/
theorem eq_of_inAscii_append {body front text : List Char} (hslash : ∀ c ∈ front, c ≠ '\\')
    (h : inAscii body = front ++ text) : ∃ rest, body = front ++ rest ∧ text = inAscii rest := by
  induction front generalizing body with
  | nil => exact ⟨body, rfl, h.symm⟩
  | cons c front ih =>
    obtain ⟨more, rfl, hmore⟩ := eq_of_inAscii (hslash c List.mem_cons_self) h
    obtain ⟨rest, rfl, rfl⟩ := ih (fun d hd => hslash d (List.mem_cons_of_mem _ hd)) hmore.symm
    exact ⟨rest, rfl, rfl⟩

/-- The closing brace. -/
abbrev closing : Char := Char.ofNat 125

/-- The first character is the first closing brace or lies before it. -/
theorem eq_or_exists_of_closing {c : Char} {tail name text : List Char}
    (hname : ∀ d ∈ name, d.toNat ≠ 125) (h : c :: tail = name ++ closing :: text) :
    text = tail ∨ ∃ more, (∀ d ∈ more, d.toNat ≠ 125) ∧ tail = more ++ closing :: text := by
  cases name with
  | nil => exact .inl (List.cons.inj h).2.symm
  | cons d more =>
    exact .inr ⟨more, fun e he => hname e (List.mem_cons_of_mem _ he), (List.cons.inj h).2⟩

/-- Characters that are no closing braces lie before the first one. -/
theorem exists_of_append_closing {front tail name text : List Char}
    (hfront : ∀ c ∈ front, c.toNat ≠ 125) (hname : ∀ c ∈ name, c.toNat ≠ 125)
    (h : front ++ tail = name ++ closing :: text) :
    ∃ more, (∀ c ∈ more, c.toNat ≠ 125) ∧ tail = more ++ closing :: text := by
  rcases List.append_eq_append_iff.mp h with ⟨more, rfl, htail⟩ | ⟨more, rfl, hclosing⟩
  · exact ⟨more, fun c hc => hname c (List.mem_append_right _ hc), htail⟩
  · cases more with
    | nil => exact ⟨[], fun c hc => absurd hc List.not_mem_nil, hclosing.symm⟩
    | cons c more =>
      obtain ⟨rfl, -⟩ := List.cons.inj hclosing
      exact absurd (by decide) (hfront closing (by simp))

/-- Behind the first closing brace a text in ASCII goes on as what is left of the text. -/
theorem exists_of_inAscii_closing {body name text : List Char} (hname : ∀ c ∈ name, c.toNat ≠ 125)
    (h : inAscii body = name ++ closing :: text) :
    ∃ rest, text = inAscii rest ∧ rest.length < body.length := by
  have hbackslash : ∀ c ∈ backslash, c.toNat ≠ 125 := by simp [backslash_eq]
  have hnumber (c : Char) : ∀ d ∈ byNumber c, d.toNat ≠ 125 := by
    obtain ⟨digits, hdigits, -, hno⟩ := byNumber_eq c
    rw [hdigits]
    exact List.forall_mem_cons.mpr ⟨by decide, List.forall_mem_cons.mpr ⟨by decide, hno⟩⟩
  induction body using inAscii_induction generalizing name with
  | nil => exact absurd h.symm (by simp [inAscii])
  | slash =>
    obtain ⟨more, -, hnil⟩ :=
      exists_of_append_closing hbackslash hname ((List.append_nil backslash).trans h)
    exact absurd hnil.symm (by simp)
  | escape c rest hc ih =>
    rw [inAscii_escape hc] at h
    have hfront : ∀ c ∈ ['\\'], c.toNat ≠ 125 := by simp
    obtain ⟨more, hmore, htail⟩ := exists_of_append_closing hfront hname h
    rcases eq_or_exists_of_closing hmore htail with rfl | ⟨last, hlast, htail⟩
    · exact ⟨rest, rfl, Nat.lt_add_of_pos_right (by decide : 0 < 2)⟩
    · obtain ⟨left, hleft, hless⟩ := ih hlast htail
      exact ⟨left, hleft, hless.trans (Nat.lt_add_of_pos_right (by decide : 0 < 2))⟩
  | escapeBeyond c rest hc ih =>
    rw [inAscii_escape_beyond hc] at h
    obtain ⟨more, hmore, htail⟩ := exists_of_append_closing hbackslash hname h
    obtain ⟨last, hlast, htail⟩ := exists_of_append_closing (hnumber c) hmore htail
    obtain ⟨left, hleft, hless⟩ := ih hlast htail
    exact ⟨left, hleft, hless.trans (Nat.lt_add_of_pos_right (by decide : 0 < 2))⟩
  | plain c rest hslash hc ih =>
    rw [inAscii_plain hslash hc] at h
    rcases eq_or_exists_of_closing hname h with rfl | ⟨more, hmore, htail⟩
    · exact ⟨rest, rfl, Nat.lt_succ_self _⟩
    · obtain ⟨left, hleft, hless⟩ := ih hmore htail
      exact ⟨left, hleft, hless.trans (Nat.lt_succ_self _)⟩
  | beyond c rest hc ih =>
    rw [inAscii_beyond hc] at h
    obtain ⟨more, hmore, htail⟩ := exists_of_append_closing (hnumber c) hname h
    obtain ⟨left, hleft, hless⟩ := ih hmore htail
    exact ⟨left, hleft, hless.trans (Nat.lt_succ_self _)⟩

/-! ### Escapes -/

/-- Characters that belong to the last escape are passed over. -/
theorem unescapeFrom_skip (position : Nat) (front rest : List Char) :
    unescapeFrom position front.length (front ++ rest) =
      unescapeFrom (position + front.length) 0 rest := by
  induction front generalizing position with
  | nil => rfl
  | cons c front ih =>
    show unescapeFrom (position + 1) front.length (front ++ rest) = _
    rw [ih, List.length_cons]
    congr 1
    omega

/-- What comes before the code points of the rest of a text. -/
theorem exists_of_map_append {result : Except Cause CodePoints} {codes all : CodePoints}
    (h : result.map (codes ++ ·) = .ok all) : ∃ more, result = .ok more ∧ all = codes ++ more := by
  cases result with
  | error cause => cases h
  | ok more => exact ⟨more, rfl, (Except.ok.inj h).symm⟩

/-- A character that begins no escape stands for itself. -/
theorem unescapeFrom_plain {position : Nat} {c : Char} {rest : List Char} {codes : CodePoints}
    (hslash : c ≠ '\\') (h : unescapeFrom position 0 (c :: rest) = .ok codes) :
    ∃ more, unescapeFrom (position + 1) 0 rest = .ok more ∧ codes = [c.toNat] ++ more := by
  rw [unescapeFrom.eq_def] at h
  simp only [bne_iff_ne, ne_eq, hslash, not_false_eq_true, if_true] at h
  exact exists_of_map_append h

/-- The characters behind a backslash and a character that belong to their escape: `taken` characters,
the first of them included. -/
inductive Takes (d : Char) (more : List Char) : (taken : Nat) → Prop where
  /-- No character: the backslash begins no escape. -/
  | none : d ≠ '\\' → Takes d more 0
  /-- Characters that are no backslashes, behind the first one. -/
  | front {front rest : List Char} :
      more = front ++ rest → (∀ c ∈ front, c ≠ '\\') → Takes d more (front.length + 1)
  /-- A name in braces. -/
  | name {name rest : List Char} :
      more = Char.ofNat 123 :: (name ++ closing :: rest) → (∀ c ∈ name, c.toNat ≠ 125) →
        Takes d more (name.length + 3)

/-- The characters at the beginning of a text that pass a test, and what follows them. -/
theorem exists_of_takeWhile_take (p : Char → Bool) (n : Nat) (cs : List Char) :
    ∃ rest, cs = (cs.take n).takeWhile p ++ rest := by
  obtain ⟨rest, h⟩ := (List.takeWhile_prefix p).trans (List.take_prefix n cs)
  exact ⟨rest, h.symm⟩

/-- A character that does not pass a test is none of those at the beginning that do. -/
theorem ne_of_mem_takeWhile {p : Char → Bool} {d : Char} (hd : p d = false) {cs : List Char} :
    ∀ c ∈ cs.takeWhile p, c ≠ d := by
  rintro c hc rfl
  exact absurd (List.mem_takeWhile_imp hc) (by simp [hd])

/-- What follows the characters at the beginning that pass a test begins with one that does not. -/
theorem exists_of_length_takeWhile_lt {p : Char → Bool} {cs : List Char}
    (h : (cs.takeWhile p).length < cs.length) :
    ∃ c rest, p c = false ∧ cs = cs.takeWhile p ++ c :: rest := by
  have hcs : cs.takeWhile p ++ cs.dropWhile p = cs := List.takeWhile_append_dropWhile
  cases hrest : cs.dropWhile p with
  | nil =>
    rw [hrest, List.append_nil] at hcs
    exact absurd (congrArg List.length hcs) (by omega)
  | cons c rest =>
    have hfail := List.head_dropWhile_not p (l := cs) (by simp [hrest])
    simp only [hrest, List.head_cons] at hfail
    exact ⟨c, rest, hfail, by rw [← hrest, hcs]⟩

/-- The characters of an octal escape. -/
theorem takes_octalDigits {d : Char} {more : List Char} (h : octalDigits (d :: more) ≠ []) :
    Takes d more (octalDigits (d :: more)).length := by
  have hdigits : octalDigits (d :: more) =
      d :: (more.take 2).takeWhile fun c => '0' ≤ c && c ≤ '7' := by
    rw [octalDigits, List.take_succ_cons, List.takeWhile_cons] at h ⊢
    by_cases hd : ('0' ≤ d && d ≤ '7') = true
    · rw [if_pos hd]
    · rw [if_neg hd] at h
      exact absurd rfl h
  obtain ⟨rest, hrest⟩ := exists_of_takeWhile_take (fun c => '0' ≤ c && c ≤ '7') 2 more
  rw [hdigits, List.length_cons]
  exact .front hrest (ne_of_mem_takeWhile (by decide))

/-- The characters of a hexadecimal escape. -/
theorem takes_hexDigits {d : Char} {more : List Char} {count : Nat}
    (h : ¬((more.take count).takeWhile isHexDigit).length < count) : Takes d more (count + 1) := by
  obtain ⟨rest, hrest⟩ := exists_of_takeWhile_take isHexDigit count more
  have hcount : ((more.take count).takeWhile isHexDigit).length = count := by
    have hle := (List.takeWhile_prefix isHexDigit (l := more.take count)).length_le
    rw [List.length_take] at hle
    omega
  rw [← hcount]
  exact .front hrest (ne_of_mem_takeWhile (by decide))

/-- The characters of a name in braces. -/
theorem takes_name {d : Char} {more : List Char} (hopen : more.head?.map Char.toNat = some 123)
    (hclosed : 0 < (more.drop (((more.drop 1).takeWhile (fun c => c.toNat ≠ 125)).length + 1)).length) :
    Takes d more (((more.drop 1).takeWhile (fun c => c.toNat ≠ 125)).length + 3) := by
  cases more with
  | nil => cases hopen
  | cons c inside =>
    obtain rfl : c = Char.ofNat 123 := by
      rw [← Char.ofNat_toNat c, Option.some.inj hopen]
    rw [List.drop_succ_cons, List.drop_succ_cons, List.drop_zero, List.length_drop] at hclosed
    obtain ⟨b, rest, hb, hinside⟩ := exists_of_length_takeWhile_lt (Nat.lt_of_sub_pos hclosed)
    obtain rfl : b = closing := by
      rw [← Char.ofNat_toNat b, of_decide_eq_false hb |> not_not.mp]
    exact .name (congrArg _ hinside) fun c hc => by simpa using List.mem_takeWhile_imp hc

/-- **An escape** takes characters as a whole, and gives one code point at most for the backslash and
them. -/
theorem exists_of_escape {position : Nat} {d : Char} {more : List Char} {codes : CodePoints}
    (h : unescapeFrom position 0 ('\\' :: d :: more) = .ok codes) :
    ∃ first later taken, Takes d more taken ∧ first.length ≤ 1 ∧
      unescapeFrom (position + 1) taken (d :: more) = .ok later ∧ codes = first ++ later := by
  have given {first : CodePoints} {taken : Nat} (htakes : Takes d more taken)
      (hfirst : first.length ≤ 1)
      (h : (unescapeFrom (position + 1) taken (d :: more)).map (first ++ ·) = .ok codes) :
      ∃ first later taken, Takes d more taken ∧ first.length ≤ 1 ∧
        unescapeFrom (position + 1) taken (d :: more) = .ok later ∧ codes = first ++ later := by
    obtain ⟨later, hlater, rfl⟩ := exists_of_map_append h
    exact ⟨first, later, taken, htakes, hfirst, hlater, rfl⟩
  have one : Takes d more 1 := .front (List.nil_append more).symm fun c hc => absurd hc List.not_mem_nil
  rw [unescapeFrom.eq_def] at h
  simp only [bne_self_eq_false, Bool.false_eq_true, if_false] at h
  split at h
  · exact given one (by simp) h
  split at h
  · exact given one (by simp) h
  next hsimple =>
  split at h
  · next hoctal => exact given (takes_octalDigits (by simpa using hoctal)) (by simp) h
  split at h
  · split at h
    · cases h
    next hcount =>
    split at h
    · cases h
    · exact given (takes_hexDigits hcount) (by simp) h
  split at h
  · split at h
    · next hname =>
      split at h
      · simp only [Bool.and_eq_true, decide_eq_true_eq] at hname
        exact given (takes_name hname.1.1 hname.1.2) (by simp) h
      · cases h
    · cases h
  · refine given (.none ?_) (by simp) h
    rintro rfl
    exact hsimple _ rfl

/-- A hexadecimal escape, whose digits go before the rest of a text. -/
theorem exists_of_hexEscape {position : Nat} {d : Char} {digits rest : List Char} {codes : CodePoints}
    {fault : String} (hd : hexEscape d = some (digits.length, fault))
    (h : unescapeFrom position 0 ('\\' :: d :: (digits ++ rest)) = .ok codes) :
    ∃ code more position, unescapeFrom position 0 rest = .ok more ∧ codes = code :: more := by
  have hletter : d = 'x' ∨ d = 'u' ∨ d = 'U' := by
    rw [hexEscape.eq_def] at hd
    split at hd
    · exact .inl rfl
    · exact .inr (.inl rfl)
    · exact .inr (.inr rfl)
    · cases hd
  have hline : (d == '\n') = false := by rcases hletter with rfl | rfl | rfl <;> decide
  have hsimple : simpleEscape d = none := by rcases hletter with rfl | rfl | rfl <;> decide
  have hoctal : octalDigits (d :: (digits ++ rest)) = [] := by
    rcases hletter with rfl | rfl | rfl <;> rfl
  rw [unescapeFrom.eq_def] at h
  simp only [bne_self_eq_false, Bool.false_eq_true, if_false, hline, hsimple, hoctal, hd,
    List.isEmpty_nil, Bool.not_true, List.take_left'] at h
  split at h
  · cases h
  split at h
  · cases h
  · obtain ⟨more, hmore, rfl⟩ := exists_of_map_append h
    exact ⟨_, more, _, unescapeFrom_skip _ (d :: digits) rest ▸ hmore, rfl⟩

/-- A character beyond ASCII gives one code point. -/
theorem exists_of_byNumber {position : Nat} {c : Char} {rest : List Char} {codes : CodePoints}
    (h : unescapeFrom position 0 (byNumber c ++ rest) = .ok codes) :
    ∃ code more position, unescapeFrom position 0 rest = .ok more ∧ codes = code :: more := by
  obtain ⟨digits, hdigits, hlength, -⟩ := byNumber_eq c
  rw [hdigits] at h
  exact @exists_of_hexEscape position 'U' digits rest codes _ (by rw [hlength]; rfl) h

/-- A backslash that begins no escape gives one code point. -/
theorem exists_of_backslash {position : Nat} {rest : List Char} {codes : CodePoints}
    (h : unescapeFrom position 0 (backslash ++ rest) = .ok codes) :
    ∃ code more position, unescapeFrom position 0 rest = .ok more ∧ codes = code :: more := by
  rw [backslash_eq] at h
  exact @exists_of_hexEscape position 'u' ['0', '0', '5', 'c'] rest codes _ rfl h

/-- Behind an escape the text goes on with a part of it that is written in ASCII as a whole; a character
that does not belong to the escape gives one code point. -/
theorem exists_of_takes {position taken : Nat} {c : Char} {rest : List Char} {later : CodePoints}
    (htakes : Takes c (inAscii rest) taken)
    (h : unescapeFrom (position + 1) taken (c :: inAscii rest) = .ok later) :
    ∃ kept more last position, unescapeFrom position 0 (inAscii last) = .ok more ∧
      later = kept ++ more ∧ kept.length ≤ 1 ∧ last.length ≤ rest.length := by
  generalize hmore : inAscii rest = more at htakes h
  cases htakes with
  | none hslash =>
    subst hmore
    obtain ⟨last, hlast, rfl⟩ := unescapeFrom_plain hslash h
    exact ⟨[c.toNat], last, rest, _, hlast, rfl, Nat.le_refl 1, Nat.le_refl _⟩
  | @front front text hfront hslash =>
    subst hfront
    obtain ⟨last, rfl, rfl⟩ := eq_of_inAscii_append hslash hmore
    rw [← List.cons_append, ← List.length_cons (a := c), unescapeFrom_skip] at h
    exact ⟨[], later, last, _, h, rfl, Nat.zero_le 1, by simp⟩
  | @name name text hname hfree =>
    subst hname
    obtain ⟨inside, rfl, hinside⟩ := eq_of_inAscii (by decide) hmore
    obtain ⟨last, rfl, hless⟩ := exists_of_inAscii_closing hfree hinside.symm
    have h : unescapeFrom (position + 1) (c :: Char.ofNat 123 :: (name ++ [closing])).length
        (c :: Char.ofNat 123 :: (name ++ [closing]) ++ inAscii last) = .ok later := by simpa using h
    rw [unescapeFrom_skip] at h
    exact ⟨[], later, last, _, h, rfl, Nat.zero_le 1, by simp; omega⟩

/-- **The code points of a text with escapes are no more than its characters**: every escape ends where
a part ends that is written in ASCII as a whole. By induction on the number of characters. -/
theorem length_le_of_unescapeFrom {position : Nat} {body : List Char} {codes : CodePoints}
    (h : unescapeFrom position 0 (inAscii body) = .ok codes) : codes.length ≤ body.length := by
  induction hn : body.length using Nat.strong_induction_on generalizing position body codes with
  | _ n ih =>
  subst hn
  have shorter {rest : List Char} {position : Nat} {more : CodePoints} (hless : rest.length < body.length)
      (h : unescapeFrom position 0 (inAscii rest) = .ok more) : more.length ≤ rest.length :=
    ih rest.length hless h rfl
  cases body using inAscii_induction with
  | nil =>
    obtain rfl : codes = [] := (Except.ok.inj h).symm
    exact Nat.le_refl 0
  | slash =>
    have h : unescapeFrom position 0 (backslash ++ []) = .ok codes := by
      rw [List.append_nil]
      exact h
    obtain ⟨code, more, _, hmore, rfl⟩ := exists_of_backslash h
    obtain rfl : more = [] := (Except.ok.inj hmore).symm
    exact Nat.le_refl 1
  | escape c rest hc =>
    rw [inAscii_escape hc] at h
    obtain ⟨first, later, taken, htakes, hfirst, hlater, rfl⟩ := exists_of_escape h
    obtain ⟨kept, more, last, _, hmore, rfl, hkept, hlast⟩ := exists_of_takes htakes hlater
    simp only [List.length_append, List.length_cons] at shorter ⊢
    have hle := shorter (by omega) hmore
    omega
  | escapeBeyond c rest hc =>
    rw [inAscii_escape_beyond hc] at h
    obtain ⟨slash, later, _, hlater, rfl⟩ := exists_of_backslash h
    obtain ⟨code, more, _, hmore, rfl⟩ := exists_of_byNumber hlater
    simp only [List.length_cons] at shorter ⊢
    have hle := shorter (by omega) hmore
    omega
  | plain c rest hslash hc =>
    rw [inAscii_plain hslash hc] at h
    obtain ⟨more, hmore, rfl⟩ := unescapeFrom_plain hslash h
    simp only [List.length_append, List.length_cons, List.length_nil] at shorter ⊢
    have hle := shorter (by omega) hmore
    omega
  | beyond c rest hc =>
    rw [inAscii_beyond hc] at h
    obtain ⟨code, more, _, hmore, rfl⟩ := exists_of_byNumber h
    simp only [List.length_cons] at shorter ⊢
    have hle := shorter (by omega) hmore
    omega

/-- The code points of the inside of a quoted text are no more than its characters. -/
theorem length_le_of_unescape {raw : Bool} {body : List Char} {codes : CodePoints}
    (h : unescape raw body = .ok codes) : codes.length ≤ body.length := by
  rw [unescape] at h
  split at h
  · obtain rfl := Except.ok.inj h
    exact (List.length_map _).le
  · exact length_le_of_unescapeFrom h

end FluentBuilder.Syntax.Literal
