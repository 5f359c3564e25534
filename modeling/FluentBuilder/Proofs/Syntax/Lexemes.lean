import Mathlib
import FluentBuilder.Proofs.Source.Reading

/-!
# The tokens of a text made of lexemes

References are written in few lexemes: words, points, commas, bars and brackets. `Lexeme.written` is how
a lexeme is written, with blanks behind a comma and around a bar. A text of lexemes is read as the tokens
of these, one for each, and the token at its end (`scan_textOf`), where

* no word follows a word directly, and a single point is followed by a word (`Lexeme.mayPrecede`),
* no brackets are open at the end, and never more than the reader allows (`depthAfter`).

The reader is followed lexeme by lexeme. `Reader.Within` says what it still has to read; a step reads one
lexeme (`exists_step`).
-/

namespace FluentBuilder.Syntax

open Reader

/-! ### Lexemes -/

/-- What references are written with. -/
inductive Lexeme where
  /-- A name or a reserved word. -/
  | word (w : String)
  /-- The point between the segments of a name. -/
  | point
  /-- Three points. -/
  | points
  /-- A comma. -/
  | comma
  /-- The sign of a union. -/
  | bar
  /-- The bracket before arguments. -/
  | opening
  /-- The bracket behind them. -/
  | closing
  deriving DecidableEq

namespace Lexeme

/-- The kind of token that it is. -/
def kind : Lexeme → TokenKind
  | word w => if Text.isReservedWord w then .keyword else .name
  | _ => .sign

/-- The characters of the token. -/
def text : Lexeme → String
  | word w => w
  | point => "."
  | points => "..."
  | comma => ","
  | bar => "|"
  | opening => "["
  | closing => "]"

/-- How it is written, blanks included. -/
def written : Lexeme → List Char
  | comma => [',', ' ']
  | bar => [' ', '|', ' ']
  | l => l.text.toList

/-- May one lexeme stand directly behind another? -/
def mayPrecede : Lexeme → Lexeme → Bool
  | word _, word _ => false
  | point, word _ => true
  | point, _ => false
  | _, _ => true

/-- The number of open brackets behind it, if there are so many before it. The reader keeps at most two
hundred. -/
def depth : Lexeme → Nat → Option Nat
  | opening, d => if d < 200 then some (d + 1) else none
  | closing, d + 1 => some d
  | closing, 0 => none
  | _, d => some d

end Lexeme

/-- The characters of a text of lexemes. -/
def charsOf (ls : List Lexeme) : List Char := ls.flatMap Lexeme.written

/-- A text of lexemes. -/
def textOf (ls : List Lexeme) : String := String.ofList (charsOf ls)

/-- The number of open brackets behind lexemes. -/
def depthAfter (d : Nat) (ls : List Lexeme) : Option Nat := ls.foldlM (fun d l => l.depth d) d

/-- The token is that of a lexeme. -/
def Token.Shows (t : Token) (l : Lexeme) : Prop := t.kind = l.kind ∧ t.text = l.text

@[simp] theorem charsOf_nil : charsOf [] = [] := rfl

@[simp] theorem charsOf_cons (l : Lexeme) (ls : List Lexeme) :
    charsOf (l :: ls) = l.written ++ charsOf ls := rfl

@[simp] theorem charsOf_append (ls ls' : List Lexeme) : charsOf (ls ++ ls') = charsOf ls ++ charsOf ls' :=
  List.flatMap_append

theorem textOf_append (ls ls' : List Lexeme) : textOf (ls ++ ls') = textOf ls ++ textOf ls' := by
  rw [textOf, charsOf_append, String.ofList_append]
  rfl

theorem depthAfter_append (d : Nat) (ls ls' : List Lexeme) :
    depthAfter d (ls ++ ls') = (depthAfter d ls).bind fun e => depthAfter e ls' :=
  List.foldlM_append

/-! ### Where words end -/

/-- Neither a word nor a quoted constant goes on with these characters. -/
def Stops (cs : List Char) : Prop :=
  ∀ c ∈ cs.head?, isWordPart c = false ∧ c ≠ '"' ∧ c ≠ '\''

/-- Behind a word stands what ends it. -/
theorem stops_charsOf {w : String} {ls : List Lexeme}
    (h : List.IsChain (fun a b => a.mayPrecede b = true) (.word w :: ls)) : Stops (charsOf ls) := by
  intro c hc
  cases ls with
  | nil => cases hc
  | cons l rest =>
    have hl : Lexeme.mayPrecede (.word w) l = true := (List.isChain_cons_cons.mp h).1
    cases l with
    | word v => cases hl
    | _ =>
      obtain rfl := Option.some.inj hc
      decide

/-- What begins an identifier begins a word. -/
theorem isWordStart_of_isIdentifierStart {c : Char} (h : Text.isIdentifierStart c = true) :
    isWordStart c = true := by
  unfold Text.isIdentifierStart at h
  simp only [isWordStart, Bool.or_eq_true, decide_eq_true_eq]
  split at h
  · exact .inl (by simpa using h)
  · exact .inr (by omega)

/-- What begins a word is no digit. -/
theorem isDigit_of_isWordStart {c : Char} (h : isWordStart c = true) : c.isDigit = false := by
  simp only [isWordStart, Char.isAlpha, Char.isUpper, Char.isLower, Bool.or_eq_true, Bool.and_eq_true,
    decide_eq_true_eq, beq_iff_eq, UInt32.le_iff_toNat_le, ge_iff_le] at h
  rw [← Bool.not_eq_true]
  intro hdigit
  simp only [Char.isDigit, Bool.and_eq_true, decide_eq_true_eq, UInt32.le_iff_toNat_le, ge_iff_le] at hdigit
  rcases h with (h | rfl) | h
  · simp at h hdigit
    omega
  · exact absurd hdigit (by decide)
  · simp at hdigit
    omega

/-- What continues an identifier continues a word. -/
theorem isWordPart_of_isIdentifierContinue {c : Char} (h : Text.isIdentifierContinue c = true) :
    isWordPart c = true := by
  unfold Text.isIdentifierContinue at h
  simp only [isWordPart, Bool.or_eq_true, decide_eq_true_eq]
  split at h
  · exact .inl (by simpa using h)
  · exact .inr (by omega)

/-- What begins a word continues one. -/
theorem isWordPart_of_isWordStart {c : Char} (h : isWordStart c = true) : isWordPart c = true := by
  simp only [isWordStart, Bool.or_eq_true] at h
  simp only [isWordPart, Char.isAlphanum, Bool.or_eq_true]
  tauto

/-- An identifier has a first character, begins like a word, and goes on like one. -/
theorem exists_of_isIdentifier {w : String} (h : Text.isIdentifier w = true) :
    ∃ c cs, w.toList = c :: cs ∧ isWordStart c = true ∧ (∀ d ∈ w.toList, isWordPart d = true) ∧
      Text.identifierBreak w.toList = none := by
  unfold Text.isIdentifier at h
  cases hw : w.toList with
  | nil => rw [hw] at h; cases h
  | cons c cs =>
    rw [hw] at h
    simp only [Bool.and_eq_true, List.all_eq_true] at h
    obtain ⟨hstart, hall⟩ := h
    have hword := isWordStart_of_isIdentifierStart hstart
    refine ⟨c, cs, rfl, hword, ?_, ?_⟩
    · intro d hd
      rcases List.mem_cons.mp hd with rfl | hd
      · exact isWordPart_of_isWordStart hword
      · exact isWordPart_of_isIdentifierContinue (hall d hd)
    · have hkept : cs.takeWhile Text.isIdentifierContinue = cs := List.takeWhile_eq_self_iff.mpr hall
      simp [Text.identifierBreak, hstart, hkept]

/-- Behind a point stands what begins a word. -/
theorem isWordStart_of_point {ls : List Lexeme} {c : Char}
    (hchain : List.IsChain (fun a b => a.mayPrecede b = true) (.point :: ls))
    (hwords : ∀ w, Lexeme.word w ∈ ls → Text.isIdentifier w = true) (hc : c ∈ (charsOf ls).head?) :
    isWordStart c = true := by
  cases ls with
  | nil => cases hc
  | cons l rest =>
    have hl : Lexeme.mayPrecede .point l = true := (List.isChain_cons_cons.mp hchain).1
    cases l with
    | word w =>
      obtain ⟨d, ds, hchars, hstart, -⟩ := exists_of_isIdentifier (hwords w List.mem_cons_self)
      have hhead : (charsOf (.word w :: rest)).head? = some d := by
        rw [charsOf_cons]
        show (w.toList ++ charsOf rest).head? = some d
        rw [hchars]
        rfl
      rw [hhead] at hc
      obtain rfl := Option.some.inj hc
      exact hstart
    | _ => cases hl

/-- A word is as long as its characters go on. -/
theorem takeWhile_word {cs rest : List Char} (hall : ∀ d ∈ cs, isWordPart d = true) (hrest : Stops rest) :
    (cs ++ rest).takeWhile isWordPart = cs := by
  rw [List.takeWhile_append_of_pos hall]
  cases rest with
  | nil => simp
  | cons c rest => simp [(hrest c rfl).1]

/-- No quoted constant begins where a word begins that ends in front of a sign. -/
theorem quotedStart_word {cs rest : List Char} (hall : ∀ d ∈ cs, isWordPart d = true) (hrest : Stops rest) :
    quotedStart (cs ++ rest) = none := by
  have hhead : ∀ c ∈ ((cs ++ rest).dropWhile Char.isAlpha).head?, c ≠ '"' ∧ c ≠ '\'' := by
    intro c hc
    have hmem : c ∈ cs ∨ (cs ++ rest).dropWhile Char.isAlpha = rest.dropWhile Char.isAlpha := by
      rw [List.dropWhile_append] at hc ⊢
      split
      · exact .inr rfl
      · next hne =>
        rw [if_neg hne] at hc
        cases hdrop : cs.dropWhile Char.isAlpha with
        | nil => simp [hdrop] at hne
        | cons d ds =>
          rw [hdrop] at hc
          obtain rfl := Option.some.inj hc
          exact .inl ((List.dropWhile_sublist _).subset (hdrop ▸ List.mem_cons_self))
    rcases hmem with hmem | hdrop
    · have hpart := hall c hmem
      constructor <;> rintro rfl <;> exact absurd hpart (by decide)
    · rw [hdrop] at hc
      cases rest with
      | nil => cases hc
      | cons d ds =>
        have hd := hrest d rfl
        have halpha : d.isAlpha = false := by
          rw [← Bool.not_eq_true]
          intro halpha
          have hpart : isWordPart d = true := by simp [isWordPart, Char.isAlphanum, halpha]
          rw [hd.1] at hpart
          cases hpart
        rw [List.dropWhile_cons_of_neg (by simp [halpha])] at hc
        obtain rfl := Option.some.inj hc
        exact hd.2
  unfold quotedStart
  dsimp only
  have hdrop : (cs ++ rest).drop ((cs ++ rest).takeWhile Char.isAlpha).length =
      (cs ++ rest).dropWhile Char.isAlpha := by
    conv_lhs => arg 2; rw [← List.takeWhile_append_dropWhile (p := Char.isAlpha) (l := cs ++ rest)]
    rw [List.drop_left]
  rw [hdrop]
  cases hrest' : (cs ++ rest).dropWhile Char.isAlpha with
  | nil => rfl
  | cons c ds =>
    obtain ⟨hdouble, hsingle⟩ := hhead c (by rw [hrest']; rfl)
    simp [hdouble, hsingle]

/-! ### Where signs end -/

/-- A sign has one character unless a longer one begins here. -/
theorem signLength_eq_one {cs : List Char} (h : ∀ s ∈ triples ++ pairs, ¬ s.toList <+: cs) :
    signLength cs = 1 := by
  have hnot (n : Nat) (signs : List String) (hsub : signs ⊆ triples ++ pairs) :
      signs.contains (String.ofList (cs.take n)) = false := by
    rw [← Bool.not_eq_true, List.contains_iff_mem]
    intro hmem
    refine h _ (hsub hmem) ?_
    rw [String.toList_ofList]
    exact List.take_prefix n cs
  rw [signLength, if_neg (by rw [hnot 3 triples (List.subset_append_left _ _)]; decide),
    if_neg (by rw [hnot 2 pairs (List.subset_append_right _ _)]; decide)]

/-- Three points are one sign. -/
theorem signLength_points (cs : List Char) : signLength ('.' :: '.' :: '.' :: cs) = 3 := by
  have hpoints : triples.contains (String.ofList ['.', '.', '.']) = true := by decide
  exact if_pos hpoints

/-- No longer sign begins with one of these. -/
theorem signLength_bracket {c : Char} (hc : c ∈ [',', '[', ']']) (cs : List Char) :
    signLength (c :: cs) = 1 := by
  refine signLength_eq_one fun s hs hstart => ?_
  have hhead : ∀ s ∈ triples ++ pairs, (s.toList.any fun d => [',', '[', ']'].contains d) = false := by
    decide
  have hempty : ∀ s ∈ triples ++ pairs, s.toList ≠ [] := by decide
  obtain ⟨d, ds, hchars⟩ := List.exists_cons_of_ne_nil (hempty s hs)
  rw [hchars] at hstart
  obtain ⟨rfl, -⟩ := List.cons_prefix_cons.mp hstart
  have hany := List.any_eq_true.mpr ⟨d, List.mem_cons_self (l := ds), List.contains_iff_mem.mpr hc⟩
  rw [← hchars, hhead s hs] at hany
  cases hany

/-- No longer sign begins with a bar and a blank. -/
theorem signLength_bar (cs : List Char) : signLength ('|' :: ' ' :: cs) = 1 := by
  refine signLength_eq_one fun s hs hstart => ?_
  have htwo : ∀ s ∈ triples ++ pairs, ¬ s.toList.take 2 <+: ['|', ' '] := by
    decide
  exact htwo s hs (hstart.take 2)

/-- A point that no other point follows is a sign of its own. -/
theorem signLength_point {cs : List Char} (hcs : cs.head? ≠ some '.') : signLength ('.' :: cs) = 1 := by
  refine signLength_eq_one fun s hs hstart => ?_
  have hsecond : ∀ s ∈ triples ++ pairs, s.toList.head? = some '.' → s.toList[1]? = some '.' := by
    decide
  have hempty : ∀ s ∈ triples ++ pairs, s.toList ≠ [] := by decide
  obtain ⟨d, ds, hchars⟩ := List.exists_cons_of_ne_nil (hempty s hs)
  rw [hchars] at hstart
  obtain ⟨rfl, htail⟩ := List.cons_prefix_cons.mp hstart
  have hpoint := hsecond s hs (by rw [hchars]; rfl)
  rw [hchars] at hpoint
  obtain ⟨es, rfl⟩ := htail
  cases ds with
  | nil => cases hpoint
  | cons e ds => exact hcs hpoint

/-! ### Steps of the reader -/

namespace Reader

/-- The reader is on the last line, with these characters to read and so many brackets open. -/
structure Within (r : Reader) (rest : List Char) (d : Nat) : Prop where
  /-- The rest of the line. -/
  rest : r.rest = rest
  /-- There is no further line. -/
  later : r.later = []
  /-- The line is begun. -/
  begun : r.atLineStart = false
  /-- No token is due. -/
  noIndent : r.indentDue = false
  /-- No token is due. -/
  noDedent : r.dedentsDue = 0
  /-- Steps can be made. -/
  limit : 0 < r.limit
  /-- The number of open brackets. -/
  depth : r.brackets.length = d
  /-- They are the brackets of arguments. -/
  signs : ∀ b ∈ r.brackets, b.sign = '['

variable {r : Reader} {rest : List Char} {d : Nat}

/-- Reading characters. -/
theorem Within.advance {cs : List Char} (h : r.Within (cs ++ rest) d) :
    (r.advance cs.length).Within rest d :=
  { h with rest := by rw [Reader.advance, h.rest, List.drop_left] }

/-- There is no line to begin. -/
theorem Within.ready (h : r.Within rest d) (within : Bool) : r.ready within = r := by
  unfold Reader.ready
  rw [h.later]
  split
  · next heq => cases heq
  · rfl

/-- A step reads a lexeme. -/
theorem Within.step (h : r.Within rest d) : ∃ fuel, r.step = r.lexeme false (fuel + 1) := by
  refine ⟨r.limit - 1, ?_⟩
  rw [Nat.sub_add_cancel h.limit]
  simp only [Reader.step, h.begun, Bool.false_eq_true, if_false]
  show (if r.dedentsDue > 0 then _ else if r.indentDue = true then _ else r.lexeme false r.limit) = _
  rw [if_neg (by rw [h.noDedent]; decide), if_neg (by rw [h.noIndent]; decide)]

/-- What a step makes of a token. -/
def stepOf (result : Except Stop (Token × Reader)) : Except Stop Step :=
  result.map fun (t, r) => .token t r

/-- The characters that are no part of a token, or join lines. -/
def layoutChars : List Char := [' ', '\t', '\x0c', '#', '\n', '\\']

/-- What begins a word is none of them. -/
theorem not_mem_layoutChars {c : Char} (h : isWordStart c = true) : c ∉ layoutChars := by
  intro hc
  have hnone : layoutChars.any isWordStart = false := by decide
  rw [List.any_eq_true.mpr ⟨c, hc, h⟩] at hnone
  cases hnone

/-- A lexeme is a word or a sign, if it is neither a constant nor a number. -/
theorem lexeme_eq {k fuel : Nat} {c : Char} {cs : List Char}
    (h : r.Within (List.replicate k ' ' ++ c :: cs) d) (hc : c ∉ layoutChars)
    (hquoted : quotedStart (c :: cs) = none)
    (hnumber : isWordStart c = false →
      (c.isDigit || c == '.' && (cs.head?.map Char.isDigit).getD false) = false) :
    r.lexeme false (fuel + 1) =
      stepOf (if isWordStart c then (r.advance k).word else (r.advance k).sign c) := by
  simp only [layoutChars, List.mem_cons, List.not_mem_nil, or_false, not_or] at hc
  obtain ⟨hblank, htab, hfeed, hmark, hend, hslash⟩ := hc
  have hblanks : (List.replicate k ' ' ++ c :: cs).takeWhile
      (fun c => c == ' ' || c == '\t' || c == '\x0c') = List.replicate k ' ' := by
    rw [List.takeWhile_append_of_pos (by simp),
      List.takeWhile_cons_of_neg (by simp [hblank, htab, hfeed]), List.append_nil]
  have hrest : (r.advance k).rest = c :: cs := by
    have hadvanced := h.advance.rest
    rwa [List.length_replicate] at hadvanced
  unfold lexeme
  rw [h.ready false]
  simp only [h.rest, hblanks, List.length_replicate, hrest, List.cons.injEq, hmark, false_and, imp_false,
    not_false_eq_true, implies_true, hquoted]
  rw [if_neg (by simpa using hend)]
  cases hword : isWordStart c with
  | true => rfl
  | false =>
    rw [hnumber hword, if_neg (by decide), if_neg (by decide), if_neg (by simpa using hslash)]
    rfl

/-! ### Words and signs -/

/-- Reading blanks. -/
theorem Within.advance_blanks {k : Nat} (h : r.Within (List.replicate k ' ' ++ rest) d) :
    (r.advance k).Within rest d := by
  have hadvanced := h.advance
  rwa [List.length_replicate] at hadvanced

/-- A word is read. -/
theorem Within.word {w : String} (h : r.Within (w.toList ++ rest) d) (hw : Text.isIdentifier w = true)
    (hrest : Stops rest) :
    ∃ t after, r.word = .ok (t, after) ∧ t.Shows (.word w) ∧ after.Within rest d := by
  obtain ⟨c, cs, -, -, hall, hbreak⟩ := exists_of_isIdentifier hw
  have htaken : r.rest.takeWhile isWordPart = w.toList := by rw [h.rest, takeWhile_word hall hrest]
  have hword : r.word = .ok ((r.advance w.toList.length).token
      (if Text.isReservedWord w then .keyword else .name) w.toList r.line (some r.column),
      r.advance w.toList.length) := by
    simp only [Reader.word, htaken, hbreak, ite_self, String.ofList_toList]
    rfl
  exact ⟨_, _, hword, ⟨rfl, String.ofList_toList⟩, h.advance⟩

/-- The token of a sign. -/
def signToken (r after : Reader) (cs : List Char) : Token :=
  after.token .sign cs r.line (some r.column)

/-- Three points are read. -/
theorem Within.sign_points (h : r.Within (['.', '.', '.'] ++ rest) d) :
    ∃ t after, r.sign '.' = .ok (t, after) ∧ t.Shows .points ∧ after.Within rest d := by
  have hsign : r.sign '.' =
      .ok (signToken r (r.advance 3) ['.', '.', '.'], r.advance 3) := by
    have hlength : signLength (['.', '.', '.'] ++ rest) = 3 := signLength_points rest
    simp only [Reader.sign, h.rest, hlength]
    rfl
  exact ⟨_, _, hsign, ⟨rfl, rfl⟩, h.advance⟩

/-- A bracket is opened. -/
theorem Within.sign_opening (h : r.Within (['['] ++ rest) d) (hd : d < 200) :
    ∃ t after, r.sign '[' = .ok (t, after) ∧ t.Shows .opening ∧ after.Within rest (d + 1) := by
  let after : Reader := { r.advance 1 with brackets := ⟨'[', r.line, r.column⟩ :: r.brackets }
  have hsign : r.sign '[' = .ok (signToken r after ['['], after) := by
    have hlength : signLength (['['] ++ rest) = 1 := signLength_bracket (by decide) rest
    have hroom : ¬ r.brackets.length ≥ 200 := by
      rw [h.depth]
      omega
    simp only [Reader.sign, h.rest, hlength]
    rw [if_neg (by decide), if_pos (by decide), if_neg hroom]
    rfl
  have hadvance : (r.advance 1).Within rest d := h.advance
  refine ⟨_, _, hsign, ⟨rfl, rfl⟩, { hadvance with depth := ?_, signs := ?_ }⟩
  · rw [List.length_cons, h.depth]
  · intro b hb
    rcases List.mem_cons.mp hb with rfl | hb
    · rfl
    · exact h.signs b hb

/-- A bracket is closed. -/
theorem Within.sign_closing (h : r.Within ([']'] ++ rest) (d + 1)) :
    ∃ t after, r.sign ']' = .ok (t, after) ∧ t.Shows .closing ∧ after.Within rest d := by
  obtain ⟨b, outer, hbrackets⟩ := List.exists_cons_of_length_eq_add_one h.depth
  let after : Reader := { r.advance 1 with brackets := outer }
  have hb : b.sign = '[' := h.signs b (hbrackets ▸ List.mem_cons_self)
  have hsign : r.sign ']' = .ok (signToken r after [']'], after) := by
    have hlength : signLength ([']'] ++ rest) = 1 := signLength_bracket (by decide) rest
    have hopening : openingOf ']' = some '[' := by decide
    simp only [Reader.sign, h.rest, hlength, hopening, hbrackets]
    rw [if_neg (by decide), if_neg (by decide), if_pos (by rw [hb]; decide)]
    rfl
  have hadvance : (r.advance 1).Within rest (d + 1) := h.advance
  refine ⟨_, _, hsign, ⟨rfl, rfl⟩, { hadvance with depth := ?_, signs := ?_ }⟩
  · have hdepth := h.depth
    rw [hbrackets, List.length_cons] at hdepth
    exact Nat.succ.inj hdepth
  · exact fun c hc => h.signs c (hbrackets ▸ List.mem_cons_of_mem b hc)

/-- A sign of one character that is no bracket is read. -/
theorem Within.sign_plain {c : Char} (hc : c ∈ ['.', ',', '|']) (h : r.Within ([c] ++ rest) d)
    (hlength : signLength ([c] ++ rest) = 1) :
    ∃ t after, r.sign c = .ok (t, after) ∧ t.kind = .sign ∧ t.text = String.ofList [c] ∧
      after.Within rest d := by
  have hsign : r.sign c = .ok (signToken r (r.advance 1) [c], r.advance 1) := by
    have hplain : openingOf c = none ∧ Text.isPrintable c.toNat = true ∧
        (c == '(' || c == '[' || decide (c.toNat = 123)) = false := by
      simp only [List.mem_cons, List.not_mem_nil, or_false] at hc
      rcases hc with rfl | rfl | rfl <;> exact ⟨rfl, rfl, rfl⟩
    obtain ⟨hopening, hprintable, hbracket⟩ := hplain
    simp only [Reader.sign, h.rest, hlength, hopening, hprintable]
    rw [if_neg (by decide)]
    rw [if_neg (by simpa using hbracket)]
    rfl
  exact ⟨_, _, hsign, rfl, rfl, h.advance⟩

/-! ### One lexeme -/

/-- The characters that signs begin with. -/
def signChars : List Char := ['.', ',', '|', '[', ']']

/-- A step that reads a word. -/
theorem Within.step_word {k : Nat} {w : String} (h : r.Within (List.replicate k ' ' ++ (w.toList ++ rest)) d)
    (hw : Text.isIdentifier w = true) (hrest : Stops rest) : r.step = stepOf (r.advance k).word := by
  obtain ⟨fuel, hstep⟩ := h.step
  obtain ⟨c, cs, hchars, hstart, hall, -⟩ := exists_of_isIdentifier hw
  have hquoted := quotedStart_word hall hrest
  rw [hchars] at h hquoted
  rw [hstep, lexeme_eq h (not_mem_layoutChars hstart) hquoted (by rw [hstart]; nofun), if_pos hstart]

/-- A step that reads a sign. -/
theorem Within.step_sign {k : Nat} {c : Char} {cs : List Char}
    (h : r.Within (List.replicate k ' ' ++ c :: cs) d) (hc : c ∈ signChars)
    (hpoint : c = '.' → ∀ e ∈ cs.head?, e.isDigit = false) : r.step = stepOf ((r.advance k).sign c) := by
  obtain ⟨fuel, hstep⟩ := h.step
  obtain ⟨hlayout, hstart, hdigit, halpha, hquote⟩ : c ∉ layoutChars ∧ isWordStart c = false ∧
      c.isDigit = false ∧ c.isAlpha = false ∧ (c == '"' || c == '\'') = false := by
    simp only [signChars, List.mem_cons, List.not_mem_nil, or_false] at hc
    rcases hc with rfl | rfl | rfl | rfl | rfl <;> decide
  have hquoted : quotedStart (c :: cs) = none := by
    have hletters : (c :: cs).takeWhile Char.isAlpha = [] :=
      List.takeWhile_cons_of_neg (by simp [halpha])
    simp [quotedStart, hletters, hquote]
  have hnumber : (c.isDigit || c == '.' && (cs.head?.map Char.isDigit).getD false) = false := by
    rw [hdigit, Bool.false_or, Bool.and_eq_false_iff]
    by_cases hdot : c = '.'
    · right
      cases cs with
      | nil => rfl
      | cons e es => exact hpoint hdot e rfl
    · exact .inl (beq_eq_false_iff_ne.mpr hdot)
  rw [hstep, lexeme_eq h hlayout hquoted fun _ => hnumber, hstart, if_neg (by decide)]

/-- **A step reads a lexeme** with the blanks before it; blanks behind it may be left. -/
theorem Within.exists_step {k e : Nat} {l : Lexeme} {ls : List Lexeme}
    (h : r.Within (List.replicate k ' ' ++ charsOf (l :: ls)) d)
    (hchain : List.IsChain (fun a b => a.mayPrecede b = true) (l :: ls))
    (hwords : ∀ w, Lexeme.word w ∈ l :: ls → Text.isIdentifier w = true) (hdepth : l.depth d = some e) :
    ∃ t after j, r.step = .ok (.token t after) ∧ t.Shows l ∧
      after.Within (List.replicate j ' ' ++ charsOf ls) e := by
  have hread {result : Except Stop (Token × Reader)} (hstep : r.step = stepOf result) {j : Nat}
      (hresult : ∃ t after, result = .ok (t, after) ∧ t.Shows l ∧
        after.Within (List.replicate j ' ' ++ charsOf ls) e) :
      ∃ t after j, r.step = .ok (.token t after) ∧ t.Shows l ∧
        after.Within (List.replicate j ' ' ++ charsOf ls) e := by
    obtain ⟨t, after, rfl, hshows, hwithin⟩ := hresult
    exact ⟨t, after, j, hstep, hshows, hwithin⟩
  have hplain {c : Char} {cs : List Char} {j : Nat} (hc : c ∈ ['.', ',', '|']) (hl : l.kind = .sign)
      (htext : l.text = String.ofList [c]) (hde : d = e)
      (hwithin : r.Within (List.replicate j ' ' ++ c :: cs) d) (hlength : signLength (c :: cs) = 1) :
      ∃ t after, (r.advance j).sign c = .ok (t, after) ∧ t.Shows l ∧ after.Within cs e := by
    obtain ⟨t, after, hsign, hkind, hshown, hafter⟩ := hwithin.advance_blanks.sign_plain hc hlength
    exact ⟨t, after, hsign, ⟨hkind.trans hl.symm, hshown.trans htext.symm⟩, hde ▸ hafter⟩
  cases l with
  | word w =>
    obtain rfl := Option.some.inj hdepth
    have hw := hwords w List.mem_cons_self
    have hstops := stops_charsOf hchain
    exact hread (h.step_word hw hstops) (j := 0) (h.advance_blanks.word hw hstops)
  | points =>
    obtain rfl := Option.some.inj hdepth
    have hwithin : r.Within (List.replicate k ' ' ++ '.' :: '.' :: '.' :: charsOf ls) d := h
    refine hread (hwithin.step_sign (by decide) fun _ c hc => ?_) (j := 0)
      hwithin.advance_blanks.sign_points
    obtain rfl := Option.some.inj hc
    decide
  | opening =>
    have hwithin : r.Within (List.replicate k ' ' ++ '[' :: charsOf ls) d := h
    rw [Lexeme.depth] at hdepth
    split at hdepth
    · next hlt =>
      obtain rfl := Option.some.inj hdepth
      exact hread (hwithin.step_sign (by decide) nofun) (j := 0) (hwithin.advance_blanks.sign_opening hlt)
    · cases hdepth
  | closing =>
    cases d with
    | zero => cases hdepth
    | succ d =>
      obtain rfl := Option.some.inj hdepth
      have hwithin : r.Within (List.replicate k ' ' ++ ']' :: charsOf ls) (d + 1) := h
      exact hread (hwithin.step_sign (by decide) nofun) (j := 0) hwithin.advance_blanks.sign_closing
  | comma =>
    have hwithin : r.Within (List.replicate k ' ' ++ ',' :: ' ' :: charsOf ls) d := h
    exact hread (hwithin.step_sign (by decide) nofun) (j := 1)
      (hplain (by decide) rfl rfl (Option.some.inj hdepth) hwithin (signLength_bracket (by decide) _))
  | bar =>
    have hwithin : r.Within (List.replicate (k + 1) ' ' ++ '|' :: ' ' :: charsOf ls) d := by
      rw [List.replicate_succ', List.append_assoc]
      exact h
    exact hread (hwithin.step_sign (by decide) nofun) (j := 1)
      (hplain (by decide) rfl rfl (Option.some.inj hdepth) hwithin (signLength_bar _))
  | point =>
    have hwithin : r.Within (List.replicate k ' ' ++ '.' :: charsOf ls) d := h
    have hstart (c : Char) (hc : c ∈ (charsOf ls).head?) : isWordStart c = true :=
      isWordStart_of_point hchain (fun w hw => hwords w (List.mem_cons_of_mem _ hw)) hc
    have hlength : signLength ('.' :: charsOf ls) = 1 :=
      signLength_point fun hpoint => absurd (hstart '.' hpoint) (by decide)
    exact hread (hwithin.step_sign (by decide) fun _ c hc => isDigit_of_isWordStart (hstart c hc)) (j := 0)
      (hplain (by decide) rfl rfl (Option.some.inj hdepth) hwithin hlength)

/-! ### All lexemes -/

/-- The tokens are those of the lexemes, and the one at the end of the text. -/
def ShowsAll (tokens : List Token) (ls : List Lexeme) : Prop :=
  ∃ shown last, tokens = shown ++ [last] ∧ List.Forall₂ Token.Shows shown ls ∧ last.kind = .finish

/-- The text ends. -/
theorem Within.step_finish {k : Nat} (h : r.Within (List.replicate k ' ') 0) :
    ∃ t after, r.step = .ok (.token t after) ∧ t.kind = .finish := by
  obtain ⟨fuel, hstep⟩ := h.step
  have hblanks : (List.replicate k ' ').takeWhile (fun c => c == ' ' || c == '\t' || c == '\x0c') =
      List.replicate k ' ' := List.takeWhile_eq_self_iff.mpr (by simp)
  have hrest : (r.advance k).rest = [] := by
    rw [Reader.advance, h.rest, List.drop_replicate, Nat.sub_self]
    rfl
  have hbrackets : (r.advance k).brackets.isEmpty = true :=
    List.isEmpty_iff_length_eq_zero.mpr h.depth
  refine ⟨(r.advance k).token .finish [] (r.advance k).line none, r.advance k, ?_, rfl⟩
  rw [hstep]
  unfold lexeme
  rw [h.ready false]
  simp only [h.rest, hblanks, List.length_replicate, hrest, hbrackets]
  rfl

/-- **All lexemes are read.** -/
theorem Within.tokens_eq {k fuel : Nat} {ls : List Lexeme} (read : Array Token)
    (h : r.Within (List.replicate k ' ' ++ charsOf ls) d)
    (hchain : List.IsChain (fun a b => a.mayPrecede b = true) ls)
    (hwords : ∀ w, Lexeme.word w ∈ ls → Text.isIdentifier w = true) (hdepth : depthAfter d ls = some 0)
    (hfuel : ls.length < fuel) :
    ∃ tokens, r.tokens read fuel = ⟨read ++ tokens.toArray, none⟩ ∧ ShowsAll tokens ls := by
  induction ls generalizing r k d fuel read with
  | nil =>
    obtain ⟨fuel, rfl⟩ := Nat.exists_eq_add_one_of_ne_zero (Nat.ne_of_gt hfuel)
    obtain rfl := Option.some.inj hdepth
    rw [charsOf_nil, List.append_nil] at h
    obtain ⟨t, after, hstep, hkind⟩ := h.step_finish
    refine ⟨[t], ?_, [], t, rfl, .nil, hkind⟩
    simp [tokens, hstep, hkind]
  | cons l ls ih =>
    obtain ⟨fuel, rfl⟩ := Nat.exists_eq_add_one_of_ne_zero (Nat.ne_zero_of_lt hfuel)
    obtain ⟨e, hl, hls⟩ := Option.bind_eq_some_iff.mp hdepth
    obtain ⟨t, after, j, hstep, hshows, hwithin⟩ := h.exists_step hchain hwords hl
    obtain ⟨tokens, htokens, shown, last, rfl, hshown, hlast⟩ := ih (read.push t) hwithin
      hchain.of_cons (fun w hw => hwords w (List.mem_cons_of_mem l hw)) hls (Nat.lt_of_succ_lt_succ hfuel)
    have hkind : t.kind ≠ .finish := by
      rw [hshows.1]
      cases l with
      | word w => rw [Lexeme.kind]; split <;> decide
      | _ => decide
    refine ⟨t :: (shown ++ [last]), ?_, t :: shown, last, rfl, .cons hshows hshown, hlast⟩
    simp only [Reader.tokens, hstep, if_neg hkind, htokens]
    simp

/-! ### The text -/

/-- In front of a lexeme there is no indentation to measure. -/
theorem measure_eq {r : Reader} {c : Char} {cs : List Char} (hrest : r.rest = c :: cs)
    (hc : c ∉ layoutChars) (i : Indentation) (fuel : Nat) : r.measure i fuel = .ok (r, i) := by
  simp only [layoutChars, List.mem_cons, List.not_mem_nil, or_false, not_or] at hc
  obtain ⟨hblank, htab, hfeed, -, -, hslash⟩ := hc
  cases fuel with
  | zero => rfl
  | succ fuel =>
    unfold measure
    rw [hrest]
    split
    · next heq => exact absurd (List.cons.inj heq).1 hblank
    · next heq => exact absurd (List.cons.inj heq).1 htab
    · next heq => exact absurd (List.cons.inj heq).1 hfeed
    · next heq => exact absurd (List.cons.inj heq).1 hslash
    · rfl

/-- The only line of a text begins, if it does so with a lexeme. -/
theorem step_start {c : Char} (cs : List Char) (hc : c ∉ layoutChars) :
    ∃ r : Reader, r.Within (c :: cs) 0 ∧ (Reader.start (.ofText [c :: cs] none)).step = r.step := by
  let first : Reader := (Reader.start (.ofText [c :: cs] none)).ready false
  let r : Reader := { first with atLineStart := false }
  have hbegin : (Reader.start (.ofText [c :: cs] none)).beginLine = .ok (r, false) := by
    have hmeasure := measure_eq (r := first) rfl hc ⟨0, 0, 0⟩ first.limit
    simp only [layoutChars, List.mem_cons, List.not_mem_nil, or_false, not_or] at hc
    obtain ⟨-, -, -, hmark, hend, -⟩ := hc
    unfold beginLine
    show Except.bind (first.measure ⟨0, 0, 0⟩ first.limit) _ = _
    rw [hmeasure]
    have hline (blank : Bool) (hblank : blank = false) :
        (if blank || !r.brackets.isEmpty then .ok (r, blank)
          else Except.bind (r.indentTo 0 0) fun r => .ok (r, blank) : Except Stop (Reader × Bool)) =
          .ok (r, false) := by
      rw [hblank]
      rfl
    refine hline _ ?_
    split
    · next heq => exact absurd (List.cons.inj heq).1 hmark
    · next heq => exact absurd (List.cons.inj heq).1 hend
    · rfl
  refine ⟨r, ⟨rfl, rfl, rfl, rfl, rfl, Nat.succ_pos _, rfl, nofun⟩, ?_⟩
  unfold Reader.step
  rw [hbegin]
  rfl

end Reader

/-- What a text of lexemes can begin with. -/
def Lexeme.begins : Lexeme → Bool
  | word _ | points | opening => true
  | _ => false

/-- The first character of such a text. -/
theorem exists_charsOf_of_begins {l : Lexeme} {ls : List Lexeme} (h : l.begins = true)
    (hwords : ∀ w, Lexeme.word w ∈ l :: ls → Text.isIdentifier w = true) :
    ∃ c cs, charsOf (l :: ls) = c :: cs ∧ c ∉ layoutChars := by
  cases l with
  | word w =>
    obtain ⟨c, cs, hchars, hstart, -⟩ := exists_of_isIdentifier (hwords w List.mem_cons_self)
    exact ⟨c, cs ++ charsOf ls, congrArg (· ++ charsOf ls) hchars, not_mem_layoutChars hstart⟩
  | points => exact ⟨'.', _, rfl, by decide⟩
  | opening => exact ⟨'[', _, rfl, by decide⟩
  | _ => cases h

/-- Every lexeme has a character. -/
theorem length_le_charsOf {ls : List Lexeme}
    (hwords : ∀ w, Lexeme.word w ∈ ls → Text.isIdentifier w = true) : ls.length ≤ (charsOf ls).length := by
  induction ls with
  | nil => exact Nat.le_refl 0
  | cons l ls ih =>
    have hrest := ih fun w hw => hwords w (List.mem_cons_of_mem l hw)
    have hone : 1 ≤ l.written.length := by
      cases l with
      | word w =>
        obtain ⟨c, cs, hchars, -⟩ := exists_of_isIdentifier (hwords w List.mem_cons_self)
        show 1 ≤ w.toList.length
        rw [hchars]
        exact Nat.succ_pos _
      | _ => decide
    rw [charsOf_cons, List.length_append, List.length_cons]
    omega

/-- **A text of lexemes is read as these lexemes.** -/
theorem scan_charsOf {l : Lexeme} {ls : List Lexeme} (hbegins : l.begins = true)
    (hchain : List.IsChain (fun a b => a.mayPrecede b = true) (l :: ls))
    (hwords : ∀ w, Lexeme.word w ∈ l :: ls → Text.isIdentifier w = true)
    (hdepth : depthAfter 0 (l :: ls) = some 0) :
    ∃ tokens, Scan.ofSource (.ofText [charsOf (l :: ls)] none) = ⟨tokens.toArray, none⟩ ∧
      ShowsAll tokens (l :: ls) := by
  obtain ⟨c, cs, hchars, hc⟩ := exists_charsOf_of_begins hbegins hwords
  obtain ⟨r, hwithin, hstep⟩ := step_start cs hc
  rw [← hchars] at hwithin hstep
  have hlimit : (l :: ls).length ≤ (Reader.start (.ofText [charsOf (l :: ls)] none)).limit := by
    have hlength := length_le_charsOf hwords
    simp only [Reader.start, SourceText.ofText, List.foldl_toArray', List.foldl_cons, List.foldl_nil]
    omega
  have hfuel : (l :: ls).length < 2 * (Reader.start (.ofText [charsOf (l :: ls)] none)).limit + 2 := by
    omega
  obtain ⟨tokens, htokens, hshows⟩ := Within.tokens_eq (k := 0) #[] hwithin hchain hwords hdepth hfuel
  refine ⟨tokens, ?_, hshows⟩
  rw [Array.empty_append] at htokens
  rw [Scan.ofSource, ← htokens]
  simp only [Reader.tokens, hstep]

/-! ### One line -/

/-- Lexemes are written with characters of words, with blanks and with signs. -/
theorem mem_charsOf {ls : List Lexeme} {c : Char}
    (hwords : ∀ w, Lexeme.word w ∈ ls → Text.isIdentifier w = true) (hc : c ∈ charsOf ls) :
    isWordPart c = true ∨ c ∈ ' ' :: signChars := by
  obtain ⟨l, hl, hc⟩ := List.mem_flatMap.mp hc
  cases l with
  | word w =>
    obtain ⟨-, -, -, -, hall, -⟩ := exists_of_isIdentifier (hwords w hl)
    exact .inl (hall c hc)
  | _ => exact .inr (List.contains_iff_mem.mp (List.all_eq_true.mp (by decide) c hc))

/-- A text without line ends is one line. -/
theorem splitLines_eq_singleton {cs : List Char} (hne : cs ≠ []) (hend : '\n' ∉ cs) :
    splitLines cs = [cs] := by
  have hfold (cs : List Char) (hend : '\n' ∉ cs) (lines : List (List Char)) (current : List Char) :
      cs.foldl (fun (s : List (List Char) × List Char) c =>
        if c == '\n' then ((c :: s.2).reverse :: s.1, []) else (s.1, c :: s.2)) (lines, current) =
      (lines, cs.reverse ++ current) := by
    induction cs generalizing current with
    | nil => rfl
    | cons c cs ih =>
      have hc : (c == '\n') = false := beq_eq_false_iff_ne.mpr fun heq => hend (heq ▸ List.mem_cons_self)
      rw [List.foldl_cons, hc, if_neg (by decide), ih fun h => hend (List.mem_cons_of_mem c h)]
      simp
  have hreverse : cs.reverse.isEmpty = false := by simpa using hne
  show (if (cs.foldl _ ([], [])).2.isEmpty then (cs.foldl _ ([], [])).1
    else (cs.foldl _ ([], [])).2.reverse :: (cs.foldl _ ([], [])).1).reverse = [cs]
  rw [hfold cs hend [] []]
  simp [hne]

/-- A text of lexemes is one line, and holds no character of code zero. -/
theorem readWith_textOf {α : Type} (whole : Grammar.Rules → Grammar.Parser α) {ls : List Lexeme}
    (hne : charsOf ls ≠ []) (hwords : ∀ w, Lexeme.word w ∈ ls → Text.isIdentifier w = true) :
    readWith whole (unifyLineEnds (textOf ls).toList) none =
      (Grammar.readText whole (readField ((charsOf ls).length + 1)) (.ofText [charsOf ls] none)).mapError
        .fault := by
  have hplain {c : Char} (hc : isWordPart c = false ∧ c ∉ ' ' :: signChars) : c ∉ charsOf ls := by
    intro hmem
    rcases mem_charsOf hwords hmem with hpart | hsign
    · rw [hc.1] at hpart
      cases hpart
    · exact hc.2 hsign
  have hzero : (charsOf ls).any (· == '\x00') = false := by
    rw [List.any_eq_false]
    rintro c hc heq
    obtain rfl := eq_of_beq heq
    exact hplain (by decide) hc
  rw [textOf, String.toList_ofList, unifyLineEnds_of_not_mem (hplain (by decide)), readWith, hzero,
    splitLines_eq_singleton hne (hplain (by decide))]
  rfl

end FluentBuilder.Syntax
