import FluentBuilder.Text.Utf8
import Mathlib.Tactic.Common

/-!
# Bytes that are written are read back

A text that is written as UTF-8 is read back as it was (`decode_encode`). Its bytes are those of its
characters, one after the other, and each character is read by one step that takes as many bytes as it
was written with (`step_encodeChar`). What follows behind them does not matter to the step.
-/

namespace FluentBuilder.Utf8

/-! ### Single steps -/

section steps

variable {b b₂ b₃ b₄ : UInt8} {i j k l : Nat}

/-- The value of a byte that is made of a small number. -/
theorem toNat_toUInt8 {n : Nat} (h : n < 256) : n.toUInt8.toNat = n := by
  rw [Nat.toUInt8, UInt8.toNat_ofNat', Nat.mod_eq_of_lt h]

/-- A byte of six bits behind its mark continues a character. -/
theorem isContinuation_of_toNat (hb : b.toNat = 0x80 + k) (hk : k < 64) : isContinuation b = true := by
  simp only [isContinuation, Bool.and_eq_true, decide_eq_true_eq, UInt8.le_iff_toNat_le, hb,
    UInt8.reduceToNat]
  omega

/-- The six bits are read. -/
theorem payload_of_toNat (hb : b.toNat = 0x80 + k) (hk : k < 64) : payload b = k := by
  rw [payload, hb]
  omega

/-- A byte below the marks is a character. -/
theorem step_one (hb : b.toNat = i) (hi : i < 0x80) (rest : List UInt8) :
    step b rest = .ok (Char.ofNat i, 1) := by
  have h₁ : b < 0x80 := by simp only [UInt8.lt_iff_toNat_lt, hb, UInt8.reduceToNat]; exact hi
  simp only [step, if_pos h₁, hb]

/-- Two bytes are a character. -/
theorem step_two (hb : b.toNat = 0xC0 + i) (hi : 2 ≤ i ∧ i < 32) (hb₂ : b₂.toNat = 0x80 + j)
    (hj : j < 64) (rest : List UInt8) :
    step b (b₂ :: rest) = .ok (Char.ofNat (i * 64 + j), 2) := by
  have h₁ : ¬ b < 0x80 := by simp only [UInt8.lt_iff_toNat_lt, hb, UInt8.reduceToNat]; omega
  have h₂ : ¬ b < 0xC2 := by simp only [UInt8.lt_iff_toNat_lt, hb, UInt8.reduceToNat]; omega
  have h₃ : b < 0xE0 := by simp only [UInt8.lt_iff_toNat_lt, hb, UInt8.reduceToNat]; omega
  simp only [step, if_neg h₁, if_neg h₂, if_pos h₃, isContinuation_of_toNat hb₂ hj, if_true,
    payload_of_toNat hb₂ hj, hb, Nat.add_sub_cancel_left]

/-- Three bytes are a character, unless fewer would do or it is a surrogate. -/
theorem step_three (hb : b.toNat = 0xE0 + i) (hi : i < 16) (hb₂ : b₂.toNat = 0x80 + j) (hj : j < 64)
    (hb₃ : b₃.toNat = 0x80 + k) (hk : k < 64) (hlow : i = 0 → 0x20 ≤ j) (hhigh : i = 13 → j < 0x20)
    (rest : List UInt8) :
    step b (b₂ :: b₃ :: rest) = .ok (Char.ofNat ((i * 64 + j) * 64 + k), 3) := by
  have h₁ : ¬ b < 0x80 := by simp only [UInt8.lt_iff_toNat_lt, hb, UInt8.reduceToNat]; omega
  have h₂ : ¬ b < 0xC2 := by simp only [UInt8.lt_iff_toNat_lt, hb, UInt8.reduceToNat]; omega
  have h₃ : ¬ b < 0xE0 := by simp only [UInt8.lt_iff_toNat_lt, hb, UInt8.reduceToNat]; omega
  have h₄ : b < 0xF0 := by simp only [UInt8.lt_iff_toNat_lt, hb, UInt8.reduceToNat]; omega
  have hsound : (!isContinuation b₂ || (b == 0xE0 && decide (b₂ < 0xA0)) ||
      (b == 0xED && decide (b₂ ≥ 0xA0))) = false := by
    simp only [isContinuation_of_toNat hb₂ hj, Bool.not_true, Bool.false_or, Bool.or_eq_false_iff,
      Bool.and_eq_false_imp, beq_iff_eq, decide_eq_false_iff_not, UInt8.lt_iff_toNat_lt, ge_iff_le,
      UInt8.le_iff_toNat_le, ← UInt8.toNat_inj, hb, hb₂, UInt8.reduceToNat]
    omega
  simp only [step, if_neg h₁, if_neg h₂, if_neg h₃, if_pos h₄, hsound, Bool.false_eq_true, if_false,
    isContinuation_of_toNat hb₃ hk, if_true, payload_of_toNat hb₂ hj, payload_of_toNat hb₃ hk, hb,
    Nat.add_sub_cancel_left]

/-- Four bytes are a character, unless fewer would do or there is no such code point. -/
theorem step_four (hb : b.toNat = 0xF0 + i) (hi : i < 5) (hb₂ : b₂.toNat = 0x80 + j) (hj : j < 64)
    (hb₃ : b₃.toNat = 0x80 + k) (hk : k < 64) (hb₄ : b₄.toNat = 0x80 + l) (hl : l < 64)
    (hlow : i = 0 → 0x10 ≤ j) (hhigh : i = 4 → j < 0x10) (rest : List UInt8) :
    step b (b₂ :: b₃ :: b₄ :: rest) = .ok (Char.ofNat (((i * 64 + j) * 64 + k) * 64 + l), 4) := by
  have h₁ : ¬ b < 0x80 := by simp only [UInt8.lt_iff_toNat_lt, hb, UInt8.reduceToNat]; omega
  have h₂ : ¬ b < 0xC2 := by simp only [UInt8.lt_iff_toNat_lt, hb, UInt8.reduceToNat]; omega
  have h₃ : ¬ b < 0xE0 := by simp only [UInt8.lt_iff_toNat_lt, hb, UInt8.reduceToNat]; omega
  have h₄ : ¬ b < 0xF0 := by simp only [UInt8.lt_iff_toNat_lt, hb, UInt8.reduceToNat]; omega
  have h₅ : b < 0xF5 := by simp only [UInt8.lt_iff_toNat_lt, hb, UInt8.reduceToNat]; omega
  have hsound : (!isContinuation b₂ || (b == 0xF0 && decide (b₂ < 0x90)) ||
      (b == 0xF4 && decide (b₂ ≥ 0x90))) = false := by
    simp only [isContinuation_of_toNat hb₂ hj, Bool.not_true, Bool.false_or, Bool.or_eq_false_iff,
      Bool.and_eq_false_imp, beq_iff_eq, decide_eq_false_iff_not, UInt8.lt_iff_toNat_lt, ge_iff_le,
      UInt8.le_iff_toNat_le, ← UInt8.toNat_inj, hb, hb₂, UInt8.reduceToNat]
    omega
  simp only [step, if_neg h₁, if_neg h₂, if_neg h₃, if_neg h₄, if_pos h₅, hsound, Bool.false_eq_true,
    if_false, isContinuation_of_toNat hb₃ hk, Bool.not_true, isContinuation_of_toNat hb₄ hl, if_true,
    payload_of_toNat hb₂ hj, payload_of_toNat hb₃ hk, payload_of_toNat hb₄ hl, hb,
    Nat.add_sub_cancel_left]

end steps

/-! ### Characters -/

/-- **The bytes of a character are read back** as that character, all of them and no more. -/
theorem step_encodeChar (c : Char) (rest : List UInt8) :
    ∃ b further, encodeChar c = b :: further ∧
      step b (further ++ rest) = .ok (c, further.length + 1) := by
  -- The code point is no surrogate.
  have hvalid : c.toNat < 0xD800 ∨ 0xDFFF < c.toNat ∧ c.toNat < 0x110000 := c.valid
  have hc : Char.ofNat c.toNat = c := Char.ofNat_toNat c
  simp only [encodeChar]
  generalize c.toNat = n at hvalid hc
  split
  · next h =>
    refine ⟨_, _, rfl, ?_⟩
    rw [step_one (toNat_toUInt8 (by omega)) h, hc]
    rfl
  split
  · next h =>
    refine ⟨_, _, rfl, ?_⟩
    have hstep := step_two (toNat_toUInt8 (n := 0xC0 + n / 64) (by omega)) (by omega)
      (toNat_toUInt8 (n := 0x80 + n % 64) (by omega)) (by omega) rest
    have hn : n / 64 * 64 + n % 64 = n := by omega
    rw [hn, hc] at hstep
    exact hstep
  split
  · next h =>
    refine ⟨_, _, rfl, ?_⟩
    have hstep := step_three (toNat_toUInt8 (n := 0xE0 + n / 4096) (by omega)) (by omega)
      (toNat_toUInt8 (n := 0x80 + n / 64 % 64) (by omega)) (by omega)
      (toNat_toUInt8 (n := 0x80 + n % 64) (by omega)) (by omega) (by omega) (by omega) rest
    have hn : (n / 4096 * 64 + n / 64 % 64) * 64 + n % 64 = n := by omega
    rw [hn, hc] at hstep
    exact hstep
  · refine ⟨_, _, rfl, ?_⟩
    have hstep := step_four (toNat_toUInt8 (n := 0xF0 + n / 262144) (by omega)) (by omega)
      (toNat_toUInt8 (n := 0x80 + n / 4096 % 64) (by omega)) (by omega)
      (toNat_toUInt8 (n := 0x80 + n / 64 % 64) (by omega)) (by omega)
      (toNat_toUInt8 (n := 0x80 + n % 64) (by omega)) (by omega) (by omega) (by omega) rest
    have hn : ((n / 262144 * 64 + n / 4096 % 64) * 64 + n / 64 % 64) * 64 + n % 64 = n := by omega
    rw [hn, hc] at hstep
    exact hstep

/-- Bytes of the character that was read last are passed over. -/
theorem decodeFrom_skip (position : Nat) (read : List Char) (skipped rest : List UInt8) :
    decodeFrom position skipped.length read (skipped ++ rest) =
      decodeFrom (position + skipped.length) 0 read rest := by
  induction skipped generalizing position with
  | nil => rfl
  | cons b skipped ih =>
    rw [List.cons_append, List.length_cons, decodeFrom, ih]
    congr 1
    omega

/-- A character is read before all that follows. -/
theorem decodeFrom_encodeChar (position : Nat) (read : List Char) (c : Char) (rest : List UInt8) :
    ∃ position', decodeFrom position 0 read (encodeChar c ++ rest) =
      decodeFrom position' 0 (c :: read) rest := by
  obtain ⟨b, further, hencode, hstep⟩ := step_encodeChar c rest
  refine ⟨position + 1 + further.length, ?_⟩
  rw [hencode, List.cons_append, decodeFrom, hstep]
  exact decodeFrom_skip _ _ further rest

/-- **A text is read back from its bytes.** -/
theorem decode_encode (text : String) : decode (encode text) = .ok text := by
  have hfrom : ∀ (cs read : List Char) (position : Nat),
      decodeFrom position 0 read (cs.flatMap encodeChar) = .ok (read.reverse ++ cs) := by
    intro cs
    induction cs with
    | nil => intro read position; rw [List.flatMap_nil, decodeFrom, List.append_nil]
    | cons c cs ih =>
      intro read position
      obtain ⟨position', hchar⟩ := decodeFrom_encodeChar position read c (cs.flatMap encodeChar)
      rw [List.flatMap_cons, hchar, ih, List.reverse_cons, List.append_assoc, List.singleton_append]
  rw [decode, encode, hfrom, List.reverse_nil, List.nil_append, Except.map, String.ofList_toList]

end FluentBuilder.Utf8
