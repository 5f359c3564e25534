import FluentBuilder.Text.CodePoints
import FluentBuilder.Text.Quoted
import Mathlib.Tactic.Common

/-!
# Code points of texts

No character of a text is a surrogate (`isSurrogate_toNat`). So the code points of a text are turned into
the same text again, by `toText` and by `toTextMarking`.

Code points are written as a quoted text. A plain character at their end is the last one before the closing
quote (`Quoted.exists_toList_text`), so that those which end in different ones are quoted differently.
-/

namespace FluentBuilder.CodePoints

/-- No character is a surrogate. -/
theorem isSurrogate_toNat (c : Char) : isSurrogate c.toNat = false := by
  have hvalid : c.toNat < 0xD800 ∨ 0xDFFF < c.toNat ∧ c.toNat < 0x110000 := c.valid
  rw [isSurrogate, Bool.and_eq_false_iff, decide_eq_false_iff_not, decide_eq_false_iff_not]
  omega

/-- A text is made again of its code points. -/
theorem toText_ofText (text : String) : toText (ofText text) = .ok text := by
  have hnone : (ofText text).findIdx? isSurrogate = none := by
    rw [List.findIdx?_eq_none_iff]
    intro code hcode
    obtain ⟨c, -, rfl⟩ := List.mem_map.mp hcode
    exact isSurrogate_toNat c
  rw [toText, hnone, ofText, List.map_map]
  simp [Function.comp_def]

/-- Texts are told apart by their code points. -/
theorem ofText_inj {text text' : String} : ofText text = ofText text' ↔ text = text' := by
  refine ⟨fun h => ?_, fun h => h ▸ rfl⟩
  have hmade := congrArg toText h
  rw [toText_ofText, toText_ofText] at hmade
  exact Except.ok.inj hmade

/-- Nothing is marked in a text. -/
theorem toTextMarking_ofText (text : String) : (ofText text).toTextMarking = text := by
  rw [toTextMarking, ofText, List.map_map]
  simp [Function.comp_def, isSurrogate_toNat]

end FluentBuilder.CodePoints

namespace FluentBuilder.Quoted

/-- The quote is one of two characters. -/
theorem quoteFor_eq (cs : CodePoints) : quoteFor cs = '\'' ∨ quoteFor cs = '"' := by
  rw [quoteFor]
  split
  · exact .inr rfl
  · exact .inl rfl

/-- A character that is written as itself, whatever the quote is. -/
structure IsPlain (c : Char) : Prop where
  /-- It is no quote. -/
  ne_quote : c ≠ '\'' ∧ c ≠ '"'
  /-- It begins no escape. -/
  ne_backslash : c ≠ '\\'
  /-- It can be printed. -/
  printable : Text.isPrintable c.toNat = true

/-- So it is. -/
theorem IsPlain.textItem_eq {c quote : Char} (h : IsPlain c) (hquote : quote = '\'' ∨ quote = '"') :
    textItem quote c.toNat = [c] := by
  have hvalue : ∀ other : Char, c ≠ other → c.toNat ≠ other.toNat := fun other hne heq =>
    hne (Char.toNat_inj.mp heq)
  have hne : c.toNat ≠ quote.toNat := by
    rcases hquote with rfl | rfl
    · exact hvalue _ h.ne_quote.1
    · exact hvalue _ h.ne_quote.2
  have hbackslash : c.toNat ≠ 92 := hvalue '\\' h.ne_backslash
  rw [textItem, if_neg hne, if_neg (by simp [hbackslash, h.printable]), Char.ofNat_toNat]

/-- A plain character at the end of a text is written before the quote. -/
theorem exists_toList_text (front : CodePoints) {c : Char} (h : IsPlain c) :
    ∃ before quote, (text (front ++ [c.toNat])).toList = before ++ [c, quote] := by
  generalize hcs : front ++ [c.toNat] = cs
  have hbody : textBody (quoteFor cs) cs = textBody (quoteFor cs) front ++ [c] := by
    rw [← hcs, textBody, List.flatMap_append, List.flatMap_singleton, h.textItem_eq (quoteFor_eq _), ← textBody]
  refine ⟨quoteFor cs :: textBody (quoteFor cs) front, quoteFor cs, ?_⟩
  rw [text, hbody, String.toList_ofList]
  simp

end FluentBuilder.Quoted
