import FluentBuilder.Source.Reading
import Mathlib.Tactic.Common

/-!
# Reading the texts of modules

A module has the name and the path that it is read under (`name_of_ofText`, `path_of_ofText`). If it cannot
be read, then its source is wrong, or its text has the character of code zero (`source_of_ofText`): nothing
that is done to the line ends of a text brings in this character or takes it away
(`parseModule_eq_nullCharacter_iff`).
-/

namespace FluentBuilder

namespace Syntax

/-! ### Line ends -/

/-- A text without carriage returns has the line ends that it is read with. -/
theorem unifyLineEnds_of_not_mem {cs : List Char} (h : '\r' ∉ cs) : unifyLineEnds cs = cs := by
  induction cs with
  | nil => rfl
  | cons c rest ih =>
    rw [List.mem_cons, not_or] at h
    rw [unifyLineEnds, ih h.2, if_neg (by simpa using Ne.symm h.1)]
    intro rest' heq
    exact absurd heq.symm h.1

/-- No character is brought in but line feeds. -/
theorem mem_of_mem_unifyLineEnds {c : Char} (hc : c ≠ '\n') {cs : List Char}
    (h : c ∈ unifyLineEnds cs) : c ∈ cs := by
  induction cs using unifyLineEnds.induct with
  | case1 => exact h
  | case2 rest ih =>
    rw [unifyLineEnds, List.mem_cons] at h
    rcases h with h | h
    · exact absurd h hc
    · exact List.mem_cons_of_mem _ (List.mem_cons_of_mem _ (ih h))
  | case3 first rest hne ih =>
    rw [unifyLineEnds, List.mem_cons] at h
    · rcases h with h | h
      · split at h
        · exact absurd h hc
        · exact h ▸ List.mem_cons_self
      · exact List.mem_cons_of_mem _ (ih h)
    · exact hne

/-- The last line end is a line feed. -/
theorem mem_of_mem_endLastLine {c : Char} (hc : c ≠ '\n') {written unified : List Char}
    (h : c ∈ endLastLine written unified) : c ∈ unified := by
  rw [endLastLine] at h
  split at h
  · exact h
  · rcases List.mem_append.mp h with h | h
    · exact h
    · exact absurd (List.mem_singleton.mp h) hc

/-- All characters but carriage returns are kept. -/
theorem mem_unifyLineEnds {c : Char} (hc : c ≠ '\r') {cs : List Char} (h : c ∈ cs) :
    c ∈ unifyLineEnds cs := by
  induction cs using unifyLineEnds.induct with
  | case1 => exact h
  | case2 rest ih =>
    rw [unifyLineEnds, List.mem_cons]
    rcases List.mem_cons.mp h with h | h
    · exact absurd h hc
    · exact (List.mem_cons.mp h).imp_right ih
  | case3 first rest hne ih =>
    rw [unifyLineEnds, List.mem_cons]
    · rcases List.mem_cons.mp h with rfl | h
      · exact .inl (if_neg (by simpa using hc)).symm
      · exact .inr (ih h)
    · exact hne

/-- Ending the last line takes nothing away. -/
theorem mem_endLastLine {c : Char} {written unified : List Char} (h : c ∈ unified) :
    c ∈ endLastLine written unified := by
  rw [endLastLine]
  split
  · exact h
  · exact List.mem_append_left _ h

/-- **A text fails because of the character of code zero iff it has it.** -/
theorem parseModule_eq_nullCharacter_iff {text : String} {file : Option (List UInt8)} :
    parseModule text file = .error .nullCharacter ↔ '\x00' ∈ text.toList := by
  rw [parseModule, readWith]
  constructor
  · intro h
    split at h
    · next hany =>
      obtain ⟨c, hc, heq⟩ := List.any_eq_true.mp hany
      obtain rfl := eq_of_beq heq
      exact mem_of_mem_unifyLineEnds (by decide) (mem_of_mem_endLastLine (by decide) hc)
    · rcases hread : Grammar.readText Grammar.wholeModule _ _ with fault | body
      · rw [hread] at h
        cases h
      · rw [hread] at h
        cases h
  · intro h
    rw [if_pos]
    exact List.any_eq_true.mpr ⟨'\x00', mem_endLastLine (mem_unifyLineEnds (by decide) h), rfl⟩

end Syntax

namespace Source.Module

variable {name : String} {path : Path} {isPackage : Bool} {file : Option (List UInt8)} {text : String}

/-- **The module that a text is read as** is made of what is parsed. -/
theorem ofText_eq_ok_iff {m : Module} : ofText name path isPackage file text = .ok m ↔
    ∃ body, Syntax.parseModule text file = .ok body ∧ m = ⟨name, path, isPackage, body⟩ := by
  rw [ofText]
  split
  · next body hparse => simp [hparse, eq_comm]
  · next hparse => simp [hparse]
  · next hparse => simp [hparse]

/-- A module has the name that it is read under. -/
theorem name_of_ofText {m : Module} (h : ofText name path isPackage file text = .ok m) :
    m.name = name := by
  obtain ⟨body, -, rfl⟩ := ofText_eq_ok_iff.mp h
  rfl

/-- A module has the path that it is read from. -/
theorem path_of_ofText {m : Module} (h : ofText name path isPackage file text = .ok m) :
    m.path = path := by
  obtain ⟨body, -, rfl⟩ := ofText_eq_ok_iff.mp h
  rfl

/-- **A text that cannot be read is a source with a fault**, or has the character of code zero. -/
theorem source_of_ofText {e : ReadError} (h : ofText name path isPackage file text = .error e)
    (hnull : '\x00' ∉ text.toList) : ∃ fault, e = .source (.unparsable name path fault) := by
  rw [ofText] at h
  split at h
  · cases h
  · next hparse => exact absurd (Syntax.parseModule_eq_nullCharacter_iff.mp hparse) hnull
  · next fault hparse => exact ⟨fault, (Except.error.inj h).symm⟩

/-- A text with the character of code zero cannot be read for this reason. -/
theorem ofText_of_nullCharacter (h : '\x00' ∈ text.toList) :
    ofText name path isPackage file text = .error .nullCharacter := by
  rw [ofText, Syntax.parseModule_eq_nullCharacter_iff.mpr h]

/-- A text is read as a module iff it is parsed. -/
theorem exists_ofText_iff :
    (∃ m, ofText name path isPackage file text = .ok m) ↔
      ∃ body, Syntax.parseModule text file = .ok body := by
  constructor
  · rintro ⟨m, h⟩
    obtain ⟨body, hparse, -⟩ := ofText_eq_ok_iff.mp h
    exact ⟨body, hparse⟩
  · rintro ⟨body, hparse⟩
    exact ⟨_, ofText_eq_ok_iff.mpr ⟨body, hparse, rfl⟩⟩

end Source.Module
end FluentBuilder
