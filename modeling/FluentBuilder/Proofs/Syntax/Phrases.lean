import FluentBuilder.Proofs.Syntax.Attempts
import FluentBuilder.Syntax.Grammar

/-!
# Phrases

A part of the grammar by itself: names with members and items, lists, `None`, three points, and bars
between them. `Spells` says which lexemes spell an expression, with brackets that are nested no deeper than
a number. The lexemes of a phrase can be written next to each other (`Spells.formed`).
-/

namespace FluentBuilder.Syntax

/-- A word that can be a segment of a name and is not changed by reading it. -/
structure IsName (w : String) : Prop where
  /-- It is an identifier. -/
  identifier : Text.isIdentifier w = true
  /-- It is not reserved. -/
  free : Text.isReservedWord w = false
  /-- Its characters are composed. -/
  normal : Text.normalForm w = w

/-- Its token is that of a name. -/
theorem IsName.kind_eq {w : String} (hw : IsName w) : (Lexeme.word w).kind = .name := by
  rw [Lexeme.kind, hw.free]
  rfl

/-- The parts of phrases. -/
inductive Part where
  /-- A value: a name, a constant or a list, with members and items. -/
  | value
  /-- Values with bars between them. -/
  | union
  /-- Unions with commas between them, as a tuple. -/
  | items

/-- The lexemes that spell an expression, brackets being nested at most `n` deep. -/
inductive Spells : (n : Nat) → Part → Expr → List Lexeme → Prop where
  | name {n w} (hw : IsName w) : Spells n .value (.name w) [.word w]
  | none {n} : Spells n .value (.constant .none) [.word "None"]
  | points {n} : Spells n .value (.constant .ellipsis) [.points]
  | member {n e ls w} (h : Spells n .value e ls) (hw : IsName w) :
      Spells n .value (.attribute e w) (ls ++ [.point, .word w])
  | item {n e ls index ls'} (h : Spells (n + 1) .value e ls) (hindex : Spells n .union index ls') :
      Spells (n + 1) .value (.subscript e index) (ls ++ .opening :: (ls' ++ [.closing]))
  | tuple {n e ls es ls'} (h : Spells (n + 1) .value e ls) (htwo : 2 ≤ es.length)
      (hitems : Spells n .items (.tuple es) ls') :
      Spells (n + 1) .value (.subscript e (.tuple es)) (ls ++ .opening :: (ls' ++ [.closing]))
  | empty {n} : Spells (n + 1) .value (.list []) [.opening, .closing]
  | list {n es ls} (hitems : Spells n .items (.tuple es) ls) :
      Spells (n + 1) .value (.list es) (.opening :: (ls ++ [.closing]))
  | single {n e ls} (h : Spells n .value e ls) : Spells n .union e ls
  | either {n left right ls ls'} (hleft : Spells n .union left ls) (hright : Spells n .value right ls') :
      Spells n .union (.binary .bitOr left right) (ls ++ .bar :: ls')
  | first {n e ls} (h : Spells n .union e ls) : Spells n .items (.tuple [e]) ls
  | next {n es e ls ls'} (hitems : Spells n .items (.tuple es) ls) (h : Spells n .union e ls') :
      Spells n .items (.tuple (es ++ [e])) (ls ++ .comma :: ls')

/-! ### Phrases are written with lexemes next to each other -/

/-- May a phrase end with it? -/
def Lexeme.ends : Lexeme → Bool
  | word _ | points | closing => true
  | _ => false

/-- What a phrase ends with may precede every lexeme but a word. -/
theorem Lexeme.mayPrecede_of_ends {l l' : Lexeme} (h : l.ends = true) (hl' : ∀ w, l' ≠ .word w) :
    l.mayPrecede l' = true := by
  cases l with
  | word w =>
    cases l' with
    | word w' => exact absurd rfl (hl' w')
    | _ => rfl
  | points | closing => rfl
  | _ => cases h

/-- Lexemes that can be written next to each other, with brackets nested at most `n` deep. -/
structure Formed (n : Nat) (ls : List Lexeme) : Prop where
  /-- The first lexeme. -/
  begins : ∃ l ∈ ls.head?, l.begins = true
  /-- The last lexeme. -/
  ends : ∃ l ∈ ls.getLast?, l.ends = true
  /-- Each may precede the next one. -/
  chain : List.IsChain (fun a b => a.mayPrecede b = true) ls
  /-- Words are names, or stand for the absent value. -/
  words : ∀ w, Lexeme.word w ∈ ls → Text.isIdentifier w = true ∧ (w = "None" ∨ Text.isReservedWord w = false)
  /-- All brackets are closed. -/
  depth : ∀ d, d + n ≤ 200 → depthAfter d ls = some d

namespace Formed

variable {n : Nat} {ls ls' : List Lexeme} {l : Lexeme}

/-- Single lexemes. -/
theorem singleton (hbegins : l.begins = true) (hends : l.ends = true)
    (hword : ∀ w, l = .word w → Text.isIdentifier w = true ∧ (w = "None" ∨ Text.isReservedWord w = false)) :
    Formed n [l] where
  begins := ⟨l, rfl, hbegins⟩
  ends := ⟨l, rfl, hends⟩
  chain := .singleton l
  words := fun w hw => hword w (List.mem_singleton.mp hw).symm
  depth := fun d hd => by
    cases l with
    | opening => cases hends
    | closing => cases hbegins
    | _ => rfl

/-- Lexemes behind others. -/
theorem append (h : Formed n ls) (hhead : ∃ l ∈ ls'.head?, ∀ w, l ≠ .word w)
    (hends : ∃ l ∈ ls'.getLast?, l.ends = true)
    (hchain : List.IsChain (fun a b => a.mayPrecede b = true) ls')
    (hwords : ∀ w, Lexeme.word w ∈ ls' →
      Text.isIdentifier w = true ∧ (w = "None" ∨ Text.isReservedWord w = false))
    (hdepth : ∀ d, d + n ≤ 200 → depthAfter d ls' = some d) : Formed n (ls ++ ls') where
  begins := by
    obtain ⟨l, hl, hbegins⟩ := h.begins
    exact ⟨l, by rw [List.head?_append, Option.mem_def.mp hl]; rfl, hbegins⟩
  ends := by
    obtain ⟨l, hl, hends⟩ := hends
    exact ⟨l, by rw [List.getLast?_append, Option.mem_def.mp hl]; rfl, hends⟩
  chain := by
    refine List.isChain_append.mpr ⟨h.chain, hchain, fun x hx y hy => ?_⟩
    obtain ⟨l, hl, hlast⟩ := h.ends
    obtain ⟨l', hl', hfirst⟩ := hhead
    obtain rfl := Option.mem_unique hl hx
    obtain rfl := Option.mem_unique hl' hy
    exact Lexeme.mayPrecede_of_ends hlast hfirst
  words := fun w hw => (List.mem_append.mp hw).elim (h.words w) (hwords w)
  depth := fun d hd => by rw [depthAfter_append, h.depth d hd]; exact hdepth d hd

/-- Lexemes joined by a comma or a bar. -/
theorem join (h : Formed n ls) (h' : Formed n ls') (hl : l = .comma ∨ l = .bar) :
    Formed n (ls ++ l :: ls') := by
  have hjoint : (∀ w, l ≠ .word w) ∧ (∀ l', l.mayPrecede l' = true) ∧ ∀ d, l.depth d = some d := by
    rcases hl with rfl | rfl <;> exact ⟨nofun, fun _ => rfl, fun _ => rfl⟩
  obtain ⟨hnot, hprecede, hdepth⟩ := hjoint
  refine h.append ⟨l, rfl, hnot⟩ ?_ ?_ (fun w hw => ?_) fun d hd => ?_
  · obtain ⟨last, hlast, hends⟩ := h'.ends
    refine ⟨last, ?_, hends⟩
    rw [List.getLast?_cons, Option.mem_def.mp hlast]
    rfl
  · exact List.IsChain.cons h'.chain fun y _ => hprecede y
  · exact h'.words w ((List.mem_cons.mp hw).resolve_left fun heq => hnot w heq.symm)
  · show ((l.depth d).bind fun e => depthAfter e ls') = some d
    rw [hdepth d]
    exact h'.depth d hd

/-- What stands in brackets. -/
theorem bracketed_parts (h : Formed n ls) :
    (∃ l ∈ (Lexeme.opening :: (ls ++ [.closing])).getLast?, l.ends = true) ∧
    List.IsChain (fun a b => a.mayPrecede b = true) (Lexeme.opening :: (ls ++ [.closing])) ∧
    ∀ d, d + (n + 1) ≤ 200 → depthAfter d (.opening :: (ls ++ [.closing])) = some d := by
  refine ⟨⟨.closing, ?_, rfl⟩, ?_, fun d hd => ?_⟩
  · rw [← List.cons_append, List.getLast?_concat]
    rfl
  · refine List.IsChain.cons (List.isChain_append.mpr ⟨h.chain, .singleton _, fun x hx y hy => ?_⟩)
      fun _ _ => rfl
    obtain ⟨l, hl, hends⟩ := h.ends
    obtain rfl := Option.mem_unique hl hx
    obtain rfl := Option.some.inj hy
    exact Lexeme.mayPrecede_of_ends hends nofun
  · have hopen : Lexeme.opening.depth d = some (d + 1) := if_pos (by omega)
    show ((Lexeme.opening.depth d).bind fun e => depthAfter e (ls ++ [.closing])) = some d
    rw [hopen, Option.bind_some, depthAfter_append, h.depth (d + 1) (by omega)]
    rfl

end Formed

/-- **The lexemes of a phrase can be written next to each other.** -/
theorem Spells.formed {n : Nat} {part : Part} {e : Expr} {ls : List Lexeme} (h : Spells n part e ls) :
    Formed n ls := by
  induction h with
  | name hw => exact .singleton rfl rfl fun w heq => by cases heq; exact ⟨hw.identifier, .inr hw.free⟩
  | none => exact .singleton rfl rfl fun w heq => by cases heq; exact ⟨by decide, .inl rfl⟩
  | points => exact .singleton rfl rfl nofun
  | @member n e ls w h hw ih =>
    refine ih.append ⟨.point, rfl, nofun⟩ ⟨.word w, rfl, rfl⟩ (by simp [Lexeme.mayPrecede]) (fun v hv => ?_)
      fun d _ => rfl
    simp only [List.mem_cons, List.not_mem_nil, or_false, reduceCtorEq, false_or] at hv
    cases hv
    exact ⟨hw.identifier, .inr hw.free⟩
  | item h hindex ih ihindex | tuple h htwo hitems ih ihindex =>
    obtain ⟨hends, hchain, hdepth⟩ := ihindex.bracketed_parts
    refine ih.append ⟨.opening, rfl, nofun⟩ hends hchain (fun w hw => ?_) hdepth
    exact ihindex.words w (by simpa using hw)
  | empty =>
    refine ⟨⟨.opening, rfl, rfl⟩, ⟨.closing, rfl, rfl⟩, by simp [Lexeme.mayPrecede], nofun, fun d hd => ?_⟩
    have hopen : Lexeme.opening.depth d = some (d + 1) := if_pos (by omega)
    show ((Lexeme.opening.depth d).bind fun e => depthAfter e [.closing]) = some d
    rw [hopen]
    rfl
  | list hitems ih =>
    obtain ⟨hends, hchain, hdepth⟩ := ih.bracketed_parts
    exact ⟨⟨.opening, rfl, rfl⟩, hends, hchain, fun w hw => ih.words w (by simpa using hw), hdepth⟩
  | single h ih | first h ih => exact ih
  | either hleft hright ih ih' => exact ih.join ih' (.inr rfl)
  | next hitems h ih ih' => exact ih.join ih' (.inl rfl)

/-- A phrase has lexemes. -/
theorem Spells.length_pos {n : Nat} {part : Part} {e : Expr} {ls : List Lexeme}
    (h : Spells n part e ls) : 0 < ls.length := by
  obtain ⟨l, hl, -⟩ := h.formed.begins
  cases ls with
  | nil => cases hl
  | cons l ls => exact Nat.succ_pos _

end FluentBuilder.Syntax
