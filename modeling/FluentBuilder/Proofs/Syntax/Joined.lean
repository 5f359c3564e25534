import FluentBuilder.Proofs.Syntax.Phrases
import FluentBuilder.Proofs.Text.Dotted

/-!
# Phrases made of phrases

Texts of phrases are put together as references are written: unions with bars between their members, names
with points between their segments, items with commas between them. What is put together is a phrase again.
Bars bind to the left, so that the union of two unions (`Expr.union`) is the one that has the members of
both, and not a union with a union in it.
-/

namespace FluentBuilder.Syntax

/-! ### Expressions -/

/-- The union of two types, as bars between all their members write it. -/
def Expr.union (left : Expr) : Expr → Expr
  | .binary .bitOr first last => .binary .bitOr (left.union first) last
  | right => .binary .bitOr left right

/-- The expression of segments with points between them. -/
def Expr.ofSegments : List String → Expr
  | [] => .name ""
  | head :: rest => rest.foldl .attribute (.name head)

/-- The expression of a dotted name. -/
def Expr.ofDotted (dotted : String) : Expr := .ofSegments (Dotted.segments dotted)

/-! ### Texts -/

/-- Two texts with a separator between them count as one. -/
theorem intercalate_merge (separator first second : String) (rest : List String) :
    String.intercalate separator ((first ++ separator ++ second) :: rest) =
      String.intercalate separator (first :: second :: rest) := by
  rw [String.intercalate_cons_append, String.intercalate_cons_cons]

/-- Two segments with a point between them count as one. -/
theorem join_merge (first second : String) (rest : List String) :
    Dotted.join ((first ++ "." ++ second) :: rest) = Dotted.join (first :: second :: rest) := by
  by_cases h : rest = []
  · rw [h, Dotted.join_singleton, Dotted.join_cons first (List.cons_ne_nil second []),
      Dotted.join_singleton]
  · rw [Dotted.join_cons _ h, Dotted.join_cons first (List.cons_ne_nil second rest),
      Dotted.join_cons second h]
    simp only [String.append_assoc]

/-- The text of one more lexeme in front. -/
theorem textOf_cons (l : Lexeme) (ls : List Lexeme) :
    textOf (l :: ls) = String.ofList l.written ++ textOf ls := by
  rw [textOf, charsOf_cons, String.ofList_append, textOf]

/-- A union is written with a bar. -/
theorem textOf_bar (ls ls' : List Lexeme) : textOf (ls ++ .bar :: ls') = textOf ls ++ " | " ++ textOf ls' := by
  rw [textOf_append, textOf_cons, String.append_assoc]
  rfl

/-- Items are written with a comma. -/
theorem textOf_comma (ls ls' : List Lexeme) :
    textOf (ls ++ .comma :: ls') = textOf ls ++ ", " ++ textOf ls' := by
  rw [textOf_append, textOf_cons, String.append_assoc]
  rfl

/-- A member is written with a point. -/
theorem textOf_member (ls : List Lexeme) (w : String) :
    textOf (ls ++ [.point, .word w]) = textOf ls ++ "." ++ w := by
  have hword : textOf [.word w] = w := by
    rw [textOf, charsOf_cons, charsOf_nil, List.append_nil]
    exact String.ofList_toList
  rw [textOf_append, textOf_cons, hword, String.append_assoc]
  rfl

/-- A list is written in brackets. -/
theorem textOf_bracketed (ls : List Lexeme) :
    textOf (.opening :: (ls ++ [.closing])) = "[" ++ textOf ls ++ "]" := by
  rw [textOf_cons, textOf_append, String.append_assoc]
  rfl

/-! ### Phrases -/

variable {n : Nat} {part : Part} {e left right : Expr} {es : List Expr} {ls ls' : List Lexeme}
variable {lss : List (List Lexeme)}

/-- Brackets may be nested more deeply. -/
theorem Spells.succ (h : Spells n part e ls) : Spells (n + 1) part e ls := by
  induction h with
  | name hw => exact .name hw
  | none => exact .none
  | points => exact .points
  | member h hw ih => exact .member ih hw
  | item h hindex ih ihindex => exact .item ih ihindex
  | tuple h htwo hitems ih ihitems => exact .tuple ih htwo ihitems
  | empty => exact .empty
  | list hitems ih => exact .list ih
  | single h ih => exact .single ih
  | either hleft hright ihleft ihright => exact .either ihleft ihright
  | first h ih => exact .first ih
  | next hitems h ihitems ih => exact .next ihitems ih

/-- A value is one member of a union. -/
theorem Spells.union_eq (h : Spells n .value right ls) : left.union right = .binary .bitOr left right := by
  cases h <;> rfl

/-- **The union of two phrases** is written with a bar between them. -/
theorem Spells.union (hleft : Spells n .union left ls) (hright : Spells n .union right ls') :
    Spells n .union (left.union right) (ls ++ .bar :: ls') := by
  generalize hpart : Part.union = part at hright
  induction hright with
  | single hvalue =>
    rw [hvalue.union_eq]
    exact .either hleft hvalue
  | @either n first last ls₁ ls₂ hfirst hlast ih =>
    have hunion := ih hleft rfl
    have happend : ls ++ .bar :: (ls₁ ++ .bar :: ls₂) = (ls ++ .bar :: ls₁) ++ .bar :: ls₂ := by
      rw [List.append_assoc, List.cons_append]
    rw [happend]
    exact .either hunion hlast
  | _ => cases hpart

/-- **The union of any number of phrases.** -/
theorem exists_spells_foldl_union (h : List.Forall₂ (Spells n .union) es lss) :
    ∀ {e : Expr} {ls : List Lexeme}, Spells n .union e ls →
      ∃ ls', Spells n .union (es.foldl Expr.union e) ls' ∧
        textOf ls' = String.intercalate " | " (textOf ls :: lss.map textOf) := by
  induction h with
  | nil => exact fun he => ⟨_, he, (String.intercalate_singleton).symm⟩
  | @cons next ls₁ es lss hnext hrest ih =>
    intro e ls he
    obtain ⟨ls', hspells, htext⟩ := ih (he.union hnext)
    refine ⟨ls', hspells, ?_⟩
    rw [htext, textOf_bar, intercalate_merge, List.map_cons]

/-- Further items behind some. -/
theorem exists_spells_append (h : List.Forall₂ (Spells n .union) es lss) :
    ∀ {before : List Expr} {ls : List Lexeme}, Spells n .items (.tuple before) ls →
      ∃ ls', Spells n .items (.tuple (before ++ es)) ls' ∧
        textOf ls' = String.intercalate ", " (textOf ls :: lss.map textOf) := by
  induction h with
  | nil =>
    intro before ls hbefore
    exact ⟨ls, by rwa [List.append_nil], (String.intercalate_singleton).symm⟩
  | @cons next ls₁ es lss hnext hrest ih =>
    intro before ls hbefore
    obtain ⟨ls', hspells, htext⟩ := ih (hbefore.next hnext)
    refine ⟨ls', ?_, ?_⟩
    · rwa [List.append_assoc, List.singleton_append] at hspells
    · rw [htext, textOf_comma, intercalate_merge, List.map_cons]

/-- **Any number of items but none.** -/
theorem exists_spells_items (h : List.Forall₂ (Spells n .union) es lss) (hne : es ≠ []) :
    ∃ ls, Spells n .items (.tuple es) ls ∧ textOf ls = String.intercalate ", " (lss.map textOf) := by
  cases h with
  | nil => exact absurd rfl hne
  | @cons first ls₁ es lss hfirst hrest => exact exists_spells_append hrest (.first hfirst)

/-- **The segments of a name** are written with points between them. -/
theorem exists_spells_foldl_attribute {rest : List String} (h : ∀ w ∈ rest, IsName w) :
    ∀ {e : Expr} {ls : List Lexeme}, Spells n .value e ls →
      ∃ ls', Spells n .value (rest.foldl .attribute e) ls' ∧ textOf ls' = Dotted.join (textOf ls :: rest) := by
  induction rest with
  | nil => exact fun he => ⟨_, he, (Dotted.join_singleton _).symm⟩
  | cons w rest ih =>
    intro e ls he
    obtain ⟨hw, hrest⟩ := List.forall_mem_cons.mp h
    obtain ⟨ls', hspells, htext⟩ := ih hrest (he.member hw)
    refine ⟨ls', hspells, ?_⟩
    rw [htext, textOf_member, join_merge]

/-- A dotted name is written as it is. -/
theorem exists_spells_ofDotted (n : Nat) {dotted : String} (h : ∀ w ∈ Dotted.segments dotted, IsName w) :
    ∃ ls, Spells n .value (.ofDotted dotted) ls ∧ textOf ls = dotted := by
  obtain ⟨head, rest, hsegments⟩ := Dotted.exists_segments_eq_cons dotted
  rw [hsegments] at h
  obtain ⟨hhead, hrest⟩ := List.forall_mem_cons.mp h
  obtain ⟨ls, hspells, htext⟩ := exists_spells_foldl_attribute (n := n) hrest (.name hhead)
  refine ⟨ls, ?_, ?_⟩
  · rwa [Expr.ofDotted, hsegments]
  · have hword : textOf [.word head] = head := by
      rw [textOf, charsOf_cons, charsOf_nil, List.append_nil]
      exact String.ofList_toList
    rw [htext, hword, ← hsegments, Dotted.join_segments]

end FluentBuilder.Syntax
