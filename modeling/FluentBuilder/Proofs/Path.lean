import FluentBuilder.Path
import FluentBuilder.Proofs.Store.Nodes
import FluentBuilder.Proofs.Text.Dotted
import Mathlib.Data.List.TakeWhile

/-!
# Paths below a root

A text without slashes names a path of one part, or of none (`ofText_of_not_mem`), so that such texts
lead from a root to a path below it: a path with the same root and further parts, none of which leads
back up (`Below`). Different paths below a root have different places (`eq_of_placeOf_eq`). It is not
so for paths in general, because two slashes at the beginning, or a way up, give a place other names.
-/

namespace FluentBuilder

/-! ### Texts as paths -/

namespace Path

/-- What is kept of the parts of a text. -/
def keeps (part : String) : Bool := part != "" && part != "."

/-- Taking characters apart, the pieces before and the characters of the current one being kept in
reverse. -/
theorem foldl_splitAt {separator : Char} {cs piece : List Char} {rest : List (List Char)}
    (h : Dotted.pieces separator cs = piece :: rest) (parts : List (List Char)) (current : List Char) :
    let split := cs.foldl (fun (parts, current) c =>
      if c == separator then (current.reverse :: parts, []) else (parts, c :: current))
      (parts, current)
    (split.2.reverse :: split.1).reverse = parts.reverse ++ (current.reverse ++ piece) :: rest := by
  induction cs generalizing piece rest parts current with
  | nil =>
    obtain ⟨rfl, rfl⟩ := List.cons.inj h
    simp
  | cons c cs ih =>
    obtain ⟨next, others, hpieces⟩ := List.exists_cons_of_ne_nil (Dotted.pieces_ne_nil separator cs)
    rw [Dotted.pieces, hpieces] at h
    rw [List.foldl_cons]
    split at h
    · next hc =>
      obtain ⟨rfl, rfl⟩ := List.cons.inj h
      have hrest := ih hpieces (current.reverse :: parts) []
      simpa [hc] using hrest
    · next hc =>
      obtain ⟨rfl, rfl⟩ := List.cons.inj h
      have hrest := ih hpieces parts (c :: current)
      simpa [hc] using hrest

/-- Both ways to take characters apart agree. -/
theorem splitAt_eq_pieces (separator : Char) (cs : List Char) :
    Text.splitAt separator cs = Dotted.pieces separator cs := by
  obtain ⟨piece, rest, hpieces⟩ := List.exists_cons_of_ne_nil (Dotted.pieces_ne_nil separator cs)
  rw [Text.splitAt, hpieces]
  exact foldl_splitAt hpieces [] []

/-- A text without slashes is a part, or nothing. -/
theorem ofText_of_not_mem {text : String} (h : '/' ∉ text.toList) :
    ofText text = ⟨.relative, [text].filter keeps⟩ := by
  have hslashes : (text.toList.takeWhile (· == '/')).length = 0 := by
    cases hcs : text.toList with
    | nil => rfl
    | cons c cs =>
      rw [hcs, List.mem_cons, not_or] at h
      rw [List.takeWhile_cons_of_neg (by simpa using Ne.symm h.1), List.length_nil]
  simp only [ofText, hslashes, List.drop_zero, splitAt_eq_pieces, Dotted.pieces_of_not_mem h,
    List.map_cons, List.map_nil, String.ofList_toList, if_true]
  rfl

/-- A relative path leads on from a path. -/
theorem append_of_relative (p : Path) (parts : List String) :
    p ++ (⟨.relative, parts⟩ : Path) = ⟨p.root, p.parts ++ parts⟩ := rfl

/-- Texts without slashes are further parts. -/
theorem appendTexts_of_not_mem (p : Path) {texts : List String}
    (h : ∀ text ∈ texts, '/' ∉ text.toList) :
    p.appendTexts texts = ⟨p.root, p.parts ++ texts.filter keeps⟩ := by
  induction texts generalizing p with
  | nil => simp [appendTexts]
  | cons text rest ih =>
    obtain ⟨htext, hrest⟩ := List.forall_mem_cons.mp h
    have hlater := ih (⟨p.root, p.parts ++ [text].filter keeps⟩ : Path) hrest
    rw [appendTexts, List.foldl_cons, ofText_of_not_mem htext, append_of_relative]
    rw [appendTexts] at hlater
    rw [hlater, List.append_assoc, ← List.filter_append, List.singleton_append]

/-! ### Suffixes -/

/-- A name without points has no suffix. -/
theorem stemLength_of_not_mem {cs : List Char} (h : '.' ∉ cs) : stemLength cs = none := by
  have hall : cs.reverse.takeWhile (· != '.') = cs.reverse := by
    rw [List.takeWhile_eq_self_iff]
    intro c hc
    rw [bne_iff_ne]
    rintro rfl
    exact h (List.mem_reverse.mp hc)
  simp [stemLength, hall]

/-- A suffix is added to a last part without points. -/
theorem withSuffix_of_not_mem (root : PathRoot) (front : List String) {last : String}
    (h : '.' ∉ last.toList) (suffix : String) :
    (⟨root, front ++ [last]⟩ : Path).withSuffix suffix = ⟨root, front ++ [last ++ suffix]⟩ := by
  simp [withSuffix, stemLength_of_not_mem h]

/-! ### Texts of paths -/

/-- The text of a path ends as its last part does. -/
theorem exists_toList_render (root : PathRoot) (parts : List String) {last : String} {chars : List Char}
    {c : Char} (hlast : last.toList = chars ++ [c]) :
    ∃ front, (⟨root, parts ++ [last]⟩ : Path).render.toList = front ++ [c] := by
  obtain ⟨front, htext⟩ :
      ∃ front, (root.text ++ String.intercalate "/" (parts ++ [last])).toList = front ++ [c] := by
    by_cases hparts : parts = []
    · exact ⟨root.text.toList ++ chars, by simp [hparts, String.toList_append, hlast]⟩
    · rw [String.intercalate_append_of_ne_nil hparts (by simp)]
      simp only [String.toList_append, String.intercalate_singleton, hlast, ← List.append_assoc]
      exact ⟨_, rfl⟩
  have hne : (root.text ++ String.intercalate "/" (parts ++ [last])).isEmpty = false := by
    rw [Bool.eq_false_iff]
    intro hempty
    rw [String.isEmpty_iff.mp hempty] at htext
    simp at htext
  refine ⟨front, ?_⟩
  rw [render]
  simp only [hne, Bool.false_eq_true, if_false]
  exact htext

/-- The text of a path of two parts. -/
theorem render_pair (first last : String) :
    (⟨.absolute, [first, last]⟩ : Path).render = "/" ++ (first ++ "/" ++ last) := by
  have htext : PathRoot.absolute.text ++ String.intercalate "/" [first, last] =
      "/" ++ (first ++ "/" ++ last) := by
    simp [PathRoot.text, String.intercalate_cons_cons]
  have hne : ("/" ++ (first ++ "/" ++ last)).isEmpty = false := by
    rw [Bool.eq_false_iff]
    intro hempty
    have hnil := congrArg String.toList (String.isEmpty_iff.mp hempty)
    simp [String.toList_append] at hnil
  rw [render]
  simp only [htext, hne, Bool.false_eq_true, if_false]

/-! ### Lengths -/

/-- The bytes of two texts are those of both. -/
theorem size_append (cs cs' : List Char) :
    Utf8.size (cs ++ cs') = Utf8.size cs + Utf8.size cs' := by
  have hfrom : ∀ (n : Nat) (cs : List Char),
      cs.foldl (fun n c => n + Utf8.width c) n = n + Utf8.size cs := by
    intro n cs
    induction cs generalizing n with
    | nil => rfl
    | cons c cs ih => rw [Utf8.size, List.foldl_cons, List.foldl_cons, ih, ih (0 + Utf8.width c)]; omega
  rw [Utf8.size, List.foldl_append, hfrom, ← Utf8.size]

/-- Each of equal characters takes as many. -/
theorem size_replicate (n : Nat) (c : Char) : Utf8.size (List.replicate n c) = n * Utf8.width c := by
  have hone : Utf8.size [c] = Utf8.width c := Nat.zero_add _
  induction n with
  | zero => rw [Nat.zero_mul]; rfl
  | succ n ih => rw [List.replicate_succ', size_append, ih, hone, Nat.succ_mul]

/-- The text of a path begins with the text of a path above it. -/
theorem exists_text_append (root : Path) (further : List String) :
    ∃ rest, root.root.text ++ String.intercalate "/" (root.parts ++ further) =
      root.root.text ++ String.intercalate "/" root.parts ++ rest := by
  by_cases hparts : root.parts = []
  · exact ⟨String.intercalate "/" further, by simp [hparts]⟩
  by_cases hfurther : further = []
  · exact ⟨"", by simp [hfurther]⟩
  · refine ⟨"/" ++ String.intercalate "/" further, ?_⟩
    rw [String.intercalate_append_of_ne_nil hparts hfurther]
    simp only [String.append_assoc]

/-- The text of a path is not longer than that of a path below it, but for the point of a path without
parts. -/
theorem size_render_le (root : Path) (further : List String) :
    Utf8.size root.render.toList ≤
      max 1 (Utf8.size (⟨root.root, root.parts ++ further⟩ : Path).render.toList) := by
  obtain ⟨rest, htext⟩ := exists_text_append root further
  simp only [render, htext]
  generalize root.root.text ++ String.intercalate "/" root.parts = text
  by_cases hempty : text.isEmpty = true
  · rw [if_pos hempty]
    exact Nat.le_max_left _ _
  · have hlonger : ¬ (text ++ rest).isEmpty = true := by
      rw [String.isEmpty_iff] at hempty ⊢
      exact fun h => hempty (String.append_eq_empty_iff.mp h).1
    rw [if_neg hempty, if_neg hlonger, String.toList_append, size_append]
    exact Nat.le_trans (Nat.le_add_right _ _) (Nat.le_max_right _ _)

/-! ### Texts of relative paths -/

/-- Parts without slashes are read off the text that they make. -/
theorem pieces_intercalate {parts : List String} (hne : parts ≠ [])
    (h : ∀ part ∈ parts, '/' ∉ part.toList) :
    Dotted.pieces '/' (String.intercalate "/" parts).toList = parts.map String.toList := by
  induction parts with
  | nil => exact absurd rfl hne
  | cons part rest ih =>
    obtain ⟨hpart, hrest⟩ := List.forall_mem_cons.mp h
    cases rest with
    | nil => rw [String.intercalate_singleton, Dotted.pieces_of_not_mem hpart]; rfl
    | cons next rest =>
      have hchars : (String.intercalate "/" (part :: next :: rest)).toList =
          part.toList ++ '/' :: (String.intercalate "/" (next :: rest)).toList := by
        rw [String.intercalate_cons_of_ne_nil (List.cons_ne_nil next rest), String.toList_append,
          String.toList_append, List.append_assoc]
        rfl
      rw [hchars, Dotted.pieces_append, ih (List.cons_ne_nil next rest) hrest,
        Dotted.pieces_of_not_mem hpart]
      rfl

/-- **Relative paths with different parts have different texts**, where no part has a slash and not all
are empty. -/
theorem eq_of_render_eq {parts parts' : List String} (h : ∀ part ∈ parts, '/' ∉ part.toList)
    (h' : ∀ part ∈ parts', '/' ∉ part.toList) (hne : ∃ part ∈ parts, part ≠ "")
    (hne' : ∃ part ∈ parts', part ≠ "")
    (heq : (⟨.relative, parts⟩ : Path).render = (⟨.relative, parts'⟩ : Path).render) :
    parts = parts' := by
  have htext : ∀ {parts : List String}, (∀ part ∈ parts, '/' ∉ part.toList) →
      (∃ part ∈ parts, part ≠ "") → parts ≠ [] ∧
        (⟨.relative, parts⟩ : Path).render = String.intercalate "/" parts := by
    intro parts h ⟨part, hpart, hfull⟩
    have hnil : parts ≠ [] := List.ne_nil_of_mem hpart
    refine ⟨hnil, ?_⟩
    rw [render, PathRoot.text, String.empty_append]
    refine if_neg fun hempty => hfull ?_
    have hpieces := pieces_intercalate hnil h
    rw [String.isEmpty_iff.mp hempty] at hpieces
    have hmem : part.toList ∈ [([] : List Char)] := by
      have hall := List.mem_map_of_mem hpart (f := String.toList)
      rw [← hpieces] at hall
      exact hall
    exact String.toList_eq_nil_iff.mp (List.mem_singleton.mp hmem)
  obtain ⟨hnil, htext₁⟩ := htext h hne
  obtain ⟨hnil', htext₂⟩ := htext h' hne'
  rw [htext₁, htext₂] at heq
  have hpieces := pieces_intercalate hnil h
  rw [heq, pieces_intercalate hnil' h'] at hpieces
  exact (List.map_inj_right fun a b => String.toList_inj.mp).mp hpieces.symm

/-! ### Below a root -/

/-- A path stands below a root: it leads on from there, and not back up. -/
def Below (root p : Path) : Prop :=
  ∃ further : List String,
    p = ⟨root.root, root.parts ++ further⟩ ∧ further ≠ [] ∧ ".." ∉ further

end Path

namespace Store

/-- Names that do not lead up are added to a place. -/
theorem reach_of_not_mem (start : Place) {names : List String} (h : ".." ∉ names) :
    reach start names = start ++ names := by
  induction names generalizing start with
  | nil => simp [reach]
  | cons name rest ih =>
    rw [List.mem_cons, not_or] at h
    have hrest := ih (start ++ [name]) h.2
    rw [reach] at hrest ⊢
    rw [List.foldl_cons, if_neg (by simpa using Ne.symm h.1), hrest, List.append_assoc,
      List.singleton_append]

/-- The place of a path below a root is below the place of the root. -/
theorem placeOf_of_below {s : Store} {root p : Path} {place : Place} (hp : Path.Below root p)
    (hplace : s.placeOf p = .ok place) :
    ∃ further, p = ⟨root.root, root.parts ++ further⟩ ∧ further ≠ [] ∧
      place = reach (s.origin root) root.parts ++ further := by
  obtain ⟨further, rfl, hne, hfurther⟩ := hp
  refine ⟨further, rfl, hne, ?_⟩
  rw [eq_reach_of_placeOf hplace, ← reach_of_not_mem (reach (s.origin root) root.parts) hfurther]
  exact List.foldl_append

/-- **Different paths below a root have different places.** -/
theorem eq_of_placeOf_eq {s s' : Store} (hcurrent : s'.current = s.current) {root p q : Path}
    {place : Place} (hp : Path.Below root p) (hq : Path.Below root q)
    (hpplace : s.placeOf p = .ok place) (hqplace : s'.placeOf q = .ok place) : p = q := by
  obtain ⟨further, rfl, -, hfurther⟩ := placeOf_of_below hp hpplace
  obtain ⟨further', rfl, -, hfurther'⟩ := placeOf_of_below hq hqplace
  have horigin : s'.origin root = s.origin root := by rw [origin, origin, hcurrent]
  rw [horigin, hfurther] at hfurther'
  rw [List.append_cancel_left hfurther']

end Store
end FluentBuilder
