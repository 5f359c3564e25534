import FluentBuilder.Text.Dotted

/-!
# Segments of dotted names

Names are put together segment by segment: a point between two names puts their segments one after
the other (`segments_append`), and what comes first in a name is its first segment
(`splitHead_fst`). Segments have no points in them (`not_mem_of_mem_segments`), and taking names apart
and putting them together adds no characters but points (`mem_of_mem_join`).
-/

namespace FluentBuilder.Dotted

/-- What stands before and behind a separator is taken apart separately. -/
theorem pieces_append (separator : Char) (front back : List Char) :
    pieces separator (front ++ separator :: back) = pieces separator front ++ pieces separator back := by
  induction front with
  | nil => simp [pieces]
  | cons c front ih =>
    simp only [List.cons_append, pieces, ih]
    split
    · rfl
    · cases hfront : pieces separator front with
      | nil => exact absurd hfront (pieces_ne_nil separator front)
      | cons piece rest => rfl

/-- Where there is no separator, there is one piece. -/
theorem pieces_of_not_mem {separator : Char} {cs : List Char} (h : separator ∉ cs) :
    pieces separator cs = [cs] := by
  induction cs with
  | nil => rfl
  | cons c cs ih =>
    rw [List.mem_cons, not_or] at h
    rw [pieces, if_neg (Ne.symm h.1), ih h.2]

/-- **A point puts segments one after the other.** -/
theorem segments_append (outer inner : String) :
    segments (outer ++ "." ++ inner) = segments outer ++ segments inner := by
  have hchars : (outer ++ "." ++ inner).toList = outer.toList ++ '.' :: inner.toList := by
    rw [String.toList_append, String.toList_append, List.append_assoc]
    rfl
  rw [segments, hchars, pieces_append, List.map_append, segments, segments]

/-- A name without points is one segment. -/
theorem segments_of_not_mem {name : String} (h : '.' ∉ name.toList) : segments name = [name] := by
  rw [segments, pieces_of_not_mem h, List.map_singleton, String.ofList_toList]

/-- There is always a first segment. -/
theorem exists_segments_eq_cons (name : String) : ∃ head rest, segments name = head :: rest := by
  cases h : segments name with
  | nil => exact absurd (List.map_eq_nil_iff.mp h) (pieces_ne_nil '.' name.toList)
  | cons head rest => exact ⟨head, rest, rfl⟩

/-- What comes first in a name is its first segment. -/
theorem splitHead_fst {name head : String} {rest : List String}
    (h : segments name = head :: rest) : (splitHead name).1 = head := by
  rw [splitHead, h]

/-! ### Characters -/

/-- No piece has the separator in it. -/
theorem not_mem_of_mem_pieces {separator : Char} {cs piece : List Char}
    (h : piece ∈ pieces separator cs) : separator ∉ piece := by
  induction cs generalizing piece with
  | nil =>
    rw [List.mem_singleton.mp h]
    exact List.not_mem_nil
  | cons c cs ih =>
    rw [pieces] at h
    split at h
    · rcases List.mem_cons.mp h with rfl | h
      · exact List.not_mem_nil
      · exact ih h
    · next hne =>
      split at h
      · next hnil => exact absurd hnil (pieces_ne_nil separator cs)
      · next first rest hpieces =>
        rw [hpieces] at ih
        rcases List.mem_cons.mp h with rfl | h
        · rw [List.mem_cons, not_or]
          exact ⟨Ne.symm hne, ih List.mem_cons_self⟩
        · exact ih (List.mem_cons_of_mem first h)

/-- The characters of a piece are among those that were taken apart. -/
theorem mem_of_mem_pieces {separator c : Char} {cs piece : List Char}
    (h : piece ∈ pieces separator cs) (hc : c ∈ piece) : c ∈ cs := by
  induction cs generalizing piece with
  | nil =>
    rw [List.mem_singleton.mp h] at hc
    exact absurd hc List.not_mem_nil
  | cons d cs ih =>
    rw [pieces] at h
    split at h
    · rcases List.mem_cons.mp h with rfl | h
      · exact absurd hc List.not_mem_nil
      · exact List.mem_cons_of_mem d (ih h hc)
    · split at h
      · next hnil => exact absurd hnil (pieces_ne_nil separator cs)
      · next first rest hpieces =>
        rw [hpieces] at ih
        rcases List.mem_cons.mp h with rfl | h
        · rcases List.mem_cons.mp hc with rfl | hc
          · exact List.mem_cons_self
          · exact List.mem_cons_of_mem d (ih List.mem_cons_self hc)
        · exact List.mem_cons_of_mem d (ih (List.mem_cons_of_mem first h) hc)

/-- No segment has a point in it. -/
theorem not_mem_of_mem_segments {name segment : String} (h : segment ∈ segments name) :
    '.' ∉ segment.toList := by
  obtain ⟨piece, hpiece, rfl⟩ := List.mem_map.mp h
  rw [String.toList_ofList]
  exact not_mem_of_mem_pieces hpiece

/-- The characters of a segment are characters of the name. -/
theorem mem_of_mem_segments {name segment : String} {c : Char} (h : segment ∈ segments name)
    (hc : c ∈ segment.toList) : c ∈ name.toList := by
  obtain ⟨piece, hpiece, rfl⟩ := List.mem_map.mp h
  rw [String.toList_ofList] at hc
  exact mem_of_mem_pieces hpiece hc

/-- The characters of joined pieces are those of the pieces, and separators. -/
theorem mem_of_mem_joinPieces {separator c : Char} {parts : List (List Char)}
    (h : c ∈ joinPieces separator parts) : c = separator ∨ ∃ piece ∈ parts, c ∈ piece := by
  induction parts with
  | nil => exact absurd h List.not_mem_nil
  | cons piece rest ih =>
    cases rest with
    | nil => exact .inr ⟨piece, List.mem_cons_self, h⟩
    | cons next rest =>
      rw [joinPieces, List.mem_append, List.mem_cons] at h
      rcases h with hpiece | hseparator | hrest
      · exact .inr ⟨piece, List.mem_cons_self, hpiece⟩
      · exact .inl hseparator
      · rcases ih hrest with hseparator | ⟨other, hother, hc⟩
        · exact .inl hseparator
        · exact .inr ⟨other, List.mem_cons_of_mem piece hother, hc⟩

/-- The characters of joined segments are those of the segments, and points. -/
theorem mem_of_mem_join {parts : List String} {c : Char} (h : c ∈ (join parts).toList) :
    c = '.' ∨ ∃ segment ∈ parts, c ∈ segment.toList := by
  rw [join, String.toList_ofList] at h
  rcases mem_of_mem_joinPieces h with hpoint | ⟨piece, hpiece, hc⟩
  · exact .inl hpoint
  · obtain ⟨segment, hsegment, rfl⟩ := List.mem_map.mp hpiece
    exact .inr ⟨segment, hsegment, hc⟩

/-- The characters before the last point are characters of the name. -/
theorem mem_of_mem_parent {name : String} {c : Char} (hc : c ≠ '.') (h : c ∈ (parent name).toList) :
    c ∈ name.toList := by
  rcases mem_of_mem_join h with hpoint | ⟨segment, hsegment, hmem⟩
  · exact absurd hpoint hc
  · exact mem_of_mem_segments (List.dropLast_subset _ hsegment) hmem

/-- The characters behind the last point are characters of the name. -/
theorem mem_of_mem_lastSegment {name : String} {c : Char} (h : c ∈ (lastSegment name).toList) :
    c ∈ name.toList := by
  rw [lastSegment, splitLast] at h
  obtain ⟨first, rest, hsegments⟩ := exists_segments_eq_cons name
  refine mem_of_mem_segments ?_ h
  rw [hsegments, List.getLastD_cons]
  exact List.getLastD_mem_cons

/-! ### The last segment -/

/-- A text that does not end with a separator has a last piece that is not empty. -/
theorem exists_getLast?_pieces {separator c : Char} (h : c ≠ separator) (front : List Char) :
    ∃ piece, (pieces separator (front ++ [c])).getLast? = some piece ∧ piece ≠ [] := by
  induction front with
  | nil => exact ⟨[c], by simp [pieces, h], List.cons_ne_nil c []⟩
  | cons d front ih =>
    obtain ⟨last, hlast, hne⟩ := ih
    rw [List.cons_append, pieces]
    cases hpieces : pieces separator (front ++ [c]) with
    | nil => exact absurd hpieces (pieces_ne_nil separator _)
    | cons piece rest =>
      rw [hpieces] at hlast
      split
      · exact ⟨last, by rw [List.getLast?_cons_cons, hlast], hne⟩
      · cases rest with
        | nil => exact ⟨d :: piece, rfl, List.cons_ne_nil d piece⟩
        | cons next rest =>
          rw [List.getLast?_cons_cons] at hlast
          exact ⟨last, by rw [List.getLast?_cons_cons, hlast], hne⟩

/-- A name that does not end with a point has a last segment that is not empty. -/
theorem exists_getLast?_segments {name : String} {front : List Char} {c : Char}
    (hname : name.toList = front ++ [c]) (h : c ≠ '.') :
    ∃ segment, (segments name).getLast? = some segment ∧ segment ≠ "" := by
  obtain ⟨piece, hpiece, hne⟩ := exists_getLast?_pieces h front
  refine ⟨String.ofList piece, ?_, ?_⟩
  · rw [segments, List.getLast?_map, hname, hpiece, Option.map_some]
  · intro hempty
    have hchars := congrArg String.toList hempty
    rw [String.toList_ofList] at hchars
    exact hne hchars

/-- The last segment has no point in it. -/
theorem not_mem_lastSegment (name : String) : '.' ∉ (lastSegment name).toList := by
  rw [lastSegment, splitLast]
  obtain ⟨first, rest, hsegments⟩ := exists_segments_eq_cons name
  have hlast : rest.getLastD first ∈ segments name := by
    rw [hsegments]
    exact List.getLastD_mem_cons
  rw [hsegments, List.getLastD_cons]
  exact not_mem_of_mem_segments hlast

/-! ### What comes before a name -/

/-- One name encloses another one: the other one goes on from it behind a point. -/
def Encloses (outer name : String) : Prop := ∃ rest, name = outer ++ "." ++ rest

/-- The characters of two names with a point between them. -/
theorem toList_append_point (outer rest : String) :
    (outer ++ "." ++ rest).toList = outer.toList ++ '.' :: rest.toList := by
  rw [String.toList_append, String.toList_append, List.append_assoc]
  rfl

/-- The characters of an enclosing name and a point come first in a name. -/
theorem encloses_iff_prefix {outer name : String} :
    Encloses outer name ↔ outer.toList ++ ['.'] <+: name.toList := by
  constructor
  · rintro ⟨rest, rfl⟩
    exact ⟨rest.toList, by rw [toList_append_point, List.append_assoc]; rfl⟩
  · rintro ⟨rest, heq⟩
    refine ⟨String.ofList rest, String.toList_inj.mp ?_⟩
    rw [toList_append_point, String.toList_ofList, ← heq, List.append_assoc]
    rfl

instance (outer name : String) : Decidable (Encloses outer name) :=
  decidable_of_iff _ encloses_iff_prefix.symm

/-- What encloses a name in which one segment follows a name is that name, or encloses it. -/
theorem encloses_append_iff {outer middle inner : String} (h : '.' ∉ inner.toList) :
    Encloses outer (middle ++ "." ++ inner) ↔ outer = middle ∨ Encloses outer middle := by
  constructor
  · rintro ⟨rest, heq⟩
    have hchars := congrArg String.toList heq
    rw [toList_append_point, toList_append_point] at hchars
    rcases List.append_eq_append_iff.mp hchars with ⟨between, houter, hrest⟩ | ⟨between, hmiddle, hrest⟩
    · -- The point behind `outer` would be in the last segment.
      cases between with
      | nil => exact .inl (String.toList_inj.mp (houter.trans (List.append_nil _)))
      | cons c between =>
        obtain ⟨-, hinner⟩ := List.cons.inj hrest
        exact absurd (hinner ▸ List.mem_append_right _ List.mem_cons_self) h
    · cases between with
      | nil => exact .inl (String.toList_inj.mp (hmiddle.trans (List.append_nil _)).symm)
      | cons c between =>
        obtain ⟨rfl, -⟩ := List.cons.inj hrest
        refine .inr ⟨String.ofList between, String.toList_inj.mp ?_⟩
        rw [toList_append_point, String.toList_ofList, hmiddle]
  · rintro (rfl | ⟨rest, rfl⟩)
    · exact ⟨inner, rfl⟩
    · exact ⟨rest ++ "." ++ inner, by simp only [String.append_assoc]⟩

/-- Nothing encloses a single segment. -/
theorem not_encloses_of_not_mem {outer name : String} (h : '.' ∉ name.toList) :
    ¬ Encloses outer name := by
  rintro ⟨rest, rfl⟩
  rw [toList_append_point] at h
  exact h (List.mem_append_right _ List.mem_cons_self)

/-- What encloses a segment within a name is that name, or encloses it. -/
theorem encloses_within_iff {outer middle inner : String} (h : '.' ∉ inner.toList) :
    Encloses outer (within middle inner) ↔
      middle ≠ "" ∧ (outer = middle ∨ Encloses outer middle) := by
  rw [within]
  split
  · next hempty =>
    have hnone : ¬ Encloses outer inner := not_encloses_of_not_mem h
    simp [hnone, String.isEmpty_iff.mp hempty]
  · next hne =>
    rw [encloses_append_iff h, and_iff_right]
    exact fun hempty => hne (String.isEmpty_iff.mpr hempty)

/-- One more piece follows behind a separator. -/
theorem joinPieces_concat {separator : Char} {front : List (List Char)} (h : front ≠ [])
    (last : List Char) :
    joinPieces separator (front ++ [last]) = joinPieces separator front ++ separator :: last := by
  induction front with
  | nil => exact absurd rfl h
  | cons piece rest ih =>
    cases rest with
    | nil => rfl
    | cons next rest =>
      have hrest := ih (List.cons_ne_nil next rest)
      rw [List.cons_append, List.cons_append, joinPieces, ← List.cons_append, hrest, joinPieces,
        List.append_assoc, List.cons_append]

/-- A name goes on from what comes before its last point, if that is not empty. -/
theorem encloses_parent {name : String} (h : parent name ≠ "") : Encloses (parent name) name := by
  obtain ⟨front, last, hsegments⟩ : ∃ front last, segments name = front ++ [last] := by
    obtain ⟨first, rest, hcons⟩ := exists_segments_eq_cons name
    exact ⟨_, _, (List.dropLast_concat_getLast (hcons ▸ List.cons_ne_nil first rest)).symm⟩
  have hparent : parent name = join front := by
    rw [parent, splitLast, hsegments, List.dropLast_concat]
  have hfront : front.map String.toList ≠ [] := by
    rw [Ne, List.map_eq_nil_iff]
    rintro rfl
    exact h hparent
  have hjoin : (join (segments name)).toList = joinPieces '.' ((segments name).map String.toList) := by
    rw [join, String.toList_ofList]
  rw [join_segments, hsegments, List.map_append, List.map_singleton, joinPieces_concat hfront] at hjoin
  refine ⟨last, String.toList_inj.mp ?_⟩
  rw [toList_append_point, hparent, join, String.toList_ofList, hjoin]

/-- Nothing comes before a single segment. -/
theorem parent_of_not_mem {name : String} (h : '.' ∉ name.toList) : parent name = "" := by
  rw [parent, splitLast, segments_of_not_mem h]
  rfl

/-- A single segment is the last one. -/
theorem lastSegment_of_not_mem {name : String} (h : '.' ∉ name.toList) : lastSegment name = name := by
  rw [lastSegment, splitLast, segments_of_not_mem h]
  rfl

/-- A single segment is the name that it writes. -/
theorem join_singleton (name : String) : join [name] = name := by
  rw [join, List.map_singleton, joinPieces, String.ofList_toList]

/-- Further segments follow behind a point. -/
theorem join_cons (first : String) {rest : List String} (h : rest ≠ []) :
    join (first :: rest) = first ++ "." ++ join rest := by
  obtain ⟨next, rest, rfl⟩ := List.exists_cons_of_ne_nil h
  refine String.toList_inj.mp ?_
  rw [toList_append_point, join, join, String.toList_ofList, String.toList_ofList]
  rfl

/-- **A point stands between the segments of two names.** -/
theorem join_append {front back : List String} (hfront : front ≠ []) (hback : back ≠ []) :
    join (front ++ back) = join front ++ "." ++ join back := by
  induction front with
  | nil => exact absurd rfl hfront
  | cons first front ih =>
    by_cases hnil : front = []
    · rw [hnil, join_singleton, List.singleton_append, join_cons first hback]
    · have hne : front ++ back ≠ [] := fun h => hnil (List.append_eq_nil_iff.mp h).1
      rw [List.cons_append, join_cons first hne, ih hnil, join_cons first hnil]
      simp only [String.append_assoc]

/-- Names without points are the segments of the name that they write. -/
theorem segments_join {parts : List String} (hne : parts ≠ []) (hparts : ∀ p ∈ parts, '.' ∉ p.toList) :
    segments (join parts) = parts := by
  induction parts with
  | nil => exact absurd rfl hne
  | cons first rest ih =>
    obtain ⟨hfirst, hrest⟩ := List.forall_mem_cons.mp hparts
    by_cases hnil : rest = []
    · rw [hnil, join_singleton, segments_of_not_mem hfirst]
    · rw [join_cons first hnil, segments_append, segments_of_not_mem hfirst, ih hnil hrest,
        List.singleton_append]

/-- What comes last in a name is what comes last in its last part. -/
theorem lastSegment_append (outer inner : String) :
    lastSegment (outer ++ "." ++ inner) = lastSegment inner := by
  obtain ⟨first, rest, hsegments⟩ := exists_segments_eq_cons inner
  have hne : first :: rest ≠ [] := List.cons_ne_nil first rest
  rw [lastSegment, splitLast, segments_append, lastSegment, splitLast, hsegments,
    List.getLastD_eq_getLast?, List.getLastD_eq_getLast?, List.getLast?_append,
    List.getLast?_eq_some_getLast hne, Option.some_or]

end FluentBuilder.Dotted
