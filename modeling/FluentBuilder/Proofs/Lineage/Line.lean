import FluentBuilder.Proofs.Lineage.Merge
import FluentBuilder.Proofs.Outcome
import Mathlib.Data.List.Perm.Subperm
import Mathlib.Logic.Relation

/-!
# Lines of descent in a graph of bases

`bases` gives every class its bases; nothing is assumed of that graph, which may have cycles, several
ways to one class, and repeated bases. `Descends bases c b` says that a way of bases leads from `c`
to `b`, and `OnCycle bases c` that one leads from `c` back to it.

* **Success** (`mem_line_iff`, `line_nodup`, `bases_sublist_line`, `line_of_way_subset`): a line has
  the classes that its class descends from, each once, with the bases of all of them in order, and
  a line found on a way is found on every shorter one. The key is `not_mem_way_of_mem_line`: no class
  of a line stands on the way to it, so that a line exists only below no cycle
  (`not_onCycle_of_mem_line`).
* **Failure** (`exists_onCycle_of_line`): a cycle is reported only where there is one.
* **Depth** (`line_eq_of_depth`): a way repeats no class, so that a depth beyond the number of
  classes is never used up.

What is found depends on neither the depth nor the way: a class has one line (`HasLine.unique`), whatever
the depth, and on every way that meets no class of it (`line_of_disjoint`). So the lines of a graph can be
spoken of as such, and a class has a line iff its bases have lines that merge (`hasLine_iff`). That the
class does not come again in these lines needs not be said: a class on a cycle would be in the line of one
of its bases, which has none then.
-/

namespace FluentBuilder.Lineage

variable {α : Type} {bases : α → List α}

/-! ### Descent -/

/-- The second class is a base of the first one. -/
def IsBase (bases : α → List α) (cls base : α) : Prop := base ∈ bases cls

/-- The first class is the second one, or descends from it. -/
abbrev Descends (bases : α → List α) : α → α → Prop := Relation.ReflTransGen (IsBase bases)

/-- The class descends from itself. -/
def OnCycle (bases : α → List α) (cls : α) : Prop := Relation.TransGen (IsBase bases) cls cls

/-- What a class descends from, it is or one of its bases descends from. -/
theorem descends_iff {cls x : α} :
    Descends bases cls x ↔ x = cls ∨ ∃ base ∈ bases cls, Descends bases base x :=
  Relation.ReflTransGen.cases_head_iff.trans (or_congr_left eq_comm)

variable [DecidableEq α]

/-- One level of a line. -/
theorem line_succ (bases : α → List α) (depth : Nat) (way : List α) (cls : α) (own : List α) :
    line bases (depth + 1) way cls own =
      if cls ∈ way then .error (.cycle (way ++ [cls]))
      else (own.mapM fun base => line bases depth (way ++ [cls]) base (bases base)).bind fun lines =>
        match merge (lines ++ [own]) with
        | some merged => .ok (cls :: merged)
        | none => .error .inconsistent :=
  rfl

/-! ### Success -/

/-- A line that is found: the class is not on the way, its bases have lines with the class on theirs,
and these merge with the bases. -/
theorem line_eq_ok {depth : Nat} {way : List α} {cls : α} {own l : List α}
    (h : line bases depth way cls own = .ok l) :
    ∃ below lines merged, depth = below + 1 ∧ cls ∉ way ∧
      List.Forall₂ (fun base found => line bases below (way ++ [cls]) base (bases base) = .ok found)
        own lines ∧
      merge (lines ++ [own]) = some merged ∧ l = cls :: merged := by
  cases depth with
  | zero => cases h
  | succ below =>
    rw [line_succ] at h
    split at h
    · cases h
    · next hway =>
      cases hlines : own.mapM fun base => line bases below (way ++ [cls]) base (bases base) with
      | error fault =>
        rw [hlines] at h
        cases h
      | ok lines =>
        simp only [hlines, Except.bind] at h
        split at h
        · next merged hmerge =>
          exact ⟨below, lines, merged, rfl, hway, Outcome.mapM_eq_ok_iff.mp hlines, hmerge,
            (Except.ok.inj h).symm⟩
        · cases h

/-- A line begins with its class. -/
theorem line_eq_cons {depth : Nat} {way : List α} {cls : α} {own l : List α}
    (h : line bases depth way cls own = .ok l) : l = cls :: l.tail := by
  obtain ⟨_, _, _, _, _, _, _, rfl⟩ := line_eq_ok h
  rfl

/-- A base has a line of its own, with the class on its way, and the line of the class keeps the order
of that line. -/
theorem line_of_mem_bases {depth : Nat} {way : List α} {cls base : α} {l : List α}
    (h : line bases depth way cls (bases cls) = .ok l) (hbase : base ∈ bases cls) :
    ∃ below found, depth = below + 1 ∧
      line bases below (way ++ [cls]) base (bases base) = .ok found ∧ found.Sublist l := by
  obtain ⟨below, lines, merged, hdepth, -, hlines, hmerge, rfl⟩ := line_eq_ok h
  obtain ⟨found, hfound, hline⟩ := Outcome.exists_of_mem_left hlines hbase
  exact ⟨below, found, hdepth, hline,
    (sublist_merge hmerge (List.mem_append_left _ hfound)).cons cls⟩

/-- What follows the class in its line stands in the line of a base. -/
theorem exists_of_mem_tail_line {depth : Nat} {way : List α} {cls x : α} {l : List α}
    (h : line bases depth way cls (bases cls) = .ok l) (hx : x ∈ l.tail) :
    ∃ below base found, depth = below + 1 ∧ base ∈ bases cls ∧
      line bases below (way ++ [cls]) base (bases base) = .ok found ∧ x ∈ found := by
  obtain ⟨below, lines, merged, hdepth, -, hlines, hmerge, rfl⟩ := line_eq_ok h
  obtain ⟨list, hlist, hx⟩ := (mem_merge hmerge).mp hx
  rcases List.mem_append.mp hlist with hfound | hown
  · obtain ⟨base, hbase, hline⟩ := Outcome.exists_of_mem_right hlines hfound
    exact ⟨below, base, list, hdepth, hbase, hline, hx⟩
  · -- A base begins its own line.
    obtain rfl := List.mem_singleton.mp hown
    obtain ⟨found, -, hline⟩ := Outcome.exists_of_mem_left hlines hx
    refine ⟨below, x, found, hdepth, hx, hline, ?_⟩
    rw [line_eq_cons hline]
    exact List.mem_cons_self

/-- A class of a line is the class that the line is of, or stands in the line of a base. -/
theorem eq_or_exists_of_mem_line {depth : Nat} {way : List α} {cls x : α} {l : List α}
    (h : line bases depth way cls (bases cls) = .ok l) (hx : x ∈ l) :
    x = cls ∨ ∃ below base found, depth = below + 1 ∧ base ∈ bases cls ∧
      line bases below (way ++ [cls]) base (bases base) = .ok found ∧ x ∈ found := by
  rw [line_eq_cons h] at hx
  rcases List.mem_cons.mp hx with rfl | hx
  · exact Or.inl rfl
  · exact Or.inr (exists_of_mem_tail_line h hx)

/-- **No class of a line stands on the way to it.** -/
theorem not_mem_way_of_mem_line {depth : Nat} {way : List α} {cls x : α} {l : List α}
    (h : line bases depth way cls (bases cls) = .ok l) (hx : x ∈ l) : x ∉ way := by
  induction depth generalizing way cls l with
  | zero => cases h
  | succ depth ih =>
    rcases eq_or_exists_of_mem_line h hx with rfl | ⟨below, base, found, hdepth, -, hfound, hx⟩
    · obtain ⟨_, _, _, _, hway, _⟩ := line_eq_ok h
      exact hway
    · obtain rfl := Nat.succ.inj hdepth
      exact fun hmem => ih hfound hx (List.mem_append_left _ hmem)

/-- **The classes of a line are those that its class descends from.** -/
theorem mem_line_iff {depth : Nat} {way : List α} {cls x : α} {l : List α}
    (h : line bases depth way cls (bases cls) = .ok l) : x ∈ l ↔ Descends bases cls x := by
  induction depth generalizing way cls l with
  | zero => cases h
  | succ depth ih =>
    rw [descends_iff]
    constructor
    · intro hx
      rcases eq_or_exists_of_mem_line h hx with rfl | ⟨below, base, found, hdepth, hbase, hfound, hx⟩
      · exact Or.inl rfl
      · obtain rfl := Nat.succ.inj hdepth
        exact Or.inr ⟨base, hbase, (ih hfound).mp hx⟩
    · rintro (rfl | ⟨base, hbase, hx⟩)
      · obtain ⟨_, _, _, _, _, _, _, rfl⟩ := line_eq_ok h
        exact List.mem_cons_self
      · obtain ⟨below, found, hdepth, hfound, hsub⟩ := line_of_mem_bases h hbase
        obtain rfl := Nat.succ.inj hdepth
        exact hsub.subset ((ih hfound).mpr hx)

/-- **A line has every class once.** -/
theorem line_nodup {depth : Nat} {way : List α} {cls : α} {l : List α}
    (h : line bases depth way cls (bases cls) = .ok l) : l.Nodup := by
  obtain ⟨below, lines, merged, -, -, hlines, hmerge, rfl⟩ := line_eq_ok h
  refine List.nodup_cons.mpr ⟨fun hmem => ?_, merge_nodup hmerge⟩
  -- A second time the class would stand in the line of a base, and on the way to that line.
  obtain ⟨_, base, found, -, -, hfound, hcls⟩ := exists_of_mem_tail_line h hmem
  exact not_mem_way_of_mem_line hfound hcls (List.mem_append_right _ List.mem_cons_self)

/-- **No class of a line lies on a cycle.** -/
theorem not_onCycle_of_mem_line {depth : Nat} {way : List α} {cls x : α} {l : List α}
    (h : line bases depth way cls (bases cls) = .ok l) (hx : x ∈ l) : ¬ OnCycle bases x := by
  induction depth generalizing way cls l with
  | zero => cases h
  | succ depth ih =>
    rcases eq_or_exists_of_mem_line h hx with rfl | ⟨below, base, found, hdepth, -, hfound, hx⟩
    · intro hcycle
      obtain ⟨base, hbase, hback⟩ := Relation.TransGen.head'_iff.mp hcycle
      obtain ⟨below, found, -, hfound, -⟩ := line_of_mem_bases h hbase
      have hmem := (mem_line_iff hfound).mpr hback
      exact not_mem_way_of_mem_line hfound hmem (List.mem_append_right _ List.mem_cons_self)
    · obtain rfl := Nat.succ.inj hdepth
      exact ih hfound hx

/-- **The bases of every class of a line stand in it in order.** -/
theorem bases_sublist_line {depth : Nat} {way : List α} {cls x : α} {l : List α}
    (h : line bases depth way cls (bases cls) = .ok l) (hx : x ∈ l) : (bases x).Sublist l := by
  induction depth generalizing way cls l with
  | zero => cases h
  | succ depth ih =>
    rcases eq_or_exists_of_mem_line h hx with rfl | ⟨below, base, found, hdepth, hbase, hfound, hx⟩
    · obtain ⟨_, lines, merged, _, _, _, hmerge, rfl⟩ := line_eq_ok h
      have hmem : bases x ∈ lines ++ [bases x] := List.mem_append_right _ List.mem_cons_self
      exact (sublist_merge hmerge hmem).cons x
    · obtain ⟨below', found', hdepth', hfound', hsub⟩ := line_of_mem_bases h hbase
      obtain rfl := Nat.succ.inj hdepth
      obtain rfl := Nat.succ.inj hdepth'
      obtain rfl := Except.ok.inj (hfound.symm.trans hfound')
      exact (ih hfound hx).trans hsub

/-- **A line that is found on a way is found on every part of the way, and with more depth.** -/
theorem line_of_way_subset {depth more : Nat} {way shorter : List α} {cls : α} {own l : List α}
    (h : line bases depth way cls own = .ok l) (hway : shorter ⊆ way) (hdepth : depth ≤ more) :
    line bases more shorter cls own = .ok l := by
  induction depth generalizing more way shorter cls own l with
  | zero => cases h
  | succ depth ih =>
    obtain ⟨below, lines, merged, hbelow, hcls, hlines, hmerge, rfl⟩ := line_eq_ok h
    obtain rfl := Nat.succ.inj hbelow
    obtain ⟨more, rfl⟩ : ∃ n, more = n + 1 := ⟨more - 1, by omega⟩
    have hfound : own.mapM (fun base => line bases more (shorter ++ [cls]) base (bases base))
        = .ok lines := by
      refine Outcome.mapM_eq_ok_iff.mpr (hlines.imp fun base found hbase => ?_)
      refine ih hbase (List.append_subset.mpr ⟨?_, List.subset_append_right way [cls]⟩) (by omega)
      exact List.Subset.trans hway (List.subset_append_left way [cls])
    rw [line_succ, if_neg fun hmem => hcls (hway hmem), hfound]
    simp only [Except.bind, hmerge]

/-! ### What a line stays among -/

section among

/- Classes that lead only to each other, and to which the bases of a class belong. -/
variable {P : α → Prop} (hclosed : ∀ x, P x → ∀ base ∈ bases x, P base) {depth : Nat} {way own l : List α}
variable {cls : α} (hown : ∀ base ∈ own, P base)

include hclosed hown

/-- What follows the class in its line is among them. -/
theorem forall_mem_tail_line (h : line bases depth way cls own = .ok l) : ∀ x ∈ l.tail, P x := by
  induction depth generalizing way cls own l with
  | zero => cases h
  | succ depth ih =>
    obtain ⟨below, lines, merged, hbelow, -, hlines, hmerge, rfl⟩ := line_eq_ok h
    obtain rfl := Nat.succ.inj hbelow
    intro x hx
    obtain ⟨list, hlist, hx⟩ := (mem_merge hmerge).mp hx
    rcases List.mem_append.mp hlist with hfound | hlast
    · obtain ⟨base, hbase, hline⟩ := Outcome.exists_of_mem_right hlines hfound
      rw [line_eq_cons hline] at hx
      rcases List.mem_cons.mp hx with rfl | hx
      · exact hown x hbase
      · exact ih (hclosed base (hown base hbase)) hline x hx
    · exact hown x (List.mem_singleton.mp hlast ▸ hx)

/-- The line is the same where these have the same bases. -/
theorem line_congr {other : α → List α} (hsame : ∀ x, P x → other x = bases x) :
    line other depth way cls own = line bases depth way cls own := by
  induction depth generalizing way cls own with
  | zero => rfl
  | succ depth ih =>
    have hlines : own.mapM (fun base => line other depth (way ++ [cls]) base (other base)) =
        own.mapM fun base => line bases depth (way ++ [cls]) base (bases base) := by
      refine Outcome.mapM_congr fun base hbase => ?_
      rw [hsame base (hown base hbase)]
      exact ih (hclosed base (hown base hbase))
    rw [line_succ, line_succ, hlines]

end among

/-! ### Depth and failure -/

section depth

/- Finitely many classes, with the bases of all of them among them, and a way that repeats none of
them and leaves a depth for every class that is not on it. -/
variable {classes way own : List α} {cls : α} {depth : Nat}

omit [DecidableEq α] in
/-- The depth is not used up while a way can go on. -/
theorem depth_ne_zero (hnodup : way.Nodup) (hway : way ⊆ classes)
    (hdepth : classes.length < depth + way.length) : depth ≠ 0 := by
  have hlength : way.length ≤ classes.length := (hnodup.subperm hway).length_le
  omega

omit [DecidableEq α] in
/-- A way goes on over a class that is not on it. -/
theorem nodup_append_singleton (hnodup : way.Nodup) (hfresh : cls ∉ way) :
    (way ++ [cls]).Nodup := by
  refine List.nodup_append.mpr ⟨hnodup, List.nodup_singleton cls, ?_⟩
  rintro x hx y hy rfl
  exact hfresh (List.mem_singleton.mp hy ▸ hx)

omit [DecidableEq α] in
/-- A way among some classes goes on among them. -/
theorem append_singleton_subset (hway : way ⊆ classes) (hcls : cls ∈ classes) :
    way ++ [cls] ⊆ classes :=
  List.append_subset.mpr ⟨hway, List.cons_subset.mpr ⟨hcls, List.nil_subset classes⟩⟩

variable (hbases : ∀ cls, bases cls ⊆ classes)

include hbases

/-- **More depth than there are classes changes nothing.** -/
theorem line_eq_of_depth (hnodup : way.Nodup) (hway : way ⊆ classes) (hcls : cls ∈ classes)
    (hown : own ⊆ classes) (hdepth : classes.length < depth + way.length) (extra : Nat) :
    line bases (depth + extra) way cls own = line bases depth way cls own := by
  induction depth generalizing way cls own with
  | zero => exact absurd rfl (depth_ne_zero hnodup hway hdepth)
  | succ depth ih =>
    rw [Nat.add_right_comm, line_succ, line_succ]
    split
    · rfl
    · next hfresh =>
      have hloop : own.mapM (fun base =>
            line bases (depth + extra) (way ++ [cls]) base (bases base))
          = own.mapM fun base => line bases depth (way ++ [cls]) base (bases base) := by
        refine Outcome.mapM_congr fun base hbase => ?_
        refine ih (nodup_append_singleton hnodup hfresh) (append_singleton_subset hway hcls)
          (hown hbase) (hbases base) ?_
        rw [List.length_append, List.length_singleton]
        omega
      rw [hloop]

/-- **A cycle is reported only where there is one**: at a class that the class descends from. That a
class of the way comes again closes a cycle, since all of them lead to the class at which the way has
arrived. -/
theorem exists_onCycle_of_line {reported : List α} (hnodup : way.Nodup) (hway : way ⊆ classes)
    (hcls : cls ∈ classes) (hdepth : classes.length < depth + way.length)
    (hleads : ∀ x ∈ way, Relation.TransGen (IsBase bases) x cls)
    (h : line bases depth way cls (bases cls) = .error (.cycle reported)) :
    ∃ x, Descends bases cls x ∧ OnCycle bases x := by
  induction depth generalizing way cls with
  | zero => exact absurd rfl (depth_ne_zero hnodup hway hdepth)
  | succ depth ih =>
    rw [line_succ] at h
    split at h
    · next hmem => exact ⟨cls, Relation.ReflTransGen.refl, hleads cls hmem⟩
    · next hfresh =>
      cases hlines : (bases cls).mapM fun base =>
          line bases depth (way ++ [cls]) base (bases base) with
      | ok lines =>
        simp only [hlines, Except.bind] at h
        split at h <;> cases h
      | error fault =>
        rw [hlines] at h
        obtain rfl : fault = .cycle reported := Except.error.inj h
        obtain ⟨base, hbase, hfault⟩ := Outcome.exists_of_mapM_eq_error hlines
        have hlonger : ∀ x ∈ way ++ [cls], Relation.TransGen (IsBase bases) x base := by
          intro x hx
          rcases List.mem_append.mp hx with hx | hx
          · exact (hleads x hx).tail hbase
          · exact List.mem_singleton.mp hx ▸ Relation.TransGen.single hbase
        obtain ⟨x, hx, hcycle⟩ := ih (nodup_append_singleton hnodup hfresh)
          (append_singleton_subset hway hcls) (hbases cls hbase)
          (by rw [List.length_append, List.length_singleton]; omega) hlonger hfault
        exact ⟨x, hx.head hbase, hcycle⟩

end depth

/-! ### The line of a class -/

section

variable {cls x : α} {l l' : List α}

/-- The class has a line. -/
def HasLine (bases : α → List α) (cls : α) (l : List α) : Prop :=
  ∃ depth, line bases depth [] cls (bases cls) = .ok l

namespace HasLine

/-- The classes of the line are those that the class descends from. -/
theorem mem_iff (h : HasLine bases cls l) : x ∈ l ↔ Descends bases cls x := by
  obtain ⟨depth, hline⟩ := h
  exact mem_line_iff hline

/-- The line has every class once. -/
theorem nodup (h : HasLine bases cls l) : l.Nodup := by
  obtain ⟨depth, hline⟩ := h
  exact line_nodup hline

/-- A class has one line. -/
theorem unique (h : HasLine bases cls l) (h' : HasLine bases cls l') : l = l' := by
  obtain ⟨depth, hline⟩ := h
  obtain ⟨depth', hline'⟩ := h'
  have hmore := line_of_way_subset hline (List.nil_subset []) (Nat.le_max_left depth depth')
  have hmore' := line_of_way_subset hline' (List.nil_subset []) (Nat.le_max_right depth depth')
  exact Except.ok.inj (hmore.symm.trans hmore')

/-- Classes have one list of lines. -/
theorem unique_forall₂ {classes : List α} {lines lines' : List (List α)}
    (h : List.Forall₂ (HasLine bases) classes lines)
    (h' : List.Forall₂ (HasLine bases) classes lines') : lines = lines' := by
  induction h generalizing lines' with
  | nil => exact (List.forall₂_nil_left_iff.mp h').symm
  | cons hline _ ih =>
    obtain ⟨l', rest', hline', hrest', rfl⟩ := List.forall₂_cons_left_iff.mp h'
    rw [hline.unique hline', ih hrest']

end HasLine

/-! ### Ways and depths -/

/-- A line is found on every way that meets no class of it. -/
theorem line_of_disjoint {depth : Nat} {way other : List α}
    (h : line bases depth way cls (bases cls) = .ok l) (hother : ∀ x ∈ l, x ∉ other) :
    line bases depth other cls (bases cls) = .ok l := by
  induction depth generalizing way other cls l with
  | zero => cases h
  | succ depth ih =>
    obtain ⟨below, lines, merged, hbelow, -, hlines, hmerge, rfl⟩ := line_eq_ok h
    obtain rfl := Nat.succ.inj hbelow
    have hfound : (bases cls).mapM (fun base => line bases depth (other ++ [cls]) base (bases base))
        = .ok lines := by
      refine Outcome.mapM_eq_ok_iff.mpr (Outcome.imp_of_mem (fun base _ found hmem hbase => ?_) hlines)
      refine ih hbase fun x hx hway => ?_
      -- The classes of the line of a base are in the line of the class, and not on the way to it.
      rcases List.mem_append.mp hway with hx' | hx'
      · have hin := (mem_merge hmerge).mpr ⟨found, List.mem_append_left _ hmem, hx⟩
        exact hother x (List.mem_cons_of_mem cls hin) hx'
      · exact not_mem_way_of_mem_line hbase hx (List.mem_append_right way hx')
    rw [line_succ, if_neg (hother cls List.mem_cons_self), hfound]
    simp only [Except.bind, hmerge]

/-- Some depth suffices for the lines of several classes. -/
theorem exists_depth {classes : List α} {lines : List (List α)}
    (h : List.Forall₂ (HasLine bases) classes lines) :
    ∃ depth, List.Forall₂ (fun base found => line bases depth [] base (bases base) = .ok found)
      classes lines := by
  induction h with
  | nil => exact ⟨0, .nil⟩
  | cons hline _ ih =>
    obtain ⟨depth, hdepth⟩ := hline
    obtain ⟨more, hmore⟩ := ih
    refine ⟨max depth more, .cons ?_ (hmore.imp fun base found hbase => ?_)⟩
    · exact line_of_way_subset hdepth (List.nil_subset []) (Nat.le_max_left depth more)
    · exact line_of_way_subset hbase (List.nil_subset []) (Nat.le_max_right depth more)

/-- **A class has a line iff its bases have lines that merge with the list of the bases.** -/
theorem hasLine_iff : HasLine bases cls l ↔ ∃ lines merged,
    List.Forall₂ (HasLine bases) (bases cls) lines ∧ Merges (lines ++ [bases cls]) merged ∧
      l = cls :: merged := by
  constructor
  · rintro ⟨depth, hline⟩
    obtain ⟨below, lines, merged, -, -, hlines, hmerge, rfl⟩ := line_eq_ok hline
    refine ⟨lines, merged, hlines.imp fun base found hbase => ?_, merge_eq_some_iff.mp hmerge, rfl⟩
    exact ⟨below, line_of_way_subset hbase (List.nil_subset _) (Nat.le_refl below)⟩
  · rintro ⟨lines, merged, hlines, hmerges, rfl⟩
    obtain ⟨depth, hdepth⟩ := exists_depth hlines
    have hfound : (bases cls).mapM (fun base => line bases depth ([] ++ [cls]) base (bases base))
        = .ok lines := by
      refine Outcome.mapM_eq_ok_iff.mpr (Outcome.imp_of_mem (fun base hbase found _ hline => ?_) hdepth)
      refine line_of_disjoint hline fun x hx hcls => ?_
      obtain rfl := List.mem_singleton.mp hcls
      have hcycle : OnCycle bases x := Relation.TransGen.head' hbase ((mem_line_iff hline).mp hx)
      exact not_onCycle_of_mem_line hline hx hcycle
    refine ⟨depth + 1, ?_⟩
    rw [line_succ, if_neg List.not_mem_nil, hfound]
    simp only [Except.bind, merge_eq_some_iff.mpr hmerges]

/-- A class that a class with a line descends from has a line, which is part of the line of the other. -/
theorem HasLine.exists_of_descends (h : HasLine bases cls l) (hx : Descends bases cls x) :
    ∃ found, HasLine bases x found ∧ found.Sublist l := by
  induction hx using Relation.ReflTransGen.head_induction_on generalizing l with
  | refl => exact ⟨l, h, List.Sublist.refl l⟩
  | @head cls base hbase _ ih =>
    obtain ⟨lines, merged, hlines, hmerges, rfl⟩ := hasLine_iff.mp h
    obtain ⟨list, hlist, hline⟩ := Outcome.exists_of_mem_left hlines hbase
    obtain ⟨found, hfound, hsub⟩ := ih hline
    exact ⟨found, hfound,
      hsub.trans ((hmerges.sublist (List.mem_append_left _ hlist)).cons cls)⟩

end

end FluentBuilder.Lineage
