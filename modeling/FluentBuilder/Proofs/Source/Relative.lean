import Mathlib
import FluentBuilder.Proofs.Source.Split
import FluentBuilder.Source.Reading

/-!
# How far up a relative import goes

A relative import of level one starts from the package of its module, and each further level should go up
by one segment (`outerPackage`), to the empty name once there is none left. It does up to there. One level
further, the end up to which segments are kept becomes negative, so that it is counted from the other end
and most of the package comes back: `Overshoots` says of which packages and levels this is so, and
`relative_import_iff` that it is so of no others. The names that a module imports from too far up are then
placed in a package that encloses it.

**The route.** The base of every level is the join of the first segments of the package
(`ancestorPackage_of_le`, `ancestorPackage_of_lt`), and the join of fewer first segments leads to that of
more (`Dotted.leads_take`). A base that should be empty and is not shows in the source of the import
(`importSource_eq_iff`), and thereby in the name that is imported (`Dotted.within_left_inj`).
-/

namespace FluentBuilder

namespace Dotted

/-! ### What leads to a name -/

/-- One name is a dotted prefix of another one: it is the other one or encloses it, or it is empty. -/
def Leads (outer name : String) : Prop := outer = "" ∨ outer = name ∨ Encloses outer name

instance (outer name : String) : Decidable (Leads outer name) :=
  inferInstanceAs (Decidable (outer = "" ∨ outer = name ∨ Encloses outer name))

/-- Only the empty name leads to the empty one. -/
theorem leads_empty_iff {outer : String} : Leads outer "" ↔ outer = "" := by
  have hnone : ¬ Encloses outer "" := not_encloses_of_not_mem (by simp)
  simp [Leads, hnone]

/-- **The first segments lead to more of them.** -/
theorem leads_take (segments : List String) {short long : Nat} (h : short ≤ long) :
    Leads (join (segments.take short)) (join (segments.take long)) := by
  obtain ⟨between, hlong⟩ : segments.take short <+: segments.take long :=
    List.take_prefix_take_left h
  rw [← hlong]
  by_cases hshort : segments.take short = []
  · rw [hshort]
    exact .inl rfl
  by_cases hbetween : between = []
  · rw [hbetween, List.append_nil]
    exact .inr (.inl rfl)
  · exact .inr (.inr ⟨join between, join_append hshort hbetween⟩)

/-- A name with a point in it is longer than what follows the point. -/
theorem append_point_ne (outer name : String) : outer ++ "." ++ name ≠ name := by
  intro h
  have hlength := congrArg (List.length ∘ String.toList) h
  rw [Function.comp_apply, toList_append_point, List.length_append, List.length_cons,
    Function.comp_apply] at hlength
  omega

/-- Segments write the empty name only if there are none, or a single empty one. -/
theorem join_eq_empty_iff {segments : List String} :
    join segments = "" ↔ segments = [] ∨ segments = [""] := by
  cases segments with
  | nil => exact iff_of_true rfl (.inl rfl)
  | cons first rest =>
    by_cases hrest : rest = []
    · simp [hrest, join_singleton]
    · have hpoint : (join (first :: rest)).toList ≠ [] := by
        rw [join_cons first hrest, toList_append_point]
        exact List.append_ne_nil_of_right_ne_nil _ (List.cons_ne_nil '.' _)
      simpa [hrest] using hpoint

/-- Names in two packages are the same only if the packages are. -/
theorem within_left_inj {outer other name : String} :
    within outer name = within other name ↔ outer = other := by
  refine ⟨fun h => ?_, congrArg (within · name)⟩
  rw [within, within] at h
  split at h <;> split at h
  · next houter hother => rw [String.isEmpty_iff.mp houter, String.isEmpty_iff.mp hother]
  · exact absurd h.symm (append_point_ne other name)
  · exact absurd h (append_point_ne outer name)
  · have hchars := congrArg String.toList h
    rw [toList_append_point, toList_append_point] at hchars
    exact String.toList_inj.mp (List.append_cancel_right hchars)

/-- What leads to a name that is not empty encloses all that is within it. -/
theorem encloses_within_of_leads {outer middle inner : String} (houter : outer ≠ "")
    (h : Leads outer middle) : Encloses outer (within middle inner) := by
  have hmiddle : middle ≠ "" := fun hempty => houter (leads_empty_iff.mp (hempty ▸ h))
  rw [within, if_neg (mt String.isEmpty_iff.mp hmiddle)]
  rcases h with hempty | rfl | ⟨rest, rfl⟩
  · exact absurd hempty houter
  · exact ⟨inner, rfl⟩
  · exact ⟨rest ++ "." ++ inner, by simp only [String.append_assoc]⟩

end Dotted

namespace Source

open Syntax

/-! ### Bases -/

/-- The segments of a package; the package of a module at the top has none. -/
def packageSegments (package : String) : List String :=
  if package.isEmpty then [] else Dotted.segments package

/-- The package without its last segments. -/
def outerPackage (package : String) (up : Nat) : String :=
  Dotted.join ((packageSegments package).rdrop up)

/-- Going up by so many segments, beyond all segments of the package, is to come back to some of its
first segments: to as many as there are twice, less the segments to go up by. -/
structure Overshoots (package : String) (up : Nat) : Prop where
  /-- There are not so many segments. -/
  beyond : (packageSegments package).length < up
  /-- But there are more than half of them. -/
  within : up < 2 * (packageSegments package).length
  /-- A single segment to come back to is not empty. -/
  named : up + 1 = 2 * (packageSegments package).length → (packageSegments package).head? ≠ some ""

instance (package : String) (up : Nat) : Decidable (Overshoots package up) :=
  decidable_of_iff
    ((packageSegments package).length < up ∧ up < 2 * (packageSegments package).length ∧
      (up + 1 = 2 * (packageSegments package).length → (packageSegments package).head? ≠ some ""))
    ⟨fun ⟨hbeyond, hwithin, hnamed⟩ => ⟨hbeyond, hwithin, hnamed⟩,
      fun h => ⟨h.beyond, h.within, h.named⟩⟩

namespace Module

variable {package : String} {up : Nat}

/-- A package is the join of its segments. -/
theorem join_packageSegments (package : String) :
    Dotted.join (packageSegments package) = package := by
  rw [packageSegments]
  split
  · next hempty => exact (String.isEmpty_iff.mp hempty).symm
  · exact Dotted.join_segments package

/-- The base of a level is the join of the first segments. -/
theorem ancestorPackage_succ (package : String) (up : Nat) :
    ancestorPackage package (up + 1) =
      Dotted.join ((packageSegments package).take
        (if up ≤ (packageSegments package).length then (packageSegments package).length - up
          else (packageSegments package).length - (up - (packageSegments package).length))) := rfl

/-- The base of a level that there are segments enough for. -/
theorem ancestorPackage_of_le (h : up ≤ (packageSegments package).length) :
    ancestorPackage package (up + 1) =
      Dotted.join ((packageSegments package).take ((packageSegments package).length - up)) := by
  rw [ancestorPackage_succ, if_pos h]

/-- The base of a level that there are not segments enough for. -/
theorem ancestorPackage_of_lt (h : (packageSegments package).length < up) :
    ancestorPackage package (up + 1) =
      Dotted.join ((packageSegments package).take (2 * (packageSegments package).length - up)) := by
  have hkept : (packageSegments package).length - (up - (packageSegments package).length) =
      2 * (packageSegments package).length - up := by omega
  rw [ancestorPackage_succ, if_neg (by omega), hkept]

/-- Beyond all segments nothing should be left. -/
theorem outerPackage_of_ge (h : (packageSegments package).length ≤ up) :
    outerPackage package up = "" := by
  rw [outerPackage, List.rdrop, Nat.sub_eq_zero_of_le h, List.take_zero]
  rfl

/-- What is left beyond all segments, if anything is. -/
theorem ancestorPackage_eq_empty_iff (h : (packageSegments package).length ≤ up) :
    ancestorPackage package (up + 1) = "" ↔ ¬ Overshoots package up := by
  rcases Nat.eq_or_lt_of_le h with heq | hlt
  · have hnone : ¬ Overshoots package up := fun hover => absurd hover.beyond (by omega)
    rw [ancestorPackage_of_le (by omega), heq, Nat.sub_self, List.take_zero]
    exact iff_of_true rfl hnone
  have hhead := List.head?_take (l := packageSegments package)
    (i := 2 * (packageSegments package).length - up)
  have hlength := List.length_take (l := packageSegments package)
    (i := 2 * (packageSegments package).length - up)
  rw [ancestorPackage_of_lt hlt, Dotted.join_eq_empty_iff]
  constructor
  · rintro hleft hover
    have hwithin := hover.within
    rcases hleft with hnil | hsingle
    · rw [hnil, List.length_nil] at hlength
      omega
    · rw [hsingle, List.length_singleton] at hlength
      rw [hsingle, if_neg (by omega)] at hhead
      exact hover.named (by omega) hhead.symm
  · intro hnot
    by_cases hwithin : up < 2 * (packageSegments package).length
    · -- A single segment comes back, and it is empty.
      obtain ⟨hone, hempty⟩ : up + 1 = 2 * (packageSegments package).length ∧
          (packageSegments package).head? = some "" := by
        by_contra hnamed
        exact hnot ⟨hlt, hwithin, fun hone hempty => hnamed ⟨hone, hempty⟩⟩
      right
      rw [if_neg (by omega), hempty] at hhead
      obtain ⟨rest, hrest⟩ := List.head?_eq_some_iff.mp hhead
      rw [hrest, List.length_cons] at hlength
      rw [hrest, List.eq_nil_of_length_eq_zero (by omega : rest.length = 0)]
    · left
      rw [Nat.sub_eq_zero_of_le (by omega), List.take_zero]

/-- **The base of a level is the package without its last segments**, unless it overshoots. -/
theorem ancestorPackage_eq_iff (package : String) (up : Nat) :
    ancestorPackage package (up + 1) = outerPackage package up ↔ ¬ Overshoots package up := by
  rcases Nat.le_total up (packageSegments package).length with hle | hge
  · refine iff_of_true (ancestorPackage_of_le hle) fun hover => ?_
    exact absurd hover.beyond (by omega)
  · rw [outerPackage_of_ge hge, ancestorPackage_eq_empty_iff hge]

/-- What comes back encloses the package. -/
theorem encloses_of_overshoots (h : Overshoots package up) :
    Dotted.Encloses (ancestorPackage package (up + 1)) package := by
  have hbeyond := h.beyond
  have hwithin := h.within
  obtain ⟨kept, hkept⟩ : ∃ kept, 2 * (packageSegments package).length - up = kept + 1 :=
    Nat.exists_eq_add_one_of_ne_zero (by omega)
  refine ⟨Dotted.join ((packageSegments package).drop (kept + 1)), ?_⟩
  rw [ancestorPackage_of_lt hbeyond, hkept, Dotted.join_take_append_drop (by omega),
    join_packageSegments]

/-- **Going up further leads to where one was**, unless it overshoots just there. -/
theorem leads_ancestorPackage_iff (package : String) (up : Nat) :
    Dotted.Leads (ancestorPackage package (up + 2)) (ancestorPackage package (up + 1)) ↔
      ¬ (up = (packageSegments package).length ∧ Overshoots package (up + 1)) := by
  rcases Nat.lt_trichotomy up (packageSegments package).length with hlt | heq | hgt
  · rw [ancestorPackage_of_le hlt, ancestorPackage_of_le (Nat.le_of_lt hlt)]
    exact iff_of_true (Dotted.leads_take _ (by omega)) fun h => absurd h.1 (by omega)
  · have hempty : ancestorPackage package (up + 1) = "" := by
      rw [ancestorPackage_of_le (by omega), heq, Nat.sub_self]
      rfl
    rw [hempty, Dotted.leads_empty_iff, ancestorPackage_eq_empty_iff (by omega)]
    simp [heq]
  · rw [ancestorPackage_of_lt (Nat.lt_succ_of_lt hgt), ancestorPackage_of_lt hgt]
    exact iff_of_true (Dotted.leads_take _ (by omega)) fun h => absurd h.1 (by omega)

/-! ### Names that are imported from further up -/

variable {m : Module} {target : Option String} {names : List Alias} {name qualified : String}

/-- An import has no other source than what it names itself only if its base is empty. -/
theorem importSource_eq_iff (m : Module) (target : Option String) (up : Nat) :
    m.importSource target (up + 1) = target.getD "" ↔ ancestorPackage m.package (up + 1) = "" := by
  rw [importSource, if_neg (Nat.succ_ne_zero up)]
  cases target with
  | none => rfl
  | some inner =>
    simp only [Option.getD_some]
    split
    · next hempty => rw [String.isEmpty_iff.mp hempty]
    rw [Dotted.within]
    split
    · next hbase => exact iff_of_true rfl (String.isEmpty_iff.mp hbase)
    · next hbase =>
      exact iff_of_false (Dotted.append_point_ne _ inner) fun h => hbase (String.isEmpty_iff.mpr h)

/-- The source of an import goes on from its base. -/
theorem leads_importSource (m : Module) (target : Option String) (up : Nat) :
    Dotted.Leads (ancestorPackage m.package (up + 1)) (m.importSource target (up + 1)) := by
  rw [importSource, if_neg (Nat.succ_ne_zero up)]
  cases target with
  | none => exact .inr (.inl rfl)
  | some inner =>
    dsimp only
    split
    · exact .inr (.inl rfl)
    rw [Dotted.within]
    split
    · next hbase => exact .inl (String.isEmpty_iff.mp hbase)
    · exact .inr (.inr ⟨inner, rfl⟩)

/-- What an import of names from a module brings in. -/
theorem mem_importsOf_importFrom {level : Nat} :
    (name, qualified) ∈ m.importsOf (.importFrom target names level) ↔
      ∃ a ∈ names, a.name ≠ "*" ∧ a.rename.getD a.name = name ∧
        Dotted.within (m.importSource target level) a.name = qualified := by
  simp [importsOf, and_assoc]

/-- What the table of imports has comes from a statement. -/
theorem exists_of_find?_imports (h : m.imports.find? name = some qualified) :
    ∃ s ∈ m.body, (name, qualified) ∈ m.importsOf s :=
  List.mem_flatMap.mp (Table.mem_of_mem_ofEntries (Table.mem_of_find? h))

/-- What is imported from too far up is named by the import alone, unless it overshoots. Then it stands in
the package that comes back. -/
theorem top_iff_of_mem_importsOf {up : Nat} (htop : (packageSegments m.package).length ≤ up)
    (h : (name, qualified) ∈ m.importsOf (.importFrom target names (up + 1))) :
    ∃ a ∈ names, a.rename.getD a.name = name ∧
      (qualified = Dotted.within (target.getD "") a.name ↔ ¬ Overshoots m.package up) ∧
      (Overshoots m.package up →
        Dotted.Encloses (ancestorPackage m.package (up + 1)) qualified) := by
  obtain ⟨a, ha, -, hname, rfl⟩ := mem_importsOf_importFrom.mp h
  refine ⟨a, ha, hname, ?_, fun hover => ?_⟩
  · rw [Dotted.within_left_inj, importSource_eq_iff, ancestorPackage_eq_empty_iff htop]
  · have hbase : ancestorPackage m.package (up + 1) ≠ "" :=
      fun hempty => (ancestorPackage_eq_empty_iff htop).mp hempty hover
    exact Dotted.encloses_within_of_leads hbase (leads_importSource m target up)

/-- **How far up relative imports go.** The base of a relative import is the package without as many of its
last segments as the level says, and the empty name if there are not so many, unless the level overshoots;
then it encloses the package. The base of a level leads to that of the level below it unless just the
former overshoots, as the first level beyond the segments. What the table of imports has from a level
beyond the segments is named by the import alone unless it overshoots; then it stands in the package that
comes back. -/
theorem relative_import_iff (m : Module) (up : Nat) :
    (ancestorPackage m.package (up + 1) = outerPackage m.package up ↔ ¬ Overshoots m.package up) ∧
    ((packageSegments m.package).length ≤ up → outerPackage m.package up = "") ∧
    (Overshoots m.package up → Dotted.Encloses (ancestorPackage m.package (up + 1)) m.package) ∧
    (Dotted.Leads (ancestorPackage m.package (up + 2)) (ancestorPackage m.package (up + 1)) ↔
      ¬ (up = (packageSegments m.package).length ∧ Overshoots m.package (up + 1))) ∧
    ∀ name qualified, m.imports.find? name = some qualified →
      ∃ s ∈ m.body, (name, qualified) ∈ m.importsOf s ∧
        ∀ target names, s = .importFrom target names (up + 1) →
          (packageSegments m.package).length ≤ up →
            ∃ a ∈ names, a.rename.getD a.name = name ∧
              (qualified = Dotted.within (target.getD "") a.name ↔ ¬ Overshoots m.package up) ∧
              (Overshoots m.package up →
                Dotted.Encloses (ancestorPackage m.package (up + 1)) qualified) := by
  refine ⟨ancestorPackage_eq_iff m.package up, outerPackage_of_ge, encloses_of_overshoots,
    leads_ancestorPackage_iff m.package up, fun name qualified hfound => ?_⟩
  obtain ⟨s, hs, hmem⟩ := exists_of_find?_imports hfound
  refine ⟨s, hs, hmem, fun target names heq htop => ?_⟩
  rw [heq] at hmem
  exact top_iff_of_mem_importsOf htop hmem

/-- A module in a package of two segments that imports from one level too many. -/
def steepText : String := "from ....x import y\n"

/-- The module. -/
def steepModule : Module :=
  ⟨"a.b.m", Path.ofText "a/b/m.py", false, [.importFrom (some "x") [⟨"y", none⟩] 4]⟩

/-- In a package of two segments the base of level three is what is left, and that of level four encloses
the package. -/
theorem ancestorPackage_of_steep :
    ancestorPackage steepModule.package 3 = outerPackage steepModule.package 2 ∧
      Dotted.Encloses (ancestorPackage steepModule.package 4) steepModule.package := by
  have htop := relative_import_iff steepModule 2
  have hbeyond := relative_import_iff steepModule 3
  exact ⟨htop.1.mpr (by decide), hbeyond.2.2.1 (by decide)⟩

/-- **A level too many comes back**: the base of level four is the outer package, although that of level
three is empty, and what is imported from there is placed in it. -/
theorem ancestorPackage_ne_of_steep :
    Tree.ofTexts (fun _ => none) [("a.b.m", steepText)] [] = .ok ⟨[("a.b.m", steepModule)]⟩ ∧
      outerPackage steepModule.package 3 = "" ∧ ancestorPackage steepModule.package 4 = "a" ∧
      ¬ Dotted.Leads (ancestorPackage steepModule.package 4) (ancestorPackage steepModule.package 3) ∧
      steepModule.imports.find? "y" = some "a.x.y" := by
  refine ⟨by cbv, ?_⟩
  decide

end Module
end Source
end FluentBuilder
