import FluentBuilder.Proofs.Session.Slots
import Mathlib.Data.List.Nodup

/-!
# Clashes of names inside a builder

The fields of an accepted class are looked at one by one, and each of them is a good name of a setter.
Two of them may still not go together, for the slot of a field is its name behind an underscore, and a
slot that would be private gets the name of the builder before it. So the slot of one field can be that
of another field (`Blueprint.SharesSlot`) or have the name of a setter (`Blueprint.CoversSetter`), and
some slots have the name of something that every builder has.

These are all the ways in which slots go wrong (`clashes_of_ofSchema`), but for the slots that every
object has and no builder can clear. A slot that is not private is the name of its field behind an
underscore. A private one goes on with the name of the builder, which begins with no underscore there,
so that it has no second underscore in front and is none of the names that every builder or every object
has.
-/

namespace FluentBuilder

variable {α : Type} {b : Blueprint} {m n : Member} {name : String}

/-! ### Private names -/

/-- Is a name private? It begins with two underscores and does not end with two. -/
def isPrivate (name : String) : Bool :=
  "__".toList.isPrefixOf name.toList && !("__".toList.isPrefixOf name.toList.reverse)

/-- The name of the builder as it stands in private names: without underscores in front. -/
def Blueprint.stem (b : Blueprint) : List Char := b.name.toList.dropWhile (· == '_')

/-- What stands before a private name inside the builder. -/
def Blueprint.privateMark (b : Blueprint) : String := "_" ++ String.ofList b.stem

/-- The name of a builder is more than underscores. -/
theorem stem_ne_nil {schema : Schema} (h : Blueprint.ofSchema schema = .ok b) : b.stem ≠ [] := by
  obtain ⟨-, hname, -⟩ := Schema.ofSchema_eq_ok h
  obtain ⟨c, rest, -, hchars⟩ := exists_toList_builderName schema.simpleName
  rw [Blueprint.stem, hname, ne_eq, List.dropWhile_eq_nil_iff, hchars]
  intro hall
  exact absurd (hall 'r' (List.mem_append_right _ List.mem_cons_self)) (by decide)

/-- A private name gets the mark of the builder, and any other name stays as it is. -/
theorem privateName_eq (hstem : b.stem ≠ []) (name : String) :
    privateName b.name name = if isPrivate name then b.privateMark ++ name else name := by
  have hfull : b.stem.isEmpty = false := List.isEmpty_eq_false_iff.mpr hstem
  have hname : privateName b.name name =
      if (isPrivate name && !b.stem.isEmpty) = true then b.privateMark ++ name else name := rfl
  rw [hname, hfull, Bool.not_false, Bool.and_true]

/-- A private name with its mark begins with one underscore only. -/
theorem isPrefixOf_privateMark (hstem : b.stem ≠ []) (name : String) :
    "__".toList.isPrefixOf (b.privateMark ++ name).toList = false := by
  rw [Blueprint.privateMark, String.append_assoc]
  refine isPrefixOf_underscore ?_
  have hfirst : (b.stem.head hstem == '_') = false :=
    List.head_dropWhile_not (· == '_') hstem
  rw [String.toList_append, String.toList_ofList, List.head?_append_of_ne_nil _ hstem,
    List.head?_eq_some_head hstem, ne_eq, Option.some.injEq]
  exact beq_eq_false_iff_ne.mp hfirst

/-! ### Slots -/

/-- A slot that would be private has the mark of the builder. -/
theorem slot_eq (hstem : b.stem ≠ []) (m : Member) :
    b.slot m = if isPrivate m.attribute then b.privateMark ++ m.attribute else m.attribute :=
  privateName_eq hstem m.attribute

/-- The slot of the first member is that of the second one, which is no private one. -/
def Blueprint.SharesSlot (b : Blueprint) (m n : Member) : Prop :=
  isPrivate m.attribute = true ∧ n.attribute = b.privateMark ++ m.attribute

/-- The slot of the first member has the name of the setter of the second one. -/
def Blueprint.CoversSetter (b : Blueprint) (m n : Member) : Prop :=
  (isPrivate m.attribute = false ∧ b.method n = m.attribute) ∨
    (isPrivate m.attribute = true ∧ b.method n = b.privateMark ++ m.attribute)

/-- Whether two members share a slot is decided by their names. -/
instance decidableSharesSlot (b : Blueprint) (m n : Member) : Decidable (b.SharesSlot m n) :=
  inferInstanceAs (Decidable (_ ∧ _))

/-- Whether a slot covers a setter is decided by the names of the members. -/
instance decidableCoversSetter (b : Blueprint) (m n : Member) : Decidable (b.CoversSetter m n) :=
  inferInstanceAs (Decidable (_ ∨ _))

/-- Of two members that share a slot the second one has no private one. -/
theorem Blueprint.SharesSlot.isPrivate_eq_false (hstem : b.stem ≠ []) (h : b.SharesSlot m n) :
    isPrivate n.attribute = false := by
  rw [h.2, isPrivate, isPrefixOf_privateMark hstem, Bool.false_and]

/-- Members share a slot iff they have one name or one of them has the other one's slot. -/
theorem slot_eq_slot_iff (hstem : b.stem ≠ []) :
    b.slot m = b.slot n ↔ m.name = n.name ∨ b.SharesSlot m n ∨ b.SharesSlot n m := by
  constructor
  · intro h
    rw [slot_eq hstem, slot_eq hstem] at h
    split at h
    · next hm =>
      split at h
      · exact .inl (attribute_inj (String.append_right_inj b.privateMark |>.mp h))
      · exact .inr (.inl ⟨hm, h.symm⟩)
    · split at h
      · next hn => exact .inr (.inr ⟨hn, h⟩)
      · exact .inl (attribute_inj h)
  · have hshared : ∀ {m n : Member}, b.SharesSlot m n → b.slot m = b.slot n := by
      intro m n h
      have hn := h.isPrivate_eq_false hstem
      rw [slot_eq hstem, slot_eq hstem, if_pos h.1, hn, if_neg Bool.false_ne_true, h.2]
    rintro (h | h | h)
    · rw [Blueprint.slot, Blueprint.slot, Member.attribute, Member.attribute, h]
    · exact hshared h
    · exact (hshared h).symm

/-- A slot has the name of a setter iff it covers it. -/
theorem slot_eq_method_iff (hstem : b.stem ≠ []) : b.slot m = b.method n ↔ b.CoversSetter m n := by
  rw [slot_eq hstem, Blueprint.CoversSetter]
  cases isPrivate m.attribute <;> simp [eq_comm]

/-- A slot is a name with two underscores in front and behind iff its member has that name without the
first one. -/
theorem slot_eq_underscore_iff (hstem : b.stem ≠ []) {rest : String}
    (htwice : "__".toList.isPrefixOf ("_" ++ rest).toList = true)
    (hfixed : isPrivate ("_" ++ rest) = false) : b.slot m = "_" ++ rest ↔ m.name = rest := by
  constructor
  · intro h
    rw [slot_eq hstem] at h
    split at h
    · rw [← h, isPrefixOf_privateMark hstem] at htwice
      cases htwice
    · exact String.append_right_inj "_" |>.mp h
  · rintro rfl
    rw [slot_eq hstem, Member.attribute, hfixed, if_neg Bool.false_ne_true]

/-- A slot begins with an underscore. -/
theorem head?_slot (hstem : b.stem ≠ []) (m : Member) : (b.slot m).toList.head? = some '_' := by
  rw [slot_eq hstem]
  split
  · rw [Blueprint.privateMark, String.append_assoc, toList_underscore, List.head?_cons]
  · rw [toList_attribute, List.head?_cons]

/-- A slot has the name of a method iff it covers a setter. -/
theorem slot_mem_methods_iff (hstem : b.stem ≠ []) :
    b.slot m ∈ b.methods ↔ ∃ n ∈ b.members, b.CoversSetter m n := by
  rw [Blueprint.methods, List.mem_eraseDups, List.mem_append, List.mem_map, List.mem_singleton]
  constructor
  · rintro (⟨n, hn, hmethod⟩ | hbuild)
    · exact ⟨n, hn, (slot_eq_method_iff hstem).mp hmethod.symm⟩
    · have hfirst := head?_slot hstem m
      rw [hbuild] at hfirst
      exact absurd hfirst (by decide)
  · rintro ⟨n, hn, hcovers⟩
    exact .inl ⟨n, hn, ((slot_eq_method_iff hstem).mpr hcovers).symm⟩

/-- A slot is one of some names with two underscores in front and behind iff its member has one of them
without the first underscore. -/
theorem slot_mem_map_iff (hstem : b.stem ≠ []) {rests : List String}
    (hrests : ∀ rest ∈ rests, "__".toList.isPrefixOf ("_" ++ rest).toList = true ∧
      isPrivate ("_" ++ rest) = false) : b.slot m ∈ rests.map ("_" ++ ·) ↔ m.name ∈ rests := by
  rw [List.mem_map]
  constructor
  · rintro ⟨rest, hrest, hslot⟩
    obtain ⟨htwice, hfixed⟩ := hrests rest hrest
    rw [(slot_eq_underscore_iff hstem htwice hfixed).mp hslot.symm]
    exact hrest
  · intro hrest
    obtain ⟨htwice, hfixed⟩ := hrests _ hrest
    exact ⟨m.name, hrest, ((slot_eq_underscore_iff hstem htwice hfixed).mpr rfl).symm⟩

/-- No slot is among such names or among the methods iff no field has one of the names without the first
underscore and no slot covers a setter. -/
theorem slots_not_mem_iff (hstem : b.stem ≠ []) {rests : List String}
    (hrests : ∀ rest ∈ rests, "__".toList.isPrefixOf ("_" ++ rest).toList = true ∧
      isPrivate ("_" ++ rest) = false) :
    (∀ m ∈ b.members, b.slot m ∉ rests.map ("_" ++ ·) ++ b.methods) ↔
      (∀ m ∈ b.members, m.name ∉ rests) ∧
        ∀ m ∈ b.members, ∀ n ∈ b.members, ¬ b.CoversSetter m n := by
  simp only [List.mem_append, slot_mem_map_iff hstem hrests, slot_mem_methods_iff hstem, not_or,
    not_exists, not_and]
  exact forall₂_and

/-- The slots of members with different names are different iff no two members share one. -/
theorem nodup_slots_iff (hstem : b.stem ≠ []) (hdistinct : (b.members.map (·.name)).Nodup) :
    (b.members.map b.slot).Nodup ↔
      ∀ m ∈ b.members, ∀ n ∈ b.members, ¬ b.SharesSlot m n := by
  rw [List.nodup_map_iff_inj_on hdistinct.of_map]
  constructor
  · intro hinj m hm n hn hshares
    obtain rfl := hinj m hm n hn ((slot_eq_slot_iff hstem).mpr (.inr (.inl hshares)))
    have hplain := hshares.isPrivate_eq_false hstem
    rw [hshares.1] at hplain
    cases hplain
  · intro hnone m hm n hn hslot
    rcases (slot_eq_slot_iff hstem).mp hslot with hname | hshares | hshares
    · exact List.inj_on_of_nodup_map hdistinct hm hn hname
    · exact absurd hshares (hnone m hm n hn)
    · exact absurd hshares (hnone n hn m hm)

/-! ### Builders and sessions -/

/-- A builder can be made iff no slot has the name of something in its body. -/
theorem ofBlueprint_eq_ok_iff :
    Workshop.ofBlueprint b = .ok (⟨b, []⟩ : Workshop α) ↔ ∀ m ∈ b.members, b.slot m ∉ b.bodyNames := by
  rw [Workshop.ofBlueprint]
  split
  · next slot hslot =>
    have hmem := List.mem_of_find?_eq_some hslot
    have hbody := List.contains_iff_mem.mp (List.find?_some hslot)
    obtain ⟨m, hm, rfl⟩ := List.mem_map.mp hmem
    refine ⟨fun heq => ?_, fun h => absurd hbody (h m hm)⟩
    cases heq
  · next hnone =>
    rw [List.find?_eq_none] at hnone
    refine ⟨fun _ m hm hbody => ?_, fun _ => rfl⟩
    exact hnone _ (List.mem_map_of_mem hm) (List.contains_iff_mem.mpr hbody)

/-- The code names the slot of a field in normal form as it is declared. -/
theorem codeSlot_eq_slot (hnormal : Text.normalForm m.name = m.name) : b.codeSlot m = b.slot m := by
  rw [Blueprint.codeSlot, Member.attribute, Text.normalForm_underscore hnormal]
  rfl

/-- A session can be opened iff no slot is one that every object has. -/
theorem start_eq_ok_iff (hnormal : ∀ m ∈ b.members, Text.normalForm m.name = m.name) :
    (∃ s : Session α, Session.start b = .ok s) ↔
      ∀ m ∈ b.members, b.slot m ∉ Session.commonSlots := by
  constructor
  · rintro ⟨s, hs⟩ m hm hcommon
    obtain ⟨⟨⟩, hloop, -⟩ := Outcome.bind_eq_ok_iff.mp hs
    have hstep := Outcome.forM_eq_ok_iff.mp hloop m hm
    simp only [codeSlot_eq_slot (hnormal m hm), List.contains_iff_mem, if_pos hcommon] at hstep
    cases hstep
  · intro hnone
    refine ⟨_, Outcome.bind_eq_ok_iff.mpr ⟨(), Outcome.forM_eq_ok_iff.mpr fun m hm => ?_, rfl⟩⟩
    have hdeclared : b.slot m ∈ b.members.map b.slot := List.mem_map_of_mem hm
    simp only [codeSlot_eq_slot (hnormal m hm), List.contains_iff_mem, if_neg (hnone m hm),
      if_pos hdeclared]
    rfl

/-- A setter of a field in normal form stores into the slot of the field. -/
theorem get_slot_set (hnormal : Text.normalForm m.name = m.name) (s : Session α) (value : Slot α) :
    (s.set b m value).get (b.slot n) = if b.slot m = b.slot n then value else s.get (b.slot n) := by
  rw [Session.set, Session.get, codeSlot_eq_slot hnormal, Table.find?_put]
  split <;> rfl

/-- Setters change no other field iff no two members share a slot. -/
theorem get_set_iff [Nonempty α] (hstem : b.stem ≠ [])
    (hnormal : ∀ m ∈ b.members, Text.normalForm m.name = m.name) :
    (∀ (s : Session α), ∀ m ∈ b.members, ∀ n ∈ b.members, m.name ≠ n.name → ∀ value,
      (s.set b m value).get (b.slot n) = s.get (b.slot n)) ↔
        ∀ m ∈ b.members, ∀ n ∈ b.members, ¬ b.SharesSlot m n := by
  constructor
  · intro hapart m hm n hn hshares
    have hslot : b.slot m = b.slot n := (slot_eq_slot_iff hstem).mpr (.inr (.inl hshares))
    have hname : m.name ≠ n.name := by
      intro hname
      have hplain := hshares.isPrivate_eq_false hstem
      rw [Member.attribute, ← hname, ← Member.attribute, hshares.1] at hplain
      cases hplain
    -- In a session without values one that is set for the first member is seen at the second one.
    obtain ⟨x⟩ := ‹Nonempty α›
    have hset := hapart ⟨[]⟩ m hm n hn hname (.set x)
    rw [get_slot_set (hnormal m hm), if_pos hslot] at hset
    cases hset
  · intro hnone s m hm n hn hname value
    rw [get_slot_set (hnormal m hm), if_neg]
    intro hslot
    rcases (slot_eq_slot_iff hstem).mp hslot with hsame | hshares | hshares
    · exact hname hsame
    · exact hnone m hm n hn hshares
    · exact hnone n hn m hm hshares

/-- **Clashes inside the builder of an accepted class** whose fields have different names.

* The slots are different names, and none of them is `__init__`, `__slots__` or the name of a method,
  iff no field is `_init__` or `_slots__`, no two fields share a slot and no slot covers a setter.
* The builder can be made iff no field behind its underscore has the name of something that every
  builder has, and no slot covers a setter.
* Where the names of fields are in normal form, a session can be opened iff no field is `_dict__` or
  `_weakref__`, and setters change no other field iff no two fields share a slot. -/
theorem clashes_of_ofSchema [Nonempty α] {schema : Schema} (haccepted : Blueprint.ofSchema schema = .ok b)
    (hdistinct : (schema.fields.map (·.name)).Nodup) :
    ((b.members.map b.slot).Nodup ∧
        (∀ m ∈ b.members, b.slot m ∉ ["__init__", "__slots__"] ++ b.methods) ↔
      (∀ m ∈ b.members, m.name ∉ ["_init__", "_slots__"]) ∧
        (∀ m ∈ b.members, ∀ n ∈ b.members, ¬ b.SharesSlot m n) ∧
        ∀ m ∈ b.members, ∀ n ∈ b.members, ¬ b.CoversSetter m n) ∧
    (Workshop.ofBlueprint b = .ok (⟨b, []⟩ : Workshop α) ↔
      (∀ m ∈ b.members, m.name ∉ ["_module__", "_doc__", "_slots__", "_init__"]) ∧
        ∀ m ∈ b.members, ∀ n ∈ b.members, ¬ b.CoversSetter m n) ∧
    ((∀ m ∈ b.members, Text.normalForm m.name = m.name) →
      ((∃ s : Session α, Session.start b = .ok s) ↔
        ∀ m ∈ b.members, m.name ∉ ["_dict__", "_weakref__"]) ∧
      ((∀ (s : Session α), ∀ m ∈ b.members, ∀ n ∈ b.members, m.name ≠ n.name → ∀ value,
        (s.set b m value).get (b.slot n) = s.get (b.slot n)) ↔
          ∀ m ∈ b.members, ∀ n ∈ b.members, ¬ b.SharesSlot m n)) := by
  have hstem := stem_ne_nil haccepted
  obtain ⟨-, -, -, -, -, hmembers, -⟩ := Schema.ofSchema_eq_ok haccepted
  have hnames : (b.members.map (·.name)).Nodup := by
    rw [hmembers, List.map_map]
    exact hdistinct
  have hfour : ∀ rest ∈ ["_module__", "_doc__", "_slots__", "_init__"],
      "__".toList.isPrefixOf ("_" ++ rest).toList = true ∧ isPrivate ("_" ++ rest) = false := by
    decide
  have htwo : ∀ rest ∈ ["_init__", "_slots__"],
      "__".toList.isPrefixOf ("_" ++ rest).toList = true ∧ isPrivate ("_" ++ rest) = false := by
    decide
  have hcommon : ∀ rest ∈ ["_dict__", "_weakref__"],
      "__".toList.isPrefixOf ("_" ++ rest).toList = true ∧ isPrivate ("_" ++ rest) = false := by
    decide
  have hbody := slots_not_mem_iff (b := b) hstem hfour
  have hshort := slots_not_mem_iff (b := b) hstem htwo
  refine ⟨?_, ofBlueprint_eq_ok_iff.trans hbody, fun hnormal => ⟨?_, get_set_iff hstem hnormal⟩⟩
  · rw [nodup_slots_iff hstem hnames]
    exact (and_congr_right fun _ => hshort).trans and_left_comm
  · refine (start_eq_ok_iff hnormal).trans (forall₂_congr fun m _ => not_congr ?_)
    exact slot_mem_map_iff hstem hcommon

/-- A class with a field that has an underscore in front. -/
def underscoreSchema : Schema :=
  ⟨"pkg.cars", "Car", "pkg", [⟨"x", .named "builtins" "int", "pkg.cars.Car"⟩,
    ⟨"_y", .named "builtins" "int", "pkg.cars.Car"⟩]⟩

/-- The blueprint of its builder. -/
def underscoreBlueprint : Blueprint :=
  ⟨"CarBuilder", "pkg", "pkg.cars.Car", "pkg.cars",
    [⟨"x", .named "builtins" "int"⟩, ⟨"_y", .named "builtins" "int"⟩], ["pkg.cars"]⟩

/-- The slot of the field with the underscore gets the name of the builder, and nothing clashes. -/
theorem clashes_of_underscore :
    Blueprint.ofSchema underscoreSchema = .ok underscoreBlueprint ∧
      underscoreBlueprint.members.map underscoreBlueprint.slot = ["_x", "_CarBuilder__y"] ∧
      (underscoreBlueprint.members.map underscoreBlueprint.slot).Nodup ∧
      (∀ m ∈ underscoreBlueprint.members,
        underscoreBlueprint.slot m ∉ ["__init__", "__slots__"] ++ underscoreBlueprint.methods) ∧
      Workshop.ofBlueprint underscoreBlueprint = .ok (⟨underscoreBlueprint, []⟩ : Workshop Nat) ∧
      ∃ s : Session Nat, Session.start underscoreBlueprint = .ok s := by
  have haccepted : Blueprint.ofSchema underscoreSchema = .ok underscoreBlueprint := rfl
  obtain ⟨hslots, hmade, hopened⟩ := clashes_of_ofSchema (α := Nat) haccepted (by decide)
  have hcovers : ∀ m ∈ underscoreBlueprint.members, ∀ n ∈ underscoreBlueprint.members,
      ¬ underscoreBlueprint.CoversSetter m n := by decide +kernel
  obtain ⟨hnodup, hapart⟩ := hslots.mpr ⟨by decide, by decide +kernel, hcovers⟩
  obtain ⟨hstarted, -⟩ := hopened (by decide +kernel)
  exact ⟨haccepted, by decide +kernel, hnodup, hapart, hmade.mpr ⟨by decide, hcovers⟩,
    hstarted.mpr (by decide)⟩

/-- A class with two fields that are the same but for an underscore. -/
def twinSchema : Schema :=
  ⟨"pkg.cars", "Car", "pkg", [⟨"x", .named "builtins" "int", "pkg.cars.Car"⟩,
    ⟨"_x", .named "builtins" "int", "pkg.cars.Car"⟩]⟩

/-- **An accepted class may have a builder that cannot be made**: the slot of `x` has the name of the
setter of `_x`. -/
theorem conflict_of_twin :
    ∃ b, Blueprint.ofSchema twinSchema = .ok b ∧ (twinSchema.fields.map (·.name)).Nodup ∧
      ¬ ((b.members.map b.slot).Nodup ∧
        ∀ m ∈ b.members, b.slot m ∉ ["__init__", "__slots__"] ++ b.methods) ∧
      (Workshop.ofBlueprint b : Except SessionFault (Workshop Nat)) = .error (.conflict "_x") := by
  refine ⟨⟨"CarBuilder", "pkg", "pkg.cars.Car", "pkg.cars",
    [⟨"x", .named "builtins" "int"⟩, ⟨"_x", .named "builtins" "int"⟩], ["pkg.cars"]⟩, rfl,
    by decide, ?_, rfl⟩
  rintro ⟨-, hapart⟩
  exact hapart ⟨"x", .named "builtins" "int"⟩ List.mem_cons_self (by decide +kernel)

end FluentBuilder
