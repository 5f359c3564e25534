import FluentBuilder.Proofs.Session.Slots
import Mathlib.Data.List.Nodup

/-!
# What the fields of a session hold

A session is seen through `Session.fields`: the fields of its builder in order, each with what its
slot holds. For an orderly blueprint every operation is a plain operation on that list. A new session
holds nothing (`Session.start_of_orderly`), a setter changes the entry of its field
(`Session.fields_set`), and building takes the values as they stand, or names the first field
without one (`Session.build_of_orderly`).
-/

namespace FluentBuilder

variable {α : Type}

/-- Does a slot hold nothing? -/
def Slot.isAbsent : Slot α → Bool
  | .absent => true
  | .set _ => false

namespace Session

variable {b : Blueprint}

/-! ### Looking at fields -/

/-- The fields are those of the members, held in the slots of the members. -/
theorem fields_of_orderly (hb : b.Orderly) (s : Session α) :
    s.fields b = b.members.map fun m => (m.name, s.get m.attribute) := by
  refine List.map_congr_left fun m hm => ?_
  rw [hb.slot_eq m hm]

/-- What the fields hold is what the slots of the members hold. -/
theorem get_attribute_of_fields (hb : b.Orderly) {s : Session α} {held : String → Slot α}
    (h : s.fields b = b.members.map fun m => (m.name, held m.name)) {m : Member}
    (hm : m ∈ b.members) : s.get m.attribute = held m.name := by
  rw [fields_of_orderly hb, List.map_inj_left] at h
  exact congrArg Prod.snd (h m hm)

/-- The names of members tell them apart. -/
theorem eq_of_name_eq (hb : b.Orderly) {m n : Member} (hm : m ∈ b.members) (hn : n ∈ b.members)
    (h : m.name = n.name) : m = n :=
  List.inj_on_of_nodup_map hb.distinct hm hn h

/-- A member is found by its name. -/
theorem member?_name (hb : b.Orderly) {m : Member} (hm : m ∈ b.members) :
    member? b m.name = some m := by
  have hfound : (member? b m.name).isSome = true := by
    rw [member?, List.find?_isSome]
    exact ⟨m, List.mem_reverse.mpr hm, beq_iff_eq.mpr (hb.method_eq m hm)⟩
  obtain ⟨n, hn⟩ := Option.isSome_iff_exists.mp hfound
  have hmem : n ∈ b.members := List.mem_reverse.mp (List.mem_of_find?_eq_some hn)
  have hname : b.method n = m.name := by simpa using List.find?_some hn
  rw [hb.method_eq n hmem] at hname
  rw [hn, eq_of_name_eq hb hmem hm hname]

/-- What is found under a name is a member of that name. -/
theorem mem_of_member? (hb : b.Orderly) {method : String} {m : Member}
    (h : member? b method = some m) : m ∈ b.members ∧ m.name = method := by
  have hmem : m ∈ b.members := List.mem_reverse.mp (List.mem_of_find?_eq_some h)
  have hname : b.method m = method := by simpa using List.find?_some h
  rw [hb.method_eq m hmem] at hname
  exact ⟨hmem, hname⟩

/-! ### Operations -/

/-- **A new session holds nothing.** -/
theorem start_of_orderly (hb : b.Orderly) :
    ∃ s : Session α, start b = .ok s ∧ s.fields b = b.members.map fun m => (m.name, .absent) := by
  have hchecked : (b.members.forM fun m =>
      let slot := b.codeSlot m
      if commonSlots.contains slot then throw (.unsettable b.name slot)
      else if (b.members.map b.slot).contains slot then pure ()
      else throw (.noSlot b.name slot)) = (.ok () : Except SessionFault Unit) := by
    refine Outcome.forM_eq_ok_iff.mpr fun m hm => ?_
    have hcommon := hb.not_mem_commonSlots m hm
    have hslot : m.attribute ∈ b.members.map b.slot :=
      List.mem_map.mpr ⟨m, hm, hb.slot_eq m hm⟩
    simp only [hb.codeSlot_eq m hm, List.contains_iff_mem, if_neg hcommon, if_pos hslot]
    rfl
  refine ⟨_, Outcome.bind_eq_ok_iff.mpr ⟨(), hchecked, rfl⟩, ?_⟩
  rw [fields_of_orderly hb]
  refine List.map_congr_left fun m _ => ?_
  rw [get, Table.find?_ofEntries_const]
  split <;> rfl

/-- A setter changes what the slot of its field holds. -/
theorem get_set (hb : b.Orderly) (s : Session α) {m n : Member} (hm : m ∈ b.members) (value : Slot α) :
    (s.set b m value).get n.attribute = if n.name = m.name then value else s.get n.attribute := by
  rw [set, get, hb.codeSlot_eq m hm, Table.find?_put]
  by_cases hname : n.name = m.name
  · have hslot : m.attribute = n.attribute := by rw [Member.attribute, Member.attribute, hname]
    rw [if_pos hslot, if_pos hname, Option.getD_some]
  · have hslot : ¬ m.attribute = n.attribute := fun h => hname (attribute_inj h).symm
    rw [if_neg hslot, if_neg hname, get]

/-- **A setter changes its field.** -/
theorem fields_set (hb : b.Orderly) (s : Session α) {m : Member} (hm : m ∈ b.members)
    (value : Slot α) :
    (s.set b m value).fields b =
      (s.fields b).map fun entry => if entry.1 = m.name then (entry.1, value) else entry := by
  rw [fields_of_orderly hb, fields_of_orderly hb, List.map_map]
  refine List.map_congr_left fun n _ => ?_
  rw [get_set hb s hm, Function.comp_apply]
  split <;> rfl

/-- The first value that is missing is named. -/
theorem mapM_require_of_some {members : List Member} (held : Member → Slot α) {m : Member}
    (h : members.find? (fun m => (held m).isAbsent) = some m) (target : String) :
    (members.mapM fun m => (require (held m) m.name (some target)).mapError SessionFault.missing) =
      .error (.missing ⟨m.name, some target⟩) := by
  induction members with
  | nil => cases h
  | cons n members ih =>
    rw [List.find?_cons] at h
    rw [Outcome.mapM_cons]
    cases hslot : held n with
    | absent =>
      rw [hslot] at h
      obtain rfl := Option.some.inj h
      rfl
    | set value =>
      rw [hslot] at h
      rw [ih h]
      rfl

/-- Where no value is missing, all of them are taken in order. -/
theorem mapM_require_of_none {members : List Member} {held : Member → Slot α}
    (h : members.find? (fun m => (held m).isAbsent) = none) (target : String) :
    ∃ values,
      (members.mapM fun m => (require (held m) m.name (some target)).mapError SessionFault.missing) =
        .ok values ∧ values.map Slot.set = members.map held := by
  induction members with
  | nil => exact ⟨[], rfl, rfl⟩
  | cons n members ih =>
    rw [List.find?_cons] at h
    cases hslot : held n with
    | absent =>
      rw [hslot] at h
      cases h
    | set value =>
      rw [hslot] at h
      obtain ⟨values, hvalues, hheld⟩ := ih h
      refine ⟨value :: values, ?_, ?_⟩
      · rw [Outcome.mapM_cons, hslot, hvalues]
        rfl
      · rw [List.map_cons, List.map_cons, hheld, hslot]

/-- Building requires what the fields hold, in their order. -/
theorem build_eq_mapM (hb : b.Orderly) {s : Session α} {held : String → Slot α}
    (h : s.fields b = b.members.map fun m => (m.name, held m.name)) :
    s.build b = b.members.mapM fun m =>
      (require (held m.name) m.name (some b.target)).mapError SessionFault.missing := by
  rw [build, hb.lookUpTarget_eq]
  refine Outcome.mapM_congr fun m hm => ?_
  rw [hb.codeSlot_eq m hm, get_attribute_of_fields hb h hm]

/-- **Building takes what the fields hold, in their order, or names the first one that is absent.** -/
theorem build_of_orderly (hb : b.Orderly) {s : Session α} {held : String → Slot α}
    (h : s.fields b = b.members.map fun m => (m.name, held m.name)) :
    (∀ m, b.members.find? (fun m => (held m.name).isAbsent) = some m →
      s.build b = .error (.missing ⟨m.name, some b.target⟩)) ∧
    (b.members.find? (fun m => (held m.name).isAbsent) = none →
      ∃ values, s.build b = .ok values ∧
        values.map Slot.set = b.members.map fun m => held m.name) := by
  rw [build_eq_mapM hb h]
  exact ⟨fun m hm => mapM_require_of_some (fun m => held m.name) hm b.target,
    fun hnone => mapM_require_of_none hnone b.target⟩

end Session
end FluentBuilder
