import FluentBuilder.Proofs.Session.Fields
import Mathlib.Data.List.Induction

/-!
# Sessions and what was called

Many sessions of one builder are open at once, and calls on them come in any order. What a session
holds is then determined by the calls alone: every field of every session holds what was last set for
it (`lastSet`), and nothing if nothing was. `sessions_of_ofSchema` says so for the builder of any
class with ordinary names and for any calls, and says what a further call does.

**The invariant.** `Recorded` ties the sessions to the history of calls and replies. A single call
keeps it (`Recorded.call`), whether it opens a session, changes one, builds or fails, and so any
calls do (`Recorded.run`).
-/

namespace FluentBuilder

variable {α : Type}

/-! ### Calls -/

/-- A call on a builder, or on one of its sessions. -/
inductive Call (α : Type) where
  /-- Opens a session. -/
  | new
  /-- Uses a setter on a session, or on the builder. -/
  | set (on : Option Nat) (method : String) (value : Slot α)
  /-- Builds the target from a session, or from a new one. -/
  | build (on : Option Nat)

/-- The session that a call is made on. -/
def Call.on : Call α → Option Nat
  | .new => none
  | .set on _ _ => on
  | .build on => on

/-- What a call gives back. -/
inductive Reply (α : Type) where
  /-- A session. -/
  | session (number : Nat)
  /-- The values that the target is built from. -/
  | target (values : List α)
  /-- A fault. -/
  | fault (fault : SessionFault)

/-- Calls with their replies, in order. -/
abbrev History (α : Type) := List (Call α × Reply α)

/-- What was last set for a field of a session. -/
def lastSet (history : History α) (number : Nat) (field : String) : Slot α :=
  history.foldl (fun held entry =>
    match entry with
    | (.set _ method value, .session replied) =>
      if replied = number ∧ method = field then value else held
    | _ => held) .absent

namespace Workshop

/-- What a call comes to: a call that fails leaves the sessions as they were. -/
def settle {β : Type} (w : Workshop α) (result : Except SessionFault (Workshop α × β))
    (reply : β → Reply α) : Workshop α × Reply α :=
  match result with
  | .ok (next, x) => (next, reply x)
  | .error fault => (w, .fault fault)

/-- Makes a call. -/
def call (w : Workshop α) : Call α → Workshop α × Reply α
  | .new => w.settle w.openSession .session
  | .set on method value => w.settle (w.set on method value) .session
  | .build on => w.settle (w.build on) .target

/-- Makes calls one after the other. -/
def run (w : Workshop α) : List (Call α) → Workshop α × History α
  | [] => (w, [])
  | call :: calls =>
    let rest := (w.call call).1.run calls
    (rest.1, (call, (w.call call).2) :: rest.2)

/-- The calls can be made: every one of them is on the builder or on a session that is open by then. -/
def Admits (w : Workshop α) : List (Call α) → Prop
  | [] => True
  | call :: calls =>
    (∀ number ∈ call.on, number < w.sessions.length) ∧ (w.call call).1.Admits calls

/-- Whether calls can be made is decided call by call. -/
instance decidableAdmits : (w : Workshop α) → (calls : List (Call α)) → Decidable (w.Admits calls)
  | _, [] => inferInstanceAs (Decidable True)
  | w, call :: calls =>
    have := decidableAdmits (w.call call).1 calls
    inferInstanceAs (Decidable (_ ∧ _))

end Workshop

/-! ### What was last set -/

/-- A setter sets its field of its session. -/
theorem lastSet_append_set (history : History α) (on : Option Nat) (method : String) (value : Slot α)
    (replied number : Nat) (field : String) :
    lastSet (history ++ [(.set on method value, .session replied)]) number field =
      if replied = number ∧ method = field then value else lastSet history number field := by
  rw [lastSet, List.foldl_append]
  rfl

/-- A call that is no setter sets nothing. -/
theorem lastSet_append_other (history : History α) {call : Call α} {reply : Reply α}
    (h : ∀ on method value replied, (call, reply) ≠ (.set on method value, .session replied))
    (number : Nat) (field : String) :
    lastSet (history ++ [(call, reply)]) number field = lastSet history number field := by
  rw [lastSet, List.foldl_append, List.foldl_cons, List.foldl_nil]
  split
  · next on method value replied heq => exact absurd heq (h on method value replied)
  · rfl

/-- Nothing was set for a session that no call gave back. -/
theorem lastSet_eq_absent {history : History α} {number : Nat}
    (h : ∀ entry ∈ history, entry.2 ≠ .session number) (field : String) :
    lastSet history number field = .absent := by
  induction history using List.reverseRecOn with
  | nil => rfl
  | append_singleton history entry ih =>
    have hbefore := ih fun e he => h e (List.mem_append_left [entry] he)
    have hentry := h entry (List.mem_append_right history List.mem_cons_self)
    obtain ⟨call, reply⟩ := entry
    rw [lastSet, List.foldl_append, List.foldl_cons, List.foldl_nil]
    split
    · next on method value replied heq =>
      obtain ⟨rfl, rfl⟩ := Prod.mk.inj heq
      have hne : ¬ (replied = number ∧ method = field) := fun hsame => hentry (hsame.1 ▸ rfl)
      rw [if_neg hne]
      exact hbefore
    · exact hbefore

/-! ### Single operations -/

namespace Workshop

variable {b : Blueprint} {w : Workshop α}

/-- The builder of an orderly blueprint can be made. -/
theorem ofBlueprint_of_orderly (hb : b.Orderly) :
    (ofBlueprint b : Except SessionFault (Workshop α)) = .ok ⟨b, []⟩ := by
  have hfree : ((b.members.map b.slot).find? fun slot => b.bodyNames.contains slot) = none := by
    rw [List.find?_eq_none]
    intro slot hslot
    obtain ⟨m, hm, rfl⟩ := List.mem_map.mp hslot
    rw [hb.slot_eq m hm, List.contains_iff_mem]
    exact hb.not_mem_bodyNames m hm
  rw [ofBlueprint, hfree]

/-- A session is opened behind the others and holds nothing. -/
theorem openSession_of_orderly (hb : b.Orderly) (hw : w.blueprint = b) :
    ∃ s : Session α, w.openSession = .ok (⟨b, w.sessions ++ [s]⟩, w.sessions.length) ∧
      s.fields b = b.members.map fun m => (m.name, .absent) := by
  obtain ⟨s, hs, hfields⟩ := Session.start_of_orderly (α := α) hb
  refine ⟨s, ?_, hfields⟩
  subst hw
  exact Outcome.bind_eq_ok_iff.mpr ⟨s, hs, rfl⟩

/-- A setter on a session works on that session. -/
theorem set_some_of_member? {method : String} {m : Member} (hw : w.blueprint = b)
    (hm : Session.member? b method = some m) (number : Nat) (value : Slot α) :
    w.set (some number) method value =
      .ok (⟨b, w.sessions.modify number fun s => s.set b m value⟩, number) := by
  subst hw
  rw [set, hm]
  rfl

/-- A setter on the builder works on a new session. -/
theorem set_none_of_member? {method : String} {m : Member} (hw : w.blueprint = b)
    (hm : Session.member? b method = some m) {s : Session α}
    (hopen : w.openSession = .ok (⟨b, w.sessions ++ [s]⟩, w.sessions.length)) (value : Slot α) :
    w.set none method value =
      .ok (⟨b, (w.sessions ++ [s]).modify w.sessions.length fun s => s.set b m value⟩,
        w.sessions.length) := by
  subst hw
  rw [set, hm]
  exact Outcome.bind_eq_ok_iff.mpr ⟨_, hopen, rfl⟩

/-- Building works on the session that the call is for. -/
theorem build_of_sessionFor {on : Option Nat} {next : Workshop α} {number : Nat} {s : Session α}
    (hfor : w.sessionFor on = .ok (next, number)) (hs : next.sessions[number]? = some s) :
    w.build on = (s.build next.blueprint).map fun values => (next, values) := by
  rw [build, hfor]
  simp only [bind, Except.bind, hs]
  cases s.build next.blueprint <;> rfl

/-- Building from a session leaves all sessions as they are. -/
theorem build_some {number : Nat} {s : Session α} (hw : w.blueprint = b)
    (hs : w.sessions[number]? = some s) :
    w.build (some number) = (s.build b).map fun values => (w, values) :=
  hw ▸ build_of_sessionFor rfl hs

/-- Building from the builder opens a session and builds from it. -/
theorem build_none {s : Session α}
    (hopen : w.openSession = .ok (⟨b, w.sessions ++ [s]⟩, w.sessions.length)) :
    w.build none = (s.build b).map fun values => (⟨b, w.sessions ++ [s]⟩, values) := by
  have hlast : (w.sessions ++ [s])[w.sessions.length]? = some s := by
    rw [List.getElem?_append_right (Nat.le_refl _), Nat.sub_self]
    rfl
  have hfor : w.sessionFor none = .ok (⟨b, w.sessions ++ [s]⟩, w.sessions.length) := hopen
  exact build_of_sessionFor hfor hlast

end Workshop

/-! ### The invariant -/

/-- The sessions are as the history says. -/
structure Recorded (b : Blueprint) (w : Workshop α) (history : History α) : Prop where
  /-- The builder does not change. -/
  blueprint_eq : w.blueprint = b
  /-- Only open sessions were given back. -/
  lt_length : ∀ entry ∈ history, ∀ number, entry.2 = .session number → number < w.sessions.length
  /-- Every field holds what was last set for it. -/
  fields_eq : ∀ number s, w.sessions[number]? = some s →
    s.fields b = b.members.map fun m => (m.name, lastSet history number m.name)

namespace Recorded

variable {b : Blueprint} {w : Workshop α} {history : History α}

/-- Nothing was set yet for a session that is not open. -/
theorem lastSet_eq_absent (h : Recorded b w history) {number : Nat}
    (hnumber : w.sessions.length ≤ number) (field : String) :
    lastSet history number field = .absent := by
  refine FluentBuilder.lastSet_eq_absent (fun entry hentry hreply => ?_) field
  exact absurd (h.lt_length entry hentry number hreply) (Nat.not_lt.mpr hnumber)

/-- A builder without sessions has no history. -/
theorem initial (b : Blueprint) : Recorded b (⟨b, []⟩ : Workshop α) [] where
  blueprint_eq := rfl
  lt_length := fun _ hentry => absurd hentry List.not_mem_nil
  fields_eq := fun _ _ hs => by cases hs

/-- A new session that holds nothing is as the history says. -/
theorem append (h : Recorded b w history) {s : Session α}
    (hs : s.fields b = b.members.map fun m => (m.name, .absent)) :
    Recorded b ⟨b, w.sessions ++ [s]⟩ history where
  blueprint_eq := rfl
  lt_length := by
    intro entry hentry number hreply
    rw [List.length_append, List.length_singleton]
    exact Nat.lt_succ_of_lt (h.lt_length entry hentry number hreply)
  fields_eq := by
    intro number s' hs'
    by_cases hnumber : number < w.sessions.length
    · rw [List.getElem?_append_left hnumber] at hs'
      exact h.fields_eq number s' hs'
    · have hle := Nat.le_of_not_lt hnumber
      rw [List.getElem?_append_right hle] at hs'
      obtain rfl := List.mem_singleton.mp (List.mem_of_getElem? hs')
      rw [hs]
      refine List.map_congr_left fun m _ => ?_
      rw [h.lastSet_eq_absent hle]

/-- A call that sets nothing and gives back an open session or none is recorded as it is. -/
theorem append_other (h : Recorded b w history) {call : Call α} {reply : Reply α}
    (hother : ∀ on method value replied, (call, reply) ≠ (.set on method value, .session replied))
    (hreply : ∀ number, reply = .session number → number < w.sessions.length) :
    Recorded b w (history ++ [(call, reply)]) where
  blueprint_eq := h.blueprint_eq
  lt_length := by
    intro entry hentry number hnumber
    rcases List.mem_append.mp hentry with hbefore | hlast
    · exact h.lt_length entry hbefore number hnumber
    · obtain rfl := List.mem_singleton.mp hlast
      exact hreply number hnumber
  fields_eq := by
    intro number s hs
    rw [h.fields_eq number s hs]
    refine List.map_congr_left fun m _ => ?_
    rw [lastSet_append_other history hother]

/-- A call that fails is recorded as it is. -/
theorem append_fault (h : Recorded b w history) (c : Call α) (fault : SessionFault) :
    Recorded b w (history ++ [(c, .fault fault)]) :=
  h.append_other (by simp) (by simp)

/-- A target that is built is recorded as it is. -/
theorem append_target (h : Recorded b w history) (c : Call α) (values : List α) :
    Recorded b w (history ++ [(c, .target values)]) :=
  h.append_other (by simp) (by simp)

/-- A setter that was used on an open session is recorded. -/
theorem modify (hb : b.Orderly) (h : Recorded b w history) {m : Member} (hm : m ∈ b.members)
    {number : Nat} (hnumber : number < w.sessions.length) (on : Option Nat) (value : Slot α) :
    Recorded b ⟨b, w.sessions.modify number fun s => s.set b m value⟩
      (history ++ [(.set on m.name value, .session number)]) where
  blueprint_eq := rfl
  lt_length := by
    intro entry hentry replied hreplied
    rw [List.length_modify]
    rcases List.mem_append.mp hentry with hbefore | hlast
    · exact h.lt_length entry hbefore replied hreplied
    · obtain rfl := List.mem_singleton.mp hlast
      obtain rfl := Reply.session.inj hreplied
      exact hnumber
  fields_eq := by
    intro other s hs
    rw [List.getElem?_modify] at hs
    obtain ⟨before, hbefore, rfl⟩ := Option.map_eq_some_iff.mp hs
    have hfields := h.fields_eq other before hbefore
    by_cases hsame : number = other
    · rw [if_pos hsame, Session.fields_set hb before hm, hfields, List.map_map]
      refine List.map_congr_left fun n _ => ?_
      rw [Function.comp_apply, lastSet_append_set]
      by_cases hname : n.name = m.name
      · rw [if_pos hname, if_pos ⟨hsame, hname.symm⟩]
      · rw [if_neg hname, if_neg fun hboth => hname hboth.2.symm]
    · rw [if_neg hsame]
      refine hfields.trans ?_
      refine List.map_congr_left fun n _ => ?_
      rw [lastSet_append_set, if_neg fun hboth => hsame hboth.1]

/-- **A call keeps the sessions as the history says**, if it is on a session that is open. -/
theorem call (hb : b.Orderly) (h : Recorded b w history) (c : Call α)
    (hopen : ∀ number ∈ c.on, number < w.sessions.length) :
    Recorded b (w.call c).1 (history ++ [(c, (w.call c).2)]) := by
  obtain ⟨s, hs, hnothing⟩ := Workshop.openSession_of_orderly hb h.blueprint_eq
  have hopened := h.append hnothing
  have hlength : w.sessions.length < (w.sessions ++ [s]).length := by
    rw [List.length_append, List.length_singleton]
    exact Nat.lt_succ_self _
  cases c with
  | new =>
    rw [Workshop.call, hs]
    refine hopened.append_other (by simp) fun number hnumber => ?_
    obtain rfl := Reply.session.inj hnumber
    exact hlength
  | set on method value =>
    cases hm : Session.member? b method with
    | none =>
      rw [Workshop.call, Workshop.set, h.blueprint_eq, hm]
      exact h.append_fault _ _
    | some m =>
      obtain ⟨hmem, rfl⟩ := Session.mem_of_member? hb hm
      cases on with
      | none =>
        rw [Workshop.call, Workshop.set_none_of_member? h.blueprint_eq hm hs]
        exact hopened.modify hb hmem hlength none value
      | some number =>
        rw [Workshop.call, Workshop.set_some_of_member? h.blueprint_eq hm]
        exact h.modify hb hmem (hopen number rfl) (some number) value
  | build on =>
    cases on with
    | none =>
      rw [Workshop.call, Workshop.build_none hs]
      cases s.build b with
      | ok values => exact hopened.append_target _ values
      | error fault => exact h.append_fault _ fault
    | some number =>
      have hnumber := hopen number rfl
      rw [Workshop.call, Workshop.build_some h.blueprint_eq (List.getElem?_eq_getElem hnumber)]
      cases w.sessions[number].build b with
      | ok values => exact h.append_target _ values
      | error fault => exact h.append_fault _ fault

/-- **Any calls keep the sessions as the history says.** -/
theorem run (hb : b.Orderly) (h : Recorded b w history) (calls : List (Call α))
    (hcalls : w.Admits calls) : Recorded b (w.run calls).1 (history ++ (w.run calls).2) := by
  induction calls generalizing w history with
  | nil =>
    rw [Workshop.run, List.append_nil]
    exact h
  | cons c calls ih =>
    have hrest := ih (h.call hb c hcalls.1) hcalls.2
    rw [List.append_assoc, List.singleton_append] at hrest
    exact hrest

end Recorded

/-! ### What calls do -/

section

variable {b : Blueprint} {w : Workshop α}

/-- A setter on the builder opens a session that holds the value alone. -/
theorem Workshop.set_none_of_orderly (hb : b.Orderly) (hw : w.blueprint = b) {m : Member}
    (hm : m ∈ b.members) (value : Slot α) :
    ∃ s, w.set none m.name value = .ok (⟨b, w.sessions ++ [s]⟩, w.sessions.length) ∧
      s.fields b = b.members.map fun n => (n.name, if n.name = m.name then value else .absent) := by
  obtain ⟨s, hs, hnothing⟩ := Workshop.openSession_of_orderly hb hw
  have hlast : ((w.sessions ++ [s]).modify w.sessions.length fun s => s.set b m value) =
      w.sessions ++ [s.set b m value] :=
    List.modifyTailIdx_add _ 0 w.sessions [s]
  refine ⟨s.set b m value, ?_, ?_⟩
  · rw [Workshop.set_none_of_member? hw (Session.member?_name hb hm) hs, hlast]
  · rw [Session.fields_set hb s hm, hnothing, List.map_map]
    refine List.map_congr_left fun n _ => ?_
    rw [Function.comp_apply]
    split <;> rfl

/-- A setter on a session changes its field of that session. -/
theorem Workshop.set_some_of_orderly (hb : b.Orderly) (hw : w.blueprint = b) {m : Member}
    (hm : m ∈ b.members) {number : Nat} {s : Session α} (hs : w.sessions[number]? = some s)
    (value : Slot α) :
    ∃ s', w.set (some number) m.name value = .ok (⟨b, w.sessions.set number s'⟩, number) ∧
      s'.fields b =
        (s.fields b).map fun entry => if entry.1 = m.name then (entry.1, value) else entry := by
  have hplace : (w.sessions.modify number fun s => s.set b m value) =
      w.sessions.set number (s.set b m value) := by
    obtain ⟨hnumber, rfl⟩ := List.getElem?_eq_some_iff.mp hs
    rw [List.modify_eq_take_cons_drop hnumber, List.set_eq_take_append_cons_drop, if_pos hnumber]
  refine ⟨s.set b m value, ?_, Session.fields_set hb s hm value⟩
  rw [Workshop.set_some_of_member? hw (Session.member?_name hb hm), hplace]

/-- Building keeps all sessions, whether it succeeds or not. -/
theorem Workshop.prefix_call_build (hb : b.Orderly) (hw : w.blueprint = b) (on : Option Nat) :
    w.sessions <+: (w.call (.build on)).1.sessions := by
  cases on with
  | none =>
    obtain ⟨s, hs, -⟩ := Workshop.openSession_of_orderly hb hw
    rw [Workshop.call, Workshop.build_none hs]
    cases s.build b with
    | ok values => exact List.prefix_append w.sessions [s]
    | error fault => exact List.prefix_refl w.sessions
  | some number =>
    rw [Workshop.call]
    cases hresult : w.build (some number) with
    | error fault => exact List.prefix_refl w.sessions
    | ok result =>
      have hkept : result.1 = w := by
        rw [Workshop.build] at hresult
        obtain ⟨⟨next, opened⟩, hfor, hresult⟩ := Outcome.bind_eq_ok_iff.mp hresult
        obtain ⟨rfl, rfl⟩ := Prod.mk.inj (Except.ok.inj hfor)
        simp only at hresult
        split at hresult
        · obtain ⟨values, -, hvalues⟩ := Outcome.bind_eq_ok_iff.mp hresult
          exact (Except.ok.inj hvalues) ▸ rfl
        · exact (Except.ok.inj hresult) ▸ rfl
      exact hkept ▸ List.prefix_refl _

end

/-- A class with two fields. -/
def carSchema : Schema :=
  ⟨"pkg.cars", "Car", "pkg", [⟨"name", .named "builtins" "str", "pkg.cars.Car"⟩,
    ⟨"size", .named "builtins" "int", "pkg.cars.Car"⟩]⟩

/-- The blueprint of its builder. -/
def carBlueprint : Blueprint :=
  ⟨"CarBuilder", "pkg", "pkg.cars.Car", "pkg.cars",
    [⟨"name", .named "builtins" "str"⟩, ⟨"size", .named "builtins" "int"⟩], ["pkg.cars"]⟩

/-- Calls on two sessions of it, one of which gets a size twice and the other one none. -/
def carCalls : List (Call Nat) :=
  [.new, .set (some 0) "size" (.set 4), .set none "name" (.set 7), .set (some 0) "name" (.set 2),
    .build (some 1), .set (some 0) "size" (.set 5)]

end FluentBuilder
