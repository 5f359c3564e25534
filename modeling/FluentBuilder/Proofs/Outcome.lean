import Mathlib.Data.List.Forall2

/-!
# Loops over lists that may fail

A loop over a list in `Except` succeeds iff it succeeds for every item, and its fault is that of one
of them. These are the forms in which the proofs take such loops apart: `mapM_eq_ok_iff` pairs every
item with its result.
-/

namespace FluentBuilder.Outcome

variable {ε α β : Type}

/-- A result has no fault to rename. -/
theorem mapError_ok {ε' : Type} (f : ε → ε') (a : α) :
    (Except.ok a : Except ε α).mapError f = .ok a := rfl

/-- A fault under another name. -/
theorem mapError_error {ε' : Type} (f : ε → ε') (e : ε) :
    (Except.error e : Except ε α).mapError f = .error (f e) := rfl

/-- Renaming faults makes no results. -/
theorem mapError_eq_ok_iff {ε' : Type} {f : ε → ε'} {x : Except ε α} {a : α} :
    x.mapError f = .ok a ↔ x = .ok a := by
  cases x with
  | ok b => simp [mapError_ok]
  | error e => simp [mapError_error]

/-- A result that is kept when faults are forgotten. -/
theorem toOption_eq_some_iff {x : Except ε α} {a : α} : x.toOption = some a ↔ x = .ok a := by
  cases x with
  | ok b => simp [Except.toOption]
  | error e => simp [Except.toOption]

/-- The first item of a loop that gives results. -/
theorem mapM_cons (f : α → Except ε β) (x : α) (xs : List α) :
    (x :: xs).mapM f = (f x).bind fun y => (xs.mapM f).bind fun ys => .ok (y :: ys) :=
  List.mapM_cons

/-- A loop gives results iff every item gives one; they stand in the order of the items. -/
theorem mapM_eq_ok_iff {f : α → Except ε β} {xs : List α} {ys : List β} :
    xs.mapM f = .ok ys ↔ List.Forall₂ (fun x y => f x = .ok y) xs ys := by
  induction xs generalizing ys with
  | nil =>
    rw [List.forall₂_nil_left_iff]
    exact ⟨fun h => (Except.ok.inj h).symm, fun h => h ▸ rfl⟩
  | cons x xs ih =>
    rw [mapM_cons, List.forall₂_cons_left_iff]
    cases hx : f x with
    | error e => simp [Except.bind]
    | ok y =>
      cases hxs : xs.mapM f with
      | error e =>
        have hnone : ∀ zs, ¬ List.Forall₂ (fun x y => f x = .ok y) xs zs := by
          intro zs hzs
          rw [ih.mpr hzs] at hxs
          cases hxs
        simp [Except.bind, hnone]
      | ok zs =>
        have hzs := ih.mp hxs
        constructor
        · intro h
          exact ⟨y, zs, rfl, hzs, (Except.ok.inj h).symm⟩
        · rintro ⟨y', zs', hy', hzs', rfl⟩
          obtain rfl := Except.ok.inj hy'
          rw [ih.mpr hzs'] at hxs
          obtain rfl := Except.ok.inj hxs
          rfl

/-- What stands in the first of two paired lists has its partner in the second. -/
theorem exists_of_mem_left {R : α → β → Prop} {xs : List α} {ys : List β}
    (h : List.Forall₂ R xs ys) {x : α} (hx : x ∈ xs) : ∃ y ∈ ys, R x y := by
  induction h with
  | nil => exact absurd hx List.not_mem_nil
  | @cons x' y' xs ys hxy hrest ih =>
    rcases List.mem_cons.mp hx with rfl | hx
    · exact ⟨y', List.mem_cons_self, hxy⟩
    · obtain ⟨y, hy, hR⟩ := ih hx
      exact ⟨y, List.mem_cons_of_mem y' hy, hR⟩

/-- What stands in the second of two paired lists has its partner in the first. -/
theorem exists_of_mem_right {R : α → β → Prop} {xs : List α} {ys : List β}
    (h : List.Forall₂ R xs ys) {y : β} (hy : y ∈ ys) : ∃ x ∈ xs, R x y := by
  obtain ⟨x, hx, hR⟩ := exists_of_mem_left h.flip hy
  exact ⟨x, hx, hR⟩

/-- Paired lists are paired by whatever relates the pairs. -/
theorem imp_of_mem {R S : α → β → Prop} {xs : List α} {ys : List β}
    (h : ∀ x ∈ xs, ∀ y ∈ ys, R x y → S x y) (hR : List.Forall₂ R xs ys) : List.Forall₂ S xs ys := by
  induction hR with
  | nil => exact .nil
  | @cons x y xs ys hxy _ ih =>
    refine .cons (h x List.mem_cons_self y List.mem_cons_self hxy) (ih fun x' hx' y' hy' => ?_)
    exact h x' (List.mem_cons_of_mem x hx') y' (List.mem_cons_of_mem y hy')

/-- A list is paired with two lists one after the other iff it is made of lists paired with these. -/
theorem append_left_iff {R : α → β → Prop} {xs xs' : List α} {ys : List β} :
    List.Forall₂ R (xs ++ xs') ys ↔
      ∃ front back, List.Forall₂ R xs front ∧ List.Forall₂ R xs' back ∧ ys = front ++ back := by
  constructor
  · intro h
    induction xs generalizing ys with
    | nil => exact ⟨[], ys, .nil, h, rfl⟩
    | cons x xs ih =>
      obtain ⟨y, rest, hxy, hrest, rfl⟩ := List.forall₂_cons_left_iff.mp h
      obtain ⟨front, back, hfront, hback, rfl⟩ := ih hrest
      exact ⟨y :: front, back, .cons hxy hfront, hback, rfl⟩
  · rintro ⟨front, back, hfront, hback, rfl⟩
    exact List.rel_append hfront hback

/-- What stands last in the second of two paired lists has its partner last in the first. -/
theorem exists_of_getLast?_right {R : α → β → Prop} {xs : List α} {ys : List β}
    (h : List.Forall₂ R xs ys) {y : β} (hy : ys.getLast? = some y) :
    ∃ x, xs.getLast? = some x ∧ R x y := by
  have hreversed := List.forall₂_reverse_iff.mpr h
  rw [List.getLast?_eq_head?_reverse] at hy
  obtain ⟨rest, hrest⟩ := List.head?_eq_some_iff.mp hy
  rw [hrest] at hreversed
  obtain ⟨x, others, hxy, -, hxs⟩ := List.forall₂_cons_right_iff.mp hreversed
  refine ⟨x, ?_, hxy⟩
  rw [List.getLast?_eq_head?_reverse, hxs, List.head?_cons]

/-- The fault of a loop is the fault of one of its items. -/
theorem exists_of_mapM_eq_error {f : α → Except ε β} {xs : List α} {e : ε}
    (h : xs.mapM f = .error e) : ∃ x ∈ xs, f x = .error e := by
  induction xs with
  | nil => cases h
  | cons x xs ih =>
    rw [mapM_cons] at h
    cases hx : f x with
    | error e' =>
      rw [hx] at h
      obtain rfl := Except.error.inj h
      exact ⟨x, List.mem_cons_self, hx⟩
    | ok y =>
      cases hxs : xs.mapM f with
      | error e' =>
        rw [hx, hxs] at h
        obtain rfl := Except.error.inj h
        obtain ⟨z, hz, hfz⟩ := ih hxs
        exact ⟨z, List.mem_cons_of_mem x hz, hfz⟩
      | ok ys =>
        rw [hx, hxs] at h
        cases h

/-- A loop has a fault as soon as one of its items has one. -/
theorem exists_of_mem_of_error {f : α → Except ε β} {xs : List α} {x : α} {e : ε} (hx : x ∈ xs)
    (h : f x = .error e) : ∃ e', xs.mapM f = .error e' := by
  cases hxs : xs.mapM f with
  | error e' => exact ⟨e', rfl⟩
  | ok ys =>
    obtain ⟨y, -, hy⟩ := exists_of_mem_left (mapM_eq_ok_iff.mp hxs) hx
    cases h.symm.trans hy

/-- A step that has to succeed first. -/
theorem bind_eq_ok_iff {x : Except ε α} {f : α → Except ε β} {y : β} :
    (x >>= f) = .ok y ↔ ∃ a, x = .ok a ∧ f a = .ok y := by
  cases x with
  | error e =>
    constructor
    · intro h
      cases h
    · rintro ⟨a, ha, -⟩
      cases ha
  | ok a =>
    constructor
    · intro h
      exact ⟨a, rfl, h⟩
    · rintro ⟨a', ha, h⟩
      obtain rfl := Except.ok.inj ha
      exact h

/-- A loop without results succeeds iff it does so for every item. -/
theorem forM_eq_ok_iff {f : α → Except ε Unit} {xs : List α} :
    xs.forM f = .ok () ↔ ∀ x ∈ xs, f x = .ok () := by
  induction xs with
  | nil => exact ⟨fun _ x hx => absurd hx List.not_mem_nil, fun _ => rfl⟩
  | cons x xs ih =>
    rw [show (x :: xs).forM f = f x >>= fun _ => xs.forM f from rfl, bind_eq_ok_iff,
      List.forall_mem_cons, ← ih]
    exact ⟨fun ⟨_, hx, hxs⟩ => ⟨hx, hxs⟩, fun ⟨hx, hxs⟩ => ⟨(), hx, hxs⟩⟩

/-- Loops that agree on every item agree. -/
theorem mapM_congr {f g : α → Except ε β} {xs : List α} (h : ∀ x ∈ xs, f x = g x) :
    xs.mapM f = xs.mapM g := by
  induction xs with
  | nil => rfl
  | cons x xs ih =>
    rw [mapM_cons, mapM_cons, h x List.mem_cons_self,
      ih fun y hy => h y (List.mem_cons_of_mem x hy)]

/-! ### Outcomes side by side -/

/-- Two outcomes agree: they are the same fault, or results that are related. -/
inductive Agree {γ : Type} (Q : α → γ → Prop) : Except ε α → Except ε γ → Prop where
  /-- Both are the same fault. -/
  | error (e : ε) : Agree Q (.error e) (.error e)
  /-- Both are results that are related. -/
  | ok {a : α} {c : γ} : Q a c → Agree Q (.ok a) (.ok c)

/-- Outcomes agree by equality iff they are the same. -/
theorem agree_eq_iff {x y : Except ε α} : Agree Eq x y ↔ x = y := by
  constructor
  · rintro (_ | rfl)
    · rfl
    · rfl
  · rintro rfl
    cases x with
    | error e => exact .error e
    | ok a => exact .ok rfl

section

variable {γ δ : Type} {Q : α → γ → Prop} {S : β → δ → Prop} {x : Except ε α} {y : Except ε γ}

/-- Outcomes agree after functions that keep the relation. -/
theorem Agree.map {f : α → β} {g : γ → δ} (h : Agree Q x y) (hfg : ∀ a c, Q a c → S (f a) (g c)) :
    Agree S (x.map f) (y.map g) := by
  cases h with
  | error e => exact .error e
  | ok hac => exact .ok (hfg _ _ hac)

/-- Outcomes agree by whatever the relation implies. -/
theorem Agree.mono {R : α → γ → Prop} (h : Agree Q x y) (hQR : ∀ a c, Q a c → R a c) : Agree R x y := by
  cases h with
  | error e => exact .error e
  | ok hac => exact .ok (hQR _ _ hac)

/-- Outcomes agree under other names of the faults. -/
theorem Agree.mapError {ε' : Type} (h : Agree Q x y) (f : ε → ε') :
    Agree Q (x.mapError f) (y.mapError f) := by
  cases h with
  | error e => exact .error (f e)
  | ok hac => exact .ok hac

/-- Loops over paired lists agree if their items do. -/
theorem Agree.mapM {R : α → γ → Prop} {f : α → Except ε β} {g : γ → Except ε δ} {xs : List α}
    {ys : List γ} (h : List.Forall₂ R xs ys) (hfg : ∀ x y, R x y → Agree S (f x) (g y)) :
    Agree (List.Forall₂ S) (xs.mapM f) (ys.mapM g) := by
  induction h with
  | nil => exact .ok .nil
  | @cons x y xs ys hxy _ ih =>
    have hfirst := hfg x y hxy
    rw [mapM_cons, mapM_cons]
    generalize f x = first, g y = first', xs.mapM f = rest, ys.mapM g = rest' at hfirst ih
    cases hfirst with
    | error e => exact .error e
    | ok hb =>
      cases ih with
      | error e => exact .error e
      | ok hbs => exact .ok (.cons hb hbs)

end

end FluentBuilder.Outcome
