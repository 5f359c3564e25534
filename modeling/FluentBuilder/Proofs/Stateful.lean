/-!
# Parts of a run that may fail

Looking up names, changing files and working on declarations are computations over a state that may
fail and then keep what they changed before. `exec` says what such a part comes to from a state on,
and the equations here take it apart step by step.

`Keeps R` says that a part takes every state to one that is related to it, whether it fails or not. A
part that is put together from such parts is one itself if the relation is reflexive and transitive.
`FailsWith P` says that a part has only faults of a property, and it is put together in the same way.
-/

namespace FluentBuilder.Stateful

variable {ε σ α β : Type}

/-! ### Running a part -/

/-- What a part comes to from a state on: its result, and the state after it. -/
def exec (part : ExceptT ε (StateM σ) α) (s : σ) : Except ε α × σ :=
  (ExceptT.run part).run s

/-- A part that does nothing. -/
@[simp] theorem exec_pure (a : α) (s : σ) :
    exec (pure a : ExceptT ε (StateM σ) α) s = (.ok a, s) := rfl

/-- A part that fails. -/
@[simp] theorem exec_throw (e : ε) (s : σ) :
    exec (throw e : ExceptT ε (StateM σ) α) s = (.error e, s) := rfl

/-- The state as a result. -/
@[simp] theorem exec_get (s : σ) : exec (get : ExceptT ε (StateM σ) σ) s = (.ok s, s) := rfl

/-- Another state. -/
@[simp] theorem exec_set (s next : σ) :
    exec (set next : ExceptT ε (StateM σ) PUnit) s = (.ok ⟨⟩, next) := rfl

/-- A change of the state. -/
@[simp] theorem exec_modify (f : σ → σ) (s : σ) :
    exec (modify f : ExceptT ε (StateM σ) PUnit) s = (.ok ⟨⟩, f s) := rfl

/-- A result that is there. -/
@[simp] theorem exec_mk_pure (result : Except ε α) (s : σ) :
    exec (ExceptT.mk (pure result) : ExceptT ε (StateM σ) α) s = (result, s) := rfl

/-- A part with its faults under another name. -/
@[simp] theorem exec_adapt {ε' : Type} (f : ε → ε') (part : ExceptT ε (StateM σ) α) (s : σ) :
    exec (ExceptT.adapt f part) s = ((exec part s).1.mapError f, (exec part s).2) := rfl

/-- A part under a condition. -/
theorem exec_ite (c : Prop) [Decidable c] (part other : ExceptT ε (StateM σ) α) (s : σ) :
    exec (if c then part else other) s = if c then exec part s else exec other s := by
  split <;> rfl

/-- One part after another. -/
theorem exec_bind (part : ExceptT ε (StateM σ) α) (next : α → ExceptT ε (StateM σ) β) (s : σ) :
    exec (part >>= next) s = match exec part s with
      | (.ok a, s') => exec (next a) s'
      | (.error e, s') => (.error e, s') := by
  show (let (result, s') := (part : StateM σ (Except ε α)) s; ExceptT.bindCont next result s') = _
  unfold exec ExceptT.run StateT.run
  rcases (part : StateM σ (Except ε α)) s with ⟨_ | _, s'⟩ <;> rfl

/-- A part that comes after one that succeeds. -/
theorem exec_bind_of_ok {part : ExceptT ε (StateM σ) α} {next : α → ExceptT ε (StateM σ) β} {s s' : σ}
    {a : α} (h : exec part s = (.ok a, s')) : exec (part >>= next) s = exec (next a) s' := by
  rw [exec_bind, h]

/-- Nothing comes after a part that fails. -/
theorem exec_bind_of_error {part : ExceptT ε (StateM σ) α} {next : α → ExceptT ε (StateM σ) β}
    {s s' : σ} {e : ε} (h : exec part s = (.error e, s')) :
    exec (part >>= next) s = (.error e, s') := by
  rw [exec_bind, h]

/-- What two parts come to, one after the other. -/
theorem exec_bind_cases {part : ExceptT ε (StateM σ) α} {next : α → ExceptT ε (StateM σ) β}
    {s s'' : σ} {result : Except ε β} (h : exec (part >>= next) s = (result, s'')) :
    (∃ e, exec part s = (.error e, s'') ∧ result = .error e) ∨
      ∃ a s', exec part s = (.ok a, s') ∧ exec (next a) s' = (result, s'') := by
  rw [exec_bind] at h
  rcases hpart : exec part s with ⟨e | a, s'⟩
  · rw [hpart] at h
    obtain ⟨rfl, rfl⟩ := Prod.mk.inj h
    exact .inl ⟨e, rfl, rfl⟩
  · rw [hpart] at h
    exact .inr ⟨a, s', rfl, h⟩

/-- Two parts succeed if the first one does and then the second one. -/
theorem exec_bind_ok_iff {part : ExceptT ε (StateM σ) α} {next : α → ExceptT ε (StateM σ) β}
    {s s'' : σ} {b : β} :
    exec (part >>= next) s = (.ok b, s'') ↔
      ∃ a s', exec part s = (.ok a, s') ∧ exec (next a) s' = (.ok b, s'') := by
  constructor
  · intro h
    rcases exec_bind_cases h with ⟨e, -, he⟩ | h
    · cases he
    · exact h
  · rintro ⟨a, s', hpart, hnext⟩
    rw [exec_bind_of_ok hpart, hnext]

/-- Two parts have a result iff the first one has one and, from the state after it, the second one. -/
theorem exec_bind_fst_ok_iff {part : ExceptT ε (StateM σ) α} {next : α → ExceptT ε (StateM σ) β}
    {s : σ} {b : β} :
    (exec (part >>= next) s).1 = .ok b ↔
      ∃ a, (exec part s).1 = .ok a ∧ (exec (next a) (exec part s).2).1 = .ok b := by
  rw [exec_bind]
  rcases exec part s with ⟨e | a, s'⟩
  · simp
  · simp

/-- A part with another one for its fault. -/
theorem exec_tryCatch (part : ExceptT ε (StateM σ) α) (handle : ε → ExceptT ε (StateM σ) α) (s : σ) :
    exec (tryCatch part handle) s = match exec part s with
      | (.ok a, s') => (.ok a, s')
      | (.error e, s') => exec (handle e) s' := by
  show (let (result, s') := (part : StateM σ (Except ε α)) s
    (match result with
      | .ok a => pure (.ok a)
      | .error e => handle e : StateM σ (Except ε α)) s') = _
  unfold exec ExceptT.run StateT.run
  rcases (part : StateM σ (Except ε α)) s with ⟨_ | _, s'⟩ <;> rfl

/-- A part that succeeds for every item, one after the other: the state after it is related to the one
before as it is after one item. -/
theorem exec_forM {R : σ → σ → Prop} (hrefl : ∀ s, R s s)
    (htrans : ∀ s s' s'', R s s' → R s' s'' → R s s'') (part : α → ExceptT ε (StateM σ) PUnit)
    (hpart : ∀ a s, ∃ s', exec (part a) s = (.ok ⟨⟩, s') ∧ R s s') (items : List α) (s : σ) :
    ∃ s', exec (items.forM part) s = (.ok ⟨⟩, s') ∧ R s s' := by
  induction items generalizing s with
  | nil => exact ⟨s, rfl, hrefl s⟩
  | cons item rest ih =>
    obtain ⟨s', hfirst, hkept⟩ := hpart item s
    obtain ⟨s'', hothers, hrest⟩ := ih s'
    refine ⟨s'', ?_, htrans s s' s'' hkept hrest⟩
    rw [List.forM_eq_forM, List.forM_cons, exec_bind_of_ok hfirst]
    exact hothers

/-! ### What parts keep -/

/-- Whatever a part comes to, the state after it is related to the one before. -/
def Keeps (R : σ → σ → Prop) (part : ExceptT ε (StateM σ) α) : Prop :=
  ∀ s, R s (exec part s).2

namespace Keeps

variable {R : σ → σ → Prop} {part : ExceptT ε (StateM σ) α} {next : α → ExceptT ε (StateM σ) β}

/-- A part that leaves the state keeps everything. -/
theorem of_eq (hrefl : ∀ s, R s s) (h : ∀ s, (exec part s).2 = s) : Keeps R part := by
  intro s
  rw [h]
  exact hrefl s

/-- One part after another keeps what both keep. -/
theorem bind (htrans : ∀ s s' s'', R s s' → R s' s'' → R s s'') (hpart : Keeps R part)
    (hnext : ∀ a, Keeps R (next a)) : Keeps R (part >>= next) := by
  intro s
  have hfirst := hpart s
  rw [exec_bind]
  rcases hresult : exec part s with ⟨e | a, s'⟩
  · rw [hresult] at hfirst
    exact hfirst
  · rw [hresult] at hfirst
    exact htrans s s' _ hfirst (hnext a s')

/-- A part with another one for its fault keeps what both keep. -/
theorem tryCatch (htrans : ∀ s s' s'', R s s' → R s' s'' → R s s'') (hpart : Keeps R part)
    {handle : ε → ExceptT ε (StateM σ) α} (hhandle : ∀ e, Keeps R (handle e)) :
    Keeps R (tryCatch part handle) := by
  intro s
  have hfirst := hpart s
  rw [exec_tryCatch]
  rcases hresult : exec part s with ⟨e | a, s'⟩
  · rw [hresult] at hfirst
    exact htrans s s' _ hfirst (hhandle e s')
  · rw [hresult] at hfirst
    exact hfirst

/-- A part under a condition keeps what both parts keep. -/
theorem ite {c : Prop} [Decidable c] {other : ExceptT ε (StateM σ) α} (hpart : Keeps R part)
    (hother : Keeps R other) : Keeps R (if c then part else other) := by
  split
  · exact hpart
  · exact hother

end Keeps

/-! ### How parts fail -/

/-- Whenever a part fails, its fault has a property. -/
def FailsWith (P : ε → Prop) (part : ExceptT ε (StateM σ) α) : Prop :=
  ∀ s e s', exec part s = (.error e, s') → P e

namespace FailsWith

variable {P : ε → Prop} {part : ExceptT ε (StateM σ) α} {next : α → ExceptT ε (StateM σ) β}

/-- A part that never fails. -/
theorem of_ok (h : ∀ s, ∃ a s', exec part s = (.ok a, s')) : FailsWith P part := by
  intro s e s' he
  obtain ⟨a, s'', hok⟩ := h s
  rw [hok] at he
  cases he

/-- A part that only fails with a fault of the property. -/
theorem throw {e : ε} (h : P e) : FailsWith P (throw e : ExceptT ε (StateM σ) α) := by
  intro s e' s' he
  cases he
  exact h

/-- One part after another fails as both fail. -/
theorem bind (hpart : FailsWith P part) (hnext : ∀ a, FailsWith P (next a)) :
    FailsWith P (part >>= next) := by
  intro s e s' he
  rcases exec_bind_cases he with ⟨e', hfirst, heq⟩ | ⟨a, s'', -, hrest⟩
  · obtain rfl := Except.error.inj heq
    exact hpart s e s' hfirst
  · exact hnext a s'' e s' hrest

/-- A part with another one for its fault fails as the other one. -/
theorem tryCatch (hpart : FailsWith P part) {handle : ε → ExceptT ε (StateM σ) α}
    (hhandle : ∀ e, P e → FailsWith P (handle e)) : FailsWith P (tryCatch part handle) := by
  intro s e s' he
  rw [exec_tryCatch] at he
  rcases hresult : exec part s with ⟨e' | a, s''⟩
  · rw [hresult] at he
    exact hhandle e' (hpart s e' s'' hresult) s'' e s' he
  · rw [hresult] at he
    cases he

/-- A part under a condition fails as both parts fail. -/
theorem ite {c : Prop} [Decidable c] {other : ExceptT ε (StateM σ) α} (hpart : FailsWith P part)
    (hother : FailsWith P other) : FailsWith P (if c then part else other) := by
  split
  · exact hpart
  · exact hother

end FailsWith

end FluentBuilder.Stateful
