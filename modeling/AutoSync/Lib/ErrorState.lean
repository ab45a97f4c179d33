import Mathlib.Data.Fintype.Basic

/-!
# Computations that keep their state when they fail

An imperative operation that raises an exception half way through does not undo what it has
already done.  `EStateM ε σ` is the monad that says so: its results `.ok a s` and `.error e s` both
carry a final state.  Core Lean has the monad and its `run_bind`; this file adds what a
verification of loops over such a state needs.

* `EStateM.focus` runs a computation on a component of the state, and keeps what it did to the
  component when it fails.
* `EStateM.Result.state` is the final state, whichever way the computation ended.
* `EStateM.run_forM_ok`, `EStateM.run_forM_error`, `EStateM.of_run_forM_ok`,
  `EStateM.of_run_forM_error` and `EStateM.state_run_forM` are the loop rules: a loop every step of
  which succeeds, one that is known to fail, what can be read off a loop that did succeed, where a
  loop failed, and what survives a loop that may stop anywhere.  The invariant of the first four may
  mention the part of the list that has been processed.
* `EStateM.Result.Ends` is a postcondition for a computation that may fail, with the rules of
  sequencing and of loops.
* `Except.foldlM_ok` is the first of them for a loop with an accumulator, and `Except.collect`
  computes a value for every index below `n` in this way.
-/

set_option autoImplicit false

namespace EStateM

variable {ε σ τ α : Type}

/-- The state a computation leaves, whether it returned or failed. -/
def Result.state : Result ε σ α → σ
  | .ok _ s => s
  | .error _ s => s

@[simp] theorem Result.state_ok (a : α) (s : σ) : (Result.ok a s : Result ε σ α).state = s := rfl

@[simp] theorem Result.state_error (e : ε) (s : σ) :
    (Result.error e s : Result ε σ α).state = s := rfl

/-- The computation returned a value instead of failing. -/
def Result.isOk : Result ε σ α → Bool
  | .ok _ _ => true
  | .error _ _ => false

@[simp] theorem run_ofExcept_ok (a : α) (s : σ) :
    (ofExcept (.ok a : Except ε α) : EStateM ε σ α).run s = .ok a s := rfl

@[simp] theorem run_ofExcept_error (e : ε) (s : σ) :
    (ofExcept (.error e : Except ε α) : EStateM ε σ α).run s = .error e s := rfl

/-- The result with its final state embedded in another type of states. -/
def Result.mapState (f : σ → τ) : Result ε σ α → Result ε τ α
  | .ok a s => .ok a (f s)
  | .error e s => .error e (f s)

@[simp] theorem Result.mapState_ok (f : σ → τ) (a : α) (s : σ) :
    (Result.ok a s : Result ε σ α).mapState f = .ok a (f s) := rfl

@[simp] theorem Result.mapState_error (f : σ → τ) (e : ε) (s : σ) :
    (Result.error e s : Result ε σ α).mapState f = .error e (f s) := rfl

@[simp] theorem Result.state_mapState (f : σ → τ) (r : Result ε σ α) :
    (r.mapState f).state = f r.state := by
  cases r <;> rfl

theorem Result.mapState_eq_ok {f : σ → τ} {r : Result ε σ α} {a : α} {t : τ} :
    r.mapState f = .ok a t ↔ ∃ s, r = .ok a s ∧ f s = t := by
  cases r <;> simp

/-- The end of a computation that returns nothing, with or without an error: what is left to say is
whether there was one. -/
def Result.ended (e? : Option ε) (s : σ) : Result ε σ Unit :=
  match e? with
  | none => .ok () s
  | some e => .error e s

@[simp] theorem Result.mapState_ended (f : σ → τ) (e? : Option ε) (s : σ) :
    (Result.ended e? s).mapState f = .ended e? (f s) := by
  cases e? <;> rfl

/-- Run a computation on a component of the state, and put the component back however the
computation ended. -/
def focus (get : σ → τ) (put : τ → σ → σ) (act : EStateM ε τ α) : EStateM ε σ α := fun s ↦
  (act.run (get s)).mapState (put · s)

theorem run_focus (get : σ → τ) (put : τ → σ → σ) (act : EStateM ε τ α) (s : σ) :
    (focus get put act).run s = (act.run (get s)).mapState (put · s) := rfl

variable {s : σ}

/-- A sequence succeeds exactly when both of its parts do, the second from the state and with the
value that the first has left. -/
theorem run_bind_eq_ok {β : Type} {x : EStateM ε σ α} {f : α → EStateM ε σ β} {b : β} {s s' : σ} :
    (x >>= f).run s = .ok b s' ↔ ∃ a t, x.run s = .ok a t ∧ (f a).run t = .ok b s' := by
  rw [run_bind]
  cases x.run s <;> simp

/-- A sequence fails when one of its parts does, and then it fails with that error and in that
state. -/
theorem run_bind_eq_error {β : Type} {x : EStateM ε σ α} {f : α → EStateM ε σ β} {e : ε}
    {s s' : σ} : (x >>= f).run s = .error e s' ↔
      x.run s = .error e s' ∨ ∃ a t, x.run s = .ok a t ∧ (f a).run t = .error e s' := by
  rw [run_bind]
  cases x.run s <;> simp

/-- What holds after a sequence that may stop in between, if each part leaves it true whichever way
it ends. -/
theorem state_run_bind {β : Type} {x : EStateM ε σ α} {f : α → EStateM ε σ β} {I : σ → Prop}
    (hx : I (x.run s).state) (hf : ∀ a t, I t → I ((f a).run t).state) :
    I ((x >>= f).run s).state := by
  rw [run_bind]
  cases h : x.run s with
  | ok a t => rw [h] at hx; exact hf a t hx
  | error e t => rwa [h] at hx

/-! ## Loops

A loop goes through the elements of a list and stops at the first that fails.  So a loop is
described by an invariant that knows which elements have been gone through: the rules below differ
in whether they go from the steps to the loop or back, and in whether the loop fails. -/

variable {f : α → EStateM ε σ PUnit} {l : List α}

private theorem run_forM_ok_aux {I : List α → σ → Prop}
    (step : ∀ pre x post s, l = pre ++ x :: post → I pre s →
      ∃ s', (f x).run s = .ok ⟨⟩ s' ∧ I (pre ++ [x]) s') :
    ∀ (rest pre : List α) (s : σ), l = pre ++ rest → I pre s →
      ∃ s', (forM rest f).run s = .ok ⟨⟩ s' ∧ I l s'
  | [], pre, s, hl, hI => ⟨s, rfl, by rwa [hl, List.append_nil]⟩
  | x :: rest, pre, s, hl, hI => by
    obtain ⟨s₁, h₁, hI₁⟩ := step pre x rest s hl hI
    obtain ⟨s₂, h₂, hI₂⟩ := run_forM_ok_aux step rest (pre ++ [x]) s₁ (by simp [hl]) hI₁
    refine ⟨s₂, ?_, hI₂⟩
    rw [List.forM_cons]
    exact run_bind_eq_ok.2 ⟨⟨⟩, s₁, h₁, h₂⟩

/-- **The loop rule.**  A loop succeeds if every step succeeds from a state that satisfies the
invariant of the elements before it, and establishes the invariant with its own element added. -/
theorem run_forM_ok {I : List α → σ → Prop} (h0 : I [] s)
    (step : ∀ pre x post s, l = pre ++ x :: post → I pre s →
      ∃ s', (f x).run s = .ok ⟨⟩ s' ∧ I (pre ++ [x]) s') :
    ∃ s', (forM l f).run s = .ok ⟨⟩ s' ∧ I l s' :=
  run_forM_ok_aux step l [] s rfl h0

private theorem of_run_forM_ok_aux {I : List α → σ → Prop} {P : α → Prop}
    (step : ∀ pre x post s s', l = pre ++ x :: post → I pre s → (f x).run s = .ok ⟨⟩ s' →
      P x ∧ I (pre ++ [x]) s') {s' : σ} :
    ∀ (rest pre : List α) (s : σ), l = pre ++ rest → I pre s →
      (forM rest f).run s = .ok ⟨⟩ s' → (∀ x ∈ rest, P x) ∧ I l s'
  | [], pre, s, hl, hI, h => by
    rw [List.forM_nil] at h
    cases h
    exact ⟨by simp, by rwa [hl, List.append_nil]⟩
  | x :: rest, pre, s, hl, hI, h => by
    rw [List.forM_cons] at h
    obtain ⟨⟨⟩, s₁, h₁, h₂⟩ := run_bind_eq_ok.1 h
    obtain ⟨hP, hI₁⟩ := step pre x rest s s₁ hl hI h₁
    obtain ⟨hrest, hI₂⟩ := of_run_forM_ok_aux step rest (pre ++ [x]) s₁ (by simp [hl]) hI₁ h₂
    exact ⟨List.forall_mem_cons.2 ⟨hP, hrest⟩, hI₂⟩

/-- **What a loop that succeeded has gone through**: if a successful step from the invariant
establishes `P` of its element, every element satisfies `P`.  This is the loop rule read
backwards. -/
theorem of_run_forM_ok {I : List α → σ → Prop} {P : α → Prop} {s' : σ} (h0 : I [] s)
    (step : ∀ pre x post s s', l = pre ++ x :: post → I pre s → (f x).run s = .ok ⟨⟩ s' →
      P x ∧ I (pre ++ [x]) s') (h : (forM l f).run s = .ok ⟨⟩ s') :
    (∀ x ∈ l, P x) ∧ I l s' :=
  of_run_forM_ok_aux step l [] s rfl h0 h

private theorem of_run_forM_error_aux {I : List α → σ → Prop}
    (step : ∀ pre x post s s', l = pre ++ x :: post → I pre s → (f x).run s = .ok ⟨⟩ s' →
      I (pre ++ [x]) s') {e : ε} {s' : σ} :
    ∀ (rest pre : List α) (s : σ), l = pre ++ rest → I pre s →
      (forM rest f).run s = .error e s' →
      ∃ pre x post t, l = pre ++ x :: post ∧ I pre t ∧ (f x).run t = .error e s'
  | [], pre, s, hl, hI, h => by
    rw [List.forM_nil] at h
    cases h
  | x :: rest, pre, s, hl, hI, h => by
    rw [List.forM_cons] at h
    obtain h | ⟨⟨⟩, t, h₁, h₂⟩ := run_bind_eq_error.1 h
    · exact ⟨pre, x, rest, s, hl, hI, h⟩
    · exact of_run_forM_error_aux step rest (pre ++ [x]) t (by simp [hl])
        (step pre x rest s t hl hI h₁) h₂

/-- **Where a loop has failed**: at one of its elements, from the invariant of those before it. -/
theorem of_run_forM_error {I : List α → σ → Prop} {e : ε} {s' : σ} (h0 : I [] s)
    (step : ∀ pre x post s s', l = pre ++ x :: post → I pre s → (f x).run s = .ok ⟨⟩ s' →
      I (pre ++ [x]) s') (h : (forM l f).run s = .error e s') :
    ∃ pre x post t, l = pre ++ x :: post ∧ I pre t ∧ (f x).run t = .error e s' :=
  of_run_forM_error_aux step l [] s rfl h0 h

/-- **The loop rule for a loop that fails.**  If every step before `x` succeeds and the step of `x`
fails, from the invariant of the elements before it, so does the loop, in the same way. -/
theorem run_forM_error {I : List α → σ → Prop} {Q : σ → Prop} {e : ε} {pre post : List α} {x : α}
    (h0 : I [] s) (hl : l = pre ++ x :: post)
    (step : ∀ pre' y post' s, pre = pre' ++ y :: post' → I pre' s →
      ∃ s', (f y).run s = .ok ⟨⟩ s' ∧ I (pre' ++ [y]) s')
    (hfail : ∀ s, I pre s → ∃ s', (f x).run s = .error e s' ∧ Q s') :
    ∃ s', (forM l f).run s = .error e s' ∧ Q s' := by
  obtain ⟨t, ht, hI⟩ := run_forM_ok h0 step
  obtain ⟨s', hs', hQ⟩ := hfail t hI
  refine ⟨s', ?_, hQ⟩
  rw [hl, List.forM_append, List.forM_cons]
  exact run_bind_eq_error.2 (.inr ⟨⟨⟩, t, ht, run_bind_eq_error.2 (.inl hs')⟩)

/-- The first element with a property, with the elements before it, none of which has the
property. -/
theorem exists_first {p : α → Prop} {l : List α} (h : ∃ x ∈ l, p x) :
    ∃ pre x post, l = pre ++ x :: post ∧ p x ∧ ∀ y ∈ pre, ¬p y := by
  induction l with
  | nil => exact absurd h (by simp)
  | cons x l ih =>
    by_cases hx : p x
    · exact ⟨[], x, l, rfl, hx, by simp⟩
    · obtain ⟨y, hy, hpy⟩ := h
      have hyl : y ∈ l := (List.mem_cons.1 hy).resolve_left fun e ↦ hx (e ▸ hpy)
      obtain ⟨pre, z, post, rfl, hz, hpre⟩ := ih ⟨y, hyl, hpy⟩
      exact ⟨x :: pre, z, post, rfl, hz, List.forall_mem_cons.2 ⟨hx, hpre⟩⟩

/-- A loop on a component is a loop of steps on the component, each of which puts the component
back. -/
theorem focus_forM {get : σ → τ} {put : τ → σ → σ} (hget : ∀ t s, get (put t s) = t)
    (hput : ∀ t t' s, put t' (put t s) = put t' s) (hid : ∀ s, put (get s) s = s)
    (f : α → EStateM ε τ PUnit) (l : List α) :
    focus get put (forM l f) = forM l fun x ↦ focus get put (f x) := by
  induction l with
  | nil =>
    funext s
    show Result.ok PUnit.unit (put (get s) s) = Result.ok PUnit.unit s
    rw [hid]
  | cons x l ih =>
    rw [List.forM_cons, List.forM_cons, ← ih]
    funext s
    show ((f x >>= fun _ ↦ forM l f).run (get s)).mapState (put · s) =
      (focus get put (f x) >>= fun _ ↦ focus get put (forM l f)).run s
    rw [run_bind, run_bind, run_focus]
    cases (f x).run (get s) with
    | error e t => rfl
    | ok a t =>
      simp only [Result.mapState_ok, run_focus, hget]
      cases (forM l f).run t with
      | ok b t' => simp only [Result.mapState_ok, hput]
      | error e t' => simp only [Result.mapState_error, hput]

/-- **What survives a loop that may stop anywhere**: a property of the state that every step leaves
true, whichever way the step ends. -/
theorem state_run_forM {I : σ → Prop} (step : ∀ x ∈ l, ∀ s, I s → I ((f x).run s).state)
    (h0 : I s) : I ((forM l f).run s).state := by
  induction l generalizing s with
  | nil => exact h0
  | cons x l ih =>
    rw [List.forM_cons, run_bind]
    have hx := step x List.mem_cons_self s h0
    cases h : (f x).run s with
    | ok a s₁ =>
      rw [h] at hx
      exact ih (fun y hy ↦ step y (List.mem_cons_of_mem _ hy)) hx
    | error e s₁ => rwa [h] at hx

/-! ## How a computation may end

`Result.Ends Q P` is the postcondition of a computation that may fail: whichever way it ended, the
state is in `Q`, and the error, if there was one, is in `P`.  It goes through sequences and loops,
so that the list of what can go wrong in a program is put together from its parts. -/

section

variable {β : Type} {Q Q' : σ → Prop} {P P' : ε → Prop}

/-- The final state is in `Q`, and the error, if the computation ended with one, is in `P`. -/
def Result.Ends (Q : σ → Prop) (P : ε → Prop) : Result ε σ α → Prop
  | .ok _ s => Q s
  | .error e s => Q s ∧ P e

theorem Result.Ends.state {r : Result ε σ α} (h : r.Ends Q P) : Q r.state := by
  cases r with
  | ok a s => exact h
  | error e s => exact h.1

theorem Result.Ends.error {r : Result ε σ α} {e : ε} {s : σ} (h : r.Ends Q P)
    (hr : r = .error e s) : P e := by
  rw [hr] at h
  exact h.2

/-- Nothing is asked, which is what is known of a computation that is a parameter. -/
theorem Result.ends_true (r : Result ε σ α) : r.Ends (fun _ ↦ True) fun _ ↦ True := by
  cases r with
  | ok a s => trivial
  | error e s => exact ⟨trivial, trivial⟩

theorem Result.Ends.mono {r : Result ε σ α} (h : r.Ends Q P) (hQ : ∀ s, Q s → Q' s)
    (hP : ∀ e, P e → P' e) : r.Ends Q' P' := by
  cases r with
  | ok a s => exact hQ s h
  | error e s => exact ⟨hQ s h.1, hP e h.2⟩

/-- The rule of sequencing, when more is known of the state in between than is to hold at the end:
`Q'` is what the first part establishes and the second may use. -/
theorem Result.Ends.trans {x : EStateM ε σ α} {f : α → EStateM ε σ β} {s : σ}
    (hx : (x.run s).Ends Q' P) (hQ : ∀ t, Q' t → Q t)
    (hf : ∀ a t, x.run s = .ok a t → Q' t → ((f a).run t).Ends Q P) :
    ((x >>= f).run s).Ends Q P := by
  rw [run_bind]
  cases hr : x.run s with
  | ok a t => rw [hr] at hx; exact hf a t hr hx
  | error e t => rw [hr] at hx; exact ⟨hQ t hx.1, hx.2⟩

/-- The rule of sequencing, when both parts keep the same property of the state. -/
theorem Result.Ends.bind {x : EStateM ε σ α} {f : α → EStateM ε σ β} {s : σ}
    (hx : (x.run s).Ends Q P) (hf : ∀ a t, x.run s = .ok a t → Q t → ((f a).run t).Ends Q P) :
    ((x >>= f).run s).Ends Q P :=
  hx.trans (fun _ h ↦ h) hf

/-- The rule of loops: every step keeps the property, so that it holds wherever the loop stops. -/
theorem Result.Ends.forM {f : α → EStateM ε σ PUnit} {l : List α} {s : σ}
    (step : ∀ x ∈ l, ∀ s, Q s → ((f x).run s).Ends Q P) (h0 : Q s) :
    ((ForM.forM l f).run s).Ends Q P := by
  induction l generalizing s with
  | nil => exact h0
  | cons x l ih =>
    rw [List.forM_cons]
    exact .bind (step x List.mem_cons_self s h0)
      fun _ t _ ht ↦ ih (fun y hy ↦ step y (List.mem_cons_of_mem _ hy)) ht

theorem Result.Ends.mapState {R : τ → Prop} {r : Result ε τ α} {f : τ → σ} (h : r.Ends R P)
    (hf : ∀ t, R t → Q (f t)) : (r.mapState f).Ends Q P := by
  cases r with
  | ok a t => exact hf t h
  | error e t => exact ⟨hf t h.1, h.2⟩

/-- A value computed on the side, which changes nothing of the state and may fail. -/
theorem Result.Ends.ofExcept {x : Except ε α} {s : σ} (h0 : Q s) (hx : ∀ e, x = .error e → P e) :
    ((MonadExcept.ofExcept x : EStateM ε σ α).run s).Ends Q P := by
  cases x with
  | ok a => exact h0
  | error e => exact ⟨h0, hx e rfl⟩

end

end EStateM

/-! ## Loops with an accumulator

A loop that only builds a value, and whose partial value is lost when it fails, is a `foldlM` in
`Except`. -/

namespace Except

variable {ε α β : Type} {f : β → α → Except ε β} {l : List α}

private theorem foldlM_ok_aux {I : List α → β → Prop}
    (step : ∀ pre x post b, l = pre ++ x :: post → I pre b →
      ∃ b', f b x = .ok b' ∧ I (pre ++ [x]) b') :
    ∀ (rest pre : List α) (b : β), l = pre ++ rest → I pre b →
      ∃ b', rest.foldlM f b = .ok b' ∧ I l b'
  | [], pre, b, hl, hI => ⟨b, rfl, by rwa [hl, List.append_nil]⟩
  | x :: rest, pre, b, hl, hI => by
    obtain ⟨b₁, h₁, hI₁⟩ := step pre x rest b hl hI
    obtain ⟨b₂, h₂, hI₂⟩ := foldlM_ok_aux step rest (pre ++ [x]) b₁ (by simp [hl]) hI₁
    refine ⟨b₂, ?_, hI₂⟩
    rw [List.foldlM_cons, h₁]
    exact h₂

/-- The loop rule, for a loop with an accumulator: the invariant relates the elements gone through
to the value built so far. -/
theorem foldlM_ok {I : List α → β → Prop} {b : β} (h0 : I [] b)
    (step : ∀ pre x post b, l = pre ++ x :: post → I pre b →
      ∃ b', f b x = .ok b' ∧ I (pre ++ [x]) b') :
    ∃ b', l.foldlM f b = .ok b' ∧ I l b' :=
  foldlM_ok_aux step l [] b rfl h0

private theorem of_foldlM_ok_aux {P : α → Prop}
    (step : ∀ x b b', f b x = .ok b' → P x) {b' : β} :
    ∀ (rest : List α) (b : β), rest.foldlM f b = .ok b' → ∀ x ∈ rest, P x
  | [], _, _ => by simp
  | x :: rest, b, h => by
    rw [List.foldlM_cons] at h
    cases hx : f b x with
    | error e => rw [hx] at h; cases h
    | ok b₁ =>
      rw [hx] at h
      exact List.forall_mem_cons.2 ⟨step x b b₁ hx, of_foldlM_ok_aux step rest b₁ h⟩

/-- What a loop with an accumulator that succeeded has gone through: `P` holds of every element if
it does whenever a step succeeds. -/
theorem of_foldlM_ok {P : α → Prop} {b b' : β} (step : ∀ x b b', f b x = .ok b' → P x)
    (h : l.foldlM f b = .ok b') : ∀ x ∈ l, P x :=
  of_foldlM_ok_aux step l b h

/-- A sequence that fails has failed in one of its parts, with that part's error. -/
theorem bind_eq_error {x : Except ε α} {f : α → Except ε β} {e : ε}
    (h : x >>= f = .error e) : x = .error e ∨ ∃ a, x = .ok a ∧ f a = .error e := by
  cases x with
  | error e' => cases h; exact .inl rfl
  | ok a => exact .inr ⟨a, rfl, h⟩

/-- What a loop with an accumulator can fail with: what one of its steps can, whatever the value was
that it had built. -/
theorem foldlM_error {P : ε → Prop} (step : ∀ x ∈ l, ∀ b e, f b x = .error e → P e) {b : β} {e : ε}
    (h : l.foldlM f b = .error e) : P e := by
  induction l generalizing b with
  | nil => cases h
  | cons x l ih =>
    rw [List.foldlM_cons] at h
    rcases bind_eq_error h with hx | ⟨b₁, -, hl⟩
    · exact step x List.mem_cons_self b e hx
    · exact ih (fun y hy ↦ step y (List.mem_cons_of_mem _ hy)) hl

/-- Compute a value for every index, in order; the first failure is the failure of the whole.  What
stands at the indices before it starts does not matter if it succeeds. -/
def collect {n : ℕ} (f : Fin n → Except ε α) (init : Fin n → α) : Except ε (Fin n → α) :=
  (List.finRange n).foldlM (fun g i ↦ do
    let x ← f i
    return Function.update g i x) init

theorem collect_ok {n : ℕ} {f : Fin n → Except ε α} {g : Fin n → α} (h : ∀ i, f i = .ok (g i))
    (init : Fin n → α) : collect f init = .ok g := by
  obtain ⟨g', hg', hI⟩ := foldlM_ok (l := List.finRange n) (b := init)
    (f := fun (g : Fin n → α) i ↦ do
      let x ← f i
      return Function.update g i x)
    (I := fun pre (b : Fin n → α) ↦ ∀ i ∈ pre, b i = g i) (by simp) (by
      intro pre x post b _ hI
      refine ⟨Function.update b x (g x), by rw [h]; rfl, fun i hi ↦ ?_⟩
      by_cases hix : i = x
      · subst hix; simp
      · rw [Function.update_of_ne hix]
        exact hI i (by simpa [hix] using hi))
  rw [collect, hg', funext fun i ↦ hI i (List.mem_finRange i)]

theorem collect_error {n : ℕ} {f : Fin n → Except ε α} {P : ε → Prop}
    (hf : ∀ i e, f i = .error e → P e) {init : Fin n → α} {e : ε}
    (h : collect f init = .error e) : P e := by
  refine foldlM_error (fun i _ g e he ↦ ?_) h
  rcases bind_eq_error he with hi | ⟨x, -, hx⟩
  · exact hf i e hi
  · cases hx

end Except
