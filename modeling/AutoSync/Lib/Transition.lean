import Mathlib.Tactic.Common
import Mathlib.Data.List.Induction

/-!
# Runs of a labelled transition system

A system is a relation `step s e s'`: in state `s` the event `e` may take place and leave `s'`.
`Transition.Run step init es s` says that the events `es`, in that order, lead from `init` to `s`.
Events are appended at the end, so that an induction on a run sees the last step first — which is
the step an invariant has to survive.

* `Run.invariant` is the induction every safety proof is: what holds initially and survives every
  step holds in every state reached.  `Run.invariant_events` is the same with the invariant allowed
  to look at the events so far, which is how a statement about the history of a run is proved.
* `Run.of_append_cons` finds the states around an event of a run, and `Run.unique` says that a
  deterministic system has only one run for the same events.
* `Run.simulate` transports a run along a relation to another system, each step of the first being
  matched by some steps, possibly none, of the second.  `Run.map` is the case of a function that
  matches every step with one.
-/

set_option autoImplicit false

namespace Transition

variable {S E : Type*} {step : S → E → S → Prop} {init : S}

/-- The events `es` lead from `init` to the last argument, with one step of the system for each of
them. -/
inductive Run (step : S → E → S → Prop) (init : S) : List E → S → Prop
  | nil : Run step init [] init
  | snoc {es : List E} {e : E} {s s' : S} (h : Run step init es s) (hs : step s e s') :
      Run step init (es ++ [e]) s'

/-- **The invariant rule.**  What holds initially and survives every step holds in every state that
a run reaches. -/
theorem Run.invariant {I : S → Prop} (h0 : I init) (hstep : ∀ s e s', I s → step s e s' → I s')
    {es : List E} {s : S} (h : Run step init es s) : I s := by
  induction h with
  | nil => exact h0
  | snoc _ hs ih => exact hstep _ _ _ ih hs

/-- The invariant rule for properties of the whole history: the invariant may mention the events so
far, and the step may use that they are those of a run. -/
theorem Run.invariant_events {I : List E → S → Prop} (h0 : I [] init)
    (hstep : ∀ es s e s', Run step init es s → I es s → step s e s' → I (es ++ [e]) s')
    {es : List E} {s : S} (h : Run step init es s) : I es s := by
  induction h with
  | nil => exact h0
  | snoc hr hs ih => exact hstep _ _ _ _ hr ih hs

/-- Two runs one after the other, the second starting where the first has ended. -/
theorem Run.append {es fs : List E} {s s' : S} (h : Run step init es s) (h' : Run step s fs s') :
    Run step init (es ++ fs) s' := by
  induction h' with
  | nil => rwa [List.append_nil]
  | snoc _ hs ih => rw [← List.append_assoc]; exact .snoc ih hs

/-- The last step of a run, and the run that leads up to it. -/
theorem Run.of_append_singleton {es : List E} {e : E} {s' : S}
    (h : Run step init (es ++ [e]) s') : ∃ s, Run step init es s ∧ step s e s' := by
  generalize hfs : es ++ [e] = fs at h
  cases h with
  | nil => exact absurd hfs (by simp)
  | snoc h hs =>
    obtain ⟨rfl, he⟩ := List.append_inj' hfs rfl
    obtain rfl : e = _ := (List.cons.inj he).1
    exact ⟨_, h, hs⟩

/-- A run, split at one of its events: the states before and after it. -/
theorem Run.of_append_cons {es fs : List E} {e : E} {s' : S}
    (h : Run step init (es ++ e :: fs) s') :
    ∃ s₁ s₂, Run step init es s₁ ∧ step s₁ e s₂ := by
  induction fs using List.reverseRecOn generalizing s' with
  | nil =>
    obtain ⟨s, hr, hs⟩ := h.of_append_singleton
    exact ⟨s, s', hr, hs⟩
  | append_singleton fs f ih =>
    rw [← List.cons_append, ← List.append_assoc] at h
    obtain ⟨s, hr, -⟩ := h.of_append_singleton
    exact ih hr

/-- If every event leads to one state only, so does every run. -/
theorem Run.unique (hdet : ∀ s e s₁ s₂, step s e s₁ → step s e s₂ → s₁ = s₂) {es : List E}
    {s₁ s₂ : S} (h₁ : Run step init es s₁) (h₂ : Run step init es s₂) : s₁ = s₂ := by
  induction h₁ generalizing s₂ with
  | nil =>
    generalize hes : ([] : List E) = es at h₂
    cases h₂ with
    | nil => rfl
    | snoc => exact absurd hes (by simp)
  | snoc _ hs ih =>
    obtain ⟨s, hr, hs'⟩ := h₂.of_append_singleton
    obtain rfl := ih hr
    exact hdet _ _ _ _ hs hs'

/-- A run of one step, which is how runs on given events are built. -/
theorem Run.single {e : E} {s : S} (h : step init e s) : Run step init [e] s := .snoc .nil h

/-- A run, seen as one of another system that makes a step whenever the first does. -/
theorem Run.map {S' E' : Type*} {step' : S' → E' → S' → Prop} (f : S → S') (g : E → E')
    (hstep : ∀ s e s', step s e s' → step' (f s) (g e) (f s')) {es : List E} {s : S}
    (h : Run step init es s) : Run step' (f init) (es.map g) (f s) := by
  induction h with
  | nil => exact .nil
  | snoc _ hs ih =>
    rw [List.map_append]
    exact ih.snoc (hstep _ _ _ hs)

/-- **The simulation rule.**  If every step from a related pair of states is matched by a run of
the other system that ends in related states, so is every run. -/
theorem Run.simulate {A F : Type*} {astep : A → F → A → Prop} {ainit : A} {R : S → A → Prop}
    (h0 : R init ainit)
    (hstep : ∀ s e s' a, R s a → step s e s' → ∃ fs a', Run astep a fs a' ∧ R s' a')
    {es : List E} {s : S} (h : Run step init es s) :
    ∃ fs a, Run astep ainit fs a ∧ R s a := by
  induction h with
  | nil => exact ⟨[], ainit, .nil, h0⟩
  | snoc _ hs ih =>
    obtain ⟨fs, a, hrun, hR⟩ := ih
    obtain ⟨gs, a', hrun', hR'⟩ := hstep _ _ _ a hR hs
    exact ⟨fs ++ gs, a', hrun.append hrun', hR'⟩

end Transition
