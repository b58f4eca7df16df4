import Mathlib.Tactic.TypeStar

/-! # Runs of a labelled transition relation, with their histories

A system that takes step after step is a relation `step s l t`: in state `s` the
event `l` can happen and leaves state `t`.  A finite run keeps its **history**:
every event together with the state it happened in, most recent first.  The
history is what statements about the past of a run are about ("some earlier
state satisfied …", "this answer was given before"); it is not part of the state.

`Run.always` is the one induction a safety property needs.  The statements here
name no system; an instance supplies `step` and its own step lemmas.
-/
namespace LabelledRuns
variable {State Label : Type*}

/-- `Run step s h t`: a run from `s` to `t` whose history is `h`. -/
inductive Run (step : State → Label → State → Prop) (s : State) :
    List (State × Label) → State → Prop
  | start : Run step s [] s
  | next {h : List (State × Label)} {t u : State} {l : Label} :
      Run step s h t → step t l u → Run step s ((t, l) :: h) u

/-- The steps that moreover meet a condition on the state they leave and on the
event. -/
def Guarded (step : State → Label → State → Prop) (C : State → Label → Prop) :
    State → Label → State → Prop :=
  fun s l t => C s l ∧ step s l t

namespace Run
variable {step : State → Label → State → Prop} {s t u : State} {h : List (State × Label)}

/-- **The invariant rule.**  What holds at the start, with the empty history, and
is kept by every step of a run, holds of every run. -/
theorem always {P : List (State × Label) → State → Prop} (h0 : P [] s)
    (hstep : ∀ h t l u, Run step s h t → P h t → step t l u → P ((t, l) :: h) u)
    (hr : Run step s h t) : P h t := by
  induction hr with
  | start => exact h0
  | next hr hs ih => exact hstep _ _ _ _ hr ih hs

/-- The invariant rule for a property of the state alone. -/
theorem invariant {P : State → Prop} (h0 : P s) (hstep : ∀ t l u, P t → step t l u → P u)
    (hr : Run step s h t) : P t :=
  hr.always (P := fun _ => P) h0 (fun _ t l u _ hP hs => hstep t l u hP hs)

/-- A run of fewer steps is a run of more steps. -/
theorem mono {step' : State → Label → State → Prop}
    (hsub : ∀ t l u, step t l u → step' t l u) (hr : Run step s h t) : Run step' s h t := by
  induction hr with
  | start => exact .start
  | next _ hs ih => exact ih.next (hsub _ _ _ hs)

/-- A run whose steps meet a condition is a run. -/
theorem of_guarded {C : State → Label → Prop} (hr : Run (Guarded step C) s h t) :
    Run step s h t :=
  hr.mono fun _ _ _ hs => hs.2

/-- Every event of the history is a step taken from a state of the run. -/
theorem exists_step (hr : Run step s h t) {v : State} {l : Label} (hm : (v, l) ∈ h) :
    ∃ h' w, Run step s h' v ∧ step v l w := by
  induction hr with
  | start => cases hm
  | next hr hs ih =>
    rcases List.mem_cons.mp hm with heq | hm
    · obtain ⟨rfl, rfl⟩ := Prod.mk.inj heq
      exact ⟨_, _, hr, hs⟩
    · exact ih hm

end Run
end LabelledRuns
