import Mathlib.Data.List.Defs
import Mathlib.Tactic.Linarith
import Testkit.LabelledRuns

/-! # Actions that keep a distance

Some events of a system are actions, each at an instant of some clock.  What a system
remembers decides at which instants the next action may happen (`Ready`).  If an action
forbids the time until `w` after it, and no step forgets what is forbidden, then all actions
of a run are `w` apart (`spaced_of_run`), and few of them fall into a window
(`Spaced.sparse`).
-/
namespace Cooldown
open LabelledRuns

/-- Instants, most recent first, each at least `w` after all before it. -/
def Spaced (w : Int) (ts : List Int) : Prop := ts.Pairwise fun late early => early + w ≤ late

/-- A window has room for few of them. -/
theorem Spaced.window_le {w a b : Int} {ts : List Int} (hts : Spaced w ts) (hne : ts ≠ [])
    (hin : ∀ t ∈ ts, a ≤ t ∧ t ≤ b) : (ts.length - 1) * w ≤ b - a := by
  induction ts generalizing b with
  | nil => exact absurd rfl hne
  | cons t ts ih =>
    have ht := hin t List.mem_cons_self
    obtain ⟨hfirst, hrest⟩ := List.pairwise_cons.mp hts
    by_cases hnil : ts = []
    · subst hnil
      simp only [List.length_cons, List.length_nil]
      push_cast
      linarith
    · -- the others end `w` before the first
      have hle : (ts.length - 1) * w ≤ (t - w) - a := by
        refine ih hrest hnil fun u hu => ⟨(hin u (List.mem_cons_of_mem _ hu)).1, ?_⟩
        have := hfirst u hu
        omega
      rw [List.length_cons]
      push_cast
      linarith

/-- No window has more of the instants than fit into it at a distance of `w`. -/
def Sparse (w : Int) (ts : List Int) : Prop :=
  ∀ a b, a ≤ b → ((ts.filter fun t => a ≤ t ∧ t ≤ b).length : Int) * w ≤ b - a + w

theorem Spaced.sparse {w : Int} {ts : List Int} (hts : Spaced w ts) (hw : 0 ≤ w) :
    Sparse w ts := by
  intro a b hab
  by_cases hnone : ts.filter (fun t => a ≤ t ∧ t ≤ b) = []
  · rw [hnone]
    simp only [List.length_nil]
    omega
  · have hinside : Spaced w (ts.filter fun t => a ≤ t ∧ t ≤ b) := List.Pairwise.filter _ hts
    have hwindow := hinside.window_le hnone (a := a) (b := b)
      fun t ht => by simpa using (List.mem_filter.mp ht).2
    linarith

section Runs
variable {State Label : Type*} {step : State → Label → State → Prop} {s t : State}
  {h : List (State × Label)}

/-- The instants of the actions of a history, most recent first. -/
def instants (acts : State → Label → Option Int) (h : List (State × Label)) : List Int :=
  h.filterMap fun x => acts x.1 x.2

@[simp] theorem instants_nil (acts : State → Label → Option Int) : instants acts [] = [] := rfl

theorem instants_cons (acts : State → Label → Option Int) (s : State) (l : Label)
    (h : List (State × Label)) :
    instants acts ((s, l) :: h) = (acts s l).toList ++ instants acts h := by
  rw [instants, List.filterMap_cons]
  cases acts s l <;> rfl

/-- **The cooldown rule.**  An action happens when the system is ready and is forbidden until
`w` after it; what was forbidden stays forbidden.  `Inv` is what the run is known to keep. -/
theorem spaced_of_run {acts : State → Label → Option Int} {Ready : State → Int → Prop} {w : Int}
    {Inv : State → Prop} (hinv : ∀ h t, Run step s h t → Inv t)
    (hact : ∀ s l t a, Inv s → step s l t → acts s l = some a →
      Ready s a ∧ ∀ b, Ready t b → a + w ≤ b)
    (hkeep : ∀ s l t b, Inv s → step s l t → Ready t b → Ready s b)
    (hr : Run step s h t) :
    Spaced w (instants acts h) ∧ ∀ b, Ready t b → ∀ a ∈ instants acts h, a + w ≤ b := by
  refine hr.always (P := fun h t => Spaced w (instants acts h) ∧
    ∀ b, Ready t b → ∀ a ∈ instants acts h, a + w ≤ b) ⟨List.Pairwise.nil, by simp⟩ ?_
  rintro h t l u hr ⟨hspaced, hready⟩ hs
  have ht := hinv h t hr
  rw [instants_cons]
  cases hl : acts t l with
  | none => exact ⟨hspaced, fun b hb => hready b (hkeep t l u b ht hs hb)⟩
  | some a =>
    obtain ⟨hnow, hlater⟩ := hact t l u a ht hs hl
    refine ⟨List.pairwise_cons.mpr ⟨hready a hnow, hspaced⟩, fun b hb c hc => ?_⟩
    rcases List.mem_cons.mp hc with rfl | hc
    · exact hlater b hb
    · exact hready b (hkeep t l u b ht hs hb) c hc

end Runs
end Cooldown
