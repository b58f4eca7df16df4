import Mathlib.Data.List.Nodup
import Testkit.LabelledRuns

/-! # Effects that drop their late answers

A component has an effect over a dependency.  Each time the effect runs, it does something
at once and may send a request; the cleanup of the run before makes that run's answer
count for nothing.  Requests of any number of runs are in flight, and are answered in any
order.

`latest_of_run` is the one induction a component needs: what every start establishes, what an
answer makes of it, and what the rest of the component keeps, holds in every run, of the
answer to the latest request alone.
-/
namespace LatestEffect
open LabelledRuns
variable {K R S : Type*}

/-- **An effect**: what it does when it runs for a dependency, whether it sends a request
then, and what the answer does. -/
structure Effect (K R S : Type*) where
  start : K → S → S
  asks : K → Bool
  settle : K → R → S → S

/-- A component: its dependency, its state, the runs of the effect whose requests are in
flight, and the number of the latest run. -/
structure Component (K S : Type*) where
  deps : K
  state : S
  inFlight : List (Nat × K)
  latest : Nat

/-- What happens to a component. -/
inductive Event (K R : Type*)
  /-- The dependency changes. -/
  | depend (k : K)
  /-- The request of a run is answered. -/
  | answer (n : Nat) (k : K) (r : R)
  /-- Something else. -/
  | other

section Step
variable (e : Effect K R S)

/-- The effect runs, after the cleanup of the last run. -/
def Component.depend (c : Component K S) (k : K) : Component K S where
  deps := k
  state := e.start k c.state
  inFlight := if e.asks k then (c.latest + 1, k) :: c.inFlight else c.inFlight
  latest := c.latest + 1

/-- The component is mounted. -/
def mounted (k : K) (s : S) : Component K S := Component.depend e ⟨k, s, [], 0⟩ k

/-- The continuation of a run, unless a cleanup came before it. -/
def Component.answer (c : Component K S) (others : List (Nat × K)) (n : Nat) (k : K) (r : R) :
    Component K S :=
  { c with
    inFlight := others
    state := if n = c.latest then e.settle k r c.state else c.state }

/-- A step of a component.  `Answers` says what a request can be answered with, `Other` what
the other events do to the state. -/
inductive Step (Answers : K → R → Prop) (Other : S → S → Prop) :
    Component K S → Event K R → Component K S → Prop
  | depend {c : Component K S} (k : K) : Step Answers Other c (.depend k) (c.depend e k)
  | answer {c : Component K S} (before after : List (Nat × K)) {n : Nat} {k : K} {r : R} :
      c.inFlight = before ++ (n, k) :: after → Answers k r →
      Step Answers Other c (.answer n k r) (c.answer e (before ++ after) n k r)
  | other {c : Component K S} {s : S} : Other c.state s →
      Step Answers Other c .other { c with state := s }

end Step

/-- The answer to the latest request, if it has come. -/
def outcome : List (Component K S × Event K R) → Option R
  | [] => none
  | (_, .depend _) :: _ => none
  | (c, .answer n _ r) :: h => if n = c.latest then some r else outcome h
  | (_, .other) :: h => outcome h

variable {e : Effect K R S} {Answers : K → R → Prop} {Other : S → S → Prop}
  {c c' : Component K S}

/-- What the runs in flight are. -/
structure Valid (e : Effect K R S) (c : Component K S) (o : Option R) : Prop where
  distinct : (c.inFlight.map Prod.fst).Nodup
  below : ∀ x ∈ c.inFlight, x.1 ≤ c.latest
  latest : ∀ k, (c.latest, k) ∈ c.inFlight → k = c.deps ∧ o = none ∧ e.asks k = true

theorem valid_depend {o : Option R} (h : Valid e c o) (k : K) :
    Valid e (c.depend e k) (none : Option R) := by
  have hfresh : c.latest + 1 ∉ c.inFlight.map Prod.fst := by
    intro hmem
    obtain ⟨x, hx, heq⟩ := List.mem_map.mp hmem
    have := h.below x hx
    omega
  unfold Component.depend
  split
  · rename_i hasks
    refine ⟨List.nodup_cons.mpr ⟨hfresh, h.distinct⟩, fun x hx => ?_, fun k' hk' => ?_⟩
    · rcases List.mem_cons.mp hx with rfl | hx
      · exact Nat.le_refl _
      · exact Nat.le_succ_of_le (h.below x hx)
    · rcases List.mem_cons.mp hk' with heq | hk'
      · exact ⟨(Prod.mk.inj heq).2, rfl, (Prod.mk.inj heq).2 ▸ hasks⟩
      · exact absurd (List.mem_map_of_mem hk') hfresh
  · refine ⟨h.distinct, fun x hx => Nat.le_succ_of_le (h.below x hx), fun k' hk' => ?_⟩
    exact absurd (List.mem_map_of_mem hk') hfresh

/-- The runs that are still in flight. -/
theorem valid_answer {o : Option R} {before after : List (Nat × K)} {n : Nat} {k : K}
    (h : Valid e c o) (hc : c.inFlight = before ++ (n, k) :: after) (r : R) :
    Valid e (c.answer e (before ++ after) n k r) (if n = c.latest then some r else o) := by
  have hsub : (before ++ after).Sublist c.inFlight :=
    hc ▸ (List.sublist_cons_self _ _).append_left before
  refine ⟨(hsub.map Prod.fst).nodup h.distinct, fun x hx => h.below x (hsub.subset hx), ?_⟩
  intro k' hk'
  by_cases hn : n = c.latest
  -- the latest run has its answer and, numbers being distinct, no other request
  · have hdistinct := h.distinct
    rw [hc, List.map_append, List.map_cons, List.nodup_middle, List.nodup_cons, ← List.map_append]
      at hdistinct
    exact absurd (List.mem_map_of_mem hk') (hn ▸ hdistinct.1)
  · rw [if_neg hn]
    exact h.latest k' (hsub.subset hk')

/-- **The latest request alone counts.**  `P k o s` speaks of the dependency, the answer to
its request, if that has come, and the state. -/
theorem latest_of_run {P : K → Option R → S → Prop} {k₀ : K} {s₀ : S}
    {h : List (Component K S × Event K R)} (hmount : P k₀ none (e.start k₀ s₀))
    (hstart : ∀ k o s k', P k o s → P k' none (e.start k' s))
    (hsettle : ∀ k r s, e.asks k = true → Answers k r → P k none s →
      P k (some r) (e.settle k r s))
    (hother : ∀ k o s s', P k o s → Other s s' → P k o s')
    (hr : Run (Step e Answers Other) (mounted e k₀ s₀) h c) : P c.deps (outcome h) c.state := by
  suffices hboth : Valid e c (outcome h) ∧ P c.deps (outcome h) c.state from hboth.2
  refine hr.always (P := fun h c => Valid e c (outcome h) ∧ P c.deps (outcome h) c.state) ?_ ?_
  · have hblank : Valid e (⟨k₀, s₀, [], 0⟩ : Component K S) none :=
      ⟨List.nodup_nil, by simp, by simp⟩
    exact ⟨valid_depend hblank k₀, hmount⟩
  · rintro h c l c' - ⟨hvalid, hP⟩ hs
    cases hs with
    | depend k => exact ⟨valid_depend hvalid k, hstart _ _ _ k hP⟩
    | @answer before after n k r hc hans =>
      refine ⟨valid_answer hvalid hc r, ?_⟩
      simp only [outcome, Component.answer]
      split
      · rename_i hn
        subst hn
        -- the latest run was started for the dependency and is not answered yet
        obtain ⟨rfl, hnone, hasks⟩ :=
          hvalid.latest k (hc ▸ List.mem_append_right _ List.mem_cons_self)
        exact hsettle _ r _ hasks hans (hnone ▸ hP)
      -- a cleanup came before the answer
      · exact hP
    | other hs => exact ⟨⟨hvalid.distinct, hvalid.below, hvalid.latest⟩, hother _ _ _ _ hP hs⟩

end LatestEffect
