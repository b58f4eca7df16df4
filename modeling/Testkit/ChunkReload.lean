import Testkit.Cooldown

/-! # The reload of a stale tab

A tab of an older build asks for chunks that are gone.  `installChunkReloadGuard` listens for
script and link elements that fail to load and reloads the tab, which gets it the new build;
the instant of the reload is kept in `sessionStorage`, which a reload does not clear, and
forbids the next one for a while.

A broken build therefore does not spin (`reloads_spaced`), and a tab that goes stale later
heals itself again (`reload_iff`).  Neither needs a clock that only goes forward.
-/
namespace Testkit.ChunkReload
open LabelledRuns Cooldown

/-- `RELOAD_COOLDOWN_MS`. -/
def reloadCooldownMs : Int := 30000

/-- The target of an event; only an element has a tag name. -/
structure EventTarget where
  tagName : Option String
  deriving DecidableEq, Repr

/-- An error that reaches the listener, with the two times it reads off the clock if it gets
that far. -/
structure Failure where
  isErrorEvent : Bool
  target : Option EventTarget
  now : Int
  storedAt : Int
  deriving DecidableEq, Repr

/-- The number under `testkit_chunk_reloaded_at`.  A text that is no number needs no case of its
own: no instant is within the cooldown of it, so that the next failure reloads and puts a number
there, as it does with a number that lies far enough back. -/
structure Tab where
  reloadedAt : Option Int
  deriving DecidableEq, Repr

/-- `isStaleResource`. -/
def isStaleResource (target : Option EventTarget) : Bool :=
  match target with
  | none => false
  | some el =>
    match el.tagName with
    | none => false
    | some tag => tag == "SCRIPT" || tag == "LINK"

/-- `withinCooldown`. -/
def withinCooldown (s : Tab) (now : Int) : Bool :=
  now - s.reloadedAt.getD 0 < reloadCooldownMs

/-- The listener: the tab behind it, and whether it reloads. -/
def onError (s : Tab) (e : Failure) : Tab × Bool :=
  if e.isErrorEvent || !isStaleResource e.target then (s, false)
  else if withinCooldown s e.now then (s, false)
  else ({ s with reloadedAt := some e.storedAt }, true)

/-- A step of a tab.  The clock does not go back inside the listener; between two errors it
may be set to anything. -/
inductive Step : Tab → Failure → Tab → Prop
  | error {s : Tab} {e : Failure} : e.now ≤ e.storedAt → Step s e (onError s e).1

/-- The instant of the reload, if there is one. -/
def reloads (s : Tab) (e : Failure) : Option Int :=
  if (onError s e).2 then some e.storedAt else none

/-! ## What the listener does -/

/-- A script or link element that failed to load. -/
def Failure.Stale (e : Failure) : Prop :=
  e.isErrorEvent = false ∧ isStaleResource e.target = true

theorem reloads_eq_some {s : Tab} {e : Failure} {a : Int} :
    reloads s e = some a ↔
      e.Stale ∧ s.reloadedAt.getD 0 + reloadCooldownMs ≤ e.now ∧ a = e.storedAt := by
  have hcool : withinCooldown s e.now = false ↔
      s.reloadedAt.getD 0 + reloadCooldownMs ≤ e.now := by
    rw [withinCooldown, decide_eq_false_iff_not]
    omega
  rw [← hcool]
  unfold reloads onError Failure.Stale
  cases e.isErrorEvent <;> cases isStaleResource e.target <;> cases withinCooldown s e.now <;>
    simp [eq_comm]

/-- The cell holds the instant of the reload. -/
theorem reloadedAt_onError (s : Tab) (e : Failure) :
    (onError s e).1.reloadedAt = (reloads s e).or s.reloadedAt := by
  unfold reloads onError
  split
  · rfl
  · split <;> rfl

/-! ## In every run -/

section Runs
variable {s t : Tab} {h : List (Tab × Failure)}

/-- When the cell allows the next reload. -/
def Tab.Ready (s : Tab) (t : Int) : Prop := s.reloadedAt.getD 0 + reloadCooldownMs ≤ t

theorem spaced_and_ready (hr : Run Step s h t) : Spaced reloadCooldownMs (instants reloads h) ∧
    ∀ b, t.Ready b → ∀ a ∈ instants reloads h, a + reloadCooldownMs ≤ b := by
  have hms : 0 ≤ reloadCooldownMs := by decide
  have hinv : ∀ h t, Run Step s h t → (fun _ : Tab => True) t := fun _ _ _ => trivial
  refine spaced_of_run hinv ?_ ?_ hr
  · rintro s e t a - ⟨hclock⟩ ha
    have hcell := reloadedAt_onError s e
    obtain ⟨-, hcool, rfl⟩ := reloads_eq_some.mp ha
    rw [ha] at hcell
    refine ⟨by unfold Tab.Ready; omega, fun b hb => ?_⟩
    -- the cell now holds this very instant
    rwa [Tab.Ready, hcell] at hb
  · rintro s e t b - ⟨hclock⟩ hb
    have hcell := reloadedAt_onError s e
    unfold Tab.Ready at hb ⊢
    cases ha : reloads s e with
    | none =>
      rw [ha] at hcell
      rwa [hcell] at hb
    | some a =>
      obtain ⟨-, hcool, rfl⟩ := reloads_eq_some.mp ha
      rw [ha] at hcell
      rw [hcell] at hb
      simp only [Option.some_or, Option.getD_some] at hb
      omega

/-- **A broken build does not spin**: forced reloads are a cooldown apart, whatever stood in
the cell and whatever the clock does. -/
theorem reloads_spaced (hr : Run Step s h t) :
    Spaced reloadCooldownMs (instants reloads h) ∧
      Sparse reloadCooldownMs (instants reloads h) := by
  obtain ⟨hspaced, -⟩ := spaced_and_ready hr
  exact ⟨hspaced, hspaced.sparse (by decide)⟩

/-- Of two failures in a second, the second is let be. -/
theorem reloads_spaced_second : ∃ h t, Run Step ⟨none⟩ h t ∧ h.length = 2 ∧
    (instants reloads h).length = 1 ∧
    Sparse reloadCooldownMs (instants reloads h) := by
  let failed : Int → Failure := fun now => ⟨false, some ⟨some "LINK"⟩, now, now⟩
  have hfirst : Run Step ⟨none⟩ _ _ :=
    Run.start.next (.error (e := failed 50000) (Int.le_refl _))
  have hsecond := hfirst.next (.error (e := failed 51000) (Int.le_refl _))
  exact ⟨_, _, hsecond, rfl, by decide, (reloads_spaced hsecond).2⟩

/-- A tab that has just been opened. -/
def opened : Tab := ⟨none⟩

/-- The cell holds the latest reload. -/
theorem reloadedAt_run (hr : Run Step opened h t) :
    t.reloadedAt = (instants reloads h).head? := by
  refine hr.always (P := fun h t => t.reloadedAt = (instants reloads h).head?) rfl ?_
  rintro h s e t - ih ⟨hclock⟩
  rw [reloadedAt_onError, instants_cons, ih]
  cases reloads s e <;> simp

theorem reloadedAt_nonneg (hr : Run Step opened h t) : 0 ≤ t.reloadedAt.getD 0 := by
  have hms : 0 ≤ reloadCooldownMs := by decide
  refine hr.invariant (P := fun t => 0 ≤ t.reloadedAt.getD 0) (by decide) ?_
  rintro s e t ih ⟨hclock⟩
  rw [reloadedAt_onError]
  cases ha : reloads s e with
  | none => exact ih
  | some a =>
    obtain ⟨-, hcool, rfl⟩ := reloads_eq_some.mp ha
    simp only [Option.some_or, Option.getD_some]
    omega

/-- **A stale tab heals itself**, exactly when no reload was forced within the cooldown. -/
theorem reload_iff (hr : Run Step opened h t) (e : Failure) :
    (reloads t e).isSome ↔ e.Stale ∧ reloadCooldownMs ≤ e.now ∧
      ∀ a ∈ instants reloads h, a + reloadCooldownMs ≤ e.now := by
  obtain ⟨hspaced, hready⟩ := spaced_and_ready hr
  have hcell := reloadedAt_run hr
  rw [Option.isSome_iff_exists]
  constructor
  · rintro ⟨a, ha⟩
    obtain ⟨hstale, hcool, -⟩ := reloads_eq_some.mp ha
    have hfirst := reloadedAt_nonneg hr
    -- an empty cell counts as the epoch
    exact ⟨hstale, by omega, hready e.now hcool⟩
  · rintro ⟨hstale, hfirst, hall⟩
    refine ⟨e.storedAt, reloads_eq_some.mpr ⟨hstale, ?_, rfl⟩⟩
    rw [hcell]
    cases hhead : (instants reloads h).head? with
    | none => simpa using hfirst
    | some a => exact hall a (List.mem_of_head? hhead)

/-- A script of the old build fails to load twice in a minute, and the tab reloads twice. -/
theorem reload_iff_twice : ∃ h t e, Run Step opened h t ∧ (instants reloads h).length = 1 ∧
    (reloads t e).isSome = true := by
  let failed : Int → Failure := fun now => ⟨false, some ⟨some "SCRIPT"⟩, now, now⟩
  have hr : Run Step opened _ _ := Run.start.next (.error (e := failed 50000) (Int.le_refl _))
  refine ⟨_, _, failed 90000, hr, by decide, ?_⟩
  exact (reload_iff hr (failed 90000)).mpr ⟨⟨rfl, rfl⟩, by decide, by decide⟩

end Runs
end Testkit.ChunkReload
