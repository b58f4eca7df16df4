import Mathlib.Data.List.Perm.Basic

/-! # Constructions that register what they build

A process builds its components one after another and registers each with a manager, whose
`Stop` stops what was registered.  A construction can fail at any step.  It leaves nothing
running when a failure has stopped, exactly once, whatever was registered before it.

`Construction` is the monad of such constructions: a failure ends the construction and keeps
the manager as it is.  `LeavesNothing` is closed under sequencing, so a construction each of
whose steps rolls back rolls back as a whole (`LeavesNothing.bind`).

The second half is the slot of which one holder can be live at a time (`SlotClaim`).
-/
namespace Lifecycle
variable {M C E F S α β : Type}

/-! ## Managers -/

/-- **A manager of components**: its operations, and what can be observed of it. -/
structure Manager (M C E : Type) where
  /-- A manager with which nothing is registered. -/
  fresh : M
  /-- Registers a component under a name. -/
  add : M → String → C → M
  /-- Stops the components; their errors are joined. -/
  stop : M → M × Option E
  /-- The components registered so far, in order. -/
  registered : M → List C
  /-- The components stopped so far, in order. -/
  stopped : M → List C
  registered_fresh : registered fresh = []
  stopped_fresh : stopped fresh = []
  registered_add : ∀ m name c, registered (add m name c) = registered m ++ [c]
  stopped_add : ∀ m name c, stopped (add m name c) = stopped m
  registered_stop : ∀ m, registered (stop m).1 = registered m
  /-- The first `Stop` stops every registered component exactly once. -/
  stopped_stop : ∀ m, stopped m = [] → (stopped (stop m).1).Perm (registered m)

namespace Manager
variable (mgr : Manager M C E)

/-- Registers components one after another. -/
def addAll (m : M) (components : List (String × C)) : M :=
  components.foldl (fun m c => mgr.add m c.1 c.2) m

theorem stopped_addAll (m : M) (components : List (String × C)) :
    mgr.stopped (mgr.addAll m components) = mgr.stopped m := by
  induction components generalizing m with
  | nil => rfl
  | cons c components ih =>
    have hrest := ih (mgr.add m c.1 c.2)
    rw [mgr.stopped_add] at hrest
    exact hrest

end Manager

/-- A manager as the ledger of what was registered with it and of what it stopped, the last
registered first. -/
structure Ledger (C : Type) where
  registered : List C
  stopped : List C
  deriving DecidableEq, Repr

/-- The manager of ledgers; `failure` is what stopping a list of components reports. -/
def ledgers (failure : List C → Option E) : Manager (Ledger C) C E where
  fresh := ⟨[], []⟩
  add m _ c := ⟨m.registered ++ [c], m.stopped⟩
  stop m := (⟨m.registered, m.stopped ++ m.registered.reverse⟩, failure m.registered)
  registered := Ledger.registered
  stopped := Ledger.stopped
  registered_fresh := rfl
  stopped_fresh := rfl
  registered_add _ _ _ := rfl
  stopped_add _ _ _ := rfl
  registered_stop _ := rfl
  stopped_stop := by
    intro m h
    rw [h, List.nil_append]
    exact m.registered.reverse_perm

/-! ## Constructions -/

/-- A construction: from the manager's state, a result or an error, and the state it leaves. -/
structure Construction (M F α : Type) where
  run : M → Except F α × M

/-- The second construction follows where the first succeeds. -/
def Construction.andThen (x : Construction M F α) (f : α → Construction M F β) :
    Construction M F β where
  run m :=
    match x.run m with
    | (.ok a, m') => (f a).run m'
    | (.error e, m') => (.error e, m')

instance : Monad (Construction M F) where
  pure a := ⟨fun m => (.ok a, m)⟩
  bind := Construction.andThen

/-- A construction of one thing from outside: an error registers nothing, a success registers
its components. -/
def registering (mgr : Manager M C E) (r : Except F (α × List (String × C))) :
    Construction M F α where
  run m :=
    match r with
    | .ok (a, components) => (.ok a, mgr.addAll m components)
    | .error e => (.error e, m)

/-- A construction with what is done when it fails. -/
def onError (x : Construction M F α) (rollback : M → F → F × M) : Construction M F α where
  run m :=
    match x.run m with
    | (.ok a, m') => (.ok a, m')
    | (.error e, m') => (.error (rollback m' e).1, (rollback m' e).2)

section Rules
variable {mgr : Manager M C E} {x : Construction M F α} {f : α → Construction M F β}
  {m m' : M} {a : α} {e : F}

@[simp] theorem run_pure (a : α) (m : M) :
    (pure a : Construction M F α).run m = (.ok a, m) := rfl

theorem run_bind_ok (h : x.run m = (.ok a, m')) : (x >>= f).run m = (f a).run m' := by
  show (x.andThen f).run m = _
  simp only [Construction.andThen, h]

theorem run_bind_error (h : x.run m = (.error e, m')) : (x >>= f).run m = (.error e, m') := by
  show (x.andThen f).run m = _
  simp only [Construction.andThen, h]

/-- A sequence succeeds exactly when both of its parts do. -/
theorem run_bind_eq_ok {b : β} {m'' : M} : (x >>= f).run m = (.ok b, m'') ↔
    ∃ a m', x.run m = (.ok a, m') ∧ (f a).run m' = (.ok b, m'') := by
  rcases h : x.run m with ⟨r, m₁⟩
  cases r with
  | ok a =>
    rw [run_bind_ok h]
    constructor
    · intro hf
      exact ⟨a, m₁, rfl, hf⟩
    · rintro ⟨a', m', heq, hf⟩
      cases heq
      exact hf
  | error e =>
    rw [run_bind_error h]
    constructor
    · intro heq
      cases heq
    · rintro ⟨a', m', heq, -⟩
      cases heq

/-- A sequence fails exactly when its first part fails, or succeeds and the second fails. -/
theorem run_bind_eq_error {m'' : M} : (x >>= f).run m = (.error e, m'') ↔
    x.run m = (.error e, m'') ∨
      ∃ a m', x.run m = (.ok a, m') ∧ (f a).run m' = (.error e, m'') := by
  rcases h : x.run m with ⟨r, m₁⟩
  cases r with
  | ok a =>
    rw [run_bind_ok h]
    constructor
    · intro hf
      exact .inr ⟨a, m₁, rfl, hf⟩
    · rintro (heq | ⟨a', m', heq, hf⟩)
      · cases heq
      · cases heq
        exact hf
  | error e' =>
    rw [run_bind_error h]
    constructor
    · intro heq
      cases heq
      exact .inl rfl
    · rintro (heq | ⟨a', m', heq, -⟩)
      · cases heq
        rfl
      · cases heq

end Rules

/-! ## Leaving nothing running -/

/-- **A construction that leaves nothing running**, from a manager that has stopped nothing:
a success has stopped nothing, a failure has stopped every registered component exactly
once. -/
structure LeavesNothing (mgr : Manager M C E) (x : Construction M F α) : Prop where
  ok : ∀ {m m' a}, mgr.stopped m = [] → x.run m = (.ok a, m') → mgr.stopped m' = []
  error : ∀ {m m' e}, mgr.stopped m = [] → x.run m = (.error e, m') →
    (mgr.stopped m').Perm (mgr.registered m')

namespace LeavesNothing
variable {mgr : Manager M C E} {x : Construction M F α} {f : α → Construction M F β}

theorem pure (a : α) : LeavesNothing mgr (Pure.pure a : Construction M F α) where
  ok h heq := by
    cases heq
    exact h
  error _ heq := by cases heq

/-- **The rule of sequencing.** -/
theorem bind (hx : LeavesNothing mgr x) (hf : ∀ a, LeavesNothing mgr (f a)) :
    LeavesNothing mgr (x >>= f) where
  ok h heq := by
    obtain ⟨a, m₁, hxm, hfm⟩ := run_bind_eq_ok.mp heq
    exact (hf a).ok (hx.ok h hxm) hfm
  error h heq := by
    rcases run_bind_eq_error.mp heq with hxm | ⟨a, m₁, hxm, hfm⟩
    · exact hx.error h hxm
    · exact (hf a).error (hx.ok h hxm) hfm

/-- **The rule of rolling back**: a step that registers what it built, and on an error stops
the manager. -/
theorem onError {r : Except F (α × List (String × C))} {rollback : M → F → F × M}
    (hstop : ∀ m e, (rollback m e).2 = (mgr.stop m).1) :
    LeavesNothing mgr (onError (registering mgr r) rollback) where
  ok {m m' a} h heq := by
    cases r with
    | ok built =>
      cases heq
      rw [mgr.stopped_addAll]
      exact h
    | error e => cases heq
  error {m m' e} h heq := by
    cases r with
    | ok built => cases heq
    | error e' =>
      cases heq
      rw [hstop, mgr.registered_stop]
      exact mgr.stopped_stop m h

end LeavesNothing

/-! ## A slot for one holder -/

/-- **A slot that one holder has at a time**: its operations, and what can be observed of
it. -/
structure SlotClaim (S E : Type) where
  /-- The slot when the process starts. -/
  initial : S
  taken : S → Bool
  claim : S → String → Except E S
  release : S → S
  /-- What stopping a wrapped holder does to the slot; `again` says that the holder has been
  stopped before.  Whether the slot is freed then is left open. -/
  stopWrapped : (again : Bool) → S → S
  taken_initial : taken initial = false
  claim_free : ∀ s name, taken s = false → ∃ s', claim s name = .ok s' ∧ taken s' = true
  claim_taken : ∀ s name, taken s = true → ∃ e, claim s name = .error e
  taken_release : ∀ s, taken (release s) = false
  taken_stopWrapped : ∀ s, taken (stopWrapped false s) = false
  stopWrapped_free : ∀ again s, taken s = false → taken (stopWrapped again s) = false

namespace SlotClaim
variable (slot : SlotClaim S E)

/-- A claim succeeds exactly on a free slot, and takes it. -/
theorem claim_eq_ok {s s' : S} {name : String} (h : slot.claim s name = .ok s') :
    slot.taken s = false ∧ slot.taken s' = true := by
  cases hs : slot.taken s with
  | false =>
    obtain ⟨s'', hok, htaken⟩ := slot.claim_free s name hs
    cases h.symm.trans hok
    exact ⟨rfl, htaken⟩
  | true =>
    obtain ⟨e, herr⟩ := slot.claim_taken s name hs
    cases h.symm.trans herr

end SlotClaim

/-- The slot that remembers its holder, and that every stop frees; `busy` is the error of a
second claim. -/
def namedSlot (busy : String → E) : SlotClaim (Option String) E where
  initial := none
  taken := Option.isSome
  claim s name :=
    match s with
    | none => .ok (some name)
    | some holder => .error (busy holder)
  release _ := none
  stopWrapped _ _ := none
  taken_initial := rfl
  claim_free := by
    rintro (_ | holder) name h
    · exact ⟨some name, rfl, rfl⟩
    · cases h
  claim_taken := by
    rintro (_ | holder) name h
    · cases h
    · exact ⟨busy holder, rfl⟩
  taken_release _ := rfl
  taken_stopWrapped _ := rfl
  stopWrapped_free _ _ _ := rfl

end Lifecycle
