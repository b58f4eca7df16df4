import Testkit.LabelledRuns
import Testkit.Wiring

/-! # `Connect` and the process's single module slot

A consumer of the service calls `Connect`: grpc mode dials and registers a stopper; module
mode claims the process's module slot, builds the module, and registers it, wrapped so that
its `Stop` frees the slot.  A module that cannot be built gives the slot back.

The process is the slot, the consumers' managers and the modules connected so far, each with
its own manager and whether it was stopped.  The slot does not know its holder: a module that
is stopped a second time may free the slot of the one connected after it.  So two invariants
tie the slot to the modules.  `Covered` holds in every run: a taken slot has a live module.
`Inv` holds while no module has been stopped twice: the slot is taken exactly when a module is
live, and then by that one alone.
-/
namespace Testkit.ModuleSlot
open Lifecycle LabelledRuns

variable {T : Carriers} {Conn S M N K : Type}

/-- The `ConnectConfig` of this service. -/
structure ConnectConfig (T : Carriers) where
  mode : String
  target : String
  config : Option (Config T)

/-- What a call finds outside: the packages and the dialler. -/
structure Outside (T : Carriers) (Conn : Type) where
  packages : Packages T
  /-- `grpc.NewClient`. -/
  grpcNewClient : String → Except T.error Conn

/-- The `Service` interface: the client or the handler. -/
inductive Backend (T : Carriers) (Conn : Type)
  | client (conn : Conn)
  | handler (hdl : Handler T)

/-- What `Connect` returns beside its error. -/
structure Connection (T : Carriers) (Conn : Type) where
  service : Backend T Conn
  handler : Option (Handler T)

/-- What `Connect` registers with its caller's manager. -/
inductive Registered (Conn : Type)
  /-- A stopper that closes the connection. -/
  | stopper (conn : Conn)
  /-- The wrapped module, by its place among those connected. -/
  | module (i : Nat)
  deriving DecidableEq, Repr

/-- A module that was connected: its own manager, and whether it was stopped. -/
structure Module (M : Type) where
  mgr : M
  stopped : Bool
  deriving DecidableEq, Repr

/-- The process. -/
structure Process (S M N K : Type) where
  moduleClaim : S
  managers : K → N
  modules : List (Module M)

/-- `NewClient`. -/
def newClient (out : Outside T Conn) (addr : String) : Except (Fault T.error) Conn :=
  match out.grpcNewClient addr with
  | .ok conn => .ok conn
  | .error err => .error (.wrapf ("dial " ++ addr ++ ": ") (.cause err))

/-- The number of modules that are live. -/
def Process.live (p : Process S M N K) : Nat := p.modules.countP fun md => !md.stopped

section Connect
variable [DecidableEq K] (slot : SlotClaim S T.error) (inner : Manager M (Component T) T.error)
  (outer : Manager N (Registered Conn) T.error)

/-- `mgr.Add` and `mgr.AddStopper` on the manager of caller `k`. -/
def Process.add (p : Process S M N K) (k : K) (c : Registered Conn) : Process S M N K :=
  { p with
    managers := fun k' =>
      if k' = k then outer.add (p.managers k) "testkit-service" c else p.managers k' }

/-- The slot claimed for a module that is connected. -/
def Process.hold (p : Process S M N K) (s : S) (m : M) : Process S M N K :=
  { p with moduleClaim := s, modules := p.modules ++ [⟨m, false⟩] }

/-- `Connect`, called with the manager of `k`. -/
def connect (out : Outside T Conn) (cfg : ConnectConfig T) (k : K) (p : Process S M N K) :
    Except (Fault T.error) (Connection T Conn) × Process S M N K :=
  if cfg.mode = modeGRPC then
    if cfg.target = "" then
      (.error (.errorf "testkit-service: target required when mode=grpc"), p)
    else
      match newClient out cfg.target with
      | .error err => (.error (.wrapf "testkit-service: " err), p)
      | .ok c => (.ok ⟨.client c, none⟩, p.add outer k (.stopper c))
  else if cfg.mode = modeModule ∨ cfg.mode = modeUnspecified then
    match cfg.config with
    | none => (.error (.errorf "testkit-service: module config required"), p)
    | some config =>
      match slot.claim p.moduleClaim "testkit-service" with
      | .error err => (.error (.cause err), p)
      | .ok s =>
        match newModule out.packages inner config with
        | (.error err, _) =>
          -- construction failed; free the slot
          (.error (.wrapf "testkit-service: " err), { p with moduleClaim := slot.release s })
        | (.ok hdl, m) =>
          (.ok ⟨.handler hdl, some hdl⟩,
            (p.hold s m).add outer k (.module p.modules.length))
  else
    (.error (.quotef "testkit-service: unknown mode " cfg.mode
      " (want \"grpc\" or \"module\")"), p)

/-- `Stop` of the `i`-th module connected. -/
def Process.stop (p : Process S M N K) (i : Nat) : Process S M N K :=
  match p.modules[i]? with
  | none => p
  | some md =>
    { p with
      moduleClaim := slot.stopWrapped md.stopped p.moduleClaim
      modules := p.modules.set i ⟨(inner.stop md.mgr).1, true⟩ }

/-! ## Runs -/

/-- What happens to the process. -/
inductive Event (T : Carriers) (Conn K : Type)
  | connect (out : Outside T Conn) (cfg : ConnectConfig T) (k : K)
  | stop (i : Nat)

/-- A step of the process: a `Connect`, or a stop of a module connected earlier. -/
inductive Step : Process S M N K → Event T Conn K → Process S M N K → Prop
  | connect {p : Process S M N K} (out : Outside T Conn) (cfg : ConnectConfig T) (k : K) :
      Step p (.connect out cfg k) (connect slot inner outer out cfg k p).2
  | stop {p : Process S M N K} {i : Nat} :
      i < p.modules.length → Step p (.stop i) (p.stop slot inner i)

/-- The process when it starts. -/
def started {E : Type} (slot : SlotClaim S E) (managers : K → N) : Process S M N K :=
  ⟨slot.initial, managers, []⟩

/-! ## What a call can do -/

/-- What a call of `Connect` can do to the process. -/
inductive Outcome (cfg : ConnectConfig T) (k : K) (p : Process S M N K) :
    Except (Fault T.error) (Connection T Conn) × Process S M N K → Prop
  /-- An error leaves at most the slot rewritten. -/
  | failed (e : Fault T.error) (s : S) :
      slot.taken s = slot.taken p.moduleClaim → (cfg.mode = modeGRPC → s = p.moduleClaim) →
      Outcome cfg k p (.error e, { p with moduleClaim := s })
  | dialled (conn : Conn) : cfg.mode = modeGRPC →
      Outcome cfg k p (.ok ⟨.client conn, none⟩, p.add outer k (.stopper conn))
  | built (hdl : Handler T) (m : M) (s : S) : cfg.mode ≠ modeGRPC →
      slot.taken p.moduleClaim = false → slot.taken s = true →
      Outcome cfg k p (.ok ⟨.handler hdl, some hdl⟩,
        (p.hold s m).add outer k (.module p.modules.length))

variable {slot inner outer}

/-- **Every call is one of the three.** -/
theorem connect_outcome (out : Outside T Conn) (cfg : ConnectConfig T) (k : K)
    (p : Process S M N K) : Outcome slot outer cfg k p (connect slot inner outer out cfg k p) := by
  have hsame : ∀ e : Fault T.error, Outcome slot outer cfg k p (.error e, p) :=
    fun e => .failed e p.moduleClaim rfl fun _ => rfl
  unfold connect
  by_cases hgrpc : cfg.mode = modeGRPC
  · rw [if_pos hgrpc]
    by_cases htarget : cfg.target = ""
    · rw [if_pos htarget]
      exact hsame _
    · rw [if_neg htarget]
      cases newClient out cfg.target with
      | error err => exact hsame _
      | ok c => exact .dialled c hgrpc
  · rw [if_neg hgrpc]
    by_cases hmodule : cfg.mode = modeModule ∨ cfg.mode = modeUnspecified
    · rw [if_pos hmodule]
      cases cfg.config with
      | none => exact hsame _
      | some config =>
        cases hclaim : slot.claim p.moduleClaim "testkit-service" with
        | error err => exact hsame _
        | ok s =>
          obtain ⟨hfree, htaken⟩ := slot.claim_eq_ok hclaim
          dsimp only
          rcases newModule out.packages inner config with ⟨_ | hdl, m⟩
          · exact .failed _ _ ((slot.taken_release s).trans hfree.symm)
              fun h => absurd h hgrpc
          · exact .built hdl m s hgrpc hfree htaken
    · rw [if_neg hmodule]
      exact hsame _

/-- A module-mode call with a configuration that can be built succeeds on a free slot. -/
theorem connect_module_ok {out : Outside T Conn} {cfg : ConnectConfig T} {config : Config T}
    {hdl : Handler T} {m : M} (k : K) {p : Process S M N K}
    (hmode : cfg.mode = modeModule ∨ cfg.mode = modeUnspecified)
    (hconfig : cfg.config = some config)
    (hbuilt : newModule out.packages inner config = (.ok hdl, m))
    (hfree : slot.taken p.moduleClaim = false) :
    (connect slot inner outer out cfg k p).1 = .ok ⟨.handler hdl, some hdl⟩ := by
  have hgrpc : cfg.mode ≠ modeGRPC := by
    rcases hmode with h | h <;> rw [h] <;> decide
  obtain ⟨s, hclaim, -⟩ := slot.claim_free p.moduleClaim "testkit-service" hfree
  simp only [connect, if_neg hgrpc, if_pos hmode, hconfig, hclaim, hbuilt]

section Outcomes
variable {cfg : ConnectConfig T} {k : K} {p : Process S M N K}
  {r : Except (Fault T.error) (Connection T Conn) × Process S M N K}

theorem registered_add_self (p : Process S M N K) (k : K) (c : Registered Conn) :
    outer.registered ((p.add outer k c).managers k) = outer.registered (p.managers k) ++ [c] := by
  simp [Process.add, outer.registered_add]

theorem managers_add_of_ne (p : Process S M N K) {k k' : K} (h : k' ≠ k)
    (c : Registered Conn) : (p.add outer k c).managers k' = p.managers k' := if_neg h

/-- A call that fails. -/
theorem Outcome.error (hout : Outcome slot outer cfg k p r) {e : Fault T.error}
    (h : r.1 = .error e) :
    slot.taken r.2.moduleClaim = slot.taken p.moduleClaim ∧ r.2.managers = p.managers ∧
      r.2.modules = p.modules := by
  cases hout with
  | failed e s hs _ => exact ⟨hs, rfl, rfl⟩
  | dialled conn _ => cases h
  | built hdl m s _ _ _ => cases h

/-- A call that succeeds. -/
theorem Outcome.ok (hout : Outcome slot outer cfg k p r) {c : Connection T Conn}
    (h : r.1 = .ok c) :
    (∃ component, outer.registered (r.2.managers k) =
        outer.registered (p.managers k) ++ [component]) ∧
      ∀ k', k' ≠ k → r.2.managers k' = p.managers k' := by
  cases hout with
  | failed e s _ _ => cases h
  | dialled conn _ =>
    exact ⟨⟨_, registered_add_self p k _⟩, fun k' hk => managers_add_of_ne p hk _⟩
  | built hdl m s _ _ _ =>
    exact ⟨⟨_, registered_add_self (p.hold s m) k _⟩,
      fun k' hk => managers_add_of_ne (p.hold s m) hk _⟩

/-- A call leaves the modules, or connects one more. -/
theorem Outcome.modules (hout : Outcome slot outer cfg k p r) :
    r.2.modules = p.modules ∨ ∃ m, r.2.modules = p.modules ++ [⟨m, false⟩] := by
  cases hout with
  | failed e s _ _ => exact Or.inl rfl
  | dialled conn _ => exact Or.inl rfl
  | built hdl m s _ _ _ => exact Or.inr ⟨m, rfl⟩

/-- A grpc-mode call. -/
theorem Outcome.grpc (hout : Outcome slot outer cfg k p r) (h : cfg.mode = modeGRPC) :
    r.2.moduleClaim = p.moduleClaim := by
  cases hout with
  | failed e s _ hs => exact hs h
  | dialled conn _ => rfl
  | built hdl m s hmode _ _ => exact absurd h hmode

end Outcomes

/-! ## One live module -/

/-- A taken slot has a live module. -/
def Covered {E : Type} (slot : SlotClaim S E) (p : Process S M N K) : Prop :=
  slot.taken p.moduleClaim = true → 0 < p.live

/-- The slot is taken exactly when a module is live, and then by that one alone. -/
def Inv {E : Type} (slot : SlotClaim S E) (p : Process S M N K) : Prop :=
  p.live = (slot.taken p.moduleClaim).toNat

omit [DecidableEq K] in
/-- The modules that are live when the `i`-th is stopped. -/
theorem Process.live_set (p : Process S M N K) {i : Nat} {md : Module M}
    (h : p.modules[i]? = some md) (m : M) :
    (p.modules.set i ⟨m, true⟩).countP (fun md => !md.stopped) + (!md.stopped).toNat =
      p.live := by
  obtain ⟨hi, hmd⟩ := List.getElem?_eq_some_iff.mp h
  have hsplit : p.modules = p.modules.take i ++ md :: p.modules.drop (i + 1) := by
    rw [← hmd, List.getElem_cons_drop, List.take_append_drop]
  rw [List.set_eq_take_append_cons_drop, if_pos hi]
  conv_rhs => rw [Process.live, hsplit]
  cases hs : md.stopped with
  | false =>
    simp [hs]
    omega
  | true => simp [hs]

omit [DecidableEq K] in
theorem Process.live_hold (p : Process S M N K) (s : S) (m : M) :
    (p.hold s m).live = p.live + 1 := by
  show (p.modules ++ [(⟨m, false⟩ : Module M)]).countP (fun md => !md.stopped) = _
  rw [List.countP_append]
  rfl

section AfterConnect
variable {cfg : ConnectConfig T} {k : K} {p : Process S M N K}
  {r : Except (Fault T.error) (Connection T Conn) × Process S M N K}

/-- A call keeps the invariants. -/
theorem Covered.after_connect (h : Covered slot p) (hout : Outcome slot outer cfg k p r) :
    Covered slot r.2 := by
  cases hout with
  | failed e s hs _ => exact fun htaken => h (hs ▸ htaken)
  | dialled conn _ => exact h
  | built hdl m s _ _ _ =>
    intro _
    show 0 < (p.hold s m).live
    rw [p.live_hold]
    exact Nat.succ_pos _

theorem Inv.after_connect (h : Inv slot p) (hout : Outcome slot outer cfg k p r) :
    Inv slot r.2 := by
  have hlive : p.live = (slot.taken p.moduleClaim).toNat := h
  cases hout with
  | failed e s hs _ =>
    show p.live = (slot.taken s).toNat
    rw [hs, hlive]
  | dialled conn _ => exact h
  | built hdl m s _ hfree hs =>
    show (p.hold s m).live = (slot.taken s).toNat
    rw [p.live_hold, hlive, hfree, hs]
    rfl

end AfterConnect

omit [DecidableEq K] in
/-- A stop frees the slot, or stops what was stopped before. -/
theorem Covered.after_stop {p : Process S M N K} (h : Covered slot p) (i : Nat) :
    Covered slot (p.stop slot inner i) := by
  unfold Process.stop
  cases hmd : p.modules[i]? with
  | none => exact h
  | some md =>
    have hset := p.live_set hmd (inner.stop md.mgr).1
    intro htaken
    have htaken : slot.taken (slot.stopWrapped md.stopped p.moduleClaim) = true := htaken
    show 0 < (p.modules.set i ⟨(inner.stop md.mgr).1, true⟩).countP (fun md => !md.stopped)
    cases hs : md.stopped with
    | false =>
      rw [hs, slot.taken_stopWrapped] at htaken
      cases htaken
    | true =>
      have hbefore : slot.taken p.moduleClaim = true := by
        by_contra hfree
        rw [slot.stopWrapped_free _ _ (Bool.not_eq_true _ ▸ hfree)] at htaken
        cases htaken
      have hlive : 0 < p.live := h hbefore
      rw [← hset, hs] at hlive
      exact hlive

omit [DecidableEq K] in
/-- The first stop of a module: it was the live one, and the only one. -/
theorem Inv.after_stop {p : Process S M N K} (h : Inv slot p) {i : Nat}
    (hfirst : ∀ md, p.modules[i]? = some md → md.stopped = false) :
    Inv slot (p.stop slot inner i) := by
  have hlive : p.live = (slot.taken p.moduleClaim).toNat := h
  unfold Process.stop
  cases hmd : p.modules[i]? with
  | none => exact h
  | some md =>
    have hset := p.live_set hmd (inner.stop md.mgr).1
    show (p.modules.set i ⟨(inner.stop md.mgr).1, true⟩).countP (fun md => !md.stopped) =
      (slot.taken (slot.stopWrapped md.stopped p.moduleClaim)).toNat
    rw [hfirst md hmd] at hset ⊢
    rw [slot.taken_stopWrapped]
    have hone := Bool.toNat_le (slot.taken p.moduleClaim)
    simp only [Bool.not_false, Bool.toNat_true] at hset
    simp only [Bool.toNat_false]
    omega

/-- The modules that a run has stopped, the last first. -/
def stops (h : List (Process S M N K × Event T Conn K)) : List Nat :=
  h.filterMap fun
    | (_, .stop i) => some i
    | _ => none

section Runs
variable {managers : K → N} {h : List (Process S M N K × Event T Conn K)} {p : Process S M N K}

theorem Covered.run (hr : Run (Step slot inner outer) (started slot managers) h p) :
    Covered slot p := by
  refine hr.invariant (P := Covered slot) ?_ ?_
  · intro htaken
    rw [started, slot.taken_initial] at htaken
    cases htaken
  · intro q l r hq hs
    cases hs with
    | connect out cfg k => exact hq.after_connect (connect_outcome out cfg k q)
    | stop _ => exact hq.after_stop _

/-- The modules that are marked as stopped have been stopped in the run. -/
def Recorded (h : List (Process S M N K × Event T Conn K)) (p : Process S M N K) : Prop :=
  ∀ (i : Nat) (md : Module M), p.modules[i]? = some md → md.stopped = true → i ∈ stops h

omit [DecidableEq K] in
theorem Recorded.after_stop (hq : Recorded h p) (j : Nat) :
    Recorded ((p, .stop j) :: h) (p.stop slot inner j) := by
  intro i md hmd hstopped
  show i ∈ j :: stops h
  by_cases hij : i = j
  · exact hij ▸ List.mem_cons_self
  · refine List.mem_cons_of_mem j (hq i md ?_ hstopped)
    rw [← hmd, Process.stop]
    cases hj : p.modules[j]? with
    | none => rfl
    | some md' => exact (List.getElem?_set_ne (Ne.symm hij)).symm

theorem Recorded.run (hr : Run (Step slot inner outer) (started slot managers) h p) :
    Recorded h p := by
  refine hr.always (P := Recorded) ?_ ?_
  · intro i md hmd
    cases hmd
  · intro h q l r _ hq hs
    cases hs with
    | connect out cfg k =>
      intro i md hmd hstopped
      refine hq i md ?_ hstopped
      rcases (connect_outcome out cfg k q).modules with hsame | ⟨m, hadded⟩
      · exact hsame ▸ hmd
      · rw [hadded, List.getElem?_append] at hmd
        split at hmd
        · exact hmd
        · -- the one that was just connected is not stopped
          have hnew := List.mem_singleton.mp (List.mem_of_getElem? hmd)
          rw [hnew] at hstopped
          cases hstopped
    | stop _ => exact hq.after_stop _

theorem Inv.run (hr : Run (Step slot inner outer) (started slot managers) h p)
    (honce : (stops h).Nodup) : Inv slot p := by
  revert honce
  refine hr.always (P := fun h p => (stops h).Nodup → Inv slot p) ?_ ?_
  · intro _
    show 0 = (slot.taken slot.initial).toNat
    rw [slot.taken_initial]
    rfl
  · intro h q l r hq ih hs honce
    cases hs with
    | connect out cfg k => exact (ih honce).after_connect (connect_outcome out cfg k q)
    | @stop i _ =>
      have honce : (i :: stops h).Nodup := honce
      obtain ⟨hnew, honce⟩ := List.nodup_cons.mp honce
      refine (ih honce).after_stop fun md hmd => ?_
      by_contra hstopped
      exact hnew (Recorded.run hq i md hmd (by simpa using hstopped))

end Runs

/-! ## What `Connect` guarantees -/

variable (slot inner outer)

/-- **What every call guarantees** in a state of the process. -/
structure ConnectAtomic (p : Process S M N K) : Prop where
  /-- An error leaves the slot, every manager and the modules as they were. -/
  failed : ∀ (out : Outside T Conn) (cfg : ConnectConfig T) (k : K) (e : Fault T.error),
    (connect slot inner outer out cfg k p).1 = .error e →
      slot.taken (connect slot inner outer out cfg k p).2.moduleClaim =
        slot.taken p.moduleClaim ∧
      (connect slot inner outer out cfg k p).2.managers = p.managers ∧
      (connect slot inner outer out cfg k p).2.modules = p.modules
  /-- After an error, a module that can be built is connected, unless one is live. -/
  later : ∀ (out : Outside T Conn) (cfg : ConnectConfig T) (k : K) (e : Fault T.error),
    (connect slot inner outer out cfg k p).1 = .error e → p.live = 0 →
    ∀ (out' : Outside T Conn) (cfg' : ConnectConfig T) (k' : K) (config : Config T)
      (hdl : Handler T) (m : M), cfg'.mode = modeModule ∨ cfg'.mode = modeUnspecified →
      cfg'.config = some config → newModule out'.packages inner config = (.ok hdl, m) →
      (connect slot inner outer out' cfg' k' (connect slot inner outer out cfg k p).2).1 =
        .ok ⟨.handler hdl, some hdl⟩
  /-- A success registers exactly one component, with the caller's manager. -/
  registers : ∀ (out : Outside T Conn) (cfg : ConnectConfig T) (k : K) (c : Connection T Conn),
    (connect slot inner outer out cfg k p).1 = .ok c →
      (∃ component, outer.registered ((connect slot inner outer out cfg k p).2.managers k) =
        outer.registered (p.managers k) ++ [component]) ∧
      ∀ k', k' ≠ k → (connect slot inner outer out cfg k p).2.managers k' = p.managers k'
  grpc : ∀ (out : Outside T Conn) (cfg : ConnectConfig T) (k : K), cfg.mode = modeGRPC →
    (connect slot inner outer out cfg k p).2.moduleClaim = p.moduleClaim

variable {slot inner outer}

/-- **`Connect` is atomic in every run, and at most one module is live** while none has been
stopped twice. -/
theorem connect_atomic {managers : K → N} {h : List (Process S M N K × Event T Conn K)}
    {p : Process S M N K} (hr : Run (Step slot inner outer) (started slot managers) h p) :
    ((stops h).Nodup → p.live ≤ 1) ∧ ConnectAtomic slot inner outer p := by
  refine ⟨fun honce => ?_, ?_⟩
  · have hlive : p.live = (slot.taken p.moduleClaim).toNat := Inv.run hr honce
    rw [hlive]
    exact Bool.toNat_le _
  constructor
  case failed => exact fun out cfg k _ => (connect_outcome out cfg k p).error
  case later =>
    intro out cfg k e herr hnone out' cfg' k' config hdl m hmode hconfig hbuilt
    refine connect_module_ok k' hmode hconfig hbuilt ?_
    rw [((connect_outcome out cfg k p).error herr).1]
    by_contra htaken
    have hlive := Covered.run hr (by simpa using htaken)
    omega
  case registers => exact fun out cfg k _ => (connect_outcome out cfg k p).ok
  case grpc => exact fun out cfg k => (connect_outcome out cfg k p).grpc

end Connect

/-- Outside, everything that `Connect` needs succeeds. -/
def available : Outside namesOnly String := ⟨allButTheValidator, fun addr => .ok addr⟩

/-- The unset mode, with a configuration. -/
def unsetMode : ConnectConfig namesOnly := ⟨modeUnspecified, "", some bareConfig⟩

/-- The process slot of `namesOnly`: every stop frees it. -/
def processSlot : SlotClaim (Option String) namesOnly.error :=
  namedSlot fun holder => "held by " ++ holder

/-- The manager of a module, as a ledger. -/
def moduleLedgers : Manager (Ledger (Component namesOnly)) (Component namesOnly)
    namesOnly.error := ledgers fun _ => none

/-- The manager of a caller, as a ledger. -/
def callerLedgers : Manager (Ledger (Registered String)) (Registered String) namesOnly.error :=
  ledgers fun _ => none

/-- A process with one caller. -/
abbrev OneCaller := Process (Option String) (Ledger (Component namesOnly))
  (Ledger (Registered String)) Unit

def atStart : OneCaller := started processSlot fun _ => callerLedgers.fresh

/-- A call of `Connect` in the unset mode. -/
def again (p : OneCaller) : OneCaller :=
  (connect processSlot moduleLedgers callerLedgers available unsetMode () p).2

/-- With a module connected, stopped, and a second one connected. -/
theorem connect_atomic_reconnected :
    (again ((again atStart).stop processSlot moduleLedgers 0)).live = 1 ∧
    ((again ((again atStart).stop processSlot moduleLedgers 0)).live ≤ 1 ∧
      ConnectAtomic processSlot moduleLedgers callerLedgers
        (again ((again atStart).stop processSlot moduleLedgers 0))) := by
  have hr : Run (Step processSlot moduleLedgers callerLedgers) atStart _
      (again ((again atStart).stop processSlot moduleLedgers 0)) :=
    ((Run.start.next (.connect available unsetMode ())).next (.stop (by decide))).next
      (.connect available unsetMode ())
  exact ⟨by decide, (connect_atomic hr).1 (by decide), (connect_atomic hr).2⟩

/-- Once more the first is stopped, and a third module is connected beside the second. -/
theorem connect_atomic_counterexample : ∃ h p,
    Run (Step processSlot moduleLedgers callerLedgers) atStart h p ∧ stops h = [0, 0] ∧
      p.live = 2 :=
  ⟨_, again ((again ((again atStart).stop processSlot moduleLedgers 0)).stop processSlot
      moduleLedgers 0),
    ((((Run.start.next (.connect available unsetMode ())).next (.stop (by decide))).next
      (.connect available unsetMode ())).next (.stop (by decide))).next
        (.connect available unsetMode ()), rfl, by decide⟩

end Testkit.ModuleSlot
