import Testkit.Lifecycle

/-! # The construction of the service and of the server

`service.New` connects redis, the database and the eight downstream services one after
another, hands each the raw handlers of those before it, and sets up the jobs.  Every error
on the way goes through `rollback`, which stops what the manager holds.  `NewServer` builds a
service, then the validator, and returns the validator's error as it is.

The packages outside are parameters (`Packages`): what they return, and the components a
successful call registers.  `new_leavesNothing` is the rule of sequencing applied along the
text of `New`; the server needs, beyond it, that the validator is built
(`newServer_nothingLeftRunning_iff`).
-/
namespace Testkit
open Lifecycle

/-! ## The packages outside -/

/-- The downstream services. -/
inductive Provider
  | gid | reference | message | storage | user | license | telemetry | portal
  deriving DecidableEq, Repr

/-- The types of the packages outside. -/
structure Carriers where
  /-- A downstream's module-mode configuration. -/
  config : Provider → Type
  /-- A downstream as its `Service` interface. -/
  handle : Provider → Type
  /-- A downstream's raw module handler. -/
  raw : Provider → Type
  redisConfig : Type
  databaseConfig : Type
  redis : Type
  db : Type
  cron : Type
  validator : Type
  /-- What the packages register with a manager. -/
  component : Type
  error : Type

/-- An error as the code builds it from those of the packages. -/
inductive Fault (E : Type)
  | cause (e : E)
  | errorf (text : String)
  /-- `fmt.Errorf` of a text with a `%q` in it. -/
  | quotef (before quoted after : String)
  /-- `fmt.Errorf` of a text that ends in `%w`. -/
  | wrapf (text : String) (e : Fault E)
  /-- `errors.Join`. -/
  | join (e e' : Fault E)
  deriving DecidableEq, Repr

variable {T : Carriers} {M : Type}

/-- The options of the downstreams' `Connect`. -/
inductive ConnectOption (T : Carriers)
  | withDB (db : T.db)
  | withRedis (rdb : T.redis)
  /-- `none` is not injected: the downstream resolves its own. -/
  | withGIDHandler (raw : Option (T.raw .gid))
  | withMessageHandler (raw : Option (T.raw .message))

/-- A downstream's `ConnectConfig`. -/
structure ConnectConfig (T : Carriers) (p : Provider) where
  mode : String
  target : String
  config : Option (T.config p)
  opts : List (ConnectOption T) := []

/-- What a downstream's `Connect` returns; a grpc-mode one has no raw handler. -/
structure Connected (T : Carriers) (p : Provider) where
  handle : T.handle p
  raw : Option (T.raw p)

/-- `cronx.Config`. -/
structure CronxConfig where
  timezone : String
  overlapPolicy : String
  deriving DecidableEq, Repr

/-- `jobs.Scheduler`. -/
structure Scheduler (T : Carriers) where
  cron : T.cron
  ownsCron : Bool

/-- A component of a manager. -/
inductive Component (T : Carriers)
  | external (c : T.component)
  | jobs (scheduler : Scheduler T)

/-- What a call of a package returned, with the components it registered. -/
abbrev Outcome (T : Carriers) (α : Type) := Except T.error (α × List (String × T.component))

/-- **The packages outside**, as what their constructors return. -/
structure Packages (T : Carriers) where
  /-- `redisx.Connect`. -/
  redisConnect : T.redisConfig → Outcome T T.redis
  /-- `dbx.Connect`. -/
  dbConnect : T.databaseConfig → Outcome T T.db
  /-- The downstreams' `Connect`. -/
  connect : (p : Provider) → ConnectConfig T p → Outcome T (Connected T p)
  /-- `cronx.New`. -/
  cronxNew : CronxConfig → Except T.error T.cron
  /-- `protovalidate.New`. -/
  protovalidateNew : Except T.error T.validator
  /-- The token of the telemetry configuration's `Admin` section, if it has one. -/
  adminToken : T.config .telemetry → Option String

/-! ## The configuration -/

/-- `configx.RemoteServiceConfig`. -/
structure RemoteServiceConfig (T : Carriers) (p : Provider) where
  mode : String
  target : String
  config : Option (T.config p)

/-- `config.Config`, as far as the constructors read it. -/
structure Config (T : Carriers) where
  grpcAddr : String
  gatewayAddr : String
  database : T.databaseConfig
  redis : T.redisConfig
  thirdParty : (p : Provider) → Option (RemoteServiceConfig T p)
  timezone : String

/-- `configx.ModeGRPC`. -/
def modeGRPC : String := "grpc"

/-- `configx.ModeModule`. -/
def modeModule : String := "module"

/-- `configx.ModeUnspecified`. -/
def modeUnspecified : String := ""

/-- `unpack`. -/
def unpack {p : Provider} : Option (RemoteServiceConfig T p) →
    String × String × Option (T.config p)
  | none => ("", "", none)
  | some cfg => (cfg.mode, cfg.target, cfg.config)

/-- The `ConnectConfig` of a downstream's section, passed on as it is. -/
def connectConfig (cfg : Config T) (p : Provider) (opts : List (ConnectOption T)) :
    ConnectConfig T p :=
  let (mode, target, config) := unpack (cfg.thirdParty p)
  ⟨mode, target, config, opts⟩

/-- The portal's: an unset mode is grpc, and an unset grpc target the admin listener. -/
def portalConnectConfig (cfg : Config T) : ConnectConfig T .portal :=
  let (portalMode, portalTarget, portalCfg) := unpack (cfg.thirdParty .portal)
  let portalMode := if portalMode = modeUnspecified then modeGRPC else portalMode
  let portalTarget := if portalMode = modeGRPC ∧ portalTarget = "" then ":19099" else portalTarget
  ⟨portalMode, portalTarget, portalCfg, []⟩

/-- `telAdminToken`. -/
def telAdminToken (pk : Packages T) (cfg : Config T) : String :=
  match (unpack (cfg.thirdParty .telemetry)).2.2 with
  | none => ""
  | some telCfg => (pk.adminToken telCfg).getD ""

/-! ## `service.New` -/

/-- `jobs.Deps`. -/
structure Deps (T : Carriers) where
  config : Option CronxConfig
  cron : Option T.cron

/-- `jobs.New`: the injected cron, or a freshly built one. -/
def Scheduler.new (pk : Packages T) (d : Deps T) : Except (Fault T.error) (Scheduler T) :=
  match d.cron with
  | some c => .ok ⟨c, false⟩
  | none =>
    match d.config with
    | none => .error (.errorf "jobs: Deps.Config required when Deps.Cron is nil")
    | some config =>
      match pk.cronxNew config with
      | .ok c => .ok ⟨c, true⟩
      | .error e => .error (.wrapf "jobs: init cron: " (.cause e))

/-- The service: the handles it forwards to. -/
structure Service (T : Carriers) where
  cfg : Config T
  redis : T.redis
  db : T.db
  gid : T.handle .gid
  reference : T.handle .reference
  message : T.handle .message
  storage : T.handle .storage
  user : T.handle .user
  license : T.handle .license
  telemetry : T.handle .telemetry
  portal : T.handle .portal
  telAdminToken : String

section New
variable (pk : Packages T) (mgr : Manager M (Component T) T.error)

/-- `rollback`. -/
def rollback (m : M) (err : Fault T.error) : Fault T.error × M :=
  match mgr.stop m with
  | (m', some cerr) => (.join err (.wrapf "rollback: " (.cause cerr)), m')
  | (m', none) => (err, m')

/-- A call of a package with what it does to the manager. -/
def reported {α : Type} (r : Outcome T α) :
    Except (Fault T.error) (α × List (String × Component T)) :=
  match r with
  | .ok (a, components) => .ok (a, components.map fun c => (c.1, .external c.2))
  | .error e => .error (.cause e)

/-- A call of a package; on its error `New` returns through `rollback`. -/
def resolve {α : Type} (r : Outcome T α) : Construction M (Fault T.error) α :=
  onError (registering mgr (reported r)) (rollback mgr)

/-- `setupJobs`. -/
def setupJobs (cfg : Config T) : Construction M (Fault T.error) Unit :=
  registering mgr
    (match Scheduler.new pk ⟨some ⟨cfg.timezone, "skip"⟩, none⟩ with
    | .ok scheduler => .ok ((), [("jobs", .jobs scheduler)])
    | .error e => .error (.wrapf "init jobs: " e))

/-- The body of `service.New`, over the manager it made. -/
def construct (cfg : Config T) : Construction M (Fault T.error) (Service T) := do
  let rdb ← resolve mgr (pk.redisConnect cfg.redis)
  let db ← resolve mgr (pk.dbConnect cfg.database)
  let gid ← resolve mgr (pk.connect .gid (connectConfig cfg .gid []))
  let ref ← resolve mgr (pk.connect .reference (connectConfig cfg .reference []))
  let msg ← resolve mgr (pk.connect .message
    (connectConfig cfg .message [.withDB db, .withRedis rdb, .withGIDHandler gid.raw]))
  let st ← resolve mgr (pk.connect .storage
    (connectConfig cfg .storage [.withDB db, .withRedis rdb, .withGIDHandler gid.raw]))
  let usr ← resolve mgr (pk.connect .user (connectConfig cfg .user
    [.withDB db, .withRedis rdb, .withGIDHandler gid.raw, .withMessageHandler msg.raw]))
  let lic ← resolve mgr (pk.connect .license
    (connectConfig cfg .license [.withDB db, .withRedis rdb]))
  let tel ← resolve mgr (pk.connect .telemetry (connectConfig cfg .telemetry [.withDB db]))
  let portal ← resolve mgr (pk.connect .portal (portalConnectConfig cfg))
  onError (setupJobs pk mgr cfg) (rollback mgr)
  pure ⟨cfg, rdb, db, gid.handle, ref.handle, msg.handle, st.handle, usr.handle, lic.handle,
    tel.handle, portal.handle, telAdminToken pk cfg⟩

/-- `service.New`: the service or the error, and the manager as it is left. -/
def Service.new (cfg : Config T) : Except (Fault T.error) (Service T) × M :=
  (construct pk mgr cfg).run mgr.fresh

end New

/-! ## `NewServer` and `NewModule` -/

/-- `handler.Handler`. -/
structure Handler (T : Carriers) where
  svc : Service T

/-- The gRPC server and its gateway, as far as they hold what `NewServer` was given. -/
structure GrpcServer (T : Carriers) where
  grpcAddr : String
  gatewayAddr : String
  validator : T.validator

/-- `pkg.Server`. -/
structure Server (T : Carriers) where
  grpcSrv : GrpcServer T
  hdl : Handler T

section NewServer
variable (pk : Packages T) (mgr : Manager M (Component T) T.error)

/-- `NewModule`. -/
def newModule (cfg : Config T) : Except (Fault T.error) (Handler T) × M :=
  match Service.new pk mgr cfg with
  | (.error err, m) => (.error err, m)
  | (.ok svc, m) => (.ok ⟨svc⟩, m)

/-- `NewServer`.  The validator is built when the service is, and its error is returned as it
is. -/
def newServer (cfg : Config T) : Except (Fault T.error) (Server T) × M :=
  match Service.new pk mgr cfg with
  | (.error err, m) => (.error err, m)
  | (.ok svc, m) =>
    match pk.protovalidateNew with
    | .error err => (.error (.cause err), m)
    | .ok validator => (.ok ⟨⟨cfg.grpcAddr, cfg.gatewayAddr, validator⟩, ⟨svc⟩⟩, m)

end NewServer

/-! ## What the steps of `New` did -/

/-- What each step of `New` returned, with the components it registered. -/
structure Built (T : Carriers) where
  redis : T.redis × List (String × T.component)
  db : T.db × List (String × T.component)
  connected : (p : Provider) → Connected T p × List (String × T.component)
  cron : T.cron

/-- Every step of `New` succeeds, with these results. -/
structure Succeeds (pk : Packages T) (cfg : Config T) (b : Built T) : Prop where
  redis : pk.redisConnect cfg.redis = .ok b.redis
  db : pk.dbConnect cfg.database = .ok b.db
  gid : pk.connect .gid (connectConfig cfg .gid []) = .ok (b.connected .gid)
  reference : pk.connect .reference (connectConfig cfg .reference []) =
    .ok (b.connected .reference)
  message : pk.connect .message (connectConfig cfg .message
      [.withDB b.db.1, .withRedis b.redis.1, .withGIDHandler (b.connected .gid).1.raw]) =
    .ok (b.connected .message)
  storage : pk.connect .storage (connectConfig cfg .storage
      [.withDB b.db.1, .withRedis b.redis.1, .withGIDHandler (b.connected .gid).1.raw]) =
    .ok (b.connected .storage)
  user : pk.connect .user (connectConfig cfg .user
      [.withDB b.db.1, .withRedis b.redis.1, .withGIDHandler (b.connected .gid).1.raw,
        .withMessageHandler (b.connected .message).1.raw]) =
    .ok (b.connected .user)
  license : pk.connect .license
      (connectConfig cfg .license [.withDB b.db.1, .withRedis b.redis.1]) =
    .ok (b.connected .license)
  telemetry : pk.connect .telemetry (connectConfig cfg .telemetry [.withDB b.db.1]) =
    .ok (b.connected .telemetry)
  portal : pk.connect .portal (portalConnectConfig cfg) = .ok (b.connected .portal)
  cron : pk.cronxNew ⟨cfg.timezone, "skip"⟩ = .ok b.cron

section Proofs
variable {pk : Packages T} {mgr : Manager M (Component T) T.error} {cfg : Config T}

theorem rollback_stops (m : M) (e : Fault T.error) : (rollback mgr m e).2 = (mgr.stop m).1 := by
  unfold rollback
  rcases mgr.stop m with ⟨m', err⟩
  cases err <;> rfl

theorem resolve_leavesNothing {α : Type} (r : Outcome T α) :
    LeavesNothing mgr (resolve mgr r) :=
  .onError rollback_stops

/-- **`New` leaves nothing running**: each of its steps rolls back. -/
theorem construct_leavesNothing (pk : Packages T) (mgr : Manager M (Component T) T.error)
    (cfg : Config T) : LeavesNothing mgr (construct pk mgr cfg) := by
  unfold construct
  -- one application of the rule for each `Connect` of the text
  iterate 10 refine .bind (resolve_leavesNothing _) fun _ => ?_
  exact .bind (.onError rollback_stops) fun _ => .pure _

/-- Behind a call that succeeds. -/
theorem resolve_bind_ok {α β : Type} {r : Outcome T α} {built : α × List (String × T.component)}
    (h : r = .ok built) (f : α → Construction M (Fault T.error) β) (m : M) :
    (resolve mgr r >>= f).run m =
      (f built.1).run (mgr.addAll m (built.2.map fun c => (c.1, .external c.2))) := by
  subst h
  exact run_bind_ok rfl

theorem resolve_bind_eq_ok {α β : Type} {r : Outcome T α}
    {f : α → Construction M (Fault T.error) β} {m m' : M} {b : β}
    (h : (resolve mgr r >>= f).run m = (.ok b, m')) :
    ∃ built m₁, r = .ok built ∧ (f built.1).run m₁ = (.ok b, m') := by
  cases r with
  | ok built => exact ⟨built, _, rfl, (resolve_bind_ok rfl f m).symm.trans h⟩
  | error e =>
    have herr : (resolve mgr (.error e : Outcome T α)).run m =
        (.error (rollback mgr m (.cause e)).1, (rollback mgr m (.cause e)).2) := rfl
    rw [run_bind_error herr] at h
    cases h

theorem setupJobs_eq_ok {m m' : M} :
    (onError (setupJobs pk mgr cfg) (rollback mgr)).run m = (.ok (), m') ↔
      ∃ c, pk.cronxNew ⟨cfg.timezone, "skip"⟩ = .ok c ∧ m' = mgr.add m "jobs" (.jobs ⟨c, true⟩) := by
  cases h : pk.cronxNew ⟨cfg.timezone, "skip"⟩ with
  | ok c => simp [setupJobs, Scheduler.new, h, onError, registering, Manager.addAll, eq_comm]
  | error e => simp [setupJobs, Scheduler.new, h, onError, registering]

/-- `New` succeeds only when each of its steps does. -/
theorem succeeds_of_construct {m m' : M} {svc : Service T}
    (h : (construct pk mgr cfg).run m = (.ok svc, m')) : ∃ b, Succeeds pk cfg b := by
  obtain ⟨rdb, _, hredis, h⟩ := resolve_bind_eq_ok h
  obtain ⟨db, _, hdb, h⟩ := resolve_bind_eq_ok h
  obtain ⟨gid, _, hgid, h⟩ := resolve_bind_eq_ok h
  obtain ⟨ref, _, href, h⟩ := resolve_bind_eq_ok h
  obtain ⟨msg, _, hmsg, h⟩ := resolve_bind_eq_ok h
  obtain ⟨st, _, hst, h⟩ := resolve_bind_eq_ok h
  obtain ⟨usr, _, husr, h⟩ := resolve_bind_eq_ok h
  obtain ⟨lic, _, hlic, h⟩ := resolve_bind_eq_ok h
  obtain ⟨tel, _, htel, h⟩ := resolve_bind_eq_ok h
  obtain ⟨portal, _, hportal, h⟩ := resolve_bind_eq_ok h
  obtain ⟨⟨⟩, _, hjobs, -⟩ := run_bind_eq_ok.mp h
  obtain ⟨c, hcron, -⟩ := setupJobs_eq_ok.mp hjobs
  refine ⟨⟨rdb, db, fun
    | .gid => gid | .reference => ref | .message => msg | .storage => st | .user => usr
    | .license => lic | .telemetry => tel | .portal => portal, c⟩, ?_⟩
  exact ⟨hredis, hdb, hgid, href, hmsg, hst, husr, hlic, htel, hportal, hcron⟩

/-- When each step succeeds `New` does, and its last step has registered the jobs. -/
theorem construct_of_succeeds {b : Built T} (h : Succeeds pk cfg b) (m : M) :
    ∃ svc m', (construct pk mgr cfg).run m = (.ok svc, m') ∧
      .jobs ⟨b.cron, true⟩ ∈ mgr.registered m' := by
  have hjobs : ∀ m : M, (onError (setupJobs pk mgr cfg) (rollback mgr)).run m =
      (.ok (), mgr.add m "jobs" (.jobs ⟨b.cron, true⟩)) :=
    fun m => setupJobs_eq_ok.mpr ⟨b.cron, h.cron, rfl⟩
  unfold construct
  rw [resolve_bind_ok h.redis, resolve_bind_ok h.db, resolve_bind_ok h.gid,
    resolve_bind_ok h.reference, resolve_bind_ok h.message, resolve_bind_ok h.storage,
    resolve_bind_ok h.user, resolve_bind_ok h.license, resolve_bind_ok h.telemetry,
    resolve_bind_ok h.portal, run_bind_ok (hjobs _), run_pure]
  refine ⟨_, _, rfl, ?_⟩
  rw [mgr.registered_add]
  exact List.mem_append_right _ (List.mem_singleton.mpr rfl)

/-- **`New` succeeds exactly when each of its steps does.** -/
theorem new_succeeds_iff (pk : Packages T) (mgr : Manager M (Component T) T.error)
    (cfg : Config T) :
    (∃ svc, (Service.new pk mgr cfg).1 = .ok svc) ↔ ∃ b, Succeeds pk cfg b := by
  constructor
  · rintro ⟨svc, h⟩
    have hrun : (construct pk mgr cfg).run mgr.fresh = (.ok svc, (Service.new pk mgr cfg).2) :=
      Prod.ext h rfl
    exact succeeds_of_construct hrun
  · rintro ⟨b, hb⟩
    obtain ⟨svc, m', h, -⟩ := construct_of_succeeds hb mgr.fresh
    exact ⟨svc, congrArg Prod.fst h⟩

end Proofs

/-! ## What a failed construction leaves -/

/-- **A result that leaves nothing running**: with an error every registered component was
stopped exactly once, with a success none was stopped. -/
def NothingLeftRunning {α : Type} (mgr : Manager M (Component T) T.error)
    (r : Except (Fault T.error) α × M) : Prop :=
  match r.1 with
  | .ok _ => mgr.stopped r.2 = []
  | .error _ => (mgr.stopped r.2).Perm (mgr.registered r.2)

section Failures
variable (pk : Packages T) (mgr : Manager M (Component T) T.error) (cfg : Config T)

theorem new_nothingLeftRunning : NothingLeftRunning mgr (Service.new pk mgr cfg) := by
  have hnew := construct_leavesNothing pk mgr cfg
  unfold NothingLeftRunning
  rcases h : Service.new pk mgr cfg with ⟨r, m⟩
  cases r with
  | ok svc => exact hnew.ok mgr.stopped_fresh h
  | error e => exact hnew.error mgr.stopped_fresh h

/-- The module leaves nothing running when it cannot be built. -/
theorem newModule_nothingLeftRunning : NothingLeftRunning mgr (newModule pk mgr cfg) := by
  have hnew := new_nothingLeftRunning pk mgr cfg
  unfold newModule
  rcases h : Service.new pk mgr cfg with ⟨r, m⟩
  rw [h] at hnew
  cases r with
  | ok svc => exact hnew
  | error e => exact hnew

/-- **The server leaves nothing running** exactly when the validator is built, or a step of
`New` fails first: the validator's error does not stop the service. -/
theorem newServer_nothingLeftRunning_iff :
    NothingLeftRunning mgr (newServer pk mgr cfg) ↔
      (∃ validator, pk.protovalidateNew = .ok validator) ∨ ¬ ∃ b, Succeeds pk cfg b := by
  have hnew := new_nothingLeftRunning pk mgr cfg
  have hiff := new_succeeds_iff pk mgr cfg
  unfold newServer
  rcases h : Service.new pk mgr cfg with ⟨r, m⟩
  rw [h] at hnew hiff
  cases r with
  | error e =>
    have hfails : ¬ ∃ b, Succeeds pk cfg b := by
      intro hb
      obtain ⟨svc, heq⟩ := hiff.mpr hb
      cases heq
    exact ⟨fun _ => .inr hfails, fun _ => hnew⟩
  | ok svc =>
    obtain ⟨b, hb⟩ := hiff.mp ⟨svc, rfl⟩
    have hstopped : mgr.stopped m = [] := hnew
    cases hv : pk.protovalidateNew with
    | ok validator => exact ⟨fun _ => .inl ⟨validator, rfl⟩, fun _ => hstopped⟩
    | error e =>
      -- the jobs are registered with a manager that has stopped nothing
      obtain ⟨svc', m', hrun, hmem⟩ := construct_of_succeeds hb mgr.fresh
      cases h.symm.trans hrun
      constructor
      · intro hleft
        have hperm : (mgr.stopped m).Perm (mgr.registered m) := hleft
        rw [hstopped] at hperm
        rw [List.nil_perm.mp hperm] at hmem
        cases hmem
      · rintro (⟨validator, heq⟩ | hfails)
        · cases heq
        · exact absurd ⟨b, hb⟩ hfails

end Failures

/-- Carriers of which nothing but the names of the components is kept. -/
def namesOnly : Carriers where
  config _ := Unit
  handle _ := Unit
  raw _ := Unit
  redisConfig := Unit
  databaseConfig := Unit
  redis := Unit
  db := Unit
  cron := Unit
  validator := Unit
  component := String
  error := String

/-- Packages that all succeed, each with one component, but for the validator. -/
def allButTheValidator : Packages namesOnly where
  redisConnect _ := .ok ((), [("redis", "redis")])
  dbConnect _ := .ok ((), [("database", "database")])
  connect _ _ := .ok (⟨(), none⟩, [("downstream", "downstream")])
  cronxNew _ := .ok ()
  protovalidateNew := .error "failed to initialize the CEL environment"
  adminToken _ := none

/-- The configuration with no third-party section. -/
def bareConfig : Config namesOnly := ⟨":19095", ":18085", (), (), fun _ => none, "Asia/Shanghai"⟩

/-- With the validator's error ten connections and the jobs stay registered, and nothing was
stopped. -/
theorem newServer_leaves_running :
    ¬ NothingLeftRunning (ledgers fun _ => none)
      (newServer allButTheValidator (ledgers fun _ => none) bareConfig) := by
  intro hleft
  have hperm : List.Perm [] _ := hleft
  exact absurd hperm.length_eq (by decide)

end Testkit
