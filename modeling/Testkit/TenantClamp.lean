import Testkit.BackendCalls
import Testkit.RequestContext

/-! # The management-plane tenant clamp

A tenant-naming admin request of a tenant admin is overwritten with the trusted key
the gate injected.  `bffscope` holds the clamp the message and storage forwards share,
the portal forwarder its own copy and the guard of its registry surface.

The messages these forwards import from a backend's contract are passed on as they
are; of their fields the forwards read and write `tenant_key` alone.  The backends are
parameters.
-/
namespace Testkit
open BackendCalls

/-- An error a service returns: `xcodes.ErrForbidden.New(details…)`, or what a backend
call returned. -/
inductive ServiceError (D : Type)
  | forbidden (details : List String)
  | downstream (cause : D)
  deriving DecidableEq, Repr

section Clamp
variable {Ctx MD D : Type} [MetadataMap MD] [RequestContext Ctx MD]

/-- `bffscope.TenantKey`: the key that replaces the request's. -/
def Bffscope.tenantKey (ctx : Ctx) (tenantKey : String) : Except (ServiceError D) String :=
  match actorFromCtx ctx with
  | none => .error (.forbidden [])
  | some actor =>
    if actor.userType ≠ .tenantAdmin then .ok tenantKey
    else
      match tenantKeyFromCtx ctx with
      | none => .error (.forbidden ["tenant choice unresolved"])
      | some key =>
        if key = "" then .error (.forbidden ["tenant choice unresolved"]) else .ok key

/-- `scopeTenantKey` of the portal forwarder. -/
def Portal.scopeTenantKey (ctx : Ctx) (tenantKey : String) : Except (ServiceError D) String :=
  match actorFromCtx ctx with
  | none => .error (.forbidden [])
  | some actor =>
    if actor.userType ≠ .tenantAdmin then .ok tenantKey
    else
      match tenantKeyFromCtx ctx with
      | none => .error (.forbidden ["tenant choice unresolved"])
      | some key =>
        if key = "" then .error (.forbidden ["tenant choice unresolved"]) else .ok key

/-- `requirePlatform` of the portal forwarder. -/
def Portal.requirePlatform (ctx : Ctx) : Except (ServiceError D) Unit :=
  match actorFromCtx ctx with
  | none => .error (.forbidden ["platform operators only"])
  | some actor =>
    if actor.userType ≠ .platform then .error (.forbidden ["platform operators only"])
    else .ok ()

section TenantAdmin
variable {ctx : Ctx} {a : RequestActor} (ha : actorFromCtx ctx = some a)
  (ht : a.userType = .tenantAdmin) (body : String)
include ha ht

/-- A tenant admin acts under the injected key. -/
theorem tenantKey_injected {key : String} (hk : tenantKeyFromCtx ctx = some key)
    (hne : key ≠ "") : Bffscope.tenantKey (D := D) ctx body = .ok key := by
  simp [Bffscope.tenantKey, ha, ht, hk, hne]

/-- Without an injected key a tenant admin is refused. -/
theorem tenantKey_unresolved (hno : ∀ key, tenantKeyFromCtx ctx = some key → key = "") :
    Bffscope.tenantKey (D := D) ctx body = .error (.forbidden ["tenant choice unresolved"]) := by
  cases hk : tenantKeyFromCtx ctx with
  | none => simp [Bffscope.tenantKey, ha, ht, hk]
  | some key => simp [Bffscope.tenantKey, ha, ht, hk, hno key hk]

end TenantAdmin

/-- Every other verified actor keeps the body's key. -/
theorem tenantKey_other {ctx : Ctx} {a : RequestActor} (ha : actorFromCtx ctx = some a)
    (ht : a.userType ≠ .tenantAdmin) (body : String) :
    Bffscope.tenantKey (D := D) ctx body = .ok body := by
  simp [Bffscope.tenantKey, ha, ht]

theorem tenantKey_anonymous {ctx : Ctx} (ha : actorFromCtx ctx = none) (body : String) :
    Bffscope.tenantKey (D := D) ctx body = .error (.forbidden []) := by
  simp [Bffscope.tenantKey, ha]

/-- **What the clamp decides**: it lets through a tenant admin's injected key and the
body's key of every other verified actor, and refuses the rest with `forbidden`. -/
theorem tenantKey_cases (ctx : Ctx) (body : String) :
    (∃ key a, Bffscope.tenantKey (D := D) ctx body = .ok key ∧ actorFromCtx ctx = some a ∧
      ((a.userType = .tenantAdmin ∧ tenantKeyFromCtx ctx = some key ∧ key ≠ "") ∨
        (a.userType ≠ .tenantAdmin ∧ key = body))) ∨
    ((∃ details, Bffscope.tenantKey (D := D) ctx body = .error (.forbidden details)) ∧
      (actorFromCtx ctx = none ∨ ∃ a, actorFromCtx ctx = some a ∧
        a.userType = .tenantAdmin ∧ ∀ key, tenantKeyFromCtx ctx = some key → key = "")) := by
  cases ha : actorFromCtx ctx with
  | none => exact Or.inr ⟨⟨[], tenantKey_anonymous ha body⟩, Or.inl rfl⟩
  | some a =>
    by_cases ht : a.userType = .tenantAdmin
    · by_cases hkey : ∃ key, tenantKeyFromCtx ctx = some key ∧ key ≠ ""
      · obtain ⟨key, hk, hne⟩ := hkey
        exact Or.inl ⟨key, a, tenantKey_injected ha ht body hk hne, rfl, Or.inl ⟨ht, hk, hne⟩⟩
      · have hno : ∀ key, tenantKeyFromCtx ctx = some key → key = "" := by
          intro key hk
          apply Decidable.of_not_not
          intro hne
          exact hkey ⟨key, hk, hne⟩
        exact Or.inr ⟨⟨_, tenantKey_unresolved ha ht body hno⟩, Or.inr ⟨a, rfl, ht, hno⟩⟩
    · exact Or.inl ⟨body, a, tenantKey_other ha ht body, rfl, Or.inr ⟨ht, rfl⟩⟩

/-- The two clamps decide alike. -/
theorem scopeTenantKey_eq (ctx : Ctx) (body : String) :
    Portal.scopeTenantKey (D := D) ctx body = Bffscope.tenantKey ctx body := rfl

theorem requirePlatform_cases (ctx : Ctx) :
    (∃ a, actorFromCtx ctx = some a ∧ a.userType = .platform) ∨
      Portal.requirePlatform (D := D) ctx = .error (.forbidden ["platform operators only"]) := by
  unfold Portal.requirePlatform
  cases ha : actorFromCtx ctx with
  | none => exact Or.inr rfl
  | some a =>
    by_cases ht : a.userType = .platform
    · exact Or.inl ⟨a, rfl, ht⟩
    · exact Or.inr (if_pos ht)

end Clamp

/-! ## The forwards -/

/-- Which side of a forward a message belongs to: the console's contract or the
backend's. -/
inductive Side
  | testkit
  | backend

/-- `timestamppb.Timestamp`. -/
structure Timestamp where
  seconds : Int64
  nanos : Int32
  deriving DecidableEq, Repr

/-- A request of a backend's own contract: its `tenant_key` and the rest of it. -/
structure TenantScoped (M : Type) where
  tenantKey : String
  rest : M
  deriving DecidableEq, Repr

section Forwards
variable {Ctx MD D M Req Resp : Type} [MetadataMap MD] [RequestContext Ctx MD]

/-- A backend method, and its call from a forward: the context and the request go out,
an error comes back as it is. -/
def forward (client : Ctx → Req → Except D Resp) (ctx : Ctx) (req : Req) :
    Handled (Ctx × Req) (ServiceError D) Resp :=
  call (ctx, req) ((client ctx req).mapError .downstream)

/-- The forwards that clamp an imported request. -/
def clampedForward (clamp : Ctx → String → Except (ServiceError D) String)
    (client : Ctx → TenantScoped M → Except D Resp) (ctx : Ctx) (req : TenantScoped M) :
    Handled (Ctx × TenantScoped M) (ServiceError D) Resp := do
  let tenantKey ← check (clamp ctx req.tenantKey)
  forward client ctx { req with tenantKey }

/-- The methods of message-service behind the clamped forwards. -/
structure MessageService (Ctx D M : Type) where
  createTenantConfig : Ctx → TenantScoped M → Except D M
  createChannelAccount : Ctx → TenantScoped M → Except D M
  createSignature : Ctx → TenantScoped M → Except D M

namespace Message

def createTenantConfig (s : MessageService Ctx D M) :=
  clampedForward Bffscope.tenantKey s.createTenantConfig

def createChannelAccount (s : MessageService Ctx D M) :=
  clampedForward Bffscope.tenantKey s.createChannelAccount

def createSignature (s : MessageService Ctx D M) :=
  clampedForward Bffscope.tenantKey s.createSignature

end Message
/-! ### Storage -/

/-- `AdminListFilesRequest`; enumerations are their numbers. -/
structure AdminListFilesRequest (side : Side) where
  ownerType : Int32
  ownerId : Int64
  tenantKey : String
  pathPrefix : String
  extension : String
  contentTypePrefix : String
  orderBy : Int32
  descending : Bool
  pageSize : Int32
  pageToken : String
  provider : String
  bucket : String
  deriving DecidableEq, Repr

/-- `AdminFileInfo`; its metadata is passed on by reference. -/
structure AdminFileInfo (side : Side) (M : Type) where
  id : Int64
  ownerType : Int32
  ownerId : Int64
  filename : String
  filePath : String
  description : String
  metadata : M
  isPublic : Bool
  objectId : Int64
  size : Int64
  contentType : String
  extension : String
  md5 : String
  provider : String
  bucket : String
  objectKey : String
  tenantKey : String
  createdAt : String
  updatedAt : String
  deriving DecidableEq, Repr

/-- `AdminListFilesResponse`; a file is `none` where the list holds a nil. -/
structure AdminListFilesResponse (side : Side) (M : Type) where
  files : List (Option (AdminFileInfo side M))
  totalCount : Int32
  nextPageToken : String
  deriving DecidableEq, Repr

/-- The methods of storage-service behind the clamped forwards. -/
structure StorageService (Ctx D M : Type) where
  adminEnsureTenantConfig : Ctx → TenantScoped M → Except D M
  adminListFiles : Ctx → AdminListFilesRequest .backend →
    Except D (AdminListFilesResponse .backend M)

namespace Storage

/-- `toTestkitAdminFileInfo`. -/
def toTestkitAdminFileInfo (f : Option (AdminFileInfo .backend M)) :
    Option (AdminFileInfo .testkit M) :=
  f.map fun f =>
    { id := f.id
      ownerType := f.ownerType
      ownerId := f.ownerId
      filename := f.filename
      filePath := f.filePath
      description := f.description
      metadata := f.metadata
      isPublic := f.isPublic
      objectId := f.objectId
      size := f.size
      contentType := f.contentType
      extension := f.extension
      md5 := f.md5
      provider := f.provider
      bucket := f.bucket
      objectKey := f.objectKey
      tenantKey := f.tenantKey
      createdAt := f.createdAt
      updatedAt := f.updatedAt }

def adminEnsureTenantConfig (s : StorageService Ctx D M) :=
  clampedForward Bffscope.tenantKey s.adminEnsureTenantConfig

/-- `AdminListFiles`: the request is rebuilt for storage, field by field. -/
def adminListFiles (s : StorageService Ctx D M) (ctx : Ctx)
    (req : AdminListFilesRequest .testkit) :
    Handled (Ctx × AdminListFilesRequest .backend) (ServiceError D)
      (AdminListFilesResponse .testkit M) := do
  let tenantKey ← check (Bffscope.tenantKey ctx req.tenantKey)
  let resp ← forward s.adminListFiles ctx
    { ownerType := req.ownerType
      ownerId := req.ownerId
      tenantKey
      pathPrefix := req.pathPrefix
      extension := req.extension
      contentTypePrefix := req.contentTypePrefix
      orderBy := req.orderBy
      descending := req.descending
      pageSize := req.pageSize
      pageToken := req.pageToken
      provider := req.provider
      bucket := req.bucket }
  return {
    files := resp.files.map toTestkitAdminFileInfo
    totalCount := resp.totalCount
    nextPageToken := resp.nextPageToken }

end Storage

/-! ### Portal -/

/-- `portalservice.Service`. -/
structure PortalService (Ctx D M : Type) where
  whoAmI : Ctx → Except D M
  myCapabilities : Ctx → Except D M
  listApiKeys : Ctx → TenantScoped M → Except D M
  createApiKey : Ctx → TenantScoped M → Except D M
  rotateApiKeySecret : Ctx → M → Except D M
  disableApiKey : Ctx → M → Except D M
  listTenants : Ctx → M → Except D M
  createTenant : Ctx → M → Except D M
  updateTenant : Ctx → M → Except D M
  setCapability : Ctx → M → Except D M
  disableTenant : Ctx → M → Except D M
  deleteTenant : Ctx → M → Except D M
  listTenantMembers : Ctx → M → Except D M
  addTenantMember : Ctx → M → Except D M
  removeTenantMember : Ctx → M → Except D M

namespace Portal

/-- The forwards that are refused to every actor but a platform operator. -/
def platformForward (client : Ctx → M → Except D M) (ctx : Ctx) (req : M) :
    Handled (Ctx × M) (ServiceError D) M := do
  check (requirePlatform ctx)
  forward client ctx req

def whoAmI (s : PortalService Ctx D M) (ctx : Ctx) (_ : Unit) :
    Handled (Ctx × Unit) (ServiceError D) M :=
  forward (fun ctx _ => s.whoAmI ctx) ctx ()

def myCapabilities (s : PortalService Ctx D M) (ctx : Ctx) (_ : Unit) :
    Handled (Ctx × Unit) (ServiceError D) M :=
  forward (fun ctx _ => s.myCapabilities ctx) ctx ()

def listApiKeys (s : PortalService Ctx D M) := clampedForward scopeTenantKey s.listApiKeys
def createApiKey (s : PortalService Ctx D M) := clampedForward scopeTenantKey s.createApiKey
def rotateApiKeySecret (s : PortalService Ctx D M) := forward s.rotateApiKeySecret
def disableApiKey (s : PortalService Ctx D M) := forward s.disableApiKey
def listTenants (s : PortalService Ctx D M) := platformForward s.listTenants
def createTenant (s : PortalService Ctx D M) := platformForward s.createTenant
def updateTenant (s : PortalService Ctx D M) := platformForward s.updateTenant
def setCapability (s : PortalService Ctx D M) := platformForward s.setCapability
def disableTenant (s : PortalService Ctx D M) := platformForward s.disableTenant
def deleteTenant (s : PortalService Ctx D M) := platformForward s.deleteTenant
def listTenantMembers (s : PortalService Ctx D M) := platformForward s.listTenantMembers
def addTenantMember (s : PortalService Ctx D M) := platformForward s.addTenantMember
def removeTenantMember (s : PortalService Ctx D M) := platformForward s.removeTenantMember

end Portal
end Forwards

/-! ## Who reaches a backend through them -/

/-- The registry and membership RPCs of the portal forwarder. -/
inductive RegistryRpc
  | listTenants
  | createTenant
  | updateTenant
  | setCapability
  | disableTenant
  | deleteTenant
  | listTenantMembers
  | addTenantMember
  | removeTenantMember
  deriving DecidableEq, Repr

/-- A request of a clamped forward. -/
inductive ClampedRequest (M : Type)
  | messageCreateTenantConfig (req : TenantScoped M)
  | messageCreateChannelAccount (req : TenantScoped M)
  | messageCreateSignature (req : TenantScoped M)
  | storageAdminEnsureTenantConfig (req : TenantScoped M)
  | storageAdminListFiles (req : AdminListFilesRequest .testkit)
  | portalListApiKeys (req : TenantScoped M)
  | portalCreateApiKey (req : TenantScoped M)
  deriving DecidableEq, Repr

/-- The key the body names. -/
def ClampedRequest.tenantKey {M : Type} : ClampedRequest M → String
  | .messageCreateTenantConfig req | .messageCreateChannelAccount req
  | .messageCreateSignature req | .storageAdminEnsureTenantConfig req
  | .portalListApiKeys req | .portalCreateApiKey req => req.tenantKey
  | .storageAdminListFiles req => req.tenantKey

/-- The backends of the clamped forwards. -/
structure ClampBackends (Ctx D M : Type) where
  message : MessageService Ctx D M
  storage : StorageService Ctx D M
  portal : PortalService Ctx D M

section Reach
variable {Ctx MD D M : Type} [MetadataMap MD] [RequestContext Ctx MD]

def RegistryRpc.serve (s : PortalService Ctx D M) :
    RegistryRpc → Ctx → M → Handled (Ctx × M) (ServiceError D) M
  | .listTenants => Portal.listTenants s
  | .createTenant => Portal.createTenant s
  | .updateTenant => Portal.updateTenant s
  | .setCapability => Portal.setCapability s
  | .disableTenant => Portal.disableTenant s
  | .deleteTenant => Portal.deleteTenant s
  | .listTenantMembers => Portal.listTenantMembers s
  | .addTenantMember => Portal.addTenantMember s
  | .removeTenantMember => Portal.removeTenantMember s

/-- The context and the tenant key a backend call carries. -/
def named (c : Ctx × TenantScoped M) : Ctx × String := (c.1, c.2.tenantKey)

/-- What a clamped forward does, its calls seen as context and tenant key. -/
def ClampedRequest.serve (b : ClampBackends Ctx D M) (ctx : Ctx) :
    ClampedRequest M → Handled (Ctx × String) (ServiceError D) Unit
  | .messageCreateTenantConfig req => (Message.createTenantConfig b.message ctx req).observe named
  | .messageCreateChannelAccount req =>
    (Message.createChannelAccount b.message ctx req).observe named
  | .messageCreateSignature req => (Message.createSignature b.message ctx req).observe named
  | .storageAdminEnsureTenantConfig req =>
    (Storage.adminEnsureTenantConfig b.storage ctx req).observe named
  | .storageAdminListFiles req =>
    (Storage.adminListFiles b.storage ctx req).observe fun c => (c.1, c.2.tenantKey)
  | .portalListApiKeys req => (Portal.listApiKeys b.portal ctx req).observe named
  | .portalCreateApiKey req => (Portal.createApiKey b.portal ctx req).observe named

section Served
variable (b : ClampBackends Ctx D M) (ctx : Ctx) (r : ClampedRequest M)

theorem observe_clampedForward (client : Ctx → TenantScoped M → Except D M)
    (req : TenantScoped M) : ∃ answer : String → Except (ServiceError D) Unit,
      (clampedForward Bffscope.tenantKey client ctx req).observe named =
        check (Bffscope.tenantKey ctx req.tenantKey) >>= fun key => ⟨[(ctx, key)], answer key⟩ := by
  rw [clampedForward, observe_check]
  exact ⟨_, rfl⟩

/-- **A clamped forward is the clamp and then one call** under the key the clamp gave. -/
theorem serve_eq : ∃ answer : String → Except (ServiceError D) Unit,
    r.serve b ctx =
      check (Bffscope.tenantKey ctx r.tenantKey) >>= fun key => ⟨[(ctx, key)], answer key⟩ := by
  cases r with
  | messageCreateTenantConfig req => exact observe_clampedForward ctx _ req
  | messageCreateChannelAccount req => exact observe_clampedForward ctx _ req
  | messageCreateSignature req => exact observe_clampedForward ctx _ req
  | storageAdminEnsureTenantConfig req => exact observe_clampedForward ctx _ req
  | storageAdminListFiles req =>
    -- the one forward that rebuilds its request and its answer
    show ∃ answer, (Storage.adminListFiles b.storage ctx req).observe _ = _
    rw [Storage.adminListFiles, observe_check]
    simp only [Handled.observe, calls_bind_pure]
    exact ⟨_, rfl⟩
  | portalListApiKeys req => exact observe_clampedForward ctx _ req
  | portalCreateApiKey req => exact observe_clampedForward ctx _ req

variable {b ctx r}

theorem serve_ok {key : String} (h : Bffscope.tenantKey (D := D) ctx r.tenantKey = .ok key) :
    (r.serve b ctx).calls = [(ctx, key)] := by
  obtain ⟨answer, heq⟩ := serve_eq b ctx r
  rw [heq, check_ok h]

/-- A refused request is not forwarded. -/
theorem serve_error {e : ServiceError D} (h : Bffscope.tenantKey ctx r.tenantKey = .error e) :
    r.serve b ctx = ⟨[], .error e⟩ := by
  obtain ⟨answer, heq⟩ := serve_eq b ctx r
  rw [heq, check_error h]

/-- **Only a verified actor is served**: a tenant admin under the injected key, any other
under the key of the body. -/
theorem serve_admitted {c : Ctx × String} (hc : c ∈ (r.serve b ctx).calls) :
    c.1 = ctx ∧ ∃ a, actorFromCtx ctx = some a ∧
      ((a.userType = .tenantAdmin ∧ tenantKeyFromCtx ctx = some c.2 ∧ c.2 ≠ "") ∨
        (a.userType ≠ .tenantAdmin ∧ c.2 = r.tenantKey)) := by
  rcases tenantKey_cases (D := D) ctx r.tenantKey with ⟨key, a, hk, ha, hcase⟩ | ⟨⟨_, hk⟩, -⟩
  · rw [serve_ok hk, List.mem_singleton] at hc
    subst hc
    exact ⟨rfl, a, ha, hcase⟩
  · rw [serve_error hk] at hc
    cases hc

theorem registry_serve (s : PortalService Ctx D M) (rpc : RegistryRpc) (req : M) :
    ∃ client, rpc.serve s ctx req = Portal.platformForward client ctx req := by
  cases rpc <;> exact ⟨_, rfl⟩

end Served

/-- What the clamped forwards and the registry forwards let through in a context. -/
structure ClampLaw (b : ClampBackends Ctx D M) (ctx : Ctx) : Prop where
  /-- A backend call is made for a tenant admin under the injected key, or for another
  verified actor under the key of the body. -/
  admitted : ∀ (r : ClampedRequest M) c, c ∈ (r.serve b ctx).calls →
    c.1 = ctx ∧ ∃ a, actorFromCtx ctx = some a ∧
    ((a.userType = .tenantAdmin ∧ tenantKeyFromCtx ctx = some c.2 ∧ c.2 ≠ "") ∨
      (a.userType ≠ .tenantAdmin ∧ c.2 = r.tenantKey))
  /-- Without an actor, and for a tenant admin without an injected key, the request is
  refused and nothing is forwarded. -/
  refused : ∀ r : ClampedRequest M, (actorFromCtx ctx = none ∨ ∃ a, actorFromCtx ctx = some a ∧
      a.userType = .tenantAdmin ∧ ∀ key, tenantKeyFromCtx ctx = some key → key = "") →
    ∃ details, r.serve b ctx = ⟨[], .error (.forbidden details)⟩
  alike : ∀ body, Portal.scopeTenantKey (D := D) ctx body = Bffscope.tenantKey ctx body
  /-- The registry is reached by a platform operator only. -/
  registry : ∀ (rpc : RegistryRpc) req, (∃ a, actorFromCtx ctx = some a ∧ a.userType = .platform) ∨
    rpc.serve b.portal ctx req = ⟨[], .error (.forbidden ["platform operators only"])⟩

/-- **Who may name a tenant.**  In every context and for every request, the clamped
forwards and the registry forwards keep to `ClampLaw`. -/
theorem clamped_callers (b : ClampBackends Ctx D M) (ctx : Ctx) : ClampLaw b ctx where
  admitted _ _ hc := serve_admitted hc
  refused := by
    intro r hno
    rcases tenantKey_cases (D := D) ctx r.tenantKey with ⟨key, a, -, ha, hcase⟩ | ⟨⟨_, hk⟩, -⟩
    · -- the clamp passed, so there is an actor, and no tenant admin without a key
      rcases hno with hnone | ⟨a', ha', ht, hempty⟩
      · rw [hnone] at ha
        cases ha
      · obtain rfl : a' = a := Option.some.inj (ha'.symm.trans ha)
        rcases hcase with ⟨-, hkey, hne⟩ | ⟨hnot, -⟩
        · exact absurd (hempty key hkey) hne
        · exact absurd ht hnot
    · exact ⟨_, serve_error hk⟩
  alike := scopeTenantKey_eq ctx
  registry := by
    intro rpc req
    obtain ⟨client, hserve⟩ := registry_serve b.portal rpc req
    rcases requirePlatform_cases (D := D) ctx with hplatform | hrefused
    · exact Or.inl hplatform
    · rw [hserve, Portal.platformForward, check_error hrefused]
      exact Or.inr rfl

/-- The stricter law: only a platform operator's body key, and only the two management
types. -/
def ConsoleOnly (Ctx MD D M : Type) [MetadataMap MD] [RequestContext Ctx MD] : Prop :=
  ∀ (b : ClampBackends Ctx D M) (ctx : Ctx) (r : ClampedRequest M) c,
    c ∈ (r.serve b ctx).calls →
      ∃ a, actorFromCtx ctx = some a ∧ ((a.userType = .platform ∧ c.2 = r.tenantKey) ∨
        (a.userType = .tenantAdmin ∧ tenantKeyFromCtx ctx = some c.2 ∧ c.2 ≠ ""))

/-- Backends that accept every write. -/
def stubBackends : ClampBackends PlainContext Unit Unit where
  message := ⟨fun _ _ => .ok (), fun _ _ => .ok (), fun _ _ => .ok ()⟩
  storage := ⟨fun _ _ => .ok (), fun _ _ => .ok ⟨[], 0, ""⟩⟩
  portal :=
    ⟨fun _ => .ok (), fun _ => .ok (), fun _ _ => .ok (), fun _ _ => .ok (), fun _ _ => .ok (),
      fun _ _ => .ok (), fun _ _ => .ok (), fun _ _ => .ok (), fun _ _ => .ok (),
      fun _ _ => .ok (), fun _ _ => .ok (), fun _ _ => .ok (), fun _ _ => .ok (),
      fun _ _ => .ok (), fun _ _ => .ok ()⟩

/-- An end user's `CreateSignature` goes out under the key of its body: refusing it is
left to the backend. -/
theorem consoleOnly_endUser : ¬ ConsoleOnly PlainContext PlainMetadata Unit Unit := by
  intro hlaw
  have hcall : (({ actor := some ⟨42, .endUser⟩ } : PlainContext), "ten_beta0000000") ∈
      ((ClampedRequest.messageCreateSignature ⟨"ten_beta0000000", ()⟩).serve stubBackends
        { actor := some ⟨42, .endUser⟩ }).calls := List.mem_singleton_self _
  obtain ⟨a, ha, hcase⟩ := hlaw _ _ _ _ hcall
  cases ha
  rcases hcase with ⟨ht, -⟩ | ⟨ht, -⟩ <;> cases ht

end Reach
end Testkit
