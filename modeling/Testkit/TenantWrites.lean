import Testkit.Telemetry
import Testkit.UserAdmin

/-! # Tenant-naming management writes

Every management RPC whose request names the tenant that is written to, across the
five service packages.  The clamp is a line of each forward; five forwards have it and
nine do not, so a tenant admin is confined to the injected tenant by the former, and by
the latter exactly when the body names that tenant (`confined_iff`).
-/
namespace Testkit
open BackendCalls

/-- A tenant-naming write with its request. -/
inductive TenantWrite (M : Type)
  | messageCreateTenantConfig (req : TenantScoped M)
  | messageCreateChannelAccount (req : TenantScoped M)
  | messageCreateSignature (req : TenantScoped M)
  | storageAdminEnsureTenantConfig (req : TenantScoped M)
  | portalCreateApiKey (req : TenantScoped M)
  | telemetryCreateTenantConfig (req : Telemetry.CreateTenantConfigRequest .testkit)
  | telemetryUpdateTenantConfig (req : Telemetry.UpdateTenantConfigRequest .testkit)
  | telemetryRotateToken (req : Telemetry.RotateTokenRequest .testkit)
  | telemetryRevokeToken (req : Telemetry.RevokeTokenRequest .testkit)
  | telemetryCreateSigningKey (req : Telemetry.CreateSigningKeyRequest .testkit)
  | telemetryRevokeSigningKey (req : Telemetry.RevokeSigningKeyRequest .testkit)
  | telemetryReplaceEventRules (req : Telemetry.ReplaceEventRulesRequest .testkit)
  | telemetrySetVersionBlocked (req : Telemetry.SetVersionBlockedRequest .testkit)
  | userCreateUser (req : UserAdmin.CreateUserRequest)

/-- The key the body names. -/
def TenantWrite.tenantKey {M : Type} : TenantWrite M → String
  | .messageCreateTenantConfig req | .messageCreateChannelAccount req
  | .messageCreateSignature req | .storageAdminEnsureTenantConfig req
  | .portalCreateApiKey req => req.tenantKey
  | .telemetryCreateTenantConfig req => req.tenantKey
  | .telemetryUpdateTenantConfig req => req.tenantKey
  | .telemetryRotateToken req => req.tenantKey
  | .telemetryRevokeToken req => req.tenantKey
  | .telemetryCreateSigningKey req => req.tenantKey
  | .telemetryRevokeSigningKey req => req.tenantKey
  | .telemetryReplaceEventRules req => req.tenantKey
  | .telemetrySetVersionBlocked req => req.tenantKey
  | .userCreateUser req => req.tenantKey

/-- The write as a request of a clamped forward, if its forward is one. -/
def TenantWrite.clamped {M : Type} : TenantWrite M → Option (ClampedRequest M)
  | .messageCreateTenantConfig req => some (.messageCreateTenantConfig req)
  | .messageCreateChannelAccount req => some (.messageCreateChannelAccount req)
  | .messageCreateSignature req => some (.messageCreateSignature req)
  | .storageAdminEnsureTenantConfig req => some (.storageAdminEnsureTenantConfig req)
  | .portalCreateApiKey req => some (.portalCreateApiKey req)
  | _ => none

/-- The backends of the writes. -/
structure WriteBackends (Ctx D M : Type) extends ClampBackends Ctx D M where
  telemetry : Telemetry.Service Ctx D
  user : UserAdmin.Client Ctx D

section Writes
variable {Ctx MD D M : Type} [MetadataMap MD] [RequestContext Ctx MD]

/-- The context and the tenant key of a call whose request may be nil. -/
def namedBy {Req : Type} (tenantKey : Req → String) (c : Ctx × Option Req) : Ctx × String :=
  (c.1, (c.2.map tenantKey).getD "")

/-- What the forward of a write does, its calls seen as context and tenant key. -/
def TenantWrite.serve (b : WriteBackends Ctx D M) (ctx : Ctx) :
    TenantWrite M → Handled (Ctx × String) (ServiceError D) Unit
  | .messageCreateTenantConfig req => (Message.createTenantConfig b.message ctx req).observe named
  | .messageCreateChannelAccount req =>
    (Message.createChannelAccount b.message ctx req).observe named
  | .messageCreateSignature req => (Message.createSignature b.message ctx req).observe named
  | .storageAdminEnsureTenantConfig req =>
    (Storage.adminEnsureTenantConfig b.storage ctx req).observe named
  | .portalCreateApiKey req => (Portal.createApiKey b.portal ctx req).observe named
  | .telemetryCreateTenantConfig req =>
    (Telemetry.createTenantConfig b.telemetry ctx (some req)).observe (namedBy (·.tenantKey))
  | .telemetryUpdateTenantConfig req =>
    (Telemetry.updateTenantConfig b.telemetry ctx (some req)).observe (namedBy (·.tenantKey))
  | .telemetryRotateToken req =>
    (Telemetry.rotateToken b.telemetry ctx (some req)).observe (namedBy (·.tenantKey))
  | .telemetryRevokeToken req =>
    (Telemetry.revokeToken b.telemetry ctx (some req)).observe (namedBy (·.tenantKey))
  | .telemetryCreateSigningKey req =>
    (Telemetry.createSigningKey b.telemetry ctx (some req)).observe (namedBy (·.tenantKey))
  | .telemetryRevokeSigningKey req =>
    (Telemetry.revokeSigningKey b.telemetry ctx (some req)).observe (namedBy (·.tenantKey))
  | .telemetryReplaceEventRules req =>
    (Telemetry.replaceEventRules b.telemetry ctx (some req)).observe (namedBy (·.tenantKey))
  | .telemetrySetVersionBlocked req =>
    (Telemetry.setVersionBlocked b.telemetry ctx (some req)).observe (namedBy (·.tenantKey))
  | .userCreateUser req =>
    (UserAdmin.createUser b.user ctx req).observe fun c => (c.1, c.2.tenantKey)

section Served
variable {b : WriteBackends Ctx D M} {ctx : Ctx} {w : TenantWrite M}

theorem serve_clamped {r : ClampedRequest M} (h : w.clamped = some r) :
    w.serve b ctx = r.serve b.toClampBackends ctx ∧ w.tenantKey = r.tenantKey := by
  cases w with
  | messageCreateTenantConfig | messageCreateChannelAccount | messageCreateSignature
  | storageAdminEnsureTenantConfig | portalCreateApiKey =>
    cases h
    exact ⟨rfl, rfl⟩
  | _ => cases h

/-- **Without the clamp** the body's key goes out, whoever asks. -/
theorem serve_unclamped (h : w.clamped = none) :
    ∃ ctx', (w.serve b ctx).calls = [(ctx', w.tenantKey)] := by
  cases w with
  | messageCreateTenantConfig | messageCreateChannelAccount | messageCreateSignature
  | storageAdminEnsureTenantConfig | portalCreateApiKey => cases h
  | userCreateUser req =>
    show ∃ ctx', (UserAdmin.createUser b.user ctx req).calls.map _ = _
    rw [UserAdmin.calls_createUser]
    exact ⟨ctx, rfl⟩
  | _ =>
    show ∃ ctx', (Telemetry.adminForward _ _ _ _ _ _).calls.map _ = _
    rw [Telemetry.calls_adminForward]
    exact ⟨_, rfl⟩

/-- **When a tenant admin's write is confined to the injected tenant**: when its forward
clamps, or the body names that tenant already. -/
theorem confined_iff (b : WriteBackends Ctx D M) {a : RequestActor}
    (ha : actorFromCtx ctx = some a) (ht : a.userType = .tenantAdmin) {k : String}
    (hk : tenantKeyFromCtx ctx = some k) (w : TenantWrite M) :
    (∀ c ∈ (w.serve b ctx).calls, c.2 = k) ↔ w.clamped.isSome ∨ w.tenantKey = k := by
  cases hw : w.clamped with
  | none =>
    obtain ⟨ctx', hcalls⟩ : ∃ ctx', (w.serve b ctx).calls = [(ctx', w.tenantKey)] :=
      serve_unclamped hw
    simp [hcalls]
  | some r =>
    rw [(serve_clamped hw).1]
    refine iff_of_true ?_ (Or.inl rfl)
    intro c hc
    obtain ⟨-, a', ha', hcase⟩ := serve_admitted hc
    obtain rfl : a' = a := Option.some.inj (ha'.symm.trans ha)
    rcases hcase with ⟨-, hkey, -⟩ | ⟨hnot, -⟩
    · exact Option.some.inj (hkey.symm.trans hk)
    · exact absurd ht hnot

end Served

/-- The law the shared clamp is there for, over every tenant-naming write. -/
def TenantAdminConfined (Ctx MD D M : Type) [MetadataMap MD] [RequestContext Ctx MD] : Prop :=
  ∀ (b : WriteBackends Ctx D M) (ctx : Ctx) a k, actorFromCtx ctx = some a →
    a.userType = .tenantAdmin → tenantKeyFromCtx ctx = some k →
      ∀ w : TenantWrite M, ∀ c ∈ (w.serve b ctx).calls, c.2 = k

end Writes

/-! A tenant admin of `ten_alpha0000000`, in front of backends that accept every write. -/

def alphaAdmin : PlainContext :=
  { actor := some ⟨42, .tenantAdmin⟩, tenantKey := some "ten_alpha0000000" }

def stubWriteBackends : WriteBackends PlainContext Unit Unit where
  toClampBackends := stubBackends
  telemetry := ⟨⟨fun _ _ => .ok none, fun _ _ => .ok none, fun _ _ => .ok none,
    fun _ _ => .ok none, fun _ _ => .ok none, fun _ _ => .ok none, fun _ _ => .ok none,
    fun _ _ => .ok none⟩, "token"⟩
  user := ⟨fun _ _ => .ok ⟨none⟩⟩

/-- A signature named for another tenant is registered for the admin's own. -/
theorem confined_iff_signature :
    (TenantWrite.messageCreateSignature (M := Unit) ⟨"ten_beta0000000", ()⟩).clamped.isSome ∧
    ∀ c ∈ ((TenantWrite.messageCreateSignature ⟨"ten_beta0000000", ()⟩).serve
      stubWriteBackends alphaAdmin).calls, c.2 = "ten_alpha0000000" :=
  ⟨rfl, (confined_iff stubWriteBackends rfl rfl rfl _).mpr (Or.inl rfl)⟩

/-- A token rotation named for another tenant goes out for that tenant. -/
theorem tenantAdminConfined_rotateToken :
    ¬ TenantAdminConfined PlainContext PlainMetadata Unit Unit := by
  intro hlaw
  have hkey := hlaw stubWriteBackends alphaAdmin _ _ rfl rfl rfl
    (.telemetryRotateToken ⟨"ten_beta0000000"⟩) _ (List.mem_singleton_self _)
  revert hkey
  decide

end Testkit
