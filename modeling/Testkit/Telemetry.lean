import Testkit.TenantClamp

/-! # The telemetry forwards

`internal/service/telemetry` mirrors the messages of telemetry-service and converts
them field by field in both directions.  A message pointer is an `Option` whose `none`
is nil; an enumeration is its number.  Modelled are the management writes, which append
the admin bearer token to the outgoing metadata.
-/
namespace Testkit.Telemetry
open BackendCalls

/-! ## Messages, on either side of the forward -/

structure TenantConfig (side : Side) where
  id : String
  appKey : String
  tenantKey : String
  name : String
  email : String
  strictVersions : Bool
  authMode : Int32
  authGraceUntil : Option Timestamp
  ratePerMinute : Int32
  ratePerDay : Int32
  rawRetentionDays : Int32
  dailyEventBudget : Int64
  disabled : Bool
  createdAt : Option Timestamp
  updatedAt : Option Timestamp
  deriving DecidableEq, Repr

structure EventRule (side : Side) where
  eventName : String
  allowProps : List String
  mapProp : Option String
  deriving DecidableEq, Repr

structure CreateTenantConfigRequest (side : Side) where
  name : String
  email : String
  tenantKey : String
  deriving DecidableEq, Repr

structure CreateTenantConfigResponse (side : Side) where
  config : Option (TenantConfig side)
  token : String
  deriving DecidableEq, Repr

/-- The fields an update leaves alone are `none`. -/
structure UpdateTenantConfigRequest (side : Side) where
  tenantKey : String
  name : Option String
  email : Option String
  strictVersions : Option Bool
  authMode : Option Int32
  authGraceUntil : Option Timestamp
  clearAuthGrace : Bool
  ratePerMinute : Option Int32
  ratePerDay : Option Int32
  rawRetentionDays : Option Int32
  dailyEventBudget : Option Int64
  disabled : Option Bool
  deriving DecidableEq, Repr

structure UpdateTenantConfigResponse (side : Side) where
  config : Option (TenantConfig side)
  deriving DecidableEq, Repr

structure RotateTokenRequest (side : Side) where
  tenantKey : String
  deriving DecidableEq, Repr

structure RotateTokenResponse (side : Side) where
  token : String
  deriving DecidableEq, Repr

/-- `tokenPrefix` is the source's `Prefix`. -/
structure RevokeTokenRequest (side : Side) where
  tenantKey : String
  tokenPrefix : String
  deriving DecidableEq, Repr

structure RevokeTokenResponse (side : Side) where
  deriving DecidableEq, Repr

structure CreateSigningKeyRequest (side : Side) where
  tenantKey : String
  keyId : String
  deriving DecidableEq, Repr

structure CreateSigningKeyResponse (side : Side) where
  keyId : String
  secret : String
  deriving DecidableEq, Repr

structure RevokeSigningKeyRequest (side : Side) where
  tenantKey : String
  keyId : String
  deriving DecidableEq, Repr

structure RevokeSigningKeyResponse (side : Side) where
  deriving DecidableEq, Repr

structure ReplaceEventRulesRequest (side : Side) where
  tenantKey : String
  rules : List (Option (EventRule side))
  deriving DecidableEq, Repr

structure ReplaceEventRulesResponse (side : Side) where
  rules : List (Option (EventRule side))
  deriving DecidableEq, Repr

structure SetVersionBlockedRequest (side : Side) where
  tenantKey : String
  version : String
  blocked : Bool
  deriving DecidableEq, Repr

structure SetVersionBlockedResponse (side : Side) where
  deriving DecidableEq, Repr

/-! ## Converters -/

def toTestkitTenantConfig (src : Option (TenantConfig .backend)) :
    Option (TenantConfig .testkit) :=
  src.map fun src =>
    { id := src.id
      appKey := src.appKey
      tenantKey := src.tenantKey
      name := src.name
      email := src.email
      strictVersions := src.strictVersions
      authMode := src.authMode
      authGraceUntil := src.authGraceUntil
      ratePerMinute := src.ratePerMinute
      ratePerDay := src.ratePerDay
      rawRetentionDays := src.rawRetentionDays
      dailyEventBudget := src.dailyEventBudget
      disabled := src.disabled
      createdAt := src.createdAt
      updatedAt := src.updatedAt }

def toDnEventRule (src : Option (EventRule .testkit)) : Option (EventRule .backend) :=
  src.map fun src =>
    { eventName := src.eventName, allowProps := src.allowProps, mapProp := src.mapProp }

def toTestkitEventRule (src : Option (EventRule .backend)) : Option (EventRule .testkit) :=
  src.map fun src =>
    { eventName := src.eventName, allowProps := src.allowProps, mapProp := src.mapProp }

def toDnCreateTenantConfigRequest (src : Option (CreateTenantConfigRequest .testkit)) :
    Option (CreateTenantConfigRequest .backend) :=
  src.map fun src => { name := src.name, email := src.email, tenantKey := src.tenantKey }

def toTestkitCreateTenantConfigResponse (src : Option (CreateTenantConfigResponse .backend)) :
    Option (CreateTenantConfigResponse .testkit) :=
  src.map fun src => { config := toTestkitTenantConfig src.config, token := src.token }

def toDnUpdateTenantConfigRequest (src : Option (UpdateTenantConfigRequest .testkit)) :
    Option (UpdateTenantConfigRequest .backend) :=
  src.map fun src =>
    { tenantKey := src.tenantKey
      name := src.name
      email := src.email
      strictVersions := src.strictVersions
      authMode := src.authMode
      authGraceUntil := src.authGraceUntil
      clearAuthGrace := src.clearAuthGrace
      ratePerMinute := src.ratePerMinute
      ratePerDay := src.ratePerDay
      rawRetentionDays := src.rawRetentionDays
      dailyEventBudget := src.dailyEventBudget
      disabled := src.disabled }

def toTestkitUpdateTenantConfigResponse (src : Option (UpdateTenantConfigResponse .backend)) :
    Option (UpdateTenantConfigResponse .testkit) :=
  src.map fun src => { config := toTestkitTenantConfig src.config }

def toDnRotateTokenRequest (src : Option (RotateTokenRequest .testkit)) :
    Option (RotateTokenRequest .backend) :=
  src.map fun src => { tenantKey := src.tenantKey }

def toTestkitRotateTokenResponse (src : Option (RotateTokenResponse .backend)) :
    Option (RotateTokenResponse .testkit) :=
  src.map fun src => { token := src.token }

def toDnRevokeTokenRequest (src : Option (RevokeTokenRequest .testkit)) :
    Option (RevokeTokenRequest .backend) :=
  src.map fun src => { tenantKey := src.tenantKey, tokenPrefix := src.tokenPrefix }

def toTestkitRevokeTokenResponse (src : Option (RevokeTokenResponse .backend)) :
    Option (RevokeTokenResponse .testkit) :=
  src.map fun _ => {}

def toDnCreateSigningKeyRequest (src : Option (CreateSigningKeyRequest .testkit)) :
    Option (CreateSigningKeyRequest .backend) :=
  src.map fun src => { tenantKey := src.tenantKey, keyId := src.keyId }

def toTestkitCreateSigningKeyResponse (src : Option (CreateSigningKeyResponse .backend)) :
    Option (CreateSigningKeyResponse .testkit) :=
  src.map fun src => { keyId := src.keyId, secret := src.secret }

def toDnRevokeSigningKeyRequest (src : Option (RevokeSigningKeyRequest .testkit)) :
    Option (RevokeSigningKeyRequest .backend) :=
  src.map fun src => { tenantKey := src.tenantKey, keyId := src.keyId }

def toTestkitRevokeSigningKeyResponse (src : Option (RevokeSigningKeyResponse .backend)) :
    Option (RevokeSigningKeyResponse .testkit) :=
  src.map fun _ => {}

def toDnReplaceEventRulesRequest (src : Option (ReplaceEventRulesRequest .testkit)) :
    Option (ReplaceEventRulesRequest .backend) :=
  src.map fun src => { tenantKey := src.tenantKey, rules := src.rules.map toDnEventRule }

def toTestkitReplaceEventRulesResponse (src : Option (ReplaceEventRulesResponse .backend)) :
    Option (ReplaceEventRulesResponse .testkit) :=
  src.map fun src => { rules := src.rules.map toTestkitEventRule }

def toDnSetVersionBlockedRequest (src : Option (SetVersionBlockedRequest .testkit)) :
    Option (SetVersionBlockedRequest .backend) :=
  src.map fun src =>
    { tenantKey := src.tenantKey, version := src.version, blocked := src.blocked }

def toTestkitSetVersionBlockedResponse (src : Option (SetVersionBlockedResponse .backend)) :
    Option (SetVersionBlockedResponse .testkit) :=
  src.map fun _ => {}

/-! ## The service -/

/-- A method of `telemetryservice.Service`. -/
abbrev Method (Ctx D : Type) (Req Resp : Side → Type) : Type :=
  Ctx → Option (Req .backend) → Except D (Option (Resp .backend))

/-- The management writes of `telemetryservice.Service`. -/
structure Client (Ctx D : Type) where
  createTenantConfig : Method Ctx D CreateTenantConfigRequest CreateTenantConfigResponse
  updateTenantConfig : Method Ctx D UpdateTenantConfigRequest UpdateTenantConfigResponse
  rotateToken : Method Ctx D RotateTokenRequest RotateTokenResponse
  revokeToken : Method Ctx D RevokeTokenRequest RevokeTokenResponse
  createSigningKey : Method Ctx D CreateSigningKeyRequest CreateSigningKeyResponse
  revokeSigningKey : Method Ctx D RevokeSigningKeyRequest RevokeSigningKeyResponse
  replaceEventRules : Method Ctx D ReplaceEventRulesRequest ReplaceEventRulesResponse
  setVersionBlocked : Method Ctx D SetVersionBlockedRequest SetVersionBlockedResponse

/-- `Service`. -/
structure Service (Ctx D : Type) where
  client : Client Ctx D
  adminToken : String

section Forwards
variable {Ctx MD D : Type} [MetadataMap MD] [RequestContext Ctx MD]

/-- `adminCtx`: no token, no metadata. -/
def adminCtx (s : Service Ctx D) (ctx : Ctx) : Ctx :=
  if s.adminToken = "" then ctx
  else appendToOutgoingContext ctx "authorization" ("Bearer " ++ s.adminToken)

/-- The admin token is no actor: whom the call is made for stays what it was. -/
theorem actor_adminCtx (s : Service Ctx D) (ctx : Ctx) :
    actorFromCtx (adminCtx s ctx) = actorFromCtx ctx ∧
      tenantKeyFromCtx (adminCtx s ctx) = tenantKeyFromCtx ctx := by
  unfold adminCtx
  split
  · exact ⟨rfl, rfl⟩
  · simp

/-- The admin forwards: convert, call under `adminCtx`, convert back. -/
def adminForward {Req Resp : Side → Type} (s : Service Ctx D) (client : Method Ctx D Req Resp)
    (toDn : Option (Req .testkit) → Option (Req .backend))
    (toTestkit : Option (Resp .backend) → Option (Resp .testkit)) (ctx : Ctx)
    (req : Option (Req .testkit)) :
    Handled (Ctx × Option (Req .backend)) (ServiceError D) (Option (Resp .testkit)) := do
  let resp ← forward client (adminCtx s ctx) (toDn req)
  return toTestkit resp

/-- An admin forward is one call, of the converted request. -/
theorem calls_adminForward {Req Resp : Side → Type} {s : Service Ctx D}
    {client : Method Ctx D Req Resp}
    {toDn : Option (Req .testkit) → Option (Req .backend)}
    {toTestkit : Option (Resp .backend) → Option (Resp .testkit)} {ctx : Ctx}
    {req : Option (Req .testkit)} :
    (adminForward s client toDn toTestkit ctx req).calls = [(adminCtx s ctx, toDn req)] := by
  rw [adminForward, calls_bind_pure]
  rfl

def createTenantConfig (s : Service Ctx D) :=
  adminForward s s.client.createTenantConfig toDnCreateTenantConfigRequest
    toTestkitCreateTenantConfigResponse

def updateTenantConfig (s : Service Ctx D) :=
  adminForward s s.client.updateTenantConfig toDnUpdateTenantConfigRequest
    toTestkitUpdateTenantConfigResponse

def rotateToken (s : Service Ctx D) :=
  adminForward s s.client.rotateToken toDnRotateTokenRequest toTestkitRotateTokenResponse

def revokeToken (s : Service Ctx D) :=
  adminForward s s.client.revokeToken toDnRevokeTokenRequest toTestkitRevokeTokenResponse

def createSigningKey (s : Service Ctx D) :=
  adminForward s s.client.createSigningKey toDnCreateSigningKeyRequest
    toTestkitCreateSigningKeyResponse

def revokeSigningKey (s : Service Ctx D) :=
  adminForward s s.client.revokeSigningKey toDnRevokeSigningKeyRequest
    toTestkitRevokeSigningKeyResponse

def replaceEventRules (s : Service Ctx D) :=
  adminForward s s.client.replaceEventRules toDnReplaceEventRulesRequest
    toTestkitReplaceEventRulesResponse

def setVersionBlocked (s : Service Ctx D) :=
  adminForward s s.client.setVersionBlocked toDnSetVersionBlockedRequest
    toTestkitSetVersionBlockedResponse

end Forwards
end Testkit.Telemetry
