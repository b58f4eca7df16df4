import Testkit.MirroredMessages
import Testkit.Telemetry

/-! # The mirrored messages of the telemetry domain

The messages of the telemetry reads, and the converters of every message in the
direction its forward does not use.  A pair of converters, with its message type, is a
`Mirror`; every pair of the domain is lossless.
-/
namespace Testkit
open MirroredMessages

/-- A message type of a mirrored domain with its two converters. -/
structure Mirror where
  Msg : Side → Type
  toDn : Option (Msg .testkit) → Option (Msg .backend)
  toTestkit : Option (Msg .backend) → Option (Msg .testkit)

/-- A repeated field of a message, whose items are messages. -/
structure RepeatedField where
  message : Mirror
  item : Mirror
  field : ∀ side, message.Msg side → List (Option (item.Msg side))

/-- Converting the message converts the items, each in its place. -/
def RepeatedField.InOrder (r : RepeatedField) : Prop :=
  (∀ m, (r.message.toDn (some m)).map (r.field .backend) =
    some ((r.field .testkit m).map r.item.toDn)) ∧
  ∀ m, (r.message.toTestkit (some m)).map (r.field .testkit) =
    some ((r.field .backend m).map r.item.toTestkit)

/-- A field whose type has no side: an optional scalar, a list of scalars, a map. -/
structure ValueField where
  message : Mirror
  Val : Type
  field : ∀ side, message.Msg side → Val

/-- Converting the message leaves the field as it is, present or absent. -/
def ValueField.Kept (v : ValueField) : Prop :=
  (∀ m, (v.message.toDn (some m)).map (v.field .backend) = some (v.field .testkit m)) ∧
  ∀ m, (v.message.toTestkit (some m)).map (v.field .testkit) = some (v.field .backend m)

namespace Telemetry

/-! ## Messages -/

structure DailyStat (side : Side) where
  day : String
  devices : Int64
  events : Int64

structure GetTenantConfigRequest (side : Side) where
  tenantKey : String

structure IngestTokenInfo (side : Side) where
  tokenPrefix : String
  revoked : Bool
  createdAt : Option Timestamp
  lastUsedAt : Option Timestamp

/-- `TelemetrySigningKeyInfo`, and the backend's `SigningKeyInfo`. -/
structure SigningKeyInfo (side : Side) where
  keyId : String
  revoked : Bool
  createdAt : Option Timestamp
  lastUsedAt : Option Timestamp

structure VersionInfo (side : Side) where
  version : String
  blocked : Bool
  seenCount : Int64
  lastSeenAt : Option Timestamp

structure GetTenantConfigResponse (side : Side) where
  config : Option (TenantConfig side)
  tokens : List (Option (IngestTokenInfo side))
  signingKeys : List (Option (SigningKeyInfo side))
  rules : List (Option (EventRule side))
  versions : List (Option (VersionInfo side))

structure GetTenantConfigStatsRequest (side : Side) where
  tenantKey : String
  days : Int32

structure GetTenantConfigStatsResponse (side : Side) where
  days : List (Option (DailyStat side))
  drops : EntryMap Int64
  sigFails : EntryMap Int64

structure IngestRequest (side : Side) where
  token : String
  body : List UInt8
  signature : String

structure IngestResponse (side : Side) where
  httpCode : Int32
  errorCode : String
  duplicate : Bool
  accepted : Int32
  dropped : Int32
  drops : EntryMap Int32

structure ValidateEventResult (side : Side) where
  index : Int32
  eventId : String
  name : String
  accepted : Bool
  dropReason : String

structure ValidateBatchResponse (side : Side) where
  httpCode : Int32
  app : String
  errorCode : String
  signatureValid : Bool
  signatureError : String
  envelopeError : String
  events : List (Option (ValidateEventResult side))

/-! ## Converters -/

def toDnTenantConfig (src : Option (TenantConfig .testkit)) : Option (TenantConfig .backend) :=
  src.map fun src =>
    { id := src.id, appKey := src.appKey, tenantKey := src.tenantKey, name := src.name
      email := src.email, strictVersions := src.strictVersions, authMode := src.authMode
      authGraceUntil := src.authGraceUntil, ratePerMinute := src.ratePerMinute
      ratePerDay := src.ratePerDay, rawRetentionDays := src.rawRetentionDays
      dailyEventBudget := src.dailyEventBudget, disabled := src.disabled
      createdAt := src.createdAt, updatedAt := src.updatedAt }

def toTestkitCreateTenantConfigRequest (src : Option (CreateTenantConfigRequest .backend)) :
    Option (CreateTenantConfigRequest .testkit) :=
  src.map fun src => { name := src.name, email := src.email, tenantKey := src.tenantKey }

def toDnCreateTenantConfigResponse (src : Option (CreateTenantConfigResponse .testkit)) :
    Option (CreateTenantConfigResponse .backend) :=
  src.map fun src => { config := toDnTenantConfig src.config, token := src.token }

def toTestkitCreateSigningKeyRequest (src : Option (CreateSigningKeyRequest .backend)) :
    Option (CreateSigningKeyRequest .testkit) :=
  src.map fun src => { tenantKey := src.tenantKey, keyId := src.keyId }

def toDnCreateSigningKeyResponse (src : Option (CreateSigningKeyResponse .testkit)) :
    Option (CreateSigningKeyResponse .backend) :=
  src.map fun src => { keyId := src.keyId, secret := src.secret }

def toDnDailyStat (src : Option (DailyStat .testkit)) : Option (DailyStat .backend) :=
  src.map fun src => { day := src.day, devices := src.devices, events := src.events }

def toTestkitDailyStat (src : Option (DailyStat .backend)) : Option (DailyStat .testkit) :=
  src.map fun src => { day := src.day, devices := src.devices, events := src.events }

def toDnGetTenantConfigRequest (src : Option (GetTenantConfigRequest .testkit)) :
    Option (GetTenantConfigRequest .backend) :=
  src.map fun src => { tenantKey := src.tenantKey }

def toTestkitGetTenantConfigRequest (src : Option (GetTenantConfigRequest .backend)) :
    Option (GetTenantConfigRequest .testkit) :=
  src.map fun src => { tenantKey := src.tenantKey }

def toDnIngestTokenInfo (src : Option (IngestTokenInfo .testkit)) :
    Option (IngestTokenInfo .backend) :=
  src.map fun src =>
    { tokenPrefix := src.tokenPrefix, revoked := src.revoked, createdAt := src.createdAt
      lastUsedAt := src.lastUsedAt }

def toTestkitIngestTokenInfo (src : Option (IngestTokenInfo .backend)) :
    Option (IngestTokenInfo .testkit) :=
  src.map fun src =>
    { tokenPrefix := src.tokenPrefix, revoked := src.revoked, createdAt := src.createdAt
      lastUsedAt := src.lastUsedAt }

def toDnSigningKeyInfo (src : Option (SigningKeyInfo .testkit)) :
    Option (SigningKeyInfo .backend) :=
  src.map fun src =>
    { keyId := src.keyId, revoked := src.revoked, createdAt := src.createdAt
      lastUsedAt := src.lastUsedAt }

def toTestkitTelemetrySigningKeyInfo (src : Option (SigningKeyInfo .backend)) :
    Option (SigningKeyInfo .testkit) :=
  src.map fun src =>
    { keyId := src.keyId, revoked := src.revoked, createdAt := src.createdAt
      lastUsedAt := src.lastUsedAt }

def toDnVersionInfo (src : Option (VersionInfo .testkit)) : Option (VersionInfo .backend) :=
  src.map fun src =>
    { version := src.version, blocked := src.blocked, seenCount := src.seenCount
      lastSeenAt := src.lastSeenAt }

def toTestkitVersionInfo (src : Option (VersionInfo .backend)) : Option (VersionInfo .testkit) :=
  src.map fun src =>
    { version := src.version, blocked := src.blocked, seenCount := src.seenCount
      lastSeenAt := src.lastSeenAt }

def toDnGetTenantConfigResponse (src : Option (GetTenantConfigResponse .testkit)) :
    Option (GetTenantConfigResponse .backend) :=
  src.map fun src =>
    { config := toDnTenantConfig src.config, tokens := src.tokens.map toDnIngestTokenInfo
      signingKeys := src.signingKeys.map toDnSigningKeyInfo, rules := src.rules.map toDnEventRule
      versions := src.versions.map toDnVersionInfo }

def toTestkitGetTenantConfigResponse (src : Option (GetTenantConfigResponse .backend)) :
    Option (GetTenantConfigResponse .testkit) :=
  src.map fun src =>
    { config := toTestkitTenantConfig src.config
      tokens := src.tokens.map toTestkitIngestTokenInfo
      signingKeys := src.signingKeys.map toTestkitTelemetrySigningKeyInfo
      rules := src.rules.map toTestkitEventRule
      versions := src.versions.map toTestkitVersionInfo }

def toDnGetTenantConfigStatsRequest (src : Option (GetTenantConfigStatsRequest .testkit)) :
    Option (GetTenantConfigStatsRequest .backend) :=
  src.map fun src => { tenantKey := src.tenantKey, days := src.days }

def toTestkitGetTenantConfigStatsRequest (src : Option (GetTenantConfigStatsRequest .backend)) :
    Option (GetTenantConfigStatsRequest .testkit) :=
  src.map fun src => { tenantKey := src.tenantKey, days := src.days }

def toDnGetTenantConfigStatsResponse (src : Option (GetTenantConfigStatsResponse .testkit)) :
    Option (GetTenantConfigStatsResponse .backend) :=
  src.map fun src =>
    { days := src.days.map toDnDailyStat, drops := copyMap src.drops
      sigFails := copyMap src.sigFails }

def toTestkitGetTenantConfigStatsResponse (src : Option (GetTenantConfigStatsResponse .backend)) :
    Option (GetTenantConfigStatsResponse .testkit) :=
  src.map fun src =>
    { days := src.days.map toTestkitDailyStat, drops := copyMap src.drops
      sigFails := copyMap src.sigFails }

def toDnIngestRequest (src : Option (IngestRequest .testkit)) : Option (IngestRequest .backend) :=
  src.map fun src => { token := src.token, body := src.body, signature := src.signature }

def toTestkitIngestRequest (src : Option (IngestRequest .backend)) :
    Option (IngestRequest .testkit) :=
  src.map fun src => { token := src.token, body := src.body, signature := src.signature }

def toDnIngestResponse (src : Option (IngestResponse .testkit)) :
    Option (IngestResponse .backend) :=
  src.map fun src =>
    { httpCode := src.httpCode, errorCode := src.errorCode, duplicate := src.duplicate
      accepted := src.accepted, dropped := src.dropped, drops := copyMap src.drops }

def toTestkitIngestResponse (src : Option (IngestResponse .backend)) :
    Option (IngestResponse .testkit) :=
  src.map fun src =>
    { httpCode := src.httpCode, errorCode := src.errorCode, duplicate := src.duplicate
      accepted := src.accepted, dropped := src.dropped, drops := copyMap src.drops }

def toTestkitReplaceEventRulesRequest (src : Option (ReplaceEventRulesRequest .backend)) :
    Option (ReplaceEventRulesRequest .testkit) :=
  src.map fun src => { tenantKey := src.tenantKey, rules := src.rules.map toTestkitEventRule }

def toDnReplaceEventRulesResponse (src : Option (ReplaceEventRulesResponse .testkit)) :
    Option (ReplaceEventRulesResponse .backend) :=
  src.map fun src => { rules := src.rules.map toDnEventRule }

def toTestkitRevokeSigningKeyRequest (src : Option (RevokeSigningKeyRequest .backend)) :
    Option (RevokeSigningKeyRequest .testkit) :=
  src.map fun src => { tenantKey := src.tenantKey, keyId := src.keyId }

def toDnRevokeSigningKeyResponse (src : Option (RevokeSigningKeyResponse .testkit)) :
    Option (RevokeSigningKeyResponse .backend) :=
  src.map fun _ => {}

def toTestkitRevokeTokenRequest (src : Option (RevokeTokenRequest .backend)) :
    Option (RevokeTokenRequest .testkit) :=
  src.map fun src => { tenantKey := src.tenantKey, tokenPrefix := src.tokenPrefix }

def toDnRevokeTokenResponse (src : Option (RevokeTokenResponse .testkit)) :
    Option (RevokeTokenResponse .backend) :=
  src.map fun _ => {}

def toTestkitRotateTokenRequest (src : Option (RotateTokenRequest .backend)) :
    Option (RotateTokenRequest .testkit) :=
  src.map fun src => { tenantKey := src.tenantKey }

def toDnRotateTokenResponse (src : Option (RotateTokenResponse .testkit)) :
    Option (RotateTokenResponse .backend) :=
  src.map fun src => { token := src.token }

def toTestkitSetVersionBlockedRequest (src : Option (SetVersionBlockedRequest .backend)) :
    Option (SetVersionBlockedRequest .testkit) :=
  src.map fun src => { tenantKey := src.tenantKey, version := src.version, blocked := src.blocked }

def toDnSetVersionBlockedResponse (src : Option (SetVersionBlockedResponse .testkit)) :
    Option (SetVersionBlockedResponse .backend) :=
  src.map fun _ => {}

def toTestkitUpdateTenantConfigRequest (src : Option (UpdateTenantConfigRequest .backend)) :
    Option (UpdateTenantConfigRequest .testkit) :=
  src.map fun src =>
    { tenantKey := src.tenantKey, name := src.name, email := src.email
      strictVersions := src.strictVersions, authMode := src.authMode
      authGraceUntil := src.authGraceUntil, clearAuthGrace := src.clearAuthGrace
      ratePerMinute := src.ratePerMinute, ratePerDay := src.ratePerDay
      rawRetentionDays := src.rawRetentionDays, dailyEventBudget := src.dailyEventBudget
      disabled := src.disabled }

def toDnUpdateTenantConfigResponse (src : Option (UpdateTenantConfigResponse .testkit)) :
    Option (UpdateTenantConfigResponse .backend) :=
  src.map fun src => { config := toDnTenantConfig src.config }

def toDnValidateEventResult (src : Option (ValidateEventResult .testkit)) :
    Option (ValidateEventResult .backend) :=
  src.map fun src =>
    { index := src.index, eventId := src.eventId, name := src.name, accepted := src.accepted
      dropReason := src.dropReason }

def toTestkitValidateEventResult (src : Option (ValidateEventResult .backend)) :
    Option (ValidateEventResult .testkit) :=
  src.map fun src =>
    { index := src.index, eventId := src.eventId, name := src.name, accepted := src.accepted
      dropReason := src.dropReason }

def toDnValidateBatchResponse (src : Option (ValidateBatchResponse .testkit)) :
    Option (ValidateBatchResponse .backend) :=
  src.map fun src =>
    { httpCode := src.httpCode, app := src.app, errorCode := src.errorCode
      signatureValid := src.signatureValid, signatureError := src.signatureError
      envelopeError := src.envelopeError, events := src.events.map toDnValidateEventResult }

def toTestkitValidateBatchResponse (src : Option (ValidateBatchResponse .backend)) :
    Option (ValidateBatchResponse .testkit) :=
  src.map fun src =>
    { httpCode := src.httpCode, app := src.app, errorCode := src.errorCode
      signatureValid := src.signatureValid, signatureError := src.signatureError
      envelopeError := src.envelopeError, events := src.events.map toTestkitValidateEventResult }

/-! ## The pairs of converters -/

def tenantConfig : Mirror := ⟨TenantConfig, toDnTenantConfig, toTestkitTenantConfig⟩
def createTenantConfigRequest : Mirror :=
  ⟨CreateTenantConfigRequest, toDnCreateTenantConfigRequest, toTestkitCreateTenantConfigRequest⟩
def createTenantConfigResponse : Mirror :=
  ⟨CreateTenantConfigResponse, toDnCreateTenantConfigResponse, toTestkitCreateTenantConfigResponse⟩
def createSigningKeyRequest : Mirror :=
  ⟨CreateSigningKeyRequest, toDnCreateSigningKeyRequest, toTestkitCreateSigningKeyRequest⟩
def createSigningKeyResponse : Mirror :=
  ⟨CreateSigningKeyResponse, toDnCreateSigningKeyResponse, toTestkitCreateSigningKeyResponse⟩
def dailyStat : Mirror := ⟨DailyStat, toDnDailyStat, toTestkitDailyStat⟩
def eventRule : Mirror := ⟨EventRule, toDnEventRule, toTestkitEventRule⟩
def getTenantConfigRequest : Mirror :=
  ⟨GetTenantConfigRequest, toDnGetTenantConfigRequest, toTestkitGetTenantConfigRequest⟩
def ingestTokenInfo : Mirror := ⟨IngestTokenInfo, toDnIngestTokenInfo, toTestkitIngestTokenInfo⟩
def signingKeyInfo : Mirror :=
  ⟨SigningKeyInfo, toDnSigningKeyInfo, toTestkitTelemetrySigningKeyInfo⟩
def versionInfo : Mirror := ⟨VersionInfo, toDnVersionInfo, toTestkitVersionInfo⟩
def getTenantConfigResponse : Mirror :=
  ⟨GetTenantConfigResponse, toDnGetTenantConfigResponse, toTestkitGetTenantConfigResponse⟩
def getTenantConfigStatsRequest : Mirror :=
  ⟨GetTenantConfigStatsRequest, toDnGetTenantConfigStatsRequest,
    toTestkitGetTenantConfigStatsRequest⟩
def getTenantConfigStatsResponse : Mirror :=
  ⟨GetTenantConfigStatsResponse, toDnGetTenantConfigStatsResponse,
    toTestkitGetTenantConfigStatsResponse⟩
def ingestRequest : Mirror := ⟨IngestRequest, toDnIngestRequest, toTestkitIngestRequest⟩
def ingestResponse : Mirror := ⟨IngestResponse, toDnIngestResponse, toTestkitIngestResponse⟩
def replaceEventRulesRequest : Mirror :=
  ⟨ReplaceEventRulesRequest, toDnReplaceEventRulesRequest, toTestkitReplaceEventRulesRequest⟩
def replaceEventRulesResponse : Mirror :=
  ⟨ReplaceEventRulesResponse, toDnReplaceEventRulesResponse, toTestkitReplaceEventRulesResponse⟩
def revokeSigningKeyRequest : Mirror :=
  ⟨RevokeSigningKeyRequest, toDnRevokeSigningKeyRequest, toTestkitRevokeSigningKeyRequest⟩
def revokeSigningKeyResponse : Mirror :=
  ⟨RevokeSigningKeyResponse, toDnRevokeSigningKeyResponse, toTestkitRevokeSigningKeyResponse⟩
def revokeTokenRequest : Mirror :=
  ⟨RevokeTokenRequest, toDnRevokeTokenRequest, toTestkitRevokeTokenRequest⟩
def revokeTokenResponse : Mirror :=
  ⟨RevokeTokenResponse, toDnRevokeTokenResponse, toTestkitRevokeTokenResponse⟩
def rotateTokenRequest : Mirror :=
  ⟨RotateTokenRequest, toDnRotateTokenRequest, toTestkitRotateTokenRequest⟩
def rotateTokenResponse : Mirror :=
  ⟨RotateTokenResponse, toDnRotateTokenResponse, toTestkitRotateTokenResponse⟩
def setVersionBlockedRequest : Mirror :=
  ⟨SetVersionBlockedRequest, toDnSetVersionBlockedRequest, toTestkitSetVersionBlockedRequest⟩
def setVersionBlockedResponse : Mirror :=
  ⟨SetVersionBlockedResponse, toDnSetVersionBlockedResponse, toTestkitSetVersionBlockedResponse⟩
def updateTenantConfigRequest : Mirror :=
  ⟨UpdateTenantConfigRequest, toDnUpdateTenantConfigRequest, toTestkitUpdateTenantConfigRequest⟩
def updateTenantConfigResponse : Mirror :=
  ⟨UpdateTenantConfigResponse, toDnUpdateTenantConfigResponse, toTestkitUpdateTenantConfigResponse⟩
def validateEventResult : Mirror :=
  ⟨ValidateEventResult, toDnValidateEventResult, toTestkitValidateEventResult⟩
def validateBatchResponse : Mirror :=
  ⟨ValidateBatchResponse, toDnValidateBatchResponse, toTestkitValidateBatchResponse⟩

theorem tenantConfig_lossless : Lossless toDnTenantConfig toTestkitTenantConfig :=
  .option (fun _ => rfl) (fun _ => rfl)

theorem createTenantConfigResponse_lossless :
    Lossless toDnCreateTenantConfigResponse toTestkitCreateTenantConfigResponse := by
  apply Lossless.option
  · intro m
    simp only [tenantConfig_lossless.left _]
  · intro m
    simp only [tenantConfig_lossless.right _]

theorem dailyStat_lossless : Lossless toDnDailyStat toTestkitDailyStat :=
  .option (fun _ => rfl) (fun _ => rfl)

theorem eventRule_lossless : Lossless toDnEventRule toTestkitEventRule :=
  .option (fun _ => rfl) (fun _ => rfl)

theorem ingestTokenInfo_lossless : Lossless toDnIngestTokenInfo toTestkitIngestTokenInfo :=
  .option (fun _ => rfl) (fun _ => rfl)

theorem signingKeyInfo_lossless : Lossless toDnSigningKeyInfo toTestkitTelemetrySigningKeyInfo :=
  .option (fun _ => rfl) (fun _ => rfl)

theorem versionInfo_lossless : Lossless toDnVersionInfo toTestkitVersionInfo :=
  .option (fun _ => rfl) (fun _ => rfl)

theorem getTenantConfigResponse_lossless :
    Lossless toDnGetTenantConfigResponse toTestkitGetTenantConfigResponse := by
  apply Lossless.option
  · intro m
    simp only [tenantConfig_lossless.left _, ingestTokenInfo_lossless.listLeft,
      signingKeyInfo_lossless.listLeft, eventRule_lossless.listLeft, versionInfo_lossless.listLeft]
  · intro m
    simp only [tenantConfig_lossless.right _, ingestTokenInfo_lossless.listRight,
      signingKeyInfo_lossless.listRight, eventRule_lossless.listRight,
      versionInfo_lossless.listRight]

theorem getTenantConfigStatsResponse_lossless :
    Lossless toDnGetTenantConfigStatsResponse toTestkitGetTenantConfigStatsResponse := by
  apply Lossless.option
  · intro m
    simp only [dailyStat_lossless.listLeft, copyMap_eq]
  · intro m
    simp only [dailyStat_lossless.listRight, copyMap_eq]

theorem ingestResponse_lossless : Lossless toDnIngestResponse toTestkitIngestResponse := by
  apply Lossless.option
  · intro m
    simp only [copyMap_eq]
  · intro m
    simp only [copyMap_eq]

theorem replaceEventRulesRequest_lossless :
    Lossless toDnReplaceEventRulesRequest toTestkitReplaceEventRulesRequest := by
  apply Lossless.option
  · intro m
    simp only [eventRule_lossless.listLeft]
  · intro m
    simp only [eventRule_lossless.listRight]

theorem replaceEventRulesResponse_lossless :
    Lossless toDnReplaceEventRulesResponse toTestkitReplaceEventRulesResponse := by
  apply Lossless.option
  · intro m
    simp only [eventRule_lossless.listLeft]
  · intro m
    simp only [eventRule_lossless.listRight]

theorem updateTenantConfigResponse_lossless :
    Lossless toDnUpdateTenantConfigResponse toTestkitUpdateTenantConfigResponse := by
  apply Lossless.option
  · intro m
    simp only [tenantConfig_lossless.left _]
  · intro m
    simp only [tenantConfig_lossless.right _]

theorem validateEventResult_lossless :
    Lossless toDnValidateEventResult toTestkitValidateEventResult :=
  .option (fun _ => rfl) (fun _ => rfl)

theorem validateBatchResponse_lossless :
    Lossless toDnValidateBatchResponse toTestkitValidateBatchResponse := by
  apply Lossless.option
  · intro m
    simp only [validateEventResult_lossless.listLeft]
  · intro m
    simp only [validateEventResult_lossless.listRight]

/-- The mirrored messages of the telemetry domain. -/
def mirrors : List Mirror :=
  [tenantConfig, createTenantConfigRequest, createTenantConfigResponse, createSigningKeyRequest,
    createSigningKeyResponse, dailyStat, eventRule, getTenantConfigRequest, ingestTokenInfo,
    signingKeyInfo, versionInfo, getTenantConfigResponse, getTenantConfigStatsRequest,
    getTenantConfigStatsResponse, ingestRequest, ingestResponse, replaceEventRulesRequest,
    replaceEventRulesResponse, revokeSigningKeyRequest, revokeSigningKeyResponse,
    revokeTokenRequest, revokeTokenResponse, rotateTokenRequest, rotateTokenResponse,
    setVersionBlockedRequest, setVersionBlockedResponse, updateTenantConfigRequest,
    updateTenantConfigResponse, validateEventResult, validateBatchResponse]

/-- **Every pair is lossless.** -/
theorem mirrors_lossless : ∀ p ∈ mirrors, Lossless p.toDn p.toTestkit := by
  simp only [mirrors, List.forall_mem_cons]
  refine ⟨tenantConfig_lossless, ?_, createTenantConfigResponse_lossless, ?_, ?_,
    dailyStat_lossless, eventRule_lossless, ?_, ingestTokenInfo_lossless, signingKeyInfo_lossless,
    versionInfo_lossless, getTenantConfigResponse_lossless, ?_,
    getTenantConfigStatsResponse_lossless, ?_, ingestResponse_lossless,
    replaceEventRulesRequest_lossless, replaceEventRulesResponse_lossless, ?_, ?_, ?_, ?_, ?_, ?_,
    ?_, ?_, ?_, updateTenantConfigResponse_lossless, validateEventResult_lossless,
    validateBatchResponse_lossless, by simp⟩
  -- the rest are flat records
  all_goals exact .option (fun _ => rfl) (fun _ => rfl)

/-- The repeated fields that hold messages. -/
def repeatedFields : List RepeatedField :=
  [ ⟨getTenantConfigResponse, ingestTokenInfo, fun _ => GetTenantConfigResponse.tokens⟩,
    ⟨getTenantConfigResponse, signingKeyInfo, fun _ => GetTenantConfigResponse.signingKeys⟩,
    ⟨getTenantConfigResponse, eventRule, fun _ => GetTenantConfigResponse.rules⟩,
    ⟨getTenantConfigResponse, versionInfo, fun _ => GetTenantConfigResponse.versions⟩,
    ⟨getTenantConfigStatsResponse, dailyStat, fun _ => GetTenantConfigStatsResponse.days⟩,
    ⟨replaceEventRulesRequest, eventRule, fun _ => ReplaceEventRulesRequest.rules⟩,
    ⟨replaceEventRulesResponse, eventRule, fun _ => ReplaceEventRulesResponse.rules⟩,
    ⟨validateBatchResponse, validateEventResult, fun _ => ValidateBatchResponse.events⟩ ]

theorem repeatedFields_inOrder : ∀ r ∈ repeatedFields, r.InOrder := by
  simp only [repeatedFields, List.forall_mem_cons]
  refine ⟨?_, ?_, ?_, ?_, ?_, ?_, ?_, ?_, by simp⟩
  all_goals exact ⟨fun _ => rfl, fun _ => rfl⟩

/-- The optional scalars, and the lists and maps of scalars. -/
def valueFields : List ValueField :=
  [ ⟨eventRule, _, fun _ => EventRule.allowProps⟩,
    ⟨eventRule, _, fun _ => EventRule.mapProp⟩,
    ⟨getTenantConfigStatsResponse, _, fun _ => GetTenantConfigStatsResponse.drops⟩,
    ⟨getTenantConfigStatsResponse, _, fun _ => GetTenantConfigStatsResponse.sigFails⟩,
    ⟨ingestRequest, _, fun _ => IngestRequest.body⟩,
    ⟨ingestResponse, _, fun _ => IngestResponse.drops⟩,
    ⟨updateTenantConfigRequest, _, fun _ => UpdateTenantConfigRequest.name⟩,
    ⟨updateTenantConfigRequest, _, fun _ => UpdateTenantConfigRequest.email⟩,
    ⟨updateTenantConfigRequest, _, fun _ => UpdateTenantConfigRequest.strictVersions⟩,
    ⟨updateTenantConfigRequest, _, fun _ => UpdateTenantConfigRequest.authMode⟩,
    ⟨updateTenantConfigRequest, _, fun _ => UpdateTenantConfigRequest.authGraceUntil⟩,
    ⟨updateTenantConfigRequest, _, fun _ => UpdateTenantConfigRequest.ratePerMinute⟩,
    ⟨updateTenantConfigRequest, _, fun _ => UpdateTenantConfigRequest.ratePerDay⟩,
    ⟨updateTenantConfigRequest, _, fun _ => UpdateTenantConfigRequest.rawRetentionDays⟩,
    ⟨updateTenantConfigRequest, _, fun _ => UpdateTenantConfigRequest.dailyEventBudget⟩,
    ⟨updateTenantConfigRequest, _, fun _ => UpdateTenantConfigRequest.disabled⟩ ]

theorem valueFields_kept : ∀ v ∈ valueFields, v.Kept := by
  simp only [valueFields, List.forall_mem_cons]
  refine ⟨?_, ?_, ?_, ?_, ?_, ?_, ?_, ?_, ?_, ?_, ?_, ?_, ?_, ?_, ?_, ?_, by simp⟩
  any_goals exact ⟨fun _ => rfl, fun _ => rfl⟩
  -- the maps are copied entry by entry
  all_goals exact ⟨fun _ => congrArg some (copyMap_eq _), fun _ => congrArg some (copyMap_eq _)⟩

end Telemetry
end Testkit
