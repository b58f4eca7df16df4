import Testkit.TelemetryMirror

/-! # The mirrored messages of the license domain

`internal/service/license` mirrors the messages of license-service one to one and
converts them field by field in both directions.  With the telemetry domain's these are
all the mirrored messages; `mirrored_messages` is the law they keep.
-/
namespace Testkit
open MirroredMessages

namespace License

/-! ## Messages -/

structure ActivateRequest (side : Side) where
  key : String
  licenseKey : String
  fingerprintId : String
  deviceToken : String
  evictDeviceToken : Option String

structure DeviceSlotInfo (side : Side) where
  deviceToken : String
  fingerprintId : String
  firstSeenAt : Option Timestamp
  lastSeenAt : Option Timestamp
  name : Option String

structure SlotSummary (side : Side) where
  used : Int32
  max : Int32
  devices : List (Option (DeviceSlotInfo side))

structure ActivateResponse (side : Side) where
  payload : String
  signature : String
  slots : Option (SlotSummary side)

structure EntitlementInput (side : Side) where
  module : Int32
  kind : Int32
  durationDays : Int32
  expiresAt : Option Timestamp

structure CreateKeyRequest (side : Side) where
  label : String
  slots : Int32
  grants : List (Option (EntitlementInput side))

structure EntitlementInfo (side : Side) where
  module : Int32
  kind : Int32
  expiresAt : Option Timestamp
  grantedAt : Option Timestamp

structure KeyInfo (side : Side) where
  licenseId : String
  keyPrefix : String
  label : String
  maxSlots : Int32
  usedSlots : Int32
  status : Int32
  createdAt : Option Timestamp
  revokedAt : Option Timestamp
  entitlements : List (Option (EntitlementInfo side))
  devices : List (Option (DeviceSlotInfo side))

structure CreateKeyResponse (side : Side) where
  key : Option (KeyInfo side)
  plaintextKey : String

structure DeactivateRequest (side : Side) where
  key : String
  licenseKey : String
  deviceToken : String

structure DeactivateResponse (side : Side) where
  released : Bool

structure DeleteKeyRequest (side : Side) where
  keyId : String
  confirm : Option Bool

structure DeleteKeyResponse (side : Side) where

structure GrantModuleRequest (side : Side) where
  keyId : String
  module : Int32
  kind : Int32
  durationDays : Int32
  expiresAt : Option Timestamp

structure GrantModuleResponse (side : Side) where
  entitlement : Option (EntitlementInfo side)

structure HealthChecks (side : Side) where
  db : Bool
  signing : Bool

structure HealthRequest (side : Side) where

structure HealthResponse (side : Side) where
  status : String
  checks : Option (HealthChecks side)

structure KickDeviceRequest (side : Side) where
  keyId : String
  deviceToken : String
  reason : Option String

structure KickDeviceResponse (side : Side) where
  kicked : Bool

structure ListKeyDevicesRequest (side : Side) where
  keyId : String

structure ListKeyDevicesResponse (side : Side) where
  devices : List (Option (DeviceSlotInfo side))

structure ListKeysRequest (side : Side) where
  status : Int32
  limit : Int32

structure ListKeysResponse (side : Side) where
  keys : List (Option (KeyInfo side))

structure ResetTrialRequest (side : Side) where
  fingerprintId : String
  module : Int32
  reason : String

structure ResetTrialResponse (side : Side) where
  reset : Bool

structure RetryAfterInfo (side : Side) where
  seconds : Int32

structure RevokeKeyRequest (side : Side) where
  keyId : String
  reason : Option String

structure RevokeKeyResponse (side : Side) where
  key : Option (KeyInfo side)

structure RevokeModuleRequest (side : Side) where
  keyId : String
  module : Int32
  reason : Option String

structure RevokeModuleResponse (side : Side) where

structure ShowKeyRequest (side : Side) where
  keyId : String

structure ShowKeyResponse (side : Side) where
  key : Option (KeyInfo side)

structure ShowPubKeyRequest (side : Side) where

structure SigningKeyInfo (side : Side) where
  keyId : String
  publicKeyB64 : String

structure ShowPubKeyResponse (side : Side) where
  activeKeyId : String
  keys : List (Option (SigningKeyInfo side))

structure ShowTrialRequest (side : Side) where
  fingerprintId : String
  module : Int32

structure TrialInfo (side : Side) where
  fingerprintId : String
  module : Int32
  startedAt : Option Timestamp
  expiresAt : Option Timestamp
  firstDeviceToken : String

structure ShowTrialResponse (side : Side) where
  trials : List (Option (TrialInfo side))

structure SlotLimitInfo (side : Side) where
  maxSlots : Int32
  devices : List (Option (DeviceSlotInfo side))

structure TrialStartRequest (side : Side) where
  module : String
  fingerprintId : String
  deviceToken : String
  licenseKey : String

structure TrialStartResponse (side : Side) where
  payload : String
  signature : String
  alreadyStarted : Bool

structure UnrevokeKeyRequest (side : Side) where
  keyId : String

structure UnrevokeKeyResponse (side : Side) where
  key : Option (KeyInfo side)

structure UpdateKeyRequest (side : Side) where
  keyId : String
  label : Option String
  slots : Option Int32

structure UpdateKeyResponse (side : Side) where
  key : Option (KeyInfo side)

/-! ## Converters -/

def toDnActivateRequest (src : Option (ActivateRequest .testkit)) :
    Option (ActivateRequest .backend) :=
  src.map fun src =>
    { key := src.key, licenseKey := src.licenseKey, fingerprintId := src.fingerprintId
      deviceToken := src.deviceToken, evictDeviceToken := src.evictDeviceToken }

def toTestkitActivateRequest (src : Option (ActivateRequest .backend)) :
    Option (ActivateRequest .testkit) :=
  src.map fun src =>
    { key := src.key, licenseKey := src.licenseKey, fingerprintId := src.fingerprintId
      deviceToken := src.deviceToken, evictDeviceToken := src.evictDeviceToken }

def toDnDeviceSlotInfo (src : Option (DeviceSlotInfo .testkit)) :
    Option (DeviceSlotInfo .backend) :=
  src.map fun src =>
    { deviceToken := src.deviceToken, fingerprintId := src.fingerprintId
      firstSeenAt := src.firstSeenAt, lastSeenAt := src.lastSeenAt, name := src.name }

def toTestkitDeviceSlotInfo (src : Option (DeviceSlotInfo .backend)) :
    Option (DeviceSlotInfo .testkit) :=
  src.map fun src =>
    { deviceToken := src.deviceToken, fingerprintId := src.fingerprintId
      firstSeenAt := src.firstSeenAt, lastSeenAt := src.lastSeenAt, name := src.name }

def toDnSlotSummary (src : Option (SlotSummary .testkit)) : Option (SlotSummary .backend) :=
  src.map fun src =>
    { used := src.used, max := src.max, devices := src.devices.map toDnDeviceSlotInfo }

def toTestkitSlotSummary (src : Option (SlotSummary .backend)) : Option (SlotSummary .testkit) :=
  src.map fun src =>
    { used := src.used, max := src.max, devices := src.devices.map toTestkitDeviceSlotInfo }

def toDnActivateResponse (src : Option (ActivateResponse .testkit)) :
    Option (ActivateResponse .backend) :=
  src.map fun src =>
    { payload := src.payload, signature := src.signature, slots := toDnSlotSummary src.slots }

def toTestkitActivateResponse (src : Option (ActivateResponse .backend)) :
    Option (ActivateResponse .testkit) :=
  src.map fun src =>
    { payload := src.payload, signature := src.signature, slots := toTestkitSlotSummary src.slots }

def toDnEntitlementInput (src : Option (EntitlementInput .testkit)) :
    Option (EntitlementInput .backend) :=
  src.map fun src =>
    { module := src.module, kind := src.kind, durationDays := src.durationDays
      expiresAt := src.expiresAt }

def toTestkitEntitlementInput (src : Option (EntitlementInput .backend)) :
    Option (EntitlementInput .testkit) :=
  src.map fun src =>
    { module := src.module, kind := src.kind, durationDays := src.durationDays
      expiresAt := src.expiresAt }

def toDnCreateKeyRequest (src : Option (CreateKeyRequest .testkit)) :
    Option (CreateKeyRequest .backend) :=
  src.map fun src =>
    { label := src.label, slots := src.slots, grants := src.grants.map toDnEntitlementInput }

def toTestkitCreateKeyRequest (src : Option (CreateKeyRequest .backend)) :
    Option (CreateKeyRequest .testkit) :=
  src.map fun src =>
    { label := src.label, slots := src.slots, grants := src.grants.map toTestkitEntitlementInput }

def toDnEntitlementInfo (src : Option (EntitlementInfo .testkit)) :
    Option (EntitlementInfo .backend) :=
  src.map fun src =>
    { module := src.module, kind := src.kind, expiresAt := src.expiresAt
      grantedAt := src.grantedAt }

def toTestkitEntitlementInfo (src : Option (EntitlementInfo .backend)) :
    Option (EntitlementInfo .testkit) :=
  src.map fun src =>
    { module := src.module, kind := src.kind, expiresAt := src.expiresAt
      grantedAt := src.grantedAt }

def toDnKeyInfo (src : Option (KeyInfo .testkit)) : Option (KeyInfo .backend) :=
  src.map fun src =>
    { licenseId := src.licenseId, keyPrefix := src.keyPrefix, label := src.label
      maxSlots := src.maxSlots, usedSlots := src.usedSlots, status := src.status
      createdAt := src.createdAt, revokedAt := src.revokedAt
      entitlements := src.entitlements.map toDnEntitlementInfo
      devices := src.devices.map toDnDeviceSlotInfo }

def toTestkitKeyInfo (src : Option (KeyInfo .backend)) : Option (KeyInfo .testkit) :=
  src.map fun src =>
    { licenseId := src.licenseId, keyPrefix := src.keyPrefix, label := src.label
      maxSlots := src.maxSlots, usedSlots := src.usedSlots, status := src.status
      createdAt := src.createdAt, revokedAt := src.revokedAt
      entitlements := src.entitlements.map toTestkitEntitlementInfo
      devices := src.devices.map toTestkitDeviceSlotInfo }

def toDnCreateKeyResponse (src : Option (CreateKeyResponse .testkit)) :
    Option (CreateKeyResponse .backend) :=
  src.map fun src => { key := toDnKeyInfo src.key, plaintextKey := src.plaintextKey }

def toTestkitCreateKeyResponse (src : Option (CreateKeyResponse .backend)) :
    Option (CreateKeyResponse .testkit) :=
  src.map fun src => { key := toTestkitKeyInfo src.key, plaintextKey := src.plaintextKey }

def toDnDeactivateRequest (src : Option (DeactivateRequest .testkit)) :
    Option (DeactivateRequest .backend) :=
  src.map fun src =>
    { key := src.key, licenseKey := src.licenseKey, deviceToken := src.deviceToken }

def toTestkitDeactivateRequest (src : Option (DeactivateRequest .backend)) :
    Option (DeactivateRequest .testkit) :=
  src.map fun src =>
    { key := src.key, licenseKey := src.licenseKey, deviceToken := src.deviceToken }

def toDnDeactivateResponse (src : Option (DeactivateResponse .testkit)) :
    Option (DeactivateResponse .backend) :=
  src.map fun src => { released := src.released }

def toTestkitDeactivateResponse (src : Option (DeactivateResponse .backend)) :
    Option (DeactivateResponse .testkit) :=
  src.map fun src => { released := src.released }

def toDnDeleteKeyRequest (src : Option (DeleteKeyRequest .testkit)) :
    Option (DeleteKeyRequest .backend) :=
  src.map fun src => { keyId := src.keyId, confirm := src.confirm }

def toTestkitDeleteKeyRequest (src : Option (DeleteKeyRequest .backend)) :
    Option (DeleteKeyRequest .testkit) :=
  src.map fun src => { keyId := src.keyId, confirm := src.confirm }

def toDnDeleteKeyResponse (src : Option (DeleteKeyResponse .testkit)) :
    Option (DeleteKeyResponse .backend) :=
  src.map fun _ => {}

def toTestkitDeleteKeyResponse (src : Option (DeleteKeyResponse .backend)) :
    Option (DeleteKeyResponse .testkit) :=
  src.map fun _ => {}

def toDnGrantModuleRequest (src : Option (GrantModuleRequest .testkit)) :
    Option (GrantModuleRequest .backend) :=
  src.map fun src =>
    { keyId := src.keyId, module := src.module, kind := src.kind
      durationDays := src.durationDays, expiresAt := src.expiresAt }

def toTestkitGrantModuleRequest (src : Option (GrantModuleRequest .backend)) :
    Option (GrantModuleRequest .testkit) :=
  src.map fun src =>
    { keyId := src.keyId, module := src.module, kind := src.kind
      durationDays := src.durationDays, expiresAt := src.expiresAt }

def toDnGrantModuleResponse (src : Option (GrantModuleResponse .testkit)) :
    Option (GrantModuleResponse .backend) :=
  src.map fun src => { entitlement := toDnEntitlementInfo src.entitlement }

def toTestkitGrantModuleResponse (src : Option (GrantModuleResponse .backend)) :
    Option (GrantModuleResponse .testkit) :=
  src.map fun src => { entitlement := toTestkitEntitlementInfo src.entitlement }

def toDnHealthChecks (src : Option (HealthChecks .testkit)) : Option (HealthChecks .backend) :=
  src.map fun src => { db := src.db, signing := src.signing }

def toTestkitHealthChecks (src : Option (HealthChecks .backend)) : Option (HealthChecks .testkit) :=
  src.map fun src => { db := src.db, signing := src.signing }

def toDnHealthRequest (src : Option (HealthRequest .testkit)) : Option (HealthRequest .backend) :=
  src.map fun _ => {}

def toTestkitHealthRequest (src : Option (HealthRequest .backend)) :
    Option (HealthRequest .testkit) :=
  src.map fun _ => {}

def toDnHealthResponse (src : Option (HealthResponse .testkit)) :
    Option (HealthResponse .backend) :=
  src.map fun src => { status := src.status, checks := toDnHealthChecks src.checks }

def toTestkitHealthResponse (src : Option (HealthResponse .backend)) :
    Option (HealthResponse .testkit) :=
  src.map fun src => { status := src.status, checks := toTestkitHealthChecks src.checks }

def toDnKickDeviceRequest (src : Option (KickDeviceRequest .testkit)) :
    Option (KickDeviceRequest .backend) :=
  src.map fun src => { keyId := src.keyId, deviceToken := src.deviceToken, reason := src.reason }

def toTestkitKickDeviceRequest (src : Option (KickDeviceRequest .backend)) :
    Option (KickDeviceRequest .testkit) :=
  src.map fun src => { keyId := src.keyId, deviceToken := src.deviceToken, reason := src.reason }

def toDnKickDeviceResponse (src : Option (KickDeviceResponse .testkit)) :
    Option (KickDeviceResponse .backend) :=
  src.map fun src => { kicked := src.kicked }

def toTestkitKickDeviceResponse (src : Option (KickDeviceResponse .backend)) :
    Option (KickDeviceResponse .testkit) :=
  src.map fun src => { kicked := src.kicked }

def toDnListKeyDevicesRequest (src : Option (ListKeyDevicesRequest .testkit)) :
    Option (ListKeyDevicesRequest .backend) :=
  src.map fun src => { keyId := src.keyId }

def toTestkitListKeyDevicesRequest (src : Option (ListKeyDevicesRequest .backend)) :
    Option (ListKeyDevicesRequest .testkit) :=
  src.map fun src => { keyId := src.keyId }

def toDnListKeyDevicesResponse (src : Option (ListKeyDevicesResponse .testkit)) :
    Option (ListKeyDevicesResponse .backend) :=
  src.map fun src => { devices := src.devices.map toDnDeviceSlotInfo }

def toTestkitListKeyDevicesResponse (src : Option (ListKeyDevicesResponse .backend)) :
    Option (ListKeyDevicesResponse .testkit) :=
  src.map fun src => { devices := src.devices.map toTestkitDeviceSlotInfo }

def toDnListKeysRequest (src : Option (ListKeysRequest .testkit)) :
    Option (ListKeysRequest .backend) :=
  src.map fun src => { status := src.status, limit := src.limit }

def toTestkitListKeysRequest (src : Option (ListKeysRequest .backend)) :
    Option (ListKeysRequest .testkit) :=
  src.map fun src => { status := src.status, limit := src.limit }

def toDnListKeysResponse (src : Option (ListKeysResponse .testkit)) :
    Option (ListKeysResponse .backend) :=
  src.map fun src => { keys := src.keys.map toDnKeyInfo }

def toTestkitListKeysResponse (src : Option (ListKeysResponse .backend)) :
    Option (ListKeysResponse .testkit) :=
  src.map fun src => { keys := src.keys.map toTestkitKeyInfo }

def toDnResetTrialRequest (src : Option (ResetTrialRequest .testkit)) :
    Option (ResetTrialRequest .backend) :=
  src.map fun src =>
    { fingerprintId := src.fingerprintId, module := src.module, reason := src.reason }

def toTestkitResetTrialRequest (src : Option (ResetTrialRequest .backend)) :
    Option (ResetTrialRequest .testkit) :=
  src.map fun src =>
    { fingerprintId := src.fingerprintId, module := src.module, reason := src.reason }

def toDnResetTrialResponse (src : Option (ResetTrialResponse .testkit)) :
    Option (ResetTrialResponse .backend) :=
  src.map fun src => { reset := src.reset }

def toTestkitResetTrialResponse (src : Option (ResetTrialResponse .backend)) :
    Option (ResetTrialResponse .testkit) :=
  src.map fun src => { reset := src.reset }

def toDnRetryAfterInfo (src : Option (RetryAfterInfo .testkit)) :
    Option (RetryAfterInfo .backend) :=
  src.map fun src => { seconds := src.seconds }

def toTestkitRetryAfterInfo (src : Option (RetryAfterInfo .backend)) :
    Option (RetryAfterInfo .testkit) :=
  src.map fun src => { seconds := src.seconds }

def toDnRevokeKeyRequest (src : Option (RevokeKeyRequest .testkit)) :
    Option (RevokeKeyRequest .backend) :=
  src.map fun src => { keyId := src.keyId, reason := src.reason }

def toTestkitRevokeKeyRequest (src : Option (RevokeKeyRequest .backend)) :
    Option (RevokeKeyRequest .testkit) :=
  src.map fun src => { keyId := src.keyId, reason := src.reason }

def toDnRevokeKeyResponse (src : Option (RevokeKeyResponse .testkit)) :
    Option (RevokeKeyResponse .backend) :=
  src.map fun src => { key := toDnKeyInfo src.key }

def toTestkitRevokeKeyResponse (src : Option (RevokeKeyResponse .backend)) :
    Option (RevokeKeyResponse .testkit) :=
  src.map fun src => { key := toTestkitKeyInfo src.key }

def toDnRevokeModuleRequest (src : Option (RevokeModuleRequest .testkit)) :
    Option (RevokeModuleRequest .backend) :=
  src.map fun src => { keyId := src.keyId, module := src.module, reason := src.reason }

def toTestkitRevokeModuleRequest (src : Option (RevokeModuleRequest .backend)) :
    Option (RevokeModuleRequest .testkit) :=
  src.map fun src => { keyId := src.keyId, module := src.module, reason := src.reason }

def toDnRevokeModuleResponse (src : Option (RevokeModuleResponse .testkit)) :
    Option (RevokeModuleResponse .backend) :=
  src.map fun _ => {}

def toTestkitRevokeModuleResponse (src : Option (RevokeModuleResponse .backend)) :
    Option (RevokeModuleResponse .testkit) :=
  src.map fun _ => {}

def toDnShowKeyRequest (src : Option (ShowKeyRequest .testkit)) :
    Option (ShowKeyRequest .backend) :=
  src.map fun src => { keyId := src.keyId }

def toTestkitShowKeyRequest (src : Option (ShowKeyRequest .backend)) :
    Option (ShowKeyRequest .testkit) :=
  src.map fun src => { keyId := src.keyId }

def toDnShowKeyResponse (src : Option (ShowKeyResponse .testkit)) :
    Option (ShowKeyResponse .backend) :=
  src.map fun src => { key := toDnKeyInfo src.key }

def toTestkitShowKeyResponse (src : Option (ShowKeyResponse .backend)) :
    Option (ShowKeyResponse .testkit) :=
  src.map fun src => { key := toTestkitKeyInfo src.key }

def toDnShowPubKeyRequest (src : Option (ShowPubKeyRequest .testkit)) :
    Option (ShowPubKeyRequest .backend) :=
  src.map fun _ => {}

def toTestkitShowPubKeyRequest (src : Option (ShowPubKeyRequest .backend)) :
    Option (ShowPubKeyRequest .testkit) :=
  src.map fun _ => {}

def toDnSigningKeyInfo (src : Option (SigningKeyInfo .testkit)) :
    Option (SigningKeyInfo .backend) :=
  src.map fun src => { keyId := src.keyId, publicKeyB64 := src.publicKeyB64 }

def toTestkitSigningKeyInfo (src : Option (SigningKeyInfo .backend)) :
    Option (SigningKeyInfo .testkit) :=
  src.map fun src => { keyId := src.keyId, publicKeyB64 := src.publicKeyB64 }

def toDnShowPubKeyResponse (src : Option (ShowPubKeyResponse .testkit)) :
    Option (ShowPubKeyResponse .backend) :=
  src.map fun src => { activeKeyId := src.activeKeyId, keys := src.keys.map toDnSigningKeyInfo }

def toTestkitShowPubKeyResponse (src : Option (ShowPubKeyResponse .backend)) :
    Option (ShowPubKeyResponse .testkit) :=
  src.map fun src =>
    { activeKeyId := src.activeKeyId, keys := src.keys.map toTestkitSigningKeyInfo }

def toDnShowTrialRequest (src : Option (ShowTrialRequest .testkit)) :
    Option (ShowTrialRequest .backend) :=
  src.map fun src => { fingerprintId := src.fingerprintId, module := src.module }

def toTestkitShowTrialRequest (src : Option (ShowTrialRequest .backend)) :
    Option (ShowTrialRequest .testkit) :=
  src.map fun src => { fingerprintId := src.fingerprintId, module := src.module }

def toDnTrialInfo (src : Option (TrialInfo .testkit)) : Option (TrialInfo .backend) :=
  src.map fun src =>
    { fingerprintId := src.fingerprintId, module := src.module, startedAt := src.startedAt
      expiresAt := src.expiresAt, firstDeviceToken := src.firstDeviceToken }

def toTestkitTrialInfo (src : Option (TrialInfo .backend)) : Option (TrialInfo .testkit) :=
  src.map fun src =>
    { fingerprintId := src.fingerprintId, module := src.module, startedAt := src.startedAt
      expiresAt := src.expiresAt, firstDeviceToken := src.firstDeviceToken }

def toDnShowTrialResponse (src : Option (ShowTrialResponse .testkit)) :
    Option (ShowTrialResponse .backend) :=
  src.map fun src => { trials := src.trials.map toDnTrialInfo }

def toTestkitShowTrialResponse (src : Option (ShowTrialResponse .backend)) :
    Option (ShowTrialResponse .testkit) :=
  src.map fun src => { trials := src.trials.map toTestkitTrialInfo }

def toDnSlotLimitInfo (src : Option (SlotLimitInfo .testkit)) : Option (SlotLimitInfo .backend) :=
  src.map fun src => { maxSlots := src.maxSlots, devices := src.devices.map toDnDeviceSlotInfo }

def toTestkitSlotLimitInfo (src : Option (SlotLimitInfo .backend)) :
    Option (SlotLimitInfo .testkit) :=
  src.map fun src =>
    { maxSlots := src.maxSlots, devices := src.devices.map toTestkitDeviceSlotInfo }

def toDnTrialStartRequest (src : Option (TrialStartRequest .testkit)) :
    Option (TrialStartRequest .backend) :=
  src.map fun src =>
    { module := src.module, fingerprintId := src.fingerprintId, deviceToken := src.deviceToken
      licenseKey := src.licenseKey }

def toTestkitTrialStartRequest (src : Option (TrialStartRequest .backend)) :
    Option (TrialStartRequest .testkit) :=
  src.map fun src =>
    { module := src.module, fingerprintId := src.fingerprintId, deviceToken := src.deviceToken
      licenseKey := src.licenseKey }

def toDnTrialStartResponse (src : Option (TrialStartResponse .testkit)) :
    Option (TrialStartResponse .backend) :=
  src.map fun src =>
    { payload := src.payload, signature := src.signature, alreadyStarted := src.alreadyStarted }

def toTestkitTrialStartResponse (src : Option (TrialStartResponse .backend)) :
    Option (TrialStartResponse .testkit) :=
  src.map fun src =>
    { payload := src.payload, signature := src.signature, alreadyStarted := src.alreadyStarted }

def toDnUnrevokeKeyRequest (src : Option (UnrevokeKeyRequest .testkit)) :
    Option (UnrevokeKeyRequest .backend) :=
  src.map fun src => { keyId := src.keyId }

def toTestkitUnrevokeKeyRequest (src : Option (UnrevokeKeyRequest .backend)) :
    Option (UnrevokeKeyRequest .testkit) :=
  src.map fun src => { keyId := src.keyId }

def toDnUnrevokeKeyResponse (src : Option (UnrevokeKeyResponse .testkit)) :
    Option (UnrevokeKeyResponse .backend) :=
  src.map fun src => { key := toDnKeyInfo src.key }

def toTestkitUnrevokeKeyResponse (src : Option (UnrevokeKeyResponse .backend)) :
    Option (UnrevokeKeyResponse .testkit) :=
  src.map fun src => { key := toTestkitKeyInfo src.key }

def toDnUpdateKeyRequest (src : Option (UpdateKeyRequest .testkit)) :
    Option (UpdateKeyRequest .backend) :=
  src.map fun src => { keyId := src.keyId, label := src.label, slots := src.slots }

def toTestkitUpdateKeyRequest (src : Option (UpdateKeyRequest .backend)) :
    Option (UpdateKeyRequest .testkit) :=
  src.map fun src => { keyId := src.keyId, label := src.label, slots := src.slots }

def toDnUpdateKeyResponse (src : Option (UpdateKeyResponse .testkit)) :
    Option (UpdateKeyResponse .backend) :=
  src.map fun src => { key := toDnKeyInfo src.key }

def toTestkitUpdateKeyResponse (src : Option (UpdateKeyResponse .backend)) :
    Option (UpdateKeyResponse .testkit) :=
  src.map fun src => { key := toTestkitKeyInfo src.key }

/-! ## The pairs of converters -/

def activateRequest : Mirror := ⟨ActivateRequest, toDnActivateRequest, toTestkitActivateRequest⟩
def deviceSlotInfo : Mirror := ⟨DeviceSlotInfo, toDnDeviceSlotInfo, toTestkitDeviceSlotInfo⟩
def slotSummary : Mirror := ⟨SlotSummary, toDnSlotSummary, toTestkitSlotSummary⟩
def activateResponse : Mirror := ⟨ActivateResponse, toDnActivateResponse, toTestkitActivateResponse⟩
def entitlementInput : Mirror := ⟨EntitlementInput, toDnEntitlementInput, toTestkitEntitlementInput⟩
def createKeyRequest : Mirror := ⟨CreateKeyRequest, toDnCreateKeyRequest, toTestkitCreateKeyRequest⟩
def entitlementInfo : Mirror := ⟨EntitlementInfo, toDnEntitlementInfo, toTestkitEntitlementInfo⟩
def keyInfo : Mirror := ⟨KeyInfo, toDnKeyInfo, toTestkitKeyInfo⟩
def createKeyResponse : Mirror :=
  ⟨CreateKeyResponse, toDnCreateKeyResponse, toTestkitCreateKeyResponse⟩
def deactivateRequest : Mirror :=
  ⟨DeactivateRequest, toDnDeactivateRequest, toTestkitDeactivateRequest⟩
def deactivateResponse : Mirror :=
  ⟨DeactivateResponse, toDnDeactivateResponse, toTestkitDeactivateResponse⟩
def deleteKeyRequest : Mirror := ⟨DeleteKeyRequest, toDnDeleteKeyRequest, toTestkitDeleteKeyRequest⟩
def deleteKeyResponse : Mirror :=
  ⟨DeleteKeyResponse, toDnDeleteKeyResponse, toTestkitDeleteKeyResponse⟩
def grantModuleRequest : Mirror :=
  ⟨GrantModuleRequest, toDnGrantModuleRequest, toTestkitGrantModuleRequest⟩
def grantModuleResponse : Mirror :=
  ⟨GrantModuleResponse, toDnGrantModuleResponse, toTestkitGrantModuleResponse⟩
def healthChecks : Mirror := ⟨HealthChecks, toDnHealthChecks, toTestkitHealthChecks⟩
def healthRequest : Mirror := ⟨HealthRequest, toDnHealthRequest, toTestkitHealthRequest⟩
def healthResponse : Mirror := ⟨HealthResponse, toDnHealthResponse, toTestkitHealthResponse⟩
def kickDeviceRequest : Mirror :=
  ⟨KickDeviceRequest, toDnKickDeviceRequest, toTestkitKickDeviceRequest⟩
def kickDeviceResponse : Mirror :=
  ⟨KickDeviceResponse, toDnKickDeviceResponse, toTestkitKickDeviceResponse⟩
def listKeyDevicesRequest : Mirror :=
  ⟨ListKeyDevicesRequest, toDnListKeyDevicesRequest, toTestkitListKeyDevicesRequest⟩
def listKeyDevicesResponse : Mirror :=
  ⟨ListKeyDevicesResponse, toDnListKeyDevicesResponse, toTestkitListKeyDevicesResponse⟩
def listKeysRequest : Mirror := ⟨ListKeysRequest, toDnListKeysRequest, toTestkitListKeysRequest⟩
def listKeysResponse : Mirror := ⟨ListKeysResponse, toDnListKeysResponse, toTestkitListKeysResponse⟩
def resetTrialRequest : Mirror :=
  ⟨ResetTrialRequest, toDnResetTrialRequest, toTestkitResetTrialRequest⟩
def resetTrialResponse : Mirror :=
  ⟨ResetTrialResponse, toDnResetTrialResponse, toTestkitResetTrialResponse⟩
def retryAfterInfo : Mirror := ⟨RetryAfterInfo, toDnRetryAfterInfo, toTestkitRetryAfterInfo⟩
def revokeKeyRequest : Mirror := ⟨RevokeKeyRequest, toDnRevokeKeyRequest, toTestkitRevokeKeyRequest⟩
def revokeKeyResponse : Mirror :=
  ⟨RevokeKeyResponse, toDnRevokeKeyResponse, toTestkitRevokeKeyResponse⟩
def revokeModuleRequest : Mirror :=
  ⟨RevokeModuleRequest, toDnRevokeModuleRequest, toTestkitRevokeModuleRequest⟩
def revokeModuleResponse : Mirror :=
  ⟨RevokeModuleResponse, toDnRevokeModuleResponse, toTestkitRevokeModuleResponse⟩
def showKeyRequest : Mirror := ⟨ShowKeyRequest, toDnShowKeyRequest, toTestkitShowKeyRequest⟩
def showKeyResponse : Mirror := ⟨ShowKeyResponse, toDnShowKeyResponse, toTestkitShowKeyResponse⟩
def showPubKeyRequest : Mirror :=
  ⟨ShowPubKeyRequest, toDnShowPubKeyRequest, toTestkitShowPubKeyRequest⟩
def signingKeyInfo : Mirror := ⟨SigningKeyInfo, toDnSigningKeyInfo, toTestkitSigningKeyInfo⟩
def showPubKeyResponse : Mirror :=
  ⟨ShowPubKeyResponse, toDnShowPubKeyResponse, toTestkitShowPubKeyResponse⟩
def showTrialRequest : Mirror := ⟨ShowTrialRequest, toDnShowTrialRequest, toTestkitShowTrialRequest⟩
def trialInfo : Mirror := ⟨TrialInfo, toDnTrialInfo, toTestkitTrialInfo⟩
def showTrialResponse : Mirror :=
  ⟨ShowTrialResponse, toDnShowTrialResponse, toTestkitShowTrialResponse⟩
def slotLimitInfo : Mirror := ⟨SlotLimitInfo, toDnSlotLimitInfo, toTestkitSlotLimitInfo⟩
def trialStartRequest : Mirror :=
  ⟨TrialStartRequest, toDnTrialStartRequest, toTestkitTrialStartRequest⟩
def trialStartResponse : Mirror :=
  ⟨TrialStartResponse, toDnTrialStartResponse, toTestkitTrialStartResponse⟩
def unrevokeKeyRequest : Mirror :=
  ⟨UnrevokeKeyRequest, toDnUnrevokeKeyRequest, toTestkitUnrevokeKeyRequest⟩
def unrevokeKeyResponse : Mirror :=
  ⟨UnrevokeKeyResponse, toDnUnrevokeKeyResponse, toTestkitUnrevokeKeyResponse⟩
def updateKeyRequest : Mirror := ⟨UpdateKeyRequest, toDnUpdateKeyRequest, toTestkitUpdateKeyRequest⟩
def updateKeyResponse : Mirror :=
  ⟨UpdateKeyResponse, toDnUpdateKeyResponse, toTestkitUpdateKeyResponse⟩

theorem deviceSlotInfo_lossless : Lossless toDnDeviceSlotInfo toTestkitDeviceSlotInfo :=
  .option (fun _ => rfl) (fun _ => rfl)

theorem slotSummary_lossless : Lossless toDnSlotSummary toTestkitSlotSummary := by
  apply Lossless.option
  · intro m
    simp only [deviceSlotInfo_lossless.listLeft]
  · intro m
    simp only [deviceSlotInfo_lossless.listRight]

theorem activateResponse_lossless : Lossless toDnActivateResponse toTestkitActivateResponse := by
  apply Lossless.option
  · intro m
    simp only [slotSummary_lossless.left _]
  · intro m
    simp only [slotSummary_lossless.right _]

theorem entitlementInput_lossless : Lossless toDnEntitlementInput toTestkitEntitlementInput :=
  .option (fun _ => rfl) (fun _ => rfl)

theorem createKeyRequest_lossless : Lossless toDnCreateKeyRequest toTestkitCreateKeyRequest := by
  apply Lossless.option
  · intro m
    simp only [entitlementInput_lossless.listLeft]
  · intro m
    simp only [entitlementInput_lossless.listRight]

theorem entitlementInfo_lossless : Lossless toDnEntitlementInfo toTestkitEntitlementInfo :=
  .option (fun _ => rfl) (fun _ => rfl)

theorem keyInfo_lossless : Lossless toDnKeyInfo toTestkitKeyInfo := by
  apply Lossless.option
  · intro m
    simp only [entitlementInfo_lossless.listLeft, deviceSlotInfo_lossless.listLeft]
  · intro m
    simp only [entitlementInfo_lossless.listRight, deviceSlotInfo_lossless.listRight]

theorem createKeyResponse_lossless : Lossless toDnCreateKeyResponse toTestkitCreateKeyResponse := by
  apply Lossless.option
  · intro m
    simp only [keyInfo_lossless.left _]
  · intro m
    simp only [keyInfo_lossless.right _]

theorem grantModuleResponse_lossless :
    Lossless toDnGrantModuleResponse toTestkitGrantModuleResponse := by
  apply Lossless.option
  · intro m
    simp only [entitlementInfo_lossless.left _]
  · intro m
    simp only [entitlementInfo_lossless.right _]

theorem healthChecks_lossless : Lossless toDnHealthChecks toTestkitHealthChecks :=
  .option (fun _ => rfl) (fun _ => rfl)

theorem healthResponse_lossless : Lossless toDnHealthResponse toTestkitHealthResponse := by
  apply Lossless.option
  · intro m
    simp only [healthChecks_lossless.left _]
  · intro m
    simp only [healthChecks_lossless.right _]

theorem listKeyDevicesResponse_lossless :
    Lossless toDnListKeyDevicesResponse toTestkitListKeyDevicesResponse := by
  apply Lossless.option
  · intro m
    simp only [deviceSlotInfo_lossless.listLeft]
  · intro m
    simp only [deviceSlotInfo_lossless.listRight]

theorem listKeysResponse_lossless : Lossless toDnListKeysResponse toTestkitListKeysResponse := by
  apply Lossless.option
  · intro m
    simp only [keyInfo_lossless.listLeft]
  · intro m
    simp only [keyInfo_lossless.listRight]

theorem revokeKeyResponse_lossless : Lossless toDnRevokeKeyResponse toTestkitRevokeKeyResponse := by
  apply Lossless.option
  · intro m
    simp only [keyInfo_lossless.left _]
  · intro m
    simp only [keyInfo_lossless.right _]

theorem showKeyResponse_lossless : Lossless toDnShowKeyResponse toTestkitShowKeyResponse := by
  apply Lossless.option
  · intro m
    simp only [keyInfo_lossless.left _]
  · intro m
    simp only [keyInfo_lossless.right _]

theorem signingKeyInfo_lossless : Lossless toDnSigningKeyInfo toTestkitSigningKeyInfo :=
  .option (fun _ => rfl) (fun _ => rfl)

theorem showPubKeyResponse_lossless :
    Lossless toDnShowPubKeyResponse toTestkitShowPubKeyResponse := by
  apply Lossless.option
  · intro m
    simp only [signingKeyInfo_lossless.listLeft]
  · intro m
    simp only [signingKeyInfo_lossless.listRight]

theorem trialInfo_lossless : Lossless toDnTrialInfo toTestkitTrialInfo :=
  .option (fun _ => rfl) (fun _ => rfl)

theorem showTrialResponse_lossless : Lossless toDnShowTrialResponse toTestkitShowTrialResponse := by
  apply Lossless.option
  · intro m
    simp only [trialInfo_lossless.listLeft]
  · intro m
    simp only [trialInfo_lossless.listRight]

theorem slotLimitInfo_lossless : Lossless toDnSlotLimitInfo toTestkitSlotLimitInfo := by
  apply Lossless.option
  · intro m
    simp only [deviceSlotInfo_lossless.listLeft]
  · intro m
    simp only [deviceSlotInfo_lossless.listRight]

theorem unrevokeKeyResponse_lossless :
    Lossless toDnUnrevokeKeyResponse toTestkitUnrevokeKeyResponse := by
  apply Lossless.option
  · intro m
    simp only [keyInfo_lossless.left _]
  · intro m
    simp only [keyInfo_lossless.right _]

theorem updateKeyResponse_lossless : Lossless toDnUpdateKeyResponse toTestkitUpdateKeyResponse := by
  apply Lossless.option
  · intro m
    simp only [keyInfo_lossless.left _]
  · intro m
    simp only [keyInfo_lossless.right _]

/-- The mirrored messages of the license domain. -/
def mirrors : List Mirror :=
  [activateRequest, deviceSlotInfo, slotSummary, activateResponse, entitlementInput,
    createKeyRequest, entitlementInfo, keyInfo, createKeyResponse, deactivateRequest,
    deactivateResponse, deleteKeyRequest, deleteKeyResponse, grantModuleRequest,
    grantModuleResponse, healthChecks, healthRequest, healthResponse, kickDeviceRequest,
    kickDeviceResponse, listKeyDevicesRequest, listKeyDevicesResponse, listKeysRequest,
    listKeysResponse, resetTrialRequest, resetTrialResponse, retryAfterInfo, revokeKeyRequest,
    revokeKeyResponse, revokeModuleRequest, revokeModuleResponse, showKeyRequest, showKeyResponse,
    showPubKeyRequest, signingKeyInfo, showPubKeyResponse, showTrialRequest, trialInfo,
    showTrialResponse, slotLimitInfo, trialStartRequest, trialStartResponse, unrevokeKeyRequest,
    unrevokeKeyResponse, updateKeyRequest, updateKeyResponse]

/-- **Every pair is lossless.** -/
theorem mirrors_lossless : ∀ p ∈ mirrors, Lossless p.toDn p.toTestkit := by
  simp only [mirrors, List.forall_mem_cons]
  refine ⟨?_, deviceSlotInfo_lossless, slotSummary_lossless, activateResponse_lossless,
    entitlementInput_lossless, createKeyRequest_lossless, entitlementInfo_lossless,
    keyInfo_lossless, createKeyResponse_lossless, ?_, ?_, ?_, ?_, ?_,
    grantModuleResponse_lossless, healthChecks_lossless, ?_, healthResponse_lossless, ?_, ?_, ?_,
    listKeyDevicesResponse_lossless, ?_, listKeysResponse_lossless, ?_, ?_, ?_, ?_,
    revokeKeyResponse_lossless, ?_, ?_, ?_, showKeyResponse_lossless, ?_, signingKeyInfo_lossless,
    showPubKeyResponse_lossless, ?_, trialInfo_lossless, showTrialResponse_lossless,
    slotLimitInfo_lossless, ?_, ?_, ?_, unrevokeKeyResponse_lossless, ?_,
    updateKeyResponse_lossless, by simp⟩
  -- the rest are flat records
  all_goals exact .option (fun _ => rfl) (fun _ => rfl)

/-- The repeated fields that hold messages. -/
def repeatedFields : List RepeatedField :=
  [ ⟨slotSummary, deviceSlotInfo, fun _ => SlotSummary.devices⟩,
    ⟨createKeyRequest, entitlementInput, fun _ => CreateKeyRequest.grants⟩,
    ⟨keyInfo, entitlementInfo, fun _ => KeyInfo.entitlements⟩,
    ⟨keyInfo, deviceSlotInfo, fun _ => KeyInfo.devices⟩,
    ⟨listKeyDevicesResponse, deviceSlotInfo, fun _ => ListKeyDevicesResponse.devices⟩,
    ⟨listKeysResponse, keyInfo, fun _ => ListKeysResponse.keys⟩,
    ⟨showPubKeyResponse, signingKeyInfo, fun _ => ShowPubKeyResponse.keys⟩,
    ⟨showTrialResponse, trialInfo, fun _ => ShowTrialResponse.trials⟩,
    ⟨slotLimitInfo, deviceSlotInfo, fun _ => SlotLimitInfo.devices⟩ ]

theorem repeatedFields_inOrder : ∀ r ∈ repeatedFields, r.InOrder := by
  simp only [repeatedFields, List.forall_mem_cons]
  refine ⟨?_, ?_, ?_, ?_, ?_, ?_, ?_, ?_, ?_, by simp⟩
  all_goals exact ⟨fun _ => rfl, fun _ => rfl⟩

/-- The optional scalars. -/
def valueFields : List ValueField :=
  [ ⟨activateRequest, _, fun _ => ActivateRequest.evictDeviceToken⟩,
    ⟨deviceSlotInfo, _, fun _ => DeviceSlotInfo.name⟩,
    ⟨deleteKeyRequest, _, fun _ => DeleteKeyRequest.confirm⟩,
    ⟨kickDeviceRequest, _, fun _ => KickDeviceRequest.reason⟩,
    ⟨revokeKeyRequest, _, fun _ => RevokeKeyRequest.reason⟩,
    ⟨revokeModuleRequest, _, fun _ => RevokeModuleRequest.reason⟩,
    ⟨updateKeyRequest, _, fun _ => UpdateKeyRequest.label⟩,
    ⟨updateKeyRequest, _, fun _ => UpdateKeyRequest.slots⟩ ]

theorem valueFields_kept : ∀ v ∈ valueFields, v.Kept := by
  simp only [valueFields, List.forall_mem_cons]
  refine ⟨?_, ?_, ?_, ?_, ?_, ?_, ?_, ?_, by simp⟩
  all_goals exact ⟨fun _ => rfl, fun _ => rfl⟩

end License

/-- **Mirrored converters lose and invent nothing.**  For every mirrored message type of
the two domains the converters undo each other and take nil to nil; a repeated field
keeps its items in place, and an optional one is absent exactly where it was. -/
theorem mirrored_messages :
    (∀ p ∈ Telemetry.mirrors ++ License.mirrors, Lossless p.toDn p.toTestkit) ∧
    (∀ r ∈ Telemetry.repeatedFields ++ License.repeatedFields, r.InOrder) ∧
    ∀ v ∈ Telemetry.valueFields ++ License.valueFields, v.Kept := by
  refine ⟨?_, ?_, ?_⟩
  · intro p hp
    rcases List.mem_append.mp hp with hp | hp
    · exact Telemetry.mirrors_lossless p hp
    · exact License.mirrors_lossless p hp
  · intro r hr
    rcases List.mem_append.mp hr with hr | hr
    · exact Telemetry.repeatedFields_inOrder r hr
    · exact License.repeatedFields_inOrder r hr
  · intro v hv
    rcases List.mem_append.mp hv with hv | hv
    · exact Telemetry.valueFields_kept v hv
    · exact License.valueFields_kept v hv

end Testkit
