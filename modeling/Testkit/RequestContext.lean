import Mathlib.Data.String.Defs

/-! # The request context and the verified actor

The edge session middleware plants the verified actor on the request context; the
door plants the trusted tenant key beside it.  Both live in packages outside this
repository (`grpcx`, `tenantctx`, gRPC's `metadata`), so a context is a parameter:
`RequestContext` names the accessors the repository calls, with what their
documentation promises as laws.  `PlainContext` is the record of the four stores
and satisfies them.
-/
namespace Testkit

/-- `userv1.UserType` of an actor's `user_type` field; `other` are the numbers the
enumeration does not name. -/
inductive UserType
  | unspecified
  | endUser
  | platform
  | tenantAdmin
  | other (n : Int32)
  deriving DecidableEq, Repr

/-- `commonv1.RequestActor`: the fields the door and the clamps read. -/
structure RequestActor where
  userId : Int64
  userType : UserType
  deriving DecidableEq, Repr

/-- `tenantctx.HeaderTenantKey`. -/
def headerTenantKey : String := "x-tenant-key"

/-- gRPC metadata: what `md.Get` reads and what `metadata.Pairs` and `md.Set`
write.  Keys are compared in lower case. -/
class MetadataMap (MD : Type) where
  get : MD → String → List String
  pairs : String → String → MD
  set : MD → String → String → MD
  get_pairs : ∀ k v, get (pairs k v) k = [v]
  get_pairs_of_ne : ∀ k v k', k'.toLower ≠ k.toLower → get (pairs k v) k' = []
  get_set : ∀ md k v, get (set md k v) k = [v]
  get_set_of_ne : ∀ md k v k', k'.toLower ≠ k.toLower → get (set md k v) k' = get md k'

/-- A request context: the verified actor (`grpcx.ActorFromCtx`), the tenant key
(`tenantctx`), and incoming and outgoing metadata.  Every writer changes its own
store and no other. -/
class RequestContext (Ctx : Type) (MD : outParam Type) [MetadataMap MD] where
  actorFromCtx : Ctx → Option RequestActor
  tenantKeyFromCtx : Ctx → Option String
  fromIncomingContext : Ctx → Option MD
  fromOutgoingContext : Ctx → Option MD
  withTenantKey : Ctx → String → Ctx
  newIncomingContext : Ctx → MD → Ctx
  appendToOutgoingContext : Ctx → String → String → Ctx
  tenantKey_withTenantKey : ∀ c k, tenantKeyFromCtx (withTenantKey c k) = some k
  actor_withTenantKey : ∀ c k, actorFromCtx (withTenantKey c k) = actorFromCtx c
  incoming_withTenantKey : ∀ c k, fromIncomingContext (withTenantKey c k) = fromIncomingContext c
  outgoing_withTenantKey : ∀ c k, fromOutgoingContext (withTenantKey c k) = fromOutgoingContext c
  incoming_newIncomingContext : ∀ c md, fromIncomingContext (newIncomingContext c md) = some md
  actor_newIncomingContext : ∀ c md, actorFromCtx (newIncomingContext c md) = actorFromCtx c
  tenantKey_newIncomingContext : ∀ c md,
    tenantKeyFromCtx (newIncomingContext c md) = tenantKeyFromCtx c
  outgoing_newIncomingContext : ∀ c md,
    fromOutgoingContext (newIncomingContext c md) = fromOutgoingContext c
  actor_appendToOutgoingContext : ∀ c k v,
    actorFromCtx (appendToOutgoingContext c k v) = actorFromCtx c
  tenantKey_appendToOutgoingContext : ∀ c k v,
    tenantKeyFromCtx (appendToOutgoingContext c k v) = tenantKeyFromCtx c
  incoming_appendToOutgoingContext : ∀ c k v,
    fromIncomingContext (appendToOutgoingContext c k v) = fromIncomingContext c
  outgoing_appendToOutgoingContext : ∀ c k v, ∃ md,
    fromOutgoingContext (appendToOutgoingContext c k v) = some md ∧
    MetadataMap.get md k =
      (fromOutgoingContext c).elim [] (fun old => MetadataMap.get old k) ++ [v] ∧
    ∀ k', k'.toLower ≠ k.toLower → MetadataMap.get md k' =
      (fromOutgoingContext c).elim [] fun old => MetadataMap.get old k'

export RequestContext (actorFromCtx tenantKeyFromCtx withTenantKey fromIncomingContext
  fromOutgoingContext newIncomingContext appendToOutgoingContext)

attribute [simp] RequestContext.tenantKey_withTenantKey RequestContext.actor_withTenantKey
  RequestContext.actor_newIncomingContext RequestContext.tenantKey_newIncomingContext
  RequestContext.actor_appendToOutgoingContext RequestContext.tenantKey_appendToOutgoingContext

/-! ## A context that is a record -/

/-- Metadata as the map from lower-case keys to values. -/
def PlainMetadata : Type := String → List String

instance : MetadataMap PlainMetadata where
  get md k := md k.toLower
  pairs k v k' := if k' = k.toLower then [v] else []
  set md k v k' := if k' = k.toLower then [v] else md k'
  get_pairs _ _ := if_pos rfl
  get_pairs_of_ne _ _ _ h := if_neg h
  get_set _ _ _ := if_pos rfl
  get_set_of_ne _ _ _ _ h := if_neg h

/-- The four stores as fields. -/
structure PlainContext where
  actor : Option RequestActor := none
  tenantKey : Option String := none
  incoming : Option PlainMetadata := none
  outgoing : Option PlainMetadata := none

/-- Appending one pair to metadata. -/
def PlainMetadata.append (md : Option PlainMetadata) (k v : String) : PlainMetadata :=
  fun k' => md.elim [] (fun old => old k') ++ (if k' = k.toLower then [v] else [])

instance : RequestContext PlainContext PlainMetadata where
  actorFromCtx := PlainContext.actor
  tenantKeyFromCtx := PlainContext.tenantKey
  fromIncomingContext := PlainContext.incoming
  fromOutgoingContext := PlainContext.outgoing
  withTenantKey c k := { c with tenantKey := some k }
  newIncomingContext c md := { c with incoming := some md }
  appendToOutgoingContext c k v := { c with outgoing := some (PlainMetadata.append c.outgoing k v) }
  tenantKey_withTenantKey _ _ := rfl
  actor_withTenantKey _ _ := rfl
  incoming_withTenantKey _ _ := rfl
  outgoing_withTenantKey _ _ := rfl
  incoming_newIncomingContext _ _ := rfl
  actor_newIncomingContext _ _ := rfl
  tenantKey_newIncomingContext _ _ := rfl
  outgoing_newIncomingContext _ _ := rfl
  actor_appendToOutgoingContext _ _ _ := rfl
  tenantKey_appendToOutgoingContext _ _ _ := rfl
  incoming_appendToOutgoingContext _ _ _ := rfl
  outgoing_appendToOutgoingContext c k v := by
    refine ⟨_, rfl, ?_, fun k' hne => ?_⟩
    · cases hc : c.outgoing <;> simp [MetadataMap.get, PlainMetadata.append]
    · cases hc : c.outgoing <;> simp [MetadataMap.get, PlainMetadata.append, hne]

end Testkit
