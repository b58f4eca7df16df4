import Mathlib.Logic.Function.Basic
import Testkit.RequestContext

/-! # The resolver of the tenant gate

`internal/tenantgate`: the verified actor, plus an explicit tenant choice, is
exchanged for the trusted tenant key the request operates as.  `bindingSet` and
`registered` serve from the TTL cache and refetch from the portal on a miss;
`resolve` is the behaviour matrix over them.

A lookup is modelled with everything it does: its answer, the cache it leaves, and
the portal calls it makes.  Its two clock readings (at the cache check and at the
store) are arguments, and the portal is a parameter, so the statements hold for
every portal answer and every time a call may take.
-/
namespace Testkit

/-- Tenant keys as the resolver keeps them: the empty key is never among them. -/
structure TenantKeys where
  keys : List String
  nonempty : ∀ k ∈ keys, k ≠ ""

/-- The non-empty keys of the rows of a portal answer, in order. -/
def TenantKeys.ofRows (rows : List String) : TenantKeys :=
  ⟨rows.filter (· ≠ ""), fun _ hk => of_decide_eq_true (List.mem_filter.mp hk).2⟩

theorem TenantKeys.mem_ofRows {rows : List String} {k : String} :
    k ∈ (TenantKeys.ofRows rows).keys ↔ k ∈ rows ∧ k ≠ "" := by
  simp [TenantKeys.ofRows]

/-! ## The portal seam -/

/-- `portalv1.TenantMembership`. -/
structure TenantMembership where
  tenantKey : String
  deriving DecidableEq, Repr

/-- `portalv1.WhoAmIResponse`. -/
structure WhoAmIResponse where
  memberships : List TenantMembership
  deriving DecidableEq, Repr

/-- `portalv1.TenantInfo`. -/
structure TenantInfo where
  tenantKey : String
  deriving DecidableEq, Repr

/-- `portalv1.ListTenantsResponse`. -/
structure ListTenantsResponse where
  tenants : List TenantInfo
  deriving DecidableEq, Repr

/-- The portal calls the gate makes; the caller's context carries the actor. -/
structure PortalAdmin (Ctx E : Type) where
  whoAmI : Ctx → Except E WhoAmIResponse
  listTenants : Ctx → Except E ListTenantsResponse

/-- A call the resolver made to the portal. -/
inductive PortalCall (Ctx : Type)
  | whoAmI (ctx : Ctx)
  | listTenants (ctx : Ctx)

/-- The keys `bindingSet` keeps of an answer. -/
def WhoAmIResponse.keys (resp : WhoAmIResponse) : TenantKeys :=
  .ofRows (resp.memberships.map TenantMembership.tenantKey)

/-- The keys `registered` keeps of an answer. -/
def ListTenantsResponse.keys (resp : ListTenantsResponse) : TenantKeys :=
  .ofRows (resp.tenants.map TenantInfo.tenantKey)

/-! ## The resolver and its cache -/

/-- The sentinel errors; `portal` wraps the cause of a failed portal call. -/
inductive ResolveError (E : Type)
  | noActor
  | userTypeDenied
  | choiceRequired
  | choiceNotBound
  | choiceUnknownTenant
  | portal (cause : E)
  deriving DecidableEq, Repr

structure CachedBindings where
  keys : TenantKeys
  expiresAt : Int

/-- `keys` is `none` while the Go map is nil. -/
structure CachedRegistry where
  keys : Option TenantKeys
  expiresAt : Int

/-- The part of the resolver its mutex guards. -/
structure ResolverCache where
  bindings : Int64 → Option CachedBindings
  registry : CachedRegistry

/-- The part of the resolver that never changes; `ttl` is in nanoseconds. -/
structure Resolver (Ctx E : Type) where
  portal : PortalAdmin Ctx E
  ttl : Nat

/-- `time.Second`; durations count nanoseconds. -/
def second : Nat := 1000000000

/-- `DefaultTTL`: 30 seconds. -/
def defaultTTL : Nat := 30 * second

def newResolver {Ctx E : Type} (portal : PortalAdmin Ctx E) : Resolver Ctx E :=
  ⟨portal, defaultTTL⟩

/-- The cache of a new resolver. -/
def ResolverCache.empty : ResolverCache := ⟨fun _ => none, ⟨none, 0⟩⟩

/-- The two clock readings of a lookup: under the lock at the check, and under the
lock at the store. -/
structure Clock where
  check : Int
  store : Int

/-- A lookup's answer, the cache it leaves and the portal calls it made. -/
structure Resolved (Ctx E α : Type) where
  answer : Except (ResolveError E) α
  cache : ResolverCache
  portalCalls : List (PortalCall Ctx)

namespace ResolverCache

/-- The cache check of `bindingSet`. -/
def cachedBindings (c : ResolverCache) (now : Int) (userID : Int64) : Option TenantKeys :=
  match c.bindings userID with
  | some b => if now < b.expiresAt then some b.keys else none
  | none => none

/-- The cache check of `registered`. -/
def cachedRegistry (c : ResolverCache) (now : Int) : Option TenantKeys :=
  match c.registry.keys with
  | some keys => if now < c.registry.expiresAt then some keys else none
  | none => none

/-- The store of `bindingSet`. -/
def storeBindings (c : ResolverCache) (userID : Int64) (b : CachedBindings) : ResolverCache :=
  { c with bindings := Function.update c.bindings userID (some b) }

/-- The store of `registered`. -/
def storeRegistry (c : ResolverCache) (g : CachedRegistry) : ResolverCache :=
  { c with registry := g }

end ResolverCache

/-- `containsKey`. -/
def containsKey : List String → String → Bool
  | [], _ => false
  | k :: ks, want => if k = want then true else containsKey ks want

theorem containsKey_iff (ks : List String) (want : String) :
    containsKey ks want = true ↔ want ∈ ks := by
  induction ks with
  | nil => simp [containsKey]
  | cons k ks ih =>
    by_cases hk : k = want
    · simp [containsKey, hk]
    · simp [containsKey, hk, Ne.symm hk, ih]

namespace Resolver
variable {Ctx E : Type} (r : Resolver Ctx E)

/-- `bindingSet`: the actor's binding set, refetched via WhoAmI on a miss or
expiry.  A failed call is wrapped and leaves the cache alone. -/
def bindingSet (clock : Clock) (c : ResolverCache) (ctx : Ctx) (userID : Int64) :
    Resolved Ctx E TenantKeys :=
  match c.cachedBindings clock.check userID with
  | some keys => ⟨.ok keys, c, []⟩
  | none =>
    match r.portal.whoAmI ctx with
    | .error err => ⟨.error (.portal err), c, [.whoAmI ctx]⟩
    | .ok resp =>
      ⟨.ok resp.keys, c.storeBindings userID ⟨resp.keys, clock.store + r.ttl⟩, [.whoAmI ctx]⟩

/-- The tenant registry `registered` reads, refetched via ListTenants on a miss or
expiry. -/
def registrySet (clock : Clock) (c : ResolverCache) (ctx : Ctx) : Resolved Ctx E TenantKeys :=
  match c.cachedRegistry clock.check with
  | some keys => ⟨.ok keys, c, []⟩
  | none =>
    match r.portal.listTenants ctx with
    | .error err => ⟨.error (.portal err), c, [.listTenants ctx]⟩
    | .ok resp =>
      ⟨.ok resp.keys, c.storeRegistry ⟨some resp.keys, clock.store + r.ttl⟩, [.listTenants ctx]⟩

/-- `registered`: whether the key is in the registry.  Both exits of the source ask
the same map for membership. -/
def registered (clock : Clock) (c : ResolverCache) (ctx : Ctx) (key : String) :
    Resolved Ctx E Bool :=
  let g := r.registrySet clock c ctx
  ⟨g.answer.map fun keys => decide (key ∈ keys.keys), g.cache, g.portalCalls⟩

end Resolver

/-- The tenant-admin row of the matrix, once the binding set is known: an explicit
choice must be bound, an omitted one defaults to the only binding. -/
def boundChoice {E : Type} (keys : TenantKeys) (choice : String) :
    Except (ResolveError E) String :=
  if choice = "" then
    match keys.keys with
    | [k] => .ok k
    | _ => .error .choiceRequired
  else if containsKey keys.keys choice then .ok choice
  else .error .choiceNotBound

/-- The platform row, once it is known whether the choice is registered. -/
def registeredChoice {E : Type} (known : Bool) (choice : String) :
    Except (ResolveError E) String :=
  if known then .ok choice else .error .choiceUnknownTenant

/-- `Resolve`: the trusted tenant key the request operates as (`""` for the
cross-tenant view), or a sentinel error. -/
def Resolver.resolve {Ctx E : Type} (r : Resolver Ctx E) (clock : Clock) (c : ResolverCache)
    (ctx : Ctx) (actor : Option RequestActor) (choice : String) : Resolved Ctx E String :=
  match actor with
  | none => ⟨.error .noActor, c, []⟩
  | some actor =>
    match actor.userType with
    | .tenantAdmin =>
      let b := r.bindingSet clock c ctx actor.userId
      ⟨b.answer.bind (boundChoice · choice), b.cache, b.portalCalls⟩
    | .platform =>
      if choice = "" then ⟨.ok "", c, []⟩
      else
        let g := r.registered clock c ctx choice
        ⟨g.answer.bind (registeredChoice · choice), g.cache, g.portalCalls⟩
    | _ => ⟨.error .userTypeDenied, c, []⟩

/-! ## The branches of a lookup and of the matrix -/

section Branches
variable {Ctx E : Type} {r : Resolver Ctx E} {clock : Clock} {c : ResolverCache} {ctx : Ctx}

theorem bindingSet_hit {u : Int64} {keys : TenantKeys}
    (h : c.cachedBindings clock.check u = some keys) :
    r.bindingSet clock c ctx u = ⟨.ok keys, c, []⟩ := by
  simp [Resolver.bindingSet, h]

theorem bindingSet_fail {u : Int64} {err : E} (h : c.cachedBindings clock.check u = none)
    (hp : r.portal.whoAmI ctx = .error err) :
    r.bindingSet clock c ctx u = ⟨.error (.portal err), c, [.whoAmI ctx]⟩ := by
  simp [Resolver.bindingSet, h, hp]

theorem bindingSet_fetch {u : Int64} {resp : WhoAmIResponse}
    (h : c.cachedBindings clock.check u = none) (hp : r.portal.whoAmI ctx = .ok resp) :
    r.bindingSet clock c ctx u =
      ⟨.ok resp.keys, c.storeBindings u ⟨resp.keys, clock.store + r.ttl⟩, [.whoAmI ctx]⟩ := by
  simp [Resolver.bindingSet, h, hp]

theorem registrySet_hit {keys : TenantKeys} (h : c.cachedRegistry clock.check = some keys) :
    r.registrySet clock c ctx = ⟨.ok keys, c, []⟩ := by
  simp [Resolver.registrySet, h]

theorem registrySet_fail {err : E} (h : c.cachedRegistry clock.check = none)
    (hp : r.portal.listTenants ctx = .error err) :
    r.registrySet clock c ctx = ⟨.error (.portal err), c, [.listTenants ctx]⟩ := by
  simp [Resolver.registrySet, h, hp]

theorem registrySet_fetch {resp : ListTenantsResponse} (h : c.cachedRegistry clock.check = none)
    (hp : r.portal.listTenants ctx = .ok resp) :
    r.registrySet clock c ctx =
      ⟨.ok resp.keys, c.storeRegistry ⟨some resp.keys, clock.store + r.ttl⟩,
        [.listTenants ctx]⟩ := by
  simp [Resolver.registrySet, h, hp]

/-- A lookup fails only because the portal call failed. -/
theorem bindingSet_error {u : Int64} {e : ResolveError E}
    (h : (r.bindingSet clock c ctx u).answer = .error e) : ∃ err, e = .portal err := by
  cases hc : c.cachedBindings clock.check u with
  | some keys => simp [bindingSet_hit hc] at h
  | none =>
    cases hp : r.portal.whoAmI ctx with
    | error err =>
      rw [bindingSet_fail hc hp] at h
      exact ⟨err, (Except.error.inj h).symm⟩
    | ok resp => simp [bindingSet_fetch hc hp] at h

theorem registrySet_error {e : ResolveError E}
    (h : (r.registrySet clock c ctx).answer = .error e) : ∃ err, e = .portal err := by
  cases hc : c.cachedRegistry clock.check with
  | some keys => simp [registrySet_hit hc] at h
  | none =>
    cases hp : r.portal.listTenants ctx with
    | error err =>
      rw [registrySet_fail hc hp] at h
      exact ⟨err, (Except.error.inj h).symm⟩
    | ok resp => simp [registrySet_fetch hc hp] at h

theorem resolve_tenantAdmin {a : RequestActor} (ht : a.userType = .tenantAdmin)
    (choice : String) :
    r.resolve clock c ctx (some a) choice =
      ⟨(r.bindingSet clock c ctx a.userId).answer.bind (boundChoice · choice),
        (r.bindingSet clock c ctx a.userId).cache,
        (r.bindingSet clock c ctx a.userId).portalCalls⟩ := by
  simp [Resolver.resolve, ht]

theorem resolve_crossView {a : RequestActor} (ht : a.userType = .platform) :
    r.resolve clock c ctx (some a) "" = ⟨.ok "", c, []⟩ := by
  simp [Resolver.resolve, ht]

/-- A platform drill-down: the registry decides. -/
theorem resolve_drillDown {a : RequestActor} (ht : a.userType = .platform) {choice : String}
    (hc : choice ≠ "") :
    r.resolve clock c ctx (some a) choice =
      ⟨(r.registrySet clock c ctx).answer.bind
          fun keys => registeredChoice (decide (choice ∈ keys.keys)) choice,
        (r.registrySet clock c ctx).cache, (r.registrySet clock c ctx).portalCalls⟩ := by
  have hbind : ∀ x : Except (ResolveError E) TenantKeys,
      (x.map fun keys => decide (choice ∈ keys.keys)).bind (registeredChoice · choice) =
        x.bind fun keys => registeredChoice (decide (choice ∈ keys.keys)) choice := by
    intro x
    cases x <;> rfl
  simp [Resolver.resolve, Resolver.registered, ht, hc, hbind]

theorem resolve_denied {a : RequestActor} (hta : a.userType ≠ .tenantAdmin)
    (hpl : a.userType ≠ .platform) (choice : String) :
    r.resolve clock c ctx (some a) choice = ⟨.error .userTypeDenied, c, []⟩ := by
  unfold Resolver.resolve
  cases ht : a.userType with
  | tenantAdmin => exact absurd ht hta
  | platform => exact absurd ht hpl
  | unspecified | endUser | other => simp [ht]

end Branches

/-! ## What an answer means -/

section Answers
variable {Ctx E : Type} {r : Resolver Ctx E} {clock : Clock} {c : ResolverCache} {ctx : Ctx}

/-- A tenant admin resolves to a bound key, and to the choice if there is one. -/
theorem boundChoice_ok {keys : TenantKeys} {choice key : String}
    (h : boundChoice (E := E) keys choice = .ok key) :
    key ∈ keys.keys ∧ key ≠ "" ∧ (choice ≠ "" → key = choice) := by
  have hmem : key ∈ keys.keys ∧ (choice ≠ "" → key = choice) := by
    unfold boundChoice at h
    split at h
    · rename_i hempty
      split at h
      · rename_i k hkeys
        cases h
        exact ⟨by rw [hkeys]; exact List.mem_singleton_self _, fun hne => absurd hempty hne⟩
      · cases h
    · split at h
      · rename_i hin
        cases h
        exact ⟨(containsKey_iff _ _).mp hin, fun _ => rfl⟩
      · cases h
  exact ⟨hmem.1, keys.nonempty key hmem.1, hmem.2⟩

/-- An omitted choice is the only binding. -/
theorem boundChoice_default {keys : TenantKeys} {key : String}
    (h : boundChoice (E := E) keys "" = .ok key) : keys.keys = [key] := by
  rw [boundChoice, if_pos rfl] at h
  split at h
  · rename_i k hkeys
    cases h
    exact hkeys
  · cases h

/-- An explicit choice is refused exactly when it is not bound. -/
theorem boundChoice_notBound {keys : TenantKeys} {choice : String}
    (h : boundChoice (E := E) keys choice = .error .choiceNotBound) : choice ∉ keys.keys := by
  unfold boundChoice at h
  split at h
  · split at h <;> cases h
  · split at h
    · cases h
    · rename_i hnot
      exact fun hin => hnot ((containsKey_iff _ _).mpr hin)

/-- Only an omitted choice is asked for. -/
theorem boundChoice_required {keys : TenantKeys} {choice : String}
    (h : boundChoice (E := E) keys choice = .error .choiceRequired) : choice = "" := by
  unfold boundChoice at h
  split at h
  · assumption
  · split at h <;> cases h

/-- A drill-down is let through exactly when the registry has its choice. -/
theorem registeredChoice_ok {keys : TenantKeys} {choice key : String}
    (h : registeredChoice (E := E) (decide (choice ∈ keys.keys)) choice = .ok key) :
    key = choice ∧ key ∈ keys.keys := by
  unfold registeredChoice at h
  split at h
  · rename_i hin
    cases h
    exact ⟨rfl, of_decide_eq_true hin⟩
  · cases h

/-- **What a resolved key is**, by the actor's row of the matrix. -/
theorem resolve_ok {actor : Option RequestActor} {choice key : String}
    (h : (r.resolve clock c ctx actor choice).answer = .ok key) :
    ∃ a, actor = some a ∧
      ((a.userType = .tenantAdmin ∧ ∃ keys, (r.bindingSet clock c ctx a.userId).answer = .ok keys ∧
          key ∈ keys.keys ∧ key ≠ "" ∧ (choice ≠ "" → key = choice)) ∨
        (a.userType = .platform ∧ choice = "" ∧ key = "") ∨
        (a.userType = .platform ∧ choice ≠ "" ∧ key = choice ∧
          ∃ keys, (r.registrySet clock c ctx).answer = .ok keys ∧ key ∈ keys.keys)) := by
  cases actor with
  | none => simp [Resolver.resolve] at h
  | some a =>
    refine ⟨a, rfl, ?_⟩
    by_cases hta : a.userType = .tenantAdmin
    · rw [resolve_tenantAdmin hta] at h
      cases hb : (r.bindingSet clock c ctx a.userId).answer with
      | error e => simp [hb, Except.bind] at h
      | ok keys =>
        rw [hb] at h
        exact Or.inl ⟨hta, keys, rfl, boundChoice_ok h⟩
    by_cases hpl : a.userType = .platform
    · by_cases hc : choice = ""
      · subst hc
        rw [resolve_crossView hpl] at h
        exact Or.inr (Or.inl ⟨hpl, rfl, (Except.ok.inj h).symm⟩)
      · rw [resolve_drillDown hpl hc] at h
        cases hg : (r.registrySet clock c ctx).answer with
        | error e => simp [hg, Except.bind] at h
        | ok keys =>
          rw [hg] at h
          obtain ⟨hkey, hmem⟩ := registeredChoice_ok h
          exact Or.inr (Or.inr ⟨hpl, hc, hkey, keys, rfl, hmem⟩)
    · rw [resolve_denied hta hpl] at h
      cases h

/-- **Only a tenant admin without a choice is asked for one.** -/
theorem resolve_choiceRequired {a : RequestActor} {choice : String}
    (h : (r.resolve clock c ctx (some a) choice).answer = .error .choiceRequired) :
    a.userType = .tenantAdmin ∧ choice = "" := by
  by_cases hta : a.userType = .tenantAdmin
  · rw [resolve_tenantAdmin hta] at h
    cases hb : (r.bindingSet clock c ctx a.userId).answer with
    | error e =>
      obtain ⟨err, rfl⟩ := bindingSet_error hb
      simp [hb, Except.bind] at h
    | ok keys =>
      rw [hb] at h
      exact ⟨hta, boundChoice_required h⟩
  by_cases hpl : a.userType = .platform
  · by_cases hc : choice = ""
    · subst hc
      rw [resolve_crossView hpl] at h
      cases h
    · rw [resolve_drillDown hpl hc] at h
      cases hg : (r.registrySet clock c ctx).answer with
      | error e =>
        obtain ⟨err, rfl⟩ := registrySet_error hg
        simp [hg, Except.bind] at h
      | ok keys =>
        simp only [hg, Except.bind, registeredChoice] at h
        split at h <;> cases h
  · rw [resolve_denied hta hpl] at h
    cases h

end Answers
end Testkit
