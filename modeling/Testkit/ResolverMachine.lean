import Testkit.ReadThrough
import Testkit.Resolver

/-! # Concurrent `Resolve` calls

The resolver checks its cache and stores into it under one mutex and calls the
portal outside it.  Any number of concurrent `Resolve` calls is therefore a
read-through cache (`ReadThrough`) whose cache is the resolver's, whose keys are
the two kinds of lookup, and whose source is the portal.  An answer is modelled by
the tenant keys of its rows, which is all the resolver reads of it.

`resolve_run` connects the two models: a `Resolve` that nothing interleaves with
is `Resolver.resolve`.
-/
namespace Testkit
open LabelledRuns ReadThrough

/-- What the cache is asked: `bindingSet` of a user, or `registered`. -/
inductive Lookup
  | bindings (userID : Int64)
  | registry
  deriving DecidableEq, Repr

/-- The arguments of a `Resolve` call. -/
structure ResolveQuery where
  actor : Option RequestActor
  choice : String
  deriving DecidableEq, Repr

/-- The lookup a `Resolve` needs: its branch of the matrix. -/
def ResolveQuery.lookup (q : ResolveQuery) : Option Lookup :=
  match q.actor with
  | none => none
  | some a =>
    match a.userType with
    | .tenantAdmin => some (.bindings a.userId)
    | .platform => if q.choice = "" then none else some .registry
    | _ => none

/-- What a `Resolve` without a lookup returns. -/
def ResolveQuery.direct {E : Type} (q : ResolveQuery) : Except (ResolveError E) String :=
  match q.actor with
  | none => .error .noActor
  | some a => if a.userType = .platform then .ok "" else .error .userTypeDenied

/-- What a `Resolve` returns once its lookup has answered. -/
def ResolveQuery.decide {E : Type} (q : ResolveQuery) (keys : TenantKeys) :
    Except (ResolveError E) String :=
  match q.lookup with
  | some (.bindings _) => boundChoice keys q.choice
  | some .registry => registeredChoice (Decidable.decide (q.choice ∈ keys.keys)) q.choice
  | none => q.direct

/-- The resolver's cache as an entry map. -/
def resolverStore : Store ResolverCache Lookup TenantKeys where
  entry
    | c, .bindings u => (c.bindings u).map fun b => ⟨b.keys, b.expiresAt⟩
    | c, .registry => c.registry.keys.map fun keys => ⟨keys, c.registry.expiresAt⟩
  put
    | c, .bindings u, e => c.storeBindings u ⟨e.value, e.expiresAt⟩
    | c, .registry, e => c.storeRegistry ⟨some e.value, e.expiresAt⟩
  entry_put := by
    rintro c (u | _) e <;> simp [ResolverCache.storeBindings, ResolverCache.storeRegistry]
  entry_put_of_ne := by
    rintro c (u | _) (u' | _) e hne
    · have hu : u' ≠ u := fun heq => hne (congrArg Lookup.bindings heq)
      simp [ResolverCache.storeBindings, Function.update_of_ne hu]
    · rfl
    · rfl
    · exact absurd rfl hne

theorem lookup_bindings (c : ResolverCache) (now : Int) (u : Int64) :
    resolverStore.lookup c now (.bindings u) = c.cachedBindings now u := by
  unfold Store.lookup ResolverCache.cachedBindings
  cases hb : c.bindings u <;> simp [resolverStore, hb]

theorem lookup_registry (c : ResolverCache) (now : Int) :
    resolverStore.lookup c now .registry = c.cachedRegistry now := by
  unfold Store.lookup ResolverCache.cachedRegistry
  cases hg : c.registry.keys <;> simp [resolverStore, hg]

/-- The resolver as a read-through cache. -/
def resolverProtocol (ttl : Nat) :
    Protocol ResolverCache Lookup TenantKeys (List String) ResolveQuery :=
  ⟨resolverStore, ResolveQuery.lookup, TenantKeys.ofRows, ttl⟩

/-- The resolver, its clock, the portal and the `Resolve` calls in flight. -/
abbrev Door (E ι : Type) := State ResolverCache Lookup (List String) E ResolveQuery ι

abbrev DoorEvent (E ι : Type) := Event Lookup TenantKeys (List String) E ResolveQuery ι

abbrev DoorHistory (E ι : Type) := List (Door E ι × DoorEvent E ι)

variable {E ι : Type} [DecidableEq ι]

abbrev DoorStep (ttl : Nat) : Door E ι → DoorEvent E ι → Door E ι → Prop :=
  Step (resolverProtocol ttl)

/-- A new resolver, whatever the time and the portal's state. -/
structure Fresh (s : Door E ι) : Prop where
  cache : s.cache = .empty
  calls : ∀ i, s.calls i = none

/-- The `Resolve` an event ends, and what it returns. -/
def outcome : DoorEvent E ι → Option (ι × ResolveQuery × Except (ResolveError E) String)
  | .skip i q => some (i, q, q.direct)
  | .hit i q keys => some (i, q, q.decide keys)
  | .fail i q err => some (i, q, .error (.portal err))
  | .store i q rows => some (i, q, q.decide (.ofRows rows))
  | _ => none

omit [DecidableEq ι] in
theorem Fresh.entry {s : Door E ι} (hs : Fresh s) (look : Lookup) :
    resolverStore.entry s.cache look = none := by
  rw [hs.cache]
  cases look <;> rfl

omit [DecidableEq ι] in
/-- **Only a lookup that names a key makes a `Resolve` return it.** -/
theorem decide_ok {q : ResolveQuery} {look : Lookup} (hlook : q.lookup = some look)
    {keys : TenantKeys} {k : String} (h : q.decide (E := E) keys = .ok k) : k ∈ keys.keys := by
  unfold ResolveQuery.decide at h
  rw [hlook] at h
  cases look with
  | bindings u => exact (boundChoice_ok h).1
  | registry =>
    simp only [registeredChoice] at h
    split at h
    · rename_i hin
      cases h
      exact of_decide_eq_true hin
    · cases h

/-- **How a `Resolve` with a lookup comes to return a key**: it was served from the
cache, or it has just stored its own answer, and either names the key. -/
theorem returned_key {ttl : Nat} {s t : Door E ι} {l : DoorEvent E ι} {i : ι} {q : ResolveQuery}
    {look : Lookup} {k : String} (hs : DoorStep ttl s l t)
    (hout : outcome l = some (i, q, .ok k)) (hlook : q.lookup = some look) :
    (∃ keys, l = .hit i q keys ∧ resolverStore.lookup s.cache s.now look = some keys ∧
      k ∈ keys.keys) ∨
    (∃ rows, l = .store i q rows ∧ s.calls i = some ⟨q, .fetched rows⟩ ∧
      k ∈ (TenantKeys.ofRows rows).keys) := by
  cases hs with
  | @skip i' q' hidle hslot =>
    simp only [outcome, Option.some.injEq, Prod.mk.injEq] at hout
    obtain ⟨rfl, rfl, -⟩ := hout
    exact absurd (hslot.symm.trans hlook) (by simp)
  | @hit i' q' look' keys hidle hslot hcache =>
    simp only [outcome, Option.some.injEq, Prod.mk.injEq] at hout
    obtain ⟨rfl, rfl, hdec⟩ := hout
    obtain rfl : look' = look := Option.some.inj (hslot.symm.trans hlook)
    exact Or.inl ⟨keys, rfl, hcache, decide_ok hlook hdec⟩
  | fail hcall => simp [outcome] at hout
  | @store i' q' rows look' hcall hslot =>
    simp only [outcome, Option.some.injEq, Prod.mk.injEq] at hout
    obtain ⟨rfl, rfl, hdec⟩ := hout
    exact Or.inr ⟨rows, rfl, hcall, decide_ok hlook hdec⟩
  | _ => cases hout

/-! ## A `Resolve` that runs alone -/

section Alone
variable {Ctx : Type}

/-- A query without a lookup: no verified actor, a user type without a management
plane, or the cross-tenant view. -/
theorem lookup_eq_none_iff (q : ResolveQuery) :
    q.lookup = none ↔ q.actor = none ∨ ∃ a, q.actor = some a ∧ a.userType ≠ .tenantAdmin ∧
      (a.userType = .platform → q.choice = "") := by
  unfold ResolveQuery.lookup
  cases q.actor with
  | none => simp
  | some a => cases ht : a.userType <;> simp [ht]

/-- The rows the portal answers a lookup with: WhoAmI or ListTenants. -/
def PortalAdmin.rows (portal : PortalAdmin Ctx E) (ctx : Ctx) : Lookup → Except E (List String)
  | .bindings _ =>
    (portal.whoAmI ctx).map fun resp => resp.memberships.map TenantMembership.tenantKey
  | .registry => (portal.listTenants ctx).map fun resp => resp.tenants.map TenantInfo.tenantKey

/-- Without a lookup `resolve` answers at once. -/
theorem resolve_direct (r : Resolver Ctx E) (clock : Clock) (c : ResolverCache) (ctx : Ctx)
    {q : ResolveQuery} (hnone : q.lookup = none) :
    r.resolve clock c ctx q.actor q.choice = ⟨q.direct, c, []⟩ := by
  obtain ⟨actor, choice⟩ := q
  rcases (lookup_eq_none_iff _).mp hnone with hact | ⟨a, hact, hta, hpl⟩
  · change actor = none at hact
    subst hact
    rfl
  · change actor = some a at hact
    subst hact
    by_cases hp : a.userType = .platform
    · have hchoice : choice = "" := hpl hp
      subst hchoice
      rw [resolve_crossView hp]
      simp [ResolveQuery.direct, hp]
    · rw [resolve_denied hta hp]
      simp [ResolveQuery.direct, hp]

/-- **The lookup of a `resolve`**: served from the entry, or asked of the portal, whose
failure leaves the cache alone and whose answer is stored. -/
theorem resolve_lookup (r : Resolver Ctx E) (clock : Clock) (c : ResolverCache) (ctx : Ctx)
    {q : ResolveQuery} {look : Lookup} (hlook : q.lookup = some look) :
    ∃ calls,
      (∃ keys, resolverStore.lookup c clock.check look = some keys ∧
        r.resolve clock c ctx q.actor q.choice = ⟨q.decide keys, c, calls⟩) ∨
      (resolverStore.lookup c clock.check look = none ∧
        ((∃ err, r.portal.rows ctx look = .error err ∧
          r.resolve clock c ctx q.actor q.choice = ⟨.error (.portal err), c, calls⟩) ∨
        (∃ rows, r.portal.rows ctx look = .ok rows ∧
          r.resolve clock c ctx q.actor q.choice = ⟨q.decide (.ofRows rows),
            resolverStore.put c look ⟨.ofRows rows, clock.store + r.ttl⟩, calls⟩))) := by
  obtain ⟨actor, choice⟩ := q
  cases actor with
  | none => cases hlook
  | some a =>
    cases ht : a.userType with
    | unspecified | endUser | other => simp [ResolveQuery.lookup, ht] at hlook
    | tenantAdmin =>
      obtain rfl : Lookup.bindings a.userId = look := by
        simpa [ResolveQuery.lookup, ht] using hlook
      simp only [resolve_tenantAdmin ht, lookup_bindings, ResolveQuery.decide, hlook]
      cases hc : c.cachedBindings clock.check a.userId with
      | some keys => exact ⟨[], Or.inl ⟨keys, rfl, by rw [bindingSet_hit hc]; rfl⟩⟩
      | none =>
        refine ⟨[.whoAmI ctx], Or.inr ⟨rfl, ?_⟩⟩
        cases hp : r.portal.whoAmI ctx with
        | error err =>
          exact Or.inl ⟨err, by rw [PortalAdmin.rows, hp]; rfl, by rw [bindingSet_fail hc hp]; rfl⟩
        | ok resp =>
          exact Or.inr ⟨_, by rw [PortalAdmin.rows, hp]; rfl, by rw [bindingSet_fetch hc hp]; rfl⟩
    | platform =>
      have hne : choice ≠ "" := by
        rintro rfl
        simp [ResolveQuery.lookup, ht] at hlook
      obtain rfl : Lookup.registry = look := by
        simpa [ResolveQuery.lookup, ht, hne] using hlook
      simp only [resolve_drillDown ht hne, lookup_registry, ResolveQuery.decide, hlook]
      cases hc : c.cachedRegistry clock.check with
      | some keys => exact ⟨[], Or.inl ⟨keys, rfl, by rw [registrySet_hit hc]; rfl⟩⟩
      | none =>
        refine ⟨[.listTenants ctx], Or.inr ⟨rfl, ?_⟩⟩
        cases hp : r.portal.listTenants ctx with
        | error err =>
          exact Or.inl ⟨err, by rw [PortalAdmin.rows, hp]; rfl, by rw [registrySet_fail hc hp]; rfl⟩
        | ok resp =>
          exact Or.inr ⟨_, by rw [PortalAdmin.rows, hp]; rfl, by rw [registrySet_fetch hc hp]; rfl⟩

/-- The events of one lookup that misses and whose portal call answers: ask, answer,
return, and the store `d` later. -/
theorem alone_fetch (ttl d : Nat) {s : Door E ι} {i : ι} {q : ResolveQuery} {look : Lookup}
    (hidle : s.calls i = none) (hlook : q.lookup = some look)
    (hmiss : resolverStore.lookup s.cache s.now look = none) (rows : List String) :
    ∃ h s' t, Run (DoorStep ttl) s h s' ∧ DoorStep ttl s' (.store i q rows) t ∧
      t.cache = resolverStore.put s.cache look ⟨.ofRows rows, s.now + d + ttl⟩ ∧
      t.calls = s.calls ∧ t.source = s.source := by
  have hstart : Run (DoorStep ttl) s [] s := .start
  have hasked := hstart.next (Step.miss hidle hlook hmiss)
  have hanswered := hasked.next (Step.answer (r := .ok rows) (Function.update_self ..))
  have hfetched := hanswered.next (Step.fetch (Function.update_self ..))
  have hrun := hfetched.next (Step.tick d)
  refine ⟨_, _, _, hrun, Step.store (Function.update_self ..) hlook, rfl, ?_, rfl⟩
  simp only [Function.update_idem]
  rw [← hidle, Function.update_eq_self]

/-- The events of one lookup that misses and whose portal call fails. -/
theorem alone_fail (ttl : Nat) {s : Door E ι} {i : ι} {q : ResolveQuery} {look : Lookup}
    (hidle : s.calls i = none) (hlook : q.lookup = some look)
    (hmiss : resolverStore.lookup s.cache s.now look = none) (err : E) :
    ∃ h s' t, Run (DoorStep ttl) s h s' ∧ DoorStep ttl s' (.fail i q err) t ∧
      t.cache = s.cache ∧ t.calls = s.calls ∧ t.source = s.source := by
  have hstart : Run (DoorStep ttl) s [] s := .start
  have hasked := hstart.next (Step.miss hidle hlook hmiss)
  have hrun := hasked.next (Step.answer (r := .error err) (Function.update_self ..))
  refine ⟨_, _, _, hrun, Step.fail (Function.update_self ..), rfl, ?_, rfl⟩
  simp only [Function.update_idem]
  rw [← hidle, Function.update_eq_self]

/-- **A `Resolve` that nothing interleaves with is `Resolver.resolve`**: the machine
has a run of this one call that returns the same answer and leaves the same cache. -/
theorem resolve_run (r : Resolver Ctx E) {clock : Clock} (hle : clock.check ≤ clock.store)
    (ctx : Ctx) (q : ResolveQuery) {s : Door E ι} {i : ι} (hidle : s.calls i = none)
    (hnow : s.now = clock.check) :
    ∃ h s' l t, Run (DoorStep r.ttl) s h s' ∧ DoorStep r.ttl s' l t ∧
      outcome l = some (i, q, (r.resolve clock s.cache ctx q.actor q.choice).answer) ∧
      t.cache = (r.resolve clock s.cache ctx q.actor q.choice).cache ∧
      t.calls = s.calls ∧ t.source = s.source := by
  obtain ⟨d, hd⟩ : ∃ d : Nat, s.now + d = clock.store :=
    ⟨(clock.store - clock.check).toNat, by omega⟩
  cases hlook : q.lookup with
  | none =>
    rw [resolve_direct r clock s.cache ctx hlook]
    exact ⟨[], s, .skip i q, s, .start, .skip hidle hlook, rfl, rfl, rfl, rfl⟩
  | some look =>
    obtain ⟨calls, hcases⟩ := resolve_lookup r clock s.cache ctx hlook
    rw [← hnow] at hcases
    rcases hcases with ⟨keys, hhit, hres⟩ | ⟨hmiss, ⟨err, -, hres⟩ | ⟨rows, -, hres⟩⟩
    · rw [hres]
      exact ⟨[], s, .hit i q keys, s, .start, .hit hidle hlook hhit, rfl, rfl, rfl, rfl⟩
    · rw [hres]
      obtain ⟨h, s', t, hrun, hstep, hrest⟩ := alone_fail r.ttl hidle hlook hmiss err
      exact ⟨h, s', _, t, hrun, hstep, rfl, hrest⟩
    · rw [hres, ← hd]
      obtain ⟨h, s', t, hrun, hstep, hrest⟩ := alone_fetch r.ttl d hidle hlook hmiss rows
      exact ⟨h, s', _, t, hrun, hstep, rfl, hrest⟩

end Alone
end Testkit
