import Testkit.Resolver

/-! # The tenant gate: the HTTP edge of the door

`Gate.Wrap` strips every inbound form of the tenant headers, resolves the
injection from the verified actor, and plants the trusted key in the wire header
and on the request context before the wrapped handler runs.

Two results.  `wrap_confined`: whatever the request, the handler sees no tenant
header but the planted one, and the planted key is the one the actor's row of the
matrix allows.  `wrap_congr`: the stripped headers have no influence at all, on
the handler, on the portal calls or on the cache that later requests read.
-/
namespace Testkit

/-! ## Headers and requests -/

/-- `http.Header`, keyed by canonical names (as `net/http` delivers them, and as the
names below are written). -/
def Header : Type := String → Option (List String)

namespace Header

/-- `Header.Get`: the first value, or `""`. -/
def get (h : Header) (name : String) : String := ((h name).getD []).headD ""

/-- `Header.Del`. -/
def del (h : Header) (name : String) : Header := Function.update h name none

/-- `Header.Set`. -/
def set (h : Header) (name value : String) : Header := Function.update h name (some [value])

theorem del_apply (h : Header) (name other : String) :
    h.del name other = if other = name then none else h other :=
  Function.update_apply ..

@[simp] theorem set_self (h : Header) (name value : String) :
    h.set name value name = some [value] := Function.update_self ..

theorem set_of_ne (h : Header) {name other : String} (value : String) (hne : other ≠ name) :
    h.set name value other = h other := Function.update_of_ne hne ..

end Header

def headerTenantChoice : String := "X-Tenant-Choice"
def wireTenantChoiceHeader : String := "Grpc-Metadata-X-Tenant-Choice"
def wireTenantKeyHeader : String := "Grpc-Metadata-X-Tenant-Key"
def plainTenantKeyHeader : String := "X-Tenant-Key"

/-- `ConsoleTenantKey`, the reserved console directory. -/
def consoleTenantKey : String := "ten_platform"

/-- The four inbound forms the gate strips. -/
def tenantHeaders : List String :=
  [headerTenantChoice, wireTenantChoiceHeader, wireTenantKeyHeader, plainTenantKeyHeader]

/-- The headers of a request once `Wrap` has dropped the inbound copies. -/
def stripTenantHeaders (h : Header) : Header :=
  (((h.del headerTenantChoice).del wireTenantChoiceHeader).del wireTenantKeyHeader).del
    plainTenantKeyHeader

theorem stripTenantHeaders_mem (h : Header) {name : String} (hm : name ∈ tenantHeaders) :
    stripTenantHeaders h name = none := by
  simp only [tenantHeaders, List.mem_cons, List.not_mem_nil, or_false] at hm
  simp only [stripTenantHeaders, Header.del_apply]
  rcases hm with rfl | rfl | rfl | rfl <;> simp

theorem stripTenantHeaders_not_mem (h : Header) {name : String} (hm : name ∉ tenantHeaders) :
    stripTenantHeaders h name = h name := by
  simp only [tenantHeaders, List.mem_cons, List.not_mem_nil, or_false, not_or] at hm
  obtain ⟨h1, h2, h3, h4⟩ := hm
  simp only [stripTenantHeaders, Header.del_apply, h1, h2, h3, h4, if_false]

/-- Stripping forgets the tenant headers and nothing else. -/
theorem stripTenantHeaders_congr {h₁ h₂ : Header}
    (hother : ∀ name, name ∉ tenantHeaders → h₁ name = h₂ name) :
    stripTenantHeaders h₁ = stripTenantHeaders h₂ := by
  funext name
  by_cases hm : name ∈ tenantHeaders
  · rw [stripTenantHeaders_mem h₁ hm, stripTenantHeaders_mem h₂ hm]
  · rw [stripTenantHeaders_not_mem h₁ hm, stripTenantHeaders_not_mem h₂ hm, hother name hm]

/-- The parts of an `http.Request` the gate reads or writes. -/
structure Request (Ctx : Type) where
  method : String
  path : String
  header : Header
  ctx : Ctx

/-- `choicelessRoutes`. -/
def choicelessRoutes : List String := ["/api/v1/portal/whoami"]

def isChoicelessRoute (path : String) : Bool := choicelessRoutes.contains path

/-! ## Planting the trusted key -/

section Planting
variable {Ctx MD : Type} [MetadataMap MD] [RequestContext Ctx MD]

/-- `withTrustedTenant`: incoming metadata (merged over what is there), the ctx value,
and outgoing metadata. -/
def withTrustedTenant (ctx : Ctx) (key : String) : Ctx :=
  let ctx :=
    match fromIncomingContext ctx with
    | some md => newIncomingContext ctx (MetadataMap.set md headerTenantKey key)
    | none => newIncomingContext ctx (MetadataMap.pairs headerTenantKey key)
  let ctx := withTenantKey ctx key
  appendToOutgoingContext ctx headerTenantKey key

@[simp] theorem tenantKey_withTrustedTenant (ctx : Ctx) (key : String) :
    tenantKeyFromCtx (withTrustedTenant ctx key) = some key := by
  simp [withTrustedTenant]

@[simp] theorem actor_withTrustedTenant (ctx : Ctx) (key : String) :
    actorFromCtx (withTrustedTenant ctx key) = actorFromCtx ctx := by
  unfold withTrustedTenant
  cases fromIncomingContext ctx <;> simp

/-- `withTrustedRequest`. -/
def withTrustedRequest (r : Request Ctx) (key : String) : Request Ctx :=
  { r with
    header := r.header.set wireTenantKeyHeader key
    ctx := withTrustedTenant r.ctx key }

end Planting

/-! ## The middleware -/

/-- What the middleware answers: the wrapped handler is called with a request, or the
request is refused. -/
inductive Reply (Ctx : Type)
  | next (r : Request Ctx)
  | error (status : Nat) (text : String)

/-- A request's reply, the resolver cache it leaves and the portal calls it made. -/
structure Gated (Ctx : Type) where
  reply : Reply Ctx
  cache : ResolverCache
  portalCalls : List (PortalCall Ctx)

structure Gate (Ctx E : Type) where
  resolver : Resolver Ctx E

section Wrap
variable {Ctx MD E : Type} [MetadataMap MD] [RequestContext Ctx MD]

/-- `Gate.Wrap`. -/
def Gate.wrap (g : Gate Ctx E) (clock : Clock) (c : ResolverCache) (req : Request Ctx) :
    Gated Ctx :=
  let choice := req.header.get headerTenantChoice
  let req := { req with header := stripTenantHeaders req.header }
  -- a CORS preflight has no credentials to resolve
  if req.method = "OPTIONS" then ⟨.next req, c, []⟩
  else
    match actorFromCtx req.ctx with
    -- a public route operates as the console directory
    | none => ⟨.next (withTrustedRequest req consoleTenantKey), c, []⟩
    | some actor =>
      if actor.userType = .tenantAdmin ∨ actor.userType = .platform then
        let resolved := g.resolver.resolve clock c req.ctx (some actor) choice
        let reply :=
          match resolved.answer with
          | .ok key => .next (if key ≠ "" then withTrustedRequest req key else req)
          | .error (.portal _) => .error 503 "tenant gate unavailable"
          | .error .choiceRequired =>
            -- the switcher's bootstrap crosses without an injection
            if choice = "" ∧ isChoicelessRoute req.path then .next req else .error 403 "forbidden"
          | .error _ => .error 403 "forbidden"
        ⟨reply, resolved.cache, resolved.portalCalls⟩
      -- no management plane: a choice is refused, the rest crosses as it is
      else if choice ≠ "" then ⟨.error 403 "forbidden", c, []⟩
      else ⟨.next req, c, []⟩

/-- The request as the handler sees it when nothing is injected. -/
def stripped (req : Request Ctx) : Request Ctx :=
  { req with header := stripTenantHeaders req.header }

/-- **What the handler is called with**: the stripped request, with the key the
actor's row allows planted on it, or with none. -/
theorem wrap_next {g : Gate Ctx E} {clock : Clock} {c : ResolverCache} {req seen : Request Ctx}
    (h : (g.wrap clock c req).reply = .next seen) :
    (req.method = "OPTIONS" ∧ seen = stripped req) ∨
    (actorFromCtx req.ctx = none ∧ seen = withTrustedRequest (stripped req) consoleTenantKey) ∨
    ∃ a, actorFromCtx req.ctx = some a ∧
      ((∃ key, key ≠ "" ∧ seen = withTrustedRequest (stripped req) key ∧
          (g.resolver.resolve clock c req.ctx (some a)
            (req.header.get headerTenantChoice)).answer = .ok key) ∨
        (seen = stripped req ∧ req.header.get headerTenantChoice = "" ∧
          (a.userType = .tenantAdmin → isChoicelessRoute req.path = true))) := by
  unfold Gate.wrap at h
  by_cases hm : req.method = "OPTIONS"
  · simp only [hm, if_true, Reply.next.injEq] at h
    exact Or.inl ⟨hm, by rw [← h, stripped, hm]⟩
  simp only [hm, if_false] at h
  cases hact : actorFromCtx req.ctx with
  | none =>
    simp only [hact, Reply.next.injEq] at h
    exact Or.inr (Or.inl ⟨rfl, h.symm⟩)
  | some a =>
    refine Or.inr (Or.inr ⟨a, rfl, ?_⟩)
    simp only [hact] at h
    by_cases hplane : a.userType = .tenantAdmin ∨ a.userType = .platform
    · simp only [hplane, if_true] at h
      cases hres : (g.resolver.resolve clock c req.ctx (some a)
          (req.header.get headerTenantChoice)).answer with
      | ok key =>
        simp only [hres, Reply.next.injEq] at h
        by_cases hk : key = ""
        · -- the empty key is the platform's cross-tenant view, and no other row gives it
          simp only [hk, ne_eq, not_true_eq_false, if_false] at h
          rw [hk] at hres
          obtain ⟨_, heq, hadmin | hcross | hdrill⟩ := resolve_ok hres
          · exact absurd rfl hadmin.2.choose_spec.2.2.1
          · obtain rfl := Option.some.inj heq
            exact Or.inr ⟨h.symm, hcross.2.1, fun ht => by rw [hcross.1] at ht; cases ht⟩
          · exact absurd hdrill.2.2.1.symm hdrill.2.1
        · simp only [hk, ne_eq, not_false_eq_true, if_true] at h
          exact Or.inl ⟨key, hk, h.symm, rfl⟩
      | error e =>
        cases e with
        | choiceRequired =>
          simp only [hres] at h
          split at h
          · rename_i hroute
            exact Or.inr ⟨(Reply.next.inj h).symm, hroute.1, fun _ => hroute.2⟩
          · cases h
        | noActor | userTypeDenied | choiceNotBound | choiceUnknownTenant | portal =>
          simp only [hres] at h
          cases h
    · simp only [hplane, if_false] at h
      split at h
      · cases h
      · rename_i hempty
        exact Or.inr ⟨(Reply.next.inj h).symm, Classical.not_not.mp hempty,
          fun ht => absurd (Or.inl ht) hplane⟩

/-- What the door promises of the request a handler sees. -/
structure Confined (g : Gate Ctx E) (clock : Clock) (c : ResolverCache)
    (req seen : Request Ctx) : Prop where
  no_choice : seen.header headerTenantChoice = none
  no_wireChoice : seen.header wireTenantChoiceHeader = none
  no_plainKey : seen.header plainTenantKeyHeader = none
  /-- The wire key is absent, or is the one key planted on the context. -/
  key : seen.header wireTenantKeyHeader = none ∨
    ∃ k, seen.header wireTenantKeyHeader = some [k] ∧ tenantKeyFromCtx seen.ctx = some k
  anonymous : req.method ≠ "OPTIONS" → actorFromCtx req.ctx = none →
    seen.header wireTenantKeyHeader = some [consoleTenantKey]
  tenantAdmin : ∀ a, req.method ≠ "OPTIONS" → actorFromCtx req.ctx = some a →
    a.userType = .tenantAdmin →
    (∃ k keys, seen.header wireTenantKeyHeader = some [k] ∧
      (g.resolver.bindingSet clock c req.ctx a.userId).answer = .ok keys ∧ k ∈ keys.keys ∧
      k ≠ "" ∧
      (req.header.get headerTenantChoice ≠ "" → k = req.header.get headerTenantChoice)) ∨
    (seen.header wireTenantKeyHeader = none ∧ req.header.get headerTenantChoice = "" ∧
      isChoicelessRoute req.path = true)
  platform : ∀ a, req.method ≠ "OPTIONS" → actorFromCtx req.ctx = some a →
    a.userType = .platform →
    (∃ keys, seen.header wireTenantKeyHeader = some [req.header.get headerTenantChoice] ∧
      (g.resolver.registrySet clock c req.ctx).answer = .ok keys ∧
      req.header.get headerTenantChoice ∈ keys.keys) ∨
    (seen.header wireTenantKeyHeader = none ∧ req.header.get headerTenantChoice = "")
  other : ∀ a, req.method ≠ "OPTIONS" → actorFromCtx req.ctx = some a →
    a.userType ≠ .tenantAdmin → a.userType ≠ .platform →
    seen.header wireTenantKeyHeader = none

theorem stripped_header (req : Request Ctx) {name : String} (hm : name ∈ tenantHeaders) :
    (stripped req).header name = none := by
  show stripTenantHeaders req.header name = none
  exact stripTenantHeaders_mem _ hm

theorem stripped_wireKey (req : Request Ctx) :
    (stripped req).header wireTenantKeyHeader = none :=
  stripped_header req (by simp [tenantHeaders])

/-- Planting writes the wire key; the other tenant headers stay stripped. -/
theorem planted_header (req : Request Ctx) (key : String) :
    (withTrustedRequest (stripped req) key).header wireTenantKeyHeader = some [key] ∧
    ∀ name ∈ tenantHeaders, name ≠ wireTenantKeyHeader →
      (withTrustedRequest (stripped req) key).header name = none := by
  constructor
  · show (stripped req).header.set wireTenantKeyHeader key wireTenantKeyHeader = some [key]
    exact Header.set_self _ _ _
  · intro name hm hne
    show (stripped req).header.set wireTenantKeyHeader key name = none
    rw [Header.set_of_ne _ _ hne]
    exact stripped_header req hm

/-- Whatever is planted, the handler sees no tenant header but the wire key, and the
wire key is the one on the context. -/
theorem seen_header {req seen : Request Ctx}
    (h : seen = stripped req ∨ ∃ key, seen = withTrustedRequest (stripped req) key) :
    (∀ name ∈ tenantHeaders, name ≠ wireTenantKeyHeader → seen.header name = none) ∧
    (seen.header wireTenantKeyHeader = none ∨
      ∃ k, seen.header wireTenantKeyHeader = some [k] ∧ tenantKeyFromCtx seen.ctx = some k) := by
  rcases h with rfl | ⟨key, rfl⟩
  · exact ⟨fun _ hm _ => stripped_header req hm, Or.inl (stripped_wireKey req)⟩
  · exact ⟨(planted_header req key).2,
      Or.inr ⟨key, (planted_header req key).1, tenantKey_withTrustedTenant _ _⟩⟩

/-- What the handler is called with on an actor's request. -/
theorem wrap_next_actor {g : Gate Ctx E} {clock : Clock} {c : ResolverCache}
    {req seen : Request Ctx} (h : (g.wrap clock c req).reply = .next seen)
    (hm : req.method ≠ "OPTIONS") {a : RequestActor} (hact : actorFromCtx req.ctx = some a) :
    (∃ key, key ≠ "" ∧ seen = withTrustedRequest (stripped req) key ∧
      (g.resolver.resolve clock c req.ctx (some a)
        (req.header.get headerTenantChoice)).answer = .ok key) ∨
    (seen = stripped req ∧ req.header.get headerTenantChoice = "" ∧
      (a.userType = .tenantAdmin → isChoicelessRoute req.path = true)) := by
  rcases wrap_next h with ⟨ho, -⟩ | ⟨hn, -⟩ | ⟨a', ha, hrow⟩
  · exact absurd ho hm
  · rw [hact] at hn
    cases hn
  · obtain rfl : a = a' := Option.some.inj (hact.symm.trans ha)
    exact hrow

/-- **Door confinement.**  Whatever the request, the cache and the portal's answers,
if the wrapped handler is called then the request it sees is confined. -/
theorem wrap_confined (g : Gate Ctx E) (clock : Clock) (c : ResolverCache)
    (req seen : Request Ctx) (h : (g.wrap clock c req).reply = .next seen) :
    Confined g clock c req seen := by
  have hcases := wrap_next h
  have hform : seen = stripped req ∨ ∃ key, seen = withTrustedRequest (stripped req) key := by
    rcases hcases with ⟨-, hs⟩ | ⟨-, hs⟩ | ⟨a, -, ⟨key, -, hs, -⟩ | ⟨hs, -⟩⟩
    · exact Or.inl hs
    · exact Or.inr ⟨_, hs⟩
    · exact Or.inr ⟨key, hs⟩
    · exact Or.inl hs
  obtain ⟨hnone, hkey⟩ := seen_header hform
  refine ⟨hnone _ (by simp [tenantHeaders]) (by decide), hnone _ (by simp [tenantHeaders])
    (by decide), hnone _ (by simp [tenantHeaders]) (by decide), hkey, ?_, ?_, ?_, ?_⟩
  · -- no actor: the console directory
    intro hm hact
    rcases hcases with ⟨ho, -⟩ | ⟨-, rfl⟩ | ⟨a, ha, -⟩
    · exact absurd ho hm
    · exact (planted_header req _).1
    · rw [hact] at ha; cases ha
  · -- a tenant admin: a binding, or the bootstrap route
    intro a hm hact ht
    rcases wrap_next_actor h hm hact with ⟨key, hne, rfl, hres⟩ | ⟨rfl, hempty, hroute⟩
    · obtain ⟨_, heq, hadmin | hcross | hdrill⟩ := resolve_ok hres
      · obtain rfl := Option.some.inj heq
        obtain ⟨-, keys, hb, hmem, -, hchoice⟩ := hadmin
        exact Or.inl ⟨key, keys, (planted_header req key).1, hb, hmem, hne, hchoice⟩
      · exact absurd hcross.2.2 hne
      · obtain rfl := Option.some.inj heq
        rw [ht] at hdrill; cases hdrill.1
    · exact Or.inr ⟨stripped_wireKey req, hempty, hroute ht⟩
  · -- a platform operator: a registered drill-down, or the cross-tenant view
    intro a hm hact ht
    rcases wrap_next_actor h hm hact with ⟨key, hne, rfl, hres⟩ | ⟨rfl, hempty, -⟩
    · obtain ⟨_, heq, hadmin | hcross | ⟨-, -, rfl, keys, hg, hmem⟩⟩ := resolve_ok hres
      · obtain rfl := Option.some.inj heq
        rw [ht] at hadmin; cases hadmin.1
      · exact absurd hcross.2.2 hne
      · exact Or.inl ⟨keys, (planted_header req _).1, hg, hmem⟩
    · exact Or.inr ⟨stripped_wireKey req, hempty⟩
  · -- the other types resolve no injection
    intro a hm hact hta hpl
    rcases wrap_next_actor h hm hact with ⟨key, -, -, hres⟩ | ⟨rfl, -⟩
    · obtain ⟨_, heq, hadmin | hcross | hdrill⟩ := resolve_ok hres
      · exact absurd (Option.some.inj heq ▸ hadmin.1) hta
      · exact absurd (Option.some.inj heq ▸ hcross.1) hpl
      · exact absurd (Option.some.inj heq ▸ hdrill.1) hpl
    · exact stripped_wireKey req

/-- A gate over a portal that knows two tenants and binds every tenant admin to the
first of them. -/
def twoTenantGate : Gate PlainContext String :=
  ⟨newResolver ⟨fun _ => .ok ⟨[⟨"ten_alpha"⟩]⟩, fun _ => .ok ⟨[⟨"ten_alpha"⟩, ⟨"ten_beta"⟩]⟩⟩⟩

/-- A tenant admin's request that carries a foreign wire key and no choice. -/
def spoofedRequest (spoofed : List String) : Request PlainContext where
  method := "POST"
  path := "/api/v1/some/rpc"
  header name := if name = wireTenantKeyHeader then some spoofed else none
  ctx := { actor := some ⟨42, .tenantAdmin⟩ }

/-- The spoofed key is replaced by the only binding. -/
theorem wrap_confined_spoofed :
    Confined twoTenantGate ⟨0, 0⟩ .empty (spoofedRequest ["ten_beta"])
      (withTrustedRequest (stripped (spoofedRequest ["ten_beta"])) "ten_alpha") :=
  wrap_confined twoTenantGate ⟨0, 0⟩ .empty _ _ rfl

/-- **Smuggled tenant headers have no influence.**  Requests that agree outside the
four stripped headers, and on the first choice value where it is read at all, are
answered alike: the same reply, the same portal calls, the same cache. -/
theorem wrap_congr (g : Gate Ctx E) (clock : Clock) (c : ResolverCache) (req₁ req₂ : Request Ctx)
    (hmethod : req₁.method = req₂.method) (hpath : req₁.path = req₂.path)
    (hctx : req₁.ctx = req₂.ctx)
    (hother : ∀ name, name ∉ tenantHeaders → req₁.header name = req₂.header name)
    (hchoice : req₁.header.get headerTenantChoice = req₂.header.get headerTenantChoice ∨
      actorFromCtx req₁.ctx = none ∨ req₁.method = "OPTIONS") :
    g.wrap clock c req₁ = g.wrap clock c req₂ := by
  obtain ⟨method, path, h₁, ctx⟩ := req₁
  obtain ⟨_, _, h₂, _⟩ := req₂
  obtain rfl : method = _ := hmethod
  obtain rfl : path = _ := hpath
  obtain rfl : ctx = _ := hctx
  have hstrip : stripTenantHeaders h₁ = stripTenantHeaders h₂ := stripTenantHeaders_congr hother
  unfold Gate.wrap
  rcases hchoice with hc | hanon | hopt
  · simp only at hc
    simp only [hstrip, hc]
  · simp only at hanon
    simp only [hstrip, hanon]
  · simp only at hopt
    simp only [hstrip, hopt, if_true]

/-- Any two lists of spoofed keys are answered alike. -/
theorem wrap_congr_spoofed :
    twoTenantGate.wrap ⟨0, 0⟩ .empty (spoofedRequest ["ten_beta"]) =
      twoTenantGate.wrap ⟨0, 0⟩ .empty (spoofedRequest ["ten_gamma", "ten_beta"]) :=
  wrap_congr twoTenantGate ⟨0, 0⟩ .empty _ _ rfl rfl rfl
    (fun name hname => by
      have hne : name ≠ wireTenantKeyHeader := by
        rintro rfl
        exact hname (by simp [tenantHeaders])
      simp [spoofedRequest, hne])
    (Or.inl rfl)

end Wrap
end Testkit
