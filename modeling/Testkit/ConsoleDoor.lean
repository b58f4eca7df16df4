import Testkit.ConsoleStorage
import Testkit.Gate
import Testkit.TenantClamp

/-! # The console and the door

The console sends the stored choice, the gate resolves it.  Two recoveries of the console
meet the gate: the bootstrap of a tenant admin (`getInitialState`), whose `WhoAmI` is
exempt from the choice, and the switcher's registry check of a platform operator, whose
`ListTenants` is not.

What the browser makes of a header value is a parameter, `wire`: `none` when it refuses
to send the request.  A value that is legal in a header arrives as it is.
-/
namespace Testkit
open LocalStorage

/-! ## Requests of the console at the gate -/

/-- The door when a request comes to it: the clock readings of the lookup, the cache it
finds, and the request's context and other headers behind the session middleware. -/
structure DoorVisit (Ctx : Type) where
  clock : Clock
  cache : ResolverCache
  ctx : Ctx
  header : Header

/-- A request of the generated services, as the gate sees it. -/
def consoleRequest {Ctx : Type} (path : String) (v : DoorVisit Ctx) (choice : Option String) :
    Request Ctx where
  method := "GET"
  path := path
  header :=
    match choice with
    | none => v.header.del headerTenantChoice
    | some c => v.header.set headerTenantChoice c
  ctx := v.ctx

@[simp] theorem choice_consoleRequest {Ctx : Type} (path : String) (v : DoorVisit Ctx)
    (choice : Option String) :
    (consoleRequest path v choice).header.get headerTenantChoice = choice.getD "" := by
  cases choice with
  | none => simp [consoleRequest, Header.get, Header.del_apply]
  | some c => simp [consoleRequest, Header.get]

section Door
variable {Ctx MD E α : Type} [MetadataMap MD] [RequestContext Ctx MD]

/-- A request through the gate: a refusal is an error with its status, and what is let
through is answered by the handler. -/
def atDoor (g : Gate Ctx E) (path : String) (v : DoorVisit Ctx)
    (handler : Request Ctx → Except ApiError α) (choice : Option String) : Except ApiError α :=
  match (g.wrap v.clock v.cache (consoleRequest path v choice)).reply with
  | .next seen => handler seen
  | .error status _ => .error ⟨some status⟩

/-- The way from the interceptor to the gate. -/
def throughDoor (wire : String → Option String) (g : Gate Ctx E) (path : String)
    (v : DoorVisit Ctx) (handler : Request Ctx → Except ApiError α) (headers : ConsoleHeaders) :
    Except ApiError α :=
  match headers.tenantChoice with
  | none => atDoor g path v handler none
  | some choice =>
    match wire choice with
    | none => .error ⟨none⟩
    | some value => atDoor g path v handler (some value)

section Replies
variable {g : Gate Ctx E} {clock : Clock} {c : ResolverCache} {req : Request Ctx}
  {a : RequestActor} {keys : TenantKeys}

/-- A tenant admin's bound choice is the key the gate plants. -/
theorem wrap_bound (hmethod : req.method ≠ "OPTIONS") (ha : actorFromCtx req.ctx = some a)
    (ht : a.userType = .tenantAdmin)
    (hkeys : (g.resolver.bindingSet clock c req.ctx a.userId).answer = .ok keys)
    (hbound : req.header.get headerTenantChoice ∈ keys.keys) :
    (g.wrap clock c req).reply =
      .next (withTrustedRequest (stripped req) (req.header.get headerTenantChoice)) := by
  have hne : req.header.get headerTenantChoice ≠ "" := keys.nonempty _ hbound
  have hchoice : boundChoice (E := E) keys (req.header.get headerTenantChoice) =
      .ok (req.header.get headerTenantChoice) := by
    rw [boundChoice, if_neg hne, if_pos ((containsKey_iff _ _).mpr hbound)]
  simp [Gate.wrap, hmethod, ha, ht, resolve_tenantAdmin ht, hkeys, Except.bind, hchoice, hne,
    stripped]

/-- Any other choice of theirs is refused. -/
theorem wrap_unbound (hmethod : req.method ≠ "OPTIONS") (ha : actorFromCtx req.ctx = some a)
    (ht : a.userType = .tenantAdmin)
    (hkeys : (g.resolver.bindingSet clock c req.ctx a.userId).answer = .ok keys)
    (hne : req.header.get headerTenantChoice ≠ "")
    (hbound : req.header.get headerTenantChoice ∉ keys.keys) :
    (g.wrap clock c req).reply = .error 403 "forbidden" := by
  have hchoice : boundChoice (E := E) keys (req.header.get headerTenantChoice) =
      .error .choiceNotBound := by
    rw [boundChoice, if_neg hne, if_neg (fun h => hbound ((containsKey_iff _ _).mp h))]
  simp [Gate.wrap, hmethod, ha, ht, resolve_tenantAdmin ht, hkeys, Except.bind, hchoice]

/-- The exempt route crosses without a choice, however many bindings there are. -/
theorem wrap_choiceless (hmethod : req.method ≠ "OPTIONS") (ha : actorFromCtx req.ctx = some a)
    (ht : a.userType = .tenantAdmin)
    (hkeys : (g.resolver.bindingSet clock c req.ctx a.userId).answer = .ok keys)
    (hempty : req.header.get headerTenantChoice = "")
    (hroute : isChoicelessRoute req.path = true) :
    ∃ seen, (g.wrap clock c req).reply = .next seen := by
  by_cases hsingle : ∃ key, keys.keys = [key]
  · -- the only binding is the default
    obtain ⟨key, hkey⟩ := hsingle
    have hchoice : boundChoice (E := E) keys "" = .ok key := by
      rw [boundChoice, if_pos rfl, hkey]
    simp [Gate.wrap, hmethod, ha, ht, resolve_tenantAdmin ht, hkeys, Except.bind, hempty,
      hchoice]
  · have hchoice : boundChoice (E := E) keys "" = .error .choiceRequired := by
      rw [boundChoice, if_pos rfl]
      split
      · rename_i key hkey
        exact absurd ⟨key, hkey⟩ hsingle
      · rfl
    simp [Gate.wrap, hmethod, ha, ht, resolve_tenantAdmin ht, hkeys, Except.bind, hempty,
      hchoice, hroute]

/-- A platform operator without a choice crosses without an injection. -/
theorem wrap_crossView (hmethod : req.method ≠ "OPTIONS") (ha : actorFromCtx req.ctx = some a)
    (ht : a.userType = .platform) (hempty : req.header.get headerTenantChoice = "") :
    (g.wrap clock c req).reply = .next (stripped req) := by
  simp [Gate.wrap, hmethod, ha, ht, hempty, resolve_crossView ht, stripped]

/-- A platform operator's choice crosses iff the registry has it. -/
theorem wrap_drillDown (hmethod : req.method ≠ "OPTIONS") (ha : actorFromCtx req.ctx = some a)
    (ht : a.userType = .platform)
    (hkeys : (g.resolver.registrySet clock c req.ctx).answer = .ok keys)
    (hne : req.header.get headerTenantChoice ≠ "") :
    (g.wrap clock c req).reply =
      if req.header.get headerTenantChoice ∈ keys.keys then
        .next (withTrustedRequest (stripped req) (req.header.get headerTenantChoice))
      else .error 403 "forbidden" := by
  by_cases hmem : req.header.get headerTenantChoice ∈ keys.keys <;>
    simp [Gate.wrap, hmethod, ha, ht, resolve_drillDown ht hne, hkeys, Except.bind,
      registeredChoice, hmem, hne, stripped]

end Replies
/-! ## The bootstrap of a session -/

/-- What the layout and the switcher consume. -/
structure InitialState where
  currentUser : Option ConsoleUser
  tenantMemberships : Option (List TenantMembership)
  deriving DecidableEq, Repr

/-- `getInitialState`, with what its first and its repeated `WhoAmI` are answered. -/
def getInitialState (first retry : ConsoleHeaders → Except ApiError WhoAmIResponse)
    (s : LocalStorage) : InitialState × LocalStorage :=
  match s.user, s.sessionToken with
  | some currentUser, some _ =>
    if currentUser.userType ≠ some .tenantAdmin then (⟨some currentUser, none⟩, s)
    else
      match request first s with
      | (.ok who, s) =>
        (⟨some currentUser, some who.memberships⟩, (ensureTenantChoice s who.memberships).2)
      | (.error err, s) =>
        -- a stale choice is refused on the very call that would replace it
        if err.status = some 403 ∧ s.readTenantChoice ≠ "" then
          match request retry s.clearTenantChoice with
          | (.ok who, s) =>
            (⟨some currentUser, some who.memberships⟩, (ensureTenantChoice s who.memberships).2)
          | (.error _, s) => (⟨some currentUser, some []⟩, s)
        else (⟨some currentUser, some []⟩, s)
  | _, _ => (⟨none, none⟩, s)

/-- `GET /api/v1/portal/whoami` through the door. -/
def portalWhoAmI (wire : String → Option String) (g : Gate Ctx E) (v : DoorVisit Ctx)
    (who : WhoAmIResponse) : ConsoleHeaders → Except ApiError WhoAmIResponse :=
  throughDoor wire g "/api/v1/portal/whoami" v fun _ => .ok who

/-- The door knows a tenant admin by the non-empty keys of a membership list. -/
structure KnowsBindings (g : Gate Ctx E) (a : RequestActor) (memberships : List TenantMembership)
    (clock : Clock) (cache : ResolverCache) (ctx : Ctx) : Prop where
  actor : actorFromCtx ctx = some a
  bindings : ∃ keys, (g.resolver.bindingSet clock cache ctx a.userId).answer = .ok keys ∧
    keys.keys = boundKeys memberships

section Bootstrap
variable {wire : String → Option String} {g : Gate Ctx E} {a : RequestActor}
  {memberships : List TenantMembership} {s : LocalStorage} {v : DoorVisit Ctx}
  (ht : a.userType = .tenantAdmin)
  (hdoor : KnowsBindings g a memberships v.clock v.cache v.ctx)
include ht hdoor

/-- `WhoAmI` is answered without a choice, and with a bound one. -/
theorem atDoor_whoAmI {choice : Option String}
    (hchoice : choice.getD "" = "" ∨ choice.getD "" ∈ boundKeys memberships) :
    atDoor g "/api/v1/portal/whoami" v (fun _ => .ok ⟨memberships⟩) choice =
      .ok (⟨memberships⟩ : WhoAmIResponse) := by
  obtain ⟨keys, hkeys, hbound⟩ := hdoor.bindings
  have hmethod : (consoleRequest "/api/v1/portal/whoami" v choice).method ≠ "OPTIONS" := by
    show "GET" ≠ "OPTIONS"
    decide
  rcases hchoice with hempty | hmem
  · obtain ⟨seen, hseen⟩ := wrap_choiceless (g := g) hmethod hdoor.actor ht hkeys
      (by rw [choice_consoleRequest, hempty]) rfl
    rw [atDoor, hseen]
  · rw [atDoor, wrap_bound hmethod hdoor.actor ht hkeys
      (by rw [choice_consoleRequest, hbound]; exact hmem)]

/-- A choice that is not bound is refused even there. -/
theorem atDoor_whoAmI_stale {choice : Option String} (hne : choice.getD "" ≠ "")
    (hnot : choice.getD "" ∉ boundKeys memberships) :
    atDoor g "/api/v1/portal/whoami" v (fun _ => .ok ⟨memberships⟩) choice =
      (.error ⟨some 403⟩ : Except ApiError WhoAmIResponse) := by
  obtain ⟨keys, hkeys, hbound⟩ := hdoor.bindings
  have hmethod : (consoleRequest "/api/v1/portal/whoami" v choice).method ≠ "OPTIONS" := by
    show "GET" ≠ "OPTIONS"
    decide
  rw [atDoor, wrap_unbound hmethod hdoor.actor ht hkeys
    (by rw [choice_consoleRequest]; exact hne)
    (by rw [choice_consoleRequest, hbound]; exact hnot)]

/-- The answer of the first `WhoAmI`, by the stored choice. -/
theorem portalWhoAmI_eq
    (hlegal : s.readTenantChoice ≠ "" → wire s.readTenantChoice = some s.readTenantChoice) :
    portalWhoAmI wire g v ⟨memberships⟩ (requestInterceptor s) =
      if s.readTenantChoice = "" ∨ s.readTenantChoice ∈ boundKeys memberships then
        .ok ⟨memberships⟩
      else .error ⟨some 403⟩ := by
  rw [portalWhoAmI, throughDoor, tenantChoice_requestInterceptor]
  by_cases hempty : s.readTenantChoice = ""
  · rw [if_pos hempty, if_pos (Or.inl hempty)]
    exact atDoor_whoAmI ht hdoor (Or.inl rfl)
  · simp only [hempty, if_false, hlegal hempty, false_or]
    by_cases hmem : s.readTenantChoice ∈ boundKeys memberships
    · rw [if_pos hmem]
      exact atDoor_whoAmI ht hdoor (Or.inr hmem)
    · rw [if_neg hmem]
      exact atDoor_whoAmI_stale ht hdoor hempty hmem

end Bootstrap

/-- How a bootstrapped console and the door agree on one key. -/
structure BootstrapAgrees (g : Gate Ctx E) (a : RequestActor)
    (memberships : List TenantMembership) (s : LocalStorage)
    (booted : InitialState × LocalStorage) (key : String) : Prop where
  returned : booted.1.tenantMemberships = some memberships
  bound : key ∈ boundKeys memberships
  stored : booted.2.choice = some key
  kept : s.readTenantChoice ∈ boundKeys memberships → key = s.readTenantChoice
  fallback : s.readTenantChoice ∉ boundKeys memberships →
    (boundKeys memberships).head? = some key
  /-- Every request that carries the key is let through under it. -/
  resolved : ∀ clock cache (req : Request Ctx), req.method ≠ "OPTIONS" →
    KnowsBindings g a memberships clock cache req.ctx →
    req.header.get headerTenantChoice = key →
    (g.wrap clock cache req).reply = .next (withTrustedRequest (stripped req) key)
  /-- The pages show the rows of the key the gate injects, and the pool. -/
  view : ∀ {R : Type} (rows : List R) (getKey : R → Option String) r,
    r ∈ filterTenantRows (useTenantView booted.1.currentUser booted.2) rows getKey ↔
      r ∈ rows ∧ ∀ k, getKey r = some k → k ≠ "" → k = key

/-- What a tenant admin's bootstrap comes to, whether or not it had to be repeated. -/
theorem getInitialState_tenantAdmin {wire : String → Option String} {g : Gate Ctx E}
    {a : RequestActor} {memberships : List TenantMembership} {s : LocalStorage}
    {first retry : DoorVisit Ctx} {u : ConsoleUser} {token : String}
    (ht : a.userType = .tenantAdmin)
    (hfirst : KnowsBindings g a memberships first.clock first.cache first.ctx)
    (hretry : KnowsBindings g a memberships retry.clock retry.cache retry.ctx)
    (huser : s.user = some u) (hadmin : u.userType = some .tenantAdmin)
    (htoken : s.sessionToken = some token)
    (hlegal : s.readTenantChoice ≠ "" → wire s.readTenantChoice = some s.readTenantChoice) :
    ∃ s', getInitialState (portalWhoAmI wire g first ⟨memberships⟩)
        (portalWhoAmI wire g retry ⟨memberships⟩) s =
          (⟨some u, some memberships⟩, (ensureTenantChoice s' memberships).2) ∧
      (s' = s ∨ s' = s.clearTenantChoice ∧ s.readTenantChoice ∉ boundKeys memberships) := by
  have hsent := portalWhoAmI_eq ht hfirst (s := s) hlegal
  by_cases hok : s.readTenantChoice = "" ∨ s.readTenantChoice ∈ boundKeys memberships
  · rw [if_pos hok] at hsent
    refine ⟨s, ?_, Or.inl rfl⟩
    simp [getInitialState, huser, htoken, hadmin, request_ok hsent]
  · rw [if_neg hok] at hsent
    obtain ⟨hne, hnot⟩ := not_or.mp hok
    -- the repeated call carries no choice
    have hagain : portalWhoAmI wire g retry ⟨memberships⟩
        (requestInterceptor s.clearTenantChoice) = .ok ⟨memberships⟩ := by
      rw [portalWhoAmI_eq ht hretry (fun hcleared => absurd rfl hcleared)]
      exact if_pos (Or.inl rfl)
    refine ⟨s.clearTenantChoice, ?_, Or.inr ⟨rfl, hnot⟩⟩
    simp [getInitialState, huser, htoken, hadmin, request_error hsent (by decide), hne,
      request_ok hagain]

/-- **Console bootstrap agrees with the door.**  A tenant admin with a binding comes out
of `getInitialState` with one of their bindings stored; the gate resolves every request
that carries it to exactly that key, and the pages filter by it. -/
theorem bootstrap_agrees (wire : String → Option String) (g : Gate Ctx E) (a : RequestActor)
    (memberships : List TenantMembership) (s : LocalStorage) (first retry : DoorVisit Ctx)
    (u : ConsoleUser) (token : String) (ht : a.userType = .tenantAdmin)
    (hfirst : KnowsBindings g a memberships first.clock first.cache first.ctx)
    (hretry : KnowsBindings g a memberships retry.clock retry.cache retry.ctx)
    (hbound : ∃ m ∈ memberships, m.tenantKey ≠ "") (huser : s.user = some u)
    (hadmin : u.userType = some .tenantAdmin) (htoken : s.sessionToken = some token)
    (hlegal : s.readTenantChoice ≠ "" → wire s.readTenantChoice = some s.readTenantChoice) :
    ∃ key, BootstrapAgrees g a memberships s
      (getInitialState (portalWhoAmI wire g first ⟨memberships⟩)
        (portalWhoAmI wire g retry ⟨memberships⟩) s) key := by
  obtain ⟨s', hbooted, hstorage⟩ :=
    getInitialState_tenantAdmin ht hfirst hretry huser hadmin htoken hlegal
  have hsome : boundKeys memberships ≠ [] := by
    obtain ⟨m, hm, hne⟩ := hbound
    exact List.ne_nil_of_mem
      (List.mem_filter.mpr ⟨List.mem_map_of_mem hm, decide_eq_true hne⟩)
  obtain ⟨key, hmem, hchoice, hkept, hfallback⟩ := ensureTenantChoice_cases (s := s') hsome
  have hread : ∀ s'' : LocalStorage, s''.choice = some key → s''.readTenantChoice = key := by
    intro s'' h
    rw [readTenantChoice, h]
    rfl
  rw [hbooted]
  refine ⟨key, rfl, hmem, hchoice, ?_, ?_, ?_, ?_⟩
  · intro hin
    rcases hstorage with rfl | ⟨-, hnot⟩
    · exact hkept hin
    · exact absurd hin hnot
  · intro hnot
    apply hfallback
    rcases hstorage with rfl | ⟨rfl, -⟩
    · exact hnot
    · -- the cleared choice is empty, and no binding is
      intro hin
      exact absurd rfl (of_decide_eq_true (List.mem_filter.mp hin).2)
  · rintro clock cache req hmethod ⟨hactor, keys, hkeys, hrows⟩ hcarried
    rw [← hcarried]
    exact wrap_bound hmethod hactor ht hkeys (by rw [hrows, hcarried]; exact hmem)
  · intro R rows getKey r
    have hview : (useTenantView (some u) (ensureTenantChoice s' memberships).2).crossView =
        false := by simp [useTenantView, hadmin]
    rw [mem_filterTenantRows hview]
    show _ ∧ (∀ k, _ → _ → k = (ensureTenantChoice s' memberships).2.readTenantChoice) ↔ _
    rw [hread _ hchoice]

/-! ## The switcher's registry check -/

/-- The `ListTenants` forward, which is for platform operators only. -/
def listTenantsHandler (registry : ListTenantsResponse) (seen : Request Ctx) :
    Except ApiError ListTenantsResponse :=
  match Portal.requirePlatform (D := Unit) seen.ctx with
  | .ok () => .ok registry
  | .error _ => .error ⟨some 403⟩

/-- `GET /api/v1/portal/tenants` through the door. -/
def portalListTenants (wire : String → Option String) (g : Gate Ctx E) (v : DoorVisit Ctx)
    (registry : ListTenantsResponse) : ConsoleHeaders → Except ApiError ListTenantsResponse :=
  throughDoor wire g "/api/v1/portal/tenants" v (listTenantsHandler registry)

/-- The mount effect of `TenantSwitcher`, once its request is answered. -/
def registryEffect (userType : Option UserType)
    (listTenants : ConsoleHeaders → Except ApiError ListTenantsResponse) (s : LocalStorage) :
    LocalStorage :=
  if userType ≠ some .platform then s
  else
    match request listTenants s with
    | (.ok resp, s) =>
      let stored := s.readTenantChoice
      -- a stored tenant that is gone falls back to the cross view
      if stored ≠ "" ∧ ¬ (resp.tenants.any fun t => decide (t.tenantKey = stored)) then
        s.clearTenantChoice
      else s
    | (.error _, s) => s

/-- The door knows the registry. -/
structure KnowsRegistry (g : Gate Ctx E) (a : RequestActor) (registry : ListTenantsResponse)
    (v : DoorVisit Ctx) : Prop where
  actor : actorFromCtx v.ctx = some a
  registered : ∃ keys, (g.resolver.registrySet v.clock v.cache v.ctx).answer = .ok keys ∧
    keys.keys = registry.keys.keys

section Registry
variable {wire : String → Option String} {g : Gate Ctx E} {a : RequestActor}
  {registry : ListTenantsResponse} {s : LocalStorage} {v : DoorVisit Ctx}

theorem listTenantsHandler_platform {seen : Request Ctx} (ha : actorFromCtx seen.ctx = some a)
    (ht : a.userType = .platform) : listTenantsHandler registry seen = .ok registry := by
  simp [listTenantsHandler, Portal.requirePlatform, ha, ht]

/-- What `ListTenants` is answered, by the choice that reaches the gate. -/
theorem atDoor_listTenants (ht : a.userType = .platform) (hdoor : KnowsRegistry g a registry v)
    (value : String) :
    atDoor g "/api/v1/portal/tenants" v (listTenantsHandler registry) (some value) =
      if value = "" ∨ value ∈ registry.keys.keys then .ok registry
      else .error ⟨some 403⟩ := by
  obtain ⟨keys, hkeys, hregistry⟩ := hdoor.registered
  have hmethod : (consoleRequest "/api/v1/portal/tenants" v (some value)).method ≠ "OPTIONS" := by
    show "GET" ≠ "OPTIONS"
    decide
  by_cases hempty : value = ""
  · rw [if_pos (Or.inl hempty), atDoor, wrap_crossView hmethod hdoor.actor ht (by simp [hempty])]
    exact listTenantsHandler_platform hdoor.actor ht
  · have hne : (consoleRequest "/api/v1/portal/tenants" v (some value)).header.get
        headerTenantChoice ≠ "" := by rwa [choice_consoleRequest]
    rw [atDoor, wrap_drillDown hmethod hdoor.actor ht hkeys hne, choice_consoleRequest, hregistry]
    by_cases hmem : value ∈ registry.keys.keys
    · rw [if_pos (Or.inr hmem), Option.getD_some, if_pos hmem]
      exact listTenantsHandler_platform ((actor_withTrustedTenant _ _).trans hdoor.actor) ht
    · rw [if_neg (not_or.mpr ⟨hempty, hmem⟩), Option.getD_some, if_neg hmem]

/-- An answered check drops a stale choice. -/
theorem registryEffect_ok {listTenants : ConsoleHeaders → Except ApiError ListTenantsResponse}
    (h : listTenants (requestInterceptor s) = .ok registry) (hne : s.readTenantChoice ≠ "")
    (hstale : ∀ t ∈ registry.tenants, t.tenantKey ≠ s.readTenantChoice) :
    registryEffect (some .platform) listTenants s = s.clearTenantChoice := by
  have hgone : ¬ registry.tenants.any fun t => decide (t.tenantKey = s.readTenantChoice) := by
    simpa using hstale
  simp only [registryEffect, request_ok h]
  rw [if_neg (by simp), if_pos ⟨hne, hgone⟩]

/-- A refused one leaves it. -/
theorem registryEffect_error
    {listTenants : ConsoleHeaders → Except ApiError ListTenantsResponse} {e : ApiError}
    (h : listTenants (requestInterceptor s) = .error e) (hstatus : e.status ≠ some 401) :
    registryEffect (some .platform) listTenants s = s := by
  simp [registryEffect, request_error h hstatus]

/-- **When a stale drill-down heals.**  The check's own request carries the stale choice, so
it gets an answer only if what reaches the gate is another value: none at all, or a
registered tenant. -/
theorem registryEffect_heals_iff (ht : a.userType = .platform)
    (hdoor : KnowsRegistry g a registry v) (hne : s.readTenantChoice ≠ "")
    (hstale : ∀ t ∈ registry.tenants, t.tenantKey ≠ s.readTenantChoice) :
    (registryEffect (some .platform) (portalListTenants wire g v registry) s).readTenantChoice =
        "" ↔
      ∃ value, wire s.readTenantChoice = some value ∧
        (value = "" ∨ value ∈ registry.keys.keys) := by
  have hsent : portalListTenants wire g v registry (requestInterceptor s) =
      match wire s.readTenantChoice with
      | none => .error ⟨none⟩
      | some value => if value = "" ∨ value ∈ registry.keys.keys then .ok registry
        else .error ⟨some 403⟩ := by
    rw [portalListTenants, throughDoor, tenantChoice_requestInterceptor, if_neg hne]
    simp only [atDoor_listTenants ht hdoor]
  cases hwire : wire s.readTenantChoice with
  | none =>
    rw [hwire] at hsent
    rw [registryEffect_error hsent (by decide)]
    simp [hne]
  | some value =>
    rw [hwire] at hsent
    by_cases hcrosses : value = "" ∨ value ∈ registry.keys.keys
    · simp only [if_pos hcrosses] at hsent
      rw [registryEffect_ok hsent hne hstale]
      simp [hcrosses]
    · simp only [if_neg hcrosses] at hsent
      rw [registryEffect_error hsent (by decide)]
      simp [hne, hcrosses]

end Registry
end Door

/-! ## Concrete sessions -/

/-- A request that finds an empty cache. -/
def coldVisit (a : RequestActor) : DoorVisit PlainContext where
  clock := ⟨0, 0⟩
  cache := .empty
  ctx := { actor := some a }
  header := fun _ => none

/-- The one tenant that is left. -/
def oneTenant : ListTenantsResponse := ⟨[⟨"ten_alpha"⟩]⟩

/-- A gate over a portal that knows one tenant and two bindings. -/
def oneTenantGate : Gate PlainContext String :=
  ⟨newResolver ⟨fun _ => .ok ⟨[⟨"ten_alpha"⟩, ⟨"ten_beta"⟩]⟩, fun _ => .ok oneTenant⟩⟩

/-- An admin whose stored tenant is gone comes out with the first of two bindings. -/
theorem bootstrap_agrees_stale :
    ∃ key, BootstrapAgrees oneTenantGate ⟨42, .tenantAdmin⟩ [⟨"ten_alpha"⟩, ⟨"ten_beta"⟩]
      ⟨some "token", some ⟨some .tenantAdmin⟩, some "ten_gone"⟩
      (getInitialState
        (portalWhoAmI some oneTenantGate (coldVisit ⟨42, .tenantAdmin⟩)
          ⟨[⟨"ten_alpha"⟩, ⟨"ten_beta"⟩]⟩)
        (portalWhoAmI some oneTenantGate (coldVisit ⟨42, .tenantAdmin⟩)
          ⟨[⟨"ten_alpha"⟩, ⟨"ten_beta"⟩]⟩)
        ⟨some "token", some ⟨some .tenantAdmin⟩, some "ten_gone"⟩) key :=
  bootstrap_agrees some oneTenantGate ⟨42, .tenantAdmin⟩ _ _ _ _ ⟨some .tenantAdmin⟩ "token" rfl
    ⟨rfl, WhoAmIResponse.keys ⟨[⟨"ten_alpha"⟩, ⟨"ten_beta"⟩]⟩, rfl, rfl⟩
    ⟨rfl, WhoAmIResponse.keys ⟨[⟨"ten_alpha"⟩, ⟨"ten_beta"⟩]⟩, rfl, rfl⟩
    ⟨⟨"ten_alpha"⟩, by simp, by decide⟩ rfl rfl rfl (fun _ => rfl)

/-- A platform operator whose stored tenant was deleted. -/
def staleDrillDown : LocalStorage := ⟨some "token", some ⟨some .platform⟩, some "ten_gone"⟩

/-- A browser that trims the blank off one header value. -/
def trimmingWire (choice : String) : Option String :=
  if choice = " ten_alpha" then some "ten_alpha" else some choice

/-- A choice with a blank is in no registry, and what reaches the gate of it is. -/
theorem registryEffect_heals_iff_trimmed :
    (registryEffect (some .platform)
        (portalListTenants trimmingWire oneTenantGate (coldVisit ⟨7, .platform⟩) oneTenant)
        { staleDrillDown with choice := some " ten_alpha" }).readTenantChoice = "" ↔
      ∃ value, trimmingWire " ten_alpha" = some value ∧
        (value = "" ∨ value ∈ oneTenant.keys.keys) :=
  registryEffect_heals_iff (a := ⟨7, .platform⟩) rfl ⟨rfl, oneTenant.keys, rfl, rfl⟩
    (by decide) (by decide)

/-- The choice reaches the gate as it is stored, the registry check is refused, and the
choice stays for the next request to be refused with. -/
theorem registryEffect_stays_stale :
    ¬ (registryEffect (some .platform)
        (portalListTenants some oneTenantGate (coldVisit ⟨7, .platform⟩) oneTenant)
        staleDrillDown).readTenantChoice = "" := by
  decide

end Testkit
