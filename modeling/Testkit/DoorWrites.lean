import Testkit.Gate
import Testkit.ResolverRuns
import Testkit.TenantWrites

/-! # From the door to the backends

A management write of the console passes the gate, which exchanges its actor and its choice
for a key while other requests are resolved beside it, then the hop to the gRPC server, which
carries the key over, and then the forward of its RPC, which clamps the tenant its body names.

`writes_confined` puts the three together: whatever the headers and the body of the request are,
and whatever the requests around it leave in the cache, a clamped write of a tenant admin
reaches a backend only for a tenant the portal has named to that very user, in an answer stored
within one window of the cache.
-/
namespace Testkit
open LabelledRuns ReadThrough BackendCalls

section Door
variable {Ctx MD E D M ι : Type} [MetadataMap MD] [RequestContext Ctx MD] [DecidableEq ι]

/-- The `Resolve` call of a request. -/
def Request.query (req : Request Ctx) : ResolveQuery :=
  ⟨actorFromCtx req.ctx, req.header.get headerTenantChoice⟩

/-- What `Wrap` answers once the `Resolve` of its request has returned. -/
def replyAfter (req : Request Ctx) : Except (ResolveError E) String → Reply Ctx
  | .ok key => .next (if key ≠ "" then withTrustedRequest (stripped req) key else stripped req)
  | .error (.portal _) => .error 503 "tenant gate unavailable"
  | .error .choiceRequired =>
    if req.header.get headerTenantChoice = "" ∧ isChoicelessRoute req.path then
      .next (stripped req)
    else .error 403 "forbidden"
  | .error _ => .error 403 "forbidden"

section Wrap
variable (g : Gate Ctx E) {req : Request Ctx} {a : RequestActor} (hm : req.method ≠ "OPTIONS")
  (ha : actorFromCtx req.ctx = some a)
  (hplane : a.userType = .tenantAdmin ∨ a.userType = .platform)
include hm ha hplane

/-- `Wrap` is a `Resolve` and what follows it, for the actors with a management plane. -/
theorem wrap_resolves (clock : Clock) (c : ResolverCache) : g.wrap clock c req =
    let resolved := g.resolver.resolve clock c req.ctx req.query.actor req.query.choice
    ⟨replyAfter req resolved.answer, resolved.cache, resolved.portalCalls⟩ := by
  unfold Gate.wrap Request.query
  simp only [hm, ha, hplane, if_true, if_false]
  cases (g.resolver.resolve clock c req.ctx (some a)
    (req.header.get headerTenantChoice)).answer with
  | ok key => rfl
  | error e => cases e <;> rfl

/-- `Wrap` on a request that nothing interleaves with is one `Resolve` of the machine. -/
theorem wrap_run {clock : Clock} (hle : clock.check ≤ clock.store) {s : Door E ι} {i : ι}
    (hidle : s.calls i = none) (hnow : s.now = clock.check) :
    ∃ h s' l t r, Run (DoorStep g.resolver.ttl) s h s' ∧ DoorStep g.resolver.ttl s' l t ∧
      outcome l = some (i, req.query, r) ∧ (g.wrap clock s.cache req).reply = replyAfter req r ∧
      (g.wrap clock s.cache req).cache = t.cache := by
  obtain ⟨h, s', l, t, hr, hs, hout, hcache, -⟩ :=
    resolve_run g.resolver hle req.ctx req.query hidle hnow
  refine ⟨h, s', l, t, _, hr, hs, hout, ?_, ?_⟩
  · rw [wrap_resolves g hm ha hplane]
  · rw [wrap_resolves g hm ha hplane, hcache]

end Wrap

/-- A request of user 7 without a choice, at a gate with nothing cached. -/
theorem wrap_run_default : ∃ (req : Request PlainContext) (h : DoorHistory String Nat)
    (s' : Door String Nat) (l : DoorEvent String Nat) (t : Door String Nat)
    (r : Except (ResolveError String) String),
    Run (DoorStep twoTenantGate.resolver.ttl) acmeDoor h s' ∧
      DoorStep twoTenantGate.resolver.ttl s' l t ∧ outcome l = some (0, req.query, r) ∧
      (twoTenantGate.wrap ⟨0, 0⟩ acmeDoor.cache req).reply = replyAfter req r ∧
      (twoTenantGate.wrap ⟨0, 0⟩ acmeDoor.cache req).cache = t.cache := by
  let req : Request PlainContext :=
    { method := "GET"
      path := "/api/v1/message/signatures"
      header := fun _ => none
      ctx := { actor := some ⟨7, .tenantAdmin⟩ } }
  have hm : req.method ≠ "OPTIONS" := by
    show "GET" ≠ "OPTIONS"
    decide
  have ha : actorFromCtx req.ctx = some ⟨7, .tenantAdmin⟩ := rfl
  have hle : (Clock.mk 0 0).check ≤ (Clock.mk 0 0).store := by decide
  have hidle : acmeDoor.calls 0 = none := rfl
  exact ⟨req, wrap_run twoTenantGate hm ha (Or.inl rfl) hle hidle rfl⟩

/-- The hop from the gateway to the gRPC handlers.  Transcoding turns the wire headers into
metadata, and the interceptors (`TrustedActorUnary`, `TrustedTenantKeyUnary`) lift the actor
and the tenant key from there into the handler's context. -/
structure Hop (Ctx : Type) [RequestContext Ctx MD] where
  handlerCtx : Request Ctx → Ctx
  actor : ∀ r, actorFromCtx (handlerCtx r) = actorFromCtx r.ctx
  bare : ∀ r, r.header wireTenantKeyHeader = none → tenantKeyFromCtx (handlerCtx r) = none
  carried : ∀ r k, k ≠ "" → r.header wireTenantKeyHeader = some [k] →
    tenantKeyFromCtx (handlerCtx r) = some k

/-- The backend calls of a write that comes to the door as `req`, when its `Resolve` has
returned `r`. -/
def writeBehindDoor (hop : Hop Ctx) (b : WriteBackends Ctx D M) (req : Request Ctx)
    (r : Except (ResolveError E) String) (w : TenantWrite M) : List (Ctx × String) :=
  match replyAfter req r with
  | .next seen => (w.serve b (hop.handlerCtx seen)).calls
  | .error _ _ => []

/-- The key was named in an answer of the portal to a `Resolve` for this user: one that was
stored, whenever it was given, within the last `ttl`, or the one the ending call brings home
itself. -/
def NamedRecently (ttl : Nat) (h : DoorHistory E ι) (s : Door E ι) (l : DoorEvent E ι)
    (userId : Int64) (k : String) : Prop :=
  (∃ rows storedAt, StoredAnswer h (.bindings userId) rows storedAt ∧ k ∈ rows ∧
    storedAt ≤ s.now ∧ s.now < storedAt + ttl) ∨
  ∃ i q rows, l = .store i q rows ∧ q.lookup = some (.bindings userId) ∧
    (∃ v, (v, .answer i q (.ok rows)) ∈ h) ∧ k ∈ rows

/-- What is known of a backend call made for a tenant admin. -/
structure Traced (ttl : Nat) (h : DoorHistory E ι) (s : Door E ι) (l : DoorEvent E ι)
    (req : Request Ctx) (a : RequestActor) (c : Ctx × String) : Prop where
  actor : actorFromCtx c.1 = some a
  planted : tenantKeyFromCtx c.1 = some c.2
  chosen : req.header.get headerTenantChoice ≠ "" → c.2 = req.header.get headerTenantChoice
  named : NamedRecently ttl h s l a.userId c.2

section Runs
variable {ttl : Nat} {s₀ s t : Door E ι} {h : DoorHistory E ι} {l : DoorEvent E ι} {i : ι}

/-- A key that a `Resolve` of a tenant admin returns. -/
theorem returned_recently (hfresh : Fresh s₀) (hr : Run (DoorStep ttl) s₀ h s)
    (hs : DoorStep ttl s l t) {q : ResolveQuery} {u : Int64} {k : String}
    (hlook : q.lookup = some (.bindings u)) (hout : outcome l = some (i, q, .ok k)) :
    NamedRecently ttl h s l u k := by
  rcases returned_key hs hout hlook with ⟨keys, rfl, -, hk⟩ | ⟨rows, rfl, hcall, hk⟩
  -- a hit was stored by some call for the same user, a miss brings its own answer home
  · obtain ⟨look, rows, storedAt, hlook', hstored, rfl, hle, hlt⟩ := hit_stored hfresh hr hs
    obtain rfl : look = .bindings u := Option.some.inj (hlook'.symm.trans hlook)
    exact Or.inl ⟨rows, storedAt, hstored, (TenantKeys.mem_ofRows.mp hk).1, hle, hlt⟩
  · exact Or.inr ⟨i, q, rows, rfl, hlook, (call_answered hfresh.calls hr).2 rows hcall,
      (TenantKeys.mem_ofRows.mp hk).1⟩

omit [DecidableEq ι] in
/-- A tenant admin's choice is kept. -/
theorem decide_chosen {q : ResolveQuery} {u : Int64} (hlook : q.lookup = some (.bindings u))
    {keys : TenantKeys} {k : String} (hdec : q.decide (E := E) keys = .ok k)
    (hne : q.choice ≠ "") : k = q.choice := by
  rw [ResolveQuery.decide, hlook] at hdec
  exact (boundChoice_ok hdec).2.2 hne

/-- The keys a `Resolve` ends with: those of an entry, or those of its own answer. -/
def LookedUp (l : DoorEvent E ι) (keys : List String) : Prop :=
  (∃ i q entry, l = .hit i q entry ∧ entry.keys = keys) ∨
    ∃ i q rows, l = .store i q rows ∧ rows.filter (· ≠ "") = keys

theorem returned_decided (hs : DoorStep ttl s l t) {q : ResolveQuery} {u : Int64} {k : String}
    (hlook : q.lookup = some (.bindings u)) (hout : outcome l = some (i, q, .ok k)) :
    ∃ keys, LookedUp l keys.keys ∧ q.decide (E := E) keys = .ok k := by
  rcases returned_key hs hout hlook with ⟨keys, rfl, -⟩ | ⟨rows, rfl, -⟩
  · exact ⟨keys, Or.inl ⟨i, q, keys, rfl, rfl⟩,
      (Prod.mk.inj (Prod.mk.inj (Option.some.inj hout)).2).2⟩
  · exact ⟨.ofRows rows, Or.inr ⟨i, q, rows, rfl, rfl⟩,
      (Prod.mk.inj (Prod.mk.inj (Option.some.inj hout)).2).2⟩

/-- A key that a `Resolve` of a tenant admin returns was chosen, if any was. -/
theorem returned_chosen (hs : DoorStep ttl s l t) {q : ResolveQuery} {u : Int64} {k : String}
    (hlook : q.lookup = some (.bindings u)) (hout : outcome l = some (i, q, .ok k))
    (hne : q.choice ≠ "") : k = q.choice := by
  obtain ⟨keys, -, hdec⟩ := returned_decided hs hlook hout
  exact decide_chosen hlook hdec hne

/-- One that was not chosen is the only one there is. -/
theorem returned_default (hs : DoorStep ttl s l t) {q : ResolveQuery} {u : Int64} {k : String}
    (hlook : q.lookup = some (.bindings u)) (hout : outcome l = some (i, q, .ok k))
    (hempty : q.choice = "") : LookedUp l [k] := by
  obtain ⟨keys, hlooked, hdec⟩ := returned_decided hs hlook hout
  rw [ResolveQuery.decide, hlook] at hdec
  exact boundChoice_default (hempty ▸ hdec) ▸ hlooked

omit [DecidableEq ι] in
/-- A `Resolve` ends with one list of keys. -/
theorem lookedUp_unique {ks ks' : List String} (h : LookedUp l ks) (h' : LookedUp l ks') :
    ks = ks' := by
  rcases h with ⟨i, q, entry, rfl, rfl⟩ | ⟨i, q, rows, rfl, rfl⟩ <;>
    rcases h' with ⟨i', q', entry', heq, rfl⟩ | ⟨i', q', rows', heq, rfl⟩ <;> cases heq <;> rfl

/-- **A clamped write behind the door**: a tenant admin's goes out for the key their `Resolve`
returned, anybody else's for the key of the body. -/
theorem call_behindDoor {req : Request Ctx} {a : RequestActor}
    (ha : actorFromCtx req.ctx = some a) {r : Except (ResolveError E) String} (hop : Hop Ctx)
    (b : WriteBackends Ctx D M) {w : TenantWrite M} (hw : w.clamped.isSome) {c : Ctx × String}
    (hc : c ∈ writeBehindDoor hop b req r w) :
    actorFromCtx c.1 = some a ∧
      (a.userType = .tenantAdmin → tenantKeyFromCtx c.1 = some c.2 ∧ r = .ok c.2) ∧
      (a.userType ≠ .tenantAdmin → c.2 = w.tenantKey) := by
  obtain ⟨clamped, hclamped⟩ := Option.isSome_iff_exists.mp hw
  -- the call is made under the key the handler's context carries, or the body's
  have hcall : ∀ seen : Request Ctx, actorFromCtx seen.ctx = some a →
      c ∈ (w.serve b (hop.handlerCtx seen)).calls → c.1 = hop.handlerCtx seen ∧
        (a.userType = .tenantAdmin → tenantKeyFromCtx (hop.handlerCtx seen) = some c.2) ∧
        (a.userType ≠ .tenantAdmin → c.2 = w.tenantKey) := by
    intro seen hseen hin
    obtain ⟨hserve, hbody⟩ :=
      @serve_clamped Ctx MD D M _ _ b (hop.handlerCtx seen) w clamped hclamped
    rw [hserve] at hin
    obtain ⟨hctx, a', ha', hcase⟩ := serve_admitted hin
    obtain rfl : a' = a := Option.some.inj (ha'.symm.trans ((hop.actor seen).trans hseen))
    rcases hcase with ⟨hadmin, hkey, -⟩ | ⟨hnot, hkey⟩
    · exact ⟨hctx, fun _ => hkey, fun hnot => absurd hadmin hnot⟩
    · exact ⟨hctx, fun hadmin => absurd hadmin hnot, fun _ => hkey.trans hbody.symm⟩
  -- across without a key, a tenant admin is refused behind the door
  have hopen : c ∈ (w.serve b (hop.handlerCtx (stripped req))).calls →
      actorFromCtx c.1 = some a ∧
        (a.userType = .tenantAdmin → tenantKeyFromCtx c.1 = some c.2 ∧ r = .ok c.2) ∧
        (a.userType ≠ .tenantAdmin → c.2 = w.tenantKey) := by
    intro hin
    obtain ⟨hctx, hkey, hbody⟩ := hcall (stripped req) ha hin
    have hnot : a.userType ≠ .tenantAdmin := by
      intro hadmin
      have hnone := hop.bare (stripped req) (stripped_wireKey req)
      exact absurd (hnone.symm.trans (hkey hadmin)) (by simp)
    refine ⟨?_, fun hadmin => absurd hadmin hnot, hbody⟩
    rw [hctx, hop.actor]
    exact ha
  unfold writeBehindDoor at hc
  cases r with
  | error e =>
    cases e with
    | choiceRequired =>
      simp only [replyAfter] at hc
      split at hc
      · rename_i heq
        split at heq
        · cases heq
          exact hopen hc
        · cases heq
      · cases hc
    | noActor | userTypeDenied | choiceNotBound | choiceUnknownTenant | portal =>
      simp [replyAfter] at hc
  | ok key =>
    by_cases hkey : key = ""
    · simp only [replyAfter, hkey, ne_eq, not_true_eq_false, if_false] at hc
      exact hkey ▸ hopen hc
    · simp only [replyAfter, ne_eq, hkey, not_false_eq_true, if_true] at hc
      have hactor : actorFromCtx (withTrustedRequest (stripped req) key).ctx = some a :=
        (actor_withTrustedTenant _ _).trans ha
      obtain ⟨hctx, hplanted, hbody⟩ := hcall _ hactor hc
      have hcarried := hop.carried _ key hkey (planted_header req key).1
      refine ⟨by rw [hctx, hop.actor, hactor], fun hadmin => ?_, hbody⟩
      obtain rfl : key = c.2 := Option.some.inj (hcarried.symm.trans (hplanted hadmin))
      exact ⟨hctx ▸ hcarried, rfl⟩

/-- **A clamped write of a tenant admin is confined end to end**, in every interleaving of
`Resolve` calls. -/
theorem writes_confined (hfresh : Fresh s₀) (hr : Run (DoorStep ttl) s₀ h s)
    (hs : DoorStep ttl s l t) {req : Request Ctx} {a : RequestActor}
    (ha : actorFromCtx req.ctx = some a) (hadmin : a.userType = .tenantAdmin)
    {r : Except (ResolveError E) String} (hout : outcome l = some (i, req.query, r))
    (hop : Hop Ctx) (b : WriteBackends Ctx D M) {w : TenantWrite M} (hw : w.clamped.isSome) :
    ∀ c ∈ writeBehindDoor hop b req r w, Traced ttl h s l req a c := by
  intro c hc
  obtain ⟨hactor, hresolved, -⟩ := call_behindDoor ha hop b hw hc
  obtain ⟨hplanted, rfl⟩ := hresolved hadmin
  have hlook : req.query.lookup = some (.bindings a.userId) :=
    lookup_bindings_iff.mpr ⟨a, ha, hadmin, rfl⟩
  exact ⟨hactor, hplanted, returned_chosen hs hlook hout,
    returned_recently hfresh hr hs hlook hout⟩

end Runs
end Door

/-- The hop of a record context: the wire header is read back. -/
def plainHop : Hop PlainContext where
  handlerCtx r :=
    { actor := r.ctx.actor, tenantKey := (r.header wireTenantKeyHeader).bind List.head? }
  actor _ := rfl
  bare r h := by
    show (r.header wireTenantKeyHeader).bind List.head? = none
    rw [h]
    rfl
  carried r k _ h := by
    show (r.header wireTenantKeyHeader).bind List.head? = some k
    rw [h]
    rfl

/-- A signature that user 7 names for another tenant is registered for the chosen one. -/
theorem writes_confined_acme : ∃ (h : DoorHistory String Nat) (s : Door String Nat)
    (l : DoorEvent String Nat) (req : Request PlainContext) (c : PlainContext × String),
    c ∈ writeBehindDoor (E := String) plainHop stubWriteBackends req (.ok "acme")
      (.messageCreateSignature ⟨"ten_beta0000000", ()⟩) ∧
    Traced defaultTTL h s l req ⟨7, .tenantAdmin⟩ c := by
  let req : Request PlainContext :=
    { method := "POST"
      path := "/api/v1/message/signatures"
      header := fun name => if name = headerTenantChoice then some ["acme"] else none
      ctx := { actor := some ⟨7, .tenantAdmin⟩ } }
  have hlook : req.query.lookup = some (.bindings 7) := rfl
  obtain ⟨h, s, t, hr, hs, -⟩ :=
    alone_fetch defaultTTL 0 (s := acmeDoor) (i := 0) rfl hlook rfl ["acme"]
  refine ⟨h, s, .store 0 req.query ["acme"], req, _, List.mem_singleton_self _, ?_⟩
  exact writes_confined (r := .ok "acme") (w := .messageCreateSignature ⟨"ten_beta0000000", ()⟩)
    acmeDoor_fresh hr hs rfl rfl rfl plainHop stubWriteBackends rfl _ (List.mem_singleton_self _)

end Testkit
