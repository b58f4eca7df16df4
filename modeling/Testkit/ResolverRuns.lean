import Testkit.ResolverMachine

/-! # Provenance and isolation of the resolver's cache

What the cache holds after any interleaving of `Resolve` calls, and what a step from
there can return: an entry is one portal answer, given to a call made for the very
user it is kept under, and a failed portal call leaves no trace.
-/
namespace Testkit
open LabelledRuns ReadThrough

variable {E ι : Type} [DecidableEq ι]

theorem lookup_bindings_iff {q : ResolveQuery} {u : Int64} :
    q.lookup = some (.bindings u) ↔
      ∃ a, q.actor = some a ∧ a.userType = .tenantAdmin ∧ a.userId = u := by
  unfold ResolveQuery.lookup
  cases q.actor with
  | none => simp
  | some a => cases ht : a.userType <;> simp [ht]

/-- `rows` is a successful portal answer, given to a call for `look`, which that call
stored at `storedAt`. -/
def StoredAnswer (h : DoorHistory E ι) (look : Lookup) (rows : List String) (storedAt : Int) :
    Prop :=
  ∃ i q, q.lookup = some look ∧ (∃ v, (v, .answer i q (.ok rows)) ∈ h) ∧
    ∃ w, (w, .store i q rows) ∈ h ∧ w.now = storedAt

/-- Where the entries of the cache come from. -/
structure CacheProvenance (ttl : Nat) (h : DoorHistory E ι) (s : Door E ι) : Prop where
  bindings : ∀ u b, s.cache.bindings u = some b → ∃ rows storedAt,
    StoredAnswer h (.bindings u) rows storedAt ∧
      b.keys.keys = rows.filter (· ≠ "") ∧ b.expiresAt = storedAt + ttl
  registry : ∀ keys, s.cache.registry.keys = some keys → ∃ rows storedAt,
    StoredAnswer h .registry rows storedAt ∧
      (∀ k, k ∈ keys.keys ↔ k ∈ rows ∧ k ≠ "") ∧ s.cache.registry.expiresAt = storedAt + ttl

/-- What a step after the history `h` can serve, fail and return. -/
structure StepIsolation (ttl : Nat) (h : DoorHistory E ι) (s : Door E ι) (l : DoorEvent E ι)
    (t : Door E ι) : Prop where
  /-- An entry is served only before its store time plus `ttl`. -/
  served : ∀ i q keys, l = .hit i q keys → ∃ look rows storedAt, q.lookup = some look ∧
    StoredAnswer h look rows storedAt ∧ keys = .ofRows rows ∧
      storedAt ≤ s.now ∧ s.now < storedAt + ttl
  /-- A failed portal call changes no entry, … -/
  unchanged : ∀ i q e, l = .answer i q (.error e) ∨ l = .fail i q e → t.cache = s.cache
  /-- … and its `Resolve` returns nothing but the failure. -/
  failed : ∀ i q e, s.calls i = some ⟨q, .answered (.error e)⟩ →
    ∀ q' r, outcome l = some (i, q', r) → q' = q ∧ r = .error (.portal e) ∧ t.cache = s.cache
  /-- A key a tenant admin obtains was named in an answer given for that user. -/
  obtained : ∀ i q a k, q.actor = some a → a.userType = .tenantAdmin →
    outcome l = some (i, q, .ok k) → ∃ v i' q' a' rows, (v, .answer i' q' (.ok rows)) ∈ h ∧
      q'.actor = some a' ∧ a'.userType = .tenantAdmin ∧ a'.userId = a.userId ∧ k ∈ rows
  /-- Without an actor, for another user type and for the cross-tenant view, a `Resolve`
  is a single step that asks nothing and changes nothing. -/
  direct : ∀ i q, l.call = some (i, q) →
    (q.actor = none ∨ ∃ a, q.actor = some a ∧ a.userType ≠ .tenantAdmin ∧
      (a.userType = .platform → q.choice = "")) → l = .skip i q ∧ t = s

section Provenance
variable {ttl : Nat} {s₀ s t : Door E ι} {h : DoorHistory E ι} {l : DoorEvent E ι}

/-- An entry of the cache is a stored answer. -/
theorem entry_stored (hfresh : Fresh s₀) (hr : Run (DoorStep ttl) s₀ h s) {look : Lookup}
    {e : Entry TenantKeys} (he : resolverStore.entry s.cache look = some e) :
    ∃ rows storedAt, StoredAnswer h look rows storedAt ∧ e = ⟨.ofRows rows, storedAt + ttl⟩ := by
  obtain ⟨w, i, q, rows, hstore, hslot, rfl⟩ := entry_provenance (hfresh.entry look) hr he
  obtain ⟨v, hanswer⟩ := store_answered hfresh.calls hr hstore
  exact ⟨rows, w.now, ⟨i, q, hslot, ⟨v, hanswer⟩, w, hstore, rfl⟩, rfl⟩

theorem cacheProvenance_of_run (hfresh : Fresh s₀) (hr : Run (DoorStep ttl) s₀ h s) :
    CacheProvenance ttl h s := by
  constructor
  · intro u b hb
    have he : resolverStore.entry s.cache (.bindings u) = some ⟨b.keys, b.expiresAt⟩ := by
      simp [resolverStore, hb]
    obtain ⟨rows, storedAt, hstored, heq⟩ := entry_stored hfresh hr he
    obtain ⟨hkeys, hexp⟩ := Entry.mk.inj heq
    exact ⟨rows, storedAt, hstored, by rw [hkeys]; rfl, hexp⟩
  · intro keys hkeys
    have he : resolverStore.entry s.cache .registry =
        some ⟨keys, s.cache.registry.expiresAt⟩ := by
      simp [resolverStore, hkeys]
    obtain ⟨rows, storedAt, hstored, heq⟩ := entry_stored hfresh hr he
    obtain ⟨rfl, hexp⟩ := Entry.mk.inj heq
    exact ⟨rows, storedAt, hstored, fun k => TenantKeys.mem_ofRows, hexp⟩

/-- A hit serves a stored answer younger than `ttl`. -/
theorem hit_stored (hfresh : Fresh s₀) (hr : Run (DoorStep ttl) s₀ h s) {i : ι}
    {q : ResolveQuery} {keys : TenantKeys} (hs : DoorStep ttl s (.hit i q keys) t) :
    ∃ look rows storedAt, q.lookup = some look ∧ StoredAnswer h look rows storedAt ∧
      keys = .ofRows rows ∧ storedAt ≤ s.now ∧ s.now < storedAt + ttl := by
  cases hs with
  | @hit _ _ look _ hidle hslot hlook =>
    obtain ⟨w, i', q', rows, hstore, hslot', hkeys, hle, hlt⟩ :=
      hit_provenance (hfresh.entry look) hr hlook
    obtain ⟨v, hanswer⟩ := store_answered hfresh.calls hr hstore
    exact ⟨look, rows, w.now, hslot, ⟨i', q', hslot', ⟨v, hanswer⟩, w, hstore, rfl⟩, hkeys,
      hle, hlt⟩

/-- The step that ends a call whose portal call has failed. -/
theorem failed_ends (hs : DoorStep ttl s l t) {i : ι} {q q' : ResolveQuery}
    {e : E} {r : Except (ResolveError E) String}
    (hc : s.calls i = some ⟨q, .answered (.error e)⟩) (hout : outcome l = some (i, q', r)) :
    q' = q ∧ r = .error (.portal e) ∧ t.cache = s.cache := by
  cases hs with
  | skip hidle | hit hidle =>
    cases hout
    rw [hidle] at hc
    cases hc
  | fail hcall =>
    cases hout
    rw [hcall] at hc
    cases hc
    exact ⟨rfl, rfl, rfl⟩
  | store hcall =>
    cases hout
    rw [hcall] at hc
    cases hc
  | _ => cases hout

/-- **A key a lookup yields was named in an answer given for that lookup.** -/
theorem obtained_answered (hfresh : Fresh s₀) (hr : Run (DoorStep ttl) s₀ h s)
    (hs : DoorStep ttl s l t) {i : ι} {q : ResolveQuery} {look : Lookup} {k : String}
    (hlook : q.lookup = some look) (hout : outcome l = some (i, q, .ok k)) :
    ∃ v i' q' rows, (v, .answer i' q' (.ok rows)) ∈ h ∧ q'.lookup = some look ∧ k ∈ rows := by
  rcases returned_key hs hout hlook with ⟨keys, rfl, -, hk⟩ | ⟨rows, rfl, hcall, hk⟩
  · obtain ⟨look', rows, -, hlook', ⟨i', q', hslot', ⟨v, hanswer⟩, -⟩, rfl, -⟩ :=
      hit_stored hfresh hr hs
    obtain rfl : look' = look := Option.some.inj (hlook'.symm.trans hlook)
    exact ⟨v, i', q', rows, hanswer, hslot', (TenantKeys.mem_ofRows.mp hk).1⟩
  · obtain ⟨v, hanswer⟩ := (call_answered hfresh.calls hr).2 rows hcall
    exact ⟨v, i, q, rows, hanswer, hlook, (TenantKeys.mem_ofRows.mp hk).1⟩

theorem stepIsolation_of_run (hfresh : Fresh s₀) (hr : Run (DoorStep ttl) s₀ h s)
    (hs : DoorStep ttl s l t) : StepIsolation ttl h s l t where
  served := by
    rintro i q keys rfl
    exact hit_stored hfresh hr hs
  unchanged := by
    rintro i q e (rfl | rfl) <;> cases hs <;> rfl
  failed i q e hc q' r hout := failed_ends hs hc hout
  obtained := by
    intro i q a k hactor hta hout
    have hlook := lookup_bindings_iff.mpr ⟨a, hactor, hta, rfl⟩
    obtain ⟨v, i', q', rows, hanswer, hlook', hk⟩ := obtained_answered hfresh hr hs hlook hout
    obtain ⟨a', hactor', hta', hid⟩ := lookup_bindings_iff.mp hlook'
    exact ⟨v, i', q', a', rows, hanswer, hactor', hta', hid, hk⟩
  direct i q hcall hcase :=
    slotless_step hfresh.calls hr hs hcall ((lookup_eq_none_iff q).mpr hcase)

/-- **Provenance and isolation in every run.**  However any number of `Resolve` calls
interleave, and whatever the portal answers or fails, the cache holds only stored
answers under the user they were given for, and every next step keeps to them. -/
theorem resolve_provenance (hfresh : Fresh s₀) (hr : Run (DoorStep ttl) s₀ h s) :
    CacheProvenance ttl h s ∧ ∀ l t, DoorStep ttl s l t → StepIsolation ttl h s l t :=
  ⟨cacheProvenance_of_run hfresh hr, fun _ _ hs => stepIsolation_of_run hfresh hr hs⟩

end Provenance

/-! A new resolver in front of a portal that binds user 7 to `acme`. -/

def acmeDoor : Door String Nat :=
  ⟨.empty, 0, fun look => if look = .bindings 7 then ["acme"] else [], fun _ => none⟩

/-- User 7 asking for `acme`. -/
def acmeQuery : ResolveQuery := ⟨some ⟨7, .tenantAdmin⟩, "acme"⟩

theorem acmeDoor_fresh : Fresh acmeDoor := ⟨rfl, fun _ => rfl⟩

/-- After user 7's first `Resolve` the cache holds an entry for user 7. -/
theorem resolve_provenance_acme : ∃ (h : DoorHistory String Nat) (s : Door String Nat),
    s.cache.bindings 7 ≠ none ∧ CacheProvenance defaultTTL h s ∧
      ∀ l t, DoorStep defaultTTL s l t → StepIsolation defaultTTL h s l t := by
  have hidle : acmeDoor.calls 0 = none := rfl
  have hlook : acmeQuery.lookup = some (.bindings 7) := rfl
  obtain ⟨h, s, t, hr, hs, hcache, -⟩ :=
    alone_fetch defaultTTL 0 hidle hlook rfl ["acme", ""]
  refine ⟨_, t, ?_, resolve_provenance acmeDoor_fresh (hr.next hs)⟩
  rw [hcache]
  simp [resolverStore, ResolverCache.storeBindings]

end Testkit
