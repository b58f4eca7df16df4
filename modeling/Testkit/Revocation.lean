import Testkit.ResolverRuns

/-! # Revocation at the resolver

The resolver promises that its cache bounds staleness by its TTL, so that a revoked
binding is gone one window later.  Here the portal is truthful: when it answers, it
answers with its bindings of that instant.

The promise is kept by every run that stores only answers which are still true when
they are stored (`returned_held`, `revocation_kept`).  The code does not see to that: the portal
call runs outside the lock and the entry is stamped with the clock of the store, so
an answer that a slow call brings home late is served for a full `ttl` more, and
overwrites a newer one.
-/
namespace Testkit
open LabelledRuns ReadThrough

variable {E ι : Type} [DecidableEq ι]

/-- The steps with a truthful portal. -/
abbrev TruthfulStep (ttl : Nat) : Door E ι → DoorEvent E ι → Door E ι → Prop :=
  Guarded (DoorStep ttl) (Truthful (resolverProtocol ttl))

/-- An answer for `look` that names `k` is stored only while `k` is still there. -/
def StoresCurrent (look : Lookup) (k : String) (s : Door E ι) (l : DoorEvent E ι) : Prop :=
  ∀ i q rows, l = .store i q rows → q.lookup = some look → k ∈ rows → k ∈ s.source look

/-- The states the run passed through, the last one included, and the portal's answers
in them are the instants of the run: between two of them only the clock moves. -/
def HeldWithin (ttl : Nat) (h : DoorHistory E ι) (s : Door E ι) (look : Lookup) (k : String) :
    Prop :=
  ∃ v, (v = s ∨ ∃ l, (v, l) ∈ h) ∧ k ∈ v.source look ∧ s.now - ttl ≤ v.now ∧ v.now ≤ s.now

/-- The `Resolve` returns `k` from its own answer, true at an instant of its portal call. -/
def OwnAnswer (h : DoorHistory E ι) (l : DoorEvent E ι) (i : ι) (q : ResolveQuery)
    (look : Lookup) (k : String) : Prop :=
  ∃ rows, l = .store i q rows ∧ k ∈ rows ∧ TrueDuring h i look rows

/-- **Convergence within one window.**  A key that a lookup makes a `Resolve` return was
at the portal at most `ttl` ago; a call's own answer counts from its return. -/
def Converges (E ι : Type) [DecidableEq ι] (ttl : Nat) : Prop :=
  ∀ (s₀ s t : Door E ι) h l i q look k, Fresh s₀ → Run (TruthfulStep ttl) s₀ h s →
    TruthfulStep ttl s l t → outcome l = some (i, q, .ok k) → q.lookup = some look →
      OwnAnswer h l i q look k ∨ HeldWithin ttl h s look k

/-- A `Resolve` of user `u` refuses the choice `k`, which the portal no longer has. -/
structure Denied (u : Int64) (k : String) (s : Door E ι) (l : DoorEvent E ι) : Prop where
  refused : ∃ i q, q.lookup = some (.bindings u) ∧ q.choice = k ∧
    outcome l = some (i, q, .error .choiceNotBound)
  unbound : k ∉ s.source (.bindings u)

/-- A `Resolve` of user `u`, begun after the history `h` started, returns `k`. -/
def ReturnsLate (u : Int64) (k : String) (h : DoorHistory E ι) (l : DoorEvent E ι) : Prop :=
  ∃ i q, q.lookup = some (.bindings u) ∧ outcome l = some (i, q, .ok k) ∧
    ((∃ keys, l = .hit i q keys) ∨ ∃ v q', (v, .miss i q') ∈ h)

/-- The truthful steps while `k` is not bound to `u`. -/
abbrev UnboundStep (ttl : Nat) (u : Int64) (k : String) :
    Door E ι → DoorEvent E ι → Door E ι → Prop :=
  Guarded (DoorStep ttl) fun s l =>
    Truthful (resolverProtocol ttl) s l ∧ k ∉ s.source (.bindings u)

/-- **An enforced revocation stays enforced.**  Once a `Resolve` has refused a revoked
key that never comes back, none that starts later returns it. -/
def Enforced (E ι : Type) [DecidableEq ι] (ttl : Nat) : Prop :=
  ∀ (s₀ s s' t t' : Door E ι) h l h' l' u k, Fresh s₀ → Run (TruthfulStep ttl) s₀ h s →
    TruthfulStep ttl s l s' → Denied u k s l → Run (UnboundStep ttl u k) s' h' t →
      UnboundStep ttl u k t l' t' → ¬ ReturnsLate u k h' l'

omit [DecidableEq ι] in
/-- Only a store can fail to be current. -/
theorem storesCurrent_of_ne {look : Lookup} {k : String} {s : Door E ι} {l : DoorEvent E ι}
    (hl : ∀ i q rows, l ≠ .store i q rows) : StoresCurrent look k s l :=
  fun i q rows heq => absurd heq (hl i q rows)

/-! ## Stored answers that are no longer true -/

section Stale
variable {ttl : Nat} {s₀ s t : Door E ι} {h : DoorHistory E ι}

/-- The `Resolve` that asks for `k` from `look`. -/
def ResolveQuery.askFor : Lookup → String → ResolveQuery
  | .bindings u, k => ⟨some ⟨u, .tenantAdmin⟩, k⟩
  | .registry, k => ⟨some ⟨0, .platform⟩, k⟩

theorem askFor_lookup (look : Lookup) {k : String} (hk : k ≠ "") :
    (ResolveQuery.askFor look k).lookup = some look := by
  cases look with
  | bindings u => rfl
  | registry => simp [ResolveQuery.askFor, ResolveQuery.lookup, hk]

theorem askFor_decide {look : Lookup} {k : String} {keys : TenantKeys} (hk : k ∈ keys.keys) :
    (ResolveQuery.askFor look k).decide (E := E) keys = .ok k := by
  have hne : k ≠ "" := keys.nonempty k hk
  rw [ResolveQuery.decide, askFor_lookup look hne]
  cases look with
  | bindings u =>
    show boundChoice keys k = .ok k
    rw [boundChoice, if_neg hne, if_pos ((containsKey_iff _ _).mpr hk)]
  | registry =>
    show registeredChoice (Decidable.decide (k ∈ keys.keys)) k = .ok k
    simp [registeredChoice, hk]

/-- **Whatever a store brings in is returned for `ttl` after it**, true or not. -/
theorem store_returned {i : ι} {q : ResolveQuery} {rows : List String} {look : Lookup}
    {k : String} (hs : DoorStep ttl s (.store i q rows) t) (hlook : q.lookup = some look)
    (hk : k ∈ rows) (hne : k ≠ "") {d : Nat} (hd : d < ttl) :
    TruthfulStep ttl { t with now := t.now + d }
      (.hit i (.askFor look k) (.ofRows rows)) { t with now := t.now + d } ∧
    outcome (E := E) (.hit i (.askFor look k) (.ofRows rows)) =
      some (i, .askFor look k, .ok k) := by
  have hkeys : k ∈ (TenantKeys.ofRows rows).keys := TenantKeys.mem_ofRows.mpr ⟨hk, hne⟩
  have hidle : t.calls i = none := by
    cases hs with
    | store => exact Function.update_self ..
  have hhit : DoorStep ttl { t with now := t.now + d } (.hit i (.askFor look k) (.ofRows rows))
      { t with now := t.now + d } :=
    .hit hidle (askFor_lookup look hne) (hs.store_served hlook hd)
  refine ⟨⟨truthful_of_ne (by simp), hhit⟩, ?_⟩
  rw [outcome, askFor_decide hkeys]

/-- **A late store outstays the window.**  An answer stored when its key has been gone
from the portal for more than a clock tick is still returned `ttl - 1` later. -/
theorem stale_store_outstays {i : ι} {q : ResolveQuery} {rows : List String} {look : Lookup}
    {k : String} (hr : Run (TruthfulStep ttl) s₀ h s)
    (hs : TruthfulStep ttl s (.store i q rows) t) (hlook : q.lookup = some look)
    (hk : k ∈ rows) (hne : k ≠ "") (httl : 0 < ttl)
    (hgone : ∀ v, (v = s ∨ ∃ l, (v, l) ∈ h) → s.now - 1 ≤ v.now → k ∉ v.source look) :
    ∃ h' s' t' i q keys, Run (TruthfulStep ttl) s₀ h' s' ∧
      TruthfulStep ttl s' (.hit i q keys) t' ∧ q.lookup = some look ∧
      outcome (E := E) (.hit i q keys) = some (i, q, .ok k) ∧ ¬ HeldWithin ttl h' s' look k := by
  have hsame : t.now = s.now ∧ t.source = s.source := by
    cases hs.2 with
    | store => exact ⟨rfl, rfl⟩
  have htick : TruthfulStep ttl t (.tick (ttl - 1)) { t with now := t.now + (ttl - 1 : Nat) } :=
    ⟨truthful_of_ne (by simp), Step.tick (ttl - 1)⟩
  obtain ⟨hhit, hout⟩ := store_returned hs.2 hlook hk hne (Nat.sub_lt httl Nat.one_pos)
  refine ⟨_, _, _, _, _, _, (hr.next hs).next htick, hhit, askFor_lookup look hne, hout, ?_⟩
  rintro ⟨v, hv, hheld, hrecent, -⟩
  -- every instant of the window lies after `k` was gone
  have hwindow : s.now - 1 ≤ v.now := by
    have hnow : t.now + ((ttl - 1 : Nat) : Int) - ttl ≤ v.now := hrecent
    omega
  have hsource : k ∉ s.source look := hgone s (Or.inl rfl) (by omega)
  rcases hv with rfl | ⟨l, hm⟩
  · exact hsource (hsame.2 ▸ hheld)
  rcases List.mem_cons.mp hm with heq | hm
  · obtain ⟨rfl, -⟩ := Prod.mk.inj heq
    exact hsource (hsame.2 ▸ hheld)
  rcases List.mem_cons.mp hm with heq | hm
  · obtain ⟨rfl, -⟩ := Prod.mk.inj heq
    exact hsource hheld
  · exact hgone v (Or.inr ⟨l, hm⟩) hwindow hheld

end Stale

/-! ## Convergence within one window -/

section Convergence
variable {ttl : Nat} {s₀ s t : Door E ι} {h : DoorHistory E ι} {l : DoorEvent E ι}

/-- **What is stored while true is returned within `ttl` of being true.** -/
theorem returned_held {look : Lookup} {k : String} (hfresh : Fresh s₀)
    (hr : Run (Guarded (TruthfulStep ttl) (StoresCurrent look k)) s₀ h s)
    (hs : TruthfulStep ttl s l t) {i : ι} {q : ResolveQuery} (hlook : q.lookup = some look)
    (hout : outcome l = some (i, q, .ok k)) :
    OwnAnswer h l i q look k ∨ HeldWithin ttl h s look k := by
  rcases returned_key hs.2 hout hlook with ⟨keys, rfl, hhit, hk⟩ | ⟨rows, rfl, hcall, hk⟩
  · -- the entry was stored at `w`, when `k` was still there
    obtain ⟨w, j, q', rows, hm, hslot, rfl, hle, hlt⟩ :=
      hit_provenance (hfresh.entry look) hr.of_guarded.of_guarded hhit
    obtain ⟨-, -, -, hcur, -⟩ := hr.exists_step hm
    have hheld : k ∈ w.source look :=
      hcur j q' rows rfl hslot (TenantKeys.mem_ofRows.mp hk).1
    have hyoung : s.now < w.now + ttl := hlt
    refine Or.inr ⟨w, Or.inr ⟨_, hm⟩, hheld, ?_, hle⟩
    omega
  · -- its own answer
    refine Or.inl ⟨rows, rfl, (TenantKeys.mem_ofRows.mp hk).1, ?_⟩
    exact (call_true hfresh.calls hr.of_guarded hlook).2 rows hcall

/-- A `Resolve` of user 7 that stores `acme` while it is bound, and then one that is served
from that entry. -/
theorem returned_held_acme : ∃ h s,
    Run (Guarded (TruthfulStep defaultTTL) (StoresCurrent (.bindings 7) "acme")) acmeDoor h s ∧
      HeldWithin defaultTTL h s (.bindings 7) "acme" := by
  have hlook : acmeQuery.lookup = some (.bindings 7) := rfl
  have hstart : Run (Guarded (TruthfulStep defaultTTL) (StoresCurrent (.bindings 7) "acme"))
      acmeDoor [] acmeDoor := .start
  have hmissed := hstart.next ⟨storesCurrent_of_ne (by simp), truthful_of_ne (by simp),
    Step.miss (i := 0) (q := acmeQuery) (k := .bindings 7) rfl rfl rfl⟩
  have hanswered := hmissed.next ⟨storesCurrent_of_ne (by simp),
    truthful_answer (i := 0) (q := acmeQuery) (k := .bindings 7) rfl, Step.answer rfl⟩
  have hfetched := hanswered.next ⟨storesCurrent_of_ne (by simp), truthful_of_ne (by simp),
    Step.fetch (i := 0) (q := acmeQuery) (a := ["acme"]) rfl⟩
  simp only [Function.update_idem] at hfetched
  obtain ⟨t, hstore⟩ : ∃ t, DoorStep defaultTTL
      { acmeDoor with
        calls := Function.update acmeDoor.calls 0 (some ⟨acmeQuery, .fetched ["acme"]⟩) }
      (.store 0 acmeQuery ["acme"]) t := ⟨_, Step.store rfl hlook⟩
  have hcurrent : StoresCurrent (.bindings 7) "acme"
      { acmeDoor with
        calls := Function.update acmeDoor.calls 0 (some ⟨acmeQuery, .fetched ["acme"]⟩) }
      (.store 0 acmeQuery ["acme"]) := by
    intro _ _ _ _ _ _
    decide
  have hstored := hfetched.next ⟨hcurrent, truthful_of_ne (by simp), hstore⟩
  have hwaited := hstored.next ⟨storesCurrent_of_ne (by simp), truthful_of_ne (by simp),
    Step.tick 5⟩
  obtain ⟨hhit, hout⟩ := store_returned hstore hlook (List.mem_singleton_self "acme")
    (by decide) (d := 5) (by decide)
  refine ⟨_, _, hwaited, ?_⟩
  rcases returned_held acmeDoor_fresh hwaited hhit rfl hout with ⟨rows, heq, -⟩ | hheld
  · cases heq
  · exact hheld

end Convergence

/-- The first `Resolve` of user 7 has its answer, and then the portal drops `acme`. -/
def acmeRevoked : Door String Nat :=
  ⟨.empty, 0, Function.update acmeDoor.source (.bindings 7) [],
    Function.update acmeDoor.calls 0 (some ⟨acmeQuery, .answered (.ok ["acme"])⟩)⟩

theorem acmeRevoked_unbound : "acme" ∉ acmeRevoked.source (.bindings 7) := by decide

/-- All of the run that leads there happens at the time 0. -/
theorem acmeRevoked_run : ∃ h, Run (TruthfulStep defaultTTL) acmeDoor h acmeRevoked ∧
    ∀ v l, (v, l) ∈ h → v.now = 0 := by
  have hstart : Run (TruthfulStep defaultTTL) acmeDoor [] acmeDoor := .start
  have hmissed := hstart.next ⟨truthful_of_ne (by simp),
    Step.miss (i := 0) (q := acmeQuery) (k := .bindings 7) rfl rfl rfl⟩
  have hanswered := hmissed.next ⟨truthful_answer (i := 0) (q := acmeQuery) (k := .bindings 7) rfl,
    Step.answer rfl⟩
  have hrevoked := hanswered.next ⟨truthful_of_ne (by simp), Step.change (.bindings 7) []⟩
  simp only [Function.update_idem] at hrevoked
  refine ⟨_, hrevoked, ?_⟩
  intro v l hm
  simp only [List.mem_cons, Prod.mk.injEq, List.not_mem_nil, or_false] at hm
  rcases hm with ⟨rfl, -⟩ | ⟨rfl, -⟩ | ⟨rfl, -⟩ <;> rfl

/-- The first `Resolve` comes home two seconds later. -/
def acmeSlow : Door String Nat :=
  { acmeRevoked with
    now := 0 + (2 * second : Nat)
    calls := Function.update acmeDoor.calls 0 (some ⟨acmeQuery, .fetched ["acme"]⟩) }

theorem acmeSlow_run : ∃ h, Run (TruthfulStep defaultTTL) acmeDoor h acmeSlow ∧
    ∀ v l, (v, l) ∈ h → v.now = 0 ∨ "acme" ∉ v.source (.bindings 7) := by
  obtain ⟨h, hrevoked, hpast⟩ := acmeRevoked_run
  have hslow := hrevoked.next ⟨truthful_of_ne (by simp), Step.tick (2 * second)⟩
  have hfetched := hslow.next ⟨truthful_of_ne (by simp),
    Step.fetch (i := 0) (q := acmeQuery) (a := ["acme"]) rfl⟩
  simp only [acmeRevoked, Function.update_idem] at hfetched
  refine ⟨_, hfetched, ?_⟩
  intro v l hm
  rcases List.mem_cons.mp hm with heq | hm
  · obtain ⟨rfl, -⟩ := Prod.mk.inj heq
    exact Or.inr acmeRevoked_unbound
  rcases List.mem_cons.mp hm with heq | hm
  · obtain ⟨rfl, -⟩ := Prod.mk.inj heq
    exact Or.inr acmeRevoked_unbound
  · exact Or.inl (hpast v l hm)

/-- The answer is stored two seconds after the revocation, and served until 32 seconds
after it. -/
theorem converges_slow : ¬ Converges String Nat defaultTTL := by
  intro hconv
  have hlook : acmeQuery.lookup = some (.bindings 7) := rfl
  obtain ⟨h, hslow, hpast⟩ := acmeSlow_run
  obtain ⟨t, hstore⟩ : ∃ t, TruthfulStep defaultTTL acmeSlow (.store 0 acmeQuery ["acme"]) t :=
    ⟨_, truthful_of_ne (by simp), Step.store rfl hlook⟩
  have hgone : ∀ v, (v = acmeSlow ∨ ∃ l, (v, l) ∈ h) → acmeSlow.now - 1 ≤ v.now →
      "acme" ∉ v.source (.bindings 7) := by
    rintro v (rfl | ⟨l, hm⟩) hnow
    · exact acmeRevoked_unbound
    · rcases hpast v l hm with hzero | hnot
      · rw [hzero] at hnow
        exact absurd hnow (by decide)
      · exact hnot
  obtain ⟨h', s, t, i, q, keys, hr, hs, hlook', hout, hnot⟩ :=
    stale_store_outstays hslow hstore hlook (List.mem_singleton_self "acme")
      (by decide) (by decide) hgone
  rcases hconv _ _ _ _ _ _ _ _ _ acmeDoor_fresh hr hs hout hlook' with ⟨rows, heq, -⟩ | hheld
  · cases heq
  · exact hnot hheld

/-! ## An enforced revocation -/

section Enforcement
variable {ttl : Nat} {s s' t t' : Door E ι} {h' : DoorHistory E ι} {l l' : DoorEvent E ι}

/-- After a refusal for `u` the entry of `u`, if any, lacks `k`. -/
theorem denied_excludes {u : Int64} {k : String} (hs : DoorStep ttl s l s')
    (hd : Denied u k s l) :
    Excludes (resolverProtocol ttl) (k ∈ ·.keys) (.bindings u) s' := by
  obtain ⟨i, q, hlook, rfl, hout⟩ := hd.refused
  have hnot : ∀ keys, q.decide (E := E) keys = .error .choiceNotBound →
      q.choice ∉ keys.keys := by
    intro keys hdec
    rw [ResolveQuery.decide, hlook] at hdec
    exact boundChoice_notBound hdec
  intro e he
  cases hs with
  | skip _ hslot =>
    simp only [outcome, Option.some.injEq, Prod.mk.injEq] at hout
    obtain ⟨-, rfl, -⟩ := hout
    exact absurd (hslot.symm.trans hlook) (by simp)
  | @hit _ _ look keys hidle hslot hhit =>
    simp only [outcome, Option.some.injEq, Prod.mk.injEq] at hout
    obtain ⟨rfl, rfl, hdec⟩ := hout
    obtain rfl : look = .bindings u := Option.some.inj (hslot.symm.trans hlook)
    obtain ⟨e', he', -, rfl⟩ := Store.lookup_eq_some.mp hhit
    obtain rfl : e' = e := Option.some.inj (he'.symm.trans he)
    exact hnot _ hdec
  | fail => simp [outcome] at hout
  | @store _ _ rows look hcall hslot =>
    simp only [outcome, Option.some.injEq, Prod.mk.injEq] at hout
    obtain ⟨rfl, rfl, hdec⟩ := hout
    obtain rfl : look = .bindings u := Option.some.inj (hslot.symm.trans hlook)
    rw [(resolverProtocol ttl).store.entry_put] at he
    cases he
    exact hnot _ hdec
  | _ => cases hout

/-- **A revocation that has been enforced stays enforced** in every run whose stores,
after the refusal, are current. -/
theorem revocation_kept {u : Int64} {k : String} (hs : TruthfulStep ttl s l s')
    (hd : Denied u k s l)
    (hr : Run (Guarded (UnboundStep ttl u k) (StoresCurrent (.bindings u) k)) s' h' t)
    (hs' : UnboundStep ttl u k t l' t') : ¬ ReturnsLate u k h' l' := by
  rintro ⟨i, q, hlook, hout, hlate⟩
  rcases returned_key hs'.2 hout hlook with ⟨keys, rfl, hhit, hk⟩ | ⟨rows, rfl, hcall, hk⟩
  · -- no store since the refusal has brought `k` back
    have hexcl : Excludes (resolverProtocol ttl) (k ∈ ·.keys) (.bindings u) t := by
      refine entry_excludes (denied_excludes hs.2 hd) (hr.mono ?_)
      rintro v m w ⟨hcur, ⟨-, hgone⟩, hstep⟩
      refine ⟨?_, hstep⟩
      rintro j q' rows rfl hslot hmem
      exact hgone (hcur j q' rows rfl hslot (TenantKeys.mem_ofRows.mp hmem).1)
    obtain ⟨e, he, -, rfl⟩ := Store.lookup_eq_some.mp hhit
    exact hexcl e he hk
  · -- its own answer, which the portal gave after the refusal
    have hmiss : ∃ v q', (v, .miss i q') ∈ h' := by
      rcases hlate with ⟨keys, heq⟩ | hmiss
      · cases heq
      · exact hmiss
    have hlacks : Run (Guarded (DoorStep ttl) fun s l => Truthful (resolverProtocol ttl) s l ∧
        ¬ k ∈ ((resolverProtocol ttl).decode (s.source (.bindings u))).keys) s' h' t := by
      refine hr.of_guarded.mono ?_
      rintro v m w ⟨⟨htrue, hgone⟩, hstep⟩
      exact ⟨⟨htrue, fun hmem => hgone (TenantKeys.mem_ofRows.mp hmem).1⟩, hstep⟩
    have hnot := (late_call_lacks (F := (k ∈ ·.keys)) hlacks hlook hmiss).2 rows hcall
    exact hnot hk

end Enforcement

/-- A second `Resolve` has been answered after the revocation. -/
def acmeAsked : Door String Nat :=
  { acmeRevoked with
    calls := Function.update acmeRevoked.calls 1 (some ⟨acmeQuery, .fetched []⟩) }

/-- It has stored that nothing is bound, and refused `acme`. -/
def acmeRefused : Door String Nat :=
  { acmeRevoked with
    cache := resolverStore.put .empty (.bindings 7) ⟨.ofRows [], 0 + defaultTTL⟩
    calls := Function.update acmeAsked.calls 1 none }

theorem acmeRefused_denied : Denied 7 "acme" acmeAsked (.store 1 acmeQuery []) :=
  ⟨⟨1, acmeQuery, rfl, rfl, rfl⟩, acmeRevoked_unbound⟩

theorem acmeRefused_step :
    TruthfulStep defaultTTL acmeAsked (.store 1 acmeQuery []) acmeRefused :=
  ⟨truthful_of_ne (by simp), Step.store rfl rfl⟩

/-- One second later the refusal stands. -/
theorem revocation_kept_acme : ∃ h t, Run (UnboundStep defaultTTL 7 "acme") acmeRefused h t ∧
    ¬ ReturnsLate 7 "acme" h (.hit 2 acmeQuery (.ofRows [])) := by
  have hstart : Run (Guarded (UnboundStep defaultTTL 7 "acme") (StoresCurrent (.bindings 7) "acme"))
      acmeRefused [] acmeRefused := .start
  have hwaited := hstart.next ⟨storesCurrent_of_ne (by simp),
    ⟨truthful_of_ne (by simp), acmeRevoked_unbound⟩, Step.tick second⟩
  have hhit := Step.hit (P := resolverProtocol defaultTTL) (E := String) (ι := Nat)
    (s := { acmeRefused with now := 0 + (second : Nat) }) (i := 2) (q := acmeQuery)
    (k := .bindings 7) (v := .ofRows []) rfl rfl rfl
  exact ⟨_, _, hwaited.of_guarded, revocation_kept acmeRefused_step acmeRefused_denied hwaited
    ⟨⟨truthful_of_ne (by simp), acmeRevoked_unbound⟩, hhit⟩⟩

/-- The first `Resolve` has come home, 31 seconds after the refusal. -/
def acmeLate : Door String Nat :=
  { acmeRefused with
    now := 0 + (31 * second : Nat)
    calls := Function.update acmeRefused.calls 0 (some ⟨acmeQuery, .fetched ["acme"]⟩) }

/-- Its store brings `acme` back. -/
theorem enforced_slow : ¬ Enforced String Nat defaultTTL := by
  intro henf
  have hlook : acmeQuery.lookup = some (.bindings 7) := rfl
  obtain ⟨h, hrevoked, -⟩ := acmeRevoked_run
  have hmissed := hrevoked.next ⟨truthful_of_ne (by simp),
    Step.miss (i := 1) (q := acmeQuery) (k := .bindings 7) rfl rfl rfl⟩
  have hanswered := hmissed.next ⟨truthful_answer (i := 1) (q := acmeQuery) (k := .bindings 7) rfl,
    Step.answer rfl⟩
  have hasked := hanswered.next ⟨truthful_of_ne (by simp),
    Step.fetch (i := 1) (q := acmeQuery) (a := []) rfl⟩
  simp only [Function.update_idem] at hasked
  -- from here on nothing is bound to user 7
  have hunbound : Run (UnboundStep defaultTTL 7 "acme") acmeRefused [] acmeRefused := .start
  have hslow := hunbound.next ⟨⟨truthful_of_ne (by simp), acmeRevoked_unbound⟩,
    Step.tick (31 * second)⟩
  have hlate : Run (UnboundStep defaultTTL 7 "acme") acmeRefused _ acmeLate :=
    hslow.next ⟨⟨truthful_of_ne (by simp), acmeRevoked_unbound⟩,
      Step.fetch (i := 0) (q := acmeQuery) (a := ["acme"]) rfl⟩
  obtain ⟨t, hstore⟩ : ∃ t, DoorStep defaultTTL acmeLate (.store 0 acmeQuery ["acme"]) t :=
    ⟨_, Step.store rfl hlook⟩
  have hsource : t.source = acmeLate.source := by
    cases hstore
    rfl
  have hstill : "acme" ∉ t.source (.bindings 7) := by
    rw [hsource]
    exact acmeRevoked_unbound
  have hback := hlate.next ⟨⟨truthful_of_ne (by simp), acmeRevoked_unbound⟩, hstore⟩
  have hend := hback.next ⟨⟨truthful_of_ne (by simp), hstill⟩, Step.tick 0⟩
  obtain ⟨hhit, hout⟩ := store_returned hstore hlook (List.mem_singleton_self "acme")
    (by decide) (d := 0) (by decide)
  exact henf _ _ _ _ _ _ _ _ _ 7 "acme" acmeDoor_fresh hasked acmeRefused_step
    acmeRefused_denied hend ⟨⟨hhit.1, hstill⟩, hhit.2⟩
    ⟨0, .askFor (.bindings 7) "acme", rfl, hout, Or.inl ⟨_, rfl⟩⟩

end Testkit
