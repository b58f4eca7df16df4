import Mathlib.Logic.Function.Basic
import Testkit.LabelledRuns

/-! # A read-through cache with expiry, read by concurrent callers

Callers ask for values by key.  A caller first checks the cache under its lock; an
unexpired entry is served at once (`hit`).  Otherwise the caller asks a slow
source **outside** the lock (`miss`, then `answer`, the instant at which the source
evaluates the question, then `fetch`, the return of the call, or `fail`), and
last writes the decoded answer back under the lock, stamped with the clock of
that moment (`store`).  Between any two of these steps other callers may step,
the clock may advance and the source may change.

`Protocol` collects what an instance supplies: the cache as an entry map, the key
a question needs (if any), how an answer is decoded, and the time to live.  The
source's answer to a call is arbitrary here; `Truthful` are the steps at which
it answers with its state of that instant.

What every run keeps:

* an entry is the decoded answer of one store step, expiring `ttl` after it
  (`entry_provenance`), and that answer was given to the call that stored it
  (`store_answered`);
* a served value is younger than `ttl`, counted from its store (`hit_provenance`);
* a fact that no later store re-introduces never comes back (`entry_excludes`).
-/
namespace ReadThrough
open LabelledRuns

/-- A cached value and the first instant at which it is no longer served. -/
structure Entry (V : Type*) where
  value : V
  expiresAt : Int

/-- A cache: what it holds at a key, and what a write changes. -/
structure Store (S K V : Type*) where
  entry : S → K → Option (Entry V)
  put : S → K → Entry V → S
  entry_put : ∀ s k e, entry (put s k e) k = some e
  entry_put_of_ne : ∀ s k k' e, k' ≠ k → entry (put s k e) k' = entry s k'

/-- The cache check: the value at a key, if its entry has not expired. -/
def Store.lookup {S K V : Type*} (st : Store S K V) (s : S) (now : Int) (k : K) : Option V :=
  match st.entry s k with
  | some e => if now < e.expiresAt then some e.value else none
  | none => none

/-- What an instance supplies. -/
structure Protocol (S K V A Q : Type*) where
  store : Store S K V
  /-- The key a question has to be answered from; `none` when it needs none. -/
  slot : Q → Option K
  /-- What is cached of the source's answer. -/
  decode : A → V
  /-- How long an entry is served after its store. -/
  ttl : Nat

/-- How far a call that missed the cache has come. -/
inductive Phase (A E : Type*)
  | asking
  | answered (r : Except E A)
  | fetched (a : A)

/-- A call in flight. -/
structure Call (A E Q : Type*) where
  query : Q
  phase : Phase A E

/-- The shared cache, the clock, the source, and the calls in flight. -/
structure State (S K A E Q ι : Type*) where
  cache : S
  now : Int
  source : K → A
  calls : ι → Option (Call A E Q)

/-- The events of a run; `i` is the caller. -/
inductive Event (K V A E Q ι : Type*)
  | skip (i : ι) (q : Q)
  | hit (i : ι) (q : Q) (v : V)
  | miss (i : ι) (q : Q)
  | answer (i : ι) (q : Q) (r : Except E A)
  | fail (i : ι) (q : Q) (e : E)
  | fetch (i : ι) (q : Q) (a : A)
  | store (i : ι) (q : Q) (a : A)
  | tick (d : Nat)
  | change (k : K) (a : A)

/-- The call an event is a step of. -/
def Event.call {K V A E Q ι : Type*} : Event K V A E Q ι → Option (ι × Q)
  | .skip i q | .hit i q _ | .miss i q | .answer i q _ | .fail i q _ | .fetch i q _
  | .store i q _ => some (i, q)
  | .tick _ | .change _ _ => none

variable {S K V A E Q ι : Type*} [DecidableEq K] [DecidableEq ι]

/-- One step. -/
inductive Step (P : Protocol S K V A Q) :
    State S K A E Q ι → Event K V A E Q ι → State S K A E Q ι → Prop
  | skip {s : State S K A E Q ι} {i : ι} {q : Q} (hidle : s.calls i = none)
      (hslot : P.slot q = none) : Step P s (.skip i q) s
  | hit {s : State S K A E Q ι} {i : ι} {q : Q} {k : K} {v : V} (hidle : s.calls i = none)
      (hslot : P.slot q = some k) (hlook : P.store.lookup s.cache s.now k = some v) :
      Step P s (.hit i q v) s
  | miss {s : State S K A E Q ι} {i : ι} {q : Q} {k : K} (hidle : s.calls i = none)
      (hslot : P.slot q = some k) (hlook : P.store.lookup s.cache s.now k = none) :
      Step P s (.miss i q) { s with calls := Function.update s.calls i (some ⟨q, .asking⟩) }
  | answer {s : State S K A E Q ι} {i : ι} {q : Q} {r : Except E A}
      (hcall : s.calls i = some ⟨q, .asking⟩) :
      Step P s (.answer i q r)
        { s with calls := Function.update s.calls i (some ⟨q, .answered r⟩) }
  | fail {s : State S K A E Q ι} {i : ι} {q : Q} {e : E}
      (hcall : s.calls i = some ⟨q, .answered (.error e)⟩) :
      Step P s (.fail i q e) { s with calls := Function.update s.calls i none }
  | fetch {s : State S K A E Q ι} {i : ι} {q : Q} {a : A}
      (hcall : s.calls i = some ⟨q, .answered (.ok a)⟩) :
      Step P s (.fetch i q a)
        { s with calls := Function.update s.calls i (some ⟨q, .fetched a⟩) }
  | store {s : State S K A E Q ι} {i : ι} {q : Q} {a : A} {k : K}
      (hcall : s.calls i = some ⟨q, .fetched a⟩) (hslot : P.slot q = some k) :
      Step P s (.store i q a)
        { s with
          cache := P.store.put s.cache k ⟨P.decode a, s.now + P.ttl⟩
          calls := Function.update s.calls i none }
  | tick {s : State S K A E Q ι} (d : Nat) : Step P s (.tick d) { s with now := s.now + d }
  | change {s : State S K A E Q ι} (k : K) (a : A) :
      Step P s (.change k a) { s with source := Function.update s.source k a }

/-- The steps at which the source, when it answers, answers with its state of that
instant. -/
def Truthful (P : Protocol S K V A Q) (s : State S K A E Q ι) (l : Event K V A E Q ι) : Prop :=
  ∀ i q a k, l = .answer i q (.ok a) → P.slot q = some k → a = s.source k

variable {P : Protocol S K V A Q} {s t u : State S K A E Q ι} {l : Event K V A E Q ι}
  {h : List (State S K A E Q ι × Event K V A E Q ι)}

omit [DecidableEq K] [DecidableEq ι] in
/-- Only an answer can be untruthful. -/
theorem truthful_of_ne (hl : ∀ i q a, l ≠ .answer i q (.ok a)) : Truthful P s l :=
  fun i q a _ heq => absurd heq (hl i q a)

omit [DecidableEq K] [DecidableEq ι] in
theorem truthful_answer {i : ι} {q : Q} {k : K} (hslot : P.slot q = some k) :
    Truthful P s (.answer i q (.ok (s.source k))) := by
  intro j q' a k' heq hslot'
  cases heq
  rw [Option.some.inj (hslot.symm.trans hslot')]

/-! ## What one step can do -/

omit [DecidableEq K] [DecidableEq ι] in
/-- A served value is an entry that has not expired. -/
theorem Store.lookup_eq_some {st : Store S K V} {c : S} {now : Int} {k : K} {v : V} :
    st.lookup c now k = some v ↔ ∃ e, st.entry c k = some e ∧ now < e.expiresAt ∧ e.value = v := by
  unfold Store.lookup
  cases st.entry c k with
  | none => simp
  | some e => by_cases hlt : now < e.expiresAt <;> simp [hlt]

/-- **A step writes the entry of a key only by storing an answer to it.** -/
theorem Step.entry_cases (hs : Step P s l t) (k : K) :
    P.store.entry t.cache k = P.store.entry s.cache k ∨
    ∃ i q a, l = .store i q a ∧ P.slot q = some k ∧
      P.store.entry t.cache k = some ⟨P.decode a, s.now + P.ttl⟩ := by
  cases hs with
  | @store i q a k' hcall hslot =>
    by_cases hk : k = k'
    · subst hk
      exact Or.inr ⟨i, q, a, rfl, hslot, P.store.entry_put _ _ _⟩
    · exact Or.inl (P.store.entry_put_of_ne _ _ _ _ hk)
  | _ => exact Or.inl rfl

/-- Time does not run backwards. -/
theorem Step.now_le (hs : Step P s l t) : s.now ≤ t.now := by
  cases hs with
  | tick d => exact Int.le_add_of_nonneg_right (Int.natCast_nonneg d)
  | _ => exact Int.le_refl _

/-- **What a call in flight was doing before the step**: it was as it is now, or it
has just missed, been answered, or been fetched. -/
theorem Step.call_cases (hs : Step P s l t) {i : ι} {q : Q} {ph : Phase A E}
    (hc : t.calls i = some ⟨q, ph⟩) :
    s.calls i = some ⟨q, ph⟩ ∨ (l = .miss i q ∧ ph = .asking) ∨
    (∃ r, l = .answer i q r ∧ ph = .answered r) ∨
    (∃ a, l = .fetch i q a ∧ ph = .fetched a ∧ s.calls i = some ⟨q, .answered (.ok a)⟩) := by
  cases hs with
  | skip | hit | tick | change => exact Or.inl hc
  | @miss j q' k hidle hslot hlook =>
    by_cases hj : i = j
    · subst hj
      simp only [Function.update_self, Option.some.injEq, Call.mk.injEq] at hc
      obtain ⟨rfl, rfl⟩ := hc
      exact Or.inr (Or.inl ⟨rfl, rfl⟩)
    · exact Or.inl (by simpa [hj] using hc)
  | @answer j q' r hcall =>
    by_cases hj : i = j
    · subst hj
      simp only [Function.update_self, Option.some.injEq, Call.mk.injEq] at hc
      obtain ⟨rfl, rfl⟩ := hc
      exact Or.inr (Or.inr (Or.inl ⟨r, rfl, rfl⟩))
    · exact Or.inl (by simpa [hj] using hc)
  | @fetch j q' a hcall =>
    by_cases hj : i = j
    · subst hj
      simp only [Function.update_self, Option.some.injEq, Call.mk.injEq] at hc
      obtain ⟨rfl, rfl⟩ := hc
      exact Or.inr (Or.inr (Or.inr ⟨a, rfl, rfl, hcall⟩))
    · exact Or.inl (by simpa [hj] using hc)
  | @fail j q' e hcall | @store j q' a k hcall hslot =>
    have hj : i ≠ j := by
      rintro rfl
      simp at hc
    exact Or.inl (by simpa [hj] using hc)

/-- **A stored answer is served until it expires.** -/
theorem Step.store_served {i : ι} {q : Q} {a : A} {k : K} (hs : Step P s (.store i q a) t)
    (hslot : P.slot q = some k) {d : Nat} (hd : d < P.ttl) :
    P.store.lookup t.cache (t.now + d) k = some (P.decode a) := by
  cases hs with
  | @store _ _ _ k' hcall hslot' =>
    obtain rfl : k' = k := Option.some.inj (hslot'.symm.trans hslot)
    refine Store.lookup_eq_some.mpr ⟨_, P.store.entry_put _ _ _, ?_, rfl⟩
    show s.now + d < s.now + P.ttl
    omega

/-! ## What every run keeps -/

/-- Every earlier state has an earlier or equal clock. -/
theorem now_le_of_mem (hr : Run (Step P) s h t) {v : State S K A E Q ι}
    {l : Event K V A E Q ι} (hm : (v, l) ∈ h) : v.now ≤ t.now := by
  induction hr with
  | start => cases hm
  | next hr hs ih =>
    rcases List.mem_cons.mp hm with heq | hm
    · obtain ⟨rfl, rfl⟩ := Prod.mk.inj heq
      exact hs.now_le
    · exact Int.le_trans (ih hm) hs.now_le

/-- **Provenance of an entry.**  Started from a cache that holds nothing at `k`, an
entry at `k` is the decoded answer of one store step of the run, by a call for
`k`, and expires `ttl` after that step. -/
theorem entry_provenance {k : K} (hempty : P.store.entry s.cache k = none)
    (hr : Run (Step P) s h t) {e : Entry V} (he : P.store.entry t.cache k = some e) :
    ∃ v i q a, (v, .store i q a) ∈ h ∧ P.slot q = some k ∧
      e = ⟨P.decode a, v.now + P.ttl⟩ := by
  induction hr with
  | start => rw [hempty] at he; cases he
  | @next h t u l hr hs ih =>
    rcases hs.entry_cases k with hsame | ⟨i, q, a, rfl, hslot, hput⟩
    · obtain ⟨v, i, q, a, hm, hrest⟩ := ih (hsame ▸ he)
      exact ⟨v, i, q, a, List.mem_cons_of_mem _ hm, hrest⟩
    · rw [hput] at he
      exact ⟨t, i, q, a, List.mem_cons_self .., hslot, (Option.some.inj he).symm⟩

/-- A call in flight is one that needs a key. -/
theorem call_slot (hidle : ∀ i, s.calls i = none) (hr : Run (Step P) s h t) {i : ι} {q : Q}
    {ph : Phase A E} (hc : t.calls i = some ⟨q, ph⟩) : ∃ k, P.slot q = some k := by
  induction hr generalizing ph with
  | start => rw [hidle i] at hc; cases hc
  | next hr hs ih =>
    rcases hs.call_cases hc with hc | ⟨rfl, -⟩ | ⟨r, rfl, -⟩ | ⟨a, -, -, hc⟩
    · exact ih hc
    · cases hs with
      | miss _ hslot _ => exact ⟨_, hslot⟩
    · cases hs with
      | answer hcall => exact ih hcall
    · exact ih hc

/-- **A question that needs no key is answered on the spot**: no step of it asks the
source or touches the cache. -/
theorem slotless_step (hidle : ∀ i, s.calls i = none) (hr : Run (Step P) s h t)
    (hs : Step P t l u) {i : ι} {q : Q} (hcall : l.call = some (i, q)) (hslot : P.slot q = none) :
    l = .skip i q ∧ u = t := by
  have hbusy : ∀ {ph}, t.calls i ≠ some ⟨q, ph⟩ := by
    intro ph hc
    obtain ⟨k, hk⟩ := call_slot hidle hr hc
    rw [hslot] at hk
    cases hk
  cases hs with
  | tick | change => cases hcall
  | skip => cases hcall; exact ⟨rfl, rfl⟩
  | hit _ hk _ | miss _ hk _ => cases hcall; rw [hslot] at hk; cases hk
  | answer hc | fail hc | fetch hc | store hc _ => cases hcall; exact absurd hc hbusy

/-- A call in flight that has an answer was given it in this run. -/
theorem call_answered (hidle : ∀ i, s.calls i = none) (hr : Run (Step P) s h t) {i : ι} {q : Q} :
    (∀ r, t.calls i = some ⟨q, .answered r⟩ → ∃ v, (v, .answer i q r) ∈ h) ∧
    (∀ a, t.calls i = some ⟨q, .fetched a⟩ → ∃ v, (v, .answer i q (.ok a)) ∈ h) := by
  induction hr with
  | start => simp [hidle i]
  | @next h t u l hr hs ih =>
    constructor
    · intro r hc
      rcases hs.call_cases hc with hc | ⟨-, hph⟩ | ⟨r', rfl, hph⟩ | ⟨a, -, hph, -⟩
      · obtain ⟨v, hm⟩ := ih.1 r hc
        exact ⟨v, List.mem_cons_of_mem _ hm⟩
      · cases hph
      · cases hph
        exact ⟨t, List.mem_cons_self ..⟩
      · cases hph
    · intro a hc
      rcases hs.call_cases hc with hc | ⟨-, hph⟩ | ⟨r, -, hph⟩ | ⟨a', -, hph, hc⟩
      · obtain ⟨v, hm⟩ := ih.2 a hc
        exact ⟨v, List.mem_cons_of_mem _ hm⟩
      · cases hph
      · cases hph
      · cases hph
        obtain ⟨v, hm⟩ := ih.1 _ hc
        exact ⟨v, List.mem_cons_of_mem _ hm⟩

/-- The source had `a` at `k` when it answered the present call of `i`: no call of `i` has
begun since. -/
def TrueDuring (h : List (State S K A E Q ι × Event K V A E Q ι)) (i : ι) (k : K) (a : A) : Prop :=
  ∃ h₂ v q h₁, h = h₂ ++ (v, .answer i q (.ok a)) :: h₁ ∧ v.source k = a ∧
    ∀ w q', (w, .miss i q') ∉ h₂

omit [DecidableEq K] [DecidableEq ι] in
theorem TrueDuring.later {i : ι} {k : K} {a : A} (ht : TrueDuring h i k a)
    (hl : ∀ q, l ≠ .miss i q) : TrueDuring ((s, l) :: h) i k a := by
  obtain ⟨h₂, v, q, h₁, rfl, hsource, hnone⟩ := ht
  refine ⟨(s, l) :: h₂, v, q, h₁, rfl, hsource, ?_⟩
  intro w q' hm
  rcases List.mem_cons.mp hm with heq | hm
  · exact hl q' (Prod.mk.inj heq).2.symm
  · exact hnone w q' hm

/-- **A call in flight brings home what was true during it.** -/
theorem call_true (hidle : ∀ i, s.calls i = none)
    (hr : Run (Guarded (Step P) (Truthful P)) s h t) {i : ι} {q : Q} {k : K}
    (hslot : P.slot q = some k) :
    (∀ a, t.calls i = some ⟨q, .answered (.ok a)⟩ → TrueDuring h i k a) ∧
    (∀ a, t.calls i = some ⟨q, .fetched a⟩ → TrueDuring h i k a) := by
  induction hr with
  | start => simp [hidle i]
  | @next h t u l hr hs ih =>
    obtain ⟨htrue, hs⟩ := hs
    -- a call that is in flight does not begin
    have hbusy : ∀ {ph}, t.calls i = some ⟨q, ph⟩ → ∀ q', l ≠ .miss i q' := by
      rintro ph hc q' rfl
      cases hs with
      | miss hfree =>
        rw [hfree] at hc
        cases hc
    constructor
    · intro a hc
      rcases hs.call_cases hc with hold | ⟨-, hph⟩ | ⟨r, rfl, hph⟩ | ⟨a', -, hph, -⟩
      · exact (ih.1 a hold).later (hbusy hold)
      · cases hph
      · cases hph
        refine ⟨[], t, q, h, rfl, (htrue i q a k rfl hslot).symm, ?_⟩
        intro w q' hm
        cases hm
      · cases hph
    · intro a hc
      rcases hs.call_cases hc with hold | ⟨-, hph⟩ | ⟨r, -, hph⟩ | ⟨a', -, hph, hold⟩
      · exact (ih.2 a hold).later (hbusy hold)
      · cases hph
      · cases hph
      · cases hph
        exact (ih.1 _ hold).later (hbusy hold)

/-- **A stored answer was given to the call that stores it.** -/
theorem store_answered (hidle : ∀ i, s.calls i = none) (hr : Run (Step P) s h t)
    {v : State S K A E Q ι} {i : ι} {q : Q} {a : A} (hm : (v, .store i q a) ∈ h) :
    ∃ v', (v', .answer i q (.ok a)) ∈ h := by
  induction hr with
  | start => cases hm
  | @next h t u l hr hs ih =>
    rcases List.mem_cons.mp hm with heq | hm
    · obtain ⟨rfl, rfl⟩ := Prod.mk.inj heq
      cases hs with
      | store hcall hslot =>
        obtain ⟨v', hm'⟩ := (call_answered hidle hr).2 a hcall
        exact ⟨v', List.mem_cons_of_mem _ hm'⟩
    · obtain ⟨v', hm'⟩ := ih hm
      exact ⟨v', List.mem_cons_of_mem _ hm'⟩

/-- **Provenance of a served value**: it is the decoded answer of a store step for
its key, less than `ttl` ago. -/
theorem hit_provenance {k : K} (hempty : P.store.entry s.cache k = none)
    (hr : Run (Step P) s h t) {v : V} (hlook : P.store.lookup t.cache t.now k = some v) :
    ∃ w i q a, (w, .store i q a) ∈ h ∧ P.slot q = some k ∧ v = P.decode a ∧
      w.now ≤ t.now ∧ t.now < w.now + P.ttl := by
  obtain ⟨e, he, hlt, rfl⟩ := Store.lookup_eq_some.mp hlook
  obtain ⟨w, i, q, a, hm, hslot, rfl⟩ := entry_provenance hempty hr he
  exact ⟨w, i, q, a, hm, hslot, rfl, now_le_of_mem hr hm, hlt⟩

/-! ## Facts that stores do not re-introduce -/

/-- The entry at `k`, if any, does not have the property `F`. -/
def Excludes (P : Protocol S K V A Q) (F : V → Prop) (k : K) (s : State S K A E Q ι) : Prop :=
  ∀ e, P.store.entry s.cache k = some e → ¬ F e.value

/-- **An excluded fact stays excluded** in every run whose stores for `k` do not
bring it back. -/
theorem entry_excludes {F : V → Prop} {k : K} (h0 : Excludes P F k s)
    (hr : Run (Guarded (Step P) fun _ l =>
      ∀ i q a, l = .store i q a → P.slot q = some k → ¬ F (P.decode a)) s h t) :
    Excludes P F k t := by
  refine hr.invariant h0 ?_
  rintro t l u hP ⟨hC, hs⟩ e he
  rcases hs.entry_cases k with hsame | ⟨i, q, a, rfl, hslot, hput⟩
  · exact hP e (hsame ▸ he)
  · rw [hput] at he
    cases he
    exact hC i q a rfl hslot

/-- **A call that starts in a truthful run whose source never has `F` at `k` never
gets `F` from it**: at every moment its answer, if any, lacks `F`. -/
theorem late_call_lacks {F : V → Prop} {k : K}
    (hr : Run (Guarded (Step P) fun s l =>
      Truthful P s l ∧ ¬ F (P.decode (s.source k))) s h t)
    {i : ι} {q : Q} (hslot : P.slot q = some k)
    (hlate : ∃ v q', (v, .miss i q') ∈ h) :
    (∀ a, t.calls i = some ⟨q, .answered (.ok a)⟩ → ¬ F (P.decode a)) ∧
    (∀ a, t.calls i = some ⟨q, .fetched a⟩ → ¬ F (P.decode a)) := by
  induction hr with
  | start =>
    obtain ⟨v, q', hm⟩ := hlate
    cases hm
  | @next h t u l hr hs ih =>
    obtain ⟨⟨htrue, hsrc⟩, hs⟩ := hs
    -- a call that has only just missed has no answer yet
    have hbefore : (∃ v q', (v, .miss i q') ∈ h) ∨ ∃ q', l = .miss i q' := by
      obtain ⟨v, q', hm⟩ := hlate
      rcases List.mem_cons.mp hm with heq | hm
      · exact Or.inr ⟨q', (Prod.mk.inj heq).2.symm⟩
      · exact Or.inl ⟨v, q', hm⟩
    constructor
    · intro a hc
      rcases hs.call_cases hc with hold | ⟨-, hph⟩ | ⟨r, rfl, hph⟩ | ⟨a', -, hph, -⟩
      · rcases hbefore with hl | ⟨q', rfl⟩
        · exact (ih hl).1 a hold
        · cases hs with
          | miss hidle => rw [hidle] at hold; cases hold
      · cases hph
      · cases hph
        rw [htrue i q a k rfl hslot]
        exact hsrc
      · cases hph
    · intro a hc
      rcases hs.call_cases hc with hold | ⟨-, hph⟩ | ⟨r, -, hph⟩ | ⟨a', rfl, hph, hold⟩
      · rcases hbefore with hl | ⟨q', rfl⟩
        · exact (ih hl).2 a hold
        · cases hs with
          | miss hidle => rw [hidle] at hold; cases hold
      · cases hph
      · cases hph
      · cases hph
        rcases hbefore with hl | ⟨q', hl⟩
        · exact (ih hl).1 a hold
        · cases hl

end ReadThrough
