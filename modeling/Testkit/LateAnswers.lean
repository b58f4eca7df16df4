import Testkit.ConsoleTabs

/-! # Answers that outlive their session

A request keeps the token it was sent with, and the storage may have changed hands before
it is answered.  The error handler does not compare the two: a 401 clears whatever is
stored.  What matters is therefore what was in flight when something was stored.

`Late` is the invariant of the runs in which nothing is stored over a request of another
session: every request in flight carries the stored token, or nothing is left to remove.
-/
namespace Testkit.ConsoleTabs
open LabelledRuns

section Late
variable {Tab U : Type}

/-- **The guarantee** for one step: a 401 to a request that was sent with a token removes
something only while that token is stored. -/
def Spares (w : Tabs Tab U) : Event Tab U → Prop
  | .answer f (.error e) =>
    e.status = some 401 → ∀ token, f.headers.bearer = some token →
      errorHandler e w.storage ≠ w.storage → w.storage.sessionToken = some token
  | _ => True

/-- Every one of these requests that carries a token carries this one. -/
def AllCarry (flights : List (Flight Tab U)) (token : Option String) : Prop :=
  ∀ f ∈ flights, ∀ carried, f.headers.bearer = some carried → token = some carried

/-- **The condition on a step**: where it stores a session or a choice, the requests that
stay in flight carry the token that is then stored, or none. -/
def StoresAlone (w : Tabs Tab U) : Event Tab U → Prop
  | .signIn _ token _ => AllCarry w.inFlight (some token)
  | .choose _ _ => AllCarry w.inFlight w.storage.sessionToken
  | .answer f (.ok who) =>
    ∀ session retried, f.purpose = .bootstrap session retried →
      w.storage.readTenantChoice ∉ boundKeys who.memberships →
      ∀ before after, w.inFlight = before ++ f :: after →
        AllCarry (before ++ after) w.storage.sessionToken
  | _ => True

/-- The invariant. -/
def Late (w : Tabs Tab U) : Prop :=
  w.storage = .empty ∨ AllCarry w.inFlight w.storage.sessionToken

/-! ## What an operation keeps -/

section Operations
variable {w : Tabs Tab U}

theorem AllCarry.subset {flights rest : List (Flight Tab U)} {token : Option String}
    (h : AllCarry flights token) (hsub : ∀ f ∈ rest, f ∈ flights) : AllCarry rest token :=
  fun f hf => h f (hsub f hf)

/-- A request that goes out carries the stored token. -/
theorem late_send (h : Late w) (tab : Tab) (purpose : Purpose) : Late (w.send tab purpose) := by
  rcases h with hempty | hcarry
  · exact Or.inl hempty
  · refine Or.inr ?_
    intro f hf carried hbearer
    rcases List.mem_cons.mp hf with rfl | hf
    · exact hbearer
    · exact hcarry f hf carried hbearer

theorem late_drop (h : Late w) {flights : List (Flight Tab U)}
    (hsub : ∀ f ∈ flights, f ∈ w.inFlight) : Late { w with inFlight := flights } :=
  h.imp id fun hcarry => hcarry.subset hsub

theorem late_errorHandler (h : Late w) (e : ApiError) :
    Late { w with storage := errorHandler e w.storage } := by
  unfold errorHandler
  split
  · exact Or.inl rfl
  · exact h

theorem late_clearTenantChoice (h : Late w) :
    Late { w with storage := w.storage.clearTenantChoice } := by
  rcases h with hempty | hcarry
  · refine Or.inl ?_
    show w.storage.clearTenantChoice = .empty
    rw [hempty]
    rfl
  · exact Or.inr hcarry

/-- Adopting a session stores a choice, or nothing. -/
theorem late_adopt (owner : String → U) (h : Late w) {session : String} {who : WhoAmIResponse}
    (halone : w.storage.readTenantChoice ∉ boundKeys who.memberships →
      AllCarry w.inFlight w.storage.sessionToken) : Late (w.adopt owner session who) := by
  by_cases hbound : w.storage.readTenantChoice ∈ boundKeys who.memberships
  · have hsame : (ensureTenantChoice w.storage who.memberships).2 = w.storage := by
      rw [ensureTenantChoice_bound hbound]
    refine h.imp (fun hempty => ?_) (fun hcarry => ?_)
    · exact hsame.trans hempty
    · show AllCarry w.inFlight (ensureTenantChoice w.storage who.memberships).2.sessionToken
      rw [hsame]
      exact hcarry
  · refine Or.inr ?_
    show AllCarry w.inFlight (ensureTenantChoice w.storage who.memberships).2.sessionToken
    rw [ensureTenantChoice_unbound hbound]
    exact halone hbound

variable [DecidableEq Tab]

theorem late_actFor (h : Late w) (tab : Tab) (session : Option String) :
    Late (w.actFor tab session) := h

theorem late_boot (h : Late w) (tab : Tab) : Late (w.boot tab) := by
  unfold Tabs.boot
  split
  · split
    · exact late_actFor h _ _
    · exact late_send h _ _
  · exact late_actFor h _ _

end Operations

/-! ## Runs -/

theorem late_fresh : Late (fresh : Tabs Tab U) := Or.inl rfl

variable [DecidableEq Tab] {owner : String → U}

/-- **The step lemma.** -/
theorem late_step {w w' : Tabs Tab U} {l : Event Tab U} (h : Late w)
    (hs : Guarded (Step owner) StoresAlone w l w') : Late w' := by
  obtain ⟨halone, hs⟩ := hs
  cases hs with
  | signIn tab token user htoken =>
    refine late_boot (Or.inr ?_) tab
    have hstored : (w.storage.signIn token user).sessionToken = some token := by
      simp [LocalStorage.sessionToken, LocalStorage.signIn, Option.filter, htoken]
    show AllCarry w.inFlight (w.storage.signIn token user).sessionToken
    rw [hstored]
    exact halone
  | mount tab => exact late_boot (late_drop h fun f hf => (List.mem_filter.mp hf).1) tab
  | request tab => exact late_send h tab .plain
  | @answer before after f r hflight =>
    have hrest : Late { w with inFlight := before ++ after } :=
      late_drop h fun _ => mem_inFlight_of_rest hflight
    cases hpurpose : f.purpose with
    | plain =>
      cases r with
      | ok who => exact hrest
      | error e => exact late_errorHandler hrest e
    | bootstrap session retried =>
      cases r with
      | ok who =>
        refine late_actFor (late_adopt owner hrest ?_) _ _
        intro hunbound
        exact halone session retried hpurpose hunbound before after hflight
      | error e =>
        have hhandled := late_errorHandler hrest e
        simp only [Tabs.answered]
        split
        · exact late_send (late_clearTenantChoice hhandled) _ _
        · exact late_actFor hhandled _ _
  | signOut tab => exact Or.inl rfl
  | choose key hacting => exact Or.inr halone
  | forget tab => exact late_clearTenantChoice h

/-- Where every request carries the stored token, an expired one is the stored session's. -/
theorem spares_of_late {w w' : Tabs Tab U} {l : Event Tab U} (h : Late w)
    (hs : Step owner w l w') : Spares w l := by
  cases hs with
  | @answer before after f r hflight =>
    cases r with
    | ok who => trivial
    | error e =>
      intro hstatus token hbearer hremoved
      rcases h with hempty | hcarry
      · refine absurd ?_ hremoved
        rw [errorHandler, if_pos hstatus, hempty]
        rfl
      · exact hcarry f (hflight ▸ List.mem_append_right _ List.mem_cons_self) token hbearer
  | signIn => trivial
  | mount => trivial
  | request => trivial
  | signOut => trivial
  | choose => trivial
  | forget => trivial

/-- **A late 401 spares the newer session**, in every run that stores nothing while a
request of another session is in flight. -/
theorem late_answer_spares {h : List (Tabs Tab U × Event Tab U)} {w : Tabs Tab U}
    (hr : Run (Guarded (Step owner) StoresAlone) fresh h w) : ∀ p ∈ h, Spares p.1 p.2 := by
  rintro ⟨v, l⟩ hmem
  obtain ⟨before, v', hv, hs⟩ := hr.exists_step hmem
  have hlate : Late v := hv.invariant late_fresh fun _ _ _ ht hs => late_step ht hs
  exact spares_of_late hlate hs.2

/-! ## Stores that crowd an older request -/

section Crowded
variable {w : Tabs Tab U}

omit [DecidableEq Tab] in
/-- A 401 to a foreign request removes what is stored. -/
theorem not_spares {f : Flight Tab U} {carried : String} (hbearer : f.headers.bearer = some carried)
    (hforeign : w.storage.sessionToken ≠ some carried) (hstored : w.storage ≠ .empty) :
    ¬ Spares w (.answer f (.error ⟨some 401⟩)) := by
  intro h
  refine hforeign (h rfl carried hbearer ?_)
  intro hkept
  exact hstored hkept.symm

omit [DecidableEq Tab] in
theorem exists_foreign {flights : List (Flight Tab U)} {token : Option String}
    (h : ¬ AllCarry flights token) :
    ∃ f ∈ flights, ∃ carried, f.headers.bearer = some carried ∧ token ≠ some carried := by
  simpa only [AllCarry, not_forall, exists_prop] using h

/-- The bootstrap adds to what is in flight and stores nothing. -/
theorem boot_keeps (w : Tabs Tab U) (tab : Tab) :
    (w.boot tab).storage = w.storage ∧ ∀ f ∈ w.inFlight, f ∈ (w.boot tab).inFlight := by
  unfold Tabs.boot
  split
  · split
    · exact ⟨rfl, fun f hf => hf⟩
    · exact ⟨rfl, fun f hf => List.mem_cons_of_mem _ hf⟩
  · exact ⟨rfl, fun f hf => hf⟩

/-- A store with a choice in it is not empty. -/
theorem writeTenantChoice_ne_empty (s : LocalStorage) (key : String) :
    s.writeTenantChoice key ≠ .empty := by
  intro h
  cases congrArg LocalStorage.choice h

/-- **The condition is not idle.**  After a step that stores something over a request of
another session, a 401 to that request would remove it. -/
theorem crowded_store_lost {w' : Tabs Tab U} {l : Event Tab U} (hs : Step owner w l w')
    (hcrowded : ¬ StoresAlone w l) :
    ∃ f ∈ w'.inFlight, ¬ Spares w' (.answer f (.error ⟨some 401⟩)) := by
  cases hs with
  | signIn tab token user htoken =>
    obtain ⟨f, hf, carried, hbearer, hforeign⟩ := exists_foreign hcrowded
    obtain ⟨hstorage, hkept⟩ :=
      boot_keeps { w with storage := w.storage.signIn token user } tab
    refine ⟨f, hkept f hf, not_spares hbearer ?_ ?_⟩
    · rw [hstorage]
      simpa [LocalStorage.sessionToken, LocalStorage.signIn, Option.filter, htoken] using hforeign
    · rw [hstorage]
      intro h
      cases congrArg LocalStorage.token h
  | @answer before after f r hflight =>
    cases r with
    | error e => exact absurd trivial hcrowded
    | ok who =>
      simp only [StoresAlone, not_forall] at hcrowded
      obtain ⟨session, retried, hpurpose, hunbound, before', after', hsplit, hcrowded⟩ :=
        hcrowded
      obtain ⟨g, hg, carried, hbearer, hforeign⟩ := exists_foreign hcrowded
      -- the two ways to take the request out leave the same requests
      have hsame : (before' ++ after').Perm (before ++ after) := by
        have hperm : (before' ++ f :: after').Perm (before ++ f :: after) := by
          rw [← hsplit, ← hflight]
        exact List.Perm.cons_inv
          (List.perm_middle.symm.trans (hperm.trans List.perm_middle))
      simp only [Tabs.answered, hpurpose]
      have hstorage : ((({ w with inFlight := before ++ after } : Tabs Tab U).adopt owner
          session who).actFor f.tab (some session)).storage =
            w.storage.writeTenantChoice ((boundKeys who.memberships).head?.getD "") := by
        show (ensureTenantChoice w.storage who.memberships).2 = _
        rw [ensureTenantChoice_unbound hunbound]
      refine ⟨g, hsame.mem_iff.mp hg, not_spares hbearer ?_ ?_⟩
      · rw [hstorage]
        exact hforeign
      · rw [hstorage]
        exact writeTenantChoice_ne_empty _ _
  | @choose tab session key hacting =>
    obtain ⟨f, hf, carried, hbearer, hforeign⟩ := exists_foreign hcrowded
    exact ⟨f, hf, not_spares hbearer hforeign (writeTenantChoice_ne_empty _ _)⟩
  | mount tab => exact absurd trivial hcrowded
  | request tab => exact absurd trivial hcrowded
  | signOut tab => exact absurd trivial hcrowded
  | forget tab => exact absurd trivial hcrowded

end Crowded
end Late

/-! ## An expired session and a new one -/

/-- The session of a lone tab expires. -/
theorem late_answer_spares_alone :
    ∃ h : List (Desk × Event Bool String), h.length = 3 ∧ ∀ p ∈ h, Spares p.1 p.2 := by
  have hin : Guarded (Step id) StoresAlone (fresh : Desk)
      (.signIn false "t1" ⟨some .platform⟩) _ :=
    ⟨by rintro f ⟨⟩, .signIn false "t1" ⟨some .platform⟩ (by decide)⟩
  refine ⟨_, ?_, late_answer_spares (.next (.next (.next .start hin)
    ⟨?_, .request false⟩) ⟨?_, .answer [] [] (.error ⟨some 401⟩) rfl⟩)⟩
  · rfl
  · exact trivial
  · exact trivial

/-- One tab waits for an answer while the other one signs out and in again. -/
theorem late_answer_removes_newer :
    ¬ ∀ (h : List (Desk × Event Bool String)) (w : Desk), Run (Step id) fresh h w →
      ∀ p ∈ h, Spares p.1 p.2 := by
  intro hall
  have hold : Step id (fresh : Desk) _ _ := .signIn false "t1" ⟨some .platform⟩ (by decide)
  have hsent := (Run.start.next hold).next (.request false)
  have hnew := (hsent.next (.signOut true)).next
    (.signIn true "t2" ⟨some .platform⟩ (by decide))
  have hlate := hnew.next (.answer [] [] (.error ⟨some 401⟩) rfl)
  have hspares := hall _ _ hlate _ List.mem_cons_self rfl "t1" rfl (by decide)
  exact absurd hspares (by decide)

end Testkit.ConsoleTabs
