import Testkit.ConsoleStorage
import Testkit.LabelledRuns

/-! # Tabs that share one browser storage

Any number of console tabs read and write one `localStorage`.  Between two awaits a
handler runs alone, so a step of the system is what one tab does up to its next await:
`await portalWhoAmI()` in `getInitialState`, the answer of any other request, the login
and logout calls.  An answer may come after the storage has changed hands.

A stored choice is kept with the user it was written for, which no code reads; it is what
the guarantee is about.  `OwnChoice` is the invariant: the stored choice was written for
the owner of the stored token.
-/
namespace Testkit.ConsoleTabs
open LabelledRuns

/-! ## The state of the tabs -/

/-- Why a request is in flight: the bootstrap of a session (and whether it is the repeated
call), or anything else. -/
inductive Purpose
  | bootstrap (session : String) (retried : Bool)
  | plain
  deriving DecidableEq, Repr

/-- A request that was sent: the headers it carries, and for whom its choice was
written. -/
structure Flight (Tab U : Type) where
  tab : Tab
  purpose : Purpose
  headers : ConsoleHeaders
  writtenFor : Option U

/-- The shared storage with the user its choice was written for, the requests in flight,
and the session the initial state of each tab belongs to. -/
structure Tabs (Tab U : Type) where
  storage : LocalStorage
  writtenFor : Option U
  inFlight : List (Flight Tab U)
  acting : Tab → Option String

/-- A fresh browser profile. -/
def fresh {Tab U : Type} : Tabs Tab U := ⟨.empty, none, [], fun _ => none⟩

namespace Tabs
variable {Tab U : Type} (owner : String → U)

/-- A request goes out with what the interceptor reads. -/
def send (w : Tabs Tab U) (tab : Tab) (purpose : Purpose) : Tabs Tab U :=
  { w with inFlight := ⟨tab, purpose, requestInterceptor w.storage, w.writtenFor⟩ :: w.inFlight }

/-- `ensureTenantChoice` after the `WhoAmI` of a session: a choice it writes is written for
the session's user. -/
def adopt (w : Tabs Tab U) (session : String) (who : WhoAmIResponse) : Tabs Tab U :=
  { w with
    storage := (ensureTenantChoice w.storage who.memberships).2
    writtenFor :=
      if w.storage.readTenantChoice ∈ boundKeys who.memberships then w.writtenFor
      else some (owner session) }

/-- The switcher's selection. -/
def chosen (w : Tabs Tab U) (session key : String) : Tabs Tab U :=
  { w with storage := w.storage.writeTenantChoice key, writtenFor := some (owner session) }

variable [DecidableEq Tab]

/-- The tab's initial state belongs to a session. -/
def actFor (w : Tabs Tab U) (tab : Tab) (session : Option String) : Tabs Tab U :=
  { w with acting := Function.update w.acting tab session }

/-- `getInitialState` up to its first await. -/
def boot (w : Tabs Tab U) (tab : Tab) : Tabs Tab U :=
  match w.storage.user, w.storage.sessionToken with
  | some user, some session =>
    if user.userType ≠ some .tenantAdmin then w.actFor tab (some session)
    else w.send tab (.bootstrap session false)
  | _, _ => w.actFor tab none

/-- What a tab does with an answer, once the request has left the list. -/
def answered (w : Tabs Tab U) (tab : Tab) (purpose : Purpose)
    (answer : Except ApiError WhoAmIResponse) : Tabs Tab U :=
  match purpose, answer with
  | .plain, .ok _ => w
  | .plain, .error e => { w with storage := errorHandler e w.storage }
  | .bootstrap session _, .ok who => (w.adopt owner session who).actFor tab (some session)
  | .bootstrap session retried, .error e =>
    let w := { w with storage := errorHandler e w.storage }
    if retried = false ∧ e.status = some 403 ∧ w.storage.readTenantChoice ≠ "" then
      { w with storage := w.storage.clearTenantChoice }.send tab (.bootstrap session true)
    else w.actFor tab (some session)

end Tabs

/-! ## Steps -/

/-- What happens next, and in which tab. -/
inductive Event (Tab U : Type)
  /-- The login or register call is answered; the page stores the session and refreshes. -/
  | signIn (tab : Tab) (token : String) (user : ConsoleUser)
  /-- The app is mounted; what the tab awaited before is gone. -/
  | mount (tab : Tab)
  | request (tab : Tab)
  | answer (flight : Flight Tab U) (answer : Except ApiError WhoAmIResponse)
  /-- The logout call of `endSession` is over, either way. -/
  | signOut (tab : Tab)
  | choose (tab : Tab) (key : String)
  /-- The switcher's registry check drops the choice. -/
  | forget (tab : Tab)

section Steps
variable {Tab U : Type} (owner : String → U)

/-- A step of the tabs. -/
inductive Step [DecidableEq Tab] : Tabs Tab U → Event Tab U → Tabs Tab U → Prop
  | signIn {w : Tabs Tab U} (tab : Tab) (token : String) (user : ConsoleUser) :
      token ≠ "" →
      Step w (.signIn tab token user)
        ({ w with storage := w.storage.signIn token user }.boot tab)
  | mount {w : Tabs Tab U} (tab : Tab) :
      Step w (.mount tab)
        ({ w with inFlight := w.inFlight.filter fun f => decide (f.tab ≠ tab) }.boot tab)
  | request {w : Tabs Tab U} (tab : Tab) : Step w (.request tab) (w.send tab .plain)
  | answer {w : Tabs Tab U} (before after : List (Flight Tab U)) {f : Flight Tab U}
      (r : Except ApiError WhoAmIResponse) :
      w.inFlight = before ++ f :: after →
      Step w (.answer f r)
        ({ w with inFlight := before ++ after }.answered owner f.tab f.purpose r)
  | signOut {w : Tabs Tab U} (tab : Tab) :
      Step w (.signOut tab) { w with storage := w.storage.signOut }
  | choose {w : Tabs Tab U} {tab : Tab} {session : String} (key : String) :
      w.acting tab = some session → Step w (.choose tab key) (w.chosen owner session key)
  | forget {w : Tabs Tab U} (tab : Tab) :
      Step w (.forget tab) { w with storage := w.storage.clearTenantChoice }

/-- **The guarantee** for one request: a choice it carries was written for the owner of the
token it carries. -/
def RidesOwn (f : Flight Tab U) : Prop :=
  ∀ token choice, f.headers.bearer = some token → f.headers.tenantChoice = some choice →
    f.writtenFor = some (owner token)

/-- Nobody else is signed in when a choice is written for a session. -/
def SignedIn (w : Tabs Tab U) (session : String) : Prop :=
  ∀ token, w.storage.sessionToken = some token → owner token = owner session

/-- **The condition on a step**: where it writes a tenant choice, the stored token is gone
or belongs to the user the tab writes for. -/
def WritesOwn (w : Tabs Tab U) : Event Tab U → Prop
  | .answer f (.ok who) =>
    ∀ session retried, f.purpose = .bootstrap session retried →
      w.storage.readTenantChoice ∉ boundKeys who.memberships → boundKeys who.memberships ≠ [] →
      SignedIn owner w session
  | .choose tab key => ∀ session, w.acting tab = some session → key ≠ "" → SignedIn owner w session
  | _ => True

/-- The stored choice was written for the owner of the stored token. -/
def OwnChoice (s : LocalStorage) (writtenFor : Option U) : Prop :=
  ∀ token, s.sessionToken = some token → s.readTenantChoice ≠ "" →
    writtenFor = some (owner token)

/-- The invariant of a run whose writes meet the condition. -/
structure Rides (w : Tabs Tab U) : Prop where
  stored : OwnChoice owner w.storage w.writtenFor
  flights : ∀ f ∈ w.inFlight, RidesOwn owner f

variable {owner}

/-! ## What an operation keeps -/

section Stored
variable {s : LocalStorage} {writtenFor : Option U}

theorem ownChoice_cleared (s : LocalStorage) (writtenFor : Option U) :
    OwnChoice owner s.clearTenantChoice writtenFor := by
  intro token _ hne
  exact absurd rfl hne

theorem ownChoice_signedOut (s : LocalStorage) (writtenFor : Option U) :
    OwnChoice owner s.signOut writtenFor := by
  intro token _ hne
  exact absurd rfl hne

theorem ownChoice_signedIn (s : LocalStorage) (token : String) (user : ConsoleUser)
    (writtenFor : Option U) : OwnChoice owner (s.signIn token user) writtenFor := by
  intro token _ hne
  exact absurd rfl hne

theorem ownChoice_errorHandler (h : OwnChoice owner s writtenFor) (e : ApiError) :
    OwnChoice owner (errorHandler e s) writtenFor := by
  unfold errorHandler
  split
  · exact ownChoice_signedOut s writtenFor
  · exact h

end Stored

section Operations
variable {w : Tabs Tab U}

/-- A request that goes out carries what is stored. -/
theorem ridesOwn_sent (h : OwnChoice owner w.storage w.writtenFor) (tab : Tab)
    (purpose : Purpose) :
    RidesOwn owner
      (⟨tab, purpose, requestInterceptor w.storage, w.writtenFor⟩ : Flight Tab U) := by
  intro token choice hbearer hchoice
  refine h token hbearer ?_
  simp only [tenantChoice_requestInterceptor] at hchoice
  split at hchoice
  · cases hchoice
  · assumption

theorem rides_send (h : Rides owner w) (tab : Tab) (purpose : Purpose) :
    Rides owner (w.send tab purpose) where
  stored := h.stored
  flights := by
    intro f hf
    rcases List.mem_cons.mp hf with rfl | hf
    · exact ridesOwn_sent h.stored tab purpose
    · exact h.flights f hf

/-- The storage may change as long as its choice stays owned. -/
theorem rides_store (h : Rides owner w) {s : LocalStorage}
    (hs : OwnChoice owner s w.writtenFor) : Rides owner { w with storage := s } :=
  ⟨hs, h.flights⟩

/-- Requests may leave the list. -/
theorem rides_drop (h : Rides owner w) {flights : List (Flight Tab U)}
    (hsub : ∀ f ∈ flights, f ∈ w.inFlight) : Rides owner { w with inFlight := flights } :=
  ⟨h.stored, fun f hf => h.flights f (hsub f hf)⟩

/-- A choice written while nobody else is signed in is owned. -/
theorem ownChoice_written {s : LocalStorage} {session key : String}
    (hsigned : key ≠ "" → SignedIn owner w session) (htoken : s.token = w.storage.token)
    (hchoice : s.readTenantChoice = key) : OwnChoice owner s (some (owner session)) := by
  intro token hs hne
  have hsame : w.storage.sessionToken = some token := by
    rw [← hs, LocalStorage.sessionToken, LocalStorage.sessionToken, htoken]
  rw [hsigned (hchoice ▸ hne) token hsame]

/-- Somebody else is signed in. -/
theorem not_signedIn {session : String} (h : ¬ SignedIn owner w session) :
    ∃ token, w.storage.sessionToken = some token ∧ owner token ≠ owner session := by
  simpa only [SignedIn, not_forall, exists_prop] using h

/-- A choice written for one session and sent with the token of another. -/
theorem not_ridesOwn {w' : Tabs Tab U} {tab : Tab} {token session : String}
    (htoken : w.storage.sessionToken = some token) (hother : owner token ≠ owner session)
    (hkept : w'.storage.token = w.storage.token) (hchoice : w'.storage.readTenantChoice ≠ "")
    (hwritten : w'.writtenFor = some (owner session)) :
    ¬ RidesOwn owner
      (⟨tab, .plain, requestInterceptor w'.storage, w'.writtenFor⟩ : Flight Tab U) := by
  intro h
  have hbearer : (requestInterceptor w'.storage).bearer = some token := by
    rw [← htoken, LocalStorage.sessionToken, ← hkept]
    rfl
  have hsent : (requestInterceptor w'.storage).tenantChoice =
      some w'.storage.readTenantChoice := by
    rw [tenantChoice_requestInterceptor, if_neg hchoice]
  have howner := h token _ hbearer hsent
  rw [hwritten] at howner
  exact hother (Option.some.inj howner).symm

theorem rides_adopt (h : Rides owner w) {session : String} {who : WhoAmIResponse}
    (hsigned : w.storage.readTenantChoice ∉ boundKeys who.memberships →
      boundKeys who.memberships ≠ [] → SignedIn owner w session) :
    Rides owner (w.adopt owner session who) := by
  refine ⟨?_, h.flights⟩
  show OwnChoice owner (ensureTenantChoice w.storage who.memberships).2 (ite _ _ _)
  by_cases hbound : w.storage.readTenantChoice ∈ boundKeys who.memberships
  · rw [ensureTenantChoice_bound hbound, if_pos hbound]
    exact h.stored
  · rw [ensureTenantChoice_unbound hbound, if_neg hbound]
    have hwritten : (boundKeys who.memberships).head?.getD "" ≠ "" →
        SignedIn owner w session := by
      intro hne
      apply hsigned hbound
      -- without a binding the choice written is empty
      intro hnone
      rw [hnone] at hne
      exact hne rfl
    exact ownChoice_written hwritten rfl rfl

variable [DecidableEq Tab]

theorem rides_actFor (h : Rides owner w) (tab : Tab) (session : Option String) :
    Rides owner (w.actFor tab session) := ⟨h.stored, h.flights⟩

theorem rides_boot (h : Rides owner w) (tab : Tab) : Rides owner (w.boot tab) := by
  unfold Tabs.boot
  split
  · split
    · exact rides_actFor h _ _
    · exact rides_send h _ _
  · exact rides_actFor h _ _

end Operations

/-! ## Runs -/

theorem rides_fresh : Rides owner (fresh : Tabs Tab U) where
  stored := ownChoice_cleared .empty none
  flights := by
    intro f hf
    cases hf

/-- Without the request that is answered, every request in flight is one of before. -/
theorem mem_inFlight_of_rest {w : Tabs Tab U} {before after : List (Flight Tab U)}
    {f g : Flight Tab U} (hflight : w.inFlight = before ++ f :: after)
    (hg : g ∈ before ++ after) : g ∈ w.inFlight := by
  rw [hflight]
  exact ((List.sublist_cons_self f after).append_left before).subset hg

variable [DecidableEq Tab]

/-- **The step lemma.** -/
theorem rides_step {w w' : Tabs Tab U} {l : Event Tab U} (h : Rides owner w)
    (hs : Guarded (Step owner) (WritesOwn owner) w l w') : Rides owner w' := by
  obtain ⟨hown, hs⟩ := hs
  cases hs with
  | signIn tab token user htoken =>
    exact rides_boot (rides_store h (ownChoice_signedIn _ _ _ _)) tab
  | mount tab => exact rides_boot (rides_drop h fun f hf => (List.mem_filter.mp hf).1) tab
  | request tab => exact rides_send h tab .plain
  | @answer before after f r hflight =>
    have hrest : Rides owner { w with inFlight := before ++ after } :=
      rides_drop h fun _ => mem_inFlight_of_rest hflight
    cases hpurpose : f.purpose with
    | plain =>
      cases r with
      | ok who => exact hrest
      | error e => exact rides_store hrest (ownChoice_errorHandler h.stored e)
    | bootstrap session retried =>
      cases r with
      | ok who =>
        exact rides_actFor (rides_adopt hrest (hown session retried hpurpose)) _ _
      | error e =>
        have hhandled : Rides owner { w with
            inFlight := before ++ after, storage := errorHandler e w.storage } :=
          rides_store hrest (ownChoice_errorHandler h.stored e)
        simp only [Tabs.answered]
        split
        · exact rides_send (rides_store hhandled (ownChoice_cleared _ _)) _ _
        · exact rides_actFor hhandled _ _
  | signOut tab => exact rides_store h (ownChoice_signedOut _ _)
  | @choose tab session key hacting =>
    exact ⟨ownChoice_written (hown session hacting) rfl rfl, h.flights⟩
  | forget tab => exact rides_store h (ownChoice_cleared _ _)

/-- **A tenant choice rides its own session**, in every run whose choice writes happen while
nobody else is signed in. -/
theorem choice_rides_own_session {h : List (Tabs Tab U × Event Tab U)} {w : Tabs Tab U}
    (hr : Run (Guarded (Step owner) (WritesOwn owner)) fresh h w) :
    ∀ f ∈ w.inFlight, RidesOwn owner f := by
  have hrides : Rides owner w := hr.invariant rides_fresh fun _ _ _ ht hs => rides_step ht hs
  exact hrides.flights

/-- **The condition is not idle.**  A choice written while somebody else is signed in rides
their next request. -/
theorem unowned_choice_rides {w w' : Tabs Tab U} {l : Event Tab U} (hs : Step owner w l w')
    (hother : ¬ WritesOwn owner w l) (tab : Tab) :
    ∃ f ∈ (w'.send tab .plain).inFlight, ¬ RidesOwn owner f := by
  refine ⟨_, List.mem_cons_self, ?_⟩
  cases hs with
  | @answer before after f r hflight =>
    cases r with
    | error e => exact absurd trivial hother
    | ok who =>
      simp only [WritesOwn, not_forall] at hother
      obtain ⟨session, retried, hpurpose, hunbound, hsome, hsigned⟩ := hother
      obtain ⟨token, htoken, hne⟩ := not_signedIn hsigned
      obtain ⟨key, hmem, hchoice, -, -⟩ := ensureTenantChoice_cases (s := w.storage) hsome
      have hsession := (ensureTenantChoice_session w.storage who.memberships).1
      simp only [Tabs.answered, hpurpose]
      refine not_ridesOwn htoken hne ?_ ?_ (if_neg hunbound)
      · exact hsession
      · rw [Tabs.actFor, Tabs.adopt, LocalStorage.readTenantChoice, hchoice]
        exact of_decide_eq_true (List.mem_filter.mp hmem).2
  | @choose tab session key hacting =>
    simp only [WritesOwn, not_forall] at hother
    obtain ⟨session', hacting', hkey, hsigned⟩ := hother
    obtain rfl : session = session' := Option.some.inj (hacting.symm.trans hacting')
    obtain ⟨token, htoken, hne⟩ := not_signedIn hsigned
    exact not_ridesOwn htoken hne rfl hkey rfl
  | signIn tab token user htoken => exact absurd trivial hother
  | mount tab => exact absurd trivial hother
  | request tab => exact absurd trivial hother
  | signOut tab => exact absurd trivial hother
  | forget tab => exact absurd trivial hother

end Steps

/-! ## Two users of one browser -/

/-- Token and user are one. -/
abbrev Desk := Tabs Bool String

/-- A tenant admin signs in and is bootstrapped. -/
theorem choice_rides_own_session_alone :
    ∃ w : Desk, w.storage.readTenantChoice = "ten_alpha" ∧ ∀ f ∈ w.inFlight, RidesOwn id f := by
  have hin : Guarded (Step id) (WritesOwn id) (fresh : Desk)
      (.signIn false "u1" ⟨some .tenantAdmin⟩) _ :=
    ⟨trivial, .signIn false "u1" ⟨some .tenantAdmin⟩ (by decide)⟩
  refine ⟨_, ?_, choice_rides_own_session (.next (.next (.next .start hin)
    ⟨?_, .answer [] [] (.ok ⟨[⟨"ten_alpha"⟩]⟩) rfl⟩) ⟨?_, .request false⟩)⟩
  · rfl
  · rintro session retried hpurpose - - token htoken
    cases hpurpose
    cases htoken
    rfl
  · exact trivial

/-- The bootstrap of the first user is answered after the second one has signed in. -/
theorem choice_rides_other_session :
    ¬ ∀ (h : List (Desk × Event Bool String)) (w : Desk), Run (Step id) fresh h w →
      ∀ f ∈ w.inFlight, RidesOwn id f := by
  intro hall
  have hfirst : Step id (fresh : Desk) _ _ :=
    .signIn false "u1" ⟨some .tenantAdmin⟩ (by decide)
  have hsecond := (Run.start.next hfirst).next (.signIn true "u2" ⟨some .platform⟩ (by decide))
  have hlate := hsecond.next (.answer [] [] (.ok ⟨[⟨"ten_alpha"⟩]⟩) rfl)
  have hsent := hlate.next (.request true)
  have hother := hall _ _ hsent _ List.mem_cons_self "u2" "ten_alpha" (by decide) (by decide)
  exact absurd hother (by decide)

end Testkit.ConsoleTabs
