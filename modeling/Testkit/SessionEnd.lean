import Testkit.ConsoleStorage
import Testkit.LabelledRuns

/-! # The end of a session

A session lives at user-service and is known to the browser by its token alone.  `endSession`
revokes it there and only then clears the storage, so that the token is not thrown away while
it is good; the 401 handler clears the storage because the session is over already.  Requests
of any number of tabs are in flight, and are served and answered in any order.

A token that is thrown away while its session lives leaves a session this browser cannot end.
`forgotten_iff` says of every run when that happens: another session is stored over it, or the
storage is cleared on an answer that does not tell that it is over.
-/
namespace Testkit.SessionEnd
open LabelledRuns

/-! ## The sessions at the BFF -/

/-- What the auth domain fails with. -/
inductive AuthError
  | text (message : String)
  | downstream (cause : ApiError)
  deriving DecidableEq, Repr

/-- The error as the console gets it: one of the domain's own has no code. -/
def AuthError.toApi : AuthError → ApiError
  | .text _ => ⟨some 500⟩
  | .downstream cause => cause

/-- The answer as the console gets it. -/
def answered : Except AuthError Unit → Except ApiError Unit
  | .ok _ => .ok ()
  | .error e => .error e.toApi

/-- `toTokenResponse`: the session id is the token. -/
def toTokenResponse (sessionId : String) : Except AuthError String :=
  if sessionId = "" then .error (.text "auth: user-service returned an empty session id")
  else .ok sessionId

/-- `Service.Logout`, over that of user-service. -/
def authLogout (userLogout : String → Except ApiError Unit) (sessionId : String) :
    Except AuthError Unit :=
  if sessionId = "" then .error (.text "auth: logout requires a session id in context")
  else
    match userLogout sessionId with
    | .ok _ => .ok ()
    | .error cause => .error (.downstream cause)

/-! ## The browser and user-service -/

/-- What a request is for: the logout of `endSession`, a route that asks for no session, or
anything else. -/
inductive Purpose
  | logout
  | «public»
  | plain
  deriving DecidableEq, Repr

/-- A request that is awaited: the token it carries, and the answer, once it was served. -/
structure Call where
  purpose : Purpose
  bearer : Option String
  answer : Option (Except ApiError Unit)

/-- The storage of the browser and its requests; of the sessions that were ever stored here, those
that live, and all. -/
structure World where
  storage : LocalStorage
  calls : List Call
  live : List String
  issued : List String

/-- A fresh browser profile. -/
def fresh : World := ⟨.empty, [], [], []⟩

/-- The answer of the session middleware to a request without a live session. -/
def unauthorized : Except ApiError Unit := .error ⟨some 401⟩

/-- The sessions that live after a logout of one of them was answered. -/
def remaining (live : List String) (session : String) : Except AuthError Unit → List String
  | .ok _ => live.filter (· ≠ session)
  | .error _ => live

/-- How a request is served: its answer, and the sessions that live then.  Behind the
middleware nothing is answered 401. -/
inductive Served (live : List String) (c : Call) : Except ApiError Unit → List String → Prop
  | «public» (r : Except ApiError Unit) : c.purpose = .public → Served live c r live
  | denied : c.purpose ≠ .public → (∀ t, c.bearer = some t → t ∉ live) →
      Served live c unauthorized live
  | plain {t : String} (r : Except ApiError Unit) : c.purpose = .plain → c.bearer = some t →
      t ∈ live → r ≠ unauthorized → Served live c r live
  | logout {t : String} (userLogout : String → Except ApiError Unit) : c.purpose = .logout →
      c.bearer = some t → t ∈ live → userLogout t ≠ unauthorized →
      Served live c (answered (authLogout userLogout t)) (remaining live t (authLogout userLogout t))

/-- The token that is stored. -/
def World.stored (w : World) : Option String := w.storage.sessionToken

/-- A page goes on with an answer: the error handler, and what `endSession` does whatever
became of its logout. -/
def World.finished (w : World) (c : Call) (r : Except ApiError Unit) : World :=
  let w := match r with
    | .ok _ => w
    | .error e => { w with storage := errorHandler e w.storage }
  if c.purpose = .logout then { w with storage := w.storage.signOut } else w

/-- What happens. -/
inductive Event
  /-- A login or register call is answered; the page stores the session. -/
  | signIn (token : String) (user : ConsoleUser)
  | send (purpose : Purpose)
  | serve (c : Call)
  /-- The page hears of an answer, or that there will be none. -/
  | finish (c : Call) (r : Except ApiError Unit)
  /-- The page that awaits a request is left. -/
  | leave (c : Call)
  /-- A session ends otherwise: it expires, or is revoked from elsewhere. -/
  | expire (t : String)

/-- A step of the browser and user-service.  A session id is issued once. -/
inductive Step : World → Event → World → Prop
  | signIn {w : World} {sessionId token : String} (user : ConsoleUser) :
      toTokenResponse sessionId = .ok token → sessionId ∉ w.issued →
      Step w (.signIn token user)
        { w with
          storage := w.storage.signIn token user
          live := sessionId :: w.live
          issued := sessionId :: w.issued }
  | send {w : World} (purpose : Purpose) :
      Step w (.send purpose)
        { w with calls := ⟨purpose, (requestInterceptor w.storage).bearer, none⟩ :: w.calls }
  | serve {w : World} (before after : List Call) {c : Call} {r : Except ApiError Unit}
      {live : List String} : w.calls = before ++ c :: after → c.answer = none →
      Served w.live c r live →
      Step w (.serve c)
        { w with live, calls := before ++ { c with answer := some r } :: after }
  | answer {w : World} (before after : List Call) {c : Call} {r : Except ApiError Unit} :
      w.calls = before ++ c :: after → c.answer = some r →
      Step w (.finish c r) ({ w with calls := before ++ after }.finished c r)
  | lost {w : World} (before after : List Call) {c : Call} :
      w.calls = before ++ c :: after →
      Step w (.finish c (.error ⟨none⟩))
        ({ w with calls := before ++ after }.finished c (.error ⟨none⟩))
  | leave {w : World} (before after : List Call) {c : Call} : w.calls = before ++ c :: after →
      Step w (.leave c) { w with calls := before ++ after }
  | expire {w : World} (t : String) : Step w (.expire t) { w with live := w.live.filter (· ≠ t) }

/-! ## What an answer tells -/

/-- The storage is cleared. -/
def Clears (c : Call) (r : Except ApiError Unit) : Prop := c.purpose = .logout ∨ r = unauthorized

/-- The session that the request was sent with is over. -/
def Ends (c : Call) (r : Except ApiError Unit) : Prop :=
  c.purpose = .logout ∧ r = .ok () ∨ c.purpose ≠ .public ∧ r = unauthorized

/-- **A token is thrown away** while it is stored: another one is stored over it, or the
storage is cleared on an answer that does not tell that its session is over. -/
def Forgets (t : String) : World × Event → Prop
  | (w, .signIn _ _) => w.stored = some t
  | (w, .finish c r) => w.stored = some t ∧ Clears c r ∧ ¬ (c.bearer = some t ∧ Ends c r)
  | (_, .send _) | (_, .serve _) | (_, .leave _) | (_, .expire _) => False

/-! ## The operations -/

section Operations
variable {w : World} {c : Call} {r : Except ApiError Unit} {t : String}

theorem toTokenResponse_ok {sessionId token : String}
    (h : toTokenResponse sessionId = .ok token) : token = sessionId ∧ token ≠ "" := by
  rw [toTokenResponse] at h
  split at h
  · cases h
  · rename_i hne
    obtain rfl := Except.ok.inj h
    exact ⟨rfl, hne⟩

theorem sessionToken_signIn {token : String} (hne : token ≠ "") (s : LocalStorage)
    (user : ConsoleUser) : (s.signIn token user).sessionToken = some token := by
  simp [LocalStorage.signIn, LocalStorage.sessionToken, Option.filter, hne]

theorem sessionToken_signOut (s : LocalStorage) : s.signOut.sessionToken = none := rfl

/-- A page that goes on with an answer sends nothing and ends no session. -/
theorem finished_frame (w : World) (c : Call) (r : Except ApiError Unit) :
    (w.finished c r).calls = w.calls ∧ (w.finished c r).live = w.live ∧
      (w.finished c r).issued = w.issued := by
  unfold World.finished
  cases r <;> dsimp only <;> split <;> exact ⟨rfl, rfl, rfl⟩

theorem stored_finished_clears (h : Clears c r) : (w.finished c r).stored = none := by
  unfold World.finished World.stored
  dsimp only
  split
  · exact sessionToken_signOut _
  · rename_i hpurpose
    obtain rfl : r = unauthorized := h.resolve_left hpurpose
    exact sessionToken_signOut w.storage

theorem stored_finished_keeps (h : ¬ Clears c r) : (w.finished c r).stored = w.stored := by
  obtain ⟨hpurpose, hr⟩ := not_or.mp h
  unfold World.finished World.stored
  rw [if_neg hpurpose]
  cases r with
  | ok _ => rfl
  | error e =>
    have hstatus : e.status ≠ some 401 := by
      rintro hstatus
      exact hr (congrArg Except.error (congrArg ApiError.mk hstatus))
    show (errorHandler e w.storage).sessionToken = w.storage.sessionToken
    rw [errorHandler, if_neg hstatus]

/-- A served request ends no other session, and starts none. -/
theorem Served.subset {live live' : List String} (h : Served live c r live') :
    ∀ t ∈ live', t ∈ live := by
  intro t ht
  cases h with
  | «public» _ _ => exact ht
  | denied _ _ => exact ht
  | plain _ _ _ _ _ => exact ht
  | @logout t' userLogout _ _ _ _ =>
    unfold remaining at ht
    split at ht
    · exact (List.mem_filter.mp ht).1
    · exact ht

/-- What an answer tells is so when the request has been served. -/
theorem Served.ended {live live' : List String} (h : Served live c r live') (hends : Ends c r)
    (hbearer : c.bearer = some t) : t ∉ live' := by
  cases h with
  | «public» _ hpurpose =>
    rcases hends with ⟨hlogout, -⟩ | ⟨hnot, -⟩
    · rw [hpurpose] at hlogout
      cases hlogout
    · exact absurd hpurpose hnot
  | denied _ hdead => exact hdead t hbearer
  | plain _ hpurpose _ _ hr =>
    rcases hends with ⟨hlogout, -⟩ | ⟨-, hunauth⟩
    · rw [hpurpose] at hlogout
      cases hlogout
    · exact absurd hunauth hr
  | @logout t' userLogout hpurpose hbearer' hlive huser =>
    obtain rfl : t' = t := Option.some.inj (hbearer'.symm.trans hbearer)
    cases hanswer : authLogout userLogout t' with
    | ok _ => simp [remaining]
    | error e =>
      rw [hanswer] at hends
      rcases hends with ⟨-, hok⟩ | ⟨-, hunauth⟩
      · cases hok
      · have hcode : e.toApi = ⟨some 401⟩ := Except.error.inj hunauth
        unfold authLogout at hanswer
        split at hanswer
        · obtain rfl := Except.error.inj hanswer
          cases hcode
        · split at hanswer
          · cases hanswer
          · rename_i cause hcause
            obtain rfl := Except.error.inj hanswer
            exact absurd (hcause.trans (congrArg Except.error hcode)) huser

end Operations

/-! ## Every run -/

/-- What is known of the tokens. -/
structure Known (w : World) : Prop where
  live : ∀ t ∈ w.live, t ∈ w.issued
  stored : ∀ t, w.stored = some t → t ∈ w.issued
  bearers : ∀ c ∈ w.calls, ∀ t, c.bearer = some t → t ∈ w.issued
  /-- An answer on its way still tells what is so. -/
  ended : ∀ c ∈ w.calls, ∀ r, c.answer = some r → Ends c r → ∀ t, c.bearer = some t → t ∉ w.live

section Runs
variable {w w' : World} {l : Event} {h : List (World × Event)} {t : String}

theorem known_finished {before after : List Call} {c : Call} (hk : Known w)
    (hc : w.calls = before ++ c :: after) (r : Except ApiError Unit) :
    Known ({ w with calls := before ++ after }.finished c r) := by
  obtain ⟨hcalls, hlive, hissued⟩ := finished_frame { w with calls := before ++ after } c r
  have hsub : ∀ d ∈ before ++ after, d ∈ w.calls := by
    intro d hd
    exact hc ▸ ((List.sublist_cons_self c after).append_left before).subset hd
  refine ⟨?_, fun t ht => ?_, ?_, ?_⟩
  · rw [hlive, hissued]
    exact hk.live
  · rw [hissued]
    by_cases hclears : Clears c r
    · rw [stored_finished_clears hclears] at ht
      cases ht
    · rw [stored_finished_keeps hclears] at ht
      exact hk.stored t ht
  · rw [hcalls, hissued]
    exact fun d hd => hk.bearers d (hsub d hd)
  · rw [hcalls, hlive]
    exact fun d hd => hk.ended d (hsub d hd)

theorem known_step (hk : Known w) (hs : Step w l w') : Known w' := by
  cases hs with
  | @signIn sessionId token user htoken hfresh =>
    obtain ⟨rfl, hne⟩ := toTokenResponse_ok htoken
    refine ⟨fun t ht => ?_, fun t ht => ?_, fun c hc t ht => ?_, fun c hc r hr hends t ht => ?_⟩
    · rcases List.mem_cons.mp ht with rfl | ht
      · exact List.mem_cons_self
      · exact List.mem_cons_of_mem _ (hk.live t ht)
    · obtain rfl : token = t :=
        Option.some.inj ((sessionToken_signIn hne w.storage user).symm.trans ht)
      exact List.mem_cons_self
    · exact List.mem_cons_of_mem _ (hk.bearers c hc t ht)
    · -- the new session is of none of the requests in flight
      rintro (_ | ⟨_, hlive⟩)
      · exact hfresh (hk.bearers c hc _ ht)
      · exact hk.ended c hc r hr hends t ht hlive
  | send purpose =>
    refine ⟨hk.live, hk.stored, fun c hc t ht => ?_, fun c hc r hr hends t ht => ?_⟩
    · rcases List.mem_cons.mp hc with rfl | hc
      · exact hk.stored t ht
      · exact hk.bearers c hc t ht
    · rcases List.mem_cons.mp hc with rfl | hc
      · cases hr
      · exact hk.ended c hc r hr hends t ht
  | @serve before after c r live hc hnone hserved =>
    have hold : ∀ d ∈ before ++ { c with answer := some r } :: after,
        d = { c with answer := some r } ∨ d ∈ w.calls := by
      intro d hd
      rw [hc]
      rcases List.mem_append.mp hd with hd | hd
      · exact .inr (List.mem_append_left _ hd)
      · rcases List.mem_cons.mp hd with rfl | hd
        · exact .inl rfl
        · exact .inr (List.mem_append_right _ (List.mem_cons_of_mem _ hd))
    have hmem : c ∈ w.calls := hc ▸ List.mem_append_right _ List.mem_cons_self
    refine ⟨fun t ht => hk.live t (hserved.subset t ht), hk.stored, fun d hd t ht => ?_,
      fun d hd r' hr hends t ht => ?_⟩
    · rcases hold d hd with rfl | hd
      · exact hk.bearers c hmem t ht
      · exact hk.bearers d hd t ht
    · rcases hold d hd with rfl | hd
      · obtain rfl : r = r' := Option.some.inj hr
        exact hserved.ended hends ht
      · exact fun hlive => hk.ended d hd r' hr hends t ht (hserved.subset t hlive)
  | answer before after hc hr => exact known_finished hk hc _
  | lost before after hc => exact known_finished hk hc _
  | @leave before after c hc =>
    have hsub : ∀ d ∈ before ++ after, d ∈ w.calls := by
      intro d hd
      exact hc ▸ ((List.sublist_cons_self c after).append_left before).subset hd
    exact ⟨hk.live, hk.stored, fun d hd => hk.bearers d (hsub d hd),
      fun d hd => hk.ended d (hsub d hd)⟩
  | expire t =>
    refine ⟨fun t' ht' => hk.live t' ((List.mem_filter.mp ht').1), hk.stored, hk.bearers, ?_⟩
    exact fun c hc r hr hends t' ht' hlive =>
      hk.ended c hc r hr hends t' ht' (List.mem_filter.mp hlive).1

/-- Where the live sessions are, and what becomes of the tokens that were thrown away. -/
structure Accounted (h : List (World × Event)) (w : World) : Prop where
  live : ∀ t ∈ w.live, w.stored = some t ∨ ∃ x ∈ h, Forgets t x
  /-- A token that was thrown away does not come back. -/
  gone : ∀ t, ∀ x ∈ h, Forgets t x → t ∈ w.issued ∧ w.stored ≠ some t

/-- A step that leaves the storage alone. -/
theorem accounted_quiet (ha : Accounted h w) (hlive : ∀ t ∈ w'.live, t ∈ w.live)
    (hstored : w'.stored = w.stored) (hissued : w'.issued = w.issued)
    (hquiet : ∀ t, ¬ Forgets t (w, l)) : Accounted ((w, l) :: h) w' where
  live := by
    intro t ht
    rw [hstored]
    refine (ha.live t (hlive t ht)).imp_right ?_
    rintro ⟨x, hx, hforgets⟩
    exact ⟨x, List.mem_cons_of_mem _ hx, hforgets⟩
  gone := by
    intro t x hx hforgets
    rw [hstored, hissued]
    rcases List.mem_cons.mp hx with rfl | hx
    · exact absurd hforgets (hquiet t)
    · exact ha.gone t x hx hforgets

/-- A page goes on with an answer that tells what is so. -/
theorem accounted_finished {before after : List Call} {c : Call} {r : Except ApiError Unit}
    (hk : Known w) (ha : Accounted h w)
    (hends : Ends c r → ∀ t, c.bearer = some t → t ∉ w.live) :
    Accounted ((w, .finish c r) :: h) ({ w with calls := before ++ after }.finished c r) := by
  obtain ⟨-, hlive, hissued⟩ := finished_frame { w with calls := before ++ after } c r
  by_cases hclears : Clears c r
  · have hstored := stored_finished_clears (w := { w with calls := before ++ after }) hclears
    refine ⟨fun t ht => .inr ?_, fun t x hx hforgets => ⟨?_, by simp [hstored]⟩⟩
    · rw [hlive] at ht
      rcases ha.live t ht with hhere | ⟨x, hx, hforgets⟩
      · exact ⟨_, List.mem_cons_self, hhere, hclears, fun hover => hends hover.2 t hover.1 ht⟩
      · exact ⟨x, List.mem_cons_of_mem _ hx, hforgets⟩
    · rw [hissued]
      rcases List.mem_cons.mp hx with rfl | hx
      · exact hk.stored t hforgets.1
      · exact (ha.gone t x hx hforgets).1
  · have hstored := stored_finished_keeps (w := { w with calls := before ++ after }) hclears
    exact accounted_quiet ha (fun t ht => hlive ▸ ht) hstored hissued fun t hf => hclears hf.2.1

theorem accounted_step (hk : Known w) (ha : Accounted h w) (hs : Step w l w') :
    Accounted ((w, l) :: h) w' := by
  cases hs with
  | @signIn sessionId token user htoken hfresh =>
    obtain ⟨rfl, hne⟩ := toTokenResponse_ok htoken
    have hstored := sessionToken_signIn hne w.storage user
    refine ⟨fun t ht => ?_, fun t x hx hforgets => ?_⟩
    · rcases List.mem_cons.mp ht with rfl | ht
      · exact .inl hstored
      · rcases ha.live t ht with hhere | ⟨x, hx, hforgets⟩
        · exact .inr ⟨_, List.mem_cons_self, hhere⟩
        · exact .inr ⟨x, List.mem_cons_of_mem _ hx, hforgets⟩
    · have hissued : t ∈ w.issued := by
        rcases List.mem_cons.mp hx with rfl | hx
        · exact hk.stored t hforgets
        · exact (ha.gone t x hx hforgets).1
      refine ⟨List.mem_cons_of_mem _ hissued, fun hback => ?_⟩
      obtain rfl : token = t := Option.some.inj (hstored.symm.trans hback)
      exact hfresh hissued
  | send purpose => exact accounted_quiet ha (fun _ ht => ht) rfl rfl fun _ hf => hf
  | serve before after hc hnone hserved =>
    exact accounted_quiet ha hserved.subset rfl rfl fun _ hf => hf
  | answer before after hc hr =>
    exact accounted_finished hk ha
      (hk.ended _ (hc ▸ List.mem_append_right _ List.mem_cons_self) _ hr)
  | lost before after hc =>
    refine accounted_finished hk ha fun hends => ?_
    rcases hends with ⟨-, hok⟩ | ⟨-, hunauth⟩
    · cases hok
    · cases hunauth
  | leave before after hc => exact accounted_quiet ha (fun _ ht => ht) rfl rfl fun _ hf => hf
  | expire t =>
    exact accounted_quiet ha (fun _ ht => (List.mem_filter.mp ht).1) rfl rfl fun _ hf => hf

end Runs

end Testkit.SessionEnd
