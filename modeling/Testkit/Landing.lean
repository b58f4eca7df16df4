import Testkit.ConsoleDoor
import Testkit.ConsoleGuards

/-! # Where a session lands

The login and the registration page store a new session, run the bootstrap again and push the
home of the user's type; the login page sends a visitor who has a session already to the same
home.  Whether they arrive is up to the guards, which look at the storage the bootstrap left.
A 401 on the way clears the storage and loads the login page, unless the form is on that one.

After a sign-in they do, whatever the last session left behind and whatever the server answers,
short of a 401 (`submit_lands`).  A visitor does unless the session is a drilled-down one, whose
home the page-change guard replaces, or has lost its user record (`visitor_lands_iff`).
-/
namespace Testkit
open LocalStorage

/-! ## The pages -/

/-- `postLoginTarget`. -/
def postLoginTarget (userType : Option UserType) : String :=
  if userType = some .platform then "/dashboard"
  else if userType = some .tenantAdmin then "/tenant/credentials"
  else "/profile"

/-- What `login` and `register` answer, as far as the pages read it. -/
structure SignInResponse where
  token : Option String
  user : Option ConsoleUser
  deriving DecidableEq, Repr

/-- What a page does with its location: through the history, or by `window.location.href`. -/
inductive Move
  | history (navigation : Navigation)
  | href (path : String)
  deriving DecidableEq, Repr

/-- `errorHandler`, after it has cleared the session. -/
def errorMoves (e : ApiError) (pathname : String) : List Move :=
  if e.status = some 401 ∧ ¬ startsWith pathname loginPath then [.href loginPath] else []

/-- The moves of a request through the shared request instance. -/
def requestMoves {α : Type} (send : ConsoleHeaders → Except ApiError α) (s : LocalStorage)
    (pathname : String) : List Move :=
  match send (requestInterceptor s) with
  | .ok _ => []
  | .error e => errorMoves e pathname

/-- The moves of `getInitialState`'s requests. -/
def bootMoves (first retry : ConsoleHeaders → Except ApiError WhoAmIResponse)
    (s : LocalStorage) (pathname : String) : List Move :=
  match s.user, s.sessionToken with
  | some currentUser, some _ =>
    if currentUser.userType ≠ some .tenantAdmin then []
    else
      requestMoves first s pathname ++
        match request first s with
        | (.ok _, _) => []
        | (.error err, s) =>
          if err.status = some 403 ∧ s.readTenantChoice ≠ "" then
            requestMoves retry s.clearTenantChoice pathname
          else []
  | _, _ => []

/-- `onFinish` of the login and the registration page: its moves, in their order, and the
storage it leaves.  `refresh` is `getInitialState` once more. -/
def submit (login : ConsoleHeaders → Except ApiError SignInResponse)
    (first retry : ConsoleHeaders → Except ApiError WhoAmIResponse) (s : LocalStorage)
    (pathname : String) : List Move × LocalStorage :=
  match request login s with
  | (.error e, s) => (errorMoves e pathname, s)
  | (.ok data, s) =>
    match data.token.filter (· ≠ ""), data.user with
    | some token, some user =>
      let s := s.signIn token user
      (bootMoves first retry s pathname ++ [.history (.push (postLoginTarget user.userType))],
        (getInitialState first retry s).2)
    | _, _ => ([], s)

/-- The effect of the login page: a visitor with a token is sent home. -/
def visitLogin (s : LocalStorage) : Option Navigation :=
  if s.sessionToken = none then none
  else some (.replace (postLoginTarget (s.user.bind ConsoleUser.userType)))

/-! ## The homes -/

/-- The entry a home asks for. -/
def homeAccess (userType : Option UserType) : AccessCode :=
  if userType = some .platform then .canPlatform
  else if userType = some .tenantAdmin then .canTenantAdmin
  else .canUser

/-- What holds of the three homes holds of every type's. -/
theorem home_cases {P : String → AccessCode → Prop} (userType : Option UserType)
    (hplatform : P "/dashboard" .canPlatform) (hadmin : P "/tenant/credentials" .canTenantAdmin)
    (hother : P "/profile" .canUser) : P (postLoginTarget userType) (homeAccess userType) := by
  unfold postLoginTarget homeAccess
  split_ifs
  · exact hplatform
  · exact hadmin
  · exact hother

/-- Every home is a declared page of the shell, with its own entry. -/
theorem leafAt_home (r : Router) (userType : Option UserType) :
    r.leafAt (postLoginTarget userType) =
      ⟨postLoginTarget userType, some (homeAccess userType), true, none⟩ := by
  have hhome := home_cases userType
    (P := fun path code => (⟨path, some code, true, none⟩ : Leaf) ∈ leaves ∧
      Leaf.Static ⟨path, some code, true, none⟩)
    (by decide +kernel) (by decide +kernel) (by decide +kernel)
  exact r.declared _ hhome.1 hhome.2

section Home
variable {s : LocalStorage} (hin : s.sessionToken.isSome)
include hin

/-- A session that is not drilled down stays on its home. -/
theorem settles_home (r : Router) (hdrilled : ¬ s.drilled) :
    Settles r s (postLoginTarget (s.user.bind ConsoleUser.userType)) ↔ s.user.isSome := by
  have hnone : ∀ pathname, onPageChange s pathname = none := by
    intro pathname
    simp [onPageChange, Option.isSome_iff_ne_none.mp hin, hdrilled]
  have hstays : ∀ n pathname, (moved s)^[n] pathname = pathname := by
    intro n pathname
    -- the guard leaves the page where it is, however often it runs
    induction n with
    | zero => rfl
    | succ n ih => rw [Function.iterate_succ_apply', ih, moved, hnone]
  have hhome : granted s (r.leafAt (postLoginTarget (s.user.bind ConsoleUser.userType))) ↔
      s.user.isSome := by
    rw [leafAt_home]
    cases huser : s.user with
    | none => simp [granted, homeAccess, access, huser]
    | some user =>
      rcases htype : user.userType with _ | _ | _ | _ <;>
        simp [granted, homeAccess, access, huser, htype, hin, hdrilled]
  constructor
  · rintro ⟨n, -, -, -, hgranted⟩
    rw [hstays] at hgranted
    exact hhome.mp hgranted
  · intro huser
    refine ⟨0, by omega, hnone _, ?_, hhome.mpr huser⟩
    rw [Function.iterate_zero_apply, leafAt_home]
    exact home_cases (P := fun path _ => path ≠ "*") _ (by decide) (by decide) (by decide)

/-- **Where a visitor with a session arrives.** -/
theorem visitor_lands_iff (r : Router) :
    ∃ path, visitLogin s = some (.replace path) ∧
      (Settles r s path ↔ s.user.isSome ∧ ¬ s.drilled) := by
  refine ⟨_, if_neg (Option.isSome_iff_ne_none.mp hin), ?_⟩
  by_cases hdrilled : s.drilled
  · -- the dashboard is not on the guard's list
    have htype : s.user.bind ConsoleUser.userType = some .platform := hdrilled.1
    have haway : ¬ LeftAlone "/dashboard" := by
      unfold LeftAlone
      decide +kernel
    rw [settles_iff_leftAlone hin hdrilled, htype]
    refine ⟨fun h => absurd h.1 haway, fun h => absurd hdrilled h.2⟩
  · rw [settles_home hin r hdrilled]
    exact ⟨fun huser => ⟨huser, hdrilled⟩, fun h => h.1⟩

end Home

/-- A platform operator in the view of a tenant who opens the login page. -/
theorem visitor_lands_iff_drilledDown : ∃ path, visitLogin drilledDown = some (.replace path) ∧
    (Settles literalRouter drilledDown path ↔ drilledDown.user.isSome ∧ ¬ drilledDown.drilled) :=
  visitor_lands_iff rfl literalRouter

/-! ## Sign-in -/

section Bootstrap
variable (first retry : ConsoleHeaders → Except ApiError WhoAmIResponse) {s : LocalStorage}
  {token : String} (htoken : s.sessionToken = some token) {user : ConsoleUser}
  (huser : s.user = some user) (hfresh : s.readTenantChoice = "")

include htoken huser in
/-- A session that is no tenant admin's is not asked about. -/
theorem boot_others (htype : user.userType ≠ some .tenantAdmin) (pathname : String) :
    (getInitialState first retry s).2 = s ∧ bootMoves first retry s pathname = [] := by
  constructor
  · simp [getInitialState, huser, htoken, htype]
  · simp [bootMoves, huser, htoken, htype]

section Admin
variable (htype : user.userType = some .tenantAdmin)
include htoken huser htype

/-- A tenant admin's comes out with one of the bindings of the answer. -/
theorem boot_answered {who : WhoAmIResponse} (hsent : first (requestInterceptor s) = .ok who)
    (pathname : String) :
    (getInitialState first retry s).2 = (ensureTenantChoice s who.memberships).2 ∧
      bootMoves first retry s pathname = [] := by
  constructor
  · simp [getInitialState, huser, htoken, htype, request, hsent]
  · simp [bootMoves, huser, htoken, htype, request, requestMoves, hsent]

include hfresh in
/-- Without a stored choice a failed `WhoAmI` is not repeated. -/
theorem boot_failed {e : ApiError} (hsent : first (requestInterceptor s) = .error e)
    (pathname : String) :
    (getInitialState first retry s).2 = errorHandler e s ∧
      bootMoves first retry s pathname = errorMoves e pathname := by
  have hread : (errorHandler e s).readTenantChoice = "" := by
    unfold errorHandler
    split
    · rfl
    · exact hfresh
  constructor
  · simp [getInitialState, huser, htoken, htype, request, hsent, hread]
  · simp [bootMoves, huser, htoken, htype, request, requestMoves, hsent, hread]

end Admin
end Bootstrap

/-- The choice a bootstrap leaves is none, or one of the bindings of its answer. -/
theorem ensureTenantChoice_mem (s : LocalStorage) (memberships : List TenantMembership)
    (hne : (ensureTenantChoice s memberships).2.readTenantChoice ≠ "") :
    ∃ m ∈ memberships,
      m.tenantKey = (ensureTenantChoice s memberships).2.readTenantChoice := by
  by_cases hbound : boundKeys memberships = []
  · exact absurd (by simp [ensureTenantChoice, hbound, writeTenantChoice, readTenantChoice]) hne
  · obtain ⟨key, hmem, hchoice, -⟩ := ensureTenantChoice_cases (s := s) hbound
    rw [readTenantChoice, hchoice]
    exact List.mem_map.mp (List.mem_filter.mp hmem).1

/-- Where a user of a type belongs. -/
structure HomeOf (user : ConsoleUser) (path : String) : Prop where
  platform : user.userType = some .platform → path = "/dashboard"
  admin : user.userType = some .tenantAdmin → path = "/tenant/credentials"
  other : user.userType ≠ some .platform → user.userType ≠ some .tenantAdmin →
    path = "/profile"

theorem homeOf_postLoginTarget (user : ConsoleUser) :
    HomeOf user (postLoginTarget user.userType) := by
  refine ⟨fun h => by rw [h]; rfl, fun h => by rw [h]; rfl, fun hplatform hadmin => ?_⟩
  rw [postLoginTarget, if_neg hplatform, if_neg hadmin]

/-- What a 401 does with the location: it loads the login page from any other one. -/
structure Expelled (pathname : String) (moves : List Move) : Prop where
  elsewhere : ¬ startsWith pathname "/user/login" → moves = [.href "/user/login"]
  there : startsWith pathname "/user/login" → moves = []

theorem expelled_errorMoves {e : ApiError} (he : e.status = some 401) (pathname : String) :
    Expelled pathname (errorMoves e pathname) :=
  ⟨fun h => if_pos ⟨he, h⟩, fun h => if_neg fun hnot => hnot.2 h⟩

/-- What a submitted form comes to, with the storage `s` before it: its moves and the storage
after it. -/
inductive Landed (r : Router) (login : ConsoleHeaders → Except ApiError SignInResponse)
    (first : ConsoleHeaders → Except ApiError WhoAmIResponse) (s : LocalStorage)
    (pathname : String) : List Move → LocalStorage → Prop
  /-- No session is answered, and nothing happens. -/
  | refused : (∀ token user, login (requestInterceptor s) = .ok ⟨some token, some user⟩ →
      token = "") → login (requestInterceptor s) ≠ .error ⟨some 401⟩ →
      Landed r login first s pathname [] s
  /-- The call is answered 401, which ends the session there was. -/
  | unauthorized {moves : List Move} : login (requestInterceptor s) = .error ⟨some 401⟩ →
      Expelled pathname moves → Landed r login first s pathname moves .empty
  /-- The new session comes to rest on its home, and a choice is one of its own bindings. -/
  | home {token path : String} {user : ConsoleUser} {s' : LocalStorage} :
      login (requestInterceptor s) = .ok ⟨some token, some user⟩ → HomeOf user path →
      s'.token = some token → s'.user = some user → Settles r s' path →
      (s'.readTenantChoice ≠ "" → user.userType = some .tenantAdmin ∧
        ∃ who, first (requestInterceptor (s.signIn token user)) = .ok who ∧
          ∃ m ∈ who.memberships, m.tenantKey = s'.readTenantChoice) →
      Landed r login first s pathname [.history (.push path)] s'
  /-- `WhoAmI` is answered 401: the new session is gone, and its home no place to stay. -/
  | expired {token path : String} {user : ConsoleUser} {moves : List Move} :
      login (requestInterceptor s) = .ok ⟨some token, some user⟩ → HomeOf user path →
      first (requestInterceptor (s.signIn token user)) = .error ⟨some 401⟩ →
      Expelled pathname moves → onPageChange .empty path = some (.push "/user/login") →
      Landed r login first s pathname (moves ++ [.history (.push path)]) .empty

/-- A session that is there and has no choice but a tenant admin's is at home. -/
theorem settles_of_signIn (r : Router) {s : LocalStorage} {token : String} {user : ConsoleUser}
    (htoken : s.sessionToken = some token) (huser : s.user = some user)
    (hchoice : s.readTenantChoice ≠ "" → user.userType = some .tenantAdmin) :
    Settles r s (postLoginTarget user.userType) := by
  have hdrilled : ¬ s.drilled := by
    -- only a platform operator is drilled down
    rintro ⟨hplatform, hne⟩
    rw [huser] at hplatform
    exact absurd ((hchoice hne).symm.trans hplatform) (by decide)
  have hsettles := settles_home (htoken ▸ rfl : s.sessionToken.isSome) r hdrilled
  rw [huser] at hsettles
  exact hsettles.mpr rfl

/-- The bootstrap of a new session. -/
theorem boot_lands (r : Router) {login : ConsoleHeaders → Except ApiError SignInResponse}
    (first retry : ConsoleHeaders → Except ApiError WhoAmIResponse) {s : LocalStorage}
    (pathname : String) {token : String} {user : ConsoleUser}
    (hanswer : login (requestInterceptor s) = .ok ⟨some token, some user⟩) (hne : token ≠ "") :
    Landed r login first s pathname
      (bootMoves first retry (s.signIn token user) pathname ++
        [.history (.push (postLoginTarget user.userType))])
      (getInitialState first retry (s.signIn token user)).2 := by
  have htoken : (s.signIn token user).sessionToken = some token := by
    simp [signIn, sessionToken, Option.filter, hne]
  have hhome := homeOf_postLoginTarget user
  have hstays := settles_of_signIn r htoken rfl fun hchosen => absurd rfl hchosen
  by_cases htype : user.userType = some .tenantAdmin
  · cases hsent : first (requestInterceptor (s.signIn token user)) with
    | ok who =>
      obtain ⟨hbooted, hmoves⟩ := boot_answered first retry htoken rfl htype hsent pathname
      obtain ⟨htok, husr⟩ := ensureTenantChoice_session (s.signIn token user) who.memberships
      rw [hbooted, hmoves]
      have hin : (ensureTenantChoice (s.signIn token user) who.memberships).2.sessionToken =
          some token := by
        rw [sessionToken, htok]
        exact htoken
      exact .home hanswer hhome htok husr (settles_of_signIn r hin husr fun _ => htype)
        fun hchosen => ⟨htype, who, hsent, ensureTenantChoice_mem _ _ hchosen⟩
    | error e =>
      obtain ⟨hbooted, hmoves⟩ :=
        boot_failed first retry htoken rfl rfl htype hsent pathname
      rw [hbooted, hmoves, errorHandler]
      split
      · rename_i he
        obtain rfl : e = ⟨some 401⟩ := congrArg ApiError.mk he
        exact .expired hanswer hhome hsent (expelled_errorMoves rfl pathname) (home_cases
          (P := fun path _ => onPageChange .empty path = some (.push loginPath)) _
          (by decide) (by decide) (by decide))
      · rename_i he
        rw [errorMoves, if_neg fun h => he h.1]
        exact .home hanswer hhome rfl rfl hstays fun hchosen => absurd rfl hchosen
  · obtain ⟨hbooted, hmoves⟩ := boot_others first retry htoken rfl htype pathname
    rw [hbooted, hmoves]
    exact .home hanswer hhome rfl rfl hstays fun hchosen => absurd rfl hchosen

/-- **A sign-in lands**, for every storage, page and answer. -/
theorem submit_lands (r : Router) (login : ConsoleHeaders → Except ApiError SignInResponse)
    (first retry : ConsoleHeaders → Except ApiError WhoAmIResponse) (s : LocalStorage)
    (pathname : String) :
    Landed r login first s pathname (submit login first retry s pathname).1
      (submit login first retry s pathname).2 := by
  cases hanswer : login (requestInterceptor s) with
  | error e =>
    simp only [submit, request, hanswer, errorHandler]
    split
    · rename_i he
      obtain rfl : e = ⟨some 401⟩ := congrArg ApiError.mk he
      exact .unauthorized hanswer (expelled_errorMoves rfl pathname)
    · rename_i he
      rw [errorMoves, if_neg fun h => he h.1]
      refine .refused (fun token user h => ?_) fun h => ?_
      · rw [hanswer] at h
        cases h
      · rw [hanswer] at h
        exact he (congrArg ApiError.status (Except.error.inj h))
  | ok data =>
    obtain ⟨token, user⟩ := data
    have hnone (h : ∀ token' user', SignInResponse.mk token user = ⟨some token', some user'⟩ →
        token' = "") : Landed r login first s pathname [] s := by
      refine .refused (fun token' user' h' => h token' user' ?_) fun h' => ?_
      · exact Except.ok.inj (hanswer.symm.trans h')
      · rw [hanswer] at h'
        cases h'
    simp only [submit, request, hanswer]
    cases htoken : token.filter (· ≠ "") with
    | none =>
      refine hnone fun token' user' h => ?_
      obtain ⟨rfl, rfl⟩ := SignInResponse.mk.inj h
      by_contra hne
      simp [Option.filter, hne] at htoken
    | some token' =>
      obtain ⟨rfl, hne⟩ := Option.filter_eq_some_iff.mp htoken
      cases user with
      | none => exact hnone fun _ _ h => by cases (SignInResponse.mk.inj h).2
      | some user => exact boot_lands r first retry pathname hanswer (of_decide_eq_true hne)

-- a registration that is answered 401 ends on the login page
example : submit (fun _ => .error ⟨some 401⟩) (fun _ => .error ⟨none⟩) (fun _ => .error ⟨none⟩)
    .empty "/user/register" = ([.href "/user/login"], .empty) := by
  decide

end Testkit
