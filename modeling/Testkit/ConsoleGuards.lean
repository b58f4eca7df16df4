import Mathlib.Logic.Function.Iterate
import Testkit.ConsoleRoutes

/-! # The guards of the console

`render` runs before the router when the app is loaded; `layout.onPageChange` belongs to the
shell and runs on every page the shell draws.  Both look at the pathname alone, by the
texts it starts with, and not at the route table.
-/
namespace Testkit

/-! ## What the guards do -/

/-- What a guard does with the history. -/
inductive Navigation
  | push (path : String)
  | replace (path : String)
  deriving DecidableEq, Repr

/-- `LOGIN_PATH`. -/
def loginPath : String := "/user/login"

/-- `PUBLIC_PREFIX`. -/
def publicPrefix : String := "/user/"

/-- `render`, before it renders. -/
def render (s : LocalStorage) (pathname : String) : Option Navigation :=
  if s.sessionToken = none ∧ ¬ startsWith pathname publicPrefix then some (.push loginPath)
  else none

/-- `tenantVisible`: what the guard leaves a drilled-down session. -/
def tenantVisible : List String :=
  ["/tenant/credentials", "/tenant/files", "/files", "/storage", "/profile", "/identity",
    "/sessions", "/message/admin", "/telemetry"]

/-- Where it sends the rest. -/
def tenantHome : String := "/tenant/capabilities"

/-- `layout.onPageChange`. -/
def onPageChange (s : LocalStorage) (pathname : String) : Option Navigation :=
  let onLogin := startsWith pathname loginPath
  if s.sessionToken = none ∧ ¬ onLogin then some (.push loginPath)
  else if s.drilled ∧ ¬ onLogin then
    if tenantVisible.any (startsWith pathname) then none else some (.replace tenantHome)
  else none

/-! ## Visitors without a session -/

/-- What the guards do when the app is loaded at a pathname. -/
def loaded (r : Router) (s : LocalStorage) (pathname : String) : Option Navigation :=
  (render s pathname).or (if (r.leafAt pathname).shell then onPageChange s pathname else none)

/-- The public surfaces: login and registration, and the file-link pages. -/
def PublicSurface (pathname : String) : Prop :=
  startsWith pathname publicPrefix ∨ IsLinkPage pathname

/-- A visitor without a session is sent to the login page where they should be: when the app
is loaded, and when they come to another page of the shell. -/
structure SentWhereNotPublic (r : Router) (s : LocalStorage) (pathname : String) : Prop where
  load : loaded r s pathname = some (.push loginPath) ↔ ¬ PublicSurface pathname
  change : (r.leafAt pathname).shell →
    (onPageChange s pathname = some (.push loginPath) ↔ ¬ PublicSurface pathname)

/-- Login and registration are drawn without the shell. -/
theorem shell_of_publicPrefix (r : Router) {pathname : String}
    (h : startsWith pathname publicPrefix) : (r.leafAt pathname).shell = false := by
  have htable : ∀ l ∈ leavesUnder publicPrefix, l.shell = false := by decide +kernel
  exact htable _ (r.leafAt_mem_leavesUnder (by decide) h)

/-- A file link is under no public text. -/
theorem linkPage_not_public {pathname : String} (h : IsLinkPage pathname) :
    ¬ startsWith pathname publicPrefix := by
  intro hpublic
  have hlink := (isLinkPage_iff.mp h).1
  rcases List.prefix_or_prefix_of_prefix (startsWith_iff.mp hpublic) (startsWith_iff.mp hlink)
    with h | h
  · exact absurd h (by decide)
  · exact absurd h (by decide)

/-- In the shell the page-change guard lets nobody without a session stay. -/
theorem onPageChange_shell (r : Router) {s : LocalStorage} (hanon : s.sessionToken = none)
    {pathname : String} (hshell : (r.leafAt pathname).shell) :
    onPageChange s pathname = some (.push loginPath) := by
  have hpublic : ¬ startsWith pathname publicPrefix := by
    intro h
    rw [shell_of_publicPrefix r h] at hshell
    cases hshell
  have hlogin : ¬ startsWith pathname loginPath := by
    intro h
    refine hpublic (startsWith_iff.mpr (List.IsPrefix.trans ?_ (startsWith_iff.mp h)))
    decide +kernel
  simp [onPageChange, hanon, hlogin]

/-- Loading a page without a session: everything but login and registration is sent away,
whatever is drawn there. -/
theorem loaded_anonymous (r : Router) {s : LocalStorage} (hanon : s.sessionToken = none)
    (pathname : String) :
    loaded r s pathname = some (.push loginPath) ↔ ¬ startsWith pathname publicPrefix := by
  by_cases hpublic : startsWith pathname publicPrefix
  · simp [loaded, render, hpublic, shell_of_publicPrefix r hpublic]
  · simp [loaded, render, hanon, hpublic]

/-- **Where the guards get the public surfaces right**: on every pathname but the file-link
pages, which the anonymous recipients of the links are sent away from. -/
theorem sentWhereNotPublic_iff (r : Router) (s : LocalStorage) (hanon : s.sessionToken = none)
    (pathname : String) : SentWhereNotPublic r s pathname ↔ ¬ IsLinkPage pathname := by
  constructor
  · rintro ⟨hload, -⟩ hlink
    have hsent := (loaded_anonymous r hanon pathname).mpr (linkPage_not_public hlink)
    exact hload.mp hsent (.inr hlink)
  · intro hlink
    have hsurface : PublicSurface pathname ↔ startsWith pathname publicPrefix :=
      ⟨fun h => h.resolve_right hlink, .inl⟩
    refine ⟨by rw [loaded_anonymous r hanon, hsurface], fun hshell => ?_⟩
    rw [onPageChange_shell r hanon hshell, hsurface]
    refine ⟨fun _ hpublic => ?_, fun _ => rfl⟩
    rw [shell_of_publicPrefix r hpublic] at hshell
    cases hshell

/-- A visitor of the first dashboard. -/
theorem sentWhereNotPublic_dashboard :
    SentWhereNotPublic literalRouter .empty "/dashboard" ↔ ¬ IsLinkPage "/dashboard" :=
  sentWhereNotPublic_iff literalRouter .empty rfl "/dashboard"

/-- The recipient of a link is sent to the login page. -/
theorem linkPage_sent_away : ¬ SentWhereNotPublic literalRouter .empty "/link/tok" := by
  intro h
  exact h.load.mp (by decide) (.inr (by decide))

/-! ### The door of the download page -/

/-- `WithPublicPrefixes`: what the edge serves without a session. -/
def publicPrefixes : List String := ["/api/v1/social/", "/api/v1/links/", "/v1/e/"]

/-- `getFileLinkDownload`'s path. -/
def linkDownloadPath (token : String) : String := "/api/v1/links/" ++ token ++ "/download"

/-- The edge would serve the page of every token. -/
theorem linkDownload_public (token : String) :
    publicPrefixes.any (startsWith (linkDownloadPath token)) := by
  refine List.any_eq_true.mpr ⟨"/api/v1/links/", by decide, startsWith_iff.mpr ?_⟩
  rw [linkDownloadPath, String.toList_append, String.toList_append, List.append_assoc]
  exact List.prefix_append _ _

/-! ## Drilled-down sessions -/

/-- The location after the guard has run. -/
def moved (s : LocalStorage) (pathname : String) : String :=
  match onPageChange s pathname with
  | none => pathname
  | some (.push path) => path
  | some (.replace path) => path

/-- Whether `access()` grants the page; a page without an entry is open. -/
def granted (s : LocalStorage) (l : Leaf) : Bool := l.access.all (access s)

/-- The guard, applied again and again, stops after at most one replacement, at a declared
page that is granted. -/
def Settles (r : Router) (s : LocalStorage) (pathname : String) : Prop :=
  ∃ n ≤ 1, onPageChange s ((moved s)^[n] pathname) = none ∧
    (r.leafAt ((moved s)^[n] pathname)).path ≠ "*" ∧
    granted s (r.leafAt ((moved s)^[n] pathname))

/-- What the guard leaves alone in a drilled-down session. -/
def LeftAlone (pathname : String) : Prop :=
  ∃ text ∈ loginPath :: tenantVisible, startsWith pathname text

/-- Of the platform's leaves the guard's list covers one, the statistics page. -/
theorem platform_not_under : ∀ l ∈ leaves, l.access = some .canPlatform →
    l.path ≠ "/telemetry/stats" → ∀ text ∈ loginPath :: tenantVisible, ¬ l.under text := by
  decide +kernel

theorem stats_platform : ∀ l ∈ leaves, l.path = "/telemetry/stats" →
    l.access = some .canPlatform := by
  decide +kernel

/-- What is declared under a text of the list is no platform page but that one. -/
theorem access_leftAlone (r : Router) {pathname : String} (h : LeftAlone pathname)
    (hdeclared : (r.leafAt pathname).path ≠ "*")
    (hstats : (r.leafAt pathname).path ≠ "/telemetry/stats") :
    (r.leafAt pathname).access ≠ some .canPlatform := by
  obtain ⟨text, htext, hstarts⟩ := h
  have hplain : ∀ text ∈ loginPath :: tenantVisible, PlainText text := by decide +kernel
  have hlink : ∀ l ∈ leaves, l.path = "/link/:token" → l.access = none := by decide +kernel
  have hunder := r.leafAt_mem_leavesUnder (hplain text htext) hstarts
  obtain ⟨hmem, hcase⟩ := List.mem_filter.mp hunder
  intro hplatform
  rcases of_decide_eq_true hcase with hall | ⟨-, hunder⟩ | ⟨hpath, -⟩
  · exact hdeclared hall
  · exact platform_not_under _ hmem hplatform hstats text htext hunder
  · rw [hlink _ hmem hpath] at hplatform
    cases hplatform

/-- The target of the guard is not on its own list. -/
theorem tenantHome_not_leftAlone : ¬ LeftAlone tenantHome := by
  unfold LeftAlone
  decide +kernel

section Drilled
variable {s : LocalStorage} (hin : s.sessionToken.isSome) (hdrilled : s.drilled)
include hin hdrilled

/-- The guard in a drilled-down session. -/
theorem onPageChange_drilled (pathname : String) :
    (LeftAlone pathname → onPageChange s pathname = none) ∧
      (¬ LeftAlone pathname → onPageChange s pathname = some (.replace tenantHome)) := by
  have htoken : s.sessionToken ≠ none := Option.isSome_iff_ne_none.mp hin
  have hvisible : tenantVisible.any (startsWith pathname) ↔
      ∃ text ∈ tenantVisible, startsWith pathname text := List.any_eq_true
  simp only [onPageChange, LeftAlone, htoken, false_and, if_false, hdrilled, true_and,
    List.mem_cons, exists_eq_or_imp, not_or, ← hvisible]
  by_cases hlogin : startsWith pathname loginPath
  · simp [hlogin]
  · by_cases hlist : tenantVisible.any (startsWith pathname)
    · simp [hlogin, hlist]
    · simp [hlogin, hlist]

theorem onPageChange_eq_none (pathname : String) :
    onPageChange s pathname = none ↔ LeftAlone pathname := by
  obtain ⟨halone, hmoved⟩ := onPageChange_drilled hin hdrilled pathname
  refine ⟨fun hnone => ?_, halone⟩
  by_contra h
  rw [hmoved h] at hnone
  cases hnone

/-- A drilled-down session lacks the platform's entry and no other. -/
theorem granted_drilled (l : Leaf) : granted s l ↔ l.access ≠ some .canPlatform := by
  obtain ⟨htype, -⟩ := id hdrilled
  obtain ⟨user, huser, htype⟩ := Option.bind_eq_some_iff.mp htype
  unfold granted
  cases l.access with
  | none => simp
  | some code => cases code <;> simp [access, hin, hdrilled, huser, htype]

/-- The guard settles where it leaves the pathname alone and the page is granted: a
replacement leads nowhere. -/
theorem settles_iff_leftAlone (r : Router) (pathname : String) :
    Settles r s pathname ↔ LeftAlone pathname ∧ (r.leafAt pathname).path ≠ "*" ∧
      granted s (r.leafAt pathname) := by
  have hnone := onPageChange_eq_none hin hdrilled
  constructor
  · rintro ⟨n, hn, halone, hdeclared, hgranted⟩
    by_cases hpathname : LeftAlone pathname
    · -- nothing moves, after no step and after one
      have hstays : ∀ n, (moved s)^[n] pathname = pathname := by
        intro n
        induction n with
        | zero => rfl
        | succ n ih => rw [Function.iterate_succ_apply', ih, moved, (hnone pathname).mpr hpathname]
      rw [hstays] at hdeclared hgranted
      exact ⟨hpathname, hdeclared, hgranted⟩
    · have hmoved : moved s pathname = tenantHome := by
        rw [moved, (onPageChange_drilled hin hdrilled pathname).2 hpathname]
      exfalso
      obtain rfl | rfl : n = 0 ∨ n = 1 := by omega
      · exact hpathname ((hnone pathname).mp halone)
      · rw [Function.iterate_one, hmoved] at halone
        exact tenantHome_not_leftAlone ((hnone tenantHome).mp halone)
  · rintro ⟨hpathname, hdeclared, hgranted⟩
    exact ⟨0, by omega, (hnone pathname).mpr hpathname, hdeclared, hgranted⟩

/-- **Where the drilled-down guard settles on a permitted page**: on the declared pages under
its own list, but for the statistics page of the platform.  That page is the one leaf it
leaves alone although `access()` refuses it. -/
theorem settles_iff (r : Router) :
    (∀ pathname, Settles r s pathname ↔ LeftAlone pathname ∧
      (r.leafAt pathname).path ≠ "*" ∧ (r.leafAt pathname).path ≠ "/telemetry/stats") ∧
    ∀ l ∈ leaves, (onPageChange s l.path = none → granted s l) ↔ l.path ≠ "/telemetry/stats" := by
  have hgranted := granted_drilled hin hdrilled
  constructor
  · intro pathname
    rw [settles_iff_leftAlone hin hdrilled, hgranted]
    refine and_congr_right fun halone => and_congr_right fun hdeclared => ?_
    constructor
    · intro haccess hstats
      exact haccess (stats_platform _ (r.mem pathname) hstats)
    · exact access_leftAlone r halone hdeclared
  · intro l hl
    rw [onPageChange_eq_none hin hdrilled, hgranted]
    constructor
    · intro halone hstats
      refine halone ⟨"/telemetry", by decide, ?_⟩ (stats_platform l hl hstats)
      rw [hstats]
      decide +kernel
    · rintro hstats ⟨text, htext, hstarts⟩ hplatform
      exact platform_not_under l hl hplatform hstats text htext (Leaf.under_of_startsWith hstarts)

end Drilled

/-- A platform operator in the view of one tenant. -/
def drilledDown : LocalStorage := ⟨some "token", some ⟨some .platform⟩, some "ten_alpha"⟩

theorem settles_iff_drilledDown :
    (∀ pathname, Settles literalRouter drilledDown pathname ↔ LeftAlone pathname ∧
      (literalRouter.leafAt pathname).path ≠ "*" ∧
      (literalRouter.leafAt pathname).path ≠ "/telemetry/stats") ∧
    ∀ l ∈ leaves, (onPageChange drilledDown l.path = none → granted drilledDown l) ↔
      l.path ≠ "/telemetry/stats" :=
  settles_iff rfl (by decide) literalRouter

/-- The dashboard is replaced by a page that is not declared, and that one by itself; the
statistics page stays and is refused. -/
theorem dashboard_not_settled :
    ¬ Settles literalRouter drilledDown "/dashboard" ∧
      ¬ ∀ l ∈ leaves, onPageChange drilledDown l.path = none → granted drilledDown l := by
  constructor
  · rintro ⟨n, hn, hstays, -, -⟩
    obtain rfl | rfl : n = 0 ∨ n = 1 := by omega
    · exact absurd hstays (by decide)
    · exact absurd hstays (by decide)
  · intro hgranted
    have hstats := hgranted ⟨"/telemetry/stats", some .canPlatform, true, none⟩ (by decide)
      (by decide)
    exact absurd hstats (by decide)

end Testkit
