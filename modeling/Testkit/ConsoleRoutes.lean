import Mathlib.Data.List.Chain
import Mathlib.Data.List.Nodup
import Testkit.ConsoleStorage

/-! # The console's route table

The routes of `config.ts`, and what the framework makes of them: an access entry is a
route's own or that of the nearest parent that has one, and what stands under
`layout: false` is drawn without the shell.

How a pathname finds its route is the framework's business and a parameter, `Router`.  Its
fields are what the console relies on.
-/
namespace Testkit

/-- JavaScript's `pathname.startsWith(text)`. -/
def startsWith (pathname text : String) : Bool := text.toList.isPrefixOf pathname.toList

theorem startsWith_iff {pathname text : String} :
    startsWith pathname text = true ↔ text.toList <+: pathname.toList :=
  List.isPrefixOf_iff_prefix

/-! ## The table -/

/-- A route entry: its path and `access`, and what it does. -/
inductive Route
  | page (path : String) (access : Option AccessCode)
  | redirect (path target : String)
  /-- A menu group; it may have no path. -/
  | group (path : Option String) (access : Option AccessCode) (routes : List Route)
  /-- A route with `layout: false`. -/
  | bare (route : Route)

/-- A declared leaf: what can be drawn at a pathname. -/
structure Leaf where
  path : String
  /-- Its own access entry or the inherited one. -/
  access : Option AccessCode
  /-- Drawn inside the shell. -/
  shell : Bool
  redirect : Option String
  deriving DecidableEq, Repr

mutual

/-- The leaves of a route, with the access entry and the shell it inherits. -/
def Route.leaves (access : Option AccessCode) (shell : Bool) : Route → List Leaf
  | .page path own => [⟨path, own.or access, shell, none⟩]
  | .redirect path target => [⟨path, access, shell, some target⟩]
  | .group _ own routes => leavesOf (own.or access) shell routes
  | .bare route => route.leaves access false

/-- The leaves of the routes of a group. -/
def leavesOf (access : Option AccessCode) (shell : Bool) : List Route → List Leaf
  | [] => []
  | route :: routes => route.leaves access shell ++ leavesOf access shell routes

end

/-- `routes`. -/
def routes : List Route := [
  .bare (.group (some "/user") none [
    .page "/user/login" none,
    .page "/user/register" none]),
  .bare (.group (some "/link") none [
    .page "/link/:token" none]),
  .page "/dashboard" (some .canPlatform),
  .group none (some .canPlatform) [
    .redirect "/tenant" "/tenant/list",
    .page "/tenant/list" (some .canPlatform)],
  .page "/tenant/credentials" (some .canTenantAdmin),
  .group none (some .canUser) [
    .page "/profile" (some .canUser),
    .page "/identity" (some .canUser),
    .page "/sessions" (some .canUser),
    .group (some "/users") (some .canPlatform) [
      .redirect "/users" "/users/list",
      .page "/users/list" none,
      .page "/users/login-logs" none],
    .group (some "/rbac") (some .canPlatform) [
      .redirect "/rbac" "/rbac/roles",
      .page "/rbac/roles" none,
      .page "/rbac/groups" none,
      .page "/rbac/permissions" none,
      .page "/rbac/permission-groups" none,
      .page "/rbac/user-roles" none]],
  .group none (some .canUser) [
    .redirect "/files" "/files/my",
    .page "/files/my" (some .canUser),
    .page "/tenant/files" (some .canTenantAdmin),
    .group (some "/storage") (some .canUser) [
      .redirect "/storage" "/storage/quota",
      .page "/storage/quota" none,
      .page "/storage/audit" none],
    .group (some "/admin/storage") (some .canPlatform) [
      .redirect "/admin/storage" "/admin/storage/files",
      .page "/admin/storage/files" none,
      .page "/admin/storage/quota" none,
      .page "/admin/storage/stats" none,
      .page "/admin/storage/providers" none,
      .page "/admin/storage/buckets" none,
      .page "/admin/storage/settings" none],
    .page "/admin/audit-logs" (some .canPlatform)],
  .group (some "/message") (some .canTenantAdmin) [
    .redirect "/message" "/message/admin/accounts",
    .page "/message/send/email" (some .canPlatform),
    .page "/message/send/sms" (some .canPlatform),
    .group (some "/message/admin") none [
      .redirect "/message/admin" "/message/admin/accounts",
      .page "/message/admin/accounts" none,
      .page "/message/admin/signatures" none,
      .page "/message/admin/templates" none,
      .page "/message/admin/policies" none],
    .page "/message/emails" (some .canPlatform),
    .page "/message/sms" (some .canPlatform)],
  .page "/gid" (some .canPlatform),
  .group none (some .canPlatform) [
    .redirect "/license" "/license/keys",
    .page "/license/keys" none,
    .page "/license/console" none],
  .group none (some .canTenantAdmin) [
    .redirect "/telemetry" "/telemetry/tokens",
    .page "/telemetry/stats" (some .canPlatform),
    .page "/telemetry/tokens" none],
  .group none (some .canPlatform) [
    .redirect "/reference" "/reference/directory",
    .page "/reference/directory" none,
    .page "/reference/regions" none,
    .page "/reference/examples" none,
    .page "/reference/phone" none],
  .page "/system" (some .canPlatform),
  .redirect "/" "/profile",
  .bare (.page "*" none)]

/-- The leaves of the table. -/
def leaves : List Leaf := leavesOf none true routes

/-- A declared path is declared once. -/
theorem leaves_nodup : (leaves.map Leaf.path).Nodup := by decide +kernel

/-- Every redirect leads to a declared page, with the access of the redirect if that has
one. -/
theorem redirect_declared : ∀ l ∈ leaves, ∀ target, l.redirect = some target →
    ∃ l' ∈ leaves, l'.path = target ∧ l'.redirect = none ∧
      (l.access = none ∨ l'.access = l.access) := by
  decide +kernel

/-! ## What the framework draws -/

/-- A path without parameters. -/
def Leaf.Static (l : Leaf) : Prop := ∀ c ∈ l.path.toList, c ≠ ':' ∧ c ≠ '*'

instance (l : Leaf) : Decidable l.Static := List.decidableBAll _ _

/-- Whether the leaf's path starts with a text, a trailing slash granted. -/
def Leaf.under (l : Leaf) (text : String) : Bool := text.toList.isPrefixOf (l.path.toList ++ ['/'])

theorem Leaf.under_of_startsWith {l : Leaf} {text : String} (h : startsWith l.path text) :
    l.under text :=
  List.isPrefixOf_iff_prefix.mpr ((startsWith_iff.mp h).trans (List.prefix_append _ _))

/-- The pathnames of the anonymous file-link pages: `/link/<token>`. -/
def IsLinkPage (pathname : String) : Prop :=
  ∃ token : String, token ≠ "" ∧ '/' ∉ token.toList ∧ pathname = "/link/" ++ token

/-- The same, read off the characters. -/
theorem isLinkPage_iff {pathname : String} :
    IsLinkPage pathname ↔ startsWith pathname "/link/" ∧ pathname.toList.drop 6 ≠ [] ∧
      '/' ∉ pathname.toList.drop 6 := by
  have hdrop : ∀ token : String, ("/link/" ++ token).toList.drop 6 = token.toList := by
    intro token
    rw [String.toList_append]
    rfl
  constructor
  · rintro ⟨token, hne, hslash, rfl⟩
    rw [hdrop, startsWith_iff, String.toList_append]
    exact ⟨List.prefix_append _ _, fun h => hne (String.toList_eq_nil_iff.mp h), hslash⟩
  · rintro ⟨hlink, hne, hslash⟩
    obtain ⟨token, htoken⟩ := startsWith_iff.mp hlink
    obtain rfl : pathname = "/link/" ++ String.ofList token := by
      apply String.toList_injective
      simp [← htoken]
    rw [hdrop] at hne hslash
    exact ⟨_, fun h => hne (String.toList_eq_nil_iff.mpr h), hslash, rfl⟩

instance (pathname : String) : Decidable (IsLinkPage pathname) := decidable_of_iff' _ isLinkPage_iff

/-- Text that the router compares as it stands: lower-case words and single slashes. -/
def PlainText (text : String) : Prop :=
  (∀ c ∈ text.toList, c.isLower ∨ c = '-' ∨ c = '/') ∧
    text.toList.IsChain fun c d => c = '/' → d ≠ '/'

instance (text : String) : Decidable (PlainText text) :=
  haveI := List.decidableBAll (fun c : Char => c.isLower ∨ c = '-' ∨ c = '/') text.toList
  instDecidableAnd

/-- The router of the framework.  It ignores case, trailing slashes and escapes, and takes
the catch-all where nothing else matches. -/
structure Router where
  leafAt : String → Leaf
  mem : ∀ pathname, leafAt pathname ∈ leaves
  /-- A declared path leads to its own route. -/
  declared : ∀ l ∈ leaves, l.Static → leafAt l.path = l
  link : ∀ pathname, IsLinkPage pathname → (leafAt pathname).path = "/link/:token"
  /-- Plain text a pathname starts with is there in the path it matches, up to a trailing
  slash. -/
  text : ∀ pathname text, PlainText text → startsWith pathname text →
    (leafAt pathname).Static → (leafAt pathname).under text
  linkText : ∀ pathname text, PlainText text → startsWith pathname text →
    (leafAt pathname).path = "/link/:token" →
      startsWith "/link/" text ∨ startsWith text "/link/"

/-- The leaves a pathname that starts with `text` can lead to. -/
def leavesUnder (text : String) : List Leaf :=
  leaves.filter fun l =>
    decide (l.path = "*" ∨ (l.Static ∧ l.under text) ∨
      (l.path = "/link/:token" ∧ (startsWith "/link/" text ∨ startsWith text "/link/")))

theorem leaves_static : ∀ l ∈ leaves, l.path = "*" ∨ l.path = "/link/:token" ∨ l.Static := by
  decide +kernel

/-- A pathname leads to one of the leaves under the text it starts with. -/
theorem Router.leafAt_mem_leavesUnder (r : Router) {pathname text : String}
    (hplain : PlainText text) (h : startsWith pathname text) :
    r.leafAt pathname ∈ leavesUnder text := by
  refine List.mem_filter.mpr ⟨r.mem pathname, decide_eq_true ?_⟩
  rcases leaves_static _ (r.mem pathname) with hall | hlink | hstatic
  · exact .inl hall
  · exact .inr (.inr ⟨hlink, r.linkText _ _ hplain h hlink⟩)
  · exact .inr (.inl ⟨hstatic, r.text _ _ hplain h hstatic⟩)

/-! ## A router that compares literally -/

/-- The route of a pathname that is no declared path. -/
def literalFallback (pathname : String) : Leaf :=
  if IsLinkPage pathname then ⟨"/link/:token", none, false, none⟩ else ⟨"*", none, false, none⟩

/-- The declared leaf of a pathname, letter for letter. -/
def literalLeaf (pathname : String) : Leaf :=
  (leaves.find? fun l => decide (l.Static ∧ l.path = pathname)).getD (literalFallback pathname)

/-- Either the pathname is a declared path, or nothing but a fallback is left. -/
theorem literalLeaf_cases (pathname : String) :
    literalLeaf pathname ∈ leaves ∧ (literalLeaf pathname).Static ∧
        (literalLeaf pathname).path = pathname ∨
      literalLeaf pathname = literalFallback pathname ∧
        ∀ l ∈ leaves, l.Static → l.path ≠ pathname := by
  unfold literalLeaf
  cases hfound : leaves.find? fun l => decide (l.Static ∧ l.path = pathname) with
  | none =>
    refine .inr ⟨rfl, fun l hl hstatic hpath => ?_⟩
    have hnot := List.find?_eq_none.mp hfound l hl
    exact hnot (decide_eq_true ⟨hstatic, hpath⟩)
  | some l =>
    have hl : l.Static ∧ l.path = pathname := by simpa using List.find?_some hfound
    exact .inl ⟨List.mem_of_find?_eq_some hfound, hl⟩

theorem literalFallback_mem (pathname : String) : literalFallback pathname ∈ leaves := by
  unfold literalFallback
  split <;> decide

theorem literalFallback_dynamic (pathname : String) : ¬ (literalFallback pathname).Static := by
  unfold literalFallback
  split <;> decide

/-- No declared path is a file link. -/
theorem declared_not_link : ∀ l ∈ leaves, l.Static → ¬ IsLinkPage l.path := by decide +kernel

/-- The router that takes the pathname letter for letter. -/
def literalRouter : Router where
  leafAt := literalLeaf
  mem := by
    intro pathname
    rcases literalLeaf_cases pathname with ⟨hmem, -, -⟩ | ⟨h, -⟩
    · exact hmem
    · exact h ▸ literalFallback_mem pathname
  declared := by
    intro l hl hstatic
    rcases literalLeaf_cases l.path with ⟨hmem, -, hpath⟩ | ⟨-, hnone⟩
    · exact List.inj_on_of_nodup_map leaves_nodup hmem hl hpath
    · exact absurd rfl (hnone l hl hstatic)
  link := by
    intro pathname hlink
    rcases literalLeaf_cases pathname with ⟨hmem, hstatic, hpath⟩ | ⟨h, -⟩
    · rw [← hpath] at hlink
      exact absurd hlink (declared_not_link _ hmem hstatic)
    · rw [h, literalFallback, if_pos hlink]
  text := by
    intro pathname text _ hstarts hstatic
    rcases literalLeaf_cases pathname with ⟨-, -, hpath⟩ | ⟨h, -⟩
    · exact Leaf.under_of_startsWith (by rwa [hpath])
    · exact absurd (h ▸ hstatic) (literalFallback_dynamic pathname)
  linkText := by
    intro pathname text _ hstarts hpath
    rcases literalLeaf_cases pathname with ⟨-, hstatic, -⟩ | ⟨h, -⟩
    · -- the path of the download page has a parameter
      exact absurd (hstatic ':' (by rw [hpath]; decide)) (by decide)
    · rw [h, literalFallback] at hpath
      split at hpath
      · rename_i hlink
        simp only [startsWith_iff]
        exact List.prefix_or_prefix_of_prefix (startsWith_iff.mp hstarts)
          (startsWith_iff.mp (isLinkPage_iff.mp hlink).1)
      · exact absurd hpath (by decide)

end Testkit
