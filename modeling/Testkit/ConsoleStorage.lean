import Testkit.Resolver

/-! # What the console keeps in the browser

The web console keeps its session and the tenant switcher's choice under three
`localStorage` keys, and everything that depends on them reads them afresh: the request
interceptor, `access()`, the tenant view of the pages.  This module is those keys and
their readers and writers.

A `localStorage` value is absent or a string, and the console treats the empty string
as absent wherever it asks whether there is a value.
-/
namespace Testkit

/-- `API.User`, as `testkit_user` holds it: the field the console branches on. -/
structure ConsoleUser where
  userType : Option UserType
  deriving DecidableEq, Repr

/-- The keys `testkit_token`, `testkit_user` and `testkit_tenant_choice`.  A user record
that does not parse is as good as none. -/
structure LocalStorage where
  token : Option String
  user : Option ConsoleUser
  choice : Option String
  deriving DecidableEq, Repr

namespace LocalStorage

/-- Nothing stored. -/
def empty : LocalStorage := ⟨none, none, none⟩

/-- The session token, if there is one. -/
def sessionToken (s : LocalStorage) : Option String := s.token.filter (· ≠ "")

/-- `readTenantChoice`: `""` is no choice. -/
def readTenantChoice (s : LocalStorage) : String := s.choice.getD ""

/-- `writeTenantChoice`. -/
def writeTenantChoice (s : LocalStorage) (key : String) : LocalStorage :=
  { s with choice := some key }

/-- `clearTenantChoice`. -/
def clearTenantChoice (s : LocalStorage) : LocalStorage := { s with choice := none }

/-- What the login and register pages store, in this order: the choice goes first. -/
def signIn (s : LocalStorage) (token : String) (user : ConsoleUser) : LocalStorage :=
  let s := s.clearTenantChoice
  let s := { s with token := some token }
  { s with user := some user }

/-- What `endSession` and the 401 handler remove. -/
def signOut (s : LocalStorage) : LocalStorage :=
  let s := { s with token := none }
  let s := { s with user := none }
  s.clearTenantChoice


@[simp] theorem readTenantChoice_clearTenantChoice (s : LocalStorage) :
    s.clearTenantChoice.readTenantChoice = "" := rfl

end LocalStorage

/-! ## The binding set and the stored choice -/

/-- The non-empty keys of a membership list, in order. -/
def boundKeys (memberships : List TenantMembership) : List String :=
  (memberships.map TenantMembership.tenantKey).filter (· ≠ "")

/-- `ensureTenantChoice`: the choice it returns and the storage it leaves. -/
def ensureTenantChoice (s : LocalStorage) (memberships : List TenantMembership) :
    String × LocalStorage :=
  let stored := s.readTenantChoice
  let keys := boundKeys memberships
  if stored ∈ keys then (stored, s)
  else
    let fallback := keys.head?.getD ""
    (fallback, s.writeTenantChoice fallback)

section Ensure
variable {s : LocalStorage} {memberships : List TenantMembership}

/-- A bound choice stays. -/
theorem ensureTenantChoice_bound (h : s.readTenantChoice ∈ boundKeys memberships) :
    ensureTenantChoice s memberships = (s.readTenantChoice, s) := by
  simp [ensureTenantChoice, h]

/-- Any other choice is replaced by the first binding. -/
theorem ensureTenantChoice_unbound (h : s.readTenantChoice ∉ boundKeys memberships) :
    ensureTenantChoice s memberships =
      ((boundKeys memberships).head?.getD "",
        s.writeTenantChoice ((boundKeys memberships).head?.getD "")) := by
  simp [ensureTenantChoice, h]

/-- The session is not its business. -/
theorem ensureTenantChoice_session (s : LocalStorage) (memberships : List TenantMembership) :
    (ensureTenantChoice s memberships).2.token = s.token ∧
      (ensureTenantChoice s memberships).2.user = s.user := by
  by_cases h : s.readTenantChoice ∈ boundKeys memberships
  · rw [ensureTenantChoice_bound h]
    exact ⟨rfl, rfl⟩
  · rw [ensureTenantChoice_unbound h]
    exact ⟨rfl, rfl⟩

/-- With a binding at all, the stored choice is one of them: the old one if it is bound,
else the first. -/
theorem ensureTenantChoice_cases (hbound : boundKeys memberships ≠ []) :
    ∃ key ∈ boundKeys memberships, (ensureTenantChoice s memberships).2.choice = some key ∧
      (s.readTenantChoice ∈ boundKeys memberships → key = s.readTenantChoice) ∧
      (s.readTenantChoice ∉ boundKeys memberships →
        (boundKeys memberships).head? = some key) := by
  by_cases h : s.readTenantChoice ∈ boundKeys memberships
  · rw [ensureTenantChoice_bound h]
    refine ⟨s.readTenantChoice, h, ?_, fun _ => rfl, fun hnot => absurd h hnot⟩
    -- a bound key is not empty, so the choice it was read from is there
    have hne : s.readTenantChoice ≠ "" := of_decide_eq_true (List.mem_filter.mp h).2
    cases hc : s.choice with
    | none => simp [LocalStorage.readTenantChoice, hc] at hne
    | some c => simp [LocalStorage.readTenantChoice, hc]
  · obtain ⟨key, rest, hkeys⟩ := List.exists_cons_of_ne_nil hbound
    rw [ensureTenantChoice_unbound h, hkeys]
    exact ⟨key, List.mem_cons_self, rfl, fun hin => absurd hin (hkeys ▸ h), fun _ => rfl⟩

end Ensure

/-! ## Requests -/

/-- The two headers the interceptor adds: the token of `Authorization: Bearer <token>`,
and `x-tenant-choice`. -/
structure ConsoleHeaders where
  bearer : Option String
  tenantChoice : Option String
  deriving DecidableEq, Repr

/-- The request interceptor. -/
def requestInterceptor (s : LocalStorage) : ConsoleHeaders where
  bearer := s.sessionToken
  tenantChoice := s.choice.filter (· ≠ "")

/-- A failed request; a failure of the network has no response and so no status. -/
structure ApiError where
  status : Option Nat
  deriving DecidableEq, Repr

/-- `errorHandler`, before it rethrows: an expired session is cleared. -/
def errorHandler (e : ApiError) (s : LocalStorage) : LocalStorage :=
  if e.status = some 401 then s.signOut else s

/-- A request through the shared request instance: its answer and the storage after it. -/
def request {α : Type} (send : ConsoleHeaders → Except ApiError α) (s : LocalStorage) :
    Except ApiError α × LocalStorage :=
  match send (requestInterceptor s) with
  | .ok answer => (.ok answer, s)
  | .error e => (.error e, errorHandler e s)

section Requests
variable {α : Type} {send : ConsoleHeaders → Except ApiError α} {s : LocalStorage}

theorem request_ok {answer : α} (h : send (requestInterceptor s) = .ok answer) :
    request send s = (.ok answer, s) := by
  simp [request, h]

/-- Only an expired session changes the storage. -/
theorem request_error {e : ApiError} (h : send (requestInterceptor s) = .error e)
    (hstatus : e.status ≠ some 401) : request send s = (.error e, s) := by
  simp [request, h, errorHandler, hstatus]

/-- The interceptor sends the stored choice, unless it is empty. -/
theorem tenantChoice_requestInterceptor (s : LocalStorage) :
    (requestInterceptor s).tenantChoice =
      if s.readTenantChoice = "" then none else some s.readTenantChoice := by
  cases hc : s.choice with
  | none => simp [requestInterceptor, LocalStorage.readTenantChoice, hc]
  | some c => by_cases hempty : c = "" <;>
      simp [requestInterceptor, LocalStorage.readTenantChoice, hc, hempty, Option.filter]

end Requests

/-! ## Access and the tenant view -/

/-- The entries of `access()`. -/
inductive AccessCode
  | canUser
  | canPlatform
  | canTenantAdmin
  deriving DecidableEq, Repr

/-- The session of a platform operator who has chosen a tenant. -/
def LocalStorage.drilled (s : LocalStorage) : Prop :=
  s.user.bind ConsoleUser.userType = some .platform ∧ s.readTenantChoice ≠ ""

instance (s : LocalStorage) : Decidable s.drilled := by unfold LocalStorage.drilled; infer_instance

/-- `access`: whether an entry is granted. -/
def access (s : LocalStorage) (code : AccessCode) : Bool :=
  let loggedIn := s.sessionToken.isSome && s.user.isSome
  let type := s.user.bind ConsoleUser.userType
  match code with
  | .canUser => loggedIn
  | .canPlatform => loggedIn && decide (type = some .platform) && !decide s.drilled
  | .canTenantAdmin =>
    loggedIn && (decide (type = some .tenantAdmin) || decide (type = some .platform))

/-- `TenantScope`. -/
inductive TenantScope
  | platform
  | own
  | other
  deriving DecidableEq, Repr

/-- `TenantView`: the data its functions close over. -/
structure TenantView where
  tenantKey : String
  crossView : Bool
  isPlatform : Bool
  deriving DecidableEq, Repr

/-- `useTenantView`: the type is the layout's `currentUser`'s. -/
def useTenantView (currentUser : Option ConsoleUser) (s : LocalStorage) : TenantView :=
  let isPlatform := decide (currentUser.bind ConsoleUser.userType = some .platform)
  let tenantKey := s.readTenantChoice
  { tenantKey, isPlatform, crossView := isPlatform && decide (tenantKey = "") }

/-- `scopeOf`; a row without a key belongs to the platform pool. -/
def TenantView.scopeOf (view : TenantView) (rowTenantKey : Option String) : TenantScope :=
  match rowTenantKey.filter (· ≠ "") with
  | none => .platform
  | some key => if view.crossView = false ∧ key = view.tenantKey then .own else .other

/-- `filterTenantRows`. -/
def filterTenantRows {R : Type} (view : TenantView) (rows : List R)
    (getKey : R → Option String) : List R :=
  if view.crossView then rows
  else rows.filter fun r => decide (view.scopeOf (getKey r) ≠ .other)

/-- Outside the cross view a row with a key is the view's own or another tenant's. -/
theorem TenantView.scopeOf_some {view : TenantView} (hview : view.crossView = false)
    {key : String} (hne : key ≠ "") :
    view.scopeOf (some key) = if key = view.tenantKey then .own else .other := by
  simp [scopeOf, hview, hne, Option.filter]

/-- Outside the cross view a page shows the pool rows and the rows of its own key. -/
theorem mem_filterTenantRows {R : Type} {view : TenantView} (hview : view.crossView = false)
    {rows : List R} {getKey : R → Option String} {r : R} :
    r ∈ filterTenantRows view rows getKey ↔
      r ∈ rows ∧ ∀ key, getKey r = some key → key ≠ "" → key = view.tenantKey := by
  rw [filterTenantRows, hview, if_neg (by decide), List.mem_filter]
  refine and_congr_right fun _ => ?_
  rw [decide_eq_true_iff]
  cases hkey : getKey r with
  | none => simp [TenantView.scopeOf]
  | some key =>
    by_cases hempty : key = ""
    · simp [TenantView.scopeOf, hempty, Option.filter]
    · rw [TenantView.scopeOf_some hview hempty]
      by_cases hown : key = view.tenantKey <;> simp [hown, hempty]

end Testkit
