import Testkit.LabelledRuns
import Testkit.OffsetPages

/-! # The tables with a search form

Eleven tables of the console have a search form, made of their columns: a field for each that
does not opt out.  What is filled in reaches `request` as `params`, and `request` picks from
these what it asks the backend for.  The fields and the picks are two lists, written apart.

What is filled in holds of the rows on show wherever every field is picked, and what can be
asked for can be filled in wherever every pick has a field (`form_served`): three tables have a
field that does nothing, and two ask for what nobody can fill in.

The answers come in pages of the backend's, or as its first hundred rows (`rows_reached_iff`).
-/
namespace Testkit.ListPages
open LabelledRuns

/-! ## The tables -/

/-- The pages with such a table. -/
inductive ListPage
  | users
  | loginLogs
  | sessions
  | userRoles
  | myFiles
  | myAudit
  | adminFiles
  | adminAudit
  | tenantFiles
  | emails
  | sms
  deriving DecidableEq, Repr

/-- A column: its `dataIndex`, and whether it has a field in the search form. -/
structure Column where
  dataIndex : String
  search : Bool
  deriving DecidableEq, Repr

/-- The columns of a table, without those that are no data. -/
def ListPage.columns : ListPage → List Column
  | .users =>
    [⟨"tenantKey", true⟩, ⟨"id", true⟩, ⟨"username", true⟩, ⟨"nickname", true⟩, ⟨"email", true⟩,
      ⟨"userType", true⟩, ⟨"status", true⟩, ⟨"registerSource", false⟩, ⟨"lastLoginAt", false⟩]
  | .loginLogs =>
    [⟨"tenantKey", true⟩, ⟨"username", true⟩, ⟨"userId", true⟩, ⟨"target", false⟩,
      ⟨"method", true⟩, ⟨"action", true⟩, ⟨"success", true⟩, ⟨"ip", false⟩,
      ⟨"deviceType", false⟩, ⟨"failReason", false⟩, ⟨"createdAt", false⟩]
  | .sessions =>
    [⟨"status", true⟩, ⟨"loginMethod", false⟩, ⟨"device", false⟩, ⟨"ip", false⟩, ⟨"os", false⟩,
      ⟨"browser", false⟩, ⟨"createdAt", false⟩, ⟨"lastActiveAt", false⟩]
  | .userRoles =>
    [⟨"roleId", true⟩, ⟨"roleName", true⟩, ⟨"source", true⟩, ⟨"createdAt", true⟩]
  | .myFiles =>
    [⟨"id", false⟩, ⟨"filename", true⟩, ⟨"pathPrefix", true⟩, ⟨"extension", true⟩,
      ⟨"contentTypePrefix", true⟩, ⟨"filePath", false⟩, ⟨"size", false⟩, ⟨"contentType", false⟩,
      ⟨"orderBy", true⟩, ⟨"isPublic", false⟩, ⟨"createdAt", false⟩]
  | .myAudit =>
    [⟨"id", false⟩, ⟨"action", true⟩, ⟨"targetType", true⟩, ⟨"targetId", false⟩,
      ⟨"status", true⟩, ⟨"startTime", true⟩, ⟨"endTime", true⟩, ⟨"createdAt", false⟩,
      ⟨"requestId", false⟩, ⟨"errorMessage", false⟩]
  | .adminFiles =>
    [⟨"id", false⟩, ⟨"ownerType", true⟩, ⟨"ownerId", true⟩, ⟨"tenantKey", true⟩,
      ⟨"filename", false⟩, ⟨"pathPrefix", true⟩, ⟨"extension", true⟩, ⟨"provider", true⟩,
      ⟨"bucket", true⟩, ⟨"objectKey", false⟩, ⟨"size", false⟩, ⟨"createdAt", false⟩]
  | .adminAudit =>
    [⟨"id", false⟩, ⟨"action", true⟩, ⟨"status", true⟩, ⟨"targetType", true⟩,
      ⟨"targetId", false⟩, ⟨"ownerType", true⟩, ⟨"ownerId", true⟩, ⟨"requestId", true⟩,
      ⟨"startTime", true⟩, ⟨"endTime", true⟩, ⟨"createdAt", false⟩, ⟨"errorMessage", false⟩]
  | .tenantFiles =>
    [⟨"id", false⟩, ⟨"ownerType", true⟩, ⟨"ownerId", true⟩, ⟨"filename", false⟩,
      ⟨"pathPrefix", true⟩, ⟨"extension", true⟩, ⟨"size", false⟩, ⟨"isPublic", false⟩,
      ⟨"createdAt", false⟩]
  | .emails =>
    [⟨"id", false⟩, ⟨"vendor", true⟩, ⟨"scene", true⟩, ⟨"status", true⟩, ⟨"target", true⟩,
      ⟨"subject", false⟩, ⟨"appKey", false⟩, ⟨"sentAt", false⟩]
  | .sms =>
    [⟨"id", false⟩, ⟨"vendor", true⟩, ⟨"scene", true⟩, ⟨"status", true⟩, ⟨"regionCode", true⟩,
      ⟨"phone", true⟩, ⟨"appKey", false⟩, ⟨"sentAt", false⟩]

/-- The fields of the search form. -/
def ListPage.fields (page : ListPage) : List String :=
  (page.columns.filter Column.search).map Column.dataIndex

/-- What `request` picks from its `params`, besides the place in the list. -/
def ListPage.picks : ListPage → List String
  | .users => ["status", "nickname", "username", "email", "userType", "tenantKey"]
  | .loginLogs => ["username", "userId", "method", "action", "success", "tenantKey"]
  | .sessions => ["status"]
  | .userRoles => ["userId"]
  | .myFiles => ["pathPrefix", "extension", "contentTypePrefix", "orderBy"]
  | .myAudit => ["action", "targetType", "startTime", "endTime"]
  | .adminFiles =>
    ["ownerType", "ownerId", "provider", "bucket", "pathPrefix", "extension", "tenantKey"]
  | .adminAudit =>
    ["action", "status", "targetType", "ownerType", "ownerId", "targetId", "requestId",
      "startTime", "endTime"]
  | .tenantFiles => ["ownerType", "ownerId", "pathPrefix", "extension"]
  | .emails => ["vendor", "scene", "status", "target"]
  | .sms => ["vendor", "scene", "status", "regionCode", "phone"]

/-- The values of a search form; what is absent is undefined. -/
abbrev Form := String → Option String

/-- What the form of a page can be filled in with: a login's outcome is one of two options.  Of
the other selections any text is allowed here, which takes in their options. -/
def ListPage.Offers (page : ListPage) (key value : String) : Prop :=
  key ∈ page.fields ∧ (page = .loginLogs → key = "success" → value = "true" ∨ value = "false")

/-- What is posted for a value: a login's outcome is a boolean, the rest goes as it is. -/
def ListPage.posted (page : ListPage) (key value : String) : String :=
  if page = .loginLogs ∧ key = "success" then (if value = "true" then "true" else "false")
  else value

/-- What a page asks the backend for.  The backend takes an empty text for none. -/
def ListPage.query (page : ListPage) (params : Form) : List (String × String) :=
  page.picks.filterMap fun key =>
    ((params key).filter (· ≠ "")).map fun value => (key, page.posted key value)

/-- The rows for a query; `store` is the backend.  Without a user, `UserRoles` asks nobody. -/
def ListPage.found {R : Type} (page : ListPage) (store : List (String × String) → List R)
    (query : List (String × String)) : List R :=
  if page = .userRoles ∧ query = [] then [] else store query

/-- A backend that keeps to the filters it is asked with. -/
def Respects {R : Type} (meets : R → String → String → Prop)
    (store : List (String × String) → List R) : Prop :=
  ∀ query, ∀ row ∈ store query, ∀ x ∈ query, meets row x.1 x.2

/-! ## The search form -/

/-- A table: the form as it was last submitted, what the latest request asks for while it is in
flight, and the rows on show. -/
structure Page (R : Type) where
  submitted : Form
  asked : Option (List (String × String))
  rows : List R

/-- A table as it is mounted. -/
def mounted {R : Type} (page : ListPage) : Page R :=
  ⟨fun _ => none, some (page.query fun _ => none), []⟩

/-- What happens to a table. -/
inductive Event (R : Type)
  /-- The form is submitted, or reset. -/
  | submit (form : Form)
  | reload
  | answer (rows : List R)
  | fail

section Forms
variable {R : Type} (page : ListPage) (store : List (String × String) → List R)

/-- The table asks with a form. -/
def Page.ask (p : Page R) (form : Form) : Page R :=
  { p with submitted := form, asked := some (page.query form) }

/-- A step of a table.  An answer is some page of the rows found. -/
inductive Step : Page R → Event R → Page R → Prop
  | submit {p : Page R} (form : Form) :
      (∀ key value, form key = some value → page.Offers key value) →
      Step p (.submit form) (p.ask page form)
  | reload {p : Page R} : Step p .reload (p.ask page p.submitted)
  | answer {p : Page R} {query : List (String × String)} (rows : List R) :
      p.asked = some query → (∀ row ∈ rows, row ∈ page.found store query) →
      Step p (.answer rows) { p with asked := none, rows := rows }
  | fail {p : Page R} {query : List (String × String)} : p.asked = some query →
      Step p .fail { p with asked := none }

end Forms

/-- The latest request was answered. -/
def Answered {R : Type} : List (Page R × Event R) → Prop
  | (_, .answer _) :: _ => True
  | _ => False

section FormRuns
variable {R : Type} {page : ListPage} {store : List (String × String) → List R}
  {h : List (Page R × Event R)} {p : Page R}

/-- What a table is at. -/
structure Current (page : ListPage) (store : List (String × String) → List R)
    (h : List (Page R × Event R)) (p : Page R) : Prop where
  offered : ∀ key value, p.submitted key = some value → page.Offers key value
  asked : ∀ query, p.asked = some query → query = page.query p.submitted
  answered : Answered h → ∀ row ∈ p.rows, row ∈ page.found store (page.query p.submitted)

theorem current_of_run (hr : Run (Step page store) (mounted page) h p) :
    Current page store h p := by
  refine hr.always ⟨by simp [mounted], fun _ hq => (Option.some.inj hq).symm, False.elim⟩ ?_
  rintro h p l q - hc hs
  cases hs with
  | submit form hoffers =>
    exact ⟨hoffers, fun _ hq => (Option.some.inj hq).symm, False.elim⟩
  | reload => exact ⟨hc.offered, fun _ hq => (Option.some.inj hq).symm, False.elim⟩
  | answer rows hasked hfound =>
    obtain rfl := hc.asked _ hasked
    exact ⟨hc.offered, by simp, fun _ => hfound⟩
  | fail hasked => exact ⟨hc.offered, by simp, False.elim⟩

/-- What is filled in and picked is asked for. -/
theorem mem_query {params : Form} {key value : String} (hpick : key ∈ page.picks)
    (hvalue : params key = some value) (hne : value ≠ "") :
    (key, page.posted key value) ∈ page.query params := by
  refine List.mem_filterMap.mpr ⟨key, hpick, ?_⟩
  rw [hvalue, Option.filter_some, if_pos (by simpa using hne)]
  rfl

/-- What is asked for is picked, and was filled in. -/
theorem of_mem_query {params : Form} {x : String × String} (hx : x ∈ page.query params) :
    x.1 ∈ page.picks ∧ (params x.1).isSome := by
  obtain ⟨key, hpick, hmap⟩ := List.mem_filterMap.mp hx
  obtain ⟨value, hvalue, rfl⟩ := Option.map_eq_some_iff.mp hmap
  exact ⟨hpick, by simp [Option.eq_some_of_filter_eq_some hvalue]⟩

theorem posted_of_offers {key value : String} (h : page.Offers key value) :
    page.posted key value = value := by
  unfold ListPage.posted
  split
  · rename_i hlogs
    rcases h.2 hlogs.1 hlogs.2 with rfl | rfl <;> rfl
  · rfl

/-- The tables whose every field is picked. -/
theorem pick_of_field {key : String} (hpage : page ∉ [.users, .myFiles, .myAudit])
    (hroles : page ≠ .userRoles) (hfield : key ∈ page.fields) : key ∈ page.picks := by
  have hall : page.fields.all page.picks.contains = true := by
    revert hpage hroles
    cases page <;> decide
  exact List.contains_iff_mem.mp (List.all_eq_true.mp hall key hfield)

/-- The tables whose every pick has a field. -/
theorem field_of_pick {key : String} (hpage : page ∉ [.adminAudit, .userRoles])
    (hpick : key ∈ page.picks) : key ∈ page.fields := by
  have hall : page.picks.all page.fields.contains = true := by
    revert hpage
    cases page <;> decide
  exact List.contains_iff_mem.mp (List.all_eq_true.mp hall key hpick)

/-- Only what has a field is asked for. -/
theorem field_of_asked (hr : Run (Step page store) (mounted page) h p)
    {query : List (String × String)} (hasked : p.asked = some query) {x : String × String}
    (hx : x ∈ query) : x.1 ∈ page.fields := by
  have hc := current_of_run hr
  rw [hc.asked query hasked] at hx
  obtain ⟨value, hvalue⟩ := Option.isSome_iff_exists.mp (of_mem_query hx).2
  exact (hc.offered x.1 value hvalue).1

/-- The form with one field filled in. -/
def only (key value : String) : Form := fun k => if k = key then some value else none

theorem offers_only {key value : String} (h : page.Offers key value) :
    ∀ k v, only key value k = some v → page.Offers k v := by
  intro k v hv
  unfold only at hv
  split at hv
  · rename_i heq
    obtain rfl := Option.some.inj hv
    exact heq ▸ h
  · cases hv

end FormRuns

section Served
variable (page : ListPage)

/-- What was filled in holds of what is shown, whatever the backend that keeps to its filters. -/
def FiltersMet : Prop :=
  ∀ (R : Type) (meets : R → String → String → Prop) (store : List (String × String) → List R),
    Respects meets store → ∀ h p, Run (Step page store) (mounted page) h p → Answered h →
      ∀ row ∈ p.rows, ∀ key value, p.submitted key = some value → value ≠ "" →
        meets row key value

/-- Each filter that the table can ask with is asked with in some run. -/
def FiltersGiven : Prop :=
  ∀ key ∈ page.picks, ∃ (h : List (Page Unit × Event Unit)) (p : Page Unit) (query : _)
    (value : String), Run (Step page fun _ => []) (mounted page) h p ∧ p.asked = some query ∧
      (key, value) ∈ query

variable {page}

theorem filtersMet_of_picked (hpage : page ∉ [.users, .myFiles, .myAudit]) : FiltersMet page := by
  intro R meets store hrespects h p hr hanswered row hrow key value hvalue hne
  have hc := current_of_run hr
  have hfound := hc.answered hanswered row hrow
  have hoffers := hc.offered key value hvalue
  by_cases hroles : page = .userRoles
  · -- no user can be given, so that nobody is asked
    have hquery : page.query p.submitted = [] := by
      refine List.eq_nil_iff_forall_not_mem.mpr fun x hx => ?_
      obtain ⟨hpick, hgiven⟩ := of_mem_query hx
      obtain ⟨v, hv⟩ := Option.isSome_iff_exists.mp hgiven
      have hfield := (hc.offered x.1 v hv).1
      rw [hroles] at hpick hfield
      rw [List.mem_singleton.mp hpick] at hfield
      exact absurd hfield (by decide)
    rw [ListPage.found, if_pos ⟨hroles, hquery⟩] at hfound
    cases hfound
  · rw [ListPage.found, if_neg fun hboth => hroles hboth.1] at hfound
    have hmem := mem_query (pick_of_field hpage hroles hoffers.1) hvalue hne
    rw [posted_of_offers hoffers] at hmem
    exact hrespects _ row hfound _ hmem

/-- A field that is not picked: what it is filled in with is lost. -/
theorem not_filtersMet {key : String} (hfield : key ∈ page.fields) (hpick : key ∉ page.picks)
    (hroles : page ≠ .userRoles) (hlogs : page ≠ .loginLogs) : ¬ FiltersMet page := by
  intro hmet
  -- a backend with a row that meets no filter at all
  let store : List (String × String) → List Unit := fun query => if query = [] then [()] else []
  have hrespects : Respects (fun _ _ _ => False) store := by
    intro query row hrow x hx
    have hne : query ≠ [] := List.ne_nil_of_mem hx
    simp [store, hne] at hrow
  have hquery : page.query (only key "x") = [] := by
    refine List.eq_nil_iff_forall_not_mem.mpr fun y hy => ?_
    obtain ⟨hpicked, hgiven⟩ := of_mem_query hy
    have hne : y.1 ≠ key := fun heq => hpick (heq ▸ hpicked)
    simp [only, hne] at hgiven
  have hoffers : page.Offers key "x" := ⟨hfield, fun heq => absurd heq hlogs⟩
  have hsubmitted : Run (Step page store) (mounted page) _ _ :=
    Run.start.next (.submit (only key "x") (offers_only hoffers))
  have hfound : ∀ row ∈ [()], row ∈ page.found store (page.query (only key "x")) := by
    rw [ListPage.found, if_neg fun hboth => hroles hboth.1, hquery]
    exact fun row hrow => hrow
  have hanswered := hsubmitted.next (.answer [()] rfl hfound)
  exact hmet Unit _ store hrespects _ _ hanswered trivial () List.mem_cons_self key "x"
    (if_pos rfl) (by decide)

theorem filtersGiven_of_fields (hpage : page ∉ [.adminAudit, .userRoles]) :
    FiltersGiven page := by
  intro key hpick
  have hoffers : page.Offers key "true" := ⟨field_of_pick hpage hpick, fun _ _ => Or.inl rfl⟩
  have hsubmitted : Run (Step page fun _ => ([] : List Unit)) (mounted page) _ _ :=
    Run.start.next (.submit (only key "true") (offers_only hoffers))
  exact ⟨_, _, _, _, hsubmitted, rfl, mem_query hpick (if_pos rfl) (by decide)⟩

theorem not_filtersGiven {key : String} (hpick : key ∈ page.picks) (hfield : key ∉ page.fields) :
    ¬ FiltersGiven page := by
  intro hgiven
  obtain ⟨h, p, query, value, hr, hasked, hmem⟩ := hgiven key hpick
  exact hfield (field_of_asked hr hasked hmem)

/-- How well a search form serves its table. -/
structure FormServed (page : ListPage) : Prop where
  met : FiltersMet page ↔ page ∉ [.users, .myFiles, .myAudit]
  given : FiltersGiven page ↔ page ∉ [.adminAudit, .userRoles]

end Served

/-! ## The rows that can be reached -/

/-- How a table without a pager of cursors gets at the rows it has found. -/
inductive Paging
  /-- `listPagination`, and the page goes out with the request. -/
  | numbered
  /-- `listPagination`, over a first page of a hundred. -/
  | hundredNumbered
  /-- A first page of a hundred, and no pager. -/
  | hundred
  deriving DecidableEq, Repr

/-- How a table is paged; for `emails` and `sms` as they are mounted.  `UserRoles` has no pages. -/
def ListPage.paging : ListPage → Option Paging
  | .users | .myFiles | .emails | .sms => some .numbered
  | .myAudit | .adminAudit => some .hundredNumbered
  | .adminFiles => some .hundred
  | .loginLogs | .sessions | .tenantFiles | .userRoles => none

/-- The pager's page and size. -/
structure Pager where
  current : Nat
  pageSize : Nat
  deriving DecidableEq, Repr

/-- The pager of `listPagination`, as it is mounted. -/
def Pager.first : Pager := ⟨1, 20⟩

/-- `pageSizeOptions`. -/
def pageSizeOptions : List Nat := [10, 20, 50, 100]

inductive PagerEvent
  | page (n : Nat)
  | size (size : Nat)
  deriving DecidableEq, Repr

/-- A step of the pager over the rows that were found and are counted. -/
inductive Turn {R : Type} (found : List R) : Pager → PagerEvent → Pager → Prop
  | page {p : Pager} {n : Nat} : 1 ≤ n → n ≤ OffsetPages.count found p.pageSize →
      Turn found p (.page n) { p with current := n }
  | size {p : Pager} {size : Nat} : size ∈ pageSizeOptions →
      Turn found p (.size size) ⟨min p.current (OffsetPages.count found size), size⟩

/-- The `data` of an answer. -/
def Paging.data {R : Type} (paging : Paging) (found : List R) (p : Pager) : List R :=
  match paging with
  | .numbered => OffsetPages.page found p.pageSize p.current
  | .hundredNumbered | .hundred => found.take 100

/-- What is on show; `display` is what a table draws of its data, by the total, the size and the
page of its pager. -/
def Paging.shown {R : Type} (display : List R → Nat → Nat → Nat → List R) (paging : Paging)
    (found : List R) (p : Pager) : List R :=
  match paging with
  | .hundred => paging.data found p
  | .numbered | .hundredNumbered =>
    display (paging.data found p) found.length p.pageSize p.current

/-- A table draws its data if these fit on a page, and else a page of them.  A page past the
total, which the pager does not come to, is left open. -/
structure Draws {R : Type} (display : List R → Nat → Nat → Nat → List R) : Prop where
  short : ∀ data total size current, data.length ≤ size → 1 ≤ current →
    current ≤ 1 ∨ (current - 1) * size < total → display data total size current = data
  long : ∀ data total size current, size < data.length →
    display data total size current = OffsetPages.page data size current

section Paged
variable {R : Type} {display : List R → Nat → Nat → Nat → List R} {found : List R} {row : R}

/-- The pager is on a page of the rows it counts. -/
structure Pager.InRange (found : List R) (p : Pager) : Prop where
  size : 0 < p.pageSize
  pos : 1 ≤ p.current
  le : p.current ≤ OffsetPages.count found p.pageSize

theorem inRange_of_run {h : List (Pager × PagerEvent)} {p : Pager}
    (hr : Run (Turn found) .first h p) : p.InRange found := by
  have hcount : ∀ size, 1 ≤ OffsetPages.count found size := fun size => le_max_left _ _
  refine hr.invariant ⟨by decide, by decide, hcount 20⟩ ?_
  rintro p l q hp hs
  cases hs with
  | page hpos hle => exact ⟨hp.size, hpos, hle⟩
  | @size size hoption =>
    have hsize : ∀ n ∈ pageSizeOptions, 0 < n := by decide
    exact ⟨hsize _ hoption, le_min hp.pos (hcount size), min_le_right _ _⟩

theorem Draws.mem (hd : Draws display) {data : List R} {p : Pager} (hp : p.InRange found)
    (hrow : row ∈ display data found.length p.pageSize p.current) : row ∈ data := by
  rcases Nat.lt_or_ge p.pageSize data.length with hlong | hshort
  · rw [hd.long _ _ _ _ hlong] at hrow
    exact OffsetPages.mem_of_mem_page hrow
  · rwa [hd.short _ _ _ _ hshort hp.pos ((OffsetPages.le_count_iff hp.size).mp hp.le)] at hrow

/-- A pager over the first hundred rows shows each of these on a page. -/
theorem exists_shown_hundred (hd : Draws display) (hrow : row ∈ found.take 100) :
    ∃ h p, Run (Turn found) .first h p ∧
      row ∈ Paging.hundredNumbered.shown display found p := by
  rcases Nat.lt_or_ge 20 (found.take 100).length with hlong | hshort
  · obtain ⟨n, hpos, hn, hmem⟩ := OffsetPages.exists_mem_page (show 0 < 20 by decide) hrow
    have hcount : n ≤ OffsetPages.count found Pager.first.pageSize :=
      Nat.le_trans hn (OffsetPages.count_le_count (by decide) (List.length_take_le' _ _))
    refine ⟨_, _, Run.start.next (.page hpos hcount), ?_⟩
    show row ∈ display (found.take 100) found.length 20 n
    rwa [hd.long _ _ _ _ hlong]
  · refine ⟨_, _, Run.start, ?_⟩
    show row ∈ display (found.take 100) found.length 20 1
    rwa [hd.short _ _ _ _ hshort (Nat.le_refl 1) (Or.inl (Nat.le_refl 1))]

/-- A pager of the backend's shows every row on a page. -/
theorem exists_shown_numbered (hd : Draws display) (hrow : row ∈ found) :
    ∃ h p, Run (Turn found) .first h p ∧ row ∈ Paging.numbered.shown display found p := by
  obtain ⟨n, hpos, hn, hmem⟩ := OffsetPages.exists_mem_page (show 0 < 20 by decide) hrow
  refine ⟨_, _, Run.start.next (.page hpos hn), ?_⟩
  show row ∈ display (OffsetPages.page found 20 n) found.length 20 n
  have hrange := (OffsetPages.le_count_iff (show 0 < 20 by decide)).mp hn
  rwa [hd.short _ _ _ _ (OffsetPages.length_page_le _ _ _) hpos hrange]

/-- **The rows that can be reached** by turning pages and changing their size: all that were found
where the page goes out with the request, and else the first hundred, however many the pager
counts. -/
theorem rows_reached_iff (hd : Draws display) {page : ListPage} {paging : Paging}
    (hpaging : page.paging = some paging) :
    (∃ h p, Run (Turn found) .first h p ∧ row ∈ paging.shown display found p) ↔
      page ∈ [.users, .myFiles, .emails, .sms] ∧ row ∈ found ∨ row ∈ found.take 100 := by
  have hnumbered : paging = .numbered ↔ page ∈ [.users, .myFiles, .emails, .sms] := by
    revert hpaging
    cases page <;> cases paging <;> decide
  rw [← hnumbered]
  constructor
  · rintro ⟨h, p, hr, hrow⟩
    have hp := inRange_of_run hr
    cases paging with
    | numbered => exact Or.inl ⟨rfl, OffsetPages.mem_of_mem_page (hd.mem hp hrow)⟩
    | hundredNumbered => exact Or.inr (hd.mem hp hrow)
    | hundred => exact Or.inr hrow
  · rintro (⟨rfl, hrow⟩ | hrow)
    · exact exists_shown_numbered hd hrow
    · cases paging with
      | numbered => exact exists_shown_numbered hd (List.mem_of_mem_take hrow)
      | hundredNumbered => exact exists_shown_hundred hd hrow
      | hundred => exact ⟨_, _, Run.start, hrow⟩

/-- The audit log's rows past the hundredth. -/
theorem rows_reached_iff_audit :
    (∃ h p, Run (Turn (List.range 101)) .first h p ∧ 100 ∈ Paging.hundredNumbered.shown
      (fun data _ size current => if data.length ≤ size then data
        else OffsetPages.page data size current) (List.range 101) p) ↔
      ListPage.adminAudit ∈ [ListPage.users, .myFiles, .emails, .sms] ∧ 100 ∈ List.range 101 ∨
        100 ∈ (List.range 101).take 100 :=
  rows_reached_iff ⟨fun _ _ _ _ hshort _ _ => if_pos hshort,
    fun _ _ _ _ hlong => if_neg (Nat.not_le.mpr hlong)⟩
    (show ListPage.adminAudit.paging = some .hundredNumbered from rfl)

end Paged

end Testkit.ListPages
