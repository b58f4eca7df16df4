import Mathlib.Data.List.Forall2
import Testkit.Dashboard
import Testkit.LabelledRuns

/-! # The dashboard's closures, one after another

The four closures of `GetDashboard` write shared variables, each its own, and hand their
errors to one group.  A step of the group is one closure that ends: it assigns its
variable and reports its error, of which the group keeps the first and cancels the context
of the others.  Any closure that is still running may be next; once the context is
cancelled, its call may have answered with the cancellation.

`Joined` is the invariant.  It says what the group holds after any closures in any order,
and with it every run that ends is `getDashboard` on the order in which its closures ended.
`FanIn` is the guarantee in terms of the four calls alone: what the response shows is their
values, field by field, and what is returned instead is the error of the first to fail.
-/
namespace Testkit.Dashboard
open BackendCalls LabelledRuns

/-! ## The group -/

/-- The closures that run, the four variables they share with `GetDashboard`, and the
group's first error; the group's context is cancelled once there is one. -/
structure Group (D : Type) where
  running : List Leg
  emailStats : Option (ChannelStats .backend)
  smsStats : Option (ChannelStats .backend)
  quota : Option (QuotaInfo .backend)
  users : Option ListUsersPagedResponse
  err : Option D

/-- The group after its four `g.Go`. -/
def Group.started {D : Type} : Group D := ⟨Leg.all, none, none, none, none, none⟩

/-- A closure returns its error: the first one is kept. -/
def Group.report {D : Type} (g : Group D) (r : Except D Unit) : Group D :=
  match g.err, r with
  | none, .error d => { g with err := some d }
  | _, _ => g

/-- A closure that ends, and whether its call answered with the cancellation. -/
structure Finish where
  leg : Leg
  interrupted : Bool
  deriving DecidableEq, Repr

/-- The closures in the order in which they ended. -/
def ended {D : Type} (h : List (Group D × Finish)) : List Leg := (h.map fun p => p.2.leg).reverse

section Closures
variable {Ctx D : Type} (s : Service Ctx D) (gctx : Ctx) (userId : Int64)

/-- What a call answered. -/
def Service.answer {α : Type} (interrupted : Bool) (own : Except D α) : Except D α :=
  if interrupted then .error s.canceled else own

/-- A closure assigns its variable. -/
def Service.assign (g : Group D) (f : Finish) : Group D :=
  match f.leg with
  | .emailStats => { g with emailStats := assigned (s.answer f.interrupted (s.getEmailStats gctx)) }
  | .smsStats => { g with smsStats := assigned (s.answer f.interrupted (s.getSMSStats gctx)) }
  | .quota =>
    { g with
      quota := assigned (s.answer f.interrupted (s.getMyQuota gctx (quotaRequest userId))) }
  | .users =>
    { g with users := assigned (s.answer f.interrupted (s.listUsersPaged gctx usersRequest)) }

/-- A closure ends. -/
def Service.close (g : Group D) (f : Finish) : Group D :=
  { s.assign gctx userId g f with running := g.running.erase f.leg }.report
    (s.answer f.interrupted (s.outcome gctx userId f.leg))

/-- A step of the group. -/
inductive Step : Group D → Finish → Group D → Prop
  | finish {g : Group D} (f : Finish) :
      f.leg ∈ g.running → (f.interrupted → g.err.isSome) → Step g f (s.close gctx userId g f)

/-- The variable of a closure holds what its call answered. -/
def Holds (g : Group D) : Leg → Prop
  | .emailStats => g.emailStats = assigned (s.getEmailStats gctx)
  | .smsStats => g.smsStats = assigned (s.getSMSStats gctx)
  | .quota => g.quota = assigned (s.getMyQuota gctx (quotaRequest userId))
  | .users => g.users = assigned (s.listUsersPaged gctx usersRequest)

/-- The error of the first call to fail. -/
def FirstFailure (order : List Leg) (d : D) : Prop :=
  ∃ before first after, order = before ++ first :: after ∧
    s.outcome gctx userId first = .error d ∧ ∀ l ∈ before, s.outcome gctx userId l = .ok ()

/-- The invariant, after closures that ended in this order. -/
structure Joined (order : List Leg) (g : Group D) : Prop where
  all : (order ++ g.running).Perm Leg.all
  held : g.err = none → ∀ leg ∈ order, s.outcome gctx userId leg = .ok () ∧
    Holds s gctx userId g leg
  failed : ∀ d, g.err = some d → FirstFailure s gctx userId order d

/-! ## What a closure leaves -/

section Close
variable {g : Group D}

theorem err_assign (f : Finish) : (s.assign gctx userId g f).err = g.err := by
  obtain ⟨leg, interrupted⟩ := f
  cases leg <;> rfl

/-- A report changes nothing but the error. -/
theorem report_keeps (g : Group D) (r : Except D Unit) :
    (g.report r).running = g.running ∧
      ∀ leg, Holds s gctx userId (g.report r) leg ↔ Holds s gctx userId g leg := by
  unfold Group.report
  split
  · exact ⟨rfl, by rintro (_ | _ | _ | _) <;> exact Iff.rfl⟩
  · exact ⟨rfl, fun _ => Iff.rfl⟩

theorem running_close (f : Finish) :
    (s.close gctx userId g f).running = g.running.erase f.leg :=
  (report_keeps s gctx userId _ _).1

/-- The first error stays. -/
theorem err_close_of_failed {d : D} (hd : g.err = some d) (f : Finish) :
    (s.close gctx userId g f).err = some d := by
  have hkept := (err_assign s gctx userId f).trans hd
  simp only [Service.close, Group.report, hkept]

/-- Without one, a closure leaves the error of its own call, if it has one. -/
theorem err_close_of_none (hnone : g.err = none) (leg : Leg) :
    (s.close gctx userId g ⟨leg, false⟩).err =
      match s.outcome gctx userId leg with
      | .ok _ => none
      | .error d => some d := by
  have hkept := (err_assign s gctx userId ⟨leg, false⟩).trans hnone
  cases hcall : s.outcome gctx userId leg <;>
    simp [Service.close, Service.answer, Group.report, hcall, hkept]

end Close

variable {s gctx userId} {g : Group D} {leg : Leg}

/-- The variable of the closure holds the answer of its call; the others hold what they
held. -/
theorem holds_close {other : Leg} (h : other = leg ∨ Holds s gctx userId g other) :
    Holds s gctx userId (s.close gctx userId g ⟨leg, false⟩) other := by
  refine ((report_keeps s gctx userId _ _).2 other).mpr ?_
  rcases h with rfl | h
  · cases other <;> rfl
  · cases leg <;> cases other <;> first | rfl | exact h

/-! ## Runs -/

theorem joined_started : Joined s gctx userId [] Group.started where
  all := List.Perm.refl _
  held _ _ h := by cases h
  failed _ h := by cases h

/-- **The step lemma.** -/
theorem joined_close {order : List Leg} (h : Joined s gctx userId order g) {f : Finish}
    (hrunning : f.leg ∈ g.running) (hcanceled : f.interrupted → g.err.isSome) :
    Joined s gctx userId (order ++ [f.leg]) (s.close gctx userId g f) := by
  obtain ⟨leg, interrupted⟩ := f
  have hall : ((order ++ [leg]) ++ (s.close gctx userId g ⟨leg, interrupted⟩).running).Perm
      Leg.all := by
    rw [running_close, List.append_assoc]
    exact ((List.perm_cons_erase hrunning).symm.append_left order).trans h.all
  cases herr : g.err with
  | some d =>
    have hclosed := err_close_of_failed s gctx userId herr ⟨leg, interrupted⟩
    refine ⟨hall, fun hnone => ?_, fun d' hd' => ?_⟩
    · rw [hclosed] at hnone
      cases hnone
    · rw [hclosed] at hd'
      obtain rfl := Option.some.inj hd'
      obtain ⟨before, first, after, rfl, hfirst, hbefore⟩ := h.failed d herr
      exact ⟨before, first, after ++ [leg], by simp, hfirst, hbefore⟩
  | none =>
    -- no call answers with the cancellation before one has failed
    have hown : interrupted = false := by
      cases interrupted with
      | false => rfl
      | true =>
        rw [herr] at hcanceled
        exact absurd (hcanceled rfl) Bool.false_ne_true
    subst hown
    have hclosed := err_close_of_none s gctx userId herr leg
    refine ⟨hall, fun hnone => ?_, fun d hd => ?_⟩
    · have hok : s.outcome gctx userId leg = .ok () := by
        cases hcall : s.outcome gctx userId leg with
        | ok _ => rfl
        | error d =>
          rw [hclosed, hcall] at hnone
          cases hnone
      intro other hother
      rcases List.mem_append.mp hother with hother | hother
      · obtain ⟨hother, hholds⟩ := h.held herr other hother
        exact ⟨hother, holds_close (Or.inr hholds)⟩
      · obtain rfl := List.mem_singleton.mp hother
        exact ⟨hok, holds_close (Or.inl rfl)⟩
    · cases hcall : s.outcome gctx userId leg with
      | ok _ =>
        rw [hclosed, hcall] at hd
        cases hd
      | error d' =>
        rw [hclosed, hcall] at hd
        obtain rfl := Option.some.inj hd
        exact ⟨order, leg, [], rfl, hcall, fun l hl => (h.held herr l hl).1⟩

/-- **The run lemma.** -/
theorem joined_of_run {h : List (Group D × Finish)}
    (hr : Run (Step s gctx userId) Group.started h g) : Joined s gctx userId (ended h) g := by
  refine hr.always (P := fun h g => Joined s gctx userId (ended h) g) joined_started ?_
  intro h g f g' _ hjoined hs
  have hended : ended ((g, f) :: h) = ended h ++ [f.leg] := by simp [ended]
  rw [hended]
  cases hs with
  | finish hrunning hcanceled => exact joined_close hjoined hrunning hcanceled

/-- The closures that run can end in any order. -/
theorem exists_run (rest : List Leg) {h : List (Group D × Finish)}
    (hr : Run (Step s gctx userId) Group.started h g) (hrest : g.running.Perm rest) :
    ∃ h' g', Run (Step s gctx userId) Group.started h' g' ∧ g'.running = [] ∧
      ended h' = ended h ++ rest := by
  induction rest generalizing g h with
  | nil => exact ⟨h, g, hr, hrest.eq_nil, by simp⟩
  | cons leg rest ih =>
    have hrunning : leg ∈ g.running := hrest.mem_iff.mpr List.mem_cons_self
    have hnext := hr.next (.finish ⟨leg, false⟩ hrunning (by rintro ⟨⟩))
    have hleft : (s.close gctx userId g ⟨leg, false⟩).running.Perm rest := by
      rw [running_close]
      simpa using hrest.erase leg
    obtain ⟨h', g', hr', hdone, hended⟩ := ih hnext hleft
    refine ⟨h', g', hr', hdone, ?_⟩
    rw [hended]
    simp [ended]

end Closures

/-! ## What `GetDashboard` returns -/

section Returns
variable {Ctx MD D : Type} [MetadataMap MD] [RequestContext Ctx MD]

/-- The calls of the four closures. -/
def groupCalls (gctx : Ctx) (userId : Int64) : List (Call Ctx) :=
  [.getEmailStats gctx, .getSMSStats gctx, .getMyQuota gctx (quotaRequest userId),
    .listUsersPaged gctx usersRequest]

/-- `GetDashboard` behind `g.Wait`. -/
def Group.respond (g : Group D) : Except (SelfServiceError D) DashboardResponse :=
  match g.err with
  | some d => .error (.downstream d)
  | none => .ok
      { emailStats := statsFromMessage g.emailStats
        smsStats := statsFromMessage g.smsStats
        quota := quotaFromStorage g.quota
        users := usersSummaryFromUser g.users }

/-- What `GetDashboard` returns, and the order in which its closures ended. -/
inductive Returns (s : Service Ctx D) (ctx : Ctx) :
    List Leg → Handled (Call Ctx) (SelfServiceError D) DashboardResponse → Prop
  | anonymous : actorFromCtx ctx = none → Returns s ctx [] ⟨[], .error .callerUnresolved⟩
  | waited {a : RequestActor} {h : List (Group D × Finish)} {g : Group D} :
      actorFromCtx ctx = some a →
      Run (Step s (s.groupContext ctx) a.userId) Group.started h g → g.running = [] →
      Returns s ctx (ended h) ⟨groupCalls (s.groupContext ctx) a.userId, g.respond⟩

/-- The response, each part from its own call. -/
def Service.assembled (s : Service Ctx D) (gctx : Ctx) (userId : Int64) : DashboardResponse where
  emailStats := statsFromMessage (assigned (s.getEmailStats gctx))
  smsStats := statsFromMessage (assigned (s.getSMSStats gctx))
  quota := quotaFromStorage (assigned (s.getMyQuota gctx (quotaRequest userId)))
  users := usersSummaryFromUser (assigned (s.listUsersPaged gctx usersRequest))

variable {s : Service Ctx D} {ctx : Ctx} {order : List Leg} {a : RequestActor}
  {r : Handled (Call Ctx) (SelfServiceError D) DashboardResponse}

theorem Returns.of_anonymous (hr : Returns s ctx order r) (ha : actorFromCtx ctx = none) :
    r = ⟨[], .error .callerUnresolved⟩ := by
  cases hr with
  | anonymous => rfl
  | waited ha' =>
    rw [ha] at ha'
    cases ha'

/-- The closures of a caller have all ended, and the group answers for them. -/
theorem Returns.joined (hr : Returns s ctx order r) (ha : actorFromCtx ctx = some a) :
    ∃ g, Joined s (s.groupContext ctx) a.userId order g ∧ order.Perm Leg.all ∧
      r = ⟨groupCalls (s.groupContext ctx) a.userId, g.respond⟩ := by
  cases hr with
  | anonymous ha' =>
    rw [ha] at ha'
    cases ha'
  | @waited a' h g ha' hrun hdone =>
    obtain rfl : a = a' := Option.some.inj (ha.symm.trans ha')
    have hjoined := joined_of_run hrun
    have hall := hjoined.all
    rw [hdone, List.append_nil] at hall
    exact ⟨g, hjoined, hall, rfl⟩

/-- Either all calls have succeeded and the response is assembled from them, or the answer is
the error of the first call to fail. -/
theorem Returns.answer (hr : Returns s ctx order r) (ha : actorFromCtx ctx = some a) :
    ((∀ leg, s.outcome (s.groupContext ctx) a.userId leg = .ok ()) ∧
        r.answer = .ok (s.assembled (s.groupContext ctx) a.userId)) ∨
      ∃ d, FirstFailure s (s.groupContext ctx) a.userId order d ∧
        r.answer = .error (.downstream d) := by
  obtain ⟨g, hjoined, hall, rfl⟩ := hr.joined ha
  cases herr : g.err with
  | some d =>
    refine Or.inr ⟨d, hjoined.failed d herr, ?_⟩
    simp only [Group.respond, herr]
  | none =>
    have hheld : ∀ leg, s.outcome (s.groupContext ctx) a.userId leg = .ok () ∧
        Holds s (s.groupContext ctx) a.userId g leg := by
      intro leg
      exact hjoined.held herr leg (hall.mem_iff.mpr (by cases leg <;> decide))
    refine Or.inl ⟨fun leg => (hheld leg).1, ?_⟩
    have hemail : g.emailStats = _ := (hheld .emailStats).2
    have hsms : g.smsStats = _ := (hheld .smsStats).2
    have hquota : g.quota = _ := (hheld .quota).2
    have husers : g.users = _ := (hheld .users).2
    simp only [Group.respond, herr, hemail, hsms, hquota, husers]
    rfl

/-- **The closures refine the group of `getDashboard`**, whichever of them are interrupted. -/
theorem Returns.eq_getDashboard (hr : Returns s ctx order r) (ha : actorFromCtx ctx = some a)
    (schedule : Schedule) (horder : schedule.order = order) : r = getDashboard s schedule ctx := by
  obtain ⟨g, -, -, hcalls⟩ := hr.joined ha
  have hanswer : r.answer = (getDashboard s schedule ctx).answer := by
    rcases hr.answer ha with ⟨hok, hr⟩ | ⟨d, hfirst, hr⟩
    · have hwait : wait s.canceled schedule.interrupted
          (s.outcome (s.groupContext ctx) a.userId) schedule.order none = none :=
        (wait_eq_none_iff _).mpr fun l _ => hok l
      simp only [hr, getDashboard, ha, hwait]
      rfl
    · have hwait : wait s.canceled schedule.interrupted
          (s.outcome (s.groupContext ctx) a.userId) order none = some d :=
        (wait_eq_some_iff _ _).mpr hfirst
      simp only [hr, getDashboard, ha, horder, hwait]
  have hcalls : r.calls = (getDashboard s schedule ctx).calls := by
    rw [calls_getDashboard ha, hcalls]
    rfl
  cases r
  cases hg : getDashboard s schedule ctx
  rw [hg] at hanswer hcalls
  exact congrArg₂ Handled.mk hcalls hanswer

/-! ## The guarantee -/

/-- A row of a channel is shown value by value, a nil row as zeros. -/
inductive RowShown : Option (VendorStats .backend) → Option (VendorStats .testkit) → Prop
  | row {v : VendorStats .backend} {w : VendorStats .testkit} : w.vendor = v.vendor →
      w.total = v.total → w.sent = v.sent → w.failed = v.failed → RowShown (some v) (some w)
  | nil : RowShown none (some ⟨0, 0, 0, 0⟩)

/-- A channel is shown value by value and row by row, a nil answer as no channel. -/
inductive StatsShown : Option (ChannelStats .backend) → Option (ChannelStats .testkit) → Prop
  | stats {r : ChannelStats .backend} {w : ChannelStats .testkit} : w.total = r.total →
      w.sent = r.sent → w.failed = r.failed → w.successRate = r.successRate →
      List.Forall₂ RowShown r.vendors w.vendors → StatsShown (some r) (some w)
  | nil : StatsShown none none

/-- The quota is shown value by value, a nil answer as none. -/
inductive QuotaShown : Option (QuotaInfo .backend) → Option (QuotaInfo .testkit) → Prop
  | quota {q : QuotaInfo .backend} {w : QuotaInfo .testkit} : w.totalBytes = q.totalBytes →
      w.usedBytes = q.usedBytes → w.availableBytes = q.availableBytes →
      w.fileCount = q.fileCount → QuotaShown (some q) (some w)
  | nil : QuotaShown none none

/-- The number of users is shown, a nil answer as none. -/
inductive UsersShown : Option ListUsersPagedResponse → Option UsersSummary → Prop
  | users {r : ListUsersPagedResponse} {w : UsersSummary} : w.total = r.total →
      UsersShown (some r) (some w)
  | nil : UsersShown none none

section Guarantee
variable (s : Service Ctx D) (gctx : Ctx) (userId : Int64)

/-- The error of a call. -/
def Fails : Leg → D → Prop
  | .emailStats, d => s.getEmailStats gctx = .error d
  | .smsStats, d => s.getSMSStats gctx = .error d
  | .quota, d => s.getMyQuota gctx ⟨⟨.user, userId⟩, {}⟩ = .error d
  | .users, d => s.listUsersPaged gctx ⟨1, 1, true⟩ = .error d

/-- Each part of the response shows the value of its own call. -/
structure BuiltFrom (resp : DashboardResponse) : Prop where
  emailStats : ∃ v, s.getEmailStats gctx = .ok v ∧ StatsShown v resp.emailStats
  smsStats : ∃ v, s.getSMSStats gctx = .ok v ∧ StatsShown v resp.smsStats
  quota : ∃ v, s.getMyQuota gctx ⟨⟨.user, userId⟩, {}⟩ = .ok v ∧ QuotaShown v resp.quota
  users : ∃ v, s.listUsersPaged gctx ⟨1, 1, true⟩ = .ok v ∧ UsersShown v resp.users

end Guarantee

/-- **The guarantee.** -/
structure FanIn (s : Service Ctx D) (ctx : Ctx) : Prop where
  anonymous : actorFromCtx ctx = none → ∀ order r, Returns s ctx order r →
    r = ⟨[], .error .callerUnresolved⟩
  /-- The calls can complete in every order, and complete once each. -/
  order_iff : ∀ a, actorFromCtx ctx = some a → ∀ order,
    (∃ r, Returns s ctx order r) ↔ order.Perm Leg.all
  calls : ∀ a, actorFromCtx ctx = some a → ∀ order r, Returns s ctx order r →
    r.calls = [.getEmailStats (s.groupContext ctx), .getSMSStats (s.groupContext ctx),
      .getMyQuota (s.groupContext ctx) ⟨⟨.user, a.userId⟩, {}⟩,
      .listUsersPaged (s.groupContext ctx) ⟨1, 1, true⟩]
  responds_iff : ∀ a, actorFromCtx ctx = some a → ∀ order r, Returns s ctx order r →
    ((∃ resp, r.answer = .ok resp) ↔ ∀ leg d, ¬ Fails s (s.groupContext ctx) a.userId leg d)
  response : ∀ a, actorFromCtx ctx = some a → ∀ order r resp, Returns s ctx order r →
    r.answer = .ok resp → BuiltFrom s (s.groupContext ctx) a.userId resp
  /-- The response does not depend on the order. -/
  same : ∀ order order' r r' resp resp', Returns s ctx order r → Returns s ctx order' r' →
    r.answer = .ok resp → r'.answer = .ok resp' → resp = resp'
  /-- The error is the own error of the first call to fail. -/
  failed : ∀ a, actorFromCtx ctx = some a → ∀ order r, Returns s ctx order r →
    (∃ leg d, Fails s (s.groupContext ctx) a.userId leg d) →
    ∃ before first after d, order = before ++ first :: after ∧
      Fails s (s.groupContext ctx) a.userId first d ∧
      (∀ l ∈ before, ∀ d', ¬ Fails s (s.groupContext ctx) a.userId l d') ∧
      r.answer = .error (.downstream d)

section Shown
variable {gctx : Ctx} {userId : Int64}

theorem outcome_eq_error_iff {leg : Leg} {d : D} :
    s.outcome gctx userId leg = .error d ↔ Fails s gctx userId leg d := by
  cases leg
  case emailStats =>
    show (s.getEmailStats gctx).map _ = _ ↔ s.getEmailStats gctx = _
    cases s.getEmailStats gctx <;> simp [Except.map]
  case smsStats =>
    show (s.getSMSStats gctx).map _ = _ ↔ s.getSMSStats gctx = _
    cases s.getSMSStats gctx <;> simp [Except.map]
  case quota =>
    show (s.getMyQuota gctx (quotaRequest userId)).map _ = _ ↔
      s.getMyQuota gctx (quotaRequest userId) = _
    cases s.getMyQuota gctx (quotaRequest userId) <;> simp [Except.map]
  case users =>
    show (s.listUsersPaged gctx usersRequest).map _ = _ ↔ s.listUsersPaged gctx usersRequest = _
    cases s.listUsersPaged gctx usersRequest <;> simp [Except.map]

theorem outcome_eq_ok_iff {leg : Leg} :
    s.outcome gctx userId leg = .ok () ↔ ∀ d, ¬ Fails s gctx userId leg d := by
  simp only [← outcome_eq_error_iff]
  cases s.outcome gctx userId leg <;> simp

theorem statsShown (r : Option (ChannelStats .backend)) : StatsShown r (statsFromMessage r) := by
  cases r with
  | none => exact .nil
  | some r =>
    refine .stats rfl rfl rfl rfl ?_
    show List.Forall₂ RowShown r.vendors (r.vendors.map vendorStats)
    rw [List.forall₂_map_right_iff, List.forall₂_same]
    rintro (_ | v) -
    · exact .nil
    · exact .row rfl rfl rfl rfl

theorem quotaShown (q : Option (QuotaInfo .backend)) : QuotaShown q (quotaFromStorage q) := by
  cases q with
  | none => exact .nil
  | some q => exact .quota rfl rfl rfl rfl

theorem usersShown (r : Option ListUsersPagedResponse) : UsersShown r (usersSummaryFromUser r) := by
  cases r with
  | none => exact .nil
  | some r => exact .users rfl

/-- When no call fails, the assembled response shows their values. -/
theorem builtFrom_assembled (h : ∀ leg d, ¬ Fails s gctx userId leg d) :
    BuiltFrom s gctx userId (s.assembled gctx userId) where
  emailStats := by
    cases hcall : s.getEmailStats gctx with
    | error d => exact absurd hcall (h .emailStats d)
    | ok v =>
      refine ⟨v, rfl, ?_⟩
      show StatsShown v (statsFromMessage (assigned (s.getEmailStats gctx)))
      rw [hcall]
      exact statsShown v
  smsStats := by
    cases hcall : s.getSMSStats gctx with
    | error d => exact absurd hcall (h .smsStats d)
    | ok v =>
      refine ⟨v, rfl, ?_⟩
      show StatsShown v (statsFromMessage (assigned (s.getSMSStats gctx)))
      rw [hcall]
      exact statsShown v
  quota := by
    cases hcall : s.getMyQuota gctx (quotaRequest userId) with
    | error d => exact absurd hcall (h .quota d)
    | ok v =>
      refine ⟨v, hcall, ?_⟩
      show QuotaShown v (quotaFromStorage (assigned (s.getMyQuota gctx (quotaRequest userId))))
      rw [hcall]
      exact quotaShown v
  users := by
    cases hcall : s.listUsersPaged gctx usersRequest with
    | error d => exact absurd hcall (h .users d)
    | ok v =>
      refine ⟨v, hcall, ?_⟩
      show UsersShown v (usersSummaryFromUser (assigned (s.listUsersPaged gctx usersRequest)))
      rw [hcall]
      exact usersShown v

/-- A response is the one that the calls assemble, and none of them has failed. -/
theorem Returns.assembled (hr : Returns s ctx order r) (ha : actorFromCtx ctx = some a)
    {resp : DashboardResponse} (hresp : r.answer = .ok resp) :
    (∀ leg, s.outcome (s.groupContext ctx) a.userId leg = .ok ()) ∧
      resp = s.assembled (s.groupContext ctx) a.userId := by
  rcases hr.answer ha with ⟨hok, hanswer⟩ | ⟨d, -, hanswer⟩
  · exact ⟨hok, Except.ok.inj (hresp.symm.trans hanswer)⟩
  · rw [hanswer] at hresp
    cases hresp

end Shown

/-- **The fan-in of the dashboard**: it fails with the first call to fail, and otherwise
responds with the values of the four calls, whatever the order of completion. -/
theorem dashboard_fanIn (s : Service Ctx D) (ctx : Ctx) : FanIn s ctx where
  anonymous ha _ _ hr := hr.of_anonymous ha
  order_iff := by
    intro a ha order
    constructor
    · rintro ⟨r, hr⟩
      obtain ⟨g, -, hall, -⟩ := hr.joined ha
      exact hall
    · intro hall
      have hstart : Run (Step s (s.groupContext ctx) a.userId) Group.started [] Group.started :=
        .start
      obtain ⟨h, g, hrun, hdone, rfl⟩ := exists_run order hstart hall.symm
      exact ⟨_, .waited ha hrun hdone⟩
  calls := by
    intro a ha order r hr
    obtain ⟨g, -, -, rfl⟩ := hr.joined ha
    rfl
  responds_iff := by
    intro a ha order r hr
    constructor
    · rintro ⟨resp, hresp⟩ leg
      exact outcome_eq_ok_iff.mp ((hr.assembled ha hresp).1 leg)
    · intro hok
      rcases hr.answer ha with ⟨-, hanswer⟩ | ⟨d, ⟨_, first, _, -, hfirst, -⟩, -⟩
      · exact ⟨_, hanswer⟩
      · exact absurd (outcome_eq_error_iff.mp hfirst) (hok first d)
  response := by
    intro a ha order r resp hr hresp
    obtain ⟨hok, rfl⟩ := hr.assembled ha hresp
    exact builtFrom_assembled fun leg => outcome_eq_ok_iff.mp (hok leg)
  same := by
    intro order order' r r' resp resp' hr hr' hresp hresp'
    cases ha : actorFromCtx ctx with
    | none =>
      rw [hr.of_anonymous ha] at hresp
      cases hresp
    | some a => rw [(hr.assembled ha hresp).2, (hr'.assembled ha hresp').2]
  failed := by
    rintro a ha order r hr ⟨leg, d, hd⟩
    rcases hr.answer ha with ⟨hok, -⟩ | ⟨d', ⟨before, first, after, horder, hfirst, hbefore⟩, hd'⟩
    · exact absurd hd (outcome_eq_ok_iff.mp (hok leg) d)
    · exact ⟨before, first, after, d', horder, outcome_eq_error_iff.mp hfirst,
        fun l hl => outcome_eq_ok_iff.mp (hbefore l hl), hd'⟩

end Returns
end Testkit.Dashboard
