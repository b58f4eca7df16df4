import Testkit.MyStorage

/-! # The dashboard's fan-in

`GetDashboard` starts four downstream calls under one error group and waits for all of
them.  The group keeps the first error in the order of completion, and its context is
cancelled with it, so a call that is still running may answer with the cancellation.
Which calls do, and the order of completion, are a `Schedule`.

The quota call carries the caller as owner, as the storage forwards do.
-/
namespace Testkit
open BackendCalls

/-! ## Messages -/

/-- `EmailVendorStats` and `SmsVendorStats`; the vendor is its number. -/
structure VendorStats (side : Side) where
  vendor : Int32
  total : Int64
  sent : Int64
  failed : Int64
  deriving Inhabited

/-- `EmailStats` and `SMSStats`, and the responses of message-service they are built
from. -/
structure ChannelStats (side : Side) where
  total : Int64
  sent : Int64
  failed : Int64
  successRate : Float
  vendors : List (Option (VendorStats side))

/-- `userv1.ListUsersPagedRequest`: the fields the dashboard sets. -/
structure ListUsersPagedRequest where
  page : Int32
  pageSize : Int32
  count : Bool
  deriving DecidableEq, Repr

/-- `userv1.ListUsersPagedResponse`: the field the dashboard reads. -/
structure ListUsersPagedResponse where
  total : Int64
  deriving DecidableEq, Repr

structure UsersSummary where
  total : Int64
  deriving DecidableEq, Repr

structure DashboardResponse where
  emailStats : Option (ChannelStats .testkit)
  smsStats : Option (ChannelStats .testkit)
  quota : Option (QuotaInfo .testkit)
  users : Option UsersSummary

namespace Dashboard

/-- The loop over `r.GetVendors()`: a nil element becomes an empty row. -/
def vendorStats (v : Option (VendorStats .backend)) : Option (VendorStats .testkit) :=
  let v := v.getD default
  some { vendor := v.vendor, total := v.total, sent := v.sent, failed := v.failed }

/-- `emailStatsFromMessage` and `smsStatsFromMessage`. -/
def statsFromMessage (r : Option (ChannelStats .backend)) : Option (ChannelStats .testkit) :=
  r.map fun r =>
    { total := r.total
      sent := r.sent
      failed := r.failed
      successRate := r.successRate
      vendors := r.vendors.map vendorStats }

/-- `quotaFromStorage`. -/
def quotaFromStorage (q : Option (QuotaInfo .backend)) : Option (QuotaInfo .testkit) :=
  q.map fun q =>
    { totalBytes := q.totalBytes
      usedBytes := q.usedBytes
      availableBytes := q.availableBytes
      fileCount := q.fileCount }

/-- `usersSummaryFromUser`. -/
def usersSummaryFromUser (r : Option ListUsersPagedResponse) : Option UsersSummary :=
  r.map fun r => { total := r.total }

/-! ## The error group -/

/-- The four calls. -/
inductive Leg
  | emailStats
  | smsStats
  | quota
  | users
  deriving DecidableEq, Repr

/-- The calls in the order they are started. -/
def Leg.all : List Leg := [.emailStats, .smsStats, .quota, .users]

/-- How the calls of one group run: the order in which they complete, and which of them
answer with the cancellation if the group has been cancelled by then. -/
structure Schedule where
  order : List Leg
  complete : order.Perm Leg.all
  interrupted : Leg → Bool

/-- `g.Wait`: the calls complete one by one and the first error is kept. -/
def wait {D : Type} (canceled : D) (interrupted : Leg → Bool) (outcome : Leg → Except D Unit) :
    List Leg → Option D → Option D
  | [], first => first
  | leg :: rest, first =>
    let answer := if first.isSome && interrupted leg then .error canceled else outcome leg
    let first :=
      match first, answer with
      | none, .error d => some d
      | first, _ => first
    wait canceled interrupted outcome rest first

section Wait
variable {D : Type} {canceled : D} {interrupted : Leg → Bool} {outcome : Leg → Except D Unit}

/-- The first error stays. -/
theorem wait_some (order : List Leg) (d : D) :
    wait canceled interrupted outcome order (some d) = some d := by
  induction order with
  | nil => rfl
  | cons leg rest ih => simpa [wait] using ih

/-- The own error of a call. -/
def ownError (outcome : Leg → Except D Unit) (leg : Leg) : Option D :=
  match outcome leg with
  | .ok _ => none
  | .error d => some d

theorem ownError_eq_some {leg : Leg} {d : D} :
    ownError outcome leg = some d ↔ outcome leg = .error d := by
  unfold ownError
  cases outcome leg <;> simp

theorem ownError_eq_none {leg : Leg} : ownError outcome leg = none ↔ outcome leg = .ok () := by
  unfold ownError
  cases outcome leg <;> simp

/-- The kept error is the first call's own error: no call answers with the cancellation before
one has failed. -/
theorem wait_eq_findSome (order : List Leg) :
    wait canceled interrupted outcome order none = order.findSome? (ownError outcome) := by
  induction order with
  | nil => rfl
  | cons head rest ih =>
    cases houtcome : outcome head with
    | ok u => simpa [wait, ownError, houtcome] using ih
    | error e => simp [wait, ownError, houtcome, wait_some]

/-- The kept error is an own error of the first call to fail. -/
theorem wait_eq_some_iff (order : List Leg) (d : D) :
    wait canceled interrupted outcome order none = some d ↔
      ∃ before leg after, order = before ++ leg :: after ∧ outcome leg = .error d ∧
        ∀ l ∈ before, outcome l = .ok () := by
  rw [wait_eq_findSome, List.findSome?_eq_some_iff]
  simp only [ownError_eq_some, ownError_eq_none]

/-- No error is kept iff every call succeeds. -/
theorem wait_eq_none_iff (order : List Leg) :
    wait canceled interrupted outcome order none = none ↔
      ∀ l ∈ order, outcome l = .ok () := by
  rw [wait_eq_findSome, List.findSome?_eq_none_iff]
  simp only [ownError_eq_none]

end Wait

/-! ## `GetDashboard` -/

/-- The methods of the three downstream services the dashboard calls, the derived
context of `errgroup.WithContext`, and the error of a cancelled call. -/
structure Service (Ctx D : Type) where
  getEmailStats : Ctx → Except D (Option (ChannelStats .backend))
  getSMSStats : Ctx → Except D (Option (ChannelStats .backend))
  getMyQuota : Ctx → Owned (GetMyQuotaRequest .backend) → Except D (Option (QuotaInfo .backend))
  listUsersPaged : Ctx → ListUsersPagedRequest → Except D (Option ListUsersPagedResponse)
  groupContext : Ctx → Ctx
  canceled : D

/-- A downstream call, with what it carries. -/
inductive Call (Ctx : Type)
  | getEmailStats (ctx : Ctx)
  | getSMSStats (ctx : Ctx)
  | getMyQuota (ctx : Ctx) (req : Owned (GetMyQuotaRequest .backend))
  | listUsersPaged (ctx : Ctx) (req : ListUsersPagedRequest)

/-- The owners the quota calls of a log carry. -/
def quotaOwners {Ctx : Type} (calls : List (Call Ctx)) : List Owner :=
  calls.filterMap fun
    | .getMyQuota _ req => some req.owner
    | _ => none

/-- What a closure leaves in its shared variable. -/
def assigned {D α : Type} (r : Except D (Option α)) : Option α :=
  r.toOption.join

section GetDashboard
variable {Ctx MD D : Type} [MetadataMap MD] [RequestContext Ctx MD]

/-- The request of the quota call. -/
def quotaRequest (userId : Int64) : Owned (GetMyQuotaRequest .backend) where
  owner := { ownerType := .user, ownerId := userId }
  rest := {}

/-- The request for the number of users and one row. -/
def usersRequest : ListUsersPagedRequest := { page := 1, pageSize := 1, count := true }

/-- How a call of the group ends when nothing cancels it. -/
def Service.outcome (s : Service Ctx D) (gctx : Ctx) (userId : Int64) : Leg → Except D Unit
  | .emailStats => (s.getEmailStats gctx).map fun _ => ()
  | .smsStats => (s.getSMSStats gctx).map fun _ => ()
  | .quota => (s.getMyQuota gctx (quotaRequest userId)).map fun _ => ()
  | .users => (s.listUsersPaged gctx usersRequest).map fun _ => ()

/-- `GetDashboard`. -/
def getDashboard (s : Service Ctx D) (schedule : Schedule) (ctx : Ctx) :
    Handled (Call Ctx) (SelfServiceError D) DashboardResponse :=
  match actorFromCtx ctx with
  | none => ⟨[], .error .callerUnresolved⟩
  | some actor =>
    let userId := actor.userId
    let gctx := s.groupContext ctx
    let calls := [.getEmailStats gctx, .getSMSStats gctx,
      .getMyQuota gctx (quotaRequest userId), .listUsersPaged gctx usersRequest]
    match wait s.canceled schedule.interrupted (s.outcome gctx userId) schedule.order none with
    | some d => ⟨calls, .error (.downstream d)⟩
    | none =>
      ⟨calls, .ok
        { emailStats := statsFromMessage (assigned (s.getEmailStats gctx))
          smsStats := statsFromMessage (assigned (s.getSMSStats gctx))
          quota := quotaFromStorage (assigned (s.getMyQuota gctx (quotaRequest userId)))
          users := usersSummaryFromUser (assigned (s.listUsersPaged gctx usersRequest)) }⟩

variable {s : Service Ctx D} {schedule : Schedule} {ctx : Ctx} {a : RequestActor}

theorem getDashboard_anonymous (ha : actorFromCtx ctx = none) :
    getDashboard s schedule ctx = ⟨[], .error .callerUnresolved⟩ := by
  simp [getDashboard, ha]

theorem calls_getDashboard (ha : actorFromCtx ctx = some a) :
    (getDashboard s schedule ctx).calls =
      [.getEmailStats (s.groupContext ctx), .getSMSStats (s.groupContext ctx),
        .getMyQuota (s.groupContext ctx) (quotaRequest a.userId),
        .listUsersPaged (s.groupContext ctx) usersRequest] := by
  simp only [getDashboard, ha]
  split <;> rfl

/-- A failed group has no response: it answers the error of the first call to fail. -/
theorem getDashboard_failed (ha : actorFromCtx ctx = some a) (leg : Leg) {d : D}
    (hd : s.outcome (s.groupContext ctx) a.userId leg = .error d) :
    ∃ before first after d', schedule.order = before ++ first :: after ∧
      s.outcome (s.groupContext ctx) a.userId first = .error d' ∧
      (∀ l ∈ before, s.outcome (s.groupContext ctx) a.userId l = .ok ()) ∧
      (getDashboard s schedule ctx).answer = .error (.downstream d') := by
  have hmem : leg ∈ schedule.order := schedule.complete.mem_iff.mpr (by cases leg <;> decide)
  cases hwait : wait s.canceled schedule.interrupted (s.outcome (s.groupContext ctx) a.userId)
      schedule.order none with
  | none =>
    have hok := (wait_eq_none_iff _).mp hwait leg hmem
    rw [hd] at hok
    cases hok
  | some d' =>
    obtain ⟨before, first, after, horder, hfirst, hbefore⟩ := (wait_eq_some_iff _ _).mp hwait
    refine ⟨before, first, after, d', horder, hfirst, hbefore, ?_⟩
    simp only [getDashboard, ha, hwait]

/-- How `GetDashboard` treats its caller. -/
structure OwnerScoped (s : Service Ctx D) (schedule : Schedule) : Prop where
  anonymous : ∀ ctx, actorFromCtx ctx = none →
    getDashboard s schedule ctx = ⟨[], .error .callerUnresolved⟩
  /-- One quota call, under the actor's own id. -/
  owners : ∀ ctx a, actorFromCtx ctx = some a →
    quotaOwners (getDashboard s schedule ctx).calls = [⟨.user, a.userId⟩]
  /-- A failed quota call leaves no response; the answer is its error, or the error of a
  call that failed before it. -/
  failed : ∀ ctx a d, actorFromCtx ctx = some a →
    s.getMyQuota (s.groupContext ctx) (quotaRequest a.userId) = .error d →
    ∃ before first after d', schedule.order = before ++ first :: after ∧
      s.outcome (s.groupContext ctx) a.userId first = .error d' ∧
      (∀ l ∈ before, s.outcome (s.groupContext ctx) a.userId l = .ok ()) ∧
      (getDashboard s schedule ctx).answer = .error (.downstream d')

theorem ownerScoped (s : Service Ctx D) (schedule : Schedule) : OwnerScoped s schedule where
  anonymous _ ha := getDashboard_anonymous ha
  owners := by
    intro ctx a ha
    rw [calls_getDashboard ha]
    rfl
  failed := by
    intro ctx a d ha hd
    refine getDashboard_failed ha .quota (d := d) ?_
    show (s.getMyQuota (s.groupContext ctx) (quotaRequest a.userId)).map _ = _
    rw [hd]
    rfl

end GetDashboard
end Dashboard

/-- **Caller ownership of the self-service surface.**  Every owner-scoped RPC of the
storage domain and the dashboard's quota call act for the verified actor alone. -/
theorem caller_ownership {Ctx MD D S : Type} [MetadataMap MD] [RequestContext Ctx MD] :
    (∀ (s : OwnerClient Ctx D S) (rpc : OwnerRpc) (req : rpc.Req .testkit),
      ∃ sent, OwnerScoped s rpc req sent) ∧
    ∀ (s : Dashboard.Service Ctx D) (schedule : Dashboard.Schedule),
      Dashboard.OwnerScoped s schedule := by
  constructor
  · intro s rpc req
    exact OwnerRpc.ownerScoped s rpc req
  · intro s schedule
    exact Dashboard.ownerScoped s schedule

end Testkit
