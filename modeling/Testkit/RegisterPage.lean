import Testkit.Cooldown
import Testkit.Phone
import Testkit.RegionGroups

/-! # Verification codes of the registration form

`sendCode` of the Register page checks the form, asks for a code and, when one was sent,
starts a countdown of 60 seconds: an interval that takes one off each second and clears
itself at the end.  The button is dead while a request is in flight or the countdown runs.

So no code is asked for while a request is out, nor within a minute of an answer
(`codes_limited`).  A request that fails leaves no countdown, and can be repeated at once,
though its code may have been made all the same.  What the backend asks user-service for is
one mail or one short message (`codes_targeted`).
-/
namespace Testkit.RegisterPage
open LabelledRuns Cooldown

/-! ## The request -/

/-- `RegisterFormValues`, as far as `sendCode` reads it. -/
structure RegisterFormValues where
  channel : Option String
  email : Option String
  dialCode : Option String
  phone : Option String
  emailSubject : Option String
  emailBody : Option String
  emailHtmlBody : Option String
  smsTemplateId : Option String
  signName : Option String
  smsContent : Option String
  smsCodeParamKey : Option String
  deriving DecidableEq, Repr

/-- `v1VerificationChannel`, without the unspecified one. -/
inductive VerificationChannel
  | email
  | sms
  deriving DecidableEq, Repr

/-- `v1VerificationPurpose`. -/
inductive VerificationPurpose
  | unspecified
  | register
  | login
  | verifyEmail
  | verifyPhone
  | passwordReset
  | bind
  deriving DecidableEq, Repr

/-- What the page asks for; what is absent is undefined. -/
structure CodeRequest where
  channel : VerificationChannel
  purpose : VerificationPurpose
  email : Option String
  emailSubject : Option String
  emailBody : Option String
  emailHtmlBody : Option String
  dialCode : Option String
  phone : Option String
  smsTemplateId : Option String
  signName : Option String
  smsContent : Option String
  smsCodeParamKey : Option String
  deriving DecidableEq, Repr

/-- The subject of `VERIFICATION_CODE_TEMPLATE`. -/
def templateSubject : String := "Testkit 验证码"

/-- The body of `VERIFICATION_CODE_TEMPLATE`. -/
def templateBody : String :=
  "您的验证码：{code}，5 分钟内有效。为了您的账号安全，请勿将验证码透露给任何人。"

/-- The request of the email channel. -/
def emailRequest (vals : RegisterFormValues) : CodeRequest where
  channel := .email
  purpose := .register
  email := vals.email
  emailSubject := some ((truthy vals.emailSubject).getD templateSubject)
  emailBody := some ((truthy vals.emailBody).getD templateBody)
  emailHtmlBody := truthy vals.emailHtmlBody
  dialCode := none
  phone := none
  smsTemplateId := none
  signName := none
  smsContent := none
  smsCodeParamKey := none

/-- The request of the other channel. -/
def smsRequest (vals : RegisterFormValues) : CodeRequest where
  channel := .sms
  purpose := .register
  email := none
  emailSubject := none
  emailBody := none
  emailHtmlBody := none
  dialCode := some ((truthy vals.dialCode).getD "+86")
  phone := vals.phone
  smsTemplateId := truthy vals.smsTemplateId
  signName := truthy vals.signName
  smsContent := truthy vals.smsContent
  smsCodeParamKey := truthy vals.smsCodeParamKey

/-- `sendCode` up to its request; an error is a warning on the page. -/
def sendCode (vals : RegisterFormValues) : Except String CodeRequest :=
  let isEmail := vals.channel = some "email"
  if isEmail ∧ truthy vals.email = none then .error "请先填写邮箱"
  else if ¬ isEmail ∧ (truthy vals.dialCode = none ∨ truthy vals.phone = none) then
    .error "请先填写国家码和手机号"
  else if ¬ isEmail ∧ vals.dialCode = some "+86" ∧
      (truthy vals.smsTemplateId = none ∨ truthy vals.signName = none) then
    .error "国内短信需要短信模板 ID 和签名（投递模板面板里填写）"
  else .ok (if isEmail then emailRequest vals else smsRequest vals)

/-- `testkitv1.SendVerificationCodeRequest`.  It has no place for the delivery templates. -/
structure SendVerificationCodeRequest where
  email : String
  channel : VerificationChannel
  purpose : VerificationPurpose
  dialCode : String
  phone : String
  deriving DecidableEq, Repr

/-- `userv1.SendVerificationCodeRequest`. -/
structure BackendCodeRequest where
  email : String
  channel : VerificationChannel
  purpose : VerificationPurpose
  phone : String
  deriving DecidableEq, Repr

/-- What the gateway makes of the page's request. -/
def CodeRequest.received (r : CodeRequest) : SendVerificationCodeRequest :=
  { email := r.email.getD ""
    channel := r.channel
    purpose := r.purpose
    dialCode := r.dialCode.getD ""
    phone := r.phone.getD "" }

/-- `toUserCodeRequest`. -/
def toUserCodeRequest (r : SendVerificationCodeRequest) : BackendCodeRequest :=
  { email := r.email
    channel := r.channel
    purpose := r.purpose
    phone := Phone.composeE164 r.dialCode r.phone }

/-- What user-service is asked for a code: one mail, or one short message. -/
structure Targeted (vals : RegisterFormValues) (r : BackendCodeRequest) : Prop where
  purpose : r.purpose = .register
  byMail : vals.channel = some "email" → r.channel = .email ∧ r.email = vals.email.getD "" ∧
    r.email ≠ "" ∧ r.phone = ""
  bySms : vals.channel ≠ some "email" → r.channel = .sms ∧ r.email = "" ∧
    r.phone = Phone.composeE164 (vals.dialCode.getD "") (vals.phone.getD "")

/-- **One target**, whatever the panel of delivery templates holds. -/
theorem codes_targeted {vals : RegisterFormValues} {req : CodeRequest}
    (h : sendCode vals = .ok req) : Targeted vals (toUserCodeRequest req.received) := by
  unfold sendCode at h
  dsimp only at h
  split at h
  · cases h
  rename_i hmail
  split at h
  · cases h
  rename_i hsms
  split at h
  · cases h
  by_cases hemail : vals.channel = some "email"
  · rw [if_pos hemail] at h
    obtain rfl := Except.ok.inj h
    have hgiven : vals.email.getD "" ≠ "" := fun hnone =>
      hmail ⟨hemail, truthy_eq_none.mpr hnone⟩
    have hnumber : Phone.composeE164 "" "" = "" := by decide
    exact ⟨rfl, fun _ => ⟨rfl, rfl, hgiven, hnumber⟩, fun hne => absurd hemail hne⟩
  · rw [if_neg hemail] at h
    obtain rfl := Except.ok.inj h
    refine ⟨rfl, fun hmail => absurd hmail hemail, fun _ => ⟨rfl, rfl, ?_⟩⟩
    -- the dial code is there, so its default does not matter
    cases hdial : truthy vals.dialCode with
    | none => exact absurd (Or.inl hdial) fun hnone => hsms ⟨hemail, hnone⟩
    | some d =>
      obtain ⟨hd, -⟩ := truthy_eq_some.mp hdial
      rw [hd] at hdial ⊢
      simp only [toUserCodeRequest, CodeRequest.received, smsRequest, hd, hdial,
        Option.getD_some]

/-! ## The page -/

/-- An interval of one second, and how often it has fired. -/
structure Timer where
  startedAt : Int
  fired : Nat
  deriving DecidableEq, Repr

/-- The page, its requests in flight, its intervals, and the browser's clock in milliseconds. -/
structure Page where
  countdown : Nat
  sending : Bool
  captchaId : Option String
  inFlight : List CodeRequest
  timers : List Timer
  clock : Int
  deriving DecidableEq, Repr

/-- The page when it is opened. -/
def opened (now : Int) : Page := ⟨0, false, none, [], [], now⟩

/-- The button is neither disabled nor loading. -/
def Page.Alive (p : Page) : Prop := p.countdown = 0 ∧ p.sending = false

/-- A click on the button. -/
def Page.click (p : Page) (vals : RegisterFormValues) : Page :=
  match sendCode vals with
  | .error _ => p
  | .ok req => { p with sending := true, inFlight := req :: p.inFlight }

/-- `startCountdown`. -/
def Page.startCountdown (p : Page) : Page :=
  { p with countdown := 60, timers := ⟨p.clock, 0⟩ :: p.timers }

/-- A request of `sendCode` is answered. -/
def Page.answered (p : Page) (others : List CodeRequest) (captchaId : Option String) : Page :=
  { p.startCountdown with
    inFlight := others
    captchaId := (truthy captchaId).or p.captchaId
    sending := false }

/-- An interval fires. -/
def Page.tick (p : Page) (before : List Timer) (t : Timer) (after : List Timer) : Page :=
  if p.countdown ≤ 1 then { p with countdown := 0, timers := before ++ after }
  else
    { p with
      countdown := p.countdown - 1
      timers := before ++ { t with fired := t.fired + 1 } :: after }

inductive Event
  | click (vals : RegisterFormValues)
  | answered (captchaId : Option String)
  | failed
  | tick
  | wait (d : Nat)
  deriving DecidableEq, Repr

/-- A step.  The `n`-th firing of an interval comes `n` seconds after its start or later. -/
inductive Step : Page → Event → Page → Prop
  | click {p : Page} (vals : RegisterFormValues) : p.Alive → Step p (.click vals) (p.click vals)
  | answered {p : Page} (before after : List CodeRequest) {req : CodeRequest}
      (captchaId : Option String) : p.inFlight = before ++ req :: after →
      Step p (.answered captchaId) (p.answered (before ++ after) captchaId)
  | failed {p : Page} (before after : List CodeRequest) {req : CodeRequest} :
      p.inFlight = before ++ req :: after →
      Step p .failed { p with inFlight := before ++ after, sending := false }
  | tick {p : Page} (before after : List Timer) {t : Timer} : p.timers = before ++ t :: after →
      t.startedAt + 1000 * (t.fired + 1) ≤ p.clock → Step p .tick (p.tick before t after)
  | wait {p : Page} (d : Nat) : Step p (.wait d) { p with clock := p.clock + d }

/-- The instant at which a request was answered. -/
def sent (p : Page) : Event → Option Int
  | .answered _ => some p.clock
  | _ => none

/-! ## One request, one interval -/

/-- What the page is at. -/
inductive Phase (p : Page) : Prop
  /-- The button is alive. -/
  | ready : p.sending = false → p.inFlight = [] → p.timers = [] → p.countdown = 0 → Phase p
  /-- A request is in flight. -/
  | waiting (req : CodeRequest) : p.sending = true → p.inFlight = [req] → p.timers = [] →
      p.countdown = 0 → Phase p
  /-- The countdown runs. -/
  | counting (t : Timer) : p.sending = false → p.inFlight = [] → p.timers = [t] →
      0 < p.countdown → p.countdown + t.fired = 60 → Phase p

theorem phase_click {p : Page} (hp : Phase p) (halive : p.Alive) (vals : RegisterFormValues) :
    Phase (p.click vals) := by
  obtain ⟨hzero, hidle⟩ := halive
  unfold Page.click
  cases hp with
  | ready hsending hflight htimers hcount =>
    split
    · exact .ready hsending hflight htimers hcount
    · rename_i req _
      exact .waiting req rfl (congrArg (req :: ·) hflight) htimers hcount
  | waiting req hsending => exact absurd (hidle.symm.trans hsending) Bool.false_ne_true
  | counting t _ _ _ hpos => omega

/-- A request can only be the one of `waiting`. -/
theorem phase_inFlight {p : Page} (hp : Phase p) {before after : List CodeRequest}
    {req : CodeRequest} (hflight : p.inFlight = before ++ req :: after) :
    before ++ after = [] ∧ p.timers = [] ∧ p.countdown = 0 := by
  cases hp with
  | ready _ hnone => simp [hnone] at hflight
  | counting t _ hnone => simp [hnone] at hflight
  | waiting req' _ hone htimers hcount =>
    rw [hone, eq_comm, List.append_eq_singleton_iff] at hflight
    refine ⟨?_, htimers, hcount⟩
    rcases hflight with ⟨rfl, heq⟩ | ⟨-, heq⟩
    · exact (List.cons.inj heq).2
    · cases heq

/-- An interval can only be the one of `counting`. -/
theorem phase_timers {p : Page} (hp : Phase p) {before after : List Timer} {t : Timer}
    (htimers : p.timers = before ++ t :: after) :
    before = [] ∧ after = [] ∧ p.inFlight = [] ∧ p.sending = false ∧ 0 < p.countdown ∧
      p.countdown + t.fired = 60 := by
  cases hp with
  | ready _ _ hnone => simp [hnone] at htimers
  | waiting _ _ _ hnone => simp [hnone] at htimers
  | counting t' hsending hflight hone hpos hsum =>
    rw [hone, eq_comm, List.append_eq_singleton_iff] at htimers
    rcases htimers with ⟨rfl, heq⟩ | ⟨-, heq⟩
    · obtain ⟨rfl, rfl⟩ := List.cons.inj heq
      exact ⟨rfl, rfl, hflight, hsending, hpos, hsum⟩
    · cases heq

theorem phase_step {p q : Page} {l : Event} (hp : Phase p) (hs : Step p l q) : Phase q := by
  cases hs with
  | click vals halive => exact phase_click hp halive vals
  | answered before after captchaId hflight =>
    obtain ⟨hnone, htimers, -⟩ := phase_inFlight hp hflight
    exact .counting ⟨p.clock, 0⟩ rfl hnone (congrArg (Timer.mk p.clock 0 :: ·) htimers)
      (Nat.succ_pos 59) rfl
  | failed before after hflight =>
    obtain ⟨hnone, htimers, hcount⟩ := phase_inFlight hp hflight
    exact .ready rfl hnone htimers hcount
  | @tick before after t htimers hdue =>
    obtain ⟨rfl, rfl, hflight, hsending, hpos, hsum⟩ := phase_timers hp htimers
    unfold Page.tick
    split
    -- the firing that takes the countdown to zero clears its interval
    · exact .ready hsending hflight rfl rfl
    · refine .counting { t with fired := t.fired + 1 } hsending hflight rfl ?_ ?_
      · show 0 < p.countdown - 1
        omega
      · show p.countdown - 1 + (t.fired + 1) = 60
        omega
  | wait d =>
    cases hp with
    | ready hsending hflight htimers hcount => exact .ready hsending hflight htimers hcount
    | waiting req hsending hflight htimers hcount =>
      exact .waiting req hsending hflight htimers hcount
    | counting t hsending hflight htimers hpos hsum =>
      exact .counting t hsending hflight htimers hpos hsum

theorem phase_run {now : Int} {h : List (Page × Event)} {p : Page}
    (hr : Run Step (opened now) h p) : Phase p :=
  hr.invariant (.ready rfl rfl rfl rfl) fun _ _ _ hp hs => phase_step hp hs

/-! ## A minute after an answer -/

/-- When the page could have the next answer. -/
structure Page.Ready (p : Page) (b : Int) : Prop where
  now : p.countdown = 0 → p.clock ≤ b
  timer : ∀ t ∈ p.timers, t.startedAt + 60000 ≤ b

/-- What is forbidden stays forbidden. -/
theorem ready_of_step {p q : Page} {l : Event} {b : Int} (hp : Phase p) (hs : Step p l q)
    (hq : q.Ready b) : p.Ready b := by
  cases hs with
  | click vals _ =>
    have hsame : (p.click vals).countdown = p.countdown ∧ (p.click vals).clock = p.clock ∧
        (p.click vals).timers = p.timers := by
      unfold Page.click
      split <;> exact ⟨rfl, rfl, rfl⟩
    obtain ⟨hcount, hclock, htimers⟩ := hsame
    exact ⟨fun h => hclock ▸ hq.now (hcount.trans h), fun t ht => hq.timer t (htimers ▸ ht)⟩
  | answered before after captchaId hflight =>
    obtain ⟨-, htimers, -⟩ := phase_inFlight hp hflight
    -- the interval has just started, and the next request waits for its end
    have hnew : p.clock + 60000 ≤ b := hq.timer ⟨p.clock, 0⟩ List.mem_cons_self
    exact ⟨fun _ => by omega, by simp [htimers]⟩
  | failed => exact ⟨hq.now, hq.timer⟩
  | @tick before after t htimers hdue =>
    obtain ⟨rfl, rfl, -, -, hpos, hsum⟩ := phase_timers hp htimers
    refine ⟨fun h => by omega, ?_⟩
    simp only [htimers, List.nil_append, List.mem_singleton, forall_eq]
    unfold Page.tick at hq
    split at hq
    · -- the last firing: it comes a minute after the start
      have hnow : p.clock ≤ b := hq.now rfl
      have hfired : t.fired = 59 := by omega
      rw [hfired] at hdue
      omega
    · exact hq.timer { t with fired := t.fired + 1 } List.mem_cons_self
  | wait d =>
    refine ⟨fun h => ?_, hq.timer⟩
    have hnow : p.clock + (d : Int) ≤ b := hq.now h
    omega

/-- An answer comes when that is not forbidden, and forbids the next minute. -/
theorem sent_ready {p q : Page} {l : Event} {a : Int} (hp : Phase p) (hs : Step p l q)
    (hsent : sent p l = some a) : p.Ready a ∧ ∀ b, q.Ready b → a + 60000 ≤ b := by
  cases hs with
  | answered before after captchaId hflight =>
    obtain ⟨-, htimers, -⟩ := phase_inFlight hp hflight
    obtain rfl : p.clock = a := Option.some.inj hsent
    exact ⟨⟨fun _ => Int.le_refl _, by simp [htimers]⟩,
      fun b hb => hb.timer ⟨p.clock, 0⟩ List.mem_cons_self⟩
  | _ => cases hsent

/-- What holds of a page after its history. -/
structure Limited (h : List (Page × Event)) (p : Page) : Prop where
  /-- There is at most one request or interval, and the countdown shows that of the latter. -/
  single : p.inFlight.length + p.timers.length ≤ 1
  shown : ∀ t ∈ p.timers, p.countdown + t.fired = 60
  /-- The button is alive when there is neither. -/
  alive : p.Alive ↔ p.inFlight = [] ∧ p.timers = []
  sparse : Sparse 60000 (instants sent h)
  /-- At a click no request is out, and every answer came a minute before it. -/
  clicks : ∀ vals q, Step p (.click vals) q → p.inFlight = [] ∧
    ∀ p' captchaId, (p', .answered captchaId) ∈ h → p'.clock + 60000 ≤ p.clock
  /-- After a failure the button is alive at once. -/
  repeatable : ∀ q, Step p .failed q → q.Alive

theorem alive_iff_of_phase {p : Page} (hp : Phase p) :
    p.Alive ↔ p.inFlight = [] ∧ p.timers = [] := by
  unfold Page.Alive
  cases hp with
  | ready hsending hflight htimers hcount => simp [hsending, hflight, htimers, hcount]
  | waiting _ hsending hflight => simp [hsending, hflight]
  | counting _ _ _ htimers hpos => simp [htimers]; omega

/-- The page can have the next answer now when its button is alive. -/
theorem ready_of_alive {p : Page} (hp : Phase p) (halive : p.Alive) : p.Ready p.clock := by
  refine ⟨fun _ => Int.le_refl _, fun t ht => ?_⟩
  rw [((alive_iff_of_phase hp).mp halive).2] at ht
  cases ht

theorem alive_of_failed {p q : Page} (hp : Phase p) (hs : Step p .failed q) : q.Alive := by
  cases hs with
  | failed before after hflight =>
    obtain ⟨-, -, hcount⟩ := phase_inFlight hp hflight
    exact ⟨hcount, rfl⟩

/-- **A minute after an answer**, in every run: whatever is clicked and answered, and however
late the interval fires. -/
theorem codes_limited {now : Int} {h : List (Page × Event)} {p : Page}
    (hr : Run Step (opened now) h p) : Limited h p := by
  have hp := phase_run hr
  obtain ⟨hspaced, hrested⟩ := spaced_of_run (fun _ _ => phase_run)
    (fun _ _ _ _ => sent_ready) (fun _ _ _ _ => ready_of_step) hr
  refine ⟨?_, ?_, alive_iff_of_phase hp, hspaced.sparse (by decide), fun vals q hs => ?_,
    fun q => alive_of_failed hp⟩
  · cases hp with
    | ready _ hflight htimers => simp [hflight, htimers]
    | waiting _ _ hflight htimers => simp [hflight, htimers]
    | counting _ _ hflight htimers => simp [hflight, htimers]
  · intro t ht
    obtain ⟨before, after, htimers⟩ := List.append_of_mem ht
    exact (phase_timers hp htimers).2.2.2.2.2
  · cases hs with
    | click _ halive =>
      refine ⟨((alive_iff_of_phase hp).mp halive).1, fun p' captchaId hmem => ?_⟩
      exact hrested p.clock (ready_of_alive hp halive) p'.clock
        (List.mem_filterMap.mpr ⟨_, hmem, rfl⟩)

/-- A request fails, is repeated at once and answered; a second later the button shows 59. -/
theorem codes_limited_mail : ∃ h p, Run Step (opened 0) h p ∧ instants sent h = [0] ∧
    p.countdown = 59 ∧ Limited h p := by
  let vals : RegisterFormValues :=
    ⟨some "email", some "a@b.c", none, none, none, none, none, none, none, none, none⟩
  have hclicked : Run Step (opened 0) _ _ := Run.start.next (.click vals ⟨rfl, rfl⟩)
  have hfailed := hclicked.next (@Step.failed _ [] [] (emailRequest vals) rfl)
  have hagain := hfailed.next (.click vals ⟨rfl, rfl⟩)
  have hsent := hagain.next (@Step.answered _ [] [] (emailRequest vals) (some "c-1") rfl)
  have hticked := (hsent.next (.wait 1000)).next (.tick [] [] (t := ⟨0, 0⟩) rfl (by decide))
  exact ⟨_, _, hticked, rfl, rfl, codes_limited hticked⟩

end Testkit.RegisterPage
