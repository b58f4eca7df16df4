import Testkit.DialCodes
import Testkit.RegisterPage

/-! # Binding and unbinding identities

The identity page lists the ways its user can log in.  A dialog binds another one: an e-mail
address or a phone number with a code that was sent to it, or an account of a third party with
the `state` of a link that was asked for in the dialog.  Any number of links can be asked for
while others are not answered, the provider can change meanwhile, and the dialog can be closed
and opened again.  What is posted is taken at most once, and belongs to the provider it is
posted with iff the link that came last does (`states_matched`).

A second dialog unbinds what is listed: an account at once, an address or a number with a code
that was sent to it.  The code for a number is asked for without a dial code, so that none is
ever sent, and numbers stay bound (`unbindable_iff`).
-/
namespace Testkit.IdentityPage
open LabelledRuns RegisterPage

/-! ## The data of the page -/

/-- `v1IdentityProvider`. -/
inductive IdentityProvider
  | unspecified
  | email
  | phone
  | github
  | google
  | wechat
  | apple
  | wechatMiniprogram
  | admin
  deriving DecidableEq, Repr

/-- `OAUTH_PROVIDERS`. -/
def oauthProviders : List IdentityProvider := [.github, .google, .wechat, .apple]

/-- The values of `BIND_PROVIDER_OPTIONS`. -/
def bindProviderOptions : List IdentityProvider :=
  [.email, .phone, .github, .google, .wechat, .apple]

/-- `API.Identity`, as far as the page reads it. -/
structure Identity where
  id : Option String
  provider : Option IdentityProvider
  providerUid : Option String
  deriving DecidableEq, Repr

/-- `codeUnbindable`, and `needsCode` of the dialog. -/
def Identity.codeUnbindable (i : Identity) : Bool :=
  decide (i.provider = some .email) || decide (i.provider = some .phone)

/-- `oauthUnbindable`. -/
def Identity.oauthUnbindable (i : Identity) : Bool :=
  [some .github, some .google, some .wechat, some .wechatMiniprogram, some .apple].contains
    i.provider

/-- `unbindable`: the button of the row is not disabled. -/
def Identity.unbindable (i : Identity) : Bool := i.codeUnbindable || i.oauthUnbindable

/-- The form of the binding dialog. -/
structure BindForm where
  provider : Option IdentityProvider
  email : Option String
  dialCode : Option String
  phone : Option String
  code : Option String
  deriving DecidableEq, Repr

/-- The form with its initial values. -/
def BindForm.blank : BindForm :=
  ⟨none, none, some DialCodes.DialForm.identity.initial, none, none⟩

/-- What the dialog posts: a `BindOAuthIdentityRequest` or a `BindIdentityRequest`. -/
inductive BindRequest
  | oauth (provider : IdentityProvider) (code : Option String) (state : String)
  | credential (provider : Option IdentityProvider)
      (email dialCode phone code : Option String)
  deriving DecidableEq, Repr

/-- What `onFinish` of the binding dialog posts; a field that is not drawn has no value. -/
def BindForm.request (f : BindForm) (oauthState : Option String) : BindRequest :=
  match f.provider with
  | some .email => .credential f.provider f.email none none f.code
  | some .phone => .credential f.provider none f.dialCode f.phone f.code
  | some provider =>
    if provider ∈ oauthProviders then .oauth provider f.code (oauthState.getD "")
    else .credential f.provider none none none none
  | none => .credential none none none none none

/-- A code by mail, with the template. -/
def mailCode (purpose : VerificationPurpose) (address : String) : CodeRequest where
  channel := .email
  purpose := purpose
  email := some address
  emailSubject := some templateSubject
  emailBody := some templateBody
  emailHtmlBody := none
  dialCode := none
  phone := none
  smsTemplateId := none
  signName := none
  smsContent := none
  smsCodeParamKey := none

/-- A code by short message. -/
def smsCode (purpose : VerificationPurpose) (dialCode : Option String) (phone : String) :
    CodeRequest where
  channel := .sms
  purpose := purpose
  email := none
  emailSubject := none
  emailBody := none
  emailHtmlBody := none
  dialCode := dialCode
  phone := some phone
  smsTemplateId := none
  signName := none
  smsContent := none
  smsCodeParamKey := none

/-- What the button of the binding dialog asks for; it is drawn for two providers. -/
def BindForm.codeRequest (f : BindForm) : Option CodeRequest :=
  match f.provider with
  | some .email => some (mailCode .bind (f.email.getD ""))
  | some .phone => some (smsCode .bind (some ((truthy f.dialCode).getD "+86")) (f.phone.getD ""))
  | _ => none

/-- What the button of the unbinding dialog asks for; it is drawn when a code is needed. -/
def Identity.codeRequest (i : Identity) : Option CodeRequest :=
  match i.provider with
  | some .email => some (mailCode .verifyEmail (i.providerUid.getD ""))
  | some .phone => some (smsCode .verifyPhone none (i.providerUid.getD ""))
  | _ => none

/-- The code `onFinish` of the unbinding dialog posts. -/
def Identity.unbindCode (i : Identity) (code : String) : String :=
  if i.codeUnbindable then code else ""

/-! ## The page and the codes of user-service -/

/-- Whom the request that reaches user-service names: an address or a number. -/
def addressee (r : CodeRequest) : String :=
  match (toUserCodeRequest r.received).channel with
  | .email => (toUserCodeRequest r.received).email
  | .sms => (toUserCodeRequest r.received).phone

/-- A code that user-service has sent. -/
structure SentCode where
  purpose : VerificationPurpose
  address : String
  code : String
  deriving DecidableEq, Repr

/-- `v1GetOAuthURLResponse`. -/
structure OAuthURL where
  url : Option String
  state : Option String
  deriving DecidableEq, Repr

/-- The page, its requests in flight, and the codes user-service has sent. -/
structure Page where
  identities : List Identity
  bindOpen : Bool
  form : BindForm
  oauthState : Option String
  oauthUrl : Option String
  links : List IdentityProvider
  binding : Option BindRequest
  unbindTarget : Option Identity
  unbinding : List (Identity × String)
  asked : List CodeRequest
  sent : List SentCode
  deriving DecidableEq, Repr

/-- The page as it is mounted. -/
def mounted : Page := ⟨[], false, .blank, none, none, [], none, none, [], [], []⟩

/-- What user-service takes an unbinding with: a code for this purpose that was sent to what is
unbound, or for an account none.  `address` is where an identity's codes go to. -/
def Confirmed (address : Identity → String) (sent : List SentCode) (i : Identity)
    (code : String) : Prop :=
  (i.provider = some .email → ⟨.verifyEmail, address i, code⟩ ∈ sent) ∧
    (i.provider = some .phone → ⟨.verifyPhone, address i, code⟩ ∈ sent)

/-- What happens on the page. -/
inductive Event
  | listed (identities : List Identity)
  | openBind
  | closeBind
  | fill (form : BindForm)
  | getLink
  | linkAnswered (provider : IdentityProvider) (resp : OAuthURL)
  | linkFailed
  | bind
  | bound
  | bindFailed
  | openUnbind (i : Identity)
  | closeUnbind
  | unbind (code : String)
  | unbound (i : Identity) (code : String)
  | unbindFailed
  | askCode (req : CodeRequest)
  | codeSent (code : String)
  | codeRefused
  deriving DecidableEq, Repr

/-- The dialog drops its link. -/
def Page.clearLink (p : Page) : Page := { p with oauthState := none, oauthUrl := none }

/-- A step of the page.  Whether the binding dialog keeps what was filled in when it is closed
makes no difference: it can be filled in again. -/
inductive Step (address : Identity → String) : Page → Event → Page → Prop
  | listed {p : Page} (identities : List Identity) :
      Step address p (.listed identities) { p with identities := identities }
  | openBind {p : Page} : Step address p .openBind { p with bindOpen := true }
  | closeBind {p : Page} : p.bindOpen →
      Step address p .closeBind { p.clearLink with bindOpen := false }
  | fill {p : Page} (form : BindForm) : p.bindOpen →
      (∀ provider, form.provider = some provider → provider ∈ bindProviderOptions) →
      Step address p (.fill form) { p with form := form }
  | getLink {p : Page} {provider : IdentityProvider} : p.bindOpen →
      p.form.provider = some provider → provider ∈ oauthProviders →
      Step address p .getLink { p with links := provider :: p.links }
  | linkAnswered {p : Page} (before after : List IdentityProvider) {provider : IdentityProvider}
      (resp : OAuthURL) : p.links = before ++ provider :: after →
      Step address p (.linkAnswered provider resp)
        { p with
          links := before ++ after
          oauthState := some (resp.state.getD "")
          oauthUrl := some (resp.url.getD "") }
  | linkFailed {p : Page} (before after : List IdentityProvider) {provider : IdentityProvider} :
      p.links = before ++ provider :: after →
      Step address p .linkFailed { p with links := before ++ after }
  /-- The form is complete, and no other request of the dialog is in flight. -/
  | bind {p : Page} : p.bindOpen → p.binding = none → p.form.provider ≠ none →
      truthy p.form.code ≠ none →
      Step address p .bind { p with binding := some (p.form.request p.oauthState) }
  | bound {p : Page} {req : BindRequest} : p.binding = some req →
      Step address p .bound { p.clearLink with binding := none, bindOpen := false }
  | bindFailed {p : Page} {req : BindRequest} : p.binding = some req →
      Step address p .bindFailed { p with binding := none }
  | openUnbind {p : Page} {i : Identity} : i ∈ p.identities → i.unbindable →
      Step address p (.openUnbind i) { p with unbindTarget := some i }
  | closeUnbind {p : Page} : Step address p .closeUnbind { p with unbindTarget := none }
  /-- A dialog that is opened anew does not wait for what the last one has posted. -/
  | unbind {p : Page} {i : Identity} (code : String) : p.unbindTarget = some i →
      (i.codeUnbindable → code ≠ "") →
      Step address p (.unbind code)
        { p with unbinding := (i, i.unbindCode code) :: p.unbinding }
  | unbound {p : Page} (before after : List (Identity × String)) {i : Identity} {code : String} :
      p.unbinding = before ++ (i, code) :: after → Confirmed address p.sent i code →
      Step address p (.unbound i code)
        { p with unbinding := before ++ after, unbindTarget := none }
  | unbindFailed {p : Page} (before after : List (Identity × String)) {x : Identity × String} :
      p.unbinding = before ++ x :: after →
      Step address p .unbindFailed { p with unbinding := before ++ after }
  | askBindCode {p : Page} {req : CodeRequest} : p.bindOpen → p.form.codeRequest = some req →
      Step address p (.askCode req) { p with asked := req :: p.asked }
  | askUnbindCode {p : Page} {i : Identity} {req : CodeRequest} : p.unbindTarget = some i →
      i.codeRequest = some req →
      Step address p (.askCode req) { p with asked := req :: p.asked }
  /-- A code is sent to whom the request names, if it names anyone. -/
  | codeSent {p : Page} (before after : List CodeRequest) {req : CodeRequest} (code : String) :
      p.asked = before ++ req :: after → addressee req ≠ "" →
      Step address p (.codeSent code)
        { p with
          asked := before ++ after
          sent := ⟨req.purpose, addressee req, code⟩ :: p.sent }
  | codeRefused {p : Page} (before after : List CodeRequest) {req : CodeRequest} :
      p.asked = before ++ req :: after →
      Step address p .codeRefused { p with asked := before ++ after }

/-! ## The state of a link -/

/-- The states the answers to link requests carried, each with the provider of its link. -/
def issued : List (Page × Event) → List (IdentityProvider × String)
  | [] => []
  | (_, .linkAnswered provider resp) :: h => (provider, resp.state.getD "") :: issued h
  | _ :: h => issued h

/-- Every link comes with a state of its own. -/
def Fresh (h : List (Page × Event)) : Prop :=
  ((issued h).map Prod.snd).Nodup ∧ "" ∉ (issued h).map Prod.snd

/-- The link that came last, unless the dialog was closed or done since. -/
def linked : List (Page × Event) → Option (IdentityProvider × OAuthURL)
  | [] => none
  | (_, .linkAnswered provider resp) :: _ => some (provider, resp)
  | (_, .closeBind) :: _ => none
  | (_, .bound) :: _ => none
  | _ :: h => linked h

/-- The states of the accounts that were bound. -/
def taken : List (Page × Event) → List String
  | [] => []
  | (p, .bound) :: h =>
    match p.binding with
    | some (.oauth _ _ state) => state :: taken h
    | _ => taken h
  | _ :: h => taken h

/-- The request of an account: the form's provider, and the page's state. -/
theorem request_eq_oauth {f : BindForm} {oauthState : Option String}
    {provider : IdentityProvider} {code : Option String} {state : String}
    (h : f.request oauthState = .oauth provider code state) :
    f.provider = some provider ∧ state = oauthState.getD "" := by
  unfold BindForm.request at h
  split at h
  · cases h
  · cases h
  · rename_i hprovider
    split at h
    · cases h
      exact ⟨hprovider, rfl⟩
    · cases h
  · cases h

section Links
variable {address : Identity → String} {h : List (Page × Event)} {p : Page}

/-- The page's link is the one that came last. -/
structure LinkHeld (h : List (Page × Event)) (p : Page) : Prop where
  state : p.oauthState = (linked h).map fun x => x.2.state.getD ""
  url : p.oauthUrl = (linked h).map fun x => x.2.url.getD ""
  issued : ∀ x, linked h = some x → (x.1, x.2.state.getD "") ∈ issued h

theorem linkHeld_of_run (hr : Run (Step address) mounted h p) : LinkHeld h p := by
  refine hr.always ⟨rfl, rfl, by simp [linked]⟩ ?_
  rintro h p l q - hheld hs
  cases hs with
  | linkAnswered before after resp hlinks =>
    refine ⟨rfl, rfl, fun x hx => ?_⟩
    obtain rfl := Option.some.inj hx
    exact List.mem_cons_self
  | closeBind => exact ⟨rfl, rfl, by simp [linked]⟩
  | bound => exact ⟨rfl, rfl, by simp [linked]⟩
  | _ => exact ⟨hheld.state, hheld.url, hheld.issued⟩

/-- Where the states of a run are: those that were bound are not in use. -/
structure Unused (h : List (Page × Event)) (p : Page) : Prop where
  issued : ∀ s ∈ taken h, s ≠ "" → s ∈ (issued h).map Prod.snd
  current : ∀ s, p.oauthState = some s → s ≠ "" → s ∉ taken h
  posted : ∀ provider code s, p.binding = some (.oauth provider code s) → s ≠ "" →
    s ∉ taken h ∧ s ∈ (IdentityPage.issued h).map Prod.snd
  once : ∀ s, s ≠ "" → (taken h).count s ≤ 1

theorem Fresh.of_cons {x : Page × Event} (hfresh : Fresh (x :: h)) : Fresh h := by
  obtain ⟨v, l⟩ := x
  cases l with
  | linkAnswered provider resp =>
    obtain ⟨hnodup, hempty⟩ := hfresh
    exact ⟨(List.nodup_cons.mp hnodup).2, fun hmem => hempty (List.mem_cons_of_mem _ hmem)⟩
  | _ => exact hfresh

theorem unused_of_run (hr : Run (Step address) mounted h p) : Fresh h → Unused h p := by
  refine hr.always (P := fun h p => Fresh h → Unused h p) ?_ ?_
  · exact fun _ => ⟨by simp [taken], by simp [taken], by simp [mounted], by simp [taken]⟩
  rintro h p l q hr ih hs hfresh
  have hu := ih hfresh.of_cons
  cases hs with
  | @linkAnswered before after provider resp hlinks =>
    -- the new state is none of those issued before
    have hnew : resp.state.getD "" ∉ (issued h).map Prod.snd := (List.nodup_cons.mp hfresh.1).1
    refine ⟨fun s hs hne => List.mem_cons_of_mem _ (hu.issued s hs hne), fun s hs hne hmem => ?_,
      fun provider code s hpost hne => ?_, hu.once⟩
    · obtain rfl := Option.some.inj hs
      exact hnew (hu.issued _ hmem hne)
    · obtain ⟨hnot, hmem⟩ := hu.posted provider code s hpost hne
      exact ⟨hnot, List.mem_cons_of_mem _ hmem⟩
  | closeBind => exact ⟨hu.issued, by simp [Page.clearLink], hu.posted, hu.once⟩
  | bind hopen hidle hprovider hcode =>
    refine ⟨hu.issued, hu.current, fun provider code s hpost hne => ?_, hu.once⟩
    obtain ⟨-, rfl⟩ := request_eq_oauth (Option.some.inj hpost)
    obtain ⟨s, hs⟩ : ∃ s, p.oauthState = some s := by
      cases hstate : p.oauthState with
      | none => exact absurd (by rw [hstate]; rfl) hne
      | some s => exact ⟨s, rfl⟩
    rw [hs, Option.getD_some] at hne ⊢
    refine ⟨hu.current s hs hne, ?_⟩
    have hheld := linkHeld_of_run hr
    rw [hheld.state, Option.map_eq_some_iff] at hs
    obtain ⟨x, hx, rfl⟩ := hs
    exact List.mem_map_of_mem (hheld.issued x hx)
  | @bound req hbinding =>
    refine ⟨?_, by simp [Page.clearLink], by simp, ?_⟩
    · intro s hs hne
      cases req with
      | oauth provider code state =>
        simp only [taken, hbinding, List.mem_cons] at hs
        rcases hs with rfl | hs
        · exact (hu.posted provider code _ hbinding hne).2
        · exact hu.issued s hs hne
      | credential =>
        simp only [taken, hbinding] at hs
        exact hu.issued s hs hne
    · intro s hne
      cases req with
      | oauth provider code state =>
        simp only [taken, hbinding, List.count_cons]
        by_cases heq : state = s
        · obtain rfl := heq
          rw [List.count_eq_zero_of_not_mem (hu.posted provider code _ hbinding hne).1]
          simp
        · simpa [heq] using hu.once s hne
      | credential =>
        simp only [taken, hbinding]
        exact hu.once s hne
  | bindFailed => exact ⟨hu.issued, hu.current, by simp, hu.once⟩
  | _ => exact ⟨hu.issued, hu.current, hu.posted, hu.once⟩

/-- What a page does with the states of its links. -/
structure StatesMatched (h : List (Page × Event)) (p : Page) : Prop where
  /-- The state that is posted and the address on show are those of the link that came last. -/
  state : p.oauthState = (linked h).map fun x => x.2.state.getD ""
  url : p.oauthUrl = (linked h).map fun x => x.2.url.getD ""
  matched : ∀ provider code state, p.form.request p.oauthState = .oauth provider code state →
    ((provider, state) ∈ issued h ↔ (linked h).map Prod.fst = some provider)
  once : ∀ state, state ≠ "" → (taken h).count state ≤ 1

/-- **The states that are posted**, in every run in which each link has a state of its own: the
state posted with an account was issued for its provider iff the link that came last, since the
dialog was closed or done, is that provider's; and no state is taken twice. -/
theorem states_matched (hr : Run (Step address) mounted h p) (hfresh : Fresh h) :
    StatesMatched h p := by
  have hheld := linkHeld_of_run hr
  refine ⟨hheld.state, hheld.url, fun provider code state hpost => ?_,
    (unused_of_run hr hfresh).once⟩
  obtain ⟨-, rfl⟩ := request_eq_oauth hpost
  rw [hheld.state]
  cases hlinked : linked h with
  | none =>
    have hempty : (provider, "") ∉ issued h := fun hmem => hfresh.2 (List.mem_map_of_mem hmem)
    exact iff_of_false hempty (by simp)
  | some x =>
    have hmem := hheld.issued x hlinked
    refine ⟨fun hissued => ?_, fun heq => ?_⟩
    -- two answers with one state are one answer
    · have hinj := List.inj_on_of_nodup_map hfresh.1 hissued hmem rfl
      exact congrArg some (Prod.mk.inj hinj).1.symm
    · obtain rfl : x.1 = provider := Option.some.inj heq
      exact hmem

/-- A link is asked for and comes, and then another provider is chosen. -/
theorem states_matched_switched : ∃ (h : List (Page × Event)) (p : Page),
    Run (Step fun _ => "") mounted h p ∧ Fresh h ∧ StatesMatched h p ∧
      p.oauthUrl = some "https://a" ∧
      p.form.request p.oauthState = .oauth .google (some "c") "s" ∧
      (IdentityProvider.google, "s") ∉ issued h := by
  let github : BindForm := ⟨some .github, none, none, none, none⟩
  let google : BindForm := ⟨some .google, none, none, none, some "c"⟩
  have hopened : Run (Step fun _ => "") mounted _ _ := Run.start.next .openBind
  have hgithub := hopened.next (.fill github rfl (by decide))
  have hasked := hgithub.next (.getLink rfl rfl (by decide))
  have hcame := hasked.next (.linkAnswered [] [] ⟨some "https://a", some "s"⟩ rfl)
  have hgoogle := hcame.next (.fill google rfl (by decide))
  refine ⟨_, _, hgoogle, ?fresh, states_matched hgoogle ?fresh, rfl, rfl, by decide⟩
  exact ⟨List.nodup_singleton "s", by decide⟩

end Links

/-! ## What can be unbound -/

/-- The code for a number is asked for without a dial code, so that the request names no one. -/
theorem addressee_smsCode (purpose : VerificationPurpose) (phone : String) :
    addressee (smsCode purpose none phone) = "" := by
  have hdial : ¬ Phone.Dialled "" := by
    rw [Phone.dialled_iff]
    decide
  exact Phone.composeE164_of_not_dialled hdial phone

section Unbinding
variable {address : Identity → String} {h : List (Page × Event)} {p : Page}

/-- A request that either dialog can make. -/
inductive Askable : CodeRequest → Prop
  | bind {req : CodeRequest} : req.purpose = .bind → Askable req
  | email (uid : String) : Askable (mailCode .verifyEmail uid)
  | phone (uid : String) : Askable (smsCode .verifyPhone none uid)

theorem askable_bind {f : BindForm} {req : CodeRequest} (h : f.codeRequest = some req) :
    Askable req := by
  unfold BindForm.codeRequest at h
  split at h
  · exact .bind (by rw [← Option.some.inj h]; rfl)
  · exact .bind (by rw [← Option.some.inj h]; rfl)
  · cases h

theorem askable_unbind {i : Identity} {req : CodeRequest} (h : i.codeRequest = some req) :
    Askable req := by
  unfold Identity.codeRequest at h
  split at h
  · rw [← Option.some.inj h]
    exact .email _
  · rw [← Option.some.inj h]
    exact .phone _
  · cases h

/-- A code the page has got sent: to bind with, or to the owner of an address. -/
def Unbinds (c : SentCode) : Prop :=
  c.purpose = .bind ∨ c.purpose = .verifyEmail ∧ c.address ≠ ""

theorem Askable.unbinds {req : CodeRequest} (h : Askable req) (hnamed : addressee req ≠ "")
    (code : String) : Unbinds ⟨req.purpose, addressee req, code⟩ := by
  cases h with
  | bind hpurpose => exact Or.inl hpurpose
  | email uid => exact Or.inr ⟨rfl, hnamed⟩
  | phone uid => exact absurd (addressee_smsCode _ uid) hnamed

/-- What is being done on the page: only what has a live button is unbound, and the codes are
those of the two dialogs. -/
structure Doing (p : Page) : Prop where
  target : ∀ i, p.unbindTarget = some i → i.unbindable
  unbinding : ∀ x ∈ p.unbinding, x.1.unbindable
  asked : ∀ req ∈ p.asked, Askable req
  sent : ∀ c ∈ p.sent, Unbinds c

theorem doing_of_run (hr : Run (Step address) mounted h p) : Doing p := by
  have hmid {T : Type} {P : T → Prop} {whole before after : List T} {x : T}
      (hwhole : ∀ y ∈ whole, P y) (heq : whole = before ++ x :: after) :
      P x ∧ ∀ y ∈ before ++ after, P y := by
    obtain rfl := heq
    refine ⟨hwhole x (by simp), fun y hy => hwhole y ?_⟩
    rcases List.mem_append.mp hy with hy | hy
    · exact List.mem_append_left _ hy
    · exact List.mem_append_right _ (List.mem_cons_of_mem _ hy)
  refine hr.invariant ⟨by simp [mounted], by simp [mounted], by simp [mounted],
    by simp [mounted]⟩ ?_
  rintro p l q hd hs
  cases hs with
  | openUnbind hmem hlive =>
    refine ⟨fun i hi => ?_, hd.unbinding, hd.asked, hd.sent⟩
    obtain rfl := Option.some.inj hi
    exact hlive
  | closeUnbind => exact ⟨by simp, hd.unbinding, hd.asked, hd.sent⟩
  | @unbind i code htarget hcode =>
    refine ⟨hd.target, fun x hx => ?_, hd.asked, hd.sent⟩
    rcases List.mem_cons.mp hx with rfl | hx
    · exact hd.target i htarget
    · exact hd.unbinding x hx
  | unbound before after hwhole =>
    exact ⟨by simp, (hmid hd.unbinding hwhole).2, hd.asked, hd.sent⟩
  | unbindFailed before after hwhole =>
    exact ⟨hd.target, (hmid hd.unbinding hwhole).2, hd.asked, hd.sent⟩
  | askBindCode hopen hreq =>
    exact ⟨hd.target, hd.unbinding,
      List.forall_mem_cons.mpr ⟨askable_bind hreq, hd.asked⟩, hd.sent⟩
  | askUnbindCode htarget hreq =>
    exact ⟨hd.target, hd.unbinding,
      List.forall_mem_cons.mpr ⟨askable_unbind hreq, hd.asked⟩, hd.sent⟩
  | codeSent before after code hwhole hnamed =>
    obtain ⟨hreq, hrest⟩ := hmid hd.asked hwhole
    exact ⟨hd.target, hd.unbinding, hrest,
      List.forall_mem_cons.mpr ⟨hreq.unbinds hnamed code, hd.sent⟩⟩
  | codeRefused before after hwhole =>
    exact ⟨hd.target, hd.unbinding, (hmid hd.asked hwhole).2, hd.sent⟩
  | _ => exact ⟨hd.target, hd.unbinding, hd.asked, hd.sent⟩

/-- What was unbound was an account, or had a code sent to its address. -/
theorem unbound_of_run (hr : Run (Step address) mounted h p) {v : Page} {i : Identity}
    {code : String} (hmem : (v, .unbound i code) ∈ h) :
    i.oauthUnbindable ∨ i.provider = some .email ∧ address i ≠ "" := by
  obtain ⟨h', w, hv, hs⟩ := hr.exists_step hmem
  have hd := doing_of_run hv
  cases hs with
  | unbound before after hwhole hconfirmed =>
    have hlive : i.unbindable := hd.unbinding (i, code) (by simp [hwhole])
    unfold Identity.unbindable Identity.codeUnbindable at hlive
    simp only [Bool.or_eq_true, decide_eq_true_eq] at hlive
    rcases hlive with (hemail | hphone) | hoauth
    · refine Or.inr ⟨hemail, ?_⟩
      rcases hd.sent _ (hconfirmed.1 hemail) with hbind | ⟨-, hne⟩
      · cases hbind
      · exact hne
    · -- no code for a number was sent
      rcases hd.sent _ (hconfirmed.2 hphone) with hbind | ⟨hverify, -⟩
      · cases hbind
      · cases hverify
    · exact Or.inl hoauth

/-- The steps that unbind an account. -/
theorem unbound_oauth (address : Identity → String) {i : Identity} (hoauth : i.oauthUnbindable) :
    ∃ h p v code, Run (Step address) mounted h p ∧ (v, .unbound i code) ∈ h := by
  have hlive : i.unbindable := by simp [Identity.unbindable, hoauth]
  have hneeds : i.codeUnbindable = false := by
    obtain ⟨id, provider, providerUid⟩ := i
    cases provider with
    | none => rfl
    | some provider => cases provider <;> first | rfl | cases hoauth
  have hconfirmed : Confirmed address [] i (i.unbindCode "") := by
    simp only [Identity.codeUnbindable, Bool.or_eq_false_iff, decide_eq_false_iff_not] at hneeds
    exact ⟨fun hemail => absurd hemail hneeds.1, fun hphone => absurd hphone hneeds.2⟩
  have hlisted : Run (Step address) mounted _ _ := Run.start.next (.listed [i])
  have hopened := hlisted.next (.openUnbind List.mem_cons_self hlive)
  have hposted := hopened.next (.unbind "" rfl (by simp [hneeds]))
  exact ⟨_, _, _, _, hposted.next (.unbound [] [] rfl hconfirmed), List.mem_cons_self⟩

/-- The steps that unbind an address: its code is asked for and sent first. -/
theorem unbound_email {address : Identity → String} {i : Identity}
    (hemail : i.provider = some .email) (haddress : address i = i.providerUid.getD "")
    (hne : address i ≠ "") :
    ∃ h p v code, Run (Step address) mounted h p ∧ (v, .unbound i code) ∈ h := by
  have hneeds : i.codeUnbindable := by simp [Identity.codeUnbindable, hemail]
  have hlive : i.unbindable := by simp [Identity.unbindable, hneeds]
  have hreq : i.codeRequest = some (mailCode .verifyEmail (i.providerUid.getD "")) := by
    unfold Identity.codeRequest
    rw [hemail]
  have hnamed : addressee (mailCode .verifyEmail (i.providerUid.getD "")) = address i :=
    haddress.symm
  have hconfirmed : Confirmed address [⟨.verifyEmail, address i, "123456"⟩] i
      (i.unbindCode "123456") := by
    rw [Identity.unbindCode, if_pos hneeds]
    exact ⟨fun _ => List.mem_cons_self, fun hphone => by simp [hemail] at hphone⟩
  have hlisted : Run (Step address) mounted _ _ := Run.start.next (.listed [i])
  have hopened := hlisted.next (.openUnbind List.mem_cons_self hlive)
  have hasked := hopened.next (.askUnbindCode rfl hreq)
  have hsent := hasked.next (.codeSent [] [] "123456" rfl (hnamed ▸ hne))
  have hposted := hsent.next (.unbind "123456" rfl fun _ => by decide)
  have hdone := hposted.next (.unbound [] [] rfl (hnamed ▸ hconfirmed))
  exact ⟨_, _, _, _, hdone, List.mem_cons_self⟩

/-- **What can be unbound.**  Over a user-service that takes an e-mail address or a number off
with a code sent to it, some run of the page unbinds an identity iff that is an account, or an
address: the page can never unbind a number. -/
theorem unbindable_iff (i : Identity)
    (haddress : i.provider = some .email → address i = i.providerUid.getD "") :
    (∃ h p v code, Run (Step address) mounted h p ∧ (v, .unbound i code) ∈ h) ↔
      i.oauthUnbindable ∨ i.provider = some .email ∧ i.providerUid.getD "" ≠ "" := by
  constructor
  · rintro ⟨h, p, v, code, hr, hmem⟩
    refine (unbound_of_run hr hmem).imp_right fun ⟨hemail, hne⟩ => ⟨hemail, ?_⟩
    rwa [haddress hemail] at hne
  · rintro (hoauth | ⟨hemail, hne⟩)
    · exact unbound_oauth address hoauth
    · exact unbound_email hemail (haddress hemail) (by rwa [haddress hemail])

/-- A number. -/
theorem unbindable_iff_phone :
    (∃ h p v code, Run (Step fun _ => "+86138") mounted h p ∧
      (v, .unbound ⟨some "7", some .phone, some "CN|138"⟩ code) ∈ h) ↔
      (⟨some "7", some .phone, some "CN|138"⟩ : Identity).oauthUnbindable ∨
        some IdentityProvider.phone = some .email ∧ (some "CN|138").getD "" ≠ "" :=
  unbindable_iff ⟨some "7", some .phone, some "CN|138"⟩ (by decide)

end Unbinding

end Testkit.IdentityPage
