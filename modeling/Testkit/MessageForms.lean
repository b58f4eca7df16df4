import Testkit.LabelledRuns
import Testkit.RegionGroups

/-! # The dialogs of the message platform

The dialogs of `Message/Policies`, `Templates` and `Accounts` show some of their fields for one
kind of resource only.  A field that is not on show keeps what it holds, but is not among the
values the dialog hands over (`values`).

`sent_wellFormed_iff` says when what a dialog sends hangs together: a policy's scene may have
been picked while those of the other channel were on offer, and of an SMTP account no dialog asks
the user name.  `edits_saved_iff` says when an edit saves what is on show: of a policy the update
takes no application, channel or scene, and every template is sent as enabled.
-/
namespace Testkit.MessageForms
open LabelledRuns

/-- `rules={[{ required: true }]}` of a text or a selection. -/
def Required (value : Option String) : Prop := ∃ text, value = some text ∧ text ≠ ""

/-! ## Policies -/

/-- The values of the `channel` field, `EMAIL` and `SMS`. -/
inductive Channel
  | email
  | sms
  deriving DecidableEq, Repr

/-- `API.v1TemplateChannel`. -/
inductive TemplateChannel
  | unspecified
  | email
  | sms
  deriving DecidableEq, Repr

/-- `API.v1RouteRule`. -/
structure RouteRule where
  accountId : Option String
  signatureId : Option String
  weight : Option Nat
  deriving DecidableEq, Repr

/-- `API.v1PolicyInfo`, as the dialog reads it. -/
structure PolicyInfo where
  id : String
  appId : String
  channel : TemplateChannel
  emailScene : String
  smsScene : String
  templateId : String
  routes : List RouteRule
  intlRoutes : List RouteRule
  deriving DecidableEq, Repr

/-- The values of `EMAIL_SCENE_OPTIONS`. -/
def emailScenes : List String :=
  ["EMAIL_SCENE_LOGIN_CODE", "EMAIL_SCENE_FORGOT_PASSWORD", "EMAIL_SCENE_REGISTER",
    "EMAIL_SCENE_CHANGE_PASSWORD", "EMAIL_SCENE_BIND_ACCOUNT", "EMAIL_SCENE_NOTIFICATION",
    "EMAIL_SCENE_VERIFY_EMAIL", "EMAIL_SCENE_TEST"]

/-- The values of `SMS_SCENE_OPTIONS`. -/
def smsScenes : List String :=
  ["SMS_SCENE_LOGIN_CODE", "SMS_SCENE_FORGOT_PASSWORD", "SMS_SCENE_REGISTER",
    "SMS_SCENE_CHANGE_PASSWORD", "SMS_SCENE_BIND_ACCOUNT", "SMS_SCENE_VERIFY_PHONE",
    "SMS_SCENE_TEST"]

/-- The scenes of a channel. -/
def Channel.scenes : Channel → List String
  | .email => emailScenes
  | .sms => smsScenes

/-- What the fields of `PolicyForm` hold. -/
structure PolicyForm where
  appId : Option String
  channel : Option Channel
  scene : Option String
  templateId : Option String
  routes : Option (List RouteRule)
  intlRoutes : Option (List RouteRule)
  deriving DecidableEq, Repr

namespace PolicyForm

def empty : PolicyForm := ⟨none, none, none, none, none, none⟩

/-- The channel whose scenes are offered; without one it is e-mail. -/
def offered (f : PolicyForm) : Channel := if f.channel = some .sms then .sms else .email

/-- The values the dialog hands over: the international chain is on show for SMS alone. -/
def values (f : PolicyForm) : PolicyForm :=
  { f with intlRoutes := if f.channel = some .sms then f.intlRoutes else none }

/-- The rules of the form. -/
structure Valid (f : PolicyForm) : Prop where
  appId : Required f.appId
  channel : f.channel ≠ none
  scene : Required f.scene
  templateId : Required f.templateId

end PolicyForm

/-- The `scene` of a new policy. -/
inductive PolicyScene
  | smsScene (scene : Option String)
  | emailScene (scene : Option String)
  deriving DecidableEq, Repr

/-- What the page asks of message-service. -/
inductive PolicyRequest
  | create (appId : Option String) (scene : PolicyScene) (templateId : Option String)
    (routes intlRoutes : List RouteRule)
  | update (id : String) (templateId : Option String) (routes intlRoutes : List RouteRule)
  deriving DecidableEq, Repr

/-- `submit`. -/
def submit (vals : PolicyForm) (id : Option String) : PolicyRequest :=
  let scene : PolicyScene :=
    if vals.channel = some .sms then .smsScene vals.scene else .emailScene vals.scene
  match truthy id with
  | some id => .update id vals.templateId (vals.routes.getD []) (vals.intlRoutes.getD [])
  | none => .create vals.appId scene vals.templateId (vals.routes.getD [])
      (vals.intlRoutes.getD [])

/-- The `initialValues` of the dialog that edits a policy. -/
def PolicyInfo.initialValues (editing : PolicyInfo) : PolicyForm where
  appId := some editing.appId
  channel := some (if editing.channel = .sms then .sms else .email)
  scene := some (if editing.channel = .sms then editing.smsScene else editing.emailScene)
  templateId := some editing.templateId
  routes := some editing.routes
  intlRoutes := some editing.intlRoutes

/-- The two dialogs of the page. -/
inductive Dialog
  | create
  | edit (editing : PolicyInfo)
  deriving DecidableEq, Repr

/-- What the form of a dialog starts with. -/
def Dialog.initial : Dialog → PolicyForm
  | .create => .empty
  | .edit editing => editing.initialValues

/-- What happens to a form; a selection may be cleared. -/
inductive Event
  | appId (value : Option String)
  | channel (value : Option Channel)
  | scene (value : Option String)
  | templateId (value : Option String)
  | routes (value : List RouteRule)
  | intlRoutes (value : List RouteRule)
  /-- The form is set back. -/
  | reset
  deriving DecidableEq, Repr

/-- A step of a form: only what is on show is edited, and a scene is one of those offered. -/
inductive Step (d : Dialog) : PolicyForm → Event → PolicyForm → Prop
  | appId {f : PolicyForm} (value : Option String) :
      Step d f (.appId value) { f with appId := value }
  | channel {f : PolicyForm} (value : Option Channel) :
      Step d f (.channel value) { f with channel := value }
  | scene {f : PolicyForm} {value : Option String} : (∀ s, value = some s → s ∈ f.offered.scenes) →
      Step d f (.scene value) { f with scene := value }
  | templateId {f : PolicyForm} (value : Option String) :
      Step d f (.templateId value) { f with templateId := value }
  | routes {f : PolicyForm} (value : List RouteRule) :
      Step d f (.routes value) { f with routes := some value }
  | intlRoutes {f : PolicyForm} (value : List RouteRule) : f.channel = some .sms →
      Step d f (.intlRoutes value) { f with intlRoutes := some value }
  | reset {f : PolicyForm} : Step d f .reset d.initial

/-- The channel whose scenes were offered when the scene was picked last. -/
def pickedFor : List (PolicyForm × Event) → Option Channel
  | [] => none
  | (f, .scene _) :: _ => some f.offered
  | (_, .reset) :: _ => none
  | (_, .appId _) :: h | (_, .channel _) :: h | (_, .templateId _) :: h | (_, .routes _) :: h
  | (_, .intlRoutes _) :: h => pickedFor h

/-- The scene is one of those of the channel it is sent for. -/
def PolicyScene.Fits : PolicyScene → Prop
  | .smsScene scene => ∃ s, scene = some s ∧ s ∈ smsScenes
  | .emailScene scene => ∃ s, scene = some s ∧ s ∈ emailScenes

/-- **A request for a policy hangs together.** -/
def PolicyRequest.WellFormed : PolicyRequest → Prop
  | .create appId scene templateId _ intlRoutes => Required appId ∧ scene.Fits ∧
      Required templateId ∧ ((∃ s, scene = .emailScene s) → intlRoutes = [])
  | .update id templateId _ _ => id ≠ "" ∧ Required templateId

section Policies
variable {d : Dialog} {h : List (PolicyForm × Event)} {f : PolicyForm} {s : String}

/-- No scene is one of both channels. -/
theorem mem_scenes_unique {c c' : Channel} (hc : s ∈ c.scenes) (hc' : s ∈ c'.scenes) : c = c' := by
  have hdisjoint : ∀ s ∈ emailScenes, s ∉ smsScenes := by decide
  cases c <;> cases c'
  · rfl
  · exact absurd hc' (hdisjoint s hc)
  · exact absurd hc (hdisjoint s hc')
  · rfl

/-- The scene that is held was picked among those offered then, or is the initial one. -/
def SceneHeld (d : Dialog) (h : List (PolicyForm × Event)) (f : PolicyForm) : Prop :=
  match pickedFor h with
  | some c => ∀ s, f.scene = some s → s ∈ c.scenes
  | none => f.scene = d.initial.scene

theorem sceneHeld_of_run (hr : Run (Step d) d.initial h f) : SceneHeld d h f := by
  refine hr.always rfl ?_
  rintro h f l g - hheld hs
  cases hs with
  | scene hoffered => exact hoffered
  | reset => exact rfl
  | appId | channel | templateId | routes | intlRoutes => exact hheld

/-- What the dialog for a new policy sends. -/
theorem submit_create (vals : PolicyForm) : submit vals none = .create vals.appId
    (if vals.channel = some .sms then .smsScene vals.scene else .emailScene vals.scene)
    vals.templateId (vals.routes.getD []) (vals.intlRoutes.getD []) := rfl

theorem submit_update {id : String} (hid : id ≠ "") (vals : PolicyForm) :
    submit vals (some id) =
      .update id vals.templateId (vals.routes.getD []) (vals.intlRoutes.getD []) := by
  have htruthy : truthy (some id) = some id := by simp [truthy, Option.filter, hid]
  rw [submit, htruthy]

/-- **A new policy hangs together** iff its scene was picked while those of the channel it is
sent for were on offer. -/
theorem policy_wellFormed_iff (hr : Run (Step .create) Dialog.create.initial h f)
    (hv : f.Valid) : (submit f.values none).WellFormed ↔ pickedFor h = f.channel := by
  obtain ⟨s, hs, -⟩ := hv.scene
  obtain ⟨c, hc⟩ := Option.ne_none_iff_exists'.mp hv.channel
  have hheld := sceneHeld_of_run hr
  have hfits : (submit f.values none).WellFormed ↔ s ∈ c.scenes := by
    rw [submit_create]
    have hscene : f.values.scene = some s := hs
    have hchannel : f.values.channel = some c := hc
    rw [hscene, hchannel]
    constructor
    · rintro ⟨-, hfits, -, -⟩
      cases c <;> simpa [PolicyScene.Fits, Channel.scenes] using hfits
    · intro hin
      refine ⟨hv.appId, ?_, hv.templateId, ?_⟩
      · cases c <;> simpa [PolicyScene.Fits, Channel.scenes] using hin
      · cases c <;> simp [PolicyForm.values, hc]
  rw [hfits, hc]
  unfold SceneHeld at hheld
  cases hpicked : pickedFor h with
  | none =>
    rw [hpicked] at hheld
    exact absurd (hs.symm.trans hheld) (by simp [Dialog.initial, PolicyForm.empty])
  | some c' =>
    rw [hpicked] at hheld
    -- the scene picked is one of `c'` alone
    rw [Option.some.injEq]
    constructor
    · exact fun hin => mem_scenes_unique (hheld s hs) hin
    · rintro rfl
      exact hheld s hs

/-! ### Edits of a policy -/

/-- `UpdatePolicy` of message-service, as the API documents its request: it replaces the template
and the chains, of which an SMS policy has two; application, channel and scene are immutable.
`none` is a refusal. -/
structure UpdatePolicy where
  update : PolicyInfo → Option String → List RouteRule → List RouteRule → Option PolicyInfo
  immutable : ∀ {row templateId routes intlRoutes row'},
    update row templateId routes intlRoutes = some row' → row'.id = row.id ∧
      row'.appId = row.appId ∧ row'.channel = row.channel ∧ row'.emailScene = row.emailScene ∧
      row'.smsScene = row.smsScene
  replaced : ∀ {row templateId routes intlRoutes row'},
    update row templateId routes intlRoutes = some row' →
      row'.templateId = templateId.getD "" ∧ row'.routes = routes
  intl : ∀ {row templateId routes intlRoutes row'},
    update row templateId routes intlRoutes = some row' → row.channel = .sms →
      row'.intlRoutes = intlRoutes

/-- What message-service makes of a request about a policy it has. -/
def UpdatePolicy.serve (u : UpdatePolicy) (row : PolicyInfo) : PolicyRequest → Option PolicyInfo
  | .update id templateId routes intlRoutes =>
    if id = row.id then u.update row templateId routes intlRoutes else none
  | .create .. => none

/-- What a form shows: of the values, a chain without an entry is empty. -/
def PolicyForm.onShow (f : PolicyForm) : PolicyForm :=
  { f.values with
    routes := some (f.routes.getD [])
    intlRoutes := if f.channel = some .sms then some (f.intlRoutes.getD []) else none }

/-- The application, the channel and the scene on show are those of the policy. -/
def PolicyForm.Placed (f : PolicyForm) (row : PolicyInfo) : Prop :=
  f.appId = row.initialValues.appId ∧ f.channel = row.initialValues.channel ∧
    f.scene = row.initialValues.scene

/-- The events that move a policy. -/
def Event.Moves : Event → Prop
  | .appId _ | .channel _ | .scene _ => True
  | .templateId _ | .routes _ | .intlRoutes _ | .reset => False

/-- What is not moved is still placed as it was. -/
theorem placed_of_run {row : PolicyInfo} (hr : Run (Step (.edit row)) (Dialog.edit row).initial h f)
    (hleft : ∀ x ∈ h, ¬ x.2.Moves) : f.Placed row := by
  induction hr with
  | start => exact ⟨rfl, rfl, rfl⟩
  | next _ hs ih =>
    obtain ⟨hlast, hbefore⟩ := List.forall_mem_cons.mp hleft
    cases hs with
    | appId | channel | scene => exact absurd trivial hlast
    | templateId | routes | intlRoutes => exact ih hbefore
    | reset => exact ⟨rfl, rfl, rfl⟩

section Saved
variable {u : UpdatePolicy} {row row' : PolicyInfo} (hid : row.id ≠ "")
  (hsaved : u.serve row (submit f.values (some row.id)) = some row')
include hid hsaved

/-- The update that is made of a policy. -/
theorem update_of_serve : u.update row f.values.templateId (f.values.routes.getD [])
    (f.values.intlRoutes.getD []) = some row' := by
  rw [submit_update hid] at hsaved
  exact (if_pos rfl).symm.trans hsaved

/-- **An edit saves what is on show** iff application, channel and scene are the policy's. -/
theorem policy_saved_iff (hv : f.Valid) :
    row'.initialValues.onShow = f.onShow ↔ f.Placed row := by
  obtain ⟨t, ht, -⟩ := hv.templateId
  have hupdate := update_of_serve hid hsaved
  obtain ⟨-, happId, hchannelId, hemail, hsms⟩ := u.immutable hupdate
  obtain ⟨htemplate, hroutes⟩ := u.replaced hupdate
  have hplaced : row'.initialValues.appId = row.initialValues.appId ∧
      row'.initialValues.channel = row.initialValues.channel ∧
      row'.initialValues.scene = row.initialValues.scene := by
    simp only [PolicyInfo.initialValues, happId, hchannelId, hemail, hsms, and_self]
  constructor
  · intro h
    exact ⟨(congrArg PolicyForm.appId h).symm.trans hplaced.1,
      (congrArg PolicyForm.channel h).symm.trans hplaced.2.1,
      (congrArg PolicyForm.scene h).symm.trans hplaced.2.2⟩
  · rintro ⟨happ, hchannel, hscene⟩
    have hintl : f.channel = some .sms → row'.intlRoutes = f.intlRoutes.getD [] := by
      intro hc
      -- the channel on show is the policy's
      have hrow : row.channel = .sms := by
        by_contra hnot
        rw [hc, PolicyInfo.initialValues, if_neg hnot] at hchannel
        cases hchannel
      rw [u.intl hupdate hrow, PolicyForm.values, if_pos hc]
    obtain ⟨appId, channel, scene, templateId, routes, intlRoutes⟩ := f
    dsimp only at happ hchannel hscene ht hintl
    subst happ hchannel hscene ht
    unfold PolicyForm.onShow PolicyForm.values
    rw [hplaced.1, hplaced.2.1, hplaced.2.2]
    simp only [PolicyInfo.initialValues, htemplate, hroutes, PolicyForm.values, Option.getD_some]
    by_cases hsmsShown : row.channel = .sms
    · have hsame := hintl (by simp [PolicyInfo.initialValues, hsmsShown])
      simp [hsmsShown, hsame]
    · simp [hsmsShown]

/-- **The international chain of an SMS policy** is saved as it is on show, and is lost where
the channel on show is another. -/
theorem intlRoutes_saved_iff (hsms : row.channel = .sms) :
    row'.intlRoutes = f.intlRoutes.getD [] ↔
      f.channel = some .sms ∨ f.intlRoutes.getD [] = [] := by
  rw [u.intl (update_of_serve hid hsaved) hsms, PolicyForm.values]
  by_cases hc : f.channel = some .sms
  · simp only [hc, if_true, true_or]
  · simp only [hc, if_false, false_or, Option.getD_none]
    exact eq_comm

end Saved
end Policies

/-! ## Templates -/

/-- `API.v1TemplateKind`. -/
inductive TemplateKind
  | unspecified
  | emailRender
  | smsVendorCodes
  | smsContent
  deriving DecidableEq, Repr

/-- `API.v1TemplateParamSpec`. -/
structure TemplateParamSpec where
  name : Option String
  required : Option Bool
  description : Option String
  deriving DecidableEq, Repr

/-- `API.v1VendorTemplateCode`. -/
structure VendorTemplateCode where
  vendor : Option String
  templateCode : Option String
  deriving DecidableEq, Repr

/-- `API.v1EmailTemplateContent`. -/
structure EmailTemplateContent where
  subject : Option String
  textBody : Option String
  htmlBody : Option String
  deriving DecidableEq, Repr

/-- `API.v1SmsContentTemplate`. -/
structure SmsContentTemplate where
  content : Option String
  deriving DecidableEq, Repr

/-- `API.v1TemplateInfo`: the definition of a template. -/
structure TemplateInfo where
  name : Option String
  channel : TemplateChannel
  kind : Option TemplateKind
  params : List TemplateParamSpec
  disabled : Bool
  email : Option EmailTemplateContent
  vendorCodes : Option (List VendorTemplateCode)
  smsContent : Option SmsContentTemplate
  deriving DecidableEq, Repr

/-- What the fields of `TemplateForm` hold. -/
structure TemplateForm where
  kind : Option TemplateKind
  name : Option String
  subject : Option String
  textBody : Option String
  htmlBody : Option String
  codes : Option (List VendorTemplateCode)
  content : Option String
  params : Option (List TemplateParamSpec)
  deriving DecidableEq, Repr

namespace TemplateForm

def isEmail (f : TemplateForm) : Bool := f.kind = some .emailRender

def isVendorCodes (f : TemplateForm) : Bool := f.kind = some .smsVendorCodes

/-- The values the dialog hands over: without a kind no other field is on show. -/
def values (f : TemplateForm) : TemplateForm where
  kind := f.kind
  name := if f.kind.isSome then f.name else none
  subject := if f.isEmail then f.subject else none
  textBody := if f.isEmail then f.textBody else none
  htmlBody := if f.isEmail then f.htmlBody else none
  codes := if f.isVendorCodes then f.codes else none
  content := if f.kind.isSome && !f.isEmail && !f.isVendorCodes then f.content else none
  params := if f.kind.isSome then f.params else none

/-- The rules of the fields on show. -/
structure Valid (f : TemplateForm) : Prop where
  /-- `KIND_LABEL` lists the kinds that can be picked. -/
  kind : ∃ k, f.kind = some k ∧ k ≠ .unspecified
  name : Required f.name
  subject : f.isEmail → Required f.subject
  textBody : f.isEmail → Required f.textBody
  content : f.isEmail = false → f.isVendorCodes = false → Required f.content

end TemplateForm

/-- `buildTemplateBody`. -/
def buildTemplateBody (vals : TemplateForm) : TemplateInfo :=
  let tpl : TemplateInfo :=
    { name := vals.name
      channel := .sms
      kind := vals.kind
      params := vals.params.getD []
      disabled := false
      email := none
      vendorCodes := none
      smsContent := none }
  if vals.kind = some .emailRender then
    { tpl with
      channel := .email
      email := some ⟨vals.subject, vals.textBody, some (vals.htmlBody.getD "")⟩ }
  else if vals.kind = some .smsVendorCodes then
    { tpl with
      vendorCodes := some ((vals.codes.getD []).map fun c => ⟨c.vendor, c.templateCode⟩) }
  else { tpl with smsContent := some ⟨vals.content⟩ }

/-- The `initialValues` of the dialog that edits a template. -/
def TemplateInfo.initialValues (editing : TemplateInfo) : TemplateForm where
  kind := editing.kind
  name := editing.name
  subject := editing.email.bind EmailTemplateContent.subject
  textBody := editing.email.bind EmailTemplateContent.textBody
  htmlBody := editing.email.bind EmailTemplateContent.htmlBody
  content := editing.smsContent.bind SmsContentTemplate.content
  codes := editing.vendorCodes
  params := some editing.params

/-- **A template hangs together**: its channel is that of its kind, and it has the content of
its kind and no other. -/
def TemplateInfo.WellFormed (tpl : TemplateInfo) : Prop :=
  tpl.name ≠ none ∧
  match tpl.kind with
  | some .emailRender => tpl.channel = .email ∧
    (∃ subject textBody htmlBody,
      tpl.email = some ⟨some subject, some textBody, some htmlBody⟩) ∧
    tpl.vendorCodes = none ∧ tpl.smsContent = none
  | some .smsVendorCodes => tpl.channel = .sms ∧ tpl.email = none ∧ tpl.vendorCodes ≠ none ∧
    tpl.smsContent = none
  | some .smsContent => tpl.channel = .sms ∧ tpl.email = none ∧ tpl.vendorCodes = none ∧
    ∃ content, tpl.smsContent = some ⟨some content⟩
  | some .unspecified | none => False

/-- **A template that is sent hangs together**, and is enabled. -/
theorem template_wellFormed {f : TemplateForm} (hv : f.Valid) :
    (buildTemplateBody f.values).WellFormed ∧ (buildTemplateBody f.values).disabled = false := by
  obtain ⟨k, hk, hspecified⟩ := hv.kind
  obtain ⟨name, hname, -⟩ := hv.name
  cases k with
  | unspecified => exact absurd rfl hspecified
  | emailRender =>
    have hemail : f.isEmail := by simp [TemplateForm.isEmail, hk]
    obtain ⟨subject, hsubject, -⟩ := hv.subject hemail
    obtain ⟨textBody, htextBody, -⟩ := hv.textBody hemail
    simp [buildTemplateBody, TemplateInfo.WellFormed, TemplateForm.values, hk, hname, hemail,
      hsubject, htextBody]
  | smsVendorCodes =>
    simp [buildTemplateBody, TemplateInfo.WellFormed, TemplateForm.values, hk, hname]
  | smsContent =>
    have hemail : f.isEmail = false := by simp [TemplateForm.isEmail, hk]
    have hcodes : f.isVendorCodes = false := by simp [TemplateForm.isVendorCodes, hk]
    obtain ⟨content, hcontent, -⟩ := hv.content hemail hcodes
    simp [buildTemplateBody, TemplateInfo.WellFormed, TemplateForm.values, hk, hname, hemail,
      hcodes, hcontent]

/-- **A template that is saved as it was opened** is the same iff it was enabled. -/
theorem template_kept_iff {row : TemplateInfo} (hrow : row.WellFormed) :
    buildTemplateBody row.initialValues.values = row ↔ row.disabled = false := by
  obtain ⟨name, channel, kind, params, disabled, email, vendorCodes, smsContent⟩ := row
  obtain ⟨hname, hcontent⟩ := hrow
  have hsaved : buildTemplateBody (TemplateInfo.initialValues
      ⟨name, channel, kind, params, disabled, email, vendorCodes, smsContent⟩).values =
      ⟨name, channel, kind, params, false, email, vendorCodes, smsContent⟩ := by
    dsimp only at hname hcontent
    cases kind with
    | none => exact absurd hcontent id
    | some k =>
      cases k with
      | unspecified => exact absurd hcontent id
      | emailRender =>
        obtain ⟨rfl, ⟨subject, textBody, htmlBody, rfl⟩, rfl, rfl⟩ := hcontent
        rfl
      | smsVendorCodes =>
        obtain ⟨rfl, rfl, hcodes, rfl⟩ := hcontent
        obtain ⟨codes, rfl⟩ := Option.ne_none_iff_exists'.mp hcodes
        simp [buildTemplateBody, TemplateInfo.initialValues, TemplateForm.values,
          TemplateForm.isVendorCodes]
      | smsContent =>
        obtain ⟨rfl, rfl, rfl, content, rfl⟩ := hcontent
        rfl
  rw [hsaved]
  simp [eq_comm]

/-! ## Accounts -/

/-- The values of `CRED_KINDS`. -/
inductive CredKind
  | aliyunSms
  | tencentSms
  | volcengineSms
  | byteplusSms
  | huaweiSms
  | smtp
  deriving DecidableEq, Repr

/-- What the fields of `credForm` hold. -/
structure AccountForm where
  kind : Option CredKind
  accessKey : Option String
  accessSecret : Option String
  brand : Option String
  host : Option String
  port : Option Nat
  fromAddress : Option String
  smsAccount : Option String
  region : Option String
  deriving DecidableEq, Repr

/-- `API.v1ChannelAccountCredentials`. -/
inductive Credentials
  | aliyunSms (accessKeyId accessKeySecret : Option String) (regionId : String)
  | tencentSms (secretId secretKey smsSdkAppId : Option String) (region : String)
  | volcengineSms (accessKey secretKey smsAccount : Option String) (region : String)
  | byteplusSms (accessKey secretKey smsAccount : Option String) (region : String)
  | huaweiSms (appKey appSecret sign : Option String) (endpoint : String)
  | smtp (brand host : Option String) (port : Nat) (username password fromAddress : Option String)
  | none
  deriving DecidableEq, Repr

namespace AccountForm

def isSmtp (f : AccountForm) : Bool := f.kind = some .smtp

/-- The values the dialog hands over: without a kind no other field is on show. -/
def values (f : AccountForm) : AccountForm where
  kind := f.kind
  accessKey := if f.kind.isSome && !f.isSmtp then f.accessKey else none
  accessSecret := if f.kind.isSome then f.accessSecret else none
  brand := if f.isSmtp then f.brand else none
  host := if f.isSmtp then f.host else none
  port := if f.isSmtp then f.port else none
  fromAddress := if f.isSmtp then f.fromAddress else none
  smsAccount := if f.kind.isSome && !f.isSmtp then f.smsAccount else none
  region := if f.kind.isSome then f.region else none

/-- The rules of the fields on show. -/
structure Valid (f : AccountForm) : Prop where
  kind : f.kind ≠ none
  accessKey : f.isSmtp = false → Required f.accessKey
  accessSecret : Required f.accessSecret
  brand : f.isSmtp → Required f.brand
  host : f.isSmtp → Required f.host
  fromAddress : f.isSmtp → Required f.fromAddress
  smsAccount : f.isSmtp = false → f.kind ≠ some .aliyunSms → Required f.smsAccount

end AccountForm

/-- `buildCredentials`. -/
def buildCredentials (kind : Option CredKind) (v : AccountForm) : Credentials :=
  match kind with
  | some .aliyunSms => .aliyunSms v.accessKey v.accessSecret (v.region.getD "")
  | some .tencentSms => .tencentSms v.accessKey v.accessSecret v.smsAccount (v.region.getD "")
  | some .volcengineSms =>
    .volcengineSms v.accessKey v.accessSecret v.smsAccount (v.region.getD "")
  | some .byteplusSms => .byteplusSms v.accessKey v.accessSecret v.smsAccount (v.region.getD "")
  | some .huaweiSms => .huaweiSms v.accessKey v.accessSecret v.smsAccount (v.region.getD "")
  | some .smtp =>
    .smtp v.brand v.host (v.port.getD 587) v.accessKey v.accessSecret v.fromAddress
  | none => .none

/-- **Credentials are complete**: of what a provider has no default for, nothing is missing. -/
def Credentials.Complete : Credentials → Prop
  | .aliyunSms key secret _ => Required key ∧ Required secret
  | .tencentSms key secret account _ | .volcengineSms key secret account _
  | .byteplusSms key secret account _ | .huaweiSms key secret account _ =>
    Required key ∧ Required secret ∧ Required account
  | .smtp brand host _ username password fromAddress => Required brand ∧ Required host ∧
    Required username ∧ Required password ∧ Required fromAddress
  | .none => False

/-- **The credentials that are sent are complete** iff they are not those of an SMTP account:
the field that gives its user name is not on show. -/
theorem credentials_complete_iff {f : AccountForm} (hv : f.Valid) :
    (buildCredentials f.values.kind f.values).Complete ↔ f.kind ≠ some .smtp := by
  obtain ⟨k, hk⟩ := Option.ne_none_iff_exists'.mp hv.kind
  have hkind : f.values.kind = some k := hk
  have hsecret : f.values.accessSecret = f.accessSecret := by simp [AccountForm.values, hk]
  rw [hkind, hk, ne_eq, Option.some.injEq]
  by_cases hsmtp : k = .smtp
  · subst hsmtp
    have husername : f.values.accessKey = none := by
      simp [AccountForm.values, AccountForm.isSmtp, hk]
    refine iff_of_false ?_ (fun hne => hne rfl)
    rintro ⟨-, -, ⟨username, hsome, -⟩, -, -⟩
    rw [husername] at hsome
    cases hsome
  · have hnot : f.isSmtp = false := by simp [AccountForm.isSmtp, hk, hsmtp]
    have hkey : f.values.accessKey = f.accessKey := by simp [AccountForm.values, hk, hnot]
    have haccount : f.values.smsAccount = f.smsAccount := by simp [AccountForm.values, hk, hnot]
    have hrequired : k ≠ .aliyunSms → Required f.smsAccount := by
      intro hne
      exact hv.smsAccount hnot (by simpa [hk] using hne)
    refine iff_of_true ?_ hsmtp
    cases k with
    | smtp => exact absurd rfl hsmtp
    | aliyunSms =>
      rw [buildCredentials, hkey, hsecret]
      exact ⟨hv.accessKey hnot, hv.accessSecret⟩
    | tencentSms | volcengineSms | byteplusSms | huaweiSms =>
      rw [buildCredentials, hkey, hsecret, haccount]
      exact ⟨hv.accessKey hnot, hv.accessSecret, hrequired (by decide)⟩

/-! ## The three pages -/

/-- **When what the dialogs send hangs together.**  In every run of the dialog for a new
policy, the request does iff the scene was picked while those of the channel it is sent for were
on offer; a template always does; and the credentials of an account do iff it is not an SMTP
account. -/
theorem sent_wellFormed_iff :
    (∀ {h : List (PolicyForm × Event)} {f : PolicyForm},
      Run (Step .create) Dialog.create.initial h f → f.Valid →
        ((submit f.values none).WellFormed ↔ pickedFor h = f.channel)) ∧
    (∀ f : TemplateForm, f.Valid → (buildTemplateBody f.values).WellFormed) ∧
    ∀ f : AccountForm, f.Valid →
      ((buildCredentials f.values.kind f.values).Complete ↔ f.kind ≠ some .smtp) :=
  ⟨fun hr hv => policy_wellFormed_iff hr hv, fun _ hv => (template_wellFormed hv).1,
    fun _ hv => credentials_complete_iff hv⟩

/-- A scene is picked before the channel is set to SMS. -/
theorem sent_wellFormed_iff_stale : ∃ (h : List (PolicyForm × Event)) (f : PolicyForm),
    Run (Step .create) Dialog.create.initial h f ∧ f.Valid ∧
      ¬ (submit f.values none).WellFormed := by
  have hempty : Run (Step .create) Dialog.create.initial _ _ := .start
  have happ := hempty.next (.appId (some "7"))
  have hscene := happ.next (l := .scene (some "EMAIL_SCENE_TEST")) (.scene (by
    rintro s hs
    obtain rfl := Option.some.inj hs
    decide))
  have hchannel := hscene.next (.channel (some .sms))
  have htemplate := hchannel.next (.templateId (some "3"))
  have hvalid : (⟨some "7", some .sms, some "EMAIL_SCENE_TEST", some "3", none, none⟩ :
      PolicyForm).Valid :=
    ⟨⟨_, rfl, by decide⟩, by decide, ⟨_, rfl, by decide⟩, ⟨_, rfl, by decide⟩⟩
  refine ⟨_, _, htemplate, hvalid, ?_⟩
  rw [sent_wellFormed_iff.1 htemplate hvalid]
  decide

/-- **When an edit saves what is on show.**  In every run of the dialog that edits a policy,
over a message-service that updates as documented, what the dialog shows when it is opened again
is what it showed when it was saved iff application, channel and scene are those of the policy,
as they are where they were left; and the international chain of an SMS policy is lost where the
channel on show is another.  A template is sent as enabled, and one that is sent as it was opened
is the same iff it was enabled before. -/
theorem edits_saved_iff :
    (∀ {u : UpdatePolicy} {row row' : PolicyInfo} {h : List (PolicyForm × Event)}
      {f : PolicyForm}, row.id ≠ "" → Run (Step (.edit row)) (Dialog.edit row).initial h f →
      f.Valid → u.serve row (submit f.values (some row.id)) = some row' →
      (row'.initialValues.onShow = f.onShow ↔ f.Placed row) ∧
      ((∀ x ∈ h, ¬ x.2.Moves) → f.Placed row) ∧
      (row.channel = .sms → (row'.intlRoutes = f.intlRoutes.getD [] ↔
        f.channel = some .sms ∨ f.intlRoutes.getD [] = []))) ∧
    ∀ {row : TemplateInfo} {f : TemplateForm}, row.WellFormed → f.Valid →
      (buildTemplateBody f.values).disabled = false ∧
      (buildTemplateBody row.initialValues.values = row ↔ row.disabled = false) :=
  ⟨fun hid hr hv hsaved => ⟨policy_saved_iff hid hsaved hv, placed_of_run hr,
      intlRoutes_saved_iff hid hsaved⟩,
    fun hrow hv => ⟨(template_wellFormed hv).2, template_kept_iff hrow⟩⟩

/-- An update that refuses an empty chain, and ignores the second one of an e-mail policy. -/
def strictUpdate : UpdatePolicy where
  update row templateId routes intlRoutes :=
    if routes = [] then none
    else some { row with
      templateId := templateId.getD ""
      routes
      intlRoutes := if row.channel = .email then row.intlRoutes else intlRoutes }
  immutable h := by
    split at h
    · cases h
    · obtain rfl := Option.some.inj h
      exact ⟨rfl, rfl, rfl, rfl, rfl⟩
  replaced h := by
    split at h
    · cases h
    · obtain rfl := Option.some.inj h
      exact ⟨rfl, rfl⟩
  intl h hsms := by
    split at h
    · cases h
    · obtain rfl := Option.some.inj h
      simp [hsms]

/-- The channel of an SMS policy with an international chain is set to e-mail. -/
theorem edits_saved_iff_channel : ∃ (row row' : PolicyInfo) (h : List (PolicyForm × Event))
    (f : PolicyForm), Run (Step (.edit row)) (Dialog.edit row).initial h f ∧ f.Valid ∧
      strictUpdate.serve row (submit f.values (some row.id)) = some row' ∧
      row'.initialValues.onShow ≠ f.onShow ∧ row'.intlRoutes ≠ f.intlRoutes.getD [] := by
  let row : PolicyInfo :=
    ⟨"5", "7", .sms, "", "SMS_SCENE_TEST", "3", [⟨some "1", some "2", some 1⟩],
      [⟨some "4", some "2", some 1⟩]⟩
  have hopened : Run (Step (.edit row)) (Dialog.edit row).initial _ _ := .start
  have hmoved := hopened.next (.channel (some .email))
  have hvalid : ({ row.initialValues with channel := some .email } : PolicyForm).Valid :=
    ⟨⟨_, rfl, by decide⟩, by decide, ⟨_, rfl, by decide⟩, ⟨_, rfl, by decide⟩⟩
  have hserved : strictUpdate.serve row (submit (PolicyForm.values
      { row.initialValues with channel := some .email }) (some row.id)) =
        some { row with intlRoutes := [] } := by decide
  obtain ⟨hsaved, -, hintl⟩ := edits_saved_iff.1 (by decide) hmoved hvalid hserved
  refine ⟨row, _, _, _, hmoved, hvalid, hserved, ?_, ?_⟩
  · rw [ne_eq, hsaved]
    rintro ⟨-, hchannel, -⟩
    exact absurd hchannel (by decide)
  · rw [ne_eq, hintl rfl]
    decide

end Testkit.MessageForms
