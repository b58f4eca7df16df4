import Testkit.InsertionOrder
import Testkit.LabelledRuns

/-! # The tenant list of the platform

The tenant list keeps the registry's rows with their administrators.  A drawer switches a
tenant's capabilities, another one binds and unbinds its administrators, and a dialog deletes
a tenant once it is disabled and its key is typed out.  Each answer is written into the list
and into the drawer that is open, by one and the same update.

A load has two stages: the tenants are read first, and set once the administrators of all of
them have come.  What is answered in between is written into rows that are replaced.

So the drawers agree with the list (`drawers_agree`), the capabilities of the list are those
of the registry when no switch is under way, unless a switch was answered between the stages
of a load (`capabilities_converge`), and nothing is deleted that was not confirmed
(`deletes_confirmed`).
-/
namespace Testkit.TenantListPage
open LabelledRuns InsertionOrder

/-! ## The page -/

/-- `API.TenantMember`. -/
structure TenantMember where
  userId : String
  name : String
  createdAt : String
  deriving DecidableEq, Repr

/-- A row: a tenant of the registry with its administrators.  What is absent is empty. -/
structure Row where
  tenantKey : String
  name : String
  disabled : Bool
  enabledCapabilities : List String
  createdAt : String
  admins : List TenantMember
  deriving DecidableEq, Repr

/-- The keys of `CAPABILITY_SERVICES`. -/
def capabilityServices : List String := ["USER", "MESSAGE", "STORAGE", "TELEMETRY", "LICENSE"]

/-- The capabilities with one switched on or off. -/
def switched (caps : List String) (svc : String) (enabled : Bool) : List String :=
  let set := OrderedSet.ofList caps
  (if enabled then set.add svc else set.delete svc).values

/-- The update of `toggleCapability`, for the list and for the drawer. -/
def Row.setCapability (key svc : String) (enabled : Bool) (r : Row) : Row :=
  if r.tenantKey = key then
    { r with enabledCapabilities := switched r.enabledCapabilities svc enabled }
  else r

/-- The update of `reloadAdmins`. -/
def Row.setAdmins (key : String) (members : List TenantMember) (r : Row) : Row :=
  if r.tenantKey = key then { r with admins := members } else r

/-- A request of `portalSetCapability`. -/
structure Toggle where
  tenantKey : String
  service : String
  enabled : Bool
  deriving DecidableEq, Repr

/-- The state of the page. -/
structure Page where
  rows : List Row
  capDrawer : Option Row
  adminDrawer : Option Row
  deleteTarget : Option Row
  deleteEcho : String
  deriving DecidableEq, Repr

/-- The page before its first load. -/
def Page.empty : Page := ⟨[], none, none, none, ""⟩

/-- The continuation of `toggleCapability`. -/
def Page.toggled (p : Page) (t : Toggle) : Page :=
  let update := Row.setCapability t.tenantKey t.service t.enabled
  { p with rows := p.rows.map update, capDrawer := p.capDrawer.map update }

/-- The continuation of `reloadAdmins`. -/
def Page.reloaded (p : Page) (key : String) (members : List TenantMember) : Page :=
  let update := Row.setAdmins key members
  { p with rows := p.rows.map update, adminDrawer := p.adminDrawer.map update }

/-- The click on the delete link of a row. -/
def Page.askDelete (p : Page) (r : Row) : Page :=
  if r.disabled then { p with deleteTarget := some r, deleteEcho := "" } else p

/-! ## The page and the portal -/

/-- The page, the capabilities the portal has stored, and what is in flight: switches, each
with whether the portal has carried it out; the tenants of loads that wait for the
administrators; bindings and unbindings of administrators, and the reloads they start, by the
keys of their tenants. -/
structure World where
  page : Page
  registry : String → String → Bool
  toggles : List (Toggle × Bool)
  loads : List (List Row)
  bindings : List String
  reloads : List String

/-- What happens. -/
inductive Event
  /-- The portal answers a load with its tenants; then their administrators have come, too. -/
  | listed (tenants : List Row)
  | loaded (tenants : List Row)
  | openCapabilities (r : Row)
  | closeCapabilities
  | toggle (svc : String) (enabled : Bool)
  /-- The portal carries a switch out, or refuses it; the page hears that it did. -/
  | stored (t : Toggle)
  | refused (t : Toggle)
  | answered (t : Toggle)
  | openAdmins (r : Row)
  | closeAdmins
  /-- An administrator of the open tenant is bound or unbound; the page hears of it. -/
  | bind
  | bound (key : String) (ok : Bool)
  | members (key : String) (answer : Option (List TenantMember))
  | askDelete (r : Row)
  | echo (text : String)
  | cancelDelete
  /-- `doDelete` sends its request. -/
  | confirmDelete (key : String)
  | deleted
  deriving DecidableEq, Repr

/-- A capability is stored. -/
def store (registry : String → String → Bool) (t : Toggle) : String → String → Bool :=
  fun key svc => if key = t.tenantKey ∧ svc = t.service then t.enabled else registry key svc

/-- A step.  A switch is dead in the drawer of a disabled tenant; the button of the dialog is
dead until the key is typed out. -/
inductive Step : World → Event → World → Prop
  | listed {w : World} (tenants : List Row) :
      Step w (.listed tenants) { w with loads := tenants :: w.loads }
  | loaded {w : World} (before after : List (List Row)) {tenants : List Row}
      (admins : Row → List TenantMember) : w.loads = before ++ tenants :: after →
      Step w (.loaded tenants)
        { w with
          page := { w.page with rows := tenants.map fun t => { t with admins := admins t } }
          loads := before ++ after }
  | openCapabilities {w : World} {r : Row} : r ∈ w.page.rows →
      Step w (.openCapabilities r) { w with page := { w.page with capDrawer := some r } }
  | closeCapabilities {w : World} :
      Step w .closeCapabilities { w with page := { w.page with capDrawer := none } }
  | toggle {w : World} {d : Row} {svc : String} (enabled : Bool) : w.page.capDrawer = some d →
      d.disabled = false → svc ∈ capabilityServices →
      Step w (.toggle svc enabled)
        { w with toggles := (⟨d.tenantKey, svc, enabled⟩, false) :: w.toggles }
  | stored {w : World} (before after : List (Toggle × Bool)) {t : Toggle} :
      w.toggles = before ++ (t, false) :: after →
      Step w (.stored t)
        { w with registry := store w.registry t, toggles := before ++ (t, true) :: after }
  | refused {w : World} (before after : List (Toggle × Bool)) {t : Toggle} :
      w.toggles = before ++ (t, false) :: after →
      Step w (.refused t) { w with toggles := before ++ after }
  | answered {w : World} (before after : List (Toggle × Bool)) {t : Toggle} :
      w.toggles = before ++ (t, true) :: after →
      Step w (.answered t) { w with page := w.page.toggled t, toggles := before ++ after }
  | openAdmins {w : World} {r : Row} : r ∈ w.page.rows →
      Step w (.openAdmins r) { w with page := { w.page with adminDrawer := some r } }
  | closeAdmins {w : World} :
      Step w .closeAdmins { w with page := { w.page with adminDrawer := none } }
  | bind {w : World} {d : Row} : w.page.adminDrawer = some d →
      Step w .bind { w with bindings := d.tenantKey :: w.bindings }
  | bound {w : World} (before after : List String) {key : String} (ok : Bool) :
      w.bindings = before ++ key :: after →
      Step w (.bound key ok)
        { w with
          bindings := before ++ after
          reloads := if ok then key :: w.reloads else w.reloads }
  | members {w : World} (before after : List String) {key : String}
      (answer : Option (List TenantMember)) : w.reloads = before ++ key :: after →
      Step w (.members key answer)
        { w with
          page := answer.elim w.page (w.page.reloaded key)
          reloads := before ++ after }
  | askDelete {w : World} {r : Row} : r ∈ w.page.rows →
      Step w (.askDelete r) { w with page := w.page.askDelete r }
  | echo {w : World} (text : String) :
      Step w (.echo text) { w with page := { w.page with deleteEcho := text } }
  | cancelDelete {w : World} :
      Step w .cancelDelete { w with page := { w.page with deleteTarget := none } }
  | confirmDelete {w : World} {t : Row} : w.page.deleteTarget = some t →
      w.page.deleteEcho = t.tenantKey → Step w (.confirmDelete t.tenantKey) w
  | deleted {w : World} :
      Step w .deleted { w with page := { w.page with deleteTarget := none, deleteEcho := "" } }

/-- A page that opens, over a registry. -/
def opened (registry : String → String → Bool) : World := ⟨.empty, registry, [], [], [], []⟩

/-- The list is loaded while the drawers are closed. -/
def LoadedShut (w : World) : Event → Prop
  | .loaded _ => w.page.capDrawer = none ∧ w.page.adminDrawer = none
  | _ => True

/-- What a switch is about. -/
def subject (x : Toggle × Bool) : String × String := (x.1.tenantKey, x.1.service)

/-- The rows have the capabilities that are stored. -/
def Current (registry : String → String → Bool) (rows : List Row) : Prop :=
  ∀ r ∈ rows, ∀ svc, svc ∈ r.enabledCapabilities ↔ registry r.tenantKey svc = true

/-- The tenants have a capability exactly if the switch turned it on. -/
def Shown (t : Toggle) (tenants : List Row) : Prop :=
  ∀ r ∈ tenants, r.tenantKey = t.tenantKey → (t.service ∈ r.enabledCapabilities ↔ t.enabled)

/-- A capability is not switched while a switch of it is under way; the portal lists what it
has stored; and a switch is not answered while tenants that were read before it are still on
their way to the list. -/
def OneSwitch (w : World) : Event → Prop
  | .toggle svc _ => ∀ d, w.page.capDrawer = some d →
      (d.tenantKey, svc) ∉ w.toggles.map subject
  | .listed tenants => Current w.registry tenants
  | .answered t => ∀ tenants ∈ w.loads, Shown t tenants
  | _ => True

/-! ## A run -/

/-- Two tenants without capabilities, and the first with one. -/
def acme : Row := ⟨"acme", "Acme", false, [], "1", []⟩
def zeta : Row := ⟨"zeta", "Zeta", false, [], "2", []⟩
def acmeOn : Row := ⟨"acme", "Acme", false, ["MESSAGE"], "1", []⟩

/-- An administrator. -/
def ada : TenantMember := ⟨"7", "Ada", "3"⟩

/-- A capability of one tenant is switched on, and an administrator bound to the other.  The
answers overlap, and the list is on its way once more when the switch is answered. -/
theorem acme_switched : ∃ h w, (w.page.capDrawer.map Row.enabledCapabilities = some ["MESSAGE"] ∧
    w.page.adminDrawer.map Row.admins = some [ada] ∧ w.toggles = []) ∧
    Run (Guarded Step fun w l => LoadedShut w l ∧ OneSwitch w l) (opened fun _ _ => false) h w := by
  refine ⟨_, _, ?shown, (((((((((((Run.start.next ⟨?listed, .listed [acme, zeta]⟩).next
    ⟨?loaded, .loaded [] [] (fun _ => []) rfl⟩).next
    ⟨?caps, .openCapabilities (r := acme) List.mem_cons_self⟩).next
    ⟨?toggle, .toggle (d := acme) true rfl rfl (List.mem_cons_of_mem _ List.mem_cons_self)⟩).next
    ⟨?admins, .openAdmins (r := zeta) (List.mem_cons_of_mem _ List.mem_cons_self)⟩).next
    ⟨?bind, .bind (d := zeta) rfl⟩).next
    ⟨?stored, .stored [] [] rfl⟩).next
    ⟨?again, .listed [acmeOn, zeta]⟩).next
    ⟨?bound, .bound [] [] true rfl⟩).next
    ⟨?answered, .answered [] [] rfl⟩).next
    ⟨?members, .members [] [] (some [ada]) rfl⟩)⟩
  case shown => exact ⟨by decide, by decide, rfl⟩
  case listed =>
    refine ⟨trivial, fun r hr svc => ?_⟩
    obtain rfl | rfl : r = acme ∨ r = zeta := by simpa using hr
    all_goals exact ⟨fun hin => (by cases hin), fun hon => (by cases hon)⟩
  case loaded => exact ⟨⟨rfl, rfl⟩, trivial⟩
  case toggle => exact ⟨trivial, fun d _ => List.not_mem_nil⟩
  case again =>
    refine ⟨trivial, fun r hr svc => ?_⟩
    obtain rfl | rfl : r = acmeOn ∨ r = zeta := by simpa using hr
    · simp [acmeOn, acme, store, opened]
    · simp [zeta, acme, store, opened]
  case answered =>
    refine ⟨trivial, fun tenants ht r hr hkey => ?_⟩
    obtain rfl : tenants = [acmeOn, zeta] := List.mem_singleton.mp ht
    obtain rfl | rfl : r = acmeOn ∨ r = zeta := by simpa using hr
    · simp [acmeOn]
    · exact absurd hkey (by decide)
  all_goals exact ⟨trivial, trivial⟩

/-! ## The updates -/

theorem mem_switched {caps : List String} {svc s : String} {enabled : Bool} :
    s ∈ switched caps svc enabled ↔ if s = svc then enabled = true else s ∈ caps := by
  have hof : s ∈ OrderedSet.ofList caps ↔ s ∈ caps := OrderedSet.mem_ofList
  cases enabled with
  | true =>
    refine (OrderedSet.mem_add (s := OrderedSet.ofList caps)).trans ?_
    by_cases hs : s = svc <;> simp [hs, hof]
  | false =>
    refine (OrderedSet.mem_delete (s := OrderedSet.ofList caps)).trans ?_
    by_cases hs : s = svc <;> simp [hs, hof]

@[simp] theorem setCapability_tenantKey (key svc : String) (enabled : Bool) (r : Row) :
    (r.setCapability key svc enabled).tenantKey = r.tenantKey := by
  rw [Row.setCapability]
  split <;> rfl

@[simp] theorem setAdmins_tenantKey (key : String) (members : List TenantMember) (r : Row) :
    (r.setAdmins key members).tenantKey = r.tenantKey := by
  rw [Row.setAdmins]
  split <;> rfl

/-- What an update of one field does to the others. -/
@[simp] theorem setCapability_admins (key svc : String) (enabled : Bool) (r : Row) :
    (r.setCapability key svc enabled).admins = r.admins := by
  rw [Row.setCapability]
  split <;> rfl

@[simp] theorem setAdmins_enabledCapabilities (key : String) (members : List TenantMember)
    (r : Row) : (r.setAdmins key members).enabledCapabilities = r.enabledCapabilities := by
  rw [Row.setAdmins]
  split <;> rfl

theorem setCapability_congr {key svc : String} {enabled : Bool} {r d : Row}
    (hkey : r.tenantKey = d.tenantKey) (hcaps : r.enabledCapabilities = d.enabledCapabilities) :
    (r.setCapability key svc enabled).enabledCapabilities =
      (d.setCapability key svc enabled).enabledCapabilities := by
  rw [Row.setCapability, Row.setCapability, hkey]
  split <;> simp [hcaps]

theorem setAdmins_congr {key : String} {members : List TenantMember} {r d : Row}
    (hkey : r.tenantKey = d.tenantKey) (hadmins : r.admins = d.admins) :
    (r.setAdmins key members).admins = (d.setAdmins key members).admins := by
  rw [Row.setAdmins, Row.setAdmins, hkey]
  split
  · rfl
  · exact hadmins

/-! ## The drawers -/

/-- **The drawers show what the list shows** of their tenants. -/
structure Agree (p : Page) : Prop where
  capabilities : ∀ d, p.capDrawer = some d → ∃ r ∈ p.rows, r.tenantKey = d.tenantKey ∧
    r.enabledCapabilities = d.enabledCapabilities
  admins : ∀ d, p.adminDrawer = some d → ∃ r ∈ p.rows, r.tenantKey = d.tenantKey ∧
    r.admins = d.admins

theorem agree_toggled {p : Page} (h : Agree p) (t : Toggle) : Agree (p.toggled t) where
  capabilities := by
    intro d' hd'
    obtain ⟨d, hd, rfl⟩ := Option.map_eq_some_iff.mp hd'
    obtain ⟨r, hr, hkey, hcaps⟩ := h.capabilities d hd
    exact ⟨_, List.mem_map_of_mem hr, by simpa using hkey, setCapability_congr hkey hcaps⟩
  admins := by
    intro d hd
    obtain ⟨r, hr, hkey, hadmins⟩ := h.admins d hd
    exact ⟨_, List.mem_map_of_mem hr, by simpa using hkey, by simpa using hadmins⟩

theorem agree_reloaded {p : Page} (h : Agree p) (key : String) (members : List TenantMember) :
    Agree (p.reloaded key members) where
  capabilities := by
    intro d hd
    obtain ⟨r, hr, hkey, hcaps⟩ := h.capabilities d hd
    exact ⟨_, List.mem_map_of_mem hr, by simpa using hkey, by simpa using hcaps⟩
  admins := by
    intro d' hd'
    obtain ⟨d, hd, rfl⟩ := Option.map_eq_some_iff.mp hd'
    obtain ⟨r, hr, hkey, hadmins⟩ := h.admins d hd
    exact ⟨_, List.mem_map_of_mem hr, by simpa using hkey, setAdmins_congr hkey hadmins⟩

theorem agree_step {w w' : World} {l : Event} (h : Agree w.page)
    (hs : Guarded Step LoadedShut w l w') : Agree w'.page := by
  obtain ⟨hshut, hs⟩ := hs
  cases hs with
  | listed tenants => exact h
  | loaded before after admins ht =>
    -- the new rows need not be those the drawers were opened on; both are shut
    obtain ⟨hcap, hadmin⟩ := hshut
    exact ⟨fun d hd => by simp [hcap] at hd, fun d hd => by simp [hadmin] at hd⟩
  | openCapabilities hr =>
    refine ⟨fun d hd => ?_, h.admins⟩
    obtain rfl := Option.some.inj hd
    exact ⟨_, hr, rfl, rfl⟩
  | closeCapabilities => exact ⟨by simp, h.admins⟩
  | answered before after ht => exact agree_toggled h _
  | openAdmins hr =>
    refine ⟨h.capabilities, fun d hd => ?_⟩
    obtain rfl := Option.some.inj hd
    exact ⟨_, hr, rfl, rfl⟩
  | closeAdmins => exact ⟨h.capabilities, by simp⟩
  | members before after answer hr =>
    cases answer with
    | none => exact h
    | some members => exact agree_reloaded h _ members
  | @askDelete r hr =>
    show Agree (w.page.askDelete r)
    rw [Page.askDelete]
    split
    · exact ⟨h.capabilities, h.admins⟩
    · exact h
  | toggle _ _ _ _ => exact h
  | stored before after ht => exact h
  | refused before after ht => exact h
  | bind _ => exact h
  | bound before after ok hb => exact h
  | echo text => exact ⟨h.capabilities, h.admins⟩
  | cancelDelete => exact ⟨h.capabilities, h.admins⟩
  | confirmDelete _ _ => exact h
  | deleted => exact ⟨h.capabilities, h.admins⟩

/-- **The drawers agree with the list**, in every run in which the list is not loaded under an
open drawer, however switches and reloads overlap. -/
theorem drawers_agree {registry : String → String → Bool} {h : List (World × Event)} {w : World}
    (hr : Run (Guarded Step LoadedShut) (opened registry) h w) : Agree w.page := by
  refine hr.invariant (P := fun w => Agree w.page) ?_ fun _ _ _ hw hs => agree_step hw hs
  exact ⟨by simp [opened, Page.empty], by simp [opened, Page.empty]⟩

theorem drawers_agree_acme : ∃ w : World,
    w.page.capDrawer.map Row.enabledCapabilities = some ["MESSAGE"] ∧
      w.page.adminDrawer.map Row.admins = some [ada] ∧ Agree w.page := by
  obtain ⟨h, w, ⟨hcaps, hadmins, -⟩, hr⟩ := acme_switched
  exact ⟨w, hcaps, hadmins, drawers_agree (hr.mono fun _ _ _ hs => ⟨hs.1.1, hs.2⟩)⟩

/-! ## The capabilities -/

/-- The rows have the capabilities that are stored, but for the switches the page has not heard
of. -/
def UpToNews (w : World) (rows : List Row) : Prop :=
  ∀ r ∈ rows, ∀ svc,
    (∀ t, (t, true) ∈ w.toggles → (t.tenantKey, t.service) ≠ (r.tenantKey, svc)) →
      (svc ∈ r.enabledCapabilities ↔ w.registry r.tenantKey svc = true)

/-- **The list has caught up with the portal**, and so have the tenants on their way to it. -/
structure InSync (w : World) : Prop where
  distinct : (w.toggles.map subject).Nodup
  stored : ∀ t, (t, true) ∈ w.toggles → w.registry t.tenantKey t.service = t.enabled
  rows : UpToNews w w.page.rows
  loads : ∀ tenants ∈ w.loads, UpToNews w tenants

theorem store_self (registry : String → String → Bool) (t : Toggle) :
    store registry t t.tenantKey t.service = t.enabled := if_pos ⟨rfl, rfl⟩

theorem store_of_ne (registry : String → String → Bool) {t : Toggle} {key svc : String}
    (hne : (t.tenantKey, t.service) ≠ (key, svc)) :
    store registry t key svc = registry key svc := by
  refine if_neg fun h => hne ?_
  rw [h.1, h.2]

/-- A switch is the one that is taken out, or one of the others. -/
theorem mem_taken {toggles before after : List (Toggle × Bool)} {x y : Toggle × Bool}
    (hx : toggles = before ++ x :: after) (hy : y ∈ toggles) : y = x ∨ y ∈ before ++ after := by
  rw [hx, List.mem_append, List.mem_cons] at hy
  rcases hy with hbefore | heq | hafter
  · exact Or.inr (List.mem_append_left _ hbefore)
  · exact Or.inl heq
  · exact Or.inr (List.mem_append_right _ hafter)

/-- The others are there besides it. -/
theorem others_subset (before after : List (Toggle × Bool)) (x : Toggle × Bool) :
    before ++ after ⊆ before ++ x :: after :=
  ((List.sublist_cons_self x after).append_left before).subset

/-- A switch and the others are about different things. -/
theorem subject_ne {toggles before after : List (Toggle × Bool)} {x y : Toggle × Bool}
    (hdistinct : (toggles.map subject).Nodup) (hx : toggles = before ++ x :: after)
    (hy : y ∈ before ++ after) : subject x ≠ subject y := by
  rw [hx, List.map_append, List.map_cons, List.nodup_middle, List.nodup_cons, ← List.map_append]
    at hdistinct
  exact fun heq => hdistinct.1 (heq ▸ List.mem_map_of_mem hy)

/-- What is free of news has not changed when the portal carries a switch out. -/
theorem upToNews_stored {w : World} {before after : List (Toggle × Bool)} {t : Toggle}
    {rows : List Row} (h : UpToNews w rows) (ht : w.toggles = before ++ (t, false) :: after) :
    UpToNews { w with registry := store w.registry t, toggles := before ++ (t, true) :: after }
      rows := by
  intro r hr svc hfree
  have hself : (t.tenantKey, t.service) ≠ (r.tenantKey, svc) :=
    hfree t (List.mem_append_right _ List.mem_cons_self)
  show _ ↔ store w.registry t r.tenantKey svc = true
  rw [store_of_ne w.registry hself]
  refine h r hr svc fun t' ht' => hfree t' ?_
  rcases mem_taken ht ht' with heq | hrest
  · exact absurd (Prod.mk.inj heq).2 Bool.true_eq_false.mp
  · exact others_subset before after _ hrest

/-- The portal carries a switch out. -/
theorem inSync_stored {w : World} {before after : List (Toggle × Bool)} {t : Toggle}
    (h : InSync w) (ht : w.toggles = before ++ (t, false) :: after) :
    InSync { w with registry := store w.registry t, toggles := before ++ (t, true) :: after } where
  distinct := by
    have hdistinct := h.distinct
    rw [ht] at hdistinct
    simpa [subject] using hdistinct
  stored := by
    intro t' ht'
    rcases mem_taken rfl ht' with heq | hrest
    · obtain ⟨rfl, -⟩ := Prod.mk.inj heq
      exact store_self w.registry t'
    -- another switch was carried out before, and is about something else
    · have hold : (t', true) ∈ w.toggles := ht ▸ others_subset before after (t, false) hrest
      exact (store_of_ne w.registry (subject_ne h.distinct ht hrest)).trans (h.stored t' hold)
  rows := upToNews_stored h.rows ht
  loads tenants htenants := upToNews_stored (h.loads tenants htenants) ht

/-- Off the subject of an answered switch nothing is news that was not before. -/
theorem upToNews_other {w : World} {before after : List (Toggle × Bool)} {t : Toggle}
    {rows : List Row} (h : UpToNews w rows) (ht : w.toggles = before ++ (t, true) :: after)
    {r : Row} (hr : r ∈ rows) {svc : String}
    (hfree : ∀ t', (t', true) ∈ before ++ after →
      (t'.tenantKey, t'.service) ≠ (r.tenantKey, svc))
    (hother : (t.tenantKey, t.service) ≠ (r.tenantKey, svc)) :
    svc ∈ r.enabledCapabilities ↔ w.registry r.tenantKey svc = true := by
  refine h r hr svc fun t' ht' => ?_
  rcases mem_taken ht ht' with heq | hrest
  · exact (Prod.mk.inj heq).1 ▸ hother
  · exact hfree t' hrest

/-- The page hears of a switch. -/
theorem inSync_answered {w : World} {before after : List (Toggle × Bool)} {t : Toggle}
    (h : InSync w) (ht : w.toggles = before ++ (t, true) :: after)
    (hshown : ∀ tenants ∈ w.loads, Shown t tenants) :
    InSync { w with page := w.page.toggled t, toggles := before ++ after } := by
  have hsub : (before ++ after).Sublist w.toggles :=
    ht ▸ (List.sublist_cons_self _ _).append_left before
  have hstored : w.registry t.tenantKey t.service = t.enabled :=
    h.stored t (ht ▸ List.mem_append_right _ List.mem_cons_self)
  refine ⟨(hsub.map subject).nodup h.distinct, fun t' ht' => h.stored t' (hsub.subset ht'),
    fun r' hr' svc hfree => ?_, fun tenants htenants r hr svc hfree => ?_⟩
  · obtain ⟨r, hr, rfl⟩ := List.mem_map.mp hr'
    rw [setCapability_tenantKey] at hfree ⊢
    have hold := @upToNews_other _ _ _ _ _ h.rows ht _ hr svc hfree
    by_cases hkey : r.tenantKey = t.tenantKey
    · rw [Row.setCapability, if_pos hkey, mem_switched]
      split
      · rename_i hsvc
        -- the switched capability itself: the page writes what the portal has stored
        rw [hkey, hsvc, hstored]
      · rename_i hsvc
        exact hold fun heq => hsvc (Prod.mk.inj heq).2.symm
    · rw [Row.setCapability, if_neg hkey]
      exact hold fun heq => hkey (Prod.mk.inj heq).1.symm
  · by_cases hself : (t.tenantKey, t.service) = (r.tenantKey, svc)
    -- the tenants on their way were read after the switch
    · obtain ⟨hkey, rfl⟩ := Prod.mk.inj hself
      show _ ↔ w.registry r.tenantKey t.service = true
      rw [hshown tenants htenants r hr hkey.symm, ← hkey, hstored]
    · exact upToNews_other (h.loads tenants htenants) ht hr hfree hself

/-- Other administrators are no news. -/
theorem upToNews_map {w : World} {rows : List Row} {f : Row → Row} (h : UpToNews w rows)
    (hkey : ∀ r, (f r).tenantKey = r.tenantKey)
    (hcaps : ∀ r, (f r).enabledCapabilities = r.enabledCapabilities) :
    UpToNews w (rows.map f) := by
  intro r' hr' svc hfree
  obtain ⟨r, hr, rfl⟩ := List.mem_map.mp hr'
  rw [hkey] at hfree ⊢
  rw [hcaps]
  exact h r hr svc hfree

theorem inSync_step {w w' : World} {l : Event} (h : InSync w) (hs : Guarded Step OneSwitch w l w') :
    InSync w' := by
  obtain ⟨hone, hs⟩ := hs
  cases hs with
  | listed tenants =>
    refine ⟨h.distinct, h.stored, h.rows, fun tenants' ht => ?_⟩
    rcases List.mem_cons.mp ht with rfl | ht
    · exact fun r hr svc _ => hone r hr svc
    · exact h.loads tenants' ht
  | @loaded before after tenants admins ht =>
    have htenants := h.loads tenants (ht ▸ List.mem_append_right _ List.mem_cons_self)
    refine ⟨h.distinct, h.stored, upToNews_map htenants (fun _ => rfl) fun _ => rfl, ?_⟩
    intro tenants' ht'
    exact h.loads tenants' (ht ▸ ((List.sublist_cons_self _ _).append_left before).subset ht')
  | @toggle d svc enabled hd hon hsvc =>
    have hnews : ∀ {rows : List Row}, UpToNews w rows → UpToNews { w with
        toggles := (⟨d.tenantKey, svc, enabled⟩, false) :: w.toggles } rows := by
      intro rows hrows r hr svc hfree
      exact hrows r hr svc fun t ht => hfree t (List.mem_cons_of_mem _ ht)
    refine ⟨List.nodup_cons.mpr ⟨hone _ hd, h.distinct⟩, fun t ht => ?_, hnews h.rows,
      fun tenants ht => hnews (h.loads tenants ht)⟩
    rcases List.mem_cons.mp ht with heq | ht
    · exact absurd (Prod.mk.inj heq).2 Bool.true_eq_false.mp
    · exact h.stored t ht
  | stored before after ht => exact inSync_stored h ht
  | @refused before after t ht =>
    -- a refused switch was never stored, so it is no news either way
    have hsub : (before ++ after).Sublist w.toggles :=
      ht ▸ (List.sublist_cons_self _ _).append_left before
    have hnews : ∀ {rows : List Row}, UpToNews w rows →
        UpToNews { w with toggles := before ++ after } rows := by
      intro rows hrows r hr svc hfree
      refine hrows r hr svc fun t' ht' => ?_
      rcases mem_taken ht ht' with heq | hrest
      · exact absurd (Prod.mk.inj heq).2 Bool.true_eq_false.mp
      · exact hfree t' hrest
    exact ⟨(hsub.map subject).nodup h.distinct, fun t' ht' => h.stored t' (hsub.subset ht'),
      hnews h.rows, fun tenants ht => hnews (h.loads tenants ht)⟩
  | answered before after ht => exact inSync_answered h ht hone
  | members before after answer hr =>
    cases answer with
    | none => exact ⟨h.distinct, h.stored, h.rows, h.loads⟩
    | some members =>
      exact ⟨h.distinct, h.stored, upToNews_map h.rows (fun _ => setAdmins_tenantKey _ _ _)
        fun _ => setAdmins_enabledCapabilities _ _ _, h.loads⟩
  | @askDelete r hr =>
    have hrows : (w.page.askDelete r).rows = w.page.rows := by
      rw [Page.askDelete]
      split <;> rfl
    exact ⟨h.distinct, h.stored, fun r' hr' => h.rows r' (hrows ▸ hr'), h.loads⟩
  | openCapabilities hr => exact ⟨h.distinct, h.stored, h.rows, h.loads⟩
  | closeCapabilities => exact ⟨h.distinct, h.stored, h.rows, h.loads⟩
  | openAdmins hr => exact ⟨h.distinct, h.stored, h.rows, h.loads⟩
  | closeAdmins => exact ⟨h.distinct, h.stored, h.rows, h.loads⟩
  | bind _ => exact ⟨h.distinct, h.stored, h.rows, h.loads⟩
  | bound before after ok hb => exact ⟨h.distinct, h.stored, h.rows, h.loads⟩
  | echo text => exact ⟨h.distinct, h.stored, h.rows, h.loads⟩
  | cancelDelete => exact ⟨h.distinct, h.stored, h.rows, h.loads⟩
  | confirmDelete _ _ => exact h
  | deleted => exact ⟨h.distinct, h.stored, h.rows, h.loads⟩

/-- Otherwise a row stays wrong: the switch is answered between the stages of a load, and the
rows that come then are older than it. -/
theorem load_overwrites : ∃ h w, Run Step (opened fun _ _ => false) h w ∧ w.toggles = [] ∧
    w.loads = [] ∧ w.registry "acme" "MESSAGE" = true ∧
      w.page.rows.map Row.enabledCapabilities = [[]] := by
  have hlisted := (Run.start.next (.listed [acme])).next
    (Step.loaded (w := { opened fun _ _ => false with loads := [[acme]] }) [] [] (fun _ => []) rfl)
  have htoggled := (hlisted.next (.openCapabilities (r := acme) List.mem_cons_self)).next
    (@Step.toggle _ acme "MESSAGE" true rfl rfl (by decide))
  have hswitched := ((htoggled.next (.listed [acme])).next (.stored [] [] rfl)).next
    (.answered [] [] rfl)
  exact ⟨_, _, hswitched.next (.loaded [] [] (fun _ => []) rfl), rfl, rfl, by decide, rfl⟩

/-! ## Deleting -/

/-- The row a dialog is about was listed as disabled when its delete link was clicked. -/
def Asked (h : List (World × Event)) (w : World) : Prop :=
  ∀ t, w.page.deleteTarget = some t →
    t.disabled = true ∧ ∃ w', (w', Event.askDelete t) ∈ h ∧ t ∈ w'.page.rows

theorem asked_step {h : List (World × Event)} {w w' : World} {l : Event} (ha : Asked h w)
    (hs : Step w l w') : Asked ((w, l) :: h) w' := by
  have hlater : Asked ((w, l) :: h) w := by
    intro t ht
    obtain ⟨hdisabled, w', hask, hrow⟩ := ha t ht
    exact ⟨hdisabled, w', List.mem_cons_of_mem _ hask, hrow⟩
  cases hs with
  | @askDelete r hr =>
    intro t ht
    rw [Page.askDelete] at ht
    split at ht
    · rename_i hdisabled
      obtain rfl := Option.some.inj ht
      exact ⟨hdisabled, w, List.mem_cons_self, hr⟩
    · exact hlater t ht
  | members before after answer hr =>
    cases answer with
    | none => exact hlater
    | some members => exact hlater
  | cancelDelete => rintro t ⟨⟩
  | deleted => rintro t ⟨⟩
  | listed tenants => exact hlater
  | loaded before after admins ht => exact hlater
  | openCapabilities hr => exact hlater
  | closeCapabilities => exact hlater
  | toggle _ _ _ _ => exact hlater
  | stored before after ht => exact hlater
  | refused before after ht => exact hlater
  | answered before after ht => exact hlater
  | openAdmins hr => exact hlater
  | closeAdmins => exact hlater
  | bind _ => exact hlater
  | bound before after ok hb => exact hlater
  | echo text => exact hlater
  | confirmDelete _ _ => exact hlater

/-- **Every delete was confirmed**: its key was typed out in the dialog of a tenant that was
listed as disabled when its delete link was clicked. -/
def Confirmed (h : List (World × Event)) : Prop :=
  ∀ v key, (v, Event.confirmDelete key) ∈ h → v.page.deleteEcho = key ∧
    ∃ t, v.page.deleteTarget = some t ∧ t.tenantKey = key ∧ t.disabled = true ∧
      ∃ v', (v', Event.askDelete t) ∈ h ∧ t ∈ v'.page.rows

theorem Confirmed.cons {h : List (World × Event)} (hc : Confirmed h) {w : World} {l : Event}
    (hl : ∀ key, l = .confirmDelete key → w.page.deleteEcho = key ∧
      ∃ t, w.page.deleteTarget = some t ∧ t.tenantKey = key ∧ t.disabled = true ∧
        ∃ v', (v', Event.askDelete t) ∈ h ∧ t ∈ v'.page.rows) : Confirmed ((w, l) :: h) := by
  have hold : ∀ v key, ((v, Event.confirmDelete key) = (w, l) ∨ (v, Event.confirmDelete key) ∈ h) →
      v.page.deleteEcho = key ∧ ∃ t, v.page.deleteTarget = some t ∧ t.tenantKey = key ∧
        t.disabled = true ∧ ∃ v', (v', Event.askDelete t) ∈ h ∧ t ∈ v'.page.rows := by
    rintro v key (heq | hin)
    · obtain ⟨rfl, rfl⟩ := Prod.mk.inj heq
      exact hl key rfl
    · exact hc v key hin
  intro v key hin
  obtain ⟨hecho, t, ht, hkey, hdisabled, v', hask, hrow⟩ := hold v key (List.mem_cons.mp hin)
  exact ⟨hecho, t, ht, hkey, hdisabled, v', List.mem_cons_of_mem _ hask, hrow⟩

/-- **Nothing is deleted unconfirmed**, in every run. -/
theorem deletes_confirmed {registry : String → String → Bool} {h : List (World × Event)} {w : World}
    (hr : Run Step (opened registry) h w) : Confirmed h := by
  suffices hboth : Asked h w ∧ Confirmed h from hboth.2
  refine hr.always (P := fun h w => Asked h w ∧ Confirmed h) ?_ ?_
  · exact ⟨by simp [Asked, opened, Page.empty], by simp [Confirmed]⟩
  · rintro h w l w' - ⟨hasked, hconfirmed⟩ hs
    refine ⟨asked_step hasked hs, hconfirmed.cons ?_⟩
    rintro key rfl
    cases hs with
    | @confirmDelete t ht hecho => exact ⟨hecho, t, ht, rfl, hasked t ht⟩

/-- A disabled tenant is deleted. -/
theorem deletes_confirmed_retired : ∃ (h : List (World × Event)) (v : World),
    (v, Event.confirmDelete "acme") ∈ h ∧ Confirmed h := by
  let retired : Row := ⟨"acme", "Acme", true, [], "1", []⟩
  have hlisted : Run Step (opened fun _ _ => false) _ _ := Run.start.next (.listed [retired])
  have hasked := (hlisted.next (.loaded [] [] (fun _ => []) rfl)).next
    (.askDelete (r := retired) List.mem_cons_self)
  have hdeleted := (hasked.next (.echo "acme")).next (.confirmDelete (t := retired) rfl rfl)
  exact ⟨_, _, List.mem_cons_self, deletes_confirmed hdeleted⟩

end Testkit.TenantListPage
