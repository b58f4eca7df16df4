import Testkit.CountryJoin
import Testkit.LatestEffect

/-! # The pages of the reference directory

The directory page loads the current tab for the current locale, five directories at once
for the countries; the examples page loads the countries of a region and the defaults of a
country.  Their effects drop a late answer (`Testkit.LatestEffect`), so a load that has been
answered has set what is of the selection.  What a load has not set, because it is out or has
failed, is still what the last one did: `directory_current` and `fill_current` say whose rows
and whose defaults are on show.

The drawer of a region has no such cleanup.  It shows the region it names in the runs in
which it is opened while no request of it is in flight (`region_drawer`).
-/
namespace Testkit.ReferencePages
open LabelledRuns LatestEffect

/-! ## The directory page -/

/-- `API.v1Country`. -/
structure Country where
  regionCode : Option String
  alpha3 : Option String
  dialCode : Option String
  flagEmoji : Option String
  name : Option String
  exampleNumber : Option String
  languageTags : Option (List String)
  deriving DecidableEq, Repr

/-- The answer of a list of the directory. -/
structure Listed (A : Type) where
  rows : Option (List A)
  dataVersion : Option String

/-- The rows as the page keeps them. -/
def Listed.kept {A : Type} (l : Listed A) : List A := l.rows.getD []

/-- The five directories of a locale, as the reference service serves them. -/
structure Directories where
  countries : Listed Country
  regionGroups : Listed RegionGroup
  currencies : Listed Currency
  timezones : Listed Timezone
  languages : Listed Language

/-- `Domain`: the tabs. -/
inductive Domain
  | countries
  | timezones
  | languages
  | currencies
  | groups
  deriving DecidableEq, Repr

/-- The state of the page, as far as the tables go. -/
structure Directory where
  countries : Option (List Country)
  groups : Option (List RegionGroup)
  currencies : Option (List Currency)
  timezones : Option (List Timezone)
  languages : Option (List Language)
  version : Option String
  keyword : String
  loading : Bool

/-- The page before its first load. -/
def blank : Directory := ⟨none, none, none, none, none, none, "", false⟩

/-- What a load sets, once all its requests are answered. -/
def Directory.loaded (s : Directory) (d : Directories) : Domain → Directory
  | .countries =>
    { s with
      countries := some d.countries.kept
      groups := some d.regionGroups.kept
      currencies := some d.currencies.kept
      timezones := some d.timezones.kept
      languages := some d.languages.kept
      version := d.countries.dataVersion }
  | .timezones =>
    { s with timezones := some d.timezones.kept, version := d.timezones.dataVersion }
  | .languages =>
    { s with languages := some d.languages.kept, version := d.languages.dataVersion }
  | .currencies =>
    { s with currencies := some d.currencies.kept, version := d.currencies.dataVersion }
  | .groups =>
    { s with groups := some d.regionGroups.kept, version := d.regionGroups.dataVersion }

/-- The effect over the tab and the locale.  The answer is that of all the requests of a
load: none, if one of them fails. -/
def loadEffect : Effect (Domain × String) (Option Directories) Directory where
  start _ s := { s with loading := true }
  asks _ := true
  settle k answer s :=
    { (answer.elim s fun d => s.loaded d k.1) with loading := false }

/-- The user searches. -/
def Searched (s s' : Directory) : Prop := ∃ keyword, s' = { s with keyword }

/-- The directories are static: a load fails, or is answered with those of its locale. -/
def ServedBy (serve : String → Directories) (k : Domain × String)
    (answer : Option Directories) : Prop :=
  answer = none ∨ answer = some (serve k.2)

/-- **The table of a tab is the directory's**; that of the countries is joined with four
others, of one and the same locale. -/
def Shows (d : Directories) (s : Directory) : Domain → Prop
  | .countries => s.countries = some (d.countries.rows.getD []) ∧
      s.groups = some (d.regionGroups.rows.getD []) ∧
      s.currencies = some (d.currencies.rows.getD []) ∧
      s.timezones = some (d.timezones.rows.getD []) ∧
      s.languages = some (d.languages.rows.getD []) ∧ s.version = d.countries.dataVersion
  | .timezones => s.timezones = some (d.timezones.rows.getD []) ∧
      s.version = d.timezones.dataVersion
  | .languages => s.languages = some (d.languages.rows.getD []) ∧
      s.version = d.languages.dataVersion
  | .currencies => s.currencies = some (d.currencies.rows.getD []) ∧
      s.version = d.currencies.dataVersion
  | .groups => s.groups = some (d.regionGroups.rows.getD []) ∧
      s.version = d.regionGroups.dataVersion

/-- What the page says of its selection: it loads, has failed, or shows it. -/
def Current (serve : String → Directories) (k : Domain × String) :
    Option (Option Directories) → Directory → Prop
  | none, s => s.loading = true
  | some none, s => s.loading = false
  | some (some _), s => s.loading = false ∧ Shows (serve k.2) s k.1

/-- A load of the first tab brings the rows of the second. -/
def brings (domain table : Domain) : Bool := domain = .countries ∨ domain = table

/-- The locale whose rows are on show: that of the last load that brought them, among the
loads that were answered while they were the page's latest. -/
def shownLocale (table : Domain) : List (Component (Domain × String) Directory ×
    Event (Domain × String) (Option Directories)) → Option String
  | [] => none
  | (c, .answer n k (some _)) :: h =>
    if n = c.latest ∧ brings k.1 table then some k.2 else shownLocale table h
  | _ :: h => shownLocale table h

/-- **Every table is of one locale**, the one it was last loaded for. -/
structure TablesOf (serve : String → Directories) (shown : Domain → Option String)
    (s : Directory) : Prop where
  countries : s.countries = (shown .countries).map fun l => (serve l).countries.rows.getD []
  groups : s.groups = (shown .groups).map fun l => (serve l).regionGroups.rows.getD []
  currencies : s.currencies = (shown .currencies).map fun l => (serve l).currencies.rows.getD []
  timezones : s.timezones = (shown .timezones).map fun l => (serve l).timezones.rows.getD []
  languages : s.languages = (shown .languages).map fun l => (serve l).languages.rows.getD []

theorem shows_loaded (d : Directories) (s : Directory) (domain : Domain) :
    Shows d { s.loaded d domain with loading := false } domain := by
  cases domain with
  | countries => exact ⟨rfl, rfl, rfl, rfl, rfl, rfl⟩
  | timezones => exact ⟨rfl, rfl⟩
  | languages => exact ⟨rfl, rfl⟩
  | currencies => exact ⟨rfl, rfl⟩
  | groups => exact ⟨rfl, rfl⟩

/-- The search leaves the tables as they are. -/
theorem current_searched {serve : String → Directories} {k : Domain × String}
    {o : Option (Option Directories)} {s s' : Directory} (h : Current serve k o s)
    (hs : Searched s s') : Current serve k o s' := by
  obtain ⟨keyword, rfl⟩ := hs
  match o with
  | none => exact h
  | some none => exact h
  | some (some d) =>
    refine ⟨h.1, ?_⟩
    obtain ⟨domain, locale⟩ := k
    cases domain <;> exact h.2

/-- The runs of the page, opened on a tab in a locale. -/
abbrev DirectoryRun (serve : String → Directories) (k : Domain × String) :=
  Run (Step loadEffect (ServedBy serve) Searched) (mounted loadEffect k blank)

/-- What a load leaves in the tables. -/
theorem tablesOf_loaded {serve : String → Directories} {shown : Domain → Option String}
    {s : Directory} (h : TablesOf serve shown s) (domain : Domain) (locale : String)
    (loading : Bool) :
    TablesOf serve (fun table => if brings domain table then some locale else shown table)
      { s.loaded (serve locale) domain with loading } := by
  cases domain with
  | countries => exact ⟨rfl, rfl, rfl, rfl, rfl⟩
  | timezones => exact ⟨h.countries, h.groups, h.currencies, rfl, h.languages⟩
  | languages => exact ⟨h.countries, h.groups, h.currencies, h.timezones, rfl⟩
  | currencies => exact ⟨h.countries, h.groups, rfl, h.timezones, h.languages⟩
  | groups => exact ⟨h.countries, rfl, h.currencies, h.timezones, h.languages⟩

section DirectoryRuns
variable {serve : String → Directories} {k : Domain × String}
  {c : Component (Domain × String) Directory}
  {h : List (Component (Domain × String) Directory × Event (Domain × String) (Option Directories))}

theorem tablesOf_of_run (hr : DirectoryRun serve k h c) :
    TablesOf serve (fun table => shownLocale table h) c.state := by
  refine hr.always (P := fun h c => TablesOf serve (fun table => shownLocale table h) c.state)
    ⟨rfl, rfl, rfl, rfl, rfl⟩ ?_
  intro h c l c' _ hp hs
  cases hs with
  | depend k' => exact ⟨hp.countries, hp.groups, hp.currencies, hp.timezones, hp.languages⟩
  | @answer before after n k' r _ hans =>
    simp only [Component.answer]
    by_cases hn : n = c.latest
    · rw [if_pos hn]
      rcases hans with rfl | rfl
      -- a load that failed leaves the tables
      · exact ⟨hp.countries, hp.groups, hp.currencies, hp.timezones, hp.languages⟩
      · simp only [shownLocale, hn, true_and]
        exact tablesOf_loaded hp k'.1 k'.2 false
    · rw [if_neg hn]
      cases r <;> simpa only [shownLocale, hn, false_and, if_false] using hp
  | other hs =>
    obtain ⟨keyword, hs⟩ := hs
    rw [hs]
    exact ⟨hp.countries, hp.groups, hp.currencies, hp.timezones, hp.languages⟩

end DirectoryRuns

/-- A reference service with a time zone and a currency, named in the locale. -/
def named (locale : String) : Directories where
  countries := ⟨none, some "c1"⟩
  regionGroups := ⟨none, some "g1"⟩
  currencies := ⟨some [⟨some "CNY", none, none, none, some locale, none⟩], some "m1"⟩
  timezones := ⟨some [⟨some "Asia/Shanghai", none, none, some locale⟩], some "t1"⟩
  languages := ⟨none, some "l1"⟩

/-- The drawer: its title, its countries, its flag; and the requests in flight, with the
code, the name and the locale they were made for. -/
structure RegionDrawer where
  regionTitle : Option String
  regionCountries : Option (List Country)
  regionLoading : Bool
  inFlight : List (String × String × String)

/-- The drawer of a page that opens. -/
def shut : RegionDrawer := ⟨none, none, false, []⟩

/-- `openRegion`, up to the answer. -/
def RegionDrawer.openRegion (s : RegionDrawer) (code name locale : String) : RegionDrawer :=
  ⟨some name, none, true, (code, name, locale) :: s.inFlight⟩

/-- What the answer does: the countries, if there are any, and then the flag. -/
def RegionDrawer.answered (s : RegionDrawer) (rest : List (String × String × String))
    (answer : Option (List Country)) : RegionDrawer :=
  { s with
    regionCountries := answer.or s.regionCountries
    regionLoading := false
    inFlight := rest }

/-- What happens to the drawer. -/
inductive DrawerEvent
  | open (code name locale : String)
  | answer (code name locale : String) (answer : Option (List Country))
  | close

/-- A step of the drawer; `members` are the countries of a group in a locale. -/
inductive DrawerStep (members : String → String → List Country) :
    RegionDrawer → DrawerEvent → RegionDrawer → Prop
  | open {s : RegionDrawer} (code name locale : String) :
      DrawerStep members s (.open code name locale) (s.openRegion code name locale)
  | answer {s : RegionDrawer} (before after : List (String × String × String))
      {code name locale : String} : s.inFlight = before ++ (code, name, locale) :: after →
      DrawerStep members s (.answer code name locale (some (members code locale)))
        (s.answered (before ++ after) (some (members code locale)))
  | failed {s : RegionDrawer} (before after : List (String × String × String))
      {code name locale : String} : s.inFlight = before ++ (code, name, locale) :: after →
      DrawerStep members s (.answer code name locale none) (s.answered (before ++ after) none)
  | close {s : RegionDrawer} :
      DrawerStep members s .close { s with regionTitle := none, regionCountries := none }

/-- The region that was opened last. -/
def lastOpened : List (RegionDrawer × DrawerEvent) → Option (String × String × String)
  | [] => none
  | (_, .open code name locale) :: _ => some (code, name, locale)
  | _ :: h => lastOpened h

/-- The region that was opened last, unless the drawer was closed since. -/
def shownRegion : List (RegionDrawer × DrawerEvent) → Option (String × String × String)
  | [] => none
  | (_, .open code name locale) :: _ => some (code, name, locale)
  | (_, .answer _ _ _ _) :: h => shownRegion h
  | (_, .close) :: _ => none

/-- The region whose countries came last, unless the drawer was opened or closed since. -/
def loadedRegion : List (RegionDrawer × DrawerEvent) → Option (String × String × String)
  | (_, .answer code name locale (some _)) :: _ => some (code, name, locale)
  | _ => none

/-- **The drawer shows the region it names**: its title is the name of the region that was
opened last, its countries are those of that region once they have come, and it says that it
loads exactly while they have not. -/
structure OfRegion (members : String → String → List Country)
    (h : List (RegionDrawer × DrawerEvent)) (s : RegionDrawer) : Prop where
  title : s.regionTitle = (shownRegion h).map fun region => region.2.1
  countries : s.regionCountries = (loadedRegion h).map fun region => members region.1 region.2.2
  loaded : ∀ region, loadedRegion h = some region → lastOpened h = some region
  loading : s.regionLoading = true ↔ s.inFlight ≠ []
  inFlight : ∀ x ∈ s.inFlight, lastOpened h = some x ∧ loadedRegion h = none
  alone : s.inFlight.length ≤ 1

/-- A region is opened while none is in flight. -/
def OpenedIdle (s : RegionDrawer) : DrawerEvent → Prop
  | .open _ _ _ => s.inFlight = []
  | _ => True

variable {members : String → String → List Country} {s s' : RegionDrawer} {l : DrawerEvent}

/-- The only request is answered. -/
theorem ofRegion_answered {h : List (RegionDrawer × DrawerEvent)} {code name locale : String}
    {before after : List (String × String × String)} (hr : OfRegion members h s)
    (hs : s.inFlight = before ++ (code, name, locale) :: after) {answer : Option (List Country)}
    (hans : ∀ cs, answer = some cs → cs = members code locale) :
    OfRegion members ((s, .answer code name locale answer) :: h)
      (s.answered (before ++ after) answer) := by
  obtain ⟨hlast, hnotYet⟩ := hr.inFlight (code, name, locale)
    (hs ▸ List.mem_append_right _ List.mem_cons_self)
  -- no other request of the drawer is left, and it shows no countries yet
  have hnone : before ++ after = [] := by
    have hlength := hr.alone
    rw [hs, List.length_append, List.length_cons] at hlength
    exact List.eq_nil_of_length_eq_zero (by rw [List.length_append]; omega)
  have hempty : s.regionCountries = none := by rw [hr.countries, hnotYet]; rfl
  refine ⟨hr.title, ?_, fun region hregion => ?_, ?_, ?_, ?_⟩
  · cases answer with
    | none => exact hempty
    | some cs => exact congrArg some (hans cs rfl)
  · cases answer with
    | none => cases hregion
    | some cs => exact Option.some.inj hregion ▸ hlast
  · simp [RegionDrawer.answered, hnone]
  · simp [RegionDrawer.answered, hnone]
  · simp [RegionDrawer.answered, hnone]

theorem ofRegion_step {h : List (RegionDrawer × DrawerEvent)} (hr : OfRegion members h s)
    (hs : Guarded (DrawerStep members) OpenedIdle s l s') : OfRegion members ((s, l) :: h) s' := by
  obtain ⟨hidle, hs⟩ := hs
  cases hs with
  | «open» code name locale =>
    have hnone : s.inFlight = [] := hidle
    refine ⟨rfl, rfl, fun region hregion => ?_, ?_, fun x hx => ?_, ?_⟩
    · cases hregion
    · simp [RegionDrawer.openRegion]
    · rw [RegionDrawer.openRegion, hnone, List.mem_singleton] at hx
      rw [hx]
      exact ⟨rfl, rfl⟩
    · rw [RegionDrawer.openRegion, hnone]
      exact Nat.le_refl 1
  | answer before after hs =>
    exact ofRegion_answered hr hs fun cs hcs => (Option.some.inj hcs).symm
  | failed before after hs =>
    exact ofRegion_answered hr hs fun cs hcs => by cases hcs
  | close =>
    refine ⟨rfl, rfl, fun region hregion => ?_, hr.loading, fun x hx => ?_, hr.alone⟩
    · cases hregion
    · exact ⟨(hr.inFlight x hx).1, rfl⟩

/-- **The drawer shows the region it names**, in every run in which it is opened while none
of its requests is in flight. -/
theorem region_drawer {h : List (RegionDrawer × DrawerEvent)}
    (hr : Run (Guarded (DrawerStep members) OpenedIdle) shut h s) : OfRegion members h s := by
  refine hr.always (P := fun h s => OfRegion members h s) ?_
    fun _ _ _ _ _ hp hs => ofRegion_step hp hs
  exact ⟨rfl, rfl, fun _ hregion => (by cases hregion), by simp [shut], by simp [shut],
    Nat.zero_le _⟩

/-- The countries of a group, one that is named like it. -/
def member (code locale : String) : List Country :=
  [⟨none, none, none, none, some (code ++ " " ++ locale), none, none⟩]

/-- One region is opened, closed after its answer, and another one opened and answered. -/
theorem region_drawer_reopened : ∃ (h : List (RegionDrawer × DrawerEvent)) (s : RegionDrawer),
    s.regionTitle = some "Europe" ∧
      s.regionCountries = some [⟨none, none, none, none, some "150 en", none, none⟩] ∧
      OfRegion member h s := by
  refine ⟨_, _, ?title, ?countries, region_drawer (((((Run.start.next
    ⟨?asia, .open "142" "Asia" "en"⟩).next ⟨?answer, .answer [] [] rfl⟩).next
    ⟨?close, .close⟩).next ⟨?europe, .open "150" "Europe" "en"⟩).next
    ⟨?last, .answer [] [] rfl⟩)⟩
  case title | countries => rfl
  case asia | europe => exact rfl
  case answer | close | last => trivial

/-- Otherwise the drawer may name one region and show the countries of another: the answer
of the first comes last. -/
theorem drawer_mixes (asia europe : String × String × String) : ∃ h s,
    Run (DrawerStep members) shut h s ∧ s.regionTitle = some europe.2.1 ∧
      s.regionCountries = some (members asia.1 asia.2.2) := by
  have hboth : Run (DrawerStep members) shut _ _ :=
    (Run.start.next (.open asia.1 asia.2.1 asia.2.2)).next (.open europe.1 europe.2.1 europe.2.2)
  have hsecond := hboth.next (.answer [] [asia] rfl)
  exact ⟨_, _, hsecond.next (.answer [] [] rfl), rfl, rfl⟩

/-! ## The examples page -/

/-- `v1GetCountryDefaultsResponse`. -/
structure CountryDefaults where
  timezoneId : Option String
  timezoneName : Option String
  currencyCode : Option String
  currencyName : Option String
  currencySymbol : Option String
  languageTag : Option String
  languageName : Option String
  dialCode : Option String
  exampleNumber : Option String
  dataVersion : Option String
  deriving DecidableEq, Repr

/-- What the form is filled with, and the flag of the spinner. -/
structure Filled where
  fill : Option CountryDefaults
  filling : Bool
  deriving DecidableEq, Repr

/-- The effect over `fillCode`. -/
def fillEffect : Effect (Option String) (Option CountryDefaults) Filled where
  start k s :=
    match truthy k with
    | none => { s with fill := none }
    | some _ => { s with filling := true }
  asks k := (truthy k).isSome
  settle _ answer s := ⟨answer.or s.fill, false⟩

/-- The effect over `regionCode`; what it sets is `regionCountries`. -/
def regionEffect : Effect (Option String) (Option (List Country)) (Option (List Country)) where
  start k s := if (truthy k).isSome then s else none
  asks k := (truthy k).isSome
  settle _ answer s := answer.or s

/-- A request fails, or is answered with what is served for its code. -/
def Served {A : Type} (serve : String → A) (k : Option String) (answer : Option A) : Prop :=
  answer = none ∨ answer = (truthy k).map serve

/-- The rest of the page has no part in an effect's state. -/
def Untouched {S : Type} (s s' : S) : Prop := s' = s

/-- The country whose defaults came last, among the answers that came while they were of the
latest choice, and unless the box was cleared since. -/
def filledCountry : List (Component (Option String) Filled ×
    Event (Option String) (Option CountryDefaults)) → Option String
  | [] => none
  | (_, .depend k) :: h => if (truthy k).isSome then filledCountry h else none
  | (c, .answer n k (some _)) :: h => if n = c.latest then truthy k else filledCountry h
  | _ :: h => filledCountry h

/-- What the choice on show says: without a country nothing is filled in; with one the spinner
spins until its request has ended, and its defaults are there once they have come. -/
def FilledFor (serve : String → CountryDefaults) (k : Option String) :
    Option (Option CountryDefaults) → Filled → Prop
  | none, s => if (truthy k).isSome then s.filling = true else s.fill = none
  | some none, s => s.filling = false
  | some (some _), s => s.filling = false ∧ s.fill = (truthy k).map serve

/-- The runs of the box, which is empty at first. -/
abbrev FillRun (serve : String → CountryDefaults) :=
  Run (Step fillEffect (Served serve) Untouched) (mounted fillEffect none ⟨none, false⟩)

section FillRuns
variable {serve : String → CountryDefaults} {c : Component (Option String) Filled}
  {h : List (Component (Option String) Filled × Event (Option String) (Option CountryDefaults))}

/-- The defaults on show are those of one country. -/
theorem fill_of_run (hr : FillRun serve h c) : c.state.fill = (filledCountry h).map serve := by
  refine hr.always (P := fun h c => c.state.fill = (filledCountry h).map serve) rfl ?_
  intro h c l c' _ hp hs
  cases hs with
  | depend k =>
    show (fillEffect.start k c.state).fill = _
    cases hk : truthy k with
    | none => simp [fillEffect, filledCountry, hk]
    | some code => simpa [fillEffect, filledCountry, hk] using hp
  | @answer before after n k r _ hans =>
    simp only [Component.answer]
    by_cases hn : n = c.latest
    · rw [if_pos hn]
      rcases hans with rfl | rfl
      · exact hp
      · cases hk : truthy k with
        | none => simpa [fillEffect, filledCountry, hk] using hp
        | some code => simp [fillEffect, filledCountry, hk, hn]
    · rw [if_neg hn]
      cases r <;> simpa only [filledCountry, hn, if_false] using hp
  | other hs => exact hs ▸ hp

/-- **What the form is filled with**, in every run of choices with answers in any order: what
the choice on show says of itself, and the defaults of the country whose answer came last. -/
theorem fill_current (hr : FillRun serve h c) :
    FilledFor serve c.deps (outcome h) c.state ∧
      c.state.fill = (filledCountry h).map serve := by
  have hstart : ∀ (k' : Option String) (s : Filled),
      FilledFor serve k' none (fillEffect.start k' s) := by
    intro k' s
    cases hk : truthy k' with
    | none => simp [FilledFor, fillEffect, hk]
    | some code => simp [FilledFor, fillEffect, hk]
  refine ⟨latest_of_run (hstart none _) (fun _ _ s k' _ => hstart k' s) ?_ ?_ hr,
    fill_of_run hr⟩
  case refine_2 => exact fun _ _ _ _ h (hs : _ = _) => hs ▸ h
  intro k answer s hasks hans _
  obtain ⟨code, hcode⟩ := Option.isSome_iff_exists.mp hasks
  rcases hans with rfl | rfl
  · rfl
  · rw [hcode]
    exact ⟨rfl, by rw [hcode]; rfl⟩

end FillRuns

/-- Defaults with an example number, which is the code of the country. -/
def numbered (code : String) : CountryDefaults :=
  ⟨none, none, none, none, none, none, none, none, some code, none⟩

/-- A country is chosen, then another one, and the first answer comes last.  The request of
the third country fails: the defaults of the second stand. -/
theorem fill_current_second : ∃ (c : Component (Option String) Filled)
    (h : List (Component (Option String) Filled ×
      Event (Option String) (Option CountryDefaults))),
    c.deps = some "KR" ∧ c.state = ⟨some (numbered "JP"), false⟩ ∧
      FilledFor numbered c.deps (outcome h) c.state ∧
      c.state.fill = (filledCountry h).map numbered := by
  have hjapan : FillRun numbered _ _ :=
    (Run.start.next (.depend (some "CN"))).next (.depend (some "JP"))
  have hanswer := hjapan.next (.answer [] [(2, some "CN")] rfl (.inr rfl))
  have hlate := hanswer.next (.answer [] [] rfl (.inr rfl))
  have hkorea := (hlate.next (.depend (some "KR"))).next (.answer [] [] rfl (.inl rfl))
  exact ⟨_, _, rfl, rfl, fill_current hkorea⟩

/-- The spinner outlives the choice: the box is cleared while its request is out, and nothing
ends the spinning then. -/
theorem filling_stays (serve : String → CountryDefaults) : ∃ h c, FillRun serve h c ∧
    c.deps = none ∧ c.inFlight = [] ∧ c.state = ⟨none, true⟩ := by
  have hcleared : FillRun serve _ _ :=
    (Run.start.next (.depend (some "CN"))).next (.depend none)
  exact ⟨_, _, hcleared.next (.answer [] [] rfl (.inr rfl)), rfl, rfl, rfl⟩

/-- The countries of the second box are of the chosen region: none without one. -/
def ListedFor (serve : String → List Country) (k : Option String) :
    Option (Option (List Country)) → Option (List Country) → Prop
  | some (some _), s => s = (truthy k).map serve
  | _, s => truthy k = none → s = none

/-- **The countries are those of the chosen region**, in every run of choices with answers in
any order. -/
theorem regionCountries_current {serve : String → List Country} {k : Option String}
    {s : Option (List Country)} {c : Component (Option String) (Option (List Country))}
    {h : List (Component (Option String) (Option (List Country)) ×
      Event (Option String) (Option (List Country)))}
    (hr : Run (Step regionEffect (Served serve) Untouched) (mounted regionEffect k s) h c) :
    ListedFor serve c.deps (outcome h) c.state := by
  have hstart : ∀ (k' : Option String) (s : Option (List Country)),
      ListedFor serve k' none (regionEffect.start k' s) := by
    intro k' s hk
    simp [regionEffect, hk]
  refine latest_of_run (hstart k s) (fun _ _ s k' _ => hstart k' s) ?_ ?_ hr
  case refine_2 => exact fun _ _ _ _ h (hs : _ = _) => hs ▸ h
  intro k answer s hasks hans _
  obtain ⟨code, hcode⟩ := Option.isSome_iff_exists.mp hasks
  rcases hans with rfl | rfl
  · intro hk
    rw [hcode] at hk
    cases hk
  · rw [hcode]
    exact congrArg (fun k => k.map serve) hcode.symm

end Testkit.ReferencePages
