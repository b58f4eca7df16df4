import Testkit.FiniteDescent
import Testkit.InsertionOrder
import Testkit.RegionGroups

/-! # The country join of the reference directory

`buildCountryJoin` joins four directories onto the countries in the browser.  For a
country it collects the codes of its groups by climbing from each of them along the parent
codes, and reads the names off the list of groups again; currencies and time zones are
collected under the countries they name.

The climb is a loop without a bound of its own, so the model of everything that runs it has
fuel.  It ends exactly where no climb comes to a cycle (`climbs_end_iff`), and what it has
collected then is the hierarchy's own answer (`country_join`).
-/
namespace Testkit
open InsertionOrder FiniteDescent

/-! ## The directories -/

/-- `API.v1Currency`. -/
structure Currency where
  code : Option String
  symbol : Option String
  minorUnits : Option Int
  regionCodes : Option (List String)
  name : Option String
  flagEmoji : Option String
  deriving DecidableEq, Repr

/-- `API.v1Timezone`. -/
structure Timezone where
  id : Option String
  aliases : Option (List String)
  regionCodes : Option (List String)
  name : Option String
  deriving DecidableEq, Repr

/-- `API.v1Language`. -/
structure Language where
  tag : Option String
  name : Option String
  nativeName : Option String
  deriving DecidableEq, Repr

/-- What the directory page reads for a country. -/
structure CountryJoin where
  regionChain : OrderedMap String (List String)
  currenciesOf : OrderedMap String (List Currency)
  timezonesOf : OrderedMap String (List Timezone)
  langName : OrderedMap (Option String) (Option String)

/-! ## `buildCountryJoin` -/

/-- The groups by code; of two groups with one code the last. -/
def groupByCode (groups : List RegionGroup) : OrderedMap (Option String) RegionGroup :=
  OrderedMap.ofList (groups.map fun g => (g.groupCode, g))

/-- `groupByCode.get(cur)?.parentCode`. -/
def parentOf (byCode : OrderedMap (Option String) RegionGroup) (cur : String) : Option String :=
  (byCode.get (some cur)).bind RegionGroup.parentCode

/-- The climb: every code it comes by is added to the set. -/
def climb (byCode : OrderedMap (Option String) RegionGroup) :
    Nat → Option String → OrderedSet String → Option (OrderedSet String)
  | 0, cur, set => if (truthy cur).isSome then none else some set
  | fuel + 1, cur, set =>
    match truthy cur with
    | none => some set
    | some c => climb byCode fuel (parentOf byCode c) (set.add c)

/-- The codes of the groups of every country. -/
def regionCodes (fuel : Nat) (groups : List RegionGroup) :
    Option (OrderedMap String (OrderedSet String)) :=
  groups.foldlM (fun m g =>
    g.countries.foldlM (fun m cc =>
      (climb (groupByCode groups) fuel g.groupCode ((m.get cc).getD .empty)).map (m.set cc)) m)
    .empty

/-- `g.name ?? g.groupCode ?? ""`. -/
def RegionGroup.displayName (g : RegionGroup) : String := (g.name.or g.groupCode).getD ""

/-- The names of the groups in a set, in the order of the list. -/
def chainOf (groups : List RegionGroup) (set : OrderedSet String) : List String :=
  (groups.filter fun g => decide (g.groupCode.getD "" ∈ set)).map RegionGroup.displayName

/-- The chains of every country. -/
def regionChains (groups : List RegionGroup) (codes : OrderedMap String (OrderedSet String)) :
    OrderedMap String (List String) :=
  OrderedMap.ofList (codes.entries.map fun e => (e.1, chainOf groups e.2))

/-- `buildCountryJoin`. -/
def buildCountryJoin (fuel : Nat) (groups : List RegionGroup) (currencies : List Currency)
    (timezones : List Timezone) (languages : List Language) : Option CountryJoin :=
  (regionCodes fuel groups).map fun codes =>
    { regionChain := regionChains groups codes
      currenciesOf := OrderedMap.groupBy (fun c => c.regionCodes.getD []) currencies
      timezonesOf := OrderedMap.groupBy (fun t => t.regionCodes.getD []) timezones
      langName := OrderedMap.ofList (languages.map fun l => (l.tag, l.name.or l.tag)) }

/-! ## The climb -/

section Climb
variable (groups : List RegionGroup)

/-- The code a climb comes to next. -/
def nextCode (c : String) : Option String := truthy (parentOf (groupByCode groups) c)

/-- The codes of a climb. -/
def climbed (fuel : Nat) (g : RegionGroup) : Option (List String) :=
  chain (nextCode groups) fuel (truthy g.groupCode)

/-- **The climb** adds the codes it comes by, one after another. -/
theorem climb_eq (fuel : Nat) (cur : Option String) (set : OrderedSet String) :
    climb (groupByCode groups) fuel cur set =
      (chain (nextCode groups) fuel (truthy cur)).map fun codes => codes.foldl .add set := by
  induction fuel generalizing cur set with
  | zero => cases hcur : truthy cur <;> simp [climb, chain, hcur]
  | succ fuel ih =>
    cases hcur : truthy cur with
    | none => simp [climb, chain, hcur]
    | some c =>
      simp only [climb, chain, hcur, ih, Option.map_map]
      rfl

variable {groups}

/-- What a set of codes holds for a country. -/
def Collected (m : OrderedMap String (OrderedSet String)) (cc code : String) : Prop :=
  ∃ set, m.get cc = some set ∧ code ∈ set

/-- One country of a group. -/
theorem get_climbed {m : OrderedMap String (OrderedSet String)} (codes : List String)
    (cc cc' : String) :
    ((m.set cc (codes.foldl .add ((m.get cc).getD .empty))).get cc').isSome =
        ((m.get cc').isSome || decide (cc' = cc)) ∧
      ∀ code, Collected (m.set cc (codes.foldl .add ((m.get cc).getD .empty))) cc' code ↔
        Collected m cc' code ∨ (cc' = cc ∧ code ∈ codes) := by
  unfold Collected
  rw [OrderedMap.get_set]
  by_cases hcc : cc' = cc
  · subst hcc
    refine ⟨by simp, fun code => ?_⟩
    have hold : code ∈ (m.get cc').getD .empty ↔ ∃ set, m.get cc' = some set ∧ code ∈ set := by
      cases m.get cc' with
      | none => simp
      | some set => simp
    simp [OrderedSet.mem_foldl_add, hold]
  · simp [hcc]

/-- The countries of a group whose climb is known. -/
theorem countries_climbed {fuel : Nat} {g : RegionGroup} {codes : List String}
    (hcodes : climbed groups fuel g = some codes) (ccs : List String)
    (m : OrderedMap String (OrderedSet String)) :
    ∃ m', ccs.foldlM (fun m cc => (climb (groupByCode groups) fuel g.groupCode
        ((m.get cc).getD .empty)).map (m.set cc)) m = some m' ∧
      (∀ cc, (m'.get cc).isSome ↔ (m.get cc).isSome ∨ cc ∈ ccs) ∧
      ∀ cc code, Collected m' cc code ↔ Collected m cc code ∨ (cc ∈ ccs ∧ code ∈ codes) := by
  induction ccs generalizing m with
  | nil => exact ⟨m, rfl, by simp, by simp⟩
  | cons cc ccs ih =>
    have hclimb : climb (groupByCode groups) fuel g.groupCode ((m.get cc).getD .empty) =
        some (codes.foldl .add ((m.get cc).getD .empty)) := by
      rw [climb_eq]
      exact congrArg (Option.map _) hcodes
    obtain ⟨m', hm', hsome, hmem⟩ := ih (m.set cc (codes.foldl .add ((m.get cc).getD .empty)))
    refine ⟨m', ?_, ?_, ?_⟩
    · rw [List.foldlM_cons, hclimb]
      exact hm'
    · intro cc'
      rw [hsome, (get_climbed codes cc cc').1, List.mem_cons, Bool.or_eq_true, decide_eq_true_iff,
        or_assoc]
    · intro cc' code
      rw [hmem, (get_climbed codes cc cc').2 code, List.mem_cons, or_and_right, or_assoc]

/-- The groups of a list whose climbs are known. -/
theorem regionCodes_climbed {fuel : Nat} (part : List RegionGroup)
    (hcodes : ∀ g ∈ part, g.countries ≠ [] → (climbed groups fuel g).isSome)
    (m : OrderedMap String (OrderedSet String)) :
    ∃ m', part.foldlM (fun m g => g.countries.foldlM (fun m cc =>
        (climb (groupByCode groups) fuel g.groupCode ((m.get cc).getD .empty)).map (m.set cc)) m) m
          = some m' ∧
      (∀ cc, (m'.get cc).isSome ↔ (m.get cc).isSome ∨ ∃ g ∈ part, cc ∈ g.countries) ∧
      ∀ cc code, Collected m' cc code ↔ Collected m cc code ∨
        ∃ g ∈ part, cc ∈ g.countries ∧ ∃ codes, climbed groups fuel g = some codes ∧
          code ∈ codes := by
  induction part generalizing m with
  | nil => exact ⟨m, rfl, by simp, by simp⟩
  | cons g rest ih =>
    have hrest := fun g' hg' => hcodes g' (List.mem_cons_of_mem g hg')
    by_cases hempty : g.countries = []
    · obtain ⟨m', hm', hsome, hmem⟩ := ih hrest m
      refine ⟨m', ?_, ?_, ?_⟩
      · rw [List.foldlM_cons, hempty]
        exact hm'
      · simpa [hempty] using hsome
      · simpa [hempty] using hmem
    · obtain ⟨codes, hg⟩ := Option.isSome_iff_exists.mp (hcodes g List.mem_cons_self hempty)
      obtain ⟨m₁, hm₁, hsome₁, hmem₁⟩ := countries_climbed hg g.countries m
      obtain ⟨m', hm', hsome, hmem⟩ := ih hrest m₁
      refine ⟨m', ?_, ?_, ?_⟩
      · rw [List.foldlM_cons, hm₁]
        exact hm'
      · intro cc
        rw [hsome, hsome₁]
        simp [or_assoc]
      · intro cc code
        rw [hmem, hmem₁]
        simp [or_assoc, hg]

/-! ## Where the climbs end -/

/-- **The condition on the rows**: no group with countries is on a way up to a cycle. -/
def ClimbsFree (groups : List RegionGroup) : Prop :=
  ∀ g ∈ groups, g.countries ≠ [] → ∀ c, truthy g.groupCode = some c →
    CycleFree (successors (nextCode groups)) c

theorem climbed_mono {m n : Nat} (h : m ≤ n) {g : RegionGroup}
    (hsome : (climbed groups m g).isSome) : (climbed groups n g).isSome := by
  obtain ⟨codes, hcodes⟩ := Option.isSome_iff_exists.mp hsome
  exact Option.isSome_iff_exists.mpr ⟨codes, chain_mono h hcodes⟩

/-- The loops return when the climbs do. -/
theorem regionCodes_isSome {fuel : Nat} :
    (regionCodes fuel groups).isSome ↔
      ∀ g ∈ groups, g.countries ≠ [] → (climbed groups fuel g).isSome := by
  refine foldlM_isSome (P := fun g => g.countries ≠ [] → (climbed groups fuel g).isSome) ?_
    groups (OrderedMap.empty : OrderedMap String (OrderedSet String))
  intro m g
  have hstep : ∀ (m : OrderedMap String (OrderedSet String)) (cc : String),
      ((climb (groupByCode groups) fuel g.groupCode ((m.get cc).getD .empty)).map (m.set cc)).isSome
        ↔ (climbed groups fuel g).isSome := by
    intro m cc
    rw [Option.isSome_map, climb_eq, Option.isSome_map]
    rfl
  rw [foldlM_isSome hstep]
  constructor
  · intro hall hne
    obtain ⟨cc, rest, hcc⟩ := List.exists_cons_of_ne_nil hne
    exact hall cc (hcc ▸ List.mem_cons_self)
  · intro h cc hcc
    exact h (List.ne_nil_of_mem hcc)

/-- The group that a code leads to. -/
theorem get_groupByCode_mem {code : Option String} {g : RegionGroup}
    (hget : (groupByCode groups).get code = some g) : g ∈ groups ∧ g.groupCode = code := by
  rw [groupByCode, OrderedMap.get_ofList] at hget
  obtain ⟨e, he, rfl⟩ := Option.map_eq_some_iff.mp hget
  have hkey : e.1 = code := by simpa using List.find?_some he
  have hmem := List.mem_reverse.mp (List.mem_of_find?_eq_some he)
  obtain ⟨g, hg, rfl⟩ := List.mem_map.mp hmem
  exact ⟨hg, hkey⟩

theorem nextCode_mem {a b : String} (h : b ∈ successors (nextCode groups) a) :
    b ∈ groups.filterMap RegionGroup.parent := by
  have hnext : nextCode groups a = some b := by simpa [successors] using h
  obtain ⟨hparent, hne⟩ := truthy_eq_some.mp hnext
  obtain ⟨g, hget, hcode⟩ := Option.bind_eq_some_iff.mp hparent
  exact List.mem_filterMap.mpr ⟨g, (get_groupByCode_mem hget).1, truthy_eq_some.mpr ⟨hcode, hne⟩⟩

/-- **The climbs end** exactly where none of them comes to a cycle. -/
theorem climbs_end_iff : (∃ fuel, (regionCodes fuel groups).isSome) ↔ ClimbsFree groups := by
  have hclimb : ∀ g, (∃ fuel, (climbed groups fuel g).isSome) ↔
      ∀ c, truthy g.groupCode = some c → CycleFree (successors (nextCode groups)) c := by
    intro g
    cases hcode : truthy g.groupCode with
    | none => simp [climbed, chain, hcode]
    | some c =>
      have hends : Ends (successors (nextCode groups)) c ↔
          CycleFree (successors (nextCode groups)) c :=
        ends_iff_cycleFree (groups.filterMap RegionGroup.parent) fun _ _ => nextCode_mem
      simpa [climbed, hcode] using chain_iff_ends.trans hends
  have hmono : ∀ m n g, m ≤ n → (g.countries ≠ [] → (climbed groups m g).isSome) →
      g.countries ≠ [] → (climbed groups n g).isSome :=
    fun m n g hmn h hne => climbed_mono hmn (h hne)
  simp only [regionCodes_isSome]
  rw [exists_fuel_forall hmono]
  refine forall₂_congr fun g _ => ?_
  constructor
  · rintro ⟨fuel, h⟩ hne
    exact (hclimb g).mp ⟨fuel, h hne⟩
  · intro h
    by_cases hempty : g.countries = []
    · exact ⟨0, fun hne => absurd hempty hne⟩
    · obtain ⟨fuel, hfuel⟩ := (hclimb g).mpr (h hempty)
      exact ⟨fuel, fun _ => hfuel⟩

/-- The join returns when its loops do. -/
theorem buildCountryJoin_isSome {fuel : Nat} (currencies : List Currency)
    (timezones : List Timezone) (languages : List Language) :
    (buildCountryJoin fuel groups currencies timezones languages).isSome ↔
      (regionCodes fuel groups).isSome := by
  rw [buildCountryJoin, Option.isSome_map]

end Climb

/-! ## The join of a hierarchy -/

section Hierarchy
variable {groups : List RegionGroup}

/-- The group contains the country, itself or through a group below it. -/
def Contains (groups : List RegionGroup) (g : RegionGroup) (cc : String) : Prop :=
  ∃ member ∈ groups, cc ∈ member.regionCodes.getD [] ∧ ∃ c above, member.groupCode = some c ∧
    g.groupCode = some above ∧ Relation.ReflTransGen (ParentCode groups) c above

/-- What a group is called. -/
inductive NamedBy (g : RegionGroup) : String → Prop
  | name {name : String} : g.name = some name → NamedBy g name
  | code {code : String} : g.name = none → g.groupCode = some code → NamedBy g code
  | nothing : g.name = none → g.groupCode = none → NamedBy g ""

theorem namedBy_displayName (g : RegionGroup) : NamedBy g g.displayName := by
  obtain ⟨code, parent, countries, name⟩ := g
  cases name with
  | some name => exact .name rfl
  | none =>
    cases code with
    | some code => exact .code rfl rfl
    | none => exact .nothing rfl rfl

/-- **The guarantee**: the join is the relation between countries and rows. -/
structure JoinSpec (groups : List RegionGroup) (currencies : List Currency)
    (timezones : List Timezone) (join : CountryJoin) : Prop where
  /-- The chain of a country is the list of its groups, with the others left out, each by its
  name, or by its code where it has none. -/
  regionChain : ∀ cc, (∃ g ∈ groups, cc ∈ g.regionCodes.getD []) →
    ∃ named : List RegionGroup, named.Sublist groups ∧
      (∀ g, g ∈ named ↔ g ∈ groups ∧ Contains groups g cc) ∧
      ∃ shown, join.regionChain.get cc = some shown ∧ List.Forall₂ NamedBy named shown
  noChain : ∀ cc, (¬ ∃ g ∈ groups, cc ∈ g.regionCodes.getD []) → join.regionChain.get cc = none
  currenciesOf : ∀ cc, join.currenciesOf.get cc =
    if ∃ c ∈ currencies, cc ∈ c.regionCodes.getD [] then
      some (currencies.flatMap fun c => List.replicate ((c.regionCodes.getD []).count cc) c)
    else none
  timezonesOf : ∀ cc, join.timezonesOf.get cc =
    if ∃ t ∈ timezones, cc ∈ t.regionCodes.getD [] then
      some (timezones.flatMap fun t => List.replicate ((t.regionCodes.getD []).count cc) t)
    else none

/-- A code leads to its one group. -/
theorem Forest.get_groupByCode (h : Forest groups) {g : RegionGroup} (hg : g ∈ groups) :
    (groupByCode groups).get g.groupCode = some g := by
  have hkeys : ((groups.map fun g => (g.groupCode, g)).map Prod.fst).Nodup := by
    rw [List.map_map]
    exact h.distinct
  have hsome : ((groups.map fun g => (g.groupCode, g)).find?
      fun e => decide (e.1 = g.groupCode)).isSome :=
    List.find?_isSome.mpr ⟨(g.groupCode, g), List.mem_map_of_mem hg, by simp⟩
  obtain ⟨e, he⟩ := Option.isSome_iff_exists.mp hsome
  have hcode : e.1 = g.groupCode := by simpa using List.find?_some he
  obtain ⟨g', hg', rfl⟩ := List.mem_map.mp (List.mem_of_find?_eq_some he)
  obtain rfl := h.eq_of_code hg' hg hcode
  rw [groupByCode, OrderedMap.get_ofList, OrderedMap.find?_key_reverse hkeys, he]
  rfl

/-- The climb goes along the parent links. -/
theorem Forest.follows_iff (h : Forest groups) {c p : String} :
    Follows (successors (nextCode groups)) c p ↔ ParentCode groups c p := by
  have hnext : Follows (successors (nextCode groups)) c p ↔ nextCode groups c = some p := by
    simp [Follows, successors]
  rw [hnext]
  constructor
  · intro hp
    obtain ⟨hparent, hne⟩ := truthy_eq_some.mp hp
    obtain ⟨g, hget, hcode⟩ := Option.bind_eq_some_iff.mp hparent
    obtain ⟨hg, hkey⟩ := get_groupByCode_mem hget
    exact ⟨g, hg, hkey, truthy_eq_some.mpr ⟨hcode, hne⟩⟩
  · rintro ⟨g, hg, hc, hp⟩
    rw [nextCode, parentOf, ← hc, h.get_groupByCode hg]
    exact hp

theorem Forest.follows_eq (h : Forest groups) :
    Follows (successors (nextCode groups)) = ParentCode groups := by
  funext c p
  exact propext h.follows_iff

theorem Forest.climbsFree (h : Forest groups) : ClimbsFree groups := by
  intro g _ _ c _
  rw [CycleFree, h.follows_eq]
  exact fun c' _ => h.acyclic c'

/-- What the loops have collected for a country. -/
theorem Forest.collected_iff (h : Forest groups) {fuel : Nat}
    (hfuel : (regionCodes fuel groups).isSome) :
    ∃ codes, regionCodes fuel groups = some codes ∧
      (∀ cc, (codes.get cc).isSome ↔ ∃ g ∈ groups, cc ∈ g.countries) ∧
      ∀ cc, ∀ g ∈ groups, Collected codes cc (g.groupCode.getD "") ↔ Contains groups g cc := by
  obtain ⟨codes, hcodes, hsome, hmem⟩ :=
    regionCodes_climbed groups (regionCodes_isSome.mp hfuel) .empty
  refine ⟨codes, hcodes, by simpa using hsome, ?_⟩
  intro cc g hg
  obtain ⟨above, habove, -⟩ := h.coded g hg
  rw [hmem, habove, Option.getD_some]
  simp only [Collected, OrderedMap.get_empty, reduceCtorEq, false_and, exists_false, false_or]
  refine exists_congr fun member => and_congr_right fun hmember => and_congr_right fun hcc => ?_
  obtain ⟨c, hc, hne⟩ := h.coded member hmember
  have hstart : truthy member.groupCode = some c := truthy_eq_some.mpr ⟨hc, hne⟩
  constructor
  · rintro ⟨path, hpath, hin⟩
    rw [climbed, hstart] at hpath
    refine ⟨c, above, hc, habove, ?_⟩
    rw [← h.follows_eq]
    exact (mem_chain hpath).mp hin
  · rintro ⟨c', above', hc', habove', hreach⟩
    obtain rfl : c = c' := Option.some.inj (hc.symm.trans hc')
    obtain rfl : above = above' := Option.some.inj (habove.symm.trans habove')
    obtain ⟨path, hpath⟩ := Option.isSome_iff_exists.mp
      (regionCodes_isSome.mp hfuel member hmember (List.ne_nil_of_mem hcc))
    refine ⟨path, hpath, ?_⟩
    rw [climbed, hstart] at hpath
    rw [mem_chain hpath, h.follows_eq]
    exact hreach

/-- **The country join of a hierarchy**: the loops return, and whatever fuel they return
with, the join is the relation between the countries and the rows. -/
theorem country_join (h : Forest groups) (currencies : List Currency)
    (timezones : List Timezone) (languages : List Language) :
    ∃ enough, ∀ fuel, enough ≤ fuel → ∃ join,
      buildCountryJoin fuel groups currencies timezones languages = some join ∧
        JoinSpec groups currencies timezones join := by
  obtain ⟨enough, henough⟩ := climbs_end_iff.mpr h.climbsFree
  refine ⟨enough, fun fuel hle => ?_⟩
  have hfuel : (regionCodes fuel groups).isSome :=
    regionCodes_isSome.mpr fun g hg hne => climbed_mono hle (regionCodes_isSome.mp henough g hg hne)
  obtain ⟨codes, hcodes, hsome, hmem⟩ := h.collected_iff hfuel
  refine ⟨_, by rw [buildCountryJoin, hcodes, Option.map_some], ?_⟩
  constructor
  case regionChain =>
    intro cc hcc
    obtain ⟨set, hset⟩ := Option.isSome_iff_exists.mp ((hsome cc).mpr hcc)
    refine ⟨groups.filter fun g => decide (g.groupCode.getD "" ∈ set), List.filter_sublist, ?_, ?_⟩
    · intro g
      rw [List.mem_filter, decide_eq_true_iff]
      refine and_congr_right fun hg => ?_
      rw [← hmem cc g hg, Collected, hset]
      simp
    · refine ⟨chainOf groups set, ?_, ?_⟩
      · show (regionChains groups codes).get cc = _
        rw [regionChains, OrderedMap.get_ofList_map, hset]
        rfl
      · rw [chainOf, List.forall₂_map_right_iff, List.forall₂_same]
        exact fun g _ => namedBy_displayName g
  case noChain =>
    intro cc hcc
    have hnone : codes.get cc = none := by
      rw [← Option.not_isSome_iff_eq_none, hsome]
      exact hcc
    show (regionChains groups codes).get cc = none
    rw [regionChains, OrderedMap.get_ofList_map, hnone]
    rfl
  case currenciesOf => exact fun cc => OrderedMap.get_groupBy _ currencies cc
  case timezonesOf => exact fun cc => OrderedMap.get_groupBy _ timezones cc

theorem country_join_asia : Forest asia ∧ ∃ enough, ∀ fuel, enough ≤ fuel → ∃ join,
    buildCountryJoin fuel asia [] [] [] = some join ∧ JoinSpec asia [] [] join :=
  ⟨asia_forest, country_join asia_forest [] [] []⟩

end Hierarchy
end Testkit
