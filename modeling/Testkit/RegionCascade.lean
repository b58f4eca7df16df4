import Testkit.CountryJoin

/-! # The cascade of the reference examples

`cascadeOptions` turns the rows of region groups into the tree of a cascading select: the
groups are collected under their parents' codes, and the tree is built from the code `""`
down.  A row without a parent code counts as one of parent `""`, which makes it a root; a
row without a code of its own has code `""` too, which makes the root its child.

`cascade_tree` says what the tree is for the rows of a hierarchy, and `walks_end_iff` for
which rows the build and the climb of the country join come to an end.
-/
namespace Testkit
open InsertionOrder FiniteDescent

/-- An option of the select, with the options below it. -/
inductive CascadeOption where
  | node (value label : Option String) (children : List CascadeOption)
  deriving Repr

namespace CascadeOption

def children : CascadeOption → List CascadeOption
  | node _ _ below => below

def value : CascadeOption → Option String
  | node value _ _ => value

/-- What an option shows of its group. -/
def key : CascadeOption → Option String × Option String
  | node value label _ => (value, label)

mutual

/-- An option and all options below it. -/
def nodes : CascadeOption → List CascadeOption
  | node value label below => node value label below :: nodesOf below

/-- The options of some trees. -/
def nodesOf : List CascadeOption → List CascadeOption
  | [] => []
  | o :: os => nodes o ++ nodesOf os

end

theorem nodesOf_eq (os : List CascadeOption) : nodesOf os = (os.map nodes).flatten := by
  induction os with
  | nil => rw [nodesOf, List.map_nil, List.flatten_nil]
  | cons o os ih => rw [nodesOf, ih, List.map_cons, List.flatten_cons]

end CascadeOption

/-- The groups under their parents' codes. -/
def byParent (groups : List RegionGroup) : OrderedMap String (List RegionGroup) :=
  OrderedMap.groupBy (fun g => [g.parentCode.getD ""]) groups

/-- `byParent.get(parent) ?? []`. -/
def rowsUnder (groups : List RegionGroup) (parent : String) : List RegionGroup :=
  ((byParent groups).get parent).getD []

/-- `g.groupCode ?? ""`. -/
def RegionGroup.code (g : RegionGroup) : String := g.groupCode.getD ""

/-- `build`. -/
def build (groups : List RegionGroup) : Nat → String → Option (List CascadeOption)
  | 0, _ => none
  | fuel + 1, parent => (rowsUnder groups parent).mapM fun g =>
    (build groups fuel g.code).map (CascadeOption.node g.groupCode g.name)

/-- `cascadeOptions`. -/
def cascadeOptions (fuel : Nat) (groups : List RegionGroup) : Option (List CascadeOption) :=
  build groups fuel ""

section Rows
variable (groups : List RegionGroup)

theorem build_eq (fuel : Nat) (parent : String) :
    build groups fuel parent = unfold (rowsUnder groups) RegionGroup.code
      (fun g => CascadeOption.node g.groupCode g.name) fuel parent := by
  induction fuel generalizing parent with
  | zero => rfl
  | succ fuel ih => simp only [build, unfold, ih]

theorem rowsUnder_eq (parent : String) :
    rowsUnder groups parent = groups.filter fun g => g.parentCode.getD "" = parent := by
  have hrow : (fun g : RegionGroup => List.replicate ([g.parentCode.getD ""].count parent) g) =
      fun g => if g.parentCode.getD "" = parent then [g] else [] := by
    funext g
    by_cases hg : g.parentCode.getD "" = parent <;> simp [hg]
  have hrows : (groups.flatMap fun g => if g.parentCode.getD "" = parent then [g] else []) =
      groups.filter fun g => g.parentCode.getD "" = parent := by
    induction groups with
    | nil => rfl
    | cons g rest ih =>
      rw [List.flatMap_cons, ih, List.filter_cons]
      by_cases hg : g.parentCode.getD "" = parent <;> simp [hg]
  rw [rowsUnder, byParent, OrderedMap.get_groupBy, hrow, hrows]
  split
  · rfl
  · rename_i hnone
    refine (List.filter_eq_nil_iff.mpr fun g hg => ?_).symm
    intro hparent
    exact hnone ⟨g, hg, by simpa [eq_comm] using hparent⟩

/-! ## Where the walks end -/

/-- A row of code `c` has the parent code `p`, where a code that is absent is `""`. -/
def Child (p c : String) : Prop :=
  ∃ g ∈ groups, g.parentCode.getD "" = p ∧ g.code = c

/-- **The condition on the rows**: no cycle of rows can be reached from the root. -/
def CascadeFree : Prop :=
  ∀ c, Relation.ReflTransGen (Child groups) "" c → ¬ Relation.TransGen (Child groups) c c

variable {groups}

theorem follows_child :
    Follows (targets (rowsUnder groups) RegionGroup.code) = Child groups := by
  funext p c
  refine propext ?_
  rw [Follows, targets, rowsUnder_eq, List.mem_map]
  refine exists_congr fun g => ?_
  rw [List.mem_filter, decide_eq_true_iff, and_assoc]

theorem targets_mem (p c : String) (h : c ∈ targets (rowsUnder groups) RegionGroup.code p) :
    c ∈ groups.map RegionGroup.code := by
  obtain ⟨g, hg, rfl⟩ := List.mem_map.mp h
  rw [rowsUnder_eq] at hg
  exact List.mem_map_of_mem (List.mem_of_mem_filter hg)

/-- **The build ends** exactly where the root leads to no cycle. -/
theorem cascade_ends_iff : (∃ fuel, (cascadeOptions fuel groups).isSome) ↔ CascadeFree groups := by
  have hends := ends_iff_cycleFree (a := "") (groups.map RegionGroup.code) targets_mem
  rw [CycleFree, follows_child] at hends
  simp only [cascadeOptions, build_eq]
  exact unfold_iff_ends.trans hends

/-- **The walks over the directory end** exactly on the rows without the two kinds of
cycles. -/
theorem walks_end_iff (groups : List RegionGroup) (currencies : List Currency)
    (timezones : List Timezone) (languages : List Language) :
    ((∃ fuel, (buildCountryJoin fuel groups currencies timezones languages).isSome) ∧
        ∃ fuel, (cascadeOptions fuel groups).isSome) ↔
      ClimbsFree groups ∧ CascadeFree groups := by
  rw [cascade_ends_iff, ← climbs_end_iff]
  simp only [buildCountryJoin_isSome]

/-- A group that is its own parent, and a group without a code. -/
def malformed (countries : Option (List String)) (code : Option String) : RegionGroup :=
  { groupCode := code, parentCode := code, regionCodes := countries, name := none }

/-- The climb from a country of the first and the build of the second do not end. -/
theorem walks_end_malformed :
    (¬ ∃ fuel, (buildCountryJoin fuel [malformed (some ["CN"]) (some "A")] [] [] []).isSome) ∧
      ¬ ∃ fuel, (cascadeOptions fuel [malformed none none]).isSome := by
  constructor
  · simp only [buildCountryJoin_isSome]
    rw [climbs_end_iff]
    intro hfree
    have hself : "A" ∈ successors (nextCode [malformed (some ["CN"]) (some "A")]) "A" := by
      decide
    exact hfree _ List.mem_cons_self (by decide) "A" (by decide) "A" .refl (.single hself)
  · rw [cascade_ends_iff]
    intro hfree
    have hself : Child [malformed none none] "" "" := ⟨_, List.mem_cons_self, rfl, rfl⟩
    exact hfree "" .refl (.single hself)

end Rows

/-! ## The tree of a hierarchy -/

section Tree
variable {groups : List RegionGroup}

/-- What is shown of a group. -/
def RegionGroup.key (g : RegionGroup) : Option String × Option String := (g.groupCode, g.name)

/-- **The guarantee**: the tree holds every group once, the groups without a parent at the
top and the others below their parents, in the order of the rows. -/
structure CascadeSpec (groups : List RegionGroup) (options : List CascadeOption) : Prop where
  once : ((CascadeOption.nodesOf options).map CascadeOption.key).Perm
    (groups.map RegionGroup.key)
  topLevel : options.map CascadeOption.key =
    (groups.filter fun g => g.parent = none).map RegionGroup.key
  children : ∀ o ∈ CascadeOption.nodesOf options, o.children.map CascadeOption.key =
    (groups.filter fun g => g.parent = o.value).map RegionGroup.key

/-- Every parent code is the code of a group. -/
def Linked (groups : List RegionGroup) : Prop :=
  ∀ g ∈ groups, ∀ p, g.parent = some p → ∃ parent ∈ groups, parent.groupCode = some p

theorem Forest.code_eq (h : Forest groups) {g : RegionGroup} (hg : g ∈ groups) :
    g.groupCode = some g.code ∧ g.code ≠ "" := by
  obtain ⟨c, hc, hne⟩ := h.coded g hg
  rw [RegionGroup.code, hc]
  exact ⟨rfl, hne⟩

/-- The rows under the code of a group are its children. -/
theorem rowsUnder_code (groups : List RegionGroup) {c : String} (hne : c ≠ "") :
    rowsUnder groups c = groups.filter fun g => g.parent = some c := by
  rw [rowsUnder_eq]
  refine List.filter_congr fun g _ => ?_
  refine decide_eq_decide.mpr ?_
  rw [RegionGroup.parent, truthy_eq_some]
  cases g.parentCode with
  | none => simp [hne.symm]
  | some p => simp [hne]

/-- The rows under `""` are the groups without a parent. -/
theorem rowsUnder_root (groups : List RegionGroup) :
    rowsUnder groups "" = groups.filter fun g => g.parent = none := by
  rw [rowsUnder_eq]
  exact List.filter_congr fun g _ => decide_eq_decide.mpr truthy_eq_none.symm

/-- A way down from a group is a way of parent codes up. -/
theorem Forest.child_parentCode (h : Forest groups) {p c : String} (hp : p ≠ "")
    (hchild : Child groups p c) : ParentCode groups c p := by
  obtain ⟨g, hg, hparent, rfl⟩ := hchild
  refine ⟨g, hg, (h.code_eq hg).1, ?_⟩
  have hrow : g ∈ rowsUnder groups p := by simp [rowsUnder_eq, hg, hparent]
  rw [rowsUnder_code groups hp] at hrow
  exact of_decide_eq_true (List.mem_filter.mp hrow).2

theorem Forest.child_ne (h : Forest groups) {p c : String} (hchild : Child groups p c) :
    c ≠ "" := by
  obtain ⟨g, hg, -, rfl⟩ := hchild
  exact (h.code_eq hg).2

theorem Forest.cascadeFree (h : Forest groups) : CascadeFree groups := by
  have hup : ∀ p c, p ≠ "" → Relation.TransGen (Child groups) p c →
      Relation.TransGen (ParentCode groups) c p := by
    intro p c hp hdown
    induction hdown with
    | single hstep => exact .single (h.child_parentCode hp hstep)
    | tail hdown hstep ih =>
      obtain ⟨_, -, hlast⟩ := Relation.TransGen.tail'_iff.mp hdown
      exact .head (h.child_parentCode (h.child_ne hlast) hstep) ih
  intro c _ hcycle
  obtain ⟨_, -, hlast⟩ := Relation.TransGen.tail'_iff.mp hcycle
  exact h.acyclic c (hup c c (h.child_ne hlast) hcycle)

/-- Every group is under one code, and its code is its own. -/
theorem Forest.rooted (h : Forest groups) : Rooted (rowsUnder groups) RegionGroup.code := by
  intro v w i j hi hj hcode
  rw [rowsUnder_eq, List.mem_filter, decide_eq_true_iff] at hi hj
  obtain rfl : i = j := by
    refine h.eq_of_code hi.1 hj.1 ?_
    rw [(h.code_eq hi.1).1, (h.code_eq hj.1).1, hcode]
  exact ⟨hi.2.symm.trans hj.2, rfl⟩

/-- Every group can be reached from the root. -/
theorem Forest.reached (h : Forest groups) (hlinked : Linked groups) {g : RegionGroup}
    (hg : g ∈ groups) : Relation.ReflTransGen (Child groups) "" (g.parentCode.getD "") := by
  have hends : Ends (successors (nextCode groups)) g.code := by
    refine CycleFree.ends ?_ (groups.filterMap RegionGroup.parent) fun _ _ => nextCode_mem
    rw [CycleFree, h.follows_eq]
    exact fun c _ => h.acyclic c
  generalize hcode : g.code = c at hends
  induction hends generalizing g with
  | intro c _ ih =>
    cases hparent : g.parent with
    | none =>
      rw [truthy_eq_none.mp hparent]
    | some p =>
      obtain ⟨parent, hmem, hp⟩ := hlinked g hg p hparent
      have hpcode : parent.code = p := by rw [RegionGroup.code, hp, Option.getD_some]
      have hup : ParentCode groups c p := ⟨g, hg, hcode ▸ (h.code_eq hg).1, hparent⟩
      have hdown := ih p (h.follows_iff.mpr hup) hmem hpcode
      rw [(truthy_eq_some.mp hparent).1, Option.getD_some]
      exact hdown.tail ⟨parent, hmem, rfl, hpcode⟩

/-- The options in order are the groups of the preorder. -/
theorem nodes_preorder (groups : List RegionGroup) (fuel : Nat) (parent : String) :
    (build groups fuel parent).map (fun os => (CascadeOption.nodesOf os).map CascadeOption.key) =
      (preorder (rowsUnder groups) RegionGroup.code fuel parent).map
        (List.map RegionGroup.key) := by
  have hoptions : unfold (rowsUnder groups) RegionGroup.code
      (fun g below => g.key :: below.flatten) fuel parent =
        (build groups fuel parent).map (List.map fun o => o.nodes.map CascadeOption.key) := by
    rw [build_eq]
    refine unfold_map (fun g ts => ?_) fuel parent
    simp [CascadeOption.nodes, CascadeOption.nodesOf_eq, List.map_flatten, CascadeOption.key,
      RegionGroup.key, Function.comp_def]
  have hgroups : unfold (rowsUnder groups) RegionGroup.code
      (fun g below => g.key :: below.flatten) fuel parent =
        (unfold (rowsUnder groups) RegionGroup.code
          (fun g (below : List (List RegionGroup)) => g :: below.flatten) fuel parent).map
            (List.map (List.map RegionGroup.key)) := by
    refine unfold_map (fun g ts => ?_) fuel parent
    simp [List.map_flatten]
  have heq := congrArg (Option.map List.flatten) (hoptions.symm.trans hgroups)
  rw [Option.map_map, Option.map_map] at heq
  rw [preorder, Option.map_map]
  refine Eq.trans ?_ (heq.trans ?_)
  · refine congrArg (Option.map · _) (funext fun os => ?_)
    simp [CascadeOption.nodesOf_eq, List.map_flatten, Function.comp_def]
  · refine congrArg (Option.map · _) (funext fun l => ?_)
    simp [List.map_flatten]

/-- Every option has the rows under its group's code below it. -/
theorem build_children {fuel : Nat} {parent : String} {os : List CascadeOption}
    (hos : build groups fuel parent = some os) :
    os.map CascadeOption.key = (rowsUnder groups parent).map RegionGroup.key ∧
      ∀ o ∈ CascadeOption.nodesOf os, ∃ g ∈ groups, o.value = g.groupCode ∧
        o.children.map CascadeOption.key = (rowsUnder groups g.code).map RegionGroup.key := by
  induction fuel generalizing parent os with
  | zero => cases hos
  | succ fuel ih =>
    rw [build_eq, unfold_succ] at hos
    simp only [← build_eq] at hos
    constructor
    · have hkeys : List.Forall₂ (· = ·) ((rowsUnder groups parent).map RegionGroup.key)
          (os.map CascadeOption.key) := by
        rw [List.forall₂_map_left_iff, List.forall₂_map_right_iff]
        refine hos.imp ?_
        rintro g _ ⟨below, -, rfl⟩
        rfl
      rw [List.forall₂_eq_eq_eq] at hkeys
      exact hkeys.symm
    · intro o ho
      rw [CascadeOption.nodesOf_eq, List.mem_flatten] at ho
      obtain ⟨_, htree, ho⟩ := ho
      obtain ⟨top, htop, rfl⟩ := List.mem_map.mp htree
      obtain ⟨g, hg, below, hbelow, rfl⟩ := exists_left_of_mem hos htop
      obtain ⟨hkeys, hnodes⟩ := ih hbelow
      rw [CascadeOption.nodes, List.mem_cons] at ho
      rcases ho with rfl | ho
      · rw [rowsUnder_eq] at hg
        exact ⟨g, List.mem_of_mem_filter hg, rfl, hkeys⟩
      · exact hnodes o ho

/-- **The cascade of a hierarchy**: the build returns, and whatever fuel it returns with,
the tree is the forest of the groups. -/
theorem cascade_tree (h : Forest groups) (hlinked : Linked groups) :
    ∃ enough, ∀ fuel, enough ≤ fuel → ∃ options,
      cascadeOptions fuel groups = some options ∧ CascadeSpec groups options := by
  obtain ⟨enough, henough⟩ := cascade_ends_iff.mpr h.cascadeFree
  obtain ⟨options, hoptions⟩ := Option.isSome_iff_exists.mp henough
  refine ⟨enough, fun fuel hle => ⟨options, ?_, ?_⟩⟩
  · rw [cascadeOptions, build_eq] at hoptions ⊢
    exact unfold_mono hle hoptions
  rw [cascadeOptions] at hoptions
  obtain ⟨hkeys, hnodes⟩ := build_children hoptions
  constructor
  case once =>
    have hpre := nodes_preorder groups enough ""
    rw [hoptions, Option.map_some] at hpre
    obtain ⟨l, hl, hlkeys⟩ := Option.map_eq_some_iff.mp hpre.symm
    rw [← hlkeys]
    refine List.Perm.map _ ((List.perm_ext_iff_of_nodup ?_ h.nodup).mpr fun g => ?_)
    · refine h.rooted.preorder_nodup (fun v => ?_) hl
      rw [rowsUnder_eq]
      exact h.nodup.filter _
    · rw [mem_preorder hl, follows_child]
      constructor
      · rintro ⟨w, -, hg⟩
        rw [rowsUnder_eq] at hg
        exact List.mem_of_mem_filter hg
      · intro hg
        exact ⟨_, h.reached hlinked hg, by simp [rowsUnder_eq, hg]⟩
  case topLevel => rw [hkeys, rowsUnder_root]
  case children =>
    intro o ho
    obtain ⟨g, hg, hvalue, hbelow⟩ := hnodes o ho
    obtain ⟨hcode, hne⟩ := h.code_eq hg
    rw [hbelow, hvalue, hcode, rowsUnder_code groups hne]

theorem cascade_tree_asia : Forest asia ∧ Linked asia ∧ ∃ enough, ∀ fuel, enough ≤ fuel →
    ∃ options, cascadeOptions fuel asia = some options ∧ CascadeSpec asia options := by
  have hlinked : Linked asia := by
    intro g hg p hp
    have hparent : ParentCode asia g.code p := ⟨g, hg, (asia_forest.code_eq hg).1, hp⟩
    obtain ⟨-, rfl⟩ := asia_parentCode hparent
    exact ⟨_, List.mem_cons_self, rfl⟩
  exact ⟨asia_forest, hlinked, cascade_tree asia_forest hlinked⟩

end Tree
end Testkit
