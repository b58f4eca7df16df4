import Mathlib.Data.Fintype.Card
import Mathlib.Data.List.Forall2
import Mathlib.Data.Set.Finite.List
import Mathlib.Logic.Relation

/-! # Walks over finite graphs, and recursion along them

A graph is given by the vertices that come next after each one.  A program that follows it
without looking back ends on the vertices from which every walk ends (`Ends`); where the
graph is finite these are the vertices from which no cycle can be reached
(`ends_iff_cycleFree`).

Such a program is written here with fuel, as a climb along single successors (`chain`) or
as a recursion over all of them (`unfold`): with enough fuel it returns exactly on the
vertices with `Ends`, and more fuel changes nothing.  The recursion builds trees; their
items in order are the `preorder`, which holds what can be reached (`mem_preorder`), and
holds it once where the graph is a forest (`preorder_nodup`).
-/
namespace FiniteDescent
variable {V : Type*}

/-- `b` comes next after `a`. -/
def Follows (next : V → List V) (a b : V) : Prop := b ∈ next a

/-- Every walk from `a` ends. -/
def Ends (next : V → List V) (a : V) : Prop := Acc (fun b a => Follows next a b) a

/-- No walk from `a` comes to a cycle. -/
def CycleFree (next : V → List V) (a : V) : Prop :=
  ∀ c, Relation.ReflTransGen (Follows next) a c → ¬ Relation.TransGen (Follows next) c c

section Ends
variable {next : V → List V} {a b : V}

theorem Ends.intro (h : ∀ b ∈ next a, Ends next b) : Ends next a := Acc.intro a h

theorem Ends.reach (h : Ends next a) (hreach : Relation.ReflTransGen (Follows next) a b) :
    Ends next b := by
  induction hreach with
  | refl => exact h
  | tail _ hstep ih => exact ih.inv hstep

/-- A vertex of a cycle has a walk that does not end. -/
theorem Ends.not_cycle (h : Ends next a) : ¬ Relation.TransGen (Follows next) a a := by
  induction h with
  | intro a _ ih =>
    intro hcycle
    obtain ⟨b, hab, hba⟩ := Relation.TransGen.head'_iff.mp hcycle
    exact ih b hab (Relation.TransGen.tail' hba hab)

theorem Ends.cycleFree (h : Ends next a) : CycleFree next a :=
  fun _ hreach => (h.reach hreach).not_cycle

/-- In a finite graph a walk that meets no cycle ends. -/
theorem CycleFree.ends (h : CycleFree next a) (vertices : List V)
    (hfinite : ∀ a b, b ∈ next a → b ∈ vertices) : Ends next a := by
  let Reached := {v // Relation.ReflTransGen (Follows next) a v}
  have hreached : {v | Relation.ReflTransGen (Follows next) a v} ⊆ {v | v ∈ a :: vertices} := by
    intro v hv
    rcases Relation.ReflTransGen.cases_tail hv with rfl | ⟨u, -, huv⟩
    · exact List.mem_cons_self
    · exact List.mem_cons_of_mem _ (hfinite u v huv)
  have : Finite Reached := ((List.finite_toSet (a :: vertices)).subset hreached).to_subtype
  let below : Reached → Reached → Prop :=
    fun x y => Relation.TransGen (Follows next) y.1 x.1
  have : IsTrans Reached below := ⟨fun x y z hxy hyz => hyz.trans hxy⟩
  have : Std.Irrefl below := ⟨fun x hx => h x.1 x.2 hx⟩
  have hwf : WellFounded below := Finite.wellFounded_of_trans_of_irrefl below
  suffices hall : ∀ x : Reached, Ends next x.1 from hall ⟨a, .refl⟩
  intro x
  induction x using hwf.induction with
  | h x ih =>
    refine Ends.intro fun b hb => ?_
    exact ih ⟨b, x.2.tail hb⟩ (.single hb)

/-- **Walks end where there is no cycle**, in a finite graph. -/
theorem ends_iff_cycleFree (vertices : List V) (hfinite : ∀ a b, b ∈ next a → b ∈ vertices) :
    Ends next a ↔ CycleFree next a :=
  ⟨Ends.cycleFree, fun h => h.ends vertices hfinite⟩

end Ends

/-- Fuel that is enough for every item of a list. -/
theorem exists_fuel_forall {I : Type*} {P : Nat → I → Prop}
    (hmono : ∀ m n i, m ≤ n → P m i → P n i) (l : List I) :
    (∃ fuel, ∀ i ∈ l, P fuel i) ↔ ∀ i ∈ l, ∃ fuel, P fuel i := by
  constructor
  · rintro ⟨fuel, h⟩ i hi
    exact ⟨fuel, h i hi⟩
  · intro h
    induction l with
    | nil => exact ⟨0, by simp⟩
    | cons i l ih =>
      obtain ⟨m, hm⟩ := h i List.mem_cons_self
      obtain ⟨n, hn⟩ := ih fun j hj => h j (List.mem_cons_of_mem _ hj)
      refine ⟨max m n, ?_⟩
      intro j hj
      rcases List.mem_cons.mp hj with rfl | hj
      · exact hmono m _ j (Nat.le_max_left m n) hm
      · exact hmono n _ j (Nat.le_max_right m n) (hn j hj)

/-- A loop whose steps return or not whatever came before them. -/
theorem foldlM_isSome {I B : Type*} {f : B → I → Option B} {P : I → Prop}
    (h : ∀ b i, (f b i).isSome ↔ P i) (l : List I) (b : B) :
    (l.foldlM f b).isSome ↔ ∀ i ∈ l, P i := by
  induction l generalizing b with
  | nil => simp
  | cons i l ih =>
    rw [List.forall_mem_cons, ← h b i]
    cases hi : f b i with
    | none => simp [hi]
    | some b' => simp [hi, ih]

/-! ## A climb -/

section Chain
variable (next : V → Option V)

/-- The vertices of a climb, until there is no next one. -/
def chain : Nat → Option V → Option (List V)
  | _, none => some []
  | 0, some _ => none
  | fuel + 1, some v => (chain fuel (next v)).map (v :: ·)

/-- The same climb as a graph. -/
def successors (v : V) : List V := (next v).toList

variable {next}

theorem chain_mono {m n : Nat} (h : m ≤ n) {v : Option V} {l : List V}
    (hl : chain next m v = some l) : chain next n v = some l := by
  induction m generalizing n v l with
  | zero =>
    cases v with
    | none => simpa [chain] using hl
    | some v => cases hl
  | succ m ih =>
    cases v with
    | none => simpa [chain] using hl
    | some v =>
      obtain ⟨n, rfl⟩ : ∃ k, n = k + 1 := ⟨n - 1, by omega⟩
      obtain ⟨rest, hrest, rfl⟩ := Option.map_eq_some_iff.mp hl
      have hmore := ih (by omega : m ≤ n) hrest
      rw [chain, hmore]
      rfl

/-- A climb passes the vertices that can be reached. -/
theorem mem_chain {fuel : Nat} {v : V} {l : List V} (hl : chain next fuel (some v) = some l)
    {x : V} : x ∈ l ↔ Relation.ReflTransGen (Follows (successors next)) v x := by
  induction fuel generalizing v l with
  | zero => cases hl
  | succ fuel ih =>
    obtain ⟨rest, hrest, rfl⟩ := Option.map_eq_some_iff.mp hl
    rw [List.mem_cons, Relation.ReflTransGen.cases_head_iff]
    refine or_congr eq_comm ?_
    cases hnext : next v with
    | none =>
      rw [hnext, chain] at hrest
      obtain rfl := Option.some.inj hrest
      simp [Follows, successors, hnext]
    | some w =>
      rw [hnext] at hrest
      simp [ih hrest, Follows, successors, hnext]

/-- **A climb returns** exactly where it ends. -/
theorem chain_iff_ends {v : V} :
    (∃ fuel, (chain next fuel (some v)).isSome) ↔ Ends (successors next) v := by
  constructor
  · rintro ⟨fuel, hsome⟩
    induction fuel generalizing v with
    | zero => cases hsome
    | succ fuel ih =>
      refine Ends.intro fun b hb => ?_
      have hnext : next v = some b := by simpa [successors] using hb
      refine ih ?_
      rw [chain, Option.isSome_map, hnext] at hsome
      exact hsome
  · intro h
    induction h with
    | intro v _ ih =>
      cases hnext : next v with
      | none => exact ⟨1, by simp [chain, hnext]⟩
      | some w =>
        obtain ⟨fuel, hfuel⟩ := ih w (by simp [Follows, successors, hnext])
        refine ⟨fuel + 1, ?_⟩
        rw [chain, Option.isSome_map, hnext]
        exact hfuel

end Chain

/-! ## A recursion over all successors -/

theorem mapM_eq_some_iff {I T : Type*} {f : I → Option T} {l : List I} {ts : List T} :
    l.mapM f = some ts ↔ List.Forall₂ (fun i t => f i = some t) l ts := by
  induction l generalizing ts with
  | nil => cases ts <;> simp
  | cons i l ih =>
    cases hi : f i with
    | none => cases ts <;> simp [hi]
    | some t =>
      cases hl : l.mapM f with
      | none =>
        simp only [List.mapM_cons, hi, hl]
        constructor
        · intro h
          cases h
        · intro h
          cases h with
          | cons _ hrest =>
            rw [← ih, hl] at hrest
            cases hrest
      | some rest =>
        cases ts with
        | nil => simp [hi, hl]
        | cons t' ts =>
          rw [hl] at ih
          simp [hi, hl, ← ih]

/-- Related lists have related items. -/
theorem exists_right_of_mem {I T : Type*} {R : I → T → Prop} {l : List I} {ts : List T}
    (h : List.Forall₂ R l ts) {i : I} (hi : i ∈ l) : ∃ t ∈ ts, R i t := by
  induction h with
  | nil => cases hi
  | cons hhead _ ih =>
    rcases List.mem_cons.mp hi with rfl | hi
    · exact ⟨_, List.mem_cons_self, hhead⟩
    · obtain ⟨t, ht, hit⟩ := ih hi
      exact ⟨t, List.mem_cons_of_mem _ ht, hit⟩

theorem exists_left_of_mem {I T : Type*} {R : I → T → Prop} {l : List I} {ts : List T}
    (h : List.Forall₂ R l ts) {t : T} (ht : t ∈ ts) : ∃ i ∈ l, R i t := by
  obtain ⟨i, hi, hit⟩ := exists_right_of_mem h.flip ht
  exact ⟨i, hi, hit⟩

/-- Items that are apart are related to items that are apart. -/
theorem pairwise_right {I T : Type*} {R : I → T → Prop} {P : I → I → Prop} {Q : T → T → Prop}
    (hPQ : ∀ i j t u, P i j → R i t → R j u → Q t u) {l : List I} {ts : List T}
    (h : List.Forall₂ R l ts) (hl : l.Pairwise P) : ts.Pairwise Q := by
  induction h with
  | nil => exact .nil
  | cons hhead htail ih =>
    obtain ⟨hfirst, hrest⟩ := List.pairwise_cons.mp hl
    refine List.pairwise_cons.mpr ⟨fun u hu => ?_, ih hrest⟩
    obtain ⟨j, hj, hju⟩ := exists_left_of_mem htail hu
    exact hPQ _ j _ u (hfirst j hj) hhead hju

section Unfold
variable {I T : Type*} (items : V → List I) (target : I → V) (node : I → List T → T)

/-- The trees below a vertex, one for each of its items. -/
def unfold : Nat → V → Option (List T)
  | 0, _ => none
  | fuel + 1, v => (items v).mapM fun i => (unfold fuel (target i)).map (node i)

/-- The same recursion as a graph. -/
def targets (v : V) : List V := (items v).map target

variable {items target node}

/-- The trees of a vertex are those of its items. -/
theorem unfold_succ {fuel : Nat} {v : V} {ts : List T} :
    unfold items target node (fuel + 1) v = some ts ↔
      List.Forall₂ (fun i t => ∃ below, unfold items target node fuel (target i) = some below ∧
        t = node i below) (items v) ts := by
  rw [unfold, mapM_eq_some_iff]
  refine iff_of_eq (congrArg (fun R => List.Forall₂ R (items v) ts) ?_)
  funext i t
  rw [Option.map_eq_some_iff]
  exact propext (exists_congr fun below => and_congr_right fun _ => eq_comm)

theorem unfold_mono {m n : Nat} (h : m ≤ n) {v : V} {ts : List T}
    (hts : unfold items target node m v = some ts) :
    unfold items target node n v = some ts := by
  induction m generalizing n v ts with
  | zero => cases hts
  | succ m ih =>
    obtain ⟨n, rfl⟩ : ∃ k, n = k + 1 := ⟨n - 1, by omega⟩
    rw [unfold_succ] at hts ⊢
    refine hts.imp ?_
    rintro i t ⟨below, hbelow, rfl⟩
    exact ⟨below, ih (by omega) hbelow, rfl⟩

theorem unfold_isSome {fuel : Nat} {v : V} :
    (unfold items target node (fuel + 1) v).isSome ↔
      ∀ i ∈ items v, (unfold items target node fuel (target i)).isSome := by
  rw [unfold]
  induction items v with
  | nil => simp
  | cons i l ih =>
    rw [List.forall_mem_cons, ← ih]
    cases hi : unfold items target node fuel (target i) with
    | none => simp [hi]
    | some below =>
      cases hl : l.mapM fun i => (unfold items target node fuel (target i)).map (node i) <;>
        simp [hi, hl]

/-- **The recursion returns** exactly where every walk ends. -/
theorem unfold_iff_ends {v : V} :
    (∃ fuel, (unfold items target node fuel v).isSome) ↔ Ends (targets items target) v := by
  constructor
  · rintro ⟨fuel, hsome⟩
    induction fuel generalizing v with
    | zero => cases hsome
    | succ fuel ih =>
      refine Ends.intro fun b hb => ?_
      obtain ⟨i, hi, rfl⟩ := List.mem_map.mp hb
      exact ih (unfold_isSome.mp hsome i hi)
  · intro h
    induction h with
    | intro v _ ih =>
      have hbelow : ∀ i ∈ items v, ∃ fuel, (unfold items target node fuel (target i)).isSome :=
        fun i hi => ih (target i) (List.mem_map_of_mem hi)
      have hmono : ∀ m n i, m ≤ n → (unfold items target node m (target i)).isSome →
          (unfold items target node n (target i)).isSome := by
        intro m n i hmn hsome
        obtain ⟨ts, hts⟩ := Option.isSome_iff_exists.mp hsome
        rw [unfold_mono hmn hts]
        rfl
      obtain ⟨fuel, hfuel⟩ := (exists_fuel_forall hmono (items v)).mpr hbelow
      exact ⟨fuel + 1, unfold_isSome.mpr hfuel⟩

/-- Trees that are read as other trees. -/
theorem unfold_map {S : Type*} {h : T → S} {node' : I → List S → S}
    (hnode : ∀ i ts, h (node i ts) = node' i (ts.map h)) (fuel : Nat) (v : V) :
    unfold items target node' fuel v = (unfold items target node fuel v).map (List.map h) := by
  induction fuel generalizing v with
  | zero => rfl
  | succ fuel ih =>
    simp only [unfold, ih, Option.map_map]
    induction items v with
    | nil => rfl
    | cons i l ihl =>
      rw [List.mapM_cons, List.mapM_cons, ihl]
      cases unfold items target node fuel (target i) with
      | none => rfl
      | some below =>
        cases l.mapM fun i => (unfold items target node fuel (target i)).map (node i) with
        | none => rfl
        | some rest => simp [hnode]

end Unfold

/-! ## The items of the trees -/

section Preorder
variable {I : Type*} (items : V → List I) (target : I → V)

/-- The items of the trees below a vertex, each before those below it. -/
def preorder (fuel : Nat) (v : V) : Option (List I) :=
  (unfold items target (fun i (below : List (List I)) => i :: below.flatten) fuel v).map
    List.flatten

variable {items target}

theorem preorder_succ {fuel : Nat} {v : V} {l : List I} :
    preorder items target (fuel + 1) v = some l ↔ ∃ ts,
      List.Forall₂ (fun i t => ∃ below, preorder items target fuel (target i) = some below ∧
        t = i :: below) (items v) ts ∧ l = ts.flatten := by
  rw [preorder, Option.map_eq_some_iff]
  refine exists_congr fun ts => and_congr ?_ eq_comm
  rw [unfold_succ]
  refine iff_of_eq (congrArg (fun R => List.Forall₂ R (items v) ts) ?_)
  funext i t
  refine propext ?_
  constructor
  · rintro ⟨below, hbelow, rfl⟩
    exact ⟨below.flatten, by rw [preorder, hbelow, Option.map_some], rfl⟩
  · rintro ⟨l, hl, rfl⟩
    obtain ⟨below, hbelow, rfl⟩ := Option.map_eq_some_iff.mp hl
    exact ⟨below, hbelow, rfl⟩

/-- The preorder passes the items that can be reached. -/
theorem mem_preorder {fuel : Nat} {v : V} {l : List I}
    (hl : preorder items target fuel v = some l) {i : I} :
    i ∈ l ↔ ∃ w, Relation.ReflTransGen (Follows (targets items target)) v w ∧ i ∈ items w := by
  induction fuel generalizing v l with
  | zero => cases hl
  | succ fuel ih =>
    obtain ⟨ts, hts, rfl⟩ := preorder_succ.mp hl
    rw [List.mem_flatten]
    constructor
    · rintro ⟨t, ht, hi⟩
      obtain ⟨j, hj, below, hbelow, rfl⟩ := exists_left_of_mem hts ht
      rcases List.mem_cons.mp hi with rfl | hi
      · exact ⟨v, .refl, hj⟩
      · obtain ⟨w, hw, hiw⟩ := (ih hbelow).mp hi
        exact ⟨w, .head (List.mem_map_of_mem hj) hw, hiw⟩
    · rintro ⟨w, hw, hi⟩
      rcases hw.cases_head with rfl | ⟨u, hu, huw⟩
      · obtain ⟨t, ht, below, -, rfl⟩ := exists_right_of_mem hts hi
        exact ⟨_, ht, List.mem_cons_self⟩
      · obtain ⟨j, hj, rfl⟩ := List.mem_map.mp hu
        obtain ⟨t, ht, below, hbelow, rfl⟩ := exists_right_of_mem hts hj
        exact ⟨_, ht, List.mem_cons_of_mem _ ((ih hbelow).mpr ⟨w, huw, hi⟩)⟩

/-- In a forest an item is below one vertex only, and no two items share a target. -/
def Rooted (items : V → List I) (target : I → V) : Prop :=
  ∀ v w i j, i ∈ items v → j ∈ items w → target i = target j → v = w ∧ i = j

/-- In a forest the ways down to a vertex are parts of one another. -/
theorem Rooted.total (h : Rooted items target) {a b w : V}
    (ha : Relation.ReflTransGen (Follows (targets items target)) a w)
    (hb : Relation.ReflTransGen (Follows (targets items target)) b w) :
    Relation.ReflTransGen (Follows (targets items target)) a b ∨
      Relation.ReflTransGen (Follows (targets items target)) b a := by
  have hunique : Relator.RightUnique (Function.swap (Follows (targets items target))) := by
    intro x y z hxy hxz
    obtain ⟨i, hi, hix⟩ := List.mem_map.mp hxy
    obtain ⟨j, hj, hjx⟩ := List.mem_map.mp hxz
    exact (h y z i j hi hj (hix.trans hjx.symm)).1
  rcases Relation.ReflTransGen.total_of_right_unique hunique ha.swap hb.swap with hab | hba
  · exact .inr hab.swap
  · exact .inl hba.swap

/-- An item's vertex does not come again below the item. -/
theorem Ends.not_below {v : V} (h : Ends (targets items target) v) {i : I} (hi : i ∈ items v) :
    ¬ Relation.ReflTransGen (Follows (targets items target)) (target i) v := by
  intro hback
  exact h.not_cycle (.head' (List.mem_map_of_mem hi) hback)

/-- Two items of one vertex have nothing in common below them. -/
theorem Rooted.disjoint_cons (h : Rooted items target) {v : V}
    (hends : Ends (targets items target) v) {i j : I} (hi : i ∈ items v) (hj : j ∈ items v)
    (hne : i ≠ j) {l m : List I}
    (hl : ∀ {x}, x ∈ l ↔ ∃ w, Relation.ReflTransGen (Follows (targets items target)) (target i) w ∧
      x ∈ items w)
    (hm : ∀ {x}, x ∈ m ↔ ∃ w, Relation.ReflTransGen (Follows (targets items target)) (target j) w ∧
      x ∈ items w) : (i :: l).Disjoint (j :: m) := by
  have habove : ∀ {i j}, i ∈ items v → j ∈ items v → i ≠ j →
      ¬ Relation.ReflTransGen (Follows (targets items target)) (target i) (target j) := by
    intro i j hi hj hne hreach
    rcases hreach.cases_tail with heq | ⟨u, hu, hstep⟩
    · exact hne (h v v i j hi hj heq.symm).2
    · obtain ⟨k, hk, hkj⟩ := List.mem_map.mp hstep
      obtain ⟨rfl, -⟩ := h v u j k hj hk hkj.symm
      exact hends.not_below hi hu
  intro x hxl hxm
  rcases List.mem_cons.mp hxl with rfl | hxl <;> rcases List.mem_cons.mp hxm with hxm | hxm
  · exact hne hxm
  · obtain ⟨w, hw, hxw⟩ := hm.mp hxm
    obtain ⟨rfl, -⟩ := h v w x x hi hxw rfl
    exact hends.not_below hj hw
  · obtain ⟨w, hw, hxw⟩ := hl.mp hxl
    obtain ⟨rfl, -⟩ := h v w x x (hxm ▸ hj) hxw rfl
    exact hends.not_below hi hw
  · obtain ⟨w, hw, hxw⟩ := hl.mp hxl
    obtain ⟨w', hw', hxw'⟩ := hm.mp hxm
    obtain ⟨rfl, -⟩ := h w w' x x hxw hxw' rfl
    rcases h.total hw hw' with hij | hji
    · exact habove hi hj hne hij
    · exact habove hj hi hne.symm hji

/-- **In a forest the preorder passes nothing twice.** -/
theorem Rooted.preorder_nodup (h : Rooted items target) (hitems : ∀ v, (items v).Nodup)
    {fuel : Nat} {v : V} {l : List I} (hl : preorder items target fuel v = some l) : l.Nodup := by
  induction fuel generalizing v l with
  | zero => cases hl
  | succ fuel ih =>
    have hends : Ends (targets items target) v := by
      obtain ⟨ts, hts, -⟩ := Option.map_eq_some_iff.mp hl
      exact unfold_iff_ends.mp ⟨_, Option.isSome_iff_exists.mpr ⟨ts, hts⟩⟩
    obtain ⟨ts, hts, rfl⟩ := preorder_succ.mp hl
    rw [List.nodup_flatten]
    constructor
    · intro t ht
      obtain ⟨i, hi, below, hbelow, rfl⟩ := exists_left_of_mem hts ht
      refine List.nodup_cons.mpr ⟨fun hin => ?_, ih hbelow⟩
      obtain ⟨w, hw, hiw⟩ := (mem_preorder hbelow).mp hin
      obtain ⟨rfl, -⟩ := h v w i i hi hiw rfl
      exact hends.not_below hi hw
    · have hmembers := (List.forall₂_and_left (p := fun i => i ∈ items v) (items v) ts).mpr
        ⟨fun _ hi => hi, hts⟩
      refine pairwise_right ?_ hmembers (hitems v)
      rintro i j _ _ hne ⟨hi, below, hbelow, rfl⟩ ⟨hj, below', hbelow', rfl⟩
      exact h.disjoint_cons hends hi hj hne (mem_preorder hbelow) (mem_preorder hbelow')

end Preorder
end FiniteDescent
