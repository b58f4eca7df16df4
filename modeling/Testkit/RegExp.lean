import Mathlib.Data.List.Forall2
import Mathlib.Data.List.TakeWhile

/-! # Regular expressions that backtrack

The expressions of a scripting language over any alphabet: character classes, classes
repeated as often or as seldom as possible, alternatives, numbered groups and the two
anchors.  `runs` lists the ways in which an expression matches at a place, in the order in
which a matcher comes by them; the first is the match.

The matches of an expression are given by the membership lemmas (`mem_runs_seq` and its
like), and which of them is the first by `first_many_seq` and `first_least_seq`.
`replaceAll` replaces the matches from left to right by one text, `replaceAllBy` each by what
a function makes of it; `replaceAll_induction` is the induction on what they do.
-/
namespace RegExp
variable {A : Type*}

/-- An expression. -/
inductive Regex (A : Type*) where
  | empty
  /-- The place before the first character. -/
  | start
  /-- The place after the last character. -/
  | stop
  | one (p : A → Bool)
  /-- As many characters of the class as possible. -/
  | many (p : A → Bool)
  /-- As few characters of the class as possible. -/
  | least (p : A → Bool)
  | seq (r q : Regex A)
  | alt (r q : Regex A)
  | group (n : Nat) (r : Regex A)

namespace Regex

/-- One or more characters, as many as possible. -/
def some (p : A → Bool) : Regex A := seq (one p) (many p)

/-- Once or not at all. -/
def option (r : Regex A) : Regex A := alt r empty

/-- A class for each character of a word. -/
def word (ps : List (A → Bool)) : Regex A := ps.foldr (fun p r => seq (one p) r) empty

end Regex

/-- A match at a place: what it takes, what it leaves, and what its groups take. -/
structure Match (A : Type*) where
  taken : List A
  rest : List A
  groups : List (Nat × List A)

namespace Match

/-- A match that goes on with another one. -/
def append (m m' : Match A) : Match A where
  taken := m.taken ++ m'.taken
  rest := m'.rest
  groups := m.groups ++ m'.groups

/-- What a group has taken. -/
def capture (m : Match A) (n : Nat) : Option (List A) :=
  (m.groups.find? fun g => decide (g.1 = n)).map Prod.snd

end Match

/-- The ways to take characters of a class from a text, the shortest first. -/
def splits (p : A → Bool) : List A → List (List A × List A)
  | [] => [([], [])]
  | a :: t => ([], a :: t) ::
    if p a then (splits p t).map fun s => (a :: s.1, s.2) else []

/-- A match without groups. -/
def plain (s : List A × List A) : Match A := ⟨s.1, s.2, []⟩

/-- The one way to take a character of a class. -/
def takeOne (p : A → Bool) : List A → List (Match A)
  | [] => []
  | a :: t => if p a then [plain ([a], t)] else []

/-- The ways in which an expression matches at the head of a text, in the order of the
search.  `atStart` says that nothing stands before the text. -/
def runs : Regex A → Bool → List A → List (Match A)
  | .empty, _, t => [plain ([], t)]
  | .start, atStart, t => if atStart then [plain ([], t)] else []
  | .stop, _, t => if t.isEmpty then [plain ([], t)] else []
  | .one p, _, t => takeOne p t
  | .many p, _, t => ((splits p t).map plain).reverse
  | .least p, _, t => (splits p t).map plain
  | .seq r q, atStart, t => (runs r atStart t).flatMap fun m =>
    (runs q (atStart && m.taken.isEmpty) m.rest).map m.append
  | .alt r q, atStart, t => runs r atStart t ++ runs q atStart t
  | .group n r, atStart, t =>
    (runs r atStart t).map fun m => { m with groups := (n, m.taken) :: m.groups }

/-- The match at the head of a text. -/
def first (r : Regex A) (atStart : Bool) (t : List A) : Option (Match A) :=
  (runs r atStart t).head?

/-- The first match in a text, wherever it starts. -/
def execFrom (r : Regex A) : Bool → List A → Option (Match A)
  | atStart, [] => first r atStart []
  | atStart, a :: t => (first r atStart (a :: t)).or (execFrom r false t)

def exec (r : Regex A) (t : List A) : Option (Match A) := execFrom r true t

def test (r : Regex A) (t : List A) : Bool := (exec r t).isSome

/-- The text with its matches replaced; the first `skip` characters belong to a match. -/
def replaceFrom (r : Regex A) (new : List A) : Nat → Bool → List A → List A
  | _, atStart, [] => if (first r atStart []).isSome then new else []
  | skip + 1, _, _ :: t => replaceFrom r new skip false t
  | 0, atStart, a :: t =>
    match first r atStart (a :: t) with
    | none => a :: replaceFrom r new 0 false t
    | some m =>
      match m.taken.length with
      | 0 => new ++ a :: replaceFrom r new 0 false t
      | skip + 1 => new ++ replaceFrom r new skip false t

def replaceAll (r : Regex A) (new t : List A) : List A := replaceFrom r new 0 true t

/-- The text with each match replaced by what a function makes of it. -/
def replaceFromBy (r : Regex A) (f : Match A → List A) : Nat → Bool → List A → List A
  | _, atStart, [] => ((first r atStart []).map f).getD []
  | skip + 1, _, _ :: t => replaceFromBy r f skip false t
  | 0, atStart, a :: t =>
    match first r atStart (a :: t) with
    | none => a :: replaceFromBy r f 0 false t
    | some m =>
      match m.taken.length with
      | 0 => f m ++ a :: replaceFromBy r f 0 false t
      | skip + 1 => f m ++ replaceFromBy r f skip false t

def replaceAllBy (r : Regex A) (f : Match A → List A) (t : List A) : List A :=
  replaceFromBy r f 0 true t

/-- The text with its first match replaced. -/
def replaceOnceFrom (r : Regex A) (new : List A) : Bool → List A → List A
  | atStart, [] => if (first r atStart []).isSome then new else []
  | atStart, a :: t =>
    match first r atStart (a :: t) with
    | none => a :: replaceOnceFrom r new false t
    | some m => new ++ m.rest

def replaceOnce (r : Regex A) (new t : List A) : List A := replaceOnceFrom r new true t

/-- The matches in a text, from left to right; the first `skip` characters belong to one. -/
def matchesFrom (r : Regex A) : Nat → Bool → List A → List (Match A)
  | _, atStart, [] => (first r atStart []).toList
  | skip + 1, _, _ :: t => matchesFrom r skip false t
  | 0, atStart, a :: t =>
    match first r atStart (a :: t) with
    | none => matchesFrom r 0 false t
    | some m =>
      match m.taken.length with
      | 0 => m :: matchesFrom r 0 false t
      | skip + 1 => m :: matchesFrom r skip false t

def matchAll (r : Regex A) (t : List A) : List (Match A) := matchesFrom r 0 true t

/-! ## Matches -/

theorem mem_splits {p : A → Bool} {taken rest t : List A} :
    (taken, rest) ∈ splits p t ↔ t = taken ++ rest ∧ ∀ a ∈ taken, p a := by
  induction t generalizing taken with
  | nil =>
    rw [splits, List.mem_singleton, Prod.mk.injEq, List.nil_eq, List.append_eq_nil_iff]
    constructor
    · rintro ⟨rfl, rfl⟩
      exact ⟨⟨rfl, rfl⟩, by simp⟩
    · rintro ⟨⟨rfl, rfl⟩, -⟩
      exact ⟨rfl, rfl⟩
  | cons b t ih =>
    rw [splits, List.mem_cons, Prod.mk.injEq]
    constructor
    · rintro (⟨rfl, rfl⟩ | hmem)
      · exact ⟨rfl, by simp⟩
      · split at hmem
        · rename_i hp
          obtain ⟨⟨taken', rest'⟩, hbelow, heq⟩ := List.mem_map.mp hmem
          obtain ⟨rfl, rfl⟩ := Prod.mk.inj heq
          obtain ⟨rfl, hall⟩ := ih.mp hbelow
          exact ⟨rfl, List.forall_mem_cons.mpr ⟨hp, hall⟩⟩
        · cases hmem
    · rintro ⟨htext, hall⟩
      cases taken with
      | nil => exact .inl ⟨rfl, htext.symm⟩
      | cons a taken =>
        obtain ⟨rfl, rfl⟩ := List.cons.inj htext
        obtain ⟨hp, hall⟩ := List.forall_mem_cons.mp hall
        refine .inr ?_
        rw [if_pos hp]
        exact List.mem_map.mpr ⟨(taken, rest), ih.mpr ⟨rfl, hall⟩, rfl⟩

section Equations
variable (p : A → Bool) (r q : Regex A) (atStart : Bool) (t : List A)

theorem runs_many : runs (.many p) atStart t = ((splits p t).map plain).reverse := rfl

theorem runs_least : runs (.least p) atStart t = (splits p t).map plain := rfl

theorem runs_seq : runs (.seq r q) atStart t = (runs r atStart t).flatMap fun m =>
    (runs q (atStart && m.taken.isEmpty) m.rest).map m.append := rfl

theorem runs_alt : runs (.alt r q) atStart t = runs r atStart t ++ runs q atStart t := rfl

theorem runs_group (n : Nat) : runs (.group n r) atStart t =
    (runs r atStart t).map fun m => { m with groups := (n, m.taken) :: m.groups } := rfl

end Equations

section Members
variable {p : A → Bool} {r q : Regex A} {atStart : Bool} {t : List A} {m : Match A}

@[simp] theorem mem_runs_empty : m ∈ runs .empty atStart t ↔ m = ⟨[], t, []⟩ :=
  List.mem_singleton

@[simp] theorem mem_runs_start :
    m ∈ runs .start atStart t ↔ atStart = true ∧ m = ⟨[], t, []⟩ := by
  show m ∈ (if atStart then [plain ([], t)] else []) ↔ _
  cases atStart <;> simp [plain]

@[simp] theorem mem_runs_stop : m ∈ runs .stop atStart t ↔ t = [] ∧ m = ⟨[], [], []⟩ := by
  show m ∈ (if t.isEmpty then [plain ([], t)] else []) ↔ _
  cases t <;> simp [plain]

@[simp] theorem mem_runs_one :
    m ∈ runs (.one p) atStart t ↔ ∃ a, p a ∧ t = a :: m.rest ∧ m.taken = [a] ∧ m.groups = [] := by
  obtain ⟨taken, rest, groups⟩ := m
  show _ ∈ takeOne p t ↔ _
  cases t with
  | nil => simp [takeOne]
  | cons b t =>
    by_cases hp : p b
    · simp only [takeOne, hp, if_true, List.mem_singleton, plain, Match.mk.injEq]
      constructor
      · rintro ⟨rfl, rfl, rfl⟩
        exact ⟨b, hp, rfl, rfl, rfl⟩
      · rintro ⟨a, -, heq, rfl, rfl⟩
        obtain ⟨rfl, rfl⟩ := List.cons.inj heq
        exact ⟨rfl, rfl, rfl⟩
    · simp only [takeOne, hp, Bool.false_eq_true, if_false, List.not_mem_nil, false_iff]
      rintro ⟨a, ha, heq, -, -⟩
      obtain ⟨rfl, -⟩ := List.cons.inj heq
      exact hp ha

theorem mem_map_plain :
    m ∈ (splits p t).map plain ↔ t = m.taken ++ m.rest ∧ (∀ a ∈ m.taken, p a) ∧ m.groups = [] := by
  obtain ⟨taken, rest, groups⟩ := m
  rw [List.mem_map]
  constructor
  · rintro ⟨s, hs, heq⟩
    obtain ⟨rfl, rfl, rfl⟩ := Match.mk.inj heq
    exact ⟨(mem_splits.mp hs).1, (mem_splits.mp hs).2, rfl⟩
  · rintro ⟨htext, hall, rfl⟩
    exact ⟨(taken, rest), mem_splits.mpr ⟨htext, hall⟩, rfl⟩

@[simp] theorem mem_runs_many : m ∈ runs (.many p) atStart t ↔
    t = m.taken ++ m.rest ∧ (∀ a ∈ m.taken, p a) ∧ m.groups = [] := by
  rw [runs_many, List.mem_reverse, mem_map_plain]

@[simp] theorem mem_runs_least : m ∈ runs (.least p) atStart t ↔
    t = m.taken ++ m.rest ∧ (∀ a ∈ m.taken, p a) ∧ m.groups = [] := by
  rw [runs_least, mem_map_plain]

@[simp] theorem mem_runs_seq : m ∈ runs (.seq r q) atStart t ↔
    ∃ m₁ ∈ runs r atStart t, ∃ m₂ ∈ runs q (atStart && m₁.taken.isEmpty) m₁.rest,
      m₁.append m₂ = m := by
  simp only [runs_seq, List.mem_flatMap, List.mem_map]

@[simp] theorem mem_runs_alt :
    m ∈ runs (.alt r q) atStart t ↔ m ∈ runs r atStart t ∨ m ∈ runs q atStart t :=
  List.mem_append

@[simp] theorem mem_runs_group {n : Nat} : m ∈ runs (.group n r) atStart t ↔
    ∃ m' ∈ runs r atStart t, { m' with groups := (n, m'.taken) :: m'.groups } = m :=
  List.mem_map

theorem mem_runs_some : m ∈ runs (.some p) atStart t ↔
    m.taken ≠ [] ∧ t = m.taken ++ m.rest ∧ (∀ a ∈ m.taken, p a) ∧ m.groups = [] := by
  rw [Regex.some, mem_runs_seq]
  constructor
  · rintro ⟨m₁, h₁, m₂, h₂, rfl⟩
    obtain ⟨a, ha, htext, htaken, hgroups⟩ := mem_runs_one.mp h₁
    obtain ⟨hrest, hall, hgroups₂⟩ := mem_runs_many.mp h₂
    refine ⟨?_, ?_, ?_, ?_⟩
    · simp [Match.append, htaken]
    · simp [Match.append, htext, htaken, hrest]
    · simpa [Match.append, htaken] using ⟨ha, hall⟩
    · simp [Match.append, hgroups, hgroups₂]
  · obtain ⟨taken, rest, groups⟩ := m
    rintro ⟨hne, rfl, hall, rfl⟩
    obtain ⟨a, taken, rfl⟩ := List.exists_cons_of_ne_nil hne
    obtain ⟨ha, hall⟩ := List.forall_mem_cons.mp hall
    exact ⟨⟨[a], taken ++ rest, []⟩, mem_runs_one.mpr ⟨a, ha, rfl, rfl, rfl⟩,
      ⟨taken, rest, []⟩, mem_runs_many.mpr ⟨rfl, hall, rfl⟩, rfl⟩

/-- A match splits the text. -/
theorem runs_append (h : m ∈ runs r atStart t) : t = m.taken ++ m.rest := by
  induction r generalizing atStart t m with
  | empty => rw [mem_runs_empty.mp h, List.nil_append]
  | start => rw [(mem_runs_start.mp h).2, List.nil_append]
  | stop =>
    obtain ⟨rfl, rfl⟩ := mem_runs_stop.mp h
    rfl
  | one p =>
    obtain ⟨a, -, htext, htaken, -⟩ := mem_runs_one.mp h
    rw [htext, htaken, List.singleton_append]
  | many p => exact (mem_runs_many.mp h).1
  | least p => exact (mem_runs_least.mp h).1
  | seq r q ihr ihq =>
    obtain ⟨m₁, h₁, m₂, h₂, rfl⟩ := mem_runs_seq.mp h
    rw [ihr h₁, ihq h₂]
    exact (List.append_assoc ..).symm
  | alt r q ihr ihq =>
    rcases mem_runs_alt.mp h with h | h
    · exact ihr h
    · exact ihq h
  | group n r ih =>
    obtain ⟨m', h', rfl⟩ := mem_runs_group.mp h
    have happend := ih h'
    exact happend

theorem mem_runs_of_first (h : first r atStart t = some m) : m ∈ runs r atStart t :=
  List.mem_of_mem_head? h

theorem first_eq_none_iff : first r atStart t = none ↔ ∀ m, m ∉ runs r atStart t := by
  rw [first, List.head?_eq_none_iff, List.eq_nil_iff_forall_not_mem]

/-- The only way to match is the first one. -/
theorem first_eq_some (h : m ∈ runs r atStart t) (hunique : ∀ m' ∈ runs r atStart t, m' = m) :
    first r atStart t = some m := by
  cases hfirst : first r atStart t with
  | none => exact absurd h (first_eq_none_iff.mp hfirst m)
  | some m' => rw [hunique m' (mem_runs_of_first hfirst)]

end Members

/-! ## The first match -/

section First
variable {p : A → Bool} {r q : Regex A} {atStart : Bool} {t : List A} {m : Match A}

theorem first_seq : first (.seq r q) atStart t = (runs r atStart t).findSome? fun m =>
    (first q (atStart && m.taken.isEmpty) m.rest).map m.append := by
  rw [first, runs_seq, List.head?_flatMap]
  simp only [List.head?_map, first]

/-- The last way to take characters of a class is to take all that stand at the head. -/
theorem splits_eq_concat (p : A → Bool) (t : List A) :
    ∃ before, splits p t = before ++ [(t.takeWhile p, t.dropWhile p)] := by
  induction t with
  | nil => exact ⟨[], rfl⟩
  | cons a t ih =>
    by_cases hp : p a
    · obtain ⟨before, ih⟩ := ih
      refine ⟨([], a :: t) :: before.map fun s => (a :: s.1, s.2), ?_⟩
      rw [splits, if_pos hp, ih, List.takeWhile_cons_of_pos hp, List.dropWhile_cons_of_pos hp,
        List.map_append]
      rfl
    · refine ⟨[], ?_⟩
      rw [splits, if_neg hp, List.takeWhile_cons_of_neg hp, List.dropWhile_cons_of_neg hp]
      rfl

/-- As many characters as possible, where the expression goes on to match. -/
theorem first_many_seq
    (h : first q (atStart && (t.takeWhile p).isEmpty) (t.dropWhile p) = some m) :
    first (.seq (.many p) q) atStart t = some ⟨t.takeWhile p ++ m.taken, m.rest, m.groups⟩ := by
  obtain ⟨before, hsplits⟩ := splits_eq_concat p t
  rw [first_seq, runs_many, hsplits, List.map_append, List.reverse_append]
  simp [plain, h, Match.append]

/-- As few characters as possible: where the expression does not go on to match on any
longer rest. -/
theorem first_least_seq {n : Nat} {taken rest : List A} (hall : ∀ a ∈ taken, p a)
    (hnone : ∀ taken₁ taken₂ b, taken₂ ≠ [] → taken = taken₁ ++ taken₂ →
      first q b (taken₂ ++ rest) = none)
    (h : ∀ b, first q b rest = some m) :
    first (.seq (.group n (.least p)) q) atStart (taken ++ rest) =
      some ⟨taken ++ m.taken, m.rest, (n, taken) :: m.groups⟩ := by
  have hfind : ∀ (f : List A × List A → Option (Match A)) (taken₀ : List A),
      (∀ taken₁ taken₂, taken₂ ≠ [] → taken₀ = taken₁ ++ taken₂ →
        f (taken₁, taken₂ ++ rest) = none) → (∀ a ∈ taken₀, p a) →
      (f (taken₀, rest)).isSome →
      (splits p (taken₀ ++ rest)).findSome? f = f (taken₀, rest) := by
    intro f taken₀ hnone hall hsome
    induction taken₀ generalizing f with
    | nil => cases rest <;> simp_all [splits]
    | cons a taken₀ ih =>
      obtain ⟨hp, hall⟩ := List.forall_mem_cons.mp hall
      have hhead : f ([], a :: (taken₀ ++ rest)) = none :=
        hnone [] (a :: taken₀) (List.cons_ne_nil _ _) rfl
      rw [List.cons_append, splits, if_pos hp, List.findSome?_cons, hhead, List.findSome?_map]
      refine ih (f ∘ fun s => (a :: s.1, s.2)) ?_ hall hsome
      intro taken₁ taken₂ hne heq
      exact hnone (a :: taken₁) taken₂ hne (by rw [heq, List.cons_append])
  rw [first_seq, runs_group, runs_least, List.map_map, List.findSome?_map, hfind _ taken ?_ hall ?_]
  · simp [plain, h, Match.append]
  · intro taken₁ taken₂ hne heq
    simp [plain, hnone taken₁ taken₂ _ hne heq]
  · simp [plain, h]

/-- A class repeated at least once takes all that stand at the head. -/
theorem first_some {a : A} (ha : p a) :
    first (.some p) atStart (a :: t) = some ⟨a :: t.takeWhile p, t.dropWhile p, []⟩ := by
  obtain ⟨before, hsplits⟩ := splits_eq_concat p t
  have hmany : first (.many p) false t = some ⟨t.takeWhile p, t.dropWhile p, []⟩ := by
    rw [first, runs_many, hsplits, List.map_append, List.reverse_append]
    rfl
  have hone : runs (.one p) atStart (a :: t) = [plain ([a], t)] := if_pos ha
  rw [Regex.some, first_seq, hone]
  simp [plain, hmany, Match.append]

/-- An expression that starts at the start matches there or not at all. -/
theorem execFrom_start : execFrom (.seq .start r) false t = none := by
  have hnone : ∀ t, first (.seq .start r) false t = none := by
    intro t
    rw [first_eq_none_iff]
    intro m hm
    obtain ⟨m₁, h₁, -⟩ := mem_runs_seq.mp hm
    cases (mem_runs_start.mp h₁).1
  induction t with
  | nil => exact hnone []
  | cons a t ih => rw [execFrom, hnone, ih, Option.none_or]

theorem exec_start : exec (.seq .start r) t = first r true t := by
  have hfirst : first (.seq .start r) true t = first r true t := by
    have hstart : runs .start true t = [plain ([], t)] := rfl
    rw [first_seq, hstart]
    cases hr : first r true t with
    | none => simp [plain, hr]
    | some m => simp [plain, hr, Match.append]
  cases t with
  | nil => rw [exec, execFrom, hfirst]
  | cons a t => rw [exec, execFrom, hfirst, execFrom_start, Option.or_none]

theorem test_start : test (.seq .start r) t ↔ ∃ m, m ∈ runs r true t := by
  rw [test, exec_start]
  cases hr : first r true t with
  | none => simpa using first_eq_none_iff.mp hr
  | some m => simpa using ⟨m, mem_runs_of_first hr⟩

end First

/-! ## Replacing -/

/-- Every match takes something. -/
def Consumes (r : Regex A) : Prop :=
  ∀ atStart t m, m ∈ runs r atStart t → m.taken ≠ []

/-- Every match starts with a character of the class. -/
def Opens (r : Regex A) (p : A → Bool) : Prop :=
  ∀ atStart t m, m ∈ runs r atStart t → ∃ a taken, m.taken = a :: taken ∧ p a

section Opens
variable {p : A → Bool} {r q : Regex A}

theorem Opens.consumes (h : Opens r p) : Consumes r := by
  intro atStart t m hm
  obtain ⟨a, taken, htaken, -⟩ := h atStart t m hm
  rw [htaken]
  exact List.cons_ne_nil a taken

theorem opens_one : Opens (.one p) p := by
  intro atStart t m hm
  obtain ⟨a, ha, -, htaken, -⟩ := mem_runs_one.mp hm
  exact ⟨a, [], htaken, ha⟩

theorem Opens.seq (h : Opens r p) : Opens (.seq r q) p := by
  intro atStart t m hm
  obtain ⟨m₁, h₁, m₂, -, rfl⟩ := mem_runs_seq.mp hm
  obtain ⟨a, taken, htaken, ha⟩ := h atStart t m₁ h₁
  exact ⟨a, taken ++ m₂.taken, by rw [Match.append, htaken, List.cons_append], ha⟩

theorem Consumes.first_nil (h : Consumes r) : first r true [] = none := by
  rw [first_eq_none_iff]
  intro m hm
  exact h true [] m hm (List.append_eq_nil_iff.mp (runs_append hm).symm).1

/-- No match starts with a character outside the class. -/
theorem Opens.first_eq_none (h : Opens r p) {a : A} {t : List A} (ha : p a = false) :
    first r true (a :: t) = none := by
  rw [first_eq_none_iff]
  intro m hm
  obtain ⟨b, taken, htaken, hb⟩ := h true _ m hm
  have htext := runs_append hm
  rw [htaken, List.cons_append] at htext
  obtain ⟨rfl, -⟩ := List.cons.inj htext
  rw [ha] at hb
  cases hb

end Opens

/-- The expression matches alike at every place. -/
def Floating (r : Regex A) : Prop := ∀ atStart t, runs r atStart t = runs r true t

/-- No part of the expression asks for the start. -/
def Regex.floats : Regex A → Bool
  | .start => false
  | .seq r q => r.floats && q.floats
  | .alt r q => r.floats && q.floats
  | .group _ r => r.floats
  | _ => true

section Floating
variable {r : Regex A}

theorem floating_of_floats (h : r.floats) : Floating r := by
  induction r with
  | start => cases h
  | seq r q ihr ihq =>
    obtain ⟨hr, hq⟩ := Bool.and_eq_true_iff.mp h
    intro atStart t
    rw [runs_seq, ihr hr, runs_seq]
    refine congrArg (List.flatMap · (runs r true t)) (funext fun m => ?_)
    rw [ihq hq, ihq hq (true && m.taken.isEmpty)]
  | alt r q ihr ihq =>
    obtain ⟨hr, hq⟩ := Bool.and_eq_true_iff.mp h
    intro atStart t
    rw [runs_alt, ihr hr, ihq hq, runs_alt]
  | group n r ih =>
    intro atStart t
    rw [runs_group, ih h, runs_group]
  | _ => exact fun _ _ => rfl

theorem Floating.first (h : Floating r) (atStart : Bool) (t : List A) :
    first r atStart t = RegExp.first r true t := by
  rw [RegExp.first, h, RegExp.first]

theorem Floating.replaceFromBy (h : Floating r) (f : Match A → List A) (skip : Nat)
    (atStart : Bool) (t : List A) :
    replaceFromBy r f skip atStart t = RegExp.replaceFromBy r f skip true t := by
  cases t with
  | nil => rw [RegExp.replaceFromBy, h.first, RegExp.replaceFromBy]
  | cons a t =>
    cases skip with
    | zero => rw [RegExp.replaceFromBy, h.first, RegExp.replaceFromBy]
    | succ skip => rw [RegExp.replaceFromBy, RegExp.replaceFromBy]

theorem Floating.replaceOnceFrom (h : Floating r) (new : List A) (atStart : Bool) (t : List A) :
    replaceOnceFrom r new atStart t = replaceOnce r new t := by
  rw [replaceOnce]
  cases t with
  | nil => rw [RegExp.replaceOnceFrom, h.first, RegExp.replaceOnceFrom]
  | cons a t => rw [RegExp.replaceOnceFrom, h.first, RegExp.replaceOnceFrom]

theorem Floating.matchesFrom (h : Floating r) (skip : Nat) (atStart : Bool) (t : List A) :
    matchesFrom r skip atStart t = RegExp.matchesFrom r skip true t := by
  cases t with
  | nil => rw [RegExp.matchesFrom, h.first, RegExp.matchesFrom]
  | cons a t =>
    cases skip with
    | zero => rw [RegExp.matchesFrom, h.first, RegExp.matchesFrom]
    | succ skip => rw [RegExp.matchesFrom, RegExp.matchesFrom]

/-- A match further on is found. -/
theorem Floating.test_append (h : Floating r) (before : List A) {t : List A} {m : Match A}
    (hm : m ∈ runs r true t) : test r (before ++ t) := by
  suffices hexec : ∀ atStart, (execFrom r atStart (before ++ t)).isSome from hexec true
  have hfirst : ∀ atStart, (RegExp.first r atStart t).isSome := by
    intro atStart
    rw [RegExp.first, h atStart, List.isSome_head?]
    exact List.ne_nil_of_mem hm
  induction before with
  | nil =>
    intro atStart
    rw [List.nil_append]
    cases t with
    | nil => exact hfirst atStart
    | cons a t => rw [execFrom, Option.isSome_or, hfirst, Bool.true_or]
  | cons a before ih =>
    intro atStart
    rw [List.cons_append, execFrom, Option.isSome_or, ih, Bool.or_true]

end Floating

section ReplaceAll
variable {r : Regex A} {f : Match A → List A} {new t : List A} {m : Match A}

/-- One text for every match. -/
theorem replaceFrom_eq (skip : Nat) (atStart : Bool) (t : List A) :
    replaceFrom r new skip atStart t = replaceFromBy r (fun _ => new) skip atStart t := by
  induction t generalizing skip atStart with
  | nil =>
    rw [replaceFrom, replaceFromBy]
    cases first r atStart [] <;> rfl
  | cons a t ih =>
    cases skip with
    | zero =>
      rw [replaceFrom, replaceFromBy]
      simp only [ih]
    | succ skip =>
      rw [replaceFrom, replaceFromBy]
      exact ih skip false

theorem replaceAll_eq (t : List A) : replaceAll r new t = replaceAllBy r (fun _ => new) t :=
  replaceFrom_eq 0 true t

/-- The characters of a match are passed over. -/
theorem replaceFromBy_skip (taken rest : List A) :
    replaceFromBy r f taken.length false (taken ++ rest) = replaceFromBy r f 0 false rest := by
  induction taken with
  | nil => rfl
  | cons a taken ih =>
    rw [List.length_cons, List.cons_append, replaceFromBy]
    exact ih

theorem replaceAllBy_nil (hr : Consumes r) : replaceAllBy r f [] = [] := by
  rw [replaceAllBy, replaceFromBy, hr.first_nil]
  rfl

/-- A match is replaced … -/
theorem replaceAllBy_match (hr : Consumes r) (hfloat : Floating r)
    (hfirst : first r true t = some m) :
    replaceAllBy r f t = f m ++ replaceAllBy r f m.rest := by
  have hmem := mem_runs_of_first hfirst
  obtain ⟨a, taken, htaken⟩ := List.exists_cons_of_ne_nil (hr true t m hmem)
  have htext := runs_append hmem
  rw [htaken, List.cons_append] at htext
  rw [htext] at hfirst ⊢
  rw [replaceAllBy, replaceFromBy, hfirst]
  simp only [htaken, List.length_cons]
  rw [replaceFromBy_skip, hfloat.replaceFromBy, ← replaceAllBy]

/-- … and a character where none starts is kept. -/
theorem replaceAllBy_miss (hfloat : Floating r) {a : A} (hfirst : first r true (a :: t) = none) :
    replaceAllBy r f (a :: t) = a :: replaceAllBy r f t := by
  rw [replaceAllBy, replaceFromBy, hfirst]
  simp only
  rw [hfloat.replaceFromBy, ← replaceAllBy]

theorem replaceAll_nil (hr : Consumes r) : replaceAll r new [] = [] := by
  rw [replaceAll_eq, replaceAllBy_nil hr]

theorem replaceAll_match (hr : Consumes r) (hfloat : Floating r)
    (hfirst : first r true t = some m) : replaceAll r new t = new ++ replaceAll r new m.rest := by
  rw [replaceAll_eq, replaceAllBy_match hr hfloat hfirst, replaceAll_eq]

theorem replaceAll_miss (hfloat : Floating r) {a : A} (hfirst : first r true (a :: t) = none) :
    replaceAll r new (a :: t) = a :: replaceAll r new t := by
  rw [replaceAll_eq, replaceAllBy_miss hfloat hfirst, replaceAll_eq]

theorem length_rest_lt (hr : Consumes r) (hfirst : first r true t = some m) :
    m.rest.length < t.length := by
  have hmem := mem_runs_of_first hfirst
  have hpos := List.length_pos_of_ne_nil (hr true t m hmem)
  have hlength := congrArg List.length (runs_append hmem)
  rw [List.length_append] at hlength
  omega

/-- **The induction on replacing**: from one match, or one kept character, to the next. -/
theorem replaceAll_induction {P : List A → Prop} (hr : Consumes r) (nil : P [])
    (hit : ∀ t m, first r true t = some m → P m.rest → P t)
    (miss : ∀ a t, first r true (a :: t) = none → P t → P (a :: t)) (t : List A) : P t := by
  generalize hlength : t.length = n
  induction n using Nat.strong_induction_on generalizing t with
  | h n ih =>
    cases hfirst : first r true t with
    | some m =>
      have hlt := length_rest_lt hr hfirst
      exact hit t m hfirst (ih _ (by omega) m.rest rfl)
    | none =>
      cases t with
      | nil => exact nil
      | cons a t =>
        rw [List.length_cons] at hlength
        exact miss a t hfirst (ih _ (by omega) t rfl)

theorem mem_replaceAll (hr : Consumes r) (hfloat : Floating r) {a : A}
    (h : a ∈ replaceAll r new t) : a ∈ new ∨ a ∈ t := by
  induction t using replaceAll_induction hr with
  | nil =>
    rw [replaceAll_nil hr] at h
    cases h
  | hit t m hfirst ih =>
    rw [replaceAll_match hr hfloat hfirst, List.mem_append] at h
    rcases h with h | h
    · exact .inl h
    · refine (ih h).imp_right fun hrest => ?_
      rw [runs_append (mem_runs_of_first hfirst)]
      exact List.mem_append_right _ hrest
  | miss b t hfirst ih =>
    rw [replaceAll_miss hfloat hfirst] at h
    rcases List.mem_cons.mp h with rfl | h
    · exact .inr List.mem_cons_self
    · exact (ih h).imp_right (List.mem_cons_of_mem b)

/-- A text does not grow when its matches are not shorter than what replaces them. -/
theorem length_replaceAll_le (hr : Consumes r) (hfloat : Floating r)
    (hlength : ∀ t m, m ∈ runs r true t → new.length ≤ m.taken.length) (t : List A) :
    (replaceAll r new t).length ≤ t.length := by
  induction t using replaceAll_induction hr with
  | nil => rw [replaceAll_nil hr]
  | hit t m hfirst ih =>
    have hmem := mem_runs_of_first hfirst
    have htext := congrArg List.length (runs_append hmem)
    have htaken := hlength t m hmem
    rw [replaceAll_match hr hfloat hfirst, List.length_append]
    rw [List.length_append] at htext
    omega
  | miss a t hfirst ih =>
    rw [replaceAll_miss hfloat hfirst, List.length_cons, List.length_cons]
    omega

/-- Characters that no match starts with are kept. -/
theorem replaceAllBy_append {p : A → Bool} (hr : Opens r p) (hfloat : Floating r)
    {kept : List A} (hkept : ∀ a ∈ kept, p a = false) (t : List A) :
    replaceAllBy r f (kept ++ t) = kept ++ replaceAllBy r f t := by
  induction kept with
  | nil => rfl
  | cons a kept ih =>
    obtain ⟨ha, hkept⟩ := List.forall_mem_cons.mp hkept
    rw [List.cons_append, replaceAllBy_miss hfloat (hr.first_eq_none ha), ih hkept,
      List.cons_append]

theorem replaceAll_append {p : A → Bool} (hr : Opens r p) (hfloat : Floating r) {kept : List A}
    (hkept : ∀ a ∈ kept, p a = false) (t : List A) :
    replaceAll r new (kept ++ t) = kept ++ replaceAll r new t := by
  rw [replaceAll_eq, replaceAllBy_append hr hfloat hkept, replaceAll_eq]

/-- A text without the characters that matches start with. -/
theorem replaceAllBy_eq_self {p : A → Bool} (hr : Opens r p) (hfloat : Floating r)
    (ht : ∀ a ∈ t, p a = false) : replaceAllBy r f t = t := by
  have hkept : replaceAllBy r f (t ++ []) = t ++ replaceAllBy r f [] :=
    replaceAllBy_append hr hfloat ht []
  rw [List.append_nil, replaceAllBy_nil hr.consumes, List.append_nil] at hkept
  exact hkept

theorem replaceAll_eq_self {p : A → Bool} (hr : Opens r p) (hfloat : Floating r)
    (ht : ∀ a ∈ t, p a = false) : replaceAll r new t = t := by
  rw [replaceAll_eq, replaceAllBy_eq_self hr hfloat ht]

end ReplaceAll

section ReplaceOnce
variable {r : Regex A} {new t : List A} {m : Match A}

theorem replaceOnce_match (hfirst : first r true t = some m) :
    replaceOnce r new t = new ++ m.rest := by
  rw [replaceOnce]
  cases t with
  | nil =>
    have hrest : m.rest = [] :=
      (List.append_eq_nil_iff.mp (runs_append (mem_runs_of_first hfirst)).symm).2
    rw [replaceOnceFrom, hfirst, hrest, List.append_nil]
    rfl
  | cons a t => rw [replaceOnceFrom, hfirst]

theorem replaceOnce_miss (hfloat : Floating r) {a : A} (hfirst : first r true (a :: t) = none) :
    replaceOnce r new (a :: t) = a :: replaceOnce r new t := by
  rw [replaceOnce, replaceOnceFrom, hfirst]
  simp only
  rw [hfloat.replaceOnceFrom]

/-- Characters that no match starts with are passed over. -/
theorem replaceOnce_append {p : A → Bool} (hr : Opens r p) (hfloat : Floating r)
    {kept : List A} (hkept : ∀ a ∈ kept, p a = false) (t : List A) :
    replaceOnce r new (kept ++ t) = kept ++ replaceOnce r new t := by
  induction kept with
  | nil => rfl
  | cons a kept ih =>
    obtain ⟨ha, hkept⟩ := List.forall_mem_cons.mp hkept
    rw [List.cons_append, replaceOnce_miss hfloat (hr.first_eq_none ha), ih hkept,
      List.cons_append]

theorem replaceOnce_eq_self {p : A → Bool} (hr : Opens r p) (hfloat : Floating r)
    (ht : ∀ a ∈ t, p a = false) : replaceOnce r new t = t := by
  have hnil : replaceOnce r new [] = [] := by
    rw [replaceOnce, replaceOnceFrom, hr.consumes.first_nil]
    rfl
  have hkept : replaceOnce r new (t ++ []) = t ++ replaceOnce r new [] :=
    replaceOnce_append hr hfloat ht []
  rw [hnil, List.append_nil] at hkept
  exact hkept

end ReplaceOnce

section MatchAll
variable {r : Regex A} {t : List A} {m : Match A}

theorem matchesFrom_skip (taken rest : List A) :
    matchesFrom r taken.length false (taken ++ rest) = matchesFrom r 0 false rest := by
  induction taken with
  | nil => rfl
  | cons a taken ih =>
    rw [List.length_cons, List.cons_append, matchesFrom]
    exact ih

theorem matchAll_nil (hr : Consumes r) : matchAll r [] = [] := by
  rw [matchAll, matchesFrom, hr.first_nil]
  rfl

theorem matchAll_match (hr : Consumes r) (hfloat : Floating r)
    (hfirst : first r true t = some m) : matchAll r t = m :: matchAll r m.rest := by
  have hmem := mem_runs_of_first hfirst
  obtain ⟨a, taken, htaken⟩ := List.exists_cons_of_ne_nil (hr true t m hmem)
  have htext := runs_append hmem
  rw [htaken, List.cons_append] at htext
  rw [htext] at hfirst ⊢
  rw [matchAll, matchesFrom, hfirst]
  simp only [htaken, List.length_cons]
  rw [matchesFrom_skip, hfloat.matchesFrom, ← matchAll]

theorem matchAll_miss (hfloat : Floating r) {a : A} (hfirst : first r true (a :: t) = none) :
    matchAll r (a :: t) = matchAll r t := by
  rw [matchAll, matchesFrom, hfirst]
  simp only
  rw [hfloat.matchesFrom, ← matchAll]

end MatchAll

/-! ## Words -/

/-- The characters of a text are in the classes of a word. -/
def Fits (ps : List (A → Bool)) (w : List A) : Prop := List.Forall₂ (fun p a => p a = true) ps w

/-- What holds nowhere in a list, computed. -/
theorem eq_false_of_any {l : List A} {p : A → Bool} (h : l.any p = false) (a : A) (ha : a ∈ l) :
    p a = false := by
  simpa using List.any_eq_false.mp h a ha

instance (ps : List (A → Bool)) (w : List A) : Decidable (Fits ps w) :=
  inferInstanceAs (Decidable (List.Forall₂ (fun p a => p a = true) ps w))

theorem Fits.exists_left {ps : List (A → Bool)} {w : List A} (h : Fits ps w) {a : A}
    (ha : a ∈ w) : ∃ p ∈ ps, p a := by
  induction h with
  | nil => cases ha
  | cons hhead _ ih =>
    rcases List.mem_cons.mp ha with rfl | ha
    · exact ⟨_, List.mem_cons_self, hhead⟩
    · obtain ⟨p, hp, hpa⟩ := ih ha
      exact ⟨p, List.mem_cons_of_mem _ hp, hpa⟩

/-- A character that no class has does not stand in a text that fits. -/
theorem Fits.not_mem {ps : List (A → Bool)} {w : List A} (h : Fits ps w) {a : A}
    (ha : ∀ p ∈ ps, p a = false) : a ∉ w := by
  intro hin
  obtain ⟨p, hp, hpa⟩ := h.exists_left hin
  rw [ha p hp] at hpa
  cases hpa

/-- The classes of one character each fit one text. -/
theorem fits_map_beq [BEq A] [LawfulBEq A] {word w : List A} :
    Fits (word.map fun c a => a == c) w ↔ w = word := by
  induction word generalizing w with
  | nil => rw [List.map_nil, Fits, List.forall₂_nil_left_iff]
  | cons c word ih =>
    rw [List.map_cons, Fits, List.forall₂_cons_left_iff]
    constructor
    · rintro ⟨a, w', ha, hw', rfl⟩
      rw [eq_of_beq ha, ih.mp hw']
    · rintro rfl
      exact ⟨c, word, beq_self_eq_true c, ih.mpr rfl, rfl⟩

section Word
variable {ps : List (A → Bool)} {w rest t new : List A}

theorem floats_word (ps : List (A → Bool)) : (Regex.word ps).floats := by
  induction ps with
  | nil => rfl
  | cons p ps ih => exact ih

theorem floating_word (ps : List (A → Bool)) : Floating (.word ps) :=
  floating_of_floats (floats_word ps)

theorem opens_word (p : A → Bool) (ps : List (A → Bool)) : Opens (.word (p :: ps)) p :=
  opens_one.seq

theorem mem_runs_word {atStart : Bool} {m : Match A} :
    m ∈ runs (.word ps) atStart t ↔ Fits ps m.taken ∧ t = m.taken ++ m.rest ∧ m.groups = [] := by
  induction ps generalizing atStart t m with
  | nil =>
    obtain ⟨taken, rest, groups⟩ := m
    rw [Regex.word, List.foldr_nil, mem_runs_empty, Fits, List.forall₂_nil_left_iff]
    constructor
    · intro h
      obtain ⟨rfl, rfl, rfl⟩ := Match.mk.inj h
      exact ⟨rfl, rfl, rfl⟩
    · rintro ⟨rfl, rfl, rfl⟩
      rfl
  | cons p ps ih =>
    rw [Regex.word, List.foldr_cons, mem_runs_seq, ← Regex.word]
    constructor
    · rintro ⟨m₁, h₁, m₂, h₂, rfl⟩
      obtain ⟨a, ha, htext, htaken, hgroups⟩ := mem_runs_one.mp h₁
      obtain ⟨hfits, hrest, hgroups₂⟩ := ih.mp h₂
      refine ⟨?_, ?_, ?_⟩
      · rw [Match.append, htaken]
        exact .cons ha hfits
      · rw [htext, hrest, Match.append, htaken]
        rfl
      · rw [Match.append, hgroups, hgroups₂, List.append_nil]
    · obtain ⟨taken, rest, groups⟩ := m
      rintro ⟨hfits, htext, rfl⟩
      cases hfits with
      | cons ha hfits =>
        rename_i a w
        refine ⟨⟨[a], w ++ rest, []⟩, mem_runs_one.mpr ⟨a, ha, htext, rfl, rfl⟩,
          ⟨w, rest, []⟩, ih.mpr ⟨hfits, rfl, rfl⟩, rfl⟩

/-- A word matches the characters of its classes, and then nothing else. -/
theorem first_word (h : Fits ps w) :
    first (.word ps) true (w ++ rest) = some ⟨w, rest, []⟩ := by
  refine first_eq_some (mem_runs_word.mpr ⟨h, rfl, rfl⟩) ?_
  rintro ⟨taken, rest', groups⟩ hm
  obtain ⟨hfits, htext, hgroups⟩ := mem_runs_word.mp hm
  have hlength : w.length = taken.length := h.length_eq.symm.trans hfits.length_eq
  obtain ⟨rfl, rfl⟩ := List.append_inj htext hlength
  obtain rfl : groups = [] := hgroups
  rfl

theorem first_word_eq_none (h : ∀ w rest, Fits ps w → t ≠ w ++ rest) :
    first (.word ps) true t = none := by
  rw [first_eq_none_iff]
  intro m hm
  obtain ⟨hfits, htext, -⟩ := mem_runs_word.mp hm
  exact h m.taken m.rest hfits htext

end Word

/-! ## Texts around a character -/

section Split
variable {c : A} {x y g e : List A}

/-- The two texts before and after the first occurrence of a character. -/
theorem split_first (hx : c ∉ x) (hy : c ∉ y) (h : x ++ c :: g = y ++ c :: e) :
    x = y ∧ g = e := by
  rcases List.append_eq_append_iff.mp h with ⟨between, rfl, heq⟩ | ⟨between, rfl, heq⟩
  · cases between with
    | nil => exact ⟨(List.append_nil x).symm, (List.cons.inj heq).2⟩
    | cons d between =>
      obtain ⟨rfl, -⟩ := List.cons.inj heq
      exact absurd (by simp) hy
  · cases between with
    | nil => exact ⟨List.append_nil y, (List.cons.inj heq).2.symm⟩
    | cons d between =>
      obtain ⟨rfl, -⟩ := List.cons.inj heq
      exact absurd (by simp) hx

/-- The two texts before and after the last occurrence of a character. -/
theorem split_last (hg : c ∉ g) (he : c ∉ e) (h : x ++ c :: g = y ++ c :: e) :
    x = y ∧ g = e := by
  have hreverse : g.reverse ++ c :: x.reverse = e.reverse ++ c :: y.reverse := by
    simpa using congrArg List.reverse h
  obtain ⟨hafter, hbefore⟩ :=
    split_first (mt List.mem_reverse.mp hg) (mt List.mem_reverse.mp he) hreverse
  exact ⟨List.reverse_inj.mp hbefore, List.reverse_inj.mp hafter⟩

end Split
end RegExp
