import Mathlib.Logic.Function.Basic
import Testkit.LabelledRuns

/-! # The cursor pager

`useCursorTable` of `web/src/components/CursorPager.tsx`: progressive paging over a
cursor-based list.  The hook holds the page to show next (`pageRef`), what the pager
displays (`state`), and the chain of entry cursors of the current query window; every
request changes them in place.

A request is an async function: it runs from one `await fetch(…)` to the next without
interruption, and between two of them any other request may run.  `State` therefore
holds, beside the hook, the fetch each unsettled request waits for together with
what its continuation has captured, and `Step` is one uninterrupted piece of code: the
start of a request, its continuation with a fetch's answer or failure, or a click.

`JSON.stringify` is a parameter, and so is the fetcher: an answer is any answer.
-/
namespace Testkit.CursorPager

/-! ## The hook -/

/-- The cursor chain; `cursors` has the entry cursor of each page, `""` that of
page 1. -/
structure Chain where
  cursors : List String
  filterKey : String
  pageSize : Nat
  ended : Bool
  deriving DecidableEq, Repr

/-- What the pager displays. -/
structure PagerState where
  page : Nat
  hasMore : Bool
  loaded : Nat
  loading : Bool
  deriving DecidableEq, Repr

/-- The refs and the state of the hook. -/
structure Hook where
  pageRef : Nat
  state : PagerState
  chain : Chain
  deriving DecidableEq, Repr

/-- The hook at its first render. -/
def Hook.initial : Hook := ⟨1, ⟨1, false, 0, false⟩, ⟨[""], "", 0, false⟩⟩

/-- The parameters of a request; its filters are everything but `current` and
`pageSize`. -/
structure Params (F : Type) where
  filters : F
  pageSize : Option Nat

/-- What a fetch answers. -/
structure Answer (T : Type) where
  items : Option (List T)
  nextCursor : Option String
  deriving DecidableEq, Repr

/-- `resp.items ?? []`. -/
def Answer.data {T : Type} (a : Answer T) : List T := a.items.getD []

/-- `resp.nextCursor`, where it is truthy. -/
def Answer.next {T : Type} (a : Answer T) : Option String := a.nextCursor.filter (· ≠ "")

/-- `cursor || undefined`. -/
def orUndefined (cursor : String) : Option String := if cursor = "" then none else some cursor

/-- What a request has captured when it first awaits. -/
structure Request (F : Type) where
  filters : F
  filterKey : String
  pageSize : Nat
  want : Nat
  deriving DecidableEq, Repr

/-- Which of its two fetches a request awaits: one of the walk along the chain, or that
of its page. -/
inductive Stage
  | walking
  | paging
  deriving DecidableEq, Repr

/-- A request that awaits a fetch, and the cursor the fetch was sent with. -/
structure Pending (F : Type) where
  request : Request F
  stage : Stage
  cursor : Option String
  deriving DecidableEq, Repr

/-- What a request that succeeds displays and returns. -/
structure Settled (T : Type) where
  page : Nat
  hasMore : Bool
  loaded : Nat
  data : List T
  deriving DecidableEq, Repr

/-- A parameter change opens a new window, at page 1. -/
def Hook.openWindow (h : Hook) (filterKey : String) (pageSize : Nat) : Hook :=
  if filterKey ≠ h.chain.filterKey ∨ pageSize ≠ h.chain.pageSize then
    { h with chain := ⟨[""], filterKey, pageSize, false⟩, pageRef := 1 }
  else h

/-- `c.cursors[want - 1]`. -/
def Chain.entry (c : Chain) (want : Nat) : Option String :=
  if want = 0 then none else c.cursors[want - 1]?

/-- From the head of the walk to the next fetch: the walk goes on while the chain is too
short and has not ended; then the page is fetched, if it has an entry cursor. -/
def Chain.resume {F : Type} (c : Chain) (r : Request F) : Option (Pending F) :=
  if c.ended = false ∧ c.cursors.length < r.want then
    some ⟨r, .walking, orUndefined (c.cursors.getLast?.getD "")⟩
  else (c.entry r.want).map fun entry => ⟨r, .paging, orUndefined entry⟩

/-- The chain after an answer of the walk. -/
def Chain.walked {T : Type} (c : Chain) (a : Answer T) : Chain :=
  match a.next with
  | some next => { c with cursors := c.cursors ++ [next] }
  | none => { c with ended := true }

/-- The chain after the answer for page `want`. -/
def Chain.paged {T : Type} (c : Chain) (want : Nat) (a : Answer T) : Chain :=
  match a.next with
  | some next =>
    -- an entry the chain has for the next page is kept
    { c with
      cursors := if c.cursors.length = want then c.cursors ++ [next] else c.cursors
      ended := false }
  | none => { c with ended := true, cursors := c.cursors.take want }

/-- How a request ends: with the rows of its page, or with none. -/
def Request.settled {F T : Type} (r : Request F) (hasMore : Bool) (data : List T) : Settled T :=
  ⟨r.want, hasMore, (r.want - 1) * r.pageSize + data.length, data⟩

/-! ## Requests -/

/-- The hook, the number of requests issued, the fetch each unsettled one awaits, and
the outcome of each settled one (an error is the fetch's). -/
structure State (F T : Type) where
  hook : Hook
  issued : Nat
  pending : Nat → Option (Pending F)
  results : Nat → Option (Except Unit (Settled T))

/-- A page with the hook. -/
def State.initial {F T : Type} : State F T := ⟨.initial, 0, fun _ => none, fun _ => none⟩

/-- The parameters of the hook. -/
structure Config (F : Type) where
  /-- `JSON.stringify` of the filters. -/
  stringify : F → String
  defaultPageSize : Nat

section Machine
variable {F T : Type} (s : State F T) (i : Nat)

/-- The end of a request: `setState` and `return`. -/
def State.settle (r : Settled T) : State F T :=
  { s with
    hook := { s.hook with state := ⟨r.page, r.hasMore, r.loaded, false⟩ }
    pending := Function.update s.pending i none
    results := Function.update s.results i (some (.ok r)) }

/-- A request from the head of its walk to its next `await` or its end. -/
def State.carryOn (r : Request F) : State F T :=
  match s.hook.chain.resume r with
  | some p => { s with pending := Function.update s.pending i (some p) }
  | none => s.settle i (r.settled false [])

/-- The `catch` of a request. -/
def State.fail : State F T :=
  { s with
    hook := { s.hook with state := { s.hook.state with loading := false } }
    pending := Function.update s.pending i none
    results := Function.update s.results i (some (.error ())) }

/-- The continuation of a request with the answer it awaited. -/
def State.answer (p : Pending F) (a : Answer T) : State F T :=
  match p.stage with
  | .walking =>
    State.carryOn { s with hook := { s.hook with chain := s.hook.chain.walked a } } i p.request
  | .paging =>
    State.settle
      { s with hook := { s.hook with chain := s.hook.chain.paged p.request.want a } } i
      (p.request.settled a.next.isSome a.data)

/-- `go`: the page is set; the reload is a request of its own. -/
def State.go (page : Nat) : State F T := { s with hook := { s.hook with pageRef := page } }

variable (cfg : Config F)

/-- The hook once a request with these parameters has opened its window. -/
def Config.window (h : Hook) (p : Params F) : Hook :=
  h.openWindow (cfg.stringify p.filters) (p.pageSize.getD cfg.defaultPageSize)

/-- What a request with these parameters captures. -/
def Config.capture (h : Hook) (p : Params F) : Request F :=
  ⟨p.filters, cfg.stringify p.filters, p.pageSize.getD cfg.defaultPageSize,
    (cfg.window h p).pageRef⟩

/-- A request from its start to its first `await` or its end. -/
def State.request (p : Params F) : State F T :=
  let hook := cfg.window s.hook p
  State.carryOn
    { s with hook := { hook with state := { hook.state with loading := true } },
             issued := s.issued + 1 }
    s.issued (cfg.capture s.hook p)

end Machine

/-- The events of a run; `i` is a request, in the order they were issued. -/
inductive Event (F T : Type)
  | request (p : Params F)
  | answer (i : Nat) (a : Answer T)
  | fail (i : Nat)
  | first
  | previous
  | next

/-- One uninterrupted piece of code; the buttons are disabled as the pager disables
them. -/
inductive Step {F T : Type} (cfg : Config F) : State F T → Event F T → State F T → Prop
  | request {s : State F T} (p : Params F) : Step cfg s (.request p) (s.request cfg p)
  | answer {s : State F T} {i : Nat} {p : Pending F} (hp : s.pending i = some p)
      (a : Answer T) : Step cfg s (.answer i a) (s.answer i p a)
  | fail {s : State F T} {i : Nat} {p : Pending F} (hp : s.pending i = some p) :
      Step cfg s (.fail i) (s.fail i)
  | first {s : State F T} (hpage : 1 < s.hook.state.page) (hidle : s.hook.state.loading = false) :
      Step cfg s .first (s.go 1)
  | previous {s : State F T} (hpage : 1 < s.hook.state.page)
      (hidle : s.hook.state.loading = false) :
      Step cfg s .previous (s.go (s.hook.state.page - 1))
  | next {s : State F T} (hmore : s.hook.state.hasMore = true)
      (hidle : s.hook.state.loading = false) : Step cfg s .next (s.go (s.hook.state.page + 1))

/-- The history of a run of the hook. -/
abbrev History (F T : Type) : Type := List (State F T × Event F T)

/-! ## The hook's operations -/

section Operations
variable {F T : Type} {cfg : Config F} {s : State F T}

theorem Answer.next_ne_empty {a : Answer T} {c : String} (hc : a.next = some c) : c ≠ "" := by
  obtain ⟨-, hne⟩ := Option.filter_eq_some_iff.mp hc
  exact of_decide_eq_true hne

theorem orUndefined_eq_some {c d : String} : orUndefined c = some d ↔ c = d ∧ d ≠ "" := by
  unfold orUndefined
  split
  · rename_i hc
    subst hc
    simp [eq_comm]
  · rename_i hc
    rw [Option.some.injEq]
    constructor
    · rintro rfl
      exact ⟨rfl, hc⟩
    · rintro ⟨rfl, -⟩
      rfl

/-- A window is opened by a parameter change alone, and has the entry of page 1. -/
theorem window_cases (cfg : Config F) (h : Hook) (p : Params F) :
    cfg.window h p = h ∨
      ((cfg.window h p).chain.cursors = [""] ∧ (cfg.window h p).pageRef = 1 ∧
        (cfg.window h p).state = h.state) := by
  unfold Config.window Hook.openWindow
  split
  · exact Or.inr ⟨rfl, rfl, rfl⟩
  · exact Or.inl rfl

/-- The window a request runs in is that of its parameters. -/
theorem window_key (cfg : Config F) (h : Hook) (p : Params F) :
    (cfg.window h p).chain.filterKey = cfg.stringify p.filters ∧
      (cfg.window h p).chain.pageSize = p.pageSize.getD cfg.defaultPageSize := by
  unfold Config.window Hook.openWindow
  split
  · exact ⟨rfl, rfl⟩
  · rename_i hsame
    rw [not_or, not_not, not_not] at hsame
    exact ⟨hsame.1.symm, hsame.2.symm⟩

/-- Unchanged parameters stay in their window. -/
theorem window_same {h : Hook} {p : Params F}
    (hkey : cfg.stringify p.filters = h.chain.filterKey)
    (hsize : p.pageSize.getD cfg.defaultPageSize = h.chain.pageSize) : cfg.window h p = h := by
  rw [Config.window, Hook.openWindow, if_neg]
  rw [not_or, not_not, not_not]
  exact ⟨hkey, hsize⟩

/-- A page within the chain is fetched at once. -/
theorem resume_paging {c : Chain} {r : Request F} (hpos : 1 ≤ r.want)
    (hle : r.want ≤ c.cursors.length) :
    ∃ entry, c.cursors[r.want - 1]? = some entry ∧
      c.resume r = some ⟨r, .paging, orUndefined entry⟩ := by
  have hlt : r.want - 1 < c.cursors.length := by omega
  have hwalk : ¬ (c.ended = false ∧ c.cursors.length < r.want) := by omega
  refine ⟨_, List.getElem?_eq_getElem hlt, ?_⟩
  rw [Chain.resume, if_neg hwalk, Chain.entry, if_neg (by omega), List.getElem?_eq_getElem hlt]
  rfl

/-- The next fetch of a request is sent with a cursor of the chain, if with any. -/
theorem resume_cursor {c : Chain} {r : Request F} {p : Pending F} (hp : c.resume r = some p) :
    p.request = r ∧ ∀ x, p.cursor = some x → x ∈ c.cursors ∧ x ≠ "" := by
  unfold Chain.resume at hp
  split at hp
  · obtain rfl := Option.some.inj hp
    refine ⟨rfl, ?_⟩
    intro x hx
    obtain ⟨hlast, hne⟩ := orUndefined_eq_some.mp hx
    refine ⟨?_, hne⟩
    cases hget : c.cursors.getLast? with
    | none =>
      rw [hget] at hlast
      exact absurd hlast.symm hne
    | some y =>
      rw [hget] at hlast
      obtain rfl : y = x := hlast
      exact List.mem_of_getLast? hget
  · obtain ⟨entry, hentry, rfl⟩ := Option.map_eq_some_iff.mp hp
    refine ⟨rfl, ?_⟩
    intro x hx
    obtain ⟨rfl, hne⟩ := orUndefined_eq_some.mp hx
    refine ⟨?_, hne⟩
    unfold Chain.entry at hentry
    split at hentry
    · cases hentry
    · exact List.mem_of_getElem? hentry

@[simp] theorem paged_filterKey (c : Chain) (want : Nat) (a : Answer T) :
    (c.paged want a).filterKey = c.filterKey := by
  unfold Chain.paged
  cases a.next <;> rfl

@[simp] theorem paged_pageSize (c : Chain) (want : Nat) (a : Answer T) :
    (c.paged want a).pageSize = c.pageSize := by
  unfold Chain.paged
  cases a.next <;> rfl

/-- The last page ends the chain. -/
theorem paged_last {a : Answer T} (hnext : a.next = none) (c : Chain) (want : Nat) :
    (c.paged want a).cursors = c.cursors.take want := by
  rw [Chain.paged, hnext]

/-- A page with a next one extends the chain, if it was the chain's last. -/
theorem paged_more {a : Answer T} {next : String} (hnext : a.next = some next) (c : Chain)
    (want : Nat) : (c.paged want a).cursors =
      if c.cursors.length = want then c.cursors ++ [next] else c.cursors := by
  rw [Chain.paged, hnext]

/-- Whatever is answered for a page of the chain, the entries up to that page stay. -/
theorem paged_keeps {c : Chain} {want : Nat} (hle : want ≤ c.cursors.length) (a : Answer T) :
    want ≤ (c.paged want a).cursors.length ∧
      ∀ n, n < want → (c.paged want a).cursors[n]? = c.cursors[n]? := by
  cases hnext : a.next with
  | none =>
    rw [paged_last hnext]
    refine ⟨by rw [List.length_take]; omega, ?_⟩
    intro n hn
    exact List.getElem?_take_of_lt hn
  | some next =>
    rw [paged_more hnext]
    split
    · refine ⟨by rw [List.length_append]; omega, ?_⟩
      intro n hn
      exact List.getElem?_append_left (by omega)
    · exact ⟨hle, fun _ _ => rfl⟩

/-- A page with a next one has the entry of the next one. -/
theorem paged_lt {c : Chain} {want : Nat} (hle : want ≤ c.cursors.length) {a : Answer T}
    (hmore : a.next.isSome) : want < (c.paged want a).cursors.length := by
  obtain ⟨next, hnext⟩ := Option.isSome_iff_exists.mp hmore
  rw [paged_more hnext]
  split
  · rw [List.length_append, List.length_singleton]
    omega
  · omega

@[simp] theorem walked_filterKey (c : Chain) (a : Answer T) :
    (c.walked a).filterKey = c.filterKey := by
  unfold Chain.walked
  cases a.next <;> rfl

@[simp] theorem walked_pageSize (c : Chain) (a : Answer T) :
    (c.walked a).pageSize = c.pageSize := by
  unfold Chain.walked
  cases a.next <;> rfl

/-- A walk adds the cursor it is answered with. -/
theorem mem_walked {c : Chain} {a : Answer T} {x : String} (hx : x ∈ (c.walked a).cursors) :
    x ∈ c.cursors ∨ a.next = some x := by
  unfold Chain.walked at hx
  cases hnext : a.next with
  | none =>
    rw [hnext] at hx
    exact Or.inl hx
  | some next =>
    rw [hnext] at hx
    rcases List.mem_append.mp hx with hold | hnew
    · exact Or.inl hold
    · rw [List.mem_singleton.mp hnew]
      exact Or.inr rfl

/-- A page adds the cursor it is answered with, if it was the chain's last. -/
theorem mem_paged {c : Chain} {want : Nat} {a : Answer T} {x : String}
    (hx : x ∈ (c.paged want a).cursors) :
    x ∈ c.cursors ∨ (a.next = some x ∧ c.cursors.length = want) := by
  cases hnext : a.next with
  | none =>
    rw [paged_last hnext] at hx
    exact Or.inl (List.mem_of_mem_take hx)
  | some next =>
    rw [paged_more hnext] at hx
    split at hx
    · rename_i hend
      rcases List.mem_append.mp hx with hold | hnew
      · exact Or.inl hold
      · rw [List.mem_singleton.mp hnew]
        exact Or.inr ⟨rfl, hend⟩
    · exact Or.inl hx

@[simp] theorem go_hook (s : State F T) (page : Nat) :
    (s.go page).hook = { s.hook with pageRef := page } := rfl

/-- A request fetches, or ends with no rows. -/
theorem carryOn_cases (s : State F T) (i : Nat) (r : Request F) :
    (∃ p, s.hook.chain.resume r = some p ∧
      s.carryOn i r = { s with pending := Function.update s.pending i (some p) }) ∨
    (s.hook.chain.resume r = none ∧ s.carryOn i r = s.settle i (r.settled false [])) := by
  rw [State.carryOn]
  cases hresume : s.hook.chain.resume r with
  | none => exact Or.inr ⟨rfl, rfl⟩
  | some p => exact Or.inl ⟨p, rfl, rfl⟩

theorem carryOn_chain (s : State F T) (i : Nat) (r : Request F) :
    (s.carryOn i r).hook.chain = s.hook.chain := by
  rcases carryOn_cases s i r with ⟨p, -, hrun⟩ | ⟨-, hrun⟩
  · rw [hrun]
  · rw [hrun]
    rfl

theorem request_chain (p : Params F) :
    (s.request cfg p).hook.chain = (cfg.window s.hook p).chain := by
  rw [State.request]
  exact carryOn_chain ..

theorem answer_walking {i : Nat} {p : Pending F} (hstage : p.stage = .walking) (a : Answer T) :
    (s.answer i p a).hook.chain = s.hook.chain.walked a := by
  rw [State.answer, hstage]
  exact carryOn_chain ..

theorem answer_paging {i : Nat} {p : Pending F} (hstage : p.stage = .paging) (a : Answer T) :
    (s.answer i p a).hook.chain = s.hook.chain.paged p.request.want a := by
  rw [State.answer, hstage]
  rfl

/-- An answer opens no window. -/
theorem answer_window (s : State F T) (i : Nat) (p : Pending F) (a : Answer T) :
    (s.answer i p a).hook.chain.filterKey = s.hook.chain.filterKey ∧
      (s.answer i p a).hook.chain.pageSize = s.hook.chain.pageSize := by
  cases hstage : p.stage with
  | walking =>
    rw [answer_walking hstage]
    exact ⟨walked_filterKey .., walked_pageSize ..⟩
  | paging =>
    rw [answer_paging hstage]
    exact ⟨paged_filterKey .., paged_pageSize ..⟩

end Operations

end Testkit.CursorPager
