import Testkit.CursorPager

/-! # Sequential requests of the cursor pager

Every request is awaited before anything else happens, and succeeds.  Then a request
never walks: its page already has an entry cursor, so it is one fetch (`InFlight`), and
between requests the pager displays what the latest one showed (`Displayed`).

The chain keeps its entries across backward moves and refetches, so the cursor a
forward move sends need not be the one the page it leaves was last answered with:
`forward_cursor_iff` says exactly when it is.
-/
namespace Testkit.CursorPager
open LabelledRuns

variable {F T : Type} {cfg : Config F} {s t : State F T} {h : History F T}

/-- Requests and clicks come when nothing is awaited; no fetch fails. -/
def Sequential (s : State F T) : Event F T → Prop
  | .fail _ => False
  | .answer _ _ => True
  | _ => ∀ i, s.pending i = none

/-- The steps of a sequential run. -/
abbrev SeqStep (cfg : Config F) : State F T → Event F T → State F T → Prop :=
  Guarded (Step cfg) Sequential

/-! ## What a sequential run keeps -/

/-- The page to show has an entry cursor. -/
structure Ready (s : State F T) : Prop where
  page_pos : 1 ≤ s.hook.pageRef
  page_le : s.hook.pageRef ≤ s.hook.chain.cursors.length
  head : s.hook.chain.cursors[0]? = some ""

/-- The one request in flight awaits the fetch of its page. -/
structure InFlight (cfg : Config F) (s : State F T) (i : Nat) (p : Pending F) : Prop where
  only : ∀ j, j ≠ i → s.pending j = none
  stage : p.stage = .paging
  filterKey : p.request.filterKey = s.hook.chain.filterKey
  pageSize : p.request.pageSize = s.hook.chain.pageSize
  filters : cfg.stringify p.request.filters = p.request.filterKey
  want : p.request.want = s.hook.pageRef
  entry : ∃ entry, s.hook.chain.cursors[p.request.want - 1]? = some entry ∧
    p.cursor = orUndefined entry

/-- The answer an event of the history gave for a page of a window. -/
def fetched (filterKey : String) (pageSize page : Nat) : State F T × Event F T → Option (Answer T)
  | (v, .answer i a) =>
    match v.pending i with
    | some p =>
      if p.stage = .paging ∧ p.request.filterKey = filterKey ∧ p.request.pageSize = pageSize ∧
        p.request.want = page then some a else none
    | none => none
  | _ => none

/-- The most recent fetch of a page in a window: the state that was answered, and the
answer. -/
def latestFetch (h : History F T) (filterKey : String) (pageSize page : Nat) :
    Option (State F T × Answer T) :=
  h.findSome? fun e => (fetched filterKey pageSize page e).map fun a => (e.1, a)

/-- Between requests: what is displayed, and the fetch it comes from. -/
structure Displayed (h : History F T) (s : State F T) : Prop where
  page_pos : 1 ≤ s.hook.state.page
  page_le : s.hook.state.page ≤ s.hook.chain.cursors.length
  more_lt : s.hook.state.hasMore = true → s.hook.state.page < s.hook.chain.cursors.length
  latest : s.hook.state.hasMore = true → ∃ v a,
    latestFetch h s.hook.chain.filterKey s.hook.chain.pageSize s.hook.state.page = some (v, a) ∧
      a.next.isSome ∧ s.hook.chain = v.hook.chain.paged s.hook.state.page a

/-- The invariant of sequential runs. -/
structure SeqInv (cfg : Config F) (h : History F T) (s : State F T) : Prop where
  ready : Ready s
  phase : ((∀ i, s.pending i = none) ∧ Displayed h s) ∨ ∃ i p, s.pending i = some p ∧
    InFlight cfg s i p

theorem seqInv_initial : SeqInv cfg [] (State.initial : State F T) where
  ready := ⟨Nat.le_refl 1, Nat.le_refl 1, rfl⟩
  phase := Or.inl ⟨fun _ => rfl, Nat.le_refl 1, Nat.le_refl 1, nofun, nofun⟩

/-- Between requests the pager displays what the latest one showed. -/
theorem SeqInv.displayed (hinv : SeqInv cfg h s) (hidle : ∀ i, s.pending i = none) :
    Displayed h s := by
  rcases hinv.phase with ⟨-, hshow⟩ | ⟨i, p, hp, -⟩
  · exact hshow
  · rw [hidle i] at hp
    cases hp

/-- What is awaited is the one request in flight. -/
theorem SeqInv.inFlight (hinv : SeqInv cfg h s) {i : Nat} {p : Pending F}
    (hp : s.pending i = some p) : InFlight cfg s i p := by
  rcases hinv.phase with ⟨hidle, -⟩ | ⟨j, p', hp', hfly⟩
  · rw [hidle i] at hp
    cases hp
  · have hij : i = j := by
      apply Decidable.of_not_not
      intro hne
      rw [hfly.only i hne] at hp
      cases hp
    subst hij
    obtain rfl : p' = p := Option.some.inj (hp'.symm.trans hp)
    exact hfly

/-- The answer of the request in flight settles it. -/
theorem InFlight.answer_eq {i : Nat} {p : Pending F} (hfly : InFlight cfg s i p) (a : Answer T) :
    s.answer i p a = State.settle
      { s with hook := { s.hook with chain := s.hook.chain.paged p.request.want a } } i
      (p.request.settled a.next.isSome a.data) := by
  rw [State.answer, hfly.stage]

/-- Without the request in flight nothing is awaited. -/
theorem InFlight.update_idle {i : Nat} {p : Pending F} (hfly : InFlight cfg s i p) (j : Nat) :
    Function.update s.pending i none j = none := by
  by_cases hj : j = i
  · rw [hj, Function.update_self]
  · rw [Function.update_of_ne hj]
    exact hfly.only j hj

/-- Then nothing is awaited. -/
theorem InFlight.answer_idle {i : Nat} {p : Pending F} (hfly : InFlight cfg s i p)
    (a : Answer T) (j : Nat) : (s.answer i p a).pending j = none := by
  rw [hfly.answer_eq]
  exact hfly.update_idle j

/-- A page is set between requests; nothing else moves. -/
theorem seqInv_go {l : Event F T} (hinv : SeqInv cfg h s) (hidle : ∀ i, s.pending i = none)
    (hl : ∀ key size page, fetched key size page (s, l) = none) {page : Nat} (hpos : 1 ≤ page)
    (hle : page ≤ s.hook.chain.cursors.length) : SeqInv cfg ((s, l) :: h) (s.go page) := by
  have hshow := hinv.displayed hidle
  refine ⟨⟨hpos, hle, hinv.ready.head⟩, Or.inl ⟨hidle, ?_⟩⟩
  refine ⟨hshow.page_pos, hshow.page_le, hshow.more_lt, ?_⟩
  intro hmore
  obtain ⟨v, a, hlatest, hrest⟩ := hshow.latest hmore
  refine ⟨v, a, ?_, hrest⟩
  rw [latestFetch, List.findSome?_cons, hl]
  exact hlatest

/-- A request fetches its page. -/
theorem ready_request (cfg : Config F) (hready : Ready s) (hidle : ∀ i, s.pending i = none)
    (p : Params F) : ∃ pd, (s.request cfg p).pending s.issued = some pd ∧
      pd.request = cfg.capture s.hook p ∧ InFlight cfg (s.request cfg p) s.issued pd ∧
        Ready (s.request cfg p) := by
  have hwindow : 1 ≤ (cfg.window s.hook p).pageRef ∧
      (cfg.window s.hook p).pageRef ≤ (cfg.window s.hook p).chain.cursors.length ∧
      (cfg.window s.hook p).chain.cursors[0]? = some "" := by
    rcases window_cases cfg s.hook p with hsame | ⟨hcursors, hpage, -⟩
    · rw [hsame]
      exact ⟨hready.page_pos, hready.page_le, hready.head⟩
    · rw [hcursors, hpage]
      exact ⟨Nat.le_refl 1, Nat.le_refl 1, rfl⟩
  obtain ⟨hpos, hle, hhead⟩ := hwindow
  obtain ⟨entry, hentry, hresume⟩ :=
    resume_paging (c := (cfg.window s.hook p).chain) (r := cfg.capture s.hook p) hpos hle
  obtain ⟨hkey, hsize⟩ := window_key cfg s.hook p
  have hrun : s.request cfg p =
      ⟨{ cfg.window s.hook p with
          state := { (cfg.window s.hook p).state with loading := true } }, s.issued + 1,
        Function.update s.pending s.issued
          (some ⟨cfg.capture s.hook p, .paging, orUndefined entry⟩), s.results⟩ := by
    rw [State.request, State.carryOn]
    simp only [hresume]
  refine ⟨⟨cfg.capture s.hook p, .paging, orUndefined entry⟩, ?_, rfl, ?_, ?_⟩
  · rw [hrun]
    exact Function.update_self ..
  · rw [hrun]
    refine ⟨?_, rfl, hkey.symm, hsize.symm, rfl, rfl, entry, hentry, rfl⟩
    intro j hj
    show Function.update s.pending s.issued _ j = none
    rw [Function.update_of_ne hj]
    exact hidle j
  · rw [hrun]
    exact ⟨hpos, hle, hhead⟩

/-- Its answer keeps the entry cursor of the page. -/
theorem ready_answer (hready : Ready s) {i : Nat} {p : Pending F} (hfly : InFlight cfg s i p)
    (a : Answer T) : Ready (s.answer i p a) := by
  have hpos : 1 ≤ p.request.want := hfly.want ▸ hready.page_pos
  have hle : p.request.want ≤ s.hook.chain.cursors.length := hfly.want ▸ hready.page_le
  obtain ⟨hlen, hkeep⟩ := paged_keeps hle a
  rw [hfly.answer_eq]
  refine ⟨hready.page_pos, ?_, (hkeep 0 hpos).trans hready.head⟩
  show s.hook.pageRef ≤ (s.hook.chain.paged p.request.want a).cursors.length
  rw [← hfly.want]
  exact hlen

/-- An answer for the page of the request in flight settles it. -/
theorem seqInv_answer (hinv : SeqInv cfg h s) {i : Nat} {p : Pending F}
    (hp : s.pending i = some p) (hfly : InFlight cfg s i p) (a : Answer T) :
    SeqInv cfg ((s, .answer i a) :: h) (s.answer i p a) := by
  have hpos : 1 ≤ p.request.want := hfly.want ▸ hinv.ready.page_pos
  have hle : p.request.want ≤ s.hook.chain.cursors.length := hfly.want ▸ hinv.ready.page_le
  obtain ⟨hlen, -⟩ := paged_keeps hle a
  have hlatest : latestFetch ((s, .answer i a) :: h)
      (s.hook.chain.paged p.request.want a).filterKey
      (s.hook.chain.paged p.request.want a).pageSize p.request.want = some (s, a) := by
    rw [latestFetch, List.findSome?_cons]
    simp [fetched, hp, hfly.stage, hfly.filterKey, hfly.pageSize]
  have hidle := hfly.answer_idle a
  refine ⟨ready_answer hinv.ready hfly a, Or.inl ⟨hidle, ?_⟩⟩
  rw [hfly.answer_eq]
  exact ⟨hpos, hlen, paged_lt hle, fun hmore => ⟨s, a, hlatest, hmore, rfl⟩⟩

/-- **Sequential runs** keep the invariant. -/
theorem seqInv_of_run (hr : Run (SeqStep cfg) .initial h s) : SeqInv cfg h s := by
  refine hr.always seqInv_initial ?_
  rintro h s l t - hinv ⟨hseq, hs⟩
  -- a request and a click start from a displayed page, an answer from the request in flight
  cases hs with
  | request p =>
    obtain ⟨pd, hpd, -, hfly, hready⟩ := ready_request cfg hinv.ready hseq p
    exact ⟨hready, Or.inr ⟨s.issued, pd, hpd, hfly⟩⟩
  | @answer i p hp a => exact seqInv_answer hinv hp (hinv.inFlight hp) a
  | fail => exact hseq.elim
  | first hpage | previous hpage =>
    have hle := (hinv.displayed hseq).page_le
    exact seqInv_go hinv hseq (fun _ _ _ => rfl) (by omega) (by omega)
  | next hmore =>
    have hlt := (hinv.displayed hseq).more_lt hmore
    exact seqInv_go hinv hseq (fun _ _ _ => rfl) (by omega) (by omega)

/-- What an awaited request makes of the hook. -/
def Hook.awaited (cfg : Config F) (h : Hook) (p : Params F) (a : Answer T) : Hook :=
  let w := cfg.window h p
  ⟨w.pageRef,
    ⟨w.pageRef, a.next.isSome, (w.pageRef - 1) * w.chain.pageSize + a.data.length, false⟩,
    w.chain.paged w.pageRef a⟩

/-- **An awaited request is one fetch**, and then the latest one of its page. -/
theorem request_awaited (hr : Run (SeqStep cfg) .initial h s) (hidle : ∀ i, s.pending i = none)
    (p : Params F) (a : Answer T) : ∃ t,
      Run (SeqStep cfg) .initial
        ((s.request cfg p, .answer s.issued a) :: (s, .request p) :: h) t ∧
      (∀ i, t.pending i = none) ∧ t.hook = s.hook.awaited cfg p a ∧
      latestFetch ((s.request cfg p, .answer s.issued a) :: (s, .request p) :: h)
        (cfg.window s.hook p).chain.filterKey (cfg.window s.hook p).chain.pageSize
        (cfg.window s.hook p).pageRef = some (s.request cfg p, a) := by
  obtain ⟨pd, hpd, hcapture, hfly, -⟩ := ready_request cfg (seqInv_of_run hr).ready hidle p
  have hissued : Run (SeqStep cfg) .initial ((s, .request p) :: h) (s.request cfg p) :=
    hr.next ⟨hidle, Step.request p⟩
  obtain ⟨hkey, hsize⟩ := window_key cfg s.hook p
  have hchain : (s.request cfg p).hook.chain = (cfg.window s.hook p).chain := request_chain p
  refine ⟨_, hissued.next ⟨trivial, Step.answer hpd a⟩, hfly.answer_idle a, ?_, ?_⟩
  · rw [hfly.answer_eq]
    show (⟨(s.request cfg p).hook.pageRef, _, (s.request cfg p).hook.chain.paged _ a⟩ : Hook) = _
    rw [hchain, ← hfly.want, hcapture]
    simp only [Hook.awaited, Request.settled, Config.capture, hsize]
  · rw [latestFetch, List.findSome?_cons]
    simp [fetched, hpd, hfly.stage, hcapture, Config.capture, hkey, hsize]

/-! ## Moving forward -/

/-- The entry of the next page, once a page with a next one is answered, is the cursor of
that answer exactly when the chain had none or that one. -/
theorem paged_entry_iff {c : Chain} {page : Nat} {a : Answer T} (hmore : a.next.isSome)
    {entry : String}
    (hentry : (c.paged page a).cursors[page]? = some entry) :
    orUndefined entry = a.next ↔ c.entry (page + 1) = none ∨ c.entry (page + 1) = a.next := by
  obtain ⟨next, hnext⟩ := Option.isSome_iff_exists.mp hmore
  have hbefore : c.entry (page + 1) = c.cursors[page]? := by
    rw [Chain.entry, if_neg (Nat.succ_ne_zero _), Nat.add_sub_cancel]
  rw [hnext, hbefore, orUndefined_eq_some, and_iff_left (Answer.next_ne_empty hnext)]
  rw [paged_more hnext] at hentry
  by_cases hend : c.cursors.length = page
  · -- the answer has just extended the chain
    rw [if_pos hend, List.getElem?_append_right (by omega), hend, Nat.sub_self] at hentry
    have hnone : c.cursors[page]? = none := List.getElem?_eq_none (by omega)
    exact iff_of_true (Option.some.inj hentry).symm (Or.inl hnone)
  · -- an older entry was kept
    rw [if_neg hend] at hentry
    rw [hentry]
    simp

/-- **The cursor a forward move sends** is the one its page was last answered with,
exactly when the chain, as that answer found it, had no entry for the next page or
that very cursor. -/
theorem forward_cursor_iff (hr : Run (SeqStep cfg) .initial h s) {s₁ s₂ : State F T}
    {p : Params F} (hnext : SeqStep cfg s .next s₁) (hreq : SeqStep cfg s₁ (.request p) s₂)
    (hkey : cfg.stringify p.filters = s.hook.chain.filterKey)
    (hsize : p.pageSize.getD cfg.defaultPageSize = s.hook.chain.pageSize) :
    ∃ v a pd, latestFetch h s.hook.chain.filterKey s.hook.chain.pageSize s.hook.state.page =
        some (v, a) ∧
      s₂.pending s₁.issued = some pd ∧ pd.stage = .paging ∧
      pd.request.want = s.hook.state.page + 1 ∧
      (pd.cursor = a.next ↔ v.hook.chain.entry (s.hook.state.page + 1) = none ∨
        v.hook.chain.entry (s.hook.state.page + 1) = a.next) := by
  have hinv := seqInv_of_run hr
  obtain ⟨hidle, hclick⟩ := hnext
  obtain ⟨hidle₁, hissue⟩ := hreq
  have hidle' : ∀ i, s.pending i = none := hidle
  have hidle₁' : ∀ i, s₁.pending i = none := hidle₁
  cases hissue
  cases hclick with
  | next hmore _ =>
    have hshow := hinv.displayed hidle'
    have hlt := hshow.more_lt hmore
    have hinv₁ : SeqInv cfg ((s, .next) :: h) (s.go (s.hook.state.page + 1)) :=
      seqInv_go hinv hidle' (fun _ _ _ => rfl) (by omega) (by omega)
    obtain ⟨pd, hpd, hcapture, hfly, -⟩ := ready_request cfg hinv₁.ready hidle₁' p
    obtain ⟨v, a, hlatest, hnext, hchain⟩ := hshow.latest hmore
    -- the request stays in the window, so it wants the page and reads the chain
    have hsame : cfg.window (s.go (s.hook.state.page + 1)).hook p =
        (s.go (s.hook.state.page + 1)).hook := window_same hkey hsize
    have hwant : pd.request.want = s.hook.state.page + 1 := by
      rw [hcapture, Config.capture, hsame]
      rfl
    obtain ⟨entry, hentry, hcursor⟩ := hfly.entry
    rw [request_chain, hsame, hwant, Nat.add_sub_cancel] at hentry
    have hread : (v.hook.chain.paged s.hook.state.page a).cursors[s.hook.state.page]? =
        some entry := by
      rw [← hchain]
      exact hentry
    refine ⟨v, a, pd, hlatest, hpd, hfly.stage, hwant, ?_⟩
    rw [hcursor]
    exact paged_entry_iff hnext hread

/-- A forward move sends what the latest fetch of its page returned. -/
def ForwardFresh (cfg : Config F) (T : Type) : Prop :=
  ∀ (h : History F T) s s₁ s₂ p, Run (SeqStep cfg) .initial h s → SeqStep cfg s .next s₁ →
    SeqStep cfg s₁ (.request p) s₂ → cfg.stringify p.filters = s.hook.chain.filterKey →
      p.pageSize.getD cfg.defaultPageSize = s.hook.chain.pageSize → ∀ v a pd,
        latestFetch h s.hook.chain.filterKey s.hook.chain.pageSize s.hook.state.page =
          some (v, a) → s₂.pending s₁.issued = some pd → pd.cursor = a.next

/-- The next-page button of a pager whose hook is known. -/
theorem next_of_hook {hook : Hook} (hhook : s.hook = hook) (hmore : hook.state.hasMore = true)
    (hidle : hook.state.loading = false) : Step cfg s .next (s.go (hook.state.page + 1)) := by
  subst hhook
  exact .next hmore hidle

/-- Its previous-page button. -/
theorem previous_of_hook {hook : Hook} (hhook : s.hook = hook) (hpage : 1 < hook.state.page)
    (hidle : hook.state.loading = false) :
    Step cfg s .previous (s.go (hook.state.page - 1)) := by
  subst hhook
  exact .previous hpage hidle

/-! ### A log read by one table without filters -/

def logTable : Config Unit := ⟨fun _ => "{}", 20⟩

def reload : Params Unit := ⟨(), none⟩

/-- One row and a cursor. -/
def rowThen (row : Nat) (cursor : String) : Answer Nat := ⟨some [row], some cursor⟩

/-- The table after its first load. -/
theorem log_loaded : ∃ (h : History Unit Nat) (t : State Unit Nat),
    Run (SeqStep logTable) .initial h t ∧ (∀ i, t.pending i = none) ∧
      t.hook = ⟨1, ⟨1, true, 1, false⟩, ⟨["", "c1"], "{}", 20, false⟩⟩ := by
  have hstart : Run (SeqStep logTable) (.initial : State Unit Nat) [] .initial := .start
  obtain ⟨t, hr, hidle, hhook, -⟩ :=
    request_awaited hstart (fun _ => rfl) reload (rowThen 10 "c1")
  refine ⟨_, t, hr, hidle, hhook.trans ?_⟩
  decide

/-- From the first load forward: the chain had no entry for page 2. -/
theorem forward_cursor_iff_log : ∃ (s v : State Unit Nat) (a : Answer Nat) (pd : Pending Unit),
    (s.request logTable reload).pending s.issued = some pd ∧
      (pd.cursor = a.next ↔ v.hook.chain.entry 2 = none ∨ v.hook.chain.entry 2 = a.next) := by
  obtain ⟨h, t, hr, hidle, hhook⟩ := log_loaded
  have hnext : SeqStep logTable t .next (t.go 2) := ⟨hidle, next_of_hook hhook rfl rfl⟩
  obtain ⟨v, a, pd, -, hpd, -, -, hiff⟩ := forward_cursor_iff hr hnext
    (p := reload) ⟨hidle, Step.request reload⟩ (by rw [hhook]; rfl) (by rw [hhook]; rfl)
  rw [hhook] at hiff
  exact ⟨t.go 2, v, a, pd, hpd, hiff⟩

/-- Two pages are read, then page 1 again, which new rows have pushed: the cursor it is
answered with now is `d1`, and the forward move still sends `c1`. -/
theorem forwardFresh_log : ¬ ForwardFresh logTable Nat := by
  intro hfresh
  obtain ⟨h, t, hr, hidle, hhook⟩ := log_loaded
  have hnext : SeqStep logTable t .next (t.go 2) := ⟨hidle, next_of_hook hhook rfl rfl⟩
  -- page 2
  obtain ⟨t₂, hr₂, hidle₂, hhook₂, -⟩ :=
    request_awaited (hr.next hnext) hidle reload (rowThen 9 "c2")
  have hpage₂ : t₂.hook = ⟨2, ⟨2, true, 21, false⟩, ⟨["", "c1", "c2"], "{}", 20, false⟩⟩ := by
    rw [hhook₂, go_hook, hhook]
    decide
  have hprevious : SeqStep logTable t₂ .previous (t₂.go 1) :=
    ⟨hidle₂, previous_of_hook hpage₂ (by decide) rfl⟩
  -- page 1 again
  obtain ⟨t₁, hr₁, hidle₁, hhook₁, hlatest⟩ :=
    request_awaited (hr₂.next hprevious) hidle₂ reload (rowThen 11 "d1")
  have hpage₁ : t₁.hook = ⟨1, ⟨1, true, 1, false⟩, ⟨["", "c1", "c2"], "{}", 20, false⟩⟩ := by
    rw [hhook₁, go_hook, hpage₂]
    decide
  have hforward : SeqStep logTable t₁ .next (t₁.go 2) := ⟨hidle₁, next_of_hook hpage₁ rfl rfl⟩
  have hgo : (t₁.go 2).hook =
      ⟨2, ⟨1, true, 1, false⟩, ⟨["", "c1", "c2"], "{}", 20, false⟩⟩ := by
    rw [go_hook, hpage₁]
  have hsent : ((t₁.go 2).request logTable reload).pending (t₁.go 2).issued =
      some ⟨⟨(), "{}", 20, 2⟩, .paging, some "c1"⟩ := by
    rw [State.request, State.carryOn, hgo]
    exact Function.update_self ..
  have hwindow : logTable.window (t₂.go 1).hook reload =
      ⟨1, ⟨2, true, 21, false⟩, ⟨["", "c1", "c2"], "{}", 20, false⟩⟩ := by
    rw [go_hook, hpage₂]
    decide
  rw [hwindow] at hlatest
  have hcursor := hfresh _ t₁ _ _ reload hr₁ hforward ⟨hidle₁, Step.request reload⟩
    (by rw [hpage₁]; rfl) (by rw [hpage₁]; rfl) _ _ _ (by rw [hpage₁]; exact hlatest) hsent
  revert hcursor
  decide

end Testkit.CursorPager
