import Testkit.PagerOffset
import Testkit.PagerOverlap

/-! # Failing requests of the cursor pager

Every request is awaited, and its fetch may throw.  A click sets the page and a parameter
change opens the window before the fetch is sent, the display changes after it, and the
`catch` takes nothing back.  So a fetch that throws leaves the pager as it was only if its
page and its window are those of the display (`Harmless`): then the pager at rest displays
what its next reload fetches (`failures_leave_consistent`), and otherwise it does not
(`harmful_fail_inconsistent`).
-/
namespace Testkit.CursorPager
open LabelledRuns

variable {F T : Type} {cfg : Config F} {s : State F T} {h : History F T}

/-- Requests and clicks come when nothing is awaited; a fetch may fail. -/
def Awaited (s : State F T) : Event F T → Prop
  | .answer _ _ => True
  | .fail _ => True
  | _ => ∀ i, s.pending i = none

/-- The steps of a sequential run with failures. -/
abbrev AwaitedStep (cfg : Config F) : State F T → Event F T → State F T → Prop :=
  Guarded (Step cfg) Awaited

/-! ## What is displayed -/

/-- The request an event settles with success, and how. -/
def settledBy (cfg : Config F) : State F T × Event F T → Option (Request F × Settled T)
  | (v, .request p) =>
    let r := cfg.capture v.hook p
    if ((cfg.window v.hook p).chain.resume r).isNone then some (r, r.settled false []) else none
  | (v, .answer i a) =>
    (v.pending i).bind fun p =>
      match p.stage with
      | .paging => some (p.request, p.request.settled a.next.isSome a.data)
      | .walking =>
        if ((v.hook.chain.walked a).resume p.request).isNone then
          some (p.request, p.request.settled false [])
        else none
  | _ => none

/-- A display without its spinner. -/
def PagerState.still (d : PagerState) : PagerState := { d with loading := false }

/-- The most recent request that was settled with success. -/
def lastSettled (cfg : Config F) (h : History F T) : Option (Request F × Settled T) :=
  h.findSome? (settledBy cfg)

/-- What it displays; before the first one, the pager's initial state. -/
def lastDisplay (cfg : Config F) (h : History F T) : PagerState :=
  match lastSettled cfg h with
  | some (_, r) => r.display
  | none => Hook.initial.state

theorem lastSettled_some {e : State F T × Event F T} {x : Request F × Settled T}
    (he : settledBy cfg e = some x) (h : History F T) : lastSettled cfg (e :: h) = some x := by
  rw [lastSettled, List.findSome?_cons, he]

theorem lastSettled_none {e : State F T × Event F T} (he : settledBy cfg e = none)
    (h : History F T) : lastSettled cfg (e :: h) = lastSettled cfg h := by
  rw [lastSettled, List.findSome?_cons, he]
  rfl

/-- A request that goes on to a fetch has only opened its window. -/
theorem request_fetching {p : Params F} {pd : Pending F}
    (hpd : (s.request cfg p).pending s.issued = some pd) :
    (cfg.window s.hook p).chain.resume (cfg.capture s.hook p) = some pd ∧
      (s.request cfg p).hook = { cfg.window s.hook p with
        state := { (cfg.window s.hook p).state with loading := true } } := by
  cases hresume : (cfg.window s.hook p).chain.resume (cfg.capture s.hook p) with
  | none =>
    simp only [State.request, State.carryOn, hresume, State.settle, Function.update_self] at hpd
    cases hpd
  | some q =>
    simp only [State.request, State.carryOn, hresume, Function.update_self] at hpd ⊢
    exact ⟨hpd, trivial⟩

/-- It settles nothing. -/
theorem settledBy_request {p : Params F} {pd : Pending F}
    (hpd : (s.request cfg p).pending s.issued = some pd) :
    settledBy cfg (s, .request p) = none := by
  simp [settledBy, (request_fetching hpd).1]

/-- An answer for a page settles its request. -/
theorem settledBy_paging {i : Nat} {p : Pending F} (hp : s.pending i = some p)
    (hstage : p.stage = .paging) (a : Answer T) : settledBy cfg (s, .answer i a) =
      some (p.request, p.request.settled a.next.isSome a.data) := by
  simp [settledBy, hp, hstage]

/-- The display is that of the last settled request, in every run. -/
theorem still_lastDisplay (hr : Run (Step cfg) .initial h s) :
    s.hook.state.still = lastDisplay cfg h := by
  refine hr.always (P := fun h s => s.hook.state.still = lastDisplay cfg h) rfl ?_
  intro h s l t _ ih hs
  have hkept : settledBy cfg (s, l) = none → t.hook.state.still = s.hook.state.still →
      t.hook.state.still = lastDisplay cfg ((s, l) :: h) := by
    intro hnone hsame
    rw [hsame, ih, lastDisplay, lastDisplay, lastSettled_none hnone]
  have hsettled : ∀ r x, settledBy cfg (s, l) = some (r, x) → t.hook.state = x.display →
      t.hook.state.still = lastDisplay cfg ((s, l) :: h) := by
    intro r x hsome hshow
    rw [hshow, lastDisplay, lastSettled_some hsome]
    rfl
  cases hs with
  | request p =>
    have hwindow : (cfg.window s.hook p).state = s.hook.state := by
      rcases window_cases cfg s.hook p with hsame | ⟨-, -, hstate⟩
      · rw [hsame]
      · exact hstate
    cases hresume : (cfg.window s.hook p).chain.resume (cfg.capture s.hook p) with
    | none =>
      apply hsettled (cfg.capture s.hook p) ((cfg.capture s.hook p).settled false [])
      · simp [settledBy, hresume]
      · simp only [State.request, State.carryOn, hresume]
        rfl
    | some pd =>
      apply hkept
      · simp [settledBy, hresume]
      · simp only [State.request, State.carryOn, hresume, PagerState.still, hwindow]
  | @answer i p hp a =>
    cases hstage : p.stage with
    | paging =>
      apply hsettled _ _ (settledBy_paging hp hstage a)
      rw [State.answer, hstage]
      rfl
    | walking =>
      cases hresume : (s.hook.chain.walked a).resume p.request with
      | none =>
        apply hsettled p.request (p.request.settled false [])
        · simp [settledBy, hp, hstage, hresume]
        · simp only [State.answer, hstage, State.carryOn, hresume]
          rfl
      | some pd =>
        apply hkept
        · simp [settledBy, hp, hstage, hresume]
        · simp only [State.answer, hstage, State.carryOn, hresume]
  | fail hp => exact hkept rfl rfl
  | first _ _ => exact hkept rfl rfl
  | previous _ _ => exact hkept rfl rfl
  | next _ _ => exact hkept rfl rfl

/-! ## The guarantee and its condition -/

/-- The buttons. -/
def Event.isClick : Event F T → Bool
  | .first => true
  | .previous => true
  | .next => true
  | _ => false

/-- Nothing is awaited, and no click waits for its reload. -/
structure AtRest (h : History F T) (s : State F T) : Prop where
  idle : ∀ i, s.pending i = none
  clicked : ∀ e ∈ h.head?, e.2.isClick = false

/-- **The guarantee**: what is displayed comes from a request for the page and the window
that the next reload fetches. -/
structure Consistent (cfg : Config F) (h : History F T) (s : State F T) : Prop where
  display : s.hook.state = lastDisplay cfg h
  page : s.hook.pageRef = s.hook.state.page
  window : ∀ req r, lastSettled cfg h = some (req, r) → req.InWindow cfg s.hook.chain

/-- **The condition on a run**: where a fetch throws, it is for the page and in the window of
what is displayed, if anything is. -/
def Harmless (cfg : Config F) : History F T → Prop
  | [] => True
  | (v, .fail i) :: h =>
    (∀ p req r, v.pending i = some p → lastSettled cfg h = some (req, r) →
      p.request.want = r.page ∧ cfg.stringify p.request.filters = cfg.stringify req.filters ∧
        p.request.pageSize = req.pageSize) ∧ Harmless cfg h
  | _ :: h => Harmless cfg h

theorem Harmless.tail {e : State F T × Event F T} (hharm : Harmless cfg (e :: h)) :
    Harmless cfg h := by
  obtain ⟨v, l⟩ := e
  cases l with
  | fail i => exact hharm.2
  | request p => exact hharm
  | answer i a => exact hharm
  | first | previous | next => exact hharm

/-! ## What a run of harmless failures keeps -/

/-- The last settled request and the chain. -/
structure Shows (cfg : Config F) (c : Chain) (req : Request F) (r : Settled T) : Prop where
  page_pos : 1 ≤ r.page
  page_le : req.InWindow cfg c → r.page ≤ c.cursors.length
  more_lt : req.InWindow cfg c → r.hasMore = true → r.page < c.cursors.length

/-- The invariant of sequential runs whose failures are harmless. -/
structure FailInv (cfg : Config F) (h : History F T) (s : State F T) : Prop where
  ready : Ready s
  flying : ∀ i p, s.pending i = some p → InFlight cfg s i p
  unshown : lastSettled cfg h = none → s.hook.pageRef = 1
  shown : ∀ req r, lastSettled cfg h = some (req, r) → Shows cfg s.hook.chain req r
  still : (∀ i, s.pending i = none) → s.hook.state.loading = false
  window : (∀ i, s.pending i = none) → ∀ req r, lastSettled cfg h = some (req, r) →
    req.InWindow cfg s.hook.chain
  rest : AtRest h s → s.hook.pageRef = (lastDisplay cfg h).page

theorem failInv_initial : FailInv cfg [] (State.initial : State F T) where
  ready := ⟨Nat.le_refl 1, Nat.le_refl 1, rfl⟩
  flying := nofun
  unshown := fun _ => rfl
  shown := nofun
  still := fun _ => rfl
  window := fun _ => nofun
  rest := fun _ => rfl

/-- A request fetches its page; what is displayed stays what it was. -/
theorem failInv_request (hinv : FailInv cfg h s) (hidle : ∀ i, s.pending i = none)
    (p : Params F) : FailInv cfg ((s, .request p) :: h) (s.request cfg p) := by
  obtain ⟨pd, hpd, hcapture, hfly, hready⟩ := ready_request cfg hinv.ready hidle p
  have hlast := lastSettled_none (settledBy_request hpd) h
  have hbusy : ¬ ∀ i, (s.request cfg p).pending i = none := by
    intro hnone
    rw [hnone s.issued] at hpd
    cases hpd
  have hpage : (s.request cfg p).hook.pageRef = (cfg.window s.hook p).pageRef := by
    rw [← hfly.want, hcapture]
    rfl
  refine ⟨hready, ?_, ?_, ?_, fun hnone => absurd hnone hbusy, fun hnone => absurd hnone hbusy,
    fun hrest => absurd hrest.idle hbusy⟩
  · intro i q hq
    by_cases hi : i = s.issued
    · subst hi
      obtain rfl : pd = q := Option.some.inj (hpd.symm.trans hq)
      exact hfly
    · rw [hfly.only i hi] at hq
      cases hq
  · intro hnone
    rw [hlast] at hnone
    rw [hpage]
    rcases window_cases cfg s.hook p with hsame | ⟨-, hone, -⟩
    · rw [hsame]
      exact hinv.unshown hnone
    · exact hone
  · intro req r hsome
    rw [hlast] at hsome
    have hshown := hinv.shown req r hsome
    obtain ⟨hkey, hsize⟩ := hinv.window hidle req r hsome
    -- a request in the window of the display finds the chain as it was
    have hchain : req.InWindow cfg (s.request cfg p).hook.chain →
        (s.request cfg p).hook.chain = s.hook.chain := by
      intro hin
      rw [request_chain] at hin ⊢
      obtain ⟨hkey', hsize'⟩ := window_key cfg s.hook p
      rw [window_same]
      · rw [← hkey', ← hin.1, hkey]
      · rw [← hsize', ← hin.2, hsize]
    refine ⟨hshown.page_pos, ?_, ?_⟩
    · intro hin
      have hsame := hchain hin
      rw [hsame] at hin ⊢
      exact hshown.page_le hin
    · intro hin
      have hsame := hchain hin
      rw [hsame] at hin ⊢
      exact hshown.more_lt hin

/-- An answer is what is displayed next. -/
theorem failInv_answer (hinv : FailInv cfg h s) {i : Nat} {p : Pending F}
    (hp : s.pending i = some p) (a : Answer T) :
    FailInv cfg ((s, .answer i a) :: h) (s.answer i p a) := by
  have hfly := hinv.flying i p hp
  have hpos : 1 ≤ p.request.want := hfly.want ▸ hinv.ready.page_pos
  have hle : p.request.want ≤ s.hook.chain.cursors.length := hfly.want ▸ hinv.ready.page_le
  obtain ⟨hlen, -⟩ := paged_keeps hle a
  have hlast : lastSettled cfg ((s, .answer i a) :: h) = _ :=
    lastSettled_some (settledBy_paging hp hfly.stage a) h
  have hidle := hfly.answer_idle a
  have hchain := answer_paging (s := s) (i := i) hfly.stage a
  have hpage : (s.answer i p a).hook.pageRef = p.request.want := by
    rw [hfly.answer_eq]
    exact hfly.want.symm
  have hwindow : p.request.InWindow cfg (s.answer i p a).hook.chain := by
    rw [hchain, Request.InWindow, paged_filterKey, paged_pageSize]
    exact ⟨hfly.filters.trans hfly.filterKey, hfly.pageSize⟩
  constructor
  · exact ready_answer hinv.ready hfly a
  · intro j q hq
    rw [hidle j] at hq
    cases hq
  · intro hnone
    rw [hlast] at hnone
    cases hnone
  · intro req r hsome
    rw [hlast] at hsome
    cases hsome
    rw [hchain]
    exact ⟨hpos, fun _ => hlen, fun _ => paged_lt hle⟩
  · intro _
    rw [hfly.answer_eq]
    rfl
  · intro _ req r hsome
    rw [hlast] at hsome
    cases hsome
    exact hwindow
  · intro _
    rw [hpage, lastDisplay, hlast]
    rfl

/-- When its fetch throws, nothing is awaited. -/
theorem InFlight.fail_idle {i : Nat} {p : Pending F} (hfly : InFlight cfg s i p) (j : Nat) :
    (s.fail i).pending j = none := hfly.update_idle j

/-- A fetch that throws for what is displayed leaves it all as it was. -/
theorem failInv_fail (hinv : FailInv cfg h s) {i : Nat} {p : Pending F}
    (hp : s.pending i = some p) (hharm : Harmless cfg ((s, .fail i) :: h)) :
    FailInv cfg ((s, .fail i) :: h) (s.fail i) := by
  have hfly := hinv.flying i p hp
  have hlast : lastSettled cfg ((s, .fail i) :: h) = lastSettled cfg h := lastSettled_none rfl h
  have hidle := hfly.fail_idle
  refine ⟨⟨hinv.ready.page_pos, hinv.ready.page_le, hinv.ready.head⟩, ?_, ?_, ?_,
    fun _ => rfl, ?_, ?_⟩
  · intro j q hq
    rw [hidle j] at hq
    cases hq
  · rw [hlast]
    exact hinv.unshown
  · rw [hlast]
    exact hinv.shown
  · intro _ req r hsome
    rw [hlast] at hsome
    obtain ⟨-, hkey, hsize⟩ := hharm.1 p req r hp hsome
    exact ⟨hkey.symm.trans (hfly.filters.trans hfly.filterKey), hsize.symm.trans hfly.pageSize⟩
  · intro _
    show s.hook.pageRef = _
    rw [lastDisplay, hlast]
    cases hsome : lastSettled cfg h with
    | none => exact hinv.unshown hsome
    | some x =>
      obtain ⟨hwant, -, -⟩ := hharm.1 p x.1 x.2 hp hsome
      rw [← hfly.want, hwant]
      rfl

/-- A click sets a page of the chain. -/
theorem failInv_go {l : Event F T} (hinv : FailInv cfg h s) (hidle : ∀ i, s.pending i = none)
    (hclick : l.isClick = true) (hl : settledBy cfg (s, l) = none)
    (hshown : ∃ x, lastSettled cfg h = some x) {page : Nat} (hpos : 1 ≤ page)
    (hle : page ≤ s.hook.chain.cursors.length) : FailInv cfg ((s, l) :: h) (s.go page) := by
  have hlast := lastSettled_none hl h
  refine ⟨⟨hpos, hle, hinv.ready.head⟩, ?_, ?_, ?_, fun _ => hinv.still hidle, ?_, ?_⟩
  · intro i p hp
    exact absurd ((hidle i).symm.trans hp) nofun
  · intro hnone
    obtain ⟨x, hx⟩ := hshown
    rw [hlast, hx] at hnone
    cases hnone
  · rw [hlast]
    exact hinv.shown
  · rw [hlast]
    exact fun _ => hinv.window hidle
  · intro hrest
    rw [hrest.clicked _ rfl] at hclick
    cases hclick

/-- A displayed page other than the first, or with a next one, comes from a request. -/
theorem FailInv.displayed (hinv : FailInv cfg h s) (hr : Run (Step cfg) .initial h s)
    (hidle : ∀ i, s.pending i = none)
    (hpage : 1 < s.hook.state.page ∨ s.hook.state.hasMore = true) :
    (∃ x, lastSettled cfg h = some x) ∧ 1 ≤ s.hook.state.page ∧
      s.hook.state.page ≤ s.hook.chain.cursors.length ∧
      (s.hook.state.hasMore = true → s.hook.state.page < s.hook.chain.cursors.length) := by
  have hstill := still_lastDisplay hr
  cases hlast : lastSettled cfg h with
  | none =>
    rw [lastDisplay, hlast] at hstill
    have hone : s.hook.state.page = 1 := congrArg PagerState.page hstill
    have hnone : s.hook.state.hasMore = false := congrArg PagerState.hasMore hstill
    rw [hone, hnone] at hpage
    rcases hpage with hpage | hpage
    · omega
    · cases hpage
  | some x =>
    rw [lastDisplay, hlast] at hstill
    have hpage : s.hook.state.page = x.2.page := congrArg PagerState.page hstill
    have hmore : s.hook.state.hasMore = x.2.hasMore := congrArg PagerState.hasMore hstill
    have hshown := hinv.shown x.1 x.2 hlast
    have hwindow := hinv.window hidle x.1 x.2 hlast
    rw [hpage, hmore]
    exact ⟨⟨x, rfl⟩, hshown.page_pos, hshown.page_le hwindow, hshown.more_lt hwindow⟩

/-- **Sequential runs whose failures are harmless** keep the invariant. -/
theorem failInv_of_run (hr : Run (AwaitedStep cfg) .initial h s) (hharm : Harmless cfg h) :
    FailInv cfg h s := by
  refine hr.always (P := fun h s => Harmless cfg h → FailInv cfg h s)
    (fun _ => failInv_initial) ?_ hharm
  rintro h s l t hr ih ⟨hseq, hs⟩ hharm
  have hinv := ih hharm.tail
  cases hs with
  | request p => exact failInv_request hinv hseq p
  | @answer i p hp a => exact failInv_answer hinv hp a
  | @fail i p hp => exact failInv_fail hinv hp hharm
  | first hpage =>
    obtain ⟨hshown, -, -, -⟩ := hinv.displayed hr.of_guarded hseq (.inl hpage)
    have hle := hinv.ready.page_le
    have hpos := hinv.ready.page_pos
    exact failInv_go hinv hseq rfl rfl hshown (Nat.le_refl 1) (by omega)
  | previous hpage =>
    obtain ⟨hshown, -, hle, -⟩ := hinv.displayed hr.of_guarded hseq (.inl hpage)
    exact failInv_go hinv hseq rfl rfl hshown (by omega) (by omega)
  | next hmore =>
    obtain ⟨hshown, hpos, -, hlt⟩ := hinv.displayed hr.of_guarded hseq (.inr hmore)
    have hlt := hlt hmore
    exact failInv_go hinv hseq rfl rfl hshown (by omega) (by omega)

/-- A pager at rest is consistent. -/
theorem consistent_of_run (hr : Run (AwaitedStep cfg) .initial h s) (hharm : Harmless cfg h)
    (hrest : AtRest h s) : Consistent cfg h s := by
  have hinv := failInv_of_run hr hharm
  have hstill := still_lastDisplay hr.of_guarded
  have hdisplay : s.hook.state = lastDisplay cfg h := by
    rw [← hstill, PagerState.still, ← hinv.still hrest.idle]
  refine ⟨hdisplay, ?_, hinv.window hrest.idle⟩
  rw [hdisplay]
  exact hinv.rest hrest

/-! ## The rows of the window -/

/-- The answers of a run are in accordance with a listing. -/
def Served (L : Listing T) (h : History F T) : Prop :=
  ∀ v i a p, (v, .answer i a) ∈ h → v.pending i = some p → L.Serves p a

/-- What holds of the cursors and of what is displayed, over an unchanging list. -/
structure RowsInv (cfg : Config F) (L : Listing T) (h : History F T) (s : State F T) : Prop where
  positioned : Positioned L s.hook.chain
  loaded : ∀ req r, lastSettled cfg h = some (req, r) →
    r.loaded ≤ (L.rows (cfg.stringify req.filters)).length

/-- An answer loads no more rows than there are. -/
theorem loaded_answer {L : Listing T} (hpos : Positioned L s.hook.chain) {i : Nat}
    {p : Pending F} (hfly : InFlight cfg s i p) {a : Answer T} (hserve : L.Serves p a) :
    (p.request.want - 1) * p.request.pageSize + a.data.length ≤
      (L.rows p.request.filterKey).length := by
  obtain ⟨hstart, -⟩ := inFlight_position hpos hfly
  have hle := inFlight_offset_le hpos hfly
  rw [hserve.data, hstart, List.length_take, List.length_drop]
  omega

theorem rowsInv_of_run {L : Listing T} (hr : Run (AwaitedStep cfg) .initial h s)
    (hharm : Harmless cfg h) (hserved : Served L h) : RowsInv cfg L h s := by
  refine hr.always (P := fun h s => Harmless cfg h → Served L h → RowsInv cfg L h s)
    (fun _ _ => ⟨positioned_start L rfl, nofun⟩) ?_ hharm hserved
  rintro h s l t hr ih ⟨hseq, hs⟩ hharm hserved
  have hinv := failInv_of_run hr hharm.tail
  have hserved' : Served L h := fun v i a p hm => hserved v i a p (List.mem_cons_of_mem _ hm)
  obtain ⟨hpos, hloaded⟩ := ih hharm.tail hserved'
  have hkept : settledBy cfg (s, l) = none → ∀ req r,
      lastSettled cfg ((s, l) :: h) = some (req, r) →
        r.loaded ≤ (L.rows (cfg.stringify req.filters)).length := by
    intro hnone
    rw [lastSettled_none hnone]
    exact hloaded
  cases hs with
  | request p =>
    obtain ⟨pd, hpd, -, -, -⟩ := ready_request cfg hinv.ready hseq p
    refine ⟨?_, hkept (settledBy_request hpd)⟩
    rw [request_chain]
    exact positioned_window cfg hpos p
  | @answer i p hp a =>
    have hfly := hinv.flying i p hp
    have hserve := hserved s i a p List.mem_cons_self hp
    refine ⟨?_, ?_⟩
    · rw [answer_paging hfly.stage]
      exact positioned_answer hpos hfly (hfly.want ▸ hinv.ready.page_pos) hserve
    · intro req r hsome
      rw [lastSettled_some (settledBy_paging hp hfly.stage a)] at hsome
      cases hsome
      rw [hfly.filters]
      exact loaded_answer hpos hfly hserve
  | fail hp => exact ⟨hpos, hkept rfl⟩
  | first | previous | next => exact ⟨hpos, hkept rfl⟩

/-- At rest the pager shows no more rows than its window has. -/
theorem loaded_le {L : Listing T} (hr : Run (AwaitedStep cfg) .initial h s)
    (hharm : Harmless cfg h) (hrest : AtRest h s) (hserved : Served L h) :
    s.hook.state.loaded ≤ (L.rows s.hook.chain.filterKey).length := by
  have hshow := consistent_of_run hr hharm hrest
  rw [hshow.display, lastDisplay]
  cases hlast : lastSettled cfg h with
  | none => exact Nat.zero_le _
  | some x =>
    rw [← (hshow.window x.1 x.2 hlast).1]
    exact (rowsInv_of_run hr hharm hserved).loaded x.1 x.2 hlast

/-! ## Failures -/

/-- A harmless failure leaves the hook as its request found it. -/
theorem fail_restores (hr : Run (AwaitedStep cfg) .initial h s) (hharm : Harmless cfg h)
    {v u : State F T} {i : Nat} {p : Params F} {h' : History F T}
    (hh : h = (v, .fail i) :: (u, .request p) :: h') (hshown : lastSettled cfg h' ≠ none) :
    s.hook = u.hook := by
  subst hh
  cases hr with
  | next hr hs =>
    obtain ⟨-, hfail⟩ := hs
    have hflying := (failInv_of_run hr hharm.tail).flying
    cases hr with
    | next hr hs =>
      obtain ⟨hseq, hrequest⟩ := hs
      have hinv := failInv_of_run hr hharm.tail.tail
      cases hrequest
      cases hfail with
      | @fail _ pd hp =>
        obtain ⟨pd', hpd', hcapture, -⟩ := ready_request cfg hinv.ready hseq p
        obtain ⟨x, hx⟩ := Option.ne_none_iff_exists'.mp hshown
        obtain ⟨-, hfilters, hsize⟩ := hharm.1 pd x.1 x.2 hp
          ((lastSettled_none (settledBy_request hpd') h').trans hx)
        -- the request that fails is the one that was just sent
        have hi : u.issued = i := by
          apply Decidable.of_not_not
          intro hne
          rw [(hflying i pd hp).only u.issued hne] at hpd'
          cases hpd'
        subst hi
        obtain rfl : pd' = pd := Option.some.inj (hpd'.symm.trans hp)
        rw [hcapture] at hfilters hsize
        obtain ⟨hkey, hpageSize⟩ := hinv.window hseq x.1 x.2 hx
        have hsame : cfg.window u.hook p = u.hook :=
          window_same (hfilters.trans hkey) (hsize.trans hpageSize)
        have hstill := hinv.still hseq
        rw [State.fail, (request_fetching hpd').2, hsame]
        simp only [← hstill]

/-- **A failed fetch leaves the pager consistent**, in every sequential run whose failures
are harmless. -/
theorem failures_leave_consistent (hr : Run (AwaitedStep cfg) .initial h s)
    (hharm : Harmless cfg h) (hrest : AtRest h s) :
    Consistent cfg h s ∧
      (∀ L : Listing T, Served L h →
        s.hook.state.loaded ≤ (L.rows s.hook.chain.filterKey).length) ∧
      ∀ v i u p h', h = (v, .fail i) :: (u, .request p) :: h' → lastSettled cfg h' ≠ none →
        s.hook = u.hook :=
  ⟨consistent_of_run hr hharm hrest, fun _ hserved => loaded_le hr hharm hrest hserved,
    fun _ _ _ _ _ hh hshown => fail_restores hr hharm hh hshown⟩

/-- **The condition is exact.**  A fetch that throws for anything else than what is
displayed leaves the pager inconsistent. -/
theorem harmful_fail_inconsistent (hr : Run (AwaitedStep cfg) .initial h s)
    (hharm : Harmless cfg h) {i : Nat} {p : Pending F} (hp : s.pending i = some p)
    {req : Request F} {r : Settled T} (hlast : lastSettled cfg h = some (req, r))
    (hother : ¬ (p.request.want = r.page ∧
      cfg.stringify p.request.filters = cfg.stringify req.filters ∧
      p.request.pageSize = req.pageSize)) :
    ¬ Consistent cfg ((s, .fail i) :: h) (s.fail i) := by
  intro hshow
  have hfly := (failInv_of_run hr hharm).flying i p hp
  have hlast' : lastSettled cfg ((s, .fail i) :: h) = some (req, r) :=
    (lastSettled_none rfl h).trans hlast
  obtain ⟨hkey, hsize⟩ := hshow.window req r hlast'
  have hpage : s.hook.pageRef = r.page := by
    have hpage := hshow.page
    rw [hshow.display, lastDisplay, hlast'] at hpage
    exact hpage
  refine hother ⟨hfly.want.trans hpage, ?_, ?_⟩
  · exact (hfly.filters.trans hfly.filterKey).trans hkey.symm
  · exact hfly.pageSize.trans hsize.symm

/-! ### The log, when its server is down -/

/-- A sequential run is one without failures. -/
theorem awaited_of_sequential (hr : Run (SeqStep cfg) .initial h s) :
    Run (AwaitedStep cfg) .initial h s := by
  refine hr.mono fun v l t hs => ⟨?_, hs.2⟩
  have hseq := hs.1
  cases l with
  | fail i => exact trivial
  | answer i a => exact trivial
  | request p => exact hseq
  | first | previous | next => exact hseq

/-- A request whose fetch throws ends at rest. -/
theorem request_fails (hr : Run (AwaitedStep cfg) .initial h s) (hready : Ready s)
    (hidle : ∀ i, s.pending i = none) (p : Params F) :
    Run (AwaitedStep cfg) .initial
        ((s.request cfg p, .fail s.issued) :: (s, .request p) :: h)
        ((s.request cfg p).fail s.issued) ∧
      AtRest ((s.request cfg p, .fail s.issued) :: (s, .request p) :: h)
        ((s.request cfg p).fail s.issued) := by
  obtain ⟨pd, hpd, -, hfly, -⟩ := ready_request cfg hready hidle p
  have hreload : AwaitedStep cfg s (.request p) (s.request cfg p) := ⟨hidle, .request p⟩
  have hfail : AwaitedStep cfg (s.request cfg p) (.fail s.issued)
      ((s.request cfg p).fail s.issued) := ⟨trivial, .fail hpd⟩
  refine ⟨(hr.next hreload).next hfail, hfly.fail_idle, ?_⟩
  intro e he
  obtain rfl := Option.some.inj (Option.mem_def.mp he)
  rfl

/-- The log is loaded, and loading it again fails. -/
theorem failures_leave_consistent_log : ∃ (h : History Unit Nat) (s : State Unit Nat),
    (∃ v i, (v, .fail i) ∈ h) ∧ Consistent logTable h s := by
  have hstart : Run (SeqStep logTable) (.initial : State Unit Nat) [] .initial := .start
  obtain ⟨t, hr, hidle, hhook, -⟩ :=
    request_awaited hstart (fun _ => rfl) reload (rowThen 10 "c1")
  have hready := (seqInv_of_run hr).ready
  obtain ⟨pd, hpd, hcapture, -⟩ := ready_request logTable hready hidle reload
  obtain ⟨hfail, hrest⟩ := request_fails (awaited_of_sequential hr) hready hidle reload
  have hfirst : (State.initial.request logTable reload : State Unit Nat).pending
      (State.initial : State Unit Nat).issued =
        some ⟨⟨(), "{}", 20, 1⟩, .paging, none⟩ := by decide
  have hcaptured : logTable.capture t.hook reload = ⟨(), "{}", 20, 1⟩ := by
    rw [hhook]
    decide
  refine ⟨_, _, ⟨_, _, List.mem_cons_self⟩,
    (failures_leave_consistent hfail ⟨?_, trivial⟩ hrest).1⟩
  intro p req r hp hlast
  obtain rfl : pd = p := Option.some.inj (hpd.symm.trans hp)
  rw [lastSettled_none (settledBy_request hpd), lastSettled_some (settledBy_paging hfirst rfl _)]
    at hlast
  cases hlast
  rw [hcapture, hcaptured]
  exact ⟨rfl, rfl, rfl⟩

/-- The next page is clicked and its fetch fails: the pager displays page 1, and its next
reload fetches page 2. -/
theorem next_page_inconsistent : ¬ ∀ (h : History Unit Nat) (s : State Unit Nat),
    Run (AwaitedStep logTable) .initial h s → AtRest h s → Consistent logTable h s := by
  intro hall
  obtain ⟨h, t, hr, hidle, hhook⟩ := log_loaded
  have hnext : AwaitedStep logTable t .next (t.go 2) := ⟨hidle, next_of_hook hhook rfl rfl⟩
  have hgo : (t.go 2).hook =
      ⟨2, ⟨1, true, 1, false⟩, ⟨["", "c1"], "{}", 20, false⟩⟩ := by
    rw [go_hook, hhook]
  have hready : Ready (t.go 2) := by
    constructor <;> rw [hgo] <;> decide
  obtain ⟨pd, hpd, -⟩ := ready_request logTable hready hidle reload
  obtain ⟨hfail, hrest⟩ :=
    request_fails ((awaited_of_sequential hr).next hnext) hready hidle reload
  have hpage : ((t.go 2).request logTable reload).hook.pageRef =
      ((t.go 2).request logTable reload).hook.state.page := (hall _ _ hfail hrest).page
  have hsent : ((t.go 2).request logTable reload).hook =
      ⟨2, ⟨1, true, 1, true⟩, ⟨["", "c1"], "{}", 20, false⟩⟩ := by
    rw [(request_fetching hpd).2, hgo]
    decide
  rw [hsent] at hpage
  exact absurd hpage (by decide)

end Testkit.CursorPager
