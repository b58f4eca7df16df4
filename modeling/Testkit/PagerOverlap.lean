import Testkit.CursorPager

/-! # Overlapping requests of the cursor pager

Nothing makes the table await a request before it issues the next one, and every
request reads and extends the one chain after each of its awaits.  `WindowsApart` is
what the chain is for: its cursors, and the cursors of the fetches in flight, come from
fetches of the same query window, and in the end the pager displays the newest request.

A request resumed in another window than its own can push its cursor there, and an
older request can end last.  `windowsApart_of_run` says that nothing else goes wrong:
runs without such steps (`StaysApart`, `NewestLast`) keep the windows apart.
-/
namespace Testkit.CursorPager
open LabelledRuns

variable {F T : Type} {cfg : Config F} {s t : State F T} {h : History F T}

/-- A fetch with these filters and this page size has returned the cursor. -/
def Returned (cfg : Config F) (h : History F T) (filterKey : String) (pageSize : Nat)
    (cursor : String) : Prop :=
  ∃ v i a p, (v, .answer i a) ∈ h ∧ v.pending i = some p ∧
    cfg.stringify p.request.filters = filterKey ∧ p.request.pageSize = pageSize ∧
      a.next = some cursor

/-- The cursors of a chain were returned in its window. -/
def ChainApart (cfg : Config F) (h : History F T) (c : Chain) : Prop :=
  ∀ x ∈ c.cursors, x = "" ∨ Returned cfg h c.filterKey c.pageSize x

/-- No fetch combines the filters of one window with a cursor of another. -/
def FetchesApart (cfg : Config F) (h : History F T) (s : State F T) : Prop :=
  ∀ i p x, s.pending i = some p → p.cursor = some x →
    Returned cfg h (cfg.stringify p.request.filters) p.request.pageSize x

/-- What the pager displays of a settled request. -/
def Settled.display (r : Settled T) : PagerState := ⟨r.page, r.hasMore, r.loaded, false⟩

/-- The newest request has failed, or the pager displays it. -/
def NewestShown (s : State F T) : Prop :=
  s.results (s.issued - 1) = some (.error ()) ∨
    ∃ r, s.results (s.issued - 1) = some (.ok r) ∧ s.hook.state = r.display

/-- Overlapping requests do not mix query windows. -/
structure WindowsApart (cfg : Config F) (h : History F T) (s : State F T) : Prop where
  chain : ChainApart cfg h s.hook.chain
  fetches : FetchesApart cfg h s
  shown : 0 < s.issued → (∀ i, s.pending i = none) → NewestShown s

/-! ## The steps that keep the windows apart -/

/-- The chain still is in the window of the request. -/
def Request.InWindow (cfg : Config F) (r : Request F) (c : Chain) : Prop :=
  cfg.stringify r.filters = c.filterKey ∧ r.pageSize = c.pageSize

/-- The answer ends the request: it awaits its page, or its walk fetches nothing more. -/
def Pending.Ends (p : Pending F) (c : Chain) (a : Answer T) : Prop :=
  p.stage = .paging ∨ (c.walked a).resume p.request = none

/-- The answer adds no cursor to the chain. -/
def Pending.AddsNone (p : Pending F) (c : Chain) (a : Answer T) : Prop :=
  a.next = none ∨ (p.stage = .paging ∧ c.cursors.length ≠ p.request.want)

/-- A request resumed in another window ends there and adds no cursor. -/
def StaysApart (cfg : Config F) (s : State F T) : Event F T → Prop
  | .answer i a => ∀ p, s.pending i = some p → p.request.InWindow cfg s.hook.chain ∨
      (p.Ends s.hook.chain a ∧ p.AddsNone s.hook.chain a)
  | _ => True

/-- No answer ends an older request once the newest one has succeeded. -/
def NewestLast (s : State F T) : Event F T → Prop
  | .answer i a => ∀ p, s.pending i = some p → p.Ends s.hook.chain a →
      i + 1 = s.issued ∨ ∀ r, s.results (s.issued - 1) ≠ some (.ok r)
  | _ => True

/-- The steps of runs that keep the windows apart. -/
abbrev ApartStep (cfg : Config F) : State F T → Event F T → State F T → Prop :=
  Guarded (Step cfg) fun s l => StaysApart cfg s l ∧ NewestLast s l

/-! ## Cursors -/

theorem Returned.later {key x : String} {size : Nat} (hx : Returned cfg h key size x)
    (e : State F T × Event F T) : Returned cfg (e :: h) key size x := by
  obtain ⟨v, i, a, p, hmem, hrest⟩ := hx
  exact ⟨v, i, a, p, List.mem_cons_of_mem e hmem, hrest⟩

theorem ChainApart.later {c : Chain} (hc : ChainApart cfg h c) (e : State F T × Event F T) :
    ChainApart cfg (e :: h) c :=
  fun x hx => (hc x hx).imp_right fun hret => hret.later e

theorem FetchesApart.later (hf : FetchesApart cfg h s) (e : State F T × Event F T) :
    FetchesApart cfg (e :: h) s :=
  fun i p x hp hx => (hf i p x hp hx).later e

/-! ## What a run keeps -/

/-- A request that no longer awaits leaves the other fetches. -/
theorem fetchesApart_done (hf : FetchesApart cfg h s) {i : Nat}
    (hpending : t.pending = Function.update s.pending i none) : FetchesApart cfg h t := by
  intro j p x hp hx
  rw [hpending] at hp
  by_cases hj : j = i
  · rw [hj, Function.update_self] at hp
    cases hp
  · rw [Function.update_of_ne hj] at hp
    exact hf j p x hp hx

/-- A request that goes on in its own window sends a cursor of that window. -/
theorem fetchesApart_carryOn (hf : FetchesApart cfg h s) (hc : ChainApart cfg h s.hook.chain)
    {i : Nat} {r : Request F}
    (hwindow : r.InWindow cfg s.hook.chain ∨ s.hook.chain.resume r = none) :
    FetchesApart cfg h (s.carryOn i r) := by
  rcases carryOn_cases s i r with ⟨p, hresume, hrun⟩ | ⟨-, hrun⟩
  · obtain ⟨hkey, hsize⟩ : r.InWindow cfg s.hook.chain :=
      hwindow.resolve_right (by rw [hresume]; exact Option.some_ne_none p)
    obtain ⟨hreq, hcursor⟩ := resume_cursor hresume
    intro j p' x hp' hx
    rw [hrun] at hp'
    by_cases hj : j = i
    · have hself : Function.update s.pending i (some p) j = some p' := hp'
      rw [hj, Function.update_self] at hself
      obtain rfl : p = p' := Option.some.inj hself
      obtain ⟨hmem, hne⟩ := hcursor x hx
      rw [hreq, hkey, hsize]
      exact (hc x hmem).resolve_left hne
    · have hother : Function.update s.pending i (some p) j = some p' := hp'
      rw [Function.update_of_ne hj] at hother
      exact hf j p' x hother hx
  · rw [hrun]
    exact fetchesApart_done hf rfl

/-- The chain takes no other cursor than that of the answer. -/
theorem mem_answer {i : Nat} {p : Pending F} {a : Answer T} {x : String}
    (hx : x ∈ (s.answer i p a).hook.chain.cursors) :
    x ∈ s.hook.chain.cursors ∨ (a.next = some x ∧ ¬ p.AddsNone s.hook.chain a) := by
  cases hstage : p.stage with
  | walking =>
    rw [answer_walking hstage] at hx
    rcases mem_walked hx with hmem | hnext
    · exact Or.inl hmem
    · refine Or.inr ⟨hnext, ?_⟩
      rintro (hnone | ⟨hpaging, -⟩)
      · rw [hnone] at hnext
        cases hnext
      · rw [hstage] at hpaging
        cases hpaging
  | paging =>
    rw [answer_paging hstage] at hx
    rcases mem_paged hx with hmem | ⟨hnext, hlen⟩
    · exact Or.inl hmem
    · refine Or.inr ⟨hnext, ?_⟩
      rintro (hnone | ⟨-, hne⟩)
      · rw [hnone] at hnext
        cases hnext
      · exact hne hlen

/-- The chain takes the cursor of an answer that adds one. -/
theorem answer_adds {i : Nat} {p : Pending F} {a : Answer T} {x : String}
    (hnext : a.next = some x) (hadds : ¬ p.AddsNone s.hook.chain a) :
    x ∈ (s.answer i p a).hook.chain.cursors := by
  cases hstage : p.stage with
  | walking =>
    rw [answer_walking hstage, Chain.walked, hnext]
    exact List.mem_append_right _ (List.mem_singleton.mpr rfl)
  | paging =>
    have hend : s.hook.chain.cursors.length = p.request.want := by
      apply Decidable.of_not_not
      intro hlen
      exact hadds (Or.inr ⟨hstage, hlen⟩)
    rw [answer_paging hstage, paged_more hnext, if_pos hend]
    exact List.mem_append_right _ (List.mem_singleton.mpr rfl)

/-- An answer leaves the cursors of the chain in their window. -/
theorem chainApart_answer (hc : ChainApart cfg h s.hook.chain) {i : Nat} {p : Pending F}
    (hp : s.pending i = some p) {a : Answer T}
    (hstay : p.request.InWindow cfg s.hook.chain ∨ p.AddsNone s.hook.chain a) :
    ChainApart cfg ((s, .answer i a) :: h) (s.answer i p a).hook.chain := by
  obtain ⟨hkey, hsize⟩ := answer_window s i p a
  intro x hx
  rw [hkey, hsize]
  -- the new cursor was returned by the fetch that is answered
  rcases mem_answer hx with hmem | ⟨hnext, hadds⟩
  · exact hc.later (s, .answer i a) x hmem
  · obtain ⟨hkey, hsize⟩ := hstay.resolve_right hadds
    exact Or.inr ⟨s, i, a, p, List.mem_cons_self, hp, hkey, hsize, hnext⟩

/-- A cursor that is pushed into another window mixes the two. -/
theorem foreign_cursor_mixes {i : Nat} {p : Pending F} {a : Answer T} {x : String}
    (hnext : a.next = some x) (hadds : ¬ p.AddsNone s.hook.chain a)
    (hforeign : ¬ Returned cfg h s.hook.chain.filterKey s.hook.chain.pageSize x) :
    ¬ ChainApart cfg h (s.answer i p a).hook.chain := by
  obtain ⟨hkey, hsize⟩ := answer_window s i p a
  intro hc
  have hret := (hc x (answer_adds hnext hadds)).resolve_left (Answer.next_ne_empty hnext)
  rw [hkey, hsize] at hret
  exact hforeign hret

/-- An answer leaves the fetches in flight in their windows. -/
theorem fetchesApart_answer (hf : FetchesApart cfg h s) {i : Nat} {p : Pending F} {a : Answer T}
    (hc : ChainApart cfg ((s, .answer i a) :: h) (s.answer i p a).hook.chain)
    (hstay : p.request.InWindow cfg s.hook.chain ∨ p.Ends s.hook.chain a) :
    FetchesApart cfg ((s, .answer i a) :: h) (s.answer i p a) := by
  have hold := hf.later (s, .answer i a)
  cases hstage : p.stage with
  | walking =>
    rw [answer_walking hstage] at hc
    rw [State.answer, hstage]
    refine fetchesApart_carryOn
      (s := { s with hook := { s.hook with chain := s.hook.chain.walked a } }) hold hc ?_
    rcases hstay with hwindow | hpaging | hends
    · refine Or.inl ⟨?_, ?_⟩
      · rw [walked_filterKey]
        exact hwindow.1
      · rw [walked_pageSize]
        exact hwindow.2
    · rw [hstage] at hpaging
      cases hpaging
    · exact Or.inr hends
  | paging =>
    rw [State.answer, hstage]
    exact fetchesApart_done hold rfl

/-- A request starts in its own window. -/
theorem apart_request (hc : ChainApart cfg h s.hook.chain) (hf : FetchesApart cfg h s)
    (p : Params F) : ChainApart cfg h (s.request cfg p).hook.chain ∧
      FetchesApart cfg h (s.request cfg p) := by
  have hwindow : ChainApart cfg h (cfg.window s.hook p).chain := by
    rcases window_cases cfg s.hook p with hsame | ⟨hcursors, -⟩
    · rw [hsame]
      exact hc
    · intro x hx
      rw [hcursors] at hx
      exact Or.inl (List.mem_singleton.mp hx)
  obtain ⟨hkey, hsize⟩ := window_key cfg s.hook p
  refine ⟨?_, ?_⟩
  · rw [request_chain]
    exact hwindow
  · have hown : (cfg.capture s.hook p).InWindow cfg (cfg.window s.hook p).chain :=
      ⟨hkey.symm, hsize.symm⟩
    let hook := cfg.window s.hook p
    exact fetchesApart_carryOn (s :=
      { s with hook := { hook with state := { hook.state with loading := true } },
               issued := s.issued + 1 }) hf hwindow (Or.inl hown)

/-- The newest request is awaited or shown. -/
def NewestKept (s : State F T) : Prop :=
  s.issued = 0 ∨ (s.pending (s.issued - 1)).isSome ∨ NewestShown s

/-- A request that ends is the newest, or ends while the newest has not succeeded. -/
theorem newestKept_settle {i : Nat} (r : Settled T) (hk : i + 1 = s.issued ∨ NewestKept s)
    (hlast : i + 1 = s.issued ∨ ∀ r, s.results (s.issued - 1) ≠ some (.ok r)) :
    NewestKept (s.settle i r) := by
  by_cases hi : i + 1 = s.issued
  · have hnewest : s.issued - 1 = i := by omega
    refine Or.inr (Or.inr (Or.inr ⟨r, ?_, rfl⟩))
    show Function.update s.results i (some (.ok r)) (s.issued - 1) = some (.ok r)
    rw [hnewest, Function.update_self]
  · by_cases hzero : s.issued = 0
    · exact Or.inl hzero
    · have hne : s.issued - 1 ≠ i := by omega
      refine Or.inr ?_
      rcases (hk.resolve_left hi).resolve_left hzero with hwait | hfailed | ⟨r', hr', -⟩
      · refine Or.inl ?_
        show (Function.update s.pending i none (s.issued - 1)).isSome
        rwa [Function.update_of_ne hne]
      · refine Or.inr (Or.inl ?_)
        show Function.update s.results i (some (.ok r)) (s.issued - 1) = some (.error ())
        rwa [Function.update_of_ne hne]
      · exact absurd hr' (hlast.resolve_left hi r')

/-- An older request that ends after the newest takes the display over. -/
theorem older_end_shown {i : Nat} {r r' : Settled T} (hi : i + 1 ≠ s.issued)
    (hissued : 0 < s.issued) (hnewest : s.results (s.issued - 1) = some (.ok r'))
    (hne : r.display ≠ r'.display) : ¬ NewestShown (s.settle i r) := by
  have hkeep : (s.settle i r).results (s.issued - 1) = some (.ok r') := by
    show Function.update s.results i (some (.ok r)) (s.issued - 1) = some (.ok r')
    rw [Function.update_of_ne (by omega)]
    exact hnewest
  rintro (hfailed | ⟨r'', hr'', hdisplay⟩)
  · have hclash := hkeep.symm.trans hfailed
    cases hclash
  · obtain rfl : r' = r'' := Except.ok.inj (Option.some.inj (hkeep.symm.trans hr''))
    exact hne hdisplay

/-- A request that goes on keeps the newest, as one that ends does. -/
theorem newestKept_carryOn {i : Nat} {r : Request F} (hk : i + 1 = s.issued ∨ NewestKept s)
    (hlast : s.hook.chain.resume r = none →
      i + 1 = s.issued ∨ ∀ r, s.results (s.issued - 1) ≠ some (.ok r)) :
    NewestKept (s.carryOn i r) := by
  rcases carryOn_cases s i r with ⟨p, -, hrun⟩ | ⟨hends, hrun⟩
  · rw [hrun]
    by_cases hi : s.issued - 1 = i
    · refine Or.inr (Or.inl ?_)
      show (Function.update s.pending i (some p) (s.issued - 1)).isSome
      rw [hi, Function.update_self]
      rfl
    · rcases hk with hself | hzero | hwait | hshown
      · exact absurd (by omega) hi
      · exact Or.inl hzero
      · refine Or.inr (Or.inl ?_)
        show (Function.update s.pending i (some p) (s.issued - 1)).isSome
        rwa [Function.update_of_ne hi]
      · exact Or.inr (Or.inr hshown)
  · rw [hrun]
    exact newestKept_settle _ hk (hlast hends)

/-- A request that fails leaves what is displayed, or is the newest. -/
theorem newestKept_fail (hk : NewestKept s) (i : Nat) : NewestKept (s.fail i) := by
  by_cases hi : s.issued - 1 = i
  · refine Or.inr (Or.inr (Or.inl ?_))
    show Function.update s.results i (some (.error ())) (s.issued - 1) = some (.error ())
    rw [hi, Function.update_self]
  · rcases hk with hzero | hwait | hfailed | ⟨r, hr, hdisplay⟩
    · exact Or.inl hzero
    · refine Or.inr (Or.inl ?_)
      show (Function.update s.pending i none (s.issued - 1)).isSome
      rwa [Function.update_of_ne hi]
    · refine Or.inr (Or.inr (Or.inl ?_))
      show Function.update s.results i (some (.error ())) (s.issued - 1) = some (.error ())
      rwa [Function.update_of_ne hi]
    · refine Or.inr (Or.inr (Or.inr ⟨r, ?_, ?_⟩))
      · show Function.update s.results i (some (.error ())) (s.issued - 1) = some (.ok r)
        rwa [Function.update_of_ne hi]
      · show { s.hook.state with loading := false } = r.display
        rw [hdisplay]
        rfl

/-- The invariant of runs that keep the windows apart. -/
structure ApartInv (cfg : Config F) (h : History F T) (s : State F T) : Prop where
  chain : ChainApart cfg h s.hook.chain
  fetches : FetchesApart cfg h s
  newest : NewestKept s

theorem apartInv_step {l : Event F T} (hinv : ApartInv cfg h s) (hs : ApartStep cfg s l t) :
    ApartInv cfg ((s, l) :: h) t := by
  obtain ⟨⟨hstay, hlast⟩, hs⟩ := hs
  have hchain := hinv.chain.later (s, l)
  have hfetches := hinv.fetches.later (s, l)
  cases hs with
  | request p =>
    obtain ⟨hc, hf⟩ := apart_request hchain hfetches p
    exact ⟨hc, hf, newestKept_carryOn (Or.inl rfl) fun _ => Or.inl rfl⟩
  | @answer i p hp a =>
    have hwindow := hstay p hp
    have hc := chainApart_answer hinv.chain hp (hwindow.imp_right And.right)
    refine ⟨hc, fetchesApart_answer hinv.fetches hc (hwindow.imp_right And.left), ?_⟩
    have hends := hlast p hp
    unfold State.answer
    cases hstage : p.stage with
    | walking =>
      exact newestKept_carryOn (Or.inr hinv.newest) fun hresume => hends (Or.inr hresume)
    | paging => exact newestKept_settle _ (Or.inr hinv.newest) (hends (Or.inl hstage))
  | fail => exact ⟨hchain, fetchesApart_done hfetches rfl, newestKept_fail hinv.newest _⟩
  | first | previous | next => exact ⟨hchain, hfetches, hinv.newest⟩

/-- **Overlapping requests do not mix query windows**, in runs where no request resumed in
another window goes on or adds a cursor there, and none ends after a newer success. -/
theorem windowsApart_of_run (hr : Run (ApartStep cfg) .initial h s) : WindowsApart cfg h s := by
  have hinv : ApartInv cfg h s := by
    refine hr.always ⟨?_, ?_, Or.inl rfl⟩ fun _ _ _ _ _ hinv hs => apartInv_step hinv hs
    · intro x hx
      exact Or.inl (List.mem_singleton.mp hx)
    · intro i p x hp
      cases hp
  refine ⟨hinv.chain, hinv.fetches, ?_⟩
  intro hissued hsettled
  -- with nothing awaited the newest request is not awaited
  rcases hinv.newest with hzero | hwait | hshown
  · omega
  · rw [hsettled] at hwait
    cases hwait
  · exact hshown

/-! A table searched by name; a search is in flight when the next request is issued. -/

def searchTable : Config String := ⟨fun name => name, 20⟩

def search (name : String) : Params String := ⟨name, none⟩

def annFound : Answer Nat := ⟨some [10], some "a1"⟩

/-- The table reloads while the search is in flight. -/
theorem windowsApart_of_run_search : ∃ (h : History String Nat) (t : State String Nat),
    t.issued = 2 ∧ t.hook.chain.cursors = ["", "a1"] ∧ WindowsApart searchTable h t := by
  let s₁ : State String Nat := State.initial.request searchTable (search "ann")
  let s₂ : State String Nat := s₁.request searchTable (search "ann")
  have hpending : s₂.pending 0 = some ⟨⟨"ann", "ann", 20, 1⟩, .paging, none⟩ := by decide
  have hr₂ : Run (ApartStep searchTable) .initial
      [(s₁, .request (search "ann")), (.initial, .request (search "ann"))] s₂ :=
    (Run.start.next ⟨⟨trivial, trivial⟩, Step.request _⟩).next
      ⟨⟨trivial, trivial⟩, Step.request _⟩
  have hanswer : ApartStep searchTable s₂ (.answer 0 annFound)
      (s₂.answer 0 ⟨⟨"ann", "ann", 20, 1⟩, .paging, none⟩ annFound) := by
    refine ⟨⟨?_, ?_⟩, Step.answer hpending _⟩
    · intro p hp
      obtain rfl := Option.some.inj (hpending.symm.trans hp)
      exact Or.inl ⟨by decide, by decide⟩
    · intro p hp hends
      exact Or.inr nofun
  exact ⟨_, _, by decide, by decide, windowsApart_of_run (hr₂.next hanswer)⟩

/-- Overlapping requests never mix query windows. -/
def NeverMixed (cfg : Config F) (T : Type) : Prop :=
  ∀ (h : History F T) s, Run (Step cfg) .initial h s → WindowsApart cfg h s

/-- `bob` is searched while the search for `ann` is in flight: the cursor `ann` is answered
with becomes the entry of `bob`'s second page. -/
theorem neverMixed_search : ¬ NeverMixed searchTable Nat := by
  intro hnever
  let s₁ : State String Nat := State.initial.request searchTable (search "ann")
  let s₂ : State String Nat := s₁.request searchTable (search "bob")
  have hpending : s₂.pending 0 = some ⟨⟨"ann", "ann", 20, 1⟩, .paging, none⟩ := by decide
  have hr₂ : Run (Step searchTable) .initial
      [(s₁, .request (search "bob")), (.initial, .request (search "ann"))] s₂ :=
    (Run.start.next (Step.request _)).next (Step.request _)
  have hmixed := hnever _ _ (hr₂.next (Step.answer hpending annFound))
  refine foreign_cursor_mixes (x := "a1") rfl ?_ ?_ hmixed.chain
  · rintro (hnone | ⟨-, hlen⟩)
    · cases hnone
    · exact hlen (by decide)
  · -- the one answer is that of the search for `ann`
    rintro ⟨v, i, a, p, hmem, hp, hkey, -⟩
    rcases List.mem_cons.mp hmem with heq | hmem
    · cases heq
      obtain rfl := Option.some.inj (hpending.symm.trans hp)
      revert hkey
      decide
    · rcases List.mem_cons.mp hmem with heq | hmem
      · cases heq
      · cases List.mem_singleton.mp hmem

end Testkit.CursorPager
