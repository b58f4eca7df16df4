import Testkit.OffsetPages
import Testkit.PagerSequential

/-! # The cursor pager over an unchanging list

A fetcher that serves a fixed list per filter set, under opaque cursors that stand for
positions.  In sequential runs the entry cursors of the chain then stand for the starts
of the pages (`Positioned`), so every request shows a page of the list as offset
pagination cuts it.
-/
namespace Testkit.CursorPager
open LabelledRuns

variable {F T : Type} {cfg : Config F} {s t : State F T} {h : History F T}

/-- The list of each filter set, and the position each of its cursors stands for. -/
structure Listing (T : Type) where
  rows : String → List T
  position : String → Option String → Nat
  position_start : ∀ filterKey, position filterKey none = 0

/-- An answer in accordance with the listing: the next rows after the cursor, and a next
cursor exactly when rows remain. -/
structure Listing.Serves (L : Listing T) (p : Pending F) (a : Answer T) : Prop where
  data : a.data = ((L.rows p.request.filterKey).drop
    (L.position p.request.filterKey p.cursor)).take p.request.pageSize
  more : a.next.isSome ↔ L.position p.request.filterKey p.cursor + p.request.pageSize <
    (L.rows p.request.filterKey).length
  next : ∀ c, a.next = some c → L.position p.request.filterKey (some c) =
    L.position p.request.filterKey p.cursor + p.request.pageSize

/-- Steps of sequential runs over the listing; a page has at least one row. -/
def Listed (cfg : Config F) (L : Listing T) (s : State F T) (l : Event F T) : Prop :=
  (∀ p, l = .request p → 1 ≤ p.pageSize.getD cfg.defaultPageSize) ∧
    ∀ i a p, l = .answer i a → s.pending i = some p → L.Serves p a

abbrev ListedStep (cfg : Config F) (L : Listing T) : State F T → Event F T → State F T → Prop :=
  Guarded (SeqStep cfg) (Listed cfg L)

/-- The entry cursors stand for the starts of the pages, and a page other than the first
has rows. -/
def Positioned (L : Listing T) (c : Chain) : Prop :=
  ∀ n x, c.cursors[n]? = some x →
    L.position c.filterKey (orUndefined x) = n * c.pageSize ∧
      (n = 0 ∨ n * c.pageSize < (L.rows c.filterKey).length)

/-- A settled request that shows a page of the list. -/
structure ShowsPage (rows : List T) (size : Nat) (r : Settled T) : Prop where
  page_pos : 1 ≤ r.page
  page_le : r.page ≤ OffsetPages.count rows size
  data : r.data = OffsetPages.page rows size r.page
  hasMore : r.hasMore = true ↔ r.page * size < rows.length
  loaded : r.loaded = min (r.page * size) rows.length

/-! ## Positions along a run -/

section Positions
variable {L : Listing T}

theorem positioned_start (L : Listing T) {c : Chain} (hc : c.cursors = [""]) :
    Positioned L c := by
  intro n x hx
  rw [hc] at hx
  cases n with
  | zero =>
    cases hx
    exact ⟨by rw [Nat.zero_mul]; exact L.position_start _, Or.inl rfl⟩
  | succ n => cases hx

theorem positioned_window (cfg : Config F) {hook : Hook} (hpos : Positioned L hook.chain)
    (p : Params F) : Positioned L (cfg.window hook p).chain := by
  rcases window_cases cfg hook p with hsame | ⟨hcursors, -⟩
  · rw [hsame]
    exact hpos
  · exact positioned_start L hcursors

/-- The cursor of the page in flight stands for the start of the page. -/
theorem inFlight_position (hpos : Positioned L s.hook.chain) {i : Nat} {p : Pending F}
    (hfly : InFlight cfg s i p) :
    L.position p.request.filterKey p.cursor = (p.request.want - 1) * p.request.pageSize ∧
      (p.request.want - 1 = 0 ∨ (p.request.want - 1) * p.request.pageSize <
        (L.rows p.request.filterKey).length) := by
  obtain ⟨entry, hentry, hcursor⟩ := hfly.entry
  rw [hcursor, hfly.filterKey, hfly.pageSize]
  exact hpos _ _ hentry

/-- The page in flight does not start behind the list. -/
theorem inFlight_offset_le (hpos : Positioned L s.hook.chain) {i : Nat} {p : Pending F}
    (hfly : InFlight cfg s i p) :
    (p.request.want - 1) * p.request.pageSize ≤ (L.rows p.request.filterKey).length := by
  rcases (inFlight_position hpos hfly).2 with hzero | hlt
  · rw [hzero, Nat.zero_mul]
    exact Nat.zero_le _
  · exact hlt.le

/-- An answer in accordance with the listing keeps the positions. -/
theorem positioned_answer (hpos : Positioned L s.hook.chain) {i : Nat} {p : Pending F}
    (hfly : InFlight cfg s i p) (hwant : 1 ≤ p.request.want) {a : Answer T}
    (hserve : L.Serves p a) : Positioned L (s.hook.chain.paged p.request.want a) := by
  obtain ⟨hstart, -⟩ := inFlight_position hpos hfly
  intro n x hx
  rw [paged_filterKey, paged_pageSize]
  cases hnext : a.next with
  | none =>
    rw [paged_last hnext, List.getElem?_take] at hx
    split at hx
    · exact hpos n x hx
    · cases hx
  | some next =>
    rw [paged_more hnext] at hx
    split at hx
    · rename_i hend
      by_cases hn : n < s.hook.chain.cursors.length
      · rw [List.getElem?_append_left hn] at hx
        exact hpos n x hx
      · -- the new entry: the page after the one that was answered
        rw [List.getElem?_append_right (by omega), List.getElem?_singleton] at hx
        split at hx
        · rename_i hzero
          obtain rfl : next = x := Option.some.inj hx
          obtain rfl : n = p.request.want := by omega
          have hne : next ≠ "" := Answer.next_ne_empty hnext
          have hmore := hserve.more.mp (by rw [hnext]; rfl)
          have hmul := OffsetPages.offset_add_size hwant p.request.pageSize
          rw [← hfly.filterKey, ← hfly.pageSize, orUndefined_eq_some.mpr ⟨rfl, hne⟩,
            hserve.next next hnext, hstart, hmul]
          rw [hstart, hmul] at hmore
          exact ⟨rfl, Or.inr hmore⟩
        · cases hx
    · exact hpos n x hx

/-- **An answer shows a page of the list.** -/
theorem showsPage_answer (hpos : Positioned L s.hook.chain) {i : Nat} {p : Pending F}
    (hfly : InFlight cfg s i p) (hwant : 1 ≤ p.request.want) (hsize : 1 ≤ p.request.pageSize)
    {a : Answer T} (hserve : L.Serves p a) :
    ShowsPage (L.rows p.request.filterKey) p.request.pageSize
      (p.request.settled a.next.isSome a.data) := by
  obtain ⟨hstart, hrows⟩ := inFlight_position hpos hfly
  have hdata : a.data =
      OffsetPages.page (L.rows p.request.filterKey) p.request.pageSize p.request.want := by
    rw [hserve.data, hstart]
    rfl
  have hmul := OffsetPages.offset_add_size hwant p.request.pageSize
  constructor
  · exact hwant
  · show p.request.want ≤ _
    rw [OffsetPages.le_count_iff hsize]
    rcases hrows with hzero | hlt
    · exact Or.inl (by omega)
    · exact Or.inr hlt
  · exact hdata
  · show a.next.isSome = true ↔ p.request.want * p.request.pageSize < _
    rw [hserve.more, hstart, hmul]
  · show (p.request.want - 1) * p.request.pageSize + a.data.length = _
    rw [hdata]
    exact OffsetPages.offset_add_length hwant (inFlight_offset_le hpos hfly)

end Positions

/-! ## Runs over the list -/

/-- A chain in use has a page size. -/
structure ListedInv (cfg : Config F) (L : Listing T) (s : State F T) : Prop where
  positioned : Positioned L s.hook.chain
  pageSize : ∀ i p, s.pending i = some p → 1 ≤ p.request.pageSize

section Runs
variable {L : Listing T}

/-- The request in flight wants a page. -/
theorem want_pos (hinv : SeqInv cfg h s) {i : Nat} {p : Pending F} (hfly : InFlight cfg s i p) :
    1 ≤ p.request.want :=
  hfly.want ▸ hinv.ready.page_pos

theorem listedInv_of_run (hr : Run (ListedStep cfg L) .initial h s) : ListedInv cfg L s := by
  have hrun : SeqInv cfg h s ∧ ListedInv cfg L s := by
    refine hr.always (P := fun h s => SeqInv cfg h s ∧ ListedInv cfg L s)
      ⟨seqInv_initial, positioned_start L rfl, nofun⟩ ?_
    rintro h s l t hr ⟨hseq, hinv⟩ ⟨hlist, hs⟩
    refine ⟨seqInv_of_run (hr.of_guarded.next hs), ?_⟩
    obtain ⟨hquiet, hs⟩ := hs
    cases hs with
    | request p =>
      obtain ⟨pd, hpd, hcapture, hfly, -⟩ := ready_request cfg hseq.ready hquiet p
      refine ⟨?_, ?_⟩
      · rw [request_chain]
        exact positioned_window cfg hinv.positioned p
      · intro i p' hp'
        by_cases hi : i = s.issued
        · subst hi
          obtain rfl : pd = p' := Option.some.inj (hpd.symm.trans hp')
          rw [hcapture]
          exact hlist.1 p rfl
        · rw [hfly.only i hi] at hp'
          cases hp'
    | @answer i p hp a =>
      have hfly := hseq.inFlight hp
      have hidle := hfly.answer_idle a
      rw [hfly.answer_eq] at hidle ⊢
      refine ⟨positioned_answer hinv.positioned hfly (want_pos hseq hfly)
        (hlist.2 i a p rfl hp), ?_⟩
      intro j p' hp'
      rw [hidle j] at hp'
      cases hp'
    | fail => exact hquiet.elim
    | first | previous | next => exact ⟨hinv.positioned, hinv.pageSize⟩
  exact hrun.2

/-- **The cursor pager refines offset pagination.**  Over an unchanging list every
request of a sequential run awaits one fetch, and with its answer the pager displays,
and the table gets, a page of the list of the request's filters. -/
theorem shows_offsetPage (hr : Run (ListedStep cfg L) .initial h s) :
    (∀ p t, ListedStep cfg L s (.request p) t → ∃ pd, t.pending s.issued = some pd ∧
      pd.request.filters = p.filters ∧
      pd.request.pageSize = p.pageSize.getD cfg.defaultPageSize) ∧
    ∀ i a t, ListedStep cfg L s (.answer i a) t → ∃ pd r, s.pending i = some pd ∧
      t.results i = some (.ok r) ∧ (∀ j, t.pending j = none) ∧
      t.hook.state = ⟨r.page, r.hasMore, r.loaded, false⟩ ∧
      ShowsPage (L.rows (cfg.stringify pd.request.filters)) pd.request.pageSize r := by
  have hseq := seqInv_of_run hr.of_guarded
  have hinv := listedInv_of_run hr
  refine ⟨?_, ?_⟩
  · rintro p t ⟨-, hquiet, hs⟩
    cases hs
    obtain ⟨pd, hpd, hcapture, -⟩ := ready_request cfg hseq.ready hquiet p
    exact ⟨pd, hpd, by rw [hcapture]; rfl, by rw [hcapture]; rfl⟩
  · rintro i a t ⟨hlist, -, hs⟩
    cases hs with
    | @answer _ p hp _ =>
      have hfly := hseq.inFlight hp
      have hshow := showsPage_answer hinv.positioned hfly (want_pos hseq hfly)
        (hinv.pageSize i p hp) (hlist.2 i a p rfl hp)
      rw [← hfly.filters] at hshow
      refine ⟨p, p.request.settled a.next.isSome a.data, hp, ?_, hfly.answer_idle a, ?_, hshow⟩
      · rw [hfly.answer_eq]
        exact Function.update_self ..
      · rw [hfly.answer_eq]
        rfl

/-- A request that is awaited, with the step of its answer. -/
theorem listed_awaited (hr : Run (ListedStep cfg L) .initial h s)
    (hidle : ∀ i, s.pending i = none) {p : Params F}
    (hsize : 1 ≤ p.pageSize.getD cfg.defaultPageSize) {a : Answer T}
    (hserve : ∀ pd, (s.request cfg p).pending s.issued = some pd → L.Serves pd a) :
    Run (ListedStep cfg L) .initial ((s, .request p) :: h) (s.request cfg p) ∧
      ∃ t, ListedStep cfg L (s.request cfg p) (.answer s.issued a) t ∧
        (∀ i, t.pending i = none) ∧ t.hook = s.hook.awaited cfg p a := by
  obtain ⟨t, hrun, hidle', hhook, -⟩ := request_awaited hr.of_guarded hidle p a
  cases hrun with
  | next hissued hanswer =>
    cases hissued with
    | next _ hrequest =>
      refine ⟨hr.next ⟨⟨?_, nofun⟩, hrequest⟩, t, ⟨⟨nofun, ?_⟩, hanswer⟩, hidle', hhook⟩
      · rintro p' hp'
        cases hp'
        exact hsize
      · rintro i a' pd heq hpd
        cases heq
        exact hserve pd hpd

end Runs

/-! A log of thirty rows; `c1` stands for the position after the first page. -/

def thirtyRows : Listing Nat where
  rows _ := List.range 30
  position _ cursor := if cursor = some "c1" then 20 else 0
  position_start _ := rfl

/-- What the log is answered. -/
theorem serves_log {s : State Unit Nat} {c : Chain} {state : PagerState} (page : Nat)
    (entry : String) (hhook : logTable.window s.hook reload = ⟨page, state, c⟩)
    (hle : page ≤ c.cursors.length) (hentry : c.entry page = some entry)
    {a : Answer Nat}
    (hserve : thirtyRows.Serves ⟨⟨(), "{}", 20, page⟩, .paging, orUndefined entry⟩ a) :
    ∀ pd, (s.request logTable reload).pending s.issued = some pd → thirtyRows.Serves pd a := by
  intro pd hpd
  have hwalk : ¬ (c.ended = false ∧ c.cursors.length < page) := fun h => by omega
  have hresume : c.resume (⟨(), "{}", 20, page⟩ : Request Unit) =
      some ⟨⟨(), "{}", 20, page⟩, .paging, orUndefined entry⟩ := by
    rw [Chain.resume, if_neg hwalk, hentry, Option.map_some]
  have hsent : (s.request logTable reload).pending s.issued =
      some ⟨⟨(), "{}", 20, page⟩, .paging, orUndefined entry⟩ := by
    rw [State.request, hhook]
    have hcapture : logTable.capture s.hook reload = ⟨(), "{}", 20, page⟩ := by
      rw [Config.capture, hhook]
      rfl
    rw [State.carryOn, hcapture, hresume]
    exact Function.update_self ..
  obtain rfl := Option.some.inj (hsent.symm.trans hpd)
  exact hserve

/-- The log is loaded and its second page is turned to and reloaded. -/
theorem shows_offsetPage_log : ∃ (h : History Unit Nat) (s t : State Unit Nat) (i : Nat)
    (r : Settled Nat), Run (ListedStep logTable thirtyRows) .initial h s ∧ h.length = 6 ∧
      t.results i = some (.ok r) ∧ r.page = 2 ∧ ShowsPage (List.range 30) 20 r := by
  have hsize : 1 ≤ reload.pageSize.getD logTable.defaultPageSize := by decide
  have hfirst : thirtyRows.Serves (⟨⟨(), "{}", 20, 1⟩, .paging, none⟩ : Pending Unit)
      ⟨some (List.range 20), some "c1"⟩ := by
    refine ⟨by decide, by decide, ?_⟩
    intro c hc
    obtain rfl : "c1" = c := Option.some.inj hc
    decide
  have hsecond : thirtyRows.Serves (⟨⟨(), "{}", 20, 2⟩, .paging, some "c1"⟩ : Pending Unit)
      ⟨some ((List.range 30).drop 20), none⟩ := ⟨by decide, by decide, nofun⟩
  obtain ⟨hload, t₁, hloaded, hidle₁, hhook₁⟩ := listed_awaited (h := []) (s := .initial) .start
    (fun _ => rfl) hsize (serves_log 1 "" rfl (by decide) rfl hfirst)
  have hpage₁ : t₁.hook = ⟨1, ⟨1, true, 20, false⟩, ⟨["", "c1"], "{}", 20, false⟩⟩ := by
    rw [hhook₁]
    decide
  -- page 2
  have hnext : ListedStep logTable thirtyRows t₁ .next (t₁.go 2) :=
    ⟨⟨nofun, nofun⟩, hidle₁, next_of_hook hpage₁ rfl rfl⟩
  have hgo : logTable.window (t₁.go 2).hook reload =
      ⟨2, ⟨1, true, 20, false⟩, ⟨["", "c1"], "{}", 20, false⟩⟩ := by
    rw [go_hook, hpage₁]
    decide
  obtain ⟨hturn, t₂, hturned, hidle₂, hhook₂⟩ := listed_awaited ((hload.next hloaded).next hnext)
    hidle₁ hsize (serves_log 2 "c1" hgo (by decide) rfl hsecond)
  have hpage₂ : t₂.hook = ⟨2, ⟨2, false, 30, false⟩, ⟨["", "c1"], "{}", 20, true⟩⟩ := by
    rw [hhook₂, Hook.awaited, hgo]
    decide
  -- page 2 again
  have hstay : logTable.window t₂.hook reload =
      ⟨2, ⟨2, false, 30, false⟩, ⟨["", "c1"], "{}", 20, true⟩⟩ := by
    rw [hpage₂]
    decide
  obtain ⟨hagain, t₃, hanswer, -, hhook₃⟩ := listed_awaited (hturn.next hturned) hidle₂ hsize
    (serves_log 2 "c1" hstay (by decide) rfl hsecond)
  have hpage₃ : t₃.hook = ⟨2, ⟨2, false, 30, false⟩, ⟨["", "c1"], "{}", 20, true⟩⟩ := by
    rw [hhook₃, Hook.awaited, hstay]
    decide
  obtain ⟨pd, r, hpd, hr, -, hstate, hshow⟩ := (shows_offsetPage hagain).2 _ _ _ hanswer
  rw [hpage₃] at hstate
  have hlen : pd.request.pageSize = 20 := by
    cases hagain with
    | next _ hrequest =>
      obtain ⟨pd', hpd', -, hlen⟩ := (shows_offsetPage (hturn.next hturned)).1 _ _ hrequest
      obtain rfl := Option.some.inj (hpd'.symm.trans hpd)
      exact hlen
  rw [hlen] at hshow
  exact ⟨_, _, t₃, _, r, hagain, rfl, hr, (congrArg PagerState.page hstate).symm, hshow⟩

end Testkit.CursorPager
