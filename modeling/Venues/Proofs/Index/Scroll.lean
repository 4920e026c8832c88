import Venues.Proofs.Deployment
import Venues.Proofs.Index.Search
import Venues.Proofs.Index.Written
import Venues.Proofs.Page.Cursor
import Venues.Proofs.Surface.Paging
import Venues.Proofs.Walk

/-! # Scrolling through search results

A page of search results says that another one follows only if that one ends inside the result window, and
then its cursor is read as the position behind the page. So a scroll from cursor to cursor comes to an end,
and shows all results that pages of its size can reach.
-/

namespace Venues

open Index

/-! ## Places of pages -/

section Places

variable {q : Query} {limit : Int} {n : Nat}

theorem Cursor.toOffset_bounds (c : String) (positive : 0 ≤ limit) (most : limit ≤ resultWindow) :
    0 ≤ Cursor.toOffset c limit ∧ Cursor.toOffset c limit + limit ≤ resultWindow := by
  unfold Cursor.toOffset
  dsimp only
  split
  · omega
  · omega

/-- A page that may be asked for lies inside the result window. -/
theorem startOfPage_bounds (proper : q.page.IsProper) (least : 1 ≤ q.limit) (most : q.limit ≤ 100)
    (window : Surface.checkWindow q = .ok ()) :
    0 ≤ startOfPage q.page ∧ startOfPage q.page + q.limit ≤ resultWindow := by
  have wide : (100 : Int) ≤ resultWindow := by decide
  unfold Surface.checkWindow at window
  unfold Query.limit at least most ⊢
  cases page : q.page with
  | cursor c? limit =>
    rw [page] at least most
    simp only [Page.limit] at least most ⊢
    cases c? with
    | none =>
      show 0 ≤ (0 : Int) ∧ 0 + limit ≤ resultWindow
      omega
    | some c => exact Cursor.toOffset_bounds c (by omega) (by omega)
  | offset number limit start? =>
    rw [page] at least most proper window
    simp only [Page.limit] at least most ⊢
    dsimp only at window
    split at window
    · cases window
    · rename_i inside
      refine ⟨?_, Int.not_lt.mp inside⟩
      cases start? with
      | some start => exact proper.2 start rfl
      | none => exact Int.mul_nonneg (by have := proper.1; omega) (by omega)

/-- The cursor for the page with a number, counted from zero, of pages of equal size. -/
def scrollTo (size i : Nat) : Option String :=
  if i = 0 then none else some (Cursor.ofOffset ((i * size : Nat) : Int))

theorem scrollTo_succ (size i : Nat) : scrollTo size (i + 1) = some (Cursor.ofOffset (((i + 1) * size : Nat) : Int)) :=
  if_neg (Nat.succ_ne_zero i)

theorem strip_scrollTo (size i : Nat) : ∀ c ∈ scrollTo size i, Text.strip c = c ∧ c ≠ "" := by
  intro c given
  unfold scrollTo at given
  split at given
  · cases given
  · cases given
    exact ⟨Cursor.strip_ofOffset _, Cursor.ofOffset_ne_empty _⟩

theorem startOfPage_scrollTo {size i : Nat} (inside : ((i * size : Nat) : Int) + size ≤ resultWindow) :
    startOfPage (.cursor (scrollTo size i) size) = (i * size : Nat) := by
  unfold scrollTo
  by_cases first : i = 0
  · rw [if_pos first, first, Nat.zero_mul]
    rfl
  · rw [if_neg first]
    exact Cursor.toOffset_ofOffset (by omega)

end Places

/-! ## Notes on pages -/

section Notes

variable {q : Query} {count total : Int}

theorem hasMore_searchMeta : (searchMeta q count total).hasMore =
    (decide (startOfPage q.page + count < total) && decide (startOfPage q.page + count + q.limit ≤ resultWindow)) := by
  unfold searchMeta
  split <;> rfl

theorem nextCursor_searchMeta : (searchMeta q count total).nextCursor =
    if (searchMeta q count total).hasMore then some (Cursor.ofOffset (startOfPage q.page + count)) else none := by
  unfold searchMeta
  split <;> rfl

end Notes

/-! ## Pages of a deployment -/

namespace Deployment

variable {d : Deployment} {request : Value} {q : Query} {documents : List Document} {whole : List Hit}

/-- Whether a page of a query is what the index should answer: its portion of the full result. -/
structure Shows (q : Query) (whole : List Hit) (p : HitPage) : Prop where
  hits : p.hits = portionOf (startOfPage q.page) q.limit whole
  total : p.total = whole.length
  details : p.details = searchMeta q p.hits.length whole.length

/-- A search for which there is a full result answers with the page that is asked for. -/
theorem exists_page (calm : d.IsCalm) (holds : d.server.index? d.gateway.index = some (documents.map entry))
    (accepted : Surface.facilitySearch.normalize request = .ok q) (result : IsResult d.gateway.index q documents whole) :
    ∃ p, d.search request = (.ok p, d) ∧ Shows q whole p := by
  have normalizes := Surface.normalizes_of_normalize accepted
  obtain ⟨_, least, most⟩ := normalizes.limit_spec
  obtain ⟨_, proper⟩ := Schema.page_spec normalizes.page
  obtain ⟨_, _, _, _, window, _⟩ := Surface.accept_iff.mp normalizes.accepted
  obtain ⟨_, inside⟩ := startOfPage_bounds proper least most (window rfl)
  obtain ⟨score, runs⟩ := run_search result holds inside
  have answered : d.search request = (.ok ⟨portionOf (startOfPage q.page) q.limit whole, whole.length, score,
      searchMeta q (portionOf (startOfPage q.page) q.limit whole).length whole.length⟩, d) := by
    simp only [search, accepted, exchange, calm.run_eq]
    rw [runs]
  exact ⟨_, answered, rfl, rfl, rfl⟩

/-- Where a page says that another one follows, it is full, and the cursor of the next one is read as the
position behind it. -/
theorem Shows.next {p : HitPage} (shows : Shows q whole p) (bounds : 0 ≤ startOfPage q.page)
    (positive : 1 ≤ q.limit) {c : String} (named : p.details.nextCursor = some c) :
    (p.hits.length : Int) = q.limit ∧ c = Cursor.ofOffset (startOfPage q.page + q.limit) ∧
      startOfPage (.cursor (some c) q.limit) = startOfPage q.page + q.limit := by
  rw [shows.details, nextCursor_searchMeta, hasMore_searchMeta] at named
  split at named
  · rename_i more
    cases named
    simp only [Bool.and_eq_true, decide_eq_true_eq] at more
    obtain ⟨left, inside⟩ := more
    have full : (p.hits.length : Int) = q.limit := by
      rw [shows.hits, portionOf, List.length_take, List.length_drop] at left ⊢
      omega
    rw [full] at inside ⊢
    refine ⟨rfl, rfl, ?_⟩
    obtain ⟨n, position⟩ := Int.eq_ofNat_of_zero_le (by omega : 0 ≤ startOfPage q.page + q.limit)
    rw [position] at inside ⊢
    exact Cursor.toOffset_ofOffset (by omega)
  · cases named

/-- The pages of a scroll: the first page, and the page at each cursor that is handed out. -/
def Scroll (d : Deployment) (request : Value) (pages : List HitPage) : Prop :=
  Walks (fun c? => (d.search (atCursor request c?)).1) (fun _ p => p.details.nextCursor.map some) none pages

/-- The number of leading results that pages of a size can reach inside the result window. -/
def reach (size : Int) : Nat := (size * (resultWindow / size)).toNat

theorem lt_reach_iff {size i : Nat} (positive : 0 < size) :
    (i + 1) * size < reach size ↔ (i + 1) * size + size ≤ 10000 := by
  have pages : reach size = size * (10000 / size) := rfl
  rw [pages, Nat.mul_comm size, Nat.mul_lt_mul_right positive, ← Nat.succ_mul]
  exact Nat.le_div_iff_mul_le positive

/-- The page with a number, counted from zero, of those that can be reached. -/
theorem exists_page_scrollTo (calm : d.IsCalm)
    (holds : d.server.index? d.gateway.index = some (documents.map entry))
    (accepted : Surface.facilitySearch.normalize request = .ok q) (result : IsResult d.gateway.index q documents whole)
    {size i : Nat} (limit : q.limit = size) (positive : 0 < size) (inside : (i + 1) * size ≤ reach size) :
    ∃ p, (d.search (atCursor request (scrollTo size i))).1 = .ok p ∧
      p.hits = (whole.drop (i * size)).take size ∧
      p.details.hasMore = decide ((i + 1) * size < (whole.take (reach size)).length) ∧
      p.details.nextCursor = if p.details.hasMore then scrollTo size (i + 1) else none := by
  have fits : ((i * size : Nat) : Int) + size ≤ resultWindow := by
    have window : resultWindow = 10000 := rfl
    have most : reach size ≤ 10000 := by
      show size * (10000 / size) ≤ 10000
      exact Nat.mul_div_le 10000 size
    rw [Nat.succ_mul] at inside
    omega
  have start : startOfPage (.cursor (scrollTo size i) q.limit) = (i * size : Nat) := by
    rw [limit]
    exact startOfPage_scrollTo fits
  obtain ⟨p, answered, shows⟩ := exists_page calm holds
    (Surface.normalize_atCursor accepted (strip_scrollTo size i)) (result.repaged rfl)
  have hits : p.hits = (whole.drop (i * size)).take size := by
    rw [shows.hits]
    show portionOf (startOfPage (.cursor (scrollTo size i) q.limit)) q.limit whole = _
    rw [start, limit]
    rfl
  have counted : p.hits.length = min size (whole.length - i * size) := by
    rw [hits, List.length_take, List.length_drop]
  have step : (i + 1) * size = i * size + size := Nat.succ_mul i size
  -- rows are left beyond the page, and the next page would still lie inside the window
  have more : p.details.hasMore = decide ((i + 1) * size < (whole.take (reach size)).length) := by
    rw [shows.details, hasMore_searchMeta]
    show (decide (startOfPage (.cursor (scrollTo size i) q.limit) + _ < _) &&
      decide (startOfPage (.cursor (scrollTo size i) q.limit) + _ + q.limit ≤ _)) = _
    have window : resultWindow = 10000 := rfl
    rw [start, limit, window, Bool.eq_iff_iff]
    simp only [Bool.and_eq_true, decide_eq_true_eq, List.length_take, Nat.lt_min, lt_reach_iff positive]
    omega
  refine ⟨p, congrArg Prod.fst answered, hits, more, ?_⟩
  rw [shows.details, nextCursor_searchMeta, ← shows.details]
  by_cases goes : p.details.hasMore = true
  · rw [if_pos goes, if_pos goes, scrollTo_succ]
    show some (Cursor.ofOffset (startOfPage (.cursor (scrollTo size i) q.limit) + _)) = _
    rw [more, decide_eq_true_eq, List.length_take] at goes
    -- with rows left the page is full, so its cursor names the next multiple of its size
    have full : p.hits.length = size := by omega
    rw [start, full, step, Int.natCast_add]
  · rw [if_neg goes, if_neg goes]

/-- A scroll through a full result comes to an end, and shows all of it that can be reached. -/
theorem exists_scroll_of_result (calm : d.IsCalm)
    (holds : d.server.index? d.gateway.index = some (documents.map entry))
    (accepted : Surface.facilitySearch.normalize request = .ok q) (result : IsResult d.gateway.index q documents whole) :
    ∃ pages, d.Scroll request pages ∧
      Covers HitPage.hits (fun p => p.details.hasMore) pages (whole.take (reach q.limit)) := by
  obtain ⟨_, least, most⟩ := (Surface.normalizes_of_normalize accepted).limit_spec
  obtain ⟨size, limit⟩ := Int.eq_ofNat_of_zero_le (by omega : 0 ≤ q.limit)
  have positive : 0 < size := by omega
  rw [limit]
  refine @exists_walk _ _ _ (fun c? => (d.search (atCursor request c?)).1) (fun _ p => p.details.nextCursor.map some)
    HitPage.hits (fun p => p.details.hasMore) (whole.take (reach size)) size positive (scrollTo size) ?_
  intro i place
  -- a page that starts before the end of what can be reached ends there at the latest
  have inside : (i + 1) * size ≤ reach size := by
    show (i + 1) * size ≤ size * (10000 / size)
    rw [Nat.mul_comm size]
    refine Nat.mul_le_mul_right size ?_
    rcases place with rfl | place
    · exact (Nat.le_div_iff_mul_le positive).mpr (by omega)
    · have before : i * size < size * (10000 / size) := Nat.lt_of_lt_of_le place (List.length_take_le _ _)
      rw [Nat.mul_comm size, Nat.mul_lt_mul_right positive] at before
      exact before
  obtain ⟨p, answered, hits, more, next⟩ := exists_page_scrollTo calm holds accepted result limit positive inside
  refine ⟨p, answered, ?_, more, ?_⟩
  · rw [hits, List.drop_take, List.take_take, Nat.min_eq_left]
    rw [Nat.succ_mul] at inside
    omega
  · rw [next, more]
    by_cases goes : (i + 1) * size < (whole.take (reach size)).length
    · rw [if_pos (decide_eq_true goes), if_pos goes, scrollTo_succ]
      rfl
    · rw [if_neg (by simpa using goes), if_neg goes]
      rfl

/-- In every index that is written through the gateway, every accepted request has a full result, in which
each document is found at most once. A scroll through it comes to an end, and shows all of it that pages of
this size can reach. Wherever a page carries a cursor, the page at the cursor starts right behind it. -/
theorem exists_scroll (calm : d.IsCalm) (written : d.gateway.Written d.server)
    (there : (d.server.index? d.gateway.index).isSome = true)
    (accepted : Surface.facilitySearch.normalize request = .ok q) (laws : q.area.isSome = true → LawfulTrigonometry) :
    ∃ (documents : List Document) (whole : List Hit), d.server.index? d.gateway.index = some (documents.map entry) ∧
      IsResult d.gateway.index q documents whole ∧ (whole.map fun h => h.document.id).Nodup ∧
      (∃ pages, d.Scroll request pages ∧
        Covers HitPage.hits (fun p => p.details.hasMore) pages (whole.take (reach q.limit))) ∧
      ∃ p, d.search request = (.ok p, d) ∧ Shows q whole p ∧
        ∀ c, p.details.nextCursor = some c → 0 < p.hits.length ∧
          startOfPage (.cursor (some c) q.limit) = startOfPage q.page + p.hits.length ∧
          ∃ next, d.search (atCursor request (some c)) = (.ok next, d) ∧
            next.hits = portionOf (startOfPage q.page + p.hits.length) q.limit whole := by
  have normalizes := Surface.normalizes_of_normalize accepted
  obtain ⟨_, least, most⟩ := normalizes.limit_spec
  obtain ⟨_, _, sorted, _, window, distance⟩ := Surface.accept_iff.mp normalizes.accepted
  obtain ⟨documents, held, distinct, placed⟩ := written.exists_holds
  have holds : d.server.index? d.gateway.index = some (documents.map entry) := by
    rw [← held]
    exact (Option.some_get there).symm.trans (by rw [Option.get_eq_getD])
  -- what was written through the gateway lies on the globe, so it has a distance
  have reaches : ∀ e ∈ documents, ∀ a ∈ q.area, Reaches a e := by
    intro e member a asked
    obtain ⟨onGlobe, meters⟩ := normalizes.area_spec a asked
    exact ⟨meters, onGlobe.hasDistance (placed e member) (laws (Option.isSome_of_mem asked))⟩
  obtain ⟨whole, result, _, once⟩ := exists_result
    ⟨normalizes.acceptedConditions, sorted, distance, reaches, window rfl⟩ d.gateway.index
  obtain ⟨p, answered, shows⟩ := exists_page calm holds accepted result
  refine ⟨documents, whole, holds, result, once distinct, exists_scroll_of_result calm holds accepted result, p,
    answered, shows, fun c named => ?_⟩
  obtain ⟨start, _⟩ := startOfPage_bounds (Schema.page_spec normalizes.page).2 least most (window rfl)
  obtain ⟨full, cursor, behind⟩ := shows.next start least named
  obtain ⟨n, position⟩ := Int.eq_ofNat_of_zero_le (by omega : 0 ≤ startOfPage q.page + q.limit)
  -- the cursor is written from a position, so reading it strips nothing
  have stripped : ∀ c' ∈ some c, Text.strip c' = c' ∧ c' ≠ "" := by
    intro c' same
    cases same
    rw [cursor, position]
    exact ⟨Cursor.strip_ofOffset n, Cursor.ofOffset_ne_empty n⟩
  obtain ⟨next, found, shows'⟩ := exists_page calm holds (Surface.normalize_atCursor accepted stripped)
    (result.repaged rfl)
  rw [full]
  refine ⟨by omega, behind, next, found, ?_⟩
  rw [shows'.hits]
  exact congrArg (portionOf · q.limit whole) behind

/-- The point where the prime meridian meets the equator. -/
def origin : Point := ⟨0, 0⟩

theorem origin_isOnGlobe : origin.IsOnGlobe where
  lat := ⟨by decide +kernel, by decide +kernel⟩
  lon := ⟨by decide +kernel, by decide +kernel⟩

/-- A document of a facility at this point. -/
def buoy (id : String) : Document :=
  ⟨id, "buoy", id, "", none, none, none, origin, true, id, none, none, [], "", ""⟩

/-- A deployment whose index was written with two such documents. -/
def buoys : Deployment where
  settings := {}
  now := 0
  server :=
    let g := Gateway.ofSettings {} ""
    ((g.put (buoy "2")).run Server.client ((g.put (buoy "1")).run Server.client {}).2).2

theorem buoys_written : buoys.gateway.Written buoys.server :=
  .put (.put (.absent rfl) origin_isOnGlobe) origin_isOnGlobe

/-- The two documents are scrolled through, one to a page. -/
theorem exists_scroll_buoys : ∃ (documents : List Document) (whole : List Hit) (pages : List HitPage),
    documents.length = 2 ∧ (∃ q, IsResult buoys.gateway.index q documents whole) ∧
      buoys.Scroll (.object [("limit", .int 1)]) pages ∧
      Covers HitPage.hits (fun p => p.details.hasMore) pages (whole.take 10000) := by
  obtain ⟨documents, whole, held, result, _, ⟨pages, scrolls, covers⟩, _⟩ :=
    @exists_scroll buoys (.object [("limit", .int 1)]) _ ⟨rfl, rfl⟩ buoys_written rfl rfl nofun
  have two : buoys.server.index? buoys.gateway.index = some ([buoy "1", buoy "2"].map entry) := rfl
  have both := congrArg List.length (Option.some.inj (held.symm.trans two))
  rw [List.length_map] at both
  exact ⟨documents, whole, pages, both, ⟨_, result⟩, scrolls, covers⟩

end Deployment
end Venues
