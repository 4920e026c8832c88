import Venues.Index.Gateway
import Venues.Index.Server
import Venues.Proofs.Index.Evaluate
import Venues.Proofs.Index.Server

/-! # Pages of search results

A search of an index that holds documents answers with a portion of its full result, which does not
depend on the page that is asked for.
-/

namespace Venues

namespace Index

variable {g : Gateway} {s : Server} {q : Query} {d : Document} {documents : List Document} {name : String}
  {sort : List SortClause} {f : Found}

/-! ## Hits -/

theorem exists_replyNumber (x? : Option Float) :
    ∃ y, replyNumber ((Value.ofOption (x?.map .float)).orElse (.float 0)) = .ok y := by
  cases x? with
  | none => exact ⟨0, rfl⟩
  | some x =>
    rw [Value.orElse]
    split
    · exact ⟨x, rfl⟩
    · exact ⟨0, rfl⟩

/-- What is read of a hit is the document that was found, and its distance from the center of the area. -/
theorem exists_readHit (sorted : sortClauses Surface.facilitySearch q = .ok sort) (found : f.Of sort d)
    (reaches : ∀ a ∈ q.area, Reaches a d) : ∃ h, readHit q (Server.hit name f) = .ok h ∧ h.document = d ∧
      h.distance = q.area.map fun a => haversine a.center d.location := by
  have keys : (Server.hit name f).fields.get "sort" = .list f.keys := rfl
  have distance : hitDistance q (Server.hit name f).fields d =
      .ok (q.area.map fun a => haversine a.center d.location) := by
    unfold hitDistance
    cases area : q.area with
    | none => rfl
    | some a =>
      dsimp only
      rw [keys]
      split
      · rename_i asked
        -- the first sort value is the distance, as the query sorts by it
        rw [sortClauses, asked.1, area] at sorted
        obtain ⟨v, vs, ⟨first, _⟩, _, listed⟩ := List.forall₂_cons_left_iff.mp (Except.ok.inj sorted ▸ found.keys)
        rw [SortClause.valueOf, (reaches a area).distanceFrom_eq, map_ok] at first
        rw [listed, ← Except.ok.inj first]
        rfl
      · rw [distance?, if_pos (reaches a area).distance]
        rfl
  obtain ⟨score, scored⟩ := exists_replyNumber (some f.score)
  refine ⟨⟨d, score, _⟩, ?_, rfl, rfl⟩
  have source : replyField (Server.hit name f) "_source" = .ok d.source := by rw [← found.source]; rfl
  have score : replyNumber (((Server.hit name f).fields.get "_score").orElse (.float 0)) = .ok score := scored
  rw [readHit, source, ok_bind, Schema.document_source]
  show (hitDistance q (Server.hit name f).fields d >>= fun distance => _) = _
  rw [distance, ok_bind, score]
  rfl

/-! ## Full results -/

/-- Whether hits are the full result of a query on documents: all that a search finds, in its order. -/
def IsResult (name : String) (q : Query) (documents : List Document) (whole : List Hit) : Prop :=
  ∃ body found, SearchBody.ofQuery Surface.facilitySearch q = .ok body ∧
    body.search (documents.map entry) = .ok found ∧
    List.Forall₂ (fun f h => readHit q (Server.hit name f) = .ok h ∧ entry h.document = (f.id, f.source)) found whole

/-- Whether a query can be searched for among documents. -/
structure IsSearchable (q : Query) (documents : List Document) : Prop where
  accepted : Surface.facilitySearch.Accepted q.conditions
  offered : (Surface.facilitySearch.sortColumn? q.sorting.key).isSome = true
  placed : Surface.checkDistance q = .ok ()
  reaches : ∀ d ∈ documents, ∀ a ∈ q.area, Reaches a d
  window : Surface.checkWindow q = .ok ()

/-- A query that can be searched for has a full result, in which every hit was found by the sort values of its
document. -/
theorem exists_result_found (searchable : IsSearchable q documents) (name : String) :
    ∃ (whole : List Hit) (body : SearchBody) (found : List Found),
      SearchBody.ofQuery Surface.facilitySearch q = .ok body ∧ body.search (documents.map entry) = .ok found ∧
      sortClauses Surface.facilitySearch q = .ok body.sort ∧
      List.Forall₂ (fun f h => (readHit q (Server.hit name f) = .ok h ∧ entry h.document = (f.id, f.source)) ∧
        h.document ∈ documents ∧ f.Of body.sort h.document) found whole ∧
      ∃ (clauses : List Clause) (test : Document → Bool), filterClauses Surface.facilitySearch q = .ok clauses ∧
        (∀ d ∈ documents, allHold d.source (scoreClause Surface.facilitySearch q :: clauses) = .ok (test d)) ∧
        (found.map Found.id).Perm ((documents.filter test).map Document.id) := by
  obtain ⟨sort, sorted, values⟩ := exists_sortClauses searchable.offered searchable.placed
  obtain ⟨clauses, selected, held⟩ := exists_filterClauses searchable.accepted
  -- every clause of the body can be answered for every document
  obtain ⟨body, made, sorts, must, filters, answered⟩ : ∃ body, SearchBody.ofQuery Surface.facilitySearch q = .ok body ∧
      body.sort = sort ∧ body.must = scoreClause Surface.facilitySearch q ∧ body.filters = clauses ∧
      ∀ d ∈ documents, body.IsAnswered d := by
    refine ⟨_, by rw [SearchBody.ofQuery, searchable.window, ok_bind, sorted, ok_bind, selected, ok_bind], rfl, rfl, rfl,
      fun d member => ⟨List.forall_mem_cons.mpr ⟨?_, held d (searchable.reaches d member)⟩,
        fun score => values d score (searchable.reaches d member)⟩⟩
    show ∃ answer, (scoreClause _ q).holds d.source = .ok answer
    unfold scoreClause
    split
    · split <;> exact ⟨_, rfl⟩
    · exact ⟨_, rfl⟩
  subst sorts
  obtain ⟨found, test, finds, each, tested, ids⟩ := exists_search answered
  obtain ⟨whole, read⟩ : ∃ whole, List.Forall₂ (fun f h => (readHit q (Server.hit name f) = .ok h ∧
      entry h.document = (f.id, f.source)) ∧ h.document ∈ documents ∧ f.Of body.sort h.document) found whole := by
    refine exists_forall₂ fun f member => ?_
    obtain ⟨d, there, found⟩ := each f member
    obtain ⟨h, read, rfl, _⟩ := @exists_readHit _ _ name _ _ sorted found (searchable.reaches d there)
    exact ⟨h, ⟨read, by rw [entry, found.id, found.source]⟩, there, found⟩
  rw [must, filters] at tested
  exact ⟨whole, body, found, made, finds, sorted, read, clauses, test, selected, tested, ids⟩

theorem map_id_of_read {P : Found → Hit → Prop} {found : List Found} {whole : List Hit}
    (read : List.Forall₂ (fun f h => P f h ∧ entry h.document = (f.id, f.source)) found whole) :
    whole.map (fun h => h.document.id) = found.map Found.id := by
  induction read with
  | nil => rfl
  | cons first _ ih => exact congrArg₂ List.cons (congrArg Prod.fst first.2) ih

/-- A query that can be searched for has a full result, which holds the documents that satisfy all of its
clauses. -/
theorem exists_result_filter (searchable : IsSearchable q documents) (name : String) :
    ∃ (whole : List Hit) (clauses : List Clause) (test : Document → Bool), IsResult name q documents whole ∧
      (∀ h ∈ whole, h.document ∈ documents) ∧ filterClauses Surface.facilitySearch q = .ok clauses ∧
      (∀ d ∈ documents, allHold d.source (scoreClause Surface.facilitySearch q :: clauses) = .ok (test d)) ∧
      (whole.map fun h => h.document.id).Perm ((documents.filter test).map Document.id) := by
  obtain ⟨whole, body, found, made, finds, _, read, clauses, test, selected, tested, ids⟩ :=
    exists_result_found searchable name
  have each := read.imp fun _ _ => And.left
  refine ⟨whole, clauses, test, ⟨body, found, made, finds, each⟩, fun h member => ?_, selected, tested,
    map_id_of_read each ▸ ids⟩
  obtain ⟨_, _, _, there, _⟩ := exists_of_forall₂ read h member
  exact there

/-- A query that can be searched for has a full result, in which each document is found at most once. -/
theorem exists_result (searchable : IsSearchable q documents) (name : String) :
    ∃ whole, IsResult name q documents whole ∧ (∀ h ∈ whole, h.document ∈ documents) ∧
      ((documents.map Document.id).Nodup → (whole.map fun h => h.document.id).Nodup) := by
  obtain ⟨whole, _, test, result, there, _, _, ids⟩ := exists_result_filter searchable name
  refine ⟨whole, result, there, fun distinct => ?_⟩
  exact ids.nodup_iff.mpr (distinct.sublist (List.filter_sublist.map _))

/-! ## Pages -/

theorem portion_ofQuery {surface : Surface} {body : SearchBody} (made : SearchBody.ofQuery surface q = .ok body) :
    body.start = startOfPage q.page ∧ body.size = q.limit := by
  unfold SearchBody.ofQuery at made
  obtain ⟨_, _, made⟩ := bind_eq_ok.mp made
  obtain ⟨_, _, made⟩ := bind_eq_ok.mp made
  obtain ⟨_, _, made⟩ := bind_eq_ok.mp made
  cases made
  exact ⟨rfl, rfl⟩

/-- The search body for another page differs in the portion only. -/
theorem ofQuery_repaged {surface : Surface} {body : SearchBody} (made : SearchBody.ofQuery surface q = .ok body)
    {page : Page} (window : Surface.checkWindow { q with page := page } = .ok ()) :
    SearchBody.ofQuery surface { q with page := page } =
      .ok { body with start := startOfPage page, size := page.limit } := by
  unfold SearchBody.ofQuery at made
  obtain ⟨_, _, made⟩ := bind_eq_ok.mp made
  obtain ⟨sort, sorted, made⟩ := bind_eq_ok.mp made
  obtain ⟨filters, selected, made⟩ := bind_eq_ok.mp made
  cases made
  rw [SearchBody.ofQuery, window, ok_bind]
  rw [show sortClauses surface { q with page := page } = .ok sort from sorted, ok_bind,
    show filterClauses surface { q with page := page } = .ok filters from selected, ok_bind]
  rfl

theorem IsResult.repaged {whole : List Hit} (result : IsResult name q documents whole) {page : Page}
    (window : Surface.checkWindow { q with page := page } = .ok ()) :
    IsResult name { q with page := page } documents whole := by
  obtain ⟨body, found, made, finds, read⟩ := result
  exact ⟨_, found, ofQuery_repaged made window, finds, read⟩

/-- The reply to a search is read as the hits of its portion, with the number of all that was found. -/
theorem exists_readResponse {body : SearchBody} {found : List Found} {hits : List Hit}
    (read : ((portionOf body.start body.size found).map (Server.hit name)).mapM (readHit q) = .ok hits) :
    ∃ score, readResponse q (Server.searchReply name body found) =
      .ok ⟨hits, found.length, score, searchMeta q hits.length found.length⟩ := by
  obtain ⟨score, scored⟩ := exists_replyNumber (highestScore found)
  let page (hits : List Hit) (maxScore : Float) : Outcome HitPage :=
    readTotal (.int found.length) >>= fun total => .ok ⟨hits, total, maxScore, searchMeta q hits.length total⟩
  have parts : readResponse q (Server.searchReply name body found) =
      (((portionOf body.start body.size found).map (Server.hit name)).mapM (readHit q) >>= fun hits =>
        if q.hasTerm then replyNumber ((Value.ofOption ((highestScore found).map .float)).orElse (.float 0)) >>= page hits
        else page hits 0) := rfl
  rw [parts, read, ok_bind]
  -- without a term there is no highest score
  by_cases term : q.hasTerm = true
  · exact ⟨score, by rw [if_pos term, scored]; rfl⟩
  · exact ⟨0, by rw [if_neg term]; rfl⟩

/-- The index answers a page inside its window with that portion of the full result. -/
theorem run_search {whole : List Hit} (result : IsResult g.index q documents whole)
    (holds : s.index? g.index = some (documents.map entry)) (inside : startOfPage q.page + q.limit ≤ resultWindow) :
    ∃ score, (g.search q).run Server.client s =
      (.ok ⟨portionOf (startOfPage q.page) q.limit whole, whole.length, score,
        searchMeta q (portionOf (startOfPage q.page) q.limit whole).length whole.length⟩, s) := by
  obtain ⟨body, found, made, finds, read⟩ := result
  obtain ⟨start, size⟩ := portion_ofQuery made
  have answered : s.search g.index body = .ok (Server.searchReply g.index body found) := by
    rw [Server.search, holds]
    dsimp only
    rw [finds, ok_bind, start, size, if_neg (Int.not_lt.mpr inside)]
  have called : (Exchange.call (.search g.index body)).run Server.client s =
      (.ok (Server.searchReply g.index body found), s) := by
    show (s.search g.index body, s) = _
    rw [answered]
  -- reading the hits keeps their sequence, so it commutes with cutting out the page
  have hits : ((portionOf body.start body.size found).map (Server.hit g.index)).mapM (readHit q) =
      .ok (portionOf (startOfPage q.page) q.limit whole) := by
    rw [List.mapM_map, start, size]
    exact mapM_eq_ok_of_forall₂ ((List.forall₂_take _ (List.forall₂_drop _ read)).imp fun _ _ => And.left)
  obtain ⟨score, response⟩ := exists_readResponse hits
  refine ⟨score, ?_⟩
  rw [Gateway.search, made, ← read.length_eq]
  show ((Gateway.connected >>= fun _ => Gateway.explained "search" (Exchange.call (.search g.index body))) >>=
    fun reply => liftM (readResponse _ reply) : Exchange HitPage).run Server.client s = _
  rw [Exchange.run_bind (Server.run_explained called "search")]
  show (readResponse _ _, s) = _
  rw [response]

end Index
end Venues
