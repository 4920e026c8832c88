import Mathlib.Data.List.Perm.Basic
import Venues.Proofs.Index.Agreement
import Venues.Proofs.Index.Search
import Venues.Proofs.Reindex.Report

/-! # The index after a reindex

A reindex that rebuilds the index leaves it with the documents of the facilities that are published and not
deleted. A search for shared conditions then finds what a listing finds in the store.
-/

namespace Venues

open Store (Row Tables Model Formula Agrees compile)

namespace Index

variable {t : Tables} {conditions : Conditions} {ps : List Predicate} {q q' : Query} {documents : List Document}
  {fs : List Facility}

/-! ## Listings -/

/-- The condition that facilities are published. -/
def published : String × Condition := ("isPublished", .equals (.bool true))

theorem isTold_published : IsTold published :=
  ⟨_, rfl, rfl, rfl, by decide, rfl, rfl, rfl, nofun⟩

theorem meets_published {f : Facility} : meets t f published = f.isPublished.getD false := by
  show (Store.Comparison.equal.answer (.ofValue (.ofOption (f.isPublished.map .bool))) (.ofValue (.bool true)) ==
    some true) = _
  cases f.isPublished with
  | none => rfl
  | some b => cases b <;> decide

/-- A listing with conditions on columns of facilities selects those that are not deleted and meet them. -/
theorem exists_selected_eq (sound : t.IsSound) (told : ∀ c ∈ conditions, IsTold c)
    (each : List.Forall₂ IsPredicateOf conditions ps) :
    ∃ f, compile .facility (.all (.equals "deleted_at" .null :: ps)) = .ok f ∧ f.faults = [] ∧
      t.selected .facility f =
        (t.facilities.filter fun g => g.deletedAt.isNone && conditions.all (meets t g)).map .facility := by
  have deletion : Model.facility.column? "deleted_at" = some .time := rfl
  have parts : ∀ p ∈ ps, Agrees t .facility p := by
    -- the predicates go with the conditions, one by one
    induction each with
    | nil => simp
    | cons isOf _ ih =>
      obtain ⟨first, others⟩ := List.forall_mem_cons.mp told
      exact List.forall_mem_cons.mpr ⟨agrees_of_isTold sound first isOf, ih others⟩
  obtain ⟨f, made, clean, agrees⟩ :=
    Store.agrees_all (List.forall_mem_cons.mpr ⟨Store.agrees_isNull sound deletion, parts⟩)
  refine ⟨f, made, clean, ?_⟩
  rw [Tables.selected, Tables.rows, List.filter_map]
  congr 1
  apply List.filter_congr
  intro g there
  have selects := agrees _ (List.mem_map_of_mem there) _ le_rfl
  -- what the formula selects is what the predicate accepts, part by part
  rw [Predicate.accepts, Predicate.allAccept, allAccept_eq_meets sound there told each, Predicate.accepts,
    Store.get_record (r := .facility g) deletion, ok_bind] at selects
  have live : ((Row.facility g).values.get "deleted_at").same .null = g.deletedAt.isNone := by
    show (Value.ofOption (g.deletedAt.map .time)).same .null = _
    cases g.deletedAt <;> rfl
  rw [live] at selects
  cases deleted : g.deletedAt.isNone with
  | true =>
    rw [deleted, if_pos rfl] at selects
    exact (Except.ok.inj selects).symm
  | false =>
    rw [deleted, if_neg Bool.false_ne_true] at selects
    exact (Except.ok.inj selects).symm

/-! ## Documents and rows -/

/-- Whether documents are those of the facilities that are published and not deleted. -/
def Mirrors (t : Tables) (documents : List Document) : Prop :=
  ∃ fs : List Facility, fs.Perm (t.facilities.filter Facility.isIndexable) ∧
    List.Forall₂ (fun f d => project f (t.courtsOf f) = .ok d) fs documents

/-- Whether a search and a listing ask for the same: in the store the facilities have to be published, as in the
index all of them are, and the other conditions are shared. -/
structure AskAlike (q q' : Query) : Prop where
  shared : AreShared q.conditions
  conditions : q'.conditions.Perm (published :: q.conditions)
  terms : q.term = none ∧ q'.term = none
  everywhere : q.area = none

theorem map_filter_of_forall₂ {α β γ : Type} {R : α → β → Prop} {as : List α} {bs : List β} {p : α → Bool}
    {test : β → Bool} {name : α → γ} {name' : β → γ} (each : List.Forall₂ R as bs)
    (same : ∀ a ∈ as, ∀ b ∈ bs, R a b → test b = p a ∧ name' b = name a) :
    (bs.filter test).map name' = (as.filter p).map name := by
  induction each with
  | nil => rfl
  | @cons a b as bs related _ ih =>
    obtain ⟨tests, names⟩ := same a List.mem_cons_self b List.mem_cons_self related
    have rest := ih fun a member b member' => same a (List.mem_cons_of_mem _ member) b (List.mem_cons_of_mem _ member')
    rw [List.filter_cons, List.filter_cons, tests]
    cases p a with
    | true => exact congrArg₂ List.cons names rest
    | false => exact rest

/-- The predicate of the listing, and the facilities that the store selects for it. -/
theorem AskAlike.exists_selected (alike : AskAlike q q') (sound : t.IsSound) :
    ∃ p f, Predicate.ofQuery Surface.facilityListing q' = .ok p ∧ compile .facility p = .ok f ∧ f.faults = [] ∧
      t.selected .facility f =
        ((t.facilities.filter Facility.isIndexable).filter fun g => q.conditions.all (meets t g)).map .facility := by
  have told : ∀ c ∈ q'.conditions, IsTold c := by
    intro c member
    rcases List.mem_cons.mp (alike.conditions.mem_iff.mp member) with rfl | member
    · exact isTold_published
    · exact alike.shared.isTold c member
  obtain ⟨ps, made, each⟩ := exists_ofConditions_own told
  obtain ⟨f, compiled, clean, selected⟩ := exists_selected_eq sound told each
  refine ⟨.all (.equals "deleted_at" .null :: ps), f, ?_, compiled, clean, ?_⟩
  · rw [Predicate.ofQuery, made, ok_bind, alike.terms.2]
    simp [Predicate.merge, Predicate.base, Predicate.ofTerm, Predicate.conjuncts, Surface.facilityListing]
  · rw [selected, List.filter_filter]
    congr 2
    funext g
    rw [alike.conditions.all_eq, List.all_cons, meets_published, Facility.isIndexable]
    ac_rfl

theorem isSome_ownerId (kept : t.IsKept) {f : Facility} (there : f ∈ t.facilities) : f.ownerId.isSome = true := by
  have present := kept.needed .facility _ (List.mem_map_of_mem there) "owner_id" (by decide)
  change (Value.ofOption (f.ownerId.map .uuid)).isNull = false at present
  cases owner : f.ownerId with
  | none => rw [owner] at present; cases present
  | some u => rfl

/-- The document of a facility satisfies the clauses of a search if the facility meets the conditions. -/
theorem allHold_eq_all (sound : t.IsSound) (kept : t.IsKept) (shared : AreShared conditions) {f : Facility}
    (there : f ∈ t.facilities) (indexable : f.isIndexable = true) {d : Document} (shows : d.Shows f)
    {clauses : List Clause} (each : List.Forall₂ IsClauseOf conditions clauses) :
    allHold d.source (.matchAll :: .term "isPublished" (.bool true) :: clauses) =
      .ok (conditions.all (meets t f)) := by
  -- a document is that of a published facility, and says so
  have shown : (Clause.term "isPublished" (.bool true)).holds d.source = .ok true := by
    show Except.ok ([Value.bool d.isPublished].any (Value.bool true).same) = _
    rw [shows.isPublished, (Bool.and_eq_true_iff.mp indexable).1]
    simp [Value.same, Value.magnitude?, Magnitude.same_ofInt]
  rw [allHold, Clause.holds, ok_bind, if_pos rfl, allHold, shown, ok_bind, if_pos rfl]
  exact allHold_eq_meets sound there (isSome_ownerId kept there) shows shared each

/-- The documents that pass the clauses of a search are those of the facilities that meet its conditions. -/
theorem map_id_filter_eq (sound : t.IsSound) (kept : t.IsKept) (shared : AreShared q.conditions)
    (termless : q.term = none) (everywhere : q.area = none)
    (candidate : ∀ g ∈ fs, g ∈ t.facilities ∧ g.isIndexable = true)
    (projected : List.Forall₂ (fun f d => project f (t.courtsOf f) = .ok d) fs documents) {clauses : List Clause}
    (filters : filterClauses Surface.facilitySearch q = .ok clauses) {test : Document → Bool}
    (tested : ∀ d ∈ documents, allHold d.source (scoreClause Surface.facilitySearch q :: clauses) = .ok (test d)) :
    (documents.filter test).map Document.id =
      (fs.filter fun g => q.conditions.all (meets t g)).map fun g => g.id.text := by
  obtain ⟨clauses', filters', each⟩ := shared.filterClauses_eq everywhere
  cases filters.symm.trans filters'
  have unscored : scoreClause Surface.facilitySearch q = .matchAll := by
    rw [scoreClause, termless]
  apply map_filter_of_forall₂ projected
  intro g member d member' project
  obtain ⟨there, indexable⟩ := candidate g member
  have shows := shows_of_project project
  have holds := tested d member'
  rw [unscored, allHold_eq_all sound kept shared there indexable shows each] at holds
  exact ⟨(Except.ok.inj holds).symm, shows.id⟩

/-- Among the documents of the facilities of a store, a search finds those of the facilities that a listing for
the same selects. -/
theorem AskAlike.exists_result (alike : AskAlike q q') (sound : t.IsSound) (kept : t.IsKept)
    (mirrors : Mirrors t documents) (accepted : Surface.facilitySearch.accept q = .ok q) (name : String) :
    ∃ whole p f, IsResult name q documents whole ∧ Predicate.ofQuery Surface.facilityListing q' = .ok p ∧
      compile .facility p = .ok f ∧ f.faults = [] ∧
      (whole.map fun h => h.document.id).Perm ((t.selected .facility f).map fun r => r.id.text) := by
  obtain ⟨p, f, made, compiled, clean, selected⟩ := alike.exists_selected sound
  obtain ⟨_, _, offered, _, window, placed⟩ := Surface.accept_iff.mp accepted
  have searchable : IsSearchable q documents := by
    refine ⟨alike.shared.accepted, offered, placed, ?_, window rfl⟩
    intro d _ a asked
    rw [alike.everywhere] at asked
    cases asked
  obtain ⟨whole, clauses, test, result, _, filters, tested, ids⟩ := exists_result_filter searchable name
  refine ⟨whole, p, f, result, made, compiled, clean, ids.trans ?_⟩
  obtain ⟨fs, order, projected⟩ := mirrors
  have same := map_id_filter_eq sound kept alike.shared alike.terms.1 alike.everywhere
    (fun g member => List.mem_filter.mp (order.mem_iff.mp member)) projected filters tested
  rw [same, selected, List.map_map]
  exact (order.filter _).map _

end Index

namespace Deployment

open Index (Server Mirrors AskAlike IsResult Loaded startOfPage entry)
open Reindex

variable {d : Deployment} {fs : List Facility} {documents : List Document} {q q' : Query}

/-! ## Loading everything -/

/-- The size of the batches of a reindex: without a size, or with size zero, that of the settings. -/
def batchSizeOf (d : Deployment) : Option Int → Int
  | some n => if n = 0 then d.settings.batchSize else n
  | none => d.settings.batchSize

theorem reindexAll_batchSizeOf {size? : Option Int} {options : Options} (positive : 1 ≤ d.batchSizeOf size?) :
    d.reindexAll size? options [] = d.reindexAll (some (d.batchSizeOf size?)) options [] := by
  have same : start d.gateway size? options d.now = start d.gateway (some (d.batchSizeOf size?)) options d.now := by
    have given : d.batchSizeOf size? ≠ 0 := by omega
    simp only [start, if_neg given]
    cases size? <;> rfl
  rw [reindexAll, reindexAll, same]

/-- Facilities with names and coordinates are mapped to their documents, and nothing is told of them. -/
theorem exists_documentsOf (sound : d.tables.IsSound) (kept : d.tables.IsKept)
    (there : ∀ f ∈ fs, f ∈ d.tables.facilities) (placed : ∀ f ∈ fs, f.IsPlaced) :
    List.Forall₂ (fun f e => project f (d.tables.courtsOf f) = .ok e) fs (documentsOf false (d.loaded fs)) ∧
      linesOf false (d.loaded fs) = [] := by
  induction fs with
  | nil => exact ⟨.nil, rfl⟩
  | cons f fs ih =>
    obtain ⟨first, others⟩ := List.forall_mem_cons.mp there
    obtain ⟨placed, placedOthers⟩ := List.forall_mem_cons.mp placed
    obtain ⟨e, made⟩ := exists_project (sound.projectable kept first) placed
    have mapped : mapped false (Loaded.ofFacility d.tables f) = .ok e := by
      rw [Reindex.mapped, show (Loaded.ofFacility d.tables f).document = .ok e from made]
      rfl
    obtain ⟨each, untold⟩ := ih others placedOthers
    rw [loaded, List.map_cons, documentsOf_cons, linesOf_cons, mapped]
    exact ⟨.cons made each, untold⟩

/-- What asks a reindex to build the index anew. -/
def anew (given : Fields) : Options := { clearIndex := true, given := given }

/-- The candidates of a reindex are the facilities that are published and not deleted. -/
theorem exists_candidates (sound : d.tables.IsSound) (given : Fields) :
    ∃ filter f, candidates (anew given).filters (anew given).includeUnpublished = .ok filter ∧
      compile .facility filter = .ok f ∧ f.faults = [] ∧
      d.tables.selected .facility f = (d.tables.facilities.filter Facility.isIndexable).map .facility := by
  obtain ⟨f, compiled, clean, selected⟩ := Index.exists_selected_eq sound
    (List.forall_mem_singleton.mpr Index.isTold_published) (.cons ⟨_, rfl, rfl⟩ .nil)
  refine ⟨_, f, rfl, compiled, clean, ?_⟩
  rw [selected]
  congr 2
  funext g
  rw [List.all_cons, List.all_nil, Bool.and_true, Index.meets_published, Facility.isIndexable, Bool.and_comm]

section Rebuilt

variable (calm : d.IsCalm) (sound : d.tables.IsSound) (kept : d.tables.IsKept) (recorded : d.runs.isSome = true)
  (accepting : d.server.refused = [])
  (placed : ∀ f ∈ d.tables.facilities, f.isIndexable = true → f.IsPlaced)
  {size? : Option Int} (positive : 1 ≤ d.batchSizeOf size?) (short : d.batchSizeOf size? < 2 ^ 63) (given : Fields)
include calm sound kept recorded accepting placed positive short

/-- A reindex that builds the index anew leaves it with the documents of the facilities that are published and
not deleted, if each of them has a name and coordinates and none is refused. -/
theorem exists_rebuilt : ∃ report sizes d' documents,
    d.reindexAll size? (anew given) [] = (.ok (report, sizes), d') ∧ report.indexed = documents.length ∧
      report.errors = [] ∧ d'.IsCalm ∧ d'.tables = d.tables ∧ Mirrors d.tables documents ∧
      d'.server.index? d'.gateway.index = some (documents.map entry) := by
  obtain ⟨filter, f, chosen, compiled, clean, selected⟩ := exists_candidates sound given
  obtain ⟨rows, listed⟩ := exists_listed d f
  -- the candidates that the run reads are all that are to be found in the index
  have order : rows.Perm (d.tables.facilities.filter Facility.isIndexable) := by
    have perm : (d.tables.answers .facility streamOrder f).Perm (d.tables.selected .facility f) := Store.walk_perm
    rw [listed, selected] at perm
    exact (List.map_perm_map_iff fun _ _ same => Row.facility.inj same).mp perm
  have candidate : ∀ g ∈ rows, g ∈ d.tables.facilities ∧ g.isIndexable = true := fun g member =>
    List.mem_filter.mp (order.mem_iff.mp member)
  obtain ⟨each, untold⟩ := exists_documentsOf sound kept (fun g member => (candidate g member).1) fun g member =>
    placed g (candidate g member).1 (candidate g member).2
  -- the run begins with an index without documents, and passes all candidates
  obtain ⟨before, prepared, refused, empty⟩ := @Server.exists_cleared d.server d.gateway
  obtain ⟨sizes, began⟩ := @run_running d d.session d.server [] _ calm (prepare d.gateway true)
  rw [prepared] at began
  have skips : (Progress.first (anew given)).skip < 2 ^ 63 := show (0 : Int) < 2 ^ 63 by decide
  let plan := (d.begun filter (d.batchSizeOf size?) (anew given)).plan
  obtain ⟨_, p, isOpen, sizes', streams, _, accounts⟩ := @exists_streams_underway d plan f rows calm sound kept compiled
    clean listed positive (.first (anew given)) 0 (.inl ⟨rfl, rfl⟩) skips short false before sizes
  have all : within (Progress.first (anew given)).remaining (rows.drop 0) = rows := rfl
  rw [all] at streams accounts
  obtain ⟨events, runs, ran⟩ := reindexAll_eq_of_streams chosen positive calm recorded began streams
  refine ⟨p.report, sizes', _, documentsOf false (d.loaded rows), (reindexAll_batchSizeOf positive).trans ran, ?_, ?_,
    ⟨calm.enabled, calm.failing⟩, rfl, ⟨rows, order, each⟩, ?_⟩
  · rw [accounts.indexed, Server.countTaken_of_accepting (refused.trans accepting)]
    exact Int.zero_add _
  · have told := accounts.errors
    rw [Server.refusals_of_accepting (refused.trans accepting), show plan.validate = false from rfl, untold] at told
    exact List.perm_nil.mp told
  · apply Server.index?_foldl_take (refused.trans accepting) empty
    apply nodup_documentsOf
    · exact projectable_of_mem sound kept fun g read => (candidate g read).1
    · rw [loaded, List.map_map]
      exact nodup_of_listed (sound.orderly .facility).toIsKeyed listed

/-- After a reindex that builds the index anew, a search for facilities by city, ward, owner or rating agrees with
a listing of the published facilities for the same conditions: it finds just the documents of the facilities that
the store finds, and tells of as many. -/
theorem rebuilt_agrees : ∃ report sizes d' documents,
    d.reindexAll size? (anew given) [] = (.ok (report, sizes), d') ∧ report.errors = [] ∧ d'.tables = d.tables ∧
      d'.server.index? d'.gateway.index = some (documents.map entry) ∧
      ∀ q q', Surface.facilitySearch.accept q = .ok q → AskAlike q q' →
        ∃ whole p found, IsResult d'.gateway.index q documents whole ∧
          Predicate.ofQuery Surface.facilityListing q' = .ok p ∧
          d'.tables.findMany .facility { filter := some p, order := [("id", .asc)] } = .ok found ∧
          (whole.map fun h => h.document.id).Perm (found.map fun r => r.id.text) ∧
          d'.tables.count .facility (some p) = .ok whole.length ∧
          (startOfPage q.page + q.limit ≤ resultWindow →
            ∃ page, d'.exchange (fun g => g.search q) = (.ok page, d') ∧ page.total = whole.length) := by
  obtain ⟨report, sizes, d', documents, ran, _, clean, calm', tables, mirrors, holds⟩ :=
    exists_rebuilt calm sound kept recorded accepting placed positive short given
  refine ⟨report, sizes, d', documents, ran, clean, tables, holds, ?_⟩
  intro q q' accepted alike
  obtain ⟨whole, p, f, result, made, compiled, faultless, ids⟩ :=
    alike.exists_result sound kept mirrors accepted d'.gateway.index
  obtain ⟨found, reads, order, counts⟩ := sound.exists_found compiled faultless
  have same : (whole.map fun h => h.document.id).Perm (found.map fun r => r.id.text) :=
    ids.trans (order.map _).symm
  -- the totals are the lengths of lists that are the same but for their order
  have length : found.length = whole.length := by
    rw [← List.length_map fun r : Row => r.id.text, ← same.length_eq, List.length_map]
  refine ⟨whole, p, found, result, made, tables ▸ reads, same, tables ▸ length ▸ counts, ?_⟩
  intro inside
  obtain ⟨score, searches⟩ := Index.run_search result holds inside
  rw [exchange, calm'.run_eq, searches]
  exact ⟨_, rfl, rfl⟩

end Rebuilt

/-- A facility with a name and coordinates. -/
def hall (id : Fin (2 ^ 128)) (ward : String) (published : Bool) : Facility :=
  { unlocated id with
    latitude := some 16, longitude := some 108, ward := some ward, rating := some 4.5, isPublished := some published }

/-- A deployment with three such facilities, one of which is not published. -/
def halls : Deployment where
  settings := {}
  now := 0
  tables := { facilities := [hall 1 "Hải Châu" true, hall 2 "Sơn Trà" true, hall 3 "Hải Châu" false] }

theorem halls_isSound : halls.tables.IsSound where
  present := rfl
  distinct m := by cases m <;> decide
  typed m := by cases m <;> decide +kernel
  bounded m := by cases m <;> decide

theorem halls_isKept : halls.tables.IsKept where
  needed m := by cases m <;> decide
  moments m := by cases m <;> decide

/-- What asks for facilities in some wards with a rating from 4 on. -/
def hallQuery : Query where
  term := none
  conditions := [("ward", .oneOf [.text "Hải Châu", .text "Thanh Khê"]), ("rating", .range (.float 4) .null)]
  area := none
  sorting := ⟨.createdAt, .desc⟩
  page := .offset 1 10 none
  withRelations := false

def hallListing : Query := { hallQuery with conditions := Index.published :: hallQuery.conditions }

theorem areShared_hallQuery : Index.AreShared hallQuery.conditions where
  fields := by decide
  accepted := by
    intro c member
    simp only [hallQuery, List.mem_cons, List.not_mem_nil, or_false] at member
    rcases member with rfl | rfl
    · exact ⟨_, rfl, List.forall_mem_cons.mpr ⟨rfl, List.forall_mem_singleton.mpr rfl⟩⟩
    · exact ⟨_, rfl, .inr rfl, .inl rfl⟩
  plain := by decide +kernel
  whole := by
    intro c member needle
    simp only [hallQuery, List.mem_cons, List.not_mem_nil, or_false] at member
    rcases member with rfl | rfl <;> nofun

/-- The search finds the one facility that the listing finds. -/
theorem rebuilt_agrees_halls : ∃ report sizes d' documents whole p found page,
    halls.reindexAll none (anew []) [] = (.ok (report, sizes), d') ∧ report.errors = [] ∧
      IsResult d'.gateway.index hallQuery documents whole ∧
      Predicate.ofQuery Surface.facilityListing hallListing = .ok p ∧
      d'.tables.findMany .facility { filter := some p, order := [("id", .asc)] } = .ok found ∧
      (whole.map fun h => h.document.id).Perm (found.map fun r => r.id.text) ∧
      d'.exchange (fun g => g.search hallQuery) = (.ok page, d') ∧ page.total = 1 := by
  obtain ⟨report, sizes, d', documents, ran, clean, tables, _, agrees⟩ := @rebuilt_agrees halls ⟨rfl, rfl⟩
    halls_isSound halls_isKept rfl rfl (by decide) none (by decide) (by decide) []
  obtain ⟨whole, p, found, result, made, reads, same, counts, answers⟩ := agrees hallQuery hallListing rfl
    ⟨areShared_hallQuery, .refl _, ⟨rfl, rfl⟩, rfl⟩
  obtain ⟨page, searches, total⟩ := answers (by decide)
  have one : ((Predicate.ofQuery Surface.facilityListing hallListing).bind fun p =>
      halls.tables.count .facility (some p)).toOption = some 1 := by decide +kernel
  rw [made, ← tables] at one
  change (d'.tables.count .facility (some p)).toOption = some 1 at one
  rw [counts] at one
  exact ⟨report, sizes, d', documents, whole, p, found, page, ran, clean, result, made, reads, same, searches,
    total.trans (Option.some.inj one)⟩

end Deployment
end Venues
