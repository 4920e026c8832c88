import Venues.Proofs.Reindex.Window

/-! # The report of a reindex

A reindex of a store that nobody changes counts the facilities that it has loaded, and names each of the
others in one error. Neither what it reads nor what it reports depends on the size of its batches, but for
the order of the errors.
-/

namespace Venues

open Store (Row Tables Formula Precedes compile)
open Index (Loaded Server Gateway)

namespace Reindex

variable {validate : Bool} {s : Server} {l : Loaded} {ls : List Loaded} {u v : Uuid} {name : String}

/-! ## Lines -/

/-- Whether a line is about an identity. -/
def names (u : Uuid) (line : String) : Bool := (u.text ++ ": ").toList.isPrefixOf line.toList

/-- A line is about the identity that it begins with, and about no other one. -/
theorem names_iff {reason : String} : names u (v.text ++ ": " ++ reason) = true ↔ u = v := by
  rw [names, List.isPrefixOf_iff_prefix, @String.toList_append (v.text ++ ": ") reason]
  constructor
  · intro leads
    -- both texts begin the line, and they have the same length
    have length (w : Uuid) : (w.text ++ ": ").toList.length = 38 := by
      rw [String.toList_append, List.length_append, Uuid.length_text]
      rfl
    have part := List.prefix_of_prefix_length_le leads (List.prefix_append _ _) (by rw [length, length])
    have same := part.eq_of_length (by rw [length, length])
    rw [String.toList_append, String.toList_append] at same
    exact Uuid.text_injective (String.toList_inj.mp (List.append_cancel_right same))
  · rintro rfl
    exact List.prefix_append _ _

/-- What a run tells of a facility: why there is no document of it, or that the index refuses it. -/
def told (validate : Bool) (s : Server) (l : Loaded) : Option String :=
  match mapped validate l with
  | .error line => some line
  | .ok d => if s.refused.contains d.id then some (Server.refusal d) else none

theorem told_of_error {line : String} (refused : mapped validate l = .error line) :
    told validate s l = some line := by
  rw [told, refused]

theorem told_of_ok {d : Document} (made : mapped validate l = .ok d) :
    told validate s l = if s.refused.contains d.id then some (Server.refusal d) else none := by
  rw [told, made]

/-- What is told of a facility names it. -/
theorem names_of_told (projectable : l.facility.IsProjectable l.courts) {line : String}
    (tells : told validate s l = some line) : names u line = true ↔ u = l.facility.id := by
  cases outcome : mapped validate l with
  | error line' =>
    rw [told_of_error outcome] at tells
    cases tells
    obtain ⟨reason, rfl⟩ := exists_reason_of_mapped outcome
    exact names_iff
  | ok d =>
    rw [told_of_ok outcome] at tells
    obtain ⟨_, rfl⟩ := Option.ite_some_none_eq_some.mp tells
    rw [Server.refusal, (document_of_mapped projectable outcome).2]
    exact names_iff

/-! ## Accounting -/

theorem documentsOf_cons : documentsOf validate (l :: ls) =
    (mapped validate l).toOption.toList ++ documentsOf validate ls := by
  rw [documentsOf, List.filterMap_cons]
  cases (mapped validate l).toOption <;> rfl

theorem linesOf_cons : linesOf validate (l :: ls) = (line? (mapped validate l)).toList ++ linesOf validate ls := by
  rw [linesOf, List.filterMap_cons]
  cases line? (mapped validate l) <;> rfl

/-- The lines of a run are what it tells of its facilities, one by one. -/
theorem perm_told : (linesOf validate ls ++ s.refusals (documentsOf validate ls)).Perm
    (ls.filterMap (told validate s)) := by
  induction ls with
  | nil => exact .refl _
  | cons l ls ih =>
    rw [documentsOf_cons, linesOf_cons, List.filterMap_cons]
    cases outcome : mapped validate l with
    | error line =>
      rw [told_of_error outcome]
      exact ih.cons line
    | ok d =>
      rw [told_of_ok outcome]
      show (linesOf validate ls ++ s.refusals (d :: documentsOf validate ls)).Perm _
      rw [Server.refusals, List.filterMap_cons]
      cases s.refused.contains d.id with
      | true => exact List.perm_middle.trans (ih.cons _)
      | false => exact ih

/-- Each facility is counted, or told of. -/
theorem countTaken_add_told : s.countTaken (documentsOf validate ls) + (ls.filterMap (told validate s)).length =
    ls.length := by
  induction ls with
  | nil => rfl
  | cons l ls ih =>
    rw [documentsOf_cons, List.filterMap_cons, List.length_cons, ← ih]
    cases outcome : mapped validate l with
    | error line =>
      rw [told_of_error outcome]
      rfl
    | ok d =>
      rw [told_of_ok outcome]
      show s.countTaken (d :: documentsOf validate ls) + _ = _
      rw [Server.countTaken, List.countP_cons]
      cases s.refused.contains d.id with
      | true => exact (Nat.add_assoc _ _ _).symm
      | false => exact Nat.add_right_comm _ _ _

theorem countP_told_of_absent (projectable : ∀ l ∈ ls, l.facility.IsProjectable l.courts)
    (absent : u ∉ ls.map fun l => l.facility.id) : (ls.filterMap (told validate s)).countP (names u) = 0 := by
  refine List.countP_eq_zero.mpr fun line told => ?_
  obtain ⟨l', member, tells⟩ := List.mem_filterMap.mp told
  rw [names_of_told (projectable l' member) tells]
  rintro rfl
  exact absent (List.mem_map_of_mem member)

/-- Of facilities with different identities each one is named as often as something is told of it. -/
theorem countP_told (projectable : ∀ l ∈ ls, l.facility.IsProjectable l.courts)
    (distinct : (ls.map fun l => l.facility.id).Nodup) (member : l ∈ ls) :
    (ls.filterMap (told validate s)).countP (names l.facility.id) = (told validate s l).toList.length := by
  induction ls with
  | nil => cases member
  | cons l' ls ih =>
    obtain ⟨first, rest⟩ := List.forall_mem_cons.mp projectable
    rw [List.map_cons, List.nodup_cons] at distinct
    rw [List.filterMap_cons]
    -- the facility is the first one, and no line that follows names it, or it is named by a later line
    rcases List.mem_cons.mp member with rfl | member
    · have others := @countP_told_of_absent validate s ls _ rest distinct.1
      cases tells : told validate s l with
      | none => exact others
      | some line =>
        show List.countP _ (line :: _) = _
        rw [List.countP_cons_of_pos ((names_of_told first tells).mpr rfl), others]
        rfl
    · have other : l.facility.id ≠ l'.facility.id := fun same =>
        distinct.1 (same ▸ List.mem_map_of_mem member)
      cases tells : told validate s l' with
      | none => exact ih rest distinct.2 member
      | some line =>
        show List.countP _ (line :: _) = _
        rw [List.countP_cons_of_neg (mt (names_of_told first tells).mp other)]
        exact ih rest distinct.2 member

/-! ## What the index holds -/

theorem exists_of_mem_documentsOf (projectable : ∀ l ∈ ls, l.facility.IsProjectable l.courts) {d : Document}
    (member : d ∈ documentsOf validate ls) :
    ∃ l ∈ ls, mapped validate l = .ok d ∧ d.id = l.facility.id.text := by
  obtain ⟨l, there, made⟩ := List.mem_filterMap.mp member
  have made : mapped validate l = .ok d := by
    cases outcome : mapped validate l with
    | error line => rw [outcome] at made; cases made
    | ok d' => rw [outcome] at made; cases made; rfl
  exact ⟨l, there, made, (document_of_mapped (projectable l there) made).2⟩

/-- The documents of facilities with different identities have different identities. -/
theorem nodup_documentsOf (projectable : ∀ l ∈ ls, l.facility.IsProjectable l.courts)
    (distinct : (ls.map fun l => l.facility.id).Nodup) :
    ((documentsOf validate ls).map Document.id).Nodup := by
  induction ls with
  | nil => exact List.nodup_nil
  | cons l ls ih =>
    obtain ⟨first, rest⟩ := List.forall_mem_cons.mp projectable
    rw [List.map_cons, List.nodup_cons] at distinct
    rw [documentsOf_cons]
    cases outcome : mapped validate l with
    | error line => exact ih rest distinct.2
    | ok d =>
      refine List.nodup_cons.mpr ⟨fun member => distinct.1 ?_, ih rest distinct.2⟩
      obtain ⟨d', there, same⟩ := List.mem_map.mp member
      obtain ⟨l', there', _, named⟩ := exists_of_mem_documentsOf rest there
      rw [named, (document_of_mapped first outcome).2] at same
      exact Uuid.text_injective same ▸ List.mem_map_of_mem there'

section Index

variable (projectable : ∀ l ∈ ls, l.facility.IsProjectable l.courts)
  (distinct : (ls.map fun l => l.facility.id).Nodup) (member : l ∈ ls)
include projectable distinct member

/-- A facility of which nothing is told is in the index. -/
theorem document?_of_told_none (untold : told validate s l = none) :
    ∃ d, l.document = .ok d ∧ ((documentsOf validate ls).foldl (Server.take name) s).document? name
      l.facility.id.text = some d.source := by
  cases outcome : mapped validate l with
  | error line => rw [told_of_error outcome] at untold; cases untold
  | ok d =>
    rw [told_of_ok outcome] at untold
    obtain ⟨projected, named⟩ := document_of_mapped (projectable l member) outcome
    have accepted : d.id ∉ s.refused := by simpa using untold
    have there : d ∈ documentsOf validate ls := List.mem_filterMap.mpr ⟨l, member, by rw [outcome]; rfl⟩
    refine ⟨d, projected, ?_⟩
    rw [← named]
    exact Server.document?_foldl_take_self (nodup_documentsOf projectable distinct) there accepted

theorem document?_of_told_some {line : String} (tells : told validate s l = some line) :
    ((documentsOf validate ls).foldl (Server.take name) s).document? name l.facility.id.text =
      s.document? name l.facility.id.text := by
  refine Server.document?_foldl_take fun d there same => ?_
  obtain ⟨l', member', made, named⟩ := exists_of_mem_documentsOf projectable there
  cases List.inj_on_of_nodup_map distinct member' member (Uuid.text_injective (named.symm.trans same))
  rw [told_of_ok made] at tells
  obtain ⟨refused, _⟩ := Option.ite_some_none_eq_some.mp tells
  simpa using refused

end Index

/-! ## Starting -/

/-- A reindex of some candidates that was started. -/
def Started.ofFilter (g : Gateway) (filter : Predicate) (size : Int) (options : Options) (now : Int) : Started where
  plan := ⟨g, filter, size, options.validateCoordinates⟩
  run := { startedAt := now, options := options }

section Start

variable {g : Gateway} {filter : Predicate} {size now : Int} {options : Options}

theorem start_eq_ofFilter (chosen : candidates options.filters options.includeUnpublished = .ok filter)
    (positive : 1 ≤ size) : start g (some size) options now = .ok (.ofFilter g filter size options now) := by
  rw [start, chosen, ok_bind]
  simp only [if_neg (show size ≠ 0 by omega)]
  rfl

/-- A reindex first asks for as many rows as a batch and the limit allow. -/
theorem take_first_ofFilter : (Started.ofFilter g filter size options now).plan.take (.first options) =
    options.limit.elim size (min size) := by
  cases limit : options.limit <;> simp [Plan.take, Progress.first, Started.ofFilter, limit]

end Start

end Reindex

namespace Deployment

open Reindex

variable {d : Deployment} {options : Options}

/-! ## Accounts of a window -/

/-- The facilities of a window: those from a position on, as many as the limit lets through. -/
def window (options : Options) (candidates : List Facility) : List Facility :=
  within options.limit (candidates.drop (max 0 options.offset).toNat)

/-- Whether a run has settled a facility. Either the index holds its document, and no error names it, or
one error names it, and its document is what it was before. -/
def Settled (d : Deployment) (before after : Server) (errors : List String) (g : Facility) : Prop :=
  (∃ document, project g (d.tables.courtsOf g) = .ok document ∧
      after.document? d.gateway.index g.id.text = some document.source ∧ errors.countP (names g.id) = 0) ∨
    (after.document? d.gateway.index g.id.text = before.document? d.gateway.index g.id.text ∧
      errors.countP (names g.id) = 1)

/-- Whether a run accounts for some facilities: it counts each of them, or names it in an error, and leaves
all other documents as they were before. -/
structure Settles (d : Deployment) (facilities : List Facility) (before after : Server) (indexed : Int)
    (errors : List String) : Prop where
  total : indexed + errors.length = facilities.length
  settled : ∀ g ∈ facilities, d.Settled before after errors g
  named : ∀ line ∈ errors, ∃ g ∈ facilities, names g.id line = true
  others : ∀ id, (∀ g ∈ facilities, g.id.text ≠ id) →
    after.document? d.gateway.index id = before.document? d.gateway.index id

/-- Whether a reindex in batches of a size reads some facilities, batch after batch. -/
def Reads (d : Deployment) (size : Int) (options : Options) (facilities : List Facility) : Prop :=
  ∃ (started : Started) (reads : List (Tables × List Row)) (r r' : Running) (p : Progress),
    start d.gateway (some size) options d.now = .ok started ∧
    (prepare d.gateway options.clearIndex).run Running.backends.client
      { deployment := d, session := d.session } = (.ok (), r) ∧
    Streams Running.backends started.plan (.first options) r (reads.map .ok) (.ok p, r') ∧
    reads.flatMap (·.2) = facilities.map .facility

/-- What is loaded and told of facilities of the store accounts for them. -/
theorem settles_loaded (sound : d.tables.IsSound) (kept : d.tables.IsKept) {fs : List Facility}
    (there : ∀ f ∈ fs, f ∈ d.tables.facilities) (distinct : (fs.map Facility.id).Nodup) (validate : Bool)
    (s : Server) :
    d.Settles fs s ((documentsOf validate (d.loaded fs)).foldl (Server.take d.gateway.index) s)
      (s.countTaken (documentsOf validate (d.loaded fs))) ((d.loaded fs).filterMap (told validate s)) := by
  have projectable : ∀ l ∈ d.loaded fs, l.facility.IsProjectable l.courts := projectable_of_mem sound kept there
  have different : ((d.loaded fs).map fun l => l.facility.id).Nodup := by
    rw [loaded, List.map_map]
    exact distinct
  have member {g : Facility} (read : g ∈ fs) : Loaded.ofFacility d.tables g ∈ d.loaded fs :=
    List.mem_map_of_mem read
  -- each facility is counted or told of; its document is the one taken, and no other document is touched
  refine ⟨?_, fun g read => ?_, fun line tells => ?_, fun id other => ?_⟩
  · rw [← Int.natCast_add, countTaken_add_told, loaded, List.length_map]
  · have count := @countP_told validate s _ _ projectable different (member read)
    cases tells : told validate s (Loaded.ofFacility d.tables g) with
    | none =>
      rw [tells] at count
      obtain ⟨document, projected, held⟩ := document?_of_told_none projectable different (member read) tells
      exact .inl ⟨document, projected, held, count⟩
    | some line =>
      rw [tells] at count
      exact .inr ⟨@document?_of_told_some validate s (.ofFacility d.tables g) _ _ projectable different
        (member read) _ tells, count⟩
  · obtain ⟨l, there, tells⟩ := List.mem_filterMap.mp tells
    obtain ⟨g, read, rfl⟩ := List.mem_map.mp there
    exact ⟨g, read, (names_of_told (projectable _ there) tells).mpr rfl⟩
  · refine Server.document?_foldl_take fun document there same => ?_
    obtain ⟨l, there, _, named⟩ := exists_of_mem_documentsOf projectable there
    obtain ⟨g, read, rfl⟩ := List.mem_map.mp there
    exact absurd (named.symm.trans same) (other g read)

/-! ## Reindexes of a deployment -/

/-- A reindex that was started, with its candidates. -/
abbrev begun (d : Deployment) (filter : Predicate) (size : Int) (options : Options) : Started :=
  .ofFilter d.gateway filter size options d.now

section Run

variable {filter : Predicate} {size : Int} (chosen : candidates options.filters options.includeUnpublished = .ok filter)
  (positive : 1 ≤ size) (calm : d.IsCalm) (recorded : d.runs.isSome = true) {before after : Server} {isOpen : Bool}
  {sizes sizes' : List Nat} {sights : List Sight} {p : Progress}
  (prepared : (prepare d.gateway options.clearIndex).run Running.backends.client
    { deployment := d, session := d.session } = (.ok (), d.underway false before sizes))
  (streams : Streams Running.backends (d.begun filter size options).plan (.first options)
    (d.underway false before sizes) sights (.ok p, d.underway isOpen after sizes'))
include chosen positive calm recorded prepared streams

/-- A reindex that reads to the end answers with what it reports, and leaves all but the index and the books as
they were. -/
theorem reindexAll_eq_of_streams :
    ∃ events runs, d.reindexAll (some size) options [] =
      (.ok (p.report, sizes'), { d with server := after, events := events, runs := runs }) := by
  obtain ⟨runs, there⟩ := Option.isSome_iff_exists.mp recorded
  have carried : (d.begun filter size options).carryOut Running.backends d.now
      { deployment := d, session := d.session } =
        some (.ok (closed d.now p.report.status p.report (d.begun filter size options).run),
          d.underway isOpen after sizes') :=
    @Started.carryOut_of_streams _ _ _ d.now (d.begun filter size options) _ calm.enabled prepared _ _ streams
  rw [reindexAll, start_eq_ofFilter chosen positive, theRuns, there]
  simp only [carried]
  exact ⟨_, _, rfl⟩

/-- A reindex that reads to the end leaves the store as it was. -/
theorem reindexAll_of_streams :
    ∃ d', d.reindexAll (some size) options [] = (.ok (p.report, sizes'), d') ∧ d'.server = after ∧
      d'.tables = d.tables := by
  obtain ⟨events, runs, ran⟩ := reindexAll_eq_of_streams chosen positive calm recorded prepared streams
  exact ⟨_, ran, rfl, rfl⟩

end Run

theorem exists_listed (d : Deployment) (f : Formula) :
    ∃ rows : List Facility, d.tables.answers .facility streamOrder f = rows.map .facility := by
  refine ⟨(loadedOf d.tables (d.tables.answers .facility streamOrder f)).map Loaded.facility, ?_⟩
  rw [List.map_map]
  exact (facilities_loadedOf fun r member => Tables.model_of_mem_rows (Tables.mem_rows_of_mem_answers member)).symm

/-- A reindex of a store that nobody changes reads the candidates from a position on, up to a limit, in the
order of their creation, and accounts for each of them: it is counted, and its document is in the index, or
one error names it. All other documents stay as they were when the index was brought into being. The size
of the batches changes nothing but the order of the errors. -/
theorem reindexAll_window (calm : d.IsCalm) (sound : d.tables.IsSound) (kept : d.tables.IsKept)
    (recorded : d.runs.isSome = true) {conditions : Conditions}
    (read : Surface.facilityListing.readFilters options.filters = .ok conditions)
    (untrue : ¬ Surface.facilityListing.RangesTruth conditions) (short : options.offset < 2 ^ 63) :
    ∃ (filter : Predicate) (f : Formula) (rows : List Facility) (before after : Server) (indexed : Int)
        (errors : List String),
      (candidates options.filters options.includeUnpublished = .ok filter ∧ compile .facility filter = .ok f ∧
        (rows.map .facility).Perm (d.tables.selected .facility f) ∧
        (rows.map .facility).Pairwise (Precedes streamOrder)) ∧
      (prepare d.gateway options.clearIndex).run Server.client d.server = (.ok (), before) ∧
      d.Settles (window options rows) before after indexed errors ∧
      ∀ size, 1 ≤ size → options.limit.elim size (min size) < 2 ^ 63 →
        d.Reads size options (window options rows) ∧
        ∃ report sizes d', d.reindexAll (some size) options [] = (.ok (report, sizes), d') ∧
          report.indexed = indexed ∧ report.errors.Perm errors ∧ d'.server = after ∧ d'.tables = d.tables := by
  obtain ⟨filter, chosen, f, compiled, clean⟩ := compiles_candidates options.includeUnpublished read untrue
  obtain ⟨rows, listed⟩ := exists_listed d f
  obtain ⟨before, prepared, _⟩ := @Server.exists_prepared d.server d.gateway options.clearIndex
  have keyed := (sound.orderly .facility).toIsKeyed
  have part : (window options rows).Sublist rows := (within_sublist _ _).trans (List.drop_sublist _ _)
  -- what is settled depends on the rows in the window alone, so it is the same for all sizes of batches
  have settles := settles_loaded sound kept (fun g member => mem_of_listed listed (part.mem member))
    ((nodup_of_listed keyed listed).sublist (part.map _)) options.validateCoordinates before
  refine ⟨filter, f, rows, before, _, _, _, ⟨chosen, compiled, ?_, ?_⟩, prepared, settles, ?_⟩
  · rw [← listed]
    exact Store.walk_perm
  · rw [← listed]
    exact Tables.answers_pairwise keyed orders_stream id_mem_stream
  · intro size positive fits
    have stands : (Progress.first options).StandsAt rows (max 0 options.offset).toNat :=
      .inl ⟨rfl, (Int.toNat_of_nonneg (le_max_left 0 _)).symm⟩
    have skips : (Progress.first options).skip < 2 ^ 63 := max_lt (by decide) short
    have asks : (d.begun filter size options).plan.take (.first options) < 2 ^ 63 :=
      take_first_ofFilter.trans_lt fits
    obtain ⟨sizes, began⟩ := @run_running d d.session d.server [] _ calm (prepare d.gateway options.clearIndex)
    rw [prepared] at began
    obtain ⟨reads, p, isOpen, sizes', streams, readAll, accounts⟩ := @exists_streams_underway d
      (d.begun filter size options).plan f rows calm sound kept compiled clean listed positive _ _ stands skips
      asks false before sizes
    refine ⟨⟨_, reads, _, _, p, start_eq_ofFilter chosen positive, began, streams, readAll⟩, ?_⟩
    obtain ⟨d', answered, index, tables⟩ := reindexAll_of_streams chosen positive calm recorded began streams
    refine ⟨p.report, sizes', d', answered, ?_, ?_, index, tables⟩
    · rw [accounts.indexed]
      exact Int.zero_add _
    · exact accounts.errors.trans perm_told

/-- A published facility without coordinates. -/
def unlocated (id : Fin (2 ^ 128)) : Facility :=
  { (default : Facility) with
    id := ⟨id⟩, ownerId := some ⟨0⟩, name := some "hall", slug := some "hall", address := some ""
    isPublished := some true, createdAt := some ⟨0, none⟩, updatedAt := some ⟨0, none⟩ }

/-- A deployment with two such facilities. -/
def pair : Deployment where
  settings := {}
  now := 0
  tables := { facilities := [unlocated 1, unlocated 2] }

theorem pair_isCalm : pair.IsCalm := ⟨rfl, rfl⟩

theorem pair_isSound : pair.tables.IsSound where
  present := rfl
  distinct := by
    intro m
    cases m <;> decide
  typed := by
    intro m
    cases m <;> decide
  bounded := by
    intro m
    cases m <;> decide

theorem pair_isKept : pair.tables.IsKept where
  needed m := by cases m <;> decide
  moments m := by cases m <;> decide

/-- What asks a reindex for all facilities. -/
def everything : Options := { includeUnpublished := true }

/-- Both facilities are read, one to a batch, and accounted for. -/
theorem reindexAll_window_pair : ∃ facilities report sizes d', facilities.length = 2 ∧
    pair.Reads 1 everything facilities ∧ pair.reindexAll (some 1) everything [] = (.ok (report, sizes), d') ∧
    report.indexed + report.errors.length = 2 := by
  obtain ⟨filter, f, rows, before, after, indexed, errors, ⟨chosen, compiled, same, _⟩, _, settles, runs⟩ :=
    @reindexAll_window pair everything pair_isCalm pair_isSound pair_isKept rfl [] rfl (by simp [Surface.RangesTruth])
      (by decide)
  obtain ⟨filter', f', chosen', compiled', both⟩ : ∃ filter f, candidates .null true = .ok filter ∧
      compile .facility filter = .ok f ∧ (pair.tables.selected .facility f).length = 2 :=
    ⟨_, _, rfl, rfl, by with_unfolding_all rfl⟩
  cases chosen.symm.trans chosen'
  cases compiled.symm.trans compiled'
  have all : (window everything rows).length = 2 := by
    rw [← both, ← same.length_eq, List.length_map]
    rfl
  obtain ⟨reads, report, sizes, d', answered, count, told, _⟩ := runs 1 (by decide) (by decide)
  refine ⟨_, report, sizes, d', all, reads, answered, ?_⟩
  rw [count, told.length_eq, settles.total, all]
  rfl

/-- A batch that is larger than the store can count is not read. -/
theorem reindexAll_overflow : pair.IsCalm ∧ pair.tables.IsSound ∧ pair.tables.IsKept ∧
    (pair.reindexAll (some (2 ^ 63)) everything []).1 = .error .overflow := by
  refine ⟨pair_isCalm, pair_isSound, pair_isKept, ?_⟩
  obtain ⟨filter, chosen⟩ : ∃ filter, candidates .null true = .ok filter := ⟨_, rfl⟩
  let started := pair.begun filter (2 ^ 63) everything
  obtain ⟨r, prepared, r', stopped⟩ : ∃ r, (prepare pair.gateway false).run Running.backends.client
      { deployment := pair, session := pair.session } = (.ok (), r) ∧
      ∃ r', batch Running.backends started.plan (.first everything) r = (.error .overflow, r') := by
    cases chosen
    exact ⟨_, by with_unfolding_all rfl, _, by with_unfolding_all rfl⟩
  have streams : Streams Running.backends started.plan (.first everything) r _ (.error .overflow, r') :=
    .stopped rfl stopped
  have carried : started.carryOut Running.backends pair.now { deployment := pair, session := pair.session } =
      some (.error .overflow, r') :=
    @Started.carryOut_of_streams _ _ _ _ started _ rfl prepared _ _ streams
  rw [reindexAll, start_eq_ofFilter chosen (by decide), show pair.theRuns = .ok [] from rfl]
  simp only [started] at carried
  simp only [carried]

end Deployment
end Venues
