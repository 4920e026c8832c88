import Venues.Proofs.Reindex.Failing
import Venues.Proofs.Reindex.Rebuild

/-! # Runs that are closed

A reindex ends in one of four ways: the index is turned off, the index cannot be brought into being, the store
is out of reach at some reading, or everything is read. Whatever fails on the way, the run has a report, and it is
recorded once, closed, with the numbers and the first errors of the report.
-/

namespace Venues

open Store (Row Tables Session Formula compile)
open Index (Loaded Server Gateway)

namespace Reindex

variable {σ : Type} {b : Backends σ} {t : Tables} {Holds : List Row → σ → Prop} {s s' : σ} {g : Gateway}
  {started : Started} {now : Int} {report : Report} {run : SyncRun} {rows : List Facility}

/-! ## Closed runs -/

/-- Whether a run is closed, with what a report tells. It was disabled if the index is turned off, and else it failed
if the index could not be brought into being, or if there are errors and nothing was loaded. -/
structure IsClosed (started : Started) (now : Int) (prepared : Prop) (report : Report) (run : SyncRun) : Prop where
  record : run = { started.run with
    status := run.status, finishedAt := some now, indexed := report.indexed, failed := report.errors.length,
    errors := some (report.errors.take 100) }
  ended : run.status ≠ .running
  disabled : run.status = .disabled ↔ started.plan.gateway.settings.indexEnabled = false
  failed : run.status = .failed ↔ started.plan.gateway.settings.indexEnabled = true ∧
    (¬ prepared ∨ report.errors ≠ [] ∧ report.indexed = 0)

/-- Whether an index could be brought into being at the beginning of a run. -/
def Prepares (b : Backends σ) (started : Started) (s s₁ : σ) : Prop :=
  (prepare started.plan.gateway started.run.options.clearIndex).run b.client s = (.ok (), s₁)

/-- Whether a reindex of some candidates ends with a report and a closed run. Once the index is there it passes the
candidates of the window, lot by lot, until a reading fails, and reports what came of each lot. -/
structure Concludes (b : Backends σ) (t : Tables) (rows : List Facility) (started : Started) (now : Int) (s : σ)
    (report : Report) (run : SyncRun) (s' : σ) : Prop where
  carried : started.carryOut b now s = some (.ok (report, run), s')
  closed : IsClosed started now (∃ s₁, Prepares b started s s₁) report run
  passed : started.plan.gateway.settings.indexEnabled = true → ∀ s₁, Prepares b started s s₁ →
    ∃ lots fault? p, Lots b started.plan t lots fault? (.first started.run.options) p s₁ s' ∧
      lots.flatMap Lot.facilities <+: Deployment.window started.run.options rows ∧
      (fault? = none → lots.flatMap Lot.facilities = Deployment.window started.run.options rows) ∧
      report = ⟨(lots.map fun lot => (lot.report started.plan t).indexed).sum,
        lots.flatMap (fun lot => (lot.report started.plan t).errors) ++ fault?.toList.map storeLine⟩

theorem status_eq_failed : report.status = .failed ↔ report.errors ≠ [] ∧ report.indexed = 0 := by
  rw [Report.status]
  split <;> simp_all

theorem status_cases : report.status = .failed ∨ report.status = .done := by
  rw [Report.status]
  split
  · exact .inl rfl
  · exact .inr rfl

/-- Where the index is turned off, a reindex does nothing. -/
theorem concludes_of_disabled (disabled : started.plan.gateway.settings.indexEnabled = false) :
    ∃ report run, Concludes b t rows started now s report run s := by
  have carried : started.carryOut b now s =
      some (.ok (closed now .disabled { errors := ["index: Elasticsearch is disabled"] } started.run), s) := by
    rw [Started.carryOut]
    simp only [disabled, Bool.not_false, if_true]
  refine ⟨_, _, carried, ⟨rfl, ?_, ?_, ?_⟩, fun enabled => ?_⟩
  · simp [SyncRun.finish]
  · simp [SyncRun.finish, disabled]
  · simp [SyncRun.finish, disabled]
  · rw [disabled] at enabled
    cases enabled

section Enabled

variable (enabled : started.plan.gateway.settings.indexEnabled = true) {s₁ : σ}
include enabled

theorem concludes_of_unprepared {fault : BackendFault}
    (failed : (prepare started.plan.gateway started.run.options.clearIndex).run b.client s =
      (.error (.backend fault), s₁)) :
    ∃ report run, Concludes b t rows started now s report run s₁ := by
  have carried : started.carryOut b now s =
      some (.ok (closed now .failed { errors := ["index: " ++ fault.message] } started.run), s₁) := by
    rw [Started.carryOut]
    simp only [enabled, Bool.not_true, Bool.false_eq_true, if_false]
    rw [failed]
  have unprepared (s₂ : σ) : ¬ Prepares b started s s₂ := fun prepared => by
    cases failed.symm.trans prepared
  refine ⟨_, _, carried, ⟨rfl, ?_, ?_, ?_⟩, ?_⟩
  · simp [SyncRun.finish]
  · simp [SyncRun.finish, enabled]
  · simp [SyncRun.finish, enabled, unprepared]
  · exact fun _ s₂ prepared => absurd prepared (unprepared s₂)

/-- A run that passes lots up to its end concludes with what became of them. -/
theorem concludes_of_lots (prepared : Prepares b started s s₁) {lots : List Lot} {fault? : Option BackendFault}
    {p : Progress} (passes : Lots b started.plan t lots fault? (.first started.run.options) p s₁ s')
    (front : lots.flatMap Lot.facilities <+: Deployment.window started.run.options rows)
    (whole : fault? = none → lots.flatMap Lot.facilities = Deployment.window started.run.options rows) :
    ∃ report run, Concludes b t rows started now s report run s' := by
  obtain ⟨sights, streams⟩ := passes.exists_streams
  refine ⟨_, _, Started.carryOut_of_streams enabled prepared streams, ⟨rfl, ?_, ?_, ?_⟩, ?_⟩
  · rcases @status_cases p.report with status | status <;> simp [SyncRun.finish, status]
  · rcases @status_cases p.report with status | status <;> simp [SyncRun.finish, status, enabled]
  · have there : ∃ s₁, Prepares b started s s₁ := ⟨s₁, prepared⟩
    simp [SyncRun.finish, status_eq_failed, enabled, there]
  · intro _ s₂ prepared'
    cases prepared.symm.trans prepared'
    refine ⟨lots, fault?, p, passes, front, whole, ?_⟩
    rw [passes.report_eq]
    simp [Progress.first]

end Enabled

/-- A reindex concludes, whatever fails. -/
theorem exists_concludes {f : Formula} (failing : b.MayFail t Holds) (sound : t.IsSound) (kept : t.IsKept)
    (compiled : compile .facility started.plan.filter = .ok f) (clean : f.faults = [])
    (listed : t.answers .facility streamOrder f = rows.map .facility) (positive : 1 ≤ started.plan.batchSize)
    (asks : started.plan.take (.first started.run.options) < 2 ^ 63) (short : started.run.options.offset < 2 ^ 63)
    (idle : Holds [] s) :
    ∃ report run s', Concludes b t rows started now s report run s' ∧ Holds [] s' := by
  -- a run may end before it begins: with the index switched off, or not brought into being
  cases enabled : started.plan.gateway.settings.indexEnabled with
  | false =>
    obtain ⟨report, run, concludes⟩ := concludes_of_disabled enabled
    exact ⟨report, run, s, concludes, idle⟩
  | true =>
    obtain ⟨idle₁, ⟨_, prepared, _⟩ | ⟨_, failed, fault, rfl⟩⟩ :=
      failing.ends_prepare (g := started.plan.gateway) started.run.options.clearIndex s idle
    · have stands : (Progress.first started.run.options).StandsAt rows (max 0 started.run.options.offset).toNat :=
        .inl ⟨rfl, (Int.toNat_of_nonneg (le_max_left 0 _)).symm⟩
      have skips : (Progress.first started.run.options).skip < 2 ^ 63 := max_lt (by decide) short
      obtain ⟨lots, fault?, p, s', passes, idle', front, whole⟩ := exists_lots failing sound kept compiled clean
        listed positive stands skips asks idle₁
      obtain ⟨report, run, concludes⟩ := concludes_of_lots enabled (Prod.ext prepared rfl) passes front whole
      exact ⟨report, run, s', concludes, idle'⟩
    · obtain ⟨report, run, concludes⟩ := concludes_of_unprepared enabled (s := s) (Prod.ext failed rfl)
      exact ⟨report, run, _, concludes, idle₁⟩

section Start

variable {filter : Predicate} {f : Formula} {size : Int} {options : Options}

/-- A reindex that is started concludes, whatever fails. -/
theorem exists_start_concludes (sound : t.IsSound) (kept : t.IsKept)
    (chosen : candidates options.filters options.includeUnpublished = .ok filter)
    (compiled : compile .facility filter = .ok f) (clean : f.faults = [])
    (listed : t.answers .facility streamOrder f = rows.map .facility) (positive : 1 ≤ size)
    (fits : options.limit.elim size (min size) < 2 ^ 63) (short : options.offset < 2 ^ 63)
    (failing : b.MayFail t Holds) (idle : Holds [] s) (g : Gateway) (now : Int) :
    ∃ started report run s', start g (some size) options now = .ok started ∧
      Concludes b t rows started now s report run s' ∧ Holds [] s' := by
  let started := Started.ofFilter g filter size options now
  have asks : started.plan.take (.first started.run.options) < 2 ^ 63 := take_first_ofFilter.trans_lt fits
  obtain ⟨report, run, s', concludes, idle'⟩ := @exists_concludes _ b t Holds s started now rows f failing sound kept
    compiled clean listed positive asks short idle
  exact ⟨started, report, run, s', start_eq_ofFilter chosen positive, concludes, idle'⟩

end Start
end Reindex

namespace Index.Server

variable {s : Server} {name : String}

/-- The answer to a load tells of each document. -/
theorem isLoadItem_of_mem_loadAll {documents : Documents} : ∀ item ∈ (s.loadAll name documents).1, IsLoadItem item := by
  induction documents generalizing s with
  | nil => simp [loadAll]
  | cons d documents ih =>
    refine List.forall_mem_cons.mpr ⟨?_, ih⟩
    cases s.refused.contains d.1 with
    | true => exact ⟨_, _, _, rfl, .inl rfl⟩
    | false => exact ⟨_, _, _, rfl, .inr ⟨201, rfl⟩⟩

theorem canBeAnswered {call : Call} (upkeep : call.isUpkeep = true) : call.CanBeAnswered (s.answer call).1 := by
  have ok (v : Value) (other : ∀ name documents, call ≠ .load name documents) : call.CanBeAnswered (.ok v) :=
    .inr ⟨v, rfl, fun name documents same => absurd same (other name documents)⟩
  -- the server refuses a call with an error of the client only
  have refused (code : Int) (message : String) : call.CanBeAnswered (.error (.client (.status code message))) :=
    .inl ⟨_, rfl, _, rfl, rfl⟩
  cases call with
  | indexExists name => exact ok _ nofun
  | createIndex name settings mappings =>
    show Call.CanBeAnswered _ (s.createIndex name).1
    unfold createIndex
    split
    · exact refused ..
    · exact ok _ nofun
  | dropIndex name =>
    unfold answer
    dsimp only
    split
    · exact refused ..
    · exact ok _ nofun
  | load name documents =>
    refine .inr ⟨_, rfl, fun name' documents' same => ?_⟩
    cases same
    exact ⟨_, _, rfl, rfl, isLoadItem_of_mem_loadAll⟩
  | search | get | put | remove | indexStats | health => cases upkeep

end Index.Server

namespace Deployment

open Reindex

variable {d : Deployment} {t : Tables} {lost : List Store.Model}

/-! ## Deployments whose calls fail -/

/-- The session of a run that holds some rows as they were read. -/
def pinning (d : Deployment) (isOpen : Bool) (rows : List Row) : Session :=
  { d.session with isOpen := isOpen, held := rows.map Session.pinned }

/-- Whether a run of a deployment holds some rows, which are all different, as they were read. -/
def Holds (d : Deployment) (rows : List Row) (r : Running) : Prop :=
  (rows.map Row.key).Nodup ∧ ∃ isOpen server sizes, r = d.running (d.pinning isOpen rows) server sizes

section Calls

variable (known : ∀ e ∈ d.failing, e.2.isKnown = true)
include known

/-- In a deployment whose failing calls end with errors of the client, bringing the index into being and loading
documents are answered as they can be. -/
theorem canBeAnswered {call : Call} (upkeep : call.isUpkeep = true) (server : Server) :
    ∃ server', (({ d with server := server } : Deployment).answer call).2 = { d with server := server' } ∧
      call.CanBeAnswered (({ d with server := server } : Deployment).answer call).1 := by
  unfold answer
  dsimp only
  cases failing : d.failing.lookup call.name with
  | some e => exact ⟨server, rfl, .inl ⟨_, rfl, e, rfl, known _ (mem_of_lookup failing)⟩⟩
  | none => exact ⟨_, rfl, Server.canBeAnswered upkeep⟩

theorem canBeAnswered_running {call : Call} (upkeep : call.isUpkeep = true) (session : Session) (server : Server)
    (sizes : List Nat) :
    ∃ server' sizes', (Running.answer call (d.running session server sizes)).2 = d.running session server' sizes' ∧
      call.CanBeAnswered (Running.answer call (d.running session server sizes)).1 := by
  obtain ⟨server', same, answered⟩ := canBeAnswered known upkeep server
  unfold Running.answer
  simp only [running, same]
  -- only a load that succeeds is noted
  rcases answered with ⟨fault, failed, ofClient⟩ | ⟨v, replied, told⟩
  · rw [failed]
    cases call <;> exact ⟨server', _, rfl, .inl ⟨fault, rfl, ofClient⟩⟩
  · rw [replied]
    cases call <;> exact ⟨server', _, rfl, .inr ⟨v, rfl, told⟩⟩

/-- The backends of a deployment hold rows as they were read, and may fail in everything else. -/
theorem mayFail (tables : d.tables = { t with lost := lost }) : Running.backends.MayFail t d.Holds where
  connects := by
    rintro rows _ ⟨keys, isOpen, server, sizes, rfl⟩
    exact ⟨⟨_, rfl⟩, keys, isOpen, server, sizes, rfl⟩
  answers := by
    rintro call rows _ upkeep ⟨keys, isOpen, server, sizes, rfl⟩
    obtain ⟨server', sizes', same, answered⟩ := canBeAnswered_running known upkeep (d.pinning isOpen rows) server sizes
    exact ⟨answered, keys, isOpen, server', sizes', same⟩
  reads := by
    rintro _ ⟨keys, isOpen, server, sizes, rfl⟩
    exact ⟨.inl ⟨lost, congrArg Except.ok tables⟩, keys, isOpen, server, sizes, rfl⟩
  holds := by
    rintro rows _ ⟨_, isOpen, server, sizes, rfl⟩ keys
    exact ⟨keys, true, server, sizes, hold_running ⟨rfl, rfl⟩ keys⟩
  shows := by
    rintro rows _ ⟨keys, isOpen, server, sizes, rfl⟩ r member
    exact Session.shown_eq rfl keys member
  releases := by
    rintro rows _ ⟨keys, isOpen, server, sizes, rfl⟩
    have released : (d.pinning isOpen rows).release rows = (.ok (), d.pinning isOpen []) := Session.release_eq rfl rfl
    refine ⟨d.running (d.pinning isOpen []) server sizes, ?_, List.nodup_nil, isOpen, server, sizes, rfl⟩
    show (((d.pinning isOpen rows).release rows).1, d.running ((d.pinning isOpen rows).release rows).2 server sizes) = _
    rw [released]

end Calls

/-- A reindex that ends with a run is recorded by this run, and by no other. -/
theorem reindexAll_of_carryOut {size? : Option Int} {options : Options} {started : Started} {books : List SyncRun}
    {report : Reindex.Report} {run : SyncRun} {r : Running} (begins : start d.gateway size? options d.now = .ok started)
    (recorded : d.runs = some books)
    (carried : started.carryOut Running.backends d.now { deployment := d, session := d.session } =
      some (.ok (report, run), r)) (idle : d.Holds [] r) :
    ∃ d', d.reindexAll size? options [] = (.ok (report, r.sizes), d') ∧ d'.runs = some (books ++ [run]) := by
  obtain ⟨_, isOpen, server, sizes, rfl⟩ := idle
  rw [reindexAll, begins, theRuns, recorded]
  simp only [carried]
  refine ⟨_, rfl, ?_⟩
  show d.runs.map (· ++ [run]) = _
  rw [recorded]
  rfl

/-- Every reindex of a store that nobody changes comes to an end, whatever fails: the index may be turned off or out
of reach, any of its calls may fail, any document may be refused, and the store may be out of reach at any reading. A
reindex without filters answers with a report, and the one run that it records is closed. A batch that cannot be loaded
is an error for each of its documents, and the next batch is read all the same. -/
theorem reindexAll_closes {size : Int} {options : Options} (sound : t.IsSound) (kept : t.IsKept)
    (unfiltered : Surface.facilityListing.readFilters options.filters = .ok []) (positive : 1 ≤ size)
    (fits : options.limit.elim size (min size) < 2 ^ 63) (short : options.offset < 2 ^ 63) :
    ∃ (filter : Predicate) (f : Formula) (rows : List Facility),
      (candidates options.filters options.includeUnpublished = .ok filter ∧ compile .facility filter = .ok f ∧
        (rows.map .facility).Perm (t.selected .facility f) ∧
        (rows.map .facility).Pairwise (Store.Precedes streamOrder)) ∧
      (∀ (σ : Type) (b : Backends σ) (Holds : List Row → σ → Prop) (g : Gateway) (now : Int) (s : σ),
        b.MayFail t Holds → Holds [] s →
          ∃ started report run s', start g (some size) options now = .ok started ∧
            Concludes b t rows started now s report run s') ∧
      ∀ (d : Deployment) (lost : List Store.Model) (books : List SyncRun), d.tables = { t with lost := lost } →
        (∀ e ∈ d.failing, e.2.isKnown = true) → d.runs = some books →
          ∃ started report run r d', start d.gateway (some size) options d.now = .ok started ∧
            Concludes Running.backends t rows started d.now { deployment := d, session := d.session } report run r ∧
            d.reindexAll (some size) options [] = (.ok (report, r.sizes), d') ∧ d'.runs = some (books ++ [run]) := by
  obtain ⟨filter, chosen, f, compiled, clean⟩ :=
    compiles_candidates options.includeUnpublished unfiltered (by simp [Surface.RangesTruth])
  obtain ⟨rows, listed⟩ := exists_listed { settings := {}, now := 0, tables := t } f
  have listed : t.answers .facility streamOrder f = rows.map .facility := listed
  refine ⟨filter, f, rows, ⟨chosen, compiled, ?_, ?_⟩, fun σ b Holds g now s failing idle => ?_,
    fun d lost books tables known recorded => ?_⟩
  · rw [← listed]
    exact Store.walk_perm
  · rw [← listed]
    exact Tables.answers_pairwise (sound.orderly .facility).toIsKeyed orders_stream id_mem_stream
  · obtain ⟨started, report, run, s', begins, concludes, _⟩ := exists_start_concludes sound kept chosen compiled clean
      listed positive fits short failing idle g now
    exact ⟨started, report, run, s', begins, concludes⟩
  · have idle : d.Holds [] { deployment := d, session := d.session } := ⟨List.nodup_nil, false, d.server, [], rfl⟩
    obtain ⟨started, report, run, r, begins, concludes, idle'⟩ := exists_start_concludes sound kept chosen compiled clean
      listed positive fits short (mayFail known tables) idle d.gateway d.now
    obtain ⟨d', answered, booked⟩ := reindexAll_of_carryOut begins recorded concludes.carried idle'
    exact ⟨started, report, run, r, d', begins, concludes, answered, booked⟩

/-- Backends whose first load is not answered in time. The state is the number of loads. -/
def timingOut (t : Tables) : Backends Nat where
  client := {
    connect := fun n => (.ok true, n)
    answer := fun call n =>
      match call with
      | .load _ documents =>
        let items := documents.map fun d => .object [("index", .object [("_id", .text d.1), ("status", .int 201)])]
        (if n = 0 then .error (.client .timeout) else .ok (.object [("items", .list items)]), n + 1)
      | _ => (.ok (.bool true), n) }
  tables n := (.ok t, n)

theorem timingOut_mayFail (t : Tables) : (timingOut t).MayFail t fun _ _ => True where
  connects _ _ _ := ⟨⟨true, rfl⟩, trivial⟩
  answers call rows n upkeep _ := by
    refine ⟨?_, trivial⟩
    cases call with
    | load name documents =>
      by_cases first : n = 0
      · exact .inl ⟨.client .timeout, if_pos first, _, rfl, rfl⟩
      · refine .inr ⟨_, if_neg first, fun _ _ _ => ⟨_, _, rfl, rfl, fun item member => ?_⟩⟩
        obtain ⟨d, _, rfl⟩ := List.mem_map.mp member
        exact ⟨_, _, _, rfl, .inr ⟨201, rfl⟩⟩
    | indexExists | createIndex | dropIndex => exact .inr ⟨_, rfl, nofun⟩
    | search | get | put | remove | indexStats | health => cases upkeep
  reads n _ := ⟨.inl ⟨t.lost, rfl⟩, trivial⟩
  holds _ _ _ _ := trivial
  shows _ _ _ _ _ := rfl
  releases _ n _ := ⟨n, rfl, trivial⟩

/-- A run whose first load is not answered in time is closed, and so is one of a deployment where nobody can tell
whether the index exists. -/
theorem reindexAll_closes_halls :
    (∃ started report run n, start halls.gateway (some 1) {} 0 = .ok started ∧
      started.carryOut (timingOut halls.tables) 0 0 = some (.ok (report, run), n) ∧ run.status ≠ .running) ∧
    ∃ report sizes run d', ({ halls with failing := [("indices.exists", .timeout)] } : Deployment).reindexAll (some 1) {}
      [] = (.ok (report, sizes), d') ∧ d'.runs = some [run] ∧ run.status = .failed := by
  obtain ⟨filter, f, rows, _, backends, deployments⟩ := @reindexAll_closes halls.tables 1 {} halls_isSound halls_isKept
    rfl (by decide) (by decide) (by decide)
  constructor
  · obtain ⟨started, report, run, n, begins, concludes⟩ := backends Nat (timingOut halls.tables) _ halls.gateway 0 0
      (timingOut_mayFail halls.tables) trivial
    exact ⟨started, report, run, n, begins, concludes.carried, concludes.closed.ended⟩
  · obtain ⟨started, report, run, r, d', begins, concludes, answered, booked⟩ := deployments
      { halls with failing := [("indices.exists", .timeout)] } [] [] rfl (by simp [ClientError.isKnown]) rfl
    cases begins
    refine ⟨report, r.sizes, run, d', answered, booked, concludes.closed.failed.mpr ⟨rfl, .inl ?_⟩⟩
    rintro ⟨s₁, prepared⟩
    cases prepared

/-- A deployment without facilities. -/
def vacant : Deployment where
  settings := {}
  now := 0

/-- A batch that is larger than the store can count is not read, and the run stays open. -/
theorem reindexAll_leaves_running : vacant.tables.IsSound ∧ vacant.tables.IsKept ∧
    ∃ d' run, vacant.reindexAll (some (2 ^ 63)) everything [] = (.error .overflow, d') ∧ d'.runs = some [run] ∧
      run.status = .running := by
  refine ⟨⟨rfl, fun m => ?_, fun m => ?_, fun m => ?_⟩, ⟨fun m => ?_, fun m => ?_⟩, ?_⟩
  iterate 5 (cases m <;> decide)
  obtain ⟨filter, chosen⟩ : ∃ filter, candidates .null true = .ok filter := ⟨_, rfl⟩
  let started := Started.ofFilter vacant.gateway filter (2 ^ 63) everything 0
  obtain ⟨r, prepared, r', stopped, unrecorded⟩ : ∃ r, Prepares Running.backends started
      { deployment := vacant, session := vacant.session } r ∧
      ∃ r', batch Running.backends started.plan (.first everything) r = (.error .overflow, r') ∧
        (r'.deployment.keep r'.session).runs = some [] := by
    cases chosen
    exact ⟨_, by with_unfolding_all rfl, _, by with_unfolding_all rfl, by with_unfolding_all rfl⟩
  have carried : started.carryOut Running.backends 0 { deployment := vacant, session := vacant.session } =
      some (.error .overflow, r') :=
    @Started.carryOut_of_streams _ _ _ _ started _ rfl prepared _ _ (.stopped rfl stopped)
  refine ⟨(r'.deployment.keep r'.session).addRun started.run, started.run, ?_, ?_, rfl⟩
  · rw [reindexAll, start_eq_ofFilter chosen (by decide), show vacant.theRuns = .ok [] from rfl]
    simp only [started] at carried
    simp only [show vacant.now = 0 from rfl, carried]
    rfl
  · show (r'.deployment.keep r'.session).runs.map _ = _
    rw [unrecorded]
    rfl

end Deployment
end Venues
