import Venues.Proofs.Deployment
import Venues.Proofs.Index.Projection
import Venues.Proofs.Index.Server
import Venues.Proofs.Reindex.Stream
import Venues.Proofs.Store.Session

/-! # A batch of a reindex in a deployment

In a deployment whose calls all succeed, a batch is mapped, loaded and let go of as a whole: each of its
facilities is in the index, or there is one line that tells why it is not. The session and the store are
afterwards what they were before.
-/

namespace Venues

open Store (Row Tables Session)
open Index (Loaded Server Gateway)

namespace Reindex

variable {validate : Bool} {l : Loaded} {ls : List Loaded} {t : Tables}

/-! ## Mapping -/

/-- What becomes of a facility before it is loaded: its document, or the line that tells why it has none. -/
def mapped (validate : Bool) (l : Loaded) : Except String Document :=
  if validate && !l.facility.hasValidCoordinates then .error (coordinateError l.facility)
  else
    match l.document with
    | .ok document => .ok document
    | .error (.projection fault) => .error (l.facility.id.text ++ ": " ++ fault.message)
    | .error _ => .error (l.facility.id.text ++ ": ")

/-- The line in place of a result. -/
def line? {α : Type} : Except String α → Option String
  | .error line => some line
  | .ok _ => none

/-- The documents of some facilities. -/
def documentsOf (validate : Bool) (ls : List Loaded) : List Document :=
  ls.filterMap fun l => (mapped validate l).toOption

/-- The lines of the facilities that have no document. -/
def linesOf (validate : Bool) (ls : List Loaded) : List String := ls.filterMap fun l => line? (mapped validate l)

/-- A batch is mapped facility by facility. -/
theorem mapBatch_eq (projectable : ∀ l ∈ ls, l.facility.IsProjectable l.courts) :
    mapBatch validate ls = .ok (documentsOf validate ls, linesOf validate ls) := by
  induction ls with
  | nil => rfl
  | cons l ls ih =>
    obtain ⟨first, others⟩ := List.forall_mem_cons.mp projectable
    rw [mapBatch, documentsOf, linesOf, List.filterMap_cons, List.filterMap_cons]
    by_cases off : (validate && !l.facility.hasValidCoordinates) = true
    · rw [if_pos off, ih others, mapped, if_pos off]
      rfl
    · rw [if_neg off, mapped, if_neg off]
      rcases project_cases first with ⟨d, made, _⟩ | ⟨fault, refused⟩
      · rw [show l.document = .ok d from made, ih others]
        rfl
      · rw [show l.document = .error (.projection fault) from refused, ih others]
        rfl

/-- A line of a facility names the facility. -/
theorem exists_reason_of_mapped {line : String} (told : mapped validate l = .error line) :
    ∃ reason, line = l.facility.id.text ++ ": " ++ reason := by
  by_cases off : (validate && !l.facility.hasValidCoordinates) = true
  · rw [mapped, if_pos off] at told
    let degrees (x? : Option Float) : String := (Value.ofOption (x?.map .float)).display
    refine ⟨"invalid coordinates (" ++ degrees l.facility.latitude ++ ", " ++
      degrees l.facility.longitude ++ ")", ?_⟩
    rw [← Except.error.inj told, coordinateError,
      show ": invalid coordinates (" = ": " ++ "invalid coordinates (" from rfl]
    simp only [String.append_assoc, degrees]
  · rw [mapped, if_neg off] at told
    split at told
    · cases told
    · exact ⟨_, (Except.error.inj told).symm⟩
    · exact ⟨"", by rw [← Except.error.inj told, String.append_empty]⟩

/-- A document of a facility is its projection, and has its identity. -/
theorem document_of_mapped (projectable : l.facility.IsProjectable l.courts) {d : Document}
    (made : mapped validate l = .ok d) : l.document = .ok d ∧ d.id = l.facility.id.text := by
  by_cases off : (validate && !l.facility.hasValidCoordinates) = true
  · rw [mapped, if_pos off] at made
    cases made
  · rw [mapped, if_neg off] at made
    rcases project_cases projectable with ⟨d', projected, named⟩ | ⟨fault, refused⟩
    · rw [show l.document = .ok d' from projected] at made ⊢
      cases made
      exact ⟨rfl, named⟩
    · rw [show l.document = .error (.projection fault) from refused] at made
      cases made

/-! ## Loading -/

theorem run_loadBatch (g : Gateway) (documents : List Document) (s : Server) :
    (loadBatch g documents).run Server.client s =
      (.ok ⟨s.countTaken documents, s.refusals documents⟩, documents.foldl (Server.take g.index) s) :=
  Exchange.run_handle (Exchange.run_bind (Server.run_load g documents))

/-! ## Rows of a batch -/

/-- Loaded facilities with different identities have different rows, those of their courts included. -/
theorem nodup_rows (sound : t.IsSound) {fs : List Facility} (distinct : (fs.map Facility.id).Nodup) :
    (((fs.map (Loaded.ofFacility t)).flatMap Loaded.rows).map Row.key).Nodup := by
  have courtIds : (t.courts.map Court.id).Nodup := by
    simpa [Tables.rows, Function.comp_def, Row.id] using sound.distinct .court
  have owned {f : Facility} {c : Court} (member : c ∈ t.courtsOf f) : c ∈ t.courts ∧ c.facilityId = some f.id := by
    obtain ⟨member, owns⟩ := List.mem_filter.mp (Tables.courtsOf_perm.mem_iff.mp member)
    exact ⟨member, by simpa [Tables.owns] using owns⟩
  have keys (f : Facility) : (Loaded.ofFacility t f).rows.map Row.key =
      (.facility, f.id) :: (t.courtsOf f).map fun c => (.court, c.id) := by
    simp [Loaded.rows, Loaded.ofFacility, Row.key, Row.model, Row.id]
  rw [List.map_flatMap, List.flatMap_map, List.nodup_flatMap]
  refine ⟨fun f _ => ?_, ?_⟩
  · rw [keys, List.nodup_cons]
    refine ⟨by simp, ?_⟩
    have part : ((t.courtsOf f).map Court.id).Nodup :=
      (Tables.courtsOf_perm.map Court.id).nodup_iff.mpr
        (courtIds.sublist (List.filter_sublist.map Court.id))
    exact List.Nodup.of_map Prod.snd (by simpa [Function.comp_def] using part)
  · rw [List.Nodup, List.pairwise_map] at distinct
    refine distinct.imp fun {f g} different => ?_
    change List.Disjoint ((Loaded.ofFacility t f).rows.map Row.key) ((Loaded.ofFacility t g).rows.map Row.key)
    rw [keys, keys, List.disjoint_left]
    intro key first second
    rcases List.mem_cons.mp first with rfl | first
    · rcases List.mem_cons.mp second with same | second
      · exact different (Prod.mk.inj same).2
      · obtain ⟨c, _, same⟩ := List.mem_map.mp second
        cases same
    · obtain ⟨c, ownedFirst, rfl⟩ := List.mem_map.mp first
      rcases List.mem_cons.mp second with same | second
      · cases same
      · -- a court belongs to one facility only
        obtain ⟨c', ownedSecond, same⟩ := List.mem_map.mp second
        obtain ⟨there, owns⟩ := owned ownedFirst
        obtain ⟨there', owns'⟩ := owned ownedSecond
        cases List.inj_on_of_nodup_map courtIds there' there (Prod.mk.inj same).2
        exact different (Option.some.inj (owns.symm.trans owns'))

/-- Facilities of a store that keeps its rules can be projected. -/
theorem projectable_of_mem (sound : t.IsSound) (kept : t.IsKept) {fs : List Facility}
    (there : ∀ f ∈ fs, f ∈ t.facilities) :
    ∀ l ∈ fs.map (Loaded.ofFacility t), l.facility.IsProjectable l.courts := by
  intro l member
  obtain ⟨f, read, rfl⟩ := List.mem_map.mp member
  exact sound.projectable kept (there f read)

theorem shown_eq_self {look : Row → Row} (same : ∀ r ∈ l.rows, look r = r) : l.shown look = l := by
  obtain ⟨f, courts⟩ := l
  obtain ⟨first, others⟩ := List.forall_mem_cons.mp same
  simp only [Loaded.shown, first]
  refine congrArg (Loaded.mk f) ((List.map_congr_left fun c member => ?_).trans (List.map_id courts))
  rw [others _ (List.mem_map_of_mem member)]
  rfl

/-- Work on facilities whose rows are shown as they were read maps and loads them, and lets go of them. -/
theorem work_eq {σ : Type} {b : Backends σ} {plan : Plan} {p : Progress} {s s₁ s₂ : σ} {report : Report}
    (projectable : ∀ l ∈ ls, l.facility.IsProjectable l.courts)
    (shown : ∀ r ∈ ls.flatMap Loaded.rows, b.shown (b.hold (ls.flatMap Loaded.rows) s) r = r)
    (loads : (loadBatch plan.gateway (documentsOf plan.validate ls)).run b.client
      (b.hold (ls.flatMap Loaded.rows) s) = (.ok report, s₁))
    (shown' : ∀ r ∈ ls.flatMap Loaded.rows, b.shown s₁ r = r)
    (releases : b.release (ls.flatMap Loaded.rows) s₁ = (.ok (), s₂)) :
    work b plan p ls s =
      (.ok (p.advance (ls.map fun l => .facility l.facility) (p.add (linesOf plan.validate ls) report)), s₂) := by
  have asRead : ls.map (Loaded.shown (b.shown (b.hold (ls.flatMap Loaded.rows) s))) = ls := by
    rw [List.map_congr_left (g := id), List.map_id]
    exact fun l member => shown_eq_self fun r part => shown r (List.mem_flatMap.mpr ⟨l, member, part⟩)
  have facilities : (ls.map fun l => b.shown s₁ (.facility l.facility)) = ls.map fun l => .facility l.facility :=
    List.map_congr_left fun l member => shown' _ (List.mem_flatMap.mpr ⟨l, member, List.mem_cons_self⟩)
  unfold work
  dsimp only
  rw [asRead, mapBatch_eq projectable]
  dsimp only
  rw [loads]
  dsimp only
  rw [facilities]
  show ((b.release (ls.flatMap Loaded.rows) s₁).1.map _, (b.release (ls.flatMap Loaded.rows) s₁).2) = _
  rw [releases]
  rfl

/-! ## Reading a batch -/

section Reading

variable {σ : Type} {b : Backends σ} {plan : Plan} {p : Progress} {s : σ}

/-- What a batch finds is what a run sees when it reads it. -/
theorem loaded_of_look : ((b.tables s).1.bind fun t => (t.findMany .facility (plan.reading p)).map (loadedOf t)) =
    (look b plan p s).map fun read => loadedOf read.1 read.2 := by
  unfold look
  cases (b.tables s).1 with
  | error fault => rfl
  | ok t =>
    show (t.findMany .facility (plan.reading p)).map (loadedOf t) =
      ((t.findMany .facility (plan.reading p)).map fun rows => (t, rows)).map _
    cases t.findMany .facility (plan.reading p) <;> rfl

/-- What a reading of the store leaves to a run: without facilities the run ends; else they are worked on,
and the run goes on if there were as many as asked for. -/
theorem batch_eq {fs : List Facility} (seen : look b plan p s = .ok (t, fs.map .facility)) :
    batch b plan p s =
      if fs = [] then (.ok (false, p), (b.tables s).2)
      else
        let worked := work b plan p (fs.map (.ofFacility t)) (b.tables s).2
        (worked.1.map fun next => (decide (plan.take p ≤ fs.length), next), worked.2) := by
  have loaded : loadedOf t (fs.map .facility) = fs.map (.ofFacility t) := by
    simp [loadedOf, List.filterMap_map]
  unfold batch
  dsimp only
  rw [loaded_of_look, seen, map_ok, loaded]
  cases fs with
  | nil => rfl
  | cons f fs =>
    rw [if_neg (List.cons_ne_nil f fs), ← List.length_map (Loaded.ofFacility t)]
    rfl

/-- A store that is out of reach ends a run, with an error more. -/
theorem batch_of_outage {fault : BackendFault} (unseen : look b plan p s = .error (.backend fault)) :
    batch b plan p s = (.ok (false, { p with report :=
      { p.report with errors := p.report.errors ++ ["store: " ++ fault.message] } }), (b.tables s).2) := by
  unfold batch
  dsimp only
  rw [loaded_of_look, unseen]
  rfl

end Reading

end Reindex

/-! ## Running in a deployment -/

namespace Deployment

variable {d : Deployment} {session : Session} {server : Server} {sizes : List Nat}

/-- A run in a deployment with a session, the index as it is, and the sizes of the loads so far. -/
def running (d : Deployment) (session : Session) (server : Server) (sizes : List Nat) : Running :=
  { deployment := { d with server := server }, session := session, sizes := sizes }

/-- A run in a calm deployment talks to the index in memory, and to nothing else. -/
theorem run_running {α : Type} (calm : d.IsCalm) (x : Exchange α) :
    ∃ sizes', x.run Running.backends.client (d.running session server sizes) =
      ((x.run Server.client server).1, d.running session (x.run Server.client server).2 sizes') := by
  have simulates := @Exchange.run_simulates α Running Server Running.backends.client
    (d.running session server sizes) x Server.client
    (fun r server => ∃ sizes, r = d.running session server sizes) ?_ ?_ server ⟨sizes, rfl⟩
  · obtain ⟨r, runs, sizes', rfl⟩ := simulates
    exact ⟨sizes', runs⟩
  · rintro r server ⟨sizes, rfl⟩
    refine ⟨_, ?_, sizes, rfl⟩
    show ((.ok d.settings.indexEnabled : Outcome Bool), d.running session server sizes) = _
    rw [calm.enabled]
    rfl
  · rintro call r server ⟨sizes, rfl⟩
    show ∃ r, Running.answer call (d.running session server sizes) = ((server.answer call).1, r) ∧ _
    unfold Running.answer
    simp only [running, calm.answer_eq]
    -- only a load that succeeds is noted, and nobody interferes with it
    cases (server.answer call).1 with
    | error fault => cases call <;> exact ⟨_, rfl, sizes, rfl⟩
    | ok v => cases call <;> exact ⟨_, rfl, _, rfl⟩

/-- A session that holds rows while they are worked on. -/
def holding (session : Session) (rows : List Row) : Session :=
  { session with isOpen := true, held := rows.map Session.pinned }

section Held

variable {rows : List Row} (free : session.held = [] ∧ session.removed = []) (keys : (rows.map Row.key).Nodup)

include free keys in
theorem hold_running : Running.backends.hold rows (d.running session server sizes) =
    d.running (holding session rows) server sizes := by
  show d.running (session.pin rows) server sizes = _
  rw [Session.pin_eq free.1 keys]
  rfl

include free in
/-- A session that lets go of its rows holds nothing, as before. -/
theorem release_running : Running.backends.release rows (d.running (holding session rows) server sizes) =
    (.ok (), d.running { session with isOpen := true } server sizes) := by
  have released : (holding session rows).release rows = (.ok (), { session with isOpen := true }) := by
    rw [@Session.release_eq (holding session rows) rows rfl free.2]
    simp only [holding, ← free.1]
  show (((holding session rows).release rows).1, d.running ((holding session rows).release rows).2 server sizes) = _
  rw [released]

include keys in
theorem shown_holding : ∀ r ∈ rows, (holding session rows).shown r = r := fun _ member =>
  Session.shown_eq rfl keys member

end Held

/-- The work on facilities of the store: they are mapped and loaded, and the session lets go of them. -/
theorem work_running {plan : Reindex.Plan} {p : Reindex.Progress} (calm : d.IsCalm) (sound : d.tables.IsSound)
    (kept : d.tables.IsKept) (free : session.held = [] ∧ session.removed = []) {fs : List Facility}
    (there : ∀ f ∈ fs, f ∈ d.tables.facilities) (distinct : (fs.map Facility.id).Nodup) :
    ∃ sizes', Reindex.work Running.backends plan p (fs.map (.ofFacility d.tables))
        (d.running session server sizes) =
      (.ok (p.advance (fs.map .facility)
        (p.add (Reindex.linesOf plan.validate (fs.map (.ofFacility d.tables)))
          ⟨server.countTaken (Reindex.documentsOf plan.validate (fs.map (.ofFacility d.tables))),
            server.refusals (Reindex.documentsOf plan.validate (fs.map (.ofFacility d.tables)))⟩)),
        d.running { session with isOpen := true }
          ((Reindex.documentsOf plan.validate (fs.map (.ofFacility d.tables))).foldl
            (Server.take plan.gateway.index) server) sizes') := by
  let found := fs.map (Loaded.ofFacility d.tables)
  have keys : ((found.flatMap Loaded.rows).map Row.key).Nodup := Reindex.nodup_rows sound distinct
  obtain ⟨sizes', loads⟩ := @run_running d (holding session (found.flatMap Loaded.rows)) server sizes _ calm
    (Reindex.loadBatch plan.gateway (Reindex.documentsOf plan.validate found))
  rw [Reindex.run_loadBatch, ← hold_running free keys] at loads
  have works := @Reindex.work_eq found _ Running.backends plan p _ _ _ _
    (Reindex.projectable_of_mem sound kept there) ?_ loads
    (shown_holding keys) (release_running free)
  · rw [List.map_map] at works
    exact ⟨sizes', works⟩
  · rw [hold_running free keys]
    exact shown_holding keys

/-- What a reading of the store leaves to a run: without facilities the run ends; else they are worked on,
and the run goes on if there were as many as asked for. -/
theorem batch_running {plan : Reindex.Plan} {p : Reindex.Progress} {fs : List Facility}
    (rows : session.rows = d.tables)
    (found : d.tables.findMany .facility (plan.reading p) = .ok (fs.map .facility)) :
    Reindex.look Running.backends plan p (d.running session server sizes) =
        .ok (d.tables, fs.map .facility) ∧
      Reindex.batch Running.backends plan p (d.running session server sizes) =
        if fs = [] then (.ok (false, p), d.running session server sizes)
        else
          let worked := Reindex.work Running.backends plan p (fs.map (.ofFacility d.tables))
            (d.running session server sizes)
          (worked.1.map fun next => (decide (plan.take p ≤ fs.length), next), worked.2) := by
  have seen : Reindex.look Running.backends plan p (d.running session server sizes) =
      .ok (d.tables, fs.map .facility) := by
    show (session.rows.findMany .facility (plan.reading p)).map (fun found => (session.rows, found)) = _
    rw [rows, found]
    rfl
  exact ⟨seen, Reindex.batch_eq seen⟩

end Deployment
end Venues
