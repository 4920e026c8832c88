import Venues.Proofs.Backends
import Venues.Proofs.Reindex.Report
import Venues.Proofs.Store.Outage

/-! # Reindexing while backends fail

Everything that a reindex asks for may fail: there may be no connection, a call may end with an error of the
client, a load may refuse some documents, and the store may be out of reach at any reading. None of this stops
the run. What could not be loaded becomes an error, and the next batch is read.

The invariant is on the state of the backends: between two batches no rows are held, and rows that are held
show what was read.
-/

namespace Venues

open Store (Row Tables Formula compile)
open Index (Loaded Gateway)

/-! ## Backends that may fail -/

/-- Whether a call is one of those that bring an index into being or load documents into it. -/
def Call.isUpkeep : Call → Bool
  | .indexExists _ | .createIndex .. | .dropIndex _ | .load .. => true
  | _ => false

/-- Whether an item of the answer to a load tells what became of a document, by an error or by a status. -/
def IsLoadItem (item : Value) : Prop :=
  ∃ action fs others, item = .object ((action, .object fs) :: others) ∧
    (Fields.has fs "error" = true ∨ ∃ status : Int, (Fields.get? fs "status").getD (.int 200) = .int status)

/-- What an item of the answer to a load tells can be read. -/
theorem exists_readOutcome {item : Value} (tells : IsLoadItem item) : ∃ l, Gateway.readOutcome item = .ok l := by
  obtain ⟨action, fs, others, rfl, told⟩ := tells
  have judged : ∃ failed, Gateway.isFailure (.object fs) = .ok failed := by
    rw [Gateway.isFailure]
    by_cases error : Fields.has fs "error" = true
    · exact ⟨true, if_pos error⟩
    · obtain ⟨status, told⟩ := told.resolve_left error
      rw [if_neg error, told]
      exact ⟨_, rfl⟩
  obtain ⟨failed, judged⟩ := judged
  rw [Gateway.readOutcome, judged]
  exact ⟨_, rfl⟩

/-- Whether a call can be answered so: with an error of the client, or with a value. The answer to a load tells
of the documents one by one. -/
def Call.CanBeAnswered (call : Call) (reply : Reply) : Prop :=
  (∃ fault, reply = .error fault ∧ fault.IsOfClient) ∨
    ∃ v, reply = .ok v ∧ ∀ name documents, call = .load name documents →
      ∃ fs items, v = .object fs ∧ (Fields.get? fs "items").getD (.list []) = .list items ∧
        ∀ item ∈ items, IsLoadItem item

/-- Whether backends over a store that nobody changes may fail, at every call and every reading, but hold rows as
they were read. A reading may find that some tables are lost. `Holds` says which rows a state holds. -/
structure Backends.MayFail {σ : Type} (b : Backends σ) (t : Tables) (Holds : List Row → σ → Prop) : Prop where
  connects : ∀ rows s, Holds rows s →
    (∃ connected, (b.client.connect s).1 = .ok connected) ∧ Holds rows (b.client.connect s).2
  answers : ∀ call rows s, call.isUpkeep = true → Holds rows s →
    call.CanBeAnswered (b.client.answer call s).1 ∧ Holds rows (b.client.answer call s).2
  reads : ∀ s, Holds [] s → ((∃ lost, (b.tables s).1 = .ok { t with lost := lost }) ∨
    ∃ reason, (b.tables s).1 = .error (.backend (.storeFailed reason))) ∧ Holds [] (b.tables s).2
  holds : ∀ rows s, Holds [] s → (rows.map Row.key).Nodup → Holds rows (b.hold rows s)
  shows : ∀ rows s, Holds rows s → ∀ r ∈ rows, b.shown s r = r
  releases : ∀ rows s, Holds rows s → ∃ s', b.release rows s = (.ok (), s') ∧ Holds [] s'

section Requests

open Exchange

variable {σ : Type} {b : Backends σ} {t : Tables} {Holds : List Row → σ → Prop} {rows : List Row} {g : Gateway}
  (failing : b.MayFail t Holds)
include failing

theorem Backends.MayFail.ends_connected :
    Gateway.connected.Ends b.client (Holds rows) (fun _ => True) Fault.IsOfBackend :=
  Exchange.ends_connected (failing.connects rows)

theorem Backends.MayFail.ends_call {call : Call} (upkeep : call.isUpkeep = true) :
    (Exchange.call call).Ends b.client (Holds rows) (fun v => call.CanBeAnswered (.ok v)) Fault.IsOfClient := by
  intro s holds
  obtain ⟨answered, holds'⟩ := failing.answers call rows s upkeep holds
  refine ⟨holds', ?_⟩
  rcases answered with ⟨fault, failed, known⟩ | ⟨v, replied, told⟩
  · exact .inr ⟨fault, failed, known⟩
  · exact .inl ⟨v, replied, .inr ⟨v, rfl, told⟩⟩

/-- Whatever fails, bringing the index into being ends with the index or with a backend fault. -/
theorem Backends.MayFail.ends_prepare (clear : Bool) :
    (Reindex.prepare g clear).Ends b.client (Holds rows) (fun _ => True) Fault.IsOfBackend := by
  have creates : (Index.create g.settings g.index).Ends b.client (Holds rows) (fun _ => True) Fault.IsOfClient :=
    (failing.ends_call rfl).bind fun _ _ => ends_pure trivial
  cases clear with
  | false =>
    refine Ends.onward (failing.ends_connected.onward fun _ => Ends.explained ?_ _) fun _ => ends_pure trivial
    refine Ends.onward ((failing.ends_call rfl).bind fun _ _ => ends_pure trivial) fun there => ?_
    cases there with
    | true => exact ends_pure trivial
    | false => exact creates.onward fun _ => ends_pure trivial
  | true =>
    refine Ends.onward (failing.ends_connected.onward fun _ => Ends.explained ?_ _) fun _ => ends_pure trivial
    refine Ends.onward (Ends.orAbsent ?_ trivial) fun _ => creates.onward fun _ => ends_pure trivial
    exact (failing.ends_call rfl).bind fun _ _ => ends_pure trivial

/-! ## Loading -/

/-- A load ends with what it tells of the documents, or with a backend fault. -/
theorem Backends.MayFail.ends_load (documents : List Document) :
    (g.load documents).Ends b.client (Holds rows) (fun _ => True) Fault.IsOfBackend := by
  unfold Gateway.load
  by_cases empty : documents.isEmpty = true
  · rw [if_pos empty]
    exact ends_pure trivial
  · rw [if_neg empty]
    refine failing.ends_connected.onward fun _ => ((failing.ends_call rfl).explained _).bind fun v answered => ?_
    -- an answered load lists an outcome for each document, all of which can be read
    obtain ⟨fault, failed, _⟩ | ⟨v, replied, told⟩ := answered
    · cases failed
    · cases replied
      obtain ⟨fs, items, rfl, listed, tells⟩ := told _ _ rfl
      obtain ⟨outcomes, each⟩ := exists_forall₂ fun item member => exists_readOutcome (tells item member)
      refine (ends_lift (a := fs) rfl).bind ?_
      rintro _ rfl
      refine (ends_lift (a := items) (by rw [listed]; rfl)).bind ?_
      rintro _ rfl
      exact (ends_lift (mapM_eq_ok_of_forall₂ each)).bind fun _ _ => ends_pure trivial

end Requests

namespace Reindex

variable {σ : Type} {b : Backends σ} {t : Tables} {Holds : List Row → σ → Prop} {rows : List Row} {g : Gateway}

/-- What a load of documents adds to a report: what the index tells of them or, if the request failed, an error
for each of them. -/
def loadReport (documents : List Document) : Except BackendFault Gateway.Loaded → Report
  | .ok l => ⟨l.indexed, l.errors⟩
  | .error fault => ⟨0, documents.map fun d => d.id ++ ": " ++ fault.message⟩

/-- Loading a batch ends with a report, whatever comes of the request. -/
theorem exists_loadBatch (failing : b.MayFail t Holds) (documents : List Document) {s : σ} (holds : Holds rows s) :
    ∃ loaded s', (g.load documents).run b.client s = (loaded.mapError .backend, s') ∧
      (loadBatch g documents).run b.client s = (.ok (loadReport documents loaded), s') ∧ Holds rows s' := by
  obtain ⟨holds', ⟨l, loads, _⟩ | ⟨_, failed, fault, rfl⟩⟩ := failing.ends_load (g := g) documents s holds
  · have loads : (g.load documents).run b.client s = (.ok l, _) := Prod.ext loads rfl
    exact ⟨.ok l, _, loads, Exchange.run_handle (Exchange.run_bind loads), holds'⟩
  · have failed : (g.load documents).run b.client s = (.error (.backend fault), _) := Prod.ext failed rfl
    exact ⟨.error fault, _, failed, Exchange.run_handle_error (Exchange.run_bind_error failed), holds'⟩

/-! ## Lots -/

/-- The facilities of a batch, and what came of loading their documents. -/
structure Lot where
  facilities : List Facility
  loaded : Except BackendFault Gateway.Loaded

namespace Lot

/-- The facilities of a lot with their courts. -/
def found (t : Tables) (lot : Lot) : List Loaded := lot.facilities.map (.ofFacility t)

def documents (plan : Plan) (t : Tables) (lot : Lot) : List Document := documentsOf plan.validate (lot.found t)

/-- What a lot adds to the report of a run: an error for each facility without a document, and what came of
loading the documents. -/
def report (plan : Plan) (t : Tables) (lot : Lot) : Report :=
  let loaded := loadReport (lot.documents plan t) lot.loaded
  ⟨loaded.indexed, linesOf plan.validate (lot.found t) ++ loaded.errors⟩

end Lot

/-- The line of a reading that failed. -/
def storeLine (fault : BackendFault) : String := "store: " ++ fault.message

def Progress.note (p : Progress) (line : String) : Progress :=
  { p with report := { p.report with errors := p.report.errors ++ [line] } }

/-- Whether a run goes from one place to another by a lot: it reads the facilities, asks the index to load their
documents, and reports what came of it. -/
structure Passes (b : Backends σ) (plan : Plan) (t : Tables) (lot : Lot) (more : Bool) (p p' : Progress)
    (s s' : σ) : Prop where
  seen : ∃ lost, look b plan p s = .ok ({ t with lost := lost }, lot.facilities.map .facility)
  loads : ∃ s₁, (plan.gateway.load (lot.documents plan t)).run b.client
    (b.hold ((lot.found t).flatMap Loaded.rows) (b.tables s).2) = (lot.loaded.mapError .backend, s₁)
  reported : p'.report =
    ⟨p.report.indexed + (lot.report plan t).indexed, p.report.errors ++ (lot.report plan t).errors⟩
  done : batch b plan p s = (.ok (more, p'), s')

/-- The lots of a run from one place to its end, and the fault of the store if one of the readings failed. -/
inductive Lots (b : Backends σ) (plan : Plan) (t : Tables) :
    List Lot → Option BackendFault → Progress → Progress → σ → σ → Prop where
  | closed {p : Progress} {s : σ} : p.isOpen = false → Lots b plan t [] none p p s s
  | outage {p : Progress} {s : σ} {fault : BackendFault} : p.isOpen = true →
      look b plan p s = .error (.backend fault) →
      Lots b plan t [] (some fault) p (p.note (storeLine fault)) s (b.tables s).2
  | spent {p : Progress} {s : σ} {t' : Tables} : p.isOpen = true → look b plan p s = .ok (t', []) →
      Lots b plan t [] none p p s (b.tables s).2
  | last {lot : Lot} {p p' : Progress} {s s' : σ} : p.isOpen = true → Passes b plan t lot false p p' s s' →
      Lots b plan t [lot] none p p' s s'
  | goes {lot : Lot} {lots : List Lot} {fault? : Option BackendFault} {p p' p'' : Progress} {s s' s'' : σ} :
      p.isOpen = true → Passes b plan t lot true p p' s s' → Lots b plan t lots fault? p' p'' s' s'' →
      Lots b plan t (lot :: lots) fault? p p'' s s''

section Lots

variable {plan : Plan} {lots : List Lot} {fault? : Option BackendFault} {p p' : Progress} {s s' : σ}

/-- A run passes its lots, and comes to its end. -/
theorem Lots.exists_streams (passes : Lots b plan t lots fault? p p' s s') :
    ∃ sights, Streams b plan p s sights (.ok p', s') := by
  induction passes with
  | closed isClosed => exact ⟨_, .closed isClosed⟩
  | outage isOpen unseen => exact ⟨_, .ended isOpen (batch_of_outage unseen)⟩
  | @spent _ _ t' isOpen seen => exact ⟨_, .ended isOpen (@batch_eq t' _ _ _ _ _ [] seen)⟩
  | last isOpen passes => exact ⟨_, .ended isOpen passes.done⟩
  | goes isOpen passes _ ih =>
    obtain ⟨sights, streams⟩ := ih
    exact ⟨_, .goes isOpen passes.done streams⟩

/-- A run counts what was loaded of each lot, and collects the errors of all of them; if a reading failed, there
is one error more. -/
theorem Lots.report_eq (passes : Lots b plan t lots fault? p p' s s') :
    p'.report = ⟨p.report.indexed + (lots.map fun lot => (lot.report plan t).indexed).sum,
      p.report.errors ++ lots.flatMap (fun lot => (lot.report plan t).errors) ++ fault?.toList.map storeLine⟩ := by
  induction passes with
  | closed | spent => simp
  | outage => simp [Progress.note]
  | last _ passes => simp [passes.reported]
  | goes _ passes _ ih => simp [ih, passes.reported, Int.add_assoc]

end Lots

/-! ## A batch -/

section Batches

variable {plan : Plan} {f : Formula} {fs : List Facility} {p : Progress} {k : Nat} {s : σ}
  (failing : b.MayFail t Holds) (sound : t.IsSound) (kept : t.IsKept)

include failing sound kept in
/-- Facilities of the store are worked on, whatever comes of loading their documents. -/
theorem exists_work (idle : Holds [] s) (there : ∀ f ∈ fs, f ∈ t.facilities) (distinct : (fs.map Facility.id).Nodup) :
    ∃ loaded s₁ s₂, (plan.gateway.load (documentsOf plan.validate (fs.map (.ofFacility t)))).run b.client
        (b.hold ((fs.map (.ofFacility t)).flatMap Loaded.rows) s) = (loaded.mapError .backend, s₁) ∧
      work b plan p (fs.map (.ofFacility t)) s =
        (.ok (p.advance (fs.map .facility) (p.add (linesOf plan.validate (fs.map (.ofFacility t)))
          (loadReport (documentsOf plan.validate (fs.map (.ofFacility t))) loaded))), s₂) ∧ Holds [] s₂ := by
  have held := failing.holds _ s idle (nodup_rows sound distinct)
  obtain ⟨loaded, s₁, loads, ran, held'⟩ := @exists_loadBatch _ _ _ _ _ plan.gateway failing
    (documentsOf plan.validate (fs.map (.ofFacility t))) _ held
  obtain ⟨s₂, releases, idle'⟩ := failing.releases _ _ held'
  have works := work_eq (p := p) (projectable_of_mem sound kept there) (failing.shows _ _ held) ran (failing.shows _ _ held') releases
  rw [List.map_map] at works
  exact ⟨loaded, s₁, s₂, loads, works, idle'⟩

variable (compiled : compile .facility plan.filter = .ok f) (clean : f.faults = [])
  (listed : t.answers .facility streamOrder f = fs.map .facility) (positive : 1 ≤ plan.batchSize)
  (stands : p.StandsAt fs k) (skips : p.skip < 2 ^ 63) (short : plan.take p < 2 ^ 63) (idle : Holds [] s)
include failing sound compiled clean listed stands skips idle

/-- A reading among the candidates finds those that follow, unless the store is out of reach. -/
theorem look_cases {size : Nat} (takes : plan.take p = (size : Int)) (fits : (size : Int) < 2 ^ 63) :
    (∃ fault, look b plan p s = .error (.backend fault)) ∨
      ∃ lost, look b plan p s = .ok ({ t with lost := lost }, ((fs.drop k).take size).map .facility) := by
  rcases (failing.reads s idle).1 with ⟨lost, tables⟩ | ⟨reason, tables⟩
  · have restored : ({ t with lost := lost } : Tables).restored = t := Tables.restored_eq sound.present
    have found := findMany_of_standsAt (sound.orderly .facility) compiled clean listed stands skips takes fits
    rw [look, tables]
    -- with tables lost a reading has what it would have with all of them, or fails for want of one
    rcases Store.Tables.findMany_follows (t := { t with lost := lost }) (m := .facility) (plan.reading p) with
      same | ⟨_, ⟨reason, rfl⟩, failed⟩
    · rw [restored, found] at same
      refine .inr ⟨lost, ?_⟩
      show (Tables.findMany _ .facility (plan.reading p)).map _ = _
      rw [same]
      rfl
    · refine .inl ⟨.storeFailed reason, ?_⟩
      show (Tables.findMany _ .facility (plan.reading p)).map _ = _
      rw [failed]
      rfl
  · rw [look, tables]
    exact .inl ⟨_, rfl⟩

include kept positive short

/-- At an open place among the candidates the store is out of reach, or nothing is left, or the run passes a lot
of the candidates. If no other batch may follow, the lot is all that the limit lets through, and else the run
stands behind it. -/
theorem exists_step (opened : p.isOpen = true) :
    (∃ fault, look b plan p s = .error (.backend fault)) ∨
      (∃ t', look b plan p s = .ok (t', []) ∧ within p.remaining (fs.drop k) = []) ∨
      ∃ lot more p' s', Passes b plan t lot more p p' s s' ∧ Holds [] s' ∧
        (more = false → within p.remaining (fs.drop k) = lot.facilities) ∧
        (more = true → MovesBy plan fs k lot.facilities p p') := by
  obtain ⟨size, takes, asks⟩ := exists_size opened positive
  let rows := (fs.drop k).take size
  have part : rows.Sublist fs := (List.take_sublist _ _).trans (List.drop_sublist _ _)
  have all (few : rows.length < size) : within p.remaining (fs.drop k) = rows := within_eq_take takes few
  refine (look_cases failing sound compiled clean listed stands skips idle takes (takes ▸ short)).imp_right ?_
  rintro ⟨lost, seen⟩
  by_cases none : rows = []
  · refine .inl ⟨_, by rw [seen, show (fs.drop k).take size = [] from none]; rfl, (all ?_).trans none⟩
    rwa [none]
  · obtain ⟨loaded, s₁, s₂, loads, works, idle'⟩ := exists_work (p := p) failing sound kept
      (failing.reads s idle).2 (fun g member => mem_of_listed listed (part.mem member))
      ((nodup_of_listed (sound.orderly .facility).toIsKeyed listed).sublist (part.map _))
    have went := batch_eq seen
    rw [if_neg none] at went
    have works : work b plan p (rows.map (.ofFacility { t with lost := lost })) (b.tables s).2 = _ := works
    let report := p.add (linesOf plan.validate (rows.map (.ofFacility t)))
      (loadReport (documentsOf plan.validate (rows.map (.ofFacility t))) loaded)
    refine .inr ⟨⟨rows, loaded⟩, decide (plan.take p ≤ rows.length), p.advance (rows.map .facility) report, s₂,
      ⟨⟨lost, seen⟩, ⟨s₁, loads⟩, ?_, ?_⟩, idle', fun ends => all ?_, fun _ => movesBy_advance none takes report⟩
    · exact congrArg (Report.mk _) (List.append_assoc _ _ _)
    · rw [went]
      dsimp only
      rw [works]
      rfl
    · have := of_decide_eq_false ends
      omega

/-- A run among the candidates passes lots up to its end. Unless a reading fails, they are all the candidates
that are left and that the limit lets through, and else the first of these. -/
theorem exists_lots :
    ∃ lots fault? p' s', Lots b plan t lots fault? p p' s s' ∧ Holds [] s' ∧
      lots.flatMap Lot.facilities <+: within p.remaining (fs.drop k) ∧
      (fault? = none → lots.flatMap Lot.facilities = within p.remaining (fs.drop k)) := by
  -- the induction is on the number of candidates that the run has not passed
  induction size : fs.length - k using Nat.strong_induction_on generalizing p k s with
  | _ left ih =>
  by_cases opened : p.isOpen = true
  · rcases exists_step failing sound kept compiled clean listed positive stands skips short idle opened with
      ⟨fault, unseen⟩ | ⟨t', seen, nothing⟩ | ⟨lot, more, p', s', passes, idle', ends, goes⟩
    · exact ⟨[], some fault, _, _, .outage opened unseen, (failing.reads s idle).2, List.nil_prefix, nofun⟩
    · rw [nothing]
      exact ⟨[], none, p, _, .spent opened seen, (failing.reads s idle).2, List.nil_prefix, fun _ => rfl⟩
    · cases more with
      | false =>
        rw [ends rfl, ← List.append_nil lot.facilities]
        exact ⟨[lot], none, p', s', .last opened passes, idle', List.prefix_rfl, fun _ => rfl⟩
      | true =>
        have moves := goes rfl
        obtain ⟨lots, fault?, last, s'', onward, idle'', front, whole⟩ := ih _ (size ▸ moves.closer)
          moves.stands moves.skips (moves.takes.trans_lt short) idle' rfl
        refine ⟨lot :: lots, fault?, last, s'', .goes opened passes onward, idle'', ?_, fun none => ?_⟩
        · rw [moves.split, List.flatMap_cons]
          exact (List.prefix_append_right_inj _).mpr front
        · rw [moves.split, List.flatMap_cons, whole none]
  · rw [within_eq_nil opened]
    exact ⟨[], none, p, s, .closed (by simpa using opened), idle, List.nil_prefix, fun _ => rfl⟩

end Batches

end Reindex
end Venues
