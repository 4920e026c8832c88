import Venues.Proofs.Outbox.Convergence

/-! # Documents of facilities that are refused

Once an event that tells of a change is done, the document of its facility is the one of the row, or it is
gone. But a facility that is to be found may have no name or no coordinates any more. Then its event fails for
good before the index is touched, so that an older document of the facility is there still, unless an event
that tells of a deletion has removed it.
-/

namespace Venues

open Index (Server inLine wanted)
open Store (Tables)

/-! ## Documents that are settled -/

namespace Index

variable {t : Tables} {u : Uuid} {deleted : Prop} {before middle after : Option Value}

/-- Whether the document of a facility was brought in line with the row, unless it is gone where the facility
was said to be deleted. -/
def IsSettled (t : Tables) (u : Uuid) (deleted : Prop) (before after : Option Value) : Prop :=
  after = inLine t u before ∨ after = none ∧ deleted

/-- Whether the document of a facility was left alone, or else is settled. -/
def IsKept (t : Tables) (u : Uuid) (deleted : Prop) (before after : Option Value) : Prop :=
  after = before ∨ IsSettled t u deleted before after

theorem inLine_none (document? : Option Value) : inLine t u none = inLine t u document? ∨ inLine t u none = none := by
  unfold inLine
  split
  · split
    · split
      · exact .inl rfl
      · exact .inr rfl
    · exact .inr rfl
  · exact .inr rfl

theorem IsSettled.trans (first : IsSettled t u deleted before middle) (second : IsSettled t u deleted middle after) :
    IsSettled t u deleted before after := by
  rcases second with rfl | gone
  · rcases first with rfl | ⟨rfl, said⟩
    · exact .inl inLine_inLine
    · -- the row may have no document, and then what is gone stays gone
      exact (inLine_none before).imp id fun none => ⟨none, said⟩
  · exact .inr gone

theorem IsSettled.trans_isKept (first : IsSettled t u deleted before middle) (second : IsKept t u deleted middle after) :
    IsSettled t u deleted before after := by
  rcases second with rfl | second
  · exact first
  · exact first.trans second

theorem IsKept.trans_isSettled (first : IsKept t u deleted before middle) (second : IsSettled t u deleted middle after) :
    IsSettled t u deleted before after := by
  rcases first with rfl | first
  · exact second
  · exact first.trans second

theorem IsKept.trans (first : IsKept t u deleted before middle) (second : IsKept t u deleted middle after) :
    IsKept t u deleted before after := by
  rcases second with rfl | second
  · exact first
  · exact .inr (first.trans_isSettled second)

end Index

/-! ## Events that ask for nothing -/

namespace Outbox

variable {σ : Type} {b : Backends σ} {g : Index.Gateway} {e : Event}

theorem Event.payload_of_namedFacility {name : String} (named : e.namedFacility = .ok (.text name)) :
    ∃ fs, e.payload = .object fs ∧ Fields.get fs "facility_id" = .text name := by
  unfold namedFacility at named
  split at named
  · rename_i fs payload
    exact ⟨fs, payload, Except.ok.inj named⟩
  · split at named <;> cases named

/-- An event that asks for nothing is judged without a look at the index. -/
theorem exists_judge_idle (idle : ∀ kind u, ¬ e.Asks kind u) : ∃ outcome, ∀ s, judge b g e s = (outcome, s) := by
  unfold judge
  cases named : e.namedFacility with
  | error fault => exact ⟨_, fun _ => rfl⟩
  | ok v =>
    -- wherever the reading of the event stops, nothing has been asked of the index
    by_cases given : v.truthy = true
    · simp only [given, Bool.not_true, Bool.false_eq_true, if_false]
      cases v with
      | text name =>
        obtain ⟨fs, payload, text⟩ := Event.payload_of_namedFacility named
        dsimp only
        cases read : Uuid.ofText? name with
        | none => exact ⟨_, fun _ => rfl⟩
        | some u =>
          dsimp only
          cases known : EventKind.ofText? e.kind with
          | none => exact ⟨_, fun _ => rfl⟩
          | some kind => exact absurd ⟨known, fs, name, payload, text, read⟩ (idle kind u)
      | _ => exact ⟨_, fun _ => rfl⟩
    · simp only [given, Bool.not_false, if_true]
      exact ⟨_, fun _ => rfl⟩

theorem Event.Asks.unique_kind {kind kind' : EventKind} {u v : Uuid} (asks : e.Asks kind u) (asks' : e.Asks kind' v) :
    kind' = kind :=
  Option.some.inj (asks'.known.symm.trans asks.known)

/-- An event is done exactly if that is the verdict on it. -/
theorem done_iff_of_conclude {now maxFailures : Int} {verdict : Verdict} {e' : Event}
    (concluded : e.conclude now maxFailures verdict = .ok e') : e'.status = .done ↔ verdict = .done := by
  cases verdict with
  | done =>
    cases concluded
    simp
  | failed reason retry =>
    unfold Event.conclude Event.fail at concluded
    dsimp only at concluded
    split at concluded
    · cases concluded
    · split at concluded
      · split at concluded <;> cases concluded
        simp
      · cases concluded
        simp

end Outbox

/-! ## Batches -/

namespace Deployment

open Outbox (Event EventKind Verdict judge)

variable {d : Deployment} {e : Event} {deleted : Uuid → Prop}

/-- Whether every document of a facility was left alone or is settled, from one state of the index to another. -/
def KeepsDocuments (d : Deployment) (deleted : Uuid → Prop) (s s' : Server) : Prop :=
  ∀ u, Index.IsKept d.tables u (deleted u) (s.document? d.gateway.index u.text)
    (s'.document? d.gateway.index u.text)

/-- Whether the document of one facility is settled. -/
def SettlesDocument (d : Deployment) (deleted : Uuid → Prop) (u : Uuid) (s s' : Server) : Prop :=
  Index.IsSettled d.tables u (deleted u) (s.document? d.gateway.index u.text)
    (s'.document? d.gateway.index u.text)

/-- Only the facility whose document is set has another one. -/
theorem keeps_of_sets (deleted : Uuid → Prop) {s s' : Server} {u : Uuid} {document? : Option Value}
    (sets : s.Sets s' d.gateway.index u.text document?)
    (settled : Index.IsSettled d.tables u (deleted u) (s.document? d.gateway.index u.text) document?) :
    d.KeepsDocuments deleted s s' ∧ d.SettlesDocument deleted u s s' := by
  have self : s'.document? d.gateway.index u.text = document? := by rw [sets.held, if_pos rfl]
  refine ⟨fun v => ?_, by rw [SettlesDocument, self]; exact settled⟩
  by_cases same : v = u
  · subst same
    rw [self]
    exact .inr settled
  · left
    rw [sets.held, if_neg fun text => same (Uuid.text_injective text)]

theorem verdictOf_ne_done (fault : Fault) : Outbox.verdictOf fault ≠ .ok .done := by
  unfold Outbox.verdictOf
  split
  · nofun
  · split <;> nofun

/-- What one event does: documents are left alone or settled, and the one of the facility that it says has
changed is settled; the event is done if it is clear what the index is to hold. -/
theorem exists_step (calm : d.IsCalm) (present : d.tables.lost = []) (said : ∀ u, e.Asks .deleted u → deleted u) :
    ∃ outcome s', judge backends d.gateway e d = (outcome, { d with server := s' }) ∧
      d.KeepsDocuments deleted d.server s' ∧
      ∀ u, e.Asks .upserted u → d.SettlesDocument deleted u d.server s' ∧ ∀ verdict, outcome = .ok verdict →
        (verdict = .done ↔ ∃ document?, wanted d.tables u = .ok document?) := by
  by_cases idle : ∀ kind u, ¬ e.Asks kind u
  · obtain ⟨outcome, judged⟩ := Outbox.exists_judge_idle (b := backends) (g := d.gateway) idle
    exact ⟨outcome, d.server, judged d, fun u => .inl rfl, fun u asks => absurd asks (idle .upserted u)⟩
  · simp only [not_forall, not_not] at idle
    obtain ⟨kind, u, asks⟩ := idle
    cases kind with
    | upserted =>
      obtain ⟨s', judged, sets⟩ := exists_judged_upserted calm present asks
      obtain ⟨keeps, settles⟩ := keeps_of_sets deleted sets (.inl rfl)
      refine ⟨_, s', judged, keeps, fun v asks' => ?_⟩
      obtain rfl := asks.unique asks'
      refine ⟨settles, fun verdict result => ?_⟩
      cases wants : wanted d.tables v with
      | ok document? =>
        rw [wants] at result
        cases result
        simp
      | error fault =>
        rw [wants] at result
        refine iff_of_false ?_ (by simp)
        rintro rfl
        exact verdictOf_ne_done fault result
    | deleted =>
      obtain ⟨keeps, _⟩ := keeps_of_sets deleted (Server.sets_remove (s := d.server)) (.inr ⟨rfl, said u asks⟩)
      exact ⟨_, _, judge_deleted calm asks, keeps, fun v asks' => by cases asks.unique_kind asks'⟩

/-- What a batch may have done to one of its events, which tells of a change: if the event has ended for good,
the document of its facility is settled, and the event is done if it is clear what the index is to hold. -/
def Closes (d : Deployment) (deleted : Uuid → Prop) (s s' : Server) (e e' : Event) : Prop :=
  ∀ u, e.Asks .upserted u → e'.status = .done ∨ e'.status = .failed →
    d.SettlesDocument deleted u s s' ∧ (e'.status = .done ↔ ∃ document?, wanted d.tables u = .ok document?)

theorem closes_of_open {s s' : Server} {e' : Event} (not_done : e'.status ≠ .done) (not_failed : e'.status ≠ .failed) :
    d.Closes deleted s s' e e' := fun _ _ ended => absurd ended (not_or.mpr ⟨not_done, not_failed⟩)

theorem closes_of_isDue {s s' : Server} {now : Int} (due : e.isDue now = true) : d.Closes deleted s s' e e := by
  have pending : e.status = .pending := by
    simp only [Event.isDue, Bool.and_eq_true, beq_iff_eq] at due
    exact due.1
  exact closes_of_open (by simp [pending]) (by simp [pending])

/-- What was left alone, or settled, before the batch came to an event makes no difference to it. -/
theorem Closes.congr {s s' s'' : Server} {e' : Event} (closes : d.Closes deleted s' s'' e e')
    (keeps : d.KeepsDocuments deleted s s') : d.Closes deleted s s'' e e' := fun u asks ended =>
  (closes u asks ended).imp_left fun settles => (keeps u).trans_isSettled settles

/-- Whether a batch closes all events that were due. -/
def ClosesAll (d : Deployment) (deleted : Uuid → Prop) (s s' : Server) : List Event → List Event → Prop :=
  List.Forall₂ fun e e' => e.isDue d.now = true → d.Closes deleted s s' e e'

theorem closesAll_self {s s' : Server} (events : List Event) : d.ClosesAll deleted s s' events events :=
  List.forall₂_same.mpr fun _ _ due => closes_of_isDue due

/-- A batch leaves documents alone or settles them, and closes the events that were due. -/
theorem exists_run (calm : d.IsCalm) (present : d.tables.lost = []) {events : List Event}
    (said : ∀ e ∈ events, ∀ u, e.Asks .deleted u → deleted u) (budget : Option Nat) (stats : Outbox.BatchStats)
    (server : Server) :
    ∃ outcome events' s', Outbox.workOff backends d.gateway d.terms budget stats events { d with server := server } =
        ((outcome, events'), { d with server := s' }) ∧
      d.KeepsDocuments deleted server s' ∧ d.ClosesAll deleted server s' events events' := by
  -- the events before it have changed the index only, so the deployment is the same for each event
  induction events generalizing budget stats server with
  | nil => exact ⟨.ok stats, [], server, by unfold Outbox.workOff; rfl, fun u => .inl rfl, .nil⟩
  | cons e events ih =>
    obtain ⟨first, others⟩ := List.forall_mem_cons.mp said
    by_cases spent : budget = some 0
    · subst spent
      exact ⟨.ok stats, e :: events, server, rfl, fun u => .inl rfl, closesAll_self _⟩
    by_cases due : e.isDue d.terms.now = true
    · obtain ⟨outcome, s', judged, keeps, changes⟩ := exists_step (d := { d with server := server })
        ⟨calm.enabled, calm.failing⟩ present first
      have judged : judge backends d.gateway e { d with server := server } = (outcome, { d with server := s' }) :=
        judged
      cases ends : outcome.bind fun v => (e.conclude d.terms.now d.terms.maxFailures v).map fun e' => (v, e') with
      | error fault =>
        -- the batch breaks off, and the event is left in the middle of its processing
        refine ⟨.error fault, { e with status := .processing } :: events, s', ?_, keeps,
          .cons (fun _ => closes_of_open (by simp) (by simp)) (closesAll_self _)⟩
        rw [Outbox.workOff, if_pos due]
        · simp only [judged, ends]
        · exact spent
      | ok concluded =>
        obtain ⟨verdict, result, concludes⟩ := bind_eq_ok.mp ends
        obtain ⟨e', concluded, rfl⟩ := map_eq_ok.mp concludes
        obtain ⟨outcome', events', s'', ran, keeps', closes⟩ :=
          ih others (budget.map (· - 1)) (stats.count verdict) s'
        -- what this event settled, the ones behind it leave alone or settle again
        refine ⟨outcome', e' :: events', s'', ?_, fun u => (keeps u).trans (keeps' u), .cons (fun _ u asks _ => ?_) ?_⟩
        · rw [Outbox.workOff, if_pos due]
          · simp only [judged, ends, ran]
          · exact spent
        · obtain ⟨settles, isDone⟩ := changes u asks
          exact ⟨settles.trans_isKept (keeps' u),
            (Outbox.done_iff_of_conclude concluded).trans (isDone verdict result)⟩
        · exact closes.imp fun _ _ closes now => (closes now).congr keeps
    · obtain ⟨outcome, events', s', ran, keeps, closes⟩ := ih others budget stats server
      refine ⟨outcome, e :: events', s', ?_, keeps, .cons (fun now => absurd now due) closes⟩
      rw [Outbox.workOff, if_neg due, ran]
      exact spent

/-- Processing events closes those that were due, also if it ends with a fault. -/
theorem exists_processOutbox (calm : d.IsCalm) (present : d.tables.lost = []) {events : List Event}
    (there : d.events = some events) (said : ∀ e ∈ events, ∀ u, e.Asks .deleted u → deleted u) (limit : Int) :
    ∃ outcome events' s', d.processOutbox limit = (outcome, { d with server := s', events := some events' }) ∧
      d.ClosesAll deleted d.server s' events events' := by
  have found : d.theEvents = .ok events := by rw [theEvents, there]
  cases short : isShort limit with
  | true =>
    obtain ⟨outcome, events', s', ran, _, closes⟩ :=
      exists_run calm present said (Outbox.budgetOf limit) {} d.server
    exact ⟨outcome, events', s', processOutbox_eq calm.enabled there short ran, closes⟩
  | false =>
    refine ⟨.error .overflow, events, d.server, ?_, closesAll_self events⟩
    have refuses : Outbox.processBatch backends d.gateway d.terms limit events d =
        ((.error .overflow, events), d) := by
      have enabled : d.gateway.settings.indexEnabled = true := calm.enabled
      simp only [Outbox.processBatch, enabled, short, Bool.not_true, Bool.not_false, Bool.false_eq_true, if_false,
        if_true]
    simp only [processOutbox, calm.enabled, found, refuses, Bool.not_true, Bool.false_eq_true, if_false]

/-- What is in the index of a facility after an event that tells of a change to it has been done, or has failed
for good. The event is done if it is clear what the index is to hold. A document that is there then is the
document of the row, or else the row has none, the event has failed, and it is an older document that was there
before. Unless an event says that the facility was deleted, the document is in line with the row, which leaves
it as it was where the row has none. -/
theorem exists_closed (calm : d.IsCalm) (present : d.tables.lost = []) {events : List Event}
    (there : d.events = some events) (limit : Int) :
    ∃ outcome events' s', d.processOutbox limit = (outcome, { d with server := s', events := some events' }) ∧
      List.Forall₂ (fun e e' => ∀ u, e.isDue d.now = true → e.Asks .upserted u →
        e'.status = .done ∨ e'.status = .failed →
          (e'.status = .done ↔ ∃ document?, wanted d.tables u = .ok document?) ∧
          (∀ document, s'.document? d.gateway.index u.text = some document →
            wanted d.tables u = .ok (some document) ∨
              (∃ fault, wanted d.tables u = .error fault) ∧ e'.status = .failed ∧
                d.server.document? d.gateway.index u.text = some document) ∧
          ((∀ e ∈ events, ¬ e.Asks .deleted u) → s'.document? d.gateway.index u.text =
            inLine d.tables u (d.server.document? d.gateway.index u.text))) events events' := by
  obtain ⟨outcome, events', s', ran, closes⟩ := exists_processOutbox (d := d) calm present there
    (fun e member u asks => (⟨e, member, asks⟩ : ∃ e ∈ events, e.Asks .deleted u)) limit
  refine ⟨outcome, events', s', ran, closes.imp fun e e' closes u due asks ended => ?_⟩
  obtain ⟨settles, isDone⟩ := closes due u asks ended
  refine ⟨isDone, fun document held => ?_, fun silent => ?_⟩
  · -- a document that is there was brought in line
    have inLine : some document = inLine d.tables u (d.server.document? d.gateway.index u.text) := by
      rcases settles with same | ⟨gone, _⟩
      · rw [← held, same]
      · cases held.symm.trans gone
    cases wants : wanted d.tables u with
    | ok document? =>
      rw [Index.inLine_of_wanted wants] at inLine
      exact .inl (by rw [inLine])
    | error fault =>
      rw [Index.inLine_of_error wants] at inLine
      refine .inr ⟨⟨fault, rfl⟩, ended.resolve_left fun done => ?_, inLine.symm⟩
      obtain ⟨document?, made⟩ := isDone.mp done
      cases wants.symm.trans made
  · rcases settles with same | ⟨_, e, member, asks'⟩
    · exact same
    · exact absurd asks' (silent e member)

/-- The written form of a document that an index was given some time ago. -/
def oldDocument : Value := .object [("name", .text "bowl")]

/-- A deployment in whose index two facilities have documents: one that has lost its coordinates, and one that
is no longer published. -/
def fadedBowls : Deployment where
  settings := {}
  now := 0
  tables := { facilities := [bowl 2 none, { bowl 3 none with isPublished := some false }] }
  events := some [.ofFacility (.uuid ⟨2⟩) .upserted, .ofFacility (.uuid ⟨3⟩) .upserted]
  server := { indexes := [("venue_facilities",
    [((⟨2⟩ : Uuid).text, oldDocument), ((⟨3⟩ : Uuid).text, oldDocument)])] }

/-- The document of the second facility is gone. The one of the first is as it was: its event has failed. -/
theorem exists_closed_fadedBowls : ∃ outcome events' s',
    fadedBowls.processOutbox 2 = (outcome, { fadedBowls with server := s', events := some events' }) ∧
      events'.map Event.status = [.failed, .done] ∧
      s'.document? "venue_facilities" (⟨2⟩ : Uuid).text = some oldDocument ∧
      s'.document? "venue_facilities" (⟨3⟩ : Uuid).text = none := by
  obtain ⟨outcome, events', s', ran, closes⟩ := exists_closed (d := fadedBowls) ⟨rfl, rfl⟩ rfl rfl 2
  have statuses : (fadedBowls.processOutbox 2).2.events.map (List.map Event.status) = some [.failed, .done] := rfl
  rw [ran] at statuses
  have statuses : events'.map Event.status = [.failed, .done] := Option.some.inj statuses
  have silent {u : Uuid} : ∀ e ∈ [Event.ofFacility (.uuid ⟨2⟩) .upserted, .ofFacility (.uuid ⟨3⟩) .upserted],
      ¬ e.Asks .deleted u := by
    intro e member asks
    simp only [List.mem_cons, List.not_mem_nil, or_false] at member
    rcases member with rfl | rfl <;> cases asks.known
  cases closes with
  | cons first closes =>
    cases closes with
    | cons second closes =>
      cases closes
      simp only [List.map_cons, List.map_nil, List.cons.injEq, and_true] at statuses
      obtain ⟨_, _, kept⟩ := first ⟨2⟩ rfl (Outbox.asks_ofFacility _ _) (.inr statuses.1)
      obtain ⟨_, _, gone⟩ := second ⟨3⟩ rfl (Outbox.asks_ofFacility _ _) (.inl statuses.2)
      exact ⟨outcome, _, s', ran, by simp [statuses], (kept silent).trans rfl, (gone silent).trans rfl⟩

/-- A facility that has lost its coordinates is still found by its older document, though its event has been
closed. -/
theorem processOutbox_fadedBowls :
    (∃ fault, wanted fadedBowls.tables ⟨2⟩ = .error fault) ∧
      (fadedBowls.processOutbox 2).2.events.map (List.map Event.status) = some [.failed, .done] ∧
      (fadedBowls.processOutbox 2).2.server.document? "venue_facilities" (⟨2⟩ : Uuid).text = some oldDocument := by
  refine ⟨⟨_, rfl⟩, ?_, ?_⟩
  · rfl
  · rfl

end Deployment
end Venues
