import Venues.Proofs.Index.Spelling
import Venues.Proofs.Outbox.Batch
import Venues.Proofs.Outbox.Emission

/-! # Convergence

As long as the rows do not change, events may be processed in any order and any number of times: each of
them brings the document of its facility in line with the row, and what was in line stays so. It matters
only which facilities are named.
-/

namespace Venues

open Index (Server Gateway inLine)
open Store (Tables)

/-! ## What events ask for -/

namespace Outbox

variable {σ : Type} {b : Backends σ} {g : Gateway} {e : Event} {kind : EventKind} {u : Uuid}

theorem judge_eq (asks : e.Asks kind u) (s : σ) : judge b g e s = carryOut b g kind u s := by
  obtain ⟨fs, name, payload, text, read⟩ := asks.named
  have facility : e.namedFacility = .ok (.text name) := by simp only [Event.namedFacility, payload, text]
  have present : (Value.text name).truthy = true := by
    by_cases empty : name = ""
    · subst empty
      cases read
    · simp [Value.truthy, empty]
  unfold judge
  simp only [facility, present, Bool.not_true, Bool.false_eq_true, if_false, read, asks.known]

/-- Whether one of some events names a facility. -/
def Names (events : List Event) (u : Uuid) : Prop := ∃ e ∈ events, ∃ kind, e.Asks kind u

theorem names_cons {events : List Event} (asks : e.Asks kind u) (v : Uuid) :
    v = u ∨ Names events v ↔ Names (e :: events) v := by
  constructor
  · rintro (rfl | ⟨e', member, asks'⟩)
    · exact ⟨e, List.mem_cons_self, kind, asks⟩
    · exact ⟨e', List.mem_cons_of_mem _ member, asks'⟩
  · rintro ⟨e', member, kind', asks'⟩
    rcases List.mem_cons.mp member with rfl | member
    · exact .inl (asks.unique asks')
    · exact .inr ⟨e', member, kind', asks'⟩

end Outbox

/-! ## Documents in line -/

namespace Index

variable {t : Tables} {u : Uuid} {name : String} {s s' s'' : Server} {named named' : Uuid → Prop}

theorem inLine_inLine {document? : Option Value} : inLine t u (inLine t u document?) = inLine t u document? := by
  unfold inLine
  cases t.facility? u with
  | none => rfl
  | some f =>
    dsimp only
    split
    · cases project f (t.courtsOf f) <;> rfl
    · rfl

/-- Whether the documents of some facilities have been brought in line in one of the indexes of a server,
and nothing else has changed. -/
structure Server.Aligns (t : Tables) (name : String) (s s' : Server) (named : Uuid → Prop) : Prop where
  inLine : ∀ u, named u → s'.document? name u.text = inLine t u (s.document? name u.text)
  others : ∀ id, (∀ u, named u → u.text ≠ id) → s'.document? name id = s.document? name id
  indexes : ∀ other ≠ name, s'.index? other = s.index? other

namespace Server

theorem aligns_none : s.Aligns t name s fun _ => False where
  inLine _ none := none.elim
  others _ _ := rfl
  indexes _ _ := rfl

theorem Sets.aligns (sets : s.Sets s' name u.text (inLine t u (s.document? name u.text))) :
    s.Aligns t name s' (· = u) where
  inLine v same := by
    subst same
    rw [sets.held, if_pos rfl]
  others id other := by rw [sets.held, if_neg fun same => other u rfl same.symm]
  indexes := sets.others

theorem Aligns.congr (aligns : s.Aligns t name s' named) (same : ∀ u, named u ↔ named' u) :
    s.Aligns t name s' named' where
  inLine u is := aligns.inLine u ((same u).mpr is)
  others id other := aligns.others id fun u is => other u ((same u).mp is)
  indexes := aligns.indexes

/-- What is in line stays so while other documents, or the same ones once more, are brought in line. -/
theorem Aligns.trans (first : s.Aligns t name s' named) (second : s'.Aligns t name s'' named') :
    s.Aligns t name s'' fun u => named u ∨ named' u where
  inLine u is := by
    have apart {named : Uuid → Prop} (absent : ¬ named u) : ∀ v, named v → v.text ≠ u.text :=
      fun v there same => absent (Uuid.text_injective same ▸ there)
    by_cases later : named' u
    · rw [second.inLine u later]
      by_cases before : named u
      · rw [first.inLine u before, inLine_inLine]
      · rw [first.others _ (apart before)]
    · rw [second.others _ (apart later), first.inLine u (is.resolve_right later)]
  others id other := by
    rw [second.others id fun u is => other u (.inr is), first.others id fun u is => other u (.inl is)]
  indexes other different := by rw [second.indexes other different, first.indexes other different]

theorem Aligns.unique (one : s.Aligns t name s' named) (other : s.Aligns t name s'' named) (id : String) :
    s''.document? name id = s'.document? name id := by
  by_cases there : ∃ u, named u ∧ u.text = id
  · obtain ⟨u, is, rfl⟩ := there
    rw [one.inLine u is, other.inLine u is]
  · have apart : ∀ u, named u → u.text ≠ id := fun u is same => there ⟨u, is, same⟩
    rw [one.others id apart, other.others id apart]

end Server
end Index

/-! ## Processing events -/

namespace Deployment

open Outbox (Event EventKind Verdict judge Names)

variable {d : Deployment} {server : Server} {e : Event} {kind : EventKind} {u : Uuid}

/-- Whether a deployment can do what events ask for: all calls succeed, no table is lost, and the facilities
that are said to be deleted are gone. -/
structure Suits (d : Deployment) (events : List Event) : Prop where
  calm : d.IsCalm
  present : d.tables.lost = []
  asks : ∀ e ∈ events, ∃ kind u, e.Asks kind u ∧ (kind = .deleted → d.tables.facility? u = none)

/-- An event that tells of a change brings the document of its facility in line. -/
theorem exists_judged_upserted (calm : d.IsCalm) (present : d.tables.lost = []) (asks : e.Asks .upserted u) :
    ∃ s', judge backends d.gateway e d =
        (match Index.wanted d.tables u with
          | .ok _ => .ok .done
          | .error fault => Outbox.verdictOf fault, { d with server := s' }) ∧
      d.server.Sets s' d.gateway.index u.text
        (inLine d.tables u (d.server.document? d.gateway.index u.text)) := by
  obtain ⟨s', indexed, sets⟩ := exists_inLine calm present u
  refine ⟨s', ?_, sets⟩
  rw [Outbox.judge_eq asks, Outbox.carryOut]
  have indexed : Index.indexOne backends d.gateway (.uuid u) d = _ := indexed
  simp only [indexed]
  cases Index.wanted d.tables u <;> rfl

/-- An event that tells of a deletion removes the document of its facility. -/
theorem judge_deleted (calm : d.IsCalm) (asks : e.Asks .deleted u) : judge backends d.gateway e d =
    (.ok .done, { d with server := (d.server.remove d.gateway.index u.text).2 }) := by
  have removed : (d.gateway.remove u.text).run backends.client d =
      (.ok (), { d with server := (d.server.remove d.gateway.index u.text).2 }) := by
    show Exchange.run client _ d = _
    rw [calm.run_eq, Server.run_remove]
  rw [Outbox.judge_eq asks, Outbox.carryOut]
  simp only [removed]

/-- Processing an event brings the document of its facility in line. If it is clear what the index is to hold,
the event is done; if the facility is refused for a reason of its own, no other attempt is made. -/
theorem exists_judged (calm : d.IsCalm) (present : d.tables.lost = []) (asks : e.Asks kind u)
    (gone : kind = .deleted → d.tables.facility? u = none) :
    ∃ outcome s', judge backends d.gateway e d = (outcome, { d with server := s' }) ∧
      d.server.Aligns d.tables d.gateway.index s' (· = u) ∧
      (∀ v, Index.wanted d.tables u = .ok v → outcome = .ok .done) ∧
      (Index.Projects d.tables u → ∃ verdict, outcome = .ok verdict ∧
        ∀ reason retry, verdict = .failed reason retry → retry = false) := by
  cases kind with
  | upserted =>
    obtain ⟨s', judged, sets⟩ := exists_judged_upserted calm present asks
    rw [judged]
    cases wants : Index.wanted d.tables u with
    | ok document? => exact ⟨_, s', rfl, sets.aligns, fun _ _ => rfl, fun _ => ⟨.done, rfl, nofun⟩⟩
    | error fault =>
      refine ⟨_, s', rfl, sets.aligns, nofun, fun projects => ?_⟩
      obtain ⟨reason, rfl⟩ := projects.of_wanted wants
      exact ⟨_, rfl, fun _ _ failed => by cases failed; rfl⟩
  | deleted =>
    -- what is gone from the rows is to be gone from the index
    have absent : inLine d.tables u (d.server.document? d.gateway.index u.text) = none := by
      rw [inLine, gone rfl]
    rw [judge_deleted calm asks]
    refine ⟨_, _, rfl, Server.Sets.aligns ?_, fun _ _ => rfl, fun _ => ⟨.done, rfl, nofun⟩⟩
    rw [absent]
    exact Server.sets_remove

/-- Processing events one after the other brings in line the documents of all facilities that they name. -/
theorem Suits.exists_processed {events : List Event} (suits : d.Suits events) (server : Server) :
    ∃ s', events.foldl (fun d' e => (judge backends d.gateway e d').2) { d with server := server } =
        { d with server := s' } ∧
      server.Aligns d.tables d.gateway.index s' (Names events) := by
  obtain ⟨calm, present, asks⟩ := suits
  induction events generalizing server with
  | nil => exact ⟨server, rfl, Server.aligns_none.congr fun u => by simp [Names]⟩
  | cons e events ih =>
    obtain ⟨⟨kind, u, first, gone⟩, others⟩ := List.forall_mem_cons.mp asks
    obtain ⟨outcome, s', judged, aligns, _⟩ :=
      exists_judged (d := { d with server := server }) ⟨calm.enabled, calm.failing⟩ present first gone
    obtain ⟨s'', ran, aligns'⟩ := ih s' others
    refine ⟨s'', ?_, (aligns.trans aligns').congr (Outbox.names_cons first)⟩
    have judged : judge backends d.gateway e { d with server := server } = (outcome, { d with server := s' }) :=
      judged
    rw [List.foldl_cons, judged]
    exact ran

/-- Whether a deployment shows documents in the index of another one, and else has the same indexes. -/
structure Presents (d d' : Deployment) (documents : String → Option Value) : Prop where
  held : ∀ id, d'.server.document? d.gateway.index id = documents id
  others : ∀ other ≠ d.gateway.index, d'.server.index? other = d.server.index? other

theorem processOutbox_eq {events events' : List Event} {limit : Int} {outcome : Outcome Outbox.BatchStats}
    {d' : Deployment} (enabled : d.settings.indexEnabled = true) (there : d.events = some events)
    (short : isShort limit = true)
    (ran : Outbox.workOff backends d.gateway d.terms (Outbox.budgetOf limit) {} events d =
      ((outcome, events'), d')) :
    d.processOutbox limit = (outcome, { d' with events := some events' }) := by
  have batch : Outbox.processBatch backends d.gateway d.terms limit events d = ((outcome, events'), d') := by
    have enabled : d.gateway.settings.indexEnabled = true := enabled
    simp only [Outbox.processBatch, enabled, short, Bool.not_true, Bool.false_eq_true, if_false, ran]
  have found : d.theEvents = .ok events := by rw [theEvents, there]
  simp only [processOutbox, enabled, Bool.not_true, Bool.false_eq_true, if_false, found, batch]

/-- A batch that may take all events processes them all. -/
theorem Suits.exists_batch {events : List Event} (suits : d.Suits events)
    (projects : ∀ u, Names events u → Index.Projects d.tables u)
    (due : ∀ e ∈ events, e.isDue d.now = true) (short : ∀ e ∈ events, isShort (e.retries + 1) = true) {limit : Int}
    (shortLimit : isShort limit = true) (fits : 0 ≤ limit → (events.length : Int) ≤ limit) :
    ∃ stats s' events', ({ d with events := some events } : Deployment).processOutbox limit =
        (.ok stats, { d with server := s', events := some events' }) ∧ stats.processed = events.length ∧
      d.server.Aligns d.tables d.gateway.index s' (Names events) := by
  let start : Deployment := { d with events := some events }
  have calm : start.IsCalm := ⟨suits.calm.enabled, suits.calm.failing⟩
  have suits' : start.Suits events := ⟨calm, suits.present, suits.asks⟩
  obtain ⟨s', ran, aligns⟩ := suits'.exists_processed start.server
  -- processing an event changes nothing but the server, so the events that follow suit as before
  have each : ∀ e ∈ events, ∀ d' : Deployment, (∃ server, d' = { start with server := server }) →
      ∃ verdict d'' e', judge backends start.gateway e d' = (.ok verdict, d'') ∧
        (∃ server, d'' = { start with server := server }) ∧
        e.conclude start.now start.settings.outboxRetries verdict = .ok e' := by
    rintro e member d' ⟨server, rfl⟩
    obtain ⟨kind, u, asks, gone⟩ := suits.asks e member
    obtain ⟨outcome, s'', judged, _, _, verdicts⟩ := exists_judged (d := { start with server := server })
      ⟨calm.enabled, calm.failing⟩ suits.present asks gone
    obtain ⟨verdict, rfl, last⟩ := verdicts (projects u ⟨e, member, kind, asks⟩)
    obtain ⟨e', concluded⟩ := Outbox.exists_conclude (short e member) last
    exact ⟨verdict, { start with server := s'' }, e', judged, ⟨s'', rfl⟩, concluded⟩
  have budget : ∀ n ∈ Outbox.budgetOf limit, events.length ≤ n := by
    intro n member
    unfold Outbox.budgetOf at member
    split at member
    · cases member
    · cases member
      omega
  obtain ⟨stats, events', worked, processed⟩ := Outbox.exists_workOff start.terms due each budget {}
    ⟨start.server, rfl⟩
  have worked' : Outbox.workOff backends start.gateway start.terms (Outbox.budgetOf limit) {} events start =
      ((.ok stats, events'), { start with server := s' }) := worked.trans (congrArg _ ran)
  exact ⟨stats, s', events', processOutbox_eq calm.enabled rfl shortLimit worked', by simpa using processed, aligns⟩

/-- What becomes of the index depends on the facilities that events name, and on the rows, but not on the
order of the events or on how often one is processed, be it one by one or in a batch that may take them all.
A named facility that is to be found has the document of its row; if the row has none, what was there is
there still. One that is not to be found, or has no row, has no document, and nothing else is touched. -/
theorem Suits.converges {events : List Event} (suits : d.Suits events) :
    ∃ documents : String → Option Value,
      (∀ u, Names events u → ∀ f, d.tables.facility? u = some f → f.isIndexable = true →
        ∀ document, project f (d.tables.courtsOf f) = .ok document → documents u.text = some document.source) ∧
      (∀ u, Names events u → (∀ f, d.tables.facility? u = some f → f.isIndexable = false) →
        documents u.text = none) ∧
      (∀ u, Names events u → ∀ f, d.tables.facility? u = some f → f.isIndexable = true →
        ∀ fault, project f (d.tables.courtsOf f) = .error fault →
          documents u.text = d.server.document? d.gateway.index u.text) ∧
      (∀ id, (∀ u, Names events u → u.text ≠ id) → documents id = d.server.document? d.gateway.index id) ∧
      ∀ order : List Event, (∀ e, e ∈ order ↔ e ∈ events) →
        d.Presents (order.foldl (fun d' e => (judge backends d.gateway e d').2) d) documents ∧
        ((∀ u, Names events u → Index.Projects d.tables u) →
          (∀ e ∈ order, e.isDue d.now = true ∧ isShort (e.retries + 1) = true) →
          ∀ limit, isShort limit = true → (0 ≤ limit → (order.length : Int) ≤ limit) →
            ∃ stats d', ({ d with events := some order } : Deployment).processOutbox limit = (.ok stats, d') ∧
              stats.processed = order.length ∧ d.Presents d' documents) := by
  obtain ⟨s', _, aligns⟩ := suits.exists_processed d.server
  refine ⟨s'.document? d.gateway.index, fun u is f found indexable document made => ?_,
    fun u is hidden => ?_, fun u is f found indexable fault failed => ?_, aligns.others, fun order same => ?_⟩
  · simp only [aligns.inLine u is, inLine, found, indexable, if_true, made]
  · rw [aligns.inLine u is, inLine]
    split
    · rename_i f found
      rw [hidden f found]
      rfl
    · rfl
  · simp only [aligns.inLine u is, inLine, found, indexable, if_true, failed]
  · have suits' : d.Suits order := ⟨suits.calm, suits.present, fun e member => suits.asks e ((same e).mp member)⟩
    have named : ∀ u, Names order u ↔ Names events u := fun u => by simp only [Names, same]
    -- two servers that are in line with the same rows for the same facilities hold the same documents
    have presents {d' : Deployment} (aligns' : d.server.Aligns d.tables d.gateway.index d'.server (Names order)) :
        d.Presents d' (s'.document? d.gateway.index) :=
      ⟨fun id => aligns.unique (aligns'.congr named) id, aligns'.indexes⟩
    constructor
    · obtain ⟨s'', ran, aligns'⟩ := suits'.exists_processed d.server
      exact presents (by rw [show order.foldl _ d = _ from ran]; exact aligns')
    · intro projects ready limit short fits
      obtain ⟨stats, s'', events', processed, all, aligns'⟩ := suits'.exists_batch
        (fun u is => projects u ((named u).mp is)) (fun e member => (ready e member).1)
        (fun e member => (ready e member).2) short fits
      exact ⟨stats, _, processed, all, presents aligns'⟩

/-- A published facility, with coordinates or without them. -/
def bowl (id : Fin (2 ^ 128)) (coordinate : Option Float) : Facility :=
  { (default : Facility) with
    id := ⟨id⟩, name := some "bowl", slug := some "bowl", latitude := coordinate, longitude := coordinate
    isPublished := some true, createdAt := some ⟨0, none⟩, updatedAt := some ⟨0, none⟩ }

/-- A deployment with a facility of each kind, whose index has yet to be written. -/
def bowls : Deployment where
  settings := {}
  now := 0
  tables := { facilities := [bowl 1 (some 0), bowl 2 none] }

/-- Events about both of them, and about a facility that is gone. -/
def errands : List Event :=
  [.ofFacility (.uuid ⟨1⟩) .upserted, .ofFacility (.uuid ⟨3⟩) .deleted, .ofFacility (.uuid ⟨2⟩) .upserted]

/-- Whatever their order, the first facility has a document in the end, and the others have none. -/
theorem Suits.converges_bowls : bowls.Suits errands ∧ ∃ documents : String → Option Value,
    (documents (⟨1⟩ : Uuid).text).isSome = true ∧ documents (⟨2⟩ : Uuid).text = none ∧
      documents (⟨3⟩ : Uuid).text = none ∧
      bowls.Presents (errands.reverse.foldl (fun d' e => (judge backends bowls.gateway e d').2) bowls) documents := by
  have courts (f : Facility) : bowls.tables.courtsOf f = [] := by simp [Tables.courtsOf, bowls]
  obtain ⟨document, made⟩ : ∃ document, project (bowl 1 (some 0)) (bowls.tables.courtsOf (bowl 1 (some 0))) =
      .ok document := by
    rw [courts]
    exact ⟨_, by with_unfolding_all rfl⟩
  have first : bowls.tables.facility? ⟨1⟩ = some (bowl 1 (some 0)) := rfl
  have second : bowls.tables.facility? ⟨2⟩ = some (bowl 2 none) := rfl
  have third : bowls.tables.facility? ⟨3⟩ = none := rfl
  have refused : project (bowl 2 none) (bowls.tables.courtsOf (bowl 2 none)) =
      .error (.projection (.noCoordinates ⟨2⟩)) := rfl
  have named (kind : EventKind) {u : Uuid} (member : Event.ofFacility (.uuid u) kind ∈ errands) : Names errands u :=
    ⟨_, member, kind, Outbox.asks_ofFacility kind u⟩
  have suits : bowls.Suits errands := by
    refine ⟨⟨rfl, rfl⟩, rfl, ?_⟩
    simp only [errands, List.forall_mem_cons, List.not_mem_nil, false_implies, implies_true, and_true]
    exact ⟨⟨_, _, Outbox.asks_ofFacility _ _, nofun⟩, ⟨_, _, Outbox.asks_ofFacility _ _, fun _ => third⟩,
      ⟨_, _, Outbox.asks_ofFacility _ _, nofun⟩⟩
  obtain ⟨documents, shown, absent, kept, _, orders⟩ := suits.converges
  refine ⟨suits, documents, ?_, ?_, ?_, (orders errands.reverse (by simp)).1⟩
  · rw [shown ⟨1⟩ (named .upserted (by simp [errands])) _ first rfl document made]
    rfl
  · rw [kept ⟨2⟩ (named .upserted (by simp [errands])) _ second rfl _ refused]
    rfl
  · exact absent ⟨3⟩ (named .deleted (by simp [errands])) fun f found => by cases third.symm.trans found

end Deployment
end Venues
