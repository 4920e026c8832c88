import Venues.Outbox.Worker
import Venues.Proofs.Index.Sync

/-! # What a batch does to events

A batch takes the events that are due, the oldest first, up to its limit. Each one that it takes is done,
has failed for good, or is pending again with a later moment at which it is due. All others are left as
they are, and the numbers that are told of a batch are those of the events that it took.
-/

namespace Venues.Outbox

open Index (Gateway)

variable {σ : Type} {b : Backends σ} {g : Gateway} {s : σ} {e e' : Event} {fault : Fault}

/-! ## Verdicts -/

/-- Whether the payload of an event has a text where it is to name a facility. -/
def Event.NamesText (e : Event) : Prop :=
  ∃ fs name, e.payload = .object fs ∧ Fields.get fs "facility_id" = .text name

/-- Whether the payload of an event has something else there that counts as true, or is no object at all
without being empty. -/
def Event.Blocks (e : Event) : Prop :=
  match e.payload with
  | .object fs =>
    (Fields.get fs "facility_id").truthy = true ∧ ∀ name, Fields.get fs "facility_id" ≠ .text name
  | v => v.truthy = true

theorem Event.NamesText.not_blocks (named : e.NamesText) : ¬ e.Blocks := by
  obtain ⟨fs, name, payload, text⟩ := named
  simp only [Event.Blocks, payload, not_and, not_forall, not_not]
  exact fun _ => ⟨name, text⟩

/-- A payload is an object with a value that is to name a facility, or there is no such value. -/
theorem Event.payload_cases (e : Event) :
    (∃ v, e.namedFacility = .ok v ∧ (e.Blocks ↔ v.truthy = true ∧ ∀ name, v ≠ .text name)) ∨
      (e.namedFacility = (if e.payload.truthy then .error .missingAttribute else .ok .null) ∧
        (e.Blocks ↔ e.payload.truthy = true)) := by
  unfold Event.Blocks Event.namedFacility
  cases e.payload with
  | object fs => exact .inl ⟨_, rfl, Iff.rfl⟩
  | _ => exact .inr ⟨rfl, Iff.rfl⟩

/-- What an event names that does not block: nothing, or a text. -/
theorem Event.exists_namedFacility (sound : ¬ e.Blocks) :
    ∃ v, e.namedFacility = .ok v ∧ (v.truthy = false ∨ ∃ name, v = .text name) := by
  rcases e.payload_cases with ⟨v, named, blocks⟩ | ⟨named, blocks⟩
  · refine ⟨v, named, ?_⟩
    rw [blocks, not_and, not_forall] at sound
    cases given : v.truthy with
    | false => exact .inl rfl
    | true => exact .inr ((sound given).imp fun _ => not_not.mp)
  · rw [blocks] at sound
    exact ⟨.null, by rw [named, if_neg sound], .inl rfl⟩

/-- There is no verdict on an event that blocks. -/
theorem judge_of_blocks (blocks : e.Blocks) : judge b g e s = (.error .missingAttribute, s) := by
  unfold judge
  rcases e.payload_cases with ⟨v, named, iff⟩ | ⟨named, iff⟩
  · obtain ⟨given, other⟩ := iff.mp blocks
    rw [named]
    dsimp only
    rw [given, Bool.not_true, if_neg Bool.false_ne_true]
    cases v with
    | text name => exact absurd rfl (other name)
    | _ => rfl
  · rw [named, if_pos (iff.mp blocks)]

theorem verdictOf_of_isReported (reported : fault.IsReported) :
    ∃ reason retry, verdictOf fault = .ok (.failed reason retry) := by
  obtain ⟨r, report⟩ := reported
  unfold verdictOf
  split
  · exact ⟨_, _, rfl⟩
  · rw [report]
    exact ⟨_, _, rfl⟩

theorem exists_carryOut (ordinary : b.IsOrdinary) (kind : EventKind) (id : Uuid) :
    ∃ verdict, (carryOut b g kind id s).1 = .ok verdict := by
  cases kind with
  | upserted =>
    unfold carryOut
    dsimp only
    split
    · exact ⟨_, rfl⟩
    · rename_i fault s' ran
      obtain ⟨reason, retry, verdict⟩ := verdictOf_of_isReported
        (Index.isReported_of_indexOne ordinary (congrArg Prod.fst ran))
      exact ⟨_, verdict⟩
  | deleted =>
    unfold carryOut
    dsimp only
    split
    · exact ⟨_, rfl⟩
    · rename_i fault s' ran
      obtain ⟨reason, retry, verdict⟩ := verdictOf_of_isReported
        (Index.reports_remove ordinary id.text s fault (congrArg Prod.fst ran))
      exact ⟨_, verdict⟩

/-- With ordinary backends there is a verdict on every event that does not block, whatever it asks for. -/
theorem exists_verdict (ordinary : b.IsOrdinary) (sound : ¬ e.Blocks) :
    ∃ verdict, (judge b g e s).1 = .ok verdict := by
  obtain ⟨v, named, given⟩ := e.exists_namedFacility sound
  unfold judge
  rw [named]
  dsimp only
  rcases given with none | ⟨name, rfl⟩
  · rw [none, Bool.not_false, if_pos rfl]
    exact ⟨_, rfl⟩
  · dsimp only
    split
    · exact ⟨_, rfl⟩
    · split
      · exact ⟨_, rfl⟩
      · split
        · exact exists_carryOut ordinary _ _
        · exact ⟨_, rfl⟩

/-! ## How events end -/

/-- How an event ends that was processed: it is done, or it has failed once more, for good or to be tried
again at a later moment. -/
inductive Ends (terms : Terms) (e : Event) : Event → Prop
  | done : Ends terms e { e with status := .done }
  | failed (reason : String) :
      Ends terms e { e with status := .failed, lastError := some reason, retries := e.retries + 1 }
  | again (reason : String) (dueAt : Int) :
      e.retries + 1 < terms.maxFailures → terms.now + minute ≤ dueAt → Timestamp.inRange dueAt = true →
      Ends terms e { e with
        status := .pending, lastError := some reason, retries := e.retries + 1, dueAt := some dueAt }

/-- Whether all that a failure says of an event can be written down: the number of failures has at most 64
bits, and every delay ends in a year that a clock can show. -/
structure Event.HasRoom (terms : Terms) (e : Event) : Prop where
  counted : 0 ≤ e.retries
  short : isShort (e.retries + 1) = true
  lasting : e.retries + 1 < terms.maxFailures →
    Timestamp.inRange (terms.now + delay (e.retries + 1)) = true

theorem minute_le_delay {failures : Int} (counted : 0 ≤ failures) : minute ≤ delay failures := by
  unfold delay
  split
  · decide
  · exact Nat.le_mul_of_pos_left _ (Nat.two_pow_pos _)

/-- The verdict on an event with room ends it, and it is done if that is the verdict. -/
theorem ends_conclude {terms : Terms} (room : e.HasRoom terms) (verdict : Verdict) :
    ∃ e', e.conclude terms.now terms.maxFailures verdict = .ok e' ∧ Ends terms e e' ∧
      (e'.status = .done ↔ verdict = .done) := by
  cases verdict with
  | done => exact ⟨_, rfl, .done, by simp⟩
  | failed reason retry =>
    unfold Event.conclude Event.fail
    simp only [room.short, Bool.not_true, Bool.false_eq_true, if_false]
    by_cases again : retry = true ∧ e.retries + 1 < terms.maxFailures
    · have later := minute_le_delay (Int.le_trans room.counted (Int.le_add_one (Int.le_refl _)))
      rw [if_pos again, if_pos (room.lasting again.2)]
      exact ⟨_, rfl, .again _ _ again.2 (by omega) (room.lasting again.2), by simp⟩
    · rw [if_neg again]
      exact ⟨_, rfl, .failed _, by simp⟩

/-- A verdict that allows no other attempt ends an event whose failures can be counted. -/
theorem exists_conclude {now maxFailures : Int} {verdict : Verdict} (short : isShort (e.retries + 1) = true)
    (last : ∀ reason retry, verdict = .failed reason retry → retry = false) :
    ∃ e', e.conclude now maxFailures verdict = .ok e' := by
  cases verdict with
  | done => exact ⟨_, rfl⟩
  | failed reason retry =>
    rw [last reason retry rfl]
    unfold Event.conclude Event.fail
    simp only [short, Bool.not_true, Bool.false_eq_true, if_false, false_and]
    exact ⟨_, rfl⟩

/-! ## Batches -/

/-- Which of some events a batch takes: those that are due, until the budget is spent. -/
def taken (now : Int) : Option Nat → List Event → List Bool
  | _, [] => []
  | some 0, events => events.map fun _ => false
  | budget, e :: events =>
    if e.isDue now then true :: taken now (budget.map (· - 1)) events else false :: taken now budget events

theorem taken_nil (now : Int) (budget : Option Nat) : taken now budget [] = [] := by
  unfold taken
  rfl

theorem taken_cons {now : Int} {budget : Option Nat} {events : List Event} (left : budget ≠ some 0) :
    taken now budget (e :: events) =
      if e.isDue now then true :: taken now (budget.map (· - 1)) events else false :: taken now budget events := by
  rw [taken]
  exact left

/-- How events stand before and after a batch that took some of them. -/
inductive Settles (terms : Terms) : List Bool → List Event → List Event → Prop
  | nil : Settles terms [] [] []
  | took {e e' : Event} {marks : List Bool} {events events' : List Event} :
      e.isDue terms.now = true → Ends terms e e' → Settles terms marks events events' →
      Settles terms (true :: marks) (e :: events) (e' :: events')
  | left {e : Event} {marks : List Bool} {events events' : List Event} :
      Settles terms marks events events' → Settles terms (false :: marks) (e :: events) (e :: events')

theorem settles_left (terms : Terms) (events : List Event) :
    Settles terms (events.map fun _ => false) events events := by
  induction events with
  | nil => exact .nil
  | cons e events ih => exact .left ih

/-- A batch takes no more events than its budget. -/
theorem count_taken_le (now : Int) (budget : Nat) (events : List Event) :
    (taken now (some budget) events).count true ≤ budget := by
  induction events generalizing budget with
  | nil => simp [taken_nil]
  | cons e events ih =>
    cases budget with
    | zero => simp [taken, List.count_replicate]
    | succ budget =>
      rw [taken_cons (by simp)]
      split
      · rw [List.count_cons_self]
        exact Nat.succ_le_succ (ih budget)
      · rw [List.count_cons_of_ne Bool.false_ne_true]
        exact ih (budget + 1)

/-- Each event that there was stands where it stood: as it was, or as it has ended. -/
theorem Settles.getElem? {terms : Terms} {marks : List Bool} {events events' : List Event}
    (settles : Settles terms marks events events') {i : Nat} (at_i : events[i]? = some e) :
    ∃ e', events'[i]? = some e' ∧
      (marks[i]? = some true ∧ e.isDue terms.now = true ∧ Ends terms e e' ∨ marks[i]? = some false ∧ e' = e) := by
  induction settles generalizing i with
  | nil => cases at_i
  | took due ends _ ih =>
    cases i with
    | zero =>
      cases at_i
      exact ⟨_, rfl, .inl ⟨rfl, due, ends⟩⟩
    | succ i => exact ih at_i
  | left _ ih =>
    cases i with
    | zero =>
      cases at_i
      exact ⟨_, rfl, .inr ⟨rfl, rfl⟩⟩
    | succ i => exact ih at_i

theorem Settles.length_eq {terms : Terms} {marks : List Bool} {events events' : List Event}
    (settles : Settles terms marks events events') :
    marks.length = events.length ∧ events'.length = events.length := by
  induction settles with
  | nil => exact ⟨rfl, rfl⟩
  | took _ _ _ ih => exact ⟨congrArg Nat.succ ih.1, congrArg Nat.succ ih.2⟩
  | left _ ih => exact ⟨congrArg Nat.succ ih.1, congrArg Nat.succ ih.2⟩

/-- How many of the events that a batch took are done. -/
def countDone (marks : List Bool) (events : List Event) : Nat :=
  (marks.zip events).countP fun p => p.1 && p.2.status == .done

/-- What numbers say of a batch, beside what they said before it. -/
structure BatchStats.Tells (stats stats' : BatchStats) (marks : List Bool) (events' : List Event) : Prop where
  processed : stats'.processed = stats.processed + marks.count true
  done : stats'.done = stats.done + countDone marks events'
  balanced : stats'.processed + (stats.done + stats.failed) = stats.processed + (stats'.done + stats'.failed)

theorem BatchStats.tells_left (stats : BatchStats) (events : List Event) :
    stats.Tells stats (events.map fun _ => false) events where
  processed := by simp [List.count_eq_zero]
  done := by
    have none : countDone (events.map fun _ => false) events = 0 := by
      induction events with
      | nil => rfl
      | cons e events ih => simpa [countDone] using ih
    rw [none]
    rfl
  balanced := rfl

theorem BatchStats.Tells.took {stats stats' : BatchStats} {verdict : Verdict} {marks : List Bool}
    {events' : List Event} (tells : (stats.count verdict).Tells stats' marks events')
    (done : e'.status = .done ↔ verdict = .done) : stats.Tells stats' (true :: marks) (e' :: events') where
  processed := by
    have processed : (stats.count verdict).processed = stats.processed + 1 := by cases verdict <;> rfl
    rw [tells.processed, processed, List.count_cons_self]
    omega
  done := by
    rw [tells.done]
    cases verdict with
    | done =>
      have isDone : e'.status = .done := done.mpr rfl
      simp [count, countDone, isDone]
      omega
    | failed reason retry =>
      have isOther : e'.status ≠ .done := by simp [done]
      simp [count, countDone, isOther]
  balanced := by
    have balanced := tells.balanced
    cases verdict <;> simp only [count] at balanced <;> omega

theorem BatchStats.Tells.left {stats stats' : BatchStats} {marks : List Bool} {events' : List Event}
    (tells : stats.Tells stats' marks events') : stats.Tells stats' (false :: marks) (e :: events') where
  processed := by simpa using tells.processed
  done := by simpa [countDone] using tells.done
  balanced := tells.balanced

/-- How events stand after a batch that broke off at an event that blocks: those that it took before have
ended, and that one is left in the middle of its processing. -/
inductive BreaksOff (terms : Terms) : List Bool → List Event → List Event → Prop
  | blocked {e : Event} {marks : List Bool} {events : List Event} :
      e.isDue terms.now = true → e.Blocks →
      BreaksOff terms (true :: marks) (e :: events) ({ e with status := .processing } :: events)
  | took {e e' : Event} {marks : List Bool} {events events' : List Event} :
      e.isDue terms.now = true → Ends terms e e' → BreaksOff terms marks events events' →
      BreaksOff terms (true :: marks) (e :: events) (e' :: events')
  | left {e : Event} {marks : List Bool} {events events' : List Event} :
      BreaksOff terms marks events events' → BreaksOff terms (false :: marks) (e :: events) (e :: events')

/-- Whether none of the events that a batch takes blocks. -/
def Clear (marks : List Bool) (events : List Event) : Prop :=
  ∀ p ∈ marks.zip events, p.1 = true → ¬ p.2.Blocks

theorem clear_left (events : List Event) : Clear (events.map fun _ => false) events := by
  intro p member took
  obtain ⟨e, _, mark⟩ := List.mem_map.mp (List.of_mem_zip member).1
  rw [took] at mark
  cases mark

/-- With ordinary backends a batch of events that have room ends and settles them, or it breaks off at the
first event that it takes and that blocks. -/
theorem workOff_spec (ordinary : b.IsOrdinary) {terms : Terms} {events : List Event}
    (room : ∀ e ∈ events, e.isDue terms.now = true → e.HasRoom terms) (budget : Option Nat) (stats : BatchStats)
    (s : σ) : ∃ outcome events' s', workOff b g terms budget stats events s = ((outcome, events'), s') ∧
      ((∃ stats', outcome = .ok stats' ∧ Clear (taken terms.now budget events) events ∧
          Settles terms (taken terms.now budget events) events events' ∧
          stats.Tells stats' (taken terms.now budget events) events') ∨
        outcome = .error .missingAttribute ∧ BreaksOff terms (taken terms.now budget events) events events') := by
  -- event by event: one that is taken and does not block is judged, concluded and counted before the next
  induction events generalizing budget stats s with
  | nil =>
    rw [taken_nil]
    exact ⟨.ok stats, [], s, by unfold workOff; rfl,
      .inl ⟨stats, rfl, by simp [Clear], .nil, stats.tells_left []⟩⟩
  | cons e events ih =>
    obtain ⟨first, others⟩ := List.forall_mem_cons.mp room
    by_cases spent : budget = some 0
    · subst spent
      exact ⟨.ok stats, e :: events, s, rfl,
        .inl ⟨stats, rfl, clear_left (e :: events), settles_left terms _, stats.tells_left _⟩⟩
    by_cases due : e.isDue terms.now = true
    · rw [taken_cons spent, if_pos due]
      -- an event that blocks leaves the batch, and its own processing, unfinished
      by_cases blocks : e.Blocks
      · refine ⟨.error .missingAttribute, { e with status := .processing } :: events, s, ?_,
          .inr ⟨rfl, .blocked due blocks⟩⟩
        rw [workOff, if_pos due, judge_of_blocks blocks]
        · rfl
        · exact spent
      · obtain ⟨verdict, judged⟩ := exists_verdict (g := g) (s := s) ordinary blocks
        obtain ⟨e', concluded, ends, isDone⟩ := ends_conclude (first due) verdict
        obtain ⟨outcome, events', s', ran, became⟩ :=
          ih others (budget.map (· - 1)) (stats.count verdict) (judge b g e s).2
        refine ⟨outcome, e' :: events', s', ?_, ?_⟩
        · rw [workOff, if_pos due]
          · simp only [judged, Except.bind, concluded, map_ok, ran]
          · exact spent
        · rcases became with ⟨stats', ended, clear, settles, tells⟩ | ⟨failed, breaks⟩
          · refine .inl ⟨stats', ended, ?_, .took due ends settles, tells.took isDone⟩
            exact List.forall_mem_cons.mpr ⟨fun _ => blocks, clear⟩
          · exact .inr ⟨failed, .took due ends breaks⟩
    · obtain ⟨outcome, events', s', ran, became⟩ := ih others budget stats s
      rw [taken_cons spent, if_neg due]
      refine ⟨outcome, e :: events', s', ?_, ?_⟩
      · rw [workOff, if_neg due, ran]
        exact spent
      · rcases became with ⟨stats', ended, clear, settles, tells⟩ | ⟨failed, breaks⟩
        · refine .inl ⟨stats', ended, ?_, .left settles, tells.left⟩
          exact List.forall_mem_cons.mpr ⟨nofun, clear⟩
        · exact .inr ⟨failed, .left breaks⟩

/-- The event at which a batch broke off: it was taken, it blocks, and it stays where it stood. -/
theorem BreaksOff.exists_blocked {terms : Terms} {marks : List Bool} {events events' : List Event}
    (breaks : BreaksOff terms marks events events') :
    ∃ (i : Nat) (e : Event), marks[i]? = some true ∧ events[i]? = some e ∧ e.isDue terms.now = true ∧ e.Blocks ∧
      events'[i]? = some { e with status := .processing } := by
  induction breaks with
  | blocked due blocks => exact ⟨0, _, rfl, rfl, due, blocks, rfl⟩
  | took _ _ _ ih | left _ ih =>
    obtain ⟨i, e, found⟩ := ih
    exact ⟨i + 1, e, found⟩

/-- A batch ends, and settles the events, if those that are due have a text for a facility, and room. -/
theorem workOff_settles (ordinary : b.IsOrdinary) {terms : Terms} {events : List Event}
    (ready : ∀ e ∈ events, e.isDue terms.now = true → e.NamesText ∧ e.HasRoom terms)
    (budget : Option Nat) (stats : BatchStats) (s : σ) :
    ∃ stats' events' s', workOff b g terms budget stats events s = ((.ok stats', events'), s') ∧
      Settles terms (taken terms.now budget events) events events' ∧
      stats.Tells stats' (taken terms.now budget events) events' := by
  obtain ⟨outcome, events', s', ran, ⟨stats', rfl, _, settles, tells⟩ | ⟨_, breaks⟩⟩ :=
    workOff_spec (g := g) ordinary (fun e member due => (ready e member due).2) budget stats s
  · exact ⟨stats', events', s', ran, settles, tells⟩
  · obtain ⟨i, e, _, at_i, due, blocks, _⟩ := breaks.exists_blocked
    exact absurd blocks (ready e (List.mem_of_getElem? at_i) due).1.not_blocks

/-- A batch that may take all events, which are all due, processes them one after the other. -/
theorem exists_workOff {P : σ → Prop} (terms : Terms) {events : List Event}
    (due : ∀ e ∈ events, e.isDue terms.now = true)
    (each : ∀ e ∈ events, ∀ s, P s → ∃ verdict s' e', judge b g e s = (.ok verdict, s') ∧ P s' ∧
      e.conclude terms.now terms.maxFailures verdict = .ok e')
    {budget : Option Nat} (fits : ∀ n ∈ budget, events.length ≤ n) (stats : BatchStats) (starts : P s) :
    ∃ stats' events', workOff b g terms budget stats events s =
        ((.ok stats', events'), events.foldl (fun s e => (judge b g e s).2) s) ∧
      stats'.processed = stats.processed + events.length := by
  induction events generalizing budget stats s with
  | nil => exact ⟨stats, [], by unfold workOff; rfl, rfl⟩
  | cons e events ih =>
    obtain ⟨first, others⟩ := List.forall_mem_cons.mp due
    obtain ⟨⟨verdict, s', e', judged, goesOn, concluded⟩, rest⟩ :=
      And.imp_left (fun each => each s starts) (List.forall_mem_cons.mp each)
    -- the budget reaches for all events, so it is not spent on the way
    have left : budget ≠ some 0 := fun spent => absurd (fits 0 spent) (by simp)
    have fits' : ∀ n ∈ budget.map (· - 1), events.length ≤ n := by
      intro n member
      obtain ⟨m, there, rfl⟩ := Option.map_eq_some_iff.mp member
      exact Nat.le_sub_one_of_lt (fits m there)
    obtain ⟨stats', events', ran, processed⟩ := ih others rest fits' (stats.count verdict) goesOn
    refine ⟨stats', e' :: events', ?_, ?_⟩
    · rw [workOff, if_pos first]
      · simp only [judged, Except.bind, concluded, map_ok, ran, List.foldl_cons]
      · exact left
    · have counted : (stats.count verdict).processed = stats.processed + 1 := by cases verdict <;> rfl
      rw [processed, counted, List.length_cons]
      omega

/-- Which events a batch takes: none if the index is turned off. -/
def takenBy (g : Gateway) (now limit : Int) (events : List Event) : List Bool :=
  if g.settings.indexEnabled then taken now (budgetOf limit) events else events.map fun _ => false

/-- What a batch with a limit did to events, and what is told of it. -/
structure BatchStats.Reports (terms : Terms) (limit : Int) (marks : List Bool) (events events' : List Event)
    (stats : BatchStats) : Prop where
  settles : Settles terms marks events events'
  processed : stats.processed = marks.count true
  limited : (stats.processed : Int) ≤ limit
  done : stats.done = countDone marks events'
  balanced : stats.processed = stats.done + stats.failed

theorem BatchStats.Tells.reports {terms : Terms} {limit : Int} {marks : List Bool} {events events' : List Event}
    {stats stats' : BatchStats} (tells : stats.Tells stats' marks events')
    (settles : Settles terms marks events events')
    (fresh : stats.processed = 0 ∧ stats.done = 0 ∧ stats.failed = 0) (limited : (marks.count true : Int) ≤ limit) :
    stats'.Reports terms limit marks events events' where
  settles := settles
  processed := by rw [tells.processed, fresh.1, Nat.zero_add]
  limited := by rwa [tells.processed, fresh.1, Nat.zero_add]
  done := by rw [tells.done, fresh.2.1, Nat.zero_add]
  balanced := by
    have balanced := tells.balanced
    omega

/-- A batch of events that have a text for a facility, and room, ends and tells what it did. -/
theorem exists_reports (terms : Terms) (ordinary : b.IsOrdinary) {limit : Int} {events : List Event}
    (counted : 0 ≤ limit) (short : isShort limit = true)
    (ready : ∀ e ∈ events, e.isDue terms.now = true → e.NamesText ∧ e.HasRoom terms) (s : σ) :
    ∃ stats events' s', processBatch b g terms limit events s = ((.ok stats, events'), s') ∧
      stats.Reports terms limit (takenBy g terms.now limit events) events events' := by
  unfold processBatch takenBy
  cases enabled : g.settings.indexEnabled with
  | false =>
    refine ⟨{ enabled := false }, events, s, rfl, ?_⟩
    refine (BatchStats.tells_left { enabled := false } events).reports (settles_left terms events)
      ⟨rfl, rfl, rfl⟩ ?_
    simpa [List.count_replicate] using counted
  | true =>
    obtain ⟨stats, events', s', ran, settles, tells⟩ :=
      workOff_settles (g := g) ordinary ready (budgetOf limit) {} s
    refine ⟨stats, events', s', ?_, tells.reports settles ⟨rfl, rfl, rfl⟩ ?_⟩
    · simpa [short] using ran
    · rw [budgetOf, if_neg (by omega)]
      have bounded := count_taken_le terms.now limit.toNat events
      omega

end Venues.Outbox
