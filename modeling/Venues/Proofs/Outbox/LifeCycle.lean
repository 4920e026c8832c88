import Mathlib.Logic.Relation
import Venues.Deployment
import Venues.Proofs.Outbox.Batch

/-! # The life of an event

Events are written to the outbox, and batches are processed, at any times and whatever becomes of the
calls. In every state that is reached so, an event is pending, done or failed; once it is done or failed
it never changes again, and before that it is tried a limited number of times.
-/

namespace Venues.Outbox

/-! ## Ledgers -/

/-- An event with the number of times it was processed. -/
structure Tracked where
  event : Event
  times : Nat := 0

/-- Whether an event is such as it is written: pending, without a failure. -/
structure Event.IsFresh (e : Event) : Prop where
  named : e.NamesText
  pending : e.status = .pending
  untried : e.retries = 0

/-- Whether every delay between two attempts ends in a year that a clock can show. -/
def Terms.IsLasting (terms : Terms) : Prop :=
  ∀ failures, 0 < failures → failures < terms.maxFailures →
    Timestamp.inRange (terms.now + delay failures) = true

/-- One step of the outbox: a fresh event is written behind all others, or a batch is processed. -/
inductive Step (maxFailures : Int) : List Tracked → List Tracked → Prop
  | arrive {ledger : List Tracked} {e : Event} : e.IsFresh → Step maxFailures ledger (ledger ++ [{ event := e }])
  | work {ledger ledger' : List Tracked} {σ : Type} {b : Backends σ} {g : Index.Gateway} {now limit : Int}
      {s s' : σ} {outcome : Outcome BatchStats} :
      b.IsOrdinary → 0 ≤ limit → isShort limit = true → Terms.IsLasting ⟨now, maxFailures⟩ →
      processBatch b g ⟨now, maxFailures⟩ limit (ledger.map Tracked.event) s =
        ((outcome, ledger'.map Tracked.event), s') →
      ledger'.map Tracked.times = List.zipWith (fun times took => times + Bool.toNat took)
        (ledger.map Tracked.times) (takenBy g now limit (ledger.map Tracked.event)) →
      Step maxFailures ledger ledger'

/-- What can become of a ledger in any number of steps. -/
def Reaches (maxFailures : Int) : List Tracked → List Tracked → Prop :=
  Relation.ReflTransGen (Step maxFailures)

/-! ## What holds of every event -/

/-- Whether an event stands as it can stand between two batches. One that is pending has failed each time
it was processed, less often than it is given up, and each time was due a minute later at least. -/
structure Tracked.IsLegal (maxFailures : Int) (p : Tracked) : Prop where
  named : p.event.NamesText
  settled : p.event.status = .pending ∨ p.event.status = .done ∨ p.event.status = .failed
  limited : (p.times : Int) ≤ max 1 maxFailures
  pending : p.event.status = .pending → p.event.retries = p.times ∧ (p.times = 0 ∨
    (p.times : Int) < maxFailures ∧ ∃ dueAt, p.event.dueAt = some dueAt ∧
      ((p.times : Int) - 1) * minute ≤ dueAt ∧ Timestamp.inRange dueAt = true)

namespace Tracked.IsLegal

variable {maxFailures now : Int} {p : Tracked} {e' : Event}

theorem minute_eq : (minute : Int) = 60000000 := rfl

theorem status_of_isDue {e : Event} (due : e.isDue now = true) : e.status = .pending :=
  eq_of_beq (Bool.and_eq_true_iff.mp due).1

theorem le_of_isDue {e : Event} (due : e.isDue now = true) {dueAt : Int} (at_due : e.dueAt = some dueAt) :
    dueAt ≤ now := by
  have passed := (Bool.and_eq_true_iff.mp due).2
  rw [at_due] at passed
  simpa using passed

/-- An event is given up, or time is up, long before its failures cannot be counted. -/
theorem hasRoom (legal : p.IsLegal maxFailures) (lasting : Terms.IsLasting ⟨now, maxFailures⟩)
    (due : p.event.isDue now = true) : p.event.HasRoom ⟨now, maxFailures⟩ := by
  obtain ⟨counted, tried⟩ := legal.pending (status_of_isDue due)
  -- each failure put the event off by a minute at least, and time ends before 2 ^ 60
  have few : (p.times : Int) < 2 ^ 60 := by
    rcases tried with none | ⟨_, dueAt, _, later, shown⟩
    · rw [none]
      decide
    · have ends : dueAt < 2 ^ 60 := by
        have early := (Bool.and_eq_true_iff.mp shown).2
        have century : Timestamp.endOfTime < 2 ^ 60 := by decide
        exact lt_trans (of_decide_eq_true early) century
      rw [minute_eq] at later
      omega
  refine ⟨by omega, ?_, lasting _ (by omega)⟩
  have bound : (2 : Int) ^ 60 = 1152921504606846976 := rfl
  have size : (2 : Int) ^ 63 = 9223372036854775808 := rfl
  simp only [isShort, Bool.and_eq_true, decide_eq_true_eq]
  omega

/-- However the processing of an event ends, the event stands as it can stand. -/
theorem ended (legal : p.IsLegal maxFailures) (due : p.event.isDue now = true)
    (ends : Ends ⟨now, maxFailures⟩ p.event e') : IsLegal maxFailures ⟨e', p.times + 1⟩ := by
  obtain ⟨counted, tried⟩ := legal.pending (status_of_isDue due)
  have limited : ((p.times + 1 : Nat) : Int) ≤ max 1 maxFailures := by
    rcases tried with none | ⟨below, _⟩ <;> omega
  cases ends with
  | done => exact ⟨legal.named, .inr (.inl rfl), limited, fun pending => by cases pending⟩
  | failed reason => exact ⟨legal.named, .inr (.inr rfl), limited, fun pending => by cases pending⟩
  | again reason dueAt below later shown =>
    refine ⟨legal.named, .inl rfl, limited, fun _ => ⟨by simp [counted], .inr ⟨?_, dueAt, rfl, ?_, shown⟩⟩⟩
    · simp only [counted] at below
      exact_mod_cast below
    · have started := of_decide_eq_true (Bool.and_eq_true_iff.mp shown).1
      show ((p.times + 1 : Nat) - 1 : Int) * minute ≤ dueAt
      rw [minute_eq] at later ⊢
      rcases tried with none | ⟨_, before, was, reached, _⟩
      · omega
      -- a later attempt was made at the time it was put off to, or afterwards
      · have passed := le_of_isDue due was
        rw [minute_eq] at reached
        simp only at later
        omega

end Tracked.IsLegal

theorem Event.IsFresh.isLegal {maxFailures : Int} {e : Event} (fresh : e.IsFresh) :
    Tracked.IsLegal maxFailures { event := e } where
  named := fresh.named
  settled := .inl fresh.pending
  limited := le_max_of_le_left Int.one_nonneg
  pending := fun _ => ⟨fresh.untried, .inl rfl⟩

/-! ## Steps and runs -/

section Runs

variable {maxFailures : Int} {ledger ledger' : List Tracked}

theorem exists_ledger {events : List Event} {times : List Nat} (same : events.length = times.length) :
    ∃ ledger : List Tracked, ledger.map Tracked.event = events ∧ ledger.map Tracked.times = times := by
  refine ⟨(events.zip times).map fun p => ⟨p.1, p.2⟩, ?_, ?_⟩
  · rw [List.map_map]
    exact List.map_fst_zip same.le
  · rw [List.map_map]
    exact List.map_snd_zip same.ge

/-- The events that a batch is to take can be judged, and have room. -/
theorem ready_of_isLegal {now : Int} (legal : ∀ p ∈ ledger, p.IsLegal maxFailures)
    (lasting : Terms.IsLasting ⟨now, maxFailures⟩) :
    ∀ e ∈ ledger.map Tracked.event, e.isDue now = true → e.NamesText ∧ e.HasRoom ⟨now, maxFailures⟩ := by
  intro e member due
  obtain ⟨p, there, rfl⟩ := List.mem_map.mp member
  exact ⟨(legal p there).named, (legal p there).hasRoom lasting due⟩

/-- What a batch makes of the events of a ledger, with the number of times they were processed. -/
theorem exists_of_settles {terms : Terms} {marks : List Bool}
    (settles : Settles terms marks (ledger.map Tracked.event) (ledger'.map Tracked.event))
    (counts : ledger'.map Tracked.times =
      List.zipWith (fun times took => times + Bool.toNat took) (ledger.map Tracked.times) marks)
    {i : Nat} {p : Tracked} (at_i : ledger[i]? = some p) :
    ∃ p', ledger'[i]? = some p' ∧ (p' = p ∨
      p.event.isDue terms.now = true ∧ Ends terms p.event p'.event ∧ p'.times = p.times + 1) := by
  obtain ⟨e', at_i', ended⟩ := settles.getElem? (i := i) (e := p.event) (by simp [at_i])
  obtain ⟨⟨e, times⟩, there, rfl⟩ : ∃ p', ledger'[i]? = some p' ∧ p'.event = e' := by simpa using at_i'
  have count := congrArg (·[i]?) counts
  simp only [List.getElem?_map, there, List.getElem?_zipWith, at_i, Option.map_some] at count
  refine ⟨⟨e, times⟩, there, ?_⟩
  rcases ended with ⟨mark, due, ends⟩ | ⟨mark, rfl⟩
  · rw [mark] at count
    exact .inr ⟨due, ends, Option.some.inj count⟩
  · rw [mark] at count
    left
    rw [Option.some.inj count]
    rfl

/-- A step leaves each event where it stands, and the events that are done or have failed as they are; and
all events stand as they can stand. -/
theorem Step.isLegal (step : Step maxFailures ledger ledger') (legal : ∀ p ∈ ledger, p.IsLegal maxFailures) :
    (∀ p' ∈ ledger', p'.IsLegal maxFailures) ∧
      ∀ (i : Nat) (p : Tracked), ledger[i]? = some p → p.event.status ≠ .pending → ledger'[i]? = some p := by
  cases step with
  | @arrive e fresh =>
    refine ⟨fun p member => ?_, fun i p at_i _ => ?_⟩
    · rcases List.mem_append.mp member with member | member
      · exact legal p member
      · rw [List.mem_singleton.mp member]
        exact fresh.isLegal
    · rw [List.getElem?_append_left (List.getElem?_eq_some_iff.mp at_i).1, at_i]
  | @work _ σ b g now limit s s' outcome ordinary counted short lasting ran counts =>
    obtain ⟨stats, events', s'', ran', reports⟩ :=
      exists_reports (g := g) ⟨now, maxFailures⟩ ordinary counted short (ready_of_isLegal legal lasting) s
    rw [ran] at ran'
    obtain ⟨⟨-, rfl⟩, -⟩ : (outcome = .ok stats ∧ ledger'.map Tracked.event = events') ∧ s' = s'' := by
      simpa using ran'
    -- a batch leaves every event at its place, as it was or as its processing ended
    have onward := fun {i : Nat} {p : Tracked} => exists_of_settles (i := i) (p := p) reports.settles counts
    refine ⟨fun p' member => ?_, fun i p at_i settled => ?_⟩
    · obtain ⟨i, at_i'⟩ := List.mem_iff_getElem?.mp member
      have length : ledger'.length = ledger.length := by simpa using reports.settles.length_eq.2
      have within : i < ledger.length := length ▸ (List.getElem?_eq_some_iff.mp at_i').1
      obtain ⟨p, at_i⟩ : ∃ p, ledger[i]? = some p := ⟨_, List.getElem?_eq_getElem within⟩
      have before := legal p (List.mem_of_getElem? at_i)
      obtain ⟨q, at_q, same | ⟨due, ends, times⟩⟩ := onward at_i
      · cases at_q.symm.trans at_i'
        exact same ▸ before
      · cases at_q.symm.trans at_i'
        have after := before.ended due ends
        rwa [← times] at after
    · obtain ⟨q, at_q, same | ⟨due, _⟩⟩ := onward at_i
      · exact same ▸ at_q
      · exact absurd (Tracked.IsLegal.status_of_isDue due) settled

theorem Reaches.isLegal (reached : Reaches maxFailures ledger ledger')
    (legal : ∀ p ∈ ledger, p.IsLegal maxFailures) :
    (∀ p' ∈ ledger', p'.IsLegal maxFailures) ∧
      ∀ (i : Nat) (p : Tracked), ledger[i]? = some p → p.event.status ≠ .pending → ledger'[i]? = some p := by
  induction reached with
  | refl => exact ⟨legal, fun i p at_i _ => at_i⟩
  | tail _ step ih =>
    obtain ⟨legal', lasts⟩ := step.isLegal ih.1
    exact ⟨legal', fun i p at_i settled => lasts i p (ih.2 i p at_i settled) settled⟩

/-- Whatever has happened to the outbox, no event is left in the middle of its processing, and none was
processed more often than failures are allowed, or once. One that is done or has failed stays so. And every
further batch ends: it takes only events that are due, no more than its limit; each of them is done, has
failed once more for good, or is pending again and due later; the numbers are told as they are. -/
theorem Reaches.lifeCycle (reached : Reaches maxFailures [] ledger) :
    (∀ p ∈ ledger, p.event.status ≠ .processing ∧ (p.times : Int) ≤ max 1 maxFailures) ∧
    (∀ ledger', Reaches maxFailures ledger ledger' → ∀ (i : Nat) (p : Tracked), ledger[i]? = some p →
      p.event.status = .done ∨ p.event.status = .failed → ledger'[i]? = some p) ∧
    ∀ {σ : Type} {b : Backends σ} (g : Index.Gateway) {now limit : Int} (s : σ),
      b.IsOrdinary → 0 ≤ limit → isShort limit = true → Terms.IsLasting ⟨now, maxFailures⟩ →
      ∃ stats ledger' s',
        processBatch b g ⟨now, maxFailures⟩ limit (ledger.map Tracked.event) s =
          ((.ok stats, ledger'.map Tracked.event), s') ∧
        Step maxFailures ledger ledger' ∧
        stats.Reports ⟨now, maxFailures⟩ limit (takenBy g now limit (ledger.map Tracked.event))
          (ledger.map Tracked.event) (ledger'.map Tracked.event) ∧
        ∀ (i : Nat) (p : Tracked) dueAt, ledger[i]? = some p → p.event.dueAt = some dueAt → now < dueAt →
          ledger'[i]? = some p := by
  have legal := (reached.isLegal (by simp)).1
  refine ⟨fun p member => ⟨?_, (legal p member).limited⟩, fun ledger' onward i p at_i settled => ?_, ?_⟩
  · rcases (legal p member).settled with status | status | status <;> simp [status]
  · refine (onward.isLegal legal).2 i p at_i ?_
    rcases settled with status | status <;> simp [status]
  · intro σ b g now limit s ordinary counted short lasting
    obtain ⟨stats, events', s', ran, reports⟩ :=
      exists_reports (g := g) ⟨now, maxFailures⟩ ordinary counted short (ready_of_isLegal legal lasting) s
    obtain ⟨marks, events⟩ := reports.settles.length_eq
    -- the batch keeps the number of events, so the new counts can be paired with them
    have counted' : events'.length = (List.zipWith (fun times took => times + Bool.toNat took)
        (ledger.map Tracked.times) (takenBy g now limit (ledger.map Tracked.event))).length := by
      simpa [marks] using events
    obtain ⟨ledger', rfl, counts⟩ := exists_ledger counted'
    refine ⟨stats, ledger', s', ran, .work ordinary counted short lasting ran counts, reports, ?_⟩
    intro i p dueAt at_i later future
    obtain ⟨q, at_q, same | ⟨due, _⟩⟩ := exists_of_settles reports.settles counts at_i
    · exact same ▸ at_q
    · exact absurd (Tracked.IsLegal.le_of_isDue due later) (by simpa using future)

end Runs

/-- Backends that are never connected, to a store without rows. -/
def offline : Backends Unit where
  client := { connect := fun s => (.ok false, s), answer := fun _ s => (.error (.client .connection), s) }
  tables s := (.ok {}, s)

theorem offline_isOrdinary : offline.IsOrdinary where
  connects _ := ⟨false, rfl⟩
  answers _ _ _ failed := ⟨.connection, (Except.error.inj failed).symm, rfl⟩
  reads _ _ failed := by cases failed
  projects _ _ read := by
    cases read
    exact fun f member => by cases member

/-- An event that asks for a facility. -/
def errand : Event := .ofFacility (.uuid ⟨7⟩) .upserted

theorem errand_isFresh : errand.IsFresh := ⟨⟨_, _, rfl, rfl⟩, rfl, rfl⟩

/-- A first batch without a connection processes the event that is there, and ends. -/
theorem Reaches.lifeCycle_offline : Reaches 2 [] [{ event := errand }] ∧ offline.IsOrdinary ∧
    Terms.IsLasting ⟨0, 2⟩ ∧ ∃ stats ledger s',
      processBatch offline ⟨{}, "venues"⟩ ⟨0, 2⟩ 100 [errand] () = ((.ok stats, ledger), s') ∧
      stats.processed = 1 := by
  have reached : Reaches 2 [] [{ event := errand }] := .single (.arrive errand_isFresh)
  have lasting : Terms.IsLasting ⟨0, 2⟩ := by
    intro failures positive below
    obtain rfl : failures = 1 := by
      have below : failures < 2 := below
      omega
    decide
  obtain ⟨_, _, batch⟩ := reached.lifeCycle
  obtain ⟨stats, ledger, s', ran, _, reports, _⟩ :=
    batch ⟨{}, "venues"⟩ () offline_isOrdinary (show (0 : Int) ≤ 100 by decide) (by decide) lasting
  exact ⟨reached, offline_isOrdinary, lasting, stats, _, s', ran, reports.processed⟩

/-- In the last minute that a clock can show there is no moment at which to try again: the batch breaks off
in the middle of the event. A batch that is larger than the store can count is not started at all. -/
theorem processBatch_overflow : offline.IsOrdinary ∧ errand.IsFresh ∧
    processBatch offline ⟨{}, "venues"⟩ ⟨Timestamp.endOfTime - minute, 2⟩ 100 [errand] () =
      ((.error .overflow, [{ errand with status := .processing }]), ()) ∧
    processBatch offline ⟨{}, "venues"⟩ ⟨0, 2⟩ (2 ^ 63) [errand] () = ((.error .overflow, [errand]), ()) := by
  refine ⟨offline_isOrdinary, errand_isFresh, ?_, ?_⟩
  · with_unfolding_all rfl
  · with_unfolding_all rfl

end Venues.Outbox
