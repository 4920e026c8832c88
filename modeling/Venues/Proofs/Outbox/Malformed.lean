import Mathlib.Logic.Relation
import Venues.Proofs.Outbox.Batch

/-! # Events that block

A payload can be of any form. Most forms that make no sense fail their event for good. But where something
other than a text names the facility, or the payload is no object at all, there is no verdict: the batch
breaks off, and the event is left in the middle of its processing, where no later batch takes it.
-/

namespace Venues.Outbox

open Index (Gateway)

variable {σ : Type} {b : Backends σ} {g : Gateway} {terms : Terms} {e : Event} {events events' : List Event}

/-! ## Events that are not taken -/

/-- Whatever becomes of a batch, events that are not due stay as they are. -/
theorem workOff_keeps {budget : Option Nat} {stats : BatchStats} {s s' : σ} {outcome : Outcome BatchStats}
    (ran : workOff b g terms budget stats events s = ((outcome, events'), s')) {i : Nat}
    (at_i : events[i]? = some e) (waits : e.isDue terms.now = false) : events'[i]? = some e := by
  induction events generalizing budget stats s s' outcome events' i with
  | nil => cases at_i
  | cons first events ih =>
    by_cases spent : budget = some 0
    · subst spent
      cases ran
      exact at_i
    rw [workOff] at ran
    · by_cases due : first.isDue terms.now = true
      · rw [if_pos due] at ran
        -- the first event was taken, so it is another one
        obtain ⟨i, rfl⟩ : ∃ j, i = j + 1 := by
          cases i with
          | zero =>
            cases at_i
            exact absurd due (by simp [waits])
          | succ i => exact ⟨i, rfl⟩
        dsimp only at ran
        split at ran
        · cases ran
          exact at_i
        · cases ran
          exact ih rfl at_i
      · rw [if_neg due] at ran
        cases ran
        cases i with
        | zero => exact at_i
        | succ i => exact ih rfl at_i
    · exact spent

theorem processBatch_keeps {limit : Int} {s s' : σ} {outcome : Outcome BatchStats}
    (ran : processBatch b g terms limit events s = ((outcome, events'), s')) {i : Nat}
    (at_i : events[i]? = some e) (waits : e.isDue terms.now = false) : events'[i]? = some e := by
  unfold processBatch at ran
  split at ran
  · cases ran
    exact at_i
  · split at ran
    · cases ran
      exact at_i
    · exact workOff_keeps ran at_i waits

/-! ## Later batches -/

/-- One more batch, at any time, on whatever terms, and whatever the backends do. -/
inductive Batch : List Event → List Event → Prop
  | work {events events' : List Event} {σ : Type} {b : Backends σ} {g : Gateway} {terms : Terms} {limit : Int}
      {s s' : σ} {outcome : Outcome BatchStats} :
      processBatch b g terms limit events s = ((outcome, events'), s') → Batch events events'

/-- What can become of events in any number of batches. -/
def Batches : List Event → List Event → Prop := Relation.ReflTransGen Batch

theorem Event.isDue_of_processing {now : Int} (left : e.status = .processing) : e.isDue now = false := by
  rw [Event.isDue, left]
  rfl

/-- No batch takes an event that was left in the middle of its processing. -/
theorem Batches.keeps (later : Batches events events') {i : Nat} (at_i : events[i]? = some e)
    (left : e.status = .processing) : events'[i]? = some e := by
  induction later with
  | refl => exact at_i
  | tail _ batch ih =>
    cases batch with
    | work ran => exact processBatch_keeps ran ih (Event.isDue_of_processing left)

/-! ## Batches with malformed events -/

/-- With ordinary backends, and room for the events that are due, a batch of any events ends and settles all
that it takes if none of these blocks. Else it breaks off at the first one that does, which stays in the
middle of its processing through all later batches. -/
theorem exists_settles_or_breaksOff (ordinary : b.IsOrdinary) (enabled : g.settings.indexEnabled = true) {limit : Int}
    (counted : 0 ≤ limit) (short : isShort limit = true)
    (room : ∀ e ∈ events, e.isDue terms.now = true → e.HasRoom terms) (s : σ) :
    ∃ outcome events' s', processBatch b g terms limit events s = ((outcome, events'), s') ∧
      (Clear (takenBy g terms.now limit events) events → ∃ stats, outcome = .ok stats ∧
        stats.Reports terms limit (takenBy g terms.now limit events) events events') ∧
      (¬ Clear (takenBy g terms.now limit events) events → outcome = .error .missingAttribute ∧
        BreaksOff terms (takenBy g terms.now limit events) events events' ∧
        ∃ (i : Nat) (e : Event), events[i]? = some e ∧ e.Blocks ∧
          ∀ later, Batches events' later → later[i]? = some { e with status := .processing }) := by
  have marks : takenBy g terms.now limit events = taken terms.now (budgetOf limit) events := by
    rw [takenBy, if_pos enabled]
  obtain ⟨outcome, events', s', ran, became⟩ := workOff_spec (g := g) ordinary room (budgetOf limit) {} s
  rw [← marks] at became
  refine ⟨outcome, events', s', ?_, fun clear => ?_, fun blocked => ?_⟩
  · unfold processBatch
    rw [enabled, short]
    exact ran
  · rcases became with ⟨stats, ended, _, settles, tells⟩ | ⟨_, breaks⟩
    · refine ⟨stats, ended, tells.reports settles ⟨rfl, rfl, rfl⟩ ?_⟩
      rw [marks, budgetOf, if_neg (by omega)]
      have bounded := count_taken_le terms.now limit.toNat events
      omega
    · obtain ⟨i, e, took, at_i, _, blocks, _⟩ := breaks.exists_blocked
      have member : (true, e) ∈ (takenBy g terms.now limit events).zip events :=
        List.mem_of_getElem? (i := i) (by rw [List.getElem?_zip_eq_some]; exact ⟨took, at_i⟩)
      exact absurd blocks (clear _ member rfl)
  · rcases became with ⟨_, _, clear, _⟩ | ⟨failed, breaks⟩
    · exact absurd clear blocked
    · obtain ⟨i, e, _, at_i, _, blocks, stands⟩ := breaks.exists_blocked
      exact ⟨failed, breaks, i, e, at_i, blocks, fun later batches => batches.keeps stands rfl⟩

/-- Backends that take every call, to a store without rows. -/
def steady : Backends Unit where
  client := { connect := fun s => (.ok true, s), answer := fun _ s => (.ok .null, s) }
  tables s := (.ok {}, s)

theorem steady_isOrdinary : steady.IsOrdinary where
  connects _ := ⟨true, rfl⟩
  answers _ _ _ failed := by cases failed
  reads _ _ failed := by cases failed
  projects _ _ read := by
    cases read
    exact fun f member => by cases member

/-- An event without a payload. -/
def unnamed : Event where
  kind := EventKind.upserted.text
  payload := .null

/-- An event that names its facility by a number. -/
def numbered : Event where
  kind := EventKind.upserted.text
  payload := .object [("facility_id", .int 5)]

theorem numbered_blocks : numbered.Blocks := ⟨rfl, nofun⟩

/-- A batch fails the event without a payload for good, and breaks off at the one behind it. -/
theorem exists_settles_or_breaksOff_numbered : ∃ events' s',
    processBatch steady ⟨{}, "venues"⟩ ⟨0, 2⟩ 100 [unnamed, numbered] () = ((.error .missingAttribute, events'), s') ∧
      BreaksOff ⟨0, 2⟩ [true, true] [unnamed, numbered] events' := by
  -- neither event was tried before, so there is room to count one more attempt
  have room : ∀ e ∈ [unnamed, numbered], e.isDue 0 = true → e.HasRoom ⟨0, 2⟩ := by
    intro e member _
    have untried : e.retries = 0 := by
      simp only [List.mem_cons, List.not_mem_nil, or_false] at member
      rcases member with rfl | rfl <;> rfl
    refine ⟨by omega, by rw [untried]; decide, fun _ => ?_⟩
    rw [untried]
    decide
  obtain ⟨outcome, events', s', ran, _, breaks⟩ := @exists_settles_or_breaksOff Unit steady ⟨{}, "venues"⟩ ⟨0, 2⟩
    [unnamed, numbered] steady_isOrdinary rfl 100 (by decide) (by decide) room ()
  have blocked : ¬ Clear (takenBy ⟨{}, "venues"⟩ 0 100 [unnamed, numbered]) [unnamed, numbered] := fun clear =>
    clear (true, numbered) (.tail _ (.head _)) rfl numbered_blocks
  obtain ⟨rfl, stopped, _⟩ := breaks blocked
  exact ⟨events', s', ran, stopped⟩

/-- An event that names its facility by a number is in the way of the next one, and is itself never taken
again. -/
theorem processBatch_breaksOff : steady.IsOrdinary ∧
    processBatch steady ⟨{}, "venues"⟩ ⟨0, 2⟩ 100 [numbered, unnamed] () =
      ((.error .missingAttribute, [{ numbered with status := .processing }, unnamed]), ()) ∧
    ∀ later, Batches [{ numbered with status := .processing }, unnamed] later →
      later[0]? = some { numbered with status := .processing } :=
  ⟨steady_isOrdinary, by with_unfolding_all rfl, fun _ later => later.keeps rfl rfl⟩

end Venues.Outbox
