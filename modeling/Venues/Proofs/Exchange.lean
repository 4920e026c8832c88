import Venues.Client.Exchange

/-! # Running exchanges

An exchange that goes on after another one runs from where the other one ended, with its result. A client
may be seen as another one if it gives the same answers.
-/

namespace Venues.Exchange

variable {α β σ τ : Type} {client : Client σ} {s s' : σ} {x : Exchange α}

/-! ## Steps -/

theorem run_andThen (next : Outcome α → Exchange β) :
    (x.andThen next).run client s = (next (x.run client s).1).run client (x.run client s).2 := by
  induction x generalizing s with
  | done outcome => rfl
  | connect k ih => exact ih _
  | ask call k ih => exact ih _

theorem run_connect {next : Outcome Bool → Exchange α} :
    (connect next).run client s = (next (client.connect s).1).run client (client.connect s).2 := rfl

theorem run_ask {call : Call} {reply : Reply} {next : Reply → Exchange α}
    (answered : client.answer call s = (reply, s')) : (ask call next).run client s = (next reply).run client s' := by
  rw [run, answered]

theorem run_bind {f : α → Exchange β} {a : α} (done : x.run client s = (.ok a, s')) :
    (x >>= f).run client s = (f a).run client s' := by
  show (x.andThen _).run client s = _
  rw [run_andThen, done]

theorem run_bind_error {f : α → Exchange β} {fault : Fault} (done : x.run client s = (.error fault, s')) :
    (x >>= f).run client s = (.error fault, s') := by
  show (x.andThen _).run client s = _
  rw [run_andThen, done]
  rfl

theorem run_bind_eq_ok {f : α → Exchange β} {b : β} (done : (x >>= f).run client s = (.ok b, s')) :
    ∃ a t, x.run client s = (.ok a, t) ∧ (f a).run client t = (.ok b, s') := by
  rcases before : x.run client s with ⟨fault | a, t⟩
  · rw [run_bind_error before] at done
    cases done
  · rw [run_bind before] at done
    exact ⟨a, t, rfl, done⟩

theorem run_handle {recover : Fault → Exchange α} {a : α} (done : x.run client s = (.ok a, s')) :
    (x.handle recover).run client s = (.ok a, s') := by
  rw [handle, run_andThen, done]
  rfl

theorem run_handle_error {recover : Fault → Exchange α} {fault : Fault}
    (done : x.run client s = (.error fault, s')) :
    (x.handle recover).run client s = (recover fault).run client s' := by
  rw [handle, run_andThen, done]

/-! ## Clients -/

/-- Where a client answers like another one, and what joins their states lasts, every exchange has the
same outcome with both of them. -/
theorem run_simulates {inner : Client τ} {R : σ → τ → Prop}
    (connects : ∀ s t, R s t → ∃ s', client.connect s = ((inner.connect t).1, s') ∧ R s' (inner.connect t).2)
    (answers : ∀ c s t, R s t →
      ∃ s', client.answer c s = ((inner.answer c t).1, s') ∧ R s' (inner.answer c t).2)
    {t : τ} (joined : R s t) : ∃ s', x.run client s = ((x.run inner t).1, s') ∧ R s' (x.run inner t).2 := by
  induction x generalizing s t with
  | done outcome => exact ⟨s, rfl, joined⟩
  | connect k ih =>
    obtain ⟨s', same, joined⟩ := connects s t joined
    simp only [run, same]
    exact ih _ joined
  | ask call k ih =>
    obtain ⟨s', same, joined⟩ := answers call s t joined
    simp only [run, same]
    exact ih _ joined

/-! ## Endings -/

section Endings

variable {I : σ → Prop} {good : α → Prop} {stops stops' : Fault → Prop}

/-- Whether an exchange that starts in a state of a kind ends in such a state, with a good result or a fault
of some kind. -/
def Ends (client : Client σ) (I : σ → Prop) (good : α → Prop) (stops : Fault → Prop) (x : Exchange α) : Prop :=
  ∀ s, I s → I (x.run client s).2 ∧
    ((∃ a, (x.run client s).1 = .ok a ∧ good a) ∨ ∃ fault, (x.run client s).1 = .error fault ∧ stops fault)

theorem ends_pure {a : α} (isGood : good a) : (pure a : Exchange α).Ends client I good stops :=
  fun _ holds => ⟨holds, .inl ⟨a, rfl, isGood⟩⟩

theorem Ends.bind {f : α → Exchange β} {good' : β → Prop} (first : x.Ends client I good stops)
    (rest : ∀ a, good a → (f a).Ends client I good' stops) : (x >>= f).Ends client I good' stops := by
  intro s holds
  obtain ⟨holds', ⟨a, went, isGood⟩ | ⟨fault, failed, stopped⟩⟩ := first s holds
  · rw [run_bind (Prod.ext went rfl)]
    exact rest a isGood _ holds'
  · rw [run_bind_error (Prod.ext failed rfl)]
    exact ⟨holds', .inr ⟨fault, rfl, stopped⟩⟩

theorem Ends.onward {f : α → Exchange β} {good' : β → Prop} (first : x.Ends client I (fun _ => True) stops)
    (rest : ∀ a, (f a).Ends client I good' stops) : (x >>= f).Ends client I good' stops :=
  first.bind fun a _ => rest a

theorem Ends.mono (ends : x.Ends client I good stops) (weaker : ∀ fault, stops fault → stops' fault) :
    x.Ends client I good stops' := fun s holds =>
  ⟨(ends s holds).1, (ends s holds).2.imp_right fun ⟨fault, failed, stopped⟩ => ⟨fault, failed, weaker fault stopped⟩⟩

theorem ends_lift {outcome : Outcome α} {a : α} (result : outcome = .ok a) :
    (liftM outcome : Exchange α).Ends client I (· = a) stops := by
  rw [result]
  exact fun _ holds => ⟨holds, .inl ⟨a, rfl, rfl⟩⟩

/-- Where all states are alike, an exchange ends as soon as its faults are of the kind. -/
theorem ends_iff : x.Ends client (fun _ => True) (fun _ => True) stops ↔
    ∀ s fault, (x.run client s).1 = .error fault → stops fault := by
  constructor
  · intro ends s fault failed
    obtain ⟨_, ⟨a, went, _⟩ | ⟨fault', failed', stopped⟩⟩ := ends s trivial
    · cases went.symm.trans failed
    · cases failed'.symm.trans failed
      exact stopped
  · intro stopped s _
    cases outcome : (x.run client s).1 with
    | ok a => exact ⟨trivial, .inl ⟨a, rfl, trivial⟩⟩
    | error fault => exact ⟨trivial, .inr ⟨fault, rfl, stopped s fault outcome⟩⟩

end Endings

/-! ## Replies -/

/-- The calls of an exchange that a client carries out, each with the reply to it. -/
def replies (client : Client σ) : Exchange α → σ → List (Call × Reply)
  | .done _, _ => []
  | .connect next, s => replies client (next (client.connect s).1) (client.connect s).2
  | .ask call next, s =>
    (call, (client.answer call s).1) :: replies client (next (client.answer call s).1) (client.answer call s).2

theorem replies_connect {next : Outcome Bool → Exchange α} :
    (connect next).replies client s = (next (client.connect s).1).replies client (client.connect s).2 := rfl

theorem replies_ask {call : Call} {reply : Reply} {next : Reply → Exchange α}
    (answered : client.answer call s = (reply, s')) :
    (ask call next).replies client s = (call, reply) :: (next reply).replies client s' := by
  rw [replies, answered]

theorem replies_andThen (next : Outcome α → Exchange β) : (x.andThen next).replies client s =
    x.replies client s ++ (next (x.run client s).1).replies client (x.run client s).2 := by
  induction x generalizing s with
  | done outcome => rfl
  | connect k ih => exact ih _
  | ask call k ih => exact congrArg _ (ih _)

theorem replies_andThen_done {g : Outcome α → Outcome β} :
    (x.andThen fun outcome => .done (g outcome)).replies client s = x.replies client s := by
  rw [replies_andThen]
  exact List.append_nil _

end Venues.Exchange
