import Venues.Backends
import Venues.Index.Gateway
import Venues.Proofs.Exchange
import Venues.Proofs.Index.Projection

/-! # Ordinary backends

A backend may answer a call, refuse it, or be out of reach, and a facility may have no document. Where
nothing else goes wrong, whatever is asked of the index through the gateway ends with a result or with a
fault that can be reported.
-/

namespace Venues

variable {σ α : Type} {b : Backends σ}

/-! ## Backends -/

/-- Whether backends fail in the ways in which backends fail: there may be no connection, a call may fail
with an error of the client, the store may be out of reach, and a facility may have no name or no
coordinates. -/
structure Backends.IsOrdinary (b : Backends σ) : Prop where
  connects : ∀ s, ∃ connected, (b.client.connect s).1 = .ok connected
  answers : ∀ call s fault, (b.client.answer call s).1 = .error fault →
    ∃ e, fault = .client e ∧ e.isKnown = true
  reads : ∀ s fault, (b.tables s).1 = .error fault → ∃ reason, fault = .backend (.storeFailed reason)
  projects : ∀ s t, (b.tables s).1 = .ok t → t.IsProjectable

/-- Whether a fault has a report. -/
def Fault.IsReported (fault : Fault) : Prop := ∃ r, fault.report? = some r

theorem Fault.isReported_backend (f : BackendFault) : Fault.IsReported (.backend f) := ⟨_, rfl⟩

/-! ## Exchanges -/

/-- Whether a fault is an error of the client, and not a foreign one. -/
def Fault.IsOfClient (fault : Fault) : Prop := ∃ e, fault = .client e ∧ e.isKnown = true

/-- Whether a fault tells that a backend did not do its work. -/
def Fault.IsOfBackend (fault : Fault) : Prop := ∃ f, fault = .backend f

theorem Fault.IsOfBackend.isReported {fault : Fault} (ofBackend : fault.IsOfBackend) : fault.IsReported := by
  obtain ⟨f, rfl⟩ := ofBackend
  exact isReported_backend f

namespace Exchange

variable {client : Client σ} {x : Exchange α}

section Endings

variable {I : σ → Prop} {good : α → Prop}

/-- A connection is found, or there is none. -/
theorem ends_connected (connects : ∀ s, I s → (∃ connected, (client.connect s).1 = .ok connected) ∧
    I (client.connect s).2) : Index.Gateway.connected.Ends client I (fun _ => True) Fault.IsOfBackend := by
  intro s holds
  obtain ⟨⟨connected, found⟩, holds'⟩ := connects s holds
  have ran : Index.Gateway.connected.run client s =
      (if connected then pure () else stop (.backend .noIndex) : Exchange Unit).run client (client.connect s).2 :=
    run_bind (x := isConnected) (f := fun c => if c then pure () else stop (.backend .noIndex))
      (Prod.ext found rfl)
  rw [ran]
  cases connected with
  | true => exact ⟨holds', .inl ⟨(), rfl, trivial⟩⟩
  | false => exact ⟨holds', .inr ⟨_, rfl, _, rfl⟩⟩

theorem Ends.explained (ends : x.Ends client I good Fault.IsOfClient) (action : String) :
    (Index.Gateway.explained action x).Ends client I good Fault.IsOfBackend := by
  intro s holds
  obtain ⟨holds', ⟨a, went, isGood⟩ | ⟨_, failed, e, rfl, known⟩⟩ := ends s holds
  · rw [Index.Gateway.explained, run_handle (Prod.ext went rfl)]
    exact ⟨holds', .inl ⟨a, rfl, isGood⟩⟩
  · rw [Index.Gateway.explained, run_handle_error (Prod.ext failed rfl)]
    simp only [known, if_true]
    exact ⟨holds', .inr ⟨_, rfl, _, rfl⟩⟩

theorem Ends.orAbsent (ends : x.Ends client I good Fault.IsOfClient) {absent : α} (isGood : good absent) :
    (x.orAbsent absent).Ends client I good Fault.IsOfClient := by
  intro s holds
  obtain ⟨holds', ⟨a, went, isGood'⟩ | ⟨_, failed, e, rfl, known⟩⟩ := ends s holds
  · rw [Exchange.orAbsent, run_handle (Prod.ext went rfl)]
    exact ⟨holds', .inl ⟨a, rfl, isGood'⟩⟩
  · rw [Exchange.orAbsent, run_handle_error (Prod.ext failed rfl)]
    by_cases missing : e.isNotFound = true
    · simp only [missing, if_true]
      exact ⟨holds', .inl ⟨absent, rfl, isGood⟩⟩
    · simp only [missing]
      exact ⟨holds', .inr ⟨_, rfl, e, rfl, known⟩⟩

end Endings

/-- Whether an exchange ends with a result or with a fault that has a report. -/
def Reports (client : Client σ) (x : Exchange α) : Prop :=
  ∀ s fault, (x.run client s).1 = .error fault → fault.IsReported

theorem Reports.bind {β : Type} {f : α → Exchange β} (first : x.Reports client)
    (rest : ∀ a, (f a).Reports client) : (x >>= f).Reports client :=
  ends_iff.mp ((ends_iff.mpr first).onward fun a => ends_iff.mpr (rest a))

theorem reports_pure (a : α) : (pure a : Exchange α).Reports client := ends_iff.mp (ends_pure trivial)

theorem reports_lift {outcome : Outcome α} (reported : ∀ fault, outcome = .error fault → fault.IsReported) :
    (liftM outcome : Exchange α).Reports client := fun _ fault ended => reported fault ended

/-- Whether an exchange fails only with errors of the client. -/
def FailsAsClient (client : Client σ) (x : Exchange α) : Prop :=
  ∀ s fault, (x.run client s).1 = .error fault → ∃ e, fault = .client e ∧ e.isKnown = true

theorem FailsAsClient.ends (fails : x.FailsAsClient client) :
    x.Ends client (fun _ => True) (fun _ => True) Fault.IsOfClient := ends_iff.mpr fails

theorem FailsAsClient.explained (fails : x.FailsAsClient client) (action : String) :
    (Index.Gateway.explained action x).Reports client :=
  ends_iff.mp ((fails.ends.explained action).mono fun _ => Fault.IsOfBackend.isReported)

theorem FailsAsClient.orAbsent (fails : x.FailsAsClient client) (absent : α) :
    (x.orAbsent absent).FailsAsClient client := ends_iff.mp (fails.ends.orAbsent trivial)

end Exchange

namespace Index

open Exchange (Reports FailsAsClient ends_iff ends_pure ends_connected)

variable {g : Gateway}

theorem reports_connected (ordinary : b.IsOrdinary) : Gateway.connected.Reports b.client :=
  ends_iff.mp ((ends_connected fun s _ => ⟨ordinary.connects s, trivial⟩).mono fun _ => Fault.IsOfBackend.isReported)

theorem failsAsClient_call (ordinary : b.IsOrdinary) (call : Call) :
    (Exchange.call call).FailsAsClient b.client := fun s fault ended => ordinary.answers call s fault ended

theorem reports_put (ordinary : b.IsOrdinary) (d : Document) : (g.put d).Reports b.client :=
  (reports_connected ordinary).bind fun _ =>
    ((failsAsClient_call ordinary _).explained "index").bind fun _ => Exchange.reports_pure _

theorem reports_remove (ordinary : b.IsOrdinary) (id : String) : (g.remove id).Reports b.client := by
  refine (reports_connected ordinary).bind fun _ => FailsAsClient.explained (FailsAsClient.orAbsent ?_ _) "delete"
  exact ends_iff.mp ((failsAsClient_call ordinary (.remove g.index id)).ends.onward fun _ => ends_pure trivial)

end Index
end Venues
