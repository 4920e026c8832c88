import Venues.Deployment
import Venues.Proofs.Exchange

/-! # Calm deployments

In a deployment whose index is turned on, and in which no call is made to fail, exchanges run as they do
with the index in memory alone.
-/

namespace Venues.Deployment

open Index (Server)

variable {d : Deployment} {server : Server}

/-- Whether all calls of a deployment succeed: the index is turned on, and no call is made to fail. -/
structure IsCalm (d : Deployment) : Prop where
  enabled : d.settings.indexEnabled = true
  failing : d.failing = []

theorem IsCalm.answer_eq (calm : d.IsCalm) (call : Call) :
    ({ d with server := server } : Deployment).answer call =
      ((server.answer call).1, { d with server := (server.answer call).2 }) := by
  simp only [answer, calm.failing, List.lookup_nil]

/-- An exchange with a calm deployment is one with the index in memory. -/
theorem IsCalm.run_eq {α : Type} (calm : d.IsCalm) (x : Exchange α) :
    x.run client d = ((x.run Server.client d.server).1, { d with server := (x.run Server.client d.server).2 }) := by
  have simulates := @Exchange.run_simulates α Deployment Server client d x Server.client
    (fun d' server => d' = { d with server := server }) ?_ ?_ d.server rfl
  · obtain ⟨d', runs, rfl⟩ := simulates
    exact runs
  · rintro d' server rfl
    refine ⟨_, ?_, rfl⟩
    show ((.ok d.settings.indexEnabled : Outcome Bool), _) = _
    rw [calm.enabled]
    rfl
  · rintro call d' server rfl
    exact ⟨_, calm.answer_eq call, rfl⟩

end Venues.Deployment
