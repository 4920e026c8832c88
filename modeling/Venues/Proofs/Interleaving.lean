import Venues.Proofs.Exchange

/-! # Exchanges that take turns

Several exchanges share a client and take turns in some order: the one whose turn it is asks for one thing and
gets its answer. Between two turns of an exchange, the others may have changed what the client answers from.
-/

namespace Venues.Exchange

variable {α σ : Type} {client : Client σ} {s : σ} {x : Exchange α} {xs : List (Exchange α)}
  {c : List (Exchange α) × σ} {i : Nat}

/-- One step of an exchange; there is none behind the last one. -/
def advance (client : Client σ) : Exchange α → σ → Exchange α × σ
  | .done outcome, s => (.done outcome, s)
  | .connect next, s =>
    let (r, s) := client.connect s
    (next r, s)
  | .ask call next, s =>
    let (r, s) := client.answer call s
    (next r, s)

/-- The exchange of some number takes its turn; if there is none, nothing happens. -/
def turn (client : Client σ) (c : List (Exchange α) × σ) (i : Nat) : List (Exchange α) × σ :=
  match c.1[i]? with
  | some x => (c.1.set i (x.advance client c.2).1, (x.advance client c.2).2)
  | none => c

/-- Exchanges take turns in the order of their numbers. -/
def turns (client : Client σ) (c : List (Exchange α) × σ) (order : List Nat) : List (Exchange α) × σ :=
  order.foldl (turn client) c

def IsDone (x : Exchange α) : Prop := ∃ outcome, x = .done outcome

theorem turns_append {early late : List Nat} :
    turns client c (early ++ late) = turns client (turns client c early) late := List.foldl_append

theorem turns_concat {order : List Nat} : turns client c (order ++ [i]) = turn client (turns client c order) i :=
  turns_append

theorem turn_of_getElem? (there : xs[i]? = some x) :
    turn client (xs, s) i = (xs.set i (x.advance client s).1, (x.advance client s).2) := by
  simp only [turn, there]

theorem turn_of_length_le (outside : c.1.length ≤ i) : turn client c i = c := by
  simp only [turn, List.getElem?_eq_none outside]

/-- The turns of an exchange behind its first one come behind it. -/
theorem exists_turns_of_advance (there : xs[i]? = some x) {outcome : Outcome α} {s' : σ}
    (left : ∃ n, turns client (xs.set i (x.advance client s).1, (x.advance client s).2) (List.replicate n i) =
      ((xs.set i (x.advance client s).1).set i (.done outcome), s')) :
    ∃ n, turns client (xs, s) (List.replicate n i) = (xs.set i (.done outcome), s') := by
  obtain ⟨n, carried⟩ := left
  refine ⟨n + 1, ?_⟩
  rw [List.replicate_succ, turns, List.foldl_cons, turn_of_getElem? there]
  rwa [List.set_set] at carried

/-- An exchange that takes all its turns at once is carried out, and leaves the others where they are. -/
theorem exists_turns_eq_run (there : xs[i]? = some x) :
    ∃ n, turns client (xs, s) (List.replicate n i) = (xs.set i (.done (x.run client s).1), (x.run client s).2) := by
  have inside : i < xs.length := (List.getElem?_eq_some_iff.mp there).1
  induction x generalizing xs s with
  | done outcome =>
    have done : xs[i] = .done outcome := (List.getElem?_eq_some_iff.mp there).2
    refine ⟨0, Prod.ext ?_ rfl⟩
    show xs = xs.set i (.done outcome)
    rw [← done, List.set_getElem_self]
  | connect next ih =>
    apply exists_turns_of_advance there
    exact ih _ (List.getElem?_set_self inside) (by rwa [List.length_set])
  | ask call next ih =>
    apply exists_turns_of_advance there
    exact ih _ (List.getElem?_set_self inside) (by rwa [List.length_set])

end Venues.Exchange
