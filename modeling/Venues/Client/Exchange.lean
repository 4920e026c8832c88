import Venues.Client.Call

/-! # Exchanges

An exchange is a conversation with the search index: it connects, makes calls, and goes on as the
replies tell it. It is kept apart from the client that carries it out, so the same exchange runs
against a real index, an index in memory or a list of prepared replies, and the calls of several
exchanges can be interleaved.
-/

namespace Venues

/-- A conversation with the search index that ends with an outcome. -/
inductive Exchange (α : Type) where
  | done (outcome : Outcome α)
  /-- Asks for a connection; there may be none, and looking for one may fail. -/
  | connect (next : Outcome Bool → Exchange α)
  | ask (call : Call) (next : Reply → Exchange α)

/-- What carries out exchanges: it finds a connection and answers calls. -/
structure Client (σ : Type) where
  connect : σ → Outcome Bool × σ
  answer : Call → σ → Reply × σ

namespace Exchange

variable {α β σ : Type}

/-! ## Sequencing -/

/-- Goes on with the outcome of an exchange, be it a result or a fault. -/
def andThen (next : Outcome α → Exchange β) : Exchange α → Exchange β
  | .done outcome => next outcome
  | .connect k => .connect fun c => andThen next (k c)
  | .ask call k => .ask call fun r => andThen next (k r)

/-- Goes on with the result of an exchange. -/
protected def bind (x : Exchange α) (next : α → Exchange β) : Exchange β :=
  x.andThen fun
    | .ok a => next a
    | .error f => .done (.error f)

instance : Monad Exchange where
  pure a := .done (.ok a)
  bind := Exchange.bind

def ofOutcome (outcome : Outcome α) : Exchange α := .done outcome

instance : MonadLift (Except Fault) Exchange where
  monadLift := ofOutcome

def stop (fault : Fault) : Exchange α := .done (.error fault)

def handle (x : Exchange α) (recover : Fault → Exchange α) : Exchange α :=
  x.andThen fun
    | .ok a => .done (.ok a)
    | .error f => recover f

/-! ## Steps -/

def call (c : Call) : Exchange Value := .ask c .done

/-- Takes the answer that something does not exist as a result. -/
def orAbsent (x : Exchange α) (absent : α) : Exchange α :=
  x.handle fun
    | .client e => if e.isNotFound then .done (.ok absent) else .stop (.client e)
    | f => .stop f

def isConnected : Exchange Bool := .connect .done

/-- Goes on only with a connection; the fault says that there is none. -/
def require (fault : Fault) : Exchange Unit := do
  if ← isConnected then pure () else stop fault

/-! ## Running -/

/-- Carries out an exchange with a client. -/
def run (client : Client σ) : Exchange α → σ → Outcome α × σ
  | .done outcome, s => (outcome, s)
  | .connect next, s =>
    let (r, s) := client.connect s
    run client (next r) s
  | .ask c next, s =>
    let (r, s) := client.answer c s
    run client (next r) s

end Exchange
end Venues
