import Venues.Client.Exchange
import Venues.Settings

/-! # The shared connection

A process holds at most one connection to the index. It is made when it is first asked for, and held
once the index has answered; a connection that was never answered is given up. Where the settings
turn the index off, nothing is connected.
-/

namespace Venues

/-! ## Options -/

/-- How a connection is made. -/
structure ConnectionOptions where
  hosts : List String
  /-- Name and password, when both are given. -/
  login : Option (String × String)
  /-- Seconds to wait for an answer. -/
  timeout : Float
  retries : Int
  retriesOnTimeout : Bool

namespace ConnectionOptions

/-- The options that the settings ask for; there are none for a timeout too large to be waited for. -/
def ofSettings (s : Settings) : Outcome ConnectionOptions :=
  match realOfInt? s.indexTimeoutMs with
  | none => .error .overflow
  | some milliseconds => .ok {
      hosts := [s.indexUrl]
      login :=
        match s.indexUser, s.indexPassword with
        | some user, some password =>
          if user = "" ∨ password = "" then none else some (user, password)
        | _, _ => none
      timeout := milliseconds / 1000
      retries := s.indexRetries
      retriesOnTimeout := decide (0 < s.indexRetries) }

def toValue (o : ConnectionOptions) : Value :=
  .object [("hosts", .texts o.hosts),
    ("basic_auth", .ofOption (o.login.map fun l => .texts [l.1, l.2])),
    ("request_timeout", .float o.timeout), ("max_retries", .int o.retries),
    ("retry_on_timeout", .bool o.retriesOnTimeout)]

end ConnectionOptions

/-! ## Making a connection -/

/-- How an attempt to connect goes: whether a client can be made at all, and what the index answers
to it. -/
structure Attempt where
  construct : Except Fault Unit := .ok ()
  ping : Outcome Bool := .ok true

/-- The connection of a process: the client that is held, with its number, and the number of clients
made so far. -/
structure Connection (σ : Type) where
  held : Option (Nat × σ) := none
  made : Nat := 0

namespace Connection

variable {σ : Type}

/-- Makes a client and puts it to no use. -/
def make (s : Settings) (attempt : Attempt) (c : Connection σ) : Outcome Unit × Connection σ :=
  match ConnectionOptions.ofSettings s, attempt.construct with
  | .error f, _ | .ok _, .error f => (.error f, c)
  | .ok _, .ok _ => (.ok (), { c with made := c.made + 1 })

/-- Whether a fault says that a value is of no use to a client, so that no client can be made from it. -/
def isUseless : Fault → Bool
  | .misuse _ | .schema _ | .incomparable => true
  | _ => false

/-- Makes a client, and holds it once the index has answered. A client that cannot be made from its values and
an index that does not answer mean that there is no connection; what else goes wrong is a fault. -/
def connectFresh (s : Settings) (attempt : Attempt) (fresh : σ) (c : Connection σ) : Outcome Bool × Connection σ :=
  match c.make s attempt with
  | (.error f, c) => (if isUseless f then .ok false else .error f, c)
  | (.ok _, made) =>
    match attempt.ping with
    | .ok true => (.ok true, { made with held := some (c.made, fresh) })
    | .ok false => (.ok false, made)
    | .error f => (if f.isOfClient then .ok false else .error f, made)

/-- Connects, unless the settings turn the index off: takes the client that is held, or a fresh one. -/
def acquire (s : Settings) (attempt : Attempt) (fresh : σ) (c : Connection σ) :
    Outcome Bool × Connection σ :=
  if !s.indexEnabled then (.ok false, c)
  else if c.held.isSome then (.ok true, c)
  else c.connectFresh s attempt fresh

def reset (c : Connection σ) : Connection σ := { c with held := none }

/-- The client that carries out exchanges over the connection. -/
def client (s : Settings) (attempt : Attempt) (fresh : σ) (inner : Client σ) :
    Client (Connection σ) where
  connect c := c.acquire s attempt fresh
  answer call c :=
    match c.held with
    | none => (.error (.client .connection), c)
    | some (number, state) =>
      let (reply, state) := inner.answer call state
      (reply, { c with held := some (number, state) })

end Connection
end Venues
