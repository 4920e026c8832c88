import Venues.Text.Quoted

/-! # Client errors

A request to the search index can fail on the way (no connection, no answer in time, an answer that
cannot be read), be answered with an error status, or stop at an error foreign to the client.
-/

namespace Venues

/-- How a request to the search index failed. -/
inductive ClientError where
  | connection
  | timeout
  | serialization (message : String)
  | status (code : Int) (message : String)
  | foreign (message : String)
  deriving DecidableEq

namespace ClientError

/-- The class of an error answer, by its status. -/
def statusName (code : Int) : String :=
  if code = 404 then "NotFoundError" else if code = 400 then "BadRequestError" else "ApiError"

/-- The text of a client error. -/
def text : ClientError → String
  | .connection => "Connection error"
  | .timeout => "Connection timed out"
  | .serialization message => message
  | .status code message => statusName code ++ "(" ++ toString code ++ ", " ++ Text.quoted message ++ ")"
  | .foreign message => message

/-- Whether the index answered that the thing asked for does not exist. -/
def isNotFound : ClientError → Bool
  | .status code _ => code == 404
  | _ => false

/-- Whether an error belongs to the client; foreign errors are nobody's to handle. -/
def isKnown : ClientError → Bool
  | .foreign _ => false
  | _ => true

/-- Whether an error status says that the index cannot answer now. -/
def isOutage (code : Int) : Bool := decide (500 ≤ code) || decide (code = 429)

end ClientError
end Venues
