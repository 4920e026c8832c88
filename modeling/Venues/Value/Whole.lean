import Venues.Fault
import Venues.Number.Read

/-! # Whole numbers of values

A truth value counts as 0 or 1, a floating-point number loses its places, and a text is read as a
free numeral. No other value stands for a whole number.
-/

namespace Venues

/-- The whole number that a value stands for. -/
def Value.whole : Value → Outcome Int
  | .bool b => .ok (if b then 1 else 0)
  | .int n => .ok n
  | .float x =>
    match Magnitude.ofFloat x with
    | .undefined => .error (.misuse .notANumber)
    | size => ((size.truncate?).map .ok).getD (.error .overflow)
  | .text s =>
    match readFreeInt s with
    | .ok n => .ok n
    | .error .malformed => .error (.misuse (.unreadableWhole s))
    | .error (.tooLong digits) => .error (.misuse (.wholeTooLong digits))
  | _ => .error .incomparable

end Venues
