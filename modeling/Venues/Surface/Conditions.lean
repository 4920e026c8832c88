import Venues.Filter.Raw
import Venues.Surface

/-! # Conditions on a surface

The conditions of a request are checked against a surface: every field must be registered, every
value must stand for one of the field's kind, and a part of a text can be asked for in a text only.
The values that are read take the place of those that were written.
-/

namespace Venues.Surface

def readValue (name : String) (kind : FieldKind) (v : Value) : Outcome Value :=
  match kind.read v with
  | .ok w => .ok w
  | .error issue => refuse (.badFilterValue name issue)

/-- Reads one end of a range; null stays open. -/
def readBound (name : String) (kind : FieldKind) (v : Value) : Outcome Value :=
  if v.isNull then .ok .null else readValue name kind v

/-- Reads the values of a condition on a field of a kind. -/
def readCondition (name : String) (kind : FieldKind) : Condition → Outcome Condition
  | .equals v => (readValue name kind v).map .equals
  | .oneOf vs => (vs.mapM (readValue name kind)).map .oneOf
  | .range least most => do
    let least ← readBound name kind least
    let most ← readBound name kind most
    .ok (.range least most)
  | .contains needle =>
    if kind = .text then .ok (.contains needle) else refuse (.wildcardOnNonText name)

def readEntry (s : Surface) (entry : String × Condition) : Outcome (String × Condition) :=
  match s.field? entry.1 with
  | none => refuse (.unknownFilter entry.1 s.fieldNames)
  | some d => (readCondition entry.1 d.kind entry.2).map fun c => (entry.1, c)

def readConditions (s : Surface) (conditions : Conditions) : Outcome Conditions :=
  conditions.mapM s.readEntry

/-- Reads raw filters against a surface; null means that there are none. -/
def readFilters (s : Surface) : Value → Outcome Conditions
  | .null => .ok []
  | .object fs => s.readConditions (Filter.parse fs)
  | _ => refuse .filtersNotObject

end Venues.Surface
