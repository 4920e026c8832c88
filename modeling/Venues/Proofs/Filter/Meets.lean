import Venues.Proofs.Filter.Entries
import Venues.Proofs.Surface.Conditions
import Venues.Proofs.Value.Order

/-! # What entries ask of values

Each entry of raw filters asks something of the values of its field, for itself alone. A condition that was read for
the field holds of a value exactly if the value meets all entries that the condition was gathered from.
-/

namespace Venues

/-! ## Conditions -/

/-- Whether a value lies on the right side of an end of a range. -/
def Filter.Bound.Keeps : Filter.Bound → Value → Value → Prop
  | .least, w, held => held.IsAtLeast w
  | .most, w, held => w.IsAtLeast held

namespace Condition

variable {kind : FieldKind} {c : Condition} {held row : Value} {column : String}

/-- Whether a condition holds of a value. -/
def Holds (held : Value) : Condition → Prop
  | .equals w => held.same w = true
  | .range least most => held.isNull = false ∧
      ∀ b : Filter.Bound, (b.of least most).isNull = true ∨ b.Keeps (b.of least most) held
  | .oneOf ws => ∃ w ∈ ws, held.same w = true
  | .contains needle => held.isNull = false ∧ held.holds needle = true

/-- A condition on a column accepts the rows with a value there that it holds of. -/
theorem accepts_iff (typed : c.IsOf kind) :
    (Predicate.ofCondition column c).accepts row = .ok true ↔ c.Holds (row.fields.get column) := by
  have single {w : Value} (typed : w.isNull = true ∨ kind.admits w = true) : w.isNull = true ∨ w.isSingle = true :=
    typed.imp_right Value.isSingle_of_admits
  cases c with
  | equals w => simp [Predicate.ofCondition, Predicate.accepts, Holds]
  | range least most =>
    rw [Predicate.ofCondition, Predicate.accepts, Value.between_eq_true_iff (single typed.1) (single typed.2), Holds]
    refine and_congr_right fun _ => ⟨?_, fun ends => ⟨ends .least, ends .most⟩⟩
    rintro ⟨low, high⟩ (_ | _)
    · exact low
    · exact high
  | oneOf ws => simp [Predicate.ofCondition, Predicate.accepts, Holds]
  | contains needle =>
    rw [Predicate.ofCondition, Predicate.accepts, Holds]
    cases row.fields.get column <;> simp [Value.contains, Value.isNull]

/-- Whether a time can be compared with the ends of a range. -/
def Suits (time : Timestamp) : Condition → Prop
  | .range least most => ∀ bound, least = .time bound ∨ most = .time bound → time.comparable bound = true
  | _ => True

/-- Whether a condition is satisfied is always known, but for ranges of times that cannot be compared. -/
theorem exists_accepts_of_suits (typed : c.IsOf kind)
    (held : (row.fields.get column).isNull = true ∨ kind.admits (row.fields.get column) = true)
    (suits : ∀ time, row.fields.get column = .time time → c.Suits time) :
    ∃ b, (Predicate.ofCondition column c).accepts row = .ok b := by
  cases c with
  | equals w => exact ⟨_, rfl⟩
  | oneOf ws => exact ⟨_, rfl⟩
  | range least most =>
    rw [Predicate.ofCondition, Predicate.accepts]
    rcases held with null | admitted
    · rw [Value.between, null]
      exact ⟨false, rfl⟩
    · refine Value.exists_between (typed.1.imp_right fun low => ?_) (typed.2.imp_right fun high => ?_)
      · exact Value.exists_isBelow admitted low fun time bound same given => suits time same bound (.inl given)
      · refine Value.exists_isBelow high admitted fun bound time given same => ?_
        rw [Timestamp.comparable, Bool.beq_comm]
        exact suits time same bound (.inr given)
  | contains needle =>
    rw [Predicate.ofCondition, Predicate.accepts]
    cases row.fields.get column <;> exact ⟨_, rfl⟩

theorem exists_accepts (timeless : kind ≠ .time) (typed : c.IsOf kind)
    (held : (row.fields.get column).isNull = true ∨ kind.admits (row.fields.get column) = true) :
    ∃ b, (Predicate.ofCondition column c).accepts row = .ok b := by
  refine exists_accepts_of_suits typed held fun time same => ?_
  rw [same] at held
  cases kind <;> simp_all [Value.isNull, FieldKind.admits]

end Condition

namespace Filter

/-! ## Entries -/

/-- Whether a value meets an entry on its field: it is at least or at most the end of a range, it is one of the items
of a list, it holds a text that is given with stars, or else it is what is given. Values are read for the kind
of the field. -/
def Meets (kind : FieldKind) (e : String × Value) (held : Value) : Prop :=
  match bound? e.1, e.2 with
  | some (_, b), v => ∃ w, kind.read v = .ok w ∧ b.Keeps w held
  | none, .list items => ∃ item ∈ items, ∃ w, kind.read item = .ok w ∧ held.same w = true
  | none, .text s =>
    if s.toList.contains wildcard then
      held.isNull = false ∧ held.holds (String.ofList (s.toList.filter (· != wildcard))) = true
    else ∃ w, kind.read (.text s) = .ok w ∧ held.same w = true
  | none, v => ∃ w, kind.read v = .ok w ∧ held.same w = true

section Reading

variable {kind : FieldKind} {name : String} {v w held : Value} {c c' : Condition} {kept : Fields}

theorem readValue_eq_ok : Surface.readValue name kind v = .ok w ↔ kind.read v = .ok w := by
  unfold Surface.readValue
  cases kind.read v with
  | error issue => exact ⟨nofun, nofun⟩
  | ok w' => simp

/-- The end of a range that was read is there exactly if it was given. -/
theorem of_readBound (read : Surface.readBound name kind v = .ok w) :
    if v.isNull then w.isNull = true else kind.read v = .ok w := by
  unfold Surface.readBound at read
  split at read <;> rename_i given
  · cases read
    rw [if_pos given]
    rfl
  · rw [if_neg given]
    exact readValue_eq_ok.mp read

/-- A plain value asks for what its condition asks for once it is read. -/
theorem holds_conditionOf_iff (plain : bound? name = none)
    (read : Surface.readCondition name kind (conditionOf v) = .ok c') : c'.Holds held ↔ Meets kind (name, v) held := by
  -- what is neither a list nor a text with stars is asked for as it is read
  have value {v : Value} (read : (Surface.readValue name kind v).map Condition.equals = .ok c') :
      c'.Holds held ↔ ∃ w, kind.read v = .ok w ∧ held.same w = true := by
    obtain ⟨w, inner, rfl⟩ := map_eq_ok.mp read
    simp [readValue_eq_ok.mp inner, Condition.Holds]
  unfold Meets
  rw [plain]
  cases v with
  | list items =>
    obtain ⟨ws, all, rfl⟩ := map_eq_ok.mp read
    constructor
    · rintro ⟨w, member, same⟩
      obtain ⟨item, there, inner⟩ := exists_of_mem_mapM all w member
      exact ⟨item, there, w, readValue_eq_ok.mp inner, same⟩
    · rintro ⟨item, there, w, inner, same⟩
      obtain ⟨w', member, inner'⟩ := exists_mem_of_mapM all item there
      cases (readValue_eq_ok.mp inner').symm.trans inner
      exact ⟨w, member, same⟩
  | text s =>
    rw [conditionOf] at read
    dsimp only
    split at read <;> rename_i starred
    · rw [Surface.readCondition] at read
      split at read
      · cases read
        rw [if_pos starred]
        exact Iff.rfl
      · cases read
    · rw [if_neg starred]
      exact value read
  | _ => exact value read

theorem isNull_of_keeps {b : Bound} (admitted : kind.admits w = true) (keeps : b.Keeps w held) :
    held.isNull = false := by
  have single := Value.isSingle_of_admits admitted
  cases held with
  | null => cases b <;> cases w <;>
      simp_all [Bound.Keeps, Value.IsAtLeast, Value.lt?, Value.same, Value.isUnordered, Value.magnitude?,
        Value.isSingle, Value.isNull, Value.isNested]
  | _ => rfl

/-- A range that was read holds of what lies on the right side of each of its ends. -/
theorem holds_range_iff {least most : Value} (given : ∃ b : Bound, (b.of least most).isNull = false)
    (read : Surface.readCondition name kind (.range least most) = .ok c') : c'.Holds held ↔
      ∀ b : Bound, (b.of least most).isNull = false → ∃ w, kind.read (b.of least most) = .ok w ∧ b.Keeps w held := by
  obtain ⟨least', readLeast, read⟩ := bind_eq_ok.mp read
  obtain ⟨most', readMost, read⟩ := bind_eq_ok.mp read
  cases read
  have ends (b : Bound) : if (b.of least most).isNull then (b.of least' most').isNull = true
      else kind.read (b.of least most) = .ok (b.of least' most') := by
    cases b
    · exact of_readBound readLeast
    · exact of_readBound readMost
  constructor
  · rintro ⟨present, keeps⟩ b there
    have read := ends b
    rw [there, if_neg Bool.false_ne_true] at read
    -- what is read of an end that was given is never null
    have single := Value.isSingle_of_admits (FieldKind.admits_of_read read)
    exact ⟨_, read, (keeps b).resolve_left fun null => by simp [Value.isSingle, null] at single⟩
  · intro all
    refine ⟨?_, fun b => ?_⟩
    · -- at least one end was given, and nothing lies beside an end but a value
      obtain ⟨b, there⟩ := given
      obtain ⟨w, read, keeps⟩ := all b there
      exact isNull_of_keeps (FieldKind.admits_of_read read) keeps
    · have read := ends b
      cases there : (b.of least most).isNull with
      | true =>
        rw [there, if_pos rfl] at read
        exact .inl read
      | false =>
        rw [there, if_neg Bool.false_ne_true] at read
        obtain ⟨w, read', keeps⟩ := all b there
        cases read.symm.trans read'
        exact .inr keeps

/-- A condition that was read holds of a value exactly if the value meets all entries on the field. -/
theorem holds_iff_meets (present : ∀ e ∈ kept, e.2.isNull = false) (gathers : Gathers kept name c)
    (read : Surface.readCondition name kind c = .ok c') :
    c'.Holds held ↔ ∀ e ∈ kept, fieldOf e.1 = name → Meets kind e held := by
  cases gathers with
  | @plain v _ asked listed plain alone =>
    subst asked
    rw [holds_conditionOf_iff plain read]
    constructor
    · intro meets e member on
      rwa [alone e member on]
    · exact fun all => all _ listed (fieldOf_of_plain plain)
  | range asked given ends all =>
    subst asked
    rw [holds_range_iff given read]
    -- each entry on the field is an end of the range
    have meets {e : String × Value} {b : Bound} (bound : bound? e.1 = some (name, b)) :
        Meets kind e held ↔ ∃ w, kind.read e.2 = .ok w ∧ b.Keeps w held := by
      unfold Meets
      rw [bound]
    constructor
    · intro keeps e member on
      obtain ⟨b, bound, value⟩ := all e member on
      rw [meets bound, value]
      exact keeps b (value ▸ present e member)
    · intro each b there
      obtain ⟨e, member, bound, value⟩ := ends b there
      rw [← value]
      exact (meets bound).mp (each e member (fieldOf_of_bound bound))

end Reading

end Filter
end Venues
