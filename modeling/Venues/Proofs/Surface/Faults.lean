import Venues.Proofs.Outcome
import Venues.Surface.Request

/-! # Faults of requests

A value that is no request of a surface is refused, with a fault that says what is wrong with it. Two
values are not refused but fail in a way that no one explains: a limit that is infinite, and a list or
an object in the place of a sort field.
-/

namespace Venues

/-! ## Explained faults -/

/-- Whether an operation fails only with a fault that says what is wrong with a request. -/
def Outcome.IsExplained {α : Type} (x : Outcome α) : Prop := ∀ fault, x = .error fault → ∃ f, fault = .request f

namespace Outcome

variable {α β : Type} {x : Outcome α} {f : α → Outcome β} {a : α}

theorem isExplained_ok : IsExplained (.ok a) := nofun

theorem isExplained_refuse (fault : RequestFault) : IsExplained (refuse fault : Outcome α) := by
  rintro _ ⟨⟩
  exact ⟨fault, rfl⟩

theorem IsExplained.bind (first : x.IsExplained) (next : ∀ a, (f a).IsExplained) : (x >>= f).IsExplained := by
  intro fault failed
  rcases bind_eq_error.mp failed with failed | ⟨a, _, failed⟩
  · exact first fault failed
  · exact next a fault failed

theorem IsExplained.map {g : α → β} (explained : x.IsExplained) : IsExplained (x.map g) := fun fault failed =>
  explained fault (map_eq_error.mp failed)

theorem isExplained_mapM {as : List α} (each : ∀ a, (f a).IsExplained) : IsExplained (as.mapM f) := by
  intro fault failed
  obtain ⟨a, _, failed⟩ := exists_error_of_mapM failed
  exact each a fault failed

end Outcome

namespace Surface

open Outcome

variable {s : Surface} {raw : Fields} {fault : Fault}

/-! ## Parts that are always explained -/

theorem isExplained_requestFields {v : Value} : (requestFields v).IsExplained := by
  unfold requestFields
  split
  · exact isExplained_ok
  · split
    · exact isExplained_refuse _
    · exact isExplained_ok

theorem isExplained_checkKeys : (checkKeys raw).IsExplained := by
  unfold checkKeys
  split
  · exact isExplained_ok
  · exact isExplained_refuse _

theorem isExplained_readTerm : (readTerm raw).IsExplained := by
  unfold readTerm
  split
  · exact isExplained_ok
  · exact isExplained_ok
  · exact isExplained_refuse _

theorem isExplained_readArea : (readArea raw).IsExplained := by
  unfold readArea
  split
  · split <;> exact isExplained_ok
  · exact isExplained_ok
  · exact isExplained_refuse _

theorem isExplained_readDirection {v : Value} : (readDirection v).IsExplained := by
  unfold readDirection
  split
  · split
    · exact isExplained_ok
    · exact isExplained_refuse _
  · exact isExplained_refuse _

theorem isExplained_rawSort : (rawSort raw).IsExplained := by
  unfold rawSort
  split
  · exact isExplained_ok
  · exact isExplained_ok
  · exact isExplained_ok
  · exact isExplained_refuse _

theorem isExplained_readPlace {area? : Option Fields} {page : Fields} : (readPlace area? page).IsExplained := by
  unfold readPlace
  dsimp only
  split
  · exact isExplained_ok
  · exact isExplained_refuse _

/-! ### Conditions -/

theorem isExplained_readValue {name : String} {kind : FieldKind} {v : Value} :
    (readValue name kind v).IsExplained := by
  unfold readValue
  split
  · exact isExplained_ok
  · exact isExplained_refuse _

theorem isExplained_readBound {name : String} {kind : FieldKind} {v : Value} :
    (readBound name kind v).IsExplained := by
  unfold readBound
  split
  · exact isExplained_ok
  · exact isExplained_readValue

theorem isExplained_readCondition {name : String} {kind : FieldKind} {c : Condition} :
    (readCondition name kind c).IsExplained := by
  cases c with
  | equals v => exact isExplained_readValue.map
  | oneOf vs => exact (isExplained_mapM fun _ => isExplained_readValue).map
  | range least most =>
    exact isExplained_readBound.bind fun _ => isExplained_readBound.bind fun _ => isExplained_ok
  | contains needle =>
    rw [readCondition]
    split
    · exact isExplained_ok
    · exact isExplained_refuse _

theorem isExplained_readConditions {conditions : Conditions} : (s.readConditions conditions).IsExplained := by
  refine isExplained_mapM fun entry => ?_
  unfold readEntry
  split
  · exact isExplained_refuse _
  · exact isExplained_readCondition.map

theorem isExplained_readFilters {v : Value} : (s.readFilters v).IsExplained := by
  unfold readFilters
  split
  · exact isExplained_ok
  · exact isExplained_readConditions
  · exact isExplained_refuse _

/-! ### Finished queries -/

theorem isExplained_checkWindow {q : Query} : (checkWindow q).IsExplained := by
  unfold checkWindow
  split
  · dsimp only
    split
    · exact isExplained_refuse _
    · exact isExplained_ok
  · exact isExplained_ok

theorem isExplained_checkDistance {q : Query} : (checkDistance q).IsExplained := by
  unfold checkDistance
  split
  · exact isExplained_refuse _
  · exact isExplained_ok

theorem isExplained_accept {q : Query} : (s.accept q).IsExplained := by
  have last : (do checkDistance q; .ok q : Outcome Query).IsExplained :=
    isExplained_checkDistance.bind fun _ => isExplained_ok
  unfold accept
  refine isExplained_readConditions.bind fun _ => ?_
  dsimp only
  split
  · exact isExplained_refuse _
  · split
    · exact isExplained_refuse _
    · split
      · exact isExplained_checkWindow.bind fun _ => last
      · exact last

end Surface

/-! ## Limits -/

/-- Whether a value is a number beyond all finite ones. -/
def Value.IsInfinite (v : Value) : Prop :=
  ∃ x, v = .float x ∧ (Magnitude.ofFloat x = .lowest ∨ Magnitude.ofFloat x = .highest)

/-- Infinite numbers are the only values that are too large for a whole number. -/
theorem Value.whole_eq_overflow_iff {v : Value} : v.whole = .error .overflow ↔ v.IsInfinite := by
  cases v with
  | float x =>
    cases size : Magnitude.ofFloat x <;> simp [whole, size, IsInfinite, Magnitude.truncate?]
  | text s =>
    rw [whole]
    split <;> simp [IsInfinite]
  | _ => simp [whole, IsInfinite]

namespace Surface

open Outcome

variable {s : Surface} {raw : Fields} {fault : Fault}

theorem limitOf_eq_error_iff {v : Value} : limitOf v = .error fault ↔ fault = .overflow ∧ v.IsInfinite := by
  rw [← Value.whole_eq_overflow_iff]
  unfold limitOf
  split
  · simp [Value.whole]
  · simp_all
  · simp_all [eq_comm]
  · rename_i other
    simp_all

theorem of_checkLimit_eq_error {v : Value} (failed : checkLimit v = .error fault) :
    (∃ f, fault = .request f) ∨ fault = .overflow ∧ v.IsInfinite := by
  unfold checkLimit at failed
  split at failed
  · cases failed
  · split at failed
    · rename_i fault' unread
      cases failed
      exact .inr (limitOf_eq_error_iff.mp unread)
    · cases failed
      exact .inl ⟨_, rfl⟩
    · split at failed
      · cases failed
        exact .inl ⟨_, rfl⟩
      · cases failed

theorem checkLimit_of_isInfinite {v : Value} (infinite : v.IsInfinite) : checkLimit v = .error .overflow := by
  have present : v.isNull = false := by
    obtain ⟨x, rfl, _⟩ := infinite
    rfl
  have unread : limitOf v = .error .overflow := limitOf_eq_error_iff.mpr ⟨rfl, infinite⟩
  simp [checkLimit, present, unread]

/-! ## Sort fields -/

/-- Whether a request has a list or an object in the place of a sort field. -/
def NestsSort (raw : Fields) : Prop := ∃ field direction, rawSort raw = .ok (field, direction) ∧ field.isNested = true

theorem of_readSortKey_eq_error {field : Value} (failed : s.readSortKey field = .error fault) :
    (∃ f, fault = .request f) ∨ fault = .incomparable ∧ field.isNested = true := by
  cases field with
  | list | object =>
    cases failed
    exact .inr ⟨rfl, rfl⟩
  | text name =>
    simp only [readSortKey] at failed
    split at failed
    · simp_all
    · simp_all
    · cases failed
    · cases failed
      exact .inl ⟨_, rfl⟩
  | _ =>
    cases failed
    exact .inl ⟨_, rfl⟩

theorem of_readSorting_eq_error (failed : s.readSorting raw = .error fault) :
    (∃ f, fault = .request f) ∨ fault = .incomparable ∧ NestsSort raw := by
  unfold readSorting at failed
  rcases bind_eq_error.mp failed with failed | ⟨⟨field, direction⟩, named, failed⟩
  · exact .inl (isExplained_rawSort fault failed)
  have directed (key : SortKey) (fallback : Direction) : (if direction.truthy = true
      then readDirection direction >>= fun direction => .ok ⟨key, direction⟩
      else .ok fallback >>= fun direction => .ok ⟨key, direction⟩ : Outcome Sorting).IsExplained := by
    split
    · exact isExplained_readDirection.bind fun _ => isExplained_ok
    · exact isExplained_ok
  dsimp only at failed
  split at failed
  · exact .inl (directed _ _ fault failed)
  · rcases bind_eq_error.mp failed with failed | ⟨key, _, failed⟩
    · rcases of_readSortKey_eq_error failed with explained | ⟨rfl, nested⟩
      · exact .inl explained
      · exact .inr ⟨rfl, field, direction, named, nested⟩
    · exact .inl (directed _ _ fault failed)

theorem readSorting_of_nestsSort (nests : NestsSort raw) : s.readSorting raw = .error .incomparable := by
  obtain ⟨field, direction, named, nested⟩ := nests
  have unread : s.readSortKey field = .error .incomparable := by
    cases field <;> first | rfl | cases nested
  have present : field.isNull = false := by
    cases field <;> first | rfl | cases nested
  rw [readSorting, named, ok_bind]
  simp [present, unread, bind, Except.bind]

/-! ## Requests -/

/-- Whether a value stands for an object, all of whose keys are keys of a request. -/
def HasKeys (v : Value) (raw : Fields) : Prop := requestFields v = .ok raw ∧ checkKeys raw = .ok ()

/-- Whether all parts of a request that are read before its sorting have been read. -/
structure ReachesSorting (s : Surface) (raw : Fields) : Prop where
  limit : checkLimit (raw.get "limit") = .ok ()
  term : ∃ term, readTerm raw = .ok term
  conditions : ∃ conditions, s.readFilters (raw.get "filters") = .ok conditions
  area : ∃ area?, readArea raw = .ok area?

/-- A request that does not stand for a query is refused with an explanation, or its limit is infinite, or
it has a list or an object in the place of a sort field, and nothing before that to refuse. -/
theorem of_normalize_eq_error {v : Value} (failed : s.normalize v = .error fault) :
    (∃ f, fault = .request f) ∨
    (fault = .overflow ∧ ∃ raw, HasKeys v raw ∧ (raw.get "limit").IsInfinite) ∨
    (fault = .incomparable ∧ ∃ raw, HasKeys v raw ∧ s.ReachesSorting raw ∧ NestsSort raw) := by
  unfold normalize at failed
  -- part by part, in the order in which they are read: the first that fails is told
  rcases bind_eq_error.mp failed with failed | ⟨raw, fields, failed⟩
  · exact .inl (isExplained_requestFields fault failed)
  rcases bind_eq_error.mp failed with failed | ⟨⟨⟩, keys, failed⟩
  · exact .inl (isExplained_checkKeys fault failed)
  rcases bind_eq_error.mp failed with failed | ⟨⟨⟩, limit, failed⟩
  · rcases of_checkLimit_eq_error failed with explained | ⟨rfl, infinite⟩
    · exact .inl explained
    · exact .inr (.inl ⟨rfl, raw, ⟨fields, keys⟩, infinite⟩)
  rcases bind_eq_error.mp failed with failed | ⟨term, readTerm, failed⟩
  · exact .inl (isExplained_readTerm fault failed)
  rcases bind_eq_error.mp failed with failed | ⟨conditions, readFilters, failed⟩
  · exact .inl (isExplained_readFilters fault failed)
  rcases bind_eq_error.mp failed with failed | ⟨area?, readArea, failed⟩
  · exact .inl (isExplained_readArea fault failed)
  rcases bind_eq_error.mp failed with failed | ⟨sorting, _, failed⟩
  · rcases of_readSorting_eq_error failed with explained | ⟨rfl, nests⟩
    · exact .inl explained
    · exact .inr (.inr ⟨rfl, raw, ⟨fields, keys⟩,
        ⟨limit, ⟨term, readTerm⟩, ⟨conditions, readFilters⟩, ⟨area?, readArea⟩⟩, nests⟩)
  rcases bind_eq_error.mp failed with failed | ⟨place, _, failed⟩
  · exact .inl (isExplained_readPlace fault failed)
  · exact .inl (isExplained_accept fault failed)

theorem normalize_of_isInfinite {v : Value} (keys : HasKeys v raw) (infinite : (raw.get "limit").IsInfinite) :
    s.normalize v = .error .overflow := by
  simp only [normalize, keys.1, keys.2, checkLimit_of_isInfinite infinite, ok_bind]
  rfl

theorem normalize_of_nestsSort {v : Value} (keys : HasKeys v raw) (reaches : s.ReachesSorting raw)
    (nests : NestsSort raw) : s.normalize v = .error .incomparable := by
  obtain ⟨limit, ⟨term, readTerm⟩, ⟨conditions, readFilters⟩, ⟨area?, readArea⟩⟩ := reaches
  simp only [normalize, keys.1, keys.2, limit, readTerm, readFilters, readArea, readSorting_of_nestsSort nests,
    ok_bind]
  rfl

/-- Every value is read as a request: it stands for a query, or is refused with an explanation, but for
two failures that no one explains. One is that of an infinite limit. The other is that of a list or an
object in the place of a sort field. -/
theorem normalize_cases (s : Surface) (v : Value) :
    ((∃ q, s.normalize v = .ok q) ∨ (∃ f, s.normalize v = .error (.request f)) ∨
      s.normalize v = .error .overflow ∨ s.normalize v = .error .incomparable) ∧
    (s.normalize v = .error .overflow ↔ ∃ raw, HasKeys v raw ∧ (raw.get "limit").IsInfinite) ∧
    (s.normalize v = .error .incomparable ↔ ∃ raw, HasKeys v raw ∧ s.ReachesSorting raw ∧ NestsSort raw) := by
  refine ⟨?_, ⟨fun failed => ?_, ?_⟩, ⟨fun failed => ?_, ?_⟩⟩
  · cases outcome : s.normalize v with
    | ok q => exact .inl ⟨q, rfl⟩
    | error fault =>
      rcases of_normalize_eq_error outcome with ⟨f, rfl⟩ | ⟨rfl, _⟩ | ⟨rfl, _⟩
      · exact .inr (.inl ⟨f, rfl⟩)
      · exact .inr (.inr (.inl rfl))
      · exact .inr (.inr (.inr rfl))
  · rcases of_normalize_eq_error failed with ⟨f, same⟩ | ⟨_, infinite⟩ | ⟨same, _⟩
    · cases same
    · exact infinite
    · cases same
  · rintro ⟨raw, keys, infinite⟩
    exact normalize_of_isInfinite keys infinite
  · rcases of_normalize_eq_error failed with ⟨f, same⟩ | ⟨same, _⟩ | ⟨_, nests⟩
    · cases same
    · cases same
    · exact nests
  · rintro ⟨raw, keys, reaches, nests⟩
    exact normalize_of_nestsSort keys reaches nests

/-- A request for infinitely many results, and one that names its sort field in a list. -/
theorem normalize_unexplained :
    facilitySearch.normalize (.object [("limit", .float 1e400)]) = .error .overflow ∧
    facilitySearch.normalize (.object [("sort", .object [("field", .list [.text "name"])])]) =
      .error .incomparable := by
  have unread (x : Float) (infinite : (Value.float x).IsInfinite) :
      facilitySearch.normalize (.object [("limit", .float x)]) = .error .overflow :=
    normalize_of_isInfinite ⟨rfl, rfl⟩ infinite
  exact ⟨unread 1e400 ⟨_, rfl, .inr (by decide +kernel)⟩, rfl⟩

end Surface
end Venues
