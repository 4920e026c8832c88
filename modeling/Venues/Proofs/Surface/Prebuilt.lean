import Venues.Proofs.Index.Alike
import Venues.Proofs.Index.Meaning
import Venues.Proofs.Store.Alike
import Venues.Proofs.Surface.Normal

/-! # Finished queries

A finished query is checked, and left as it is: the values of its conditions are read to see whether they can be, but
what is read does not take their place. So the backend is asked for the values that were written. As long as it takes
these for what is read from them, it answers as if they had been read. That is so for values of the kind of the field,
and for numbers and truth values that stand for others, but not for the texts that stand for such values.
-/

namespace Venues

open Store (Model Tables Reading)

/-! ## Values that are read -/

/-- A value in the way in which a backend is asked for it. -/
def Backend.sees : Backend → Value → Value
  | .index => Index.indexed
  | .relational => id

/-- Whether a backend takes a value for what is read from it: it does not tell the two apart, or both are numbers of
the same size. -/
def Backend.Takes (b : Backend) (kind : FieldKind) (v : Value) : Prop :=
  (∃ w, kind.read v = .ok w ∧ b.sees v = b.sees w) ∨
    kind.isNumeric = true ∧ v.magnitude?.isSome = true ∧ (kind = .real → ∀ n, v = .int n → IsExactReal n)

section Values

variable {b : Backend} {kind : FieldKind} {v w : Value} {size : Magnitude}

theorem Backend.sees_of_magnitude (number : v.magnitude? = some size) : b.sees v = v := by
  cases b <;> cases v <;> first | rfl | cases number

theorem Backend.Takes.alike (takes : b.Takes kind v) (read : kind.read v = .ok w) : (b.sees v).Alike (b.sees w) := by
  obtain ⟨w', read', same⟩ | ⟨numeric, number, exact⟩ := takes
  · cases read.symm.trans read'
    exact .inl same
  · obtain ⟨size, number⟩ := Option.isSome_iff_exists.mp number
    have number' := FieldKind.magnitude?_of_read numeric number exact read
    exact .inr ⟨size, by rwa [sees_of_magnitude number], by rwa [sees_of_magnitude number']⟩

end Values

/-! ## Conditions that are read -/

/-- Whether a backend takes the values of a condition for what is read from them. -/
def Condition.IsTaken (b : Backend) (kind : FieldKind) : Condition → Prop
  | .equals v => b.Takes kind v
  | .range least most => (least.isNull = true ∨ b.Takes kind least) ∧ (most.isNull = true ∨ b.Takes kind most)
  | .oneOf vs => (∀ v ∈ vs, b.Takes kind v) ∧ (b = .relational → (Condition.oneOf vs).IsExact)
  | .contains _ => True

namespace Surface

variable {s : Surface} {m : Model} {name : String} {kind : FieldKind} {b : Backend} {v w : Value} {c c' : Condition}
  {conditions : Conditions} {q q' : Query}

theorem read_of_readValue (read : readValue name kind v = .ok w) : kind.read v = .ok w := by
  unfold readValue at read
  split at read <;> cases read
  assumption

theorem readValue_of_admits (admitted : kind.admits v = true) : readValue name kind v = .ok v := by
  rw [readValue, FieldKind.read_of_admits admitted]

theorem readBound_of_admits (typed : v.isNull = true ∨ kind.admits v = true) : readBound name kind v = .ok v := by
  unfold readBound
  split
  · rename_i null
    rw [Value.isNull_eq_true null]
  · rename_i given
    exact readValue_of_admits (typed.resolve_left given)

/-- A condition with values of the kind is read as it is. -/
theorem readCondition_of_isOf (typed : c.IsOf kind) : readCondition name kind c = .ok c := by
  cases c with
  | equals v => rw [readCondition, readValue_of_admits typed, map_ok]
  | range least most => rw [readCondition, readBound_of_admits typed.1, ok_bind, readBound_of_admits typed.2, ok_bind]
  | oneOf vs =>
    have read : vs.mapM (readValue name kind) = .ok (vs.map id) :=
      mapM_eq_ok fun v member => readValue_of_admits (typed v member)
    rw [readCondition, read, List.map_id, map_ok]
  | contains needle => exact if_pos typed

theorem readConditions_of_accepted (accepted : s.Accepted conditions) : s.readConditions conditions = .ok conditions := by
  rw [readConditions, mapM_eq_ok (g := id), List.map_id]
  intro c member
  obtain ⟨d, known, typed⟩ := accepted c member
  exact readEntry_eq_ok.mpr ⟨rfl, d, known, readCondition_of_isOf typed⟩

theorem alike_of_readBound (taken : v.isNull = true ∨ b.Takes kind v) (read : readBound name kind v = .ok w) :
    (b.sees v).Alike (b.sees w) := by
  unfold readBound at read
  split at read
  · rename_i null
    cases read
    rw [Value.isNull_eq_true null]
    exact .refl _
  · rename_i given
    exact (taken.resolve_left given).alike (read_of_readValue read)

/-- What is read from a condition is alike to it for a backend that takes its values for what is read from them. -/
theorem alike_of_readCondition (taken : c.IsTaken b kind) (read : readCondition name kind c = .ok c') :
    c.Alike b.sees c' := by
  cases c with
  | equals v =>
    obtain ⟨w, inner, rfl⟩ := map_eq_ok.mp read
    exact .equals (Backend.Takes.alike taken (read_of_readValue inner))
  | range least most =>
    obtain ⟨least', readLeast, read⟩ := bind_eq_ok.mp read
    obtain ⟨most', readMost, read⟩ := bind_eq_ok.mp read
    cases read
    exact .range (alike_of_readBound taken.1 readLeast) (alike_of_readBound taken.2 readMost)
  | oneOf vs =>
    obtain ⟨ws, inner, rfl⟩ := map_eq_ok.mp read
    refine .oneOf (((List.forall₂_and_left _ _).mpr ⟨taken.1, forall₂_of_mapM inner⟩).imp fun v w ⟨takes, read⟩ => ?_)
    exact takes.alike (read_of_readValue read)
  | contains needle =>
    simp only [readCondition] at read
    split at read <;> cases read
    exact .contains needle

theorem isExact_of_isTaken (taken : c.IsTaken .relational kind) : c.IsExact := by
  cases c with
  | oneOf vs => exact taken.2 rfl
  | _ => trivial

/-! ## Queries that are read -/

/-- Whether a backend takes the values of the conditions of a surface for what is read from them. -/
def Taken (s : Surface) (conditions : Conditions) : Prop :=
  ∀ c ∈ conditions, ∀ d, s.field? c.1 = some d → c.2.IsTaken s.backend d.kind

/-- Whether the backend of a surface does not tell two queries apart. The searches for them find the same in all
documents. The predicates for them have the same answer for every record, and all readings with them have the same
rows, where the store answers both. -/
def TakesAlike (s : Surface) (q q' : Query) : Prop :=
  match s.backend with
  | .index => ∃ body body', Index.SearchBody.ofQuery s q = .ok body ∧ Index.SearchBody.ofQuery s q' = .ok body' ∧
      ∀ documents, body.search documents = body'.search documents
  | .relational => ∃ x x', s.select q = .ok x ∧ s.select q' = .ok x' ∧ x' = { x with filter := x'.filter } ∧
      (∀ row, x.filter.accepts row = x'.filter.accepts row) ∧
      ∀ (t : Tables) (m : Model) (reading : Reading) (found found' : List Store.Row), s.Describes m →
        t.findMany m { reading with filter := some x.filter } = .ok found →
        t.findMany m { reading with filter := some x'.filter } = .ok found' → found = found'

/-- What is read from a condition: it is on the same field, of its kind, and alike. -/
theorem forall₂_of_readConditions (taken : s.Taken q.conditions) (read : s.readConditions q.conditions = .ok conditions) :
    List.Forall₂ (fun c p => c.1 = p.1 ∧ ∃ d, s.field? c.1 = some d ∧ c.2.IsTaken s.backend d.kind ∧
      c.2.Alike s.backend.sees p.2 ∧ p.2.IsOf d.kind) q.conditions conditions := by
  refine ((List.forall₂_and_left _ _).mpr ⟨taken, forall₂_of_mapM read⟩).imp fun c p ⟨taken, read⟩ => ?_
  obtain ⟨name, d, known, inner⟩ := readEntry_eq_ok.mp read
  exact ⟨name.symm, d, known, taken d known, alike_of_readCondition (taken d known) inner, isOf_of_readCondition inner⟩

theorem isSome_of_readConditions (read : s.readConditions q.conditions = .ok conditions) :
    ∀ c ∈ q.conditions, (s.field? c.1).isSome = true := by
  intro c member
  obtain ⟨p, _, read⟩ := exists_mem_of_mapM read c member
  obtain ⟨_, d, known, _⟩ := readEntry_eq_ok.mp read
  exact Option.isSome_of_eq_some known

/-- A store does not tell a query from the one that is read from it. -/
theorem takesAlike_of_describes (describes : s.Describes m) (taken : s.Taken q.conditions)
    (read : s.readConditions q.conditions = .ok conditions) (sorted : (s.sortColumn? q.sorting.key).isSome = true) :
    s.TakesAlike q { q with conditions } := by
  have each := forall₂_of_readConditions taken read
  rw [describes.relational] at each
  have registered := isSome_of_readConditions read
  obtain ⟨p, p', made, made', accept⟩ := Predicate.ofQuery_relate Predicate.isCongruence_acceptAlike describes registered
    (each.imp fun c p ⟨name, _, _, _, alike, _⟩ => ⟨name, fun d _ _ _ _ => Predicate.acceptAlike_ofCondition alike d.column⟩)
  obtain ⟨order, ordered⟩ : ∃ order, s.ordering q.sorting = .ok order := by
    obtain ⟨column, found⟩ := Option.isSome_iff_exists.mp sorted
    exact ⟨_, by rw [ordering, found]⟩
  have selects (q' : Query) {filter : Predicate} (same : q'.sorting = q.sorting) (made : Predicate.ofQuery s q' = .ok filter) :
      s.select q' = .ok ⟨filter, order, q'.page.portion s.idField, if q'.withRelations then s.relations else []⟩ := by
    rw [select, made, ok_bind, same, ordered, ok_bind]
  unfold TakesAlike
  rw [describes.relational]
  refine ⟨_, _, selects q rfl made, selects { q with conditions } rfl made', rfl, accept, ?_⟩
  intro t m' reading rows rows' describes' answered answered'
  -- the predicates compile alike for every model that the surface describes
  have compiled : Predicate.Relate (Store.CompileAlike t.view) s m' q.conditions conditions := by
    refine each.imp fun c p both => ?_
    obtain ⟨name, d, known, taken, alike, typed⟩ := both
    refine ⟨name, fun d' _ known' _ column => ?_⟩
    cases known.symm.trans known'
    exact Store.compileAlike_ofCondition column alike typed (isExact_of_isTaken taken)
  obtain ⟨_, _, again, again', compile⟩ :=
    Predicate.ofQuery_relate Store.isCongruence_compileAlike describes' registered compiled
  cases made.symm.trans again
  cases made'.symm.trans again'
  exact Store.Tables.findMany_congr compile answered answered'

theorem takesAlike_search (taken : facilitySearch.Taken q.conditions)
    (read : facilitySearch.readConditions q.conditions = .ok conditions)
    (sorted : (facilitySearch.sortColumn? q.sorting.key).isSome = true) (window : checkWindow q = .ok ())
    (distance : checkDistance q = .ok ()) : facilitySearch.TakesAlike q { q with conditions } := by
  obtain ⟨sort, ordered, _⟩ := Index.exists_sortClauses sorted distance
  have alike : Conditions.Alike Index.indexed q.conditions conditions :=
    (forall₂_of_readConditions taken read).imp fun c p ⟨name, _, _, _, alike, _⟩ => ⟨name, alike⟩
  exact Index.ofQuery_congr window ordered (isSome_of_readConditions read) alike

/-- A finished query that is accepted is left as it is, though its conditions can be read, and the query with what is
read from them is accepted, too. The two are the same only if all values are of the kinds of their fields. But the
backend does not tell them apart, if it takes the values for what is read from them. -/
theorem exists_read_of_accept (known : s ∈ all) (accepted : s.accept q = .ok q') :
    q' = q ∧ ∃ conditions, s.readConditions q.conditions = .ok conditions ∧ s.Accepted conditions ∧
      s.accept { q with conditions } = .ok { q with conditions } ∧
      (s.Accepted q.conditions ↔ conditions = q.conditions) ∧
      (s.Taken q.conditions → s.TakesAlike q { q with conditions }) := by
  obtain ⟨rfl, ⟨conditions, read⟩, sorted, area, window, distance⟩ := accept_iff.mp accepted
  have typed := accepted_of_readConditions read
  refine ⟨rfl, conditions, read, typed, ?_, ?_, fun taken => ?_⟩
  · exact accept_iff.mpr ⟨rfl, ⟨conditions, readConditions_of_accepted typed⟩, sorted, area, window, distance⟩
  · constructor
    · exact fun typed => Except.ok.inj (read.symm.trans (readConditions_of_accepted typed))
    · rintro rfl
      exact typed
  · simp only [all, List.mem_cons, List.not_mem_nil, or_false] at known
    rcases known with rfl | rfl | rfl
    · exact takesAlike_search taken read sorted (window rfl) distance
    · exact takesAlike_of_describes describes_facility taken read sorted
    · exact takesAlike_of_describes describes_court taken read sorted

/-- A finished query for ratings from 4 on, given as a whole number, in listings that are published, given as 1. -/
def rated : Query where
  term := none
  conditions := [("rating", .range (.int 4) .null), ("isPublished", .equals (.int 1)),
    ("courts.indoor", .oneOf [.float 1, .bool false])]
  area := none
  sorting := ⟨.rating, .desc⟩
  page := .offset 1 10 none
  withRelations := false

theorem taken_rated : facilityListing.Taken rated.conditions := by
  have four : IsExactReal 4 := ⟨4, by decide +kernel, by decide +kernel⟩
  intro c member d known
  simp only [rated, List.mem_cons, List.not_mem_nil, or_false] at member
  rcases member with rfl | rfl | rfl <;> cases known
  · exact ⟨.inr (.inr ⟨rfl, rfl, fun _ n is => by cases is; exact four⟩), .inl rfl⟩
  · exact .inr ⟨rfl, rfl, nofun⟩
  · refine ⟨fun v listed => ?_, fun _ n listed => by simp at listed⟩
    simp only [List.mem_cons, List.not_mem_nil, or_false] at listed
    rcases listed with rfl | rfl <;> exact .inr ⟨rfl, rfl, nofun⟩

/-- The store does not tell the query from the one that is read from it, although they are not the same. -/
theorem exists_read_of_accept_rated : ∃ conditions, facilityListing.accept rated = .ok rated ∧
    facilityListing.readConditions rated.conditions = .ok conditions ∧ conditions ≠ rated.conditions ∧
    facilityListing.TakesAlike rated { rated with conditions } := by
  cases accepted : facilityListing.accept rated with
  | error fault =>
    have answered : (facilityListing.accept rated).isOk = true := by decide +kernel
    rw [accepted] at answered
    cases answered
  | ok q =>
    obtain ⟨rfl, conditions, read, _, _, typed, alike⟩ := exists_read_of_accept (by simp [all]) accepted
    refine ⟨conditions, rfl, read, fun same => ?_, alike taken_rated⟩
    obtain ⟨d, known, admitted⟩ := typed.mpr same ("isPublished", .equals (.int 1)) (by simp [rated])
    cases known
    cases admitted

/-- A finished query for what is published, spelled out. -/
def spelled : Query where
  term := none
  conditions := [("isPublished", .equals (.text "yes"))]
  area := none
  sorting := ⟨.createdAt, .desc⟩
  page := .offset 1 10 none
  withRelations := false

/-- The query that is read from it. -/
def published : Query := { spelled with conditions := [("isPublished", .equals (.bool true))] }

/-- The query is accepted, but its value is no truth value, and the index does not find a document that it finds for
the query that is read from it. -/
theorem accept_spelled : facilitySearch.accept spelled = .ok spelled ∧
    facilitySearch.readConditions spelled.conditions = .ok published.conditions ∧
    ¬ facilitySearch.Accepted spelled.conditions ∧ ∃ body body',
      Index.SearchBody.ofQuery facilitySearch spelled = .ok body ∧
      Index.SearchBody.ofQuery facilitySearch published = .ok body' ∧
      body.search [Index.entry Index.club] = .ok [] ∧
      (body'.search [Index.entry Index.club]).toOption.map (List.map Index.Found.id) = some ["1"] := by
  refine ⟨rfl, rfl, fun accepted => ?_, _, _, rfl, rfl, ?_, by decide +kernel⟩
  · obtain ⟨d, known, admitted⟩ := accepted ("isPublished", .equals (.text "yes")) (by simp [spelled])
    cases known
    cases admitted
  · with_unfolding_all rfl

end Surface
end Venues
