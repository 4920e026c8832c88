import Venues.Proofs.Listing.Entries
import Venues.Proofs.Surface.Normal

/-! # What the predicate of a query means

The predicate that is built for a query is evaluated on records. It has an answer for every record of the
model whose times can be compared with those of the query, and accepts just the records that are not deleted,
satisfy all conditions on their own fields, are related to one record that satisfies all conditions on the
relation, and hold the term.
-/

namespace Venues

open Store (Model Row Tables)

/-! ## Records -/

/-- Whether a record is one of a model: its columns are null or hold values of their kinds, and its relations
lead to records of their models. The times in it are such as suit. -/
inductive Store.Model.IsRecord (suits : Timestamp → Prop) : Model → Value → Prop where
  | intro {m : Model} {row : Value}
      (columns : ∀ c ∈ m.columns, (row.fields.get c.1).isNull = true ∨ c.2.admits (row.fields.get c.1) = true)
      (times : ∀ c ∈ m.columns, ∀ time, row.fields.get c.1 = .time time → suits time)
      (related : ∀ relation target, m.relation? relation = some target →
        ∀ item ∈ row.relatedTo relation, IsRecord suits target item) : IsRecord suits m row

/-- Whether a time can be compared with the ends of all ranges among some conditions. -/
def Conditions.Suits (conditions : Conditions) (time : Timestamp) : Prop := ∀ c ∈ conditions, c.2.Suits time

theorem Store.Model.column?_of_mem {m : Model} {c : String × FieldKind} (listed : c ∈ m.columns) :
    m.column? c.1 = some c.2 := by
  revert c
  cases m <;> decide

namespace Store.Tables

variable {t : Tables} {suits : Timestamp → Prop}

/-- A record leads to records of rows, and these are of a lower depth. -/
theorem relatedTo_record {m target : Model} {r : Row} {relation : String} (member : r ∈ t.rows m)
    (leads : m.relation? relation = some target) (n : Nat) :
    ∀ item ∈ (t.record n r).relatedTo relation, ∃ k < n, ∃ a ∈ t.rows target, item = t.record k a := by
  intro item listed
  unfold Model.relation? at leads
  split at leads
  · cases leads
    obtain ⟨g, _, rfl⟩ := List.mem_map.mp member
    cases n with
    | zero => cases listed
    | succ n =>
      rw [Value.relatedTo, get_courts] at listed
      obtain ⟨c, owned, rfl⟩ := List.mem_map.mp listed
      exact ⟨n, n.lt_succ_self, _, List.mem_map_of_mem (Tables.mem_courts_of_owned owned), rfl⟩
  · cases leads
    obtain ⟨c, _, rfl⟩ := List.mem_map.mp member
    cases n with
    | zero => cases listed
    | succ n =>
      rw [Value.relatedTo, get_facility] at listed
      cases found : t.facilityOf? c with
      | none =>
        rw [found] at listed
        cases listed
      | some g =>
        -- the record of a facility is an object, so it stands for itself
        obtain ⟨fs, shape⟩ : ∃ fs, t.record n (.facility g) = .object fs := by cases n <;> exact ⟨_, rfl⟩
        rw [found, Option.map_some, Value.ofOption, shape] at listed
        have same := (List.mem_singleton.mp listed).trans shape.symm
        exact ⟨n, n.lt_succ_self, _, List.mem_map_of_mem (List.mem_of_find?_eq_some found), same⟩
  · cases leads

/-- The records of the rows of sound tables are records of their models, whatever their depth. The times in them
have no offset. -/
theorem IsSound.isRecord (sound : t.IsSound) (kept : t.IsKept) (suited : ∀ time, time.offset = none → suits time)
    (n : Nat) {m : Model} {r : Row} (member : r ∈ t.rows m) : m.IsRecord suits (t.record n r) := by
  induction n using Nat.strong_induction_on generalizing m r with
  | _ n ih =>
    have model := model_of_mem_rows member
    have get (c : String × FieldKind) (listed : c ∈ m.columns) :
        (t.record n r).fields.get c.1 = r.values.get c.1 := get_record (model ▸ Model.column?_of_mem listed)
    refine .intro (fun c listed => ?_) (fun c listed time held => ?_) fun relation target leads item listed => ?_
    · rw [get c listed]
      have held := sound.typed m r member c (model ▸ listed)
      cases absent : (r.values.get c.1).isNull with
      | true => exact .inl rfl
      | false => exact .inr (FieldKind.admits_of_holds held absent).1
    · rw [get c listed] at held
      exact suited time (kept.moments m r member c listed time held).1
    · obtain ⟨k, less, a, there, rfl⟩ := relatedTo_record member leads n item listed
      exact ih k less there

end Store.Tables

/-! ## Answers -/

/-- Whether a predicate has an answer for every record of a model. -/
def Predicate.Decides (suits : Timestamp → Prop) (m : Model) (p : Predicate) : Prop :=
  ∀ row, m.IsRecord suits row → ∃ b, p.accepts row = .ok b

namespace Predicate

variable {suits : Timestamp → Prop} {m : Model}

theorem isClosed_decides : IsClosed (Decides suits) where
  all each row record := exists_accepts_all fun p member => each p member row record
  any each row record := by
    rw [accepts_any]
    exact exists_someItem fun p member => each p member row record
  related leads inner row record := by
    obtain ⟨_, _, related⟩ := record
    rw [accepts_related]
    exact exists_someItem fun item member => inner item (related _ _ leads item member)

theorem decides_ofCondition {column : String} {kind : FieldKind} {c : Condition} (known : m.column? column = some kind)
    (typed : c.IsOf kind) (suited : ∀ time, suits time → c.Suits time) : Decides suits m (.ofCondition column c) := by
  intro row record
  obtain ⟨columns, times, _⟩ := record
  have listed := Store.Model.mem_columns known
  exact Condition.exists_accepts_of_suits typed (columns _ listed) fun time same => suited time (times _ listed time same)

end Predicate

/-! ## Conditions -/

/-- Whether values satisfy all conditions on the fields of a relation, or on those of the row itself. -/
def Surface.HoldsOn (s : Surface) (relation? : Option String) (conditions : Conditions) (values : Fields) : Prop :=
  ∀ c ∈ conditions, ∀ d, s.field? c.1 = some d → d.relation = relation? → c.2.Holds (values.get d.column)

namespace Predicate

variable {s : Surface} {m target : Model} {conditions : Conditions} {relation? : Option String} {relation : String}
  {row : Value}

theorem holdsOn_of_partsOn (accepted : s.Accepted conditions) :
    (∀ part ∈ partsOn s relation? conditions, part.accepts row = .ok true) ↔
      s.HoldsOn relation? conditions row.fields := by
  constructor
  · intro all c member d known on
    obtain ⟨d', known', typed⟩ := accepted c member
    cases known'.symm.trans known
    exact (Condition.accepts_iff typed).mp (all _ (mem_partsOn.mpr ⟨c, member, d, known, on, rfl⟩))
  · intro holds part among
    obtain ⟨c, member, d, known, on, rfl⟩ := mem_partsOn.mp among
    obtain ⟨d', known', typed⟩ := accepted c member
    cases known'.symm.trans known
    exact (Condition.accepts_iff typed).mpr (holds c member d known on)

theorem target?_of_relation {d : FieldDef} (on : d.relation = some relation) : d.target? m = m.relation? relation := by
  unfold FieldDef.target?
  rw [on]

/-- The conditions on a relation are decided for the records that the relation leads to. -/
theorem decides_partsOn (describes : s.Describes m) (accepted : s.Accepted conditions)
    (leads : m.relation? relation = some target) :
    Decides conditions.Suits target (.all (partsOn s (some relation) conditions)) := by
  refine isClosed_decides.all fun part among => ?_
  obtain ⟨c, member, d, known, on, rfl⟩ := mem_partsOn.mp among
  obtain ⟨d', known', typed⟩ := accepted c member
  cases known'.symm.trans known
  have column := describes.fields _ (mem_of_lookup known)
  rw [show (c.1, d).2.target? m = some target from (target?_of_relation on).trans leads] at column
  exact decides_ofCondition column typed fun time suits => suits c member

/-- The predicate on a relation accepts a record exactly if it leads to one that satisfies all conditions on it. -/
theorem accepts_relation (describes : s.Describes m) (accepted : s.Accepted conditions)
    (record : m.IsRecord conditions.Suits row) (on : partsOn s (some relation) conditions ≠ []) :
    (related relation (.all (partsOn s (some relation) conditions))).accepts row = .ok true ↔
      ∃ item ∈ row.relatedTo relation, s.HoldsOn (some relation) conditions item.fields := by
  obtain ⟨target, leads⟩ : ∃ target, m.relation? relation = some target := by
    obtain ⟨c, _, d, known, on⟩ := partsOn_ne_nil.mp on
    obtain ⟨target, leads, _⟩ := Option.bind_eq_some_iff.mp (describes.fields _ (mem_of_lookup known))
    exact ⟨target, (target?_of_relation on).symm.trans leads⟩
  obtain ⟨_, _, related⟩ := record
  rw [accepts_related, someItem_eq_true_iff fun item member =>
    decides_partsOn describes accepted leads item (related _ _ leads item member)]
  simp only [accepts_all, holdsOn_of_partsOn accepted]

/-! ## Terms -/

/-- Whether a record holds a text in one of some columns, whatever the case of letters. -/
def Mentions (row : Value) (columns : List String) (term : String) : Prop :=
  ∃ column ∈ columns, ∃ text, row.fields.get column = .text text ∧
    Text.lower term.toList <:+: Text.lower text.toList

theorem exists_accepts_contains {column term : String} : ∃ b, (contains column (.text term)).accepts row = .ok b := by
  rw [accepts]
  cases row.fields.get column <;> exact ⟨_, rfl⟩

theorem accepts_contains {column term : String}
    (held : (row.fields.get column).isNull = true ∨ FieldKind.text.admits (row.fields.get column) = true) :
    (contains column (.text term)).accepts row = .ok true ↔
      ∃ text, row.fields.get column = .text text ∧ Text.lower term.toList <:+: Text.lower text.toList := by
  rw [accepts]
  cases found : row.fields.get column with
  | null => simp [Value.contains]
  | text text =>
    have part : Text.isPartOf (Text.lower term.toList) (Text.lower text.toList) = true ↔
        Text.lower term.toList <:+: Text.lower text.toList := by
      rw [Text.isPartOf_iff]
      exact exists₂_congr fun _ _ => eq_comm
    simpa [Value.contains, Value.holds, Value.display] using part
  | _ =>
    rw [found] at held
    rcases held with held | held <;> cases held

/-- The search for a term accepts a record exactly if the term is in one of the columns. -/
theorem accepts_ofTerm {term? : Option String} {columns : List String} {suits : Timestamp → Prop}
    (proper : ∀ t ∈ term?, Text.strip t = t ∧ t ≠ "") (some' : columns ≠ [])
    (texts : ∀ column ∈ columns, m.column? column = some .text) (record : m.IsRecord suits row) :
    (∀ search, ofTerm term? columns = some search → search.accepts row = .ok true) ↔
      ∀ t ∈ term?, Mentions row columns t := by
  obtain ⟨held, _, _⟩ := record
  cases term? with
  | none => simp [ofTerm]
  | some t =>
    obtain ⟨stripped, nonempty⟩ := proper t rfl
    have search : ofTerm (some t) columns = some (.any (columns.map fun column => .contains column (.text t))) := by
      simp [ofTerm, stripped, nonempty, some']
    have answers : ∀ p ∈ columns.map fun column => Predicate.contains column (.text t),
        ∃ b, p.accepts row = .ok b :=
      List.forall_mem_map.mpr fun _ _ => exists_accepts_contains
    simp only [search, Option.some_inj, forall_eq', Option.mem_some_iff, accepts_any, someItem_eq_true_iff answers,
      List.mem_map, exists_exists_and_eq_and]
    exact exists_congr fun column => and_congr_right fun searched => accepts_contains (held _ (Store.Model.mem_columns (texts column searched)))

end Predicate

/-! ## Queries -/

/-- Whether a record is one that a query asks for: it is not deleted, it satisfies the conditions on its own
columns, one of its courts satisfies all conditions on courts, if there are any, and it mentions the term. -/
structure Surface.Asks (s : Surface) (q : Query) (row : Value) : Prop where
  live : row.fields.get "deleted_at" = .null
  own : s.HoldsOn none q.conditions row.fields
  court : (∃ c ∈ q.conditions, ∃ d, s.field? c.1 = some d ∧ d.relation = some "courts") →
    ∃ court ∈ row.relatedTo "courts", s.HoldsOn (some "courts") q.conditions court.fields
  term : ∀ term ∈ q.term, Predicate.Mentions row s.searchFields term

namespace Listing

open Predicate (partsOn)

variable {l : Listing} {q : Query} {request row : Value}

/-- All conditions on related rows are on courts, those of facilities. -/
theorem relation_eq_courts_of_partsOn (known : l = .facilities ∨ l = .courts) {conditions : Conditions}
    {relation : String} (on : partsOn l.surface (some relation) conditions ≠ []) : relation = "courts" := by
  rcases known with rfl | rfl
  · exact Predicate.relation_eq_courts on
  · exact absurd partsOn_courtListing on

theorem accepts_ofQuery (known : l = .facilities ∨ l = .courts) (normalizes : l.surface.Normalizes request.fields q)
    (record : l.model.IsRecord q.conditions.Suits row) {p : Predicate}
    (made : Predicate.ofQuery l.surface q = .ok p) : p.accepts row = .ok true ↔ l.surface.Asks q row := by
  have describes := describes known
  have conditions := normalizes.acceptedConditions
  have base : l.surface.baseValues = [("deleted_at", .null)] := by rcases known with rfl | rfl <;> rfl
  have searched : l.surface.searchFields ≠ [] := by rcases known with rfl | rfl <;> simp [facilities, courts,
    Surface.facilityListing, Surface.courtListing]
  have proper : ∀ t ∈ q.term, Text.strip t = t ∧ t ≠ "" := by
    intro t given
    obtain ⟨visible, stripped⟩ := Surface.stripped_of_readTerm normalizes.term t given
    refine ⟨stripped, ?_⟩
    rintro rfl
    cases visible
  have live : (Predicate.equals "deleted_at" .null).accepts row = .ok true ↔ row.fields.get "deleted_at" = .null := by
    rw [Predicate.accepts]
    cases row.fields.get "deleted_at" <;> simp [Value.same, Value.magnitude?]
  have term := Predicate.accepts_ofTerm proper searched describes.searched record
  rw [Predicate.holds_ofQuery (H := fun p => p.accepts row = .ok true) Predicate.accepts_all made, base,
    List.forall_mem_singleton, live, Predicate.holdsOn_of_partsOn conditions, term]
  -- the only relation that conditions of a listing can be on is the one to courts
  constructor
  · rintro ⟨live, own, related, term⟩
    refine ⟨live, own, fun some' => ?_, term⟩
    have some' := Predicate.partsOn_ne_nil.mpr some'
    exact (Predicate.accepts_relation describes conditions record some').mp (related "courts" some')
  · rintro ⟨live, own, court, term⟩
    refine ⟨live, own, fun relation some' => ?_, term⟩
    cases relation_eq_courts_of_partsOn known some'
    exact (Predicate.accepts_relation describes conditions record some').mpr (court (Predicate.partsOn_ne_nil.mp some'))

/-- The predicate of every request that a listing accepts has an answer for every record of its model whose times
can be compared with the ends of ranges in the request: it accepts the records that the request asks for. -/
theorem exists_filter_accepts (known : l = .facilities ∨ l = .courts) (accepted : l.surface.normalize request = .ok q)
    (record : l.model.IsRecord q.conditions.Suits row) :
    ∃ x b, l.surface.select q = .ok x ∧ x.filter.accepts row = .ok b ∧ (b = true ↔ l.surface.Asks q row) := by
  have describes := describes known
  have normalizes := Surface.normalizes_of_normalize accepted
  have conditions := normalizes.acceptedConditions
  -- the predicate has an answer because each of its parts has one
  obtain ⟨p, made, decides⟩ := Predicate.exists_ofQuery (@Predicate.isClosed_decides q.conditions.Suits) describes
    conditions
    (fun c member _ _ _ _ column typed => Predicate.decides_ofCondition column typed fun _ suits => suits c member)
    (fun _ _ _ _ => ⟨_, rfl⟩) (fun _ _ _ _ _ _ => Predicate.exists_accepts_contains)
  obtain ⟨b, answer⟩ := decides row record
  obtain ⟨x, selected⟩ := Surface.exists_select describes conditions
    (Surface.accept_iff.mp normalizes.accepted).2.2.1
  obtain ⟨p', made', ordered⟩ := bind_eq_ok.mp selected
  cases made.symm.trans made'
  obtain ⟨order, _, same⟩ := bind_eq_ok.mp ordered
  cases same
  refine ⟨_, b, selected, answer, ?_⟩
  rw [← accepts_ofQuery known normalizes record made, answer, Except.ok.injEq]

/-- A facility by a lake, which was created at the begin of the calendar. -/
def lakeside (id : Fin (2 ^ 128)) : Facility :=
  { (default : Facility) with
    id := ⟨id⟩, ownerId := some ⟨0⟩, name := some "Lakeside", slug := some "lakeside", address := some "Park Lane"
    isPublished := some true, rating := some 4.5, createdAt := some ⟨64, none⟩, updatedAt := some ⟨64, none⟩ }

/-- Two such facilities, one of them with a court for tennis. -/
def glade : Tables where
  facilities := [lakeside 1, lakeside 2]
  courts := [{ (default : Court) with
    id := ⟨3⟩, facilityId := some ⟨1⟩, name := some "Court", sport := some "TENNIS", indoor := some false
    isActive := some true, createdAt := some ⟨65, none⟩, updatedAt := some ⟨65, none⟩ }]

theorem glade_isSound : glade.IsSound where
  present := rfl
  distinct m := by cases m <;> decide
  typed m := by cases m <;> decide +kernel
  bounded m := by cases m <;> decide

/-- A query with a term, conditions on a facility, one of them a range of times, and a condition on courts. -/
def gladeQuery : Query where
  term := some "PARK"
  conditions := [("rating", .range (.float 4) .null), ("createdAt", .range (.time ⟨60, none⟩) .null),
    ("courts.sport", .equals (.text "TENNIS"))]
  area := none
  sorting := ⟨.createdAt, .desc⟩
  page := .offset 1 10 none
  withRelations := false

theorem glade_isKept : glade.IsKept where
  needed m := by cases m <;> decide
  moments m := by cases m <;> decide

theorem suits_gladeQuery (time : Timestamp) (naive : time.offset = none) : gladeQuery.conditions.Suits time := by
  simp [gladeQuery, Conditions.Suits, Condition.Suits, Timestamp.comparable, naive]

/-- Of the two facilities the query asks for the one with the court. -/
theorem exists_filter_accepts_glade : ∃ x, facilities.surface.select gladeQuery = .ok x ∧
    x.filter.accepts (glade.record 1 (.facility (lakeside 1))) = .ok true ∧
    facilities.surface.Asks gladeQuery (glade.record 1 (.facility (lakeside 1))) ∧
    x.filter.accepts (glade.record 1 (.facility (lakeside 2))) = .ok false ∧
    ¬ facilities.surface.Asks gladeQuery (glade.record 1 (.facility (lakeside 2))) := by
  have read : facilities.surface.normalize (.object [("term", .text " PARK "), ("filters", .object
    [("rating_from", .int 4), ("createdAt_from", .time ⟨60, none⟩), ("courts", .object [("sport", .text "TENNIS")])])]) =
      .ok gladeQuery := rfl
  obtain ⟨x, selected, first, second⟩ : ∃ x, facilities.surface.select gladeQuery = .ok x ∧
      (x.filter.accepts (glade.record 1 (.facility (lakeside 1)))).toOption = some true ∧
      (x.filter.accepts (glade.record 1 (.facility (lakeside 2)))).toOption = some false :=
    ⟨_, rfl, by decide +kernel, by decide +kernel⟩
  have answers (id : Fin (2 ^ 128)) (member : Row.facility (lakeside id) ∈ glade.rows .facility) :
      ∃ b, x.filter.accepts (glade.record 1 (.facility (lakeside id))) = .ok b ∧
        (b = true ↔ facilities.surface.Asks gladeQuery (glade.record 1 (.facility (lakeside id)))) := by
    obtain ⟨x', b, selected', answer, asks⟩ :=
      exists_filter_accepts (.inl rfl) read (glade_isSound.isRecord glade_isKept suits_gladeQuery 1 member)
    cases selected.symm.trans selected'
    exact ⟨b, answer, asks⟩
  obtain ⟨b, answer, asks⟩ := answers 1 (by simp [Tables.rows, glade])
  obtain ⟨b', answer', asks'⟩ := answers 2 (by simp [Tables.rows, glade])
  rw [answer] at first
  rw [answer'] at second
  cases first
  cases second
  exact ⟨x, selected, answer, asks.mp rfl, answer', fun asked => Bool.false_ne_true (asks'.mpr asked)⟩

end Listing
end Venues
