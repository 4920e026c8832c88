import Venues.Proofs.Filter.Meets
import Venues.Proofs.Listing.Courts
import Venues.Proofs.Predicate.Accepts
import Venues.Proofs.Store.Agreement

/-! # Rows selected by raw filters

The predicate of raw filters accepts a row exactly if the row meets all entries that are kept of the filters. These
are all entries with values, in whatever order they stand, unless two of them compete for a field.
-/

namespace Venues

open Store (Model Row Tables)
open Venues.Filter (entries kept fieldOf Apart)
open Predicate (partsOn)

/-! ## Filters that a surface accepts -/

namespace Surface

/-- Whether values meet all entries on the fields of a relation, or on those of the row itself. -/
def MeetsOn (s : Surface) (relation? : Option String) (es values : Fields) : Prop :=
  ∀ e ∈ es, ∀ d, s.field? (fieldOf e.1) = some d → d.relation = relation? →
    Filter.Meets d.kind e (values.get d.column)

/-- Only the values of the fields on the relation are looked at. -/
theorem meetsOn_congr {s : Surface} {relation? : Option String} {es values values' : Fields}
    (same : ∀ name d, s.field? name = some d → d.relation = relation? → values.get d.column = values'.get d.column) :
    s.MeetsOn relation? es values ↔ s.MeetsOn relation? es values' :=
  forall₂_congr fun _ _ => forall₃_congr fun d known on => by rw [same _ d known on]

variable {s : Surface} {raw : Fields} {found : Conditions} {e : String × Value} {p : String × Condition}
  {d : FieldDef} {held row : Value} {relation? : Option String}

variable (read : s.readFilters (.object raw) = .ok found)
include read

/-- A condition that was read holds of a value exactly if the value meets all entries on its field. -/
theorem holds_iff_meets (member : p ∈ found) (known : s.field? p.1 = some d) :
    p.2.Holds held ↔ ∀ e ∈ kept raw, fieldOf e.1 = p.1 → Filter.Meets d.kind e held := by
  obtain ⟨c, asked, inner⟩ := exists_of_mem_mapM read p member
  obtain ⟨name, d', known', inner⟩ := readEntry_eq_ok.mp inner
  have collects := Filter.collects_parse raw
  rw [name] at known ⊢
  cases known'.symm.trans known
  exact Filter.holds_iff_meets collects.present (collects.gathers c asked) inner

theorem exists_of_mem_kept (member : e ∈ kept raw) : ∃ p ∈ found, p.1 = fieldOf e.1 := by
  obtain ⟨c, asked, name⟩ := List.mem_map.mp ((Filter.collects_parse raw).covers e member)
  obtain ⟨p, there, inner⟩ := exists_mem_of_mapM read c asked
  exact ⟨p, there, (readEntry_eq_ok.mp inner).1.trans name⟩

/-- The parts on a relation accept a row exactly if its values meet all entries on fields of the relation. -/
theorem accepts_partsOn : (∀ part ∈ partsOn s relation? found, part.accepts row = .ok true) ↔
    s.MeetsOn relation? (kept raw) row.fields := by
  have accepted := accepted_of_readFilters read
  have part {p : String × Condition} {d : FieldDef} (member : p ∈ found) (known : s.field? p.1 = some d) :
      (Predicate.ofCondition d.column p.2).accepts row = .ok true ↔
      ∀ e ∈ kept raw, fieldOf e.1 = p.1 → Filter.Meets d.kind e (row.fields.get d.column) := by
    obtain ⟨d', known', typed⟩ := accepted p member
    cases known'.symm.trans known
    rw [Condition.accepts_iff typed, holds_iff_meets read member known]
  constructor
  · intro all e member d known on
    obtain ⟨p, there, name⟩ := exists_of_mem_kept read member
    rw [← name] at known
    exact (part there known).mp (all _ (Predicate.mem_partsOn.mpr ⟨p, there, d, known, on, rfl⟩)) e member name.symm
  · intro all q member
    obtain ⟨p, there, d, known, on, rfl⟩ := Predicate.mem_partsOn.mp member
    exact (part there known).mpr fun e member name => all e member d (name ▸ known) on

/-- There are parts on a relation exactly if there are entries on its fields. -/
theorem partsOn_ne_nil_iff : partsOn s relation? found ≠ [] ↔
    ∃ e ∈ kept raw, ∃ d, s.field? (fieldOf e.1) = some d ∧ d.relation = relation? := by
  constructor
  · intro some'
    obtain ⟨q, part⟩ := List.exists_mem_of_ne_nil _ some'
    obtain ⟨p, there, d, known, on, _⟩ := Predicate.mem_partsOn.mp part
    obtain ⟨c, asked, inner⟩ := exists_of_mem_mapM read p there
    obtain ⟨e, member, name⟩ := ((Filter.collects_parse raw).gathers c asked).exists_mem
    rw [(readEntry_eq_ok.mp inner).1, ← name] at known
    exact ⟨e, member, d, known, on⟩
  · rintro ⟨e, member, d, known, on⟩
    obtain ⟨p, there, name⟩ := exists_of_mem_kept read member
    exact List.ne_nil_of_mem (Predicate.mem_partsOn.mpr ⟨p, there, d, name ▸ known, on, rfl⟩)

end Surface

/-! ## Rows -/

/-- Whether a row meets entries: each is on a field of the surface, the row's own values meet those on its own
fields, and if some are on a relation, the values of one of the related rows meet all of these. -/
structure Store.Tables.Meets (t : Tables) (s : Surface) (es : Fields) (r : Row) : Prop where
  known : ∀ e ∈ es, (s.field? (fieldOf e.1)).isSome = true
  own : s.MeetsOn none es r.values
  related : ∀ relation, (∃ e ∈ es, ∃ d, s.field? (fieldOf e.1) = some d ∧ d.relation = some relation) →
    ∃ a ∈ t.related r relation, s.MeetsOn (some relation) es a.values

/-- Which entries there are matters, and not their order. -/
theorem Store.Tables.Meets.congr {t : Tables} {s : Surface} {es es' : Fields} {r : Row} (meets : t.Meets s es r)
    (same : ∀ e, e ∈ es' ↔ e ∈ es) : t.Meets s es' r := by
  obtain ⟨known, own, related⟩ := meets
  simp only [Surface.MeetsOn, ← same] at known own related
  exact ⟨known, own, related⟩

/-- A record holds the values of the row on which a field of a surface is found. -/
theorem Store.get_field {t : Tables} {r : Row} {s : Surface} {m : Model} {name : String} {d : FieldDef} {n : Nat}
    (describes : s.Describes m) (known : s.field? name = some d) (target : d.target? m = some r.model) :
    (t.record n r).fields.get d.column = r.values.get d.column := by
  have column := describes.fields (name, d) (mem_of_lookup known)
  rw [show (name, d).2.target? m = some r.model from target] at column
  exact get_record column

namespace Listing

variable {l : Listing} {t : Tables} {raw : Fields} {found : Conditions} {p : Predicate} {r : Row}

/-- A field of courts that facilities can be filtered by holds nothing, or a value of its kind, which is not time. -/
theorem admits_court {name : String} {d : FieldDef} (known : Surface.facilityListing.field? name = some d)
    (on : d.relation = some "courts") (c : Court) : d.kind ≠ .time ∧
      ((c.values.get d.column).isNull = true ∨ d.kind.admits (c.values.get d.column) = true) := by
  -- there are three such fields, so the columns are looked at one by one
  have all : ∀ f ∈ Surface.facilityListing.fields, f.2.relation = some "courts" →
      f.2 ∈ [{ relation := some "courts", column := "sport" },
        { relation := some "courts", column := "indoor", kind := .truth },
        { relation := some "courts", column := "is_active", kind := .truth }] := by
    simp [Surface.facilityListing]
  have one := all _ (mem_of_lookup known) on
  simp only [List.mem_cons, List.not_mem_nil, or_false] at one
  rcases one with rfl | rfl | rfl
  · refine ⟨by decide, ?_⟩
    show (Value.ofText? c.sport).isNull = true ∨ FieldKind.text.admits (.ofText? c.sport) = true
    cases c.sport <;> simp [Value.ofText?, Value.isNull, FieldKind.admits]
  · refine ⟨by decide, ?_⟩
    show (Value.ofOption (c.indoor.map .bool)).isNull = true ∨
      FieldKind.truth.admits (.ofOption (c.indoor.map .bool)) = true
    cases c.indoor <;> simp [Value.ofOption, Value.isNull, FieldKind.admits]
  · refine ⟨by decide, ?_⟩
    show (Value.ofOption (c.isActive.map .bool)).isNull = true ∨
      FieldKind.truth.admits (.ofOption (c.isActive.map .bool)) = true
    cases c.isActive <;> simp [Value.ofOption, Value.isNull, FieldKind.admits]

/-- The predicate on courts accepts a facility exactly if one of its courts meets all entries on courts. -/
theorem accepts_courts {g : Facility} {n : Nat} (read : Surface.facilityListing.readFilters (.object raw) = .ok found) :
    (Predicate.related "courts" (.all (partsOn Surface.facilityListing (some "courts") found))).accepts
        (t.record (n + 1) (.facility g)) = .ok true ↔
      ∃ a ∈ t.related (.facility g) "courts", Surface.facilityListing.MeetsOn (some "courts") (kept raw) a.values := by
  have get (c : Court) (name : String) (d : FieldDef) (known : Surface.facilityListing.field? name = some d)
      (on : d.relation = some "courts") : (t.record n (.court c)).fields.get d.column = c.values.get d.column :=
    Store.get_field Surface.describes_facility known (by rw [FieldDef.target?, on]; rfl)
  have answers (c : Court) : ∃ b, (Predicate.all (partsOn Surface.facilityListing (some "courts") found)).accepts
      (t.record n (.court c)) = .ok b := by
    refine Predicate.exists_accepts_all fun q part => ?_
    obtain ⟨p, there, d, known, on, rfl⟩ := Predicate.mem_partsOn.mp part
    obtain ⟨d', known', typed⟩ := Surface.accepted_of_readFilters read p there
    cases known'.symm.trans known
    obtain ⟨timeless, held⟩ := admits_court known on c
    exact Condition.exists_accepts timeless typed (by rwa [get c p.1 d known on])
  rw [Predicate.accepts, Store.get_courts, Tables.exists_related_courts]
  refine (someItem_eq_true_iff (List.forall_mem_map.mpr fun c _ => answers c)).trans ?_
  simp only [List.mem_map, exists_exists_and_eq_and]
  -- court by court, since the test has an answer for each of them
  refine exists_congr fun c => and_congr_right fun _ => ?_
  rw [Predicate.accepts_all, Surface.accepts_partsOn read]
  exact Surface.meetsOn_congr (get c)

/-- Courts are not filtered by fields of other rows. -/
theorem partsOn_courtListing {relation : String} : partsOn Surface.courtListing (some relation) found = [] := by
  refine List.eq_nil_iff_forall_not_mem.mpr fun q part => ?_
  obtain ⟨c, _, d, known, on, _⟩ := Predicate.mem_partsOn.mp part
  have none : ∀ f ∈ Surface.courtListing.fields, f.2.relation = none := by decide
  cases (none (c.1, d) (mem_of_lookup known)).symm.trans on

/-- The predicate of raw filters accepts a row exactly if the row meets all entries that are kept of the filters. -/
theorem accepts_iff_meets (known : l = .facilities ∨ l = .courts) (read : l.surface.readFilters (.object raw) = .ok found)
    (made : Predicate.ofConditions l.surface found = .ok p) (model : r.model = l.model) (n : Nat) :
    p.accepts (t.record (n + 1) r) = .ok true ↔ t.Meets l.surface (kept raw) r := by
  have own : (∀ q ∈ partsOn l.surface none found, q.accepts (t.record (n + 1) r) = .ok true) ↔
      l.surface.MeetsOn none (kept raw) r.values := by
    rw [Surface.accepts_partsOn read]
    exact Surface.meetsOn_congr fun _ d registered on =>
      Store.get_field (describes known) registered (by rw [FieldDef.target?, on, model])
  have related {relation : String} (some' : partsOn l.surface (some relation) found ≠ []) :
      (Predicate.related relation (.all (partsOn l.surface (some relation) found))).accepts (t.record (n + 1) r) =
        .ok true ↔ ∃ a ∈ t.related r relation, l.surface.MeetsOn (some relation) (kept raw) a.values := by
    rcases known with rfl | rfl
    · -- facilities have no relation but that to their courts
      cases Predicate.relation_eq_courts some'
      cases r with
      | facility g => exact accepts_courts read
      | court c => cases model
    · exact absurd partsOn_courtListing some'
  rw [Predicate.holds_ofConditions (H := fun p => p.accepts (t.record (n + 1) r) = .ok true) Predicate.accepts_all made,
    own]
  constructor
  · rintro ⟨own, all⟩
    refine ⟨fun e member => ?_, own, fun relation on => ?_⟩
    · obtain ⟨p, there, name⟩ := Surface.exists_of_mem_kept read member
      obtain ⟨d, known, _⟩ := Surface.accepted_of_readFilters read p there
      rw [← name, known]
      rfl
    · have some' := (Surface.partsOn_ne_nil_iff read).mpr on
      exact (related some').mp (all relation some')
  · intro meets
    exact ⟨meets.own, fun relation some' =>
      (related some').mpr (meets.related relation ((Surface.partsOn_ne_nil_iff read).mp some'))⟩

/-- Raw filters that a surface accepts become a predicate, which accepts the rows that meet all entries that are
kept of the filters. If no two entries compete, these are all entries that have values, and the predicate of the
same entries in any other order accepts the same rows. -/
theorem exists_meets (known : l = .facilities ∨ l = .courts) (read : l.surface.readFilters (.object raw) = .ok found) :
    ∃ p, Predicate.ofConditions l.surface found = .ok p ∧
      (∀ (t : Tables) (r : Row) (n : Nat), r.model = l.model →
        (p.accepts (t.record (n + 1) r) = .ok true ↔ t.Meets l.surface (kept raw) r)) ∧
      (Apart (entries raw) → kept raw = (entries raw).filter (fun e => !e.2.isNull) ∧
        ∀ raw', (entries raw).Perm (entries raw') → ∃ found' p',
          l.surface.readFilters (.object raw') = .ok found' ∧ Predicate.ofConditions l.surface found' = .ok p' ∧
          ∀ (t : Tables) (r : Row) (n : Nat), r.model = l.model →
            (p'.accepts (t.record (n + 1) r) = .ok true ↔ p.accepts (t.record (n + 1) r) = .ok true)) := by
  have built {raw : Fields} {found : Conditions} (read : l.surface.readFilters (.object raw) = .ok found) :
      ∃ p, Predicate.ofConditions l.surface found = .ok p := by
    have closed : Predicate.IsClosed fun _ _ => True := ⟨fun _ => trivial, fun _ => trivial, fun _ _ => trivial⟩
    obtain ⟨ps, made, _⟩ := Predicate.exists_ofConditions closed (describes known)
      (Surface.accepted_of_readFilters read) fun _ _ _ _ _ _ _ _ => trivial
    exact ⟨_, made⟩
  obtain ⟨p, made⟩ := built read
  refine ⟨p, made, fun t r n model => accepts_iff_meets known read made model n, fun apart => ?_⟩
  have all := Filter.kept_eq_of_apart apart
  refine ⟨all, fun raw' perm => ?_⟩
  -- conditions are read one by one, so those of the other order are read as well
  obtain ⟨found', read', _⟩ := exists_perm_of_mapM (Filter.parse_perm apart perm) read
  replace read' : l.surface.readFilters (.object raw') = .ok found' := read'
  obtain ⟨p', made'⟩ := built read'
  refine ⟨found', p', read', made', fun t r n model => ?_⟩
  have same : (kept raw).Perm (kept raw') := by
    rw [all, Filter.kept_eq_of_apart (apart.perm perm)]
    exact perm.filter _
  rw [accepts_iff_meets known read made model n, accepts_iff_meets known read' made' model n]
  exact ⟨fun meets => meets.congr fun _ => same.mem_iff, fun meets => meets.congr fun _ => same.symm.mem_iff⟩

/-- A facility by a park, with a court for tennis. -/
def parkside : Tables where
  facilities := [{ (default : Facility) with id := ⟨1⟩, name := some "Parkside", rating := some 4.5 }]
  courts := [{ (default : Court) with id := ⟨2⟩, facilityId := some ⟨1⟩, sport := some "TENNIS" }]

/-- What asks for parks with good ratings and a court for tennis. -/
def parkFilters : Fields := [("name", .text "*park*"), ("rating_to", .int 5),
  ("courts", .object [("sport", .text "TENNIS"), ("indoor", .null)]), ("rating_from", .int 4)]

/-- The same entries in another order, and without an object. -/
def turnedFilters : Fields := [("courts.sport", .text "TENNIS"), ("courts.indoor", .null), ("rating_from", .int 4),
  ("name", .text "*park*"), ("rating_to", .int 5)]

theorem perm_turnedFilters : (entries parkFilters).Perm (entries turnedFilters) := by
  have cut : entries turnedFilters = (entries parkFilters).drop 2 ++ (entries parkFilters).take 2 := by rfl
  rw [cut]
  exact (List.Perm.of_eq (List.take_append_drop 2 _).symm).trans List.perm_append_comm

/-- The facility meets all entries, and is accepted for them in both orders. -/
theorem exists_meets_parkside : ∃ found found' p p', facilities.surface.readFilters (.object parkFilters) = .ok found ∧
    Predicate.ofConditions facilities.surface found = .ok p ∧
    facilities.surface.readFilters (.object turnedFilters) = .ok found' ∧
    Predicate.ofConditions facilities.surface found' = .ok p' ∧ ∀ g ∈ parkside.facilities,
      parkside.Meets facilities.surface ((entries parkFilters).filter fun e => !e.2.isNull) (.facility g) ∧
      p'.accepts (parkside.record 1 (.facility g)) = .ok true := by
  obtain ⟨found, p, read, made, answer⟩ : ∃ found p, facilities.surface.readFilters (.object parkFilters) = .ok found ∧
      Predicate.ofConditions facilities.surface found = .ok p ∧
      ∀ g ∈ parkside.facilities, (p.accepts (parkside.record 1 (.facility g))).toOption = some true :=
    ⟨_, _, rfl, rfl, by decide +kernel⟩
  obtain ⟨_, made', meets, orders⟩ := exists_meets (.inl rfl) read
  cases made.symm.trans made'
  obtain ⟨all, orders⟩ := orders (by decide)
  obtain ⟨found', p', read', made', same⟩ := orders turnedFilters perm_turnedFilters
  refine ⟨found, found', p, p', read, made, read', made', fun g member => ?_⟩
  have accepted : p.accepts (parkside.record 1 (.facility g)) = .ok true := by
    have answer := answer g member
    cases h : p.accepts (parkside.record 1 (.facility g)) <;> simp_all [Except.toOption]
  exact ⟨all ▸ (meets parkside (.facility g) 0 rfl).mp accepted, (same parkside (.facility g) 0 rfl).mpr accepted⟩

/-- What asks for a name, and for names from another one on. -/
def arenaFilters : Fields := [("name", .text "Arena"), ("name_from", .text "A")]

/-- Where entries compete, one of them is lost, and which one depends on their order: a facility that has not the
name that is asked for is accepted in one order only. -/
theorem accepts_arenaFilters : ∃ found found' p p', facilities.surface.readFilters (.object arenaFilters) = .ok found ∧
    Predicate.ofConditions facilities.surface found = .ok p ∧
    facilities.surface.readFilters (.object arenaFilters.reverse) = .ok found' ∧
    Predicate.ofConditions facilities.surface found' = .ok p' ∧ ∀ g ∈ parkside.facilities,
      p.accepts (parkside.record 1 (.facility g)) = .ok true ∧ p'.accepts (parkside.record 1 (.facility g)) = .ok false ∧
      ¬ Filter.Meets .text ("name", .text "Arena") (g.values.get "name") := by
  refine ⟨_, _, _, _, rfl, rfl, rfl, rfl, List.forall_mem_singleton.mpr ⟨by with_unfolding_all rfl, by rfl, ?_⟩⟩
  rintro ⟨w, read, same⟩
  cases read
  cases same

end Listing
end Venues
