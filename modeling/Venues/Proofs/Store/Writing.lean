import Mathlib.Logic.Relation
import Venues.Proofs.Fields
import Venues.Proofs.Outcome
import Venues.Proofs.Store.Sound

/-! # What statements write

A statement that is carried out writes rows one after the other, or removes one. Each row is part of one
facility at most: it is the facility, or one of its courts. What a statement does to the rows of other
facilities than those that its values name, and other rows than those that it is about, is nothing.
-/

namespace Venues.Store

/-! ## Parts of facilities -/

/-- The column of a model that says of which facility a row is part. -/
def Model.key : Model → String
  | .facility => "id"
  | .court => "facility_id"

theorem Model.column?_key (m : Model) : m.column? m.key = some .uuid := by
  cases m <;> rfl

theorem Model.key_mem_needed (m : Model) : m.key ∈ m.needed := by
  cases m <;> decide

namespace Row

variable {r : Row} {u : Uuid} {column : String} {v : Value} {values : Fields}

/-- The facility of which a row is part. -/
def facility? : Row → Option Uuid
  | .facility f => some f.id
  | .court c => c.facilityId

theorem model_set : (r.set column v).model = r.model := by cases r <;> rfl

theorem model_setAll : (r.setAll values).model = r.model := by
  induction values generalizing r with
  | nil => rfl
  | cons f values ih => exact ih.trans model_set

/-- A new value makes a row part of another facility only if it is the value of the key. -/
theorem facility?_set (moved : (r.set column v).facility? = some u) :
    r.facility? = some u ∨ column = r.model.key ∧ v.columnUuid = some u := by
  cases r with
  | facility f =>
    by_cases key : column = "id"
    · subst key
      cases named : v.columnUuid with
      | none =>
        left
        simpa [set, Facility.set, facility?, named] using moved
      | some w =>
        right
        simpa [set, Facility.set, facility?, named, Model.key, model] using moved
    · left
      have same : (f.set column v).id = f.id := by
        unfold Facility.set
        split <;> simp_all
      simpa [set, facility?, same] using moved
  | court c =>
    by_cases key : column = "facility_id"
    · subst key
      exact .inr ⟨rfl, moved⟩
    · left
      have same : (c.set column v).facilityId = c.facilityId := by
        unfold Court.set
        split <;> simp_all
      simpa [set, facility?, same] using moved

theorem facility?_setAll (moved : (r.setAll values).facility? = some u) :
    r.facility? = some u ∨ ∃ f ∈ values, f.1 = r.model.key ∧ f.2.columnUuid = some u := by
  induction values generalizing r with
  | nil => exact .inl moved
  | cons f values ih =>
    rcases ih moved with before | ⟨g, member, key, named⟩
    · rcases facility?_set before with before | ⟨key, named⟩
      · exact .inl before
      · exact .inr ⟨f, List.mem_cons_self, key, named⟩
    · exact .inr ⟨g, List.mem_cons_of_mem _ member, key.trans (by rw [model_set]), named⟩

theorem facility?_set_key {w : Uuid} (key : column = r.model.key) (read : v.columnUuid = some w) :
    (r.set column v).facility? = some w := by
  subst key
  cases r with
  | facility f => simp [set, Facility.set, facility?, Model.key, model, read]
  | court c => exact read

/-- A row that is given a key is part of the facility that the key names. -/
theorem facility?_setAll_key (keyed : ∃ f ∈ values, f.1 = r.model.key ∧ f.2.columnUuid.isSome = true)
    (moved : (r.setAll values).facility? = some u) :
    ∃ f ∈ values, f.1 = r.model.key ∧ f.2.columnUuid = some u := by
  induction values generalizing r with
  | nil =>
    obtain ⟨f, member, _⟩ := keyed
    cases member
  | cons f values ih =>
    -- the last value for the key counts, so this one only if no other follows
    by_cases later : ∃ g ∈ values, g.1 = (r.set f.1 f.2).model.key ∧ g.2.columnUuid.isSome = true
    · obtain ⟨g, member, key, named⟩ := ih later moved
      exact ⟨g, List.mem_cons_of_mem _ member, key.trans (by rw [model_set]), named⟩
    · obtain ⟨g, member, key, given⟩ := keyed
      rcases List.mem_cons.mp member with rfl | member
      · obtain ⟨w, read⟩ := Option.isSome_iff_exists.mp given
        rcases facility?_setAll (r := r.set g.1 g.2) moved with here | ⟨h, there, keyed, named⟩
        · rw [facility?_set_key key read] at here
          exact ⟨g, List.mem_cons_self, key, read.trans here⟩
        · exact absurd ⟨h, there, keyed, by rw [named]; rfl⟩ later
      · exact absurd ⟨g, member, key.trans (by rw [model_set]), given⟩ later

end Row

/-! ## New rows -/

/-- A row without values. -/
def Model.blank : Model → Row
  | .facility => .facility default
  | .court => .court default

theorem Model.row_eq (m : Model) (values : Fields) : m.row values = m.blank.setAll values := by
  have facility (values : Fields) (f : Facility) :
      (Row.facility f).setAll values = .facility (values.foldl (fun f v => f.set v.1 v.2) f) := by
    induction values generalizing f with
    | nil => rfl
    | cons v values ih => exact ih _
  have court (values : Fields) (c : Court) :
      (Row.court c).setAll values = .court (values.foldl (fun c v => c.set v.1 v.2) c) := by
    induction values generalizing c with
    | nil => rfl
    | cons v values ih => exact ih _
  cases m with
  | facility => exact (facility values default).symm
  | court => exact (court values default).symm

theorem Model.model_row (m : Model) (values : Fields) : (m.row values).model = m := by
  cases m <;> rfl

/-! ## Bound values -/

section Bound

variable {m : Model} {bind : FieldKind → Value → Outcome Value} {values values' : Fields} {u : Uuid}

/-- Whether values name the facility of which a row is to be part. -/
def Model.Names (m : Model) (values : Fields) (u : Uuid) : Prop := values.get? m.key = some (.uuid u)

/-- Bound values are those that were given, each in the form of its column. -/
theorem of_mem_bindColumns (bound : m.bindColumns bind values = .ok values') {f : String × Value}
    (member : f ∈ values') :
    ∃ v, values.get? f.1 = some v ∧ bind ((m.column? f.1).getD .text) v = .ok f.2 := by
  obtain ⟨g, given, made⟩ := exists_of_mem_mapM bound f member
  obtain ⟨w, binds, same⟩ := map_eq_ok.mp made
  cases same
  obtain ⟨c, _, held⟩ := List.mem_filterMap.mp given
  obtain ⟨v, read, same⟩ := Option.map_eq_some_iff.mp held
  cases same
  exact ⟨v, read, binds⟩

theorem eq_of_prepare {kind : FieldKind} {v w : Value} (prepared : kind.prepare v = .ok w) : w = v := by
  unfold FieldKind.prepare at prepared
  split at prepared
  · cases prepared
  · cases prepared
    rfl

/-- A column of identifiers keeps identifiers as they are, and nothing else but null. -/
theorem of_keep_uuid {v w : Value} (kept : FieldKind.uuid.keep v = .ok w) :
    w = v ∧ (v = .null ∨ ∃ x, v = .uuid x) := by
  cases v with
  | null =>
    cases kept
    exact ⟨rfl, .inl rfl⟩
  | uuid x =>
    cases kept
    exact ⟨rfl, .inr ⟨x, rfl⟩⟩
  | _ => cases kept

theorem names_of_prepared (bound : m.bindColumns FieldKind.prepare values = .ok values')
    (names : m.Names values' u) : m.Names values u := by
  obtain ⟨v, given, prepared⟩ := of_mem_bindColumns bound (Fields.mem_of_get? names)
  have same : (.uuid u : Value) = v := eq_of_prepare prepared
  rw [Model.Names, same]
  exact given

theorem names_of_kept (bound : m.bindColumns FieldKind.keep values = .ok values') {f : String × Value}
    (member : f ∈ values') (key : f.1 = m.key) (read : f.2.columnUuid = some u) : m.Names values u := by
  obtain ⟨v, given, kept⟩ := of_mem_bindColumns bound member
  rw [key, m.column?_key] at kept
  obtain ⟨same, rfl | ⟨x, rfl⟩⟩ := of_keep_uuid kept
  · rw [same] at read
    cases read
  · rw [same] at read
    cases read
    rw [Model.Names, ← key, given]

/-- A new row whose key is there is part of the facility that its values name. -/
theorem names_of_row (bound : m.bindColumns FieldKind.keep values = .ok values')
    (given : (values'.get m.key).isNull = false) (part : (m.row values').facility? = some u) : m.Names values u := by
  have blank : m.blank.model = m := by cases m <;> rfl
  rw [m.row_eq] at part
  obtain ⟨w, held⟩ : ∃ w, values'.get? m.key = some w := by
    cases held : values'.get? m.key with
    | none =>
      rw [Fields.get, held] at given
      cases given
    | some w => exact ⟨w, rfl⟩
  -- what is kept in the column of the key is an identity, or nothing
  have keyed : w.columnUuid.isSome = true := by
    obtain ⟨v, _, kept⟩ := of_mem_bindColumns bound (Fields.mem_of_get? held)
    rw [m.column?_key] at kept
    obtain ⟨rfl, rfl | ⟨x, rfl⟩⟩ := of_keep_uuid kept
    · rw [Fields.get, held] at given
      cases given
    · rfl
  obtain ⟨f, member, key, read⟩ := Row.facility?_setAll_key
    ⟨(m.key, w), Fields.mem_of_get? held, by rw [blank], keyed⟩ part
  exact names_of_kept bound member (by rw [key, blank]) read

end Bound

/-! ## Rows of a model -/

namespace Tables

variable {t t' : Tables} {m m' : Model} {rows : List Row} {u : Uuid}

theorem rows_withRows (all : ∀ r ∈ rows, r.model = m) : (t.withRows m rows).rows m = rows := by
  cases m with
  | facility =>
    show (rows.filterMap _).map Row.facility = rows
    induction rows with
    | nil => rfl
    | cons r rows ih =>
      obtain ⟨first, others⟩ := List.forall_mem_cons.mp all
      cases r with
      | facility f => exact congrArg (.facility f :: ·) (ih others)
      | court c => cases first
  | court =>
    show (rows.filterMap _).map Row.court = rows
    induction rows with
    | nil => rfl
    | cons r rows ih =>
      obtain ⟨first, others⟩ := List.forall_mem_cons.mp all
      cases r with
      | facility f => cases first
      | court c => exact congrArg (.court c :: ·) (ih others)

theorem rows_withRows_of_ne (other : m' ≠ m) : (t.withRows m rows).rows m' = t.rows m' := by
  cases m <;> cases m' <;> first | rfl | exact absurd rfl other

theorem lost_withRows : (t.withRows m rows).lost = t.lost := by cases m <;> rfl

/-- The rows of a model that are part of a facility. -/
def part (t : Tables) (u : Uuid) (m : Model) : List Row := (t.rows m).filter fun r => r.facility? == some u

/-- One row is written or removed. It is a new one, or one of those that are aimed at; and as it is written
it is part of a facility that was named, if it is not part of the same as before. -/
inductive Writes (aimed : Model → Uuid → Prop) (named : Uuid → Prop) : Tables → Tables → Prop
  | insert {t : Tables} {m : Model} {row : Row} : row.model = m → (∀ r ∈ t.rows m, row.conflicts r = false) →
      (∀ u, row.facility? = some u → named u) → Writes aimed named t (t.withRows m (t.rows m ++ [row]))
  | update {t : Tables} {m : Model} {id : Uuid} {old row : Row} : aimed m id → t.find? m id = some old →
      row.model = m → (∀ r ∈ t.rows m, r.id ≠ id → row.conflicts r = false) →
      (∀ u, row.facility? = some u → old.facility? = some u ∨ named u) →
      Writes aimed named t (t.withRows m ((t.rows m).map fun r => if r.id == id then row else r))
  | delete {t : Tables} {m : Model} {id : Uuid} : aimed m id →
      Writes aimed named t (t.withRows m ((t.rows m).filter fun r => r.id != id))

variable {aimed : Model → Uuid → Prop} {named : Uuid → Prop}

theorem Writes.lost (writes : Writes aimed named t t') : t'.lost = t.lost := by
  cases writes <;> exact lost_withRows

theorem id_ne_of_conflicts {a b : Row} (models : a.model = b.model) (free : a.conflicts b = false) : a.id ≠ b.id := by
  intro same
  cases a with
  | facility f =>
    cases b with
    | facility g =>
      have same : f.id = g.id := same
      simp [Row.conflicts, same] at free
    | court d => cases models
  | court c =>
    cases b with
    | facility g => cases models
    | court d =>
      have same : c.id = d.id := same
      simp [Row.conflicts, same] at free

section Replaced

variable {id : Uuid} {row : Row}

theorem models_append (model : row.model = m) : ∀ r ∈ t.rows m ++ [row], r.model = m := by
  intro r member
  rcases List.mem_append.mp member with there | last
  · exact model_of_mem_rows there
  · rw [List.mem_singleton.mp last, model]

theorem models_replaced (model : row.model = m) :
    ∀ r ∈ (t.rows m).map fun r => if r.id == id then row else r, r.model = m := by
  intro r member
  obtain ⟨a, there, rfl⟩ := List.mem_map.mp member
  split
  · exact model
  · exact model_of_mem_rows there

theorem models_filter {keeps : Row → Bool} : ∀ r ∈ (t.rows m).filter keeps, r.model = m :=
  fun _ member => model_of_mem_rows (List.mem_of_mem_filter member)

/-- A row takes the place of another one, and has not the identity of any that stays. -/
theorem nodup_replaced (distinct : (rows.map Row.id).Nodup) (apart : ∀ r ∈ rows, r.id ≠ id → row.id ≠ r.id) :
    ((rows.map fun r => if r.id == id then row else r).map Row.id).Nodup := by
  rw [List.Nodup, List.pairwise_map] at distinct ⊢
  rw [List.pairwise_map]
  refine distinct.imp_of_mem fun {a b} first second unequal => ?_
  by_cases here : a.id = id
  · have there : b.id ≠ id := here ▸ unequal.symm
    simpa [here, there] using apart b second there
  · by_cases there : b.id = id
    · simpa [here, there] using (apart a first here).symm
    · simpa [here, there] using unequal

/-- A row takes the place of one that is not part of a facility, and is not part of it either. -/
theorem filter_replaced (before : ∀ r ∈ rows, r.id = id → r.facility? ≠ some u) (after : row.facility? ≠ some u) :
    (rows.map fun r => if r.id == id then row else r).filter (fun r => r.facility? == some u) =
      rows.filter fun r => r.facility? == some u := by
  induction rows with
  | nil => rfl
  | cons r rows ih =>
    obtain ⟨first, others⟩ := List.forall_mem_cons.mp before
    rw [List.map_cons, List.filter_cons, List.filter_cons, ih others]
    by_cases same : r.id = id
    · simp [same, first same, after]
    · simp [same]

end Replaced

/-- Other rows of a model leave the identities of the rows distinct if their own are. -/
theorem nodup_withRows (distinct : ∀ m, ((t.rows m).map Row.id).Nodup) (models : ∀ r ∈ rows, r.model = m')
    (different : (rows.map Row.id).Nodup) : (((t.withRows m' rows).rows m).map Row.id).Nodup := by
  by_cases same : m = m'
  · subst same
    rwa [rows_withRows models]
  · rw [rows_withRows_of_ne same]
    exact distinct m

/-- The rows of each model keep distinct identities. -/
theorem Writes.distinct (writes : Writes aimed named t t') (distinct : ∀ m, ((t.rows m).map Row.id).Nodup)
    (m : Model) : ((t'.rows m).map Row.id).Nodup := by
  cases writes with
  | @insert m' row model free _ =>
    refine nodup_withRows distinct (models_append model) ?_
    rw [List.map_append, List.nodup_append]
    refine ⟨distinct m', List.nodup_singleton _, ?_⟩
    rintro a inside b last rfl
    obtain ⟨r, member, rfl⟩ := List.mem_map.mp inside
    rw [List.map_singleton, List.mem_singleton] at last
    exact id_ne_of_conflicts (model.trans (model_of_mem_rows member).symm) (free r member) last.symm
  | @update m' i old row _ _ model free _ =>
    refine nodup_withRows distinct (models_replaced model) (nodup_replaced (distinct m') fun r member other => ?_)
    exact id_ne_of_conflicts (model.trans (model_of_mem_rows member).symm) (free r member other)
  | @delete m' id _ =>
    exact nodup_withRows distinct models_filter ((distinct m').sublist (List.filter_sublist.map _))

/-- Other rows of a model leave a facility the rows that are part of it if the same ones are among them. -/
theorem part_withRows (models : ∀ r ∈ rows, r.model = m')
    (same : rows.filter (fun r => r.facility? == some u) = t.part u m') : (t.withRows m' rows).part u m = t.part u m := by
  by_cases here : m = m'
  · subst here
    rw [Tables.part, rows_withRows models, same]
  · rw [Tables.part, rows_withRows_of_ne here]
    rfl

/-- A write leaves the rows of a facility as they are if none of them is aimed at, and it is not named. -/
theorem Writes.part (writes : Writes aimed named t t') (apart : ∀ m id, aimed m id → ∀ r ∈ t.part u m, r.id ≠ id)
    (other : ¬ named u) (m : Model) : t'.part u m = t.part u m := by
  -- a row that is aimed at is not one of the facility
  have elsewhere {m' : Model} {id : Uuid} (aim : aimed m' id) :
      ∀ r ∈ t.rows m', r.id = id → r.facility? ≠ some u := fun r member same part =>
    apart m' id aim r (List.mem_filter.mpr ⟨member, by simp [part]⟩) same
  cases writes with
  | @insert m' row model _ parts =>
    refine part_withRows (models_append model) ?_
    have absent : (row.facility? == some u) = false := by
      rw [beq_eq_false_iff_ne]
      exact fun part => other (parts u part)
    rw [List.filter_append, List.filter_singleton, absent]
    exact List.append_nil _
  | @update m' i old row aim found model _ parts =>
    refine part_withRows (models_replaced model) (filter_replaced (elsewhere aim) fun part => ?_)
    rcases parts u part with part | part
    · exact elsewhere aim old (List.mem_of_find?_eq_some found) (by simpa using List.find?_some found) part
    · exact other part
  | @delete m' i aim =>
    refine part_withRows models_filter ?_
    rw [List.filter_filter]
    refine List.filter_congr fun r member => ?_
    by_cases same : r.id = i
    · simp [same, elsewhere aim r member same]
    · simp [same]

/-! ## Statements -/

/-- What tables become by writes, one after the other. -/
abbrev Becomes (aimed : Model → Uuid → Prop) (named : Uuid → Prop) : Tables → Tables → Prop :=
  Relation.ReflTransGen (Writes aimed named)

theorem Becomes.lost (becomes : Becomes aimed named t t') : t'.lost = t.lost := by
  induction becomes with
  | refl => rfl
  | tail _ write ih => exact write.lost.trans ih

theorem Becomes.distinct (becomes : Becomes aimed named t t') (distinct : ∀ m, ((t.rows m).map Row.id).Nodup) :
    ∀ m, ((t'.rows m).map Row.id).Nodup := by
  induction becomes with
  | refl => exact distinct
  | tail _ write ih => exact write.distinct ih

theorem Becomes.part (becomes : Becomes aimed named t t') (apart : ∀ m id, aimed m id → ∀ r ∈ t.part u m, r.id ≠ id)
    (other : ¬ named u) (m : Model) : t'.part u m = t.part u m := by
  induction becomes generalizing m with
  | refl => rfl
  | tail _ write ih =>
    refine (write.part (fun m' id aim r member => ?_) other m).trans (ih m)
    rw [ih m'] at member
    exact apart m' id aim r member

theorem becomes_foldlM {α : Type} {as : List α} {f : Tables → α → Outcome Tables}
    (each : ∀ a ∈ as, ∀ t t', f t a = .ok t' → Becomes aimed named t t') (done : as.foldlM f t = .ok t') :
    Becomes aimed named t t' := by
  induction as generalizing t with
  | nil =>
    cases done
    exact .refl
  | cons a as ih =>
    obtain ⟨first, others⟩ := List.forall_mem_cons.mp each
    rw [List.foldlM_cons] at done
    obtain ⟨t'', step, rest⟩ := bind_eq_ok.mp done
    exact (first t t'' step).trans (ih others rest)

section Statements

variable {values : Fields}

theorem writes_insertRow (done : insertRow m t values = .ok t') (names : ∀ u, m.Names values u → named u) :
    Writes aimed named t t' := by
  obtain ⟨bound, binds, done⟩ := bind_eq_ok.mp done
  dsimp only at done
  split at done
  · cases done
  · rename_i accepted
    cases done
    simp only [Bool.or_eq_true, List.any_eq_true, not_or, not_exists, not_and, Bool.not_eq_true] at accepted
    obtain ⟨given, free⟩ := accepted
    exact .insert (m.model_row bound) free fun u part =>
      names u (names_of_row binds (given m.key m.key_mem_needed) part)

theorem becomes_updateRow {change : Uuid × Fields} (done : updateRow m t change = .ok t') (aim : aimed m change.1)
    (names : ∀ u, m.Names change.2 u → named u) : Becomes aimed named t t' := by
  obtain ⟨bound, binds, done⟩ := bind_eq_ok.mp done
  dsimp only at done
  split at done
  · cases done
    exact .refl
  · rename_i old found
    split at done
    · cases done
    · rename_i accepted
      cases done
      have model : old.model = m := model_of_mem_rows (List.mem_of_find?_eq_some found)
      simp only [Bool.or_eq_true, List.any_eq_true, not_or, not_exists, not_and, Bool.and_eq_true, bne_iff_ne,
        Bool.not_eq_true] at accepted
      refine .single (.update aim found (Row.model_setAll.trans model) (fun r member => accepted.2 r member)
        fun u part => ?_)
      refine (Row.facility?_setAll part).imp_right fun ⟨f, member, key, read⟩ => ?_
      exact names u (names_of_kept binds member (by rw [key, model]) read)

theorem becomes_insertAll {rows : List Fields} (done : t.insertAll m rows = .ok t')
    (names : ∀ values ∈ rows, ∀ u, m.Names values u → named u) : Becomes aimed named t t' := by
  obtain ⟨bound, binds, done⟩ := bind_eq_ok.mp done
  obtain ⟨_, _, done⟩ := bind_eq_ok.mp done
  refine becomes_foldlM (fun prepared member t t' step => .single (writes_insertRow step fun u named => ?_)) done
  obtain ⟨values, given, prepares⟩ := exists_of_mem_mapM binds prepared member
  exact names values given u (names_of_prepared prepares named)

theorem becomes_updateAll {changes : List (Uuid × Fields)} (done : t.updateAll m changes = .ok t')
    (aims : ∀ c ∈ changes, aimed m c.1) (names : ∀ c ∈ changes, ∀ u, m.Names c.2 u → named u) :
    Becomes aimed named t t' := by
  obtain ⟨bound, binds, done⟩ := bind_eq_ok.mp done
  obtain ⟨_, _, done⟩ := bind_eq_ok.mp done
  refine becomes_foldlM (fun prepared member t t' step => ?_) done
  obtain ⟨c, given, made⟩ := exists_of_mem_mapM binds prepared member
  obtain ⟨values, prepares, rfl⟩ := map_eq_ok.mp made
  exact becomes_updateRow step (aims c given) fun u named => names c given u (names_of_prepared prepares named)

theorem becomes_delete {id : Uuid} (done : t.delete m id = .ok t') (aim : aimed m id) : Becomes aimed named t t' := by
  obtain ⟨_, _, done⟩ := bind_eq_ok.mp done
  cases done
  exact .single (.delete aim)

end Statements

end Tables

end Venues.Store
