import Mathlib.Data.List.Basic
import Mathlib.Data.List.Induction
import Mathlib.Data.List.Nodup
import Venues.Filter.Raw
import Venues.Proofs.Fields
import Venues.Proofs.Value.Order

/-! # Entries of raw filters

Raw filters are read entry by entry. An entry that puts a condition on a field takes the place of the earlier ones
on the same field, but for the two ends of a range, which go together. So each condition asks for what the
entries ask for that were kept, and without two entries that compete for a field all of them are kept.
-/

namespace Venues.Filter

/-! ## Entries -/

mutual

/-- The values that an object holds under a name, each with its full name; any other value is one entry. -/
def entriesOf (name : String) : Value → Fields
  | .object fs => entriesIn (name ++ ".") fs
  | v => [(name, v)]

def entriesIn (lead : String) : List (String × Value) → Fields
  | [] => []
  | (name, v) :: rest => entriesOf (lead ++ name) v ++ entriesIn lead rest

end

/-- The values that raw filters hold, nested ones too, each with its full name. -/
def entries (raw : Fields) : Fields := entriesIn "" raw

/-- Sets fields one after the other. -/
def putAll (flat : Fields) (es : Fields) : Fields := es.foldl (fun flat e => flat.put e.1 e.2) flat

theorem putAll_append {flat es es' : Fields} : putAll flat (es ++ es') = putAll (putAll flat es) es' :=
  List.foldl_append

mutual

theorem flattenValue_eq (name : String) (flat : Fields) :
    (v : Value) → flattenValue name flat v = putAll flat (entriesOf name v)
  | .object fs => by
    rw [flattenValue, entriesOf]
    exact flattenFields_eq (name ++ ".") flat fs
  | .null | .bool _ | .int _ | .float _ | .text _ | .uuid _ | .time _ | .list _ => rfl

theorem flattenFields_eq (lead : String) (flat : Fields) :
    (fs : List (String × Value)) → flattenFields lead flat fs = putAll flat (entriesIn lead fs)
  | [] => rfl
  | (name, v) :: rest => by
    rw [flattenFields, entriesIn, putAll_append, flattenValue_eq (lead ++ name) flat v,
      flattenFields_eq lead _ rest]

end

/-- Flattened filters have an entry for each full name, with the value that comes last. -/
theorem flatten_eq (raw : Fields) : flatten raw = putAll [] (entries raw) := flattenFields_eq "" [] raw

/-! ## Fields of entries -/

/-- The field that an entry puts a condition on: its name, without the ending for an end of a range. -/
def fieldOf (name : String) : String := ((bound? name).map Prod.fst).getD name

theorem fieldOf_of_bound {name base : String} {b : Bound} (bound : bound? name = some (base, b)) :
    fieldOf name = base := by
  rw [fieldOf, bound]
  rfl

theorem fieldOf_of_plain {name : String} (plain : bound? name = none) : fieldOf name = name := by
  rw [fieldOf, plain]
  rfl

theorem append_of_dropEnding? {name base : String} {ending : List Char} (dropped : dropEnding? name ending = some base) :
    base.toList ++ ending = name.toList := by
  unfold dropEnding? at dropped
  dsimp only at dropped
  split at dropped
  · rename_i ends
    cases dropped
    obtain ⟨front, cut⟩ := List.isSuffixOf_iff_suffix.mp (Bool.and_eq_true_iff.mp ends).1
    rw [String.toList_ofList, ← cut, List.length_append, Nat.add_sub_cancel, List.take_left]
  · cases dropped

/-- An end of a range on a field has only one name. -/
theorem append_of_bound {name base : String} {b : Bound} (bound : bound? name = some (base, b)) :
    base.toList ++ b.ending = name.toList := by
  unfold bound? at bound
  split at bound
  · rename_i dropped
    cases bound
    exact append_of_dropEnding? dropped
  · obtain ⟨_, dropped, same⟩ := Option.map_eq_some_iff.mp bound
    cases same
    exact append_of_dropEnding? dropped

theorem eq_of_bound {name name' base : String} {b : Bound} (bound : bound? name = some (base, b))
    (bound' : bound? name' = some (base, b)) : name = name' :=
  String.toList_injective ((append_of_bound bound).symm.trans (append_of_bound bound'))

/-! ## Entries that are kept -/

/-- Whether two entries compete: they have the same name, or are on the same field, and are not both ends of a range
on it. -/
def competes (a b : String × Value) : Bool :=
  a.1 == b.1 || fieldOf a.1 == fieldOf b.1 && ((bound? a.1).isNone || (bound? b.1).isNone)

theorem competes_comm (a b : String × Value) : competes a b = competes b a := by
  rw [competes, competes, Bool.beq_comm, Bool.beq_comm (a := fieldOf a.1), Bool.or_comm (bound? a.1).isNone]

/-- Adds an entry in the place of those that it competes with. An entry without a value changes nothing. -/
def keep (kept : Fields) (e : String × Value) : Fields :=
  if e.2.isNull then kept else kept.filter (fun a => !competes a e) ++ [e]

/-- The entries that are kept of flat filters. -/
def keptOf (flat : Fields) : Fields := flat.foldl keep []

/-- The entries that are kept of raw filters. -/
def kept (raw : Fields) : Fields := keptOf (flatten raw)

theorem mem_keep {kept : Fields} {e a : String × Value} (present : e.2.isNull = false) :
    a ∈ keep kept e ↔ (a ∈ kept ∧ competes a e = false) ∨ a = e := by
  rw [keep, present, if_neg Bool.false_ne_true, List.mem_append, List.mem_filter, List.mem_singleton,
    Bool.not_eq_true']

theorem mem_keep_iff {kept : Fields} {e a : String × Value} : a ∈ keep kept e ↔
    (a ∈ kept ∧ (e.2.isNull = false → competes a e = false)) ∨ e.2.isNull = false ∧ a = e := by
  cases null : e.2.isNull with
  | false => simp [mem_keep null]
  | true => simp [keep, null]

/-- An entry is kept if it has a value, and no later one with a value competes with it. -/
theorem mem_keptOf {flat : Fields} {e : String × Value} : e ∈ keptOf flat ↔ ∃ front back, flat = front ++ e :: back ∧
    e.2.isNull = false ∧ ∀ a ∈ back, a.2.isNull = false → competes e a = false := by
  -- from the back: the last entry is the one that is kept, or one more that has to be no rival of it
  induction flat using List.reverseRecOn with
  | nil => simp [keptOf]
  | append_singleton flat x ih =>
    rw [keptOf, List.foldl_append, List.foldl_cons, List.foldl_nil, ← keptOf, mem_keep_iff, ih]
    constructor
    · rintro (⟨⟨front, back, rfl, present, later⟩, noRival⟩ | ⟨present, rfl⟩)
      · exact ⟨front, back ++ [x], by simp, present,
          List.forall_mem_append.mpr ⟨later, List.forall_mem_singleton.mpr noRival⟩⟩
      · exact ⟨flat, [], rfl, present, by simp⟩
    · rintro ⟨front, back, cut, present, later⟩
      rcases List.eq_nil_or_concat back with rfl | ⟨back, y, rfl⟩
      · obtain ⟨_, same⟩ := List.append_inj' cut rfl
        exact .inr ⟨List.singleton_inj.mp same ▸ present, (List.singleton_inj.mp same).symm⟩
      · rw [List.concat_eq_append] at cut later
        rw [← List.cons_append, ← List.append_assoc] at cut
        obtain ⟨front', same⟩ := List.append_inj' cut rfl
        cases List.singleton_inj.mp same
        obtain ⟨later, noRival⟩ := List.forall_mem_append.mp later
        exact .inl ⟨⟨front, back, front', present, later⟩, List.forall_mem_singleton.mp noRival⟩

theorem mem_keep_of_ne {kept : Fields} {e a : String × Value} (present : e.2.isNull = false)
    (other : fieldOf a.1 ≠ fieldOf e.1) : a ∈ keep kept e ↔ a ∈ kept := by
  have apart : a.1 ≠ e.1 := fun same => other (congrArg fieldOf same)
  have noRivals : competes a e = false := by simp [competes, other, apart]
  rw [mem_keep present, noRivals, and_iff_left rfl, or_iff_left]
  rintro rfl
  exact other rfl

/-- Of the entries on a field that has its name for itself, only the last one is kept. -/
theorem eq_of_mem_keep {kept : Fields} {e a : String × Value} (present : e.2.isNull = false)
    (plain : bound? e.1 = none) (member : a ∈ keep kept e) (same : fieldOf a.1 = fieldOf e.1) : a = e := by
  refine ((mem_keep present).mp member).resolve_left fun earlier => ?_
  have rivals : competes a e = true := by simp [competes, same, plain]
  rw [earlier.2] at rivals
  cases rivals

/-! ## Conditions of entries -/

/-- The value at an end of a range. -/
def Bound.of (least most : Value) : Bound → Value
  | .least => least
  | .most => most

/-- Whether a condition on a field asks for what the entries on the field ask for: it is that of the only one, or a
range between the ends that they are. -/
inductive Gathers (kept : Fields) (name : String) : Condition → Prop where
  | plain {v : Value} {c : Condition} (asked : c = conditionOf v) (listed : (name, v) ∈ kept)
      (plain : bound? name = none) (alone : ∀ e ∈ kept, fieldOf e.1 = name → e = (name, v)) : Gathers kept name c
  | range {least most : Value} {c : Condition} (asked : c = .range least most)
      (given : ∃ b : Bound, (b.of least most).isNull = false)
      (ends : ∀ b : Bound, (b.of least most).isNull = false →
        ∃ e ∈ kept, bound? e.1 = some (name, b) ∧ e.2 = b.of least most)
      (all : ∀ e ∈ kept, fieldOf e.1 = name → ∃ b, bound? e.1 = some (name, b) ∧ e.2 = b.of least most) :
      Gathers kept name c

theorem conditionOf_ne_range {v least most : Value} : conditionOf v ≠ .range least most := by
  unfold conditionOf
  split
  · nofun
  · split <;> nofun
  · nofun

/-- A condition on a field depends on the entries on this field only. -/
theorem Gathers.congr {kept kept' : Fields} {name : String} {c : Condition} (gathers : Gathers kept name c)
    (same : ∀ e : String × Value, fieldOf e.1 = name → (e ∈ kept' ↔ e ∈ kept)) : Gathers kept' name c := by
  cases gathers with
  | @plain v _ asked listed plain alone =>
    exact .plain asked ((same (name, v) (fieldOf_of_plain plain)).mpr listed) plain fun e member on =>
      alone e ((same e on).mp member) on
  | range asked given ends all =>
    refine .range asked given (fun b given => ?_) fun e member on => all e ((same e on).mp member) on
    obtain ⟨e, member, bound, value⟩ := ends b given
    exact ⟨e, (same e (fieldOf_of_bound bound)).mpr member, bound, value⟩

theorem Gathers.exists_mem {kept : Fields} {name : String} {c : Condition} (gathers : Gathers kept name c) :
    ∃ e ∈ kept, fieldOf e.1 = name := by
  cases gathers with
  | plain _ listed plain _ => exact ⟨_, listed, fieldOf_of_plain plain⟩
  | range _ given ends _ =>
    obtain ⟨b, given⟩ := given
    obtain ⟨e, member, bound, _⟩ := ends b given
    exact ⟨e, member, fieldOf_of_bound bound⟩

/-- Of the entries that a range is gathered from, none is one for the field itself. -/
theorem bound?_isSome_of_range {kept : Fields} {name : String} {v least most : Value}
    (gathers : Gathers kept name (.range least most)) (listed : (name, v) ∈ kept) : (bound? name).isSome = true := by
  cases gathers with
  | plain asked => exact absurd asked.symm conditionOf_ne_range
  | range asked given ends all =>
    cases h : bound? name with
    | some _ => rfl
    | none =>
      obtain ⟨b, bound, _⟩ := all _ listed (fieldOf_of_plain h)
      rw [h] at bound
      cases bound

/-- Entries that have values ask for a single condition on each field. -/
theorem Gathers.unique {kept : Fields} {name : String} {c c' : Condition} (present : ∀ e ∈ kept, e.2.isNull = false)
    (gathers : Gathers kept name c) (gathers' : Gathers kept name c') : c = c' := by
  have whole := gathers
  have whole' := gathers'
  cases gathers with
  | @plain v _ asked listed plain alone =>
    subst asked
    cases gathers' with
    | @plain v' _ asked' listed' _ _ =>
      subst asked'
      cases alone _ listed' (fieldOf_of_plain plain)
      rfl
    | range asked' =>
      -- the entry of the plain condition would be an end of the range
      subst asked'
      have bound := bound?_isSome_of_range whole' listed
      rw [plain] at bound
      cases bound
  | @range least most _ asked _ ends all =>
    subst asked
    cases gathers' with
    | @plain v' _ _ listed' plain' _ =>
      have bound := bound?_isSome_of_range whole listed'
      rw [plain'] at bound
      cases bound
    | @range least' most' _ asked' _ ends' all' =>
      subst asked'
      have alike (b : Bound) : b.of least most = b.of least' most' := by
        by_cases given : (b.of least most).isNull = false
        · obtain ⟨e, member, bound, value⟩ := ends b given
          obtain ⟨b', bound', value'⟩ := all' e member (fieldOf_of_bound bound)
          cases bound.symm.trans bound'
          exact value.symm.trans value'
        · -- without such an end among the entries, neither range has one
          have given' : (b.of least' most').isNull ≠ false := by
            intro given'
            obtain ⟨e, member, bound, value⟩ := ends' b given'
            obtain ⟨b', bound', value'⟩ := all e member (fieldOf_of_bound bound)
            cases bound.symm.trans bound'
            exact given (value' ▸ present e member)
          rw [Value.isNull_eq_true (Bool.eq_true_of_not_eq_false given),
            Value.isNull_eq_true (Bool.eq_true_of_not_eq_false given')]
      rw [show least = least' from alike .least, show most = most' from alike .most]

end Venues.Filter

namespace Venues.Conditions

variable {conditions : Conditions} {name : String} {c : Condition}

theorem mem_put (distinct : (conditions.map Prod.fst).Nodup) {p : String × Condition} :
    p ∈ put conditions name c ↔ p = (name, c) ∨ p ∈ conditions ∧ p.1 ≠ name := by
  induction conditions with
  | nil => simp [put]
  | cons p rest ih =>
    obtain ⟨n, d⟩ := p
    rw [List.map_cons, List.nodup_cons] at distinct
    unfold put
    split
    -- the first condition on the field is replaced, and there is no other one behind it
    · rename_i same
      subst same
      have others : ∀ q ∈ rest, q.1 ≠ n := fun q member same => distinct.1 (List.mem_map.mpr ⟨q, member, same⟩)
      simp only [List.mem_cons]
      constructor
      · exact fun h => h.imp_right fun member => ⟨.inr member, others _ member⟩
      · rintro (rfl | ⟨rfl | member, other⟩)
        · exact .inl rfl
        · exact absurd rfl other
        · exact .inr member
    · rename_i other
      simp only [List.mem_cons, ih distinct.2]
      constructor
      · rintro (rfl | rfl | ⟨member, apart⟩)
        · exact .inr ⟨.inl rfl, other⟩
        · exact .inl rfl
        · exact .inr ⟨.inr member, apart⟩
      · rintro (rfl | ⟨rfl | member, apart⟩)
        · exact .inr (.inl rfl)
        · exact .inl rfl
        · exact .inr (.inr ⟨member, apart⟩)

theorem nodup_put (distinct : (conditions.map Prod.fst).Nodup) : ((put conditions name c).map Prod.fst).Nodup := by
  induction conditions with
  | nil => simp [put]
  | cons p rest ih =>
    obtain ⟨n, d⟩ := p
    rw [List.map_cons, List.nodup_cons] at distinct
    unfold put
    split
    · exact List.nodup_cons.mpr distinct
    · rename_i other
      rw [List.map_cons, List.nodup_cons]
      refine ⟨fun there => ?_, ih distinct.2⟩
      obtain ⟨q, member, same⟩ := List.mem_map.mp there
      rcases (mem_put distinct.2).mp member with rfl | ⟨member, _⟩
      · exact other same.symm
      · exact distinct.1 (List.mem_map.mpr ⟨q, member, same⟩)

end Venues.Conditions

namespace Venues.Filter

/-- Whether conditions are those of entries: one for each field that some entry is on. -/
structure Collects (kept : Fields) (conditions : Conditions) : Prop where
  present : ∀ e ∈ kept, e.2.isNull = false
  distinct : (conditions.map Prod.fst).Nodup
  gathers : ∀ p ∈ conditions, Gathers kept p.1 p.2
  covers : ∀ e ∈ kept, fieldOf e.1 ∈ conditions.map Prod.fst

section Step

variable {kept : Fields} {conditions : Conditions} {e : String × Value}

/-- The ends of the range that there is on a field already, null where there is none. -/
def endsOn (conditions : Conditions) (base : String) : Value × Value :=
  match conditions.get? base with
  | some (.range least most) => (least, most)
  | _ => (.null, .null)

/-- The ends of the range on a field are those of the entries that an end does not compete with. -/
theorem mem_endsOn (collects : Collects kept conditions) {base : String} {b : Bound}
    (bound : bound? e.1 = some (base, b)) :
    (∀ b' : Bound, (b'.of (endsOn conditions base).1 (endsOn conditions base).2).isNull = false →
      ∃ a ∈ kept, bound? a.1 = some (base, b') ∧ a.2 = b'.of (endsOn conditions base).1 (endsOn conditions base).2) ∧
    ∀ a ∈ kept, competes a e = false → fieldOf a.1 = base →
      ∃ b', bound? a.1 = some (base, b') ∧ a.2 = b'.of (endsOn conditions base).1 (endsOn conditions base).2 := by
  unfold endsOn
  cases found : conditions.get? base with
  | none =>
    refine ⟨fun b' given => (by cases b' <;> cases given), fun a member _ on => ?_⟩
    obtain ⟨p, there, name⟩ := List.mem_map.mp (collects.covers a member)
    exact absurd (name.trans on).symm (by simpa using List.lookup_eq_none_iff.mp found p there)
  | some c =>
    cases collects.gathers _ (mem_of_lookup found) with
    | @plain v _ asked _ plain alone =>
      have open' : (match some c with
          | some (.range least most) => (least, most)
          | _ => (.null, .null) : Value × Value) = (.null, .null) := by
        cases c with
        | range least most => exact absurd asked.symm conditionOf_ne_range
        | _ => rfl
      rw [open']
      refine ⟨fun b' given => (by cases b' <;> cases given), fun a member noRivals on => ?_⟩
      -- a plain entry competes with each end of a range on its field
      rw [alone a member on, competes, fieldOf_of_bound bound, fieldOf_of_plain plain, plain] at noRivals
      simp at noRivals
    | @range least most _ asked _ ends all =>
      obtain rfl : c = .range least most := asked
      exact ⟨ends, fun a member _ on => all a member on⟩

/-- The condition that an end of a range asks for, next to the other end if it is there. -/
theorem gathers_setBound (collects : Collects kept conditions) (present : e.2.isNull = false) {base : String} {b : Bound}
    (bound : bound? e.1 = some (base, b)) :
    ∃ c, setBound conditions base b e.2 = conditions.put base c ∧ Gathers (keep kept e) base c := by
  obtain ⟨ends, all⟩ := mem_endsOn (e := e) collects bound
  generalize held : endsOn conditions base = range at ends all
  obtain ⟨least, most⟩ := range
  -- the other end stays as it was
  obtain ⟨least', most', set, this', other⟩ : ∃ least' most',
      setBound conditions base b e.2 = conditions.put base (.range least' most') ∧ b.of least' most' = e.2 ∧
      ∀ b', b' ≠ b → b'.of least' most' = b'.of least most := by
    cases b with
    | least =>
      have set : setBound conditions base .least e.2 =
        conditions.put base (.range e.2 (endsOn conditions base).2) := rfl
      rw [held] at set
      exact ⟨e.2, most, set, rfl, fun b' apart => by cases b' <;> first | rfl | exact absurd rfl apart⟩
    | most =>
      have set : setBound conditions base .most e.2 =
        conditions.put base (.range (endsOn conditions base).1 e.2) := rfl
      rw [held] at set
      exact ⟨least, e.2, set, rfl, fun b' apart => by cases b' <;> first | rfl | exact absurd rfl apart⟩
  refine ⟨_, set, .range rfl ⟨b, by rw [this', present]⟩ (fun b' given => ?_) fun a member on => ?_⟩
  -- an entry for the same end was replaced, and one for the other end was not
  · by_cases same : b' = b
    · subst same
      exact ⟨e, (mem_keep present).mpr (.inr rfl), bound, this'.symm⟩
    · rw [other b' same] at given ⊢
      obtain ⟨a, member, bound', value⟩ := ends b' given
      have apart : a.1 ≠ e.1 := by
        intro alike
        rw [alike, bound] at bound'
        cases bound'
        exact same rfl
      have noRivals : competes a e = false := by simp [competes, apart, bound, bound']
      exact ⟨a, (mem_keep present).mpr (.inl ⟨member, noRivals⟩), bound', value⟩
  · rcases (mem_keep present).mp member with ⟨earlier, noRivals⟩ | rfl
    · obtain ⟨b', bound', value⟩ := all a earlier noRivals on
      have apart : b' ≠ b := by
        rintro rfl
        rw [competes, eq_of_bound bound' bound] at noRivals
        simp at noRivals
      exact ⟨b', bound', by rw [other b' apart, value]⟩
    · exact ⟨b, bound, this'.symm⟩

/-- What conditions ask for still is what the entries that are kept ask for when one more is read. -/
theorem Collects.classifyEntry (collects : Collects kept conditions) :
    Collects (keep kept e) (classifyEntry conditions e) := by
  unfold Filter.classifyEntry
  split
  · rename_i null
    rwa [keep, if_pos null]
  · rename_i present
    replace present : e.2.isNull = false := by simpa using present
    -- whatever the entry asks for becomes the condition on its field
    have step {c : Condition} (gathers : Gathers (keep kept e) (fieldOf e.1) c) :
        Collects (keep kept e) (conditions.put (fieldOf e.1) c) := by
      refine ⟨?_, Conditions.nodup_put collects.distinct, ?_, ?_⟩
      · intro a member
        rcases (mem_keep present).mp member with ⟨earlier, _⟩ | rfl
        · exact collects.present a earlier
        · exact present
      · intro p member
        rcases (Conditions.mem_put collects.distinct).mp member with rfl | ⟨member, other⟩
        · exact gathers
        · exact (collects.gathers p member).congr fun a on => mem_keep_of_ne present (on ▸ other)
      · intro a member
        by_cases same : fieldOf a.1 = fieldOf e.1
        · exact List.mem_map.mpr ⟨_, (Conditions.mem_put collects.distinct).mpr (.inl rfl), same.symm⟩
        · obtain ⟨p, there, name⟩ := List.mem_map.mp (collects.covers a ((mem_keep_of_ne present same).mp member))
          exact List.mem_map.mpr ⟨p, (Conditions.mem_put collects.distinct).mpr (.inr ⟨there, name ▸ same⟩), name⟩
    split
    · rename_i base b bound
      obtain ⟨c, set, gathers⟩ := gathers_setBound collects present bound
      rw [set]
      have field := fieldOf_of_bound bound
      rw [← field] at gathers ⊢
      exact step gathers
    · rename_i plain
      have field := fieldOf_of_plain plain
      have alone : Gathers (keep kept e) e.1 (conditionOf e.2) := .plain rfl ((mem_keep present).mpr (.inr rfl)) plain
        fun a member on => eq_of_mem_keep present plain member (on.trans field.symm)
      rw [← field] at alone
      have done := step alone
      rwa [field] at done

end Step

/-- The conditions of flat filters are those of the entries that are kept of them. -/
theorem collects_classify (flat : Fields) : Collects (keptOf flat) (classify flat) := by
  -- by induction on the entries that are still to be read, whatever was read of the earlier ones
  have onward : ∀ (flat kept : Fields) (conditions : Conditions), Collects kept conditions →
      Collects (flat.foldl keep kept) (flat.foldl classifyEntry conditions) := by
    intro flat
    induction flat with
    | nil => exact fun _ _ collects => collects
    | cons e flat ih => exact fun _ _ collects => ih _ _ collects.classifyEntry
  exact onward flat [] [] ⟨by simp, List.nodup_nil, by simp, by simp⟩

/-- The conditions that raw filters ask for are those of the entries that are kept of them. -/
theorem collects_parse (raw : Fields) : Collects (kept raw) (parse raw) := collects_classify (flatten raw)

/-- The entries that are kept decide on the conditions. -/
theorem Collects.mem_iff {kept : Fields} {conditions : Conditions} (collects : Collects kept conditions)
    {p : String × Condition} : p ∈ conditions ↔ Gathers kept p.1 p.2 := by
  refine ⟨collects.gathers p, fun gathers => ?_⟩
  obtain ⟨e, member, on⟩ := gathers.exists_mem
  obtain ⟨p', there, name⟩ := List.mem_map.mp (on ▸ collects.covers e member)
  have gathers' := collects.gathers p' there
  rw [name] at gathers'
  have same : p = p' := Prod.ext name.symm (gathers.unique collects.present gathers')
  exact same ▸ there

/-- In whatever order entries are kept, their conditions are the same. -/
theorem Collects.perm {kept kept' : Fields} {conditions conditions' : Conditions} (collects : Collects kept conditions)
    (collects' : Collects kept' conditions') (same : kept.Perm kept') : conditions.Perm conditions' := by
  refine (List.perm_ext_iff_of_nodup collects.distinct.of_map collects'.distinct.of_map).mpr fun p => ?_
  rw [collects.mem_iff, collects'.mem_iff]
  exact ⟨fun gathers => gathers.congr fun e _ => same.mem_iff.symm, fun gathers => gathers.congr fun e _ => same.mem_iff⟩

/-! ## Entries that do not compete -/

/-- Whether no two entries compete: their full names are different, and those that have values are on different
fields, or are the two ends of a range. -/
def Apart (es : Fields) : Prop := es.Pairwise fun a b =>
  a.1 ≠ b.1 ∧ (a.2.isNull = false → b.2.isNull = false → competes a b = false)

instance (es : Fields) : Decidable (Apart es) :=
  inferInstanceAs (Decidable (es.Pairwise fun a b =>
    a.1 ≠ b.1 ∧ (a.2.isNull = false → b.2.isNull = false → competes a b = false)))

theorem Apart.perm {es es' : Fields} (apart : Apart es) (perm : es.Perm es') : Apart es' :=
  perm.pairwise apart fun {a b} ⟨names, rivals⟩ =>
    ⟨names.symm, fun present present' => (competes_comm b a).trans (rivals present' present)⟩

theorem Apart.nodup {es : Fields} (apart : Apart es) : (es.map Prod.fst).Nodup :=
  List.pairwise_map.mpr (apart.imp And.left)

/-- Fields with different names stay one by one when they are set. -/
theorem putAll_eq_append {flat es : Fields} (distinct : ((flat ++ es).map Prod.fst).Nodup) :
    putAll flat es = flat ++ es := by
  induction es generalizing flat with
  | nil => rw [List.append_nil]; rfl
  | cons e es ih =>
    -- no field that is set already has the name, so the entry goes last
    have absent : Fields.get? flat e.1 = none := by
      rw [List.map_append, List.nodup_append] at distinct
      refine List.lookup_eq_none_iff.mpr fun a member => bne_iff_ne.mpr fun same => ?_
      exact distinct.2.2 _ (List.mem_map_of_mem member) _ List.mem_cons_self same.symm
    rw [List.append_cons] at distinct ⊢
    show putAll (flat.put e.1 e.2) es = _
    rw [Fields.put_eq_append absent, ih distinct]

/-- Of entries that do not compete all are kept that have values. -/
theorem foldl_keep_eq {kept es : Fields} (apart : Apart (kept ++ es)) (present : ∀ a ∈ kept, a.2.isNull = false) :
    es.foldl keep kept = kept ++ es.filter fun e => !e.2.isNull := by
  induction es generalizing kept with
  | nil => simp
  | cons e es ih =>
    rw [List.foldl_cons, keep]
    split
    · rename_i null
      have fewer : Apart (kept ++ es) := apart.sublist (List.Sublist.append_left (List.sublist_cons_self e es) kept)
      rw [ih fewer present, List.filter_cons_of_neg (by simp [null])]
    · rename_i given
      replace given : e.2.isNull = false := by simpa using given
      rw [List.append_cons] at apart
      -- nothing that was kept before competes with the entry, so it takes no place but the last
      have rivals : kept.filter (fun a => !competes a e) = kept := by
        refine List.filter_eq_self.mpr fun a member => ?_
        obtain ⟨_, _, across⟩ := List.pairwise_append.mp (List.pairwise_append.mp apart).1
        rw [(across a member e (List.mem_singleton_self e)).2 (present a member) given]
        rfl
      rw [rivals, ih apart (List.forall_mem_append.mpr ⟨present, List.forall_mem_singleton.mpr given⟩),
        List.filter_cons_of_pos (by simp [given]), ← List.append_cons]

/-- Raw filters without entries that compete keep all entries that have values. -/
theorem kept_eq_of_apart {raw : Fields} (apart : Apart (entries raw)) :
    kept raw = (entries raw).filter fun e => !e.2.isNull := by
  have flat : flatten raw = entries raw := (flatten_eq raw).trans (putAll_eq_append apart.nodup)
  rw [kept, keptOf, flat, foldl_keep_eq (by simpa using apart) (by simp), List.nil_append]

/-- Raw filters without entries that compete ask for the same conditions in whatever order their entries stand. -/
theorem parse_perm {raw raw' : Fields} (apart : Apart (entries raw)) (perm : (entries raw).Perm (entries raw')) :
    (parse raw).Perm (parse raw') := by
  refine (collects_parse raw).perm (collects_parse raw') ?_
  rw [kept_eq_of_apart apart, kept_eq_of_apart (apart.perm perm)]
  exact perm.filter _

end Venues.Filter
