import Mathlib.Data.List.SplitBy
import Venues.Proofs.Outbox.Emission
import Venues.Proofs.Store.Writing
import Venues.Store.Session

/-! # Flushes

A flush writes rows that are new, changed or to be removed, and collects the facilities that it touches. A
facility that it does not touch keeps its rows, unless a row is changed so that it leaves the facility:
what is collected is where a row goes, not where it comes from.
-/

namespace Venues.Store

open Outbox (Flush Touched)

/-! ## Held rows -/

namespace Held

variable {h : Held} {u : Uuid}

/-- What a held row shows as its key. -/
def key (h : Held) : Value := h.value h.row.model.key

/-- Whether a held row is as it was read from tables, and not held for any other reason than its changes. -/
structure IsTidy (t : Tables) (h : Held) : Prop where
  read : t.find? h.row.model h.row.id = some h.row
  distinct : (h.waiting.map (·.1)).Nodup
  free : h.isPinned = false
  present : h.standing = .present

theorem key_of_news (distinct : (h.waiting.map (·.1)).Nodup) (names : h.row.model.Names h.news u) :
    h.key = .uuid u := by
  have waits := Fields.get?_of_mem distinct (List.mem_of_mem_filter (Fields.mem_of_get? names))
  rw [key, value, waits]
  rfl

end Held

namespace Session

variable {s s' : Session} {m : Model} {u : Uuid} {t t' : Tables}

/-! ## What a flush is about -/

/-- Whether a flush is to change or to remove a row. -/
def Aims (s : Session) (m : Model) (id : Uuid) : Prop :=
  (∃ h ∈ s.changed, h.isOf m id = true) ∨ (m, id) ∈ s.removed

/-- Whether a flush gives a row to a facility, a new one or one that is changed. -/
def Gives (s : Session) (u : Uuid) : Prop :=
  (∃ d ∈ s.added, d.model.Names d.values u) ∨ ∃ h ∈ s.changed, h.key = .uuid u

/-- Whether a row that is held was read as part of a facility, and is not shown as part of it any more. -/
def Leaves (s : Session) (u : Uuid) : Prop := ∃ h ∈ s.held, h.row.facility? = some u ∧ h.key ≠ .uuid u

theorem facility?_of_touched {value : String → Value} {o : Touched} (collects : touched m value = .ok o) :
    o.facility? = some u ↔ value m.key = .uuid u := by
  have named {id : Value} {wrap : Value → Touched} (collects : (touchedKey id).map wrap = .ok o) : o = wrap id := by
    obtain ⟨v, plain, rfl⟩ := map_eq_ok.mp collects
    unfold touchedKey at plain
    split at plain
    · cases plain
    · cases plain
      rfl
  cases m with
  | facility =>
    rw [named collects]
    exact Touched.facility?_facility
  | court =>
    rw [named collects]
    exact Touched.facility?_court

/-- The objects of a flush, each with where it comes from. -/
theorem nextFlush_eq_ok {f : Flush} (collects : s.nextFlush = .ok f) :
    s.added.mapM (fun d => touched d.model d.values.get) = .ok f.added ∧
    s.changed.mapM (fun h => touched h.row.model h.value) = .ok f.changed ∧
    (s.removed.filterMap fun r => s.held.find? fun h => h.isOf r.1 r.2).mapM
      (fun h => touched h.row.model h.value) = .ok f.removed := by
  obtain ⟨added, first, collects⟩ := bind_eq_ok.mp collects
  obtain ⟨changed, second, collects⟩ := bind_eq_ok.mp collects
  obtain ⟨removed, third, collects⟩ := bind_eq_ok.mp collects
  cases collects
  exact ⟨first, second, third⟩

/-- A flush touches the facilities to which it gives rows. -/
theorem touches_of_gives {f : Flush} (collects : s.nextFlush = .ok f) (gives : s.Gives u) : f.Touches u := by
  obtain ⟨added, changed, _⟩ := nextFlush_eq_ok collects
  rcases gives with ⟨d, member, names⟩ | ⟨h, member, key⟩
  · obtain ⟨o, there, collected⟩ := exists_mem_of_mapM added d member
    refine ⟨o, List.mem_append_left _ (List.mem_append_left _ there), (facility?_of_touched collected).mpr ?_⟩
    rw [Fields.get, names]
    rfl
  · obtain ⟨o, there, collected⟩ := exists_mem_of_mapM changed h member
    exact ⟨o, List.mem_append_left _ (List.mem_append_right _ there), (facility?_of_touched collected).mpr key⟩

/-- A flush touches the facilities whose rows it removes, as these are shown. -/
theorem touches_of_removed {f : Flush} (collects : s.nextFlush = .ok f) {h : Held} {id : Uuid}
    (member : (m, id) ∈ s.removed) (found : s.held.find? (fun h => h.isOf m id) = some h)
    (key : h.key = .uuid u) : f.Touches u := by
  obtain ⟨_, _, removed⟩ := nextFlush_eq_ok collects
  obtain ⟨o, there, collected⟩ := exists_mem_of_mapM removed h (List.mem_filterMap.mpr ⟨(m, id), member, found⟩)
  exact ⟨o, List.mem_append_right _ there, (facility?_of_touched collected).mpr key⟩

/-! ## What a flush writes -/

theorem names_of_columnsOf {values : Fields} (names : m.Names (m.columnsOf values) u) : m.Names values u := by
  obtain ⟨c, _, held⟩ := List.mem_filterMap.mp (Fields.mem_of_get? names)
  obtain ⟨v, given, same⟩ := Option.map_eq_some_iff.mp held
  obtain ⟨key, value⟩ := Prod.mk.inj same
  rw [Model.Names, ← key, given, value]

theorem names_of_stamped {now : Timestamp} {values : Fields} (names : m.Names (stamped now values) u) :
    m.Names values u := by
  unfold stamped at names
  split at names
  · exact names
  · have other : m.key ≠ "updated_at" := by cases m <;> decide
    rw [Model.Names, Fields.get?, List.lookup_append] at names
    simpa [Model.Names, Fields.get?, List.lookup_cons, beq_false_of_ne other] using names

theorem names_of_withDefaults {now : Timestamp} {values : Fields} (names : m.Names (m.withDefaults now values) u) :
    m.Names values u := by
  have onward (defaults : Fields) (others : ∀ f ∈ defaults, m.key ≠ f.1) (values : Fields) :
      (defaults.foldl (fun vs f => if (Fields.get vs f.1).isNull then Fields.put vs f.1 f.2 else vs) values).get?
        m.key = values.get? m.key := by
    induction defaults generalizing values with
    | nil => rfl
    | cons f defaults ih =>
      obtain ⟨first, others⟩ := List.forall_mem_cons.mp others
      rw [List.foldl_cons, ih others]
      split
      · exact Fields.get?_put_of_ne first
      · rfl
  have others : ∀ f ∈ m.defaults now, m.key ≠ f.1 := by cases m <;> simp [Model.defaults, Model.key]
  rwa [Model.Names, Model.withDefaults, onward _ others] at names

/-- Values without those of some columns name no other facility. -/
theorem names_of_others {p : String → Bool} {values : Fields}
    (names : m.Names (values.filter fun f => p f.1) u) : m.Names values u := by
  by_cases kept : p m.key = true
  · rwa [Model.Names, Fields.get?_filter kept] at names
  · rw [Model.Names, Fields.get?_filter_eq_none (by simpa using kept)] at names
    cases names

/-- Whether no column is given two values by the rows that a session holds. -/
def IsDistinct (s : Session) : Prop := ∀ h ∈ s.held, (h.waiting.map (·.1)).Nodup

theorem of_mem_changesOf (distinct : s.IsDistinct) {c : Uuid × Fields} (member : c ∈ s.changesOf m) :
    s.Aims m c.1 ∧ ∀ u, m.Names c.2 u → s.Gives u := by
  obtain ⟨⟨id, values⟩, kept, rfl⟩ := List.mem_map.mp member
  -- what is changed was added over a row that is removed, or is held with new values
  rcases List.mem_append.mp (List.mem_of_mem_filter kept) with replaced | held
  · obtain ⟨d, added, given⟩ := List.mem_filterMap.mp replaced
    cases named : d.id? with
    | none =>
      rw [named] at given
      cases given
    | some id' =>
      simp only [named] at given
      split at given
      · rename_i replaces
        cases given
        obtain ⟨model, gone⟩ := Bool.and_eq_true_iff.mp replaces
        refine ⟨.inr (List.contains_iff_mem.mp gone), fun u names => .inl ⟨d, added, ?_⟩⟩
        rw [eq_of_beq model]
        exact names_of_others (p := (· != "id")) (names_of_stamped (names_of_columnsOf names))
      · cases given
  · obtain ⟨h, changed, same⟩ := List.mem_map.mp held
    cases same
    obtain ⟨changed, model⟩ := List.mem_filter.mp (List.mem_mergeSort.mp changed)
    refine ⟨.inl ⟨h, changed, by simp [Held.isOf, eq_of_beq model]⟩, fun u names => .inr ⟨h, changed, ?_⟩⟩
    have given := names_of_stamped (names_of_columnsOf names)
    exact Held.key_of_news (distinct h (List.mem_of_mem_filter changed)) (by rwa [eq_of_beq model])

theorem of_mem_insertsOf {values : Fields} (member : values ∈ s.insertsOf m) (names : m.Names values u) :
    s.Gives u := by
  obtain ⟨d, added, rfl⟩ := List.mem_map.mp member
  obtain ⟨added, kept⟩ := List.mem_filter.mp added
  obtain ⟨model, _⟩ := Bool.and_eq_true_iff.mp kept
  exact .inl ⟨d, added, by rwa [eq_of_beq model]⟩

theorem mem_of_mem_splitBy {α : Type} {agree : α → α → Bool} {as group : List α}
    (member : group ∈ as.splitBy agree) : ∀ a ∈ group, a ∈ as := by
  intro a inside
  rw [← List.flatten_splitBy agree as]
  exact List.mem_flatten.mpr ⟨group, member, inside⟩

theorem becomes_writeChanges (distinct : s.IsDistinct) (done : s.writeChanges m t = .ok t') :
    Tables.Becomes s.Aims s.Gives t t' := by
  refine Tables.becomes_foldlM (fun changes member t t' step => ?_) done
  obtain ⟨written, writes, step⟩ := bind_eq_ok.mp step
  split at step
  · cases step
    have each : ∀ c ∈ changes, s.Aims m c.1 ∧ ∀ u, m.Names c.2 u → s.Gives u := fun c inside =>
      of_mem_changesOf distinct (mem_of_mem_splitBy member c inside)
    exact Tables.becomes_updateAll writes (fun c inside => (each c inside).1) fun c inside => (each c inside).2
  · cases step

theorem becomes_writeInserts (done : s.writeInserts m t = .ok t') : Tables.Becomes s.Aims s.Gives t t' := by
  refine Tables.becomes_foldlM (fun rows member t t' step => ?_) done
  refine Tables.becomes_insertAll step fun values given u names => ?_
  obtain ⟨row, inside, rfl⟩ := List.mem_map.mp given
  exact of_mem_insertsOf (mem_of_mem_splitBy member row inside) (names_of_withDefaults names)

theorem becomes_writeRemovals (done : s.writeRemovals m t = .ok t') : Tables.Becomes s.Aims s.Gives t t' := by
  refine Tables.becomes_foldlM (fun id member t t' step => Tables.becomes_delete step (.inr ?_)) done
  obtain ⟨⟨m', id'⟩, kept, rfl⟩ := List.mem_map.mp member
  obtain ⟨there, chosen⟩ := List.mem_filter.mp kept
  cases eq_of_beq (Bool.and_eq_true_iff.mp chosen).1
  exact there

theorem becomes_write (distinct : s.IsDistinct) (done : s.write = .ok t) :
    Tables.Becomes s.Aims s.Gives s.rows t := by
  obtain ⟨t₁, first, done⟩ := bind_eq_ok.mp done
  obtain ⟨t₂, second, done⟩ := bind_eq_ok.mp done
  obtain ⟨t₃, third, done⟩ := bind_eq_ok.mp done
  obtain ⟨t₄, fourth, done⟩ := bind_eq_ok.mp done
  obtain ⟨t₅, fifth, done⟩ := bind_eq_ok.mp done
  exact ((((becomes_writeChanges distinct first).trans (becomes_writeInserts second)).trans
    (becomes_writeChanges distinct third)).trans (becomes_writeInserts fourth)).trans
      ((becomes_writeRemovals fifth).trans (becomes_writeRemovals done))

/-! ## What a flush leaves as it is -/

/-- Whether rows that a session holds are as they were read, and those that are to be removed are held. -/
structure IsTidy (s : Session) : Prop where
  distinct : ∀ m, ((s.rows.rows m).map Row.id).Nodup
  held : ∀ h ∈ s.held, h.IsTidy s.rows
  removed : ∀ r ∈ s.removed, ∃ h ∈ s.held, h.isOf r.1 r.2 = true

theorem isOf_iff {h : Held} {id : Uuid} : h.isOf m id = true ↔ h.row.model = m ∧ h.row.id = id := by
  simp [Held.isOf]

/-- What a held row of a model was read as is the row of the tables. -/
theorem IsTidy.row_eq (tidy : s.IsTidy) {h : Held} (held : h ∈ s.held) {r : Row} (member : r ∈ s.rows.rows m)
    (same : h.isOf m r.id = true) : h.row = r := by
  have read := (tidy.held h held).read
  obtain ⟨model, id⟩ := isOf_iff.mp same
  rw [model, id, Tables.find?, Tables.find?_id (tidy.distinct m) member] at read
  exact (Option.some.inj read).symm

/-- A flush aims at no row of a facility that it does not touch, and that no row leaves. -/
theorem IsTidy.apart (tidy : s.IsTidy) {f : Flush} (collects : s.nextFlush = .ok f) (untouched : ¬ f.Touches u)
    (stays : ¬ s.Leaves u) : ∀ m id, s.Aims m id → ∀ r ∈ s.rows.part u m, r.id ≠ id := by
  rintro m id aims r member rfl
  obtain ⟨there, part⟩ := List.mem_filter.mp member
  have key {h : Held} (held : h ∈ s.held) (same : h.isOf m r.id = true) : h.key = .uuid u := by
    by_contra other
    exact stays ⟨h, held, by rw [tidy.row_eq held there same, eq_of_beq part], other⟩
  rcases aims with ⟨h, changed, same⟩ | gone
  · exact untouched (touches_of_gives collects (.inr ⟨h, changed, key (List.mem_of_mem_filter changed) same⟩))
  · obtain ⟨h, found⟩ : ∃ h, s.held.find? (fun h => h.isOf m r.id) = some h := by
      rw [← Option.isSome_iff_exists, List.find?_isSome]
      exact tidy.removed _ gone
    have same := List.find?_some found
    exact untouched (touches_of_removed collects gone found (key (List.mem_of_find?_eq_some found) same))

/-- What a flush does to a session: it notes what it touches, and facilities that are not touched, and that
no row leaves, keep their rows. -/
structure Flushes (s : Session) (f : Flush) (s' : Session) : Prop where
  collects : s.nextFlush = .ok f
  pending : s'.pending = s.pending.merge (.ofFlush f)
  committed : s'.committed = s.committed
  emitted : s'.emitted = s.emitted
  lost : s'.rows.lost = s.rows.lost
  part : ∀ u, ¬ f.Touches u → ¬ s.Leaves u → ∀ m, s'.rows.part u m = s.rows.part u m

theorem IsTidy.exists_flushes (tidy : s.IsTidy) (done : s.flush = (.ok (), s')) :
    s'.IsTidy ∧ ∃ f, s.Flushes f s' := by
  unfold flush at done
  split at done
  · rename_i clean
    cases done
    refine ⟨tidy, {}, ?_, rfl, rfl, rfl, rfl, fun _ _ _ _ => rfl⟩
    simp only [isClean, Bool.and_eq_true, List.isEmpty_iff, List.all_eq_true] at clean
    obtain ⟨⟨added, removed⟩, waiting⟩ := clean
    have changed : s.changed = [] := by
      rw [Session.changed, List.filter_eq_nil_iff]
      intro h member
      simp [waiting h member]
    simp only [nextFlush, added, changed, removed]
    rfl
  · split at done
    · cases done
    · rename_i t f both
      cases done
      obtain ⟨writes, collects⟩ := bind_pair_eq_ok both
      have becomes := becomes_write (fun h held => (tidy.held h held).distinct) writes
      -- nothing is pinned in a tidy session, so nothing is held after the flush
      have free : (s.held.filter Held.isPinned).map s.settled = [] := by
        rw [List.map_eq_nil_iff, List.filter_eq_nil_iff]
        intro h member
        simp [(tidy.held h member).free]
      refine ⟨⟨becomes.distinct tidy.distinct, fun h member => ?_, fun r member => ?_⟩, f, collects, rfl, rfl, rfl,
        becomes.lost, fun u untouched stays => ?_⟩
      · have member : h ∈ (s.held.filter Held.isPinned).map s.settled := member
        rw [free] at member
        cases member
      · cases member
      · exact becomes.part (tidy.apart collects untouched stays)
          fun gives => untouched (touches_of_gives collects gives)

end Session
end Venues.Store
