import Venues.Index.Sync
import Venues.Proofs.Backends
import Venues.Proofs.Index.Written

/-! # Bringing documents in line

The facility that an identity names is found in the tables, or it is not there; only the store can be out
of reach. In the index in memory the document of a facility is then what its row asks for, and no other
document is touched.
-/

namespace Venues

open Store (Tables Row)

/-! ## Facilities by identity -/

namespace Store.Tables

variable {α : Type} {t : Tables} {m : Model} {u : Uuid}

/-- The facility with an identity. -/
def facility? (t : Tables) (u : Uuid) : Option Facility := t.facilities.find? fun f => f.id == u

theorem find?_facility : t.find? .facility u = (t.facility? u).map .facility := List.find?_map

theorem mem_of_facility? {f : Facility} (found : t.facility? u = some f) : f ∈ t.facilities ∧ f.id = u :=
  ⟨List.mem_of_find?_eq_some found, by simpa using List.find?_some found⟩

/-- A table that is lost is reported, wherever it is needed first. -/
theorem guarded_need {next : Unit → Outcome α} : guarded (t.need m >>= next) =
    if t.lost.contains m then .error (.backend (.storeFailed ("no such table: " ++ m.table)))
    else guarded (next ()) := by
  unfold need
  split <;> rfl

theorem findUnique_facility : t.findUnique .facility (.uuid u) ["courts"] = guarded (do
    t.need .facility
    t.readRelations ["courts"] (t.find? .facility u).toList
    .ok (t.find? .facility u)) := by
  have known : ["courts"].forM (checkRelation .facility) = .ok () := by
    simp [checkRelation, Model.relation?]
  unfold findUnique named
  simp only [identity?, Option.isNone_some, Bool.false_eq_true, if_false, known, ok_bind, bind_assoc]

theorem readRelations_courts {r : Row} : t.readRelations ["courts"] [r] = t.need .court := by
  simp [readRelations, Model.ofRelation?, Model.relation?]

/-- A facility is found, or it is not there, or the store cannot tell. -/
theorem findUnique_cases :
    t.findUnique .facility (.uuid u) ["courts"] = .ok (t.find? .facility u) ∨
      (t.lost ≠ [] ∧ ∃ reason,
        t.findUnique .facility (.uuid u) ["courts"] = .error (.backend (.storeFailed reason))) := by
  have lost {m : Model} (gone : t.lost.contains m = true) : t.lost ≠ [] := by
    rintro none
    rw [none] at gone
    cases gone
  rw [findUnique_facility, guarded_need]
  split
  · rename_i gone
    exact .inr ⟨lost gone, _, rfl⟩
  · cases t.find? .facility u with
    | none => exact .inl rfl
    | some r =>
      rw [Option.toList_some, readRelations_courts, guarded_need]
      split
      · rename_i gone
        exact .inr ⟨lost gone, _, rfl⟩
      · exact .inl rfl

end Store.Tables

namespace Index

variable {t : Tables} {u : Uuid} {fault : Fault}

theorem load_cases : load t (.uuid u) = .ok ((t.facility? u).map (Loaded.ofFacility t)) ∨
    (t.lost ≠ [] ∧ ∃ reason, load t (.uuid u) = .error (.backend (.storeFailed reason))) := by
  rcases t.findUnique_cases (u := u) with found | ⟨lost, reason, failed⟩
  · left
    rw [load, found, Tables.find?_facility]
    cases t.facility? u <;> rfl
  · exact .inr ⟨lost, reason, by rw [load, failed]; rfl⟩

/-! ## What is reported -/

section Reports

variable {σ : Type} {b : Backends σ} {g : Gateway} {s : σ}

theorem reports_bringInLine (ordinary : b.IsOrdinary) {loaded : Option Loaded}
    (projects : ∀ l ∈ loaded, l.facility.isIndexable = true → ∀ fault, l.document = .error fault →
      ∃ reason, fault = .projection reason) : (bringInLine g (.uuid u) loaded).Reports b.client := by
  cases loaded with
  | none => exact (reports_remove ordinary _).bind fun _ => Exchange.reports_pure _
  | some l =>
    unfold bringInLine
    dsimp only
    split
    · rename_i indexable
      refine Exchange.Reports.bind (Exchange.reports_lift fun fault failed => ?_) fun d =>
        (reports_put ordinary d).bind fun _ => Exchange.reports_pure _
      obtain ⟨reason, rfl⟩ := projects l rfl indexable fault failed
      exact ⟨_, rfl⟩
    · exact (reports_remove ordinary _).bind fun _ => Exchange.reports_pure _

theorem indexOne_of_load {s' : σ} {loaded : Option Loaded} (read : b.tables s = (.ok t, s'))
    (found : load t (.uuid u) = .ok loaded) :
    indexOne b g (.uuid u) s = (bringInLine g (.uuid u) loaded).run b.client s' := by
  unfold indexOne
  rw [read]
  simp only [Except.bind, found]

theorem indexOne_of_fault {s' : σ} (read : b.tables s = (.ok t, s')) (failed : load t (.uuid u) = .error fault) :
    indexOne b g (.uuid u) s = (.error fault, s') := by
  unfold indexOne
  rw [read]
  simp only [Except.bind, failed]

/-- With ordinary backends a document is brought in line, or there is a fault that can be reported. -/
theorem isReported_of_indexOne (ordinary : b.IsOrdinary) (failed : (indexOne b g (.uuid u) s).1 = .error fault) :
    fault.IsReported := by
  cases outcome : (b.tables s).1 with
  | error f =>
    obtain ⟨reason, rfl⟩ := ordinary.reads s f outcome
    simp only [indexOne, outcome, Except.bind] at failed
    cases failed
    exact Fault.isReported_backend _
  | ok t =>
    have read : b.tables s = (.ok t, (b.tables s).2) := Prod.ext outcome rfl
    -- the store has been opened, so a fault comes from reading it or from what follows
    rcases load_cases (t := t) (u := u) with found | ⟨_, reason, lost⟩
    · rw [indexOne_of_load read found] at failed
      refine reports_bringInLine ordinary (fun l member indexable fault failed => ?_) _ fault failed
      obtain ⟨f, there, rfl⟩ := Option.map_eq_some_iff.mp member
      exact ordinary.projects s t outcome f (Tables.mem_of_facility? there).1 indexable fault failed
    · rw [indexOne_of_fault read lost] at failed
      cases failed
      exact Fault.isReported_backend _

end Reports

/-! ## What becomes of the document -/

/-- Whether the facility with an identity, if it is to be found in the index, has a document, unless it has
no name or no coordinates. -/
def Projects (t : Tables) (u : Uuid) : Prop :=
  ∀ f, t.facility? u = some f → f.isIndexable = true → ∀ fault, project f (t.courtsOf f) = .error fault →
    ∃ reason, fault = .projection reason

/-- What the index is to hold of a facility: the document of its row if it is to be found, and nothing else. -/
def wanted (t : Tables) (u : Uuid) : Outcome (Option Value) :=
  match t.facility? u with
  | some f => if f.isIndexable then (project f (t.courtsOf f)).map fun d => some d.source else .ok none
  | none => .ok none

theorem Projects.of_wanted (projects : Projects t u) (failed : wanted t u = .error fault) :
    ∃ reason, fault = .projection reason := by
  unfold wanted at failed
  split at failed
  · rename_i f found
    split at failed
    · rename_i indexable
      cases made : project f (t.courtsOf f) with
      | ok d =>
        rw [made] at failed
        cases failed
      | error fault' =>
        rw [made] at failed
        cases failed
        exact projects f found indexable _ made
    · cases failed
  · cases failed

/-- The document of a facility once it is in line with the tables. If the row has none, what was there stays
as it is. -/
def inLine (t : Tables) (u : Uuid) (document? : Option Value) : Option Value :=
  match t.facility? u with
  | some f =>
    if f.isIndexable then
      match project f (t.courtsOf f) with
      | .ok d => some d.source
      | .error _ => document?
    else none
  | none => none

theorem inLine_of_wanted {v document? : Option Value} (made : wanted t u = .ok v) : inLine t u document? = v := by
  unfold wanted at made
  unfold inLine
  split at made
  · split at made
    · rename_i indexable
      obtain ⟨d, projected, rfl⟩ := map_eq_ok.mp made
      simp only [indexable, if_true, projected]
    · rename_i hidden
      cases made
      simp only [hidden, Bool.false_eq_true, if_false]
  · cases made
    rfl

theorem inLine_of_error {document? : Option Value} (failed : wanted t u = .error fault) :
    inLine t u document? = document? := by
  unfold wanted at failed
  unfold inLine
  split at failed
  · split at failed
    · rename_i indexable
      cases made : project _ _ with
      | ok d =>
        rw [made] at failed
        cases failed
      | error fault' => simp only [indexable, if_true]
    · cases failed
  · cases failed

end Index
end Venues
