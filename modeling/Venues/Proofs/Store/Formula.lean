import Mathlib.Data.List.Basic
import Venues.Proofs.Outcome
import Venues.Store.Reading

/-! # Selections of formulas

Only true selects: a conjunction selects what all of its parts select, and a disjunction what some
part selects, however answers that are unknown are passed on. A formula without faults can be carried
out on any tables that are there.
-/

namespace Venues.Store

/-! ## Answers -/

theorem Answer.both_eq_true_iff {a b : Answer} :
    Answer.both a b = some true ↔ a = some true ∧ b = some true := by
  rcases a with _ | _ | _ <;> rcases b with _ | _ | _ <;> simp [Answer.both]

theorem Answer.either_eq_true_iff {a b : Answer} :
    Answer.either a b = some true ↔ a = some true ∨ b = some true := by
  rcases a with _ | _ | _ <;> rcases b with _ | _ | _ <;> simp [Answer.either]

namespace Formula

variable {ρ : Type} {view : View ρ} {row : ρ} {parts : List Formula} {f : Formula}

/-! ## Joined formulas -/

theorem selects_iff : f.selects view row = true ↔ f.eval view row = some true := beq_iff_eq

theorem evalAll_eq_true_iff :
    evalAll view parts row = some true ↔ ∀ f ∈ parts, f.selects view row = true := by
  induction parts with
  | nil => simp [evalAll]
  | cons f fs ih => rw [evalAll, Answer.both_eq_true_iff, ih, List.forall_mem_cons, selects_iff]

theorem evalAny_eq_true_iff :
    evalAny view parts row = some true ↔ ∃ f ∈ parts, f.selects view row = true := by
  induction parts with
  | nil => simp [evalAny]
  | cons f fs ih => rw [evalAny, Answer.either_eq_true_iff, ih, List.exists_mem_cons_iff, selects_iff]

theorem selects_conjunction :
    (conjunction parts).selects view row = true ↔ ∀ f ∈ parts, f.selects view row = true := by
  rw [selects_iff, eval_conjunction, evalAll_eq_true_iff]

theorem selects_disjunction :
    (disjunction parts).selects view row = true ↔ ∃ f ∈ parts, f.selects view row = true := by
  rw [selects_iff, eval_disjunction, evalAny_eq_true_iff]

theorem selects_any :
    (any parts).selects view row = true ↔ ∃ f ∈ parts, f.selects view row = true := by
  rw [selects_iff, eval, evalAny_eq_true_iff]

/-! ## Faults -/

theorem mem_partFaults {fault : Fault} : fault ∈ partFaults parts ↔ ∃ f ∈ parts, fault ∈ f.faults := by
  induction parts with
  | nil => simp [partFaults]
  | cons f fs ih => rw [partFaults, List.mem_append, ih, List.exists_mem_cons_iff]

theorem partFaults_eq_nil_iff : partFaults parts = [] ↔ ∀ f ∈ parts, f.faults = [] := by
  simp only [List.eq_nil_iff_forall_not_mem, mem_partFaults, not_exists, not_and]
  exact forall_comm.trans (forall_congr' fun _ => forall_comm)

/-- A joined formula has no faults but those of its parts. -/
theorem exists_of_mem_faults_conjunction {fault : Fault} (member : fault ∈ (conjunction parts).faults) :
    ∃ f ∈ parts, fault ∈ f.faults := by
  unfold conjunction at member
  split at member
  · cases member
  · split at member
    · exact mem_partFaults.mp member
    · obtain ⟨f, tried, member⟩ := mem_partFaults.mp member
      exact ⟨f, List.mem_of_mem_filter tried, member⟩

theorem exists_of_mem_faults_disjunction {fault : Fault} (member : fault ∈ (disjunction parts).faults) :
    ∃ f ∈ parts, fault ∈ f.faults := by
  unfold disjunction at member
  split at member
  · cases member
  · split at member
    · exact mem_partFaults.mp member
    · obtain ⟨f, tried, member⟩ := mem_partFaults.mp member
      exact ⟨f, List.mem_of_mem_filter tried, member⟩

theorem faults_conjunction (clean : ∀ f ∈ parts, f.faults = []) : (conjunction parts).faults = [] := by
  refine List.eq_nil_iff_forall_not_mem.mpr fun fault member => ?_
  obtain ⟨f, part, member⟩ := exists_of_mem_faults_conjunction member
  rw [clean f part] at member
  cases member

theorem faults_disjunction (clean : ∀ f ∈ parts, f.faults = []) : (disjunction parts).faults = [] := by
  refine List.eq_nil_iff_forall_not_mem.mpr fun fault member => ?_
  obtain ⟨f, part, member⟩ := exists_of_mem_faults_disjunction member
  rw [clean f part] at member
  cases member

/-- No part gets lost in a conjunction in which none is true of no row. -/
theorem faults_conjunction_eq_nil_iff (stand : ∀ f ∈ parts, f.isFalse = false) :
    (conjunction parts).faults = [] ↔ ∀ f ∈ parts, f.faults = [] := by
  refine ⟨fun clean f part => ?_, faults_conjunction⟩
  have tried : parts.any isFalse = false := List.any_eq_false.mpr fun f part => by simp [stand f part]
  rw [conjunction, if_neg (by simp [tried])] at clean
  split at clean
  · exact partFaults_eq_nil_iff.mp clean f part
  · cases passed : f.isTrue with
    | true => rw [eq_of_isTrue passed]; rfl
    | false => exact partFaults_eq_nil_iff.mp clean f (List.mem_filter.mpr ⟨part, by simp [passed]⟩)

theorem isFalse_conjunction : (conjunction parts).isFalse = false := by
  unfold conjunction
  split
  · rfl
  · split <;> rfl

/-- A disjunction of anything at all is not true of no row to begin with. -/
theorem isFalse_disjunction (some : parts ≠ []) : (disjunction parts).isFalse = false := by
  have apart {fs : List Formula} (some : fs ≠ []) : (any fs).isFalse = false := by
    cases fs with
    | nil => exact absurd rfl some
    | cons f fs => rfl
  unfold disjunction
  split
  · rfl
  · split
    · exact apart some
    · rename_i other
      refine apart fun none => other (List.all_eq_true.mpr fun f part => ?_)
      simpa using List.filter_eq_nil_iff.mp none f part

end Formula

/-! ## Carrying out -/

namespace Tables

variable {t : Tables} {m : Model} {f : Formula}

theorem need_eq_ok (present : t.lost = []) : t.need m = .ok () := by
  rw [need, present]
  rfl

theorem check_eq_ok {limits : List Int} (present : t.lost = []) (clean : f.faults = [])
    (short : ∀ n ∈ limits, isShort n = true) : t.check m f limits = .ok () := by
  have needed : (m :: f.relations.filterMap Model.ofRelation?).forM t.need = .ok () :=
    forM_eq_ok fun _ _ => need_eq_ok present
  unfold check
  rw [clean, List.find?_nil]
  simp only [needed, ok_bind, List.all_eq_true.mpr short, if_true]

theorem check_eq_overflow {limits : List Int} (present : t.lost = []) (clean : f.faults = []) {long : Int}
    (given : long ∈ limits) (overflows : isShort long = false) : t.check m f limits = .error .overflow := by
  have needed : (m :: f.relations.filterMap Model.ofRelation?).forM t.need = .ok () :=
    forM_eq_ok fun _ _ => need_eq_ok present
  have some : limits.all isShort = false := List.all_eq_false.mpr ⟨long, given, by simp [overflows]⟩
  unfold check
  rw [clean, List.find?_nil]
  simp only [needed, ok_bind, some, Bool.false_eq_true, if_false]

theorem check_eq_overflow_of_faults {limits : List Int} (present : t.lost = [])
    (overflows : ∀ fault ∈ f.faults, fault = .overflow) (some : f.faults ≠ []) :
    t.check m f limits = .error .overflow := by
  have needed : (m :: f.relations.filterMap Model.ofRelation?).forM t.need = .ok () :=
    forM_eq_ok fun _ _ => need_eq_ok present
  have late : f.faults.find? stopsEarly = none := List.find?_eq_none.mpr fun fault member => by
    simp [overflows fault member, stopsEarly]
  unfold check
  rw [late]
  simp only [needed, ok_bind]
  cases faults : f.faults with
  | nil => exact absurd faults some
  | cons fault rest =>
    rw [faults] at overflows
    exact congrArg Except.error (overflows fault List.mem_cons_self)

/-- A formula that passes the check has no faults. -/
theorem faults_of_check {limits : List Int} (passed : t.check m f limits = .ok ()) : f.faults = [] := by
  unfold check at passed
  split at passed
  · cases passed
  · obtain ⟨_, _, passed⟩ := bind_eq_ok.mp passed
    split at passed
    · cases passed
    · assumption

theorem mem_of_mem_selected {r : Row} (member : r ∈ t.selected m f) : r ∈ t.rows m :=
  List.mem_of_mem_filter member

end Tables
end Venues.Store
