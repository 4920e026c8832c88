import Venues.Proofs.Index.Evaluate
import Venues.Proofs.Predicate.Alike

/-! # Searches that find the same

The index compares what a field holds with the values of a clause, as they stand in the index. So conditions whose
values are alike there become clauses with the same answers, and searches with such clauses find the same.
-/

namespace Venues

theorem Conditions.Alike.has {see : Value → Value} {conditions conditions' : Conditions}
    (alike : Conditions.Alike see conditions conditions') (name : String) : conditions.has name = conditions'.has name := by
  unfold Conditions.has Conditions.get?
  induction alike with
  | nil => rfl
  | @cons c c' rest rest' first _ ih =>
    obtain ⟨n, condition⟩ := c
    obtain ⟨n', condition'⟩ := c'
    obtain ⟨rfl, _⟩ := first
    rw [List.lookup_cons, List.lookup_cons]
    cases name == n with
    | true => rfl
    | false => exact ih

namespace Index

variable {s : Surface} {q : Query} {conditions conditions' : Conditions} {clauses clauses' : List Clause}

/-! ## Clauses -/

/-- Whether two clauses have the same answer for every document. -/
def Clause.Alike (c c' : Clause) : Prop := ∀ document, c.holds document = c'.holds document

theorem alike_self (clauses : List Clause) : List.Forall₂ Clause.Alike clauses clauses :=
  List.forall₂_same.mpr fun _ _ _ => rfl

theorem allHold_congr (alike : List.Forall₂ Clause.Alike clauses clauses') (document : Value) :
    allHold document clauses = allHold document clauses' := by
  induction alike with
  | nil => rfl
  | cons first _ ih => rw [allHold, allHold, first document, ih]

theorem alike_nested (path : String) (alike : List.Forall₂ Clause.Alike clauses clauses') :
    (Clause.nested path clauses).Alike (.nested path clauses') := by
  intro document
  simp only [Clause.holds, allHold_congr alike]

/-- Conditions whose values are alike in the index become clauses that are alike. -/
theorem alike_ofCondition {c c' : Condition} (alike : c.Alike indexed c') (path : String) :
    (Clause.ofCondition path c).Alike (.ofCondition path c') := by
  intro document
  cases alike with
  | equals alike => simp only [Clause.ofCondition, Clause.holds, funext fun u => (alike.compare_eq u).1]
  | range low high => simp only [Clause.ofCondition, Clause.holds, Value.between_congr low high]
  | oneOf alike =>
    have listed := List.forall₂_map_right_iff.mpr (List.forall₂_map_left_iff.mpr alike)
    simp only [Clause.ofCondition, Clause.holds, Value.any_same_congr listed]
  | contains needle => rfl

/-! ## Bodies -/

/-- Conditions on known fields are split alike. -/
theorem splitConditions_congr (known : ∀ c ∈ conditions, (s.field? c.1).isSome = true)
    (alike : Conditions.Alike indexed conditions conditions') : ∃ split split', splitConditions s conditions = .ok split ∧
      splitConditions s conditions' = .ok split' ∧ List.Forall₂ Clause.Alike split.own split'.own ∧
      List.Forall₂ Clause.Alike split.courts split'.courts := by
  -- what was split already may differ too, as long as it is alike on both sides
  have onward : ∀ done done' : Split, List.Forall₂ Clause.Alike done.own done'.own →
      List.Forall₂ Clause.Alike done.courts done'.courts → ∃ split split',
        conditions.foldlM (splitNext s) done = .ok split ∧ conditions'.foldlM (splitNext s) done' = .ok split' ∧
          List.Forall₂ Clause.Alike split.own split'.own ∧ List.Forall₂ Clause.Alike split.courts split'.courts := by
    induction alike with
    | nil => exact fun done done' own courts => ⟨done, done', rfl, rfl, own, courts⟩
    | @cons c c' rest rest' first _ ih =>
      obtain ⟨name, condition⟩ := c
      obtain ⟨name', condition'⟩ := c'
      obtain ⟨rfl, alike⟩ := first
      obtain ⟨registered, known⟩ := List.forall_mem_cons.mp known
      obtain ⟨d, registered⟩ := Option.isSome_iff_exists.mp registered
      intro done done' own courts
      have clause : List.Forall₂ Clause.Alike [.ofCondition d.path condition] [.ofCondition d.path condition'] :=
        .cons (alike_ofCondition alike d.path) .nil
      rw [List.foldlM_cons, List.foldlM_cons]
      simp only [splitNext, registered, ok_bind]
      split
      · exact ih known _ _ own (List.rel_append courts clause)
      · exact ih known _ _ (List.rel_append own clause) courts
  exact onward {} {} .nil .nil

theorem filterClauses_congr (known : ∀ c ∈ q.conditions, (s.field? c.1).isSome = true)
    (alike : Conditions.Alike indexed q.conditions conditions) : ∃ clauses clauses', filterClauses s q = .ok clauses ∧
      filterClauses s { q with conditions } = .ok clauses' ∧ List.Forall₂ Clause.Alike clauses clauses' := by
  obtain ⟨split, split', made, made', own, courts⟩ := splitConditions_congr known alike
  refine ⟨_, _, by rw [filterClauses, made]; rfl, by rw [filterClauses, made']; rfl, ?_⟩
  rw [alike.has]
  refine List.rel_append (List.rel_append (alike_self _) own) ?_
  generalize split.courts = inner at courts
  generalize split'.courts = inner' at courts
  cases courts with
  | nil => exact .nil
  | cons first others => exact .cons (alike_nested courtsPath (.cons (fun _ => rfl) (.cons first others))) .nil

/-- Searches that differ at most in clauses that are alike find the same. -/
theorem search_congr {b : SearchBody} (alike : List.Forall₂ Clause.Alike b.filters clauses)
    (documents : List (String × Value)) : b.search documents = { b with filters := clauses }.search documents := by
  have each (id : String) (document : Value) : b.find? id document = { b with filters := clauses }.find? id document := by
    simp only [SearchBody.find?, allHold, allHold_congr alike document]
  simp only [SearchBody.search, each]

/-- The bodies of two queries that differ at most in conditions whose values are alike find the same. -/
theorem ofQuery_congr {sort : List SortClause} (window : Surface.checkWindow q = .ok ())
    (sorted : sortClauses s q = .ok sort) (known : ∀ c ∈ q.conditions, (s.field? c.1).isSome = true)
    (alike : Conditions.Alike indexed q.conditions conditions) : ∃ body body', SearchBody.ofQuery s q = .ok body ∧
      SearchBody.ofQuery s { q with conditions } = .ok body' ∧ ∀ documents, body.search documents = body'.search documents := by
  obtain ⟨clauses, clauses', made, made', same⟩ := filterClauses_congr known alike
  refine ⟨_, _, by rw [SearchBody.ofQuery, window, ok_bind, sorted, ok_bind, made]; rfl, ?_, search_congr same⟩
  have window' : Surface.checkWindow { q with conditions } = .ok () := window
  have sorted' : sortClauses s { q with conditions } = .ok sort := sorted
  rw [SearchBody.ofQuery, window', ok_bind, sorted', ok_bind, made']
  rfl

end Index
end Venues
