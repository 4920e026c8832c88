import Venues.Proofs.Store.Flush

/-! # Transactions

From one commit to the next a session makes changes, which wait for a flush, and flushes. As long as nothing
else is done in it, the rows that it holds are as they were read; and of each facility it knows in the end
whether a flush has touched it, and whether one has deleted it.
-/

namespace Venues.Store

open Outbox (Flush)

/-- Whether a change waits for a flush, or is one. -/
def Change.Waits : Change → Prop
  | .insert _ | .update .. | .delete .. | .flush => True
  | _ => False

/-- Whether a change makes all that wait be written. -/
def Change.flushes : Change → Bool
  | .flush | .commit => true
  | _ => false

namespace Session

variable {s s' : Session} {m : Model} {u : Uuid} {h : Held} {r : Row}

/-! ## Holding rows -/

theorem mem_hold {o : Held} (member : o ∈ (s.hold h).held) : o = h ∨ o ∈ s.held := by
  unfold hold at member
  dsimp only at member
  split at member
  · obtain ⟨a, there, same⟩ := List.mem_map.mp member
    split at same
    · exact .inl same.symm
    · exact .inr (same ▸ there)
  · rcases List.mem_append.mp member with there | last
    · exact .inr there
    · exact .inl (List.mem_singleton.mp last)

/-- What is held stays held, by its identity, and so is what is added. -/
theorem exists_mem_hold {o : Held} (member : o = h ∨ o ∈ s.held) :
    ∃ a ∈ (s.hold h).held, a.row.model = o.row.model ∧ a.row.id = o.row.id := by
  unfold hold
  dsimp only
  by_cases there : (s.held.any fun o => o.isOf h.row.model h.row.id) = true
  · rw [if_pos there]
    have placed {a : Held} (inside : a ∈ s.held) :
        (if a.isOf h.row.model h.row.id then h else a) ∈
          s.held.map fun o => if o.isOf h.row.model h.row.id then h else o := List.mem_map_of_mem inside
    rcases member with rfl | inside
    · obtain ⟨a, inside, same⟩ := List.any_eq_true.mp there
      refine ⟨_, placed inside, ?_⟩
      rw [if_pos same]
      exact ⟨rfl, rfl⟩
    · refine ⟨_, placed inside, ?_⟩
      split
      · rename_i same
        exact ⟨(isOf_iff.mp same).1.symm, (isOf_iff.mp same).2.symm⟩
      · exact ⟨rfl, rfl⟩
  · rw [if_neg there]
    rcases member with rfl | inside
    · exact ⟨o, List.mem_append_right _ List.mem_cons_self, rfl, rfl⟩
    · exact ⟨o, List.mem_append_left _ inside, rfl, rfl⟩

/-- What no change of a session touches that has yet to be flushed. -/
structure Keeps (s s' : Session) : Prop where
  rows : s'.rows = s.rows
  pending : s'.pending = s.pending
  committed : s'.committed = s.committed
  emitted : s'.emitted = s.emitted

theorem Keeps.refl : s.Keeps s := ⟨rfl, rfl, rfl, rfl⟩

theorem Keeps.trans {s'' : Session} (first : s.Keeps s') (second : s'.Keeps s'') : s.Keeps s'' :=
  ⟨second.rows.trans first.rows, second.pending.trans first.pending, second.committed.trans first.committed,
    second.emitted.trans first.emitted⟩

theorem keeps_hold : s.Keeps (s.hold h) := by
  unfold hold
  dsimp only
  split <;> exact ⟨rfl, rfl, rfl, rfl⟩

theorem removed_hold : (s.hold h).removed = s.removed := by
  unfold hold
  dsimp only
  split <;> rfl

theorem IsTidy.hold (tidy : s.IsTidy) (held : h.IsTidy s.rows) : (s.hold h).IsTidy where
  distinct := by
    rw [keeps_hold.rows]
    exact tidy.distinct
  held o member := by
    rw [keeps_hold.rows]
    rcases mem_hold member with rfl | member
    · exact held
    · exact tidy.held o member
  removed p gone := by
    rw [removed_hold] at gone
    obtain ⟨o, member, same⟩ := tidy.removed p gone
    obtain ⟨a, there, model, id⟩ := exists_mem_hold (h := h) (.inr member)
    obtain ⟨model', id'⟩ := isOf_iff.mp same
    exact ⟨a, there, isOf_iff.mpr ⟨model.trans model', id.trans id'⟩⟩

/-- A row that was read is at hand as it was read. -/
theorem IsTidy.atHand (tidy : s.IsTidy) (read : s.rows.find? r.model r.id = some r) :
    (s.atHand r).IsTidy s.rows ∧ (s.atHand r).row.model = r.model ∧ (s.atHand r).row.id = r.id := by
  unfold Session.atHand
  cases found : s.held.find? fun h => h.isOf r.model r.id && h.standing == .present with
  | none => exact ⟨⟨read, List.nodup_nil, rfl, rfl⟩, rfl, rfl⟩
  | some h =>
    have chosen : (h.isOf r.model r.id && h.standing == .present) = true := by
      simpa using List.find?_some found
    exact ⟨tidy.held h (List.mem_of_find?_eq_some found), isOf_iff.mp (Bool.and_eq_true_iff.mp chosen).1⟩

/-- A row that a value names is at hand as it was read. -/
theorem IsTidy.theRow (tidy : s.IsTidy) {id : Value} (named : s.theRow m id = .ok h) : h.IsTidy s.rows := by
  obtain ⟨i, _, named⟩ := bind_eq_ok.mp named
  obtain ⟨_, _, named⟩ := bind_eq_ok.mp named
  split at named
  · rename_i r found
    cases named
    have model := Tables.model_of_mem_rows (List.mem_of_find?_eq_some found)
    have same : r.id = i := by simpa using List.find?_some found
    exact (tidy.atHand (by rw [model, same]; exact found)).1
  · cases named

/-! ## Changes that wait -/

theorem IsTidy.noteUpdate (tidy : s.IsTidy) {id : Value} {values : Fields}
    (noted : s.noteUpdate m id values = .ok s') : s'.IsTidy ∧ s.Keeps s' := by
  obtain ⟨h, named, noted⟩ := bind_eq_ok.mp noted
  cases noted
  split
  · exact ⟨tidy, .refl⟩
  · have held := tidy.theRow named
    have distinct (given waiting : Fields) (before : (waiting.map (·.1)).Nodup) :
        ((given.foldl (fun vs f => Fields.put vs f.1 f.2) waiting).map (·.1)).Nodup := by
      induction given generalizing waiting with
      | nil => exact before
      | cons f given ih => exact ih _ (Fields.nodup_put before)
    exact ⟨tidy.hold ⟨held.read, distinct _ _ held.distinct, held.free, held.present⟩, keeps_hold⟩

/-- Rows that were read are noted to be removed. -/
theorem IsTidy.noteRemoval (tidy : s.IsTidy) {rows : List Row}
    (read : ∀ r ∈ rows, s.rows.find? r.model r.id = some r) :
    (s.noteRemoval rows).IsTidy ∧ s.Keeps (s.noteRemoval rows) := by
  unfold Session.noteRemoval
  induction rows generalizing s with
  | nil => exact ⟨tidy, .refl⟩
  | cons r rows ih =>
    obtain ⟨first, others⟩ := List.forall_mem_cons.mp read
    rw [List.foldl_cons]
    split
    · exact ih tidy others
    · obtain ⟨held, model, id⟩ := tidy.atHand first
      have before := tidy.hold held
      -- a row that is to be removed is held first, so whatever is noted to be removed is held
      have noted : ({ s.hold (s.atHand r) with removed := s.removed ++ [(r.model, r.id)] } : Session).IsTidy := by
        refine ⟨before.distinct, before.held, fun p gone => ?_⟩
        rcases List.mem_append.mp gone with gone | last
        · exact before.removed p (by rwa [removed_hold])
        · rw [List.mem_singleton.mp last]
          obtain ⟨a, there, model', id'⟩ := exists_mem_hold (s := s) (h := s.atHand r) (.inl rfl)
          exact ⟨a, there, isOf_iff.mpr ⟨model'.trans model, id'.trans id⟩⟩
      have keeps : s.Keeps { s.hold (s.atHand r) with removed := s.removed ++ [(r.model, r.id)] } :=
        ⟨keeps_hold.rows, keeps_hold.pending, keeps_hold.committed, keeps_hold.emitted⟩
      obtain ⟨tidy', keeps'⟩ := ih noted (by rw [keeps.rows]; exact others)
      exact ⟨tidy', keeps.trans keeps'⟩

theorem IsTidy.noteDelete (tidy : s.IsTidy) {id : Value} (noted : s.noteDelete m id = .ok s') :
    s'.IsTidy ∧ s.Keeps s' := by
  obtain ⟨h, named, noted⟩ := bind_eq_ok.mp noted
  split at noted
  · cases noted
    exact ⟨tidy, .refl⟩
  · obtain ⟨rows, dependents, noted⟩ := bind_eq_ok.mp noted
    cases noted
    have read := (tidy.theRow named).read
    refine tidy.noteRemoval fun r member => ?_
    cases kind : h.row with
    | facility f =>
      rw [kind] at dependents read
      obtain ⟨_, _, rfl⟩ := map_eq_ok.mp dependents
      rcases List.mem_cons.mp member with rfl | court
      · exact read
      · -- The courts of a facility are rows, which their identities tell apart.
        obtain ⟨c, owned, rfl⟩ := List.mem_map.mp court
        have there : Row.court c ∈ s.rows.rows .court := List.mem_map_of_mem (Tables.mem_courts_of_owned owned)
        exact Tables.find?_id (tidy.distinct .court) there
    | court c =>
      rw [kind] at dependents read
      cases dependents
      rw [List.mem_singleton.mp member]
      exact read

/-- A change that waits for a flush leaves the rows as they are; a flush writes. -/
theorem IsTidy.change (tidy : s.IsTidy) {c : Change} (waits : c.Waits) (done : s.change c = (.ok (), s')) :
    s'.IsTidy ∧ ((c.flushes = false ∧ s.Keeps s') ∨ (c.flushes = true ∧ ∃ f, s.Flushes f s')) := by
  -- a change that only notes something is over once it is noted
  have noted (next : Outcome Session) (done : s.after next = (.ok (), s'))
      (each : ∀ s₁, next = .ok s₁ → s₁.IsTidy ∧ s.Keeps s₁) : s'.IsTidy ∧ s.Keeps s' := by
    unfold Session.after at done
    split at done
    · rename_i s₁
      cases done
      obtain ⟨tidy, keeps⟩ := each s₁ rfl
      exact ⟨⟨tidy.distinct, tidy.held, tidy.removed⟩, keeps.rows, keeps.pending, keeps.committed, keeps.emitted⟩
    · cases done
  cases c with
  | insert row =>
    have added : ({ s with added := s.added ++ [row] } : Session).IsTidy :=
      ⟨tidy.distinct, tidy.held, tidy.removed⟩
    obtain ⟨tidy', keeps⟩ := noted (.ok { s with added := s.added ++ [row] }) done fun s₁ same => by
      cases same
      exact ⟨added, rfl, rfl, rfl, rfl⟩
    exact ⟨tidy', .inl ⟨rfl, keeps⟩⟩
  | update m id values =>
    obtain ⟨tidy', keeps⟩ := noted _ done fun s₁ => tidy.noteUpdate
    exact ⟨tidy', .inl ⟨rfl, keeps⟩⟩
  | delete m id =>
    obtain ⟨tidy', keeps⟩ := noted _ done fun s₁ => tidy.noteDelete
    exact ⟨tidy', .inl ⟨rfl, keeps⟩⟩
  | flush =>
    obtain ⟨tidy', flushes⟩ := tidy.exists_flushes done
    exact ⟨tidy', .inr ⟨rfl, flushes⟩⟩
  | updateDirectly _ _ _ | deleteDirectly _ _ | commit | rollback | invalid _ => exact waits.elim

/-! ## Transactions -/

/-- The states of a session right before each of its flushes, while changes are made one after the other. -/
def flushPoints (s : Session) : List Change → List Session
  | [] => []
  | c :: cs => if c.flushes then s :: (s.change c).2.flushPoints cs else (s.change c).2.flushPoints cs

/-- Whether the next flush touches a facility. -/
def Touches (s : Session) (u : Uuid) : Prop := ∃ f, s.nextFlush = .ok f ∧ f.Touches u

/-- Whether the next flush deletes a facility. -/
def Deletes (s : Session) (u : Uuid) : Prop := ∃ f, s.nextFlush = .ok f ∧ f.Deletes u

/-- What has become of a session after flushes at some points: they are noted, and facilities that none of
them touches, and that no row leaves, keep their rows. Nothing lasts yet. -/
structure Runs (s : Session) (points : List Session) (s' : Session) : Prop where
  tidy : s'.IsTidy
  committed : s'.committed = s.committed
  emitted : s'.emitted = s.emitted
  lost : s'.rows.lost = s.rows.lost
  notes : ∀ u touched deleted, s.pending.Notes u touched deleted →
    s'.pending.Notes u (touched ∨ ∃ p ∈ points, p.Touches u) (deleted ∨ ∃ p ∈ points, p.Deletes u)
  part : ∀ u, (∀ p ∈ points, ¬ p.Touches u ∧ ¬ p.Leaves u) → ∀ m, s'.rows.part u m = s.rows.part u m

variable {points points' : List Session} {s'' : Session}

theorem Keeps.runs (keeps : s.Keeps s') (tidy : s'.IsTidy) : s.Runs [] s' where
  tidy := tidy
  committed := keeps.committed
  emitted := keeps.emitted
  lost := by rw [keeps.rows]
  notes u touched deleted notes := by
    rw [keeps.pending]
    exact notes.congr (by simp) (by simp)
  part u _ m := by rw [keeps.rows]

theorem Flushes.runs {f : Flush} (flushes : s.Flushes f s') (tidy : s'.IsTidy) : s.Runs [s] s' where
  tidy := tidy
  committed := flushes.committed
  emitted := flushes.emitted
  lost := flushes.lost
  notes u touched deleted notes := by
    rw [flushes.pending]
    exact (notes.merge (Outbox.Pending.notes_ofFlush f u)).congr (by simp [Touches, flushes.collects])
      (by simp [Deletes, flushes.collects])
  part u apart := by
    obtain ⟨untouched, stays⟩ := apart s List.mem_cons_self
    exact flushes.part u (fun touches => untouched ⟨f, flushes.collects, touches⟩) stays

theorem Runs.trans (first : s.Runs points s') (second : s'.Runs points' s'') : s.Runs (points ++ points') s'' where
  tidy := second.tidy
  committed := second.committed.trans first.committed
  emitted := second.emitted.trans first.emitted
  lost := second.lost.trans first.lost
  notes u touched deleted notes :=
    (second.notes u _ _ (first.notes u _ _ notes)).congr (by simp [or_and_right, exists_or, or_assoc])
      (by simp [or_and_right, exists_or, or_assoc])
  part u apart m :=
    (second.part u (fun p member => apart p (List.mem_append_right _ member)) m).trans
      (first.part u (fun p member => apart p (List.mem_append_left _ member)) m)

/-- Changes that wait, and flushes, run a session through its flush points. -/
theorem IsTidy.runs (tidy : s.IsTidy) {cs : List Change} (waits : ∀ c ∈ cs, c.Waits)
    (done : s.changeAll cs = (.ok (), s')) : s.Runs (s.flushPoints cs) s' := by
  induction cs generalizing s with
  | nil =>
    cases done
    exact Keeps.refl.runs tidy
  | cons c cs ih =>
    obtain ⟨first, others⟩ := List.forall_mem_cons.mp waits
    unfold changeAll at done
    split at done
    · cases done
    · rename_i s₁ made
      obtain ⟨tidy₁, ⟨quiet, keeps⟩ | ⟨flush, f, flushes⟩⟩ := tidy.change first made
      · rw [flushPoints, quiet, made]
        exact (keeps.runs tidy₁).trans (ih tidy₁ others done)
      · rw [flushPoints, flush, made]
        exact (flushes.runs tidy₁).trans (ih tidy₁ others done)

/-! ## Commits -/

/-- Whether a session stands at the beginning of a transaction: what it reads is what lasts, and nothing is
noted. -/
structure Begins (s : Session) : Prop where
  tidy : s.IsTidy
  read : s.rows = s.committed
  noted : s.pending = []

theorem begins_start {now : Timestamp} {t : Tables} (distinct : ∀ m, ((t.rows m).map Row.id).Nodup) :
    (start now t).Begins :=
  ⟨⟨distinct, fun _ member => absurd member List.not_mem_nil, fun _ member => absurd member List.not_mem_nil⟩,
    rfl, rfl⟩

theorem changeAll_append {cs : List Change} {c : Change} (done : s.changeAll (cs ++ [c]) = (.ok (), s')) :
    ∃ s₁, s.changeAll cs = (.ok (), s₁) ∧ s₁.change c = (.ok (), s') ∧
      s.flushPoints (cs ++ [c]) = s.flushPoints cs ++ s₁.flushPoints [c] := by
  induction cs generalizing s with
  | nil =>
    rw [List.nil_append] at done
    unfold changeAll at done
    split at done
    · cases done
    · rename_i s₁ made
      cases done
      exact ⟨s, rfl, made, rfl⟩
  | cons c' cs ih =>
    rw [List.cons_append] at done ⊢
    unfold changeAll at done
    split at done
    · cases done
    · rename_i s₁ made
      obtain ⟨s₂, before, last, points⟩ := ih done
      refine ⟨s₂, ?_, last, ?_⟩
      · rw [changeAll, made]
        exact before
      · rw [flushPoints, flushPoints, made, points]
        split <;> rfl

/-- A commit makes what its flush wrote last, and asks for events as it is noted then. -/
theorem IsTidy.commit (tidy : s.IsTidy) (done : s.commit = (.ok (), s')) :
    s'.Begins ∧ ∃ s₁, s.Runs [s] s₁ ∧ s'.committed = s₁.rows ∧ s'.emitted = s₁.emitted ++ s₁.pending := by
  unfold Session.commit at done
  split at done
  · cases done
  · rename_i s₁ flushed
    cases done
    obtain ⟨tidy₁, f, flushes⟩ := tidy.exists_flushes flushed
    refine ⟨⟨⟨tidy₁.distinct, fun h member => ?_, fun r gone => ?_⟩, rfl, rfl⟩, s₁, flushes.runs tidy₁, rfl, rfl⟩
    · obtain ⟨o, held, rfl⟩ := List.mem_map.mp member
      have present := tidy₁.held o held
      rwa [if_neg (by simp [present.present])]
    · obtain ⟨o, held, same⟩ := tidy₁.removed r gone
      refine ⟨_, List.mem_map_of_mem held, ?_⟩
      split <;> exact same

/-- A transaction asks once for an event of each facility that one of its flushes touches, and says whether
one of them deletes it; and facilities that none of them touches, and that no row leaves, keep their rows.
After it another transaction can begin. -/
theorem Begins.exists_notes (begins : s.Begins) {cs : List Change} (waits : ∀ c ∈ cs, c.Waits)
    (done : s.changeAll (cs ++ [.commit]) = (.ok (), s')) :
    s'.Begins ∧ s'.committed.lost = s.committed.lost ∧ ∃ notes, s'.emitted = s.emitted ++ notes ∧
      ∀ u, notes.Notes u (∃ p ∈ s.flushPoints (cs ++ [.commit]), p.Touches u)
          (∃ p ∈ s.flushPoints (cs ++ [.commit]), p.Deletes u) ∧
        ((∀ p ∈ s.flushPoints (cs ++ [.commit]), ¬ p.Touches u ∧ ¬ p.Leaves u) →
          ∀ m, s'.committed.part u m = s.committed.part u m) := by
  obtain ⟨s₁, before, last, points⟩ := changeAll_append done
  obtain ⟨begins', s₂, flush, committed, emitted⟩ := (begins.tidy.runs waits before).tidy.commit last
  have runs : s.Runs (s.flushPoints (cs ++ [.commit])) s₂ := by
    rw [points]
    exact (begins.tidy.runs waits before).trans flush
  refine ⟨begins', ?_, s₂.pending, by rw [emitted, runs.emitted], fun u => ⟨?_, fun apart m => ?_⟩⟩
  · rw [committed, runs.lost, begins.read]
  · have none : s.pending.Notes u False False := by
      rw [begins.noted]
      exact Outbox.Pending.notes_nil
    exact (runs.notes u _ _ none).congr (by simp) (by simp)
  · rw [committed, runs.part u apart m, begins.read]

end Session
end Venues.Store
