import Mathlib.Data.List.Nodup
import Venues.Store.Session

/-! # Rows that a session pins

A session that holds nothing pins rows as they were read. As long as they are pinned they show just that,
and letting go of them leaves nothing behind.
-/

namespace Venues.Store

/-- What tells rows apart. -/
def Row.key (r : Row) : Model × Uuid := (r.model, r.id)

namespace Session

variable {s : Session} {rows : List Row}

/-- A row that is pinned as it was read. -/
def pinned (r : Row) : Held := { row := r, isPinned := true }

theorem isOf_pinned {r a : Row} : (pinned r).isOf a.model a.id = true ↔ r.key = a.key := by
  simp [pinned, Held.isOf, Row.key]

theorem hold_of_absent {h : Held} (absent : (s.held.any fun o => o.isOf h.row.model h.row.id) = false) :
    s.hold h = { s with held := s.held ++ [h] } :=
  if_neg (by rw [absent]; exact Bool.false_ne_true)

/-- Pinning rows, all of them different, holds each as it was read. -/
theorem pin_eq (free : s.held = []) (distinct : (rows.map Row.key).Nodup) :
    s.pin rows = { s with isOpen := true, held := rows.map pinned } := by
  -- row by row: what is held already is of other rows, so each new one is held behind them
  have onward : ∀ (rest front : List Row) (s : Session), s.held = front.map pinned →
      ((front ++ rest).map Row.key).Nodup →
      rest.foldl (fun s r => s.hold { s.atHand r with isPinned := true }) s =
        { s with held := (front ++ rest).map pinned } := by
    intro rest
    induction rest with
    | nil =>
      intro front s holds _
      rw [List.append_nil, ← holds]
      rfl
    | cons r rest ih =>
      intro front s holds distinct
      have other : ∀ a ∈ front, (pinned a).isOf r.model r.id = false := by
        intro a member
        rw [Bool.eq_false_iff, Ne, isOf_pinned]
        rw [List.map_append, List.nodup_append] at distinct
        exact distinct.2.2 _ (List.mem_map_of_mem member) _ (List.mem_map_of_mem List.mem_cons_self)
      have atHand : s.atHand r = { row := r } := by
        rw [Session.atHand, holds, List.find?_eq_none.mpr]
        · rfl
        · intro h member
          obtain ⟨a, there, rfl⟩ := List.mem_map.mp member
          simp [other a there]
      have hold : s.hold (pinned r) = { s with held := (front ++ [r]).map pinned } := by
        rw [hold_of_absent, holds, List.map_append]
        · rfl
        · rw [holds, List.any_map, List.any_eq_false]
          intro a there
          show ¬ (pinned a).isOf r.model r.id = true
          rw [other a there]
          exact Bool.false_ne_true
      rw [List.foldl_cons, atHand]
      show rest.foldl _ (s.hold (pinned r)) = _
      rw [hold, ih (front ++ [r]) _ rfl (by simpa using distinct)]
      simp
  have pins := onward rows [] { s with isOpen := true } (by simpa using free) (by simpa using distinct)
  simpa [pin] using pins

/-- A pinned row shows what was read. -/
theorem shown_eq (pins : s.held = rows.map pinned) (distinct : (rows.map Row.key).Nodup) {r : Row}
    (member : r ∈ rows) : s.shown r = r := by
  have found : (rows.map pinned).find? (fun h => h.isOf r.model r.id) = some (pinned r) := by
    clear pins
    induction rows with
    | nil => cases member
    | cons a rows ih =>
      rw [List.map_cons, List.nodup_cons] at distinct
      rcases List.mem_cons.mp member with rfl | member
      · exact List.find?_cons_of_pos (isOf_pinned.mpr rfl)
      · rw [List.map_cons, List.find?_cons_of_neg, ih distinct.2 member]
        rw [isOf_pinned]
        exact fun same => distinct.1 (same ▸ List.mem_map_of_mem member)
  rw [shown, pins, found]
  rfl

/-- Letting go of all pinned rows leaves nothing behind. -/
theorem release_eq (pins : s.held = rows.map pinned) (unchanged : s.removed = []) :
    s.release rows = (.ok (), { s with held := [] }) := by
  have attached (r : Row) : s.isDetached r = false := by
    rw [isDetached, pins, List.any_map, List.any_eq_false]
    intro a _
    simp [pinned]
  have all : (rows.map pinned).filter
      (fun h => !rows.any fun r => r.model == h.row.model && r.id == h.row.id) = [] := by
    rw [List.filter_eq_nil_iff]
    intro h member
    obtain ⟨a, there, rfl⟩ := List.mem_map.mp member
    simp only [Bool.not_eq_true', Bool.not_eq_false, List.any_eq_true]
    exact ⟨a, there, by simp [pinned]⟩
  unfold release
  rw [if_neg (by simp [attached])]
  simp only [pins, all, unchanged, List.filter_nil]

end Session
end Venues.Store
