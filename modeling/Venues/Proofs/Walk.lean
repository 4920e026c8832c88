import Venues.Fault

/-! # Walks from page to page

A walk asks for one page after another, each at the place that the page before it names, until a page
names none. Where every page holds the next part of a list, the walk comes to an end, and its pages
hold the whole list.
-/

namespace Venues

variable {κ α β : Type} {ask : κ → Outcome α} {next : κ → α → Option κ}

/-- The pages of a walk that starts at a place and comes to an end. -/
inductive Walks (ask : κ → Outcome α) (next : κ → α → Option κ) : κ → List α → Prop where
  | last {k : κ} {a : α} : ask k = .ok a → next k a = none → Walks ask next k [a]
  | more {k k' : κ} {a : α} {as : List α} : ask k = .ok a → next k a = some k' →
      Walks ask next k' as → Walks ask next k (a :: as)

/-- Where a walk starts says which pages it has. -/
theorem Walks.unique {k : κ} {as bs : List α} (walks : Walks ask next k as) (walks' : Walks ask next k bs) :
    as = bs := by
  induction walks generalizing bs with
  | last asked ends =>
    cases walks' with
    | last asked' _ =>
      cases asked.symm.trans asked'
      rfl
    | more asked' goes _ =>
      cases asked.symm.trans asked'
      cases ends.symm.trans goes
  | more asked goes _ ih =>
    cases walks' with
    | last asked' ends =>
      cases asked.symm.trans asked'
      cases goes.symm.trans ends
    | more asked' goes' others =>
      cases asked.symm.trans asked'
      cases goes.symm.trans goes'
      rw [ih others]

/-- Whether pages hold a list part by part, and tell of all but the last of them that another page
follows. -/
structure Covers (items : α → List β) (hasMore : α → Bool) (pages : List α) (whole : List β) : Prop where
  items_eq : pages.flatMap items = whole
  hasMore_eq : ∀ a ∈ pages.dropLast, hasMore a = true
  last_eq : ∀ a ∈ pages.getLast?, hasMore a = false

variable {items : α → List β} {hasMore : α → Bool}

/-- A page before some pages. -/
theorem Covers.cons {a : α} {pages : List α} {whole : List β} (more : hasMore a = true)
    (nonempty : pages ≠ []) (covers : Covers items hasMore pages whole) :
    Covers items hasMore (a :: pages) (items a ++ whole) := by
  constructor
  · rw [List.flatMap_cons, covers.items_eq]
  · rw [List.dropLast_cons_of_ne_nil nonempty]
    exact List.forall_mem_cons.mpr ⟨more, covers.hasMore_eq⟩
  · obtain ⟨b, bs, rfl⟩ := List.exists_cons_of_ne_nil nonempty
    rw [List.getLast?_cons_cons]
    exact covers.last_eq

/-- Pages of equal size that hold the parts of a list, each of them naming the place of the next one
as long as something is left, make up a walk through the list. -/
theorem exists_walk {whole : List β} {size : Nat} (positive : 0 < size) (place : Nat → κ)
    (page : ∀ i, (i = 0 ∨ i * size < whole.length) → ∃ a, ask (place i) = .ok a ∧
      items a = (whole.drop (i * size)).take size ∧
      hasMore a = decide ((i + 1) * size < whole.length) ∧
      next (place i) a = if (i + 1) * size < whole.length then some (place (i + 1)) else none) :
    ∃ pages, Walks ask next (place 0) pages ∧ Covers items hasMore pages whole := by
  have onward : ∀ left i, whole.length - i * size ≤ left → (i = 0 ∨ i * size < whole.length) →
      ∃ pages, pages ≠ [] ∧ Walks ask next (place i) pages ∧
        Covers items hasMore pages (whole.drop (i * size)) := by
    intro left
    -- the part that is left becomes shorter with each page
    induction left with
    | zero =>
      intro i short reached
      obtain ⟨a, asked, held, told, named⟩ := page i reached
      have ends : ¬ (i + 1) * size < whole.length := by rw [Nat.succ_mul]; omega
      rw [if_neg ends] at named
      refine ⟨[a], List.cons_ne_nil _ _, .last asked named, ⟨?_, by simp, by simp [told, ends]⟩⟩
      rw [List.flatMap_singleton, held, List.take_of_length_le (by simp; omega)]
    | succ left ih =>
      intro i short reached
      obtain ⟨a, asked, held, told, named⟩ := page i reached
      by_cases goes : (i + 1) * size < whole.length
      · rw [if_pos goes] at named
        have shorter : whole.length - (i + 1) * size ≤ left := by rw [Nat.succ_mul]; omega
        obtain ⟨pages, nonempty, walks, covers⟩ := ih (i + 1) shorter (.inr goes)
        refine ⟨a :: pages, List.cons_ne_nil _ _, .more asked named walks, ?_⟩
        have covered := covers.cons (by rw [told, decide_eq_true goes]) nonempty
        rwa [held, Nat.succ_mul, ← List.drop_drop, List.take_append_drop] at covered
      · rw [if_neg goes] at named
        refine ⟨[a], List.cons_ne_nil _ _, .last asked named, ⟨?_, by simp, by simp [told, goes]⟩⟩
        rw [Nat.succ_mul] at goes
        rw [List.flatMap_singleton, held, List.take_of_length_le (by simp; omega)]
  obtain ⟨pages, _, walks, covers⟩ := onward _ 0 (Nat.le_refl _) (.inl rfl)
  rw [Nat.zero_mul, List.drop_zero] at covers
  exact ⟨pages, walks, covers⟩

end Venues
