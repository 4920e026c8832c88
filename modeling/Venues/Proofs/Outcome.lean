import Mathlib.Data.List.Perm.Basic
import Venues.Fault

/-! # Outcomes

What a composed operation answers is answered by its parts: it has a result exactly if all of them
have one.
-/

namespace Venues

section Bind

variable {ε α β : Type} {x : Except ε α} {f : α → Except ε β} {b : β}

theorem bind_eq_ok : (x >>= f) = .ok b ↔ ∃ a, x = .ok a ∧ f a = .ok b := by
  cases x with
  | error e => simp [bind, Except.bind]
  | ok a => simp [bind, Except.bind]

theorem bind_eq_error {e : ε} : (x >>= f) = .error e ↔ x = .error e ∨ ∃ a, x = .ok a ∧ f a = .error e := by
  cases x with
  | error e' => simp [bind, Except.bind]
  | ok a => simp [bind, Except.bind]

theorem map_eq_ok {g : α → β} : x.map g = .ok b ↔ ∃ a, x = .ok a ∧ g a = b := by
  cases x with
  | error e => simp [Except.map]
  | ok a => simp [Except.map]

theorem map_eq_error {g : α → β} {e : ε} : x.map g = .error e ↔ x = .error e := by
  cases x <;> simp [Except.map]

theorem bind_pair_eq_ok {y : Except ε β} {a : α}
    (both : (x.bind fun a => y.map fun b => (a, b)) = .ok (a, b)) : x = .ok a ∧ y = .ok b := by
  obtain ⟨a', first, both⟩ := bind_eq_ok.mp both
  obtain ⟨b', second, both⟩ := map_eq_ok.mp both
  cases both
  exact ⟨first, second⟩

@[simp] theorem ok_bind {a : α} : ((.ok a : Except ε α) >>= f) = f a := rfl

@[simp] theorem map_ok {a : α} {g : α → β} : (.ok a : Except ε α).map g = .ok (g a) := rfl

end Bind

section Lists

variable {ε α β : Type} {f : α → Except ε β} {g : α → β} {as : List α}

theorem mem_of_lookup [BEq α] [LawfulBEq α] {a : α} {b : β} {l : List (α × β)} (found : l.lookup a = some b) :
    (a, b) ∈ l := by
  obtain ⟨before, after, split, _⟩ := List.lookup_eq_some_iff.mp found
  exact split ▸ List.mem_append_cons_self

theorem mapM_eq_ok (each : ∀ a ∈ as, f a = .ok (g a)) : as.mapM f = .ok (as.map g) := by
  induction as with
  | nil => rfl
  | cons a as ih =>
    obtain ⟨first, others⟩ := List.forall_mem_cons.mp each
    rw [List.mapM_cons, first, ih others]
    rfl

theorem exists_results [Inhabited β] (each : ∀ a ∈ as, ∃ b, f a = .ok b) :
    ∃ g : α → β, ∀ a ∈ as, f a = .ok (g a) := by
  refine ⟨fun a => match f a with | .ok b => b | .error _ => default, fun a member => ?_⟩
  obtain ⟨b, result⟩ := each a member
  simp only [result]

/-- Of many steps that do not all have results, one has none. -/
theorem exists_error_of_mapM {e : ε} (failed : as.mapM f = .error e) : ∃ a ∈ as, f a = .error e := by
  induction as with
  | nil => cases failed
  | cons a as ih =>
    rw [List.mapM_cons] at failed
    rcases bind_eq_error.mp failed with first | ⟨b, _, others⟩
    · exact ⟨a, List.mem_cons_self, first⟩
    · rcases bind_eq_error.mp others with rest | ⟨bs, _, none⟩
      · obtain ⟨a', member, step⟩ := ih rest
        exact ⟨a', List.mem_cons_of_mem _ member, step⟩
      · cases none

theorem forM_eq_ok {f : α → Except ε Unit} (each : ∀ a ∈ as, f a = .ok ()) :
    as.forM f = .ok () := by
  induction as with
  | nil => rfl
  | cons a as ih =>
    obtain ⟨first, others⟩ := List.forall_mem_cons.mp each
    show (f a >>= fun _ => as.forM f) = _
    rw [first, ok_bind, ih others]

/-- Steps that are done together are done one by one. -/
theorem of_forM_eq_ok {f : α → Except ε Unit} (done : as.forM f = .ok ()) : ∀ a ∈ as, f a = .ok () := by
  induction as with
  | nil =>
    intro a member
    cases member
  | cons a as ih =>
    replace done : (f a >>= fun _ => as.forM f) = .ok () := done
    obtain ⟨_, first, others⟩ := bind_eq_ok.mp done
    exact List.forall_mem_cons.mpr ⟨first, ih others⟩

theorem filterM_eq_ok {f : α → Except ε Bool} {g : α → Bool} (each : ∀ a ∈ as, f a = .ok (g a)) :
    as.filterM f = .ok (as.filter g) := by
  have onward (kept : List α) : as.filterAuxM f kept = .ok ((as.filter g).reverse ++ kept) := by
    induction as generalizing kept with
    | nil => rfl
    | cons a as ih =>
      obtain ⟨first, others⟩ := List.forall_mem_cons.mp each
      rw [List.filterAuxM, first, ok_bind, ih others, List.filter_cons]
      cases g a <;> simp
  rw [List.filterM, onward, List.append_nil, ok_bind, List.reverse_reverse]
  rfl

/-! ## Results item by item -/

theorem mapM_cons_eq_ok {a : α} {bs : List β} : (a :: as).mapM f = .ok bs ↔
    ∃ b rest, f a = .ok b ∧ as.mapM f = .ok rest ∧ b :: rest = bs := by
  rw [List.mapM_cons]
  constructor
  · intro all
    obtain ⟨b, first, all⟩ := bind_eq_ok.mp all
    obtain ⟨rest, others, all⟩ := bind_eq_ok.mp all
    exact ⟨b, rest, first, others, Except.ok.inj all⟩
  · rintro ⟨b, rest, first, others, rfl⟩
    rw [first, ok_bind, others]
    rfl

/-- Steps that have results one by one have them together. -/
theorem mapM_eq_ok_of_forall₂ {bs : List β} (each : List.Forall₂ (fun a b => f a = .ok b) as bs) :
    as.mapM f = .ok bs := by
  induction each with
  | nil => rfl
  | cons first _ ih => exact mapM_cons_eq_ok.mpr ⟨_, _, first, ih, rfl⟩

theorem forall₂_of_mapM {bs : List β} (all : as.mapM f = .ok bs) : List.Forall₂ (fun a b => f a = .ok b) as bs := by
  induction as generalizing bs with
  | nil =>
    cases all
    exact .nil
  | cons a as ih =>
    obtain ⟨b, rest, first, others, rfl⟩ := mapM_cons_eq_ok.mp all
    exact .cons first (ih others)

theorem exists_forall₂ {R : α → β → Prop} (each : ∀ a ∈ as, ∃ b, R a b) : ∃ bs, List.Forall₂ R as bs := by
  induction as with
  | nil => exact ⟨[], .nil⟩
  | cons a as ih =>
    obtain ⟨⟨b, first⟩, others⟩ := List.forall_mem_cons.mp each
    obtain ⟨bs, rest⟩ := ih others
    exact ⟨b :: bs, .cons first rest⟩

theorem exists_of_forall₂ {R : α → β → Prop} {bs : List β} (each : List.Forall₂ R as bs) : ∀ b ∈ bs, ∃ a ∈ as, R a b := by
  induction each with
  | nil => simp
  | cons first _ ih =>
    refine List.forall_mem_cons.mpr ⟨⟨_, List.mem_cons_self, first⟩, fun b member => ?_⟩
    obtain ⟨a, there, related⟩ := ih b member
    exact ⟨a, List.mem_cons_of_mem _ there, related⟩

theorem exists_of_mem_mapM {bs : List β} (all : as.mapM f = .ok bs) : ∀ b ∈ bs, ∃ a ∈ as, f a = .ok b :=
  exists_of_forall₂ (forall₂_of_mapM all)

theorem exists_mem_of_mapM {bs : List β} (all : as.mapM f = .ok bs) : ∀ a ∈ as, ∃ b ∈ bs, f a = .ok b :=
  exists_of_forall₂ (R := fun b a => f a = .ok b) (forall₂_of_mapM all).flip

/-- Steps that are taken in another order have the same results in another order. -/
theorem exists_perm_of_mapM {as' : List α} (perm : as.Perm as') {bs : List β} (all : as.mapM f = .ok bs) :
    ∃ bs', as'.mapM f = .ok bs' ∧ bs.Perm bs' := by
  obtain ⟨bs', each, same⟩ := List.perm_comp_forall₂ perm.symm (forall₂_of_mapM all)
  exact ⟨bs', mapM_eq_ok_of_forall₂ each, same.symm⟩

/-- What holds of some items pair by pair holds of those that they are related to. -/
theorem pairwise_of_forall₂ {R : α → β → Prop} {P : α → α → Prop} {Q : β → β → Prop} {bs : List β}
    (related : List.Forall₂ R as bs) (pairwise : as.Pairwise P)
    (step : ∀ a a' b b', R a b → R a' b' → P a a' → Q b b') : bs.Pairwise Q := by
  induction related with
  | nil => exact .nil
  | cons first others ih =>
    obtain ⟨before, behind⟩ := List.pairwise_cons.mp pairwise
    refine .cons (fun b' member => ?_) (ih behind)
    obtain ⟨a', there, related⟩ := exists_of_forall₂ others b' member
    exact step _ a' _ b' first related (before a' there)

/-- What stands beside related items is related as the items say. -/
theorem forall₂_across {γ δ : Type} {R : α → β → Prop} {F : α → γ → Prop} {G : β → δ → Prop} {S : γ → δ → Prop}
    {bs : List β} {cs : List γ} {ds : List δ} (related : List.Forall₂ R as bs) (left : List.Forall₂ F as cs)
    (right : List.Forall₂ G bs ds) (step : ∀ a b c d, R a b → F a c → G b d → S c d) : List.Forall₂ S cs ds := by
  induction related generalizing cs ds with
  | nil =>
    cases left
    cases right
    exact .nil
  | cons first _ ih =>
    cases left with
    | cons head left =>
      cases right with
      | cons head' right => exact .cons (step _ _ _ _ first head head') (ih left right)

end Lists
end Venues
