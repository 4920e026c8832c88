import Venues.Proofs.Value.Order

/-! # Values that have an order

Only numbers have an order among each other, texts, identifiers, and times that both have an offset or both have
none. Among the values that are not made of others the order is strict: nothing lies below itself, and what lies
below a value lies below everything that lies above it.
-/

namespace Venues

namespace Magnitude

variable {a b c : Magnitude}

theorem lt_irrefl : a.lt a = false := by
  cases a <;> simp [lt]

theorem lt_trans (low : a.lt b = true) (high : b.lt c = true) : a.lt c = true := by
  cases a <;> cases b <;> cases c <;> simp_all [lt]
  exact Int.lt_trans low high

theorem lt_asymm (below : a.lt b = true) : b.lt a = false := by
  cases a <;> cases b <;> simp_all [lt]
  exact Int.le_of_lt below

end Magnitude

namespace Value

variable {a b c : Value} {x y : Bool}

/-- Which values have an order, and how they are ordered: two numbers, two texts, two identifiers or two times. -/
inductive Ordered : Value → Value → Bool → Prop
  | number {a b : Value} {m n : Magnitude} {x : Bool} (left : a.magnitude? = some m) (right : b.magnitude? = some n)
      (below : m.lt n = x) : Ordered a b x
  | text {s t : String} {x : Bool} (below : decide (s < t) = x) : Ordered (.text s) (.text t) x
  | uuid {u v : Uuid} {x : Bool} (below : u.lt v = x) : Ordered (.uuid u) (.uuid v) x
  | time {s t : Timestamp} {x : Bool} (alike : s.comparable t = true) (below : decide (s.instant < t.instant) = x) :
      Ordered (.time s) (.time t) x

theorem Ordered.lt? (ordered : Ordered a b x) : a.lt? b = some x := by
  cases ordered with
  | number left right below => rw [(lt?_of_magnitude left right).1, below]
  | text below | uuid below => exact congrArg some below
  | time alike below => exact (if_pos alike).trans (congrArg some below)

theorem Ordered.isSingle (ordered : Ordered a b x) : a.isSingle = true ∧ b.isSingle = true := by
  cases ordered with
  | number left right =>
    constructor
    · cases a <;> first | rfl | cases left
    · cases b <;> first | rfl | cases right
  | text | uuid | time => exact ⟨rfl, rfl⟩

theorem ordered_of_lt? (single : a.isSingle = true ∨ b.isSingle = true) (compared : a.lt? b = some x) :
    Ordered a b x := by
  by_cases numbers : ∃ m n, a.magnitude? = some m ∧ b.magnitude? = some n
  · obtain ⟨m, n, left, right⟩ := numbers
    rw [(lt?_of_magnitude left right).1] at compared
    exact .number left right (Option.some.inj compared)
  · cases a <;> cases b
    case text.text s t => exact .text (Option.some.inj compared)
    case uuid.uuid u v => exact .uuid (Option.some.inj compared)
    case time.time s t =>
      rw [Value.lt?, Timestamp.lt?] at compared
      by_cases alike : s.comparable t = true
      · rw [if_pos alike] at compared
        exact .time alike (Option.some.inj compared)
      · rw [if_neg alike] at compared
        cases compared
    all_goals simp_all [Value.lt?, magnitude?, Value.isSingle, isNull, isNested]

theorem Ordered.unique (ordered : Ordered a b x) (ordered' : Ordered a b y) : x = y :=
  Option.some.inj (ordered.lt?.symm.trans ordered'.lt?)

theorem ordered_self (single : a.isSingle = true) : Ordered a a false := by
  cases a with
  | null | list | object => cases single
  | bool | int | float => exact .number rfl rfl Magnitude.lt_irrefl
  | text s => exact .text (decide_eq_false (lt_irrefl s))
  | uuid u => exact .uuid (decide_eq_false (lt_irrefl u.bits))
  | time t => exact .time (beq_self_eq_true _) (decide_eq_false (lt_irrefl t.instant))

theorem Ordered.asymm (ordered : Ordered a b true) : Ordered b a false := by
  cases ordered with
  | number left right below => exact .number right left (Magnitude.lt_asymm below)
  | text below => exact .text (decide_eq_false (lt_asymm (of_decide_eq_true below)))
  | uuid below => exact .uuid (decide_eq_false (lt_asymm (of_decide_eq_true below)))
  | time alike below =>
    exact .time (Bool.beq_comm.trans alike) (decide_eq_false (lt_asymm (of_decide_eq_true below)))

/-- Values that have an order with the same value have one among each other. -/
theorem Ordered.join (low : Ordered a b x) (high : Ordered b c y) :
    ∃ z, Ordered a c z ∧ (x = true → y = true → z = true) := by
  -- both sides have an order with the middle value, so all three are of one sort
  cases low with
  | number left middle below =>
    cases high with
    | number middle' right below' =>
      cases middle.symm.trans middle'
      exact ⟨_, .number left right rfl, by rintro rfl rfl; exact Magnitude.lt_trans below below'⟩
    | _ => cases middle
  | text below =>
    cases high with
    | number middle => cases middle
    | text below' =>
      refine ⟨_, .text rfl, ?_⟩
      rintro rfl rfl
      exact decide_eq_true (lt_trans (of_decide_eq_true below) (of_decide_eq_true below'))
  | uuid below =>
    cases high with
    | number middle => cases middle
    | uuid below' =>
      refine ⟨_, .uuid rfl, ?_⟩
      rintro rfl rfl
      exact decide_eq_true (lt_trans (of_decide_eq_true below) (of_decide_eq_true below'))
  | time alike below =>
    cases high with
    | number middle => cases middle
    | time alike' below' =>
      refine ⟨_, .time (by simp_all [Timestamp.comparable]) rfl, ?_⟩
      rintro rfl rfl
      exact decide_eq_true (lt_trans (of_decide_eq_true below) (of_decide_eq_true below'))

theorem Ordered.trans (low : Ordered a b true) (high : Ordered b c true) : Ordered a c true := by
  obtain ⟨z, ordered, below⟩ := low.join high
  exact below rfl rfl ▸ ordered

theorem Ordered.notBelow (reached : Ordered a c false) (lower : Ordered b c true) : Ordered a b false := by
  obtain ⟨z, ordered, _⟩ := reached.join lower.asymm
  cases z with
  | false => exact ordered
  | true => cases reached.unique (ordered.trans lower)

end Value
end Venues
