import Mathlib.Data.List.Induction
import Venues.Proofs.Index.Server
import Venues.Proofs.Interleaving

/-! # Several callers that bring an index into being

Each caller asks whether there is an index and creates it if not. Between these two requests another caller
may have created it; the request to create it is then refused, and so is the caller. Nothing else goes wrong:
the index comes into being once, and no document is lost.
-/

namespace Venues.Index.Gateway

open Exchange (turn turns IsDone)

variable {g : Gateway} {gs : List Gateway} {name : String} {s : Server} {order : List Nat} {i : Nat}

/-! ## One caller -/

/-- What a caller is told that wants to create an index which has come into being by then. -/
def refusal : Fault := .backend (.indexFailed "index bootstrap" Server.indexThere)

/-- How far a caller has come. -/
inductive Phase where
  | waiting
  | connected
  /-- The caller has seen that there is no index, and is about to create it. -/
  | looked
  | found
  | created
  | refused

namespace Phase

/-- What is left to be done by a caller. -/
def exchange (g : Gateway) : Phase → Exchange Bool
  | .waiting => g.ensureIndex
  | .connected => explained "index bootstrap" (ensure g.settings g.index)
  | .looked => explained "index bootstrap" (do create g.settings g.index; return true)
  | .found => .done (.ok false)
  | .created => .done (.ok true)
  | .refused => .done (.error refusal)

/-- How far a turn brings a caller, as there is an index or not. -/
def next (there : Bool) : Phase → Phase
  | .waiting => .connected
  | .connected => if there then .found else .looked
  | .looked => if there then .refused else .created
  | ended => ended

/-- The server behind a turn of a caller: what changes it is that the index is created. -/
def leaves (name : String) (s : Server) : Phase → Server
  | .looked => if (s.index? name).isSome then s else s.setIndex name []
  | _ => s

theorem advance_exchange (p : Phase) : (p.exchange g).advance Server.client s =
    ((p.next (s.index? g.index).isSome).exchange g, p.leaves g.index s) := by
  cases p with
  | waiting | found | created | refused => rfl
  | connected =>
    show (explained "index bootstrap" (if (s.index? g.index).isSome then return false else do
      create g.settings g.index
      return true), s) = _
    cases (s.index? g.index).isSome <;> rfl
  | looked =>
    show (explained "index bootstrap" (do
      (do let _ ← Exchange.ofOutcome (s.createIndex g.index).1)
      return true), (s.createIndex g.index).2) = _
    rw [Server.createIndex, leaves]
    cases (s.index? g.index).isSome <;> rfl

theorem leaves_of_there (there : (s.index? name).isSome = true) (p : Phase) : p.leaves name s = s := by
  cases p with
  | looked => exact if_pos there
  | waiting | connected | found | created | refused => rfl

/-- How far some turns bring a caller while there is no index. -/
def before : Nat → Phase
  | 0 => .waiting
  | 1 => .connected
  | _ => .looked

/-- How far some turns bring a caller of which it had taken the `early` ones when the index came into being.
Having looked already, it goes on as if there were none. -/
def since (early : Nat) : Nat → Phase
  | 0 => .waiting
  | 1 => .connected
  | 2 => if early = 2 then .looked else .found
  | _ => if early = 2 then .refused else .found

theorem before_succ {n : Nat} (few : n < 2) : before (n + 1) = (before n).next false := by
  match n with
  | 0 | 1 => rfl

theorem leaves_before {n : Nat} (few : n < 2) : (before n).leaves name s = s := by
  match n with
  | 0 | 1 => rfl

theorem since_succ {early n : Nat} (later : early ≤ n) : since early (n + 1) = (since early n).next true := by
  match n with
  | 0 => rfl
  | 1 => exact if_neg (by omega)
  | 2 =>
    show (if early = 2 then refused else found) = (if early = 2 then looked else found).next true
    split <;> rfl
  | n + 3 =>
    show (if early = 2 then refused else found) = (if early = 2 then refused else found).next true
    split <;> rfl

theorem since_self {n : Nat} (few : n ≤ 2) : since n n = before n := by
  match n with
  | 0 | 1 | 2 => rfl

theorem isDone_since {early n : Nat} (through : 3 ≤ n) : IsDone ((since early n).exchange g) := by
  obtain ⟨n, rfl⟩ := Nat.exists_eq_add_of_le' through
  show IsDone ((if early = 2 then refused else found).exchange g)
  split <;> exact ⟨_, rfl⟩

theorem not_isDone_before {n : Nat} : ¬IsDone ((before n).exchange g) := by
  rintro ⟨outcome, ended⟩
  match n, ended with
  | 0, ended | 1, ended | _ + 2, ended => cases ended

end Phase

/-! ## A crowd of callers -/

/-- What is left to be done by callers, each of which has come so far. -/
def crowd (gs : List Gateway) (phase : Nat → Phase) : List (Exchange Bool) :=
  gs.mapIdx fun i g => (phase i).exchange g

section Crowd

variable {phase : Nat → Phase}

theorem getElem?_crowd : (crowd gs phase)[i]? = gs[i]?.map (phase i).exchange := List.getElem?_mapIdx

theorem getElem?_crowd_of_lt (caller : i < gs.length) :
    (crowd gs phase)[i]? = some ((phase i).exchange gs[i]) := by
  rw [getElem?_crowd, List.getElem?_eq_getElem caller]
  rfl

theorem mem_crowd {x : Exchange Bool} :
    x ∈ crowd gs phase ↔ ∃ i, ∃ caller : i < gs.length, (phase i).exchange gs[i] = x := List.mem_mapIdx

theorem length_crowd : (crowd gs phase).length = gs.length := List.length_mapIdx

theorem crowd_waiting : crowd gs (fun _ => .waiting) = gs.map ensureIndex := by
  apply List.ext_getElem?
  intro i
  rw [getElem?_crowd, List.getElem?_map]
  rfl

theorem crowd_congr (phase' : Nat → Phase) (same : ∀ i < gs.length, phase i = phase' i) :
    crowd gs phase = crowd gs phase' := by
  apply List.ext_getElem?
  intro i
  rw [getElem?_crowd, getElem?_crowd]
  cases held : gs[i]? with
  | none => rfl
  | some g => rw [same i (List.getElem?_eq_some_iff.mp held).1]

/-- A turn of a caller of the crowd brings it further, and leaves the others where they are. -/
theorem turn_crowd (phase' : Nat → Phase) (one : ∀ g ∈ gs, g.index = name) (inside : i < gs.length)
    (moves : phase' i = (phase i).next (s.index? name).isSome)
    (others : ∀ j < gs.length, j ≠ i → phase' j = phase j) :
    turn Server.client (crowd gs phase, s) i = (crowd gs phase', (phase i).leaves name s) := by
  rw [Exchange.turn_of_getElem? (getElem?_crowd_of_lt inside), Phase.advance_exchange,
    one _ (List.getElem_mem inside), ← moves]
  refine Prod.ext (List.ext_getElem? fun j => ?_) rfl
  by_cases same : j = i
  · subst same
    rw [List.getElem?_set_self (by rwa [length_crowd]), getElem?_crowd_of_lt inside]
  · rw [List.getElem?_set_ne (Ne.symm same), getElem?_crowd, getElem?_crowd]
    cases held : gs[j]? with
    | none => rfl
    | some g => rw [others j (List.getElem?_eq_some_iff.mp held).1 same]

end Crowd

/-! ## Turns in any order -/

theorem count_concat_self : (order ++ [i]).count i = order.count i + 1 := by
  rw [List.count_append, List.count_singleton_self]

theorem count_concat_of_ne {j : Nat} (other : j ≠ i) : (order ++ [i]).count j = order.count j := by
  rw [List.count_append, List.count_singleton, beq_false_of_ne (Ne.symm other)]
  rfl

namespace Phase

/-- How far each caller has come where the index was there from the start. -/
def ofFound (order : List Nat) (i : Nat) : Phase := .since 0 (order.count i)

/-- How far each caller has come where there is no index yet. -/
def ofAbsent (order : List Nat) (i : Nat) : Phase := .before (order.count i)

/-- How far each caller has come where caller `w` created the index behind the `early` turns. -/
def ofCreated (w : Nat) (early order : List Nat) (i : Nat) : Phase :=
  if i = w then .created else .since (early.count i) (order.count i)

end Phase

/-- Where callers stand behind their turns in some order, with a server that was in some state before. -/
inductive Stands (gs : List Gateway) (name : String) (s : Server) (order : List Nat) :
    List (Exchange Bool) × Server → Prop
  | found (there : (s.index? name).isSome = true) : Stands gs name s order (crowd gs (.ofFound order), s)
  /-- No caller has had the third turn yet, which creates the index. -/
  | absent (none : (s.index? name).isSome = false) (few : ∀ i < gs.length, order.count i ≤ 2) :
    Stands gs name s order (crowd gs (.ofAbsent order), s)
  /-- The third turn of a caller has created the index. -/
  | created (none : (s.index? name).isSome = false) {early late : List Nat} {w : Nat}
      (cut : order = early ++ w :: late) (caller : w < gs.length) (third : early.count w = 2)
      (few : ∀ i < gs.length, early.count i ≤ 2) :
    Stands gs name s order (crowd gs (.ofCreated w early order), s.setIndex name [])

section Turn

variable (one : ∀ g ∈ gs, g.index = name)
include one

theorem turn_found (there : (s.index? name).isSome = true) (inside : i < gs.length) :
    turn Server.client (crowd gs (.ofFound order), s) i = (crowd gs (.ofFound (order ++ [i])), s) := by
  rw [turn_crowd (.ofFound (order ++ [i])) one inside, Phase.leaves_of_there there]
  · rw [Phase.ofFound, Phase.ofFound, count_concat_self, Phase.since_succ (Nat.zero_le _), there]
  · intro j _ other
    rw [Phase.ofFound, Phase.ofFound, count_concat_of_ne other]

/-- A turn of a caller that has looked creates the index, and the turns before it are the early ones. -/
theorem turn_creates (none : (s.index? name).isSome = false) (few : ∀ j < gs.length, order.count j ≤ 2)
    (inside : i < gs.length) (third : order.count i = 2) :
    turn Server.client (crowd gs (.ofAbsent order), s) i =
      (crowd gs (.ofCreated i order (order ++ [i])), s.setIndex name []) := by
  have looked : Phase.ofAbsent order i = .looked := by rw [Phase.ofAbsent, third]; rfl
  have creates : (Phase.ofAbsent order i).leaves name s = s.setIndex name [] := by
    rw [looked]
    exact if_neg (by simp [none])
  rw [turn_crowd (.ofCreated i order (order ++ [i])) one inside, creates]
  · rw [Phase.ofCreated, if_pos rfl, looked, none]
    rfl
  · intro j caller other
    rw [Phase.ofCreated, if_neg other, count_concat_of_ne other, Phase.since_self (few j caller)]
    rfl

theorem turn_looks (none : (s.index? name).isSome = false) (inside : i < gs.length) (few : order.count i < 2) :
    turn Server.client (crowd gs (.ofAbsent order), s) i = (crowd gs (.ofAbsent (order ++ [i])), s) := by
  have unchanged : (Phase.ofAbsent order i).leaves name s = s := Phase.leaves_before few
  rw [turn_crowd (.ofAbsent (order ++ [i])) one inside, unchanged]
  · rw [Phase.ofAbsent, Phase.ofAbsent, count_concat_self, Phase.before_succ few, none]
  · intro j _ other
    rw [Phase.ofAbsent, Phase.ofAbsent, count_concat_of_ne other]

theorem turn_created {early late : List Nat} {w : Nat} (cut : order = early ++ w :: late) (inside : i < gs.length) :
    turn Server.client (crowd gs (.ofCreated w early order), s.setIndex name []) i =
      (crowd gs (.ofCreated w early (order ++ [i])), s.setIndex name []) := by
  have there : ((s.setIndex name []).index? name).isSome = true := by rw [Server.index?_setIndex]; rfl
  rw [turn_crowd (.ofCreated w early (order ++ [i])) one inside, Phase.leaves_of_there there]
  · rw [there, Phase.ofCreated, Phase.ofCreated, count_concat_self]
    by_cases first : i = w
    · rw [if_pos first, if_pos first]
      rfl
    · have earlier : early.count i ≤ order.count i := by
        rw [cut, List.count_append]
        exact Nat.le_add_right ..
      rw [if_neg first, if_neg first, Phase.since_succ earlier]
  · intro j _ other
    rw [Phase.ofCreated, Phase.ofCreated, count_concat_of_ne other]

end Turn

/-- A turn leaves the crowd where it stands behind one turn more. -/
theorem Stands.turn {c : List (Exchange Bool) × Server} (one : ∀ g ∈ gs, g.index = name)
    (stands : Stands gs name s order c) : Stands gs name s (order ++ [i]) (turn Server.client c i) := by
  by_cases inside : i < gs.length
  · cases stands with
    | found there =>
      rw [turn_found one there inside]
      exact .found there
    | absent none few =>
      by_cases third : order.count i = 2
      · rw [turn_creates one none few inside third]
        exact .created none rfl inside third few
      · have second : order.count i < 2 := by have := few i inside; omega
        rw [turn_looks one none inside second]
        refine .absent none fun j caller => ?_
        by_cases same : j = i
        · rw [same, count_concat_self]
          exact second
        · rw [count_concat_of_ne same]
          exact few j caller
    | @created none early late w cut caller third few =>
      rw [turn_created one cut inside]
      exact .created none (by rw [cut, List.append_assoc, List.cons_append]) caller third few
  · -- there is no such caller, and its turn counts for none of the others
    have same (j : Nat) (caller : j < gs.length) : order.count j = (order ++ [i]).count j :=
      (count_concat_of_ne fun (equal : j = i) => inside (equal ▸ caller)).symm
    have outside {phase : Nat → Phase} : (crowd gs phase).length ≤ i := by rw [length_crowd]; omega
    rw [Exchange.turn_of_length_le (by cases stands <;> exact outside)]
    cases stands with
    | found there =>
      rw [crowd_congr (.ofFound (order ++ [i])) fun j caller => by
        rw [Phase.ofFound, Phase.ofFound, same j caller]]
      exact .found there
    | absent none few =>
      rw [crowd_congr (.ofAbsent (order ++ [i])) fun j caller => by
        rw [Phase.ofAbsent, Phase.ofAbsent, same j caller]]
      exact .absent none fun j caller => same j caller ▸ few j caller
    | @created none early late w cut caller third few =>
      rw [crowd_congr (.ofCreated w early (order ++ [i])) fun j caller => by
        rw [Phase.ofCreated, Phase.ofCreated, same j caller]]
      exact .created none (by rw [cut, List.append_assoc, List.cons_append]) caller third few

theorem stands (one : ∀ g ∈ gs, g.index = name) (s : Server) (order : List Nat) :
    Stands gs name s order (turns Server.client (gs.map ensureIndex, s) order) := by
  induction order using List.reverseRecOn with
  | nil =>
    rw [← crowd_waiting]
    cases held : (s.index? name).isSome with
    | true => exact .found held
    | false => exact .absent held fun _ _ => Nat.zero_le _
  | append_singleton order i ih =>
    rw [Exchange.turns_concat]
    exact ih.turn one

/-! ## What callers come to -/

/-- What the callers of an index have come to, all of which are done with their turns on a server. -/
structure Settled (gs : List Gateway) (name : String) (s : Server) (order : List Nat) (xs : List (Exchange Bool))
    (t : Server) : Prop where
  index : gs ≠ [] → t.index? name = some ((s.index? name).getD [])
  documents : ∀ other id, t.document? other id = s.document? other id
  others : ∀ other, other ≠ name → t.index? other = s.index? other
  /-- An index that was there is found by every caller. -/
  found : (s.index? name).isSome = true → ∀ i < gs.length, xs[i]? = some (.done (.ok false))
  /-- An index that was not there is created by one caller: the first one that has a third turn. A caller that
  has looked for it by then, which it does in its second turn, is refused; the others find it. -/
  created : (s.index? name).isSome = false → gs ≠ [] → ∃ early w late, order = early ++ w :: late ∧
    w < gs.length ∧ early.count w = 2 ∧ (∀ i < gs.length, early.count i ≤ 2) ∧
    ∀ i < gs.length, xs[i]? = some (.done (if i = w then .ok true
      else if early.count i = 2 then .error refusal else .ok false))

theorem Phase.exchange_since {early n : Nat} (ended : IsDone ((since early n).exchange g)) :
    (since early n).exchange g = .done (if early = 2 then .error refusal else .ok false) := by
  obtain ⟨outcome, ended⟩ := ended
  match n, ended with
  | 0, ended | 1, ended => cases ended
  | 2, ended =>
    by_cases looked : early = 2
    · rw [since, if_pos looked] at ended
      cases ended
    · rw [since, if_neg looked, if_neg looked]
      rfl
  | n + 3, _ =>
    show (if early = 2 then refused else found).exchange g = _
    split <;> rfl

theorem document?_setIndex_nil (none : (s.index? name).isSome = false) (other id : String) :
    (s.setIndex name []).document? other id = s.document? other id := by
  rw [Server.document?, Server.document?]
  by_cases same : other = name
  · have absent : s.index? name = .none := by simpa using none
    rw [same, Server.index?_setIndex, absent]
    rfl
  · rw [Server.index?_setIndex_of_ne same]

theorem Stands.settled {c : List (Exchange Bool) × Server} (stands : Stands gs name s order c)
    (ended : ∀ x ∈ c.1, IsDone x) : Settled gs name s order c.1 c.2 := by
  cases stands with
  | found there =>
    refine ⟨?_, fun _ _ => rfl, fun _ _ => rfl, ?_, ?_⟩
    · obtain ⟨documents, index⟩ := Option.isSome_iff_exists.mp there
      intro _
      rw [index]
      rfl
    · intro _ i caller
      have done : IsDone ((Phase.ofFound order i).exchange gs[i]) := ended _ (mem_crowd.mpr ⟨i, caller, rfl⟩)
      rw [getElem?_crowd_of_lt caller, Phase.ofFound, Phase.exchange_since done, if_neg (by decide)]
    · intro none
      rw [there] at none
      cases none
  | absent none few =>
    -- a caller that is done has had its third turn, so that there are no callers
    have empty : gs = [] := by
      by_contra some
      have caller : 0 < gs.length := List.length_pos_iff.mpr some
      exact Phase.not_isDone_before (ended _ (mem_crowd.mpr ⟨0, caller, rfl⟩))
    subst empty
    exact ⟨fun some => absurd rfl some, fun _ _ => rfl, fun _ _ => rfl, fun _ _ caller => absurd caller (by simp),
      fun _ some => absurd rfl some⟩
  | @created none early late w cut caller third few =>
    refine ⟨?_, document?_setIndex_nil none, ?_, ?_, ?_⟩
    · intro _
      have absent : s.index? name = .none := by simpa using none
      rw [Server.index?_setIndex, absent]
      rfl
    · exact fun other different => Server.index?_setIndex_of_ne different
    · intro held
      rw [held] at none
      cases none
    · intro _ _
      refine ⟨early, w, late, cut, caller, third, few, fun i caller => ?_⟩
      have done : IsDone ((Phase.ofCreated w early order i).exchange gs[i]) :=
        ended _ (mem_crowd.mpr ⟨i, caller, rfl⟩)
      rw [getElem?_crowd_of_lt caller]
      rw [Phase.ofCreated] at done ⊢
      by_cases first : i = w
      · rw [if_pos first, if_pos first]
        rfl
      · rw [if_neg first] at done ⊢
        rw [if_neg first, Phase.exchange_since done]

theorem Stands.isDone {c : List (Exchange Bool) × Server} (stands : Stands gs name s order c)
    (through : ∀ i < gs.length, 3 ≤ order.count i) : ∀ x ∈ c.1, IsDone x := by
  intro x member
  cases stands with
  | found there =>
    obtain ⟨i, caller, rfl⟩ := mem_crowd.mp member
    exact Phase.isDone_since (through i caller)
  | absent none few =>
    obtain ⟨i, caller, rfl⟩ := mem_crowd.mp member
    exact absurd (Nat.le_trans (through i caller) (few i caller)) (by decide)
  | created none cut caller third few =>
    obtain ⟨i, caller, rfl⟩ := mem_crowd.mp member
    rw [Phase.ofCreated]
    split
    · exact ⟨_, rfl⟩
    · exact Phase.isDone_since (through i caller)

/-- Callers that bring an index into being, with their turns on the server in any order, are done after three
turns each. The index is there then, with the documents that it had, and nothing else has changed. One caller
has created it if it was not there before. The only ones that fail are those that had looked for it by then. -/
theorem ensureIndex_turns (one : ∀ g ∈ gs, g.index = name) (s : Server) (order : List Nat) :
    let c := turns Server.client (gs.map ensureIndex, s) order
    ((∀ i < gs.length, 3 ≤ order.count i) → ∀ x ∈ c.1, IsDone x) ∧
      ((∀ x ∈ c.1, IsDone x) → Settled gs name s order c.1 c.2) :=
  ⟨(stands one s order).isDone, (stands one s order).settled⟩

/-- The second one of three callers looks before the first one creates the index, the third one behind that. -/
theorem ensureIndex_turns_trio :
    let g : Gateway := ⟨{}, "venue_facilities"⟩
    let c := turns Server.client ([g, g, g].map ensureIndex, {}) [0, 0, 1, 1, 0, 2, 1, 2]
    (∀ x ∈ c.1, IsDone x) ∧ Settled [g, g, g] g.index {} [0, 0, 1, 1, 0, 2, 1, 2] c.1 c.2 ∧
      c.1 = [.done (.ok true), .done (.error refusal), .done (.ok false)] := by
  intro g c
  -- both callers have looked behind the first half of the turns
  have half : turns Server.client ([g, g, g].map ensureIndex, {}) [0, 0, 1, 1] =
      ([Phase.exchange g .looked, Phase.exchange g .looked, Phase.exchange g .waiting], {}) := rfl
  have rest : c = turns Server.client
      ([Phase.exchange g .looked, Phase.exchange g .looked, Phase.exchange g .waiting], {}) [0, 2, 1, 2] := by
    rw [← half, ← Exchange.turns_append]
    rfl
  have outcomes : c.1 = [.done (.ok true), .done (.error refusal), .done (.ok false)] := by
    rw [rest]
    rfl
  have ended : ∀ x ∈ c.1, IsDone x := by
    rw [outcomes]
    simp [IsDone]
  exact ⟨ended, (ensureIndex_turns (by simp) {} _).2 ended, outcomes⟩

/-- Of two callers that both look before one of them creates the index, the other one is refused: bringing an
index into being is not safe for callers that take turns. -/
theorem ensureIndex_refused :
    ¬∀ (gs : List Gateway) (name : String) (order : List Nat), (∀ g ∈ gs, g.index = name) →
      let c := turns Server.client (gs.map ensureIndex, {}) order
      (∀ x ∈ c.1, IsDone x) → ∀ x ∈ c.1, ∃ created, x = .done (.ok created) := by
  intro safe
  let g : Gateway := ⟨{}, "venue_facilities"⟩
  have outcomes : (turns Server.client ([g, g].map ensureIndex, {}) [0, 1, 0, 1, 0, 1]).1 =
      [.done (.ok true), .done (.error refusal)] := rfl
  have returns := safe [g, g] g.index [0, 1, 0, 1, 0, 1] (by simp)
  simp only [outcomes] at returns
  obtain ⟨created, equal⟩ := returns (by simp [IsDone]) (.done (.error refusal)) (by simp)
  cases equal

end Venues.Index.Gateway
