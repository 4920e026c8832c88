import Mathlib.Data.List.Induction
import Mathlib.Data.List.Nodup
import Venues.Outbox.Emission
import Venues.Proofs.Outcome
import Venues.Proofs.Uuid

/-! # What commits ask for

From flush to flush a session notes which facilities were touched, and whether they were deleted. The
notes keep one entry to a facility, whatever the order in which the objects of a flush are listed and
however often a facility is met. A commit writes an event for each of the entries and forgets them; a
rollback forgets them without writing anything. What is written can be read back: which facility it is about,
and whether that was deleted.
-/

namespace Venues.Outbox

/-! ## What events ask for -/

section Event

variable {e : Event} {kind kind' : EventKind} {u v : Uuid}

/-- Whether an event tells, in words that make sense, what happened to a facility. -/
structure Event.Asks (e : Event) (kind : EventKind) (u : Uuid) : Prop where
  known : EventKind.ofText? e.kind = some kind
  named : ∃ fs name, e.payload = .object fs ∧ Fields.get fs "facility_id" = .text name ∧
    Uuid.ofText? name = some u

theorem Event.Asks.unique (asks : e.Asks kind u) (asks' : e.Asks kind' v) : v = u := by
  obtain ⟨fs, name, payload, text, read⟩ := asks.named
  obtain ⟨fs', name', payload', text', read'⟩ := asks'.named
  cases payload.symm.trans payload'
  cases text.symm.trans text'
  cases read.symm.trans read'
  rfl

theorem asks_ofFacility (kind : EventKind) (u : Uuid) : (Event.ofFacility (.uuid u) kind).Asks kind u where
  known := by cases kind <;> rfl
  named := ⟨_, u.text, rfl, rfl, Uuid.ofText?_text u⟩

/-- Whether an event is such as it is written of a facility: it asks for it in the words of the outbox, with nothing
but its identity, and nobody has tried it. -/
structure Event.Announces (e : Event) (kind : EventKind) (u : Uuid) : Prop where
  asks : e.Asks kind u
  words : e.kind = match kind with
    | .upserted => "FACILITY_UPSERTED"
    | .deleted => "FACILITY_DELETED"
  payload : e.payload = .object [("facility_id", .text u.text)]
  untried : e.status = .pending ∧ e.retries = 0 ∧ e.lastError = none ∧ e.dueAt = none

theorem announces_ofFacility (kind : EventKind) (u : Uuid) : (Event.ofFacility (.uuid u) kind).Announces kind u where
  asks := asks_ofFacility kind u
  words := by cases kind <;> rfl
  payload := rfl
  untried := ⟨rfl, rfl, rfl, rfl⟩

/-- Events of different facilities are different. -/
theorem nodup_ofFacility {attempts : List (Uuid × EventKind)} (distinct : (attempts.map Prod.fst).Nodup) :
    (attempts.map fun a => Event.ofFacility (.uuid a.1) a.2).Nodup := by
  rw [List.Nodup, List.pairwise_map] at distinct ⊢
  refine distinct.imp fun {a b} other same => other ?_
  have asks := asks_ofFacility a.2 a.1
  rw [same] at asks
  exact (asks_ofFacility b.2 b.1).unique asks

end Event

/-! ## What a flush says -/

namespace Touched

/-- The facility that a changed object is about, if it names one. -/
def facility? : Touched → Option Uuid
  | .facility (.uuid u) | .court (.uuid u) => some u
  | _ => none

theorem facility?_facility {v : Value} {u : Uuid} : (facility v).facility? = some u ↔ v = .uuid u := by
  cases v <;> simp [facility?]

theorem facility?_court {v : Value} {u : Uuid} : (court v).facility? = some u ↔ v = .uuid u := by
  cases v <;> simp [facility?]

/-- Whether an object names a facility, as far as it has to: a court may belong to none. -/
def IsIdentified : Touched → Prop
  | .facility v => ∃ u, v = .uuid u
  | .court v => v = .null ∨ ∃ u, v = .uuid u

end Touched

namespace Flush

variable {f : Flush} {u : Uuid}

def objects (f : Flush) : List Touched := f.added ++ f.changed ++ f.removed

/-- Whether all objects of a flush name their facilities. -/
def IsIdentified (f : Flush) : Prop := ∀ o ∈ f.objects, o.IsIdentified

/-- Whether a flush is about a facility: about itself, or about one of its courts. -/
def Touches (f : Flush) (u : Uuid) : Prop := ∃ o ∈ f.objects, o.facility? = some u

def Deletes (f : Flush) (u : Uuid) : Prop := .facility (.uuid u) ∈ f.removed

end Flush

/-! ## Notes -/

namespace Pending

variable {pending later : Pending} {u : Uuid} {v : Value} {kind : EventKind}

theorem same_uuid : v.same (.uuid u) = true ↔ v = .uuid u := by
  cases v <;> simp [Value.same, Value.magnitude?]

theorem uuid_same : (Value.uuid u).same v = true ↔ v = .uuid u := by
  cases v with
  | uuid w =>
    simp only [Value.same, beq_iff_eq, Value.uuid.injEq]
    exact eq_comm
  | _ => simp [Value.same, Value.magnitude?]

/-- The entries about a facility. -/
def about (pending : Pending) (u : Uuid) : Pending := pending.filter fun p => p.1.same (.uuid u)

theorem about_cons_self : about ((.uuid u, kind) :: pending) u = (.uuid u, kind) :: pending.about u :=
  List.filter_cons_of_pos (same_uuid.mpr rfl)

theorem about_cons_of_ne (other : v ≠ .uuid u) : about ((v, kind) :: pending) u = pending.about u :=
  List.filter_cons_of_neg (mt same_uuid.mp other)

theorem about_put_of_ne (other : v ≠ .uuid u) : (put v kind pending).about u = pending.about u := by
  induction pending with
  | nil => exact about_cons_of_ne other
  | cons p pending ih =>
    obtain ⟨i, k⟩ := p
    unfold put
    by_cases here : i = .uuid u
    · subst here
      rw [if_neg fun same => other (uuid_same.mp same), about_cons_self, about_cons_self, ih]
    · split
      · rw [about_cons_of_ne here, about_cons_of_ne here]
      · rw [about_cons_of_ne here, about_cons_of_ne here, ih]

/-- A new note takes the place of the one that there was. -/
theorem about_put_self (sole : (pending.about u).length ≤ 1) :
    (put (.uuid u) kind pending).about u = [(.uuid u, kind)] := by
  induction pending with
  | nil => exact about_cons_self
  | cons p pending ih =>
    obtain ⟨i, k⟩ := p
    unfold put
    by_cases here : i = .uuid u
    · subst here
      rw [about_cons_self, List.length_cons] at sole
      have none : about pending u = [] := List.length_eq_zero_iff.mp (by omega)
      rw [if_pos (same_uuid.mpr rfl), about_cons_self, none]
    · rw [about_cons_of_ne here] at sole
      rw [if_neg (mt same_uuid.mp here), about_cons_of_ne here, ih sole]

theorem isDeleted_iff : pending.isDeleted (.uuid u) = true ↔ (.uuid u, .deleted) ∈ pending.about u := by
  simp only [isDeleted, about, List.any_eq_true, List.mem_filter, Bool.and_eq_true, beq_iff_eq, same_uuid]
  constructor
  · rintro ⟨⟨i, k⟩, member, rfl, rfl⟩
    exact ⟨member, trivial⟩
  · exact fun ⟨member, _⟩ => ⟨_, member, rfl, rfl⟩

/-- What notes tell of a facility: nothing if it was not touched, and else once whether it was deleted. -/
inductive Notes (pending : Pending) (u : Uuid) (touched deleted : Prop) : Prop
  | none : pending.about u = [] → ¬ touched → ¬ deleted → Notes pending u touched deleted
  | sole (kind : EventKind) : pending.about u = [(.uuid u, kind)] → touched → (kind = .deleted ↔ deleted) →
      Notes pending u touched deleted

variable {touched deleted touched' deleted' : Prop}

theorem Notes.congr (notes : pending.Notes u touched deleted) (same : touched ↔ touched')
    (same' : deleted ↔ deleted') : pending.Notes u touched' deleted' := by
  cases notes with
  | none entries absent kept => exact .none entries (mt same.mpr absent) (mt same'.mpr kept)
  | sole kind entries present told => exact .sole kind entries (same.mp present) (told.trans same')

theorem Notes.of_about (notes : pending.Notes u touched deleted) (same : later.about u = pending.about u) :
    later.Notes u touched deleted := by
  cases notes with
  | none entries absent kept => exact .none (same.trans entries) absent kept
  | sole kind entries present told => exact .sole kind (same.trans entries) present told

theorem notes_nil : Notes [] u False False := .none rfl id id

theorem Notes.length_le_one (notes : pending.Notes u touched deleted) : (pending.about u).length ≤ 1 := by
  cases notes with
  | none entries _ _ => simp [entries]
  | sole kind entries _ _ => simp [entries]

theorem Notes.put (notes : pending.Notes u touched deleted) :
    (put (.uuid u) kind pending).Notes u True (kind = .deleted) :=
  .sole kind (about_put_self notes.length_le_one) trivial .rfl

/-- That a facility was deleted is not forgotten, whatever is noted of it. -/
theorem Notes.mark (notes : pending.Notes u touched deleted) :
    (pending.mark v kind).Notes u (touched ∨ v = .uuid u) (deleted ∨ v = .uuid u ∧ kind = .deleted) := by
  -- of other facilities nothing is noted; of this one a deletion is never overwritten
  by_cases here : v = .uuid u
  · subst here
    unfold Pending.mark
    split
    · rename_i gone
      rw [isDeleted_iff] at gone
      cases notes with
      | none entries _ _ =>
        rw [entries] at gone
        cases gone
      | sole kind' entries present told =>
        rw [entries, List.mem_singleton] at gone
        cases gone
        exact .sole .deleted entries (.inl present) ⟨fun _ => .inl (told.mp rfl), fun _ => rfl⟩
    · rename_i stays
      refine notes.put.congr (by simp) ⟨fun is => .inr ⟨rfl, is⟩, ?_⟩
      rintro (gone | ⟨_, is⟩)
      · cases notes with
        | none _ _ kept => exact absurd gone kept
        | sole kind' entries _ told =>
          cases told.mpr gone
          exact absurd (isDeleted_iff.mpr (by simp [entries])) stays
      · exact is
  · have same : (pending.mark v kind).about u = pending.about u := by
      unfold Pending.mark
      split
      · rfl
      · exact about_put_of_ne here
    exact (notes.of_about same).congr (by simp [here]) (by simp [here])

theorem Notes.touch {o : Touched} (notes : pending.Notes u touched deleted) :
    (pending.touch o).Notes u (touched ∨ o.facility? = some u) deleted := by
  have noted {id : Value} (read : o.facility? = some u ↔ id = .uuid u) (onward : pending.touch o =
      if id.isNull then pending else pending.mark id .upserted) :
      (pending.touch o).Notes u (touched ∨ o.facility? = some u) deleted := by
    rw [onward]
    by_cases null : id.isNull = true
    · have other : id ≠ .uuid u := by
        rintro rfl
        cases null
      rw [if_pos null]
      exact notes.congr (by simp [read, other]) .rfl
    · rw [if_neg null]
      exact notes.mark.congr (by rw [read]) (by simp)
  cases o with
  | facility id => exact noted Touched.facility?_facility rfl
  | court id => exact noted Touched.facility?_court rfl

theorem Notes.drop {o : Touched} (notes : pending.Notes u touched deleted) :
    (pending.drop o).Notes u (touched ∨ o.facility? = some u) (deleted ∨ o = .facility (.uuid u)) := by
  cases o with
  | facility id =>
    by_cases here : id = .uuid u
    · subst here
      exact notes.put.congr (by simp [Touched.facility?_facility]) (by simp)
    · exact (notes.of_about (about_put_of_ne here)).congr (by simp [Touched.facility?_facility, here]) (by simp [here])
  | court id =>
    have noted : (pending.drop (.court id)).Notes u _ _ := notes.touch (o := .court id)
    exact noted.congr .rfl (by simp)

/-! ## Flushes -/

theorem Notes.foldl_touch {os : List Touched} (notes : pending.Notes u touched deleted) :
    (os.foldl Pending.touch pending).Notes u (touched ∨ ∃ o ∈ os, o.facility? = some u) deleted := by
  induction os generalizing pending touched with
  | nil => exact notes.congr (by simp) .rfl
  | cons o os ih => exact (ih notes.touch).congr (by simp [or_assoc]) .rfl

theorem Notes.foldl_drop {os : List Touched} (notes : pending.Notes u touched deleted) :
    (os.foldl Pending.drop pending).Notes u (touched ∨ ∃ o ∈ os, o.facility? = some u)
      (deleted ∨ .facility (.uuid u) ∈ os) := by
  induction os generalizing pending touched deleted with
  | nil => exact notes.congr (by simp) (by simp)
  | cons o os ih => exact (ih notes.drop).congr (by simp [or_assoc]) (by simp [or_assoc, eq_comm])

/-- The notes of a flush do not depend on the order in which its objects are listed. -/
theorem notes_ofFlush (f : Flush) (u : Uuid) : (ofFlush f).Notes u (f.Touches u) (f.Deletes u) :=
  (notes_nil.foldl_touch.foldl_drop).congr
    (by simp [Flush.Touches, Flush.objects, or_and_right, exists_or, or_assoc]) (by simp [Flush.Deletes])

theorem Notes.foldl_mark {changes : Pending} (notes : pending.Notes u touched deleted) :
    (pending.merge changes).Notes u (touched ∨ ∃ kind, (.uuid u, kind) ∈ changes)
      (deleted ∨ (.uuid u, .deleted) ∈ changes) := by
  induction changes generalizing pending touched deleted with
  | nil => exact notes.congr (by simp) (by simp)
  | cons p changes ih =>
    obtain ⟨v, kind⟩ := p
    have noted : (pending.mark v kind).Notes u _ _ := notes.mark
    exact (ih noted).congr (by simp [or_assoc, exists_or, eq_comm]) (by simp [or_assoc, eq_comm])

theorem mem_about : (.uuid u, kind) ∈ pending.about u ↔ (.uuid u, kind) ∈ pending := by
  simp [about, same_uuid]

theorem Notes.touched_iff (notes : pending.Notes u touched deleted) :
    (∃ kind, (.uuid u, kind) ∈ pending) ↔ touched := by
  have inside (kind : EventKind) : (.uuid u, kind) ∈ pending ↔ (.uuid u, kind) ∈ pending.about u := mem_about.symm
  simp only [inside]
  cases notes with
  | none entries absent _ => simp [entries, absent]
  | sole kind entries present _ => simp [entries, present]

theorem Notes.deleted_iff (notes : pending.Notes u touched deleted) : (.uuid u, .deleted) ∈ pending ↔ deleted := by
  rw [← mem_about]
  cases notes with
  | none entries _ kept => simp [entries, kept]
  | sole kind entries _ told => simp [entries, ← told, eq_comm]

theorem Notes.kind_iff (notes : pending.Notes u touched deleted) (noted : (.uuid u, kind) ∈ pending) :
    kind = .deleted ↔ deleted := by
  rw [← mem_about] at noted
  cases notes with
  | none entries _ _ =>
    rw [entries] at noted
    cases noted
  | sole kind' entries _ told =>
    rw [entries, List.mem_singleton] at noted
    cases noted
    exact told

/-- Notes of one flush are added to those of the flushes before it. -/
theorem Notes.merge (notes : pending.Notes u touched deleted) (notes' : later.Notes u touched' deleted') :
    (pending.merge later).Notes u (touched ∨ touched') (deleted ∨ deleted') :=
  notes.foldl_mark.congr (by rw [notes'.touched_iff]) (by rw [notes'.deleted_iff])

/-! ## Notes that name facilities -/

/-- Whether all notes are about facilities. -/
def IsNamed (pending : Pending) : Prop := ∀ p ∈ pending, ∃ u, p.1 = .uuid u

theorem isNamed_put (named : pending.IsNamed) : (put (.uuid u) kind pending).IsNamed := by
  induction pending with
  | nil =>
    intro p member
    rw [List.mem_singleton.mp member]
    exact ⟨u, rfl⟩
  | cons q pending ih =>
    obtain ⟨first, others⟩ := List.forall_mem_cons.mp named
    unfold put
    split
    · exact List.forall_mem_cons.mpr ⟨first, others⟩
    · exact List.forall_mem_cons.mpr ⟨first, ih others⟩

theorem isNamed_mark (named : pending.IsNamed) : (pending.mark (.uuid u) kind).IsNamed := by
  unfold mark
  split
  · exact named
  · exact isNamed_put named

theorem isNamed_touch {o : Touched} (named : pending.IsNamed) (identified : o.IsIdentified) :
    (pending.touch o).IsNamed := by
  cases o with
  | facility id =>
    obtain ⟨u, rfl⟩ := identified
    exact isNamed_mark named
  | court id =>
    rcases identified with rfl | ⟨u, rfl⟩
    · exact named
    · exact isNamed_mark named

theorem isNamed_drop {o : Touched} (named : pending.IsNamed) (identified : o.IsIdentified) :
    (pending.drop o).IsNamed := by
  cases o with
  | facility id =>
    obtain ⟨u, rfl⟩ := identified
    exact isNamed_put named
  | court id => exact isNamed_touch named identified

theorem isNamed_ofFlush {f : Flush} (identified : f.IsIdentified) : (ofFlush f).IsNamed := by
  have onward (step : Pending → Touched → Pending)
      (each : ∀ (p : Pending) (o : Touched), p.IsNamed → o.IsIdentified → (step p o).IsNamed) (os : List Touched) :
      ∀ p : Pending, p.IsNamed → (∀ o ∈ os, o.IsIdentified) → (os.foldl step p).IsNamed := by
    induction os with
    | nil => exact fun _ named _ => named
    | cons o os ih =>
      intro p named identified
      obtain ⟨first, others⟩ := List.forall_mem_cons.mp identified
      exact ih _ (each p o named first) others
  refine onward drop (fun _ _ => isNamed_drop) _ _ (onward touch (fun _ _ => isNamed_touch) _ _ nofun ?_) ?_
  · exact fun o member => identified o (List.mem_append_left _ member)
  · exact fun o member => identified o (List.mem_append_right _ member)

theorem isNamed_merge (named : pending.IsNamed) (named' : later.IsNamed) : (pending.merge later).IsNamed := by
  induction later generalizing pending with
  | nil => exact named
  | cons p later ih =>
    obtain ⟨⟨u, first⟩, others⟩ := List.forall_mem_cons.mp named'
    obtain ⟨i, kind⟩ := p
    cases first
    exact ih (isNamed_mark named) others

theorem exists_attempts (named : pending.IsNamed) :
    ∃ attempts : List (Uuid × EventKind), pending = attempts.map fun a => (.uuid a.1, a.2) := by
  induction pending with
  | nil => exact ⟨[], rfl⟩
  | cons p pending ih =>
    obtain ⟨⟨u, first⟩, others⟩ := List.forall_mem_cons.mp named
    obtain ⟨attempts, rfl⟩ := ih others
    exact ⟨(u, p.2) :: attempts, by rw [List.map_cons, ← first]⟩

/-- Notes that have at most one entry to a facility name no facility twice. -/
theorem nodup_attempts {attempts : List (Uuid × EventKind)}
    (sole : ∀ u, (about (attempts.map fun a => (.uuid a.1, a.2)) u).length ≤ 1) : (attempts.map Prod.fst).Nodup := by
  rw [List.nodup_iff_count_le_one]
  intro u
  have counts : (attempts.map Prod.fst).count u = (about (attempts.map fun a => (.uuid a.1, a.2)) u).length := by
    rw [about, List.filter_map, List.length_map, ← List.countP_eq_length_filter, List.count, List.countP_map]
    exact List.countP_congr fun a _ => by simp [Value.same]
  rw [counts]
  exact sole u

end Pending

/-! ## Commits -/

/-- What is written is what the outbox takes, in the order of the notes. -/
theorem emit_eq (accepts : Event → Bool) (pending : Pending) (events : List Event) :
    emit accepts pending events =
      events ++ (pending.map fun p => Event.ofFacility p.1 p.2).filter accepts := by
  induction pending generalizing events with
  | nil => simp [emit]
  | cons p pending ih =>
    unfold emit at ih ⊢
    rw [List.foldl_cons, ih, record]
    by_cases accepted : accepts (.ofFacility p.1 p.2) = true
    · simp [accepted]
    · simp [accepted]

/-- What happens to a session, as far as its notes go. With a commit comes which events the outbox
takes. -/
inductive Moment where
  | flush (f : Flush)
  | commit (accepts : Event → Bool)
  | rollback

/-- The notes of a session, and the events of the outbox. -/
structure Hooks where
  pending : Pending := []
  events : List Event := []

namespace Hooks

def step (h : Hooks) : Moment → Hooks
  | .flush f => { h with pending := h.pending.merge (.ofFlush f) }
  | .commit accepts => { pending := [], events := emit accepts h.pending h.events }
  | .rollback => { h with pending := [] }

def run (h : Hooks) (history : List Moment) : Hooks := history.foldl step h

end Hooks

/-- The flushes of a history since its last commit or rollback. -/
def openFlushes (history : List Moment) : List Flush :=
  history.foldl (fun fs moment =>
    match moment with
    | .flush f => fs ++ [f]
    | .commit _ | .rollback => []) []

theorem openFlushes_append (history : List Moment) (moment : Moment) :
    openFlushes (history ++ [moment]) =
      match moment with
      | .flush f => openFlushes history ++ [f]
      | .commit _ | .rollback => [] := by
  rw [openFlushes, List.foldl_append]
  cases moment <;> rfl

/-- After any history the notes tell what the open flushes were about. -/
theorem Hooks.notes_run (history : List Moment) (events : List Event) (u : Uuid) :
    (Hooks.run { events := events } history).pending.Notes u (∃ f ∈ openFlushes history, f.Touches u)
      (∃ f ∈ openFlushes history, f.Deletes u) := by
  induction history using List.reverseRecOn with
  | nil => exact Pending.notes_nil.congr (by simp [openFlushes]) (by simp [openFlushes])
  | append_singleton history moment ih =>
    rw [run, List.foldl_append, openFlushes_append]
    cases moment with
    | flush f =>
      exact (ih.merge (Pending.notes_ofFlush f u)).congr (by simp [or_and_right, exists_or])
        (by simp [or_and_right, exists_or])
    | commit accepts => exact Pending.notes_nil.congr (by simp) (by simp)
    | rollback => exact Pending.notes_nil.congr (by simp) (by simp)

theorem Hooks.isNamed_run {history : List Moment} (identified : ∀ f, .flush f ∈ history → f.IsIdentified)
    (events : List Event) : (Hooks.run { events := events } history).pending.IsNamed := by
  induction history using List.reverseRecOn with
  | nil => exact nofun
  | append_singleton history moment ih =>
    have before := ih fun f member => identified f (List.mem_append_left _ member)
    rw [run, List.foldl_append]
    cases moment with
    | flush f =>
      exact Pending.isNamed_merge before
        (Pending.isNamed_ofFlush (identified f (List.mem_append_right _ List.mem_cons_self)))
    | commit accepts => exact nofun
    | rollback => exact nofun

/-- Whatever a session has been through, a commit tries to write one event for each facility that the open
flushes were about, and for no other one. It announces in the words of the outbox that the facility was deleted
if one of them deleted it, and that it was changed if none did. No two of these events are the same, and the
outbox may take any of them: those that it does not take are left out, all others are written behind those that
are there, and nothing is left for a later commit. Neither a flush nor a rollback writes an event. -/
theorem Hooks.commit_attempts {history : List Moment}
    (identified : ∀ f, .flush f ∈ history → f.IsIdentified) (events : List Event) (accepts : Event → Bool) :
    ∃ (attempts : List (Uuid × EventKind)) (tried : List Event),
      (attempts.map Prod.fst).Nodup ∧
      (∀ u, u ∈ attempts.map Prod.fst ↔ ∃ f ∈ openFlushes history, f.Touches u) ∧
      (∀ u kind, (u, kind) ∈ attempts → (kind = .deleted ↔ ∃ f ∈ openFlushes history, f.Deletes u)) ∧
      List.Forall₂ (fun a e => e.Announces a.2 a.1) attempts tried ∧ tried.Nodup ∧
      Hooks.run { events := events } (history ++ [.commit accepts]) = {
        pending := [],
        events := (Hooks.run { events := events } history).events ++ tried.filter accepts } ∧
      (∀ f, (Hooks.run { events := events } (history ++ [.flush f])).events =
        (Hooks.run { events := events } history).events) ∧
      Hooks.run { events := events } (history ++ [.rollback]) = {
        pending := [], events := (Hooks.run { events := events } history).events } := by
  have notes := Hooks.notes_run history events
  have onward (moment : Moment) : Hooks.run { events := events } (history ++ [moment]) =
      (Hooks.run { events := events } history).step moment := List.foldl_append
  obtain ⟨attempts, noted⟩ := Pending.exists_attempts (Hooks.isNamed_run identified events)
  have member {u : Uuid} {kind : EventKind} : (u, kind) ∈ attempts ↔
      (.uuid u, kind) ∈ (Hooks.run { events := events } history).pending := by
    simp [noted]
  have distinct : (attempts.map Prod.fst).Nodup := Pending.nodup_attempts fun u => noted ▸ (notes u).length_le_one
  refine ⟨attempts, attempts.map fun a => Event.ofFacility (.uuid a.1) a.2, distinct, fun u => ?_,
    fun u kind there => ?_, ?_, nodup_ofFacility distinct, ?_, fun f => ?_, ?_⟩
  · rw [← (notes u).touched_iff]
    simp [member]
  · exact (notes u).kind_iff (member.mp there)
  · rw [List.forall₂_map_right_iff, List.forall₂_same]
    exact fun a _ => announces_ofFacility a.2 a.1
  · rw [onward]
    simp only [Hooks.step, emit_eq, noted, List.map_map]
    rfl
  · rw [onward]
    rfl
  · rw [onward]
    rfl

/-- A history in which one facility is changed, asked for, and then deleted, and a court of another one is
removed, after a rollback has undone that a third one was added. -/
def busy : List Moment :=
  [.flush { changed := [.facility (.uuid ⟨1⟩)] }, .commit fun _ => true,
    .flush { added := [.facility (.uuid ⟨3⟩)] }, .rollback,
    .flush { changed := [.court (.uuid ⟨1⟩)], removed := [.court (.uuid ⟨2⟩)] },
    .flush { removed := [.court (.uuid ⟨1⟩), .facility (.uuid ⟨1⟩)] }]

theorem busy_isIdentified : ∀ f, .flush f ∈ busy → f.IsIdentified := by
  simp [busy, Flush.IsIdentified, Flush.objects, Touched.IsIdentified]

/-- The first commit has written that the first facility was changed. -/
theorem events_busy : (Hooks.run {} busy).events = [.ofFacility (.uuid ⟨1⟩) .upserted] := by with_unfolding_all rfl

/-- After it a commit announces that the first facility was deleted, and that the second one was changed, and
nothing of the third. An outbox that has no room for the second event holds the first one all the same. -/
theorem Hooks.commit_attempts_busy : (∀ f, .flush f ∈ busy → f.IsIdentified) ∧
    ∃ (attempts : List (Uuid × EventKind)) (tried : List Event),
      (⟨1⟩, .deleted) ∈ attempts ∧ (⟨2⟩, .upserted) ∈ attempts ∧ ⟨3⟩ ∉ attempts.map Prod.fst ∧
      List.Forall₂ (fun a e => e.Announces a.2 a.1) attempts tried ∧
      ∃ held, (Hooks.run {} (busy ++ [.commit fun e => e.kind == "FACILITY_DELETED"])).events = held ∧
        (∃ e ∈ held, e.kind = "FACILITY_DELETED" ∧
          e.payload = .object [("facility_id", .text "00000000-0000-0000-0000-000000000001")]) ∧
        ∃ e ∈ tried, e ∉ held ∧ e.kind = "FACILITY_UPSERTED" ∧
          e.payload = .object [("facility_id", .text "00000000-0000-0000-0000-000000000002")] := by
  obtain ⟨attempts, tried, _, touched, deleted, announced, _, committed, _⟩ :=
    Hooks.commit_attempts busy_isIdentified [] fun e => e.kind == "FACILITY_DELETED"
  have kindOf {u : Uuid} (about : ∃ f ∈ openFlushes busy, f.Touches u) : ∃ kind, (u, kind) ∈ attempts := by
    obtain ⟨⟨v, kind⟩, there, same⟩ := List.mem_map.mp ((touched u).mpr about)
    exact ⟨kind, same ▸ there⟩
  have first : (⟨1⟩, .deleted) ∈ attempts := by
    obtain ⟨kind, there⟩ := kindOf (u := ⟨1⟩) (by
      simp [openFlushes, busy, Flush.Touches, Flush.objects, Touched.facility?])
    cases (deleted _ kind there).mpr (by simp [openFlushes, busy, Flush.Deletes])
    exact there
  have second : (⟨2⟩, .upserted) ∈ attempts := by
    obtain ⟨kind, there⟩ := kindOf (u := ⟨2⟩) (by
      simp [openFlushes, busy, Flush.Touches, Flush.objects, Touched.facility?])
    cases kind with
    | upserted => exact there
    | deleted =>
      have gone := (deleted _ _ there).mp rfl
      simp [openFlushes, busy, Flush.Deletes] at gone
  have third : ⟨3⟩ ∉ attempts.map Prod.fst := by
    intro there
    have about := (touched _).mp there
    simp [openFlushes, busy, Flush.Touches, Flush.objects, Touched.facility?] at about
  have event := exists_of_forall₂ announced.flip
  obtain ⟨gone, there, tells⟩ := event _ first
  obtain ⟨late, there', tells'⟩ := event _ second
  rw [events_busy] at committed
  refine ⟨busy_isIdentified, attempts, tried, first, second, third, announced, _, congrArg Hooks.events committed,
    ⟨gone, ?_, tells.words, tells.payload.trans (by with_unfolding_all rfl)⟩,
    late, there', ?_, tells'.words, tells'.payload.trans (by with_unfolding_all rfl)⟩
  · exact List.mem_append_right _ (List.mem_filter.mpr ⟨there, by simp [tells.words]⟩)
  · rintro (_ | ⟨_, taken⟩)
    · cases (asks_ofFacility .upserted ⟨1⟩).unique tells'.asks
    · have refused := (List.mem_filter.mp taken).2
      simp [tells'.words] at refused

end Venues.Outbox
