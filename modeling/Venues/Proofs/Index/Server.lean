import Venues.Index.Gateway
import Venues.Index.Server
import Venues.Proofs.Exchange
import Venues.Proofs.Fields
import Venues.Proofs.Outcome
import Venues.Reindex

/-! # The index in memory

What the gateway asks of the index in memory changes the documents that it names, and no others: the
index is brought into being, and documents are loaded one by one, each of them written or refused.
-/

namespace Venues.Index.Server

variable {s : Server} {name id id' : String} {documents : Documents} {v : Value}

/-! ## Documents -/

/-- Placing the documents of an index changes this index alone. -/
theorem lookup_place (indexes : List (String × Documents)) (other : String) :
    (setIndex.place name documents indexes).lookup other =
      if other = name then some documents else indexes.lookup other := by
  by_cases asked : other = name
  · rw [if_pos asked]
    induction indexes with
    | nil => simp [setIndex.place, asked]
    | cons i indexes ih =>
      obtain ⟨n, held⟩ := i
      rw [setIndex.place]
      by_cases same : n = name
      · simp [same, asked]
      · rw [if_neg same, List.lookup_cons, ih, beq_false_of_ne (asked ▸ Ne.symm same)]
  · rw [if_neg asked]
    induction indexes with
    | nil => simp [setIndex.place, List.lookup_cons, beq_false_of_ne asked]
    | cons i indexes ih =>
      obtain ⟨n, held⟩ := i
      rw [setIndex.place]
      by_cases same : n = name
      · simp [same, List.lookup_cons, beq_false_of_ne asked]
      · rw [if_neg same, List.lookup_cons, List.lookup_cons, ih]

@[simp] theorem index?_setIndex : (s.setIndex name documents).index? name = some documents := by
  rw [index?, setIndex, lookup_place, if_pos rfl]

/-- A written document is there, and all others are as they were. -/
theorem document?_put :
    (s.put name id v).document? name id' = if id' = id then some v else s.document? name id' := by
  simp only [document?, put, index?_setIndex, Option.bind_some, Documents.get?, Documents.put]
  by_cases same : id' = id
  · subst same
    rw [if_pos rfl]
    exact Fields.get?_put_self
  · rw [if_neg same]
    refine (Fields.get?_put_of_ne same).trans ?_
    cases s.index? name <;> rfl

/-- Whether a server has got a document under an identity, or has lost it, and is otherwise as before. -/
structure Sets (s t : Server) (name id : String) (document? : Option Value) : Prop where
  held : ∀ id', t.document? name id' = if id' = id then document? else s.document? name id'
  others : ∀ other ≠ name, t.index? other = s.index? other

theorem index?_setIndex_of_ne {other : String} (different : other ≠ name) :
    (s.setIndex name documents).index? other = s.index? other := by
  rw [index?, setIndex, lookup_place, if_neg different]
  rfl

theorem sets_self : s.Sets s name id (s.document? name id) where
  held id' := by
    split
    · rename_i same
      rw [same]
    · rfl
  others _ _ := rfl

theorem sets_put : s.Sets (s.put name id v) name id (some v) where
  held _ := document?_put
  others _ different := index?_setIndex_of_ne different

theorem sets_remove : s.Sets (s.remove name id).2 name id none := by
  unfold remove
  cases there : s.index? name with
  | none =>
    have absent : s.document? name id = none := by rw [document?, there]; rfl
    exact absent ▸ sets_self
  | some documents =>
    dsimp only
    -- removing what is not there is refused, and changes nothing
    by_cases held : (documents.get? id).isNone = true
    · have absent : s.document? name id = none := by
        rw [document?, there]
        exact Option.isNone_iff_eq_none.mp held
      rw [if_pos held]
      exact absent ▸ sets_self
    · rw [if_neg held]
      refine ⟨fun id' => ?_, fun _ different => index?_setIndex_of_ne different⟩
      simp only [document?, index?_setIndex, there, Option.bind_some, Documents.get?, Documents.remove]
      by_cases same : id' = id
      · rw [if_pos same, same]
        exact Fields.get?_filter_eq_none (p := (· != id)) (by simp)
      · rw [if_neg same]
        exact Fields.get?_filter (p := (· != id)) (by simpa using same)

/-! ## Bringing the index into being -/

theorem run_exists : (exists? name).run client s = (.ok (s.index? name).isSome, s) := rfl

theorem run_create {settings : Settings} (absent : (s.index? name).isSome = false) :
    (create settings name).run client s = (.ok (), s.setIndex name []) := by
  have created : (Exchange.call (.createIndex name (indexSettings settings) mapping)).run client s =
      (.ok (.object [("acknowledged", .bool true), ("index", .text name)]), s.setIndex name []) := by
    show s.createIndex name = _
    rw [createIndex, if_neg (by simp [absent])]
  rw [create, Exchange.run_bind created]
  rfl

/-- Creating an index leaves one that exists as it is. -/
theorem run_ensure {settings : Settings} :
    ∃ created t, (ensure settings name).run client s = (.ok created, t) ∧ t.refused = s.refused ∧
      t.index? name = some ((s.index? name).getD []) := by
  rw [ensure, Exchange.run_bind run_exists]
  cases held : s.index? name with
  | some documents => exact ⟨false, s, rfl, rfl, held⟩
  | none =>
    refine ⟨true, s.setIndex name [], ?_, rfl, index?_setIndex⟩
    show (create settings name >>= fun _ => pure true).run client s = _
    rw [Exchange.run_bind (run_create (by rw [held]; rfl))]
    rfl

/-- Rebuilding an index leaves it without documents. -/
theorem run_recreate {settings : Settings} :
    ∃ dropped t, (recreate settings name).run client s = (.ok dropped, t) ∧ t.refused = s.refused ∧
      t.index? name = some [] := by
  have gone : ((s.dropIndex name).index? name).isSome = false := by
    simpa [dropIndex, index?, List.lookup_eq_none_iff] using fun n _ _ other => Ne.symm other
  -- dropping an index that is not there is an error of the client, which is passed over
  have dropping : ∃ dropped t, (drop name).run client s = (.ok dropped, t) ∧ t.refused = s.refused ∧
      (t.index? name).isSome = false := by
    by_cases there : (s.index? name).isNone = true
    · have refusal : (Exchange.call (.dropIndex name)).run client s = (.error (.client noIndex), s) := by
        show answer (.dropIndex name) s = _
        simp only [answer, there, if_true]
      exact ⟨false, s, Exchange.run_handle_error (Exchange.run_bind_error refusal), rfl, by simpa using there⟩
    · have dropped : (Exchange.call (.dropIndex name)).run client s =
          (.ok (.object [("acknowledged", .bool true)]), s.dropIndex name) := by
        show answer (.dropIndex name) s = _
        simp only [answer, there]
        rfl
      exact ⟨true, s.dropIndex name, Exchange.run_handle (Exchange.run_bind dropped), rfl, gone⟩
  obtain ⟨dropped, t, drops, refused, absent⟩ := dropping
  refine ⟨dropped, t.setIndex name [], ?_, refused, index?_setIndex⟩
  rw [recreate, Exchange.run_bind drops, Exchange.run_bind (run_create absent)]
  rfl

theorem run_explained {α : Type} {x : Exchange α} {a : α} {t : Server} (runs : x.run client s = (.ok a, t))
    (action : String) : (Gateway.connected >>= fun _ => Gateway.explained action x).run client s = (.ok a, t) := by
  rw [Exchange.run_bind (show Gateway.connected.run client s = (.ok (), s) from rfl)]
  exact Exchange.run_handle runs

/-- An index that is prepared anew has no documents. -/
theorem exists_cleared (g : Gateway) : ∃ t, (Reindex.prepare g true).run client s = (.ok (), t) ∧
    t.refused = s.refused ∧ t.index? g.index = some [] := by
  obtain ⟨dropped, t, runs, refused, empty⟩ := @run_recreate s g.index g.settings
  exact ⟨t, Exchange.run_bind (run_explained runs "index rebuild"), refused, empty⟩

theorem exists_prepared (g : Gateway) (clear : Bool) :
    ∃ t, (Reindex.prepare g clear).run client s = (.ok (), t) ∧ t.refused = s.refused := by
  cases clear with
  | false =>
    obtain ⟨created, t, runs, refused, _⟩ := @run_ensure s g.index g.settings
    exact ⟨t, Exchange.run_bind (run_explained runs "index bootstrap"), refused⟩
  | true =>
    obtain ⟨t, runs, refused, _⟩ := @exists_cleared s g
    exact ⟨t, runs, refused⟩

/-! ## Loading documents -/

/-- What the server makes of a document: it is refused, or written. -/
def take (name : String) (s : Server) (d : Document) : Server :=
  if s.refused.contains d.id then s else s.put name d.id d.source

/-- The line that tells of a refused document. -/
def refusal (d : Document) : String := d.id ++ ": " ++ "failed to parse field"

@[simp] theorem refused_take {d : Document} : (s.take name d).refused = s.refused := by
  unfold take
  split <;> rfl

theorem loadAll_eq (documents : List Document) :
    s.loadAll name (documents.map fun d => (d.id, d.source)) =
      (documents.map fun d => loadOutcome name d.id (s.refused.contains d.id),
        documents.foldl (take name) s) := by
  induction documents generalizing s with
  | nil => rfl
  | cons d documents ih =>
    have first : (if s.refused.contains d.id then s else s.put name d.id d.source) = s.take name d := rfl
    simp only [List.map_cons, loadAll, first, ih, refused_take, List.foldl_cons]

theorem readOutcome_loadOutcome (d : Document) (refused : Bool) :
    Gateway.readOutcome (loadOutcome name d.id refused) =
      .ok (if refused then { errors := [refusal d] } else { indexed := 1 }) := by
  cases refused <;> rfl

@[simp] theorem refused_foldl_take {documents : List Document} :
    (documents.foldl (take name) s).refused = s.refused := by
  induction documents generalizing s with
  | nil => rfl
  | cons d documents ih => rw [List.foldl_cons, ih, refused_take]

/-- A document that is not among those that are taken stays as it is. -/
theorem document?_foldl_take {documents : List Document}
    (other : ∀ d ∈ documents, d.id = id → d.id ∈ s.refused) :
    (documents.foldl (take name) s).document? name id = s.document? name id := by
  induction documents generalizing s with
  | nil => rfl
  | cons d documents ih =>
    obtain ⟨first, others⟩ := List.forall_mem_cons.mp other
    rw [List.foldl_cons, ih (by simpa using others), take]
    by_cases refused : d.id ∈ s.refused
    · rw [if_pos (by simpa using refused)]
    · rw [if_neg (by simpa using refused), document?_put, if_neg fun same => refused (first same.symm)]

/-- Of documents with different identities each one that is not refused is held. -/
theorem document?_foldl_take_self {documents : List Document} (distinct : (documents.map Document.id).Nodup)
    {d : Document} (member : d ∈ documents) (accepted : d.id ∉ s.refused) :
    (documents.foldl (take name) s).document? name d.id = some d.source := by
  induction documents generalizing s with
  | nil => cases member
  | cons e documents ih =>
    rw [List.map_cons, List.nodup_cons] at distinct
    rw [List.foldl_cons]
    rcases List.mem_cons.mp member with rfl | member
    · have later : ∀ e ∈ documents, e.id = d.id → e.id ∈ (s.take name d).refused := fun e there same =>
        absurd (List.mem_map.mpr ⟨e, there, same⟩) distinct.1
      rw [document?_foldl_take later, take, if_neg (by simpa using accepted), document?_put, if_pos rfl]
    · exact ih distinct.2 member (by simpa using accepted)

/-- A server that refuses nothing appends documents with new identities to those that an index holds. -/
theorem index?_foldl_take {held : Documents} {documents : List Document} (accepting : s.refused = [])
    (there : s.index? name = some held) (fresh : (held.map Prod.fst ++ documents.map Document.id).Nodup) :
    (documents.foldl (take name) s).index? name = some (held ++ documents.map fun d => (d.id, d.source)) := by
  -- the induction is on the documents that are still to be taken
  induction documents generalizing s held with
  | nil => rw [List.map_nil, List.append_nil]; exact there
  | cons d documents ih =>
    have absent : Fields.get? held d.id = none := by
      rw [Fields.get?, List.lookup_eq_none_iff]
      intro e member
      have apart := (List.nodup_append.mp fresh).2.2 e.1 (List.mem_map_of_mem member) d.id List.mem_cons_self
      simpa using Ne.symm apart
    have taken : (s.take name d).index? name = some (held ++ [(d.id, d.source)]) := by
      rw [take, accepting, if_neg (by simp), put, index?_setIndex, there]
      exact congrArg some (Fields.put_eq_append absent)
    have fresh : ((held ++ [(d.id, d.source)]).map Prod.fst ++ documents.map Document.id).Nodup := by
      rw [List.map_append, List.append_assoc]
      exact fresh
    rw [List.foldl_cons, ih (refused_take.trans accepting) taken fresh, List.append_assoc]
    rfl

/-- How many of some documents are not refused. -/
def countTaken (s : Server) (documents : List Document) : Nat :=
  documents.countP fun d => !s.refused.contains d.id

/-- The lines that tell of the documents that are refused. -/
def refusals (s : Server) (documents : List Document) : List String :=
  documents.filterMap fun d => if s.refused.contains d.id then some (refusal d) else none

section Accepting

variable {documents : List Document} (accepting : s.refused = [])
include accepting

theorem countTaken_of_accepting : s.countTaken documents = documents.length := by
  simp [countTaken, accepting]

theorem refusals_of_accepting : s.refusals documents = [] := by
  simp [refusals, accepting]

end Accepting

/-- The outcomes of documents count those that were written, and tell of those that were refused. -/
theorem foldl_outcomes (documents : List Document) (l : Gateway.Loaded) :
    (documents.map fun d : Document => if s.refused.contains d.id then
        ({ errors := [refusal d] } : Gateway.Loaded) else { indexed := 1 }).foldl Gateway.Loaded.plus l =
      ⟨l.indexed + s.countTaken documents, l.errors ++ s.refusals documents⟩ := by
  induction documents generalizing l with
  | nil => simp [countTaken, refusals]
  | cons d documents ih =>
    rw [List.map_cons, List.foldl_cons, ih]
    by_cases refused : d.id ∈ s.refused
    · simp [countTaken, refusals, refused, Gateway.Loaded.plus]
    · simp [countTaken, refusals, refused, Gateway.Loaded.plus]
      omega

/-- Documents are loaded at once as they are loaded one by one. -/
theorem run_load (g : Gateway) (documents : List Document) :
    (g.load documents).run client s =
      (.ok ⟨s.countTaken documents, s.refusals documents⟩, documents.foldl (take g.index) s) := by
  unfold Gateway.load
  by_cases empty : documents.isEmpty = true
  · rw [if_pos empty, List.isEmpty_iff.mp empty]
    rfl
  · let sources := documents.map fun d => (d.id, d.source)
    let reply : Value := .object [("took", .int 1),
      ("errors", .bool (sources.any fun d => s.refused.contains d.1)),
      ("items", .list (documents.map fun d => loadOutcome g.index d.id (s.refused.contains d.id)))]
    have called : (Exchange.call (.load g.index sources)).run client s =
        (.ok reply, documents.foldl (take g.index) s) := by
      show (_, (s.loadAll g.index sources).2) = _
      rw [loadAll_eq]
    -- each document has its own outcome, whether the index takes it or not
    have read : (documents.map fun d => loadOutcome g.index d.id (s.refused.contains d.id)).mapM
        Gateway.readOutcome = .ok (documents.map fun d : Document => if s.refused.contains d.id then
          ({ errors := [refusal d] } : Gateway.Loaded) else { indexed := 1 }) := by
      rw [List.mapM_map]
      exact mapM_eq_ok fun d _ => readOutcome_loadOutcome d _
    rw [if_neg empty, Exchange.run_bind (show Gateway.connected.run client s = (.ok (), s) from rfl)]
    have explained : (Gateway.explained "bulk index" (Exchange.call (.load g.index sources))).run client s =
        (.ok reply, documents.foldl (take g.index) s) := Exchange.run_handle called
    rw [Exchange.run_bind explained]
    show (liftM ((documents.map fun d => loadOutcome g.index d.id (s.refused.contains d.id)).mapM
      Gateway.readOutcome) >>= fun outcomes => pure (outcomes.foldl Gateway.Loaded.plus {}) :
        Exchange Gateway.Loaded).run client (documents.foldl (take g.index) s) = _
    rw [read]
    show (_, _) = _
    rw [foldl_outcomes]
    simp

end Venues.Index.Server
