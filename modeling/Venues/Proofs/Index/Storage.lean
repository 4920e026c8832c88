import Venues.Proofs.Index.Written

/-! # Documents are stored and read back

A document that the gateway writes is the one that it reads back, until it is written again or removed.
To load documents at once comes to the same as to write them one after the other, without those that the
index refuses.
-/

namespace Venues.Index.Server

variable {s t : Server} {name id : String} {d : Document}

/-! ## Reading -/

/-- What the gateway reads of a document that is held, or is not. -/
def reading : Option Value → Outcome (Option Document)
  | none => .ok none
  | some source => ((Schema.document source).mapError Fault.schema).map some

theorem reading_source (d? : Option Document) : reading (d?.map Document.source) = .ok d? := by
  cases d? with
  | none => rfl
  | some d =>
    show ((Schema.document d.source).mapError Fault.schema).map some = .ok (some d)
    rw [Schema.document_source]
    rfl

/-- What the gateway is answered when it asks for a document; it takes no document for an answer. -/
theorem run_ask (g : Gateway) (id : String) :
    (Gateway.explained "get" ((some <$> Exchange.call (.get g.index id)).orAbsent none)).run client s =
      (.ok (s.get g.index id).toOption, s) := by
  have called : (Exchange.call (.get g.index id)).run client s = (s.get g.index id, s) := rfl
  cases held : s.document? g.index id with
  | none =>
    have absent : s.get g.index id = .error (.client noDocument) := by rw [Server.get, held]
    rw [absent] at called ⊢
    have asked : (some <$> Exchange.call (.get g.index id) : Exchange (Option Value)).run client s =
        (.error (.client noDocument), s) := Exchange.run_bind_error called
    exact Exchange.run_handle (Exchange.run_handle_error asked)
  | some source =>
    have there : s.get g.index id = .ok (.object [("_index", .text g.index), ("_id", .text id),
        ("found", .bool true), ("_source", source)]) := by rw [Server.get, held]
    rw [there] at called ⊢
    have asked : (some <$> Exchange.call (.get g.index id) : Exchange (Option Value)).run client s =
        (.ok (some _), s) := Exchange.run_bind called
    exact Exchange.run_handle (Exchange.run_handle asked)

theorem run_get (g : Gateway) (id : String) :
    (g.get id).run client s = (reading (s.document? g.index id), s) := by
  rw [Gateway.get, Exchange.run_bind (show Gateway.connected.run client s = (.ok (), s) from rfl),
    Exchange.run_bind (run_ask g id), Server.get]
  cases s.document? g.index id <;> rfl

/-- Setting one document of an index, or removing it, is seen by those who read it, and by no others. -/
theorem Sets.run_get {g : Gateway} (d? : Option Document) (sets : s.Sets t g.index id (d?.map Document.source))
    (id' : String) : (g.get id').run client t =
      (if id' = id then .ok d? else ((g.get id').run client s).1, t) := by
  rw [Server.run_get, Server.run_get, sets.held]
  by_cases same : id' = id
  · rw [if_pos same, if_pos same, reading_source]
  · rw [if_neg same, if_neg same]

/-! ## Writing -/

theorem run_put (g : Gateway) (d : Document) :
    (g.put d).run client s = (.ok (), s.put g.index d.id d.source) := by
  have called : (Exchange.call (.put g.index d.id d.source)).run client s =
      (.ok (written g.index d.id (if (s.document? g.index d.id).isSome then "updated" else "created")),
        s.put g.index d.id d.source) := rfl
  have answered : (Gateway.explained "index" (Exchange.call (.put g.index d.id d.source))).run client s =
      (.ok _, s.put g.index d.id d.source) := Exchange.run_handle called
  rw [Gateway.put, Exchange.run_bind (show Gateway.connected.run client s = (.ok (), s) from rfl),
    Exchange.run_bind answered]
  rfl

/-- Taking documents is to write those that are not refused, one after the other. -/
theorem run_forM_put (g : Gateway) (documents : List Document) :
    ((documents.filter fun d => !s.refused.contains d.id).forM g.put).run client s =
      (.ok (), documents.foldl (take g.index) s) := by
  -- the induction goes on from the server that took the first document, which refuses what it did before
  induction documents generalizing s with
  | nil => rfl
  | cons d documents ih =>
    have onward := @ih (s.take g.index d)
    rw [refused_take] at onward
    rw [List.foldl_cons]
    by_cases refused : d.id ∈ s.refused
    · have left : s.take g.index d = s := by rw [take, if_pos (by simpa using refused)]
      rw [List.filter_cons_of_neg (by simpa using refused)]
      rw [left] at onward ⊢
      exact onward
    · have wrote : s.take g.index d = s.put g.index d.id d.source := by
        rw [take, if_neg (by simpa using refused)]
      rw [List.filter_cons_of_pos (by simpa using refused), wrote]
      rw [wrote] at onward
      exact (Exchange.run_bind (run_put g d)).trans onward

theorem refusals_eq_map (documents : List Document) :
    s.refusals documents = (documents.filter fun d => s.refused.contains d.id).map refusal := by
  rw [refusals, ← List.filterMap_eq_map, List.filterMap_filter]
  congr 1

theorem countTaken_add_refusals (documents : List Document) :
    s.countTaken documents + (s.refusals documents).length = documents.length := by
  rw [refusals_eq_map, List.length_map, ← List.countP_eq_length_filter, countTaken, Nat.add_comm]
  simpa using (List.length_eq_countP_add_countP (fun d : Document => s.refused.contains d.id)).symm

/-! ## Together -/

/-- What is written through the gateway is read through it: a document comes back as it was written, and is
gone once it is removed, and no other one is touched. Many documents that are loaded at once leave the index
as those would that it does not refuse, written one by one, and each of the others is told of in its turn. -/
theorem stored_and_read (g : Gateway) (s : Server) (d : Document) (id : String) (documents : List Document) :
    Schema.document d.source = .ok d ∧
    (∃ t, (g.put d).run client s = (.ok (), t) ∧
      ∀ id', (g.get id').run client t =
        (if id' = d.id then .ok (some d) else ((g.get id').run client s).1, t)) ∧
    (∃ t, (g.remove id).run client s = (.ok (), t) ∧
      ∀ id', (g.get id').run client t =
        (if id' = id then .ok none else ((g.get id').run client s).1, t)) ∧
    ∃ loaded t, (g.load documents).run client s = (.ok loaded, t) ∧
      ((documents.filter fun d => !s.refused.contains d.id).forM g.put).run client s = (.ok (), t) ∧
      loaded.indexed + loaded.errors.length = documents.length ∧
      loaded.errors = (documents.filter fun d => s.refused.contains d.id).map
        fun d => d.id ++ ": " ++ "failed to parse field" := by
  refine ⟨Schema.document_source d, ⟨_, run_put g d, ?_⟩, ⟨_, run_remove g id, ?_⟩,
    ⟨_, _, run_load g documents, run_forM_put g documents, ?_, refusals_eq_map documents⟩⟩
  · exact Sets.run_get (some d) sets_put
  · exact Sets.run_get none sets_remove
  · show (s.countTaken documents : Int) + (s.refusals documents).length = documents.length
    exact_mod_cast countTaken_add_refusals documents

end Venues.Index.Server
