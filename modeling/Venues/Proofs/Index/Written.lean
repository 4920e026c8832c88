import Venues.Index.Gateway
import Venues.Proofs.Geo
import Venues.Proofs.Index.Document
import Venues.Proofs.Index.Server

/-! # Indexes that are written through the gateway

Whatever is done to an index through the gateway, the index holds documents, each under its identity and
one to an identity. What is searched for is found in such an index.
-/

namespace Venues.Index

variable {g : Gateway} {s : Server} {d : Document} {documents : List Document} {name : String}

/-- Whether an index holds some documents, with places on the globe; an index that is not there holds none. -/
structure Server.Holds (s : Server) (name : String) (documents : List Document) : Prop where
  held : (s.index? name).getD [] = documents.map entry
  distinct : (documents.map Document.id).Nodup
  placed : ∀ d ∈ documents, d.location.IsOnGlobe

/-! ## Writing and removing -/

/-- Some documents after one was written: it takes the place of the one with its identity, or goes last. -/
def withDocument (d : Document) : List Document → List Document
  | [] => [d]
  | e :: documents => if e.id = d.id then d :: documents else e :: withDocument d documents

theorem put_map_entry : Fields.put (documents.map entry) d.id d.source = (withDocument d documents).map entry := by
  induction documents with
  | nil => rfl
  | cons e documents ih =>
    show (if e.id = d.id then _ else _) = _
    rw [withDocument]
    by_cases same : e.id = d.id
    · rw [if_pos same, if_pos same, same]
      rfl
    · rw [if_neg same, if_neg same, ih]
      rfl

theorem mem_withDocument {e : Document} (member : e ∈ withDocument d documents) : e = d ∨ e ∈ documents := by
  induction documents with
  | nil => exact .inl (List.mem_singleton.mp member)
  | cons f documents ih =>
    unfold withDocument at member
    split at member
    · exact (List.mem_cons.mp member).imp_right (List.mem_cons_of_mem _)
    · rcases List.mem_cons.mp member with rfl | member
      · exact .inr List.mem_cons_self
      · exact (ih member).imp_right (List.mem_cons_of_mem _)

theorem nodup_withDocument (distinct : (documents.map Document.id).Nodup) :
    ((withDocument d documents).map Document.id).Nodup := by
  induction documents with
  | nil => simp [withDocument]
  | cons e documents ih =>
    rw [List.map_cons, List.nodup_cons] at distinct
    unfold withDocument
    by_cases same : e.id = d.id
    · rw [if_pos same, List.map_cons, ← same]
      exact List.nodup_cons.mpr distinct
    · rw [if_neg same, List.map_cons]
      refine List.nodup_cons.mpr ⟨fun there => ?_, ih distinct.2⟩
      obtain ⟨f, member, id⟩ := List.mem_map.mp there
      rcases mem_withDocument member with rfl | member
      · exact same id.symm
      · exact distinct.1 (List.mem_map.mpr ⟨f, member, id⟩)

namespace Server

theorem Holds.put (holds : s.Holds name documents) (placed : d.location.IsOnGlobe) :
    (s.put name d.id d.source).Holds name (withDocument d documents) where
  held := by
    rw [Server.put, index?_setIndex, holds.held]
    exact put_map_entry
  distinct := nodup_withDocument holds.distinct
  placed := fun e member => by
    rcases mem_withDocument member with rfl | member
    · exact placed
    · exact holds.placed e member

/-- Documents are written one after the other, and those that are refused are left out. -/
theorem Holds.foldl_take {ds : List Document} (holds : s.Holds name documents)
    (placed : ∀ d ∈ ds, d.location.IsOnGlobe) : ∃ documents', (ds.foldl (take name) s).Holds name documents' := by
  induction ds generalizing s documents with
  | nil => exact ⟨documents, holds⟩
  | cons d ds ih =>
    obtain ⟨first, others⟩ := List.forall_mem_cons.mp placed
    rw [List.foldl_cons, take]
    split
    · exact ih holds others
    · exact ih (holds.put first) others

theorem Holds.remove (holds : s.Holds name documents) (id : String) :
    ∃ documents', (s.remove name id).2.Holds name documents' := by
  unfold Server.remove
  cases there : s.index? name with
  | none => exact ⟨documents, holds⟩
  | some held =>
    dsimp only
    split
    · exact ⟨documents, holds⟩
    · have same : held = documents.map entry := by
        rw [← holds.held, there]
        rfl
      refine ⟨documents.filter fun d => d.id != id, ?_, ?_, fun d member => holds.placed d (List.mem_of_mem_filter member)⟩
      · rw [index?_setIndex, same]
        exact List.filter_map
      · exact holds.distinct.sublist (List.filter_sublist.map _)

/-- A document is removed, or it was not there. -/
theorem reply_remove {id : String} :
    (∃ reply, (s.remove name id).1 = .ok reply) ∨ (s.remove name id).1 = .error (.client noDocument) := by
  unfold Server.remove
  split
  · exact .inr rfl
  · split
    · exact .inr rfl
    · exact .inl ⟨_, rfl⟩

/-- Removing succeeds, whether the document is there or not. -/
theorem run_remove (g : Gateway) (id : String) :
    (g.remove id).run client s = (.ok (), (s.remove g.index id).2) := by
  refine run_explained ?_ "delete"
  have called : (Exchange.call (.remove g.index id)).run client s = s.remove g.index id := rfl
  rcases reply_remove with ⟨reply, done⟩ | absent
  · have ran : (Exchange.call (.remove g.index id)).run client s = (.ok reply, (s.remove g.index id).2) := by
      rw [called, ← done]
    exact Exchange.run_handle (Exchange.run_bind ran)
  · have ran : (Exchange.call (.remove g.index id)).run client s =
        (.error (.client noDocument), (s.remove g.index id).2) := by
      rw [called, ← absent]
    exact Exchange.run_handle_error (Exchange.run_bind_error ran)

end Server

/-! ## Through the gateway -/

/-- The servers whose index is written through a gateway, by documents with places on the globe. -/
inductive Gateway.Written (g : Gateway) : Server → Prop
  | absent {s : Server} : s.index? g.index = none → Written g s
  | ensured {s : Server} : Written g s → Written g (g.ensureIndex.run Server.client s).2
  | recreated {s : Server} : Written g s → Written g (g.recreateIndex.run Server.client s).2
  | put {s : Server} {d : Document} : Written g s → d.location.IsOnGlobe →
      Written g ((g.put d).run Server.client s).2
  | loaded {s : Server} {ds : List Document} : Written g s → (∀ d ∈ ds, d.location.IsOnGlobe) →
      Written g ((g.load ds).run Server.client s).2
  | removed {s : Server} {id : String} : Written g s → Written g ((g.remove id).run Server.client s).2

/-- An index that is written through a gateway holds documents. -/
theorem Gateway.Written.exists_holds (written : g.Written s) : ∃ documents, s.Holds g.index documents := by
  -- by induction on what was written: each call keeps that identities are distinct and places on the globe
  induction written with
  | absent absent => exact ⟨[], by rw [absent]; rfl, List.nodup_nil, by simp⟩
  | @ensured s _ ih =>
    obtain ⟨documents, holds⟩ := ih
    obtain ⟨created, t, runs, _, index⟩ := @Server.run_ensure s g.index g.settings
    have ran : g.ensureIndex.run Server.client s = (.ok created, t) := Server.run_explained runs _
    rw [ran]
    exact ⟨documents, by rw [index]; exact holds.held, holds.distinct, holds.placed⟩
  | @recreated s _ _ =>
    obtain ⟨dropped, t, runs, _, index⟩ := @Server.run_recreate s g.index g.settings
    have ran : g.recreateIndex.run Server.client s = (.ok dropped, t) := Server.run_explained runs _
    rw [ran]
    exact ⟨[], by rw [index]; rfl, List.nodup_nil, by simp⟩
  | put _ placed ih =>
    obtain ⟨documents, holds⟩ := ih
    exact ⟨_, holds.put placed⟩
  | loaded _ placed ih =>
    obtain ⟨documents, holds⟩ := ih
    rw [Server.run_load]
    exact holds.foldl_take placed
  | @removed s id _ ih =>
    obtain ⟨documents, holds⟩ := ih
    obtain ⟨documents', removed⟩ := holds.remove id
    exact ⟨documents', by rw [Server.run_remove]; exact removed⟩

end Venues.Index
