import PondSocket.Go.Store

namespace PondSocket.Go.CloseConnection

open Library List OrderedMap
open Js (UserId)

structure Conn where
  id : UserId
  serial : Nat
deriving DecidableEq

structure Endpoint where
  running : Bool
  connections : Store Conn
  closed : List Conn

namespace Endpoint

structure Registered (endpoint : Endpoint) : Prop where
  keyed : ∀ id conn, endpoint.connections.store.get? id = some conn → conn.id = id
  live : ∀ id conn, endpoint.connections.store.get? id = some conn → conn ∉ endpoint.closed

def close (endpoint : Endpoint) (conn : Conn) : Endpoint :=
  if conn ∈ endpoint.closed then endpoint
  else { endpoint with connections := endpoint.connections.drop conn.id, closed := conn :: endpoint.closed }

def closeAll (endpoint : Endpoint) : List Conn → Endpoint × List Failure
  | [] => (endpoint, [])
  | conn :: rest =>
    match (endpoint.close conn).connections.delete conn.id with
    | .ok connections => closeAll { endpoint.close conn with connections } rest
    | .error failure => (((endpoint.close conn).closeAll rest).1, failure :: ((endpoint.close conn).closeAll rest).2)

def closeConnection (endpoint : Endpoint) (ids : List UserId) : Endpoint × List Failure :=
  if endpoint.running = false then (endpoint, [.shuttingDown])
  else if ids = [] then (endpoint, [])
  else
    let errs := ids.filterMap fun id =>
      match endpoint.connections.read id with
      | .ok _ => none
      | .error failure => some failure
    let closed := endpoint.closeAll (endpoint.connections.getByKeys ids)
    (closed.1, errs ++ closed.2)

def handleSSEDisconnect (endpoint : Endpoint) (connID : UserId) : Endpoint × Nat :=
  if connID = "" then (endpoint, 400)
  else ((endpoint.closeConnection [connID]).1, if (endpoint.closeConnection [connID]).2 = [] then 204 else 404)

structure Closes (endpoint : Endpoint) (ids : List UserId) : Prop where
  gone : ∀ id ∈ ids, (endpoint.closeConnection ids).1.connections.has id = false
  closed : ∀ id ∈ ids, ∀ conn, endpoint.connections.store.get? id = some conn →
    conn ∈ (endpoint.closeConnection ids).1.closed
  others : ∀ id, id ∉ ids →
    (endpoint.closeConnection ids).1.connections.store.get? id = endpoint.connections.store.get? id
  answer : (endpoint.closeConnection ids).2 = [] ↔ ∀ id ∈ ids, endpoint.connections.has id = true

theorem close_spec (endpoint : Endpoint) (conn : Conn)
    (gone : conn ∈ endpoint.closed → endpoint.connections.has conn.id = false) :
    (endpoint.close conn).connections.store = endpoint.connections.store.delete conn.id ∧
      conn ∈ (endpoint.close conn).closed ∧ ∀ other ∈ (endpoint.close conn).closed, other = conn ∨ other ∈ endpoint.closed := by
  unfold close
  split
  · rename_i already
    exact ⟨(delete_absent (gone already)).symm, already, fun _ member => .inr member⟩
  · exact ⟨Store.drop_store _, mem_cons_self, fun _ member => mem_cons.mp member⟩

-- The connections leave the store as they are closed, so that deleting them finds none.
theorem close_all_spec (conns : List Conn) (endpoint : Endpoint)
    (gone : ∀ conn ∈ conns, conn ∈ endpoint.closed → endpoint.connections.has conn.id = false) :
    (∀ id, (endpoint.closeAll conns).1.connections.store.get? id =
        if id ∈ conns.map Conn.id then none else endpoint.connections.store.get? id) ∧
      (∀ conn, conn ∈ endpoint.closed ∨ conn ∈ conns → conn ∈ (endpoint.closeAll conns).1.closed) ∧
        (endpoint.closeAll conns).2.length = conns.length := by
  induction conns generalizing endpoint with
  | nil => simp [closeAll]
  | cons conn rest ih =>
    obtain ⟨store, here, only⟩ := close_spec endpoint conn (gone conn mem_cons_self)
    have absent : (endpoint.close conn).connections.has conn.id = false := by
      rw [Store.has, store, has_false_iff, get_delete_same]
    have refused : (endpoint.close conn).connections.delete conn.id = .error .notFound := by
      rw [Store.delete, if_neg (by simp [absent])]
    have before : ∀ other ∈ endpoint.closed, other ∈ (endpoint.close conn).closed := by
      intro other member
      unfold close
      split
      · exact member
      · exact mem_cons_of_mem _ member
    obtain ⟨stores, closes, counts⟩ := ih (endpoint.close conn) fun other later member => by
      rcases only other member with rfl | old
      · exact absent
      have missing := gone other (mem_cons_of_mem _ later) old
      rw [Store.has, has_false_iff] at missing ⊢
      rw [store, get_delete, missing]
      split <;> rfl
    simp only [closeAll, refused]
    refine ⟨fun id => ?_, fun other member => ?_, by simp [counts]⟩
    · rw [stores, store, get_delete]
      by_cases later : id ∈ rest.map Conn.id
      · simp [later]
      · simp [later]
    rcases member with old | listed
    · exact closes other (.inl (before other old))
    rcases mem_cons.mp listed with rfl | later
    · exact closes other (.inl here)
    · exact closes other (.inr later)

variable {endpoint : Endpoint} (registered : endpoint.Registered)
include registered

theorem close_running (running : endpoint.running = true) (ids : List UserId) (some : ids ≠ []) :
    (∀ id, (endpoint.closeConnection ids).1.connections.store.get? id =
        if id ∈ ids then none else endpoint.connections.store.get? id) ∧
      (∀ id ∈ ids, ∀ conn, endpoint.connections.store.get? id = .some conn →
        conn ∈ (endpoint.closeConnection ids).1.closed) ∧ (endpoint.closeConnection ids).2 ≠ [] := by
  have found : ∀ conn, conn ∈ endpoint.connections.getByKeys ids ↔
      ∃ id ∈ ids, endpoint.connections.store.get? id = .some conn := fun conn => mem_filterMap
  obtain ⟨stores, closes, counts⟩ := close_all_spec (endpoint.connections.getByKeys ids) endpoint fun conn member old => by
    obtain ⟨id, _, there⟩ := (found conn).mp member
    exact absurd old (registered.live id conn there)
  simp only [closeConnection, running, some, if_false, Bool.true_eq_false]
  refine ⟨fun id => ?_, fun id listed conn there => ?_, fun none => ?_⟩
  · rw [stores]
    by_cases listed : id ∈ ids
    · rw [if_pos listed]
      cases there : endpoint.connections.store.get? id with
      | none => exact ite_self _
      | some conn =>
        refine if_pos (mem_map.mpr ⟨conn, (found conn).mpr ⟨id, listed, there⟩, registered.keyed id conn there⟩)
    rw [if_neg listed, if_neg]
    intro member
    obtain ⟨conn, known, same⟩ := mem_map.mp member
    obtain ⟨other, inside, there⟩ := (found conn).mp known
    exact listed (same.symm.trans (registered.keyed other conn there) ▸ inside)
  · exact closes conn (.inr ((found conn).mpr ⟨id, listed, there⟩))
  -- An id that is registered brings an error of the second Delete, any other one an error of Read.
  · obtain ⟨errs, later⟩ := append_eq_nil_iff.mp none
    obtain ⟨id, listed⟩ := exists_mem_of_ne_nil ids some
    cases there : endpoint.connections.store.get? id with
    | none =>
      have failed := filterMap_eq_nil_iff.mp errs id listed
      simp [Store.read, there] at failed
    | some conn =>
      rw [later, length_nil] at counts
      exact not_mem_nil (eq_nil_of_length_eq_zero counts.symm ▸ (found conn).mpr ⟨id, listed, there⟩)

end Endpoint

open Endpoint

end PondSocket.Go.CloseConnection
