import PondSocket.Go.Protocol

namespace PondSocket.Go

open Library List OrderedMap
open Js (Json UserId NodeId)

inductive Failure where
  | shuttingDown
  | badRequest
  | conflict
  | notFound
deriving DecidableEq

structure Store (T : Type) where
  store : OrderedMap UserId T

namespace Store

variable {T : Type}

variable (store : Store T) (key : UserId)

def new : Store T := ⟨.empty⟩

def has (store : Store T) (key : UserId) : Bool := store.store.has key

def keys (store : Store T) : List UserId := store.store.keys

def len (store : Store T) : Nat := store.store.size

def create (store : Store T) (key : UserId) (value : T) : Except Failure (Store T) :=
  if store.has key then .error .conflict else .ok ⟨store.store.set key value⟩

def read (store : Store T) (key : UserId) : Except Failure T :=
  match store.store.get? key with
  | none => .error .notFound
  | some value => .ok value

def update (store : Store T) (key : UserId) (value : T) : Except Failure (Store T) :=
  if store.has key then .ok ⟨store.store.set key value⟩ else .error .notFound

def delete (store : Store T) (key : UserId) : Except Failure (Store T) :=
  if store.has key then .ok ⟨store.store.delete key⟩ else .error .notFound

def getByKeys (store : Store T) (keys : List UserId) : List T := keys.filterMap store.store.get?

def after (store : Store T) (result : Except Failure (Store T)) : Store T :=
  match result with
  | .ok next => next
  | .error _ => store

def drop (store : Store T) (key : UserId) : Store T := store.after (store.delete key)

def upsert (store : Store T) (key : UserId) (value : T) : Store T :=
  match store.read key with
  | .ok _ => store.after (store.update key value)
  | .error _ => store.after (store.create key value)

variable {key}

variable {value : T}

theorem create_absent (absent : store.has key = false) : store.create key value = .ok ⟨store.store.set key value⟩ := by
  rw [create, if_neg (by simp [absent])]

theorem drop_store : (store.drop key).store = store.store.delete key := by
  unfold drop delete
  by_cases present : store.has key = true
  · rw [if_pos present]
    rfl
  · rw [if_neg present]
    exact (delete_absent (Bool.eq_false_iff.mpr present)).symm

theorem drop_absent (absent : store.has key = false) : store.drop key = store := by
  simp [drop, delete, absent, after]

variable {query : UserId}

theorem has_drop {key : UserId} : (store.drop key).has query = true ↔ query ≠ key ∧ store.has query = true := by
  rw [has, drop_store]
  exact has_delete

theorem has_drop_all {keys : List UserId} (store : Store T) :
    (keys.foldl drop store).has query = true ↔ query ∉ keys ∧ store.has query = true := by
  induction keys generalizing store with
  | nil => simp
  | cons _ _ ih =>
    rw [foldl_cons, ih, has_drop, mem_cons, not_or]
    tauto

theorem get_drop_all {keys : List UserId} (store : Store T) (absent : query ∉ keys) :
    (keys.foldl drop store).store.get? query = store.store.get? query := by
  induction keys generalizing store with
  | nil => rfl
  | cons _ _ ih =>
    obtain ⟨different, later⟩ := not_or.mp (mem_cons.not.mp absent)
    rw [foldl_cons, ih _ later, drop_store, get_delete_other different]

theorem upsert_store (value : T) :
    (store.upsert key value).store = store.store.set key value := by
  unfold upsert read
  cases found : store.store.get? key with
  | none =>
    have absent : store.has key = false := has_false_iff.mpr found
    rw [create_absent store absent]
    rfl
  | some old =>
    have present : store.has key = true := has_iff.mpr ⟨old, found⟩
    rw [update, if_pos present]
    rfl

theorem has_upsert {key : UserId} :
    (store.upsert key value).has query = true ↔ query = key ∨ store.has query = true := by
  rw [has, upsert_store]
  exact has_set

theorem has_update (key query : UserId) (value : T) :
    (store.after (store.update key value)).has query = store.has query := by
  unfold update
  by_cases present : store.has key = true
  · rw [if_pos present]
    by_cases same : query = key
    · rw [same, present]
      exact has_set.mpr (.inl rfl)
    change (store.store.set key value).has query = store.store.has query
    rw [OrderedMap.has, OrderedMap.get_set_other same]
    rfl
  · rw [if_neg present]
    rfl

theorem read_ok : store.read key = .ok value ↔ store.store.get? key = some value := by
  unfold read
  cases store.store.get? key <;> simp

theorem read_error {failure : Failure} (missing : store.read key = .error failure) :
    store.has key = false := by
  unfold read at missing
  cases found : store.store.get? key with
  | none => exact has_false_iff.mpr found
  | some => simp [found] at missing

theorem read_has (found : store.read key = .ok value) : store.has key = true :=
  has_iff.mpr ⟨value, (read_ok store).mp found⟩

end Store

end PondSocket.Go
