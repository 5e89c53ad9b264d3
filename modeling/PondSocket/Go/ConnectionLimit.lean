import PondSocket.Go.Store
import PondSocket.Library.Run

namespace PondSocket.Go.ConnectionLimit

open Library List OrderedMap
open Js (UserId)

inductive AddPhase
  | checked
  | counted
  | stored
  | heard
  | failing
  | added
  | refused
deriving DecidableEq

structure AddCall where
  id : UserId
  phase : AddPhase := .checked
  closed : Bool := false

structure Endpoint where
  maxConnections : Nat
  connections : Store Nat := .new
  calls : List AddCall := []

inductive Action
  | hookFails
  | count
  | create
  | onClose
  | sendJSON (sent : Bool)
  | delete
  | closes

inductive Label
  | begin (id : UserId)
  | act (place : Nat) (action : Action)

def AddPhase.registered : AddPhase → Bool
  | .stored | .heard | .added => true
  | _ => false

def AddCall.Shut (call : AddCall) : Prop := call.phase = .refused ∨ call.phase = .failing → call.closed = true

def AddCall.refuse (call : AddCall) : AddCall := { call with phase := .refused, closed := true }

namespace Endpoint

variable (endpoint : Endpoint) (place : Nat) (call : AddCall)

def perform (endpoint : Endpoint) (place : Nat) (call : AddCall) : Action → AddCall × Store Nat
  | .hookFails => (if call.phase = .checked then call.refuse else call, endpoint.connections)
  | .count =>
    if call.phase ≠ .checked then (call, endpoint.connections)
    else if 0 < endpoint.maxConnections ∧ endpoint.maxConnections ≤ endpoint.connections.len then
      (call.refuse, endpoint.connections)
    else ({ call with phase := .counted }, endpoint.connections)
  | .create =>
    if call.phase ≠ .counted then (call, endpoint.connections)
    else
      match endpoint.connections.create call.id place with
      | .error _ => (call.refuse, endpoint.connections)
      | .ok connections => ({ call with phase := .stored }, connections)
  | .onClose =>
    if call.phase ≠ .stored then (call, endpoint.connections)
    -- The handler runs at once where the connection has closed meanwhile.
    else if call.closed then ({ call with phase := .heard }, endpoint.connections.drop call.id)
    else ({ call with phase := .heard }, endpoint.connections)
  | .sendJSON sent =>
    if call.phase ≠ .heard then (call, endpoint.connections)
    else if sent then ({ call with phase := .added }, endpoint.connections)
    else ({ call with phase := .failing, closed := true }, endpoint.connections.drop call.id)
  | .delete =>
    if call.phase ≠ .failing then (call, endpoint.connections)
    else (call.refuse, endpoint.connections.drop call.id)
  | .closes =>
    if call.closed then (call, endpoint.connections)
    else if call.phase = .heard ∨ call.phase = .added then
      ({ call with closed := true }, endpoint.connections.drop call.id)
    else ({ call with closed := true }, endpoint.connections)

def step (endpoint : Endpoint) : Label → Endpoint
  | .begin id => { endpoint with calls := endpoint.calls ++ [{ id }] }
  | .act place action =>
    match endpoint.calls[place]? with
    | none => endpoint
    | some call =>
      { endpoint with
        connections := (endpoint.perform place call action).2
        calls := endpoint.calls.set place (endpoint.perform place call action).1 }

structure Limited : Prop where
  most : endpoint.connections.len ≤ endpoint.maxConnections
  refused : ∀ place call, endpoint.calls[place]? = some call → call.phase = .refused →
    call.closed = true ∧ ∀ id, endpoint.connections.store.get? id ≠ some place

-- What a call stores finds a place that is still free, however many it has counted.
def Fits (endpoint : Endpoint) (label : Label) : Prop :=
  ∀ place call, label = .act place .create → endpoint.calls[place]? = some call → call.phase = .counted →
    endpoint.connections.has call.id = false → endpoint.connections.len < endpoint.maxConnections

structure Inv : Prop where
  most : endpoint.connections.len ≤ endpoint.maxConnections
  keyed : ∀ id place, endpoint.connections.store.get? id = some place →
    ∃ call, endpoint.calls[place]? = some call ∧ call.id = id ∧ call.phase.registered = true
  shut : ∀ call ∈ endpoint.calls, call.Shut

inductive Effect (action : Action) : AddCall × Store Nat → Prop
  | kept (next : AddCall) (id : next.id = call.id)
    (held : call.phase.registered = true → next.phase.registered = true) : Effect action (next, endpoint.connections)
  | dropped (next : AddCall) (id : next.id = call.id) : Effect action (next, endpoint.connections.drop call.id)
  | created (creates : action = .create) (counted : call.phase = .counted)
    (absent : endpoint.connections.has call.id = false) :
    Effect action ({ call with phase := .stored }, ⟨endpoint.connections.store.set call.id place⟩)

theorem perform_effect (action : Action) : endpoint.Effect place call action (endpoint.perform place call action) ∧
    (call.Shut → (endpoint.perform place call action).1.Shut) := by
  have still : endpoint.Effect place call action (call, endpoint.connections) := .kept call rfl id
  have shut : ∀ phase closed, (phase = .refused ∨ phase = .failing → closed = true) →
      ({ call with phase, closed } : AddCall).Shut := fun _ _ closed => closed
  cases action with
  | hookFails =>
    simp only [perform]
    split
    · rename_i checked
      exact ⟨.kept _ rfl (by simp [checked, AddPhase.registered]), fun _ _ => rfl⟩
    · exact ⟨still, id⟩
  | count =>
    simp only [perform]
    split
    · exact ⟨still, id⟩
    rename_i checked
    have checked := not_not.mp checked
    split
    · exact ⟨.kept _ rfl (by simp [checked, AddPhase.registered]), fun _ _ => rfl⟩
    · exact ⟨.kept _ rfl (by simp [checked, AddPhase.registered]), fun _ => shut _ _ (by simp)⟩
  | create =>
    simp only [perform]
    split
    · exact ⟨still, id⟩
    rename_i counted
    have counted := not_not.mp counted
    by_cases present : endpoint.connections.has call.id = true
    · rw [Store.create, if_pos present]
      exact ⟨.kept _ rfl (by simp [counted, AddPhase.registered]), fun _ _ => rfl⟩
    have absent := Bool.eq_false_iff.mpr present
    rw [Store.create_absent _ absent]
    exact ⟨.created rfl counted absent, fun _ => shut _ _ (by simp)⟩
  | onClose =>
    simp only [perform]
    split
    · exact ⟨still, id⟩
    split
    · exact ⟨.dropped _ rfl, fun _ => shut _ _ (by simp)⟩
    · exact ⟨.kept _ rfl fun _ => rfl, fun _ => shut _ _ (by simp)⟩
  | sendJSON =>
    simp only [perform]
    split
    · exact ⟨still, id⟩
    split
    · exact ⟨.kept _ rfl fun _ => rfl, fun _ => shut _ _ (by simp)⟩
    · exact ⟨.dropped _ rfl, fun _ _ => rfl⟩
  | delete =>
    simp only [perform]
    split
    · exact ⟨still, id⟩
    · exact ⟨.dropped _ rfl, fun _ _ => rfl⟩
  | closes =>
    simp only [perform]
    split
    · exact ⟨still, id⟩
    split
    · exact ⟨.dropped _ rfl, fun _ _ => rfl⟩
    · exact ⟨.kept _ rfl id, fun _ _ => rfl⟩

variable {endpoint place call}

theorem drop_len (id : UserId) : (endpoint.connections.drop id).len ≤ endpoint.connections.len := by
  rw [Store.len, Store.drop_store]
  exact length_filter_le _ _

theorem set_len (absent : endpoint.connections.has call.id = false) :
    (⟨endpoint.connections.store.set call.id place⟩ : Store Nat).len = endpoint.connections.len + 1 := by
  have missing : call.id ∉ endpoint.connections.store.entries.map Prod.fst := fun member =>
    Bool.false_ne_true (absent.symm.trans (mem_keys.mp member))
  simp only [Store.len, size, OrderedMap.set]
  rw [put_entry_absent missing, length_append, length_singleton]

theorem limited_of_inv (inv : endpoint.Inv) : endpoint.Limited := by
  refine ⟨inv.most, fun place call there refused => ⟨inv.shut call (mem_of_getElem? there) (.inl refused),
    fun id stored => ?_⟩⟩
  obtain ⟨_, known, _, registered⟩ := inv.keyed id place stored
  rw [Option.some.inj (known.symm.trans there), refused] at registered
  cases registered

theorem act_inv (action : Action) (inv : endpoint.Inv) (there : endpoint.calls[place]? = some call)
    (fits : endpoint.Fits (.act place action)) : (endpoint.step (.act place action)).Inv := by
  obtain ⟨effect, shut⟩ := endpoint.perform_effect place call action
  obtain ⟨inside, _⟩ := List.getElem?_eq_some_iff.mp there
  have shut := shut (inv.shut call (mem_of_getElem? there))
  simp only [step, there]
  generalize endpoint.perform place call action = after at effect shut
  have here : ∀ id, endpoint.connections.store.get? id = some place → call.id = id ∧ call.phase.registered = true := by
    intro id stored
    obtain ⟨other, known, same, registered⟩ := inv.keyed id place stored
    cases known.symm.trans there
    exact ⟨same, registered⟩
  have others : ∀ id other, endpoint.connections.store.get? id = some other → other ≠ place →
      ∃ call, (endpoint.calls.set place after.1)[other]? = some call ∧ call.id = id ∧ call.phase.registered = true := by
    intro id other stored apart
    rw [getElem?_set_ne apart.symm]
    exact inv.keyed id other stored
  have own : (endpoint.calls.set place after.1)[place]? = some after.1 := getElem?_set_self inside
  refine ⟨?_, fun id other stored => ?_, fun other member => ?_⟩
  · cases effect with
    | kept => exact inv.most
    | dropped => exact Nat.le_trans (drop_len call.id) inv.most
    | created creates counted absent =>
      rw [set_len absent]
      exact fits place call (by rw [creates]) there counted absent
  · cases effect with
    | kept next same held =>
      by_cases equal : other = place
      · subst equal
        obtain ⟨named, registered⟩ := here id stored
        exact ⟨next, own, same.trans named, held registered⟩
      · exact others id other stored equal
    | dropped =>
      simp only [Store.drop_store, get_delete] at stored
      split at stored
      · cases stored
      rename_i apart
      refine others id other stored ?_
      rintro rfl
      exact apart (here id stored).1.symm
    | created _ counted =>
      simp only [OrderedMap.get_set] at stored
      split at stored
      · rename_i same
        cases stored
        exact ⟨_, own, same.symm, rfl⟩
      refine others id other stored ?_
      rintro rfl
      have registered := (here id stored).2
      rw [counted] at registered
      cases registered
  · rcases mem_or_eq_of_mem_set member with old | rfl
    · exact inv.shut other old
    · exact shut

theorem step_inv (label : Label) (inv : endpoint.Inv) (fits : endpoint.Fits label) : (endpoint.step label).Inv := by
  cases label with
  | begin =>
    refine ⟨inv.most, fun other place stored => ?_, fun call member => ?_⟩
    · obtain ⟨call, known, same⟩ := inv.keyed other place stored
      obtain ⟨inside, _⟩ := List.getElem?_eq_some_iff.mp known
      exact ⟨call, (getElem?_append_left inside).trans known, same⟩
    rcases mem_append.mp member with old | new
    · exact inv.shut call old
    rw [mem_singleton.mp new]
    intro phase
    simp at phase
  | act place action =>
    cases there : endpoint.calls[place]? with
    | none =>
      simp only [step, there]
      exact inv
    | some => exact act_inv action inv there fits

theorem fits_of_limited (label : Label) (limited : (endpoint.step label).Limited) : endpoint.Fits label := by
  rintro place call rfl there counted absent
  have most := limited.most
  simp only [step, there, perform, counted, Store.create_absent _ absent] at most
  exact (set_len absent).symm.trans_le most

end Endpoint

open Endpoint

end PondSocket.Go.ConnectionLimit
