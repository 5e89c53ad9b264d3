import PondSocket.Js.ChannelRelease
import PondSocket.Library.Run

namespace PondSocket.Js

open Library List

-- What the subscribe client of a RedisDistributedBackend is asked to do for one
-- key; an engine is named by its place among those created for the key.
inductive RedisCommand where
  | subscribe (engine : Nat)
  | unsubscribe
deriving DecidableEq

def Effect.command? (id : Nat) : Effect → Option RedisCommand
  | .subscribeToChannel => some (.subscribe id)
  | .unsubscribeChannel => some .unsubscribe
  | _ => none

-- Everything about one key of one backend. Redis answers the commands of a
-- connection in the order they were sent; resolved are the engines whose
-- subscribe promise has resolved and awaiting those of them that have not gone
-- on from the await yet.
structure SubscriptionKey where
  endpointName : String
  channelName : String
  backend : DistributedBackend
  engines : List ChannelEngine
  commands : List RedisCommand
  listeners : OrderedSet Nat
  resolved : List Nat
  awaiting : List Nat

inductive SubscriptionOp where
  | create (nodeId : NodeId)
  | call (id : Nat) (op : EngineOp)
  | answer (index : Nat)
  | refuse (index : Nat)
  | resume (place : Nat)

-- The two continuations of the subscribe promise are no calls.
def EngineOp.continues : EngineOp → Bool
  | .distributedSubscribed => true
  | .distributedRejected => true
  | _ => false

namespace SubscriptionKey

variable (key : SubscriptionKey)

def new (endpointName channelName : String) (backend : DistributedBackend) : SubscriptionKey :=
  ⟨endpointName, channelName, backend, [], [], .empty, [], []⟩

def create (key : SubscriptionKey) (nodeId : NodeId) : SubscriptionKey :=
  let engine := ChannelEngine.new key.endpointName key.channelName nodeId (some key.backend)
  { key with
    engines := key.engines ++ [engine]
    commands := key.commands ++ engine.effects.filterMap (Effect.command? key.engines.length) }

def perform (key : SubscriptionKey) (now : Nat) (id : Nat) (op : EngineOp) : SubscriptionKey :=
  match key.engines[id]? with
  | none => key
  | some engine =>
    let next := { engine with effects := [] }.act now op
    { key with
      engines := key.engines.set id next
      commands := key.commands ++ next.effects.filterMap (Effect.command? id) }

-- A subscribe that finds the key already listened to may be answered early, but
-- nothing overtakes an unsubscribe.
def answered (key : SubscriptionKey) (index : Nat) : Option RedisCommand :=
  if (key.commands.take index).contains .unsubscribe then none else key.commands[index]?

-- Unsubscribing a key without naming a listener removes all of its listeners.
def answer (key : SubscriptionKey) (index : Nat) : SubscriptionKey :=
  match key.answered index with
  | none => key
  | some (.subscribe id) =>
    { key with
      commands := key.commands.eraseIdx index
      listeners := key.listeners.add id
      resolved := key.resolved ++ [id]
      awaiting := key.awaiting ++ [id] }
  | some .unsubscribe => { key with commands := key.commands.eraseIdx index, listeners := .empty }

def refuse (key : SubscriptionKey) (now : Nat) (index : Nat) : SubscriptionKey :=
  match key.answered index with
  | none => key
  | some (.subscribe id) =>
    { key with commands := key.commands.eraseIdx index }.perform now id .distributedRejected
  | some .unsubscribe => { key with commands := key.commands.eraseIdx index }

def step (key : SubscriptionKey) (label : Nat × SubscriptionOp) : SubscriptionKey :=
  match label.2 with
  | .create nodeId => key.create nodeId
  | .call id op => if op.continues then key else key.perform label.1 id op
  | .answer index => key.answer index
  | .refuse index => key.refuse label.1 index
  | .resume place =>
    match key.awaiting[place]? with
    | none => key
    | some id => { key with awaiting := key.awaiting.eraseIdx place }.perform label.1 id .distributedSubscribed

def openAt (key : SubscriptionKey) (id : Nat) : Prop :=
  ∃ engine, key.engines[id]? = some engine ∧ engine.closed = false

def Listening (key : SubscriptionKey) : Prop :=
  ∀ id, key.openAt id → id ∈ key.resolved → key.listeners.has id = true

-- An unsubscribe is answered only while no open engine listens.
def SparesListeners (key : SubscriptionKey) (label : Nat × SubscriptionOp) : Prop :=
  match label.2 with
  | .answer index => key.answered index = some .unsubscribe → ∀ id, key.openAt id → key.listeners.has id = false
  | _ => True

structure Kept (key : SubscriptionKey) : Prop where
  listening : key.Listening
  subscribed : ∀ id, .subscribe id ∈ key.commands → id < key.engines.length
  created : ∀ id ∈ key.resolved, id < key.engines.length
  resolved : ∀ id, key.listeners.has id = true → id ∈ key.resolved

theorem closed_stays (engine : ChannelEngine) (now : Nat) (op : EngineOp)
    (running : (engine.act now op).closed = false) : engine.closed = false := by
  have after : (engine.tables.step now op).closed = false := by
    rw [← ChannelEngine.tables_act]
    exact running
  by_cases resumed : op = .distributedSubscribed
  · subst resumed
    dsimp only [Tables.step] at after
    split at after
    · exact after
    · exact after
  have gates := Tables.gates_step engine.tables now op resumed
  have closed := congrArg Prod.fst gates
  split at closed
  · change (engine.tables.step now op).closed = true at closed
    rw [after] at closed
    cases closed
  · exact closed.symm.trans after

theorem perform_length (now : Nat) (id : Nat) (op : EngineOp) :
    (key.perform now id op).engines.length = key.engines.length := by
  unfold perform
  split
  · rfl
  · exact length_set

theorem perform_frame (now : Nat) (id : Nat) (op : EngineOp) :
    (key.perform now id op).listeners = key.listeners ∧ (key.perform now id op).resolved = key.resolved := by
  unfold perform
  split <;> exact ⟨rfl, rfl⟩

variable {now id : Nat} {op : EngineOp}

theorem perform_open {other : Nat} (running : (key.perform now id op).openAt other) : key.openAt other := by
  unfold perform at running
  cases found : key.engines[id]? with
  | none => simpa only [found] using running
  | some engine =>
    obtain ⟨next, there, running⟩ := running
    simp only [found] at there
    by_cases same : id = other
    · subst same
      rw [List.getElem?_set_self (List.getElem?_eq_some_iff.mp found).1] at there
      cases there
      exact ⟨engine, found, closed_stays { engine with effects := [] } now op running⟩
    · rw [getElem?_set_ne same] at there
      exact ⟨next, there, running⟩

theorem perform_commands {other : Nat} (sent : .subscribe other ∈ (key.perform now id op).commands) :
    .subscribe other ∈ key.commands ∨ other < key.engines.length := by
  unfold perform at sent
  cases found : key.engines[id]? with
  | none =>
    simp only [found] at sent
    exact .inl sent
  | some =>
    simp only [found] at sent
    rcases mem_append.mp sent with old | fresh
    · exact .inl old
    obtain ⟨effect, _, asked⟩ := mem_filterMap.mp fresh
    have mine : id = other := by
      cases effect <;> simp [Effect.command?] at asked
      exact asked
    exact .inr (mine ▸ (List.getElem?_eq_some_iff.mp found).1)

theorem kept_perform (kept : key.Kept) : (key.perform now id op).Kept := by
  obtain ⟨listeners, resolved⟩ := perform_frame key now id op
  have length := perform_length key now id op
  refine ⟨fun other running done => ?_, fun other sent => ?_, fun other done => ?_, fun other listens => ?_⟩
  · rw [resolved] at done
    rw [listeners]
    exact kept.listening other (perform_open key running) done
  · rw [length]
    exact (perform_commands key sent).elim (kept.subscribed other) (fun bound => bound)
  · rw [resolved] at done
    rw [length]
    exact kept.created other done
  · rw [listeners] at listens
    rw [resolved]
    exact kept.resolved other listens

variable {key}

theorem kept_create (kept : key.Kept) {nodeId : NodeId} : (key.create nodeId).Kept := by
  have length : (key.create nodeId).engines.length = key.engines.length + 1 := by simp [create]
  refine ⟨fun id running done => ?_, fun id sent => ?_, fun id done => ?_, kept.resolved⟩
  · obtain ⟨engine, there, open_⟩ := running
    dsimp only [create] at there
    rw [getElem?_append_left (kept.created id done)] at there
    exact kept.listening id ⟨engine, there, open_⟩ done
  · rcases mem_append.mp sent with old | fresh
    · have bound := kept.subscribed id old
      omega
    · have mine : id = key.engines.length := by simpa [ChannelEngine.new, Effect.command?] using fresh
      omega
  · have bound := kept.created id done
    omega

theorem kept_erase (kept : key.Kept) (index : Nat) :
    ({ key with commands := key.commands.eraseIdx index } : SubscriptionKey).Kept :=
  ⟨kept.listening, fun id sent => kept.subscribed id (mem_of_mem_eraseIdx sent), kept.created, kept.resolved⟩

theorem answered_mem {index : Nat} {command : RedisCommand}
    (found : key.answered index = some command) : command ∈ key.commands := by
  unfold answered at found
  split at found
  · cases found
  · exact mem_of_getElem? found

theorem kept_answer (kept : key.Kept) {index : Nat} (spared : key.SparesListeners (now, .answer index)) :
    (key.answer index).Kept := by
  have erased := kept_erase kept index
  unfold answer
  cases found : key.answered index with
  | none => exact kept
  | some command =>
    cases command with
    | subscribe id =>
      refine ⟨fun other running done => ?_, erased.subscribed, fun other done => ?_, fun other listens => ?_⟩
      · refine OrderedMap.has_set.mpr ?_
        rcases mem_append.mp done with before | just
        · exact .inr (kept.listening other running before)
        · exact .inl (mem_singleton.mp just)
      · rcases mem_append.mp done with before | just
        · exact kept.created other before
        · rw [mem_singleton.mp just]
          exact kept.subscribed id (answered_mem found)
      · rcases OrderedMap.has_set.mp listens with same | before
        · exact mem_append_right _ (mem_singleton.mpr same)
        · exact mem_append_left _ (kept.resolved other before)
    | unsubscribe =>
      refine ⟨fun other running done => ?_, erased.subscribed, erased.created, fun other listens => ?_⟩
      · have gone := spared found other running
        rw [kept.listening other running done] at gone
        cases gone
      · cases listens

variable {label : Nat × SubscriptionOp}

theorem kept_step (kept : key.Kept) (spared : key.SparesListeners label) : (key.step label).Kept := by
  obtain ⟨_, op⟩ := label
  cases op with
  | create => exact kept_create kept
  | call =>
    dsimp only [step]
    split
    · exact kept
    · exact kept_perform key kept
  | answer => exact kept_answer kept spared
  | refuse index =>
    have erased := kept_erase kept index
    dsimp only [step, refuse]
    cases key.answered index with
    | none => exact kept
    | some command =>
      cases command with
      | subscribe => exact kept_perform _ erased
      | unsubscribe => exact erased
  | resume place =>
    dsimp only [step]
    split
    · exact kept
    · exact kept_perform { key with awaiting := key.awaiting.eraseIdx place }
        ⟨kept.listening, kept.subscribed, kept.created, kept.resolved⟩

theorem spared_of_listening (kept : key.Kept) (after : (key.step label).Listening) : key.SparesListeners label := by
  obtain ⟨_, op⟩ := label
  cases op with
  | answer =>
    intro found id running
    cases listens : key.listeners.has id with
    | false => rfl
    | true =>
      dsimp only [step, answer] at after
      simp only [found] at after
      have still := after id running (kept.resolved id listens)
      cases still
  | create | call | refuse | resume => trivial

theorem open_listens_iff (endpointName channelName : String) (backend : DistributedBackend)
    (labels : List (Nat × SubscriptionOp)) :
    Always step Listening (new endpointName channelName backend) labels ↔
      Follows step SparesListeners (new endpointName channelName backend) labels := by
  apply always_iff_follows step (fun _ _ => True) SparesListeners Listening Kept
  · exact fun _ kept => kept.listening
  · exact fun key label kept _ spared => kept_step kept spared
  · exact fun key label kept _ after => spared_of_listening kept after
  · constructor
    · intro id _ done
      cases done
    · intro id sent
      cases sent
    · intro id done
      cases done
    · intro id listens
      cases listens
  · exact follows_all step _ _ labels fun _ _ => trivial

def lateUnsubscribe : List (Nat × SubscriptionOp) :=
  [(0, .create "n0"), (0, .call 0 .close), (0, .create "n1"), (0, .answer 0), (0, .answer 0), (0, .resume 0),
   (0, .resume 0), (0, .answer 0)]

theorem successor_loses_listener :
    ¬ Listening (run step (new "/ws" "room" ⟨"n", 90000⟩) lateUnsubscribe) := by
  intro listening
  have lost := listening 1 ⟨_, rfl, rfl⟩ (by decide)
  revert lost
  decide

end SubscriptionKey

end PondSocket.Js
