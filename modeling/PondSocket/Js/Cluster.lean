import PondSocket.Js.ChannelRelease
import PondSocket.Library.Run
import Mathlib.Logic.Function.Basic

namespace PondSocket.Js

open Library List

-- The nodes of one channel. A link holds what one node has published for another
-- and the other has not handled yet; joins records every accepted addUser.
structure Cluster where
  endpointId : String
  name : String
  heartbeatTimeoutMs : Nat
  engine : NodeId → Option ChannelEngine
  link : NodeId → NodeId → List DistributedMessage
  joins : List (NodeId × UserId)

inductive ClusterOp where
  | create (node : NodeId)
  | call (node : NodeId) (op : EngineOp)
  | deliver (source target : NodeId) (index : Nat)

def ChannelEngine.admits (engine : ChannelEngine) (op : EngineOp) : Option UserId :=
  match op with
  | .addUser userId _ _ _ =>
    if engine.assignsCache.has userId || engine.publisher.isClosed then none else some userId
  | _ => none

namespace Cluster

variable (cluster : Cluster) (now : Nat)

def new (endpointId name : String) (heartbeatTimeoutMs : Nat) : Cluster :=
  ⟨endpointId, name, heartbeatTimeoutMs, fun _ => none, fun _ _ => [], []⟩

def subscribed (cluster : Cluster) (node : NodeId) : Bool :=
  match cluster.engine node with
  | none => false
  | some engine => engine.distributedSubscription

-- What an engine publishes in one step, with the node id its backend adds.
def published (node : NodeId) (next : ChannelEngine) : List DistributedMessage :=
  next.voice.said.map fun message => { message with sourceNodeId := some node }

def perform (cluster : Cluster) (now : Nat) (node : NodeId) (engine : ChannelEngine) (op : EngineOp) : Cluster :=
  let next := { engine with effects := [] }.act now op
  { cluster with
    engine := Function.update cluster.engine node (some next)
    link := fun source target =>
      if source = node ∧ target ≠ node ∧ cluster.subscribed target = true then
        cluster.link source target ++ published node next
      else cluster.link source target
    joins := cluster.joins ++ (engine.admits op).toList.map fun userId => (node, userId) }

def dequeue (cluster : Cluster) (source target : NodeId) (index : Nat) : Cluster :=
  { cluster with
    link := fun origin goal =>
      if origin = source ∧ goal = target then (cluster.link origin goal).eraseIdx index else cluster.link origin goal }

def launch (cluster : Cluster) (node : NodeId) : Cluster :=
  { cluster with
    engine := Function.update cluster.engine node
      (some (.new cluster.endpointId cluster.name node (some ⟨node, cluster.heartbeatTimeoutMs⟩))) }

-- A node creates an engine when it has none or has closed the last one; a message
-- that reaches a node without a subscribed engine is lost.
def step (cluster : Cluster) (label : Nat × ClusterOp) : Cluster :=
  match label.2 with
  | .create node =>
    match cluster.engine node with
    | none => cluster.launch node
    | some engine => if engine.closed then cluster.launch node else cluster
  | .call node op =>
    match cluster.engine node with
    | none => cluster
    | some engine => if op.arrives then cluster else cluster.perform label.1 node engine op
  | .deliver source target index =>
    match (cluster.link source target)[index]? with
    | none => cluster
    | some message =>
      match cluster.engine target with
      | none => cluster.dequeue source target index
      | some engine =>
        if engine.distributedSubscription then
          (cluster.dequeue source target index).perform label.1 target engine (.receive message)
        else cluster.dequeue source target index

theorem published_perform (node : NodeId) (engine : ChannelEngine) (op : EngineOp) :
    published node ({ engine with effects := [] }.act now op) =
      (if engine.online then engine.tells op else []).map
        fun body => ⟨engine.endpointId, engine.name, some node, body⟩ := by
  have same : ({ engine with effects := [] } : ChannelEngine).tells op = engine.tells op := by
    cases op <;> rfl
  have quiet : ({ engine with effects := [] } : ChannelEngine).voice.said = [] := rfl
  unfold published
  rw [ChannelEngine.voice_act, same, Voice.say, quiet, nil_append, map_map]
  rfl

variable {engine : ChannelEngine} {node : NodeId} {op : EngineOp}

theorem perform_engine_same :
    (cluster.perform now node engine op).engine node = some ({ engine with effects := [] }.act now op) :=
  Function.update_self node _ _

theorem perform_engine_other {other : NodeId} (different : other ≠ node) :
    (cluster.perform now node engine op).engine other = cluster.engine other :=
  Function.update_of_ne different _ _

theorem launch_engine_same (node : NodeId) :
    (cluster.launch node).engine node =
      some (.new cluster.endpointId cluster.name node (some ⟨node, cluster.heartbeatTimeoutMs⟩)) :=
  Function.update_self node _ _

theorem launch_engine_other {other : NodeId} (different : other ≠ node) :
    (cluster.launch node).engine other = cluster.engine other :=
  Function.update_of_ne different _ _

theorem perform_tables (engine : ChannelEngine) (op : EngineOp) :
    (({ engine with effects := [] } : ChannelEngine).act now op).tables = engine.tables.step now op :=
  ChannelEngine.tables_act now

variable {message : DistributedMessage} {target source : NodeId}

theorem perform_link_mem (member : message ∈ (cluster.perform now node engine op).link source target) :
    message ∈ cluster.link source target ∨
      (source = node ∧ message.sourceNodeId = some node ∧ engine.online = true ∧ message.body ∈ engine.tells op) := by
  unfold perform at member
  dsimp only at member
  split at member
  · rename_i routed
    rcases mem_append.mp member with old | fresh
    · exact .inl old
    rw [published_perform] at fresh
    cases running : engine.online with
    | false => simp [running] at fresh
    | true =>
      rw [running, if_pos rfl] at fresh
      obtain ⟨_, told, rfl⟩ := mem_map.mp fresh
      exact .inr ⟨routed.1, rfl, rfl, told⟩
  · exact .inl member

theorem perform_link_old (member : message ∈ cluster.link source target) :
    message ∈ (cluster.perform now node engine op).link source target := by
  unfold perform
  dsimp only
  split
  · exact mem_append_left _ member
  · exact member

theorem perform_link_fresh {body : MessageBody} (different : target ≠ node)
    (listening : cluster.subscribed target = true) (running : engine.online = true) (told : body ∈ engine.tells op) :
    ∃ message ∈ (cluster.perform now node engine op).link node target, message.body = body := by
  unfold perform
  dsimp only
  rw [if_pos ⟨rfl, different, listening⟩, published_perform, running, if_pos rfl]
  exact ⟨_, mem_append_right _ (mem_map_of_mem told), rfl⟩

variable {index : Nat}

variable {origin : NodeId}

theorem dequeue_link_mem {goal : NodeId} (member : message ∈ (cluster.dequeue source target index).link origin goal) :
    message ∈ cluster.link origin goal := by
  unfold dequeue at member
  dsimp only at member
  split at member
  · exact mem_of_mem_eraseIdx member
  · exact member

theorem dequeue_link_kept {goal : NodeId} {taken : DistributedMessage}
    (found : (cluster.link source target)[index]? = some taken) (member : message ∈ cluster.link origin goal)
    (spared : ¬ (origin = source ∧ goal = target ∧ message = taken)) :
    message ∈ (cluster.dequeue source target index).link origin goal := by
  unfold dequeue
  dsimp only
  split
  · rename_i there
    obtain ⟨rfl, rfl⟩ := there
    have other : message ≠ taken := fun same => spared ⟨rfl, rfl, same⟩
    obtain ⟨_, rfl⟩ := List.getElem?_eq_some_iff.mp found
    obtain ⟨place, within, rfl⟩ := getElem_of_mem member
    refine mem_eraseIdx_iff_getElem.mpr ⟨place, within, fun same => other ?_, rfl⟩
    subst same
    rfl
  · exact member

structure Within (nodes : List NodeId) (cluster : Cluster) : Prop where
  engines : ∀ node, node ∉ nodes → cluster.engine node = none
  links : ∀ source target, ¬ (source ∈ nodes ∧ target ∈ nodes) → cluster.link source target = []

def CreatesWithin (nodes : List NodeId) (_ : Cluster) (label : Nat × ClusterOp) : Prop :=
  match label.2 with
  | .create node => node ∈ nodes
  | _ => True

variable {nodes : List NodeId}

theorem within_dequeue {cluster : Cluster} (inv : cluster.Within nodes) :
    (cluster.dequeue source target index).Within nodes := by
  refine ⟨inv.engines, fun origin goal outside => ?_⟩
  have none := inv.links origin goal outside
  unfold dequeue
  dsimp only
  split
  · rw [none]
    rfl
  · exact none

theorem within_perform {cluster : Cluster} (inv : cluster.Within nodes) {now : Nat}
    (present : cluster.engine node = some engine) : (cluster.perform now node engine op).Within nodes := by
  have inside : ∀ other, (cluster.engine other).isSome = true → other ∈ nodes := by
    intro other running
    by_contra outside
    rw [inv.engines other outside] at running
    cases running
  have member : node ∈ nodes := inside node (by rw [present]; rfl)
  refine ⟨fun other outside => ?_, fun source target outside => ?_⟩
  · have different : other ≠ node := fun same => outside (same ▸ member)
    rw [perform_engine_other _ _ different]
    exact inv.engines other outside
  unfold perform
  dsimp only
  split
  · rename_i routed
    have listening : (cluster.engine target).isSome = true := by
      have heard := routed.2.2
      unfold subscribed at heard
      cases there : cluster.engine target with
      | none => simp [there] at heard
      | some => rfl
    exact absurd ⟨routed.1 ▸ member, inside target listening⟩ outside
  · exact inv.links source target outside

theorem within_launch {cluster : Cluster} (inv : cluster.Within nodes) (member : node ∈ nodes) :
    (cluster.launch node).Within nodes := by
  refine ⟨fun other outside => ?_, inv.links⟩
  have different : other ≠ node := fun same => outside (same ▸ member)
  rw [launch_engine_other _ different]
  exact inv.engines other outside

theorem within_step (cluster : Cluster) (label : Nat × ClusterOp) (inv : cluster.Within nodes)
    (creates : CreatesWithin nodes cluster label) : (cluster.step label).Within nodes := by
  obtain ⟨_, op⟩ := label
  cases op with
  | create =>
    dsimp only [step]
    split
    · exact within_launch inv creates
    split
    · exact within_launch inv creates
    · exact inv
  | call =>
    dsimp only [step]
    split
    · exact inv
    split
    · exact inv
    · exact within_perform inv (by assumption)
  | deliver =>
    dsimp only [step]
    split
    · exact inv
    split
    · exact within_dequeue inv
    split
    · exact within_perform (within_dequeue inv) (by assumption)
    · exact within_dequeue inv

theorem within_run (endpointId name : String) (heartbeatTimeoutMs : Nat) (nodes : List NodeId)
    (labels : List (Nat × ClusterOp))
    (creates : Follows step (CreatesWithin nodes) (new endpointId name heartbeatTimeoutMs) labels) :
    (run step (new endpointId name heartbeatTimeoutMs) labels).Within nodes :=
  run_keeps step (CreatesWithin nodes) (Within nodes) within_step _ labels ⟨fun _ _ => rfl, fun _ _ _ => rfl⟩ creates

end Cluster

end PondSocket.Js
