import PondSocket.Go.AssignsReplica

namespace PondSocket.Go

open Library List OrderedMap Option Channel
open Js (Json UserId NodeId)

def Publication.encode (stamp : Stamp) (endpoint : String) (channel : Channel) : Publication → Json
  | .userJoined userId assigns =>
    encodeUserJoined stamp endpoint channel.name channel.nodeId userId (.object []) (.object assigns.entries)
  | .userLeft userId => encodeUserLeft stamp endpoint channel.name channel.nodeId userId
  | .presence event userId change list =>
    if event = leave then
      { newEnvelope .presenceRemoved channel.name channel.nodeId with
        presenceEvent := event, userId := userId }.marshal stamp endpoint
    else
      { newEnvelope .presenceUpdate channel.name channel.nodeId with
        presenceEvent := event, userId := userId, presence := change, presenceList := list }.marshal stamp endpoint
  | .assignsUpdate userId assigns =>
    encodeAssignsUpdate stamp endpoint channel.name channel.nodeId userId (.object assigns.entries)
  | .userCommand command userId reason =>
    if command = userRemoveCommand then
      { newEnvelope .userRemove channel.name channel.nodeId with userId := userId }.marshal stamp endpoint
    else
      { newEnvelope .evictUser channel.name channel.nodeId with
        userId := userId, reason := reason }.marshal stamp endpoint
  | .stateResponse users => encodeStateResponse stamp endpoint channel.name channel.nodeId users

abbrev UserTable := OrderedMap UserId Assigns

def applyUpdate (table : UserTable) (data : Json) : UserTable :=
  match decodeEnvelope data with
  | none => table
  | some env =>
    if env.type = some .assignsUpdate ∧ table.has env.userId = true then
      match asMap env.assigns with
      | none => table
      | some assigns => table.set env.userId assigns
    else table

structure Cluster where
  origin : Channel
  peers : List UserTable

namespace Cluster

def announced (channel : Channel) (userId : UserId) (key : String) (value : Json) : List Publication :=
  (channel.broadcastAssignsUpdate userId key value).published.drop channel.published.length

-- A call of UpdateAssigns, and the delivery of what it publishes; the node that
-- published drops it by its sourceNodeId.
def updateAssigns (cluster : Cluster) (stamp : Stamp) (endpoint : String) (userId : UserId) (key : String)
    (value : Json) : Cluster :=
  let called := (cluster.origin.updateAssigns userId key value).1
  let data := (announced called userId key value).map (Publication.encode stamp endpoint called)
  ⟨called.broadcastAssignsUpdate userId key value, cluster.peers.map fun table => data.foldl applyUpdate table⟩

structure Agrees (cluster : Cluster) (userId : UserId) (assigns : Assigns) : Prop where
  origin : ∀ held, cluster.origin.reported userId = some held → ∀ query, held.get? query = assigns.get? query
  peers : ∀ table ∈ cluster.peers, ∀ held, table.get? userId = some held →
    ∀ query, held.get? query = assigns.get? query

variable {userId : UserId} {channel : Channel} {endpoint : String} {stamp : Stamp}

variable {assigns : Assigns}

theorem apply_encoded {table : UserTable} :
    applyUpdate table ((Publication.assignsUpdate userId assigns).encode stamp endpoint channel) =
      if table.has userId = true then table.set userId (.ofList assigns.entries) else table := by
  have decoded := DistributedEnvelope.decode_marshal
    { newEnvelope .assignsUpdate channel.name channel.nodeId with userId := userId, assigns := .object assigns.entries }
    stamp endpoint rfl
  simp only [applyUpdate, Publication.encode, encodeAssignsUpdate, decoded]
  by_cases known : table.has userId = true
  · rw [if_pos known]
    exact if_pos ⟨rfl, known⟩
  · rw [if_neg known]
    exact if_neg fun both => known both.2

theorem published_announced {publication : Publication} (distributed : channel.distributed = true) :
    (channel.publish publication).published.drop channel.published.length = [publication] := by
  rw [Channel.publish, distributed, if_pos rfl]
  exact drop_left

variable {key : String} {value : Json}

theorem announced_hosted (running : channel.done = false) (distributed : channel.distributed = true)
    (hosted : channel.store.read userId = .ok assigns) :
    announced channel userId key value = [.assignsUpdate userId assigns] := by
  simp only [announced, broadcastAssignsUpdate, checkState, running, Bool.false_eq_true, if_false, hosted]
  exact published_announced distributed

theorem announced_elsewhere {failure : Failure} (running : channel.done = false)
    (distributed : channel.distributed = true) (absent : channel.store.read userId = .error failure) :
    announced channel userId key value = [.assignsUpdate userId (OrderedMap.empty.set key value)] := by
  simp only [announced, broadcastAssignsUpdate, checkState, running, Bool.false_eq_true, if_false, absent]
  exact published_announced distributed

theorem broadcast_reported (channel : Channel) (userId query : UserId) (key : String) (value : Json) :
    (channel.broadcastAssignsUpdate userId key value).reported query = channel.reported query := by
  have spoken : ∀ publication, (channel.publish publication).reported query = channel.reported query := by
    intro publication
    unfold Channel.publish
    split <;> rfl
  unfold broadcastAssignsUpdate
  cases channel.checkState with
  | some => rfl
  | none =>
    cases channel.store.read userId with
    | ok | error => exact spoken _

theorem peers_agree_iff {peers : List UserTable} {snapshot target : Assigns} :
    (∀ table ∈ peers.map fun table : UserTable =>
        if table.has userId = true then table.set userId (.ofList snapshot.entries) else table,
      ∀ held, table.get? userId = some held → ∀ query, held.get? query = target.get? query) ↔
      (∃ table ∈ peers, table.has userId = true) → ∀ query, snapshot.get? query = target.get? query := by
  constructor
  · rintro agree ⟨table, member, known⟩ query
    have held := agree _ (mem_map_of_mem member) (.ofList snapshot.entries) (by rw [if_pos known, get_set_same]) query
    rwa [get_relisted] at held
  · intro agree table member held found query
    obtain ⟨before, inside, rfl⟩ := mem_map.mp member
    by_cases known : before.has userId = true
    · rw [if_pos known, get_set_same] at found
      rw [← some.inj found, get_relisted]
      exact agree ⟨before, inside, known⟩ query
    · rw [if_neg known] at found
      exact absurd (has_iff.mpr ⟨held, found⟩) known

theorem fold_single (table : UserTable) (stamp : Stamp) (endpoint : String) (channel : Channel) (userId : UserId)
    (assigns : Assigns) :
    ([Publication.assignsUpdate userId assigns].map (Publication.encode stamp endpoint channel)).foldl applyUpdate table =
      if table.has userId = true then table.set userId (.ofList assigns.entries) else table :=
  apply_encoded

variable {previous : Assigns} {cluster : Cluster}

theorem hosted_canonical (running : cluster.origin.done = false) (distributed : cluster.origin.distributed = true)
    (agreed : cluster.Agrees userId previous) (hosted : cluster.origin.store.has userId = true) :
    (cluster.updateAssigns stamp endpoint userId key value).Agrees userId (previous.set key value) := by
  obtain ⟨held, found⟩ := has_iff.mp hosted
  have read := cluster.origin.store.read_ok.mpr found
  have called : (cluster.origin.updateAssigns userId key value).1 =
      { cluster.origin with store := ⟨cluster.origin.store.store.set userId (held.set key value)⟩ } := by
    simp [Channel.updateAssigns, checkState, running, read, Store.update, hosted]
  have same : ∀ query, (held.set key value).get? query = (previous.set key value).get? query := by
    intro query
    have before : cluster.origin.reported userId = some held := by
      rw [cluster.origin.reported_eq running distributed, found, some_or]
    rw [OrderedMap.get_set, OrderedMap.get_set, agreed.origin held before query]
  have next : (cluster.origin.updateAssigns userId key value).1.store.read userId = .ok (held.set key value) := by
    rw [called, Store.read_ok]
    exact get_set_same
  have now : (cluster.origin.updateAssigns userId key value).1.done = false ∧
      (cluster.origin.updateAssigns userId key value).1.distributed = true := by
    rw [called]
    exact ⟨running, distributed⟩
  constructor
  · intro after reported query
    rw [updateAssigns, broadcast_reported, reported_eq _ now.1 now.2,
      (Store.read_ok _).mp next, some_or] at reported
    rw [← some.inj reported]
    exact same query
  · simp only [updateAssigns, announced_hosted now.1 now.2 next, fold_single]
    exact peers_agree_iff.mpr fun _ => same

theorem elsewhere_canonical_iff (running : cluster.origin.done = false)
    (distributed : cluster.origin.distributed = true) (agreed : cluster.Agrees userId previous)
    (absent : cluster.origin.store.has userId = false) :
    (cluster.updateAssigns stamp endpoint userId key value).Agrees userId (previous.set key value) ↔
      ((∃ table ∈ cluster.peers, table.has userId = true) → ∀ query, query ≠ key → previous.get? query = none) ∧
        (cluster.origin.remoteAssigns.has userId = true → previous.get? key = some value) := by
  obtain ⟨_, read⟩ := read_missing absent
  have called : (cluster.origin.updateAssigns userId key value).1 = cluster.origin := by
    simp [Channel.updateAssigns, checkState, running, read]
  have remote : cluster.origin.reported userId = cluster.origin.remoteAssigns.get? userId := by
    rw [cluster.origin.reported_eq running distributed, has_false_iff.mp absent, none_or]
  -- The node that is called keeps what it had.
  have origin : (∀ held, (cluster.updateAssigns stamp endpoint userId key value).origin.reported userId = some held →
        ∀ query, held.get? query = (previous.set key value).get? query) ↔
      (cluster.origin.remoteAssigns.has userId = true → previous.get? key = some value) := by
    rw [updateAssigns, broadcast_reported, called]
    constructor
    · intro agree known
      obtain ⟨held, found⟩ := has_iff.mp known
      have before := remote.trans found
      rw [← agreed.origin held before key, agree held before key, get_set_same]
    · intro unchanged held found query
      rw [agreed.origin held found query, OrderedMap.get_set]
      by_cases same : query = key
      · rw [if_pos same, same]
        exact unchanged (has_iff.mpr ⟨held, remote.symm.trans found⟩)
      · rw [if_neg same]
  have peers : (∀ table ∈ (cluster.updateAssigns stamp endpoint userId key value).peers, ∀ held,
        table.get? userId = some held → ∀ query, held.get? query = (previous.set key value).get? query) ↔
      (∃ table ∈ cluster.peers, table.has userId = true) → ∀ query, query ≠ key → previous.get? query = none := by
    simp only [updateAssigns, called, announced_elsewhere running distributed read, fold_single]
    rw [peers_agree_iff]
    refine imp_congr_right fun _ => ?_
    simp only [OrderedMap.get_set, OrderedMap.get_empty]
    constructor
    · intro alike query different
      have one := alike query
      rw [if_neg different, if_neg different] at one
      exact one.symm
    · intro only query
      by_cases same : query = key
      · rw [if_pos same, if_pos same]
      · rw [if_neg same, if_neg same, only query same]
  exact ⟨fun agrees => ⟨peers.mp agrees.peers, origin.mp agrees.origin⟩,
    fun both => ⟨origin.mpr both.2, peers.mpr both.1⟩⟩

def mutedAssigns : Assigns := Replica.userAssigns ["admin", "muted"]

def strangers : Cluster := ⟨emptyRoom "room", [OrderedMap.empty.set "u" mutedAssigns]⟩

def hostCluster : Cluster :=
  ⟨((emptyRoom "room").addUser ⟨"u", 0, some mutedAssigns⟩).1, [OrderedMap.empty.set "u" mutedAssigns]⟩

theorem host_agrees : hostCluster.Agrees "u" mutedAssigns where
  origin := by
    intro held found query
    have same : some mutedAssigns = some held := found
    rw [some.inj same]
  peers := by
    intro table member held found query
    rw [mem_singleton.mp member, get_set_same] at found
    rw [some.inj found]

end Cluster

end PondSocket.Go
