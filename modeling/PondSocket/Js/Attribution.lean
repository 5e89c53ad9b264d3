import PondSocket.Js.Cluster
import PondSocket.Js.Membership

namespace PondSocket.Js

open Library List OrderedMap ChannelEngine Tables

namespace Cluster

def Attributed (cluster : Cluster) : Prop :=
  ∀ node engine, cluster.engine node = some engine → ∀ source users userId,
    engine.nodeUsers.get? source = some users → users.has userId = true → (source, userId) ∈ cluster.joins

-- A cleanup forgets only users of a node that has been silent for the timeout.
def CleansSilentOnly (host : UserId → NodeId) (cluster : Cluster) : Prop :=
  ∀ node engine now userId, cluster.engine node = some engine → userId ∈ engine.users →
    userId ∉ (engine.staleNodeTick now).users →
    ∃ backend seen, engine.backend = some backend ∧ engine.nodeLastSeen.get? (host userId) = some seen ∧
      seen + backend.heartbeatTimeoutMs ≤ now

-- Nodes have names, and each user joins on its host only.
def JoinsOnHost (host : UserId → NodeId) (_ : Cluster) (label : Nat × ClusterOp) : Prop :=
  match label.2 with
  | .create node => node ≠ ""
  | .call node (.addUser userId _ _ _) => host userId = node
  | _ => True

-- A STATE_RESPONSE that is handled brings no user that joined on a third node.
def RepliesOwn (cluster : Cluster) (label : Nat × ClusterOp) : Prop :=
  match label.2 with
  | .deliver source target index =>
    ∀ message engine users, (cluster.link source target)[index]? = some message →
      cluster.engine target = some engine → engine.distributedSubscription = true →
      message.body = .stateResponse (some users) →
      ∀ user ∈ users, engine.assignsCache.has user.id = true ∨ (source, user.id) ∈ cluster.joins
  | _ => True

structure Traced (host : UserId → NodeId) (cluster : Cluster) : Prop where
  named : ∀ node engine, cluster.engine node = some engine → node ≠ ""
  rows : ∀ node engine, cluster.engine node = some engine → ∀ source userId,
    engine.tables.tracks source userId → (source, userId) ∈ cluster.joins
  sent : ∀ source target message, message ∈ cluster.link source target →
    source ≠ "" ∧ message.sourceNodeId = some source ∧
      ∀ userId presence assigns, message.body = .userJoined userId presence assigns → (source, userId) ∈ cluster.joins
  hosted : ∀ node userId, (node, userId) ∈ cluster.joins → host userId = node

variable {engine : ChannelEngine}

theorem joined_told {op : EngineOp} {userId : UserId} {presence : Option PondPresence} {assigns : PondAssigns}
    (told : .userJoined userId presence assigns ∈ engine.tells op) : engine.admits op = some userId := by
  cases op with
  | addUser =>
    dsimp only [tells, admits] at told ⊢
    split at told
    · cases told
    rename_i admitted
    rw [if_neg admitted]
    split at told <;> simp at told <;> rw [told.1]
  | receive =>
    dsimp only [tells] at told
    split at told <;> first | cases told | (split at told <;> simp at told)
  | sendMessage | handlerNotFound | trackPresence | updatePresence | removePresence | kickUser | removeUser
  | runReadyCallback =>
    dsimp only [tells] at told
    split at told <;> simp at told
  | updateAssigns other =>
    dsimp only [tells] at told
    cases found : engine.assignsCache.get? other <;> simp [found] at told
  | _ => simp [tells] at told

variable {host : UserId → NodeId} {cluster : Cluster}

theorem traced_perform (inv : cluster.Traced host) {now : Nat} {node : NodeId} {op : EngineOp}
    (present : cluster.engine node = some engine)
    (local' : ∀ userId, engine.admits op = some userId → host userId = node)
    (added : ∀ source userId, (engine.tables.step now op).tracks source userId →
      engine.tables.tracks source userId ∨ (source, userId) ∈ cluster.joins) :
    (cluster.perform now node engine op).Traced host := by
  have grown : ∀ pair, pair ∈ cluster.joins → pair ∈ (cluster.perform now node engine op).joins :=
    fun pair member => mem_append_left _ member
  refine ⟨fun other next found => ?_, fun other next found source userId tracked => ?_,
    fun source target message member => ?_, fun other userId member => ?_⟩
  · by_cases same : other = node
    · exact same ▸ inv.named node engine present
    · rw [perform_engine_other _ _ same] at found
      exact inv.named other next found
  · by_cases same : other = node
    · subst same
      rw [perform_engine_same] at found
      cases found
      rw [perform_tables] at tracked
      rcases added source userId tracked with old | known
      · exact grown _ (inv.rows other engine present source userId old)
      · exact grown _ known
    · rw [perform_engine_other _ _ same] at found
      exact grown _ (inv.rows other next found source userId tracked)
  · rcases perform_link_mem cluster now member with old | ⟨rfl, stamp, _, told⟩
    · obtain ⟨name, stamp, body⟩ := inv.sent source target message old
      exact ⟨name, stamp, fun userId presence assigns same => grown _ (body userId presence assigns same)⟩
    · refine ⟨inv.named source engine present, stamp, fun userId presence assigns same => ?_⟩
      rw [same] at told
      refine mem_append_right _ (mem_map.mpr ⟨userId, ?_, rfl⟩)
      simp [joined_told told]
  · rcases mem_append.mp member with old | fresh
    · exact inv.hosted other userId old
    · obtain ⟨_, among, same⟩ := mem_map.mp fresh
      cases same
      exact local' userId (by simpa using among)

theorem traced_dequeue (inv : cluster.Traced host) {source target : NodeId} {index : Nat} :
    (cluster.dequeue source target index).Traced host :=
  ⟨inv.named, inv.rows, fun origin goal message member =>
    inv.sent origin goal message (dequeue_link_mem cluster member), inv.hosted⟩

theorem traced_launch (inv : cluster.Traced host) {node : NodeId} (name : node ≠ "") :
    (cluster.launch node).Traced host := by
  refine ⟨fun other next found => ?_, fun other next found source userId tracked => ?_, inv.sent, inv.hosted⟩
  · by_cases same : other = node
    · exact same ▸ name
    · rw [launch_engine_other _ same] at found
      exact inv.named other next found
  by_cases same : other = node
  · subst same
    rw [launch_engine_same] at found
    cases found
    obtain ⟨_, row, _⟩ := tracked
    cases row
  · rw [launch_engine_other _ same] at found
    exact inv.rows other next found source userId tracked

theorem traced_step (host : UserId → NodeId) (cluster : Cluster) (label : Nat × ClusterOp)
    (inv : cluster.Traced host) (placed : JoinsOnHost host cluster label) (own : RepliesOwn cluster label) :
    (cluster.step label).Traced host := by
  obtain ⟨now, op⟩ := label
  cases op with
  | create node =>
    dsimp only [step]
    cases cluster.engine node with
    | none => exact traced_launch inv placed
    | some =>
      dsimp only
      split
      · exact traced_launch inv placed
      · exact inv
  | call node op =>
    dsimp only [step]
    cases present : cluster.engine node with
    | none => exact inv
    | some engine =>
      dsimp only
      split
      · exact inv
      rename_i leaves
      refine traced_perform inv present (fun userId admitted => ?_) fun source userId tracked => ?_
      · cases op with
        | addUser =>
          dsimp only [admits] at admitted
          split at admitted
          · cases admitted
          · cases admitted
            exact placed
        | _ => cases admitted
      · rcases step_tracks engine.tables now tracked with old | ⟨message, rfl, _⟩
        · exact .inl old
        · exact absurd rfl leaves
  | deliver source target index =>
    dsimp only [step]
    cases found : (cluster.link source target)[index]? with
    | none => exact inv
    | some message =>
      cases present : cluster.engine target with
      | none => exact traced_dequeue inv
      | some engine =>
        dsimp only
        split
        · rename_i listening
          have member : message ∈ cluster.link source target := mem_of_getElem? found
          obtain ⟨_, stamp, body⟩ := inv.sent source target message member
          refine traced_perform (traced_dequeue inv) present (fun userId admitted => by cases admitted) fun node userId tracked => ?_
          rcases receive_tracks engine.tables now tracked with old | ⟨sender, added⟩
          · exact .inl old
          right
          obtain rfl : source = node := Option.some.inj (stamp.symm.trans sender)
          cases shape : message.body with
          | userJoined _ presence assigns =>
            rw [shape] at added
            exact body userId presence assigns (added ▸ shape)
          | stateResponse users =>
            rw [shape] at added
            cases users with
            | none => cases added
            | some users =>
              obtain ⟨unlisted, user, among, rfl⟩ := added
              exact (own message engine users found present listening shape user among).resolve_left unlisted
          | _ =>
            rw [shape] at added
            cases added
        · exact traced_dequeue inv

theorem replies_own_of_attributed {label : Nat × ClusterOp} (inv : cluster.Traced host)
    (after : (cluster.step label).Attributed) : RepliesOwn cluster label := by
  obtain ⟨now, op⟩ := label
  cases op with
  | create | call => trivial
  | deliver source target index =>
    intro message engine users found present listening shape user among
    by_cases listed : engine.assignsCache.has user.id = true
    · exact .inl listed
    right
    obtain ⟨name, stamp, _⟩ := inv.sent source target message (mem_of_getElem? found)
    have result : cluster.step (now, .deliver source target index) =
        (cluster.dequeue source target index).perform now target engine (.receive message) := by
      simp [step, found, present, listening]
    rw [result] at after
    have tracked : (engine.tables.step now (.receive message)).tracks source user.id := by
      obtain ⟨_, _, _, _⟩ := message
      subst shape stamp
      exact adopt_all_tracks now name engine.tables among listed
    rw [← perform_tables] at tracked
    obtain ⟨members, row, member⟩ := tracked
    have known := after target _ (perform_engine_same _ _) source members user.id row member
    rcases mem_append.mp known with old | fresh
    · exact old
    · cases fresh

theorem cleans_silent_of_traced (inv : cluster.Traced host) : cluster.CleansSilentOnly host := by
  intro node engine now userId present listed dropped
  have before : engine.tables.lists userId := mem_keys.mp listed
  have after : ¬ (engine.tables.tick now).lists userId := by
    rw [← tables_tick]
    exact fun still => dropped (mem_keys.mpr still)
  unfold tick at after
  split at after
  · rw [drop_all_lists] at after
    have tracked : ∃ source ∈ engine.tables.staleNodes now, engine.tables.tracks source userId := by
      by_contra none
      exact after ⟨fun source stale row => none ⟨source, stale, row⟩, before⟩
    obtain ⟨source, stale, row⟩ := tracked
    obtain rfl := inv.hosted source userId (inv.rows node engine present source userId row)
    unfold staleNodes at stale
    cases backed : engine.tables.backend with
    | none => simp [backed] at stale
    | some backend =>
      rw [backed] at stale
      obtain ⟨⟨_, seen⟩, among, rfl⟩ := mem_map.mp stale
      obtain ⟨member, late⟩ := mem_filter.mp among
      exact ⟨backend, seen, backed, mem_entries.mp member, of_decide_eq_true late⟩
  · exact absurd before after

theorem attributed_iff (endpointId name : String) (heartbeatTimeoutMs : Nat) (host : UserId → NodeId)
    (labels : List (Nat × ClusterOp))
    (placed : Follows step (JoinsOnHost host) (new endpointId name heartbeatTimeoutMs) labels) :
    (Always step Attributed (new endpointId name heartbeatTimeoutMs) labels ↔
      Follows step RepliesOwn (new endpointId name heartbeatTimeoutMs) labels) ∧
    (Follows step RepliesOwn (new endpointId name heartbeatTimeoutMs) labels →
      Always step (CleansSilentOnly host) (new endpointId name heartbeatTimeoutMs) labels) := by
  have initial : (new endpointId name heartbeatTimeoutMs).Traced host := by
    refine ⟨?_, ?_, ?_, ?_⟩
    · intro node engine found
      cases found
    · intro node engine found
      cases found
    · intro source target message member
      cases member
    · intro node userId member
      cases member
  have rows : ∀ cluster : Cluster, cluster.Traced host → cluster.Attributed :=
    fun cluster inv node engine found source users userId row member =>
      inv.rows node engine found source userId ⟨users, row, member⟩
  refine ⟨always_iff_follows step (JoinsOnHost host) RepliesOwn Attributed (Traced host) rows
    (traced_step host) ?_ _ labels initial placed, fun own => ?_⟩
  · exact fun cluster label inv _ after => replies_own_of_attributed inv after
  refine (always_iff_follows step (JoinsOnHost host) RepliesOwn (fun cluster => cluster.Attributed ∧
    cluster.CleansSilentOnly host) (Traced host) ?_ (traced_step host) ?_ _ labels initial placed).mpr own |>
    always_mono step _ _ (fun _ both => both.2) _ labels
  · exact fun cluster inv => ⟨rows cluster inv, cleans_silent_of_traced inv⟩
  · exact fun cluster label inv _ after => replies_own_of_attributed inv after.1

theorem attributed_run :
    Always step Attributed (new "/socket" "/room" 90000)
      [(0, .create "A"), (0, .create "B"), (0, .call "A" .distributedSubscribed), (0, .call "B" .distributedSubscribed),
       (1, .call "A" (.addUser "u" .empty "socket" (.supplied "join"))), (2, .deliver "A" "B" 0)] := by
  refine (attributed_iff "/socket" "/room" 90000 (fun _ => "A") _ ?_).1.mpr ?_
  · have named : "A" ≠ "" ∧ "B" ≠ "" := by decide
    exact ⟨named.1, named.2, trivial, trivial, rfl, trivial, trivial⟩
  refine ⟨trivial, trivial, trivial, trivial, trivial, ?_, trivial⟩
  intro message engine users found _ _ shape
  cases found
  cases shape

theorem relayed_user_misattributed :
    ¬ (run step (new "/socket" "/room" 90000)
      [(0, .create "A"), (0, .create "B"), (0, .call "A" .distributedSubscribed), (0, .call "B" .distributedSubscribed),
       (1, .call "A" (.addUser "u" .empty "socket" (.supplied "join"))), (2, .deliver "A" "B" 0),
       (3, .create "C"), (3, .call "C" .distributedSubscribed),
       (4, .call "C" (.addUser "w" .empty "socket" (.supplied "join"))), (4, .call "C" .runReadyCallback),
       (5, .deliver "C" "B" 0), (5, .deliver "C" "B" 0), (6, .deliver "B" "C" 0)]).Attributed := by
  intro attributed
  have row := attributed "C" _ rfl "B" _ "u" rfl (by decide)
  exact absurd row (by decide)

end Cluster

end PondSocket.Js
