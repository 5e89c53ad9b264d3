import PondSocket.Js.Cluster
import PondSocket.Js.Membership

namespace PondSocket.Js

open Library List ChannelEngine

namespace Cluster

def Live (cluster : Cluster) (node : NodeId) (userId : UserId) : Prop :=
  ∃ engine, cluster.engine node = some engine ∧ engine.tables.Member userId

def Leaving (cluster : Cluster) (node : NodeId) (userId : UserId) : Prop :=
  ∃ source, ∃ message ∈ cluster.link source node, Tables.Removes message.body userId

-- Every other engine that lists the user is about to hear that it has left.
def Announced (cluster : Cluster) (node : NodeId) (userId : UserId) : Prop :=
  ∀ other engine, other ≠ node → cluster.engine other = some engine → engine.tables.lists userId →
    cluster.Leaving other userId

def UserJoinsOnHost (host : UserId → NodeId) (_ : Cluster) (label : Nat × ClusterOp) : Prop :=
  match label.2 with
  | .call node (.addUser userId _ _ _) => host userId = node
  | _ => True

-- No membership ends unannounced, and nobody learns of a user that has left.
def AnnouncesLeaves (host : UserId → NodeId) (cluster : Cluster) (label : Nat × ClusterOp) : Prop :=
  match label.2 with
  | .create _ => True
  | .call node op =>
    ∀ engine userId, cluster.engine node = some engine → engine.tables.Member userId →
      match op with
      | .close | .destroy _ => cluster.Announced node userId
      | .removeUser other true => other = userId → cluster.Announced node userId
      | .staleNodeTick =>
        (∃ silent ∈ engine.tables.staleNodes label.1, engine.tables.tracks silent userId) →
          cluster.Announced node userId
      | _ => True
  | .deliver source target index =>
    ∀ message engine userId, (cluster.link source target)[index]? = some message →
      cluster.engine target = some engine → engine.distributedSubscription = true →
      match message.body with
      | .userLeft other | .evictUser other _ =>
        other = userId → engine.tables.Member userId → cluster.Announced target userId
      | .userJoined .. | .stateResponse _ =>
        host userId ≠ target → ¬ engine.tables.lists userId → engine.tables.Introduces message.body userId →
          cluster.Live (host userId) userId ∨ cluster.Leaving target userId
      | _ => True

-- Once nothing is on its way, whoever joined on another node and is listed is
-- still joined on that node's open engine.
def PeersForget (cluster : Cluster) : Prop :=
  (∀ source target, cluster.link source target = []) →
    ∀ node engine home userId, cluster.engine node = some engine → userId ∈ engine.users → home ≠ node →
      (home, userId) ∈ cluster.joins →
      ∃ joined, cluster.engine home = some joined ∧ joined.closed = false ∧
        joined.userSubscriptions.has userId = true

structure Grounded (host : UserId → NodeId) (cluster : Cluster) : Prop where
  deaf : ∀ node engine userId, cluster.engine node = some engine → engine.distributedSubscription = false →
    engine.tables.lists userId → host userId = node
  own : ∀ node engine userId, cluster.engine node = some engine → engine.tables.hosts userId → host userId = node
  backed : ∀ node engine, cluster.engine node = some engine → engine.backend.isSome = true
  joined : ∀ node userId, (node, userId) ∈ cluster.joins → host userId = node

def Known (host : UserId → NodeId) (cluster : Cluster) (node : NodeId) : Prop :=
  ∀ engine userId, cluster.engine node = some engine → engine.tables.lists userId → host userId ≠ node →
    cluster.Live (host userId) userId ∨ cluster.Leaving node userId

structure Settled (host : UserId → NodeId) (cluster : Cluster) : Prop where
  grounded : cluster.Grounded host
  known : ∀ node, cluster.Known host node

variable {engine : ChannelEngine} {userId : UserId}

theorem online_of_member (backed : engine.backend.isSome = true) (member : engine.tables.Member userId) :
    engine.online = true := by
  have running : engine.closed = false := member.running
  rw [online, backed, running]
  rfl

variable {op : EngineOp}

theorem removal_told (member : engine.tables.Member userId)
    (ends : (∃ reason, op = .kickUser userId reason) ∨ op = .removeUser userId false ∨
      ∃ message, op = .receive message ∧ message.body = .userRemove userId) :
    ∃ body ∈ engine.tells op, Tables.Removes body userId := by
  have listed : engine.assignsCache.has userId = true := member.listed
  have hosted : engine.userSubscriptions.has userId = true := member.hosted
  have known : engine.tables.knows userId = true := (Tables.knows_iff _).mpr (.inl member.listed)
  rcases ends with ⟨reason, rfl⟩ | rfl | ⟨_, rfl, shape⟩
  · exact ⟨.evictUser userId reason, by simp [tells, listed], rfl⟩
  · exact ⟨.userLeft userId, by simp [tells, known], rfl⟩
  · exact ⟨.userLeft userId, by simp [tells, shape, hosted, known], rfl⟩

variable {cluster : Cluster} {node : NodeId} {now : Nat}

theorem leaving_perform {other : NodeId} (leaving : cluster.Leaving other userId) :
    (cluster.perform now node engine op).Leaving other userId := by
  obtain ⟨source, message, member, removes⟩ := leaving
  exact ⟨source, message, perform_link_old cluster now member, removes⟩

theorem live_perform_other {other : NodeId} (different : other ≠ node) (live : cluster.Live other userId) :
    (cluster.perform now node engine op).Live other userId := by
  obtain ⟨joined, present, member⟩ := live
  exact ⟨joined, (perform_engine_other cluster now different).trans present, member⟩

variable {host : UserId → NodeId}

theorem grounded_perform (inv : cluster.Grounded host) (present : cluster.engine node = some engine)
    (placed : ∀ userId, Tables.newcomer op = some userId → host userId = node)
    (quiet : ∀ userId, engine.distributedSubscription = false → (engine.tables.step now op).lists userId →
      host userId = node) : (cluster.perform now node engine op).Grounded host := by
  have outline := Tables.outline_step engine.tables now op
  have after := perform_tables now engine op
  refine ⟨fun other next userId found off listed => ?_, fun other next userId found hosted => ?_,
    fun other next found => ?_, fun other userId member => ?_⟩
  · by_cases same : other = node
    · subst same
      rw [perform_engine_same] at found
      cases found
      have silent : (engine.tables.step now op).distributedSubscription = false := by
        rw [← after]
        exact off
      rw [after] at listed
      exact quiet userId (outline.silent userId listed silent) listed
    · rw [perform_engine_other _ _ same] at found
      exact inv.deaf other next userId found off listed
  · by_cases same : other = node
    · subst same
      rw [perform_engine_same] at found
      cases found
      rw [after] at hosted
      rcases outline.hosted userId hosted with before | joined
      · exact inv.own other engine userId present before
      · exact placed userId joined
    · rw [perform_engine_other _ _ same] at found
      exact inv.own other next userId found hosted
  · by_cases same : other = node
    · subst same
      rw [perform_engine_same] at found
      cases found
      have backend := congrArg Tables.backend after
      rw [outline.backend] at backend
      exact (congrArg Option.isSome backend).trans (inv.backed other engine present)
    · rw [perform_engine_other _ _ same] at found
      exact inv.backed other next found
  · rcases mem_append.mp member with old | fresh
    · exact inv.joined other userId old
    · obtain ⟨_, among, same⟩ := mem_map.mp fresh
      cases same
      refine placed userId ?_
      cases op with
      | addUser =>
        dsimp only [admits] at among
        split at among
        · cases among
        · exact Option.mem_toList.mp among
      | _ => cases among

theorem settled_perform (host : UserId → NodeId) (cluster : Cluster) (inv : cluster.Grounded host) (now : Nat)
    (node : NodeId) (engine : ChannelEngine) (op : EngineOp) (present : cluster.engine node = some engine)
    (placed : ∀ userId, Tables.newcomer op = some userId → host userId = node)
    (quiet : ∀ userId, engine.distributedSubscription = false → (engine.tables.step now op).lists userId →
      host userId = node)
    (away : ∀ other, other ≠ node → cluster.Known host other)
    (home : ∀ userId, (engine.tables.step now op).lists userId → host userId ≠ node →
      cluster.Live (host userId) userId ∨ cluster.Leaving node userId)
    (ends : ∀ userId, engine.tables.Member userId → engine.tables.Drops now op userId →
      (∃ body ∈ engine.tells op, Tables.Removes body userId) ∨ cluster.Announced node userId) :
    (cluster.perform now node engine op).Settled host := by
  refine ⟨grounded_perform inv present placed quiet, fun other => ?_⟩
  intro next userId found listed elsewhere
  by_cases same : other = node
  · subst same
    rw [perform_engine_same] at found
    cases found
    rw [perform_tables] at listed
    rcases home userId listed elsewhere with live | leaving
    · exact .inl (live_perform_other elsewhere live)
    · exact .inr (leaving_perform leaving)
  · rw [perform_engine_other _ _ same] at found
    rcases away other same next userId found listed elsewhere with live | leaving
    · by_cases local' : host userId = node
      · obtain ⟨_, there, member⟩ := live
        rw [local', present] at there
        cases there
        by_cases ended : engine.tables.Drops now op userId
        · right
          rcases ends userId member ended with ⟨_, told, removes⟩ | announced
          · have listening : cluster.subscribed other = true := by
              unfold subscribed
              rw [found]
              cases channel : next.distributedSubscription with
              | true => exact channel
              | false => exact absurd (inv.deaf other next userId found channel listed) elsewhere
            obtain ⟨message, sent, shape⟩ := perform_link_fresh cluster now same listening
              (online_of_member (inv.backed node engine present) member) told
            exact ⟨node, message, sent, shape ▸ removes⟩
          · exact leaving_perform (announced other next same found listed)
        · left
          have still := Tables.member_step engine.tables now member ended
          rw [← perform_tables] at still
          exact ⟨_, by rw [local']; exact perform_engine_same cluster now, still⟩
      · exact .inl (live_perform_other local' live)
    · exact .inr (leaving_perform leaving)

theorem settled_launch (inv : cluster.Settled host)
    (ended : ∀ engine, cluster.engine node = some engine → engine.closed = true) :
    (cluster.launch node).Settled host := by
  have nobody : ∀ endpointId name backend userId,
      ¬ (ChannelEngine.new endpointId name node backend).tables.lists userId := by
    intro endpointId name backend userId listed
    cases listed
  have live : ∀ other userId, cluster.Live other userId → (cluster.launch node).Live other userId := by
    rintro other userId ⟨engine, present, member⟩
    refine ⟨engine, ?_, member⟩
    rw [launch_engine_other _ fun same => ?_]
    · exact present
    have running : engine.closed = false := member.running
    rw [ended engine (same ▸ present)] at running
    cases running
  refine ⟨⟨fun other next userId found off listed => ?_, fun other next userId found hosted => ?_,
    fun other next found => ?_, inv.grounded.joined⟩, fun other next userId found listed elsewhere => ?_⟩
  · by_cases same : other = node
    · subst same
      rw [launch_engine_same] at found
      cases found
      exact absurd listed (nobody _ _ _ _)
    · rw [launch_engine_other _ same] at found
      exact inv.grounded.deaf other next userId found off listed
  · by_cases same : other = node
    · subst same
      rw [launch_engine_same] at found
      cases found
      cases hosted
    · rw [launch_engine_other _ same] at found
      exact inv.grounded.own other next userId found hosted
  · by_cases same : other = node
    · subst same
      rw [launch_engine_same] at found
      cases found
      rfl
    · rw [launch_engine_other _ same] at found
      exact inv.grounded.backed other next found
  · by_cases same : other = node
    · subst same
      rw [launch_engine_same] at found
      cases found
      exact absurd listed (nobody _ _ _ _)
    · rw [launch_engine_other _ same] at found
      exact (inv.known other next userId found listed elsewhere).imp (live _ _) id

theorem settled_call (inv : cluster.Settled host) (present : cluster.engine node = some engine)
    (leaves : op.arrives = false) (placed : UserJoinsOnHost host cluster (now, .call node op))
    (announces : AnnouncesLeaves host cluster (now, .call node op)) :
    (cluster.perform now node engine op).Settled host := by
  have newcomer : ∀ userId, Tables.newcomer op = some userId → host userId = node := by
    intro userId joins
    cases op with
    | addUser =>
      cases joins
      exact placed
    | _ => cases joins
  have listed : ∀ userId, (engine.tables.step now op).lists userId → engine.tables.lists userId ∨ host userId = node := by
    intro userId after
    rcases Tables.call_lists engine.tables now leaves after with before | ⟨_, _, _, rfl⟩
    · exact .inl before
    · exact .inr placed
  refine settled_perform host cluster inv.grounded now node engine op present newcomer (fun userId off after => ?_)
    (fun other _ => inv.known other) (fun userId after elsewhere => ?_) fun userId member ended => ?_
  · exact (listed userId after).elim (inv.grounded.deaf node engine userId present off) id
  · exact inv.known node engine userId present ((listed userId after).resolve_right elsewhere) elsewhere
  · have told := announces engine userId present member
    cases op with
    | kickUser _ reason =>
      cases ended
      exact .inl (removal_told member (.inl ⟨reason, rfl⟩))
    | removeUser _ skip =>
      cases ended
      cases skip with
      | true => exact .inr (told rfl)
      | false => exact .inl (removal_told member (.inr (.inl rfl)))
    | destroy | close => exact .inr told
    | staleNodeTick => exact .inr (told ended.2)
    | receive => cases leaves
    | _ => cases ended

variable {message : DistributedMessage} {source target : NodeId}

theorem settled_deliver (inv : cluster.Settled host) {index : Nat}
    (found : (cluster.link source target)[index]? = some message) (present : cluster.engine target = some engine)
    (listening : engine.distributedSubscription = true)
    (announces : AnnouncesLeaves host cluster (now, .deliver source target index)) :
    ((cluster.dequeue source target index).perform now target engine (.receive message)).Settled host := by
  have elsewhere : ∀ other userId, other ≠ target → cluster.Leaving other userId →
      (cluster.dequeue source target index).Leaving other userId := by
    rintro other userId different ⟨origin, sent, member, removes⟩
    exact ⟨origin, sent, dequeue_link_kept cluster found member fun same => different same.2.1, removes⟩
  have kept : ∀ userId, ¬ Tables.Removes message.body userId → cluster.Leaving target userId →
      (cluster.dequeue source target index).Leaving target userId := by
    rintro userId spared ⟨origin, sent, member, removes⟩
    exact ⟨origin, sent, dequeue_link_kept cluster found member fun same => spared (same.2.2 ▸ removes), removes⟩
  have rule := fun userId => announces message engine userId found present listening
  refine settled_perform host (cluster.dequeue source target index) ⟨inv.grounded.deaf, inv.grounded.own,
    inv.grounded.backed, inv.grounded.joined⟩ now target engine (.receive message) present (fun userId joins => ?_)
    (fun userId off => ?_) (fun other different next userId there listed away => ?_) (fun userId after away => ?_)
    fun userId member ended => ?_
  · cases joins
  · rw [listening] at off
    cases off
  · exact (inv.known other next userId there listed away).imp id (elsewhere other userId different)
  · rcases Tables.receive_lists engine.tables now after with ⟨before, removed⟩ | ⟨unlisted, introduced⟩
    · have spared : ¬ Tables.Removes message.body userId := fun removes =>
        away (inv.grounded.own target engine userId present (removed removes))
      exact (inv.known target engine userId present before away).imp id (kept userId spared)
    · have spared : ¬ Tables.Removes message.body userId := by
        intro removes
        cases shape : message.body <;> rw [shape] at introduced removes <;> first | exact introduced | exact removes
      have accounted : cluster.Live (host userId) userId ∨ cluster.Leaving target userId := by
        have learn := rule userId
        cases shape : message.body with
        | userJoined | stateResponse =>
          rw [shape] at learn introduced
          exact learn away unlisted introduced
        | _ =>
          rw [shape] at introduced
          cases introduced
      exact accounted.imp id (kept userId spared)
  · have forget := rule userId
    change Tables.Removes message.body userId at ended
    have announced : cluster.Announced target userId → (cluster.dequeue source target index).Announced target userId :=
      fun all other next different there listed => elsewhere other userId different (all other next different there listed)
    cases shape : message.body with
    | userLeft | evictUser =>
      rw [shape] at forget ended
      exact .inr (announced (forget ended member))
    | userRemove =>
      rw [shape] at ended
      cases ended
      exact .inl (removal_told member (.inr (.inr ⟨message, rfl, shape⟩)))
    | _ =>
      rw [shape] at ended
      cases ended

theorem settled_dequeue (inv : cluster.Settled host) {index : Nat}
    (found : (cluster.link source target)[index]? = some message)
    (lost : ∀ engine, cluster.engine target = some engine → engine.distributedSubscription = false) :
    (cluster.dequeue source target index).Settled host := by
  refine ⟨⟨inv.grounded.deaf, inv.grounded.own, inv.grounded.backed, inv.grounded.joined⟩,
    fun other next userId there listed away => ?_⟩
  have different : other ≠ target := by
    rintro rfl
    exact away (inv.grounded.deaf other next userId there (lost next there) listed)
  refine (inv.known other next userId there listed away).imp id ?_
  rintro ⟨origin, sent, member, removes⟩
  exact ⟨origin, sent, dequeue_link_kept cluster found member fun same => different same.2.1, removes⟩

theorem settled_step {label : Nat × ClusterOp} (inv : cluster.Settled host)
    (placed : UserJoinsOnHost host cluster label) (announces : AnnouncesLeaves host cluster label) :
    (cluster.step label).Settled host := by
  obtain ⟨_, op⟩ := label
  cases op with
  | create node =>
    dsimp only [step]
    cases present : cluster.engine node with
    | none =>
      refine settled_launch inv fun engine found => ?_
      rw [present] at found
      cases found
    | some =>
      dsimp only
      split
      · rename_i ended
        refine settled_launch inv fun other found => ?_
        rw [present] at found
        cases found
        exact ended
      · exact inv
  | call node =>
    dsimp only [step]
    cases present : cluster.engine node with
    | none => exact inv
    | some =>
      dsimp only
      split
      · exact inv
      · rename_i leaves
        exact settled_call inv present (Bool.not_eq_true _ ▸ leaves) placed announces
  | deliver source target index =>
    dsimp only [step]
    cases found : (cluster.link source target)[index]? with
    | none => exact inv
    | some =>
      cases present : cluster.engine target with
      | none =>
        refine settled_dequeue inv found fun engine there => ?_
        rw [present] at there
        cases there
      | some =>
        dsimp only
        split
        · rename_i listening
          exact settled_deliver inv found present listening
            announces
        rename_i lost
        refine settled_dequeue inv found fun other there => ?_
        rw [present] at there
        cases there
        exact Bool.not_eq_true _ ▸ lost

theorem peers_forget_of_settled (host : UserId → NodeId) (cluster : Cluster) (inv : cluster.Settled host) :
    cluster.PeersForget := by
  intro quiet node engine home userId present listed different joins
  obtain rfl := inv.grounded.joined home userId joins
  rcases inv.known node engine userId present (OrderedMap.mem_keys.mp listed) different with
    ⟨joined, there, member⟩ | ⟨source, message, sent, _⟩
  · exact ⟨joined, there, member.running, member.hosted⟩
  · rw [quiet source node] at sent
    cases sent

end Cluster

end PondSocket.Js
