import PondSocket.Go.AssignsUpdate
import PondSocket.Go.Operations
import PondSocket.Library.Places

namespace PondSocket.Go

open Library List OrderedMap Option
open Js (Json UserId NodeId)

-- A goroutine of broadcastAssignsUpdate: when it has read the store it holds what
-- it read, and the place of its read among all reads.
structure AssignsPublisher where
  userId : UserId
  key : String
  value : Json
  snapshot : Option (Nat × Assigns)

structure Snapshot where
  userId : UserId
  place : Nat
  assigns : Assigns
  stamp : Stamp

structure Follower where
  channel : Channel
  handled : Nat

-- The node that hosts the user, with what it has published on the topic after the
-- user's join.
structure AssignsCluster where
  endpoint : String
  host : Channel
  userId : UserId
  joined : Assigns
  joinStamp : Stamp
  publishers : List AssignsPublisher := []
  reads : Nat := 0
  published : List Snapshot := []
  followers : List Follower

inductive AssignsLabel where
  | update (userId : UserId) (key : String) (value : Json)
  | read (place : Nat)
  | publish (place : Nat) (stamp : Stamp)
  | handle (place : Nat) (moment : Moment)

namespace AssignsCluster

def topic (cluster : AssignsCluster) : List Json :=
  (Publication.userJoined cluster.userId cluster.joined).encode cluster.joinStamp cluster.endpoint cluster.host ::
    cluster.published.map fun snapshot =>
      (Publication.assignsUpdate snapshot.userId snapshot.assigns).encode snapshot.stamp cluster.endpoint cluster.host

def update (cluster : AssignsCluster) (userId : UserId) (key : String) (value : Json) : AssignsCluster :=
  let called := cluster.host.updateAssigns userId key value
  { cluster with
    host := called.1
    publishers :=
      if called.2 = none ∧ cluster.host.distributed = true then cluster.publishers ++ [⟨userId, key, value, none⟩]
      else cluster.publishers }

def current (cluster : AssignsCluster) (publisher : AssignsPublisher) : Assigns :=
  match cluster.host.store.read publisher.userId with
  | .ok current => current
  | .error _ => OrderedMap.empty.set publisher.key publisher.value

def read (cluster : AssignsCluster) (place : Nat) : AssignsCluster :=
  match cluster.publishers[place]? with
  | none => cluster
  | some publisher =>
    match publisher.snapshot, cluster.host.checkState with
    | some _, _ => cluster
    | none, some _ => { cluster with publishers := cluster.publishers.eraseIdx place }
    | none, none =>
      { cluster with
        publishers := cluster.publishers.set place
          { publisher with snapshot := some (cluster.reads, cluster.current publisher) }
        reads := cluster.reads + 1 }

def publish (cluster : AssignsCluster) (place : Nat) (stamp : Stamp) : AssignsCluster :=
  match cluster.publishers[place]? with
  | none => cluster
  | some publisher =>
    match publisher.snapshot with
    | none => cluster
    | some (number, assigns) =>
      { cluster with
        publishers := cluster.publishers.eraseIdx place
        published := cluster.published ++ [⟨publisher.userId, number, assigns, stamp⟩] }

def handle (cluster : AssignsCluster) (place : Nat) (moment : Moment) : AssignsCluster :=
  match cluster.followers[place]? with
  | none => cluster
  | some follower =>
    match cluster.topic[follower.handled]? with
    | none => cluster
    | some data =>
      { cluster with
        followers := cluster.followers.set place
          ⟨(follower.channel.onChannelTopic moment data).1, follower.handled + 1⟩ }

def act (cluster : AssignsCluster) : AssignsLabel → AssignsCluster
  | .update userId key value => cluster.update userId key value
  | .read place => cluster.read place
  | .publish place stamp => cluster.publish place stamp
  | .handle place moment => cluster.handle place moment

def Settled (cluster : AssignsCluster) : Prop :=
  cluster.publishers = [] ∧ ∀ follower ∈ cluster.followers, follower.handled = cluster.topic.length

def Replicated (cluster : AssignsCluster) : Prop :=
  ∀ follower ∈ cluster.followers, 0 < follower.handled → ∃ held copy,
    cluster.host.reported cluster.userId = some held ∧ follower.channel.reported cluster.userId = some copy ∧
      ∀ query, copy.get? query = held.get? query

-- No snapshot comes after one of the same user that was read later and has
-- another value for one of its keys.
def InTurn (cluster : AssignsCluster) : AssignsLabel → Prop
  | .publish place _ => ∀ publisher ∈ cluster.publishers[place]?, ∀ snapshot ∈ publisher.snapshot,
      ∀ sent ∈ cluster.published, sent.userId = publisher.userId → snapshot.1 < sent.place →
        ∀ entry ∈ snapshot.2.entries, sent.assigns.get? entry.1 = some entry.2
  | _ => True

end AssignsCluster

namespace Channel

theorem snapshot_handled (channel : Channel) {host : Channel} {moment : Moment} {stamp : Stamp} {endpoint : String}
    {userId : UserId} {assigns : Assigns} (running : channel.done = false) (foreign : host.nodeId ≠ channel.nodeId) :
    (channel.onChannelTopic moment ((Publication.assignsUpdate userId assigns).encode stamp endpoint host)).1 =
      if userId = "" then channel
      else
        match channel.store.read userId with
        | .ok existing => { channel with store := channel.store.after (channel.store.update userId (existing.merge assigns)) }
        | .error _ => { channel with
            remoteAssigns := channel.remoteAssigns.set userId
              (((channel.remoteAssigns.get? userId).getD .empty).merge assigns) } := by
  have decoded := DistributedEnvelope.decode_marshal
    { newEnvelope .assignsUpdate host.name host.nodeId with userId := userId, assigns := .object assigns.entries }
    stamp endpoint rfl
  have check : channel.checkState = none := by
    rw [checkState, running]
    rfl
  simp only [onChannelTopic, check, handleDistributedMessage, Publication.encode, encodeAssignsUpdate, decoded]
  simp only [newEnvelope, if_neg foreign, handleEnvelope, eventFromEnvelope, handleEvent, handleRemoteAssignsEvent]
  have named : textAtEither (.object [("userId", .string userId), ("assigns", .object assigns.entries)]) "userId"
      "UserID" = userId := by
    change (if userId = "" then "" else userId) = userId
    by_cases empty : userId = ""
    · rw [if_pos empty, empty]
    · rw [if_neg empty]
  have given : (asMap (index (.object [("userId", .string userId), ("assigns", .object assigns.entries)]) "assigns")).or
      (asMap (index (.object [("userId", .string userId), ("assigns", .object assigns.entries)]) "Assigns")) =
      some assigns := by
    change some (ofList assigns.entries) = some assigns
    rw [of_list_entries]
  rw [named, given]
  by_cases empty : userId = ""
  · rw [if_pos empty, if_pos empty]
  cases channel.store.read userId with
  | ok | error => rfl

structure Follows (channel host : Channel) (userId : UserId) : Prop where
  running : channel.done = false
  distributed : channel.distributed = true
  foreign : host.nodeId ≠ channel.nodeId
  absent : channel.store.has userId = false

theorem follows_snapshot (channel : Channel) {host : Channel} {moment : Moment} {stamp : Stamp} {endpoint : String}
    {userId other : UserId} {assigns : Assigns} (named : userId ≠ "") (follows : channel.Follows host userId) :
    (channel.onChannelTopic moment ((Publication.assignsUpdate other assigns).encode stamp endpoint host)).1.Follows host
        userId ∧
      (channel.onChannelTopic moment
          ((Publication.assignsUpdate other assigns).encode stamp endpoint host)).1.remoteAssigns.get? userId =
        if other = userId then some (((channel.remoteAssigns.get? userId).getD .empty).merge assigns)
        else channel.remoteAssigns.get? userId := by
  rw [channel.snapshot_handled follows.running follows.foreign]
  by_cases same : other = userId
  · rw [if_pos same, same, if_neg named]
    cases read : channel.store.read userId with
    | ok =>
      have present := channel.store.read_has read
      rw [follows.absent] at present
      cases present
    | error => exact ⟨⟨follows.running, follows.distributed, follows.foreign, follows.absent⟩,
        get_set_same⟩
  · rw [if_neg same]
    by_cases empty : other = ""
    · rw [if_pos empty]
      exact ⟨follows, rfl⟩
    rw [if_neg empty]
    cases channel.store.read other with
    | ok =>
      refine ⟨⟨follows.running, follows.distributed, follows.foreign, ?_⟩, rfl⟩
      rw [Store.has_update]
      exact follows.absent
    | error =>
      refine ⟨⟨follows.running, follows.distributed, follows.foreign, follows.absent⟩, ?_⟩
      exact get_set_other fun equal => same equal.symm

theorem follows_joined (channel : Channel) {host : Channel} {moment : Moment} {stamp : Stamp} {endpoint : String}
    {userId : UserId} {assigns : Assigns} (named : userId ≠ "") (follows : channel.Follows host userId) :
    (channel.onChannelTopic moment ((Publication.userJoined userId assigns).encode stamp endpoint host)).1.Follows host
        userId ∧
      (channel.onChannelTopic moment
          ((Publication.userJoined userId assigns).encode stamp endpoint host)).1.remoteAssigns.get? userId =
        some assigns := by
  have decoded := DistributedEnvelope.decode_marshal
    { newEnvelope .userJoined host.name host.nodeId with
      userId := userId, presence := .object [], assigns := .object assigns.entries } stamp endpoint rfl
  have check : channel.checkState = none := by
    rw [checkState, follows.running]
    rfl
  obtain ⟨_, read⟩ := read_missing follows.absent
  have handled : (channel.onChannelTopic moment ((Publication.userJoined userId assigns).encode stamp endpoint host)).1 =
      ((channel.setRemoteAssigns userId assigns).adoptPresence userId (.object [])).trackNodeUser moment.now host.nodeId
        userId := by
    simp only [onChannelTopic, check, handleDistributedMessage, Publication.encode, encodeUserJoined, decoded]
    simp only [newEnvelope, if_neg follows.foreign, handleEnvelope, handleRemoteUserJoined, if_neg named, read, asMap,
      getD_some, of_list_entries]
  rw [handled, track_frame, adopt_frame]
  exact ⟨⟨follows.running, follows.distributed, follows.foreign, follows.absent⟩, get_set_same⟩

theorem update_entry (channel : Channel) {userId : UserId} (other : UserId) (key : String) (value : Json) {held : Assigns}
    (running : channel.done = false) (distributed : channel.distributed = true)
    (hosted : channel.store.store.get? userId = some held) :
    (channel.updateAssigns other key value).2 = none ∧ (channel.updateAssigns other key value).1 = { channel with
        store := (channel.updateAssigns other key value).1.store } ∧
      (channel.updateAssigns other key value).1.store.store.get? userId =
        some (if other = userId then held.set key value else held) := by
  have check : channel.checkState = none := by
    rw [checkState, running]
    rfl
  simp only [updateAssigns, check]
  cases read : channel.store.read other with
  | error =>
    dsimp only
    rw [if_pos distributed, if_neg]
    · exact ⟨rfl, rfl, hosted⟩
    intro same
    rw [same, channel.store.read_ok.mpr hosted] at read
    cases read
  | ok =>
    have present := channel.store.read_has read
    simp only [Store.update, if_pos present]
    refine ⟨True.intro, True.intro, ?_⟩
    by_cases same : other = userId
    · rw [same, channel.store.read_ok.mpr hosted] at read
      cases read
      rw [if_pos same, same]
      exact get_set_same
    · rw [if_neg same, get_set_other fun equal => same equal.symm]
      exact hosted

theorem created_host (channel : Channel) {user : Transport} (created : (channel.createUser user).2 = none) :
    (channel.createUser user).1.done = false ∧ (channel.createUser user).1.distributed = channel.distributed ∧
      (channel.createUser user).1.nodeId = channel.nodeId ∧
        (channel.createUser user).1.store.store.get? user.id = some (user.assigns.getD .empty) := by
  simp only [createUser] at created ⊢
  by_cases inactive : (channel.newChannelMembership user).active channel.issued.length = false
  · rw [if_pos inactive] at created
    cases created
  rw [if_neg inactive] at created ⊢
  have running : channel.done = false := by
    simp only [active, newChannelMembership, getElem?_concat_length, Bool.and_eq_false_iff, not_or,
      Bool.not_eq_false'] at inactive
    exact Bool.eq_false_iff.mpr inactive.1.1
  cases stored : (channel.newChannelMembership user).store.create user.id (user.assigns.getD .empty) with
  | error =>
    rw [stored] at created
    cases created
  | ok store =>
    have entry : store.store.get? user.id = some (user.assigns.getD .empty) := by
      simp only [Store.create] at stored
      split at stored
      · cases stored
      · cases stored
        exact get_set_same
    rw [stored] at created
    cases connected : (channel.newChannelMembership user).connections.create user.id user with
    | error =>
      rw [connected] at created
      cases created
    | ok =>
      rw [connected] at created
      cases member : (channel.newChannelMembership user).memberships.create user.id channel.issued.length with
      | error =>
        rw [member] at created
        cases created
      | ok =>
        dsimp only
        rw [publish_frame]
        exact ⟨running, rfl, rfl, entry⟩

theorem joined_host (channel : Channel) {user : Transport} (joins : (channel.addUser user).2 = none) :
    (channel.addUser user).1.done = false ∧ (channel.addUser user).1.distributed = channel.distributed ∧
      (channel.addUser user).1.nodeId = channel.nodeId ∧
        (channel.addUser user).1.store.store.get? user.id = some (user.assigns.getD .empty) := by
  simp only [addUser] at joins ⊢
  cases check : channel.checkState with
  | some =>
    rw [check] at joins
    cases joins
  | none =>
    rw [check] at joins
    cases read : channel.memberships.read user.id with
    | error =>
      rw [read] at joins
      exact channel.created_host joins
    | ok existing =>
      rw [read] at joins
      dsimp only at joins ⊢
      by_cases alive : channel.active existing = true
      · rw [if_pos alive] at joins
        cases joins
      rw [if_neg alive] at joins ⊢
      obtain ⟨running, distributed, node, stored⟩ := created_host _ joins
      have frame := (remove_gone channel user.id (channel.reason existing) false).rest
      refine ⟨running, distributed.trans ?_, node.trans ?_, stored⟩
      · rw [frame]
      · rw [frame]

end Channel

namespace AssignsCluster

variable (cluster : AssignsCluster)

variable (place : Nat)

def adopt (cluster : AssignsCluster) (held : Assigns) (snapshot : Snapshot) : Assigns :=
  if snapshot.userId = cluster.userId then held.merge snapshot.assigns else held

def merged (cluster : AssignsCluster) (count : Nat) : Assigns :=
  (cluster.published.take count).foldl cluster.adopt cluster.joined

def held (cluster : AssignsCluster) : Assigns := (cluster.host.store.store.get? cluster.userId).getD .empty

def Taken (cluster : AssignsCluster) (place : Nat) (assigns : Assigns) : Prop :=
  (∃ publisher ∈ cluster.publishers, publisher.userId = cluster.userId ∧ publisher.snapshot = some (place, assigns)) ∨
    ∃ snapshot ∈ cluster.published, snapshot.userId = cluster.userId ∧ snapshot.place = place ∧
      snapshot.assigns = assigns

-- Keys are never taken from a user's assigns, so a later read has those of an
-- earlier one.
structure Reads (cluster : AssignsCluster) : Prop where
  below : ∀ place assigns, cluster.Taken place assigns → place < cluster.reads
  single : ∀ place first second, cluster.Taken place first → cluster.Taken place second → first = second
  grows : ∀ place later first second, cluster.Taken place first → cluster.Taken later second → place < later →
    ∀ key, first.has key = true → second.has key = true
  within : ∀ place assigns, cluster.Taken place assigns → ∀ key, assigns.has key = true → cluster.held.has key = true
  joined : ∀ place assigns, cluster.Taken place assigns → ∀ key, cluster.joined.has key = true → assigns.has key = true

def Front (cluster : AssignsCluster) : Prop :=
  (∀ snapshot ∈ cluster.published, snapshot.userId ≠ cluster.userId) ∨
    ∃ latest ∈ cluster.published, latest.userId = cluster.userId ∧
      (∀ snapshot ∈ cluster.published, snapshot.userId = cluster.userId → snapshot.place ≤ latest.place) ∧
      ∀ query, (cluster.merged cluster.published.length).get? query = latest.assigns.get? query

def Latest (cluster : AssignsCluster) : Prop :=
  (∃ publisher ∈ cluster.publishers, publisher.userId = cluster.userId ∧ publisher.snapshot = none) ∨
    (∃ place assigns, cluster.Taken place assigns ∧ (∀ other second, cluster.Taken other second → other ≤ place) ∧
      ∀ query, cluster.held.get? query = assigns.get? query) ∨
    ((∀ place assigns, ¬ cluster.Taken place assigns) ∧ ∀ query, cluster.held.get? query = cluster.joined.get? query)

structure Keeps (cluster : AssignsCluster) (follower : Follower) : Prop where
  follows : follower.channel.Follows cluster.host cluster.userId
  inside : follower.handled ≤ cluster.published.length + 1
  copied : 0 < follower.handled → ∃ copy, follower.channel.remoteAssigns.get? cluster.userId = some copy ∧
    ∀ query, copy.get? query = (cluster.merged (follower.handled - 1)).get? query

structure Faithful (cluster : AssignsCluster) : Prop where
  running : cluster.host.done = false
  distributed : cluster.host.distributed = true
  named : cluster.userId ≠ ""
  hosted : cluster.host.store.store.get? cluster.userId = some cluster.held
  lasting : ∀ key, cluster.joined.has key = true → cluster.held.has key = true
  followers : ∀ follower ∈ cluster.followers, cluster.Keeps follower
  reads : cluster.Reads
  front : cluster.Front
  latest : cluster.Latest

theorem has_set_kept {map : Assigns} {key query : String} {value : Json} (has : map.has query = true) :
    (map.set key value).has query = true :=
  has_set.mpr (.inr has)

theorem merge_all {map other : Assigns} (keys : ∀ key, map.has key = true → other.has key = true) {query : String} :
    (map.merge other).get? query = other.get? query := by
  rw [OrderedMap.get_merge]
  cases given : other.get? query with
  | some => rfl
  | none =>
    cases had : map.get? query with
    | none => rfl
    | some value =>
      have present := keys query (has_iff.mpr ⟨value, had⟩)
      rw [has_false_iff.mpr given] at present
      cases present

theorem adopt_others {snapshots : List Snapshot}
    (others : ∀ snapshot ∈ snapshots, snapshot.userId ≠ cluster.userId) :
    snapshots.foldl cluster.adopt cluster.joined = cluster.joined := by
  induction snapshots with
  | nil => rfl
  | cons first _ ih =>
    rw [foldl_cons, adopt, if_neg (others first mem_cons_self)]
    exact ih fun snapshot later => others snapshot (mem_cons_of_mem _ later)

theorem topic_length : cluster.topic.length = cluster.published.length + 1 := by
  rw [topic, length_cons, length_map]

theorem faithful_update {userId : UserId} {key : String} {value : Json}
    (faithful : cluster.Faithful) : (cluster.update userId key value).Faithful := by
  obtain ⟨returned, same, entry⟩ := cluster.host.update_entry userId key value
    faithful.running faithful.distributed faithful.hosted
  have started : (cluster.update userId key value).publishers = cluster.publishers ++ [⟨userId, key, value, none⟩] := by
    simp only [update, returned, faithful.distributed, and_self, if_true]
  have now : (cluster.update userId key value).held =
      if userId = cluster.userId then cluster.held.set key value else cluster.held := by
    change ((cluster.host.updateAssigns userId key value).1.store.store.get? cluster.userId).getD .empty = _
    rw [entry]
    rfl
  have kept : ∀ query, cluster.held.has query = true → (cluster.update userId key value).held.has query = true := by
    intro query has
    rw [now]
    split
    · exact has_set_kept has
    · exact has
  have taken : ∀ place assigns, (cluster.update userId key value).Taken place assigns → cluster.Taken place assigns := by
    intro place assigns known
    rcases known with ⟨publisher, member, own, snapshot⟩ | sent
    · rw [started] at member
      rcases mem_append.mp member with before | last
      · exact .inl ⟨publisher, before, own, snapshot⟩
      · rw [mem_singleton.mp last] at snapshot
        cases snapshot
    · exact .inr sent
  have still : ∀ place assigns, cluster.Taken place assigns → (cluster.update userId key value).Taken place assigns := by
    intro place assigns known
    rcases known with ⟨publisher, member, rest⟩ | sent
    · refine .inl ⟨publisher, ?_, rest⟩
      rw [started]
      exact mem_append_left _ member
    · exact .inr sent
  refine ⟨?_, ?_, faithful.named, ?_, ?_, ?_, ?_, faithful.front, ?_⟩
  · change (cluster.host.updateAssigns userId key value).1.done = false
    rw [same]
    exact faithful.running
  · change (cluster.host.updateAssigns userId key value).1.distributed = true
    rw [same]
    exact faithful.distributed
  · rw [now]
    exact entry
  · exact fun query had => kept query (faithful.lasting query had)
  · intro follower member
    have keeps := faithful.followers follower member
    refine ⟨⟨keeps.follows.running, keeps.follows.distributed, ?_, keeps.follows.absent⟩, keeps.inside, keeps.copied⟩
    change (cluster.host.updateAssigns userId key value).1.nodeId ≠ _
    rw [same]
    exact keeps.follows.foreign
  · refine ⟨?_, ?_, ?_, ?_, ?_⟩
    · exact fun place assigns known => faithful.reads.below place assigns (taken place assigns known)
    · exact fun place first second one two =>
        faithful.reads.single place first second (taken place first one) (taken place second two)
    · exact fun place later first second one two =>
        faithful.reads.grows place later first second (taken place first one) (taken later second two)
    · exact fun place assigns known query has =>
        kept query (faithful.reads.within place assigns (taken place assigns known) query has)
    · exact fun place assigns known => faithful.reads.joined place assigns (taken place assigns known)
  · by_cases own : userId = cluster.userId
    · refine .inl ⟨⟨userId, key, value, none⟩, ?_, own, rfl⟩
      rw [started]
      exact mem_append_right _ (mem_singleton_self _)
    · rw [if_neg own] at now
      rcases faithful.latest with ⟨publisher, member, rest⟩ | ⟨place, assigns, known, last, alike⟩ | ⟨nothing, alike⟩
      · refine .inl ⟨publisher, ?_, rest⟩
        rw [started]
        exact mem_append_left _ member
      · refine .inr (.inl ⟨place, assigns, still place assigns known, ?_, ?_⟩)
        · exact fun other second held => last other second (taken other second held)
        · rw [now]
          exact alike
      · refine .inr (.inr ⟨fun place assigns known => nothing place assigns (taken place assigns known), ?_⟩)
        rw [now]
        exact alike

theorem faithful_read (faithful : cluster.Faithful) :
    (cluster.read place).Faithful := by
  have check : cluster.host.checkState = none := by
    rw [Channel.checkState, faithful.running]
    rfl
  simp only [read, check]
  cases there : cluster.publishers[place]? with
  | none => exact faithful
  | some publisher =>
    dsimp only
    cases unread : publisher.snapshot with
    | some => exact faithful
    | none =>
      -- A read of another user's assigns is not one of this user's.
      have taken : ∀ number assigns, Taken { cluster with
          publishers := cluster.publishers.set place
            { publisher with snapshot := some (cluster.reads, cluster.current publisher) }
          reads := cluster.reads + 1 } number assigns →
          cluster.Taken number assigns ∨ publisher.userId = cluster.userId ∧ number = cluster.reads ∧
            assigns = cluster.held := by
        intro number assigns known
        rcases known with ⟨other, member, own, snapshot⟩ | sent
        · rcases mem_or_eq_of_mem_set member with before | rfl
          · exact .inl (.inl ⟨other, before, own, snapshot⟩)
          · have user : publisher.userId = cluster.userId := own
            have value : cluster.current publisher = cluster.held := by
              rw [current, user, cluster.host.store.read_ok.mpr faithful.hosted]
            cases snapshot
            exact .inr ⟨user, rfl, value⟩
        · exact .inl (.inr sent)
      have still : ∀ number assigns, cluster.Taken number assigns → Taken { cluster with
          publishers := cluster.publishers.set place
            { publisher with snapshot := some (cluster.reads, cluster.current publisher) }
          reads := cluster.reads + 1 } number assigns := by
        intro number assigns known
        rcases known with ⟨other, member, own, snapshot⟩ | sent
        · obtain ⟨index, held⟩ := mem_iff_getElem?.mp member
          have different : place ≠ index := by
            intro same
            rw [← same, there] at held
            rw [← some.inj held, unread] at snapshot
            cases snapshot
          refine .inl ⟨other, mem_of_getElem? (i := index) ?_, own, snapshot⟩
          rw [getElem?_set_ne different]
          exact held
        · exact .inr sent
      refine ⟨faithful.running, faithful.distributed, faithful.named, faithful.hosted, faithful.lasting, ?_, ?_,
        faithful.front, ?_⟩
      · intro follower member
        have keeps := faithful.followers follower member
        exact ⟨keeps.follows, keeps.inside, keeps.copied⟩
      · refine ⟨?_, ?_, ?_, ?_, ?_⟩
        · intro number assigns known
          rcases taken number assigns known with before | ⟨_, same, _⟩
          · exact Nat.lt_succ_of_lt (faithful.reads.below number assigns before)
          · rw [same]
            exact Nat.lt_succ_self _
        · intro number first second one two
          rcases taken number first one with left | ⟨_, fresh, value⟩
          · rcases taken number second two with right | ⟨_, fresh, _⟩
            · exact faithful.reads.single number first second left right
            · have below := faithful.reads.below number first left
              omega
          rcases taken number second two with right | ⟨_, _, other⟩
          · have below := faithful.reads.below number second right
            omega
          · rw [value, other]
        · intro number later first second one two before query has
          rcases taken number first one with left | ⟨_, _, _⟩
          · rcases taken later second two with right | ⟨_, _, value⟩
            · exact faithful.reads.grows number later first second left right before query has
            · rw [value]
              exact faithful.reads.within number first left query has
          rcases taken later second two with right | ⟨_, same, _⟩
          · have below := faithful.reads.below later second right
            omega
          · omega
        · intro number assigns known query has
          rcases taken number assigns known with before | ⟨_, _, value⟩
          · exact faithful.reads.within number assigns before query has
          · rw [value] at has
            exact has
        · intro number assigns known query had
          rcases taken number assigns known with before | ⟨_, _, value⟩
          · exact faithful.reads.joined number assigns before query had
          · rw [value]
            exact faithful.lasting query had
      · by_cases own : publisher.userId = cluster.userId
        · refine .inr (.inl ⟨cluster.reads, cluster.current publisher,
            .inl ⟨{ publisher with snapshot := some (cluster.reads, cluster.current publisher) }, ?_, own, rfl⟩, ?_, ?_⟩)
          · exact List.mem_set (List.getElem?_eq_some_iff.mp there).1 _
          · intro other second known
            rcases taken other second known with before | ⟨_, same, _⟩
            · exact Nat.le_of_lt (faithful.reads.below other second before)
            · exact Nat.le_of_eq same
          · intro query
            rw [current, own, cluster.host.store.read_ok.mpr faithful.hosted]
            rfl
        · rcases faithful.latest with ⟨other, member, user, waiting⟩ | ⟨number, assigns, known, last, alike⟩ |
            ⟨nothing, alike⟩
          · obtain ⟨index, held⟩ := mem_iff_getElem?.mp member
            have different : place ≠ index := by
              intro same
              rw [← same, there] at held
              rw [← some.inj held] at user
              exact own user
            refine .inl ⟨other, mem_of_getElem? (i := index) ?_, user, waiting⟩
            rw [getElem?_set_ne different]
            exact held
          · refine .inr (.inl ⟨number, assigns, still number assigns known, ?_, alike⟩)
            intro other second also
            rcases taken other second also with before | ⟨user, _, _⟩
            · exact last other second before
            · exact absurd user own
          · refine .inr (.inr ⟨fun number assigns known => ?_, alike⟩)
            rcases taken number assigns known with before | ⟨user, _, _⟩
            · exact nothing number assigns before
            · exact own user

theorem front_publish {publisher : AssignsPublisher} {number : Nat} {assigns : Assigns}
    {stamp : Stamp} (own : publisher.userId = cluster.userId) (known : cluster.Taken number assigns)
    (turn : ∀ sent ∈ cluster.published, sent.userId = cluster.userId → number < sent.place →
      ∀ entry ∈ assigns.entries, sent.assigns.get? entry.1 = some entry.2)
    {publishers : List AssignsPublisher} (faithful : cluster.Faithful) :
    Front { cluster with
      publishers := publishers
      published := cluster.published ++ [⟨publisher.userId, number, assigns, stamp⟩] } := by
  have next : ∀ query, (merged { cluster with
      publishers := publishers
      published := cluster.published ++ [⟨publisher.userId, number, assigns, stamp⟩] }
      (cluster.published ++ [(⟨publisher.userId, number, assigns, stamp⟩ : Snapshot)]).length).get? query =
      ((cluster.merged cluster.published.length).merge assigns).get? query := by
    intro query
    rw [merged, merged, take_length, take_length, foldl_append]
    change (if publisher.userId = cluster.userId then
      (cluster.published.foldl cluster.adopt cluster.joined).merge assigns else _).get? query = _
    rw [if_pos own]
  right
  rcases faithful.front with nothing | ⟨latest, member, user, last, alike⟩
  · refine ⟨⟨publisher.userId, number, assigns, stamp⟩, mem_append_right _ (mem_singleton_self _), own, ?_, ?_⟩
    · intro snapshot listed same
      rcases mem_append.mp listed with before | fresh
      · exact absurd same (nothing snapshot before)
      · rw [mem_singleton.mp fresh]
    · intro query
      rw [next]
      have plain : cluster.merged cluster.published.length = cluster.joined := by
        rw [merged, take_length]
        exact adopt_others cluster nothing
      rw [plain]
      exact merge_all (faithful.reads.joined number assigns known)
  · have sent : cluster.Taken latest.place latest.assigns := .inr ⟨latest, member, user, rfl, rfl⟩
    rcases Nat.lt_trichotomy latest.place number with older | same | newer
    · refine ⟨⟨publisher.userId, number, assigns, stamp⟩, mem_append_right _ (mem_singleton_self _), own, ?_, ?_⟩
      · intro snapshot listed equal
        rcases mem_append.mp listed with before | fresh
        · exact Nat.le_trans (last snapshot before equal) (Nat.le_of_lt older)
        · rw [mem_singleton.mp fresh]
      · intro query
        rw [next]
        refine merge_all (fun key has => ?_)
        apply faithful.reads.grows latest.place number latest.assigns assigns sent known older key
        obtain ⟨value, found⟩ := has_iff.mp has
        rw [alike] at found
        exact has_iff.mpr ⟨value, found⟩
    · refine ⟨latest, mem_append_left _ member, user, ?_, ?_⟩
      · intro snapshot listed equal
        rcases mem_append.mp listed with before | fresh
        · exact last snapshot before equal
        · rw [mem_singleton.mp fresh]
          exact Nat.le_of_eq same.symm
      · intro query
        have value : assigns = latest.assigns :=
          faithful.reads.single number assigns latest.assigns known (same ▸ sent)
        rw [next, OrderedMap.get_merge, alike, value]
        cases latest.assigns.get? query <;> rfl
    · refine ⟨latest, mem_append_left _ member, user, ?_, ?_⟩
      · intro snapshot listed equal
        rcases mem_append.mp listed with before | fresh
        · exact last snapshot before equal
        · rw [mem_singleton.mp fresh]
          exact Nat.le_of_lt newer
      · intro query
        rw [next, OrderedMap.get_merge, alike]
        cases given : assigns.get? query with
        | none => rfl
        | some value =>
          have entry := mem_entries.mpr given
          rw [turn latest member user newer (query, value) entry]
          rfl

theorem faithful_publish {stamp : Stamp}
    (turn : cluster.InTurn (.publish place stamp)) (faithful : cluster.Faithful) :
    (cluster.publish place stamp).Faithful := by
  simp only [publish]
  cases there : cluster.publishers[place]? with
  | none => exact faithful
  | some publisher =>
    dsimp only
    cases read : publisher.snapshot with
    | none => exact faithful
    | some snapshot =>
      obtain ⟨number, assigns⟩ := snapshot
      have listed : publisher ∈ cluster.publishers := mem_of_getElem? there
      have taken : ∀ other second, Taken { cluster with
          publishers := cluster.publishers.eraseIdx place
          published := cluster.published ++ [⟨publisher.userId, number, assigns, stamp⟩] } other second ↔
          cluster.Taken other second := by
        intro other second
        constructor
        · intro known
          rcases known with ⟨one, member, rest⟩ | ⟨sent, member, own, at', value⟩
          · exact .inl ⟨one, mem_of_mem_eraseIdx member, rest⟩
          rcases mem_append.mp member with before | last
          · exact .inr ⟨sent, before, own, at', value⟩
          rw [mem_singleton.mp last] at own at' value
          refine .inl ⟨publisher, listed, own, ?_⟩
          rw [read, ← show number = other from at', ← show assigns = second from value]
        · intro known
          rcases known with ⟨one, member, own, snapshot⟩ | ⟨sent, member, rest⟩
          · rcases mem_erase_or there member with rfl | left
            · rw [read] at snapshot
              cases snapshot
              exact .inr ⟨_, mem_append_right _ (mem_singleton_self _), own, rfl, rfl⟩
            · exact .inl ⟨one, left, own, snapshot⟩
          · exact .inr ⟨sent, mem_append_left _ member, rest⟩
      refine ⟨faithful.running, faithful.distributed, faithful.named, faithful.hosted, faithful.lasting, ?_, ?_, ?_, ?_⟩
      · intro follower member
        have keeps := faithful.followers follower member
        refine ⟨keeps.follows, ?_, ?_⟩
        · have inside := keeps.inside
          rw [length_append]
          exact Nat.le_succ_of_le inside
        intro handled
        have inside := keeps.inside
        obtain ⟨copy, found, alike⟩ := keeps.copied handled
        refine ⟨copy, found, fun query => ?_⟩
        rw [alike, merged, merged, take_append_of_le_length (by omega)]
        rfl
      · refine ⟨?_, ?_, ?_, ?_, ?_⟩
        · exact fun other second known => faithful.reads.below other second ((taken other second).mp known)
        · exact fun other first second one two =>
            faithful.reads.single other first second ((taken other first).mp one) ((taken other second).mp two)
        · exact fun other later first second one two =>
            faithful.reads.grows other later first second ((taken other first).mp one) ((taken later second).mp two)
        · exact fun other second known => faithful.reads.within other second ((taken other second).mp known)
        · exact fun other second known => faithful.reads.joined other second ((taken other second).mp known)
      · by_cases own : publisher.userId = cluster.userId
        · apply front_publish cluster own (.inl ⟨publisher, listed, own, read⟩) _ faithful
          intro sent member user later entry held
          exact turn publisher there (number, assigns) read sent member (user.trans own.symm) later entry held
        · have plain : merged { cluster with
              publishers := cluster.publishers.eraseIdx place
              published := cluster.published ++ [⟨publisher.userId, number, assigns, stamp⟩] }
              (cluster.published ++ [(⟨publisher.userId, number, assigns, stamp⟩ : Snapshot)]).length =
              cluster.merged cluster.published.length := by
            rw [merged, merged, take_length, take_length, foldl_append]
            exact if_neg own
          rcases faithful.front with nothing | ⟨latest, member, user, last, alike⟩
          · refine .inl fun snapshot present => ?_
            rcases mem_append.mp present with before | fresh
            · exact nothing snapshot before
            · rw [mem_singleton.mp fresh]
              exact own
          refine .inr ⟨latest, mem_append_left _ member, user, fun snapshot present same => ?_, ?_⟩
          · rcases mem_append.mp present with before | fresh
            · exact last snapshot before same
            · rw [mem_singleton.mp fresh] at same
              exact absurd same own
          intro query
          rw [plain]
          exact alike query
      · rcases faithful.latest with ⟨one, member, user, waiting⟩ | ⟨other, second, known, last, alike⟩ | ⟨nothing, alike⟩
        · rcases mem_erase_or there member with rfl | left
          · rw [read] at waiting
            cases waiting
          · exact .inl ⟨one, left, user, waiting⟩
        · exact .inr (.inl ⟨other, second, (taken other second).mpr known,
            fun one two also => last one two ((taken one two).mp also), alike⟩)
        · exact .inr (.inr ⟨fun other second known => nothing other second ((taken other second).mp known), alike⟩)

theorem faithful_handle {moment : Moment} (faithful : cluster.Faithful) :
    (cluster.handle place moment).Faithful := by
  simp only [handle]
  cases there : cluster.followers[place]? with
  | none => exact faithful
  | some follower =>
    dsimp only
    cases next : cluster.topic[follower.handled]? with
    | none => exact faithful
    | some data =>
      have keeps := faithful.followers follower (mem_of_getElem? there)
      have inside := (List.getElem?_eq_some_iff.mp next).1
      rw [topic_length] at inside
      have kept : cluster.Keeps ⟨(follower.channel.onChannelTopic moment data).1, follower.handled + 1⟩ := by
        cases number : follower.handled with
        | zero =>
          rw [number, topic, getElem?_cons_zero] at next
          obtain rfl := some.inj next
          obtain ⟨follows, copied⟩ := follower.channel.follows_joined faithful.named keeps.follows
          exact ⟨follows, Nat.succ_le_succ (Nat.zero_le _), fun _ => ⟨cluster.joined, copied, fun _ => rfl⟩⟩
        | succ count =>
          rw [number, topic, getElem?_cons_succ, getElem?_map, map_eq_some_iff] at next
          obtain ⟨snapshot, held, rfl⟩ := next
          obtain ⟨follows, copied⟩ := follower.channel.follows_snapshot faithful.named keeps.follows
          obtain ⟨copy, found, alike⟩ := keeps.copied (by rw [number]; exact Nat.succ_pos count)
          rw [number, Nat.add_sub_cancel] at alike
          have step : cluster.merged (count + 1) = cluster.adopt (cluster.merged count) snapshot := by
            rw [merged, merged, take_add_one, held, foldl_append]
            rfl
          rw [number] at inside
          refine ⟨follows, inside, fun _ => ?_⟩
          rw [copied, found]
          rw [Nat.add_sub_cancel, step, adopt]
          split
          · refine ⟨copy.merge snapshot.assigns, rfl, fun query => ?_⟩
            rw [OrderedMap.get_merge, OrderedMap.get_merge, alike]
          · exact ⟨copy, rfl, alike⟩
      refine ⟨faithful.running, faithful.distributed, faithful.named, faithful.hosted, faithful.lasting, ?_,
        ⟨faithful.reads.below, faithful.reads.single, faithful.reads.grows, faithful.reads.within,
          faithful.reads.joined⟩, faithful.front, faithful.latest⟩
      intro other member
      rcases mem_or_eq_of_mem_set member with before | rfl
      · have old := faithful.followers other before
        exact ⟨old.follows, old.inside, old.copied⟩
      · exact ⟨kept.follows, kept.inside, kept.copied⟩

theorem faithful_act (label : AssignsLabel) (faithful : cluster.Faithful)
    (turn : cluster.InTurn label) : (cluster.act label).Faithful := by
  cases label with
  | update => exact faithful_update cluster faithful
  | read place => exact faithful_read cluster place faithful
  | publish place => exact faithful_publish cluster place turn faithful
  | handle place => exact faithful_handle cluster place faithful

theorem faithful_replicated (faithful : cluster.Faithful) (settled : cluster.Settled) :
    cluster.Replicated := by
  obtain ⟨ended, handled⟩ := settled
  have alike : ∀ query, (cluster.merged cluster.published.length).get? query = cluster.held.get? query := by
    intro query
    rcases faithful.latest with ⟨publisher, member, _⟩ | ⟨place, assigns, known, last, same⟩ | ⟨nothing, same⟩
    · rw [ended] at member
      cases member
    · rcases known with ⟨_, member, _⟩ | ⟨sent, member, own, at', value⟩
      · rw [ended] at member
        cases member
      · rcases faithful.front with none_sent | ⟨latest, listed, user, front, copied⟩
        · exact absurd own (none_sent sent member)
        · have sentTaken : cluster.Taken place assigns := .inr ⟨sent, member, own, at', value⟩
          have latestTaken : cluster.Taken latest.place latest.assigns := .inr ⟨latest, listed, user, rfl, rfl⟩
          have above := front sent member own
          have below := last latest.place latest.assigns latestTaken
          have equal : latest.place = place := by omega
          rw [equal] at latestTaken
          rw [copied, same, faithful.reads.single place latest.assigns assigns latestTaken sentTaken]
    · rcases faithful.front with none_sent | ⟨latest, listed, user, _, _⟩
      · rw [same, merged, take_length]
        rw [adopt_others cluster none_sent]
      · exact absurd (.inr ⟨latest, listed, user, rfl, rfl⟩) (nothing latest.place latest.assigns)
  intro follower member joined
  have keeps := faithful.followers follower member
  obtain ⟨copy, found, copied⟩ := keeps.copied joined
  refine ⟨cluster.held, copy, ?_, ?_, fun query => ?_⟩
  · rw [Channel.reported_eq _ faithful.running faithful.distributed, faithful.hosted, some_or]
  · rw [Channel.reported_eq _ keeps.follows.running keeps.follows.distributed,
      has_false_iff.mp keeps.follows.absent, none_or]
    exact found
  · rw [copied, handled follower member, topic_length, Nat.add_sub_cancel]
    exact alike query

def start (endpoint : String) (channel : Channel) (user : Transport) (joinStamp : Stamp) (others : List Channel) :
    AssignsCluster where
  endpoint := endpoint
  host := (channel.addUser user).1
  userId := user.id
  joined := user.assigns.getD .empty
  joinStamp := joinStamp
  followers := others.map fun other => ⟨other, 0⟩

theorem faithful_start {endpoint : String} {channel : Channel} {user : Transport} {joinStamp : Stamp}
    {others : List Channel} (named : user.id ≠ "") (distributed : channel.distributed = true)
    (joins : (channel.addUser user).2 = none) (follow : ∀ other ∈ others, other.Follows channel user.id) :
    (start endpoint channel user joinStamp others).Faithful := by
  obtain ⟨running, shared, node, stored⟩ := channel.joined_host joins
  have held : (start endpoint channel user joinStamp others).held = user.assigns.getD .empty := by
    change ((channel.addUser user).1.store.store.get? user.id).getD .empty = _
    rw [stored]
    rfl
  have nothing : ∀ place assigns, ¬ (start endpoint channel user joinStamp others).Taken place assigns := by
    intro place assigns known
    rcases known with ⟨_, member, _⟩ | ⟨snapshot, member, _⟩
    · cases member
    · cases member
  refine ⟨running, shared.trans distributed, named, ?_, ?_, ?_, ?_, .inl ?_, .inr (.inr ⟨nothing, ?_⟩)⟩
  · rw [held]
    exact stored
  · intro key has
    rw [held]
    exact has
  · intro follower member
    obtain ⟨other, listed, rfl⟩ := mem_map.mp member
    have follows := follow other listed
    refine ⟨⟨follows.running, follows.distributed, ?_, follows.absent⟩, Nat.zero_le _, ?_⟩
    · rw [show (start endpoint channel user joinStamp others).host.nodeId = channel.nodeId from node]
      exact follows.foreign
    · exact fun handled => absurd handled (Nat.lt_irrefl 0)
  · refine ⟨?_, ?_, ?_, ?_, ?_⟩
    · exact fun place assigns known => absurd known (nothing place assigns)
    · exact fun place first _ known => absurd known (nothing place first)
    · exact fun place _ first _ known => absurd known (nothing place first)
    · exact fun place assigns known => absurd known (nothing place assigns)
    · exact fun place assigns known => absurd known (nothing place assigns)
  · intro snapshot member
    cases member
  · intro query
    rw [held]
    rfl

theorem in_turn_ordered {stamp : Stamp}
    (ordered : ∀ publisher ∈ cluster.publishers[place]?, ∀ snapshot ∈ publisher.snapshot,
      ∀ sent ∈ cluster.published, sent.place ≤ snapshot.1) : cluster.InTurn (.publish place stamp) := by
  intro publisher there snapshot read sent member _ later
  exact absurd later (Nat.not_lt.mpr (ordered publisher there snapshot read sent member))

def score (value : String) : AssignsLabel := .update "u" "score" (.string value)

def stampOf (messageId : String) : Stamp := ⟨messageId, 0, epoch_fits⟩

def otherNode : Channel := newChannel "room" "node-2" true true 90000

def pair : AssignsCluster := start "api" (emptyRoom "room") ⟨"u", 1, none⟩ (stampOf "message-1") [otherNode]

def handleAll : List AssignsLabel := List.replicate 3 (.handle 0 ⟨0, "uuid-1", true⟩)

def twoReads : List AssignsLabel := [score "first", .read 0, score "second", .read 1]

def inTurn : List AssignsLabel :=
  twoReads ++ [.publish 0 (stampOf "message-2"), .publish 0 (stampOf "message-3")] ++ handleAll

def overtaken : List AssignsLabel :=
  twoReads ++ [.publish 1 (stampOf "message-2"), .publish 0 (stampOf "message-3")] ++ handleAll

def scoreOf (channel : Channel) : Option String :=
  ((channel.reported "u").bind fun assigns => assigns.get? "score").bind asString

end AssignsCluster

end PondSocket.Go
