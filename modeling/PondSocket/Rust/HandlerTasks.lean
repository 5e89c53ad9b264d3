import PondSocket.Rust.Hub

namespace PondSocket.Rust

open Library List OrderedMap Option HandlerTask
open Js (UserId NodeId Json)

-- Who published a message, as the message itself says.
def publisherOf (message : Message) : Option NodeId := (fromBytes "" message.data).map Event.nodeId

-- The message tells of a user of a node on a channel.
def Announces (message : Message) (action : String) (node : NodeId) (userId : UserId) (channelName : String) : Prop :=
  ∀ uuid, ∃ event, fromBytes uuid message.data = some event ∧ event.action = action ∧ event.nodeId = node ∧
    event.channelName = channelName ∧ getStr event.payload "userId" = some userId

namespace Hub

-- Once the join and the later leave of a user have both been handled by a channel
-- of another node, where the user is not local, it is forgotten there.
def Settles (hub : Hub) : HubStep → Prop
  | .run place moment => ∀ task channel, hub.tasks[place]? = some task → hub.peers[task.owner]? = some channel →
      (hub.runTask place moment).handled = hub.handled ++ [(task.subscription, task.message)] →
      ∀ joined left node userId, joined.serial < left.serial → node ≠ "" → node ≠ channel.nodeId →
        Announces joined "USER_JOINED" node userId channel.name → Announces left "USER_LEFT" node userId channel.name →
        (task.message = joined ∧ (task.subscription, left) ∈ hub.handled ∨
          task.message = left ∧ (task.subscription, joined) ∈ hub.handled) →
        ∀ after, (hub.runTask place moment).peers[task.owner]? = some after → after.hasUser userId = false →
          after.Forgotten userId
  | _ => True

-- A leave is under way: its handler has read the connections and writes.
def Leaving (task : HandlerTask) (userId : UserId) : Prop :=
  (∃ ops, task.stage = .writing ops) ∧ ∃ node channelName, Announces task.message "USER_LEFT" node userId channelName

-- A handler goes on only after the older ones of its subscription and publisher
-- have ended.
def Oldest (hub : Hub) (place : Nat) : Prop :=
  ∀ (older : Nat) (first second : HandlerTask), older < place → hub.tasks[older]? = some first →
    hub.tasks[place]? = some second → first.subscription = second.subscription →
      publisherOf first.message ≠ publisherOf second.message

-- Nothing else puts the user of a leave that is under way into a table.
def Undisturbed (hub : Hub) (label : HubStep) : Prop :=
  ∀ (place : Nat) (task : HandlerTask) (channel next : Channel), hub.tasks[place]? = some task →
    (∀ moment, label ≠ .run place moment) → hub.peers[task.owner]? = some channel →
    (hub.act label).peers[task.owner]? = some next → ∀ userId, Leaving task userId →
      (channel.assigns.has userId = false → next.assigns.has userId = false) ∧
        (channel.presence.has userId = false → next.presence.has userId = false)

-- The node that a user left is the only one it was listed at.
def Alone (hub : Hub) (place : Nat) : Prop :=
  ∀ (task : HandlerTask) (channel : Channel), hub.tasks[place]? = some task → hub.peers[task.owner]? = some channel →
    ∀ node userId, task.stage = .writing [.untrackNode node userId] → ∀ other, other ≠ node → ¬ channel.Lists other userId

def InTurn (hub : Hub) (label : HubStep) : Prop :=
  hub.Undisturbed label ∧
    match label with
    | .run place _ => hub.Oldest place ∧ hub.Alone place
    | _ => True

end Hub

namespace Hub

variable (hub : Hub) (place : Nat) {task : HandlerTask}

variable (moment : Moment) {label : HubStep} (subscription : Nat)

def stream (subscription : Nat) (publisher : Option NodeId) (entries : List (Nat × Message)) : List Message :=
  (entries.filter fun entry => decide (entry.1 = subscription) && decide (publisherOf entry.2 = publisher)).map Prod.snd

def buffered (hub : Hub) (subscription : Nat) : List (Nat × Message) :=
  ((hub.subs[subscription]?.map Subscription.buffer).getD []).map fun message => (subscription, message)

-- What was handled, is being handled and is still to be received.
def line (hub : Hub) (subscription : Nat) (publisher : Option NodeId) : List Message :=
  stream subscription publisher (hub.handled ++ (hub.tasks.map HandlerTask.key ++ hub.buffered subscription))

structure Lined (hub : Hub) : Prop where
  ordered : ∀ subscription publisher, (hub.line subscription publisher).Pairwise fun before after =>
    before.serial < after.serial
  counted : ∀ subscription publisher, ∀ message ∈ hub.line subscription publisher, message.serial < hub.published

theorem stream_append (publisher : Option NodeId) (first second : List (Nat × Message)) :
    stream subscription publisher (first ++ second) =
      stream subscription publisher first ++ stream subscription publisher second := by
  simp [stream]

variable {message : Message}

variable {publisher : Option NodeId}

theorem stream_other {subscription other : Nat}
    (different : ¬ (other = subscription ∧ publisherOf message = publisher)) :
    stream subscription publisher [(other, message)] = [] := by
  simp [stream, different]

theorem mem_stream {entries : List (Nat × Message)} :
    message ∈ stream subscription publisher entries ↔ (subscription, message) ∈ entries ∧ publisherOf message = publisher := by
  simp [stream]

theorem lined_of_line {hub : Hub} (next : Hub) (lined : hub.Lined)
    (same : ∀ subscription publisher, next.line subscription publisher = hub.line subscription publisher)
    (published : next.published = hub.published) : next.Lined := by
  constructor
  · intro subscription publisher
    rw [same]
    exact lined.ordered subscription publisher
  · intro subscription publisher
    rw [same, published]
    exact lined.counted subscription publisher

theorem lined_frame {hub : Hub} (next : Hub) (lined : hub.Lined) (handled : next.handled = hub.handled)
    (tasks : next.tasks.map HandlerTask.key = hub.tasks.map HandlerTask.key) (published : next.published = hub.published)
    (buffers : ∀ subscription, next.buffered subscription = hub.buffered subscription) : next.Lined := by
  refine lined_of_line next lined (fun subscription publisher => ?_) published
  rw [line, handled, tasks, buffers, line]

variable {topic : String}

theorem lined_publish {data : Json} (lined : hub.Lined) : (hub.publish topic data).Lined := by
  simp only [publish]
  split
  · exact lined
  have longer : ∀ subscription publisher, ∃ more : List Message, more.Sublist [⟨hub.published, topic, data⟩] ∧
      line { hub with
        published := hub.published + 1
        subs := hub.subs.map (offer hub.bufferSize ⟨hub.published, topic, data⟩) } subscription publisher =
        hub.line subscription publisher ++ more := by
    intro subscription publisher
    simp only [line, buffered, getElem?_map]
    cases hub.subs[subscription]? with
    | none => exact ⟨[], nil_sublist _, (append_nil _).symm⟩
    | some =>
      simp only [map_some, getD_some, offer]
      split
      · refine ⟨stream subscription publisher [(subscription, ⟨hub.published, topic, data⟩)], ?_, ?_⟩
        · exact filter_sublist.map Prod.snd
        · rw [map_append, ← append_assoc, ← append_assoc, stream_append, append_assoc]
          rfl
      · exact ⟨[], nil_sublist _, (append_nil _).symm⟩
  constructor
  · intro subscription publisher
    obtain ⟨more, part, same⟩ := longer subscription publisher
    rw [same, pairwise_append]
    refine ⟨lined.ordered subscription publisher, (pairwise_singleton _ _).sublist part, fun message old last new => ?_⟩
    rw [mem_singleton.mp (part.subset new)]
    exact lined.counted subscription publisher message old
  · intro subscription publisher message member
    obtain ⟨_, part, same⟩ := longer subscription publisher
    rw [same] at member
    rcases mem_append.mp member with old | new
    · exact Nat.lt_succ_of_lt (lined.counted subscription publisher message old)
    · rw [mem_singleton.mp (part.subset new)]
      exact Nat.lt_succ_self _

theorem lined_receive (lined : hub.Lined) : (hub.receive subscription).Lined := by
  simp only [receive]
  cases found : hub.subs[subscription]? with
  | none => exact lined
  | some sub =>
    dsimp only
    cases buffer : sub.buffer with
    | nil => exact lined
    | cons =>
      refine lined_of_line _ lined (fun other publisher => ?_) ?_
      case refine_2 => rfl
      have inside : subscription < hub.subs.length := (List.getElem?_eq_some_iff.mp found).1
      simp only [line, buffered, getElem?_set, map_append, append_assoc]
      by_cases same : subscription = other
      · subst same
        simp only [found, buffer, inside, if_true, map_some, getD_some, map_cons]
        rfl
      simp only [if_neg same]
      simp only [stream_append, map_cons, map_nil, key]
      rw [stream_other fun both => same both.1, nil_append]

-- The task that ends is the first of its stream, so the stream goes on as it was;
-- it is in no other stream.
theorem lined_end (peers : List Channel)
    (there : hub.tasks[place]? = some task) (oldest : hub.Oldest place) (lined : hub.Lined) :
    Lined { hub with
      peers := peers
      tasks := hub.tasks.eraseIdx place
      handled := hub.handled ++ [(task.subscription, task.message)] } := by
  refine lined_of_line _ lined (fun subscription publisher => ?_) ?_
  case refine_2 => rfl
  obtain ⟨whole, erased, _⟩ := split_place hub.tasks place task there
  have first : (task.subscription = subscription ∧ publisherOf task.message = publisher) →
      stream subscription publisher ((hub.tasks.take place).map HandlerTask.key) = [] := by
    rintro ⟨rfl, rfl⟩
    rw [eq_nil_iff_forall_not_mem]
    intro message member
    obtain ⟨listed, published⟩ := (mem_stream _).mp member
    obtain ⟨older, before, key⟩ := mem_map.mp listed
    obtain ⟨index, inside, found⟩ := mem_iff_getElem.mp before
    have early : index < place := Nat.lt_of_lt_of_le inside (length_take_le place _)
    have standing : hub.tasks[index]? = some older := by
      rw [← getElem?_take_of_lt early, getElem?_eq_getElem inside, found]
    have own : older.subscription = task.subscription := congrArg Prod.fst key
    have said : older.message = message := congrArg Prod.snd key
    exact oldest index older task early standing there own (said ▸ published)
  have buffers : ∀ peers tasks handled, buffered { hub with peers := peers, tasks := tasks, handled := handled }
      subscription = hub.buffered subscription := fun _ _ _ => rfl
  rw [line, line, buffers]
  conv => rhs; rw [whole]
  have apart : ∀ rest, stream subscription publisher (task.key :: rest) =
      stream subscription publisher [(task.subscription, task.message)] ++ stream subscription publisher rest :=
    fun rest => stream_append subscription publisher [task.key] rest
  simp only [erased, map_append, map_cons, stream_append, apart, append_assoc]
  by_cases own : task.subscription = subscription ∧ publisherOf task.message = publisher
  · rw [first own, nil_append, nil_append]
  · rw [stream_other own, nil_append, nil_append]

theorem keys_set {tasks : List HandlerTask} {place : Nat} {task : HandlerTask} {stage : Stage}
    (there : tasks[place]? = some task) :
    (tasks.set place { task with stage := stage }).map key = tasks.map key := by
  obtain ⟨whole, _, replaced⟩ := split_place tasks place task there
  rw [replaced]
  conv => rhs; rw [whole]
  simp [key]

variable {channel : Channel} {ops : List TableOp}

theorem lined_advance (there : hub.tasks[place]? = some task) (oldest : hub.Oldest place) (lined : hub.Lined) :
    (hub.advance place task channel ops).Lined := by
  cases ops with
  | nil => exact lined_end hub place _ there oldest lined
  | cons op rest =>
    exact lined_frame (hub.advance place task channel (op :: rest)) lined rfl (keys_set there) rfl fun _ => rfl

theorem run_cases :
    hub.runTask place moment = hub ∨
      ∃ task channel, hub.tasks[place]? = some task ∧ hub.peers[task.owner]? = some channel ∧
        ((task.stage = .called ∧ hub.runTask place moment = hub.advance place task
            (channel.begin moment task.message.data).1 (channel.begin moment task.message.data).2) ∨
          (task.stage = .writing [] ∧ hub.runTask place moment = hub.advance place task channel []) ∨
            ∃ op rest, task.stage = .writing (op :: rest) ∧
              hub.runTask place moment = hub.advance place task (op.apply moment.now channel) rest) := by
  cases there : hub.tasks[place]? with
  | none =>
    left
    simp [runTask, there]
  | some task =>
    cases owner : hub.peers[task.owner]? with
    | none =>
      left
      simp [runTask, there, owner]
    | some channel =>
      cases stage : task.stage with
      | spawned =>
        left
        simp [runTask, there, owner, stage]
      | called =>
        refine .inr ⟨task, channel, rfl, owner, .inl ⟨stage, ?_⟩⟩
        simp [runTask, there, owner, stage]
      | writing ops =>
        cases ops with
        | nil =>
          refine .inr ⟨task, channel, rfl, owner, .inr (.inl ⟨stage, ?_⟩)⟩
          simp [runTask, there, owner, stage]
        | cons op rest =>
          refine .inr ⟨task, channel, rfl, owner, .inr (.inr ⟨op, rest, stage, ?_⟩)⟩
          simp [runTask, there, owner, stage]

theorem lined_run (oldest : hub.Oldest place) (lined : hub.Lined) :
    (hub.runTask place moment).Lined := by
  rcases run_cases hub place moment with same | ⟨_, _, there, _, called | empty | ⟨_, _, writing⟩⟩
  · rw [same]
    exact lined
  · rw [called.2]
    exact lined_advance hub place there oldest lined
  · rw [empty.2]
    exact lined_advance hub place there oldest lined
  · rw [writing.2]
    exact lined_advance hub place there oldest lined

theorem buffered_map (hub next : Hub) (change : Subscription → Subscription) (kept : ∀ sub, (change sub).buffer = sub.buffer)
    (subs : ∀ subscription : Nat, next.subs[subscription]? = hub.subs[subscription]? ∨
      next.subs[subscription]? = hub.subs[subscription]?.map change) (subscription : Nat) :
    next.buffered subscription = hub.buffered subscription := by
  rw [buffered, buffered]
  rcases subs subscription with same | changed
  · rw [same]
  rw [changed]
  cases hub.subs[subscription]? with
  | none => rfl
  | some => simp only [map_some, kept]

theorem lined_act (lined : hub.Lined) (turn : hub.InTurn label) :
    (hub.act label).Lined := by
  cases label with
  | create channel => exact lined_frame (hub.act (.create channel)) lined rfl rfl rfl fun _ => rfl
  | perform peer channel => exact lined_frame (hub.act (.perform peer channel)) lined rfl rfl rfl fun _ => rfl
  | publish => exact lined_publish hub lined
  | receive subscription => exact lined_receive hub subscription lined
  | run place moment => exact lined_run hub place moment turn.2.1 lined
  | call place =>
    simp only [act, call]
    cases there : hub.tasks[place]? with
    | none => exact lined
    | some task =>
      dsimp only
      split
      · exact lined_frame { hub with tasks := hub.tasks.set place { task with stage := .called } } lined rfl
          (keys_set there) rfl fun _ => rfl
      · exact lined
  | subscribe peer =>
    simp only [act, subscribe]
    cases hub.peers[peer]? with
    | none => exact lined
    | some =>
      dsimp only
      split
      · exact lined
      refine lined_frame _ lined ?_ ?_ ?_ fun subscription => ?_
      case refine_4 =>
        simp only [buffered]
        rcases Nat.lt_trichotomy subscription hub.subs.length with before | same | after
        · rw [List.getElem?_append_left before]
        · rw [same, getElem?_concat_length, getElem?_eq_none (Nat.le_refl _)]
          rfl
        · rw [getElem?_eq_none (by simp; omega), getElem?_eq_none (Nat.le_of_lt after)]
      all_goals rfl
  | unsubscribe subscription =>
    simp only [act]
    split
    · exact lined
    refine lined_frame _ lined ?_ ?_ ?_
      (buffered_map hub _ (fun sub => { sub with listed := false }) (fun _ => rfl) fun other => ?_)
    case refine_4 =>
      by_cases same : subscription = other
      · right
        simp [same]
      · left
        simp [same]
    all_goals rfl
  | close =>
    exact lined_frame (hub.act .close) lined rfl rfl rfl
      (buffered_map hub _ (fun sub => { sub with listed := false }) (fun _ => rfl) fun _ => .inr getElem?_map)

-- What the handler of a leave that is under way has still to write, and what it has
-- written.
def Remaining (channel : Channel) (node : NodeId) (userId : UserId) (ops : List TableOp) : Prop :=
  ops = [.dropAssigns userId, .dropPresence userId, .untrackNode node userId] ∨
    ops = [.dropPresence userId, .untrackNode node userId] ∧ channel.assigns.has userId = false ∨
      ops = [.untrackNode node userId] ∧ channel.assigns.has userId = false ∧ channel.presence.has userId = false

def LeftSound (hub : Hub) : Prop :=
  ∀ (place : Nat) (task : HandlerTask) (ops : List TableOp), hub.tasks[place]? = some task → task.stage = .writing ops →
    ∃ channel, hub.peers[task.owner]? = some channel ∧
      ∀ node userId channelName, Announces task.message "USER_LEFT" node userId channelName →
        Remaining channel node userId ops

theorem left_sound_frame (sound : hub.LeftSound) (undisturbed : hub.Undisturbed label)
    (persist : ∀ (owner : Nat) (channel : Channel), hub.peers[owner]? = some channel →
      ∃ next, (hub.act label).peers[owner]? = some next)
    (tasks : ∀ (place : Nat) (task : HandlerTask) (ops : List TableOp), (hub.act label).tasks[place]? = some task →
      task.stage = .writing ops →
        (∃ before : Nat, hub.tasks[before]? = some task ∧ ∀ moment, label ≠ .run before moment) ∨
          ∃ channel, (hub.act label).peers[task.owner]? = some channel ∧
            ∀ node userId channelName, Announces task.message "USER_LEFT" node userId channelName →
              Remaining channel node userId ops) :
    (hub.act label).LeftSound := by
  intro place task ops there stage
  rcases tasks place task ops there stage with ⟨before, old, other⟩ | own
  · obtain ⟨channel, found, rest⟩ := sound before task ops old stage
    obtain ⟨next, reached⟩ := persist task.owner channel found
    refine ⟨next, reached, fun node userId channelName leaves => ?_⟩
    obtain ⟨assigns, presence⟩ := undisturbed before task channel next old other found reached userId
      ⟨⟨ops, stage⟩, node, channelName, leaves⟩
    rcases rest node userId channelName leaves with three | ⟨two, gone⟩ | ⟨one, gone, absent⟩
    · exact .inl three
    · exact .inr (.inl ⟨two, assigns gone⟩)
    · exact .inr (.inr ⟨one, assigns gone, presence absent⟩)
  · exact own

variable {userId : UserId} {node : NodeId}

theorem begin_left {moment : Moment} {channelName : String}
    (leaves : Announces message "USER_LEFT" node userId channelName) :
    (channel.begin moment message.data).2 = [] ∨ (channel.begin moment message.data).2 =
      [.dropAssigns userId, .dropPresence userId, .untrackNode node userId] := by
  obtain ⟨event, decoded, kind, rfl, rfl, named⟩ := leaves moment.uuid
  have different : event.action ≠ "USER_JOINED" := by
    rw [kind]
    decide
  simp only [Channel.begin, decoded, named, if_pos (Or.inr kind : event.action = "USER_JOINED" ∨ event.action = "USER_LEFT"),
    if_neg different]
  split
  · exact .inl rfl
  split
  · exact .inl rfl
  split
  · exact .inl rfl
  · exact .inr rfl

theorem remaining_apply {now : Nat} {op : TableOp} (next : TableOp) (rest : List TableOp)
    (remaining : Remaining channel node userId (op :: next :: rest)) :
    Remaining (op.apply now channel) node userId (next :: rest) := by
  rcases remaining with three | ⟨two, gone⟩ | ⟨one, _, _⟩
  · cases three
    refine .inr (.inl ⟨rfl, ?_⟩)
    rw [has_false_iff]
    exact get_delete_same
  · cases two
    refine .inr (.inr ⟨rfl, gone, ?_⟩)
    rw [has_false_iff]
    exact get_delete_same
  · cases one

theorem left_sound_advance {task : HandlerTask} {before : Channel} (there : hub.tasks[place]? = some task)
    (owner : hub.peers[task.owner]? = some before)
    (same : hub.act (.run place moment) = hub.advance place task channel ops) (sound : hub.LeftSound)
    (undisturbed : hub.Undisturbed (.run place moment)) (goes : ∀ op rest, ops = op :: rest → ∀ node userId channelName,
      Announces task.message "USER_LEFT" node userId channelName → Remaining channel node userId ops) :
    (hub.act (.run place moment)).LeftSound := by
  have inside : task.owner < hub.peers.length := (List.getElem?_eq_some_iff.mp owner).1
  have peers : (hub.act (.run place moment)).peers = hub.peers.set task.owner channel := by
    rw [same]
    cases ops <;> rfl
  apply left_sound_frame hub sound undisturbed
  · intro index held found
    rw [peers]
    have within : index < (hub.peers.set task.owner channel).length := by
      rw [length_set]
      exact (List.getElem?_eq_some_iff.mp found).1
    exact ⟨_, getElem?_eq_getElem within⟩
  intro other entry left reached stage
  cases ops with
  | nil =>
    left
    rw [same] at reached
    simp only [advance, getElem?_eraseIdx] at reached
    split at reached
    · exact ⟨other, reached, fun _ eq => absurd (HubStep.run.inj eq).1 (by omega)⟩
    · exact ⟨other + 1, reached, fun _ eq => absurd (HubStep.run.inj eq).1 (by omega)⟩
  | cons op rest =>
    rw [same] at reached
    simp only [advance] at reached
    by_cases own : place = other
    · right
      subst own
      rw [List.getElem?_set_self (List.getElem?_eq_some_iff.mp there).1] at reached
      cases reached
      cases stage
      refine ⟨channel, ?_, goes op rest rfl⟩
      rw [peers, List.getElem?_set_self inside]
    · left
      rw [getElem?_set_ne own] at reached
      exact ⟨other, reached, fun _ eq => own (HubStep.run.inj eq).1⟩

theorem left_sound_run (sound : hub.LeftSound)
    (undisturbed : hub.Undisturbed (.run place moment)) : (hub.act (.run place moment)).LeftSound := by
  rcases run_cases hub place moment with same | ⟨task, _, there, owner, called | empty | ⟨op, rest, writing, same⟩⟩
  · have kept : hub.act (.run place moment) = hub := same
    rw [kept]
    exact sound
  · apply left_sound_advance hub place moment there owner called.2 sound undisturbed
    intro op rest ops node userId channelName leaves
    rcases begin_left leaves with none | three
    · rw [none] at ops
      cases ops
    · exact .inl three
  · apply left_sound_advance hub place moment there owner empty.2 sound undisturbed
    intro op rest ops
    cases ops
  · apply left_sound_advance hub place moment there owner same sound undisturbed
    rintro next later rfl node userId channelName leaves
    obtain ⟨_, found, remaining⟩ := sound place task _ there writing
    cases some.inj (found.symm.trans owner)
    exact remaining_apply next later (remaining node userId channelName leaves)

variable {hub}

theorem left_sound_act (sound : hub.LeftSound) (turn : hub.InTurn label) :
    (hub.act label).LeftSound := by
  -- The steps of the other labels keep the list of peers and the tasks that write.
  have kept : (hub.act label).peers = hub.peers → (∀ (place : Nat) (task : HandlerTask) (ops : List TableOp),
      (hub.act label).tasks[place]? = some task → task.stage = .writing ops → hub.tasks[place]? = some task) →
      (∀ place moment, label ≠ .run place moment) → (hub.act label).LeftSound := by
    intro peers tasks other
    apply left_sound_frame hub sound turn.1
    · intro owner channel found
      exact ⟨channel, by rw [peers]; exact found⟩
    · intro place task ops there stage
      exact .inl ⟨place, tasks place task ops there stage, other place⟩
  cases label with
  | run place moment => exact left_sound_run hub place moment sound turn.1
  | create =>
    apply left_sound_frame hub sound turn.1
    · intro owner held found
      exact ⟨held, (List.getElem?_append_left (List.getElem?_eq_some_iff.mp found).1).trans found⟩
    · intro place task ops there _
      exact .inl ⟨place, there, fun _ same => (by cases same)⟩
  | perform =>
    apply left_sound_frame hub sound turn.1
    · intro owner held found
      exact ⟨_, (getElem?_modify _ _ _ _).trans (by rw [found]; rfl)⟩
    · intro place task ops there _
      exact .inl ⟨place, there, fun _ same => (by cases same)⟩
  | publish =>
    refine kept ?_ ?_ fun _ _ same => by cases same
    · simp only [act, publish]
      split <;> rfl
    intro place task ops there _
    simp only [act, publish] at there
    split at there <;> exact there
  | close => exact kept rfl (fun _ _ _ there _ => there) fun _ _ same => by cases same
  | unsubscribe =>
    refine kept ?_ ?_ fun _ _ same => by cases same
    · simp only [act]
      split <;> rfl
    intro place task ops there _
    simp only [act] at there
    split at there <;> exact there
  | subscribe peer namespaceName =>
    have frame : (hub.subscribe peer namespaceName).peers = hub.peers ∧
        (hub.subscribe peer namespaceName).tasks = hub.tasks := by
      simp only [subscribe]
      cases hub.peers[peer]? with
      | none => exact ⟨rfl, rfl⟩
      | some =>
        dsimp only
        split <;> exact ⟨rfl, rfl⟩
    refine kept frame.1 (fun place task ops there _ => ?_) fun _ _ same => by cases same
    rw [← frame.2]
    exact there
  | receive subscription =>
    simp only [act, receive] at kept ⊢
    cases found : hub.subs[subscription]? with
    | none => exact sound
    | some sub =>
      rw [found] at kept
      dsimp only at kept ⊢
      cases buffer : sub.buffer with
      | nil => exact sound
      | cons =>
        rw [buffer] at kept
        refine kept rfl (fun place task ops there stage => ?_) fun _ _ same => by cases same
        rcases get_concat there with old | ⟨_, rfl⟩
        · exact old
        · cases stage
  | call place =>
    simp only [act, call] at kept ⊢
    cases there : hub.tasks[place]? with
    | none => exact sound
    | some task =>
      rw [there] at kept
      dsimp only at kept ⊢
      cases stage : task.stage with
      | called | writing => exact sound
      | spawned =>
        rw [stage] at kept
        refine kept rfl (fun other entry ops reached writing => ?_) fun _ _ same => by cases same
        by_cases own : place = other
        · subst own
          rw [List.getElem?_set_self (List.getElem?_eq_some_iff.mp there).1] at reached
          cases reached
          cases writing
        · rw [getElem?_set_ne own] at reached
          exact reached

theorem untrack_forgets (named : node ≠ "") (assigns : channel.assigns.has userId = false)
    (presence : channel.presence.has userId = false) (alone : ∀ other, other ≠ node → ¬ channel.Lists other userId) :
    (channel.untrackNodeUser node userId).Forgotten userId := by
  simp only [Channel.untrackNodeUser, if_neg named]
  cases held : channel.nodeUsers.get? node with
  | none =>
    refine ⟨assigns, presence, fun other lists => ?_⟩
    by_cases same : other = node
    · obtain ⟨_, found, _⟩ := lists
      rw [same] at found
      cases held.symm.trans found
    · exact alone other same lists
  | some =>
    refine ⟨assigns, presence, fun other ⟨listed, found, member⟩ => ?_⟩
    dsimp only at found
    by_cases same : other = node
    · subst same
      split at found
      · rw [get_delete_same] at found
        cases found
      rw [get_set_same] at found
      cases found
      exact (has_delete.mp member).1 rfl
    · apply alone other same
      split at found
      · rw [get_delete_other same] at found
        exact ⟨listed, found, member⟩
      · rw [get_set_other same] at found
        exact ⟨listed, found, member⟩

theorem begin_local {moment : Moment} (foreign : node ≠ channel.nodeId)
    (leaves : Announces message "USER_LEFT" node userId channel.name)
    (ended : (channel.begin moment message.data).2 = []) :
    (channel.begin moment message.data).1 = channel ∧ channel.hasUser userId = true := by
  obtain ⟨event, decoded, kind, rfl, name, named⟩ := leaves moment.uuid
  have different : event.action ≠ "USER_JOINED" := by
    rw [kind]
    decide
  have other : ¬ (event.nodeId ≠ "" ∧ event.nodeId = channel.nodeId) := fun own => foreign own.2
  simp only [Channel.begin, decoded, named, if_neg other, if_neg (not_not.mpr name),
    if_pos (Or.inr kind : event.action = "USER_JOINED" ∨ event.action = "USER_LEFT"), if_neg different] at ended ⊢
  cases here : channel.hasUser userId with
  | true => exact ⟨by simp, rfl⟩
  | false =>
    rw [here] at ended
    cases ended

theorem advance_ends
    (ended : (hub.advance place task channel ops).handled = hub.handled ++ [(task.subscription, task.message)]) :
    ops = [] := by
  cases ops with
  | nil => rfl
  | cons =>
    have length := congrArg List.length ended
    simp [advance] at length

theorem publisher_announced (message : Message) (action : String) (node : NodeId) (userId : UserId) (channelName : String)
    (announces : Announces message action node userId channelName) : publisherOf message = some node := by
  obtain ⟨_, decoded, _, source, _⟩ := announces ""
  rw [publisherOf, decoded, map_some, source]

theorem settles_act (lined : hub.Lined) (sound : hub.LeftSound) (turn : hub.InTurn label) :
    hub.Settles label := by
  cases label with
  | run place moment =>
    intro task channel there owner ended joined left node userId order named foreign joins leaves both after reached absent
    rcases both with ⟨rfl, already⟩ | ⟨rfl, _⟩
    · -- The join would have been overtaken by the leave.
      have later := (lined_run hub place moment turn.2.1 lined).ordered task.subscription (some node)
      rw [line, stream_append, ended, stream_append, pairwise_append, pairwise_append] at later
      have old : left ∈ stream task.subscription (some node) hub.handled :=
        (mem_stream _).mpr ⟨already, publisher_announced left _ _ _ _ leaves⟩
      have new : task.message ∈ stream task.subscription (some node) [(task.subscription, task.message)] :=
        (mem_stream _).mpr ⟨mem_singleton.mpr rfl, publisher_announced _ _ _ _ _ joins⟩
      have before := later.1.2.2 left old task.message new
      omega
    · rcases run_cases hub place moment with same | ⟨_, held, standing, mine, steps⟩
      · rw [same] at ended
        have length := congrArg List.length ended
        simp at length
      · cases some.inj (there.symm.trans standing)
        cases some.inj (owner.symm.trans mine)
        have inside : task.owner < hub.peers.length := (List.getElem?_eq_some_iff.mp owner).1
        rcases steps with ⟨_, done⟩ | ⟨stage, _⟩ | ⟨op, _, stage, done⟩
        · rw [done] at ended reached
          have none := advance_ends place ended
          obtain ⟨kept, here⟩ := begin_local foreign leaves none
          rw [none, kept] at reached
          simp only [advance, List.getElem?_set_self inside, some.injEq] at reached
          rw [← reached, here] at absent
          cases absent
        · obtain ⟨_, _, remaining⟩ := sound place task [] there stage
          rcases remaining node userId channel.name leaves with three | ⟨two, _⟩ | ⟨one, _⟩
          · cases three
          · cases two
          · cases one
        · rw [done] at ended reached
          have none := advance_ends place ended
          subst none
          simp only [advance, List.getElem?_set_self inside, some.injEq] at reached
          obtain ⟨_, mine, remaining⟩ := sound place task [op] there stage
          cases some.inj (owner.symm.trans mine)
          rcases remaining node userId channel.name leaves with three | ⟨two, _⟩ | ⟨one, assigns, presence⟩
          · cases three
          · cases two
          · cases one
            rw [← reached]
            exact untrack_forgets named assigns presence (turn.2.2 task channel there owner node userId stage)
  | _ => trivial

variable {bufferSize : Nat}

theorem lined_new : (new bufferSize).Lined :=
  ⟨fun _ _ => List.Pairwise.nil, fun _ _ _ member => absurd member not_mem_nil⟩

theorem left_sound_new : (new bufferSize).LeftSound := by
  intro place task ops there
  cases there

-- In a run whose handlers take their turns a user is forgotten once its join and
-- its leave have both been handled.
theorem settled_in_turn (bufferSize : Nat) (labels : List HubStep) (turn : Follows act InTurn (new bufferSize) labels) :
    Follows act Settles (new bufferSize) labels :=
  follows_of_inv act InTurn Settles (fun hub => hub.Lined ∧ hub.LeftSound)
    (fun hub label both admitted => ⟨lined_act hub both.1 admitted, left_sound_act both.2 admitted⟩)
    (fun hub label both admitted => settles_act both.1 both.2 admitted) (new bufferSize) labels
    ⟨lined_new, left_sound_new⟩ turn

variable {sender : Channel}

theorem announces_joined {stamp : Stamp} {serial : Nat} {uuid : String} {assigns : Table} :
    Announces ⟨serial, topic, sender.wire stamp (sender.publication uuid (.userJoined userId assigns))⟩ "USER_JOINED"
      sender.nodeId userId sender.name :=
  fun fresh => ⟨_, decode_announced, rfl, rfl, rfl, rfl⟩

theorem announces_left {stamp : Stamp} {serial : Nat} {uuid : String} :
    Announces ⟨serial, topic, sender.wire stamp (sender.publication uuid (.userLeft userId))⟩ "USER_LEFT"
      sender.nodeId userId sender.name :=
  fun fresh => ⟨_, decode_announced, rfl, rfl, rfl, rfl⟩

def roomTopic : String := formatTopic "ns" "ws" "/room"

def roomSender : Channel := Channel.new "/room" "/ws" "node-2" true

def joining : Json := roomSender.wire ⟨"m1", 0⟩ (roomSender.publication "j" (.userJoined "u" .empty))

def leaving : Json := roomSender.wire ⟨"m2", 0⟩ (roomSender.publication "l" (.userLeft "u"))

def bothPublished : List HubStep :=
  [.create (Channel.new "/room" "/ws" "node-1" true), .subscribe 0 "ns", .publish roomTopic joining,
    .publish roomTopic leaving]

def leftFirst : List HubStep :=
  bothPublished ++ [.receive 0, .receive 0, .call 0, .call 1, .run 1 codecMoment, .run 1 codecMoment,
    .run 1 codecMoment, .run 1 codecMoment, .run 0 codecMoment, .run 0 codecMoment, .run 0 codecMoment]

theorem late_join_stays : ¬ (run act (new 16) leftFirst).Settles (.run 0 codecMoment) := by
  intro settles
  have standing : ∃ channel, (run act (new 16) leftFirst).peers[0]? = some channel ∧ channel.nodeId = "node-1" ∧
      channel.name = "/room" := ⟨_, rfl, rfl, rfl⟩
  obtain ⟨channel, owner, node, name⟩ := standing
  have reached : (((run act (new 16) leftFirst).runTask 0 codecMoment).peers[0]?).any (fun after =>
      after.assigns.has "u" && !after.hasUser "u") = true := by decide +kernel
  obtain ⟨after, there, facts⟩ := (any_eq_true _ _).mp reached
  simp only [Bool.and_eq_true, Bool.not_eq_true'] at facts
  have forgotten := settles ⟨0, 0, ⟨0, roomTopic, joining⟩, .writing [.seeNode "node-2"]⟩ channel rfl owner rfl
    ⟨0, roomTopic, joining⟩ ⟨1, roomTopic, leaving⟩ "node-2" "u" (by decide) (by decide) (by rw [node]; decide)
    (by rw [name]; exact announces_joined) (by rw [name]; exact announces_left)
    (.inl ⟨rfl, mem_singleton.mpr rfl⟩) after there facts.2
  rw [forgotten.1] at facts
  cases facts.1

theorem quiet_in_turn (quiet : ∀ task ∈ hub.tasks, ∀ ops, task.stage ≠ .writing ops)
    (other : ∀ place moment, label ≠ .run place moment) : hub.InTurn label := by
  refine ⟨fun place task _ _ there _ _ _ _ leaving => ?_, ?_⟩
  · obtain ⟨⟨ops, stage⟩, _⟩ := leaving
    exact absurd stage (quiet task (mem_of_getElem? there) ops)
  cases label with
  | run place moment => exact absurd rfl (other place moment)
  | _ => trivial

theorem only_in_turn (only : hub.tasks = [task]) (alone : hub.Alone 0) : hub.InTurn (.run 0 moment) := by
  refine ⟨fun place other _ _ there apart _ _ _ _ => ?_, fun older _ _ early => absurd early (Nat.not_lt_zero older), alone⟩
  rw [only] at there
  cases place with
  | zero => exact absurd rfl (apart moment)
  | succ => cases there

theorem alone_of_stage (only : hub.tasks = [task])
    (stage : ∀ node userId, task.stage ≠ .writing [.untrackNode node userId]) : hub.Alone 0 := by
  intro found channel there _ node userId same
  rw [only] at there
  cases there
  exact absurd same (stage node userId)

def joinFirst : List HubStep :=
  bothPublished ++ [.receive 0, .call 0, .run 0 codecMoment, .run 0 codecMoment, .run 0 codecMoment, .run 0 codecMoment,
    .receive 0, .call 0, .run 0 codecMoment, .run 0 codecMoment, .run 0 codecMoment, .run 0 codecMoment]

theorem join_first_settles : Follows act Settles (new 16) joinFirst := by
  apply settled_in_turn 16 joinFirst
  have idle : ∀ (hub : Hub) (label : HubStep), hub.tasks = [] → (∀ place moment, label ≠ .run place moment) →
      hub.InTurn label := by
    intro hub label none other
    exact quiet_in_turn (by simp [none]) other
  have spawned : ∀ (hub : Hub) (message : Message), hub.tasks = [⟨0, 0, message, .spawned⟩] → hub.InTurn (.call 0) := by
    intro hub message only
    refine quiet_in_turn (fun task member ops => ?_) fun _ _ => HubStep.noConfusion
    rw [only] at member
    cases mem_singleton.mp member
    exact Stage.noConfusion
  have alone : ∀ (hub : Hub) (message : Message) (stage : Stage), hub.tasks = [⟨0, 0, message, stage⟩] →
      (∀ node userId, stage ≠ .writing [.untrackNode node userId]) → hub.InTurn (.run 0 codecMoment) :=
    fun hub message stage only different => only_in_turn codecMoment only (alone_of_stage only different)
  refine ⟨idle _ _ rfl (fun _ _ => HubStep.noConfusion), idle _ _ rfl (fun _ _ => HubStep.noConfusion),
    idle _ _ rfl (fun _ _ => HubStep.noConfusion), idle _ _ rfl (fun _ _ => HubStep.noConfusion),
    idle _ _ rfl (fun _ _ => HubStep.noConfusion), spawned _ _ rfl,
    alone _ _ _ rfl (fun _ _ same => (by cases same)), alone _ _ _ rfl (fun _ _ same => (by cases same)),
    alone _ _ _ rfl (fun _ _ same => (by cases same)), alone _ _ _ rfl (fun _ _ same => (by cases same)),
    idle _ _ rfl (fun _ _ => HubStep.noConfusion), spawned _ _ rfl,
    alone _ _ _ rfl (fun _ _ same => (by cases same)), alone _ _ _ rfl (fun _ _ same => (by cases same)),
    alone _ _ _ rfl (fun _ _ same => (by cases same)), only_in_turn _ rfl ?_, trivial⟩
  intro task channel there owner node userId stage other apart lists
  cases there
  cases stage
  have listed : ((run act (new 16) (joinFirst.take 15)).peers[0]?).all (fun channel =>
      decide (channel.nodeUsers.keys = ["node-2"])) = true := by decide +kernel
  have keys : channel.nodeUsers.keys = ["node-2"] := of_decide_eq_true ((all_eq_true _ _).mp listed channel owner)
  obtain ⟨users, found, _⟩ := lists
  have known : other ∈ channel.nodeUsers.keys := mem_keys.mpr (has_iff.mpr ⟨users, found⟩)
  rw [keys] at known
  exact apart (mem_singleton.mp known)

end Hub

end PondSocket.Rust
