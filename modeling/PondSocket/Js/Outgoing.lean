import PondSocket.Js.ChannelHanded
import PondSocket.Library.JobQueue
import PondSocket.Library.Run

namespace PondSocket.Js

open Library List Option

-- parseAddress gives parameters or null, or throws on a malformed escape.
inductive ParsedAddress where
  | params
  | null
  | throws
deriving DecidableEq

def isLineTerminator (c : Char) : Bool :=
  c = '\n' || c = '\r' || c = Char.ofNat 0x2028 || c = Char.ofNat 0x2029

-- parseAddress('*', event): the wildcard takes any path on one line.
def parseWildcard (event : String) : ParsedAddress :=
  if (event.toList.takeWhile fun c => c ≠ '?').any isLineTerminator then .null else .params

-- How far an event gets in the outgoing stack, all within the call of runAsync.
inductive OutgoingRoute where
  | handled (place : Nat)
  | thrown (place : Nat)
  | passed (length : Nat)
deriving DecidableEq

-- A handler does not call next, so the first that matches is the last to run.
def routeOutgoing (event : String) : Nat → List (String → ParsedAddress) → OutgoingRoute
  | index, [] => .passed index
  | index, parse :: rest =>
    match parse event with
    | .params => .handled index
    | .throws => .thrown index
    | .null => routeOutgoing event (index + 1) rest

namespace OutgoingRoute

def waits : OutgoingRoute → Bool
  | .handled _ => true
  | _ => false

def blocks : OutgoingRoute → Bool
  | .thrown _ => true
  | _ => false

-- The microtasks from the last thing a pipeline waits for to its onMessage: two for
-- each middleware that has returned next(), and those of the functions around them.
def hops : OutgoingRoute → Nat
  | .handled place => 2 * place + 4
  | .thrown place => 2 * place + 3
  | .passed length => if length = 0 then 2 else 2 * length + 3

end OutgoingRoute

-- What processOutgoingEvents does with one event for one user: its OutgoingContext,
-- whether a handler of it has yet to settle, and the event it came to.
structure Pipeline where
  subscriber : Subscriber
  call : Nat
  event : ChannelEvent
  payload : EventPayload
  parsed : Bool
  blocked : Bool := false
  waiting : Bool
  hops : Nat
  newEvent : Option ChannelEvent := none

-- An event that some subscriber is to be notified of, and the call it comes from.
structure Notice where
  call : Nat
  direct : Bool
  subscriber : Subscriber
  event : ChannelEvent

structure Delivery where
  subscriber : Subscriber
  pipeline : Option Nat
  event : ChannelEvent

-- A channel engine with the outgoing side of its lobby and the microtask queue.
structure OutgoingChannel where
  engine : ChannelEngine
  stack : List (String → ParsedAddress)
  calls : Nat := 0
  notices : List Notice := []
  pipelines : List Pipeline := []
  jobs : JobQueue := .empty
  received : List Delivery := []

inductive OutgoingOp where
  | use (parse : String → ParsedAddress)
  | call (op : EngineOp)
  | notify
  | transform (pipeline : Nat) (payload : PondMessage)
  | block (pipeline : Nat)
  | settle (pipeline : Nat) (fulfilled : Bool)
  | tick

def EngineOp.acknowledges : EngineOp → Bool
  | .addUser _ _ _ _ => true
  | _ => false

namespace OutgoingChannel

def start (engine : ChannelEngine) (stack : List (String → ParsedAddress)) : OutgoingChannel where
  engine := engine
  stack := stack

-- A call made while observers are being notified has its own notified first.
def call (channel : OutgoingChannel) (now : Nat) (op : EngineOp) : OutgoingChannel :=
  let next := { channel.engine with effects := [] }.act now op
  { channel with
    engine := next
    calls := channel.calls + 1
    notices := (next.handed.map fun row => ⟨channel.calls, op.acknowledges, row.1, row.2⟩) ++ channel.notices }

def processOutgoingEvents (channel : OutgoingChannel) (notice : Notice) : OutgoingChannel :=
  let route := routeOutgoing notice.event.event 0 channel.stack
  let pipeline : Pipeline :=
    { subscriber := notice.subscriber
      call := notice.call
      event := notice.event
      payload := notice.event.payload
      parsed := route.waits || parseWildcard notice.event.event = .params
      blocked := route.blocks
      waiting := route.waits
      hops := route.hops }
  { channel with
    pipelines := channel.pipelines ++ [pipeline]
    jobs := if route.waits then channel.jobs else channel.jobs.add channel.pipelines.length route.hops }

-- The subscriber of #buildSubscriber, whose recipients check has passed.
def notify (channel : OutgoingChannel) : OutgoingChannel :=
  match channel.notices with
  | [] => channel
  | notice :: rest =>
    let channel := { channel with notices := rest }
    if notice.direct || decide (notice.event.action = .presence) then
      { channel with received := channel.received ++ [⟨notice.subscriber, none, notice.event⟩] }
    else channel.processOutgoingEvents notice

def updatePipeline (channel : OutgoingChannel) (id : Nat) (update : Pipeline → Pipeline) : OutgoingChannel :=
  { channel with pipelines := channel.pipelines.modify id update }

def settle (channel : OutgoingChannel) (id : Nat) (fulfilled : Bool) : OutgoingChannel :=
  match channel.pipelines[id]? with
  | none => channel
  | some pipeline =>
    if pipeline.waiting then
      { channel.updatePipeline id fun pipeline =>
          { pipeline with waiting := false, blocked := pipeline.blocked || !fulfilled } with
        jobs := channel.jobs.add id pipeline.hops }
    else channel

end OutgoingChannel

-- The rest of processOutgoingEvents after its await; the getter of the context's
-- event throws when the context has no parameters.
def Pipeline.evaluate (pipeline : Pipeline) : Pipeline :=
  { pipeline with newEvent :=
      if pipeline.blocked || !pipeline.parsed then none else some { pipeline.event with payload := pipeline.payload } }

namespace OutgoingChannel

def deliver (channel : OutgoingChannel) (id : Nat) : OutgoingChannel :=
  match channel.pipelines[id]? with
  | none => channel
  | some pipeline =>
    match pipeline.newEvent with
    | none => channel
    | some event => { channel with received := channel.received ++ [⟨pipeline.subscriber, some id, event⟩] }

def tick (channel : OutgoingChannel) : OutgoingChannel :=
  match channel.notices, channel.jobs.queue with
  | [], id :: _ =>
    let next := { channel with jobs := channel.jobs.tick }
    if channel.jobs.hops id ≤ 1 then next.deliver id
    else if channel.jobs.hops id = 2 then next.updatePipeline id Pipeline.evaluate
    else next
  | _, _ => channel

def step (channel : OutgoingChannel) (label : Nat × OutgoingOp) : OutgoingChannel :=
  match label.2 with
  | .use parse => { channel with stack := channel.stack ++ [parse] }
  | .call op => channel.call label.1 op
  | .notify => channel.notify
  | .transform id payload => channel.updatePipeline id fun pipeline => { pipeline with payload := .message payload }
  | .block id => channel.updatePipeline id fun pipeline => { pipeline with blocked := true }
  | .settle id fulfilled => channel.settle id fulfilled
  | .tick => channel.tick

def receivedBy (channel : OutgoingChannel) (userId : UserId) : List Nat :=
  (channel.received.filter fun delivery => delivery.subscriber.userId = userId).filterMap Delivery.pipeline

def Fifo (channel : OutgoingChannel) : Prop :=
  ∀ (first second : Nat) (earlier later : Pipeline) (userId : UserId),
    channel.pipelines[first]? = some earlier → channel.pipelines[second]? = some later → earlier.call < later.call →
    first ∈ channel.receivedBy userId → second ∈ channel.receivedBy userId →
    JobQueue.Before first second (channel.receivedBy userId)

-- The first of two pipelines for one user has been blocked, or was received first.
def InOrder (first second : Nat) (channel : OutgoingChannel) : Prop :=
  ∀ earlier later : Pipeline, channel.pipelines[first]? = some earlier → channel.pipelines[second]? = some later →
    earlier.subscriber.userId = later.subscriber.userId →
    second ∈ channel.receivedBy later.subscriber.userId →
    earlier.blocked = true ∨ earlier.parsed = false ∨
      JobQueue.Before first second (channel.receivedBy later.subscriber.userId)

-- The pipeline that a step leaves with nothing more to wait for.
def readies (channel : OutgoingChannel) (op : OutgoingOp) : Option (Nat × Nat) :=
  match op with
  | .notify =>
    match channel.notices with
    | [] => none
    | notice :: _ =>
      let route := routeOutgoing notice.event.event 0 channel.stack
      if notice.direct || decide (notice.event.action = .presence) || route.waits then none
      else some (channel.pipelines.length, route.hops)
  | .settle id _ =>
    match channel.pipelines[id]? with
    | none => none
    | some pipeline => if pipeline.waiting then some (id, pipeline.hops) else none
  | _ => none

-- When the second of two pipelines has nothing more to wait for, the first has
-- nothing more to wait for either and no more microtasks ahead of it.
def Paced (first second : Nat) (channel : OutgoingChannel) (label : Nat × OutgoingOp) : Prop :=
  ∀ hops, channel.readies label.2 = some (second, hops) →
    first ∈ channel.jobs.done ∨ (first ∈ channel.jobs.queue ∧ channel.jobs.hops first ≤ hops)

def emits (channel : OutgoingChannel) (id : Nat) : Bool :=
  match channel.pipelines[id]? with
  | none => false
  | some pipeline => pipeline.newEvent.isSome

def Withheld (pipeline : Pipeline) : Prop := pipeline.blocked = true ∨ pipeline.parsed = false

structure Inv (first second : Nat) (channel : OutgoingChannel) : Prop where
  sound : channel.jobs.Sound
  trails : channel.jobs.Trails first second
  chains : ∀ (id : Nat) pipeline, channel.pipelines[id]? = some pipeline → 2 ≤ pipeline.hops
  ready : ∀ id, id ∈ channel.jobs.queue ∨ id ∈ channel.jobs.done →
    ∃ pipeline, channel.pipelines[id]? = some pipeline ∧ pipeline.waiting = false
  evaluated : ∀ (id : Nat) pipeline, channel.pipelines[id]? = some pipeline →
    (id ∈ channel.jobs.queue ∧ channel.jobs.hops id ≤ 1) ∨ id ∈ channel.jobs.done → pipeline.newEvent = none →
    Withheld pipeline
  received : channel.received.filterMap Delivery.pipeline = channel.jobs.done.filter channel.emits
  owners : ∀ delivery ∈ channel.received, ∀ id, delivery.pipeline = some id →
    ∃ pipeline, channel.pipelines[id]? = some pipeline ∧ pipeline.subscriber = delivery.subscriber

theorem hops_two {event : String} (index : Nat) {stack : List (String → ParsedAddress)} :
    2 ≤ (routeOutgoing event index stack).hops := by
  induction stack generalizing index with
  | nil =>
    simp only [routeOutgoing, OutgoingRoute.hops]
    split <;> omega
  | cons parse _ ih =>
    simp only [routeOutgoing]
    cases parse event with
    | params | throws => simp only [OutgoingRoute.hops]; omega
    | null => exact ih (index + 1)

variable {channel : OutgoingChannel}

theorem update_get {id place : Nat} {update : Pipeline → Pipeline} :
    (channel.updatePipeline id update).pipelines[place]? =
      (channel.pipelines[place]?).map fun pipeline => if id = place then update pipeline else pipeline := by
  rw [updatePipeline, getElem?_modify]
  rfl

theorem received_by (userId : UserId) (owners : ∀ delivery ∈ channel.received, ∀ id, delivery.pipeline = some id →
      ∃ pipeline, channel.pipelines[id]? = some pipeline ∧ pipeline.subscriber = delivery.subscriber) :
    channel.receivedBy userId = (channel.received.filterMap Delivery.pipeline).filter fun id =>
      (channel.pipelines[id]?).any fun pipeline => pipeline.subscriber.userId = userId := by
  rw [receivedBy]
  generalize channel.received = received at owners
  induction received with
  | nil => rfl
  | cons delivery _ ih =>
    have later := ih fun other member => owners other (mem_cons_of_mem delivery member)
    cases straight : delivery.pipeline with
    | none =>
      rw [filterMap_cons_none straight, ← later, filter_cons]
      split
      · rw [filterMap_cons_none straight]
      · rfl
    | some id =>
      obtain ⟨_, found, same⟩ := owners delivery mem_cons_self id straight
      rw [filterMap_cons_some straight, filter_cons, filter_cons, found, any_some, same, later.symm]
      by_cases his : delivery.subscriber.userId = userId
      · simp [his, filterMap_cons_some straight]
      · simp [his]

theorem inv_in_order (first second : Nat) (channel : OutgoingChannel) (inv : Inv first second channel) :
    InOrder first second channel := by
  intro earlier later found present same member
  have spec := received_by later.subscriber.userId inv.owners
  rw [inv.received] at spec
  rw [spec] at member
  have done : second ∈ channel.jobs.done := (mem_filter.mp (mem_filter.mp member).1).1
  have before := inv.trails.done done
  have reached : first ∈ channel.jobs.done := (JobQueue.before_mem first second _ before).1
  cases made : earlier.newEvent with
  | none =>
    rcases inv.evaluated first earlier found (.inr reached) made with blocked | unparsed
    · exact .inl blocked
    · exact .inr (.inl unparsed)
  | some =>
    refine .inr (.inr ?_)
    have emitsFirst : channel.emits first = true := by simp [emits, found, made]
    have emitsSecond := (mem_filter.mp (mem_filter.mp member).1).2
    rw [spec]
    have kept : ([first, second].filter channel.emits).Sublist (channel.jobs.done.filter channel.emits) :=
      List.Sublist.filter channel.emits before
    have narrowed := List.Sublist.filter
      (fun id => (channel.pipelines[id]?).any fun pipeline => pipeline.subscriber.userId = later.subscriber.userId) kept
    rw [JobQueue.Before]
    simpa [emitsFirst, emitsSecond, found, present, same] using narrowed

theorem inv_aside (first second : Nat) (channel next : OutgoingChannel) (inv : Inv first second channel)
    (jobs : next.jobs = channel.jobs) (pipelines : next.pipelines = channel.pipelines) (more : List Delivery)
    (received : next.received = channel.received ++ more) (straight : ∀ delivery ∈ more, delivery.pipeline = none) :
    Inv first second next := by
  have emits : next.emits = channel.emits := by
    funext id
    simp [OutgoingChannel.emits, pipelines]
  refine ⟨jobs ▸ inv.sound, jobs ▸ inv.trails, pipelines ▸ inv.chains, ?_, ?_, ?_, ?_⟩
  · rw [jobs, pipelines]
    exact inv.ready
  · rw [jobs, pipelines]
    exact inv.evaluated
  · rw [received, jobs, emits, filterMap_append, filterMap_eq_nil_iff.mpr straight, append_nil]
    exact inv.received
  · rw [received, pipelines]
    intro delivery member id same
    rcases mem_append.mp member with old | new
    · exact inv.owners delivery old id same
    · rw [straight delivery new] at same
      cases same

theorem inv_update (first second id : Nat) (channel : OutgoingChannel) (update : Pipeline → Pipeline)
    (inv : Inv first second channel) (subscriber : ∀ pipeline, (update pipeline).subscriber = pipeline.subscriber)
    (hops : ∀ pipeline, (update pipeline).hops = pipeline.hops)
    (newEvent : ∀ pipeline, (update pipeline).newEvent = pipeline.newEvent)
    (waiting : ∀ pipeline, pipeline.waiting = false → (update pipeline).waiting = false)
    (withheld : ∀ pipeline, Withheld pipeline → Withheld (update pipeline)) :
    Inv first second (channel.updatePipeline id update) := by
  have forth : ∀ (place : Nat) pipeline, channel.pipelines[place]? = some pipeline →
      ∃ now, (channel.updatePipeline id update).pipelines[place]? = some now ∧ now.subscriber = pipeline.subscriber ∧
        (pipeline.waiting = false → now.waiting = false) := by
    intro place pipeline found
    refine ⟨_, update_get.trans (congrArg _ found), ?_⟩
    split
    · exact ⟨subscriber pipeline, waiting pipeline⟩
    · exact ⟨rfl, fun settled => settled⟩
  have back : ∀ (place : Nat) now, (channel.updatePipeline id update).pipelines[place]? = some now →
      ∃ pipeline, channel.pipelines[place]? = some pipeline ∧ now.hops = pipeline.hops ∧
        now.newEvent = pipeline.newEvent ∧ (Withheld pipeline → Withheld now) := by
    intro place now found
    rw [update_get, map_eq_some_iff] at found
    obtain ⟨pipeline, present, rfl⟩ := found
    refine ⟨pipeline, present, ?_⟩
    split
    · exact ⟨hops pipeline, newEvent pipeline, withheld pipeline⟩
    · exact ⟨rfl, rfl, fun kept => kept⟩
  have emits : (channel.updatePipeline id update).emits = channel.emits := by
    funext place
    simp only [OutgoingChannel.emits, update_get]
    cases channel.pipelines[place]? with
    | none => rfl
    | some =>
      by_cases here : id = place
      · simp only [map_some, if_pos here, newEvent]
      · simp only [map_some, if_neg here]
  refine ⟨inv.sound, inv.trails, fun place now found => ?_, fun place known => ?_, fun place now found due made => ?_, ?_,
    fun delivery member place same => ?_⟩
  · obtain ⟨pipeline, present, same, _⟩ := back place now found
    rw [same]
    exact inv.chains place pipeline present
  · obtain ⟨pipeline, found, settled⟩ := inv.ready place known
    obtain ⟨now, present, _, still⟩ := forth place pipeline found
    exact ⟨now, present, still settled⟩
  · obtain ⟨pipeline, present, _, same, kept⟩ := back place now found
    exact kept (inv.evaluated place pipeline present due (same ▸ made))
  · rw [emits]
    exact inv.received
  · obtain ⟨pipeline, found, owner⟩ := inv.owners delivery member place same
    obtain ⟨now, present, his, _⟩ := forth place pipeline found
    exact ⟨now, present, his.trans owner⟩

theorem inv_ready (first second id : Nat) (channel : OutgoingChannel) (pipeline : Pipeline) (inv : Inv first second channel)
    (found : channel.pipelines[id]? = some pipeline) (settled : pipeline.waiting = false)
    (idle : id ∉ channel.jobs.queue) (undone : id ∉ channel.jobs.done) (apart : first ≠ second)
    (paced : id = second → first ∈ channel.jobs.done ∨
      (first ∈ channel.jobs.queue ∧ channel.jobs.hops first ≤ pipeline.hops)) :
    Inv first second { channel with jobs := channel.jobs.add id pipeline.hops } := by
  have chain := inv.chains id pipeline found
  refine ⟨JobQueue.sound_add channel.jobs inv.sound idle undone (by omega),
    JobQueue.trails_add first second id pipeline.hops inv.trails idle undone apart paced, inv.chains,
    fun other known => ?_, fun other known present due made => ?_, inv.received, inv.owners⟩
  · rcases known with queued | done
    · rcases mem_append.mp queued with old | new
      · exact inv.ready other (.inl old)
      · rw [mem_singleton.mp new]
        exact ⟨pipeline, found, settled⟩
    · exact inv.ready other (.inr done)
  refine inv.evaluated other known present (due.imp (fun queued => ?_) fun done => done) made
  obtain ⟨member, last⟩ := queued
  by_cases same : other = id
  · subst same
    simp only [JobQueue.add, Function.update_self] at last
    omega
  · simp only [JobQueue.add, Function.update_of_ne same] at last
    refine ⟨(mem_append.mp member).resolve_right fun new => same (mem_singleton.mp new), last⟩

theorem inv_append (first second : Nat) (channel : OutgoingChannel) (pipeline : Pipeline) (inv : Inv first second channel)
    (chain : 2 ≤ pipeline.hops) (fresh : pipeline.newEvent = none) :
    Inv first second { channel with pipelines := channel.pipelines ++ [pipeline] } := by
  have older : ∀ (id : Nat) known, channel.pipelines[id]? = some known →
      (channel.pipelines ++ [pipeline])[id]? = some known := fun id known found =>
    (List.getElem?_append_left (List.getElem?_eq_some_iff.mp found).1).trans found
  have back : ∀ (id : Nat) known, (channel.pipelines ++ [pipeline])[id]? = some known →
      channel.pipelines[id]? = some known ∨ (id = channel.pipelines.length ∧ known = pipeline) :=
    fun id known found => get_concat found
  have emits : ({ channel with pipelines := channel.pipelines ++ [pipeline] } : OutgoingChannel).emits = channel.emits := by
    funext id
    simp only [OutgoingChannel.emits]
    cases found : channel.pipelines[id]? with
    | some known => rw [older id known found]
    | none =>
      cases now : (channel.pipelines ++ [pipeline])[id]? with
      | none => rfl
      | some known =>
        rcases back id known now with old | ⟨_, rfl⟩
        · rw [found] at old
          cases old
        · simp [fresh]
  refine ⟨inv.sound, inv.trails, fun id known found => ?_, fun id member => ?_, fun id known found due made => ?_, ?_,
    fun delivery member id same => ?_⟩
  · rcases back id known found with old | ⟨_, rfl⟩
    · exact inv.chains id known old
    · exact chain
  · obtain ⟨known, found, settled⟩ := inv.ready id member
    exact ⟨known, older id known found, settled⟩
  · rcases back id known found with old | ⟨_, rfl⟩
    · exact inv.evaluated id known old due made
    · obtain ⟨known, present, _⟩ := inv.ready id (due.imp And.left fun done => done)
      exact absurd (List.getElem?_eq_some_iff.mp present).1 (by omega)
  · rw [emits]
    exact inv.received
  · obtain ⟨known, found, owner⟩ := inv.owners delivery member id same
    exact ⟨known, older id known found, owner⟩

theorem inv_notify (first second : Nat) (channel : OutgoingChannel) (inv : Inv first second channel)
    (apart : first ≠ second)
    (paced : ∀ hops, channel.readies .notify = some (second, hops) → first ∈ channel.jobs.done ∨
      (first ∈ channel.jobs.queue ∧ channel.jobs.hops first ≤ hops)) : Inv first second channel.notify := by
  simp only [notify]
  cases notices : channel.notices with
  | nil => exact inv
  | cons notice rest =>
    dsimp only
    have popped : Inv first second { channel with notices := rest } :=
      inv_aside first second channel _ inv rfl rfl [] (append_nil _).symm fun _ member => absurd member not_mem_nil
    cases straight : notice.direct || decide (notice.event.action = .presence) with
    | true =>
      refine inv_aside first second { channel with notices := rest } _ popped rfl rfl _ rfl fun delivery member => ?_
      rw [mem_singleton.mp member]
    | false =>
      simp only [Bool.false_eq_true, if_false, processOutgoingEvents]
      cases waits : (routeOutgoing notice.event.event 0 channel.stack).waits with
      | true => exact inv_append first second { channel with notices := rest } _ popped (hops_two _) rfl
      | false =>
        have grown := inv_append first second { channel with notices := rest }
          { subscriber := notice.subscriber, call := notice.call, event := notice.event,
            payload := notice.event.payload, parsed := parseWildcard notice.event.event = .params,
            blocked := (routeOutgoing notice.event.event 0 channel.stack).blocks, waiting := false,
            hops := (routeOutgoing notice.event.event 0 channel.stack).hops } popped (hops_two _) rfl
        have absent : ∀ id, id ∈ channel.jobs.queue ∨ id ∈ channel.jobs.done → id ≠ channel.pipelines.length := by
          intro id known
          obtain ⟨_, found, _⟩ := inv.ready id known
          exact Nat.ne_of_lt (List.getElem?_eq_some_iff.mp found).1
        have readied : channel.readies .notify =
            some (channel.pipelines.length, (routeOutgoing notice.event.event 0 channel.stack).hops) := by
          simp only [readies, notices, straight, waits, Bool.or_self, Bool.false_eq_true, if_false]
        refine inv_ready first second channel.pipelines.length _ _ grown getElem?_concat_length rfl
          (fun member => absent _ (.inl member) rfl) (fun member => absent _ (.inr member) rfl) apart fun same => ?_
        exact paced _ (readied.trans (by rw [same]))

theorem inv_settle (first second id : Nat) (fulfilled : Bool) (channel : OutgoingChannel) (inv : Inv first second channel)
    (apart : first ≠ second)
    (paced : ∀ hops, channel.readies (.settle id fulfilled) = some (second, hops) → first ∈ channel.jobs.done ∨
      (first ∈ channel.jobs.queue ∧ channel.jobs.hops first ≤ hops)) : Inv first second (channel.settle id fulfilled) := by
  simp only [settle]
  cases found : channel.pipelines[id]? with
  | none => exact inv
  | some pipeline =>
    dsimp only
    cases waits : pipeline.waiting with
    | false => exact inv
    | true =>
      have readied : channel.readies (.settle id fulfilled) = some (id, pipeline.hops) := by
        simp only [readies, found, waits, if_true]
      have marked := inv_update first second id channel
        (fun pipeline => { pipeline with waiting := false, blocked := pipeline.blocked || !fulfilled }) inv
        (fun _ => rfl) (fun _ => rfl) (fun _ => rfl) (fun _ _ => rfl) fun pipeline withheld =>
          withheld.imp (fun blocked => by simp [blocked]) fun unparsed => unparsed
      have idle : ∀ other, other ∈ channel.jobs.queue ∨ other ∈ channel.jobs.done → other ≠ id := by
        rintro other known rfl
        obtain ⟨known, present, settled⟩ := inv.ready other known
        rw [found] at present
        cases present
        rw [waits] at settled
        cases settled
      refine inv_ready first second id _ { pipeline with waiting := false, blocked := pipeline.blocked || !fulfilled }
        marked ?_ rfl (fun member => idle id (.inl member) rfl) (fun member => idle id (.inr member) rfl) apart
        fun same => paced pipeline.hops (readied.trans (by rw [same]))
      rw [update_get, found, map_some, if_pos rfl]

theorem inv_deliver (first second id : Nat) (rest : List Nat) (channel : OutgoingChannel) (pipeline : Pipeline)
    (inv : Inv first second channel) (apart : first ≠ second) (queue : channel.jobs.queue = id :: rest)
    (last : channel.jobs.hops id ≤ 1) (found : channel.pipelines[id]? = some pipeline)
    (spec : channel.jobs.tick = { channel.jobs with queue := rest, done := channel.jobs.done ++ [id] }) :
    Inv first second (({ channel with jobs := channel.jobs.tick } : OutgoingChannel).deliver id) := by
  have sound := JobQueue.sound_tick channel.jobs inv.sound
  have trails := JobQueue.trails_tick first second inv.sound inv.trails apart
  have queued : id ∈ channel.jobs.queue := by
    rw [queue]
    exact mem_cons_self
  have tail : ∀ other ∈ rest, other ∈ channel.jobs.queue := by
    intro other member
    rw [queue]
    exact mem_cons_of_mem id member
  rw [spec] at sound trails ⊢
  have ready : ∀ other, other ∈ rest ∨ other ∈ channel.jobs.done ++ [id] →
      ∃ pipeline, channel.pipelines[other]? = some pipeline ∧ pipeline.waiting = false := by
    rintro other (still | done)
    · exact inv.ready other (.inl (tail other still))
    rcases mem_append.mp done with old | new
    · exact inv.ready other (.inr old)
    · rw [mem_singleton.mp new]
      exact inv.ready id (.inl queued)
  have evaluated : ∀ (other : Nat) pipeline, channel.pipelines[other]? = some pipeline →
      (other ∈ rest ∧ channel.jobs.hops other ≤ 1) ∨ other ∈ channel.jobs.done ++ [id] → pipeline.newEvent = none →
      Withheld pipeline := by
    rintro other known present (⟨still, close⟩ | done) made
    · exact inv.evaluated other known present (.inl ⟨tail other still, close⟩) made
    rcases mem_append.mp done with old | new
    · exact inv.evaluated other known present (.inr old) made
    have same := mem_singleton.mp new
    subst same
    exact inv.evaluated other known present (.inl ⟨queued, last⟩) made
  simp only [deliver, found]
  cases made : pipeline.newEvent with
  | none =>
    refine ⟨sound, trails, inv.chains, ready, evaluated, ?_, inv.owners⟩
    have silent : channel.emits id = false := by simp [OutgoingChannel.emits, found, made]
    change channel.received.filterMap Delivery.pipeline = (channel.jobs.done ++ [id]).filter channel.emits
    rw [filter_append, inv.received]
    simp [silent]
  | some event =>
    refine ⟨sound, trails, inv.chains, ready, evaluated, ?_, fun delivery member other same => ?_⟩
    · have speaks : channel.emits id = true := by simp [OutgoingChannel.emits, found, made]
      change filterMap Delivery.pipeline (channel.received ++ [⟨pipeline.subscriber, some id, event⟩]) =
        (channel.jobs.done ++ [id]).filter channel.emits
      rw [filter_append, filterMap_append, inv.received]
      simp [speaks]
    rcases mem_append.mp member with old | new
    · exact inv.owners delivery old other same
    rw [mem_singleton.mp new] at same ⊢
    cases same
    exact ⟨pipeline, found, rfl⟩

theorem inv_hop (first second id : Nat) (rest : List Nat) (channel next : OutgoingChannel) (pipeline : Pipeline)
    (inv : Inv first second channel) (apart : first ≠ second) (queue : channel.jobs.queue = id :: rest)
    (found : channel.pipelines[id]? = some pipeline)
    (jobs : next.jobs = channel.jobs.tick) (received : next.received = channel.received)
    (spec : channel.jobs.tick = { channel.jobs with
      queue := rest ++ [id], hops := Function.update channel.jobs.hops id (channel.jobs.hops id - 1) })
    (forth : ∀ (other : Nat) pipeline, other ≠ id → (next.pipelines[other]? = some pipeline ↔
      channel.pipelines[other]? = some pipeline))
    (turn : ∃ now, next.pipelines[id]? = some now ∧ now.subscriber = pipeline.subscriber ∧ now.hops = pipeline.hops ∧
      now.waiting = pipeline.waiting ∧ (channel.jobs.hops id - 1 ≤ 1 → now.newEvent = none → Withheld now)) :
    Inv first second next := by
  have sound := JobQueue.sound_tick channel.jobs inv.sound
  have trails := JobQueue.trails_tick first second inv.sound inv.trails apart
  have queued : id ∈ channel.jobs.queue := by
    rw [queue]
    exact mem_cons_self
  have undone := inv.sound.apart id queued
  obtain ⟨now, present, owner, chain, waits, seen⟩ := turn
  have still : ∀ (other : Nat), other ∈ rest → other ∈ channel.jobs.queue := by
    intro other member
    rw [queue]
    exact mem_cons_of_mem id member
  rw [spec] at sound trails jobs
  refine ⟨jobs ▸ sound, jobs ▸ trails, fun other known there => ?_, fun other known => ?_,
    fun other known there due made => ?_, ?_, fun delivery member other same => ?_⟩
  · by_cases same : other = id
    · subst same
      rw [present] at there
      cases there
      rw [chain]
      exact inv.chains other pipeline found
    · exact inv.chains other known ((forth other known same).mp there)
  · by_cases same : other = id
    · subst same
      obtain ⟨old, was, settled⟩ := inv.ready other (.inl queued)
      rw [found] at was
      cases was
      exact ⟨now, present, waits.trans settled⟩
    · rw [jobs] at known
      have before : other ∈ channel.jobs.queue ∨ other ∈ channel.jobs.done := known.imp (fun member =>
        still other ((mem_append.mp member).resolve_right fun new => same (mem_singleton.mp new))) fun done => done
      obtain ⟨old, was, settled⟩ := inv.ready other before
      exact ⟨old, (forth other old same).mpr was, settled⟩
  · rw [jobs] at due
    by_cases same : other = id
    · subst same
      rw [present] at there
      cases there
      rcases due with ⟨_, close⟩ | done
      · simp only [Function.update_self] at close
        exact seen close made
      · exact absurd done undone
    · refine inv.evaluated other known ((forth other known same).mp there) (due.imp (fun near => ?_) fun done => done) made
      obtain ⟨member, close⟩ := near
      simp only [Function.update_of_ne same] at close
      exact ⟨still other ((mem_append.mp member).resolve_right fun new => same (mem_singleton.mp new)), close⟩
  · have emits : ∀ other ∈ channel.jobs.done, next.emits other = channel.emits other := by
      intro other done
      have different : other ≠ id := by
        rintro rfl
        exact undone done
      obtain ⟨old, was, _⟩ := inv.ready other (.inr done)
      simp only [OutgoingChannel.emits, was, (forth other old different).mpr was]
    rw [received, inv.received, jobs]
    exact (filter_congr emits).symm
  · rw [received] at member
    obtain ⟨old, was, his⟩ := inv.owners delivery member other same
    by_cases here : other = id
    · subst here
      rw [found] at was
      cases was
      exact ⟨now, present, owner.trans his⟩
    · exact ⟨old, (forth other old here).mpr was, his⟩

theorem inv_tick (first second : Nat) (channel : OutgoingChannel) (inv : Inv first second channel)
    (apart : first ≠ second) : Inv first second channel.tick := by
  simp only [tick]
  split
  · rename_i id rest _ queue
    have queued : id ∈ channel.jobs.queue := by
      rw [queue]
      exact mem_cons_self
    obtain ⟨pipeline, found, _⟩ := inv.ready id (.inl queued)
    rcases JobQueue.tick_cases channel.jobs queue with ⟨last, spec⟩ | ⟨_, spec⟩
    · rw [if_pos last]
      exact inv_deliver first second id rest channel pipeline inv apart queue last found spec
    rw [if_neg (by omega)]
    split
    · refine inv_hop first second id rest channel _ pipeline inv apart queue found rfl rfl spec
        (fun other known different => ?_) ⟨pipeline.evaluate, ?_, rfl, rfl, rfl, fun _ made => ?_⟩
      · rw [update_get]
        simp [Ne.symm different]
      · rw [update_get]
        simp [found]
      · simp only [Pipeline.evaluate] at made
        split at made
        · rename_i withheld
          rcases (Bool.or_eq_true _ _).mp withheld with blocked | unparsed
          · exact .inl blocked
          refine .inr ?_
          change pipeline.parsed = false
          simpa only [Bool.not_eq_eq_eq_not, Bool.not_true] using unparsed
        · cases made
    · refine inv_hop first second id rest channel _ pipeline inv apart queue found rfl rfl spec (fun _ _ _ => Iff.rfl)
        ⟨pipeline, found, rfl, rfl, rfl, fun close => ?_⟩
      omega
  · exact inv

theorem inv_step (first second : Nat) (apart : first ≠ second) (channel : OutgoingChannel) (label : Nat × OutgoingOp)
    (inv : Inv first second channel) (paced : Paced first second channel label) :
    Inv first second (channel.step label) := by
  obtain ⟨_, op⟩ := label
  have untouched : ∀ next : OutgoingChannel, next.jobs = channel.jobs → next.pipelines = channel.pipelines →
      next.received = channel.received → Inv first second next := fun next jobs pipelines received =>
    inv_aside first second channel next inv jobs pipelines [] (received.trans (append_nil _).symm)
      fun _ member => absurd member not_mem_nil
  cases op with
  | use | call => exact untouched _ rfl rfl rfl
  | notify => exact inv_notify first second channel inv apart paced
  | transform id =>
    exact inv_update first second id channel _ inv (fun _ => rfl) (fun _ => rfl) (fun _ => rfl) (fun _ settled => settled)
      fun _ withheld => withheld
  | block id =>
    exact inv_update first second id channel _ inv (fun _ => rfl) (fun _ => rfl) (fun _ => rfl) (fun _ settled => settled)
      fun _ _ => .inl rfl
  | settle id fulfilled => exact inv_settle first second id fulfilled channel inv apart paced
  | tick => exact inv_tick first second channel inv apart

theorem inv_start (first second : Nat) (engine : ChannelEngine) (stack : List (String → ParsedAddress)) :
    Inv first second (start engine stack) := by
  refine ⟨JobQueue.sound_empty, JobQueue.trails_empty first second, fun id pipeline found => ?_, fun id known => ?_,
    fun id pipeline found => ?_, rfl, fun delivery member => ?_⟩
  · cases found
  · rcases known with member | member <;> cases member
  · cases found
  · cases member

-- However the handlers take their time, an event that is ready later, with no fewer
-- microtasks to run, is received later.
theorem in_order_while_paced (engine : ChannelEngine) (stack : List (String → ParsedAddress)) (first second : Nat)
    (apart : first ≠ second) (labels : List (Nat × OutgoingOp))
    (paced : Follows step (Paced first second) (start engine stack) labels) :
    Always step (InOrder first second) (start engine stack) labels :=
  always_mono step (Inv first second) (InOrder first second) (inv_in_order first second) _ labels
    (always_of_follows step (Paced first second) (Inv first second)
      (fun channel label inv paced => inv_step first second apart channel label inv paced) _
      (inv_start first second engine stack) paced)

def twoEvents : List (Nat × OutgoingOp) :=
  [(0, .call (.addUser "u" .empty "u" (.supplied "r"))), (0, .notify),
    (0, .call (.sendMessage SystemSender.channel .allUsers .broadcast "a" .empty (.supplied "r1"))), (0, .notify),
    (0, .call (.sendMessage SystemSender.channel .allUsers .broadcast "b" .empty (.supplied "r2"))), (0, .notify)]

theorem in_order_when_settled_in_turn :
    Always step (InOrder 0 1) (start (.new "/ws" "room" "n" none) [fun _ => .params])
      (twoEvents ++ [(0, .settle 0 true), (0, .settle 1 true), (0, .tick), (0, .tick)]) := by
  refine in_order_while_paced _ _ 0 1 (by decide) _ ⟨?_, ?_, ?_, ?_, ?_, ?_, ?_, ?_, ?_, ?_, trivial⟩
  all_goals intro hops same
  all_goals cases same
  exact .inr (by decide)

theorem late_settled_event_overtaken :
    ¬ Always step Fifo (start (.new "/ws" "room" "n" none) [fun _ => .params])
      (twoEvents ++ [(0, .settle 1 true), (0, .tick), (0, .tick), (0, .tick), (0, .tick), (0, .settle 0 true),
        (0, .tick), (0, .tick), (0, .tick), (0, .tick)]) := by
  intro always
  have fifo := always.2.2.2.2.2.2.2.2.2.2.2.2.2.2.2.2
  have before := fifo 0 1 _ _ "u" rfl rfl (by decide) (by decide) (by decide)
  exact absurd before (by decide)

end OutgoingChannel

end PondSocket.Js
