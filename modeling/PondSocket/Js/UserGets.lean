import PondSocket.Js.ChannelRelease
import PondSocket.Js.Membership
import PondSocket.Library.Run

namespace PondSocket.Js

open Library List OrderedMap

def Effect.answer? : Effect → Option (RequestId × Option UserData)
  | .resolveUserGet requestId data => some (requestId, data)
  | _ => none

-- An engine, the timers that its getUserAcrossNodes calls have armed and the
-- requests that they have sent.
structure Asker where
  engine : ChannelEngine
  timers : List RequestId := []
  asked : List RequestId := []

namespace Asker

variable {asker : Asker} {label : Nat × EngineOp} {labels : List (Nat × EngineOp)} {requestId : RequestId}

def answered (asker : Asker) : List (RequestId × Option UserData) := asker.engine.effects.filterMap Effect.answer?

-- What the promise of one request has been resolved with.
def resolutions (asker : Asker) (requestId : RequestId) : List (Option UserData) :=
  (asker.answered.filter fun answer => decide (answer.1 = requestId)).map Prod.snd

def issues (asker : Asker) (op : EngineOp) : List RequestId :=
  match op with
  | .getUserAcrossNodes _ => if asker.engine.backend.isSome then [asker.engine.uuid] else []
  | _ => []

def cleared (asker : Asker) (op : EngineOp) : List RequestId :=
  match op with
  | .receive ⟨_, _, _, .userGetResponse _ requestId _ _⟩ =>
    if asker.engine.pendingUserGets.has requestId then [requestId] else []
  | _ => if asker.engine.tables.shuts op then asker.engine.pendingUserGets.keys else []

def fire (asker : Asker) (requestId : RequestId) : Asker :=
  if requestId ∈ asker.timers then
    { asker with
      engine := { asker.engine with
        pendingUserGets := asker.engine.pendingUserGets.delete requestId }.emit (.resolveUserGet requestId none)
      timers := asker.timers.filter fun armed => decide (armed ≠ requestId) }
  else asker

def step (asker : Asker) (label : Nat × EngineOp) : Asker :=
  match label.2 with
  | .userGetTimeout requestId => asker.fire requestId
  | op =>
    { engine := asker.engine.act label.1 op
      timers := (asker.timers.filter fun armed => decide (armed ∉ asker.cleared op)) ++ asker.issues op
      asked := asker.asked ++ asker.issues op }

-- The first of these settles the promise.
def answers (requestId : RequestId) (label : Nat × EngineOp) : Option (Option UserData) :=
  match label.2 with
  | .userGetTimeout fired => if fired = requestId then some none else none
  | .receive ⟨_, _, _, .userGetResponse userId named assigns presence⟩ =>
    if named = requestId then some (some ⟨userId, assigns.getD .empty, presence.getD .empty⟩) else none
  | _ => none

def asks (label : Nat × EngineOp) : Bool :=
  match label.2 with
  | .getUserAcrossNodes _ => true
  | _ => false

def new (endpointId name : String) (nodeId : NodeId) (backend : Option DistributedBackend) : Asker :=
  { engine := .new endpointId name nodeId backend }

-- close() finds nobody waiting.
def ClosesIdle (asker : Asker) (label : Nat × EngineOp) : Prop :=
  asker.engine.tables.shuts label.2 = true → asker.engine.pendingUserGets.isEmpty = true

structure Kept (asker : Asker) : Prop where
  armed : ∀ requestId, requestId ∈ asker.timers ↔ asker.engine.pendingUserGets.has requestId = true
  single : asker.timers.Nodup
  numbered : ∀ requestId ∈ asker.asked,
    ∃ index < asker.engine.drawn, requestId = .generated asker.engine.nodeId index
  distinct : asker.asked.Nodup
  waiting : ∀ requestId, asker.engine.pendingUserGets.has requestId = true ↔
    requestId ∈ asker.asked ∧ asker.resolutions requestId = []
  foreign : ∀ requestId, requestId ∉ asker.asked → asker.resolutions requestId = []

theorem answered_lasting (engine : ChannelEngine) :
    engine.effects.filterMap Effect.answer? = engine.lasting.filterMap Effect.answer? := by
  rw [ChannelEngine.lasting, filterMap_filter]
  apply filterMap_congr
  intro effect _
  cases effect <;> rfl

theorem answered_act (engine : ChannelEngine) (now : Nat) (op : EngineOp) :
    (engine.act now op).effects.filterMap Effect.answer? =
      engine.effects.filterMap Effect.answer? ++ (engine.notes op).filterMap Effect.answer? := by
  rw [answered_lasting, answered_lasting engine, (ChannelEngine.notes_act engine now op).lasting, filterMap_append]

theorem releases_silent (engine : ChannelEngine) (op : EngineOp) :
    (engine.releases op).filterMap Effect.answer? = [] := by
  by_cases resumed : op = .distributedSubscribed
  · subst resumed
    unfold ChannelEngine.releases
    cases engine.closed <;> rfl
  rw [ChannelEngine.releases_call _ resumed]
  unfold ChannelEngine.release
  cases engine.tables.shuts op <;> cases engine.distributedSubscription <;> rfl

theorem settled_none (op : EngineOp) :
    (((asker.engine.releases op).filterMap Effect.answer?).filter fun answer =>
      decide (answer.1 = requestId)).map Prod.snd =
        if asker.engine.pendingUserGets.has requestId = true then (none : Option (Option UserData)).toList else [] := by
  rw [releases_silent]
  split <;> rfl

theorem engine_step (armed : ∀ requestId, requestId ∈ asker.timers ↔ asker.engine.pendingUserGets.has requestId = true) :
    (asker.step label).engine = asker.engine.act label.1 label.2 := by
  obtain ⟨_, op⟩ := label
  cases op with
  | userGetTimeout requestId =>
    dsimp only [step, fire, ChannelEngine.act, ChannelEngine.userGetTimeout]
    by_cases held : requestId ∈ asker.timers
    · rw [if_pos held, if_pos ((armed requestId).mp held)]
    · rw [if_neg held, if_neg fun known => held ((armed requestId).mpr known)]
  | _ => rfl

theorem settled_one {known : Bool} {named : RequestId} {data : Option UserData} (exact : asker.engine.pendingUserGets.has named = known) :
    ((((if known = true then [Effect.resolveUserGet named data] else []).filterMap Effect.answer?).filter
      fun answer => decide (answer.1 = requestId)).map Prod.snd) =
      if asker.engine.pendingUserGets.has requestId = true then
        (if named = requestId then some data else none).toList else [] := by
  by_cases same : named = requestId
  · subst same
    rw [exact]
    cases known <;> simp [Effect.answer?]
  · cases known <;> simp [Effect.answer?, same]

variable {backend : DistributedBackend}

theorem resolutions_step (kept : asker.Kept) (backed : asker.engine.backend = some backend) :
    (asker.step label).resolutions requestId = asker.resolutions requestId ++
      if asker.engine.pendingUserGets.has requestId = true then (answers requestId label).toList else [] := by
  unfold resolutions answered
  rw [engine_step kept.armed, answered_act, filter_append, map_append]
  congr 1
  obtain ⟨_, op⟩ := label
  have rest := @settled_none asker requestId op
  cases op with
  | getUserAcrossNodes => simp [ChannelEngine.notes, backed, answers]
  | userGetTimeout => exact settled_one rfl
  | receive message =>
    obtain ⟨_, _, _, body⟩ := message
    cases body with
    | userGetResponse => exact settled_one rfl
    | _ => exact rest
  | _ => exact rest

theorem pending_step (armed : ∀ requestId, requestId ∈ asker.timers ↔ asker.engine.pendingUserGets.has requestId = true)
    (idle : asker.ClosesIdle label) :
    (asker.step label).engine.pendingUserGets.has requestId = true ↔
      (asker.engine.pendingUserGets.has requestId = true ∧ answers requestId label = none) ∨
        requestId ∈ asker.issues label.2 := by
  rw [engine_step armed, (ChannelEngine.notes_act asker.engine label.1 label.2).pending]
  have swept : ∀ op, (asker.engine.tables.shuts op = true → asker.engine.pendingUserGets.isEmpty = true) →
      ((if asker.engine.tables.shuts op then .empty else asker.engine.pendingUserGets).has requestId = true ↔
        (asker.engine.pendingUserGets.has requestId = true ∧ (none : Option (Option UserData)) = none) ∨
          requestId ∈ ([] : List RequestId)) := by
    intro op idle
    cases closes : asker.engine.tables.shuts op with
    | true =>
      rw [eq_empty (idle closes)]
      simp
    | false => simp
  have taken : ∀ named : RequestId, ∀ data : Option UserData,
      ((asker.engine.pendingUserGets.delete named).has requestId = true ↔
        (asker.engine.pendingUserGets.has requestId = true ∧
          (if named = requestId then some data else none) = none) ∨ requestId ∈ ([] : List RequestId)) := by
    intro named data
    by_cases same : named = requestId
    · simp [has_delete, same]
    · simp [has_delete, same, Ne.symm same]
  obtain ⟨_, op⟩ := label
  have rest := swept op idle
  cases op with
  | getUserAcrossNodes =>
    dsimp only [ChannelEngine.pendingAfter, answers, issues]
    cases asker.engine.backend <;> simp [OrderedSet.add, has_set, or_comm]
  | userGetTimeout fired => exact taken fired none
  | receive message =>
    obtain ⟨_, _, _, body⟩ := message
    cases body with
    | userGetResponse _ named => exact taken named _
    | _ => exact rest
  | _ => exact rest

theorem timers_step (armed : ∀ requestId, requestId ∈ asker.timers ↔ asker.engine.pendingUserGets.has requestId = true)
    (idle : asker.ClosesIdle label) :
    requestId ∈ (asker.step label).timers ↔
      (requestId ∈ asker.timers ∧ answers requestId label = none) ∨ requestId ∈ asker.issues label.2 := by
  have swept : ∀ op, (asker.engine.tables.shuts op = true → asker.engine.pendingUserGets.isEmpty = true) →
      (if asker.engine.tables.shuts op then asker.engine.pendingUserGets.keys else []) = [] := by
    intro op idle
    split
    · rename_i closes
      rw [eq_empty (idle closes)]
      rfl
    · rfl
  obtain ⟨_, op⟩ := label
  have rest := swept op idle
  cases op with
  | userGetTimeout fired =>
    dsimp only [step, fire, answers, issues]
    by_cases same : fired = requestId
    · subst same
      by_cases held : fired ∈ asker.timers <;> simp [held]
    · by_cases held : fired ∈ asker.timers <;> simp [held, same, Ne.symm same]
  | receive message =>
    obtain ⟨_, _, _, body⟩ := message
    cases body with
    | userGetResponse _ named =>
      by_cases same : named = requestId
      · cases has : asker.engine.pendingUserGets.has named <;> simp_all [step, cleared, answers, issues]
      · cases has : asker.engine.pendingUserGets.has named <;>
          simp [step, cleared, answers, same, Ne.symm same]
    | _ => simp [step, cleared, answers, rest]
  | _ => simp [step, cleared, answers, rest]

theorem issue_fresh (kept : asker.Kept) {op : EngineOp} (issued : requestId ∈ asker.issues op) :
    requestId = asker.engine.uuid ∧ requestId ∉ asker.asked := by
  have named : requestId = asker.engine.uuid := by
    unfold issues at issued
    split at issued
    · split at issued
      · exact mem_singleton.mp issued
      · exact absurd issued not_mem_nil
    · exact absurd issued not_mem_nil
  refine ⟨named, fun asked => ?_⟩
  obtain ⟨_, _, shape⟩ := kept.numbered requestId asked
  rw [named] at shape
  injection shape with _ same
  omega

theorem issue_drawn {op : EngineOp} (issued : requestId ∈ asker.issues op) (now : Nat) :
    asker.engine.drawn < (asker.engine.act now op).drawn := by
  cases op with
  | getUserAcrossNodes userId =>
    dsimp only [issues] at issued
    dsimp only [ChannelEngine.act, ChannelEngine.getUserAcrossNodes]
    split at issued
    · rename_i backed
      rw [if_pos backed]
      have later := (ChannelEngine.notes_broadcast { asker.engine.drawUuid with
        pendingUserGets := asker.engine.drawUuid.pendingUserGets.add asker.engine.uuid }
        (.userGetRequest userId asker.engine.uuid asker.engine.drawUuid.nodeId)).drawn
      exact Nat.lt_of_lt_of_le (Nat.lt_succ_self _) later
    · exact absurd issued not_mem_nil
  | _ => exact absurd issued not_mem_nil

theorem asked_step : (asker.step label).asked = asker.asked ++ asker.issues label.2 := by
  obtain ⟨_, op⟩ := label
  cases op with
  | userGetTimeout =>
    dsimp only [step, fire]
    split <;> exact (append_nil _).symm
  | _ => rfl

theorem issues_single (asker : Asker) (op : EngineOp) : (asker.issues op).Nodup := by
  unfold issues
  split
  · split
    · exact nodup_singleton _
    · exact nodup_nil
  · exact nodup_nil

theorem timers_single (kept : asker.Kept) : (asker.step label).timers.Nodup := by
  obtain ⟨_, op⟩ := label
  have cleared : ((asker.timers.filter fun armed => decide (armed ∉ asker.cleared op)) ++ asker.issues op).Nodup := by
    refine nodup_append'.mpr ⟨kept.single.filter _, issues_single asker op, fun requestId old issued => ?_⟩
    have waited := (kept.armed requestId).mp (mem_filter.mp old).1
    exact (issue_fresh kept issued).2 ((kept.waiting requestId).mp waited).1
  cases op with
  | userGetTimeout =>
    dsimp only [step, fire]
    split
    · exact kept.single.filter _
    · exact kept.single
  | _ => exact cleared

theorem kept_step (kept : asker.Kept) (backed : asker.engine.backend = some backend) (idle : asker.ClosesIdle label) :
    (asker.step label).Kept := by
  have resolved := fun requestId => @resolutions_step asker label requestId backend kept backed
  have pending := fun requestId => @pending_step asker label requestId kept.armed idle
  have engine := @engine_step asker label kept.armed
  have node : (asker.step label).engine.nodeId = asker.engine.nodeId := by
    rw [engine]
    exact congrArg Voice.nodeId ChannelEngine.voice_act
  have drawn : asker.engine.drawn ≤ (asker.step label).engine.drawn := by
    rw [engine]
    exact (ChannelEngine.notes_act asker.engine label.1 label.2).drawn
  have unasked : ∀ requestId, requestId ∉ asker.asked → (asker.step label).resolutions requestId = [] := by
    intro requestId other
    rw [resolved, kept.foreign requestId other, nil_append, if_neg fun known => other ((kept.waiting _).mp known).1]
  refine ⟨fun requestId => ?_, timers_single kept, fun requestId asked => ?_, ?_, fun requestId => ?_,
    fun requestId other => ?_⟩
  · rw [timers_step kept.armed idle, pending, kept.armed]
  · rw [asked_step] at asked
    rw [node]
    rcases mem_append.mp asked with earlier | issued
    · obtain ⟨index, below, shape⟩ := kept.numbered requestId earlier
      exact ⟨index, Nat.lt_of_lt_of_le below drawn, shape⟩
    · refine ⟨asker.engine.drawn, ?_, (issue_fresh kept issued).1⟩
      rw [engine]
      exact issue_drawn issued label.1
  · rw [asked_step]
    exact nodup_append'.mpr ⟨kept.distinct, issues_single asker _, fun requestId old issued =>
      (issue_fresh kept issued).2 old⟩
  · rw [pending, asked_step, mem_append]
    constructor
    · rintro (⟨known, open'⟩ | issued)
      · obtain ⟨asked, none⟩ := (kept.waiting requestId).mp known
        exact ⟨.inl asked, by rw [resolved, none, if_pos known, open']; rfl⟩
      · exact ⟨.inr issued, unasked requestId (issue_fresh kept issued).2⟩
    · rintro ⟨asked | issued, nothing⟩
      · rw [resolved, append_eq_nil_iff] at nothing
        have known := (kept.waiting requestId).mpr ⟨asked, nothing.1⟩
        rw [if_pos known] at nothing
        exact .inl ⟨known, Option.toList_eq_nil_iff.mp nothing.2⟩
      · exact .inr issued
  · rw [asked_step, mem_append, not_or] at other
    exact unasked requestId other.1

theorem backed_step (kept : asker.Kept) : (asker.step label).engine.backend = asker.engine.backend := by
  rw [engine_step kept.armed]
  change (asker.engine.act label.1 label.2).tables.backend = asker.engine.tables.backend
  rw [ChannelEngine.tables_act, (Tables.outline_step asker.engine.tables label.1 label.2).backend]

theorem kept_run (kept : asker.Kept) (backed : asker.engine.backend = some backend)
    (idle : Follows step ClosesIdle asker labels) :
    (run step asker labels).Kept ∧ (run step asker labels).engine.backend = some backend := by
  refine run_keeps step ClosesIdle (fun asker => asker.Kept ∧ asker.engine.backend = some backend) ?_ asker labels
    ⟨kept, backed⟩ idle
  rintro asker label ⟨kept, backed⟩ idle
  exact ⟨kept_step kept backed idle, (backed_step kept).trans backed⟩

theorem resolutions_run (kept : asker.Kept) (backed : asker.engine.backend = some backend)
    (asked : requestId ∈ asker.asked) (idle : Follows step ClosesIdle asker labels) :
    (run step asker labels).resolutions requestId =
      if asker.resolutions requestId = [] then (labels.findSome? (answers requestId)).toList
      else asker.resolutions requestId := by
  induction labels generalizing asker with
  | nil =>
    split
    · assumption
    · rfl
  | cons label _ ih =>
    have still : requestId ∈ (asker.step label).asked := by
      rw [asked_step]
      exact mem_append_left _ asked
    have one := @resolutions_step asker label requestId backend kept backed
    refine (ih (kept_step kept backed idle.1) ((backed_step kept).trans backed) still idle.2).trans ?_
    rw [one, findSome?_cons]
    by_cases nothing : asker.resolutions requestId = []
    · rw [nothing, if_pos rfl, if_pos ((kept.waiting requestId).mpr ⟨asked, nothing⟩)]
      cases answers requestId label <;> simp
    · rw [if_neg fun known => nothing ((kept.waiting requestId).mp known).2, append_nil, if_neg nothing, if_neg nothing]

theorem asked_run (asked : requestId ∈ asker.asked) : requestId ∈ (run step asker labels).asked := by
  refine run_keeps step (fun _ _ => True) (fun asker => requestId ∈ asker.asked) (fun asker label asked _ => ?_) asker
    labels asked (follows_all step _ asker labels fun _ _ => trivial)
  rw [asked_step]
  exact mem_append_left _ asked

theorem settled_after {now : Nat} {userId : UserId} (kept : asker.Kept) (backed : asker.engine.backend = some backend)
    (idle : Follows step ClosesIdle asker ((now, .getUserAcrossNodes userId) :: labels)) :
    asker.engine.uuid ∈ (run step asker ((now, .getUserAcrossNodes userId) :: labels)).asked ∧
      (run step asker ((now, .getUserAcrossNodes userId) :: labels)).resolutions asker.engine.uuid =
        (labels.findSome? (answers asker.engine.uuid)).toList := by
  have issued : asker.engine.uuid ∈ asker.issues (.getUserAcrossNodes userId) := by
    simp [issues, backed]
  have asked : asker.engine.uuid ∈ (asker.step (now, .getUserAcrossNodes userId)).asked := by
    exact mem_append_right _ issued
  have fresh := (issue_fresh kept issued).2
  have nothing : (asker.step (now, .getUserAcrossNodes userId)).resolutions asker.engine.uuid = [] := by
    rw [resolutions_step kept backed, kept.foreign _ fresh, if_neg fun known => fresh ((kept.waiting _).mp known).1]
    rfl
  have later := resolutions_run (kept_step kept backed idle.1) ((backed_step kept).trans backed) asked idle.2
  rw [if_pos nothing] at later
  exact ⟨@asked_run _ labels _ asked, later⟩

structure Alone (asker : Asker) : Prop where
  backend : asker.engine.backend = none
  timers : asker.timers = []
  asked : asker.asked = []
  pending : asker.engine.pendingUserGets = .empty

theorem alone_armed (alone : asker.Alone) (requestId : RequestId) :
    requestId ∈ asker.timers ↔ asker.engine.pendingUserGets.has requestId = true := by
  simp [alone.timers, alone.pending]

theorem alone_answered (alone : asker.Alone) :
    (asker.step label).answered.map Prod.snd =
      asker.answered.map Prod.snd ++ if asks label = true then [none] else [] := by
  unfold answered
  rw [engine_step (alone_armed alone), answered_act, map_append]
  congr 1
  obtain ⟨_, op⟩ := label
  have later := congrArg (map Prod.snd) (releases_silent asker.engine op)
  cases op with
  | getUserAcrossNodes => simp [ChannelEngine.notes, alone.backend, asks, Effect.answer?]
  | userGetTimeout => simp [ChannelEngine.notes, alone.pending, asks]
  | receive message =>
    obtain ⟨_, _, _, body⟩ := message
    cases body with
    | userGetResponse => simp [ChannelEngine.notes, alone.pending, asks]
    | _ => exact later
  | _ => exact later

theorem alone_step (alone : asker.Alone) : (asker.step label).Alone := by
  have idle : asker.ClosesIdle label := fun _ => by rw [alone.pending]; rfl
  have issued : asker.issues label.2 = [] := by
    unfold issues
    split
    · simp [alone.backend]
    · rfl
  refine ⟨?_, eq_nil_iff_forall_not_mem.mpr fun requestId armed => ?_, ?_, ?_⟩
  · rw [engine_step (alone_armed alone)]
    change (asker.engine.act label.1 label.2).tables.backend = none
    rw [ChannelEngine.tables_act, (Tables.outline_step asker.engine.tables label.1 label.2).backend]
    exact alone.backend
  · rw [timers_step (alone_armed alone) idle, issued, alone.timers] at armed
    simp at armed
  · rw [asked_step, alone.asked, issued]
    rfl
  · apply eq_empty
    rw [empty_iff]
    intro requestId
    rw [Bool.eq_false_iff, ne_eq, pending_step (alone_armed alone) idle, alone.pending, issued]
    simp

theorem alone_run (alone : asker.Alone) :
    (run step asker labels).Alone ∧ (run step asker labels).answered.map Prod.snd =
      asker.answered.map Prod.snd ++ (labels.filter asks).map fun _ => none := by
  induction labels generalizing asker with
  | nil => exact ⟨alone, (append_nil _).symm⟩
  | cons label _ ih =>
    obtain ⟨still, told⟩ := ih (@alone_step asker label alone)
    refine ⟨still, told.trans ?_⟩
    rw [alone_answered alone, filter_cons]
    cases asks label <;> simp

theorem kept_new (endpointId name : String) (nodeId : NodeId) : (new endpointId name nodeId (some backend)).Kept := by
  refine ⟨fun requestId => ?_, nodup_nil, fun requestId asked => absurd asked not_mem_nil, nodup_nil,
    fun requestId => ?_, fun requestId _ => rfl⟩
  · simp [new, ChannelEngine.new]
  · simp [new, ChannelEngine.new]

theorem user_gets_settled (endpointId name : String) (nodeId : NodeId) (backend : Option DistributedBackend)
    (labels : List (Nat × EngineOp))
    (idle : Follows step ClosesIdle (new endpointId name nodeId backend) labels) :
    let reached := run step (new endpointId name nodeId backend) labels
    reached.timers.Nodup ∧ reached.asked.Nodup ∧
      (∀ requestId, requestId ∈ reached.timers ↔ reached.engine.pendingUserGets.has requestId = true) ∧
      (∀ requestId, reached.engine.pendingUserGets.has requestId = true ↔
        requestId ∈ reached.asked ∧ reached.resolutions requestId = []) ∧
      (∀ before now userId after, labels = before ++ (now, .getUserAcrossNodes userId) :: after →
        backend.isSome = true →
        let requestId := (run step (new endpointId name nodeId backend) before).engine.uuid
        requestId ∈ reached.asked ∧
          reached.resolutions requestId = (after.findSome? (answers requestId)).toList) ∧
      (backend = none → reached.answered.map Prod.snd = (labels.filter asks).map fun _ => none) := by
  intro reached
  cases backend with
  | none =>
    have start : (new endpointId name nodeId none).Alone := ⟨rfl, rfl, rfl, rfl⟩
    obtain ⟨alone, told⟩ := @alone_run _ labels start
    refine ⟨?_, ?_, alone_armed alone, fun requestId => ?_, fun _ _ _ _ _ absent => absurd absent Bool.false_ne_true,
      fun _ => told⟩
    · rw [alone.timers]
      exact nodup_nil
    · rw [alone.asked]
      exact nodup_nil
    · rw [alone.pending, alone.asked]
      simp
  | some backend =>
    obtain ⟨kept, -⟩ := kept_run (kept_new endpointId name nodeId) rfl idle
    refine ⟨kept.single, kept.distinct, kept.armed, kept.waiting, ?_, fun absent => by cases absent⟩
    rintro before now userId after rfl - requestId
    obtain ⟨earlier, later⟩ := (follows_append step ClosesIdle _ _).mp idle
    obtain ⟨known, backed⟩ := kept_run (kept_new endpointId name nodeId) rfl earlier
    have whole : reached = run step (run step (new endpointId name nodeId (some backend)) before)
        ((now, .getUserAcrossNodes userId) :: after) := foldl_append
    rw [whole]
    exact settled_after known backed later

theorem user_gets_settled_twice :
    ((run step (new "lobby" "room" "first" (some ⟨"first", 90⟩))
      [(0, .getUserAcrossNodes "ada"), (1, .receive ⟨"lobby", "room", some "second",
        .userGetResponse "ada" (.generated "first" 0) none none⟩), (2, .userGetTimeout (.generated "first" 0)),
        (3, .close)]).resolutions (.generated "first" 0)).length = 1 := by
  have settled := user_gets_settled "lobby" "room" "first" (some ⟨"first", 90⟩)
    [(0, .getUserAcrossNodes "ada"), (1, .receive ⟨"lobby", "room", some "second",
      .userGetResponse "ada" (.generated "first" 0) none none⟩), (2, .userGetTimeout (.generated "first" 0)),
      (3, .close)]
    ⟨fun closes => absurd closes Bool.false_ne_true, fun closes => absurd closes Bool.false_ne_true,
      fun closes => absurd closes Bool.false_ne_true, fun _ => rfl, trivial⟩
  obtain ⟨-, -, -, -, each, -⟩ := settled
  exact congrArg length (each [] 0 "ada" _ rfl rfl).2

theorem user_get_closed_unsettled :
    let reached := run step (new "lobby" "room" "first" (some ⟨"first", 90⟩))
      [(0, .getUserAcrossNodes "ada"), (1, .close), (5000, .userGetTimeout (.generated "first" 0)),
        (5001, .receive ⟨"lobby", "room", some "second", .userGetResponse "ada" (.generated "first" 0) none none⟩)]
    reached.engine.closed = true ∧ reached.asked = [.generated "first" 0] ∧
      reached.resolutions (.generated "first" 0) = [] ∧
      reached.engine.pendingUserGets.has (.generated "first" 0) = false ∧ reached.timers = [] := by
  decide

end Asker

end PondSocket.Js
