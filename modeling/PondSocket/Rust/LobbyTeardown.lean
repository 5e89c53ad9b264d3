import PondSocket.Rust.LobbyJoins
import PondSocket.Library.Run

namespace PondSocket.Rust

open Library List Option
open Js (UserId NodeId)

namespace LobbyRun

variable (lobby : LobbyRun)

variable {place : Nat} (id : Nat) {name : String}

-- A channel is being removed from the map and closed, up to the clearing of its
-- connections.
def TornDown (lobby : LobbyRun) (id : Nat) : Prop :=
  (∃ place name, lobby.lock = some (place, .dropping name id)) ∨
    .closing id ∈ lobby.tasks ∨ .clearing id ∈ lobby.tasks

-- No channel is torn down with a connected user.
def Vacant (lobby : LobbyRun) : Prop :=
  ∀ (id : Nat) (object : LobbyChannel), lobby.TornDown id → lobby.objects[id]? = some object →
    object.channel.userCount = 0

-- The user count of a channel was read as zero, and it is still to be decided on or
-- to be closed.
def Judged (lobby : LobbyRun) (id : Nat) : Prop :=
  (∃ place name, lobby.lock = some (place, .flying name id) ∨ lobby.lock = some (place, .nodes name id)) ∨
    lobby.TornDown id

-- A user is added by a join that is not finished, unless the channel is not judged
-- just then; and the last join of a channel with a user is not finished between the
-- reading of its user count and that of its joins.
def Guarded (lobby : LobbyRun) : LobbyStep → Prop
  | .task place =>
    (∀ id joiner, lobby.tasks[place]? = some (.inserting id joiner false) → ¬ lobby.Judged id) ∧
      ∀ id object, lobby.tasks[place]? = some (.finishing id) → lobby.objects[id]? = some object →
        (∃ holder name, lobby.lock = some (holder, .flying name id)) → object.inFlight = 1 →
          object.channel.userCount = 0
  | _ => True

def Flying (lobby : LobbyRun) (id : Nat) : Prop := ∃ place name, lobby.lock = some (place, .flying name id)

-- The joins of a channel were read as none, or it is torn down.
def Condemned (lobby : LobbyRun) (id : Nat) : Prop :=
  (∃ place name, lobby.lock = some (place, .nodes name id)) ∨ lobby.TornDown id

-- Once the user count was read as zero, only a join that is not finished leaves a
-- user; once no join was found, nobody is left.
def Safe (lobby : LobbyRun) : Prop :=
  ∀ (id : Nat) (object : LobbyChannel), lobby.objects[id]? = some object →
    (lobby.Flying id → object.channel.userCount ≠ 0 → object.inFlight ≠ 0) ∧
      (lobby.Condemned id → object.channel.userCount = 0)

theorem vacant_of_safe (safe : lobby.Safe) : lobby.Vacant :=
  fun id object torn found => (safe id object found).2 (.inr torn)

theorem judged_iff (id : Nat) : lobby.Judged id ↔ lobby.Flying id ∨ lobby.Condemned id := by
  constructor
  · rintro (⟨place, name, flying | nodes⟩ | torn)
    · exact .inl ⟨place, name, flying⟩
    · exact .inr (.inl ⟨place, name, nodes⟩)
    · exact .inr (.inr torn)
  · rintro (⟨place, name, flying⟩ | ⟨place, name, nodes⟩ | torn)
    · exact .inl ⟨place, name, .inl flying⟩
    · exact .inl ⟨place, name, .inr nodes⟩
    · exact .inr torn

theorem joining_spared {id : Nat} {task : LobbyTask} (sound : lobby.Sound) (member : task ∈ lobby.tasks)
    (joins : task.joins id = true) : ¬ lobby.Condemned id := by
  obtain ⟨flight, alive⟩ := lobby.joining_alive sound member joins
  rintro (⟨place, name, nodes⟩ | ⟨place, name, dropping⟩ | closing | clearing)
  · exact flight (sound.inside place _ nodes).2.2
  · exact flight (sound.inside place _ dropping).2.2
  · exact alive (.inr ⟨_, closing, decide_eq_true rfl⟩)
  · exact alive (.inr ⟨_, clearing, decide_eq_true rfl⟩)

theorem torn_set (lobby next : LobbyRun) (place id : Nat) (new : LobbyTask)
    (lock : ∀ holder name, next.lock = some (holder, .dropping name id) → lobby.TornDown id)
    (tasks : next.tasks = lobby.tasks.set place new) (kept : new = .closing id ∨ new = .clearing id → lobby.TornDown id)
    (torn : next.TornDown id) : lobby.TornDown id := by
  rcases torn with ⟨holder, name, dropping⟩ | closing | clearing
  · exact lock holder name dropping
  · rw [tasks] at closing
    rcases mem_or_eq_of_mem_set closing with old | same
    · exact .inr (.inl old)
    · exact kept (.inl same.symm)
  · rw [tasks] at clearing
    rcases mem_or_eq_of_mem_set clearing with old | same
    · exact .inr (.inr old)
    · exact kept (.inr same.symm)

theorem safe_task {lobby : LobbyRun} (next : LobbyRun) (place : Nat) {new : LobbyTask} (safe : lobby.Safe) (lock : next.lock = lobby.lock)
    (tasks : next.tasks = lobby.tasks.set place new)
    (kept : ∀ id, new = .closing id ∨ new = .clearing id → lobby.TornDown id)
    (objects : ∀ (id : Nat) object, next.objects[id]? = some object → ∃ before, lobby.objects[id]? = some before ∧
      (lobby.Flying id → (before.channel.userCount ≠ 0 → before.inFlight ≠ 0) →
        object.channel.userCount ≠ 0 → object.inFlight ≠ 0) ∧
      (lobby.Condemned id → before.channel.userCount = 0 → object.channel.userCount = 0)) : next.Safe := by
  intro id object found
  obtain ⟨before, there, flying, condemned⟩ := objects id object found
  obtain ⟨flew, empty⟩ := safe id before there
  have judged : next.Condemned id → lobby.Condemned id := by
    rintro (⟨holder, name, nodes⟩ | torn)
    · exact .inl ⟨holder, name, lock ▸ nodes⟩
    apply Or.inr
    apply torn_set lobby next place id new _ tasks (kept id) torn
    intro holder name dropping
    exact .inl ⟨holder, name, lock ▸ dropping⟩
  constructor
  · rintro ⟨holder, name, held⟩
    have flies : lobby.Flying id := ⟨holder, name, lock ▸ held⟩
    exact flying flies (flew flies)
  · intro gone
    exact condemned (judged gone) (empty (judged gone))

theorem safe_goes (place : Nat) (new : LobbyTask) (safe : lobby.Safe)
    (kept : ∀ id, new = .closing id ∨ new = .clearing id → lobby.TornDown id) : (lobby.goes place new).Safe := by
  apply safe_task (lobby.goes place new) place safe rfl rfl kept
  intro id object found
  exact ⟨object, found, fun _ flew => flew, fun _ empty => empty⟩

variable {id}

variable {change : Channel → Channel}

theorem safe_touch {new : LobbyTask} (safe : lobby.Safe)
    (kept : ∀ id, new = .closing id ∨ new = .clearing id → lobby.TornDown id)
    (fewer : ∀ channel : Channel, channel.userCount = 0 → (change channel).userCount = 0) :
    ((lobby.touch id change).goes place new).Safe := by
  apply safe_task ((lobby.touch id change).goes place new) place safe rfl rfl kept
  intro other object found
  obtain ⟨before, there, same⟩ := get_modify found
  refine ⟨before, there, ?_⟩
  split at same
  · subst same
    exact ⟨fun _ flew users => flew fun empty => users (fewer _ empty), fun _ empty => fewer _ empty⟩
  · subst same
    exact ⟨fun _ flew => flew, fun _ empty => empty⟩

theorem safe_insert {new : LobbyTask} (safe : lobby.Safe)
    (kept : ∀ id, new = .closing id ∨ new = .clearing id → lobby.TornDown id)
    (guarded : (lobby.Flying id → lobby.inFlightOf id ≠ 0) ∧ ¬ lobby.Condemned id) :
    ((lobby.touch id change).goes place new).Safe := by
  apply safe_task ((lobby.touch id change).goes place new) place safe rfl rfl kept
  intro other object found
  obtain ⟨before, there, same⟩ := get_modify found
  refine ⟨before, there, ?_⟩
  by_cases own : id = other
  · subst own
    rw [if_pos rfl] at same
    subst same
    constructor
    · intro flying _ _
      have flight := guarded.1 flying
      rw [inFlightOf, there] at flight
      exact flight
    · intro condemned
      exact absurd condemned guarded.2
  · rw [if_neg own] at same
    subst same
    exact ⟨fun _ flew => flew, fun _ empty => empty⟩

theorem safe_finish (new : LobbyTask) (safe : lobby.Safe)
    (kept : ∀ id, new = .closing id ∨ new = .clearing id → lobby.TornDown id)
    (guarded : ∀ object, lobby.objects[id]? = some object → lobby.Flying id → object.inFlight = 1 →
      object.channel.userCount = 0) : ((lobby.count id (· - 1)).goes place new).Safe := by
  apply safe_task ((lobby.count id (· - 1)).goes place new) place safe rfl rfl kept
  intro other object found
  obtain ⟨before, there, same⟩ := get_modify found
  refine ⟨before, there, ?_⟩
  by_cases own : id = other
  · subst own
    rw [if_pos rfl] at same
    subst same
    constructor
    · intro flying flew users
      have some := flew users
      have more : before.inFlight ≠ 1 := fun last => users (guarded before there flying last)
      show before.inFlight - 1 ≠ 0
      omega
    · intro _ empty
      exact empty
  · rw [if_neg own] at same
    subst same
    exact ⟨fun _ flew => flew, fun _ empty => empty⟩

theorem safe_task_step {place : Nat} (sound : lobby.Sound) (safe : lobby.Safe)
    (guarded : lobby.Guarded (.task place)) : (lobby.taskStep place).Safe := by
  have added_apart : ∀ id other joining,
      added id joining = .closing other ∨ added id joining = .clearing other → lobby.TornDown other := by
    intro id other joining
    cases joining <;> simp [added]
  cases there : lobby.tasks[place]? with
  | none =>
    simp only [taskStep, there]
    exact safe
  | some task =>
    have member := mem_of_getElem? there
    cases task with
    | adding id _ joining =>
      simp only [taskStep, there]
      split
      · exact safe
      split
      · exact lobby.safe_goes place _ safe (by simp)
      · exact lobby.safe_goes place _ safe fun other => added_apart id other joining
    | inserting id joiner joining =>
      simp only [taskStep, there]
      split
      · exact safe
      split
      · exact lobby.safe_goes place _ safe fun other => added_apart id other joining
      apply lobby.safe_insert safe (by simp)
      cases joining with
      | true =>
        have joins : LobbyTask.joins id (.inserting id joiner true) = true := decide_eq_true rfl
        have flight := (lobby.joining_alive sound member joins).1
        exact ⟨fun _ => flight, lobby.joining_spared sound member joins⟩
      | false =>
        have unjudged := guarded.1 id joiner there
        rw [judged_iff] at unjudged
        exact ⟨fun flying => absurd (.inl flying) unjudged, fun condemned => unjudged (.inr condemned)⟩
    | settling id _ joining =>
      simp only [taskStep, there]
      apply lobby.safe_touch safe
      · exact fun other => added_apart id other joining
      · intro channel empty
        exact empty
    | finishing id =>
      simp only [taskStep, there]
      split
      · exact safe
      apply lobby.safe_finish _ safe (by simp)
      intro object found flying last
      exact guarded.2 id object there found flying last
    | leaving =>
      simp only [taskStep, there]
      split
      · exact safe
      split
      · apply lobby.safe_touch safe (by simp)
        intro channel empty
        have none : channel.connections.entries = [] := eq_nil_of_length_eq_zero empty
        simp only [Channel.userCount, OrderedMap.size, OrderedMap.delete, none]
        rfl
      · exact lobby.safe_goes place _ safe (by simp)
    | remoteLeaving =>
      simp only [taskStep, there]
      split
      · exact safe
      split
      · exact lobby.safe_goes place _ safe (by simp)
      · exact lobby.safe_goes place _ safe (by simp)
    | forgetting _ ops =>
      cases ops with
      | nil =>
        simp only [taskStep, there]
        split
        · exact safe
        · exact lobby.safe_goes place _ safe (by simp)
      | cons =>
        simp only [taskStep, there]
        apply lobby.safe_touch safe (by simp)
        intro channel empty
        rw [Channel.userCount, table_op_keeps.2]
        exact empty
    | closing =>
      simp only [taskStep, there]
      apply lobby.safe_touch safe
      · intro other same
        simp only [reduceCtorEq, LobbyTask.clearing.injEq, false_or] at same
        exact .inr (.inl (same ▸ member))
      · intro channel empty
        exact empty
    | clearing =>
      simp only [taskStep, there]
      apply lobby.safe_touch safe (by simp)
      intro channel _
      rfl
    | wiping =>
      simp only [taskStep, there]
      apply lobby.safe_touch safe (by simp)
      intro channel empty
      exact empty
    | _ =>
      simp only [taskStep, there]
      exact safe

theorem safe_lock (lobby next : LobbyRun) (safe : lobby.Safe) (objects : next.objects = lobby.objects)
    (flying : ∀ id, next.Flying id → lobby.Flying id ∨
      ∀ object, lobby.objects[id]? = some object → object.channel.userCount = 0)
    (condemned : ∀ id, next.Condemned id → lobby.Condemned id ∨ lobby.Flying id ∧
      ∀ object, lobby.objects[id]? = some object → object.inFlight = 0) : next.Safe := by
  intro id object found
  rw [objects] at found
  obtain ⟨flew, empty⟩ := safe id object found
  constructor
  · intro flies users
    rcases flying id flies with before | counted
    · exact flew before users
    · exact absurd (counted object found) users
  · intro gone
    rcases condemned id gone with before | ⟨flies, idle⟩
    · exact empty before
    · by_contra users
      exact flew flies users (idle object found)

theorem flying_free {id : Nat} (free : lobby.lock = none) : ¬ lobby.Flying id := by
  rintro ⟨_, _, held⟩
  rw [free] at held
  cases held

theorem torn_released (lobby next : LobbyRun) (place id : Nat) (task : LobbyTask) (free : next.lock = none)
    (tasks : next.tasks = lobby.tasks.set place task) (kept : task = .closing id ∨ task = .clearing id → lobby.TornDown id)
    (condemned : next.Condemned id) : lobby.TornDown id := by
  rcases condemned with ⟨holder, name, nodes⟩ | torn
  · rw [free] at nodes
    cases nodes
  apply torn_set lobby next place id task _ tasks kept torn
  intro holder name dropping
  rw [free] at dropping
  cases dropping

theorem safe_releases (lobby next : LobbyRun) (place : Nat) (task : LobbyTask) (safe : lobby.Safe)
    (objects : next.objects = lobby.objects) (free : next.lock = none) (tasks : next.tasks = lobby.tasks.set place task)
    (kept : ∀ id, task = .closing id ∨ task = .clearing id → lobby.TornDown id) : next.Safe := by
  apply safe_lock lobby next safe objects
  · intro id flying
    exact absurd flying (next.flying_free free)
  · intro id condemned
    exact .inl (.inr (torn_released lobby next place id task free tasks (kept id) condemned))

theorem condemned_holds {later : Section}
    (condemned : (lobby.holds place later).Condemned id) :
    (∃ name, later = .nodes name id ∨ later = .dropping name id) ∨ lobby.TornDown id := by
  rcases condemned with ⟨_, name, nodes⟩ | ⟨_, name, dropping⟩ | torn
  · cases nodes
    exact .inl ⟨name, .inl rfl⟩
  · cases dropping
    exact .inl ⟨name, .inr rfl⟩
  · exact .inr (.inr torn)

theorem safe_holds (place : Nat) (later : Section) (safe : lobby.Safe)
    (early : ∀ name id, later ≠ .flying name id ∧ later ≠ .nodes name id ∧ later ≠ .dropping name id) :
    (lobby.holds place later).Safe := by
  apply safe_lock lobby (lobby.holds place later) safe rfl
  · rintro id ⟨holder, name, held⟩
    cases held
    exact absurd rfl (early name id).1
  intro id condemned
  rcases lobby.condemned_holds condemned with ⟨name, same | same⟩ | torn
  · exact absurd same (early name id).2.1
  · exact absurd same (early name id).2.2
  · exact .inl (.inr torn)

theorem safe_counted (safe : lobby.Safe)
    (empty : lobby.objects[id]?.any (fun object => object.channel.userCount = 0) = true) :
    (lobby.holds place (.flying name id)).Safe := by
  obtain ⟨_, found, zero⟩ := (any_eq_true _ _).mp empty
  apply safe_lock lobby (lobby.holds place (.flying name id)) safe rfl
  · rintro other ⟨holder, another, held⟩
    cases held
    apply Or.inr
    intro read there
    rw [found] at there
    cases there
    exact of_decide_eq_true zero
  · intro other condemned
    rcases lobby.condemned_holds condemned with ⟨_, same | same⟩ | torn
    · cases same
    · cases same
    · exact .inl (.inr torn)

theorem safe_flown (safe : lobby.Safe) (held : lobby.lock = some (place, .flying name id))
    (idle : lobby.objects[id]?.any (fun object => object.inFlight = 0) = true) :
    (lobby.holds place (.nodes name id)).Safe := by
  obtain ⟨_, found, zero⟩ := (any_eq_true _ _).mp idle
  apply safe_lock lobby (lobby.holds place (.nodes name id)) safe rfl
  · rintro other ⟨holder, another, same⟩
    cases same
  intro other condemned
  rcases lobby.condemned_holds condemned with ⟨_, same | same⟩ | torn
  · cases same
    refine .inr ⟨⟨place, name, held⟩, fun read there => ?_⟩
    rw [found] at there
    cases there
    exact of_decide_eq_true zero
  · cases same
  · exact .inl (.inr torn)

theorem safe_nodes (safe : lobby.Safe)
    (held : lobby.lock = some (place, .nodes name id)) : (lobby.holds place (.dropping name id)).Safe := by
  apply safe_lock lobby (lobby.holds place (.dropping name id)) safe rfl
  · rintro other ⟨holder, another, same⟩
    cases same
  intro other condemned
  rcases lobby.condemned_holds condemned with ⟨_, same | same⟩ | torn
  · cases same
  · cases same
    exact .inl (.inl ⟨place, name, held⟩)
  · exact .inl (.inr torn)

theorem safe_looking {place : Nat} {name : String} (safe : lobby.Safe) :
    ({ lobby with objects := lobby.objects ++ [lobby.started name] }.holds place
      (.starting name lobby.objects.length)).Safe := by
  intro id object found
  rcases get_concat found with before | ⟨_, rfl⟩
  · have kept := lobby.safe_holds place (.starting name lobby.objects.length) safe (by simp)
    exact kept id object before
  · exact ⟨fun _ users => absurd rfl users, fun _ => rfl⟩

theorem safe_held (safe : lobby.Safe) :
    ((lobby.count id (· + 1)).releases place (.joined id)).Safe := by
  intro other object found
  obtain ⟨before, there, same⟩ := get_modify found
  constructor
  · intro flying
    exact absurd flying (flying_free _ rfl)
  · intro condemned
    have torn := torn_released lobby _ place other (.joined id) rfl rfl (by simp) condemned
    have empty := (safe other before there).2 (.inr torn)
    rw [same]
    split <;> exact empty

theorem safe_holder (safe : lobby.Safe) : lobby.holder.Safe := by
  have released : ∀ place, (lobby.releases place .done).Safe := by
    intro place
    exact safe_releases lobby (lobby.releases place .done) place .done safe rfl rfl rfl (by simp)
  cases held : lobby.lock with
  | none =>
    simp only [holder, held]
    exact safe
  | some owner =>
    obtain ⟨place, holding⟩ := owner
    cases holding with
    | looking =>
      simp only [holder, held]
      split
      · exact lobby.safe_holds place _ safe (by simp)
      · exact lobby.safe_looking safe
    | starting _ id =>
      simp only [holder, held]
      exact lobby.safe_holds place (.held id) safe (by simp)
    | held =>
      simp only [holder, held]
      exact lobby.safe_held safe
    | checking =>
      simp only [holder, held]
      split
      · exact released place
      · exact lobby.safe_holds place _ safe (by simp)
    | counting =>
      simp only [holder, held]
      split
      · rename_i empty
        exact lobby.safe_counted safe empty
      · exact released place
    | flying =>
      simp only [holder, held]
      split
      · rename_i idle
        exact lobby.safe_flown safe held idle
      · exact released place
    | nodes =>
      simp only [holder, held]
      split
      · exact lobby.safe_nodes safe held
      · exact released place
    | dropping name id =>
      simp only [holder, held]
      refine safe_releases lobby _ place (.closing id) safe ?_ ?_ ?_ ?_
      · rfl
      · rfl
      · rfl
      · intro other same
        simp only [LobbyTask.closing.injEq, reduceCtorEq, or_false] at same
        exact .inl ⟨place, name, same ▸ held⟩

theorem safe_call {call : LobbyCall} (safe : lobby.Safe) : (lobby.step (.call call)).Safe := by
  apply safe_lock lobby (lobby.step (.call call)) safe rfl
  · intro id flying
    exact .inl flying
  intro id condemned
  rcases condemned with nodes | dropping | closing | clearing
  · exact .inl (.inl nodes)
  · exact .inl (.inr (.inl dropping))
  · rcases mem_append.mp closing with old | new
    · exact .inl (.inr (.inr (.inl old)))
    · exact absurd (mem_singleton.mp new).symm (call_plain call id).2.2.1
  · rcases mem_append.mp clearing with old | new
    · exact .inl (.inr (.inr (.inr old)))
    · exact absurd (mem_singleton.mp new).symm (call_plain call id).2.2.2

theorem safe_take_lock {place : Nat} (safe : lobby.Safe) : (lobby.takeLock place).Safe := by
  have inside := lobby.safe_goes place .inside safe (by simp)
  simp only [takeLock]
  split
  · exact safe_holds _ place _ inside (by simp)
  · exact safe_holds _ place _ inside (by simp)
  · exact safe

theorem safe_table {id now : Nat} {op : TableOp} (safe : lobby.Safe) :
    (lobby.step (.table id now op)).Safe := by
  intro other object found
  obtain ⟨before, there, same⟩ := get_modify found
  have counts : object.channel.userCount = before.channel.userCount ∧ object.inFlight = before.inFlight := by
    rw [same]
    split
    · simp [Channel.userCount, table_op_keeps.2]
    · exact ⟨rfl, rfl⟩
  rw [counts.1, counts.2]
  exact safe other before there

theorem safe_step {step : LobbyStep} (sound : lobby.Sound) (safe : lobby.Safe)
    (guarded : lobby.Guarded step) : (lobby.step step).Safe := by
  cases step with
  | call => exact lobby.safe_call safe
  | lock => exact lobby.safe_take_lock safe
  | holder => exact lobby.safe_holder safe
  | task => exact lobby.safe_task_step sound safe guarded
  | add place =>
    simp only [LobbyRun.step]
    split
    · exact lobby.safe_goes place _ safe (by simp)
    · exact safe
  | finish place =>
    simp only [LobbyRun.step]
    split
    · exact lobby.safe_goes place _ safe (by simp)
    · exact safe
  | table => exact lobby.safe_table safe

theorem safe_new {endpointPath : String} {nodeId : NodeId} {pubsub : Bool} : (new endpointPath nodeId pubsub).Safe := by
  intro id object found
  cases found

theorem populated_spared (endpointPath : String) (nodeId : NodeId) (pubsub : Bool) (steps : List LobbyStep) :
    Always step Admitted (new endpointPath nodeId pubsub) steps ∧
      (Follows step Guarded (new endpointPath nodeId pubsub) steps →
        Always step Vacant (new endpointPath nodeId pubsub) steps) := by
  have sound := sound_new endpointPath nodeId pubsub
  constructor
  · apply always_mono step Sound Admitted admitted_of_sound
    apply always_of_follows step (fun _ _ => True) Sound (fun lobby label before _ => lobby.sound_step before) _ sound
    exact follows_all step _ _ _ fun _ _ => trivial
  · intro guarded
    apply always_mono step (fun lobby => lobby.Sound ∧ lobby.Safe) Vacant fun lobby both => lobby.vacant_of_safe both.2
    refine always_of_follows step Guarded _ ?_ _ ⟨sound, safe_new⟩ guarded
    intro lobby label both admitted
    exact ⟨lobby.sound_step both.1, lobby.safe_step both.1 both.2 admitted⟩

def emptyTeardown : List LobbyStep :=
  [.call (.acquireForJoin "/r"), .lock 0, .holder, .holder, .holder, .finish 0, .task 0,
    .lock 0, .holder, .holder, .holder, .holder, .holder, .task 0]

theorem populated_spared_empty :
    Follows step Guarded (new "/" "n" true) emptyTeardown ∧ Always step Vacant (new "/" "n" true) emptyTeardown ∧
      (run step (new "/" "n" true) emptyTeardown).TornDown 0 := by
  have guarded : Follows step Guarded (new "/" "n" true) emptyTeardown := by
    refine ⟨trivial, trivial, trivial, trivial, trivial, trivial, ⟨?_, ?_⟩, trivial, trivial, trivial, trivial, trivial, trivial,
      ⟨?_, ?_⟩, trivial⟩
    · intro id joiner there
      cases there
    · rintro id object _ _ ⟨holder, name, held⟩
      cases held
    · intro id joiner there
      cases there
    · intro id object there
      cases there
  exact ⟨guarded, (populated_spared "/" "n" true emptyTeardown).2 guarded, .inr (.inr (mem_singleton_self _))⟩

def populatedTeardown : List LobbyStep :=
  [.call (.acquireForJoin "/r"), .lock 0, .holder, .holder, .holder,
    .call (.removeChannelIfIdle "/r"), .lock 1, .holder, .holder,
    .add 0 ⟨⟨"alice", 0⟩, .empty⟩, .task 0, .task 0, .task 0, .finish 0, .task 0,
    .holder, .holder, .holder]

theorem populated_torn_down : ¬ Always step Vacant (new "/" "n" true) populatedTeardown := by
  intro vacant
  have last := always_run step _ vacant
  have closing : (run step (new "/" "n" true) populatedTeardown).TornDown 0 :=
    .inr (.inl (mem_of_getElem? (show (run step _ populatedTeardown).tasks[1]? = some (.closing 0) from rfl)))
  have populated : ((run step (new "/" "n" true) populatedTeardown).objects[0]?.any
      fun object => object.channel.userCount = 1) = true := by
    decide +kernel
  obtain ⟨object, found, count⟩ := (any_eq_true _ _).mp populated
  have none := last 0 object closing found
  rw [of_decide_eq_true count] at none
  cases none

end LobbyRun

end PondSocket.Rust
