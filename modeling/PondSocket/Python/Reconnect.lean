import PondSocket.Library.Run
import PondSocket.Python.ClientChannel

namespace PondSocket.Python

open Library List Option
open Js (ConnectionState)

-- A task of _reconnect_after: it sleeps, is in connect(), or is done. A task that is
-- done runs its callback in a later turn of the event loop.
inductive ReconnectPhase where
  | sleeping
  | connecting
  | finished
  | called
deriving DecidableEq

def ReconnectPhase.done : ReconnectPhase → Bool
  | .sleeping | .connecting => false
  | .finished | .called => true

-- Who has called connect(): the application, or a task.
inductive Connector where
  | application
  | task (index : Nat)
deriving DecidableEq

-- A client that disconnect() is never called on and whose max_reconnect_attempts is
-- negative. openings are the calls of connect() that wait in _open_transport, and
-- receiving counts the receive loops.
structure ReconnectClient where
  floatDelay : Bool
  state : ConnectionState := .disconnected
  attempts : Nat := 0
  tasks : List ReconnectPhase := []
  reconnectTask : Option Nat := none
  openings : List Connector := []
  receiving : Nat := 0
deriving DecidableEq

inductive ReconnectLabel where
  | connect
  | opened (place : Nat)
  | failed (place : Nat)
  | lost
  | wakes (task : Nat)
  | doneCallback (task : Nat)
deriving DecidableEq

namespace ReconnectClient

variable (client : ReconnectClient)

def connect (client : ReconnectClient) (connector : Connector) : ReconnectClient :=
  { client with state := .connecting, openings := client.openings ++ [connector] }

-- A task that is not done keeps its place. An int from 2 ** 1024 on times a float
-- raises an OverflowError.
def scheduleReconnect (client : ReconnectClient) : ReconnectClient :=
  if (client.reconnectTask.bind fun task => client.tasks[task]?).any (fun phase => !phase.done) then client
  else if client.floatDelay && decide (1024 ≤ client.attempts) then client
  else
    { client with
      attempts := client.attempts + 1
      tasks := client.tasks ++ [.sleeping]
      reconnectTask := some client.tasks.length }

def returns (client : ReconnectClient) (place : Nat) (connector : Connector) : ReconnectClient :=
  { client with
    openings := client.openings.eraseIdx place
    tasks := match connector with
      | .application => client.tasks
      | .task index => client.tasks.set index .finished }

def markConnected (client : ReconnectClient) : ReconnectClient :=
  { client with attempts := 0, state := .connected, receiving := client.receiving + 1 }

def markDisconnected (client : ReconnectClient) : ReconnectClient :=
  { client with state := .disconnected }.scheduleReconnect

def wakes (client : ReconnectClient) (task : Nat) : ReconnectClient :=
  if client.state = .disconnected then
    { client with tasks := client.tasks.set task .connecting }.connect (.task task)
  else { client with tasks := client.tasks.set task .finished }

def act (client : ReconnectClient) : ReconnectLabel → ReconnectClient
  | .connect => if client.state = .disconnected then client.connect .application else client
  | .opened place =>
    match client.openings[place]? with
    | none => client
    | some connector => client.markConnected.returns place connector
  | .failed place =>
    match client.openings[place]? with
    | none => client
    | some connector => client.markDisconnected.returns place connector
  | .lost =>
    if client.receiving = 0 then client else { client with receiving := client.receiving - 1 }.markDisconnected
  | .wakes task => if client.tasks[task]? = some .sleeping then client.wakes task else client
  | .doneCallback task =>
    if client.tasks[task]? = some .finished then
      { client with tasks := client.tasks.set task .called, reconnectTask := none }
    else client

def start (floatDelay : Bool) : ReconnectClient := ({ floatDelay := floatDelay } : ReconnectClient).act .connect

-- While it is disconnected and no connect() runs, a task that is not done is stored.
def Retrying (client : ReconnectClient) : Prop :=
  client.state = .disconnected → client.openings = [] →
    ∃ task phase, client.reconnectTask = some task ∧ client.tasks[task]? = some phase ∧ phase.done = false

def Schedulable (client : ReconnectClient) : Prop :=
  (client.reconnectTask = none → client.floatDelay = true → client.attempts < 1024) ∧
    ∀ task ∈ client.reconnectTask, client.tasks[task]? = some .sleeping

instance (client : ReconnectClient) : Decidable client.Schedulable := inferInstanceAs (Decidable (_ ∧ _))

def Timely (client : ReconnectClient) : ReconnectLabel → Prop
  | .failed place => client.openings[place]? ≠ none → client.Schedulable
  | .lost => client.receiving ≠ 0 → client.Schedulable
  | _ => True

instance (client : ReconnectClient) : (label : ReconnectLabel) → Decidable (client.Timely label)
  | .failed place => inferInstanceAs (Decidable (client.openings[place]? ≠ none → client.Schedulable))
  | .lost => inferInstanceAs (Decidable (client.receiving ≠ 0 → client.Schedulable))
  | .connect | .opened _ | .wakes _ | .doneCallback _ => isTrue trivial

inductive Mode (client : ReconnectClient) : Prop where
  | disconnected (state : client.state = .disconnected) (openings : client.openings = []) (receiving : client.receiving = 0)
  | connecting (state : client.state = .connecting) (connector : Connector) (openings : client.openings = [connector])
      (receiving : client.receiving = 0)
  | connected (state : client.state = .connected) (openings : client.openings = []) (receiving : client.receiving = 1)

structure Kept (client : ReconnectClient) : Prop where
  mode : client.Mode
  stored : ∀ task phase, client.tasks[task]? = some phase → phase ≠ .called → client.reconnectTask = some task
  opening : ∀ task, Connector.task task ∈ client.openings → client.tasks[task]? = some .connecting
  retries : client.state = .disconnected → ∃ task, client.reconnectTask = some task ∧ client.tasks[task]? = some .sleeping

theorem kept_start {floatDelay : Bool} : (start floatDelay).Kept := by
  constructor
  · exact .connecting rfl .application rfl rfl
  · intro task phase found
    cases found
  · intro task member
    cases mem_singleton.mp member
  · intro state
    cases state

theorem kept_retrying (kept : client.Kept) : client.Retrying := by
  intro state _
  obtain ⟨task, stored, sleeps⟩ := kept.retries state
  exact ⟨task, .sleeping, stored, sleeps, rfl⟩

structure Scheduled (client next : ReconnectClient) : Prop where
  state : next.state = client.state
  openings : next.openings = client.openings
  receiving : next.receiving = client.receiving
  tasks : ∃ more, next.tasks = client.tasks ++ more
  stored : ∀ task phase, next.tasks[task]? = some phase → phase ≠ .called → next.reconnectTask = some task
  retries : ∃ task, next.reconnectTask = some task ∧ next.tasks[task]? = some .sleeping

theorem schedule_timely (schedulable : client.Schedulable)
    (stored : ∀ task phase, client.tasks[task]? = some phase → phase ≠ .called → client.reconnectTask = some task) :
    client.Scheduled client.scheduleReconnect := by
  obtain ⟨affordable, sleeping⟩ := schedulable
  simp only [scheduleReconnect]
  cases held : client.reconnectTask with
  | some task =>
    have sleeps := sleeping task held
    simp only [bind_some, sleeps, any_some, ReconnectPhase.done, Bool.not_false, if_true]
    exact ⟨rfl, rfl, rfl, ⟨[], (append_nil _).symm⟩, stored, task, held, sleeps⟩
  | none =>
    simp only [bind_none, any_none, Bool.false_eq_true, if_false]
    have fits : ¬ (client.floatDelay && decide (1024 ≤ client.attempts)) = true := by
      intro overflows
      obtain ⟨float, many⟩ := (Bool.and_eq_true _ _).mp overflows
      have few := affordable held float
      have reached := of_decide_eq_true many
      omega
    rw [if_neg fits]
    refine ⟨rfl, rfl, rfl, ⟨[.sleeping], rfl⟩, ?_, client.tasks.length, rfl, getElem?_concat_length⟩
    intro task phase found living
    rcases Nat.lt_trichotomy task client.tasks.length with before | same | _
    · rw [getElem?_append_left before] at found
      have kept := stored task phase found living
      rw [held] at kept
      cases kept
    · rw [same]
    · rw [getElem?_eq_none (by rw [length_append, length_singleton]; omega)] at found
      cases found

theorem stored_set {index : Nat} {before after : ReconnectPhase}
    (stored : ∀ task phase, client.tasks[task]? = some phase → phase ≠ .called → client.reconnectTask = some task)
    (there : client.tasks[index]? = some before) (living : before ≠ .called) (task : Nat) (phase : ReconnectPhase)
    (found : (client.tasks.set index after)[task]? = some phase) (kept : phase ≠ .called) :
    client.reconnectTask = some task := by
  by_cases same : index = task
  · subst same
    exact stored index before there living
  · rw [getElem?_set_ne same] at found
    exact stored task phase found kept

variable {place : Nat}

theorem opening_only {connector : Connector} (mode : client.Mode) (found : client.openings[place]? = some connector) :
    client.state = .connecting ∧ client.openings = [connector] ∧ place = 0 ∧ client.receiving = 0 := by
  cases mode with
  | disconnected _ openings =>
    rw [openings] at found
    cases found
  | connected _ openings =>
    rw [openings] at found
    cases found
  | connecting state _ openings receiving =>
    rw [openings] at found
    cases place with
    | zero =>
      cases found
      exact ⟨state, openings, rfl, receiving⟩
    | succ => cases found

theorem kept_connect (kept : client.Kept) : (client.act .connect).Kept := by
  simp only [act]
  by_cases idle : client.state = .disconnected
  · rw [if_pos idle]
    have none : client.openings = [] := by
      cases kept.mode with
      | disconnected _ openings => exact openings
      | connecting state =>
        rw [state] at idle
        cases idle
      | connected _ openings => exact openings
    have quiet : client.receiving = 0 := by
      cases kept.mode with
      | disconnected _ _ receiving => exact receiving
      | connecting _ _ _ receiving => exact receiving
      | connected state =>
        rw [state] at idle
        cases idle
    refine ⟨.connecting rfl .application ?_ quiet, kept.stored, ?_, ?_⟩
    · simp [connect, none]
    · intro task member
      simp only [connect, none, nil_append] at member
      cases mem_singleton.mp member
    · intro state
      cases state
  · rw [if_neg idle]
    exact kept

theorem kept_opened (kept : client.Kept) : (client.act (.opened place)).Kept := by
  simp only [act]
  cases found : client.openings[place]? with
  | none => exact kept
  | some connector =>
    obtain ⟨state, openings, first, quiet⟩ := opening_only client kept.mode found
    subst first
    have closed : client.openings.eraseIdx 0 = [] := by
      rw [openings]
      rfl
    have mode : ∀ tasks, Mode { client.markConnected with openings := client.openings.eraseIdx 0, tasks := tasks } := by
      intro tasks
      refine .connected rfl closed ?_
      simp [markConnected, quiet]
    have opening : ∀ task (tasks : List ReconnectPhase), Connector.task task ∈ client.openings.eraseIdx 0 →
        tasks[task]? = some .connecting := by
      intro task tasks member
      rw [closed] at member
      exact absurd member not_mem_nil
    cases connector with
    | application => exact ⟨mode _, kept.stored, fun task => opening task _, fun state => by cases state⟩
    | task index =>
      have there : client.tasks[index]? = some .connecting :=
        kept.opening index (by rw [openings]; exact mem_singleton_self _)
      refine ⟨mode _, ?_, fun task => opening task _, fun state => by cases state⟩
      exact stored_set client kept.stored there (by decide)

theorem kept_failed (kept : client.Kept) (timely : client.Timely (.failed place)) :
    (client.act (.failed place)).Kept := by
  simp only [act]
  cases found : client.openings[place]? with
  | none => exact kept
  | some connector =>
    obtain ⟨state, openings, first, quiet⟩ := opening_only client kept.mode found
    have schedulable : client.Schedulable := timely (by rw [found]; exact fun contra => by cases contra)
    subst first
    cases connector with
    | task index =>
      -- A task that fails in connect() is itself the one that is stored.
      have there : client.tasks[index]? = some .connecting :=
        kept.opening index (by rw [openings]; exact mem_singleton_self _)
      have own := kept.stored index .connecting there (by decide)
      have sleeps := schedulable.2 index own
      rw [there] at sleeps
      cases sleeps
    | application =>
      have scheduled := schedule_timely { client with state := .disconnected } schedulable kept.stored
      have closed : client.openings.eraseIdx 0 = [] := by
        rw [openings]
        rfl
      have gone : ({ client with state := .disconnected }.scheduleReconnect.openings).eraseIdx 0 = [] := by
        rw [scheduled.openings]
        exact closed
      refine ⟨.disconnected scheduled.state gone (scheduled.receiving.trans quiet), scheduled.stored, ?_, ?_⟩
      · intro task member
        change Connector.task task ∈ ({ client with state := .disconnected }.scheduleReconnect.openings).eraseIdx 0 at member
        rw [gone] at member
        exact absurd member not_mem_nil
      · exact fun _ => scheduled.retries

theorem kept_lost (kept : client.Kept) (timely : client.Timely .lost) :
    (client.act .lost).Kept := by
  simp only [act]
  by_cases quiet : client.receiving = 0
  · rw [if_pos quiet]
    exact kept
  rw [if_neg quiet]
  have schedulable : client.Schedulable := timely quiet
  have connected : client.openings = [] ∧ client.receiving = 1 := by
    cases kept.mode with
    | disconnected _ _ receiving => exact absurd receiving quiet
    | connecting _ _ _ receiving => exact absurd receiving quiet
    | connected _ openings receiving => exact ⟨openings, receiving⟩
  have scheduled := schedule_timely { client with receiving := client.receiving - 1, state := .disconnected } schedulable
    kept.stored
  have openings := scheduled.openings.trans connected.1
  refine ⟨.disconnected scheduled.state openings (scheduled.receiving.trans ?_), scheduled.stored, ?_,
    fun _ => scheduled.retries⟩
  · simp only [connected.2]
  intro task member
  change Connector.task task ∈
    ({ client with receiving := client.receiving - 1, state := .disconnected }.scheduleReconnect.openings) at member
  rw [openings] at member
  exact absurd member not_mem_nil

theorem kept_wakes {task : Nat} (kept : client.Kept) : (client.act (.wakes task)).Kept := by
  simp only [act]
  by_cases sleeps : client.tasks[task]? = some .sleeping
  · rw [if_pos sleeps]
    obtain ⟨inside, _⟩ := List.getElem?_eq_some_iff.mp sleeps
    simp only [wakes]
    by_cases idle : client.state = .disconnected
    · rw [if_pos idle]
      cases kept.mode with
      | connecting state =>
        rw [state] at idle
        cases idle
      | connected state =>
        rw [state] at idle
        cases idle
      | disconnected state openings receiving =>
        refine ⟨.connecting rfl (.task task) ?_ receiving, ?_, ?_, fun state => by cases state⟩
        · simp [connect, openings]
        · exact stored_set client kept.stored sleeps (by decide)
        · intro other member
          simp only [connect, openings, nil_append] at member
          cases mem_singleton.mp member
          exact getElem?_set_self inside
    · rw [if_neg idle]
      refine ⟨?_, stored_set client kept.stored sleeps (by decide), ?_, fun state => absurd state idle⟩
      · cases kept.mode with
        | disconnected state => exact absurd state idle
        | connecting state only openings receiving => exact .connecting state only openings receiving
        | connected state openings receiving => exact .connected state openings receiving
      intro other member
      have there := kept.opening other member
      have apart : task ≠ other := by
        intro same
        rw [← same, sleeps] at there
        cases there
      exact (getElem?_set_ne apart).trans there
  · rw [if_neg sleeps]
    exact kept

theorem kept_done {task : Nat} (kept : client.Kept) :
    (client.act (.doneCallback task)).Kept := by
  simp only [act]
  by_cases finished : client.tasks[task]? = some .finished
  · rw [if_pos finished]
    have own := kept.stored task .finished finished (by decide)
    refine ⟨?_, ?_, ?_, ?_⟩
    · cases kept.mode with
      | disconnected state openings receiving => exact .disconnected state openings receiving
      | connecting state only openings receiving => exact .connecting state only openings receiving
      | connected state openings receiving => exact .connected state openings receiving
    · intro other phase found living
      by_cases same : task = other
      · subst same
        obtain ⟨inside, _⟩ := List.getElem?_eq_some_iff.mp finished
        rw [getElem?_set_self inside] at found
        exact absurd (some.inj found).symm living
      rw [getElem?_set_ne same] at found
      have also := kept.stored other phase found living
      rw [own] at also
      exact absurd (some.inj also) same
    · intro other member
      have there := kept.opening other member
      have apart : task ≠ other := by
        intro same
        rw [← same, finished] at there
        cases there
      exact (getElem?_set_ne apart).trans there
    · intro state
      obtain ⟨_, held, sleeps⟩ := kept.retries state
      rw [own] at held
      rw [← some.inj held, finished] at sleeps
      cases sleeps
  · rw [if_neg finished]
    exact kept

theorem kept_act (label : ReconnectLabel) (kept : client.Kept)
    (timely : client.Timely label) : (client.act label).Kept := by
  cases label with
  | connect => exact kept_connect client kept
  | opened => exact kept_opened client kept
  | failed => exact kept_failed client kept timely
  | lost => exact kept_lost client kept timely
  | wakes => exact kept_wakes client kept
  | doneCallback => exact kept_done client kept

theorem keeps_retrying (floatDelay : Bool) (labels : List ReconnectLabel)
    (timely : Follows act Timely (start floatDelay) labels) : Always act Retrying (start floatDelay) labels := by
  apply always_mono act Kept
  · exact kept_retrying
  · exact always_of_follows act Timely Kept kept_act (start floatDelay) kept_start timely

theorem keeps_retrying_twice :
    Always act Retrying (start true)
      [.failed 0, .wakes 0, .opened 0, .doneCallback 0, .lost, .wakes 1, .opened 0, .doneCallback 1, .lost] :=
  keeps_retrying true _ (by decide +kernel)

theorem second_failure_gives_up : ¬ Always act Retrying (start true) [.failed 0, .wakes 0, .failed 0] := by
  intro always
  have last := always_run act (start true) always
  obtain ⟨_, _, stored, found, running⟩ := last rfl rfl
  rw [← some.inj stored] at found
  rw [← some.inj found] at running
  cases running

end ReconnectClient

end PondSocket.Python
