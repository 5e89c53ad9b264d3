import PondSocket.Python.Reconnect

namespace PondSocket.Python.Closing

open Library List
open Js (ConnectionState)

-- A receive loop: it has not run, it reads a socket, disconnect() has cancelled it and
-- its epilogue is still to come, or it is over.
inductive LoopPhase where
  | created
  | reading (socket : Nat)
  | cancelled (socket : Nat)
  | ended

-- openings are the calls of connect() that wait for their transport, closing is the
-- number of calls of disconnect() that wait for socket.close(). returned tells that a
-- disconnect() has returned and the application has not called connect() since, and
-- heard the channels that have got an event while it held.
structure WebSocketClient where
  maxReconnectAttempts : Int
  floatDelay : Bool
  state : ConnectionState := .disconnected
  channels : List String := []
  attempts : Nat := 0
  tasks : List ReconnectPhase := []
  reconnectTask : Option Nat := none
  disconnecting : Bool := false
  openings : List Connector := []
  opened : Nat := 0
  socket : Option Nat := none
  loops : List LoopPhase := []
  recvTask : Option Nat := none
  closing : Nat := 0
  returned : Bool := false
  heard : List String := []

inductive Label where
  | connect
  | disconnect
  | closed
  | opened (place : Nat)
  | failed (place : Nat)
  | starts (loop : Nat)
  | frame (loop : Nat) (channel : String)
  | ends (loop : Nat)
  | wakes (task : Nat)
  | doneCallback (task : Nat)
  | createChannel (name : String)

def LoopPhase.live : LoopPhase → Bool
  | .created | .reading _ => true
  | .cancelled _ | .ended => false

def LoopPhase.cancel : LoopPhase → LoopPhase
  | .created => .ended
  | .reading socket => .cancelled socket
  | phase => phase

namespace WebSocketClient

variable (client : WebSocketClient)

def start (maxReconnectAttempts : Int) (floatDelay : Bool) : WebSocketClient :=
  { maxReconnectAttempts := maxReconnectAttempts, floatDelay := floatDelay }

def connect (client : WebSocketClient) (connector : Connector) : WebSocketClient :=
  let client := { client with disconnecting := false }
  if client.state = .disconnected then
    { client with state := .connecting, openings := client.openings ++ [connector] }
  else client

-- An int from 2 ** 1024 on times a float raises an OverflowError.
def scheduleReconnect (client : WebSocketClient) : WebSocketClient :=
  if client.disconnecting then client
  else if 0 ≤ client.maxReconnectAttempts ∧ client.maxReconnectAttempts ≤ client.attempts then client
  else if (client.reconnectTask.bind fun task => client.tasks[task]?).any (fun phase => !phase.done) then client
  else if client.floatDelay && decide (1024 ≤ client.attempts) then client
  else
    { client with
      attempts := client.attempts + 1
      tasks := client.tasks ++ [.sleeping]
      reconnectTask := some client.tasks.length }

def returns (client : WebSocketClient) (place : Nat) (connector : Connector) : WebSocketClient :=
  { client with
    openings := client.openings.eraseIdx place
    tasks := match connector with
      | .application => client.tasks
      | .task index => client.tasks.set index .finished }

def markConnected (client : WebSocketClient) : WebSocketClient :=
  { client with attempts := 0, state := .connected }

def markDisconnected (client : WebSocketClient) : WebSocketClient :=
  { client with state := .disconnected }.scheduleReconnect

def transportOpened (client : WebSocketClient) : WebSocketClient :=
  let client := { client with opened := client.opened + 1, socket := some client.opened }.markConnected
  { client with loops := client.loops ++ [.created], recvTask := some client.loops.length }

def cancelReconnect (client : WebSocketClient) : WebSocketClient :=
  match client.reconnectTask with
  | none => client
  | some task =>
    if (client.tasks[task]?).any (fun phase => !phase.done) then
      { client with
        tasks := client.tasks.set task .finished
        openings := client.openings.filter (· ≠ .task task)
        reconnectTask := none }
    else client

def cancelReceive (client : WebSocketClient) : WebSocketClient :=
  match client.recvTask.bind fun loop => client.loops[loop]?.map fun phase => (loop, phase) with
  | none | some (_, .ended) => client
  | some (loop, phase) => { client with loops := client.loops.set loop phase.cancel, recvTask := none }

def finish (client : WebSocketClient) : WebSocketClient :=
  { client with state := .disconnected, channels := [], returned := true }

def disconnect (client : WebSocketClient) : WebSocketClient :=
  let client := { client with disconnecting := true }.cancelReconnect.cancelReceive
  if client.socket.isSome then { client with socket := none, closing := client.closing + 1 } else client.finish

def frame (client : WebSocketClient) (channel : String) : WebSocketClient :=
  if client.returned ∧ channel ∈ client.channels then { client with heard := client.heard ++ [channel] } else client

def loopEnds (client : WebSocketClient) (loop socket : Nat) : WebSocketClient :=
  { client with
    socket := if client.socket = some socket then none else client.socket
    loops := client.loops.set loop .ended }.markDisconnected

def wakes (client : WebSocketClient) (task : Nat) : WebSocketClient :=
  if client.disconnecting ∨ client.state ≠ .disconnected then { client with tasks := client.tasks.set task .finished }
  else { client with tasks := client.tasks.set task .connecting }.connect (.task task)

def step (client : WebSocketClient) : Label → WebSocketClient
  | .connect => { client with returned := false }.connect .application
  | .disconnect => client.disconnect
  | .closed => if client.closing = 0 then client else { client with closing := client.closing - 1 }.finish
  | .opened place =>
    match client.openings[place]? with
    | none => client
    | some connector => client.transportOpened.returns place connector
  | .failed place =>
    match client.openings[place]? with
    | none => client
    | some connector => client.markDisconnected.returns place connector
  | .starts loop =>
    match client.loops[loop]? with
    | some .created => { client with loops := client.loops.set loop (client.socket.elim .ended .reading) }
    | _ => client
  | .frame loop channel =>
    match client.loops[loop]? with
    | some (.reading _) => client.frame channel
    | _ => client
  | .ends loop =>
    match client.loops[loop]? with
    | some (.reading socket) | some (.cancelled socket) => client.loopEnds loop socket
    | _ => client
  | .wakes task => if client.tasks[task]? = some .sleeping then client.wakes task else client
  | .doneCallback task =>
    if client.tasks[task]? = some .finished then
      { client with tasks := client.tasks.set task .called, reconnectTask := none }
    else client
  | .createChannel name => if name ∈ client.channels then client else { client with channels := client.channels ++ [name] }

def Idle (client : WebSocketClient) : Prop :=
  client.openings = [] ∧ client.closing = 0 ∧ (∀ phase ∈ client.loops, phase = .ended) ∧
    ∀ phase ∈ client.tasks, phase.done = true

def Settled (client : WebSocketClient) : Prop :=
  client.Idle → client.state = .disconnected ∧ client.socket = none

def Final (client : WebSocketClient) : Prop := (client.returned = true → client.Settled) ∧ client.heard = []

-- The only connect() that waits for its transport is that of the stored reconnect task.
def Retriable (client : WebSocketClient) : Prop :=
  ∀ connector ∈ client.openings, ∃ task, connector = .task task ∧ client.reconnectTask = some task ∧
    client.tasks[task]? = some .connecting

def Received (client : WebSocketClient) : Prop :=
  ∀ (loop : Nat) (phase : LoopPhase), client.loops[loop]? = some phase → phase.live = true → client.recvTask = some loop

-- disconnect() finds no other task that opens or reads a socket than those it cancels,
-- and connect() is not called while a disconnect() runs.
def Orderly (client : WebSocketClient) : Label → Prop
  | .disconnect => client.Retriable ∧ client.Received
  | .connect => client.closing = 0
  | _ => True

structure Backed (client : WebSocketClient) : Prop where
  socket : ∀ socket, client.socket = some socket →
    ∃ (loop : Nat) (phase : LoopPhase), client.loops[loop]? = some phase ∧ (phase = .created ∨ phase = .reading socket)
  connected : client.state = .connected → client.socket ≠ none ∨ client.closing ≠ 0
  connecting : client.state = .connecting → client.openings ≠ [] ∨ client.closing ≠ 0

structure Shut (client : WebSocketClient) : Prop where
  disconnecting : client.disconnecting = true
  openings : client.openings = []
  socket : client.socket = none
  loops : ∀ (loop : Nat) (phase : LoopPhase), client.loops[loop]? = some phase → ¬ phase.live = true

structure Closed (client : WebSocketClient) : Prop where
  shut : client.returned = true ∨ client.closing ≠ 0 → client.Shut
  state : client.returned = true → client.state = .disconnected
  heard : client.heard = []

variable {client} {loop : Nat} {phase : LoopPhase}

theorem schedule_frame (client : WebSocketClient) : ∃ attempts tasks reconnectTask, client.scheduleReconnect = { client with
    attempts := attempts, tasks := tasks, reconnectTask := reconnectTask } := by
  rw [scheduleReconnect]
  split
  · exact ⟨_, _, _, rfl⟩
  split
  · exact ⟨_, _, _, rfl⟩
  split
  · exact ⟨_, _, _, rfl⟩
  split <;> exact ⟨_, _, _, rfl⟩

theorem cancel_reconnect_frame (client : WebSocketClient) : ∃ tasks openings reconnectTask, client.cancelReconnect = { client with
    tasks := tasks, openings := openings, reconnectTask := reconnectTask } ∧ (client.Retriable → openings = []) := by
  rw [cancelReconnect]
  cases stored : client.reconnectTask with
  | none =>
    refine ⟨_, client.openings, _, rfl, fun retriable => eq_nil_iff_forall_not_mem.mpr fun connector member => ?_⟩
    obtain ⟨task, _, own, _⟩ := retriable connector member
    rw [stored] at own
    cases own
  | some task =>
    have own : ∀ connector ∈ client.openings, client.Retriable → connector = .task task ∧
        client.tasks[task]? = some .connecting := by
      intro connector member retriable
      obtain ⟨_, same, named, there⟩ := retriable connector member
      rw [stored] at named
      cases named
      exact ⟨same, there⟩
    dsimp only
    split
    · refine ⟨_, _, _, rfl, fun retriable => filter_eq_nil_iff.mpr fun connector member => ?_⟩
      simp [(own connector member retriable).1]
    · rename_i done
      refine ⟨_, client.openings, _, rfl, fun retriable => eq_nil_iff_forall_not_mem.mpr fun connector member => ?_⟩
      rw [(own connector member retriable).2] at done
      exact done rfl

theorem cancel_receive_frame (client : WebSocketClient) : ∃ loops recvTask, client.cancelReceive = { client with
    loops := loops, recvTask := recvTask } ∧
      (client.Received → ∀ (loop : Nat) (phase : LoopPhase), loops[loop]? = some phase → ¬ phase.live = true) := by
  rw [cancelReceive]
  have found : ∀ (loop : Nat) (phase : LoopPhase), client.Received → client.loops[loop]? = some phase → phase.live = true →
      (client.recvTask.bind fun loop => client.loops[loop]?.map fun phase => (loop, phase)) = some (loop, phase) := by
    intro loop phase received there live
    rw [received loop phase there live, Option.bind_some, there, Option.map_some]
  split
  · rename_i absent
    refine ⟨client.loops, _, rfl, fun received loop phase there live => ?_⟩
    rw [absent] at found
    cases found loop phase received there live
  · rename_i past
    refine ⟨client.loops, _, rfl, fun received loop phase there live => ?_⟩
    rw [past] at found
    cases found loop phase received there live
    cases live
  · rename_i stored held _ cancels
    refine ⟨_, _, rfl, fun received loop phase there live => ?_⟩
    rcases get_set _ _ _ _ _ there with ⟨rfl, rfl⟩ | ⟨apart, kept⟩
    · cases held <;> cases live
    · rw [cancels] at found
      cases found loop phase received kept live
      exact apart rfl

theorem backed_settled (backed : client.Backed) : client.Settled := by
  intro idle
  obtain ⟨openings, closing, loops, _⟩ := idle
  have socket : client.socket = none := by
    cases held : client.socket with
    | none => rfl
    | some socket =>
      obtain ⟨_, phase, found, live⟩ := backed.socket socket held
      rw [loops phase (mem_of_getElem? found)] at live
      rcases live with same | same <;> cases same
  refine ⟨?_, socket⟩
  cases state : client.state with
  | disconnected => rfl
  | connecting => exact absurd (backed.connecting state) (by simp [openings, closing])
  | connected => exact absurd (backed.connected state) (by simp [socket, closing])

theorem backed_disconnected (backed : client.Backed) {next : WebSocketClient} (state : next.state = .disconnected)
    (socket : ∀ socket, next.socket = some socket →
      client.socket = some socket ∧ ∀ (loop : Nat) (phase : LoopPhase), client.loops[loop]? = some phase →
        phase = .created ∨ phase = .reading socket → next.loops[loop]? = some phase) : next.Backed := by
  refine ⟨fun held there => ?_, fun connected => ?_, fun connecting => ?_⟩
  · obtain ⟨before, kept⟩ := socket held there
    obtain ⟨loop, phase, found, live⟩ := backed.socket held before
    exact ⟨loop, phase, kept loop phase found live, live⟩
  · rw [state] at connected
    cases connected
  · rw [state] at connecting
    cases connecting

theorem disconnect_spec (client : WebSocketClient) : ∃ tasks openings reconnectTask loops recvTask, client.disconnect =
    { client with
      disconnecting := true, tasks := tasks, openings := openings, reconnectTask := reconnectTask, loops := loops,
      recvTask := recvTask, socket := none, closing := if client.socket.isSome then client.closing + 1 else client.closing,
      state := if client.socket.isSome then client.state else .disconnected,
      channels := if client.socket.isSome then client.channels else [],
      returned := if client.socket.isSome then client.returned else true } ∧
    (client.Orderly .disconnect → openings = [] ∧
      ∀ (loop : Nat) (phase : LoopPhase), loops[loop]? = some phase → ¬ phase.live = true) := by
  obtain ⟨tasks, openings, reconnectTask, first, none⟩ := cancel_reconnect_frame
    { client with disconnecting := true }
  obtain ⟨loops, recvTask, second, dead⟩ := cancel_receive_frame
    { client with disconnecting := true }.cancelReconnect
  refine ⟨tasks, openings, reconnectTask, loops, recvTask, ?_, fun orderly => ⟨none orderly.1, dead ?_⟩⟩
  · rw [disconnect, second, first]
    cases held : client.socket with
    | none => simp [finish]
    | some => simp
  · rw [first]
    exact orderly.2

theorem step_backed (label : Label) (backed : client.Backed) : (client.step label).Backed := by
  cases label with
  | connect =>
    rw [step, connect]
    split
    · refine ⟨backed.socket, (fun state => by cases state), fun _ => .inl ?_⟩
      exact append_ne_nil_of_right_ne_nil _ (cons_ne_nil _ _)
    · exact ⟨backed.socket, backed.connected, backed.connecting⟩
  | disconnect =>
    obtain ⟨tasks, _, reconnectTask, loops, _, after, _⟩ := disconnect_spec client
    rw [step, after]
    refine ⟨(fun _ none => by cases none), fun state => .inr ?_, fun state => .inr ?_⟩
    all_goals
      cases held : client.socket with
      | none => simp [held] at state
      | some => simp
  | closed =>
    rw [step]
    split
    · exact backed
    · exact backed_disconnected backed rfl fun socket there => ⟨there, fun _ _ found _ => found⟩
  | opened =>
    rw [step]
    split
    · exact backed
    · refine ⟨fun socket there => ?_, fun _ => .inl (Option.some_ne_none _), (fun state => by cases state)⟩
      exact ⟨client.loops.length, .created, getElem?_concat_length, .inl rfl⟩
  | failed =>
    rw [step]
    split
    · exact backed
    · obtain ⟨attempts, tasks, reconnectTask, after⟩ := schedule_frame { client with state := .disconnected }
      rw [markDisconnected, after]
      exact backed_disconnected backed rfl fun socket there => ⟨there, fun _ _ found _ => found⟩
  | starts loop =>
    rw [step]
    split
    · rename_i found
      obtain ⟨inside, _⟩ := List.getElem?_eq_some_iff.mp found
      refine ⟨fun socket there => ?_, backed.connected, backed.connecting⟩
      exact ⟨loop, _, (congrArg (fun held => _) there).trans (getElem?_set_self inside), .inr (by rw [there]; rfl)⟩
    · exact backed
  | frame =>
    rw [step]
    split
    · rw [frame]
      split
      · exact ⟨backed.socket, backed.connected, backed.connecting⟩
      · exact backed
    · exact backed
  | ends loop =>
    rw [step]
    have past : ∀ socket, client.loops[loop]? = some (.reading socket) ∨ client.loops[loop]? = some (.cancelled socket) →
        (client.loopEnds loop socket).Backed := by
      intro socket found
      obtain ⟨_, _, _, after⟩ := schedule_frame { client with
        socket := if client.socket = some socket then none else client.socket
        loops := client.loops.set loop .ended
        state := .disconnected }
      rw [loopEnds, markDisconnected, after]
      refine backed_disconnected backed rfl fun held there => ?_
      by_cases own : client.socket = some socket
      · simp [own] at there
      · simp only [if_neg own] at there
        refine ⟨there, fun other phase kept live => ?_⟩
        by_cases same : loop = other
        · subst same
          rcases found with reads | gone
          · rw [reads] at kept
            cases kept
            rcases live with other | same
            · cases other
            · cases same
              exact absurd there own
          · rw [gone] at kept
            cases kept
            rcases live with other | other <;> cases other
        · exact (getElem?_set_ne same).trans kept
    split
    · rename_i found
      exact past _ (.inl found)
    · rename_i found
      exact past _ (.inr found)
    · exact backed
  | wakes =>
    rw [step]
    split
    · rw [wakes]
      split
      · exact ⟨backed.socket, backed.connected, backed.connecting⟩
      · rename_i idle
        have disconnected : client.state = .disconnected := not_not.mp (not_or.mp idle).2
        rw [connect]
        rw [if_pos disconnected]
        refine ⟨backed.socket, (fun state => by cases state), fun _ => .inl ?_⟩
        exact append_ne_nil_of_right_ne_nil _ (cons_ne_nil _ _)
    · exact backed
  | doneCallback =>
    rw [step]
    split
    · exact ⟨backed.socket, backed.connected, backed.connecting⟩
    · exact backed
  | createChannel =>
    rw [step]
    split
    · exact backed
    · exact ⟨backed.socket, backed.connected, backed.connecting⟩

theorem closed_kept (closed : client.Closed) {next : WebSocketClient} (returned : next.returned = client.returned)
    (closing : next.closing = client.closing) (heard : next.heard = client.heard)
    (kept : client.Shut → next.Shut ∧ (client.state = .disconnected → next.state = .disconnected)) : next.Closed := by
  refine ⟨fun final => ?_, fun past => ?_, heard.trans closed.heard⟩
  · rw [returned, closing] at final
    exact (kept (closed.shut final)).1
  · rw [returned] at past
    exact (kept (closed.shut (.inl past))).2 (closed.state past)

theorem step_closed (label : Label) (closed : client.Closed) (orderly : client.Orderly label) :
    (client.step label).Closed := by
  have same : ∀ next : WebSocketClient, next.returned = client.returned → next.closing = client.closing →
      next.heard = client.heard → next.state = client.state → next.disconnecting = client.disconnecting →
      next.openings = client.openings → next.socket = client.socket → next.loops = client.loops → next.Closed := by
    intro next returned closing heard state disconnecting openings socket loops
    refine closed_kept closed returned closing heard fun shut => ⟨⟨?_, ?_, ?_, ?_⟩, state.trans⟩
    · exact disconnecting.trans shut.disconnecting
    · exact openings.trans shut.openings
    · exact socket.trans shut.socket
    · exact loops ▸ shut.loops
  cases label with
  | connect =>
    have quiet : client.closing = 0 := orderly
    rw [step, connect]
    split
    all_goals
      refine ⟨fun final => ?_, (fun past => by cases past), closed.heard⟩
      rcases final with past | closing
      · cases past
      · exact absurd quiet closing
  | disconnect =>
    obtain ⟨tasks, openings, reconnectTask, loops, _, after, dead⟩ := disconnect_spec client
    rw [step, after]
    refine ⟨fun _ => ⟨rfl, (dead orderly).1, rfl, (dead orderly).2⟩, fun past => ?_, closed.heard⟩
    cases held : client.socket with
    | none => simp
    | some => simpa [held] using closed.state (by simpa [held] using past)
  | closed =>
    rw [step]
    split
    · exact closed
    · rename_i closing
      obtain ⟨disconnecting, openings, socket, loops⟩ := closed.shut (.inr closing)
      exact ⟨fun _ => ⟨disconnecting, openings, socket, loops⟩, fun _ => rfl, closed.heard⟩
  | opened =>
    rw [step]
    split
    · exact closed
    · rename_i found
      refine closed_kept closed rfl rfl rfl fun shut => ?_
      rw [shut.openings] at found
      cases found
  | failed =>
    rw [step]
    split
    · exact closed
    · rename_i found
      obtain ⟨attempts, tasks, reconnectTask, after⟩ := schedule_frame { client with state := .disconnected }
      rw [markDisconnected, after]
      refine closed_kept closed rfl rfl rfl fun shut => ?_
      rw [shut.openings] at found
      cases found
  | starts loop =>
    rw [step]
    split
    · rename_i found
      exact closed_kept closed rfl rfl rfl fun shut => absurd rfl (shut.loops loop _ found)
    · exact closed
  | frame loop =>
    rw [step]
    split
    · rename_i found
      rw [frame]
      split
      · rename_i late
        exact absurd rfl ((closed.shut (.inl late.1)).loops loop _ found)
      · exact closed
    · exact closed
  | ends loop =>
    have past : ∀ socket, (client.loopEnds loop socket).Closed := by
      intro socket
      obtain ⟨_, _, _, after⟩ := schedule_frame { client with
        socket := if client.socket = some socket then none else client.socket
        loops := client.loops.set loop .ended
        state := .disconnected }
      rw [loopEnds, markDisconnected, after]
      refine closed_kept closed rfl rfl rfl fun shut => ⟨⟨shut.disconnecting, shut.openings, ?_, ?_⟩, fun _ => rfl⟩
      · simp [shut.socket]
      · intro other phase there live
        rcases get_set _ _ _ _ _ there with ⟨_, rfl⟩ | ⟨_, kept⟩
        · cases live
        · exact shut.loops other phase kept live
    rw [step]
    split
    · exact past _
    · exact past _
    · exact closed
  | wakes =>
    rw [step]
    split
    · rw [wakes]
      split
      · exact same _ rfl rfl rfl rfl rfl rfl rfl rfl
      · rename_i awake
        rw [connect]
        rw [if_pos (not_not.mp (not_or.mp awake).2)]
        exact closed_kept closed rfl rfl rfl fun shut => absurd shut.disconnecting (not_or.mp awake).1
    · exact closed
  | doneCallback =>
    rw [step]
    split
    · exact same _ rfl rfl rfl rfl rfl rfl rfl rfl
    · exact closed
  | createChannel =>
    rw [step]
    split
    · exact closed
    · exact same _ rfl rfl rfl rfl rfl rfl rfl rfl

theorem start_backed (maxReconnectAttempts : Int) (floatDelay : Bool) :
    (start maxReconnectAttempts floatDelay).Backed ∧ (start maxReconnectAttempts floatDelay).Closed := by
  refine ⟨⟨fun _ held => ?_, fun state => ?_, fun state => ?_⟩, fun final => ?_, fun past => ?_, rfl⟩
  · cases held
  · cases state
  · cases state
  · rcases final with past | closing
    · cases past
    · exact absurd rfl closing
  · cases past

-- Without a pending task the client is disconnected, whatever was called; and in an
-- orderly run no channel hears anything once disconnect() has returned.
theorem disconnect_final (maxReconnectAttempts : Int) (floatDelay : Bool) (labels : List Label) :
    Always step Settled (start maxReconnectAttempts floatDelay) labels ∧
      (Follows step Orderly (start maxReconnectAttempts floatDelay) labels →
        Always step Final (start maxReconnectAttempts floatDelay) labels) := by
  obtain ⟨backed, closed⟩ := start_backed maxReconnectAttempts floatDelay
  constructor
  · refine always_mono step Backed Settled (fun _ backed => backed_settled backed) _ labels ?_
    exact always_of_follows step (fun _ _ => True) Backed (fun _ label backed _ => step_backed label backed) _ backed
      (follows_all step _ _ labels fun _ _ => trivial)
  · intro orderly
    refine always_mono step (fun client => client.Backed ∧ client.Closed) Final
      (fun _ inv => ⟨fun _ => backed_settled inv.1, inv.2.heard⟩) _ labels ?_
    exact always_of_follows step Orderly _
      (fun _ label inv orderly => ⟨step_backed label inv.1, step_closed label inv.2 orderly⟩) _ ⟨backed, closed⟩ orderly

theorem opened_late_heard : ¬ ∀ labels, Always step Final (start 0 true) labels := by
  intro always
  have last := always_run step _ (always
    [.connect, .disconnect, .createChannel "room", .opened 0, .starts 0, .frame 0 "room"])
  cases last.2

theorem disconnect_final_once : Always step Final (start 0 true)
    [.connect, .opened 0, .starts 0, .disconnect, .createChannel "room", .ends 0, .closed, .frame 0 "room"] := by
  refine (disconnect_final 0 true _).2 ⟨rfl, trivial, trivial, ⟨fun _ member => ?_, fun loop phase found live => ?_⟩, trivial,
    trivial, trivial, trivial, trivial⟩
  · cases member
  · cases loop with
    | zero => rfl
    | succ => cases found

end WebSocketClient

end PondSocket.Python.Closing
