import PondSocket.Go.Operations

namespace PondSocket.Go

open Library
open Js (Json UserId NodeId)

inductive Audience where
  | all
  | allExceptSender (sender : UserId)
  | users (userIds : List UserId)
  | tracked
  | remote

def Channel.audience (channel : Channel) (event : Event) : Audience → List UserId
  | .all => channel.connections.keys
  | .allExceptSender sender => channel.connections.keys.filter fun connId => decide (connId ≠ sender)
  | .users userIds => channel.connections.keys.filter fun connId => userIds.contains connId
  | .tracked => channel.presenceRecipients
  | .remote => channel.messageRecipients event

inductive Stage where
  | entered
  | pipeline
  | sending
  | returned
deriving DecidableEq

-- The number is the place of the event among all that were queued.
structure Worker where
  number : Nat
  connection : Transport
  stage : Stage

-- The loop of handleMessageEvents: in its select, at the start of onMessage, in
-- the loop over the connections, in wg.Wait, or returned.
inductive Loop where
  | waiting
  | reading
  | spawning (rest : List Transport)
  | awaiting
  | stopped

inductive Point where
  | pipeline
  | sendMessage
deriving DecidableEq

structure Passed where
  number : Nat
  connection : Transport
  point : Point

-- queued holds everything that was put into the channel's queue so far, of which
-- the loop has taken some. There is one wait group for each call of onMessage.
structure Dispatcher where
  channel : Channel
  senders : List InternalEvent := []
  queued : List InternalEvent := []
  taken : Nat := 0
  loop : Loop := .waiting
  workers : List Worker := []
  waitGroups : List Nat := []
  passed : List Passed := []

inductive DispatchLabel where
  | perform (op : ChannelOp)
  | address (event : Event) (audience : Audience)
  | enqueue (sender : Nat)
  | giveUp (sender : Nat)
  | receive
  | stop
  | read
  | recovered
  | spawn
  | wait
  | advance (worker : Nat) (ok : Bool)

namespace Dispatcher

-- A sender works out the recipients first; its event is queued later, or never.
-- Close itself still does so for the presences it removes.
def address (dispatcher : Dispatcher) (event : Event) (audience : Audience) : Dispatcher :=
  match Channel.addressed event (dispatcher.channel.audience event audience) with
  | none => dispatcher
  | some item => { dispatcher with senders := dispatcher.senders ++ [item] }

def enqueue (dispatcher : Dispatcher) (sender : Nat) : Dispatcher :=
  match dispatcher.senders[sender]? with
  | none => dispatcher
  | some item =>
    if dispatcher.queued.length - dispatcher.taken < queueCapacity then
      { dispatcher with senders := dispatcher.senders.eraseIdx sender, queued := dispatcher.queued ++ [item] }
    else dispatcher

def receive (dispatcher : Dispatcher) : Dispatcher :=
  match dispatcher.loop with
  | .waiting =>
    if dispatcher.taken < dispatcher.queued.length then
      { dispatcher with
        loop := .reading
        taken := dispatcher.taken + 1
        waitGroups := dispatcher.waitGroups ++ [0] }
    else dispatcher
  | _ => dispatcher

def stop (dispatcher : Dispatcher) : Dispatcher :=
  match dispatcher.loop with
  | .waiting => if dispatcher.channel.done then { dispatcher with loop := .stopped } else dispatcher
  | _ => dispatcher

def read (dispatcher : Dispatcher) : Dispatcher :=
  match dispatcher.loop with
  | .reading =>
    match dispatcher.channel.checkState, dispatcher.queued[dispatcher.taken - 1]? with
    | none, some item =>
      let connectionsToSend := dispatcher.channel.connections.getByKeys item.recipients
      if connectionsToSend.isEmpty then { dispatcher with loop := .waiting }
      else { dispatcher with loop := .spawning connectionsToSend }
    | _, _ => { dispatcher with loop := .waiting }
  | _ => dispatcher

-- A panic in onMessage itself can come only before its loop.
def recovered (dispatcher : Dispatcher) : Dispatcher :=
  match dispatcher.loop with
  | .reading => { dispatcher with loop := .waiting }
  | _ => dispatcher

def spawn (dispatcher : Dispatcher) : Dispatcher :=
  match dispatcher.loop with
  | .spawning [] => { dispatcher with loop := .awaiting }
  | .spawning (conn :: rest) =>
    if dispatcher.channel.done then { dispatcher with loop := .waiting }
    else
      { dispatcher with
        loop := .spawning rest
        workers := dispatcher.workers ++ [⟨dispatcher.taken - 1, conn, .entered⟩]
        waitGroups := dispatcher.waitGroups.modify (dispatcher.taken - 1) fun count => count + 1 }
  | _ => dispatcher

def wait (dispatcher : Dispatcher) : Dispatcher :=
  match dispatcher.loop with
  | .awaiting =>
    if dispatcher.waitGroups[dispatcher.taken - 1]? = some 0 then { dispatcher with loop := .waiting } else dispatcher
  | _ => dispatcher

def move (dispatcher : Dispatcher) (place : Nat) (worker : Worker) (stage : Stage) : Dispatcher :=
  { dispatcher with workers := dispatcher.workers.set place { worker with stage := stage } }

def pass (dispatcher : Dispatcher) (worker : Worker) (point : Point) : Dispatcher :=
  { dispatcher with passed := dispatcher.passed ++ [⟨worker.number, worker.connection, point⟩] }

-- One step of processOutgoing: ok says whether GetUser, and then the handlers,
-- give no error. A handler that does not return is one that is not scheduled
-- again; one that panics ends the program and with it the run.
def advance (dispatcher : Dispatcher) (place : Nat) (ok : Bool) : Dispatcher :=
  match dispatcher.workers[place]? with
  | none => dispatcher
  | some worker =>
    match worker.stage with
    | .entered =>
      if ok ∧ dispatcher.channel.done = false then (dispatcher.move place worker .pipeline).pass worker .pipeline
      else dispatcher.move place worker .returned
    | .pipeline =>
      if ok then (dispatcher.move place worker .sending).pass worker .sendMessage
      else dispatcher.move place worker .returned
    | .sending => dispatcher.move place worker .returned
    | .returned =>
      { dispatcher with
        workers := dispatcher.workers.eraseIdx place
        waitGroups := dispatcher.waitGroups.modify worker.number fun count => count - 1 }

def act (dispatcher : Dispatcher) : DispatchLabel → Dispatcher
  | .perform op => { dispatcher with channel := dispatcher.channel.act op }
  | .address event audience => dispatcher.address event audience
  | .enqueue sender => dispatcher.enqueue sender
  | .giveUp sender => { dispatcher with senders := dispatcher.senders.eraseIdx sender }
  | .receive => dispatcher.receive
  | .stop => dispatcher.stop
  | .read => dispatcher.read
  | .recovered => dispatcher.recovered
  | .spawn => dispatcher.spawn
  | .wait => dispatcher.wait
  | .advance worker ok => dispatcher.advance worker ok

end Dispatcher

end PondSocket.Go
