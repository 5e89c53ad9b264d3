import PondSocket.Js.ClientChannel

namespace PondSocket.Go.Client

open Library
open Js (ChannelState ClientActions)

-- How far a call of Join is: at its look at the state, at setState, at the publisher's
-- look at the connection state, at the connection itself.
inductive JoinStage where
  | looking
  | entering
  | publishing
  | writing
deriving DecidableEq

inductive ChangeStage where
  | waiting
  | received (connected : Bool)
  | rejoining (stage : JoinStage)
  | stalling
deriving DecidableEq

-- What goroutines are still to do: the first notice of subscribeToConnection before and
-- after its GetState, a notice of setConnectionState, readMessages before it reports the
-- connection and after releaseConnection, and a call of Join.
inductive Task where
  | announce
  | notify (connected : Bool)
  | opened (conn : Nat)
  | released (conn : Nat)
  | join (stage : JoinStage)
deriving DecidableEq

-- A client and one channel of it. A connection goes by its number.
structure Link where
  connected : Bool
  conn : Option Nat
  dialed : Nat
  readers : List Nat
  created : Bool
  state : ChannelState
  notice : Option Bool
  change : ChangeStage
  tasks : List Task
  written : List (Nat × ClientActions)
  wanting : Bool

namespace Link

def new : Link where
  connected := false
  conn := none
  dialed := 0
  readers := []
  created := false
  state := .idle
  notice := none
  change := .waiting
  tasks := []
  written := []
  wanting := false

def setState (link : Link) (state : ChannelState) : Link :=
  if link.state = .closed ∧ state ≠ .closed then link else { link with state := state }

def asking (state : ChannelState) : Bool := decide (state = .joining) || decide (state = .stalled)

def setConnectionState (link : Link) (connected : Bool) : Link :=
  if link.connected = connected then link
  else
    { link with
      connected := connected
      tasks := link.tasks ++ [.notify connected]
      wanting := connected && link.created && asking link.state }

def createChannel (link : Link) : Link :=
  if link.created then link else { link with created := true, tasks := link.tasks ++ [.announce] }

def connect (link : Link) : Link :=
  match link.conn with
  | some _ => link
  | none =>
    { link with
      conn := some link.dialed
      dialed := link.dialed + 1
      tasks := link.tasks ++ [.opened link.dialed] }

def lose (link : Link) (conn : Nat) : Link :=
  if conn ∈ link.readers then
    let link := { link with readers := link.readers.erase conn }
    if link.conn = some conn then { link with conn := none, tasks := link.tasks ++ [.released conn] } else link
  else link

def join (link : Link) : Link :=
  if link.created then { link with tasks := link.tasks ++ [.join .looking] } else link

def joinStep (link : Link) : JoinStage → Link × Option JoinStage
  | .looking => (link, if link.state = .joined then none else some .entering)
  | .entering => (link.setState .joining, some .publishing)
  | .publishing => (link, if link.connected then some .writing else none)
  | .writing =>
    match link.conn with
    | none => (link, none)
    | some conn => ({ link with written := link.written ++ [(conn, .joinChannel)] }, none)

def runTask (link : Link) (place : Nat) : Link :=
  match link.tasks[place]? with
  | none => link
  | some .announce => { link with tasks := link.tasks.set place (.notify link.connected) }
  | some (.notify connected) =>
    { link with
      notice := if link.created then some connected else link.notice
      tasks := link.tasks.eraseIdx place }
  | some (.opened conn) =>
    setConnectionState { link with readers := link.readers ++ [conn], tasks := link.tasks.eraseIdx place } true
  | some (.released _) => setConnectionState { link with tasks := link.tasks.eraseIdx place } false
  | some (.join stage) =>
    match link.joinStep stage with
    | (next, none) => { next with tasks := next.tasks.eraseIdx place }
    | (next, some stage) => { next with tasks := next.tasks.set place (.join stage) }

def handleConnectionChanges (link : Link) : Link :=
  match link.change with
  | .waiting =>
    match link.notice with
    | none => link
    | some connected => { link with notice := none, change := .received connected }
  | .received true => { link with change := if link.state = .stalled then .rejoining .looking else .waiting }
  | .received false => { link with change := if link.state = .joined then .stalling else .waiting }
  | .rejoining stage =>
    match link.joinStep stage with
    | (next, none) => { next with change := .waiting }
    | (next, some stage) => { next with change := .rejoining stage }
  | .stalling => { link.setState .stalled with change := .waiting }

end Link

end PondSocket.Go.Client
