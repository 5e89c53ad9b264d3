import Mathlib.Logic.Function.Basic
import PondSocket.Js.ClientChannel

namespace PondSocket.Js

open Library

inductive SocketState
  | connecting
  | opened
  | closing
  | closed
deriving DecidableEq

-- Sockets are numbered as they are created, and one that is not created yet counts as closed. connectedOn is the
-- socket of the last CONNECTION event.
structure WebSocketClient where
  sockets : Nat → SocketState := fun _ => .closed
  created : Nat := 0
  socket : Option Nat := none
  connectionState : ConnectionState := .disconnected
  connectedOn : Option Nat := none
  reconnectTimeoutId : Bool := false
  disconnecting : Bool := false

namespace WebSocketClient

variable (client : WebSocketClient)

def Live (socket : Nat) : Prop := client.sockets socket = .connecting ∨ client.sockets socket = .opened

instance (socket : Nat) : Decidable (client.Live socket) := inferInstanceAs (Decidable (_ ∨ _))

def setState (socket : Nat) (state : SocketState) : WebSocketClient :=
  { client with sockets := Function.update client.sockets socket state }

def connect : WebSocketClient :=
  { client.setState client.created .connecting with
    created := client.created + 1
    socket := some client.created
    connectionState := .connecting
    reconnectTimeoutId := false
    disconnecting := false }

def close (socket : Nat) : WebSocketClient := if client.Live socket then client.setState socket .closing else client

def disconnect : WebSocketClient :=
  let stopped := { client with connectionState := .disconnected, reconnectTimeoutId := false, disconnecting := true }
  match client.socket with
  | none => stopped
  | some socket => stopped.close socket

-- A timer of a socket only closes it, so one that has been cleared may fire here too. Messages arrive while their
-- socket is open; an event of a message is a label. peerClosing is the peer's closing handshake.
inductive Label
  | connect
  | disconnect
  | reconnectTimeout
  | connectionTimeout (socket : Nat)
  | pongTimeout (socket : Nat)
  | onopen (socket : Nat)
  | onmessage (socket : Nat) (connection : Bool)
  | onerror (socket : Nat)
  | peerClosing (socket : Nat)
  | onclose (socket : Nat)

def onmessage (socket : Nat) (connection : Bool) : WebSocketClient :=
  if connection then { client with connectionState := .connected, connectedOn := some socket } else client

def onclose (socket : Nat) : WebSocketClient :=
  if client.socket = some socket then
    { client.setState socket .closed with
      socket := none
      connectionState := .disconnected
      reconnectTimeoutId := client.reconnectTimeoutId || !client.disconnecting }
  else client.setState socket .closed

def step (client : WebSocketClient) : Label → WebSocketClient
  | .connect => client.connect
  | .disconnect => client.disconnect
  | .reconnectTimeout =>
    if client.reconnectTimeoutId then
      let fired := { client with reconnectTimeoutId := false }
      if client.disconnecting then fired else fired.connect
    else client
  | .connectionTimeout socket => if client.sockets socket = .connecting then client.close socket else client
  | .pongTimeout socket | .onerror socket | .peerClosing socket => client.close socket
  | .onopen socket => if client.sockets socket = .connecting then client.setState socket .opened else client
  | .onmessage socket connection => if client.sockets socket = .opened then client.onmessage socket connection else client
  | .onclose socket => if client.sockets socket = .closed then client else client.onclose socket

-- The connection state tells the truth, and a socket that can receive a message, an open one, is the current one.
structure Truthful : Prop where
  connected : client.connectionState = .connected →
    ∃ socket, client.socket = some socket ∧ client.sockets socket = .opened ∧ client.connectedOn = some socket
  single : ∀ first second, client.Live first → client.Live second → first = second
  own : ∀ socket, client.sockets socket = .opened → client.socket = some socket

def closes : Label → Option Nat
  | .pongTimeout socket | .onerror socket | .peerClosing socket => some socket
  | _ => none

-- connect is called only while no socket is connecting or open, and no open socket starts to close while CONNECTED.
def Orderly (client : WebSocketClient) (label : Label) : Prop :=
  (label = .connect → ∀ socket, ¬client.Live socket) ∧
    ∀ socket, closes label = some socket → client.connectionState = .connected → client.sockets socket ≠ .opened

structure Inv : Prop where
  connected : client.connectionState = .connected →
    ∃ socket, client.socket = some socket ∧ client.sockets socket = .opened ∧ client.connectedOn = some socket
  only : ∀ socket, client.Live socket → client.socket = some socket
  fresh : ∀ socket, client.created ≤ socket → client.sockets socket = .closed
  waits : client.reconnectTimeoutId = true → client.socket = none

theorem inv_truthful (inv : client.Inv) : client.Truthful where
  connected := inv.connected
  single first second one two := Option.some.inj ((inv.only first one).symm.trans (inv.only second two))
  own socket opened := inv.only socket (.inr opened)

theorem stop_inv (inv : client.Inv) (disconnecting : Bool) : Inv { client with
    connectionState := .disconnected, reconnectTimeoutId := false, disconnecting := disconnecting } :=
  ⟨fun state => (by cases state), inv.only, inv.fresh, fun waits => (by cases waits)⟩

variable {socket : Nat}

theorem live_set {other : Nat} {state : SocketState} (live : (client.setState socket state).Live other)
    (dead : state ≠ .connecting ∧ state ≠ .opened) : client.Live other ∧ other ≠ socket := by
  by_cases same : other = socket
  · subst same
    simp [Live, setState, dead.1, dead.2] at live
  · exact ⟨by simpa [Live, setState, same] using live, same⟩

theorem connect_inv (inv : client.Inv) (dead : ∀ socket, ¬client.Live socket) : client.connect.Inv := by
  have only : ∀ socket, client.connect.Live socket → socket = client.created := by
    intro socket live
    by_contra other
    exact dead socket (by simpa [Live, connect, setState, other] using live)
  refine ⟨fun state => (by cases state), fun socket live => congrArg some (only socket live).symm, ?_,
    fun waits => (by cases waits)⟩
  intro socket later
  exact (Function.update_of_ne (Nat.ne_of_gt later) _ _).trans (inv.fresh socket (Nat.le_of_succ_le later))

theorem dies_inv (inv : client.Inv) (state : SocketState) (there : socket < client.created)
    (dead : state ≠ .connecting ∧ state ≠ .opened)
    (safe : client.connectionState = .connected → client.sockets socket ≠ .opened) :
    (client.setState socket state).Inv := by
  refine ⟨?_, fun other live => inv.only other (live_set client live dead).1, ?_, inv.waits⟩
  · intro connected
    obtain ⟨current, known, opened, on⟩ := inv.connected connected
    have other : current ≠ socket := fun same => safe connected (same ▸ opened)
    exact ⟨current, known, (Function.update_of_ne other _ _).trans opened, on⟩
  · intro other later
    exact (Function.update_of_ne (Nat.ne_of_gt (Nat.lt_of_lt_of_le there later)) _ _).trans (inv.fresh other later)

theorem known (inv : client.Inv) (socket : Nat) (open_ : client.sockets socket ≠ .closed) : socket < client.created := by
  by_contra later
  exact open_ (inv.fresh socket (Nat.le_of_not_lt later))

variable {client}

theorem close_inv (inv : client.Inv) (safe : client.connectionState = .connected → client.sockets socket ≠ .opened) :
    (client.close socket).Inv := by
  simp only [close]
  split
  · rename_i live
    refine dies_inv client inv .closing (known client inv socket ?_) (by decide) safe
    intro closed
    simp [Live, closed] at live
  · exact inv

theorem disconnect_inv (inv : client.Inv) : client.disconnect.Inv := by
  have stopped := stop_inv client inv true
  simp only [disconnect]
  split
  · exact stopped
  · exact close_inv stopped fun state => by cases state

theorem onopen_inv (inv : client.Inv) (connecting : client.sockets socket = .connecting) :
    (client.setState socket .opened).Inv := by
  have kept : ∀ other, client.sockets other ≠ .connecting →
      (client.setState socket .opened).sockets other = client.sockets other := by
    intro other settled
    refine Function.update_of_ne ?_ _ _
    rintro rfl
    exact settled connecting
  refine ⟨?_, ?_, ?_, inv.waits⟩
  · intro connected
    obtain ⟨current, known, opened, on⟩ := inv.connected connected
    exact ⟨current, known, (kept current (by rw [opened]; decide)).trans opened, on⟩
  · intro other live
    by_cases same : other = socket
    · exact inv.only other (same ▸ .inl connecting)
    · exact inv.only other (by simpa [Live, setState, same] using live)
  · intro other later
    have closed := inv.fresh other later
    exact (kept other (by rw [closed]; decide)).trans closed

theorem onclose_inv (inv : client.Inv) (there : socket < client.created) : (client.onclose socket).Inv := by
  simp only [onclose]
  split
  · rename_i current
    have stopped := dies_inv _ (stop_inv client inv client.disconnecting) .closed there (by decide)
      fun state => by cases state
    refine ⟨fun state => (by cases state), ?_, stopped.fresh, fun _ => rfl⟩
    intro other live
    obtain ⟨alive, apart⟩ := live_set client live (by decide)
    exact absurd (Option.some.inj ((inv.only other alive).symm.trans current)) apart
  · rename_i former
    exact dies_inv client inv .closed there (by decide) fun _ opened => former (inv.only socket (.inr opened))

theorem step_inv {label : Label} (inv : client.Inv) (orderly : client.Orderly label) : (client.step label).Inv := by
  cases label with
  | connect => exact connect_inv client inv (orderly.1 rfl)
  | disconnect => exact disconnect_inv inv
  | reconnectTimeout =>
    simp only [step]
    split
    · rename_i waits
      have gone := inv.waits waits
      have fired : Inv { client with reconnectTimeoutId := false } :=
        ⟨inv.connected, inv.only, inv.fresh, fun waits => (by cases waits)⟩
      split
      · exact fired
      · exact connect_inv _ fired fun socket live => by cases gone.symm.trans (inv.only socket live)
    · exact inv
  | connectionTimeout =>
    simp only [step]
    split
    · rename_i connecting
      exact close_inv inv fun _ => by rw [connecting]; decide
    · exact inv
  | pongTimeout socket | onerror socket | peerClosing socket => exact close_inv inv (orderly.2 socket rfl)
  | onopen =>
    simp only [step]
    split
    · exact onopen_inv inv (by assumption)
    · exact inv
  | onmessage socket connection =>
    simp only [step]
    split
    · rename_i opened
      cases connection with
      | false => exact inv
      | true => exact ⟨fun _ => ⟨socket, inv.only socket (.inr opened), opened, rfl⟩, inv.only, inv.fresh, inv.waits⟩
    · exact inv
  | onclose socket =>
    simp only [step]
    split
    · exact inv
    · exact onclose_inv inv (known client inv socket (by assumption))

theorem orderly_needed {label : Label} (inv : client.Inv) (truthful : (client.step label).Truthful) :
    client.Orderly label := by
  refine ⟨?_, ?_⟩
  · rintro rfl socket live
    have older : socket ≠ client.created := by
      rintro rfl
      simp [Live, inv.fresh client.created (Nat.le_refl _)] at live
    refine older (truthful.single socket client.created ?_ (.inl (Function.update_self ..)))
    simpa [step, connect, Live, setState, older] using live
  intro socket closes connected opened
  have closing : client.step label = client.setState socket .closing := by
    have live : client.close socket = client.setState socket .closing := if_pos (.inr opened)
    cases label with
    | pongTimeout other | onerror other | peerClosing other =>
      cases closes
      exact live
    | _ => cases closes
  rw [closing] at truthful
  obtain ⟨_, known, still, _⟩ := truthful.connected connected
  cases (inv.only socket (.inr opened)).symm.trans known
  have state : Function.update client.sockets socket .closing socket = .closing := Function.update_self ..
  cases state.symm.trans still

end WebSocketClient

open WebSocketClient

end PondSocket.Js
