import PondSocket.Js.ClientChannel
import PondSocket.Library.Places

namespace PondSocket.Rust.ClientConnection

open Library List
open Js (ConnectionState)

-- How far a connect call is that passed its check. A connection goes by the place of its reader.
inductive Connect
  | passed
  | dialing
  | storing (conn : Nat)
  | finishing
deriving DecidableEq

-- A reader that has ended sets the state and then clears outbound.
inductive Reader
  | alive
  | ended
  | clearing
  | gone
deriving DecidableEq

-- A disconnect call that has taken the tasks has to clear outbound, unless it has, and to set the state.
structure Client where
  state : ConnectionState := .disconnected
  outbound : Option Nat := none
  readTask : Option Nat := none
  readers : List Reader := []
  connects : List Connect := []
  disconnects : List Bool := []

inductive Label
  | connect
  | goOn (place : Nat) (failed : Bool)
  | read (conn : Nat)
  | disconnect (stopped : Bool)
  | finish (place : Nat)

namespace Client

variable (client : Client)

def connect : Client :=
  if client.state ≠ .disconnected then client else { client with connects := client.connects ++ [.passed] }

-- Failing is an error of the dialing or its timeout.
def goOn (place : Nat) (failed : Bool) : Client :=
  match client.connects[place]? with
  | none => client
  | some .passed => { client with state := .connecting, connects := client.connects.set place .dialing }
  | some .dialing =>
    if failed then { client with connects := client.connects.eraseIdx place }
    else
      { client with
        outbound := some client.readers.length
        readers := client.readers ++ [.alive]
        connects := client.connects.set place (.storing client.readers.length) }
  | some (.storing conn) => { client with readTask := some conn, connects := client.connects.set place .finishing }
  | some .finishing => { client with state := .connected, connects := client.connects.eraseIdx place }

def read (conn : Nat) : Client :=
  match client.readers[conn]? with
  | some .alive => { client with readers := client.readers.set conn .ended }
  | some .ended => { client with state := .disconnected, readers := client.readers.set conn .clearing }
  | some .clearing => { client with outbound := none, readers := client.readers.set conn .gone }
  | _ => client

-- The abort may come too late to stop the reader.
def disconnect (stopped : Bool) : Client :=
  { client with
    readTask := none
    readers :=
      match client.readTask with
      | some conn => if stopped then client.readers.set conn .gone else client.readers
      | none => client.readers
    disconnects := client.disconnects ++ [true] }

def finish (place : Nat) : Client :=
  match client.disconnects[place]? with
  | none => client
  | some true => { client with outbound := none, disconnects := client.disconnects.set place false }
  | some false => { client with state := .disconnected, disconnects := client.disconnects.eraseIdx place }

def step (client : Client) : Label → Client
  | .connect => client.connect
  | .goOn place failed => client.goOn place failed
  | .read conn => client.read conn
  | .disconnect stopped => client.disconnect stopped
  | .finish place => client.finish place

def Live : Prop := ∃ conn, client.outbound = some conn ∧ client.readers[conn]? = some .alive

-- What has still to set the state to Disconnected, and what has still to clear outbound.
def Sets : Prop := .ended ∈ client.readers ∨ client.disconnects ≠ []

def Clears : Prop := .ended ∈ client.readers ∨ .clearing ∈ client.readers ∨ true ∈ client.disconnects

def Truthful : Prop :=
  client.connects = [] → client.disconnects = [] → .ended ∉ client.readers → .clearing ∉ client.readers →
    (client.state = .connected ↔ client.Live) ∧ (client.state = .connected ∨ client.state = .disconnected)

-- A connect call fails only beside another one. It sets Connected, an epilogue clears outbound and a disconnect call
-- sets Disconnected only where what the other place holds agrees, or where a call or an epilogue has still to set it.
def Timely (client : Client) : Label → Prop
  | .goOn place failed =>
    match client.connects[place]? with
    | some .dialing => failed = true → 1 < client.connects.length
    | some .finishing => 1 < client.connects.length ∨ client.Live ∨ client.Sets
    | _ => True
  | .read conn =>
    client.readers[conn]? = some .clearing → client.connects ≠ [] ∨ client.state = .disconnected ∨ client.Sets
  | .finish place =>
    client.disconnects[place]? = some false → client.connects ≠ [] ∨ ¬ client.Live ∨ client.Clears
  | _ => True

structure Inv : Prop where
  settles : client.state = .connecting → client.Sets
  connected : client.state = .connected → client.Live ∨ client.Sets
  live : client.Live → client.state = .connected ∨ client.Clears

variable {client}

theorem not_live (live : client.Live) : client.outbound ≠ none := by
  obtain ⟨_, held, _⟩ := live
  simp [held]

theorem go_on_inv {place : Nat} {failed : Bool} (timely : client.Timely (.goOn place failed))
    (kept : client.connects = [] → client.Inv) (quiet : (client.goOn place failed).connects = []) :
    (client.goOn place failed).Inv := by
  unfold goOn at quiet ⊢
  cases there : client.connects[place]? with
  | none =>
    rw [there] at quiet
    exact kept quiet
  | some connect =>
    obtain ⟨inside, _⟩ := List.getElem?_eq_some_iff.mp there
    have some : ∀ next, client.connects.set place next ≠ [] := fun next none => by
      have length := congrArg List.length none
      rw [length_set, length_nil] at length
      omega
    have last : client.connects.eraseIdx place = [] → ¬ 1 < client.connects.length := fun none => by
      have length := congrArg List.length none
      rw [length_eraseIdx_of_lt inside, length_nil] at length
      omega
    simp only [Timely, there] at timely
    rw [there] at quiet
    cases connect with
    | passed | storing => exact absurd quiet (some _)
    | dialing =>
      cases failed with
      | true => exact absurd (timely rfl) (last quiet)
      | false => exact absurd quiet (some _)
    | finishing =>
      exact ⟨(fun other => by cases other), fun _ => timely.resolve_left (last quiet), fun _ => .inl rfl⟩

theorem read_inv {conn : Nat} (timely : client.Timely (.read conn)) (quiet : client.connects = [])
    (inv : client.Inv) : (client.read conn).Inv := by
  unfold read
  split
  · rename_i alive
    have ended : .ended ∈ client.readers.set conn .ended :=
      mem_set (List.getElem?_eq_some_iff.mp alive).1 _
    exact ⟨fun _ => .inl ended, fun _ => .inr (.inl ended), fun _ => .inr (.inl ended)⟩
  · rename_i ended
    have clearing : .clearing ∈ client.readers.set conn .clearing :=
      mem_set (List.getElem?_eq_some_iff.mp ended).1 _
    exact ⟨(fun other => by cases other), (fun other => by cases other), fun _ => .inr (.inr (.inl clearing))⟩
  · rename_i clearing
    have sets : client.Sets → ({ client with outbound := none, readers := client.readers.set conn .gone } : Client).Sets :=
      fun sets => sets.imp_left fun ended => (mem_set_or clearing ended).resolve_left (by simp)
    refine ⟨fun dialing => sets (inv.settles dialing), fun connected => .inr (sets ?_), fun live => ?_⟩
    · exact ((timely clearing).resolve_left (absurd quiet)).resolve_left fun other => by cases connected.symm.trans other
    · exact absurd rfl (not_live live)
  · exact inv

theorem finish_inv {place : Nat} (timely : client.Timely (.finish place)) (quiet : client.connects = [])
    (inv : client.Inv) : (client.finish place).Inv := by
  unfold finish
  split
  · exact inv
  · rename_i clears
    have some : client.disconnects.set place false ≠ [] :=
      ne_nil_of_mem (mem_set (List.getElem?_eq_some_iff.mp clears).1 _)
    exact ⟨fun _ => .inr some, fun _ => .inr (.inr some), fun live => absurd rfl (not_live live)⟩
  · rename_i last
    refine ⟨(fun other => by cases other), (fun other => by cases other), fun live => .inr ?_⟩
    refine (((timely last).resolve_left (absurd quiet)).resolve_left (absurd live)).imp_right fun clears => ?_
    exact clears.imp_right fun clear => (mem_erase_or last clear).resolve_left (by simp)

theorem step_inv (label : Label) (kept : client.connects = [] → client.Inv) (timely : client.Timely label)
    (quiet : (client.step label).connects = []) : (client.step label).Inv := by
  cases label with
  | connect =>
    simp only [step, connect] at quiet ⊢
    split at quiet
    · rename_i running
      rw [if_pos running]
      exact kept quiet
    · simp at quiet
  | goOn => exact go_on_inv timely kept quiet
  | read =>
    have before : client.connects = [] := by
      revert quiet
      simp only [step, read]
      split <;> exact id
    exact read_inv timely before (kept before)
  | disconnect =>
    have clears : true ∈ client.disconnects ++ [true] := mem_append_right _ mem_cons_self
    exact ⟨fun _ => .inr (ne_nil_of_mem clears), fun _ => .inr (.inr (ne_nil_of_mem clears)),
      fun _ => .inr (.inr (.inr clears))⟩
  | finish =>
    have before : client.connects = [] := by
      revert quiet
      simp only [step, finish]
      split <;> exact id
    exact finish_inv timely before (kept before)

theorem truthful_of_inv (kept : client.connects = [] → client.Inv) : client.Truthful := by
  intro quiet idle ended clearing
  have inv := kept quiet
  have sets : ¬ client.Sets := fun sets => sets.elim ended (absurd idle)
  have clears : ¬ client.Clears := by
    rintro (member | member | member)
    · exact ended member
    · exact clearing member
    · rw [idle] at member
      cases member
  refine ⟨⟨fun connected => (inv.connected connected).resolve_right sets, fun live => (inv.live live).resolve_right clears⟩, ?_⟩
  cases state : client.state with
  | disconnected => exact .inr rfl
  | connecting => exact absurd (inv.settles state) sets
  | connected => exact .inl rfl

-- With no call and no epilogue under way the state tells whether outbound holds a live connection.
theorem connection_state_truthful (labels : List Label) (follows : Follows step Timely {} labels) :
    Always step Truthful {} labels :=
  always_mono step (fun client => client.connects = [] → client.Inv) Truthful (fun _ => truthful_of_inv) _ labels
    (always_of_follows step _ _ (fun _ label kept timely => step_inv label kept timely) _
      (fun _ => ⟨(fun other => by cases other), (fun other => by cases other), fun live => absurd rfl (not_live live)⟩) follows)

theorem lost_and_connected_again : Always step Truthful {} [.connect, .goOn 0 false, .goOn 0 false, .goOn 0 false,
    .goOn 0 false, .read 0, .read 0, .read 0, .connect, .goOn 0 false] := by
  refine connection_state_truthful _ ?_
  simp [Follows, Timely, step, connect, goOn, read, Live]

theorem failed_connecting : ¬ Always step Truthful {} [.connect, .goOn 0 false, .goOn 0 true] := by
  intro always
  have states := (always_run step _ always (by decide) (by decide) (by decide) (by decide)).2
  revert states
  decide

end Client

end PondSocket.Rust.ClientConnection
