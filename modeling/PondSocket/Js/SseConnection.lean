import Mathlib.Logic.Function.Basic
import PondSocket.Library.Run

namespace PondSocket.Js

open Library

inductive ReadyState
  | connecting
  | opened
  | closed
deriving DecidableEq

-- Event sources are numbered as they are created, and one that is not created yet counts as closed. A connection
-- timer has the number of its source; armed are those that may still fire.
structure SSEClient where
  sources : Nat → ReadyState := fun _ => .closed
  created : Nat := 0
  eventSource : Option Nat := none
  connectionTimeoutId : Option Nat := none
  armed : List Nat := []
  reconnectTimeoutId : Bool := false
  disconnecting : Bool := false
  connectCalled : Bool := false

namespace SSEClient

variable (client : SSEClient)

def setState (source : Nat) (state : ReadyState) : SSEClient :=
  { client with sources := Function.update client.sources source state }

def clearConnectionTimeout : SSEClient :=
  match client.connectionTimeoutId with
  | none => client
  | some id => { client with armed := client.armed.erase id, connectionTimeoutId := none }

def connect : SSEClient :=
  { client.setState client.created .connecting with
    created := client.created + 1
    eventSource := some client.created
    connectionTimeoutId := some client.created
    armed := client.armed ++ [client.created]
    reconnectTimeoutId := false
    disconnecting := false
    connectCalled := true }

def disconnect : SSEClient :=
  let cleared := client.clearConnectionTimeout
  let closed := match client.eventSource with
    | none => cleared
    | some source => cleared.setState source .closed
  { closed with
    eventSource := none
    reconnectTimeoutId := false
    disconnecting := true
    connectCalled := false }

-- A closed source fires no events; one that has failed tries again by itself unless the failure was fatal.
inductive Label
  | connect
  | disconnect
  | onopen (source : Nat)
  | onmessage (source : Nat)
  | onerror (source : Nat) (fatal : Bool)
  | connectionTimeout (source : Nat)
  | reconnectTimeout

def onerror (source : Nat) (fatal : Bool) : SSEClient :=
  if client.eventSource = some source then
    { client.clearConnectionTimeout.setState source .closed with
      eventSource := none
      reconnectTimeoutId := client.reconnectTimeoutId || !client.disconnecting }
  else client.setState source (if fatal then .closed else .connecting)

def step (client : SSEClient) : Label → SSEClient
  | .connect => client.connect
  | .disconnect => client.disconnect
  | .onopen source =>
    if client.sources source = .connecting then client.clearConnectionTimeout.setState source .opened else client
  | .onmessage _ => client
  | .onerror source fatal => if client.sources source = .closed then client else client.onerror source fatal
  | .connectionTimeout source =>
    if source ∈ client.armed then
      let fired := { client with armed := client.armed.erase source }
      if client.sources source = .connecting then fired.setState source .closed else fired
    else client
  | .reconnectTimeout =>
    if client.reconnectTimeoutId then
      let fired := { client with reconnectTimeoutId := false }
      if client.disconnecting then fired else fired.connect
    else client

-- Neither stuck nor doubled: what holds between two callbacks.
structure Sound : Prop where
  live : client.connectCalled = true → client.reconnectTimeoutId = true ∨ ∃ source, client.eventSource = some source ∧
    (client.sources source = .opened ∨ client.sources source = .connecting ∧ source ∈ client.armed)
  single : ∀ first second, client.sources first ≠ .closed → client.sources second ≠ .closed → first = second
  quiet : client.disconnecting = true →
    (∀ source, client.sources source = .closed) ∧ client.armed = [] ∧ client.reconnectTimeoutId = false

-- connect is called only while no source is connecting or open, and no source is still connecting at its timeout.
def Tidy (client : SSEClient) : Label → Prop
  | .connect => ∀ source, client.sources source = .closed
  | .connectionTimeout source => source ∈ client.armed → client.sources source ≠ .connecting
  | _ => True

structure Inv : Prop where
  only : ∀ source, client.sources source ≠ .closed → client.eventSource = some source
  fresh : ∀ source, client.created ≤ source → client.sources source = .closed
  idle : client.eventSource = none → client.armed = [] ∧ client.reconnectTimeoutId = client.connectCalled ∧
    (client.disconnecting = true → client.connectCalled = false)
  busy : ∀ source, client.eventSource = some source → client.disconnecting = false ∧ client.connectCalled = true ∧
    client.reconnectTimeoutId = false ∧ (client.sources source = .opened ∧ client.armed = [] ∨
      client.sources source = .connecting ∧ client.connectionTimeoutId = some source ∧ client.armed = [source])

theorem idle_closed (inv : client.Inv) (none : client.eventSource = none) (source : Nat) :
    client.sources source = .closed := by
  by_contra unclosed
  cases (inv.only source unclosed).symm.trans none

theorem inv_sound (inv : client.Inv) : client.Sound := by
  refine ⟨?_, ?_, ?_⟩
  · intro called
    cases current : client.eventSource with
    | none => exact .inl ((inv.idle current).2.1.trans called)
    | some source =>
      refine .inr ⟨source, rfl, ?_⟩
      rcases (inv.busy source current).2.2.2 with ⟨opened, _⟩ | ⟨connecting, _, armed⟩
      · exact .inl opened
      · exact .inr ⟨connecting, by rw [armed]; exact List.mem_singleton_self source⟩
  · intro first second one two
    exact Option.some.inj ((inv.only first one).symm.trans (inv.only second two))
  · intro stopped
    cases current : client.eventSource with
    | none =>
      obtain ⟨armed, waits, wanted⟩ := inv.idle current
      exact ⟨idle_closed client inv current, armed, waits.trans (wanted stopped)⟩
    | some source => cases (inv.busy source current).1.symm.trans stopped

variable {client}

theorem clear_frame : client.clearConnectionTimeout = { client with
    armed := client.clearConnectionTimeout.armed
    connectionTimeoutId := client.clearConnectionTimeout.connectionTimeoutId } := by
  simp only [clearConnectionTimeout]
  split <;> rfl

theorem clear_armed (inv : client.Inv) : client.clearConnectionTimeout.armed = [] := by
  have none : client.armed = [] → client.clearConnectionTimeout.armed = [] := by
    intro none
    simp only [clearConnectionTimeout]
    split
    · exact none
    · rw [none]
      rfl
  cases current : client.eventSource with
  | none => exact none (inv.idle current).1
  | some source =>
    rcases (inv.busy source current).2.2.2 with ⟨_, armed⟩ | ⟨_, stored, armed⟩
    · exact none armed
    · simp [clearConnectionTimeout, stored, armed]

theorem idle_inv {next : SSEClient} (closed : ∀ source, next.sources source = .closed) (none : next.eventSource = none)
    (armed : next.armed = []) (waits : next.reconnectTimeoutId = next.connectCalled)
    (wanted : next.disconnecting = true → next.connectCalled = false) : next.Inv :=
  ⟨fun source unclosed => absurd (closed source) unclosed, fun source _ => closed source,
    fun _ => ⟨armed, waits, wanted⟩, fun source current => by cases none.symm.trans current⟩

theorem connect_inv (closed : ∀ source, client.sources source = .closed) (armed : client.armed = []) :
    client.connect.Inv := by
  have others : ∀ source, source ≠ client.created → client.connect.sources source = .closed :=
    fun source other => (Function.update_of_ne other _ _).trans (closed source)
  refine ⟨?_, fun source later => others source (Nat.ne_of_gt later), (fun none => by cases none), ?_⟩
  · intro source unclosed
    by_cases new : source = client.created
    · rw [new]
      rfl
    · exact absurd (others source new) unclosed
  intro source current
  cases current
  exact ⟨rfl, rfl, rfl, .inr ⟨Function.update_self .., rfl, by simp [connect, armed]⟩⟩

variable {source : Nat}

theorem close_closed (inv : client.Inv) (current : client.eventSource = some source) {other : Nat} :
    Function.update client.sources source .closed other = .closed := by
  by_cases same : other = source
  · rw [same]
    exact Function.update_self ..
  rw [Function.update_of_ne same]
  by_contra unclosed
  exact same (Option.some.inj ((inv.only other unclosed).symm.trans current))

theorem disconnect_inv (inv : client.Inv) : client.disconnect.Inv := by
  have clears := clear_armed inv
  simp only [disconnect]
  cases current : client.eventSource with
  | none =>
    refine idle_inv (fun source => ?_) rfl clears rfl fun _ => rfl
    rw [clear_frame]
    exact idle_closed client inv current source
  | some =>
    refine idle_inv (fun source => ?_) rfl clears rfl fun _ => rfl
    rw [clear_frame]
    exact close_closed inv current

theorem onopen_inv (inv : client.Inv) (connecting : client.sources source = .connecting) :
    (client.clearConnectionTimeout.setState source .opened).Inv := by
  have current := inv.only source (by rw [connecting]; decide)
  obtain ⟨wanted, called, still, _⟩ := inv.busy source current
  have kept : ∀ other, other ≠ source → Function.update client.sources source .opened other = client.sources other :=
    fun other apart => Function.update_of_ne apart _ _
  rw [clear_frame, clear_armed inv]
  refine ⟨?_, ?_, (fun none => by cases current.symm.trans none), ?_⟩
  · intro other unclosed
    by_cases same : other = source
    · rw [same]
      exact current
    · exact inv.only other (kept other same ▸ unclosed)
  · intro other later
    refine (kept other ?_).trans (inv.fresh other later)
    rintro rfl
    cases connecting.symm.trans (inv.fresh other later)
  · intro other there
    cases current.symm.trans there
    exact ⟨wanted, called, still, .inl ⟨Function.update_self .., rfl⟩⟩

theorem onerror_inv (inv : client.Inv) {fatal : Bool} (unclosed : client.sources source ≠ .closed) :
    (client.onerror source fatal).Inv := by
  have current := inv.only source unclosed
  obtain ⟨wanted, called, _, _⟩ := inv.busy source current
  rw [onerror, if_pos current]
  refine idle_inv (fun other => ?_) rfl (clear_armed inv) ?_ fun stopped => ?_
  · rw [clear_frame]
    exact close_closed inv current
  · rw [clear_frame, wanted, Bool.not_false, Bool.or_true]
    exact called.symm
  · rw [clear_frame] at stopped
    cases wanted.symm.trans stopped

theorem step_inv {label : Label} (inv : client.Inv) (tidy : client.Tidy label) : (client.step label).Inv := by
  cases label with
  | connect =>
    apply connect_inv tidy
    cases current : client.eventSource with
    | none => exact (inv.idle current).1
    | some source =>
      rcases (inv.busy source current).2.2.2 with ⟨_, armed⟩ | ⟨connecting, _⟩
      · exact armed
      · cases (tidy source).symm.trans connecting
  | disconnect => exact disconnect_inv inv
  | onopen =>
    simp only [step]
    split
    · exact onopen_inv inv (by assumption)
    · exact inv
  | onmessage => exact inv
  | onerror =>
    simp only [step]
    split
    · exact inv
    · exact onerror_inv inv (by assumption)
  | connectionTimeout source =>
    simp only [step]
    split
    · rename_i waits
      cases current : client.eventSource with
      | none => cases (inv.idle current).1 ▸ waits
      | some other =>
        rcases (inv.busy other current).2.2.2 with ⟨_, armed⟩ | ⟨connecting, _, armed⟩
        · cases armed ▸ waits
        · have same : source = other := List.mem_singleton.mp (armed ▸ waits)
          exact absurd (same ▸ connecting) (tidy waits)
    · exact inv
  | reconnectTimeout =>
    simp only [step]
    split
    · rename_i waits
      cases current : client.eventSource with
      | some source => cases (inv.busy source current).2.2.1.symm.trans waits
      | none =>
        obtain ⟨armed, waiting, wanted⟩ := inv.idle current
        have running : ¬client.disconnecting = true := by
          intro stopped
          cases (wanted stopped).symm.trans (waiting.symm.trans waits)
        rw [if_neg running]
        exact connect_inv (idle_closed client inv current) armed
    · exact inv

theorem tidy_needed {label : Label} (inv : client.Inv) (sound : (client.step label).Sound) : client.Tidy label := by
  cases label with
  | connect =>
    intro source
    by_contra unclosed
    have older : source ≠ client.created := by
      rintro rfl
      exact unclosed (inv.fresh _ (Nat.le_refl _))
    refine older (sound.single source client.created ?_ ?_)
    · exact (Function.update_of_ne older _ _).trans_ne unclosed
    · exact (Function.update_self ..).trans_ne (by decide)
  | connectionTimeout source =>
    intro waits connecting
    have current := inv.only source (by rw [connecting]; decide)
    obtain ⟨_, called, still, _⟩ := inv.busy source current
    simp only [step, if_pos waits, if_pos connecting] at sound
    rcases sound.live called with again | ⟨_, there, state⟩
    · cases still.symm.trans again
    cases current.symm.trans there
    have closed : Function.update client.sources source .closed source = .closed := Function.update_self ..
    rcases state with opened | ⟨connects, _⟩
    · cases closed.symm.trans opened
    · cases closed.symm.trans connects
  | _ => trivial

end SSEClient

open SSEClient

-- The client is never stuck and never doubled, exactly while connect is called only when nothing is connecting or
-- open, and every source is past connecting by its timeout.
theorem sse_client_sound_iff (labels : List SSEClient.Label) :
    Always SSEClient.step Sound ({} : SSEClient) labels ↔ Follows SSEClient.step Tidy ({} : SSEClient) labels := by
  apply always_iff_follows SSEClient.step (fun _ _ => True) Tidy Sound Inv
  · exact inv_sound
  · exact fun client label inv _ tidy => step_inv inv tidy
  · exact fun client label inv _ sound => tidy_needed inv sound
  · exact idle_inv (fun _ => rfl) rfl rfl rfl fun _ => rfl
  · exact follows_all SSEClient.step _ _ labels fun _ _ => trivial

theorem timed_out_client_stuck : ¬Always SSEClient.step Sound ({} : SSEClient) [.connect, .connectionTimeout 0] := by
  intro always
  rcases (always_run SSEClient.step _ always).live rfl with waits | ⟨_, current, state⟩
  · cases waits
  cases current
  rcases state with opened | ⟨connecting, _⟩
  · cases opened
  · cases connecting

end PondSocket.Js
