import PondSocket.Library.Run
import PondSocket.Python.SseStream

namespace PondSocket.Python.Sse

open Library List
open Wire (eventToSseFrame)

-- Where _stream_sse stands: it has not begun, its next_task has not run, next_event
-- waits for the task that gets from the queue, which may have taken an event, next_task
-- is done, an ASGI send is awaited, or the loop is left.
inductive Phase where
  | before
  | created
  | waiting (taken : Option Wire.Event)
  | returned (event : Option Wire.Event)
  | sending
  | closing
  | finished

inductive Body where
  | frame (text : List Char)
  | last

-- One connection whose client stays and whose sends succeed. completed are the events
-- of the calls of send_event that have returned.
structure Connection where
  active : Bool := true
  outbound : List Wire.Event := []
  phase : Phase := .before
  response : List Body := []
  completed : List Wire.Event := []

-- What gets its turn: a caller, the task that gets from the queue, or the streaming
-- loop with the task that it waits for.
inductive Label where
  | sendEvent (event : Wire.Event)
  | close
  | getTask
  | stream

def Label.streams : Label → Bool
  | .stream => true
  | _ => false

def Phase.held : Phase → List Wire.Event
  | .waiting (some event) | .returned (some event) => [event]
  | _ => []

def Phase.ended : Phase → Bool
  | .finished => true
  | _ => false

-- How many events of the queue the loop takes once the transport is closed.
def Phase.reach : Phase → Nat
  | .created | .waiting none => 1
  | _ => 0

-- How many turns the loop needs at most to come to its end.
def Phase.turns : Phase → Nat
  | .created => 5
  | .waiting _ => 4
  | .returned _ => 3
  | .before | .sending => 2
  | .closing => 1
  | .finished => 0

namespace Connection

variable (connection : Connection)

-- send_event raises on a closed transport; the queue has no bound, so put does not wait.
def sendEvent (connection : Connection) (event : Wire.Event) : Connection :=
  if connection.active then
    { connection with outbound := connection.outbound ++ [event], completed := connection.completed ++ [event] }
  else connection

def close (connection : Connection) : Connection := { connection with active := false }

def loop (connection : Connection) : Connection :=
  { connection with phase := if connection.active then .created else .closing }

def getTask (connection : Connection) : Connection :=
  match connection.phase, connection.outbound with
  | .waiting none, event :: rest => { connection with phase := .waiting (some event), outbound := rest }
  | _, _ => connection

def nextEvent (connection : Connection) : Connection :=
  if connection.active = false ∧ connection.outbound = [] then { connection with phase := .returned none }
  else { connection with phase := .waiting none }

def waited (connection : Connection) (taken : Option Wire.Event) : Connection :=
  match taken with
  | some event => { connection with phase := .returned (some event) }
  | none =>
    if connection.active then connection
    else
      match connection.outbound with
      | [] => { connection with phase := .returned none }
      | event :: rest => { connection with phase := .returned (some event), outbound := rest }

def stream (connection : Connection) : Connection :=
  match connection.phase with
  | .before | .sending => connection.loop
  | .created => connection.nextEvent
  | .waiting taken => connection.waited taken
  | .returned none => { connection with phase := .closing }
  | .returned (some event) =>
    { connection with phase := .sending, response := connection.response ++ [.frame (eventToSseFrame event)] }
  | .closing => { connection.close with phase := .finished, response := connection.response ++ [.last] }
  | .finished => connection

def step (connection : Connection) : Label → Connection
  | .sendEvent event => connection.sendEvent event
  | .close => connection.close
  | .getTask => connection.getTask
  | .stream => connection.stream

def frames (events : List Wire.Event) : List Body := events.map fun event => .frame (eventToSseFrame event)

def Accounted (connection : Connection) : Prop :=
  ∃ written, connection.response = frames written ++ (if connection.phase.ended then [.last] else []) ∧
    connection.completed = written ++ (connection.phase.held ++ connection.outbound)

variable {connection}

theorem accounted_same {next : Connection} (accounted : connection.Accounted) (response : next.response = connection.response)
    (completed : next.completed = connection.completed) (ended : next.phase.ended = connection.phase.ended)
    (kept : next.phase.held ++ next.outbound = connection.phase.held ++ connection.outbound) : next.Accounted := by
  rw [Accounted, response, completed, ended, kept]
  exact accounted

theorem step_accounted (label : Label) (accounted : connection.Accounted) : (connection.step label).Accounted := by
  obtain ⟨active, outbound, phase, response, completed⟩ := connection
  cases label with
  | close => exact accounted
  | sendEvent =>
    obtain ⟨written, said, sent⟩ := accounted
    cases active with
    | false => exact ⟨written, said, sent⟩
    | true =>
      have sent : completed = written ++ (phase.held ++ outbound) := sent
      exact ⟨written, said, by simp [step, sendEvent, sent]⟩
  | getTask =>
    cases phase with
    | waiting taken =>
      cases taken with
      | some => exact accounted
      | none =>
        cases outbound with
        | nil => exact accounted
        | cons => exact accounted_same accounted rfl rfl rfl rfl
    | before | created | returned event | sending | closing | finished => exact accounted
  | stream =>
    cases phase with
    | before | sending => cases active <;> exact accounted_same accounted rfl rfl rfl rfl
    | created => cases active <;> cases outbound <;> exact accounted_same accounted rfl rfl rfl rfl
    | waiting taken =>
      cases taken with
      | some => exact accounted_same accounted rfl rfl rfl rfl
      | none => cases active <;> cases outbound <;> exact accounted_same accounted rfl rfl rfl rfl
    | returned event =>
      obtain ⟨written, said, sent⟩ := accounted
      cases event with
      | none => exact ⟨written, said, sent⟩
      | some event =>
        have said : response = frames written ++ [] := said
        exact ⟨written ++ [event], by simp [step, stream, said, Phase.ended, frames], by simp [step, stream, sent, Phase.held]⟩
    | closing =>
      obtain ⟨written, said, sent⟩ := accounted
      have said : response = frames written ++ [] := said
      exact ⟨written, by simp [step, stream, said, Phase.ended], sent⟩
    | finished => exact accounted

def lost (connection : Connection) : List Wire.Event := connection.outbound.drop connection.phase.reach

theorem step_closed (label : Label) (closed : connection.active = false) :
    (connection.step label).active = false ∧ (connection.step label).lost = connection.lost ∧
      (connection.step label).completed = connection.completed := by
  obtain ⟨_, outbound, phase, _, _⟩ := connection
  cases closed
  cases label with
  | close | sendEvent event => exact ⟨rfl, rfl, rfl⟩
  | getTask =>
    cases phase with
    | waiting taken => cases taken <;> cases outbound <;> exact ⟨rfl, rfl, rfl⟩
    | before | created | returned event | sending | closing | finished => exact ⟨rfl, rfl, rfl⟩
  | stream =>
    cases phase with
    | created => cases outbound <;> exact ⟨rfl, rfl, rfl⟩
    | waiting taken => cases taken <;> cases outbound <;> exact ⟨rfl, rfl, rfl⟩
    | returned event => cases event <;> exact ⟨rfl, rfl, rfl⟩
    | before | sending | closing | finished => exact ⟨rfl, rfl, rfl⟩

theorem step_turns (label : Label) (closed : connection.active = false) :
    (connection.step label).phase.turns ≤ connection.phase.turns - label.streams.toNat := by
  obtain ⟨_, outbound, phase, _, _⟩ := connection
  cases closed
  cases label with
  | close | sendEvent event => exact Nat.le_refl phase.turns
  | getTask =>
    cases phase with
    | waiting taken => cases taken <;> cases outbound <;> exact Nat.le_refl 4
    | before | created | returned event | sending | closing | finished => exact Nat.le_refl _
  | stream =>
    cases phase with
    | created => cases outbound <;> exact Nat.le_of_ble_eq_true rfl
    | waiting taken => cases taken <;> cases outbound <;> exact Nat.le_refl 3
    | returned event => cases event <;> exact Nat.le_of_ble_eq_true rfl
    | before | sending | closing | finished => exact Nat.le_of_ble_eq_true rfl

theorem run_closed (labels : List Label) (closed : connection.active = false) :
    (run step connection labels).lost = connection.lost ∧ (run step connection labels).completed = connection.completed ∧
      (run step connection labels).phase.turns ≤ connection.phase.turns - labels.countP Label.streams := by
  induction labels generalizing connection with
  | nil => exact ⟨rfl, rfl, Nat.le_refl _⟩
  | cons label rest ih =>
    obtain ⟨still, lost, completed⟩ := step_closed label closed
    obtain ⟨later, sent, turns⟩ := ih still
    refine ⟨later.trans lost, sent.trans completed, turns.trans ?_⟩
    have here := step_turns label closed
    have counted : (label :: rest).countP Label.streams = rest.countP Label.streams + label.streams.toNat := by
      cases kind : label.streams <;> simp [kind]
    omega

-- A connection that is closed after some steps writes all that was sent exactly if the
-- queue then holds no more than the loop still takes; and five turns of the loop end it.
theorem sends_written_iff (before after : List Label) :
    ((run step (run step {} before : Connection).close after).phase.ended = true →
      ((run step (run step {} before).close after).response = frames (run step {} before).completed ++ [.last] ↔
        (run step {} before).outbound.length ≤ (run step {} before).phase.reach)) ∧
      (5 ≤ after.countP Label.streams → (run step (run step {} before).close after).phase.ended = true) := by
  have kept : ∀ (start : Connection) labels, start.Accounted → (run step start labels).Accounted := by
    intro start labels accounted
    exact run_keeps step (fun _ _ => True) Accounted (fun _ label accounted _ => step_accounted label accounted) start labels
      accounted (follows_all step _ _ labels fun _ _ => trivial)
  have initial : (run step {} before).Accounted := kept {} before ⟨[], rfl, rfl⟩
  generalize run step {} before = connection at initial ⊢
  obtain ⟨lost, completed, turns⟩ := @run_closed connection.close after rfl
  obtain ⟨written, response, sent⟩ := kept connection.close after initial
  generalize run step connection.close after = final at lost completed turns response sent ⊢
  obtain ⟨_, outbound, phase, said, _⟩ := final
  refine ⟨fun ended => ?_, fun many => ?_⟩
  · cases phase with
    | finished =>
      have queue : outbound = connection.outbound.drop connection.phase.reach := lost
      have whole : connection.completed = written ++ outbound := completed.symm.trans sent
      have response : said = frames written ++ [.last] := response
      rw [response, whole, ← drop_eq_nil_iff, ← queue]
      constructor
      · intro same
        have lengths := congrArg length same
        simp only [frames, length_append, length_map] at lengths
        exact length_eq_zero_iff.mp (by omega)
      · intro none
        rw [none, append_nil]
    | before | created | waiting taken | returned event | sending | closing => cases ended
  · have most : connection.close.phase.turns ≤ 5 := by
      cases connection.close.phase <;> exact Nat.le_of_ble_eq_true rfl
    have none : phase.turns = 0 := by
      have turns : phase.turns ≤ connection.close.phase.turns - after.countP Label.streams := turns
      omega
    cases phase with
    | finished => rfl
    | before | created | waiting taken | returned event | sending | closing => cases none

def hurried : List Label := [.sendEvent Wire.told, .stream, .stream, .getTask, .stream, .stream,
  .sendEvent Wire.told, .sendEvent Wire.chat]

theorem queued_lost : ¬ ∀ after, (run step (run step {} hurried : Connection).close after).phase.ended = true →
    (run step (run step {} hurried).close after).response = frames (run step {} hurried).completed ++ [.last] := by
  intro all
  have same := all [.stream, .stream] rfl
  have lengths := congrArg length same
  cases lengths

end Connection

end PondSocket.Python.Sse
