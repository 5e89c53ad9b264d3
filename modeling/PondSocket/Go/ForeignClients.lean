import PondSocket.Python.ClientFrames
import PondSocket.Rust.ClientFrames

namespace PondSocket.Go.Wire

open Library List ConnRun
open Library.JsonText (Value Number)
open Js (ServerEvent)

section

variable {Got : Type} (decode : List Char → Reading Got) (said : Got → ChannelEvent) (numeral : Number → Rat)

def ConnRun.RoutedAll (run : ConnRun) : Prop :=
  (readAll decode run.frames).map said = run.written.map (Event.seen numeral)

variable {decode said numeral}

theorem routed_all_iff {fits : Event → Prop} (takes : TakesOne decode said numeral fits) {sendBuffer : Nat}
    {labels : List ConnStep} (server : ∀ event, .sendJSON event ∈ labels → ServerEvent event) :
    (run ConnRun.step (.new sendBuffer) labels).RoutedAll decode said numeral ↔
      Follows ConnRun.step ConnRun.Alone (.new sendBuffer) labels ∧
        ∀ event ∈ (run ConnRun.step (.new sendBuffer) labels).written, fits event := by
  obtain ⟨groups, first, queued, grouped, alone⟩ :=
    grouped_run (.new sendBuffer) [] [] [] grouped_new
  rw [nil_append] at grouped
  have serves : ∀ group ∈ groups, ∀ event ∈ group.events, ServerEvent event := by
    intro group member event inside
    apply Js.sent_all server event
    rw [grouped.sent]
    exact mem_append_left _ (mem_flatMap.mpr ⟨group, member, inside⟩)
  rw [ConnRun.RoutedAll, written_grouped first queued grouped, grouped.frames,
    read_groups_iff takes serves, alone]

end

-- Both clients route all events just where writePump never finds a second message
-- queued, and the parsers' limits leave the events.
theorem rust_and_python_route_iff (finite : Number → Bool) (lone : Nat → Char) (within : Value → Bool)
    (doubles numbers : Number → Rat) (sendBuffer : Nat) (labels : List ConnStep)
    (server : ∀ event, .sendJSON event ∈ labels → ServerEvent event) :
    (run ConnRun.step (.new sendBuffer) labels).RoutedAll (Rust.Client.readFrame finite doubles)
          Rust.Client.ChannelEvent.said doubles ∧
        (run ConnRun.step (.new sendBuffer) labels).RoutedAll (Python.Client.handleInboundText lone within numbers)
          Python.Client.ChannelEvent.said numbers ↔
      Follows ConnRun.step ConnRun.Alone (.new sendBuffer) labels ∧
        ∀ event ∈ (run ConnRun.step (.new sendBuffer) labels).written,
          Rust.Client.fits finite event.value = true ∧ within event.value = true := by
  rw [routed_all_iff Rust.Client.takes_one server, routed_all_iff (Python.Client.takes_one lone within numbers) server]
  constructor
  · intro both
    exact ⟨both.1.1, fun event member => ⟨both.1.2 event member, both.2.2 event member⟩⟩
  · intro both
    exact ⟨⟨both.1, fun event member => (both.2 event member).1⟩, both.1, fun event member => (both.2 event member).2⟩

theorem notice_serves {name : String} : ServerEvent (notice name) := ⟨[], rfl, .inl mem_cons_self⟩

theorem apart_routed :
    (run ConnRun.step (.new 8)
        [.sendJSON (notice "1"), .receive, .write, .sendJSON (notice "2"), .receive, .write]).RoutedAll
          (Rust.Client.readFrame (fun _ => true) (fun _ => 0)) Rust.Client.ChannelEvent.said (fun _ => 0) ∧
      (run ConnRun.step (.new 8)
        [.sendJSON (notice "1"), .receive, .write, .sendJSON (notice "2"), .receive, .write]).RoutedAll
          (Python.Client.handleInboundText (fun _ => '?') (fun _ => true) (fun _ => 0)) Python.Client.ChannelEvent.said
            (fun _ => 0) := by
  apply (rust_and_python_route_iff (fun _ => true) (fun _ => '?') (fun _ => true) (fun _ => 0) (fun _ => 0) 8
    [.sendJSON (notice "1"), .receive, .write, .sendJSON (notice "2"), .receive, .write] ?_).mpr
  · constructor
    · simp [Follows, step, ConnRun.Alone, sendJSON, receive, write, hasRoom,
        new]
    · intro event member
      have sent : event = notice "1" ∨ event = notice "2" := by
        have written : (run step (.new 8)
            [.sendJSON (notice "1"), .receive, .write, .sendJSON (notice "2"), .receive, .write]).written =
              [notice "1", notice "2"] := rfl
        rw [written] at member
        simpa using member
      rcases sent with same | same
      · rw [same]
        exact ⟨rfl, rfl⟩
      · rw [same]
        exact ⟨rfl, rfl⟩
  · intro event member
    have sent : event = notice "1" ∨ event = notice "2" := by simpa using member
    rcases sent with same | same
    · rw [same]
      exact notice_serves
    · rw [same]
      exact notice_serves

theorem joined_unrouted :
    ¬ ((run ConnRun.step (.new 8) [.sendJSON (notice "1"), .sendJSON (notice "2"), .receive, .write]).RoutedAll
            (Rust.Client.readFrame (fun _ => true) (fun _ => 0)) Rust.Client.ChannelEvent.said (fun _ => 0) ∧
        (run ConnRun.step (.new 8) [.sendJSON (notice "1"), .sendJSON (notice "2"), .receive, .write]).RoutedAll
            (Python.Client.handleInboundText (fun _ => '?') (fun _ => true) (fun _ => 0)) Python.Client.ChannelEvent.said
              (fun _ => 0)) := by
  intro both
  have follows := ((routed_all_iff Rust.Client.takes_one ?_).mp both.1).1
  · have alone := follows.2.2.2.1 rfl (by simp [step, sendJSON, receive, hasRoom,
      new])
    simp [step, sendJSON, receive, hasRoom, new] at alone
  intro event member
  have sent : event = notice "1" ∨ event = notice "2" := by simpa using member
  rcases sent with same | same
  · rw [same]
    exact notice_serves
  · rw [same]
    exact notice_serves

end PondSocket.Go.Wire
