import PondSocket.Go.ClientFrames
import PondSocket.Js.Frames

namespace PondSocket.Go.Wire

open Library List Group
open Library.JsonText (Value Number)
open Js (Json ServerEvent IsRecord PresencePayload)

inductive Reading (Got : Type) where
  | routed (event : Got)
  | passed
  | ended

def readAll {Got : Type} (decode : List Char → Reading Got) : List (List Char) → List Got
  | [] => []
  | frame :: rest =>
    match decode frame with
    | .routed event => event :: readAll decode rest
    | .passed => readAll decode rest
    | .ended => []

def fieldOr (key : String) (fields : List (String × Value)) : Value := (OrderedMap.findEntry key fields).getD .null

def Event.seen (numeral : Number → Rat) (event : Event) : ChannelEvent where
  action := event.action
  event := event.event
  channelName := event.channelName
  requestId := event.requestId
  payload :=
    match event.payload with
    | .object fields =>
      if event.action = "PRESENCE" then
        .object [("presence", toJson numeral (fieldOr "presence" fields)), ("changed", toJson numeral (fieldOr "changed" fields))]
      else toJson numeral event.payload
    | _ => toJson numeral event.payload

def Event.fields (event : Event) : List (String × Value) :=
  [("action", .string event.action), ("channelName", .string event.channelName), ("requestId", .string event.requestId),
    ("payload", event.payload), ("event", .string event.event)] ++ event.routing

theorem value_fields (event : Event) : event.value = .object event.fields := rfl

def textOf (key : String) (fields : List (String × Value)) : Option String :=
  match OrderedMap.findEntry key fields with
  | some (.string text) => some text
  | _ => none

def recordOf (numeral : Number → Rat) : Value → Option (List (String × Json))
  | .object fields => some (fieldsJson numeral fields)
  | _ => none

def recordsOf (numeral : Number → Rat) : List Value → Option (List (List (String × Json)))
  | [] => some []
  | item :: rest =>
    match recordOf numeral item with
    | none => none
    | some record => (recordsOf numeral rest).map fun records => record :: records

theorem records_of (numeral : Number → Rat) {items : List Value} (records : ∀ item ∈ items, IsRecord item) :
    ∃ read, recordsOf numeral items = some read ∧ itemsJson numeral items = read.map .object := by
  induction items with
  | nil => exact ⟨[], rfl, rfl⟩
  | cons item _ ih =>
    obtain ⟨others, read, same⟩ := ih fun other member => records other (mem_cons_of_mem _ member)
    have record := records item mem_cons_self
    cases item with
    | object fields =>
      refine ⟨fieldsJson numeral fields :: others, ?_, ?_⟩
      · rw [recordsOf, recordOf, read]
        rfl
      · rw [itemsJson, same, toJson]
        rfl
    | _ => cases record

section

variable {Got : Type} (decode : List Char → Reading Got) (said : Got → ChannelEvent) (numeral : Number → Rat)

theorem read_short (frames : List (List Char)) : (readAll decode frames).length ≤ frames.length := by
  induction frames with
  | nil => exact Nat.le_refl 0
  | cons frame _ ih =>
    rw [readAll]
    cases decode frame with
    | routed => exact Nat.succ_le_succ ih
    | passed => exact Nat.le_succ_of_le ih
    | ended => exact Nat.zero_le _

theorem groups_long (groups : List Group) : groups.length ≤ (groups.flatMap Group.events).length := by
  induction groups with
  | nil => exact Nat.le_refl 0
  | cons =>
    rw [flatMap_cons, length_append, length_cons, events, length_cons]
    omega

structure TakesOne (fits : Event → Prop) : Prop where
  alone : ∀ event, ServerEvent event → fits event → ∃ got, decode event.marshal = .routed got ∧ said got = event.seen numeral
  large : ∀ event, ServerEvent event → ¬ fits event → ∀ got, decode event.marshal ≠ .routed got
  joined : ∀ event next others got, decode (Group.frame (event, next :: others)) ≠ .routed got

variable {decode said numeral}

theorem frame_alone (event : Event) : Group.frame (event, []) = event.marshal := append_nil _

-- No frame gives more than one event, so all events are read only where each frame
-- holds one and gives it.
theorem read_groups_iff {fits : Event → Prop} (takes : TakesOne decode said numeral fits) {groups : List Group}
    (server : ∀ group ∈ groups, ∀ event ∈ group.events, ServerEvent event) :
    (readAll decode (groups.map Group.frame)).map said = (groups.flatMap Group.events).map (Event.seen numeral) ↔
      (∀ group ∈ groups, group.2 = []) ∧ ∀ event ∈ groups.flatMap Group.events, fits event := by
  induction groups with
  | nil => simp [readAll]
  | cons group rest ih =>
    obtain ⟨event, others⟩ := group
    have short := read_short decode (rest.map frame)
    have long := groups_long rest
    rw [length_map] at short
    have missed : (∀ got, decode (frame (event, others)) ≠ .routed got) →
        (readAll decode (((event, others) :: rest).map frame)).map said ≠
          (((event, others) :: rest).flatMap events).map (Event.seen numeral) := by
      intro none same
      have lengths := congrArg List.length same
      rw [length_map, length_map, flatMap_cons, length_append, events, length_cons, map_cons, readAll] at lengths
      cases reading : decode (frame (event, others)) with
      | routed got => exact none got reading
      | passed =>
        rw [reading] at lengths
        dsimp only at lengths
        omega
      | ended =>
        rw [reading] at lengths
        dsimp only [length_nil] at lengths
        omega
    cases others with
    | cons next others =>
      refine iff_of_false (missed (takes.joined event next others)) ?_
      intro all
      have alone := all.1 _ mem_cons_self
      cases alone
    | nil =>
      have serves : ServerEvent event := server (event, []) mem_cons_self event mem_cons_self
      by_cases small : fits event
      · obtain ⟨got, reading, whole⟩ := takes.alone event serves small
        have later := ih fun group member => server group (mem_cons_of_mem _ member)
        rw [map_cons, readAll, frame_alone, reading]
        rw [map_cons, whole, flatMap_cons, events, singleton_append, map_cons,
          cons_inj_right, later, forall_mem_cons, forall_mem_cons]
        constructor
        · intro all
          exact ⟨⟨rfl, all.1⟩, small, all.2⟩
        · intro all
          exact ⟨all.1.2, all.2.2⟩
      · refine iff_of_false (missed ?_) ?_
        · intro got
          rw [frame_alone]
          exact takes.large event serves small got
        · intro all
          exact small (all.2 event (mem_flatMap.mpr ⟨(event, []), mem_cons_self, mem_cons_self⟩))

end

end PondSocket.Go.Wire
