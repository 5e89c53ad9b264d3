import PondSocket.Go.Frames

namespace PondSocket.Go.Wire

open Library List
open Library.JsonText
open Js (Json)

structure ChannelEvent where
  action : String
  event : String
  payload : Json
  channelName : String
  requestId : String

inductive ChannelField where
  | action
  | event
  | payload
  | channelName
  | requestId
deriving DecidableEq

def channelFields : List (String × ChannelField) :=
  [("action", .action), ("event", .event), ("payload", .payload), ("channelName", .channelName), ("requestId", .requestId)]

def foldChar (char : Char) : Char :=
  if 65 ≤ char.toNat ∧ char.toNat ≤ 90 then Char.ofNat (char.toNat + 32)
  else if char.toNat = 0x17F then 's'
  else if char.toNat = 0x212A then 'k'
  else char

def foldName (name : String) : List Char := name.toList.map foldChar

def fieldOf (key : String) : Option ChannelField :=
  match channelFields.lookup key with
  | some field => some field
  | none => (channelFields.find? fun named => decide (foldName named.1 = foldName key)).map Prod.snd

-- json.Unmarshal into a string: null leaves it as it is.
def setText (value : Value) (text : String) : Option String :=
  match value with
  | .string found => some found
  | .null => some text
  | _ => none

def setField (numeral : Number → Rat) (event : ChannelEvent) (entry : String × Value) : Option ChannelEvent :=
  match fieldOf entry.1 with
  | none => some event
  | some .action => (setText entry.2 event.action).map fun text => { event with action := text }
  | some .event => (setText entry.2 event.event).map fun text => { event with event := text }
  | some .payload => some { event with payload := toJson numeral entry.2 }
  | some .channelName => (setText entry.2 event.channelName).map fun text => { event with channelName := text }
  | some .requestId => (setText entry.2 event.requestId).map fun text => { event with requestId := text }

def setFields (numeral : Number → Rat) (event : ChannelEvent) : List (String × Value) → Option ChannelEvent
  | [] => some event
  | entry :: rest =>
    match setField numeral event entry with
    | none => none
    | some event => setFields numeral event rest

def zeroEvent : ChannelEvent := ⟨"", "", .null, "", ""⟩

def maxNestingDepth : Nat := 10000

section

variable (lone : Nat → Char) (numeral : Number → Rat)

variable (groups : List Group) (group : Group)

def unmarshal (data : List Char) : Option ChannelEvent :=
  match parse lone data with
  | none => none
  | some value =>
    if maxNestingDepth < value.depth then none
    else
      match value with
      | .null => some zeroEvent
      | .object fields => setFields numeral zeroEvent fields
      | _ => none

def readMessages (frames : List (List Char)) : List ChannelEvent := frames.filterMap (unmarshal lone numeral)

def Event.received (event : Event) : ChannelEvent :=
  ⟨event.action, event.event, toJson numeral event.payload, event.channelName, event.requestId⟩

theorem set_fields_append (fields others : List (String × Value)) (event : ChannelEvent) :
    setFields numeral event (fields ++ others) =
      (setFields numeral event fields).bind fun event => setFields numeral event others := by
  induction fields generalizing event with
  | nil => rfl
  | cons entry _ ih =>
    simp only [cons_append, setFields]
    cases setField numeral event entry with
    | none => rfl
    | some event => exact ih event

theorem set_fields_other {fields : List (String × Value)} {event : ChannelEvent}
    (other : ∀ entry ∈ fields, fieldOf entry.1 = none) : setFields numeral event fields = some event := by
  induction fields with
  | nil => rfl
  | cons entry _ ih =>
    have here : setField numeral event entry = some event := by
      rw [setField, other entry mem_cons_self]
    rw [setFields, here]
    exact ih fun entry member => other entry (mem_cons_of_mem _ member)

theorem text_field_other {key text : String} (none : fieldOf key = none) :
    ∀ entry ∈ Event.textField key text, fieldOf entry.1 = Option.none := by
  intro entry member
  rw [Event.textField] at member
  split at member
  · cases member
  · rw [mem_singleton.mp member]
    exact none

theorem list_field_other {key : String} {items : List String} (none : fieldOf key = none) :
    ∀ entry ∈ Event.listField key items, fieldOf entry.1 = Option.none := by
  intro entry member
  rw [Event.listField] at member
  split at member
  · cases member
  · rw [mem_singleton.mp member]
    exact none

theorem routing_other {event : Event} : ∀ entry ∈ event.routing, fieldOf entry.1 = none := by
  intro entry member
  simp only [Event.routing, mem_append] at member
  rcases member with member | member | member | member
  · exact text_field_other (by decide) entry member
  · exact list_field_other (by decide) entry member
  · exact text_field_other (by decide) entry member
  · exact text_field_other (by decide) entry member

theorem set_fields_event {event : Event} :
    setFields numeral zeroEvent ([("action", .string event.action), ("channelName", .string event.channelName),
          ("requestId", .string event.requestId), ("payload", event.payload), ("event", .string event.event)] ++
            event.routing) =
      some (event.received numeral) := by
  have action : fieldOf "action" = some .action := by decide
  have channelName : fieldOf "channelName" = some .channelName := by decide
  have requestId : fieldOf "requestId" = some .requestId := by decide
  have payload : fieldOf "payload" = some .payload := by decide
  have name : fieldOf "event" = some .event := by decide
  rw [set_fields_append, Option.bind_eq_some_iff]
  refine ⟨event.received numeral, ?_, set_fields_other numeral routing_other⟩
  simp [setFields, setField, action, channelName, requestId, payload, name, setText, Event.received]

theorem unmarshal_one (event : Event) :
    unmarshal lone numeral event.marshal =
      if event.value.depth ≤ maxNestingDepth then some (event.received numeral) else none := by
  simp only [unmarshal, Event.marshal, parse_render]
  by_cases deep : event.value.depth ≤ maxNestingDepth
  · rw [if_pos deep, if_neg (Nat.not_lt.mpr deep)]
    exact set_fields_event numeral
  · rw [if_neg deep, if_pos (Nat.lt_of_not_le deep)]

theorem unmarshal_joined (event next : Event) (others : List Event) :
    unmarshal lone numeral (Group.frame (event, next :: others)) = none := by
  have joined : Group.frame (event, next :: others) = event.value.render marshalEscape ++ '\n' ::
        (next.marshal ++ (others.map Event.marshal).flatMap fun data => '\n' :: data) := rfl
  rw [joined, unmarshal, parse_overlong]
  · decide
  · intro empty
    cases empty

def Group.received (group : Group) : List ChannelEvent :=
  if group.2 = [] ∧ group.1.value.depth ≤ maxNestingDepth then [group.1.received numeral] else []

theorem unmarshal_group : (unmarshal lone numeral group.frame).toList = group.received numeral := by
  obtain ⟨event, others⟩ := group
  cases others with
  | cons =>
    rw [unmarshal_joined, Group.received, if_neg (fun alone => nomatch alone.1)]
    rfl
  | nil =>
    have frame : Group.frame (event, []) = event.marshal := append_nil _
    rw [frame, unmarshal_one, Group.received]
    by_cases deep : event.value.depth ≤ maxNestingDepth
    · rw [if_pos deep, if_pos ⟨rfl, deep⟩]
      rfl
    · rw [if_neg deep, if_neg (fun both => deep both.2)]
      rfl

theorem read_groups :
    readMessages lone numeral (groups.map Group.frame) = groups.flatMap (Group.received numeral) := by
  induction groups with
  | nil => rfl
  | cons group _ ih =>
    rw [map_cons, flatMap_cons, ← ih, ← unmarshal_group lone numeral group, readMessages, filterMap_cons]
    cases unmarshal lone numeral group.frame with
    | none | some => rfl

theorem received_short : (group.received numeral).length ≤ group.events.length := by
  rw [Group.received]
  split
  · exact Nat.succ_le_succ (Nat.zero_le _)
  · exact Nat.zero_le _

theorem received_groups_short :
    (groups.flatMap (Group.received numeral)).length ≤ (groups.flatMap Group.events).length := by
  induction groups with
  | nil => exact Nat.le_refl 0
  | cons group _ ih =>
    rw [flatMap_cons, flatMap_cons, length_append, length_append]
    exact Nat.add_le_add (received_short numeral group) ih

theorem group_received_iff :
    group.received numeral = group.events.map (Event.received numeral) ↔
      group.2 = [] ∧ ∀ event ∈ group.events, event.value.depth ≤ maxNestingDepth := by
  rw [Group.received]
  constructor
  · intro same
    split at same
    · rename_i alone
      refine ⟨alone.1, ?_⟩
      intro event member
      rw [Group.events, alone.1] at member
      rw [mem_singleton.mp member]
      exact alone.2
    · cases same
  · intro alone
    rw [if_pos ⟨alone.1, alone.2 group.1 mem_cons_self⟩, Group.events, alone.1]
    rfl

-- No frame gives more events than were written into it, so all of them are read only
-- when those of each frame are.
theorem read_all_iff :
    groups.flatMap (Group.received numeral) = (groups.flatMap Group.events).map (Event.received numeral) ↔
      ∀ group ∈ groups, group.received numeral = group.events.map (Event.received numeral) := by
  induction groups with
  | nil => simp
  | cons group rest ih =>
    rw [flatMap_cons, flatMap_cons, map_append, forall_mem_cons, ← ih]
    constructor
    · intro same
      have lengths := congrArg List.length same
      have here := received_short numeral group
      have later := received_groups_short numeral rest
      rw [length_append, length_append, length_map, length_map] at lengths
      exact append_inj same (by rw [length_map]; omega)
    · intro same
      rw [same.1, same.2]

def ConnRun.Decoded (run : ConnRun) : Prop :=
  readMessages lone numeral run.frames = run.written.map (Event.received numeral)

theorem decoded_iff {run : ConnRun} {groups : List Group} (first queued : List Event)
    (grouped : run.Grouped groups first queued) :
    run.Decoded lone numeral ↔
      (∀ group ∈ groups, group.2 = []) ∧ ∀ event ∈ run.written, event.value.depth ≤ maxNestingDepth := by
  rw [ConnRun.Decoded, ConnRun.written_grouped first queued grouped, grouped.frames, read_groups, read_all_iff]
  simp only [group_received_iff, mem_flatMap]
  constructor
  · intro all
    refine ⟨fun group member => (all group member).1, ?_⟩
    intro event member
    obtain ⟨group, inside, found⟩ := member
    exact (all group inside).2 event found
  · intro all group member
    exact ⟨all.1 group member, fun event found => all.2 event ⟨group, member, found⟩⟩

end

def notice (name : String) : Event := ⟨"BROADCAST", "room", name, .object [], "message", "", [], "", ""⟩

end PondSocket.Go.Wire
