import PondSocket.Js.Frames
import PondSocket.Library.EventStream

namespace PondSocket.Js

open Library List
open Library.JsonText (Number)
open Library.EventStream (Message typeOf OneLine Yields)

section

variable (lone : Nat → Char) (numeral : Number → Rat)

-- What #handleMessage publishes: nothing once a line of the data is refused.
def handleMessage (data : List Char) : List ClientEvent :=
  match parseMessages lone numeral data with
  | .error _ => []
  | .ok events => events

-- onmessage is the only listener for messages, and onerror is called for those of type
-- error too: it closes the event source.
def broadcast : List Message → List ClientEvent
  | [] => []
  | message :: rest =>
    if message.type = typeOf [] then handleMessage lone numeral message.data ++ broadcast rest
    else if message.type = ['e', 'r', 'r', 'o', 'r'] then []
    else broadcast rest

-- What the SSE client publishes to its broadcaster of a stream.
def readStream (text : List Char) : List ClientEvent := broadcast lone numeral (EventStream.messages text)

variable {lone numeral} {Item : Type} (type : Item → List Char) {data : Item → List Char} {event : Item → ClientEvent}

variable {items : List Item}

theorem broadcast_short (handled : ∀ item ∈ items, handleMessage lone numeral (data item) = [event item]) :
    (broadcast lone numeral (items.map fun item => ⟨type item, data item⟩)).length ≤ items.length := by
  induction items with
  | nil => exact Nat.le_refl 0
  | cons item _ ih =>
    have later := ih fun other member => handled other (mem_cons_of_mem item member)
    rw [map_cons, broadcast, handled item mem_cons_self]
    split
    · exact Nat.succ_le_succ later
    split
    · exact Nat.zero_le _
    · exact Nat.le_succ_of_le later

variable {type}

theorem broadcast_iff (handled : ∀ item ∈ items, handleMessage lone numeral (data item) = [event item]) :
    broadcast lone numeral (items.map fun item => ⟨type item, data item⟩) = items.map event ↔
      ∀ item ∈ items, type item = typeOf [] := by
  induction items with
  | nil => simp [broadcast]
  | cons item _ ih =>
    have later := fun other member => handled other (mem_cons_of_mem item member)
    have short := broadcast_short type later
    rw [map_cons, broadcast, handled item mem_cons_self, map_cons, forall_mem_cons]
    by_cases plain : type item = typeOf []
    · rw [if_pos plain, singleton_append, cons_inj_right, ih later]
      exact (and_iff_right plain).symm
    rw [if_neg plain]
    refine iff_of_false ?_ (fun all => plain all.1)
    intro same
    have lengths := congrArg List.length same
    rw [length_cons, length_map] at lengths
    split at lengths
    · cases lengths
    · omega

end

theorem line_handled {lone : Nat → Char} {numeral : Number → Rat} {line inner : List Char} {said : ClientEvent}
    (shape : line = '{' :: (inner ++ ['}'])) (whole : '\n' ∉ line) (parsed : parseLine lone numeral line = .ok said) :
    handleMessage lone numeral line = [said] := by
  have trimmed : trim line = line := by
    rw [shape]
    exact trim_solid (by decide) (by decide)
  have solid : (trim line).isEmpty = false := by
    rw [trimmed, shape]
    rfl
  have one : line.splitOn '\n' = [line] := by
    apply splitOnP_eq_singleton
    intro char member
    exact beq_false_of_ne fun same => whole (same ▸ member)
  rw [handleMessage, parseMessages, trimmed, one, parseLines, solid, if_neg Bool.false_ne_true, parsed]
  rfl

theorem message_handled {lone : Nat → Char} {numeral : Number → Rat} {event : Go.Wire.Event} (server : ServerEvent event) :
    handleMessage lone numeral event.marshal = [clientEvent numeral event] := by
  obtain ⟨inner, shape⟩ := marshal_braced
  exact line_handled shape marshal_line (parse_line_event lone numeral server)

end PondSocket.Js
