import PondSocket.Js.SseClient

namespace PondSocket.Go.Wire

open Library List
open Library.JsonText (Number)
open Library.EventStream (Message typeOf OneLine Yields)
open Js (ServerEvent ClientEvent clientEvent)

inductive SseWrite where
  | sendJSON (event : Event) (byValue : Bool)
  | keepAlive

def eventField : List Char := ['e', 'v', 'e', 'n', 't', ':', ' ']

def dataField : List Char := ['d', 'a', 't', 'a', ':', ' ']

def SseWrite.text : SseWrite → List Char
  | .sendJSON event byValue =>
    (if byValue = true ∧ event.event ≠ "" then eventField ++ (event.event.toList ++ ['\n']) else []) ++
      (dataField ++ (event.marshal ++ ['\n', '\n']))
  | .keepAlive => ':' :: ([' ', 'k', 'e', 'e', 'p', 'a', 'l', 'i', 'v', 'e'] ++ ['\n', '\n'])

def SseWrite.sent : SseWrite → Option (Event × Bool)
  | .sendJSON event byValue => some (event, byValue)
  | .keepAlive => none

def fieldName (sent : Event × Bool) : List Char := if sent.2 then sent.1.event.toList else []

def Unnamed (sent : Event × Bool) : Prop := sent.2 = true → sent.1.event = "" ∨ sent.1.event = "message"

theorem marshal_one_line {event : Event} : OneLine event.marshal := by
  have printable := JsonText.render_printable marshalEscape event.value
  constructor
  · intro member
    exact absurd (printable '\n' member) (by decide)
  · intro member
    exact absurd (printable '\r' member) (by decide)

theorem yields_send {event : Event} {byValue : Bool} (named : OneLine (fieldName (event, byValue))) :
    Yields (SseWrite.sendJSON event byValue).text [⟨typeOf (fieldName (event, byValue)), event.marshal⟩] := by
  by_cases field : byValue = true ∧ event.event ≠ ""
  · have name : fieldName (event, byValue) = event.event.toList := if_pos field.1
    rw [name] at named ⊢
    have text : (SseWrite.sendJSON event byValue).text =
        eventField ++ (event.event.toList ++ '\n' :: (dataField ++ (event.marshal ++ ['\n', '\n']))) := by
      rw [SseWrite.text, if_pos field]
      simp
    rw [text]
    exact EventStream.yields_named named marshal_one_line
  · have name : fieldName (event, byValue) = [] := by
      rw [fieldName]
      cases byValue with
      | false => rfl
      | true =>
        have empty : event.event = "" := by simpa using field
        rw [if_pos rfl, empty]
        rfl
    rw [name, SseWrite.text, if_neg field, nil_append]
    exact EventStream.yields_data marshal_one_line

theorem yields_write (write : SseWrite) (named : ∀ sent, write.sent = some sent → OneLine (fieldName sent)) :
    Yields write.text (write.sent.toList.map fun sent => ⟨typeOf (fieldName sent), sent.1.marshal⟩) := by
  cases write with
  | sendJSON event byValue => exact yields_send (named (event, byValue) rfl)
  | keepAlive => exact EventStream.yields_comment (by decide)

variable {writes : List SseWrite}

theorem text_unmarked : (writes.flatMap SseWrite.text).head? ≠ some '\uFEFF' := by
  cases writes with
  | nil =>
    intro same
    cases same
  | cons write =>
    rw [flatMap_cons]
    cases write with
    | sendJSON =>
      rw [SseWrite.text]
      split
      · exact (by decide : some 'e' ≠ some '\uFEFF')
      · exact (by decide : some 'd' ≠ some '\uFEFF')
    | keepAlive => exact (by decide : some ':' ≠ some '\uFEFF')

section

variable (lone : Nat → Char) (numeral : Number → Rat)

def sentEvents (writes : List SseWrite) : List (Event × Bool) := writes.filterMap SseWrite.sent

def Published (writes : List SseWrite) : Prop :=
  Js.readStream lone numeral (writes.flatMap SseWrite.text) =
    (sentEvents writes).map fun sent => clientEvent numeral sent.1

theorem type_message_iff (sent : Event × Bool) : typeOf (fieldName sent) = typeOf [] ↔ Unnamed sent := by
  obtain ⟨event, byValue⟩ := sent
  cases byValue with
  | false => exact iff_of_true rfl fun value => Bool.noConfusion value
  | true =>
    have name : fieldName (event, true) = event.event.toList := if_pos rfl
    have unnamed : Unnamed (event, true) ↔ event.event = "" ∨ event.event = "message" := forall_prop_of_true rfl
    rw [name, unnamed]
    by_cases empty : event.event = ""
    · rw [empty]
      exact iff_of_true rfl (.inl rfl)
    have solid : event.event.toList ≠ [] := fun none => empty (String.toList_eq_nil_iff.mp none)
    rw [typeOf, if_neg solid]
    constructor
    · intro same
      exact .inr (String.ext same)
    · intro either
      rcases either with none | same
      · exact absurd none empty
      · rw [same]
        rfl

theorem unnamed_one_line {sent : Event × Bool} (unnamed : Unnamed sent) : OneLine (fieldName sent) := by
  obtain ⟨event, byValue⟩ := sent
  cases byValue with
  | false => exact ⟨not_mem_nil, not_mem_nil⟩
  | true =>
    have name : fieldName (event, true) = event.event.toList := if_pos rfl
    rw [name]
    rcases unnamed rfl with empty | same
    · rw [empty]
      decide
    · rw [same]
      decide

theorem published_iff (server : ∀ sent ∈ sentEvents writes, ServerEvent sent.1)
    (named : ∀ sent ∈ sentEvents writes, OneLine (fieldName sent)) :
    Published lone numeral writes ↔ ∀ sent ∈ sentEvents writes, Unnamed sent := by
  have each : ∀ write ∈ writes, Yields write.text
      (write.sent.toList.map fun sent => ⟨typeOf (fieldName sent), sent.1.marshal⟩) := by
    intro write member
    apply yields_write
    intro sent here
    exact named sent (mem_filterMap.mpr ⟨write, member, here⟩)
  have messages := EventStream.yields_messages (EventStream.yields_all SseWrite.text writes each)
    text_unmarked
  have items : (writes.flatMap fun write =>
      write.sent.toList.map fun sent => (⟨typeOf (fieldName sent), sent.1.marshal⟩ : Message)) =
        (sentEvents writes).map fun sent => ⟨typeOf (fieldName sent), sent.1.marshal⟩ := by
    rw [sentEvents]
    clear server named each messages
    induction writes with
    | nil => rfl
    | cons write _ ih =>
      rw [flatMap_cons, ih, filterMap_cons]
      cases write.sent with
      | none | some => rfl
  rw [Published, Js.readStream, messages, items, Js.broadcast_iff
      fun sent member => Js.message_handled (server sent member)]
  simp [type_message_iff]

end

end PondSocket.Go.Wire
