import PondSocket.Python.Remote

namespace PondSocket.Python

open Library OrderedMap Option
open Js (Json UserId NodeId)
open Go (MsgType index asString asMap asSlice)

@[simp] theorem index_object (fields : List (String × Json)) (key : String) :
    index (.object fields) key = (OrderedMap.findEntry key fields).getD .null := rfl

@[simp] theorem as_map_dict (dict : Dict) : asMap (dictJson dict) = some dict := congrArg some dict.of_list_entries

@[simp] theorem as_dict_dict (dict : Dict) : asDict (dictJson dict) = dict := by
  rw [asDict, as_map_dict, getD_some]

theorem or_else_string {text : String} {other : Json} (present : text ≠ "") :
    orElse (.string text) other = .string text := by
  simp [orElse, truthy, decide_eq_true present]

theorem or_else_dict {dict : Dict} : orElse (dictJson dict) (.object []) = dictJson dict := by
  have plain : ∀ fields : List (String × Json), orElse (.object fields) (.object []) = .object fields := by
    intro fields
    cases fields <;> rfl
  exact plain dict.entries

theorem index_body (stamp : Stamp) (kind : MsgType) (nodeId : NodeId) (endpoint channel key : String)
    (extra : List (String × Json))
    (body : key ∉ ["protocol", "version", "type", "messageId", "sourceNodeId", "endpointName", "channelName",
      "timestamp"]) :
    index (distributedBytes stamp kind nodeId endpoint channel extra) key = index (.object extra) key := by
  simp only [List.mem_cons, List.not_mem_nil, or_false, not_or] at body
  simp [distributedBytes, headEntries, findEntry, body]

theorem parsed_bytes (stamp : Stamp) (kind : MsgType) (nodeId : NodeId) (endpoint channel : String)
    (extra : List (String × Json)) :
    parseEnvelope (distributedBytes stamp kind nodeId endpoint channel extra) =
      some (distributedBytes stamp kind nodeId endpoint channel extra) := by
  simp [parseEnvelope, distributedBytes, headEntries, findEntry]

theorem head_read (stamp : Stamp) (kind : MsgType) (nodeId : NodeId) (endpoint channel : String)
    (extra : List (String × Json)) :
    asString (index (distributedBytes stamp kind nodeId endpoint channel extra) "sourceNodeId") = some nodeId ∧
      asString (index (distributedBytes stamp kind nodeId endpoint channel extra) "channelName") = some channel ∧
        asString (index (distributedBytes stamp kind nodeId endpoint channel extra) "type") = some kind.text := by
  simp [distributedBytes, headEntries, findEntry, asString]

section

variable (str : Json → String)

theorem text_or_text (strings : ∀ text, str (.string text) = text) {text : String} (default : String) (present : text ≠ "") :
    textOr str (.string text) default = text := by
  simp only [textOr, truthy, decide_eq_true present, if_true, strings]

namespace Channel

theorem handle_bytes (receiver : Channel) {moment : Moment} {stamp : Stamp} {kind : MsgType} {nodeId : NodeId}
    {endpoint : String} {extra : List (String × Json)} (foreign : nodeId ≠ receiver.nodeId) :
    receiver.handlePubsubMessage str moment (distributedBytes stamp kind nodeId endpoint receiver.name extra) =
      if receiver.active then
        receiver.handleMessage str moment nodeId (distributedBytes stamp kind nodeId endpoint receiver.name extra) kind
      else receiver := by
  obtain ⟨source, name, type⟩ := head_read stamp kind nodeId endpoint receiver.name extra
  simp only [handlePubsubMessage, parsed_bytes, source, name, type, bind_some, MsgType.of_text]
  cases active : receiver.active with
  | false => simp
  | true => simp [foreign]

theorem handle_own (receiver : Channel) (moment : Moment) (stamp : Stamp) (kind : MsgType) (endpoint channel : String)
    (extra : List (String × Json)) :
    receiver.handlePubsubMessage str moment (distributedBytes stamp kind receiver.nodeId endpoint channel extra) = receiver := by
  obtain ⟨source, name, type⟩ := head_read stamp kind receiver.nodeId endpoint channel extra
  simp only [handlePubsubMessage, parsed_bytes, source, name, type, bind_some, MsgType.of_text, true_or, if_true]

end Channel

theorem event_from_bytes (uuid : String) (stamp : Stamp) (kind : MsgType) (nodeId : NodeId) (endpoint channel : String)
    (extra : List (String × Json)) :
    eventFromEnvelope str uuid (distributedBytes stamp kind nodeId endpoint channel extra) =
      (eventOf str (distributedBytes stamp kind nodeId endpoint channel extra) channel
        (textOr str (index (.object extra) "requestId") uuid) nodeId kind).bind Event.checked := by
  obtain ⟨source, name, type⟩ := head_read stamp kind nodeId endpoint channel extra
  have request := index_body stamp kind nodeId endpoint channel "requestId" extra (by decide)
  simp [eventFromEnvelope, source, name, type, request, MsgType.of_text]

end

end PondSocket.Python
