import PondSocket.Python.Replica
import PondSocket.Rust.Consumers

namespace PondSocket.Python

open Library
open Js (Json UserId NodeId ChannelEngine PondAssigns)
open Go (MsgType index asString asMap asSlice SameAssigns parsedMap)
open Rust (RemoteMessage Enveloped get)

-- The two updates of a user's tables. The assigns come as a snapshot, as the delta
-- of a key, as both or as neither.
inductive Update where
  | presenceUpdate (userId : UserId) (presence : Dict)
  | assignsUpdate (userId : UserId) (assigns : Option Dict) (delta : Option (String × Json))

namespace Update

def message : Update → RemoteMessage
  | .presenceUpdate userId presence => .presenceUpdate userId presence
  | .assignsUpdate userId assigns delta => .assignsUpdate userId assigns delta

-- The text of a conforming node, which has none of the fields that older nodes add.
structure Says (data : Json) (source : NodeId) (channelName : String) (update : Update) : Prop where
  enveloped : Enveloped data update.message.kind source channelName
  spelled : update.message.Spells data
  payload : get data "payload" = none
  event : get data "event" = none
  requestId : get data "requestId" = none

def Stored (channel : Channel) (engine : ChannelEngine) : Update → Prop
  | .presenceUpdate userId presence =>
    ∃ stored, channel.presence.get? userId = some stored ∧ ∀ key, stored.get? key = presence.get? key
  | .assignsUpdate userId _ _ => SameAssigns (channel.assigns.get? userId) (engine.assignsCache.get? userId)

def merged (assigns : Option Dict) (delta : Option (String × Json)) (current : Dict) : Dict :=
  match delta with
  | some (key, value) => current.set key value
  | none => assigns.getD .empty

def Agrees (assigns : Option Dict) (delta : Option (String × Json)) (current : Dict) : Prop :=
  match assigns, delta with
  | some assigns, some (key, value) => ∀ other, assigns.get? other = if other = key then some value else current.get? other
  | some _, none => True
  | none, some (key, value) => key = "" → current.get? key = some value
  | none, none => ∀ key, current.get? key = none

def Idle (assigns : Option Dict) (delta : Option (String × Json)) (current : Dict) : Prop :=
  match assigns, delta with
  | some assigns, _ => ∀ key, assigns.get? key = current.get? key
  | none, some (key, value) => key ≠ "" → current.get? key = some value
  | none, none => True

def Fits (channel : Channel) : Update → Prop
  | .presenceUpdate userId presence =>
    if userId = "" ∨ channel.name = "" then
      ∃ held, channel.presence.get? userId = some held ∧ ∀ key, held.get? key = presence.get? key
    else
      presence.has "userId" = false ∧ presence.has "id" = false ∨
        ∀ key, presence.has key = true → key = "userId" ∨ key = "id"
  | .assignsUpdate userId assigns delta =>
    ∀ current, channel.assigns.get? userId = some current →
      if userId = "" ∨ channel.name = "" then Idle assigns delta current else Agrees assigns delta current

end Update

theorem merged_presence_empty_iff (presence : Dict) :
    ((presence.delete "userId").delete "id").isEmpty = true ↔
      ∀ key, presence.has key = true → key = "userId" ∨ key = "id" := by
  rw [OrderedMap.empty_iff]
  refine forall_congr' fun key => ?_
  rw [OrderedMap.has_false_iff, OrderedMap.get_delete, OrderedMap.get_delete, OrderedMap.has]
  by_cases id : key = "id"
  · simp [id]
  by_cases user : key = "userId"
  · simp [user]
  · cases presence.get? key <;> simp [id]

theorem merged_presence_iff (presence : Dict) :
    (∀ key, (Channel.mergedPresence presence).get? key = presence.get? key) ↔
      (presence.has "userId" = false ∧ presence.has "id" = false ∨
        ∀ key, presence.has key = true → key = "userId" ∨ key = "id") := by
  have empty := merged_presence_empty_iff presence
  simp only [Channel.mergedPresence]
  by_cases alone : ((presence.delete "userId").delete "id").isEmpty = true
  · rw [if_pos alone]
    exact iff_of_true (fun _ => rfl) (.inr (empty.mp alone))
  rw [if_neg alone, ← empty, or_iff_left alone, OrderedMap.has_false_iff, OrderedMap.has_false_iff]
  simp only [OrderedMap.get_delete]
  constructor
  · intro same
    have user := same "userId"
    have id := same "id"
    exact ⟨user.symm, id.symm⟩
  · rintro ⟨user, id⟩ key
    by_cases atId : key = "id"
    · rw [if_pos atId, atId, id]
    rw [if_neg atId]
    by_cases atUser : key = "userId"
    · rw [if_pos atUser, atUser, user]
    · rw [if_neg atUser]

variable {delta : Option (String × Json)} {assigns : Option Dict}

variable {presence : Dict}

section

variable {str : Json → String}

theorem text_or_string (strings : ∀ text, str (.string text) = text) {text : String} :
    textOr str (.string text) "" = text := by
  by_cases empty : text = ""
  · rw [empty]
    rfl
  · exact text_or_text str strings "" empty

namespace Channel

variable (channel : Channel)

variable (moment : Moment) {data : Json} {source : NodeId}

theorem merge_unnamed {event : Event} :
    (channel.mergeRemotePresence str event).1.presence.get? "" = channel.presence.get? "" := by
  simp only [mergeRemotePresence]
  split
  · rfl
  rename_i changed _
  by_cases unnamed : changedUser str event changed = ""
  · rw [if_pos unnamed]
  rw [if_neg unnamed]
  split
  · exact OrderedMap.get_delete_other (Ne.symm unnamed)
  · exact OrderedMap.get_set_other (Ne.symm unnamed)

theorem dispatch_presence (event : Event) (action : event.action = "PRESENCE") :
    channel.dispatchEvent str moment event =
      (channel.mergeRemotePresence str event).1.dispatchTo moment.room (channel.mergeRemotePresence str event).2
        (channel.mergeRemotePresence str event).1.presence.keys := by
  have other : ¬ event.action = "BROADCAST" := by
    rw [action]
    decide
  simp [dispatchEvent, if_neg other, if_pos action]

theorem update_heard {update : Update}
    (said : update.Says data source channel.name) (active : channel.active = true) (foreign : source ≠ channel.nodeId)
    {event : Event} (constructed : eventOf str data channel.name moment.uuid source update.message.kind = some event)
    (named : event.channelName = channel.name) (complete : event.action ≠ "" ∧ event.requestId ≠ "" ∧ event.event ≠ "") :
    channel.handlePubsubMessage str moment data =
      if channel.name = "" then channel else channel.dispatchEvent str moment event := by
  obtain ⟨⟨protocol, version, type, _, sender, _, name, _⟩, _, _, _, requestId⟩ := said
  have request : textOr str (index data "requestId") moment.uuid = moment.uuid := by
    rw [Rust.index_get, requestId]
    rfl
  have parsed : parseEnvelope data = some data := by
    simp [parseEnvelope, Rust.index_get, protocol, version, type, sender]
  have decoded : eventFromEnvelope str moment.uuid data = event.checked := by
    simp only [eventFromEnvelope, request]
    simp only [Rust.index_get, type, name, sender, Option.getD_some, asString, Option.bind_eq_bind, Option.bind_some,
      MsgType.of_text, constructed]
  have heard : channel.handlePubsubMessage str moment data =
      channel.handleMessage str moment source data update.message.kind := by
    simp only [handlePubsubMessage, parsed, Rust.index_get, type, name, sender, Option.getD_some, asString,
      Option.bind_some, MsgType.of_text, active, foreign, ne_eq, not_true_eq_false, Bool.true_eq_false, or_self, if_false]
  rw [heard]
  by_cases unnamed : channel.name = ""
  · have lost : eventFromEnvelope str moment.uuid data = none := by
      rw [decoded, Event.checked, if_pos (.inr (.inl (named.trans unnamed)))]
    rw [if_pos unnamed]
    cases update <;> simp only [Update.message, RemoteMessage.kind, handleMessage, lost]
  have read : eventFromEnvelope str moment.uuid data = some event := by
    rw [decoded, Event.checked_complete event complete.1 (named ▸ unnamed) complete.2.1 complete.2.2]
  rw [if_neg unnamed]
  cases update <;> simp only [Update.message, RemoteMessage.kind, handleMessage, read]

variable {userId : UserId}

theorem presence_update_stored (strings : ∀ text, str (.string text) = text)
    (said : (Update.presenceUpdate userId presence).Says data source channel.name) (active : channel.active = true)
    (foreign : source ≠ channel.nodeId) :
    (channel.handlePubsubMessage str moment data).presence.get? userId =
      if userId = "" ∨ channel.name = "" then channel.presence.get? userId else some (mergedPresence presence) := by
  obtain ⟨user, given⟩ := said.spelled
  let event : Event :=
    { Event.plain "PRESENCE" channel.name moment.uuid "UPDATE"
        (.object [("presence", .array []), ("changed", dictJson presence)]) source with userId := userId }
  have constructed : eventOf str data channel.name moment.uuid source .presenceUpdate = some event := by
    have table : orElse (dictJson presence) (.object []) = dictJson presence := or_else_dict
    have shown : index data "presence" = dictJson presence := by
      rw [Rust.index_get, given]
      rfl
    simp only [eventOf, payloadOr, shown, table, Rust.index_get, user, said.payload, said.event, Option.getD_some,
      Option.getD_none, text_or_string strings]
    rfl
  rw [channel.update_heard moment said active foreign constructed rfl
    ⟨by simp [event, Event.plain], moment.drawn, by simp [event, Event.plain]⟩]
  by_cases unnamed : channel.name = ""
  · rw [if_pos unnamed, if_pos (.inr unnamed)]
  rw [if_neg unnamed, dispatch_presence channel moment _ rfl]
  by_cases nobody : userId = ""
  · rw [if_pos (.inl nobody), nobody]
    have quiet := quiet_dispatch (channel.mergeRemotePresence str event).1 moment.room
      (channel.mergeRemotePresence str event).2 (channel.mergeRemotePresence str event).1.presence.keys
    exact (congrArg Prod.snd (quiet.2 "")).trans (merge_unnamed channel)
  rw [if_neg fun either => either.elim nobody unnamed]
  have heard := channel.presence_heard str moment.room event userId presence rfl rfl (by simp [event, Event.plain]) nobody
  refine (congrArg Prod.snd (heard.2 userId)).trans ?_
  simp only [Message.effect, if_true]

def assignsPayload (userId : UserId) (assigns : Option Dict) (delta : Option (String × Json)) : Json :=
  .object ([("userId", .string userId), ("assigns", dictJson (assigns.getD .empty))] ++
    (delta.map fun changed => [("key", Json.string changed.1), ("value", changed.2)]).getD [])

theorem assigns_payload {source : NodeId} {channelName requestId : String}
    (said : (Update.assignsUpdate userId assigns delta).Says data source channelName) :
    eventOf str data channelName requestId source .assignsUpdate =
      some (Event.plain "ASSIGNS" channelName requestId "assigns:update" (assignsPayload userId assigns delta) source) := by
  obtain ⟨user, given, key, value⟩ := said.spelled
  have named : orElse (.string userId) (.string "") = .string userId := by
    by_cases empty : userId = ""
    · rw [empty]
      rfl
    · exact or_else_string empty
  have snapshot : orElse (index data "assigns") (.object []) = dictJson (assigns.getD .empty) := by
    rw [Rust.index_get, given]
    cases assigns with
    | none => rfl
    | some => exact or_else_dict
  have entries : entryOf data "key" ++ entryOf data "value" =
      (delta.map fun changed => [("key", Json.string changed.1), ("value", changed.2)]).getD [] := by
    have entry : ∀ name, entryOf data name = ((get data name).map fun found => [(name, found)]).getD [] := by
      intro name
      cases data with
      | object fields =>
        simp only [entryOf, Rust.get]
        cases OrderedMap.findEntry name fields <;> rfl
      | _ => rfl
    rw [entry, entry, key, value]
    cases delta <;> rfl
  simp only [eventOf, payloadOr, snapshot, List.append_assoc, entries]
  simp only [Rust.index_get, user, named, said.payload, Option.getD_some, Option.getD_none]
  rfl

theorem merged_payload (userId : UserId) (assigns : Option Dict) (delta : Option (String × Json)) (current : Dict) :
    mergedAssigns current (assignsPayload userId assigns delta) = Update.merged assigns delta current := by
  cases delta with
  | none | some => simp [mergedAssigns, assignsPayload, Update.merged, OrderedMap.findEntry]

theorem assigns_update_stored (strings : ∀ text, str (.string text) = text)
    (said : (Update.assignsUpdate userId assigns delta).Says data source channel.name) (active : channel.active = true)
    (foreign : source ≠ channel.nodeId) :
    (channel.handlePubsubMessage str moment data).assigns.get? userId =
      if userId = "" ∨ channel.name = "" then channel.assigns.get? userId
      else (channel.assigns.get? userId).map (Update.merged assigns delta) := by
  rw [channel.update_heard moment said active foreign (assigns_payload said) rfl
    ⟨by simp [Event.plain], moment.drawn, by simp [Event.plain]⟩]
  by_cases unnamed : channel.name = ""
  · rw [if_pos unnamed, if_pos (.inr unnamed)]
  have about : textOr str (index (assignsPayload userId assigns delta) "userId") "" = userId := text_or_string strings
  rw [if_neg unnamed]
  change (channel.handleRemoteAssigns str (Event.plain "ASSIGNS" channel.name moment.uuid "assigns:update"
    (assignsPayload userId assigns delta) source)).assigns.get? userId = _
  simp only [handleRemoteAssigns, Event.plain, about]
  by_cases nobody : userId = ""
  · rw [if_pos nobody, if_pos (.inl nobody)]
  rw [if_neg nobody, if_neg fun either => either.elim nobody unnamed]
  cases held : channel.assigns.get? userId with
  | none => exact held
  | some => rw [OrderedMap.get_set_same, merged_payload, Option.map_some]

end Channel

end

variable {there : PondAssigns}

theorem same_as_dict_iff {here : Dict} (known : Dict) (same : ∀ key, there.get? key = (known.get? key).map Json.parse) :
    SameAssigns (some here) (some there) ↔ ∀ key, known.get? key = here.get? key := by
  simp [SameAssigns, same, Go.TableMessage.map_parse_inj]

theorem agrees_iff {current : Dict} (same : ∀ key, there.get? key = (current.get? key).map Json.parse) :
    SameAssigns (some (Update.merged assigns delta current)) (some (RemoteMessage.reassigned assigns delta there)) ↔
      Update.Agrees assigns delta current := by
  cases assigns with
  | some assigns =>
    rw [RemoteMessage.reassigned, same_as_dict_iff assigns (Go.get_parsed_map assigns)]
    cases delta with
    | some => simp [Update.merged, Update.Agrees, OrderedMap.get_set]
    | none => exact iff_of_true (fun _ => rfl) trivial
  | none =>
    cases delta with
    | none =>
      rw [RemoteMessage.reassigned, same_as_dict_iff current same]
      rfl
    | some changed =>
      obtain ⟨key, _⟩ := changed
      simp only [RemoteMessage.reassigned, Update.merged, Update.Agrees]
      by_cases empty : key = ""
      · rw [if_pos empty, same_as_dict_iff current same]
        simp only [OrderedMap.get_set, empty, forall_const]
        constructor
        · intro alike
          exact alike "" |>.trans (if_pos rfl)
        · intro held other
          by_cases hit : other = ""
          · rw [if_pos hit, hit, held]
          · rw [if_neg hit]
      · rw [if_neg empty]
        refine iff_of_true ?_ fun none => absurd none empty
        intro other
        rw [OrderedMap.get_set, OrderedMap.get_set]
        by_cases hit : other = key
        · rw [if_pos hit, if_pos hit]
          rfl
        · rw [if_neg hit, if_neg hit, same]

theorem idle_iff {current : Dict}
    (same : ∀ key, there.get? key = (current.get? key).map Json.parse) :
    SameAssigns (some current) (some (RemoteMessage.reassigned assigns delta there)) ↔ Update.Idle assigns delta current := by
  cases assigns with
  | some assigns => rw [RemoteMessage.reassigned, same_as_dict_iff assigns (Go.get_parsed_map assigns), Update.Idle]
  | none =>
    cases delta with
    | none => exact iff_of_true same trivial
    | some changed =>
      obtain ⟨key, value⟩ := changed
      simp only [RemoteMessage.reassigned, Update.Idle]
      by_cases empty : key = ""
      · rw [if_pos empty]
        exact iff_of_true same fun named => absurd empty named
      rw [if_neg empty, same_as_dict_iff (current.set key value)]
      · simp only [OrderedMap.get_set, empty, not_false_eq_true, ne_eq, forall_const]
        constructor
        · intro alike
          exact (alike key).symm.trans (if_pos rfl)
        · intro held other
          by_cases hit : other = key
          · rw [if_pos hit, hit, held]
          · rw [if_neg hit]
      · intro other
        rw [OrderedMap.get_set, OrderedMap.get_set]
        by_cases hit : other = key
        · rw [if_pos hit, if_pos hit]
          rfl
        · rw [if_neg hit, if_neg hit, same]

def plainText : Json → String
  | .string text => text
  | _ => "value"

def aliceRoom (assigns : Dict) : Channel :=
  { Channel.new "room" "/api" "node-1" true with
    active := true
    assigns := OrderedMap.empty.set "a" assigns }

def aliceEngine (assigns : Dict) : ChannelEngine :=
  { ChannelEngine.new "api" "room" "node-2" (some ⟨"node-2", 90000⟩) with
    assignsCache := OrderedMap.empty.set "a" (parsedMap assigns) }

def presenceText (presence : Dict) : Json :=
  distributedBytes ⟨"m", 0⟩ .presenceUpdate "node-3" "api" "room" [("userId", .string "a"), ("presence", dictJson presence)]

def bothText (assigns : Dict) (key : String) (value : Json) : Json :=
  distributedBytes ⟨"m", 0⟩ .assignsUpdate "node-3" "api" "room"
    [("userId", .string "a"), ("assigns", dictJson assigns), ("key", .string key), ("value", value)]

theorem presence_text_reads : (Update.presenceUpdate "a" presence).Says (presenceText presence) "node-3" "room" :=
  ⟨⟨rfl, rfl, rfl, ⟨_, rfl⟩, rfl, ⟨_, rfl⟩, rfl, ⟨_, rfl⟩⟩, ⟨rfl, rfl⟩, rfl, rfl, rfl⟩

theorem alice_aligned {assigns : Dict} (userId : UserId) :
    SameAssigns ((aliceRoom assigns).assigns.get? userId) ((aliceEngine assigns).assignsCache.get? userId) := by
  simp only [aliceRoom, aliceEngine, OrderedMap.get_set]
  by_cases alice : userId = "a"
  · rw [if_pos alice, if_pos alice]
    exact Go.get_parsed_map assigns
  · rw [if_neg alice, if_neg alice]
    trivial

def online : Dict := OrderedMap.empty.set "status" (.string "online")

end PondSocket.Python
