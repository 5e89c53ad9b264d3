import PondSocket.Rust.Consumers

namespace PondSocket.Rust

open Library List OrderedMap Option Channel
open Js (Json JsValue UserId NodeId ChannelEngine PondAssigns PondPresence)
open Go (parsedMap SameAssigns Addresses Reaches Resolved)

def SameRow (here : Row) (there : Option PondAssigns × Option PondPresence) : Prop :=
  SameAssigns here.1 there.1 ∧ SameAssigns here.2 there.2

variable {here : Option Table}

theorem same_parsed_iff {table : Table} :
    SameAssigns here (some (parsedMap table)) ↔ AlikeTables here (some table) := by
  cases here with
  | none => simp [SameAssigns, AlikeTables]
  | some =>
    simp only [SameAssigns, AlikeTables, Go.get_parsed_map, Go.TableMessage.map_parse_inj, Option.isSome_some,
      Option.bind_some, true_and]
    exact forall_congr' fun key => eq_comm

theorem same_known_iff {known : Option Table} {there : Option PondAssigns} (same : SameAssigns known there) :
    SameAssigns here there ↔ AlikeTables here known := by
  cases known with
  | none =>
    cases there with
    | some => exact same.elim
    | none => cases here <;> simp [SameAssigns, AlikeTables]
  | some held =>
    cases there with
    | none => exact same.elim
    | some table =>
      have equal : ∀ key, table.get? key = (held.get? key).map Json.parse := same
      cases here with
      | none => simp [SameAssigns, AlikeTables]
      | some =>
        simp only [SameAssigns, AlikeTables, equal, Go.TableMessage.map_parse_inj, Option.isSome_some, Option.bind_some,
          true_and]
        exact forall_congr' fun key => eq_comm

variable {userId : UserId} {presence : Table}

namespace RemoteMessage

variable (message : RemoteMessage)

-- What a state response says last of a user, and with what presence it does.
def lastAssigns (userId : UserId) : List (UserId × Table × Table) → Option Table
  | [] => none
  | user :: rest => (lastAssigns userId rest).or (if user.1 = userId then some user.2.2 else none)

def lastPresence (userId : UserId) : List (UserId × Table × Table) → Option Table
  | [] => none
  | user :: rest =>
    (lastPresence userId rest).or (if user.1 = userId ∧ user.2.1.isEmpty = false then some user.2.1 else none)

-- What is said last of a user is what is held of it, or else what is said first.
def ListedFits (users : List (UserId × Table × Table)) (userId : UserId) (row : Row) : Prop :=
  ∀ first, OrderedMap.findEntry userId users = some first →
    AlikeTables (lastAssigns userId users) (some (row.1.getD first.2)) ∧
      ∀ presence, lastPresence userId users = some presence →
        AlikeTables (some presence) (if row.1.isSome || first.1.isEmpty then row.2 else some first.1)

-- A snapshot has the keys that are held, a delta beside it is what it has changed,
-- and a delta alone has a key.
def UpdateFits (assigns : Option Table) (delta : Option (String × Json)) (current : Table) : Prop :=
  match assigns, delta with
  | some assigns, some (key, value) => ∀ other, assigns.get? other = if other = key then some value else current.get? other
  | some assigns, none => ∀ key, current.has key = true → assigns.has key = true
  | none, some (key, value) => key = "" → current.get? key = some value
  | none, none => True

-- When a running channel makes of a message what the engine does.
def Fits (channel : Channel) : RemoteMessage → Prop
  | .userJoined userId presence assigns =>
    (∀ current, channel.assigns.get? userId = some current → AlikeTables (some assigns) (some current)) ∧
      (presence.isEmpty = false → match channel.presence.get? userId with
        | some held => AlikeTables (some presence) (some held)
        | none => channel.assigns.get? userId = none)
  | .stateResponse users => ∀ userId, ListedFits users userId (channel.row userId)
  | .assignsUpdate userId assigns delta =>
    ∀ current, channel.assigns.get? userId = some current → UpdateFits assigns delta current
  | .presenceUpdate userId presence => NamesItself userId presence channel.presence
  | .userLeft _ | .presenceRemoved _ | .userMessage _ _ _ => True

-- When the engine makes nothing of a message, if it holds nothing.
def Unheard : RemoteMessage → Prop
  | .userJoined _ _ _ | .presenceUpdate _ _ => False
  | .stateResponse users => users = []
  | .userLeft _ | .assignsUpdate _ _ _ | .presenceRemoved _ | .userMessage _ _ _ => True

theorem adopted_rows (users : List (UserId × Table × Table)) (userId : UserId) (row : Row) :
    users.foldl (adoptRow userId) row = ((lastAssigns userId users).or row.1, (lastPresence userId users).or row.2) := by
  induction users generalizing row with
  | nil => rfl
  | cons user _ ih =>
    rw [foldl_cons, ih]
    simp only [adoptRow, lastAssigns, lastPresence, Option.or_assoc]
    by_cases same : user.1 = userId
    · cases empty : user.2.1.isEmpty <;> simp [same]
    · simp [same]

theorem listed_rows (users : List (UserId × Table × Table)) (userId : UserId) (row : Option PondAssigns × Option PondPresence) :
    users.foldl (listRow userId) row =
      if row.1.isSome = true then row
      else match OrderedMap.findEntry userId users with
        | none => row
        | some first => (some (parsedMap first.2), if first.1.isEmpty then row.2 else some (parsedMap first.1)) := by
  induction users generalizing row with
  | nil => simp [findEntry]
  | cons user _ ih =>
    rw [foldl_cons, ih]
    obtain ⟨id, _, _⟩ := user
    by_cases same : id = userId
    · cases known : row.1 with
      | some => simp [listRow, known]
      | none => simp [listRow, known, same, findEntry]
    · simp [listRow, same, findEntry, Ne.symm same]

variable {users : List (UserId × Table × Table)}

theorem last_of_first :
    (OrderedMap.findEntry userId users = none → lastAssigns userId users = none ∧ lastPresence userId users = none) ∧
      ∀ first, OrderedMap.findEntry userId users = some first → (lastAssigns userId users).isSome = true ∧
        (first.1.isEmpty = false → (lastPresence userId users).isSome = true) := by
  induction users with
  | nil =>
    refine ⟨fun _ => ⟨rfl, rfl⟩, fun first found => ?_⟩
    cases found
  | cons user rest ih =>
    obtain ⟨id, presence, assigns⟩ := user
    by_cases same : id = userId
    · subst same
      constructor
      · intro missing
        simp [findEntry] at missing
      · intro first found
        simp only [findEntry, if_true, some.injEq] at found
        subst found
        simp only [lastAssigns, lastPresence, if_true, true_and, isSome_or, Option.isSome_some, Bool.or_true]
        intro given
        rw [if_pos given, Option.isSome_some, Bool.or_true]
    · have later : findEntry userId ((id, presence, assigns) :: rest) = findEntry userId rest := by
        simp [findEntry, Ne.symm same]
      have skipped : lastAssigns userId ((id, presence, assigns) :: rest) = lastAssigns userId rest ∧
          lastPresence userId ((id, presence, assigns) :: rest) = lastPresence userId rest := by
        simp [lastAssigns, lastPresence, same]
      rw [later, skipped.1, skipped.2]
      exact ih

theorem listed_fits_iff {row : Row} {there : Option PondAssigns × Option PondPresence} (same : SameRow row there) :
    SameRow (users.foldl (adoptRow userId) row) (users.foldl (listRow userId) there) ↔ ListedFits users userId row := by
  obtain ⟨assigns, presence⟩ := row
  obtain ⟨thereAssigns, therePresence⟩ := there
  obtain ⟨sameAssigns, samePresence⟩ := same
  rw [adopted_rows, listed_rows, ListedFits]
  obtain ⟨missing, present⟩ := last_of_first
  -- The presence that is said last, beside what the engine has.
  have said : ∀ kept : Option PondPresence, ∀ held : Option Table, SameAssigns held kept →
      (lastPresence userId users = none → SameAssigns presence kept) →
      (SameAssigns ((lastPresence userId users).or presence) kept ↔
        ∀ given, lastPresence userId users = some given → AlikeTables (some given) held) := by
    intro kept held alike silent
    cases last : lastPresence userId users with
    | none =>
      refine iff_of_true (silent last) ?_
      intro given none
      cases none
    | some =>
      rw [some_or, same_known_iff alike]
      simp
  cases found : findEntry userId users with
  | none =>
    obtain ⟨noAssigns, noPresence⟩ := missing found
    rw [noAssigns, noPresence, none_or, none_or, ite_self]
    simp only [reduceCtorEq, false_implies, implies_true, iff_true]
    exact ⟨sameAssigns, samePresence⟩
  | some first =>
    obtain ⟨listed, shown⟩ := present first found
    obtain ⟨_, lastFound⟩ := isSome_iff_exists.mp listed
    simp only [some.injEq, forall_eq', lastFound, some_or]
    cases assigns with
    | some =>
      cases thereAssigns with
      | none => exact sameAssigns.elim
      | some =>
        have kept := said therePresence presence samePresence fun _ => samePresence
        simp only [SameRow, Option.isSome_some, if_true, getD_some, Bool.true_or]
        rw [same_known_iff sameAssigns, kept]
    | none =>
      cases thereAssigns with
      | some => exact sameAssigns.elim
      | none =>
        simp only [SameRow, isSome_none, Bool.false_eq_true, if_false, getD_none, Bool.false_or]
        rw [same_parsed_iff]
        refine and_congr_right fun _ => ?_
        cases empty : first.1.isEmpty with
        | true => exact said therePresence presence samePresence fun _ => samePresence
        | false =>
          apply said (some (parsedMap first.1)) (some first.1) (same_parsed_iff.mpr (alike_refl _))
          intro silent
          have given := shown empty
          rw [silent] at given
          cases given

theorem update_fits_iff {assigns : Option Table} {delta : Option (String × Json)} {current : Table} {there : PondAssigns}
    (same : SameAssigns (some current) (some there)) :
    SameAssigns (some (updated assigns delta current)) (some (reassigned assigns delta there)) ↔
      UpdateFits assigns delta current := by
  have equal : ∀ key, there.get? key = (current.get? key).map Json.parse := same
  cases assigns with
  | some assigns =>
    rw [reassigned, same_parsed_iff]
    cases delta with
    | some =>
      simp only [AlikeTables, updated, UpdateFits, Option.isSome_some, Option.bind_some, true_and, OrderedMap.get_set]
      exact forall_congr' fun other => eq_comm
    | none =>
      simp only [AlikeTables, updated, UpdateFits, Option.isSome_some, Option.bind_some, true_and, getD_some,
        OrderedMap.get_merge]
      refine forall_congr' fun key => ?_
      simp only [has]
      cases assigns.get? key <;> cases current.get? key <;> simp
  | none =>
    cases delta with
    | none =>
      refine iff_of_true ?_ trivial
      intro key
      rw [reassigned, equal]
      rfl
    | some changed =>
      obtain ⟨key, _⟩ := changed
      simp only [updated, reassigned, UpdateFits]
      by_cases empty : key = ""
      · rw [if_pos empty, same_known_iff same]
        simp only [AlikeTables, Option.isSome_some, Option.bind_some, true_and, OrderedMap.get_set]
        constructor
        · intro alike _
          have mine := alike key
          rw [if_pos rfl] at mine
          exact mine.symm
        · intro held other
          by_cases hit : other = key
          · rw [if_pos hit, hit, held empty]
          · rw [if_neg hit]
      · rw [if_neg empty]
        refine iff_of_true ?_ fun none => absurd none empty
        intro other
        rw [OrderedMap.get_set, OrderedMap.get_set]
        by_cases hit : other = key
        · rw [if_pos hit, if_pos hit]
          rfl
        · rw [if_neg hit, if_neg hit, equal]

theorem joined_fits_iff {assigns : Table} {row : Row} {there : Option PondAssigns × Option PondPresence}
    (same : SameRow row there) :
    SameRow (effect userId row (.userJoined userId presence assigns))
        (engineEffect userId there (.userJoined userId presence assigns)) ↔
      (∀ current, row.1 = some current → AlikeTables (some assigns) (some current)) ∧
        (presence.isEmpty = false → match row.2 with
          | some held => AlikeTables (some presence) (some held)
          | none => row.1 = none) := by
  obtain ⟨mine, held⟩ := row
  obtain ⟨thereAssigns, therePresence⟩ := there
  obtain ⟨sameAssigns, samePresence⟩ := same
  simp only [effect, adoptRow, engineEffect, if_true, true_and]
  cases mine with
  | some =>
    cases thereAssigns with
    | none => exact sameAssigns.elim
    | some =>
      simp only [isNone_some, Bool.false_eq_true, if_false, SameRow, some.injEq, forall_eq', reduceCtorEq]
      rw [same_known_iff sameAssigns]
      refine and_congr_right fun _ => ?_
      cases empty : presence.isEmpty with
      | true => simp [samePresence]
      | false =>
        simp only [Bool.false_eq_true, if_false, forall_const]
        rw [same_known_iff samePresence]
        cases held with
        | none => simp [AlikeTables]
        | some => rfl
  | none =>
    cases thereAssigns with
    | some => exact sameAssigns.elim
    | none =>
      simp only [isNone_none, if_true, SameRow, reduceCtorEq, false_implies, implies_true, true_and]
      have stored : SameAssigns (some assigns) (some (parsedMap assigns)) := same_parsed_iff.mpr (alike_refl _)
      rw [and_iff_right stored]
      cases empty : presence.isEmpty with
      | true => simp [samePresence]
      | false =>
        simp only [Bool.false_eq_true, if_false, forall_const, Bool.false_or]
        cases held with
        | none =>
          cases therePresence with
          | some => exact samePresence.elim
          | none =>
            simp only [isSome_none, Bool.false_eq_true, if_false, iff_true]
            exact same_parsed_iff.mpr (alike_refl _)
        | some =>
          cases therePresence with
          | none => exact samePresence.elim
          | some => exact same_known_iff samePresence

variable {there : UserId → Option PondAssigns × Option PondPresence} {channel : Channel}

theorem presence_fits_iff (same : ∀ other, SameRow (channel.row other) (there other)) :
    (∀ other, SameRow (effect other (channel.row other) (.presenceUpdate userId presence))
        (engineEffect other (there other) (.presenceUpdate userId presence))) ↔
      NamesItself userId presence channel.presence := by
  rw [← stored_iff]
  -- The table of presence as the two notions put it.
  have stored : ∀ other, (effect other (channel.row other) (.presenceUpdate userId presence)).2 =
      (channel.storedPresence userId presence).get? other := by
    intro other
    simp only [effect, storedPresence]
    cases named : presenceUser (orInsertUserId presence userId) with
    | none => rfl
    | some target =>
      simp only [some.injEq, OrderedMap.get_set]
      by_cases hit : target = other
      · rw [if_pos hit, if_pos hit.symm]
      · rw [if_neg hit, if_neg (Ne.symm hit)]
        rfl
  have assigns : ∀ other, (effect other (channel.row other) (.presenceUpdate userId presence)).1 = (channel.row other).1 := by
    intro other
    simp only [effect]
    split <;> rfl
  have each : ∀ other, SameRow (effect other (channel.row other) (.presenceUpdate userId presence))
      (engineEffect other (there other) (.presenceUpdate userId presence)) ↔
      if userId = other then AlikeTables (effect other (channel.row other) (.presenceUpdate userId presence)).2 (some presence)
      else AlikeTables (effect other (channel.row other) (.presenceUpdate userId presence)).2 (channel.row other).2 := by
    intro other
    rw [SameRow, assigns]
    simp only [engineEffect]
    by_cases mine : userId = other
    · rw [if_pos mine, if_pos mine, and_iff_right (same other).1, same_parsed_iff]
    · rw [if_neg mine, if_neg mine, and_iff_right (same other).1]
      exact same_known_iff (same other).2
  simp only [each, stored]
  constructor
  · intro all
    have mine := all userId
    rw [if_pos rfl] at mine
    refine ⟨mine, fun other different => ?_⟩
    have kept := all other
    rw [if_neg (Ne.symm different)] at kept
    exact kept
  · rintro ⟨mine, others⟩ other
    by_cases same : userId = other
    · rw [if_pos same, ← same]
      exact mine
    · rw [if_neg same]
      exact others other (Ne.symm same)

theorem effect_apart {row : Option PondAssigns × Option PondPresence} (apart : userId ∉ message.users) :
    message.engineEffect userId row = row := by
  cases message with
  | userMessage => rfl
  | stateResponse users =>
    have absent := find_entry_absent users apart
    simp [engineEffect, listed_rows, absent]
  | userJoined other =>
    have different : ¬ other = userId := fun same => apart (mem_singleton.mpr same.symm)
    exact if_neg fun both => different both.1
  | userLeft other | assignsUpdate other | presenceUpdate other | presenceRemoved other =>
    have different : ¬ other = userId := fun same => apart (mem_singleton.mpr same.symm)
    exact if_neg different

theorem single_iff (same : ∀ other, SameRow (channel.row other) (there other)) (users : message.users = [userId])
    (others : ∀ other row, userId ≠ other → effect other row message = row) :
    (∀ other, SameRow (effect other (channel.row other) message) (engineEffect other (there other) message)) ↔
      SameRow (effect userId (channel.row userId) message) (engineEffect userId (there userId) message) := by
  constructor
  · intro all
    exact all userId
  · intro mine other
    by_cases here : userId = other
    · rw [← here]
      exact mine
    have apart : other ∉ message.users := by
      rw [users, mem_singleton]
      exact Ne.symm here
    rw [others other _ here, effect_apart message apart]
    exact same other

theorem fits_iff (same : ∀ other, SameRow (channel.row other) (there other)) :
    (∀ other, SameRow (effect other (channel.row other) message) (engineEffect other (there other) message)) ↔
      message.Fits channel := by
  cases message with
  | userMessage => exact iff_of_true same trivial
  | stateResponse => exact forall_congr' fun userId => listed_fits_iff (same userId)
  | presenceUpdate => exact presence_fits_iff same
  | userJoined userId presence assigns =>
    rw [single_iff (.userJoined userId presence assigns) same rfl (fun other row different => if_neg different)]
    exact joined_fits_iff (same userId)
  | userLeft userId =>
    rw [single_iff (.userLeft userId) same rfl (fun other row different => if_neg different)]
    refine iff_of_true ?_ trivial
    simp only [effect, engineEffect, if_true]
    exact ⟨trivial, trivial⟩
  | presenceRemoved userId =>
    rw [single_iff (.presenceRemoved userId) same rfl (fun other row different => if_neg different)]
    refine iff_of_true ?_ trivial
    simp only [effect, engineEffect, if_true]
    exact ⟨(same userId).1, trivial⟩
  | assignsUpdate userId assigns delta =>
    rw [single_iff (.assignsUpdate userId assigns delta) same rfl (fun other row different => if_neg different)]
    obtain ⟨sameAssigns, samePresence⟩ := same userId
    simp only [effect, engineEffect, if_true, SameRow, Fits]
    rw [and_iff_left samePresence]
    simp only [Channel.row] at sameAssigns ⊢
    cases held : channel.assigns.get? userId with
    | none =>
      rw [held] at sameAssigns
      cases known : (there userId).1 with
      | some =>
        rw [known] at sameAssigns
        exact sameAssigns.elim
      | none =>
        refine iff_of_true trivial ?_
        intro current found
        cases found
    | some =>
      rw [held] at sameAssigns
      cases known : (there userId).1 with
      | none =>
        rw [known] at sameAssigns
        exact sameAssigns.elim
      | some =>
        rw [known] at sameAssigns
        simp only [map_some, some.injEq, forall_eq']
        exact update_fits_iff sameAssigns

theorem unheard_iff (there : UserId → Option PondAssigns × Option PondPresence)
    (nothing : ∀ other, there other = (none, none)) :
    (∀ other, SameRow (none, none) (engineEffect other (there other) message)) ↔ message.Unheard := by
  have empty : SameRow (none, none) (none, none) := ⟨trivial, trivial⟩
  simp only [nothing]
  cases message with
  | userJoined userId =>
    refine iff_of_false ?_ id
    intro all
    have mine := (all userId).1
    simp only [engineEffect, isNone_none, and_self, if_true] at mine
    exact mine
  | presenceUpdate userId =>
    refine iff_of_false ?_ id
    intro all
    have mine := (all userId).2
    simp only [engineEffect, if_true] at mine
    exact mine
  | stateResponse users =>
    cases users with
    | nil => exact iff_of_true (fun _ => empty) rfl
    | cons user =>
      refine iff_of_false ?_ (by simp [Unheard])
      intro all
      have mine := (all user.1).1
      simp only [engineEffect, listed_rows, findEntry, if_true, isSome_none, Bool.false_eq_true, if_false] at mine
      exact mine
  | userLeft | presenceRemoved =>
    refine iff_of_true (fun other => ?_) trivial
    simp only [engineEffect, ite_self]
    exact empty
  | assignsUpdate =>
    refine iff_of_true (fun other => ?_) trivial
    simp only [engineEffect, map_none, ite_self]
    exact empty
  | userMessage => exact iff_of_true (fun _ => empty) trivial

end RemoteMessage

namespace Channel

theorem message_recipients_iff (channel : Channel) (event : Event) (descriptor : Option Json) (fromUserId : UserId)
    (recipients : event.recipients = ((descriptor.bind Go.asSlice).map (List.filterMap Go.asString)).getD [])
    (named : event.recipientDescriptor = (descriptor.bind Go.asString).getD "") (sent : event.fromUserId = fromUserId)
    (userId : UserId) :
    userId ∈ channel.messageRecipients event ↔
      channel.hasUser userId = true ∧ Reaches (descriptor.getD .null) (.string fromUserId) userId := by
  have everyone : event.recipients = [] → event.recipientDescriptor ≠ "ALL_EXCEPT_SENDER" →
      (userId ∈ channel.messageRecipients event ↔ channel.hasUser userId = true) := by
    intro none other
    rw [messageRecipients, if_neg (by simp [none]), if_neg other, OrderedMap.mem_keys]
    rfl
  have unnamed : event.recipientDescriptor = "" → event.recipientDescriptor ≠ "ALL_EXCEPT_SENDER" := by
    intro empty
    rw [empty]
    decide
  cases descriptor with
  | none =>
    rw [everyone recipients (unnamed named)]
    exact (and_iff_left trivial).symm
  | some descriptor =>
    cases descriptor with
    | null | bool | number | object =>
      rw [everyone recipients (unnamed named)]
      exact (and_iff_left trivial).symm
    | string text =>
      have none : event.recipients = [] := recipients
      have text' : event.recipientDescriptor = text := named
      by_cases others : text = "ALL_EXCEPT_SENDER"
      · rw [messageRecipients, if_neg (by simp [none]), if_pos (text'.trans others), mem_filter,
          OrderedMap.mem_keys, decide_eq_true_eq, sent]
        simp only [Reaches, getD_some, others, forall_const, Go.asString]
        exact and_congr_right fun _ => ne_comm
      · rw [everyone none (by rw [text']; exact others)]
        simp [Reaches, others]
    | array items =>
      have listed : event.recipients = Go.stringItems items := recipients
      by_cases nobody : Go.stringItems items = []
      · rw [everyone (listed.trans nobody) (unnamed named)]
        simp [Reaches, nobody]
      · rw [messageRecipients, if_pos (by simp [listed, nobody]), listed, mem_filter, Go.mem_string_items]
        simp [Reaches, nobody, hasUser, and_comm]

theorem dispatched_iff (channel : Channel) {room : Bool} {event : Event} {recipients : List UserId} :
    userId ∈ ((channel.dispatchLocalBestEffort room event recipients).dispatched.drop channel.dispatched.length).flatMap
        DispatchItem.recipients ↔ room = true ∧ userId ∈ recipients := by
  simp only [dispatchLocalBestEffort, enqueueDispatch]
  cases recipients with
  | nil => simp
  | cons => cases room <;> simp

end Channel

structure Consumers where
  channel : Channel
  engine : ChannelEngine

structure Arrival where
  moment : Moment
  lobby : Option Nat
  source : NodeId
  message : RemoteMessage
  data : Json

namespace Arrival

def WellFormed (arrival : Arrival) (channelName : String) : Prop :=
  Enveloped arrival.data arrival.message.kind arrival.source channelName ∧ arrival.message.Spells arrival.data

def descriptor (arrival : Arrival) : Json := (get arrival.data "recipientDescriptor").getD .null

def sender (arrival : Arrival) : Json := (get arrival.data "fromUserId").getD .null

end Arrival

namespace Consumers

def step (consumers : Consumers) (arrival : Arrival) : Consumers where
  channel := consumers.channel.consumes arrival.moment arrival.lobby arrival.data
  engine := consumers.engine.consumes arrival.moment.now arrival.data.parse

def Aligned (consumers : Consumers) : Prop :=
  ∀ userId, SameRow (consumers.channel.row userId) (consumers.engine.tables.row userId)

def Delivers (consumers : Consumers) (arrival : Arrival) : Prop :=
  match arrival.message with
  | .userMessage _ _ _ =>
    ∀ userId, userId ∈ consumers.channel.addressees arrival.moment arrival.lobby arrival.data ↔
      userId ∈ consumers.engine.messageAudience arrival.data.parse
  | _ => True

-- When an arrival is handled alike: a channel that is closed because nobody is left
-- drops what it holds of others, and hears nothing any more.
def Sound (consumers : Consumers) (arrival : Arrival) : Prop :=
  if consumers.channel.active = true then
    arrival.message.Fits consumers.channel ∧
      (arrival.message.Closes consumers.channel arrival.source arrival.lobby →
        ∀ userId, userId ∉ arrival.message.users → consumers.channel.row userId = (none, none))
  else arrival.message.Unheard

-- When a message to users is for the same on both sides: its descriptor is one that
-- the protocol has and names somebody, or nobody is local; or the queue is full and
-- it is for nobody local.
def Reached (consumers : Consumers) (arrival : Arrival) : Prop :=
  match arrival.message with
  | .userMessage _ _ _ =>
    if arrival.moment.room = true then
      Resolved arrival.descriptor arrival.sender (consumers.channel.hasUser "" = true) ∨
        ∀ userId, consumers.channel.hasUser userId = false
    else
      ∀ userId, consumers.channel.hasUser userId = true → ¬ Addresses arrival.descriptor arrival.sender userId
  | _ => True

structure Attached (start : Channel) (backend : Js.DistributedBackend) (consumers : Consumers) : Prop where
  name : consumers.channel.name = start.name
  nodeId : consumers.channel.nodeId = start.nodeId
  backend : consumers.engine.backend = some backend
  here : ∀ userId, consumers.channel.hasUser userId = start.hasUser userId
  joined : ∀ userId, consumers.channel.hasUser userId = true ↔
    ∃ subscriber ∈ consumers.engine.publisher.observers.values, subscriber.userId = userId
  listed : ∀ userId, consumers.channel.hasUser userId = true → consumers.engine.assignsCache.has userId = true
  silent : consumers.channel.active = false →
    ∀ userId, consumers.channel.hasUser userId = false ∧ consumers.channel.row userId = (none, none)

-- A message of another node about users that are not local.
def Admitted (start : Channel) (backend : Js.DistributedBackend) (arrival : Arrival) : Prop :=
  arrival.WellFormed start.name ∧ arrival.source ≠ start.nodeId ∧ arrival.source ≠ backend.nodeId ∧
    ∀ userId ∈ arrival.message.users, start.hasUser userId = false

section

variable {start : Channel} {backend : Js.DistributedBackend} {consumers : Consumers} {arrival : Arrival}

theorem channel_step (attached : Attached start backend consumers) (admitted : Admitted start backend arrival) :
    ((consumers.step arrival).channel.name = consumers.channel.name ∧
      (consumers.step arrival).channel.nodeId = consumers.channel.nodeId ∧
      ∀ userId, (consumers.step arrival).channel.hasUser userId = consumers.channel.hasUser userId) ∧
    (consumers.channel.active = false ∧ (consumers.step arrival).channel = consumers.channel ∨
      consumers.channel.active = true ∧ (arrival.message.Closes consumers.channel arrival.source arrival.lobby ∧
        (consumers.step arrival).channel.active = false ∧ (∀ userId, consumers.channel.hasUser userId = false ∧
            (consumers.step arrival).channel.row userId = (none, none)) ∨
        ¬ arrival.message.Closes consumers.channel arrival.source arrival.lobby ∧
          (consumers.step arrival).channel.active = true ∧
          ∀ userId, (consumers.step arrival).channel.row userId =
            RemoteMessage.effect userId (consumers.channel.row userId) arrival.message)) := by
  obtain ⟨⟨enveloped, spelled⟩, foreign, _, about⟩ := admitted
  rw [← attached.name] at enveloped
  have apart : ¬ (arrival.source ≠ "" ∧ arrival.source = consumers.channel.nodeId) := by
    rw [attached.nodeId]
    exact fun both => foreign both.2
  have away : ∀ userId ∈ arrival.message.users, consumers.channel.hasUser userId = false := by
    intro userId member
    rw [attached.here]
    exact about userId member
  cases active : consumers.channel.active with
  | false =>
    have same : (consumers.step arrival).channel = consumers.channel := if_pos active
    rw [same]
    exact ⟨⟨rfl, rfl, fun _ => rfl⟩, .inl ⟨rfl, rfl⟩⟩
  | true =>
    obtain ⟨kept, rows⟩ := consumers.channel.remote_effect arrival.moment enveloped spelled apart away
    have users : ∀ userId, (consumers.channel.handlePubsubMessage arrival.moment arrival.data).hasUser userId =
        consumers.channel.hasUser userId := by
      intro userId
      rw [Channel.hasUser, Channel.hasUser, kept.connections]
    rcases consumers.channel.consumed_effect arrival.moment arrival.lobby enveloped
      spelled apart away active with ⟨closes, same⟩ | ⟨stays, same⟩
    · have nobody : ∀ userId, consumers.channel.hasUser userId = false := by
        cases said : arrival.message with
        | userLeft =>
          rw [said] at closes
          exact empty_iff.mp closes.2.1
        | _ =>
          rw [said] at closes
          exact closes.elim
      have closed : (consumers.step arrival).channel =
          (consumers.channel.handlePubsubMessage arrival.moment arrival.data).closed := same
      rw [closed]
      refine ⟨⟨kept.name, kept.nodeId, fun userId => (nobody userId).symm⟩, .inr ⟨rfl, .inl ⟨closes, rfl, ?_⟩⟩⟩
      exact fun userId => ⟨nobody userId, rfl⟩
    · have next : (consumers.step arrival).channel =
          consumers.channel.handlePubsubMessage arrival.moment arrival.data := same
      rw [next]
      exact ⟨⟨kept.name, kept.nodeId, users⟩, .inr ⟨rfl, .inr ⟨stays, kept.active.trans active, rows⟩⟩⟩

theorem engine_step (attached : Attached start backend consumers) (admitted : Admitted start backend arrival) :
    Hosting consumers.engine.tables (consumers.step arrival).engine.tables ∧
      ∀ userId, (consumers.step arrival).engine.tables.row userId =
        arrival.message.engineEffect userId (consumers.engine.tables.row userId) := by
  obtain ⟨⟨enveloped, spelled⟩, _, foreign, _⟩ := admitted
  exact engine_consumes arrival.moment.now attached.backend foreign enveloped spelled

theorem attached_step (attached : Attached start backend consumers) (admitted : Admitted start backend arrival) :
    Attached start backend (consumers.step arrival) := by
  obtain ⟨⟨name, nodeId, users⟩, next⟩ := channel_step attached admitted
  obtain ⟨hosting, rows⟩ := engine_step attached admitted
  have publisher : (consumers.step arrival).engine.publisher = consumers.engine.publisher := hosting.publisher
  constructor
  · exact name.trans attached.name
  · exact nodeId.trans attached.nodeId
  · exact hosting.backend.trans attached.backend
  · intro userId
    rw [users, attached.here]
  · intro userId
    rw [users, publisher]
    exact attached.joined userId
  · intro userId here
    rw [users] at here
    have known := attached.listed userId here
    have apart : userId ∉ arrival.message.users := by
      intro member
      rw [attached.here, admitted.2.2.2 userId member] at here
      cases here
    have same := rows userId
    rw [RemoteMessage.effect_apart _ apart] at same
    exact (congrArg isSome (congrArg Prod.fst same)).trans known
  · intro closed userId
    rw [users]
    rcases next with ⟨was, same⟩ | ⟨_, ⟨_, _, gone⟩ | ⟨_, running, _⟩⟩
    · rw [same]
      exact attached.silent was userId
    · exact gone userId
    · rw [running] at closed
      cases closed

theorem aligned_step (attached : Attached start backend consumers) (admitted : Admitted start backend arrival)
    (aligned : consumers.Aligned) : (consumers.step arrival).Aligned ↔ consumers.Sound arrival := by
  obtain ⟨_, next⟩ := channel_step attached admitted
  obtain ⟨_, rows⟩ := engine_step attached admitted
  have fits := arrival.message.fits_iff aligned
  simp only [Aligned, rows, Sound]
  rcases next with ⟨closed, same⟩ | ⟨running, ⟨closes, _, gone⟩ | ⟨stays, _, moved⟩⟩
  · rw [closed, if_neg Bool.false_ne_true, same]
    have empty : ∀ userId, consumers.channel.row userId = (none, none) := fun userId => (attached.silent closed userId).2
    have nothing : ∀ userId, consumers.engine.tables.row userId = (none, none) := by
      intro userId
      have alike := aligned userId
      rw [empty] at alike
      obtain ⟨assigns, presence⟩ := alike
      cases first : (consumers.engine.tables.row userId).1 with
      | some =>
        rw [first] at assigns
        exact assigns.elim
      | none =>
        cases second : (consumers.engine.tables.row userId).2 with
        | some =>
          rw [second] at presence
          exact presence.elim
        | none => exact Prod.ext first second
    simp only [empty]
    exact arrival.message.unheard_iff _ nothing
  · rw [running, if_pos rfl]
    cases said : arrival.message with
    | userLeft userId =>
      rw [said] at closes
      have fine : (RemoteMessage.userLeft userId).Fits consumers.channel := trivial
      simp only [fun other => (gone other).2, fine, true_and, closes, forall_const, RemoteMessage.users, mem_singleton]
      -- The user's row is gone on both sides, and the others stand in the engine.
      have others : ∀ other, other ≠ userId →
          (SameRow (none, none) ((RemoteMessage.userLeft userId).engineEffect other (consumers.engine.tables.row other)) ↔
            consumers.channel.row other = (none, none)) := by
        intro other different
        have alike := aligned other
        rw [RemoteMessage.effect_apart _ (by rw [RemoteMessage.users, mem_singleton]; exact different)]
        obtain ⟨assigns, presence⟩ := alike
        rw [SameRow, same_known_iff assigns, same_known_iff presence]
        constructor
        · rintro ⟨first, second⟩
          have noAssigns := isNone_iff_eq_none.mp (by simpa using first.1.symm)
          have noPresence := isNone_iff_eq_none.mp (by simpa using second.1.symm)
          exact Prod.ext noAssigns noPresence
        · intro none
          rw [none]
          exact ⟨alike_refl _, alike_refl _⟩
      constructor
      · intro all other different
        exact (others other different).mp (all other)
      · intro empty other
        by_cases same : other = userId
        · subst same
          simp only [RemoteMessage.engineEffect, if_true]
          exact ⟨trivial, trivial⟩
        · exact (others other same).mpr (empty other same)
    | _ =>
      rw [said] at closes
      exact closes.elim
  · rw [running, if_pos rfl]
    simp only [moved, stays, false_implies, and_true]
    exact fits

end

section

variable {start : Channel} {backend : Js.DistributedBackend} {consumers : Consumers} {arrival : Arrival}

theorem addressees_iff (attached : Attached start backend consumers) (admitted : Admitted start backend arrival)
    {fromUserId : UserId} {event : String} {descriptor : Option Json}
    (said : arrival.message = .userMessage fromUserId event descriptor) (userId : UserId) :
    userId ∈ consumers.channel.addressees arrival.moment arrival.lobby arrival.data ↔
      arrival.moment.room = true ∧ consumers.channel.hasUser userId = true ∧
        Reaches (descriptor.getD .null) (.string fromUserId) userId := by
  cases active : consumers.channel.active with
  | false =>
    have nobody := (attached.silent active userId).1
    rw [addressees, Channel.consumes, if_pos active, drop_length, nobody]
    simp
  | true =>
    obtain ⟨⟨enveloped, spelled⟩, foreign, _, about⟩ := admitted
    rw [← attached.name] at enveloped
    have apart : ¬ (arrival.source ≠ "" ∧ arrival.source = consumers.channel.nodeId) := by
      rw [attached.nodeId]
      exact fun both => foreign both.2
    have away : ∀ userId ∈ arrival.message.users, consumers.channel.hasUser userId = false := by
      intro userId member
      rw [attached.here]
      exact about userId member
    have same : consumers.channel.consumes arrival.moment arrival.lobby arrival.data =
        consumers.channel.handlePubsubMessage arrival.moment arrival.data := by
      rcases consumers.channel.consumed_effect arrival.moment arrival.lobby
        enveloped spelled apart away active with ⟨closes, _⟩ | ⟨_, next⟩
      · rw [said] at closes
        exact closes.elim
      · exact next
    rw [said] at enveloped spelled
    obtain ⟨sender, named, recipient⟩ := spelled
    have text : getStr arrival.data "event" = some event := by
      rw [getStr, named]
      rfl
    have sentBy : getStr arrival.data "fromUserId" = some fromUserId := by
      rw [getStr, sender]
      rfl
    have spelt : (getStr arrival.data "recipientDescriptor").getD "" = (descriptor.bind Go.asString).getD "" := by
      rw [getStr, recipient]
    rw [addressees, same, consumers.channel.handles arrival.moment enveloped apart (by
        simp only [eventOf, text, sentBy, recipient, bind_eq_bind, Option.bind_some, getD_some]
        rfl) rfl rfl,
      consumers.channel.dispatch_message arrival.moment rfl]
    have meant := consumers.channel.message_recipients_iff ⟨"BROADCAST", consumers.channel.name,
      (getStr arrival.data "requestId").getD arrival.moment.uuid, event, getOr arrival.data "payload" (.object []),
      arrival.source, ((descriptor.bind Go.asSlice).map (filterMap Go.asString)).getD [], fromUserId,
      (getStr arrival.data "recipientDescriptor").getD ""⟩ descriptor fromUserId rfl spelt rfl userId
    rw [← meant]
    exact consumers.channel.dispatched_iff

theorem delivers_iff (attached : Attached start backend consumers) (admitted : Admitted start backend arrival) :
    consumers.Delivers arrival ↔ consumers.Reached arrival := by
  cases said : arrival.message with
  | userMessage fromUserId _ descriptor =>
    have addressees := addressees_iff attached admitted said
    obtain ⟨⟨_, spelled⟩, _⟩ := admitted
    rw [said] at spelled
    obtain ⟨sender, _, recipient⟩ := spelled
    have joined : ∀ userId, consumers.engine.JoinedHere userId ↔ consumers.channel.hasUser userId = true := by
      intro userId
      rw [ChannelEngine.JoinedHere, attached.joined userId]
      constructor
      · exact And.right
      · intro here
        refine ⟨?_, here⟩
        rw [ChannelEngine.users, OrderedMap.mem_keys]
        exact attached.listed userId ((attached.joined userId).mpr here)
    simp only [Delivers, Reached, said, addressees, Go.audience_iff, index_get, sender, recipient, joined,
      Arrival.descriptor, Arrival.sender, getD_some]
    cases room : arrival.moment.room with
    | true =>
      simp only [if_true, true_and]
      have resolved := Go.resolved_iff (descriptor.getD .null) (.string fromUserId)
        (fun userId => consumers.channel.hasUser userId = true) (.inr ⟨fromUserId, rfl⟩)
      simp only [Bool.not_eq_true] at resolved
      rw [← resolved]
      exact forall_congr' fun userId => and_congr_right_iff
    | false => simp only [Bool.false_eq_true, if_false, false_and, false_iff, not_and]
  | _ => simp [Delivers, Reached, said]

end

theorem follows_iff {start : Channel} {backend : Js.DistributedBackend} {consumers : Consumers} {arrivals : List Arrival}
    (attached : Attached start backend consumers)
    (admitted : Follows step (fun _ arrival => Admitted start backend arrival) consumers arrivals) :
    Follows step Delivers consumers arrivals ↔ Follows step Reached consumers arrivals := by
  have both : Follows step (fun state arrival => Admitted start backend arrival) consumers arrivals := admitted
  constructor
  · intro delivers
    apply follows_of_inv step (fun state arrival => Admitted start backend arrival ∧ state.Delivers arrival) Reached
      (Attached start backend) _ _ consumers arrivals attached
    · exact (follows_and step consumers).mpr ⟨both, delivers⟩
    · intro state arrival inv each
      exact attached_step inv each.1
    · intro state arrival inv each
      exact (delivers_iff inv each.1).mp each.2
  · intro reached
    apply follows_of_inv step (fun state arrival => Admitted start backend arrival ∧ state.Reached arrival) Delivers
      (Attached start backend) _ _ consumers arrivals attached
    · exact (follows_and step consumers).mpr ⟨both, reached⟩
    · intro state arrival inv each
      exact attached_step inv each.1
    · intro state arrival inv each
      exact (delivers_iff inv each.1).mpr each.2

def rooms : Consumers where
  channel :=
    { Channel.new "room" "/ws" "node-1" true with
      active := true
      connections := .ofList [("a", ⟨"a", 0⟩)]
      assigns := OrderedMap.empty.set "a" .empty }
  engine := Go.jsRoom

def aboutB (message : RemoteMessage) (fields : List (String × Json)) : Arrival where
  moment := codecMoment
  lobby := none
  source := "node-3"
  message := message
  data := .object ([("protocol", .string "pondsocket.distributed"), ("version", .number 1),
    ("type", .string message.kind.text), ("messageId", .string "m"), ("sourceNodeId", .string "node-3"),
    ("endpointName", .string "api"), ("channelName", .string "room"), ("timestamp", .number 0)] ++ fields)

def presenceOfB (presence : Table) : Arrival :=
  aboutB (.presenceUpdate "b" presence) [("userId", .string "b"), ("presence", tableJson presence)]

theorem rooms_aligned : rooms.Aligned := by
  intro userId
  by_cases here : userId = "a"
  · subst here
    exact ⟨fun _ => rfl, trivial⟩
  have mine : rooms.channel.row userId = (none, none) :=
    Prod.ext (get_set_other here) rfl
  have listed : Go.jsRoom.assignsCache.keys = ["a"] := by decide +kernel
  have theirs : rooms.engine.tables.row userId = (none, none) := by
    refine Prod.ext (has_false_iff.mp ?_) rfl
    rw [Bool.eq_false_iff]
    intro present
    have member : userId ∈ Go.jsRoom.assignsCache.keys := mem_keys.mpr present
    rw [listed, mem_singleton] at member
    exact here member
  rw [mine, theirs]
  exact ⟨trivial, trivial⟩

theorem presence_admitted : Admitted rooms.channel ⟨"node-2", 90000⟩ (presenceOfB presence) := by
  refine ⟨⟨⟨rfl, rfl, rfl, ⟨_, rfl⟩, rfl, ⟨_, rfl⟩, rfl, ⟨_, rfl⟩⟩, rfl, rfl⟩, by simp [presenceOfB, aboutB, rooms, Channel.new],
    by simp [presenceOfB, aboutB], ?_⟩
  intro userId member
  rw [mem_singleton.mp member]
  rfl

end Consumers

end PondSocket.Rust
