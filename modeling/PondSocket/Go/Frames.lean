import PondSocket.Js.Wire
import PondSocket.Library.JsonText
import PondSocket.Library.Run

namespace PondSocket.Go.Wire

open Library List Option
open Library.JsonText
open Js (Json NodeId UserId)

variable (lone : Nat → Char)

def hexDigit (digit : Nat) : Char := Char.ofNat (if digit < 10 then 48 + digit else 87 + digit)

def escapeChar (char : Char) : List Char :=
  if char = '"' ∨ char = '\\' then ['\\', char]
  else if char = '\x08' then ['\\', 'b']
  else if char = '\x0c' then ['\\', 'f']
  else if char = '\n' then ['\\', 'n']
  else if char = '\r' then ['\\', 'r']
  else if char = '\t' then ['\\', 't']
  else if char.toNat < 32 ∨ char = '<' ∨ char = '>' ∨ char = '&' then
    ['\\', 'u', '0', '0', hexDigit (char.toNat / 16), hexDigit (char.toNat % 16)]
  else if char.toNat = 0x2028 ∨ char.toNat = 0x2029 then
    ['\\', 'u', '2', '0', '2', hexDigit (char.toNat % 16)]
  else [char]

theorem hex_value (digit : Nat) (small : digit < 16) : hexValue (hexDigit digit) = some digit := by
  have all : ∀ digit : Fin 16, hexValue (hexDigit digit.val) = some digit.val := by decide
  exact all ⟨digit, small⟩

theorem hex_printable (digit : Nat) (small : digit < 16) : 32 ≤ (hexDigit digit).toNat := by
  have all : ∀ digit : Fin 16, 32 ≤ (hexDigit digit.val).toNat := by decide
  exact all ⟨digit, small⟩

theorem read_escaped {fuel : Nat} {mark char : Char} {rest : List Char}
    (found : readEscape lone (mark :: rest) = some (char, rest)) :
    readString lone (fuel + 1) ('\\' :: mark :: rest) = (readString lone fuel rest).map (consChar char) := by
  rw [readString, if_neg (by decide), if_pos rfl, found]

theorem read_unicode {fuel : Nat} (code : Nat) (char : Char) {a b c d : Char} (rest : List Char)
    (unit : readUnit (a :: b :: c :: d :: rest) = some (code, rest)) (small : code < 0xD800) (same : char.toNat = code) :
    readString lone (fuel + 1) ('\\' :: 'u' :: a :: b :: c :: d :: rest) =
      (readString lone fuel rest).map (consChar char) := by
  have lead : isLead code = false := decide_eq_false (by omega)
  have trail : isTrail code = false := decide_eq_false (by omega)
  rw [readString, if_neg (by decide), if_pos rfl, readEscape, if_pos rfl, readUnicode, unit]
  simp only [lead, trail, Bool.false_eq_true, if_false]
  rw [← same, Char.ofNat_toNat]

theorem escape_reads (fuel : Nat) (char : Char) (rest : List Char) :
    readString lone (fuel + 1) (escapeChar char ++ rest) = (readString lone fuel rest).map (consChar char) := by
  unfold escapeChar
  split
  · rename_i quoted
    rcases quoted with same | same
    all_goals
      rw [same]
      exact read_escaped lone rfl
  split
  · rename_i same
    rw [same]
    exact read_escaped lone rfl
  split
  · rename_i same
    rw [same]
    exact read_escaped lone rfl
  split
  · rename_i same
    rw [same]
    exact read_escaped lone rfl
  split
  · rename_i same
    rw [same]
    exact read_escaped lone rfl
  split
  · rename_i same
    rw [same]
    exact read_escaped lone rfl
  split
  · rename_i hidden
    have small : char.toNat < 256 := by
      rcases hidden with control | same | same | same
      · omega
      all_goals
        rw [same]
        decide
    apply read_unicode lone char.toNat char rest
    · simp only [readUnit, hex_value _ (Nat.mod_lt char.toNat (by decide : 0 < 16)),
        hex_value (char.toNat / 16) (by omega), show hexValue '0' = some 0 from rfl, bind_eq_bind, bind_some]
      refine congrArg some (Prod.ext ?_ rfl)
      omega
    · omega
    · rfl
  split
  · apply read_unicode lone char.toNat char rest
    · simp only [readUnit, hex_value _ (Nat.mod_lt char.toNat (by decide : 0 < 16)), show hexValue '0' = some 0 from rfl,
        show hexValue '2' = some 2 from rfl, bind_eq_bind, bind_some]
      refine congrArg some (Prod.ext ?_ rfl)
      omega
    · omega
    · rfl
  · rename_i quoted _ _ _ _ _ hidden _
    have solid : ¬ char.toNat < 32 := fun control => hidden (.inl control)
    rw [singleton_append, readString, if_neg (fun same => quoted (.inl same)),
      if_neg (fun same => quoted (.inr same)), if_neg solid]

theorem escape_solid (char : Char) : 0 < (escapeChar char).length := by
  unfold escapeChar
  repeat' split
  all_goals exact Nat.succ_pos _

theorem escape_printable (char : Char) : ∀ written ∈ escapeChar char, 32 ≤ written.toNat := by
  have pair : ∀ mark : Char, 32 ≤ mark.toNat → ∀ written ∈ ['\\', mark], 32 ≤ written.toNat := by
    intro mark printable
    simpa using printable
  unfold escapeChar
  split
  · rename_i quoted
    apply pair
    rcases quoted with same | same
    all_goals
      rw [same]
      decide
  split
  · exact pair 'b' (by decide)
  split
  · exact pair 'f' (by decide)
  split
  · exact pair 'n' (by decide)
  split
  · exact pair 'r' (by decide)
  split
  · exact pair 't' (by decide)
  split
  · rename_i hidden
    have small : char.toNat / 16 < 16 := by
      rcases hidden with control | same | same | same
      · omega
      all_goals
        rw [same]
        decide
    have high := hex_printable (char.toNat / 16) small
    have low := hex_printable (char.toNat % 16) (Nat.mod_lt _ (by decide))
    simpa using And.intro high low
  split
  · have low := hex_printable (char.toNat % 16) (Nat.mod_lt _ (by decide))
    simpa using low
  rename_i hidden _
  have solid : 32 ≤ char.toNat := Nat.le_of_not_lt fun control => hidden (.inl control)
  simpa using solid

def marshalEscape : Escape := ⟨escapeChar, escape_reads, escape_solid, escape_printable⟩

mutual

def toJson (numeral : Number → Rat) : Value → Json
  | .null => .null
  | .bool value => .bool value
  | .number value => .number (numeral value)
  | .string text => .string text
  | .array items => .array (itemsJson numeral items)
  | .object fields => .object (fieldsJson numeral fields)

def itemsJson (numeral : Number → Rat) : List Value → List Json
  | [] => []
  | item :: rest => toJson numeral item :: itemsJson numeral rest

def fieldsJson (numeral : Number → Rat) : List (String × Value) → List (String × Json)
  | [] => []
  | (key, value) :: rest => (key, toJson numeral value) :: fieldsJson numeral rest

end

structure Event where
  action : String
  channelName : String
  requestId : String
  payload : Value
  event : String
  nodeId : NodeId
  recipients : List UserId
  fromUserId : UserId
  recipient : String

namespace Event

def textField (key text : String) : List (String × Value) := if text = "" then [] else [(key, .string text)]

def listField (key : String) (items : List String) : List (String × Value) :=
  if items.isEmpty then [] else [(key, .array (items.map .string))]

def routing (event : Event) : List (String × Value) :=
  textField "nodeId" event.nodeId ++ (listField "recipients" event.recipients ++
    (textField "fromUserId" event.fromUserId ++ textField "recipientDescriptor" event.recipient))

def value (event : Event) : Value :=
  .object ([("action", .string event.action), ("channelName", .string event.channelName),
    ("requestId", .string event.requestId), ("payload", event.payload), ("event", .string event.event)] ++ event.routing)

def marshal (event : Event) : List Char := event.value.render marshalEscape

end Event

-- A connection: the events that SendJSON took, the data in its send channel, what
-- writePump has received and not yet written, and the frames that it has written.
structure ConnRun where
  sendBuffer : Nat
  isActive : Bool
  sent : List Event
  send : List (List Char)
  message : Option (List Char)
  frames : List (List Char)

inductive ConnStep where
  | sendJSON (event : Event)
  | receive
  | write
  | close

def joinLines (message : List Char) (queued : List (List Char)) : List Char :=
  message ++ queued.flatMap fun data => '\n' :: data

namespace ConnRun

def new (sendBuffer : Nat) : ConnRun := ⟨sendBuffer, true, [], [], none, []⟩

-- Whether the send channel takes a message now: without a buffer it needs a receiver.
def hasRoom (run : ConnRun) : Bool :=
  decide (run.send.length < run.sendBuffer) ||
    (decide (run.sendBuffer = 0) && run.send.isEmpty && run.message.isNone)

def sendJSON (run : ConnRun) (event : Event) : ConnRun :=
  if run.isActive && run.hasRoom then { run with sent := run.sent ++ [event], send := run.send ++ [event.marshal] }
  else run

def receive (run : ConnRun) : ConnRun :=
  if run.isActive && run.message.isNone then
    match run.send with
    | [] => run
    | message :: rest => { run with message := some message, send := rest }
  else run

def write (run : ConnRun) : ConnRun :=
  if run.isActive then
    match run.message with
    | none => run
    | some message => { run with message := none, send := [], frames := run.frames ++ [joinLines message run.send] }
  else run

def step (run : ConnRun) : ConnStep → ConnRun
  | .sendJSON event => run.sendJSON event
  | .receive => run.receive
  | .write => run.write
  | .close => { run with isActive := false }

def written (run : ConnRun) : List Event :=
  run.sent.take (run.sent.length - (run.message.toList.length + run.send.length))

def Alone (run : ConnRun) : ConnStep → Prop
  | .write => run.isActive = true → run.message ≠ none → run.send = []
  | _ => True

end ConnRun

abbrev Group := Event × List Event

def Group.events (group : Group) : List Event := group.1 :: group.2

def Group.frame (group : Group) : List Char := joinLines group.1.marshal (group.2.map Event.marshal)

namespace ConnRun

structure Grouped (run : ConnRun) (groups : List Group) (first queued : List Event) : Prop where
  sent : run.sent = groups.flatMap Group.events ++ (first ++ queued)
  message : run.message.toList = first.map Event.marshal
  send : run.send = queued.map Event.marshal
  frames : run.frames = groups.map Group.frame

theorem grouped_new {sendBuffer : Nat} : (new sendBuffer).Grouped [] [] [] := ⟨rfl, rfl, rfl, rfl⟩

variable {groups : List Group}

theorem written_grouped {run : ConnRun} (first queued : List Event) (grouped : run.Grouped groups first queued) :
    run.written = groups.flatMap Group.events := by
  simp only [written, grouped.sent, grouped.message, grouped.send, length_map, length_append, Nat.add_sub_cancel]
  exact take_left

theorem grouped_send {run : ConnRun} {event : Event} (first queued : List Event)
    (grouped : run.Grouped groups first queued) : ∃ queued, (run.sendJSON event).Grouped groups first queued := by
  simp only [sendJSON]
  split
  · refine ⟨queued ++ [event], ?_, grouped.message, ?_, grouped.frames⟩
    · rw [grouped.sent, append_assoc, append_assoc]
    · rw [grouped.send, map_append, map_singleton]
  · exact ⟨queued, grouped⟩

theorem grouped_receive {run : ConnRun} (first queued : List Event) (grouped : run.Grouped groups first queued) :
    ∃ first queued, run.receive.Grouped groups first queued := by
  simp only [receive]
  split
  · rename_i receives
    have none := isNone_iff_eq_none.mp ((Bool.and_eq_true _ _).mp receives).2
    have message := grouped.message
    have send := grouped.send
    rw [none] at message
    have empty := map_eq_nil_iff.mp message.symm
    cases queued with
    | nil =>
      rw [send]
      exact ⟨first, [], grouped⟩
    | cons event rest =>
      rw [map_cons] at send
      rw [send]
      refine ⟨[event], rest, ?_, rfl, rfl, grouped.frames⟩
      rw [grouped.sent, empty, nil_append, singleton_append]
  · exact ⟨first, queued, grouped⟩

theorem grouped_write {run : ConnRun} (first queued : List Event) (grouped : run.Grouped groups first queued) :
    ∃ more first queued, run.write.Grouped (groups ++ more) first queued ∧
      (run.Alone .write ↔ ∀ group ∈ more, group.2 = []) := by
  have same : run.Grouped (groups ++ []) first queued := by
    rw [append_nil]
    exact grouped
  simp only [write, Alone]
  split
  · rename_i active
    cases holds : run.message with
    | none => exact ⟨[], first, queued, same, fun _ _ member => (nomatch member), fun _ _ some => absurd rfl some⟩
    | some message =>
      have first_data := grouped.message
      rw [holds] at first_data
      cases first with
      | nil => cases first_data
      | cons event others =>
        obtain ⟨rfl, alone⟩ := cons.inj first_data
        cases others with
        | cons => cases alone
        | nil =>
          refine ⟨[(event, queued)], [], [], ⟨?_, rfl, rfl, ?_⟩, ?_⟩
          · rw [grouped.sent, flatMap_append, append_assoc]
            simp [Group.events]
          · rw [map_append, map_singleton, grouped.send, grouped.frames]
            rfl
          · simp [active, grouped.send]
  · rename_i idle
    exact ⟨[], first, queued, same, fun _ _ member => (nomatch member), fun _ active => absurd active idle⟩

theorem grouped_step {run : ConnRun} {label : ConnStep} (first queued : List Event)
    (grouped : run.Grouped groups first queued) :
    ∃ more first queued, (run.step label).Grouped (groups ++ more) first queued ∧
      (run.Alone label ↔ ∀ group ∈ more, group.2 = []) := by
  cases label with
  | sendJSON =>
    obtain ⟨queued, kept⟩ := grouped_send first queued grouped
    rw [← append_nil groups] at kept
    exact ⟨[], first, queued, kept, fun _ _ member => (nomatch member), fun _ => trivial⟩
  | receive =>
    obtain ⟨first, queued, kept⟩ := grouped_receive first queued grouped
    rw [← append_nil groups] at kept
    exact ⟨[], first, queued, kept, fun _ _ member => (nomatch member), fun _ => trivial⟩
  | write => exact grouped_write first queued grouped
  | close =>
    refine ⟨[], first, queued, ?_, fun _ _ member => (nomatch member), fun _ => trivial⟩
    rw [append_nil]
    exact ⟨grouped.sent, grouped.message, grouped.send, grouped.frames⟩

theorem grouped_run {labels : List ConnStep} (start : ConnRun) (groups : List Group) (first queued : List Event)
    (grouped : start.Grouped groups first queued) :
    ∃ more first queued, (run step start labels).Grouped (groups ++ more) first queued ∧
      (Follows step Alone start labels ↔ ∀ group ∈ more, group.2 = []) := by
  induction labels generalizing start groups first queued with
  | nil =>
    refine ⟨[], first, queued, ?_, fun _ _ member => (nomatch member), fun _ => trivial⟩
    rw [append_nil]
    exact grouped
  | cons label _ ih =>
    obtain ⟨here, first, queued, stepped, alone⟩ := grouped_step first queued grouped
    obtain ⟨later, first, queued, ran, follows⟩ := ih (start.step label) (groups ++ here) first queued stepped
    rw [append_assoc] at ran
    refine ⟨here ++ later, first, queued, ran, ?_⟩
    simp [Follows, alone, follows, or_imp, forall_and]

end ConnRun

end PondSocket.Go.Wire
