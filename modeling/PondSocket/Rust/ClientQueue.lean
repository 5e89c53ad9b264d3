import PondSocket.Js.ClientChannel
import PondSocket.Library.Places

namespace PondSocket.Rust.ClientQueue

open Library List
open Js (ConnectionState ChannelState)

-- A message with its task and the number of its call, or one that asks to join.
inductive Item
  | join
  | message (task id : Nat)
deriving DecidableEq

inductive Answer
  | acknowledged
  | declined

-- An operation by what it does at its next access to a lock or to a state.
inductive Op
  | sendMessage (task id : Nat)
  | join
  | joinState
  | setJoining
  | enqueue (item : Item)
  | readState (item : Item) (connected : Bool)
  | publish (item : Item)
  | push (item : Item)
  | handle (answer : Answer)
  | answered (answer : Answer)
  | acknowledge
  | setJoined
  | drain
  | publishing (items : List Item)
  | setDeclined
  | clear
  | leave
  | close
  | setClosed
  | change (connection : ConnectionState)
  | changed (connection : ConnectionState)
  | retain
  | setStalled (rejoins : Bool)

-- connection is the client's. The operations run side by side, those for answers and for changes too.
structure Channel where
  maxQueueSize : Nat
  connection : ConnectionState := .disconnected
  state : ChannelState := .idle
  closed : Bool := false
  queue : List Item := []
  ops : List Op := []
  handed : List Item := []
  sent : Nat := 0

inductive Label
  | sendMessage (task : Nat)
  | join
  | answer (answer : Answer)
  | leave
  | evicted
  | connection (connection : ConnectionState)
  | goOn (place : Nat) (done : Bool)

def Item.Before : Item → Item → Prop
  | .message task id, .message other later => task = other → id < later
  | _, _ => True

def Item.below (count : Nat) : Item → Prop
  | .message _ id => id < count
  | .join => True

def Answer.op : Answer → Op
  | .acknowledged => .acknowledge
  | .declined => .setDeclined

namespace Op

def task : Op → Option Nat
  | .sendMessage task _ | .enqueue (.message task _) | .readState (.message task _) _ | .publish (.message task _)
  | .push (.message task _) => some task
  | _ => none

def items : Op → List Item
  | .sendMessage task id => [.message task id]
  | .enqueue item | .readState item _ | .publish item | .push item => [item]
  | .publishing items => items
  | _ => []

def settles : Op → Bool
  | .acknowledge | .setJoined | .drain | .setDeclined | .clear | .setClosed | .change _ | .changed _ | .retain
  | .setStalled _ => true
  | _ => false

end Op

namespace Channel

variable (channel : Channel) (done : Bool)

def heeds : ConnectionState → Bool
  | .disconnected => channel.state == .joined || channel.state == .joining
  | .connected => channel.state == .stalled || channel.state == .joining
  | .connecting => false

-- done tells that a message found its connection, and that a change was not lost to a lag.
def access : Op → Channel × Option Op
  | .sendMessage task id => (channel, if channel.closed then none else some (.enqueue (.message task id)))
  | .join => (channel, if channel.closed then none else some .joinState)
  | .joinState =>
    (channel, if [.joining, .joined, .declined].contains channel.state then none else some .setJoining)
  | .setJoining => ({ channel with state := .joining }, some (.enqueue .join))
  | .enqueue item => (channel, some (.readState item (channel.connection == .connected)))
  | .readState item connected =>
    (channel, some (if connected && (channel.state == .joined || item == .join) then .publish item else .push item))
  | .publish item =>
    if done then ({ channel with handed := channel.handed ++ [item] }, none) else (channel, some (.push item))
  | .push item =>
    ({ channel with
      queue := (if channel.queue.length = channel.maxQueueSize then channel.queue.drop 1 else channel.queue) ++ [item] },
      none)
  | .handle answer => (channel, if channel.closed then none else some (.answered answer))
  | .answered answer =>
    (channel, if channel.state == .joining || channel.state == .stalled then some answer.op else none)
  | .acknowledge => (channel, some (if channel.state = .joined then .drain else .setJoined))
  | .setJoined => ({ channel with state := .joined }, some .drain)
  | .drain => ({ channel with queue := [] }, some (.publishing channel.queue))
  | .publishing [] => (channel, none)
  | .publishing (item :: items) =>
    (if done then { channel with handed := channel.handed ++ [item] } else channel, some (.publishing items))
  | .setDeclined => ({ channel with state := .declined }, some .clear)
  | .clear => ({ channel with queue := [] }, none)
  | .leave => (channel, if channel.closed then none else some .close)
  | .close => ({ channel with closed := true }, some .setClosed)
  | .setClosed => ({ channel with state := .closed }, some .clear)
  | .change connection => (channel, if done && !channel.closed then some (.changed connection) else none)
  | .changed connection =>
    (channel, if channel.heeds connection then
      some (if connection = .connected then .retain else .setStalled false) else none)
  | .retain => ({ channel with queue := channel.queue.filter (· ≠ .join) }, some (.setStalled true))
  | .setStalled rejoins => ({ channel with state := .stalled }, if rejoins then some .join else none)

def begin (op : Op) : Channel := { channel with ops := channel.ops ++ [op] }

def step (channel : Channel) : Label → Channel
  | .sendMessage task =>
    if channel.ops.any (·.task == some task) then channel
    else { channel.begin (.sendMessage task channel.sent) with sent := channel.sent + 1 }
  | .join => channel.begin .join
  | .answer answer => channel.begin (.handle answer)
  | .leave => channel.begin .leave
  | .evicted => channel.begin .close
  | .connection connection =>
    if channel.connection = connection then channel
    else { channel.begin (.change connection) with connection }
  | .goOn place done =>
    match channel.ops[place]? with
    | none => channel
    | some op =>
      { (channel.access done op).1 with
        ops := ((channel.access done op).2.map (channel.ops.set place)).getD (channel.ops.eraseIdx place) }

def Stranded : Prop := channel.state = .joined ∧ channel.connection = .connected ∧ channel.queue ≠ []

structure Sound : Prop where
  drained : channel.ops = [] → ¬ channel.Stranded
  ordered : channel.handed.Pairwise Item.Before

def ends : Op → Bool
  | .change _ => !done || channel.closed
  | .changed connection => !channel.heeds connection
  | _ => false

def hands : Op → Option (Item × List Item)
  | .publish item => if done then some (item, []) else none
  | .publishing (item :: items) => if done then some (item, items) else none
  | _ => none

-- A message is handed over while no earlier one of its task waits. It is queued while the channel is not joined and
-- connected, and a change goes unheeded while nothing is queued there, unless an operation has still to settle it.
def Timely (channel : Channel) : Label → Prop
  | .goOn place done => ∀ op, channel.ops[place]? = some op →
    (∀ item items, hands done op = some (item, items) →
      ∀ other ∈ channel.queue ++ items ++ (channel.ops.eraseIdx place).flatMap Op.items, item.Before other) ∧
    ((∃ item, op = .push item) → channel.state = .joined → channel.connection = .connected →
      ∃ other ∈ channel.ops.eraseIdx place, other.settles = true) ∧
    (channel.ends done op = true → channel.Stranded → ∃ other ∈ channel.ops.eraseIdx place, other.settles = true)
  | _ => True

def waiting : List Item := channel.queue ++ channel.ops.flatMap Op.items

structure Inv : Prop where
  settled : channel.Stranded → ∃ op ∈ channel.ops, op.settles = true
  fresh : ∀ item ∈ channel.handed ++ channel.waiting, item.below channel.sent
  behind : ∀ item ∈ channel.handed, ∀ other ∈ channel.waiting, item.Before other
  ordered : channel.handed.Pairwise Item.Before

variable {channel done}

theorem mem_next {ops : List Op} {place : Nat} {op other : Op} {next : Option Op} (there : ops[place]? = some op) :
    other ∈ (next.map (ops.set place)).getD (ops.eraseIdx place) ↔ next = some other ∨ other ∈ ops.eraseIdx place := by
  obtain ⟨_, _, _⟩ := split_place _ _ _ there
  cases next with
  | none => simp
  | some => grind

theorem access_settled {op : Op} (pushes : ∀ item, op ≠ .push item) (stranded : (channel.access done op).1.Stranded) :
    (∃ next, (channel.access done op).2 = some next ∧ next.settles = true) ∨
      channel.Stranded ∧ (op.settles = true → channel.ends done op = true) := by
  unfold Stranded at stranded ⊢
  cases op with
  | push item => exact absurd rfl (pushes item)
  | publishing items => cases items <;> grind [access, Op.settles]
  | answered answer => cases answer <;> grind [access, Op.settles, Answer.op]
  | _ => grind [access, Op.settles, ends]

theorem access_items (op : Op) :
    ((channel.access done op).1.handed = channel.handed ∧
      ∀ item ∈ ((channel.access done op).2.map Op.items).getD [] ++ (channel.access done op).1.queue,
        item = .join ∨ item ∈ op.items ++ channel.queue) ∨
    ∃ item items, hands done op = some (item, items) ∧ op.items = item :: items ∧
      (channel.access done op).1.handed = channel.handed ++ [item] ∧
      ∀ other ∈ ((channel.access done op).2.map Op.items).getD [] ++ (channel.access done op).1.queue,
        other ∈ items ++ channel.queue := by
  cases op with
  | publishing items => cases items <;> grind [access, Op.items, hands]
  | answered answer => cases answer <;> grind [access, Op.items, hands, Answer.op]
  | _ => grind [access, Op.items, hands]

theorem before_join (item : Item) : item.Before .join := by
  cases item <;> trivial

theorem access_sent (op : Op) : (channel.access done op).1.sent = channel.sent := by
  cases op with
  | publishing items => cases items <;> grind [access]
  | _ => grind [access]

theorem go_on_inv {place : Nat} (inv : channel.Inv) (timely : channel.Timely (.goOn place done)) :
    (channel.step (.goOn place done)).Inv := by
  simp only [step]
  cases there : channel.ops[place]? with
  | none => exact inv
  | some op =>
    obtain ⟨later, queueing, heard⟩ := timely op there
    have others : ∀ {other : Op}, other ∈ channel.ops.eraseIdx place → other.settles = true →
        ∃ next ∈ ((channel.access done op).2.map (channel.ops.set place)).getD (channel.ops.eraseIdx place),
          next.settles = true := fun member settles => ⟨_, (mem_next there).mpr (.inr member), settles⟩
    have before : ∀ item, item ∈ op.items ++ channel.queue ∨ item ∈ (channel.ops.eraseIdx place).flatMap Op.items →
        item ∈ channel.waiting := by
      intro item held
      simp only [waiting, mem_append, mem_flatMap] at held ⊢
      rcases held with (own | queued) | ⟨other, member, holds⟩
      · exact .inr ⟨op, mem_of_getElem? there, own⟩
      · exact .inl queued
      · exact .inr ⟨other, mem_of_mem_eraseIdx member, holds⟩
    dsimp only
    generalize same : ({ (channel.access done op).1 with
      ops := ((channel.access done op).2.map (channel.ops.set place)).getD (channel.ops.eraseIdx place) } : Channel) = after
    have after_handed : after.handed = (channel.access done op).1.handed := by rw [← same]
    have after_waits : ∀ item ∈ after.waiting,
        item ∈ ((channel.access done op).2.map Op.items).getD [] ++ (channel.access done op).1.queue ∨
          item ∈ (channel.ops.eraseIdx place).flatMap Op.items := by
      intro item held
      simp only [← same, waiting, mem_append, mem_flatMap, mem_next there] at held ⊢
      rcases held with queued | ⟨other, next | member, holds⟩
      · exact .inl (.inr queued)
      · exact .inl (.inl (by simpa [next] using holds))
      · exact .inr ⟨other, member, holds⟩
    have settled : after.Stranded → ∃ op ∈ after.ops, op.settles = true := by
      rw [← same]
      intro stranded
      by_cases pushes : ∃ item, op = .push item
      · obtain ⟨other, member, settles⟩ := queueing pushes (by
          obtain ⟨item, rfl⟩ := pushes
          exact stranded.1) (by
          obtain ⟨item, rfl⟩ := pushes
          exact stranded.2.1)
        exact others member settles
      rcases access_settled (fun item equal => pushes ⟨item, equal⟩) stranded with ⟨next, held, settles⟩ | ⟨still, ends⟩
      · exact ⟨next, (mem_next there).mpr (.inl held), settles⟩
      obtain ⟨other, member, settles⟩ := inv.settled still
      rcases mem_erase_or there member with rfl | member
      · obtain ⟨other, member, settles⟩ := heard (ends settles) still
        exact others member settles
      · exact others member settles
    have sent : after.sent = channel.sent := by rw [← same, access_sent]
    rcases access_items op with ⟨handed, moves⟩ | ⟨item, items, hands, split, handed, moves⟩
    · have waits : ∀ item ∈ after.waiting, item = .join ∨ item ∈ channel.waiting := fun item held =>
        (after_waits item held).elim (fun own => (moves item own).imp_right fun old => before item (.inl old))
          fun other => .inr (before item (.inr other))
      refine ⟨settled, fun item held => ?_, fun item held other waiting => ?_, ?_⟩
      · rw [sent]
        rw [after_handed, handed] at held
        rcases mem_append.mp held with old | waiting
        · exact inv.fresh item (mem_append_left _ old)
        rcases waits item waiting with rfl | old
        · trivial
        · exact inv.fresh item (mem_append_right _ old)
      · rw [after_handed, handed] at held
        rcases waits other waiting with rfl | old
        · exact before_join item
        · exact inv.behind item held other old
      · rw [after_handed, handed]
        exact inv.ordered
    have waits : ∀ other ∈ after.waiting, other ∈ channel.waiting ∧ item.Before other := by
      intro other held
      rcases after_waits other held with own | waiting
      · have old := moves other own
        refine ⟨before other (.inl ?_), later item items hands other ?_⟩
        · rw [split, cons_append]
          exact mem_cons_of_mem _ old
        · exact mem_append_left _ (by simpa [or_comm] using old)
      · exact ⟨before other (.inr waiting), later item items hands other (mem_append_right _ waiting)⟩
    have own : item ∈ channel.waiting := before item (.inl (by simp [split]))
    rw [handed] at after_handed
    refine ⟨settled, fun other held => ?_, fun other held waiting known => ?_, ?_⟩
    · rw [sent]
      rw [after_handed] at held
      refine inv.fresh other ?_
      simp only [mem_append, mem_singleton] at held ⊢
      rcases held with (old | rfl) | waiting
      · exact .inl old
      · exact .inr own
      · exact .inr (waits other waiting).1
    · rw [after_handed] at held
      rcases mem_append.mp held with old | last
      · exact inv.behind other old waiting (waits waiting known).1
      · rw [mem_singleton.mp last]
        exact (waits waiting known).2
    · rw [after_handed]
      refine pairwise_append.mpr ⟨inv.ordered, pairwise_singleton _ _, fun other held last same => ?_⟩
      rw [mem_singleton.mp same]
      exact inv.behind other held item own

theorem begin_inv {op : Op} {connection : ConnectionState} {sent : Nat} (inv : channel.Inv) (grows : channel.sent ≤ sent)
    (newer : ∀ item ∈ op.items, (∃ task, item = .message task channel.sent) ∧ channel.sent < sent)
    (settles : connection = channel.connection ∨ op.settles = true) :
    ({ channel.begin op with connection, sent } : Channel).Inv := by
  have waits : ∀ item, item ∈ (channel.begin op).waiting ↔ item ∈ channel.waiting ∨ item ∈ op.items := by
    intro item
    simp [waiting, begin, or_assoc]
  refine ⟨fun stranded => ?_, fun item held => ?_, fun item held other waiting => ?_, inv.ordered⟩
  · rcases settles with rfl | settles
    · obtain ⟨other, member, settles⟩ := inv.settled stranded
      exact ⟨other, mem_append_left _ member, settles⟩
    · exact ⟨op, mem_append_right _ mem_cons_self, settles⟩
  · have old : item ∈ channel.handed ++ channel.waiting → item.below sent := by
      intro known
      have below := inv.fresh item known
      cases item with
      | join => trivial
      | message => exact Nat.lt_of_lt_of_le below grows
    rcases mem_append.mp held with handed | waiting
    · exact old (mem_append_left _ handed)
    rcases (waits item).mp waiting with known | own
    · exact old (mem_append_right _ known)
    · obtain ⟨⟨task, rfl⟩, later⟩ := newer item own
      exact later
  · rcases (waits other).mp waiting with known | own
    · exact inv.behind item held other known
    · obtain ⟨⟨_, rfl⟩, _⟩ := newer other own
      have below := inv.fresh item (mem_append_left _ held)
      cases item with
      | join => trivial
      | message => exact fun _ => below

theorem step_inv (label : Label) (inv : channel.Inv) (timely : channel.Timely label) : (channel.step label).Inv := by
  have call : ∀ op : Op, op.items = [] → (channel.begin op).Inv := fun op none =>
    begin_inv inv (Nat.le_refl _) (fun item member => by simp [none] at member) (.inl rfl)
  cases label with
  | sendMessage task =>
    simp only [step]
    split
    · exact inv
    · exact begin_inv inv (Nat.le_succ _) (fun item member => ⟨⟨task, mem_singleton.mp member⟩, Nat.lt_succ_self _⟩) (.inl rfl)
  | join | answer | leave | evicted => exact call _ rfl
  | connection =>
    simp only [step]
    split
    · exact inv
    · exact begin_inv inv (Nat.le_refl _) (fun item member => by simp [Op.items] at member) (.inr rfl)
  | goOn => exact go_on_inv inv timely

theorem sound_of_inv (inv : channel.Inv) : channel.Sound := by
  refine ⟨fun idle stranded => ?_, inv.ordered⟩
  obtain ⟨_, member, _⟩ := inv.settled stranded
  rw [idle] at member
  cases member

end Channel

end PondSocket.Rust.ClientQueue
