import Mathlib.Data.List.Nodup
import PondSocket.Library.Places
import PondSocket.Library.Run

namespace PondSocket.Js.Notifications

open Library List

-- A call of publish on its way through forEach. The cursor is the next slot of the set;
-- filled is how many slots there were at the start. told are the observers it has
-- notified, welcomed those that were handed its message when they subscribed, and kept
-- those that were subscribed at the start and have been ever since.
structure Call (T Observer : Type) where
  id : Nat
  message : T
  cursor : Nat := 0
  filled : Nat
  told : List Observer := []
  welcomed : List Observer := []
  kept : List Observer

-- What is under way, innermost first: a forEach, an observer, or a subscribe that waits
-- for the observer it notifies.
inductive Frame (T Observer : Type) where
  | iterating (call : Call T Observer)
  | running (observer : Observer) (message : T)
  | subscribing (observer : Observer)

-- A Subject, or a BehaviorSubject if it replays its last message. An observer that is
-- deleted leaves its slot empty, and one that is added takes a slot at the end. latest
-- is the call that set the last message.
structure Subject (T Observer : Type) where
  replays : Bool
  lastMessage : Option T
  slots : List (Option Observer) := []
  isClosed : Bool := false
  stack : List (Frame T Observer) := []
  finished : List (Call T Observer) := []
  nextId : Nat := 0
  latest : Option Nat := none

-- What a program does with the subject, at its top level or in an observer.
inductive Action (T Observer : Type) where
  | subscribe (observer : Observer)
  | unsubscribe (observer : Observer)
  | publish (message : T)
  | close

-- An observer that throws returns as well: its error goes to the handler.
inductive Label (T Observer : Type) where
  | act (action : Action T Observer)
  | next
  | returns

variable {T Observer : Type}

def Frame.call? : Frame T Observer → Option (Call T Observer)
  | .iterating call => some call
  | .running _ _ | .subscribing _ => none

def Frame.revise (update : Call T Observer → Call T Observer) : Frame T Observer → Frame T Observer
  | .iterating call => .iterating (update call)
  | frame => frame

namespace Subject

def new (replays : Bool) (initialValue : Option T) : Subject T Observer :=
  { replays := replays, lastMessage := if replays then initialValue else none }

def calls (subject : Subject T Observer) : List (Call T Observer) := subject.stack.filterMap Frame.call?

def revise (subject : Subject T Observer) (update : Call T Observer → Call T Observer) : Subject T Observer :=
  { subject with stack := subject.stack.map (Frame.revise update) }

def busy (subject : Subject T Observer) : Bool :=
  match subject.stack with
  | [] | .running _ _ :: _ => false
  | _ => true

variable [DecidableEq Observer]

def add (subject : Subject T Observer) (observer : Observer) : Subject T Observer :=
  if subject.isClosed || subject.slots.contains (some observer) then subject
  else { subject with slots := subject.slots ++ [some observer] }

def welcome (subject : Subject T Observer) (observer : Observer) (call : Call T Observer) : Call T Observer :=
  if subject.latest = some call.id then { call with welcomed := call.welcomed ++ [observer] } else call

def subscribe (subject : Subject T Observer) (observer : Observer) : Subject T Observer :=
  match subject.lastMessage with
  | none => subject.add observer
  | some message =>
    let subject := subject.revise (subject.welcome observer)
    { subject with stack := .running observer message :: .subscribing observer :: subject.stack }

def unsubscribe (subject : Subject T Observer) (observer : Observer) : Subject T Observer :=
  let subject := subject.revise fun call => { call with kept := call.kept.filter (· ≠ observer) }
  { subject with slots := subject.slots.map fun slot => if slot = some observer then none else slot }

def publish (subject : Subject T Observer) (message : T) : Subject T Observer :=
  let call : Call T Observer :=
    { id := subject.nextId, message := message, filled := subject.slots.length, kept := subject.slots.filterMap id }
  { subject with
    lastMessage := if subject.replays then some message else subject.lastMessage
    latest := if subject.replays then some subject.nextId else subject.latest
    nextId := subject.nextId + 1
    stack := .iterating call :: subject.stack }

def close (subject : Subject T Observer) : Subject T Observer :=
  let subject := subject.revise fun call => { call with kept := [] }
  { subject with slots := subject.slots.map fun _ => none, isClosed := true }

def perform (subject : Subject T Observer) : Action T Observer → Subject T Observer
  | .subscribe observer => subject.subscribe observer
  | .unsubscribe observer => subject.unsubscribe observer
  | .publish message => subject.publish message
  | .close => subject.close

def visit (subject : Subject T Observer) (call : Call T Observer) (rest : List (Frame T Observer)) : Subject T Observer :=
  match subject.slots[call.cursor]? with
  | none => { subject with stack := rest, finished := subject.finished ++ [call] }
  | some none => { subject with stack := .iterating { call with cursor := call.cursor + 1 } :: rest }
  | some (some observer) =>
    { subject with
      stack := .running observer call.message ::
        .iterating { call with cursor := call.cursor + 1, told := call.told ++ [observer] } :: rest }

def step (subject : Subject T Observer) : Label T Observer → Subject T Observer
  | .act action => if subject.busy then subject else subject.perform action
  | .next =>
    match subject.stack with
    | .iterating call :: rest => subject.visit call rest
    | _ => subject
  | .returns =>
    match subject.stack with
    | .running _ _ :: .subscribing observer :: rest => { subject with stack := rest }.add observer
    | .running _ _ :: rest => { subject with stack := rest }
    | _ => subject

-- A call hands its message to an observer once at most, by notifying it or when it
-- subscribes, and has notified those that were subscribed throughout when it ends.
def Delivered (subject : Subject T Observer) : Prop :=
  (∀ call ∈ subject.calls, (call.told ++ call.welcomed).Nodup) ∧
    ∀ call ∈ subject.finished, (call.told ++ call.welcomed).Nodup ∧ ∀ observer ∈ call.kept, observer ∈ call.told

-- No observer subscribes to a BehaviorSubject that has got the message of the call that
-- runs, and no forEach comes to a slot, filled since it began, of an observer that it has
-- notified, or to one of an observer that has got the message on subscribing.
def Sparing (subject : Subject T Observer) : Label T Observer → Prop
  | .act (.subscribe observer) => subject.busy = false → subject.lastMessage.isSome → ∀ call ∈ subject.calls,
      subject.latest = some call.id → observer ∉ call.told ++ call.welcomed
  | .next => ∀ call rest, subject.stack = .iterating call :: rest → ∀ observer,
      subject.slots[call.cursor]? = some (some observer) →
        observer ∉ call.welcomed ∧ (call.filled ≤ call.cursor → observer ∉ call.told)
  | _ => True

def Holds (slots : List (Option Observer)) (place : Nat) (observer : Observer) : Prop := slots[place]? = some (some observer)

-- A forEach has still to come to the slots from its cursor on. Those that were filled
-- when it began hold observers that it has not notified.
structure Ahead (slots : List (Option Observer)) (call : Call T Observer) : Prop where
  once : (call.told ++ call.welcomed).Nodup
  filled : call.filled ≤ slots.length
  fresh : ∀ place observer, call.cursor ≤ place → place < call.filled → Holds slots place observer →
    observer ∉ call.told
  kept : ∀ observer ∈ call.kept, observer ∈ call.told ∨ ∃ place, call.cursor ≤ place ∧ Holds slots place observer

structure Inv (subject : Subject T Observer) : Prop where
  distinct : ∀ first second observer, Holds subject.slots first observer →
    Holds subject.slots second observer → first = second
  ahead : ∀ call ∈ subject.calls, Ahead subject.slots call
  ended : ∀ call ∈ subject.finished, (call.told ++ call.welcomed).Nodup ∧ ∀ observer ∈ call.kept, observer ∈ call.told

variable {subject : Subject T Observer} {call : Call T Observer} {observer : Observer}
  {slots next : List (Option Observer)}

omit [DecidableEq Observer] in
theorem revise_calls {update : Call T Observer → Call T Observer} :
    (subject.revise update).calls = subject.calls.map update := by
  rw [calls, calls, revise, filterMap_map, map_filterMap]
  refine filterMap_congr fun frame _ => ?_
  cases frame <;> rfl

omit [DecidableEq Observer] in
theorem revised {update : Call T Observer → Call T Observer} (member : call ∈ (subject.revise update).calls) :
    ∃ before ∈ subject.calls, update before = call := by
  rw [revise_calls] at member
  exact mem_map.mp member

omit [DecidableEq Observer] in
theorem nodup_told {told welcomed : List Observer} :
    (told ++ [observer] ++ welcomed).Nodup ↔ (observer ∉ told ∧ observer ∉ welcomed) ∧ (told ++ welcomed).Nodup := by
  rw [append_assoc, singleton_append, nodup_middle, nodup_cons, mem_append, not_or]

omit [DecidableEq Observer] in
theorem nodup_welcomed {told welcomed : List Observer} :
    (told ++ (welcomed ++ [observer])).Nodup ↔ observer ∉ told ++ welcomed ∧ (told ++ welcomed).Nodup := by
  rw [← append_assoc, nodup_middle, append_nil, nodup_cons]

omit [DecidableEq Observer] in
theorem ahead_emptied (ahead : Ahead slots call) (length : next.length = slots.length) (kept : List Observer)
    (emptied : ∀ place observer, Holds next place observer → Holds slots place observer)
    (still : ∀ observer ∈ kept, observer ∈ call.kept ∧
      ∀ place, Holds slots place observer → Holds next place observer) :
    Ahead next { call with kept := kept } := by
  refine ⟨ahead.once, length ▸ ahead.filled, fun place observer after before found => ?_, fun observer member => ?_⟩
  · exact ahead.fresh place observer after before (emptied place observer found)
  · obtain ⟨listed, stays⟩ := still observer member
    rcases ahead.kept observer listed with told | ⟨place, after, found⟩
    · exact .inl told
    · exact .inr ⟨place, after, stays place found⟩

theorem add_inv (inv : subject.Inv) : (subject.add observer).Inv := by
  rw [add]
  split
  · exact inv
  rename_i refused
  obtain ⟨_, absent⟩ := not_or.mp (mt (Bool.or_eq_true _ _).mpr refused)
  have missing : ∀ place, ¬ Holds subject.slots place observer := by
    intro place found
    exact absent (contains_iff_mem.mpr (mem_of_getElem? found))
  have old : ∀ place other, Holds (subject.slots ++ [some observer]) place other →
      Holds subject.slots place other ∨ (other = observer ∧ place = subject.slots.length) := by
    intro place other found
    rcases get_concat found with before | ⟨same, last⟩
    · exact .inl before
    · exact .inr ⟨Option.some.inj last, same⟩
  refine ⟨?_, fun call member => ?_, inv.ended⟩
  · intro first second other one two
    rcases old first other one with one | ⟨same, one⟩
    · rcases old second other two with two | ⟨same, two⟩
      · exact inv.distinct first second other one two
      · exact absurd (same ▸ one) (missing first)
    · rcases old second other two with two | ⟨_, two⟩
      · exact absurd (same ▸ two) (missing second)
      · rw [one, two]
  · have ahead := inv.ahead call member
    refine ⟨ahead.once, ?_, fun place other after before found => ?_, fun other listed => ?_⟩
    · rw [length_append]
      exact Nat.le_add_right_of_le ahead.filled
    · rcases old place other found with kept | ⟨_, last⟩
      · exact ahead.fresh place other after before kept
      · exact absurd (Nat.lt_of_lt_of_le before ahead.filled) (last ▸ Nat.lt_irrefl _)
    · rcases ahead.kept other listed with told | ⟨place, after, found⟩
      · exact .inl told
      · obtain ⟨inside, _⟩ := List.getElem?_eq_some_iff.mp found
        exact .inr ⟨place, after, (getElem?_append_left inside).trans found⟩

omit [DecidableEq Observer] in
theorem inv_stack {stack : List (Frame T Observer)} (inv : subject.Inv)
    (same : stack.filterMap Frame.call? = subject.calls) : { subject with stack := stack }.Inv :=
  ⟨inv.distinct, fun call member => inv.ahead call (same ▸ member), inv.ended⟩

omit [DecidableEq Observer] in
theorem inv_emptied (shut : Bool) (inv : subject.Inv) (length : next.length = subject.slots.length) (keep : List Observer → List Observer)
    (emptied : ∀ place observer, Holds next place observer → Holds subject.slots place observer)
    (still : ∀ kept, ∀ observer ∈ keep kept, observer ∈ kept ∧
      ∀ place, Holds subject.slots place observer → Holds next place observer) :
    { subject.revise (fun call => { call with kept := keep call.kept }) with slots := next, isClosed := shut }.Inv := by
  refine ⟨fun first second observer one two => ?_, fun call member => ?_, inv.ended⟩
  · exact inv.distinct first second observer (emptied first observer one) (emptied second observer two)
  · obtain ⟨before, listed, rfl⟩ := revised member
    exact ahead_emptied (inv.ahead before listed) length _ emptied (still before.kept)

theorem unsubscribe_inv (inv : subject.Inv) : (subject.unsubscribe observer).Inv := by
  have cleared : ∀ place other, Holds (subject.slots.map fun slot => if slot = some observer then none else slot) place other ↔
      other ≠ observer ∧ Holds subject.slots place other := by
    intro place other
    rw [Holds, Holds, getElem?_map]
    cases subject.slots[place]? with
    | none => simp
    | some slot =>
      by_cases same : slot = some observer
      · simp [same, eq_comm]
      · simp only [Option.map_some, if_neg same, Option.some.injEq]
        exact ⟨fun own => ⟨fun eq => same (eq ▸ own), own⟩, And.right⟩
  refine inv_emptied subject.isClosed inv (length_map _) (fun kept => kept.filter (· ≠ observer)) ?_ ?_
  · exact fun place other found => ((cleared place other).mp found).2
  · intro kept other member
    obtain ⟨listed, apart⟩ := mem_filter.mp member
    exact ⟨listed, fun place found => (cleared place other).mpr ⟨of_decide_eq_true apart, found⟩⟩

omit [DecidableEq Observer] in
theorem close_inv (inv : subject.Inv) : subject.close.Inv := by
  refine inv_emptied true inv (length_map _) (fun _ => []) ?_ fun kept observer member => absurd member not_mem_nil
  intro place observer found
  rw [Holds, getElem?_map] at found
  cases held : subject.slots[place]? with
  | none => simp [held] at found
  | some slot => simp [held] at found

omit [DecidableEq Observer] in
theorem publish_inv (message : T) (inv : subject.Inv) : (subject.publish message).Inv := by
  refine ⟨inv.distinct, fun call member => ?_, inv.ended⟩
  rcases mem_cons.mp member with rfl | listed
  · refine ⟨nodup_nil, Nat.le_refl _, fun _ _ _ _ _ => not_mem_nil, fun observer subscribed => ?_⟩
    obtain ⟨slot, listed, same⟩ := mem_filterMap.mp subscribed
    obtain ⟨place, found⟩ := mem_iff_getElem?.mp listed
    exact .inr ⟨place, Nat.zero_le _, found.trans (congrArg some same)⟩
  · exact inv.ahead call listed

omit [DecidableEq Observer] in
theorem visit_inv {rest : List (Frame T Observer)} (inv : subject.Inv) (top : subject.stack = .iterating call :: rest)
    (sparing : ∀ observer, Holds subject.slots call.cursor observer →
      observer ∉ call.welcomed ∧ (call.filled ≤ call.cursor → observer ∉ call.told)) : (subject.visit call rest).Inv := by
  have running : subject.calls = call :: rest.filterMap Frame.call? := by rw [calls, top]; rfl
  have ahead := inv.ahead call (running ▸ mem_cons_self)
  have others : ∀ other ∈ rest.filterMap Frame.call?, other ∈ subject.calls := fun other listed =>
    running ▸ mem_cons_of_mem _ listed
  rw [visit]
  cases found : subject.slots[call.cursor]? with
  | none =>
    refine ⟨inv.distinct, fun other listed => inv.ahead other (others other listed), fun other member => ?_⟩
    rcases mem_append.mp member with earlier | last
    · exact inv.ended other earlier
    obtain rfl := mem_singleton.mp last
    refine ⟨ahead.once, fun observer subscribed => ?_⟩
    rcases ahead.kept observer subscribed with told | ⟨place, after, there⟩
    · exact told
    · obtain ⟨inside, _⟩ := List.getElem?_eq_some_iff.mp there
      have beyond := List.getElem?_eq_none_iff.mp found
      omega
  | some slot =>
    have passed : ∀ place observer, call.cursor ≤ place → Holds subject.slots place observer → slot = some observer ∨
        call.cursor + 1 ≤ place := by
      intro place observer after there
      rcases Nat.eq_or_lt_of_le after with same | later
      · exact .inl (Option.some.inj (found.symm.trans (same ▸ there)))
      · exact .inr later
    cases slot with
    | none =>
      refine ⟨inv.distinct, fun other member => ?_, inv.ended⟩
      rcases mem_cons.mp member with rfl | listed
      · refine ⟨ahead.once, ahead.filled, fun place observer after => ahead.fresh place observer (Nat.le_of_succ_le after), ?_⟩
        intro observer subscribed
        rcases ahead.kept observer subscribed with told | ⟨place, after, there⟩
        · exact .inl told
        · exact .inr ⟨place, (passed place observer after there).resolve_left (fun same => by cases same), there⟩
      · exact inv.ahead other (others other listed)
    | some visited =>
      have unheard : visited ∉ call.told := by
        rcases Nat.lt_or_ge call.cursor call.filled with early | late
        · exact ahead.fresh call.cursor visited (Nat.le_refl call.cursor) early found
        · exact (sparing visited found).2 late
      refine ⟨inv.distinct, fun other member => ?_, inv.ended⟩
      rcases mem_cons.mp member with rfl | listed
      · refine ⟨nodup_told.mpr ⟨⟨unheard, (sparing visited found).1⟩, ahead.once⟩, ahead.filled, ?_, ?_⟩
        · intro place observer after before there told
          rcases mem_append.mp told with earlier | last
          · exact ahead.fresh place observer (Nat.le_of_succ_le after) before there earlier
          · have same := inv.distinct _ _ visited found (mem_singleton.mp last ▸ there)
            exact absurd same (Nat.ne_of_lt after)
        · intro observer subscribed
          rcases ahead.kept observer subscribed with told | ⟨place, after, there⟩
          · exact .inl (mem_append_left _ told)
          · rcases passed place observer after there with same | later
            · cases same
              exact .inl (mem_append_right _ mem_cons_self)
            · exact .inr ⟨place, later, there⟩
      · exact inv.ahead other (others other listed)

theorem subscribe_inv (inv : subject.Inv) (sparing : subject.lastMessage.isSome → ∀ call ∈ subject.calls,
    subject.latest = some call.id → observer ∉ call.told ++ call.welcomed) : (subject.subscribe observer).Inv := by
  rw [subscribe]
  cases known : subject.lastMessage with
  | none => exact add_inv inv
  | some =>
    have welcomed : (subject.revise (subject.welcome observer)).Inv := by
      refine ⟨inv.distinct, fun call member => ?_, inv.ended⟩
      obtain ⟨before, listed, rfl⟩ := revised member
      have ahead := inv.ahead before listed
      rw [welcome]
      split
      · rename_i current
        exact ⟨nodup_welcomed.mpr ⟨sparing (by rw [known]; rfl) before listed current, ahead.once⟩, ahead.filled,
          ahead.fresh, ahead.kept⟩
      · exact ahead
    exact inv_stack welcomed rfl

theorem step_inv (label : Label T Observer) (inv : subject.Inv) (sparing : subject.Sparing label) :
    (subject.step label).Inv := by
  cases label with
  | act action =>
    rw [step]
    cases busy : subject.busy with
    | true => exact inv
    | false =>
      cases action with
      | subscribe => exact subscribe_inv inv (sparing busy)
      | unsubscribe => exact unsubscribe_inv inv
      | publish message => exact publish_inv message inv
      | close => exact close_inv inv
  | next =>
    rw [step]
    split
    · rename_i call rest top
      exact visit_inv inv top (sparing call rest top)
    · exact inv
  | returns =>
    rw [step]
    split
    · rename_i top
      exact add_inv (inv_stack inv (by rw [calls, top]; rfl))
    · rename_i top
      exact inv_stack inv (by rw [calls, top]; rfl)
    · exact inv

theorem sparing_needed (label : Label T Observer) (delivered : (subject.step label).Delivered) :
    subject.Sparing label := by
  cases label with
  | returns => trivial
  | act action =>
    cases action with
    | unsubscribe observer | publish message | close => trivial
    | subscribe observer =>
      intro idle some call listed current
      obtain ⟨_, known⟩ := Option.isSome_iff_exists.mp some
      have member : subject.welcome observer call ∈ (subject.step (.act (.subscribe observer))).calls := by
        rw [step, idle]
        simp only [Bool.false_eq_true, if_false, perform, subscribe, known]
        have mapped := mem_map_of_mem (f := subject.welcome observer) listed
        rw [← revise_calls] at mapped
        exact mapped
      have nodup := delivered.1 _ member
      rw [welcome, if_pos current] at nodup
      exact (nodup_welcomed.mp nodup).1
  | next =>
    intro call rest top observer found
    have member : { call with cursor := call.cursor + 1, told := call.told ++ [observer] } ∈
        (subject.step .next).calls := by
      rw [step, top]
      simp only [visit, found]
      exact mem_cons_self
    have nodup := (nodup_told.mp (delivered.1 _ member)).1
    exact ⟨nodup.2, fun _ => nodup.1⟩

theorem new_inv {replays : Bool} {initialValue : Option T} : (new replays initialValue : Subject T Observer).Inv := by
  refine ⟨fun _ _ _ found => ?_, fun _ member => ?_, fun _ member => ?_⟩
  · cases found
  · cases member
  · cases member

theorem notified_iff (replays : Bool) (initialValue : Option T) (labels : List (Label T Observer)) :
    Always step Delivered (new replays initialValue) labels ↔ Follows step Sparing (new replays initialValue) labels :=
  always_iff_follows step (fun _ _ => True) Sparing Delivered Inv
    (fun _ inv => ⟨fun call member => (inv.ahead call member).once, inv.ended⟩)
    (fun _ label inv _ sparing => step_inv label inv sparing)
    (fun _ label _ _ delivered => sparing_needed label delivered)
    (new replays initialValue) labels new_inv (follows_all step _ _ labels fun _ _ => trivial)

theorem subscribed_twice_told : ¬ ∀ labels : List (Label Nat String), Always step Delivered (new true (some 0)) labels := by
  intro always
  have last := always_run step _ (always
    [.act (.subscribe "a"), .returns, .act (.publish 1), .next, .act (.subscribe "b"), .returns, .returns, .next])
  exact absurd (last.1 _ mem_cons_self) (by decide)

end Subject

end PondSocket.Js.Notifications
