import PondSocket.Go.ClientRun

namespace PondSocket.Go.Client

open Library List ServerEvent
open Js (ChannelState)

def ServerEvent.surfaces (event : ServerEvent) (name : String) : Bool :=
  decide (event.event = "UNAUTHORIZED" ∨ event.event = "NOT_FOUND" ∨ event.event = "INTERNAL_ERROR") &&
    decide (event.action = "SYSTEM") && decide (event.channelName = name)

def ServerEvent.is (event : ServerEvent) (serial : Nat) : Bool := decide (event.serial = serial)

def ServerEvent.isOwn (event : ServerEvent) (name : String) (serial : Nat) : Bool :=
  event.is serial && decide (event.channelName = name)

def weigh (counts : Bool) : Nat := if counts then 1 else 0

theorem offer_count (inbox : List ServerEvent) (event : ServerEvent) (counts : ServerEvent → Bool) :
    (offer inbox event).countP counts ≤ inbox.countP counts + weigh (counts event) := by
  simp only [offer, weigh]
  split
  · rw [countP_append, countP_singleton]
  · exact Nat.le_add_right _ _

def Forwarder.copies (name : String) (serial : Nat) (forwarder : Forwarder) : Nat :=
  forwarder.inbox.countP (fun event => event.isOwn name serial) +
    match forwarder.held with
    | none => 0
    | some event => weigh (event.isOwn name serial)

def Target.copies (name : String) (event : ServerEvent) : Target → Bool
  | .init => event.surfaces name
  | .forwarder _ => decide (event.channelName = name)

def InitStage.copies (serial : Nat) : InitStage → Nat
  | .deciding event | .declining event | .surfacing event => weigh (event.is serial)
  | _ => 0

def Listener.copies (serial : Nat) (listener : Listener) : Nat :=
  listener.seen.count serial + listener.inbox.countP (fun event => event.is serial)

namespace Feed

variable (feed : Feed) (name : String)

variable (serial place : Nat)

def sendingCopies (name : String) (serial : Nat) (feed : Feed) : Nat :=
  match feed.sending with
  | none => 0
  | some (event, targets) => if event.is serial then targets.countP (Target.copies name event) else 0

def offeringCopies (serial place : Nat) (feed : Feed) : Nat :=
  match feed.offering with
  | none => 0
  | some (event, listeners) => if event.is serial then listeners.count place else 0

def copies (name : String) (serial : Nat) (feed : Feed) : Nat :=
  feed.sendingCopies name serial +
    feed.inbox.countP (fun event => event.is serial && event.surfaces name) +
    feed.stage.copies serial + (feed.forwarders.map (Forwarder.copies name serial)).sum + feed.put.count serial

theorem copies_send :
    (feed.send place).copies name serial ≤ feed.copies name serial := by
  simp only [send]
  cases sending : feed.sending with
  | none => exact Nat.le_refl _
  | some pair =>
    obtain ⟨event, targets⟩ := pair
    cases targets with
    | nil =>
      simp only [copies, sendingCopies, sending, countP_nil, ite_self]
      exact Nat.le_refl _
    | cons first rest =>
      dsimp only
      cases there : (first :: rest)[place]? with
      | none => exact Nat.le_refl _
      | some target =>
        obtain ⟨whole, erased, _⟩ := split_place (first :: rest) place target there
        have fewer : ((first :: rest).eraseIdx place).countP (Target.copies name event) +
            weigh (target.copies name event) = (first :: rest).countP (Target.copies name event) := by
          conv => rhs; rw [whole]
          rw [erased, countP_append, countP_append, countP_cons]
          simp only [weigh]
          omega
        cases target with
        | init =>
          have more := offer_count feed.inbox event fun event => event.is serial && event.surfaces name
          simp only [copies, sendingCopies, sending]
          cases its : event.is serial with
          | false =>
            simp only [its, Bool.false_and, weigh, Bool.false_eq_true, if_false] at more ⊢
            omega
          | true =>
            simp only [its, Bool.true_and, if_true, Target.copies] at more fewer ⊢
            omega
        | forwarder room =>
          have more := sum_modify feed.forwarders room
            (fun forwarder => { forwarder with inbox := offer forwarder.inbox event })
            (Forwarder.copies name serial) (weigh (event.isOwn name serial)) (by
              intro forwarder
              have grown := offer_count forwarder.inbox event fun event => event.isOwn name serial
              simp only [Forwarder.copies]
              omega)
          simp only [copies, sendingCopies, sending]
          cases its : event.is serial with
          | false =>
            simp only [isOwn, its, Bool.false_and, weigh, Bool.false_eq_true, if_false] at more ⊢
            omega
          | true =>
            simp only [isOwn, its, Bool.true_and, if_true, Target.copies] at more fewer ⊢
            omega

theorem copies_subscribe (serial : Nat) (waiting : feed.stage.copies serial = 0) :
    feed.subscribe.copies name serial = feed.copies name serial := by
  simp only [subscribe, copies, sendingCopies, map_append, sum_append, waiting]
  rfl

theorem copies_settle {subscription : Subscription} :
    (feed.settle place subscription).copies name serial ≤ feed.copies name serial := by
  have same := sum_modify feed.forwarders place (fun forwarder => { forwarder with subscription := subscription })
    (Forwarder.copies name serial) 0 (fun _ => Nat.le_refl _)
  simp only [settle, copies, sendingCopies, InitStage.copies]
  omega

theorem copies_enqueue (serial : Nat) (event : ServerEvent) :
    (feed.enqueue event).copies name serial ≤ feed.copies name serial + weigh (event.is serial) := by
  simp only [enqueue]
  split
  · simp only [copies, sendingCopies, count_append, count_singleton, is, weigh, beq_iff_eq]
    simp only [decide_eq_true_eq]
    omega
  · exact Nat.le_add_right _ _

theorem copies_receive :
    (feed.receive place).copies name serial = feed.copies name serial := by
  simp only [receive]
  cases there : feed.forwarders[place]? with
  | none => rfl
  | some forwarder =>
    dsimp only
    split
    · rename_i event rest _ held inbox
      have same := sum_set feed.forwarders place { forwarder with inbox := rest, held := some event }
        (Forwarder.copies name serial) there
      simp only [Forwarder.copies, held, inbox, countP_cons] at same
      simp only [copies, sendingCopies, weigh] at same ⊢
      omega
    · rfl

theorem copies_forward {joined : Bool} {serial place : Nat} :
    (feed.forward name joined place).copies name serial ≤ feed.copies name serial := by
  simp only [forward]
  cases there : feed.forwarders[place]? with
  | none => exact Nat.le_refl _
  | some forwarder =>
    dsimp only
    cases held : forwarder.held with
    | none => exact Nat.le_refl _
    | some event =>
      dsimp only
      have same := sum_set feed.forwarders place { forwarder with held := none }
        (Forwarder.copies name serial) there
      simp only [Forwarder.copies, held] at same
      have dropped : copies name serial
          { feed with forwarders := feed.forwarders.set place { forwarder with held := none } } +
            weigh (event.isOwn name serial) = feed.copies name serial := by
        simp only [copies, sendingCopies]
        omega
      split
      · rename_i both
        have put := copies_enqueue { feed with forwarders := feed.forwarders.set place { forwarder with held := none } }
          name serial event
        simp only [isOwn, both.1, decide_true, Bool.and_true] at dropped
        omega
      · omega

theorem copies_broadcast (joined : Bool) (name action event channelName : String) (serial : Nat)
    (sending : feed.sending = none) :
    (feed.broadcast joined action event channelName).copies name serial = feed.copies name serial +
      if serial = feed.next then
        weigh (ServerEvent.surfaces ⟨feed.next, action, event, channelName⟩ name) +
          if channelName = name then feed.subscriptions.length else 0
      else 0 := by
  have targets : ((.init :: feed.subscriptions.map Target.forwarder).countP
      (Target.copies name ⟨feed.next, action, event, channelName⟩)) =
      weigh (surfaces ⟨feed.next, action, event, channelName⟩ name) +
        if channelName = name then feed.subscriptions.length else 0 := by
    rw [countP_cons, countP_map, Nat.add_comm]
    by_cases own : channelName = name
    · rw [if_pos own]
      have all : feed.subscriptions.countP (Target.copies name ⟨feed.next, action, event, channelName⟩ ∘ Target.forwarder) =
          feed.subscriptions.length := by
        apply countP_eq_length.mpr
        exact fun _ _ => decide_eq_true own
      rw [all]
      rfl
    · rw [if_neg own]
      have none' : feed.subscriptions.countP (Target.copies name ⟨feed.next, action, event, channelName⟩ ∘ Target.forwarder) =
          0 := by
        apply countP_eq_zero.mpr
        intro place _
        simp only [Function.comp, Target.copies, own, decide_false, Bool.false_eq_true, not_false_eq_true]
      rw [none']
      rfl
  simp only [broadcast, sending, copies, sendingCopies, is, targets]
  by_cases new : serial = feed.next
  · simp only [new, decide_true, if_true]
    omega
  · have other : ¬ feed.next = serial := fun same => new same.symm
    simp only [new, other, decide_false, Bool.false_eq_true, if_false, Nat.add_zero]

def heardCopies (serial place : Nat) (feed : Feed) (listener : Listener) : Nat :=
  listener.copies serial + feed.offeringCopies serial place + feed.queue.countP fun event => event.is serial

structure Heard (feed : Feed) : Prop where
  known : ∀ event listeners, feed.offering = some (event, listeners) → ∀ place ∈ listeners, place < feed.listeners.length
  queued : ∀ serial, feed.queue.countP (fun event => event.is serial) ≤ feed.put.count serial
  heard : ∀ (place : Nat) (listener : Listener), feed.listeners[place]? = some listener →
    ∀ serial, feed.heardCopies serial place listener ≤ feed.put.count serial

theorem heard_same (feed : Feed) {next : Feed} (queue : next.queue = feed.queue) (put : next.put = feed.put)
    (offering : next.offering = feed.offering) (listeners : next.listeners = feed.listeners) (heard : feed.Heard) :
    next.Heard := by
  refine ⟨?_, ?_, ?_⟩
  · rw [offering, listeners]
    exact heard.known
  · rw [queue, put]
    exact heard.queued
  · rw [listeners]
    intro place listener there serial
    have before := heard.heard place listener there serial
    simp only [heardCopies, offeringCopies, queue, put, offering] at before ⊢
    exact before

theorem heard_enqueue {event : ServerEvent} (heard : feed.Heard) : (feed.enqueue event).Heard := by
  have grown : ∀ serial, (feed.queue ++ [event]).countP (fun event => event.is serial) + feed.put.count serial =
      feed.queue.countP (fun event => event.is serial) + (feed.put ++ [event.serial]).count serial := by
    intro serial
    rw [countP_append, countP_singleton, count_append, count_singleton]
    simp only [is, beq_iff_eq, decide_eq_true_eq]
    omega
  simp only [enqueue]
  split
  · refine ⟨heard.known, ?_, ?_⟩
    · intro serial
      have before := heard.queued serial
      have more := grown serial
      dsimp only
      omega
    · intro place listener there serial
      have before := heard.heard place listener there serial
      have more := grown serial
      simp only [heardCopies, offeringCopies] at before ⊢
      omega
  · exact heard

theorem heard_deliver (heard : feed.Heard) : feed.deliver.Heard := by
  simp only [deliver]
  split
  · rename_i event rest offering queue
    refine ⟨?_, ?_, ?_⟩
    · intro its listeners same place member
      cases same
      exact mem_range.mp (mem_filter.mp member).1
    · intro serial
      have before := heard.queued serial
      rw [queue, countP_cons] at before
      dsimp only
      omega
    · intro place listener there serial
      have before := heard.heard place listener there serial
      have once : ((List.range feed.listeners.length).filter fun place =>
          (feed.listeners[place]?).any Listener.subscribed).count place ≤ 1 :=
        nodup_iff_count_le_one.mp (nodup_range.filter _) place
      simp only [heardCopies, offeringCopies, offering, queue, countP_cons] at before ⊢
      split <;> rename_i its
      · rw [if_pos its] at before
        omega
      · omega
  · exact heard

theorem heard_offer {place : Nat} (heard : feed.Heard) : (feed.offerNext place).Heard := by
  simp only [offerNext]
  cases offering : feed.offering with
  | none => exact heard
  | some pair =>
    obtain ⟨event, listeners⟩ := pair
    cases listeners with
    | nil =>
      refine ⟨fun _ _ same => (nomatch same), heard.queued, ?_⟩
      intro room listener there serial
      have before := heard.heard room listener there serial
      simp only [heardCopies, offeringCopies, offering] at before ⊢
      omega
    | cons first rest =>
      dsimp only
      cases there : (first :: rest)[place]? with
      | none => exact heard
      | some room =>
        obtain ⟨whole, erased, _⟩ := split_place (first :: rest) place room there
        have fewer : ∀ other, ((first :: rest).eraseIdx place).count other + (if room = other then 1 else 0) =
            (first :: rest).count other := by
          intro other
          conv => rhs; rw [whole]
          rw [erased, count_append, count_append, count_cons]
          simp only [beq_iff_eq]
          omega
        refine ⟨?_, heard.queued, ?_⟩
        · intro its others same other member
          cases same
          rw [length_modify]
          exact heard.known event (first :: rest) offering other (mem_of_mem_eraseIdx member)
        intro other listener held serial
        obtain ⟨before, found, changed⟩ := get_modify held
        have bound := heard.heard other before found serial
        have count := fewer other
        have more := offer_count before.inbox event fun event => event.is serial
        simp only [heardCopies, offeringCopies, offering, Listener.copies, weigh] at bound more ⊢
        rw [changed]
        by_cases here : room = other
        · rw [if_pos here] at count ⊢
          dsimp only
          split <;> rename_i its
          · rw [if_pos its] at bound more
            omega
          · rw [if_neg its] at bound more
            omega
        · rw [if_neg here] at count ⊢
          split <;> rename_i its
          · rw [if_pos its] at bound
            omega
          · omega

theorem heard_join (heard : feed.Heard) : feed.onMessage.Heard := by
  refine ⟨?_, heard.queued, ?_⟩
  · intro event listeners same place member
    have inside := heard.known event listeners same place member
    simp only [onMessage, length_append, length_singleton]
    omega
  intro place listener there serial
  rcases get_concat there with before | ⟨_, new⟩
  · exact heard.heard place listener before serial
  have nobody : feed.onMessage.offeringCopies serial place = 0 := by
    simp only [offeringCopies, onMessage]
    cases offering : feed.offering with
    | none => rfl
    | some pair =>
      obtain ⟨event, listeners⟩ := pair
      dsimp only
      split
      · apply count_eq_zero.mpr
        intro member
        have inside := heard.known event listeners offering place member
        omega
      · rfl
  rw [heardCopies, nobody, new, Nat.add_zero]
  have queued := heard.queued serial
  simp only [Listener.copies, count_nil, countP_nil, onMessage]
  omega

theorem heard_fewer {listeners : List Listener} (length : listeners.length = feed.listeners.length)
    (fewer : ∀ (place : Nat) (listener : Listener), listeners[place]? = some listener →
      ∃ before, feed.listeners[place]? = some before ∧ ∀ serial, listener.copies serial ≤ before.copies serial)
    (heard : feed.Heard) : Heard { feed with listeners := listeners } := by
  refine ⟨?_, heard.queued, ?_⟩
  · intro event offered same place member
    rw [length]
    exact heard.known event offered same place member
  intro place listener there serial
  obtain ⟨before, found, less⟩ := fewer place listener there
  have bound := heard.heard place before found serial
  have count := less serial
  simp only [heardCopies, offeringCopies] at bound ⊢
  omega

theorem heard_unsubscribe {place : Nat} (heard : feed.Heard) : (feed.unsubscribe place).Heard := by
  apply heard_fewer feed (length_modify _ _ _) _ heard
  intro other listener there
  obtain ⟨before, found, changed⟩ := get_modify there
  refine ⟨before, found, ?_⟩
  intro serial
  rw [changed]
  split
  · exact Nat.le_refl _
  · exact Nat.le_refl _

theorem heard_hear {place : Nat} (heard : feed.Heard) : (feed.hear place).Heard := by
  simp only [hear]
  cases there : feed.listeners[place]? with
  | none => exact heard
  | some listener =>
    dsimp only
    cases inbox : listener.inbox with
    | nil => exact heard
    | cons =>
      apply heard_fewer feed length_set _ heard
      intro other next held
      by_cases here : place = other
      · obtain ⟨inside, _⟩ := List.getElem?_eq_some_iff.mp there
        rw [← here, getElem?_set_self inside] at held
        rw [← here, ← Option.some.inj held]
        refine ⟨listener, there, ?_⟩
        intro serial
        simp only [Listener.copies, inbox, countP_cons, is, decide_eq_true_eq]
        split
        · omega
        rw [count_append, count_singleton]
        simp only [beq_iff_eq]
        omega
      · rw [getElem?_set_ne here] at held
        exact ⟨next, held, fun _ => Nat.le_refl _⟩

end Feed

end PondSocket.Go.Client
