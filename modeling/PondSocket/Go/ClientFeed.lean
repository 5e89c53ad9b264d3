import PondSocket.Library.Places

namespace PondSocket.Go.Client

open Library

-- A server event with its number among those that the client's dispatcher takes up.
structure ServerEvent where
  serial : Nat
  action : String
  event : String
  channelName : String
deriving DecidableEq

-- An event subscription of handleAcknowledge: before Acknowledge has decided, with the
-- goroutine of init, and unsubscribed.
inductive Subscription where
  | pending
  | running
  | released
deriving DecidableEq

structure Forwarder where
  subscription : Subscription
  inbox : List ServerEvent
  held : Option ServerEvent
deriving DecidableEq

structure Listener where
  subscribed : Bool
  inbox : List ServerEvent
  seen : List Nat
deriving DecidableEq

inductive Target where
  | init
  | forwarder (place : Nat)
deriving DecidableEq

inductive InitStage where
  | waiting
  | subscribed (place : Nat)
  | acknowledging (place : Nat)
  | deciding (event : ServerEvent)
  | declining (event : ServerEvent)
  | surfacing (event : ServerEvent)
deriving DecidableEq

def capacity : Nat := 100

def offer (inbox : List ServerEvent) (event : ServerEvent) : List ServerEvent :=
  if inbox.length < capacity then inbox ++ [event] else inbox

-- The way of the events to one channel: put keeps what was put on its event queue, and
-- joined what the dispatcher took up while it was joined.
structure Feed where
  next : Nat
  sending : Option (ServerEvent × List Target)
  inbox : List ServerEvent
  stage : InitStage
  forwarders : List Forwarder
  queue : List ServerEvent
  offering : Option (ServerEvent × List Nat)
  listeners : List Listener
  put : List Nat
  joined : List Nat

namespace Feed

def new : Feed where
  next := 0
  sending := none
  inbox := []
  stage := .waiting
  forwarders := []
  queue := []
  offering := none
  listeners := []
  put := []
  joined := []

def subscriptions (feed : Feed) : List Nat :=
  (List.range feed.forwarders.length).filter fun place =>
    (feed.forwarders[place]?).any fun forwarder => decide (forwarder.subscription ≠ .released)

def broadcast (feed : Feed) (joined : Bool) (action event channelName : String) : Feed :=
  match feed.sending with
  | some _ => feed
  | none =>
    { feed with
      next := feed.next + 1
      sending := some (⟨feed.next, action, event, channelName⟩, .init :: feed.subscriptions.map .forwarder)
      joined := if joined then feed.joined ++ [feed.next] else feed.joined }

def send (feed : Feed) (place : Nat) : Feed :=
  match feed.sending with
  | none => feed
  | some (_, []) => { feed with sending := none }
  | some (event, targets) =>
    match targets[place]? with
    | none => feed
    | some target =>
      let feed := { feed with sending := some (event, targets.eraseIdx place) }
      match target with
      | .init => { feed with inbox := offer feed.inbox event }
      | .forwarder room =>
        { feed with
          forwarders := feed.forwarders.modify room fun forwarder =>
            { forwarder with inbox := offer forwarder.inbox event } }

def subscribe (feed : Feed) : Feed :=
  { feed with forwarders := feed.forwarders ++ [⟨.pending, [], none⟩], stage := .subscribed feed.forwarders.length }

def settle (feed : Feed) (place : Nat) (subscription : Subscription) : Feed :=
  { feed with
    stage := .waiting
    forwarders := feed.forwarders.modify place fun forwarder => { forwarder with subscription := subscription } }

def enqueue (feed : Feed) (event : ServerEvent) : Feed :=
  if feed.queue.length < capacity then
    { feed with queue := feed.queue ++ [event], put := feed.put ++ [event.serial] }
  else feed

def receive (feed : Feed) (place : Nat) : Feed :=
  match feed.forwarders[place]? with
  | none => feed
  | some forwarder =>
    match forwarder.subscription, forwarder.held, forwarder.inbox with
    | .running, none, event :: rest =>
      { feed with forwarders := feed.forwarders.set place { forwarder with inbox := rest, held := some event } }
    | _, _, _ => feed

def forward (feed : Feed) (name : String) (joined : Bool) (place : Nat) : Feed :=
  match feed.forwarders[place]? with
  | none => feed
  | some forwarder =>
    match forwarder.held with
    | none => feed
    | some event =>
      let feed := { feed with forwarders := feed.forwarders.set place { forwarder with held := none } }
      if event.channelName = name ∧ joined = true then feed.enqueue event else feed

def deliver (feed : Feed) : Feed :=
  match feed.offering, feed.queue with
  | none, event :: rest =>
    { feed with
      queue := rest
      offering := some (event, (List.range feed.listeners.length).filter fun place =>
        (feed.listeners[place]?).any Listener.subscribed) }
  | _, _ => feed

def offerNext (feed : Feed) (place : Nat) : Feed :=
  match feed.offering with
  | none => feed
  | some (_, []) => { feed with offering := none }
  | some (event, listeners) =>
    match listeners[place]? with
    | none => feed
    | some room =>
      { feed with
        offering := some (event, listeners.eraseIdx place)
        listeners := feed.listeners.modify room fun listener =>
          { listener with inbox := offer listener.inbox event } }

def onMessage (feed : Feed) : Feed := { feed with listeners := feed.listeners ++ [⟨true, [], []⟩] }

def unsubscribe (feed : Feed) (place : Nat) : Feed :=
  { feed with listeners := feed.listeners.modify place fun listener => { listener with subscribed := false } }

def hear (feed : Feed) (place : Nat) : Feed :=
  match feed.listeners[place]? with
  | none => feed
  | some listener =>
    match listener.inbox with
    | [] => feed
    | event :: rest =>
      { feed with
        listeners := feed.listeners.set place
          { listener with
            inbox := rest
            seen := if event.action = "PRESENCE" then listener.seen else listener.seen ++ [event.serial] } }

end Feed

end PondSocket.Go.Client
