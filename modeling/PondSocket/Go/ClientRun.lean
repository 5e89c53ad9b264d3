import PondSocket.Go.ClientLink
import PondSocket.Go.ClientFeed

namespace PondSocket.Go.Client

open Library
open Js (ChannelState ClientActions)

structure ClientRun where
  name : String
  link : Link
  feed : Feed

inductive ClientStep where
  | createChannel
  | connect
  | lose (conn : Nat)
  | join
  | run (place : Nat)
  | change
  | broadcast (action event channelName : String)
  | send (place : Nat)
  | init
  | receive (place : Nat)
  | forward (place : Nat)
  | deliver
  | offer (place : Nat)
  | onMessage
  | unsubscribe (place : Nat)
  | hear (place : Nat)

namespace ClientRun

def new (name : String) : ClientRun := ⟨name, .new, .new⟩

def handle (run : ClientRun) (event : ServerEvent) : ClientRun :=
  if event.event = "ACKNOWLEDGE" then
    if run.link.created ∧ event.channelName = run.name then { run with feed := run.feed.subscribe } else run
  else if event.event = "CONNECTION" then
    if event.action = "CONNECT" then { run with link := run.link.setConnectionState true } else run
  else if event.event = "UNAUTHORIZED" ∨ event.event = "NOT_FOUND" then
    if event.action = "SYSTEM" ∧ run.link.created ∧ event.channelName = run.name then
      { run with feed := { run.feed with stage := .deciding event } }
    else run
  else if event.event = "INTERNAL_ERROR" then
    if event.action = "SYSTEM" ∧ run.link.created ∧ event.channelName = run.name then
      { run with feed := { run.feed with stage := .surfacing event } }
    else run
  else run

def initStep (run : ClientRun) : ClientRun :=
  match run.feed.stage with
  | .waiting =>
    match run.feed.inbox with
    | [] => run
    | event :: rest => handle { run with feed := { run.feed with inbox := rest } } event
  | .subscribed place =>
    if Link.asking run.link.state then { run with feed := { run.feed with stage := .acknowledging place } }
    else { run with feed := run.feed.settle place .released }
  | .acknowledging place =>
    { run with link := run.link.setState .joined, feed := run.feed.settle place .running }
  | .deciding event =>
    if Link.asking run.link.state then { run with feed := { run.feed with stage := .declining event } }
    else { run with feed := { run.feed with stage := .surfacing event } }
  | .declining event =>
    { run with link := run.link.setState .declined, feed := { run.feed with stage := .surfacing event } }
  | .surfacing event => { run with feed := { run.feed with stage := .waiting }.enqueue event }

def isJoined (run : ClientRun) : Bool := decide (run.link.state = .joined)

def step (run : ClientRun) : ClientStep → ClientRun
  | .createChannel => { run with link := run.link.createChannel }
  | .connect => { run with link := run.link.connect }
  | .lose conn => { run with link := run.link.lose conn }
  | .join => { run with link := run.link.join }
  | .run place => { run with link := run.link.runTask place }
  | .change => { run with link := run.link.handleConnectionChanges }
  | .broadcast action event channelName =>
    { run with feed := run.feed.broadcast run.isJoined action event channelName }
  | .send place => { run with feed := run.feed.send place }
  | .init => run.initStep
  | .receive place => { run with feed := run.feed.receive place }
  | .forward place => { run with feed := run.feed.forward run.name run.isJoined place }
  | .deliver => { run with feed := run.feed.deliver }
  | .offer place => { run with feed := run.feed.offerNext place }
  | .onMessage => { run with feed := run.feed.onMessage }
  | .unsubscribe place => { run with feed := run.feed.unsubscribe place }
  | .hear place => { run with feed := run.feed.hear place }

def created : List ClientStep := [.createChannel, .run 0, .run 0, .change, .change]

def connected : List ClientStep := [.connect, .run 0, .run 0, .change, .change]

def acknowledged (forwarders : Nat) : List ClientStep :=
  .broadcast "SYSTEM" "ACKNOWLEDGE" "/room" :: List.replicate (forwarders + 2) (.send 0) ++ [.init, .init, .init]

def joinedRoom : List ClientStep := created ++ connected ++ [.join, .run 0, .run 0, .run 0, .run 0] ++ acknowledged 0

def rejoined : List ClientStep :=
  [.lose 0, .run 0, .run 0, .change, .change, .change] ++ connected ++ [.change, .change, .change, .change]

end ClientRun

end PondSocket.Go.Client
