import PondSocket.Js.Middleware
import PondSocket.Js.Types
import PondSocket.Library.Places

namespace PondSocket.Js

open Library List
open Middleware (HttpError handleError)

-- upgraded: handed to the WebSocket server; written: answered over HTTP and destroyed;
-- left: nothing written, for the other listeners of the HTTP server.
inductive UpgradeOutcome where
  | upgraded (assigns : PondAssigns)
  | written (code : Nat) (message : String)
  | left

inductive HandlerState where
  | running
  | fulfilled
  | rejected
deriving DecidableEq

-- The context of an endpoint whose path matches, with the calls of its delegate and
-- with what its handler's promise has come to.
structure ConnectionContext where
  assigns : PondAssigns := .empty
  executed : Bool := false
  delegated : Nat := 0
  handler : HandlerState := .running

-- A handler may use its context at any time, also after it has returned.
inductive HandlerAction where
  | accept (assigns : Option PondAssigns)
  | decline (message : Option String) (errorCode : Option Nat)
  | assign (assigns : PondAssigns)
  | next (error : Option HttpError)
  | fulfil
  | reject (error : Middleware.Thrown)

-- An endpoint's parseAddress finds parameters or not, or throws.
structure UpgradeServer where
  endpoints : List (String → Except Middleware.Thrown Bool)
  exclusiveServer : Bool

structure Upgrade where
  address : String
  index : Nat := 0
  contexts : List ConnectionContext := []
  outcomes : List UpgradeOutcome := []

namespace Upgrade

def record (s : Upgrade) (outcome : UpgradeOutcome) : Upgrade := { s with outcomes := s.outcomes ++ [outcome] }

def put (s : Upgrade) (id : Nat) (context : ConnectionContext) : Upgrade := { s with contexts := s.contexts.set id context }

section

variable (server : UpgradeServer)

def answer (code : Nat) (message : String) : UpgradeOutcome :=
  .written (if code = 0 then 400 else code) (if message = "" then "Unauthorized connection" else message)

def final (error : Option HttpError) (s : Upgrade) : Upgrade :=
  match error with
  | some error => s.record (answer error.statusCode error.message)
  | none => s.record (if server.exclusiveServer then .written 404 "Not Found" else .left)

def nextFrom : List (String → Except Middleware.Thrown Bool) → Upgrade → Upgrade
  | [], s => final server none s
  | parseAddress :: rest, s =>
    match parseAddress s.address with
    | .error error => final server (some (handleError error)) { s with index := s.index + 1 }
    | .ok false => nextFrom rest { s with index := s.index + 1 }
    | .ok true => { s with index := s.index + 1, contexts := s.contexts ++ [{}] }

def next (error : Option HttpError) (s : Upgrade) : Upgrade :=
  match error with
  | some error => final server (some (handleError (.httpError error))) s
  | none => nextFrom server (server.endpoints.drop s.index) s

def handleUpgrade (address : String) : Upgrade := next server none { address := address }

-- On a context that has responded, assigns go to the connected user.
def assign (context : ConnectionContext) (assigns : PondAssigns) : ConnectionContext :=
  if context.executed then context else { context with assigns := context.assigns.merge assigns }

-- #performChecks throws at a second response.
def respond (s : Upgrade) (id : Nat) (context : ConnectionContext) (outcome : UpgradeOutcome) : Upgrade :=
  if context.executed then s else (s.put id { context with executed := true }).record outcome

def accept (s : Upgrade) (id : Nat) (context : ConnectionContext) (assigns : Option PondAssigns) : Upgrade :=
  let context := assigns.elim context (assign context)
  s.respond id context (.upgraded context.assigns)

def decline (s : Upgrade) (id : Nat) (context : ConnectionContext) (message : Option String) (errorCode : Option Nat) :
    Upgrade :=
  s.respond id context (answer (errorCode.getD 0) (message.getD ""))

def act (s : Upgrade) (id : Nat) (context : ConnectionContext) : HandlerAction → Upgrade
  | .accept assigns => s.accept id context assigns
  | .decline message errorCode => s.decline id context message errorCode
  | .assign assigns => s.put id (assign context assigns)
  | .next error =>
    next server error (s.put id { context with delegated := context.delegated + 1 })
  | .fulfil =>
    if context.handler ≠ .running then s
    else
      let context := { context with handler := .fulfilled }
      if context.delegated = 0 ∧ !context.executed then
        s.decline id context "Connection handler completed without accepting or declining the request" (some 500)
      else s.put id context
  -- A throw of the handler is caught by next, a rejection of its promise by the middleware.
  | .reject error =>
    if context.handler ≠ .running then s
    else final server (some (handleError error)) (s.put id { context with handler := .rejected })

def step (s : Upgrade) (label : Nat × HandlerAction) : Upgrade :=
  match s.contexts[label.1]? with
  | none => s
  | some context => s.act server label.1 context label.2

end

end Upgrade

-- How often the handler has answered, passed the request on or failed.
def ConnectionContext.uses (context : ConnectionContext) : Nat :=
  context.executed.toNat + context.delegated + (decide (context.handler = .rejected)).toNat

namespace Upgrade

def totalUses (contexts : List ConnectionContext) : Nat := (contexts.map ConnectionContext.uses).sum

-- Each pass of the request ends in an outcome or in a context; due passes have yet to end.
structure Balanced (server : UpgradeServer) (due : Nat) (s : Upgrade) : Prop where
  passes : s.outcomes.length + s.contexts.length + due = 1 + totalUses s.contexts
  used : ∀ context ∈ s.contexts, context.handler = .fulfilled → 1 ≤ context.uses
  shared : .left ∈ s.outcomes → server.exclusiveServer = false

variable {server : UpgradeServer} {s : Upgrade} {due id : Nat} {context : ConnectionContext}

theorem balanced_record {outcome : UpgradeOutcome} (balanced : s.Balanced server (due + 1))
    (shared : outcome = .left → server.exclusiveServer = false) : (s.record outcome).Balanced server due := by
  refine ⟨?_, balanced.used, ?_⟩
  · have passes := balanced.passes
    simp only [record, length_append, length_singleton]
    omega
  · intro left
    rcases mem_append.mp left with old | new
    · exact balanced.shared old
    · exact shared (mem_singleton.mp new).symm

theorem balanced_final (error : Option HttpError) (balanced : s.Balanced server (due + 1)) :
    (final server error s).Balanced server due := by
  cases error with
  | some => exact balanced_record balanced fun left => by cases left
  | none =>
    refine balanced_record balanced fun left => ?_
    split at left
    · cases left
    · rename_i shared
      simpa using shared

theorem balanced_next (error : Option HttpError) (balanced : s.Balanced server (due + 1)) :
    (next server error s).Balanced server due := by
  cases error with
  | some error => exact balanced_final (some error) balanced
  | none =>
    rw [next]
    generalize server.endpoints.drop s.index = rest
    induction rest generalizing s with
    | nil => exact balanced_final none balanced
    | cons parseAddress rest ih =>
      have skipped : Balanced server (due + 1) { s with index := s.index + 1 } :=
        ⟨balanced.passes, balanced.used, balanced.shared⟩
      rw [nextFrom]
      split
      · exact balanced_final _ skipped
      · exact ih skipped
      · refine ⟨?_, ?_, balanced.shared⟩
        · have passes := balanced.passes
          have fresh : ({} : ConnectionContext).uses = 0 := rfl
          simp only [totalUses, map_append, sum_append, map_singleton, sum_singleton, fresh, length_append, length_singleton]
          rw [totalUses] at passes
          omega
        · intro context member fulfilled
          rcases mem_append.mp member with old | new
          · exact balanced.used context old fulfilled
          · obtain rfl := mem_singleton.mp new
            cases fulfilled

theorem balanced_put {new : ConnectionContext} (more : Nat) (there : s.contexts[id]? = some context)
    (balanced : s.Balanced server due) (uses : new.uses = context.uses + more)
    (used : new.handler = .fulfilled → 1 ≤ new.uses) : (s.put id new).Balanced server (due + more) := by
  obtain ⟨whole, _, replaced⟩ := split_place s.contexts id context there
  refine ⟨?_, ?_, balanced.shared⟩
  · have passes := balanced.passes
    have before : totalUses s.contexts = totalUses (s.contexts.take id) + (context.uses + totalUses (s.contexts.drop (id + 1))) := by
      conv => lhs; rw [whole]
      simp [totalUses]
    have after : totalUses (s.contexts.set id new) =
        totalUses (s.contexts.take id) + (new.uses + totalUses (s.contexts.drop (id + 1))) := by
      rw [replaced new]
      simp [totalUses]
    simp only [put, length_set, after]
    omega
  · intro other member fulfilled
    rcases mem_or_eq_of_mem_set member with old | rfl
    · exact balanced.used other old fulfilled
    · exact used fulfilled

theorem balanced_respond {new : ConnectionContext} {outcome : UpgradeOutcome} (answered : outcome ≠ .left) (there : s.contexts[id]? = some context)
    (balanced : s.Balanced server due) (uses : new.uses = context.uses) :
    (s.respond id new outcome).Balanced server due := by
  rw [respond]
  split
  · exact balanced
  · rename_i fresh
    have once : ({ new with executed := true } : ConnectionContext).uses = context.uses + 1 := by
      rw [← uses]
      simp [ConnectionContext.uses, fresh]
      omega
    exact balanced_record (balanced_put 1 there balanced once fun _ => once ▸ Nat.le_add_left _ _) fun left =>
      absurd left answered

theorem uses_assign (context : ConnectionContext) (assigns : PondAssigns) :
    (assign context assigns).uses = context.uses ∧ (assign context assigns).handler = context.handler := by
  rw [assign]
  split
  · exact ⟨rfl, rfl⟩
  · exact ⟨rfl, rfl⟩

theorem balanced_act (action : HandlerAction) (there : s.contexts[id]? = some context)
    (balanced : s.Balanced server 0) :
    (s.act server id context action).Balanced server 0 := by
  have own := balanced.used context (mem_of_getElem? there)
  cases action with
  | accept assigns =>
    refine balanced_respond (by simp) there balanced ?_
    cases assigns with
    | none => rfl
    | some assigns => exact (uses_assign context assigns).1
  | decline message errorCode => exact balanced_respond (by simp [answer]) there balanced rfl
  | assign assigns =>
    obtain ⟨uses, handler⟩ := uses_assign context assigns
    exact balanced_put 0 there balanced uses (uses ▸ handler ▸ own)
  | next error =>
    refine balanced_next error (balanced_put 1 there balanced ?_ fun _ => ?_)
    all_goals
      simp only [ConnectionContext.uses]
      omega
  | fulfil =>
    simp only [act]
    split
    · exact balanced
    · rename_i running
      have same : ({ context with handler := .fulfilled } : ConnectionContext).uses = context.uses := by
        simp [ConnectionContext.uses, not_not.mp running]
      split
      · exact balanced_respond (by simp [answer]) there balanced same
      · rename_i acted
        refine balanced_put 0 there balanced same fun _ => ?_
        simp only [ConnectionContext.uses]
        cases executed : context.executed with
        | true => simp
        | false =>
          simp only [executed, Bool.not_false, and_true] at acted
          omega
  | reject error =>
    simp only [act]
    split
    · exact balanced
    · rename_i running
      have more : ({ context with handler := .rejected } : ConnectionContext).uses = context.uses + 1 := by
        simp [ConnectionContext.uses, not_not.mp running]
      exact balanced_final _ (balanced_put 1 there balanced more fun _ => more ▸ Nat.le_add_left _ _)

theorem balanced_run (address : String) (labels : List (Nat × HandlerAction)) :
    (run (step server) (handleUpgrade server address) labels).Balanced server 0 := by
  refine run_keeps _ (fun _ _ => True) (Balanced server 0) (fun s label balanced _ => ?_) _ labels
    (balanced_next none ⟨rfl, by simp, by simp⟩) (follows_all _ _ _ labels fun _ _ => trivial)
  rw [step]
  split
  · exact balanced
  · rename_i there
    exact balanced_act label.2 there balanced

theorem uses_least (contexts : List ConnectionContext) (least : ∀ context ∈ contexts, 1 ≤ context.uses) :
    contexts.length ≤ totalUses contexts ∧
      (totalUses contexts = contexts.length ↔ ∀ context ∈ contexts, context.uses = 1) := by
  induction contexts with
  | nil => simp [totalUses]
  | cons context rest ih =>
    obtain ⟨first, least⟩ := forall_mem_cons.mp least
    obtain ⟨enough, exact⟩ := ih least
    simp only [totalUses, map_cons, sum_cons, length_cons, forall_mem_cons] at enough exact ⊢
    rw [← exact]
    omega

-- Once its handlers have settled, a request for an upgrade has come to an end, and to one
-- only if each of them has answered, passed it on or failed just once.
theorem upgrade_ends (server : UpgradeServer) (address : String) (labels : List (Nat × HandlerAction))
    (settled : ∀ context ∈ (run (step server) (handleUpgrade server address) labels).contexts, context.handler ≠ .running) :
    let s := run (step server) (handleUpgrade server address) labels
    1 ≤ s.outcomes.length ∧ (s.outcomes.length = 1 ↔ ∀ context ∈ s.contexts, context.uses = 1) ∧
      (.left ∈ s.outcomes → server.exclusiveServer = false) := by
  intro s
  have balanced : s.Balanced server 0 := balanced_run address labels
  have least : ∀ context ∈ s.contexts, 1 ≤ context.uses := by
    intro context member
    cases handler : context.handler with
    | running => exact absurd handler (settled context member)
    | fulfilled => exact balanced.used context member handler
    | rejected => simp [ConnectionContext.uses, handler]
  obtain ⟨enough, exact⟩ := uses_least s.contexts least
  have passes := balanced.passes
  rw [← exact]
  exact ⟨by omega, by omega, balanced.shared⟩

def twoEndpoints : UpgradeServer := ⟨[fun _ => .ok true, fun _ => .ok true], true⟩

def passedOn : List (Nat × HandlerAction) := [(0, .next none), (1, .accept none), (0, .fulfil), (1, .fulfil)]

theorem upgrade_ends_two :
    let s := run (step twoEndpoints) (handleUpgrade twoEndpoints "/chat") passedOn
    1 ≤ s.outcomes.length ∧ (s.outcomes.length = 1 ↔ ∀ context ∈ s.contexts, context.uses = 1) ∧
      (.left ∈ s.outcomes → twoEndpoints.exclusiveServer = false) :=
  upgrade_ends twoEndpoints "/chat" passedOn (by decide)

end Upgrade

end PondSocket.Js
