import PondSocket.Go.JoinContext
import PondSocket.Go.Membership

namespace PondSocket.Go

open Library List OrderedMap Option Store JoinEndpoint Handling JoinContext
open Js (Json UserId NodeId)

variable {userId : UserId}

variable {user : Transport}

namespace Channel

variable (channel : Channel)

structure Takes (channel : Channel) (user : Transport) : Prop where
  running : channel.done = false
  lasts : user.serial ∉ channel.closed
  expired : ∀ membership, channel.memberships.store.get? user.id = some membership → channel.active membership = false
  absent : channel.memberships.store.get? user.id = none →
    channel.store.has user.id = false ∧ channel.connections.has user.id = false

theorem create_takes (newcomer : channel.memberships.store.get? user.id = none) :
    (channel.createUser user).2 = none ↔ channel.done = false ∧ user.serial ∉ channel.closed ∧
      channel.store.has user.id = false ∧ channel.connections.has user.id = false := by
  have fresh : (channel.newChannelMembership user).active channel.issued.length = true ↔
      channel.done = false ∧ user.serial ∉ channel.closed := by
    simp only [active, newChannelMembership, getElem?_concat_length, isNone_none, Bool.and_true,
      Bool.and_eq_true, Bool.not_eq_true', contains_eq_mem, decide_eq_false_iff_not]
  have noMembership : (channel.newChannelMembership user).memberships.has user.id = false :=
    has_false_iff.mpr newcomer
  simp only [createUser]
  by_cases idle : (channel.newChannelMembership user).active channel.issued.length = false
  · rw [if_pos idle]
    refine iff_of_false (fun contra => by cases contra) ?_
    rintro ⟨running, lasts, _⟩
    rw [fresh.mpr ⟨running, lasts⟩] at idle
    cases idle
  rw [if_neg idle]
  obtain ⟨running, lasts⟩ := fresh.mp (Bool.not_eq_false _ ▸ idle)
  cases stored : channel.store.has user.id with
  | true =>
    have clash : (channel.newChannelMembership user).store.create user.id (user.assigns.getD .empty) = .error .conflict :=
      if_pos stored
    rw [clash]
    exact iff_of_false (fun contra => by cases contra) (fun both => Bool.noConfusion both.2.2.1)
  | false =>
    have noStore : (channel.newChannelMembership user).store.has user.id = false := stored
    rw [create_absent _ noStore]
    cases connected : channel.connections.has user.id with
    | true =>
      have clash : (channel.newChannelMembership user).connections.create user.id user = .error .conflict :=
        if_pos connected
      rw [clash]
      exact iff_of_false (fun contra => by cases contra) (fun both => Bool.noConfusion both.2.2.2)
    | false =>
      have noConnection : (channel.newChannelMembership user).connections.has user.id = false := connected
      rw [create_absent _ noConnection]
      rw [create_absent _ noMembership]
      exact iff_of_true rfl ⟨running, lasts, rfl, rfl⟩

theorem add_user_takes (user : Transport) :
    (channel.addUser user).2 = none ↔ channel.Takes user := by
  simp only [addUser, checkState]
  cases running : channel.done with
  | true => exact iff_of_false (fun contra => by cases contra) (fun takes => Bool.noConfusion (running.symm.trans takes.running))
  | false =>
    simp only [Bool.false_eq_true, if_false, Store.read]
    cases held : channel.memberships.store.get? user.id with
    | none =>
      rw [create_takes channel held]
      constructor
      · intro all
        obtain ⟨_, lasts, stored, connected⟩ := all
        refine ⟨running, lasts, ?_, fun _ => ⟨stored, connected⟩⟩
        intro membership same
        rw [held] at same
        cases same
      · intro takes
        obtain ⟨stored, connected⟩ := takes.absent held
        exact ⟨running, takes.lasts, stored, connected⟩
    | some existing =>
      dsimp only
      by_cases alive : channel.active existing = true
      · rw [if_pos alive]
        refine iff_of_false (fun contra => by cases contra) ?_
        intro takes
        rw [takes.expired existing held] at alive
        cases alive
      rw [if_neg alive]
      have gone := remove_gone channel user.id (channel.reason existing) false
      have dropped : (channel.removeUserLocalWithDestroy user.id (channel.reason existing) false).memberships.store.get?
          user.id = none := by
        rw [gone.memberships, drop_store, get_delete_same]
      have noStore : (channel.removeUserLocalWithDestroy user.id (channel.reason existing) false).store.has user.id =
          false := by
        rw [gone.store, Bool.eq_false_iff, Ne, has_drop]
        exact fun both => both.1 rfl
      have noConnection : (channel.removeUserLocalWithDestroy user.id (channel.reason existing) false).connections.has
          user.id = false := by
        rw [gone.connections, Bool.eq_false_iff, Ne, has_drop]
        exact fun both => both.1 rfl
      have closed : (channel.removeUserLocalWithDestroy user.id (channel.reason existing) false).closed =
          channel.closed := by
        rw [gone.rest]
      have done : (channel.removeUserLocalWithDestroy user.id (channel.reason existing) false).done =
          channel.done := by
        rw [gone.rest]
      rw [create_takes _ dropped, closed, done]
      constructor
      · intro all
        refine ⟨running, all.2.1, ?_, ?_⟩
        · intro membership same
          rw [held] at same
          rw [← some.inj same]
          exact Bool.eq_false_iff.mpr alive
        intro same
        rw [held] at same
        cases same
      · exact fun takes => ⟨running, takes.lasts, noStore, noConnection⟩

def Finds (channel : Channel) (userId : UserId) (remote : Bool) : Prop :=
  channel.done = false ∧ (channel.store.has userId = true ∨ channel.distributed = true ∧ remote = true)

def Assignable (channel : Channel) (userId : UserId) : Prop :=
  channel.done = false ∧ (channel.store.has userId = true ∨ channel.distributed = true)

def Trackable (channel : Channel) (userId : UserId) : Prop :=
  channel.done = false ∧ channel.presence.has userId = false ∧
    ∃ membership, channel.memberships.store.get? userId = some membership ∧ channel.active membership = true

theorem check_state_none : channel.checkState = none ↔ channel.done = false := by
  simp only [checkState]
  cases channel.done with
  | true => exact iff_of_false (fun contra => by cases contra) (fun contra => by cases contra)
  | false => exact iff_of_true rfl rfl

theorem get_user_finds {remote : Bool} : channel.getUser userId remote = none ↔ channel.Finds userId remote := by
  simp only [getUser, Finds, checkState]
  cases channel.done with
  | true => exact iff_of_false (fun contra => by cases contra) (fun contra => by cases contra.1)
  | false =>
    simp only [Bool.false_eq_true, if_false, true_and, getUserUnsafe, Store.read]
    cases held : channel.store.store.get? userId with
    | some assigns => exact iff_of_true rfl (.inl (has_iff.mpr ⟨assigns, held⟩))
    | none =>
      have missing : channel.store.has userId = false := has_false_iff.mpr held
      rw [missing]
      cases channel.distributed <;> cases remote <;> simp

theorem update_assigns_done {key : String} {value : Json} :
    ((channel.updateAssigns userId key value).2 = none ↔ channel.Assignable userId) ∧
      ∀ query, (channel.updateAssigns userId key value).1.Assignable query ↔ channel.Assignable query := by
  simp only [updateAssigns, Assignable, checkState]
  cases running : channel.done with
  | true =>
    simp only [if_true]
    refine ⟨iff_of_false (fun contra => by cases contra) (fun contra => by cases contra.1), fun _ => ?_⟩
    rw [running]
  | false =>
    simp only [Bool.false_eq_true, if_false, true_and, Store.read]
    cases held : channel.store.store.get? userId with
    | none =>
      have missing : channel.store.has userId = false := has_false_iff.mpr held
      refine ⟨?_, fun _ => ?_⟩
      · rw [missing]
        cases channel.distributed <;> simp
      · rw [running]
        simp
    | some assigns =>
      have present : channel.store.has userId = true := has_iff.mpr ⟨assigns, held⟩
      simp only [Store.update, present, if_true]
      refine ⟨iff_of_true trivial (.inl trivial), fun query => ?_⟩
      have keys : (Store.mk (channel.store.store.set userId (assigns.set key value))).has query = true ↔
          channel.store.has query = true := by
        rw [has_created]
        refine ⟨fun either => ?_, .inr⟩
        rcases either with rfl | before
        · exact present
        · exact before
      rw [keys]
      simp

theorem track_trackable {presence : Json} :
    (channel.trackConnectedUser userId presence).2 = none ↔ channel.Trackable userId := by
  simp only [trackConnectedUser, Trackable, checkState]
  cases channel.done with
  | true => exact iff_of_false (fun contra => by cases contra) (fun contra => by cases contra.1)
  | false =>
    simp only [Bool.false_eq_true, if_false, true_and, Store.read]
    cases held : channel.memberships.store.get? userId with
    | none =>
      refine iff_of_false (fun contra => by cases contra) ?_
      rintro ⟨_, membership, same, _⟩
      cases same
    | some membership =>
      dsimp only
      by_cases idle : channel.active membership = false
      · rw [if_pos idle]
        refine iff_of_false (fun contra => by cases contra) ?_
        rintro ⟨_, _, same, alive⟩
        rw [← some.inj same, idle] at alive
        cases alive
      rw [if_neg idle]
      have alive : channel.active membership = true := Bool.not_eq_false _ ▸ idle
      cases tracked : channel.presence.has userId with
      | true =>
        have clash : channel.presence.create userId presence = .error .conflict := if_pos tracked
        rw [clash]
        exact iff_of_false (fun contra => by cases contra) (fun both => Bool.noConfusion both.1)
      | false =>
        rw [create_absent _ tracked]
        exact iff_of_true rfl ⟨rfl, membership, rfl, alive⟩

end Channel

def JoinCall.touches : JoinCall → Bool
  | .setAssigns _ _ | .assigns (some _) | .getAssign _ | .getUser _ | .view => false
  | _ => true

variable {said : JoinCall} {told : List JoinReply} {joined : Bool}

namespace JoinContext

variable (context : JoinContext)

def Succeeds (context : JoinContext) (channel : Channel) : JoinCall → Prop
  | .accept _ _ => False
  | .decline _ _ => True
  | .reply _ _ _ | .broadcast _ _ | .broadcastTo _ _ _ => context.accepted = true ∧ channel.done = false
  | .setAssigns _ _ => context.accepted = true → channel.Assignable context.conn.id
  | .assigns none => False
  | .assigns (some rows) => context.accepted = true → rows = [] ∨ channel.Assignable context.conn.id
  | .getAssign _ => context.accepted = true → channel.done = false
  | .broadcastFrom _ _ remote =>
    context.accepted = true ∧ context.conn.id ≠ channelEntity ∧ channel.Finds context.conn.id remote
  | .track _ => context.accepted = true ∧ channel.Trackable context.conn.id
  | .getUser remote => context.accepted = true → channel.Finds context.conn.id remote
  | .view => True

-- An event that is queued for the own connection, and gets there.
def hears (context : JoinContext) (channel : Channel) (fate : Fate) : Bool :=
  channel.connections.has context.conn.id && fate.delivers channel context.conn

-- A reply of the handler may carry the name of a terminal event.
def utters (context : JoinContext) (channel : Channel) : JoinCall → List String
  | .reply event _ fate => if context.hears channel fate && terminalEvents.contains event then [event] else []
  | _ => []

-- After the answer: every call succeeds, no error is returned, and of the terminal
-- events the connection has heard the answer only.
def Keeps (answer : String) : JoinContext → List String → List JoinStep → Option HandlerError → Prop
  | _, heard, [], returned => returned = none ∧ heard = [answer]
  | context, heard, .others change expires :: rest, returned =>
    Keeps answer (context.step (.others change expires)).1 heard rest returned
  | context, heard, .call said :: rest, returned =>
    context.expired = false ∧ ∃ channel, context.channel = some channel ∧ context.Succeeds channel said ∧
      Keeps answer (context.step (.call said)).1 (heard ++ context.utters channel said) rest returned

-- Until the answer: nothing can go wrong once there is an error or the deadline has
-- passed, an accept that is refused is such an error, and without a channel the
-- handler must not touch it and must fail.
def Sound : JoinContext → List JoinStep → Option HandlerError → Prop
  | context, [], returned =>
    context.channel.isSome = true ∨ returned.isSome = true ∨ context.err.isSome = true ∨ context.expired = true
  | context, .others change expires :: rest, returned => Sound (context.step (.others change expires)).1 rest returned
  | context, .call said :: rest, returned =>
    context.err.isSome = true ∨ context.expired = true ∨
      match context.channel with
      | none => said.touches = false ∧ Sound (context.step (.call said)).1 rest returned
      | some channel =>
        match said with
        | .accept joining fate =>
          channel.Takes context.conn →
            (joining (channel.addUser context.conn).1).done = false ∧
              Keeps "ACKNOWLEDGE" (context.step (.call said)).1
                (if context.hears (joining (channel.addUser context.conn).1) fate then ["ACKNOWLEDGE"] else [])
                rest returned
        | .decline _ _ => Keeps "UNAUTHORIZED" (context.step (.call said)).1 ["UNAUTHORIZED"] rest returned
        | _ => Sound (context.step (.call said)).1 rest returned

theorem check_stuck (stuck : context.err.isSome = true) :
    context.checkStateAndContext = (context, true) := by
  simp [checkStateAndContext, stuck]

theorem check_late (fine : context.err = none) (late : context.expired = true) :
    context.checkStateAndContext = ({ context with err := some .contextDone }, true) := by
  simp [checkStateAndContext, fine, late]

theorem check_running (fine : context.err = none) (timely : context.expired = false) :
    context.checkStateAndContext = (context, false) := by
  simp [checkStateAndContext, fine, timely]

theorem call_stopped (stopped : context.checkStateAndContext.2 = true) :
    (context.call said).1 = context.checkStateAndContext.1 := by
  cases said with
  | view => rfl
  | _ =>
    simp [call, decline, accept, setAssigns, assigns, getAssign, getUser, reply, broadcast, broadcastTo, broadcastFrom,
      track, whenAccepted, stopped]

structure Stuck (context : JoinContext) (joined : Bool) (told : List JoinReply) : Prop where
  failed : context.err.isSome = true
  runs : context.panicked = false
  joined : context.joined = joined
  told : context.told = told

theorem stuck_makes (steps : List JoinStep) (joined : Bool) (told : List JoinReply)
    (stuck : context.Stuck joined told) : (context.makes steps).Stuck joined told := by
  induction steps generalizing context with
  | nil => exact stuck
  | cons next _ ih =>
    apply ih
    cases next with
    | others =>
      simp only [step, stuck.runs, Bool.false_eq_true, if_false]
      exact ⟨stuck.failed, rfl, stuck.joined, stuck.told⟩
    | call =>
      have halted := check_stuck context stuck.failed
      simp only [step, stuck.runs, Bool.false_eq_true, if_false]
      rw [call_stopped context (by rw [halted]), halted]
      exact stuck

theorem stuck_finish (returned : Option HandlerError) (stuck : context.Stuck joined told) :
    ∃ error, context.finish returned = ⟨told, joined, some error⟩ := by
  simp only [finish, stuck.runs, Bool.false_eq_true, if_false, stuck.failed, if_true, stuck.joined, stuck.told]
  cases returned with
  | some error => exact ⟨error, rfl⟩
  | none => exact ⟨_, rfl⟩

end JoinContext

def Handling.settle (handling : Handling) (request : JoinRequest) : Handling :=
  match handling.error with
  | some error => { handling with told := handling.told ++ [JoinEndpoint.internalError request error] }
  | none => handling

variable {request : JoinRequest}

namespace Handling

theorem answered_failed {error : HandlerError} :
    (settle ⟨told, joined, some error⟩ request).Answered request.requestId ↔
      joined = false ∧ told.filter (fun reply => terminalEvents.contains reply.event) = [] := by
  have named : (internalError request error).event = "INTERNAL_ERROR" := rfl
  have listed : terminalEvents.contains (internalError request error).event = true := by
    rw [named]
    decide
  have other : (internalError request error).event ≠ "ACKNOWLEDGE" := by
    rw [named]
    decide
  simp only [settle, Answered, filter_append, filter_cons, listed, if_true, filter_nil]
  constructor
  · rintro ⟨reply, single, _, exactly⟩
    have empty : told.filter (fun reply => terminalEvents.contains reply.event) = [] := by
      apply eq_nil_of_length_eq_zero
      have count := congrArg List.length single
      simp only [length_append, length_singleton] at count
      omega
    rw [empty] at single
    have same : internalError request error = reply := (cons.inj single).1
    refine ⟨?_, empty⟩
    cases joined with
    | false => rfl
    | true =>
      have acknowledged := exactly.mpr rfl
      rw [← same] at acknowledged
      exact absurd acknowledged other
  · rintro ⟨absent, empty⟩
    rw [empty]
    refine ⟨_, rfl, rfl, ?_⟩
    rw [absent]
    exact iff_of_false other (fun contra => by cases contra)

theorem answered_quiet (mine : ∀ reply ∈ told, reply.requestId = request.requestId) :
    (settle ⟨told, joined, none⟩ request).Answered request.requestId ↔
      ∃ event, (told.filter fun reply => terminalEvents.contains reply.event).map JoinReply.event = [event] ∧
        (event = "ACKNOWLEDGE" ↔ joined = true) := by
  simp only [settle, Answered]
  constructor
  · rintro ⟨reply, single, _, exactly⟩
    exact ⟨reply.event, by rw [single]; rfl, exactly⟩
  · rintro ⟨event, single, exactly⟩
    obtain ⟨reply, _, filtered, named, empty⟩ := map_eq_cons_iff.mp single
    rw [map_eq_nil_iff] at empty
    subst empty
    have member : reply ∈ told.filter fun reply => terminalEvents.contains reply.event := by
      rw [filtered]
      exact mem_singleton_self reply
    refine ⟨reply, filtered, mine reply (mem_filter.mp member).1, ?_⟩
    rw [named]
    exact exactly

end Handling

namespace JoinContext

variable (context : JoinContext) (channel : Channel) (steps : List JoinStep)

structure Mild (context next : JoinContext) (ok : Prop) : Prop where
  err : next.err = none ↔ ok
  channel : next.channel.isSome = context.channel.isSome
  hasResponded : next.hasResponded = context.hasResponded
  accepted : next.accepted = context.accepted
  panicked : next.panicked = context.panicked
  joined : next.joined = context.joined
  requestId : next.requestId = context.requestId
  told : next.told = context.told
  id : next.conn.id = context.conn.id
  expired : next.expired = context.expired

variable {ok : Prop}

theorem mild_same (fine : context.err = none) (holds : ok) : context.Mild context ok :=
  ⟨iff_of_true fine holds, rfl, rfl, rfl, rfl, rfl, rfl, rfl, rfl, rfl⟩

theorem mild_fail {failure : JoinFailure} (fails : ¬ ok) : context.Mild (context.fail failure) ok :=
  ⟨iff_of_false (fun contra => by cases contra) fails, rfl, rfl, rfl, rfl, rfl, rfl, rfl, rfl, rfl⟩

variable {failure : Option Failure} {failed : String}

theorem mild_wrapping (fine : context.err = none) (exactly : failure = none ↔ ok) :
    context.Mild (context.wrapping failed failure) ok := by
  cases failure with
  | none => exact mild_same context fine (exactly.mp rfl)
  | some => exact mild_fail context (fun holds => by cases exactly.mpr holds)

theorem mild_updated {before next : Channel} (there : context.channel = some before) (fine : context.err = none)
    (exactly : failure = none ↔ ok) :
    context.Mild ({ context with channel := some next }.wrapping failed failure) ok := by
  have wrapped : Mild { context with channel := some next } ({ context with channel := some next }.wrapping failed failure)
    ok := mild_wrapping _ fine exactly
  have kept : some next = context.channel.map fun _ => next := by
    rw [there]
    rfl
  exact { wrapped with channel := wrapped.channel.trans (by rw [kept, isSome_map]) }

theorem set_assigns_early (key : String) (value : Json) (fine : context.err = none)
    (timely : context.expired = false) (early : context.accepted = false) :
    context.Mild (context.setAssigns key value) True := by
  have unaccepted : ¬ context.accepted = true := Bool.eq_false_iff.mp early
  simp only [setAssigns, check_running context fine timely, Bool.false_eq_true, if_false]
  rw [if_neg unaccepted]
  exact ⟨iff_of_true fine trivial, rfl, rfl, rfl, rfl, rfl, rfl, rfl, rfl, rfl⟩

variable {next : JoinContext}

theorem mild_iff {context : JoinContext} {other : Prop} (mild : context.Mild next ok) (same : ok ↔ other) :
    context.Mild next other :=
  { mild with err := mild.err.trans same }

theorem mild_trans {context middle : JoinContext} (first : context.Mild middle True) (second : middle.Mild next ok) :
    context.Mild next ok :=
  ⟨second.err, second.channel.trans first.channel, second.hasResponded.trans first.hasResponded,
    second.accepted.trans first.accepted, second.panicked.trans first.panicked, second.joined.trans first.joined,
    second.requestId.trans first.requestId, second.told.trans first.told, second.id.trans first.id,
    second.expired.trans first.expired⟩

theorem fold_assigns_early (rows : List (String × Json)) (context : JoinContext) (fine : context.err = none)
    (timely : context.expired = false) (early : context.accepted = false) :
    context.Mild (rows.foldl (fun context row => context.setAssigns row.1 row.2) context) True := by
  induction rows generalizing context with
  | nil => exact mild_same context fine trivial
  | cons row _ ih =>
    have first := set_assigns_early context row.1 row.2 fine timely early
    exact mild_trans first (ih _ (first.err.mpr trivial) (first.expired.trans timely) (first.accepted.trans early))

variable {body : Channel → JoinContext} {refusal : String}

theorem when_early (fine : context.err = none) (timely : context.expired = false) (early : context.accepted = false)
    (there : context.channel.isSome = true) (fails : ¬ ok) : context.Mild (context.whenAccepted refusal body) ok := by
  obtain ⟨_, held⟩ := isSome_iff_exists.mp there
  simp only [whenAccepted, check_running context fine timely, Bool.false_eq_true, if_false, within, held, early]
  exact mild_fail context fails

def answers : JoinCall → Bool
  | .accept _ _ | .decline _ _ => true
  | _ => false

theorem call_early (fine : context.err = none) (timely : context.expired = false) (early : context.accepted = false)
    (other : answers said = false) (there : said.touches = false ∨ context.channel.isSome = true) :
    context.Mild (context.call said).1 (context.Succeeds channel said) := by
  have refused : ∀ more : Prop, ¬ (context.accepted = true ∧ more) := by
    intro more both
    rw [early] at both
    cases both.1
  have idle : ∀ more : Prop, context.accepted = true → more := by
    intro more contra
    rw [early] at contra
    cases contra
  have present : said.touches = true → context.channel.isSome = true := by
    intro touches
    refine there.resolve_left ?_
    rw [touches]
    exact fun contra => by cases contra
  cases said with
  | accept | decline => cases other
  | setAssigns key value =>
    have first := set_assigns_early context key value fine timely early
    exact mild_trans first (mild_same _ (first.err.mpr trivial) (idle _))
  | assigns given =>
    simp only [call, assigns, check_running context fine timely, Bool.false_eq_true, if_false]
    cases given with
    | none =>
      obtain ⟨_, same⟩ := isSome_iff_exists.mp (present rfl)
      simp only [within, same]
      exact mild_fail context id
    | some rows =>
      have first := fold_assigns_early rows context fine timely early
      exact mild_trans first (mild_same _ (first.err.mpr trivial) (idle _))
  | getAssign | getUser =>
    simp only [call, getAssign, getUser, check_running context fine timely, Bool.false_eq_true, if_false, early]
    exact mild_same context fine (idle _)
  | view =>
    simp only [call, view, check_running context fine timely]
    exact mild_same context fine trivial
  | _ => exact when_early context fine timely early (present rfl) (refused _)

theorem set_assigns_accepted {key : String} {value : Json}
    (fine : context.err = none) (timely : context.expired = false) (accepted : context.accepted = true)
    (there : context.channel = some channel) :
    context.Mild (context.setAssigns key value) (channel.Assignable context.conn.id) ∧
      (context.setAssigns key value).channel = some (channel.updateAssigns context.conn.id key value).1 := by
  simp only [setAssigns, check_running context fine timely, Bool.false_eq_true, if_false]
  rw [if_pos accepted]
  simp only [within, there]
  refine ⟨mild_updated context there fine channel.update_assigns_done.1, ?_⟩
  cases (channel.updateAssigns context.conn.id key value).2 with
  | none | some => rfl

theorem set_assigns_stuck {rows : List (String × Json)} {context : JoinContext} (stuck : context.err.isSome = true) :
    rows.foldl (fun context row => context.setAssigns row.1 row.2) context = context := by
  induction rows with
  | nil => rfl
  | cons row _ ih =>
    rw [foldl_cons]
    have same : context.setAssigns row.1 row.2 = context := by
      simp [setAssigns, check_stuck context stuck]
    rw [same]
    exact ih

theorem fold_assigns_accepted (rows : List (String × Json)) (context : JoinContext) (channel : Channel)
    (fine : context.err = none) (timely : context.expired = false) (accepted : context.accepted = true)
    (there : context.channel = some channel) :
    context.Mild (rows.foldl (fun context row => context.setAssigns row.1 row.2) context)
      (rows = [] ∨ channel.Assignable context.conn.id) := by
  induction rows generalizing context channel with
  | nil => exact mild_same context fine (.inl rfl)
  | cons row _ ih =>
    obtain ⟨first, next⟩ := set_assigns_accepted context channel fine timely accepted there
    rw [foldl_cons]
    by_cases assignable : channel.Assignable context.conn.id
    · have clear := first.err.mpr assignable
      have later := ih _ _ clear (first.expired.trans timely) (first.accepted.trans accepted) next
      have stays : (channel.updateAssigns context.conn.id row.1 row.2).1.Assignable
          (context.setAssigns row.1 row.2).conn.id := by
        rw [first.id]
        exact (channel.update_assigns_done.2 context.conn.id).mpr assignable
      refine mild_trans (mild_iff first (iff_of_true assignable trivial)) (mild_iff later ?_)
      exact iff_of_true (.inr stays) (.inr assignable)
    · have stuck : (context.setAssigns row.1 row.2).err.isSome = true := by
        rw [← ne_none_iff_isSome]
        exact fun clear => assignable (first.err.mp clear)
      rw [set_assigns_stuck stuck]
      refine mild_iff first (iff_of_false assignable ?_)
      intro either
      cases either with
      | inl empty => cases empty
      | inr able => exact assignable able

theorem when_accepted {channel : Channel} (fine : context.err = none) (timely : context.expired = false)
    (accepted : context.accepted = true) (there : context.channel = some channel) :
    context.whenAccepted refusal body = body channel := by
  simp only [whenAccepted, check_running context fine timely, Bool.false_eq_true, if_false, within, there]
  rw [if_pos accepted]

theorem broadcast_from_failure {remote : Bool} :
    (match channel.checkState with
      | some failure => some failure
      | none => if userId = channelEntity then some .badRequest else channel.getUser userId remote) = none ↔
      userId ≠ channelEntity ∧ channel.Finds userId remote := by
  cases check : channel.checkState with
  | some =>
    refine iff_of_false (fun contra => by cases contra) ?_
    intro both
    rw [channel.check_state_none.mpr both.2.1] at check
    cases check
  | none =>
    by_cases own : userId = channelEntity
    · rw [if_pos own]
      exact iff_of_false (fun contra => by cases contra) (fun both => both.1 own)
    · rw [if_neg own, channel.get_user_finds]
      exact ⟨fun found => ⟨own, found⟩, And.right⟩

theorem call_accepted (fine : context.err = none) (timely : context.expired = false)
    (accepted : context.accepted = true) (there : context.channel = some channel) (other : answers said = false)
    (silent : ∀ event payload fate, said ≠ .reply event payload fate) :
    context.Mild (context.call said).1 (context.Succeeds channel said) := by
  have running : channel.checkState = none ↔ context.accepted = true ∧ channel.done = false := by
    rw [channel.check_state_none]
    exact ⟨fun runs => ⟨accepted, runs⟩, And.right⟩
  have given : ∀ more : Prop, more ↔ (context.accepted = true → more) :=
    fun more => ⟨fun holds _ => holds, fun holds => holds accepted⟩
  cases said with
  | accept | decline => cases other
  | reply event payload fate => exact absurd rfl (silent event payload fate)
  | broadcast | broadcastTo =>
    simp only [call, broadcast, broadcastTo, when_accepted context fine timely accepted there]
    exact mild_wrapping context fine running
  | broadcastFrom =>
    simp only [call, broadcastFrom, when_accepted context fine timely accepted there]
    refine mild_wrapping context fine ((broadcast_from_failure channel).trans ?_)
    exact ⟨fun both => ⟨accepted, both⟩, And.right⟩
  | track =>
    simp only [call, track, when_accepted context fine timely accepted there]
    refine mild_updated context there fine (channel.track_trackable.trans ?_)
    exact ⟨fun able => ⟨accepted, able⟩, And.right⟩
  | setAssigns =>
    obtain ⟨first, _⟩ := set_assigns_accepted context channel fine timely accepted there
    exact mild_iff first (given _)
  | assigns rows =>
    simp only [call, assigns, check_running context fine timely, Bool.false_eq_true, if_false]
    cases rows with
    | none =>
      simp only [within, there]
      exact mild_fail context id
    | some rows =>
      exact mild_iff (fold_assigns_accepted rows context channel fine timely accepted there) (given _)
  | getAssign =>
    simp only [call, getAssign, check_running context fine timely, Bool.false_eq_true, if_false]
    rw [if_pos accepted]
    simp only [within, there]
    exact mild_wrapping context fine (channel.check_state_none.trans (given _))
  | getUser =>
    simp only [call, getUser, check_running context fine timely, Bool.false_eq_true, if_false]
    rw [if_pos accepted]
    simp only [within, there]
    exact mild_wrapping context fine (channel.get_user_finds.trans (given _))
  | view =>
    simp only [call, view, check_running context fine timely]
    exact mild_same context fine trivial

def heardOf (told : List JoinReply) : List String :=
  (told.filter fun reply => terminalEvents.contains reply.event).map JoinReply.event

def Replied (context : JoinContext) (channel : Channel) (said : JoinCall) : Prop :=
  ∃ more : List JoinReply, (∀ reply ∈ more, reply.requestId = context.requestId) ∧
    Mild { context with told := context.told ++ more } (context.call said).1 (context.Succeeds channel said) ∧
      (context.Succeeds channel said → heardOf more = context.utters channel said)

theorem replied_mild (mild : context.Mild (context.call said).1 (context.Succeeds channel said))
    (silent : context.Succeeds channel said → context.utters channel said = []) : context.Replied channel said := by
  refine ⟨[], fun reply member => absurd member not_mem_nil, ?_, fun succeeds => (silent succeeds).symm⟩
  rw [append_nil]
  exact mild

theorem call_responded (fine : context.err = none) (timely : context.expired = false)
    (responded : context.hasResponded = true) (there : context.channel = some channel) : context.Replied channel said := by
  have present : context.channel.isSome = true := by
    rw [there]
    rfl
  cases said with
  | accept =>
    refine replied_mild context channel ?_ fun _ => rfl
    simp only [call, accept, check_running context fine timely, Bool.false_eq_true, if_false]
    rw [if_pos responded]
    simp only [within, there]
    exact mild_fail context id
  | decline =>
    refine replied_mild context channel ?_ fun _ => rfl
    simp only [call, decline, check_running context fine timely, Bool.false_eq_true, if_false, there]
    rw [if_pos responded]
    exact mild_same context fine trivial
  | reply event payload fate =>
    by_cases early : context.accepted = false
    · refine replied_mild context channel (call_early context channel fine timely early rfl (.inr present)) fun succeeds => ?_
      have accepted : context.accepted = true := succeeds.1
      rw [early] at accepted
      cases accepted
    have accepted : context.accepted = true := Bool.not_eq_false _ ▸ early
    cases check : channel.checkState with
    | some =>
      have fails : ¬ context.Succeeds channel (.reply event payload fate) := by
        intro succeeds
        rw [channel.check_state_none.mpr succeeds.2] at check
        cases check
      refine replied_mild context channel ?_ fun succeeds => absurd succeeds fails
      simp only [call, reply, when_accepted context fine timely accepted there, sendMessage, check]
      exact mild_fail context fails
    | none =>
      have succeeds : context.Succeeds channel (.reply event payload fate) :=
        ⟨accepted, channel.check_state_none.mp check⟩
      have folded : context.hears channel fate = (channel.connections.has context.conn.id &&
        fate.delivers channel context.conn) := rfl
      cases heard : context.hears channel fate with
      | true =>
        refine ⟨[⟨channel.name, context.requestId, event, payload⟩], ?_, ?_, fun _ => ?_⟩
        · intro reply member
          rw [mem_singleton.mp member]
        · simp only [call, reply, when_accepted context fine timely accepted there, sendMessage, check, ← folded, heard]
          exact mild_same { context with told := context.told ++ [_] } fine succeeds
        · simp only [utters, heard, Bool.true_and, heardOf, filter_cons]
          cases terminalEvents.contains event <;> rfl
      | false =>
        refine replied_mild context channel ?_ fun _ => by simp [utters, heard]
        simp only [call, reply, when_accepted context fine timely accepted there, sendMessage, check, ← folded, heard]
        exact mild_same context fine succeeds
  | _ =>
    refine replied_mild context channel ?_ fun _ => rfl
    by_cases early : context.accepted = false
    · exact call_early context channel fine timely early rfl (.inr present)
    · refine call_accepted context channel fine timely (Bool.not_eq_false _ ▸ early) there rfl ?_
      intro event payload fate same
      cases same

theorem heard_append (told more : List JoinReply) : heardOf (told ++ more) = heardOf told ++ heardOf more := by
  simp [heardOf]

theorem heard_nil : told.filter (fun reply => terminalEvents.contains reply.event) = [] ↔ heardOf told = [] := by
  simp [heardOf]

def settled (context : JoinContext) (steps : List JoinStep) (returned : Option HandlerError) (request : JoinRequest) : Prop :=
  (((context.makes steps).finish returned).settle request).Answered request.requestId

variable {returned : Option HandlerError}

theorem stuck_unanswered (stuck : context.err.isSome = true) (runs : context.panicked = false)
    (answered : context.joined = true ∨ heardOf context.told ≠ []) : ¬ context.settled steps returned request := by
  intro settles
  have rests := stuck_makes context steps context.joined context.told ⟨stuck, runs, rfl, rfl⟩
  obtain ⟨_, finished⟩ := stuck_finish _ returned rests
  simp only [settled, finished] at settles
  obtain ⟨absent, empty⟩ := answered_failed.mp settles
  cases answered with
  | inl joined =>
    rw [joined] at absent
    cases absent
  | inr told => exact told (heard_nil.mp empty)

theorem stuck_answered (stuck : context.err.isSome = true) (runs : context.panicked = false)
    (absent : context.joined = false) (untold : context.told = []) : context.settled steps returned request := by
  have rests := stuck_makes context steps false [] ⟨stuck, runs, absent, untold⟩
  obtain ⟨_, finished⟩ := stuck_finish _ returned rests
  simp only [settled, finished]
  exact answered_failed.mpr ⟨rfl, rfl⟩

structure Given (context : JoinContext) (request : JoinRequest) (answer : String) (heard : List String) : Prop where
  fine : context.err = none
  runs : context.panicked = false
  responded : context.hasResponded = true
  channel : context.channel.isSome = true
  requestId : context.requestId = request.requestId
  mine : ∀ reply ∈ context.told, reply.requestId = request.requestId
  tells : heardOf context.told = heard
  kind : answer = "ACKNOWLEDGE" ∧ context.joined = true ∨
    answer = "UNAUTHORIZED" ∧ context.joined = false ∧ ∃ rest, heard = "UNAUTHORIZED" :: rest

variable {answer : String}

variable {heard : List String}

theorem given_answered (given : context.Given request answer heard) :
    context.joined = true ∨ heardOf context.told ≠ [] := by
  rcases given.kind with ⟨_, joined⟩ | ⟨_, _, _, told⟩
  · exact .inl joined
  right
  rw [given.tells, told]
  exact cons_ne_nil _ _

theorem given_end (given : context.Given request answer heard) :
    context.settled [] returned request ↔ returned = none ∧ heard = [answer] := by
  have finished : (context.makes []).finish returned = ⟨context.told, context.joined, returned⟩ := by
    simp only [makes, foldl_nil, finish, given.runs, given.fine, given.responded, Bool.false_eq_true, if_false,
      if_true, isSome_none]
    cases returned <;> rfl
  simp only [settled, finished]
  cases returned with
  | some =>
    refine iff_of_false ?_ (fun contra => by cases contra.1)
    intro settles
    obtain ⟨absent, empty⟩ := answered_failed.mp settles
    cases given_answered context given with
    | inl joined =>
      rw [joined] at absent
      cases absent
    | inr told => exact told (heard_nil.mp empty)
  | none =>
    rw [answered_quiet given.mine]
    change (∃ event, heardOf context.told = [event] ∧ _) ↔ _
    rw [given.tells]
    rcases given.kind with ⟨named, joined⟩ | ⟨named, absent, _, told⟩
    · rw [named]
      constructor
      · rintro ⟨event, single, exactly⟩
        rw [exactly.mpr joined] at single
        exact ⟨rfl, single⟩
      · intro both
        exact ⟨_, both.2, iff_of_true rfl joined⟩
    · rw [named, told]
      constructor
      · rintro ⟨_, single, _⟩
        refine ⟨rfl, ?_⟩
        rw [(cons.inj single).2]
      · intro both
        refine ⟨_, both.2, iff_of_false (by decide) ?_⟩
        rw [absent]
        exact fun contra => by cases contra

theorem keeps_iff {steps : List JoinStep} (context : JoinContext) (heard : List String)
    (given : context.Given request answer heard) :
    context.settled steps returned request ↔ context.Keeps answer heard steps returned := by
  induction steps generalizing context heard with
  | nil => exact given_end context given
  | cons next rest ih =>
    cases next with
    | others change expires =>
      have moved : (context.step (.others change expires)).1 =
          { context with channel := context.channel.map change, expired := context.expired || expires } := by
        simp [step, given.runs]
      refine ih (context.step (.others change expires)).1 heard ?_
      rw [moved]
      refine ⟨given.fine, given.runs, given.responded, ?_, given.requestId, given.mine, given.tells, given.kind⟩
      rw [isSome_map]
      exact given.channel
    | call said =>
      obtain ⟨channel, there⟩ := isSome_iff_exists.mp given.channel
      have called : (context.step (.call said)).1 = (context.call said).1 := by
        simp [step, given.runs]
      have onward : context.settled (.call said :: rest) returned request ↔
          (context.step (.call said)).1.settled rest returned request := Iff.rfl
      rw [onward]
      by_cases timely : context.expired = false
      · obtain ⟨more, ids, mild, utters⟩ := call_responded context channel given.fine timely given.responded there
        rw [← called] at mild
        by_cases succeeds : context.Succeeds channel said
        · have following : (context.step (.call said)).1.Given request answer
              (heard ++ context.utters channel said) := by
            refine ⟨mild.err.mpr succeeds, mild.panicked.trans given.runs, mild.hasResponded.trans given.responded,
              mild.channel.trans given.channel, mild.requestId.trans given.requestId, ?_, ?_, ?_⟩
            · rw [mild.told]
              intro reply member
              rcases mem_append.mp member with before | newly
              · exact given.mine reply before
              · exact (ids reply newly).trans given.requestId
            · rw [mild.told, heard_append, given.tells, utters succeeds]
            · rw [mild.joined]
              rcases given.kind with acknowledged | ⟨named, absent, others, first⟩
              · exact .inl acknowledged
              · exact .inr ⟨named, absent, others ++ context.utters channel said, by rw [first]; rfl⟩
          rw [ih _ _ following]
          constructor
          · exact fun keeps => ⟨timely, channel, there, succeeds, keeps⟩
          · rintro ⟨_, other, same, _, keeps⟩
            rw [there] at same
            cases same
            exact keeps
        · refine iff_of_false ?_ ?_
          · apply stuck_unanswered _ _ _ (mild.panicked.trans given.runs)
            · rw [mild.joined, mild.told, heard_append]
              rcases given_answered context given with member | heardSome
              · exact .inl member
              · exact .inr (fun empty => heardSome (append_eq_nil_iff.mp empty).1)
            · rw [← ne_none_iff_isSome]
              exact fun clear => succeeds (mild.err.mp clear)
          · rintro ⟨_, _, same, fine, _⟩
            rw [there] at same
            cases same
            exact succeeds fine
      · have late : context.expired = true := Bool.not_eq_false _ ▸ timely
        have halted := check_late context given.fine late
        have stops : (context.step (.call said)).1 = { context with err := some .contextDone } := by
          rw [called, call_stopped context (by rw [halted]), halted]
        refine iff_of_false ?_ (fun keeps => timely keeps.1)
        rw [stops]
        exact stuck_unanswered { context with err := some .contextDone } rest rfl given.runs
          (given_answered context given)

structure Fresh (context : JoinContext) (request : JoinRequest) : Prop where
  runs : context.panicked = false
  unresponded : context.hasResponded = false
  unaccepted : context.accepted = false
  absent : context.joined = false
  untold : context.told = []
  requestId : context.requestId = request.requestId

theorem panicked_makes (panicked : context.panicked = true) :
    context.makes steps = context := by
  induction steps with
  | nil => rfl
  | cons next _ ih =>
    have same : (context.step next).1 = context := by
      simp [step, panicked]
    simp only [makes, foldl_cons, same]
    exact ih

theorem panicked_unanswered (panicked : context.panicked = true) (untold : context.told = []) :
    ¬ context.settled steps returned request := by
  intro settles
  simp only [settled, panicked_makes context steps panicked, finish, panicked, if_true, untold] at settles
  obtain ⟨_, single, _⟩ := settles
  cases single

theorem fresh_end (fresh : context.Fresh request) :
    context.settled [] returned request ↔ context.Sound [] returned := by
  have failed : ∀ error, Handling.Answered (settle ⟨[], false, some error⟩ request) request.requestId :=
    fun error => answered_failed.mpr ⟨rfl, rfl⟩
  simp only [settled, makes, foldl_nil, finish, fresh.runs, fresh.unresponded, fresh.absent, fresh.untold,
    Bool.false_eq_true, if_false, Sound]
  cases returned with
  | some error => exact iff_of_true (failed error) (.inr (.inl rfl))
  | none =>
    by_cases stuck : context.err.isSome = true
    · rw [if_pos stuck]
      exact iff_of_true (failed _) (.inr (.inr (.inl stuck)))
    rw [if_neg stuck]
    have fine : context.err = none := by
      rw [← not_isSome_iff_eq_none]
      exact stuck
    by_cases timely : context.expired = false
    · simp only [decline, check_running context fine timely, Bool.false_eq_true, if_false]
      cases there : context.channel with
      | none =>
        rw [if_neg (Bool.eq_false_iff.mp fresh.unresponded)]
        refine iff_of_false ?_ ?_
        · rintro ⟨reply, single, _⟩
          simp only [settle, panics, map_none, fresh.untold] at single
          cases single
        rintro (contra | contra | contra | contra)
        · cases contra
        · cases contra
        · exact stuck contra
        · rw [timely] at contra
          cases contra
      | some =>
        dsimp only
        rw [if_neg (Bool.eq_false_iff.mp fresh.unresponded)]
        refine iff_of_true ?_ (.inl rfl)
        simp only [map_none, fresh.untold, nil_append, fresh.absent]
        refine (answered_quiet ?_).mpr ⟨"UNAUTHORIZED", rfl, by decide⟩
        intro reply member
        rw [mem_singleton.mp member]
        exact fresh.requestId
    · have late : context.expired = true := Bool.not_eq_false _ ▸ timely
      have halted := check_late context fine late
      simp only [decline, halted, if_true, fresh.untold, fresh.absent]
      exact iff_of_true (failed _) (.inr (.inr (.inr late)))

theorem call_panics (fine : context.err = none) (timely : context.expired = false) (fresh : context.Fresh request)
    (there : context.channel = none) (touches : said.touches = true) :
    (context.call said).1.panicked = true ∧ (context.call said).1.told = [] := by
  have unresponded : ¬ context.hasResponded = true := Bool.eq_false_iff.mp fresh.unresponded
  cases said with
  | accept =>
    simp only [call, accept, check_running context fine timely, Bool.false_eq_true, if_false]
    rw [if_neg unresponded]
    simp only [within, there]
    exact ⟨rfl, fresh.untold⟩
  | decline =>
    simp only [call, decline, check_running context fine timely, Bool.false_eq_true, if_false, there]
    rw [if_neg unresponded]
    exact ⟨rfl, fresh.untold⟩
  | assigns given =>
    cases given with
    | some => cases touches
    | none =>
      simp only [call, assigns, check_running context fine timely, Bool.false_eq_true, if_false, within, there]
      exact ⟨rfl, fresh.untold⟩
  | reply | broadcast | broadcastTo | broadcastFrom | track =>
    simp only [call, reply, broadcast, broadcastTo, broadcastFrom, track, whenAccepted, check_running context fine timely,
      Bool.false_eq_true, if_false, within, there]
    exact ⟨rfl, fresh.untold⟩
  | setAssigns | getAssign | getUser | view => cases touches

theorem fresh_mild {context : JoinContext} (fresh : context.Fresh request) (mild : context.Mild next ok) :
    next.Fresh request :=
  ⟨mild.panicked.trans fresh.runs, mild.hasResponded.trans fresh.unresponded, mild.accepted.trans fresh.unaccepted,
    mild.joined.trans fresh.absent, mild.told.trans fresh.untold, mild.requestId.trans fresh.requestId⟩

def afterAdd (context : JoinContext) (channel : Channel) (joining : Channel → Channel) (fate : Fate) :
    Channel × Option Failure → JoinContext
  | (next, some failure) =>
    { context with hasResponded := true, accepted := true, channel := some next }.fail
      (.wrapped ("failed to add user " ++ context.conn.id ++ " to Channel " ++ channel.name) failure)
  | (next, none) =>
    { context with
      hasResponded := true
      accepted := true
      channel := some (joining next)
      joined := true }.sendMessage (joining next) "ACKNOWLEDGE"
        (.object []) fate ("failed to send join acknowledgment for Channel " ++ channel.name)

variable {rest : List JoinStep}

theorem accept_sound {joining : Channel → Channel} {fate : Fate} (fine : context.err = none)
    (timely : context.expired = false) (fresh : context.Fresh request) (there : context.channel = some channel) :
    (context.accept joining fate).settled rest returned request ↔ (channel.Takes context.conn →
        (joining (channel.addUser context.conn).1).done = false ∧ (context.accept joining fate).Keeps "ACKNOWLEDGE"
            (if context.hears (joining (channel.addUser context.conn).1) fate then ["ACKNOWLEDGE"] else [])
            rest returned) := by
  have unresponded : ¬ context.hasResponded = true := Bool.eq_false_iff.mp fresh.unresponded
  have opened : context.accept joining fate = context.afterAdd channel joining fate (channel.addUser context.conn) := by
    simp only [accept, check_running context fine timely, Bool.false_eq_true, if_false]
    rw [if_neg unresponded]
    simp only [within, there]
    cases channel.addUser context.conn with
    | mk _ failure => cases failure <;> rfl
  rw [opened, ← channel.add_user_takes]
  cases added : channel.addUser context.conn with
  | mk next failure =>
    cases failure with
    | some =>
      refine iff_of_true ?_ (fun contra => by cases contra)
      exact stuck_answered _ rest rfl fresh.runs fresh.absent fresh.untold
    | none =>
      dsimp only [afterAdd]
      simp only [sendMessage]
      cases check : (joining next).checkState with
      | some =>
        refine iff_of_false ?_ ?_
        · exact stuck_unanswered _ rest rfl fresh.runs (.inl rfl)
        intro sound
        rw [(joining next).check_state_none.mpr (sound trivial).1] at check
        cases check
      | none =>
        have running := (joining next).check_state_none.mp check
        have told : ∀ told : List JoinReply, (∀ reply ∈ told, reply.requestId = request.requestId) →
            ∀ heard, heardOf told = heard → Given { context with
              hasResponded := true
              accepted := true
              channel := some (joining next)
              joined := true
              told := told } request "ACKNOWLEDGE" heard :=
          fun told mine heard tells =>
            ⟨fine, fresh.runs, rfl, rfl, fresh.requestId, mine, tells, .inl ⟨rfl, rfl⟩⟩
        have folded : ((joining next).connections.has context.conn.id && fate.delivers (joining next) context.conn) =
            context.hears (joining next) fate := rfl
        rw [folded]
        cases heard : context.hears (joining next) fate with
        | true =>
          simp only [if_true]
          rw [fresh.untold, nil_append]
          have given := told [⟨(joining next).name, context.requestId, "ACKNOWLEDGE", .object []⟩] (by
            intro reply member
            rw [mem_singleton.mp member]
            exact fresh.requestId) ["ACKNOWLEDGE"] rfl
          rw [keeps_iff _ _ given]
          exact ⟨fun keeps _ => ⟨running, keeps⟩, fun sound => (sound trivial).2⟩
        | false =>
          simp only [Bool.false_eq_true, if_false]
          have given := told context.told (by
            rw [fresh.untold]
            exact fun reply member => absurd member not_mem_nil) [] (by
            rw [fresh.untold]
            rfl)
          rw [keeps_iff _ _ given]
          exact ⟨fun keeps _ => ⟨running, keeps⟩, fun sound => (sound trivial).2⟩

theorem decline_sound {statusCode : Int} {message : String} (fine : context.err = none)
    (timely : context.expired = false) (fresh : context.Fresh request) (there : context.channel = some channel) :
    (context.decline statusCode message).1.settled rest returned request ↔
      (context.decline statusCode message).1.Keeps "UNAUTHORIZED" ["UNAUTHORIZED"] rest returned := by
  have unresponded : ¬ context.hasResponded = true := Bool.eq_false_iff.mp fresh.unresponded
  apply keeps_iff
  simp only [decline, check_running context fine timely, Bool.false_eq_true, if_false, there]
  rw [if_neg unresponded]
  refine ⟨fine, fresh.runs, rfl, rfl, fresh.requestId, ?_, ?_, .inr ⟨rfl, fresh.absent, [], rfl⟩⟩
  · rw [fresh.untold]
    intro reply member
    rw [mem_singleton.mp member]
    exact fresh.requestId
  · rw [fresh.untold]
    rfl

theorem sound_iff (context : JoinContext) (returned : Option HandlerError) (fresh : context.Fresh request) :
    context.settled steps returned request ↔ context.Sound steps returned := by
  induction steps generalizing context with
  | nil => exact fresh_end context fresh
  | cons next rest ih =>
    cases next with
    | others change expires =>
      refine ih (context.step (.others change expires)).1 ?_
      simp only [step, fresh.runs, Bool.false_eq_true, if_false]
      exact ⟨rfl, fresh.unresponded, fresh.unaccepted, fresh.absent, fresh.untold, fresh.requestId⟩
    | call said =>
      have called : (context.step (.call said)).1 = (context.call said).1 := by
        simp [step, fresh.runs]
      have onward : context.settled (.call said :: rest) returned request ↔
          (context.step (.call said)).1.settled rest returned request := Iff.rfl
      rw [onward, Sound]
      by_cases stuck : context.err.isSome = true
      · have halted := check_stuck context stuck
        refine iff_of_true ?_ (.inl stuck)
        rw [called, call_stopped context (by rw [halted]), halted]
        exact stuck_answered context rest stuck fresh.runs fresh.absent fresh.untold
      have fine : context.err = none := by
        rw [← not_isSome_iff_eq_none]
        exact stuck
      by_cases timely : context.expired = false
      · have untimely : ¬ context.expired = true := Bool.eq_false_iff.mp timely
        rw [or_iff_right stuck, or_iff_right untimely]
        cases there : context.channel with
        | none =>
          cases touches : said.touches with
          | true =>
            obtain ⟨panicked, untold⟩ := call_panics context fine timely fresh there touches
            refine iff_of_false ?_ (fun contra => by cases contra.1)
            rw [called]
            exact panicked_unanswered _ rest panicked untold
          | false =>
            have other : answers said = false := by
              cases said with
              | accept | decline => cases touches
              | _ => rfl
            have mild := call_early context (newChannel "" "" false false 0) fine timely fresh.unaccepted
              other (.inl touches)
            rw [← called] at mild
            rw [ih _ (fresh_mild fresh mild)]
            exact ⟨fun sound => ⟨rfl, sound⟩, And.right⟩
        | some channel =>
          have onwards : answers said = false → ((context.step (.call said)).1.settled rest returned request ↔
              (context.step (.call said)).1.Sound rest returned) := by
            intro other
            have mild := call_early context channel fine timely fresh.unaccepted other (.inr (by rw [there]; rfl))
            rw [← called] at mild
            exact ih _ (fresh_mild fresh mild)
          cases said with
          | accept =>
            rw [called]
            exact accept_sound context channel fine timely fresh there
          | decline =>
            rw [called]
            exact decline_sound context channel fine timely fresh there
          | _ => exact onwards rfl
      · have late : context.expired = true := Bool.not_eq_false _ ▸ timely
        have halted := check_late context fine late
        refine iff_of_true ?_ (.inr (.inl late))
        rw [called, call_stopped context (by rw [halted]), halted]
        exact stuck_answered { context with err := some .contextDone } rest rfl fresh.runs
          fresh.absent fresh.untold

end JoinContext

namespace JoinEndpoint

def entered (endpoint : JoinEndpoint) (schedule : JoinSchedule) (request : JoinRequest) :
    Nat → List JoinRegistration → Option (JoinRegistration × Option Channel)
  | _, [] => none
  | index, registration :: rest =>
    if (schedule.stops index).isSome then none
    else if parses registration.path request.channel then
      match endpoint.getOrCreateChannel schedule registration request.channel with
      | .error _ => none
      | .ok channel => some (registration, channel)
    else endpoint.entered schedule request (index + 1) rest

def Sound (endpoint : JoinEndpoint) (schedule : JoinSchedule) (request : JoinRequest) (user : Transport) : Prop :=
  schedule.closed = true ∨
    ∀ registration channel, endpoint.entered schedule request 0 endpoint.registrations = some (registration, channel) →
      let context := JoinContext.newJoinContext (channel.map schedule.starting) user request.requestId schedule.expired
      let made := executeWithMiddleware registration.handler registration.middlewares context
      context.Sound made.1 made.2

theorem join_channel_settled {endpoint : JoinEndpoint} {schedule : JoinSchedule} (running : schedule.closed = false) :
    endpoint.joinChannel schedule request user =
      (endpoint.executeHandler schedule request user 0 endpoint.registrations).settle request := by
  simp only [joinChannel, running, Bool.false_eq_true, if_false]
  rfl

theorem execute_sound (endpoint : JoinEndpoint) (schedule : JoinSchedule) (request : JoinRequest) (user : Transport)
    (index : Nat) (registrations : List JoinRegistration) :
    ((endpoint.executeHandler schedule request user index registrations).settle request).Answered request.requestId ↔
      ∀ registration channel, endpoint.entered schedule request index registrations = some (registration, channel) →
        let context := newJoinContext (channel.map schedule.starting) user request.requestId schedule.expired
        let made := executeWithMiddleware registration.handler registration.middlewares context
        context.Sound made.1 made.2 := by
  have failed : ∀ error, Handling.Answered (settle ⟨[], false, some error⟩ request) request.requestId :=
    fun error => answered_failed.mpr ⟨rfl, rfl⟩
  induction registrations generalizing index with
  | nil =>
    refine iff_of_true ?_ (fun _ _ contra => by cases contra)
    simp only [executeHandler]
    cases schedule.stops index with
    | some error => exact failed error
    | none =>
      refine (answered_quiet ?_).mpr ⟨"NOT_FOUND", rfl, by decide⟩
      intro reply member
      rw [mem_singleton.mp member]
  | cons registration _ ih =>
    simp only [executeHandler, entered]
    cases schedule.stops index with
    | some error => exact iff_of_true (failed error) (fun _ _ contra => by cases contra)
    | none =>
      by_cases matched : parses registration.path request.channel = true
      · rw [if_pos matched, if_pos matched]
        simp only [enter]
        cases endpoint.getOrCreateChannel schedule registration request.channel with
        | error error => exact iff_of_true (failed error) (fun _ _ contra => by cases contra)
        | ok channel =>
          have fresh : (newJoinContext (channel.map schedule.starting) user request.requestId
              schedule.expired).Fresh request := ⟨rfl, rfl, rfl, rfl, rfl, rfl⟩
          have settles := sound_iff (executeWithMiddleware registration.handler registration.middlewares
            (newJoinContext (channel.map schedule.starting) user request.requestId
              schedule.expired)).1 _ (executeWithMiddleware registration.handler registration.middlewares
            (newJoinContext (channel.map schedule.starting) user request.requestId
              schedule.expired)).2 fresh
          constructor
          · intro answered other held same
            cases same
            exact settles.mp answered
          · exact fun sound => settles.mpr (sound registration channel rfl)
      · rw [if_neg matched, if_neg matched]
        exact ih (index + 1)

theorem join_answered_once_iff (endpoint : JoinEndpoint) (schedule : JoinSchedule) (request : JoinRequest)
    (user : Transport) :
    (endpoint.joinChannel schedule request user).Answered request.requestId ↔ endpoint.Sound schedule request user := by
  cases closed : schedule.closed with
  | true =>
    refine iff_of_true ?_ (.inl closed)
    simp only [joinChannel, closed, if_true]
    refine ⟨errorEvent request, rfl, rfl, ?_⟩
    change "INTERNAL_ERROR" = "ACKNOWLEDGE" ↔ false = true
    decide
  | false =>
    rw [join_channel_settled closed, execute_sound, Sound, closed]
    exact ⟨.inr, fun either => either.resolve_left Bool.false_ne_true⟩

def acceptsThenFails : JoinHandler :=
  .makes (.call (.accept id ⟨id, id, false⟩)) fun _ _ => .returns (some (.other "database is down"))

def oneRoom : JoinEndpoint := ⟨[⟨"/room/:id", acceptsThenFails, [], .empty⟩], .empty, false, 90⟩

def undisturbed : JoinSchedule := ⟨false, fun _ => none, none, none, "node", id, false⟩

theorem accepted_then_failed :
    ¬ (oneRoom.joinChannel undisturbed ⟨"/room/1", "request", by decide⟩ ⟨"user", 1, none⟩).Answered "request" := by
  have twice : ((oneRoom.joinChannel undisturbed ⟨"/room/1", "request", by decide⟩ ⟨"user", 1, none⟩).told.filter
      fun reply => terminalEvents.contains reply.event).length = 2 := by
    decide +kernel
  rintro ⟨_, single, _⟩
  rw [single] at twice
  cases twice

end JoinEndpoint

end PondSocket.Go
