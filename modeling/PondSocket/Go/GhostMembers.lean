import PondSocket.Go.Watches

namespace PondSocket.Go

open Library List Option Store Channel
open Js (Json UserId NodeId)

structure MembershipWatch.Standing (watch : MembershipWatch) (done : Bool) : Prop where
  cleanup : watch.cleanup = .armed ∨ watch.cleanup = .started
  connection : watch.connection = .armed ∨ watch.connection = .started ∨ watch.connection = .ran ∧ done = true

variable {user : Transport} {reason : String}

variable {entry : ChannelMembership}

namespace Channel

variable (channel : Channel)

variable {ended : Nat} (membership : Nat)

def Issued (channel : Channel) (membership : Nat) (user : Transport) : Prop :=
  ∃ entry, channel.issued[membership]? = some entry ∧ entry.connection = user

theorem issued_unique {membership : Nat} {other : Transport} (mine : channel.Issued membership user)
    (theirs : channel.Issued membership other) : user = other := by
  obtain ⟨_, found, rfl⟩ := mine
  obtain ⟨_, same, rfl⟩ := theirs
  rw [found] at same
  rw [some.inj same]

theorem cancel_other (other : ended ≠ membership) :
    (channel.cancelMembership ended reason).issued[membership]? = channel.issued[membership]? := by
  simp [cancelMembership, getElem?_modify, if_neg other]

theorem cancel_self {membership : Nat} (found : channel.issued[membership]? = some entry) :
    (channel.cancelMembership membership reason).issued[membership]? =
      some (if entry.cause.isNone ∧ channel.done = false then { entry with cause := some reason } else entry) := by
  simp only [cancelMembership, getElem?_modify, if_true, found]
  rfl

theorem cancel_issued (issued : channel.Issued membership user) :
    (channel.cancelMembership ended reason).Issued membership user := by
  obtain ⟨entry, found, rfl⟩ := issued
  by_cases same : ended = membership
  · subst same
    refine ⟨_, cancel_self channel found, ?_⟩
    split <;> rfl
  · exact ⟨entry, (cancel_other channel membership same).trans found, rfl⟩

theorem cancel_done {membership : Nat} (issued : channel.Issued membership user) :
    (channel.cancelMembership membership reason).contextDone membership = true := by
  obtain ⟨entry, found, _⟩ := issued
  simp only [contextDone, cancel_self channel found]
  change (channel.done || _) = true
  cases shut : channel.done with
  | true => exact Bool.true_or _
  | false =>
    cases cause : entry.cause with
    | none => rfl
    | some =>
      simp only [isNone_some, Bool.false_eq_true, false_and, if_false, cause]
      rfl

theorem cancel_done_grows (reason : String) (done : channel.contextDone membership = true) :
    (channel.cancelMembership ended reason).contextDone membership = true := by
  by_cases same : ended = membership
  · subst same
    cases found : channel.issued[ended]? with
    | none =>
      simp only [contextDone, found] at done
      cases done
    | some entry => exact cancel_done channel ⟨entry, found, rfl⟩
  · simp only [contextDone, cancel_other channel membership same]
    exact done

structure CreateKept (channel : Channel) (next : Channel) : Prop where
  presence : next.presence = channel.presence
  done : next.done = channel.done
  count : next.issued.length = channel.issued.length + 1
  earlier : ∀ membership, membership < channel.issued.length → next.issued[membership]? = channel.issued[membership]?

inductive CreateJoins (channel : Channel) (user : Transport) (result : Channel × Option Failure) : Prop where
  | inactive (failed : result.2 = some .badRequest) (memberships : result.1.memberships = channel.memberships)
  | joined (accepted : result.2 = none)
      (memberships : result.1.memberships = ⟨channel.memberships.store.set user.id channel.issued.length⟩)
      (issued : result.1.issued = channel.issued ++ [⟨user, none⟩])

theorem create_user_eq (matched : channel.Matched) (absent : channel.memberships.has user.id = false) :
    channel.createUser user =
        ((channel.newChannelMembership user).closeMembership channel.issued.length "join_failed", some .badRequest) ∨
      ∃ published, channel.createUser user = ({ channel.newChannelMembership user with
          store := ⟨channel.store.store.set user.id (user.assigns.getD .empty)⟩
          connections := ⟨channel.connections.store.set user.id user⟩
          memberships := ⟨channel.memberships.store.set user.id channel.issued.length⟩
          published := published }, none) := by
  obtain ⟨stored, connected⟩ := matched user.id
  have noStore : (channel.newChannelMembership user).store.has user.id = false := stored.trans absent
  have noConnection : (channel.newChannelMembership user).connections.has user.id = false := connected.trans absent
  have noMembership : (channel.newChannelMembership user).memberships.has user.id = false := absent
  simp only [createUser]
  by_cases idle : (channel.newChannelMembership user).active channel.issued.length = false
  · rw [if_pos idle]
    exact .inl rfl
  rw [if_neg idle, create_absent _ noStore]
  rw [create_absent _ noConnection]
  rw [create_absent _ noMembership]
  dsimp only
  rw [publish_frame]
  exact .inr ⟨_, rfl⟩

variable {channel}

theorem create_kept (matched : channel.Matched) (absent : channel.memberships.has user.id = false) :
    CreateKept channel (channel.createUser user).1 := by
  rcases create_user_eq channel matched absent with refused | ⟨_, joined⟩
  · rw [refused]
    refine ⟨rfl, rfl, ?_, ?_⟩
    · simp [closeMembership, cancelMembership, newChannelMembership]
    intro membership inside
    have apart : channel.issued.length ≠ membership := by omega
    rw [closeMembership, cancel_other _ _ apart]
    exact getElem?_append_left inside
  · rw [joined]
    refine ⟨rfl, rfl, length_append, ?_⟩
    intro membership inside
    exact getElem?_append_left inside

theorem create_user_joins (matched : channel.Matched) (absent : channel.memberships.has user.id = false) :
    CreateJoins channel user (channel.createUser user) := by
  rcases create_user_eq channel matched absent with refused | ⟨_, joined⟩
  · rw [refused]
    exact .inactive rfl rfl
  · rw [joined]
    exact .joined rfl rfl rfl

end Channel

namespace WatchedChannel

variable (watched : WatchedChannel) (userId : UserId) {membership : Nat}

structure Guarded (watched : WatchedChannel) : Prop where
  matched : watched.channel.Matched
  tracked : ∀ userId, watched.channel.presence.has userId = true → watched.channel.memberships.has userId = true
  sized : watched.watches.length = watched.channel.issued.length
  owned : ∀ userId membership, watched.channel.memberships.store.get? userId = some membership →
    ∃ user, watched.channel.Issued membership user ∧ user.id = userId
  standing : ∀ userId membership, watched.channel.memberships.store.get? userId = some membership →
    watched.held = some (.watching membership) ∨
      ∃ watch, watched.watches[membership]? = some watch ∧ watch.Standing (watched.channel.contextDone membership)
  absent : ∀ user, watched.held = some (.inserting user) → watched.channel.memberships.has user.id = false

theorem guarded_new {name : String} {nodeId : NodeId} {distributed onDestroy : Bool} {heartbeatTimeout : Nat}
    {ended : List Nat} :
    Guarded { channel := { newChannel name nodeId distributed onDestroy heartbeatTimeout with closed := ended } } := by
  constructor
  · exact fun _ => ⟨rfl, rfl⟩
  · intro userId present
    cases present
  · rfl
  · intro userId membership found
    cases found
  · intro userId membership found
    cases found
  · intro user held
    cases held

structure Carries (watched next : WatchedChannel) : Prop where
  same : watched.channel.SameMembers next.channel
  presence : ∀ userId, next.channel.presence.has userId = true →
    watched.channel.presence.has userId = true ∨ watched.channel.memberships.has userId = true
  held : ∀ holder, watched.held = some holder → next.held = some holder
  taken : ∀ user, next.held = some (.inserting user) → watched.channel.memberships.has user.id = false
  sized : next.watches.length = watched.watches.length
  count : next.channel.issued.length = watched.channel.issued.length
  issued : ∀ membership user, watched.channel.Issued membership user → next.channel.Issued membership user
  standing : ∀ userId membership watch, watched.channel.memberships.store.get? userId = some membership →
    watched.watches[membership]? = some watch → watch.Standing (watched.channel.contextDone membership) →
      ∃ after, next.watches[membership]? = some after ∧ after.Standing (next.channel.contextDone membership)

theorem guarded_carries {watched next : WatchedChannel} (guarded : watched.Guarded) (carries : watched.Carries next) :
    next.Guarded := by
  have members := carries.same.memberships
  constructor
  · exact matched_same watched.channel next.channel carries.same guarded.matched
  · intro userId present
    rw [members]
    cases carries.presence userId present with
    | inl before => exact guarded.tracked userId before
    | inr member => exact member
  · rw [carries.sized, carries.count]
    exact guarded.sized
  · intro userId membership found
    rw [members] at found
    obtain ⟨user, issued, owner⟩ := guarded.owned userId membership found
    exact ⟨user, carries.issued membership user issued, owner⟩
  · intro userId membership found
    rw [members] at found
    cases guarded.standing userId membership found with
    | inl held => exact .inl (carries.held _ held)
    | inr watching =>
      obtain ⟨watch, there, standing⟩ := watching
      exact .inr (carries.standing userId membership watch found there standing)
  · intro user held
    rw [members]
    exact carries.taken user held

variable {watch : MembershipWatch}

theorem standing_mono {before after : Bool} (grows : before = true → after = true) (standing : watch.Standing before) :
    watch.Standing after := by
  refine ⟨standing.cleanup, ?_⟩
  rcases standing.connection with armed | started | ⟨ran, done⟩
  · exact .inl armed
  · exact .inr (.inl started)
  · exact .inr (.inr ⟨ran, grows done⟩)

theorem carries_contexts {channel : Channel} (same : watched.channel.SameMembers channel)
    (presence : ∀ userId, channel.presence.has userId = true →
      watched.channel.presence.has userId = true ∨ watched.channel.memberships.has userId = true)
    (issued : channel.issued = watched.channel.issued) (done : watched.channel.done = true → channel.done = true)
    (guarded : watched.Guarded) : watched.Carries { watched with channel := channel } := by
  constructor
  · exact same
  · exact presence
  · exact fun _ held => held
  · exact guarded.absent
  · rfl
  · exact congrArg List.length issued
  · intro membership user there
    simp only [Channel.Issued, issued]
    exact there
  · intro userId membership watch found there standing
    refine ⟨watch, there, standing_mono ?_ standing⟩
    simp only [contextDone, issued]
    cases watched.channel.issued[membership]? with
    | none => exact id
    | some =>
      intro ended
      cases (Bool.or_eq_true _ _).mp ended with
      | inl shut => exact (Bool.or_eq_true _ _).mpr (.inl (done shut))
      | inr cancelled => exact (Bool.or_eq_true _ _).mpr (.inr cancelled)

theorem carries_watch (channel : Channel) {membership : Nat} (after : MembershipWatch)
    (same : watched.channel.SameMembers channel) (presence : channel.presence = watched.channel.presence)
    (count : channel.issued.length = watched.channel.issued.length)
    (issued : ∀ place user, watched.channel.Issued place user → channel.Issued place user)
    (grows : ∀ place, watched.channel.contextDone place = true → channel.contextDone place = true)
    (there : watched.watches[membership]? = some watch)
    (moves : ∀ userId, watched.channel.memberships.store.get? userId = some membership →
      watch.Standing (watched.channel.contextDone membership) → after.Standing (channel.contextDone membership))
    (guarded : watched.Guarded) :
    watched.Carries { watched with channel := channel, watches := watched.watches.set membership after } := by
  obtain ⟨inside, _⟩ := List.getElem?_eq_some_iff.mp there
  constructor
  · exact same
  · intro userId present
    rw [presence] at present
    exact .inl present
  · exact fun _ held => held
  · exact guarded.absent
  · exact length_set
  · exact count
  · exact issued
  · intro userId place its found seen standing
    by_cases mine : membership = place
    · subst mine
      rw [there] at seen
      rw [← some.inj seen] at standing
      exact ⟨after, getElem?_set_self inside, moves userId found standing⟩
    · refine ⟨its, ?_, standing_mono (grows place) standing⟩
      exact (getElem?_set_ne mine).trans seen

variable {query : UserId}

theorem owned_apart {userId : UserId} {ended membership : Nat} (guarded : watched.Guarded) (other : query ≠ userId)
    (held : watched.channel.memberships.store.get? userId = some ended)
    (found : watched.channel.memberships.store.get? query = some membership) : ended ≠ membership := by
  intro same
  subst same
  obtain ⟨_, mine, owner⟩ := guarded.owned userId ended held
  obtain ⟨_, theirs, its⟩ := guarded.owned query ended found
  rw [watched.channel.issued_unique mine theirs, its] at owner
  exact other owner

theorem release_entries {userId : UserId} {membership : Nat} (reason : String) (guarded : watched.Guarded)
    (other : query ≠ userId) (found : watched.channel.memberships.store.get? query = some membership) :
    (watched.channel.releaseMembership userId reason).issued[membership]? = watched.channel.issued[membership]? := by
  simp only [Channel.releaseMembership, Store.read]
  cases held : watched.channel.memberships.store.get? userId with
  | none => rfl
  | some =>
    have apart := owned_apart watched guarded other held found
    exact watched.channel.cancel_other membership apart

theorem released_watches {userId : UserId} {membership : Nat} (guarded : watched.Guarded) (other : query ≠ userId)
    (found : watched.channel.memberships.store.get? query = some membership) :
    (watched.released userId)[membership]? = watched.watches[membership]? := by
  simp only [released, Store.read]
  cases held : watched.channel.memberships.store.get? userId with
  | none => rfl
  | some => exact getElem?_modify_ne _ _ (owned_apart watched guarded other held found)

theorem release_count (channel : Channel) (userId : UserId) (reason : String) :
    (channel.releaseMembership userId reason).issued.length = channel.issued.length := by
  simp only [Channel.releaseMembership]
  cases channel.memberships.read userId with
  | error => rfl
  | ok => exact length_modify _ _ _

theorem released_count :
    (watched.released userId).length = watched.watches.length := by
  simp only [released]
  cases watched.channel.memberships.read userId with
  | error => rfl
  | ok => exact length_modify _ _ _

theorem guarded_gone (next : Channel) (watches : List MembershipWatch) (userId : UserId)
    (reason : String) (held : Option Holder) (gone : Channel.Gone watched.channel next userId)
    (issued : next.issued = (watched.channel.releaseMembership userId reason).issued)
    (sized : watches.length = watched.watches.length)
    (others : ∀ query membership, query ≠ userId →
      watched.channel.memberships.store.get? query = some membership → watches[membership]? = watched.watches[membership]?)
    (free : ∀ membership, watched.held ≠ some (.watching membership))
    (taken : ∀ user, held = some (.inserting user) → user.id = userId) (guarded : watched.Guarded) :
    Guarded { channel := next, watches := watches, held := held } := by
  have stays : ∀ query membership, next.memberships.store.get? query = some membership →
      query ≠ userId ∧ watched.channel.memberships.store.get? query = some membership := by
    intro query membership found
    rw [gone.memberships, drop_store, OrderedMap.get_delete] at found
    split at found
    · cases found
    · rename_i other
      exact ⟨other, found⟩
  constructor
  · exact matched_gone next userId gone guarded.matched
  · intro query present
    rw [gone.presence, has_drop] at present
    rw [gone.memberships, has_drop]
    exact ⟨present.1, guarded.tracked query present.2⟩
  · rw [sized, issued, release_count]
    exact guarded.sized
  · intro query membership found
    obtain ⟨other, before⟩ := stays query membership found
    obtain ⟨user, there, owner⟩ := guarded.owned query membership before
    refine ⟨user, ?_, owner⟩
    simp only [Channel.Issued, issued, release_entries watched reason guarded other before]
    exact there
  · intro query membership found
    obtain ⟨other, before⟩ := stays query membership found
    have entries := release_entries watched reason guarded other before
    have done : next.done = watched.channel.done := by rw [gone.rest]
    cases guarded.standing query membership before with
    | inl holds => exact absurd holds (free membership)
    | inr watching =>
      obtain ⟨watch, there, standing⟩ := watching
      refine .inr ⟨watch, (others query membership other before).trans there, ?_⟩
      simp only [contextDone, issued, entries, done]
      exact standing
  · intro user holds
    rw [taken user holds]
    rw [gone.memberships, Bool.eq_false_iff, Ne, has_drop]
    exact fun both => both.1 rfl

variable {held : Option Holder}

theorem guarded_released {next : Channel} {userId : UserId} (gone : Channel.Gone watched.channel next userId)
    (issued : next.issued = (watched.channel.releaseMembership userId reason).issued)
    (free : ∀ membership, watched.held ≠ some (.watching membership))
    (taken : ∀ user, held = some (.inserting user) → user.id = userId) (guarded : watched.Guarded) :
    Guarded { channel := next, watches := watched.released userId, held := held } :=
  guarded_gone watched next _ userId reason held gone issued (released_count watched userId)
    (fun query membership => released_watches watched guarded) free taken guarded

variable {destroyWhenEmpty : Bool}

theorem guarded_remove (free : watched.held = none) (guarded : watched.Guarded) :
    (watched.removeUserLocalWithDestroy userId reason destroyWhenEmpty).Guarded := by
  apply guarded_released watched
  · exact remove_gone watched.channel userId reason destroyWhenEmpty
  · exact remove_issued watched.channel userId
  · intro membership held
    rw [free] at held
    cases held
  · intro user held
    rw [free] at held
    cases held
  · exact guarded

theorem guarded_held (free : ∀ membership, watched.held ≠ some (.watching membership))
    (taken : ∀ user, held = some (.inserting user) → watched.channel.memberships.has user.id = false)
    (guarded : watched.Guarded) : Guarded { watched with held := held } := by
  constructor
  · exact guarded.matched
  · exact guarded.tracked
  · exact guarded.sized
  · exact guarded.owned
  · intro userId membership found
    cases guarded.standing userId membership found with
    | inl holds => exact absurd holds (free membership)
    | inr watching => exact .inr watching
  · exact taken

theorem guarded_add_user (free : watched.held = none) (guarded : watched.Guarded) : (watched.addUser user).Guarded := by
  have idle : ∀ membership, watched.held ≠ some (.watching membership) := by
    intro membership held
    rw [free] at held
    cases held
  simp only [addUser]
  cases watched.channel.checkState with
  | some => exact guarded
  | none =>
    cases read : watched.channel.memberships.read user.id with
    | error =>
      apply guarded_held watched idle ?_ guarded
      intro other same
      cases same
      exact watched.channel.memberships.read_error read
    | ok =>
      dsimp only
      split
      · exact guarded
      apply guarded_released watched
      · exact remove_gone watched.channel user.id _ false
      · exact remove_issued watched.channel user.id
      · exact idle
      · intro other same
        cases same
        rfl
      · exact guarded

theorem guarded_insert (held : watched.held = some (.inserting user)) (guarded : watched.Guarded) :
    (watched.insertUser user).Guarded := by
  have absent := guarded.absent user held
  have matched : (watched.insertUser user).channel.Matched :=
    matched_created watched.channel user
      (create_user_created watched.channel user guarded.matched absent) guarded.matched
  have kept := create_kept guarded.matched absent
  have earlier : ∀ userId membership, watched.channel.memberships.store.get? userId = some membership →
      membership < watched.channel.issued.length := by
    intro userId membership found
    obtain ⟨owner, there, _⟩ := guarded.owned userId membership found
    obtain ⟨_, present, _⟩ := there
    exact (List.getElem?_eq_some_iff.mp present).1
  have owned : ∀ userId membership, watched.channel.memberships.store.get? userId = some membership →
      ∃ owner, (watched.insertUser user).channel.Issued membership owner ∧ owner.id = userId := by
    intro userId membership found
    obtain ⟨owner, there, mine⟩ := guarded.owned userId membership found
    refine ⟨owner, ?_, mine⟩
    simp only [Channel.Issued]
    rw [show (watched.insertUser user).channel.issued[membership]? = watched.channel.issued[membership]? from
      kept.earlier membership (earlier userId membership found)]
    exact there
  have standing : ∀ userId membership, watched.channel.memberships.store.get? userId = some membership →
      ∃ watch, (watched.insertUser user).watches[membership]? = some watch ∧
        watch.Standing ((watched.insertUser user).channel.contextDone membership) := by
    intro userId membership found
    have before := earlier userId membership found
    cases guarded.standing userId membership found with
    | inl holds =>
      rw [held] at holds
      cases holds
    | inr watching =>
      obtain ⟨watch, there, stands⟩ := watching
      refine ⟨watch, ?_, ?_⟩
      · change (watched.watches ++ [⟨.unset, .unset⟩])[membership]? = some watch
        rw [getElem?_append_left (by rw [guarded.sized]; exact before)]
        exact there
      change watch.Standing ((watched.channel.createUser user).1.contextDone membership)
      simp only [contextDone, kept.earlier membership before, kept.done]
      exact stands
  have sized : (watched.insertUser user).watches.length = (watched.insertUser user).channel.issued.length := by
    change (watched.watches ++ [(⟨.unset, .unset⟩ : MembershipWatch)]).length = (watched.channel.createUser user).1.issued.length
    rw [kept.count, length_append, guarded.sized]
    rfl
  have presence : (watched.insertUser user).channel.presence = watched.channel.presence := kept.presence
  cases create_user_joins guarded.matched absent with
  | inactive failed same =>
    have rests : (watched.insertUser user).held = none := by
      simp only [insertUser, failed]
      rfl
    have members : (watched.insertUser user).channel.memberships = watched.channel.memberships := same
    constructor
    · exact matched
    · rw [presence, members]
      exact guarded.tracked
    · exact sized
    · rw [members]
      exact owned
    · rw [members]
      intro userId membership found
      exact .inr (standing userId membership found)
    · rw [rests]
      intro other same
      cases same
  | joined accepted memberships issued =>
    have watching : (watched.insertUser user).held = some (.watching watched.channel.issued.length) := by
      simp only [insertUser, accepted]
      rfl
    have members : ∀ userId membership,
        (watched.insertUser user).channel.memberships.store.get? userId = some membership →
          userId = user.id ∧ membership = watched.channel.issued.length ∨
            watched.channel.memberships.store.get? userId = some membership := by
      intro userId membership found
      change (watched.channel.createUser user).1.memberships.store.get? userId = some membership at found
      rw [memberships, OrderedMap.get_set] at found
      split at found
      · rename_i same
        exact .inl ⟨same, (some.inj found).symm⟩
      · exact .inr found
    constructor
    · exact matched
    · intro userId tracked
      rw [presence] at tracked
      change (watched.channel.createUser user).1.memberships.has userId = true
      rw [memberships, has_created]
      exact .inr (guarded.tracked userId tracked)
    · exact sized
    · intro userId membership found
      rcases members userId membership found with ⟨same, newest⟩ | before
      · refine ⟨user, ⟨⟨user, none⟩, ?_, rfl⟩, same.symm⟩
        change (watched.channel.createUser user).1.issued[membership]? = _
        rw [issued, newest, getElem?_concat_length]
      · exact owned userId membership before
    · intro userId membership found
      rcases members userId membership found with ⟨_, newest⟩ | before
      · rw [newest]
        exact .inl watching
      · exact .inr (standing userId membership before)
    · rw [watching]
      intro other same
      cases same

theorem guarded_watch (held : watched.held = some (.watching membership))
    (guarded : watched.Guarded) : (watched.watchUser membership).Guarded := by
  constructor
  · exact guarded.matched
  · exact guarded.tracked
  · exact length_set.trans guarded.sized
  · exact guarded.owned
  · intro userId place found
    right
    change ∃ watch, (watched.watches.set membership MembershipWatch.watch)[place]? = some watch ∧ _
    by_cases mine : membership = place
    · subst mine
      obtain ⟨_, ⟨_, there, _⟩, _⟩ := guarded.owned userId membership found
      have inside : membership < watched.watches.length := by
        rw [guarded.sized]
        exact (List.getElem?_eq_some_iff.mp there).1
      exact ⟨_, getElem?_set_self inside, .inl rfl, .inl rfl⟩
    rw [getElem?_set_ne mine]
    cases guarded.standing userId place found with
    | inl holds =>
      rw [held] at holds
      cases holds
      exact absurd rfl mine
    | inr watching => exact watching
  · intro user same
    cases same

theorem guarded_close_users {userIds : List UserId} (watched : WatchedChannel) (held : watched.held = some .closing)
    (guarded : watched.Guarded) :
    (userIds.foldl closeUser watched).Guarded ∧ (userIds.foldl closeUser watched).held = some .closing := by
  induction userIds generalizing watched with
  | nil => exact ⟨guarded, held⟩
  | cons userId _ ih =>
    refine ih (watched.closeUser userId) held ?_
    apply guarded_released watched
    · exact close_user_gone watched.channel
    · exact close_user_issued watched.channel userId
    · intro membership same
      rw [held] at same
      cases same
    · intro user same
      rw [held] at same
      cases same
    · exact guarded

theorem guarded_proceed (guarded : watched.Guarded) : watched.proceed.Guarded := by
  simp only [proceed]
  cases held : watched.held with
  | none => exact guarded
  | some holder =>
    cases holder with
    | inserting => exact guarded_insert watched held guarded
    | watching => exact guarded_watch watched held guarded
    | closing =>
      obtain ⟨closed, still⟩ := guarded_close_users watched held guarded
      apply guarded_held _ ?_ ?_ closed
      · intro membership same
        rw [still] at same
        cases same
      · intro user same
        cases same

theorem guarded_remove_user (free : watched.held = none) (guarded : watched.Guarded) :
    (watched.removeUser userId reason).Guarded := by
  simp only [removeUser]
  cases check : watched.channel.checkState with
  | some => exact guarded
  | none =>
    cases found : watched.channel.getUserUnsafe userId with
    | ok => exact guarded_remove watched userId free guarded
    | error =>
      have same : ∃ published, (watched.channel.removeUser userId reason).1 =
          { watched.channel with published := published } := by
        simp only [Channel.removeUser, check, found]
        split
        · rw [Channel.publish_frame]
          exact ⟨_, rfl⟩
        · exact ⟨watched.channel.published, rfl⟩
      obtain ⟨_, next⟩ := same
      rw [next]
      exact guarded_carries guarded (carries_contexts watched ⟨rfl, rfl, rfl⟩ (fun _ => .inl) rfl id guarded)

theorem guarded_done (guarded : watched.Guarded) :
    Guarded { watched with channel := { watched.channel with done := true } } :=
  guarded_carries guarded (carries_contexts watched ⟨rfl, rfl, rfl⟩ (fun _ => .inl) rfl (fun _ => rfl) guarded)

theorem guarded_close (free : watched.held = none) (guarded : watched.Guarded) :
    watched.close.Guarded := by
  simp only [close]
  split
  · exact guarded
  apply guarded_held { watched with channel := { watched.channel with done := true } } ?_ ?_
    (guarded_done watched guarded)
  · intro membership held
    rw [free] at held
    cases held
  · intro user same
    cases same

variable {presenceData : Json}

theorem guarded_track (guarded : watched.Guarded) :
    Guarded { watched with channel := (watched.channel.trackMember userId presenceData).1 } := by
  simp only [trackMember]
  cases read : watched.channel.memberships.read userId with
  | error => exact guarded
  | ok =>
    dsimp only
    split
    · exact guarded
    cases created : watched.channel.presence.create userId presenceData with
    | error => exact guarded
    | ok =>
      dsimp only
      rw [Channel.publish_frame]
      refine guarded_carries guarded (carries_contexts watched ⟨rfl, rfl, rfl⟩ ?_ rfl id guarded)
      intro query present
      simp only [create] at created
      split at created
      · cases created
      cases created
      rw [has_created] at present
      rcases present with rfl | before
      · exact .inr (watched.channel.memberships.read_has read)
      · exact .inl before

theorem guarded_connection_ends {serial : Nat} (guarded : watched.Guarded) :
    (watched.connectionEnds serial).Guarded :=
  guarded_carries guarded (carries_contexts watched ⟨rfl, rfl, rfl⟩ (fun _ => .inl) rfl id guarded)

theorem guarded_connection_starts (guarded : watched.Guarded) :
    (watched.connectionStarts membership).Guarded := by
  simp only [connectionStarts]
  cases there : watched.watches[membership]? with
  | none => exact guarded
  | some =>
    dsimp only
    split
    · apply guarded_carries guarded
      apply carries_watch watched watched.channel _ ⟨rfl, rfl, rfl⟩ rfl rfl (fun _ _ => id)
        (fun _ => id) there ?_ guarded
      intro userId found standing
      exact ⟨standing.cleanup, .inr (.inl rfl)⟩
    · exact guarded

theorem guarded_connection_runs (guarded : watched.Guarded) :
    (watched.connectionRuns membership).Guarded := by
  simp only [connectionRuns]
  cases there : watched.watches[membership]? with
  | none => exact guarded
  | some =>
    dsimp only
    split
    · apply guarded_carries guarded
      apply carries_watch watched (watched.channel.cancelMembership membership "connection_closed") _
        ⟨rfl, rfl, rfl⟩ rfl (length_modify _ _ _)
        (fun place user => watched.channel.cancel_issued place)
        (fun place => watched.channel.cancel_done_grows place _) there ?_ guarded
      intro userId found standing
      obtain ⟨_, issued, _⟩ := guarded.owned userId membership found
      exact ⟨standing.cleanup, .inr (.inr ⟨rfl, watched.channel.cancel_done issued⟩)⟩
    · exact guarded

theorem guarded_cleanup_starts (guarded : watched.Guarded) :
    (watched.cleanupStarts membership).Guarded := by
  simp only [cleanupStarts]
  cases there : watched.watches[membership]? with
  | none => exact guarded
  | some =>
    dsimp only
    split
    · apply guarded_carries guarded
      apply carries_watch watched watched.channel _ ⟨rfl, rfl, rfl⟩ rfl rfl (fun _ _ => id)
        (fun _ => id) there ?_ guarded
      intro userId found standing
      exact ⟨.inr rfl, standing.connection⟩
    · exact guarded

theorem cleanup_late {after : MembershipWatch} (there : watched.watches[membership]? = some watch)
    (issued : watched.channel.issued[membership]? = some entry)
    (replaced : watched.channel.memberships.store.get? entry.connection.id ≠ some membership)
    (guarded : watched.Guarded) : Guarded { watched with watches := watched.watches.set membership after } := by
  apply guarded_carries guarded
  apply carries_watch watched watched.channel after ⟨rfl, rfl, rfl⟩ rfl rfl (fun _ _ => id)
    (fun _ => id) there ?_ guarded
  intro userId found _
  obtain ⟨_, mine, owner⟩ := guarded.owned userId membership found
  rw [watched.channel.issued_unique mine ⟨entry, issued, rfl⟩] at owner
  rw [owner] at replaced
  exact absurd found replaced

theorem guarded_cleanup_runs (free : watched.held = none)
    (guarded : watched.Guarded) : (watched.cleanupRuns membership).Guarded := by
  have idle : ∀ place, watched.held ≠ some (.watching place) := by
    intro place held
    rw [free] at held
    cases held
  simp only [cleanupRuns]
  cases there : watched.watches[membership]? with
  | none => exact guarded
  | some =>
    cases issued : watched.channel.issued[membership]? with
    | none => exact guarded
    | some entry =>
      dsimp only
      split
      · simp only [removeExpiredMembership, Store.read]
        cases found : watched.channel.memberships.store.get? entry.connection.id with
        | none =>
          apply cleanup_late watched there issued ?_ guarded
          rw [found]
          intro same
          cases same
        | some current =>
          dsimp only
          by_cases late : current ≠ membership
          · rw [if_pos late]
            apply cleanup_late watched there issued ?_ guarded
            rw [found]
            exact fun same => late (some.inj same)
          rw [if_neg late]
          have same : current = membership := Decidable.of_not_not late
          subst same
          apply guarded_gone watched _ _ entry.connection.id (watched.channel.reason current) watched.held
          · exact remove_gone watched.channel entry.connection.id _ true
          · exact remove_issued watched.channel entry.connection.id
          · exact (released_count _ _).trans length_set
          · intro query place other holds
            have apart := owned_apart watched guarded other found holds
            simp [released, Store.read, found, getElem?_modify_ne _ _ apart, getElem?_set_ne apart]
          · exact idle
          · intro user held
            rw [free] at held
            cases held
          · exact guarded
      · exact guarded

theorem guarded_act {op : WatchOp} (guarded : watched.Guarded) : (watched.act op).Guarded := by
  have free : watched.held.isNone = true → watched.held = none := isNone_iff_eq_none.mp
  cases op with
  | addUser =>
    simp only [act]
    split
    · rename_i idle
      exact guarded_add_user watched (free idle) guarded
    · exact guarded
  | trackConnectedUser userId =>
    simp only [act]
    split
    · exact guarded_track watched userId guarded
    · exact guarded
  | removeUser userId =>
    simp only [act]
    split
    · rename_i idle
      exact guarded_remove_user watched userId (free idle) guarded
    · exact guarded
  | close =>
    simp only [act]
    split
    · rename_i idle
      exact guarded_close watched (free idle) guarded
    · exact guarded
  | proceed => exact guarded_proceed watched guarded
  | parentDone => exact guarded_done watched guarded
  | connectionStarts => exact guarded_connection_starts watched guarded
  | connectionRuns => exact guarded_connection_runs watched guarded
  | cleanupStarts => exact guarded_cleanup_starts watched guarded
  | cleanupRuns =>
    simp only [act]
    split
    · rename_i idle
      exact guarded_cleanup_runs watched (free idle) guarded
    · exact guarded

theorem remove_closed :
    (watched.removeUserLocalWithDestroy userId reason destroyWhenEmpty).channel.closed = watched.channel.closed := by
  change (watched.channel.removeUserLocalWithDestroy userId reason destroyWhenEmpty).closed = _
  rw [(remove_gone watched.channel userId reason destroyWhenEmpty).rest]

theorem close_users_closed (userIds : List UserId) (channel : Channel) :
    (userIds.foldl Channel.closeUser channel).closed = channel.closed := by
  induction userIds generalizing channel with
  | nil => rfl
  | cons userId rest ih =>
    apply (ih (channel.closeUser userId)).trans
    rw [(close_user_gone channel).rest]

theorem add_user_closed : (watched.addUser user).channel.closed = watched.channel.closed := by
  simp only [addUser]
  cases watched.channel.checkState with
  | some => rfl
  | none =>
    cases watched.channel.memberships.read user.id with
    | error => rfl
    | ok =>
      dsimp only
      split
      · rfl
      · exact remove_closed watched user.id

theorem proceed_closed (guarded : watched.Guarded) :
    watched.proceed.channel.closed = watched.channel.closed := by
  simp only [proceed]
  cases held : watched.held with
  | none => rfl
  | some holder =>
    cases holder with
    | inserting user =>
      change (watched.channel.createUser user).1.closed = _
      rcases watched.channel.create_user_eq guarded.matched (guarded.absent user held) with refused | ⟨_, joined⟩
      · rw [refused]
        rfl
      · rw [joined]
        rfl
    | watching => rfl
    | closing =>
      change (watched.channel.userIds.keys.foldl closeUser watched).channel.closed = _
      rw [close_users_channel, close_users_closed]

theorem remove_user_closed : (watched.removeUser userId reason).channel.closed = watched.channel.closed := by
  simp only [removeUser]
  cases check : watched.channel.checkState with
  | some => rfl
  | none =>
    cases found : watched.channel.getUserUnsafe userId with
    | ok => exact remove_closed watched userId
    | error =>
      simp only [Channel.removeUser, check, found]
      split
      · rw [Channel.publish_frame]
      · rfl

theorem track_closed {channel : Channel} {userId : UserId} :
    (channel.trackMember userId presenceData).1.closed = channel.closed := by
  simp only [trackMember]
  cases channel.memberships.read userId with
  | error => rfl
  | ok =>
    dsimp only
    split
    · rfl
    cases channel.presence.create userId presenceData with
    | error => rfl
    | ok =>
      dsimp only
      rw [Channel.publish_frame]

theorem cleanup_runs_closed :
    (watched.cleanupRuns membership).channel.closed = watched.channel.closed := by
  simp only [cleanupRuns]
  split
  · split
    · simp only [removeExpiredMembership]
      split
      · rfl
      split
      · rfl
      · exact remove_closed _ _
    · rfl
  · rfl

theorem act_closed {op : WatchOp} (guarded : watched.Guarded) :
    (watched.act op).channel.closed = watched.channel.closed := by
  cases op with
  | addUser =>
    simp only [act]
    split
    · exact add_user_closed watched
    · rfl
  | trackConnectedUser =>
    simp only [act]
    split
    · exact track_closed
    · rfl
  | removeUser userId =>
    simp only [act]
    split
    · exact remove_user_closed watched userId
    · rfl
  | close =>
    simp only [act, close]
    split
    · split <;> rfl
    · rfl
  | proceed => exact proceed_closed watched guarded
  | parentDone => rfl
  | connectionStarts =>
    simp only [act, connectionStarts]
    split
    · rfl
    · split <;> rfl
  | connectionRuns =>
    simp only [act, connectionRuns]
    split
    · rfl
    · split <;> rfl
  | cleanupStarts =>
    simp only [act, cleanupStarts]
    split
    · rfl
    · split <;> rfl
  | cleanupRuns =>
    simp only [act]
    split
    · exact cleanup_runs_closed watched
    · rfl

structure Settled (watched : WatchedChannel) : Prop where
  free : watched.held = none
  connections : ∀ membership watch, watched.watches[membership]? = some watch →
    watch.connection ≠ .started ∧ (watch.connection = .armed → watched.channel.connectionDone membership = false)
  cleanups : ∀ membership watch, watched.watches[membership]? = some watch →
    watch.cleanup ≠ .started ∧ (watch.cleanup = .armed → watched.channel.contextDone membership = false)

def Present (watched : WatchedChannel) (ended : List Nat) (userId : UserId) : Prop :=
  ∃ membership user, watched.channel.memberships.store.get? userId = some membership ∧
    watched.channel.Issued membership user ∧ user.id = userId ∧ user.serial ∉ ended

structure GhostFree (watched : WatchedChannel) (ended : List Nat) (connection : Transport) : Prop where
  memberships : ∀ userId membership, watched.channel.memberships.store.get? userId = some membership →
    ∃ user, watched.channel.Issued membership user ∧ user.serial ≠ connection.serial
  stores : watched.channel.store.has connection.id = true ∨ watched.channel.connections.has connection.id = true ∨
    watched.channel.presence.has connection.id = true → watched.Present ended connection.id

theorem settled_present (guarded : watched.Guarded)
    (settled : watched.Settled) (found : watched.channel.memberships.store.get? userId = some membership) :
    ∃ user, watched.channel.Issued membership user ∧ user.id = userId ∧ user.serial ∉ watched.channel.closed := by
  obtain ⟨user, issued, owner⟩ := guarded.owned userId membership found
  refine ⟨user, issued, owner, ?_⟩
  cases guarded.standing userId membership found with
  | inl held =>
    rw [settled.free] at held
    cases held
  | inr watching =>
    obtain ⟨watch, there, standing⟩ := watching
    obtain ⟨unstarted, quiet⟩ := settled.cleanups membership watch there
    obtain ⟨unended, lasting⟩ := settled.connections membership watch there
    have armed : watch.cleanup = .armed := standing.cleanup.resolve_right unstarted
    rcases standing.connection with waiting | started | ⟨_, done⟩
    · have lasts := lasting waiting
      obtain ⟨_, present, rfl⟩ := issued
      simp only [connectionDone, present] at lasts
      intro ended
      rw [contains_iff_mem.mpr ended] at lasts
      cases lasts
    · exact absurd started unended
    · rw [quiet armed] at done
      cases done

theorem settled_ghost_free {connection : Transport} (guarded : watched.Guarded)
    (settled : watched.Settled) (ends : connection.serial ∈ watched.channel.closed) :
    watched.GhostFree watched.channel.closed connection := by
  constructor
  · intro userId membership found
    obtain ⟨user, issued, _, lasts⟩ := settled_present watched userId guarded settled found
    refine ⟨user, issued, ?_⟩
    intro same
    rw [same] at lasts
    exact lasts ends
  · intro left
    have member : watched.channel.memberships.has connection.id = true := by
      obtain ⟨stored, connected⟩ := guarded.matched connection.id
      rcases left with inStore | inConnections | inPresence
      · exact stored.symm.trans inStore
      · exact connected.symm.trans inConnections
      · exact guarded.tracked connection.id inPresence
    obtain ⟨membership, found⟩ := OrderedMap.has_iff.mp member
    obtain ⟨user, issued, owner, lasts⟩ := settled_present watched connection.id guarded settled found
    exact ⟨membership, user, found, issued, owner, lasts⟩

end WatchedChannel

namespace WatchedChannels

def Guarded (process : WatchedChannels) : Prop :=
  ∀ watched ∈ process.channels, watched.Guarded ∧ watched.channel.closed = process.ended

theorem guarded_act {process : WatchedChannels} {label : ProcessLabel} (guarded : process.Guarded) :
    (process.act label).Guarded := by
  cases label with
  | newChannel =>
    intro watched member
    rcases mem_append.mp member with before | newest
    · exact guarded watched before
    · rw [mem_singleton.mp newest]
      exact ⟨WatchedChannel.guarded_new, rfl⟩
  | operates place op =>
    intro watched member
    obtain ⟨index, found⟩ := mem_iff_getElem?.mp member
    change (process.channels.modify place fun watched => watched.act op)[index]? = some watched at found
    rw [getElem?_modify] at found
    cases before : process.channels[index]? with
    | none =>
      rw [before] at found
      cases found
    | some earlier =>
      obtain ⟨ready, same⟩ := guarded earlier (mem_of_getElem? before)
      rw [before] at found
      have next : (if place = index then earlier.act op else earlier) = watched := some.inj found
      by_cases here : place = index
      · rw [if_pos here] at next
        rw [← next]
        exact ⟨earlier.guarded_act ready, (earlier.act_closed ready).trans same⟩
      rw [if_neg here] at next
      rw [← next]
      exact ⟨ready, same⟩
  | connectionEnds serial =>
    intro watched member
    obtain ⟨earlier, before, rfl⟩ := mem_map.mp member
    obtain ⟨ready, same⟩ := guarded earlier before
    exact ⟨earlier.guarded_connection_ends ready, congrArg (· ++ [serial]) same⟩

theorem ended_no_members (labels : List ProcessLabel) :
    Always act (fun process => ∀ connection : Transport, connection.serial ∈ process.ended →
      ∀ watched ∈ process.channels, watched.Settled → watched.GhostFree process.ended connection) {} labels := by
  apply always_mono act Guarded
  · intro process guarded connection ends watched member settled
    obtain ⟨ready, same⟩ := guarded watched member
    rw [← same] at ends ⊢
    exact watched.settled_ghost_free ready settled ends
  apply always_of_follows act (fun _ _ => True) Guarded
  · exact fun process label guarded _ => guarded_act guarded
  · intro watched member
    cases member
  · exact follows_all act _ _ labels fun _ _ => trivial

end WatchedChannels

end PondSocket.Go
