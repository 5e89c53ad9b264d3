import PondSocket.Go.Teardown

namespace PondSocket.Go

open Library OrderedMap Store
open Js (UserId NodeId)

namespace Channel

variable (channel : Channel) (userId : UserId)

structure Seated (channel : Channel) : Prop where
  matched : channel.Matched
  standing : channel.closed = []
  live : ∀ userId membership, channel.memberships.store.get? userId = some membership →
    ∃ entry, channel.issued[membership]? = some entry ∧ entry.connection.id = userId ∧ entry.cause = none

theorem seated_new {name : String} {nodeId : NodeId} {distributed onDestroy : Bool} {heartbeatTimeout : Nat} :
    (newChannel name nodeId distributed onDestroy heartbeatTimeout).Seated := by
  refine ⟨fun _ => ⟨rfl, rfl⟩, rfl, ?_⟩
  intro userId membership found
  cases found

variable {membership : Nat}

theorem seated_active (seated : channel.Seated) (running : channel.done = false)
    (found : channel.memberships.store.get? userId = some membership) : channel.active membership = true := by
  obtain ⟨_, issued, _, cause⟩ := seated.live userId membership found
  simp [active, issued, running, cause, seated.standing]

variable {reason : String}

theorem live_release {userId query : UserId} (seated : channel.Seated) (other : query ≠ userId)
    (found : channel.memberships.store.get? query = some membership) :
    ∃ entry, (channel.releaseMembership userId reason).issued[membership]? = some entry ∧
      entry.connection.id = query ∧ entry.cause = none := by
  obtain ⟨entry, issued, owner, cause⟩ := seated.live query membership found
  simp only [releaseMembership, Store.read]
  cases held : channel.memberships.store.get? userId with
  | none => exact ⟨entry, issued, owner, cause⟩
  | some ended =>
    have apart : ended ≠ membership := by
      intro same
      obtain ⟨_, there, mine, _⟩ := seated.live userId ended held
      rw [same, issued] at there
      rw [← Option.some.inj there, owner] at mine
      exact other mine
    refine ⟨entry, ?_, owner, cause⟩
    simp only [closeMembership, cancelMembership, List.getElem?_modify, if_neg apart, issued]
    rfl

theorem seated_gone {channel next : Channel} {userId : UserId} (gone : Gone channel next userId)
    (issued : next.issued = (channel.releaseMembership userId reason).issued) (seated : channel.Seated) :
    next.Seated := by
  refine ⟨matched_gone next userId gone seated.matched, ?_, ?_⟩
  · rw [gone.rest]
    exact seated.standing
  intro query membership found
  rw [gone.memberships, drop_store, get_delete] at found
  split at found
  · cases found
  rename_i other
  rw [issued]
  exact live_release channel seated other found

theorem remove_issued {destroyWhenEmpty : Bool} :
    (channel.removeUserLocalWithDestroy userId reason destroyWhenEmpty).issued =
      (channel.releaseMembership userId reason).issued := by
  simp only [removeUserLocalWithDestroy]
  rw [un_track_frame]
  rw [publish_frame]
  split <;> rfl

theorem close_user_issued :
    (channel.closeUser userId).issued = (channel.releaseMembership userId "channel_closed").issued := by
  simp only [closeUser]
  rw [un_track_frame]

theorem seated_close (seated : channel.Seated) : channel.closeLocked.Seated := by
  have fold : ∀ (userIds : List UserId) (start : Channel), start.Seated → (userIds.foldl closeUser start).Seated := by
    intro userIds
    induction userIds with
    | nil => exact fun _ => id
    | cons userId _ ih =>
      intro start ready
      apply ih
      exact seated_gone (close_user_gone start) (close_user_issued start userId) ready
  simp only [closeLocked]
  split
  · exact seated
  · exact fold _ { channel with done := true } ⟨seated.matched, seated.standing, seated.live⟩

theorem close_absent (absent : channel.memberships.has userId = false) :
    channel.closeLocked.memberships.has userId = false := by
  have fold : ∀ (userIds : List UserId) (start : Channel), start.memberships.has userId = false →
      (userIds.foldl closeUser start).memberships.has userId = false := by
    intro userIds
    induction userIds with
    | nil => exact fun _ => id
    | cons _ _ ih =>
      intro start ready
      apply ih
      rw [(close_user_gone start).memberships]
      apply Bool.eq_false_iff.mpr
      intro present
      rw [((has_drop _).mp present).2] at ready
      cases ready
  simp only [closeLocked]
  split
  · exact absent
  · exact fold _ { channel with done := true } absent

theorem close_done : channel.closeLocked.done = true := by
  have fold : ∀ (userIds : List UserId) (start : Channel), start.done = true →
      (userIds.foldl closeUser start).done = true := by
    intro userIds
    induction userIds with
    | nil => exact fun _ => id
    | cons _ rest ih =>
      intro start ready
      apply ih
      rw [(close_user_gone start).rest]
      exact ready
  simp only [closeLocked]
  split
  · assumption
  · exact fold _ { channel with done := true } rfl

inductive Enters (channel : Channel) (user : Transport) : Prop where
  | refused (failure : Failure) (same : channel.addUser user = (channel, some failure))
      (shut : channel.done = true ∨ channel.memberships.has user.id = true)
  | entered (running : channel.done = false) (accepted : (channel.addUser user).2 = none)
      (seated : (channel.addUser user).1.Seated) (still : (channel.addUser user).1.done = false)
      (members : ∀ query, (channel.addUser user).1.memberships.has query = true ↔
        query = user.id ∨ channel.memberships.has query = true)

theorem enters {user : Transport} (seated : channel.Seated) : Enters channel user := by
  cases shut : channel.done with
  | true =>
    apply Enters.refused .shuttingDown
    · simp [addUser, checkState, shut]
    · exact .inl shut
  | false =>
    have running : channel.checkState = none := by
      simp [checkState, shut]
    cases found : channel.memberships.store.get? user.id with
    | some existing =>
      apply Enters.refused .conflict
      · simp [addUser, running, Store.read, found, seated_active channel user.id seated shut found]
      · exact .inr (has_iff.mpr ⟨existing, found⟩)
    | none =>
      have absent : channel.memberships.has user.id = false := has_false_iff.mpr found
      have added : channel.addUser user = channel.createUser user := by
        simp [addUser, running, Store.read, found]
      have fresh : (channel.newChannelMembership user).active channel.issued.length = true := by
        simp [active, newChannelMembership, shut, seated.standing]
      obtain ⟨stored, connected⟩ := seated.matched user.id
      have noStore : (channel.newChannelMembership user).store.has user.id = false := stored.trans absent
      have noConnection : (channel.newChannelMembership user).connections.has user.id = false := connected.trans absent
      have noMembership : (channel.newChannelMembership user).memberships.has user.id = false := absent
      have whole : ∃ published, channel.createUser user = ({ channel.newChannelMembership user with
            store := ⟨channel.store.store.set user.id (user.assigns.getD .empty)⟩
            connections := ⟨channel.connections.store.set user.id user⟩
            memberships := ⟨channel.memberships.store.set user.id channel.issued.length⟩
            published := published }, none) := by
        simp only [createUser]
        rw [if_neg (fun idle => Bool.false_ne_true (idle.symm.trans fresh)), create_absent _ noStore]
        rw [create_absent _ noConnection]
        rw [create_absent _ noMembership]
        dsimp only
        rw [publish_frame]
        exact ⟨_, rfl⟩
      obtain ⟨_, created⟩ := whole
      rw [← added] at created
      refine Enters.entered shut (by rw [created]) ?_ (by rw [created]; exact shut) ?_
      · have matched := matched_add_user channel user seated.matched
        rw [created] at matched ⊢
        refine ⟨matched, seated.standing, ?_⟩
        intro query membership held
        change ∃ entry, (channel.issued ++ [⟨user, none⟩])[membership]? = some entry ∧ _
        rw [OrderedMap.get_set] at held
        split at held
        · rename_i same
          rw [← Option.some.inj held, List.getElem?_concat_length]
          exact ⟨_, rfl, same.symm, rfl⟩
        obtain ⟨entry, issued, owner, cause⟩ := seated.live query membership held
        obtain ⟨inside, _⟩ := List.getElem?_eq_some_iff.mp issued
        exact ⟨entry, by rw [List.getElem?_append_left inside]; exact issued, owner, cause⟩
      · intro query
        rw [created]
        exact has_created

structure Departs (channel : Channel) (userId : UserId) (reason : String) : Prop where
  seated : (channel.removeUser userId reason).1.Seated
  done : (channel.removeUser userId reason).1.done = channel.done
  others : ∀ query, query ≠ userId →
    (channel.removeUser userId reason).1.memberships.has query = channel.memberships.has query
  gone : channel.done = false → (channel.removeUser userId reason).1.memberships.has userId = false

variable {channel}

theorem departs (reason : String) (seated : channel.Seated) :
    Departs channel userId reason := by
  cases shut : channel.done with
  | true =>
    have same : channel.removeUser userId reason = (channel, some .shuttingDown) := by
      simp [removeUser, checkState, shut]
    refine ⟨?_, ?_, ?_, ?_⟩
    · rw [same]
      exact seated
    · rw [same]
    · rw [same]
      exact fun _ _ => rfl
    · rw [shut]
      intro running
      cases running
  | false =>
    have running : channel.checkState = none := by
      simp [checkState, shut]
    cases found : channel.getUserUnsafe userId with
    | ok =>
      have same : channel.removeUser userId reason = (channel.removeUserLocal userId reason, none) := by
        simp [removeUser, running, found]
      have gone := remove_gone channel userId reason true
      refine ⟨?_, ?_, ?_, ?_⟩
      · rw [same]
        exact seated_gone gone (remove_issued channel userId) seated
      · rw [same, removeUserLocal, gone.rest]
      · intro query other
        rw [same, removeUserLocal, gone.memberships, Bool.eq_iff_iff, has_drop]
        exact ⟨fun both => both.2, fun present => ⟨other, present⟩⟩
      · intro _
        rw [same, removeUserLocal, gone.memberships, Bool.eq_false_iff, Ne, has_drop]
        exact fun both => both.1 rfl
    | error =>
      have absent : channel.memberships.has userId = false := by
        rw [← (seated.matched userId).1]
        simp only [getUserUnsafe] at found
        cases read : channel.store.read userId with
        | error => exact channel.store.read_error read
        | ok =>
          rw [read] at found
          cases found
      have same : SameMembers channel (channel.removeUser userId reason).1 ∧
          (channel.removeUser userId reason).1.issued = channel.issued ∧
            (channel.removeUser userId reason).1.closed = channel.closed ∧
              (channel.removeUser userId reason).1.done = channel.done := by
        simp only [removeUser, running, found]
        split
        · rw [publish_frame]
          exact ⟨⟨rfl, rfl, rfl⟩, rfl, rfl, rfl⟩
        · exact ⟨same_refl channel, rfl, rfl, rfl⟩
      obtain ⟨members, issued, closed, done⟩ := same
      refine ⟨⟨matched_same channel _ members seated.matched, closed.trans seated.standing, ?_⟩, done, ?_, ?_⟩
      · rw [members.memberships, issued]
        exact seated.live
      · rw [members.memberships]
        exact fun _ _ => rfl
      · rw [members.memberships]
        exact fun _ => absent

end Channel

end PondSocket.Go
