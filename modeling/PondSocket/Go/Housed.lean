import PondSocket.Go.Seated

namespace PondSocket.Go

open Library List Channel
open Js (UserId NodeId)

def Room.Holds (room : Room) (userId : UserId) : Prop := room.channel.memberships.has userId = true

structure Room.Fit (room : Room) (userId : UserId) : Prop where
  seated : room.channel.Seated
  refused : room.registration = .refused → room.channel.done = true
  destroyed : room.destroyed = true → room.channel.done = true
  absent : room.channel.done = true → ¬ room.Holds userId
  stored : room.Holds userId → room.registration = .stored

namespace Rooms

variable (rooms : Rooms) (room : Nat)

structure Housed (rooms : Rooms) (userId : UserId) : Prop where
  kept : rooms.Kept
  fit : ∀ (place : Nat) (room : Room), rooms.rooms[place]? = some room → room.Fit userId
  ended : ∀ item ∈ rooms.teardowns, ∃ room, rooms.rooms[item.room]? = some room ∧
    (item.stage ≠ .closing → room.channel.done = true)

structure Passes (rooms next : Rooms) (userId : UserId) : Prop where
  forth : ∀ (place : Nat) (before : Room), rooms.rooms[place]? = some before →
    ∃ room, next.rooms[place]? = some room ∧ room.name = before.name ∧ (room.Holds userId ↔ before.Holds userId)
  back : ∀ (place : Nat) (room : Room), next.rooms[place]? = some room → room.Holds userId →
    ∃ before, rooms.rooms[place]? = some before ∧ room.name = before.name ∧ before.Holds userId

variable {userId : UserId}

theorem housed_new : ({} : Rooms).Housed userId := by
  refine ⟨⟨?_, ?_, ?_, ?_⟩, ?_, ?_⟩
  · exact fun _ _ there => nomatch there
  · exact fun _ member => nomatch member
  · exact fun _ _ there => nomatch there
  · exact fun _ _ there => nomatch there
  · exact fun _ _ there => nomatch there
  · exact fun _ member => nomatch member

variable {place : Nat}

theorem housed_named (housed : rooms.Housed userId) {room : Room} (there : rooms.rooms[place]? = some room)
    (holds : room.Holds userId) : rooms.endpoint.get? room.name = some place ∧ room.channel.done = false := by
  have fit := housed.fit place room there
  have running : room.channel.done = false := Bool.eq_false_iff.mpr fun done => fit.absent done holds
  have standing : room.destroyed = false := by
    apply Bool.eq_false_iff.mpr
    intro destroyed
    rw [fit.destroyed destroyed] at running
    cases running
  exact ⟨housed.kept.stores place room there (fit.stored holds) standing, running⟩

theorem passes_back (rooms next : Rooms) (userId : UserId)
    (same : ∀ (place : Nat) (room : Room), next.rooms[place]? = some room → room.Holds userId →
      ∃ before, rooms.rooms[place]? = some before ∧ room.name = before.name ∧ (room.Holds userId ↔ before.Holds userId)) :
    ∀ (place : Nat) (room : Room), next.rooms[place]? = some room → room.Holds userId →
      ∃ before, rooms.rooms[place]? = some before ∧ room.name = before.name ∧ before.Holds userId := by
  intro place room there holds
  obtain ⟨before, found, name, iff⟩ := same place room there holds
  exact ⟨before, found, name, iff.mp holds⟩

theorem update_there (place other : Nat) (change : Room → Room) (before : Room)
    (there : rooms.rooms[other]? = some before) :
    (rooms.update place change).rooms[other]? = some (if place = other then change before else before) := by
  rw [update, getElem?_modify, there]
  rfl

theorem passes_update (rooms next : Rooms) (place : Nat) (change : Room → Room) (userId : UserId)
    (updated : next.rooms = (rooms.update place change).rooms)
    (same : ∀ entry, rooms.rooms[place]? = some entry →
      (change entry).name = entry.name ∧ ((change entry).Holds userId ↔ entry.Holds userId)) :
    Passes rooms next userId := by
  constructor
  · intro other before there
    rw [updated, update_there rooms place other change before there]
    by_cases here : place = other
    · rw [← here] at there
      obtain ⟨name, holds⟩ := same before there
      rw [if_pos here]
      exact ⟨change before, rfl, name, holds⟩
    · rw [if_neg here]
      exact ⟨before, rfl, rfl, Iff.rfl⟩
  · apply passes_back
    intro other room there _
    rw [updated] at there
    obtain ⟨before, found, changed⟩ := updated_room rooms change room there
    refine ⟨before, found, ?_⟩
    rw [changed]
    split
    · rename_i here
      rw [← here] at found
      exact same before found
    · exact ⟨rfl, Iff.rfl⟩

theorem housed_update {rooms next : Rooms} {change : Room → Room} (housed : rooms.Housed userId) (kept : next.Kept)
    (updated : next.rooms = (rooms.update place change).rooms)
    (fit : ∀ entry, rooms.rooms[place]? = some entry → entry.Fit userId → (change entry).Fit userId)
    (shut : ∀ entry, rooms.rooms[place]? = some entry → entry.channel.done = true → (change entry).channel.done = true)
    (items : ∀ item ∈ next.teardowns, (∃ room, rooms.rooms[item.room]? = some room ∧
      (item.stage ≠ .closing → room.channel.done = true)) ∨
      (item.room = place ∧ ∃ entry, rooms.rooms[place]? = some entry ∧
        (item.stage ≠ .closing → (change entry).channel.done = true))) : next.Housed userId := by
  refine ⟨kept, ?_, ?_⟩
  · intro other room there
    rw [updated] at there
    obtain ⟨before, found, changed⟩ := updated_room rooms change room there
    rw [changed]
    split
    · rename_i here
      rw [← here] at found
      exact fit before found (housed.fit place before found)
    · exact housed.fit other before found
  · intro item member
    rw [updated]
    rcases items item member with ⟨room, there, ended⟩ | ⟨here, entry, found, ended⟩
    · rw [update_there rooms place item.room change room there]
      by_cases here : place = item.room
      · rw [← here] at there
        rw [if_pos here]
        exact ⟨change room, rfl, fun later => shut room there (ended later)⟩
      · rw [if_neg here]
        exact ⟨room, rfl, ended⟩
    · rw [here, update_there rooms place place change entry found, if_pos rfl]
      exact ⟨change entry, rfl, ended⟩

variable {rooms}

theorem housed_create (lobby : Nat) (name : String) (nodeId : NodeId) (distributed : Bool) (heartbeatTimeout : Nat)
    (housed : rooms.Housed userId) :
    (rooms.create lobby name nodeId distributed heartbeatTimeout).Housed userId ∧
      Passes rooms (rooms.create lobby name nodeId distributed heartbeatTimeout) userId := by
  have kept := kept_create rooms lobby name nodeId distributed heartbeatTimeout housed.kept
  simp only [create] at kept ⊢
  split
  · exact ⟨housed, fun place before there => ⟨before, there, rfl, Iff.rfl⟩, fun place room there holds => ⟨room, there, rfl, holds⟩⟩
  rename_i free
  rw [if_neg free] at kept
  refine ⟨⟨kept, ?_, ?_⟩, ?_, ?_⟩
  · intro place room there
    rcases get_concat there with before | ⟨_, same⟩
    · exact housed.fit place room before
    rw [same]
    refine ⟨seated_new, ?_, ?_, ?_, ?_⟩
    · intro refused
      cases refused
    · intro destroyed
      cases destroyed
    · intro done
      cases done
    · intro holds
      cases holds
  · intro item member
    obtain ⟨room, there, ended⟩ := housed.ended item member
    obtain ⟨inside, _⟩ := List.getElem?_eq_some_iff.mp there
    exact ⟨room, (getElem?_append_left inside).trans there, ended⟩
  · intro place before there
    obtain ⟨inside, _⟩ := List.getElem?_eq_some_iff.mp there
    exact ⟨before, (getElem?_append_left inside).trans there, rfl, Iff.rfl⟩
  · intro place room there holds
    rcases get_concat there with before | ⟨_, same⟩
    · exact ⟨room, before, rfl, holds⟩
    · rw [same] at holds
      cases holds

variable {registration : Registration}

theorem fit_close {entry : Room} (fit : entry.Fit userId) (absent : ¬ entry.Holds userId) :
    Room.Fit { entry with channel := entry.channel.closeLocked, registration := registration } userId := by
  have gone := close_absent entry.channel userId (Bool.eq_false_iff.mpr absent)
  have outside : ¬ Room.Holds { entry with channel := entry.channel.closeLocked, registration := registration } userId := by
    intro holds
    exact Bool.false_ne_true (gone.symm.trans holds)
  refine ⟨seated_close entry.channel fit.seated, ?_, ?_, fun _ => outside, fun holds => absurd holds outside⟩
  · exact fun _ => close_done entry.channel
  · exact fun _ => close_done entry.channel

theorem passes_close {entry : Room} (absent : ¬ entry.Holds userId) :
    Room.Holds { entry with channel := entry.channel.closeLocked, registration := registration } userId ↔
      entry.Holds userId := by
  have gone := close_absent entry.channel userId (Bool.eq_false_iff.mpr absent)
  exact ⟨fun holds => absurd (gone.symm.trans holds) Bool.false_ne_true, fun holds => absurd holds absent⟩

theorem housed_same (housed : rooms.Housed userId) : rooms.Housed userId ∧ Passes rooms rooms userId :=
  ⟨housed, fun _ before there => ⟨before, there, rfl, Iff.rfl⟩, fun _ room there holds => ⟨room, there, rfl, holds⟩⟩

theorem housed_register (housed : rooms.Housed userId) :
    (rooms.register room).Housed userId ∧ Passes rooms (rooms.register room) userId := by
  have kept := kept_register rooms room housed.kept
  simp only [register] at kept ⊢
  cases found : rooms.rooms[room]? with
  | none => exact housed_same housed
  | some entry =>
    simp only [found] at kept ⊢
    by_cases settled : entry.registration ≠ .pending
    · rw [if_pos settled]
      exact housed_same housed
    rw [if_neg settled] at kept ⊢
    have absent : ∀ other, rooms.rooms[room]? = some other → ¬ other.Holds userId := by
      intro other there holds
      rw [found] at there
      cases there
      exact settled (by rw [(housed.fit room entry found).stored holds]; exact Registration.noConfusion)
    by_cases taken : rooms.endpoint.has entry.name
    · rw [if_pos taken] at kept ⊢
      constructor
      · apply housed_update housed kept rfl
        · exact fun other there fit => fit_close fit (absent other there)
        · exact fun other _ _ => close_done other.channel
        · exact fun item member => .inl (housed.ended item member)
      · refine passes_update rooms _ room
          (fun entry => { entry with channel := entry.channel.closeLocked, registration := .refused }) userId ?_ ?_
        · rfl
        · exact fun other there => ⟨rfl, passes_close (absent other there)⟩
    · rw [if_neg taken] at kept ⊢
      constructor
      · apply housed_update housed kept rfl
        · intro other there fit
          refine ⟨fit.seated, ?_, fit.destroyed, fit.absent, fun _ => rfl⟩
          intro refused
          cases refused
        · exact fun other _ done => done
        · exact fun item member => .inl (housed.ended item member)
      · refine passes_update rooms _ room (fun entry => { entry with registration := .stored }) userId ?_ ?_
        · rfl
        · exact fun other _ => ⟨rfl, Iff.rfl⟩

theorem housed_perform {op : ChannelOp} (housed : rooms.Housed userId)
    (seated : ∀ entry, rooms.rooms[room]? = some entry → (entry.channel.act op).Seated)
    (shut : ∀ entry, rooms.rooms[room]? = some entry → entry.channel.done = true →
      (entry.channel.act op).done = true ∧ ((entry.channel.act op).memberships.has userId = true → entry.Holds userId))
    (running : ∀ entry, rooms.rooms[room]? = some entry → entry.channel.done = false → (entry.channel.act op).done = false)
    (stored : ∀ entry, rooms.rooms[room]? = some entry → entry.channel.done = false →
      (entry.channel.act op).memberships.has userId = true → entry.registration = .stored) :
    (rooms.perform room op).Housed userId := by
  have kept := kept_perform rooms room op housed.kept
  simp only [perform] at kept ⊢
  cases found : rooms.rooms[room]? with
  | none => exact housed
  | some entry =>
    simp only [found] at kept ⊢
    apply housed_update housed kept rfl
    · intro other there fit
      refine ⟨seated other there, fun refused => (shut other there (fit.refused refused)).1,
        fun destroyed => (shut other there (fit.destroyed destroyed)).1, ?_, ?_⟩
      · intro done holds
        cases before : other.channel.done with
        | true => exact fit.absent before ((shut other there before).2 holds)
        | false => exact Bool.false_ne_true ((running other there before).symm.trans done)
      intro holds
      cases before : other.channel.done with
      | true => exact absurd ((shut other there before).2 holds) (fit.absent before)
      | false => exact stored other there before holds
    · exact fun other there done => (shut other there done).1
    · intro item member
      rcases mem_append.mp member with before | started
      · exact .inl (housed.ended item before)
      · rw [eq_of_mem_replicate started]
        exact .inr ⟨rfl, entry, found, fun later => absurd rfl later⟩

variable {user : Transport}

theorem add_done {channel : Channel} (seated : channel.Seated) : (channel.addUser user).1.done = channel.done := by
  cases enters channel seated with
  | refused _ same => rw [same]
  | entered running _ _ still => rw [still, running]

theorem housed_add (user : Transport) (housed : rooms.Housed userId)
    (registered : user.id = userId → ∀ entry, rooms.rooms[room]? = some entry → entry.registration ≠ .pending) :
    (rooms.perform room (.addUser user)).Housed userId := by
  apply housed_perform room housed
  · intro entry there
    have seated := (housed.fit room entry there).seated
    simp only [Channel.act]
    cases enters entry.channel seated with
    | refused _ same =>
      rw [same]
      exact seated
    | entered _ _ seated => exact seated
  · intro entry there done
    have same : entry.channel.addUser user = (entry.channel, some .shuttingDown) := by
      simp [Channel.addUser, checkState, done]
    simp only [Channel.act, same]
    exact ⟨done, fun holds => holds⟩
  · intro entry there running
    exact (add_done (housed.fit room entry there).seated).trans running
  · intro entry there running holds
    have fit := housed.fit room entry there
    simp only [Channel.act] at holds
    cases enters entry.channel fit.seated with
    | refused _ same =>
      rw [same] at holds
      exact fit.stored holds
    | entered _ _ _ _ members =>
      rcases (members userId).mp holds with own | before
      · cases kind : entry.registration with
        | pending => exact absurd kind (registered own.symm entry there)
        | stored => rfl
        | refused => exact absurd ((fit.refused kind).symm.trans running) Bool.true_eq_false.mp
      · exact fit.stored before

theorem housed_remove (leaver : UserId) (reason : String) (housed : rooms.Housed userId) :
    (rooms.perform room (.removeUser leaver reason)).Housed userId := by
  have fewer : ∀ entry, rooms.rooms[room]? = some entry →
      (entry.channel.removeUser leaver reason).1.memberships.has userId = true → entry.Holds userId := by
    intro entry there holds
    have out := departs leaver reason (housed.fit room entry there).seated
    by_cases own : userId = leaver
    · cases done : entry.channel.done with
      | true =>
        have same : entry.channel.removeUser leaver reason = (entry.channel, some .shuttingDown) := by
          simp [Channel.removeUser, checkState, done]
        rw [same] at holds
        exact holds
      | false =>
        rw [own, out.gone done] at holds
        cases holds
    · rw [out.others userId own] at holds
      exact holds
  apply housed_perform room housed
  · exact fun entry there => (departs leaver reason (housed.fit room entry there).seated).seated
  · intro entry there done
    have out := departs leaver reason (housed.fit room entry there).seated
    exact ⟨out.done.trans done, fewer entry there⟩
  · intro entry there running
    exact (departs leaver reason (housed.fit room entry there).seated).done.trans running
  · exact fun entry there _ holds => (housed.fit room entry there).stored (fewer entry there holds)

theorem passes_perform (op : ChannelOp) (userId : UserId) (same : ∀ entry, rooms.rooms[room]? = some entry →
      ((entry.channel.act op).memberships.has userId = true ↔ entry.Holds userId)) :
    Passes rooms (rooms.perform room op) userId := by
  simp only [perform]
  cases found : rooms.rooms[room]? with
  | none => exact ⟨fun _ before there => ⟨before, there, rfl, Iff.rfl⟩, fun _ room there holds => ⟨room, there, rfl, holds⟩⟩
  | some entry =>
    refine passes_update rooms _ room
      (fun entry => { entry with channel := entry.channel.act op, arrived := arrivals entry op }) userId ?_ ?_
    · rfl
    · exact fun other there => ⟨rfl, same other there⟩

theorem passes_add (housed : rooms.Housed userId) (other : user.id ≠ userId) :
    Passes rooms (rooms.perform room (.addUser user)) userId := by
  apply passes_perform
  intro entry there
  simp only [Channel.act]
  cases enters entry.channel (housed.fit room entry there).seated with
  | refused _ same =>
    rw [same]
    exact Iff.rfl
  | entered _ _ _ _ members =>
    rw [members]
    exact ⟨fun either => either.resolve_left fun own => other own.symm, fun holds => .inr holds⟩

theorem passes_remove {leaver : UserId} (reason : String) (housed : rooms.Housed userId) (other : leaver ≠ userId) :
    Passes rooms (rooms.perform room (.removeUser leaver reason)) userId := by
  apply passes_perform
  intro entry there
  have out := departs leaver reason (housed.fit room entry there).seated
  simp only [Channel.act, out.others userId other.symm]
  exact Iff.rfl

theorem housed_teardown (timely : rooms.Timely (.teardown place)) (housed : rooms.Housed userId) :
    (rooms.teardown place).Housed userId ∧ Passes rooms (rooms.teardown place) userId := by
  have kept := kept_teardown rooms timely housed.kept
  cases there : rooms.teardowns[place]? with
  | none =>
    simp only [teardown, there]
    exact housed_same housed
  | some item =>
    obtain ⟨entry, found, ended⟩ := housed.ended item (mem_of_getElem? there)
    have soon := timely item entry there found
    rw [teardown_turn rooms there found] at kept ⊢
    cases stage : item.stage with
    | closing =>
      rw [stage] at soon kept
      have absent : ∀ other, rooms.rooms[item.room]? = some other → ¬ other.Holds userId := by
        intro other same holds
        rw [found] at same
        cases same
        have fit := housed.fit item.room entry found
        rcases soon with done | empty
        · exact fit.absent done holds
        have nobody := len_zero empty userId
        rw [(fit.seated.matched userId).1] at nobody
        exact Bool.false_ne_true (nobody.symm.trans holds)
      constructor
      · apply housed_update housed kept rfl
        · exact fun other same fit => fit_close fit (absent other same)
        · exact fun other _ _ => close_done other.channel
        · intro running member
          rcases mem_or_eq_of_mem_set member with before | same
          · exact .inl (housed.ended running before)
          · rw [same]
            exact .inr ⟨rfl, entry, found, fun _ => close_done entry.channel⟩
      · refine passes_update rooms _ item.room (fun entry => { entry with channel := entry.channel.closeLocked }) userId ?_ ?_
        · rfl
        · exact fun other same => ⟨rfl, passes_close (absent other same)⟩
    | hangingUp rest =>
      rw [stage] at kept
      have nobody := housed.kept.nobody item (mem_of_getElem? there) rest stage
      rw [nobody] at kept ⊢
      refine ⟨⟨kept, housed.fit, ?_⟩, fun _ before held => ⟨before, held, rfl, Iff.rfl⟩,
        fun _ room held holds => ⟨room, held, rfl, holds⟩⟩
      intro running member
      rcases mem_or_eq_of_mem_set member with before | same
      · exact housed.ended running before
      · rw [same]
        exact ⟨entry, found, fun _ => ended (by rw [stage]; exact TeardownStage.noConfusion)⟩
    | destroying =>
      rw [stage] at kept
      have done := ended (by rw [stage]; exact TeardownStage.noConfusion)
      simp only [turn] at kept ⊢
      by_cases locked : rooms.locked entry.lobby
      · rw [if_pos locked]
        exact housed_same housed
      rw [if_neg locked] at kept ⊢
      constructor
      · apply housed_update housed kept rfl
        · intro other same fit
          rw [found] at same
          cases same
          exact ⟨fit.seated, fit.refused, fun _ => done, fit.absent, fit.stored⟩
        · exact fun other _ shut => shut
        · exact fun running member => .inl (housed.ended running (mem_of_mem_eraseIdx member))
      · refine passes_update rooms _ item.room (fun entry => { entry with destroyed := true }) userId ?_ ?_
        · rfl
        · exact fun other _ => ⟨rfl, Iff.rfl⟩

end Rooms

end PondSocket.Go
