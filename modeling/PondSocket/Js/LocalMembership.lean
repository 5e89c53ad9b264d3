import PondSocket.Js.ChannelTables
import PondSocket.Js.Membership
import PondSocket.Library.Run

namespace PondSocket.Js

open Library

namespace Tables

variable (tables : Tables)

def mode (tables : Tables) : Bool × Bool × Bool :=
  (tables.closed, tables.publisher.isClosed, tables.staleNodeTimer)

structure HostedListed (tables : Tables) : Prop where
  listed : ∀ userId, tables.hosts userId → tables.lists userId
  shut : tables.closed = true →
    tables.publisher.isClosed = true ∧ tables.staleNodeTimer = false ∧ ∀ userId, ¬ tables.hosts userId

theorem hosted_listed_of_sub {tables next : Tables} (inv : tables.HostedListed) (same : next.mode = tables.mode)
    (kept : ∀ userId, next.hosts userId → tables.hosts userId ∧ (tables.lists userId → next.lists userId)) :
    next.HostedListed := by
  obtain ⟨closed, publisher, timer⟩ : next.closed = tables.closed ∧
      next.publisher.isClosed = tables.publisher.isClosed ∧ next.staleNodeTimer = tables.staleNodeTimer := by
    simpa [mode] using same
  refine ⟨fun userId hosted => (kept userId hosted).2 (inv.listed userId (kept userId hosted).1), fun ended => ?_⟩
  obtain ⟨deaf, still, nobody⟩ := inv.shut (closed.symm.trans ended)
  exact ⟨publisher.trans deaf, timer.trans still, fun userId hosted => nobody userId (kept userId hosted).1⟩

theorem hosted_listed_shut : tables.shut.HostedListed :=
  ⟨fun _ hosted => (Bool.false_ne_true hosted).elim, fun _ => ⟨rfl, rfl, fun _ hosted => Bool.false_ne_true hosted⟩⟩

theorem hosted_listed_list (inv : tables.HostedListed) (userId : UserId) (assigns : PondAssigns) :
    (tables.list userId assigns).HostedListed :=
  hosted_listed_of_sub inv rfl fun other hosted =>
    ⟨hosted, fun listed => (list_lists tables).mpr (.inr listed)⟩

variable {userId : UserId} {sourceNodeId : Option NodeId}

theorem hosted_listed_untrack (inv : tables.HostedListed) : (tables.untrack sourceNodeId userId).HostedListed := by
  rw [untrack_frame]
  exact hosted_listed_of_sub inv rfl fun other hosted => ⟨hosted, id⟩

theorem hosted_listed_forget (inv : tables.HostedListed) (remote : ¬ tables.hosts userId) :
    (tables.forget userId).HostedListed := by
  refine hosted_listed_of_sub inv rfl fun other hosted => ⟨hosted, fun listed => ?_⟩
  have different : other ≠ userId := fun same => remote (same ▸ hosted)
  exact (forget_lists tables).mpr ⟨different, listed⟩

theorem mode_unsubscribe : (tables.unsubscribe userId).mode = tables.mode := by
  unfold unsubscribe
  cases tables.userSubscriptions.get? userId <;> rfl

theorem hosted_listed_drop_local (inv : tables.HostedListed) :
    ((tables.forget userId).unsubscribe userId).HostedListed := by
  refine hosted_listed_of_sub inv (mode_unsubscribe (tables.forget userId)) fun other hosted => ?_
  obtain ⟨different, before⟩ := (unsubscribe_hosts (tables.forget userId)).mp hosted
  refine ⟨before, fun listed => ?_⟩
  rw [unsubscribe_frame]
  exact (forget_lists tables).mpr ⟨different, listed⟩

variable {now : Nat}

-- The two steps that forget a user without asking whether it is hosted here.
def SparesLocal (tables : Tables) (now : Nat) (op : EngineOp) : Prop :=
  match op with
  | .receive message =>
    match message.body with
    | .userLeft userId => ¬ tables.hosts userId
    | _ => True
  | .staleNodeTick =>
    tables.staleNodeTimer = true → ∀ node ∈ tables.staleNodes now, ∀ userId, tables.tracks node userId →
      ¬ tables.hosts userId
  | _ => True

variable {tables}

theorem hosted_listed_step (inv : tables.HostedListed) {op : EngineOp} (spared : tables.SparesLocal now op) :
    (tables.step now op).HostedListed := by
  refine step_rule (motive := Tables.HostedListed) tables now (fun _ _ => hosted_listed_shut _) fun next shift => ?_
  cases shift with
  | relisted userId assigns | deaf userId assigns => exact hosted_listed_list tables inv userId assigns
  | hosted userId assigns onMessage _ _ _ _ listening =>
    refine ⟨fun other hosted => ?_, fun ended => absurd (inv.shut ended).1 listening⟩
    refine (list_lists tables).mpr ?_
    exact ((host_hosts _ _ other).mp hosted).imp id (inv.listed other)
  | admitted _ _ _ admitted =>
    have lists := fun userId => (@admitted_lists now _ userId _ _ _ admitted).1
    rw [admitted_frame now admitted] at lists ⊢
    exact hosted_listed_of_sub inv rfl fun userId hosted => ⟨hosted, lists userId⟩
  | evicted => exact hosted_listed_drop_local tables inv
  | left _ userId _ remote =>
    refine hosted_listed_untrack _ (hosted_listed_forget tables inv fun hosted => ?_)
    obtain ⟨⟨_, _, _, _⟩, rfl, rfl⟩ := remote hosted
    exact spared hosted
  | ticked ticking cleans =>
    subst cleans
    refine hosted_listed_of_sub inv (by rw [drop_all_frame]; rfl) fun userId hosted => ?_
    rw [drop_all_frame] at hosted
    refine ⟨hosted, fun listed => (drop_all_lists tables).mpr ⟨fun node stale tracked => ?_, listed⟩⟩
    exact spared ticking node stale userId tracked hosted
  | _ => exact hosted_listed_of_sub inv rfl fun _ hosted => ⟨hosted, id⟩

theorem listed_after_spares (inv : tables.HostedListed) {op : EngineOp}
    (after : (tables.step now op).closed = false → ∀ userId, (tables.step now op).hosts userId →
      (tables.step now op).lists userId) : tables.SparesLocal now op := by
  have running : ∀ userId, tables.hosts userId → tables.closed = false := fun userId hosted => by
    cases ended : tables.closed with
    | false => rfl
    | true => exact absurd hosted ((inv.shut ended).2.2 userId)
  cases op with
  | receive message =>
    obtain ⟨_, _, _, body⟩ := message
    cases body with
    | userLeft userId =>
      intro hosted
      have gone := after (by
        dsimp only [step, receive]
        rw [untrack_frame]
        exact running userId hosted) userId (by
        dsimp only [step, receive]
        rw [untrack_frame]
        exact hosted)
      dsimp only [step, receive] at gone
      rw [untrack_frame] at gone
      exact ((forget_lists tables).mp gone).1 rfl
    | _ => trivial
  | staleNodeTick =>
    intro ticking node stale userId tracked hosted
    have gone := after (by
      dsimp only [step, tick]
      rw [if_pos ticking, drop_all_frame]
      exact running userId hosted) userId (by
      dsimp only [step, tick]
      rw [if_pos ticking, drop_all_frame]
      exact hosted)
    dsimp only [step, tick] at gone
    rw [if_pos ticking] at gone
    exact ((drop_all_lists tables).mp gone).1 node stale tracked
  | _ => trivial

end Tables

namespace ChannelEngine

def LocalMembersListed (engine : ChannelEngine) : Prop :=
  engine.closed = false → ∀ userId, engine.userSubscriptions.has userId = true → userId ∈ engine.users

def SparesLocal (engine : ChannelEngine) (label : Nat × EngineOp) : Prop :=
  engine.tables.SparesLocal label.1 label.2

theorem local_members_listed_iff (endpointId name : String) (nodeId : NodeId) (backend : Option DistributedBackend)
    (labels : List (Nat × EngineOp)) :
    Always stepAt LocalMembersListed (.new endpointId name nodeId backend) labels ↔
      Follows stepAt SparesLocal (.new endpointId name nodeId backend) labels := by
  have listed : ∀ engine : ChannelEngine, engine.LocalMembersListed ↔
      (engine.tables.closed = false → ∀ userId, engine.tables.hosts userId → engine.tables.lists userId) := by
    intro engine
    exact forall_congr' fun _ => forall_congr' fun userId => imp_congr_right fun _ =>
      OrderedMap.mem_keys
  refine always_iff_follows stepAt (fun _ _ => True) SparesLocal LocalMembersListed
    (fun engine => engine.tables.HostedListed) ?_ ?_ ?_ _ labels ?_ ?_
  · exact fun engine inv => (listed engine).mpr fun _ => inv.listed
  · intro engine label inv _ spared
    rw [stepAt, tables_act]
    exact Tables.hosted_listed_step inv spared
  · intro engine label inv _ after
    rw [listed, stepAt, tables_act] at after
    exact Tables.listed_after_spares inv after
  · exact ⟨fun _ hosted => (Bool.false_ne_true hosted).elim, fun ended => (Bool.false_ne_true ended).elim⟩
  · exact follows_all stepAt _ _ labels fun _ _ => trivial

theorem user_left_unlists_local :
    ¬ (run stepAt (.new "/socket" "/room" "A" (some ⟨"A", 90000⟩))
      [(0, .addUser "u" .empty "socket" (.supplied "join")),
       (1, .receive ⟨"/socket", "/room", some "B", .stateRequest "B"⟩),
       (2, .receive ⟨"/socket", "/room", some "B", .userJoined "u" (some .empty) .empty⟩),
       (3, .receive ⟨"/socket", "/room", some "B", .userLeft "u"⟩)]).LocalMembersListed :=
  fun listed => absurd (listed (by decide) "u" (by decide)) (by decide)

end ChannelEngine

end PondSocket.Js
