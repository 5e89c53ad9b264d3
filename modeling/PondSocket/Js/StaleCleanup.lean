import PondSocket.Js.ChannelTables
import PondSocket.Js.Membership
import PondSocket.Library.Run

namespace PondSocket.Js

open Library OrderedMap Tables

namespace Tables

variable (tables : Tables)

def tracked (tables : Tables) (userId : UserId) : Prop := ∃ node, tables.tracks node userId

def held (tables : Tables) (userId : UserId) : Prop := tables.lists userId ∨ tables.presents userId

-- Every replicated user has a row that a cleanup can find.
structure Attributed (tables : Tables) : Prop where
  attributed : ∀ userId, tables.held userId → tables.hosts userId ∨ tables.tracked userId
  seen : ∀ node, tables.nodeUsers.has node = true → tables.nodeLastSeen.has node = true

variable {userId : UserId}

theorem tracks_has {node : NodeId} (tracked : tables.tracks node userId) : tables.nodeUsers.has node = true := by
  obtain ⟨users, row, _⟩ := tracked
  exact has_iff.mpr ⟨users, row⟩

theorem attributed_of_sub {tables next : Tables} (inv : tables.Attributed)
    (rows : next.nodeUsers = tables.nodeUsers) (times : next.nodeLastSeen = tables.nodeLastSeen)
    (kept : ∀ userId, next.held userId →
      next.hosts userId ∨ tables.tracked userId ∨ (tables.held userId ∧ (tables.hosts userId → next.hosts userId))) :
    next.Attributed := by
  have same : ∀ userId, tables.tracked userId → next.tracked userId := fun userId => by
    rintro ⟨node, users, row, member⟩
    exact ⟨node, users, rows ▸ row, member⟩
  refine ⟨fun userId holding => ?_, fun node row => times ▸ inv.seen node (rows ▸ row)⟩
  rcases kept userId holding with hosted | tracked | ⟨before, still⟩
  · exact .inl hosted
  · exact .inr (same userId tracked)
  · exact (inv.attributed userId before).imp still (same userId)

theorem attributed_shut : tables.shut.Attributed :=
  ⟨fun _ holding => holding.elim (fun listed => (Bool.false_ne_true listed).elim)
    (fun present => (Bool.false_ne_true present).elim), fun _ row => (Bool.false_ne_true row).elim⟩

variable {assigns : PondAssigns}

theorem attributed_list (inv : tables.Attributed) (known : tables.hosts userId ∨ tables.tracked userId) :
    (tables.list userId assigns).Attributed := by
  refine attributed_of_sub inv rfl rfl fun other holding => ?_
  rcases holding with listed | present
  · rcases (list_lists tables).mp listed with rfl | before
    · exact known.imp id Or.inl
    · exact .inr (.inr ⟨.inl before, id⟩)
  · exact .inr (.inr ⟨.inr present, id⟩)

theorem attributed_present (inv : tables.Attributed) {presence : PondPresence}
    (known : tables.hosts userId ∨ tables.tracked userId) : (tables.present userId presence).Attributed := by
  refine attributed_of_sub inv rfl rfl fun other holding => ?_
  rcases holding with listed | present
  · exact .inr (.inr ⟨.inl listed, id⟩)
  rcases (present_presents tables userId other presence).mp present with rfl | before
  · exact known.imp id Or.inl
  · exact .inr (.inr ⟨.inr before, id⟩)

theorem attributed_unpresent (inv : tables.Attributed) : (tables.unpresent userId).Attributed := by
  refine attributed_of_sub inv rfl rfl fun other holding => .inr (.inr ⟨?_, id⟩)
  exact holding.imp id fun present => ((unpresent_presents tables).mp present).2

theorem forget_held {other : UserId} : (tables.forget userId).held other ↔ other ≠ userId ∧ tables.held other := by
  rw [held, forget_lists, forget_presents, held]
  tauto

theorem attributed_forget (inv : tables.Attributed) : (tables.forget userId).Attributed :=
  attributed_of_sub inv rfl rfl fun other holding =>
    .inr (.inr ⟨((forget_held tables).mp holding).2, id⟩)

theorem attributed_drop_local (inv : tables.Attributed) : ((tables.forget userId).unsubscribe userId).Attributed := by
  refine attributed_of_sub inv (by rw [unsubscribe_frame]; rfl) (by rw [unsubscribe_frame]; rfl)
    fun other holding => .inr (.inr ?_)
  rw [unsubscribe_frame] at holding
  obtain ⟨different, before⟩ := (forget_held tables).mp holding
  exact ⟨before, fun hosted => (unsubscribe_hosts _).mpr ⟨different, hosted⟩⟩

theorem attributed_untrack (inv : tables.Attributed) (sourceNodeId : Option NodeId)
    (userId : UserId) (gone : ¬ tables.held userId) : (tables.untrack sourceNodeId userId).Attributed := by
  have rows : ∀ node, (tables.untrack sourceNodeId userId).nodeUsers.has node = true →
      tables.nodeUsers.has node = true := by
    intro node row
    unfold untrack at row
    cases sourceNodeId with
    | none => exact row
    | some source =>
      dsimp only at row
      split at row
      · exact row
      cases found : tables.nodeUsers.get? source with
      | none => simpa only [found] using row
      | some users =>
        simp only [found] at row
        split at row
        · exact (has_delete.mp row).2
        rcases has_set.mp row with rfl | before
        · exact has_iff.mpr ⟨users, found⟩
        · exact before
  have frame := untrack_frame tables sourceNodeId userId
  refine ⟨fun other holding => ?_, fun node row => ?_⟩
  · have before : tables.held other := by
      rw [frame] at holding
      exact holding
    have different : other ≠ userId := fun same => gone (same ▸ before)
    rcases inv.attributed other before with hosted | ⟨node, tracked⟩
    · left
      rw [frame]
      exact hosted
    · exact .inr ⟨node, untrack_keeps tables different tracked⟩
  · have before := inv.seen node (rows node row)
    rw [frame]
    exact before

variable {source : NodeId}

theorem attributed_list_track (inv : tables.Attributed) (now : Nat) (named : source ≠ "") (userId : UserId)
    (assigns : PondAssigns) : ((tables.list userId assigns).track now (some source) userId).Attributed := by
  have frame := track_frame (tables.list userId assigns) now (some source) userId
  have tracks := fun node other => track_tracks (tables.list userId assigns) now node userId other named
  have times := fun node => track_seen (tables.list userId assigns) now source node userId named
  refine ⟨fun other holding => ?_, fun node row => ?_⟩
  · by_cases same : other = userId
    · exact .inr ⟨source, (tracks source other).mpr (.inl ⟨rfl, same⟩)⟩
    · have before : tables.held other := by
        rw [frame] at holding
        refine holding.imp (fun listed => ?_) id
        exact ((list_lists tables).mp listed).resolve_left same
      rcases inv.attributed other before with hosted | ⟨node, tracked⟩
      · left
        rw [frame]
        exact hosted
      · exact .inr ⟨node, (tracks node other).mpr (.inr tracked)⟩
  · refine (times node).mpr ?_
    by_cases same : node = source
    · exact .inl same
    refine .inr (inv.seen node ?_)
    simp only [track, if_neg named] at row
    exact (has_set.mp row).resolve_left same

variable {now : Nat}

theorem list_track_tracked (named : source ≠ "") :
    ((tables.list userId assigns).track now (some source) userId).tracked userId :=
  ⟨source, (track_tracks _ now source userId userId named).mpr (.inl ⟨rfl, rfl⟩)⟩

variable {next : Tables} {named : UserId → Prop}

theorem attributed_admitted (addressed : source ≠ "") {tables : Tables} (inv : tables.Attributed)
    (admitted : Admitted now (some source) named tables next) : next.Attributed := by
  induction admitted with
  | none => exact inv
  | user userId assigns presence _ _ _ ih =>
    have added := attributed_list_track _ inv now addressed userId assigns
    cases presence with
    | none => exact ih added
    | some => exact ih (attributed_present _ added (.inr (list_track_tracked _ addressed)))

theorem attributed_forget_untrack (inv : tables.Attributed) (sourceNodeId : Option NodeId)
    (userId : UserId) : ((tables.forget userId).untrack sourceNodeId userId).Attributed :=
  attributed_untrack _ (attributed_forget tables inv) sourceNodeId userId
    fun holding => ((forget_held tables).mp holding).1 rfl

-- The local presence calls are for local users, the messages name their node.
def Addressed (tables : Tables) (op : EngineOp) : Prop :=
  match op with
  | .receive message => ∃ source, message.sourceNodeId = some source ∧ source ≠ ""
  | .trackPresence userId _ | .updatePresence userId _ | .upsertPresence userId _ => tables.hosts userId
  | _ => True

-- The two steps that hold a user the engine neither hosts nor tracks.
def Attributes (tables : Tables) (op : EngineOp) : Prop :=
  match op with
  | .receive message =>
    match message.body with
    | .presenceUpdate userId (some _) => tables.hosts userId ∨ tables.tracked userId
    | _ => True
  | .addUser userId _ _ _ =>
    tables.publisher.isClosed = true → tables.lists userId ∨ tables.hosts userId ∨ tables.tracked userId
  | _ => True

theorem attributed_drop_all (inv : tables.Attributed) (nodes : List NodeId) : (nodes.foldl dropNode tables).Attributed := by
  have frame := drop_all_frame tables nodes
  have tracks := drop_all_tracks tables nodes
  refine ⟨fun userId holding => ?_, fun node row => ?_⟩
  · have before : (∀ node ∈ nodes, ¬ tables.tracks node userId) ∧ tables.held userId := by
      rcases holding with listed | present
      · exact ((drop_all_lists tables).mp listed).imp id Or.inl
      · exact ((drop_all_presents tables).mp present).imp id Or.inr
    rcases inv.attributed userId before.2 with hosted | ⟨node, tracked⟩
    · left
      rw [frame]
      exact hosted
    · exact .inr ⟨node, (tracks node userId).mpr ⟨fun stale => before.1 node stale tracked, tracked⟩⟩
  · have rows : ∀ (nodes : List NodeId) (start : Tables),
        (nodes.foldl dropNode start).nodeUsers.has node = true → node ∉ nodes ∧ start.nodeUsers.has node = true := by
      intro nodes
      induction nodes with
      | nil => exact fun start row => ⟨by simp, row⟩
      | cons first _ ih =>
        intro start row
        obtain ⟨outside, later⟩ := ih (start.dropNode first) row
        rw [drop_node_frame] at later
        obtain ⟨different, before⟩ := has_delete.mp later
        exact ⟨by simp [outside, different], before⟩
    obtain ⟨fresh, before⟩ := rows _ tables row
    exact (drop_all_seen tables).mpr ⟨fresh, inv.seen node before⟩

theorem presents_known {op : EngineOp} (told : op.presents userId) (addressed : tables.Addressed op)
    (known : tables.Attributes op) : tables.hosts userId ∨ tables.tracked userId := by
  cases op with
  | trackPresence | updatePresence | upsertPresence => exact .inl (told ▸ addressed)
  | receive message =>
    obtain ⟨_, _, _, body⟩ := message
    cases body with
    | presenceUpdate _ presence =>
      cases presence with
      | none => cases told
      | some => exact told ▸ known
    | _ => cases told
  | _ => cases told

theorem attributed_step (inv : tables.Attributed) {op : EngineOp} (addressed : tables.Addressed op)
    (known : tables.Attributes op) : (tables.step now op).Attributed := by
  refine step_rule (motive := Tables.Attributed) tables now (fun _ _ => attributed_shut _) fun next shift => ?_
  cases shift with
  | kept | subscribed => exact ⟨inv.attributed, inv.seen⟩
  | heard => exact ⟨inv.attributed, fun node row => has_set.mpr (.inr (inv.seen node row))⟩
  | relisted userId _ listed => exact attributed_list tables inv (inv.attributed userId (.inl listed))
  | deaf _ _ _ _ joins unlisted closed =>
    subst joins
    exact attributed_list tables inv ((known closed).resolve_left unlisted)
  | hosted userId =>
    refine attributed_of_sub inv rfl rfl fun other holding => ?_
    by_cases same : other = userId
    · exact .inl ((host_hosts _ _ other).mpr (.inl same))
    · refine .inr (.inr ⟨?_, fun hosted => (host_hosts _ _ other).mpr (.inr hosted)⟩)
      exact holding.imp (fun listed => ((list_lists tables).mp listed).resolve_left same) id
  | presented _ _ told => exact attributed_present tables inv (presents_known tables told addressed known)
  | unpresented => exact attributed_unpresent tables inv
  | admitted message _ received admitted =>
    subst received
    obtain ⟨source, sent, named⟩ := addressed
    rw [sent] at admitted
    exact attributed_admitted named inv admitted
  | evicted => exact attributed_drop_local tables inv
  | left source userId => exact attributed_forget_untrack tables inv source userId
  | ticked => exact attributed_drop_all tables inv _

def Covered (tables : Tables) : Prop :=
  ∀ userId, tables.held userId →
    tables.hosts userId ∨ ∃ node, tables.tracks node userId ∧ tables.nodeLastSeen.has node = true

variable {tables}

theorem attributed_covered (inv : tables.Attributed) : tables.Covered := by
  intro userId holding
  refine (inv.attributed userId holding).imp id ?_
  rintro ⟨node, tracked⟩
  exact ⟨node, tracked, inv.seen node (tracks_has tables tracked)⟩

theorem attributes_of_covered {op : EngineOp} (after : (tables.step now op).Covered) : tables.Attributes op := by
  cases op with
  | addUser userId assigns onMessage requestId =>
    intro deaf
    by_cases listed : tables.lists userId
    · exact .inl listed
    have result : tables.step now (.addUser userId assigns onMessage requestId) = tables.list userId assigns := by
      dsimp only [step, join]
      rw [if_neg (show ¬ tables.assignsCache.has userId = true from listed), if_pos deaf]
    rw [result] at after
    rcases after userId (.inl ((list_lists tables).mpr (.inl rfl))) with hosted | ⟨node, tracked, _⟩
    · exact .inr (.inl hosted)
    · exact .inr (.inr ⟨node, tracked⟩)
  | receive message =>
    obtain ⟨_, _, _, body⟩ := message
    cases body with
    | presenceUpdate userId presence =>
      cases presence with
      | none => trivial
      | some presence =>
        have present := (present_presents tables userId userId presence).mpr (.inl rfl)
        rcases after userId (.inr present) with hosted | ⟨node, tracked, _⟩
        · exact .inl hosted
        · exact .inr ⟨node, tracked⟩
    | _ => trivial
  | _ => trivial

theorem tick_leaves_hosted (covered : tables.Covered) {backend : DistributedBackend}
    (ticking : tables.staleNodeTimer = true) (configured : tables.backend = some backend)
    (silent : ∀ node seen, tables.nodeLastSeen.get? node = some seen → seen + backend.heartbeatTimeoutMs ≤ now)
    (holding : (tables.tick now).held userId) : tables.hosts userId := by
  have stale : ∀ node, tables.nodeLastSeen.has node = true → node ∈ tables.staleNodes now := by
    intro node known
    obtain ⟨seen, row⟩ := has_iff.mp known
    have late : decide (seen + backend.heartbeatTimeoutMs ≤ now) = true := decide_eq_true (silent node seen row)
    unfold staleNodes
    rw [configured]
    exact List.mem_map.mpr ⟨(node, seen), List.mem_filter.mpr ⟨mem_entries.mpr row, late⟩, rfl⟩
  unfold tick at holding
  rw [if_pos ticking] at holding
  have before : (∀ node ∈ tables.staleNodes now, ¬ tables.tracks node userId) ∧ tables.held userId := by
    rcases holding with listed | present
    · exact ((drop_all_lists tables).mp listed).imp id Or.inl
    · exact ((drop_all_presents tables).mp present).imp id Or.inr
  rcases covered userId before.2 with hosted | ⟨node, tracked, known⟩
  · exact hosted
  · exact absurd tracked (before.1 node (stale node known))

end Tables

namespace ChannelEngine

def Covered (engine : ChannelEngine) : Prop :=
  ∀ userId, engine.assignsCache.has userId = true ∨ engine.getPresence.has userId = true →
    engine.userSubscriptions.has userId = true ∨
      ∃ node users, engine.nodeUsers.get? node = some users ∧ users.has userId = true ∧
        engine.nodeLastSeen.has node = true

def Addressed (engine : ChannelEngine) (label : Nat × EngineOp) : Prop := engine.tables.Addressed label.2

def Attributes (engine : ChannelEngine) (label : Nat × EngineOp) : Prop := engine.tables.Attributes label.2

theorem covered_iff {engine : ChannelEngine} : engine.Covered ↔ engine.tables.Covered := by
  refine forall_congr' fun userId => imp_congr_right fun _ => or_congr_right (exists_congr fun node => ?_)
  constructor
  · rintro ⟨users, row, member, known⟩
    exact ⟨⟨users, row, member⟩, known⟩
  · rintro ⟨⟨users, row, member⟩, known⟩
    exact ⟨users, row, member, known⟩

-- The tick leaves nobody but the users that are joined here.
def CleansUp (engine : ChannelEngine) : Prop :=
  ∀ now backend, engine.staleNodeTimer = true → engine.backend = some backend →
    (∀ node seen, engine.nodeLastSeen.get? node = some seen → seen + backend.heartbeatTimeoutMs ≤ now) →
    ∀ userId, (engine.staleNodeTick now).assignsCache.has userId = true ∨
        (engine.staleNodeTick now).getPresence.has userId = true →
      (engine.staleNodeTick now).userSubscriptions.has userId = true

theorem cleans_up_of_covered (engine : ChannelEngine) (covered : engine.Covered) : engine.CleansUp := by
  intro now backend ticking configured silent userId holding
  have after := tables_tick engine now
  have kept : (engine.tables.tick now).userSubscriptions = engine.userSubscriptions := by
    unfold tick
    split
    · rw [drop_all_frame]
      rfl
    · rfl
  have same : (engine.staleNodeTick now).userSubscriptions = engine.userSubscriptions :=
    (congrArg Tables.userSubscriptions after).trans kept
  have later : (engine.tables.tick now).held userId := by
    rw [← after]
    exact holding
  rw [same]
  exact tick_leaves_hosted (covered_iff.mp covered) ticking configured silent later

theorem replicated_users_covered_iff (endpointId name : String) (nodeId : NodeId)
    (backend : Option DistributedBackend) (labels : List (Nat × EngineOp))
    (addressed : Follows stepAt Addressed (.new endpointId name nodeId backend) labels) :
    (Always stepAt Covered (.new endpointId name nodeId backend) labels ↔
      Follows stepAt Attributes (.new endpointId name nodeId backend) labels) ∧
    (Follows stepAt Attributes (.new endpointId name nodeId backend) labels →
      Always stepAt CleansUp (.new endpointId name nodeId backend) labels) := by
  have invariant : Always stepAt Covered (.new endpointId name nodeId backend) labels ↔
      Follows stepAt Attributes (.new endpointId name nodeId backend) labels := by
    refine always_iff_follows stepAt Addressed Attributes Covered (fun engine => engine.tables.Attributed)
      ?_ ?_ ?_ _ labels ?_ addressed
    · exact fun engine inv => covered_iff.mpr (attributed_covered inv)
    · intro engine label inv ok known
      rw [stepAt, tables_act]
      exact attributed_step engine.tables inv ok known
    · intro engine label _ _ after
      rw [covered_iff, stepAt, tables_act] at after
      exact attributes_of_covered after
    · exact ⟨fun _ holding => holding.elim (fun listed => (Bool.false_ne_true listed).elim)
        (fun present => (Bool.false_ne_true present).elim), fun _ row => (Bool.false_ne_true row).elim⟩
  refine ⟨invariant, fun follows => ?_⟩
  exact always_mono stepAt Covered CleansUp cleans_up_of_covered _ labels (invariant.mpr follows)

theorem replicated_users_covered_run :
    Always stepAt Covered (.new "/socket" "/room" "A" (some ⟨"A", 90000⟩))
      [(0, .addUser "u" .empty "socket" (.supplied "join")), (1, .trackPresence "u" .empty),
       (2, .receive ⟨"/socket", "/room", some "B", .userJoined "v" (some .empty) .empty⟩),
       (3, .receive ⟨"/socket", "/room", some "B", .presenceUpdate "v" (some .empty)⟩)] := by
  refine (replicated_users_covered_iff "/socket" "/room" "A" (some ⟨"A", 90000⟩) _ ?_).1.mpr ?_
  · exact ⟨trivial, rfl, ⟨"B", rfl, by decide⟩, ⟨"B", rfl, by decide⟩, trivial⟩
  · refine ⟨fun deaf => ?_, trivial, trivial, .inr ⟨"B", _, rfl, by decide⟩, trivial⟩
    exact absurd deaf (by decide)

theorem presence_update_not_covered :
    ¬ (run stepAt (.new "/socket" "/room" "A" (some ⟨"A", 90000⟩)) [(0, .distributedSubscribed),
       (1, .receive ⟨"/socket", "/room", some "B", .presenceUpdate "v" (some .empty)⟩)]).Covered := by
  intro covered
  rcases covered "v" (.inr (by decide)) with hosted | ⟨_, _, row, _⟩
  · exact absurd hosted (by decide)
  · cases row

end ChannelEngine

end PondSocket.Js
