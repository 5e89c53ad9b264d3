import PondSocket.Python.Net

namespace PondSocket.Python

open Library List
open Js (Json UserId NodeId)

def effects (messages : List Message) (userId : UserId) (row : Row) : Row :=
  messages.foldl (fun row message => message.effect userId row) row

theorem effects_append (first second : List Message) (userId : UserId) (row : Row) :
    effects (first ++ second) userId row = effects second userId (effects first userId row) :=
  foldl_append

variable {userId : UserId}

theorem response_apart {users : List (UserId × Dict × Dict)} (row : Row) (apart : userId ∉ users.map Prod.fst) :
    users.foldl (responseEffect userId) row = row := by
  induction users generalizing row with
  | nil => rfl
  | cons _ _ ih =>
    rw [map_cons, mem_cons, not_or] at apart
    rw [foldl_cons, responseEffect, if_neg (Ne.symm apart.1)]
    exact ih row apart.2

variable {message : Message}

theorem effect_apart (row : Row) (apart : userId ∉ message.users) : message.effect userId row = row := by
  cases message with
  | stateRequest | command => rfl
  | stateResponse => exact response_apart row apart
  | userJoined other | userLeft other | assignsUpdate other | presenceUpdate other | presenceRemoved other =>
    have different : ¬ other = userId := fun same => apart (mem_singleton.mpr same.symm)
    exact if_neg different

theorem effects_apart (messages : List Message) (userId : UserId) (row : Row)
    (apart : ∀ message ∈ messages, userId ∉ message.users) : effects messages userId row = row := by
  induction messages generalizing row with
  | nil => rfl
  | cons message _ ih =>
    have first := effect_apart row (apart message (mem_cons_self ..))
    have later := ih row fun other member => apart other (mem_cons_of_mem _ member)
    rw [effects, foldl_cons, first]
    exact later

theorem within_refl {row : Row} : Within row row := ⟨fun same => same, fun _ => rfl⟩

theorem within_none {part : Row} (within : Within (none, none) part) : part = (none, none) := within.1 rfl

def Said (str : Json → String) (name endpointPath : String) (node : NodeId) (message : Message) (data : Json) : Prop :=
  ∃ stamp publication, Told (.new name endpointPath node true) message publication ∧
    data = (Channel.new name endpointPath node true).wire str stamp publication

structure Hosted (home : UserId → NodeId) (channelName path : String) (node : NodeId) (channel : Channel) : Prop where
  name : channel.name = channelName
  endpointPath : channel.endpointPath = path
  nodeId : channel.nodeId = node
  distributed : channel.distributed = decide (path ≠ "")
  users : ∀ userId, channel.hasUser userId = true →
    home userId = node ∧ userId ≠ "" ∧ channel.active = true ∧ (channel.assigns.get? userId).isSome = true
  absent : ∀ userId, home userId = node → channel.hasUser userId = false → channel.row userId = (none, none)

structure Agreed (str : Json → String) (home : UserId → NodeId) (requested : NodeId → NodeId → Prop)
    (messages : NodeId → NodeId → List Message) (net : Net) : Prop where
  hosted : ∀ node, Hosted home net.name net.endpointPath node (net.node node)
  silent : ∀ source target, source = target ∨ (net.node target).active = false → messages source target = []
  said : ∀ source target,
    List.Forall₂ (Said str net.name net.endpointPath source) (messages source target) (net.link source target)
  about : ∀ source target, ∀ message ∈ messages source target, ∀ userId ∈ message.users,
    userId ≠ "" ∧ home userId = source
  within : ∀ source target, source ≠ target → (net.node target).active = true → ∀ userId, home userId = source →
    Within ((net.node source).row userId) (effects (messages source target) userId ((net.node target).row userId))
  synced : ∀ source target, source ≠ target → (net.node target).active = true → requested source target ∨
    ∀ userId, home userId = source →
      effects (messages source target) userId ((net.node target).row userId) = (net.node source).row userId

structure Acted (home : UserId → NodeId) (node : NodeId) (before after : Channel) (messages : List Message) : Prop where
  hosted : Hosted home before.name before.endpointPath node after
  told : ∃ publications, after.published = before.published ++ publications ∧
    List.Forall₂ (Told before) messages publications
  foreign : ∀ userId, home userId ≠ node → after.row userId = before.row userId
  about : ∀ message ∈ messages, ∀ userId ∈ message.users, userId ≠ "" ∧ home userId = node

structure Matched (home : UserId → NodeId) (node : NodeId) (before after : Channel) (messages : List Message) : Prop where
  effect : ∀ userId, home userId = node → effects messages userId (before.row userId) = after.row userId
  within : ∀ userId, home userId = node → ∀ part, Within (before.row userId) part →
    Within (after.row userId) (effects messages userId part)

theorem Hosted.vacant (home : UserId → NodeId) (channelName path : String) (node : NodeId) (channel : Channel)
    (hosted : Hosted home channelName path node channel) (closed : channel.active = false) (userId : UserId)
    (own : home userId = node) : channel.row userId = (none, none) := by
  apply hosted.absent userId own
  rw [Bool.eq_false_iff]
  intro there
  have active := (hosted.users userId there).2.2.1
  rw [closed] at active
  cases active

theorem told_same (first second : Channel) (message : Message) (publication : Publication) (name : first.name = second.name)
    (nodeId : first.nodeId = second.nodeId) (told : Told first message publication) : Told second message publication := by
  have own : ∀ action uuid event payload, first.own action uuid event payload = second.own action uuid event payload := by
    intro action uuid event payload
    rw [Channel.own, Channel.own, name, nodeId]
  cases told with
  | userJoined userId assigns => exact .userJoined userId assigns
  | userLeft userId => exact .userLeft userId
  | stateRequest =>
    rw [nodeId]
    exact .stateRequest
  | stateResponse users => exact .stateResponse users
  | assignsUpdate userId assigns uuid drawn =>
    rw [own]
    exact .assignsUpdate userId assigns uuid drawn
  | presenceUpdate userId presence uuid drawn eventType kept snapshot =>
    rw [own]
    exact .presenceUpdate userId presence uuid drawn eventType kept snapshot
  | presenceRemoved userId old uuid drawn snapshot =>
    rw [own]
    exact .presenceRemoved userId old uuid drawn snapshot
  | command evict userId reason uuid drawn =>
    rw [own]
    exact .command evict userId reason uuid drawn

variable {stamp : Stamp}

theorem wire_same {str : Json → String} {first second : Channel} {publication : Publication}
    (name : first.name = second.name) (nodeId : first.nodeId = second.nodeId)
    (endpointPath : first.endpointPath = second.endpointPath) :
    first.wire str stamp publication = second.wire str stamp publication := by
  have endpoint : first.cleanEndpoint = second.cleanEndpoint := by
    simp [Channel.cleanEndpoint, endpointPath]
  cases publication with
  | event => simp [Channel.wire, endpoint]
  | distributed => simp [Channel.wire, endpoint, name, nodeId]

section

variable (str : Json → String) (home : UserId → NodeId)

variable (net : Net)

variable {node : NodeId}

variable {channelName : String} {before : Channel}

theorem told_said {path : String} {messages : List Message} {publications : List Publication}
    (hosted : Hosted home channelName path node before) (told : List.Forall₂ (Told before) messages publications) :
    List.Forall₂ (Said str channelName path node) messages (publications.map (before.wire str stamp)) := by
  rw [forall₂_map_right_iff]
  apply told.imp
  intro message publication each
  refine ⟨stamp, publication, ?_, ?_⟩
  · exact told_same before _ message publication hosted.name hosted.nodeId each
  · exact wire_same hosted.name hosted.nodeId hosted.endpointPath

def spread (net : Net) (node : NodeId) (after : Channel) (fresh : List Message)
    (messages : NodeId → NodeId → List Message) (source target : NodeId) : List Message :=
  if source = node ∧ target ≠ node ∧ (net.node target).active then messages source target ++ fresh
  else if target = node ∧ after.active = false then []
  else messages source target

def Opened (requested : NodeId → NodeId → Prop) (net : Net) (node : NodeId) : Prop :=
  ∀ source, source ≠ node →
    (∀ userId, home userId = source → Within ((net.node source).row userId) ((net.node node).row userId)) ∧
      (requested source node ∨ (net.node source).active = false)

def Answers (node : NodeId) (before after : Channel) (fresh : List Message) : Prop :=
  ∀ userId, home userId = node → ∀ part, Within (before.row userId) part → effects fresh userId part = after.row userId

theorem commit_same (node : NodeId) (after : Channel) (stamp : Stamp) :
    (net.commit str stamp node after).node node = after :=
  Function.update_self _ _ _

variable {after : Channel}

theorem commit_other {other : NodeId} (different : other ≠ node) :
    (net.commit str stamp node after).node other = net.node other :=
  Function.update_of_ne different _ _

variable {messages : NodeId → NodeId → List Message} {fresh : List Message} {source : NodeId}

theorem spread_to (running : after.active = true) :
    spread net node after fresh messages source node = messages source node := by
  rw [spread, if_neg (fun both => both.2.1 rfl), if_neg (fun both => by rw [running] at both; cases both.2)]

variable {target : NodeId}

theorem spread_from (different : target ≠ node) (running : (net.node target).active = true) :
    spread net node after fresh messages node target = messages node target ++ fresh :=
  if_pos ⟨rfl, different, running⟩

theorem spread_apart (speaks : source ≠ node) (hears : target ≠ node) :
    spread net node after fresh messages source target = messages source target := by
  rw [spread, if_neg (fun both => speaks both.1), if_neg (fun both => hears both.1)]

variable {home}

variable {requested : NodeId → NodeId → Prop}

theorem acted_said {net : Net} (agreed : Agreed str home requested messages net)
    (acted : Acted home node (net.node node) after fresh) (source target : NodeId) :
    List.Forall₂ (Said str net.name net.endpointPath source) (spread net node after fresh messages source target)
      ((net.commit str stamp node after).link source target) := by
  have before := agreed.said source target
  obtain ⟨_, published, told⟩ := acted.told
  simp only [spread, Net.commit]
  by_cases spoken : source = node ∧ target ≠ node ∧ (net.node target).active = true
  · rw [if_pos spoken, if_pos spoken, published, drop_left]
    obtain ⟨rfl, _, _⟩ := spoken
    exact rel_append before (told_said str home (agreed.hosted source) told)
  rw [if_neg spoken, if_neg spoken]
  split
  · exact .nil
  · exact before

theorem acted_keeps {later : NodeId → NodeId → Prop} {net : Net} (agreed : Agreed str home requested messages net)
    (acted : Acted home node (net.node node) after fresh)
    (matched : ∀ target, target ≠ node → (net.node target).active = true → Matched home node (net.node node) after fresh)
    (opened : after.active = true → (net.node node).active = true ∨ Opened home later net node)
    (kept : ∀ source target, requested source target → later source target ∨ source = node ∧
      (after.active = false ∨ Answers home node (net.node node) after fresh)) :
    Agreed str home later (spread net node after fresh messages) (net.commit str stamp node after) := by
  have hosted := agreed.hosted node
  have within : ∀ source target, source ≠ target → ((net.commit str stamp node after).node target).active = true →
      ∀ userId, home userId = source → Within (((net.commit str stamp node after).node source).row userId)
        (effects (spread net node after fresh messages source target) userId
          (((net.commit str stamp node after).node target).row userId)) := by
    intro source target different running userId own
    by_cases hears : target = node
    · subst hears
      rw [commit_same] at running ⊢
      rw [commit_other str net different, spread_to net running, acted.foreign userId (own ▸ different)]
      rcases opened running with ran | opens
      · exact agreed.within source target different ran userId own
      by_cases ran : (net.node target).active = true
      · exact agreed.within source target different ran userId own
      · rw [agreed.silent source target (.inr (Bool.eq_false_iff.mpr ran))]
        exact (opens source different).1 userId own
    · rw [commit_other str net hears] at running ⊢
      by_cases speaks : source = node
      · subst speaks
        rw [commit_same, spread_from net hears running, effects_append]
        exact (matched target hears running).within userId own _ (agreed.within source target different running userId own)
      · rw [commit_other str net speaks, spread_apart net speaks hears]
        exact agreed.within source target different running userId own
  constructor
  · intro other
    by_cases same : other = node
    · subst same
      rw [commit_same]
      have now := acted.hosted
      rw [hosted.name, hosted.endpointPath] at now
      exact now
    · rw [commit_other str net same]
      exact agreed.hosted other
  · intro source target quiet
    by_cases hears : target = node
    · subst hears
      rw [commit_same] at quiet
      cases running : after.active with
      | false => rw [spread, if_neg (fun both => both.2.1 rfl), if_pos ⟨rfl, running⟩]
      | true =>
        rw [spread_to net running]
        rw [running] at quiet
        exact agreed.silent source target (.inl (quiet.resolve_right (by simp)))
    · rw [commit_other str net hears] at quiet
      have none := agreed.silent source target quiet
      have unspoken : ¬ (source = node ∧ target ≠ node ∧ (net.node target).active = true) := by
        rintro ⟨rfl, _, running⟩
        rcases quiet with same | closed
        · exact hears same.symm
        · rw [running] at closed
          cases closed
      rw [spread, if_neg unspoken, if_neg (fun both => hears both.1)]
      exact none
  · exact acted_said str agreed acted
  · intro source target message member userId about
    simp only [spread] at member
    split at member
    · rename_i spoken
      rcases mem_append.mp member with old | new
      · exact agreed.about source target message old userId about
      · rw [spoken.1]
        exact acted.about message new userId about
    split at member
    · cases member
    · exact agreed.about source target message member userId about
  · exact within
  · intro source target different running
    have bound := within source target different running
    by_cases hears : target = node
    · subst hears
      rw [commit_same] at running bound ⊢
      rw [commit_other str net different, spread_to net running] at bound ⊢
      rcases opened running with ran | opens
      · rcases agreed.synced source target different ran with asked | same
        · exact .inl ((kept source target asked).resolve_right fun own => different own.1)
        · apply Or.inr
          intro userId own
          rw [acted.foreign userId (own ▸ different)]
          exact same userId own
      rcases (opens source different).2 with asked | closed
      · exact .inl asked
      apply Or.inr
      intro userId own
      have vacant := (agreed.hosted source).vacant home _ _ _ _ closed userId own
      have part := bound userId own
      rw [vacant] at part ⊢
      exact within_none part
    · rw [commit_other str net hears] at running bound ⊢
      by_cases speaks : source = node
      · subst speaks
        rw [commit_same] at bound ⊢
        rw [spread_from net hears running] at bound ⊢
        have answered : after.active = false → ∀ userId, home userId = source →
            effects (messages source target ++ fresh) userId ((net.node target).row userId) = after.row userId := by
          intro closed userId own
          have part := bound userId own
          rw [acted.hosted.vacant home _ _ _ _ closed userId own] at part ⊢
          exact within_none part
        rcases agreed.synced source target different running with asked | same
        · rcases kept source target asked with still | ⟨_, closed | answers⟩
          · exact .inl still
          · exact .inr (answered closed)
          · apply Or.inr
            intro userId own
            rw [effects_append]
            exact answers userId own _ (agreed.within source target different running userId own)
        · apply Or.inr
          intro userId own
          rw [effects_append, same userId own]
          exact (matched target hears running).effect userId own
      · rw [commit_other str net speaks, spread_apart net speaks hears]
        rcases agreed.synced source target different running with asked | same
        · exact .inl ((kept source target asked).resolve_right fun own => speaks own.1)
        · exact .inr same

theorem dequeue_keeps {net : Net} (left : List Message) (data : Json) (rest : List Json)
    (agreed : Agreed str home requested messages net) (said : messages source target = message :: left)
    (linked : net.link source target = data :: rest) (idle : ∀ userId row, message.effect userId row = row) :
    Agreed str home requested (fun origin goal => if origin = source ∧ goal = target then left else messages origin goal)
      (net.dequeue source target rest) := by
  have same : ∀ origin goal userId row,
      effects (if origin = source ∧ goal = target then left else messages origin goal) userId row =
        effects (messages origin goal) userId row := by
    intro origin goal userId row
    split
    · rename_i there
      rw [there.1, there.2, said, effects, effects, foldl_cons, idle]
    · rfl
  constructor
  · exact agreed.hosted
  · intro origin goal quiet
    have none := agreed.silent origin goal quiet
    split
    · rename_i there
      rw [there.1, there.2, said] at none
      cases none
    · exact none
  · intro origin goal
    have whole := agreed.said origin goal
    simp only [Net.dequeue]
    split
    · rename_i there
      rw [there.1, there.2, said, linked] at whole
      cases whole with
      | cons _ tail => exact there.1 ▸ tail
    · exact whole
  · intro origin goal other member
    apply agreed.about origin goal other
    split at member
    · rename_i there
      rw [there.1, there.2, said]
      exact mem_cons_of_mem _ member
    · exact member
  · intro origin goal different running userId own
    rw [same]
    exact agreed.within origin goal different running userId own
  · intro origin goal different running
    rcases agreed.synced origin goal different running with asked | equal
    · exact .inl asked
    apply Or.inr
    intro userId own
    rw [same]
    exact equal userId own

theorem commit_quiet (node : NodeId) (after : Channel) (stamp : Stamp) (quiet : Quiet (net.node node) after)
    (running : (net.node node).active = true) :
    net.commit str stamp node after = { net with node := Function.update net.node node after } := by
  have links : (net.commit str stamp node after).link = net.link := by
    funext source target
    simp [Net.commit, quiet.published, quiet.active, running]
  simp only [Net.commit] at links ⊢
  rw [links]

theorem hosted_quiet {path : String} (hosted : Hosted home channelName path node before) (quiet : Quiet before after)
    (rows : ∀ userId, home userId = node → after.row userId = before.row userId) :
    Hosted home channelName path node after := by
  have same : ∀ userId, after.hasUser userId = before.hasUser userId := by
    intro userId
    rw [Channel.hasUser, Channel.hasUser, quiet.connections]
  constructor
  · exact quiet.name.trans hosted.name
  · exact quiet.endpointPath.trans hosted.endpointPath
  · exact quiet.nodeId.trans hosted.nodeId
  · exact quiet.distributed.trans hosted.distributed
  · intro userId there
    rw [same] at there
    obtain ⟨own, present, active, assigned⟩ := hosted.users userId there
    have row := congrArg Prod.fst (rows userId own)
    exact ⟨own, present, quiet.active.trans active, (congrArg Option.isSome row).trans assigned⟩
  · intro userId own away
    rw [same] at away
    exact (rows userId own).trans (hosted.absent userId own away)

theorem table_keeps {net : Net} (left : List Message) (data : Json) (rest : List Json) (after : Channel) (stamp : Stamp)
    (agreed : Agreed str home requested messages net) (said : messages source target = message :: left)
    (linked : net.link source target = data :: rest) (quiet : Quiet (net.node target) after)
    (rows : ∀ userId, after.row userId = message.effect userId ((net.node target).row userId)) :
    Agreed str home requested (fun origin goal => if origin = source ∧ goal = target then left else messages origin goal)
      ((net.dequeue source target rest).commit str stamp target after) := by
  have heard : ¬ (source = target ∨ (net.node target).active = false) := by
    intro deaf
    rw [agreed.silent source target deaf] at said
    cases said
  have different : source ≠ target := fun same => heard (.inl same)
  have running : (net.node target).active = true := by
    rw [← Bool.not_eq_false]
    exact fun closed => heard (.inr closed)
  have foreign : ∀ userId, home userId ≠ source → after.row userId = (net.node target).row userId := by
    intro userId apart
    rw [rows]
    apply effect_apart
    intro member
    have member' : message ∈ messages source target := by
      rw [said]
      exact mem_cons_self ..
    exact apart (agreed.about source target message member' userId member).2
  have active : ∀ node, (Function.update net.node target after node).active = (net.node node).active := by
    intro node
    by_cases same : node = target
    · rw [same, Function.update_self, quiet.active]
    · rw [Function.update_of_ne same]
  have full : ∀ origin userId, home userId = origin →
      (Function.update net.node target after origin).row userId = (net.node origin).row userId := by
    intro origin userId own
    by_cases same : origin = target
    · rw [same, Function.update_self]
      apply foreign
      rw [own, same]
      exact Ne.symm different
    · rw [Function.update_of_ne same]
  have part : ∀ origin goal userId, home userId = origin →
      effects (if origin = source ∧ goal = target then left else messages origin goal) userId
          ((Function.update net.node target after goal).row userId) =
        effects (messages origin goal) userId ((net.node goal).row userId) := by
    intro origin goal userId own
    by_cases there : origin = source ∧ goal = target
    · rw [if_pos there, there.1, there.2, said, Function.update_self, rows]
      rfl
    rw [if_neg there]
    by_cases same : goal = target
    · have apart : home userId ≠ source := fun equal => there ⟨own.symm.trans equal, same⟩
      rw [same, Function.update_self, foreign userId apart]
    · rw [Function.update_of_ne same]
  rw [commit_quiet str (net.dequeue source target rest) target after stamp quiet running]
  constructor
  · intro node
    show Hosted home net.name net.endpointPath node (Function.update net.node target after node)
    by_cases same : node = target
    · subst same
      rw [Function.update_self]
      exact hosted_quiet (agreed.hosted node) quiet fun userId own => foreign userId (own ▸ Ne.symm different)
    · rw [Function.update_of_ne same]
      exact agreed.hosted node
  · intro origin goal deaf
    have before : origin = goal ∨ (net.node goal).active = false := active goal ▸ deaf
    have none := agreed.silent origin goal before
    split
    · rename_i there
      rw [there.1, there.2, said] at none
      cases none
    · exact none
  · intro origin goal
    have whole := agreed.said origin goal
    simp only [Net.dequeue]
    split
    · rename_i there
      rw [there.1, there.2, said, linked] at whole
      cases whole with
      | cons _ tail => exact there.1 ▸ tail
    · exact whole
  · intro origin goal other member
    apply agreed.about origin goal other
    split at member
    · rename_i there
      rw [there.1, there.2, said]
      exact mem_cons_of_mem _ member
    · exact member
  · intro origin goal apart hears userId own
    have before : (net.node goal).active = true := active goal ▸ hears
    have bound := agreed.within origin goal apart before userId own
    rw [← full origin userId own, ← part origin goal userId own] at bound
    exact bound
  · intro origin goal apart hears
    have before : (net.node goal).active = true := active goal ▸ hears
    rcases agreed.synced origin goal apart before with asked | equal
    · exact .inl asked
    apply Or.inr
    intro userId own
    have whole := equal userId own
    rw [← full origin userId own, ← part origin goal userId own] at whole
    exact whole

end

end PondSocket.Python
