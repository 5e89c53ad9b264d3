import PondSocket.Python.Calls
import PondSocket.Python.Targets
import PondSocket.Library.Run

namespace PondSocket.Python

open Library List
open Js (Json UserId NodeId)
open Go (MsgType index)

def asked (messages : NodeId → NodeId → List Message) (source target : NodeId) : Prop :=
  .stateRequest ∈ messages target source

def taken (messages : NodeId → NodeId → List Message) (source target : NodeId) (left : List Message) :
    NodeId → NodeId → List Message :=
  fun origin goal => if origin = source ∧ goal = target then left else messages origin goal

section

variable (str : Json → String) (home : UserId → NodeId)

variable (net : Net)

variable {messages : NodeId → NodeId → List Message} {source target : NodeId}

theorem asked_spread {node : NodeId} {after : Channel} {fresh : List Message} (open_ : asked messages source target) :
    asked (spread net node after fresh messages) source target ∨ source = node ∧ after.active = false := by
  simp only [asked, spread] at open_ ⊢
  split
  · exact .inl (mem_append_left _ open_)
  split
  · rename_i closed
    exact .inr closed
  · exact .inl open_

theorem asked_taken {message : Message} (left : List Message) (whole : messages source target = message :: left)
    (origin goal : NodeId) (open_ : asked messages origin goal) :
    asked (taken messages source target left) origin goal ∨
      goal = source ∧ origin = target ∧ message = .stateRequest := by
  simp only [asked, taken] at open_ ⊢
  split
  · rename_i there
    rw [there.1, there.2, whole] at open_
    rcases mem_cons.mp open_ with head | later
    · exact .inr ⟨there.1, there.2, head.symm⟩
    · exact .inl later
  · exact .inl open_

theorem agreed_later {requested later : NodeId → NodeId → Prop} {net : Net}
    (agreed : Agreed str home requested messages net)
    (kept : ∀ source target, requested source target → later source target) : Agreed str home later messages net := by
  refine { agreed with synced := ?_ }
  intro source target different running
  exact (agreed.synced source target different running).imp_left (kept source target)

def Settled (net : Net) : Prop := ∃ messages, Agreed str home (asked messages) messages net

theorem acts_keeps (messages : NodeId → NodeId → List Message) (requested : NodeId → NodeId → Prop) (node : NodeId)
    (after : Channel) (stamp : Stamp) (agreed : Agreed str home requested messages net)
    (still : ∀ source target, requested source target → asked messages source target)
    (acts : Acts home node (net.node node) after) : Settled str home (net.commit str stamp node after) := by
  obtain ⟨fresh, acted, matched, running⟩ := acts
  refine ⟨spread net node after fresh messages, ?_⟩
  apply acted_keeps str agreed acted
  · intro _ _ _
    exact matched
  · intro runs
    exact .inl (running runs)
  · intro source target open_
    exact (asked_spread net (still source target open_)).imp_right fun closed => ⟨closed.1, .inl closed.2⟩

theorem settled_new {name path : String} : Settled str home (.new name path) := by
  refine ⟨fun _ _ => [], ?_⟩
  constructor
  · intro node
    constructor
    · rfl
    · rfl
    · rfl
    · rfl
    · intro userId there
      cases there
    · intro _ _ _
      rfl
  · intro _ _ _
    rfl
  · intro _ _
    exact .nil
  · intro _ _ message member
    cases member
  · intro _ target _ running
    cases running
  · intro _ target _ running
    cases running

theorem settled_create {node : NodeId} (settled : Settled str home net) : Settled str home (net.create node) := by
  rw [Net.create]
  split
  · exact settled
  rename_i closed
  rw [Bool.not_eq_true] at closed
  obtain ⟨messages, agreed⟩ := settled
  have rows : ∀ origin userId, home userId = origin →
      (Function.update net.node node (.new net.name net.endpointPath node true) origin).row userId =
        (net.node origin).row userId := by
    intro origin userId own
    by_cases same : origin = node
    · subst same
      rw [Function.update_self, (agreed.hosted origin).vacant home _ _ _ _ closed userId own]
      rfl
    · rw [Function.update_of_ne same]
  have others : ∀ target, (Function.update net.node node (.new net.name net.endpointPath node true) target).active = true →
      Function.update net.node node (.new net.name net.endpointPath node true) target = net.node target := by
    intro target running
    by_cases same : target = node
    · rw [same, Function.update_self] at running
      cases running
    · exact Function.update_of_ne same _ _
  refine ⟨messages, ?_⟩
  constructor
  · intro other
    by_cases same : other = node
    · subst same
      simp only [Function.update_self]
      constructor
      · rfl
      · rfl
      · rfl
      · exact Bool.true_and _
      · intro userId there
        cases there
      · intro _ _ _
        rfl
    · simp only [Function.update_of_ne same]
      exact agreed.hosted other
  · intro source target quiet
    apply agreed.silent source target
    by_cases same : target = node
    · exact .inr (same ▸ closed)
    · simp only [Function.update_of_ne same] at quiet
      exact quiet
  · exact agreed.said
  · exact agreed.about
  · intro source target different running userId own
    have ran := running
    simp only [others target running] at ran ⊢
    rw [rows source userId own]
    exact agreed.within source target different ran userId own
  · intro source target different running
    have ran := running
    simp only [others target running] at ran ⊢
    apply (agreed.synced source target different ran).imp_right
    intro same userId own
    rw [rows source userId own]
    exact same userId own

variable {stamp : Stamp}

theorem settled_start {node : NodeId} (settled : Settled str home net) (path : net.endpointPath ≠ "")
    (guarded : (net.node node).active = true ∨ ∀ userId, home userId ≠ node →
      Within ((net.node (home userId)).row userId) ((net.node node).row userId)) :
    Settled str home (net.commit str stamp node (net.node node).start) := by
  obtain ⟨messages, agreed⟩ := settled
  have hosted := agreed.hosted node
  have distributed : (net.node node).distributed = true := by
    rw [hosted.distributed]
    exact decide_eq_true path
  cases running : (net.node node).active with
  | true =>
    have same : (net.node node).start = net.node node := if_pos running
    rw [same]
    exact acts_keeps str home net messages _ node _ stamp agreed (fun _ _ open_ => open_)
      (unchanged_acts home node _ _ hosted)
  | false =>
    obtain ⟨acted, matched, runs⟩ := start_acts hosted distributed running
    refine ⟨spread net node (net.node node).start [.stateRequest] messages, ?_⟩
    apply acted_keeps str agreed acted
    · intro _ _ _
      exact matched
    · intro _
      apply Or.inr
      intro source different
      constructor
      · intro userId own
        have within := guarded.resolve_left (by rw [running]; simp) userId (own ▸ different)
        rw [own] at within
        exact within
      · cases hears : (net.node source).active with
        | false => exact .inr rfl
        | true =>
          apply Or.inl
          rw [asked, spread_from net different hears]
          exact mem_append_right _ (mem_singleton_self _)
    · intro source target open_
      apply (asked_spread net open_).imp_right
      intro closed
      rw [runs] at closed
      cases closed.2

variable {moment : Moment}

theorem settled_evict {node : NodeId} {userId : UserId} {reason : String} (settled : Settled str home net)
    (name : net.name ≠ "") (path : net.endpointPath ≠ "")
    (guarded : (net.node node).hasUser userId = true → ∀ other, other ≠ node → (net.node other).active = false) :
    Settled str home (net.commit str stamp node ((net.node node).evictUser moment userId reason).1) := by
  obtain ⟨messages, agreed⟩ := settled
  have hosted := agreed.hosted node
  have distributed : (net.node node).distributed = true := by
    rw [hosted.distributed]
    exact decide_eq_true path
  have named : (net.node node).name ≠ "" := hosted.name ▸ name
  cases connected : (net.node node).hasUser userId with
  | true =>
    obtain ⟨fresh, acted⟩ := evict_acted moment hosted distributed named connected
    refine ⟨spread net node ((net.node node).evictUser moment userId reason).1 fresh messages, ?_⟩
    apply acted_keeps str agreed acted
    · intro other different running
      rw [guarded connected other different] at running
      cases running
    · intro _
      exact .inl (hosted.users userId connected).2.2.1
    · intro source target open_
      exact (asked_spread net open_).imp_right fun closed => ⟨closed.1, .inl closed.2⟩
  | false =>
    have sent : (net.node node).evictUser moment userId reason =
        (net.node node).publishUserCommand moment "user:evict" userId reason := if_pos connected
    rw [sent]
    exact acts_keeps str home net messages _ node _ stamp agreed (fun _ _ open_ => open_)
      (command_acts moment true userId reason hosted distributed named)

theorem settled_deliver {data : Json} {rest : List Json} (strings : ∀ text, str (.string text) = text)
    (settled : Settled str home net) (name : net.name ≠ "") (path : net.endpointPath ≠ "")
    (linked : net.link source target = data :: rest) :
    Settled str home ((net.dequeue source target rest).commit str stamp target
      ((net.node target).handlePubsubMessage str moment data)) := by
  obtain ⟨messages, agreed⟩ := settled
  have hosted := agreed.hosted target
  have distributed : (net.node target).distributed = true := by
    rw [hosted.distributed]
    exact decide_eq_true path
  have whole := agreed.said source target
  rw [linked] at whole
  cases listed : messages source target with
  | nil =>
    rw [listed] at whole
    cases whole
  | cons message left =>
    have heard : source ≠ target ∧ (net.node target).active = true := by
      constructor
      · intro same
        rw [agreed.silent source target (.inl same)] at listed
        cases listed
      · rw [← Bool.not_eq_false]
        intro closed
        rw [agreed.silent source target (.inr closed)] at listed
        cases listed
    rw [listed] at whole
    cases whole with
    | cons said _ =>
      obtain ⟨sent, _, told, rfl⟩ := said
      have named : (Channel.new net.name net.endpointPath source true).name = (net.node target).name := hosted.name.symm
      have present : (net.node target).name ≠ "" := hosted.name ▸ name
      have foreign : (Channel.new net.name net.endpointPath source true).nodeId ≠ (net.node target).nodeId := by
        rw [hosted.nodeId]
        exact heard.1
      have onward : message ≠ .stateRequest → ∀ origin goal, asked messages origin goal →
          asked (taken messages source target left) origin goal := by
        intro other origin goal open_
        exact (asked_taken left listed origin goal open_).resolve_right fun same => other same.2.2
      cases table : message.isTable with
      | true =>
        have apart : ∀ userId ∈ message.users, userId ≠ "" ∧ (net.node target).hasUser userId = false := by
          intro userId about
          obtain ⟨some, own⟩ := agreed.about source target message (listed ▸ mem_cons_self ..) userId about
          refine ⟨some, Bool.eq_false_iff.mpr ?_⟩
          intro connected
          exact heard.1 (own.symm.trans (hosted.users userId connected).1)
        obtain ⟨quiet, rows⟩ := Channel.table_heard str strings told table named present foreign heard.2 apart
        have kept := table_keeps str left _ rest _ stamp agreed listed linked quiet rows
        refine ⟨taken messages source target left, agreed_later str home kept (onward ?_)⟩
        intro same
        rw [same] at table
        cases table
      | false =>
        have idle : ∀ userId row, message.effect userId row = row := by
          intro userId row
          cases message with
          | stateRequest | command => rfl
          | _ => cases table
        have kept := dequeue_keeps str left _ rest agreed listed linked idle
        cases told with
        | stateRequest =>
          have handled := Channel.bytes_heard str (net.node target) moment sent named foreign heard.2 .stateRequest
            [("fromNode", .string (Channel.new net.name net.endpointPath source true).nodeId)]
          simp only [Channel.wire]
          rw [handled, Channel.handleMessage]
          obtain ⟨_, fresh, acted, matched, answers⟩ := request_acts hosted distributed
          refine ⟨spread (net.dequeue source target rest) target (net.node target).handleStateRequest fresh
            (taken messages source target left), ?_⟩
          apply acted_keeps str kept acted
          · intro _ _ _
            exact matched
          · intro _
            exact .inl heard.2
          · intro origin goal open_
            rcases asked_taken left listed origin goal open_ with later | ⟨_, here, _⟩
            · exact (asked_spread (net.dequeue source target rest) later).imp_right
                fun closed => ⟨closed.1, .inl closed.2⟩
            · exact .inr ⟨here, .inr answers⟩
        | command =>
          obtain ⟨_, handled⟩ := Channel.command_heard str named present foreign heard.2
          rw [handled]
          apply acts_keeps str home (net.dequeue source target rest) _ _ target _ stamp kept
            (onward (fun same => by cases same))
          exact remote_command_acts hosted distributed present
        | _ => cases table

theorem settled_step (step : NetStep) (strings : ∀ text, str (.string text) = text)
    (settled : Settled str home net) (oneHome : Net.OneHome home step) (guarded : Net.Guarded home net step) :
    Settled str home (net.step str step) := by
  obtain ⟨name, path, guarded⟩ := guarded
  have here := settled
  obtain ⟨messages, agreed⟩ := here
  have distributed : ∀ node, (net.node node).distributed = true := by
    intro node
    rw [(agreed.hosted node).distributed]
    exact decide_eq_true path
  have named : ∀ node, (net.node node).name ≠ "" := fun node => (agreed.hosted node).name ▸ name
  have keeps := fun node after acts => acts_keeps str home net messages _ node after step.stamp agreed (fun _ _ open_ => open_) acts
  obtain ⟨op, moment, _⟩ := step
  cases op with
  | create => exact settled_create str home net settled
  | start => exact settled_start str home net settled path guarded
  | addUser node =>
    apply keeps
    exact add_user_acts (agreed.hosted node) (distributed node) oneHome.symm guarded
  | removeUser node userId reason =>
    apply keeps
    cases connected : (net.node node).hasUser userId with
    | true => exact remove_user_acts moment (agreed.hosted node) (distributed node) (named node) connected
    | false =>
      have sent : (net.node node).removeUser moment userId reason false =
          (net.node node).publishUserCommand moment "user:remove" userId reason := if_pos connected
      rw [sent]
      exact command_acts moment false userId reason (agreed.hosted node) (distributed node) (named node)
  | evictUser => exact settled_evict str home net settled name path guarded
  | updateAssign node =>
    apply keeps
    exact update_assign_acts (agreed.hosted node) (distributed node) (named node) guarded
  | trackPresence node =>
    apply keeps
    exact track_presence_acts (agreed.hosted node) (distributed node) (named node) guarded
  | updatePresence node =>
    apply keeps
    exact update_presence_acts (agreed.hosted node) (distributed node) (named node) guarded
  | untrackPresence node =>
    apply keeps
    exact untrack_presence_acts (agreed.hosted node) (distributed node) (named node) guarded
  | deliver source target =>
    simp only [Net.step]
    cases linked : net.link source target with
    | nil => exact settled
    | cons => exact settled_deliver str home net strings settled name path linked

theorem settled_converged (settled : Settled str home net) : net.Converged := by
  obtain ⟨messages, agreed⟩ := settled
  intro quiet node running
  have empty : ∀ source target, messages source target = [] := by
    intro source target
    have said := agreed.said source target
    rw [quiet source target] at said
    cases listed : messages source target with
    | nil => rfl
    | cons =>
      rw [listed] at said
      cases said
  have same : ∀ userId, (net.node node).row userId = (net.node (home userId)).row userId := by
    intro userId
    by_cases own : home userId = node
    · rw [own]
    rcases agreed.synced (home userId) node own running with open_ | rows
    · rw [asked, empty] at open_
      cases open_
    have held := rows userId rfl
    rw [empty] at held
    exact held
  intro userId
  constructor
  · intro host connected
    obtain ⟨own, _, _, assigned⟩ := (agreed.hosted host).users userId connected
    have held := same userId
    rw [own] at held
    exact ⟨(congrArg Option.isSome (congrArg Prod.fst held)).trans assigned, held⟩
  · intro away
    rw [same]
    exact (agreed.hosted (home userId)).absent userId rfl (away (home userId))

end

def joining : List NetStep := [
  ⟨.start "a", sampleMoment, ⟨"m", 0⟩⟩,
  ⟨.addUser "a" ⟨"alice", 0⟩ .empty, sampleMoment, ⟨"m", 0⟩⟩]

section

variable (str : Json → String)

def NetOp.node : NetOp → NodeId
  | .create node | .start node | .addUser node _ _ | .removeUser node _ _ | .evictUser node _ _
  | .updateAssign node _ _ _ | .trackPresence node _ _ | .updatePresence node _ _ | .untrackPresence node _
  | .deliver _ node => node

structure Called (nodes : List NodeId) (channelName path : String) (net : Net) : Prop where
  name : net.name = channelName
  endpointPath : net.endpointPath = path
  others : ∀ node, node ∉ nodes → net.node node = .new channelName path node true
  links : ∀ source target, ¬ (source ∈ nodes ∧ target ∈ nodes) → net.link source target = []

theorem called_commit (nodes : List NodeId) (name path : String) (net : Net) (stamp : Stamp) (node : NodeId) (after : Channel)
    (called : Called nodes name path net) (member : node ∈ nodes) :
    Called nodes name path (net.commit str stamp node after) := by
  constructor
  · exact called.name
  · exact called.endpointPath
  · intro other outside
    have different : other ≠ node := fun same => outside (same ▸ member)
    rw [commit_other str net different]
    exact called.others other outside
  · intro source target outside
    simp only [Net.commit]
    split
    · rename_i spoken
      have deaf : target ∉ nodes := fun inside => outside ⟨spoken.1 ▸ member, inside⟩
      have running := spoken.2.2
      rw [called.others target deaf] at running
      cases running
    split
    · rfl
    · exact called.links source target outside

theorem called_step {nodes : List NodeId} {name path : String} {net : Net} {step : NetStep}
    (called : Called nodes name path net) (member : step.op.node ∈ nodes) :
    Called nodes name path (net.step str step) := by
  have keeps := fun node after inside => called_commit str nodes name path net step.stamp node after called inside
  obtain ⟨op, _, stamp⟩ := step
  cases op with
  | create node =>
    simp only [Net.step, Net.create]
    split
    · exact called
    constructor
    · exact called.name
    · exact called.endpointPath
    · intro other outside
      have different : other ≠ node := fun same => outside (same ▸ member)
      simp only [Function.update_of_ne different]
      exact called.others other outside
    · exact called.links
  | deliver source target =>
    simp only [Net.step]
    cases linked : net.link source target with
    | nil => exact called
    | cons =>
      apply called_commit str nodes name path _ stamp target _ _ member
      constructor
      · exact called.name
      · exact called.endpointPath
      · exact called.others
      · intro origin goal outside
        have none := called.links origin goal outside
        simp only [Net.dequeue]
        split
        · rename_i there
          rw [there.1, there.2, linked] at none
          cases none
        · exact none
  | start node | addUser node | removeUser node | evictUser node | updateAssign node | trackPresence node
  | updatePresence node | untrackPresence node => exact keeps node _ member

end

def evicting : List NetStep := [
  ⟨.start "a", sampleMoment, ⟨"m", 0⟩⟩,
  ⟨.start "b", sampleMoment, ⟨"m", 0⟩⟩,
  ⟨.deliver "b" "a", sampleMoment, ⟨"m", 0⟩⟩,
  ⟨.addUser "a" ⟨"alice", 0⟩ .empty, sampleMoment, ⟨"m", 0⟩⟩,
  ⟨.deliver "a" "b", sampleMoment, ⟨"m", 0⟩⟩,
  ⟨.evictUser "a" "alice" "spam", sampleMoment, ⟨"m", 0⟩⟩]

end PondSocket.Python
