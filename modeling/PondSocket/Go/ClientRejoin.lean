import PondSocket.Library.Run
import PondSocket.Go.ClientRun

namespace PondSocket.Go.Client

open Library List
open Js (ChannelState ClientActions)

namespace Link

variable (link : Link)

def Parting (link : Link) : Prop := ∃ conn, .released conn ∈ link.tasks

def Asked (link : Link) : Prop := ∃ conn, link.conn = some conn ∧ (conn, .joinChannel) ∈ link.written

def Pursued (link : Link) : Prop :=
  .join .publishing ∈ link.tasks ∨ .join .writing ∈ link.tasks ∨ link.change = .rejoining .publishing ∨
    link.change = .rejoining .writing

def Noticed (link : Link) : Prop :=
  .notify true ∈ link.tasks ∨ link.notice = some true ∨ link.change = .received true ∨ link.change = .rejoining .looking ∨
    link.change = .rejoining .entering

def Sought (link : Link) : Prop :=
  link.connected = true → link.wanting = true → link.created = true ∧
    (link.Parting ∨ link.Asked ∨ link.Pursued ∨ link.state = .stalled ∧ link.Noticed)

structure Carries (link next : Link) : Prop where
  connected : next.connected = true → link.connected = true
  wanting : next.wanting = true → link.wanting = true
  created : link.created = true → next.created = true
  parting : link.Parting → next.Parting
  asked : link.Asked → next.Asked ∨ next.Parting
  pursued : link.connected = true → link.Pursued → next.Pursued ∨ next.Asked ∨ next.Parting
  noticed : link.connected = true → link.created = true → link.state = .stalled → link.Noticed →
    next.Pursued ∨ next.state = .stalled ∧ next.Noticed

theorem sought_carries (link next : Link) (carries : Carries link next) (sought : link.Sought) : next.Sought := by
  intro connected wanting
  have on := carries.connected connected
  obtain ⟨created, parting | asked | pursued | ⟨stalled, noticed⟩⟩ := sought on (carries.wanting wanting)
  · exact ⟨carries.created created, .inl (carries.parting parting)⟩
  · refine ⟨carries.created created, ?_⟩
    rcases carries.asked asked with still | parting
    · exact .inr (.inl still)
    · exact .inl parting
  · refine ⟨carries.created created, ?_⟩
    rcases carries.pursued on pursued with still | asked | parting
    · exact .inr (.inr (.inl still))
    · exact .inr (.inl asked)
    · exact .inl parting
  · refine ⟨carries.created created, ?_⟩
    rcases carries.noticed on created stalled noticed with pursued | still
    · exact .inr (.inr (.inl pursued))
    · exact .inr (.inr (.inr still))

theorem carries_tasks {tasks : List Task} {gone : Task}
    (kept : ∀ task ∈ link.tasks, task = gone ∨ task ∈ tasks) (released : ∀ conn, gone ≠ .released conn)
    (publishing : gone ≠ .join .publishing) (writing : gone ≠ .join .writing) (notify : gone ≠ .notify true) :
    Carries link { link with tasks := tasks } := by
  have still : ∀ task ∈ link.tasks, task ≠ gone → task ∈ tasks := by
    intro task member other
    exact (kept task member).resolve_left other
  refine ⟨id, id, id, ?_, .inl, ?_, ?_⟩
  · intro parting
    obtain ⟨conn, member⟩ := parting
    exact ⟨conn, still _ member (released conn).symm⟩
  · intro _ pursued
    rcases pursued with first | second | changes
    · exact .inl (.inl (still _ first publishing.symm))
    · exact .inl (.inr (.inl (still _ second writing.symm)))
    · exact .inl (.inr (.inr changes))
  · intro _ _ stalled noticed
    rcases noticed with task | later
    · exact .inr ⟨stalled, .inl (still _ task notify.symm)⟩
    · exact .inr ⟨stalled, .inr later⟩

theorem carries_started {task : Task} : Carries link { link with tasks := link.tasks ++ [task] } := by
  have kept : ∀ other ∈ link.tasks, other ∈ link.tasks ++ [task] := fun other member => mem_append_left _ member
  refine ⟨id, id, id, ?_, .inl, ?_, ?_⟩
  · intro parting
    obtain ⟨conn, member⟩ := parting
    exact ⟨conn, kept _ member⟩
  · intro _ pursued
    exact .inl (pursued.imp (kept _) (.imp (kept _) id))
  · intro _ _ stalled noticed
    exact .inr ⟨stalled, noticed.imp (kept _) id⟩

def Held (link : Link) : Prop := link.connected = true → link.conn ≠ none ∨ link.Parting

def Ready (link : Link) : Prop := link.state = .joining → link.Pursued ∨ link.Asked

theorem set_state_keeps {state : ChannelState} :
    ∃ entered, link.setState state = { link with state := entered } := by
  simp only [setState]
  split
  · exact ⟨link.state, rfl⟩
  · exact ⟨state, rfl⟩

theorem sought_connected (ready : link.connected = false → link.Ready) (sought : link.Sought) :
    (link.setConnectionState true).Sought := by
  simp only [setConnectionState]
  by_cases already : link.connected = true
  · rw [if_pos already]
    exact sought
  rw [if_neg already]
  have off : link.connected = false := Bool.eq_false_iff.mpr already
  intro _ wanting
  simp only [Bool.true_and, Bool.and_eq_true] at wanting
  obtain ⟨created, asks⟩ := wanting
  refine ⟨created, ?_⟩
  simp only [asking, Bool.or_eq_true, decide_eq_true_eq] at asks
  rcases asks with joining | stalled
  · rcases ready off joining with pursued | asked
    · refine .inr (.inr (.inl ?_))
      exact pursued.imp (mem_append_left _) (.imp (mem_append_left _) id)
    · exact .inr (.inl asked)
  · exact .inr (.inr (.inr ⟨stalled, .inl (mem_append_right _ (mem_singleton.mpr rfl))⟩))

theorem sought_disconnected : (link.setConnectionState false).Sought := by
  intro connected
  simp only [setConnectionState] at connected
  split at connected
  · rename_i off
    rw [off] at connected
    cases connected
  · cases connected

theorem sought_pursued (created : link.connected = true → link.wanting = true → link.created = true)
    (pursued : link.connected = true → link.Pursued) : link.Sought :=
  fun connected wanting => ⟨created connected wanting, .inr (.inr (.inl (pursued connected)))⟩

theorem join_looks : ∃ next, link.joinStep .looking = (link, next) ∧
    (next = none ∧ link.state = .joined ∨ next = some .entering) := by
  simp only [joinStep]
  by_cases joined : link.state = .joined
  · rw [if_pos joined]
    exact ⟨none, rfl, .inl ⟨rfl, joined⟩⟩
  · rw [if_neg joined]
    exact ⟨some .entering, rfl, .inr rfl⟩

theorem join_enters : ∃ entered, link.joinStep .entering = ({ link with state := entered }, some .publishing) := by
  obtain ⟨entered, same⟩ := set_state_keeps link
  exact ⟨entered, by rw [← same]; rfl⟩

theorem join_publishes : ∃ next, link.joinStep .publishing = (link, next) ∧
    (link.connected = true → next = some .writing) := by
  refine ⟨_, rfl, ?_⟩
  exact fun connected => if_pos connected

theorem join_writes : ∃ written, link.joinStep .writing = ({ link with written := written }, none) ∧
    (∀ entry ∈ link.written, entry ∈ written) ∧ ∀ conn, link.conn = some conn → (conn, .joinChannel) ∈ written := by
  cases conn : link.conn with
  | none =>
    refine ⟨link.written, ?_, fun _ => id, fun _ some => nomatch some⟩
    simp only [joinStep, conn]
    rw [← conn]
  | some number =>
    refine ⟨link.written ++ [(number, .joinChannel)], ?_, fun _ => mem_append_left _, ?_⟩
    · simp [joinStep, conn]
    intro other same
    cases same
    exact mem_append_right _ (mem_singleton.mpr rfl)

theorem sought_written (link next : Link) (written : List (Nat × ClientActions)) (held : link.Held) (sought : link.Sought)
    (connected : next.connected = link.connected) (wanting : next.wanting = link.wanting)
    (created : next.created = link.created) (conn : next.conn = link.conn) (holds : next.written = written)
    (its : ∀ conn, link.conn = some conn → (conn, .joinChannel) ∈ written) (parting : link.Parting → next.Parting) :
    next.Sought := by
  intro on wants
  rw [connected] at on
  rw [wanting] at wants
  obtain ⟨made, _⟩ := sought on wants
  rw [created]
  refine ⟨made, ?_⟩
  rcases held on with there | parts
  · obtain ⟨number, same⟩ := Option.ne_none_iff_exists'.mp there
    refine .inr (.inl ⟨number, conn.trans same, ?_⟩)
    rw [holds]
    exact its number same
  · exact .inl (parting parts)

theorem parting_tasks (tasks : List Task) (gone : Task)
    (kept : ∀ task ∈ link.tasks, task = gone ∨ task ∈ tasks) (released : ∀ conn, gone ≠ .released conn)
    (parting : link.Parting) : ∃ conn, Task.released conn ∈ tasks := by
  obtain ⟨conn, member⟩ := parting
  exact ⟨conn, (kept _ member).resolve_left (released conn).symm⟩

variable {link}

theorem sought_run {place : Nat} (held : link.Held) (sought : link.Sought)
    (notice : link.tasks[place]? = some (.notify false) → ¬ (link.connected = true ∧ link.state = .stalled))
    (ready : ∀ conn, link.tasks[place]? = some (.opened conn) → link.connected = false → link.Ready) :
    (link.runTask place).Sought := by
  simp only [runTask]
  cases there : link.tasks[place]? with
  | none => exact sought
  | some task =>
    have erased := fun other (member : other ∈ link.tasks) => mem_erase_or there member
    have replaced := fun new other => @mem_set_or _ _ place task new other there
    cases task with
    | announce =>
      apply sought_carries link _ _ sought
      apply carries_tasks link (replaced _)
      · exact fun _ => Task.noConfusion
      · exact Task.noConfusion
      · exact Task.noConfusion
      · exact Task.noConfusion
    | notify connected =>
      refine sought_carries link _ ⟨id, id, id, ?_, .inl, ?_, ?_⟩ sought
      · exact parting_tasks link _ (.notify connected) erased fun _ => Task.noConfusion
      · intro _ pursued
        refine .inl (pursued.imp ?_ (.imp ?_ id))
        · exact fun member => (erased _ member).resolve_left Task.noConfusion
        · exact fun member => (erased _ member).resolve_left Task.noConfusion
      · intro on created stalled noticed
        have late : connected = true := by
          cases connected with
          | true => rfl
          | false => exact absurd ⟨on, stalled⟩ (notice there)
        refine .inr ⟨stalled, ?_⟩
        rcases noticed with _ | _ | changes
        · exact .inr (.inl (by simp [created, late]))
        · exact .inr (.inl (by simp [created, late]))
        · exact .inr (.inr changes)
    | opened conn =>
      apply sought_connected
      · intro off joining
        rcases ready conn there off joining with pursued | asked
        · refine .inl (pursued.imp ?_ (.imp ?_ id))
          · exact fun member => (erased _ member).resolve_left Task.noConfusion
          · exact fun member => (erased _ member).resolve_left Task.noConfusion
        · exact .inr asked
      apply sought_carries link _ _ sought
      have carries := carries_tasks link erased (fun _ => Task.noConfusion) Task.noConfusion
        Task.noConfusion Task.noConfusion
      exact ⟨id, id, id, carries.parting, carries.asked, carries.pursued, carries.noticed⟩
    | released => exact sought_disconnected _
    | join stage =>
      dsimp only
      cases stage with
      | looking =>
        obtain ⟨next, same, ends | goes⟩ := link.join_looks
        · rw [same, ends.1]
          apply sought_carries link _ _ sought
          exact carries_tasks link erased (fun _ => Task.noConfusion) (by decide) (by decide) (by decide)
        rw [same, goes]
        apply sought_carries link _ _ sought
        exact carries_tasks link (replaced _) (fun _ => Task.noConfusion) (by decide) (by decide) (by decide)
      | entering =>
        obtain ⟨_, same⟩ := link.join_enters
        obtain ⟨inside, _⟩ := List.getElem?_eq_some_iff.mp there
        rw [same]
        apply sought_pursued
        · exact fun connected wanting => (sought connected wanting).1
        · exact fun _ => .inl (mem_set inside _)
      | publishing =>
        obtain ⟨next, same, goes⟩ := link.join_publishes
        obtain ⟨inside, _⟩ := List.getElem?_eq_some_iff.mp there
        rw [same]
        cases connected : link.connected with
        | true =>
          rw [goes connected]
          apply sought_pursued
          · exact fun connected wanting => (sought connected wanting).1
          · exact fun _ => .inr (.inl (mem_set inside _))
        | false =>
          cases next with
          | none | some => exact fun on => absurd (connected.symm.trans on) Bool.false_ne_true
      | writing =>
        obtain ⟨written, same, _, its⟩ := link.join_writes
        rw [same]
        refine sought_written link _ written held sought rfl rfl rfl rfl rfl its ?_
        exact parting_tasks link _ (.join .writing) erased fun _ => Task.noConfusion

theorem carries_change (change : ChangeStage) (publishing : link.change ≠ .rejoining .publishing)
    (writing : link.change ≠ .rejoining .writing)
    (noticed : link.state = .stalled → link.change = .received true ∨ link.change = .rejoining .looking ∨
      link.change = .rejoining .entering → change = .rejoining .looking ∨ change = .rejoining .entering) :
    Carries link { link with change := change } := by
  refine ⟨id, id, id, id, .inl, ?_, ?_⟩
  · intro _ pursued
    rcases pursued with first | second | third | fourth
    · exact .inl (.inl first)
    · exact .inl (.inr (.inl second))
    · exact absurd third publishing
    · exact absurd fourth writing
  intro _ _ stalled notes
  refine .inr ⟨stalled, ?_⟩
  rcases notes with task | notice | changes
  · exact .inl task
  · exact .inr (.inl notice)
  · exact .inr (.inr (.inr (noticed stalled changes)))

theorem sought_change (held : link.Held) (sought : link.Sought) : link.handleConnectionChanges.Sought := by
  simp only [handleConnectionChanges]
  cases change : link.change with
  | waiting =>
    cases notice : link.notice with
    | none => exact sought
    | some =>
      refine sought_carries link _ ⟨id, id, id, id, .inl, ?_, ?_⟩ sought
      · intro _ pursued
        rcases pursued with first | second | third | fourth
        · exact .inl (.inl first)
        · exact .inl (.inr (.inl second))
        · exact absurd (change.symm.trans third) (by decide)
        · exact absurd (change.symm.trans fourth) (by decide)
      intro _ _ stalled noticed
      refine .inr ⟨stalled, ?_⟩
      rcases noticed with task | its | changes
      · exact .inl task
      · rw [notice] at its
        cases its
        exact .inr (.inr (.inl rfl))
      · simp only [change] at changes
        rcases changes with first | second | third
        · cases first
        · cases second
        · cases third
  | received connected =>
    cases connected with
    | true =>
      apply sought_carries link _ _ sought
      apply carries_change
      · simp [change]
      · simp [change]
      · exact fun stalled _ => .inl (if_pos stalled)
    | false =>
      apply sought_carries link _ _ sought
      apply carries_change
      · simp [change]
      · simp [change]
      · intro _ changes
        simp only [change, reduceCtorEq, ChangeStage.received.injEq, Bool.false_eq_true, or_self] at changes
  | rejoining stage =>
    dsimp only
    cases stage with
    | looking =>
      obtain ⟨next, same, ends | goes⟩ := link.join_looks
      · rw [same, ends.1]
        apply sought_carries link _ _ sought
        apply carries_change
        · simp [change]
        · simp [change]
        · exact fun stalled _ => absurd (stalled.symm.trans ends.2) (by decide)
      rw [same, goes]
      apply sought_carries link _ _ sought
      apply carries_change
      · simp [change]
      · simp [change]
      · exact fun _ _ => .inr rfl
    | entering =>
      obtain ⟨entered, same⟩ := link.join_enters
      rw [same]
      apply sought_pursued
      · exact fun connected wanting => (sought connected wanting).1
      · exact fun _ => .inr (.inr (.inl rfl))
    | publishing =>
      obtain ⟨next, same, goes⟩ := link.join_publishes
      rw [same]
      cases connected : link.connected with
      | true =>
        rw [goes connected]
        apply sought_pursued
        · exact fun connected wanting => (sought connected wanting).1
        · exact fun _ => .inr (.inr (.inr rfl))
      | false =>
        cases next with
        | none | some => exact fun on => absurd (connected.symm.trans on) Bool.false_ne_true
    | writing =>
      obtain ⟨written, same, _, its⟩ := link.join_writes
      rw [same]
      exact sought_written link _ written held sought rfl rfl rfl rfl rfl its id
  | stalling =>
    obtain ⟨entered, same⟩ := set_state_keeps link
    have stalls : entered = .stalled ∨ link.state = .closed := by
      have state := congrArg Link.state same
      simp only [setState] at state
      split at state
      · rename_i closed
        exact .inr closed.1
      · exact .inl state.symm
    rw [same]
    refine sought_carries link _ ⟨id, id, id, id, .inl, ?_, ?_⟩ sought
    · intro _ pursued
      rcases pursued with first | second | third | fourth
      · exact .inl (.inl first)
      · exact .inl (.inr (.inl second))
      · exact absurd (change.symm.trans third) (by decide)
      · exact absurd (change.symm.trans fourth) (by decide)
    intro _ _ stalled noticed
    have still := stalls.resolve_right fun closed => absurd (stalled.symm.trans closed) (by decide)
    refine .inr ⟨still, ?_⟩
    rcases noticed with task | its | changes
    · exact .inl task
    · exact .inr (.inl its)
    · simp only [change] at changes
      rcases changes with first | second | third
      · cases first
      · cases second
      · cases third

end Link

end PondSocket.Go.Client
