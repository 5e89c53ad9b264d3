import PondSocket.Go.ClientRejoin

namespace PondSocket.Go.Client

open Library List Link
open Js (ChannelState ClientActions)

def Task.isOpened : Task → Bool
  | .opened _ => true
  | _ => false

variable {place : Nat}

namespace Link

variable (link : Link)

-- A connection is made once, is the client's until it is lost, and only then reported.
structure Dialed (link : Link) : Prop where
  current : ∀ conn, link.conn = some conn → conn < link.dialed
  readers : ∀ conn ∈ link.readers, conn < link.dialed
  opened : ∀ conn, .opened conn ∈ link.tasks → link.conn = some conn ∧ conn ∉ link.readers
  once : link.tasks.countP Task.isOpened ≤ 1

structure Wired (link : Link) : Prop where
  held : link.Held
  dialed : link.Dialed
  sought : link.Sought

theorem wired_new : new.Wired := by
  refine ⟨fun connected => (nomatch connected), ⟨?_, ?_, ?_, ?_⟩, fun connected => (nomatch connected)⟩
  · exact fun _ same => nomatch same
  · exact fun _ member => nomatch member
  · exact fun _ member => nomatch member
  · exact Nat.zero_le _

theorem held_same (link next : Link) (connected : next.connected = true → link.connected = true)
    (conn : next.conn = link.conn) (parting : link.Parting → next.Parting) (held : link.Held) : next.Held := by
  intro on
  rw [conn]
  exact (held (connected on)).imp id parting

theorem dialed_same (link next : Link) (conn : next.conn = link.conn) (dialed : next.dialed = link.dialed)
    (readers : next.readers = link.readers) (fewer : ∀ conn, .opened conn ∈ next.tasks → .opened conn ∈ link.tasks)
    (count : next.tasks.countP Task.isOpened ≤ link.tasks.countP Task.isOpened) (before : link.Dialed) : next.Dialed := by
  refine ⟨?_, ?_, ?_, count.trans before.once⟩
  · rw [conn, dialed]
    exact before.current
  · rw [readers, dialed]
    exact before.readers
  · intro other member
    rw [conn, readers]
    exact before.opened other (fewer other member)

theorem dialed_started (link next : Link) (task : Task) (conn : next.conn = link.conn) (dialed : next.dialed = link.dialed)
    (readers : next.readers = link.readers) (tasks : next.tasks = link.tasks ++ [task]) (closed : task.isOpened = false)
    (before : link.Dialed) : next.Dialed := by
  apply dialed_same link next conn dialed readers _ _ before
  · intro other member
    rw [tasks] at member
    rcases mem_append.mp member with old | started
    · exact old
    · rw [← mem_singleton.mp started] at closed
      cases closed
  · rw [tasks, countP_append, countP_singleton, closed]
    exact Nat.le_refl _

theorem dialed_erased (link next : Link) (place : Nat) (conn : next.conn = link.conn) (dialed : next.dialed = link.dialed)
    (readers : next.readers = link.readers) (tasks : next.tasks = link.tasks.eraseIdx place) (before : link.Dialed) :
    next.Dialed := by
  apply dialed_same link next conn dialed readers _ _ before
  · intro other member
    rw [tasks] at member
    exact mem_of_mem_eraseIdx member
  · rw [tasks]
    exact (eraseIdx_sublist _ _).countP_le

theorem dialed_replaced {link next : Link} {old new : Task} (there : link.tasks[place]? = some old)
    (conn : next.conn = link.conn) (dialed : next.dialed = link.dialed) (readers : next.readers = link.readers)
    (tasks : next.tasks = link.tasks.set place new) (closed : new.isOpened = false) (before : link.Dialed) :
    next.Dialed := by
  apply dialed_same link next conn dialed readers _ _ before
  · intro other member
    rw [tasks] at member
    rcases mem_or_eq_of_mem_set member with kept | started
    · exact kept
    · rw [← started] at closed
      cases closed
  have count := count_set link.tasks place new Task.isOpened there
  rw [closed] at count
  rw [tasks]
  simp only [Bool.false_eq_true, if_false] at count
  omega

theorem dialed_report {connected : Bool} (dialed : link.Dialed) : (link.setConnectionState connected).Dialed := by
  simp only [setConnectionState]
  split
  · exact dialed
  · exact dialed_started link _ (.notify connected) rfl rfl rfl rfl rfl dialed

theorem report_false : (link.setConnectionState false).connected = false := by
  simp only [setConnectionState]
  split
  · assumption
  · rfl

theorem report_conn (connected : Bool) : (link.setConnectionState connected).conn = link.conn := by
  simp only [setConnectionState]
  split
  · rfl
  · rfl

theorem join_frame {stage : JoinStage} : ∃ entered written,
    (link.joinStep stage).1 = { link with state := entered, written := written } := by
  cases stage with
  | looking =>
    obtain ⟨_, same, _⟩ := link.join_looks
    exact ⟨link.state, link.written, by rw [same]⟩
  | entering =>
    obtain ⟨entered, same⟩ := link.join_enters
    exact ⟨entered, link.written, by rw [same]⟩
  | publishing =>
    obtain ⟨_, same, _⟩ := link.join_publishes
    exact ⟨link.state, link.written, by rw [same]⟩
  | writing =>
    obtain ⟨written, same, _⟩ := link.join_writes
    exact ⟨link.state, written, by rw [same]⟩

theorem dialed_reported {conn : Nat} (there : link.tasks[place]? = some (.opened conn)) (dialed : link.Dialed) :
    Dialed { link with readers := link.readers ++ [conn], tasks := link.tasks.eraseIdx place } := by
  obtain ⟨own, _⟩ := dialed.opened conn (mem_of_getElem? there)
  obtain ⟨whole, erased, _⟩ := split_place link.tasks place (.opened conn) there
  have none' : (link.tasks.eraseIdx place).countP Task.isOpened = 0 := by
    have once := dialed.once
    rw [whole, countP_append, countP_cons] at once
    rw [erased, countP_append]
    simp only [Task.isOpened, if_true] at once
    omega
  refine ⟨dialed.current, ?_, ?_, ?_⟩
  · intro other member
    rcases mem_append.mp member with before | new
    · exact dialed.readers other before
    · rw [mem_singleton.mp new]
      exact dialed.current conn own
  · intro other member
    exact absurd rfl (countP_eq_zero.mp none' _ member)
  · rw [none']
    exact Nat.zero_le _

theorem wired_run (wired : link.Wired)
    (notice : link.tasks[place]? = some (.notify false) → ¬ (link.connected = true ∧ link.state = .stalled))
    (ready : ∀ conn, link.tasks[place]? = some (.opened conn) → link.connected = false → link.Ready) :
    (link.runTask place).Wired := by
  have sought := sought_run wired.held wired.sought notice ready
  simp only [runTask] at sought ⊢
  cases there : link.tasks[place]? with
  | none => exact wired
  | some task =>
    simp only [there] at sought
    have erased := fun other (member : other ∈ link.tasks) => mem_erase_or there member
    have replaced := fun new other => @mem_set_or _ _ place task new other there
    cases task with
    | announce =>
      refine ⟨?_, ?_, sought⟩
      · refine held_same link _ id rfl ?_ wired.held
        exact parting_tasks link _ .announce (replaced _) fun _ => Task.noConfusion
      · exact dialed_replaced there rfl rfl rfl rfl rfl wired.dialed
    | notify connected =>
      refine ⟨?_, ?_, sought⟩
      · refine held_same link _ id rfl ?_ wired.held
        exact parting_tasks link _ (.notify connected) erased fun _ => Task.noConfusion
      · exact dialed_erased link _ place rfl rfl rfl rfl wired.dialed
    | opened conn =>
      obtain ⟨own, _⟩ := wired.dialed.opened conn (mem_of_getElem? there)
      refine ⟨?_, dialed_report _ (dialed_reported link there wired.dialed), sought⟩
      intro _
      rw [report_conn]
      exact .inl (by rw [own]; exact Option.some_ne_none conn)
    | released =>
      refine ⟨?_, dialed_report _ (dialed_erased link _ place rfl rfl rfl rfl wired.dialed), sought⟩
      exact fun on => absurd ((report_false _).symm.trans on) Bool.false_ne_true
    | join stage =>
      obtain ⟨_, _, same⟩ := link.join_frame
      dsimp only at sought ⊢
      generalize link.joinStep stage = result at same sought
      obtain ⟨_, goes⟩ := result
      dsimp only at same
      rw [same] at sought ⊢
      cases goes with
      | none =>
        refine ⟨?_, ?_, sought⟩
        · refine held_same link _ id rfl ?_ wired.held
          exact parting_tasks link _ (.join stage) erased fun _ => Task.noConfusion
        · exact dialed_erased link _ place rfl rfl rfl rfl wired.dialed
      | some =>
        refine ⟨?_, ?_, sought⟩
        · refine held_same link _ id rfl ?_ wired.held
          exact parting_tasks link _ (.join stage) (replaced _) fun _ => Task.noConfusion
        · exact dialed_replaced there rfl rfl rfl rfl rfl wired.dialed

theorem change_frame : ∃ entered written notice change,
    link.handleConnectionChanges = { link with state := entered, written := written, notice := notice, change := change } := by
  simp only [handleConnectionChanges]
  cases change : link.change with
  | waiting =>
    cases notice : link.notice with
    | none =>
      refine ⟨link.state, link.written, link.notice, link.change, ?_⟩
      rfl
    | some => exact ⟨link.state, link.written, _, _, rfl⟩
  | received connected =>
    cases connected with
    | true | false => exact ⟨link.state, link.written, link.notice, _, rfl⟩
  | rejoining stage =>
    obtain ⟨entered, written, same⟩ := link.join_frame
    dsimp only
    generalize link.joinStep stage = result at same
    obtain ⟨_, goes⟩ := result
    dsimp only at same
    rw [same]
    cases goes with
    | none | some => exact ⟨entered, written, link.notice, _, rfl⟩
  | stalling =>
    obtain ⟨entered, same⟩ := set_state_keeps link
    rw [same]
    exact ⟨entered, link.written, link.notice, _, rfl⟩

variable {link}

theorem wired_change (wired : link.Wired) : link.handleConnectionChanges.Wired := by
  have sought := sought_change wired.held wired.sought
  obtain ⟨_, _, _, _, same⟩ := link.change_frame
  rw [same] at sought ⊢
  refine ⟨?_, ?_, sought⟩
  · exact held_same link _ id rfl id wired.held
  · exact dialed_same link _ rfl rfl rfl (fun _ => id) (Nat.le_refl _) wired.dialed

theorem wired_started {link next : Link} {task : Task} (carries : Carries link { link with tasks := link.tasks ++ [task] })
    (closed : task.isOpened = false) (same : next = { link with created := next.created, tasks := link.tasks ++ [task] })
    (created : link.created = true → next.created = true) (wired : link.Wired) : next.Wired := by
  rw [same]
  refine ⟨?_, ?_, ?_⟩
  · exact held_same link _ id rfl carries.parting wired.held
  · exact dialed_started link _ task rfl rfl rfl rfl closed wired.dialed
  · apply sought_carries link _ _ wired.sought
    exact ⟨id, id, created, carries.parting, carries.asked, carries.pursued, carries.noticed⟩

theorem wired_create (wired : link.Wired) : link.createChannel.Wired := by
  simp only [createChannel]
  split
  · exact wired
  · exact wired_started (carries_started link) rfl rfl (fun _ => rfl) wired

theorem wired_join (wired : link.Wired) : link.join.Wired := by
  simp only [join]
  split
  · exact wired_started (carries_started link) rfl rfl id wired
  · exact wired

theorem wired_connect (wired : link.Wired) : link.connect.Wired := by
  simp only [connect]
  cases conn : link.conn with
  | some => exact wired
  | none =>
    have nobody : ∀ other, .opened other ∉ link.tasks := by
      intro other member
      have own := (wired.dialed.opened other member).1
      rw [conn] at own
      cases own
    have none' : link.tasks.countP Task.isOpened = 0 := by
      apply countP_eq_zero.mpr
      intro task member opened
      cases task with
      | opened other => exact nobody other member
      | announce | notify _ | released _ | join _ => cases opened
    have parts : link.Parting → ∃ conn, Task.released conn ∈ link.tasks ++ [.opened link.dialed] := by
      intro parting
      obtain ⟨number, member⟩ := parting
      exact ⟨number, mem_append_left _ member⟩
    refine ⟨?_, ⟨?_, ?_, ?_, ?_⟩, ?_⟩
    · exact fun _ => .inl (Option.some_ne_none _)
    · intro number same
      cases same
      exact Nat.lt_succ_self _
    · exact fun number member => (wired.dialed.readers number member).trans (Nat.lt_succ_self _)
    · intro number member
      rcases mem_append.mp member with before | new
      · exact absurd before (nobody number)
      · cases mem_singleton.mp new
        exact ⟨rfl, fun reader => Nat.lt_irrefl _ (wired.dialed.readers _ reader)⟩
    · rw [countP_append, none']
      exact Nat.le_refl _
    · -- Without a connection there is one whose loss is not reported yet.
      intro connected wanting
      obtain ⟨created, _⟩ := wired.sought connected wanting
      exact ⟨created, .inl (parts ((wired.held connected).resolve_left (not_not_intro conn)))⟩

theorem wired_lose {conn : Nat} (wired : link.Wired) : (link.lose conn).Wired := by
  simp only [lose]
  split
  · rename_i reading
    have fewer : ∀ other ∈ link.readers.erase conn, other ∈ link.readers := fun _ member => mem_of_mem_erase member
    have read : Wired { link with readers := link.readers.erase conn } := by
      refine ⟨held_same link _ id rfl id wired.held, ⟨wired.dialed.current, ?_, ?_, wired.dialed.once⟩, ?_⟩
      · exact fun other member => wired.dialed.readers other (fewer other member)
      · intro other member
        obtain ⟨own, outside⟩ := wired.dialed.opened other member
        exact ⟨own, fun reader => outside (fewer other reader)⟩
      · exact sought_carries link _ ⟨id, id, id, id, .inl, fun _ => .inl, fun _ _ stalled noticed => .inr ⟨stalled, noticed⟩⟩
          wired.sought
    split
    · rename_i own
      have parting : ∃ other, Task.released other ∈ link.tasks ++ [.released conn] :=
        ⟨conn, mem_append_right _ (mem_singleton.mpr rfl)⟩
      refine ⟨fun _ => .inr parting, ⟨?_, read.dialed.readers, ?_, ?_⟩, ?_⟩
      · exact fun _ same => nomatch same
      · intro other member
        rcases mem_append.mp member with before | new
        · obtain ⟨mine, outside⟩ := wired.dialed.opened other before
          rw [own] at mine
          cases mine
          exact absurd reading outside
        · cases mem_singleton.mp new
      · rw [countP_append]
        exact wired.dialed.once
      · intro connected wanting
        exact ⟨(wired.sought connected wanting).1, .inl parting⟩
    · exact read
  · exact wired

end Link

namespace Link

def Settled (link : Link) : Prop := link.tasks = [] ∧ link.notice = none ∧ link.change = .waiting

def Intent (link : Link) : Prop := link.Settled → link.connected = true → link.wanting = true → link.Asked

theorem wired_intent {link : Link} (wired : link.Wired) : link.Intent := by
  intro settled connected wanting
  obtain ⟨tasks, notice, change⟩ := settled
  obtain ⟨_, parting | asked | pursued | ⟨_, noticed⟩⟩ := wired.sought connected wanting
  · obtain ⟨_, member⟩ := parting
    rw [tasks] at member
    cases member
  · exact asked
  · simp only [Pursued, tasks, change, not_mem_nil, reduceCtorEq, or_self] at pursued
  · simp only [Noticed, tasks, notice, change, not_mem_nil, reduceCtorEq, or_self] at noticed

theorem wired_entered {link : Link} {state : ChannelState} (wired : link.Wired)
    (answered : ¬ (link.connected = true ∧ link.state = .stalled)) : (link.setState state).Wired := by
  obtain ⟨_, same⟩ := set_state_keeps link
  rw [same]
  refine ⟨held_same link _ id rfl id wired.held, ?_, ?_⟩
  · exact dialed_same link _ rfl rfl rfl (fun _ => id) (Nat.le_refl _) wired.dialed
  · apply sought_carries link _ _ wired.sought
    exact ⟨id, id, id, id, .inl, fun _ => .inl, fun connected _ stalled _ => absurd ⟨connected, stalled⟩ answered⟩

theorem wired_greeted {link : Link} (wired : link.Wired)
    (ready : link.connected = false → link.conn ≠ none ∧ link.Ready) : (link.setConnectionState true).Wired := by
  refine ⟨?_, dialed_report link wired.dialed, ?_⟩
  · intro on
    rw [report_conn]
    cases before : link.connected with
    | false => exact .inl (ready before).1
    | true =>
      have same : link.setConnectionState true = link := by
        simp [setConnectionState, before]
      rw [same]
      exact wired.held before
  · exact sought_connected link (fun off => (ready off).2) wired.sought

end Link

namespace ClientRun

def Kept (run : ClientRun) : Prop := run.link.Intent

-- While a connected channel is stalled no answer of an earlier connection takes effect
-- and no notice of a lost one comes. The connection does not come about while the channel
-- is joining, unless a call of Join is still to write, and never without a connection.
def Awaited (run : ClientRun) : ClientStep → Prop
  | .run place =>
    (run.link.tasks[place]? = some (.notify false) → ¬ (run.link.connected = true ∧ run.link.state = .stalled)) ∧
      ∀ conn, run.link.tasks[place]? = some (.opened conn) → run.link.connected = false → run.link.Ready
  | .init =>
    match run.feed.stage with
    | .waiting => ∀ event rest, run.feed.inbox = event :: rest → event.event = "CONNECTION" → event.action = "CONNECT" →
        run.link.connected = false → run.link.conn ≠ none ∧ run.link.Ready
    | .acknowledging _ | .declining _ => ¬ (run.link.connected = true ∧ run.link.state = .stalled)
    | _ => True
  | _ => True

theorem wired_handle {run : ClientRun} {event : ServerEvent} (wired : run.link.Wired)
    (greeting : event.event = "CONNECTION" → event.action = "CONNECT" → run.link.connected = false →
      run.link.conn ≠ none ∧ run.link.Ready) : (run.handle event).link.Wired := by
  simp only [handle]
  split
  · split
    · exact wired
    · exact wired
  split
  · rename_i named
    split
    · rename_i connect
      exact wired_greeted wired (greeting named connect)
    · exact wired
  split
  · split
    · exact wired
    · exact wired
  split
  · split
    · exact wired
    · exact wired
  · exact wired

theorem wired_init {run : ClientRun} (wired : run.link.Wired) (awaited : run.Awaited .init) : run.initStep.link.Wired := by
  simp only [Awaited] at awaited
  simp only [initStep]
  cases stage : run.feed.stage with
  | waiting =>
    rw [stage] at awaited
    cases inbox : run.feed.inbox with
    | nil => exact wired
    | cons event rest => exact wired_handle wired (awaited event rest inbox)
  | subscribed | deciding =>
    dsimp only
    split
    · exact wired
    · exact wired
  | acknowledging | declining =>
    rw [stage] at awaited
    exact wired_entered wired awaited
  | surfacing => exact wired

theorem step_wired (run : ClientRun) (label : ClientStep) (wired : run.link.Wired) (awaited : run.Awaited label) :
    (run.step label).link.Wired := by
  cases label with
  | createChannel => exact wired_create wired
  | connect => exact wired_connect wired
  | lose => exact wired_lose wired
  | join => exact wired_join wired
  | run => exact wired_run run.link wired awaited.1 awaited.2
  | change => exact wired_change wired
  | init => exact wired_init wired awaited
  | broadcast _ _ _ | send _ | receive _ | forward _ | deliver | offer _ | onMessage | unsubscribe _ | hear _ =>
    exact wired

-- Every join that is asked for when the connection comes about is written on it.
theorem join_kept (name : String) (labels : List ClientStep) (awaited : Follows step Awaited (new name) labels) :
    Always step Kept (new name) labels := by
  have kept : ∀ (run : ClientRun) (label : ClientStep), run.link.Wired → run.Awaited label → (run.step label).link.Wired :=
    step_wired
  have start : (new name).link.Wired := wired_new
  exact always_mono step (fun run => run.link.Wired) Kept (fun run => wired_intent) _ labels
    (always_of_follows step Awaited _ kept _ start awaited)

theorem run_checked {run : ClientRun} (checked : (run.link.tasks[place]?).all (fun task => match task with
      | .notify false => !(run.link.connected && decide (run.link.state = .stalled))
      | .opened _ => run.link.connected || decide (run.link.state ≠ .joining)
      | _ => true) = true) : run.Awaited (.run place) := by
  refine ⟨?_, ?_⟩
  · intro there both
    rw [there, Option.all_some] at checked
    simp only [both.1, both.2, decide_true, Bool.and_self, Bool.not_true, Bool.false_eq_true] at checked
  intro conn there off joining
  rw [there, Option.all_some] at checked
  simp only [off, joining, ne_eq, not_true_eq_false, decide_false, Bool.or_self, Bool.false_eq_true] at checked

theorem init_checked {run : ClientRun}
    (checked : (match run.feed.stage with
      | .waiting => (run.feed.inbox.head?).all fun event => decide (event.event ≠ "CONNECTION")
      | .acknowledging _ | .declining _ => !(run.link.connected && decide (run.link.state = .stalled))
      | _ => true) = true) : run.Awaited .init := by
  simp only [Awaited]
  cases stage : run.feed.stage with
  | waiting =>
    rw [stage] at checked
    intro event rest inbox named
    rw [inbox] at checked
    simp only [head?_cons, Option.all_some, named, ne_eq, not_true_eq_false, decide_false, Bool.false_eq_true] at checked
  | acknowledging place | declining event =>
    rw [stage] at checked
    intro both
    simp only [both.1, both.2, decide_true, Bool.and_self, Bool.not_true, Bool.false_eq_true] at checked
  | subscribed place | deciding event | surfacing event => trivial

theorem rejoin_kept : Always step Kept (new "/room") (joinedRoom ++ rejoined) :=
  join_kept "/room" (joinedRoom ++ rejoined)
    ⟨trivial, run_checked (by decide +kernel), run_checked (by decide +kernel), trivial, trivial, trivial,
      run_checked (by decide +kernel), run_checked (by decide +kernel), trivial, trivial, trivial,
      run_checked (by decide +kernel), run_checked (by decide +kernel), run_checked (by decide +kernel),
      run_checked (by decide +kernel), trivial, trivial, trivial, init_checked (by decide +kernel),
      init_checked (by decide +kernel), init_checked (by decide +kernel), trivial, run_checked (by decide +kernel),
      run_checked (by decide +kernel), trivial, trivial, trivial, trivial, run_checked (by decide +kernel),
      run_checked (by decide +kernel), trivial, trivial, trivial, trivial, trivial, trivial, trivial⟩

def early : List ClientStep := created ++ [.join, .run 0, .run 0, .run 0] ++ connected

def cutOff : List ClientStep :=
  created ++ connected ++ [.join, .run 0, .run 0, .run 0, .run 0, .lose 0, .run 0, .run 0, .change, .change] ++ connected

theorem join_lost :
    ((run step (new "/room") early).link.state = .joining ∧ ¬ Always step Kept (new "/room") early) ∧
      (run step (new "/room") cutOff).link.state = .joining ∧ ¬ Always step Kept (new "/room") cutOff := by
  refine ⟨⟨by decide +kernel, ?_⟩, by decide +kernel, ?_⟩
  · intro always
    have kept := always_run step (new "/room") always
    obtain ⟨conn, _, member⟩ := kept ⟨by decide +kernel, by decide +kernel, by decide +kernel⟩ (by decide +kernel)
      (by decide +kernel)
    cases member
  intro always
  have kept := always_run step (new "/room") always
  obtain ⟨_, there, member⟩ := kept ⟨by decide +kernel, by decide +kernel, by decide +kernel⟩ (by decide +kernel)
    (by decide +kernel)
  cases there
  cases mem_singleton.mp member

end ClientRun

end PondSocket.Go.Client
