import PondSocket.Rust.LobbyRun
import PondSocket.Library.Places

namespace PondSocket.Rust

open Library List Option LobbyTask
open Js (UserId NodeId)

def LobbyTask.joins (id : Nat) : LobbyTask → Bool
  | .joined other | .adding other _ true | .inserting other _ true | .settling other _ true | .finishing other =>
    decide (other = id)
  | _ => false

def LobbyTask.closes (id : Nat) : LobbyTask → Bool
  | .closing other | .clearing other | .wiping other => decide (other = id)
  | _ => false

namespace LobbyRun

variable (lobby : LobbyRun) {place : Nat}

variable {place : Nat} (id : Nat) {name : String}

def inFlightOf (lobby : LobbyRun) (id : Nat) : Nat := (lobby.objects[id]?.map LobbyChannel.inFlight).getD 0

def Closed (lobby : LobbyRun) (id : Nat) : Prop :=
  (∃ object, lobby.objects[id]? = some object ∧ object.channel.active = false) ∨ ∃ task ∈ lobby.tasks, task.closes id

def Section.Sound (lobby : LobbyRun) : Section → Prop
  | .looking _ | .checking _ => True
  | .starting name id => id < lobby.objects.length ∧ lobby.channels.get? name = none ∧ ¬ lobby.Closed id ∧
      ∀ other, lobby.channels.get? other ≠ some id
  | .held id => id < lobby.objects.length ∧ ¬ lobby.Closed id
  | .counting name id | .flying name id => lobby.channels.get? name = some id
  | .nodes name id | .dropping name id => lobby.channels.get? name = some id ∧ lobby.inFlightOf id = 0

structure Sound (lobby : LobbyRun) : Prop where
  inside : ∀ place holding, lobby.lock = some (place, holding) →
    lobby.tasks[place]? = some .inside ∧ Section.Sound lobby holding
  counted : ∀ id, lobby.inFlightOf id = lobby.tasks.countP (LobbyTask.joins id)
  unique : ∀ first second id, lobby.channels.get? first = some id → lobby.channels.get? second = some id → first = second
  known : ∀ name id, lobby.channels.get? name = some id → id < lobby.objects.length
  retired : ∀ id, lobby.Closed id → id < lobby.objects.length ∧ lobby.inFlightOf id = 0 ∧
    ∀ name, lobby.channels.get? name ≠ some id

theorem in_flight_touch {id other : Nat} (change : Channel → Channel) :
    (lobby.touch id change).inFlightOf other = lobby.inFlightOf other := by
  simp only [inFlightOf, touch, getElem?_modify]
  cases lobby.objects[other]? with
  | none => rfl
  | some => split <;> rfl

theorem in_flight_count (id other : Nat) (change : Nat → Nat) (known : id < lobby.objects.length) :
    (lobby.count id change).inFlightOf other =
      if id = other then change (lobby.inFlightOf other) else lobby.inFlightOf other := by
  simp only [inFlightOf, count, getElem?_modify]
  by_cases same : id = other
  · subst same
    rw [getElem?_eq_getElem known]
    simp
  · simp only [if_neg same]
    cases lobby.objects[other]? <;> rfl

theorem section_sound_keep (lobby next : LobbyRun) (holding : Section) (sound : Section.Sound lobby holding)
    (channels : next.channels = lobby.channels) (length : next.objects.length = lobby.objects.length)
    (still : ∀ id, lobby.inFlightOf id = 0 → next.inFlightOf id = 0)
    (closed : ∀ id, next.Closed id → lobby.Closed id) : Section.Sound next holding := by
  cases holding with
  | looking | checking => trivial
  | starting _ id =>
    obtain ⟨inside, absent, alive, unmapped⟩ := sound
    rw [← length] at inside
    rw [← channels] at absent unmapped
    exact ⟨inside, absent, fun gone => alive (closed id gone), unmapped⟩
  | held id => exact ⟨length ▸ sound.1, fun gone => sound.2 (closed id gone)⟩
  | counting name id | flying name id =>
    have mapped : lobby.channels.get? name = some id := sound
    rw [← channels] at mapped
    exact mapped
  | nodes name id | dropping name id => exact ⟨channels ▸ sound.1, still id sound.2⟩

theorem sound_task (lobby next : LobbyRun) (place : Nat) (old new : LobbyTask) (sound : lobby.Sound)
    (there : lobby.tasks[place]? = some old) (free : old ≠ .inside) (tasks : next.tasks = lobby.tasks.set place new)
    (lock : next.lock = lobby.lock) (channels : next.channels = lobby.channels)
    (length : next.objects.length = lobby.objects.length)
    (counts : ∀ id, next.inFlightOf id + (if old.joins id then 1 else 0) =
      lobby.inFlightOf id + if new.joins id then 1 else 0)
    (still : ∀ id, lobby.inFlightOf id = 0 → next.inFlightOf id = 0)
    (inactive : ∀ (id : Nat) object, next.objects[id]? = some object → object.channel.active = false → lobby.Closed id)
    (closes : ∀ id, new.closes id = true → lobby.Closed id) : next.Sound := by
  have closed : ∀ id, next.Closed id → lobby.Closed id := by
    rintro id (⟨object, found, gone⟩ | ⟨task, member, closing⟩)
    · exact inactive id object found gone
    rw [tasks] at member
    rcases mem_or_eq_of_mem_set member with old | rfl
    · exact .inr ⟨task, old, closing⟩
    · exact closes id closing
  refine ⟨fun holder holding held => ?_, fun id => ?_, ?_, ?_, fun id gone => ?_⟩
  · rw [lock] at held
    obtain ⟨standing, reliable⟩ := sound.inside holder holding held
    refine ⟨?_, section_sound_keep lobby next holding reliable channels length still closed⟩
    have apart : place ≠ holder := by
      rintro rfl
      exact free (some.inj (there.symm.trans standing))
    rw [tasks, getElem?_set_ne apart]
    exact standing
  · have counted := count_set lobby.tasks place new (joins id) there
    have before := sound.counted id
    have change := counts id
    rw [tasks]
    omega
  · rw [channels]
    exact sound.unique
  · rw [channels, length]
    exact sound.known
  · obtain ⟨inside, idle, unmapped⟩ := sound.retired id (closed id gone)
    exact ⟨length ▸ inside, still id idle, channels ▸ unmapped⟩

theorem length_touch {id : Nat} (change : Channel → Channel) :
    (lobby.touch id change).objects.length = lobby.objects.length :=
  length_modify _ _ _

theorem inactive_closed {id : Nat} {object : LobbyChannel} (found : lobby.objects[id]? = some object)
    (gone : object.channel.active = false) : lobby.Closed id :=
  .inl ⟨object, found, gone⟩

theorem inactive_touch {id other : Nat} (change : Channel → Channel) (object : LobbyChannel)
    (kept : ∀ channel, (change channel).active = channel.active) (found : (lobby.touch id change).objects[other]? = some object)
    (gone : object.channel.active = false) : lobby.Closed other := by
  obtain ⟨_, there, same⟩ := get_modify found
  apply lobby.inactive_closed there
  rw [same] at gone
  split at gone
  · rw [← kept]
    exact gone
  · exact gone

variable {id}

variable {old : LobbyTask}

theorem sound_touch {change : Channel → Channel} {new : LobbyTask} (sound : lobby.Sound)
    (there : lobby.tasks[place]? = some old) (free : old ≠ .inside)
    (kept : ∀ channel, (change channel).active = channel.active) (joins : ∀ id, old.joins id = new.joins id)
    (closes : ∀ id, new.closes id = true → lobby.Closed id) : ((lobby.touch id change).goes place new).Sound := by
  apply sound_task lobby ((lobby.touch id change).goes place new) place old new sound there free rfl rfl rfl
    (length_touch lobby change)
  · intro other
    rw [joins]
    exact congrArg (· + _) (lobby.in_flight_touch change)
  · intro other idle
    exact (lobby.in_flight_touch change).trans idle
  · intro other object found gone
    exact lobby.inactive_touch change object kept found gone
  · exact closes

theorem sound_goes (new : LobbyTask) (sound : lobby.Sound) (there : lobby.tasks[place]? = some old)
    (free : old ≠ .inside) (joins : ∀ id, old.joins id = new.joins id)
    (closes : ∀ id, new.closes id = true → lobby.Closed id) : (lobby.goes place new).Sound :=
  sound_task lobby _ place old new sound there free rfl rfl rfl rfl (fun id => by rw [joins]; rfl) (fun _ idle => idle)
    (fun id object found gone => lobby.inactive_closed found gone) closes

theorem table_op_keeps {op : TableOp} {now : Nat} {channel : Channel} :
    (op.apply now channel).active = channel.active ∧ (op.apply now channel).connections = channel.connections := by
  cases op with
  | setAssigns | setPresence | dropAssigns | dropPresence => exact ⟨rfl, rfl⟩
  | trackNode | seeNode =>
    simp only [TableOp.apply]
    split <;> exact ⟨rfl, rfl⟩
  | untrackNode =>
    simp only [TableOp.apply, Channel.untrackNodeUser]
    split
    · exact ⟨rfl, rfl⟩
    · split <;> exact ⟨rfl, rfl⟩

theorem added_closes (id other : Nat) (joining : Bool) : (added id joining).closes other = false := by
  cases joining <;> rfl

theorem closing_member {task : LobbyTask} (there : lobby.tasks[place]? = some task)
    (closes : task.closes id = true) : lobby.Closed id :=
  .inr ⟨task, mem_of_getElem? there, closes⟩

theorem sound_finish (sound : lobby.Sound) (there : lobby.tasks[place]? = some (.finishing id)) :
    ((lobby.count id (· - 1)).goes place (.removing name)).Sound := by
  have counted := sound.counted id
  have positive : 0 < lobby.tasks.countP (joins id) :=
    countP_pos_iff.mpr ⟨_, mem_of_getElem? there, decide_eq_true rfl⟩
  have known : id < lobby.objects.length := by
    by_contra outside
    rw [inFlightOf, getElem?_eq_none (Nat.le_of_not_lt outside)] at counted
    simp at counted
    omega
  apply sound_task lobby ((lobby.count id (· - 1)).goes place (.removing name)) place (.finishing id) (.removing name)
    sound there (by simp) rfl rfl rfl (length_modify _ _ _)
  · intro other
    have change := lobby.in_flight_count id other (· - 1) known
    have same : ((lobby.count id (· - 1)).goes place (.removing name)).inFlightOf other =
        (lobby.count id (· - 1)).inFlightOf other := rfl
    rw [same, change]
    by_cases own : id = other
    · subst own
      simp only [joins, if_true, decide_true]
      simp
      omega
    · simp [joins, own]
  · intro other idle
    have change := lobby.in_flight_count id other (· - 1) known
    have same : ((lobby.count id (· - 1)).goes place (.removing name)).inFlightOf other =
        (lobby.count id (· - 1)).inFlightOf other := rfl
    rw [same, change, idle]
    split <;> rfl
  · intro other object found gone
    obtain ⟨_, held, same⟩ := get_modify found
    apply lobby.inactive_closed held
    rw [same] at gone
    split at gone <;> exact gone
  · intro other closes
    cases closes

variable {holding : Section}

theorem sound_holds {later : Section} (sound : lobby.Sound) (held : lobby.lock = some (place, holding))
    (reliable : Section.Sound lobby later) : (lobby.holds place later).Sound := by
  constructor
  · intro holder section_ same
    cases same
    exact ⟨(sound.inside place holding held).1, reliable⟩
  · exact sound.counted
  · exact sound.unique
  · exact sound.known
  · exact sound.retired

theorem sound_releases {lobby : LobbyRun} (next : LobbyRun) {place : Nat} (task : LobbyTask) (sound : lobby.Sound)
    (held : lobby.lock = some (place, holding)) (lock : next.lock = none)
    (tasks : next.tasks = lobby.tasks.set place task)
    (counts : ∀ id, next.inFlightOf id = lobby.inFlightOf id + if task.joins id then 1 else 0)
    (length : next.objects.length = lobby.objects.length)
    (channels : ∀ name id, next.channels.get? name = some id → lobby.channels.get? name = some id)
    (retired : ∀ id, next.Closed id → id < next.objects.length ∧ next.inFlightOf id = 0 ∧
      ∀ name, next.channels.get? name ≠ some id) : next.Sound := by
  constructor
  · intro holder section_ same
    rw [lock] at same
    cases same
  · intro id
    have counted := count_set lobby.tasks place task (joins id) (sound.inside place holding held).1
    have before := sound.counted id
    have now := counts id
    have outside : joins id .inside = false := rfl
    rw [outside] at counted
    rw [tasks]
    simp only [Bool.false_eq_true, if_false] at counted
    omega
  · intro first second id one two
    exact sound.unique first second id (channels first id one) (channels second id two)
  · intro name id found
    rw [length]
    exact sound.known name id (channels name id found)
  · exact retired

theorem sound_done (sound : lobby.Sound) (held : lobby.lock = some (place, holding)) :
    (lobby.releases place .done).Sound := by
  apply sound_releases (lobby.releases place .done) .done sound held rfl rfl
  · intro id
    rfl
  · rfl
  · intro name id found
    exact found
  · intro id gone
    apply sound.retired id
    rcases gone with active | ⟨task, member, closing⟩
    · exact .inl active
    rcases mem_or_eq_of_mem_set member with old | rfl
    · exact .inr ⟨task, old, closing⟩
    · cases closing

theorem sound_held (sound : lobby.Sound) (held : lobby.lock = some (place, .held id)) :
    ((lobby.count id (· + 1)).releases place (.joined id)).Sound := by
  obtain ⟨known, alive⟩ := (sound.inside place (.held id) held).2
  have counts : ∀ other, ((lobby.count id (· + 1)).releases place (.joined id)).inFlightOf other =
      lobby.inFlightOf other + if joins other (.joined id) then 1 else 0 := by
    intro other
    have change := lobby.in_flight_count id other (· + 1) known
    by_cases same : id = other
    · rw [if_pos same] at change
      simp only [joins, decide_eq_true same, if_true]
      exact change
    rw [if_neg same] at change
    simp only [joins, decide_eq_false same, Bool.false_eq_true, if_false]
    exact change
  have closed : ∀ other, ((lobby.count id (· + 1)).releases place (.joined id)).Closed other → lobby.Closed other := by
    intro other gone
    rcases gone with ⟨_, found, inactive⟩ | ⟨task, member, closing⟩
    · obtain ⟨_, there, same⟩ := get_modify found
      apply lobby.inactive_closed there
      rw [same] at inactive
      split at inactive <;> exact inactive
    rcases mem_or_eq_of_mem_set member with old | rfl
    · exact .inr ⟨task, old, closing⟩
    · cases closing
  apply sound_releases ((lobby.count id (· + 1)).releases place (.joined id)) (.joined id) sound held
    rfl rfl counts (length_modify _ _ _)
  · intro name other found
    exact found
  intro other gone
  obtain ⟨inside, idle, unmapped⟩ := sound.retired other (closed other gone)
  have apart : id ≠ other := by
    intro same
    exact alive (same ▸ closed other gone)
  refine ⟨(length_modify _ _ _).symm ▸ inside, ?_, unmapped⟩
  rw [counts, idle]
  simp [joins, decide_eq_false apart]

theorem sound_dropping (sound : lobby.Sound) (held : lobby.lock = some (place, .dropping name id)) :
    ({ lobby with channels := lobby.channels.delete name }.releases place (.closing id)).Sound := by
  obtain ⟨mapped, idle⟩ := (sound.inside place (.dropping name id) held).2
  have kept : ∀ other otherId, (lobby.channels.delete name).get? other = some otherId →
      other ≠ name ∧ lobby.channels.get? other = some otherId := by
    intro other otherId found
    rw [OrderedMap.get_delete] at found
    split at found
    · cases found
    · rename_i different
      exact ⟨different, found⟩
  refine sound_releases _ (.closing id) sound held ?_ ?_ ?_ ?_ ?_ ?_
  · rfl
  · rfl
  · intro other
    rfl
  · rfl
  · intro other otherId found
    exact (kept other otherId found).2
  · intro other gone
    have before : lobby.Closed other ∨ other = id := by
      rcases gone with active | ⟨task, member, closing⟩
      · exact .inl (.inl active)
      rcases mem_or_eq_of_mem_set member with old | rfl
      · exact .inl (.inr ⟨task, old, closing⟩)
      · exact .inr (of_decide_eq_true closing).symm
    rcases before with closed | rfl
    · obtain ⟨inside, still, unmapped⟩ := sound.retired other closed
      exact ⟨inside, still, fun name found => unmapped name (kept name other found).2⟩
    refine ⟨sound.known name other mapped, idle, fun another found => ?_⟩
    obtain ⟨different, there⟩ := kept another other found
    exact different (sound.unique another name other there mapped)

theorem sound_looking (sound : lobby.Sound)
    (held : lobby.lock = some (place, .looking name)) (absent : lobby.channels.get? name = none) :
    ({ lobby with objects := lobby.objects ++ [lobby.started name] }.holds place
      (.starting name lobby.objects.length)).Sound := by
  have fresh : lobby.inFlightOf lobby.objects.length = 0 := by
    rw [inFlightOf, getElem?_eq_none (Nat.le_refl _)]
    rfl
  have counts : ∀ id, (({ lobby with objects := lobby.objects ++ [lobby.started name] } : LobbyRun).holds place
      (.starting name lobby.objects.length)).inFlightOf id = lobby.inFlightOf id := by
    intro id
    by_cases last : id = lobby.objects.length
    · subst last
      rw [fresh]
      simp only [inFlightOf, holds, getElem?_concat_length]
      rfl
    simp only [inFlightOf, holds]
    by_cases before : id < lobby.objects.length
    · rw [getElem?_append_left before]
    have after : lobby.objects.length ≤ id := Nat.le_of_not_lt before
    rw [getElem?_eq_none after, getElem?_eq_none]
    rw [length_append, length_singleton]
    omega
  have closed : ∀ id, (({ lobby with objects := lobby.objects ++ [lobby.started name] } : LobbyRun).holds place
      (.starting name lobby.objects.length)).Closed id → lobby.Closed id := by
    intro id gone
    rcases gone with ⟨_, found, inactive⟩ | closing
    · rcases get_concat found with before | ⟨_, rfl⟩
      · exact lobby.inactive_closed before inactive
      · cases inactive
    · exact .inr closing
  have nowhere : ∀ other, lobby.channels.get? other ≠ some lobby.objects.length := by
    intro other found
    exact Nat.lt_irrefl _ (sound.known other _ found)
  have alive : ¬ lobby.Closed lobby.objects.length := by
    intro gone
    exact Nat.lt_irrefl _ (sound.retired _ gone).1
  have longer : (lobby.objects ++ [lobby.started name]).length = lobby.objects.length + 1 := by
    rw [length_append]
    rfl
  constructor
  · intro holder section_ same
    cases same
    refine ⟨(sound.inside place _ held).1, ?_, absent, fun gone => alive (closed _ gone), nowhere⟩
    exact longer ▸ Nat.lt_succ_self _
  · intro id
    rw [counts]
    exact sound.counted id
  · exact sound.unique
  · intro other id found
    exact longer ▸ Nat.lt_succ_of_lt (sound.known other id found)
  · intro id gone
    obtain ⟨inside, idle, unmapped⟩ := sound.retired id (closed id gone)
    exact ⟨longer ▸ Nat.lt_succ_of_lt inside, (counts id).trans idle, unmapped⟩

theorem sound_starting (sound : lobby.Sound) (held : lobby.lock = some (place, .starting name id)) :
    ({ lobby with channels := lobby.channels.set name id }.holds place (.held id)).Sound := by
  obtain ⟨standing, known, _, alive, nowhere⟩ := sound.inside place _ held
  have mapped : ∀ other otherId, (lobby.channels.set name id).get? other = some otherId →
      other = name ∧ otherId = id ∨ other ≠ name ∧ lobby.channels.get? other = some otherId := by
    intro other otherId found
    rw [OrderedMap.get_set] at found
    split at found
    · rename_i same
      exact .inl ⟨same, (some.inj found).symm⟩
    · rename_i different
      exact .inr ⟨different, found⟩
  constructor
  · intro holder section_ same
    cases same
    exact ⟨standing, known, alive⟩
  · exact sound.counted
  · intro first second otherId one two
    rcases mapped first otherId one with ⟨rfl, rfl⟩ | ⟨_, before⟩
    · rcases mapped second otherId two with ⟨rfl, _⟩ | ⟨_, there⟩
      · rfl
      · exact absurd there (nowhere second)
    rcases mapped second otherId two with ⟨_, rfl⟩ | ⟨_, there⟩
    · exact absurd before (nowhere first)
    · exact sound.unique first second otherId before there
  · intro other otherId found
    rcases mapped other otherId found with ⟨_, rfl⟩ | ⟨_, before⟩
    · exact known
    · exact sound.known other otherId before
  · intro otherId gone
    obtain ⟨inside, idle, unmapped⟩ := sound.retired otherId gone
    refine ⟨inside, idle, fun other found => ?_⟩
    rcases mapped other otherId found with ⟨_, rfl⟩ | ⟨_, before⟩
    · exact alive gone
    · exact unmapped other before

theorem sound_holder (sound : lobby.Sound) : lobby.holder.Sound := by
  cases held : lobby.lock with
  | none =>
    simp only [holder, held]
    exact sound
  | some owner =>
    obtain ⟨place, holding⟩ := owner
    have reliable := (sound.inside place holding held).2
    cases holding with
    | looking name =>
      simp only [holder, held]
      split
      · rename_i id found
        apply lobby.sound_holds sound held
        exact ⟨sound.known name id found, fun gone => (sound.retired id gone).2.2 name found⟩
      · rename_i absent
        exact lobby.sound_looking sound held absent
    | starting =>
      simp only [holder, held]
      exact lobby.sound_starting sound held
    | held =>
      simp only [holder, held]
      exact lobby.sound_held sound held
    | checking =>
      simp only [holder, held]
      split
      · exact lobby.sound_done sound held
      · rename_i id found
        exact lobby.sound_holds sound held found
    | counting | nodes =>
      simp only [holder, held]
      split
      · exact lobby.sound_holds sound held reliable
      · exact lobby.sound_done sound held
    | flying =>
      simp only [holder, held]
      split
      · rename_i idle
        apply lobby.sound_holds sound held
        refine ⟨reliable, ?_⟩
        obtain ⟨_, found, zero⟩ := (any_eq_true _ _).mp idle
        rw [inFlightOf, found]
        exact of_decide_eq_true zero
      · exact lobby.sound_done sound held
    | dropping =>
      simp only [holder, held]
      exact lobby.sound_dropping sound held

theorem sound_take_lock (sound : lobby.Sound) : (lobby.takeLock place).Sound := by
  have taken : ∀ (task : LobbyTask) (next : Section), lobby.lock = none → lobby.tasks[place]? = some task → task ≠ .inside →
      (∀ id, task.joins id = false) → (∀ lobby, Section.Sound lobby next) → ((lobby.goes place .inside).holds place next).Sound := by
    intro task next free there waiting outside reliable
    have inside : place < lobby.tasks.length := (List.getElem?_eq_some_iff.mp there).1
    have gone := lobby.sound_goes .inside sound there waiting (fun id => outside id) (fun id closes => by cases closes)
    constructor
    · intro holder section_ same
      cases same
      exact ⟨getElem?_set_self inside, reliable _⟩
    · exact gone.counted
    · exact gone.unique
    · exact gone.known
    · exact gone.retired
  unfold takeLock
  split
  · rename_i name free there
    exact taken _ _ free there (by simp) (fun id => rfl) (fun lobby => trivial)
  · rename_i name free there
    exact taken _ _ free there (by simp) (fun id => rfl) (fun lobby => trivial)
  · exact sound

theorem sound_closing {new : LobbyTask} {change : Channel → Channel} (sound : lobby.Sound)
    (there : lobby.tasks[place]? = some old) (closing : old.closes id = true)
    (kept : ∀ other, new.closes other = true → other = id) (outside : ∀ other, old.joins other = new.joins other)
    (free : old ≠ .inside) : ((lobby.touch id change).goes place new).Sound := by
  have closed := lobby.closing_member there closing
  apply sound_task lobby ((lobby.touch id change).goes place new) place old new sound there free rfl rfl rfl
    (length_touch lobby change)
  · intro other
    rw [outside]
    exact congrArg (· + _) (lobby.in_flight_touch change)
  · intro other idle
    exact (lobby.in_flight_touch change).trans idle
  · intro other object found gone
    obtain ⟨_, held, same⟩ := get_modify found
    by_cases own : id = other
    · exact own ▸ closed
    · rw [if_neg own] at same
      exact lobby.inactive_closed held (same ▸ gone)
  · intro other closes
    exact kept other closes ▸ closed

theorem sound_task_step (sound : lobby.Sound) : (lobby.taskStep place).Sound := by
  have added_apart : ∀ id other joining, (added id joining).closes other = true → lobby.Closed other := by
    intro id other joining closes
    rw [added_closes] at closes
    cases closes
  cases there : lobby.tasks[place]? with
  | none =>
    simp only [taskStep, there]
    exact sound
  | some task =>
    cases task with
    | adding id _ joining =>
      simp only [taskStep, there]
      split
      · exact sound
      split
      · refine lobby.sound_goes _ sound there (by simp) ?_ ?_
        · intro other
          cases joining <;> rfl
        · intro other closes
          cases closes
      refine lobby.sound_goes _ sound there (by simp) ?_ ?_
      · intro other
        cases joining <;> rfl
      · exact fun other => added_apart id other joining
    | inserting id _ joining =>
      simp only [taskStep, there]
      split
      · exact sound
      split
      · refine lobby.sound_goes _ sound there (by simp) ?_ ?_
        · intro other
          cases joining <;> rfl
        · exact fun other => added_apart id other joining
      refine lobby.sound_touch sound there (by simp) ?_ ?_ ?_
      · intro channel
        rfl
      · intro other
        cases joining <;> rfl
      · intro other closes
        cases closes
    | settling id _ joining =>
      simp only [taskStep, there]
      refine lobby.sound_touch sound there (by simp) ?_ ?_ ?_
      · intro channel
        rfl
      · intro other
        cases joining <;> rfl
      · exact fun other => added_apart id other joining
    | finishing =>
      simp only [taskStep, there]
      split
      · exact sound
      · exact lobby.sound_finish sound there
    | leaving =>
      simp only [taskStep, there]
      split
      · exact sound
      split
      · refine lobby.sound_touch sound there (by simp) ?_ ?_ ?_
        · intro channel
          rfl
        · intro other
          rfl
        · intro other closes
          cases closes
      · refine lobby.sound_goes _ sound there (by simp) ?_ ?_
        · intro other
          rfl
        · intro other closes
          cases closes
    | remoteLeaving =>
      simp only [taskStep, there]
      split
      · exact sound
      split
      · refine lobby.sound_goes _ sound there (by simp) ?_ ?_
        · intro other
          rfl
        · intro other closes
          cases closes
      refine lobby.sound_goes _ sound there (by simp) ?_ ?_
      · intro other
        rfl
      · intro other closes
        cases closes
    | forgetting _ ops =>
      cases ops with
      | nil =>
        simp only [taskStep, there]
        split
        · exact sound
        refine lobby.sound_goes _ sound there (by simp) ?_ ?_
        · intro other
          rfl
        · intro other closes
          cases closes
      | cons =>
        simp only [taskStep, there]
        refine lobby.sound_touch sound there (by simp) ?_ ?_ ?_
        · intro channel
          exact table_op_keeps.1
        · intro other
          rfl
        · intro other closes
          cases closes
    | closing | clearing =>
      simp only [taskStep, there]
      refine lobby.sound_closing sound there (decide_eq_true rfl) ?_ ?_ (by simp)
      · intro other closes
        exact (of_decide_eq_true closes).symm
      · intro other
        rfl
    | wiping =>
      simp only [taskStep, there]
      refine lobby.sound_closing sound there (decide_eq_true rfl) ?_ ?_ (by simp)
      · intro other closes
        cases closes
      · intro other
        rfl
    | _ =>
      simp only [taskStep, there]
      exact sound

theorem call_plain (call : LobbyCall) (id : Nat) :
    call.task.joins id = false ∧ call.task.closes id = false ∧ call.task ≠ .closing id ∧ call.task ≠ .clearing id := by
  cases call <;> simp [LobbyCall.task, joins, closes]

theorem sound_call {call : LobbyCall} (sound : lobby.Sound) : (lobby.step (.call call)).Sound := by
  have closed : ∀ id, (lobby.step (.call call)).Closed id → lobby.Closed id := by
    intro id gone
    rcases gone with inactive | ⟨task, member, closing⟩
    · exact .inl inactive
    rcases mem_append.mp member with old | new
    · exact .inr ⟨task, old, closing⟩
    · rw [mem_singleton.mp new, (call_plain call id).2.1] at closing
      cases closing
  constructor
  · intro place holding held
    obtain ⟨standing, reliable⟩ := sound.inside place holding held
    constructor
    · have inside := (List.getElem?_eq_some_iff.mp standing).1
      exact (getElem?_append_left inside).trans standing
    · exact section_sound_keep lobby _ holding reliable rfl rfl (fun _ idle => idle) closed
  · intro id
    have plain : [call.task].countP (joins id) = 0 := by
      rw [countP_singleton, (call_plain call id).1]
      rfl
    have appended : (lobby.step (.call call)).tasks = lobby.tasks ++ [call.task] := rfl
    rw [appended, countP_append, plain]
    exact sound.counted id
  · exact sound.unique
  · exact sound.known
  · intro id gone
    exact sound.retired id (closed id gone)

theorem sound_table {id now : Nat} {op : TableOp} (sound : lobby.Sound) :
    (lobby.step (.table id now op)).Sound := by
  have flights : ∀ other, (lobby.step (.table id now op)).inFlightOf other = lobby.inFlightOf other :=
    fun other => lobby.in_flight_touch _
  have length : (lobby.step (.table id now op)).objects.length = lobby.objects.length := lobby.length_touch _
  have closed : ∀ other, (lobby.step (.table id now op)).Closed other → lobby.Closed other := by
    intro other gone
    rcases gone with ⟨object, found, inactive⟩ | closing
    · exact lobby.inactive_touch _ object (fun channel => table_op_keeps.1) found inactive
    · exact .inr closing
  constructor
  · intro place holding held
    obtain ⟨standing, reliable⟩ := sound.inside place holding held
    exact ⟨standing, section_sound_keep lobby _ holding reliable rfl length (fun other idle => (flights other).trans idle) closed⟩
  · intro other
    rw [flights]
    exact sound.counted other
  · exact sound.unique
  · intro name other found
    exact length ▸ sound.known name other found
  · intro other gone
    obtain ⟨inside, idle, unmapped⟩ := sound.retired other (closed other gone)
    exact ⟨length ▸ inside, (flights other).trans idle, unmapped⟩

theorem sound_step {step : LobbyStep} (sound : lobby.Sound) : (lobby.step step).Sound := by
  cases step with
  | call => exact lobby.sound_call sound
  | lock => exact lobby.sound_take_lock sound
  | holder => exact lobby.sound_holder sound
  | task => exact lobby.sound_task_step sound
  | add | finish =>
    simp only [LobbyRun.step]
    split
    · rename_i id there
      refine lobby.sound_goes _ sound there (by simp) ?_ ?_
      · intro other
        rfl
      · intro other closes
        cases closes
    · exact sound
  | table => exact lobby.sound_table sound

theorem sound_new (endpointPath : String) (nodeId : NodeId) (pubsub : Bool) : (new endpointPath nodeId pubsub).Sound := by
  constructor
  · intro place holding held
    cases held
  · intro id
    rfl
  · intro first second id found
    cases found
  · intro name id found
    cases found
  · intro id gone
    rcases gone with ⟨_, found, _⟩ | ⟨_, member, _⟩
    · cases found
    · cases member

theorem joining_alive {id : Nat} {task : LobbyTask} (sound : lobby.Sound) (member : task ∈ lobby.tasks)
    (joins : task.joins id = true) : lobby.inFlightOf id ≠ 0 ∧ ¬ lobby.Closed id := by
  have counted : 0 < lobby.tasks.countP (LobbyTask.joins id) := countP_pos_iff.mpr ⟨task, member, joins⟩
  have flight := sound.counted id
  constructor
  · omega
  · intro gone
    have idle := (sound.retired id gone).2.1
    omega

-- A join that has not been finished finds its channel active.
def Admitted (lobby : LobbyRun) : Prop :=
  ∀ (id : Nat) (joiner : Joiner) (object : LobbyChannel), .adding id joiner true ∈ lobby.tasks →
    lobby.objects[id]? = some object → object.channel.active = true

theorem admitted_of_sound (sound : lobby.Sound) : lobby.Admitted := by
  intro id joiner object member found
  have alive := (lobby.joining_alive sound member (decide_eq_true rfl)).2
  cases active : object.channel.active with
  | true => rfl
  | false => exact absurd (lobby.inactive_closed found active) alive

end LobbyRun

end PondSocket.Rust
