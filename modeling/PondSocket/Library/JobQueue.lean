import Mathlib.Data.List.Nodup
import Mathlib.Logic.Function.Basic

namespace Library

open List

-- Jobs of several hops on one queue: the job at its head takes a hop and goes to
-- the back, or is done after its last one.
structure JobQueue where
  queue : List Nat
  hops : Nat → Nat
  done : List Nat

namespace JobQueue

variable (jobs : JobQueue)

def empty : JobQueue := ⟨[], fun _ => 0, []⟩

def add (jobs : JobQueue) (id hops : Nat) : JobQueue :=
  { jobs with queue := jobs.queue ++ [id], hops := Function.update jobs.hops id hops }

def tick (jobs : JobQueue) : JobQueue :=
  match jobs.queue with
  | [] => jobs
  | id :: rest =>
    if jobs.hops id ≤ 1 then { jobs with queue := rest, done := jobs.done ++ [id] }
    else { jobs with queue := rest ++ [id], hops := Function.update jobs.hops id (jobs.hops id - 1) }

def Before (first second : Nat) (ids : List Nat) : Prop := [first, second].Sublist ids

instance (first second : Nat) (ids : List Nat) : Decidable (Before first second ids) :=
  inferInstanceAs (Decidable ([first, second].Sublist ids))

variable {rest : List Nat} {second : Nat}

theorem before_tail {first head : Nat} (apart : first ≠ head) (before : Before first second (head :: rest)) :
    Before first second rest := by
  rcases cons_sublist_cons'.mp before with later | ⟨same, _⟩
  · exact later
  · exact absurd same apart

theorem before_mem (first second : Nat) (ids : List Nat) (before : Before first second ids) :
    first ∈ ids ∧ second ∈ ids :=
  ⟨before.subset (by simp), before.subset (by simp)⟩

theorem before_head {head : Nat} (before : Before head second (head :: rest)) : second ∈ rest := by
  rcases cons_sublist_cons'.mp before with later | ⟨_, tail⟩
  · exact (before_mem head second rest later).2
  · exact singleton_sublist.mp tail

theorem before_append {first : Nat} {ids more : List Nat} (before : Before first second ids) :
    Before first second (ids ++ more) :=
  before.trans (sublist_append_left ids more)

theorem before_concat (first last : Nat) (ids : List Nat) (member : first ∈ ids) : Before first last (ids ++ [last]) :=
  (singleton_sublist.mpr member).append (List.Sublist.refl [last])

-- A job is on the queue with hops to take, or done, and once only.
structure Sound (jobs : JobQueue) : Prop where
  queue : jobs.queue.Nodup
  done : jobs.done.Nodup
  apart : ∀ id ∈ jobs.queue, id ∉ jobs.done
  runs : ∀ id ∈ jobs.queue, 0 < jobs.hops id

theorem sound_empty : Sound empty :=
  ⟨nodup_nil, nodup_nil, fun _ member => absurd member not_mem_nil, fun _ member => absurd member not_mem_nil⟩

theorem nodup_concat {ids : List Nat} {last : Nat} (distinct : ids.Nodup) (fresh : last ∉ ids) :
    (ids ++ [last]).Nodup := by
  rw [nodup_append]
  refine ⟨distinct, nodup_singleton last, fun other member id same => ?_⟩
  rw [mem_singleton.mp same]
  rintro rfl
  exact fresh member

theorem sound_add (sound : jobs.Sound) {id hops : Nat} (idle : id ∉ jobs.queue)
    (undone : id ∉ jobs.done) (some : 0 < hops) : (jobs.add id hops).Sound := by
  refine ⟨nodup_concat sound.queue idle, sound.done, fun other member => ?_, fun other member => ?_⟩
  · rcases mem_append.mp member with old | new
    · exact sound.apart other old
    · rw [mem_singleton.mp new]
      exact undone
  rcases mem_append.mp member with old | new
  · have different : other ≠ id := fun same => idle (same ▸ old)
    simpa only [add, Function.update_of_ne different] using sound.runs other old
  · rw [mem_singleton.mp new]
    simpa only [add, Function.update_self] using some

theorem tick_cases {id : Nat} (queue : jobs.queue = id :: rest) :
    (jobs.hops id ≤ 1 ∧ jobs.tick = { jobs with queue := rest, done := jobs.done ++ [id] }) ∨
      (1 < jobs.hops id ∧ jobs.tick =
        { jobs with queue := rest ++ [id], hops := Function.update jobs.hops id (jobs.hops id - 1) }) := by
  simp only [tick, queue]
  split
  · rename_i last
    exact .inl ⟨last, rfl⟩
  · rename_i more
    exact .inr ⟨Nat.lt_of_not_le more, rfl⟩

theorem sound_tick (sound : jobs.Sound) : jobs.tick.Sound := by
  cases queue : jobs.queue with
  | nil =>
    simp only [tick, queue]
    exact sound
  | cons id =>
    have whole := sound.queue
    have apart := sound.apart
    have runs := sound.runs
    rw [queue] at whole apart runs
    obtain ⟨fresh, distinct⟩ := nodup_cons.mp whole
    have undone : id ∉ jobs.done := apart id mem_cons_self
    rcases tick_cases jobs queue with ⟨_, spec⟩ | ⟨_, spec⟩
    · rw [spec]
      refine ⟨distinct, nodup_concat sound.done undone, fun other member => ?_, fun other member =>
        runs other (mem_cons_of_mem id member)⟩
      simp only [mem_append, mem_singleton, not_or]
      exact ⟨apart other (mem_cons_of_mem id member), fun same => fresh (same ▸ member)⟩
    rw [spec]
    refine ⟨nodup_concat distinct fresh, sound.done, fun other member => ?_, fun other member => ?_⟩
    · rcases mem_append.mp member with old | new
      · exact apart other (mem_cons_of_mem id old)
      · rw [mem_singleton.mp new]
        exact undone
    rcases mem_append.mp member with old | new
    · have different : other ≠ id := fun same => fresh (same ▸ old)
      simpa only [Function.update_of_ne different] using runs other (mem_cons_of_mem id old)
    rw [mem_singleton.mp new]
    simp only [Function.update_self]
    omega

-- The first of two jobs is to be done first: it has no more hops to take than the
-- second and stands before it, or fewer and stands behind it.
def Leads (jobs : JobQueue) (first second : Nat) : Prop :=
  (jobs.hops first ≤ jobs.hops second ∧ Before first second jobs.queue) ∨
    (jobs.hops first < jobs.hops second ∧ Before second first jobs.queue)

-- The second of two jobs trails the first from the moment it is on the queue.
structure Trails (jobs : JobQueue) (first second : Nat) : Prop where
  queued : second ∈ jobs.queue → first ∈ jobs.done ∨ jobs.Leads first second
  done : second ∈ jobs.done → Before first second jobs.done

theorem trails_empty (first second : Nat) : Trails empty first second :=
  ⟨fun member => absurd member not_mem_nil, fun member => absurd member not_mem_nil⟩

variable {jobs}

theorem trails_add (first second id hops : Nat) (trails : jobs.Trails first second)
    (idle : id ∉ jobs.queue) (undone : id ∉ jobs.done) (apart : first ≠ second)
    (paced : id = second → first ∈ jobs.done ∨ (first ∈ jobs.queue ∧ jobs.hops first ≤ hops)) :
    (jobs.add id hops).Trails first second := by
  refine ⟨fun member => ?_, trails.done⟩
  by_cases last : id = second
  · subst last
    rcases paced rfl with done | ⟨queued, within⟩
    · exact .inl done
    · refine .inr (.inl ⟨?_, before_concat first id jobs.queue queued⟩)
      simpa only [add, Function.update_self, Function.update_of_ne apart] using within
  have old : second ∈ jobs.queue := (mem_append.mp member).resolve_right fun new => last (mem_singleton.mp new).symm
  rcases trails.queued old with done | leads
  · exact .inl done
  right
  have firstKept : first ≠ id := by
    rintro rfl
    rcases leads with ⟨_, before⟩ | ⟨_, before⟩
    · exact idle (before_mem _ _ _ before).1
    · exact idle (before_mem _ _ _ before).2
  have hopsFirst : (jobs.add id hops).hops first = jobs.hops first := Function.update_of_ne firstKept _ _
  have hopsSecond : (jobs.add id hops).hops second = jobs.hops second :=
    Function.update_of_ne (Ne.symm last) _ _
  rw [Leads, hopsFirst, hopsSecond]
  exact leads.imp (fun near => ⟨near.1, before_append near.2⟩) fun far =>
    ⟨far.1, before_append far.2⟩

theorem trails_tick (first second : Nat) (sound : jobs.Sound) (trails : jobs.Trails first second)
    (apart : first ≠ second) : jobs.tick.Trails first second := by
  cases queue : jobs.queue with
  | nil =>
    simp only [tick, queue]
    exact trails
  | cons id rest =>
    have whole := sound.queue
    rw [queue] at whole
    obtain ⟨fresh, _⟩ := nodup_cons.mp whole
    have queued := trails.queued
    have busy := sound.runs
    simp only [Leads] at queued
    rw [queue] at queued busy
    rcases tick_cases jobs queue with ⟨_, spec⟩ | ⟨_, spec⟩
    · rw [spec]
      refine ⟨fun member => ?_, fun member => ?_⟩
      · rcases queued (mem_cons_of_mem id member) with done | leads
        · exact .inl (mem_append_left _ done)
        · by_cases head : first = id
          · subst head
            exact .inl (mem_append_right _ (mem_singleton.mpr rfl))
          · have different : second ≠ id := fun same => fresh (same ▸ member)
            exact .inr (leads.imp (fun near => ⟨near.1, before_tail head near.2⟩) fun far =>
              ⟨far.1, before_tail different far.2⟩)
      · rcases mem_append.mp member with old | new
        · exact before_append (trails.done old)
        · have same := mem_singleton.mp new
          subst same
          rcases queued mem_cons_self with done | ⟨_, before⟩ | ⟨fewer, before⟩
          · exact before_concat first second jobs.done done
          · exact absurd (before_mem _ _ _ (before_tail apart before)).2 fresh
          · have positive := busy first (before_mem _ _ _ before).2
            omega
    · rw [spec]
      refine ⟨fun member => ?_, trails.done⟩
      have present : second ∈ id :: rest := by
        rcases mem_append.mp member with old | new
        · exact mem_cons_of_mem id old
        · rw [mem_singleton.mp new]
          exact mem_cons_self
      rcases queued present with done | leads
      · exact .inl done
      right
      by_cases head : first = id
      · subst head
        -- The first job has one hop less and goes behind the second.
        have hops : Function.update jobs.hops first (jobs.hops first - 1) second = jobs.hops second :=
          Function.update_of_ne (Ne.symm apart) _ _
        refine .inr ⟨?_, ?_⟩
        · simp only [Function.update_self, hops]
          rcases leads with ⟨_, _⟩ | ⟨fewer, _⟩ <;> omega
        · have behind : second ∈ rest := (mem_cons.mp present).resolve_left (Ne.symm apart)
          exact before_concat second first rest behind
      · have hopsFirst : Function.update jobs.hops id (jobs.hops id - 1) first = jobs.hops first :=
          Function.update_of_ne head _ _
        by_cases tail : second = id
        · subst tail
          -- The second job has one hop less and goes behind the first.
          rcases leads with ⟨_, before⟩ | ⟨_, before⟩
          · exact absurd (before_mem _ _ _ (before_tail head before)).2 fresh
          refine .inl ⟨?_, before_concat first second rest (before_head before)⟩
          simp only [Function.update_self, hopsFirst]
          omega
        · have hopsSecond : Function.update jobs.hops id (jobs.hops id - 1) second = jobs.hops second :=
            Function.update_of_ne tail _ _
          rw [Leads]
          simp only [hopsFirst, hopsSecond]
          exact leads.imp (fun near => ⟨near.1, before_append (before_tail head near.2)⟩) fun far =>
            ⟨far.1, before_append (before_tail tail far.2)⟩

end JobQueue

end Library
