import Mathlib.Algebra.Order.Ring.Rat
import Mathlib.Tactic.Linarith
import PondSocket.Library.OrderedMap
import PondSocket.Library.Run

namespace PondSocket.Python

open Library List OrderedMap

structure Bucket where
  tokens : Rat
  lastRefill : Rat

-- The constructor refuses a rate and a capacity that are not positive. The lock makes
-- a call one step, and the clock is read while it is held.
structure TokenBucketRateLimiter where
  rate : Rat
  capacity : Rat
  rate_pos : 0 < rate
  capacity_pos : 0 < capacity
  buckets : OrderedMap String Bucket := .empty

inductive LimiterCall where
  | allow (key : String)
  | reset (key : String)
  | resetAll
deriving DecidableEq

def LimiterCall.resets (call : LimiterCall) (key : String) : Bool :=
  match call with
  | .allow _ => false
  | .reset other => other = key
  | .resetAll => true

def LimiterCall.concerns (call : LimiterCall) (key : String) : Bool := call = .allow key || call.resets key

namespace TokenBucketRateLimiter

variable (limiter : TokenBucketRateLimiter) {key : String} {now next : Rat} {call : LimiterCall}

def new (rate capacity : Rat) : Except String TokenBucketRateLimiter :=
  if rate_pos : 0 < rate then
    if capacity_pos : 0 < capacity then .ok ⟨rate, capacity, rate_pos, capacity_pos, .empty⟩
    else .error "capacity must be > 0"
  else .error "rate must be > 0"

def refilled (limiter : TokenBucketRateLimiter) (now : Rat) (key : String) : Bucket :=
  let bucket := (limiter.buckets.get? key).getD ⟨limiter.capacity, now⟩
  let elapsed := now - bucket.lastRefill
  ⟨min limiter.capacity (bucket.tokens + elapsed * limiter.rate), now⟩

def store (limiter : TokenBucketRateLimiter) (key : String) (bucket : Bucket) : TokenBucketRateLimiter :=
  { limiter with buckets := limiter.buckets.set key bucket }

def allow (limiter : TokenBucketRateLimiter) (now : Rat) (key : String) : TokenBucketRateLimiter × Bool :=
  let bucket := limiter.refilled now key
  if 1 ≤ bucket.tokens then (limiter.store key { bucket with tokens := bucket.tokens - 1 }, true)
  else (limiter.store key bucket, false)

def step (limiter : TokenBucketRateLimiter) : Rat × LimiterCall → TokenBucketRateLimiter
  | (now, .allow key) => (limiter.allow now key).1
  | (_, .reset key) => { limiter with buckets := limiter.buckets.delete key }
  | (_, .resetAll) => { limiter with buckets := .empty }

def answers (key : String) : TokenBucketRateLimiter → List (Rat × LimiterCall) → List Bool
  | _, [] => []
  | limiter, label :: rest =>
    if label.2 = .allow key then (limiter.allow label.1 key).2 :: answers key (limiter.step label) rest
    else answers key (limiter.step label) rest

def Holds (limiter : TokenBucketRateLimiter) : Prop :=
  ∀ key bucket, limiter.buckets.get? key = some bucket → 0 ≤ bucket.tokens ∧ bucket.tokens ≤ limiter.capacity

def Clocked (now : Rat) (limiter : TokenBucketRateLimiter) : Prop :=
  ∀ key bucket, limiter.buckets.get? key = some bucket → bucket.lastRefill ≤ now

theorem allow_answer : (limiter.allow now key).2 = decide (1 ≤ (limiter.refilled now key).tokens) := by
  by_cases full : 1 ≤ (limiter.refilled now key).tokens <;> simp [allow, full]

theorem allow_stores : (limiter.allow now key).1 = limiter.store key
    ⟨(limiter.refilled now key).tokens - ((limiter.allow now key).2.toNat : Rat), now⟩ := by
  by_cases full : 1 ≤ (limiter.refilled now key).tokens
  · simp only [allow, if_pos full, Bool.toNat_true, Nat.cast_one]
    rfl
  · simp only [allow, if_neg full, Bool.toNat_false, Nat.cast_zero, sub_zero]
    rfl

theorem allow_affords (least : 0 ≤ (limiter.refilled now key).tokens) :
    ((limiter.allow now key).2.toNat : Rat) ≤ (limiter.refilled now key).tokens := by
  by_cases full : 1 ≤ (limiter.refilled now key).tokens
  · simp [allow_answer, full]
  · simp [allow_answer, full, least]

theorem step_rate (label : Rat × LimiterCall) :
    (limiter.step label).rate = limiter.rate ∧ (limiter.step label).capacity = limiter.capacity := by
  obtain ⟨_, call⟩ := label
  cases call with
  | allow =>
    rw [step, allow_stores]
    exact ⟨rfl, rfl⟩
  | reset | resetAll => exact ⟨rfl, rfl⟩

variable {limiter}

theorem refilled_least (key : String) (holds : limiter.Holds) (clocked : limiter.Clocked now) :
    0 ≤ (limiter.refilled now key).tokens := by
  rw [refilled]
  cases known : limiter.buckets.get? key with
  | none => simpa using limiter.capacity_pos.le
  | some bucket =>
    have earned := mul_nonneg (sub_nonneg.mpr (clocked key bucket known)) limiter.rate_pos.le
    exact le_min limiter.capacity_pos.le (add_nonneg (holds key bucket known).1 earned)

theorem step_bucket {query : String} {bucket : Bucket} (found : (limiter.step (now, call)).buckets.get? query = some bucket) :
    limiter.buckets.get? query = some bucket ∨
      bucket = ⟨(limiter.refilled now query).tokens - ((limiter.allow now query).2.toNat : Rat), now⟩ := by
  cases call with
  | allow key =>
    rw [step, allow_stores, store, OrderedMap.get_set] at found
    by_cases same : query = key
    · rw [if_pos same] at found
      exact .inr (same ▸ (Option.some.inj found).symm)
    · rw [if_neg same] at found
      exact .inl found
  | reset key =>
    rw [step, get_delete] at found
    by_cases same : query = key
    · rw [if_pos same] at found
      cases found
    · rw [if_neg same] at found
      exact .inl found
  | resetAll => cases found

theorem step_holds (call : LimiterCall) (holds : limiter.Holds) (clocked : limiter.Clocked now) :
    (limiter.step (now, call)).Holds ∧ (limiter.step (now, call)).Clocked now := by
  constructor
  · intro query bucket found
    rw [(limiter.step_rate _).2]
    rcases step_bucket found with kept | written
    · exact holds query bucket kept
    · have affords := allow_affords limiter (refilled_least query holds clocked)
      have most : (limiter.refilled now query).tokens ≤ limiter.capacity := min_le_left _ _
      rw [written]
      exact ⟨sub_nonneg.mpr affords, by linarith⟩
  · intro query bucket found
    rcases step_bucket found with kept | written
    · exact clocked query bucket kept
    · exact written ▸ le_rfl

theorem answers_count (calls : List (Rat × LimiterCall)) : (answers key limiter ((now, .allow key) :: calls)).count true =
    (answers key (limiter.step (now, .allow key)) calls).count true + (limiter.allow now key).2.toNat := by
  rw [answers, if_pos rfl]
  cases (limiter.allow now key).2 <;> simp

theorem clocked_later (clocked : limiter.Clocked now) (later : now ≤ next) : limiter.Clocked next :=
  fun key bucket known => (clocked key bucket known).trans later

def Ordered (calls : List (Rat × LimiterCall)) : Prop := (calls.map Prod.fst).Pairwise (· ≤ ·)

theorem run_holds (calls : List (Rat × LimiterCall)) (ordered : Ordered calls) (holds : limiter.Holds)
    (clocked : ∀ time ∈ calls.map Prod.fst, limiter.Clocked time) :
    (run step limiter calls).Holds ∧
      ∀ later, limiter.Clocked later → (∀ time ∈ calls.map Prod.fst, time ≤ later) → (run step limiter calls).Clocked later := by
  induction calls generalizing limiter with
  | nil => exact ⟨holds, fun later reached _ => reached⟩
  | cons label _ ih =>
    obtain ⟨first, ordered⟩ := pairwise_cons.mp ordered
    have stepped := step_holds label.2 holds (clocked label.1 mem_cons_self)
    obtain ⟨kept, reached⟩ := ih ordered stepped.1 fun time member => clocked_later stepped.2 (first time member)
    refine ⟨kept, fun later _ ends => reached later ?_ fun time member => ends time (mem_cons_of_mem _ member)⟩
    exact clocked_later stepped.2 (ends label.1 mem_cons_self)

-- What is allowed from a time on is paid for by the tokens there are and by what the
-- rate adds until the end.
theorem answers_bounded (calls : List (Rat × LimiterCall)) (ordered : Ordered calls)
    (ends : ∀ time ∈ calls.map Prod.fst, time ≤ next) (kept : ∀ label ∈ calls, label.2.resets key = false) {bucket : Bucket}
    (found : limiter.buckets.get? key = some bucket) (holds : limiter.Holds)
    (clocked : ∀ time ∈ next :: calls.map Prod.fst, limiter.Clocked time) :
    ((answers key limiter calls).count true : Rat) ≤ bucket.tokens + (next - bucket.lastRefill) * limiter.rate := by
  induction calls generalizing limiter bucket with
  | nil =>
    have earned := mul_nonneg (sub_nonneg.mpr (clocked next mem_cons_self key bucket found)) limiter.rate_pos.le
    simpa [answers] using add_nonneg (holds key bucket found).1 earned
  | cons label rest ih =>
    obtain ⟨time, made⟩ := label
    obtain ⟨first, ordered⟩ := pairwise_cons.mp ordered
    have stepped := step_holds made holds (clocked time (mem_cons_of_mem _ mem_cons_self))
    have after : ∀ bucket, (limiter.step (time, made)).buckets.get? key = some bucket →
        ((answers key (limiter.step (time, made)) rest).count true : Rat) ≤
          bucket.tokens + (next - bucket.lastRefill) * limiter.rate := by
      intro bucket found
      rw [← (limiter.step_rate (time, made)).1]
      refine ih ordered (fun time member => ends time (mem_cons_of_mem _ member))
        (fun label member => kept label (mem_cons_of_mem _ member)) found stepped.1 ?_
      intro later member
      rcases mem_cons.mp member with rfl | member
      · exact clocked_later stepped.2 (ends time mem_cons_self)
      · exact clocked_later stepped.2 (first later member)
    by_cases asks : made = .allow key
    · subst asks
      have paid := after ⟨(limiter.refilled time key).tokens - ((limiter.allow time key).2.toNat : Rat), time⟩ (by
        rw [step, allow_stores, store, get_set_same])
      have most : (limiter.refilled time key).tokens ≤ bucket.tokens + (time - bucket.lastRefill) * limiter.rate := by
        rw [refilled, found]
        exact min_le_right _ _
      rw [answers_count, Nat.cast_add]
      linarith
    · rw [answers, if_neg asks]
      refine after bucket ?_
      have still := kept _ mem_cons_self
      cases made with
      | allow =>
        rw [step, allow_stores, store, get_set_other fun same => asks (congrArg LimiterCall.allow same.symm)]
        exact found
      | reset =>
        rw [step, get_delete_other fun same => absurd still (by simp [LimiterCall.resets, same])]
        exact found
      | resetAll => cases still

structure Alike (key : String) (limiter other : TokenBucketRateLimiter) : Prop where
  rate : other.rate = limiter.rate
  capacity : other.capacity = limiter.capacity
  bucket : other.buckets.get? key = limiter.buckets.get? key

theorem alike_allow {other : TokenBucketRateLimiter} (alike : Alike key limiter other) :
    (other.allow now key).2 = (limiter.allow now key).2 ∧ Alike key (limiter.allow now key).1 (other.allow now key).1 := by
  have refilled : other.refilled now key = limiter.refilled now key := by
    rw [TokenBucketRateLimiter.refilled, TokenBucketRateLimiter.refilled, alike.rate, alike.capacity, alike.bucket]
  have answer : (other.allow now key).2 = (limiter.allow now key).2 := by
    rw [allow_answer, allow_answer, refilled]
  refine ⟨answer, ?_⟩
  rw [allow_stores, allow_stores, answer, refilled]
  exact ⟨alike.rate, alike.capacity, by rw [store, store, get_set_same, get_set_same]⟩

theorem alike_unconcerned (other : call.concerns key = false) : Alike key (limiter.step (now, call)) limiter := by
  obtain ⟨rate, capacity⟩ := limiter.step_rate (now, call)
  refine ⟨rate.symm, capacity.symm, ?_⟩
  cases call with
  | allow =>
    rw [step, allow_stores, store, get_set_other fun same => absurd other (by simp [LimiterCall.concerns, same])]
  | reset =>
    rw [step, get_delete_other fun same => absurd other (by simp [LimiterCall.concerns, LimiterCall.resets, same])]
  | resetAll => cases other

theorem alike_step {other : TokenBucketRateLimiter} (alike : Alike key limiter other) :
    Alike key (limiter.step (now, call)) (other.step (now, call)) := by
  obtain ⟨rate, capacity⟩ := limiter.step_rate (now, call)
  obtain ⟨own_rate, own_capacity⟩ := other.step_rate (now, call)
  refine ⟨own_rate.trans (alike.rate.trans rate.symm), own_capacity.trans (alike.capacity.trans capacity.symm), ?_⟩
  cases call with
  | allow query =>
    by_cases same : key = query
    · subst same
      exact (alike_allow alike).2.bucket
    · rw [step, step, allow_stores, allow_stores, store, store, get_set_other same, get_set_other same]
      exact alike.bucket
  | reset => rw [step, step, OrderedMap.get_delete, OrderedMap.get_delete, alike.bucket]
  | resetAll => rfl

theorem answers_alike (calls : List (Rat × LimiterCall)) {other : TokenBucketRateLimiter} (alike : Alike key limiter other) :
    answers key other (calls.filter fun label => label.2.concerns key) = answers key limiter calls := by
  induction calls generalizing limiter other with
  | nil => rfl
  | cons label _ ih =>
    obtain ⟨now, made⟩ := label
    cases concerned : made.concerns key with
    | false =>
      have apart : made ≠ .allow key := fun same => absurd concerned (by simp [LimiterCall.concerns, same])
      rw [filter_cons_of_neg (by simp [concerned]), answers, if_neg apart]
      have skipped : Alike key (limiter.step (now, made)) limiter := alike_unconcerned concerned
      exact ih ⟨alike.rate.trans skipped.rate, alike.capacity.trans skipped.capacity, alike.bucket.trans skipped.bucket⟩
    | true =>
      rw [filter_cons_of_pos (by simp [concerned]), answers, answers, ih (alike_step alike), (alike_allow alike).1]

theorem run_rate (calls : List (Rat × LimiterCall)) :
    (run step limiter calls).rate = limiter.rate ∧ (run step limiter calls).capacity = limiter.capacity := by
  induction calls generalizing limiter with
  | nil => exact ⟨rfl, rfl⟩
  | cons label _ ih =>
    obtain ⟨rate, capacity⟩ := limiter.step_rate label
    exact ⟨ih.1.trans rate, ih.2.trans capacity⟩

theorem new_spec {rate capacity : Rat} (made : new rate capacity = .ok limiter) :
    limiter.rate = rate ∧ limiter.capacity = capacity ∧ limiter.buckets = .empty := by
  rw [new] at made
  split at made
  · split at made
    · cases made
      exact ⟨rfl, rfl, rfl⟩
    · cases made
  · cases made

theorem window_bounded {start finish : Rat} (between : List (Rat × LimiterCall))
    (ordered : Ordered ((start, .allow key) :: (between ++ [(finish, .allow key)])))
    (kept : ∀ label ∈ between, label.2.resets key = false) (holds : limiter.Holds) (clocked : limiter.Clocked start) :
    ((answers key limiter ((start, .allow key) :: (between ++ [(finish, .allow key)]))).count true : Rat) ≤
      limiter.capacity + limiter.rate * (finish - start) := by
  obtain ⟨first, ordered⟩ := pairwise_cons.mp ordered
  have ends : ∀ time ∈ (between ++ [(finish, LimiterCall.allow key)]).map Prod.fst, time ≤ finish := by
    have times : ((between.map Prod.fst) ++ [finish]).Pairwise (· ≤ ·) := by simpa using ordered
    rw [map_append, map_singleton]
    intro time member
    rcases mem_append.mp member with earlier | last
    · exact (pairwise_append.mp times).2.2 time earlier finish mem_cons_self
    · exact (mem_singleton.mp last).le
  have stepped := step_holds (.allow key) holds clocked
  have resets : ∀ label ∈ between ++ [(finish, LimiterCall.allow key)], label.2.resets key = false := by
    intro label member
    rcases mem_append.mp member with earlier | last
    · exact kept label earlier
    · exact mem_singleton.mp last ▸ rfl
  have stored : (limiter.step (start, .allow key)).buckets.get? key =
      some ⟨(limiter.refilled start key).tokens - ((limiter.allow start key).2.toNat : Rat), start⟩ := by
    rw [step, allow_stores, store, get_set_same]
  have paid := answers_bounded _ ordered ends resets stored stepped.1 ?_
  · have most : (limiter.refilled start key).tokens ≤ limiter.capacity := min_le_left _ _
    rw [(limiter.step_rate _).1] at paid
    rw [answers_count, Nat.cast_add]
    linarith
  · intro time member
    refine clocked_later stepped.2 ?_
    rcases mem_cons.mp member with rfl | member
    · exact first _ (by simp)
    · exact first time member

theorem token_bucket_bounds {rate capacity : Rat} (made : new rate capacity = .ok limiter)
    (calls : List (Rat × LimiterCall)) (ordered : Ordered calls) :
    (∀ before s between t after key, calls = before ++ (s, .allow key) :: (between ++ (t, .allow key) :: after) →
      (∀ label ∈ between, label.2.resets key = false) →
      ((answers key (run step limiter before) ((s, .allow key) :: (between ++ [(t, .allow key)]))).count true : Rat) ≤
        capacity + rate * (t - s)) ∧
    (∀ before after, calls = before ++ after → ∀ key bucket,
      (run step limiter before).buckets.get? key = some bucket → 0 ≤ bucket.tokens ∧ bucket.tokens ≤ capacity) ∧
    ∀ key, answers key limiter calls = answers key limiter (calls.filter fun label => label.2.concerns key) := by
  obtain ⟨own_rate, own_capacity, none⟩ := new_spec made
  have holds : limiter.Holds := by
    intro key bucket found
    rw [none] at found
    cases found
  have clocked : ∀ now, limiter.Clocked now := by
    intro now key bucket found
    rw [none] at found
    cases found
  have reached : ∀ before after, calls = before ++ after → (run step limiter before).Holds ∧
      ∀ later, (∀ time ∈ before.map Prod.fst, time ≤ later) → (run step limiter before).Clocked later := by
    intro before after split
    rw [split, Ordered, map_append] at ordered
    obtain ⟨kept, times⟩ := run_holds before (pairwise_append.mp ordered).1 holds fun time _ => clocked time
    exact ⟨kept, fun later ends => times later (clocked later) ends⟩
  refine ⟨?_, ?_, fun key => (answers_alike calls ⟨rfl, rfl, rfl⟩).symm⟩
  · intro before s between t after key split kept
    obtain ⟨kept_holds, times⟩ := reached before _ split
    rw [← own_rate, ← own_capacity, ← (run_rate before).1, ← (run_rate before).2]
    rw [split, Ordered, map_append] at ordered
    obtain ⟨_, window, earlier⟩ := pairwise_append.mp ordered
    refine window_bounded between ?_ kept kept_holds (times s fun time member => earlier time member s mem_cons_self)
    refine window.sublist (Sublist.map Prod.fst (Sublist.cons_cons _ (Sublist.append_left ?_ between)))
    exact Sublist.cons_cons _ (nil_sublist after)
  · intro before after split key bucket found
    rw [← own_capacity, ← (run_rate before).2]
    exact (reached before after split).1 key bucket found

theorem token_bucket_bounds_three :
    ((answers "a" ⟨2, 1, by decide, by decide, .empty⟩
      [(0, .allow "a"), (1 / 2, .allow "a"), (3 / 4, .allow "b"), (3 / 4, .allow "a"), (1, .allow "a")]).count true : Rat) ≤
        1 + 2 * (1 - 0) :=
  (@token_bucket_bounds _ 2 1 (by simp [new]) _ (by norm_num [Ordered])).1 [] 0
    [(1 / 2, .allow "a"), (3 / 4, .allow "b"), (3 / 4, .allow "a")] 1 [] "a" rfl (by decide)

theorem bucket_asked (calls : List (Rat × LimiterCall)) {bucket : Bucket}
    (found : (run step limiter calls).buckets.get? key = some bucket) :
    limiter.buckets.get? key = some bucket ∨ (bucket.lastRefill, .allow key) ∈ calls := by
  induction calls generalizing limiter with
  | nil => exact .inl found
  | cons label rest ih =>
    obtain ⟨time, call⟩ := label
    rcases ih found with stepped | later
    · by_cases asks : call = .allow key
      · subst asks
        rw [step, allow_stores, store, get_set_same] at stepped
        exact .inr ((Option.some.inj stepped) ▸ mem_cons_self)
      · refine .inl ?_
        cases call with
        | allow other =>
          rwa [step, allow_stores, store, get_set_other fun same => asks (congrArg LimiterCall.allow same.symm)] at stepped
        | reset other =>
          rw [step, get_delete] at stepped
          split at stepped
          · cases stepped
          · exact stepped
        | resetAll => cases stepped
    · exact .inr (mem_cons_of_mem _ later)

end TokenBucketRateLimiter

end PondSocket.Python
