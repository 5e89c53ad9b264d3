import PondSocket.Python.RedisPubSub

namespace PondSocket.Go.RedisPubSub

open Library List
open Python.RedisPubSub (stringmatch stringmatch_redis)

-- A string goes by its octets: 46 and 42 are the dot and the star, 91 and 92 the bracket and the backslash.
abbrev Octets := List Nat

def wild (pattern : Octets) : Bool := decide (2 < pattern.length) && pattern.drop (pattern.length - 2) == [46, 42]

def stem (pattern : Octets) : Octets := pattern.take (pattern.length - 2)

def convertToRedisPattern (pattern : Octets) : Octets := if wild pattern then stem pattern ++ [42] else pattern

def matchPattern (pattern topic : Octets) : Bool :=
  pattern == topic || (wild pattern && (stem pattern).isPrefixOf topic)

def Plain (pattern : Octets) : Prop := 91 ∉ pattern ∧ 92 ∉ pattern

structure RedisGlob (globMatch : Octets → Octets → Bool) : Prop extends Python.RedisPubSub.RedisGlob globMatch where
  mark : ∀ pattern octet rest, globMatch pattern rest = true → globMatch (63 :: pattern) (octet :: rest) = true

variable {pattern : Octets}

section

variable {globMatch : Octets → Octets → Bool} (redis : RedisGlob globMatch)
include redis

theorem plain_glob {text rest : Octets} (plain : Plain text) (matched : globMatch pattern rest = true) :
    globMatch (text ++ pattern) (text ++ rest) = true := by
  induction text with
  | nil => exact matched
  | cons octet text ih =>
    obtain ⟨bracket, slash⟩ := plain
    have later := ih ⟨fun member => bracket (mem_cons_of_mem _ member), fun member => slash (mem_cons_of_mem _ member)⟩
    by_cases star : octet = 42
    · rw [star]
      exact (redis.star _ _).mpr ⟨[42], text ++ rest, rfl, later⟩
    by_cases mark : octet = 63
    · rw [mark]
      exact redis.mark _ _ _ later
    refine (redis.ordinary octet _ _ ?_).mpr ⟨text ++ rest, rfl, later⟩
    have apart : octet ≠ 91 ∧ octet ≠ 92 :=
      ⟨fun same => bracket (same ▸ mem_cons_self), fun same => slash (same ▸ mem_cons_self)⟩
    simp [star, mark, apart]

theorem glob_of_match {topic : Octets} (plain : Plain pattern) (matched : matchPattern pattern topic = true) :
    globMatch (convertToRedisPattern pattern) topic = true := by
  have whole := plain_glob redis plain ((redis.empty []).mpr rfl)
  simp only [matchPattern, Bool.or_eq_true, Bool.and_eq_true, beq_iff_eq, isPrefixOf_iff_prefix] at matched
  unfold convertToRedisPattern
  split
  · have starts : stem pattern <+: topic := by
      rcases matched with rfl | ⟨_, starts⟩
      · exact take_prefix _ _
      · exact starts
    obtain ⟨rest, rfl⟩ := starts
    have inner : Plain (stem pattern) := ⟨fun member => plain.1 (mem_of_mem_take member), fun member => plain.2 (mem_of_mem_take member)⟩
    exact plain_glob redis inner ((redis.star [] rest).mpr ⟨rest, [], (append_nil rest).symm, (redis.empty []).mpr rfl⟩)
  · rename_i literal
    rcases matched with rfl | ⟨wild, _⟩
    · simpa using whole
    · exact absurd wild literal

end

-- One subscription is a handler with its pattern. Redis keeps globs for the connection, and inbox is what it has sent.
structure Bus (Handler : Type) where
  subscriptions : List (Octets × Handler) := []
  patterns : List Octets := []
  globs : List Octets := []
  inbox : List (Octets × Octets) := []
  delivered : List (Handler × Octets × Octets) := []

-- done tells whether Redis took the command.
inductive Call (Handler : Type)
  | subscribe (pattern : Octets) (handler : Handler) (done : Bool)
  | unsubscribe (pattern : Octets) (done : Bool)
  | published (topic data : Octets)
  | handleMessage

namespace Bus

variable {Handler : Type} (bus : Bus Handler)

def subscribe (pattern : Octets) (handler : Handler) (done : Bool) : Bus Handler :=
  if convertToRedisPattern pattern ∈ bus.patterns then
    { bus with subscriptions := bus.subscriptions ++ [(pattern, handler)] }
  else if done then
    { bus with
      subscriptions := bus.subscriptions ++ [(pattern, handler)]
      patterns := bus.patterns ++ [convertToRedisPattern pattern]
      globs := bus.globs ++ [convertToRedisPattern pattern] }
  else bus

def unsubscribe (pattern : Octets) (done : Bool) : Bus Handler :=
  let bus := { bus with subscriptions := bus.subscriptions.filter fun sub => sub.1 ≠ pattern }
  let stillNeeded := bus.subscriptions.any fun sub => convertToRedisPattern sub.1 == convertToRedisPattern pattern
  if !stillNeeded && done then
    { bus with
      patterns := bus.patterns.filter (· ≠ convertToRedisPattern pattern)
      globs := bus.globs.filter (· ≠ convertToRedisPattern pattern) }
  else bus

def published (globMatch : Octets → Octets → Bool) (topic data : Octets) : Bus Handler :=
  { bus with inbox := bus.inbox ++ (bus.globs.filter fun glob => globMatch glob topic).map fun _ => (topic, data) }

def deliverMessage (topic data : Octets) : Bus Handler :=
  { bus with delivered := bus.delivered ++
      (bus.subscriptions.filter fun sub => matchPattern sub.1 topic).map fun sub => (sub.2, topic, data) }

def handleMessage : Bus Handler :=
  match bus.inbox with
  | [] => bus
  | (channel, payload) :: inbox =>
    if payload ≠ [] then { bus with inbox }.deliverMessage channel payload else { bus with inbox }

def step (globMatch : Octets → Octets → Bool) (bus : Bus Handler) : Call Handler → Bus Handler
  | .subscribe pattern handler done => bus.subscribe pattern handler done
  | .unsubscribe pattern done => bus.unsubscribe pattern done
  | .published topic data => bus.published globMatch topic data
  | .handleMessage => bus.handleMessage

structure Registered : Prop where
  known : ∀ glob ∈ bus.patterns, glob ∈ bus.globs
  subscribed : ∀ sub ∈ bus.subscriptions, convertToRedisPattern sub.1 ∈ bus.patterns

def Reached (pattern topic : Octets) (handler : Handler) (data : Octets) (bus : Bus Handler) : Prop :=
  (pattern, handler) ∈ bus.subscriptions ∧ ((topic, data) ∈ bus.inbox ∨ (handler, topic, data) ∈ bus.delivered)

variable {bus} {globMatch : Octets → Octets → Bool}

theorem registered_step (call : Call Handler) (registered : bus.Registered) : (bus.step globMatch call).Registered := by
  cases call with
  | subscribe =>
    simp only [step, subscribe]
    split
    · rename_i there
      refine ⟨registered.known, fun sub member => ?_⟩
      rcases mem_append.mp member with old | new
      · exact registered.subscribed sub old
      · rw [mem_singleton.mp new]
        exact there
    split
    · refine ⟨fun glob member => ?_, fun sub member => ?_⟩
      · exact mem_append.mpr ((mem_append.mp member).imp_left (registered.known glob))
      · rcases mem_append.mp member with old | new
        · exact mem_append_left _ (registered.subscribed sub old)
        · rw [mem_singleton.mp new]
          exact mem_append_right _ mem_cons_self
    · exact registered
  | unsubscribe =>
    simp only [step, unsubscribe]
    split
    · rename_i last
      simp only [Bool.and_eq_true, Bool.not_eq_true', any_eq_false, beq_iff_eq] at last
      refine ⟨fun glob member => ?_, fun sub member => ?_⟩
      · obtain ⟨old, other⟩ := mem_filter.mp member
        exact mem_filter.mpr ⟨registered.known glob old, other⟩
      · exact mem_filter.mpr ⟨registered.subscribed sub (mem_of_mem_filter member), by simpa using last.1 sub member⟩
    · exact ⟨registered.known, fun sub member => registered.subscribed sub (mem_of_mem_filter member)⟩
  | published => exact ⟨registered.known, registered.subscribed⟩
  | handleMessage =>
    simp only [step, handleMessage]
    split
    · exact registered
    · split <;> exact ⟨registered.known, registered.subscribed⟩

theorem reached_step {topic data : Octets} {handler : Handler} {call : Call Handler}
    (reached : bus.Reached pattern topic handler data) (matched : matchPattern pattern topic = true) (full : data ≠ [])
    (stays : ∀ done, call ≠ .unsubscribe pattern done) :
    (bus.step globMatch call).Reached pattern topic handler data := by
  obtain ⟨seated, outcome⟩ := reached
  cases call with
  | subscribe =>
    simp only [step, subscribe]
    split
    · exact ⟨mem_append_left _ seated, outcome⟩
    split
    · exact ⟨mem_append_left _ seated, outcome⟩
    · exact ⟨seated, outcome⟩
  | unsubscribe other done =>
    have kept : (pattern, handler) ∈ bus.subscriptions.filter fun sub => sub.1 ≠ other :=
      mem_filter.mpr ⟨seated, decide_eq_true fun same => stays done (congrArg (Call.unsubscribe · done) same.symm)⟩
    simp only [step, unsubscribe]
    split <;> exact ⟨kept, outcome⟩
  | published => exact ⟨seated, outcome.imp_left (mem_append_left _)⟩
  | handleMessage =>
    simp only [step, handleMessage]
    split
    · exact ⟨seated, outcome⟩
    rename_i channel payload inbox queued
    rw [queued] at outcome
    have own : (topic, data) = (channel, payload) →
        (handler, topic, data) ∈ ({ bus with inbox }.deliverMessage channel payload).delivered := by
      intro same
      cases same
      exact mem_append_right _ (mem_map.mpr ⟨(pattern, handler), mem_filter.mpr ⟨seated, matched⟩, rfl⟩)
    split
    · refine ⟨seated, outcome.elim (fun waits => ?_) fun done => .inr (mem_append_left _ done)⟩
      exact (mem_cons.mp waits).elim (fun same => .inr (own same)) .inl
    · rename_i empty
      refine ⟨seated, outcome.imp_left fun waits => (mem_cons.mp waits).resolve_left fun same => empty ?_⟩
      exact fun none => full ((congrArg Prod.snd same).trans none)

end Bus

theorem stringmatch_glob : RedisGlob stringmatch :=
  ⟨stringmatch_redis, fun _ _ _ matched => by simpa [stringmatch] using matched⟩

end PondSocket.Go.RedisPubSub
