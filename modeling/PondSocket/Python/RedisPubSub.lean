import Mathlib.Data.List.Infix
import PondSocket.Library.Utf8
import PondSocket.Library.Run

namespace PondSocket.Python.RedisPubSub

open Library List
open Library.Utf8 (octets)

def endsWild (pattern : List Char) : Bool := ['.', '*'].isSuffixOf pattern

def matchTopic (pattern topic : List Char) : Bool :=
  pattern == topic ||
    (decide (pattern.length > 2) && endsWild pattern && (pattern.take (pattern.length - 2)).isPrefixOf topic)

def globSpecial (char : Char) : Bool := char == '*' || char == '?' || char == '[' || char == '\\'

def escapeRedisGlob (segment : List Char) : List Char :=
  segment.flatMap fun char => if globSpecial char then ['\\', char] else [char]

def pondPatternToRedis (pattern : List Char) : List Char :=
  if endsWild pattern then escapeRedisGlob (pattern.take (pattern.length - 2)) ++ ['*'] else escapeRedisGlob pattern

structure RedisGlob (globMatch : List Nat → List Nat → Bool) : Prop where
  empty : ∀ topic, globMatch [] topic = true ↔ topic = []
  star : ∀ pattern topic, globMatch (42 :: pattern) topic = true ↔
    ∃ skipped rest, topic = skipped ++ rest ∧ globMatch pattern rest = true
  escaped : ∀ octet pattern topic, globMatch (92 :: octet :: pattern) topic = true ↔
    ∃ rest, topic = octet :: rest ∧ globMatch pattern rest = true
  ordinary : ∀ octet pattern topic, octet ∉ [42, 63, 91, 92] →
    (globMatch (octet :: pattern) topic = true ↔ ∃ rest, topic = octet :: rest ∧ globMatch pattern rest = true)

section

variable {globMatch : List Nat → List Nat → Bool} (redis : RedisGlob globMatch)
include redis

theorem ordinary_octets (plain pattern topic : List Nat) (high : ∀ octet ∈ plain, octet ∉ [42, 63, 91, 92]) :
    globMatch (plain ++ pattern) topic = true ↔ ∃ rest, topic = plain ++ rest ∧ globMatch pattern rest = true := by
  induction plain generalizing topic with
  | nil => simp
  | cons octet plain ih =>
    rw [cons_append, redis.ordinary octet _ topic (high octet mem_cons_self)]
    constructor
    · rintro ⟨rest, rfl, matched⟩
      obtain ⟨after, rfl, ends⟩ := (ih rest fun o member => high o (mem_cons_of_mem _ member)).mp matched
      exact ⟨after, rfl, ends⟩
    · rintro ⟨after, rfl, ends⟩
      exact ⟨plain ++ after, rfl, (ih _ fun o member => high o (mem_cons_of_mem _ member)).mpr ⟨after, rfl, ends⟩⟩

theorem escaped_char (char : Char) (pattern topic : List Nat) :
    globMatch (octets (escapeRedisGlob [char]) ++ pattern) topic = true ↔
      ∃ rest, topic = octets [char] ++ rest ∧ globMatch pattern rest = true := by
  by_cases special : globSpecial char = true
  · have ascii : char.toNat < 0x80 := by
      simp only [globSpecial, Bool.or_eq_true, beq_iff_eq] at special
      rcases special with ((rfl | rfl) | rfl) | rfl <;> decide
    have shape : octets (escapeRedisGlob [char]) = [92, char.toNat] := by
      simp only [escapeRedisGlob, flatMap_cons, special, if_true, octets, flatMap_nil, append_nil,
        Utf8.encode_ascii _ ascii]
      rfl
    rw [shape]
    simpa [octets, Utf8.encode_ascii _ ascii] using redis.escaped char.toNat pattern topic
  · have shape : escapeRedisGlob [char] = [char] := by simp [escapeRedisGlob, special]
    rw [shape]
    apply ordinary_octets redis
    intro octet member
    simp only [octets, flatMap_cons, flatMap_nil, append_nil] at member
    by_cases high : 0x80 ≤ char.toNat
    · have := Utf8.encode_high high member
      simp
      omega
    rw [Utf8.encode_ascii _ (by omega), mem_singleton] at member
    subst member
    simp only [globSpecial, Bool.or_eq_true, beq_iff_eq, not_or] at special
    have differs : ∀ other : Char, char ≠ other → char.toNat ≠ other.toNat := fun other ne same =>
      ne (Char.ext (UInt32.toNat_inj.mp same))
    have star := differs '*' special.1.1.1
    have mark := differs '?' special.1.1.2
    have bracket := differs '[' special.1.2
    have slash := differs '\\' special.2
    simp only [mem_cons, not_mem_nil, or_false, not_or]
    exact ⟨star, mark, bracket, slash⟩

theorem escaped_segment (segment : List Char) (pattern topic : List Nat) :
    globMatch (octets (escapeRedisGlob segment) ++ pattern) topic = true ↔
      ∃ rest, topic = octets segment ++ rest ∧ globMatch pattern rest = true := by
  induction segment generalizing topic with
  | nil => simp [escapeRedisGlob, octets]
  | cons char segment ih =>
    have split : octets (escapeRedisGlob (char :: segment)) ++ pattern =
        octets (escapeRedisGlob [char]) ++ (octets (escapeRedisGlob segment) ++ pattern) := by
      simp [escapeRedisGlob, octets]
    have joined : octets (char :: segment) = octets [char] ++ octets segment := by simp [octets]
    rw [split, escaped_char redis, joined]
    constructor
    · rintro ⟨rest, rfl, matched⟩
      obtain ⟨after, rfl, ends⟩ := (ih rest).mp matched
      exact ⟨after, (append_assoc _ _ _).symm, ends⟩
    · rintro ⟨after, rfl, ends⟩
      exact ⟨octets segment ++ after, append_assoc _ _ _, (ih _).mpr ⟨after, rfl, ends⟩⟩

theorem literal_glob (pattern : List Char) (topic : List Nat) (literal : endsWild pattern = false) :
    globMatch (octets (pondPatternToRedis pattern)) topic = true ↔ topic = octets pattern := by
  have whole := escaped_segment redis pattern [] topic
  simp only [append_nil, redis.empty, exists_eq_right] at whole
  rw [pondPatternToRedis, literal]
  exact whole

theorem wild_glob (pattern : List Char) (topic : List Nat) (wild : endsWild pattern = true) :
    globMatch (octets (pondPatternToRedis pattern)) topic = true ↔
      octets (pattern.take (pattern.length - 2)) <+: topic := by
  have any : ∀ rest, globMatch [42] rest = true := fun rest =>
    (redis.star [] rest).mpr ⟨rest, [], (append_nil rest).symm, (redis.empty []).mpr rfl⟩
  have shape : octets (pondPatternToRedis pattern) =
      octets (escapeRedisGlob (pattern.take (pattern.length - 2))) ++ [42] := by
    rw [pondPatternToRedis, wild, if_pos rfl, octets, flatMap_append]
    rfl
  rw [shape, escaped_segment redis]
  constructor
  · rintro ⟨rest, rfl, _⟩
    exact ⟨rest, rfl⟩
  · rintro ⟨rest, rfl⟩
    exact ⟨rest, rfl, any rest⟩

theorem glob_of_match (pattern topic : List Char) (matched : matchTopic pattern topic = true) :
    globMatch (octets (pondPatternToRedis pattern)) (octets topic) = true := by
  simp only [matchTopic, Bool.or_eq_true, Bool.and_eq_true, beq_iff_eq] at matched
  cases wild : endsWild pattern with
  | false =>
    rw [wild] at matched
    rcases matched with rfl | ⟨⟨_, absurd_wild⟩, _⟩
    · exact (literal_glob redis pattern _ wild).mpr rfl
    · cases absurd_wild
  | true =>
    rw [wild_glob redis pattern _ wild]
    rcases matched with rfl | ⟨_, starts⟩
    · exact ⟨octets (pattern.drop (pattern.length - 2)), by
        rw [octets, octets, ← flatMap_append, take_append_drop]
        rfl⟩
    · obtain ⟨rest, rfl⟩ := isPrefixOf_iff_prefix.mp starts
      exact ⟨octets rest, by rw [octets, octets, ← flatMap_append]; rfl⟩

theorem redis_injective {left right : List Char}
    (same : octets (pondPatternToRedis left) = octets (pondPatternToRedis right)) : left = right := by
  have alike : ∀ topic, globMatch (octets (pondPatternToRedis left)) topic = true ↔
      globMatch (octets (pondPatternToRedis right)) topic = true := fun topic => by rw [same]
  have mixed : ∀ one other, endsWild one = false → endsWild other = true →
      (∀ topic, globMatch (octets (pondPatternToRedis one)) topic = true ↔
        globMatch (octets (pondPatternToRedis other)) topic = true) → False := by
    intro one other literal wild agree
    have short := (agree _).mpr ((wild_glob redis other _ wild).mpr (prefix_refl _))
    have long := (agree _).mpr ((wild_glob redis other _ wild).mpr (prefix_append _ [0]))
    rw [literal_glob redis one _ literal] at short long
    have length := congrArg List.length (short.trans long.symm)
    simp at length
  cases wild_left : endsWild left <;> cases wild_right : endsWild right
  · have here := (alike _).mp ((literal_glob redis left _ wild_left).mpr rfl)
    exact Utf8.octets_injective ((literal_glob redis right _ wild_right).mp here)
  · exact (mixed left right wild_left wild_right alike).elim
  · exact (mixed right left wild_right wild_left fun topic => (alike topic).symm).elim
  · have one := (alike _).mp ((wild_glob redis left _ wild_left).mpr (prefix_refl _))
    have two := (alike _).mpr ((wild_glob redis right _ wild_right).mpr (prefix_refl _))
    rw [wild_glob redis right _ wild_right] at one
    rw [wild_glob redis left _ wild_left] at two
    have stems := Utf8.octets_injective (one.eq_of_length (Nat.le_antisymm one.length_le two.length_le))
    obtain ⟨_, rfl⟩ := isSuffixOf_iff_suffix.mp wild_left
    obtain ⟨_, rfl⟩ := isSuffixOf_iff_suffix.mp wild_right
    have cut : ∀ text : List Char, (text ++ ['.', '*']).take ((text ++ ['.', '*']).length - 2) = text := fun text => by
      simp
    rw [cut, cut] at stems
    rw [stems]

end

section

variable {Handler Data : Type}

-- A client's bus: its own table, what Redis keeps for its connection, and what the connection still holds.
structure Bus (Handler Data : Type) where
  subs : List (List Char × Handler)
  globs : List (List Nat)
  inbox : List (List Nat × Data)
  delivered : List (Handler × List Char × Data)

inductive Call (Handler Data : Type)
  | subscribe (pattern : List Char) (handler : Handler)
  | unsubscribe (pattern : List Char)
  | published (topic : List Char) (data : Data)
  | readMessage

namespace Bus

def subscribed (bus : Bus Handler Data) (pattern : List Char) : Bool := bus.subs.any fun sub => sub.1 == pattern

def subscribe (bus : Bus Handler Data) (pattern : List Char) (handler : Handler) : Bus Handler Data :=
  if bus.subscribed pattern then bus
  else { bus with
    globs := bus.globs.insert (octets (pondPatternToRedis pattern))
    subs := bus.subs ++ [(pattern, handler)] }

def unsubscribe (bus : Bus Handler Data) (pattern : List Char) : Bus Handler Data :=
  if bus.subscribed pattern then { bus with
    globs := bus.globs.filter fun glob => glob ≠ octets (pondPatternToRedis pattern)
    subs := bus.subs.filter fun sub => sub.1 ≠ pattern }
  else bus

-- Redis sends the connection one message for each of its patterns that fits.
def published (globMatch : List Nat → List Nat → Bool) (bus : Bus Handler Data) (topic : List Char) (data : Data) :
    Bus Handler Data :=
  { bus with inbox := bus.inbox ++
      (bus.globs.filter fun glob => globMatch glob (octets topic)).map fun _ => (octets topic, data) }

def dispatchToHandlers (bus : Bus Handler Data) (topic : List Char) (data : Data) : Bus Handler Data :=
  { bus with delivered := bus.delivered ++
      (bus.subs.filter fun sub => matchTopic sub.1 topic).map fun sub => (sub.2, topic, data) }

def readMessage (bus : Bus Handler Data) : Bus Handler Data :=
  match bus.inbox with
  | [] => bus
  | (channel, data) :: rest =>
    match Utf8.read channel with
    | none => { bus with inbox := rest }
    | some topic => { bus with inbox := rest }.dispatchToHandlers topic data

def step (globMatch : List Nat → List Nat → Bool) (bus : Bus Handler Data) : Call Handler Data → Bus Handler Data
  | .subscribe pattern handler => bus.subscribe pattern handler
  | .unsubscribe pattern => bus.unsubscribe pattern
  | .published topic data => bus.published globMatch topic data
  | .readMessage => bus.readMessage

def Registered (bus : Bus Handler Data) : Prop :=
  ∀ sub ∈ bus.subs, octets (pondPatternToRedis sub.1) ∈ bus.globs

def Reached (pattern topic : List Char) (handler : Handler) (data : Data) (bus : Bus Handler Data) : Prop :=
  (pattern, handler) ∈ bus.subs ∧ ((octets topic, data) ∈ bus.inbox ∨ (handler, topic, data) ∈ bus.delivered)

variable {bus : Bus Handler Data} {call : Call Handler Data}

theorem subs_step {globMatch : List Nat → List Nat → Bool} {sub : List Char × Handler}
    (keeps : call ≠ .unsubscribe sub.1) (member : sub ∈ bus.subs) : sub ∈ (bus.step globMatch call).subs := by
  cases call with
  | subscribe =>
    simp only [step, subscribe]
    split
    · exact member
    · exact mem_append_left _ member
  | unsubscribe =>
    simp only [step, unsubscribe]
    split
    · refine mem_filter.mpr ⟨member, ?_⟩
      simp only [ne_eq, decide_eq_true_eq]
      intro same
      exact keeps (by rw [same])
    · exact member
  | published => exact member
  | readMessage =>
    simp only [step, readMessage]
    split
    · exact member
    · split <;> exact member

theorem registered_step {globMatch : List Nat → List Nat → Bool} (redis : RedisGlob globMatch)
    (registered : bus.Registered) : (bus.step globMatch call).Registered := by
  intro sub member
  cases call with
  | subscribe =>
    simp only [step, subscribe] at member ⊢
    split at member
    · next known => exact (by simpa [known] using registered sub member)
    next unknown =>
      simp only [unknown, Bool.false_eq_true, if_false, mem_insert_iff]
      rcases mem_append.mp member with old | new
      · exact .inr (registered sub old)
      · rw [mem_singleton.mp new]
        exact .inl rfl
  | unsubscribe =>
    simp only [step, unsubscribe] at member ⊢
    split at member
    · next known =>
        obtain ⟨old, other⟩ := mem_filter.mp member
        simp only [ne_eq, decide_eq_true_eq] at other
        simp only [known, if_true]
        refine mem_filter.mpr ⟨registered sub old, ?_⟩
        simp only [ne_eq, decide_eq_true_eq]
        exact fun same => other (redis_injective redis same)
    · next unknown => exact (by simpa [unknown] using registered sub member)
  | published => exact registered sub member
  | readMessage =>
    simp only [step, readMessage] at member ⊢
    split at member
    · exact registered sub member
    · split at member <;> exact registered sub member

variable {pattern topic : List Char} {handler : Handler}

theorem reached_step {globMatch : List Nat → List Nat → Bool} {data : Data} (matched : matchTopic pattern topic = true)
    (reached : bus.Reached pattern topic handler data) (keeps : call ≠ .unsubscribe pattern) :
    (bus.step globMatch call).Reached pattern topic handler data := by
  refine ⟨subs_step keeps reached.1, ?_⟩
  obtain ⟨seated, outcome⟩ := reached
  cases call with
  | subscribe => simp only [step, subscribe]; split <;> exact outcome
  | unsubscribe => simp only [step, unsubscribe]; split <;> exact outcome
  | published => exact outcome.imp (mem_append_left _) id
  | readMessage =>
    simp only [step, readMessage]
    cases queued : bus.inbox with
    | nil => simpa [queued] using outcome
    | cons head =>
      obtain ⟨channel, _⟩ := head
      rw [queued] at outcome
      dsimp only
      rcases outcome with waiting | done
      · rcases mem_cons.mp waiting with same | later
        · cases same
          right
          simp only [Utf8.read_octets, dispatchToHandlers]
          refine mem_append_right _ (mem_map.mpr ⟨(pattern, handler), ?_, rfl⟩)
          exact mem_filter.mpr ⟨seated, matched⟩
        · left
          cases Utf8.read channel <;> exact later
      · right
        cases Utf8.read channel with
        | none => exact done
        | some => exact mem_append_left _ done

theorem reached_published {globMatch : List Nat → List Nat → Bool} (redis : RedisGlob globMatch)
    (registered : bus.Registered) {data : Data} (seated : (pattern, handler) ∈ bus.subs)
    (matched : matchTopic pattern topic = true) :
    (bus.published globMatch topic data).Reached pattern topic handler data := by
  refine ⟨seated, .inl (mem_append_right _ (mem_map.mpr ⟨octets (pondPatternToRedis pattern), ?_, rfl⟩))⟩
  exact mem_filter.mpr ⟨registered _ seated, glob_of_match redis pattern topic matched⟩

def empty : Bus Handler Data := ⟨[], [], [], []⟩

end Bus

end

def stringmatch : List Nat → List Nat → Bool
  | [], topic => topic.isEmpty
  | 42 :: pattern, topic => topic.tails.any (stringmatch pattern)
  | 63 :: pattern, topic =>
    match topic with
    | [] => false
    | _ :: rest => stringmatch pattern rest
  | 92 :: octet :: pattern, topic =>
    match topic with
    | [] => false
    | head :: rest => octet == head && stringmatch pattern rest
  | octet :: pattern, topic =>
    match topic with
    | [] => false
    | head :: rest => octet == head && stringmatch pattern rest

theorem stringmatch_redis : RedisGlob stringmatch := by
  refine ⟨?_, ?_, ?_, ?_⟩
  · intro topic
    simp [stringmatch]
  · intro pattern topic
    simp only [stringmatch, any_eq_true, mem_tails]
    constructor
    · rintro ⟨rest, ⟨skipped, rfl⟩, matched⟩
      exact ⟨skipped, rest, rfl, matched⟩
    · rintro ⟨skipped, rest, rfl, matched⟩
      exact ⟨rest, ⟨skipped, rfl⟩, matched⟩
  · intro octet pattern topic
    cases topic with
    | nil => simp [stringmatch]
    | cons =>
      simp only [stringmatch, Bool.and_eq_true, beq_iff_eq, cons.injEq]
      grind
  · intro octet pattern topic ordinary
    simp only [mem_cons, not_mem_nil, or_false, not_or] at ordinary
    obtain ⟨_, _, _, slash⟩ := ordinary
    cases topic with
    | nil => simp [stringmatch, slash]
    | cons =>
      rw [stringmatch.eq_def]
      split <;> grind

def specialName : List Char := "pondsocket:v1:default:api:a*b?[c]\\".toList

end PondSocket.Python.RedisPubSub
