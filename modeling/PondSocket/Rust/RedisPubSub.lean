import Mathlib.Logic.Function.Basic
import PondSocket.Library.OrderedMap
import PondSocket.Library.Places
import PondSocket.Library.Run
import PondSocket.Library.Utf8
import PondSocket.Python.RedisPubSub

namespace PondSocket.Rust.RedisPubSub

open Library List
open Library.Utf8 (octets)
open Python.RedisPubSub (stringmatch)

abbrev Text := List Char

def stripSuffix (pattern : Text) : Option Text :=
  if ['.', '*'].isSuffixOf pattern then some (pattern.take (pattern.length - 2)) else none

def matchTopic (pattern topic : Text) : Bool :=
  pattern == topic || (stripSuffix pattern).any (·.isPrefixOf topic)

def toRedisPattern (pattern : Text) : Text := ((stripSuffix pattern).map (· ++ ['*'])).getD pattern

section Dispatch

variable {Handler : Type} (globMatch : List Nat → List Nat → Bool) (subscriptions : OrderedMap Text (List Handler))
  (topic : Text)

def matching : List Handler :=
  subscriptions.entries.flatMap fun row => if matchTopic row.1 topic then row.2 else []

-- The listeners that Redis sends the message to, each on its own connection.
def reached : List Text :=
  subscriptions.keys.filter fun pattern => globMatch (octets (toRedisPattern pattern)) (octets topic)

-- Each of them dispatches to the handlers of all local patterns.
def passed : List Handler := (reached globMatch subscriptions topic).flatMap fun _ => matching subscriptions topic

def PassedOnce : Prop := (passed globMatch subscriptions topic).Perm (matching subscriptions topic)

-- Exactly once is exactly where one subscribed pattern, as Redis reads it, takes the topic, or where no handler's does.
theorem passed_once_iff : PassedOnce globMatch subscriptions topic ↔
    (∀ row ∈ subscriptions.entries, matchTopic row.1 topic = true → row.2 = []) ∨
      ∃ pattern, reached globMatch subscriptions topic = [pattern] := by
  have none : (∀ row ∈ subscriptions.entries, matchTopic row.1 topic = true → row.2 = []) ↔
      matching subscriptions topic = [] := by
    rw [matching, flatMap_eq_nil_iff]
    refine forall₂_congr fun row _ => ?_
    split
    · rename_i matched
      exact ⟨fun empty => empty matched, fun empty _ => empty⟩
    · rename_i apart
      exact iff_of_true (fun matched => absurd matched apart) rfl
  rw [none, ← length_eq_one_iff, PassedOnce, passed]
  generalize reached globMatch subscriptions topic = listeners
  constructor
  · intro once
    have lengths := once.length_eq
    simp only [length_flatMap, map_const', sum_replicate_nat] at lengths
    rcases Nat.eq_zero_or_pos (matching subscriptions topic).length with empty | some
    · exact .inl (eq_nil_of_length_eq_zero empty)
    · exact .inr (Nat.eq_of_mul_eq_mul_right some (lengths.trans (Nat.one_mul _).symm))
  · rintro (empty | single)
    · simp [empty]
    · obtain ⟨_, rfl⟩ := length_eq_one_iff.mp single
      simp

end Dispatch

-- A wildcard and a plain pattern both take the topic, so both listeners dispatch to both handlers.
theorem overlapping_passed_twice : ¬ ∀ subscriptions : OrderedMap Text (List Nat), ∀ topic,
    PassedOnce stringmatch subscriptions topic := by
  intro claim
  have lengths := (claim ((OrderedMap.empty.set "a.*".toList [0]).set "ab".toList [1]) "ab".toList).length_eq
  revert lengths
  decide +kernel

inductive Call
  | checking (pattern : Text)
  | inserting (pattern : Text)
  | removing (pattern : Text)
deriving DecidableEq

-- A pattern is in a map exactly where it has a subscription or a listener. calls have left their section on subscriptions.
structure State where
  subscriptions : Text → List Nat := fun _ => []
  listeners : Text → Bool := fun _ => false
  nextId : Nat := 0
  calls : List Call := []

inductive Label
  | subscribe (pattern : Text)
  | unsubscribe (pattern : Text) (id : Nat)
  | goOn (place : Nat)

def Call.ensures (call : Call) (pattern : Text) : Bool := call == .checking pattern || call == .inserting pattern

namespace State

variable (state : State)

def subscribe (pattern : Text) : State :=
  { state with
    subscriptions := Function.update state.subscriptions pattern (state.subscriptions pattern ++ [state.nextId])
    nextId := state.nextId + 1
    calls := if state.subscriptions pattern = [] then state.calls ++ [.checking pattern] else state.calls }

def unsubscribe (pattern : Text) (id : Nat) : State :=
  { state with
    subscriptions := Function.update state.subscriptions pattern ((state.subscriptions pattern).filter (· ≠ id))
    calls :=
      if state.subscriptions pattern ≠ [] ∧ (state.subscriptions pattern).filter (· ≠ id) = [] then
        state.calls ++ [.removing pattern]
      else state.calls }

def goOn (place : Nat) : State :=
  match state.calls[place]? with
  | none => state
  | some (.checking pattern) =>
    if state.listeners pattern then { state with calls := state.calls.eraseIdx place }
    else { state with calls := state.calls.set place (.inserting pattern) }
  | some (.inserting pattern) =>
    { state with listeners := Function.update state.listeners pattern true, calls := state.calls.eraseIdx place }
  | some (.removing pattern) =>
    { state with listeners := Function.update state.listeners pattern false, calls := state.calls.eraseIdx place }

def step (state : State) : Label → State
  | .subscribe pattern => state.subscribe pattern
  | .unsubscribe pattern id => state.unsubscribe pattern id
  | .goOn place => state.goOn place

def Listening : Prop := state.calls = [] → ∀ pattern, state.listeners pattern = true ↔ state.subscriptions pattern ≠ []

-- What a subscribe relies on as it leaves a listener behind, found or inserted: no unsubscribe has still to take it
-- away, or another subscribe will look again; and where no subscription is left, that an unsubscribe will take it away.
def relied (place : Nat) (pattern : Text) : Bool :=
  if state.subscriptions pattern = [] then state.calls.contains (.removing pattern)
  else !state.calls.contains (.removing pattern) || (state.calls.eraseIdx place).any (·.ensures pattern)

def timely (state : State) : Label → Bool
  | .goOn place =>
    match state.calls[place]? with
    | some (.checking pattern) => !state.listeners pattern || state.relied place pattern
    | some (.inserting pattern) => state.relied place pattern
    | _ => true
  | _ => true

structure Inv : Prop where
  kept : ∀ pattern, state.subscriptions pattern ≠ [] →
    (∃ call ∈ state.calls, call.ensures pattern = true) ∨
      state.listeners pattern = true ∧ .removing pattern ∉ state.calls
  leaving : ∀ pattern, state.listeners pattern = true → state.subscriptions pattern = [] → .removing pattern ∈ state.calls

variable {state}

theorem subscribe_inv (pattern : Text) (inv : state.Inv) : (state.subscribe pattern).Inv := by
  have calls : ∀ call, call ∈ (state.subscribe pattern).calls ↔
      call ∈ state.calls ∨ state.subscriptions pattern = [] ∧ call = .checking pattern := by
    intro call
    simp only [subscribe]
    split
    · rename_i first
      simp [first]
    · rename_i others
      simp [others]
  refine ⟨fun other some => ?_, fun other listens none => ?_⟩
  · by_cases same : other = pattern
    · subst same
      by_cases first : state.subscriptions other = []
      · exact .inl ⟨_, (calls _).mpr (.inr ⟨first, rfl⟩), by simp [Call.ensures]⟩
      refine (inv.kept other first).imp (fun waits => ?_) fun held => ⟨held.1, fun member => ?_⟩
      · obtain ⟨call, member, ensures⟩ := waits
        exact ⟨call, (calls call).mpr (.inl member), ensures⟩
      · exact ((calls _).mp member).elim held.2 fun new => first new.1
    · have there : state.subscriptions other ≠ [] := by simpa [subscribe, same] using some
      refine (inv.kept other there).imp (fun waits => ?_) fun held => ⟨held.1, fun member => ?_⟩
      · obtain ⟨call, member, ensures⟩ := waits
        exact ⟨call, (calls call).mpr (.inl member), ensures⟩
      · exact ((calls _).mp member).elim held.2 fun new => by cases new.2
  · by_cases same : other = pattern
    · subst same
      simp [subscribe] at none
    · exact (calls _).mpr (.inl (inv.leaving other listens (by simpa [subscribe, same] using none)))

theorem unsubscribe_inv (pattern : Text) (id : Nat) (inv : state.Inv) : (state.unsubscribe pattern id).Inv := by
  have calls : ∀ call, call ∈ (state.unsubscribe pattern id).calls ↔ call ∈ state.calls ∨
      (state.subscriptions pattern ≠ [] ∧ (state.subscriptions pattern).filter (· ≠ id) = []) ∧
        call = .removing pattern := by
    intro call
    simp only [unsubscribe]
    split
    · rename_i last
      rw [mem_append, mem_singleton, and_iff_right last]
    · rename_i others
      simp only [others, false_and, or_false]
  refine ⟨fun other some => ?_, fun other listens none => ?_⟩
  · have there : state.subscriptions other ≠ [] ∧ (other = pattern → (state.subscriptions other).filter (· ≠ id) ≠ []) := by
      by_cases same : other = pattern
      · subst same
        have left : (state.subscriptions other).filter (· ≠ id) ≠ [] := by simpa [unsubscribe] using some
        exact ⟨fun empty => left (by rw [empty]; rfl), fun _ => left⟩
      · exact ⟨by simpa [unsubscribe, same] using some, fun equal => absurd equal same⟩
    refine (inv.kept other there.1).imp (fun waits => ?_) fun held => ⟨held.1, fun member => ?_⟩
    · obtain ⟨call, member, ensures⟩ := waits
      exact ⟨call, (calls call).mpr (.inl member), ensures⟩
    rcases (calls _).mp member with old | ⟨last, new⟩
    · exact held.2 old
    · cases new
      exact there.2 rfl last.2
  · by_cases empty : state.subscriptions other = []
    · exact (calls _).mpr (.inl (inv.leaving other listens empty))
    by_cases same : other = pattern
    · subst same
      exact (calls _).mpr (.inr ⟨⟨empty, by simpa [unsubscribe] using none⟩, rfl⟩)
    · exact absurd (by simpa [unsubscribe, same] using none) empty

theorem erase_inv {place : Nat} {gone : Call} {listeners : Text → Bool} (pattern : Text) (inv : state.Inv)
    (there : state.calls[place]? = some gone)
    (about : gone = .checking pattern ∨ gone = .inserting pattern ∨ gone = .removing pattern)
    (same : ∀ other, other ≠ pattern → listeners other = state.listeners other)
    (kept : state.subscriptions pattern ≠ [] → (∃ call ∈ state.calls.eraseIdx place, call.ensures pattern = true) ∨
      listeners pattern = true ∧ .removing pattern ∉ state.calls.eraseIdx place)
    (leaving : listeners pattern = true → state.subscriptions pattern = [] →
      .removing pattern ∈ state.calls.eraseIdx place) :
    ({ state with listeners, calls := state.calls.eraseIdx place } : State).Inv := by
  have stays : ∀ call ∈ state.calls, call ≠ gone → call ∈ state.calls.eraseIdx place := fun call member apart =>
    (mem_erase_or there member).resolve_left apart
  refine ⟨fun other some => ?_, fun other listens none => ?_⟩
  · by_cases equal : other = pattern
    · subst equal
      exact kept some
    refine (inv.kept other some).imp (fun waits => ?_) fun held =>
      ⟨(same other equal).trans held.1, fun member => held.2 (mem_of_mem_eraseIdx member)⟩
    obtain ⟨call, member, ensures⟩ := waits
    refine ⟨call, stays call member ?_, ensures⟩
    rintro rfl
    simp only [Call.ensures, Bool.or_eq_true, beq_iff_eq] at ensures
    rcases about with rfl | rfl | rfl <;> simp_all
  · by_cases equal : other = pattern
    · subst equal
      exact leaving listens none
    refine stays _ (inv.leaving other ((same other equal).symm.trans listens) none) ?_
    rintro rfl
    rcases about with about | about | about <;> cases about
    exact equal rfl

theorem go_on_inv {place : Nat} (inv : state.Inv) (timely : state.timely (.goOn place) = true) :
    (state.goOn place).Inv := by
  -- What a subscribe relies on carries its pattern, with the listener that it leaves.
  have ends : ∀ pattern gone (listeners : Text → Bool), state.calls[place]? = some gone →
      gone = .checking pattern ∨ gone = .inserting pattern → state.relied place pattern = true →
      listeners pattern = true → (∀ other, other ≠ pattern → listeners other = state.listeners other) →
      ({ state with listeners, calls := state.calls.eraseIdx place } : State).Inv := by
    intro pattern gone listeners there about sound left same
    simp only [relied] at sound
    refine erase_inv pattern inv there (about.imp_right .inl) same (fun some => ?_) fun _ none => ?_
    · rw [if_neg some, Bool.or_eq_true, any_eq_true, Bool.not_eq_true', contains_eq_mem,
        decide_eq_false_iff_not] at sound
      exact sound.symm.imp id fun clear => ⟨left, fun member => clear (mem_of_mem_eraseIdx member)⟩
    rw [if_pos none, contains_eq_mem, decide_eq_true_eq] at sound
    refine (mem_erase_or there sound).resolve_left ?_
    rintro rfl
    rcases about with about | about <;> cases about
  unfold goOn
  cases there : state.calls[place]? with
  | none => exact inv
  | some call =>
    simp only [State.timely, there] at timely
    cases call with
    | checking pattern =>
      simp only [Bool.or_eq_true, Bool.not_eq_true'] at timely
      dsimp only
      split
      · rename_i listens
        exact ends pattern _ state.listeners there (.inl rfl) (timely.resolve_left (by simp [listens])) listens
          fun _ _ => rfl
      have goes : ∀ call ∈ state.calls, call ≠ .checking pattern →
          call ∈ state.calls.set place (.inserting pattern) := fun call member apart =>
        (mem_set_or there member).resolve_left apart
      refine ⟨fun other some => ?_, fun other listens none => goes _ (inv.leaving other listens none) (by simp)⟩
      obtain ⟨inside, _⟩ := List.getElem?_eq_some_iff.mp there
      by_cases equal : other = pattern
      · subst equal
        exact .inl ⟨_, mem_set inside _, by simp [Call.ensures]⟩
      refine (inv.kept other some).imp (fun waits => ?_) fun held => ⟨held.1, fun member => ?_⟩
      · obtain ⟨call, member, ensures⟩ := waits
        refine ⟨call, goes call member ?_, ensures⟩
        rintro rfl
        simp [Call.ensures, Ne.symm equal] at ensures
      · exact (mem_or_eq_of_mem_set member).elim held.2 fun new => by cases new
    | inserting pattern =>
      exact ends pattern _ _ there (.inr rfl) timely (Function.update_self _ _ _)
        fun other apart => Function.update_of_ne apart _ _
    | removing pattern =>
      refine erase_inv pattern inv there (.inr (.inr rfl)) (fun other apart => Function.update_of_ne apart _ _)
        (fun some => .inl ?_) fun listens => absurd ((Function.update_self _ _ _).symm.trans listens) Bool.false_ne_true
      rcases inv.kept pattern some with ⟨call, member, ensures⟩ | held
      · refine ⟨call, (mem_erase_or there member).resolve_left ?_, ensures⟩
        rintro rfl
        simp [Call.ensures] at ensures
      · exact absurd (mem_of_getElem? there) held.2

theorem step_inv (label : Label) (inv : state.Inv) (timely : state.timely label = true) : (state.step label).Inv := by
  cases label with
  | subscribe pattern => exact subscribe_inv pattern inv
  | unsubscribe pattern id => exact unsubscribe_inv pattern id inv
  | goOn => exact go_on_inv inv timely

theorem listening_of_inv (inv : state.Inv) : state.Listening := by
  intro quiet pattern
  constructor
  · intro listens none
    have member := inv.leaving pattern listens none
    rw [quiet] at member
    cases member
  · intro some
    rcases inv.kept pattern some with ⟨_, member, _⟩ | held
    · rw [quiet] at member
      cases member
    · exact held.1

-- With no call under way a pattern is listened to exactly where it is subscribed.
theorem listeners_follow (labels : List Label)
    (follows : Follows step (fun state label => state.timely label = true) {} labels) :
    Always step Listening {} labels :=
  always_mono step Inv Listening (fun _ => listening_of_inv) _ labels
    (always_of_follows step _ Inv (fun _ label inv timely => step_inv label inv timely) _
      ⟨fun _ some => absurd rfl some, fun _ listens => by cases listens⟩ follows)

theorem one_call_after_another : Always step Listening {}
    [.subscribe "a".toList, .goOn 0, .goOn 0, .unsubscribe "a".toList 0, .goOn 0] :=
  listeners_follow _ (by decide +kernel)

-- The second subscribe finds the listener that the unsubscribe is about to take away.
theorem subscribed_unheard : ¬ Always step Listening {}
    [.subscribe "a".toList, .goOn 0, .goOn 0, .unsubscribe "a".toList 0, .subscribe "a".toList, .goOn 1, .goOn 0] := by
  intro always
  have listens := (always_run step _ always (by decide +kernel) "a".toList).mpr (by decide +kernel)
  revert listens
  decide +kernel

end State

end PondSocket.Rust.RedisPubSub
