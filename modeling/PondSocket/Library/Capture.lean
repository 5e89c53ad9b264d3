import Mathlib.Tactic.Common

namespace Library

open List

variable {Symbol : Type}

-- A pattern is a list of these, read from the start of a text to its end.
inductive Node (Symbol : Type) where
  | plain (symbol : Symbol)
  | group (accepts : Symbol → Bool) (least : Nat)

-- Every way to take accepted symbols off the front, the longest first.
def cuts (accepts : Symbol → Bool) : List Symbol → List (List Symbol × List Symbol)
  | [] => [([], [])]
  | first :: rest =>
    if accepts first then
      (cuts accepts rest).map (fun cut => (first :: cut.1, cut.2)) ++ [([], first :: rest)]
    else [([], first :: rest)]

inductive Captures : List (Node Symbol) → List Symbol → List (List Symbol) → Prop where
  | done : Captures [] [] []
  | plain (symbol : Symbol) (nodes : List (Node Symbol)) (rest : List Symbol)
      (taken : List (List Symbol)) (later : Captures nodes rest taken) :
      Captures (.plain symbol :: nodes) (symbol :: rest) taken
  | group (accepts : Symbol → Bool) (least : Nat) (nodes : List (Node Symbol))
      (piece rest : List Symbol) (taken : List (List Symbol))
      (accepted : ∀ symbol ∈ piece, accepts symbol) (enough : least ≤ piece.length)
      (later : Captures nodes rest taken) :
      Captures (.group accepts least :: nodes) (piece ++ rest) (piece :: taken)

theorem mem_cuts (accepts : Symbol → Bool) (text piece rest : List Symbol) :
    (piece, rest) ∈ cuts accepts text ↔ text = piece ++ rest ∧ ∀ symbol ∈ piece, accepts symbol := by
  induction text generalizing piece with
  | nil =>
    simp only [cuts, mem_singleton, Prod.mk.injEq]
    constructor
    · rintro ⟨rfl, rfl⟩
      exact ⟨rfl, by simp⟩
    · rintro ⟨same, _⟩
      exact append_eq_nil_iff.mp same.symm
  | cons first text ih =>
    cases piece with
    | nil =>
      have last : ([], rest) ∈ cuts accepts (first :: text) ↔ rest = first :: text := by
        unfold cuts
        split <;> simp
      rw [last, nil_append]
      exact ⟨fun same => ⟨same.symm, by simp⟩, fun same => same.1.symm⟩
    | cons head piece =>
      unfold cuts
      split
      · next fits =>
        simp only [mem_append, mem_map, mem_singleton, Prod.mk.injEq, Prod.exists,
          cons.injEq, reduceCtorEq, false_and, or_false]
        constructor
        · rintro ⟨later, _, known, ⟨rfl, rfl⟩, rfl⟩
          obtain ⟨shape, all⟩ := (ih later).mp known
          exact ⟨by rw [shape]; rfl, fun symbol member => (mem_cons.mp member).elim
            (fun same => same ▸ fits) (all symbol)⟩
        · rintro ⟨shape, all⟩
          rw [cons_append, cons.injEq] at shape
          exact ⟨piece, rest, (ih piece).mpr ⟨shape.2, fun symbol member =>
            all symbol (mem_cons_of_mem _ member)⟩, ⟨shape.1, rfl⟩, rfl⟩
      · next refused =>
        simp only [mem_singleton, Prod.mk.injEq, reduceCtorEq, false_and, false_iff, not_and]
        intro shape all
        rw [cons_append, cons.injEq] at shape
        exact refused (shape.1 ▸ all head mem_cons_self)

theorem captures_plain (symbols : List Symbol) (nodes : List (Node Symbol)) (text : List Symbol)
    (taken : List (List Symbol)) :
    Captures (symbols.map Node.plain ++ nodes) text taken ↔
      ∃ rest, text = symbols ++ rest ∧ Captures nodes rest taken := by
  induction symbols generalizing text with
  | nil => simp
  | cons symbol _ ih =>
    constructor
    · intro fits
      cases fits with
      | plain _ _ rest _ later =>
        obtain ⟨after, shape, inner⟩ := (ih rest).mp later
        exact ⟨after, by rw [shape]; rfl, inner⟩
    · rintro ⟨rest, rfl, inner⟩
      exact .plain symbol _ _ taken ((ih _).mpr ⟨rest, rfl, inner⟩)

theorem captures_group (accepts : Symbol → Bool) (least : Nat) (nodes : List (Node Symbol))
    (text : List Symbol) (taken : List (List Symbol)) :
    Captures (.group accepts least :: nodes) text taken ↔
      ∃ piece rest later, text = piece ++ rest ∧ taken = piece :: later ∧
        (∀ symbol ∈ piece, accepts symbol) ∧ least ≤ piece.length ∧
        Captures nodes rest later := by
  constructor
  · intro fits
    cases fits with
    | group _ _ _ piece rest later accepted enough inner =>
      exact ⟨piece, rest, later, rfl, rfl, accepted, enough, inner⟩
  · rintro ⟨piece, rest, later, rfl, rfl, accepted, enough, inner⟩
    exact .group accepts least nodes piece rest later accepted enough inner

variable [DecidableEq Symbol]

variable (nodes : List (Node Symbol))

-- A group takes all it can and gives back until what follows matches.
def capture : List (Node Symbol) → List Symbol → Option (List (List Symbol))
  | [], [] => some []
  | [], _ :: _ => none
  | .plain _ :: _, [] => none
  | .plain symbol :: nodes, first :: rest =>
    if first = symbol then capture nodes rest else none
  | .group accepts least :: nodes, text =>
    (cuts accepts text).findSome? (fun cut =>
      if least ≤ cut.1.length then (capture nodes cut.2).map (cut.1 :: ·) else none)

theorem capture_sound (text : List Symbol) (taken : List (List Symbol)) (found : capture nodes text = some taken) :
    Captures nodes text taken := by
  induction nodes generalizing text taken with
  | nil =>
    cases text with
    | nil =>
      cases found
      exact .done
    | cons => cases found
  | cons node nodes ih =>
    cases node with
    | plain symbol =>
      cases text with
      | nil => cases found
      | cons _ rest =>
        unfold capture at found
        split at found
        · next same =>
          rw [same]
          exact .plain symbol nodes rest taken (ih rest taken found)
        · cases found
    | group accepts least =>
      obtain ⟨⟨piece, rest⟩, known, one⟩ := exists_of_findSome?_eq_some found
      obtain ⟨shape, all⟩ := (mem_cuts accepts text piece rest).mp known
      split at one
      · next enough =>
        obtain ⟨later, inner, same⟩ := Option.map_eq_some_iff.mp one
        rw [← same, shape]
        exact .group accepts least nodes piece rest later all enough (ih rest later inner)
      · cases one

theorem capture_complete {text : List Symbol}
    {taken : List (List Symbol)} (fits : Captures nodes text taken) :
    (capture nodes text).isSome := by
  induction fits with
  | done => rfl
  | plain _ _ _ _ _ ih =>
    unfold capture
    rw [if_pos rfl]
    exact ih
  | group accepts _ _ piece rest _ accepted enough _ ih =>
    unfold capture
    rw [findSome?_isSome_iff]
    refine ⟨(piece, rest), (mem_cuts accepts _ piece rest).mpr ⟨rfl, accepted⟩, ?_⟩
    rw [if_pos enough, Option.isSome_map]
    exact ih

theorem capture_none_iff (text : List Symbol) :
    capture nodes text = none ↔ ∀ taken, ¬ Captures nodes text taken := by
  constructor
  · intro missing taken fits
    have found := capture_complete nodes fits
    rw [missing] at found
    cases found
  · intro refused
    cases found : capture nodes text with
    | none => rfl
    | some taken => exact absurd (capture_sound nodes text taken found) (refused taken)

end Library
