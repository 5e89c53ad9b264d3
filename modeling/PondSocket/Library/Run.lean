import Mathlib.Data.List.Basic

namespace Library

-- Runs of a machine whose labels carry every choice, so a step is a function.
section

variable {S L : Type} (step : S → L → S)

variable (admitted : S → L → Prop)

def run (start : S) (labels : List L) : S := labels.foldl step start

-- Each label of the run is admitted in the state in which it is taken.
def Follows (admitted : S → L → Prop) : S → List L → Prop
  | _, [] => True
  | state, label :: rest => admitted state label ∧ Follows admitted (step state label) rest

instance decidableFollows (admitted : S → L → Prop) [∀ state label, Decidable (admitted state label)] :
    (start : S) → (labels : List L) → Decidable (Follows step admitted start labels)
  | _, [] => isTrue trivial
  | start, label :: rest =>
    have := decidableFollows admitted (step start label) rest
    inferInstanceAs (Decidable (admitted start label ∧ Follows step admitted (step start label) rest))

-- Every state of the run is good, the first and the last included.
def Always (good : S → Prop) : S → List L → Prop
  | state, [] => good state
  | state, label :: rest => good state ∧ Always good (step state label) rest

theorem run_keeps (inv : S → Prop) (keep : ∀ state label, inv state → admitted state label → inv (step state label))
    (start : S) (labels : List L) (initial : inv start) (follows : Follows step admitted start labels) :
    inv (run step start labels) := by
  induction labels generalizing start with
  | nil => exact initial
  | cons label _ ih => exact ih (step start label) (keep start label initial follows.1) follows.2

theorem follows_all (start : S) (labels : List L)
    (every : ∀ state label, admitted state label) : Follows step admitted start labels := by
  induction labels generalizing start with
  | nil => trivial
  | cons label _ ih => exact ⟨every start label, ih _⟩

variable {labels : List L}

theorem follows_labels {admitted : L → Prop} (start : S) :
    Follows step (fun _ label => admitted label) start labels ↔ ∀ label ∈ labels, admitted label := by
  induction labels generalizing start with
  | nil => simp [Follows]
  | cons _ _ ih => simp [Follows, ih]

theorem follows_and {left right : S → L → Prop} (start : S) :
    Follows step (fun state label => left state label ∧ right state label) start labels ↔
      Follows step left start labels ∧ Follows step right start labels := by
  induction labels generalizing start with
  | nil => simp [Follows]
  | cons _ _ ih =>
    simp only [Follows, ih]
    tauto

theorem follows_append (start : S) (rest : List L) :
    Follows step admitted start (labels ++ rest) ↔
      Follows step admitted start labels ∧ Follows step admitted (run step start labels) rest := by
  induction labels generalizing start with
  | nil => simp [Follows, run]
  | cons _ _ ih =>
    rw [List.cons_append, Follows, Follows, ih, and_assoc]
    rfl

theorem always_of_follows (inv : S → Prop)
    (keep : ∀ state label, inv state → admitted state label → inv (step state label)) (start : S) (initial : inv start)
    (follows : Follows step admitted start labels) : Always step inv start labels := by
  induction labels generalizing start with
  | nil => exact initial
  | cons label _ ih => exact ⟨initial, ih _ (keep start label initial follows.1) follows.2⟩

theorem always_run {good : S → Prop} (start : S) (always : Always step good start labels) :
    good (run step start labels) := by
  induction labels generalizing start with
  | nil => exact always
  | cons label _ ih => exact ih (step start label) always.2

theorem follows_of_inv (admitted fine : S → L → Prop) (inv : S → Prop)
    (keep : ∀ state label, inv state → admitted state label → inv (step state label))
    (implied : ∀ state label, inv state → admitted state label → fine state label)
    (start : S) (labels : List L) (initial : inv start) (follows : Follows step admitted start labels) :
    Follows step fine start labels := by
  induction labels generalizing start with
  | nil => trivial
  | cons label _ ih =>
    exact ⟨implied start label initial follows.1, ih _ (keep start label initial follows.1) follows.2⟩

theorem always_mono (good fine : S → Prop) (implied : ∀ state, good state → fine state) (start : S)
    (labels : List L) (always : Always step good start labels) : Always step fine start labels := by
  induction labels generalizing start with
  | nil => exact implied start always
  | cons _ _ ih => exact ⟨implied start always.1, ih _ always.2⟩

-- When a good next state is exactly one whose step was sound, a run stays good
-- exactly when all its steps are sound.
theorem always_iff_follows (domain sound : S → L → Prop) (good inv : S → Prop)
    (visible : ∀ state, inv state → good state)
    (keep : ∀ state label, inv state → domain state label → sound state label → inv (step state label))
    (needed : ∀ state label, inv state → domain state label → good (step state label) → sound state label)
    (start : S) (labels : List L) (initial : inv start) (follows : Follows step domain start labels) :
    Always step good start labels ↔ Follows step sound start labels := by
  induction labels generalizing start with
  | nil => simp [Always, Follows, visible start initial]
  | cons label rest ih =>
    constructor
    · rintro ⟨_, later⟩
      have reached : good (step start label) := by
        cases rest with
        | nil => exact later
        | cons => exact later.1
      have ok := needed start label initial follows.1 reached
      exact ⟨ok, (ih _ (keep start label initial follows.1 ok) follows.2).mp later⟩
    · rintro ⟨ok, later⟩
      exact ⟨visible start initial, (ih _ (keep start label initial follows.1 ok) follows.2).mpr later⟩

end

end Library
