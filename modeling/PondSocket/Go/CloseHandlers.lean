import Mathlib.Data.List.Perm.Basic
import PondSocket.Library.Run

namespace PondSocket.Go

open Library List

-- How far the one closing is that closeOnce admits. A Close that finds it under way waits, and then does nothing.
inductive ClosingStage
  | unused
  | entered (fromReader : Bool)
  | waiting (handlersToRun : List Nat)
  | running (handlersToRun : List Nat)
  | done
deriving DecidableEq

-- A connection as OnClose and Close see it. A callback goes by the number of its registration. late are the calls of
-- OnClose that found the connection closing and have still to run theirs, began what was registered as closing began.
structure Closing where
  waits : Bool
  isClosing : Bool := false
  closeHandlers : List Nat := []
  stage : ClosingStage := .unused
  reading : Bool := true
  registered : Nat := 0
  late : List Nat := []
  ran : List Nat := []
  began : Nat := 0

def newConn : Closing := { waits := true }

def newSSEConn : Closing := { waits := false }

inductive CloseLabel
  | onClose
  | runLate (index : Nat)
  | close (fromReader : Bool)
  | mark
  | readDone
  | proceed
  | runHandler

namespace Closing

variable (conn : Closing)

def onClose : Closing :=
  if conn.isClosing then { conn with late := conn.late ++ [conn.registered], registered := conn.registered + 1 }
  else { conn with closeHandlers := conn.closeHandlers ++ [conn.registered], registered := conn.registered + 1 }

def runLate (index : Nat) : Closing :=
  match conn.late[index]? with
  | none => conn
  | some callback => { conn with late := conn.late.eraseIdx index, ran := conn.ran ++ [callback] }

def close (fromReader : Bool) : Closing :=
  match conn.stage with
  | .unused => { conn with stage := .entered fromReader, began := conn.registered }
  | _ => conn

def mark : Closing :=
  match conn.stage with
  | .entered fromReader =>
    { conn with
      isClosing := true
      stage := if conn.waits && !fromReader then .waiting conn.closeHandlers else .running conn.closeHandlers }
  | _ => conn

def proceed : Closing :=
  match conn.stage with
  | .waiting handlersToRun => if conn.reading then conn else { conn with stage := .running handlersToRun }
  | _ => conn

def runHandler : Closing :=
  match conn.stage with
  | .running [] => { conn with stage := .done }
  | .running (handler :: rest) => { conn with stage := .running rest, ran := conn.ran ++ [handler] }
  | _ => conn

def step (conn : Closing) : CloseLabel → Closing
  | .onClose => conn.onClose
  | .runLate index => conn.runLate index
  | .close fromReader => conn.close fromReader
  | .mark => conn.mark
  | .readDone => { conn with reading := false }
  | .proceed => conn.proceed
  | .runHandler => conn.runHandler

def Settled : Prop := conn.stage = .done ∧ conn.late = []

structure RanOnce : Prop where
  once : conn.ran.Perm (List.range conn.registered)
  ordered : conn.ran.filter (· < conn.began) = List.range conn.began

def todo : List Nat :=
  match conn.stage with
  | .unused | .entered _ => conn.closeHandlers
  | .waiting handlersToRun | .running handlersToRun => handlersToRun
  | .done => []

structure Inv : Prop where
  handlers : conn.closeHandlers = List.range conn.closeHandlers.length
  whole : (conn.ran ++ (conn.todo ++ conn.late)).Perm (List.range conn.registered)
  first : conn.ran.filter (· < conn.closeHandlers.length) ++ conn.todo = List.range conn.closeHandlers.length
  after : ∀ callback ∈ conn.late, conn.closeHandlers.length ≤ callback
  fits : conn.closeHandlers.length ≤ conn.registered
  early : conn.isClosing = false → conn.closeHandlers.length = conn.registered ∧ conn.ran = [] ∧ conn.late = []
  marked : conn.isClosing = false ↔ conn.stage = .unused ∨ ∃ fromReader, conn.stage = .entered fromReader
  began : conn.stage ≠ .unused → conn.began ≤ conn.closeHandlers.length

variable {conn}

theorem todo_open (still : conn.isClosing = false) (inv : conn.Inv) : conn.todo = conn.closeHandlers := by
  rcases inv.marked.mp still with unused | ⟨_, entered⟩
  · rw [todo, unused]
  · rw [todo, entered]

theorem on_close_inv (inv : conn.Inv) : conn.onClose.Inv := by
  unfold onClose
  split
  · rename_i closing
    refine ⟨inv.handlers, ?_, inv.first, ?_, Nat.le_succ_of_le inv.fits, ?_, inv.marked, inv.began⟩
    · rw [range_succ, ← append_assoc, ← append_assoc, append_assoc conn.ran]
      exact inv.whole.append_right _
    · intro callback member
      rcases mem_append.mp member with old | new
      · exact inv.after callback old
      · rw [mem_singleton.mp new]
        exact inv.fits
    · exact fun still => absurd (closing.symm.trans still) Bool.true_eq_false.mp
  · rename_i still
    have still := Bool.eq_false_iff.mpr still
    obtain ⟨all, ran, late⟩ := inv.early still
    have handlers : conn.closeHandlers ++ [conn.registered] = List.range (conn.registered + 1) := by
      rw [range_succ, ← all, ← inv.handlers]
    have length : (conn.closeHandlers ++ [conn.registered]).length = conn.registered + 1 := by
      rw [length_append, all, length_singleton]
    have todo : ({ conn with
        closeHandlers := conn.closeHandlers ++ [conn.registered]
        registered := conn.registered + 1 } : Closing).todo = conn.closeHandlers ++ [conn.registered] := by
      rcases inv.marked.mp still with unused | ⟨_, entered⟩
      · simp [Closing.todo, unused]
      · simp [Closing.todo, entered]
    refine ⟨?_, ?_, ?_, ?_, ?_, ?_, inv.marked, ?_⟩
    · rw [length]
      exact handlers
    · rw [todo, handlers]
      simp only [ran, late, nil_append, append_nil]
      exact List.Perm.refl _
    · rw [todo, length, handlers]
      simp [ran]
    · intro callback member
      rw [late] at member
      cases member
    · exact Nat.le_of_eq length
    · exact fun _ => ⟨length, ran, late⟩
    · intro started
      rw [length]
      exact Nat.le_succ_of_le (all ▸ inv.began started)

theorem run_late_inv (index : Nat) (inv : conn.Inv) : (conn.runLate index).Inv := by
  unfold runLate
  cases there : conn.late[index]? with
  | none => exact inv
  | some callback =>
    have member := mem_of_getElem? there
    obtain ⟨inside, same⟩ := List.getElem?_eq_some_iff.mp there
    refine ⟨inv.handlers, ?_, ?_, ?_, inv.fits, ?_, inv.marked, inv.began⟩
    · have split : conn.late.Perm (callback :: conn.late.eraseIdx index) := by
        rw [← same]
        exact (getElem_cons_eraseIdx_perm inside).symm
      refine List.Perm.trans ?_ inv.whole
      rw [append_assoc]
      exact (perm_middle.symm.trans (split.symm.append_left _)).append_left _
    · have late := inv.after callback member
      rw [filter_append, filter_cons_of_neg (by simpa using late), filter_nil, append_nil]
      exact inv.first
    · exact fun other known => inv.after other (mem_of_mem_eraseIdx known)
    · intro still
      rw [(inv.early still).2.2] at member
      cases member

theorem close_inv (fromReader : Bool) (inv : conn.Inv) : (conn.close fromReader).Inv := by
  unfold close
  split
  · rename_i unused
    have still := inv.marked.mpr (.inl unused)
    have todo := todo_open still inv
    refine ⟨inv.handlers, ?_, ?_, inv.after, inv.fits, inv.early, ?_, ?_⟩
    · exact todo ▸ inv.whole
    · exact todo ▸ inv.first
    · exact iff_of_true still (.inr ⟨fromReader, rfl⟩)
    · exact fun _ => Nat.le_of_eq (inv.early still).1.symm
  · exact inv

theorem inv_moved {closing : Bool} (stage : ClosingStage) (inv : conn.Inv) (closed : closing = true)
    (started : conn.stage ≠ .unused) (later : ¬ (stage = .unused ∨ ∃ fromReader, stage = .entered fromReader))
    (todo : ({ conn with isClosing := closing, stage } : Closing).todo = conn.todo) :
    ({ conn with isClosing := closing, stage } : Closing).Inv where
  handlers := inv.handlers
  whole := todo ▸ inv.whole
  first := todo ▸ inv.first
  after := inv.after
  fits := inv.fits
  early := fun still => absurd (closed.symm.trans still) Bool.true_eq_false.mp
  marked := iff_of_false (by simp [closed]) later
  began := fun _ => inv.began started

theorem closing_of (inv : conn.Inv) (later : ¬ (conn.stage = .unused ∨ ∃ fromReader, conn.stage = .entered fromReader)) :
    conn.isClosing = true := by
  cases still : conn.isClosing with
  | true => rfl
  | false => exact absurd (inv.marked.mp still) later

theorem mark_inv (inv : conn.Inv) : conn.mark.Inv := by
  unfold mark
  split
  · rename_i fromReader entered
    have left := todo_open (inv.marked.mpr (.inr ⟨fromReader, entered⟩)) inv
    refine inv_moved _ inv rfl (by simp [entered]) (by split <;> simp) ?_
    rw [left]
    cases conn.waits && !fromReader <;> rfl
  · exact inv

theorem proceed_inv (inv : conn.Inv) : conn.proceed.Inv := by
  unfold proceed
  split
  · rename_i handlersToRun waiting
    split
    · exact inv
    · exact inv_moved _ inv (closing_of inv (by simp [waiting])) (by simp [waiting]) (by simp) (by simp [todo, waiting])
  · exact inv

theorem run_handler_inv (inv : conn.Inv) : conn.runHandler.Inv := by
  unfold runHandler
  split
  · rename_i running
    exact inv_moved _ inv (closing_of inv (by simp [running])) (by simp [running]) (by simp) (by simp [todo, running])
  · rename_i handler rest running
    have left : conn.todo = handler :: rest := by simp [todo, running]
    have inside : handler < conn.closeHandlers.length := by
      rw [← mem_range, ← inv.first, left]
      exact mem_append_right _ mem_cons_self
    have closing := closing_of inv (by simp [running])
    refine ⟨inv.handlers, ?_, ?_, inv.after, inv.fits, ?_, ?_, ?_⟩
    · have whole := inv.whole
      rw [left] at whole
      simpa [todo] using whole
    · have first := inv.first
      rw [left] at first
      rw [filter_append, filter_cons_of_pos (by simpa using inside), filter_nil, append_assoc]
      exact first
    · exact fun still => absurd (closing.symm.trans still) Bool.true_eq_false.mp
    · exact iff_of_false (by simp [closing]) (by simp)
    · exact fun _ => inv.began (by simp [running])
  · exact inv

theorem step_inv (label : CloseLabel) (inv : conn.Inv) : (conn.step label).Inv := by
  cases label with
  | onClose => exact on_close_inv inv
  | runLate index => exact run_late_inv index inv
  | close fromReader => exact close_inv fromReader inv
  | mark => exact mark_inv inv
  | readDone => exact ⟨inv.handlers, inv.whole, inv.first, inv.after, inv.fits, inv.early, inv.marked, inv.began⟩
  | proceed => exact proceed_inv inv
  | runHandler => exact run_handler_inv inv

theorem ran_once (inv : conn.Inv) (settled : conn.Settled) : conn.RanOnce := by
  obtain ⟨stage, late⟩ := settled
  have left : conn.todo = [] := by rw [todo, stage]
  have whole := inv.whole
  have first := inv.first
  rw [left, late, append_nil, append_nil] at whole
  rw [left, append_nil] at first
  refine ⟨whole, ?_⟩
  have began := inv.began (by simp [stage])
  have both : conn.ran.filter (· < conn.began) =
      (conn.ran.filter (· < conn.closeHandlers.length)).filter (· < conn.began) := by
    rw [filter_filter]
    refine filter_congr fun callback _ => ?_
    simp only [← Bool.decide_and, decide_eq_decide]
    omega
  obtain ⟨_, length⟩ := Nat.exists_eq_add_of_le began
  rw [both, first, length, range_add, filter_append, filter_eq_self.mpr (by simp),
    filter_eq_nil_iff.mpr (by simp), append_nil]

end Closing

end PondSocket.Go
