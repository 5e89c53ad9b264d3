import PondSocket.Js.ChannelTables
import PondSocket.Js.Membership
import PondSocket.Library.Run

namespace PondSocket.Js

open Library OrderedMap

namespace Tables

variable (tables : Tables)

variable {userId : UserId} {now : Nat}

-- Every entry of #userSubscriptions belongs to a registered subscriber of that user.
def Wired (tables : Tables) : Prop :=
  ∀ userId id, tables.userSubscriptions.get? userId = some id →
    ∃ onMessage, tables.publisher.observers.get? id = some ⟨userId, onMessage⟩

variable {tables}

theorem wired_host (wired : tables.Wired) {subscriber : Subscriber} :
    (tables.host subscriber).Wired := by
  intro userId id found
  dsimp only [host] at found ⊢
  rw [Subject.attach_get]
  by_cases same : userId = subscriber.userId
  · subst same
    rw [get_set_same] at found
    cases found
    exact ⟨subscriber.onMessage, if_pos rfl⟩
  rw [get_set_other same] at found
  obtain ⟨onMessage, row⟩ := wired userId id found
  have old : id ≠ tables.publisher.nextId := by
    rintro rfl
    rw [tables.publisher.next_absent] at row
    cases row
  exact ⟨onMessage, by rw [if_neg old]; exact row⟩

theorem wired_unsubscribe (wired : tables.Wired) : (tables.unsubscribe userId).Wired := by
  unfold unsubscribe
  cases mine : tables.userSubscriptions.get? userId with
  | none => exact wired
  | some subscription =>
    intro other id found
    rw [get_delete] at found
    split at found
    · cases found
    rename_i different
    obtain ⟨onMessage, row⟩ := wired other id found
    obtain ⟨mineMessage, mineRow⟩ := wired userId subscription mine
    have apart : id ≠ subscription := by
      rintro rfl
      rw [row] at mineRow
      cases mineRow
      exact different rfl
    exact ⟨onMessage, by rw [Subject.unsubscribe_get, if_neg apart]; exact row⟩

theorem wired_step (wired : tables.Wired) {op : EngineOp} : (tables.step now op).Wired := by
  refine step_rule (motive := Tables.Wired) tables now (fun _ _ _ _ found => by cases found) fun next shift => ?_
  cases shift with
  | hosted userId assigns onMessage => exact @wired_host (tables.list userId assigns) wired ⟨userId, onMessage⟩
  | admitted _ _ _ admitted =>
    rw [admitted_frame now admitted]
    exact wired
  | evicted userId => exact @wired_unsubscribe (tables.forget userId) userId wired
  | left =>
    rw [untrack_frame]
    exact wired
  | ticked =>
    rw [drop_all_frame]
    exact wired
  | _ => exact wired

end Tables

namespace ChannelEngine

def Reachable (endpointId name : String) (backend : DistributedBackend) (engine : ChannelEngine) : Prop :=
  ∃ labels, engine = run stepAt (.new endpointId name backend.nodeId (some backend)) labels

variable {backend : DistributedBackend} {engine : ChannelEngine} {endpointId : String}

theorem reachable_wired {name : String} (reached : engine.Reachable endpointId name backend) : engine.tables.Wired := by
  obtain ⟨labels, rfl⟩ := reached
  refine run_keeps stepAt (fun _ _ => True) (fun engine => engine.tables.Wired) ?_ _ labels ?_
    (follows_all stepAt _ _ labels fun _ _ => trivial)
  · intro engine label wired _
    rw [stepAt, tables_act]
    exact Tables.wired_step wired
  · intro userId id found
    cases found

theorem reachable_backend {name : String} (reached : engine.Reachable endpointId name backend) :
    engine.backend = some backend := by
  obtain ⟨labels, rfl⟩ := reached
  refine run_keeps stepAt (fun _ _ => True) (fun engine => engine.tables.backend = some backend) ?_ _ labels rfl
    (follows_all stepAt _ _ labels fun _ _ => trivial)
  intro engine label backed _
  rw [stepAt, tables_act, (Tables.outline_step engine.tables label.1 label.2).backend, backed]

end ChannelEngine

end PondSocket.Js
