import Mathlib.Data.List.Basic
import MutationTesting.Proofs.Scheduler.Ending

/-! What has been so ever since something happened in a run. -/
namespace MutationTesting.Scheduler

variable {sched : Scheduler} {start s t : State} {a : Action}

/-- A move writes one event into the history at most. -/
theorem Move.history (m : Move sched s a t) :
    t.history = s.history ∨ ∃ e, t.history = s.history ++ [e] := by
  cases m with
  | close => exact .inl rfl
  | stop => exact .inl rfl
  | begin => exact .inl rfl
  | conclude => exact .inl rfl
  | _ => exact .inr ⟨_, rfl⟩

private theorem snoc_eq_append_cons {α : Type} {xs before rest : List α} {x mark : α}
    (h : xs ++ [x] = before ++ mark :: rest) :
    (rest = [] ∧ x = mark ∧ xs = before) ∨
      ∃ middle, rest = middle ++ [x] ∧ xs = before ++ mark :: middle := by
  rcases List.eq_nil_or_concat rest with rfl | ⟨middle, last, rfl⟩
  · obtain ⟨rfl, same⟩ := List.append_inj' h rfl
    exact .inl ⟨rfl, List.singleton_inj.mp same, rfl⟩
  · have split : xs ++ [x] = (before ++ mark :: middle) ++ [last] := by
      rw [h]
      simp
    obtain ⟨rfl, same⟩ := List.append_inj' split rfl
    obtain rfl := List.singleton_inj.mp same
    exact .inr ⟨middle, List.concat_eq_append .., rfl⟩

/-- What is so as soon as an event has happened, and is kept by every move after it, is so after
every such event of a run. `Q before s rest` may speak of what happened before the event, of the
state and of what has happened since. -/
theorem Reachable.since (mark : Event) (Q : History → State → History → Prop)
    (run : Reachable sched start s) (empty : start.history = [])
    (begins : ∀ {s t a}, Reachable sched start s → Move sched s a t →
      t.history = s.history ++ [mark] → Q s.history t [])
    (keeps : ∀ {s t a before rest}, Reachable sched start s → Move sched s a t →
      s.history = before ++ mark :: rest → Q before s rest →
      ∀ more, t.history = s.history ++ more → Q before t (rest ++ more)) :
    ∀ before rest, s.history = before ++ mark :: rest → Q before s rest := by
  induction run with
  | start =>
    intro before rest split
    rw [empty] at split
    simp at split
  | @step s t a reached step ih =>
    intro before rest split
    have m := move_of_step? step
    rcases m.history with same | ⟨e, next⟩
    · have kept := keeps reached m (same ▸ split) (ih before rest (same ▸ split)) []
        (by rw [same, List.append_nil])
      rwa [List.append_nil] at kept
    · rw [next] at split
      rcases snoc_eq_append_cons split with ⟨rfl, rfl, rfl⟩ | ⟨middle, rfl, earlier⟩
      · exact begins reached m next
      · exact keeps reached m earlier (ih before middle earlier) [e] next

end MutationTesting.Scheduler
