/-
This file proves that days come one after the other: timestamps are in order, later ones are not on an earlier
day, and what lies between two moments of a day is on that day. It also says what it is for a clock not to go
back.
-/

import Community.Proofs.Time.Calendar

namespace Community.Timestamp

theorem le_refl (time : Timestamp) : time ≤ time :=
  Int.le_refl time.nanos

theorem le_trans {first second third : Timestamp} (earlier : first ≤ second)
    (later : second ≤ third) : first ≤ third :=
  Int.le_trans earlier later

/-- A moment between two moments of a day is on that day. -/
theorem date_eq_of_between {first second third : Timestamp} (earlier : first ≤ second)
    (later : second ≤ third) (same : first.date = third.date) : second.date = third.date := by
  have positive : (0 : Int) ≤ nanosPerDay := Int.natCast_nonneg _
  have day := Date.ofDays_injective same
  rw [Int.fdiv_eq_ediv_of_nonneg _ positive, Int.fdiv_eq_ediv_of_nonneg _ positive] at day
  have front := Int.ediv_le_ediv (by decide : (0 : Int) < nanosPerDay) earlier
  have back := Int.ediv_le_ediv (by decide : (0 : Int) < nanosPerDay) later
  unfold date
  rw [Int.fdiv_eq_ediv_of_nonneg _ positive, Int.fdiv_eq_ediv_of_nonneg _ positive]
  exact congrArg Date.ofDays (Int.le_antisymm back (day ▸ front))

end Community.Timestamp

namespace Community

/-! ### Clocks that do not go back -/

section Onward

variable {τ α : Type} [LE τ] {history : List (τ × α)} {time now : τ} {entry : α}

/-- The clock does not go back in the course of a history, nor between its end and now. -/
def Onward (history : List (τ × α)) (now : τ) : Prop :=
  (history.map Prod.fst ++ [now]).Pairwise (· ≤ ·)

instance [DecidableRel fun earlier later : τ => earlier ≤ later] : Decidable (Onward history now) :=
  inferInstanceAs (Decidable (List.Pairwise _ _))

theorem Onward.concat (onward : Onward (history ++ [(time, entry)]) now) :
    Onward history time ∧ time ≤ now := by
  unfold Onward at onward
  rw [List.map_append, List.map_singleton] at onward
  obtain ⟨front, -, before⟩ := List.pairwise_append.1 onward
  exact ⟨front, before time (by simp) now List.mem_cons_self⟩

theorem Onward.le_now (onward : Onward history now) : ∀ step ∈ history, step.1 ≤ now := fun _ member =>
  (List.pairwise_append.1 onward).2.2 _ (List.mem_map_of_mem member) now List.mem_cons_self

theorem Onward.sublist {fewer : List (τ × α)} (onward : Onward history now) (part : fewer.Sublist history) :
    Onward fewer now :=
  List.Pairwise.sublist ((part.map _).append_right _) onward

end Onward

end Community
