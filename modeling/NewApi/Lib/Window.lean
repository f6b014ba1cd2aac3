import Mathlib.Data.List.Basic

/-!
# Bounded queues over a time window

A limiter of `max` events in a time window has to remember the newest `max` times only. `recent`
counts the times in the window, `Keeps` says that a queue holds what is left of a log.
-/

namespace NewApi.Lib.Window

open List

variable {dur max now ltr : Nat} {log que : List Nat}

/-- The number of times in the window that ends now. -/
def recent (duration now : Nat) (log : List Nat) : Nat :=
  log.countP fun time => time ≤ now ∧ now < time + duration

theorem recent_le_of_sublist {pt : List Nat} (h : pt.Sublist log) :
    recent dur now pt ≤ recent dur now log :=
  h.countP_le

theorem recent_append :
    recent dur now (first ++ second) = recent dur now first + recent dur now second :=
  countP_append

theorem recent_eq_zero (h : ∀ tm ∈ log, tm + dur ≤ now) : recent dur now log = 0 := by
  rw [recent, countP_eq_zero]
  intro tm hm hin
  have hou := h tm hm
  have hin := of_decide_eq_true hin
  omega

theorem recent_push_le (hpa : ∀ tm ∈ log, tm ≤ now) (hro : recent dur now log < max)
    (ha : ∀ ltr, recent dur ltr log ≤ max) (ltr : Nat) : recent dur ltr (log ++ [now]) ≤ max := by
  rw [recent_append]
  by_cases hin : now ≤ ltr ∧ ltr < now + dur
  · -- what is in this window was in the window at the moment of the push
    have hs : recent dur ltr log ≤ recent dur now log := by
      refine countP_mono_left fun tm hm hti => ?_
      have hle := hpa tm hm
      have hti := of_decide_eq_true hti
      exact decide_eq_true ⟨hle, by omega⟩
    have hon : recent dur ltr [now] ≤ 1 := countP_le_length
    omega
  have hz : recent dur ltr [now] = 0 := by
    simp [recent, hin]
  have hle := ha ltr
  omega

/-- The queue holds the newest times of the log, and while it has room only times that have left
the window are missing. -/
structure Keeps (duration max now : Nat) (log queue : List Nat) : Prop where
  sorted : log.Pairwise (· ≤ ·)
  past : ∀ time ∈ log, time ≤ now
  length_le : queue.length ≤ max
  kept : ∃ old, log = old ++ queue ∧ (queue.length < max → ∀ time ∈ old, time + duration ≤ now)

namespace Keeps

theorem nil : Keeps dur max now [] [] :=
  ⟨List.Pairwise.nil, forall_mem_nil _, Nat.zero_le _, [], rfl, fun _ => forall_mem_nil _⟩

theorem mono (h : Keeps dur max now log que) (hle : now ≤ ltr) : Keeps dur max ltr log que := by
  obtain ⟨old, hlo, ho⟩ := h.kept
  refine ⟨h.sorted, ?_, h.length_le, old, hlo, ?_⟩
  · exact fun tm hm => Nat.le_trans (h.past tm hm) hle
  · exact fun hro tm hm => Nat.le_trans (ho hro tm hm) hle

theorem old_le (h : Keeps dur max now log que) {old : List Nat} (hlo : log = old ++ que)
    {tm kept : Nat} (ho : tm ∈ old) (hk : kept ∈ que) : tm ≤ kept := by
  have hso := h.sorted
  rw [hlo, pairwise_append] at hso
  exact hso.2.2 tm ho kept hk

theorem recent_queue_of_head {first : Nat} {rs : List Nat} (h : Keeps dur max now log (first :: rs))
    (hin : now < first + dur) : recent dur now (first :: rs) = (first :: rs).length := by
  obtain ⟨old, hlo, -⟩ := h.kept
  have hso := h.sorted
  rw [hlo, pairwise_append] at hso
  rw [recent, countP_eq_length]
  intro tm hm
  have hpa : tm ≤ now := by
    refine h.past tm ?_
    rw [hlo]
    exact mem_append_right _ hm
  have hfi : first ≤ tm := by
    rcases mem_cons.mp hm with rfl | hr
    · exact Nat.le_refl _
    · exact rel_of_pairwise_cons hso.2.1 hr
  exact decide_eq_true ⟨hpa, by omega⟩

theorem recent_le_of_head {first : Nat} {rs : List Nat} (h : Keeps dur max now log (first :: rs))
    (hou : first + dur ≤ now) : recent dur now log ≤ rs.length := by
  obtain ⟨old, hlo, -⟩ := h.kept
  have hz : recent dur now (old ++ [first]) = 0 := by
    refine recent_eq_zero fun tm hm => ?_
    rcases mem_append.mp hm with ho | hfi
    · have hle := h.old_le hlo ho mem_cons_self
      omega
    · rw [mem_singleton.mp hfi]
      exact hou
  have hsp : log = (old ++ [first]) ++ rs := by
    rw [hlo, append_assoc, singleton_append]
  rw [hsp, recent_append, hz, Nat.zero_add]
  exact countP_le_length

section

variable (h : Keeps dur max now log que)
include h

theorem full_iff (hma : 0 < max) :
    max ≤ recent dur now log ↔ max ≤ que.length ∧ now < que.headD 0 + dur := by
  obtain ⟨old, hlo, ho⟩ := h.kept
  have hcn : recent dur now log = recent dur now old + recent dur now que := by
    rw [hlo, recent_append]
  have hqu : recent dur now que ≤ que.length := countP_le_length
  by_cases hro : que.length < max
  · have hz := recent_eq_zero (ho hro)
    constructor
    · intro hfu
      omega
    · rintro ⟨hl, -⟩
      omega
  cases que with
  | nil => exact absurd hma hro
  | cons first rs =>
    have hl := h.length_le
    rw [length_cons] at hl hro
    by_cases hin : now < first + dur
    · have ha := h.recent_queue_of_head hin
      rw [length_cons] at ha ⊢
      exact iff_of_true (by omega) ⟨by omega, hin⟩
    · have hle := h.recent_le_of_head (Nat.le_of_not_lt hin)
      exact iff_of_false (by omega) fun hbo => hin hbo.2

theorem push (hma : 0 < max) :
    Keeps dur max now (log ++ [now]) ((if que.length < max then que else que.tail) ++ [now]) := by
  obtain ⟨old, hlo, ho⟩ := h.kept
  have hso : (log ++ [now]).Pairwise (· ≤ ·) := by
    rw [pairwise_append]
    refine ⟨h.sorted, pairwise_singleton _ _, fun tm hm other hot => ?_⟩
    rw [mem_singleton.mp hot]
    exact h.past tm hm
  have hpa : ∀ tm ∈ log ++ [now], tm ≤ now := by
    intro tm hm
    rcases mem_append.mp hm with hlo | hla
    · exact h.past tm hlo
    · exact Nat.le_of_eq (mem_singleton.mp hla)
  by_cases hro : que.length < max
  · rw [if_pos hro]
    refine ⟨hso, hpa, ?_, old, ?_, fun _ => ho hro⟩
    · rw [length_append, length_singleton]
      exact hro
    · rw [hlo, append_assoc]
  rw [if_neg hro]
  cases que with
  | nil => exact absurd hma hro
  | cons first rs =>
    have hl := h.length_le
    rw [length_cons] at hl hro
    refine ⟨hso, hpa, ?_, old ++ [first], ?_, fun hle => ?_⟩
    · simpa using hl
    · rw [hlo]
      simp
    · -- the queue is full again
      rw [tail_cons, length_append, length_singleton] at hle
      omega

theorem clear (hst : ∀ tm ∈ que, tm + dur ≤ now) : Keeps dur max now log [] := by
  obtain ⟨old, hlo, ho⟩ := h.kept
  refine ⟨h.sorted, h.past, Nat.zero_le _, log, (append_nil log).symm, fun hma => ?_⟩
  intro tm hm
  rw [hlo] at hm
  rcases mem_append.mp hm with hol | hqu
  · by_cases hro : que.length < max
    · exact ho hro tm hol
    cases que with
    | nil => exact absurd hma hro
    | cons first rs =>
      have hle := h.old_le hlo hol mem_cons_self
      have hfi := hst first mem_cons_self
      omega
  · exact hst tm hqu

end

end Keeps

end NewApi.Lib.Window
