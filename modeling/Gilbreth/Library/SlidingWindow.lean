import Mathlib

/-!
# Counting inside a sliding window

Stamps arrive in order. A queue takes each in at the back and gives up from the front what
the window no longer reaches. Some window holds a number of stamps exactly when the queue
held as many after one of the arrivals.
-/

set_option autoImplicit false

namespace SlidingWindow

variable {Stamp : Type*} [LinearOrder Stamp]

/-- The queue after one arrival; `reach now` is the oldest stamp a window ending now holds. -/
def arrive (reach : Stamp → Stamp) (queue : List Stamp) (now : Stamp) : List Stamp :=
  (queue ++ [now]).dropWhile fun stamp => decide (stamp < reach now)

def queueAfter (reach : Stamp → Stamp) (stamps : List Stamp) : List Stamp :=
  stamps.foldl (arrive reach) []

/-- The stamps inside the window that ends at a stamp. -/
def inside (reach : Stamp → Stamp) (stamps : List Stamp) (ends : Stamp) : List Stamp :=
  stamps.filter fun stamp => decide (reach ends ≤ stamp) && decide (stamp ≤ ends)

variable {reach : Stamp → Stamp}

theorem drop_while_sorted {stamps : List Stamp} (sorted : stamps.Pairwise (· ≤ ·))
    (least : Stamp) :
    stamps.dropWhile (fun stamp => decide (stamp < least)) =
      stamps.filter fun stamp => decide (least ≤ stamp) := by
  induction stamps with
  | nil => rfl
  | cons stamp stamps induction =>
      have ⟨first, rest⟩ := List.pairwise_cons.mp sorted
      by_cases old : stamp < least
      · rw [List.dropWhile_cons_of_pos (by simpa using old),
          List.filter_cons_of_neg (by simpa using old), induction rest]
      · have kept : stamps.filter (fun stamp => decide (least ≤ stamp)) = stamps := by
          apply List.filter_eq_self.mpr
          intro later member
          exact decide_eq_true ((not_lt.mp old).trans (first later member))
        rw [List.dropWhile_cons_of_neg (by simpa using old),
          List.filter_cons_of_pos (by simpa using old), kept]

theorem queue_after_concat (grows : Monotone reach) (stamps : List Stamp) (now : Stamp)
    (sorted : (stamps ++ [now]).Pairwise (· ≤ ·)) :
    queueAfter reach (stamps ++ [now]) =
      (stamps ++ [now]).filter fun stamp => decide (reach now ≤ stamp) := by
  induction stamps using List.reverseRecOn generalizing now with
  | nil => exact drop_while_sorted sorted (reach now)
  | append_singleton stamps last induction =>
      have both := List.pairwise_append.mp sorted
      have ordered : last ≤ now := both.2.2 last (by simp) now (by simp)
      have before := induction last both.1
      rw [queueAfter, List.foldl_append, List.foldl_cons, List.foldl_nil]
      change arrive reach (queueAfter reach (stamps ++ [last])) now = _
      have thinned : ∀ list : List Stamp,
          (list.filter fun stamp => decide (reach last ≤ stamp)).filter
            (fun stamp => decide (reach now ≤ stamp)) =
          list.filter fun stamp => decide (reach now ≤ stamp) := by
        intro list
        rw [List.filter_filter]
        apply List.filter_congr
        intro stamp _
        by_cases within : reach now ≤ stamp
        · simp [within, (grows ordered).trans within]
        · simp [within]
      rw [before, arrive, drop_while_sorted]
      · rw [List.filter_append, thinned, ← List.filter_append]
      · exact List.Pairwise.sublist (List.Sublist.append List.filter_sublist (List.Sublist.refl _))
          sorted

theorem crowded_iff (grows : Monotone reach) {stamps : List Stamp}
    (sorted : stamps.Pairwise (· ≤ ·)) {many : Nat} (some : 0 < many) :
    (∃ before, before <+: stamps ∧ many ≤ (queueAfter reach before).length) ↔
      ∃ ends, many ≤ (inside reach stamps ends).length := by
  constructor
  · rintro ⟨before, initial, crowded⟩
    cases before using List.reverseRecOn with
    | nil => exact absurd crowded (by simp [queueAfter]; omega)
    | append_singleton before now =>
        have ⟨rest, whole⟩ := initial
        have sortedBefore : (before ++ [now]).Pairwise (· ≤ ·) := sorted.sublist initial.sublist
        rw [queue_after_concat grows before now sortedBefore] at crowded
        refine ⟨now, crowded.trans ?_⟩
        have upper : ∀ stamp ∈ before ++ [now], stamp ≤ now := by
          intro stamp member
          cases List.mem_append.mp member with
          | inl earlier =>
              exact (List.pairwise_append.mp sortedBefore).2.2 stamp earlier now (by simp)
          | inr last => rw [List.mem_singleton.mp last]
        have same : (before ++ [now]).filter (fun stamp => decide (reach now ≤ stamp)) =
            inside reach (before ++ [now]) now := by
          apply List.filter_congr
          intro stamp member
          simp [upper stamp member]
        rw [same, ← whole]
        exact ((List.sublist_append_left (before ++ [now]) rest).filter _).length_le
  · rintro ⟨ends, crowded⟩
    have nonempty : inside reach stamps ends ≠ [] := by
      intro none
      rw [none] at crowded
      simp at crowded
      omega
    -- The last stamp of the window is the arrival after which the queue was as long.
    have ⟨listed, last, within⟩ : ∃ listed last, inside reach stamps ends = listed ++ [last] :=
      ⟨_, _, (List.dropLast_concat_getLast nonempty).symm⟩
    have ⟨before, after, whole, first, second⟩ := List.filter_eq_append_iff.mp within
    have ⟨skipped, later, tail, _, inWindow, _⟩ := List.filter_eq_cons_iff.mp second
    rw [Bool.and_eq_true, decide_eq_true_iff, decide_eq_true_iff] at inWindow
    have initial : (before ++ skipped) ++ [last] <+: stamps := ⟨later, by simp [whole, tail]⟩
    refine ⟨(before ++ skipped) ++ [last], initial, crowded.trans ?_⟩
    rw [queue_after_concat grows _ _ (sorted.sublist initial.sublist), within, ← first,
      List.length_append, List.filter_append, List.length_append, ← List.countP_eq_length_filter,
      ← List.countP_eq_length_filter]
    apply Nat.add_le_add
    · refine (List.countP_mono_left ?_).trans ((List.sublist_append_left before skipped).countP_le)
      intro stamp _ isInside
      rw [Bool.and_eq_true, decide_eq_true_iff, decide_eq_true_iff] at isInside
      exact decide_eq_true ((grows inWindow.2).trans isInside.1)
    · simp [(grows inWindow.2).trans inWindow.1]

end SlidingWindow
