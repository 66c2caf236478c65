/-
  Cutting a list into pieces: at a separator, which is dropped, and after a fixed number of
  elements. Neither loses anything else: the pieces put together again are the list.
-/

namespace CertRenewal.Pieces

variable {α : Type}

/-! ## At a separator -/

section Separator

variable [DecidableEq α]

/-- The pieces of a list between the places where `sep` stands; there is one more than that. -/
def splitAt (sep : α) : List α → List (List α)
  | [] => [[]]
  | x :: l =>
    if x = sep then [] :: splitAt sep l
    else match splitAt sep l with
      | [] => [[x]]
      | piece :: pieces => (x :: piece) :: pieces

/-- Pieces joined by a separator. -/
def joinWith (sep : α) : List (List α) → List α
  | [] => []
  | [piece] => piece
  | piece :: pieces => piece ++ sep :: joinWith sep pieces

theorem splitAt_ne_nil (sep : α) (l : List α) : splitAt sep l ≠ [] := by
  cases l with
  | nil => simp [splitAt]
  | cons x l =>
    unfold splitAt
    split
    · simp
    · split <;> simp

theorem joinWith_splitAt (sep : α) (l : List α) : joinWith sep (splitAt sep l) = l := by
  induction l with
  | nil => rfl
  | cons x l ih =>
    have hne := splitAt_ne_nil sep l
    unfold splitAt
    split
    · rename_i hx
      cases hs : splitAt sep l with
      | nil => exact absurd hs hne
      | cons piece pieces =>
        rw [hs] at ih
        simp [joinWith, ih, hx]
    · cases hs : splitAt sep l with
      | nil => exact absurd hs hne
      | cons piece pieces =>
        rw [hs] at ih
        cases pieces <;> simp_all [joinWith]

/-- A list without the separator is one piece. -/
theorem splitAt_of_not_mem {sep : α} {l : List α} (h : sep ∉ l) : splitAt sep l = [l] := by
  induction l with
  | nil => rfl
  | cons x l ih =>
    rw [List.mem_cons, not_or] at h
    rw [splitAt, if_neg (Ne.symm h.1), ih h.2]

/-- A separator parts the pieces in front of it from those behind it. -/
theorem splitAt_append (sep : α) (l m : List α) :
    splitAt sep (l ++ sep :: m) = splitAt sep l ++ splitAt sep m := by
  induction l with
  | nil =>
    show splitAt sep (sep :: m) = [] :: splitAt sep m
    rw [splitAt, if_pos rfl]
  | cons x l ih =>
    rw [List.cons_append, splitAt, ih]
    by_cases hx : x = sep
    · rw [if_pos hx, splitAt, if_pos hx, List.cons_append]
    · rw [if_neg hx, splitAt, if_neg hx]
      cases hs : splitAt sep l with
      | nil => exact absurd hs (splitAt_ne_nil sep l)
      | cons piece pieces => rfl

/-- The first piece ends at the first separator. -/
theorem splitAt_append_cons {sep : α} {piece : List α} (h : sep ∉ piece) (l : List α) :
    splitAt sep (piece ++ sep :: l) = piece :: splitAt sep l := by
  rw [splitAt_append, splitAt_of_not_mem h]
  rfl

end Separator

theorem joinWith_cons (sep : α) (piece : List α) {pieces : List (List α)} (h : pieces ≠ []) :
    joinWith sep (piece :: pieces) = piece ++ sep :: joinWith sep pieces := by
  cases pieces with
  | nil => exact absurd rfl h
  | cons next pieces => rfl

/-! ## By length -/

/-- The pieces of `size + 1` elements of a list; the last one may be shorter. -/
def chunks (size : Nat) (l : List α) : List (List α) :=
  match l with
  | [] => []
  | x :: rest => (x :: rest.take size) :: chunks size (rest.drop size)
termination_by l.length
decreasing_by simp only [List.length_drop, List.length_cons]; omega

@[simp] theorem chunks_nil (size : Nat) : chunks size ([] : List α) = [] := by rw [chunks]

theorem flatten_chunks (size : Nat) (l : List α) : (chunks size l).flatten = l := by
  fun_induction chunks size l with
  | case1 => rfl
  | case2 x rest ih => simp [ih]

end CertRenewal.Pieces
