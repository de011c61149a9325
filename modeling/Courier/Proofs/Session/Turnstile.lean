import Courier.Session
import Mathlib

/-!
# `Courier.Proofs.Session.Turnstile`: the turnstile as a line

A turnstile is a holder and a queue. What matters about it is the line of everybody who has come
and not left, the holder first: coming appends to the line (`line_enter`), leaving takes out of it
(`line_leave`), and the holder is whoever stands first (`head?_line`). The last needs
`Turnstile.Tidy`: nobody waits in front of an empty turnstile. Both operations keep that.
-/

set_option autoImplicit false

namespace Courier.Turnstile

/-- Everybody who has come and not left: whoever is inside, then the queue. -/
def line (g : Turnstile) : List Nat := g.holder?.toList ++ g.waiting

/-- Nobody waits in front of an empty turnstile. -/
def Tidy (g : Turnstile) : Prop := g.holder? = none → g.waiting = []

variable {g : Turnstile} {task other : Nat}

/-- The holder is the first of the line. -/
theorem head?_line (h : g.Tidy) : g.line.head? = g.holder? := by
  unfold line
  cases hholder : g.holder? with
  | none => rw [h hholder]; rfl
  | some u => rfl

/-- Nobody is in line if nobody is inside. -/
theorem line_eq_nil_iff (h : g.Tidy) : g.line = [] ↔ g.holder? = none := by
  rw [← head?_line h, List.head?_eq_none_iff]

/-- Without a line nobody is inside, and nobody waits. -/
theorem eq_of_line_eq_nil (h : g.line = []) : g = {} := by
  obtain ⟨holder?, waiting⟩ := g
  obtain ⟨hholder, rfl⟩ := List.append_eq_nil_iff.mp h
  cases holder? with
  | none => rfl
  | some u => exact nomatch hholder

/-- Whoever comes stands at the end of the line. -/
theorem line_enter (h : g.Tidy) (task : Nat) : (g.enter task).line = g.line ++ [task] := by
  unfold enter line
  cases hholder : g.holder? with
  | none => rw [h hholder]; rfl
  | some u => simp

/-- After somebody has come, nobody waits in front of an empty turnstile. -/
theorem tidy_enter (task : Nat) : (g.enter task).Tidy := by
  unfold enter Tidy
  cases hholder : g.holder? with
  | none => intro hnone; cases hnone
  | some u => intro hnone; cases hnone

/-- Whoever comes is inside at once exactly if nobody was. -/
theorem holder?_enter (g : Turnstile) (task : Nat) :
    (g.enter task).holder? = some (g.holder?.getD task) := by
  unfold enter
  cases hholder : g.holder? with
  | none => rfl
  | some u => rfl

/-- Whoever is inside after coming has found the turnstile empty, or has been inside before. -/
theorem holder?_of_enter (h : (g.enter task).holder? = some task) :
    g.holder? = none ∨ g.holder? = some task := by
  rw [holder?_enter] at h
  cases hholder : g.holder? with
  | none => exact .inl rfl
  | some u =>
    rw [hholder] at h
    exact .inr h

/-- Leaving takes the task out of the line, from wherever it stands. -/
theorem line_leave (h : g.line.Nodup) (task : Nat) :
    (g.leave task).line = g.line.filter (· ≠ task) := by
  unfold leave line
  unfold line at h
  cases hholder : g.holder? with
  | none => simp
  | some u =>
    rw [hholder] at h
    obtain ⟨hfirst, -⟩ := List.nodup_cons.mp h
    by_cases hu : u = task
    · -- the holder leaves: the rest of the line is the queue, in which it does not stand again
      subst hu
      have hrest : g.waiting.filter (· ≠ u) = g.waiting :=
        List.filter_eq_self.mpr fun v hv => by
          simpa using fun he : v = u => hfirst (he ▸ hv)
      rw [if_pos rfl, Option.toList_some, List.singleton_append, List.filter_cons_of_neg (by simp),
        hrest]
      cases g.waiting <;> rfl
    · rw [if_neg (by simpa using hu)]
      simp [hu]

/-- Nor after somebody has left, as the next one is inside then. -/
theorem tidy_leave (h : g.Tidy) (task : Nat) : (g.leave task).Tidy := by
  unfold leave Tidy
  split
  · -- the inside is empty only if there was no first of the queue
    cases g.waiting with
    | nil => intro _; rfl
    | cons u rest => intro hnone; cases hnone
  · -- somebody in the queue leaves, and the inside stays as it is
    intro hnone
    dsimp only at hnone ⊢
    rw [h hnone]
    rfl

/-- Whoever is inside stays inside when another one leaves. -/
theorem holder?_leave_of_ne (h : g.holder? = some other) (hne : other ≠ task) :
    (g.leave task).holder? = some other := by
  unfold leave
  rw [h, if_neg (by simpa using hne)]

end Courier.Turnstile
