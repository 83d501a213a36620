import Mathlib.Data.List.Basic

/-!
# Mailboxes

A mailbox between two parties. What is posted is taken later, in the order in which it
was posted, and nothing is taken twice. The box keeps all that was ever posted, so that
what was received is a part of it.
-/

/-- All that was posted, and how much of it was taken. -/
structure Mailbox (α : Type*) where
  posted : List α := []
  taken : Nat := 0
  within : taken ≤ posted.length := by simp

namespace Mailbox

variable {α : Type*} (m : Mailbox α) {m' : Mailbox α} {a : α}

/-- What was taken so far. -/
def received : List α := m.posted.take m.taken

def post (a : α) : Mailbox α where
  posted := m.posted ++ [a]
  taken := m.taken
  within := Nat.le_trans m.within (by simp)

/-- The next letter, if there is one, and the box without it. -/
def take : Option (α × Mailbox α) :=
  if more : m.taken < m.posted.length then
    some (m.posted[m.taken], { posted := m.posted, taken := m.taken + 1, within := more })
  else none

variable {m}

@[simp] theorem posted_post : (m.post a).posted = m.posted ++ [a] := rfl

@[simp] theorem received_post : (m.post a).received = m.received :=
  List.take_append_of_le_length m.within

/-- Taking is receiving the next. -/
theorem take_eq_some (took : m.take = some (a, m')) :
    m'.posted = m.posted ∧ m'.received = m.received ++ [a] := by
  rw [take] at took
  split_ifs at took with more
  cases took
  exact ⟨rfl, (List.take_append_getElem more).symm⟩

/-- **Letters arrive in order, and once.** -/
theorem received_prefix : m.received <+: m.posted := List.take_prefix _ _

end Mailbox
