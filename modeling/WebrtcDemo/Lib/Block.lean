import Mathlib.Tactic.Common

/-!
# Blocks of memory

A block is an allocation: its size, and what its cells hold. A read outside of it gives
nothing, and a copy that would leave one of its two blocks is not defined.

A plane is what a block holds from some cell on, row after row. Two readers of a plane
that count its rows by different pitches agree only where there is nothing to disagree
about (`pitches_agree_iff`), whatever the cells hold (`reads_agree_iff`).
-/

structure Block (α : Type*) where
  size : Nat
  cell : Nat → α

namespace Block

variable {α : Type*}

def read (b : Block α) (i : Nat) : Option α := if i < b.size then some (b.cell i) else none

/-- C's `memcpy` of the first `n` cells of `src`, to the cell `start` of `dst`. -/
def copy (dst : Block α) (start : Nat) (src : Block α) (n : Nat) : Option (Block α) :=
  if n ≤ src.size ∧ start + n ≤ dst.size then
    some { dst with
      cell := fun i => if start ≤ i ∧ i < start + n then src.cell (i - start) else dst.cell i }
  else none

/-- What a block holds from a cell on. -/
def drop (b : Block α) (start : Nat) : Block α := ⟨b.size - start, fun i => b.cell (start + i)⟩

section
variable {dst src b : Block α} {start n i : Nat}

@[simp] theorem read_of_lt (inside : i < b.size) : b.read i = some (b.cell i) := if_pos inside

@[simp] theorem read_of_le (outside : b.size ≤ i) : b.read i = none :=
  if_neg (Nat.not_lt.2 outside)

theorem read_eq_some_iff {x : α} : b.read i = some x ↔ i < b.size ∧ b.cell i = x := by
  rw [read]
  split_ifs with inside <;> simp [inside]

theorem copy_isSome_iff :
    (dst.copy start src n).isSome ↔ n ≤ src.size ∧ start + n ≤ dst.size := by
  rw [copy]
  split_ifs with fits <;> simp [fits]

/-- What a copy that stays in its blocks gives. -/
theorem copy_of_fits (reads : n ≤ src.size) (writes : start + n ≤ dst.size) :
    dst.copy start src n = some { dst with
      cell := fun i => if start ≤ i ∧ i < start + n then src.cell (i - start) else dst.cell i } :=
  if_pos ⟨reads, writes⟩

end

/-! ## Planes -/

/-- Two pitches lead to the same cells if and only if they are one, or there is at most one
row, or no column. -/
theorem pitches_agree_iff {rows columns p q : Nat} :
    (∀ r < rows, ∀ c < columns, r * p + c = r * q + c) ↔ rows ≤ 1 ∨ columns = 0 ∨ p = q := by
  constructor
  · intro agree
    by_contra differ
    rw [not_or, not_or] at differ
    obtain ⟨two, some_, pitches⟩ := differ
    have second := agree 1 (Nat.lt_of_not_le two) 0 (Nat.pos_of_ne_zero some_)
    simp only [Nat.one_mul, Nat.add_zero] at second
    exact pitches second
  · rintro (few | none | rfl) r row c column
    · obtain rfl : r = 0 := by omega
      simp
    · omega
    · rfl

/-- Two ways to index a memory read the same from whatever it holds if and only if they are
one. -/
theorem reads_agree_iff [Nontrivial α] {rows columns : Nat} {f g : Nat → Nat → Nat} :
    (∀ cell : Nat → α, ∀ r < rows, ∀ c < columns, cell (f r c) = cell (g r c)) ↔
      ∀ r < rows, ∀ c < columns, f r c = g r c := by
  constructor
  · intro agree r row c column
    obtain ⟨x, y, differ⟩ := exists_pair_ne α
    by_contra apart
    have same := agree (fun i => if i = f r c then x else y) r row c column
    simp [Ne.symm apart, differ] at same
  · intro same cell r row c column
    rw [same r row c column]

end Block
