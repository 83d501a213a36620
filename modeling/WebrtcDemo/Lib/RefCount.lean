import Mathlib.Data.List.Perm.Basic
import Mathlib.Data.List.Count
import Mathlib.Data.List.Nodup

/-!
# Counted references

Objects numbered in the order of their construction, the references held to them,
and the destructions so far: the books of a program that counts references. They
are `Balanced` when only objects that were made are referred to, and every object
made was destroyed exactly once if nothing refers to it, and not at all otherwise.
The operations below keep the books balanced: make an object, hold one more
reference, give a reference up (which destroys the object if it was the last).
A deletion by name destroys the object whatever else refers to it, and keeps the
books balanced exactly when nothing does.
-/

namespace RefCount

/-- How many objects were made, the references held, and the objects destroyed. -/
structure Books where
  made : Nat
  refs : List Nat
  destroyed : List Nat

variable {b : Books} {p : Nat} {rest refs destroyed : List Nat}

structure Balanced (b : Books) : Prop where
  below : ∀ p ∈ b.refs, p < b.made
  settled : ∀ p, b.destroyed.count p = if p < b.made ∧ p ∉ b.refs then 1 else 0

theorem balanced_empty : Balanced ⟨0, [], []⟩ := ⟨by simp, by simp⟩

/-- The order of the books does not matter. -/
theorem Balanced.perm (balanced : Balanced b) (held : refs.Perm b.refs)
    (gone : destroyed.Perm b.destroyed) : Balanced ⟨b.made, refs, destroyed⟩ where
  below p member := balanced.below p (held.mem_iff.1 member)
  settled p := by
    rw [gone.count_eq, balanced.settled]
    simp only [held.mem_iff]

/-- What only changes how often an object is referred to changes nothing. -/
theorem Balanced.refs_iff (balanced : Balanced b) (same : ∀ p, p ∈ refs ↔ p ∈ b.refs) :
    Balanced { b with refs := refs } where
  below p member := balanced.below p ((same p).1 member)
  settled p := by
    rw [balanced.settled]
    simp only [same]

/-- An object is made, and the maker refers to it. -/
theorem Balanced.make (balanced : Balanced b) :
    Balanced ⟨b.made + 1, b.made :: b.refs, b.destroyed⟩ where
  below p member := by
    rcases List.mem_cons.1 member with rfl | before
    · exact Nat.lt_succ_self _
    · exact Nat.lt_succ_of_lt (balanced.below p before)
  settled p := by
    rw [balanced.settled]
    by_cases new : p = b.made
    · simp [new]
    · have older : p < b.made + 1 ↔ p < b.made := by omega
      simp [new, older]

/-- One more reference to an object that is referred to already. -/
theorem Balanced.hold (balanced : Balanced b) (held : p ∈ b.refs) :
    Balanced { b with refs := p :: b.refs } :=
  balanced.refs_iff fun q => by
    constructor
    · intro member
      rcases List.mem_cons.1 member with rfl | before
      · exact held
      · exact before
    · exact List.mem_cons_of_mem p

/-- A reference is given up. The object is destroyed if it was the last. -/
theorem Balanced.release (balanced : Balanced b) (held : b.refs.Perm (p :: rest)) :
    Balanced ⟨b.made, rest, if p ∈ rest then b.destroyed else b.destroyed ++ [p]⟩ where
  below q member := balanced.below q (held.mem_iff.2 (List.mem_cons_of_mem p member))
  settled q := by
    have before := balanced.settled q
    have older := balanced.below p (held.mem_iff.2 List.mem_cons_self)
    simp only [held.mem_iff, List.mem_cons, not_or] at before
    by_cases shared : p ∈ rest
    · have other : q ∉ rest → q ≠ p := fun outside same => outside (same ▸ shared)
      simp only [if_pos shared, before]
      grind
    · simp only [if_neg shared, List.count_append, before]
      by_cases same : q = p
      · subst same
        simp [shared, older]
      · have other : ¬ p = q := fun again => same again.symm
        simp [same, other]

/-- **A deletion by name** keeps the books if and only if nothing else refers to the
object. -/
theorem Balanced.delete_iff (balanced : Balanced b) (held : b.refs.Perm (p :: rest)) :
    Balanced ⟨b.made, rest, b.destroyed ++ [p]⟩ ↔ p ∉ rest := by
  constructor
  · intro after shared
    have once := after.settled p
    simp [shared] at once
  · intro last
    have released := balanced.release held
    rwa [if_neg last] at released

/-- Objects deleted by name one after the other, none of them referred to twice. -/
theorem Balanced.deleteAll {ps : List Nat} (balanced : Balanced b) (held : b.refs.Perm (ps ++ rest))
    (once : (ps ++ rest).Nodup) : Balanced ⟨b.made, rest, b.destroyed ++ ps⟩ := by
  induction ps generalizing b with
  | nil => simpa using balanced.perm held.symm (List.Perm.refl b.destroyed)
  | cons p more ih =>
    obtain ⟨last, once⟩ := List.nodup_cons.1 once
    have deleted := (balanced.delete_iff held).2 last
    have rest := ih deleted (List.Perm.refl _) once
    simpa using rest

/-- Deletions by name, one after the other: each object, and what is referred to besides
at that moment, when `others` is referred to throughout. -/
def deletions (others : List Nat) : List Nat → List (Nat × List Nat)
  | [] => []
  | p :: more => (p, more ++ others) :: deletions others more

/-- None of the objects is deleted while something else refers to it. -/
def Unshared (ds : List (Nat × List Nat)) : Prop := ∀ d ∈ ds, d.1 ∉ d.2

theorem unshared_deletions_iff {others ps : List Nat} :
    Unshared (deletions others ps) ↔ ps.Nodup ∧ ∀ p ∈ ps, p ∉ others := by
  induction ps with
  | nil => simp [Unshared, deletions]
  | cons p more ih =>
    unfold Unshared deletions
    rw [List.forall_mem_cons]
    have rest : (∀ d ∈ deletions others more, d.1 ∉ d.2) ↔ _ := ih
    rw [rest]
    simp only [List.mem_append, not_or, List.nodup_cons, List.forall_mem_cons]
    tauto

/-- When nothing is referred to any more, every object made was destroyed once. -/
theorem Balanced.all_destroyed (balanced : Balanced b) (none : b.refs = []) :
    ∀ p < b.made, b.destroyed.count p = 1 := by
  intro p older
  simp [balanced.settled, none, older]

end RefCount
