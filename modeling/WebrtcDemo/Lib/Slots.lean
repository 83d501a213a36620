import Mathlib.Data.List.Perm.Basic
import Mathlib.Data.List.Nodup

/-!
# Slots and their occupants

A row of slots, each with an occupant, where one value stands for nobody: a slot
whose occupant is `vacant` is free. A newcomer gets the first free slot
(`occupy`), a leaver frees the first slot it has (`free`), and in a `fresh` row all
are free. Neither changes the slots themselves. What matters of the row is its `occupants`,
nobody left out: a newcomer joins them if there was room, a leaver is struck out
once, and a row where nobody has two slots is one whose occupants are `Nodup`.

The occupant `vacant` is nobody: to give a slot to it, or to take one from it,
changes no occupant.
-/

namespace Slots

variable {σ κ : Type*} [DecidableEq κ] (vacant : κ)

/-- Give the first free slot to `k`: the row after, and the slot given. -/
def occupy (k : κ) : List (σ × κ) → List (σ × κ) × Option σ
  | [] => ([], none)
  | (slot, occupant) :: more =>
    if occupant = vacant then ((slot, k) :: more, some slot)
    else
      let (more, given) := occupy k more
      ((slot, occupant) :: more, given)

/-- The first slot that is free. -/
def firstFree (row : List (σ × κ)) : Option σ := (row.find? (·.2 = vacant)).map Prod.fst

/-- Free the first slot of `k`. -/
def free (k : κ) : List (σ × κ) → List (σ × κ)
  | [] => []
  | (slot, occupant) :: more =>
    if occupant = k then (slot, vacant) :: more else (slot, occupant) :: free k more

/-- The row in which every slot is free. -/
def fresh (slots : List σ) : List (σ × κ) := slots.map fun slot => (slot, vacant)

/-- Who has a slot, in the order of the slots. -/
def occupants (row : List (σ × κ)) : List κ := (row.map Prod.snd).filter (· ≠ vacant)

section
variable {vacant} {k h : κ} {slot w : σ} {row : List (σ × κ)}

/-! ## The slots stay -/

theorem occupy_slots (k : κ) (row : List (σ × κ)) :
    (occupy vacant k row).1.map Prod.fst = row.map Prod.fst := by
  induction row with
  | nil => rfl
  | cons entry more ih =>
    unfold occupy
    split_ifs
    · rfl
    · simpa using ih

theorem free_slots (k : κ) (row : List (σ × κ)) :
    (free vacant k row).map Prod.fst = row.map Prod.fst := by
  induction row with
  | nil => rfl
  | cons entry more ih =>
    unfold free
    split_ifs
    · rfl
    · simpa using ih

omit [DecidableEq κ] in
theorem fresh_slots (slots : List σ) : (fresh vacant slots).map Prod.fst = slots := by
  unfold fresh
  rw [List.map_map]
  exact List.map_id slots

/-! ## Who has a slot -/

theorem mem_occupants : h ∈ occupants vacant row ↔ h ≠ vacant ∧ ∃ slot, (slot, h) ∈ row := by
  simp [occupants, and_comm]

theorem vacant_notMem : vacant ∉ occupants vacant row :=
  fun member => (mem_occupants.1 member).1 rfl

theorem count_occupants (somebody : h ≠ vacant) :
    (occupants vacant row).count h = row.countP fun entry => entry.2 = h := by
  unfold occupants
  rw [List.count_filter (by simpa using somebody), List.count, List.countP_map]
  rfl

theorem occupants_cons (entry : σ × κ) (more : List (σ × κ)) :
    occupants vacant (entry :: more) =
      if entry.2 = vacant then occupants vacant more else entry.2 :: occupants vacant more := by
  by_cases nobody : entry.2 = vacant <;> simp [occupants, nobody]

theorem occupants_fresh (slots : List σ) : occupants vacant (fresh vacant slots) = [] := by
  unfold occupants
  rw [List.filter_eq_nil_iff]
  intro occupant member
  obtain ⟨_, _, rfl⟩ : ∃ slot ∈ slots, vacant = occupant := by simpa [fresh] using member
  simp

/-- Where there was no free slot, nothing happened. -/
theorem occupy_full (full : (occupy vacant k row).2 = none) : (occupy vacant k row).1 = row := by
  induction row with
  | nil => rfl
  | cons entry more ih =>
    unfold occupy at full ⊢
    split_ifs at full ⊢ with nobody
    exact congrArg (entry :: ·) (ih full)

/-- A slot for nobody is a free slot. -/
theorem occupy_vacant (row : List (σ × κ)) : (occupy vacant vacant row).1 = row := by
  induction row with
  | nil => rfl
  | cons entry more ih =>
    obtain ⟨slot, occupant⟩ := entry
    unfold occupy
    split_ifs with nobody
    · subst nobody
      rfl
    · exact congrArg ((slot, occupant) :: ·) ih

/-- A newcomer who is given a slot joins the occupants. -/
theorem occupants_occupy (somebody : k ≠ vacant) (given : (occupy vacant k row).2 = some slot) :
    (occupants vacant (occupy vacant k row).1).Perm (k :: occupants vacant row) := by
  induction row with
  | nil => simp [occupy] at given
  | cons entry more ih =>
    obtain ⟨first, occupant⟩ := entry
    unfold occupy at given ⊢
    split_ifs at given ⊢ with nobody
    · simp [occupants_cons, somebody, nobody]
    · have later := ih given
      simp only [occupants_cons, nobody, if_false]
      exact (later.cons occupant).trans (List.Perm.swap k occupant _)

/-- A leaver is struck out once. -/
theorem occupants_free (k : κ) (row : List (σ × κ)) :
    occupants vacant (free vacant k row) = (occupants vacant row).erase k := by
  induction row with
  | nil => rfl
  | cons entry more ih =>
    obtain ⟨slot, occupant⟩ := entry
    unfold free
    by_cases leaves : occupant = k
    · subst leaves
      by_cases nobody : occupant = vacant
      · subst nobody
        simp [occupants_cons, List.erase_of_not_mem vacant_notMem]
      · simp [occupants_cons, nobody]
    · rw [if_neg leaves]
      by_cases nobody : occupant = vacant
      · simp [occupants_cons, nobody, ih]
      · have other : ¬ (occupant == k) = true := by simpa using leaves
        simp [occupants_cons, nobody, ih, List.erase_cons_tail other]

/-- Who has no slot, or is nobody, has none to free. -/
theorem free_others (outside : k ∉ occupants vacant row) :
    (row.map fun entry => if entry.2 = k then (entry.1, vacant) else entry) = row := by
  conv_rhs => rw [← List.map_id row]
  refine List.map_congr_left fun entry member => ?_
  split_ifs with leaves
  · have nobody : k = vacant := by
      by_contra somebody
      exact outside (mem_occupants.2 ⟨somebody, entry.1, leaves ▸ member⟩)
    rw [← nobody, ← leaves]
    rfl
  · rfl

/-- Where nobody has two slots, every slot of the leaver is freed. -/
theorem free_eq_map (once : (occupants vacant row).Nodup) :
    free vacant k row = row.map fun entry => if entry.2 = k then (entry.1, vacant) else entry := by
  induction row with
  | nil => rfl
  | cons entry more ih =>
    obtain ⟨slot, occupant⟩ := entry
    rw [occupants_cons] at once
    unfold free
    rw [List.map_cons]
    split_ifs with leaves
    · subst leaves
      refine congrArg (_ :: ·) (free_others ?_).symm
      split_ifs at once with nobody
      · exact nobody ▸ vacant_notMem
      · exact (List.nodup_cons.1 once).1
    · refine congrArg (_ :: ·) (ih ?_)
      split_ifs at once
      · exact once
      · exact (List.nodup_cons.1 once).2

/-! ## Which slot -/

/-- The slot given is one that was free, and it is the newcomer's after. -/
theorem occupy_given (given : (occupy vacant k row).2 = some slot) :
    (slot, vacant) ∈ row ∧ (slot, k) ∈ (occupy vacant k row).1 := by
  induction row with
  | nil => simp [occupy] at given
  | cons entry more ih =>
    obtain ⟨first, occupant⟩ := entry
    unfold occupy at given ⊢
    split_ifs at given ⊢ with nobody
    · obtain rfl : first = slot := Option.some.inj given
      exact ⟨nobody ▸ List.mem_cons_self, List.mem_cons_self⟩
    · obtain ⟨before, after⟩ := ih given
      exact ⟨List.mem_cons_of_mem _ before, List.mem_cons_of_mem _ after⟩

/-- The first free slot is the one given, whoever comes. -/
theorem occupy_firstFree (k : κ) (row : List (σ × κ)) :
    (occupy vacant k row).2 = firstFree vacant row := by
  induction row with
  | nil => rfl
  | cons entry more ih =>
    unfold occupy firstFree
    by_cases nobody : entry.2 = vacant
    · simp [nobody]
    · rw [List.find?_cons_of_neg (by simpa using nobody)]
      simp only [nobody, if_false]
      exact ih

/-- Every other entry stays. -/
theorem mem_occupy_of_ne (member : (w, h) ∈ row) (other : (occupy vacant k row).2 ≠ some w) :
    (w, h) ∈ (occupy vacant k row).1 := by
  induction row with
  | nil => exact member
  | cons entry more ih =>
    obtain ⟨first, occupant⟩ := entry
    unfold occupy at other ⊢
    split_ifs at other ⊢ with nobody
    · rcases List.mem_cons.1 member with same | later
      · obtain rfl : w = first := congrArg Prod.fst same
        exact absurd rfl other
      · exact List.mem_cons_of_mem _ later
    · rcases List.mem_cons.1 member with same | later
      · exact same ▸ List.mem_cons_self
      · exact List.mem_cons_of_mem _ (ih later other)

theorem mem_free_of_ne (member : (w, h) ∈ row) (other : h ≠ k) : (w, h) ∈ free vacant k row := by
  induction row with
  | nil => exact member
  | cons entry more ih =>
    obtain ⟨first, occupant⟩ := entry
    unfold free
    split_ifs with leaves
    · rcases List.mem_cons.1 member with same | later
      · obtain rfl : h = occupant := congrArg Prod.snd same
        exact absurd leaves other
      · exact List.mem_cons_of_mem _ later
    · rcases List.mem_cons.1 member with same | later
      · exact same ▸ List.mem_cons_self
      · exact List.mem_cons_of_mem _ (ih later)

omit [DecidableEq κ] in
/-- In a row of different slots a slot has one occupant. -/
theorem occupant_unique (different : (row.map Prod.fst).Nodup) (one : (w, h) ∈ row)
    (two : (w, k) ∈ row) : h = k :=
  congrArg Prod.snd (List.inj_on_of_nodup_map different one two rfl)

end

end Slots
