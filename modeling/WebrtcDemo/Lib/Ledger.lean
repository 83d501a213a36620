import Mathlib.Data.List.Basic
import Mathlib.Data.List.Count
import Mathlib.Logic.Function.Basic

/-!
# A ledger of requests and replies

A party issues requests under fresh keys and receives replies that name a key.
The ledger records, for each key still waiting, what is to be done with its
reply. `Ledger.Kept acts pending` says that the history `acts` was kept by the
rules (a key is issued once, only a waiting key is answered, and with what it
was issued for) and ended with the table `pending`.

From the rules alone: no key is answered twice, an answer is always for what was
issued, and the table holds exactly the keys issued and not yet answered.
-/

namespace Ledger

/-- What happens to a ledger whose keys are `κ` and whose entries are `ν`. -/
inductive Act (κ ν : Type*) where
  | issue (key : κ) (entry : ν)
  | answer (key : κ) (entry : ν)

variable {κ ν : Type*} {acts : List (Act κ ν)}

/-- The key of an answer. -/
def Act.answered? : Act κ ν → Option κ
  | .issue _ _ => none
  | .answer key _ => some key

/-- The key of an issue. -/
def Act.issued? : Act κ ν → Option κ
  | .issue key _ => some key
  | .answer _ _ => none

/-- The keys answered in a history, in order and with repetitions. -/
def answered (acts : List (Act κ ν)) : List κ := acts.filterMap Act.answered?

/-- The keys issued in a history. -/
def issued (acts : List (Act κ ν)) : List κ := acts.filterMap Act.issued?

@[simp] theorem answered_issue (key : κ) (entry : ν) :
    answered (acts ++ [.issue key entry]) = answered acts := by
  simp [answered, Act.answered?]

@[simp] theorem answered_answer (key : κ) (entry : ν) :
    answered (acts ++ [.answer key entry]) = answered acts ++ [key] := by
  simp [answered, Act.answered?]

@[simp] theorem issued_issue (key : κ) (entry : ν) :
    issued (acts ++ [.issue key entry]) = issued acts ++ [key] := by
  simp [issued, Act.issued?]

@[simp] theorem issued_answer (key : κ) (entry : ν) :
    issued (acts ++ [.answer key entry]) = issued acts := by
  simp [issued, Act.issued?]

theorem mem_issued {key : κ} {entry : ν} (member : .issue key entry ∈ acts) :
    key ∈ issued acts :=
  List.mem_filterMap.2 ⟨_, member, rfl⟩

variable [DecidableEq κ]

/-- The history `acts` was kept by the rules and left the table `pending`. -/
inductive Kept : List (Act κ ν) → (κ → Option ν) → Prop where
  | empty : Kept [] (fun _ => none)
  | issue {acts pending} (kept : Kept acts pending) (key : κ) (entry : ν)
      (fresh : key ∉ issued acts) :
      Kept (acts ++ [.issue key entry]) (Function.update pending key (some entry))
  | answer {acts pending} (kept : Kept acts pending) (key : κ) (entry : ν)
      (waiting : pending key = some entry) :
      Kept (acts ++ [.answer key entry]) (Function.update pending key none)

variable {pending : κ → Option ν}

/-- What waits after an answer has waited before it, under another key. -/
theorem waits_of_answer {key k : κ} {entry : ν}
    (waits : Function.update pending k none key = some entry) :
    key ≠ k ∧ pending key = some entry := by
  have other : key ≠ k := by
    rintro rfl
    simp at waits
  rw [Function.update_of_ne other] at waits
  exact ⟨other, waits⟩

/-- A waiting key was issued for the entry it waits with. -/
theorem Kept.issue_mem (kept : Kept acts pending) {key : κ} {entry : ν}
    (waits : pending key = some entry) : .issue key entry ∈ acts := by
  induction kept with
  | empty => simp at waits
  | issue _ k e _ ih =>
    by_cases same : key = k
    · subst same
      rw [Function.update_self, Option.some.injEq] at waits
      simp [waits]
    · rw [Function.update_of_ne same] at waits
      simp [ih waits]
  | answer _ k e _ ih =>
    obtain ⟨-, waits⟩ := waits_of_answer waits
    simp [ih waits]

/-- An answer was for what its key was issued for. -/
theorem Kept.issue_of_answer (kept : Kept acts pending) {key : κ} {entry : ν}
    (member : .answer key entry ∈ acts) : .issue key entry ∈ acts := by
  induction kept with
  | empty => simp at member
  | issue _ k e _ ih =>
    rcases List.mem_append.1 member with earlier | last
    · simp [ih earlier]
    · simp at last
  | answer kept k e waiting ih =>
    rcases List.mem_append.1 member with earlier | last
    · simp [ih earlier]
    · obtain ⟨rfl, rfl⟩ : key = k ∧ entry = e := by simpa using last
      simp [kept.issue_mem waiting]

theorem Kept.issued_of_answered (kept : Kept acts pending) {key : κ}
    (member : key ∈ answered acts) : key ∈ issued acts := by
  obtain ⟨act, inActs, isKey⟩ := List.mem_filterMap.1 member
  cases act with
  | issue _ _ => simp [Act.answered?] at isKey
  | answer k e =>
    obtain rfl : k = key := by simpa [Act.answered?] using isKey
    exact mem_issued (kept.issue_of_answer inActs)

/-- A waiting key has not been answered. -/
theorem Kept.unanswered (kept : Kept acts pending) {key : κ} {entry : ν}
    (waits : pending key = some entry) : key ∉ answered acts := by
  induction kept with
  | empty => simp at waits
  | issue kept k e fresh ih =>
    by_cases same : key = k
    · subst same
      rw [answered_issue]
      exact fun already => fresh (kept.issued_of_answered already)
    · rw [Function.update_of_ne same] at waits
      rw [answered_issue]
      exact ih waits
  | answer _ k e _ ih =>
    obtain ⟨other, waits⟩ := waits_of_answer waits
    simp [ih waits, other]

/-- A key that was issued and has not been answered waits, with what it was issued for. -/
theorem Kept.waits_of_issue (kept : Kept acts pending) {key : κ} {entry : ν}
    (member : .issue key entry ∈ acts) (open_ : key ∉ answered acts) :
    pending key = some entry := by
  induction kept with
  | empty => simp at member
  | issue _ k e fresh ih =>
    rw [answered_issue] at open_
    rcases List.mem_append.1 member with earlier | last
    · have other : key ≠ k := by
        rintro rfl
        exact fresh (mem_issued earlier)
      rw [Function.update_of_ne other, ih earlier open_]
    · obtain ⟨rfl, rfl⟩ : key = k ∧ entry = e := by simpa using last
      exact Function.update_self _ _ _
  | answer _ k e _ ih =>
    rw [answered_answer, List.mem_append, List.mem_singleton, not_or] at open_
    rw [Function.update_of_ne open_.2]
    exact ih (by simpa using member) open_.1

/-- **The table holds exactly the keys issued and not yet answered.** -/
theorem Kept.pending_iff (kept : Kept acts pending) {key : κ} {entry : ν} :
    pending key = some entry ↔ .issue key entry ∈ acts ∧ key ∉ answered acts :=
  ⟨fun waits => ⟨kept.issue_mem waits, kept.unanswered waits⟩,
    fun ⟨member, open_⟩ => kept.waits_of_issue member open_⟩

/-- **No key is answered twice.** -/
theorem Kept.answered_nodup (kept : Kept acts pending) : (answered acts).Nodup := by
  induction kept with
  | empty => simp [answered]
  | issue _ k e _ ih => simpa using ih
  | answer kept k e waiting ih =>
    rw [answered_answer]
    have new : k ∉ answered _ := kept.unanswered waiting
    rw [List.nodup_append]
    refine ⟨ih, by simp, ?_⟩
    rintro key already _ isLast rfl
    rw [List.mem_singleton] at isLast
    exact new (isLast ▸ already)

end Ledger
