import Mathlib.Logic.Relation

/-!
# Runs of a deterministic machine

A machine is a total step function on a state and an input. Its runs are folds
over finite input lists, so every property of "all runs" is a property of all
lists. Two ways to look at a run are kept apart: `Along ok` says that each step
was taken under the condition `ok` (checked in the state before the step), and
`Throughout P` says that `P` holds in every state passed, first and last
included. The rules below move between the two. `EachStep` is for conditions on
the history of a step.

A step that does several things is described by relations: `Decomposes` says that
each step is one answer, or a finite sequence of smaller transitions, and
`Decomposes.keeps` turns an invariant of these into an invariant of the step.
-/

namespace Machine

variable {σ ι : Type*} (step : σ → ι → σ)

/-- The state after the inputs `is`. -/
def run (s : σ) (is : List ι) : σ := is.foldl step s

@[simp] theorem run_nil (s : σ) : run step s [] = s := rfl

@[simp] theorem run_cons (s : σ) (i : ι) (is : List ι) :
    run step s (i :: is) = run step (step s i) is := rfl

@[simp] theorem run_append (s : σ) (is js : List ι) :
    run step s (is ++ js) = run step (run step s is) js := by
  simp [run, List.foldl_append]

/-- Every step of the run from `s` is taken under `ok`. -/
def Along (ok : σ → ι → Prop) : σ → List ι → Prop
  | _, [] => True
  | s, i :: is => ok s i ∧ Along ok (step s i) is

/-- Every step of a run is taken under `ok`, which may read all the inputs before it. -/
def EachStep (ok : List ι → ι → Prop) (is : List ι) : Prop :=
  ∀ js i, js ++ [i] <+: is → ok js i

/-- `P` holds in every state of the run from `s`. -/
def Throughout (P : σ → Prop) : σ → List ι → Prop
  | s, [] => P s
  | s, i :: is => P s ∧ Throughout P (step s i) is

variable {step}

@[simp] theorem along_nil {ok : σ → ι → Prop} {s : σ} : Along step ok s [] := trivial

@[simp] theorem along_cons {ok : σ → ι → Prop} {s : σ} {i : ι} {is : List ι} :
    Along step ok s (i :: is) ↔ ok s i ∧ Along step ok (step s i) is := Iff.rfl

theorem along_true {s : σ} (is : List ι) : Along step (fun _ _ => True) s is := by
  induction is generalizing s with
  | nil => trivial
  | cons i is ih => exact ⟨trivial, ih⟩

/-- A condition on the inputs alone. -/
theorem along_inputs {ok : ι → Prop} {s : σ} {is : List ι} :
    Along step (fun _ i => ok i) s is ↔ ∀ i ∈ is, ok i := by
  induction is generalizing s with
  | nil => simp
  | cons i is ih => simp [ih]

theorem along_and {ok ok' : σ → ι → Prop} {s : σ} {is : List ι} :
    Along step (fun s i => ok s i ∧ ok' s i) s is ↔ Along step ok s is ∧ Along step ok' s is := by
  induction is generalizing s with
  | nil => simp
  | cons i is ih => simp only [along_cons, ih, and_and_and_comm]

theorem along_append {ok : σ → ι → Prop} {s : σ} {is js : List ι} :
    Along step ok s (is ++ js) ↔ Along step ok s is ∧ Along step ok (run step s is) js := by
  induction is generalizing s with
  | nil => simp
  | cons i is ih => simp [ih, and_assoc]

/-- Two conditions that are one wherever the invariant `Q` holds. -/
theorem along_congr {Q : σ → Prop} {ok ok' : σ → ι → Prop} {is : List ι}
    (stays : ∀ s i, Q s → Q (step s i)) (same : ∀ s, ∀ i ∈ is, Q s → (ok s i ↔ ok' s i)) {s : σ}
    (always : Q s) : Along step ok s is ↔ Along step ok' s is := by
  induction is generalizing s with
  | nil => exact Iff.rfl
  | cons i is ih =>
    have here := same s i List.mem_cons_self always
    exact and_congr here
      (ih (fun s i member => same s i (List.mem_cons_of_mem _ member)) (stays s i always))

/-- **The simulation rule**: a condition on what `abs` shows of a state is one on the run of
the machine that `abs` leads to. -/
theorem along_simulated {τ : Type*} {step' : τ → ι → τ} {abs : σ → τ} {Q : σ → Prop}
    {ok : τ → ι → Prop} (stays : ∀ s i, Q s → Q (step s i))
    (follows : ∀ s i, Q s → abs (step s i) = step' (abs s) i) {s : σ} {is : List ι}
    (always : Q s) : Along step (fun s i => ok (abs s) i) s is ↔ Along step' ok (abs s) is := by
  induction is generalizing s with
  | nil => exact Iff.rfl
  | cons i is ih =>
    rw [along_cons, along_cons, ih (stays s i always), follows s i always]

/-- A condition on the state before a step is one on the inputs before it. -/
theorem along_iff_eachStep {ok : σ → ι → Prop} {s : σ} {is : List ι} :
    Along step ok s is ↔ EachStep (fun js i => ok (run step s js) i) is := by
  constructor
  · rintro along js i ⟨later, rfl⟩
    rw [List.append_assoc, along_append] at along
    exact along.2.1
  · intro each
    induction is generalizing s with
    | nil => trivial
    | cons i is ih =>
      exact ⟨each [] i ⟨is, rfl⟩, ih fun js j isPrefix =>
        each (i :: js) j (List.cons_prefix_cons.2 ⟨rfl, isPrefix⟩)⟩

/-- Two conditions that are one after all inputs. -/
theorem eachStep_congr {ok ok' : List ι → ι → Prop} (same : ∀ js i, ok js i ↔ ok' js i)
    {is : List ι} : EachStep ok is ↔ EachStep ok' is :=
  forall₃_congr fun js i _ => same js i

theorem Throughout.head {P : σ → Prop} {s : σ} {is : List ι}
    (all : Throughout step P s is) : P s := by
  cases is with
  | nil => exact all
  | cons i is => exact all.1

theorem Throughout.last {P : σ → Prop} {s : σ} {is : List ι}
    (all : Throughout step P s is) : P (run step s is) := by
  induction is generalizing s with
  | nil => exact all
  | cons i is ih => exact ih all.2

theorem Throughout.mono {P Q : σ → Prop} (weaker : ∀ s, P s → Q s) {s : σ} {is : List ι}
    (all : Throughout step P s is) : Throughout step Q s is := by
  induction is generalizing s with
  | nil => exact weaker s all
  | cons i is ih => exact ⟨weaker s all.1, ih all.2⟩

/-- What `P` says of every step holds of the steps of a run through `P`. -/
theorem Throughout.along {P : σ → Prop} {ok : σ → ι → Prop} (gives : ∀ s i, P s → ok s i) {s : σ}
    {is : List ι} (all : Throughout step P s is) : Along step ok s is := by
  induction is generalizing s with
  | nil => trivial
  | cons i is ih => exact ⟨gives s i all.1, ih all.2⟩

/-- The states of a run are the ends of its prefixes. -/
theorem throughout_iff_prefix {P : σ → Prop} {s : σ} {is : List ι} :
    Throughout step P s is ↔ ∀ js, js <+: is → P (run step s js) := by
  induction is generalizing s with
  | nil => simp [Throughout]
  | cons i is ih =>
    simp only [Throughout, ih]
    constructor
    · rintro ⟨here, later⟩ js isPrefix
      cases js with
      | nil => exact here
      | cons j js =>
        obtain ⟨rfl, rest⟩ := List.cons_prefix_cons.1 isPrefix
        exact later js rest
    · intro all
      exact ⟨all [] List.nil_prefix, fun js isPrefix =>
        all (i :: js) (List.cons_prefix_cons.2 ⟨rfl, isPrefix⟩)⟩

/-- **The invariant rule**: what one step under `ok` keeps, a run along `ok`
keeps in every state. -/
theorem throughout_of_keeps {P : σ → Prop} {ok : σ → ι → Prop}
    (keeps : ∀ s i, P s → ok s i → P (step s i)) {s : σ} {is : List ι} (start : P s)
    (along : Along step ok s is) : Throughout step P s is := by
  induction is generalizing s with
  | nil => exact start
  | cons i is ih => exact ⟨start, ih (keeps s i start along.1) along.2⟩

theorem run_keeps {P : σ → Prop} {ok : σ → ι → Prop}
    (keeps : ∀ s i, P s → ok s i → P (step s i)) {s : σ} {is : List ι} (start : P s)
    (along : Along step ok s is) : P (run step s is) :=
  (throughout_of_keeps keeps start along).last

/-- Where `ok` is exactly what a step needs to keep `P` and to do what `post` says, a
run stays in `P` and does so at every step if and only if all its steps are taken
under `ok`. The invariant `Q` may be used to show it. -/
theorem throughout_and_along_iff {P Q : σ → Prop} {ok post : σ → ι → Prop}
    (stays : ∀ s i, Q s → Q (step s i)) {is : List ι}
    (exact_step : ∀ s, ∀ i ∈ is, Q s → P s → (P (step s i) ∧ post s i ↔ ok s i)) {s : σ}
    (always : Q s) (start : P s) :
    Throughout step P s is ∧ Along step post s is ↔ Along step ok s is := by
  induction is generalizing s with
  | nil => simpa [Throughout] using start
  | cons i is ih =>
    have here := exact_step s i List.mem_cons_self always start
    have later := fun s i member => exact_step s i (List.mem_cons_of_mem _ member)
    simp only [Throughout, along_cons, start, true_and]
    constructor
    · rintro ⟨all, done, along⟩
      have next := all.head
      exact ⟨here.1 ⟨next, done⟩, (ih later (stays s i always) next).1 ⟨all, along⟩⟩
    · rintro ⟨taken, along⟩
      obtain ⟨next, done⟩ := here.2 taken
      obtain ⟨all, rest⟩ := (ih later (stays s i always) next).2 along
      exact ⟨all, done, rest⟩

/-- The same where the steps need do nothing but keep `P`. -/
theorem throughout_iff_along {P Q : σ → Prop} {ok : σ → ι → Prop}
    (stays : ∀ s i, Q s → Q (step s i)) {is : List ι}
    (exact_step : ∀ s, ∀ i ∈ is, Q s → P s → (P (step s i) ↔ ok s i)) {s : σ}
    (always : Q s) (start : P s) : Throughout step P s is ↔ Along step ok s is := by
  have nothing : ∀ s, ∀ i ∈ is, Q s → P s → (P (step s i) ∧ True ↔ ok s i) :=
    fun s i member always start =>
      (and_iff_left trivial).trans (exact_step s i member always start)
  exact (and_iff_left (along_true is)).symm.trans
    (throughout_and_along_iff stays nothing always start)

/-- Where a step that ends in `P` must have been taken under `ok`, a run that stays in `P`
is one along `ok`. The invariant `R`, which the steps under `ok` keep, may be used. -/
theorem along_of_throughout {P R : σ → Prop} {ok : σ → ι → Prop} {is : List ι}
    (needed : ∀ s, ∀ i ∈ is, R s → P (step s i) → ok s i)
    (kept : ∀ s, ∀ i ∈ is, R s → ok s i → R (step s i)) {s : σ} (start : R s)
    (all : Throughout step P s is) : Along step ok s is := by
  induction is generalizing s with
  | nil => trivial
  | cons i is ih =>
    have here := needed s i List.mem_cons_self start all.2.head
    refine ⟨here, ih (fun s j member => needed s j (List.mem_cons_of_mem _ member))
      (fun s j member => kept s j (List.mem_cons_of_mem _ member)) ?_ all.2⟩
    exact kept s i List.mem_cons_self start here

/-- A relation on states that only grows from state to state holds between the
two ends of a run. -/
theorem run_related {R : σ → σ → Prop} {ok : σ → ι → Prop} (refl : ∀ s, R s s)
    (trans : ∀ ⦃a b c⦄, R a b → R b c → R a c) (grows : ∀ s i, ok s i → R s (step s i))
    {s : σ} {is : List ι} (along : Along step ok s is) : R s (run step s is) := by
  induction is generalizing s with
  | nil => exact refl s
  | cons i is ih => exact trans (grows s i along.1) (ih along.2)

/-- **The stuttering simulation rule**: two machines that stay related step by step under `ok`
are related after runs along `ok`, where an input may lead to no step of the second one. -/
theorem run_simulates {τ κ : Type*} {step' : τ → κ → τ} (f : ι → Option κ) {R : σ → τ → Prop}
    {ok : σ → ι → Prop}
    (each : ∀ s t i, R s t → ok s i → R (step s i) ((f i).elim t (step' t)))
    {s : σ} {t : τ} {is : List ι} (start : R s t) (along : Along step ok s is) :
    R (run step s is) (run step' t (is.filterMap f)) := by
  induction is generalizing s t with
  | nil => exact start
  | cons i is ih =>
    have next := each s t i start along.1
    rw [List.filterMap_cons]
    cases taken : f i with
    | none =>
      rw [taken] at next
      exact ih next along.2
    | some k =>
      rw [taken] at next
      exact ih next along.2

/-- Each step is one answer `A`, or a finite sequence of transitions `T`; both may
read the input. -/
def Decomposes (step : σ → ι → σ) (A T : ι → σ → σ → Prop) : Prop :=
  ∀ s i, A i s (step s i) ∨ Relation.ReflTransGen (T i) s (step s i)

/-- What every transition keeps, a sequence of them keeps. -/
theorem transitions_keep {T : σ → σ → Prop} {P : σ → Prop} (kept : ∀ ⦃a b⦄, T a b → P a → P b)
    {s s' : σ} (chain : Relation.ReflTransGen T s s') (start : P s) : P s' := by
  induction chain with
  | refl => exact start
  | tail _ last ih => exact kept last ih

/-- **The transition rule**: an invariant of the answers and of the transitions is an
invariant of the step. -/
theorem Decomposes.keeps {A T : ι → σ → σ → Prop} (parts : Decomposes step A T) {P : σ → Prop}
    {i : ι} (answer : ∀ ⦃a b⦄, A i a b → P a → P b) (kept : ∀ ⦃a b⦄, T i a b → P a → P b)
    {s : σ} (start : P s) : P (step s i) := by
  rcases parts s i with one | chain
  · exact answer one start
  · exact transitions_keep kept chain start

/-- The same for a relation between the state before and the state after. -/
theorem Decomposes.related {A T : ι → σ → σ → Prop} (parts : Decomposes step A T)
    {R : σ → σ → Prop} {i : ι} (refl : ∀ s, R s s) (trans : ∀ ⦃a b c⦄, R a b → R b c → R a c)
    (answer : ∀ ⦃a b⦄, A i a b → R a b) (each : ∀ ⦃a b⦄, T i a b → R a b) (s : σ) :
    R s (step s i) := by
  rcases parts s i with one | chain
  · exact answer one
  · exact transitions_keep (P := R s) (fun _ _ last before => trans before (each last)) chain
      (refl s)

end Machine
