import WebrtcDemo.Lib.Machine

/-!
# Relays

A machine that passes on what it takes. In a step it takes one item at most and sends it
some number of times, so items are lost where that number is 0 and doubled where it is
more than 1; they are never sent out of order.
-/

namespace Machine

variable {σ ι α : Type*} {step : σ → ι → σ}

variable (step) in
/-- Wherever `Q` holds a step takes an item, or nothing, and sends it `copies` times. -/
structure Relays (Q : σ → Prop) (taken sent : σ → List α) (takes : σ → ι → Option α)
    (copies : σ → ι → Nat) : Prop where
  taking : ∀ s i, Q s → taken (step s i) = taken s ++ (takes s i).toList
  sending : ∀ s i, Q s → sent (step s i) =
    sent s ++ (takes s i).toList.flatMap (List.replicate (copies s i))

namespace Relays

variable {Q : σ → Prop} {taken sent : σ → List α} {takes : σ → ι → Option α}
  {copies : σ → ι → Nat} {s : σ}

theorem step_iff (relays : Relays step Q taken sent takes copies) (i : ι) (always : Q s)
    (same : sent s = taken s) :
    sent (step s i) = taken (step s i) ↔ ((takes s i).isSome → copies s i = 1) := by
  rw [relays.taking s i always, relays.sending s i always, same, List.append_cancel_left_eq]
  cases takes s i with
  | none => simp
  | some a =>
    simp only [Option.toList_some, List.flatMap_singleton, Option.isSome_some, forall_const]
    constructor
    · intro once
      simpa using congrArg List.length once
    · intro once
      rw [once, List.replicate_one]

/-- **What was sent is what was taken**, in every state of a run, if and only if each item
was sent once. -/
theorem throughout_iff (relays : Relays step Q taken sent takes copies)
    (stays : ∀ s i, Q s → Q (step s i)) (always : Q s) (start : sent s = taken s) (is : List ι) :
    Throughout step (fun s => sent s = taken s) s is ↔
      Along step (fun s i => (takes s i).isSome → copies s i = 1) s is :=
  throughout_iff_along stays (fun _ i _ always same => relays.step_iff i always same) always start

end Relays

end Machine
