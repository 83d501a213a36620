import Mathlib.Tactic.Common

/-!
# Timers, and a watch over a pulse

A repeating timer that runs is due at some instant, one interval after it was started or
last fired; time does not pass an instant at which a timer is due.

A `Watch` goes with a pulse that is sent once a period. It is set by a pulse that finds it
unset, and set anew by every answer to one. As long as every pulse is answered soon enough
the watch never expires: it was set at most a period before the next pulse, or that pulse
was sent and its answer sets it anew before it is due.
-/

/-- A repeating timer: its interval, and when it is due next if it runs. -/
structure Timer where
  interval : Nat := 0
  due : Option Nat := none
  deriving DecidableEq

namespace Timer

/-- The timer runs. -/
def isActive (t : Timer) : Bool := t.due.isSome

/-- Start, or start again, with a new interval. -/
def start (_t : Timer) (now interval : Nat) : Timer := { interval, due := some (now + interval) }

/-- Start, or start again, with the interval it has. -/
def restart (t : Timer) (now : Nat) : Timer := t.start now t.interval

def stop (t : Timer) : Timer := { t with due := none }

/-- The timer fires at the instant it is due. -/
def fires (t : Timer) (now : Nat) : Bool := t.due == some now

/-- The timer is not due before the instant `later`. -/
def Waits (t : Timer) (later : Nat) : Prop := ∀ due ∈ t.due, later ≤ due

instance (t : Timer) (later : Nat) : Decidable (t.Waits later) := by
  unfold Waits
  infer_instance

section
variable {t : Timer} {now later interval due : Nat}

@[simp] theorem start_isActive : (t.start now interval).isActive = true := rfl

@[simp] theorem restart_isActive : (t.restart now).isActive = true := rfl

@[simp] theorem stop_isActive : t.stop.isActive = false := rfl

@[simp] theorem start_due : (t.start now interval).due = some (now + interval) := rfl

@[simp] theorem restart_due : (t.restart now).due = some (now + t.interval) := rfl

@[simp] theorem stop_due : t.stop.due = none := rfl

@[simp] theorem start_interval : (t.start now interval).interval = interval := rfl

@[simp] theorem restart_interval : (t.restart now).interval = t.interval := rfl

@[simp] theorem stop_interval : t.stop.interval = t.interval := rfl

theorem fires_iff : t.fires now = true ↔ t.due = some now := by simp [fires]

theorem isActive_iff : t.isActive = true ↔ ∃ due, t.due = some due := Option.isSome_iff_exists

theorem isActive_of_fires (fires : t.fires now = true) : t.isActive = true :=
  isActive_iff.2 ⟨now, fires_iff.1 fires⟩

end

end Timer

/-- A pulse and its watch: when the next pulse is due, when the watch expires if it is set,
and the pulses not answered yet, with the instants they were sent at. -/
structure Watch (κ : Type*) where
  now : Nat
  pulse : Nat
  expiry : Option Nat
  unanswered : List (κ × Nat)

namespace Watch

variable {κ : Type*} {period limit slack : Nat} {w : Watch κ} {k : κ}

/-- A pulse is sent, which sets the watch if it is not set. -/
def pulsed (w : Watch κ) (period limit : Nat) (k : κ) : Watch κ :=
  { w with
    pulse := w.now + period
    expiry := some (w.expiry.getD (w.now + limit))
    unanswered := w.unanswered ++ [(k, w.now)] }

/-- An answer comes, which sets the watch. -/
def answered [DecidableEq κ] (w : Watch κ) (limit : Nat) (k : κ) : Watch κ :=
  { w with
    expiry := some (w.now + limit)
    unanswered := w.unanswered.filter (·.1 ≠ k) }

/-- The watch leaves `slack` after the next pulse, or after one that is not answered yet. -/
def Covered (slack : Nat) (w : Watch κ) : Prop :=
  ∀ expiry, w.expiry = some expiry →
    w.pulse + slack ≤ expiry ∨ ∃ sent ∈ w.unanswered, sent.2 + slack ≤ expiry

theorem Covered.pulsed (covered : w.Covered slack) (due : w.now = w.pulse) (room : slack ≤ limit)
    (k : κ) : (w.pulsed period limit k).Covered slack := by
  intro expiry set
  obtain rfl := Option.some.inj set
  right
  -- the pulse just sent is not answered yet
  have new : (k, w.now) ∈ (w.pulsed period limit k).unanswered :=
    List.mem_append_right _ (List.mem_singleton_self _)
  rcases earlier : w.expiry with _ | before
  · exact ⟨_, new, Nat.add_le_add_left room w.now⟩
  · rcases covered before earlier with ahead | ⟨sent, member, later⟩
    · exact ⟨_, new, due ▸ ahead⟩
    · exact ⟨sent, List.mem_append_left _ member, later⟩

theorem answered_covered [DecidableEq κ] (soon : w.pulse ≤ w.now + period)
    (room : period + slack ≤ limit) (k : κ) : (w.answered limit k).Covered slack := by
  intro expiry set
  obtain rfl := Option.some.inj set
  left
  show w.pulse + slack ≤ w.now + limit
  omega

/-- **A watch that is covered does not expire** while every pulse is answered within less than
the slack. -/
theorem Covered.early (covered : w.Covered slack) (ahead : w.now ≤ w.pulse) {delay : Nat}
    (short : delay < slack) (answers : ∀ sent ∈ w.unanswered, w.now ≤ sent.2 + delay)
    {expiry : Nat} (set : w.expiry = some expiry) : w.now < expiry := by
  rcases covered expiry set with later | ⟨sent, member, later⟩
  · omega
  · have soon := answers sent member
    omega

end Watch
