import WebrtcDemo.Run.Preview

/-!
# Time stamps

`SendFrame` multiplies what the clock reads in microseconds by 1000, and
`VideoCapture::OnFrame` does so again.
-/

namespace WebrtcDemo

/-! ## Products -/

theorem toInt_mul_of_fits {a b : Int64} (fits : mulOverflows a b = false) :
    (a * b).toInt = a.toInt * b.toInt := by
  have range := of_decide_eq_false fits
  rw [not_or, Int64.toInt_minValue, Int64.toInt_maxValue, Int.not_lt, Int.not_lt] at range
  rw [Int64.toInt_mul]
  exact Int.bmod_eq_of_le (by omega) (by omega)

/-- A stamp that is right came from 0. -/
theorem eq_zero_of_stamp {now : Int64} (first : mulOverflows now 1000 = false)
    (second : mulOverflows (now * 1000) 1000 = false)
    (right : (now * 1000 * 1000).toInt = 1000 * now.toInt) : now = 0 := by
  have thousand : (1000 : Int64).toInt = 1000 := rfl
  rw [toInt_mul_of_fits second, toInt_mul_of_fits first, thousand] at right
  rw [← Int64.toInt_inj]
  change now.toInt = 0
  omega

/-! ## A frame -/

namespace VideoCapture

section
variable {σ I : Type*} [Picture I] (lib : FrameLibrary I) (adapter : VideoAdapter σ)
  (c : VideoCapture σ I) (frame : VideoFrame I)

theorem output_timestamp (accepted : Adapted) :
    (output lib frame accepted).timestamp_us = frame.timestamp_us := by
  rw [output]
  split_ifs <;> rfl

theorem OnFrame_adapts :
    (c.OnFrame lib adapter frame).adapted = c.adapted ++ [frame.timestamp_us * 1000] ∧
      (c.OnFrame lib adapter frame).overflow = (c.overflow || mulOverflows frame.timestamp_us 1000) := by
  rw [OnFrame]
  rcases adapter c.video_adapter_ frame.width frame.height (frame.timestamp_us * 1000) with
    ⟨next, _ | accepted⟩ <;> exact ⟨rfl, rfl⟩

/-- What is broadcast keeps the time stamp of the frame. -/
theorem OnFrame_sends : ∃ sent, (c.OnFrame lib adapter frame).broadcaster_ = c.broadcaster_ ++ sent ∧
    ∀ frame' ∈ sent, frame'.timestamp_us = frame.timestamp_us := by
  rw [OnFrame]
  rcases adapter c.video_adapter_ frame.width frame.height (frame.timestamp_us * 1000) with
    ⟨next, _ | accepted⟩
  · exact ⟨[], (List.append_nil _).symm, fun frame' sent => absurd sent List.not_mem_nil⟩
  · refine ⟨[output lib frame accepted], rfl, fun frame' sent => ?_⟩
    rw [List.mem_singleton.1 sent, output_timestamp]

end

end VideoCapture

namespace Camera

/-- A picture of the camera, and what the clock reads for it within a year. -/
structure Shot where
  memory : Nat → UInt8
  now : Int64
  source : I420Buffer
  frame_id : UInt16
  started : 0 ≤ now
  within : now ≤ 31536000000000

section
variable {σ : Type*} (lib : FrameLibrary I420Buffer) (adapter : VideoAdapter σ)

def shoot (s : Camera σ) (shot : Shot) : Camera σ :=
  VcmCapture.SendFrame lib adapter shot.memory s shot.now shot.source shot.frame_id

/-- The adapter is given the reading in nanoseconds, and what is broadcast carries it in
microseconds. -/
def Stamps (s : Camera σ) (shot : Shot) : Prop :=
  (∃ stamp, (s.shoot lib adapter shot).capturer.adapted = s.capturer.adapted ++ [stamp] ∧
    stamp.toInt = 1000 * shot.now.toInt) ∧
  ∃ sent, (s.shoot lib adapter shot).capturer.broadcaster_ = s.capturer.broadcaster_ ++ sent ∧
    ∀ frame ∈ sent, frame.timestamp_us = shot.now

variable {lib adapter} {s : Camera σ}

variable (lib adapter) in
/-- A shot with a widget for the preview comes to the adapter and the broadcaster. -/
theorem shoot_of_previews (previews : s.Previews) (shot : Shot) :
    (s.shoot lib adapter shot).Previews ∧
      (s.shoot lib adapter shot).capturer.adapted =
        s.capturer.adapted ++ [shot.now * 1000 * 1000] ∧
      (s.shoot lib adapter shot).capturer.overflow =
        (s.capturer.overflow || mulOverflows shot.now 1000 || mulOverflows (shot.now * 1000) 1000) ∧
      ∃ sent, (s.shoot lib adapter shot).capturer.broadcaster_ = s.capturer.broadcaster_ ++ sent ∧
        ∀ frame ∈ sent, frame.timestamp_us = shot.now * 1000 := by
  have previews' : Previews { s with capturer := { s.capturer with
      overflow := s.capturer.overflow || mulOverflows shot.now 1000 } } := previews
  refine ⟨presence_shown_iff.1 ((congrArg Presence.shown OnFrame_presence).trans previews'), ?_⟩
  simp only [shoot, VcmCapture.SendFrame]
  rw [OnFrame_of_previews previews']
  obtain ⟨adapted, overflow⟩ := VideoCapture.OnFrame_adapts lib adapter _ _
  exact ⟨adapted, overflow, VideoCapture.OnFrame_sends lib adapter _ _⟩

/-- A shot overflows nothing and is stamped as it should be if and only if the clock
reads 0. -/
theorem stamps_shot_iff (previews : s.Previews) (clear : s.capturer.overflow = false) (shot : Shot) :
    (s.shoot lib adapter shot).capturer.overflow = false ∧ s.Stamps lib adapter shot ↔
      shot.now = 0 := by
  obtain ⟨-, adapted, overflow, sent, broadcast, stamps⟩ :=
    shoot_of_previews lib adapter previews shot
  rw [overflow, clear, Stamps, adapted]
  constructor
  · rintro ⟨fits, ⟨stamp, same, right⟩, -⟩
    rw [Bool.false_or, Bool.or_eq_false_iff] at fits
    rw [List.append_cancel_left_eq, List.cons.injEq] at same
    rw [← same.1] at right
    exact eq_zero_of_stamp fits.1 fits.2 right
  · intro zero
    rw [zero] at stamps ⊢
    exact ⟨by decide, ⟨_, rfl, by decide⟩, sent, broadcast, stamps⟩

/-- What the adapter is given in a run. -/
theorem adapted_run (previews : s.Previews) (shots : List Shot) :
    (Machine.run (shoot lib adapter) s shots).capturer.adapted =
      s.capturer.adapted ++ shots.map (·.now * 1000 * 1000) := by
  induction shots generalizing s with
  | nil => simp
  | cons shot more ih =>
    obtain ⟨previews', adapted, -⟩ :=
      shoot_of_previews lib adapter previews shot
    rw [Machine.run_cons, ih previews', adapted, List.append_assoc, List.map_cons,
      List.singleton_append]

end

variable {σ : Type*} (lib : FrameLibrary I420Buffer) (adapter : VideoAdapter σ)

/-- Readings that increase are given to the adapter as stamps that increase. -/
def KeepsOrder (s : Camera σ) (shots : List Shot) : Prop :=
  (shots.map (·.now)).Pairwise (· < ·) →
    ∃ stamps, (Machine.run (shoot lib adapter) s shots).capturer.adapted =
      s.capturer.adapted ++ stamps ∧ stamps.Pairwise (· < ·)

/-- No product overflows and every stamp is right, all along a run; then their order is that
of the readings. -/
def Timed (s : Camera σ) (shots : List Shot) : Prop :=
  Machine.Throughout (shoot lib adapter) (fun s => s.capturer.overflow = false) s shots ∧
    Machine.Along (shoot lib adapter) (Stamps lib adapter) s shots ∧ s.KeepsOrder lib adapter shots

/-- **The time stamps are right** if and only if the clock reads 0 all the time. -/
theorem timed_iff (s : Camera σ) (shots : List Shot) (previews : s.Previews)
    (clear : s.capturer.overflow = false) :
    s.Timed lib adapter shots ↔ ∀ shot ∈ shots, shot.now = 0 := by
  have exactly : _ ↔ Machine.Along (shoot lib adapter) (fun _ shot => shot.now = 0) s shots :=
    Machine.throughout_and_along_iff (Q := Previews)
      (fun _ shot previews => (shoot_of_previews lib adapter previews shot).1)
      (fun _ shot _ previews clear => stamps_shot_iff previews clear shot) previews clear
  rw [Machine.along_inputs] at exactly
  rw [Timed, ← and_assoc, exactly]
  refine and_iff_left_of_imp fun zero increasing => ⟨_, adapted_run previews shots, ?_⟩
  have same : shots.map (·.now * 1000 * 1000) = shots.map (·.now) :=
    List.map_congr_left fun shot member => by rw [zero shot member]; decide
  rw [same]
  exact increasing

/-- A camera with a preview, before its first picture. -/
def previewing : Camera Unit where
  capturer := ⟨⟨(), [], [], [], false⟩, 7⟩
  screen := Function.update (fun _ => none) 7 (some { pBufYuv420p := fun _ => 0 })

def Shot.blank (now : Int64) (started : 0 ≤ now) (within : now ≤ 31536000000000) : Shot :=
  ⟨fun _ => 0, now, VideoFrame.blank.video_frame_buffer, 0, started, within⟩

theorem timed_previewing : previewing.Previews ∧ previewing.capturer.overflow = false ∧
    (previewing.Timed .sample (fun s _ _ _ => (s, none)) [.blank 0 (by decide) (by decide)] ↔
      ∀ shot ∈ [Shot.blank 0 (by decide) (by decide)], shot.now = 0) :=
  ⟨rfl, rfl, timed_iff .sample (fun s _ _ _ => (s, none)) previewing _ rfl rfl⟩

/-- A microsecond is given to the adapter as a millisecond. -/
theorem microsecond_scaled_twice : ¬ ∀ (adapter : VideoAdapter Unit) (s : Camera Unit)
    (shots : List Shot), s.Previews → s.capturer.overflow = false →
      s.Timed .sample adapter shots := by
  intro always
  obtain ⟨⟨-, clear⟩, ⟨stamps, -⟩, -⟩ := always (fun s _ _ _ => (s, none)) previewing
    [.blank 1 (by decide) (by decide)] rfl rfl
  exact absurd ((stamps_shot_iff (s := previewing) rfl rfl _).1 ⟨clear, stamps⟩) (by decide)

end Camera

end WebrtcDemo
