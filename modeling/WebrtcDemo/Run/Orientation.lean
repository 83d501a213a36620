import WebrtcDemo.Video.Capture

/-!
# Orientation

`VideoCapture::OnFrame` scales the buffer as it came, but sends it with a rotation of 0. To
say what that does to a picture, the quarter turns made on its samples are carried along
with it. They are a record only: `erase_OnFrame` takes them away again.
-/

namespace WebrtcDemo

namespace VideoRotation

/-- Quarter turns, clockwise. -/
def quarters : VideoRotation → Fin 4
  | kVideoRotation_0 => 0
  | kVideoRotation_90 => 1
  | kVideoRotation_180 => 2
  | kVideoRotation_270 => 3

theorem add_quarters_eq_iff (turned : Fin 4) (rotation : VideoRotation) :
    turned + quarters kVideoRotation_0 = turned + rotation.quarters ↔
      rotation = kVideoRotation_0 := by
  cases rotation <;> revert turned <;> decide

end VideoRotation

/-- A picture, and the quarter turns that were made on its samples. -/
structure Turned (I : Type*) where
  picture : I
  quarters : Fin 4

section
variable {I : Type*} [Picture I]

instance : Picture (Turned I) where
  width b := Picture.width b.picture
  height b := Picture.height b.picture

/-- `Rotate` turns the samples; nothing else does. -/
def FrameLibrary.tracked (lib : FrameLibrary I) : FrameLibrary (Turned I) where
  Rotate b rotation := ⟨lib.Rotate b.picture rotation, b.quarters + rotation.quarters⟩
  Copy b := ⟨lib.Copy b.picture, b.quarters⟩
  ScaleFrom out_width out_height b := ⟨lib.ScaleFrom out_width out_height b.picture, b.quarters⟩
  width_Rotate b rotation := lib.width_Rotate b.picture rotation
  height_Rotate b rotation := lib.height_Rotate b.picture rotation

namespace VideoFrame

omit [Picture I] in
/-- How the picture is turned when it is seen: on its samples, and by the rotation. -/
def orientation (frame : VideoFrame (Turned I)) : Fin 4 :=
  frame.video_frame_buffer.quarters + frame.rotation.quarters

/-- The frame without the record. -/
def erase (frame : VideoFrame (Turned I)) : VideoFrame I where
  video_frame_buffer := frame.video_frame_buffer.picture
  rotation := frame.rotation
  timestamp_us := frame.timestamp_us
  id := frame.id

end VideoFrame

namespace VideoCapture

variable {σ : Type*} (lib : FrameLibrary I) (adapter : VideoAdapter σ)
  (c : VideoCapture σ (Turned I)) (frame : VideoFrame (Turned I))

/-- The capturer without the records. -/
def erase : VideoCapture σ I where
  video_adapter_ := c.video_adapter_
  received := c.received.map VideoFrame.erase
  adapted := c.adapted
  broadcaster_ := c.broadcaster_.map VideoFrame.erase
  overflow := c.overflow

theorem erase_output (accepted : Adapted) :
    (output lib.tracked frame accepted).erase = output lib frame.erase accepted := by
  have width : frame.erase.width = frame.width := rfl
  have height : frame.erase.height = frame.height := rfl
  rw [output, output, width, height]
  split_ifs <;> rfl

/-- With the records or without, the capturer does the same. -/
theorem erase_OnFrame :
    (c.OnFrame lib.tracked adapter frame).erase = c.erase.OnFrame lib adapter frame.erase := by
  have width : frame.erase.width = frame.width := rfl
  have height : frame.erase.height = frame.height := rfl
  have stamp : frame.erase.timestamp_us = frame.timestamp_us := rfl
  have state : c.erase.video_adapter_ = c.video_adapter_ := rfl
  simp only [OnFrame]
  rw [width, height, stamp, state]
  rcases adapter c.video_adapter_ frame.width frame.height (frame.timestamp_us * 1000) with
    ⟨next, _ | accepted⟩
  · simp [erase]
  · simp [erase, erase_output]

/-- What the capturer broadcasts of this frame is seen as the frame is. -/
def KeepsOrientation : Prop :=
  ∃ sent, (c.OnFrame lib.tracked adapter frame).broadcaster_ = c.broadcaster_ ++ sent ∧
    ∀ frame' ∈ sent, frame'.orientation = frame.orientation

/-- An accepted frame is passed through as it came. -/
def PassesThrough (accepted : Adapted) : Prop :=
  accepted.out_width = frame.width ∧ accepted.out_height = frame.height

theorem output_orientation_iff (accepted : Adapted) :
    (output lib.tracked frame accepted).orientation = frame.orientation ↔
      frame.rotation = .kVideoRotation_0 ∨ PassesThrough frame accepted := by
  rw [output]
  split_ifs with scaled
  · have scales : ¬ PassesThrough frame accepted := fun passes =>
      scaled.elim (absurd passes.2) (absurd passes.1)
    rw [or_iff_left scales]
    exact VideoRotation.add_quarters_eq_iff frame.video_frame_buffer.quarters frame.rotation
  · push Not at scaled
    exact iff_of_true rfl (.inr ⟨scaled.2, scaled.1⟩)

/-- **A frame is broadcast as it is to be seen** if and only if it is not turned, or not
scaled, or dropped. -/
theorem keepsOrientation_iff :
    c.KeepsOrientation lib adapter frame ↔
      ∀ accepted,
        (adapter c.video_adapter_ frame.width frame.height (frame.timestamp_us * 1000)).2 =
          some accepted →
        frame.rotation = .kVideoRotation_0 ∨ PassesThrough frame accepted := by
  rw [KeepsOrientation, OnFrame]
  rcases adapter c.video_adapter_ frame.width frame.height (frame.timestamp_us * 1000) with
    ⟨next, _ | accepted⟩
  · exact iff_of_true ⟨[], (List.append_nil _).symm, nofun⟩ nofun
  · simp [← output_orientation_iff lib]

end VideoCapture

end

/-- A frame to be turned by a quarter is scaled, and its rotation is lost. -/
theorem scaled_rotation_lost :
    ¬ ∀ (adapter : VideoAdapter Unit) (c : VideoCapture Unit (Turned I420Buffer))
      (frame : VideoFrame (Turned I420Buffer)), c.KeepsOrientation .sample adapter frame := by
  intro always
  let zero : Nat → Nat → UInt8 := fun _ _ => 0
  let frame : VideoFrame (Turned I420Buffer) :=
    { video_frame_buffer := ⟨.tight 640 480 (by decide) (by decide) zero zero zero, 0⟩
      rotation := .kVideoRotation_90
      timestamp_us := 0
      id := 0 }
  obtain ⟨sent, broadcast, kept⟩ := always (fun s _ _ _ => (s, some ⟨640, 480, 320, 240⟩))
    ⟨(), [], [], [], false⟩ frame
  rw [List.nil_append] at broadcast
  subst broadcast
  exact absurd (kept _ List.mem_cons_self) (by decide)

end WebrtcDemo
