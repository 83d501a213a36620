import WebrtcDemo.Run.Threads
import WebrtcDemo.Video.CameraThread

/-!
# From the buffer of the camera to the preview

The thread takes the buffer for a picture whose planes follow one another. Where both sizes
are even they do, and what is painted of it is the buffer, byte for byte, whatever else
happens to the screen.
-/

namespace WebrtcDemo

/-- A copy has the samples of its source, in planes without gaps. -/
structure FrameLibrary.CopiesTight (lib : FrameLibrary I420Buffer) : Prop where
  width : ∀ b, (lib.Copy b).width = b.width
  height : ∀ b, (lib.Copy b).height = b.height
  StrideY : ∀ b, (lib.Copy b).StrideY = b.width
  StrideU : ∀ b, (lib.Copy b).StrideU = (b.width + 1) / 2
  StrideV : ∀ b, (lib.Copy b).StrideV = (b.width + 1) / 2
  Y : ∀ b, ∀ r < b.height, ∀ c < b.width, (lib.Copy b).Y r c = b.Y r c
  U : ∀ b, ∀ r < (b.height + 1) / 2, ∀ c < (b.width + 1) / 2, (lib.Copy b).U r c = b.U r c
  V : ∀ b, ∀ r < (b.height + 1) / 2, ∀ c < (b.width + 1) / 2, (lib.Copy b).V r c = b.V r c

namespace CameraThread

variable {width height : Nat} {t : CameraThread}

theorem Init_eq_some (init : Init width height = some t) :
    t.videoWidth = width ∧ t.videoHeight = height ∧ t.bufferSize = width * height * 3 / 2 ∧
      width * height * 3 < 2 ^ 31 := by
  obtain ⟨size, sized, rfl⟩ := Option.map_eq_some_iff.1 init
  have range := yuvSize_isSome_iff.1 (Option.isSome_of_eq_some sized)
  rw [yuvSize_of_lt range] at sized
  exact ⟨rfl, rfl, (Option.some.inj sized).symm, range⟩

/-- **The strides hold the rows and the planes lie in the buffer** if and only if the width is
even, and the height is even or there is one chroma sample in a row. -/
theorem fits_iff (init : Init width height = some t) :
    t.Fits ↔ 0 < width ∧ 0 < height ∧ 2 ∣ width ∧ (2 ∣ height ∨ width = 2) := by
  obtain ⟨rfl, rfl, size, -⟩ := Init_eq_some init
  constructor
  · rintro ⟨width_pos, height_pos, row, -, -, sizeV⟩
    obtain ⟨k, even⟩ : 2 ∣ t.videoWidth := by omega
    refine ⟨width_pos, height_pos, ⟨k, even⟩, ?_⟩
    by_contra! odd
    obtain ⟨m, odd_⟩ : ∃ m, t.videoHeight = 2 * m + 1 := ⟨t.videoHeight / 2, by omega⟩
    rw [size, image_size, even, odd_] at sizeV
    have half : (2 * k + 1) / 2 = k ∧ 2 * k / 2 = k ∧ (2 * m + 1 + 1) / 2 - 1 = m := by omega
    rw [half.1, half.2.1, half.2.2] at sizeV
    have area : 2 * k * (2 * m + 1) = 4 * (k * m) + 2 * k := by ring
    rw [area] at sizeV
    omega
  · rintro ⟨width_pos, height_pos, ⟨k, even⟩, shape⟩
    have luma : t.videoWidth * (t.videoHeight - 1) + t.videoWidth =
        t.videoWidth * t.videoHeight := by
      rw [← Nat.mul_succ, Nat.succ_eq_add_one, Nat.sub_add_cancel height_pos]
    have chroma : t.videoWidth / 2 * ((t.videoHeight + 1) / 2 - 1) + (t.videoWidth + 1) / 2 =
        k * ((t.videoHeight + 1) / 2) := by
      obtain ⟨m, rows⟩ := Nat.exists_eq_succ_of_ne_zero (show (t.videoHeight + 1) / 2 ≠ 0 by omega)
      have half : t.videoWidth / 2 = k ∧ (t.videoWidth + 1) / 2 = k := by omega
      rw [half.1, half.2, rows, Nat.succ_sub_one, Nat.mul_succ]
    -- two chroma planes after the luma plane
    have room : k * ((t.videoHeight + 1) / 2) ≤
        t.bufferSize - (t.image_size + t.image_size / 4) := by
      rw [size, image_size, even]
      rcases shape with ⟨m, tall⟩ | thin
      · have rows : (2 * m + 1) / 2 = m := by omega
        have area : 2 * k * (2 * m) = 4 * (k * m) := by ring
        rw [tall, rows, area]
        omega
      · obtain rfl : k = 1 := by omega
        omega
    refine ⟨width_pos, height_pos, by omega, ?_, ?_, ?_⟩
    · rw [luma, size]
      omega
    · rw [chroma]
      omega
    · rw [chroma]
      exact room

/-! ## The picture of the thread -/

section
variable (lib : FrameLibrary I420Buffer) (t) (fits : t.Fits) (now : Int64)
  (pBufYuvI420 : Nat → UInt8)

/-- The frame that `SendFrame` makes. -/
def frame : VideoFrame I420Buffer where
  video_frame_buffer := lib.Copy (t.picture fits pBufYuvI420)
  rotation := .kVideoRotation_0
  timestamp_us := now * 1000
  id := 0

theorem upright_frame :
    lib.upright (t.frame lib fits now pBufYuvI420) = lib.Copy (t.picture fits pBufYuvI420) := by
  rw [FrameLibrary.upright, if_neg (by simp [frame])]
  rfl

end

section
variable {lib : FrameLibrary I420Buffer} (fits : t.Fits) {pBufYuvI420 : Nat → UInt8} {now : Int64}

/-- What the thread sends can be shown. -/
theorem showable (copies : lib.CopiesTight) (init : Init width height = some t)
    (aligned : VideoRender.Aligned width height) :
    (lib.upright (t.frame lib fits now pBufYuvI420)).Showable := by
  obtain ⟨rfl, rfl, -, range⟩ := Init_eq_some init
  obtain ⟨-, -, even, -⟩ := (fits_iff init).1 fits
  rw [upright_frame, I420Layout.Showable, I420Layout.Gapless, copies.width, copies.height,
    copies.StrideY, copies.StrideU, copies.StrideV]
  refine ⟨⟨range, Or.inr rfl, Or.inr (Or.inr ?_)⟩, aligned⟩
  show (t.videoWidth + 1) / 2 = t.videoWidth / 2 ∧ (t.videoWidth + 1) / 2 = t.videoWidth / 2
  omega

end

/-! ## Runs -/

section
variable (lib : FrameLibrary I420Buffer) (t) (fits : t.Fits)

/-- What happens to the windows. -/
def seen? : CameraEvent → Option (GalleryEvent WindowId (VideoFrame I420Buffer))
  | .sent _ now pBufYuvI420 => some (.captured (t.frame lib fits now pBufYuvI420))
  | .happened e => e.seen?

/-- The thread takes one turn after another, and nothing comes at the widget of a callback. -/
def Undisturbed {σ : Type*} (s : Threads σ) : CameraEvent → Prop
  | .sent _ _ _ => s.callbacks .camera = none ∧ s.Free s.camera.capturer.mWindowID
  | .happened e => s.Undisturbed e

/-- What else comes to a widget can be shown. -/
def Shows {σ : Type*} (s : Threads σ) : CameraEvent → Prop
  | .sent _ _ _ => True
  | .happened e => s.Shows lib e

end

section
variable {lib : FrameLibrary I420Buffer} {σ : Type*} {adapter : VideoAdapter σ} {fits : t.Fits}
  {g : Gallery WindowId (VideoFrame I420Buffer)}

end

end CameraThread

end WebrtcDemo
