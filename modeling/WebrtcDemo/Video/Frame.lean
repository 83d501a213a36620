import WebrtcDemo.Lib.Block

/-!
# Video frames

What the program uses of the frames of WebRTC. A buffer in the I420 format has a plane of
luma samples and two planes of chroma samples with half as many rows and columns, rounded
up; each plane has a stride of its own from row to row. What the library does to a buffer
is a parameter.
-/

namespace WebrtcDemo

/-- A clockwise rotation. -/
inductive VideoRotation where
  | kVideoRotation_0
  | kVideoRotation_90
  | kVideoRotation_180
  | kVideoRotation_270
  deriving DecidableEq

/-- Whether width and height change places. -/
def VideoRotation.swaps : VideoRotation → Bool
  | kVideoRotation_0 | kVideoRotation_180 => false
  | kVideoRotation_90 | kVideoRotation_270 => true

/-- The size and the strides of an I420 buffer. -/
structure I420Layout where
  width : Nat
  height : Nat
  StrideY : Nat
  StrideU : Nat
  StrideV : Nat
  width_pos : 0 < width
  height_pos : 0 < height
  rowY : width ≤ StrideY
  rowU : (width + 1) / 2 ≤ StrideU
  rowV : (width + 1) / 2 ≤ StrideV

/-- `I420BufferInterface`: each plane holds its rows. -/
structure I420Buffer extends I420Layout where
  DataY : Block UInt8
  DataU : Block UInt8
  DataV : Block UInt8
  sizeY : StrideY * (height - 1) + width ≤ DataY.size
  sizeU : StrideU * ((height + 1) / 2 - 1) + (width + 1) / 2 ≤ DataU.size
  sizeV : StrideV * ((height + 1) / 2 - 1) + (width + 1) / 2 ≤ DataV.size

/-- What holds a picture. -/
class Picture (I : Type*) where
  width : I → Nat
  height : I → Nat

instance : Picture I420Buffer where
  width b := b.width
  height b := b.height

/-- `webrtc::VideoFrame`: a picture, and how it has to be turned to be seen upright. -/
structure VideoFrame (I : Type*) where
  video_frame_buffer : I
  rotation : VideoRotation
  timestamp_us : Int64
  id : UInt16

section
variable {I : Type*} [Picture I]

def VideoFrame.width (frame : VideoFrame I) : Nat := Picture.width frame.video_frame_buffer
def VideoFrame.height (frame : VideoFrame I) : Nat := Picture.height frame.video_frame_buffer

end

/-- What libwebrtc makes of pictures: `I420Buffer::Rotate`, `I420Buffer::Copy`, and
`ScaleFrom` into a buffer just created. -/
structure FrameLibrary (I : Type*) [Picture I] where
  Rotate : I → VideoRotation → I
  Copy : I → I
  ScaleFrom : (out_width out_height : Nat) → I → I
  width_Rotate : ∀ b r, Picture.width (Rotate b r) = if r.swaps then Picture.height b else Picture.width b
  height_Rotate : ∀ b r, Picture.height (Rotate b r) = if r.swaps then Picture.width b else Picture.height b

/-! ## A library for concrete runs -/

/-- A plane without gaps between its rows. -/
def tightPlane (rows columns : Nat) (f : Nat → Nat → UInt8) : Block UInt8 :=
  ⟨columns * rows, fun i => f (i / columns) (i % columns)⟩

theorem tightPlane_rows {rows columns : Nat} (positive : 0 < rows) (f : Nat → Nat → UInt8) :
    columns * (rows - 1) + columns ≤ (tightPlane rows columns f).size := by
  obtain ⟨more, rfl⟩ := Nat.exists_eq_succ_of_ne_zero (Nat.ne_of_gt positive)
  exact Nat.le_refl _

namespace I420Buffer

/-- A buffer of its samples. -/
def tight (width height : Nat) (width_pos : 0 < width) (height_pos : 0 < height)
    (Y U V : Nat → Nat → UInt8) : I420Buffer where
  width := width
  height := height
  StrideY := width
  StrideU := (width + 1) / 2
  StrideV := (width + 1) / 2
  width_pos := width_pos
  height_pos := height_pos
  rowY := Nat.le_refl _
  rowU := Nat.le_refl _
  rowV := Nat.le_refl _
  DataY := tightPlane height width Y
  DataU := tightPlane ((height + 1) / 2) ((width + 1) / 2) U
  DataV := tightPlane ((height + 1) / 2) ((width + 1) / 2) V
  sizeY := tightPlane_rows height_pos Y
  sizeU := tightPlane_rows (by omega) U
  sizeV := tightPlane_rows (by omega) V

def Y (b : I420Buffer) (r c : Nat) : UInt8 := b.DataY.cell (r * b.StrideY + c)
def U (b : I420Buffer) (r c : Nat) : UInt8 := b.DataU.cell (r * b.StrideU + c)
def V (b : I420Buffer) (r c : Nat) : UInt8 := b.DataV.cell (r * b.StrideV + c)

end I420Buffer

/-- A frame of one dark sample. -/
def VideoFrame.blank : VideoFrame I420Buffer where
  video_frame_buffer := .tight 1 1 Nat.one_pos Nat.one_pos (fun _ _ => 0) (fun _ _ => 0) fun _ _ => 0
  rotation := .kVideoRotation_0
  timestamp_us := 0
  id := 0

/-- A plane turned clockwise. -/
def VideoRotation.turn (rows columns : Nat) (f : Nat → Nat → UInt8) :
    VideoRotation → Nat → Nat → UInt8
  | kVideoRotation_0, r, c => f r c
  | kVideoRotation_90, r, c => f (rows - 1 - c) r
  | kVideoRotation_180, r, c => f (rows - 1 - r) (columns - 1 - c)
  | kVideoRotation_270, r, c => f c (columns - 1 - r)

/-- The nearest sample of a plane that is scaled. -/
def scalePlane (rows columns rows' columns' : Nat) (f : Nat → Nat → UInt8) (r c : Nat) : UInt8 :=
  f (r * rows / rows') (c * columns / columns')

/-- The library on samples. -/
def FrameLibrary.sample : FrameLibrary I420Buffer where
  Rotate b rotation :=
    let turn rows columns (f : Nat → Nat → UInt8) := rotation.turn rows columns f
    .tight (if rotation.swaps then b.height else b.width)
      (if rotation.swaps then b.width else b.height)
      (by split <;> [exact b.height_pos; exact b.width_pos])
      (by split <;> [exact b.width_pos; exact b.height_pos])
      (turn b.height b.width b.Y)
      (turn ((b.height + 1) / 2) ((b.width + 1) / 2) b.U)
      (turn ((b.height + 1) / 2) ((b.width + 1) / 2) b.V)
  Copy b := .tight b.width b.height b.width_pos b.height_pos b.Y b.U b.V
  ScaleFrom out_width out_height b :=
    let width := max 1 out_width
    let height := max 1 out_height
    .tight width height (Nat.lt_of_lt_of_le Nat.one_pos (Nat.le_max_left _ _))
      (Nat.lt_of_lt_of_le Nat.one_pos (Nat.le_max_left _ _))
      (scalePlane b.height b.width height width b.Y)
      (scalePlane ((b.height + 1) / 2) ((b.width + 1) / 2) ((height + 1) / 2) ((width + 1) / 2) b.U)
      (scalePlane ((b.height + 1) / 2) ((b.width + 1) / 2) ((height + 1) / 2) ((width + 1) / 2) b.V)
  width_Rotate _ _ := rfl
  height_Rotate _ _ := rfl

end WebrtcDemo
