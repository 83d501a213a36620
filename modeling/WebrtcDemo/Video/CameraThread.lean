import WebrtcDemo.Video.Threads

/-!
# The thread of VcmCapture.cpp

`Init` allocates a buffer for one picture and starts a thread that sends what is in the
buffer, over and over. What the camera writes there is not the program's.
-/

namespace WebrtcDemo

/-- The members that `Init` sets: the size of the picture, and that of `pBufYuvI420`. -/
structure CameraThread where
  videoWidth : Nat
  videoHeight : Nat
  bufferSize : Nat

namespace CameraThread

/-- `VcmCapture::Init`, if its products do not overflow. -/
def Init (width height : Nat) : Option CameraThread :=
  (yuvSize width height).map fun bufferSize =>
    { videoWidth := width, videoHeight := height, bufferSize }

section
variable (t : CameraThread)

def image_size : Nat := t.videoWidth * t.videoHeight

/-- `pBufYuvI420`, with what is in it. -/
def buffer (pBufYuvI420 : Nat → UInt8) : Block UInt8 := ⟨t.bufferSize, pBufYuvI420⟩

/-- The strides of the thread hold the rows of a picture, and its planes lie in the buffer. -/
structure Fits : Prop where
  width_pos : 0 < t.videoWidth
  height_pos : 0 < t.videoHeight
  row : (t.videoWidth + 1) / 2 ≤ t.videoWidth / 2
  sizeY : t.videoWidth * (t.videoHeight - 1) + t.videoWidth ≤ t.bufferSize
  sizeU : t.videoWidth / 2 * ((t.videoHeight + 1) / 2 - 1) + (t.videoWidth + 1) / 2 ≤
    t.bufferSize - t.image_size
  sizeV : t.videoWidth / 2 * ((t.videoHeight + 1) / 2 - 1) + (t.videoWidth + 1) / 2 ≤
    t.bufferSize - (t.image_size + t.image_size / 4)

variable (fits : t.Fits) (pBufYuvI420 : Nat → UInt8)

/-- The picture of the arguments of `SendFrame`. -/
def picture : I420Buffer where
  width := t.videoWidth
  height := t.videoHeight
  StrideY := t.videoWidth
  StrideU := t.videoWidth / 2
  StrideV := t.videoWidth / 2
  width_pos := fits.width_pos
  height_pos := fits.height_pos
  rowY := Nat.le_refl _
  rowU := fits.row
  rowV := fits.row
  DataY := t.buffer pBufYuvI420
  DataU := (t.buffer pBufYuvI420).drop t.image_size
  DataV := (t.buffer pBufYuvI420).drop (t.image_size + t.image_size / 4)
  sizeY := fits.sizeY
  sizeU := fits.sizeU
  sizeV := fits.sizeV

/-- One turn of the loop of `RunCameraThread`, when `rtc::TimeMicros` reads `now`, up to the first
call of the widget of the preview. -/
def RunCameraThread {σ : Type*} (lib : FrameLibrary I420Buffer) (memory : Nat → UInt8)
    (s : Threads σ) (now : Int64) : Threads σ :=
  s.SendFrame lib memory now (t.picture fits pBufYuvI420) 0

end

end CameraThread

/-! ## The program around it -/

/-- What happens to the camera and to the widgets: a turn of the thread begins, or anything
else. -/
inductive CameraEvent where
  | sent (memory : Nat → UInt8) (now : Int64) (pBufYuvI420 : Nat → UInt8)
  | happened (e : ThreadEvent)

def CameraThread.step {σ : Type*} (t : CameraThread) (fits : t.Fits)
    (lib : FrameLibrary I420Buffer) (adapter : VideoAdapter σ) (s : Threads σ) :
    CameraEvent → Threads σ
  | .sent memory now pBufYuvI420 => t.RunCameraThread fits pBufYuvI420 lib memory s now
  | .happened e => s.step lib adapter e

end WebrtcDemo
