import Mathlib.Logic.Function.Basic
import WebrtcDemo.Client.State
import WebrtcDemo.Video.Frame

/-!
# VideoRender.cpp, and the callback of WebrtcVideoFrame.cpp

A frame is packed into one block, which the widget copies and `paintGL` uploads as three
textures. Sizes are numbers of type `int` that are not negative: a product that overflows
has no meaning, and neither has a copy that leaves its blocks. Both end in a fault.
-/

namespace WebrtcDemo

/-- The product of two sizes. -/
def mulInt (a b : Nat) : Option Nat := if a * b < 2 ^ 31 then some (a * b) else none

/-- `width * height * 3 / 2`. -/
def yuvSize (width height : Nat) : Option Nat :=
  (mulInt width height).bind fun area => (mulInt area 3).map (· / 2)

/-- The packing of `OnFrame`: three copies into a block just allocated, which holds
`memory`. -/
def pack (memory : Nat → UInt8) (buffer : I420Buffer) : Option (Block UInt8) :=
  (mulInt buffer.width buffer.height).bind fun area =>
  (yuvSize buffer.width buffer.height).bind fun yuvBufferSize =>
  let yuvBuffer : Block UInt8 := ⟨yuvBufferSize, memory⟩
  (yuvBuffer.copy 0 buffer.DataY area).bind fun yuvBuffer =>
  (yuvBuffer.copy area buffer.DataU (area / 4)).bind fun yuvBuffer =>
  yuvBuffer.copy (area + area / 4) buffer.DataV (area / 4)

/-! ## The widget -/

/-- The length of a row in memory under the unpack alignment of OpenGL, which is 4. -/
def alignedRow (n : Nat) : Nat := 4 * ((n + 3) / 4)

/-- A texture with one component. -/
structure Texture where
  width : Nat
  height : Nat
  texel : Nat → Nat → Option UInt8

/-- `glTexImage2D` from the cell `start` of a block. -/
def glTexImage2D (width height : Nat) (pixels : Block UInt8) (start : Nat) : Texture where
  width := width
  height := height
  texel r c := pixels.read (start + r * alignedRow width + c)

/-- What one `paintGL` uploads. -/
structure Painting where
  Y : Texture
  U : Texture
  V : Texture

/-- Behaviour the language does not define. -/
inductive RenderFault where
  | overflow
  | outOfBounds
  deriving DecidableEq

/-- The widget, with what it has painted. After a fault what it does is not defined; the
model only records that it came to it. -/
structure VideoRender where
  mVideoW : Nat := 0
  mVideoH : Nat := 0
  pBufYuv420p : Nat → UInt8
  viewFlag : Bool := false
  painted : List Painting := []
  fault : Option RenderFault := none

namespace VideoRender

def mMaxVideoW : Nat := 1920
def mMaxVideoH : Nat := 1280

/-- The size that the constructor allocates. -/
def bufferSize : Nat := mMaxVideoW * mMaxVideoH * 3 / 2

section
variable (v : VideoRender)

/-- What `pBufYuv420p` points to. -/
def buffer : Block UInt8 := ⟨bufferSize, v.pBufYuv420p⟩

def SetVideoSize (width height : Nat) : VideoRender := { v with mVideoW := width, mVideoH := height }

def SetYUVData (yuvData : Block UInt8) : VideoRender :=
  match yuvSize v.mVideoW v.mVideoH with
  | none => { v with fault := some .overflow }
  | some n =>
    match v.buffer.copy 0 yuvData n with
    | none => { v with fault := some .outOfBounds }
    | some buffer => { v with pBufYuv420p := buffer.cell }

def SetViewStated (flag : Bool) : VideoRender := { v with viewFlag := flag }

def paintGL : VideoRender :=
  if v.viewFlag then
    match mulInt v.mVideoW v.mVideoH, (mulInt v.mVideoW v.mVideoH).bind (mulInt · 5) with
    | some area, some fivefold =>
      { v with
        painted := v.painted ++
          [{ Y := glTexImage2D v.mVideoW v.mVideoH v.buffer 0
             U := glTexImage2D (v.mVideoW / 2) (v.mVideoH / 2) v.buffer area
             V := glTexImage2D (v.mVideoW / 2) (v.mVideoH / 2) v.buffer (fivefold / 4) }] }
    | _, _ => { v with fault := some .overflow }
  else v

end

end VideoRender

/-! ## Frames on their way to a widget -/

/-- The widgets there are, by the id that `QWidget::find` looks for. -/
abbrev Screen := WindowId → Option VideoRender

section
variable (lib : FrameLibrary I420Buffer)

/-- The buffer of a frame as it is to be seen. -/
def FrameLibrary.upright (frame : VideoFrame I420Buffer) : I420Buffer :=
  if frame.rotation ≠ .kVideoRotation_0 then lib.Rotate frame.video_frame_buffer frame.rotation
  else frame.video_frame_buffer

/-- Pack a buffer and hand it to the widget. -/
def VideoRender.publish (memory : Nat → UInt8) (paintWidget : VideoRender) (buffer : I420Buffer) :
    VideoRender :=
  match pack memory buffer with
  | none => { paintWidget with fault := some .overflow }
  | some yuvBuffer =>
    ((paintWidget.SetVideoSize buffer.width buffer.height).SetYUVData yuvBuffer).SetViewStated true

variable (memory : Nat → UInt8) (screen : Screen) (mWindowID : WindowId)
  (frame : VideoFrame I420Buffer)

/-- What the two callbacks do to the screen; `none` where they find no widget and return. -/
def showFrame : Option Screen :=
  let buffer := lib.upright frame
  match screen mWindowID with
  | none => none
  | some paintWidget =>
    some (Function.update screen mWindowID (some (paintWidget.publish memory buffer)))

def WebrtcVideoFrame.OnFrame : Screen :=
  match showFrame lib memory screen mWindowID frame with
  | none => screen
  | some screen => screen

end

/-! ## Publishing next to painting -/

/-- A frame that `OnFrame` has packed. -/
structure PackedFrame where
  width : Nat
  height : Nat
  yuvData : Block UInt8
  sized : yuvData.size = width * height * 3 / 2

/-- Where `OnFrame` stands between its three calls of the widget. -/
inductive Writer where
  | idle
  | sized (frame : PackedFrame)
  | filled

/-- A widget, the callback that writes to it, and the frame whose bytes were last handed to
it. -/
structure Publishing where
  widget : VideoRender
  writer : Writer := .idle
  held : Option PackedFrame := none

/-- The steps no other step can come between. -/
inductive PublishStep where
  | SetVideoSize (frame : PackedFrame)
  | SetYUVData
  | SetViewStated
  | paintGL

/-- The callback makes its calls in their order; the widget is painted at any time. -/
def Publishing.step (s : Publishing) : PublishStep → Publishing
  | .SetVideoSize frame =>
    match s.writer with
    | .idle =>
      { s with widget := s.widget.SetVideoSize frame.width frame.height, writer := .sized frame }
    | _ => s
  | .SetYUVData =>
    match s.writer with
    | .sized frame =>
      { widget := s.widget.SetYUVData frame.yuvData, writer := .filled, held := some frame }
    | _ => s
  | .SetViewStated =>
    match s.writer with
    | .filled => { s with widget := s.widget.SetViewStated true, writer := .idle }
    | _ => s
  | .paintGL => { s with widget := s.widget.paintGL }

end WebrtcDemo
