import WebrtcDemo.Lib.Gallery
import WebrtcDemo.Run.Overrun
import WebrtcDemo.Run.Preview

/-!
# What the widgets show

The screen with its camera is a gallery of frames: a widget holds the frame that came to it
last and every painting shows that frame, upright, sample for sample; and the capturer
passes on just the frames that its preview was given. This needs frames without gaps
between their rows and with rows that OpenGL reads as they are. Each callback is one step
here.
-/

namespace WebrtcDemo

/-! ## A widget and a buffer -/

/-- The textures show the samples of a buffer. -/
structure Painting.Pictures (p : Painting) (b : I420Buffer) : Prop where
  Y : ∀ r < b.height, ∀ c < b.width, p.Y.texel r c = some (b.Y r c)
  U : ∀ r < b.height / 2, ∀ c < b.width / 2, p.U.texel r c = some (b.U r c)
  V : ∀ r < b.height / 2, ∀ c < b.width / 2, p.V.texel r c = some (b.V r c)

/-- A buffer that is packed and shown as it is. -/
def I420Layout.Showable (g : I420Layout) : Prop :=
  g.Gapless ∧ VideoRender.Aligned g.width g.height

namespace VideoRender

/-- The widget holds the samples of a buffer, packed, and shows them. -/
structure Holds (v : VideoRender) (b : I420Buffer) : Prop where
  width : v.mVideoW = b.width
  height : v.mVideoH = b.height
  viewFlag : v.viewFlag = true
  Y : ∀ r < b.height, ∀ c < b.width, v.pBufYuv420p (r * b.width + c) = b.Y r c
  U : ∀ r < b.height / 2, ∀ c < b.width / 2,
    v.pBufYuv420p (b.width * b.height + r * (b.width / 2) + c) = b.U r c
  V : ∀ r < b.height / 2, ∀ c < b.width / 2,
    v.pBufYuv420p (b.width * b.height + b.width * b.height / 4 + r * (b.width / 2) + c) = b.V r c

section
variable {v : VideoRender} {b : I420Buffer}

/-- In planes without gaps a row of chroma begins where the packing has it. -/
theorem chroma_pitch (gapless : b.Gapless) {r c : Nat} (row : r < b.height / 2)
    (column : c < b.width / 2) :
    r * (b.width / 2) = r * b.StrideU ∧ r * (b.width / 2) = r * b.StrideV := by
  obtain ⟨-, -, low | thin | ⟨tightU, tightV⟩⟩ := gapless
  · obtain rfl : r = 0 := by omega
    rw [Nat.zero_mul, Nat.zero_mul, Nat.zero_mul]
    exact ⟨rfl, rfl⟩
  · omega
  · rw [tightU, tightV]
    exact ⟨rfl, rfl⟩

/-- A frame is taken. -/
theorem holds_publish (memory : Nat → UInt8) (showable : b.Showable) (clear : v.fault = none) :
    (v.publish memory b).Holds b ∧ (v.publish memory b).fault = none ∧
      (v.publish memory b).painted = v.painted := by
  obtain ⟨gapless, fits, -⟩ := showable
  have range := gapless.1
  obtain ⟨bytes, packed, size, cellsY, cellsU, cellsV⟩ := pack_cells memory b range
  have quarters : b.width * b.height + b.width * b.height / 4 + b.width * b.height / 4 ≤
      bytes.size := by
    rw [size]
    omega
  rw [publish_of_pack packed, SetYUVData_of_le fits size]
  refine ⟨⟨rfl, rfl, rfl, fun r row c column => ?_, fun r row c column => ?_,
    fun r row c column => ?_⟩, clear, rfl⟩
  · have packs := luma_lt row column
    have pitch : r * b.width = r * b.StrideY := by
      rcases gapless.2.1 with one | tight
      · obtain rfl : r = 0 := by omega
        rw [Nat.zero_mul, Nat.zero_mul]
      · rw [tight]
    simp only [SetVideoSize, SetViewStated]
    rw [if_pos (by omega), cellsY _ packs, I420Buffer.Y, pitch]
  · have packs := chroma_lt row column
    have pitch := (chroma_pitch gapless row column).1
    simp only [SetVideoSize, SetViewStated]
    rw [Nat.add_assoc, if_pos (by omega), cellsU _ packs, I420Buffer.U, pitch]
  · have packs := chroma_lt row column
    have pitch := (chroma_pitch gapless row column).2
    simp only [SetVideoSize, SetViewStated]
    rw [Nat.add_assoc _ (r * _), if_pos (by omega), cellsV _ packs, I420Buffer.V, pitch]

/-- A painting shows what the widget holds. -/
theorem Holds.paintGL (holds : v.Holds b) (aligned : Aligned b.width b.height) :
    v.paintGL.Holds b ∧ v.paintGL.fault = v.fault ∧
      ∃ p : Painting, v.paintGL.painted = v.painted ++ [p] ∧ p.Pictures b := by
  obtain ⟨small, rows⟩ := aligned
  have range := area_lt small
  have fits := size_le_iff.2 small
  rw [paintGL_of_lt (by rw [holds.width, holds.height]; exact range) holds.viewFlag]
  refine ⟨⟨holds.width, holds.height, holds.viewFlag, holds.Y, holds.U, holds.V⟩, rfl, _, rfl, ?_⟩
  -- the part of the buffer that is in use
  let packed : Block UInt8 := ⟨b.width * b.height * 3 / 2, v.pBufYuv420p⟩
  have within : packed.size ≤ v.buffer.size := fits
  have same : ∀ i < packed.size, v.buffer.cell i = packed.cell i := fun _ _ => rfl
  have lumaRows : b.height ≤ 1 ∨ b.width = 0 ∨ alignedRow b.width = b.width := by
    rw [alignedRow]
    omega
  have chromaRows : b.height / 2 ≤ 1 ∨ b.width / 2 = 0 ∨
      alignedRow (b.width / 2) = b.width / 2 := by
    rw [alignedRow]
    omega
  rw [holds.width, holds.height]
  refine ⟨fun r row c column => ?_, fun r row c column => ?_, fun r row c column => ?_⟩
  · have packs := luma_lt row column
    have inside : 0 + r * b.width + c < packed.size := by
      show _ < b.width * b.height * 3 / 2
      omega
    rw [texel_of_aligned within same lumaRows row column inside, Block.read_of_lt inside,
      Nat.zero_add]
    exact congrArg some (holds.Y r row c column)
  · have packs := chroma_lt row column
    have inside : b.width * b.height + r * (b.width / 2) + c < packed.size := by
      show _ < b.width * b.height * 3 / 2
      omega
    rw [texel_of_aligned within same chromaRows row column inside, Block.read_of_lt inside]
    exact congrArg some (holds.U r row c column)
  · have packs := chroma_lt row column
    have inside : b.width * b.height + b.width * b.height / 4 + r * (b.width / 2) + c <
        packed.size := by
      show _ < b.width * b.height * 3 / 2
      omega
    rw [texel_of_aligned within same chromaRows row column inside, Block.read_of_lt inside]
    exact congrArg some (holds.V r row c column)

end

end VideoRender

/-! ## The screen and the gallery -/

section
variable (lib : FrameLibrary I420Buffer)

/-- The widget holds the frame of the pane, and has shown what the pane has. -/
structure VideoRender.Realizes (v : VideoRender) (pane : Pane (VideoFrame I420Buffer)) : Prop where
  clear : v.fault = none
  shown : List.Forall₂ (fun p frame => p.Pictures (lib.upright frame)) v.painted pane.shown
  blank : pane.held = none → v.viewFlag = false
  held : ∀ frame ∈ pane.held, (lib.upright frame).Showable ∧ v.Holds (lib.upright frame)

/-- The camera with its screen, and a gallery of frames. -/
structure Camera.Realizes {σ : Type*} (s : Camera σ)
    (g : Gallery WindowId (VideoFrame I420Buffer)) : Prop where
  panes : Gallery.Realized (VideoRender.Realizes lib) s.screen g.panes
  preview : s.capturer.mWindowID = g.preview
  passed : s.capturer.received = g.passed

/-- What happens to the windows. -/
def ScreenEvent.seen : ScreenEvent → GalleryEvent WindowId (VideoFrame I420Buffer)
  | .captured _ frame => .captured frame
  | .received _ mWindowID frame => .received mWindowID frame
  | .SetWindowID inWindowID => .previewIn inWindowID
  | .opened window _ => .opened window
  | .closed window => .closed window
  | .paintGL window => .painted window

/-- A frame that comes to a widget can be shown. -/
def Camera.Shows {σ : Type*} (s : Camera σ) : ScreenEvent → Prop
  | .captured _ frame =>
    (s.screen s.capturer.mWindowID).isSome → (lib.upright frame).Showable
  | .received _ mWindowID frame => (s.screen mWindowID).isSome → (lib.upright frame).Showable
  | _ => True

end

section
variable {lib : FrameLibrary I420Buffer} {v : VideoRender} {pane : Pane (VideoFrame I420Buffer)}
  {frame : VideoFrame I420Buffer}

namespace VideoRender.Realizes

theorem opened (memory : Nat → UInt8) :
    VideoRender.Realizes lib { pBufYuv420p := memory } ({} : Pane (VideoFrame I420Buffer)) :=
  ⟨rfl, .nil, fun _ => rfl, fun _ => nofun⟩

theorem deliver (realizes : v.Realizes lib pane) (showable : (lib.upright frame).Showable)
    (memory : Nat → UInt8) :
    (v.publish memory (lib.upright frame)).Realizes lib (pane.deliver frame) := by
  obtain ⟨holds, clear, painted⟩ := VideoRender.holds_publish memory showable realizes.clear
  refine ⟨clear, ?_, nofun, fun other there => ?_⟩
  · rw [painted]
    exact realizes.shown
  · cases there
    exact ⟨showable, holds⟩

theorem paint (realizes : v.Realizes lib pane) : v.paintGL.Realizes lib pane.paint := by
  cases there : pane.held with
  | none =>
    have same : v.paintGL = v := by
      rw [VideoRender.paintGL, realizes.blank there, if_neg (by decide)]
    rw [same]
    refine ⟨realizes.clear, ?_, fun _ => realizes.blank there, realizes.held⟩
    rw [Pane.paint, there]
    simpa using realizes.shown
  | some frame =>
    obtain ⟨showable, holds⟩ := realizes.held frame there
    obtain ⟨holds', fault, p, painted, pictures⟩ := holds.paintGL showable.2
    refine ⟨fault.trans realizes.clear, ?_, fun nothing => ?_, fun other there' => ?_⟩
    · rw [painted, Pane.paint, there]
      exact List.rel_append realizes.shown (.cons pictures .nil)
    · cases there.symm.trans nothing
    · obtain rfl : frame = other := Option.some.inj (there.symm.trans there')
      exact ⟨showable, holds'⟩

end VideoRender.Realizes

end

/-! ## Runs -/

section
variable {lib : FrameLibrary I420Buffer} {σ : Type*} {adapter : VideoAdapter σ} {s : Camera σ}
  {g : Gallery WindowId (VideoFrame I420Buffer)}

/-- A frame comes to a window. -/
theorem realized_deliver {screen : Screen}
    {panes : WindowId → Option (Pane (VideoFrame I420Buffer))}
    (realized : Gallery.Realized (VideoRender.Realizes lib) screen panes) {window : WindowId}
    {frame : VideoFrame I420Buffer}
    (showable : (screen window).isSome → (lib.upright frame).Showable) (memory : Nat → UInt8) :
    Gallery.Realized (VideoRender.Realizes lib)
      (WebrtcVideoFrame.OnFrame lib memory screen window frame)
      (Function.update panes window ((panes window).map (·.deliver frame))) := by
  have mapped : Gallery.Realized (VideoRender.Realizes lib)
      (Function.update screen window ((screen window).map (·.publish memory (lib.upright frame))))
      (Function.update panes window ((panes window).map (·.deliver frame))) :=
    realized.map fun v pane there realizes => realizes.deliver (showable (by simp [there])) memory
  cases there : screen window with
  | none =>
    rw [there, Option.map_none, Function.update_eq_self_iff.2 there.symm] at mapped
    rwa [OnFrame_of_none lib memory frame there]
  | some v =>
    rw [there] at mapped
    rwa [OnFrame_of_some lib memory frame there]

/-- **One event** does to the gallery what it does to the screen. -/
theorem Camera.Realizes.step (realizes : s.Realizes lib g) {e : ScreenEvent} (shows : s.Shows lib e) :
    (s.step lib adapter e).Realizes lib (g.step e.seen) := by
  cases e with
  | captured memory frame =>
    have delivered := realized_deliver realizes.panes shows memory
    have open_ : (g.panes g.preview).isSome = (s.screen s.capturer.mWindowID).isSome :=
      realizes.preview ▸ realizes.panes.isSome _
    rw [Camera.step, ScreenEvent.seen, Gallery.step]
    by_cases previews : s.Previews
    · rw [if_pos (open_.trans previews)]
      refine ⟨?_, ?_, ?_⟩
      · rw [captured_screen, ← realizes.preview]
        exact delivered
      · exact Camera.OnFrame_window.trans realizes.preview
      · rw [Camera.OnFrame_of_previews previews]
        exact (VideoCapture.received_OnFrame _ _).trans (congrArg (· ++ [frame]) realizes.passed)
    · rw [if_neg (open_.symm ▸ previews), Camera.OnFrame_of_unseen previews]
      exact realizes
  | received memory window frame =>
    exact ⟨realized_deliver realizes.panes shows memory, realizes.preview, realizes.passed⟩
  | SetWindowID window => exact ⟨realizes.panes, rfl, realizes.passed⟩
  | opened window memory =>
    exact ⟨realizes.panes.update (.some (.opened memory)), realizes.preview, realizes.passed⟩
  | closed window => exact ⟨realizes.panes.update .none, realizes.preview, realizes.passed⟩
  | paintGL window =>
    exact ⟨realizes.panes.map fun _ _ _ realizes => realizes.paint, realizes.preview,
      realizes.passed⟩

end

end WebrtcDemo
