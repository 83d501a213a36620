import WebrtcDemo.Run.Overrun

/-!
# Sizes and bytes

`SetVideoSize` takes effect at once and without the mutex, while the buffer still holds the
frame before. A paint that comes in between uses the new size with the old bytes.
-/

namespace WebrtcDemo

open VideoRender (mMaxVideoW mMaxVideoH SetYUVData_size SetYUVData_of_le SetYUVData_of_lt
  paintGL_size paintGL_fault publish_of_pack)

namespace PackedFrame

/-- The widget has the size of the frame. -/
def SizeOf (frame : PackedFrame) (v : VideoRender) : Prop :=
  v.mVideoW = frame.width ∧ v.mVideoH = frame.height

/-- The bytes of the frame are in the buffer of the widget. -/
def BytesOf (frame : PackedFrame) (v : VideoRender) : Prop :=
  ∀ i < frame.yuvData.size, v.pBufYuv420p i = frame.yuvData.cell i

end PackedFrame

namespace Publishing

/-- A widget just made. -/
def start (memory : Nat → UInt8) : Publishing := { widget := { pBufYuv420p := memory } }

/-- If a paint uploads textures, it uses the size of the frame that is held, and as long as
there is no fault the bytes of that frame are in the buffer. -/
def Uploads (s : Publishing) : PublishStep → Prop
  | .paintGL => s.widget.viewFlag = true → ∃ frame, s.held = some frame ∧ frame.SizeOf s.widget ∧
      (s.widget.fault = none → frame.BytesOf s.widget)
  | _ => True

/-- No paint comes after the size of a frame and before its bytes, unless the frame has the
size of the one before it. -/
def Untorn (s : Publishing) : PublishStep → Prop
  | .paintGL => ∀ next last, s.writer = .sized next → s.held = some last →
    next.width = last.width ∧ next.height = last.height
  | _ => True

/-- What the widget shows of the progress of the callback. -/
def Stands (s : Publishing) : Prop :=
  match s.writer with
  | .idle => s.widget.viewFlag = s.held.isSome ∧ ∀ frame, s.held = some frame → frame.SizeOf s.widget
  | .sized next => s.widget.viewFlag = s.held.isSome ∧ next.SizeOf s.widget
  | .filled => ∃ frame, s.held = some frame ∧ frame.SizeOf s.widget

section
variable {s : Publishing}

theorem stands_step (e : PublishStep) (stands : s.Stands) : (s.step e).Stands := by
  obtain ⟨widget, writer, held⟩ := s
  cases e with
  | SetVideoSize frame =>
    cases writer with
    | idle => exact ⟨stands.1, rfl, rfl⟩
    | sized next => exact stands
    | filled => exact stands
  | SetYUVData =>
    cases writer with
    | idle => exact stands
    | sized next =>
      obtain ⟨-, width, height⟩ := stands
      obtain ⟨sameW, sameH, -⟩ := SetYUVData_size widget next.yuvData
      exact ⟨next, rfl, sameW.trans width, sameH.trans height⟩
    | filled => exact stands
  | SetViewStated =>
    cases writer with
    | idle => exact stands
    | sized next => exact stands
    | filled =>
      obtain ⟨frame, rfl, size⟩ := stands
      refine ⟨rfl, fun frame' same => ?_⟩
      cases same
      exact size
  | paintGL =>
    obtain ⟨width, height, shown, -⟩ := paintGL_size widget
    have keeps : ∀ frame : PackedFrame, frame.SizeOf widget → frame.SizeOf widget.paintGL :=
      fun frame size => ⟨width.trans size.1, height.trans size.2⟩
    cases writer with
    | idle => exact ⟨shown.trans stands.1, fun frame there => keeps frame (stands.2 frame there)⟩
    | sized next => exact ⟨shown.trans stands.1, keeps next stands.2⟩
    | filled =>
      obtain ⟨frame, there, size⟩ := stands
      exact ⟨frame, there, keeps frame size⟩

/-- As long as there is no fault, the bytes of the frame that is held are in the buffer. -/
def Holds (s : Publishing) : Prop :=
  s.widget.fault = none → ∀ frame, s.held = some frame → frame.BytesOf s.widget

theorem holds_step (e : PublishStep) (stands : s.Stands) (holds : s.Holds) : (s.step e).Holds := by
  obtain ⟨widget, writer, held⟩ := s
  cases e with
  | SetVideoSize frame =>
    cases writer with
    | idle => exact holds
    | sized next => exact holds
    | filled => exact holds
  | SetYUVData =>
    cases writer with
    | idle => exact holds
    | sized next =>
      obtain ⟨-, width, height⟩ := stands
      have sized : next.yuvData.size = widget.mVideoW * widget.mVideoH * 3 / 2 := by
        rw [width, height]
        exact next.sized
      rintro clear _ ⟨⟩ i inside
      by_cases small : widget.mVideoW * widget.mVideoH ≤ mMaxVideoW * mMaxVideoH
      · simp only [step]
        rw [SetYUVData_of_le small sized]
        exact if_pos inside
      · exact absurd clear (SetYUVData_of_lt (Nat.lt_of_not_le small))
    | filled => exact holds
  | SetViewStated =>
    cases writer with
    | idle => exact holds
    | sized next => exact holds
    | filled => exact holds
  | paintGL =>
    obtain ⟨-, -, -, bytes⟩ := paintGL_size widget
    intro clear frame there i inside
    have before : widget.fault = none := by
      by_contra fault
      exact paintGL_fault fault clear
    exact (congrFun bytes i).trans (holds before frame there i inside)

/-- The size of the widget is that of the frame that is coming, once it is set. -/
theorem uploads_iff (e : PublishStep) (stands : s.Stands) (holds : s.Holds) :
    s.Uploads e ↔ s.Untorn e := by
  obtain ⟨widget, writer, held⟩ := s
  cases e with
  | paintGL =>
    have bytes {frame : PackedFrame} (there : held = some frame) (clear : widget.fault = none) :
        frame.BytesOf widget := holds clear frame there
    cases writer with
    | idle =>
      refine iff_of_true (fun shown => ?_) nofun
      obtain ⟨flag, size⟩ := stands
      obtain ⟨frame, there⟩ := Option.isSome_iff_exists.1 (flag.symm.trans shown)
      exact ⟨frame, there, size frame there, bytes there⟩
    | sized next =>
      obtain ⟨flag, width, height⟩ := stands
      cases held with
      | none => exact iff_of_true (fun shown => nomatch flag.symm.trans shown) nofun
      | some last =>
        constructor
        · rintro uploads next' last' ⟨⟩ ⟨⟩
          obtain ⟨_, ⟨⟩, ⟨sameW, sameH⟩, -⟩ := uploads flag
          exact ⟨width.symm.trans sameW, height.symm.trans sameH⟩
        · intro untorn _
          obtain ⟨sameW, sameH⟩ := untorn next last rfl rfl
          exact ⟨last, rfl, ⟨width.trans sameW, height.trans sameH⟩, bytes rfl⟩
    | filled =>
      refine iff_of_true (fun _ => ?_) nofun
      obtain ⟨frame, there, size⟩ := stands
      exact ⟨frame, there, size, bytes there⟩
  | SetVideoSize frame => exact Iff.rfl
  | SetYUVData => exact Iff.rfl
  | SetViewStated => exact Iff.rfl

end

theorem start_stands_holds (memory : Nat → UInt8) : (start memory).Stands ∧ (start memory).Holds :=
  ⟨⟨rfl, nofun⟩, fun _ => nofun⟩

theorem stands_holds_step (s : Publishing) (e : PublishStep) (both : s.Stands ∧ s.Holds) :
    (s.step e).Stands ∧ (s.step e).Holds :=
  ⟨stands_step e both.1, holds_step e both.1 both.2⟩

/-- **The frame that is held is the one whose bytes are in the buffer**, in every state
without a fault. -/
theorem throughout_holds (memory : Nat → UInt8) (es : List PublishStep) :
    Machine.Throughout step Holds (start memory) es := by
  have both := Machine.throughout_of_keeps (fun s e both _ => stands_holds_step s e both)
    (start_stands_holds memory) (Machine.along_true es)
  exact both.mono fun _ => And.right

/-- The steps of the callback, one after another, are what it does when it is alone. -/
theorem run_publishes {v : VideoRender} {memory : Nat → UInt8} {buffer : I420Buffer}
    {frame : PackedFrame} (packs : pack memory buffer = some frame.yuvData)
    (width : frame.width = buffer.width) (height : frame.height = buffer.height)
    (held : Option PackedFrame) :
    Machine.run step ⟨v, .idle, held⟩ [.SetVideoSize frame, .SetYUVData, .SetViewStated] =
      ⟨v.publish memory buffer, .idle, some frame⟩ := by
  rw [publish_of_pack packs, ← width, ← height]
  rfl

/-- **Every paint uses the size of the frame whose bytes are in the buffer** if and only if
none comes between the size and the bytes of a frame of another size. -/
theorem uploads_iff_untorn (memory : Nat → UInt8) (es : List PublishStep) :
    Machine.Along step Uploads (start memory) es ↔ Machine.Along step Untorn (start memory) es :=
  Machine.along_congr stands_holds_step (fun _ e _ both => uploads_iff e both.1 both.2)
    (start_stands_holds memory)

/-- The bytes of a square of two samples are painted as a square of four. -/
theorem torn_paint :
    ¬ ∀ (memory : Nat → UInt8) (es : List PublishStep),
      Machine.Along step Uploads (start memory) es := by
  intro always
  let small : PackedFrame := ⟨2, 2, ⟨6, fun _ => 0⟩, rfl⟩
  let large : PackedFrame := ⟨4, 4, ⟨24, fun _ => 0⟩, rfl⟩
  obtain ⟨-, -, -, -, uploads, -⟩ := always (fun _ => 0)
    [.SetVideoSize small, .SetYUVData, .SetViewStated, .SetVideoSize large, .paintGL]
  obtain ⟨_, ⟨⟩, ⟨width, -⟩, -⟩ := uploads rfl
  exact absurd width (by decide)

end Publishing

end WebrtcDemo
