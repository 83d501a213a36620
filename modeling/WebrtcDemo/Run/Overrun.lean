import WebrtcDemo.Run.Packing
import WebrtcDemo.Lib.Machine
import WebrtcDemo.Video.Capture

/-!
# The buffer of a widget

The constructor allocates for the largest size it knows, and no later step compares a frame
with it. The size of a frame is its sender's choice, and turning it swaps width and height
but keeps their product.
-/

namespace WebrtcDemo

/-! ## A widget -/

namespace VideoRender

section
variable {v : VideoRender} {memory : Nat → UInt8} {buffer : I420Buffer} {yuvData : Block UInt8}

/-- `SetYUVData` comes to no fault if and only if every byte it writes has an index below
the size of the buffer, and the bytes are there to be read. -/
theorem SetYUVData_fault_iff : (v.SetYUVData yuvData).fault = none ↔
    ∃ n, yuvSize v.mVideoW v.mVideoH = some n ∧ n ≤ yuvData.size ∧ (∀ i < n, i < bufferSize) ∧
      v.fault = none := by
  rw [SetYUVData]
  cases yuvSize v.mVideoW v.mVideoH with
  | none => simp
  | some n =>
    have within : (∀ i < n, i < bufferSize) ↔ 0 + n ≤ v.buffer.size := by
      rw [Nat.zero_add]
      exact forall_lt_iff_le
    simp only [Option.some.injEq, exists_eq_left']
    rw [within, ← and_assoc, ← Block.copy_isSome_iff]
    cases v.buffer.copy 0 yuvData n <;> simp

variable (v yuvData) in
/-- The size stays what `SetVideoSize` made it. -/
theorem SetYUVData_size : (v.SetYUVData yuvData).mVideoW = v.mVideoW ∧
    (v.SetYUVData yuvData).mVideoH = v.mVideoH ∧
    (v.SetYUVData yuvData).viewFlag = v.viewFlag := by
  rw [SetYUVData]
  split
  · exact ⟨rfl, rfl, rfl⟩
  · split <;> exact ⟨rfl, rfl, rfl⟩

theorem publish_of_pack {packed : Block UInt8} (packs : pack memory buffer = some packed) :
    v.publish memory buffer =
      ((v.SetVideoSize buffer.width buffer.height).SetYUVData packed).SetViewStated true := by
  rw [publish, packs]

/-- The widget takes a frame without a fault if and only if the frame fits. -/
theorem publish_fault_iff : (v.publish memory buffer).fault = none ↔
    buffer.width * buffer.height ≤ mMaxVideoW * mMaxVideoH ∧ v.fault = none := by
  by_cases range : buffer.width * buffer.height * 3 < 2 ^ 31
  · obtain ⟨packed, packs, size, -⟩ := pack_cells memory buffer range
    have fits : (∀ i < buffer.width * buffer.height * 3 / 2, i < bufferSize) ↔
        buffer.width * buffer.height ≤ mMaxVideoW * mMaxVideoH :=
      forall_lt_iff_le.trans size_le_iff
    rw [publish_of_pack packs, SetViewStated, SetYUVData_fault_iff]
    simp only [SetVideoSize]
    rw [yuvSize_of_lt range, ← fits]
    simp [size]
  · have unpacked : pack memory buffer = none := by
      rw [Option.eq_none_iff_forall_ne_some]
      exact fun packed packs => range (lt_of_pack packs)
    have large : ¬ buffer.width * buffer.height ≤ mMaxVideoW * mMaxVideoH := fun small =>
      range (by have area := area_lt small; omega)
    rw [publish, unpacked]
    simp [large]

/-- Without a fault, the size of the widget is one that fits. -/
def Fits (v : VideoRender) : Prop :=
  v.fault = none → v.mVideoW * v.mVideoH ≤ mMaxVideoW * mMaxVideoH

theorem fits_publish : (v.publish memory buffer).Fits := by
  intro clear
  obtain ⟨small, -⟩ := publish_fault_iff.1 clear
  have area := area_lt small
  obtain ⟨packed, packs, -⟩ := pack_cells memory buffer (by omega)
  rw [publish_of_pack packs]
  obtain ⟨width, height, -⟩ :=
    SetYUVData_size (v.SetVideoSize buffer.width buffer.height) packed
  simp only [SetViewStated]
  rw [width, height]
  exact small

variable (v) in
/-- Painting changes none of what it reads. -/
theorem paintGL_size : v.paintGL.mVideoW = v.mVideoW ∧ v.paintGL.mVideoH = v.mVideoH ∧
    v.paintGL.viewFlag = v.viewFlag ∧ v.paintGL.pBufYuv420p = v.pBufYuv420p := by
  rw [paintGL]
  split_ifs
  · split <;> exact ⟨rfl, rfl, rfl, rfl⟩
  · exact ⟨rfl, rfl, rfl, rfl⟩

theorem Fits.paintGL (fits : v.Fits) : v.paintGL.Fits := by
  intro clear
  obtain ⟨width, height, -⟩ := paintGL_size v
  rw [width, height]
  by_contra large
  exact paintGL_fault (mt fits large) clear

/-- Painting a size that fits is no fault. -/
theorem paintGL_clear (fits : v.Fits) (clear : v.fault = none) : v.paintGL.fault = none := by
  by_cases shown : v.viewFlag = true
  · rw [paintGL_of_lt (area_lt (fits clear)) shown]
    exact clear
  · rw [VideoRender.paintGL, if_neg shown]
    exact clear

end

end VideoRender

open VideoRender (mMaxVideoW mMaxVideoH publish_fault_iff fits_publish paintGL_clear)

/-! ## The screen -/

/-- No widget has come to a fault. -/
def Screen.Sound (screen : Screen) : Prop := ∀ window v, screen window = some v → v.fault = none

def Screen.Fits (screen : Screen) : Prop := ∀ window v, screen window = some v → v.Fits

section
variable {screen : Screen} {window : WindowId} {v : VideoRender}

/-- What is said of each widget holds after a change of one if it holds of that one. -/
theorem Screen.forall_update {P : VideoRender → Prop} {v? : Option VideoRender}
    (all : ∀ window v, screen window = some v → P v) (changed : ∀ v ∈ v?, P v) :
    ∀ window' v, Function.update screen window v? window' = some v → P v := by
  intro window' v there
  by_cases same : window' = window
  · subst same
    rw [Function.update_self] at there
    exact changed v there
  · rw [Function.update_of_ne same] at there
    exact all window' v there

variable (lib : FrameLibrary I420Buffer) (memory : Nat → UInt8) (frame : VideoFrame I420Buffer)

theorem upright_area : (lib.upright frame).width * (lib.upright frame).height =
    frame.width * frame.height := by
  have width := lib.width_Rotate frame.video_frame_buffer frame.rotation
  have height := lib.height_Rotate frame.video_frame_buffer frame.rotation
  rw [FrameLibrary.upright]
  split_ifs
  · refine (congrArg₂ (· * ·) width height).trans ?_
    cases frame.rotation.swaps
    · rfl
    · exact Nat.mul_comm _ _
  · rfl

theorem OnFrame_of_some (there : screen window = some v) :
    WebrtcVideoFrame.OnFrame lib memory screen window frame =
      Function.update screen window (some (v.publish memory (lib.upright frame))) := by
  simp only [WebrtcVideoFrame.OnFrame, showFrame, there]

theorem OnFrame_of_none (absent : screen window = none) :
    WebrtcVideoFrame.OnFrame lib memory screen window frame = screen := by
  simp only [WebrtcVideoFrame.OnFrame, showFrame, absent]

/-- The two callbacks do the same to the screen. -/
theorem captured_screen {σ : Type*} (adapter : VideoAdapter σ) (s : Camera σ) :
    (VcmCapture.OnFrame lib adapter memory s frame).screen =
      WebrtcVideoFrame.OnFrame lib memory s.screen s.capturer.mWindowID frame := by
  rw [VcmCapture.OnFrame, WebrtcVideoFrame.OnFrame]
  cases showFrame lib memory s.screen s.capturer.mWindowID frame <;> rfl

theorem Screen.Fits.OnFrame (fits : screen.Fits) :
    Screen.Fits (WebrtcVideoFrame.OnFrame lib memory screen window frame) := by
  cases there : screen window with
  | none => exact (OnFrame_of_none lib memory frame there).symm ▸ fits
  | some v =>
    rw [OnFrame_of_some lib memory frame there]
    refine Screen.forall_update fits fun v' found => ?_
    cases found
    exact fits_publish

/-- A frame keeps the screen sound if and only if it fits, or there is no widget for it. -/
theorem Screen.Sound.OnFrame_iff (sound : screen.Sound) :
    Screen.Sound (WebrtcVideoFrame.OnFrame lib memory screen window frame) ↔
      ((screen window).isSome → frame.width * frame.height ≤ mMaxVideoW * mMaxVideoH) := by
  cases there : screen window with
  | none =>
    rw [OnFrame_of_none lib memory frame there]
    exact iff_of_true sound nofun
  | some v =>
    rw [OnFrame_of_some lib memory frame there, Option.isSome_some, ← upright_area lib]
    constructor
    · intro after _
      exact (publish_fault_iff.1 (after window _ (Function.update_self ..))).1
    · intro small
      refine Screen.forall_update sound fun v' found => ?_
      cases found
      exact publish_fault_iff.2 ⟨small rfl, sound window v there⟩

end

/-! ## Runs -/

namespace Camera

section
variable {σ : Type*} (lib : FrameLibrary I420Buffer) (adapter : VideoAdapter σ)

/-- A program without a widget. -/
def start (capturer : VcmCapture σ) : Camera σ := ⟨capturer, fun _ => none⟩

/-- The frames that come to a widget are no larger than its buffer. -/
def Delivers (s : Camera σ) : ScreenEvent → Prop
  | .captured _ frame =>
    (s.screen s.capturer.mWindowID).isSome → frame.width * frame.height ≤ mMaxVideoW * mMaxVideoH
  | .received _ mWindowID frame =>
    (s.screen mWindowID).isSome → frame.width * frame.height ≤ mMaxVideoW * mMaxVideoH
  | _ => True

variable {lib adapter}

theorem fits_step {s : Camera σ} (e : ScreenEvent) (fits : s.screen.Fits) :
    (s.step lib adapter e).screen.Fits := by
  cases e with
  | captured memory frame =>
    rw [step, captured_screen]
    exact fits.OnFrame lib memory frame
  | received memory mWindowID frame => exact fits.OnFrame lib memory frame
  | SetWindowID inWindowID => exact fits
  | opened window memory =>
    refine Screen.forall_update fits fun v found => ?_
    cases found
    exact fun _ => Nat.zero_le _
  | closed window => exact Screen.forall_update fits nofun
  | paintGL window =>
    refine Screen.forall_update fits fun v found => ?_
    obtain ⟨before, there, rfl⟩ := Option.map_eq_some_iff.1 found
    exact (fits window before there).paintGL

theorem sound_step_iff {s : Camera σ} (e : ScreenEvent) (fits : s.screen.Fits)
    (sound : s.screen.Sound) : (s.step lib adapter e).screen.Sound ↔ s.Delivers e := by
  cases e with
  | captured memory frame =>
    rw [step, captured_screen]
    exact sound.OnFrame_iff lib memory frame
  | received memory mWindowID frame => exact sound.OnFrame_iff lib memory frame
  | SetWindowID inWindowID => exact iff_of_true sound trivial
  | opened window memory =>
    refine iff_of_true (Screen.forall_update sound fun v found => ?_) trivial
    cases found
    rfl
  | closed window => exact iff_of_true (Screen.forall_update sound nofun) trivial
  | paintGL window =>
    refine iff_of_true (Screen.forall_update sound fun v found => ?_) trivial
    obtain ⟨before, there, rfl⟩ := Option.map_eq_some_iff.1 found
    exact paintGL_clear (fits window before there) (sound window before there)

end

/-- **No frame is written beyond the buffer of its widget**, all along a run, if and only if
each frame that comes to a widget fits. -/
theorem sound_iff_delivers {σ : Type*} (lib : FrameLibrary I420Buffer) (adapter : VideoAdapter σ)
    (capturer : VcmCapture σ) (es : List ScreenEvent) :
    Machine.Throughout (step lib adapter) (fun s => s.screen.Sound) (start capturer) es ↔
      Machine.Along (step lib adapter) Delivers (start capturer) es :=
  Machine.throughout_iff_along (Q := fun s : Camera σ => s.screen.Fits)
    (fun _ e fits => fits_step e fits) (fun _ e _ fits sound => sound_step_iff e fits sound)
    (fun _ _ => nofun) (fun _ _ => nofun)

/-- A frame of 2560 by 1440 samples overruns the buffer. -/
theorem large_frame_overruns :
    ¬ ∀ (lib : FrameLibrary I420Buffer) (adapter : VideoAdapter Unit) (capturer : VcmCapture Unit)
      (es : List ScreenEvent),
      Machine.Throughout (step lib adapter) (fun s => s.screen.Sound) (start capturer) es := by
  intro always
  let zero : Nat → Nat → UInt8 := fun _ _ => 0
  let frame : VideoFrame I420Buffer :=
    { video_frame_buffer := .tight 2560 1440 (by decide) (by decide) zero zero zero
      rotation := .kVideoRotation_0
      timestamp_us := 0
      id := 0 }
  let screen : Screen := Function.update (fun _ => none) 7 (some { pBufYuv420p := fun _ => 0 })
  have sound : screen.Sound :=
    Screen.forall_update (fun _ _ => nofun) fun v found => by cases found; rfl
  have after : Screen.Sound (WebrtcVideoFrame.OnFrame .sample (fun _ => 0) screen 7 frame) :=
    (always .sample (fun s _ _ _ => (s, none)) ⟨⟨(), [], [], [], false⟩, 0⟩
      [.opened 7 fun _ => 0, .received (fun _ => 0) 7 frame]).last
  exact absurd ((sound.OnFrame_iff .sample (fun _ => 0) frame).1 after rfl) (by decide)

end Camera

end WebrtcDemo
