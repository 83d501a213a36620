import WebrtcDemo.Lib.Machine
import WebrtcDemo.Video.Capture

/-!
# The preview

`VcmCapture::OnFrame` returns when there is no widget for its preview, before it comes to
`VideoCapture::OnFrame`. So the frames that are sent are those captured while the preview
has a widget; nothing else about the preview matters.
-/

namespace WebrtcDemo

/-! ## A frame -/

namespace Camera

section
variable {σ : Type*} (lib : FrameLibrary I420Buffer) (adapter : VideoAdapter σ)

/-- The preview has a widget. -/
def Previews (s : Camera σ) : Prop := (s.screen s.capturer.mWindowID).isSome

variable {lib adapter} {memory : Nat → UInt8} {s : Camera σ} {frame : VideoFrame I420Buffer}

theorem OnFrame_of_previews (previews : s.Previews) :
    (VcmCapture.OnFrame lib adapter memory s frame).capturer = { s.capturer with
      toVideoCapture := s.capturer.toVideoCapture.OnFrame lib adapter frame } := by
  obtain ⟨v, there⟩ := Option.isSome_iff_exists.1 previews
  simp only [VcmCapture.OnFrame, showFrame, there]

theorem OnFrame_of_unseen (unseen : ¬ s.Previews) :
    VcmCapture.OnFrame lib adapter memory s frame = s := by
  have absent : s.screen s.capturer.mWindowID = none := by simpa [Previews] using unseen
  simp only [VcmCapture.OnFrame, showFrame, absent]

/-- A frame opens no window and closes none. -/
theorem OnFrame_present (window : WindowId) :
    ((VcmCapture.OnFrame lib adapter memory s frame).screen window).isSome =
      (s.screen window).isSome := by
  by_cases previews : s.Previews
  · obtain ⟨v, there⟩ := Option.isSome_iff_exists.1 previews
    simp only [VcmCapture.OnFrame, showFrame, there]
    by_cases same : window = s.capturer.mWindowID
    · rw [same, Function.update_self, there, Option.isSome_some, Option.isSome_some]
    · rw [Function.update_of_ne same]
  · rw [OnFrame_of_unseen previews]

theorem OnFrame_window :
    (VcmCapture.OnFrame lib adapter memory s frame).capturer.mWindowID = s.capturer.mWindowID := by
  by_cases previews : s.Previews
  · rw [OnFrame_of_previews previews]
  · rw [OnFrame_of_unseen previews]

end

end Camera

/-! ## Assignments of preview windows -/

/-- What the program does to the preview between two frames. -/
inductive PreviewEvent where
  | SetWindowID (inWindowID : WindowId)
  | opened (window : WindowId) (memory : Nat → UInt8)
  | closed (window : WindowId)

def PreviewEvent.event : PreviewEvent → ScreenEvent
  | .SetWindowID inWindowID => .SetWindowID inWindowID
  | .opened window memory => .opened window memory
  | .closed window => .closed window

/-- The window that is set, and the windows there are. -/
structure Presence where
  mWindowID : WindowId
  present : WindowId → Bool

namespace Presence

def step (p : Presence) : PreviewEvent → Presence
  | .SetWindowID inWindowID => { p with mWindowID := inWindowID }
  | .opened window _ => { p with present := Function.update p.present window true }
  | .closed window => { p with present := Function.update p.present window false }

def shown (p : Presence) : Bool := p.present p.mWindowID

end Presence

/-- What happens to the preview before each frame, and what the allocation for the frame
holds. -/
structure Assignment where
  before : Nat → List PreviewEvent
  memory : Nat → Nat → UInt8

namespace Assignment

/-- The assignment from the next frame on. -/
def tail (a : Assignment) : Assignment := ⟨fun k => a.before (k + 1), fun k => a.memory (k + 1)⟩

/-- The frames under the assignment. -/
def script (a : Assignment) : List (VideoFrame I420Buffer) → List ScreenEvent
  | [] => []
  | frame :: more =>
    (a.before 0).map PreviewEvent.event ++ .captured (a.memory 0) frame :: a.tail.script more

/-- The preview as the first frame finds it. -/
def found (a : Assignment) (p : Presence) : Presence := Machine.run Presence.step p (a.before 0)

/-- Whether the preview has a widget when frame `k` comes. -/
def shown (a : Assignment) (p : Presence) : Nat → Bool
  | 0 => (a.found p).shown
  | k + 1 => a.tail.shown (a.found p) k

/-- The frames that find a widget. -/
def sent (a : Assignment) (p : Presence) :
    List (VideoFrame I420Buffer) → List (VideoFrame I420Buffer)
  | [] => []
  | frame :: more =>
    if (a.found p).shown then frame :: a.tail.sent (a.found p) more
    else a.tail.sent (a.found p) more

section
variable {a b : Assignment} {p q : Presence}

theorem sent_congr (same : ∀ k, a.shown p k = b.shown q k) (frames : List (VideoFrame I420Buffer)) :
    a.sent p frames = b.sent q frames := by
  induction frames generalizing a b p q with
  | nil => rfl
  | cons frame more ih =>
    have first : (a.found p).shown = (b.found q).shown := same 0
    rw [sent, sent, first, ih fun k => same (k + 1)]

/-- The first frame alone tells whether it found a widget. -/
theorem found_of_sent {frame : VideoFrame I420Buffer} (same : a.sent p [frame] = b.sent q [frame]) :
    (a.found p).shown = (b.found q).shown := by
  simp only [sent] at same
  cases first : (a.found p).shown <;> cases second : (b.found q).shown <;>
    simp [first, second] at same ⊢

/-- The frames that are sent tell when there was a widget. -/
theorem shown_of_sent (frame : VideoFrame I420Buffer)
    (same : ∀ frames, a.sent p frames = b.sent q frames) (k : Nat) :
    a.shown p k = b.shown q k := by
  have first := found_of_sent (same [frame])
  induction k generalizing a b p q with
  | zero => exact first
  | succ k ih =>
    have later : ∀ frames, a.tail.sent (a.found p) frames = b.tail.sent (b.found q) frames := by
      intro frames
      have all := same (frame :: frames)
      rw [sent, sent, first] at all
      split_ifs at all
      · exact (List.cons.inj all).2
      · exact all
    exact ih later (found_of_sent (later [frame]))

end

end Assignment

/-! ## Runs -/

namespace VideoCapture

variable {σ I : Type*} [Picture I] {lib : FrameLibrary I} {adapter : VideoAdapter σ}

theorem received_OnFrame (c : VideoCapture σ I) (frame : VideoFrame I) :
    (c.OnFrame lib adapter frame).received = c.received ++ [frame] := by
  rw [OnFrame]
  rcases adapter c.video_adapter_ frame.width frame.height (frame.timestamp_us * 1000) with
    ⟨next, _ | accepted⟩ <;> rfl

theorem received_run (c : VideoCapture σ I) (frames : List (VideoFrame I)) :
    (Machine.run (OnFrame lib adapter) c frames).received = c.received ++ frames := by
  induction frames generalizing c with
  | nil => exact (List.append_nil _).symm
  | cons frame more ih =>
    rw [Machine.run_cons, ih, received_OnFrame, List.append_assoc, List.singleton_append]

end VideoCapture

namespace Camera

section
variable {σ : Type*} {lib : FrameLibrary I420Buffer} {adapter : VideoAdapter σ} {s : Camera σ}

def presence (s : Camera σ) : Presence where
  mWindowID := s.capturer.mWindowID
  present window := (s.screen window).isSome

theorem presence_shown_iff : s.presence.shown = true ↔ s.Previews := Iff.rfl

variable (lib adapter s) in
theorem step_preview (e : PreviewEvent) :
    (s.step lib adapter e.event).presence = s.presence.step e ∧
      (s.step lib adapter e.event).capturer.toVideoCapture = s.capturer.toVideoCapture := by
  refine ⟨?_, by cases e <;> rfl⟩
  cases e with
  | SetWindowID inWindowID => rfl
  | opened window memory =>
    exact congrArg (Presence.mk s.capturer.mWindowID)
      (funext (Function.apply_update (fun _ => Option.isSome) s.screen window (some _)))
  | closed window =>
    exact congrArg (Presence.mk s.capturer.mWindowID)
      (funext (Function.apply_update (fun _ => Option.isSome) s.screen window none))

variable (lib adapter s) in
theorem run_preview (es : List PreviewEvent) :
    (Machine.run (step lib adapter) s (es.map PreviewEvent.event)).presence =
        Machine.run Presence.step s.presence es ∧
      (Machine.run (step lib adapter) s (es.map PreviewEvent.event)).capturer.toVideoCapture =
        s.capturer.toVideoCapture := by
  induction es generalizing s with
  | nil => exact ⟨rfl, rfl⟩
  | cons e more ih =>
    obtain ⟨presence, capturer⟩ := step_preview lib adapter s e
    obtain ⟨presence', capturer'⟩ := ih (s.step lib adapter e.event)
    rw [List.map_cons, Machine.run_cons, Machine.run_cons, presence', capturer', presence]
    exact ⟨rfl, capturer⟩

theorem OnFrame_presence {memory : Nat → UInt8} {frame : VideoFrame I420Buffer} :
    (VcmCapture.OnFrame lib adapter memory s frame).presence = s.presence := by
  rw [presence, OnFrame_window, presence]
  exact congrArg (Presence.mk _) (funext OnFrame_present)

/-- The frames that find a widget are those that come to the capturer. -/
theorem run_script (a : Assignment) (frames : List (VideoFrame I420Buffer)) :
    (Machine.run (step lib adapter) s (a.script frames)).capturer.toVideoCapture =
      Machine.run (VideoCapture.OnFrame lib adapter) s.capturer.toVideoCapture
        (a.sent s.presence frames) := by
  induction frames generalizing a s with
  | nil => rfl
  | cons frame more ih =>
    obtain ⟨presence, capturer⟩ := run_preview lib adapter s (a.before 0)
    rw [Assignment.script, Machine.run_append, Machine.run_cons, ih, step, OnFrame_presence,
      Assignment.sent, Assignment.found, ← presence, ← capturer]
    by_cases previews : Previews (Machine.run (step lib adapter) s ((a.before 0).map PreviewEvent.event))
    · rw [if_pos (presence_shown_iff.2 previews), OnFrame_of_previews previews, Machine.run_cons]
    · rw [if_neg (mt presence_shown_iff.1 previews), OnFrame_of_unseen previews]

end

/-- Under the two assignments the same frames come to the capturer, and the same frames are
broadcast. -/
def SendsSame {σ : Type*} (lib : FrameLibrary I420Buffer) (adapter : VideoAdapter σ) (s : Camera σ)
    (a b : Assignment) (frames : List (VideoFrame I420Buffer)) : Prop :=
  (Machine.run (step lib adapter) s (a.script frames)).capturer.received =
      (Machine.run (step lib adapter) s (b.script frames)).capturer.received ∧
    (Machine.run (step lib adapter) s (a.script frames)).capturer.broadcaster_ =
      (Machine.run (step lib adapter) s (b.script frames)).capturer.broadcaster_

/-- **What is sent is the same under two assignments**, whatever is captured, if and only if
before each frame the preview has a widget under both or under neither. -/
theorem sends_same_iff {σ : Type*} (lib : FrameLibrary I420Buffer) (adapter : VideoAdapter σ)
    (s : Camera σ) (a b : Assignment) :
    (∀ frames, s.SendsSame lib adapter a b frames) ↔
      ∀ k, a.shown s.presence k = b.shown s.presence k := by
  constructor
  · intro same
    refine Assignment.shown_of_sent .blank fun frames => ?_
    have received := (same frames).1
    rwa [run_script, run_script, VideoCapture.received_run, VideoCapture.received_run,
      List.append_cancel_left_eq] at received
  · intro same frames
    have sent := Assignment.sent_congr same frames
    rw [SendsSame, run_script, run_script, sent]
    exact ⟨rfl, rfl⟩

/-- With a preview the frame is sent, and without it is not. -/
theorem preview_decides : ¬ ∀ (adapter : VideoAdapter Unit) (s : Camera Unit) (a b : Assignment)
    (frames : List (VideoFrame I420Buffer)), s.SendsSame .sample adapter a b frames := by
  intro always
  have same := always (fun s _ _ _ => (s, none)) ⟨⟨⟨(), [], [], [], false⟩, 7⟩, fun _ => none⟩
    ⟨fun _ => [.opened 7 fun _ => 0], fun _ _ => 0⟩ ⟨fun _ => [], fun _ _ => 0⟩ [.blank]
  have received := congrArg List.length same.1
  rw [run_script, run_script] at received
  exact absurd received (by decide)

end Camera

end WebrtcDemo
