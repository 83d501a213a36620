import WebrtcDemo.Run.Gallery
import WebrtcDemo.Video.Threads

/-!
# Callbacks that nothing comes between

As long as nothing else comes at the widget of a callback before this returns, the calls of
the callbacks may come in any order: what the callbacks under way will have made of the
screen is what they would have made of it at once. So the screen is a gallery under its
callbacks too.
-/

namespace WebrtcDemo

/-- The calls that are left, one after another. -/
def FrameCallback.publish (callback : FrameCallback) (v : VideoRender) : VideoRender :=
  callback.calls.foldl VideoRender.call v

theorem VideoRender.call_painted (v : VideoRender) (call : WidgetCall) :
    (v.call call).painted = v.painted := by
  cases call with
  | SetYUVData yuvBuffer =>
    show (v.SetYUVData yuvBuffer).painted = v.painted
    unfold VideoRender.SetYUVData
    split
    · rfl
    · split <;> rfl
  | _ => rfl

/-- A callback paints nothing. -/
theorem FrameCallback.publish_painted (callback : FrameCallback) (v : VideoRender) :
    (callback.publish v).painted = v.painted := by
  unfold FrameCallback.publish
  generalize callback.calls = calls
  induction calls generalizing v with
  | nil => rfl
  | cons call calls ih => exact (ih _).trans (v.call_painted call)

/-- The event where callbacks are one step; a step inside a callback is none. -/
def ThreadEvent.whole? : ThreadEvent → Option ScreenEvent
  | .captured memory frame => some (.captured memory frame)
  | .received _ memory mWindowID frame => some (.received memory mWindowID frame)
  | .next _ => none
  | .SetWindowID inWindowID => some (.SetWindowID inWindowID)
  | .opened window memory => some (.opened window memory)
  | .closed window => some (.closed window)
  | .paintGL window => some (.paintGL window)

/-- What happens to the windows. -/
def ThreadEvent.seen? (e : ThreadEvent) : Option (GalleryEvent WindowId (VideoFrame I420Buffer)) :=
  e.whole?.map ScreenEvent.seen

namespace Threads

section
variable {σ : Type*} (lib : FrameLibrary I420Buffer) (adapter : VideoAdapter σ) (s : Threads σ)
  (c : Camera σ)

/-- No callback is under way on the widget of the window. -/
def Free (window : WindowId) : Prop :=
  ∀ thread callback, s.callbacks thread = some callback → callback.paintWidget ≠ window

/-- A thread is in one callback at a time, and nothing else comes at the widget of a callback. -/
def Undisturbed : ThreadEvent → Prop
  | .captured _ _ => s.callbacks .camera = none ∧ s.Free s.camera.capturer.mWindowID
  | .received stream _ mWindowID _ => s.callbacks (.stream stream) = none ∧ s.Free mWindowID
  | .opened window _ | .closed window | .paintGL window => s.Free window
  | .next _ | .SetWindowID _ => True

/-- In the window `window`, the screen of `c` is what the callbacks under way will have made of
it. -/
structure FinishesAt (window : WindowId) : Prop where
  once : ∀ thread thread' callback callback', s.callbacks thread = some callback →
    s.callbacks thread' = some callback' → callback.paintWidget = window →
    callback'.paintWidget = window → thread = thread'
  under : ∀ thread callback, s.callbacks thread = some callback → callback.paintWidget = window →
    c.screen window = (s.camera.screen window).map callback.publish
  free : s.Free window → c.screen window = s.camera.screen window

/-- The capturer when the callback of its thread is over. -/
def passed : VcmCapture σ :=
  match s.callbacks .camera with
  | none => s.camera.capturer
  | some callback =>
    { s.camera.capturer with
      toVideoCapture := s.camera.capturer.toVideoCapture.OnFrame lib adapter callback.frame }

/-- `c` is what the callbacks under way will have made of the camera and the screen. -/
structure Finishes : Prop where
  screen : ∀ window, s.FinishesAt c window
  capturer : c.capturer = s.passed lib adapter

end

section
variable {σ : Type*} {lib : FrameLibrary I420Buffer} {adapter : VideoAdapter σ}
  {s s' : Threads σ} {c c' : Camera σ} {thread : FrameThread} {window : WindowId}
  {memory : Nat → UInt8} {frame : VideoFrame I420Buffer}

/-! ## Other threads -/

theorem enter_callbacks {other : FrameThread} (apart : thread ≠ other) :
    (s.enter lib other memory window frame).callbacks thread = s.callbacks thread := by
  unfold Threads.enter
  split
  · exact Function.update_of_ne apart _ _
  · rfl

theorem finish_callbacks : (s.finish lib adapter thread frame).callbacks =
    Function.update s.callbacks thread none := by
  cases thread <;> rfl

theorem free_or_on (s : Threads σ) (window : WindowId) : s.Free window ∨
    ∃ thread callback, s.callbacks thread = some callback ∧ callback.paintWidget = window := by
  refine or_iff_not_imp_left.2 fun busy => ?_
  simpa [Free] using busy

theorem free_of_idle (idle : ∀ thread, s.callbacks thread = none) (window : WindowId) :
    s.Free window := by
  intro thread callback there
  cases (idle thread).symm.trans there

theorem FinishesAt.painted (finishes : s.FinishesAt c window) :
    (c.screen window).map (·.painted) = (s.camera.screen window).map (·.painted) := by
  rcases s.free_or_on window with free | ⟨thread, callback, there, on⟩
  · rw [finishes.free free]
  · rw [finishes.under thread callback there on, Option.map_map]
    exact congrArg (fun f => (s.camera.screen window).map f) (funext callback.publish_painted)

theorem FinishesAt.isSome (finishes : s.FinishesAt c window) :
    (c.screen window).isSome = (s.camera.screen window).isSome := by
  simpa using congrArg Option.isSome finishes.painted

/-- Nothing has come at the window. -/
theorem FinishesAt.congr (finishes : s.FinishesAt c window)
    (callbacks : ∀ thread callback, callback.paintWidget = window →
      (s'.callbacks thread = some callback ↔ s.callbacks thread = some callback))
    (screen : s'.camera.screen window = s.camera.screen window)
    (screen' : c'.screen window = c.screen window) : s'.FinishesAt c' window where
  once thread thread' callback callback' there there' on on' :=
    finishes.once thread thread' callback callback' ((callbacks _ _ on).1 there)
      ((callbacks _ _ on').1 there') on on'
  under thread callback there on := by
    rw [screen, screen', finishes.under thread callback ((callbacks _ _ on).1 there) on]
  free free := by
    rw [screen, screen']
    exact finishes.free fun thread callback there on =>
      free thread callback ((callbacks _ _ on).2 there) on

theorem finishesAt_of_free (free : s.Free window)
    (screen : c.screen window = s.camera.screen window) : s.FinishesAt c window where
  once thread _ callback _ there _ on _ := absurd on (free thread callback there)
  under thread callback there on := absurd on (free thread callback there)
  free _ := screen

/-- A callback alone on its widget. -/
theorem finishesAt_of_alone {callback : FrameCallback} (there : s.callbacks thread = some callback)
    (on : callback.paintWidget = window)
    (others : ∀ other callback, other ≠ thread → s.callbacks other = some callback →
      callback.paintWidget ≠ window)
    (screen : c.screen window = (s.camera.screen window).map callback.publish) :
    s.FinishesAt c window := by
  have only (other : FrameThread) (callback : FrameCallback)
      (there : s.callbacks other = some callback) (on : callback.paintWidget = window) :
      other = thread := by
    by_contra apart
    exact others other callback apart there on
  constructor
  · intro first second callback callback' there there' on on'
    rw [only first callback there on, only second callback' there' on']
  · intro other callback' there' on'
    obtain rfl := only other callback' there' on'
    obtain rfl := Option.some.inj (there.symm.trans there')
    exact screen
  · intro free
    exact absurd on (free thread callback there)

theorem paintWidget_ne {callback : FrameCallback} (there : s.callbacks thread = some callback)
    (apart : window ≠ callback.paintWidget) :
    ∀ found ∈ s.callbacks thread, found.paintWidget ≠ window := by
  rintro _ found
  obtain rfl := Option.some.inj (there.symm.trans found)
  exact Ne.symm apart

/-- A callback of a thread is no matter of the windows it is not on. -/
theorem update_callbacks {callbacks : FrameThread → Option FrameCallback}
    {callback? : Option FrameCallback}
    (old : ∀ callback ∈ callbacks thread, callback.paintWidget ≠ window)
    (new : ∀ callback ∈ callback?, callback.paintWidget ≠ window) (other : FrameThread)
    (callback : FrameCallback) (on : callback.paintWidget = window) :
    Function.update callbacks thread callback? other = some callback ↔
      callbacks other = some callback := by
  by_cases same : other = thread
  · subst same
    rw [Function.update_self]
    exact iff_of_false (fun there => new callback there on) fun there => old callback there on
  · rw [Function.update_of_ne same]

/-! ## One step -/

theorem Finishes.isSome (finishes : s.Finishes lib adapter c) (window : WindowId) :
    (c.screen window).isSome = (s.camera.screen window).isSome :=
  (finishes.screen window).isSome

theorem passed_window : (s.passed lib adapter).mWindowID = s.camera.capturer.mWindowID := by
  unfold passed
  split <;> rfl

/-- The calls of a callback do to its widget what it does at once. -/
theorem publish_publishCalls (v : VideoRender) (buffer : I420Buffer) :
    (publishCalls memory buffer).foldl VideoRender.call v = v.publish memory buffer := by
  unfold publishCalls VideoRender.publish
  cases pack memory buffer <;> rfl

theorem enter_of_none (absent : s.camera.screen window = none) :
    s.enter lib thread memory window frame = s := by
  unfold enter
  rw [absent]
  cases s.callbacks thread <;> rfl

theorem enter_of_some {v : VideoRender} (idle : s.callbacks thread = none)
    (there : s.camera.screen window = some v) :
    s.enter lib thread memory window frame =
      { s with
        callbacks := Function.update s.callbacks thread
          (some ⟨window, publishCalls memory (lib.upright frame), frame⟩) } := by
  unfold enter
  rw [idle, there]

/-- A callback begins. -/
theorem Finishes.enter (finishes : s.Finishes lib adapter c) (idle : s.callbacks thread = none)
    (free : s.Free window)
    (screen : c'.screen = WebrtcVideoFrame.OnFrame lib memory c.screen window frame)
    (capturer : c'.capturer = (s.enter lib thread memory window frame).passed lib adapter) :
    (s.enter lib thread memory window frame).Finishes lib adapter c' := by
  refine ⟨fun other => ?_, capturer⟩
  have same := (finishes.screen window).free free
  cases there : s.camera.screen window with
  | none =>
    rw [OnFrame_of_none lib memory frame (same.trans there)] at screen
    rw [enter_of_none there]
    exact (finishes.screen other).congr (fun _ _ _ => Iff.rfl) rfl (congrFun screen other)
  | some v =>
    rw [OnFrame_of_some lib memory frame (same.trans there)] at screen
    rw [enter_of_some idle there]
    by_cases here : other = window
    · subst here
      refine finishesAt_of_alone (Function.update_self ..) rfl
        (fun thread' callback apart there => ?_) ?_
      · dsimp only at there
        rw [Function.update_of_ne apart] at there
        exact free thread' callback there
      · rw [screen, Function.update_self, there, Option.map_some, FrameCallback.publish,
          publish_publishCalls]
    · refine (finishes.screen other).congr (update_callbacks ?_ ?_) rfl ?_
      · simp [idle]
      · rintro _ ⟨⟩ on
        exact here on.symm
      · rw [screen, Function.update_of_ne here]

/-- The callbacks of other threads are on other widgets. -/
theorem Finishes.others (finishes : s.Finishes lib adapter c) {callback : FrameCallback}
    (there : s.callbacks thread = some callback) (other : FrameThread) (callback' : FrameCallback)
    (apart : other ≠ thread) (there' : s.callbacks other = some callback') :
    callback'.paintWidget ≠ callback.paintWidget := fun same =>
  apart ((finishes.screen callback.paintWidget).once other thread callback' callback there' there
    same rfl)

theorem finish_screen :
    (s.finish lib adapter thread frame).camera.screen = s.camera.screen := by
  cases thread <;> rfl

/-- A callback is over. -/
theorem Finishes.finish (finishes : s.Finishes lib adapter c) {callback : FrameCallback}
    (there : s.callbacks thread = some callback) (done : callback.calls = []) :
    (s.finish lib adapter thread callback.frame).Finishes lib adapter c := by
  refine ⟨fun window => ?_, ?_⟩
  · by_cases here : window = callback.paintWidget
    · subst here
      refine finishesAt_of_free (fun other callback' there' => ?_) ?_
      · rw [finish_callbacks] at there'
        by_cases same : other = thread
        · subst same
          rw [Function.update_self] at there'
          cases there'
        · rw [Function.update_of_ne same] at there'
          exact finishes.others there other callback' same there'
      · have nothing : callback.publish = id := by
          funext v
          rw [FrameCallback.publish, done]
          rfl
        rw [finish_screen, (finishes.screen _).under thread callback there rfl, nothing,
          Option.map_id, id]
    · refine (finishes.screen window).congr ?_ (congrFun finish_screen window) rfl
      rw [finish_callbacks]
      exact update_callbacks (paintWidget_ne there here) nofun
  · rw [finishes.capturer]
    cases thread with
    | camera =>
      unfold passed
      rw [there, finish_callbacks, Function.update_self]
      rfl
    | stream p =>
      unfold passed
      rw [finish_callbacks, Function.update_of_ne (by simp)]
      rfl

/-- A callback calls its widget. -/
theorem Finishes.call (finishes : s.Finishes lib adapter c) {callback : FrameCallback}
    (there : s.callbacks thread = some callback) {call : WidgetCall} {calls : List WidgetCall}
    (left : callback.calls = call :: calls) :
    (s.call thread callback call calls).Finishes lib adapter c := by
  have callbacks : (s.call thread callback call calls).callbacks =
      Function.update s.callbacks thread (some { callback with calls }) := rfl
  have screen : (s.call thread callback call calls).camera.screen =
      Function.update s.camera.screen callback.paintWidget
        ((s.camera.screen callback.paintWidget).map (·.call call)) := rfl
  refine ⟨fun window => ?_, ?_⟩
  · by_cases here : window = callback.paintWidget
    · subst here
      refine finishesAt_of_alone (Function.update_self ..) rfl
        (fun other callback' apart there' => ?_) ?_
      · rw [callbacks, Function.update_of_ne apart] at there'
        exact finishes.others there other callback' apart there'
      · have publishes : callback.publish =
            FrameCallback.publish { callback with calls } ∘ fun v => v.call call := by
          funext v
          rw [FrameCallback.publish, left]
          rfl
        rw [(finishes.screen _).under thread callback there rfl, screen, Function.update_self,
          publishes, Option.map_map]
    · refine (finishes.screen window).congr (update_callbacks (paintWidget_ne there here) ?_)
        (Function.update_of_ne here _ _) rfl
      rintro _ ⟨⟩
      exact Ne.symm here
  · rw [finishes.capturer]
    unfold passed
    rw [callbacks]
    by_cases same : thread = .camera
    · subst same
      rw [there, Function.update_self]
      rfl
    · rw [Function.update_of_ne (Ne.symm same)]
      rfl

/-- A callback goes on. -/
theorem Finishes.next (finishes : s.Finishes lib adapter c) (thread : FrameThread) :
    (s.next lib adapter thread).Finishes lib adapter c := by
  unfold Threads.next
  cases there : s.callbacks thread with
  | none => exact finishes
  | some callback =>
    dsimp only
    cases left : callback.calls with
    | nil => exact finishes.finish there left
    | cons call calls => exact finishes.call there left

/-- Something happens to a window that no callback is on. -/
theorem Finishes.update (finishes : s.Finishes lib adapter c) (free : s.Free window)
    {v? v?' : Option VideoRender} (same : v?' = v?) :
    Finishes lib adapter
      { s with camera := { s.camera with screen := Function.update s.camera.screen window v? } }
      { c with screen := Function.update c.screen window v?' } := by
  refine ⟨fun other => ?_, finishes.capturer⟩
  by_cases here : other = window
  · subst here
    refine finishesAt_of_free free ?_
    dsimp only
    rw [Function.update_self, Function.update_self, same]
  · exact (finishes.screen other).congr (fun _ _ _ => Iff.rfl) (Function.update_of_ne here _ _)
      (Function.update_of_ne here _ _)

theorem passed_of_idle (idle : s.callbacks .camera = none) :
    s.passed lib adapter = s.camera.capturer := by
  unfold passed
  rw [idle]

theorem passed_SetWindowID (inWindowID : WindowId) :
    (s.step lib adapter (.SetWindowID inWindowID)).passed lib adapter =
      { s.passed lib adapter with mWindowID := inWindowID } := by
  have same : (s.step lib adapter (.SetWindowID inWindowID)).callbacks = s.callbacks := rfl
  unfold passed
  rw [same]
  cases s.callbacks .camera <;> rfl

/-- The capturer's callback, from its beginning. -/
theorem Finishes.captured (finishes : s.Finishes lib adapter c) (idle : s.callbacks .camera = none)
    (free : s.Free s.camera.capturer.mWindowID) :
    (VcmCapture.OnFrame lib adapter memory c frame).capturer =
      (s.enter lib .camera memory s.camera.capturer.mWindowID frame).passed lib adapter := by
  have capturer : c.capturer = s.camera.capturer := finishes.capturer.trans (passed_of_idle idle)
  have same : c.screen c.capturer.mWindowID = s.camera.screen s.camera.capturer.mWindowID := by
    rw [capturer]
    exact (finishes.screen _).free free
  cases there : s.camera.screen s.camera.capturer.mWindowID with
  | none =>
    have unseen : ¬ c.Previews := by
      rw [Camera.Previews, same, there]
      decide
    rw [Camera.OnFrame_of_unseen unseen, enter_of_none there, finishes.capturer]
  | some v =>
    have previews : c.Previews := by
      rw [Camera.Previews, same, there]
      rfl
    rw [Camera.OnFrame_of_previews previews, enter_of_some idle there, capturer]
    unfold passed
    dsimp only
    rw [Function.update_self]

theorem passed_enter_stream (p : Ptr) :
    (s.enter lib (.stream p) memory window frame).passed lib adapter = s.passed lib adapter := by
  have camera : (s.enter lib (.stream p) memory window frame).camera = s.camera := by
    unfold Threads.enter
    split <;> rfl
  unfold passed
  rw [enter_callbacks (by simp), camera]

/-- **One event**: the callbacks under way still finish as they would at once. -/
theorem Finishes.step (finishes : s.Finishes lib adapter c) {e : ThreadEvent}
    (undisturbed : s.Undisturbed e) :
    (s.step lib adapter e).Finishes lib adapter (e.whole?.elim c (c.step lib adapter)) := by
  cases e with
  | captured memory frame =>
    obtain ⟨idle, free⟩ := undisturbed
    have window : c.capturer.mWindowID = s.camera.capturer.mWindowID := by
      rw [finishes.capturer, passed_window]
    refine finishes.enter idle free ?_ (finishes.captured idle free)
    exact window ▸ captured_screen ..
  | received stream memory mWindowID frame =>
    obtain ⟨idle, free⟩ := undisturbed
    exact finishes.enter idle free rfl (finishes.capturer.trans (passed_enter_stream stream).symm)
  | next thread => exact finishes.next thread
  | SetWindowID inWindowID =>
    refine ⟨fun window => (finishes.screen window).congr (fun _ _ _ => Iff.rfl) rfl rfl, ?_⟩
    rw [passed_SetWindowID, ← finishes.capturer]
    rfl
  | opened window memory => exact finishes.update undisturbed rfl
  | closed window => exact finishes.update undisturbed rfl
  | paintGL window =>
    exact finishes.update undisturbed (congrArg _ ((finishes.screen window).free undisturbed))

/-- A frame that is sent comes to the preview at once. -/
theorem Finishes.SendFrame (finishes : s.Finishes lib adapter c) {now : Int64} {source : I420Buffer}
    {frame_id : UInt16} (idle : s.callbacks .camera = none)
    (free : s.Free s.camera.capturer.mWindowID) :
    (s.SendFrame lib memory now source frame_id).Finishes lib adapter
      (VcmCapture.SendFrame lib adapter memory c now source frame_id) := by
  have capturer : c.capturer = s.camera.capturer := finishes.capturer.trans (passed_of_idle idle)
  let frame : VideoFrame I420Buffer := ⟨lib.Copy source, .kVideoRotation_0, now * 1000, frame_id⟩
  let s₁ : Threads σ := { s with
    camera := { s.camera with
      capturer := { s.camera.capturer with
        overflow := s.camera.capturer.overflow || mulOverflows now 1000 } } }
  let c₁ : Camera σ := { c with
    capturer := { c.capturer with overflow := c.capturer.overflow || mulOverflows now 1000 } }
  have finishes₁ : s₁.Finishes lib adapter c₁ := by
    refine ⟨fun window => (finishes.screen window).congr (fun _ _ _ => Iff.rfl) rfl rfl, ?_⟩
    have idle₁ : s₁.callbacks .camera = none := idle
    rw [passed_of_idle idle₁]
    dsimp only [s₁, c₁]
    rw [capturer]
  have undisturbed : s₁.Undisturbed (.captured memory frame) := ⟨idle, free⟩
  exact finishes₁.step undisturbed

end

/-! ## Runs -/

section
variable {σ : Type*} (lib : FrameLibrary I420Buffer) (adapter : VideoAdapter σ)

/-- No callback is under way. -/
def start (capturer : VcmCapture σ) : Threads σ := { camera := .start capturer }

/-- A frame that comes to a widget can be shown. -/
def Shows (s : Threads σ) (e : ThreadEvent) : Prop := e.whole?.elim True (s.camera.Shows lib)

/-- The screen shows what the gallery does, and the callbacks under way will have made one of it
that realizes the gallery. -/
structure Realizes (s : Threads σ) (g : Gallery WindowId (VideoFrame I420Buffer)) : Prop where
  shown : ∀ window, Option.Rel (fun (v : VideoRender) pane =>
    List.Forall₂ (fun p frame => p.Pictures (lib.upright frame)) v.painted pane.shown)
    (s.camera.screen window) (g.panes window)
  finishes : ∃ c, s.Finishes lib adapter c ∧ c.Realizes lib g

variable {lib adapter} {s : Threads σ} {c : Camera σ}
  {g : Gallery WindowId (VideoFrame I420Buffer)}

theorem Finishes.realizes (finishes : s.Finishes lib adapter c) (realizes : c.Realizes lib g) :
    s.Realizes lib adapter g := by
  refine ⟨fun window => ?_, c, finishes, realizes⟩
  have painted := (finishes.screen window).painted
  have related := realizes.panes window
  generalize c.screen window = v?, g.panes window = pane? at painted related
  cases related with
  | none =>
    rw [Option.map_eq_none_iff.1 painted.symm]
    exact .none
  | some realizes =>
    obtain ⟨v, there, same⟩ := Option.map_eq_some_iff.1 painted.symm
    rw [there]
    exact .some (same ▸ realizes.shown)

/-- Where no callback is under way, the screen itself realizes the gallery. -/
theorem Realizes.idle (realizes : s.Realizes lib adapter g)
    (idle : ∀ thread, s.callbacks thread = none) : s.camera.Realizes lib g := by
  obtain ⟨c, finishes, realizes⟩ := realizes.finishes
  have capturer : c.capturer = s.camera.capturer :=
    finishes.capturer.trans (passed_of_idle (idle .camera))
  have screen : c.screen = s.camera.screen := by
    funext window
    exact (finishes.screen window).free (free_of_idle idle window)
  exact ⟨screen ▸ realizes.panes, capturer ▸ realizes.preview, capturer ▸ realizes.passed⟩

/-- What comes to a widget comes to the one it will have become. -/
theorem Finishes.shows (finishes : s.Finishes lib adapter c) {e : ThreadEvent} {e' : ScreenEvent}
    (shows : s.Shows lib e) (whole : e.whole? = some e') : c.Shows lib e' := by
  rw [Shows, whole, Option.elim_some] at shows
  have preview : c.capturer.mWindowID = s.camera.capturer.mWindowID := by
    rw [finishes.capturer, passed_window]
  cases e' with
  | captured memory frame =>
    intro open_
    rw [preview, finishes.isSome] at open_
    exact shows open_
  | received memory mWindowID frame =>
    intro open_
    rw [finishes.isSome] at open_
    exact shows open_
  | _ => trivial

/-- **One event** does to the gallery what it does to the screen, where a frame comes at once. -/
theorem Realizes.step (realizes : s.Realizes lib adapter g) {e : ThreadEvent}
    (undisturbed : s.Undisturbed e) (shows : s.Shows lib e) :
    (s.step lib adapter e).Realizes lib adapter (e.seen?.elim g g.step) := by
  obtain ⟨c, finishes, realizes⟩ := realizes.finishes
  refine (finishes.step undisturbed).realizes ?_
  unfold ThreadEvent.seen?
  cases whole : e.whole? with
  | none => exact realizes
  | some e' => exact realizes.step (finishes.shows shows whole)

end

end Threads

end WebrtcDemo
