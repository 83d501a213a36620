import WebrtcDemo.Lib.Machine
import WebrtcDemo.Stream.View

/-!
# Render sinks

A stream remembers one track and one render object. While every new track comes to
a stream that shows none, the sinks registered are just what the two fields say. A
track that comes on top of another leaves the render object of the first one
registered for good.
-/

namespace WebrtcDemo

namespace View

/-- The sink that the fields speak of. -/
def shown (v : View) : List (Nat × RenderPointer) := (v.mVideoTrack.map (·, v.mRender)).toList

/-- The sinks registered are those the fields speak of, and those are render objects. -/
structure Remembers (v : View) : Prop where
  sinks : v.sinks = v.shown
  made : ∀ track, v.mVideoTrack = some track → ∃ n < v.renders.length, v.mRender = .render n
  gone : v.destroyed → v.mVideoTrack = none

/-- The stream with a track shown by a new render object, whatever it showed before. -/
def showing (v : View) (track : Nat) : View :=
  { v with
    mVideoTrack := some track
    mRender := .render v.renders.length
    renders := v.renders ++ [v.mWindowID]
    sinks := v.sinks ++ [(track, .render v.renders.length)] }

/-- A video track comes to a remote stream only while it shows none. -/
def Vacant (v : View) (e : ViewEvent) : Prop :=
  ∀ receiver, e = .OnAddTrack receiver → receiver.kind = .video → v.mIsLocal = false →
    v.destroyed = false → v.mVideoTrack = none

/-- Where the view is stopped or the stream destroyed, no sink is left. -/
def Clears (v : View) (e : ViewEvent) : Prop :=
  e = .StopView ∨ e = .destructor → (v.step e).sinks = []

section
variable {v : View}

theorem shown_none (none : v.mVideoTrack = none) : v.shown = [] := by simp [shown, none]

theorem shown_some {track : Nat} (some : v.mVideoTrack = some track) :
    v.shown = [(track, v.mRender)] := by
  simp [shown, some]

/-- What is remembered is at most one sink. -/
theorem Remembers.le_one (remembers : v.Remembers) : v.sinks.length ≤ 1 := by
  rw [remembers.sinks]
  rcases none : v.mVideoTrack with _ | track
  · simp [shown_none none]
  · simp [shown_some none]

theorem Remembers.of_none (remembers : v.Remembers) (none : v.mVideoTrack = none) :
    v.sinks = [] := by
  rw [remembers.sinks, shown_none none]

theorem remembers_constructed (mRender : RenderPointer) (mWindowID : WindowId) :
    (constructed mRender mWindowID).Remembers :=
  ⟨rfl, fun _ shown => by simp [constructed] at shown, fun gone => by simp [constructed] at gone⟩

/-- The window of a render object is no concern of the sinks. -/
theorem setRenderWindow_fields (v : View) (sink : RenderPointer) (window : WindowId) :
    (v.setRenderWindow sink window).sinks = v.sinks ∧
      (v.setRenderWindow sink window).mVideoTrack = v.mVideoTrack ∧
      (v.setRenderWindow sink window).destroyed = v.destroyed := by
  cases sink <;> exact ⟨rfl, rfl, rfl⟩

theorem StopView_mVideoTrack (v : View) : v.StopView.mVideoTrack = none := by
  rw [StopView]
  split
  · exact (setRenderWindow_fields _ _ _).2.1
  · assumption

/-- Stopping the view takes the remembered sink away. -/
theorem Remembers.StopView_sinks (remembers : v.Remembers) : v.StopView.sinks = [] := by
  rw [StopView]
  split
  · next track shows =>
    rw [(setRenderWindow_fields _ _ _).1]
    simp [RemoveSink, remembers.sinks, shown_some shows]
  · next none => exact remembers.of_none none

/-- With no track and no sink there is nothing to forget. -/
theorem remembers_of_none (sinks : v.sinks = []) (none : v.mVideoTrack = none) : v.Remembers :=
  ⟨by rw [sinks, shown_none none], fun track shows => by simp [none] at shows, fun _ => none⟩

theorem Remembers.StopView (remembers : v.Remembers) : v.StopView.Remembers :=
  remembers_of_none remembers.StopView_sinks v.StopView_mVideoTrack

/-- The destructor ends where stopping the view does. -/
theorem destructor_fields (v : View) :
    v.destructor.sinks = v.StopView.sinks ∧ v.destructor.mVideoTrack = none := by
  rw [destructor]
  dsimp only
  split_ifs <;> exact ⟨rfl, rfl⟩

/-- A new render object is registered besides the remembered sink. -/
theorem Remembers.StartView_eq (remembers : v.Remembers) (track : Nat) :
    StartView { v with mVideoTrack := some track } = v.showing track := by
  have fresh : (track, RenderPointer.render v.renders.length) ∉ v.sinks := by
    rw [remembers.sinks]
    intro listed
    rcases shows : v.mVideoTrack with _ | old
    · simp [shown_none shows] at listed
    · obtain ⟨n, older, same⟩ := remembers.made old shows
      simp only [shown_some shows, List.mem_singleton, Prod.mk.injEq, same,
        RenderPointer.render.injEq] at listed
      omega
  rw [StartView]
  dsimp only
  rw [AddOrUpdateSink, if_neg fresh, showing]

/-- A track that comes to a stream that shows none is shown and remembered. -/
theorem Remembers.showing (remembers : v.Remembers) (none : v.mVideoTrack = none)
    (lives : v.destroyed = false) (track : Nat) : (v.showing track).Remembers where
  sinks := by
    show v.sinks ++ _ = _
    rw [remembers.of_none none]
    rfl
  made _ _ := ⟨v.renders.length, by simp [View.showing], rfl⟩
  gone gone := by simp [View.showing, lives] at gone

/-- **Under the condition a step keeps what is remembered.** -/
theorem Remembers.step (remembers : v.Remembers) {e : ViewEvent} (vacant : v.Vacant e) :
    (v.step e).Remembers := by
  rw [View.step]
  split_ifs with gone
  · exact remembers
  · have lives : v.destroyed = false := by simpa using gone
    cases e with
    | SetIsLocal => exact ⟨remembers.sinks, remembers.made, remembers.gone⟩
    | SetWindowID => exact ⟨remembers.sinks, remembers.made, remembers.gone⟩
    | OnAddTrack receiver =>
      rw [handle, OnAddTrack]
      split_ifs with video isLocal
      · exact remembers
      · rw [remembers.StartView_eq]
        exact remembers.showing (vacant receiver rfl video (by simpa using isLocal) lives) lives _
      · exact remembers
    | OnRemoveTrack receiver =>
      rw [handle, OnRemoveTrack]
      split_ifs
      · exact remembers
      · exact remembers.StopView
      · exact remembers
    | StopView => exact remembers.StopView
    | destructor =>
      refine remembers_of_none ?_ v.destructor_fields.2
      exact v.destructor_fields.1.trans remembers.StopView_sinks

/-- And the steps that have to clear the sinks do. -/
theorem Remembers.clears (remembers : v.Remembers) (e : ViewEvent) : v.Clears e := by
  intro ends
  rw [View.step]
  split_ifs with gone
  · exact remembers.of_none (remembers.gone gone)
  · rcases ends with rfl | rfl
    · exact remembers.StopView_sinks
    · exact v.destructor_fields.1.trans remembers.StopView_sinks

/-- A track on top of another is a second sink. -/
theorem Remembers.vacant_of_le_one (remembers : v.Remembers) {e : ViewEvent}
    (most : (v.step e).sinks.length ≤ 1) : v.Vacant e := by
  rintro receiver rfl video remote lives
  by_contra shows
  obtain ⟨track, shows⟩ := Option.ne_none_iff_exists'.1 shows
  have both : (v.step (.OnAddTrack receiver)).sinks =
      v.sinks ++ [(receiver.track, .render v.renders.length)] := by
    rw [View.step, if_neg (by simp [lives]), handle, View.OnAddTrack, if_pos video,
      if_neg (by simp [remote]), remembers.StartView_eq, View.showing]
  simp [both, remembers.sinks, shown_some shows] at most

end

end View

open View

/-- At most one sink is registered in every state, and none where the view was stopped. -/
def KeepsOneSink (v : View) (es : List ViewEvent) : Prop :=
  Machine.Throughout View.step (fun v => v.sinks.length ≤ 1) v es ∧ Machine.Along View.step Clears v es

/-- **A stream never has two sinks, and none after its view was stopped,** if and only if
every track it shows comes while it shows none. -/
theorem one_sink_iff (mRender : RenderPointer) (mWindowID : WindowId) (es : List ViewEvent) :
    KeepsOneSink (constructed mRender mWindowID) es ↔
      Machine.Along View.step Vacant (constructed mRender mWindowID) es := by
  have start := remembers_constructed mRender mWindowID
  constructor
  · rintro ⟨most, -⟩
    have needed : ∀ v, ∀ e ∈ es, Remembers v → (v.step e).sinks.length ≤ 1 → v.Vacant e :=
      fun _ _ _ remembers most => remembers.vacant_of_le_one most
    exact Machine.along_of_throughout needed
      (fun _ _ _ remembers vacant => remembers.step vacant) start most
  · intro vacant
    have remembers : Machine.Throughout View.step Remembers (constructed mRender mWindowID) es :=
      Machine.throughout_of_keeps (fun _ _ remembers vacant => remembers.step vacant) start vacant
    exact ⟨remembers.mono fun _ remembers => remembers.le_one,
      remembers.along fun _ _ remembers => remembers.clears _⟩

/-- The second of two tracks leaves the render object of the first one registered. -/
theorem second_track_two_sinks : ¬ ∀ (mRender : RenderPointer) (mWindowID : WindowId)
    (es : List ViewEvent), KeepsOneSink (constructed mRender mWindowID) es := by
  intro always
  obtain ⟨-, clears⟩ := always .stray 7
    [.OnAddTrack ⟨1, .video⟩, .OnAddTrack ⟨2, .video⟩, .StopView]
  have left := clears.2.2.1 (Or.inl rfl)
  exact absurd left (by decide)

end WebrtcDemo
