import WebrtcDemo.Run.Sinks

/-!
# Render objects

The destructor of a stream deletes what `mRender` points to. The constructor does not
set that field and every new track overwrites it, so the one object deleted is the only
one made just when one track was shown, or none and the field happened to be null.
-/

namespace WebrtcDemo

/-- The video tracks that are shown, on a stream that is local or not, before it is
destroyed. -/
def shownTracks : Bool → List ViewEvent → Nat
  | _, [] => 0
  | _, .SetIsLocal inIsLocal :: es => shownTracks inIsLocal es
  | _, .destructor :: _ => 0
  | isLocal, .OnAddTrack receiver :: es =>
    (if receiver.kind = .video ∧ isLocal = false then 1 else 0) + shownTracks isLocal es
  | isLocal, _ :: es => shownTracks isLocal es

namespace View

/-- What `mRender` holds after `made` render objects. -/
def latest (mRender : RenderPointer) : Nat → RenderPointer
  | 0 => mRender
  | made + 1 => .render made

/-- A live stream that has made `made` render objects, and deleted none. -/
structure Makes (mRender : RenderPointer) (made : Nat) (v : View) : Prop where
  lives : v.destroyed = false
  renders : v.renders.length = made
  points : v.mRender = latest mRender made
  kept : v.deleted = []

/-- A stream that is gone, with the render objects it made and those it deleted. -/
structure Ended (mRender : RenderPointer) (made : Nat) (v : View) : Prop where
  gone : v.destroyed = true
  renders : v.renders.length = made
  deleted : v.deleted = [latest mRender made].filter (· ≠ .null)

section
variable {mRender : RenderPointer} {made : Nat} {v : View}

theorem Makes.same (makes : Makes mRender made v) {v' : View} (lives : v'.destroyed = v.destroyed)
    (renders : v'.renders.length = v.renders.length) (points : v'.mRender = v.mRender)
    (kept : v'.deleted = v.deleted) : Makes mRender made v' :=
  ⟨lives.trans makes.lives, renders.trans makes.renders, points.trans makes.points,
    kept.trans makes.kept⟩

/-- The window of a render object is no concern of the heap. -/
theorem setRenderWindow_heap (v : View) (sink : RenderPointer) (window : WindowId) :
    (v.setRenderWindow sink window).renders.length = v.renders.length ∧
      (v.setRenderWindow sink window).mRender = v.mRender ∧
      (v.setRenderWindow sink window).deleted = v.deleted ∧
      (v.setRenderWindow sink window).mIsLocal = v.mIsLocal := by
  cases sink <;> simp [setRenderWindow]

theorem Makes.StopView (makes : Makes mRender made v) :
    Makes mRender made v.StopView ∧ v.StopView.mIsLocal = v.mIsLocal := by
  rw [View.StopView]
  split
  · dsimp only
    obtain ⟨renders, points, kept, isLocal⟩ := setRenderWindow_heap _ _ _
    exact ⟨makes.same (setRenderWindow_fields _ _ _).2.2 renders points kept, isLocal⟩
  · exact ⟨makes, rfl⟩

/-- A track is shown by a render object of its own. -/
theorem Makes.StartView (makes : Makes mRender made v) (track : Nat) :
    Makes mRender (made + 1) (View.StartView { v with mVideoTrack := some track }) ∧
      (View.StartView { v with mVideoTrack := some track }).mIsLocal = v.mIsLocal := by
  rw [View.StartView]
  dsimp only
  rw [AddOrUpdateSink]
  split_ifs <;>
    exact ⟨⟨makes.lives, by simp [makes.renders], by simp [latest, makes.renders], makes.kept⟩, rfl⟩

/-- The destructor deletes what `mRender` points to. -/
theorem Makes.destructor (makes : Makes mRender made v) : Ended mRender made v.destructor := by
  have stopped := makes.StopView.1
  rw [View.destructor]
  dsimp only
  by_cases null : v.StopView.mRender = .null
  · rw [if_neg (not_not.2 null)]
    exact ⟨rfl, stopped.renders, by simp [← stopped.points, null, stopped.kept]⟩
  · rw [if_pos null]
    exact ⟨rfl, stopped.renders, by simp [← stopped.points, null, stopped.kept]⟩

theorem Ended.run (ended : Ended mRender made v) (es : List ViewEvent) :
    Ended mRender made (Machine.run View.step v es) := by
  induction es with
  | nil => exact ended
  | cons e more ih =>
    rw [Machine.run_cons, View.step, if_pos ended.gone]
    exact ih

/-- **A stream that is destroyed deletes the last render object it made.** -/
theorem Makes.run (makes : Makes mRender made v) (es : List ViewEvent) :
    Ended mRender (made + shownTracks v.mIsLocal es)
      (Machine.run View.step v (es ++ [.destructor])) := by
  induction es generalizing v made with
  | nil =>
    rw [List.nil_append, Machine.run_cons, View.step, if_neg (by simp [makes.lives])]
    exact makes.destructor
  | cons e more ih =>
    have step : v.step e = v.handle e := if_neg (by simp [makes.lives])
    rw [List.cons_append, Machine.run_cons, step]
    cases e with
    | SetIsLocal inIsLocal =>
      exact ih (v := { v with mIsLocal := inIsLocal }) (makes.same rfl rfl rfl rfl)
    | SetWindowID iWindowID =>
      exact ih (v := { v with mWindowID := iWindowID }) (makes.same rfl rfl rfl rfl)
    | OnAddTrack receiver =>
      rw [handle, OnAddTrack, shownTracks]
      by_cases shows : receiver.kind = .video ∧ v.mIsLocal = false
      · obtain ⟨started, same⟩ := makes.StartView receiver.track
        have rest := ih started
        rw [if_pos shows, if_pos shows.1, if_neg (by simp [shows.2]), ← Nat.add_assoc]
        rwa [same] at rest
      · have unshown : (if receiver.kind = .video then
            if v.mIsLocal then v else View.StartView { v with mVideoTrack := some receiver.track }
            else v) = v := by
          split_ifs with video isLocal
          · rfl
          · exact absurd ⟨video, by simpa using isLocal⟩ shows
          · rfl
        rw [if_neg shows, unshown, Nat.zero_add]
        exact ih makes
    | OnRemoveTrack receiver =>
      obtain ⟨stopped, same⟩ := makes.StopView
      rw [handle, OnRemoveTrack, shownTracks]
      split_ifs
      · exact ih makes
      · exact same ▸ ih stopped
      · exact ih makes
      all_goals simp
    | StopView =>
      obtain ⟨stopped, same⟩ := makes.StopView
      exact same ▸ ih stopped
    | destructor => exact makes.destructor.run _

end

end View

open View

/-- The stream that goes through the events and is destroyed deletes each render object it
made, once, and nothing else. -/
def DeletesRenders (v : View) (es : List ViewEvent) : Prop :=
  let end_ := Machine.run View.step v (es ++ [.destructor])
  end_.deleted.Perm ((List.range end_.renders.length).map .render)

/-- **What a stream deletes is what it made** if and only if it showed one track, or none
while its unset `mRender` held null. -/
theorem renders_deleted_iff (mRender : RenderPointer) (mWindowID : WindowId)
    (es : List ViewEvent) :
    DeletesRenders (View.constructed mRender mWindowID) es ↔
      shownTracks false es ≤ 1 ∧ (shownTracks false es = 0 → mRender = .null) := by
  have makes : Makes mRender 0 (View.constructed mRender mWindowID) := ⟨rfl, rfl, rfl, rfl⟩
  have ended : Ended mRender (0 + shownTracks false es) _ := makes.run es
  rw [Nat.zero_add] at ended
  rw [DeletesRenders, ended.renders, ended.deleted]
  rcases shownTracks false es with _ | _ | more
  · by_cases null : mRender = .null <;> simp [latest, null]
  · simp [latest]
  · refine iff_of_false (fun same => ?_) (by simp)
    simpa [latest] using same.length_eq

/-- A stream that never showed video deletes whatever its unset pointer points to. -/
theorem unshown_stray_deleted : ¬ ∀ (mRender : RenderPointer) (mWindowID : WindowId)
    (es : List ViewEvent), DeletesRenders (View.constructed mRender mWindowID) es := by
  intro always
  have deleted := (always .stray 7 []).length_eq
  exact absurd deleted (by decide)

end WebrtcDemo
