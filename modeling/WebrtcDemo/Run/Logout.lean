import WebrtcDemo.Client.Logout
import WebrtcDemo.Run.Lifetime
import WebrtcDemo.Run.Server

/-!
# Every stream is destroyed once

The books of both kinds of streams balance up to the last step, `Logout`, which deletes by
name whatever the tables hold. A video stream has no owner but its entry. A data-channel
stream may have two, its entry and the local reference, and `Logout` deletes it through
both: it does so exactly if the local stream still has an entry then.
-/

namespace WebrtcDemo

open RefCount (deletions Unshared)

section
variable {s : Client}

/-! ## What the destructors leave alone -/

/-- The streams of `s` and of `t` are the same, and so is what they have logged. -/
def SameStreams (s t : Client) : Prop := t.media = s.media ∧ t.log = s.log

theorem deletePeers_same (s : Client) (list : List Ptr) :
    SameStreams s (JanusVideoRoomManager.deletePeers s list) := by
  obtain ⟨peers, fault, deleted⟩ := deletePeers_shape s list
  rw [deleted]
  exact ⟨rfl, rfl⟩

theorem manager_destructor_same (s : Client) :
    SameStreams s (JanusVideoRoomManager.destructor s) := by
  have same : ∀ {t u : Client} (list : List Ptr), SameStreams u t →
      SameStreams u (JanusVideoRoomManager.deletePeers t list) := by
    intro t u list before
    obtain ⟨media, log⟩ := deletePeers_same t list
    exact ⟨media.trans before.1, log.trans before.2⟩
  unfold JanusVideoRoomManager.destructor
  exact same _ (same _ (same _ (same _ ⟨rfl, rfl⟩)))

theorem deleteChannels_media (s : Client) (entries : List (Sigma fun _ : Int => RemoteStreamInfo)) :
    (ConferenceManager.deleteChannels s entries).conference = s.conference ∧
      (ConferenceManager.deleteChannels s entries).media.gone false = s.media.gone false ∧
      (ConferenceManager.deleteChannels s entries).media.gone true =
        s.media.gone true ++ entries.map (·.2.stream) := by
  induction entries generalizing s with
  | nil => simp [ConferenceManager.deleteChannels]
  | cons entry more ih =>
    obtain ⟨conference, video, data⟩ := ih (s.destroyData entry.2.stream true)
    unfold ConferenceManager.deleteChannels
    refine ⟨conference, ?_, ?_⟩
    · rw [video, destroyData_gone]
      rfl
    · rw [data, destroyData_gone]
      simp

/-! ## The destructor, part by part -/

/-- The streams of the video table are deleted. -/
def Client.deleteVideo (s : Client) : Client :=
  (ConferenceManager.deleteStreams s s.conference.mRemoteStreamInfos_VideoAudio.entries).withVideo ∅

/-- The streams of the table of data channels are deleted. -/
def Client.deleteData (s : Client) : Client :=
  ((ConferenceManager.deleteChannels s
    s.conference.mRemoteStreamInfos_DataChannels.entries).withData ∅).withWinds []

/-- The local data-channel stream is deleted. -/
def Client.deleteLocal (s : Client) : Client :=
  match s.conference.LocalStream_DataChannels with
  | some stream =>
    let s := { s with conference := { s.conference with LocalStream_DataChannels := none } }
    s.destroyData stream true
  | none => s

theorem Logout_eq (s : Client) :
    WebRTCInterface.Logout s =
      (JanusVideoRoomManager.destructor s).deleteVideo.deleteData.deleteLocal := rfl

theorem deleteVideo_gone (s : Client) :
    s.deleteVideo.conference = { s.conference with mRemoteStreamInfos_VideoAudio := ∅ } ∧
      s.deleteVideo.media.gone false =
        s.media.gone false ++ s.conference.mRemoteStreamInfos_VideoAudio.refs ∧
      s.deleteVideo.media.gone true = s.media.gone true := by
  obtain ⟨conference, -, video, data⟩ :=
    deleteStreams_media s s.conference.mRemoteStreamInfos_VideoAudio.entries
  refine ⟨?_, video, congrArg Registry.destroyed data⟩
  unfold Client.deleteVideo Client.withVideo
  rw [conference]

theorem deleteData_gone (s : Client) :
    s.deleteData.conference.LocalStream_DataChannels = s.conference.LocalStream_DataChannels ∧
      s.deleteData.media.gone false = s.media.gone false ∧
      s.deleteData.media.gone true =
        s.media.gone true ++ s.conference.mRemoteStreamInfos_DataChannels.refs := by
  obtain ⟨conference, video, data⟩ :=
    deleteChannels_media s s.conference.mRemoteStreamInfos_DataChannels.entries
  refine ⟨?_, video, data⟩
  unfold Client.deleteData Client.withData Client.withWinds
  rw [conference]

theorem deleteLocal_gone (s : Client) :
    s.deleteLocal.media.gone false = s.media.gone false ∧
      s.deleteLocal.media.gone true =
        s.media.gone true ++ s.conference.LocalStream_DataChannels.toList := by
  unfold Client.deleteLocal
  split
  · next p found =>
    dsimp only
    rw [destroyData_gone, destroyData_gone, found]
    exact ⟨rfl, rfl⟩
  · next missing =>
    rw [missing]
    exact ⟨rfl, (List.append_nil _).symm⟩

/-- **What `Logout` destroys**: every stream of a table, and then the local one. -/
theorem Logout_gone (s : Client) :
    (WebRTCInterface.Logout s).media.gone false =
        s.media.gone false ++ s.conference.mRemoteStreamInfos_VideoAudio.refs ∧
      (WebRTCInterface.Logout s).media.gone true =
        s.media.gone true ++ (s.conference.mRemoteStreamInfos_DataChannels.refs ++
          s.conference.LocalStream_DataChannels.toList) := by
  have media : (JanusVideoRoomManager.destructor s).media = s.media := (manager_destructor_same s).1
  have conference : (JanusVideoRoomManager.destructor s).conference = s.conference :=
    congrArg Media.conference media
  obtain ⟨emptied, video, text⟩ := deleteVideo_gone (JanusVideoRoomManager.destructor s)
  obtain ⟨localStream, video', text'⟩ :=
    deleteData_gone (JanusVideoRoomManager.destructor s).deleteVideo
  obtain ⟨video'', text''⟩ :=
    deleteLocal_gone (JanusVideoRoomManager.destructor s).deleteVideo.deleteData
  rw [Logout_eq]
  constructor
  · rw [video'', video', video, media, conference]
  · rw [text'', text', text, localStream, emptied, media, conference, List.append_assoc]

end

/-! ## Runs that end with Logout -/

/-- The deletions by name of `LeaveVideoRoom`. -/
def leaveDeletions (s : Client) : List (Ptr × List Ptr) :=
  deletions [] s.conference.mRemoteStreamInfos_VideoAudio.refs

/-- The deletions by name of `Logout`: the entries of the two tables, while the local
reference is held, and what the local reference holds. -/
def logoutDeletions (s : Client) : List (Ptr × List Ptr) :=
  deletions [] s.conference.mRemoteStreamInfos_VideoAudio.refs ++
    (deletions s.conference.LocalStream_DataChannels.toList
      s.conference.mRemoteStreamInfos_DataChannels.refs ++
    deletions [] s.conference.LocalStream_DataChannels.toList)

/-- The effect of a deletion by name. -/
def deletion (isTextRoom : Bool) (d : Ptr × List Ptr) : Effect :=
  .streamDestroyed isTextRoom d.1 true

theorem map_deletions (isTextRoom : Bool) (others ps : List Ptr) :
    (deletions others ps).map (deletion isTextRoom) =
      ps.map fun p => .streamDestroyed isTextRoom p true := by
  induction ps with
  | nil => rfl
  | cons p more ih =>
    rw [deletions, List.map_cons, List.map_cons, ih]
    rfl

theorem deleteStreams_log (s : Client) (entries : List (Sigma fun _ : Int => RemoteStreamInfo)) :
    (ConferenceManager.deleteStreams s entries).log =
      s.log ++ (entries.map (·.2.stream)).map fun p => .streamDestroyed false p true := by
  induction entries generalizing s with
  | nil => exact (List.append_nil _).symm
  | cons entry more ih =>
    rw [ConferenceManager.deleteStreams, ih, List.map_cons, List.map_cons]
    exact (List.append_cons _ _ _).symm

theorem deleteChannels_log (s : Client) (entries : List (Sigma fun _ : Int => RemoteStreamInfo)) :
    (ConferenceManager.deleteChannels s entries).log =
      s.log ++ (entries.map (·.2.stream)).map fun p => .streamDestroyed true p true := by
  induction entries generalizing s with
  | nil => exact (List.append_nil _).symm
  | cons entry more ih =>
    rw [ConferenceManager.deleteChannels, ih, List.map_cons, List.map_cons]
    exact (List.append_cons _ _ _).symm

theorem deleteVideo_log (s : Client) : s.deleteVideo.log =
    s.log ++ s.conference.mRemoteStreamInfos_VideoAudio.refs.map fun p =>
      .streamDestroyed false p true :=
  deleteStreams_log s _

theorem deleteData_log (s : Client) : s.deleteData.log =
    s.log ++ s.conference.mRemoteStreamInfos_DataChannels.refs.map fun p =>
      .streamDestroyed true p true :=
  deleteChannels_log s _

theorem deleteLocal_log (s : Client) :
    s.deleteLocal.log = s.log ++ s.conference.LocalStream_DataChannels.toList.map fun p =>
      .streamDestroyed true p true := by
  unfold Client.deleteLocal
  split
  · next p found =>
    rw [found]
    rfl
  · next missing =>
    rw [missing]
    exact (List.append_nil _).symm

/-- Leaving the video room logs its deletions, in their order. -/
theorem LeaveVideoRoom_log (s : Client) :
    (WebRTCInterface.LeaveVideoRoom s).log = s.log ++ (leaveDeletions s).map (deletion false) := by
  have left : ((ConferenceManager.LeaveVideoRoom s).leave .video).log =
      (ConferenceManager.LeaveVideoRoom s).log := Client.leave_log
  rw [leaveDeletions, map_deletions]
  exact left.trans (deleteStreams_log _ _)

/-- `Logout` logs its deletions in their order, those of the video streams first. -/
theorem Logout_log (s : Client) :
    ∃ data, logoutDeletions s = leaveDeletions s ++ data ∧
      (WebRTCInterface.Logout s).log =
        s.log ++ ((leaveDeletions s).map (deletion false) ++ data.map (deletion true)) := by
  have same := manager_destructor_same s
  have conference : (JanusVideoRoomManager.destructor s).conference = s.conference :=
    congrArg Media.conference same.1
  have emptied := (deleteVideo_gone (JanusVideoRoomManager.destructor s)).1
  have localStream := (deleteData_gone (JanusVideoRoomManager.destructor s).deleteVideo).1
  refine ⟨_, rfl, ?_⟩
  rw [Logout_eq, deleteLocal_log, deleteData_log, deleteVideo_log, localStream, emptied, conference,
    same.2, leaveDeletions, map_deletions, List.map_append, map_deletions, map_deletions,
    List.append_assoc, List.append_assoc]

/-- In the run `is` and the `Logout` that ends it every stream made is destroyed exactly
once, and none is deleted by name while something else owns it. -/
structure DestroyedOnce (env : Env) (is : List Input) : Prop where
  video : ∀ p < (after env is).videoStreams,
    ((WebRTCInterface.Logout (after env is)).media.gone false).count p = 1
  data : ∀ p < (after env is).dataStreams,
    ((WebRTCInterface.Logout (after env is)).media.gone true).count p = 1
  left : ∀ js, js ++ [.leaveVideoRoom] <+: is → Unshared (leaveDeletions (after env js))
  deleted : Unshared (logoutDeletions (after env is))

/-- **Every stream is destroyed exactly once**, by its only owner, if and only if the
local data-channel stream has no entry in the table when `Logout` comes. -/
theorem destroyed_once_iff (env : Env) (is : List Input) :
    DestroyedOnce env is ↔
      ∀ p, (after env is).conference.LocalStream_DataChannels = some p →
        p ∉ (after env is).conference.mRemoteStreamInfos_DataChannels.refs := by
  have sound := sound_after env is
  constructor
  · intro once p isLocal listed
    have unshared : Unshared (deletions (after env is).conference.LocalStream_DataChannels.toList
        (after env is).conference.mRemoteStreamInfos_DataChannels.refs) :=
      fun d member => once.deleted d (List.mem_append_right _ (List.mem_append_left _ member))
    have apart := (RefCount.unshared_deletions_iff.1 unshared).2 p listed
    rw [isLocal] at apart
    simp at apart
  · intro apart
    have videoOnce : (after env is).conference.mRemoteStreamInfos_VideoAudio.refs.Nodup :=
      sound.video.nodup_refs
    have localOnce : (after env is).conference.LocalStream_DataChannels.toList.Nodup := by
      cases (after env is).conference.LocalStream_DataChannels <;> simp
    have dataOnce : ((after env is).conference.mRemoteStreamInfos_DataChannels.refs ++
        (after env is).conference.LocalStream_DataChannels.toList).Nodup := by
      refine List.nodup_append'.2 ⟨sound.data.nodup_refs, localOnce, ?_⟩
      intro p listed isLocal
      exact apart p (Option.mem_toList.1 isLocal) listed
    have held : (after env is).media.video.books.refs.Perm
        ((after env is).conference.mRemoteStreamInfos_VideoAudio.refs ++ []) := List.Perm.refl _
    have video := (sound.video.balanced.deleteAll held
      (by simpa using videoOnce)).all_destroyed rfl
    have held : (after env is).media.data.books.refs.Perm
        (((after env is).conference.mRemoteStreamInfos_DataChannels.refs ++
          (after env is).conference.LocalStream_DataChannels.toList) ++ []) := by
      rw [List.append_nil]
      exact List.Perm.refl _
    have data := (sound.data.balanced.deleteAll held (by simpa using dataOnce)).all_destroyed rfl
    constructor
    · rw [(Logout_gone _).1]
      exact video
    · rw [(Logout_gone _).2]
      exact data
    · intro js _
      exact RefCount.unshared_deletions_iff.2 ⟨(sound_after env js).video.nodup_refs, by simp⟩
    · intro d member
      rcases List.mem_append.1 member with seen | member
      · exact RefCount.unshared_deletions_iff.2 ⟨videoOnce, by simp⟩ d seen
      · rcases List.mem_append.1 member with heard | last
        · refine RefCount.unshared_deletions_iff.2 ⟨sound.data.nodup_refs, ?_⟩ d heard
          exact fun p listed isLocal => apart p (Option.mem_toList.1 isLocal) listed
        · exact RefCount.unshared_deletions_iff.2 ⟨localOnce, by simp⟩ d last

/-- A client that joined a text room and logs out: its stream is deleted twice. -/
theorem text_stream_deleted_twice : ¬ ∀ (env : Env) (is : List Input), DestroyedOnce env is := by
  intro always
  let is := [.joinDataChannelRoom 5678 "cc", Server.success (Env.sample.random 0) 9,
    Server.textOffer 9 "v=0"]
  have once := (always Env.sample is).data 0 (by decide +kernel)
  have twice : ((WebRTCInterface.Logout (after Env.sample is)).media.gone true).count 0 = 2 := by
    decide +kernel
  exact absurd (once.symm.trans twice) (by decide)

end WebrtcDemo
