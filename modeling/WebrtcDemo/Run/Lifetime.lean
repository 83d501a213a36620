import WebrtcDemo.Lib.Slots
import WebrtcDemo.Run.Registry

/-!
# The streams of a client

The video streams and the data-channel streams of a client as two registries, both
sound in every reachable state.
-/

namespace WebrtcDemo

open RefCount (Balanced Books)
open ConferenceManager (newInfo occupyWindow)

namespace Media

/-- The streams of one kind destroyed so far. -/
def gone (m : Media) (isTextRoom : Bool) : List Ptr :=
  m.destroyed.filterMap fun d => if d.1 = isTextRoom then some d.2 else none

def video (m : Media) : Registry where
  handle p := (m.videoHeap p).map (·.mHandleID)
  made := m.videoStreams
  table := m.conference.mRemoteStreamInfos_VideoAudio
  others := []
  destroyed := m.gone false

def data (m : Media) : Registry where
  handle p := (m.dataHeap p).map (·.mHandleID)
  made := m.dataStreams
  table := m.conference.mRemoteStreamInfos_DataChannels
  others := m.conference.LocalStream_DataChannels.toList
  destroyed := m.gone true

end Media

/-- Both registries of a client are sound. -/
structure Sound (s : Client) : Prop where
  video : s.media.video.Sound
  data : s.media.data.Sound

section
variable {s : Client} {p q : Ptr} {id : Int}

/-- A stream of the table goes by the key of its entry. -/
theorem Sound.videoHandle (sound : Sound s) {info : RemoteStreamInfo}
    (found : s.conference.mRemoteStreamInfos_VideoAudio.lookup id = some info) :
    s.videoHandle info.stream = id := by
  obtain ⟨x, alive, handle⟩ := Option.map_eq_some_iff.1 (sound.video.entry found).2
  have alive : s.videoHeap info.stream = some x := alive
  unfold Client.videoHandle
  rw [alive]
  exact handle

theorem Sound.dataHandle (sound : Sound s) {info : RemoteStreamInfo}
    (found : s.conference.mRemoteStreamInfos_DataChannels.lookup id = some info) :
    s.dataHandle info.stream = id := by
  obtain ⟨x, alive, handle⟩ := Option.map_eq_some_iff.1 (sound.data.entry found).2
  have alive : s.dataHeap info.stream = some x := alive
  unfold Client.dataHandle
  rw [alive]
  exact handle

/-! ## What a stream reports -/

variable {env : Env} {info : RemoteStreamInfo}

/-- An entry that is ready passes a description on at once. -/
theorem Sound.localVideo (sound : Sound s)
    (found : s.conference.mRemoteStreamInfos_VideoAudio.lookup id = some info) (sdp type : String) :
    ConferenceManager.localVideo env s id sdp type =
      JanusVideoRoomManager.SendSDP env
        (s.withVideo (s.conference.mRemoteStreamInfos_VideoAudio.insert id
          { info with sdp := sdp, sdpType := type })) id sdp type := by
  rw [ConferenceManager.localVideo, found]
  exact if_pos (sound.video.entry found).1.sdp

theorem Sound.localData (sound : Sound s)
    (found : s.conference.mRemoteStreamInfos_DataChannels.lookup id = some info)
    (sdp type : String) :
    ConferenceManager.localData env s id sdp type =
      JanusVideoRoomManager.SendSDP env
        (s.withData (s.conference.mRemoteStreamInfos_DataChannels.insert id
          { info with sdp := sdp, sdpType := type })) id sdp type := by
  rw [ConferenceManager.localData, found]
  exact if_pos (sound.data.entry found).1.sdp

/-- And a candidate: no other waits before it. -/
theorem Sound.candidateVideo (sound : Sound s)
    (found : s.conference.mRemoteStreamInfos_VideoAudio.lookup id = some info) (c : iceCandidate) :
    ConferenceManager.candidateVideo env s id c =
      JanusVideoRoomManager.SendCandidate env
        (s.withVideo (s.conference.mRemoteStreamInfos_VideoAudio.insert id
          { info with iceCandidateList := [] })) id c := by
  have ready := (sound.video.entry found).1
  have handle : ∀ table, (s.withVideo table).videoHandle info.stream = id :=
    fun _ => sound.videoHandle found
  rw [ConferenceManager.candidateVideo, found]
  dsimp only
  rw [if_pos ready.candidate, if_pos ready.candidate, handle, ready.none]
  rfl

theorem Sound.candidateData (sound : Sound s)
    (found : s.conference.mRemoteStreamInfos_DataChannels.lookup id = some info) (c : iceCandidate) :
    ConferenceManager.candidateData env s id c =
      JanusVideoRoomManager.SendCandidate env
        (s.withData (s.conference.mRemoteStreamInfos_DataChannels.insert id
          { info with iceCandidateList := [] })) id c := by
  have ready := (sound.data.entry found).1
  have handle : ∀ table, (s.withData table).dataHandle info.stream = id :=
    fun _ => sound.dataHandle found
  rw [ConferenceManager.candidateData, found]
  dsimp only
  rw [if_pos ready.candidate, if_pos ready.candidate, handle, ready.none]
  rfl

/-! ## Giving a reference up -/

theorem owners_refs (table : StreamTable) (p : Ptr) :
    Client.owners table p = 0 ↔ p ∉ table.refs := List.count_eq_zero

theorem destroyVideo_gone (s : Client) (p : Ptr) (explicit isTextRoom : Bool) :
    (s.destroyVideo p explicit).media.gone isTextRoom =
      if isTextRoom then s.media.gone isTextRoom else s.media.gone isTextRoom ++ [p] := by
  unfold Client.destroyVideo Client.media Media.gone
  dsimp only
  rw [List.filterMap_append, List.filterMap_append]
  cases isTextRoom <;> simp [Effect.destroyed?]

theorem destroyData_gone (s : Client) (p : Ptr) (explicit isTextRoom : Bool) :
    (s.destroyData p explicit).media.gone isTextRoom =
      if isTextRoom then s.media.gone isTextRoom ++ [p] else s.media.gone isTextRoom := by
  unfold Client.destroyData Client.media Media.gone
  dsimp only
  rw [List.filterMap_append, List.filterMap_append]
  cases isTextRoom <;> simp [Effect.destroyed?]

theorem releaseVideo_gone (s : Client) (p : Ptr) :
    (s.releaseVideo p).media.gone false =
      if p ∈ s.conference.mRemoteStreamInfos_VideoAudio.refs then s.media.gone false
      else s.media.gone false ++ [p] := by
  unfold Client.releaseVideo
  simp only [owners_refs]
  by_cases held : p ∈ s.conference.mRemoteStreamInfos_VideoAudio.refs
  · simp [held]
  · simp [held, destroyVideo_gone]

theorem releaseVideo_videoStreams (s : Client) (p : Ptr) :
    (s.releaseVideo p).videoStreams = s.videoStreams := by
  unfold Client.releaseVideo
  split_ifs <;> rfl

/-- What a release makes of the side of the videos, the handles apart. -/
theorem releaseVideo_video (s : Client) (p : Ptr) :
    (s.releaseVideo p).media.video =
      { s.media.video with
        handle := (s.releaseVideo p).media.video.handle
        destroyed :=
          if p ∈ s.conference.mRemoteStreamInfos_VideoAudio.refs then s.media.gone false
          else s.media.gone false ++ [p] } := by
  rw [← releaseVideo_gone]
  unfold Media.video Client.media
  rw [releaseVideo_conference, releaseVideo_videoStreams]

theorem releaseVideo_data (s : Client) (p : Ptr) :
    (s.releaseVideo p).media.data = s.media.data := by
  unfold Client.releaseVideo
  split_ifs
  · unfold Media.data
    rw [destroyVideo_gone]
    rfl
  · rfl

theorem releaseData_video (s : Client) (p : Ptr) :
    (s.releaseData p).media.video = s.media.video := by
  unfold Client.releaseData
  split_ifs
  · unfold Media.video
    rw [destroyData_gone]
    rfl
  · rfl

theorem releaseVideo_videoHeap (other : q ≠ p) : (s.releaseVideo p).videoHeap q = s.videoHeap q := by
  unfold Client.releaseVideo
  split_ifs
  · exact Function.update_of_ne other _ _
  · rfl

theorem releaseVideo_held (held : p ∈ s.conference.mRemoteStreamInfos_VideoAudio.refs) :
    s.releaseVideo p = s := by
  unfold Client.releaseVideo
  rw [if_neg]
  rwa [owners_refs, not_not]

/-- What a data-channel stream is held by: the table, and the local reference. -/
def Client.dataRefs (s : Client) : List Ptr :=
  s.conference.mRemoteStreamInfos_DataChannels.refs ++ s.conference.LocalStream_DataChannels.toList

theorem released_data (s : Client) (p : Ptr) :
    (Client.owners s.conference.mRemoteStreamInfos_DataChannels p = 0 ∧
      s.conference.LocalStream_DataChannels ≠ some p) ↔ p ∉ s.dataRefs := by
  unfold Client.dataRefs
  rw [owners_refs, List.mem_append, not_or, Option.mem_toList]

theorem releaseData_gone (s : Client) (p : Ptr) :
    (s.releaseData p).media.gone true =
      if p ∈ s.dataRefs then s.media.gone true else s.media.gone true ++ [p] := by
  unfold Client.releaseData
  simp only [released_data]
  by_cases held : p ∈ s.dataRefs
  · simp [held]
  · simp [held, destroyData_gone]

theorem releaseData_dataStreams (s : Client) (p : Ptr) :
    (s.releaseData p).dataStreams = s.dataStreams := by
  unfold Client.releaseData
  split_ifs <;> rfl

/-- What a release makes of the side of the data channels, the handles apart. -/
theorem releaseData_data (s : Client) (p : Ptr) :
    (s.releaseData p).media.data =
      { s.media.data with
        handle := (s.releaseData p).media.data.handle
        destroyed := if p ∈ s.dataRefs then s.media.gone true else s.media.gone true ++ [p] } := by
  rw [← releaseData_gone]
  unfold Media.data Client.media
  rw [releaseData_conference, releaseData_dataStreams]

theorem releaseData_dataHeap (other : q ≠ p) : (s.releaseData p).dataHeap q = s.dataHeap q := by
  unfold Client.releaseData
  split_ifs
  · exact Function.update_of_ne other _ _
  · rfl

theorem releaseData_held (held : p ∈ s.dataRefs) : s.releaseData p = s := by
  unfold Client.releaseData
  rw [if_neg]
  rwa [released_data, not_not]

/-! ## Windows -/

/-- The windows are slots, and 0 is nobody. -/
theorem occupyWindow_eq (id : Int) (winds : List (WindowId × Int)) :
    occupyWindow id winds = Slots.occupy 0 id winds := by
  induction winds with
  | nil => rfl
  | cons wind more ih =>
    unfold occupyWindow Slots.occupy
    rw [ih]

theorem freeWindow_eq (id : Int) (winds : List (WindowId × Int)) :
    ConferenceManager.freeWindow id winds = Slots.free 0 id winds := by
  induction winds with
  | nil => rfl
  | cons wind more ih =>
    unfold ConferenceManager.freeWindow Slots.free
    rw [ih]

/-- A stream is shown, if a window is free, and nothing else is touched. -/
theorem showStream_eq (s : Client) (p : Ptr) (id : Int) :
    ConferenceManager.showStream s p id =
      (s.modifyVideo p fun x =>
        { x with mWindowID := (occupyWindow id s.conference.mRemoteWinds).2.or x.mWindowID }).withWinds
          (occupyWindow id s.conference.mRemoteWinds).1 := by
  unfold ConferenceManager.showStream
  rcases given : occupyWindow id s.conference.mRemoteWinds with ⟨winds, _ | w⟩
  · have same : winds = s.conference.mRemoteWinds := by
      have full : (Slots.occupy 0 id s.conference.mRemoteWinds).2 = none →
          (Slots.occupy 0 id s.conference.mRemoteWinds).1 = s.conference.mRemoteWinds :=
        Slots.occupy_full
      rw [← occupyWindow_eq, given] at full
      exact full rfl
    have heap : Function.update s.videoHeap p ((s.videoHeap p).map fun x =>
        { x with mWindowID := Option.none.or x.mWindowID }) = s.videoHeap := by
      simp
    unfold Client.modifyVideo Client.withWinds
    dsimp only
    rw [heap, same]
  · rfl

/-! ## A new video stream -/

/-- What a client is after a video stream was made for `id` and entered. -/
structure Connected (s s' : Client) (id : Int) (show_ isLocal : Bool) : Prop where
  conference : s'.conference = { s.conference with
    mRemoteStreamInfos_VideoAudio :=
      s.conference.mRemoteStreamInfos_VideoAudio.insert id (newInfo s.videoStreams)
    mRemoteWinds :=
      if show_ then (occupyWindow id s.conference.mRemoteWinds).1 else s.conference.mRemoteWinds }
  made : s'.videoStreams = s.videoStreams + 1
  new : s'.videoHeap s.videoStreams = some
    { mHandleID := id
      mIsLocal := isLocal
      mWindowID := if show_ then (occupyWindow id s.conference.mRemoteWinds).2 else none }
  old : ∀ q, q ≠ s.videoStreams → (∀ info,
    s.conference.mRemoteStreamInfos_VideoAudio.lookup id = some info → q ≠ info.stream) →
      s'.videoHeap q = s.videoHeap q
  missing : s.conference.mRemoteStreamInfos_VideoAudio.lookup id = none →
    s'.media.gone false = s.media.gone false
  replaced : ∀ info, s.conference.mRemoteStreamInfos_VideoAudio.lookup id = some info →
    s'.media.gone false =
      if info.stream ∈ StreamTable.refs
        (s.conference.mRemoteStreamInfos_VideoAudio.insert id (newInfo s.videoStreams))
      then s.media.gone false else s.media.gone false ++ [info.stream]
  data : s'.media.data = s.media.data

/-- The state of `ConnectToPeer_VideoAudio` in which the new stream is in its table. -/
def Client.entered (s : Client) (id : Int) (isLocal : Bool) : Client :=
  ConferenceManager.addStreamInfo_VideoAudio
    { s with
      videoHeap := Function.update s.videoHeap s.videoStreams
        (some { mHandleID := id, mIsLocal := isLocal })
      videoStreams := s.videoStreams + 1 } s.videoStreams

theorem entered_connected (s : Client) (id : Int) (isLocal : Bool) :
    Connected s (s.entered id isLocal) id false isLocal := by
  let made : Client := { s with
    videoHeap := Function.update s.videoHeap s.videoStreams
      (some { mHandleID := id, mIsLocal := isLocal })
    videoStreams := s.videoStreams + 1 }
  let listed := made.withVideo
    (s.conference.mRemoteStreamInfos_VideoAudio.insert id (newInfo s.videoStreams))
  have handle : made.videoHandle s.videoStreams = id := by
    simp [made, Client.videoHandle]
  have alive : listed.videoHeap s.videoStreams =
      some { mHandleID := id, mIsLocal := isLocal } := Function.update_self _ _ _
  have older : ∀ q ≠ s.videoStreams, listed.videoHeap q = s.videoHeap q :=
    fun q other => Function.update_of_ne other _ _
  rcases found : s.conference.mRemoteStreamInfos_VideoAudio.lookup id with _ | info
  · have entered : s.entered id isLocal = listed := by
      unfold Client.entered ConferenceManager.addStreamInfo_VideoAudio
      dsimp only
      rw [handle, found]
      rfl
    rw [entered]
    exact ⟨rfl, rfl, alive, fun q other _ => older q other, fun _ => rfl,
      fun info member => by simp [found] at member, rfl⟩
  · have entered : s.entered id isLocal = listed.releaseVideo info.stream := by
      unfold Client.entered ConferenceManager.addStreamInfo_VideoAudio
      dsimp only
      rw [handle, found]
      rfl
    have held : s.videoStreams ∈ StreamTable.refs listed.conference.mRemoteStreamInfos_VideoAudio :=
      List.mem_cons_self
    rw [entered]
    refine ⟨releaseVideo_conference, releaseVideo_videoStreams _ _, ?_,
      fun q other apart => ?_, fun missing => ?_, fun info' member => ?_, releaseVideo_data _ _⟩
    · by_cases same : info.stream = s.videoStreams
      · rw [same, releaseVideo_held held]
        exact alive
      · rw [releaseVideo_videoHeap (Ne.symm same)]
        exact alive
    · rw [releaseVideo_videoHeap (apart info found)]
      exact older q other
    · simp [found] at missing
    · obtain rfl : info = info' := by simpa [found] using member
      exact releaseVideo_gone _ _

/-- **A video stream is connected.** -/
theorem ConnectToPeer_VideoAudio_connected (s : Client) (id : Int) (show_ isConnect isLocal : Bool) :
    Connected s (ConferenceManager.ConnectToPeer_VideoAudio s id show_ isConnect isLocal) id show_
      isLocal := by
  have entered := entered_connected s id isLocal
  have shown : Connected s
      (if show_ then ConferenceManager.showStream (s.entered id isLocal) s.videoStreams id
      else s.entered id isLocal) id show_ isLocal := by
    cases show_ with
    | false => exact entered
    | true =>
      rw [if_pos rfl, showStream_eq]
      have winds : (s.entered id isLocal).conference.mRemoteWinds = s.conference.mRemoteWinds := by
        rw [entered.conference]
        rfl
      rw [winds]
      refine ⟨?_, entered.made, ?_, fun q other apart => ?_, entered.missing, entered.replaced,
        entered.data⟩
      · unfold Client.withWinds Client.modifyVideo
        rw [entered.conference]
        rfl
      · unfold Client.withWinds Client.modifyVideo
        dsimp only
        rw [Function.update_self, entered.new]
        simp
      · unfold Client.withWinds Client.modifyVideo
        dsimp only
        rw [Function.update_of_ne other]
        exact entered.old q other apart
  have connected : ∀ t, Connected s t id show_ isLocal →
      Connected s (if isConnect then t.emit (.connectToPeer s.videoStreams) else t) id show_
        isLocal := by
    intro t there
    split_ifs
    · have media : (t.emit (.connectToPeer s.videoStreams)).media = t.media := emit_media rfl
      exact ⟨there.conference, there.made, there.new, there.old, fun missing => by
        rw [media, there.missing missing], fun info found => by
        rw [media, there.replaced info found], by rw [media, there.data]⟩
    · exact there
  exact connected _ shown

theorem Sound.connect {s' : Client} {show_ isLocal : Bool} (sound : Sound s)
    (connected : Connected s s' id show_ isLocal) : Sound s' where
  video := by
    have same : s'.media.video = ⟨s'.media.video.handle, s.videoStreams + 1,
        s.conference.mRemoteStreamInfos_VideoAudio.insert id (newInfo s.videoStreams), [],
        s'.media.gone false⟩ := by
      unfold Media.video Client.media
      rw [connected.conference, connected.made]
    rw [same]
    refine sound.video.enter sound.video.balanced.make ?_ ?_ connected.missing ?_
    · show (s'.videoHeap s.videoStreams).map (·.mHandleID) = some id
      rw [connected.new]
      rfl
    · intro key info other found
      have older := sound.video.older found
      show (s'.videoHeap info.stream).map (·.mHandleID) = (s.videoHeap info.stream).map (·.mHandleID)
      rw [connected.old info.stream (Nat.ne_of_lt older)]
      intro info' found'
      exact sound.video.stream_ne found found' other
    · intro info found
      have outside : s.media.video.others = [] := rfl
      rw [connected.replaced info found, outside, List.append_nil]
      rfl
  data := by
    rw [connected.data]
    exact sound.data

/-! ## A stream is removed -/

theorem removeVideo_sound (sound : Sound s) (id : Int) : Sound (ConferenceManager.removeVideo s id) := by
  unfold ConferenceManager.removeVideo
  split
  · exact sound
  · next info found =>
    let unlisted := (s.modifyVideo info.stream ({ · with mHandleID := -1 })).withVideo
      (s.conference.mRemoteStreamInfos_VideoAudio.erase id)
    show Sound (unlisted.releaseVideo info.stream)
    constructor
    · have same : (unlisted.releaseVideo info.stream).media.video =
          ⟨(unlisted.releaseVideo info.stream).media.video.handle, s.videoStreams,
            s.conference.mRemoteStreamInfos_VideoAudio.erase id, [],
            if info.stream ∈ StreamTable.refs (s.conference.mRemoteStreamInfos_VideoAudio.erase id) ++ []
            then s.media.gone false else s.media.gone false ++ [info.stream]⟩ := by
        rw [List.append_nil]
        exact releaseVideo_video unlisted info.stream
      rw [same]
      refine sound.video.remove found fun key info' other found' => ?_
      have apart := sound.video.stream_ne found' found other
      show ((unlisted.releaseVideo info.stream).videoHeap info'.stream).map (·.mHandleID) = _
      rw [releaseVideo_videoHeap apart]
      show (Function.update s.videoHeap info.stream _ info'.stream).map (·.mHandleID) = _
      rw [Function.update_of_ne apart]
      rfl
    · rw [releaseVideo_data]
      exact sound.data

theorem removeData_sound (sound : Sound s) (id : Int) : Sound (ConferenceManager.removeData s id) := by
  unfold ConferenceManager.removeData
  split
  · exact sound
  · next info found =>
    let unlisted := (s.modifyData info.stream ({ · with mHandleID := -1 })).withData
      (s.conference.mRemoteStreamInfos_DataChannels.erase id)
    show Sound (unlisted.releaseData info.stream)
    constructor
    · rw [releaseData_video]
      exact sound.video
    · have same : (unlisted.releaseData info.stream).media.data =
          ⟨(unlisted.releaseData info.stream).media.data.handle, s.dataStreams,
            s.conference.mRemoteStreamInfos_DataChannels.erase id,
            s.conference.LocalStream_DataChannels.toList,
            if info.stream ∈ StreamTable.refs (s.conference.mRemoteStreamInfos_DataChannels.erase id) ++
              s.conference.LocalStream_DataChannels.toList then s.media.gone true
            else s.media.gone true ++ [info.stream]⟩ :=
        releaseData_data unlisted info.stream
      rw [same]
      refine sound.data.remove found fun key info' other found' => ?_
      have apart := sound.data.stream_ne found' found other
      show ((unlisted.releaseData info.stream).dataHeap info'.stream).map (·.mHandleID) = _
      rw [releaseData_dataHeap apart]
      show (Function.update s.dataHeap info.stream _ info'.stream).map (·.mHandleID) = _
      rw [Function.update_of_ne apart]
      rfl

/-- What a removal does to the tables and the windows. -/
theorem onRemoteStreamRemove_conference (s : Client) (id : Int) :
    (ConferenceManager.onRemoteStreamRemove s id).conference = { s.conference with
      mRemoteStreamInfos_VideoAudio := s.conference.mRemoteStreamInfos_VideoAudio.erase id
      mRemoteStreamInfos_DataChannels := s.conference.mRemoteStreamInfos_DataChannels.erase id
      mRemoteWinds := ConferenceManager.freeWindow id s.conference.mRemoteWinds } := by
  have video : (ConferenceManager.removeVideo s id).conference = { s.conference with
      mRemoteStreamInfos_VideoAudio := s.conference.mRemoteStreamInfos_VideoAudio.erase id } := by
    unfold ConferenceManager.removeVideo
    split
    · next missing => rw [StreamTable.erase_missing missing]
    · exact releaseVideo_conference
  have data : ∀ t : Client, (ConferenceManager.removeData t id).conference = { t.conference with
      mRemoteStreamInfos_DataChannels := t.conference.mRemoteStreamInfos_DataChannels.erase id } := by
    intro t
    unfold ConferenceManager.removeData
    split
    · next missing => rw [StreamTable.erase_missing missing]
    · exact releaseData_conference
  rw [ConferenceManager.onRemoteStreamRemove_eq, data]
  unfold ConferenceManager.unoccupy Client.withWinds
  rw [video]

/-- No other video stream is touched. -/
theorem onRemoteStreamRemove_videoHeap (apart : ∀ info,
    s.conference.mRemoteStreamInfos_VideoAudio.lookup id = some info → q ≠ info.stream) :
    (ConferenceManager.onRemoteStreamRemove s id).videoHeap q = s.videoHeap q := by
  have video : (ConferenceManager.removeVideo s id).videoHeap q = s.videoHeap q := by
    unfold ConferenceManager.removeVideo
    split
    · rfl
    · next info found =>
      dsimp only
      rw [releaseVideo_videoHeap (apart info found)]
      exact Function.update_of_ne (apart info found) _ _
  have data : ∀ t : Client, (ConferenceManager.removeData t id).videoHeap = t.videoHeap := by
    intro t
    unfold ConferenceManager.removeData
    split
    · rfl
    · unfold Client.releaseData
      dsimp only
      split_ifs <;> rfl
  rw [ConferenceManager.onRemoteStreamRemove_eq, data]
  exact video

theorem onRemoteStreamRemove_sound (sound : Sound s) (id : Int) :
    Sound (ConferenceManager.onRemoteStreamRemove s id) := by
  rw [ConferenceManager.onRemoteStreamRemove_eq]
  have removed := removeVideo_sound sound id
  exact removeData_sound (s := ConferenceManager.unoccupy (ConferenceManager.removeVideo s id) id)
    ⟨removed.video, removed.data⟩ id

/-! ## The video room is left -/

/-- Streams deleted by name. -/
theorem deleteStreams_media (s : Client) (entries : List (Sigma fun _ : Int => RemoteStreamInfo)) :
    (ConferenceManager.deleteStreams s entries).conference = s.conference ∧
      (ConferenceManager.deleteStreams s entries).videoStreams = s.videoStreams ∧
      (ConferenceManager.deleteStreams s entries).media.gone false =
        s.media.gone false ++ entries.map (·.2.stream) ∧
      (ConferenceManager.deleteStreams s entries).media.data = s.media.data := by
  induction entries generalizing s with
  | nil => simp [ConferenceManager.deleteStreams]
  | cons entry more ih =>
    obtain ⟨conference, made, gone, data⟩ := ih (s.destroyVideo entry.2.stream true)
    unfold ConferenceManager.deleteStreams
    refine ⟨conference, made, ?_, ?_⟩
    · rw [gone, destroyVideo_gone]
      simp
    · rw [data]
      unfold Media.data
      rw [destroyVideo_gone]
      rfl

/-- Leaving frees the windows and empties the table. -/
theorem LeaveVideoRoom_conference (s : Client) :
    (ConferenceManager.LeaveVideoRoom s).conference =
      { s.conference with
        mRemoteStreamInfos_VideoAudio := ∅
        mRemoteWinds := s.conference.mRemoteWinds.map fun wind => (wind.1, 0) } := by
  unfold ConferenceManager.LeaveVideoRoom
  dsimp only
  rw [(deleteStreams_media _ _).1]

theorem LeaveVideoRoom_sound (sound : Sound s) : Sound (ConferenceManager.LeaveVideoRoom s) := by
  let freed := s.withWinds (s.conference.mRemoteWinds.map fun wind => (wind.1, 0))
  let entries := s.conference.mRemoteStreamInfos_VideoAudio.entries
  obtain ⟨conference, made, gone, data⟩ := deleteStreams_media freed entries
  show Sound ((ConferenceManager.deleteStreams freed entries).withVideo ∅)
  have held : s.media.video.books.refs.Perm
      (s.conference.mRemoteStreamInfos_VideoAudio.refs ++ []) := List.Perm.refl _
  have once : (s.conference.mRemoteStreamInfos_VideoAudio.refs ++ []).Nodup := by
    rw [List.append_nil]
    exact sound.video.nodup_refs
  have balanced := sound.video.balanced.deleteAll held once
  constructor
  · have same : ((ConferenceManager.deleteStreams freed entries).withVideo ∅).media.video =
        ⟨(ConferenceManager.deleteStreams freed entries).media.video.handle, s.videoStreams, ∅, [],
          s.media.gone false ++ s.conference.mRemoteStreamInfos_VideoAudio.refs⟩ := by
      refine Eq.trans ?_ (congrArg _ gone)
      show Registry.mk _ (ConferenceManager.deleteStreams freed entries).videoStreams _ _ _ = _
      rw [made]
      rfl
    rw [same]
    exact ⟨balanced, fun found => by simp at found⟩
  · have same : ((ConferenceManager.deleteStreams freed entries).withVideo ∅).media.data =
        (ConferenceManager.deleteStreams freed entries).media.data := rfl
    rw [same, data]
    exact sound.data

/-! ## A new data-channel stream -/

/-- A new data-channel stream, which becomes the local one. -/
def Client.newLocal (s : Client) (id : Int) : Client :=
  { s with
    dataHeap := Function.update s.dataHeap s.dataStreams (some { mHandleID := id })
    dataStreams := s.dataStreams + 1
    conference := { s.conference with LocalStream_DataChannels := some s.dataStreams } }

/-- The same, after the local stream of before was given up. -/
def Client.replacedLocal (s : Client) (id : Int) : Client :=
  s.conference.LocalStream_DataChannels.elim (s.newLocal id) (s.newLocal id).releaseData

/-- The state of `ConnectToPeer_DataChannels` in which the new stream is the local one. -/
def Client.appointed (s : Client) (id : Int) : Client :=
  (s.replacedLocal id).modifyData s.dataStreams
    ({ · with OnSendLocalInfoWhenOpenDataChannel := true })

theorem ConnectToPeer_DataChannels_eq (s : Client) (id : Int) :
    ConferenceManager.ConnectToPeer_DataChannels s id =
      ConferenceManager.addStreamInfo_DataChannels (s.appointed id) s.dataStreams := by
  unfold ConferenceManager.ConnectToPeer_DataChannels Client.appointed Client.replacedLocal
  dsimp only
  cases s.conference.LocalStream_DataChannels <;> rfl

theorem modifyData_handle (s : Client) (p : Ptr)
    (f : WebrtcStreamDataChannels → WebrtcStreamDataChannels)
    (same : ∀ x, (f x).mHandleID = x.mHandleID) :
    (s.modifyData p f).media.data = s.media.data := by
  have handles : (fun q => ((s.modifyData p f).dataHeap q).map (·.mHandleID)) =
      fun q => (s.dataHeap q).map (·.mHandleID) := by
    funext q
    unfold Client.modifyData
    dsimp only
    rcases eq_or_ne q p with rfl | other
    · rw [Function.update_self, Option.map_map]
      cases s.dataHeap q <;> simp [same]
    · rw [Function.update_of_ne other]
  unfold Media.data Client.media
  dsimp only
  rw [handles]
  rfl

/-- The local stream is replaced, and no stream of the table is touched. -/
theorem replacedLocal_sound (sound : Sound s) (id : Int) :
    Sound (s.replacedLocal id) ∧
      (s.replacedLocal id).dataHeap s.dataStreams = some { mHandleID := id } ∧
      (s.replacedLocal id).dataStreams = s.dataStreams + 1 ∧
      (s.replacedLocal id).conference =
        { s.conference with LocalStream_DataChannels := some s.dataStreams } := by
  have made := sound.data.balanced.make
  have alive : (s.newLocal id).dataHeap s.dataStreams = some { mHandleID := id } :=
    Function.update_self _ _ _
  have table : ∀ key info, s.conference.mRemoteStreamInfos_DataChannels.lookup key = some info →
      ((s.newLocal id).dataHeap info.stream).map (·.mHandleID) =
        (s.dataHeap info.stream).map (·.mHandleID) := by
    intro key info found
    have older : info.stream ≠ s.dataStreams := Nat.ne_of_lt (sound.data.older found)
    show (Function.update s.dataHeap s.dataStreams _ info.stream).map _ = _
    rw [Function.update_of_ne older]
  unfold Client.replacedLocal
  rcases previous : s.conference.LocalStream_DataChannels with _ | q
  · refine ⟨⟨sound.video, ?_⟩, alive, rfl, rfl⟩
    have none : s.media.data.others = [] := by
      show s.conference.LocalStream_DataChannels.toList = []
      rw [previous]
      rfl
    refine sound.data.keep (?_ : RefCount.Balanced ⟨_, _ ++ [s.dataStreams], _⟩) table
    refine made.perm ?_ (List.Perm.refl _)
    show (_ ++ [s.dataStreams]).Perm (s.dataStreams :: (_ ++ s.media.data.others))
    rw [none, List.append_nil]
    exact List.perm_append_comm
  · have one : s.media.data.others = [q] := by
      show s.conference.LocalStream_DataChannels.toList = [q]
      rw [previous]
      rfl
    have older : q < s.dataStreams := sound.data.balanced.below q (by
      show q ∈ _ ++ s.media.data.others
      rw [one]
      simp)
    have count : ((s.newLocal id).releaseData q).dataStreams = s.dataStreams + 1 :=
      releaseData_dataStreams _ q
    have conference : ((s.newLocal id).releaseData q).conference =
        { s.conference with LocalStream_DataChannels := some s.dataStreams } :=
      releaseData_conference
    refine ⟨⟨?_, ?_⟩, ?_, count, conference⟩
    · show ((s.newLocal id).releaseData q).media.video.Sound
      rw [releaseData_video]
      exact sound.video
    · have same : ((s.newLocal id).releaseData q).media.data =
          ⟨((s.newLocal id).releaseData q).media.data.handle, s.dataStreams + 1,
            s.conference.mRemoteStreamInfos_DataChannels, [s.dataStreams],
            if q ∈ s.conference.mRemoteStreamInfos_DataChannels.refs ++ [s.dataStreams]
            then s.media.gone true else s.media.gone true ++ [q]⟩ :=
        releaseData_data (s.newLocal id) q
      show ((s.newLocal id).releaseData q).media.data.Sound
      rw [same]
      refine sound.data.keep ?_ fun key info found => ?_
      · refine made.release ?_
        show (s.dataStreams :: (_ ++ s.media.data.others)).Perm _
        rw [one]
        have last : ∀ a b : Ptr, ∀ refs : List Ptr, (a :: (refs ++ [b])).Perm (a :: b :: refs) :=
          fun a b refs => (List.perm_append_singleton b refs).cons a
        exact (last _ q _).trans ((List.Perm.swap _ _ _).trans (last q _ _).symm)
      · show (((s.newLocal id).releaseData q).dataHeap info.stream).map (·.mHandleID) = _
        by_cases held : q ∈ (s.newLocal id).dataRefs
        · rw [releaseData_held held]
          exact table key info found
        · have other : info.stream ≠ q := by
            rintro rfl
            exact held (List.mem_append_left _ (StreamTable.mem_refs.2 ⟨key, info, found, rfl⟩))
          rw [releaseData_dataHeap other]
          exact table key info found
    · show ((s.newLocal id).releaseData q).dataHeap s.dataStreams = _
      rw [releaseData_dataHeap (Nat.ne_of_gt older)]
      exact alive

/-- A data-channel stream that is held is entered under its handle. -/
theorem addStreamInfo_DataChannels_sound (sound : Sound s)
    (hold : Balanced ⟨s.dataStreams, p :: s.dataRefs, s.media.gone true⟩)
    (handle : s.dataHandle p = id) (known : s.media.data.handle p = some id) :
    Sound (ConferenceManager.addStreamInfo_DataChannels s p) := by
  let listed := s.withData (s.conference.mRemoteStreamInfos_DataChannels.insert id (newInfo p))
  rcases found : s.conference.mRemoteStreamInfos_DataChannels.lookup id with _ | info
  · have entered : ConferenceManager.addStreamInfo_DataChannels s p = listed := by
      unfold ConferenceManager.addStreamInfo_DataChannels
      dsimp only
      rw [handle, found]
      rfl
    rw [entered]
    exact ⟨sound.video, sound.data.enter hold known (fun _ _ _ _ => rfl) (fun _ => rfl)
      fun info there => by simp [Media.data, Client.media, found] at there⟩
  · have entered : ConferenceManager.addStreamInfo_DataChannels s p =
        listed.releaseData info.stream := by
      unfold ConferenceManager.addStreamInfo_DataChannels
      dsimp only
      rw [handle, found]
      rfl
    have same : (listed.releaseData info.stream).media.data =
        ⟨(listed.releaseData info.stream).media.data.handle, s.dataStreams,
          s.conference.mRemoteStreamInfos_DataChannels.insert id (newInfo p),
          s.conference.LocalStream_DataChannels.toList,
          if info.stream ∈ listed.dataRefs then listed.media.gone true
          else listed.media.gone true ++ [info.stream]⟩ :=
      releaseData_data listed info.stream
    -- a stream that is still referred to is not destroyed
    have kept : ∀ q ∈ listed.dataRefs,
        (listed.releaseData info.stream).media.data.handle q = s.media.data.handle q := by
      intro q held
      show ((listed.releaseData info.stream).dataHeap q).map (·.mHandleID) = _
      by_cases last : q = info.stream
      · rw [← last, releaseData_held held]
        rfl
      · rw [releaseData_dataHeap last]
        rfl
    rw [entered]
    constructor
    · rw [releaseData_video]
      exact sound.video
    · rw [same]
      refine sound.data.enter hold ?_ ?_ ?_ ?_
      · rw [kept p List.mem_cons_self]
        exact known
      · intro key info' other found'
        refine kept info'.stream (List.mem_append_left _ (StreamTable.mem_refs.2 ⟨key, info', ?_, rfl⟩))
        exact (AList.lookup_insert_ne other).trans found'
      · intro missing
        simp [Media.data, Client.media, found] at missing
      · intro info' there
        obtain rfl : info = info' := by
          simpa [Media.data, Client.media, found] using there
        rfl

theorem ConnectToPeer_DataChannels_sound (sound : Sound s) (id : Int) :
    Sound (ConferenceManager.ConnectToPeer_DataChannels s id) := by
  obtain ⟨⟨video, data⟩, alive, count, conference⟩ := replacedLocal_sound sound id
  have same : (s.appointed id).media.data = (s.replacedLocal id).media.data :=
    modifyData_handle _ _ _ fun _ => rfl
  have sound : Sound (s.appointed id) := ⟨video, same ▸ data⟩
  have handle : (s.appointed id).dataHandle s.dataStreams = id := by
    unfold Client.dataHandle Client.appointed Client.modifyData
    dsimp only
    rw [Function.update_self, alive]
    rfl
  have known : (s.appointed id).media.data.handle s.dataStreams = some id := by
    rw [same]
    show ((s.replacedLocal id).dataHeap s.dataStreams).map _ = _
    rw [alive]
    rfl
  have others : (s.appointed id).media.data.others = [s.dataStreams] := by
    rw [same]
    show (s.replacedLocal id).conference.LocalStream_DataChannels.toList = _
    rw [conference]
    rfl
  have held : s.dataStreams ∈ (s.appointed id).media.data.books.refs := by
    show s.dataStreams ∈ _ ++ (s.appointed id).media.data.others
    rw [others]
    simp
  rw [ConnectToPeer_DataChannels_eq]
  have hold := sound.data.balanced.hold held
  exact addStreamInfo_DataChannels_sound sound hold handle known

/-! ## Every piece of a step keeps both registries -/

theorem Sound.same {s' : Client} (sound : Sound s) (same : s'.media = s.media) : Sound s' := by
  constructor
  · rw [same]
    exact sound.video
  · rw [same]
    exact sound.data

theorem onRetmoeSDP_sound (sound : Sound s) (id : Int) (type sdp : String) (isTextRoom : Bool) :
    Sound (ConferenceManager.onRetmoeSDP s id type sdp isTextRoom) := by
  cases isTextRoom with
  | false =>
    rw [ConferenceManager.onRetmoeSDP_video]
    have told : ∀ t, Sound t → Sound (ConferenceManager.tellVideo t id type sdp) := by
      intro t there
      unfold ConferenceManager.tellVideo
      split
      · exact there.same (emit_media rfl)
      · exact there
    apply told
    split_ifs
    · exact sound.connect (ConnectToPeer_VideoAudio_connected s id true false false)
    · exact sound
  | true =>
    rw [ConferenceManager.onRetmoeSDP_text]
    have told : ∀ t, Sound t → Sound (ConferenceManager.tellData t id type sdp) := by
      intro t there
      unfold ConferenceManager.tellData
      split
      · next info _ =>
        have data := modifyData_handle t info.stream ({ · with mDataChannel := true }) fun _ => rfl
        have opened : Sound (t.modifyData info.stream ({ · with mDataChannel := true })) :=
          ⟨there.video, data ▸ there.data⟩
        exact opened.same (emit_media rfl)
      · exact there
    apply told
    split_ifs
    · exact ConnectToPeer_DataChannels_sound sound id
    · exact sound

theorem Staged.sound {i : Input} {start s' : Client} (piece : Staged i start s s') (sound : Sound s) :
    Sound s' := by
  cases piece with
  | apart same => exact sound.same same
  | windows => exact ⟨sound.video, sound.data⟩
  | described => exact onRetmoeSDP_sound sound _ _ _ _
  | joined => exact sound.connect (ConnectToPeer_VideoAudio_connected s _ false true false)
  | removed => exact onRemoteStreamRemove_sound sound _
  | left => exact LeaveVideoRoom_sound sound
  | room => exact ⟨sound.video, sound.data⟩
  | storedVideo found stores => exact ⟨sound.video.store found stores, sound.data⟩
  | storedData found stores => exact ⟨sound.video, sound.data.store found stores⟩
  | opened stream =>
    have data := modifyData_handle s stream ({ · with OnSendLocalInfoWhenOpenDataChannel := false })
      fun _ => rfl
    exact ⟨sound.video, data ▸ sound.data⟩

theorem Sound.step (sound : Sound s) (env : Env) (i : Input) : Sound (WebrtcDemo.step env s i) :=
  Machine.transitions_keep (fun _ _ piece sound => piece.sound sound) (step_staged env s i) sound

theorem sound_initial (env : Env) : Sound (Client.initial env) where
  video := ⟨RefCount.balanced_empty, fun found => by
    simp [Client.initial, Client.media, Media.video] at found⟩
  data := ⟨RefCount.balanced_empty, fun found => by
    simp [Client.initial, Client.media, Media.data] at found⟩

/-- **The streams are accounted for in every reachable state.** -/
theorem sound_after (env : Env) (is : List Input) : Sound (after env is) :=
  Machine.run_keeps (fun _ i sound _ => sound.step env i) (sound_initial env) (Machine.along_true is)

end

end WebrtcDemo
