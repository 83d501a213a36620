import WebrtcDemo.Run.Leave
import WebrtcDemo.Run.Windows

/-!
# What an unpublished feed takes with it

An event that only says that a feed is no longer published unlists the first peer
subscribed to it, and takes what goes by the handle of that peer out of both tables
and off the windows. Everything else is where it was.
-/

namespace WebrtcDemo

open JanusVideoRoomManager (findPeer publisherIds)

/-- From `s` to `s'` the peer `p` with the handle `h` was taken out, and nothing else. -/
structure Removes (p : Ptr) (h : Int) (s s' : Client) : Prop where
  video : s'.listed .video = (s.listed .video).erase p
  text : s'.listed .text = s.listed .text
  peers : s'.peers = s.peers
  videoStreams : ∀ k ≠ h, s'.conference.mRemoteStreamInfos_VideoAudio.lookup k =
    s.conference.mRemoteStreamInfos_VideoAudio.lookup k
  dataStreams : ∀ k ≠ h, s'.conference.mRemoteStreamInfos_DataChannels.lookup k =
    s.conference.mRemoteStreamInfos_DataChannels.lookup k
  videoObjects : ∀ k ≠ h, ∀ info,
    s.conference.mRemoteStreamInfos_VideoAudio.lookup k = some info →
    s'.videoHeap info.stream = s.videoHeap info.stream
  dataObjects : ∀ k ≠ h, ∀ info,
    s.conference.mRemoteStreamInfos_DataChannels.lookup k = some info →
    s'.dataHeap info.stream = s.dataHeap info.stream
  winds : s'.conference.mRemoteWinds = s.conference.mRemoteWinds.map fun wind =>
    if wind.2 = h then (wind.1, 0) else wind
  gone : 0 < h → h ∉ s'.conference.mRemoteStreamInfos_VideoAudio ∧
    h ∉ s'.conference.mRemoteStreamInfos_DataChannels ∧
    ∀ wind ∈ s'.conference.mRemoteWinds, wind.2 ≠ h

/-- Nobody was listed or unlisted, and no stream and no window changed. -/
structure Undisturbed (s s' : Client) : Prop where
  listed : ∀ room, s'.listed room = s.listed room
  peers : s'.peers = s.peers
  conference : s'.conference = s.conference

section
variable {env : Env} {i : Input} {s : Client} {object : Json}

/-- An event with nothing but `unpublished`. -/
theorem step_unpublishes (event : i.Tags "event" object) (nothing : offeredSdp object = "")
    (nobody : newFeeds object = []) :
    step env s i = JanusVideoRoomManager.onVideoRoomEventUnpublish (s.keyed object) object := by
  rw [step_videoRoom event, JanusVideoRoomManager.onVideoRoomEvent, if_neg (by decide),
    if_neg (by decide), if_pos rfl, JanusVideoRoomManager.onVideoRoomEventEvent,
    sdp_nothing nothing false, onVideoRoomEventPublisher_eq, nobody]
  rfl

/-- `eraseP` takes out what `find?` finds. -/
theorem eraseP_found {α : Type*} [DecidableEq α] {list : List α} {test : α → Bool} {first : α}
    (found : list.find? test = some first) : list.eraseP test = list.erase first := by
  obtain ⟨holds, before, rest, rfl, none⟩ := List.find?_eq_some_iff_append.1 found
  have none' : ∀ b ∈ before, ¬ test b = true := by simpa using none
  have absent : first ∉ before := fun member => none' first member holds
  rw [List.eraseP_append_right _ none', List.eraseP_cons_of_pos holds,
    List.erase_append_right _ absent, List.erase_cons_head]

/-- No other data-channel stream is touched. -/
theorem onRemoteStreamRemove_dataHeap {id : Int} {q : Ptr} (apart : ∀ info,
    s.conference.mRemoteStreamInfos_DataChannels.lookup id = some info → q ≠ info.stream) :
    (ConferenceManager.onRemoteStreamRemove s id).dataHeap q = s.dataHeap q := by
  have video : (ConferenceManager.removeVideo s id).dataHeap = s.dataHeap ∧
      (ConferenceManager.removeVideo s id).conference.mRemoteStreamInfos_DataChannels =
        s.conference.mRemoteStreamInfos_DataChannels := by
    unfold ConferenceManager.removeVideo
    split
    · exact ⟨rfl, rfl⟩
    · unfold Client.releaseVideo
      dsimp only
      split_ifs <;> exact ⟨rfl, rfl⟩
  have unoccupied : (ConferenceManager.unoccupy (ConferenceManager.removeVideo s id) id).dataHeap q =
      s.dataHeap q := congrFun video.1 q
  rw [ConferenceManager.onRemoteStreamRemove_eq, ConferenceManager.removeData]
  split
  · exact unoccupied
  · next info found =>
    have found' : s.conference.mRemoteStreamInfos_DataChannels.lookup id = some info := by
      rw [← video.2]
      exact found
    dsimp only
    rw [releaseData_dataHeap (apart info found')]
    exact (Function.update_of_ne (apart info found') _ _).trans unoccupied

/-- A removal takes out what goes by the handle. -/
theorem removes_of_sound (sound : Sound s) (occupied : Occupied s) {p : Ptr} {h : Int}
    {r t : Client} (same : r.conference = s.conference ∧ r.videoHeap = s.videoHeap ∧
      r.dataHeap = s.dataHeap)
    (conference : t.conference = (ConferenceManager.onRemoteStreamRemove r h).conference)
    (videoHeap : t.videoHeap = (ConferenceManager.onRemoteStreamRemove r h).videoHeap)
    (dataHeap : t.dataHeap = (ConferenceManager.onRemoteStreamRemove r h).dataHeap)
    (video : t.listed .video = (s.listed .video).erase p) (text : t.listed .text = s.listed .text)
    (peers : t.peers = s.peers) : Removes p h s t := by
  rw [onRemoteStreamRemove_conference, same.1, freeWindow_eq,
    Slots.free_eq_map occupied.once] at conference
  refine ⟨video, text, peers, ?_, ?_, ?_, ?_, by rw [conference], fun positive => ?_⟩
  · intro k other
    rw [conference]
    exact AList.lookup_erase_ne other
  · intro k other
    rw [conference]
    exact AList.lookup_erase_ne other
  · intro k other info found
    rw [videoHeap, ← same.2.1]
    refine onRemoteStreamRemove_videoHeap fun info' found' => ?_
    rw [same.1] at found'
    exact sound.video.stream_ne found found' other
  · intro k other info found
    rw [dataHeap, ← same.2.2]
    refine onRemoteStreamRemove_dataHeap fun info' found' => ?_
    rw [same.1] at found'
    exact sound.data.stream_ne found found' other
  · rw [conference]
    refine ⟨fun member => (AList.mem_erase.1 member).1 rfl,
      fun member => (AList.mem_erase.1 member).1 rfl, fun wind member => ?_⟩
    obtain ⟨before, -, rfl⟩ := List.mem_map.1 member
    split_ifs with leaves
    · exact positive.ne
    · exact leaves

end

/-- **An unpublished feed takes its first subscriber with it,** with what goes by the handle of
that peer, and nothing else; where nobody is subscribed to it nothing changes. -/
theorem unpublished_removes (env : Env) (js : List Input) (i : Input) (object : Json)
    (event : i.Tags "event" object) (positive : 0 < unpublishedFeed object)
    (noJsep : offeredSdp object = "") (noPublishers : publisherIds object = []) :
    (∀ p x, findPeer (after env js) ((after env js).listed .video) (·.mSubscribeId)
        (unpublishedFeed object) = some p → (after env js).peers p = some x →
      Removes p x.mVideoRoomHandleID (after env js) (after env (js ++ [i]))) ∧
    (findPeer (after env js) ((after env js).listed .video) (·.mSubscribeId)
        (unpublishedFeed object) = none →
      Undisturbed (after env js) (after env (js ++ [i]))) := by
  have nobody : newFeeds object = [] := by simp [newFeeds, noPublishers]
  have feed : unpublishedFeed object =
      JsonValueToLongLong (JanusVideoRoomManager.dataObj object) "unpublished" := by
    simp [unpublishedFeed, event.2]
  set s := after env js
  have stepped : after env (js ++ [i]) =
      JanusVideoRoomManager.onVideoRoomEventUnpublish (s.keyed object) object :=
    (after_concat env js i).trans (step_unpublishes event noJsep nobody)
  rw [stepped, JanusVideoRoomManager.onVideoRoomEventUnpublish, ← feed]
  dsimp only
  rw [if_pos positive.ne']
  constructor
  · intro p x found alive
    have found' : findPeer (s.keyed object) (s.keyed object).janus.mVideoRoomPeerList
        (·.mSubscribeId) (unpublishedFeed object) = some p := found
    have named : ((s.keyed object).peers p).elim 0 (·.mVideoRoomHandleID) =
        x.mVideoRoomHandleID := by
      rw [show (s.keyed object).peers p = some x from alive]
      rfl
    rw [found']
    dsimp only
    rw [named]
    have quiet := Quiet.OnRemoteStreamRemove i (s.keyed object) x.mVideoRoomHandleID
    refine removes_of_sound (sound_after env js) (occupied_after env js)
      (r := (s.keyed object).emit (.onRemoteStreamRemove x.mVideoRoomHandleID))
      ⟨rfl, rfl, rfl⟩ rfl rfl rfl ?_ ?_ quiet.peers
    · rw [show (s.listed .video).erase p = _ from (eraseP_found found).symm]
      show List.eraseP _ (JanusVideoRoomManager.OnRemoteStreamRemove _ _).janus.mVideoRoomPeerList = _
      rw [quiet.janus, quiet.peers]
      rfl
    · show (JanusVideoRoomManager.OnRemoteStreamRemove _ _).janus.mTextRoomPeerList = _
      rw [quiet.janus]
      rfl
  · intro none
    have none' : findPeer (s.keyed object) (s.keyed object).janus.mVideoRoomPeerList
        (·.mSubscribeId) (unpublishedFeed object) = .none := none
    rw [none']
    exact ⟨fun room => by cases room <;> rfl, rfl, rfl⟩

/-- The subscriber of a feed goes with its stream. -/
theorem unpublished_removes_subscriber :
    let is := [.joinVideoRoom 1234 "cc", Server.success (Env.sample.random 0) 7,
      Server.event { tag := "joined", sender := 7, publishers := [5] },
      Server.success (Env.sample.random 2) 8,
      Server.event { tag := "attached", sender := 8, offer := some "v=0" }]
    let gone := Server.event { tag := "event", sender := 7, unpublished := some 5 }
    (after Env.sample is).conference.mRemoteStreamInfos_VideoAudio.keys = [8, 7] ∧
      Removes 1 8 (after Env.sample is) (after Env.sample (is ++ [gone])) := by
  intro is gone
  let e : Server.VideoEvent := { tag := "event", sender := 7, unpublished := some 5 }
  have alive : ((after Env.sample is).peers 1).map (·.mVideoRoomHandleID) = some 8 := by
    decide +kernel
  obtain ⟨x, alive, handle⟩ := Option.map_eq_some_iff.1 alive
  have removes := (unpublished_removes Env.sample is gone e.object ⟨e.reports, e.tag_object⟩
    (by decide +kernel) (by decide +kernel) (by decide +kernel)).1 1 x (by decide +kernel) alive
  exact ⟨by decide +kernel, handle ▸ removes⟩

end WebrtcDemo
