import WebrtcDemo.Run.Events

/-!
# The stream side of a step

What the manager, its peers and its requests do leaves the streams, their tables and
the windows alone, and what is left of a step is put together from a few pieces: the
windows are set, a description arrives, a stream is connected or removed, an entry of
a table takes up what a stream reports, a data channel opens. `step_staged` takes every
step apart into such pieces, so that an invariant of the stream side is proved piece by
piece. The pieces that can go wrong depend on the state a step starts from, which the
relation therefore knows.
-/

namespace WebrtcDemo

open JanusVideoRoomManager (construct)
open Relation (ReflTransGen)

/-- The stream that an effect destroys, and whether it is one of a data channel. -/
def Effect.destroyed? : Effect → Option (Bool × Ptr)
  | .streamDestroyed isTextRoom stream _ => some (isTextRoom, stream)
  | _ => none

/-- The stream side of a client. -/
structure Media where
  conference : ConferenceManager
  videoHeap : Ptr → Option WebrtcStreamVideoAudio
  videoStreams : Nat
  dataHeap : Ptr → Option WebrtcStreamDataChannels
  dataStreams : Nat
  destroyed : List (Bool × Ptr)

def Client.media (s : Client) : Media where
  conference := s.conference
  videoHeap := s.videoHeap
  videoStreams := s.videoStreams
  dataHeap := s.dataHeap
  dataStreams := s.dataStreams
  destroyed := s.log.filterMap Effect.destroyed?

/-- Nothing waits in an entry, and what comes may be sent. -/
structure RemoteStreamInfo.Ready (info : RemoteStreamInfo) : Prop where
  sdp : info.canSendSDP
  candidate : info.canSendCandidate
  none : info.iceCandidateList = []

/-- The entry after is one for the same stream, and as ready as it was. -/
structure RemoteStreamInfo.Stores (info info' : RemoteStreamInfo) : Prop where
  stream : info'.stream = info.stream
  ready : info.Ready → info'.Ready

/-- The input is an event that brings a description, to a video or to a text room. -/
structure Input.Describes (i : Input) (object : Json) (isTextRoom : Bool) : Prop where
  event : i.Reports object
  offered : offeredSdp object ≠ ""
  tags : if isTextRoom then videoRoomTag object = none
    else videoRoomTag object = some "attached" ∨ videoRoomTag object = some "event"

/-- A piece of a step that the input `i` takes in the state `start`. -/
inductive Staged (i : Input) (start : Client) : Client → Client → Prop where
  | apart {s s'} (same : s'.media = s.media) : Staged i start s s'
  | windows {s} (remote : List WindowId) (cause : i = .setVideoWindows remote)
      (first : s.media = start.media) : Staged i start s (ConferenceManager.SetVideoWindows s remote)
  | described {s object isTextRoom} (type : String) (event : i.Describes object isTextRoom)
      (first : s.media = start.media) :
      Staged i start s (ConferenceManager.onRetmoeSDP s (senderOf object) type (offeredSdp object)
        isTextRoom)
  | joined {s object} (event : i.Tags "joined" object) :
      Staged i start s
        (ConferenceManager.ConnectToPeer_VideoAudio s (senderOf object) false true false)
  | removed {s u} (event : i.Unpublishes u) (nonzero : u ≠ 0) (id : Int) :
      Staged i start s (ConferenceManager.onRemoteStreamRemove s id)
  | left {s} (cause : i = .leaveVideoRoom) : Staged i start s (ConferenceManager.LeaveVideoRoom s)
  | room {s} (room : Int32) (name : String) (cause : i = .joinDataChannelRoom room name) :
      Staged i start s (ConferenceManager.SetTextRoomIDAndDisplayName s room name)
  | storedVideo {s id info info'}
      (found : s.conference.mRemoteStreamInfos_VideoAudio.lookup id = some info)
      (stores : info.Stores info') : Staged i start s
        (s.withVideo (s.conference.mRemoteStreamInfos_VideoAudio.insert id info'))
  | storedData {s id info info'}
      (found : s.conference.mRemoteStreamInfos_DataChannels.lookup id = some info)
      (stores : info.Stores info') : Staged i start s
        (s.withData (s.conference.mRemoteStreamInfos_DataChannels.insert id info'))
  | opened {s} (stream : Ptr) : Staged i start s
      (s.modifyData stream ({ · with OnSendLocalInfoWhenOpenDataChannel := false }))

section
variable {env : Env} {i : Input} {start s s' : Client} {object : Json} {p : Ptr}

/-! ## What leaves the stream side alone -/

theorem media_keep (conference : s'.conference = s.conference) (video : s'.videoHeap = s.videoHeap)
    (videoStreams : s'.videoStreams = s.videoStreams) (data : s'.dataHeap = s.dataHeap)
    (dataStreams : s'.dataStreams = s.dataStreams) {effects : List Effect}
    (log : s'.log = s.log ++ effects) (none : effects.filterMap Effect.destroyed? = []) :
    s'.media = s.media := by
  unfold Client.media
  rw [conference, video, videoStreams, data, dataStreams, log, List.filterMap_append, none,
    List.append_nil]

@[simp] theorem speak_media {sender : Option Ptr} {session : Option Int} {request : Request} :
    (s.speak env sender session request).media = s.media :=
  media_keep rfl rfl rfl rfl rfl Client.speak_log rfl

@[simp] theorem ask_media {sender : Option Ptr} {session : Option Int} {request : Request}
    {kind : ReplyKind} {func : Continuation} :
    (s.ask env sender session request kind func).media = s.media := by
  refine media_keep (by simp) (by simp) ?_ (by simp) ?_ Client.ask_log rfl
  · cases kind <;> rfl
  · cases kind <;> rfl

@[simp] theorem take_media {kind : ReplyKind} {t : String} {func : Continuation} {object : Json} :
    (s.take kind t func object).media = s.media := by
  refine media_keep (by simp) (by simp) ?_ (by simp) ?_ Client.take_log rfl
  · cases kind <;> rfl
  · cases kind <;> rfl

@[simp] theorem attachNew_media {room : RoomKind} {peer : JanusPeerConnection} :
    (s.attachNew env room peer).media = s.media := by
  unfold Client.attachNew
  rw [ask_media]
  cases room <;> rfl

@[simp] theorem setPeer_media {x : JanusPeerConnection} : (s.setPeer p x).media = s.media := rfl

@[simp] theorem leave_media {room : RoomKind} : (s.leave room).media = s.media := by
  obtain ⟨peers, fault, left⟩ := s.leave_shape room
  cases room <;> rw [left] <;> rfl

theorem emit_media {e : Effect} (none : e.destroyed? = none) : (s.emit e).media = s.media := by
  refine media_keep rfl rfl rfl rfl rfl rfl ?_
  simp [none]

theorem requestAttach_media (plugin : Plugin) (setRoom : JanusPeerConnection → JanusPeerConnection)
    (reply : PeerMember) :
    (JanusPeerConnection.requestAttach env s p plugin setRoom reply).media = s.media := by
  rcases alive : s.peers p with _ | x
  · rw [JanusPeerConnection.requestAttach, Client.withPeer_dead alive]
    rfl
  · rw [JanusPeerConnection.requestAttach_live env alive, ask_media, setPeer_media]

theorem sendOnHandle_media (handle : JanusPeerConnection → Int)
    (body : JanusPeerConnection → Body) (jsep : Option Jsep) :
    (JanusPeerConnection.sendOnHandle env s p handle body jsep).media = s.media := by
  rcases alive : s.peers p with _ | x
  · rw [JanusPeerConnection.sendOnHandle, Client.withPeer_dead alive]
    rfl
  · rw [JanusPeerConnection.sendOnHandle_live env alive, speak_media]

theorem sendTo_media {room : RoomKind} {h : Int} {send : Client → Ptr → Client}
    (same : ∀ t p, (send t p).media = t.media) : (s.sendTo room h send).media = s.media := by
  unfold Client.sendTo
  split
  · exact same _ _
  · rfl

theorem SendSDP_media (id : Int) (sdp type : String) :
    (JanusVideoRoomManager.SendSDP env s id sdp type).media = s.media := by
  have text : ∀ t p, (JanusPeerConnection.SendSDPText env t p sdp type).media = t.media :=
    fun t p => sendOnHandle_media _ _ _
  have video : ∀ t p, (JanusPeerConnection.SendSDP env t p sdp type).media = t.media :=
    fun t p => sendOnHandle_media _ _ _
  rw [SendSDP_eq, sendTo_media text, sendTo_media video]

theorem SendCandidate_media (id : Int) (c : iceCandidate) :
    (JanusVideoRoomManager.SendCandidate env s id c).media = s.media := by
  unfold JanusVideoRoomManager.SendCandidate
  split
  · next p _ =>
    rcases alive : s.peers p with _ | x
    · rw [JanusPeerConnection.SendCandidate, Client.withPeer_dead alive]
      rfl
    · obtain ⟨candidate, sent⟩ := JanusPeerConnection.SendCandidate_live env alive c
      rw [sent, speak_media]
  · rfl

theorem sendICEs_media (id : Int) (waiting : List iceCandidate) :
    (ConferenceManager.sendICEs env s id waiting).media = s.media := by
  induction waiting generalizing s with
  | nil => rfl
  | cons c more ih =>
    unfold ConferenceManager.sendICEs
    rw [ih, SendCandidate_media]

theorem roomOutcome_media (recvMsg : Json) (key failureTag successTag : String)
    (requested : JanusPeerConnection → UInt32)
    (failed tested called : JanusPeerConnection → Option RoomCallback) :
    (JanusPeerConnection.roomOutcome s p recvMsg key failureTag successTag requested failed tested
      called).media = s.media := by
  have callback : ∀ (c : Option RoomCallback) (roomId : UInt32),
      (JanusPeerConnection.callRoomCallback s c roomId).media = s.media := by
    intro c roomId
    cases c <;> exact emit_media rfl
  rcases alive : s.peers p with _ | x
  · rw [JanusPeerConnection.roomOutcome, Client.withPeer_dead alive]
    rfl
  · rw [JanusPeerConnection.roomOutcome, Client.withPeer_live alive]
    dsimp only
    split_ifs
    all_goals first | exact callback _ _ | rfl

/-- A continuation that runs leaves the streams alone. -/
theorem callContinuation_media (func : Continuation) (object : Json) :
    (JanusVideoRoomManager.callContinuation env s func object).media = s.media := by
  cases func with
  | onCreateSessionId => rfl
  | onHeartBeat => exact emit_media rfl
  | peer p member =>
    rw [JanusVideoRoomManager.callContinuation]
    rcases alive : s.peers p with _ | x
    · rw [JanusPeerConnection.callMember_dead env alive]
      rfl
    · rcases member.cases_reply with ⟨room, rfl⟩ | ⟨todo, isAdmin⟩ | reads
      · rw [JanusPeerConnection.callMember_joined env room alive, speak_media, setPeer_media]
      · rw [JanusPeerConnection.callMember_admin env isAdmin alive, ask_media, setPeer_media]
      · cases member <;>
          first | exact absurd reads (by decide) | exact roomOutcome_media _ _ _ _ _ _ _ _

/-! ## Every step is put together from pieces -/

theorem RemoteStreamInfo.stores_sdp (info : RemoteStreamInfo) (sdp type : String) :
    info.Stores { info with sdp := sdp, sdpType := type } :=
  ⟨rfl, fun ready => ⟨ready.sdp, ready.candidate, ready.none⟩⟩

theorem localVideo_staged (id : Int) (sdp type : String) :
    ReflTransGen (Staged i start) s (ConferenceManager.localVideo env s id sdp type) := by
  unfold ConferenceManager.localVideo
  split
  · exact .refl
  · next info found =>
    have stored : ReflTransGen (Staged i start) s _ :=
      .single (.storedVideo found (info.stores_sdp sdp type))
    dsimp only
    split_ifs
    · exact stored.tail (.apart (SendSDP_media _ _ _))
    · exact stored

theorem localData_staged (id : Int) (sdp type : String) :
    ReflTransGen (Staged i start) s (ConferenceManager.localData env s id sdp type) := by
  unfold ConferenceManager.localData
  split
  · exact .refl
  · next info found =>
    have stored : ReflTransGen (Staged i start) s _ :=
      .single (.storedData found (info.stores_sdp sdp type))
    dsimp only
    split_ifs
    · exact stored.tail (.apart (SendSDP_media _ _ _))
    · exact stored

/-- A candidate taken into a ready entry does not stay there. -/
theorem RemoteStreamInfo.stores_candidate (info : RemoteStreamInfo) (waiting : List iceCandidate) :
    info.Stores { info with iceCandidateList := if info.canSendCandidate then [] else waiting } :=
  ⟨rfl, fun ready => ⟨ready.sdp, ready.candidate, if_pos ready.candidate⟩⟩

theorem candidateVideo_staged (id : Int) (c : iceCandidate) :
    ReflTransGen (Staged i start) s (ConferenceManager.candidateVideo env s id c) := by
  unfold ConferenceManager.candidateVideo
  split
  · exact .refl
  · next info found =>
    have stored : ReflTransGen (Staged i start) s _ :=
      .single (.storedVideo found (info.stores_candidate (info.iceCandidateList ++ [c])))
    dsimp only
    split_ifs at stored ⊢
    · exact stored.tail (.apart (sendICEs_media _ _))
    · exact stored

theorem candidateData_staged (id : Int) (c : iceCandidate) :
    ReflTransGen (Staged i start) s (ConferenceManager.candidateData env s id c) := by
  unfold ConferenceManager.candidateData
  split
  · exact .refl
  · next info found =>
    have stored : ReflTransGen (Staged i start) s _ :=
      .single (.storedData found (info.stores_candidate (info.iceCandidateList ++ [c])))
    dsimp only
    split_ifs at stored ⊢
    · exact stored.tail (.apart (sendICEs_media _ _))
    · exact stored

theorem onLocalIceCandidate_staged (id : Int) (c : iceCandidate) :
    ReflTransGen (Staged i start) s (ConferenceManager.onLocalIceCandidate env s id c) := by
  rw [ConferenceManager.onLocalIceCandidate_eq]
  exact (candidateVideo_staged id c).trans (candidateData_staged id c)

/-! ### Events -/

theorem attachFeeds_media (ids : List Int) :
    (ids.foldl (JanusVideoRoomManager.subscribe env) s).media = s.media := by
  induction ids generalizing s with
  | nil => rfl
  | cons id more ih =>
    rw [List.foldl_cons, ih, JanusVideoRoomManager.subscribe_eq]
    split_ifs
    · exact attachNew_media
    · rfl

variable (env) in
theorem onVideoRoomEventPublisher_media (object : Json) :
    (JanusVideoRoomManager.onVideoRoomEventPublisher env s object).media = s.media := by
  unfold JanusVideoRoomManager.onVideoRoomEventPublisher
  rw [attachFeeds_media]
  rfl

theorem onVideoRoomEventSdp_staged (event : i.Reports object) (isTextRoom : Bool)
    (tags : if isTextRoom then videoRoomTag object = none
      else videoRoomTag object = some "attached" ∨ videoRoomTag object = some "event")
    (first : s.media = start.media) :
    ReflTransGen (Staged i start) s
      (JanusVideoRoomManager.onVideoRoomEventSdp s object isTextRoom) := by
  unfold JanusVideoRoomManager.onVideoRoomEventSdp
  dsimp only
  split_ifs with offered
  · have told := emit_media (s := s) (e := .onRemoteSdp (senderOf object)
      ((object.member "jsep").text "type") (offeredSdp object) isTextRoom) rfl
    refine .tail (.single (.apart told)) ?_
    exact .described _ ⟨event, offered, tags⟩ (told.trans first)
  · exact .refl

theorem onVideoRoomEventJoin_staged (event : i.Tags "joined" object) :
    ReflTransGen (Staged i start) s (JanusVideoRoomManager.onVideoRoomEventJoin env s object) := by
  have published : ReflTransGen (Staged i start) s _ :=
    .single (.apart (onVideoRoomEventPublisher_media env object))
  rw [JanusVideoRoomManager.onVideoRoomEventJoin]
  split
  · exact (published.tail (.apart (emit_media rfl))).tail (.joined event)
  · exact published

theorem onVideoRoomEventUnpublish_staged (event : i.Reports object) :
    ReflTransGen (Staged i start) s
      (JanusVideoRoomManager.onVideoRoomEventUnpublish s object) := by
  unfold JanusVideoRoomManager.onVideoRoomEventUnpublish
  dsimp only
  split_ifs with nonzero
  · split
    · next p _ =>
      have told : ReflTransGen (Staged i start) s _ := .single (.apart (emit_media
        (e := .onRemoteStreamRemove ((s.peers p).elim 0 (·.mVideoRoomHandleID))) rfl))
      exact (told.tail (.removed ⟨object, event, rfl⟩ nonzero
        ((s.peers p).elim 0 (·.mVideoRoomHandleID)))).tail (.apart rfl)
    · exact .refl
  · exact .refl

theorem onVideoRoomEventEvent_staged (event : i.Tags "event" object)
    (first : s.media = start.media) :
    ReflTransGen (Staged i start) s
      (JanusVideoRoomManager.onVideoRoomEventEvent env s object) := by
  have described : ReflTransGen (Staged i start) s _ :=
    onVideoRoomEventSdp_staged event.1 false (Or.inr event.2) first
  have published := described.tail (.apart (onVideoRoomEventPublisher_media env object))
  exact published.trans (onVideoRoomEventUnpublish_staged event.1)

theorem event_staged (event : i.Reports object) :
    ReflTransGen (Staged i s) s (step env s i) := by
  rcases step_event_cases env s event with
    ⟨tag, same⟩ | ⟨tag, same⟩ | ⟨tag, same⟩ | ⟨tag, same⟩ | same
  · rw [same]
    exact onVideoRoomEventJoin_staged ⟨event, tag⟩
  · rw [same]
    exact onVideoRoomEventSdp_staged event false (Or.inl tag) rfl
  · rw [same]
    exact onVideoRoomEventEvent_staged ⟨event, tag⟩ rfl
  · rw [same]
    exact onVideoRoomEventSdp_staged event true tag rfl
  · rw [same]

/-! ### The other inputs -/

theorem administers_media {room : RoomKind} {roomId : Int32} {member : PeerMember}
    (request : i.adminRequest? = some (room, roomId, member)) : (step env s i).media = s.media := by
  rw [step_administers request]
  cases s.admin room
  · refine (requestAttach_media _ _ _).trans ?_
    cases room <;> rfl
  · exact requestAttach_media _ _ _

theorem SendDataViaDataChannel_media (stream : Ptr) (m : DataMessage) :
    (WebrtcStreamDataChannels.SendDataViaDataChannel s stream m).media = s.media := by
  unfold WebrtcStreamDataChannels.SendDataViaDataChannel
  split
  · split_ifs
    · exact emit_media rfl
    · rfl
  · rfl

theorem OnStateChange_staged (stream : Ptr) :
    ReflTransGen (Staged i start) s (WebrtcStreamDataChannels.OnStateChange env s stream) := by
  unfold WebrtcStreamDataChannels.OnStateChange
  split
  · exact .single (.apart rfl)
  · dsimp only
    split_ifs
    · have sent : (WebrtcStreamDataChannels.SendDataViaDataChannel s.drawn.drawn stream
          (ConferenceManager.onSendLocalInfoWhenOpenDataChannel env s)).media = s.media :=
        SendDataViaDataChannel_media _ _
      exact .tail (.single (.apart sent)) (.opened stream)
    · exact .refl

theorem SendMessage_media (message : String) :
    (WebRTCInterface.SendMessage env s message).media = s.media := by
  unfold WebRTCInterface.SendMessage
  dsimp only
  split
  · exact SendDataViaDataChannel_media _ _
  · rfl

variable (env s) in
/-- A message that is no event runs a continuation or is ignored. -/
theorem received_cases (message : Option Json) :
    (∃ kind t func object, Answer (.receivedMessage message) s kind t func object ∧
      step env s (.receivedMessage message) =
        JanusVideoRoomManager.callContinuation env (s.take kind t func object) func object) ∨
      ((∀ kind t func object, ¬ Answer (.receivedMessage message) s kind t func object) ∧
        step env s (.receivedMessage message) = s) ∨
      ∃ object, (Input.receivedMessage message).Reports object := by
  cases message with
  | none =>
    refine Or.inr (Or.inl ⟨fun kind t func object answer => ?_, rfl⟩)
    simpa using answer.named.1
  | some object =>
    -- what would have run instead, by the tag of the reply
    have ran : ∀ {kind t func object'}, Answer (.receivedMessage (some object)) s kind t func object' →
        object.text "janus" = kind.tag ∧ s.pending (kind, object.text "transaction") = some func := by
      intro kind t func object' answer
      obtain ⟨⟨same, tag, rfl⟩, waiting⟩ := answer
      obtain rfl : object = object' := by simpa using same
      exact ⟨tag, waiting⟩
    rw [step, JanusVideoRoomManager.onWebSocketReceivedMessage]
    split_ifs with success ack event
    · unfold JanusVideoRoomManager.onMessageSuccess
      split
      · next func waiting =>
        exact Or.inl ⟨.success, _, func, object, ⟨⟨rfl, success, rfl⟩, waiting⟩, rfl⟩
      · next missing =>
        refine Or.inr (Or.inl ⟨fun kind t func object answer => ?_, rfl⟩)
        obtain ⟨tag, waiting⟩ := ran answer
        cases kind with
        | success => exact absurd (missing.symm.trans waiting) (by simp)
        | ack => exact absurd (success.symm.trans tag) (by decide)
    · unfold JanusVideoRoomManager.onMessageAck
      split
      · next func waiting =>
        exact Or.inl ⟨.ack, _, func, object, ⟨⟨rfl, ack, rfl⟩, waiting⟩, rfl⟩
      · next missing =>
        refine Or.inr (Or.inl ⟨fun kind t func object answer => ?_, rfl⟩)
        obtain ⟨tag, waiting⟩ := ran answer
        cases kind with
        | success => exact success tag
        | ack => exact absurd (missing.symm.trans waiting) (by simp)
    · exact Or.inr (Or.inr ⟨object, rfl, event⟩)
    · refine Or.inr (Or.inl ⟨fun kind t func object answer => ?_, rfl⟩)
      obtain ⟨tag, -⟩ := ran answer
      cases kind with
      | success => exact success tag
      | ack => exact ack tag

theorem received_media (message : Option Json)
    (silent : ∀ object, ¬ (Input.receivedMessage message).Reports object) :
    (step env s (.receivedMessage message)).media = s.media := by
  rcases received_cases env s message with
    ⟨kind, t, func, object, -, ran⟩ | ⟨-, ignored⟩ | ⟨object, event⟩
  · rw [ran, callContinuation_media, take_media]
  · rw [ignored]
  · exact absurd event (silent object)

/-- **Every step is put together from pieces.** -/
theorem step_staged (env : Env) (s : Client) (i : Input) :
    ReflTransGen (Staged i s) s (step env s i) := by
  cases i with
  | receivedMessage message =>
    by_cases event : ∃ object, (Input.receivedMessage message).Reports object
    · obtain ⟨object, event⟩ := event
      exact event_staged event
    · exact .single (.apart (received_media message (not_exists.1 event)))
  | socketConnected =>
    have asked : (s.ask env none none .create .success .onCreateSessionId).media = s.media :=
      ask_media
    exact .single (.apart asked)
  | heartBeatMessage =>
    have asked : (s.ask env none (some (castDouble s.janus.mSessionId)) .keepalive .ack
      .onHeartBeat).media = s.media := ask_media
    exact .single (.apart asked)
  | setVideoWindows remote => exact .single (.windows remote rfl rfl)
  | joinVideoRoom roomId name =>
    rw [step, JanusVideoRoomManager.JoinVideoRoom_eq]
    exact .single (.apart attachNew_media)
  | leaveVideoRoom =>
    have left : ∀ t : Client, (t.leave .video).media = t.media := fun _ => leave_media
    exact .tail (.single (.left rfl)) (.apart (left _))
  | joinDataChannelRoom roomId name =>
    rw [step, WebRTCInterface.JoinDataChannelRoom, JanusVideoRoomManager.JoinTextRoom_eq]
    exact .tail (.single (.room roomId name rfl)) (.apart attachNew_media)
  | leaveTextRoom =>
    have left : (s.leave .text).media = s.media := leave_media
    exact .single (.apart left)
  | createVideoRoom => exact .single (.apart (administers_media rfl))
  | createTextRoom => exact .single (.apart (administers_media rfl))
  | destoryVideoRoom => exact .single (.apart (administers_media rfl))
  | destoryTextRoom => exact .single (.apart (administers_media rfl))
  | sendMessage message => exact .single (.apart (SendMessage_media message))
  | localSDP id sdp type =>
    rw [step, ConferenceManager.onLocalSDP_eq]
    exact (localVideo_staged id sdp type).trans (localData_staged id sdp type)
  | localIceCandidate id c => exact onLocalIceCandidate_staged id c
  | iceGatheringComplete id => exact onLocalIceCandidate_staged id _
  | dataChannelOpen stream => exact OnStateChange_staged stream

end

end WebrtcDemo
