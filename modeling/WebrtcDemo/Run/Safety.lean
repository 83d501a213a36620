import WebrtcDemo.Run.Lifetime
import WebrtcDemo.Run.Peers
import WebrtcDemo.Run.Session

/-!
# Memory safety

The pointers that the client keeps never dangle: every peer it lists or appoints lives, and
so does every stream of its tables and the local data-channel stream. What is left to go
wrong is named by `Careful`: a reply for a peer that was deleted while it waited, a message
of the user before there is a data channel, and a channel that reports to a stream that is
gone. A run is free of faults if and only if none of the three happens.
-/

namespace WebrtcDemo

open JanusVideoRoomManager (construct)

/-- Nothing went wrong, unless a call on a deleted peer did. -/
def Client.Mishap (s s' : Client) : Prop :=
  s'.fault = s.fault ∨ ∃ p, s'.fault = some (.deadPeer p)

section
variable {env : Env} {i : Input} {s s' s'' : Client} {p : Ptr}

namespace Client.Mishap

theorem refl (s : Client) : s.Mishap s := Or.inl rfl

theorem same (fault : s'.fault = s.fault) : s.Mishap s' := Or.inl fault

theorem trans (first : s.Mishap s') (second : s'.Mishap s'') : s.Mishap s'' := by
  rcases second with same | dead
  · rcases first with same' | ⟨p, dead⟩
    · exact Or.inl (same.trans same')
    · exact Or.inr ⟨p, same.trans dead⟩
  · exact Or.inr dead

/-- The same, read from the end. -/
theorem after (second : s'.Mishap s'') (fault : s'.fault = s.fault) : s.Mishap s'' :=
  (same fault).trans second

theorem withPeer {body : JanusPeerConnection → Client}
    (calls : ∀ x, s.peers p = some x → s.Mishap (body x)) : s.Mishap (s.withPeer p body) := by
  rcases alive : s.peers p with _ | x
  · rw [Client.withPeer_dead alive]
    exact Or.inr ⟨p, rfl⟩
  · rw [Client.withPeer_live alive]
    exact calls x alive

theorem requestAttach (plugin : Plugin) (setRoom : JanusPeerConnection → JanusPeerConnection)
    (reply : PeerMember) :
    s.Mishap (JanusPeerConnection.requestAttach env s p plugin setRoom reply) :=
  withPeer fun _ _ => same rfl

theorem sendOnHandle (handle : JanusPeerConnection → Int) (body : JanusPeerConnection → Body)
    (jsep : Option Jsep) : s.Mishap (JanusPeerConnection.sendOnHandle env s p handle body jsep) :=
  withPeer fun _ _ => same rfl

/-! ### Replies -/

theorem roomOutcome (recvMsg : Json) (key failureTag successTag : String)
    (requested : JanusPeerConnection → UInt32)
    (failed tested called : JanusPeerConnection → Option RoomCallback) :
    s.Mishap (JanusPeerConnection.roomOutcome s p recvMsg key failureTag successTag requested failed
      tested called) := by
  have callback : ∀ (c : Option RoomCallback) (roomId : UInt32),
      s.Mishap (JanusPeerConnection.callRoomCallback s c roomId) := by
    intro c roomId
    cases c <;> exact same rfl
  refine withPeer fun x alive => ?_
  dsimp only
  split_ifs
  all_goals first | exact callback _ _ | exact refl s

theorem callContinuation (func : Continuation) (object : Json) :
    s.Mishap (JanusVideoRoomManager.callContinuation env s func object) := by
  cases func with
  | onCreateSessionId => exact same rfl
  | onHeartBeat => exact same rfl
  | peer p member =>
    rw [JanusVideoRoomManager.callContinuation]
    rcases alive : s.peers p with _ | x
    · rw [JanusPeerConnection.callMember_dead env alive]
      exact Or.inr ⟨p, rfl⟩
    · rcases member.cases_reply with ⟨room, rfl⟩ | ⟨todo, isAdmin⟩ | reads
      · rw [JanusPeerConnection.callMember_joined env room alive]
        exact same (by simp)
      · rw [JanusPeerConnection.callMember_admin env isAdmin alive]
        exact same (by simp)
      · cases member <;>
          first | exact absurd reads (by decide) | exact roomOutcome _ _ _ _ _ _ _ _

/-! ### Descriptions and candidates -/

theorem sendTo {room : RoomKind} {id : Int} {send : Client → Ptr → Client}
    (sends : ∀ p, s.Mishap (send s p)) : s.Mishap (s.sendTo room id send) := by
  rw [Client.sendTo]
  split
  · exact sends _
  · exact refl s

theorem SendSDP (id : Int) (sdp type : String) :
    s.Mishap (JanusVideoRoomManager.SendSDP env s id sdp type) := by
  rw [SendSDP_eq]
  have video : s.Mishap (s.sendTo .video id (JanusPeerConnection.SendSDP env · · sdp type)) :=
    sendTo fun _ => sendOnHandle _ _ _
  exact video.trans (sendTo fun _ => sendOnHandle _ _ _)

theorem SendCandidate (id : Int) (c : iceCandidate) :
    s.Mishap (JanusVideoRoomManager.SendCandidate env s id c) := by
  rw [SendCandidate_eq]
  exact sendTo fun _ => withPeer fun _ _ => same rfl

theorem sendICEs (id : Int) (waiting : List iceCandidate) :
    s.Mishap (ConferenceManager.sendICEs env s id waiting) := by
  induction waiting generalizing s with
  | nil => exact refl s
  | cons c more ih => exact (SendCandidate id c).trans ih

theorem onLocalSDP (id : Int) (sdp type : String) :
    s.Mishap (ConferenceManager.onLocalSDP env s id sdp type) := by
  have video : ∀ s : Client, s.Mishap (ConferenceManager.localVideo env s id sdp type) := by
    intro s
    unfold ConferenceManager.localVideo
    split
    · exact refl s
    · dsimp only
      split_ifs
      · exact (SendSDP _ _ _).after rfl
      · exact same rfl
  have data : ∀ s : Client, s.Mishap (ConferenceManager.localData env s id sdp type) := by
    intro s
    unfold ConferenceManager.localData
    split
    · exact refl s
    · dsimp only
      split_ifs
      · exact (SendSDP _ _ _).after rfl
      · exact same rfl
  rw [ConferenceManager.onLocalSDP_eq]
  exact (video s).trans (data _)

theorem onLocalIceCandidate (id : Int) (c : iceCandidate) :
    s.Mishap (ConferenceManager.onLocalIceCandidate env s id c) := by
  have video : ∀ s : Client, s.Mishap (ConferenceManager.candidateVideo env s id c) := by
    intro s
    unfold ConferenceManager.candidateVideo
    split
    · exact refl s
    · dsimp only
      split_ifs
      · exact (sendICEs _ _).after rfl
      · exact same rfl
  have data : ∀ s : Client, s.Mishap (ConferenceManager.candidateData env s id c) := by
    intro s
    unfold ConferenceManager.candidateData
    split
    · exact refl s
    · dsimp only
      split_ifs
      · exact (sendICEs _ _).after rfl
      · exact same rfl
  rw [ConferenceManager.onLocalIceCandidate_eq]
  exact (video s).trans (data _)

end Client.Mishap

/-! ## The streams -/

@[simp] theorem releaseVideo_fault : (s.releaseVideo p).fault = s.fault := by
  unfold Client.releaseVideo
  split_ifs <;> rfl

@[simp] theorem releaseData_fault : (s.releaseData p).fault = s.fault := by
  unfold Client.releaseData
  split_ifs <;> rfl

theorem addStreamInfo_VideoAudio_fault :
    (ConferenceManager.addStreamInfo_VideoAudio s p).fault = s.fault := by
  unfold ConferenceManager.addStreamInfo_VideoAudio
  dsimp only
  split
  · exact releaseVideo_fault
  · rfl

theorem addStreamInfo_DataChannels_fault :
    (ConferenceManager.addStreamInfo_DataChannels s p).fault = s.fault := by
  unfold ConferenceManager.addStreamInfo_DataChannels
  dsimp only
  split
  · exact releaseData_fault
  · rfl

theorem showStream_fault (id : Int) : (ConferenceManager.showStream s p id).fault = s.fault := by
  unfold ConferenceManager.showStream
  split <;> rfl

theorem ConnectToPeer_VideoAudio_fault (id : Int) (show_ isConnect isLocal : Bool) :
    (ConferenceManager.ConnectToPeer_VideoAudio s id show_ isConnect isLocal).fault = s.fault := by
  unfold ConferenceManager.ConnectToPeer_VideoAudio
  have added : ∀ t : Client, t.fault = s.fault →
      (ConferenceManager.addStreamInfo_VideoAudio t s.videoStreams).fault = s.fault :=
    fun t same => addStreamInfo_VideoAudio_fault.trans same
  dsimp only
  by_cases shown : show_ <;> by_cases connects : isConnect <;>
    simp only [shown, connects, if_true, if_false, Bool.false_eq_true, Client.emit, showStream_fault]
  all_goals exact added _ rfl

theorem ConnectToPeer_DataChannels_fault (id : Int) :
    (ConferenceManager.ConnectToPeer_DataChannels s id).fault = s.fault := by
  rw [ConnectToPeer_DataChannels_eq, addStreamInfo_DataChannels_fault]
  show (s.replacedLocal id).fault = s.fault
  unfold Client.replacedLocal
  cases s.conference.LocalStream_DataChannels with
  | none => rfl
  | some stream => exact releaseData_fault

theorem onRetmoeSDP_fault (id : Int) (type sdp : String) (isTextRoom : Bool) :
    (ConferenceManager.onRetmoeSDP s id type sdp isTextRoom).fault = s.fault := by
  cases isTextRoom with
  | false =>
    have told : ∀ t : Client, (ConferenceManager.tellVideo t id type sdp).fault = t.fault := by
      intro t
      unfold ConferenceManager.tellVideo
      split <;> rfl
    rw [ConferenceManager.onRetmoeSDP_video, told]
    split_ifs
    · exact ConnectToPeer_VideoAudio_fault id _ _ _
    · rfl
  | true =>
    have told : ∀ t : Client, (ConferenceManager.tellData t id type sdp).fault = t.fault := by
      intro t
      unfold ConferenceManager.tellData
      split <;> rfl
    rw [ConferenceManager.onRetmoeSDP_text, told]
    split_ifs
    · exact ConnectToPeer_DataChannels_fault id
    · rfl

theorem onRemoteStreamRemove_fault (id : Int) :
    (ConferenceManager.onRemoteStreamRemove s id).fault = s.fault := by
  have video : (ConferenceManager.removeVideo s id).fault = s.fault := by
    unfold ConferenceManager.removeVideo
    split
    · rfl
    · exact releaseVideo_fault
  have data : ∀ t : Client, (ConferenceManager.removeData t id).fault = t.fault := by
    intro t
    unfold ConferenceManager.removeData
    split
    · rfl
    · exact releaseData_fault
  rw [ConferenceManager.onRemoteStreamRemove_eq, data]
  exact video

theorem deleteStreams_fault (entries : List (Sigma fun _ : Int => RemoteStreamInfo)) :
    (ConferenceManager.deleteStreams s entries).fault = s.fault := by
  induction entries generalizing s with
  | nil => rfl
  | cons entry more ih => exact ih

/-! ## Every step -/

namespace Client.Mishap

theorem leave (s : Client) (room : RoomKind) : s.Mishap (s.leave room) := by
  have deleted : ∀ (list : List Ptr) (t : Client),
      t.Mishap (JanusVideoRoomManager.deletePeers t list) := by
    intro list
    induction list with
    | nil => exact refl
    | cons p more ih =>
      intro t
      rw [JanusVideoRoomManager.deletePeers]
      split
      · exact (ih _).after rfl
      · exact Or.inr ⟨p, rfl⟩
  cases room with
  | video => exact (deleted _ s).trans (same rfl)
  | text => exact (deleted _ s).trans (same rfl)

theorem published (s : Client) (object : Json) :
    s.Mishap (JanusVideoRoomManager.onVideoRoomEventPublisher env s object) := by
  have loop : ∀ (ids : List Int) (t : Client),
      (ids.foldl (JanusVideoRoomManager.subscribe env) t).fault = t.fault := by
    intro ids
    induction ids with
    | nil => exact fun _ => rfl
    | cons id more ih =>
      intro t
      rw [List.foldl_cons, ih, JanusVideoRoomManager.subscribe_eq]
      split_ifs
      · exact Client.attachNew_fault
      · rfl
  exact same (loop _ _)

theorem told (s : Client) (object : Json) (isTextRoom : Bool) :
    s.Mishap (JanusVideoRoomManager.onVideoRoomEventSdp s object isTextRoom) := by
  rw [JanusVideoRoomManager.onVideoRoomEventSdp]
  split_ifs
  · exact same (onRetmoeSDP_fault _ _ _ _)
  · exact refl s

theorem unpublished (s : Client) (object : Json) :
    s.Mishap (JanusVideoRoomManager.onVideoRoomEventUnpublish s object) := by
  rw [JanusVideoRoomManager.onVideoRoomEventUnpublish]
  split_ifs
  · split
    · exact same (onRemoteStreamRemove_fault _)
    · exact refl s
  · exact refl s

theorem event {object : Json} (event : i.Reports object) : s.Mishap (step env s i) := by
  rcases step_event_cases env s event with
    ⟨-, joined⟩ | ⟨-, attached⟩ | ⟨-, listed⟩ | ⟨-, text⟩ | ignored
  · rw [joined, JanusVideoRoomManager.onVideoRoomEventJoin]
    split
    · exact (published s object).trans (same (ConnectToPeer_VideoAudio_fault _ _ _ _))
    · exact published s object
  · rw [attached]
    exact told s object false
  · rw [listed]
    exact ((told s object false).trans (published _ object)).trans (unpublished _ object)
  · rw [text]
    exact told s object true
  · rw [ignored]
    exact refl s

theorem administer {room : RoomKind} {roomId : Int32} {member : PeerMember}
    (request : i.adminRequest? = some (room, roomId, member)) : s.Mishap (step env s i) := by
  rw [step_administers request]
  rcases s.admin room with _ | p
  · exact (requestAttach _ _ _).after (by simp)
  · exact requestAttach _ _ _

variable (env) in
/-- Only two inputs can go wrong otherwise than by a deleted peer. -/
theorem step (s : Client) (silent : ∀ text, i ≠ .sendMessage text)
    (shut : ∀ stream, i ≠ .dataChannelOpen stream) : s.Mishap (WebrtcDemo.step env s i) := by
  cases i with
  | socketConnected => exact same rfl
  | heartBeatMessage => exact same rfl
  | receivedMessage message =>
    rcases received_cases env s message with
      ⟨kind, t, func, object, -, ran⟩ | ⟨-, ignored⟩ | ⟨object, reported⟩
    · rw [ran]
      exact (callContinuation func object).after Client.take_fault
    · rw [ignored]
      exact refl s
    · exact event reported
  | setVideoWindows => exact same rfl
  | joinVideoRoom room name =>
    rw [WebrtcDemo.step, JanusVideoRoomManager.JoinVideoRoom_eq]
    exact same Client.attachNew_fault
  | leaveVideoRoom => exact (leave _ .video).after (deleteStreams_fault _)
  | joinDataChannelRoom room name =>
    rw [WebrtcDemo.step, WebRTCInterface.JoinDataChannelRoom, JanusVideoRoomManager.JoinTextRoom_eq]
    exact same Client.attachNew_fault
  | leaveTextRoom => exact leave s .text
  | createVideoRoom => exact administer rfl
  | createTextRoom => exact administer rfl
  | destoryVideoRoom => exact administer rfl
  | destoryTextRoom => exact administer rfl
  | sendMessage text => exact absurd rfl (silent text)
  | localSDP id sdp type => exact onLocalSDP id sdp type
  | localIceCandidate id c => exact onLocalIceCandidate id c
  | iceGatheringComplete id => exact onLocalIceCandidate id _
  | dataChannelOpen stream => exact absurd rfl (shut stream)

end Client.Mishap

/-! ## Deleted peers -/

theorem Transition.fault (owned : Owned s) (taken : Transition env i s s')
    (dead : s'.fault = some (.deadPeer p)) : s.fault = some (.deadPeer p) := by
  cases taken with
  | quiet same => exact same.fault p dead
  | drawn => exact dead
  | settings => exact dead
  | manage => simpa using dead
  | attach => simpa using dead
  | appoint => simpa using dead
  | administer => simpa using dead
  | lost room holds gone => exact absurd (owned.live _ (Client.admin_holders holds)) (by simp [gone])
  | unlist => exact dead
  | leave room => rwa [owned.leave_fault] at dead
  | speak => exact dead

/-- A deleted peer is called by a reply it waited for only. -/
theorem Reply.fault (answered : Reply env i s s') (dead : s'.fault = some (.deadPeer p)) :
    s.fault = some (.deadPeer p) ∨ ∃ kind t member object,
      Answer i s kind t (.peer p member) object ∧ s.peers p = none := by
  cases answered with
  | session => exact Or.inl ((Client.take_fault).symm.trans dead)
  | heartBeat => exact Or.inl ((Client.take_fault).symm.trans dead)
  | @dead _ _ q member object answer gone =>
    obtain rfl : q = p := by simpa using dead
    exact Or.inr ⟨_, _, member, object, answer, gone⟩
  | joined => exact Or.inl (by simpa using dead)
  | admin => exact Or.inl (by simpa using dead)
  | outcome _ _ _ same => exact Or.inl (by simpa using same.fault p dead)

/-- A data-channel stream that was made lives until it is destroyed. -/
def Client.Standing (s : Client) : Prop :=
  ∀ p < s.dataStreams, p ∉ s.media.gone true → s.dataHeap p ≠ none

namespace Client.Standing

theorem same (standing : s.Standing) (same : s'.media.data = s.media.data) : s'.Standing := by
  intro p older unbroken
  have made : s'.dataStreams = s.dataStreams := congrArg Registry.made same
  have gone : s'.media.gone true = s.media.gone true := congrArg Registry.destroyed same
  have handle : (s'.dataHeap p).map (·.mHandleID) = (s.dataHeap p).map (·.mHandleID) :=
    congrFun (congrArg Registry.handle same) p
  have before := standing p (made ▸ older) (gone ▸ unbroken)
  intro dead
  rw [dead, Option.map_none, eq_comm, Option.map_eq_none_iff] at handle
  exact before handle

/-- A stream is written. -/
theorem modify (standing : s.Standing) (p : Ptr)
    (f : WebrtcStreamDataChannels → WebrtcStreamDataChannels) : (s.modifyData p f).Standing := by
  intro q older unbroken
  have before := standing q older unbroken
  rcases eq_or_ne q p with rfl | other
  · simpa [Client.modifyData] using before
  · simpa [Client.modifyData, Function.update_of_ne other] using before

/-- A reference is given up. -/
theorem release (standing : s.Standing) (p : Ptr) : (s.releaseData p).Standing := by
  intro q older unbroken
  rw [releaseData_dataStreams] at older
  rw [releaseData_gone] at unbroken
  split_ifs at unbroken with held
  · rw [releaseData_held held]
    exact standing q older unbroken
  · rw [List.mem_append, List.mem_singleton, not_or] at unbroken
    rw [releaseData_dataHeap unbroken.2]
    exact standing q older unbroken.1

/-- The table is written. -/
theorem table (standing : s.Standing) (table : StreamTable) : (s.withData table).Standing :=
  standing

theorem newLocal (standing : s.Standing) (id : Int) : (s.newLocal id).Standing := by
  intro q older unbroken
  have older : q < s.dataStreams + 1 := older
  rcases eq_or_ne q s.dataStreams with rfl | other
  · simp [Client.newLocal]
  · have before := standing q (by omega) unbroken
    simpa [Client.newLocal, Function.update_of_ne other] using before

theorem connect (standing : s.Standing) (id : Int) :
    (ConferenceManager.ConnectToPeer_DataChannels s id).Standing := by
  have replaced : (s.replacedLocal id).Standing := by
    unfold Client.replacedLocal
    cases s.conference.LocalStream_DataChannels with
    | none => exact standing.newLocal id
    | some stream => exact (standing.newLocal id).release stream
  have appointed : (s.appointed id).Standing := replaced.modify _ _
  rw [ConnectToPeer_DataChannels_eq]
  unfold ConferenceManager.addStreamInfo_DataChannels
  dsimp only
  split
  · exact (appointed.table _).release _
  · exact appointed.table _

theorem described (standing : s.Standing) (id : Int) (type sdp : String) (isTextRoom : Bool) :
    (ConferenceManager.onRetmoeSDP s id type sdp isTextRoom).Standing := by
  cases isTextRoom with
  | false =>
    rw [ConferenceManager.onRetmoeSDP_video]
    have told : ∀ t : Client, t.Standing →
        (ConferenceManager.tellVideo t id type sdp).Standing := by
      intro t before
      unfold ConferenceManager.tellVideo
      split
      · exact before.same (congrArg Media.data (emit_media rfl))
      · exact before
    apply told
    split_ifs
    · exact standing.same (ConnectToPeer_VideoAudio_connected s id true false false).data
    · exact standing
  | true =>
    rw [ConferenceManager.onRetmoeSDP_text]
    have told : ∀ t : Client, t.Standing →
        (ConferenceManager.tellData t id type sdp).Standing := by
      intro t before
      unfold ConferenceManager.tellData
      split
      · exact (before.modify _ _).same (congrArg Media.data (emit_media rfl))
      · exact before
    apply told
    split_ifs
    · exact standing.connect id
    · exact standing

theorem removed (standing : s.Standing) (id : Int) :
    (ConferenceManager.onRemoteStreamRemove s id).Standing := by
  have video : (ConferenceManager.removeVideo s id).Standing := by
    unfold ConferenceManager.removeVideo
    split
    · exact standing
    · exact standing.same (releaseVideo_data _ _)
  have data : ∀ t : Client, t.Standing → (ConferenceManager.removeData t id).Standing := by
    intro t before
    unfold ConferenceManager.removeData
    split
    · exact before
    · exact ((before.modify _ _).table _).release _
  rw [ConferenceManager.onRemoteStreamRemove_eq]
  exact data _ video

theorem left (standing : s.Standing) : (ConferenceManager.LeaveVideoRoom s).Standing := by
  have deleted := (deleteStreams_media
    (s.withWinds (s.conference.mRemoteWinds.map fun wind => (wind.1, 0)))
    s.conference.mRemoteStreamInfos_VideoAudio.entries).2.2.2
  exact standing.same deleted

theorem piece {start : Client} (standing : s.Standing) (piece : Staged i start s s') :
    s'.Standing := by
  cases piece with
  | apart same => exact standing.same (congrArg Media.data same)
  | windows => exact standing
  | described => exact standing.described _ _ _ _
  | joined =>
    exact standing.same (ConnectToPeer_VideoAudio_connected s _ false true false).data
  | removed => exact standing.removed _
  | left => exact standing.left
  | room => exact standing
  | storedVideo => exact standing
  | storedData => exact standing.table _
  | opened => exact standing.modify _ _

theorem step (standing : s.Standing) (env : Env) (i : Input) :
    (WebrtcDemo.step env s i).Standing :=
  Machine.transitions_keep (fun _ _ piece standing => standing.piece piece) (step_staged env s i)
    standing

end Client.Standing

/-! ## No pointer dangles -/

/-- What is known of every reachable state. -/
structure Kempt (s : Client) : Prop where
  owned : Owned s
  sound : Sound s
  standing : s.Standing

theorem Kempt.step (kempt : Kempt s) (env : Env) (i : Input) : Kempt (WebrtcDemo.step env s i) :=
  ⟨kempt.owned.step i, kempt.sound.step env i, kempt.standing.step env i⟩

/-- The local stream is referred to, so it has not been destroyed. -/
theorem Kempt.localStream (kempt : Kempt s) {stream : Ptr}
    (held : s.conference.LocalStream_DataChannels = some stream) : s.dataHeap stream ≠ none := by
  have refs : stream ∈ s.media.data.books.refs := by
    show stream ∈ _ ++ s.conference.LocalStream_DataChannels.toList
    simp [held]
  have balanced := kempt.sound.data.balanced
  have settled := balanced.settled stream
  rw [if_neg (by simp [refs]), List.count_eq_zero] at settled
  exact kempt.standing stream (balanced.below stream refs) settled

end

end WebrtcDemo
