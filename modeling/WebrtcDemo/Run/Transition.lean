import WebrtcDemo.Run.Quiet

/-!
# The transitions of the client

Every step of the client is one answered continuation (`Reply`), or a finite
sequence of `Transition`s: send a request and wait, construct and list a peer,
unlist or delete peers, send a local description or candidate from a listed peer,
or something quiet. `step_decomposes` proves it once for all inputs; an invariant
of the client is then proved transition by transition.
-/

namespace WebrtcDemo

open JanusVideoRoomManager (construct newPeer registerRoomCallbacks)
open Relation (ReflTransGen)

/-- The room a peer was made for, as an attach request sets it. -/
def RoomKind.setRoom : RoomKind → UInt32 → JanusPeerConnection → JanusPeerConnection
  | video, id, peer => { peer with mVideoRoomId := id }
  | text, id, peer => { peer with mTextRoomId := id }

section
variable {room : RoomKind} {roomId : UInt32} {id : Int} {peer : JanusPeerConnection}

@[simp] theorem RoomKind.setRoom_session : (room.setRoom roomId peer).mSessionID = peer.mSessionID := by
  cases room <;> rfl
@[simp] theorem RoomKind.setRoom_feed :
    (room.setRoom roomId peer).mSubscribeId = peer.mSubscribeId := by
  cases room <;> rfl
@[simp] theorem RoomKind.setRoom_key : (room.setRoom roomId peer).mPrivateId = peer.mPrivateId := by
  cases room <;> rfl
@[simp] theorem RoomKind.setRoom_handle (room' : RoomKind) :
    room'.handle (room.setRoom roomId peer) = room'.handle peer := by
  cases room <;> cases room' <;> rfl
@[simp] theorem RoomKind.setHandle_session : (room.setHandle id peer).mSessionID = peer.mSessionID := by
  cases room <;> rfl
@[simp] theorem RoomKind.setHandle_feed :
    (room.setHandle id peer).mSubscribeId = peer.mSubscribeId := by
  cases room <;> rfl
@[simp] theorem RoomKind.setHandle_key : (room.setHandle id peer).mPrivateId = peer.mPrivateId := by
  cases room <;> rfl
@[simp] theorem RoomKind.setHandle_room :
    (room.setHandle id peer).mVideoRoomId = peer.mVideoRoomId := by
  cases room <;> rfl
theorem RoomKind.setHandle_handle (room' : RoomKind) :
    room'.handle (room.setHandle id peer) = if room' = room then id else room'.handle peer := by
  cases room <;> cases room' <;> rfl

end

/-- The administrative request an input makes: the rooms it is for, the room, and
the continuation its attach request registers. -/
def Input.adminRequest? : Input → Option (RoomKind × Int32 × PeerMember)
  | .createVideoRoom roomId => some (.video, roomId, .onAttachVideoRoomCreate)
  | .createTextRoom roomId => some (.text, roomId, .onAttachVideoRoomCreate)
  | .destoryVideoRoom roomId => some (.video, roomId, .onAttachVideoRoomDestory)
  | .destoryTextRoom roomId => some (.text, roomId, .onAttachTextRoomDestory)
  | _ => none

/-- The rooms an input leaves. -/
def Input.leaves? : Input → Option RoomKind
  | .leaveVideoRoom => some .video
  | .leaveTextRoom => some .text
  | _ => none

/-- The manager's part of leaving: every listed peer is deleted. -/
def Client.leave (s : Client) : RoomKind → Client
  | .video => JanusVideoRoomManager.LeaveVideoRoom s
  | .text => JanusVideoRoomManager.LeaveTextRoom s

section Leave
variable {s : Client} {room : RoomKind}

/-- Deleting peers touches the heap, and where a peer is already gone the fault. -/
theorem deletePeers_shape (s : Client) (list : List Ptr) :
    ∃ peers fault, JanusVideoRoomManager.deletePeers s list =
      { s with peers := peers, fault := fault } := by
  induction list generalizing s with
  | nil => exact ⟨_, _, rfl⟩
  | cons p more ih =>
    rw [JanusVideoRoomManager.deletePeers]
    split
    · obtain ⟨peers, fault, rest⟩ := ih { s with peers := Function.update s.peers p none }
      exact ⟨peers, fault, rest⟩
    · exact ⟨_, _, rfl⟩

theorem Client.leave_shape (s : Client) (room : RoomKind) :
    ∃ peers fault, s.leave room =
      match room with
      | .video =>
        { s with
          peers := peers
          fault := fault
          janus := { s.janus with mVideoRoomPeerList := [] } }
      | .text =>
        { s with
          peers := peers
          fault := fault
          janus := { s.janus with mTextRoomPeerList := [] } } := by
  obtain ⟨peers, fault, deleted⟩ := deletePeers_shape s (s.listed room)
  refine ⟨peers, fault, ?_⟩
  cases room
  · exact congrArg (fun t : Client => { t with janus := { t.janus with mVideoRoomPeerList := [] } })
      deleted
  · exact congrArg (fun t : Client => { t with janus := { t.janus with mTextRoomPeerList := [] } })
      deleted

@[simp] theorem Client.leave_conference : (s.leave room).conference = s.conference := by
  obtain ⟨peers, fault, left⟩ := s.leave_shape room
  cases room <;> rw [left]

@[simp] theorem Client.leave_videoHeap : (s.leave room).videoHeap = s.videoHeap := by
  obtain ⟨peers, fault, left⟩ := s.leave_shape room
  cases room <;> rw [left]

@[simp] theorem Client.leave_dataHeap : (s.leave room).dataHeap = s.dataHeap := by
  obtain ⟨peers, fault, left⟩ := s.leave_shape room
  cases room <;> rw [left]

@[simp] theorem Client.leave_constructed : (s.leave room).constructed = s.constructed := by
  obtain ⟨peers, fault, left⟩ := s.leave_shape room
  cases room <;> rw [left]

@[simp] theorem Client.leave_draws : (s.leave room).draws = s.draws := by
  obtain ⟨peers, fault, left⟩ := s.leave_shape room
  cases room <;> rw [left]

@[simp] theorem Client.leave_log : (s.leave room).log = s.log := by
  obtain ⟨peers, fault, left⟩ := s.leave_shape room
  cases room <;> rw [left]

@[simp] theorem Client.leave_pending : (s.leave room).pending = s.pending := by
  obtain ⟨peers, fault, left⟩ := s.leave_shape room
  funext ⟨kind, t⟩
  cases room <;> cases kind <;> rw [left] <;> rfl

@[simp] theorem Client.leave_admin (room' : RoomKind) :
    (s.leave room).admin room' = s.admin room' := by
  obtain ⟨peers, fault, left⟩ := s.leave_shape room
  cases room <;> cases room' <;> rw [left] <;> rfl

theorem Client.leave_listed (room' : RoomKind) :
    (s.leave room).listed room' = if room' = room then [] else s.listed room' := by
  obtain ⟨peers, fault, left⟩ := s.leave_shape room
  cases room <;> cases room' <;> rw [left] <;> rfl

end Leave

/-- The requests that the manager makes of its own, and on which event. -/
inductive ManagerRequest : Input → Request → ReplyKind → Continuation → Prop where
  | create : ManagerRequest .socketConnected .create .success .onCreateSessionId
  | keepalive : ManagerRequest .heartBeatMessage .keepalive .ack .onHeartBeat

/-- The requests that carry a local description or a local candidate of a peer. -/
inductive LocalRequest : RoomKind → JanusPeerConnection → Request → Prop where
  | sdp (peer : JanusPeerConnection) (jsep : Jsep) :
      LocalRequest .video peer (.message (castDouble peer.mVideoRoomHandleID)
        (JanusPeerConnection.sdpBody peer) (some jsep))
  | sdpText (peer : JanusPeerConnection) (jsep : Jsep) :
      LocalRequest .text peer (.message (castDouble peer.mTextRoomHandleID) .ack (some jsep))
  | candidate (peer : JanusPeerConnection) (candidate : Candidate) :
      LocalRequest .video peer (.trickle (castDouble peer.mVideoRoomHandleID) candidate)

/-- A piece of a step that answers no continuation. -/
inductive Transition (env : Env) (i : Input) : Client → Client → Prop where
  | quiet {s s'} (same : Quiet i s s') : Transition env i s s'
  | drawn {s} : Transition env i s s.drawn
  | settings {s} (videoRoomID : Int32) (privatedId : Int) :
      Transition env i s { s with
        janus := { s.janus with mVideoRoomID := videoRoomID, mPrivatedId := privatedId } }
  | manage {s request kind func} (own : ManagerRequest i request kind func)
      (session : Option Int) : Transition env i s (s.ask env none session request kind func)
  | attach {s} (room : RoomKind) (peer : JanusPeerConnection)
      (video : peer.mVideoRoomHandleID = (env.junk s.constructed).mVideoRoomHandleID)
      (text : peer.mTextRoomHandleID = (env.junk s.constructed).mTextRoomHandleID)
      (feed : peer.mSubscribeId = 0 ∨
        room = .video ∧ 0 < peer.mSubscribeId ∧ i.Announces peer.mSubscribeId) :
      Transition env i s (s.attachNew env room peer)
  | appoint {s} (room : RoomKind) (peer : JanusPeerConnection) (vacant : s.admin room = none)
      (unsubscribed : peer.mSubscribeId = 0)
      (video : peer.mVideoRoomHandleID = (env.junk s.constructed).mVideoRoomHandleID)
      (text : peer.mTextRoomHandleID = (env.junk s.constructed).mTextRoomHandleID) :
      Transition env i s ((construct s peer).appoint room s.constructed)
  | administer {s p x room roomId member} (request : i.adminRequest? = some (room, roomId, member))
      (holds : s.admin room = some p) (alive : s.peers p = some x) :
      Transition env i s ((s.setPeer p (room.setRoom roomId.toUInt32 x)).ask env (some p)
        (some (castDouble x.mSessionID)) (.attach room.plugin) .success (.peer p member))
  | lost {s p} (room : RoomKind) (holds : s.admin room = some p) (gone : s.peers p = none) :
      Transition env i s { s with fault := some (.deadPeer p) }
  | unlist {s list id} (cause : i.Unpublishes id) (nonzero : id ≠ 0)
      (fewer : list.Sublist s.janus.mVideoRoomPeerList) :
      Transition env i s { s with janus := { s.janus with mVideoRoomPeerList := list } }
  | leave {s} (room : RoomKind) (leaves : i.leaves? = some room) : Transition env i s (s.leave room)
  | speak {s p x request} (room : RoomKind) (listed : p ∈ s.listed room) (alive : s.peers p = some x)
      (address : s.Addressed (room.handle x)) (own : LocalRequest room x request) :
      Transition env i s (s.speak env (some p) (some (castDouble x.mSessionID)) request)

/-- The reply `object` of the input meets a waiting continuation. -/
structure Answer (i : Input) (s : Client) (kind : ReplyKind) (t : String) (func : Continuation)
    (object : Json) : Prop where
  named : i.Answers kind t object
  waiting : s.pending (kind, t) = some func

/-- A step that answers a continuation: its entry is taken out and it runs. -/
inductive Reply (env : Env) (i : Input) : Client → Client → Prop where
  | session {s kind t object} (answer : Answer i s kind t .onCreateSessionId object) :
      Reply env i s (JanusVideoRoomManager.onCreateSessionId
        (s.take kind t .onCreateSessionId object) object)
  | heartBeat {s kind t object} (answer : Answer i s kind t .onHeartBeat object) :
      Reply env i s (JanusVideoRoomManager.onHeartBeat (s.take kind t .onHeartBeat object))
  | dead {s kind t p member object} (answer : Answer i s kind t (.peer p member) object)
      (gone : s.peers p = none) :
      Reply env i s { s.take kind t (.peer p member) object with fault := some (.deadPeer p) }
  | joined {s kind t p object x} (room : RoomKind)
      (answer : Answer i s kind t (.peer p room.joined) object) (alive : s.peers p = some x) :
      Reply env i s
        (((s.take kind t (.peer p room.joined) object).setPeer p
          (room.setHandle (JanusPeerConnection.replyId object) x)).speak env (some p)
          (some (castDouble x.mSessionID))
          (.message (castDouble (JanusPeerConnection.replyId object))
            (room.opening (room.setHandle (JanusPeerConnection.replyId object) x)) none))
  | admin {s kind t p member object x} (todo : AdminStep) (isAdmin : adminStep member = some todo)
      (answer : Answer i s kind t (.peer p member) object) (alive : s.peers p = some x) :
      Reply env i s
        (((s.take kind t (.peer p member) object).setPeer p
          (todo.room.setHandle (JanusPeerConnection.replyId object) x)).ask env (some p)
          (some (castDouble x.mSessionID))
          (.message (castDouble (JanusPeerConnection.replyId object))
            (todo.body (todo.room.setHandle (JanusPeerConnection.replyId object) x)) none)
          .success (.peer p todo.outcome))
  | outcome {s s' kind t p member object x} (reads : member.isOutcome)
      (answer : Answer i s kind t (.peer p member) object) (alive : s.peers p = some x)
      (same : Quiet i (s.take kind t (.peer p member) object) s') : Reply env i s s'

/-- A reply neither makes a peer nor lists or unlists one. -/
theorem Reply.same_peers {env : Env} {i : Input} {s s' : Client} (answered : Reply env i s s') :
    s'.constructed = s.constructed ∧ ∀ room, s'.listed room = s.listed room := by
  cases answered with
  | @session kind => cases kind <;> exact ⟨rfl, fun room => by cases room <;> rfl⟩
  | @heartBeat kind => cases kind <;> exact ⟨rfl, fun room => by cases room <;> rfl⟩
  | @dead kind => cases kind <;> exact ⟨rfl, fun room => by cases room <;> rfl⟩
  | outcome _ _ _ same =>
    exact ⟨same.constructed.trans Client.take_constructed, fun room =>
      (same.listed room).trans (Client.take_listed room)⟩
  | _ => exact ⟨by simp, by simp⟩

/-- Every member function is the continuation of a join, an administrative step or
the reader of an outcome. -/
theorem PeerMember.cases_reply (member : PeerMember) :
    (∃ room : RoomKind, member = room.joined) ∨ (∃ todo, adminStep member = some todo) ∨
      member.isOutcome := by
  cases member
  case onAttachVideoRoomJoin => exact Or.inl ⟨.video, rfl⟩
  case onAttachTextRoomJoin => exact Or.inl ⟨.text, rfl⟩
  all_goals first | exact Or.inr (Or.inr rfl) | exact Or.inr (Or.inl ⟨_, rfl⟩)

section
variable {env : Env} {i : Input} {s : Client}

/-- A continuation that runs after its entry was taken is a `Reply`. -/
theorem Answer.reply {kind : ReplyKind} {t : String} {func : Continuation} {object : Json}
    (answer : Answer i s kind t func object) :
    Reply env i s
      (JanusVideoRoomManager.callContinuation env (s.take kind t func object) func object) := by
  cases func with
  | onCreateSessionId => exact .session answer
  | onHeartBeat => exact .heartBeat answer
  | peer p member =>
    rw [JanusVideoRoomManager.callContinuation]
    rcases state : s.peers p with _ | x
    · rw [JanusPeerConnection.callMember_dead env (by simpa using state)]
      exact .dead answer state
    · have alive : (s.take kind t (.peer p member) object).peers p = some x := by simpa using state
      rcases member.cases_reply with ⟨room, rfl⟩ | ⟨todo, isAdmin⟩ | reads
      · rw [JanusPeerConnection.callMember_joined env room alive]
        exact .joined room answer state
      · rw [JanusPeerConnection.callMember_admin env isAdmin alive]
        exact .admin todo isAdmin answer state
      · exact .outcome reads answer state (Quiet.callMember_outcome env i alive object reads)

/-! ## Every step decomposes -/

theorem findPeer_some {list : List Ptr} {handle : JanusPeerConnection → Int} {id : Int} {p : Ptr}
    (found : JanusVideoRoomManager.findPeer s list handle id = some p) :
    p ∈ list ∧ ∃ x, s.peers p = some x ∧ handle x = id := by
  refine ⟨List.mem_of_find?_eq_some found, ?_⟩
  have holds := List.find?_some found
  rcases state : s.peers p with _ | x
  · simp [state] at holds
  · exact ⟨x, rfl, by simpa [state] using holds⟩

/-- A search reads a list and its peers. -/
theorem findPeer_congr {room : RoomKind} {handle : JanusPeerConnection → Int} {id : Int}
    (listed : s'.listed room = s.listed room) (peers : s'.peers = s.peers) :
    JanusVideoRoomManager.findPeer s' (s'.listed room) handle id =
      JanusVideoRoomManager.findPeer s (s.listed room) handle id := by
  rw [JanusVideoRoomManager.findPeer, JanusVideoRoomManager.findPeer, listed, peers]

/-- One lookup of a description: the peer found speaks, and the stream is as it was. -/
theorem sendTo_chain {room : RoomKind} {id : Int} (address : s.Addressed id)
    {send : Client → Ptr → Client}
    (sends : ∀ p x, s.peers p = some x → ∃ request, LocalRequest room x request ∧
      send s p = s.speak env (some p) (some (castDouble x.mSessionID)) request) :
    ReflTransGen (Transition env i) s (s.sendTo room id send) ∧
      (s.sendTo room id send).Addressed id := by
  unfold Client.sendTo
  split
  · next p found =>
    obtain ⟨listed, x, alive, rfl⟩ := findPeer_some found
    obtain ⟨request, own, sent⟩ := sends p x alive
    rw [sent]
    exact ⟨.single (.speak room listed alive address own), address⟩
  · exact ⟨.refl, address⟩

theorem SendSDP_chain {id : Int} (address : s.Addressed id) (sdp type : String) :
    ReflTransGen (Transition env i) s (JanusVideoRoomManager.SendSDP env s id sdp type) := by
  rw [SendSDP_eq]
  let sendVideo : Client → Ptr → Client := (JanusPeerConnection.SendSDP env · · sdp type)
  obtain ⟨video, still⟩ : ReflTransGen (Transition env i) s (s.sendTo .video id sendVideo) ∧ _ :=
    sendTo_chain address fun p x alive =>
      ⟨_, .sdp x _, JanusPeerConnection.sendOnHandle_live env alive _ _ _⟩
  refine video.trans (sendTo_chain still fun p x alive => ?_).1
  exact ⟨_, .sdpText x _, JanusPeerConnection.sendOnHandle_live env alive _ _ _⟩

/-- A candidate sent changes neither tables nor streams. -/
theorem SendCandidate_chain {id : Int} (address : s.Addressed id) (c : iceCandidate) :
    ReflTransGen (Transition env i) s (JanusVideoRoomManager.SendCandidate env s id c) ∧
      (JanusVideoRoomManager.SendCandidate env s id c).Addressed id := by
  rw [JanusVideoRoomManager.SendCandidate]
  split
  · next p found =>
    obtain ⟨listed, x, alive, rfl⟩ := findPeer_some found
    obtain ⟨candidate, sent⟩ := JanusPeerConnection.SendCandidate_live env alive c
    rw [sent]
    exact ⟨.single (.speak .video listed alive address (.candidate x _)), address⟩
  · exact ⟨.refl, address⟩

theorem sendICEs_chain {id : Int} (address : s.Addressed id) (waiting : List iceCandidate) :
    ReflTransGen (Transition env i) s (ConferenceManager.sendICEs env s id waiting) := by
  induction waiting generalizing s with
  | nil => exact .refl
  | cons c more ih =>
    obtain ⟨sent, still⟩ : ReflTransGen (Transition env i) s _ ∧ _ := SendCandidate_chain address c
    exact sent.trans (ih still)

theorem localVideo_chain (id : Int) (sdp type : String) :
    ReflTransGen (Transition env i) s (ConferenceManager.localVideo env s id sdp type) := by
  unfold ConferenceManager.localVideo
  split
  · exact .refl
  · next info found =>
    have known : id ∈ s.streams := AList.lookup_isSome.1 (by simp [found])
    have stored : ReflTransGen (Transition env i) s _ :=
      .single (.quiet (Quiet.insertVideo { info with sdp := sdp, sdpType := type } (Or.inl known)))
    dsimp only
    split_ifs
    · exact stored.trans (SendSDP_chain (Or.inl (AList.mem_insert _ |>.2 (Or.inl rfl))) _ _)
    · exact stored

theorem localData_chain (id : Int) (sdp type : String) :
    ReflTransGen (Transition env i) s (ConferenceManager.localData env s id sdp type) := by
  unfold ConferenceManager.localData
  split
  · exact .refl
  · next info found =>
    have known : s.Addressed id := Or.inr (Or.inl (AList.lookup_isSome.1 (by simp [found])))
    have stored : ReflTransGen (Transition env i) s _ :=
      .single (.quiet (Quiet.insertData { info with sdp := sdp, sdpType := type } (Or.inl known)))
    dsimp only
    split_ifs
    · exact stored.trans (SendSDP_chain (Or.inr (Or.inl (AList.mem_insert _ |>.2 (Or.inl rfl)))) _ _)
    · exact stored

theorem onLocalSDP_chain (id : Int) (sdp type : String) :
    ReflTransGen (Transition env i) s (ConferenceManager.onLocalSDP env s id sdp type) := by
  rw [ConferenceManager.onLocalSDP_eq]
  exact (localVideo_chain id sdp type).trans (localData_chain id sdp type)

theorem candidateVideo_chain (id : Int) (c : iceCandidate) :
    ReflTransGen (Transition env i) s (ConferenceManager.candidateVideo env s id c) := by
  unfold ConferenceManager.candidateVideo
  split
  · exact .refl
  · next info found =>
    have known : id ∈ s.streams := AList.lookup_isSome.1 (by simp [found])
    have stored : ∀ info, ReflTransGen (Transition env i) s _ := fun info =>
      .single (.quiet (Quiet.insertVideo info (Or.inl known)))
    dsimp only
    split_ifs
    · exact (stored _).trans (sendICEs_chain (Quiet.videoHandle_addressed _) _)
    · exact stored _

theorem candidateData_chain (id : Int) (c : iceCandidate) :
    ReflTransGen (Transition env i) s (ConferenceManager.candidateData env s id c) := by
  unfold ConferenceManager.candidateData
  split
  · exact .refl
  · next info found =>
    have known : s.Addressed id := Or.inr (Or.inl (AList.lookup_isSome.1 (by simp [found])))
    have stored : ∀ info, ReflTransGen (Transition env i) s _ := fun info =>
      .single (.quiet (Quiet.insertData info (Or.inl known)))
    dsimp only
    split_ifs
    · exact (stored _).trans (sendICEs_chain (Quiet.dataHandle_addressed _) _)
    · exact stored _

theorem onLocalIceCandidate_chain (id : Int) (c : iceCandidate) :
    ReflTransGen (Transition env i) s (ConferenceManager.onLocalIceCandidate env s id c) := by
  rw [ConferenceManager.onLocalIceCandidate_eq]
  exact (candidateVideo_chain id c).trans (candidateData_chain id c)

/-! ### Events -/

/-- The loop over the publishers: one new peer for each positive id. -/
theorem subscribe_chain {ids : List Int} (announced : ∀ id ∈ ids, i.Announces id) :
    ReflTransGen (Transition env i) s (ids.foldl (JanusVideoRoomManager.subscribe env) s) := by
  induction ids generalizing s with
  | nil => exact .refl
  | cons id more ih =>
    rw [List.foldl_cons, JanusVideoRoomManager.subscribe_eq]
    have rest := fun t => ih (s := t) fun id member => announced id (List.mem_cons_of_mem _ member)
    split_ifs with positive
    · exact .head (.attach .video (JanusVideoRoomManager.subscriber env s id) rfl rfl
        (Or.inr ⟨rfl, positive, announced id List.mem_cons_self⟩)) (rest _)
    · exact rest s

theorem onVideoRoomEventPublisher_chain {object : Json} (event : i.Reports object) :
    ReflTransGen (Transition env i) s
      (JanusVideoRoomManager.onVideoRoomEventPublisher env s object) :=
  .head (.settings s.janus.mVideoRoomID _)
    (subscribe_chain fun _ member => ⟨object, event, member⟩)

theorem onVideoRoomEventJoin_chain {object : Json} (event : i.Reports object) :
    ReflTransGen (Transition env i) s (JanusVideoRoomManager.onVideoRoomEventJoin env s object) := by
  rw [JanusVideoRoomManager.onVideoRoomEventJoin]
  have published : ReflTransGen (Transition env i) s _ := onVideoRoomEventPublisher_chain event
  split
  · exact published.tail (.quiet (Quiet.OnConnectToPeer ⟨object, event, rfl⟩ _ _ _))
  · exact published

theorem onVideoRoomEventSdp_quiet {object : Json} (event : i.Reports object) (isTextRoom : Bool) :
    Quiet i s (JanusVideoRoomManager.onVideoRoomEventSdp s object isTextRoom) := by
  rw [JanusVideoRoomManager.onVideoRoomEventSdp]
  split_ifs
  · exact Quiet.OnRemoteSdp ⟨object, event, rfl⟩ _ _ _
  · exact Quiet.refl i s

theorem onVideoRoomEventUnpublish_chain {object : Json} (event : i.Reports object) :
    ReflTransGen (Transition env i) s
      (JanusVideoRoomManager.onVideoRoomEventUnpublish s object) := by
  rw [JanusVideoRoomManager.onVideoRoomEventUnpublish]
  split_ifs with nonzero
  · split
    · next p _ =>
      exact (ReflTransGen.single (.quiet (Quiet.OnRemoteStreamRemove i s _))).tail
        (.unlist ⟨object, event, rfl⟩ nonzero (List.eraseP_sublist))
    · exact .refl
  · exact .refl

theorem onVideoRoomEventEvent_chain {object : Json} (event : i.Reports object) :
    ReflTransGen (Transition env i) s (JanusVideoRoomManager.onVideoRoomEventEvent env s object) :=
  ((ReflTransGen.single (.quiet (onVideoRoomEventSdp_quiet event false))).trans
    (onVideoRoomEventPublisher_chain event)).trans (onVideoRoomEventUnpublish_chain event)

theorem onVideoRoomEvent_chain {object : Json} (event : i.Reports object) (tag : String) :
    ReflTransGen (Transition env i) s (JanusVideoRoomManager.onVideoRoomEvent env s tag object) := by
  rw [JanusVideoRoomManager.onVideoRoomEvent]
  split_ifs
  · exact onVideoRoomEventJoin_chain event
  · exact .single (.quiet (onVideoRoomEventSdp_quiet event false))
  · exact onVideoRoomEventEvent_chain event
  · exact .refl

/-! ### Requests of the user -/

/-- A request of the administrative peer. -/
theorem requestAttach_admin {room : RoomKind} {roomId : Int32} {member : PeerMember}
    (request : i.adminRequest? = some (room, roomId, member)) {p : Ptr}
    (holds : s.admin room = some p) :
    Transition env i s (JanusPeerConnection.requestAttach env s p room.plugin
      (room.setRoom roomId.toUInt32) member) := by
  rcases alive : s.peers p with _ | x
  · rw [JanusPeerConnection.requestAttach, Client.withPeer_dead alive]
    exact .lost room holds alive
  · rw [JanusPeerConnection.requestAttach_live env alive]
    exact .administer request holds alive

theorem withCreateVideoRoomPeer_eq (request : Client → Ptr → Client) :
    JanusVideoRoomManager.withCreateVideoRoomPeer env s request =
      (s.admin .video).elim
        (request ((construct s (registerRoomCallbacks (newPeer env s))).appoint .video s.constructed)
          s.constructed) (request s) := by
  rw [JanusVideoRoomManager.withCreateVideoRoomPeer, Client.admin]
  split <;> next holds => rw [holds]; rfl

theorem withCreateTextRoomPeer_eq (request : Client → Ptr → Client) :
    JanusVideoRoomManager.withCreateTextRoomPeer env s request =
      (s.admin .text).elim
        (request ((construct s (registerRoomCallbacks (newPeer env s))).appoint .text s.constructed)
          s.constructed) (request s) := by
  rw [JanusVideoRoomManager.withCreateTextRoomPeer, Client.admin]
  split <;> next holds => rw [holds]; rfl

/-- A request is made of the administrative peer, or of a new one. -/
theorem step_administers {room : RoomKind} {roomId : Int32} {member : PeerMember}
    (request : i.adminRequest? = some (room, roomId, member)) :
    step env s i = (s.admin room).elim
      (JanusPeerConnection.requestAttach env
        ((construct s (registerRoomCallbacks (newPeer env s))).appoint room s.constructed)
        s.constructed room.plugin (room.setRoom roomId.toUInt32) member)
      (JanusPeerConnection.requestAttach env s · room.plugin (room.setRoom roomId.toUInt32) member) := by
  cases i <;> simp only [Input.adminRequest?, reduceCtorEq, Option.some.injEq, Prod.mk.injEq] at request <;>
    obtain ⟨rfl, rfl, rfl⟩ := request
  · rw [step, JanusVideoRoomManager.CreateVideoRoom, withCreateVideoRoomPeer_eq]
    rfl
  · rw [step, JanusVideoRoomManager.CreateTextRoom, withCreateTextRoomPeer_eq]
    rfl
  · rw [step, JanusVideoRoomManager.DestoryVideoRoom, withCreateVideoRoomPeer_eq]
    rfl
  · rw [step, JanusVideoRoomManager.DestoryTextRoom, withCreateTextRoomPeer_eq]
    rfl

/-- It is made first if there is none. -/
theorem administers_chain {room : RoomKind} {roomId : Int32} {member : PeerMember}
    (request : i.adminRequest? = some (room, roomId, member)) :
    ReflTransGen (Transition env i) s (step env s i) := by
  rw [step_administers request]
  rcases holds : s.admin room with _ | p
  · refine .tail (.single (.appoint room _ holds rfl rfl rfl)) (requestAttach_admin request ?_)
    rw [Client.appoint_admin, if_pos rfl]
  · exact .single (requestAttach_admin request holds)

end

/-- A message from the socket runs a waiting continuation, or is an event. -/
theorem onWebSocketReceivedMessage_cases (env : Env) (s : Client) (message : Option Json) :
    (∃ kind t func object, Answer (.receivedMessage message) s kind t func object ∧
      JanusVideoRoomManager.onWebSocketReceivedMessage env s message =
        JanusVideoRoomManager.callContinuation env (s.take kind t func object) func object) ∨
      ReflTransGen (Transition env (.receivedMessage message)) s
        (JanusVideoRoomManager.onWebSocketReceivedMessage env s message) := by
  cases message with
  | none => exact Or.inr .refl
  | some object =>
    rw [JanusVideoRoomManager.onWebSocketReceivedMessage]
    split_ifs with success ack event
    · rw [JanusVideoRoomManager.onMessageSuccess]
      split
      · next func waiting =>
        exact Or.inl ⟨.success, _, func, object, ⟨⟨rfl, success, rfl⟩, waiting⟩, rfl⟩
      · exact Or.inr .refl
    · rw [JanusVideoRoomManager.onMessageAck]
      split
      · next func waiting =>
        exact Or.inl ⟨.ack, _, func, object, ⟨⟨rfl, ack, rfl⟩, waiting⟩, rfl⟩
      · exact Or.inr .refl
    · have reports : (Input.receivedMessage (some object)).Reports object := ⟨rfl, event⟩
      right
      split
      · exact onVideoRoomEvent_chain reports _
      · split
        · exact .single (.quiet (onVideoRoomEventSdp_quiet reports true))
        · exact .refl
    · exact Or.inr .refl

/-! ### Data channels -/

/-- The join message of a channel draws two random strings. -/
theorem OnStateChange_quiet (i : Input) (stream : Ptr) :
    Quiet i s (WebrtcStreamDataChannels.OnStateChange env s stream) ∨
      Quiet i s.drawn.drawn (WebrtcStreamDataChannels.OnStateChange env s stream) := by
  rw [WebrtcStreamDataChannels.OnStateChange]
  split
  · exact Or.inl (Quiet.fail i s _ (by simp))
  · split_ifs
    · exact Or.inr ((Quiet.SendDataViaDataChannel i _ _ _).trans (Quiet.modifyData fun _ => Or.inl rfl))
    · exact Or.inl (Quiet.refl i s)

theorem OnStateChange_chain (stream : Ptr) :
    ReflTransGen (Transition env i) s (WebrtcStreamDataChannels.OnStateChange env s stream) := by
  rcases OnStateChange_quiet i stream with same | same
  · exact .single (.quiet same)
  · exact ((ReflTransGen.single .drawn).tail .drawn).tail (.quiet same)

/-- A text message draws one. -/
theorem SendMessage_quiet (i : Input) (message : String) :
    Quiet i s.drawn (WebRTCInterface.SendMessage env s message) := by
  rw [WebRTCInterface.SendMessage]
  split
  · exact Quiet.SendDataViaDataChannel i _ _ _
  · exact Quiet.fail i _ _ (by simp)

theorem SendMessage_chain (message : String) :
    ReflTransGen (Transition env i) s (WebRTCInterface.SendMessage env s message) :=
  .tail (.single .drawn) (.quiet (SendMessage_quiet i message))

/-- Every step runs a waiting continuation, or is a sequence of transitions. -/
theorem step_cases (env : Env) (s : Client) (i : Input) :
    (∃ kind t func object, Answer i s kind t func object ∧
      step env s i =
        JanusVideoRoomManager.callContinuation env (s.take kind t func object) func object) ∨
      ReflTransGen (Transition env i) s (step env s i) := by
  cases i with
  | receivedMessage message => exact onWebSocketReceivedMessage_cases env s message
  | socketConnected => exact Or.inr (.single (.manage .create none))
  | heartBeatMessage => exact Or.inr (.single (.manage .keepalive _))
  | setVideoWindows => exact Or.inr (.single (.quiet (Quiet.conference_same rfl rfl)))
  | joinVideoRoom roomId name =>
    right
    rw [step, JanusVideoRoomManager.JoinVideoRoom_eq]
    exact .tail (.single (.settings roomId s.janus.mPrivatedId))
      (.attach .video _ rfl rfl (Or.inl rfl))
  | leaveVideoRoom =>
    exact Or.inr (.tail (.single (.quiet (Quiet.LeaveVideoRoom _ s))) (.leave .video rfl))
  | joinDataChannelRoom roomId name =>
    right
    rw [step, WebRTCInterface.JoinDataChannelRoom, JanusVideoRoomManager.JoinTextRoom_eq]
    exact .tail (.single (.quiet (Quiet.SetTextRoomIDAndDisplayName _ s roomId name)))
      (.attach .text _ rfl rfl (Or.inl rfl))
  | leaveTextRoom => exact Or.inr (.single (.leave .text rfl))
  | createVideoRoom => exact Or.inr (administers_chain rfl)
  | createTextRoom => exact Or.inr (administers_chain rfl)
  | destoryVideoRoom => exact Or.inr (administers_chain rfl)
  | destoryTextRoom => exact Or.inr (administers_chain rfl)
  | sendMessage message => exact Or.inr (SendMessage_chain message)
  | localSDP id sdp type => exact Or.inr (onLocalSDP_chain id sdp type)
  | localIceCandidate id c => exact Or.inr (onLocalIceCandidate_chain id c)
  | iceGatheringComplete id => exact Or.inr (onLocalIceCandidate_chain id _)
  | dataChannelOpen stream => exact Or.inr (OnStateChange_chain stream)

/-- Leaving is quiet but for the peers it deletes. -/
theorem step_leaves {env : Env} {s : Client} {i : Input} {room : RoomKind}
    (leaves : i.leaves? = some room) :
    ∃ t, Quiet i s t ∧ step env s i = t.leave room := by
  cases i <;> simp only [Input.leaves?, reduceCtorEq, Option.some.injEq] at leaves <;> subst leaves
  · exact ⟨_, Quiet.LeaveVideoRoom _ s, rfl⟩
  · exact ⟨s, Quiet.refl _ s, rfl⟩

/-- **Every step of the client decomposes.** -/
theorem step_decomposes (env : Env) : Machine.Decomposes (step env) (Reply env) (Transition env) := by
  intro s i
  rcases step_cases env s i with ⟨kind, t, func, object, answer, ran⟩ | chain
  · exact Or.inl (ran ▸ answer.reply)
  · exact Or.inr chain

/-- Peers are constructed and the count only grows. -/
theorem step_constructed (env : Env) (s : Client) (i : Input) :
    s.constructed ≤ (step env s i).constructed := by
  refine (step_decomposes env).related (R := fun s s' : Client => s.constructed ≤ s'.constructed)
    (fun _ => le_rfl) (fun _ _ _ => le_trans) (fun _ _ answered => answered.same_peers.1.ge)
    (fun _ _ taken => ?_) s
  cases taken with
  | quiet same => exact same.constructed.ge
  | _ => simp [Client.drawn]

end WebrtcDemo
