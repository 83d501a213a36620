import WebrtcDemo.Run.Candidates
import WebrtcDemo.Run.Session

/-!
# What leaves of descriptions and candidates

A message carries a description or a candidate only in the slot that takes it up, and then
under the handle that the slot was given, with what it was given.
-/

namespace WebrtcDemo

open JanusVideoRoomManager (construct newPeer registerRoomCallbacks)

/-- A description or a candidate of the request is that of the slot that runs. -/
def Request.Due (i : Input) : Request → Prop
  | .message h _ (some jsep) => ∃ id, i = .localSDP id jsep.sdp jsep.type ∧ h = castDouble id
  | .trickle h candidate =>
    ∃ id c, i.candidate? = some (id, c) ∧ h = castDouble id ∧ candidate = c.message
  | _ => True

/-- Between `s` and `s'` nothing else was sent. -/
def Client.Tells (i : Input) (s s' : Client) : Prop :=
  ∃ sent, s'.messages = s.messages ++ sent ∧ ∀ entry ∈ sent, entry.2.request.Due i

section
variable {env : Env} {i : Input} {s s' s'' : Client} {p : Ptr} {id : Int}

/-- Between its two tables a slot leaves the client sound. -/
theorem Sound.after_localVideo (sound : Sound s) (id : Int) (sdp type : String) :
    Sound (ConferenceManager.localVideo env s id sdp type) :=
  Machine.transitions_keep (fun _ _ piece before => piece.sound before)
    (localVideo_staged id sdp type :
      Relation.ReflTransGen (Staged (.localSDP id sdp type) s) s _) sound

theorem Sound.after_candidateVideo (sound : Sound s) (id : Int) (c : iceCandidate) :
    Sound (ConferenceManager.candidateVideo env s id c) :=
  Machine.transitions_keep (fun _ _ piece before => piece.sound before)
    (candidateVideo_staged id c :
      Relation.ReflTransGen (Staged (.localIceCandidate id c) s) s _) sound

namespace Client.Tells

theorem silent (messages : s'.messages = s.messages) : Client.Tells i s s' :=
  ⟨[], by rw [messages, List.append_nil], by simp⟩

theorem trans (first : Client.Tells i s s') (second : Client.Tells i s' s'') :
    Client.Tells i s s'' := by
  obtain ⟨sent, messages, due⟩ := first
  obtain ⟨sent', messages', due'⟩ := second
  refine ⟨sent ++ sent', by rw [messages', messages, List.append_assoc], fun entry member => ?_⟩
  rcases List.mem_append.1 member with early | late
  · exact due entry early
  · exact due' entry late

/-- What comes before and sends nothing. -/
theorem after (tells : Client.Tells i s' s'') (messages : s'.messages = s.messages) :
    Client.Tells i s s'' :=
  (silent messages).trans tells

theorem one {sender : Option Ptr} {m : Message} (messages : s'.messages = s.messages ++ [(sender, m)])
    (due : m.request.Due i) : Client.Tells i s s' := by
  refine ⟨_, messages, fun entry member => ?_⟩
  obtain rfl := List.mem_singleton.1 member
  exact due

theorem ask {sender : Option Ptr} {session : Option Int} {request : Request} {kind : ReplyKind}
    {func : Continuation} (due : request.Due i) :
    Client.Tells i s (s.ask env sender session request kind func) :=
  .one Client.ask_messages due

theorem speak {sender : Option Ptr} {session : Option Int} {request : Request}
    (due : request.Due i) : Client.Tells i s (s.speak env sender session request) :=
  .one Client.speak_messages due

theorem attach {room : RoomKind} {peer : JanusPeerConnection} :
    Client.Tells i s (s.attachNew env room peer) :=
  .one Client.attachNew_messages trivial

/-! ## Replies and requests -/

theorem reply (answered : Reply env i s s') : Client.Tells i s s' := by
  cases answered with
  | session => exact .silent Client.take_messages
  | heartBeat => exact .silent (Client.onHeartBeat_messages.trans Client.take_messages)
  | dead => exact .silent Client.take_messages
  | joined =>
    refine (speak ?_).after (by simp)
    exact trivial
  | admin =>
    refine (ask ?_).after (by simp)
    exact trivial
  | outcome _ _ _ same => exact .silent (same.messages.trans Client.take_messages)

theorem administer {room : RoomKind} {roomId : Int32} {member : PeerMember}
    (request : i.adminRequest? = some (room, roomId, member)) :
    Client.Tells i s (step env s i) := by
  have attached (t : Client) (p : Ptr) : Client.Tells i t (JanusPeerConnection.requestAttach env t p
      room.plugin (room.setRoom roomId.toUInt32) member) := by
    rcases alive : t.peers p with _ | x
    · rw [JanusPeerConnection.requestAttach, Client.withPeer_dead alive]
      exact .silent rfl
    · rw [JanusPeerConnection.requestAttach_live env alive]
      refine (ask ?_).after (by simp)
      exact trivial
  rw [step_administers request]
  cases s.admin room with
  | none => exact (attached _ _).after (by simp)
  | some p => exact attached s p

/-- An event sends what attaches its new peers. -/
theorem event {object : Json} (event : i.Reports object) : Client.Tells i s (step env s i) := by
  rcases publishes : i.publication? with _ | published
  · exact .silent (step_untagged event publishes).messages
  · refine ⟨_, (step_subscribed env s (Input.publication?_iff.1 publishes)).messages,
      fun entry member => ?_⟩
    obtain ⟨k, -, rfl⟩ := List.mem_map.1 member
    exact trivial

/-! ## Descriptions and candidates -/

theorem sendTo {room : RoomKind} {send : Client → Ptr → Client}
    (sends : ∀ p x, s.peers p = some x → room.handle x = id → ∃ session request,
      request.Due i ∧ send s p = s.speak env (some p) session request) :
    Client.Tells i s (s.sendTo room id send) := by
  rw [Client.sendTo]
  split
  · next p found =>
    obtain ⟨-, x, alive, handle⟩ := findPeer_some found
    obtain ⟨session, request, due, sent⟩ := sends p x alive handle
    rw [sent]
    exact .speak due
  · exact .silent rfl

theorem SendSDP (sdp type : String) :
    Client.Tells (.localSDP id sdp type) s (JanusVideoRoomManager.SendSDP env s id sdp type) := by
  rw [SendSDP_eq]
  have video : Client.Tells (.localSDP id sdp type) s
      (s.sendTo .video id (JanusPeerConnection.SendSDP env · · sdp type)) := by
    refine sendTo fun p x alive handle =>
      ⟨_, _, ?_, JanusPeerConnection.sendOnHandle_live env alive _ _ _⟩
    exact ⟨id, rfl, congrArg castDouble handle⟩
  refine video.trans (sendTo fun p x alive handle =>
    ⟨_, _, ?_, JanusPeerConnection.sendOnHandle_live env alive _ _ _⟩)
  exact ⟨id, rfl, congrArg castDouble handle⟩

theorem SendCandidate {c : iceCandidate} (reports : i.candidate? = some (id, c)) :
    Client.Tells i s (JanusVideoRoomManager.SendCandidate env s id c) := by
  rw [SendCandidate_eq]
  refine sendTo fun p x alive handle => ⟨_, _, ?_, SendCandidate_message env alive c⟩
  exact ⟨id, c, reports, congrArg castDouble handle, rfl⟩

theorem localVideo (sound : Sound s) (sdp type : String) :
    Client.Tells (.localSDP id sdp type) s (ConferenceManager.localVideo env s id sdp type) := by
  rcases found : s.conference.mRemoteStreamInfos_VideoAudio.lookup id with _ | info
  · rw [ConferenceManager.localVideo, found]
    exact .silent rfl
  · rw [sound.localVideo found]
    exact (SendSDP sdp type).after rfl

theorem localData (sound : Sound s) (sdp type : String) :
    Client.Tells (.localSDP id sdp type) s (ConferenceManager.localData env s id sdp type) := by
  rcases found : s.conference.mRemoteStreamInfos_DataChannels.lookup id with _ | info
  · rw [ConferenceManager.localData, found]
    exact .silent rfl
  · rw [sound.localData found]
    exact (SendSDP sdp type).after rfl

theorem onLocalSDP (sound : Sound s) (sdp type : String) :
    Client.Tells (.localSDP id sdp type) s (ConferenceManager.onLocalSDP env s id sdp type) := by
  rw [ConferenceManager.onLocalSDP_eq]
  exact (localVideo sound sdp type).trans (localData (sound.after_localVideo id sdp type) sdp type)

theorem candidateVideo (sound : Sound s) {c : iceCandidate}
    (reports : i.candidate? = some (id, c)) :
    Client.Tells i s (ConferenceManager.candidateVideo env s id c) := by
  rcases found : s.conference.mRemoteStreamInfos_VideoAudio.lookup id with _ | info
  · rw [ConferenceManager.candidateVideo, found]
    exact .silent rfl
  · rw [sound.candidateVideo found]
    exact (SendCandidate reports).after rfl

theorem candidateData (sound : Sound s) {c : iceCandidate}
    (reports : i.candidate? = some (id, c)) :
    Client.Tells i s (ConferenceManager.candidateData env s id c) := by
  rcases found : s.conference.mRemoteStreamInfos_DataChannels.lookup id with _ | info
  · rw [ConferenceManager.candidateData, found]
    exact .silent rfl
  · rw [sound.candidateData found]
    exact (SendCandidate reports).after rfl

theorem candidate (sound : Sound s) {c : iceCandidate} (reports : i.candidate? = some (id, c)) :
    Client.Tells i s (step env s i) := by
  rw [step_candidate env s reports, ConferenceManager.onLocalIceCandidate_eq]
  exact (candidateVideo sound reports).trans
    (candidateData (sound.after_candidateVideo id c) reports)

end Client.Tells

variable (env) in
/-- **A step sends no description and no candidate but those of its slot.** -/
theorem step_tells (sound : Sound s) (i : Input) : Client.Tells i s (step env s i) := by
  cases i with
  | socketConnected =>
    exact .one (Client.ask_messages :
      (s.ask env none none .create .success .onCreateSessionId).messages = _) trivial
  | heartBeatMessage =>
    exact .one (Client.ask_messages : (s.ask env none (some (castDouble s.janus.mSessionId))
      .keepalive .ack .onHeartBeat).messages = _) trivial
  | receivedMessage message =>
    rcases received_cases env s message with
      ⟨kind, t, func, object, answer, ran⟩ | ⟨-, ignored⟩ | ⟨object, event⟩
    · rw [ran]
      exact .reply answer.reply
    · rw [ignored]
      exact .silent rfl
    · exact .event event
  | setVideoWindows => exact .silent rfl
  | joinVideoRoom roomId name =>
    rw [step, JanusVideoRoomManager.JoinVideoRoom_eq]
    exact Client.Tells.attach.after rfl
  | leaveVideoRoom =>
    obtain ⟨t, same, stepped⟩ : ∃ t, Quiet .leaveVideoRoom s t ∧ step env s .leaveVideoRoom =
      t.leave .video := step_leaves rfl
    rw [stepped]
    exact .silent (Client.leave_messages.trans same.messages)
  | joinDataChannelRoom roomId name =>
    rw [step, WebRTCInterface.JoinDataChannelRoom, JanusVideoRoomManager.JoinTextRoom_eq]
    exact Client.Tells.attach.after rfl
  | leaveTextRoom =>
    have left : (s.leave .text).messages = s.messages := Client.leave_messages
    exact .silent left
  | createVideoRoom => exact .administer rfl
  | createTextRoom => exact .administer rfl
  | destoryVideoRoom => exact .administer rfl
  | destoryTextRoom => exact .administer rfl
  | sendMessage message => exact .silent (SendMessage_quiet .socketConnected message).messages
  | localSDP id sdp type => exact .onLocalSDP sound sdp type
  | localIceCandidate id c => exact .candidate sound rfl
  | iceGatheringComplete id => exact .candidate sound rfl
  | dataChannelOpen stream => exact .silent (OnStateChange_messages stream)

/-- So in a run each is that of an input. -/
theorem messages_due (env : Env) (is : List Input) :
    ∀ entry ∈ (after env is).messages, ∃ i ∈ is, entry.2.request.Due i := by
  induction is using List.reverseRecOn with
  | nil => exact fun _ member => absurd member List.not_mem_nil
  | append_singleton is i ih =>
    intro entry member
    obtain ⟨sent, messages, due⟩ := step_tells env (sound_after env is) i
    rw [after_concat, messages] at member
    rcases List.mem_append.1 member with before | new
    · obtain ⟨j, inside, holds⟩ := ih entry before
      exact ⟨j, List.mem_append_left _ inside, holds⟩
    · exact ⟨i, List.mem_append_right _ (List.mem_singleton_self i), due entry new⟩

end

end WebrtcDemo
