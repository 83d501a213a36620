import WebrtcDemo.Run.Lifetime
import WebrtcDemo.Run.Session
import WebrtcDemo.Run.Subscribers

/-!
# What goes over a data channel

Two inputs send on data channels: the notification that a channel is open, which brings
the join message, and the user's own message. Both read the room of the last call of
`JoinDataChannelRoom`, whichever call the channel was asked for by.
-/

namespace WebrtcDemo

open JanusVideoRoomManager (construct)

/-- What an effect sends, and on which data channel. -/
def Effect.data? : Effect → Option (Ptr × DataMessage)
  | .dataSent stream m => some (stream, m)
  | _ => none

/-- What a client has sent on its data channels, in order. -/
def Client.dataSent (s : Client) : List (Ptr × DataMessage) := s.log.filterMap Effect.data?

/-- Nothing was sent on a data channel. -/
def Unsent (s s' : Client) : Prop := s'.dataSent = s.dataSent

section
variable {env : Env} {i : Input} {s s' s'' : Client} {p : Ptr} {object : Json}

/-! ## What sends nothing -/

theorem dataSent_append {effects : List Effect} (log : s'.log = s.log ++ effects) :
    s'.dataSent = s.dataSent ++ effects.filterMap Effect.data? := by
  rw [Client.dataSent, log, List.filterMap_append, Client.dataSent]

namespace Unsent

theorem refl (s : Client) : Unsent s s := rfl

theorem trans (first : Unsent s s') (second : Unsent s' s'') : Unsent s s'' :=
  Eq.trans second first

/-- The same, read from the end. -/
theorem after (second : Unsent s' s'') (first : Unsent s s') : Unsent s s'' := first.trans second

theorem same (log : s'.log = s.log) : Unsent s s' := by
  rw [Unsent, Client.dataSent, log, Client.dataSent]

theorem more {effects : List Effect} (log : s'.log = s.log ++ effects)
    (other : effects.filterMap Effect.data? = []) : Unsent s s' := by
  rw [Unsent, dataSent_append log, other, List.append_nil]

theorem emit {e : Effect} (other : e.data? = none) : Unsent s (s.emit e) :=
  more rfl (by simp [other])

theorem speak {sender : Option Ptr} {session : Option Int} {request : Request} :
    Unsent s (s.speak env sender session request) :=
  more Client.speak_log rfl

theorem ask {sender : Option Ptr} {session : Option Int} {request : Request} {kind : ReplyKind}
    {func : Continuation} : Unsent s (s.ask env sender session request kind func) :=
  more Client.ask_log rfl

theorem take {kind : ReplyKind} {t : String} {func : Continuation} {object : Json} :
    Unsent s (s.take kind t func object) :=
  more Client.take_log rfl

theorem attachNew {room : RoomKind} {peer : JanusPeerConnection} :
    Unsent s (s.attachNew env room peer) :=
  more Client.attachNew_log rfl

theorem requestAttach (plugin : Plugin) (setRoom : JanusPeerConnection → JanusPeerConnection)
    (reply : PeerMember) :
    Unsent s (JanusPeerConnection.requestAttach env s p plugin setRoom reply) := by
  rcases alive : s.peers p with _ | x
  · rw [JanusPeerConnection.requestAttach, Client.withPeer_dead alive]
    exact same rfl
  · rw [JanusPeerConnection.requestAttach_live env alive]
    exact ask.after (same rfl)

theorem roomOutcome (recvMsg : Json) (key failureTag successTag : String)
    (requested : JanusPeerConnection → UInt32)
    (failed tested called : JanusPeerConnection → Option RoomCallback) :
    Unsent s (JanusPeerConnection.roomOutcome s p recvMsg key failureTag successTag requested failed
      tested called) := by
  have callback : ∀ (c : Option RoomCallback) (roomId : UInt32),
      Unsent s (JanusPeerConnection.callRoomCallback s c roomId) := by
    intro c roomId
    cases c <;> exact emit rfl
  rcases alive : s.peers p with _ | x
  · rw [JanusPeerConnection.roomOutcome, Client.withPeer_dead alive]
    exact same rfl
  · rw [JanusPeerConnection.roomOutcome, Client.withPeer_live alive]
    dsimp only
    split_ifs
    all_goals first | exact callback _ _ | exact refl _

theorem callContinuation (func : Continuation) (object : Json) :
    Unsent s (JanusVideoRoomManager.callContinuation env s func object) := by
  cases func with
  | onCreateSessionId => exact same rfl
  | onHeartBeat => exact emit rfl
  | peer p member =>
    rw [JanusVideoRoomManager.callContinuation]
    rcases alive : s.peers p with _ | x
    · rw [JanusPeerConnection.callMember_dead env alive]
      exact same rfl
    · rcases member.cases_reply with ⟨room, rfl⟩ | ⟨todo, isAdmin⟩ | reads
      · rw [JanusPeerConnection.callMember_joined env room alive]
        exact speak.after (same rfl)
      · rw [JanusPeerConnection.callMember_admin env isAdmin alive]
        exact ask.after (same rfl)
      · cases member <;>
          first | exact absurd reads (by decide) | exact roomOutcome _ _ _ _ _ _ _ _

/-! ### Descriptions and candidates -/

theorem sendTo {room : RoomKind} {h : Int} {send : Client → Ptr → Client}
    (sends : ∀ p, Unsent s (send s p)) : Unsent s (s.sendTo room h send) := by
  rw [Client.sendTo]
  split
  · exact sends _
  · exact refl _

theorem sendOnHandle (handle : JanusPeerConnection → Int) (body : JanusPeerConnection → Body)
    (jsep : Option Jsep) : Unsent s (JanusPeerConnection.sendOnHandle env s p handle body jsep) := by
  rcases alive : s.peers p with _ | x
  · rw [JanusPeerConnection.sendOnHandle, Client.withPeer_dead alive]
    exact same rfl
  · rw [JanusPeerConnection.sendOnHandle_live env alive]
    exact speak

theorem SendSDP (h : Int) (sdp type : String) :
    Unsent s (JanusVideoRoomManager.SendSDP env s h sdp type) := by
  rw [SendSDP_eq]
  exact trans (sendTo fun p => sendOnHandle _ _ _) (sendTo fun p => sendOnHandle _ _ _)

theorem SendCandidate (h : Int) (c : iceCandidate) :
    Unsent s (JanusVideoRoomManager.SendCandidate env s h c) := by
  rw [SendCandidate_eq]
  refine sendTo fun p => ?_
  rcases alive : s.peers p with _ | x
  · rw [JanusPeerConnection.SendCandidate, Client.withPeer_dead alive]
    exact same rfl
  · obtain ⟨candidate, sent⟩ := JanusPeerConnection.SendCandidate_live env alive c
    rw [sent]
    exact speak

theorem sendICEs (h : Int) (waiting : List iceCandidate) :
    Unsent s (ConferenceManager.sendICEs env s h waiting) := by
  induction waiting generalizing s with
  | nil => exact refl _
  | cons c more ih => exact trans (SendCandidate h c) ih

theorem onLocalSDP (id : Int) (sdp type : String) :
    Unsent s (ConferenceManager.onLocalSDP env s id sdp type) := by
  have video : ∀ t, Unsent t (ConferenceManager.localVideo env t id sdp type) := by
    intro t
    unfold ConferenceManager.localVideo
    dsimp only
    split
    · exact refl _
    · split_ifs
      · exact (SendSDP _ _ _).after (same rfl)
      · exact same rfl
  have data : ∀ t, Unsent t (ConferenceManager.localData env t id sdp type) := by
    intro t
    unfold ConferenceManager.localData
    dsimp only
    split
    · exact refl _
    · split_ifs
      · exact (SendSDP _ _ _).after (same rfl)
      · exact same rfl
  rw [ConferenceManager.onLocalSDP_eq]
  exact trans (video _) (data _)

theorem onLocalIceCandidate (id : Int) (c : iceCandidate) :
    Unsent s (ConferenceManager.onLocalIceCandidate env s id c) := by
  have video : ∀ t, Unsent t (ConferenceManager.candidateVideo env t id c) := by
    intro t
    unfold ConferenceManager.candidateVideo
    dsimp only
    split
    · exact refl _
    · split_ifs
      · exact (sendICEs _ _).after (same rfl)
      · exact same rfl
  have data : ∀ t, Unsent t (ConferenceManager.candidateData env t id c) := by
    intro t
    unfold ConferenceManager.candidateData
    dsimp only
    split
    · exact refl _
    · split_ifs
      · exact (sendICEs _ _).after (same rfl)
      · exact same rfl
  rw [ConferenceManager.onLocalIceCandidate_eq]
  exact trans (video _) (data _)

/-! ### The streams -/

theorem releaseVideo (p : Ptr) : Unsent s (s.releaseVideo p) := by
  rw [Client.releaseVideo]
  split_ifs
  · exact more rfl rfl
  · exact refl _

theorem releaseData (p : Ptr) : Unsent s (s.releaseData p) := by
  rw [Client.releaseData]
  split_ifs
  · exact more rfl rfl
  · exact refl _

theorem showStream (p : Ptr) (h : Int) : Unsent s (ConferenceManager.showStream s p h) := by
  unfold ConferenceManager.showStream
  split
  · exact same rfl
  · exact refl _

theorem ConnectToPeer_VideoAudio (h : Int) (show_ isConnect isLocal : Bool) :
    Unsent s (ConferenceManager.ConnectToPeer_VideoAudio s h show_ isConnect isLocal) := by
  have added : ∀ t p, Unsent t (ConferenceManager.addStreamInfo_VideoAudio t p) := by
    intro t p
    unfold ConferenceManager.addStreamInfo_VideoAudio
    dsimp only
    split
    · exact (releaseVideo _).after (same rfl)
    · exact same rfl
  unfold ConferenceManager.ConnectToPeer_VideoAudio
  dsimp only
  split_ifs
  · exact ((emit rfl).after (showStream _ _)).after ((added _ _).after (same rfl))
  · exact (emit rfl).after ((added _ _).after (same rfl))
  · exact (showStream _ _).after ((added _ _).after (same rfl))
  · exact (added _ _).after (same rfl)

theorem ConnectToPeer_DataChannels (h : Int) :
    Unsent s (ConferenceManager.ConnectToPeer_DataChannels s h) := by
  have added : ∀ t p, Unsent t (ConferenceManager.addStreamInfo_DataChannels t p) := by
    intro t p
    unfold ConferenceManager.addStreamInfo_DataChannels
    dsimp only
    split
    · exact (releaseData _).after (same rfl)
    · exact same rfl
  unfold ConferenceManager.ConnectToPeer_DataChannels
  dsimp only
  split
  · exact (added _ _).after ((same rfl).after ((releaseData _).after (same rfl)))
  · exact (added _ _).after (same rfl)

theorem onRetmoeSDP (h : Int) (type sdp : String) (isTextRoom : Bool) :
    Unsent s (ConferenceManager.onRetmoeSDP s h type sdp isTextRoom) := by
  have video : ∀ t, Unsent t (ConferenceManager.tellVideo t h type sdp) := by
    intro t
    unfold ConferenceManager.tellVideo
    split
    · exact emit rfl
    · exact refl _
  have data : ∀ t, Unsent t (ConferenceManager.tellData t h type sdp) := by
    intro t
    unfold ConferenceManager.tellData
    split
    · exact more rfl rfl
    · exact refl _
  cases isTextRoom
  · rw [ConferenceManager.onRetmoeSDP_video]
    split_ifs
    · exact (video _).after (ConnectToPeer_VideoAudio _ _ _ _)
    · exact video _
  · rw [ConferenceManager.onRetmoeSDP_text]
    split_ifs
    · exact (data _).after (ConnectToPeer_DataChannels _)
    · exact data _

theorem onRemoteStreamRemove (h : Int) : Unsent s (ConferenceManager.onRemoteStreamRemove s h) := by
  have video : ∀ t, Unsent t (ConferenceManager.removeVideo t h) := by
    intro t
    unfold ConferenceManager.removeVideo
    split
    · exact refl _
    · exact (releaseVideo _).after (same rfl)
  have data : ∀ t, Unsent t (ConferenceManager.removeData t h) := by
    intro t
    unfold ConferenceManager.removeData
    split
    · exact refl _
    · exact (releaseData _).after (same rfl)
  rw [ConferenceManager.onRemoteStreamRemove_eq]
  exact ((data _).after (same rfl)).after (video _)

theorem LeaveVideoRoom : Unsent s (ConferenceManager.LeaveVideoRoom s) := by
  have deleted : ∀ entries t, Unsent t (ConferenceManager.deleteStreams t entries) := by
    intro entries
    induction entries with
    | nil => exact refl
    | cons entry more' ih => exact fun t => (ih _).after (more rfl rfl)
  exact (same rfl).after ((deleted _ _).after (same rfl))

/-! ### Events -/

theorem onVideoRoomEventSdp (object : Json) (isTextRoom : Bool) :
    Unsent s (JanusVideoRoomManager.onVideoRoomEventSdp s object isTextRoom) := by
  unfold JanusVideoRoomManager.onVideoRoomEventSdp
  dsimp only
  split_ifs
  · exact (onRetmoeSDP _ _ _ _).after (emit rfl)
  · exact refl _

theorem onVideoRoomEventPublisher (object : Json) :
    Unsent s (JanusVideoRoomManager.onVideoRoomEventPublisher env s object) := by
  have fed : ∀ (ids : List Int) t, Unsent t (ids.foldl (attachFeed env) t) := by
    intro ids
    induction ids with
    | nil => exact refl
    | cons id more' ih => exact fun t => (ih _).after attachNew
  rw [onVideoRoomEventPublisher_eq]
  exact (fed _ _).after (same rfl)

theorem onVideoRoomEventJoin (object : Json) :
    Unsent s (JanusVideoRoomManager.onVideoRoomEventJoin env s object) := by
  rw [JanusVideoRoomManager.onVideoRoomEventJoin]
  split
  · exact ((ConnectToPeer_VideoAudio _ _ _ _).after (emit rfl)).after (onVideoRoomEventPublisher _)
  · exact onVideoRoomEventPublisher _

theorem onVideoRoomEventUnpublish (object : Json) :
    Unsent s (JanusVideoRoomManager.onVideoRoomEventUnpublish s object) := by
  unfold JanusVideoRoomManager.onVideoRoomEventUnpublish
  dsimp only
  split_ifs
  · split
    · exact ((same rfl).after (onRemoteStreamRemove _)).after (emit rfl)
    · exact refl _
  · exact refl _

theorem event (event : i.Reports object) : Unsent s (WebrtcDemo.step env s i) := by
  rcases step_event_cases env s event with ⟨-, ran⟩ | ⟨-, ran⟩ | ⟨-, ran⟩ | ⟨-, ran⟩ | ran <;> rw [ran]
  · exact onVideoRoomEventJoin _
  · exact onVideoRoomEventSdp _ _
  · exact ((onVideoRoomEventUnpublish _).after (onVideoRoomEventPublisher _)).after
      (onVideoRoomEventSdp _ _)
  · exact onVideoRoomEventSdp _ _
  · exact refl _

theorem received (message : Option Json) : Unsent s (WebrtcDemo.step env s (.receivedMessage message)) := by
  rcases received_cases env s message with ⟨kind, t, func, object, -, ran⟩ | ⟨-, ran⟩ | ⟨object, reports⟩
  · rw [ran]
    exact (callContinuation _ _).after take
  · rw [ran]
    exact refl _
  · exact event reports

theorem administers {room : RoomKind} {roomId : Int32} {member : PeerMember}
    (request : i.adminRequest? = some (room, roomId, member)) :
    Unsent s (WebrtcDemo.step env s i) := by
  rw [step_administers request]
  cases s.admin room
  · exact (requestAttach _ _ _).after (same (by simp))
  · exact requestAttach _ _ _

end Unsent

/-! ## What sends -/

/-- The join message that goes out when the data channel of `p` opens. -/
def Client.opening (env : Env) (s : Client) (p : Ptr) : List (Ptr × DataMessage) :=
  if (s.dataHeap p).any fun x => x.mDataChannel && x.OnSendLocalInfoWhenOpenDataChannel then
    [(p, ConferenceManager.onSendLocalInfoWhenOpenDataChannel env s)]
  else []

/-- The user's message goes out on the local data channel, if it is there. -/
def Client.saying (env : Env) (s : Client) (text : String) : List (Ptr × DataMessage) :=
  s.conference.LocalStream_DataChannels.toList.flatMap fun p =>
    if (s.dataHeap p).any (·.mDataChannel) then
      [(p, .message (env.random s.draws) s.conference.mTextRoomID text)]
    else []

/-- What an input sends on data channels. -/
def Client.sends (env : Env) (s : Client) : Input → List (Ptr × DataMessage)
  | .dataChannelOpen p => s.opening env p
  | .sendMessage text => s.saying env text
  | _ => []

/-- The room that both messages name, and the display name. -/
def Client.textRoom (s : Client) : Int32 × String :=
  (s.conference.mTextRoomID, s.conference.mTextRoomDisplayName)

theorem ConnectToPeer_VideoAudio_textRoom (h : Int) (show_ isConnect isLocal : Bool) :
    (ConferenceManager.ConnectToPeer_VideoAudio s h show_ isConnect isLocal).textRoom =
      s.textRoom := by
  have added : ∀ t p, (ConferenceManager.addStreamInfo_VideoAudio t p).textRoom = t.textRoom := by
    intro t p
    unfold ConferenceManager.addStreamInfo_VideoAudio
    dsimp only
    split
    · simp [Client.textRoom]
    · rfl
  have shown : ∀ t p, (ConferenceManager.showStream t p h).textRoom = t.textRoom := by
    intro t p
    unfold ConferenceManager.showStream
    split <;> rfl
  unfold ConferenceManager.ConnectToPeer_VideoAudio
  dsimp only
  split_ifs
  · exact (shown _ _).trans (added _ _)
  · exact added _ _
  · exact (shown _ _).trans (added _ _)
  · exact added _ _

theorem ConnectToPeer_DataChannels_textRoom (h : Int) :
    (ConferenceManager.ConnectToPeer_DataChannels s h).textRoom = s.textRoom := by
  have added : ∀ t p, (ConferenceManager.addStreamInfo_DataChannels t p).textRoom = t.textRoom := by
    intro t p
    unfold ConferenceManager.addStreamInfo_DataChannels
    dsimp only
    split
    · simp [Client.textRoom]
    · rfl
  unfold ConferenceManager.ConnectToPeer_DataChannels
  dsimp only
  split
  · rw [added]
    simp [Client.textRoom, Client.modifyData]
  · exact added _ _

theorem onRetmoeSDP_textRoom (h : Int) (type sdp : String) (isTextRoom : Bool) :
    (ConferenceManager.onRetmoeSDP s h type sdp isTextRoom).textRoom = s.textRoom := by
  have video : ∀ t, (ConferenceManager.tellVideo t h type sdp).textRoom = t.textRoom := by
    intro t
    unfold ConferenceManager.tellVideo
    split <;> rfl
  have data : ∀ t, (ConferenceManager.tellData t h type sdp).textRoom = t.textRoom := by
    intro t
    unfold ConferenceManager.tellData
    split <;> rfl
  cases isTextRoom
  · rw [ConferenceManager.onRetmoeSDP_video, video]
    split_ifs
    · exact ConnectToPeer_VideoAudio_textRoom _ _ _ _
    · rfl
  · rw [ConferenceManager.onRetmoeSDP_text, data]
    split_ifs
    · exact ConnectToPeer_DataChannels_textRoom _
    · rfl

theorem Staged.textRoom {start : Client} (stays : ∀ room name, i ≠ .joinDataChannelRoom room name)
    (staged : Staged i start s s') : s'.textRoom = s.textRoom := by
  cases staged with
  | apart same =>
    have conference : s'.conference = s.conference := congrArg Media.conference same
    rw [Client.textRoom, conference, Client.textRoom]
  | windows => rfl
  | described => exact onRetmoeSDP_textRoom _ _ _ _
  | joined => exact ConnectToPeer_VideoAudio_textRoom _ _ _ _
  | removed =>
    rw [Client.textRoom, onRemoteStreamRemove_conference]
    rfl
  | left =>
    rw [Client.textRoom, LeaveVideoRoom_conference]
    rfl
  | room room name cause => exact absurd cause (stays room name)
  | storedVideo => rfl
  | storedData => rfl
  | opened => rfl

end

/-- A call of `JoinDataChannelRoom`: the room, and the display name. -/
def Input.textCall? : Input → Option (Int32 × String)
  | .joinDataChannelRoom dataChannelRoomID userName => some (dataChannelRoomID, userName)
  | _ => none

/-- The last such call. -/
def lastCall (is : List Input) : Option (Int32 × String) :=
  is.foldl (fun last i => i.textCall?.or last) none

theorem lastCall_append (is : List Input) (i : Input) :
    lastCall (is ++ [i]) = i.textCall?.or (lastCall is) := by
  rw [lastCall, List.foldl_append]
  rfl

/-- Where there is a call there is a last one. -/
theorem lastCall_isSome {is : List Input} {i : Input} (member : i ∈ is) (call : i.textCall?.isSome) :
    (lastCall is).isSome := by
  induction is using List.reverseRecOn with
  | nil => simp at member
  | append_singleton is j ih =>
    rw [lastCall_append]
    rcases List.mem_append.1 member with early | last
    · simp [ih early]
    · obtain rfl := List.mem_singleton.1 last
      simp [call]

/-- **The client names the room of the last call.** -/
theorem textRoom_after {env : Env} {is : List Input} {call : Int32 × String}
    (last : lastCall is = some call) : (after env is).textRoom = call := by
  induction is using List.reverseRecOn with
  | nil => simp [lastCall] at last
  | append_singleton is i ih =>
    rw [lastCall_append] at last
    rw [after_concat]
    rcases calls : i.textCall? with _ | newest
    · rw [calls, Option.none_or] at last
      have stays : ∀ room name, i ≠ .joinDataChannelRoom room name := by
        rintro room name rfl
        simp [Input.textCall?] at calls
      rw [← ih last]
      exact Machine.transitions_keep (P := fun t : Client => t.textRoom = (after env is).textRoom)
        (fun _ _ staged same => (staged.textRoom stays).trans same) (step_staged env _ i) rfl
    · rw [calls, Option.some_or] at last
      obtain rfl := Option.some.inj last
      cases i <;> simp only [Input.textCall?, reduceCtorEq, Option.some.injEq] at calls
      subst calls
      rw [step, WebRTCInterface.JoinDataChannelRoom, JanusVideoRoomManager.JoinTextRoom_eq,
        Client.textRoom, Client.attachNew_conference]
      rfl

/-! ## The call that a channel is for -/

/-- The message names the room of the call, and a join its display name. -/
def DataMessage.Names (call : Int32 × String) : DataMessage → Prop
  | .join _ room _ display => room = call.1 ∧ display = call.2
  | .message _ room _ => room = call.1

/-- The call of `JoinDataChannelRoom` whose attach request was answered with the handle `h`. -/
def AskedFor (env : Env) (is : List Input) (h : Int) (call : Int32 × String) : Prop :=
  ∃ before later, is = before ++ .joinDataChannelRoom call.1 call.2 :: later ∧
    ((after env before).constructed, h) ∈ (after env is).granted .text

section
variable {env : Env} {is : List Input} {i : Input} {s : Client} {p : Ptr} {m : DataMessage}

theorem AskedFor.last {h : Int} {call : Int32 × String} (asked : AskedFor env is h call) :
    lastCall is = some (after env is).textRoom := by
  obtain ⟨before, later, rfl, -⟩ := asked
  obtain ⟨call, last⟩ := Option.isSome_iff_exists.1 (lastCall_isSome (List.mem_append_right before
    (List.mem_cons_self (a := .joinDataChannelRoom call.1 call.2) (l := later))) rfl)
  rw [last, textRoom_after last]

end

end WebrtcDemo
