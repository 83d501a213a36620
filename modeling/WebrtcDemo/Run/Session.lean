import WebrtcDemo.Run.Lifetime
import WebrtcDemo.Run.Feeds
import WebrtcDemo.Run.Routing

/-!
# The session of a message

The manager is told its session by the server and copies it into each peer it constructs.
A message carries the copy of the peer that sends it, so it is of the current session as
long as the copy is. Which copies a step speaks with can be read off the input and the
state before it (`SpeaksIn`).
-/

namespace WebrtcDemo

open JanusVideoRoomManager (construct findPeer newPeer registerRoomCallbacks)
open Relation (ReflTransGen)

/-- The sessions that the server has established, in order. -/
def Client.sessions (s : Client) : List Int :=
  s.log.filterMap fun
    | .invoked _ _ .onCreateSessionId object => some (JanusPeerConnection.replyId object)
    | _ => none

/-- Every message of the step, but for the request of a session, is of the current session,
and the server has established it. -/
def InSession (env : Env) (s : Client) (i : Input) : Prop :=
  ∀ sent ∈ sentSince s (step env s i), sent.2.request ≠ .create →
    sent.2.session_id = some (step env s i).janus.mSessionId ∧
      (step env s i).janus.mSessionId ∈ (step env s i).sessions

/-! ## Which sessions a step speaks in -/

section
variable (s : Client) (session : Int)

/-- A lookup of the handle `h` finds a peer of this session. -/
def Client.FindsIn (room : RoomKind) (h : Int) : Prop :=
  ∃ p x, findPeer s (s.listed room) room.handle h = some p ∧ s.peers p = some x ∧
    session = x.mSessionID

/-- The administrative peer of a kind of rooms is of this session, or would be. -/
def Client.AdministersIn (room : RoomKind) : Prop :=
  (∃ p x, s.admin room = some p ∧ s.peers p = some x ∧ session = x.mSessionID) ∨
    s.admin room = none ∧ session = s.janus.mSessionId

/-- The id is a key of one of the stream tables. -/
def Client.HasStream (id : Int) : Prop :=
  id ∈ s.conference.mRemoteStreamInfos_VideoAudio ∨ id ∈ s.conference.mRemoteStreamInfos_DataChannels

/-- A message that runs the continuation of a peer of this session, other than one that
reads an outcome, or publishes feeds in the session of the manager. -/
def Client.ReceivesIn (message : Option Json) : Prop :=
  (∃ object, (Input.receivedMessage message).publication? = some object ∧ newFeeds object ≠ [] ∧
      session = s.janus.mSessionId) ∨
    ∃ kind t p member object, Answer (.receivedMessage message) s kind t (.peer p member) object ∧
      ¬ member.isOutcome ∧ ∃ x, s.peers p = some x ∧ session = x.mSessionID

/-- The input makes the client speak in this session: in that of the manager, or in the one
that a peer was constructed with. -/
def SpeaksIn : Input → Prop
  | .heartBeatMessage => session = s.janus.mSessionId
  | .joinVideoRoom _ _ => session = s.janus.mSessionId
  | .joinDataChannelRoom _ _ => session = s.janus.mSessionId
  | .createVideoRoom _ => s.AdministersIn session .video
  | .destoryVideoRoom _ => s.AdministersIn session .video
  | .createTextRoom _ => s.AdministersIn session .text
  | .destoryTextRoom _ => s.AdministersIn session .text
  | .localSDP id _ _ =>
    s.HasStream id ∧ (s.FindsIn session .video id ∨ s.FindsIn session .text id)
  | .localIceCandidate id _ => s.HasStream id ∧ s.FindsIn session .video id
  | .iceGatheringComplete id => s.HasStream id ∧ s.FindsIn session .video id
  | .receivedMessage message => s.ReceivesIn session message
  | _ => False

end

/-- Whatever the client speaks in is the session of the manager, exactly as a double, and a
session reply has come. -/
def OneSession (s : Client) (i : Input) : Prop :=
  ∀ session, SpeaksIn s session i → castDouble session = s.janus.mSessionId ∧ s.sessions ≠ []

/-- Between `s` and `s'` the client has spoken in these sessions, and no others. -/
def Speaks (s s' : Client) (S : Int → Prop) : Prop :=
  ∃ sent : List (Option Ptr × Message), s'.messages = s.messages ++ sent ∧
    ∀ id, (∃ m ∈ sent, m.2.request ≠ .create ∧ m.2.session_id = id) ↔
      ∃ session, S session ∧ id = some (castDouble session)

section
variable {env : Env} {i : Input} {s s' s'' : Client} {S T : Int → Prop} {p : Ptr}
  {x : JanusPeerConnection} {id : Int}

theorem Speaks.silent (messages : s'.messages = s.messages) : Speaks s s' fun _ => False :=
  ⟨[], by rw [messages, List.append_nil], by simp⟩

theorem Speaks.congr (speaks : Speaks s s' S) (same : ∀ session, S session ↔ T session) : Speaks s s' T := by
  obtain rfl : S = T := funext fun session => propext (same session)
  exact speaks

theorem Speaks.trans (first : Speaks s s' S) (second : Speaks s' s'' T) :
    Speaks s s'' fun session => S session ∨ T session := by
  obtain ⟨sent, messages, carried⟩ := first
  obtain ⟨sent', messages', carried'⟩ := second
  refine ⟨sent ++ sent', by rw [messages', messages, List.append_assoc], fun id => ?_⟩
  simp only [List.mem_append, or_and_right, exists_or, carried, carried']

/-- What comes before and sends nothing does not show. -/
theorem Speaks.after (speaks : Speaks s' s'' S) (messages : s'.messages = s.messages) :
    Speaks s s'' S := by
  obtain ⟨sent, messages', carried⟩ := speaks
  exact ⟨sent, messages ▸ messages', carried⟩

theorem Speaks.one {sender : Option Ptr} {m : Message} {session : Int}
    (messages : s'.messages = s.messages ++ [(sender, m)]) (request : m.request ≠ .create)
    (carries : m.session_id = some (castDouble session)) : Speaks s s' (· = session) := by
  refine ⟨_, messages, fun id => ?_⟩
  constructor
  · rintro ⟨m', member, -, rfl⟩
    obtain rfl := List.mem_singleton.1 member
    exact ⟨session, rfl, carries⟩
  · rintro ⟨_, rfl, rfl⟩
    exact ⟨_, List.mem_singleton_self _, request, carries⟩

theorem Speaks.speak {sender : Option Ptr} {session : Int} {request : Request}
    (other : request ≠ .create) :
    Speaks s (s.speak env sender (some (castDouble session)) request) (· = session) :=
  .one Client.speak_messages other rfl

theorem Speaks.ask {sender : Option Ptr} {session : Int} {request : Request} {kind : ReplyKind}
    {func : Continuation} (other : request ≠ .create) :
    Speaks s (s.ask env sender (some (castDouble session)) request kind func) (· = session) :=
  .one Client.ask_messages other rfl

theorem Speaks.attach {room : RoomKind} {peer : JanusPeerConnection} :
    Speaks s (s.attachNew env room peer) (· = peer.mSessionID) :=
  .one Client.attachNew_messages (by simp) rfl

/-- What a step says decides whether it keeps to one session. -/
theorem Speaks.all (speaks : Speaks s s' S) (P : Option Int → Prop) :
    (∀ sent ∈ sentSince s s', sent.2.request ≠ .create → P sent.2.session_id) ↔
      ∀ session, S session → P (some (castDouble session)) := by
  obtain ⟨sent, messages, carried⟩ := speaks
  rw [sentSince_append messages]
  constructor
  · intro all session spoken
    obtain ⟨m, member, other, same⟩ := (carried _).2 ⟨session, spoken, rfl⟩
    rw [← same]
    exact all m member other
  · intro all m member other
    obtain ⟨session, spoken, same⟩ := (carried _).1 ⟨m, member, other, rfl⟩
    rw [same]
    exact all session spoken

/-! ## Replies and requests -/

/-- A continuation that runs speaks in the session of its peer, unless it reads an outcome. -/
theorem callContinuation_speaks {kind : ReplyKind} {t : String} {func : Continuation}
    {object : Json} (answer : Answer i s kind t func object) :
    Speaks s (JanusVideoRoomManager.callContinuation env (s.take kind t func object) func object)
      fun session => ∃ p member x, func = .peer p member ∧ ¬ member.isOutcome ∧
        s.peers p = some x ∧ session = x.mSessionID := by
  have taken (func : Continuation) : (s.take kind t func object).messages = s.messages :=
    Client.take_messages
  cases func with
  | onCreateSessionId => exact (Speaks.silent (taken _)).congr (by simp)
  | onHeartBeat =>
    exact (Speaks.silent (Client.onHeartBeat_messages.trans (taken _))).congr (by simp)
  | peer p member =>
    rw [JanusVideoRoomManager.callContinuation]
    rcases state : s.peers p with _ | x
    · rw [JanusPeerConnection.callMember_dead env (by simpa using state)]
      exact (Speaks.silent (taken _)).congr (by simp [state])
    · have alive : (s.take kind t (.peer p member) object).peers p = some x := by simpa using state
      have one (other : ¬ member.isOutcome) (session : Int) : session = x.mSessionID ↔
          ∃ p' member' x', Continuation.peer p member = .peer p' member' ∧ ¬ member'.isOutcome ∧
            s.peers p' = some x' ∧ session = x'.mSessionID := by
        constructor
        · rintro rfl
          exact ⟨p, member, x, rfl, other, state, rfl⟩
        · rintro ⟨p', member', x', same, -, alive', rfl⟩
          injection same with same _
          subst same
          rw [Option.some.inj (state.symm.trans alive')]
      rcases member.cases_reply with ⟨room, rfl⟩ | ⟨todo, isAdmin⟩ | reads
      · rw [JanusPeerConnection.callMember_joined env room alive]
        exact ((Speaks.speak (by simp)).after (taken _)).congr (one (by cases room <;> decide))
      · rw [JanusPeerConnection.callMember_admin env isAdmin alive]
        have other : ¬ member.isOutcome := by
          cases member <;> simp [adminStep] at isAdmin <;> decide
        refine ((Speaks.ask ?_).after ?_).congr (one other)
        · simp
        · simp
      · have quiet := Quiet.callMember_outcome env i alive object reads
        exact (Speaks.silent (quiet.messages.trans (taken _))).congr fun session => by
          simp only [false_iff]
          rintro ⟨p', member', x', same, other, -⟩
          injection same with _ same
          exact other (same ▸ reads)

theorem administer_speaks (owned : Owned s) {room : RoomKind} {roomId : Int32} {member : PeerMember}
    (request : i.adminRequest? = some (room, roomId, member)) :
    Speaks s (step env s i) fun session => s.AdministersIn session room := by
  rw [step_administers request]
  rcases holds : s.admin room with _ | p
  · rw [Option.elim_none]
    have alive : ((construct s (registerRoomCallbacks (newPeer env s))).appoint room s.constructed).peers
        s.constructed = some (registerRoomCallbacks (newPeer env s)) := by simp
    rw [JanusPeerConnection.requestAttach_live env alive]
    refine ((Speaks.ask (by simp)).after (by simp)).congr fun session => ?_
    simp [Client.AdministersIn, holds, registerRoomCallbacks, newPeer]
  · obtain ⟨x, alive⟩ := Option.isSome_iff_exists.1 (owned.live p (Client.admin_holders holds))
    rw [Option.elim_some, JanusPeerConnection.requestAttach_live env alive]
    refine ((Speaks.ask (by simp)).after (by simp)).congr fun session => ?_
    simp [Client.AdministersIn, holds, alive]

/-! ## What a stream reports -/

/-- The client has spoken, and nothing changed that decides for whom. -/
structure Reported (s s' : Client) (S : Int → Prop) : Prop where
  janus : s'.janus = s.janus
  peers : s'.peers = s.peers
  data : ∀ k, k ∈ s'.conference.mRemoteStreamInfos_DataChannels ↔
    k ∈ s.conference.mRemoteStreamInfos_DataChannels
  speaks : Speaks s s' S

theorem Reported.trans (first : Reported s s' S) (second : Reported s' s'' T) :
    Reported s s'' fun session => S session ∨ T session where
  janus := second.janus.trans first.janus
  peers := second.peers.trans first.peers
  data k := (second.data k).trans (first.data k)
  speaks := first.speaks.trans second.speaks

theorem Reported.congr (reported : Reported s s' S) (same : ∀ session, S session ↔ T session) :
    Reported s s' T :=
  ⟨reported.janus, reported.peers, reported.data, reported.speaks.congr same⟩

theorem Reported.refl (s : Client) : Reported s s fun _ => False :=
  ⟨rfl, rfl, fun _ => Iff.rfl, .silent rfl⟩

theorem Reported.finds (reported : Reported s s' S) (session : Int) (room : RoomKind) (h : Int) :
    s'.FindsIn session room h ↔ s.FindsIn session room h := by
  have listed : s'.listed room = s.listed room := Client.listed_of_janus reported.janus room
  rw [Client.FindsIn, Client.FindsIn, findPeer_congr listed reported.peers, reported.peers]

variable (env) in
/-- One lookup. -/
theorem sendTo_reported (s : Client) (room : RoomKind) (h : Int) {send : Client → Ptr → Client}
    (sends : ∀ p x, s.peers p = some x → ∃ request, request ≠ .create ∧ send s p =
      s.speak env (some p) (some (castDouble x.mSessionID)) request) :
    Reported s (s.sendTo room h send) fun session => s.FindsIn session room h := by
  rw [Client.sendTo]
  split
  · next p found =>
    obtain ⟨-, x, alive, -⟩ := findPeer_some found
    obtain ⟨request, other, sent⟩ := sends p x alive
    rw [sent]
    refine ⟨rfl, rfl, fun _ => Iff.rfl, (Speaks.speak other).congr fun session => ?_⟩
    simp [Client.FindsIn, found, alive]
  · next missing =>
    exact (Reported.refl s).congr fun session => by simp [Client.FindsIn, missing]

theorem SendSDP_reported (env : Env) (s : Client) (h : Int) (sdp type : String) :
    Reported s (JanusVideoRoomManager.SendSDP env s h sdp type) fun session =>
      s.FindsIn session .video h ∨ s.FindsIn session .text h := by
  rw [SendSDP_eq]
  have video : Reported s (s.sendTo .video h (JanusPeerConnection.SendSDP env · · sdp type)) _ :=
    sendTo_reported env s .video h fun p x alive =>
      ⟨_, by simp, JanusPeerConnection.sendOnHandle_live env alive _ _ _⟩
  have text : ∀ t : Client, Reported t
      (t.sendTo .text h (JanusPeerConnection.SendSDPText env · · sdp type)) _ := fun t =>
    sendTo_reported env t .text h fun p x alive =>
      ⟨_, by simp, JanusPeerConnection.sendOnHandle_live env alive _ _ _⟩
  exact (video.trans (text _)).congr fun session => by rw [video.finds]

theorem SendCandidate_reported (env : Env) (s : Client) (h : Int) (c : iceCandidate) :
    Reported s (JanusVideoRoomManager.SendCandidate env s h c) fun session =>
      s.FindsIn session .video h := by
  rw [SendCandidate_eq]
  refine sendTo_reported env s .video h fun p x alive => ?_
  obtain ⟨candidate, sent⟩ := JanusPeerConnection.SendCandidate_live env alive c
  exact ⟨_, by simp, sent⟩

/-- An entry that is there is written. -/
theorem Reported.storeData {info : RemoteStreamInfo} (info' : RemoteStreamInfo)
    (found : s.conference.mRemoteStreamInfos_DataChannels.lookup id = some info) :
    Reported s (s.withData (s.conference.mRemoteStreamInfos_DataChannels.insert id info'))
      fun _ => False := by
  have member : id ∈ s.conference.mRemoteStreamInfos_DataChannels :=
    AList.lookup_isSome.1 (by simp [found])
  refine ⟨rfl, rfl, fun k => ?_, .silent rfl⟩
  show k ∈ AList.insert id info' _ ↔ _
  rw [AList.mem_insert]
  exact or_iff_right_of_imp fun same => same ▸ member

theorem Reported.storeVideo (table : StreamTable) :
    Reported s (s.withVideo table) fun _ => False :=
  ⟨rfl, rfl, fun _ => Iff.rfl, .silent rfl⟩

/-- What is written first does not show. -/
theorem Reported.after (reported : Reported s' s'' S) (written : Reported s s' fun _ => False) :
    Reported s s'' S :=
  (written.trans reported).congr (by simp)

/-- Only an entry of a table is looked after. -/
theorem Reported.entry {table : StreamTable}
    (known : ∀ info, table.lookup id = some info → Reported s s' S)
    (unknown : table.lookup id = none → s' = s) :
    Reported s s' fun session => id ∈ table ∧ S session := by
  rcases found : table.lookup id with _ | info
  · have absent : id ∉ table := AList.lookup_eq_none.1 found
    rw [unknown found]
    exact (Reported.refl s).congr (by simp [absent])
  · have member : id ∈ table := AList.lookup_isSome.1 (by simp [found])
    exact (known info found).congr (by simp [member])

/-- What an entry takes up, it sends at once. -/
theorem localVideo_reported (env : Env) (sound : Sound s) (id : Int) (sdp type : String) :
    Reported s (ConferenceManager.localVideo env s id sdp type) fun session =>
      id ∈ s.conference.mRemoteStreamInfos_VideoAudio ∧
        (s.FindsIn session .video id ∨ s.FindsIn session .text id) := by
  refine Reported.entry (fun info found => ?_) fun missing => by
    rw [ConferenceManager.localVideo, missing]
  rw [sound.localVideo found]
  refine ((SendSDP_reported env _ id sdp type).after (.storeVideo _)).congr fun session => ?_
  rw [(Reported.storeVideo _).finds, (Reported.storeVideo _).finds]

theorem localData_reported (env : Env) (sound : Sound s) (id : Int) (sdp type : String) :
    Reported s (ConferenceManager.localData env s id sdp type) fun session =>
      id ∈ s.conference.mRemoteStreamInfos_DataChannels ∧
        (s.FindsIn session .video id ∨ s.FindsIn session .text id) := by
  refine Reported.entry (fun info found => ?_) fun missing => by
    rw [ConferenceManager.localData, missing]
  have written := Reported.storeData { info with sdp := sdp, sdpType := type } found
  rw [sound.localData found]
  refine ((SendSDP_reported env _ id sdp type).after written).congr fun session => ?_
  rw [written.finds, written.finds]

theorem candidateVideo_reported (env : Env) (sound : Sound s) (id : Int) (c : iceCandidate) :
    Reported s (ConferenceManager.candidateVideo env s id c) fun session =>
      id ∈ s.conference.mRemoteStreamInfos_VideoAudio ∧ s.FindsIn session .video id := by
  refine Reported.entry (fun info found => ?_) fun missing => by
    rw [ConferenceManager.candidateVideo, missing]
  rw [sound.candidateVideo found]
  refine ((SendCandidate_reported env _ id c).after (.storeVideo _)).congr fun session => ?_
  rw [(Reported.storeVideo _).finds]

theorem candidateData_reported (env : Env) (sound : Sound s) (id : Int) (c : iceCandidate) :
    Reported s (ConferenceManager.candidateData env s id c) fun session =>
      id ∈ s.conference.mRemoteStreamInfos_DataChannels ∧ s.FindsIn session .video id := by
  refine Reported.entry (fun info found => ?_) fun missing => by
    rw [ConferenceManager.candidateData, missing]
  have written := Reported.storeData { info with iceCandidateList := [] } found
  rw [sound.candidateData found]
  refine ((SendCandidate_reported env _ id c).after written).congr fun session => ?_
  rw [written.finds]

/-- A description goes out for both kinds of peers. -/
theorem onLocalSDP_reported (env : Env) (sound : Sound s) (id : Int) (sdp type : String) :
    Reported s (ConferenceManager.onLocalSDP env s id sdp type) fun session =>
      s.HasStream id ∧ (s.FindsIn session .video id ∨ s.FindsIn session .text id) := by
  rw [ConferenceManager.onLocalSDP_eq]
  have sound' : Sound (ConferenceManager.localVideo env s id sdp type) :=
    Machine.transitions_keep (fun _ _ piece before => piece.sound before)
      (localVideo_staged id sdp type : ReflTransGen (Staged .socketConnected s) s _) sound
  have video := localVideo_reported env sound id sdp type
  refine (video.trans (localData_reported env sound' id sdp type)).congr fun session => ?_
  rw [video.finds, video.finds, video.data, Client.HasStream, or_and_right]

/-- A candidate, for video peers only. -/
theorem onLocalIceCandidate_reported (env : Env) (sound : Sound s) (id : Int) (c : iceCandidate) :
    Reported s (ConferenceManager.onLocalIceCandidate env s id c) fun session =>
      s.HasStream id ∧ s.FindsIn session .video id := by
  rw [ConferenceManager.onLocalIceCandidate_eq]
  have sound' : Sound (ConferenceManager.candidateVideo env s id c) :=
    Machine.transitions_keep (fun _ _ piece before => piece.sound before)
      (candidateVideo_staged id c : ReflTransGen (Staged .socketConnected s) s _) sound
  have video := candidateVideo_reported env sound id c
  refine (video.trans (candidateData_reported env sound' id c)).congr fun session => ?_
  rw [video.finds, video.data, Client.HasStream, or_and_right]

/-! ## Every step -/

/-- An event makes its new peers speak in the session of the manager. -/
theorem event_speaks {message : Option Json} {object : Json}
    (event : (Input.receivedMessage message).Reports object) :
    Speaks s (step env s (.receivedMessage message)) fun session => s.ReceivesIn session message := by
  have published : ∀ session, s.ReceivesIn session message ↔
      ∃ object, (Input.receivedMessage message).publication? = some object ∧
        newFeeds object ≠ [] ∧ session = s.janus.mSessionId := by
    intro session
    refine or_iff_left ?_
    rintro ⟨kind, t, p, member, object', answer, -⟩
    exact event.unanswered kind t object' answer.named
  rcases publishes : (Input.receivedMessage message).publication? with _ | object
  · exact (Speaks.silent (step_untagged event publishes).messages).congr fun session => by
      simp [published, publishes]
  · have subscribed := step_subscribed env s (Input.publication?_iff.1 publishes)
    refine ⟨_, subscribed.messages, fun id => ?_⟩
    simp only [published, publishes, Option.some.injEq, exists_eq_left']
    constructor
    · rintro ⟨m, member, -, rfl⟩
      obtain ⟨k, early, rfl⟩ := List.mem_map.1 member
      have feeds : newFeeds object ≠ [] := by
        rintro none
        simp [none] at early
      exact ⟨_, ⟨feeds, rfl⟩, rfl⟩
    · rintro ⟨session, ⟨feeds, rfl⟩, rfl⟩
      exact ⟨attachMessage env (s.keyed object) 0,
        List.mem_map_of_mem (List.mem_range.2 (List.length_pos_iff.2 feeds)), by simp [attachMessage], rfl⟩

/-- A reply makes its peer speak in its own. -/
theorem reply_speaks {message : Option Json}
    (silent : ∀ object, ¬ (Input.receivedMessage message).Reports object) :
    Speaks s (step env s (.receivedMessage message)) fun session => s.ReceivesIn session message := by
  have answered : ∀ session, s.ReceivesIn session message ↔ ∃ kind t p member object,
      Answer (.receivedMessage message) s kind t (.peer p member) object ∧ ¬ member.isOutcome ∧
        ∃ x, s.peers p = some x ∧ session = x.mSessionID := by
    intro session
    refine or_iff_right ?_
    rintro ⟨object, publishes, -⟩
    rcases Input.publication?_iff.1 publishes with tagged | tagged <;> exact silent object tagged.1
  rcases received_cases env s message with ⟨kind, t, func, object, answer, ran⟩ | ⟨unanswered, ignored⟩ | ⟨object, event⟩
  · rw [ran]
    refine (callContinuation_speaks answer).congr fun session => ?_
    rw [answered]
    constructor
    · rintro ⟨p, member, x, rfl, other, alive, rfl⟩
      exact ⟨kind, t, p, member, object, answer, other, x, alive, rfl⟩
    · rintro ⟨kind', t', p, member, object', answer', other, x, alive, rfl⟩
      obtain ⟨rfl, rfl, rfl⟩ := Client.Answers_kind answer.named answer'.named
      exact ⟨p, member, x, Option.some.inj (answer.waiting.symm.trans answer'.waiting), other, alive, rfl⟩
  · rw [ignored]
    refine (Speaks.silent rfl).congr fun session => ?_
    simp only [answered, false_iff]
    rintro ⟨kind, t, p, member, object, answer, -⟩
    exact unanswered kind t _ object answer
  · exact absurd event (silent object)

theorem OnStateChange_messages (stream : Ptr) :
    (WebrtcStreamDataChannels.OnStateChange env s stream).messages = s.messages := by
  rcases OnStateChange_quiet .socketConnected stream with same | same
  · exact same.messages
  · exact same.messages

variable (env) in
/-- **What a step speaks in** can be read off the input. -/
theorem step_speaks (owned : Owned s) (sound : Sound s) (i : Input) :
    Speaks s (step env s i) fun session => SpeaksIn s session i := by
  cases i with
  | socketConnected =>
    refine ⟨_, (Client.ask_messages : (s.ask env none none .create .success .onCreateSessionId).messages = _), ?_⟩
    simp [SpeaksIn]
  | heartBeatMessage =>
    refine Speaks.one (Client.ask_messages : (s.ask env none (some (castDouble s.janus.mSessionId))
      .keepalive .ack .onHeartBeat).messages = _) (by simp) rfl
  | receivedMessage message =>
    by_cases event : ∃ object, (Input.receivedMessage message).Reports object
    · obtain ⟨object, event⟩ := event
      exact event_speaks event
    · exact reply_speaks (not_exists.1 event)
  | setVideoWindows => exact .silent rfl
  | joinVideoRoom roomId name =>
    rw [step, JanusVideoRoomManager.JoinVideoRoom_eq]
    exact Speaks.attach.after rfl
  | leaveVideoRoom =>
    obtain ⟨t, same, stepped⟩ : ∃ t, Quiet .leaveVideoRoom s t ∧ step env s .leaveVideoRoom =
      t.leave .video := step_leaves rfl
    rw [stepped]
    exact .silent (Client.leave_messages.trans same.messages)
  | joinDataChannelRoom roomId name =>
    rw [step, WebRTCInterface.JoinDataChannelRoom, JanusVideoRoomManager.JoinTextRoom_eq]
    exact Speaks.attach.after rfl
  | leaveTextRoom =>
    have left : (s.leave .text).messages = s.messages := Client.leave_messages
    exact .silent left
  | createVideoRoom => exact administer_speaks owned rfl
  | createTextRoom => exact administer_speaks owned rfl
  | destoryVideoRoom => exact administer_speaks owned rfl
  | destoryTextRoom => exact administer_speaks owned rfl
  | sendMessage message => exact .silent (SendMessage_quiet .socketConnected message).messages
  | localSDP id sdp type => exact (onLocalSDP_reported env sound id sdp type).speaks
  | localIceCandidate id c => exact (onLocalIceCandidate_reported env sound id c).speaks
  | iceGatheringComplete id => exact (onLocalIceCandidate_reported env sound id _).speaks
  | dataChannelOpen stream => exact .silent (OnStateChange_messages stream)

/-! ## The session of the manager -/

theorem sessions_append {effects : List Effect} (log : s'.log = s.log ++ effects)
    (other : ∀ kind t object, .invoked kind t .onCreateSessionId object ∉ effects) :
    s'.sessions = s.sessions := by
  rw [Client.sessions, log, List.filterMap_append]
  refine (congrArg (s.log.filterMap _ ++ ·) ?_).trans (List.append_nil _)
  refine List.filterMap_eq_nil_iff.2 fun e member => ?_
  split
  · next kind t object => exact absurd member (other kind t object)
  · rfl

theorem Quiet.sessions (same : Quiet i s s') : s'.sessions = s.sessions := by
  obtain ⟨effects, log, quiet⟩ := same.log
  refine sessions_append log fun kind t object member => ?_
  simpa [Effect.isQuiet] using quiet _ member

/-- The session and the replies that brought one are as they were. -/
def SameSession (s s' : Client) : Prop :=
  s'.janus.mSessionId = s.janus.mSessionId ∧ s'.sessions = s.sessions

theorem SameSession.trans (first : SameSession s s') (second : SameSession s' s'') :
    SameSession s s'' :=
  ⟨second.1.trans first.1, second.2.trans first.2⟩

theorem SameSession.ask {sender : Option Ptr} {session : Option Int} {request : Request}
    {kind : ReplyKind} {func : Continuation} :
    SameSession s (s.ask env sender session request kind func) :=
  ⟨Client.ask_settings.2.1, sessions_append Client.ask_log (by simp)⟩

theorem SameSession.take {kind : ReplyKind} {t : String} {func : Continuation} {object : Json}
    (other : func ≠ .onCreateSessionId) : SameSession s (s.take kind t func object) :=
  ⟨Client.take_settings.2.1, sessions_append Client.take_log (by simp [other.symm])⟩

theorem Transition.sameSession (taken : Transition env i s s') : SameSession s s' := by
  cases taken with
  | quiet same => exact ⟨by rw [same.janus], same.sessions⟩
  | drawn => exact ⟨rfl, rfl⟩
  | settings => exact ⟨rfl, rfl⟩
  | manage => exact .ask
  | attach room peer =>
    have listed : SameSession s ((construct s peer).enlist room s.constructed) := by
      cases room <;> exact ⟨rfl, rfl⟩
    exact listed.trans .ask
  | appoint room peer => cases room <;> exact ⟨rfl, rfl⟩
  | administer => exact SameSession.trans ⟨rfl, rfl⟩ .ask
  | lost => exact ⟨rfl, rfl⟩
  | unlist => exact ⟨rfl, rfl⟩
  | leave room =>
    refine ⟨?_, sessions_append (Client.leave_log.trans (List.append_nil _).symm) (by simp)⟩
    obtain ⟨peers, fault, left⟩ := s.leave_shape room
    cases room <;> rw [left]
  | speak => exact ⟨rfl, sessions_append Client.speak_log (by simp)⟩

variable (env s) in
/-- The session changes only where the reply to a request for one is answered. -/
theorem step_session (i : Input) :
    (∃ kind t object, Answer i s kind t .onCreateSessionId object ∧
      (step env s i).janus.mSessionId = JanusPeerConnection.replyId object ∧
      (step env s i).sessions = s.sessions ++ [JanusPeerConnection.replyId object]) ∨
      SameSession s (step env s i) := by
  rcases step_decomposes env s i with answered | chain
  · generalize step env s i = s' at answered
    cases answered with
    | @session kind t object answer =>
      refine Or.inl ⟨kind, t, object, answer, rfl, ?_⟩
      show (s.take kind t .onCreateSessionId object).sessions = _
      simp [Client.sessions, Client.take_log]
    | heartBeat =>
      have reset (t : Client) : (JanusVideoRoomManager.onHeartBeat t).sessions = t.sessions :=
        sessions_append rfl (by simp : ∀ _ _ _, _ ∉ [Effect.resetTimer])
      exact Or.inr ((SameSession.take (by simp)).trans ⟨rfl, reset _⟩)
    | dead => exact Or.inr ((SameSession.take (by simp)).trans ⟨rfl, rfl⟩)
    | joined =>
      exact Or.inr ((SameSession.take (by simp)).trans
        ⟨rfl, sessions_append Client.speak_log (by simp)⟩)
    | admin =>
      exact Or.inr ((SameSession.take (by simp)).trans (SameSession.trans ⟨rfl, rfl⟩ .ask))
    | outcome _ _ _ same =>
      exact Or.inr ((SameSession.take (by simp)).trans ⟨by rw [same.janus], same.sessions⟩)
  · refine Or.inr (Machine.transitions_keep (P := SameSession s) (fun _ _ taken sofar => ?_) chain
      ⟨rfl, rfl⟩)
    exact sofar.trans taken.sameSession

/-- The session is the one established last. -/
def Supplied (s : Client) : Prop := s.janus.mSessionId = s.sessions.getLastD 0

theorem Supplied.step (supplied : Supplied s) (i : Input) : Supplied (step env s i) := by
  rcases step_session env s i with ⟨kind, t, object, -, session, sessions⟩ | ⟨session, sessions⟩
  · rw [Supplied, session, sessions]
    simp
  · rw [Supplied, session, sessions]
    exact supplied

variable (env) in
/-- What speaks is not told a session at once. -/
theorem SpeaksIn.sameSession {session : Int} (speaks : SpeaksIn s session i) :
    SameSession s (step env s i) := by
  refine (step_session env s i).resolve_left ?_
  rintro ⟨kind, t, object, answer, -⟩
  obtain rfl := answer.named.1
  rcases speaks with ⟨object', publishes, -⟩ | ⟨kind', t', p, member, object', answer', -⟩
  · rcases Input.publication?_iff.1 publishes with tagged | tagged <;>
      exact tagged.1.unanswered kind t object answer.named
  · obtain ⟨rfl, rfl, rfl⟩ := Client.Answers_kind answer.named answer'.named
    simpa using answer.waiting.symm.trans answer'.waiting

variable (env) in
/-- **A step keeps to the session of the manager if and only if all it speaks in is that.** -/
theorem inSession_iff (owned : Owned s) (sound : Sound s) (supplied : Supplied s) (i : Input) :
    InSession env s i ↔ OneSession s i := by
  rw [InSession, (step_speaks env owned sound i).all fun id =>
    id = some (step env s i).janus.mSessionId ∧ (step env s i).janus.mSessionId ∈ (step env s i).sessions]
  refine forall₂_congr fun session speaks => ?_
  obtain ⟨same, replies⟩ := speaks.sameSession env
  rw [same, replies, Option.some.injEq]
  refine and_congr_right fun _ => ?_
  constructor
  · exact List.ne_nil_of_mem
  · intro some'
    rw [supplied, List.getLastD_eq_getLast?, List.getLast?_eq_some_getLast some']
    exact List.getLast_mem some'

end

/-- **Every message is of the current session, which the server has established,** in exactly
the runs that speak in no other. -/
theorem session_carried_iff (env : Env) (is : List Input) :
    Machine.Along (step env) (InSession env) (Client.initial env) is ↔
      Machine.Along (step env) OneSession (Client.initial env) is := by
  refine Machine.along_congr (Q := fun s : Client => Owned s ∧ Sound s ∧ Supplied s)
    (fun s i kept => ⟨kept.1.step i, kept.2.1.step env i, kept.2.2.step i⟩)
    (fun s i _ kept => inSession_iff env kept.1 kept.2.1 kept.2.2 i) ?_
  exact ⟨owned_initial, sound_after env [], rfl⟩

/-- A peer for administrative requests keeps the session it was made with. -/
theorem session_outdated : ¬ ∀ (env : Env) (is : List Input),
    Machine.Along (step env) (InSession env) (Client.initial env) is := by
  intro always
  let is : List Input := [.socketConnected, .createVideoRoom 1, Server.success (Env.sample.random 0) 99]
  have along := always Env.sample (is ++ [.createVideoRoom 2])
  have last : InSession Env.sample (after Env.sample is) (.createVideoRoom 2) :=
    (Machine.along_cons.1 (Machine.along_append.1 along).2).1
  have old : (some 0, ⟨Env.sample.random 2, some 0, .attach .videoroom⟩) ∈
      sentSince (after Env.sample is) (step Env.sample (after Env.sample is) (.createVideoRoom 2)) := by
    decide +kernel
  have current : (step Env.sample (after Env.sample is) (.createVideoRoom 2)).janus.mSessionId = 99 := by
    decide +kernel
  have carried := (last _ old (by simp)).1
  rw [current] at carried
  simp at carried

end WebrtcDemo
