import WebrtcDemo.Client.Interface

/-!
# The operations a step is made of

The handlers change a client through a few operations: send a message and perhaps
register a continuation (`speak`, `ask`), take a continuation out of its map
(`take`), construct and list a peer (`construct`, `enlist`). Each has one lemma
for each field it can change. The lemmas at the end say which operations each
member function comes to, so that nothing after this module unfolds one.
-/

namespace WebrtcDemo

open JanusVideoRoomManager (newPeer construct)

/-- The two kinds of rooms: plugin, continuation of a join, handle field, peer list. -/
inductive RoomKind where
  | video
  | text
  deriving DecidableEq

namespace RoomKind

def plugin : RoomKind → Plugin
  | video => .videoroom
  | text => .textroom

def joined : RoomKind → PeerMember
  | video => .onAttachVideoRoomJoin
  | text => .onAttachTextRoomJoin

def handle : RoomKind → JanusPeerConnection → Int
  | video, peer => peer.mVideoRoomHandleID
  | text, peer => peer.mTextRoomHandleID

def setHandle : RoomKind → Int → JanusPeerConnection → JanusPeerConnection
  | video, id, peer => { peer with mVideoRoomHandleID := id }
  | text, id, peer => { peer with mTextRoomHandleID := id }

/-- The first message on a handle. -/
def opening : RoomKind → JanusPeerConnection → Body
  | video, peer => JanusPeerConnection.joinBody peer
  | text, _ => .setup

end RoomKind

/-- What an attach continuation of an administrative request does with the handle:
which field it sets, what it sends, and which outcome it waits for. -/
structure AdminStep where
  room : RoomKind
  body : JanusPeerConnection → Body
  outcome : PeerMember

def adminStep : PeerMember → Option AdminStep
  | .onAttachVideoRoomCreate =>
    some ⟨.video, fun peer => .create peer.mVideoRoomId, .onCreateVideoRoom⟩
  | .onAttachTextRoomCreate =>
    some ⟨.text, fun peer => .create peer.mTextRoomId, .onCreateTextRoom⟩
  | .onAttachVideoRoomDestory =>
    some ⟨.video, fun peer => .destroy peer.mVideoRoomId, .onDestoryVideoRoom⟩
  | .onAttachTextRoomDestory =>
    some ⟨.text, fun peer => .destroy peer.mTextRoomId, .onDestoryTextRoom⟩
  | _ => none

/-- The members that only read the outcome of an administrative request. -/
def PeerMember.isOutcome : PeerMember → Bool
  | .onCreateVideoRoom | .onCreateTextRoom | .onDestoryVideoRoom | .onDestoryTextRoom => true
  | _ => false

/-- What the `janus` field of a reply says. -/
def ReplyKind.tag : ReplyKind → String
  | success => "success"
  | ack => "ack"

/-- The continuation map of a kind of replies. -/
def JanusVideoRoomManager.callbacks (janus : JanusVideoRoomManager) :
    ReplyKind → AList (fun _ : String => Continuation)
  | .success => janus.mMessage_success_callback
  | .ack => janus.mMessage_ack_callback

namespace Client

section
variable (env : Env) (s : Client)

/-- Send a message under a random transaction. -/
def speak (sender : Option Ptr) (session : Option Int) (request : Request) : Client :=
  { s with
    draws := s.draws + 1
    log := s.log ++
      [.sent sender { transaction := env.random s.draws, session_id := session, request }] }

/-- Send a message and register a continuation for its reply. -/
def ask (sender : Option Ptr) (session : Option Int) (request : Request) (kind : ReplyKind)
    (func : Continuation) : Client :=
  let t := env.random s.draws
  let spoken := s.speak env sender session request
  match kind with
  | .success => JanusVideoRoomManager.AddMessageSuccessCallback spoken t func
  | .ack => JanusVideoRoomManager.AddMessageAckCallback spoken t func

/-- Take the continuation of a transaction out of its map. -/
def take (kind : ReplyKind) (t : String) (func : Continuation) (object : Json) : Client :=
  match kind with
  | .success => JanusVideoRoomManager.takeSuccess s t func object
  | .ack => JanusVideoRoomManager.takeAck s t func object

/-- The continuation that waits for a reply of this kind to this transaction. -/
def pending : ReplyKind × String → Option Continuation :=
  fun key => (s.janus.callbacks key.1).lookup key.2

/-- Put a peer at the end of a list. -/
def enlist (room : RoomKind) (p : Ptr) : Client :=
  match room with
  | .video =>
    { s with janus := { s.janus with mVideoRoomPeerList := s.janus.mVideoRoomPeerList ++ [p] } }
  | .text =>
    { s with janus := { s.janus with mTextRoomPeerList := s.janus.mTextRoomPeerList ++ [p] } }

/-- Construct a peer, list it and ask for its handle. -/
def attachNew (room : RoomKind) (peer : JanusPeerConnection) : Client :=
  ((construct s peer).enlist room s.constructed).ask env (some s.constructed)
    (some (castDouble peer.mSessionID)) (.attach room.plugin) .success
    (.peer s.constructed room.joined)

/-- Make a peer the administrative one of a kind of rooms. -/
def appoint (room : RoomKind) (p : Ptr) : Client :=
  match room with
  | .video => { s with janus := { s.janus with pCreateVideoRoomPeer := some p } }
  | .text => { s with janus := { s.janus with pCreateTextRoomPeer := some p } }

/-- The administrative peer of a kind of rooms. -/
def admin (room : RoomKind) : Option Ptr :=
  match room with
  | .video => s.janus.pCreateVideoRoomPeer
  | .text => s.janus.pCreateTextRoomPeer

/-- The peer list of a kind of rooms. -/
def listed (room : RoomKind) : List Ptr :=
  match room with
  | .video => s.janus.mVideoRoomPeerList
  | .text => s.janus.mTextRoomPeerList

end

/-! ## What is read from the manager -/

section
variable {s s' : Client}

theorem listed_of_janus (janus : s'.janus = s.janus) (room : RoomKind) :
    s'.listed room = s.listed room := by
  cases room <;> simp [listed, janus]

theorem admin_of_janus (janus : s'.janus = s.janus) (room : RoomKind) :
    s'.admin room = s.admin room := by
  cases room <;> simp [admin, janus]

theorem pending_of_janus (janus : s'.janus = s.janus) : s'.pending = s.pending := by
  unfold pending
  rw [janus]

end

/-! ## What the operations change -/

section Fields
variable {env : Env} {s : Client} {sender : Option Ptr} {session : Option Int} {request : Request}
  {kind : ReplyKind} {func : Continuation} {room : RoomKind} {p : Ptr} {t : String} {object : Json}
  {peer : JanusPeerConnection} {e : Effect}

@[simp] theorem speak_janus : (s.speak env sender session request).janus = s.janus := rfl
@[simp] theorem speak_pending :
    (s.speak env sender session request).pending = s.pending := rfl
@[simp] theorem speak_listed : (s.speak env sender session request).listed room = s.listed room := by
  cases room <;> rfl
@[simp] theorem speak_admin : (s.speak env sender session request).admin room = s.admin room := by
  cases room <;> rfl
@[simp] theorem speak_conference :
    (s.speak env sender session request).conference = s.conference := rfl
@[simp] theorem speak_peers : (s.speak env sender session request).peers = s.peers := rfl
@[simp] theorem speak_constructed :
    (s.speak env sender session request).constructed = s.constructed := rfl
@[simp] theorem speak_videoHeap :
    (s.speak env sender session request).videoHeap = s.videoHeap := rfl
@[simp] theorem speak_dataHeap : (s.speak env sender session request).dataHeap = s.dataHeap := rfl
@[simp] theorem speak_draws : (s.speak env sender session request).draws = s.draws + 1 := rfl
@[simp] theorem speak_fault : (s.speak env sender session request).fault = s.fault := rfl
theorem speak_log : (s.speak env sender session request).log = s.log ++
    [.sent sender { transaction := env.random s.draws, session_id := session, request }] := rfl

@[simp] theorem ask_conference :
    (s.ask env sender session request kind func).conference = s.conference := by
  cases kind <;> rfl
@[simp] theorem ask_peers : (s.ask env sender session request kind func).peers = s.peers := by
  cases kind <;> rfl
@[simp] theorem ask_constructed :
    (s.ask env sender session request kind func).constructed = s.constructed := by
  cases kind <;> rfl
@[simp] theorem ask_videoHeap :
    (s.ask env sender session request kind func).videoHeap = s.videoHeap := by
  cases kind <;> rfl
@[simp] theorem ask_dataHeap :
    (s.ask env sender session request kind func).dataHeap = s.dataHeap := by
  cases kind <;> rfl
@[simp] theorem ask_draws :
    (s.ask env sender session request kind func).draws = s.draws + 1 := by
  cases kind <;> rfl
@[simp] theorem ask_fault : (s.ask env sender session request kind func).fault = s.fault := by
  cases kind <;> rfl
@[simp] theorem ask_listed (room' : RoomKind) :
    (s.ask env sender session request kind func).listed room' = s.listed room' := by
  cases kind <;> cases room' <;> rfl
@[simp] theorem ask_admin (room' : RoomKind) :
    (s.ask env sender session request kind func).admin room' = s.admin room' := by
  cases kind <;> cases room' <;> rfl
theorem ask_log : (s.ask env sender session request kind func).log = s.log ++
    [.sent sender { transaction := env.random s.draws, session_id := session, request },
      .registered kind (env.random s.draws) func] := by
  cases kind <;> simp [ask, speak, JanusVideoRoomManager.AddMessageSuccessCallback,
    JanusVideoRoomManager.AddMessageAckCallback]
theorem ask_pending :
    (s.ask env sender session request kind func).pending =
      Function.update s.pending (kind, env.random s.draws) (some func) := by
  funext ⟨kind', t⟩
  rcases eq_or_ne kind' kind with rfl | other
  · rcases eq_or_ne t (env.random s.draws) with rfl | another
    · cases kind' <;> rw [Function.update_self] <;> exact AList.lookup_insert _
    · rw [Function.update_of_ne (by simp [another])]
      cases kind' <;> exact AList.lookup_insert_ne another
  · rw [Function.update_of_ne (by simp [other])]
    cases kind <;> cases kind' <;> first | rfl | exact absurd rfl other
@[simp] theorem ask_settings :
    (s.ask env sender session request kind func).janus.mVideoRoomID = s.janus.mVideoRoomID ∧
      (s.ask env sender session request kind func).janus.mSessionId = s.janus.mSessionId ∧
      (s.ask env sender session request kind func).janus.mPrivatedId = s.janus.mPrivatedId := by
  cases kind <;> exact ⟨rfl, rfl, rfl⟩

@[simp] theorem take_conference : (s.take kind t func object).conference = s.conference := by
  cases kind <;> rfl
@[simp] theorem take_peers : (s.take kind t func object).peers = s.peers := by cases kind <;> rfl
@[simp] theorem take_constructed : (s.take kind t func object).constructed = s.constructed := by
  cases kind <;> rfl
@[simp] theorem take_videoHeap : (s.take kind t func object).videoHeap = s.videoHeap := by
  cases kind <;> rfl
@[simp] theorem take_dataHeap : (s.take kind t func object).dataHeap = s.dataHeap := by
  cases kind <;> rfl
@[simp] theorem take_draws : (s.take kind t func object).draws = s.draws := by cases kind <;> rfl
@[simp] theorem take_fault : (s.take kind t func object).fault = s.fault := by cases kind <;> rfl
@[simp] theorem take_listed (room : RoomKind) :
    (s.take kind t func object).listed room = s.listed room := by
  cases kind <;> cases room <;> rfl
@[simp] theorem take_admin (room : RoomKind) :
    (s.take kind t func object).admin room = s.admin room := by
  cases kind <;> cases room <;> rfl
theorem take_log :
    (s.take kind t func object).log = s.log ++ [.invoked kind t func object] := by
  cases kind <;> rfl
theorem take_pending :
    (s.take kind t func object).pending = Function.update s.pending (kind, t) none := by
  funext ⟨kind', t'⟩
  rcases eq_or_ne kind' kind with rfl | other
  · rcases eq_or_ne t' t with rfl | another
    · cases kind' <;> rw [Function.update_self] <;> exact AList.lookup_erase _ _
    · rw [Function.update_of_ne (by simp [another])]
      cases kind' <;> exact AList.lookup_erase_ne another
  · rw [Function.update_of_ne (by simp [other])]
    cases kind <;> cases kind' <;> first | rfl | exact absurd rfl other
@[simp] theorem take_settings :
    (s.take kind t func object).janus.mVideoRoomID = s.janus.mVideoRoomID ∧
      (s.take kind t func object).janus.mSessionId = s.janus.mSessionId ∧
      (s.take kind t func object).janus.mPrivatedId = s.janus.mPrivatedId := by
  cases kind <;> exact ⟨rfl, rfl, rfl⟩

@[simp] theorem enlist_conference : (s.enlist room p).conference = s.conference := by
  cases room <;> rfl
@[simp] theorem enlist_peers : (s.enlist room p).peers = s.peers := by cases room <;> rfl
@[simp] theorem enlist_constructed : (s.enlist room p).constructed = s.constructed := by
  cases room <;> rfl
@[simp] theorem enlist_videoHeap : (s.enlist room p).videoHeap = s.videoHeap := by
  cases room <;> rfl
@[simp] theorem enlist_dataHeap : (s.enlist room p).dataHeap = s.dataHeap := by cases room <;> rfl
@[simp] theorem enlist_draws : (s.enlist room p).draws = s.draws := by cases room <;> rfl
@[simp] theorem enlist_log : (s.enlist room p).log = s.log := by cases room <;> rfl
@[simp] theorem enlist_fault : (s.enlist room p).fault = s.fault := by cases room <;> rfl
@[simp] theorem enlist_pending : (s.enlist room p).pending = s.pending := by
  funext ⟨kind, t⟩
  cases room <;> cases kind <;> rfl
@[simp] theorem enlist_admin (room' : RoomKind) : (s.enlist room p).admin room' = s.admin room' := by
  cases room <;> cases room' <;> rfl
@[simp] theorem appoint_peers : (s.appoint room p).peers = s.peers := by cases room <;> rfl
@[simp] theorem appoint_constructed : (s.appoint room p).constructed = s.constructed := by
  cases room <;> rfl
@[simp] theorem appoint_draws : (s.appoint room p).draws = s.draws := by cases room <;> rfl
@[simp] theorem appoint_log : (s.appoint room p).log = s.log := by cases room <;> rfl
@[simp] theorem appoint_fault : (s.appoint room p).fault = s.fault := by cases room <;> rfl
@[simp] theorem appoint_conference : (s.appoint room p).conference = s.conference := by
  cases room <;> rfl
@[simp] theorem appoint_videoHeap : (s.appoint room p).videoHeap = s.videoHeap := by
  cases room <;> rfl
@[simp] theorem appoint_dataHeap : (s.appoint room p).dataHeap = s.dataHeap := by cases room <;> rfl
@[simp] theorem appoint_pending : (s.appoint room p).pending = s.pending := by
  funext ⟨kind, t⟩
  cases room <;> cases kind <;> rfl
@[simp] theorem appoint_listed (room' : RoomKind) :
    (s.appoint room p).listed room' = s.listed room' := by
  cases room <;> cases room' <;> rfl
theorem appoint_admin (room' : RoomKind) :
    (s.appoint room p).admin room' = if room' = room then some p else s.admin room' := by
  cases room <;> cases room' <;> rfl

@[simp] theorem construct_pending : (construct s peer).pending = s.pending := rfl
@[simp] theorem construct_log : (construct s peer).log = s.log := rfl
@[simp] theorem construct_draws : (construct s peer).draws = s.draws := rfl
@[simp] theorem construct_fault : (construct s peer).fault = s.fault := rfl
@[simp] theorem construct_conference : (construct s peer).conference = s.conference := rfl
@[simp] theorem construct_videoHeap : (construct s peer).videoHeap = s.videoHeap := rfl
@[simp] theorem construct_dataHeap : (construct s peer).dataHeap = s.dataHeap := rfl
@[simp] theorem construct_constructed : (construct s peer).constructed = s.constructed + 1 := rfl
@[simp] theorem construct_peers :
    (construct s peer).peers = Function.update s.peers s.constructed (some peer) := rfl
@[simp] theorem construct_listed : (construct s peer).listed room = s.listed room := by
  cases room <;> rfl
@[simp] theorem construct_admin : (construct s peer).admin room = s.admin room := by
  cases room <;> rfl

@[simp] theorem setPeer_peers : (s.setPeer p peer).peers = Function.update s.peers p (some peer) :=
  rfl
@[simp] theorem setPeer_pending : (s.setPeer p peer).pending = s.pending := rfl
@[simp] theorem setPeer_log : (s.setPeer p peer).log = s.log := rfl
@[simp] theorem setPeer_draws : (s.setPeer p peer).draws = s.draws := rfl
@[simp] theorem setPeer_fault : (s.setPeer p peer).fault = s.fault := rfl
@[simp] theorem setPeer_conference : (s.setPeer p peer).conference = s.conference := rfl
@[simp] theorem setPeer_videoHeap : (s.setPeer p peer).videoHeap = s.videoHeap := rfl
@[simp] theorem setPeer_dataHeap : (s.setPeer p peer).dataHeap = s.dataHeap := rfl
@[simp] theorem setPeer_constructed : (s.setPeer p peer).constructed = s.constructed := rfl
@[simp] theorem setPeer_listed : (s.setPeer p peer).listed room = s.listed room := by
  cases room <;> rfl
@[simp] theorem setPeer_admin : (s.setPeer p peer).admin room = s.admin room := by
  cases room <;> rfl

theorem enlist_listed (room' : RoomKind) :
    (s.enlist room p).listed room' =
      if room' = room then s.listed room ++ [p] else s.listed room' := by
  cases room <;> cases room' <;> rfl

@[simp] theorem attachNew_peers : (s.attachNew env room peer).peers =
    Function.update s.peers s.constructed (some peer) := by
  simp [attachNew]
@[simp] theorem attachNew_constructed :
    (s.attachNew env room peer).constructed = s.constructed + 1 := by
  simp [attachNew]
@[simp] theorem attachNew_draws : (s.attachNew env room peer).draws = s.draws + 1 := by
  simp [attachNew]
@[simp] theorem attachNew_fault : (s.attachNew env room peer).fault = s.fault := by
  simp [attachNew]
@[simp] theorem attachNew_conference :
    (s.attachNew env room peer).conference = s.conference := by
  simp [attachNew]
@[simp] theorem attachNew_videoHeap : (s.attachNew env room peer).videoHeap = s.videoHeap := by
  simp [attachNew]
@[simp] theorem attachNew_dataHeap : (s.attachNew env room peer).dataHeap = s.dataHeap := by
  simp [attachNew]
@[simp] theorem attachNew_admin (room' : RoomKind) :
    (s.attachNew env room peer).admin room' = s.admin room' := by
  simp [attachNew]
theorem attachNew_listed (room' : RoomKind) :
    (s.attachNew env room peer).listed room' =
      if room' = room then s.listed room ++ [s.constructed] else s.listed room' := by
  simp [attachNew, enlist_listed]
theorem attachNew_pending :
    (s.attachNew env room peer).pending =
      Function.update s.pending (.success, env.random s.draws)
        (some (.peer s.constructed room.joined)) := by
  simp [attachNew, ask_pending]
theorem attachNew_log : (s.attachNew env room peer).log = s.log ++
    [.sent (some s.constructed)
      { transaction := env.random s.draws
        session_id := some (castDouble peer.mSessionID)
        request := .attach room.plugin },
    .registered .success (env.random s.draws) (.peer s.constructed room.joined)] := by
  simp [attachNew, ask_log]

end Fields

end Client

/-! ## What the member functions come to -/

open Client

section Members
variable (env : Env) {s : Client} {p : Ptr} {x : JanusPeerConnection}

theorem Client.setPeer_self : (s.setPeer p x).peers p = some x := by
  simp

theorem Client.withPeer_live (alive : s.peers p = some x) (body : JanusPeerConnection → Client) :
    s.withPeer p body = body x := by
  simp [withPeer, alive]

theorem Client.withPeer_dead (dead : s.peers p = none) (body : JanusPeerConnection → Client) :
    s.withPeer p body = { s with fault := some (.deadPeer p) } := by
  simp [withPeer, dead]

namespace JanusPeerConnection

theorem requestAttach_live (alive : s.peers p = some x) (plugin : Plugin)
    (setRoom : JanusPeerConnection → JanusPeerConnection) (reply : PeerMember) :
    requestAttach env s p plugin setRoom reply =
      (s.setPeer p (setRoom x)).ask env (some p) (some (castDouble x.mSessionID)) (.attach plugin)
        .success (.peer p reply) := by
  rw [requestAttach, withPeer_live alive]
  rfl

theorem sendOnHandle_live (alive : s.peers p = some x) (handle : JanusPeerConnection → Int)
    (body : JanusPeerConnection → Body) (jsep : Option Jsep) :
    sendOnHandle env s p handle body jsep =
      s.speak env (some p) (some (castDouble x.mSessionID))
        (.message (castDouble (handle x)) (body x) jsep) := by
  rw [sendOnHandle, withPeer_live alive]
  rfl

theorem requestRoom_live (alive : s.peers p = some x) (handle : JanusPeerConnection → Int)
    (body : JanusPeerConnection → Body) (outcome : PeerMember) :
    requestRoom env s p handle body outcome =
      s.ask env (some p) (some (castDouble x.mSessionID))
        (.message (castDouble (handle x)) (body x) none) .success (.peer p outcome) := by
  rw [requestRoom, withPeer_live alive]
  simp [ask, speak, JanusVideoRoomManager.AddMessageSuccessCallback, drawn,
    JanusWebSocket.SendMessage, emit]

theorem SendCandidate_live (alive : s.peers p = some x) (c : iceCandidate) :
    ∃ candidate, SendCandidate env s p c =
      s.speak env (some p) (some (castDouble x.mSessionID))
        (.trickle (castDouble x.mVideoRoomHandleID) candidate) := by
  rw [SendCandidate, withPeer_live alive]
  exact ⟨_, rfl⟩

/-- An attach reply to a join: the handle is stored and the first message goes out. -/
theorem callMember_joined (room : RoomKind) (alive : s.peers p = some x) (object : Json) :
    callMember env s p object room.joined =
      let id := replyId object
      let joining := room.setHandle id x
      (s.setPeer p joining).speak env (some p) (some (castDouble x.mSessionID))
        (.message (castDouble id) (room.opening joining) none) := by
  cases room
  · rw [RoomKind.joined, callMember, onAttachVideoRoomJoin, withPeer_live alive, joinVideoRoom,
      sendOnHandle_live env setPeer_self]
    rfl
  · rw [RoomKind.joined, callMember, onAttachTextRoomJoin, withPeer_live alive, joinTextRoom,
      sendOnHandle_live env setPeer_self]
    rfl

/-- An attach reply to an administrative request: the request proper goes out. -/
theorem callMember_admin {member : PeerMember} {todo : AdminStep}
    (isAdmin : adminStep member = some todo) (alive : s.peers p = some x) (object : Json) :
    callMember env s p object member =
      let id := replyId object
      let holding := todo.room.setHandle id x
      (s.setPeer p holding).ask env (some p) (some (castDouble x.mSessionID))
        (.message (castDouble id) (todo.body holding) none) .success (.peer p todo.outcome) := by
  cases member <;> simp only [adminStep, reduceCtorEq, Option.some.injEq] at isAdmin <;>
    subst isAdmin
  · rw [callMember, onAttachVideoRoomCreate, withPeer_live alive, createVideoRoom,
      requestRoom_live env setPeer_self]
    rfl
  · rw [callMember, onAttachTextRoomCreate, withPeer_live alive, createTextRoom,
      requestRoom_live env setPeer_self]
    rfl
  · rw [callMember, onAttachVideoRoomDestory, withPeer_live alive, destoryVideoRoom,
      requestRoom_live env setPeer_self]
    rfl
  · rw [callMember, onAttachTextRoomDestory, withPeer_live alive, destoryTextRoom,
      requestRoom_live env setPeer_self]
    rfl

theorem callMember_dead (dead : s.peers p = none) (object : Json) (member : PeerMember) :
    callMember env s p object member = { s with fault := some (.deadPeer p) } := by
  cases member <;> exact withPeer_dead dead _

end JanusPeerConnection

namespace JanusVideoRoomManager
open JanusPeerConnection

theorem construct_self (peer : JanusPeerConnection) :
    (construct s peer).peers s.constructed = some peer := by
  simp [construct]

/-- A peer just listed asks for its handle. -/
theorem requestAttach_listed (peer : JanusPeerConnection) (room : RoomKind)
    (setRoom : JanusPeerConnection → JanusPeerConnection)
    (same : (setRoom peer).mSessionID = peer.mSessionID) :
    requestAttach env ((construct s peer).enlist room s.constructed) s.constructed room.plugin
      setRoom room.joined = s.attachNew env room (setRoom peer) := by
  rw [requestAttach_live env (x := peer) (by simp [construct_self]), attachNew, same]
  congr 1
  cases room <;> simp [construct, enlist, setPeer]

/-- What is written to the new peer before it is listed may as well be constructed. -/
theorem construct_setPeer (peer peer' : JanusPeerConnection) :
    (construct s peer).setPeer s.constructed peer' = construct s peer' := by
  simp [construct, setPeer]

theorem JoinVideoRoom_eq (roomId : Int32) (name : String) :
    JoinVideoRoom env s roomId name =
      ({ s with janus := { s.janus with mVideoRoomID := roomId } } : Client).attachNew env .video
        { newPeer env s with mVideoRoomDisplayName := name, mVideoRoomId := roomId.toUInt32 } := by
  rw [JoinVideoRoom, SetVideoRoomDisplayName, withPeer_live (construct_self _),
    construct_setPeer _ _]
  exact requestAttach_listed env _ .video ({ · with mVideoRoomId := roomId.toUInt32 }) rfl

theorem JoinTextRoom_eq (roomId : Int32) :
    JoinTextRoom env s roomId =
      s.attachNew env .text { newPeer env s with mTextRoomId := roomId.toUInt32 } :=
  requestAttach_listed env _ .text ({ · with mTextRoomId := roomId.toUInt32 }) rfl

/-- The peer that one round of the loop over the publishers makes. -/
def subscriber (s : Client) (id : Int) : JanusPeerConnection :=
  { newPeer env s with
    mSubscribeId := id
    mPrivateId := s.janus.mPrivatedId
    mVideoRoomId := s.janus.mVideoRoomID.toUInt32 }

theorem subscribe_eq (id : Int) :
    subscribe env s id = if 0 < id then s.attachNew env .video (subscriber env s id) else s := by
  rw [subscribe]
  split_ifs
  · simp [SetSubscribe, SetPrivateId, AttachVideoRoom, requestAttach, withPeer, construct, setPeer,
      attachNew, enlist, ask, speak, subscriber, newPeer, drawn, emit, JanusWebSocket.SendMessage,
      AddMessageSuccessCallback, RoomKind.plugin, RoomKind.joined]
  · rfl

end JanusVideoRoomManager

end Members


end WebrtcDemo
