import WebrtcDemo.Run.Feeds
import WebrtcDemo.Run.Peers
import WebrtcDemo.Run.Session

/-!
# The roster of the video room

Whom the client wants to see in the video room is a list that the inputs alone determine:
a call of `JoinVideoRoom` enters the user, a `joined` or `event` message enters the feeds it
lists and strikes out one that it unpublishes, leaving empties the list. The list of peers
refines this roster member by member, whatever else happens meanwhile: what a peer's join
will say is settled when the peer is listed.
-/

namespace WebrtcDemo

open JanusVideoRoomManager (construct newPeer subscriber)

/-- What the join of a peer will say; feed 0 is the user. -/
structure Member where
  feed : Int
  room : UInt32
  display : String
  private_id : Int
  deriving DecidableEq

def JanusPeerConnection.member (x : JanusPeerConnection) : Member where
  feed := x.mSubscribeId
  room := x.mVideoRoomId
  display := x.mVideoRoomDisplayName
  private_id := x.mPrivateId

/-- The room of the last call of `JoinVideoRoom`, and who is to be seen in it. -/
structure Roster where
  room : Int32 := 1234
  members : List Member := []

namespace Roster

def join (r : Roster) (room : Int32) (display : String) : Roster where
  room := room
  members := r.members ++ [{ feed := 0, room := room.toUInt32, display, private_id := 0 }]

/-- The member for a feed that an event lists. -/
def subscriber (r : Roster) (object : Json) (feed : Int) : Member where
  feed := feed
  room := r.room.toUInt32
  display := "cc"
  private_id := JsonValueToLongLong object "private_id"

/-- Enter the feeds that an event lists, and strike out the first member of the feed it
unpublishes. -/
def publish (r : Roster) (object : Json) : Roster :=
  let entered := r.members ++ (newFeeds object).map (r.subscriber object)
  { r with
    members :=
      if unpublishedFeed object = 0 then entered
      else entered.eraseP (·.feed == unpublishedFeed object) }

/-- Handle one event. -/
def step (r : Roster) (i : Input) : Roster :=
  match i with
  | .joinVideoRoom room display => r.join room display
  | .leaveVideoRoom => { r with members := [] }
  | i =>
    match i.publication? with
    | some object => r.publish object
    | none => r

end Roster

/-- What the peer `p` is in the video room for, if it lives. -/
def Client.member? (s : Client) (p : Ptr) : Option Member := (s.peers p).map (·.member)

/-- The video list shows the roster, and every peer of it lives. -/
structure Enrolled (s : Client) (r : Roster) : Prop where
  room : s.janus.mVideoRoomID = r.room
  members : (s.listed .video).map s.member? = r.members.map some

section
variable {env : Env} {i : Input} {s s' s'' : Client} {p : Ptr} {r : Roster} {object : Json}

/-! ## The name of a peer -/

/-- Whoever `p` is now, it bears this name. -/
structure Client.Bears (p : Ptr) (display : String) (s : Client) : Prop where
  older : p < s.constructed
  bears : ∀ y, s.peers p = some y → y.mVideoRoomDisplayName = display

namespace Client.Bears

variable {display : String}

theorem same (bears : s.Bears p display) (constructed : s.constructed ≤ s'.constructed)
    (peers : s'.peers p = s.peers p ∨ s'.peers p = none) : s'.Bears p display where
  older := bears.older.trans_le constructed
  bears y alive := by
    rcases peers with same | gone
    · exact bears.bears y (same ▸ alive)
    · simp [gone] at alive

/-- Another peer was made. -/
theorem made (bears : s.Bears p display) {w : JanusPeerConnection}
    (constructed : s'.constructed = s.constructed + 1)
    (peers : s'.peers = Function.update s.peers s.constructed (some w)) : s'.Bears p display := by
  refine bears.same (by omega) (Or.inl ?_)
  rw [peers, Function.update_of_ne bears.older.ne]

/-- The fields of a peer were written, but not its name. -/
theorem written (bears : s.Bears p display) {q : Ptr} {z w : JanusPeerConnection}
    (alive : s.peers q = some z) (name : w.mVideoRoomDisplayName = z.mVideoRoomDisplayName)
    (constructed : s'.constructed = s.constructed)
    (peers : s'.peers = Function.update s.peers q (some w)) : s'.Bears p display := by
  rcases eq_or_ne p q with rfl | other
  · refine ⟨bears.older.trans_le constructed.ge, fun y lives => ?_⟩
    rw [peers, Function.update_self, Option.some.injEq] at lives
    rw [← lives, name, bears.bears z alive]
  · exact bears.same constructed.ge (Or.inl (by rw [peers, Function.update_of_ne other]))

theorem transition (bears : s.Bears p display) (owned : Owned s)
    (taken : Transition env i s s') : s'.Bears p display := by
  cases taken with
  | quiet same => exact bears.same same.constructed.ge (Or.inl (by rw [same.peers]))
  | drawn => exact bears.same le_rfl (Or.inl rfl)
  | settings => exact bears.same le_rfl (Or.inl rfl)
  | manage => exact bears.same (by simp) (Or.inl (by simp))
  | attach room peer => exact bears.made (w := peer) (by simp) (by simp)
  | appoint room peer => exact bears.made (w := peer) (by simp) (by simp)
  | @administer _ z room roomId _ _ _ alive =>
    exact bears.written (w := room.setRoom roomId.toUInt32 z) alive (by cases room <;> rfl) (by simp) (by simp)
  | lost => exact bears.same le_rfl (Or.inl rfl)
  | unlist => exact bears.same le_rfl (Or.inl rfl)
  | leave room =>
    refine bears.same (by simp) ?_
    rw [owned.leave_peers]
    by_cases listed : p ∈ s.listed room
    · exact Or.inr (if_pos listed)
    · exact Or.inl (if_neg listed)
  | speak => exact bears.same le_rfl (Or.inl rfl)

theorem reply (bears : s.Bears p display) (answered : Reply env i s s') : s'.Bears p display := by
  have taken (kind t func object) : (s.take kind t func object).Bears p display :=
    bears.same (by simp) (Or.inl (by simp))
  cases answered with
  | session => exact (taken _ _ _ _).same le_rfl (Or.inl rfl)
  | heartBeat => exact (taken _ _ _ _).same le_rfl (Or.inl rfl)
  | dead => exact (taken _ _ _ _).same le_rfl (Or.inl rfl)
  | @joined _ _ _ object z room answer alive =>
    exact bears.written (w := room.setHandle (JanusPeerConnection.replyId object) z) alive
      (by cases room <;> rfl) (by simp) (by simp)
  | @admin _ _ _ _ object z todo _ answer alive =>
    exact bears.written (w := todo.room.setHandle (JanusPeerConnection.replyId object) z) alive
      (by cases todo.room <;> rfl) (by simp) (by simp)
  | outcome _ _ _ same =>
    exact (taken _ _ _ _).same same.constructed.ge (Or.inl (by rw [same.peers]))

end Client.Bears

/-! ## What leaves the roster alone -/

variable (env i) in
/-- A listed peer that is not left stays in the room for what it was. -/
theorem step_member (owned : Owned s) (listed : p ∈ s.listed .video)
    (stays : i.leaves? ≠ some .video) : (step env s i).member? p = s.member? p := by
  have held := Client.listed_holders listed
  obtain ⟨x, alive⟩ := Option.isSome_iff_exists.1 (owned.live p held)
  have unlisted : ∀ room, i.leaves? = some room → p ∉ s.listed room := by
    intro room leaves
    cases room with
    | video => exact absurd leaves stays
    | text =>
      have once := owned.once
      grind [Client.holders]
  have follows := step_follows env i owned alive unlisted
  have bears : Owned (step env s i) ∧ (step env s i).Bears p x.mVideoRoomDisplayName :=
    (step_decomposes env).keeps (P := fun t : Client => Owned t ∧ t.Bears p x.mVideoRoomDisplayName)
      (fun _ _ answered kept => ⟨kept.1.reply answered, kept.2.reply answered⟩)
      (fun _ _ taken kept => ⟨kept.1.transition taken, kept.2.transition kept.1 taken⟩)
      ⟨owned, owned.older held, fun y lives => by rw [Option.some.inj (alive.symm.trans lives)]⟩
  obtain ⟨y, lives, -, feed, key, room⟩ := follows.alive
  have room : y.mVideoRoomId = x.mVideoRoomId := by
    refine room.resolve_right ?_
    rintro ⟨admin, -⟩
    exact owned.admin_unlisted admin .video listed
  rw [Client.member?, Client.member?, lives, alive, Option.map_some, Option.map_some,
    JanusPeerConnection.member, JanusPeerConnection.member, feed, key, room,
    bears.2.bears y lives]

/-- The room and the list are as they were. -/
def Client.SameDesk (s s' : Client) : Prop :=
  s'.janus.mVideoRoomID = s.janus.mVideoRoomID ∧ s'.listed .video = s.listed .video

theorem Client.SameDesk.trans (first : s.SameDesk s') (second : s'.SameDesk s'') :
    s.SameDesk s'' :=
  ⟨second.1.trans first.1, second.2.trans first.2⟩

theorem sameDesk_of_janus (janus : s'.janus = s.janus) : s.SameDesk s' :=
  ⟨by rw [janus], Client.listed_of_janus janus .video⟩

theorem Client.leave_number (s : Client) (room : RoomKind) :
    (s.leave room).janus.mVideoRoomID = s.janus.mVideoRoomID := by
  obtain ⟨peers, fault, left⟩ := s.leave_shape room
  cases room <;> rw [left]

theorem Reply.desk (answered : Reply env i s s') : s.SameDesk s' := by
  refine ⟨?_, answered.same_peers.2 .video⟩
  cases answered with
  | @session kind => cases kind <;> rfl
  | @heartBeat kind => cases kind <;> rfl
  | @dead kind => cases kind <;> rfl
  | joined => exact Client.take_settings.1
  | admin => exact Client.ask_settings.1.trans Client.take_settings.1
  | outcome _ _ _ same => rw [same.janus, Client.take_settings.1]

theorem requestAttach_desk (plugin : Plugin) (setRoom : JanusPeerConnection → JanusPeerConnection)
    (reply : PeerMember) :
    s.SameDesk (JanusPeerConnection.requestAttach env s p plugin setRoom reply) := by
  rcases alive : s.peers p with _ | x
  · rw [JanusPeerConnection.requestAttach, Client.withPeer_dead alive]
    exact ⟨rfl, rfl⟩
  · rw [JanusPeerConnection.requestAttach_live env alive]
    exact ⟨Client.ask_settings.1, by simp⟩

theorem administer_desk {room : RoomKind} {roomId : Int32} {member : PeerMember}
    (request : i.adminRequest? = some (room, roomId, member)) : s.SameDesk (step env s i) := by
  rw [step_administers request]
  rcases s.admin room with _ | p
  · refine Client.SameDesk.trans ⟨?_, by simp⟩ (requestAttach_desk _ _ _)
    cases room <;> rfl
  · exact requestAttach_desk _ _ _

variable (env) in
/-- Only joining, leaving and publications change the room or the list. -/
theorem step_desk (sound : Sound s) (other : i.publication? = none)
    (stays : i.leaves? ≠ some .video) (joins : ∀ room name, i ≠ .joinVideoRoom room name) :
    s.SameDesk (step env s i) := by
  cases i with
  | socketConnected => exact ⟨rfl, rfl⟩
  | heartBeatMessage => exact ⟨rfl, rfl⟩
  | receivedMessage message =>
    by_cases event : ∃ object, (Input.receivedMessage message).Reports object
    · obtain ⟨object, event⟩ := event
      exact sameDesk_of_janus (step_untagged event other).janus
    · rcases received_cases env s message with
        ⟨kind, t, func, object, answer, ran⟩ | ⟨-, ignored⟩ | reported
      · rw [ran]
        have answered : Reply env (.receivedMessage message) s _ := answer.reply
        exact answered.desk
      · rw [ignored]
        exact ⟨rfl, rfl⟩
      · exact absurd reported event
  | setVideoWindows => exact ⟨rfl, rfl⟩
  | joinVideoRoom room name => exact absurd rfl (joins room name)
  | leaveVideoRoom => exact absurd rfl stays
  | joinDataChannelRoom roomId name =>
    rw [step, WebRTCInterface.JoinDataChannelRoom, JanusVideoRoomManager.JoinTextRoom_eq]
    exact ⟨Client.ask_settings.1, by simp [Client.attachNew_listed]; rfl⟩
  | leaveTextRoom =>
    exact ⟨s.leave_number .text, (Client.leave_listed .video : (s.leave .text).listed .video = _)⟩
  | createVideoRoom => exact administer_desk rfl
  | createTextRoom => exact administer_desk rfl
  | destoryVideoRoom => exact administer_desk rfl
  | destoryTextRoom => exact administer_desk rfl
  | sendMessage message =>
    exact sameDesk_of_janus (SendMessage_quiet .socketConnected message).janus
  | localSDP id sdp type => exact sameDesk_of_janus (onLocalSDP_reported env sound id sdp type).janus
  | localIceCandidate id c => exact sameDesk_of_janus (onLocalIceCandidate_reported env sound id c).janus
  | iceGatheringComplete id =>
    exact sameDesk_of_janus (onLocalIceCandidate_reported env sound id _).janus
  | dataChannelOpen stream =>
    rcases OnStateChange_quiet .socketConnected stream with same | same
    · exact sameDesk_of_janus same.janus
    · exact sameDesk_of_janus same.janus

/-! ## The list refines the roster -/

theorem Enrolled.same (enrolled : Enrolled s r) (desk : s.SameDesk s')
    (members : ∀ p ∈ s.listed .video, s'.member? p = s.member? p) : Enrolled s' r where
  room := desk.1.trans enrolled.room
  members := by
    rw [desk.2, List.map_congr_left members, enrolled.members]

variable (env) in
theorem Enrolled.join (enrolled : Enrolled s r) (owned : Owned s) (room : Int32)
    (display : String) :
    Enrolled (JanusVideoRoomManager.JoinVideoRoom env s room display) (r.join room display) := by
  rw [JanusVideoRoomManager.JoinVideoRoom_eq]
  refine ⟨Client.ask_settings.1, ?_⟩
  have old : ∀ p ∈ s.listed .video,
      ((({ s with janus := { s.janus with mVideoRoomID := room } } : Client).attachNew env .video
        { newPeer env s with
          mVideoRoomDisplayName := display
          mVideoRoomId := room.toUInt32 }).member? p) = s.member? p := by
    intro p listed
    have older := owned.older (Client.listed_holders listed)
    rw [Client.member?, Client.attachNew_peers, Function.update_of_ne (Nat.ne_of_lt older),
      Client.member?]
  rw [Client.attachNew_listed, if_pos rfl, List.map_append]
  show (s.listed .video).map _ ++ _ = _
  rw [List.map_congr_left old, enrolled.members, Roster.join, List.map_append, List.map_singleton,
    Client.member?, Client.attachNew_peers, Function.update_self]
  rfl

/-- Striking out the first peer of a feed strikes out the first member. -/
theorem map_eraseP_member (list : List Ptr) (u : Int) :
    (list.eraseP fun p => (s.peers p).any fun peer => peer.mSubscribeId == u).map s.member? =
      (list.map s.member?).eraseP (·.any (·.feed == u)) := by
  rw [List.eraseP_map]
  congr 2
  funext p
  rcases alive : s.peers p with _ | x
  · simp [Client.member?, alive]
  · simp [Client.member?, alive, JanusPeerConnection.member]

theorem eraseP_some (list : List Member) (u : Int) :
    (list.map some).eraseP (·.any (·.feed == u)) = (list.eraseP (·.feed == u)).map some := by
  rw [List.eraseP_map]
  rfl

variable (env) in
theorem Enrolled.publish (enrolled : Enrolled s r) (owned : Owned s)
    (publishes : i.publication? = some object) : Enrolled (step env s i) (r.publish object) := by
  have event := Input.publication?_iff.1 publishes
  have subscribed : Subscribed env (s.keyed object) (newFeeds object) (step env s i) :=
    step_subscribed env s event
  refine ⟨subscribed.settings.1.trans enrolled.room, ?_⟩
  have old : (s.listed .video).map (step env s i).member? = r.members.map some := by
    rw [← enrolled.members]
    refine List.map_congr_left fun p listed => ?_
    have older := owned.older (Client.listed_holders listed)
    have same : (step env s i).peers p = s.peers p := subscribed.old p older
    rw [Client.member?, same, Client.member?]
  have new : ((List.range (newFeeds object).length).map (s.constructed + ·)).map
      (step env s i).member? = ((newFeeds object).map (r.subscriber object)).map some := by
    refine List.ext_getElem (by simp) fun k early early' => ?_
    have inside : k < (newFeeds object).length := by simpa using early
    have made := subscribed.new k inside
    simp only [List.getElem_map, List.getElem_range]
    show ((step env s i).peers ((s.keyed object).constructed + k)).map _ = _
    rw [made]
    have room : s.janus.mVideoRoomID = r.room := enrolled.room
    simp [JanusPeerConnection.member, subscriber, newPeer, Roster.subscriber, Client.keyed, room]
  have entered : (s.listed .video ++ (List.range (newFeeds object).length).map
      (s.constructed + ·)).map (step env s i).member? =
        (r.members ++ (newFeeds object).map (r.subscriber object)).map some := by
    rw [List.map_append, old, new, List.map_append]
  rw [step_listed env s event, Roster.publish]
  dsimp only
  split_ifs with nothing
  · exact entered
  · rw [map_eraseP_member, entered, eraseP_some]

variable (env i) in
/-- **One event of the client is one event of the roster.** -/
theorem Enrolled.step (enrolled : Enrolled s r) (owned : Owned s) (sound : Sound s) :
    Enrolled (WebrtcDemo.step env s i) (r.step i) := by
  by_cases joins : ∃ room display, i = .joinVideoRoom room display
  · obtain ⟨room, display, rfl⟩ := joins
    exact enrolled.join env owned room display
  by_cases leaves : i.leaves? = some .video
  · obtain ⟨t, same, stepped⟩ : ∃ t, Quiet i s t ∧ WebrtcDemo.step env s i = t.leave .video :=
      step_leaves leaves
    have left : r.step i = { r with members := [] } := by
      cases i <;> first | rfl | simp [Input.leaves?] at leaves
    rw [stepped, left]
    refine ⟨?_, by simp [Client.leave_listed]⟩
    rw [t.leave_number, same.janus]
    exact enrolled.room
  have joins : ∀ room display, i ≠ .joinVideoRoom room display := by simpa using joins
  rcases publishes : i.publication? with _ | object
  · have stays : r.step i = r := by
      unfold Roster.step
      split
      · exact absurd rfl (joins _ _)
      · exact absurd rfl leaves
      · rw [publishes]
    rw [stays]
    exact enrolled.same (step_desk env sound publishes leaves joins) fun p listed =>
      step_member env i owned listed leaves
  · have enters : r.step i = r.publish object := by
      unfold Roster.step
      split
      · exact absurd rfl (joins _ _)
      · exact absurd rfl leaves
      · rw [publishes]
    rw [enters]
    exact enrolled.publish env owned publishes

end

/-- **The video list refines the roster** in every run: who is in it, in which order, and
what their joins will say is settled by the calls and the publications alone. -/
theorem enrolled_after (env : Env) (is : List Input) :
    Enrolled (after env is) (Machine.run Roster.step {} is) := by
  have each (s : Client) (r : Roster) (i : Input) (kept : Owned s ∧ Sound s ∧ Enrolled s r)
      (_ : True) : Owned (step env s i) ∧ Sound (step env s i) ∧ Enrolled (step env s i) (r.step i) :=
    let ⟨owned, sound, enrolled⟩ := kept
    ⟨owned.step i, sound.step env i, enrolled.step env i owned sound⟩
  have kept := Machine.run_simulates some each (t := {})
    ⟨owned_initial, sound_initial env, ⟨rfl, rfl⟩⟩ (Machine.along_true is)
  rw [List.filterMap_some] at kept
  exact kept.2.2

end WebrtcDemo
