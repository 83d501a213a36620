import WebrtcDemo.Run.Besides
import WebrtcDemo.Run.Candidates
import WebrtcDemo.Run.Session
import WebrtcDemo.Run.Subscribers

/-!
# Handles that are not assigned

The constructor of a peer leaves its handles as they are. Two runs that differ in what was
there do the same as long as no search comes upon a peer whose handle is not assigned yet:
they are then alike but for such handles, in every state.
-/

namespace WebrtcDemo

open JanusVideoRoomManager (construct newPeer findPeer subscriber)

/-- The same surroundings with other contents in the handles of new peers. -/
def Env.withHandles (env : Env) (handles : RoomKind → Ptr → Int) : Env :=
  { env with
    junk := fun p => { env.junk p with
      mVideoRoomHandleID := handles .video p
      mTextRoomHandleID := handles .text p } }

/-- The handle of `p` for this kind of rooms is assigned: its attach request was answered. -/
def Client.Assigned (s : Client) (room : RoomKind) (p : Ptr) : Prop := ∃ h, (p, h) ∈ s.granted room

/-- Two peers that differ in handles only, and in none that is assigned. -/
structure Similar (assigned : RoomKind → Prop) (x y : JanusPeerConnection) : Prop where
  rest : ∃ video text, y = { x with mVideoRoomHandleID := video, mTextRoomHandleID := text }
  handles : ∀ room, assigned room → room.handle y = room.handle x

/-- Two clients that differ in handles only, and in none of those in `A`. -/
structure Alike (A : RoomKind → Ptr → Prop) (s t : Client) : Prop where
  rest : Besides t.peers s t
  live : ∀ p x, s.peers p = some x → ∃ y, t.peers p = some y ∧ Similar (A · p) x y
  dead : ∀ p, s.peers p = none → t.peers p = none

/-- Two predicates that agree on `P` find the same, if what each finds is in `P`. -/
theorem find?_agree {α : Type*} {f g : α → Bool} {P : α → Prop} {list : List α}
    (agree : ∀ a, P a → g a = f a) (left : ∀ a, list.find? f = some a → P a)
    (right : ∀ a, list.find? g = some a → P a) : list.find? g = list.find? f := by
  induction list with
  | nil => rfl
  | cons a list ih =>
    rcases here : f a with _ | _
    · rcases there : g a with _ | _
      · have skipped : (a :: list).find? f = list.find? f := List.find?_cons_of_neg (by simp [here])
        have skipped' : (a :: list).find? g = list.find? g := List.find?_cons_of_neg (by simp [there])
        rw [skipped] at left ⊢
        rw [skipped'] at right ⊢
        exact ih left right
      · have found := right a (List.find?_cons_of_pos there)
        exact absurd (here.symm.trans ((agree a found).symm.trans there)) (by decide)
    · have found := left a (List.find?_cons_of_pos here)
      rw [List.find?_cons_of_pos here, List.find?_cons_of_pos ((agree a found).trans here)]

/-! ## Peers -/

section
variable {assigned assigned' : RoomKind → Prop} {x y : JanusPeerConnection} {room : RoomKind}

theorem Similar.mono (similar : Similar assigned x y) (fewer : ∀ room, assigned' room → assigned room) :
    Similar assigned' x y :=
  ⟨similar.rest, fun room there => similar.handles room (fewer room there)⟩

/-- A handle that is written is assigned. -/
theorem Similar.setHandle (similar : Similar assigned x y) (room : RoomKind) (id : Int) :
    Similar (fun other => assigned other ∨ other = room) (room.setHandle id x)
      (room.setHandle id y) := by
  obtain ⟨⟨video, text, rfl⟩, handles⟩ := similar
  refine ⟨?_, fun other there => ?_⟩
  · cases room
    · exact ⟨id, text, rfl⟩
    · exact ⟨video, id, rfl⟩
  · rw [RoomKind.setHandle_handle, RoomKind.setHandle_handle]
    split_ifs with same
    · rfl
    · exact handles other (there.resolve_right same)

theorem Similar.setRoom (similar : Similar assigned x y) (room : RoomKind) (roomId : UInt32) :
    Similar assigned (room.setRoom roomId x) (room.setRoom roomId y) := by
  obtain ⟨⟨video, text, rfl⟩, handles⟩ := similar
  refine ⟨?_, fun other there => ?_⟩
  · cases room <;> exact ⟨video, text, rfl⟩
  · rw [RoomKind.setRoom_handle, RoomKind.setRoom_handle]
    exact handles other there

theorem Similar.session (similar : Similar assigned x y) : y.mSessionID = x.mSessionID := by
  obtain ⟨⟨video, text, rfl⟩, -⟩ := similar
  rfl

theorem Similar.feed (similar : Similar assigned x y) : y.mSubscribeId = x.mSubscribeId := by
  obtain ⟨⟨video, text, rfl⟩, -⟩ := similar
  rfl

theorem Similar.opening (similar : Similar assigned x y) : room.opening y = room.opening x := by
  obtain ⟨⟨video, text, rfl⟩, -⟩ := similar
  cases room <;> rfl

theorem Similar.adminBody (similar : Similar assigned x y) {member : PeerMember} {todo : AdminStep}
    (isAdmin : adminStep member = some todo) : todo.body y = todo.body x := by
  obtain ⟨⟨video, text, rfl⟩, -⟩ := similar
  cases member <;> simp only [adminStep, reduceCtorEq, Option.some.injEq] at isAdmin <;>
    subst isAdmin <;> rfl

end

/-! ## Clients -/

namespace Alike

section
variable {env : Env} {handles : RoomKind → Ptr → Int} {A B : RoomKind → Ptr → Prop} {s t : Client}
  {p : Ptr} {room : RoomKind} {x y : JanusPeerConnection} {h : Int}

theorem refl (A : RoomKind → Ptr → Prop) (s : Client) : Alike A s s :=
  ⟨.refl s, fun _ x alive => ⟨x, alive, ⟨_, _, rfl⟩, fun _ _ => rfl⟩, fun _ gone => gone⟩

theorem mono (alike : Alike A s t)
    (fewer : ∀ room p, (s.peers p).isSome → B room p → A room p) : Alike B s t := by
  refine ⟨alike.rest, fun p x alive => ?_, alike.dead⟩
  obtain ⟨y, found, similar⟩ := alike.live p x alive
  exact ⟨y, found, similar.mono fun room => fewer room p (by rw [alive]; rfl)⟩

/-- What does not look at the peers leaves them alike. -/
theorem apart (alike : Alike A s t) {s' t' : Client} (same : s'.peers = s.peers)
    (rest : Besides t.peers s' t') : Alike A s' t' := by
  have right : t'.peers = t.peers := rest.peers_eq
  refine ⟨?_, ?_, ?_⟩
  · rw [right]
    exact rest
  · rw [same, right]
    exact alike.live
  · rw [same, right]
    exact alike.dead

/-- The streams are the same. -/
theorem sound (alike : Alike A s t) (sound : Sound s) : Sound t := by
  refine sound.same ?_
  rw [alike.rest]
  rfl

theorem setPeer (alike : Alike A s t) (similar : Similar (B · p) x y)
    (fewer : ∀ q ≠ p, ∀ room, B room q → A room q) : Alike B (s.setPeer p x) (t.setPeer p y) := by
  refine ⟨?_, fun q z alive => ?_, fun q gone => ?_⟩
  · rw [alike.rest]
    rfl
  · rw [Client.setPeer_peers] at alive ⊢
    rcases eq_or_ne q p with rfl | other
    · rw [Function.update_self] at alive ⊢
      obtain rfl := Option.some.inj alive
      exact ⟨y, rfl, similar⟩
    · rw [Function.update_of_ne other] at alive ⊢
      obtain ⟨w, found, similar⟩ := alike.live q z alive
      exact ⟨w, found, similar.mono (fewer q other)⟩
  · rw [Client.setPeer_peers] at gone ⊢
    rcases eq_or_ne q p with rfl | other
    · rw [Function.update_self] at gone
      exact absurd gone (Option.some_ne_none x)
    · rw [Function.update_of_ne other] at gone ⊢
      exact alike.dead q gone

theorem construct (alike : Alike A s t) (similar : Similar (A · s.constructed) x y) :
    Alike A (JanusVideoRoomManager.construct s x) (JanusVideoRoomManager.construct t y) := by
  have written : Alike A (s.setPeer s.constructed x) (t.setPeer s.constructed y) :=
    alike.setPeer similar fun _ _ _ there => there
  refine written.apart rfl ?_
  rw [JanusVideoRoomManager.construct, JanusVideoRoomManager.construct, alike.rest.constructed,
    alike.rest]
  rfl

theorem speak (alike : Alike A s t) (sender : Option Ptr) (session : Option Int)
    (request : Request) :
    Alike A (s.speak env sender session request)
      (t.speak (env.withHandles handles) sender session request) :=
  alike.apart rfl (alike.rest.speak _ _ _)

theorem ask (alike : Alike A s t) (sender : Option Ptr) (session : Option Int) (request : Request)
    (kind : ReplyKind) (func : Continuation) :
    Alike A (s.ask env sender session request kind func)
      (t.ask (env.withHandles handles) sender session request kind func) :=
  alike.apart Client.ask_peers (alike.rest.ask _ _ _ _ _)

theorem fail (alike : Alike A s t) (f : Fault) :
    Alike A { s with fault := some f } { t with fault := some f } :=
  alike.apart rfl (alike.rest.fail f)

theorem enlist (alike : Alike A s t) (room : RoomKind) (p : Ptr) :
    Alike A (s.enlist room p) (t.enlist room p) := by
  refine alike.apart Client.enlist_peers ?_
  rw [alike.rest]
  cases room <;> rfl

theorem appoint (alike : Alike A s t) (room : RoomKind) (p : Ptr) :
    Alike A (s.appoint room p) (t.appoint room p) := by
  refine alike.apart Client.appoint_peers ?_
  rw [alike.rest]
  cases room <;> rfl

/-- A new peer asks for a handle. -/
theorem attachNew (alike : Alike A s t) (room : RoomKind)
    (similar : Similar (A · s.constructed) x y) :
    Alike A (s.attachNew env room x) (t.attachNew (env.withHandles handles) room y) := by
  rw [Client.attachNew, Client.attachNew, alike.rest.constructed, similar.session]
  exact ((alike.construct similar).enlist room _).ask _ _ _ _ _

variable (env handles) in
/-- What is new differs in what the constructor leaves. -/
theorem newPeer (alike : Alike A s t) (fresh : ∀ room, ¬ A room s.constructed) :
    Similar (A · s.constructed) (JanusVideoRoomManager.newPeer env s)
      (JanusVideoRoomManager.newPeer (env.withHandles handles) t) := by
  refine ⟨⟨handles .video s.constructed, handles .text s.constructed, ?_⟩,
    fun room there => absurd there (fresh room)⟩
  rw [JanusVideoRoomManager.newPeer, JanusVideoRoomManager.newPeer, alike.rest.constructed,
    alike.rest.janus]
  rfl

/-! ## Searches -/

/-- Each run finds the same peer, where it finds one with its handle assigned only. -/
theorem searched (alike : Alike A s t)
    (left : ∀ p, findPeer s (s.listed room) room.handle h = some p → A room p)
    (right : ∀ p, findPeer t (t.listed room) room.handle h = some p → A room p) :
    findPeer t (t.listed room) room.handle h = findPeer s (s.listed room) room.handle h := by
  rw [alike.rest.listed] at right ⊢
  refine find?_agree (fun p there => ?_) left right
  rcases alive : s.peers p with _ | x
  · rw [alike.dead p alive]
  · obtain ⟨y, found, similar⟩ := alike.live p x alive
    rw [found, Option.any_some, Option.any_some, similar.handles room there]

/-- The feeds are the same. -/
theorem feed (alike : Alike A s t) (p : Ptr) (u : Int) :
    (t.peers p).any (fun peer => peer.mSubscribeId == u) =
      (s.peers p).any fun peer => peer.mSubscribeId == u := by
  rcases alive : s.peers p with _ | x
  · rw [alike.dead p alive]
  · obtain ⟨y, found, similar⟩ := alike.live p x alive
    rw [found, Option.any_some, Option.any_some, similar.feed]

/-! ## Requests of the user -/

theorem requestAttach (alike : Alike A s t) (plugin : Plugin) (room : RoomKind) (roomId : UInt32)
    (reply : PeerMember) :
    Alike A (JanusPeerConnection.requestAttach env s p plugin (room.setRoom roomId) reply)
      (JanusPeerConnection.requestAttach (env.withHandles handles) t p plugin (room.setRoom roomId)
        reply) := by
  rcases alive : s.peers p with _ | x
  · unfold JanusPeerConnection.requestAttach
    rw [Client.withPeer_dead alive, Client.withPeer_dead (alike.dead p alive)]
    exact alike.fail _
  · obtain ⟨y, found, similar⟩ := alike.live p x alive
    rw [JanusPeerConnection.requestAttach_live env alive,
      JanusPeerConnection.requestAttach_live _ found, similar.session]
    exact (alike.setPeer (similar.setRoom room roomId) fun _ _ _ there => there).ask _ _ _ _ _

theorem administers (alike : Alike A s t) (fresh : ∀ room, ¬ A room s.constructed) {i : Input}
    {roomId : Int32} {member : PeerMember} (request : i.adminRequest? = some (room, roomId, member)) :
    Alike A (WebrtcDemo.step env s i) (WebrtcDemo.step (env.withHandles handles) t i) := by
  have holds : t.admin room = s.admin room := Client.admin_of_janus alike.rest.janus room
  rw [step_administers request, step_administers request, holds]
  rcases s.admin room with _ | p
  · have new : Similar (A · s.constructed)
        (JanusVideoRoomManager.registerRoomCallbacks (JanusVideoRoomManager.newPeer env s))
        (JanusVideoRoomManager.registerRoomCallbacks
          (JanusVideoRoomManager.newPeer (env.withHandles handles) t)) := by
      obtain ⟨⟨video, text, same⟩, -⟩ := alike.newPeer env handles fresh
      rw [same]
      exact ⟨⟨video, text, rfl⟩, fun room there => absurd there (fresh room)⟩
    rw [alike.rest.constructed]
    exact ((alike.construct new).appoint room _).requestAttach _ _ _ _
  · exact alike.requestAttach _ _ _ _

theorem delete (alike : Alike A s t) (p : Ptr) :
    Alike A { s with peers := Function.update s.peers p none }
      { t with peers := Function.update t.peers p none } := by
  refine ⟨?_, fun q x alive => ?_, fun q gone => ?_⟩
  · rw [alike.rest]
    rfl
  · rcases eq_or_ne q p with rfl | other
    · simp at alive
    · dsimp only at alive ⊢
      rw [Function.update_of_ne other] at alive ⊢
      exact alike.live q x alive
  · rcases eq_or_ne q p with rfl | other
    · simp
    · dsimp only at gone ⊢
      rw [Function.update_of_ne other] at gone ⊢
      exact alike.dead q gone

theorem deletePeers (alike : Alike A s t) (list : List Ptr) :
    Alike A (JanusVideoRoomManager.deletePeers s list) (JanusVideoRoomManager.deletePeers t list) := by
  induction list generalizing s t with
  | nil => exact alike
  | cons p more ih =>
    rw [JanusVideoRoomManager.deletePeers, JanusVideoRoomManager.deletePeers]
    rcases alive : s.peers p with _ | x
    · rw [alike.dead p alive]
      exact alike.fail _
    · obtain ⟨y, found, -⟩ := alike.live p x alive
      rw [found]
      exact ih (alike.delete p)

theorem leave (alike : Alike A s t) (room : RoomKind) : Alike A (s.leave room) (t.leave room) := by
  cases room
  · have deleted := alike.deletePeers s.janus.mVideoRoomPeerList
    rw [Client.leave, Client.leave, JanusVideoRoomManager.LeaveVideoRoom,
      JanusVideoRoomManager.LeaveVideoRoom, alike.rest.janus]
    refine deleted.apart rfl ?_
    rw [deleted.rest]
    rfl
  · have deleted := alike.deletePeers s.janus.mTextRoomPeerList
    rw [Client.leave, Client.leave, JanusVideoRoomManager.LeaveTextRoom,
      JanusVideoRoomManager.LeaveTextRoom, alike.rest.janus]
    refine deleted.apart rfl ?_
    rw [deleted.rest]
    rfl

/-! ## Replies -/

variable {object : Json}

theorem roomOutcome (alike : Alike A s t) (key failureTag successTag : String)
    {requested : JanusPeerConnection → UInt32}
    {failed tested called : JanusPeerConnection → Option RoomCallback}
    (reads : ∀ (x : JanusPeerConnection) (video text : Int),
      let y := { x with mVideoRoomHandleID := video, mTextRoomHandleID := text }
      requested y = requested x ∧ failed y = failed x ∧ tested y = tested x ∧ called y = called x) :
    Alike A (JanusPeerConnection.roomOutcome s p object key failureTag successTag requested failed
        tested called)
      (JanusPeerConnection.roomOutcome t p object key failureTag successTag requested failed
        tested called) := by
  have callback : ∀ (c : Option RoomCallback) (roomId : UInt32),
      Alike A (JanusPeerConnection.callRoomCallback s c roomId)
        (JanusPeerConnection.callRoomCallback t c roomId) := by
    intro c roomId
    cases c <;> exact alike.apart rfl (alike.rest.emit _)
  rcases alive : s.peers p with _ | x
  · rw [JanusPeerConnection.roomOutcome, JanusPeerConnection.roomOutcome, Client.withPeer_dead alive,
      Client.withPeer_dead (alike.dead p alive)]
    exact alike.fail _
  · obtain ⟨y, found, ⟨video, text, rfl⟩, -⟩ := alike.live p x alive
    obtain ⟨one, two, three, four⟩ := reads x video text
    rw [JanusPeerConnection.roomOutcome, JanusPeerConnection.roomOutcome, Client.withPeer_live alive,
      Client.withPeer_live found]
    dsimp only
    rw [one, two, three, four]
    split_ifs
    all_goals first | exact callback _ _ | exact alike

theorem callMember_outcome (alike : Alike A s t) {member : PeerMember} (reads : member.isOutcome) :
    Alike A (JanusPeerConnection.callMember env s p object member)
      (JanusPeerConnection.callMember (env.withHandles handles) t p object member) := by
  cases member
  case onCreateVideoRoom => exact alike.roomOutcome _ _ _ fun _ _ _ => ⟨rfl, rfl, rfl, rfl⟩
  case onCreateTextRoom => exact alike.roomOutcome _ _ _ fun _ _ _ => ⟨rfl, rfl, rfl, rfl⟩
  case onDestoryVideoRoom => exact alike.roomOutcome _ _ _ fun _ _ _ => ⟨rfl, rfl, rfl, rfl⟩
  case onDestoryTextRoom => exact alike.roomOutcome _ _ _ fun _ _ _ => ⟨rfl, rfl, rfl, rfl⟩
  all_goals exact absurd reads (by decide)

/-- **A reply assigns the handle of the peer that it answers.** -/
theorem callContinuation (alike : Alike A s t) (func : Continuation) (object : Json) :
    Alike (fun room p => A room p ∨ func = .peer p room.joined)
      (JanusVideoRoomManager.callContinuation env s func object)
      (JanusVideoRoomManager.callContinuation (env.withHandles handles) t func object) := by
  cases func with
  | onCreateSessionId =>
    have stored : Alike A (JanusVideoRoomManager.onCreateSessionId s object)
        (JanusVideoRoomManager.onCreateSessionId t object) := by
      refine alike.apart rfl ?_
      rw [alike.rest]
      rfl
    exact stored.mono fun room q _ there => there.resolve_right (by simp)
  | onHeartBeat =>
    have reset : Alike A (s.emit .resetTimer) (t.emit .resetTimer) :=
      alike.apart rfl (alike.rest.emit _)
    exact reset.mono fun room q _ there => there.resolve_right (by simp)
  | peer p member =>
    rw [JanusVideoRoomManager.callContinuation, JanusVideoRoomManager.callContinuation]
    rcases alive : s.peers p with _ | x
    · rw [JanusPeerConnection.callMember_dead env alive,
        JanusPeerConnection.callMember_dead _ (alike.dead p alive)]
      refine (alike.fail _).mono fun room q live there => there.resolve_right ?_
      rintro same
      injection same with same
      rw [← same, show ({ s with fault := some (.deadPeer p) } : Client).peers p = none from alive]
        at live
      exact absurd live (by decide)
    · obtain ⟨y, found, similar⟩ := alike.live p x alive
      rcases member.cases_reply with ⟨room, rfl⟩ | ⟨todo, isAdmin⟩ | reads
      · rw [JanusPeerConnection.callMember_joined env room alive,
          JanusPeerConnection.callMember_joined _ room found]
        have assigned := similar.setHandle room (JanusPeerConnection.replyId object)
        dsimp only
        rw [similar.session, assigned.opening]
        refine (alike.setPeer (assigned.mono ?_) ?_).speak _ _ _
        · intro other there
          refine there.imp_right fun same => ?_
          cases room <;> cases other <;> first | rfl | simp [RoomKind.joined] at same
        · intro q other room' there
          refine there.resolve_right fun same => other ?_
          injection same with same
          exact same.symm
      · have other : ∀ room : RoomKind, member ≠ room.joined := by
          rintro room rfl
          cases room <;> simp [adminStep, RoomKind.joined] at isAdmin
        rw [JanusPeerConnection.callMember_admin env isAdmin alive,
          JanusPeerConnection.callMember_admin _ isAdmin found]
        have assigned := similar.setHandle todo.room (JanusPeerConnection.replyId object)
        dsimp only
        rw [similar.session, assigned.adminBody isAdmin]
        refine ((alike.setPeer (assigned.mono fun _ => Or.inl) fun _ _ _ there => there).ask
          _ _ _ _ _).mono fun room q _ there => there.resolve_right ?_
        intro same
        injection same with _ same
        exact other room same
      · have other : ∀ room : RoomKind, member ≠ room.joined := by
          rintro room rfl
          cases room <;> exact absurd reads (by decide)
        refine (alike.callMember_outcome reads).mono fun room q _ there => there.resolve_right ?_
        intro same
        injection same with _ same
        exact other room same

end

end Alike

/-! ## Descriptions and candidates -/

/-- The search finds nobody but in `A`. -/
def Client.Sought (s : Client) (A : RoomKind → Ptr → Prop) (room : RoomKind) (h : Int) : Prop :=
  ∀ p, findPeer s (s.listed room) room.handle h = some p → A room p

/-- Two clients that differ in no handle of `A`, and where each search of `Q` finds one of
`A` only. -/
structure Meets (A : RoomKind → Ptr → Prop) (Q : RoomKind → Int → Prop) (s t : Client) : Prop where
  alike : Alike A s t
  left : ∀ room h, Q room h → s.Sought A room h
  right : ∀ room h, Q room h → t.Sought A room h

namespace Meets

section
variable {env : Env} {handles : RoomKind → Ptr → Int} {A : RoomKind → Ptr → Prop}
  {Q : RoomKind → Int → Prop} {s t s' t' : Client} {p : Ptr} {room : RoomKind}
  {x y : JanusPeerConnection} {h : Int}

/-- What writes neither to the manager nor to a peer. -/
theorem keep (meets : Meets A Q s t) (alike : Alike A s' t')
    (left : s'.janus = s.janus ∧ s'.peers = s.peers)
    (right : t'.janus = t.janus ∧ t'.peers = t.peers) : Meets A Q s' t' := by
  refine ⟨alike, fun room h asked p found => ?_, fun room h asked p found => ?_⟩
  · rw [findPeer_congr (Client.listed_of_janus left.1 room) left.2] at found
    exact meets.left room h asked p found
  · rw [findPeer_congr (Client.listed_of_janus right.1 room) right.2] at found
    exact meets.right room h asked p found

variable (env handles) in
/-- Each sends the same, from the peer that both find. -/
theorem sendTo (meets : Meets A Q s t) (asked : Q room h) {send send' : Client → Ptr → Client}
    (request : JanusPeerConnection → Request)
    (sends : ∀ {a p x}, a.peers p = some x →
      send a p = a.speak env (some p) (some (castDouble x.mSessionID)) (request x))
    (sends' : ∀ {a p x}, a.peers p = some x → send' a p =
      a.speak (env.withHandles handles) (some p) (some (castDouble x.mSessionID)) (request x))
    (reads : ∀ {x y}, Similar (· = room) x y → request y = request x) :
    Meets A Q (s.sendTo room h send) (t.sendTo room h send') := by
  have same := meets.alike.searched (meets.left room h asked) (meets.right room h asked)
  rw [Client.sendTo, Client.sendTo, same]
  rcases found : findPeer s (s.listed room) room.handle h with _ | p
  · exact meets
  · obtain ⟨-, x, alive, -⟩ := findPeer_some found
    obtain ⟨y, alive', similar⟩ := meets.alike.live p x alive
    have there : A room p := meets.left room h asked p found
    have request' : request y = request x :=
      reads (similar.mono fun other same => by rw [same]; exact there)
    dsimp only
    rw [sends alive, sends' alive', similar.session, request']
    exact meets.keep (meets.alike.speak _ _ _) ⟨rfl, rfl⟩ ⟨rfl, rfl⟩

theorem SendSDP (meets : Meets A Q s t) (video : Q .video h) (text : Q .text h) (sdp type : String) :
    Meets A Q (JanusVideoRoomManager.SendSDP env s h sdp type)
      (JanusVideoRoomManager.SendSDP (env.withHandles handles) t h sdp type) := by
  rw [SendSDP_eq, SendSDP_eq]
  have sent : Meets A Q (s.sendTo .video h (JanusPeerConnection.SendSDP env · · sdp type))
      (t.sendTo .video h (JanusPeerConnection.SendSDP (env.withHandles handles) · · sdp type)) := by
    refine meets.sendTo env handles video
      (fun x => .message (castDouble x.mVideoRoomHandleID) (JanusPeerConnection.sdpBody x)
        (some { type, sdp }))
      (JanusPeerConnection.sendOnHandle_live _ · _ _ _)
      (JanusPeerConnection.sendOnHandle_live _ · _ _ _) fun similar => ?_
    have same := similar.handles .video rfl
    obtain ⟨⟨_, _, rfl⟩, -⟩ := similar
    exact congrArg (fun h => Request.message (castDouble h) _ _) same
  refine sent.sendTo env handles text
    (fun x => .message (castDouble x.mTextRoomHandleID) .ack (some { type, sdp }))
    (JanusPeerConnection.sendOnHandle_live _ · _ _ _)
    (JanusPeerConnection.sendOnHandle_live _ · _ _ _) fun similar => ?_
  exact congrArg (fun h => Request.message (castDouble h) _ _) (similar.handles .text rfl)

theorem SendCandidate (meets : Meets A Q s t) (video : Q .video h) (c : iceCandidate) :
    Meets A Q (JanusVideoRoomManager.SendCandidate env s h c)
      (JanusVideoRoomManager.SendCandidate (env.withHandles handles) t h c) := by
  rw [SendCandidate_eq, SendCandidate_eq]
  refine meets.sendTo env handles video
    (fun x => .trickle (castDouble x.mVideoRoomHandleID) c.message)
    (SendCandidate_message _ · c) (SendCandidate_message _ · c) fun similar => ?_
  exact congrArg (fun h => Request.trickle (castDouble h) _) (similar.handles .video rfl)

/-! ### Through the tables -/

theorem withVideo (meets : Meets A Q s t) (table : StreamTable) :
    Meets A Q (s.withVideo table) (t.withVideo table) :=
  meets.keep (meets.alike.apart rfl (meets.alike.rest.withVideo table)) ⟨rfl, rfl⟩ ⟨rfl, rfl⟩

theorem withData (meets : Meets A Q s t) (table : StreamTable) :
    Meets A Q (s.withData table) (t.withData table) :=
  meets.keep (meets.alike.apart rfl (meets.alike.rest.withData table)) ⟨rfl, rfl⟩ ⟨rfl, rfl⟩

theorem localVideo (meets : Meets A Q s t) (video : Q .video h) (text : Q .text h)
    (sdp type : String) :
    Meets A Q (ConferenceManager.localVideo env s h sdp type)
      (ConferenceManager.localVideo (env.withHandles handles) t h sdp type) := by
  unfold ConferenceManager.localVideo
  rw [meets.alike.rest.conference]
  rcases s.conference.mRemoteStreamInfos_VideoAudio.lookup h with _ | info
  · exact meets
  · dsimp only
    split_ifs
    · exact (meets.withVideo _).SendSDP video text sdp type
    · exact meets.withVideo _

theorem localData (meets : Meets A Q s t) (video : Q .video h) (text : Q .text h)
    (sdp type : String) :
    Meets A Q (ConferenceManager.localData env s h sdp type)
      (ConferenceManager.localData (env.withHandles handles) t h sdp type) := by
  unfold ConferenceManager.localData
  rw [meets.alike.rest.conference]
  rcases s.conference.mRemoteStreamInfos_DataChannels.lookup h with _ | info
  · exact meets
  · dsimp only
    split_ifs
    · exact (meets.withData _).SendSDP video text sdp type
    · exact meets.withData _

theorem candidateVideo (meets : Meets A Q s t) (sound : Sound s) (video : Q .video h)
    (c : iceCandidate) :
    Meets A Q (ConferenceManager.candidateVideo env s h c)
      (ConferenceManager.candidateVideo (env.withHandles handles) t h c) := by
  have sound' : Sound t := meets.alike.sound sound
  have same : t.conference = s.conference := meets.alike.rest.conference
  rcases found : s.conference.mRemoteStreamInfos_VideoAudio.lookup h with _ | info
  · rw [ConferenceManager.candidateVideo, ConferenceManager.candidateVideo, same, found]
    exact meets
  · rw [sound.candidateVideo found, sound'.candidateVideo (same ▸ found), same]
    exact (meets.withVideo _).SendCandidate video c

theorem candidateData (meets : Meets A Q s t) (sound : Sound s) (video : Q .video h)
    (c : iceCandidate) :
    Meets A Q (ConferenceManager.candidateData env s h c)
      (ConferenceManager.candidateData (env.withHandles handles) t h c) := by
  have sound' : Sound t := meets.alike.sound sound
  have same : t.conference = s.conference := meets.alike.rest.conference
  rcases found : s.conference.mRemoteStreamInfos_DataChannels.lookup h with _ | info
  · rw [ConferenceManager.candidateData, ConferenceManager.candidateData, same, found]
    exact meets
  · rw [sound.candidateData found, sound'.candidateData (same ▸ found), same]
    exact (meets.withData _).SendCandidate video c

end

end Meets

/-! ### The two events -/

theorem onLocalSDP_unknown (env : Env) {s : Client} {id : Int} (unknown : ¬ s.HasStream id)
    (sdp type : String) : ConferenceManager.onLocalSDP env s id sdp type = s := by
  have video : s.conference.mRemoteStreamInfos_VideoAudio.lookup id = none :=
    AList.lookup_eq_none.2 fun there => unknown (Or.inl there)
  have data : s.conference.mRemoteStreamInfos_DataChannels.lookup id = none :=
    AList.lookup_eq_none.2 fun there => unknown (Or.inr there)
  have first : ConferenceManager.localVideo env s id sdp type = s := by
    rw [ConferenceManager.localVideo, video]
  rw [ConferenceManager.onLocalSDP_eq, first, ConferenceManager.localData, data]

theorem onLocalIceCandidate_unknown (env : Env) {s : Client} {id : Int}
    (unknown : ¬ s.HasStream id) (c : iceCandidate) :
    ConferenceManager.onLocalIceCandidate env s id c = s := by
  have video : s.conference.mRemoteStreamInfos_VideoAudio.lookup id = none :=
    AList.lookup_eq_none.2 fun there => unknown (Or.inl there)
  have data : s.conference.mRemoteStreamInfos_DataChannels.lookup id = none :=
    AList.lookup_eq_none.2 fun there => unknown (Or.inr there)
  have first : ConferenceManager.candidateVideo env s id c = s := by
    rw [ConferenceManager.candidateVideo, video]
  rw [ConferenceManager.onLocalIceCandidate_eq, first, ConferenceManager.candidateData, data]

namespace Alike

section
variable {env : Env} {handles : RoomKind → Ptr → Int} {A : RoomKind → Ptr → Prop} {s t : Client}
  {id : Int}

theorem hasStream (alike : Alike A s t) : t.HasStream id ↔ s.HasStream id := by
  rw [Client.HasStream, alike.rest.conference, Client.HasStream]

/-- Both runs pass a description on in the same way. -/
theorem onLocalSDP (alike : Alike A s t) (sdp type : String)
    (left : s.HasStream id → ∀ room, s.Sought A room id)
    (right : s.HasStream id → ∀ room, t.Sought A room id) :
    Alike A (ConferenceManager.onLocalSDP env s id sdp type)
      (ConferenceManager.onLocalSDP (env.withHandles handles) t id sdp type) := by
  by_cases known : s.HasStream id
  · have meets : Meets A (fun _ h => h = id) s t := by
      refine ⟨alike, ?_, ?_⟩
      · rintro room _ rfl
        exact left known room
      · rintro room _ rfl
        exact right known room
    rw [ConferenceManager.onLocalSDP_eq, ConferenceManager.onLocalSDP_eq]
    exact ((meets.localVideo rfl rfl sdp type).localData rfl rfl sdp type).alike
  · rw [onLocalSDP_unknown env known,
      onLocalSDP_unknown _ (mt alike.hasStream.1 known)]
    exact alike

theorem onLocalIceCandidate (alike : Alike A s t) (sound : Sound s) (c : iceCandidate)
    (left : s.HasStream id → s.Sought A .video id)
    (right : s.HasStream id → t.Sought A .video id) :
    Alike A (ConferenceManager.onLocalIceCandidate env s id c)
      (ConferenceManager.onLocalIceCandidate (env.withHandles handles) t id c) := by
  by_cases known : s.HasStream id
  · have meets : Meets A (fun room h => room = .video ∧ h = id) s t := by
      refine ⟨alike, ?_, ?_⟩
      · rintro room h ⟨rfl, rfl⟩
        exact left known
      · rintro room h ⟨rfl, rfl⟩
        exact right known
    have staged : Relation.ReflTransGen (Staged .socketConnected s) s
      (ConferenceManager.candidateVideo env s id c) := candidateVideo_staged id c
    have sound' : Sound (ConferenceManager.candidateVideo env s id c) :=
      Machine.transitions_keep (fun _ _ piece before => piece.sound before) staged sound
    rw [ConferenceManager.onLocalIceCandidate_eq, ConferenceManager.onLocalIceCandidate_eq]
    exact ((meets.candidateVideo sound ⟨rfl, rfl⟩ c).candidateData sound' ⟨rfl, rfl⟩ c).alike
  · rw [onLocalIceCandidate_unknown env known,
      onLocalIceCandidate_unknown _ (mt alike.hasStream.1 known)]
    exact alike

/-! ## Events -/

variable {object : Json} {u : Int}

theorem attachFeeds (alike : Alike A s t) (below : ∀ room p, A room p → p < s.constructed)
    (ids : List Int) :
    Alike A (ids.foldl (attachFeed env) s) (ids.foldl (attachFeed (env.withHandles handles)) t) := by
  induction ids generalizing s t with
  | nil => exact alike
  | cons id more ih =>
    have fresh : ∀ room, ¬ A room s.constructed := fun room there => (below room _ there).false
    have similar : Similar (A · s.constructed) (subscriber env s id)
        (subscriber (env.withHandles handles) t id) := by
      obtain ⟨⟨video, text, same⟩, -⟩ := alike.newPeer env handles fresh
      rw [subscriber, subscriber, same, alike.rest.janus]
      exact ⟨⟨video, text, rfl⟩, fun room there => absurd there (fresh room)⟩
    refine ih (alike.attachNew .video similar) fun room p there => ?_
    rw [attachFeed, Client.attachNew_constructed]
    exact (below room p there).trans (Nat.lt_succ_self _)

variable (env handles) in
theorem onVideoRoomEventPublisher (alike : Alike A s t) (object : Json)
    (below : ∀ room p, A room p → p < s.constructed) :
    Alike A (JanusVideoRoomManager.onVideoRoomEventPublisher env s object)
      (JanusVideoRoomManager.onVideoRoomEventPublisher (env.withHandles handles) t object) := by
  have keyed : Alike A (s.keyed object) (t.keyed object) := by
    refine alike.apart rfl ?_
    rw [alike.rest]
    rfl
  rw [onVideoRoomEventPublisher_eq, onVideoRoomEventPublisher_eq]
  exact keyed.attachFeeds below _

theorem onVideoRoomEventSdp (alike : Alike A s t) (object : Json) (isTextRoom : Bool) :
    Alike A (JanusVideoRoomManager.onVideoRoomEventSdp s object isTextRoom)
      (JanusVideoRoomManager.onVideoRoomEventSdp t object isTextRoom) :=
  alike.apart ((Besides.refl s).onVideoRoomEventSdp object isTextRoom).peers_eq
    (alike.rest.onVideoRoomEventSdp object isTextRoom)

theorem OnConnectToPeer (alike : Alike A s t) (h : Int) (show_ isConnect isLocal : Bool) :
    Alike A (JanusVideoRoomManager.OnConnectToPeer s h show_ isConnect isLocal)
      (JanusVideoRoomManager.OnConnectToPeer t h show_ isConnect isLocal) :=
  alike.apart (((Besides.refl s).emit _).ConnectToPeer_VideoAudio _ _ _ _).peers_eq
    ((alike.rest.emit _).ConnectToPeer_VideoAudio _ _ _ _)

theorem OnRemoteStreamRemove (alike : Alike A s t) (h : Int) :
    Alike A (JanusVideoRoomManager.OnRemoteStreamRemove s h)
      (JanusVideoRoomManager.OnRemoteStreamRemove t h) :=
  alike.apart (((Besides.refl s).emit _).onRemoteStreamRemove h).peers_eq
    ((alike.rest.emit _).onRemoteStreamRemove h)

theorem removeFeed (alike : Alike A s t) (u : Int) : Alike A (s.removeFeed u) (t.removeFeed u) := by
  refine alike.apart rfl ?_
  rw [Client.removeFeed, Client.removeFeed, alike.rest.janus, funext fun p => alike.feed p u,
    alike.rest]
  rfl

/-- The peer subscribed to a feed is the same, and so is its handle if it is assigned. -/
theorem onVideoRoomEventUnpublish (alike : Alike A s t)
    (assigned : JsonValueToLongLong (JanusVideoRoomManager.dataObj object) "unpublished" ≠ 0 →
      ∀ p, findPeer s (s.listed .video) (·.mSubscribeId)
        (JsonValueToLongLong (JanusVideoRoomManager.dataObj object) "unpublished") = some p →
        A .video p) :
    Alike A (JanusVideoRoomManager.onVideoRoomEventUnpublish s object)
      (JanusVideoRoomManager.onVideoRoomEventUnpublish t object) := by
  unfold JanusVideoRoomManager.onVideoRoomEventUnpublish
  generalize JsonValueToLongLong (JanusVideoRoomManager.dataObj object) "unpublished" = u at assigned ⊢
  have search : findPeer t t.janus.mVideoRoomPeerList (·.mSubscribeId) u =
      findPeer s s.janus.mVideoRoomPeerList (·.mSubscribeId) u := by
    unfold findPeer
    rw [alike.rest.janus]
    exact congrArg (List.find? · _) (funext fun p => alike.feed p u)
  dsimp only
  rw [search]
  split_ifs with nonzero
  · rcases found : findPeer s s.janus.mVideoRoomPeerList (·.mSubscribeId) u
      with _ | p
    · exact alike
    · obtain ⟨-, x, alive, -⟩ := findPeer_some found
      obtain ⟨y, alive', similar⟩ := alike.live p x alive
      have handle : (t.peers p).elim 0 (·.mVideoRoomHandleID) =
          (s.peers p).elim 0 (·.mVideoRoomHandleID) := by
        rw [alive, alive', Option.elim_some, Option.elim_some]
        exact similar.handles .video (assigned nonzero p found)
      have removed := (alike.OnRemoteStreamRemove
        ((s.peers p).elim 0 (·.mVideoRoomHandleID))).removeFeed u
      rw [Client.removeFeed, Client.removeFeed, if_neg nonzero, if_neg nonzero] at removed
      dsimp only
      rw [handle]
      exact removed
  · exact alike

end

end Alike

/-! ## What a search comes upon -/

/-- In each run no search comes upon a peer whose handle is not assigned: neither the one for
the sender of a `joined` event, nor those for the stream of a local description or candidate;
and the peer subscribed to an unpublished feed has its handle. -/
structure Recognised (env : Env) (s : Client) (i : Input) : Prop where
  joined : ∀ object, i.Tags "joined" object →
    s.Sought s.Assigned .video (senderOf object) ∧
      (findPeer s (s.listed .video) RoomKind.video.handle (senderOf object) = none →
        ∀ k < (newFeeds object).length,
          (env.junk (s.constructed + k)).mVideoRoomHandleID ≠ senderOf object)
  unpublished : ∀ object, i.Tags "event" object → unpublishedFeed object ≠ 0 →
    (∀ p, findPeer s (s.listed .video) (·.mSubscribeId) (unpublishedFeed object) = some p →
      s.Assigned .video p) ∧
      (findPeer s (s.listed .video) (·.mSubscribeId) (unpublishedFeed object) = none →
        unpublishedFeed object ∉ newFeeds object)
  described : ∀ id sdp type, i = .localSDP id sdp type → s.HasStream id →
    ∀ room, s.Sought s.Assigned room id
  candidate : ∀ id c, i.candidate? = some (id, c) → s.HasStream id →
    s.Sought s.Assigned .video id

section
variable {env : Env} {handles : RoomKind → Ptr → Int} {s s' t : Client} {i : Input} {object : Json}
  {p : Ptr} {room : RoomKind}

theorem Sought.published {A : RoomKind → Ptr → Prop} {h : Int} (owned : Owned s)
    (before : s.Sought A .video h)
    (new : findPeer s (s.listed .video) RoomKind.video.handle h = none →
      ∀ k < (newFeeds object).length, (env.junk (s.constructed + k)).mVideoRoomHandleID ≠ h) :
    (JanusVideoRoomManager.onVideoRoomEventPublisher env s object).Sought A .video h := by
  intro p found
  rcases findPeer_published owned found with early | ⟨none, k, early, holds⟩
  · exact before p early
  · exact absurd holds (new none k early)

/-! ## One step -/

theorem assigned_log (same : t.log = s.log) : t.Assigned = s.Assigned := by
  unfold Client.Assigned Client.granted
  rw [same]

/-- Handles are assigned by replies only. -/
theorem Grows.assigned (grows : Grows env s s') (there : s'.Assigned room p) : s.Assigned room p := by
  obtain ⟨effects, log, silent⟩ := grows.log
  obtain ⟨h, member⟩ := there
  obtain ⟨tran, object, invoked, reply⟩ := mem_granted.1 member
  rw [log, List.mem_append] at invoked
  exact ⟨h, mem_granted.2
    ⟨tran, object, invoked.resolve_right fun late => silent _ _ _ _ late, reply⟩⟩

theorem assigned_take {kind : ReplyKind} {tran : String} {func : Continuation}
    (there : (s.take kind tran func object).Assigned room p) :
    s.Assigned room p ∨ func = .peer p room.joined := by
  obtain ⟨h, member⟩ := there
  obtain ⟨tran', object', invoked, reply⟩ := mem_granted.1 member
  rw [Client.take_log, List.mem_append, List.mem_singleton] at invoked
  rcases invoked with early | last
  · exact Or.inl ⟨h, mem_granted.2 ⟨tran', object', early, reply⟩⟩
  · injection last with _ _ func
    exact Or.inr func.symm

theorem step_assigned (there : (step env s i).Assigned room p) :
    s.Assigned room p ∨ ∃ kind tran object, Answer i s kind tran (.peer p room.joined) object := by
  rcases step_cases env s i with ⟨kind, tran, func, object, answer, ran⟩ | chain
  · rw [ran] at there
    rcases assigned_take ((callContinuation_grows _ _ _).assigned there) with before | rfl
    · exact Or.inl before
    · exact Or.inr ⟨kind, tran, object, answer⟩
  · have grows : Grows env s (step env s i) :=
      Machine.transitions_keep (P := Grows env s) (fun _ _ taken sofar => sofar.trans taken.grows)
        chain (.refl s)
    exact Or.inl (grows.assigned there)

/-- Whoever has an assigned handle was constructed. -/
theorem assigned_below (env : Env) (is : List Input) :
    ∀ room p, (after env is).Assigned room p → p < (after env is).constructed := by
  induction is using List.reverseRecOn with
  | nil =>
    rintro room p ⟨h, member⟩
    simp [Client.granted, after, Client.initial] at member
  | append_singleton is i ih =>
    intro room p there
    rw [after_concat] at there ⊢
    have more := step_constructed env (after env is) i
    rcases step_assigned there with before | ⟨kind, tran, object, answer⟩
    · exact (ih room p before).trans_le more
    · exact ((made_after env is).awaited _ p _ answer.waiting).trans_le more

namespace Alike

variable {A : RoomKind → Ptr → Prop}

theorem event (alike : Alike s.Assigned s t) (owned : Owned s) (owned' : Owned t)
    (below : ∀ room p, s.Assigned room p → p < s.constructed) (event : i.Reports object)
    (here : Recognised env s i) (there : Recognised (env.withHandles handles) t i) :
    Alike s.Assigned (WebrtcDemo.step env s i) (WebrtcDemo.step (env.withHandles handles) t i) := by
  have assigned : t.Assigned = s.Assigned := assigned_log alike.rest.log
  rw [step_reports event, step_reports event]
  rcases tag : videoRoomTag object with _ | tag
  · dsimp only
    split
    · exact alike.onVideoRoomEventSdp object true
    · exact alike
  · dsimp only
    rw [JanusVideoRoomManager.onVideoRoomEvent, JanusVideoRoomManager.onVideoRoomEvent]
    split_ifs with joined attached published
    · subst joined
      obtain ⟨left, new⟩ := here.joined object ⟨event, tag⟩
      obtain ⟨right, new'⟩ := there.joined object ⟨event, tag⟩
      rw [assigned] at right
      have told := alike.onVideoRoomEventPublisher env handles object below
      have search := told.searched (Sought.published owned left new)
        (Sought.published owned' right new')
      have join : ∀ (env : Env) (s : Client),
          JanusVideoRoomManager.onVideoRoomEventJoin env s object =
            (JanusVideoRoomManager.onVideoRoomEventPublisher env s object).sendTo .video
              (senderOf object) fun s _ =>
                JanusVideoRoomManager.OnConnectToPeer s (senderOf object) false true false :=
        fun _ _ => rfl
      rw [join, join, Client.sendTo, Client.sendTo, search]
      split
      · exact told.OnConnectToPeer _ _ _ _
      · exact told
    · exact alike.onVideoRoomEventSdp object false
    · subst published
      have feed : unpublishedFeed object =
          JsonValueToLongLong (JanusVideoRoomManager.dataObj object) "unpublished" := if_pos tag
      rw [JanusVideoRoomManager.onVideoRoomEventEvent, JanusVideoRoomManager.onVideoRoomEventEvent]
      have told := alike.onVideoRoomEventSdp object false
      have quiet := onVideoRoomEventSdp_quiet (s := s) event false
      have published := told.onVideoRoomEventPublisher env handles object fun room p there =>
        (below room p there).trans_eq quiet.constructed.symm
      refine published.onVideoRoomEventUnpublish fun nonzero p found => ?_
      rw [← feed] at nonzero found
      obtain ⟨left, new⟩ := here.unpublished object ⟨event, tag⟩ nonzero
      rw [← findPeer_congr (quiet.listed .video) quiet.peers] at left new
      rcases findPeer_published (owned.quiet quiet) found with early | ⟨none, k, early, same⟩
      · exact left p early
      · have member : (newFeeds object)[k] ∈ newFeeds object := List.getElem_mem early
        have made : (newFeeds object)[k] = unpublishedFeed object := same
        exact absurd (made ▸ member) (new none)
    · exact alike

/-- A message that answers nobody and is no event is ignored. -/
theorem ignored {message : Option Json}
    (none : ∀ kind tran func object, ¬ Answer (.receivedMessage message) s kind tran func object)
    (silent : ∀ object, ¬ (Input.receivedMessage message).Reports object) :
    WebrtcDemo.step env s (.receivedMessage message) = s := by
  rcases received_cases env s message with ⟨kind, tran, func, object, answer, -⟩ | ⟨-, same⟩ |
      ⟨object, event⟩
  · exact absurd answer (none _ _ _ _)
  · exact same
  · exact absurd event (silent object)

theorem JoinVideoRoom (alike : Alike A s t) (fresh : ∀ room, ¬ A room s.constructed) (roomId : Int32)
    (name : String) :
    Alike A (JanusVideoRoomManager.JoinVideoRoom env s roomId name)
      (JanusVideoRoomManager.JoinVideoRoom (env.withHandles handles) t roomId name) := by
  have set : Alike A { s with janus := { s.janus with mVideoRoomID := roomId } }
      { t with janus := { t.janus with mVideoRoomID := roomId } } := by
    refine alike.apart rfl ?_
    rw [alike.rest]
    rfl
  rw [JanusVideoRoomManager.JoinVideoRoom_eq, JanusVideoRoomManager.JoinVideoRoom_eq]
  refine set.attachNew .video ?_
  obtain ⟨⟨video, text, same⟩, -⟩ := alike.newPeer env handles fresh
  rw [same]
  exact ⟨⟨video, text, rfl⟩, fun room there => absurd there (fresh room)⟩

theorem JoinTextRoom (alike : Alike A s t) (fresh : ∀ room, ¬ A room s.constructed)
    (roomId : Int32) :
    Alike A (JanusVideoRoomManager.JoinTextRoom env s roomId)
      (JanusVideoRoomManager.JoinTextRoom (env.withHandles handles) t roomId) := by
  rw [JanusVideoRoomManager.JoinTextRoom_eq, JanusVideoRoomManager.JoinTextRoom_eq]
  refine alike.attachNew .text ?_
  obtain ⟨⟨video, text, same⟩, -⟩ := alike.newPeer env handles fresh
  rw [same]
  exact ⟨⟨video, text, rfl⟩, fun room there => absurd there (fresh room)⟩

/-- A step that answers nobody. -/
theorem unanswered (alike : Alike s.Assigned s t) (owned : Owned s) (owned' : Owned t)
    (sound : Sound s) (below : ∀ room p, s.Assigned room p → p < s.constructed)
    (none : ∀ kind tran func object, ¬ Answer i s kind tran func object)
    (here : Recognised env s i) (there : Recognised (env.withHandles handles) t i) :
    Alike s.Assigned (WebrtcDemo.step env s i) (WebrtcDemo.step (env.withHandles handles) t i) := by
  have assigned : t.Assigned = s.Assigned := assigned_log alike.rest.log
  have fresh : ∀ room, ¬ s.Assigned room s.constructed := fun room there => (below room _ there).false
  have streams : ∀ {id}, t.HasStream id ↔ s.HasStream id := alike.hasStream
  cases i with
  | socketConnected =>
    have asked : ∀ (env : Env) (s : Client), WebrtcDemo.step env s .socketConnected =
        s.ask env .none .none .create .success .onCreateSessionId := fun _ _ => rfl
    rw [asked, asked]
    exact alike.ask _ _ _ _ _
  | heartBeatMessage =>
    have session : t.janus.mSessionId = s.janus.mSessionId := by
      rw [alike.rest.janus]
    have asked : ∀ (env : Env) (s : Client), WebrtcDemo.step env s .heartBeatMessage =
        s.ask env .none (some (castDouble s.janus.mSessionId)) .keepalive .ack .onHeartBeat :=
      fun _ _ => rfl
    rw [asked, asked, session]
    exact alike.ask _ _ _ _ _
  | receivedMessage message =>
    by_cases event : ∃ object, (Input.receivedMessage message).Reports object
    · obtain ⟨object, event⟩ := event
      exact alike.event owned owned' below event here there
    · have pending : t.pending = s.pending := Client.pending_of_janus alike.rest.janus
      have none' : ∀ kind tran func object,
          ¬ Answer (.receivedMessage message) t kind tran func object :=
        fun kind tran func object answer =>
          none kind tran func object ⟨answer.named, pending ▸ answer.waiting⟩
      have left : WebrtcDemo.step env s (.receivedMessage message) = s :=
        ignored none (not_exists.1 event)
      have right : WebrtcDemo.step (env.withHandles handles) t (.receivedMessage message) = t :=
        ignored none' (not_exists.1 event)
      rw [left, right]
      exact alike
  | setVideoWindows remote =>
    refine alike.apart rfl ?_
    rw [alike.rest]
    rfl
  | joinVideoRoom roomId name => exact alike.JoinVideoRoom fresh roomId name
  | leaveVideoRoom =>
    have left : Alike s.Assigned (ConferenceManager.LeaveVideoRoom s)
        (ConferenceManager.LeaveVideoRoom t) :=
      alike.apart (Besides.refl s).LeaveVideoRoom.peers_eq alike.rest.LeaveVideoRoom
    exact left.leave .video
  | joinDataChannelRoom roomId name =>
    have set : Alike s.Assigned (ConferenceManager.SetTextRoomIDAndDisplayName s roomId name)
        (ConferenceManager.SetTextRoomIDAndDisplayName t roomId name) := by
      refine alike.apart rfl ?_
      rw [alike.rest]
      rfl
    exact set.JoinTextRoom fresh roomId
  | leaveTextRoom => exact alike.leave .text
  | createVideoRoom => exact alike.administers fresh rfl
  | createTextRoom => exact alike.administers fresh rfl
  | destoryVideoRoom => exact alike.administers fresh rfl
  | destoryTextRoom => exact alike.administers fresh rfl
  | sendMessage text =>
    exact alike.apart ((Besides.refl s).SendMessage text).peers_eq (alike.rest.SendMessage text)
  | localSDP id sdp type =>
    refine alike.onLocalSDP sdp type (here.described id sdp type rfl) fun known => ?_
    rw [← assigned]
    exact there.described id sdp type rfl (streams.2 known)
  | localIceCandidate id c =>
    refine alike.onLocalIceCandidate sound c (here.candidate id c rfl) fun known => ?_
    rw [← assigned]
    exact there.candidate id c rfl (streams.2 known)
  | iceGatheringComplete id =>
    refine alike.onLocalIceCandidate sound _ (here.candidate id _ rfl) fun known => ?_
    rw [← assigned]
    exact there.candidate id _ rfl (streams.2 known)
  | dataChannelOpen p =>
    exact alike.apart ((Besides.refl s).OnStateChange p).peers_eq (alike.rest.OnStateChange p)

/-- **One step keeps two clients alike** that both find peers with assigned handles only. -/
theorem step (alike : Alike s.Assigned s t) (owned : Owned s) (owned' : Owned t) (sound : Sound s)
    (below : ∀ room p, s.Assigned room p → p < s.constructed) (here : Recognised env s i)
    (there : Recognised (env.withHandles handles) t i) :
    Alike (WebrtcDemo.step env s i).Assigned (WebrtcDemo.step env s i)
      (WebrtcDemo.step (env.withHandles handles) t i) := by
  by_cases answered : ∃ kind tran func object, Answer i s kind tran func object
  · obtain ⟨kind, tran, func, object, answer⟩ := answered
    have answer' : Answer i t kind tran func object := by
      refine ⟨answer.named, ?_⟩
      rw [Client.pending_of_janus alike.rest.janus]
      exact answer.waiting
    have taken : Alike s.Assigned (s.take kind tran func object) (t.take kind tran func object) :=
      alike.apart Client.take_peers (alike.rest.take _ _ _ _)
    have stepped : WebrtcDemo.step env s i =
        JanusVideoRoomManager.callContinuation env (s.take kind tran func object) func object :=
      step_answered answer
    rw [stepped, step_answered answer']
    refine (taken.callContinuation func object).mono fun room p _ assigned => ?_
    exact assigned_take ((callContinuation_grows _ _ _).assigned assigned)
  · have none : ∀ kind tran func object, ¬ Answer i s kind tran func object :=
      fun kind tran func object answer => answered ⟨kind, tran, func, object, answer⟩
    refine (alike.unanswered owned owned' sound below none here there).mono fun room p _ assigned => ?_
    refine (step_assigned assigned).resolve_right ?_
    rintro ⟨kind, tran, object, answer⟩
    exact none _ _ _ _ answer

end Alike

end

/-! ## Two runs -/

/-- The messages sent, without the peers that sent them. -/
def Client.outgoing (s : Client) : List Message := s.messages.map Prod.snd

/-- A call of one of the callbacks that the manager is given. -/
inductive Callback where
  | OnConnectToPeer (id : Int) (show_ isConnect isLocal : Bool)
  | OnRemoteSdp (id : Int) (type sdp : String) (isTextRoom : Bool)
  | OnRemoteStreamRemove (id : Int)
  deriving DecidableEq

def Effect.callback? : Effect → Option Callback
  | .onConnectToPeer id show_ isConnect isLocal =>
    some (.OnConnectToPeer id show_ isConnect isLocal)
  | .onRemoteSdp id type sdp isTextRoom => some (.OnRemoteSdp id type sdp isTextRoom)
  | .onRemoteStreamRemove id => some (.OnRemoteStreamRemove id)
  | _ => none

/-- The calls of these, in order. -/
def Client.callbacks (s : Client) : List Callback := s.log.filterMap Effect.callback?

/-- Nothing in a run shows what the unset handles of its peers held. -/
structure SameSeen (env : Env) (handles : RoomKind → Ptr → Int) (is : List Input) : Prop where
  outgoing : (after (env.withHandles handles) is).outgoing = (after env is).outgoing
  callbacks : (after (env.withHandles handles) is).callbacks = (after env is).callbacks

/-- Every step of a run is taken where its searches come upon assigned handles only. -/
def Recognising (env : Env) (is : List Input) : Prop :=
  Machine.Along (step env) (Recognised env) (Client.initial env) is

theorem alike_after {env : Env} {handles : RoomKind → Ptr → Int} {is : List Input}
    (here : Recognising env is) (there : Recognising (env.withHandles handles) is) :
    Alike (after env is).Assigned (after env is) (after (env.withHandles handles) is) := by
  induction is using List.reverseRecOn with
  | nil =>
    have initial : Client.initial (env.withHandles handles) = Client.initial env := rfl
    rw [after, after, Machine.run_nil, Machine.run_nil, initial]
    exact .refl _ _
  | append_singleton is i ih =>
    obtain ⟨here, last, -⟩ := Machine.along_append.1 here
    obtain ⟨there, last', -⟩ := Machine.along_append.1 there
    rw [after_concat, after_concat]
    exact (ih here there).step (owned_after _ _) (owned_after _ _) (sound_after _ _)
      (assigned_below _ _) last last'

/-- **Two runs that take the same steps show the same,** whatever the handles of new peers
held, if in both every search comes upon assigned handles only. -/
theorem unassigned_unseen (env : Env) (handles : RoomKind → Ptr → Int) (is : List Input)
    (here : Recognising env is) (there : Recognising (env.withHandles handles) is) :
    SameSeen env handles is := by
  have log := (alike_after here there).rest.log
  refine ⟨?_, ?_⟩
  · unfold Client.outgoing Client.messages
    rw [log]
  · unfold Client.callbacks
    rw [log]

/-- Steps without searches. -/
theorem recognised_of_silent {env : Env} {s : Client} {i : Input}
    (silent : ∀ object, ¬ i.Reports object) (other : ∀ id sdp type, i ≠ .localSDP id sdp type)
    (none : i.candidate? = none) : Recognised env s i where
  joined object tags := absurd tags.1 (silent object)
  unpublished object tags := absurd tags.1 (silent object)
  described id sdp type same := absurd same (other id sdp type)
  candidate id c same := absurd (none.symm.trans same) (by simp)

theorem unassigned_unseen_joined :
    SameSeen Env.sample (fun _ _ => 1)
      [.joinVideoRoom 1234 "cc", Server.success (Env.sample.random 0) 7,
        Server.event { tag := "joined", sender := 7, publishers := [5] }] := by
  let e : Server.VideoEvent := { tag := "joined", sender := 7, publishers := [5] }
  let is : List Input := [.joinVideoRoom 1234 "cc", Server.success (Env.sample.random 0) 7]
  have recognising : ∀ {env : Env}, findPeer (after env is) ((after env is).listed .video)
        RoomKind.video.handle (senderOf e.object) = some 0 → (0, 7) ∈ (after env is).granted .video →
      Recognising env (is ++ [Server.event e]) := by
    intro env found granted
    refine ⟨recognised_of_silent (by simp [Input.Reports]) (by simp) rfl,
      recognised_of_silent Server.success_unreported (by simp [Server.success]) rfl, ?_, trivial⟩
    refine ⟨fun object tags => ?_, fun object tags => ?_, by simp [Server.event], fun id c same => ?_⟩
    · obtain rfl := e.reports.only tags.1
      refine ⟨fun p found' => ?_, fun missing => absurd (found.symm.trans missing) (by simp)⟩
      obtain rfl := Option.some.inj (found.symm.trans found')
      exact ⟨7, granted⟩
    · obtain rfl := e.reports.only tags.1
      have tag : videoRoomTag e.object = some "joined" := e.tag_object
      exact absurd (tag.symm.trans tags.2) (by decide)
    · simp [Server.event, Input.candidate?] at same
  exact unassigned_unseen Env.sample (fun _ _ => 1) (is ++ [Server.event e])
    (recognising (by decide +kernel) (by decide +kernel))
    (recognising (by decide +kernel) (by decide +kernel))

/-- The publisher leaves before its handle arrives: the stream that is removed is one that
memory happens to name. -/
theorem unassigned_seen : ¬ ∀ (env : Env) (handles : RoomKind → Ptr → Int) (is : List Input),
    (∀ i ∈ is, i.adminRequest? = none ∧ i.leaves? = none) → SameSeen env handles is := by
  intro always
  let is : List Input := [.joinVideoRoom 1234 "cc", Server.success (Env.sample.random 0) 7,
    Server.event { tag := "joined", sender := 7, publishers := [5] },
    Server.event { tag := "event", sender := 7, unpublished := some 5 }]
  have inScope : ∀ i ∈ is, i.adminRequest? = none ∧ i.leaves? = none := by
    simp [is, Input.adminRequest?, Input.leaves?, Server.success, Server.event]
  have removed : Callback.OnRemoteStreamRemove 0 ∈ (after Env.sample is).callbacks := by
    decide +kernel
  have other : Callback.OnRemoteStreamRemove 0 ∉
      (after (Env.sample.withHandles fun _ _ => 1) is).callbacks := by
    decide +kernel
  have same : SameSeen Env.sample (fun _ _ => 1) is := always _ _ is inScope
  rw [same.callbacks] at other
  exact other removed

end WebrtcDemo
