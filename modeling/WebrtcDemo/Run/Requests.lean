import WebrtcDemo.Run.Outcomes
import WebrtcDemo.Run.Admin

/-!
# Requests to create or destroy a room

From the call over the attach reply to the message and the continuation that waits
for its outcome: three of the four operations go through as they should, for any
history. `CreateTextRoom` registers the attach continuation of video rooms, so its
message is built from the other handle and the other room, and its outcome is read
as one of a video room.
-/

namespace WebrtcDemo

open Relation (ReflTransGen)

namespace RoomOperation

/-- The call. -/
def input : RoomOperation → Int32 → Input
  | createVideoRoom => .createVideoRoom
  | createTextRoom => .createTextRoom
  | destoryVideoRoom => .destoryVideoRoom
  | destoryTextRoom => .destoryTextRoom

/-- The request proper, for a room. -/
def body : RoomOperation → UInt32 → Body
  | createVideoRoom | createTextRoom => .create
  | destoryVideoRoom | destoryTextRoom => .destroy

/-- The continuation that the call registers for its attach request. -/
def member : RoomOperation → PeerMember
  | createVideoRoom | createTextRoom => .onAttachVideoRoomCreate
  | destoryVideoRoom => .onAttachVideoRoomDestory
  | destoryTextRoom => .onAttachTextRoomDestory

end RoomOperation

/-- The room a peer stores for a kind of rooms. -/
def RoomKind.roomOf : RoomKind → JanusPeerConnection → UInt32
  | video, peer => peer.mVideoRoomId
  | text, peer => peer.mTextRoomId

/-- What an effect registers. -/
def Effect.registered? : Effect → Option (ReplyKind × String × Continuation)
  | .registered kind transaction func => some (kind, transaction, func)
  | _ => none

/-- What a step registers. -/
def stepRegistered (env : Env) (s : Client) (i : Input) : List (ReplyKind × String × Continuation) :=
  ((step env s i).log.drop s.log.length).filterMap Effect.registered?

/-- The step sends one request, `op` on the room `roomId` over the handle `h`, and registers
the continuation that reads its outcome, and nothing else. -/
def Requests (env : Env) (s : Client) (i : Input) (op : RoomOperation) (roomId : Int32) (h : Int) :
    Prop :=
  ∃ p m room, stepMessages env s i = [(some p, m)] ∧ m.request = .message h (op.body room) none ∧
    (room.toNat : Int) = roomId.toInt ∧
    stepRegistered env s i = [(.success, m.transaction, .peer p op.outcome)]

/-! ## Writes to a peer -/

/-- What a step writes to a peer that it does not delete. -/
inductive Writes (i : Input) : JanusPeerConnection → JanusPeerConnection → Prop where
  | handle (x : JanusPeerConnection) (room : RoomKind) (id : Int) : Writes i x (room.setHandle id x)
  | room (x : JanusPeerConnection) {room : RoomKind} {roomId : Int32} {member : PeerMember}
      (request : i.adminRequest? = some (room, roomId, member)) :
      Writes i x (room.setRoom roomId.toUInt32 x)

section
variable {env : Env} {i : Input} {before s s' : Client} {p : Ptr} {x y : JanusPeerConnection}

/-- The peer `p`, which was `x`, was written to. -/
def Written (i : Input) (p : Ptr) (x : JanusPeerConnection) (s : Client) : Prop :=
  ∃ y, s.peers p = some y ∧ ReflTransGen (Writes i) x y

theorem Written.same (written : Written i p x s) (peers : s'.peers p = s.peers p) :
    Written i p x s' := by
  obtain ⟨y, alive, writes⟩ := written
  exact ⟨y, peers.trans alive, writes⟩

/-- Another write, to `p` or to another peer. -/
theorem Written.write (written : Written i p x s) {q : Ptr} {z w : JanusPeerConnection}
    (alive : s.peers q = some z) (writes : Writes i z w)
    (peers : s'.peers = Function.update s.peers q (some w)) : Written i p x s' := by
  rcases eq_or_ne p q with rfl | other
  · obtain ⟨y, lives, sofar⟩ := written
    obtain rfl : z = y := Option.some.inj (alive.symm.trans lives)
    exact ⟨w, by rw [peers, Function.update_self], sofar.tail writes⟩
  · exact written.same (by rw [peers, Function.update_of_ne other])

theorem Written.transition (written : Written i p x s) (follows : Follows i before p y s)
    (taken : Transition env i s s') : Written i p x s' := by
  have other : p ≠ s.constructed := follows.older.ne
  cases taken with
  | quiet same => exact written.same (by rw [same.peers])
  | attach room peer => exact written.same (by simp [Function.update_of_ne other])
  | appoint room peer => exact written.same (by simp [Function.update_of_ne other])
  | @administer q z room roomId member request holds alive =>
    exact written.write alive (.room z request) (by simp)
  | leave room leaves =>
    refine written.same ?_
    rw [follows.owned.leave_peers]
    exact if_neg (follows.unlisted room leaves)
  | _ => exact written.same (by simp [Client.drawn])

theorem Written.reply (written : Written i p x s) (answered : Reply env i s s') :
    Written i p x s' := by
  cases answered with
  | session => exact written.same (by simp [JanusVideoRoomManager.onCreateSessionId])
  | heartBeat => exact written.same (by simp [JanusVideoRoomManager.onHeartBeat, Client.emit])
  | dead => exact written.same (by simp)
  | @joined _ _ _ _ z room answer alive =>
    exact written.write alive (.handle z room _) (by simp; rfl)
  | @admin _ _ _ _ _ z todo isAdmin answer alive =>
    exact written.write alive (.handle z todo.room _) (by simp; rfl)
  | outcome _ _ _ same => exact written.same (by rw [same.peers]; simp)

variable (env i) in
/-- **A peer that is not deleted is only written to,** its handles by replies and its rooms by
requests. -/
theorem step_written (owned : Owned s) (alive : s.peers p = some x)
    (unlisted : ∀ room, i.leaves? = some room → p ∉ s.listed room) :
    Written i p x (step env s i) :=
  ((step_decomposes env).keeps (P := fun t : Client => Follows i s p x t ∧ Written i p x t)
    (fun _ _ answered kept => ⟨kept.1.reply answered, kept.2.reply answered⟩)
    (fun _ _ taken kept => ⟨kept.1.transition taken, kept.2.transition kept.1 taken⟩)
    ⟨Follows.start owned alive unlisted, x, alive, .refl⟩).2

/-- Where nothing is requested the rooms stay. -/
theorem roomOf_writes (calm : i.adminRequest? = none) (room : RoomKind)
    (writes : ReflTransGen (Writes i) x y) : room.roomOf y = room.roomOf x := by
  induction writes with
  | refl => rfl
  | tail _ last ih =>
    rw [← ih]
    cases last with
    | handle other => cases room <;> cases other <;> rfl
    | room request => simp [calm] at request

end

/-! ## From the call to the reply -/

/-- The administrative peer for `op` is `p`, and it stores the room. -/
structure Stores (op : RoomOperation) (roomId : Int32) (p : Ptr) (s : Client) : Prop where
  holds : s.admin op.room = some p
  room : ∃ x, s.peers p = some x ∧ op.room.roomOf x = roomId.toUInt32

section
variable {env : Env} {s : Client} {op : RoomOperation} {roomId : Int32} {p : Ptr}

theorem RoomOperation.adminRequest_input (op : RoomOperation) (roomId : Int32) :
    (op.input roomId).adminRequest? = some (op.room, roomId, op.member) := by
  cases op <;> rfl

theorem RoomKind.roomOf_setHandle (room room' : RoomKind) (id : Int) (x : JanusPeerConnection) :
    room.roomOf (room'.setHandle id x) = room.roomOf x := by
  cases room <;> cases room' <;> rfl

theorem RoomKind.roomOf_setRoom (room : RoomKind) (id : UInt32) (x : JanusPeerConnection) :
    room.roomOf (room.setRoom id x) = id := by
  cases room <;> rfl

variable (env) in
/-- A call asks for a handle at the administrative peer, made first if there is none. -/
theorem RoomOperation.asked (owned : Owned s) (op : RoomOperation) (roomId : Int32) :
    ∃ p, Stores op roomId p (step env s (op.input roomId)) ∧
      (step env s (op.input roomId)).pending (.success, env.random s.draws) =
        some (.peer p op.member) := by
  have asks : ∀ t : Client, t.draws = s.draws → ∀ p x, t.admin op.room = some p →
      t.peers p = some x → ∀ u, u = JanusPeerConnection.requestAttach env t p op.room.plugin
        (op.room.setRoom roomId.toUInt32) op.member → Stores op roomId p u ∧
          u.pending (.success, env.random s.draws) = some (.peer p op.member) := by
    rintro t draws p x holds alive u rfl
    rw [JanusPeerConnection.requestAttach_live env alive]
    exact ⟨⟨by simpa using holds, _, by simp; rfl, op.room.roomOf_setRoom _ _⟩,
      by simp [Client.ask_pending, draws]⟩
  have stepped : step env s (op.input roomId) = _ :=
    step_administers (op.adminRequest_input roomId)
  rcases holds : s.admin op.room with _ | p
  · rw [holds] at stepped
    exact ⟨s.constructed, asks _ (by simp) _ _ (by rw [Client.appoint_admin, if_pos rfl])
      (by simp; rfl) _ stepped⟩
  · rw [holds] at stepped
    obtain ⟨x, alive⟩ := Option.isSome_iff_exists.1 (owned.live p (Client.admin_holders holds))
    exact ⟨p, asks s rfl p x holds alive _ stepped⟩

/-- While no other request is made, the administrative peer keeps the room. -/
theorem Stores.step (stores : Stores op roomId p s) (owned : Owned s) {i : Input}
    (calm : i.adminRequest? = none) : Stores op roomId p (step env s i) := by
  obtain ⟨x, alive, same⟩ := stores.room
  have unlisted : ∀ room, i.leaves? = some room → p ∉ s.listed room :=
    fun room _ => owned.admin_unlisted stores.holds room
  obtain ⟨y, alive', writes⟩ := step_written env i owned alive unlisted
  refine ⟨((step_follows env i owned alive unlisted).admin _).2 stores.holds, y, alive', ?_⟩
  rw [roomOf_writes calm op.room writes, same]

theorem Stores.run (stores : Stores op roomId p s) (owned : Owned s) {is : List Input}
    (calm : ∀ k ∈ is, k.adminRequest? = none) :
    Stores op roomId p (Machine.run (WebrtcDemo.step env) s is) := by
  have keeps : ∀ (t : Client) (i : Input), Owned t ∧ Stores op roomId p t →
      i.adminRequest? = none → Owned (WebrtcDemo.step env t i) ∧
        Stores op roomId p (WebrtcDemo.step env t i) :=
    fun _ i kept calm => ⟨kept.1.step i, kept.2.step kept.1 calm⟩
  exact (Machine.run_keeps keeps ⟨owned, stores⟩ (Machine.along_inputs.2 calm)).2

variable (env) in
/-- The reply sends the request proper and waits for its outcome, as the registered member
does it. -/
theorem Stores.answered (stores : Stores op roomId p s) {i : Input} {t : String} {object : Json}
    (answer : Answer i s .success t (.peer p op.member) object) {todo : AdminStep}
    (isAdmin : adminStep op.member = some todo) :
    ∃ x m, s.peers p = some x ∧ stepMessages env s i = [(some p, m)] ∧
      m.request = .message (castDouble (JanusPeerConnection.replyId object))
        (todo.body (todo.room.setHandle (JanusPeerConnection.replyId object) x)) none ∧
      stepRegistered env s i = [(.success, m.transaction, .peer p todo.outcome)] := by
  obtain ⟨x, alive, -⟩ := stores.room
  have stepped : WebrtcDemo.step env s i = _ := step_answered answer
  rw [JanusVideoRoomManager.callContinuation,
    JanusPeerConnection.callMember_admin env isAdmin (by simpa using alive)] at stepped
  refine ⟨x, ⟨env.random s.draws, some (castDouble x.mSessionID), _⟩, alive, ?_, rfl, ?_⟩
  · rw [stepMessages, stepped]
    simp only [Client.ask_log, Client.setPeer_log, Client.take_log, List.append_assoc,
      List.drop_left]
    rfl
  · rw [stepRegistered, stepped]
    simp only [Client.ask_log, Client.setPeer_log, Client.take_log, List.append_assoc,
      List.drop_left]
    rfl

end

/-- Three of the four operations register the attach continuation that is their own. -/
theorem RoomOperation.adminStep_member {op : RoomOperation} (other : op ≠ .createTextRoom) :
    adminStep op.member = some ⟨op.room, fun x => op.body (op.room.roomOf x), op.outcome⟩ := by
  cases op
  case createTextRoom => exact absurd rfl other
  all_goals rfl

theorem RoomOperation.body_injective (op : RoomOperation) {room room' : UInt32}
    (same : op.body room = op.body room') : room = room' := by
  cases op <;> simpa [RoomOperation.body] using same

/-- **A call goes through,** over whatever handle its attach reply gives, if and only if it is
not `CreateTextRoom`, the room is no negative number and a double holds the handle. -/
theorem requests_iff (env : Env) (js : List Input) (op : RoomOperation) (roomId : Int32)
    (is : List Input) (i : Input) (object : Json) (calm : ∀ k ∈ is, k.adminRequest? = none)
    (waits : (after env (js ++ op.input roomId :: is)).pending
        (.success, env.random (after env js).draws) =
      (after env (js ++ [op.input roomId])).pending (.success, env.random (after env js).draws))
    (reply : i.Answers .success (env.random (after env js).draws) object) :
    Requests env (after env (js ++ op.input roomId :: is)) i op roomId
        (JanusPeerConnection.replyId object) ↔
      op ≠ .createTextRoom ∧ 0 ≤ roomId.toInt ∧
        castDouble (JanusPeerConnection.replyId object) = JanusPeerConnection.replyId object := by
  have owned := owned_after env js
  obtain ⟨p, stores, asked⟩ := op.asked env owned roomId
  have called := after_concat env js (op.input roomId)
  have ends : after env (js ++ op.input roomId :: is) =
      Machine.run (step env) (step env (after env js) (op.input roomId)) is := after_append env js _
  have stores := ends ▸ stores.run (owned.step _) calm
  have answer : Answer i (after env (js ++ op.input roomId :: is)) .success
      (env.random (after env js).draws) (.peer p op.member) object :=
    ⟨reply, waits.trans (called ▸ asked)⟩
  by_cases text : op = .createTextRoom
  · subst text
    obtain ⟨x, m, alive, sent, request, registered⟩ := stores.answered env answer rfl
    refine iff_of_false ?_ fun fine => fine.1 rfl
    rintro ⟨q, m', room, -, -, -, registered'⟩
    have same := registered.symm.trans registered'
    simp [RoomOperation.outcome] at same
  · obtain ⟨x, m, alive, sent, request, registered⟩ :=
      stores.answered env answer (RoomOperation.adminStep_member text)
    obtain ⟨x', alive', holds⟩ := stores.room
    obtain rfl : x' = x := Option.some.inj (alive'.symm.trans alive)
    dsimp only at request registered
    rw [RoomKind.roomOf_setHandle, holds] at request
    constructor
    · rintro ⟨q, m', room, sent', request', number, -⟩
      obtain ⟨rfl, rfl⟩ : p = q ∧ m = m' := by simpa using sent.symm.trans sent'
      have same := request.symm.trans request'
      injection same with handle body
      obtain rfl := op.body_injective body
      exact ⟨text, ((room_eq_iff roomId roomId).1 number).1, handle⟩
    · rintro ⟨-, nonneg, exact_⟩
      exact ⟨p, m, _, sent, exact_ ▸ request, toNat_toUInt32 nonneg, registered⟩

/-- A text room is destroyed over the handle 7, after a history of one session. -/
theorem requests_destoryTextRoom :
    Requests Env.sample (after Env.sample [.socketConnected, .destoryTextRoom 5])
      (Server.success (Env.sample.random 1) 7) .destoryTextRoom 5 7 :=
  (requests_iff Env.sample [.socketConnected] .destoryTextRoom 5 []
    (Server.success (Env.sample.random 1) 7) _ (by simp) rfl
    ⟨rfl, by decide +kernel, by decide +kernel⟩).2 ⟨by decide, by decide, by decide +kernel⟩

/-- A text room is to be created, and the outcome of a video room is awaited. -/
theorem createTextRoom_wrong : ¬ ∀ (env : Env) (js : List Input) (op : RoomOperation)
    (roomId : Int32) (is : List Input) (i : Input) (object : Json),
    (∀ k ∈ is, k.adminRequest? = none) →
    (after env (js ++ op.input roomId :: is)).pending
        (.success, env.random (after env js).draws) =
      (after env (js ++ [op.input roomId])).pending (.success, env.random (after env js).draws) →
    i.Answers .success (env.random (after env js).draws) object →
    Requests env (after env (js ++ op.input roomId :: is)) i op roomId
      (JanusPeerConnection.replyId object) := by
  intro always
  obtain ⟨p, m, room, -, -, -, registered⟩ := always Env.sample [] .createTextRoom 5 []
    (Server.success (Env.sample.random 0) 7) _ (by simp) rfl
    ⟨rfl, by decide +kernel, by decide +kernel⟩
  have waiting : (stepRegistered Env.sample (after Env.sample [.createTextRoom 5])
      (Server.success (Env.sample.random 0) 7)).map (·.2.2) = [.peer 0 .onCreateVideoRoom] := by
    decide +kernel
  rw [show after Env.sample [.createTextRoom 5] =
    after Env.sample ([] ++ RoomOperation.createTextRoom.input 5 :: []) from rfl, registered] at waiting
  simp [RoomOperation.outcome] at waiting

end WebrtcDemo
