import WebrtcDemo.Run.Peers

/-!
# Creating and destroying video rooms

All requests to create or destroy a video room go through one peer, which stores
the room of the last request and reads it when an attach reply comes. So the
message that goes out on a reply is for the room of the last request made by
then, whichever request the reply belongs to.
-/

namespace WebrtcDemo

open JanusVideoRoomManager (construct)

/-- A call of `CreateVideoRoom` or `DestoryVideoRoom`. -/
inductive VideoCall where
  | create (roomId : Int32)
  | destory (roomId : Int32)

namespace VideoCall

def roomId : VideoCall → Int32
  | create roomId => roomId
  | destory roomId => roomId

def input : VideoCall → Input
  | create roomId => .createVideoRoom roomId
  | destory roomId => .destoryVideoRoom roomId

/-- The continuation of the attach request that the call makes. -/
def member : VideoCall → PeerMember
  | create _ => .onAttachVideoRoomCreate
  | destory _ => .onAttachVideoRoomDestory

/-- The request proper, for a room. -/
def body : VideoCall → UInt32 → Body
  | create _ => .create
  | destory _ => .destroy

end VideoCall

/-- The room an input asks to create or destroy, if it is such a call. -/
def Input.videoRoom? : Input → Option Int32
  | .createVideoRoom roomId => some roomId
  | .destoryVideoRoom roomId => some roomId
  | _ => none

/-- The room of the last call in `is`, or `roomId` where there is none. -/
def lastRoom (roomId : Int32) (is : List Input) : Int32 :=
  is.foldl (fun last i => i.videoRoom?.getD last) roomId

/-- The step answers `call` with one message, and that carries the room of the call. -/
def CarriesRoom (env : Env) (s : Client) (i : Input) (call : VideoCall) : Prop :=
  ∃ p m room, stepMessages env s i = [(some p, m)] ∧ m.body? = some (call.body room) ∧
    (room.toNat : Int) = call.roomId.toInt

/-- The attach request `t` of `call` waits at the administrative peer `p`, which
stores `room`. -/
structure Serving (call : VideoCall) (t : String) (room : UInt32) (p : Ptr) (s : Client) : Prop where
  waits : s.pending (.success, t) = some (.peer p call.member)
  holds : s.admin .video = some p
  room : ∃ x, s.peers p = some x ∧ x.mVideoRoomId = room

section
variable {env : Env} {s : Client}

variable (env) in
/-- A call asks for a handle at the administrative peer, made first if there is none. -/
theorem VideoCall.served (owned : Owned s) (call : VideoCall) :
    ∃ p, Serving call (env.random s.draws) call.roomId.toUInt32 p (step env s call.input) ∧
      ∀ q, s.admin .video = some q → p = q := by
  have asked : ∀ t : Client, t.draws = s.draws → ∀ p x, t.admin .video = some p →
      t.peers p = some x → Serving call (env.random s.draws) call.roomId.toUInt32 p
        (JanusPeerConnection.requestAttach env t p .videoroom
          ({ · with mVideoRoomId := call.roomId.toUInt32 }) call.member) := by
    intro t draws p x holds alive
    rw [JanusPeerConnection.requestAttach_live env alive]
    exact ⟨by simp [Client.ask_pending, draws], by simpa using holds, _, by simp; rfl, rfl⟩
  have request : call.input.adminRequest? = some (.video, call.roomId, call.member) := by
    cases call <;> rfl
  rw [step_administers request]
  rcases holds : s.admin .video with _ | p
  · exact ⟨s.constructed, asked ((construct s _).appoint .video s.constructed) (by simp) _ _ rfl
      (by simp; rfl), fun q same => absurd same (by simp)⟩
  · obtain ⟨x, alive⟩ := Option.isSome_iff_exists.1 (owned.live p (Client.admin_holders holds))
    exact ⟨p, asked s rfl p x holds alive, fun q same => Option.some.inj same⟩

variable {call : VideoCall} {t : String} {room : UInt32} {p : Ptr}

/-- The inputs that ask for a video room are the calls. -/
theorem Input.call_of_videoRoom {i : Input} {roomId : Int32} (asks : i.videoRoom? = some roomId) :
    ∃ call : VideoCall, i = call.input ∧ call.roomId = roomId := by
  cases i with
  | createVideoRoom r => exact ⟨.create r, rfl, Option.some.inj asks⟩
  | destoryVideoRoom r => exact ⟨.destory r, rfl, Option.some.inj asks⟩
  | _ => simp [Input.videoRoom?] at asks

theorem Input.videoRoom_of_admin {i : Input} {roomId : Int32} {member : PeerMember}
    (request : i.adminRequest? = some (.video, roomId, member)) : i.videoRoom? = some roomId := by
  cases i <;> simp [Input.adminRequest?] at request
  all_goals simp [Input.videoRoom?, request.1]

/-- While its reply is awaited, a call is served from the room of the last call. -/
theorem Serving.step (serving : Serving call t room p s) (owned : Owned s)
    (ledgered : Ledgered env s) {i : Input} (distinct : (step env s i).Distinct env)
    (unanswered : ∀ object, ¬ i.Answers .success t object) :
    Serving call t ((i.videoRoom?.map Int32.toUInt32).getD room) p (step env s i) := by
  have waits := ledgered.waits_step distinct serving.waits unanswered
  obtain ⟨x, alive, same⟩ := serving.room
  rcases asks : i.videoRoom? with _ | roomId
  · have unlisted : ∀ room, i.leaves? = some room → p ∉ s.listed room :=
      fun room _ => owned.admin_unlisted serving.holds room
    have follows := step_follows env _ owned alive unlisted
    obtain ⟨y, alive', -, -, -, kept | ⟨-, roomId, member, request⟩⟩ := follows.alive
    · exact ⟨waits, (follows.admin .video).2 serving.holds, y, alive', kept.trans same⟩
    · simp [Input.videoRoom_of_admin request] at asks
  · obtain ⟨other, rfl, rfl⟩ := Input.call_of_videoRoom asks
    obtain ⟨q, served, only⟩ := other.served env owned
    obtain rfl : q = p := only p serving.holds
    exact ⟨waits, served.holds, served.room⟩

theorem Serving.run (serving : Serving call t room p s) (owned : Owned s)
    (ledgered : Ledgered env s) {is : List Input}
    (distinct : (Machine.run (WebrtcDemo.step env) s is).Distinct env)
    (unanswered : ∀ k ∈ is, ∀ object, ¬ k.Answers .success t object) (roomId : Int32)
    (start : room = roomId.toUInt32) :
    Serving call t (lastRoom roomId is).toUInt32 p (Machine.run (WebrtcDemo.step env) s is) := by
  induction is generalizing s room roomId with
  | nil => exact start ▸ serving
  | cons k more ih =>
    have distinct' : (WebrtcDemo.step env s k).Distinct env :=
      distinct.of_le (run_draws_le env _ more)
    refine ih (serving.step owned ledgered distinct' (unanswered k List.mem_cons_self))
      (owned.step k) (ledgered.stepped k distinct') distinct
      (fun k member => unanswered k (List.mem_cons_of_mem _ member)) (k.videoRoom?.getD roomId) ?_
    rw [start]
    cases k.videoRoom? <;> rfl

variable (env) in
/-- The reply sends the request proper, for the room stored by then. -/
theorem Serving.answered (serving : Serving call t room p s) {i : Input} {object : Json}
    (reply : i.Answers .success t object) :
    ∃ m, stepMessages env s i = [(some p, m)] ∧ m.body? = some (call.body room) := by
  obtain ⟨x, alive, rfl⟩ := serving.room
  have isAdmin : ∃ todo, adminStep call.member = some todo ∧ todo.room = .video ∧
      todo.body (todo.room.setHandle (JanusPeerConnection.replyId object) x) =
        call.body x.mVideoRoomId := by
    cases call <;> exact ⟨_, rfl, rfl, rfl⟩
  obtain ⟨todo, isAdmin, video, body⟩ := isAdmin
  have answer : Answer i s .success t (.peer p call.member) object := ⟨reply, serving.waits⟩
  rw [stepMessages, step_answered answer, JanusVideoRoomManager.callContinuation,
    JanusPeerConnection.callMember_admin env isAdmin (by simpa using alive)]
  simp only [Client.ask_log, Client.setPeer_log, Client.take_log, List.append_assoc,
    List.drop_left, body]
  exact ⟨_, rfl, rfl⟩

end

/-- The 32 bits of a room stand for its number where it is not negative. -/
theorem toNat_toUInt32 {roomId : Int32} (nonneg : 0 ≤ roomId.toInt) :
    (roomId.toUInt32.toNat : Int) = roomId.toInt := by
  have le : 0 ≤ roomId := Int32.le_iff_toInt_le.2 nonneg
  rw [Int32.toNat_toUInt32_of_le le, Int32.toNatClampNeg]
  exact Int.toNat_of_nonneg nonneg

theorem room_eq_iff (last asked : Int32) :
    (last.toUInt32.toNat : Int) = asked.toInt ↔ 0 ≤ asked.toInt ∧ last = asked := by
  constructor
  · intro same
    have nonneg : 0 ≤ asked.toInt := same ▸ Int.natCast_nonneg _
    rw [← toNat_toUInt32 nonneg, Int.natCast_inj, UInt32.toNat_inj] at same
    refine ⟨nonneg, ?_⟩
    rw [← Int32.toInt32_toUInt32 last, same, Int32.toInt32_toUInt32]
  · rintro ⟨nonneg, rfl⟩
    exact toNat_toUInt32 nonneg

/-- **A reply carries the room of its call** if and only if that is no negative number
and no call for another room was the last one made meanwhile. -/
theorem carriesRoom_iff (env : Env) (js : List Input) (call : VideoCall) (is : List Input)
    (i : Input) (object : Json)
    (distinct : (after env (js ++ call.input :: is ++ [i])).Distinct env)
    (unanswered : ∀ k ∈ is, ∀ object,
      ¬ k.Answers .success (env.random (after env js).draws) object)
    (reply : i.Answers .success (env.random (after env js).draws) object) :
    CarriesRoom env (after env (js ++ call.input :: is)) i call ↔
      0 ≤ call.roomId.toInt ∧ lastRoom call.roomId is = call.roomId := by
  have owned := owned_after env js
  have ends : after env (js ++ call.input :: is) =
      Machine.run (step env) (step env (after env js) call.input) is := after_append env js _
  have distinctEnd : (Machine.run (step env) (step env (after env js) call.input) is).Distinct env := by
    refine Client.Distinct.of_le distinct ?_
    have last : after env (js ++ call.input :: is ++ [i]) = Machine.run (step env)
        (Machine.run (step env) (step env (after env js) call.input) is) [i] := by
      rw [after_append, ends]
    rw [last]
    exact run_draws_le env _ [i]
  have distinctCall := distinctEnd.of_le (run_draws_le env _ is)
  have ledgered := ledgered_after js (distinctCall.of_le (step_draws_le env _ _))
  obtain ⟨p, asked, -⟩ := call.served env owned
  have serving := asked.run (owned.step call.input) (ledgered.stepped _ distinctCall) distinctEnd
    unanswered call.roomId rfl
  obtain ⟨m, messages, body⟩ := serving.answered env reply
  rw [ends, ← room_eq_iff]
  constructor
  · rintro ⟨q, m', room, messages', body', same⟩
    obtain ⟨rfl, rfl⟩ : p = q ∧ m = m' := by
      simpa using messages.symm.trans messages'
    obtain rfl : room = (lastRoom call.roomId is).toUInt32 := by
      have bodies := body'.symm.trans body
      cases call <;> simpa [VideoCall.body] using bodies
    exact same
  · intro same
    exact ⟨p, m, _, messages, body, same⟩

/-- The room is to be destroyed again before the reply that creates it. -/
theorem carriesRoom_again :
    CarriesRoom Env.sample (after Env.sample [.createVideoRoom 5, .destoryVideoRoom 5])
      (Server.success (Env.sample.random 0) 7) (.create 5) :=
  (carriesRoom_iff Env.sample [] (.create 5) [.destoryVideoRoom 5] _ _
    (sample_distinct (by decide +kernel)) (by simp [Input.Answers])
    ⟨rfl, by decide +kernel, by decide +kernel⟩).2 ⟨by decide, rfl⟩

/-- Two rooms are created, and the reply to the first request creates the second room. -/
theorem create_create_wrong : ¬ ∀ (env : Env) (js : List Input) (call : VideoCall)
    (is : List Input) (i : Input) (object : Json),
    (after env (js ++ call.input :: is ++ [i])).Distinct env →
    (∀ k ∈ is, ∀ object, ¬ k.Answers .success (env.random (after env js).draws) object) →
    i.Answers .success (env.random (after env js).draws) object →
    CarriesRoom env (after env (js ++ call.input :: is)) i call := by
  intro always
  obtain ⟨p, m, room, messages, body, same⟩ := always Env.sample [] (.create 1)
    [.createVideoRoom 2] (Server.success (Env.sample.random 0) 7) _
    (sample_distinct (by decide +kernel)) (by simp [Input.Answers])
    ⟨rfl, by decide +kernel, by decide +kernel⟩
  have sent : (stepMessages Env.sample (after Env.sample [.createVideoRoom 1, .createVideoRoom 2])
      (Server.success (Env.sample.random 0) 7)).map (·.2.body?) = [some (.create 2)] := by
    decide +kernel
  have room_two : room = 2 := by
    have messages : stepMessages Env.sample
        (after Env.sample [.createVideoRoom 1, .createVideoRoom 2])
        (Server.success (Env.sample.random 0) 7) = [(some p, m)] := messages
    rw [messages] at sent
    simpa [body, VideoCall.body] using sent
  subst room_two
  exact absurd same (by decide)

end WebrtcDemo
