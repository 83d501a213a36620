import WebrtcDemo.Run.Session
import WebrtcDemo.Run.Handles
import WebrtcDemo.Run.Unpublish

/-!
# The ids that go back

The server names a session, a handle, a feed by a JSON integer. The client reads each
through its text into a `long long`, keeps it, and writes it as a `double`. So the number
that goes back is the one that came exactly where that has at most 53 significant bits,
and of the numbers of that kind no two are sent as one.
-/

namespace WebrtcDemo

open JanusVideoRoomManager (construct dataObj registerRoomCallbacks newPeer)
open JanusPeerConnection (replyId)

/-! ## What is read and what is written -/

/-- The integer has at most 53 significant bits. -/
def Significant (n : Int) : Prop := ∃ a k : Nat, a < 2 ^ 53 ∧ n.natAbs = a * 2 ^ k

/-- What the client makes of an id. -/
def readId (id : Json) : Int := Numeral.atoll (JsonValueToString id)

theorem castDouble_eq_iff {n : Int} : castDouble n = n ↔ Significant n := by
  rw [Significant, ← Rounding.roundBits_eq_self_iff, castDouble]
  rcases eq_or_ne n 0 with rfl | nonzero
  · decide
  · constructor
    · intro same
      have same : n.sign * Rounding.roundBits 53 n.natAbs = n.sign * n.natAbs :=
        same.trans (Int.sign_mul_natAbs n).symm
      have sign : n.sign ≠ 0 := fun zero => nonzero (Int.sign_eq_zero_iff_zero.1 zero)
      exact_mod_cast mul_left_cancel₀ sign same
    · intro same
      rw [same, Int.sign_mul_natAbs]

theorem readId_int {n : Int} (low : Numeral.llongMin ≤ n) (high : n ≤ Numeral.llongMax) :
    readId (.int n) = n := by
  rw [readId, atoll_int low high]

/-- The `data.id` of a reply. -/
def dataId (object : Json) : Json := (object.member "data").member "id"

/-- The handle that a member function sets. -/
def PeerMember.sets? : PeerMember → Option RoomKind
  | .onAttachVideoRoomJoin | .onAttachVideoRoomCreate | .onAttachVideoRoomDestory => some .video
  | .onAttachTextRoomJoin | .onAttachTextRoomCreate | .onAttachTextRoomDestory => some .text
  | _ => none

/-- The id of a session that the effect brings. -/
def Effect.sessionId? : Effect → Option Json
  | .invoked _ _ .onCreateSessionId object => some (dataId object)
  | _ => none

/-- The id that the effect brings to the peer `p` for its handle. -/
def Effect.handleId? (p : Ptr) (room : RoomKind) : Effect → Option Json
  | .invoked _ _ (.peer q member) object =>
    if q = p ∧ member.sets? = some room then some (dataId object) else none
  | _ => none

/-- The session ids that the server has returned. -/
def sessionIds (log : List Effect) : List Json := log.filterMap Effect.sessionId?

/-- The handle ids that the server has returned to the peer `p`. -/
def handleIds (log : List Effect) (p : Ptr) (room : RoomKind) : List Json :=
  log.filterMap (Effect.handleId? p room)

/-- What memory holds of the handle of a peer before a reply sets it. -/
def RoomKind.unset : RoomKind → Junk → Int
  | video, junk => junk.mVideoRoomHandleID
  | text, junk => junk.mTextRoomHandleID

/-- The id returned last, or what is there before any is. -/
def lastId (ids : List Json) (unset : Int) : Int := (ids.map readId).getLastD unset

/-- The session that the server has established last. -/
def sessionOf (log : List Effect) : Int := lastId (sessionIds log) 0

/-- The handle that the server has assigned to the peer last. -/
def handleOf (env : Env) (log : List Effect) (p : Ptr) (room : RoomKind) : Int :=
  lastId (handleIds log p room) (room.unset (env.junk p))

/-- The server has listed the feed `id` among the publishers of an event. -/
def ListsFeed (is : List Input) (id : Json) : Prop :=
  ∃ i ∈ is, ∃ object, i.Reports object ∧
    ∃ publisher ∈ JsonArrayToValueVector ((dataObj object).member "publishers"),
      publisher.member "id" = id

/-- The ids of a message sent after `log` are casts of what the server has returned: the
session is the one at some earlier moment, the handle is that of the sender. -/
structure Echoes (env : Env) (is : List Input) (log : List Effect) (sender : Option Ptr)
    (m : Message) : Prop where
  session : m.request ≠ .create →
    ∃ earlier, earlier <+: log ∧ m.session_id = some (castDouble (sessionOf earlier))
  handle : ∀ v, m.handle_id? = some v →
    ∃ p room, sender = some p ∧ v = castDouble (handleOf env log p room)
  feed : ∀ v, m.request.feed? = some v → ∃ id, ListsFeed is id ∧ v = castDouble (readId id)

/-! ## Handles and feeds -/

/-- The peer `p` may be `x`: its handles have come to it, and its feed is one of `fed`. -/
structure Client.Fits (env : Env) (fed : Int → Prop) (s : Client) (p : Ptr)
    (x : JanusPeerConnection) : Prop where
  handle : ∀ room : RoomKind, room.handle x = handleOf env s.log p room
  feed : x.mSubscribeId = 0 ∨ fed x.mSubscribeId

/-- The peers hold, and have written, what has come to them. -/
structure Repeats (env : Env) (fed : Int → Prop) (s : Client) : Prop where
  peers : ∀ p x, s.peers p = some x → s.Fits env fed p x
  unborn : ∀ p room, s.constructed ≤ p → handleIds s.log p room = []
  handles : ∀ log sender m v, log ++ [.sent sender m] <+: s.log → m.handle_id? = some v →
    ∃ p room, sender = some p ∧ v = castDouble (handleOf env log p room)
  feeds : ∀ sender m v, .sent sender m ∈ s.log → m.request.feed? = some v →
    ∃ n, fed n ∧ v = castDouble n

section
variable {env : Env} {fed : Int → Prop} {i : Input} {s s' : Client} {p : Ptr}
  {x : JanusPeerConnection} {n : Int} {log : List Effect} {room : RoomKind} {kind : ReplyKind}
  {t : String} {func : Continuation} {member : PeerMember} {object : Json}

theorem lastId_append {ids : List Json} {id : Json} {unset : Int} :
    lastId (ids ++ [id]) unset = readId id := by
  simp [lastId]

/-! ### The ids in a log -/

theorem handleIds_other (other : ∀ member, func = .peer p member → member.sets? ≠ some room) :
    handleIds (log ++ [.invoked kind t func object]) p room = handleIds log p room := by
  rw [handleIds, List.filterMap_append, handleIds]
  refine (congrArg (_ ++ ·) ?_).trans (List.append_nil _)
  rcases func with _ | _ | ⟨q, member⟩
  · rfl
  · rfl
  · have elsewhere : ¬ (q = p ∧ member.sets? = some room) := by
      rintro ⟨rfl, sets⟩
      exact other member rfl sets
    simp [Effect.handleId?, elsewhere]

theorem handleIds_own (sets : member.sets? = some room) :
    handleIds (log ++ [.invoked kind t (.peer p member) object]) p room =
      handleIds log p room ++ [dataId object] := by
  simp [handleIds, Effect.handleId?, sets]

theorem Extends.handleIds (more : Extends s s') (p : Ptr) (room : RoomKind) :
    handleIds s'.log p room = handleIds s.log p room := by
  obtain ⟨effects, log, quiet⟩ := more
  have nothing : effects.filterMap (Effect.handleId? p room) = [] := by
    refine List.filterMap_eq_nil_iff.2 fun e member => ?_
    have := quiet e member
    cases e <;> first | rfl | simp [Effect.isExchange] at this
  rw [WebrtcDemo.handleIds, log, List.filterMap_append, nothing, List.append_nil, WebrtcDemo.handleIds]

theorem PeerMember.sets?_joined : room.joined.sets? = some room := by
  cases room <;> rfl

theorem PeerMember.sets?_admin {todo : AdminStep} (isAdmin : adminStep member = some todo) :
    member.sets? = some todo.room := by
  cases member <;> simp only [adminStep, reduceCtorEq, Option.some.injEq] at isAdmin <;>
    subst isAdmin <;> rfl

theorem PeerMember.sets?_outcome (reads : member.isOutcome) : member.sets? = none := by
  cases member <;> simp [isOutcome] at reads <;> rfl

/-! ### What a peer holds -/

theorem Client.Fits.congr (fits : s.Fits env fed p x)
    (same : ∀ room, handleIds s'.log p room = handleIds s.log p room) : s'.Fits env fed p x where
  handle room := by rw [fits.handle room, handleOf, handleOf, same]
  feed := fits.feed

theorem Client.Fits.setRoom (fits : s.Fits env fed p x) (room : RoomKind) (roomId : UInt32) :
    s.Fits env fed p (room.setRoom roomId x) where
  handle room' := by rw [RoomKind.setRoom_handle, fits.handle room']
  feed := by
    rw [RoomKind.setRoom_feed]
    exact fits.feed

/-- A new peer has the handles that memory holds. -/
theorem Client.Fits.anew (unborn : ∀ room, handleIds s.log p room = [])
    (video : x.mVideoRoomHandleID = (env.junk p).mVideoRoomHandleID)
    (text : x.mTextRoomHandleID = (env.junk p).mTextRoomHandleID)
    (feed : x.mSubscribeId = 0 ∨ fed x.mSubscribeId) : s.Fits env fed p x where
  handle room := by
    rw [handleOf, unborn]
    cases room
    · exact video
    · exact text
  feed := feed

/-- An attach reply sets the handle that it brings. -/
theorem Client.Fits.assign (fits : s.Fits env fed p x) (sets : member.sets? = some room)
    (log : s'.log = s.log ++ [.invoked kind t (.peer p member) object]) :
    s'.Fits env fed p (room.setHandle (replyId object) x) where
  handle room' := by
    rw [RoomKind.setHandle_handle, handleOf, log]
    split_ifs with same
    · subst same
      rw [handleIds_own sets, lastId_append]
      rfl
    · have other : ∀ member', Continuation.peer p member = .peer p member' →
          member'.sets? ≠ some room' := by
        rintro _ ⟨⟩ sets'
        exact same (Option.some.inj (sets'.symm.trans sets))
      rw [handleIds_other other, fits.handle room', handleOf]
  feed := by
    rw [RoomKind.setHandle_feed]
    exact fits.feed

namespace Repeats

theorem keep (repeats : Repeats env fed s) (more : Extends s s')
    (constructed : s.constructed ≤ s'.constructed)
    (peers : ∀ p x, s'.peers p = some x → s.Fits env fed p x) : Repeats env fed s' where
  peers p x alive := (peers p x alive).congr (more.handleIds p)
  unborn p room new := by rw [more.handleIds, repeats.unborn p room (constructed.trans new)]
  handles log sender m v early := repeats.handles log sender m v (more.earlier rfl early)
  feeds sender m v sent := repeats.feeds sender m v (more.mem rfl sent)

theorem same (repeats : Repeats env fed s) (log : s'.log = s.log) (peers : s'.peers = s.peers)
    (constructed : s'.constructed = s.constructed) : Repeats env fed s' :=
  repeats.keep (.same log) constructed.ge fun p x alive => repeats.peers p x (peers ▸ alive)

theorem quiet (repeats : Repeats env fed s) (same : Quiet i s s') : Repeats env fed s' :=
  repeats.keep same.extends same.constructed.ge fun p x alive => repeats.peers p x (same.peers ▸ alive)

/-- A continuation runs. -/
theorem invoke (repeats : Repeats env fed s)
    (log : s'.log = s.log ++ [.invoked kind t func object])
    (constructed : s'.constructed = s.constructed)
    (bound : ∀ p member, func = .peer p member → p < s.constructed)
    (peers : ∀ p x, s'.peers p = some x → s'.Fits env fed p x) : Repeats env fed s' where
  peers := peers
  unborn p room new := by
    rw [constructed] at new
    rw [log, handleIds_other fun member same => absurd (bound p member same) new.not_gt,
      repeats.unborn p room new]
  handles log' sender m v early := by
    rw [log] at early
    exact repeats.handles log' sender m v (earlier_of_concat (by simp) early)
  feeds sender m v sent := by
    rw [log] at sent
    exact repeats.feeds sender m v (by simpa using sent)

/-- One that sets no handle of a live peer. -/
theorem take (repeats : Repeats env fed s)
    (bound : ∀ p member, func = .peer p member → p < s.constructed)
    (other : ∀ p x member room, s.peers p = some x → func = .peer p member → member.sets? ≠ some room) :
    Repeats env fed (s.take kind t func object) := by
  refine repeats.invoke Client.take_log Client.take_constructed bound fun p x alive => ?_
  rw [Client.take_peers] at alive
  refine (repeats.peers p x alive).congr fun room => ?_
  rw [Client.take_log, handleIds_other fun member same => other p x member room alive same]

/-- One that sets a handle. -/
theorem assign (repeats : Repeats env fed s) (alive : s.peers p = some x) (older : p < s.constructed)
    (sets : member.sets? = some room) :
    Repeats env fed ((s.take kind t (.peer p member) object).setPeer p
      (room.setHandle (replyId object) x)) := by
  have log : (s.take kind t (.peer p member) object).log =
      s.log ++ [.invoked kind t (.peer p member) object] := Client.take_log
  refine repeats.invoke log (by simp) (fun q _ same => ?_) fun q y alive' => ?_
  · injection same with same _
    exact same ▸ older
  · rw [Client.setPeer_peers, Client.take_peers, Function.update_apply] at alive'
    split_ifs at alive' with here
    · obtain rfl := Option.some.inj alive'
      subst here
      exact (repeats.peers q x alive).assign sets log
    · refine (repeats.peers q y alive').congr fun room' => ?_
      rw [Client.setPeer_log, log, handleIds_other]
      intro _ same
      injection same with same _
      exact absurd same.symm here

theorem speak (repeats : Repeats env fed s) {sender : Option Ptr} (session : Option Int)
    {request : Request}
    (handle : ∀ t v, Message.handle_id? ⟨t, session, request⟩ = some v →
      ∃ p room, sender = some p ∧ v = castDouble (handleOf env s.log p room))
    (feed : ∀ v, request.feed? = some v → ∃ n, fed n ∧ v = castDouble n) :
    Repeats env fed (s.speak env sender session request) := by
  have log : (s.speak env sender session request).log = s.log ++ [.sent sender
      { transaction := env.random s.draws, session_id := session, request }] := Client.speak_log
  have ids (p room) : handleIds (s.speak env sender session request).log p room =
      handleIds s.log p room := by simp [log, handleIds, Effect.handleId?]
  refine ⟨fun p x alive => (repeats.peers p x alive).congr (ids p), fun p room new => ?_,
    fun log' sender' m v early carries => ?_, fun sender' m v sent carries => ?_⟩
  · rw [ids, repeats.unborn p room new]
  · rw [log, List.prefix_concat_iff] at early
    rcases early with last | early
    · obtain ⟨rfl, same⟩ := List.append_inj' last rfl
      obtain ⟨rfl, rfl⟩ : sender' = sender ∧ m = _ := by simpa using same
      exact handle _ v carries
    · exact repeats.handles log' sender' m v early carries
  · rw [log, List.mem_append, List.mem_singleton] at sent
    rcases sent with early | last
    · exact repeats.feeds sender' m v early carries
    · obtain ⟨rfl, rfl⟩ : sender' = sender ∧ m = _ := by simpa using last
      exact feed v carries

theorem ask (repeats : Repeats env fed s) {sender : Option Ptr} (session : Option Int)
    {request : Request} (kind : ReplyKind) (func : Continuation)
    (handle : ∀ t v, Message.handle_id? ⟨t, session, request⟩ = some v →
      ∃ p room, sender = some p ∧ v = castDouble (handleOf env s.log p room))
    (feed : ∀ v, request.feed? = some v → ∃ n, fed n ∧ v = castDouble n) :
    Repeats env fed (s.ask env sender session request kind func) := by
  have spoken : Repeats env fed (s.speak env sender session request) := repeats.speak session handle feed
  exact spoken.keep .ask (by simp) fun p x alive => spoken.peers p x (by simpa using alive)

/-- A request with neither handle nor feed. -/
theorem askPlain (repeats : Repeats env fed s) {sender : Option Ptr} (session : Option Int)
    {request : Request} (kind : ReplyKind) (func : Continuation)
    (handless : ∀ t, Message.handle_id? ⟨t, session, request⟩ = none) (unfed : request.feed? = none) :
    Repeats env fed (s.ask env sender session request kind func) :=
  repeats.ask session kind func (fun t v carries => by simp [handless t] at carries)
    fun v carries => by simp [unfed] at carries

/-- A new peer. -/
theorem adopt (repeats : Repeats env fed s)
    (video : x.mVideoRoomHandleID = (env.junk s.constructed).mVideoRoomHandleID)
    (text : x.mTextRoomHandleID = (env.junk s.constructed).mTextRoomHandleID)
    (feed : x.mSubscribeId = 0 ∨ fed x.mSubscribeId) : Repeats env fed (construct s x) := by
  refine repeats.keep (.same rfl) (Nat.le_succ _) fun p y alive => ?_
  rw [Client.construct_peers, Function.update_apply] at alive
  split_ifs at alive with here
  · obtain rfl := Option.some.inj alive
    subst here
    exact .anew (fun room => repeats.unborn _ room le_rfl) video text feed
  · exact repeats.peers p y alive

theorem transition (repeats : Repeats env fed s) (owned : Owned s)
    (announced : ∀ v, i.Announces v → fed v) (taken : Transition env i s s') :
    Repeats env fed s' := by
  cases taken with
  | quiet same => exact repeats.quiet same
  | drawn => exact repeats.same rfl rfl rfl
  | settings => exact repeats.same rfl rfl rfl
  | manage own =>
    refine repeats.askPlain _ _ _ (fun _ => ?_) ?_
    · cases own <;> rfl
    · cases own <;> rfl
  | attach room peer video text feed =>
    have fed' : peer.mSubscribeId = 0 ∨ fed peer.mSubscribeId :=
      feed.imp_right fun subscribes => announced _ subscribes.2.2
    have listed : Repeats env fed ((construct s peer).enlist room s.constructed) :=
      (repeats.adopt video text fed').same (by simp) (by simp) (by simp)
    exact listed.askPlain _ _ _ (fun _ => rfl) rfl
  | appoint room peer _ unsubscribed video text =>
    exact (repeats.adopt video text (Or.inl unsubscribed)).same (by simp) (by simp) (by simp)
  | @administer p x room roomId _ _ _ alive =>
    have named : Repeats env fed (s.setPeer p (room.setRoom roomId.toUInt32 x)) := by
      refine repeats.keep (.same rfl) le_rfl fun q y alive' => ?_
      rw [Client.setPeer_peers, Function.update_apply] at alive'
      split_ifs at alive' with here
      · obtain rfl := Option.some.inj alive'
        subst here
        exact (repeats.peers q x alive).setRoom _ _
      · exact repeats.peers q y alive'
    exact named.askPlain _ _ _ (fun _ => rfl) rfl
  | lost => exact repeats.same rfl rfl rfl
  | unlist => exact repeats.same rfl rfl rfl
  | leave room =>
    refine repeats.keep (.same (by simp)) (by simp) fun p x alive => repeats.peers p x ?_
    rw [owned.leave_peers] at alive
    dsimp only at alive
    split_ifs at alive
    exact alive
  | @speak p x request room _ alive _ own =>
    refine repeats.speak _ (fun t v carries => ?_) fun v carries => ?_
    · rw [own.handle_id?, (repeats.peers p x alive).handle room] at carries
      exact ⟨p, room, rfl, (Option.some.inj carries).symm⟩
    · simp [Request.feed?_none own.join?_none] at carries

theorem reply (repeats : Repeats env fed s) (made : Made s) (answered : Reply env i s s') :
    Repeats env fed s' := by
  cases answered with
  | session => exact (repeats.take (by simp) (by simp)).same rfl rfl rfl
  | @heartBeat kind t object =>
    have taken : Repeats env fed (s.take kind t .onHeartBeat object) := repeats.take (by simp) (by simp)
    exact taken.keep ⟨[.resetTimer], rfl, by simp [Effect.isExchange]⟩ le_rfl taken.peers
  | @dead kind t p member object answer gone =>
    have older := made.awaited _ _ _ answer.waiting
    refine (repeats.take (fun q _ same => ?_) fun q x _ _ alive same => ?_).same rfl rfl rfl
    · injection same with same _
      exact same ▸ older
    · injection same with same _
      simp [← same, gone] at alive
  | @joined kind t p object x room answer alive =>
    have older := made.awaited _ _ _ answer.waiting
    have assigned : Repeats env fed ((s.take kind t (.peer p room.joined) object).setPeer p
        (room.setHandle (replyId object) x)) := repeats.assign alive older PeerMember.sets?_joined
    have held := (assigned.peers p _ Client.setPeer_self).handle room
    rw [RoomKind.setHandle_handle, if_pos rfl] at held
    refine assigned.speak _ (fun _ v carries => ⟨p, room, rfl, ?_⟩) fun v carries => ?_
    · rw [← held]
      exact (Option.some.inj carries).symm
    · cases room with
      | text => simp [RoomKind.opening, Request.feed?] at carries
      | video =>
        rw [RoomKind.opening, joinBody_feed?] at carries
        split_ifs at carries with publishes
        rw [RoomKind.setHandle_feed] at carries publishes
        exact ⟨_, (repeats.peers p x alive).feed.resolve_left publishes, (Option.some.inj carries).symm⟩
  | @admin kind t p member object x todo isAdmin answer alive =>
    have older := made.awaited _ _ _ answer.waiting
    have assigned : Repeats env fed ((s.take kind t (.peer p member) object).setPeer p
        (todo.room.setHandle (replyId object) x)) :=
      repeats.assign alive older (PeerMember.sets?_admin isAdmin)
    have held := (assigned.peers p _ Client.setPeer_self).handle todo.room
    rw [RoomKind.setHandle_handle, if_pos rfl] at held
    refine assigned.ask _ _ _ (fun _ v carries => ⟨p, todo.room, rfl, ?_⟩) fun v carries => ?_
    · rw [← held]
      exact (Option.some.inj carries).symm
    · simp [Request.feed?_none (adminStep_join?_none isAdmin _ _).1] at carries
  | @outcome s' kind t p member object x reads answer alive same =>
    have older := made.awaited _ _ _ answer.waiting
    refine (repeats.take (fun q _ bound => ?_) fun q _ _ _ _ bound => ?_).quiet same
    · injection bound with bound _
      exact bound ▸ older
    · injection bound with _ bound
      simp [← bound, PeerMember.sets?_outcome reads]

end Repeats

/-! ## Sessions -/

/-- The manager is of the session that the server has established last, the peers are of
one that was so earlier, and they have spoken in no others. -/
structure Seated (s : Client) : Prop where
  manager : s.janus.mSessionId = sessionOf s.log
  peers : ∀ p x, s.peers p = some x → ∃ earlier, earlier <+: s.log ∧ x.mSessionID = sessionOf earlier
  said : ∀ log sender m, log ++ [.sent sender m] <+: s.log → m.request ≠ .create →
    ∃ earlier, earlier <+: log ∧ m.session_id = some (castDouble (sessionOf earlier))

theorem sessionOf_log : sessionOf s.log = s.sessions.getLastD 0 := by
  rw [sessionOf, lastId, sessionIds, List.map_filterMap, Client.sessions]
  congr 2
  funext e
  cases e with
  | invoked kind t func object => cases func <;> rfl
  | _ => rfl

variable (env s) in
/-- The log only grows. -/
theorem step_log (i : Input) : s.log <+: (step env s i).log := by
  rcases step_cases env s i with ⟨kind, t, func, object, answer, ran⟩ | chain
  · have grows : Grows env (s.take kind t func object) (step env s i) :=
      ran ▸ callContinuation_grows _ func object
    obtain ⟨effects, log, -⟩ := grows.log
    rw [log, Client.take_log, List.append_assoc]
    exact List.prefix_append _ _
  · refine Machine.transitions_keep (P := fun t : Client => s.log <+: t.log) (fun _ _ taken before => ?_)
      chain List.prefix_rfl
    obtain ⟨effects, log, -⟩ := taken.grows.log
    exact before.trans (log ▸ List.prefix_append _ _)

theorem OnStateChange_peers (stream : Ptr) :
    (WebrtcStreamDataChannels.OnStateChange env s stream).peers = s.peers := by
  rcases OnStateChange_quiet .socketConnected stream with same | same
  · exact same.peers
  · exact same.peers

/-- No peer is there before it is made. -/
theorem Owned.unmade (owned : Owned s) (new : s.constructed ≤ p) : s.peers p ≠ some x :=
  fun there => new.not_gt (owned.below p (by simp [there]))

/-- What is there after a construction and was not before is what was constructed. -/
theorem Owned.newest (owned : Owned s) (new : s.constructed ≤ p) {y : JanusPeerConnection}
    (there : Function.update s.peers s.constructed (some y) p = some x) : x = y := by
  rw [Function.update_apply] at there
  split_ifs at there
  · exact (Option.some.inj there).symm
  · exact absurd there (owned.unmade new)

/-- A peer made by an administrative request is of the session of the manager. -/
theorem administer_adopts {room : RoomKind} {roomId : Int32} {member : PeerMember} (owned : Owned s)
    (request : i.adminRequest? = some (room, roomId, member)) (new : s.constructed ≤ p)
    (alive : (step env s i).peers p = some x) : x.mSessionID = s.janus.mSessionId := by
  rw [step_administers request] at alive
  rcases holds : s.admin room with _ | q
  · rw [holds, Option.elim_none] at alive
    have made : ((construct s (registerRoomCallbacks (newPeer env s))).appoint room s.constructed).peers
        s.constructed = some (registerRoomCallbacks (newPeer env s)) := by simp
    rw [JanusPeerConnection.requestAttach_live env made, Client.ask_peers, Client.setPeer_peers,
      Client.appoint_peers, Client.construct_peers, Function.update_idem] at alive
    rw [owned.newest new alive, RoomKind.setRoom_session]
    rfl
  · have held : q ∈ s.holders := Client.admin_holders holds
    obtain ⟨y, before⟩ := Option.isSome_iff_exists.1 (owned.live q held)
    have older : p ≠ q := fun same => new.not_gt (same ▸ owned.older held)
    rw [holds, Option.elim_some, JanusPeerConnection.requestAttach_live env before, Client.ask_peers,
      Client.setPeer_peers, Function.update_of_ne older] at alive
    exact absurd alive (owned.unmade new)

/-- A message makes peers of the session of the manager only. -/
theorem received_adopts {message : Option Json} (owned : Owned s) (new : s.constructed ≤ p)
    (alive : (step env s (.receivedMessage message)).peers p = some x) :
    x.mSessionID = s.janus.mSessionId := by
  have below : p < (step env s (.receivedMessage message)).constructed :=
    (owned.step _).below p (by simp [alive])
  rcases received_cases env s message with ⟨kind, t, func, object, answer, ran⟩ | ⟨-, ignored⟩ | ⟨object, event⟩
  · have reply : Reply env (.receivedMessage message) s (step env s (.receivedMessage message)) :=
      ran ▸ answer.reply
    rw [reply.same_peers.1] at below
    exact absurd below new.not_gt
  · rw [ignored] at alive
    exact absurd alive (owned.unmade new)
  · rcases publishes : (Input.receivedMessage message).publication? with _ | object
    · rw [(step_untagged event publishes).peers] at alive
      exact absurd alive (owned.unmade new)
    · have subscribed := step_subscribed env s (Input.publication?_iff.1 publishes)
      rw [subscribed.constructed] at below
      obtain ⟨k, rfl⟩ := Nat.exists_eq_add_of_le new
      have early : k < (newFeeds object).length := Nat.lt_of_add_lt_add_left below
      rw [← Option.some.inj ((subscribed.new k early).symm.trans alive)]
      rfl

/-- A message that was not there before a step comes after all that was. -/
theorem sent_late {sender : Option Ptr} {m : Message}
    (sent : log ++ [.sent sender m] <+: (step env s i).log)
    (new : ¬ log ++ [.sent sender m] <+: s.log) :
    s.log <+: log ∧ (sender, m) ∈ sentSince s (step env s i) := by
  have grown : s.log <+: log := by
    rcases List.prefix_or_prefix_of_prefix (step_log env s i) sent with less | more
    · exact (List.prefix_concat_iff.1 less).resolve_left fun all => new (all ▸ List.prefix_rfl)
    · exact absurd more new
  refine ⟨grown, ?_⟩
  obtain ⟨mid, rfl⟩ := grown
  obtain ⟨rest, log⟩ := sent
  have messages : (step env s i).messages = s.messages ++
      List.filterMap Effect.message? (mid ++ [.sent sender m] ++ rest) :=
    Client.messages_append (by simp [← log])
  rw [sentSince_append messages]
  simp [Effect.message?]

/-- **A peer that a step makes is of the session of the manager.** -/
theorem step_adopts (owned : Owned s) (sound : Sound s) (i : Input) (new : s.constructed ≤ p)
    (alive : (step env s i).peers p = some x) : x.mSessionID = s.janus.mSessionId := by
  have below : p < (step env s i).constructed := (owned.step i).below p (by simp [alive])
  have unmade {t : Client} (peers : t.peers = s.peers) : t.peers p ≠ some x := by
    rw [peers]
    exact owned.unmade new
  cases i with
  | socketConnected =>
    exact absurd alive (unmade (Client.ask_peers : (s.ask env none none .create .success
      .onCreateSessionId).peers = s.peers))
  | heartBeatMessage =>
    exact absurd alive (unmade (Client.ask_peers : (s.ask env none
      (some (castDouble s.janus.mSessionId)) .keepalive .ack .onHeartBeat).peers = s.peers))
  | receivedMessage message => exact received_adopts owned new alive
  | setVideoWindows => exact absurd alive (unmade rfl)
  | joinVideoRoom roomId name =>
    rw [step, JanusVideoRoomManager.JoinVideoRoom_eq, Client.attachNew_peers] at alive
    rw [owned.newest new alive]
    rfl
  | joinDataChannelRoom roomId name =>
    rw [step, WebRTCInterface.JoinDataChannelRoom, JanusVideoRoomManager.JoinTextRoom_eq,
      Client.attachNew_peers] at alive
    rw [owned.newest new alive]
    rfl
  | leaveVideoRoom =>
    obtain ⟨t, same, stepped⟩ : ∃ t, Quiet .leaveVideoRoom s t ∧ step env s .leaveVideoRoom =
      t.leave .video := step_leaves rfl
    rw [stepped, Client.leave_constructed, same.constructed] at below
    exact absurd below new.not_gt
  | leaveTextRoom =>
    have left : (s.leave .text).constructed = s.constructed := Client.leave_constructed
    exact absurd (left ▸ below : p < s.constructed) new.not_gt
  | createVideoRoom => exact administer_adopts owned rfl new alive
  | createTextRoom => exact administer_adopts owned rfl new alive
  | destoryVideoRoom => exact administer_adopts owned rfl new alive
  | destoryTextRoom => exact administer_adopts owned rfl new alive
  | sendMessage message => exact absurd alive (unmade (SendMessage_quiet .socketConnected message).peers)
  | localSDP id sdp type => exact absurd alive (unmade (onLocalSDP_reported env sound id sdp type).peers)
  | localIceCandidate id c =>
    exact absurd alive (unmade (onLocalIceCandidate_reported env sound id c).peers)
  | iceGatheringComplete id =>
    exact absurd alive (unmade (onLocalIceCandidate_reported env sound id _).peers)
  | dataChannelOpen stream => exact absurd alive (unmade (OnStateChange_peers stream))

/-- What the client speaks in is the session of the manager or of a peer. -/
theorem SpeaksIn.known {session : Int} (speaks : SpeaksIn s session i) :
    session = s.janus.mSessionId ∨ ∃ p x, s.peers p = some x ∧ session = x.mSessionID := by
  have finds {room : RoomKind} {h : Int} (found : s.FindsIn session room h) :
      ∃ p x, s.peers p = some x ∧ session = x.mSessionID := by
    obtain ⟨p, x, -, alive, same⟩ := found
    exact ⟨p, x, alive, same⟩
  have administers {room : RoomKind} (admin : s.AdministersIn session room) :
      session = s.janus.mSessionId ∨ ∃ p x, s.peers p = some x ∧ session = x.mSessionID := by
    rcases admin with ⟨p, x, -, alive, same⟩ | ⟨-, same⟩
    · exact Or.inr ⟨p, x, alive, same⟩
    · exact Or.inl same
  cases i with
  | heartBeatMessage => exact Or.inl speaks
  | joinVideoRoom => exact Or.inl speaks
  | joinDataChannelRoom => exact Or.inl speaks
  | createVideoRoom => exact administers speaks
  | createTextRoom => exact administers speaks
  | destoryVideoRoom => exact administers speaks
  | destoryTextRoom => exact administers speaks
  | localSDP => exact Or.inr (speaks.2.elim finds finds)
  | localIceCandidate => exact Or.inr (finds speaks.2)
  | iceGatheringComplete => exact Or.inr (finds speaks.2)
  | receivedMessage message =>
    rcases speaks with ⟨_, _, _, same⟩ | ⟨_, _, p, _, _, _, _, x, alive, same⟩
    · exact Or.inl same
    · exact Or.inr ⟨p, x, alive, same⟩
  | _ => exact absurd speaks id

theorem Seated.step (seated : Seated s) (owned : Owned s) (sound : Sound s) (i : Input) :
    Seated (step env s i) where
  manager := by
    have supplied : Supplied s := seated.manager.trans sessionOf_log
    rw [sessionOf_log]
    exact supplied.step i
  peers p x alive := by
    rcases Nat.lt_or_ge p s.constructed with older | new
    · obtain ⟨y, before, follows⟩ := step_precedes owned older alive
      obtain ⟨z, after', session, -⟩ := follows.alive
      obtain rfl := Option.some.inj (alive.symm.trans after')
      obtain ⟨earlier, early, same⟩ := seated.peers p y before
      exact ⟨earlier, early.trans (step_log env s i), session.trans same⟩
    · exact ⟨s.log, step_log env s i, (step_adopts owned sound i new alive).trans seated.manager⟩
  said log sender m sent request := by
    by_cases before : log ++ [.sent sender m] <+: s.log
    · exact seated.said log sender m before request
    · obtain ⟨grown, now⟩ := sent_late sent before
      have speaks := step_speaks env owned sound i
      refine (speaks.all fun id => ∃ earlier, earlier <+: log ∧
        id = some (castDouble (sessionOf earlier))).2 (fun session spoken => ?_) _ now request
      have known : ∃ earlier, earlier <+: s.log ∧ session = sessionOf earlier := by
        rcases spoken.known with rfl | ⟨p, x, alive, rfl⟩
        · exact ⟨s.log, List.prefix_rfl, seated.manager⟩
        · exact seated.peers p x alive
      obtain ⟨earlier, early, rfl⟩ := known
      exact ⟨earlier, early.trans grown, rfl⟩

end

/-! ## Every run -/

/-- Every feed the client has is one that an event has announced. -/
theorem repeats_after (env : Env) (is : List Input) :
    Repeats env (fun v => ∃ i ∈ is, i.Announces v) (after env is) := by
  let fed : Int → Prop := fun v => ∃ i ∈ is, i.Announces v
  let kept : Client → Prop := fun s => Owned s ∧ Made s ∧ Repeats env fed s
  have listed : Machine.Along (step env) (fun _ i => i ∈ is) (Client.initial env) is :=
    Machine.along_inputs.2 fun _ => id
  have all : kept (after env is) := by
    refine Machine.run_keeps (P := kept) (fun s i before member => ?_)
      ⟨owned_initial, made_initial, ?_⟩ listed
    · refine (step_decomposes env).keeps (P := kept) (fun _ _ answered before => ?_)
        (fun _ _ taken before => ?_) before
      · exact ⟨before.1.reply answered, .reply before.1 before.2.1 answered,
          before.2.2.reply before.2.1 answered⟩
      · exact ⟨before.1.transition taken, .transition before.1 before.2.1 taken,
          before.2.2.transition before.1 (fun _ announces => ⟨i, member, announces⟩) taken⟩
    · refine ⟨fun p x alive => ?_, fun _ _ _ => rfl, fun log sender m v early => ?_,
        fun _ _ _ sent => ?_⟩
      · simp [Client.initial] at alive
      · simp [Client.initial] at early
      · simp [Client.initial] at sent
  exact all.2.2

theorem seated_after (env : Env) (is : List Input) : Seated (after env is) := by
  let kept : Client → Prop := fun s => Owned s ∧ Sound s ∧ Seated s
  have all : kept (after env is) := by
    refine Machine.run_keeps (P := kept) (fun s i before _ => ?_)
      ⟨owned_initial, sound_after env [], ?_⟩ (Machine.along_true is)
    · exact ⟨before.1.step i, before.2.1.step env i, before.2.2.step before.1 before.2.1 i⟩
    · refine ⟨rfl, fun p x alive => ?_, fun log sender m early => ?_⟩
      · simp [Client.initial] at alive
      · simp [Client.initial] at early
  exact all.2.2

/-- **Ids of at most 53 significant bits survive the echo.** What the client writes as
`session_id`, `handle_id` or `feed` is the cast of the id that the server has returned. An
integer in the range of `long long` is read as itself, comes back as itself exactly where it
has at most 53 significant bits, and no two of these go out as one. -/
theorem ids_echoed (env : Env) (is : List Input) :
    (∀ log sender m, log ++ [.sent sender m] <+: (after env is).log → Echoes env is log sender m) ∧
    (∀ n > 0, n ≤ Numeral.llongMax →
      readId (.int n) = n ∧ (castDouble (readId (.int n)) = n ↔ Significant n)) ∧
    ∀ m n, Significant m → Significant n → castDouble m = castDouble n → m = n := by
  have repeats := repeats_after env is
  refine ⟨fun log sender m sent => ⟨?_, fun v => repeats.handles log sender m v sent, fun v carries => ?_⟩,
    fun n positive high => ?_, fun m n few few' same => ?_⟩
  · exact (seated_after env is).said log sender m sent
  · have logged : .sent sender m ∈ (after env is).log :=
      sent.subset (List.mem_append_right _ (List.mem_singleton_self _))
    obtain ⟨n, ⟨i, member, object, event, listed⟩, cast⟩ := repeats.feeds sender m v logged carries
    obtain ⟨publisher, there, rfl⟩ := List.mem_map.1 listed
    exact ⟨_, ⟨i, member, object, event, publisher, there, rfl⟩, cast⟩
  · have low : Numeral.llongMin ≤ n := le_trans (by decide) positive.le
    rw [readId_int low high, castDouble_eq_iff]
    exact ⟨rfl, Iff.rfl⟩
  · rwa [castDouble_eq_iff.2 few, castDouble_eq_iff.2 few'] at same

theorem heartBeat_log (env : Env) (s : Client) : s.log ++ [.sent none
    ⟨env.random s.draws, some (castDouble s.janus.mSessionId), .keepalive⟩] <+:
      (step env s .heartBeatMessage).log := by
  have log : (step env s .heartBeatMessage).log = s.log ++ [.sent none
      ⟨env.random s.draws, some (castDouble s.janus.mSessionId), .keepalive⟩,
      .registered .ack (env.random s.draws) .onHeartBeat] :=
    (Client.ask_log : (s.ask env none (some (castDouble s.janus.mSessionId)) .keepalive .ack
      .onHeartBeat).log = _)
  rw [log]
  exact ⟨[.registered .ack (env.random s.draws) .onHeartBeat], by simp⟩

/-- The session 2 ^ 53 + 1 goes back as 2 ^ 53. -/
theorem odd_session_rounded : ¬ ∀ (env : Env) (is : List Input) (n : Int), 0 < n →
    n ≤ Numeral.llongMax → ∀ log sender m, log ++ [.sent sender m] <+: (after env is).log →
    sessionIds log = [.int n] → m.request = .keepalive → m.session_id = some n := by
  intro always
  let is : List Input := [.socketConnected, Server.success (Env.sample.random 0) (2 ^ 53 + 1)]
  have session : (after Env.sample is).janus.mSessionId = 2 ^ 53 + 1 := by decide +kernel
  have ids : sessionIds (after Env.sample is).log = [.int (2 ^ 53 + 1)] := by
    have shown : (sessionIds (after Env.sample is).log).map (fun | .int n => some n | _ => none) =
        [some (2 ^ 53 + 1)] := by decide +kernel
    obtain ⟨id, one, isInt⟩ := List.map_eq_singleton_iff.1 shown
    cases id with
    | int n => rw [one, Option.some.inj isInt]
    | _ => simp at isInt
  have last := after_concat Env.sample is .heartBeatMessage
  generalize after Env.sample is = s at session ids last
  have sent := heartBeat_log Env.sample s
  rw [← last] at sent
  have same : some (castDouble s.janus.mSessionId) = some (2 ^ 53 + 1) :=
    always Env.sample _ _ (by decide) (by decide) _ _ _ sent ids rfl
  rw [session] at same
  exact absurd same (by decide)

end WebrtcDemo
