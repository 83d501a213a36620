import WebrtcDemo.Run.Correlation
import WebrtcDemo.Run.Events
import WebrtcDemo.Run.Messages

/-!
# The order of the protocol

Everything a peer sends on a handle, it sends on the handle its own attach request
was answered with: first its `join` or `setup`, then its descriptions and its
candidates. The handle a message carries is found three ways: in the reply being
answered, in a key of a stream table, or in a stream. Where the server is truthful,
all three lead back to an attach reply, and from its id to the peer.
-/

namespace WebrtcDemo

open JanusPeerConnection (replyId)
open JanusVideoRoomManager (construct)

/-! ## What the log says of a handle -/

/-- The effects that go over the socket, one way or the other. -/
def Effect.isExchange : Effect → Bool
  | .sent _ _ | .invoked _ _ _ _ => true
  | _ => false

/-- `p` has asked for a handle in the transaction `t`. -/
def Asked (log : List Effect) (t : String) (p : Ptr) (room : RoomKind) : Prop :=
  ∃ session_id, .sent (some p) { transaction := t, session_id, request := .attach room.plugin } ∈ log

/-- The attach reply to the transaction `t` has come to `p`, with the handle `h`. -/
def Delivered (log : List Effect) (t : String) (p : Ptr) (room : RoomKind) (h : Int) : Prop :=
  ∃ object, .invoked .success t (.peer p room.joined) object ∈ log ∧ replyId object = h

/-- `h` is the handle with which the server has answered the attach request of `p`. -/
def Returned (log : List Effect) (p : Ptr) (room : RoomKind) (h : Int) : Prop :=
  ∃ t, Asked log t p room ∧ Delivered log t p room h

/-- Nothing has been sent on the handle `h`. -/
def Unused (log : List Effect) (h : Int) : Prop :=
  ∀ sender m, .sent sender m ∈ log → m.handle_id? ≠ some h

/-- The message opens a handle: `join` in a video room, `setup` in a text room. -/
def Message.Opens (m : Message) : RoomKind → Prop
  | .video => ∃ room ptype, m.body? = some (.join room ptype)
  | .text => m.body? = some .setup

/-- The handle of a message sent after `log` is that of its sender, and the first
message on it opens it. -/
def Carried (log : List Effect) (sender : Option Ptr) (m : Message) : Prop :=
  ∀ h, m.handle_id? = some h →
    ∃ p room, sender = some p ∧ Returned log p room h ∧ (Unused log h → m.Opens room)

/-- Publishers configure, subscribers start. -/
structure Suits (s : Client) (sender : Option Ptr) (m : Message) : Prop where
  configure : ∀ audio video, m.body? = some (.configure audio video) →
    ∃ p x, sender = some p ∧ s.peers p = some x ∧ x.mSubscribeId = 0
  start : ∀ room, m.body? = some (.start room) →
    ∃ p x, sender = some p ∧ s.peers p = some x ∧ x.mSubscribeId ≠ 0

/-- The client has kept to the protocol. -/
structure Orderly (s : Client) : Prop where
  carried : ∀ log sender m, log ++ [.sent sender m] <+: s.log → Carried log sender m
  suited : ∀ sender m, .sent sender m ∈ s.log → Suits s sender m
  once : ∀ h t p room t' q room', Delivered s.log t p room h → Delivered s.log t' q room' h →
    p = q ∧ room = room'

/-- What the server promises of the input: an attach reply brings a new handle id that
a double holds exactly, and where an event has a sender that is a handle that is known. -/
structure Promises (s : Client) (i : Input) : Prop where
  fresh : ∀ kind t p object, (room : RoomKind) → Answer i s kind t (.peer p room.joined) object →
    Exact (replyId object) ∧ replyId object ∉ s.handles
  known : ∀ object, i.Reports object → (GetValueFromJsonObject object "sender").isSome →
    senderOf object ∈ s.handles

/-- The same where every event has a sender. One that has none is taken for one of handle 0. -/
structure Serves (s : Client) (i : Input) : Prop extends Promises s i where
  signed : ∀ object, i.Reports object → (GetValueFromJsonObject object "sender").isSome

theorem Serves.truthful {s : Client} {i : Input} (serves : Serves s i) : Truthful s i := by
  rintro h ⟨object, event, rfl⟩
  exact serves.known object event (serves.signed object event)

section
variable {env : Env} {i : Input} {s s' : Client} {log : List Effect} {p : Ptr} {room : RoomKind}
  {h : Int} {t : String} {sender : Option Ptr} {m : Message}

theorem Asked.mono (asked : Asked s.log t p room) (more : s.log ⊆ s'.log) : Asked s'.log t p room :=
  asked.imp fun _ sent => more sent

theorem Returned.mono (returned : Returned s.log p room h) (more : s.log ⊆ s'.log) :
    Returned s'.log p room h := by
  obtain ⟨t, asked, object, invoked, same⟩ := returned
  exact ⟨t, asked.mono more, object, more invoked, same⟩

theorem mem_handles :
    h ∈ s.handles ↔ ∃ t p member object, .invoked .success t (.peer p member) object ∈ s.log ∧
      ¬ member.isOutcome ∧ replyId object = h := by
  rw [Client.handles, List.mem_filterMap]
  constructor
  · rintro ⟨e, member, found⟩
    split at found
    · next t p member' object =>
      split_ifs at found with outcome
      exact ⟨t, p, member', object, member, outcome, Option.some.inj found⟩
    · simp at found
  · rintro ⟨t, p, member, object, invoked, outcome, rfl⟩
    exact ⟨_, invoked, by simp [outcome]⟩

theorem Delivered.handles (delivered : Delivered s.log t p room h) : h ∈ s.handles := by
  obtain ⟨object, invoked, same⟩ := delivered
  exact mem_handles.2 ⟨t, p, room.joined, object, invoked, by cases room <;> decide, same⟩

theorem handles_mono (more : s.log ⊆ s'.log) : s.handles ⊆ s'.handles := by
  intro h known
  obtain ⟨t, p, member, object, invoked, rest⟩ := mem_handles.1 known
  exact mem_handles.2 ⟨t, p, member, object, more invoked, rest⟩

theorem RoomKind.joined_injective {room room' : RoomKind} (same : room.joined = room'.joined) :
    room = room' := by
  cases room <;> cases room' <;> first | rfl | exact absurd same (by decide)

/-! ## What else is logged -/

/-- The log has grown by nothing that goes over the socket. -/
def Extends (s s' : Client) : Prop :=
  ∃ effects, s'.log = s.log ++ effects ∧ ∀ e ∈ effects, ¬ e.isExchange

theorem Extends.same (log : s'.log = s.log) : Extends s s' := ⟨[], by simp [log], by simp⟩

theorem Extends.subset (more : Extends s s') : s.log ⊆ s'.log := by
  obtain ⟨effects, log, -⟩ := more
  rw [log]
  exact List.subset_append_left _ _

theorem Extends.mem (more : Extends s s') {e : Effect} (exchange : e.isExchange) (logged : e ∈ s'.log) :
    e ∈ s.log := by
  obtain ⟨effects, log, quiet⟩ := more
  rw [log] at logged
  exact (List.mem_append.1 logged).resolve_right fun late => quiet e late exchange

theorem Quiet.extends (same : Quiet i s s') : Extends s s' := by
  obtain ⟨effects, log, quiet⟩ := same.log
  refine ⟨effects, log, fun e member exchange => ?_⟩
  have := quiet e member
  cases e <;> simp [Effect.isQuiet, Effect.isExchange] at this exchange

/-- Registering a continuation is no exchange. -/
theorem Extends.ask {session : Option Int} {request : Request} {kind : ReplyKind}
    {func : Continuation} : Extends (s.speak env sender session request)
      (s.ask env sender session request kind func) := by
  refine ⟨[.registered kind (env.random s.draws) func], ?_, by simp [Effect.isExchange]⟩
  rw [Client.ask_log, Client.speak_log, List.append_assoc]
  rfl

/-- What is not the last effect came before it. -/
theorem earlier_of_concat {before : List Effect} {e last : Effect} (other : e ≠ last)
    (early : log ++ [e] <+: before ++ [last]) : log ++ [e] <+: before := by
  rcases List.prefix_concat_iff.1 early with all | early
  · exact absurd (by simpa using congrArg List.getLast? all) other
  · exact early

/-- An exchange comes before what is no exchange. -/
theorem Extends.earlier (more : Extends s s') {e : Effect} (exchange : e.isExchange)
    (early : log ++ [e] <+: s'.log) : log ++ [e] <+: s.log := by
  obtain ⟨effects, grown, quiet⟩ := more
  rw [grown] at early
  clear grown
  induction effects using List.reverseRecOn with
  | nil => simpa using early
  | append_singleton effects last ih =>
    have quiet' : ∀ e ∈ effects, ¬ e.isExchange := fun e member =>
      quiet e (List.mem_append_left _ member)
    have other : e ≠ last := by
      rintro rfl
      exact quiet e (by simp) exchange
    rw [← List.append_assoc] at early
    exact ih (earlier_of_concat other early) quiet'

/-! ## Keeping to the protocol -/

/-- The peers live on, subscribed as they were. -/
def KeepsFeeds (s s' : Client) : Prop :=
  ∀ p x, s.peers p = some x → ∃ y, s'.peers p = some y ∧ y.mSubscribeId = x.mSubscribeId

theorem KeepsFeeds.same (peers : s'.peers = s.peers) : KeepsFeeds s s' :=
  fun _ x alive => ⟨x, peers ▸ alive, rfl⟩

/-- A new object takes nobody's place. -/
theorem KeepsFeeds.construct (owned : Owned s) {peer : JanusPeerConnection}
    (peers : s'.peers = Function.update s.peers s.constructed (some peer)) : KeepsFeeds s s' := by
  intro p x alive
  have older : p < s.constructed := owned.below p (by simp [alive])
  exact ⟨x, by rw [peers, Function.update_of_ne older.ne, alive], rfl⟩

theorem Suits.keep (suits : Suits s sender m) (feeds : KeepsFeeds s s') : Suits s' sender m where
  configure audio video body := by
    obtain ⟨p, x, same, alive, feed⟩ := suits.configure audio video body
    obtain ⟨y, alive', kept⟩ := feeds p x alive
    exact ⟨p, y, same, alive', kept.trans feed⟩
  start room body := by
    obtain ⟨p, x, same, alive, feed⟩ := suits.start room body
    obtain ⟨y, alive', kept⟩ := feeds p x alive
    exact ⟨p, y, same, alive', kept ▸ feed⟩

theorem Suits.silent (silent : m.body? = none) : Suits s sender m :=
  ⟨fun _ _ body => by simp [silent] at body, fun _ body => by simp [silent] at body⟩

/-- What opens a handle neither configures nor starts. -/
theorem Suits.opens (opens : m.Opens room) : Suits s sender m := by
  cases room with
  | video =>
    obtain ⟨room, ptype, joins⟩ := opens
    exact ⟨fun _ _ body => by simp [joins] at body, fun _ body => by simp [joins] at body⟩
  | text =>
    have setup : m.body? = some .setup := opens
    exact ⟨fun _ _ body => by simp [setup] at body, fun _ body => by simp [setup] at body⟩

theorem Orderly.extend (orderly : Orderly s) (more : Extends s s') (feeds : KeepsFeeds s s') :
    Orderly s' where
  carried log sender m early := orderly.carried log sender m (more.earlier rfl early)
  suited sender m sent := (orderly.suited sender m (more.mem rfl sent)).keep feeds
  once h t p room t' q room' := by
    rintro ⟨object, invoked, same⟩ ⟨object', invoked', same'⟩
    exact orderly.once h t p room t' q room' ⟨object, more.mem rfl invoked, same⟩
      ⟨object', more.mem rfl invoked', same'⟩

/-- One more message. -/
theorem Orderly.send (orderly : Orderly s) (log : s'.log = s.log ++ [.sent sender m])
    (peers : s'.peers = s.peers) (carried : Carried s.log sender m) (suits : Suits s sender m) :
    Orderly s' where
  carried log' sender' m' early := by
    rw [log, List.prefix_concat_iff] at early
    rcases early with last | early
    · obtain ⟨rfl, same⟩ := List.append_inj' last rfl
      obtain ⟨rfl, rfl⟩ : sender' = sender ∧ m' = m := by simpa using same
      exact carried
    · exact orderly.carried log' sender' m' early
  suited sender' m' sent := by
    rw [log, List.mem_append, List.mem_singleton] at sent
    have kept : KeepsFeeds s s' := .same peers
    rcases sent with early | last
    · exact (orderly.suited sender' m' early).keep kept
    · obtain ⟨rfl, rfl⟩ : sender' = sender ∧ m' = m := by simpa using last
      exact suits.keep kept
  once h t p room t' q room' := by
    rintro ⟨object, invoked, same⟩ ⟨object', invoked', same'⟩
    have before {e} (sent : e ∈ s'.log) (other : e ≠ .sent sender m) : e ∈ s.log := by
      rw [log] at sent
      exact (List.mem_append.1 sent).resolve_right (by simpa using other)
    exact orderly.once h t p room t' q room' ⟨object, before invoked (by simp), same⟩
      ⟨object', before invoked' (by simp), same'⟩

/-- One more reply, with a handle that is new if it has one. -/
theorem Orderly.receive (orderly : Orderly s) {kind : ReplyKind} {func : Continuation}
    {object : Json} (log : s'.log = s.log ++ [.invoked kind t func object])
    (peers : s'.peers = s.peers)
    (fresh : ∀ p, (room : RoomKind) → func = .peer p room.joined → replyId object ∉ s.handles) :
    Orderly s' where
  carried log' sender m early := by
    rw [log] at early
    exact orderly.carried log' sender m (earlier_of_concat (by simp) early)
  suited sender m sent := by
    rw [log] at sent
    exact (orderly.suited sender m (by simpa using sent)).keep (.same peers)
  once h t₁ p room t₂ q room' first second := by
    have known {t' p room} (delivered : Delivered s'.log t' p room h) :
        Delivered s.log t' p room h ∨ func = .peer p room.joined ∧ replyId object = h := by
      obtain ⟨object', invoked, same⟩ := delivered
      rw [log, List.mem_append, List.mem_singleton] at invoked
      rcases invoked with early | last
      · exact Or.inl ⟨object', early, same⟩
      · injection last with _ _ bound received
        exact Or.inr ⟨bound.symm, received ▸ same⟩
    rcases known first with early | ⟨bound, same⟩ <;> rcases known second with early' | ⟨bound', same'⟩
    · exact orderly.once h t₁ p room t₂ q room' early early'
    · exact absurd (same' ▸ early.handles) (fresh q room' bound')
    · exact absurd (same ▸ early'.handles) (fresh p room bound)
    · injection bound.symm.trans bound' with samePeer sameRoom
      exact ⟨samePeer, RoomKind.joined_injective sameRoom⟩

/-! ## The handles that are held -/

/-- Handles are where attach replies have put them, or where the events of the server
have brought them from. -/
structure Handled (s : Client) : Prop where
  assigned : ∀ p x, (room : RoomKind) → s.peers p = some x → room.handle x = 0 ∨
    Returned s.log p room (room.handle x) ∧ ¬ Unused s.log (room.handle x)
  addressed : ∀ h, s.Addressed h → h = -1 ∨ h ∈ s.handles
  exact_ : ∀ h ∈ s.handles, Exact h
  awaited : ∀ key p member, s.pending key = some (.peer p member) →
    key.1 = .success ∧ ∃ room : RoomKind, member = room.joined ∧ Asked s.log key.2 p room

theorem Handled.keep (handled : Handled s) (more : s.log ⊆ s'.log)
    (handles : ∀ h ∈ s'.handles, h ∈ s.handles ∨ Exact h)
    (assigned : ∀ p x, (room : RoomKind) → s'.peers p = some x → room.handle x = 0 ∨
      (∃ y, s.peers p = some y ∧ room.handle y = room.handle x) ∨
      Returned s'.log p room (room.handle x) ∧ ¬ Unused s'.log (room.handle x))
    (addressed : ∀ h, s'.Addressed h → s.Addressed h ∨ h ∈ s.handles)
    (awaited : ∀ key p member, s'.pending key = some (.peer p member) →
      s.pending key = some (.peer p member) ∨
      key.1 = .success ∧ ∃ room : RoomKind, member = room.joined ∧ Asked s'.log key.2 p room) :
    Handled s' where
  assigned p x room alive := by
    rcases assigned p x room alive with zero | ⟨y, before, same⟩ | holds
    · exact Or.inl zero
    · rw [← same]
      refine (handled.assigned p y room before).imp_right fun holds => ⟨holds.1.mono more, ?_⟩
      exact fun unused => holds.2 fun sender m sent => unused sender m (more sent)
    · exact Or.inr holds
  addressed h reached := by
    rcases addressed h reached with before | known
    · exact (handled.addressed h before).imp_right fun known => handles_mono more known
    · exact Or.inr (handles_mono more known)
  exact_ h known := (handles h known).elim (handled.exact_ h) id
  awaited key p member waits := by
    rcases awaited key p member waits with before | asked
    · obtain ⟨success, room, joins, asked⟩ := handled.awaited key p member before
      exact ⟨success, room, joins, asked.mono more⟩
    · exact asked

theorem addressed_same (conference : s'.conference = s.conference)
    (videoHeap : s'.videoHeap = s.videoHeap) (dataHeap : s'.dataHeap = s.dataHeap) :
    s'.Addressed h ↔ s.Addressed h := by
  simp [Client.Addressed, Client.videoHandle, Client.dataHandle, conference, videoHeap, dataHeap]

/-- A handle that a listed peer is addressed by is the one its attach request was
answered with, and is open. -/
theorem Handled.held (handled : Handled s) {x : JanusPeerConnection} (alive : s.peers p = some x)
    (address : s.Addressed (room.handle x)) :
    Exact (room.handle x) ∧ Returned s.log p room (room.handle x) ∧
      ¬ Unused s.log (room.handle x) := by
  rcases handled.assigned p x room alive with zero | ⟨returned, used⟩
  · rw [zero] at address
    have known : (0 : Int) ∈ s.handles := (handled.addressed 0 address).resolve_left (by decide)
    exact absurd (handled.exact_ 0 known).1 (lt_irrefl _)
  · obtain ⟨_, -, delivered⟩ := id returned
    exact ⟨handled.exact_ _ delivered.handles, returned, used⟩

theorem handles_unanswered {effects : List Effect} (log : s'.log = s.log ++ effects)
    (unanswered : ∀ e ∈ effects, ∀ kind t func object, e ≠ .invoked kind t func object) :
    s'.handles ⊆ s.handles := by
  intro h known
  obtain ⟨t, p, member, object, invoked, rest⟩ := mem_handles.1 known
  rw [log] at invoked
  have early := (List.mem_append.1 invoked).resolve_right fun late =>
    unanswered _ late _ _ _ _ rfl
  exact mem_handles.2 ⟨t, p, member, object, early, rest⟩

theorem Extends.handles (more : Extends s s') : s'.handles ⊆ s.handles := by
  obtain ⟨effects, log, quiet⟩ := more
  refine handles_unanswered log fun e member kind t func object same => ?_
  exact quiet e member (by rw [same]; rfl)

/-! ## The two together -/

structure Governed (s : Client) : Prop where
  handled : Handled s
  orderly : Orderly s

theorem Governed.extend (governed : Governed s) (more : Extends s s') (peers : s'.peers = s.peers)
    (addressed : ∀ h, s'.Addressed h → s.Addressed h ∨ h ∈ s.handles)
    (pending : s'.pending = s.pending) : Governed s' where
  handled := governed.handled.keep more.subset (fun _ known => Or.inl (more.handles known))
    (fun _ x _ alive => Or.inr (Or.inl ⟨x, peers ▸ alive, rfl⟩)) addressed
    (fun _ _ _ waits => Or.inl (pending ▸ waits))
  orderly := governed.orderly.extend more (.same peers)

theorem Governed.quiet (governed : Governed s) (truthful : Truthful s i) (same : Quiet i s s') :
    Governed s' := by
  exact governed.extend same.extends same.peers
    (fun h reached => (same.addressed h reached).imp_right (truthful h)) same.pending

/-- A new peer has no handle. -/
theorem Governed.adopt (governed : Governed s) (owned : Owned s) {peer : JanusPeerConnection}
    (blank : ∀ room : RoomKind, room.handle peer = 0)
    (peers : s'.peers = Function.update s.peers s.constructed (some peer))
    (log : s'.log = s.log) (addressed : ∀ h, s'.Addressed h → s.Addressed h)
    (pending : s'.pending = s.pending) : Governed s' := by
  have more : Extends s s' := .same log
  refine ⟨governed.handled.keep more.subset (fun _ known => Or.inl (more.handles known)) ?_
    (fun h reached => Or.inl (addressed h reached)) (fun _ _ _ waits => Or.inl (pending ▸ waits)),
    governed.orderly.extend more (.construct owned peers)⟩
  intro p x room alive
  rw [peers, Function.update_apply] at alive
  split_ifs at alive
  · obtain rfl := Option.some.inj alive
    exact Or.inl (blank room)
  · exact Or.inr (Or.inl ⟨x, alive, rfl⟩)

/-- A message on a handle of its sender, or on none. -/
theorem Governed.speak (governed : Governed s) {session : Option Int} {request : Request}
    (carried : Carried s.log sender
      { transaction := env.random s.draws, session_id := session, request })
    (suits : Suits s sender { transaction := env.random s.draws, session_id := session, request }) :
    Governed (s.speak env sender session request) where
  handled := by
    have log : (s.speak env sender session request).log = s.log ++ [.sent sender
        { transaction := env.random s.draws, session_id := session, request }] := Client.speak_log
    refine governed.handled.keep (by rw [log]; exact List.subset_append_left _ _)
      (fun _ known => Or.inl (handles_unanswered log (by simp) known))
      (fun _ x _ alive => Or.inr (Or.inl ⟨x, alive, rfl⟩))
      (fun _ reached => Or.inl ((addressed_same rfl rfl rfl).1 reached))
      (fun _ _ _ waits => Or.inl waits)
  orderly := governed.orderly.send Client.speak_log rfl carried suits

/-- A request with no handle. A peer that waits for the reply has asked for a handle. -/
theorem Governed.ask (governed : Governed s) {session : Option Int} {request : Request}
    {kind : ReplyKind} {func : Continuation}
    (handless : ∀ t, Message.handle_id? ⟨t, session, request⟩ = none)
    (bodiless : ∀ t, Message.body? ⟨t, session, request⟩ = none)
    (asks : ∀ p member, func = .peer p member → kind = .success ∧ sender = some p ∧
      ∃ room : RoomKind, member = room.joined ∧ request = .attach room.plugin) :
    Governed (s.ask env sender session request kind func) := by
  have spoken : Governed (s.speak env sender session request) :=
    governed.speak (fun h carries => by simp [handless] at carries) (.silent (bodiless _))
  have more : Extends (s.speak env sender session request)
      (s.ask env sender session request kind func) := .ask
  refine ⟨spoken.handled.keep more.subset (fun _ known => Or.inl (more.handles known)) ?_ ?_ ?_,
    spoken.orderly.extend more (.same Client.ask_peers)⟩
  · intro p x room alive
    rw [Client.ask_peers] at alive
    exact Or.inr (Or.inl ⟨x, alive, rfl⟩)
  · intro h reached
    exact Or.inl ((addressed_same (by simp) (by simp) (by simp)).1 reached)
  · intro key p member waits
    rw [Client.ask_pending, Function.update_apply] at waits
    split_ifs at waits with here
    · obtain ⟨rfl, rfl, room, joins, rfl⟩ := asks p member (Option.some.inj waits)
      refine Or.inr ⟨by rw [here], room, joins, session, ?_⟩
      rw [here, Client.ask_log]
      simp
    · exact Or.inl waits

/-! ## Descriptions and candidates -/

theorem LocalRequest.handle_id? {x : JanusPeerConnection} {request : Request}
    (own : LocalRequest room x request) (session : Option Int) :
    Message.handle_id? ⟨t, session, request⟩ = some (castDouble (room.handle x)) := by
  cases own <;> rfl

theorem LocalRequest.suits {x : JanusPeerConnection} {request : Request}
    (own : LocalRequest room x request) (alive : s.peers p = some x) (session : Option Int) :
    Suits s (some p) ⟨t, session, request⟩ := by
  cases own with
  | sdp =>
    by_cases publishes : x.mSubscribeId = 0
    · refine ⟨fun _ _ _ => ⟨p, x, rfl, alive, publishes⟩, fun room body => ?_⟩
      simp [Message.body?, JanusPeerConnection.sdpBody, publishes] at body
    · refine ⟨fun _ _ body => ?_, fun _ _ => ⟨p, x, rfl, alive, publishes⟩⟩
      simp [Message.body?, JanusPeerConnection.sdpBody, publishes] at body
  | sdpText => exact ⟨fun _ _ body => by simp [Message.body?] at body,
      fun _ body => by simp [Message.body?] at body⟩
  | candidate => exact .silent rfl

/-- A transition of an input that leaves no room and makes no administrative request. -/
theorem Governed.transition (governed : Governed s) (owned : Owned s)
    (unassigned : ∀ p, (env.junk p).mVideoRoomHandleID = 0 ∧ (env.junk p).mTextRoomHandleID = 0)
    (stays : i.leaves? = none) (plain : i.adminRequest? = none) (truthful : Truthful s i)
    (taken : Transition env i s s') : Governed s' ∧ s.log ⊆ s'.log := by
  have blank {peer : JanusPeerConnection}
      (video : peer.mVideoRoomHandleID = (env.junk s.constructed).mVideoRoomHandleID)
      (text : peer.mTextRoomHandleID = (env.junk s.constructed).mTextRoomHandleID)
      (room : RoomKind) : room.handle peer = 0 := by
    cases room
    · exact video.trans (unassigned _).1
    · exact text.trans (unassigned _).2
  cases taken with
  | quiet same =>
    obtain ⟨effects, log, -⟩ := same.log
    exact ⟨governed.quiet truthful same, log ▸ List.subset_append_left _ _⟩
  | drawn => exact ⟨governed.extend (.same rfl) rfl (fun _ => Or.inl) rfl, List.Subset.refl _⟩
  | settings => exact ⟨governed.extend (.same rfl) rfl (fun _ => Or.inl) rfl, List.Subset.refl _⟩
  | lost => exact ⟨governed.extend (.same rfl) rfl (fun _ => Or.inl) rfl, List.Subset.refl _⟩
  | unlist => exact ⟨governed.extend (.same rfl) rfl (fun _ => Or.inl) rfl, List.Subset.refl _⟩
  | manage own =>
    refine ⟨governed.ask (fun _ => ?_) (fun _ => ?_) fun p member bound => ?_, ?_⟩
    · cases own <;> rfl
    · cases own <;> rfl
    · cases own <;> simp at bound
    · rw [Client.ask_log]
      exact List.subset_append_left _ _
  | attach room peer video text =>
    have listed : Governed ((construct s peer).enlist room s.constructed) :=
      governed.adopt owned (blank video text) (by simp) (by simp)
        (fun _ => (addressed_same (by simp) (by simp) (by simp)).1) (by simp)
    refine ⟨listed.ask (fun _ => rfl) (fun _ => rfl) fun p member bound => ?_, ?_⟩
    · injection bound with same joins
      exact ⟨rfl, congrArg some same, room, joins.symm, rfl⟩
    · rw [Client.attachNew_log]
      exact List.subset_append_left _ _
  | appoint room peer _ _ video text =>
    exact ⟨governed.adopt owned (blank video text) (by simp) (by simp)
      (fun _ => (addressed_same (by simp) (by simp) (by simp)).1) (by simp), by simp⟩
  | administer request => exact absurd request (by simp [plain])
  | leave room leaves => exact absurd leaves (by simp [stays])
  | @speak p x request room listed alive address own =>
    obtain ⟨exact_, returned, used⟩ := governed.handled.held alive address
    refine ⟨governed.speak (fun h carries => ?_) (own.suits alive _), ?_⟩
    · rw [own.handle_id?, castDouble_exact exact_] at carries
      obtain rfl := Option.some.inj carries
      exact ⟨p, room, rfl, returned, fun unused => absurd unused used⟩
    · rw [Client.speak_log]
      exact List.subset_append_left _ _

/-! ## Replies -/

/-- A reply as the server promises it is received. -/
theorem Governed.take (governed : Governed s) (serves : Serves s i) {kind : ReplyKind}
    {func : Continuation} {object : Json} (answer : Answer i s kind t func object) :
    Governed (s.take kind t func object) := by
  have log : (s.take kind t func object).log = s.log ++ [.invoked kind t func object] :=
    Client.take_log
  -- only a join waits, and its reply has the promised id
  have fresh {p : Ptr} {member : PeerMember} (bound : func = .peer p member) :
      Exact (replyId object) ∧ replyId object ∉ s.handles := by
    subst bound
    obtain ⟨-, room, rfl, -⟩ := governed.handled.awaited _ _ _ answer.waiting
    exact serves.fresh kind t p object room answer
  refine ⟨governed.handled.keep (by rw [log]; exact List.subset_append_left _ _) ?_ ?_ ?_ ?_,
    governed.orderly.receive log Client.take_peers fun p room bound => (fresh bound).2⟩
  · intro h known
    obtain ⟨t', p, member, object', invoked, outcome, rfl⟩ := mem_handles.1 known
    rw [log, List.mem_append, List.mem_singleton] at invoked
    rcases invoked with early | last
    · exact Or.inl (mem_handles.2 ⟨t', p, member, object', early, outcome, rfl⟩)
    · injection last with _ _ bound received
      subst received
      exact Or.inr (fresh bound.symm).1
  · intro p x room alive
    rw [Client.take_peers] at alive
    exact Or.inr (Or.inl ⟨x, alive, rfl⟩)
  · intro h reached
    exact Or.inl ((addressed_same (by simp) (by simp) (by simp)).1 reached)
  · intro key p member waits
    rw [Client.take_pending, Function.update_apply] at waits
    split_ifs at waits
    exact Or.inl waits

/-- The first message of a join opens its handle. -/
theorem opens_opening (x : JanusPeerConnection) (session : Option Int) (h : Int) :
    Message.Opens ⟨t, session, .message h (room.opening x) none⟩ room := by
  cases room
  · rw [RoomKind.opening, JanusPeerConnection.joinBody]
    split_ifs <;> exact ⟨_, _, rfl⟩
  · rfl

/-- The peer of an attach reply stores its handle and opens it. -/
theorem Governed.joins {object : Json} {x : JanusPeerConnection}
    (taken : Governed (s.take .success t (.peer p room.joined) object)) (alive : s.peers p = some x)
    (asked : Asked s.log t p room) (exact_ : Exact (replyId object)) :
    Governed (((s.take .success t (.peer p room.joined) object).setPeer p
      (room.setHandle (replyId object) x)).speak env (some p) (some (castDouble x.mSessionID))
      (.message (castDouble (replyId object))
        (room.opening (room.setHandle (replyId object) x)) none)) := by
  let received := s.take .success t (.peer p room.joined) object
  let stored := received.setPeer p (room.setHandle (replyId object) x)
  have log : received.log = s.log ++ [.invoked .success t (.peer p room.joined) object] :=
    Client.take_log
  have alive : received.peers p = some x := by simpa [received] using alive
  have returned : Returned stored.log p room (replyId object) := by
    have more : s.log ⊆ stored.log := log ▸ List.subset_append_left _ _
    refine ⟨t, asked.mono more, object, ?_, rfl⟩
    change _ ∈ received.log
    simp [log]
  have feeds : KeepsFeeds received stored := by
    intro q y before
    rcases eq_or_ne q p with rfl | other
    · obtain rfl := Option.some.inj (alive.symm.trans before)
      exact ⟨_, Client.setPeer_self, RoomKind.setHandle_feed⟩
    · exact ⟨y, by rw [Client.setPeer_peers, Function.update_of_ne other, before], rfl⟩
  have orderly : Orderly stored := taken.orderly.extend (.same rfl) feeds
  let opening : Message :=
    { transaction := env.random stored.draws
      session_id := some (castDouble x.mSessionID)
      request := .message (castDouble (replyId object))
        (room.opening (room.setHandle (replyId object) x)) none }
  have sent : (stored.speak env (some p) opening.session_id opening.request).log =
      stored.log ++ [.sent (some p) opening] := Client.speak_log
  have opens : opening.Opens room := opens_opening _ _ _
  have carries : opening.handle_id? = some (replyId object) :=
    congrArg some (castDouble_exact exact_)
  refine ⟨taken.handled.keep ?_ ?_ ?_ ?_ ?_, orderly.send sent rfl ?_ (.opens opens)⟩
  · rw [sent]
    exact List.subset_append_left _ _
  · exact fun h known => Or.inl (handles_unanswered sent (by simp) known)
  · intro q y room' alive'
    have alive' : Function.update received.peers p (some (room.setHandle (replyId object) x)) q =
        some y := alive'
    rw [Function.update_apply] at alive'
    split_ifs at alive' with same
    · obtain rfl := Option.some.inj alive'
      subst same
      rw [RoomKind.setHandle_handle]
      split_ifs with here
      · subst here
        refine Or.inr (Or.inr ⟨returned.mono ?_, fun unused => ?_⟩)
        · rw [sent]
          exact List.subset_append_left _ _
        · exact unused (some q) opening
            (sent ▸ List.mem_append_right _ (List.mem_singleton_self _)) carries
      · exact Or.inr (Or.inl ⟨x, alive, rfl⟩)
    · exact Or.inr (Or.inl ⟨y, alive', rfl⟩)
  · exact fun h reached => Or.inl ((addressed_same rfl rfl rfl).1 reached)
  · exact fun key q member waits => Or.inl waits
  · intro h same
    obtain rfl := Option.some.inj (carries.symm.trans same)
    exact ⟨p, room, rfl, returned, fun _ => opens⟩

theorem Governed.reply (governed : Governed s) (serves : Serves s i)
    (answered : Reply env i s s') : Governed s' := by
  cases answered with
  | @session kind t object answer =>
    have taken := governed.take serves answer
    refine taken.extend (.same rfl) rfl (fun _ => Or.inl) ?_
    cases kind <;> rfl
  | @heartBeat kind t object answer =>
    have taken := governed.take serves answer
    refine taken.extend ⟨[.resetTimer], rfl, by simp [Effect.isExchange]⟩ rfl (fun _ => Or.inl) ?_
    cases kind <;> rfl
  | @dead kind t p member object answer =>
    have taken := governed.take serves answer
    refine taken.extend (.same rfl) rfl (fun _ => Or.inl) ?_
    cases kind <;> rfl
  | @joined kind t p object x room answer alive =>
    have taken := governed.take serves answer
    obtain ⟨success, _, joins, asked⟩ := governed.handled.awaited _ _ _ answer.waiting
    obtain rfl := RoomKind.joined_injective joins
    have success : kind = .success := success
    subst success
    obtain ⟨exact_, -⟩ := serves.fresh _ _ _ _ _ answer
    exact taken.joins alive asked exact_
  | admin todo isAdmin answer =>
    obtain ⟨-, room, rfl, -⟩ := governed.handled.awaited _ _ _ answer.waiting
    cases room <;> simp [RoomKind.joined, adminStep] at isAdmin
  | outcome reads answer =>
    obtain ⟨-, room, rfl, -⟩ := governed.handled.awaited _ _ _ answer.waiting
    cases room <;> simp [RoomKind.joined, PeerMember.isOutcome] at reads

theorem Governed.step (governed : Governed s) (owned : Owned s)
    (unassigned : ∀ p, (env.junk p).mVideoRoomHandleID = 0 ∧ (env.junk p).mTextRoomHandleID = 0)
    (stays : i.leaves? = none) (plain : i.adminRequest? = none) (serves : Serves s i) :
    Governed (WebrtcDemo.step env s i) := by
  rcases step_decomposes env s i with answered | chain
  · exact governed.reply serves answered
  · refine (Machine.transitions_keep (P := fun t => Governed t ∧ Owned t ∧ Truthful t i) ?_ chain
      ⟨governed, owned, serves.truthful⟩).1
    rintro a b taken ⟨governed, owned, truthful⟩
    obtain ⟨next, more⟩ := governed.transition owned unassigned stays plain truthful taken
    exact ⟨next, owned.transition taken, fun h named => handles_mono more (truthful h named)⟩

theorem governed_initial : Governed (Client.initial env) where
  handled := by
    refine ⟨fun p x room alive => by simp [Client.initial] at alive, ?_, ?_, ?_⟩
    · rintro h (stream | channel | ⟨p, rfl⟩ | ⟨p, rfl⟩ | rfl)
      · exact absurd stream (AList.notMem_empty h)
      · exact absurd channel (AList.notMem_empty h)
      · exact Or.inl rfl
      · exact Or.inl rfl
      · exact Or.inl rfl
    · intro h known
      simp [Client.handles, Client.initial] at known
    · rintro ⟨kind, t⟩ p member waits
      cases kind <;>
        simp [Client.initial, Client.pending, JanusVideoRoomManager.callbacks] at waits
  orderly := by
    refine ⟨fun log sender m early => ?_, fun sender m sent => ?_, ?_⟩
    · simp [Client.initial] at early
    · simp [Client.initial] at sent
    · rintro h t p room t' q room' ⟨object, invoked, -⟩
      simp [Client.initial] at invoked

end

/-- **Every message on a handle is from the peer whose attach request was answered with
it**, the first opens it, publishers configure and subscribers start. -/
theorem orderly_throughout (env : Env) (is : List Input)
    (unassigned : ∀ p, (env.junk p).mVideoRoomHandleID = 0 ∧ (env.junk p).mTextRoomHandleID = 0)
    (kinds : ∀ i ∈ is, i.leaves? = none ∧ i.adminRequest? = none)
    (served : Machine.Along (step env) Serves (Client.initial env) is) :
    Machine.Throughout (step env) Orderly (Client.initial env) is := by
  have along := Machine.along_and.2 ⟨served, Machine.along_inputs.2 kinds⟩
  have kept : Machine.Throughout (step env) (fun s => Governed s ∧ Owned s) (Client.initial env) is :=
    Machine.throughout_of_keeps (fun s i both ok =>
      ⟨both.1.step both.2 unassigned ok.2.1 ok.2.2 ok.1, both.2.step i⟩)
      ⟨governed_initial, owned_initial⟩ along
  exact kept.mono fun s both => both.1.orderly

/-- What the program does of itself is no business of the server. -/
theorem Serves.own {s : Client} {i : Input} (own : ∀ message, i ≠ .receivedMessage message) :
    Serves s i where
  fresh _ _ _ _ _ answer := absurd answer.named.1 (own _)
  known _ event _ := absurd event.1 (own _)
  signed _ event := absurd event.1 (own _)

theorem Serves.success {s : Client} {t : String} {id : Int} (exact_ : Exact id)
    (fresh : id ∉ s.handles) : Serves s (Server.success t id) where
  fresh _ _ _ _ _ answer := by
    obtain ⟨-, -, rfl⟩ := Server.success_answers.1 answer.named
    have reads : replyId (Server.successReply t id) = id := by
      have high : (2 : Int) ^ 53 ≤ Numeral.llongMax := by decide
      have low : Numeral.llongMin ≤ 0 := by decide
      exact Server.replyId_success (low.trans exact_.1.le) (exact_.2.trans high)
    rw [reads]
    exact ⟨exact_, fresh⟩
  known _ event _ := absurd event (Server.success_unreported _)
  signed _ event := absurd event (Server.success_unreported _)

theorem Serves.event {s : Client} (e : Server.VideoEvent) (truthful : Truthful s (Server.event e)) :
    Serves s (Server.event e) where
  fresh kind t _ object _ answer := absurd answer.named (e.reports.unanswered kind t object)
  known object event _ := truthful _ ⟨object, event, rfl⟩
  signed object event := by
    obtain rfl := e.reports.only event
    exact e.signed_object

/-- A publisher and a subscriber, each with its description and one with a candidate. -/
theorem orderly_throughout_two :
    let is := [.joinVideoRoom 1234 "cc", Server.success (Env.sample.random 0) 7,
      Server.event { tag := "joined", sender := 7, publishers := [5] },
      Server.success (Env.sample.random 2) 8,
      Server.event { tag := "attached", sender := 8, offer := some "v=0" },
      .localSDP 7 "v=0" "offer", .localSDP 8 "v=0" "answer", .iceGatheringComplete 8]
    (after Env.sample is).messages.filterMap (·.2.handle_id?) = [7, 8, 7, 8, 8] ∧
      Machine.Throughout (step Env.sample) Orderly (Client.initial Env.sample) is := by
  intro is
  refine ⟨by decide +kernel, orderly_throughout Env.sample is (fun _ => ⟨rfl, rfl⟩) ?_
    ⟨.own (by simp), .success ?_ ?_, .event _ (Server.VideoEvent.truthful _ ?_ ?_ ?_),
      .success ?_ ?_, .event _ (Server.VideoEvent.truthful _ ?_ ?_ ?_), .own (by simp),
      .own (by simp), .own (by simp), trivial⟩⟩
  · simp [is, Server.success, Server.event, Input.leaves?, Input.adminRequest?]
  all_goals first | exact ⟨by decide, by decide⟩ | decide +kernel

/-- The inputs of a session that nobody leaves. -/
def Input.isSession : Input → Bool
  | .joinVideoRoom _ _ | .joinDataChannelRoom _ _ | .receivedMessage _ => true
  | .localSDP _ _ _ | .localIceCandidate _ _ | .iceGatheringComplete _ => true
  | _ => false

/-- An offer without a sender makes a stream of handle 0, and a peer that waits for its handle
is taken for the peer of that stream. -/
theorem unsigned_misaddressed : ¬ ∀ (env : Env) (is : List Input),
    (∀ p, (env.junk p).mVideoRoomHandleID = 0 ∧ (env.junk p).mTextRoomHandleID = 0) →
    (∀ i ∈ is, i.isSession) → (after env is).Distinct env →
    Machine.Along (step env) Promises (Client.initial env) is →
    Machine.Throughout (step env) Orderly (Client.initial env) is := by
  intro always
  let offer : Json := .obj [("janus", .str "event"),
    ("jsep", .obj [("sdp", .str "v=0"), ("type", .str "offer")]),
    ("plugindata", .obj [("data", .obj [("videoroom", .str "attached")])])]
  let is : List Input := [.joinVideoRoom 1234 "cc", .receivedMessage (some offer),
    .localSDP 0 "v=0" "answer"]
  have reports : (Input.receivedMessage (some offer)).Reports offer := ⟨rfl, rfl⟩
  have promises (s : Client) : Promises s (.receivedMessage (some offer)) := by
    refine ⟨fun kind t _ object _ answer => absurd answer.named (reports.unanswered kind t object),
      fun object event named => ?_⟩
    obtain rfl := reports.only event
    exact absurd named (by decide)
  have orderly : Orderly (after Env.sample is) :=
    (always Env.sample is (fun _ => ⟨rfl, rfl⟩) (by simp [is, Input.isSession])
      (sample_distinct (by decide +kernel))
      ⟨(Serves.own (by simp)).toPromises, promises _, (Serves.own (by simp)).toPromises,
        trivial⟩).last
  obtain ⟨configured, unanswered⟩ : some 0 ∈ (after Env.sample is).messages.map (·.2.handle_id?) ∧
      (after Env.sample is).handles = [] := by
    decide +kernel
  obtain ⟨⟨sender, m⟩, member, carries⟩ := List.mem_map.1 configured
  have sent : .sent sender m ∈ (after Env.sample is).log := by
    obtain ⟨e, logged, message⟩ := List.mem_filterMap.1 member
    cases e <;> cases message
    exact logged
  obtain ⟨before, later, log⟩ := List.append_of_mem sent
  have early : before ++ [.sent sender m] <+: (after Env.sample is).log :=
    ⟨later, by rw [log, List.append_assoc, List.singleton_append]⟩
  obtain ⟨p, room, -, returned, -⟩ := orderly.carried before sender m early 0 carries
  obtain ⟨t, -, object, invoked, same⟩ := returned
  have invoked := early.subset (List.mem_append_left _ invoked)
  have known : (0 : Int) ∈ (after Env.sample is).handles :=
    Delivered.handles ⟨object, invoked, same⟩
  rw [unanswered] at known
  exact absurd known List.not_mem_nil

end WebrtcDemo
