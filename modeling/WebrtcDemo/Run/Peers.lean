import WebrtcDemo.Run.Correlation
import WebrtcDemo.Run.Messages

/-!
# A peer over time

Between its construction and its deletion a peer keeps the session, the feed and
the private id it was made with. Its room changes only while it is the
administrative peer, by a request for video rooms, and it stays the
administrative peer, or stays none, for good.
-/

namespace WebrtcDemo

open JanusVideoRoomManager (construct)

/-- The peer `p`, which was `x` in `before`, lives on in `s` after (a part of) the step
for the input `i`. -/
structure Follows (i : Input) (before : Client) (p : Ptr) (x : JanusPeerConnection) (s : Client) :
    Prop where
  owned : Owned s
  unlisted : ∀ room, i.leaves? = some room → p ∉ s.listed room
  admin : ∀ room, s.admin room = some p ↔ before.admin room = some p
  alive : ∃ y, s.peers p = some y ∧ y.mSessionID = x.mSessionID ∧
    y.mSubscribeId = x.mSubscribeId ∧ y.mPrivateId = x.mPrivateId ∧
    (y.mVideoRoomId = x.mVideoRoomId ∨
      before.admin .video = some p ∧ ∃ roomId member,
        i.adminRequest? = some (.video, roomId, member))

section
variable {env : Env} {i : Input} {before s s' : Client} {p : Ptr} {x : JanusPeerConnection}

theorem Follows.start (owned : Owned s) (alive : s.peers p = some x)
    (unlisted : ∀ room, i.leaves? = some room → p ∉ s.listed room) : Follows i s p x s :=
  ⟨owned, unlisted, fun _ => Iff.rfl, x, alive, rfl, rfl, rfl, Or.inl rfl⟩

/-- The peer is older than what is constructed next. -/
theorem Follows.older (follows : Follows i before p x s) : p < s.constructed := by
  obtain ⟨y, alive, -⟩ := follows.alive
  exact follows.owned.below p (by simp [alive])

/-- What does not touch the peer, its lists and the administrative pointers. -/
theorem Follows.keep (follows : Follows i before p x s) (owned : Owned s')
    (peers : s'.peers p = s.peers p) (listed : ∀ room, p ∈ s'.listed room → p ∈ s.listed room)
    (admin : ∀ room, s'.admin room = some p ↔ s.admin room = some p) :
    Follows i before p x s' where
  owned := owned
  unlisted room leaves member := follows.unlisted room leaves (listed room member)
  admin room := (admin room).trans (follows.admin room)
  alive := by
    rw [peers]
    exact follows.alive

/-- The fields of a peer are written: those of another, or its handles, or the room of
the administrative peer. -/
theorem Follows.setPeer (follows : Follows i before p x s) {q : Ptr} {z w : JanusPeerConnection}
    (alive : s.peers q = some z) (session : w.mSessionID = z.mSessionID)
    (feed : w.mSubscribeId = z.mSubscribeId) (key : w.mPrivateId = z.mPrivateId)
    (room : w.mVideoRoomId = z.mVideoRoomId ∨ s.admin .video = some q ∧
      ∃ roomId member, i.adminRequest? = some (.video, roomId, member)) :
    Follows i before p x (s.setPeer q w) where
  owned := follows.owned.keep rfl (setPeer_alive alive w) (by simp [Client.holders])
  unlisted room leaves member := follows.unlisted room leaves (by simpa using member)
  admin room := by simpa using follows.admin room
  alive := by
    obtain ⟨y, lives, session', feed', key', room'⟩ := follows.alive
    rcases eq_or_ne p q with rfl | other
    · obtain rfl : z = y := Option.some.inj (alive.symm.trans lives)
      refine ⟨w, by simp, session.trans session', feed.trans feed', key.trans key', ?_⟩
      rcases room with same | ⟨holds, request⟩
      · rwa [same]
      · exact Or.inr ⟨(follows.admin .video).1 holds, request⟩
    · exact ⟨y, by simpa [Function.update_of_ne other] using lives, session', feed', key', room'⟩

theorem Follows.speak (follows : Follows i before p x s) (sender : Option Ptr)
    (session : Option Int) (request : Request) :
    Follows i before p x (s.speak env sender session request) :=
  follows.keep (follows.owned.keep (by simp) (by simp) (by simp [Client.holders])) (by simp)
    (by simp) (by simp)

theorem Follows.ask (follows : Follows i before p x s) (sender : Option Ptr)
    (session : Option Int) (request : Request) (kind : ReplyKind) (func : Continuation) :
    Follows i before p x (s.ask env sender session request kind func) :=
  follows.keep (follows.owned.keep (by simp) (by simp) (by simp [Client.holders])) (by simp)
    (by simp) (by simp)

theorem Follows.transition (follows : Follows i before p x s) (taken : Transition env i s s') :
    Follows i before p x s' := by
  have owned := follows.owned.transition taken
  have other : p ≠ s.constructed := follows.older.ne
  cases taken with
  | quiet same =>
    exact follows.keep owned (by rw [same.peers]) (fun room => by rw [same.listed]; exact id)
      fun room => by rw [same.admin]
  | drawn => exact follows.keep owned rfl (fun _ => id) fun _ => Iff.rfl
  | settings => exact follows.keep owned rfl (fun _ => id) fun _ => Iff.rfl
  | manage => exact follows.ask _ _ _ _ _
  | attach room peer =>
    refine follows.keep owned (by simp [Function.update_of_ne other]) (fun room' => ?_) (by simp)
    rw [Client.attachNew_listed]
    split_ifs with same
    · subst same
      simp [other]
    · exact id
  | appoint room peer vacant =>
    refine follows.keep owned (by simp [Function.update_of_ne other]) (by simp) fun room' => ?_
    rw [Client.appoint_admin]
    split_ifs with same
    · subst same
      simp [vacant, other.symm]
    · simp
  | @administer q z room roomId member request holds alive =>
    refine (follows.setPeer (w := room.setRoom roomId.toUInt32 z) alive (by simp) (by simp) (by simp)
      ?_).ask _ _ _ _ _
    cases room
    · exact Or.inr ⟨holds, roomId, member, request⟩
    · exact Or.inl rfl
  | lost => exact follows.keep owned rfl (fun _ => id) fun _ => Iff.rfl
  | unlist _ _ fewer =>
    refine follows.keep owned rfl (fun room member => ?_) fun _ => Iff.rfl
    cases room
    · exact fewer.subset member
    · exact member
  | leave room leaves =>
    refine follows.keep owned ?_ (fun room' => ?_) (by simp)
    · rw [follows.owned.leave_peers]
      exact if_neg (follows.unlisted room leaves)
    · rw [Client.leave_listed]
      split_ifs
      · simp
      · exact id
  | speak => exact follows.speak _ _ _

theorem Follows.reply (follows : Follows i before p x s) (answered : Reply env i s s') :
    Follows i before p x s' := by
  have owned := follows.owned.reply answered
  have taken (kind t func object) : Follows i before p x (s.take kind t func object) :=
    follows.keep (follows.owned.keep (by simp) (by simp) (by simp [Client.holders])) (by simp)
      (by simp) (by simp)
  cases answered with
  | session => exact (taken _ _ _ _).keep owned rfl (fun _ => id) fun _ => Iff.rfl
  | heartBeat => exact (taken _ _ _ _).keep owned rfl (fun _ => id) fun _ => Iff.rfl
  | dead => exact (taken _ _ _ _).keep owned rfl (fun _ => id) fun _ => Iff.rfl
  | @joined _ _ _ _ z room answer alive =>
    exact ((taken _ _ _ _).setPeer (w := room.setHandle _ z) (by simpa using alive) (by simp)
      (by simp) (by simp) (Or.inl (by simp))).speak _ _ _
  | @admin _ _ _ _ _ z todo isAdmin answer alive =>
    exact ((taken _ _ _ _).setPeer (w := todo.room.setHandle _ z) (by simpa using alive) (by simp)
      (by simp) (by simp) (Or.inl (by simp))).ask _ _ _ _ _
  | outcome _ _ _ same =>
    exact (taken _ _ _ _).keep owned (by rw [same.peers])
      (fun room => by rw [same.listed]; exact id) fun room => by rw [same.admin]

variable (env i) in
/-- **A peer that is not deleted lives on through a step.** -/
theorem step_follows (owned : Owned s) (alive : s.peers p = some x)
    (unlisted : ∀ room, i.leaves? = some room → p ∉ s.listed room) :
    Follows i s p x (step env s i) :=
  (step_decomposes env).keeps (fun _ _ answered follows => follows.reply answered)
    (fun _ _ taken follows => follows.transition taken) (Follows.start owned alive unlisted)

/-- `p` was constructed and is deleted. -/
structure Deleted (p : Ptr) (s : Client) : Prop where
  older : p < s.constructed
  gone : s.peers p = none

theorem Deleted.same (deleted : Deleted p s) (constructed : s.constructed ≤ s'.constructed)
    (peers : s'.peers p = s.peers p) : Deleted p s' :=
  ⟨deleted.older.trans_le constructed, peers.trans deleted.gone⟩

theorem Deleted.written (deleted : Deleted p s) {q : Ptr} {z w : JanusPeerConnection}
    (alive : s.peers q = some z) (constructed : s.constructed ≤ s'.constructed)
    (peers : s'.peers = Function.update s.peers q (some w)) : Deleted p s' := by
  refine deleted.same constructed ?_
  have other : p ≠ q := by
    rintro rfl
    simp [deleted.gone] at alive
  rw [peers, Function.update_of_ne other]

/-- What is constructed next is another peer. -/
theorem Deleted.constructs (deleted : Deleted p s) {w : JanusPeerConnection}
    (constructed : s.constructed ≤ s'.constructed)
    (peers : s'.peers = Function.update s.peers s.constructed (some w)) : Deleted p s' := by
  refine deleted.same constructed ?_
  rw [peers, Function.update_of_ne deleted.older.ne]

theorem Deleted.transition (deleted : Deleted p s) (owned : Owned s)
    (taken : Transition env i s s') : Deleted p s' := by
  cases taken with
  | quiet same => exact deleted.same same.constructed.ge (by rw [same.peers])
  | drawn => exact deleted.same le_rfl rfl
  | settings => exact deleted.same le_rfl rfl
  | manage => exact deleted.same (by simp) (by simp)
  | attach room peer => exact deleted.constructs (w := peer) (by simp) (by simp)
  | appoint room peer => exact deleted.constructs (w := peer) (by simp) (by simp)
  | administer _ _ alive => exact deleted.written alive (by simp) (by simp; rfl)
  | lost => exact deleted.same le_rfl rfl
  | unlist => exact deleted.same le_rfl rfl
  | leave room =>
    refine deleted.same (by simp) ?_
    rw [owned.leave_peers]
    show (if p ∈ s.listed room then none else s.peers p) = s.peers p
    rw [deleted.gone, ite_self]
  | speak => exact deleted.same le_rfl rfl

theorem Deleted.reply (deleted : Deleted p s) (answered : Reply env i s s') : Deleted p s' := by
  have taken (kind t func object) : Deleted p (s.take kind t func object) :=
    deleted.same (by simp) (by simp)
  cases answered with
  | session => exact (taken _ _ _ _).same le_rfl rfl
  | heartBeat => exact (taken _ _ _ _).same le_rfl rfl
  | dead => exact (taken _ _ _ _).same le_rfl rfl
  | joined room answer alive => exact deleted.written alive (by simp) (by simp; rfl)
  | admin todo _ answer alive => exact deleted.written alive (by simp) (by simp; rfl)
  | outcome _ _ _ same => exact (taken _ _ _ _).same same.constructed.ge (by rw [same.peers])

/-- **A peer that lives after a step and is not new lived before it.** -/
theorem step_precedes (owned : Owned s) (older : p < s.constructed) {y : JanusPeerConnection}
    (alive : (step env s i).peers p = some y) :
    ∃ x, s.peers p = some x ∧ Follows i s p x (step env s i) := by
  rcases before : s.peers p with _ | x
  · have deleted : Owned (step env s i) ∧ Deleted p (step env s i) :=
      (step_decomposes env).keeps (P := fun t : Client => Owned t ∧ Deleted p t)
        (fun _ _ answered kept => ⟨kept.1.reply answered, kept.2.reply answered⟩)
        (fun _ _ taken kept => ⟨kept.1.transition taken, kept.2.transition kept.1 taken⟩)
        ⟨owned, older, before⟩
    simp [deleted.2.gone] at alive
  · refine ⟨x, rfl, step_follows env i owned before fun room leaves listed => ?_⟩
    obtain ⟨t, same, stepped⟩ : ∃ t, Quiet i s t ∧ step env s i = t.leave room := step_leaves leaves
    rw [stepped, (owned.quiet same).leave_peers, same.listed] at alive
    simp [listed] at alive

/-! ## A request over time -/

/-- What waits for a reply waits through a step that does not bring it. -/
theorem Ledgered.waits_step (ledgered : Ledgered env s)
    (distinct : (step env s i).Distinct env) {kind : ReplyKind} {t : String}
    {func : Continuation} (waits : s.pending (kind, t) = some func)
    (unanswered : ∀ object, ¬ i.Answers kind t object) :
    (step env s i).pending (kind, t) = some func :=
  ((ledgered.correlated i distinct).others kind t func waits unanswered).1

/-- A reply runs what waits for it. -/
theorem step_answered {kind : ReplyKind} {t : String} {func : Continuation} {object : Json}
    (answer : Answer i s kind t func object) :
    step env s i =
      JanusVideoRoomManager.callContinuation env (s.take kind t func object) func object := by
  obtain ⟨⟨rfl, tag, rfl⟩, waiting⟩ := answer
  rw [step, JanusVideoRoomManager.onWebSocketReceivedMessage]
  cases kind
  · have isSuccess : object.text "janus" = "success" := tag
    have found : s.janus.mMessage_success_callback.lookup (object.text "transaction") = some func :=
      waiting
    rw [if_pos isSuccess, JanusVideoRoomManager.onMessageSuccess, found]
    rfl
  · have isAck : object.text "janus" = "ack" := tag
    have notSuccess : object.text "janus" ≠ "success" := by
      rw [isAck]
      decide
    have found : s.janus.mMessage_ack_callback.lookup (object.text "transaction") = some func :=
      waiting
    rw [if_neg notSuccess, if_pos isAck, JanusVideoRoomManager.onMessageAck, found]
    rfl

/-- A reply that nothing waits for is ignored. -/
theorem step_ignored {kind : ReplyKind} {t : String} {object : Json}
    (reply : i.Answers kind t object) (nothing : s.pending (kind, t) = none) :
    step env s i = s := by
  obtain ⟨rfl, tag, rfl⟩ := reply
  rw [step, JanusVideoRoomManager.onWebSocketReceivedMessage]
  cases kind
  · have isSuccess : object.text "janus" = "success" := tag
    have missing : s.janus.mMessage_success_callback.lookup (object.text "transaction") = none :=
      nothing
    rw [if_pos isSuccess, JanusVideoRoomManager.onMessageSuccess, missing]
  · have isAck : object.text "janus" = "ack" := tag
    have notSuccess : object.text "janus" ≠ "success" := by
      rw [isAck]
      decide
    have missing : s.janus.mMessage_ack_callback.lookup (object.text "transaction") = none :=
      nothing
    rw [if_neg notSuccess, if_pos isAck, JanusVideoRoomManager.onMessageAck, missing]

variable (env s) in
/-- A reply runs one continuation or nothing. -/
theorem step_reply {kind : ReplyKind} {t : String} {object : Json}
    (reply : i.Answers kind t object) : Reply env i s (step env s i) ∨ step env s i = s := by
  rcases waits : s.pending (kind, t) with _ | func
  · exact Or.inr (step_ignored reply waits)
  · have answer : Answer i s kind t func object := ⟨reply, waits⟩
    rw [step_answered answer]
    exact Or.inl answer.reply

end

end WebrtcDemo
