import WebrtcDemo.Run.Peers

/-!
# Who joins a video room

A peer joins where the reply to its attach request is answered, and nowhere else:
a step that answers no such reply of a peer leaves its joins, and what it waits for
in order to join, as they were (`Aside`).
-/

namespace WebrtcDemo

open JanusVideoRoomManager (construct)

/-- The handle and the body of a `join`. -/
def Request.join? : Request → Option (Int × Body)
  | .message handle_id (.join room ptype) _ => some (handle_id, .join room ptype)
  | _ => none

/-- The `join` that a message is, if `p` sent it. -/
def joinFrom? (p : Ptr) (sent : Option Ptr × Message) : Option (Int × Body) :=
  if sent.1 = some p then sent.2.request.join? else none

/-- The joins that a peer has sent. -/
def Client.joins (s : Client) (p : Ptr) : List (Int × Body) := s.messages.filterMap (joinFrom? p)

/-- A reply to `key` will make `p` join. -/
def Client.Joining (s : Client) (p : Ptr) (key : ReplyKind × String) : Prop :=
  s.pending key = some (.peer p .onAttachVideoRoomJoin)

/-- The joins of `p` do not change, and it waits for nothing new in order to join. -/
structure Aside (p : Ptr) (s s' : Client) : Prop where
  constructed : s.constructed ≤ s'.constructed
  joins : s'.joins p = s.joins p
  joining : ∀ key, s'.Joining p key → s.Joining p key

section
variable {env : Env} {i : Input} {s s' s'' : Client} {p : Ptr}

theorem joinBody_join? (handle_id : Int) (x : JanusPeerConnection) (jsep : Option Jsep) :
    (Request.message handle_id (JanusPeerConnection.joinBody x) jsep).join? =
      some (handle_id, JanusPeerConnection.joinBody x) := by
  rw [JanusPeerConnection.joinBody]
  split_ifs <;> rfl

theorem LocalRequest.join?_none {room : RoomKind} {peer : JanusPeerConnection} {request : Request}
    (own : LocalRequest room peer request) : request.join? = none := by
  cases own with
  | sdp =>
    rw [JanusPeerConnection.sdpBody]
    split_ifs <;> rfl
  | sdpText => rfl
  | candidate => rfl

theorem ManagerRequest.join?_none {request : Request} {kind : ReplyKind} {func : Continuation}
    (own : ManagerRequest i request kind func) : request.join? = none := by
  cases own <;> rfl

theorem adminStep_join?_none {member : PeerMember} {todo : AdminStep}
    (isAdmin : adminStep member = some todo) (handle_id : Int) (x : JanusPeerConnection) :
    (Request.message handle_id (todo.body x) none).join? = none ∧
      todo.outcome ≠ .onAttachVideoRoomJoin := by
  cases member <;> simp only [adminStep, reduceCtorEq, Option.some.injEq] at isAdmin <;>
    subst isAdmin <;> exact ⟨rfl, by decide⟩

theorem adminRequest_member {room : RoomKind} {roomId : Int32} {member : PeerMember}
    (request : i.adminRequest? = some (room, roomId, member)) :
    member ≠ .onAttachVideoRoomJoin := by
  cases i <;> simp [Input.adminRequest?] at request
  all_goals
    rw [← request.2.2]
    decide

namespace Aside

theorem refl (p : Ptr) (s : Client) : Aside p s s := ⟨le_rfl, rfl, fun _ => id⟩

theorem trans (first : Aside p s s') (second : Aside p s' s'') : Aside p s s'' :=
  ⟨first.constructed.trans second.constructed, second.joins.trans first.joins,
    fun key waits => first.joining key (second.joining key waits)⟩

theorem same (constructed : s.constructed ≤ s'.constructed) (messages : s'.messages = s.messages)
    (pending : s'.pending = s.pending) : Aside p s s' :=
  ⟨constructed, by rw [Client.joins, messages, Client.joins], fun key waits => by
    rwa [Client.Joining, pending] at waits⟩

/-- One more message that is no join of `p`. -/
theorem joins_append {sender : Option Ptr} {m : Message}
    (messages : s'.messages = s.messages ++ [(sender, m)])
    (other : sender ≠ some p ∨ m.request.join? = none) : s'.joins p = s.joins p := by
  have none : joinFrom? p (sender, m) = none := by
    rw [joinFrom?]
    rcases other with other | noJoin
    · exact if_neg other
    · rw [noJoin]
      exact ite_self _
  rw [Client.joins, messages, List.filterMap_append, List.filterMap_cons_none none,
    List.filterMap_nil, List.append_nil, Client.joins]

theorem speak (s : Client) {sender : Option Ptr} {session : Option Int} {request : Request}
    (other : sender ≠ some p ∨ request.join? = none) :
    Aside p s (s.speak env sender session request) :=
  ⟨le_rfl, joins_append Client.speak_messages other, fun _ => id⟩

theorem ask (s : Client) {sender : Option Ptr} {session : Option Int} {request : Request}
    {kind : ReplyKind} {func : Continuation} (other : sender ≠ some p ∨ request.join? = none)
    (elsewhere : func ≠ .peer p .onAttachVideoRoomJoin) :
    Aside p s (s.ask env sender session request kind func) := by
  refine ⟨by simp, joins_append Client.ask_messages other, fun key waits => ?_⟩
  rw [Client.Joining, Client.ask_pending, Function.update_apply] at waits
  split_ifs at waits
  · exact absurd (Option.some.inj waits) elsewhere
  · exact waits

theorem take (s : Client) (kind : ReplyKind) (t : String) (func : Continuation) (object : Json) :
    Aside p s (s.take kind t func object) := by
  refine ⟨by simp, by simp [Client.joins], fun key waits => ?_⟩
  rw [Client.Joining, Client.take_pending, Function.update_apply] at waits
  split_ifs at waits
  exact waits

theorem quiet (same' : Quiet i s s') : Aside p s s' :=
  same same'.constructed.ge same'.messages same'.pending

theorem setPeer (s : Client) (q : Ptr) (x : JanusPeerConnection) : Aside p s (s.setPeer q x) :=
  same le_rfl rfl rfl

end Aside

theorem Transition.aside (older : p < s.constructed) (taken : Transition env i s s') :
    Aside p s s' := by
  cases taken with
  | quiet same => exact .quiet same
  | drawn => exact .same le_rfl rfl rfl
  | settings => exact .same le_rfl rfl rfl
  | manage own => exact .ask s (Or.inr own.join?_none) (by cases own <;> simp)
  | attach room peer =>
    have listed : Aside p s ((construct s peer).enlist room s.constructed) :=
      .same (by simp) (by simp) (by simp)
    refine listed.trans (.ask _ (Or.inr rfl) ?_)
    intro same
    injection same with bound _
    exact older.ne bound.symm
  | appoint => exact .same (by simp) (by simp) (by simp)
  | administer request =>
    refine (Aside.setPeer _ _ _).trans (.ask _ (Or.inr rfl) ?_)
    intro same
    injection same with _ bound
    exact adminRequest_member request bound
  | lost => exact .same le_rfl rfl rfl
  | unlist => exact .same le_rfl rfl rfl
  | leave => exact .same (by simp) (by simp) (by simp)
  | speak _ _ _ _ own => exact .speak _ (Or.inr own.join?_none)

/-- An answered reply makes its own peer join, or stays aside. -/
theorem Reply.aside (answered : Reply env i s s') :
    (∃ kind t object, Answer i s kind t (.peer p .onAttachVideoRoomJoin) object) ∨
      Aside p s s' := by
  cases answered with
  | session => exact Or.inr ((Aside.take s _ _ _ _).trans (.same le_rfl rfl rfl))
  | heartBeat =>
    exact Or.inr ((Aside.take s _ _ _ _).trans (.same le_rfl Client.onHeartBeat_messages rfl))
  | dead => exact Or.inr ((Aside.take s _ _ _ _).trans (.same le_rfl rfl rfl))
  | @joined kind t q object x room answer alive =>
    cases room with
    | video =>
      rcases eq_or_ne q p with rfl | other
      · exact Or.inl ⟨kind, t, object, answer⟩
      · exact Or.inr (((Aside.take s _ _ _ _).trans (.setPeer _ _ _)).trans
          (.speak _ (Or.inl (by simpa using other))))
    | text =>
      exact Or.inr (((Aside.take s _ _ _ _).trans (.setPeer _ _ _)).trans
        (.speak _ (Or.inr rfl)))
  | admin todo isAdmin answer alive =>
    obtain ⟨noJoin, other⟩ := adminStep_join?_none isAdmin _ _
    exact Or.inr (((Aside.take s _ _ _ _).trans (.setPeer _ _ _)).trans
      (.ask _ (Or.inr noJoin) (by simp [other])))
  | outcome _ _ _ same => exact Or.inr ((Aside.take s _ _ _ _).trans (.quiet same))

variable (env i) in
/-- **A peer joins only on a reply to its own attach request.** -/
theorem step_aside (older : p < s.constructed) :
    (∃ kind t object, Answer i s kind t (.peer p .onAttachVideoRoomJoin) object) ∨
      Aside p s (step env s i) := by
  rcases step_decomposes env s i with answered | chain
  · exact answered.aside
  · refine Or.inr (Machine.transitions_keep (P := Aside p s) (fun _ _ taken sofar => ?_) chain
      (.refl p s))
    exact sofar.trans (taken.aside (older.trans_le sofar.constructed))

/-- On that reply, the join goes out on the handle that the reply carries. -/
theorem step_joined {kind : ReplyKind} {t : String} {object : Json} {x : JanusPeerConnection}
    (answer : Answer i s kind t (.peer p .onAttachVideoRoomJoin) object)
    (alive : s.peers p = some x) :
    step env s i =
      ((s.take kind t (.peer p .onAttachVideoRoomJoin) object).setPeer p
        { x with mVideoRoomHandleID := JanusPeerConnection.replyId object }).speak env (some p)
        (some (castDouble x.mSessionID))
        (.message (castDouble (JanusPeerConnection.replyId object)) (JanusPeerConnection.joinBody x)
          none) := by
  rw [step_answered answer]
  exact JanusPeerConnection.callMember_joined env .video (by simpa using alive) object

variable (env) in
theorem step_joins {kind : ReplyKind} {t : String} {object : Json} {x : JanusPeerConnection}
    (answer : Answer i s kind t (.peer p .onAttachVideoRoomJoin) object)
    (alive : s.peers p = some x) :
    (step env s i).joins p = s.joins p ++
        [(castDouble (JanusPeerConnection.replyId object), JanusPeerConnection.joinBody x)] ∧
      (step env s i).constructed = s.constructed ∧
      ∀ key, (step env s i).Joining p key → s.Joining p key ∧ key ≠ (kind, t) := by
  rw [step_joined answer alive]
  refine ⟨?_, by simp, fun key waits => ?_⟩
  · simp [Client.joins, joinFrom?, joinBody_join?]
  · rw [Client.Joining, Client.speak_pending, Client.setPeer_pending, Client.take_pending,
      Function.update_apply] at waits
    split_ifs at waits with other
    exact ⟨waits, other⟩

end

end WebrtcDemo
