import WebrtcDemo.Client.WebSocket
import WebrtcDemo.Run.Peers

/-!
# Keepalives and their acknowledgements

The only requests that wait for an acknowledgement are the keepalives, and nothing but
the acknowledgement of one that waits has the client reset the timer of its socket. So
what an event means to the socket is one of three things: a keepalive goes out, one is
acknowledged, or nothing.
-/

namespace WebrtcDemo

open JanusVideoRoomManager (construct)

/-- What waits for an acknowledgement is `onHeartBeat`, and that waits for nothing else. -/
def Client.Beats (s : Client) : Prop :=
  ∀ kind t func, s.pending (kind, t) = some func → (kind = .ack ↔ func = .onHeartBeat)

/-- A keepalive waits for its acknowledgement. -/
def Client.AwaitsAck (s : Client) (t : String) : Prop := (s.pending (.ack, t)).isSome

/-- Nothing was said to the socket about keepalives, and the same ones wait. -/
structure Idle (s s' : Client) : Prop where
  log : ∃ effects, s'.log = s.log ++ effects ∧
    ∀ e ∈ effects, e ≠ .resetTimer ∧ e.keepalive? = none
  acks : ∀ t, s'.pending (.ack, t) = s.pending (.ack, t)

section
variable {env : Env} {i : Input} {s s' s'' : Client} {p : Ptr}

theorem Input.acked?_iff {t : String} : i.acked? = some t ↔ ∃ object, i.Answers .ack t object := by
  constructor
  · intro acked
    unfold Input.acked? at acked
    split at acked
    · next object =>
      split_ifs at acked with tag
      exact ⟨object, rfl, tag, Option.some.inj acked⟩
    · simp at acked
  · rintro ⟨object, rfl, tag, transaction⟩
    have isAck : object.text "janus" = "ack" := tag
    rw [Input.acked?, if_pos isAck, transaction]

namespace Idle

theorem refl (s : Client) : Idle s s := ⟨⟨[], by simp, by simp⟩, fun _ => rfl⟩

theorem trans (first : Idle s s') (second : Idle s' s'') : Idle s s'' := by
  obtain ⟨es, wrote, silent⟩ := first.log
  obtain ⟨es', wrote', silent'⟩ := second.log
  refine ⟨⟨es ++ es', by simp [wrote, wrote'], fun e member => ?_⟩, fun t =>
    (second.acks t).trans (first.acks t)⟩
  exact (List.mem_append.1 member).elim (silent e) (silent' e)

theorem same (log : s'.log = s.log) (pending : s'.pending = s.pending) : Idle s s' :=
  ⟨⟨[], by simp [log], by simp⟩, fun _ => by rw [pending]⟩

theorem quiet (same : Quiet i s s') : Idle s s' := by
  obtain ⟨effects, log, quiet⟩ := same.log
  refine ⟨⟨effects, log, fun e member => ?_⟩, fun _ => by rw [same.pending]⟩
  have unsaid := quiet e member
  constructor
  · rintro rfl
    exact absurd unsaid (by simp [Effect.isQuiet])
  · cases e <;> first | rfl | simp [Effect.isQuiet] at unsaid

theorem setPeer (s : Client) (p : Ptr) (x : JanusPeerConnection) : Idle s (s.setPeer p x) :=
  same rfl rfl

theorem speak (s : Client) (sender : Option Ptr) (session : Option Int) {request : Request}
    (other : request ≠ .keepalive) : Idle s (s.speak env sender session request) :=
  ⟨⟨_, Client.speak_log, by simp [Effect.keepalive?, other]⟩, fun _ => rfl⟩

/-- A request that waits for success. -/
theorem ask (s : Client) (sender : Option Ptr) (session : Option Int) {request : Request}
    (other : request ≠ .keepalive) (func : Continuation) :
    Idle s (s.ask env sender session request .success func) := by
  refine ⟨⟨_, Client.ask_log, by simp [Effect.keepalive?, other]⟩, fun t => ?_⟩
  rw [Client.ask_pending]
  exact Function.update_of_ne (by simp) _ _

/-- A continuation that waited for success. -/
theorem take (s : Client) (t : String) (func : Continuation) (object : Json) :
    Idle s (s.take .success t func object) := by
  refine ⟨⟨_, Client.take_log, by simp [Effect.keepalive?]⟩, fun t' => ?_⟩
  rw [Client.take_pending]
  exact Function.update_of_ne (by simp) _ _

end Idle

theorem LocalRequest.ne_keepalive {room : RoomKind} {peer : JanusPeerConnection}
    {request : Request} (own : LocalRequest room peer request) : request ≠ .keepalive := by
  cases own <;> simp

/-- Only a heartbeat sends keepalives. -/
theorem Transition.idle (other : i ≠ .heartBeatMessage) (taken : Transition env i s s') :
    Idle s s' := by
  cases taken with
  | quiet same => exact .quiet same
  | drawn => exact .same rfl rfl
  | settings => exact .same rfl rfl
  | manage own =>
    cases own with
    | create => exact .ask _ _ _ (by simp) _
    | keepalive => exact absurd rfl other
  | attach room peer =>
    have listed : Idle s ((construct s peer).enlist room s.constructed) :=
      .same (by simp) (by simp)
    exact listed.trans (.ask _ _ _ (by simp) _)
  | appoint => exact .same (by simp) (by simp)
  | administer => exact (Idle.setPeer _ _ _).trans (.ask _ _ _ (by simp) _)
  | lost => exact .same rfl rfl
  | unlist => exact .same rfl rfl
  | leave => exact .same (by simp) (by simp)
  | speak _ _ _ _ own => exact .speak _ _ _ own.ne_keepalive

/-- A reply that acknowledges no keepalive is one of success. -/
theorem Answer.success {kind : ReplyKind} {t : String} {func : Continuation} {object : Json}
    (answer : Answer i s kind t func object) (silent : ∀ t, i.acked? = some t → ¬ s.AwaitsAck t) :
    kind = .success := by
  cases kind with
  | success => rfl
  | ack =>
    refine absurd ?_ (silent t (Input.acked?_iff.2 ⟨object, answer.named⟩))
    rw [Client.AwaitsAck, answer.waiting]
    rfl

theorem Reply.idle (beats : s.Beats) (silent : ∀ t, i.acked? = some t → ¬ s.AwaitsAck t)
    (answered : Reply env i s s') : Idle s s' := by
  cases answered with
  | session answer =>
    obtain rfl := answer.success silent
    exact (Idle.take _ _ _ _).trans (.same rfl rfl)
  | heartBeat answer =>
    obtain rfl := answer.success silent
    exact absurd ((beats _ _ _ answer.waiting).2 rfl) (by simp)
  | dead answer =>
    obtain rfl := answer.success silent
    exact (Idle.take _ _ _ _).trans (.same rfl rfl)
  | joined room answer =>
    obtain rfl := answer.success silent
    exact ((Idle.take _ _ _ _).trans (.setPeer _ _ _)).trans (.speak _ _ _ (by simp))
  | admin todo isAdmin answer =>
    obtain rfl := answer.success silent
    exact ((Idle.take _ _ _ _).trans (.setPeer _ _ _)).trans (.ask _ _ _ (by simp) _)
  | outcome _ answer _ same =>
    obtain rfl := answer.success silent
    exact (Idle.take _ _ _ _).trans (.quiet same)

/-! ## The three kinds of steps -/

/-- A heartbeat sends a keepalive, which waits. -/
theorem step_heartBeatMessage : step env s .heartBeatMessage =
    s.ask env none (some (castDouble s.janus.mSessionId)) .keepalive .ack .onHeartBeat := rfl

variable (env) in
/-- An acknowledgement that is waited for has the timer reset. -/
theorem step_acked (beats : s.Beats) {t : String} (acks : i.acked? = some t)
    (awaits : s.AwaitsAck t) : ∃ object, step env s i =
      JanusVideoRoomManager.onHeartBeat (s.take .ack t .onHeartBeat object) := by
  obtain ⟨object, named⟩ := Input.acked?_iff.1 acks
  obtain ⟨func, waiting⟩ := Option.isSome_iff_exists.1 awaits
  obtain rfl := (beats _ _ _ waiting).1 rfl
  exact ⟨object, step_answered ⟨named, waiting⟩⟩

variable (env) in
/-- **Nothing else concerns the timers of the socket.** -/
theorem step_idle (beats : s.Beats) (other : i ≠ .heartBeatMessage)
    (silent : ∀ t, i.acked? = some t → ¬ s.AwaitsAck t) : Idle s (step env s i) := by
  rcases step_decomposes env s i with answered | chain
  · exact answered.idle beats silent
  · exact Machine.transitions_keep (P := Idle s)
      (fun _ _ taken sofar => sofar.trans (taken.idle other)) chain (.refl s)

/-! ## What waits for an acknowledgement -/

theorem Client.Beats.same (beats : s.Beats) (pending : s'.pending = s.pending) : s'.Beats := by
  rw [Client.Beats, pending]
  exact beats

theorem Client.Beats.setPeer (beats : s.Beats) (p : Ptr) (x : JanusPeerConnection) :
    (s.setPeer p x).Beats := beats

theorem Client.Beats.ask (beats : s.Beats) {sender : Option Ptr} {session : Option Int}
    {request : Request} {kind : ReplyKind} {func : Continuation}
    (own : kind = .ack ↔ func = .onHeartBeat) :
    (s.ask env sender session request kind func).Beats := by
  intro kind' t func' waits
  rw [Client.ask_pending, Function.update_apply] at waits
  split_ifs at waits with key
  · obtain ⟨rfl, rfl⟩ := Prod.mk.inj key
    exact Option.some.inj waits ▸ own
  · exact beats _ _ _ waits

theorem Client.Beats.take (beats : s.Beats) (kind : ReplyKind) (t : String) (func : Continuation)
    (object : Json) : (s.take kind t func object).Beats := by
  intro kind' t' func' waits
  rw [Client.take_pending, Function.update_apply] at waits
  split_ifs at waits
  exact beats _ _ _ waits

theorem Client.Beats.transition (beats : s.Beats) (taken : Transition env i s s') : s'.Beats := by
  cases taken with
  | quiet same => exact beats.same same.pending
  | drawn => exact beats
  | settings => exact beats
  | manage own => cases own <;> exact beats.ask (by simp)
  | attach room peer =>
    have listed : ((construct s peer).enlist room s.constructed).Beats := beats.same (by simp)
    exact listed.ask (by simp)
  | appoint => exact beats.same (by simp)
  | administer => exact (beats.setPeer _ _).ask (by simp)
  | lost => exact beats
  | unlist => exact beats
  | leave => exact beats.same (by simp)
  | speak => exact beats

theorem Client.Beats.reply (beats : s.Beats) (answered : Reply env i s s') : s'.Beats := by
  have taken := beats.take
  cases answered with
  | session => exact (taken _ _ _ _).same rfl
  | heartBeat => exact (taken _ _ _ _).same rfl
  | dead => exact (taken _ _ _ _).same rfl
  | joined => exact (taken _ _ _ _).same rfl
  | admin => exact ((taken _ _ _ _).setPeer _ _).ask (by simp)
  | outcome _ _ _ same => exact (taken _ _ _ _).same same.pending

theorem Client.Beats.step (beats : s.Beats) (env : Env) (i : Input) :
    (WebrtcDemo.step env s i).Beats :=
  (step_decomposes env).keeps (fun _ _ answered beats => Client.Beats.reply beats answered)
    (fun _ _ taken beats => Client.Beats.transition beats taken) beats

theorem beats_initial : (Client.initial env).Beats := by
  intro kind t func waits
  cases kind <;> simp [Client.initial, Client.pending, JanusVideoRoomManager.callbacks] at waits

end

end WebrtcDemo
