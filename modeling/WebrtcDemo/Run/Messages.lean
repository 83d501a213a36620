import WebrtcDemo.Run.Ownership
import WebrtcDemo.Run.Server

/-!
# What is sent, and by whom

The messages of a client, in order, each with the peer that sent it, and the handle
ids that attach replies have returned. A peer sends nothing before it is constructed.
The `join` of a video room is sent in one place only: where the attach reply to a join
is answered.
-/

namespace WebrtcDemo

open JanusVideoRoomManager (construct)

/-- What an effect sent, and from which peer. -/
def Effect.message? : Effect → Option (Option Ptr × Message)
  | .sent sender m => some (sender, m)
  | _ => none

/-- The messages a client has sent. -/
def Client.messages (s : Client) : List (Option Ptr × Message) := s.log.filterMap Effect.message?

/-- The messages that one step sends. -/
def stepMessages (env : Env) (s : Client) (i : Input) : List (Option Ptr × Message) :=
  ((step env s i).log.drop s.log.length).filterMap Effect.message?

/-- The handle ids that attach replies have returned. -/
def Client.handles (s : Client) : List Int :=
  s.log.filterMap fun
    | .invoked .success _ (.peer _ member) object =>
      if member.isOutcome then none else some (JanusPeerConnection.replyId object)
    | _ => none

/-- An event comes from a handle that an attach reply has returned. -/
def Truthful (s : Client) (i : Input) : Prop := ∀ h, i.Names h → h ∈ s.handles

theorem truthful_of_silent {s : Client} {i : Input} (silent : ∀ object, ¬ i.Reports object) :
    Truthful s i :=
  fun _ ⟨object, event, _⟩ => absurd event (silent object)

theorem Server.VideoEvent.truthful {s : Client} (e : Server.VideoEvent)
    (low : Numeral.llongMin ≤ e.sender) (high : e.sender ≤ Numeral.llongMax)
    (returned : e.sender ∈ s.handles) : Truthful s (Server.event e) :=
  fun _ named => e.names low high named ▸ returned

section
variable {env : Env} {i : Input} {s s' : Client} {p : Ptr}

namespace Client

theorem messages_append {effects : List Effect} (log : s'.log = s.log ++ effects) :
    s'.messages = s.messages ++ effects.filterMap Effect.message? := by
  simp [messages, log]

@[simp] theorem speak_messages {sender : Option Ptr} {session : Option Int} {request : Request} :
    (s.speak env sender session request).messages = s.messages ++
      [(sender, { transaction := env.random s.draws, session_id := session, request })] :=
  messages_append speak_log

@[simp] theorem ask_messages {sender : Option Ptr} {session : Option Int} {request : Request}
    {kind : ReplyKind} {func : Continuation} :
    (s.ask env sender session request kind func).messages = s.messages ++
      [(sender, { transaction := env.random s.draws, session_id := session, request })] :=
  messages_append ask_log

@[simp] theorem take_messages {kind : ReplyKind} {t : String} {func : Continuation}
    {object : Json} : (s.take kind t func object).messages = s.messages :=
  (messages_append take_log).trans (List.append_nil _)

@[simp] theorem onHeartBeat_messages :
    (JanusVideoRoomManager.onHeartBeat s).messages = s.messages :=
  (messages_append rfl).trans (List.append_nil _)

@[simp] theorem setPeer_messages {x : JanusPeerConnection} :
    (s.setPeer p x).messages = s.messages := rfl

@[simp] theorem construct_messages {x : JanusPeerConnection} :
    (construct s x).messages = s.messages := rfl

@[simp] theorem enlist_messages {room : RoomKind} : (s.enlist room p).messages = s.messages := by
  cases room <;> rfl

@[simp] theorem appoint_messages {room : RoomKind} : (s.appoint room p).messages = s.messages := by
  cases room <;> rfl

@[simp] theorem leave_messages {room : RoomKind} : (s.leave room).messages = s.messages := by
  simp [messages]

theorem attachNew_messages {room : RoomKind} {peer : JanusPeerConnection} :
    (s.attachNew env room peer).messages = s.messages ++
      [(some s.constructed,
        { transaction := env.random s.draws
          session_id := some (castDouble peer.mSessionID)
          request := .attach room.plugin })] :=
  (messages_append attachNew_log).trans rfl

end Client

theorem Quiet.messages (same : Quiet i s s') : s'.messages = s.messages := by
  obtain ⟨effects, log, quiet⟩ := same.log
  have silent : effects.filterMap Effect.message? = [] := by
    rw [List.filterMap_eq_nil_iff]
    intro e member
    have := quiet e member
    cases e <;> first | rfl | simp [Effect.isQuiet] at this
  rw [Client.messages_append log, silent, List.append_nil]

/-! ## Only constructed peers take part -/

/-- Every peer that sent a message or awaits a reply was constructed before. -/
structure Made (s : Client) : Prop where
  senders : ∀ p m, (some p, m) ∈ s.messages → p < s.constructed
  awaited : ∀ key p member, s.pending key = some (.peer p member) → p < s.constructed

theorem Made.same (made : Made s) (messages : s'.messages = s.messages)
    (pending : s'.pending = s.pending) (constructed : s.constructed ≤ s'.constructed) : Made s' where
  senders p m member := (made.senders p m (messages ▸ member)).trans_le constructed
  awaited key p member waits := (made.awaited key p member (pending ▸ waits)).trans_le constructed

theorem Made.quiet (made : Made s) (same : Quiet i s s') : Made s' :=
  made.same same.messages same.pending same.constructed.ge

theorem Made.take (made : Made s) (kind : ReplyKind) (t : String) (func : Continuation)
    (object : Json) : Made (s.take kind t func object) where
  senders p m member := by simpa using made.senders p m (by simpa using member)
  awaited key p member waits := by
    rw [Client.take_pending, Function.update_apply] at waits
    split_ifs at waits
    simpa using made.awaited key p member waits

theorem Made.setPeer (made : Made s) (p : Ptr) (x : JanusPeerConnection) : Made (s.setPeer p x) :=
  made.same rfl rfl le_rfl

theorem Made.anew (made : Made s) (x : JanusPeerConnection) : Made (construct s x) :=
  made.same rfl rfl (Nat.le_succ _)

theorem Made.speak (made : Made s) {sender : Option Ptr} (session : Option Int) (request : Request)
    (there : ∀ p, sender = some p → p < s.constructed) :
    Made (s.speak env sender session request) where
  senders p m member := by
    rw [Client.speak_messages, List.mem_append, List.mem_singleton] at member
    rcases member with before | last
    · exact made.senders p m before
    · exact there p (congrArg Prod.fst last).symm
  awaited := made.awaited

theorem Made.ask (made : Made s) {sender : Option Ptr} (session : Option Int) (request : Request)
    (kind : ReplyKind) {func : Continuation} (there : ∀ p, sender = some p → p < s.constructed)
    (bound : ∀ p member, func = .peer p member → p < s.constructed) :
    Made (s.ask env sender session request kind func) where
  senders p m member := by
    rw [Client.ask_constructed]
    rw [Client.ask_messages, List.mem_append, List.mem_singleton] at member
    rcases member with before | last
    · exact made.senders p m before
    · exact there p (congrArg Prod.fst last).symm
  awaited key p member waits := by
    rw [Client.ask_constructed]
    rw [Client.ask_pending, Function.update_apply] at waits
    split_ifs at waits
    · exact bound p member (Option.some.inj waits)
    · exact made.awaited key p member waits

/-- A request of a peer that is there, which then awaits the reply. -/
theorem Made.askPeer (made : Made s) (older : p < s.constructed) (session : Option Int)
    (request : Request) (kind : ReplyKind) (member : PeerMember) :
    Made (s.ask env (some p) session request kind (.peer p member)) :=
  made.ask session request kind (fun _ same => Option.some.inj same ▸ older) fun q other same => by
    injection same with same _
    exact same ▸ older

theorem Made.transition (owned : Owned s) (made : Made s) (taken : Transition env i s s') :
    Made s' := by
  have older : ∀ {p x}, s.peers p = some x → p < s.constructed := fun alive =>
    owned.below _ (by simp [alive])
  cases taken with
  | quiet same => exact made.quiet same
  | drawn => exact made.same rfl rfl le_rfl
  | settings => exact made.same rfl rfl le_rfl
  | manage own => exact made.ask _ _ _ (by simp) (by cases own <;> simp)
  | attach room peer =>
    have listed : Made ((construct s peer).enlist room s.constructed) :=
      (made.anew peer).same (by simp) (by simp) (by simp)
    exact listed.askPeer (by simp) _ _ _ _
  | appoint room peer => exact (made.anew peer).same (by simp) (by simp) (by simp)
  | administer _ _ alive => exact (made.setPeer _ _).askPeer (older alive) _ _ _ _
  | lost => exact made.same rfl rfl le_rfl
  | unlist => exact made.same rfl rfl le_rfl
  | leave => exact made.same (by simp) (by simp) (by simp)
  | speak _ _ alive => exact made.speak _ _ fun _ same => Option.some.inj same ▸ older alive

theorem Made.reply (owned : Owned s) (made : Made s) (answered : Reply env i s s') : Made s' := by
  have older : ∀ {p x kind t func object}, s.peers p = some x →
      p < (s.take kind t func object).constructed := fun alive => by
    simpa using owned.below _ (by simp [alive])
  cases answered with
  | session => exact (made.take _ _ _ _).same rfl rfl le_rfl
  | heartBeat => exact (made.take _ _ _ _).same Client.onHeartBeat_messages rfl le_rfl
  | dead => exact (made.take _ _ _ _).same rfl rfl le_rfl
  | joined room answer alive =>
    exact ((made.take _ _ _ _).setPeer _ _).speak _ _ fun _ same =>
      Option.some.inj same ▸ older alive
  | admin todo isAdmin answer alive =>
    exact ((made.take _ _ _ _).setPeer _ _).askPeer (older alive) _ _ _ _
  | outcome _ _ _ same => exact (made.take _ _ _ _).quiet same

theorem made_initial : Made (Client.initial env) where
  senders p m member := by simp [Client.initial, Client.messages] at member
  awaited key p member waits := by
    obtain ⟨kind, t⟩ := key
    cases kind <;> simp [Client.initial, Client.pending, JanusVideoRoomManager.callbacks] at waits

theorem made_after (env : Env) (is : List Input) : Made (after env is) := by
  have both : Owned (after env is) ∧ Made (after env is) := by
    refine Machine.run_keeps (P := fun s : Client => Owned s ∧ Made s) (fun s i kept _ => ?_)
      ⟨owned_initial, made_initial⟩ (Machine.along_true is)
    exact (step_decomposes env).keeps (P := fun s : Client => Owned s ∧ Made s)
      (fun _ _ answered kept => ⟨kept.1.reply answered, .reply kept.1 kept.2 answered⟩)
      (fun _ _ taken kept => ⟨kept.1.transition taken, .transition kept.1 kept.2 taken⟩) kept
  exact both.2

end

end WebrtcDemo
