import WebrtcDemo.Run.Ownership

/-!
# What a waiting continuation is bound to

A continuation of a peer is bound to a raw pointer, and nothing tells it that the
peer is deleted. `Bound` says that no continuation waits for a deleted peer and
that none ever ran on one. Leaving a room is the only input that can break it,
and breaks it exactly when a listed peer waits for a reply.
-/

namespace WebrtcDemo

open JanusVideoRoomManager (construct)

/-- A reply is awaited by a member function of `p`. -/
def Client.Awaits (s : Client) (p : Ptr) : Prop :=
  ∃ key member, s.pending key = some (.peer p member)

/-- No continuation waits for a deleted peer, and none ran on one. -/
structure Bound (s : Client) : Prop where
  live : ∀ p, s.Awaits p → (s.peers p).isSome
  never : ∀ p, s.fault ≠ some (.deadPeer p)

/-- Nobody leaves a room while one of its peers waits for a reply. -/
def Parting (s : Client) (i : Input) : Prop :=
  ∀ room, i.leaves? = some room → ∀ p ∈ s.listed room, ¬ s.Awaits p

section
variable {env : Env} {i : Input} {s s' : Client}

/-- What makes no peer wait and deletes none. -/
theorem Bound.keep (bound : Bound s) (fewer : ∀ p, s'.Awaits p → s.Awaits p)
    (alive : ∀ p, (s.peers p).isSome → (s'.peers p).isSome)
    (fault : ∀ p, s'.fault = some (.deadPeer p) → s.fault = some (.deadPeer p)) : Bound s' where
  live p waits := alive p (bound.live p (fewer p waits))
  never p dead := bound.never p (fault p dead)

/-- A request of a live peer makes that peer wait. -/
theorem Bound.ask (bound : Bound s) {p : Ptr} (alive : (s.peers p).isSome) (session : Option Int)
    (request : Request) (member : PeerMember) :
    Bound (s.ask env (some p) session request .success (.peer p member)) where
  live q waits := by
    obtain ⟨key, other, waiting⟩ := waits
    rw [Client.ask_peers]
    rw [Client.ask_pending] at waiting
    rcases eq_or_ne key (.success, env.random s.draws) with rfl | elsewhere
    · obtain ⟨rfl, -⟩ : p = q ∧ member = other := by simpa using waiting
      exact alive
    · rw [Function.update_of_ne elsewhere] at waiting
      exact bound.live q ⟨key, other, waiting⟩
  never p dead := bound.never p (by simpa using dead)

theorem Client.awaits_of_pending (same : s'.pending = s.pending) (p : Ptr) :
    s'.Awaits p ↔ s.Awaits p := by
  rw [Client.Awaits, same, Client.Awaits]

theorem Client.awaits_of_take {kind : ReplyKind} {t : String} {func : Continuation} {object : Json}
    {p : Ptr} (waits : (s.take kind t func object).Awaits p) : s.Awaits p := by
  obtain ⟨key, member, waiting⟩ := waits
  rw [Client.take_pending] at waiting
  rcases eq_or_ne key (kind, t) with rfl | elsewhere
  · simp at waiting
  · rw [Function.update_of_ne elsewhere] at waiting
    exact ⟨key, member, waiting⟩

theorem Bound.quiet (bound : Bound s) (same : Quiet i s s') : Bound s' :=
  bound.keep (fun p => (Client.awaits_of_pending same.pending p).1)
    (fun p => by rw [same.peers]; exact id) same.fault

theorem Bound.take (bound : Bound s) (kind : ReplyKind) (t : String) (func : Continuation)
    (object : Json) : Bound (s.take kind t func object) :=
  bound.keep (fun _ => Client.awaits_of_take) (by simp) (by simp)

theorem Bound.setPeer (bound : Bound s) {p : Ptr} {x : JanusPeerConnection}
    (alive : s.peers p = some x) (peer : JanusPeerConnection) : Bound (s.setPeer p peer) :=
  bound.keep (fun q => (Client.awaits_of_pending (by simp) q).1)
    (fun q => (setPeer_alive alive peer q).2) (by simp)

theorem Bound.speak (bound : Bound s) (sender : Option Ptr) (session : Option Int)
    (request : Request) : Bound (s.speak env sender session request) :=
  bound.keep (fun q => (Client.awaits_of_pending rfl q).1) (by simp) (by simp)

/-- A new object takes nobody's place. -/
theorem Bound.made (bound : Bound s) (peer : JanusPeerConnection) :
    Bound (construct s peer) := by
  refine bound.keep (fun q => (Client.awaits_of_pending (by simp) q).1) (fun q lives => ?_) (by simp)
  rcases eq_or_ne q s.constructed with rfl | other
  · simp
  · simpa [Function.update_of_ne other] using lives

theorem Bound.transition (owned : Owned s) (bound : Bound s) (stays : i.leaves? = none)
    (taken : Transition env i s s') : Bound s' := by
  cases taken with
  | quiet same => exact bound.quiet same
  | drawn => exact bound.keep (fun _ waits => waits) (fun _ lives => lives) fun _ dead => dead
  | settings => exact bound.keep (fun _ waits => waits) (fun _ lives => lives) fun _ dead => dead
  | manage own session =>
    refine bound.keep (fun p waits => ?_) (by simp) (by simp)
    obtain ⟨key, member, waiting⟩ := waits
    rw [Client.ask_pending, Function.update_apply] at waiting
    refine ⟨key, member, ?_⟩
    split_ifs at waiting
    · cases own <;> simp at waiting
    · exact waiting
  | attach room peer =>
    have listed : Bound ((construct s peer).enlist room s.constructed) :=
      (bound.made peer).keep (fun q => (Client.awaits_of_pending (by simp) q).1) (by simp)
        (by simp)
    exact listed.ask (by simp) _ _ _
  | appoint room peer =>
    exact (bound.made peer).keep (fun q => (Client.awaits_of_pending (by simp) q).1) (by simp)
      (by simp)
  | administer _ _ alive => exact (bound.setPeer alive _).ask (by simp) _ _ _
  | lost room holds gone =>
    exact absurd (owned.live _ (Client.admin_holders holds)) (by simp [gone])
  | unlist => exact bound.keep (fun _ waits => waits) (fun _ lives => lives) fun _ dead => dead
  | leave room leaves => simp [stays] at leaves
  | speak => exact bound.speak _ _ _

theorem Bound.reply (bound : Bound s) (answered : Reply env i s s') : Bound s' := by
  cases answered with
  | session =>
    exact (bound.take _ _ _ _).keep (fun _ waits => waits) (fun _ lives => lives) fun _ dead => dead
  | heartBeat =>
    exact (bound.take _ _ _ _).keep (fun _ waits => waits) (fun _ lives => lives) fun _ dead => dead
  | dead answer gone => exact absurd (bound.live _ ⟨_, _, answer.waiting⟩) (by simp [gone])
  | @joined _ _ _ _ x room answer alive =>
    exact Bound.speak (Bound.setPeer (x := x) (bound.take _ _ _ _) (by simpa using alive) _) _ _ _
  | @admin _ _ _ _ _ x todo isAdmin answer alive =>
    exact Bound.ask (Bound.setPeer (x := x) (bound.take _ _ _ _) (by simpa using alive) _)
      (by simp) _ _ _
  | outcome _ _ _ same => exact (bound.take _ _ _ _).quiet same

/-- A step keeps `Bound` if and only if it parts from no waiting peer. -/
theorem Bound.step_iff (owned : Owned s) (bound : Bound s) (i : Input) :
    Bound (step env s i) ↔ Parting s i := by
  rcases leaves : i.leaves? with _ | room
  · have kept : Owned (step env s i) ∧ Bound (step env s i) :=
      (step_decomposes env).keeps (P := fun s => Owned s ∧ Bound s)
        (fun _ _ answered both => ⟨both.1.reply answered, both.2.reply answered⟩)
        (fun _ _ taken both =>
          ⟨both.1.transition taken, Bound.transition both.1 both.2 leaves taken⟩) ⟨owned, bound⟩
    simp [kept.2, Parting, leaves]
  · obtain ⟨t, same, stepped⟩ : ∃ t, Quiet i s t ∧ step env s i = t.leave room := step_leaves leaves
    have owned' := owned.quiet same
    have bound' := bound.quiet same
    rw [stepped]
    constructor
    · rintro after room' leaves' p listed waits
      obtain rfl : room = room' := Option.some.inj (leaves.symm.trans leaves')
      have waits' : (t.leave room).Awaits p :=
        (Client.awaits_of_pending (Client.leave_pending.trans same.pending) p).2 waits
      have lives := after.live p waits'
      rw [owned'.leave_peers, same.listed] at lives
      simp [listed] at lives
    · intro parting
      refine ⟨fun p waits => ?_, fun p dead => bound'.never p (owned'.leave_fault room ▸ dead)⟩
      have waits' : t.Awaits p := (Client.awaits_of_pending Client.leave_pending p).1 waits
      have unlisted : p ∉ t.listed room := by
        rw [same.listed]
        exact fun listed => parting room leaves p listed
          ((Client.awaits_of_pending same.pending p).1 waits')
      rw [owned'.leave_peers]
      simpa [unlisted] using bound'.live p waits'

theorem bound_initial : Bound (Client.initial env) :=
  ⟨fun p ⟨key, member, waiting⟩ => by
    obtain ⟨kind, t⟩ := key
    cases kind <;> simp [Client.initial, Client.pending, JanusVideoRoomManager.callbacks] at waiting,
    fun p dead => by simp [Client.initial] at dead⟩

end

/-- **No continuation is bound to a deleted peer** in exactly the runs that part from
no waiting peer. -/
theorem bound_throughout (env : Env) (is : List Input) :
    Machine.Throughout (step env) Bound (Client.initial env) is ↔
      Machine.Along (step env) Parting (Client.initial env) is :=
  Machine.throughout_iff_along (Q := Owned) (fun _ i owned => owned.step i)
    (fun _ i _ owned bound => bound.step_iff owned i) owned_initial bound_initial

/-- A join and a leave before the attach reply leave a continuation on a deleted peer. -/
theorem join_leave_unbound : ¬ ∀ (env : Env) (is : List Input),
    Machine.Throughout (step env) Bound (Client.initial env) is := by
  intro always
  have bound := (always Env.sample [.joinVideoRoom 1234 "cc", .leaveVideoRoom]).last
  have waits : (after Env.sample [.joinVideoRoom 1234 "cc", .leaveVideoRoom]).Awaits 0 :=
    ⟨(.success, Env.sample.random 0), .onAttachVideoRoomJoin, by decide +kernel⟩
  exact absurd (bound.live 0 waits) (by decide +kernel)

end WebrtcDemo
