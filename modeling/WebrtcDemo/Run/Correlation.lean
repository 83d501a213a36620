import WebrtcDemo.Lib.Ledger
import WebrtcDemo.Run.Ownership
import WebrtcDemo.Run.Server

/-!
# Replies and the requests they answer

The two callback maps refine a ledger of requests and replies: registering a
continuation issues its key, running one answers it, and as long as the random
transactions differ no key is issued twice. What the ledger says of any such
history, that no key is answered twice and none for another's entry, then holds
of the client. A continuation may register new requests while it runs; they get
fresh keys, so nothing that waits is touched.
-/

namespace WebrtcDemo

open JanusVideoRoomManager (construct)

/-- What an effect says to the ledger. -/
def Effect.act? : Effect → Option (Ledger.Act (ReplyKind × String) Continuation)
  | .registered kind t func => some (.issue (kind, t) func)
  | .invoked kind t func _ => some (.answer (kind, t) func)
  | _ => none

/-- The keys that continuations were run for, in order and with repetitions. -/
def Client.invocations (s : Client) : List (ReplyKind × String) :=
  s.log.filterMap fun
    | .invoked kind t _ _ => some (kind, t)
    | _ => none

/-- The history of the ledger. -/
def Client.acts (s : Client) : List (Ledger.Act (ReplyKind × String) Continuation) :=
  s.log.filterMap Effect.act?

/-- The callback maps are what the history of the ledger leaves, and every key in it
was drawn. -/
structure Ledgered (env : Env) (s : Client) : Prop where
  kept : Ledger.Kept s.acts s.pending
  drawn : ∀ key ∈ Ledger.issued s.acts, ∃ d < s.draws, key.2 = env.random d

section
variable {env : Env} {i : Input} {s s' : Client}

theorem Client.answered_acts : Ledger.answered s.acts = s.invocations := by
  rw [Ledger.answered, Client.acts, List.filterMap_filterMap, Client.invocations]
  congr 1
  funext e
  cases e <;> rfl

/-! ## Drawing -/

theorem Client.Distinct.of_le (distinct : s'.Distinct env) (fewer : s.draws ≤ s'.draws) :
    s.Distinct env :=
  Set.InjOn.mono (Set.Iio_subset_Iio fewer) distinct

theorem Transition.draws_le (taken : Transition env i s s') : s.draws ≤ s'.draws := by
  cases taken with
  | quiet same => exact same.draws.ge
  | drawn => exact Nat.le_succ _
  | _ => simp

theorem Reply.draws_le (answered : Reply env i s s') : s.draws ≤ s'.draws := by
  cases answered with
  | outcome reads answer alive same => simp [same.draws]
  | session => simp [JanusVideoRoomManager.onCreateSessionId]
  | heartBeat => simp [JanusVideoRoomManager.onHeartBeat, Client.emit]
  | _ => simp

/-- The sample surroundings do not repeat a transaction early. -/
theorem sample_distinct (few : s.draws ≤ 8) : s.Distinct Env.sample := by
  have different : ∀ a < 8, ∀ b < 8, Env.sample.random a = Env.sample.random b → a = b := by
    decide +kernel
  exact fun a early b early' => different a (lt_of_lt_of_le early few) b (lt_of_lt_of_le early' few)

/-! ## The maps refine the ledger -/

/-- What the ledger does not see. -/
theorem Ledgered.keep (ledgered : Ledgered env s) (acts : s'.acts = s.acts)
    (pending : s'.pending = s.pending) (draws : s.draws ≤ s'.draws) : Ledgered env s' where
  kept := by
    rw [acts, pending]
    exact ledgered.kept
  drawn key issued := by
    obtain ⟨d, early, same⟩ := ledgered.drawn key (acts ▸ issued)
    exact ⟨d, early.trans_le draws, same⟩

theorem Client.acts_append {effects : List Effect} (log : s'.log = s.log ++ effects) :
    s'.acts = s.acts ++ effects.filterMap Effect.act? := by
  simp [Client.acts, log]

theorem Quiet.acts (same : Quiet i s s') : s'.acts = s.acts := by
  obtain ⟨effects, log, quiet⟩ := same.log
  have silent : effects.filterMap Effect.act? = [] := by
    rw [List.filterMap_eq_nil_iff]
    intro e member
    have := quiet e member
    cases e <;> first | rfl | simp [Effect.isQuiet] at this
  rw [Client.acts_append log, silent, List.append_nil]

theorem Client.ask_acts {sender : Option Ptr} {session : Option Int} {request : Request}
    {kind : ReplyKind} {func : Continuation} :
    (s.ask env sender session request kind func).acts =
      s.acts ++ [.issue (kind, env.random s.draws) func] :=
  Client.acts_append Client.ask_log

theorem Client.take_acts {kind : ReplyKind} {t : String} {func : Continuation} {object : Json} :
    (s.take kind t func object).acts = s.acts ++ [.answer (kind, t) func] :=
  Client.acts_append Client.take_log

/-- The next transaction has not been used. -/
theorem Ledgered.fresh (ledgered : Ledgered env s) (distinct : s'.Distinct env)
    (next : s.draws < s'.draws) (kind : ReplyKind) :
    (kind, env.random s.draws) ∉ Ledger.issued s.acts := by
  intro issued
  obtain ⟨d, early, same⟩ := ledgered.drawn _ issued
  exact absurd (distinct (Set.mem_Iio.2 next) (Set.mem_Iio.2 (early.trans next)) same) early.ne'

theorem Ledgered.ask (ledgered : Ledgered env s) {sender : Option Ptr} {session : Option Int}
    {request : Request} {kind : ReplyKind} {func : Continuation}
    (distinct : (s.ask env sender session request kind func).Distinct env) :
    Ledgered env (s.ask env sender session request kind func) where
  kept := by
    rw [Client.ask_acts, Client.ask_pending]
    exact .issue ledgered.kept _ _ (ledgered.fresh distinct (by simp) kind)
  drawn key issued := by
    rw [Client.ask_acts, Ledger.issued_issue, List.mem_append, List.mem_singleton] at issued
    rcases issued with before | rfl
    · obtain ⟨d, early, same⟩ := ledgered.drawn key before
      exact ⟨d, by simp; omega, same⟩
    · exact ⟨s.draws, by simp, rfl⟩

theorem Ledgered.take (ledgered : Ledgered env s) {kind : ReplyKind} {t : String}
    {func : Continuation} (waiting : s.pending (kind, t) = some func) (object : Json) :
    Ledgered env (s.take kind t func object) where
  kept := by
    rw [Client.take_acts, Client.take_pending]
    exact .answer ledgered.kept _ _ waiting
  drawn key issued := by
    rw [Client.take_acts, Ledger.issued_answer] at issued
    simpa using ledgered.drawn key issued

theorem Ledgered.quiet (ledgered : Ledgered env s) (same : Quiet i s s') : Ledgered env s' :=
  ledgered.keep same.acts same.pending same.draws.ge

theorem Ledgered.setPeer (ledgered : Ledgered env s) (p : Ptr) (x : JanusPeerConnection) :
    Ledgered env (s.setPeer p x) :=
  ledgered.keep rfl rfl le_rfl

theorem Ledgered.speak (ledgered : Ledgered env s) (sender : Option Ptr) (session : Option Int)
    (request : Request) : Ledgered env (s.speak env sender session request) :=
  ledgered.keep ((Client.acts_append Client.speak_log).trans (List.append_nil _)) rfl
    (Nat.le_succ _)

theorem Ledgered.transition (ledgered : Ledgered env s) (distinct : s'.Distinct env)
    (taken : Transition env i s s') : Ledgered env s' := by
  cases taken with
  | quiet same => exact ledgered.quiet same
  | drawn => exact ledgered.keep rfl rfl (Nat.le_succ _)
  | settings => exact ledgered.keep rfl rfl le_rfl
  | manage => exact ledgered.ask distinct
  | attach room peer =>
    have listed : Ledgered env ((construct s peer).enlist room s.constructed) :=
      ledgered.keep (by simp [Client.acts]) (by simp) (by simp)
    exact listed.ask distinct
  | appoint room peer => exact ledgered.keep (by simp [Client.acts]) (by simp) (by simp)
  | administer _ _ alive => exact (ledgered.setPeer _ _).ask distinct
  | lost => exact ledgered.keep rfl rfl le_rfl
  | unlist => exact ledgered.keep rfl rfl le_rfl
  | leave => exact ledgered.keep (by simp [Client.acts]) (by simp) (by simp)
  | speak => exact ledgered.speak _ _ _

theorem Ledgered.reply (ledgered : Ledgered env s) (distinct : s'.Distinct env)
    (answered : Reply env i s s') : Ledgered env s' := by
  cases answered with
  | session answer => exact (ledgered.take answer.waiting _).keep rfl rfl le_rfl
  | heartBeat answer =>
    exact (ledgered.take answer.waiting _).keep
      ((Client.acts_append rfl).trans (List.append_nil _)) rfl le_rfl
  | dead answer => exact (ledgered.take answer.waiting _).keep rfl rfl le_rfl
  | joined room answer => exact ((ledgered.take answer.waiting _).setPeer _ _).speak _ _ _
  | admin todo isAdmin answer => exact ((ledgered.take answer.waiting _).setPeer _ _).ask distinct
  | outcome _ answer _ same => exact (ledgered.take answer.waiting _).quiet same

theorem step_draws_le (env : Env) (s : Client) (i : Input) : s.draws ≤ (step env s i).draws :=
  (step_decomposes env).related (R := fun s s' : Client => s.draws ≤ s'.draws) (fun _ => le_rfl)
    (fun _ _ _ => le_trans) (fun _ _ answered => answered.draws_le)
    (fun _ _ taken => taken.draws_le) s

theorem run_draws_le (env : Env) (s : Client) (is : List Input) :
    s.draws ≤ (Machine.run (step env) s is).draws :=
  Machine.run_related (R := fun s s' : Client => s.draws ≤ s'.draws) (fun _ => le_rfl)
    (fun _ _ _ => le_trans) (fun s i _ => step_draws_le env s i) (Machine.along_true is)

theorem Ledgered.stepped (ledgered : Ledgered env s) (i : Input)
    (distinct : (step env s i).Distinct env) : Ledgered env (step env s i) := by
  refine (step_decomposes env).keeps (P := fun s : Client => s.Distinct env → Ledgered env s)
    ?_ ?_ (fun _ => ledgered) distinct
  · exact fun _ _ answered sofar distinct =>
      (sofar (distinct.of_le answered.draws_le)).reply distinct answered
  · exact fun _ _ taken sofar distinct =>
      (sofar (distinct.of_le taken.draws_le)).transition distinct taken

theorem Ledgered.run (ledgered : Ledgered env s) {is : List Input}
    (distinct : (Machine.run (step env) s is).Distinct env) :
    Ledgered env (Machine.run (step env) s is) := by
  induction is generalizing s with
  | nil => exact ledgered
  | cons i is ih => exact ih (ledgered.stepped i (distinct.of_le (run_draws_le env _ is))) distinct

theorem ledgered_initial : Ledgered env (Client.initial env) where
  kept := by
    have empty : (Client.initial env).pending = fun _ => none := by
      funext ⟨kind, t⟩
      cases kind <;> rfl
    rw [empty]
    exact .empty
  drawn := by simp [Client.initial, Client.acts, Ledger.issued]

/-- **The callback maps refine the ledger** in every run with distinct transactions. -/
theorem ledgered_after (is : List Input) (distinct : (after env is).Distinct env) :
    Ledgered env (after env is) :=
  ledgered_initial.run distinct

/-! ## What one step does to the waiting continuations -/

/-- Nothing ran, and only keys drawn meanwhile changed. -/
structure Grows (env : Env) (s s' : Client) : Prop where
  draws : s.draws ≤ s'.draws
  pending : ∀ key, s'.pending key = s.pending key ∨
    ∃ d, s.draws ≤ d ∧ d < s'.draws ∧ key.2 = env.random d
  log : ∃ effects, s'.log = s.log ++ effects ∧
    ∀ kind t func object, .invoked kind t func object ∉ effects

namespace Grows

theorem refl (s : Client) : Grows env s s := ⟨le_rfl, fun _ => Or.inl rfl, [], by simp, by simp⟩

theorem trans {s'' : Client} (first : Grows env s s') (second : Grows env s' s'') :
    Grows env s s'' := by
  obtain ⟨es, wrote, none⟩ := first.log
  obtain ⟨es', wrote', none'⟩ := second.log
  refine ⟨first.draws.trans second.draws, fun key => ?_, es ++ es', by simp [wrote, wrote'],
    fun kind t func object member => ?_⟩
  · rcases second.pending key with same | ⟨d, late, early, drawn⟩
    · rcases first.pending key with same' | ⟨d, late, early, drawn⟩
      · exact Or.inl (same.trans same')
      · exact Or.inr ⟨d, late, early.trans_le second.draws, drawn⟩
    · exact Or.inr ⟨d, first.draws.trans late, early, drawn⟩
  · rcases List.mem_append.1 member with early | late
    · exact none _ _ _ _ early
    · exact none' _ _ _ _ late

theorem same (pending : s'.pending = s.pending) (draws : s.draws ≤ s'.draws)
    (log : s'.log = s.log) : Grows env s s' :=
  ⟨draws, fun _ => Or.inl (by rw [pending]), [], by simp [log], by simp⟩

theorem ask (s : Client) (sender : Option Ptr) (session : Option Int) (request : Request)
    (kind : ReplyKind) (func : Continuation) :
    Grows env s (s.ask env sender session request kind func) := by
  refine ⟨by simp, fun key => ?_, _, Client.ask_log, by simp⟩
  rw [Client.ask_pending]
  rcases eq_or_ne key (kind, env.random s.draws) with rfl | other
  · exact Or.inr ⟨s.draws, le_rfl, by simp, rfl⟩
  · exact Or.inl (Function.update_of_ne other _ _)

theorem speak (s : Client) (sender : Option Ptr) (session : Option Int) (request : Request) :
    Grows env s (s.speak env sender session request) :=
  ⟨by simp, fun _ => Or.inl rfl, _, Client.speak_log, by simp⟩

theorem setPeer (s : Client) (p : Ptr) (x : JanusPeerConnection) : Grows env s (s.setPeer p x) :=
  same rfl le_rfl rfl

theorem quiet (same : Quiet i s s') : Grows env s s' := by
  obtain ⟨effects, log, quiet⟩ := same.log
  refine ⟨same.draws.ge, fun _ => Or.inl (by rw [same.pending]), effects, log, ?_⟩
  intro kind t func object member
  simpa [Effect.isQuiet] using quiet _ member

end Grows

theorem Transition.grows (taken : Transition env i s s') : Grows env s s' := by
  cases taken with
  | quiet same => exact .quiet same
  | drawn => exact .same rfl (Nat.le_succ _) rfl
  | settings => exact .same rfl le_rfl rfl
  | manage => exact .ask _ _ _ _ _ _
  | attach room peer =>
    have listed : Grows env s ((construct s peer).enlist room s.constructed) :=
      .same (by simp) (by simp) (by simp)
    exact listed.trans (.ask _ _ _ _ _ _)
  | appoint room peer => exact .same (by simp) (by simp) (by simp)
  | administer => exact (Grows.setPeer _ _ _).trans (.ask _ _ _ _ _ _)
  | lost => exact .same rfl le_rfl rfl
  | unlist => exact .same rfl le_rfl rfl
  | leave => exact .same (by simp) (by simp) (by simp)
  | speak => exact .speak _ _ _ _

/-- A continuation only adds to what waits. -/
theorem callContinuation_grows (s : Client) (func : Continuation) (object : Json) :
    Grows env s (JanusVideoRoomManager.callContinuation env s func object) := by
  cases func with
  | onCreateSessionId => exact .same rfl le_rfl rfl
  | onHeartBeat => exact ⟨le_rfl, fun _ => Or.inl rfl, [.resetTimer], rfl, by simp⟩
  | peer p member =>
    rw [JanusVideoRoomManager.callContinuation]
    rcases alive : s.peers p with _ | x
    · rw [JanusPeerConnection.callMember_dead env alive]
      exact .same rfl le_rfl rfl
    · rcases member.cases_reply with ⟨room, rfl⟩ | ⟨todo, isAdmin⟩ | reads
      · rw [JanusPeerConnection.callMember_joined env room alive]
        exact (Grows.setPeer _ _ _).trans (.speak _ _ _ _)
      · rw [JanusPeerConnection.callMember_admin env isAdmin alive]
        exact (Grows.setPeer _ _ _).trans (.ask _ _ _ _ _ _)
      · exact .quiet (Quiet.callMember_outcome env .socketConnected alive object reads)

/-- What one step may do to the continuations that wait before it. -/
structure Correlated (env : Env) (s : Client) (i : Input) : Prop where
  /-- A continuation runs only on a reply of its kind to its transaction, where it
  is what waits for it; its entry is gone when it runs, and is not put back. -/
  matched : ∀ kind t func object,
    .invoked kind t func object ∈ (step env s i).log.drop s.log.length →
      i.Answers kind t object ∧ s.pending (kind, t) = some func ∧
      step env s i =
        JanusVideoRoomManager.callContinuation env (s.take kind t func object) func object ∧
      (s.take kind t func object).pending (kind, t) = none ∧
      (step env s i).pending (kind, t) = none
  /-- What waits for another reply is neither removed nor replaced nor run. -/
  others : ∀ kind t func, s.pending (kind, t) = some func →
    (∀ object, ¬ i.Answers kind t object) →
      (step env s i).pending (kind, t) = some func ∧
      ∀ func' object, .invoked kind t func' object ∉ (step env s i).log.drop s.log.length

/-- A key that was issued is not drawn again. -/
theorem Ledgered.stays (ledgered : Ledgered env s) (grows : Grows env s s')
    (distinct : s'.Distinct env) {key : ReplyKind × String}
    (issued : key ∈ Ledger.issued s.acts) : s'.pending key = s.pending key := by
  rcases grows.pending key with same | ⟨d, late, early, drawn⟩
  · exact same
  · obtain ⟨d', early', drawn'⟩ := ledgered.drawn key issued
    have same := distinct (Set.mem_Iio.2 early) (Set.mem_Iio.2 (early'.trans_le grows.draws))
      (drawn.symm.trans drawn')
    omega

theorem Client.Answers_kind {kind kind' : ReplyKind} {t t' : String} {object object' : Json}
    (one : i.Answers kind t object) (two : i.Answers kind' t' object') :
    kind = kind' ∧ t = t' ∧ object = object' := by
  obtain ⟨rfl, tag, name⟩ := one
  obtain ⟨same, tag', name'⟩ := two
  obtain rfl : object = object' := by simpa using same
  refine ⟨?_, name.symm.trans name', rfl⟩
  have tags := tag.symm.trans tag'
  cases kind <;> cases kind' <;> first | rfl | simp [ReplyKind.tag] at tags

theorem Ledgered.correlated (ledgered : Ledgered env s) (i : Input)
    (distinct : (step env s i).Distinct env) : Correlated env s i := by
  rcases step_cases env s i with ⟨kind, t, func, object, answer, ran⟩ | chain
  · have grows : Grows env (s.take kind t func object) (step env s i) :=
      ran ▸ callContinuation_grows _ _ _
    have taken := ledgered.take answer.waiting object
    have issued : ∀ {key entry}, s.pending key = some entry →
        key ∈ Ledger.issued (s.take kind t func object).acts := by
      intro key entry waits
      rw [Client.take_acts, Ledger.issued_answer]
      exact Ledger.mem_issued (ledgered.kept.issue_mem waits)
    obtain ⟨effects, log, silent⟩ := grows.log
    have new : (step env s i).log.drop s.log.length =
        .invoked kind t func object :: effects := by
      rw [log, Client.take_log, List.append_assoc, List.drop_left]
      rfl
    have invoked : ∀ {kind' t' func' object'},
        .invoked kind' t' func' object' ∈ (step env s i).log.drop s.log.length →
          kind' = kind ∧ t' = t ∧ func' = func ∧ object' = object := by
      intro kind' t' func' object' member
      rw [new, List.mem_cons] at member
      rcases member with same | later
      · simpa using same
      · exact absurd later (silent _ _ _ _)
    have gone : (s.take kind t func object).pending (kind, t) = none := by
      simp [Client.take_pending]
    constructor
    · intro kind' t' func' object' member
      obtain ⟨rfl, rfl, rfl, rfl⟩ := invoked member
      exact ⟨answer.named, answer.waiting, ran, gone,
        (taken.stays grows distinct (issued answer.waiting)).trans gone⟩
    · intro kind' t' func' waits other
      have different : (kind', t') ≠ (kind, t) := by
        rintro same
        obtain ⟨rfl, rfl⟩ : kind' = kind ∧ t' = t := by simpa using same
        exact other object answer.named
      refine ⟨?_, fun func'' object' member => ?_⟩
      · rw [taken.stays grows distinct (issued waits), Client.take_pending,
          Function.update_of_ne different, waits]
      · obtain ⟨rfl, rfl, -⟩ := invoked member
        exact different rfl
  · have grows : Grows env s (step env s i) :=
      Machine.transitions_keep (P := Grows env s) (fun _ _ taken sofar => sofar.trans taken.grows)
        chain (.refl s)
    obtain ⟨effects, log, silent⟩ := grows.log
    have none : ∀ kind t func object,
        .invoked kind t func object ∉ (step env s i).log.drop s.log.length := by
      intro kind t func object member
      rw [log, List.drop_left] at member
      exact silent _ _ _ _ member
    refine ⟨fun kind t func object member => absurd member (none _ _ _ _), ?_⟩
    intro kind t func waits _
    refine ⟨?_, fun _ _ => none _ _ _ _⟩
    rw [ledgered.stays grows distinct (Ledger.mem_issued (ledgered.kept.issue_mem waits)), waits]

end

/-- **Every continuation runs at most once, on its own reply, and disturbs no other.** -/
theorem replies_correlate (env : Env) (is : List Input) (distinct : (after env is).Distinct env) :
    (after env is).invocations.Nodup ∧
      (∀ kind t func object, .invoked kind t func object ∈ (after env is).log →
        .registered kind t func ∈ (after env is).log) ∧
      ∀ js i, js ++ [i] <+: is → Correlated env (after env js) i := by
  have ledgered := ledgered_after is distinct
  refine ⟨?_, ?_, ?_⟩
  · rw [← Client.answered_acts]
    exact ledgered.kept.answered_nodup
  · intro kind t func object member
    have answered : .answer (kind, t) func ∈ (after env is).acts :=
      List.mem_filterMap.2 ⟨_, member, rfl⟩
    obtain ⟨e, inLog, isIssue⟩ := List.mem_filterMap.1 (ledgered.kept.issue_of_answer answered)
    cases e <;> simp [Effect.act?] at isIssue
    obtain ⟨⟨rfl, rfl⟩, rfl⟩ := isIssue
    exact inLog
  · rintro js i ⟨ks, rfl⟩
    have ends : after env (js ++ [i] ++ ks) =
        Machine.run (step env) (step env (after env js) i) ks := by
      rw [after_append, after_concat]
    have distinct' : (step env (after env js) i).Distinct env := by
      refine Client.Distinct.of_le distinct ?_
      rw [ends]
      exact run_draws_le env _ ks
    exact (ledgered_after js (distinct'.of_le (step_draws_le _ _ _))).correlated i distinct'

/-- A heart beat acknowledged twice, after a `success` of the same transaction. -/
theorem replies_correlate_heartBeat :
    let t := Env.sample.random 0
    let is := [.heartBeatMessage, Server.success t 7, Server.ack t, Server.ack t]
    (after Env.sample is).invocations = [(.ack, t)] ∧ (after Env.sample is).invocations.Nodup ∧
      Correlated Env.sample (after Env.sample is.dropLast) (Server.ack t) := by
  intro t is
  have all := replies_correlate Env.sample is (sample_distinct (by decide +kernel))
  exact ⟨by decide +kernel, all.1, all.2.2 is.dropLast (Server.ack t) ⟨[], rfl⟩⟩

end WebrtcDemo
