import WebrtcDemo.Run.Peers

/-!
# Requests that wait

Which continuations wait can be read off the history, and so can what a reply will do. A
continuation that was registered and has not run still waits, whatever came in between, and
the reply to its transaction runs it; every other reply does nothing at all.
-/

namespace WebrtcDemo

section
variable {env : Env} {s : Client} {kind : ReplyKind} {t : String} {func : Continuation}

theorem Client.issue_acts :
    .issue (kind, t) func ∈ s.acts ↔ .registered kind t func ∈ s.log := by
  rw [Client.acts, List.mem_filterMap]
  constructor
  · rintro ⟨e, member, isIssue⟩
    cases e <;> simp [Effect.act?] at isIssue
    obtain ⟨⟨rfl, rfl⟩, rfl⟩ := isIssue
    exact member
  · exact fun member => ⟨_, member, rfl⟩

/-- What waits was registered and has not run. -/
theorem Ledgered.pending_iff (ledgered : Ledgered env s) :
    s.pending (kind, t) = some func ↔
      .registered kind t func ∈ s.log ∧ (kind, t) ∉ s.invocations := by
  rw [ledgered.kept.pending_iff, Client.issue_acts, Client.answered_acts]

/-- Nothing waits for a transaction that was never registered, or whose continuation ran. -/
theorem Ledgered.settled (ledgered : Ledgered env s)
    (settled : (∀ func, .registered kind t func ∉ s.log) ∨ (kind, t) ∈ s.invocations) :
    s.pending (kind, t) = none := by
  rcases waits : s.pending (kind, t) with _ | func
  · rfl
  · obtain ⟨member, unanswered⟩ := ledgered.pending_iff.1 waits
    exact settled.elim (fun never => absurd member (never func)) fun ran => absurd ran unanswered

end

/-- **No reply is lost, and none is taken for another**: what a reply does is settled by what
was registered and what has run. -/
theorem outstanding_after (env : Env) (is : List Input) (distinct : (after env is).Distinct env) :
    let s := after env is
    (∀ kind t func, s.pending (kind, t) = some func ↔
      .registered kind t func ∈ s.log ∧ (kind, t) ∉ s.invocations) ∧
    ∀ i kind t object, i.Answers kind t object →
      (∀ func, .registered kind t func ∈ s.log → (kind, t) ∉ s.invocations →
        step env s i =
          JanusVideoRoomManager.callContinuation env (s.take kind t func object) func object) ∧
      ((∀ func, .registered kind t func ∉ s.log) ∨ (kind, t) ∈ s.invocations →
        step env s i = s) := by
  intro s
  have ledgered : Ledgered env s := ledgered_after is distinct
  refine ⟨fun kind t func => ledgered.pending_iff, fun i kind t object answers => ⟨?_, ?_⟩⟩
  · intro func registered unanswered
    exact step_answered ⟨answers, ledgered.pending_iff.2 ⟨registered, unanswered⟩⟩
  · exact fun settled => step_ignored answers (ledgered.settled settled)

/-- A session request and a heart beat; the reply to the first has come, and comes again. -/
theorem outstanding_after_sample :
    let t := Env.sample.random
    let s := after Env.sample [.socketConnected, .heartBeatMessage, Server.success (t 0) 7]
    (s.pending (.ack, t 1) = some .onHeartBeat ↔
      .registered .ack (t 1) .onHeartBeat ∈ s.log ∧ (ReplyKind.ack, t 1) ∉ s.invocations) ∧
    step Env.sample s (Server.success (t 0) 8) = s := by
  intro t s
  have all := outstanding_after Env.sample
    [.socketConnected, .heartBeatMessage, Server.success (t 0) 7] (sample_distinct (by decide +kernel))
  refine ⟨all.1 .ack (t 1) .onHeartBeat, ?_⟩
  have reply : (Server.success (t 0) 8).Answers .success (t 0) (Server.successReply (t 0) 8) :=
    Server.success_answers.2 ⟨rfl, rfl, rfl⟩
  exact (all.2 _ _ _ _ reply).2 (Or.inr (by decide +kernel))

end WebrtcDemo
