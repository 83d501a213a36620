import WebrtcDemo.Run.Timers

/-!
# A healthy connection

While the socket stays connected and every keepalive is acknowledged soon enough, the
timeout timer is a watch over the ticks of the ping timer: a tick that finds it stopped
starts it, and each acknowledgement starts it anew. The keepalives that are not
acknowledged are the pulses not answered, so the watch never expires.
-/

namespace WebrtcDemo

namespace Link

/-- What the timeout timer leaves after a tick. -/
def slack : Nat := JanusWebSocket.pingTimeout - JanusWebSocket.pingInterval

/-- The timeout timer as a watch over the ticks. -/
def watch (l : Link) : Watch String where
  now := l.now
  pulse := l.socket.pPingTimer.due.getD l.now
  expiry := l.socket.pPingTimeOutTimer.due
  unanswered := l.unacked

/-- A socket that is connected is neither closed nor disconnected. -/
def StaysConnected (l : Link) (i : LinkInput) : Prop :=
  l.socket.state = .ConnectedState → i ≠ .Close ∧ i ≠ .disconnected

/-- No keepalive has waited for its acknowledgement for longer than `delay`. -/
def AckedWithin (delay : Nat) (l : Link) : Prop := ∀ sent ∈ l.unacked, l.now ≤ sent.2 + delay

/-- The next tick of the ping timer is due within an interval. -/
structure Ticking (l : Link) (tick : Nat) : Prop where
  due : l.socket.pPingTimer.due = some tick
  ahead : l.now ≤ tick
  soon : tick ≤ l.now + JanusWebSocket.pingInterval
  interval : l.socket.pPingTimer.interval = JanusWebSocket.pingInterval

/-- The timeout timer runs, or an acknowledgement would have it run. -/
def Watched (l : Link) : Prop :=
  l.socket.pPingTimeOutTimer.isActive = true ∨ ∃ t, l.client.AwaitsAck t

/-- Nothing has timed out, and the watch is covered. -/
structure Steady (l : Link) : Prop where
  beats : l.client.Beats
  ticking : l.socket.state = .ConnectingState ∨ l.socket.state = .ConnectedState →
    ∃ tick, l.Ticking tick
  connected : l.Watched → l.socket.state = .ConnectedState
  limit : l.Watched → l.socket.pPingTimeOutTimer.interval = JanusWebSocket.pingTimeout
  waiting : ∀ sent ∈ l.unacked, l.client.AwaitsAck sent.1
  covered : l.watch.Covered slack
  never : l.timeouts = []

section
variable {env : Env} {l : Link} {i : Input}

theorem covered_of_stopped (stopped : l.socket.pPingTimeOutTimer.isActive = false) :
    l.watch.Covered slack := by
  intro expiry set
  have active : l.socket.pPingTimeOutTimer.isActive = true := Timer.isActive_iff.2 ⟨expiry, set⟩
  exact absurd active (by simp [stopped])

/-- A socket that is not connected has its timeout timer stopped, and waits for nothing. -/
theorem Steady.unwatched (steady : l.Steady) (down : l.socket.state ≠ .ConnectedState) :
    l.socket.pPingTimeOutTimer.isActive = false ∧ ∀ t, ¬ l.client.AwaitsAck t :=
  ⟨Bool.eq_false_iff.2 fun active => down (steady.connected (Or.inl active)),
    fun t awaits => down (steady.connected (Or.inr ⟨t, awaits⟩))⟩

/-- A socket that is down may be given any state and any ping timer that go together. -/
theorem Steady.down (steady : l.Steady) (down : l.socket.state ≠ .ConnectedState)
    {socket : JanusWebSocket} (stopped : socket.pPingTimeOutTimer.isActive = false)
    (ticking : socket.state = .ConnectingState ∨ socket.state = .ConnectedState →
      ∃ tick, Ticking { l with socket } tick) : Steady { l with socket } where
  beats := steady.beats
  ticking := ticking
  connected watched := by
    rcases watched with active | ⟨t, awaits⟩
    · exact absurd active (by simp [stopped])
    · exact absurd awaits ((steady.unwatched down).2 t)
  limit watched := by
    rcases watched with active | ⟨t, awaits⟩
    · exact absurd active (by simp [stopped])
    · exact absurd awaits ((steady.unwatched down).2 t)
  waiting := steady.waiting
  covered := covered_of_stopped stopped
  never := steady.never

/-! ## What the client is told -/

/-- Nobody who waits is struck out by an acknowledgement that nobody waits for. -/
theorem Steady.unacked_idle (steady : l.Steady)
    (silent : ∀ t, i.acked? = some t → ¬ l.client.AwaitsAck t) :
    (l.unacked.filter fun sent => i.acked? ≠ some sent.1) = l.unacked := by
  refine List.filter_eq_self.2 fun sent member => decide_eq_true fun acked => ?_
  exact silent sent.1 acked (steady.waiting sent member)

theorem Steady.idle (steady : l.Steady) (other : i ≠ .heartBeatMessage)
    (silent : ∀ t, i.acked? = some t → ¬ l.client.AwaitsAck t) : (l.handle env i).Steady := by
  have idle := step_idle env steady.beats other silent
  have awaits : ∀ t, (WebrtcDemo.step env l.client i).AwaitsAck t ↔ l.client.AwaitsAck t := by
    intro t
    rw [Client.AwaitsAck, idle.acks, Client.AwaitsAck]
  rw [handle_idle steady.beats other silent, steady.unacked_idle silent]
  have watched : Watched { l with client := WebrtcDemo.step env l.client i } → l.Watched :=
    Or.imp_right (Exists.imp fun t => (awaits t).1)
  exact ⟨steady.beats.step env i, fun up => (steady.ticking up).imp fun _ ticking =>
      ⟨ticking.due, ticking.ahead, ticking.soon, ticking.interval⟩,
    fun now => steady.connected (watched now), fun now => steady.limit (watched now),
    fun sent member => (awaits sent.1).2 (steady.waiting sent member), steady.covered, steady.never⟩

theorem room : JanusWebSocket.pingInterval + slack ≤ JanusWebSocket.pingTimeout := by decide

/-- An awaited acknowledgement answers its pulse. -/
theorem Steady.acked (steady : l.Steady) {t : String} (acks : i.acked? = some t)
    (awaits : l.client.AwaitsAck t) : (l.handle env i).Steady := by
  have watched : l.Watched := Or.inr ⟨t, awaits⟩
  have up := steady.connected watched
  obtain ⟨tick, ticking⟩ := steady.ticking (Or.inr up)
  obtain ⟨object, reset⟩ := step_acked env steady.beats acks awaits
  have waits : ∀ t', t' ≠ t → (WebrtcDemo.step env l.client i).pending (.ack, t') =
      l.client.pending (.ack, t') := by
    intro t' other
    rw [reset]
    show (l.client.take _ _ _ _).pending _ = _
    rw [Client.take_pending]
    exact Function.update_of_ne (by simpa using other) _ _
  have covered : (l.watch.answered JanusWebSocket.pingTimeout t).Covered slack := by
    refine Watch.answered_covered ?_ room t
    show l.socket.pPingTimer.due.getD l.now ≤ l.now + JanusWebSocket.pingInterval
    rw [ticking.due]
    exact ticking.soon
  rw [handle_acked steady.beats acks awaits]
  refine ⟨steady.beats.step env i, fun _ => ⟨tick, ticking.due, ticking.ahead, ticking.soon,
    ticking.interval⟩, fun _ => up, fun _ => steady.limit watched, fun sent member => ?_, ?_,
    steady.never⟩
  · obtain ⟨before, other⟩ := List.mem_filter.1 member
    have other : sent.1 ≠ t := fun same => by simp [acks, same] at other
    show ((WebrtcDemo.step env l.client i).pending _).isSome
    rw [waits _ other]
    exact steady.waiting sent before
  · have same : watch { l with
        client := WebrtcDemo.step env l.client i
        socket := l.socket.ResetTimer l.now
        unacked := l.unacked.filter fun sent => i.acked? ≠ some sent.1 } =
        l.watch.answered JanusWebSocket.pingTimeout t := by
      have expiry : (l.socket.ResetTimer l.now).pPingTimeOutTimer.due =
          some (l.now + JanusWebSocket.pingTimeout) := by
        rw [← steady.limit watched]
        rfl
      have unanswered : (l.unacked.filter fun sent => i.acked? ≠ some sent.1) =
          l.unacked.filter fun sent => sent.1 ≠ t := by
        simp [acks, eq_comm]
      unfold watch Watch.answered
      dsimp only
      rw [expiry, unanswered]
      rfl
    rw [same]
    exact covered

/-- A tick is a pulse. -/
theorem Steady.pulse (steady : l.Steady) (fires : l.socket.pPingTimer.fires l.now = true)
    (up : l.socket.state = .ConnectedState) : (l.firePing env).Steady := by
  obtain ⟨tick, ticking⟩ := steady.ticking (Or.inr up)
  have due : l.socket.pPingTimer.due = some l.now := Timer.fires_iff.1 fires
  have waits : (WebrtcDemo.step env l.client .heartBeatMessage).pending =
      Function.update l.client.pending (.ack, env.random l.client.draws) (some .onHeartBeat) := by
    rw [step_heartBeatMessage, Client.ask_pending]
  have limit : (if l.socket.pPingTimeOutTimer.isActive then l.socket.pPingTimeOutTimer
      else l.socket.pPingTimeOutTimer.start l.now JanusWebSocket.pingTimeout).interval =
        JanusWebSocket.pingTimeout := by
    split_ifs with active
    · exact steady.limit (Or.inl active)
    · rfl
  have covered : (l.watch.pulsed JanusWebSocket.pingInterval JanusWebSocket.pingTimeout
      (env.random l.client.draws)).Covered slack := by
    refine steady.covered.pulsed ?_ (by decide) _
    show l.now = l.socket.pPingTimer.due.getD l.now
    rw [due]
    rfl
  rw [firePing_connected fires up]
  refine ⟨steady.beats.step env _, fun _ => ⟨l.now + JanusWebSocket.pingInterval, ?_,
    Nat.le_add_right _ _, le_rfl, ticking.interval⟩, fun _ => up, fun _ => limit,
    fun sent member => ?_, ?_, steady.never⟩
  · show some (l.now + l.socket.pPingTimer.interval) = _
    rw [ticking.interval]
  · show ((WebrtcDemo.step env l.client .heartBeatMessage).pending _).isSome
    rw [waits, Function.update_apply]
    split_ifs with new
    · rfl
    · rcases List.mem_append.1 member with before | now
      · exact steady.waiting sent before
      · obtain rfl := List.mem_singleton.1 now
        exact absurd rfl new
  · have expiry : (if l.socket.pPingTimeOutTimer.isActive then l.socket.pPingTimeOutTimer
        else l.socket.pPingTimeOutTimer.start l.now JanusWebSocket.pingTimeout).due =
          some (l.socket.pPingTimeOutTimer.due.getD (l.now + JanusWebSocket.pingTimeout)) := by
      split_ifs with active
      · obtain ⟨expiry, set⟩ := Timer.isActive_iff.1 active
        rw [set]
        rfl
      · have unset : l.socket.pPingTimeOutTimer.due = none := by
          simpa [Timer.isActive] using active
        rw [unset]
        rfl
    have pulse : (l.socket.pPingTimer.restart l.now).due =
        some (l.now + JanusWebSocket.pingInterval) := by
      rw [← ticking.interval]
      rfl
    unfold watch
    dsimp only
    rw [expiry, pulse]
    exact covered

/-! ## Steps -/

/-- Time passes up to the next tick at most. -/
theorem Steady.elapse (steady : l.Steady) (duration : Nat) : (l.elapse duration).Steady := by
  rw [Link.elapse]
  split_ifs with waits
  · refine ⟨steady.beats, fun up => ?_, steady.connected, steady.limit, steady.waiting, ?_,
      steady.never⟩
    · obtain ⟨tick, ticking⟩ := steady.ticking up
      exact ⟨tick, ticking.due, waits.1 tick ticking.due,
        ticking.soon.trans (Nat.add_le_add_right (Nat.le_add_right _ _) _), ticking.interval⟩
    · by_cases active : l.socket.pPingTimeOutTimer.isActive = true
      · obtain ⟨tick, ticking⟩ := steady.ticking (Or.inr (steady.connected (Or.inl active)))
        have pulse : ∀ now, l.socket.pPingTimer.due.getD now = tick := fun now => by
          rw [ticking.due]
          rfl
        have covered := steady.covered
        unfold watch at covered ⊢
        rw [pulse] at covered ⊢
        exact covered
      · exact covered_of_stopped (by simpa using active)
  · exact steady

/-- A tick is a pulse, or finds the socket down and the watch not set. -/
theorem Steady.tick (steady : l.Steady) : (l.firePing env).Steady := by
  by_cases fires : l.socket.pPingTimer.fires l.now = true
  · by_cases up : l.socket.state = .ConnectedState
    · exact steady.pulse fires up
    · rw [firePing_down fires up]
      refine steady.down up rfl fun going => ?_
      obtain ⟨tick, ticking⟩ := steady.ticking going
      refine ⟨l.now + JanusWebSocket.pingInterval, ?_, Nat.le_add_right _ _, le_rfl,
        ticking.interval⟩
      show some (l.now + l.socket.pPingTimer.interval) = _
      rw [ticking.interval]
  · rw [firePing, if_neg fires]
    exact steady

/-- **Nothing times out** where keepalives are acknowledged soon enough. -/
theorem Steady.quiet (steady : l.Steady) {delay : Nat} (short : delay < slack)
    (acked : l.AckedWithin delay) : l.socket.pPingTimeOutTimer.fires l.now = false := by
  refine Bool.eq_false_iff.2 fun fires => ?_
  have up := steady.connected (Or.inl (Timer.isActive_of_fires fires))
  obtain ⟨tick, ticking⟩ := steady.ticking (Or.inr up)
  have ahead : l.watch.now ≤ l.watch.pulse := by
    show l.now ≤ l.socket.pPingTimer.due.getD l.now
    rw [ticking.due]
    exact ticking.ahead
  exact absurd (steady.covered.early ahead short acked (Timer.fires_iff.1 fires)) (lt_irrefl _)

/-- **A step of a healthy connection is steady.** -/
theorem Steady.step (steady : l.Steady) {delay : Nat} (short : delay < slack)
    (acked : l.AckedWithin delay) (i : LinkInput) (stays : l.StaysConnected i)
    (opens : i = .Open → l.socket.state ≠ .ConnectedState) : (l.step env i).Steady := by
  cases i with
  | Open =>
    exact steady.down (opens rfl) (steady.unwatched (opens rfl)).1 fun _ =>
      ⟨_, rfl, Nat.le_add_right _ _, le_rfl, rfl⟩
  | Close =>
    have down : l.socket.state ≠ .ConnectedState := fun up => (stays up).1 rfl
    refine steady.down down rfl fun going => ?_
    have going : l.socket.closeSocket.state = _ ∨ l.socket.closeSocket.state = _ := going
    rw [JanusWebSocket.closeSocket] at going
    split_ifs at going with unconnected
    · simp at going
    · simp [not_not.1 unconnected] at going
  | connected =>
    show (l.onConnected env).Steady
    rw [onConnected]
    split_ifs with connecting
    · have down : l.socket.state ≠ .ConnectedState := by simp [connecting]
      have up : Steady { l with socket := { l.socket with state := .ConnectedState } } :=
        steady.down down (steady.unwatched down).1 fun _ =>
          (steady.ticking (Or.inl connecting)).imp fun _ ticking =>
            ⟨ticking.due, ticking.ahead, ticking.soon, ticking.interval⟩
      exact up.idle (by simp) (by simp [Input.acked?])
    · exact steady
  | disconnected =>
    have down : l.socket.state ≠ .ConnectedState := fun up => (stays up).2 rfl
    exact steady.down down (steady.unwatched down).1 fun going => by simp at going
  | elapse duration => exact steady.elapse duration
  | pingTimer => exact steady.tick
  | pingTimeout =>
    rw [Link.step, fireTimeout, if_neg (by simp [steady.quiet short acked])]
    exact steady
  | message message =>
    by_cases awaited : ∃ t, (Input.receivedMessage message).acked? = some t ∧ l.client.AwaitsAck t
    · obtain ⟨t, acks, awaits⟩ := awaited
      exact steady.acked acks awaits
    · exact steady.idle (by simp) fun t acks awaits => awaited ⟨t, acks, awaits⟩
  | told i =>
    rw [Link.step]
    split_ifs with socket
    · exact steady
    · refine steady.idle (told_silent socket).1 fun t acks => ?_
      simp [(told_silent socket).2] at acks

theorem steady_initial (env : Env) : (initial env).Steady where
  beats := beats_initial
  ticking going := by simp [initial] at going
  connected watched := by
    simp [Watched, initial, Timer.isActive, Client.AwaitsAck, Client.initial, Client.pending,
      JanusVideoRoomManager.callbacks] at watched
  limit watched := by
    simp [Watched, initial, Timer.isActive, Client.AwaitsAck, Client.initial, Client.pending,
      JanusVideoRoomManager.callbacks] at watched
  waiting sent member := by simp [initial] at member
  covered := covered_of_stopped rfl
  never := rfl

/-! ## One `Open` -/

/-- A socket is connected only after it was opened. -/
theorem step_unconnected (beats : l.client.Beats) (unconnected : l.socket.state = .UnconnectedState)
    {i : LinkInput} (other : i.isOpen = false) :
    (l.step env i).socket.state = .UnconnectedState := by
  have down : l.socket.state ≠ .ConnectedState := by simp [unconnected]
  have closed : l.socket.closeSocket.state = .UnconnectedState := by
    rw [JanusWebSocket.closeSocket, if_neg (not_not.2 unconnected)]
    exact unconnected
  cases i with
  | Open => simp [LinkInput.isOpen] at other
  | Close => exact closed
  | connected =>
    rw [Link.step, onConnected_socket beats, if_neg (by simp [unconnected])]
    exact unconnected
  | disconnected => rfl
  | elapse duration =>
    rw [Link.step, elapse_socket]
    exact unconnected
  | pingTimer =>
    rw [Link.step]
    by_cases fires : l.socket.pPingTimer.fires l.now = true
    · rw [firePing_down fires down]
      exact unconnected
    · rw [firePing, if_neg fires]
      exact unconnected
  | pingTimeout =>
    rw [Link.step, fireTimeout]
    split_ifs
    · exact closed
    · exact unconnected
  | message message =>
    rw [Link.step, handle_socket beats (by simp)]
    split_ifs <;> exact unconnected
  | told i =>
    rw [told_socket beats]
    exact unconnected

/-- With one `Open` in all, the socket is not connected when it comes. -/
theorem opens_unconnected {is : List LinkInput} (once : is.countP LinkInput.isOpen ≤ 1)
    (beats : l.client.Beats) (unconnected : l.socket.state = .UnconnectedState) :
    Machine.Along (step env) (fun l i => i = .Open → l.socket.state ≠ .ConnectedState) l is := by
  induction is generalizing l with
  | nil => trivial
  | cons i is ih =>
    refine ⟨fun _ => by simp [unconnected], ?_⟩
    rcases opens : i.isOpen with _ | _
    · rw [List.countP_cons_of_neg (by simp [opens])] at once
      exact ih once (beats_step beats i) (step_unconnected beats unconnected opens)
    · -- that was the one
      rw [List.countP_cons_of_pos opens] at once
      have none : ∀ i ∈ is, i ≠ .Open := by
        rintro i member rfl
        have another : 0 < is.countP LinkInput.isOpen := List.countP_pos_iff.2 ⟨_, member, rfl⟩
        omega
      refine (Machine.along_congr (Q := fun _ => True) (fun _ _ _ => trivial) ?_ trivial).2
        (Machine.along_true is)
      exact fun _ i member _ => iff_of_true (fun open_ => absurd open_ (none i member)) trivial

end

end Link

open Link

/-- **A healthy connection is never torn down:** with one `Open`, a socket that stays connected
once it is, and every keepalive acknowledged within a delay shorter than what the timeout
leaves after a tick, `onPingTimeout` never runs. -/
theorem healthy_never_times_out (env : Env) (is : List LinkInput) (delay : Nat)
    (short : delay < JanusWebSocket.pingTimeout - JanusWebSocket.pingInterval)
    (once : is.countP LinkInput.isOpen ≤ 1)
    (stays : Machine.Along (Link.step env) StaysConnected (Link.initial env) is)
    (acked : Machine.Throughout (Link.step env) (AckedWithin delay) (Link.initial env) is) :
    (Machine.run (Link.step env) (Link.initial env) is).timeouts = [] := by
  have along := Machine.along_and.2 ⟨Machine.along_and.2 ⟨stays, acked.along fun _ _ acked => acked⟩,
    opens_unconnected once beats_initial rfl⟩
  have steady := Machine.run_keeps (P := Steady)
    (fun l i steady ok => steady.step short ok.1.2 i ok.1.1 ok.2) (steady_initial env) along
  exact steady.never

/-- The first of two keepalives is acknowledged after the second was sent. -/
theorem healthy_with_late_ack :
    let is : List LinkInput := [.Open, .connected, .elapse 25000, .pingTimer, .elapse 25000,
      .pingTimer, .elapse 5000, .message (some (Server.ackReply (Env.sample.random 1)))]
    let l := Machine.run (Link.step Env.sample) (Link.initial Env.sample) is
    l.unacked.map Prod.snd = [50000] ∧ l.socket.pPingTimeOutTimer.due = some 115000 ∧
      l.timeouts = [] := by
  intro is l
  refine ⟨by decide +kernel, by decide +kernel, ?_⟩
  refine healthy_never_times_out Env.sample is 30000 (by decide) (by decide) ?_ ?_
  · refine ⟨?_, ?_, ?_, ?_, ?_, ?_, ?_, ?_, trivial⟩ <;> exact fun _ => by simp
  · refine ⟨?_, ?_, ?_, ?_, ?_, ?_, ?_, ?_, ?_⟩
    all_goals
      show ∀ sent ∈ Link.unacked _, Link.now _ ≤ sent.2 + 30000
      decide +kernel

end WebrtcDemo
