import WebrtcDemo.Run.Timers

/-!
# A dead connection

The timers of a socket are never due later than an interval from now. So when a server falls
silent, a tick finds the timeout timer running or starts it, and unless an acknowledgement
comes time does not pass the instant at which the socket is closed.
-/

namespace WebrtcDemo

namespace Link

/-- The timers are due in time, and the ping timer runs while there is a connection. -/
structure Timed (l : Link) : Prop where
  beats : l.client.Beats
  ping : ∀ due, l.socket.pPingTimer.due = some due → l.now ≤ due ∧
    due ≤ l.now + JanusWebSocket.pingInterval ∧
    l.socket.pPingTimer.interval = JanusWebSocket.pingInterval
  timeout : ∀ due, l.socket.pPingTimeOutTimer.due = some due → l.now ≤ due ∧
    due ≤ l.now + JanusWebSocket.pingTimeout
  limit : l.socket.pPingTimeOutTimer.isActive = true ∨ (∃ t, l.client.AwaitsAck t) →
    l.socket.pPingTimeOutTimer.interval = JanusWebSocket.pingTimeout
  ticking : l.socket.state = .ConnectingState ∨ l.socket.state = .ConnectedState →
    l.socket.pPingTimer.isActive = true

/-- The socket is left alone, it reports no end while it is connected, and no acknowledgement
comes that is awaited. -/
def Silent (l : Link) (i : LinkInput) : Prop :=
  i ≠ .Open ∧ i ≠ .Close ∧ (i = .disconnected → l.socket.state ≠ .ConnectedState) ∧
    ∀ message t, i = .message message → (Input.receivedMessage message).acked? = some t →
      ¬ l.client.AwaitsAck t

/-- Milliseconds within which a dead connection is noticed. -/
def detection : Nat := JanusWebSocket.pingInterval + JanusWebSocket.pingTimeout

section
variable {env : Env} {l : Link} {i : Input}

/-- A client may be told what leaves the socket alone. -/
theorem Timed.client (timed : l.Timed) {c : Client} (beats : c.Beats)
    (acks : ∀ t, c.AwaitsAck t → l.client.AwaitsAck t) (unacked : List (String × Nat)) :
    Timed { l with client := c, unacked } :=
  ⟨beats, timed.ping, timed.timeout, fun watched =>
    timed.limit (watched.imp_right fun ⟨t, awaits⟩ => ⟨t, acks t awaits⟩), timed.ticking⟩

theorem Timed.idle (timed : l.Timed) (other : i ≠ .heartBeatMessage)
    (silent : ∀ t, i.acked? = some t → ¬ l.client.AwaitsAck t) : (l.handle env i).Timed := by
  rw [handle_idle timed.beats other silent]
  refine timed.client (timed.beats.step env i) (fun t awaits => ?_) _
  rw [Client.AwaitsAck, (step_idle env timed.beats other silent).acks] at awaits
  exact awaits

theorem Timed.acked (timed : l.Timed) {t : String} (acks : i.acked? = some t)
    (awaits : l.client.AwaitsAck t) : (l.handle env i).Timed := by
  have limit := timed.limit (Or.inr ⟨t, awaits⟩)
  rw [handle_acked timed.beats acks awaits]
  refine ⟨timed.beats.step env i, timed.ping, fun due set => ?_, fun _ => limit, timed.ticking⟩
  have set : some (l.now + l.socket.pPingTimeOutTimer.interval) = some due := set
  rw [limit, Option.some.injEq] at set
  exact ⟨set ▸ Nat.le_add_right _ _, set.ge⟩

theorem Timed.elapse (timed : l.Timed) (duration : Nat) : (l.elapse duration).Timed := by
  rw [Link.elapse]
  split_ifs with waits
  · refine ⟨timed.beats, fun due set => ?_, fun due set => ?_, timed.limit, timed.ticking⟩
    · obtain ⟨-, soon, interval⟩ := timed.ping due set
      exact ⟨waits.1 due set, soon.trans (Nat.add_le_add_right (Nat.le_add_right _ _) _), interval⟩
    · exact ⟨waits.2 due set,
        (timed.timeout due set).2.trans (Nat.add_le_add_right (Nat.le_add_right _ _) _)⟩
  · exact timed

theorem Timed.tick (timed : l.Timed) : (l.firePing env).Timed := by
  by_cases fires : l.socket.pPingTimer.fires l.now = true
  · have interval := (timed.ping _ (Timer.fires_iff.1 fires)).2.2
    have restarted : ∀ due, (l.socket.pPingTimer.restart l.now).due = some due → l.now ≤ due ∧
        due ≤ l.now + JanusWebSocket.pingInterval ∧
        (l.socket.pPingTimer.restart l.now).interval = JanusWebSocket.pingInterval := by
      intro due set
      rw [Timer.restart_due, interval, Option.some.injEq] at set
      exact ⟨set ▸ Nat.le_add_right _ _, set.ge, interval⟩
    by_cases up : l.socket.state = .ConnectedState
    · rw [firePing_connected fires up]
      by_cases active : l.socket.pPingTimeOutTimer.isActive
      · refine ⟨timed.beats.step env _, restarted, ?_, fun _ => ?_, fun _ => rfl⟩
        · simpa [active] using timed.timeout
        · simpa [active] using timed.limit (Or.inl active)
      · refine ⟨timed.beats.step env _, restarted, fun due set => ?_, fun _ => ?_, fun _ => rfl⟩
        · simp only [if_neg active, Timer.start_due, Option.some.injEq] at set
          exact ⟨set ▸ Nat.le_add_right _ _, set.ge⟩
        · simp [active]
    · rw [firePing_down fires up]
      exact ⟨timed.beats, restarted, by simp, fun watched => timed.limit (Or.inr (by simpa using watched)),
        fun _ => rfl⟩
  · rw [firePing, if_neg fires]
    exact timed

theorem closeSocket_down (w : JanusWebSocket) :
    w.closeSocket.state ≠ .ConnectingState ∧ w.closeSocket.state ≠ .ConnectedState := by
  rw [JanusWebSocket.closeSocket]
  split_ifs with unconnected
  · simp
  · simp [not_not.1 unconnected]

theorem closeSocket_timers (w : JanusWebSocket) :
    w.closeSocket.pPingTimeOutTimer = w.pPingTimeOutTimer := by
  rw [JanusWebSocket.closeSocket]
  split_ifs <;> rfl

/-- A closed socket, whatever is recorded. -/
theorem Timed.closed (timed : l.Timed) (timeouts : List Nat) :
    Timed { l with socket := l.socket.Close, timeouts } where
  beats := timed.beats
  ping due set := by cases set
  timeout due set := by cases set
  limit watched := by
    have awaits : ∃ t, l.client.AwaitsAck t := watched.resolve_left Bool.false_ne_true
    show l.socket.closeSocket.pPingTimeOutTimer.interval = _
    rw [closeSocket_timers]
    exact timed.limit (Or.inr awaits)
  ticking going := (going.elim (closeSocket_down _).1 (closeSocket_down _).2).elim

/-- **A step keeps the timers due in time.** -/
theorem Timed.step (timed : l.Timed) (i : LinkInput) : (l.step env i).Timed := by
  cases i with
  | Open =>
    refine ⟨timed.beats, fun due set => ?_, timed.timeout, timed.limit, fun _ => rfl⟩
    have set : some (l.now + JanusWebSocket.pingInterval) = some due := set
    rw [Option.some.injEq] at set
    exact ⟨set ▸ Nat.le_add_right _ _, set.ge, rfl⟩
  | Close => exact timed.closed _
  | connected =>
    rw [Link.step, onConnected]
    split_ifs with connecting
    · have up : Timed { l with socket := { l.socket with state := .ConnectedState } } :=
        ⟨timed.beats, timed.ping, timed.timeout, timed.limit, fun _ =>
          timed.ticking (Or.inl connecting)⟩
      exact up.idle (by simp) (by simp [Input.acked?])
    · exact timed
  | disconnected =>
    exact ⟨timed.beats, timed.ping, timed.timeout, timed.limit, fun going => by
      rcases going with up | up <;> cases up⟩
  | elapse duration => exact timed.elapse duration
  | pingTimer => exact timed.tick
  | pingTimeout =>
    rw [Link.step, fireTimeout]
    split_ifs
    · exact timed.closed _
    · exact timed
  | message message =>
    by_cases awaited : ∃ t, (Input.receivedMessage message).acked? = some t ∧ l.client.AwaitsAck t
    · obtain ⟨t, acks, awaits⟩ := awaited
      exact timed.acked acks awaits
    · exact timed.idle (by simp) fun t acks awaits => awaited ⟨t, acks, awaits⟩
  | told i =>
    rw [Link.step]
    split_ifs with socket
    · exact timed
    · refine timed.idle (told_silent socket).1 fun t acks => ?_
      simp [(told_silent socket).2] at acks

theorem timed_initial (env : Env) : (initial env).Timed where
  beats := beats_initial
  ping due set := by cases set
  timeout due set := by cases set
  limit watched := by
    simp [initial, Timer.isActive, Client.AwaitsAck, Client.initial, Client.pending,
      JanusVideoRoomManager.callbacks] at watched
  ticking going := by rcases going with up | up <;> cases up

/-! ## Silence -/

/-- Since `start` the socket has been up and nothing has fired, or it has been closed in time. -/
inductive Doomed (start : Nat) (fired : List Nat) (l : Link) : Prop where
  | waiting (tick : Nat) (up : l.socket.state = .ConnectedState) (same : l.timeouts = fired)
      (due : l.socket.pPingTimer.due = some tick)
      (soon : (l.socket.pPingTimeOutTimer.due = none ∧ tick ≤ start + JanusWebSocket.pingInterval) ∨
        ∃ expiry, l.socket.pPingTimeOutTimer.due = some expiry ∧ expiry ≤ start + detection)
  | closed (instant : Nat)
      (down : l.socket.state ≠ .ConnectingState ∧ l.socket.state ≠ .ConnectedState)
      (once : l.timeouts = fired ++ [instant]) (early : instant ≤ start + detection)
      (ping : l.socket.pPingTimer.due = none) (timeout : l.socket.pPingTimeOutTimer.due = none)

theorem Doomed.same {start : Nat} {fired : List Nat} {l' : Link} (doomed : Doomed start fired l)
    (socket : l'.socket = l.socket) (timeouts : l'.timeouts = l.timeouts) :
    Doomed start fired l' := by
  cases doomed with
  | waiting tick up same due soon =>
    exact .waiting tick (socket ▸ up) (timeouts.trans same) (socket ▸ due) (socket ▸ soon)
  | closed instant down once early ping timeout =>
    exact .closed instant (socket ▸ down) (timeouts.trans once) early (socket ▸ ping)
      (socket ▸ timeout)

theorem Doomed.tick {start : Nat} {fired : List Nat} (doomed : Doomed start fired l) :
    Doomed start fired (l.firePing env) := by
  by_cases fires : l.socket.pPingTimer.fires l.now = true
  · have now := Timer.fires_iff.1 fires
    cases doomed with
    | waiting tick up same due soon =>
      obtain rfl : tick = l.now := Option.some.inj (due.symm.trans now)
      rw [firePing_connected fires up]
      refine .waiting _ up same (Timer.restart_due ..) (Or.inr ?_)
      rcases soon with ⟨unset, early⟩ | ⟨expiry, set, early⟩
      · -- the tick starts the timeout timer
        have stopped : ¬ l.socket.pPingTimeOutTimer.isActive = true := by simp [Timer.isActive, unset]
        refine ⟨l.now + JanusWebSocket.pingTimeout, ?_, ?_⟩
        · simp [stopped]
        · rw [detection]
          omega
      · have active : l.socket.pPingTimeOutTimer.isActive = true := by simp [Timer.isActive, set]
        exact ⟨expiry, by simp [active, set], early⟩
    | closed _ _ _ _ ping => cases ping.symm.trans now
  · rw [firePing, if_neg fires]
    exact doomed

theorem Doomed.expire {start : Nat} {fired : List Nat} (doomed : Doomed start fired l) :
    Doomed start fired l.fireTimeout := by
  rw [fireTimeout]
  split_ifs with fires
  · have now := Timer.fires_iff.1 fires
    cases doomed with
    | waiting tick up same due soon =>
      have early : l.now ≤ start + detection := by
        rcases soon with ⟨unset, -⟩ | ⟨expiry, set, early⟩
        · cases unset.symm.trans now
        · exact Option.some.inj (set.symm.trans now) ▸ early
      exact .closed l.now (closeSocket_down l.socket) (by rw [same]) early rfl rfl
    | closed _ _ _ _ _ timeout => cases timeout.symm.trans now
  · exact doomed

theorem Doomed.step {i : LinkInput} {start : Nat} {fired : List Nat} (timed : l.Timed)
    (doomed : Doomed start fired l) (silent : l.Silent i) : Doomed start fired (l.step env i) := by
  obtain ⟨notOpen, notClose, notDown, unacked⟩ := silent
  cases i with
  | Open => exact absurd rfl notOpen
  | Close => exact absurd rfl notClose
  | disconnected =>
    cases doomed with
    | waiting tick up => exact absurd up (notDown rfl)
    | closed instant down once early ping timeout =>
      exact .closed instant ⟨nofun, nofun⟩ once early ping timeout
  | connected =>
    have other : l.socket.state ≠ .ConnectingState := by
      cases doomed with
      | waiting tick up => simp [up]
      | closed instant down => exact down.1
    rw [Link.step, onConnected, if_neg other]
    exact doomed
  | elapse duration =>
    refine doomed.same (elapse_socket duration) ?_
    rw [Link.step, Link.elapse]
    split_ifs <;> rfl
  | pingTimer => exact doomed.tick
  | pingTimeout => exact doomed.expire
  | message message =>
    rw [Link.step, handle_idle timed.beats (by simp) fun t acks => unacked message t rfl acks]
    exact doomed.same rfl rfl
  | told i =>
    refine doomed.same (told_socket timed.beats i) ?_
    rw [Link.step]
    split_ifs <;> rfl

/-- A connection that is up has a tick due, and its timeout timer is due in time if it runs. -/
theorem Timed.doomed (timed : l.Timed) (up : l.socket.state = .ConnectedState) :
    Doomed l.now l.timeouts l := by
  obtain ⟨tick, due⟩ := Timer.isActive_iff.1 (timed.ticking (Or.inr up))
  refine .waiting tick up rfl due ?_
  rcases set : l.socket.pPingTimeOutTimer.due with _ | expiry
  · exact Or.inl ⟨rfl, (timed.ping tick due).2.1⟩
  · have soon := (timed.timeout expiry set).2
    refine Or.inr ⟨expiry, rfl, ?_⟩
    rw [detection]
    omega

/-- While nothing has fired, the clock is behind. -/
theorem Doomed.noticed {start : Nat} {fired : List Nat} (timed : l.Timed)
    (doomed : Doomed start fired l) (late : start + detection < l.now) :
    (∃ instant ≤ start + detection, l.timeouts = fired ++ [instant]) ∧
      l.socket.state ≠ .ConnectedState ∧ l.socket.pPingTimer.isActive = false ∧
      l.socket.pPingTimeOutTimer.isActive = false := by
  cases doomed with
  | waiting tick up same due soon =>
    exfalso
    rcases soon with ⟨-, early⟩ | ⟨expiry, set, early⟩
    · have ahead := (timed.ping tick due).1
      rw [detection] at late
      omega
    · have ahead := (timed.timeout expiry set).1
      omega
  | closed instant down once early ping timeout =>
    exact ⟨⟨instant, early, once⟩, down.2, by simp [Timer.isActive, ping],
      by simp [Timer.isActive, timeout]⟩

end

end Link

open Link

/-- **A dead connection is noticed.** However a socket has come to be connected: when it is
left alone after that and no acknowledgement comes that is awaited, and the clock passes one
interval and one timeout from then, `onPingTimeout` has run once, within that time; the socket
is not connected any more and both timers are stopped. The end of the connection may be
reported as soon as the socket is closed. -/
theorem dead_connection_noticed (env : Env) (is es : List LinkInput)
    (up : (Machine.run (Link.step env) (Link.initial env) is).socket.state = .ConnectedState)
    (silent : Machine.Along (Link.step env) Silent
      (Machine.run (Link.step env) (Link.initial env) is) es)
    (late : (Machine.run (Link.step env) (Link.initial env) is).now + Link.detection <
      (Machine.run (Link.step env) (Link.initial env) (is ++ es)).now) :
    let l := Machine.run (Link.step env) (Link.initial env) is
    let l' := Machine.run (Link.step env) (Link.initial env) (is ++ es)
    (∃ instant ≤ l.now + Link.detection, l'.timeouts = l.timeouts ++ [instant]) ∧
      l'.socket.state ≠ .ConnectedState ∧ l'.socket.pPingTimer.isActive = false ∧
      l'.socket.pPingTimeOutTimer.isActive = false := by
  have timed : (Machine.run (Link.step env) (Link.initial env) is).Timed :=
    Machine.run_keeps (fun _ i timed _ => timed.step i) (timed_initial env) (Machine.along_true is)
  rw [Machine.run_append] at late ⊢
  generalize Machine.run (Link.step env) (Link.initial env) is = l at up silent late timed
  have both := Machine.run_keeps (P := fun l' : Link => l'.Timed ∧ Doomed l.now l.timeouts l')
    (fun _ i kept silent => ⟨kept.1.step i, kept.2.step kept.1 silent⟩) ⟨timed, timed.doomed up⟩ silent
  exact both.2.noticed both.1 late

/-- The server falls silent as soon as the connection is up, and the end is reported. -/
theorem dead_connection_noticed_sample :
    let es : List LinkInput := [.elapse 25000, .pingTimer, .elapse 25000, .pingTimer, .elapse 25000,
      .pingTimer, .elapse 10000, .pingTimeout, .disconnected, .elapse 5000]
    let l := Machine.run (Link.step Env.sample) (Link.initial Env.sample) [.Open, .connected]
    let l' := Machine.run (Link.step Env.sample) (Link.initial Env.sample) ([.Open, .connected] ++ es)
    (∃ instant ≤ l.now + Link.detection, l'.timeouts = l.timeouts ++ [instant]) ∧
      l'.socket.state ≠ .ConnectedState ∧ l'.socket.pPingTimer.isActive = false ∧
      l'.socket.pPingTimeOutTimer.isActive = false := by
  intro es l l'
  refine dead_connection_noticed Env.sample [.Open, .connected] es (by decide +kernel) ?_
    (by decide +kernel)
  refine ⟨?_, ?_, ?_, ?_, ?_, ?_, ?_, ?_, ⟨nofun, nofun, fun _ => by decide +kernel, nofun⟩, ?_,
    trivial⟩ <;>
    exact ⟨nofun, nofun, nofun, nofun⟩

end WebrtcDemo
