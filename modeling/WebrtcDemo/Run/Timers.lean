import WebrtcDemo.Lib.Machine
import WebrtcDemo.Run.Keepalive

/-!
# The two timers of a socket

Whether the timeout timer runs is decided by the last thing that was done to it: a tick
that finds the socket connected and an awaited acknowledgement have it run, `Close`,
`onPingTimeout` and a tick that finds the socket down stop it, and `Open` leaves it as it
is. An acknowledgement does not look whether the ping timer still runs.
-/

namespace WebrtcDemo

namespace Link

section
variable {env : Env} {l : Link} {i : Input}

/-! ## What the client has its socket do -/

theorem effects_eq {effects : List Effect}
    (log : (WebrtcDemo.step env l.client i).log = l.client.log ++ effects) :
    l.effects env i = effects := by
  rw [Link.effects, log, List.drop_left]

theorem heed_other {e : Effect} (other : e ≠ .resetTimer) (w : JanusWebSocket) (now : Nat) :
    w.heed now e = w := by
  cases e <;> first | rfl | exact absurd rfl other

/-- A heartbeat adds a keepalive that is not acknowledged. -/
theorem handle_heartBeat : l.handle env .heartBeatMessage =
    { l with
      client := WebrtcDemo.step env l.client .heartBeatMessage
      unacked := l.unacked ++ [(env.random l.client.draws, l.now)] } := by
  rw [handle, effects_eq (step_heartBeatMessage ▸ Client.ask_log)]
  simp [JanusWebSocket.heed, Effect.keepalive?, Input.acked?]

/-- An awaited acknowledgement resets the timeout timer. -/
theorem handle_acked (beats : l.client.Beats) {t : String} (acks : i.acked? = some t)
    (awaits : l.client.AwaitsAck t) : l.handle env i =
      { l with
        client := WebrtcDemo.step env l.client i
        socket := l.socket.ResetTimer l.now
        unacked := l.unacked.filter fun sent => i.acked? ≠ some sent.1 } := by
  obtain ⟨object, acked⟩ := step_acked env beats acks awaits
  have log : (WebrtcDemo.step env l.client i).log =
      l.client.log ++ [.invoked .ack t .onHeartBeat object, .resetTimer] := by
    rw [acked, JanusVideoRoomManager.onHeartBeat, Client.emit, Client.take_log]
    exact List.append_assoc _ _ _
  rw [handle, effects_eq log]
  simp [JanusWebSocket.heed, Effect.keepalive?]

/-- Everything else leaves the socket alone. -/
theorem handle_idle (beats : l.client.Beats) (other : i ≠ .heartBeatMessage)
    (silent : ∀ t, i.acked? = some t → ¬ l.client.AwaitsAck t) : l.handle env i =
      { l with
        client := WebrtcDemo.step env l.client i
        unacked := l.unacked.filter fun sent => i.acked? ≠ some sent.1 } := by
  obtain ⟨effects, log, none⟩ := (step_idle env beats other silent).log
  have socket : effects.foldl (fun w e => w.heed l.now e) l.socket = l.socket := by
    clear log
    induction effects with
    | nil => rfl
    | cons e more ih =>
      rw [List.foldl_cons, heed_other (none e List.mem_cons_self).1]
      exact ih fun e member => none e (List.mem_cons_of_mem _ member)
  have keepalives : effects.filterMap Effect.keepalive? = [] :=
    List.filterMap_eq_nil_iff.2 fun e member => (none e member).2
  rw [handle, effects_eq log, socket, keepalives, List.map_nil, List.append_nil]

/-! ## Whether the timers run -/

/-- Where the ping timer is stopped, the timeout timer is. -/
def Halted (l : Link) : Prop :=
  l.socket.pPingTimer.isActive = false → l.socket.pPingTimeOutTimer.isActive = false

/-- `Open` leaves no deadline behind. -/
def OpensFresh (env : Env) (l : Link) (i : LinkInput) : Prop :=
  i = .Open → (l.step env i).socket.pPingTimeOutTimer.isActive = false

/-- What an event does to the timeout timer: it has it run, or stops it. -/
def move (l : Link) : LinkInput → Option Bool
  | .Close => some false
  | .pingTimer =>
    if l.socket.pPingTimer.fires l.now then some (l.socket.state = .ConnectedState) else none
  | .pingTimeout => if l.socket.pPingTimeOutTimer.fires l.now then some false else none
  | .message message =>
    if (Input.receivedMessage message).acked?.any fun t => (l.client.pending (.ack, t)).isSome then
      some true
    else none
  | _ => none

/-- An awaited acknowledgement comes while the ping timer runs. -/
def AckedInTime (l : Link) (i : LinkInput) : Prop :=
  ∀ message t, i = .message message → (Input.receivedMessage message).acked? = some t →
    l.client.AwaitsAck t → l.socket.pPingTimer.isActive = true

theorem acked_any : (i.acked?.any fun t => (l.client.pending (.ack, t)).isSome) = true ↔
    ∃ t, i.acked? = some t ∧ l.client.AwaitsAck t := by
  rw [Option.any_eq_true]
  exact Iff.rfl

/-- A tick that finds the socket connected sends a keepalive, and starts the timeout timer
unless it runs. -/
theorem firePing_connected (fires : l.socket.pPingTimer.fires l.now = true)
    (connected : l.socket.state = .ConnectedState) : l.firePing env =
      { l with
        socket := { l.socket with
          pPingTimer := l.socket.pPingTimer.restart l.now
          pPingTimeOutTimer :=
            if l.socket.pPingTimeOutTimer.isActive then l.socket.pPingTimeOutTimer
            else l.socket.pPingTimeOutTimer.start l.now JanusWebSocket.pingTimeout }
        client := WebrtcDemo.step env l.client .heartBeatMessage
        unacked := l.unacked ++ [(env.random l.client.draws, l.now)] } := by
  rw [firePing, if_pos fires]
  unfold JanusWebSocket.onPingTimer
  dsimp only
  rw [if_pos connected, if_pos rfl, handle_heartBeat]
  by_cases active : l.socket.pPingTimeOutTimer.isActive
  · rw [if_pos active, if_pos active]
  · rw [if_neg active, if_neg active]

/-- A tick that finds the socket down stops the timeout timer. -/
theorem firePing_down (fires : l.socket.pPingTimer.fires l.now = true)
    (down : l.socket.state ≠ .ConnectedState) : l.firePing env =
      { l with
        socket := { l.socket with
          pPingTimer := l.socket.pPingTimer.restart l.now
          pPingTimeOutTimer := l.socket.pPingTimeOutTimer.stop } } := by
  rw [firePing, if_pos fires]
  unfold JanusWebSocket.onPingTimer
  dsimp only
  rw [if_neg down]
  rfl

/-- What the client is told resets the timeout timer, or leaves the socket alone. -/
theorem handle_socket (beats : l.client.Beats) (other : i ≠ .heartBeatMessage) :
    (l.handle env i).socket =
      if i.acked?.any fun t => (l.client.pending (.ack, t)).isSome then l.socket.ResetTimer l.now
      else l.socket := by
  split_ifs with awaited
  · obtain ⟨t, acks, awaits⟩ := acked_any.1 awaited
    rw [handle_acked beats acks awaits]
  · rw [handle_idle beats other fun t acks awaits => awaited (acked_any.2 ⟨t, acks, awaits⟩)]

/-- What no message brings leaves the socket alone. -/
theorem handle_socket_same (beats : l.client.Beats) (other : i ≠ .heartBeatMessage)
    (silent : i.acked? = none) : (l.handle env i).socket = l.socket := by
  rw [handle_socket beats other, silent]
  rfl

theorem onConnected_socket (beats : l.client.Beats) : (l.onConnected env).socket =
    if l.socket.state = .ConnectingState then { l.socket with state := .ConnectedState }
    else l.socket := by
  rw [onConnected]
  split_ifs with connecting
  · have beats' : ({ l with
        socket := { l.socket with state := .ConnectedState } } : Link).client.Beats := beats
    rw [handle_socket_same beats' (by simp) rfl]
  · rfl

/-- What the socket does not tell the client of is no heartbeat and acknowledges nothing. -/
theorem told_silent (told : ¬ i.isSocket = true) : i ≠ .heartBeatMessage ∧ i.acked? = none := by
  cases i <;> first | exact absurd rfl told | exact ⟨by simp, rfl⟩

theorem told_socket (beats : l.client.Beats) (i : Input) :
    (l.step env (.told i)).socket = l.socket := by
  rw [step]
  split_ifs with socket
  · rfl
  · exact handle_socket_same beats (told_silent socket).1 (told_silent socket).2

theorem elapse_socket (duration : Nat) : (l.elapse duration).socket = l.socket := by
  rw [elapse]
  split_ifs <;> rfl

variable (env) in
/-- **The timeout timer runs by the last move.** -/
theorem step_timeOutTimer (beats : l.client.Beats) (i : LinkInput) :
    (l.step env i).socket.pPingTimeOutTimer.isActive =
      (l.move i).getD l.socket.pPingTimeOutTimer.isActive := by
  cases i with
  | Open => rfl
  | Close => rfl
  | connected =>
    rw [step, onConnected_socket beats]
    split_ifs <;> rfl
  | disconnected => rfl
  | elapse duration =>
    rw [step, elapse_socket]
    rfl
  | pingTimer =>
    rw [step, move]
    split_ifs with fires
    · by_cases connected : l.socket.state = .ConnectedState
      · rw [firePing_connected fires connected]
        by_cases active : l.socket.pPingTimeOutTimer.isActive <;> simp [connected, active]
      · rw [firePing_down fires connected]
        simp [connected]
    · rw [firePing, if_neg fires]
      rfl
  | pingTimeout =>
    rw [step, move, fireTimeout]
    split_ifs <;> rfl
  | message message =>
    rw [step, handle_socket beats (by simp), move]
    split_ifs <;> rfl
  | told i =>
    rw [told_socket beats]
    rfl

variable (env) in
/-- What stops or starts the ping timer. -/
theorem step_pingTimer (beats : l.client.Beats) (i : LinkInput) :
    (l.step env i).socket.pPingTimer.isActive =
      match i with
      | .Open => true
      | .Close => false
      | .pingTimeout =>
        !l.socket.pPingTimeOutTimer.fires l.now && l.socket.pPingTimer.isActive
      | _ => l.socket.pPingTimer.isActive := by
  cases i with
  | Open => rfl
  | Close => rfl
  | connected =>
    rw [step, onConnected_socket beats]
    split_ifs <;> rfl
  | disconnected => rfl
  | elapse duration => rw [step, elapse_socket]
  | pingTimer =>
    rw [step]
    by_cases fires : l.socket.pPingTimer.fires l.now = true
    · rw [Timer.isActive_of_fires fires]
      by_cases connected : l.socket.state = .ConnectedState
      · rw [firePing_connected fires connected]
        rfl
      · rw [firePing_down fires connected]
        rfl
    · rw [firePing, if_neg fires]
  | pingTimeout =>
    rw [step, fireTimeout]
    split_ifs with fires
    · simp [fires, JanusWebSocket.onPingTimeout]
    · simp [fires]
  | message message =>
    rw [step, handle_socket beats (by simp)]
    split_ifs <;> rfl
  | told i => rw [told_socket beats]

/-- **A step keeps the timers in order** just where an awaited acknowledgement finds the ping
timer running, and `Open` the timeout timer stopped. -/
theorem step_halted (beats : l.client.Beats) (halted : l.Halted) (i : LinkInput) :
    (l.step env i).Halted ∧ l.OpensFresh env i ↔
      l.AckedInTime i ∧ (i = .Open → l.socket.pPingTimeOutTimer.isActive = false) := by
  have timeOut := step_timeOutTimer env beats i
  have ping := step_pingTimer env beats i
  rw [Halted, OpensFresh, timeOut, ping]
  have others : (∀ message, i ≠ .message message) → l.AckedInTime i :=
    fun other message t is => absurd is (other message)
  cases i with
  | Open => simp [move, others]
  | Close => exact iff_of_true ⟨fun _ => rfl, by simp⟩ ⟨others (by simp), by simp⟩
  | pingTimer =>
    refine iff_of_true ⟨fun stopped => ?_, by simp⟩ ⟨others (by simp), by simp⟩
    have unfired : l.socket.pPingTimer.fires l.now ≠ true := fun fires =>
      absurd (Timer.isActive_of_fires fires) (by simp [stopped])
    rw [move, if_neg unfired]
    exact halted stopped
  | pingTimeout =>
    refine iff_of_true ⟨fun stopped => ?_, by simp⟩ ⟨others (by simp), by simp⟩
    rw [move]
    split_ifs with fires
    · rfl
    · exact halted (by simpa [fires] using stopped)
  | message message =>
    rw [move]
    split_ifs with awaited
    · obtain ⟨t, acks, awaits⟩ := acked_any.1 awaited
      constructor
      · rintro ⟨stopped, -⟩
        refine ⟨fun _ _ _ _ _ => ?_, by simp⟩
        by_contra inactive
        exact absurd (stopped (by simpa using inactive)) (by simp)
      · rintro ⟨inTime, -⟩
        refine ⟨fun stopped => ?_, by simp⟩
        exact absurd (inTime message t rfl acks awaits) (by simp [stopped])
    · refine iff_of_true ⟨halted, by simp⟩ ⟨?_, by simp⟩
      rintro _ t ⟨⟩ acks awaits
      exact absurd (acked_any.2 ⟨t, acks, awaits⟩) awaited
  | _ => exact iff_of_true ⟨halted, by simp⟩ ⟨others (by simp), by simp⟩

/-! ## Runs -/

theorem beats_step (beats : l.client.Beats) (i : LinkInput) : (l.step env i).client.Beats := by
  cases i with
  | connected =>
    rw [step, onConnected]
    split_ifs
    · exact beats.step env _
    · exact beats
  | elapse duration =>
    rw [step, elapse]
    split_ifs <;> exact beats
  | pingTimer =>
    rw [step, firePing]
    split_ifs
    · dsimp only
      split_ifs
      · exact beats.step env _
      · exact beats
    · exact beats
  | pingTimeout =>
    rw [step, fireTimeout]
    split_ifs <;> exact beats
  | message => exact beats.step env _
  | told =>
    rw [step]
    split_ifs
    · exact beats
    · exact beats.step env _
  | _ => exact beats

variable (env) in
/-- What a run does to the timeout timer. -/
def moves : Link → List LinkInput → List Bool
  | _, [] => []
  | l, i :: is => (l.move i).toList ++ moves (l.step env i) is

theorem run_timeOutTimer (beats : l.client.Beats) (is : List LinkInput) :
    (Machine.run (step env) l is).socket.pPingTimeOutTimer.isActive =
      (moves env l is).getLast?.getD l.socket.pPingTimeOutTimer.isActive := by
  induction is generalizing l with
  | nil => rfl
  | cons i is ih =>
    rw [Machine.run_cons, ih (beats_step beats i), step_timeOutTimer env beats, moves,
      List.getLast?_append]
    cases (moves env (l.step env i) is).getLast? <;> cases l.move i <;> rfl

/-- Whatever had the timeout timer run last was undone since. -/
def LetGo (env : Env) (js : List LinkInput) : Prop :=
  (moves env (initial env) js).getLast? ≠ some true

end

end Link

open Link

/-- **The timers of a socket are in order** in a whole run if and only if every acknowledgement
that is awaited comes while the ping timer runs, and `Open` is called when the timeout timer
was stopped after it last ran: by `Close`, by itself, or by a tick that found the socket down. -/
theorem timers_in_order_iff (env : Env) (is : List LinkInput) :
    Machine.Throughout (Link.step env) Halted (Link.initial env) is ∧
        Machine.Along (Link.step env) (OpensFresh env) (Link.initial env) is ↔
      Machine.EachStep (fun js i =>
        (Machine.run (Link.step env) (Link.initial env) js).AckedInTime i ∧
          (i = .Open → LetGo env js)) is := by
  have start : (Link.initial env).client.Beats := beats_initial
  rw [Machine.throughout_and_along_iff (Q := fun l => l.client.Beats)
    (fun _ i beats => beats_step beats i) (fun _ i _ beats halted => step_halted beats halted i)
    start (fun _ => rfl), Machine.along_iff_eachStep]
  refine Machine.eachStep_congr fun js i => and_congr_right fun _ => forall_congr' fun _ => ?_
  rw [run_timeOutTimer start, LetGo]
  cases (moves env (Link.initial env) js).getLast? with
  | none => exact iff_of_true rfl (by simp)
  | some active => cases active <;> simp

/-- The acknowledgement of a keepalive comes after the socket was closed. -/
theorem late_ack_rearms : ¬ ∀ (env : Env) (is : List LinkInput),
    Machine.Throughout (Link.step env) Halted (Link.initial env) is ∧
      Machine.Along (Link.step env) (OpensFresh env) (Link.initial env) is := by
  intro always
  have halted := (always Env.sample [.Open, .connected, .elapse 25000, .pingTimer, .Close,
    .message (some (Server.ackReply (Env.sample.random 1)))]).1.last
  exact absurd (halted (by decide +kernel)) (by decide +kernel)

end WebrtcDemo
