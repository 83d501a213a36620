import WebrtcDemo.Client.Process
import WebrtcDemo.Run.LocalStream

/-!
# The pointers that operations follow

A client is constructed with its manager, and deleted with it, so that whatever
`GetInstance` returns has one. The local data-channel stream is another matter: it comes
with the first description of a text room and goes with the client, and `SendMessage`
does not look whether it is there. The inputs alone say when it is: `Standing` follows
them, and the process follows `Standing`.
-/

namespace WebrtcDemo

/-- What the inputs say of the client: whether there is one, and whether a text room has
described itself to it. -/
inductive Standing where
  | absent
  | present (described : Bool)
  deriving DecidableEq

namespace Standing

/-- An operation finds a client, or makes one. -/
def construct : Standing → Standing
  | absent => present false
  | present described => present described

/-- A client is told something. -/
def told (x : Standing) (i : Input) : Standing :=
  match x with
  | absent => absent
  | present described => present (described || i.offersTextRoom)

def step (x : Standing) : ProcessInput → Standing
  | .Logout => absent
  | .LeaveDataChannelRoom => x
  | .reported i => x.told i
  | _ => x.construct

/-- A message is sent after a text room has described itself to the client that there is. -/
def Channelled (x : Standing) (i : ProcessInput) : Prop :=
  ∀ message, i = .SendMessage message → x = .present true

@[simp] theorem construct_construct (x : Standing) : x.construct.construct = x.construct := by
  cases x <;> rfl

theorem told_silent {i : Input} (silent : i.offersTextRoom = false) (x : Standing) :
    x.told i = x := by
  cases x <;> simp [told, silent]

end Standing

namespace Process

/-- No member was invoked on a null object. -/
def NoNullCall (p : Process) : Prop := ∀ call ∈ p.calls, call.2 = true

/-- A client has its manager, and a local stream where its table has an entry. -/
structure Whole (p : Process) : Prop where
  manager : p.conferenceInstance = true → p.pJanusVideoRoomManager = true
  linked : p.conferenceInstance = true → p.client.Linked

/-- What the objects of a process amount to. -/
def standing (p : Process) : Standing :=
  if p.conferenceInstance then .present p.client.conference.LocalStream_DataChannels.isSome
  else .absent

section
variable {env : Env} {p : Process}

/-! ## Clients and their objects -/

@[simp] theorem GetInstance_conferenceInstance : (p.GetInstance env).conferenceInstance = true := by
  rw [GetInstance]
  split_ifs with present
  · exact present
  · rfl

@[simp] theorem GetInstance_calls : (p.GetInstance env).calls = p.calls := by
  rw [GetInstance]
  split_ifs <;> rfl

theorem GetInstance_standing : (p.GetInstance env).standing = p.standing.construct := by
  rw [GetInstance, standing, standing]
  split_ifs with present <;> simp_all [Standing.construct]

theorem onInstance_standing : (p.onInstance env).standing = p.standing.construct :=
  GetInstance_standing

theorem onManager_standing : (p.onManager env).standing = p.standing.construct :=
  GetInstance_standing

theorem twice_standing :
    ((p.onInstance env).onInstance env).standing = p.standing.construct := by
  rw [onInstance_standing, onInstance_standing, Standing.construct_construct]

/-- A client that is told something gets its local stream from a description only. -/
theorem handled_standing (whole : p.Whole) (i : Input) :
    (p.handled env i).standing = p.standing.told i := by
  rw [standing, standing]
  show (if p.conferenceInstance then _ else _) = _
  split_ifs with present
  · have after := step_local env i (whole.linked present)
    rw [Standing.told, Standing.present.injEq, Bool.eq_iff_iff, Bool.or_eq_true]
    exact after
  · rfl

theorem Whole.GetInstance (whole : p.Whole) : (p.GetInstance env).Whole := by
  rw [Process.GetInstance]
  split_ifs
  · exact whole
  · exact ⟨fun _ => rfl, fun _ k member => absurd member (AList.notMem_empty k)⟩

theorem Whole.invoke (whole : p.Whole) (pointee : Pointee) : (p.invoke pointee).Whole :=
  ⟨whole.manager, whole.linked⟩

theorem Whole.onInstance (whole : p.Whole) : (p.onInstance env).Whole := whole.GetInstance.invoke _

theorem Whole.onManager (whole : p.Whole) : (p.onManager env).Whole := whole.onInstance.invoke _

theorem Whole.handled (whole : p.Whole) (i : Input) : (p.handled env i).Whole :=
  ⟨whole.manager, fun present => (whole.linked present).step env i⟩

/-- Every step leaves a client whole. -/
theorem Whole.step (whole : p.Whole) (i : ProcessInput) : (p.step env i).Whole := by
  cases i with
  | Login => exact whole.onManager
  | Logout => constructor <;> exact fun present => absurd present Bool.false_ne_true
  | SetVideoWindows => exact whole.onInstance.handled _
  | LeaveVideoRoom => exact whole.onInstance.onManager.handled _
  | JoinDataChannelRoom => exact whole.onInstance.onManager.handled _
  | LeaveDataChannelRoom => exact whole
  | SendMessage => exact (whole.onInstance.onInstance.invoke _).handled _
  | reported i =>
    show (p.reported env i).Whole
    rw [reported]
    split_ifs
    · exact whole.handled i
    · exact whole
  | _ => exact whole.onManager.handled _

/-- **The process follows the inputs.** -/
theorem step_standing (whole : p.Whole) (i : ProcessInput) :
    (p.step env i).standing = p.standing.step i := by
  have managed : ∀ i : Input, i.offersTextRoom = false →
      ((p.onManager env).handled env i).standing = p.standing.construct := by
    intro i silent
    rw [handled_standing whole.onManager, Standing.told_silent silent, onManager_standing]
  have twice : ∀ i : Input, i.offersTextRoom = false →
      (((p.onInstance env).onManager env).handled env i).standing = p.standing.construct := by
    intro i silent
    rw [handled_standing whole.onInstance.onManager, Standing.told_silent silent,
      onManager_standing, onInstance_standing, Standing.construct_construct]
  cases i with
  | Login => exact onManager_standing
  | Logout => rfl
  | SetVideoWindows remote =>
    show ((p.onInstance env).handled env _).standing = _
    rw [handled_standing whole.onInstance, Standing.told_silent rfl, onInstance_standing]
    rfl
  | LeaveVideoRoom => exact twice _ rfl
  | JoinDataChannelRoom => exact twice _ rfl
  | LeaveDataChannelRoom => rfl
  | SendMessage message =>
    show ((invoke _ .LocalStream_DataChannels).handled env _).standing = _
    rw [handled_standing (whole.onInstance.onInstance.invoke _), Standing.told_silent rfl]
    exact twice_standing
  | reported i =>
    show (p.reported env i).standing = p.standing.told i
    rw [reported]
    split_ifs with told
    · exact handled_standing whole i
    · rw [not_and_or] at told
      rcases told with absent | operation
      · simp [standing, absent, Standing.told]
      · refine (Standing.told_silent ?_ _).symm
        cases i <;> simp_all [Input.isReport, Input.offersTextRoom]
  | _ => exact managed _ rfl

/-! ## Calls -/

theorem noNullCall_congr {p' : Process} (calls : p'.calls = p.calls) :
    p'.NoNullCall ↔ p.NoNullCall := by
  rw [NoNullCall, calls, NoNullCall]

theorem invoke_noNullCall (pointee : Pointee) :
    (p.invoke pointee).NoNullCall ↔ p.NoNullCall ∧ p.exists? pointee = true := by
  simp [NoNullCall, invoke, or_imp, forall_and]

theorem handled_noNullCall (i : Input) : (p.handled env i).NoNullCall ↔ p.NoNullCall :=
  noNullCall_congr rfl

/-- `GetInstance` returns a client. -/
@[simp] theorem onInstance_noNullCall : (p.onInstance env).NoNullCall ↔ p.NoNullCall := by
  rw [onInstance, invoke_noNullCall, noNullCall_congr GetInstance_calls]
  exact and_iff_left GetInstance_conferenceInstance

/-- The client that `GetInstance` returns has its manager. -/
theorem onManager_noNullCall (whole : p.Whole) :
    (p.onManager env).NoNullCall ↔ p.NoNullCall := by
  rw [onManager, invoke_noNullCall, onInstance_noNullCall]
  exact and_iff_left (whole.GetInstance.manager GetInstance_conferenceInstance)

theorem twice_noNullCall (whole : p.Whole) :
    ((p.onInstance env).onManager env).NoNullCall ↔ p.NoNullCall :=
  (onManager_noNullCall whole.onInstance).trans onInstance_noNullCall

/-- A message meets a null pointer exactly where there is no stream to send it on. -/
theorem SendMessage_noNullCall (message : String) :
    (p.SendMessage env message).NoNullCall ↔ p.NoNullCall ∧ p.standing = .present true := by
  rw [SendMessage, handled_noNullCall, invoke_noNullCall, onInstance_noNullCall,
    onInstance_noNullCall]
  refine and_congr_right fun _ => ?_
  have reached : ((p.onInstance env).onInstance env).standing = p.standing.construct :=
    twice_standing
  have there : ((p.onInstance env).onInstance env).standing =
      .present (((p.onInstance env).onInstance env).exists? .LocalStream_DataChannels) :=
    if_pos GetInstance_conferenceInstance
  rw [there] at reached
  cases before : p.standing with
  | absent => simp [before, Standing.construct] at reached ⊢; exact reached
  | present described => simp [before, Standing.construct] at reached ⊢; rw [reached]

/-- **A step meets no null pointer exactly where it is not a message without a stream.** -/
theorem step_noNullCall (whole : p.Whole) (fine : p.NoNullCall) (i : ProcessInput) :
    (p.step env i).NoNullCall ↔ p.standing.Channelled i := by
  have others : (∀ message, i ≠ .SendMessage message) → p.standing.Channelled i :=
    fun other message is => absurd is (other message)
  cases i with
  | SendMessage message =>
    show (p.SendMessage env message).NoNullCall ↔ _
    simp [SendMessage_noNullCall, Standing.Channelled, fine]
  | Logout => exact iff_of_true ((noNullCall_congr GetInstance_calls).2 fine) (others (by simp))
  | SetVideoWindows => exact iff_of_true (onInstance_noNullCall.2 fine) (others (by simp))
  | LeaveVideoRoom => exact iff_of_true ((twice_noNullCall whole).2 fine) (others (by simp))
  | JoinDataChannelRoom => exact iff_of_true ((twice_noNullCall whole).2 fine) (others (by simp))
  | LeaveDataChannelRoom => exact iff_of_true fine (others (by simp))
  | reported i =>
    refine iff_of_true ?_ (others (by simp))
    show (p.reported env i).NoNullCall
    rw [reported]
    split_ifs <;> exact fine
  | _ => exact iff_of_true ((onManager_noNullCall whole).2 fine) (others (by simp))

theorem whole_initial (env : Env) : (initial env).Whole := by
  constructor <;> exact fun present => absurd present Bool.false_ne_true

end

end Process

open Process

/-- **No operation invokes a member on a null object** in a whole run if and only if every
message is sent after a text room has described itself to the client that there is then. -/
theorem operations_find_objects_iff (env : Env) (is : List ProcessInput) :
    Machine.Throughout (Process.step env) NoNullCall (Process.initial env) is ↔
      Machine.Along Standing.step Standing.Channelled .absent is := by
  have stays : ∀ p i, Process.Whole p → (p.step env i).Whole := fun _ i whole => whole.step i
  rw [show Standing.absent = (Process.initial env).standing from rfl,
    ← Machine.along_simulated stays (fun _ i whole => step_standing whole i) (whole_initial env)]
  exact Machine.throughout_iff_along stays
    (fun _ i _ whole fine => step_noNullCall whole fine i) (whole_initial env)
    (by simp [NoNullCall, Process.initial])

/-- A message is sent right after the login. -/
theorem message_without_stream : ¬ ∀ (env : Env) (is : List ProcessInput),
    Machine.Throughout (Process.step env) NoNullCall (Process.initial env) is := by
  intro always
  have fine := (always Env.sample [.Login, .SendMessage "hello"]).last
  exact absurd (fine (.LocalStream_DataChannels, false)) (by decide)

end WebrtcDemo
