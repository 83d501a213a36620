import WebrtcDemo.Run.Operations
import Mathlib.Data.Finset.Insert

/-!
# Outcomes of administrative requests

Four member functions read the outcome of a request to create or destroy a room and
call one of eight callbacks. Each tests the callback it calls, but for
`onDestoryVideoRoom`, which on success tests its own and calls the one of a creation.
-/

namespace WebrtcDemo

/-- The four operations on rooms. -/
inductive RoomOperation where
  | createVideoRoom
  | createTextRoom
  | destoryVideoRoom
  | destoryTextRoom
  deriving DecidableEq

namespace RoomOperation

def room : RoomOperation → RoomKind
  | createVideoRoom | destoryVideoRoom => .video
  | createTextRoom | destoryTextRoom => .text

/-- The member function that reads the outcome. -/
def outcome : RoomOperation → PeerMember
  | createVideoRoom => .onCreateVideoRoom
  | createTextRoom => .onCreateTextRoom
  | destoryVideoRoom => .onDestoryVideoRoom
  | destoryTextRoom => .onDestoryTextRoom

/-- The member of the plugin data that holds the status. -/
def key (op : RoomOperation) : String :=
  match op.room with
  | .video => "videoroom"
  | .text => "textroom"

/-- The status of a failure. -/
def failureTag (op : RoomOperation) : String :=
  match op.room with
  | .video => "event"
  | .text => "error"

/-- The status of a success. -/
def successTag : RoomOperation → String
  | createVideoRoom | createTextRoom => "created"
  | destoryVideoRoom | destoryTextRoom => "destroyed"

/-- The callback of a failure. -/
def failed : RoomOperation → RoomCallback
  | createVideoRoom => .onCreateVideoRoomFailed
  | createTextRoom => .onCreateTextRoomFailed
  | destoryVideoRoom => .onDestroyVideoRoomFailed
  | destoryTextRoom => .onDestroyTextRoomFailed

/-- The callback of a success. -/
def successed : RoomOperation → RoomCallback
  | createVideoRoom => .onCreateVideoRoomSuccessed
  | createTextRoom => .onCreateTextRoomSuccessed
  | destoryVideoRoom => .onDestroyVideoRoomSuccessed
  | destoryTextRoom => .onDestroyTextRoomSuccessed

/-- The callback that the code calls on success. -/
def calls : RoomOperation → RoomCallback
  | destoryVideoRoom => .onCreateVideoRoomSuccessed
  | op => op.successed

/-- The status that a reply reports. -/
def status (op : RoomOperation) (recvMsg : Json) : String :=
  ((recvMsg.member "plugindata").member "data").text op.key

/-- The callbacks that a reply should run, of those in `R`. -/
def expected (op : RoomOperation) (R : Finset RoomCallback) (recvMsg : Json) : List RoomCallback :=
  if op.status recvMsg = op.failureTag then if op.failed ∈ R then [op.failed] else []
  else if op.status recvMsg = op.successTag then if op.successed ∈ R then [op.successed] else []
  else []

end RoomOperation

/-- The field that a callback is registered in. -/
def RoomCallbacks.slot (this : RoomCallbacks) : RoomCallback → Option RoomCallback
  | .onCreateVideoRoomSuccessed => this.onCreateVideoRoomSuccessedCallback
  | .onCreateVideoRoomFailed => this.onCreateVideoRoomFailedCallback
  | .onCreateTextRoomSuccessed => this.onCreateTextRoomSuccessedCallback
  | .onCreateTextRoomFailed => this.onCreateTextRoomFailedCallback
  | .onDestroyVideoRoomSuccessed => this.onDestroyVideoRoomSuccessedCallback
  | .onDestroyVideoRoomFailed => this.onDestroyVideoRoomFailedCallback
  | .onDestroyTextRoomSuccessed => this.onDestroyTextRoomSuccessedCallback
  | .onDestroyTextRoomFailed => this.onDestroyTextRoomFailedCallback

/-- The callbacks of `R`, each registered under its own name, and no other. -/
def RoomCallbacks.registered (R : Finset RoomCallback) : RoomCallbacks :=
  let field (callback : RoomCallback) := if callback ∈ R then some callback else none
  { onCreateVideoRoomSuccessedCallback := field .onCreateVideoRoomSuccessed
    onCreateVideoRoomFailedCallback := field .onCreateVideoRoomFailed
    onCreateTextRoomSuccessedCallback := field .onCreateTextRoomSuccessed
    onCreateTextRoomFailedCallback := field .onCreateTextRoomFailed
    onDestroyVideoRoomSuccessedCallback := field .onDestroyVideoRoomSuccessed
    onDestroyVideoRoomFailedCallback := field .onDestroyVideoRoomFailed
    onDestroyTextRoomSuccessedCallback := field .onDestroyTextRoomSuccessed
    onDestroyTextRoomFailedCallback := field .onDestroyTextRoomFailed }

theorem RoomCallbacks.registered_slot (R : Finset RoomCallback) (callback : RoomCallback) :
    (RoomCallbacks.registered R).slot callback = if callback ∈ R then some callback else none := by
  cases callback <;> rfl

/-- A peer with the callbacks of `R`. -/
def JanusPeerConnection.registered (this : JanusPeerConnection) (R : Finset RoomCallback) :
    JanusPeerConnection :=
  { this with toRoomCallbacks := .registered R }

/-- The callback that an effect calls: `none` for an empty one. -/
def Effect.roomCall? : Effect → Option (Option RoomCallback)
  | .roomCallback callback _ => some (some callback)
  | .badFunctionCall => some none
  | _ => none

/-- The callbacks called so far. -/
def Client.called (s : Client) : List (Option RoomCallback) := s.log.filterMap Effect.roomCall?

section
variable {env : Env} {s : Client} {p : Ptr} {x : JanusPeerConnection} {object : Json}

theorem callRoomCallback_called (s : Client) (callback : Option RoomCallback) (roomId : UInt32) :
    (JanusPeerConnection.callRoomCallback s callback roomId).called = s.called ++ [callback] := by
  cases callback <;>
    simp [JanusPeerConnection.callRoomCallback, Client.called, Client.emit, Effect.roomCall?]

/-- An outcome calls at most one callback: on failure the one tested, on success the one
named, which need not be the one tested. -/
theorem roomOutcome_called (alive : s.peers p = some x) (key failureTag successTag : String)
    (requested : JanusPeerConnection → UInt32)
    (failed tested called : JanusPeerConnection → Option RoomCallback) :
    (JanusPeerConnection.roomOutcome s p object key failureTag successTag requested failed tested
      called).called = s.called ++
        (if ((object.member "plugindata").member "data").text key = failureTag then
          if (failed x).isSome then [failed x] else []
        else if ((object.member "plugindata").member "data").text key = successTag then
          if (tested x).isSome then [called x] else []
        else []) := by
  rw [JanusPeerConnection.roomOutcome, Client.withPeer_live alive]
  dsimp only
  split_ifs
  all_goals first | exact callRoomCallback_called s _ _ | exact (List.append_nil _).symm

/-- A reply to any of the four: the failure and the success are tested alike. -/
theorem callMember_called (op : RoomOperation) (alive : s.peers p = some x) :
    (JanusPeerConnection.callMember env s p object op.outcome).called = s.called ++
      (if op.status object = op.failureTag then
        if (x.slot op.failed).isSome then [x.slot op.failed] else []
      else if op.status object = op.successTag then
        if (x.slot op.successed).isSome then [x.slot op.calls] else []
      else []) := by
  cases op <;> exact roomOutcome_called alive _ _ _ _ _ _ _

end

/-- **A reply runs the callbacks it should and no other,** if and only if it is not the
success of destroying a video room whose callback is registered. -/
theorem outcome_called_iff (env : Env) (s : Client) (p : Ptr) (this : JanusPeerConnection)
    (R : Finset RoomCallback) (op : RoomOperation) (recvMsg : Json) :
    (JanusPeerConnection.callMember env (s.setPeer p (this.registered R)) p recvMsg
        op.outcome).called = s.called ++ (op.expected R recvMsg).map some ↔
      ¬ (op = .destoryVideoRoom ∧ op.status recvMsg = "destroyed" ∧
        .onDestroyVideoRoomSuccessed ∈ R) := by
  have alive : (s.setPeer p (this.registered R)).peers p = some (this.registered R) :=
    Client.setPeer_self
  have slot : ∀ callback, (this.registered R).slot callback =
      if callback ∈ R then some callback else none := RoomCallbacks.registered_slot R
  have before : (s.setPeer p (this.registered R)).called = s.called := rfl
  rw [callMember_called op alive, before, List.append_cancel_left_eq, RoomOperation.expected]
  simp only [slot]
  have tags : op = .destoryVideoRoom → op.failureTag ≠ "destroyed" ∧ op.successTag = "destroyed" := by
    rintro rfl
    decide
  by_cases failure : op.status recvMsg = op.failureTag
  · refine iff_of_true ?_ fun wrong => (tags wrong.1).1 (failure.symm.trans wrong.2.1)
    rw [if_pos failure, if_pos failure]
    by_cases registered : op.failed ∈ R <;> simp [registered]
  · rw [if_neg failure, if_neg failure]
    by_cases success : op.status recvMsg = op.successTag
    · rw [if_pos success, if_pos success]
      by_cases registered : op.successed ∈ R
      · have own : op.calls = op.successed ↔ op ≠ .destoryVideoRoom := by cases op <;> decide
        simp only [registered, if_true, Option.isSome_some, List.map_cons, List.map_nil,
          List.cons.injEq, and_true]
        constructor
        · rintro same ⟨destroys, -⟩
          refine own.1 ?_ destroys
          split_ifs at same
          exact Option.some.inj same
        · intro fine
          have other : op ≠ .destoryVideoRoom := by
            rintro rfl
            exact fine ⟨rfl, success, registered⟩
          rw [own.2 other, if_pos registered]
      · refine iff_of_true (by simp [registered]) ?_
        rintro ⟨rfl, -, member⟩
        exact registered member
    · refine iff_of_true (by rw [if_neg success, if_neg success]; rfl) fun wrong => ?_
      exact success (wrong.2.1.trans (tags wrong.1).2.symm)

/-- A video room was destroyed, and the callback of a creation is called. -/
theorem destroyed_called_created : ¬ ∀ (env : Env) (s : Client) (p : Ptr)
    (this : JanusPeerConnection) (R : Finset RoomCallback) (op : RoomOperation) (recvMsg : Json),
    (JanusPeerConnection.callMember env (s.setPeer p (this.registered R)) p recvMsg
      op.outcome).called = s.called ++ (op.expected R recvMsg).map some := by
  intro always
  have equal := always Env.sample (Client.initial Env.sample) 0
    (JanusVideoRoomManager.newPeer Env.sample (Client.initial Env.sample))
    {.onDestroyVideoRoomSuccessed} .destoryVideoRoom
    (.obj [("plugindata", .obj [("data", .obj [("videoroom", .str "destroyed")])])])
  exact absurd equal (by decide)

end WebrtcDemo
