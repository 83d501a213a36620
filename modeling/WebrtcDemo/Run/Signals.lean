import WebrtcDemo.Run.Halves
import WebrtcDemo.Stream.Conference

/-!
# The client under its streams

Whatever the streams do, the client goes through one of its runs: the events happen to it
as they come, and the slots run for the signals in the order in which these were emitted,
each at most once. So what holds of every run of the client holds of it under its streams.
-/

namespace WebrtcDemo

namespace Conference

section
variable {env : Env} {parse : CreateSessionDescription} {factory : Factory} {c : Conference}

@[simp] theorem become_client (s : Client) : (c.become s).client = s := rfl
@[simp] theorem become_signals (s : Client) : (c.become s).signals = c.signals := rfl
@[simp] theorem construct_client (k : StreamClass) (h : Int) :
    (c.construct k h).client = c.client := rfl
@[simp] theorem construct_signals (k : StreamClass) (h : Int) :
    (c.construct k h).signals = c.signals := rfl
@[simp] theorem call_client (k : StreamClass) (p : Ptr) (member : PeerStream → PeerStream) :
    (c.call k p member).client = c.client := rfl
@[simp] theorem call_signals (k : StreamClass) (p : Ptr) (member : PeerStream → PeerStream) :
    (c.call k p member).signals = c.signals := rfl
@[simp] theorem emit_client (signal : Signal) : (c.emit signal).client = c.client := rfl
@[simp] theorem emit_signals (signal : Signal) :
    (c.emit signal).signals = c.signals.post signal := rfl

/-! ## Handlers in halves -/

section
variable (parse factory c) (id : Int)

def tellVideo (type sdp : String) : Conference :=
  match c.client.conference.mRemoteStreamInfos_VideoAudio.lookup id with
  | some info =>
    (c.become (c.client.emit (.setPeerSDP false info.stream type sdp))).call
      .VideoAudio info.stream fun x => (x.SetPeerSDP factory (parse type sdp)).1
  | none => c

def tellData (type sdp : String) : Conference :=
  match c.client.conference.mRemoteStreamInfos_DataChannels.lookup id with
  | some info =>
    (c.become (ConferenceManager.setPeerSDP_DataChannels c.client info.stream type sdp)).call
      .DataChannels info.stream fun x => (x.SetPeerSDP factory (parse type sdp)).1
  | none => c

def dropVideo : Conference :=
  match c.client.conference.mRemoteStreamInfos_VideoAudio.lookup id with
  | some info => c.call .VideoAudio info.stream (·.DeletePeerConnection)
  | none => c

def dropData : Conference :=
  match c.client.conference.mRemoteStreamInfos_DataChannels.lookup id with
  | some info => c.call .DataChannels info.stream (·.DeletePeerConnection)
  | none => c

theorem onRetmoeSDP_video (type sdp : String) :
    c.onRetmoeSDP parse factory id type sdp false =
      (if (c.client.conference.mRemoteStreamInfos_VideoAudio.lookup id).isNone then
        c.ConnectToPeer_VideoAudio factory id true false false else c).tellVideo parse factory id
          type sdp := rfl

theorem onRetmoeSDP_text (type sdp : String) :
    c.onRetmoeSDP parse factory id type sdp true =
      (if (c.client.conference.mRemoteStreamInfos_DataChannels.lookup id).isNone then
        c.ConnectToPeer_DataChannels id else c).tellData parse factory id type sdp := rfl

theorem onRemoteStreamRemove_eq :
    c.onRemoteStreamRemove id =
      ((c.dropVideo id).dropData id).become
        (ConferenceManager.onRemoteStreamRemove ((c.dropVideo id).dropData id).client id) := rfl

@[simp] theorem dropVideo_client : (c.dropVideo id).client = c.client := by
  rw [dropVideo]
  split <;> rfl

@[simp] theorem dropData_client : (c.dropData id).client = c.client := by
  rw [dropData]
  split <;> rfl

@[simp] theorem dropVideo_signals : (c.dropVideo id).signals = c.signals := by
  rw [dropVideo]
  split <;> rfl

@[simp] theorem dropData_signals : (c.dropData id).signals = c.signals := by
  rw [dropData]
  split <;> rfl

end

/-! ## The handlers do to the client what they did without streams -/

@[simp] theorem ConnectToPeer_VideoAudio_client (id : Int) (show_ isConnect isLocal : Bool) :
    (c.ConnectToPeer_VideoAudio factory id show_ isConnect isLocal).client =
      ConferenceManager.ConnectToPeer_VideoAudio c.client id show_ isConnect isLocal := by
  rw [ConnectToPeer_VideoAudio]
  cases isConnect <;> rfl

@[simp] theorem ConnectToPeer_DataChannels_client (id : Int) :
    (c.ConnectToPeer_DataChannels id).client =
      ConferenceManager.ConnectToPeer_DataChannels c.client id := rfl

theorem tellVideo_client (id : Int) (type sdp : String) :
    (c.tellVideo parse factory id type sdp).client =
      ConferenceManager.tellVideo c.client id type sdp := by
  rw [tellVideo, ConferenceManager.tellVideo]
  cases c.client.conference.mRemoteStreamInfos_VideoAudio.lookup id <;> rfl

theorem tellData_client (id : Int) (type sdp : String) :
    (c.tellData parse factory id type sdp).client =
      ConferenceManager.tellData c.client id type sdp := by
  rw [tellData, ConferenceManager.tellData]
  cases c.client.conference.mRemoteStreamInfos_DataChannels.lookup id <;> rfl

@[simp] theorem onRetmoeSDP_client (id : Int) (type sdp : String) (isTextRoom : Bool) :
    (c.onRetmoeSDP parse factory id type sdp isTextRoom).client =
      ConferenceManager.onRetmoeSDP c.client id type sdp isTextRoom := by
  cases isTextRoom with
  | false =>
    rw [onRetmoeSDP_video, ConferenceManager.onRetmoeSDP_video, tellVideo_client]
    split_ifs
    · rw [ConnectToPeer_VideoAudio_client]
    · rfl
  | true =>
    rw [onRetmoeSDP_text, ConferenceManager.onRetmoeSDP_text, tellData_client]
    split_ifs <;> rfl

@[simp] theorem onRemoteStreamRemove_client (id : Int) :
    (c.onRemoteStreamRemove id).client = ConferenceManager.onRemoteStreamRemove c.client id := by
  rw [onRemoteStreamRemove_eq, become_client, dropData_client, dropVideo_client]

@[simp] theorem onVideoRoomEventSdp_client (object : Json) (isTextRoom : Bool) :
    (c.onVideoRoomEventSdp parse factory object isTextRoom).client =
      JanusVideoRoomManager.onVideoRoomEventSdp c.client object isTextRoom := by
  rw [onVideoRoomEventSdp, JanusVideoRoomManager.onVideoRoomEventSdp]
  split_ifs
  · exact onRetmoeSDP_client _ _ _ _
  · rfl

@[simp] theorem onVideoRoomEventUnpublish_client (object : Json) :
    (c.onVideoRoomEventUnpublish object).client =
      JanusVideoRoomManager.onVideoRoomEventUnpublish c.client object := by
  rw [onVideoRoomEventUnpublish, JanusVideoRoomManager.onVideoRoomEventUnpublish]
  dsimp only
  split_ifs
  · cases JanusVideoRoomManager.findPeer c.client c.client.janus.mVideoRoomPeerList
        (·.mSubscribeId) (JsonValueToLongLong (JanusVideoRoomManager.dataObj object) "unpublished")
    · rfl
    · dsimp only
      rw [become_client, OnRemoteStreamRemove, onRemoteStreamRemove_client]
      rfl
  · rfl

@[simp] theorem onVideoRoomEventJoin_client (object : Json) :
    (c.onVideoRoomEventJoin factory env object).client =
      JanusVideoRoomManager.onVideoRoomEventJoin env c.client object := by
  rw [onVideoRoomEventJoin, JanusVideoRoomManager.onVideoRoomEventJoin]
  dsimp only [become_client]
  cases JanusVideoRoomManager.findPeer _ _ (·.mVideoRoomHandleID) (JsonValueToLongLong object "sender")
  · rfl
  · exact ConnectToPeer_VideoAudio_client _ _ _ _

@[simp] theorem onVideoRoomEventEvent_client (object : Json) :
    (c.onVideoRoomEventEvent parse factory env object).client =
      JanusVideoRoomManager.onVideoRoomEventEvent env c.client object := by
  rw [onVideoRoomEventEvent, onVideoRoomEventUnpublish_client, become_client,
    onVideoRoomEventSdp_client]
  rfl

@[simp] theorem onVideoRoomEvent_client (event : String) (object : Json) :
    (c.onVideoRoomEvent parse factory env event object).client =
      JanusVideoRoomManager.onVideoRoomEvent env c.client event object := by
  rw [onVideoRoomEvent, JanusVideoRoomManager.onVideoRoomEvent]
  split_ifs
  · exact onVideoRoomEventJoin_client object
  · exact onVideoRoomEventSdp_client object false
  · exact onVideoRoomEventEvent_client object
  · rfl

@[simp] theorem onWebSocketReceivedMessage_client (message : Option Json) :
    (c.onWebSocketReceivedMessage parse factory env message).client =
      JanusVideoRoomManager.onWebSocketReceivedMessage env c.client message := by
  cases message with
  | none => rfl
  | some object =>
    rw [onWebSocketReceivedMessage, JanusVideoRoomManager.onWebSocketReceivedMessage]
    split_ifs
    · rfl
    · rfl
    · cases GetStringFromJsonObject (JanusVideoRoomManager.dataObj object) "videoroom" with
      | some tag => exact onVideoRoomEvent_client tag object
      | none =>
        cases GetStringFromJsonObject (JanusVideoRoomManager.dataObj object) "textroom" with
        | some _ => exact onVideoRoomEventSdp_client object true
        | none => rfl
    · rfl

/-- **What happens to the client is what it does without streams.** -/
theorem happened_client (i : Input) :
    (c.happened env parse i factory).client = WebrtcDemo.step env c.client i := by
  cases i
  case receivedMessage message => exact onWebSocketReceivedMessage_client message
  all_goals rfl

/-! ## The signals -/

theorem ConnectToPeer_VideoAudio_signals (id : Int) (show_ isConnect isLocal : Bool) :
    (c.ConnectToPeer_VideoAudio factory id show_ isConnect isLocal).signals = c.signals := by
  rw [ConnectToPeer_VideoAudio]
  cases isConnect <;> rfl

theorem onRetmoeSDP_signals (id : Int) (type sdp : String) (isTextRoom : Bool) :
    (c.onRetmoeSDP parse factory id type sdp isTextRoom).signals = c.signals := by
  have video (c : Conference) : (c.tellVideo parse factory id type sdp).signals = c.signals := by
    rw [tellVideo]
    split <;> rfl
  have data (c : Conference) : (c.tellData parse factory id type sdp).signals = c.signals := by
    rw [tellData]
    split <;> rfl
  cases isTextRoom with
  | false =>
    rw [onRetmoeSDP_video, video]
    split_ifs
    · exact ConnectToPeer_VideoAudio_signals _ _ _ _
    · rfl
  | true =>
    rw [onRetmoeSDP_text, data]
    split_ifs <;> rfl

theorem onRemoteStreamRemove_signals (id : Int) :
    (c.onRemoteStreamRemove id).signals = c.signals := by
  rw [onRemoteStreamRemove_eq, become_signals, dropData_signals, dropVideo_signals]

theorem onVideoRoomEventSdp_signals (object : Json) (isTextRoom : Bool) :
    (c.onVideoRoomEventSdp parse factory object isTextRoom).signals = c.signals := by
  rw [onVideoRoomEventSdp]
  split_ifs
  · exact onRetmoeSDP_signals _ _ _ _
  · rfl

theorem onVideoRoomEventUnpublish_signals (object : Json) :
    (c.onVideoRoomEventUnpublish object).signals = c.signals := by
  rw [onVideoRoomEventUnpublish]
  dsimp only
  split_ifs
  · split
    · exact onRemoteStreamRemove_signals _
    · rfl
  · rfl

/-- Handling an event emits nothing: the streams signal from threads of their own. -/
theorem happened_signals (i : Input) : (c.happened env parse i factory).signals = c.signals := by
  cases i
  case receivedMessage message =>
    rw [happened]
    cases message with
    | none => rfl
    | some object =>
      rw [onWebSocketReceivedMessage]
      split_ifs
      · rfl
      · rfl
      · split
        · rw [onVideoRoomEvent]
          split_ifs
          · rw [onVideoRoomEventJoin]
            split
            · exact ConnectToPeer_VideoAudio_signals _ _ _ _
            · rfl
          · exact onVideoRoomEventSdp_signals _ _
          · rw [onVideoRoomEventEvent, onVideoRoomEventUnpublish_signals]
            exact onVideoRoomEventSdp_signals _ _
          · rfl
        · split
          · exact onVideoRoomEventSdp_signals _ _
          · rfl
      · rfl
  all_goals rfl

end

end Conference

/-! ## A run -/

/-- What happens to the client in an event, if it is no signal. -/
def ConferenceInput.input? : ConferenceInput → Option Input
  | .happened i _ _ => some i
  | _ => none

theorem Signal.slot_isSlot (signal : Signal) : signal.slot.isSlot = true := by
  cases signal <;> rfl

/-- The client went through `is`: what happened to it, and among that the slots of the
signals it has taken. -/
structure Replays (env : Env) (c : Conference) (es : List ConferenceInput) (is : List Input) :
    Prop where
  client : c.client = after env is
  happened : is.filter (fun i => !i.isSlot) = es.filterMap ConferenceInput.input?
  slots : is.filter (·.isSlot) = c.signals.received.map Signal.slot

section
variable {env : Env} {parse : Conference.CreateSessionDescription} {c : Conference}
  {es : List ConferenceInput} {is : List Input}

/-- Nothing happened to the client. -/
theorem Replays.apart (replays : Replays env c es is) {c' : Conference} {e : ConferenceInput}
    (client : c'.client = c.client) (received : c'.signals.received = c.signals.received)
    (none : e.input? = none) : Replays env c' (es ++ [e]) is where
  client := client.trans replays.client
  happened := by
    rw [List.filterMap_append, List.filterMap_cons_none none, replays.happened]
    simp
  slots := by rw [received, replays.slots]

theorem report_apart (k : StreamClass) (p : Ptr) (signal : Int → Signal) :
    (c.report k p signal).client = c.client ∧
      (c.report k p signal).signals.received = c.signals.received := by
  rw [Conference.report]
  split
  · split_ifs <;> simp
  · simp

theorem OnSuccess_apart (k : StreamClass) (p : Ptr) (desc : Jsep) :
    (c.OnSuccess k p desc).client = c.client ∧
      (c.OnSuccess k p desc).signals.received = c.signals.received := by
  rw [Conference.OnSuccess]
  split
  · split_ifs <;> simp
  · simp

/-- **One event**: it happens to the client, or the next slot runs, or the client sees
nothing of it. -/
theorem Replays.step (replays : Replays env c es is) (e : ConferenceInput) :
    ∃ is', Replays env (c.step env parse e) (es ++ [e]) is' := by
  cases e with
  | happened i other factory =>
    refine ⟨is ++ [i], ?_, ?_, ?_⟩
    · rw [after_concat, ← replays.client]
      exact Conference.happened_client i
    · simp [List.filter_append, List.filterMap_append, replays.happened, other,
        ConferenceInput.input?]
    · rw [Conference.step, Conference.happened_signals, List.filter_append, replays.slots]
      simp [other]
  | delivered =>
    rw [Conference.step]
    split
    · next signal signals took =>
      obtain ⟨-, received⟩ := Mailbox.take_eq_some took
      refine ⟨is ++ [signal.slot], ?_, ?_, ?_⟩
      · rw [after_concat, ← replays.client]
        rfl
      · simp [List.filter_append, List.filterMap_append, replays.happened, signal.slot_isSlot,
          ConferenceInput.input?]
      · simp [List.filter_append, replays.slots, signal.slot_isSlot, received]
    · exact ⟨is, replays.apart rfl rfl rfl⟩
  | OnSuccess k p desc =>
    obtain ⟨client, received⟩ := OnSuccess_apart (c := c) k p desc
    exact ⟨is, replays.apart client received rfl⟩
  | OnFailure k p => exact ⟨is, replays.apart rfl rfl rfl⟩
  | OnIceCandidate k p candidate =>
    obtain ⟨client, received⟩ := report_apart (c := c) k p (.LocalIceCandidate · candidate)
    exact ⟨is, replays.apart client received rfl⟩
  | OnIceGatheringComplete k p =>
    obtain ⟨client, received⟩ := report_apart (c := c) k p .IceGatheringComplete
    exact ⟨is, replays.apart client received rfl⟩

end

/-- **The client under its streams goes through a run of the client**, in which the slots run
for the first of the signals emitted, in their order. -/
theorem streams_refine (env : Env) (parse : Conference.CreateSessionDescription)
    (es : List ConferenceInput) :
    let c := Machine.run (Conference.step env parse) (Conference.initial env) es
    (∃ is, Replays env c es is) ∧ c.signals.received <+: c.signals.posted := by
  intro c
  refine ⟨?_, Mailbox.received_prefix⟩
  induction es using List.reverseRecOn with
  | nil => exact ⟨[], rfl, rfl, rfl⟩
  | append_singleton es e ih =>
    obtain ⟨is, replays⟩ := ih
    have stepped : c = Conference.step env parse
        (Machine.run (Conference.step env parse) (Conference.initial env) es) e :=
      Machine.run_append _ _ _ _
    rw [stepped]
    exact replays.step e

end WebrtcDemo
