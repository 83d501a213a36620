import WebrtcDemo.Run.Halves

/-!
# What the stream side leaves alone

The stream tables, the windows and the data channels change often; the manager,
its peers and its requests do not see it. `Quiet` says so of a piece of a step.
The one thing it lets through is a handle: local descriptions and candidates are
addressed by what the stream side holds (`Addressed`), and a quiet piece holds
no handle it did not hold before, unless the event it handles names it. The same
goes for the keys of the video table by themselves (`streams`).
-/

namespace WebrtcDemo

/-! ## Reading an input -/

namespace Input

/-- The input is a reply of this kind to the transaction `t`. -/
def Answers (i : Input) (kind : ReplyKind) (t : String) (object : Json) : Prop :=
  i = .receivedMessage (some object) ∧ object.text "janus" = kind.tag ∧
    object.text "transaction" = t

/-- The input is an event, with this object. -/
def Reports (i : Input) (object : Json) : Prop :=
  i = .receivedMessage (some object) ∧ object.text "janus" = "event"

/-- The input is an event from the handle `h`. -/
def Names (i : Input) (h : Int) : Prop :=
  ∃ object, i.Reports object ∧ JsonValueToLongLong object "sender" = h

/-- The input is an event that lists the feed `id` in its `publishers`. -/
def Announces (i : Input) (id : Int) : Prop :=
  ∃ object, i.Reports object ∧ id ∈ JanusVideoRoomManager.publisherIds object

/-- The input is an event whose `unpublished` is `id`. -/
def Unpublishes (i : Input) (id : Int) : Prop :=
  ∃ object, i.Reports object ∧
    JsonValueToLongLong (JanusVideoRoomManager.dataObj object) "unpublished" = id

end Input

/-- The effects that say nothing of requests and replies, the reply to a keepalive included. -/
def Effect.isQuiet : Effect → Bool
  | .sent _ _ | .registered _ _ _ | .invoked _ _ _ _ | .resetTimer => false
  | _ => true

/-- What a local description or candidate may be addressed to: a key of a stream
table, the handle of a stream, or the -1 a deleted stream leaves. -/
def Client.Addressed (s : Client) (h : Int) : Prop :=
  h ∈ s.conference.mRemoteStreamInfos_VideoAudio ∨
    h ∈ s.conference.mRemoteStreamInfos_DataChannels ∨
    (∃ p, s.videoHandle p = h) ∨ (∃ p, s.dataHandle p = h) ∨ h = -1

/-- The keys of the video table. -/
def Client.streams (s : Client) : Set Int := {h | h ∈ s.conference.mRemoteStreamInfos_VideoAudio}

section
variable {s : Client} {p : Ptr}

theorem Client.addressed_stream {h : Int} (stream : h ∈ s.streams) : s.Addressed h := Or.inl stream

theorem Client.addressed_video {x : WebrtcStreamVideoAudio} (stream : s.videoHeap p = some x) :
    s.Addressed x.mHandleID :=
  Or.inr (Or.inr (Or.inl ⟨p, by simp [Client.videoHandle, stream]⟩))

theorem Client.addressed_data {x : WebrtcStreamDataChannels} (stream : s.dataHeap p = some x) :
    s.Addressed x.mHandleID :=
  Or.inr (Or.inr (Or.inr (Or.inl ⟨p, by simp [Client.dataHandle, stream]⟩)))

theorem Client.addressed_deleted : s.Addressed (-1) := by simp [Client.Addressed]

end

/-- Nothing happened to the manager, its peers and its requests. -/
structure Quiet (i : Input) (s s' : Client) : Prop where
  janus : s'.janus = s.janus
  peers : s'.peers = s.peers
  constructed : s'.constructed = s.constructed
  draws : s'.draws = s.draws
  log : ∃ effects, s'.log = s.log ++ effects ∧ ∀ e ∈ effects, e.isQuiet
  fault : ∀ p, s'.fault = some (.deadPeer p) → s.fault = some (.deadPeer p)
  addressed : ∀ h, s'.Addressed h → s.Addressed h ∨ i.Names h
  streams : ∀ h ∈ s'.streams, h ∈ s.streams ∨ i.Names h

namespace Quiet

variable {i : Input} {s s' s'' : Client}

theorem refl (i : Input) (s : Client) : Quiet i s s :=
  ⟨rfl, rfl, rfl, rfl, ⟨[], by simp, by simp⟩, fun _ same => same, fun _ => Or.inl,
    fun _ => Or.inl⟩

theorem trans (first : Quiet i s s') (second : Quiet i s' s'') : Quiet i s s'' := by
  obtain ⟨es, wrote, quiet⟩ := first.log
  obtain ⟨es', wrote', quiet'⟩ := second.log
  refine ⟨second.janus.trans first.janus, second.peers.trans first.peers,
    second.constructed.trans first.constructed, second.draws.trans first.draws,
    ⟨es ++ es', by simp [wrote, wrote'], ?_⟩, fun p dead => first.fault p (second.fault p dead), ?_, ?_⟩
  · intro e member
    rcases List.mem_append.1 member with early | late
    · exact quiet e early
    · exact quiet' e late
  · intro h addressed
    rcases second.addressed h addressed with before | named
    · exact first.addressed h before
    · exact Or.inr named
  · intro h stream
    rcases second.streams h stream with before | named
    · exact first.streams h before
    · exact Or.inr named

theorem listed (same : Quiet i s s') (room : RoomKind) : s'.listed room = s.listed room :=
  Client.listed_of_janus same.janus room

theorem admin (same : Quiet i s s') (room : RoomKind) : s'.admin room = s.admin room :=
  Client.admin_of_janus same.janus room

theorem pending (same : Quiet i s s') : s'.pending = s.pending :=
  Client.pending_of_janus same.janus

/-! ## The small steps of the stream side -/

theorem emit (i : Input) (s : Client) (e : Effect) (quiet : e.isQuiet) : Quiet i s (s.emit e) :=
  ⟨rfl, rfl, rfl, rfl, ⟨[e], rfl, by simpa using quiet⟩, fun _ same => same, fun _ => Or.inl,
    fun _ => Or.inl⟩

theorem fail (i : Input) (s : Client) (f : Fault) (other : ∀ p, f ≠ .deadPeer p) :
    Quiet i s { s with fault := some f } :=
  ⟨rfl, rfl, rfl, rfl, ⟨[], by simp, by simp⟩,
    fun p dead => absurd (Option.some.inj dead) (other p), fun _ => Or.inl, fun _ => Or.inl⟩

/-- The conference manager changed, and its tables gained no key from nowhere. -/
theorem conference {c : ConferenceManager}
    (video : ∀ h, h ∈ c.mRemoteStreamInfos_VideoAudio → h ∈ s.streams ∨ i.Names h)
    (data : ∀ h, h ∈ c.mRemoteStreamInfos_DataChannels → s.Addressed h ∨ i.Names h) :
    Quiet i s { s with conference := c } := by
  refine ⟨rfl, rfl, rfl, rfl, ⟨[], by simp, by simp⟩, fun _ same => same, ?_, video⟩
  rintro h (stream | channel | handle)
  · exact (video h stream).imp_left Client.addressed_stream
  · exact data h channel
  · exact Or.inl (Or.inr (Or.inr handle))

/-- The same when the tables are what they were. -/
theorem conference_same {c : ConferenceManager}
    (video : c.mRemoteStreamInfos_VideoAudio = s.conference.mRemoteStreamInfos_VideoAudio)
    (data : c.mRemoteStreamInfos_DataChannels = s.conference.mRemoteStreamInfos_DataChannels) :
    Quiet i s { s with conference := c } := by
  refine conference (fun h member => Or.inl ?_) fun h member => Or.inl (Or.inr (Or.inl ?_))
  · rwa [video] at member
  · rwa [data] at member

/-- The video streams changed, and none gained a handle from nowhere. -/
theorem videoHeap {heap : Ptr → Option WebrtcStreamVideoAudio} (count : Nat)
    (handles : ∀ p x, heap p = some x → s.Addressed x.mHandleID ∨ i.Names x.mHandleID) :
    Quiet i s { s with videoHeap := heap, videoStreams := count } := by
  refine ⟨rfl, rfl, rfl, rfl, ⟨[], by simp, by simp⟩, fun _ same => same, ?_, fun _ => Or.inl⟩
  rintro h (video | data | ⟨p, rfl⟩ | handle)
  · exact Or.inl (Or.inl video)
  · exact Or.inl (Or.inr (Or.inl data))
  · simp only [Client.videoHandle]
    rcases stream : heap p with _ | x
    · exact Or.inl (by simp [Client.Addressed])
    · exact handles p x stream
  · exact Or.inl (Or.inr (Or.inr (Or.inr handle)))

theorem dataHeap {heap : Ptr → Option WebrtcStreamDataChannels} (count : Nat)
    (handles : ∀ p x, heap p = some x → s.Addressed x.mHandleID ∨ i.Names x.mHandleID) :
    Quiet i s { s with dataHeap := heap, dataStreams := count } := by
  refine ⟨rfl, rfl, rfl, rfl, ⟨[], by simp, by simp⟩, fun _ same => same, ?_, fun _ => Or.inl⟩
  rintro h (video | data | handle | ⟨p, rfl⟩ | dead)
  · exact Or.inl (Or.inl video)
  · exact Or.inl (Or.inr (Or.inl data))
  · exact Or.inl (Or.inr (Or.inr (Or.inl handle)))
  · simp only [Client.dataHandle]
    rcases stream : heap p with _ | x
    · exact Or.inl (by simp [Client.Addressed])
    · exact handles p x stream
  · exact Or.inl (Or.inr (Or.inr (Or.inr (Or.inr dead))))

/-! ## Streams -/

section
variable (i s)

theorem destroyVideo (p : Ptr) (explicit : Bool) : Quiet i s (s.destroyVideo p explicit) := by
  refine trans (videoHeap s.videoStreams ?_)
    (emit i { s with videoHeap := Function.update s.videoHeap p none }
      (.streamDestroyed false p explicit) rfl)
  intro q x stream
  rcases eq_or_ne q p with rfl | other
  · simp at stream
  · rw [Function.update_of_ne other] at stream
    exact Or.inl (Client.addressed_video stream)

theorem destroyData (p : Ptr) (explicit : Bool) : Quiet i s (s.destroyData p explicit) := by
  refine trans (dataHeap s.dataStreams ?_)
    (emit i { s with dataHeap := Function.update s.dataHeap p none }
      (.streamDestroyed true p explicit) rfl)
  intro q x stream
  rcases eq_or_ne q p with rfl | other
  · simp at stream
  · rw [Function.update_of_ne other] at stream
    exact Or.inl (Client.addressed_data stream)

theorem releaseVideo (p : Ptr) : Quiet i s (s.releaseVideo p) := by
  rw [Client.releaseVideo]
  split_ifs
  · exact destroyVideo i s p false
  · exact refl i s

theorem releaseData (p : Ptr) : Quiet i s (s.releaseData p) := by
  rw [Client.releaseData]
  split_ifs
  · exact destroyData i s p false
  · exact refl i s

variable {i s}

/-- After the object `p` has changed, an object is as it was or is that one. -/
theorem of_update_map {α : Type*} {heap : Ptr → Option α} {p q : Ptr} {f : α → α} {x : α}
    (there : Function.update heap p ((heap p).map f) q = some x) :
    heap q = some x ∨ ∃ old, heap q = some old ∧ f old = x := by
  rcases eq_or_ne q p with rfl | other
  · rw [Function.update_self] at there
    exact Or.inr (Option.map_eq_some_iff.1 there)
  · rw [Function.update_of_ne other] at there
    exact Or.inl there

/-- The fields of a stream changed, its handle at most to the -1 of a deleted stream. -/
theorem modifyVideo {p : Ptr} {f : WebrtcStreamVideoAudio → WebrtcStreamVideoAudio}
    (handle : ∀ x, (f x).mHandleID = x.mHandleID ∨ (f x).mHandleID = -1) :
    Quiet i s (s.modifyVideo p f) := by
  refine videoHeap s.videoStreams fun q x stream => Or.inl ?_
  rcases of_update_map stream with before | ⟨old, before, rfl⟩
  · exact Client.addressed_video before
  · rcases handle old with same | deleted
    · rw [same]
      exact Client.addressed_video before
    · rw [deleted]
      exact Client.addressed_deleted

theorem modifyData {p : Ptr} {f : WebrtcStreamDataChannels → WebrtcStreamDataChannels}
    (handle : ∀ x, (f x).mHandleID = x.mHandleID ∨ (f x).mHandleID = -1) :
    Quiet i s (s.modifyData p f) := by
  refine dataHeap s.dataStreams fun q x stream => Or.inl ?_
  rcases of_update_map stream with before | ⟨old, before, rfl⟩
  · exact Client.addressed_data before
  · rcases handle old with same | deleted
    · rw [same]
      exact Client.addressed_data before
    · rw [deleted]
      exact Client.addressed_deleted

/-- A table gains an entry under a handle that is named or was there. -/
theorem insertVideo {id : Int} (info : RemoteStreamInfo) (known : id ∈ s.streams ∨ i.Names id) :
    Quiet i s { s with
      conference := { s.conference with
        mRemoteStreamInfos_VideoAudio :=
          s.conference.mRemoteStreamInfos_VideoAudio.insert id info } } := by
  refine conference (fun h video => ?_) fun h data => Or.inl (Or.inr (Or.inl data))
  rcases (AList.mem_insert _).1 video with rfl | before
  · exact known
  · exact Or.inl before

theorem insertData {id : Int} (info : RemoteStreamInfo) (known : s.Addressed id ∨ i.Names id) :
    Quiet i s { s with
      conference := { s.conference with
        mRemoteStreamInfos_DataChannels :=
          s.conference.mRemoteStreamInfos_DataChannels.insert id info } } := by
  refine conference (fun h video => Or.inl video) fun h data => ?_
  rcases (AList.mem_insert _).1 data with rfl | before
  · exact known
  · exact Or.inl (Or.inr (Or.inl before))

/-- A new stream under a handle that the event names. -/
theorem newVideo {id : Int} (isLocal : Bool) (named : i.Names id) :
    Quiet i s { s with
      videoHeap := Function.update s.videoHeap s.videoStreams
        (some { mHandleID := id, mIsLocal := isLocal })
      videoStreams := s.videoStreams + 1 } := by
  refine videoHeap _ fun q x stream => ?_
  rcases eq_or_ne q s.videoStreams with rfl | other
  · obtain rfl : _ = x := by simpa using stream
    exact Or.inr named
  · rw [Function.update_of_ne other] at stream
    exact Or.inl (Client.addressed_video stream)

theorem newData {id : Int} (named : i.Names id) :
    Quiet i s { s with
      dataHeap := Function.update s.dataHeap s.dataStreams (some { mHandleID := id })
      dataStreams := s.dataStreams + 1 } := by
  refine dataHeap _ fun q x stream => ?_
  rcases eq_or_ne q s.dataStreams with rfl | other
  · obtain rfl : _ = x := by simpa using stream
    exact Or.inr named
  · rw [Function.update_of_ne other] at stream
    exact Or.inl (Client.addressed_data stream)

end

theorem videoHandle_addressed (p : Ptr) : s.Addressed (s.videoHandle p) :=
  Or.inr (Or.inr (Or.inl ⟨p, rfl⟩))

theorem dataHandle_addressed (p : Ptr) : s.Addressed (s.dataHandle p) :=
  Or.inr (Or.inr (Or.inr (Or.inl ⟨p, rfl⟩)))

/-! ## The member functions of the conference manager -/

section
open ConferenceManager

theorem addStreamInfo_VideoAudio {p : Ptr} (named : i.Names (s.videoHandle p)) :
    Quiet i s (addStreamInfo_VideoAudio s p) := by
  rw [ConferenceManager.addStreamInfo_VideoAudio]
  have inserted := insertVideo (s := s) (newInfo p) (Or.inr named)
  split
  · exact inserted.trans (releaseVideo i _ _)
  · exact inserted

theorem addStreamInfo_DataChannels (i : Input) (s : Client) (p : Ptr) :
    Quiet i s (addStreamInfo_DataChannels s p) := by
  rw [ConferenceManager.addStreamInfo_DataChannels]
  have inserted := insertData (i := i) (newInfo p) (Or.inl (dataHandle_addressed (s := s) p))
  split
  · exact inserted.trans (releaseData i _ _)
  · exact inserted

theorem showStream (i : Input) (s : Client) (p : Ptr) (id : Int) :
    Quiet i s (showStream s p id) := by
  rw [ConferenceManager.showStream]
  split
  · next winds given _ =>
    exact (modifyVideo (p := p) (f := ({ · with mWindowID := some given })) fun _ =>
      Or.inl rfl).trans (conference_same rfl rfl)
  · exact refl i s

theorem ConnectToPeer_VideoAudio {id : Int} (named : i.Names id) (show_ isConnect isLocal : Bool) :
    Quiet i s (ConnectToPeer_VideoAudio s id show_ isConnect isLocal) := by
  rw [ConferenceManager.ConnectToPeer_VideoAudio]
  have listed := (newVideo (s := s) isLocal named).trans
    (addStreamInfo_VideoAudio (p := s.videoStreams) (by simpa [Client.videoHandle] using named))
  cases show_ <;> cases isConnect
  · exact listed
  · exact listed.trans (emit i _ _ rfl)
  · exact listed.trans (showStream i _ _ _)
  · exact (listed.trans (showStream i _ _ _)).trans (emit i _ _ rfl)

theorem ConnectToPeer_DataChannels {id : Int} (named : i.Names id) :
    Quiet i s (ConnectToPeer_DataChannels s id) := by
  rw [ConferenceManager.ConnectToPeer_DataChannels]
  have appointed := (newData (s := s) named).trans
    (conference_same (c := { s.conference with LocalStream_DataChannels := some s.dataStreams })
      rfl rfl)
  have opened : ∀ t, Quiet i s t → Quiet i s (ConferenceManager.addStreamInfo_DataChannels
      (t.modifyData s.dataStreams ({ · with OnSendLocalInfoWhenOpenDataChannel := true }))
      s.dataStreams) := fun t before =>
    (before.trans (modifyData (p := s.dataStreams)
      (f := ({ · with OnSendLocalInfoWhenOpenDataChannel := true })) fun _ => Or.inl rfl)).trans
      (addStreamInfo_DataChannels i _ _)
  dsimp only
  split
  · exact opened _ (appointed.trans (releaseData i _ _))
  · exact opened _ appointed

theorem setPeerSDP_DataChannels (i : Input) (s : Client) (p : Ptr) (type sdp : String) :
    Quiet i s (setPeerSDP_DataChannels s p type sdp) :=
  (modifyData (p := p) (f := ({ · with mDataChannel := true })) fun _ => Or.inl rfl).trans
    (emit i _ _ rfl)

theorem tellVideo (i : Input) (s : Client) (id : Int) (type sdp : String) :
    Quiet i s (tellVideo s id type sdp) := by
  unfold ConferenceManager.tellVideo
  split
  · exact emit i _ _ rfl
  · exact refl i s

theorem tellData (i : Input) (s : Client) (id : Int) (type sdp : String) :
    Quiet i s (tellData s id type sdp) := by
  unfold ConferenceManager.tellData
  split
  · exact setPeerSDP_DataChannels i _ _ _ _
  · exact refl i s

theorem onRetmoeSDP {id : Int} (named : i.Names id) (type sdp : String) (isTextRoom : Bool) :
    Quiet i s (onRetmoeSDP s id type sdp isTextRoom) := by
  cases isTextRoom
  · rw [onRetmoeSDP_video]
    refine trans ?_ (tellVideo i _ _ _ _)
    split_ifs
    · exact ConnectToPeer_VideoAudio named _ _ _
    · exact refl i s
  · rw [onRetmoeSDP_text]
    refine trans ?_ (tellData i _ _ _ _)
    split_ifs
    · exact ConnectToPeer_DataChannels named
    · exact refl i s

theorem removeVideo (i : Input) (s : Client) (id : Int) : Quiet i s (removeVideo s id) := by
  unfold ConferenceManager.removeVideo
  split
  · exact refl i s
  · next info _ =>
    have deleted : Quiet i s (s.modifyVideo info.stream ({ · with mHandleID := -1 })) :=
      modifyVideo fun _ => Or.inr rfl
    refine (deleted.trans (conference ?_ ?_)).trans (releaseVideo i _ _)
    · exact fun h video => Or.inl (AList.mem_erase.1 video).2
    · exact fun h data => Or.inl (Or.inr (Or.inl data))

theorem removeData (i : Input) (s : Client) (id : Int) : Quiet i s (removeData s id) := by
  unfold ConferenceManager.removeData
  split
  · exact refl i s
  · next info _ =>
    have deleted : Quiet i s (s.modifyData info.stream ({ · with mHandleID := -1 })) :=
      modifyData fun _ => Or.inr rfl
    refine (deleted.trans (conference ?_ ?_)).trans (releaseData i _ _)
    · exact fun h video => Or.inl video
    · exact fun h data => Or.inl (Or.inr (Or.inl (AList.mem_erase.1 data).2))

theorem onRemoteStreamRemove (i : Input) (s : Client) (id : Int) :
    Quiet i s (onRemoteStreamRemove s id) := by
  have freed (t : Client) : Quiet i t (unoccupy t id) := conference_same rfl rfl
  rw [onRemoteStreamRemove_eq]
  exact ((removeVideo i s id).trans (freed _)).trans (removeData i _ id)

theorem deleteStreams (i : Input) (s : Client)
    (entries : List (Sigma fun _ : Int => RemoteStreamInfo)) :
    Quiet i s (deleteStreams s entries) := by
  induction entries generalizing s with
  | nil => exact refl i s
  | cons entry more ih => exact (destroyVideo i s _ true).trans (ih _)

theorem SetTextRoomIDAndDisplayName (i : Input) (s : Client) (roomId : Int32) (name : String) :
    Quiet i s (SetTextRoomIDAndDisplayName s roomId name) :=
  conference_same rfl rfl

theorem LeaveVideoRoom (i : Input) (s : Client) : Quiet i s (LeaveVideoRoom s) := by
  rw [ConferenceManager.LeaveVideoRoom]
  refine Quiet.trans ?_ (conference (fun h video => ?_) fun h data => Or.inl (Or.inr (Or.inl data)))
  · exact (conference_same (c := { s.conference with
      mRemoteWinds := s.conference.mRemoteWinds.map fun wind => (wind.1, 0) }) rfl rfl).trans
      (deleteStreams i _ _)
  · simp at video

end

/-! ## Events, data channels and outcomes -/

theorem OnConnectToPeer {id : Int} (named : i.Names id) (show_ isConnect isLocal : Bool) :
    Quiet i s (JanusVideoRoomManager.OnConnectToPeer s id show_ isConnect isLocal) :=
  (emit i s _ rfl).trans (ConnectToPeer_VideoAudio named _ _ _)

theorem OnRemoteSdp {id : Int} (named : i.Names id) (type sdp : String) (isTextRoom : Bool) :
    Quiet i s (JanusVideoRoomManager.OnRemoteSdp s id type sdp isTextRoom) :=
  (emit i s _ rfl).trans (onRetmoeSDP named _ _ _)

theorem OnRemoteStreamRemove (i : Input) (s : Client) (id : Int) :
    Quiet i s (JanusVideoRoomManager.OnRemoteStreamRemove s id) :=
  (emit i s _ rfl).trans (onRemoteStreamRemove i _ _)

theorem SendDataViaDataChannel (i : Input) (s : Client) (p : Ptr) (m : DataMessage) :
    Quiet i s (WebrtcStreamDataChannels.SendDataViaDataChannel s p m) := by
  rw [WebrtcStreamDataChannels.SendDataViaDataChannel]
  split
  · split_ifs
    · exact emit i s _ rfl
    · exact refl i s
  · exact fail i s _ (by simp)

theorem callRoomCallback (i : Input) (s : Client) (callback : Option RoomCallback)
    (roomId : UInt32) : Quiet i s (JanusPeerConnection.callRoomCallback s callback roomId) := by
  cases callback <;> exact emit i s _ rfl

/-- Reading an outcome at most calls the user's callback. -/
theorem callMember_outcome (env : Env) (i : Input) {p : Ptr} {x : JanusPeerConnection}
    (alive : s.peers p = some x) (object : Json) {member : PeerMember} (reads : member.isOutcome) :
    Quiet i s (JanusPeerConnection.callMember env s p object member) := by
  have outcome (key failureTag successTag : String) (requested : JanusPeerConnection → UInt32)
      (failed tested called : JanusPeerConnection → Option RoomCallback) :
      Quiet i s (JanusPeerConnection.roomOutcome s p object key failureTag successTag requested
        failed tested called) := by
    rw [JanusPeerConnection.roomOutcome, Client.withPeer_live alive]
    dsimp only
    split_ifs
    all_goals first | exact callRoomCallback i s _ _ | exact refl i s
  cases member <;> first | exact absurd reads (by decide) | exact outcome _ _ _ _ _ _ _

end Quiet

end WebrtcDemo
