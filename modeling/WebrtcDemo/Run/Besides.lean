import WebrtcDemo.Run.Correlation
import WebrtcDemo.Run.Publishers

/-!
# What does not look at the peers

The stream side neither reads nor writes a peer. So two clients that are the same besides
their peers are still the same besides their peers when the same is done to the streams of
both. The requests that the manager sends for itself, and what is written to its own fields,
are no different.
-/

namespace WebrtcDemo

/-- The same client with other peers. -/
def Client.withPeers (s : Client) (peers : Ptr → Option JanusPeerConnection) : Client :=
  { s with peers := peers }

/-- `t` is `s` besides the peers, which are `peers`. -/
def Besides (peers : Ptr → Option JanusPeerConnection) (s t : Client) : Prop := t = s.withPeers peers

namespace Besides

section
variable {env : Env} {peers : Ptr → Option JanusPeerConnection} {s t : Client}

theorem refl (s : Client) : Besides s.peers s s := rfl

section Fields
variable (same : Besides peers s t)
include same

theorem peers_eq : t.peers = peers := by rw [same]; rfl
theorem janus : t.janus = s.janus := by rw [same]; rfl
theorem conference : t.conference = s.conference := by rw [same]; rfl
theorem constructed : t.constructed = s.constructed := by rw [same]; rfl
theorem videoHeap : t.videoHeap = s.videoHeap := by rw [same]; rfl
theorem videoStreams : t.videoStreams = s.videoStreams := by rw [same]; rfl
theorem dataHeap : t.dataHeap = s.dataHeap := by rw [same]; rfl
theorem dataStreams : t.dataStreams = s.dataStreams := by rw [same]; rfl
theorem draws : t.draws = s.draws := by rw [same]; rfl
theorem log : t.log = s.log := by rw [same]; rfl

theorem listed (room : RoomKind) : t.listed room = s.listed room :=
  Client.listed_of_janus (Besides.janus same) room

/-! ## The small steps -/

theorem emit (e : Effect) : Besides peers (s.emit e) (t.emit e) := by
  rw [same]
  rfl

theorem speak (sender : Option Ptr) (session : Option Int) (request : Request) :
    Besides peers (s.speak env sender session request) (t.speak env sender session request) := by
  rw [same]
  rfl

theorem ask (sender : Option Ptr) (session : Option Int) (request : Request) (kind : ReplyKind)
    (func : Continuation) :
    Besides peers (s.ask env sender session request kind func)
      (t.ask env sender session request kind func) := by
  rw [same]
  cases kind <;> rfl

theorem take (kind : ReplyKind) (tran : String) (func : Continuation) (object : Json) :
    Besides peers (s.take kind tran func object) (t.take kind tran func object) := by
  rw [same]
  cases kind <;> rfl

theorem withConference (conference : ConferenceManager) :
    Besides peers { s with conference := conference } { t with conference := conference } := by
  rw [same]
  rfl

theorem withVideo (table : StreamTable) : Besides peers (s.withVideo table) (t.withVideo table) := by
  rw [same]
  rfl

theorem withData (table : StreamTable) : Besides peers (s.withData table) (t.withData table) := by
  rw [same]
  rfl

theorem withWinds (winds : List (WindowId × Int)) :
    Besides peers (s.withWinds winds) (t.withWinds winds) := by
  rw [same]
  rfl

theorem fail (f : Fault) : Besides peers { s with fault := some f } { t with fault := some f } := by
  rw [same]
  rfl

theorem modifyVideo (p : Ptr) (f : WebrtcStreamVideoAudio → WebrtcStreamVideoAudio) :
    Besides peers (s.modifyVideo p f) (t.modifyVideo p f) := by
  rw [same]
  rfl

theorem modifyData (p : Ptr) (f : WebrtcStreamDataChannels → WebrtcStreamDataChannels) :
    Besides peers (s.modifyData p f) (t.modifyData p f) := by
  rw [same]
  rfl

/-! ## The streams -/

theorem destroyVideo (p : Ptr) (explicit : Bool) :
    Besides peers (s.destroyVideo p explicit) (t.destroyVideo p explicit) := by
  rw [same]
  rfl

theorem destroyData (p : Ptr) (explicit : Bool) :
    Besides peers (s.destroyData p explicit) (t.destroyData p explicit) := by
  rw [same]
  rfl

theorem releaseVideo (p : Ptr) : Besides peers (s.releaseVideo p) (t.releaseVideo p) := by
  rw [Client.releaseVideo, Client.releaseVideo, same.conference]
  split_ifs
  · exact same.destroyVideo p false
  · exact same

theorem releaseData (p : Ptr) : Besides peers (s.releaseData p) (t.releaseData p) := by
  rw [Client.releaseData, Client.releaseData, same.conference]
  split_ifs
  · exact same.destroyData p false
  · exact same

theorem videoHandle (p : Ptr) : t.videoHandle p = s.videoHandle p := by
  rw [Client.videoHandle, same.videoHeap, Client.videoHandle]

theorem dataHandle (p : Ptr) : t.dataHandle p = s.dataHandle p := by
  rw [Client.dataHandle, same.dataHeap, Client.dataHandle]

theorem addStreamInfo_VideoAudio (p : Ptr) :
    Besides peers (ConferenceManager.addStreamInfo_VideoAudio s p)
      (ConferenceManager.addStreamInfo_VideoAudio t p) := by
  unfold ConferenceManager.addStreamInfo_VideoAudio
  dsimp only
  rw [same.conference, same.videoHandle]
  rcases s.conference.mRemoteStreamInfos_VideoAudio.lookup (s.videoHandle p) with _ | info
  · exact same.withConference _
  · exact (same.withConference _).releaseVideo _

theorem addStreamInfo_DataChannels (p : Ptr) :
    Besides peers (ConferenceManager.addStreamInfo_DataChannels s p)
      (ConferenceManager.addStreamInfo_DataChannels t p) := by
  unfold ConferenceManager.addStreamInfo_DataChannels
  dsimp only
  rw [same.conference, same.dataHandle]
  rcases s.conference.mRemoteStreamInfos_DataChannels.lookup (s.dataHandle p) with _ | info
  · exact same.withConference _
  · exact (same.withConference _).releaseData _

theorem showStream (p : Ptr) (h : Int) :
    Besides peers (ConferenceManager.showStream s p h) (ConferenceManager.showStream t p h) := by
  unfold ConferenceManager.showStream
  rw [same.conference]
  rcases ConferenceManager.occupyWindow h s.conference.mRemoteWinds with ⟨winds, _ | given⟩
  · exact same
  · exact (same.modifyVideo p ({ · with mWindowID := some given })).withWinds winds

theorem ConnectToPeer_VideoAudio (h : Int) (show_ isConnect isLocal : Bool) :
    Besides peers (ConferenceManager.ConnectToPeer_VideoAudio s h show_ isConnect isLocal)
      (ConferenceManager.ConnectToPeer_VideoAudio t h show_ isConnect isLocal) := by
  have made : Besides peers
      { s with
        videoHeap := Function.update s.videoHeap s.videoStreams
          (some { mHandleID := h, mIsLocal := isLocal })
        videoStreams := s.videoStreams + 1 }
      { t with
        videoHeap := Function.update s.videoHeap s.videoStreams
          (some { mHandleID := h, mIsLocal := isLocal })
        videoStreams := s.videoStreams + 1 } := by
    rw [same]
    rfl
  unfold ConferenceManager.ConnectToPeer_VideoAudio
  dsimp only
  rw [same.videoHeap, same.videoStreams]
  have added := made.addStreamInfo_VideoAudio s.videoStreams
  split_ifs
  · exact (added.showStream _ h).emit _
  · exact added.emit _
  · exact added.showStream _ h
  · exact added

theorem ConnectToPeer_DataChannels (h : Int) :
    Besides peers (ConferenceManager.ConnectToPeer_DataChannels s h)
      (ConferenceManager.ConnectToPeer_DataChannels t h) := by
  have made : Besides peers
      { s with
        dataHeap := Function.update s.dataHeap s.dataStreams (some { mHandleID := h })
        dataStreams := s.dataStreams + 1 }
      { t with
        dataHeap := Function.update s.dataHeap s.dataStreams (some { mHandleID := h })
        dataStreams := s.dataStreams + 1 } := by
    rw [same]
    rfl
  have appointed :=
    made.withConference { s.conference with LocalStream_DataChannels := some s.dataStreams }
  unfold ConferenceManager.ConnectToPeer_DataChannels
  dsimp only
  rw [same.dataHeap, same.dataStreams, same.conference]
  rcases s.conference.LocalStream_DataChannels with _ | previous
  · exact (appointed.modifyData _ _).addStreamInfo_DataChannels _
  · exact ((appointed.releaseData previous).modifyData _ _).addStreamInfo_DataChannels _

theorem tellVideo (h : Int) (type sdp : String) :
    Besides peers (ConferenceManager.tellVideo s h type sdp)
      (ConferenceManager.tellVideo t h type sdp) := by
  unfold ConferenceManager.tellVideo
  rw [same.conference]
  rcases s.conference.mRemoteStreamInfos_VideoAudio.lookup h with _ | info
  · exact same
  · exact same.emit _

theorem tellData (h : Int) (type sdp : String) :
    Besides peers (ConferenceManager.tellData s h type sdp)
      (ConferenceManager.tellData t h type sdp) := by
  unfold ConferenceManager.tellData
  rw [same.conference]
  rcases s.conference.mRemoteStreamInfos_DataChannels.lookup h with _ | info
  · exact same
  · exact (same.modifyData _ _).emit _

theorem onRetmoeSDP (h : Int) (type sdp : String) (isTextRoom : Bool) :
    Besides peers (ConferenceManager.onRetmoeSDP s h type sdp isTextRoom)
      (ConferenceManager.onRetmoeSDP t h type sdp isTextRoom) := by
  cases isTextRoom
  · rw [ConferenceManager.onRetmoeSDP_video, ConferenceManager.onRetmoeSDP_video, same.conference]
    split_ifs
    · exact (same.ConnectToPeer_VideoAudio _ _ _ _).tellVideo _ _ _
    · exact same.tellVideo _ _ _
  · rw [ConferenceManager.onRetmoeSDP_text, ConferenceManager.onRetmoeSDP_text, same.conference]
    split_ifs
    · exact (same.ConnectToPeer_DataChannels _).tellData _ _ _
    · exact same.tellData _ _ _

theorem removeVideo (h : Int) :
    Besides peers (ConferenceManager.removeVideo s h) (ConferenceManager.removeVideo t h) := by
  unfold ConferenceManager.removeVideo
  rw [same.conference]
  rcases s.conference.mRemoteStreamInfos_VideoAudio.lookup h with _ | info
  · exact same
  · have gone := same.modifyVideo info.stream ({ · with mHandleID := -1 })
    dsimp only
    rw [gone.conference]
    exact (gone.withVideo _).releaseVideo _

theorem removeData (h : Int) :
    Besides peers (ConferenceManager.removeData s h) (ConferenceManager.removeData t h) := by
  unfold ConferenceManager.removeData
  rw [same.conference]
  rcases s.conference.mRemoteStreamInfos_DataChannels.lookup h with _ | info
  · exact same
  · have gone := same.modifyData info.stream ({ · with mHandleID := -1 })
    dsimp only
    rw [gone.conference]
    exact (gone.withData _).releaseData _

theorem onRemoteStreamRemove (h : Int) :
    Besides peers (ConferenceManager.onRemoteStreamRemove s h)
      (ConferenceManager.onRemoteStreamRemove t h) := by
  have freed : Besides peers (ConferenceManager.unoccupy (ConferenceManager.removeVideo s h) h)
      (ConferenceManager.unoccupy (ConferenceManager.removeVideo t h) h) := by
    rw [same.removeVideo h]
    rfl
  rw [ConferenceManager.onRemoteStreamRemove_eq, ConferenceManager.onRemoteStreamRemove_eq]
  exact freed.removeData h

theorem deleteStreams (entries : List (Sigma fun _ : Int => RemoteStreamInfo)) :
    Besides peers (ConferenceManager.deleteStreams s entries)
      (ConferenceManager.deleteStreams t entries) := by
  induction entries generalizing s t with
  | nil => exact same
  | cons entry more ih => exact ih (same.destroyVideo _ true)

theorem LeaveVideoRoom :
    Besides peers (ConferenceManager.LeaveVideoRoom s) (ConferenceManager.LeaveVideoRoom t) := by
  unfold ConferenceManager.LeaveVideoRoom
  dsimp only
  rw [same.conference]
  have deleted := (same.withConference { s.conference with
    mRemoteWinds := s.conference.mRemoteWinds.map fun wind => (wind.1, 0) }).deleteStreams
      s.conference.mRemoteStreamInfos_VideoAudio.entries
  rw [deleted]
  rfl

/-! ## Events and data channels -/

theorem onVideoRoomEventSdp (object : Json) (isTextRoom : Bool) :
    Besides peers (JanusVideoRoomManager.onVideoRoomEventSdp s object isTextRoom)
      (JanusVideoRoomManager.onVideoRoomEventSdp t object isTextRoom) := by
  unfold JanusVideoRoomManager.onVideoRoomEventSdp
  dsimp only
  split_ifs
  · exact (same.emit _).onRetmoeSDP _ _ _ _
  · exact same

theorem SendDataViaDataChannel (p : Ptr) (m : DataMessage) :
    Besides peers (WebrtcStreamDataChannels.SendDataViaDataChannel s p m)
      (WebrtcStreamDataChannels.SendDataViaDataChannel t p m) := by
  unfold WebrtcStreamDataChannels.SendDataViaDataChannel
  rw [congrFun same.dataHeap p]
  rcases s.dataHeap p with _ | x
  · exact same.fail _
  · dsimp only
    split_ifs
    · exact same.emit _
    · exact same

theorem drawn : Besides peers s.drawn t.drawn := by
  rw [same]
  rfl

theorem SendMessage (text : String) :
    Besides peers (WebRTCInterface.SendMessage env s text) (WebRTCInterface.SendMessage env t text) := by
  have stream : t.drawn.conference.LocalStream_DataChannels =
      s.drawn.conference.LocalStream_DataChannels := by
    rw [same.drawn.conference]
  have room : t.drawn.conference.mTextRoomID = s.drawn.conference.mTextRoomID := by
    rw [same.drawn.conference]
  unfold WebRTCInterface.SendMessage
  dsimp only
  rw [same.draws, stream, room]
  rcases s.drawn.conference.LocalStream_DataChannels with _ | p
  · exact same.drawn.fail _
  · exact same.drawn.SendDataViaDataChannel p _

theorem OnStateChange (p : Ptr) :
    Besides peers (WebrtcStreamDataChannels.OnStateChange env s p)
      (WebrtcStreamDataChannels.OnStateChange env t p) := by
  unfold WebrtcStreamDataChannels.OnStateChange
  rw [congrFun same.dataHeap p]
  rcases s.dataHeap p with _ | x
  · exact same.fail _
  · dsimp only
    split_ifs
    · have message : ConferenceManager.onSendLocalInfoWhenOpenDataChannel env t =
          ConferenceManager.onSendLocalInfoWhenOpenDataChannel env s := by
        rw [same]
        rfl
      rw [message]
      exact (same.drawn.drawn.SendDataViaDataChannel p _).modifyData p _
    · exact same

end Fields

end

end Besides

end WebrtcDemo
