import WebrtcDemo.Client.Interface

/-!
# Logout

The end of a client: `Logout` deletes the conference manager, whose destructor deletes
the manager of the peers and then what is left of the streams. Streams of the tables and
the local data-channel stream are taken from their references and deleted by name.
-/

namespace WebrtcDemo

/-- `~JanusVideoRoomManager`: the two lists, then the two administrative peers. -/
def JanusVideoRoomManager.destructor (s : Client) : Client :=
  let s := deletePeers s s.janus.mVideoRoomPeerList
  let s := { s with janus := { s.janus with mVideoRoomPeerList := [] } }
  let s := deletePeers s s.janus.mTextRoomPeerList
  let s := { s with janus := { s.janus with mTextRoomPeerList := [] } }
  let s := deletePeers s s.janus.pCreateVideoRoomPeer.toList
  let s := { s with janus := { s.janus with pCreateVideoRoomPeer := none } }
  let s := deletePeers s s.janus.pCreateTextRoomPeer.toList
  { s with
    janus := { s.janus with
      pCreateTextRoomPeer := none
      mMessage_success_callback := ∅
      mMessage_ack_callback := ∅ } }

namespace ConferenceManager

/-- Close the channels of the entries and delete their streams by name. -/
def deleteChannels (s : Client) : List (Sigma fun _ : Int => RemoteStreamInfo) → Client
  | [] => s
  | entry :: more => deleteChannels (s.destroyData entry.2.stream true) more

/-- `~ConferenceManager`. To delete a null pointer does nothing. -/
def destructor (s : Client) : Client :=
  let s := JanusVideoRoomManager.destructor s
  let s := deleteStreams s s.conference.mRemoteStreamInfos_VideoAudio.entries
  let s := { s with conference := { s.conference with mRemoteStreamInfos_VideoAudio := ∅ } }
  let s := deleteChannels s s.conference.mRemoteStreamInfos_DataChannels.entries
  let s := { s with conference := { s.conference with mRemoteStreamInfos_DataChannels := ∅ } }
  let s := { s with conference := { s.conference with mRemoteWinds := [] } }
  match s.conference.LocalStream_DataChannels with
  | some stream =>
    let s := { s with conference := { s.conference with LocalStream_DataChannels := none } }
    s.destroyData stream true
  | none => s

end ConferenceManager

def WebRTCInterface.Logout (s : Client) : Client := ConferenceManager.destructor s

end WebrtcDemo
