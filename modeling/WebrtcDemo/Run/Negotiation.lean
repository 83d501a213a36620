import WebrtcDemo.Run.Connections
import WebrtcDemo.Run.Descriptions
import WebrtcDemo.Run.Signals

/-!
# Who a description is sent to

As long as no operation meets a null connection, a stream that a table lists goes by the
key of its entry, and makes descriptions only after an event that names it asked for them:
`joined`, for an offer, or an offer, for an answer. So a description leaves on the handle
of the stream that made it, and only where it was asked for, and a candidate leaves on the
handle of a stream that an event had opened.
-/

namespace WebrtcDemo

open JanusVideoRoomManager (construct newPeer registerRoomCallbacks)

/-! ## One stream -/

namespace PeerStream

/-- What the stream signals was asked of it: its descriptions under a handle that was
`invited`, its candidates under one that is `known`. -/
structure Bidden (invited known : Int → Prop) (x : PeerStream) : Prop where
  sent : ∀ entry ∈ x.LocalSDP, invited entry.1
  asked : 0 < x.descriptions → x.mPeerConnection = true → invited x.mHandleID
  connected : x.mPeerConnection = true → known x.mHandleID

/-- The stream goes by `h`, and has asked for nothing while it had no connection. -/
structure Stands (h : Int) (x : PeerStream) : Prop where
  handle : x.mHandleID = h
  fresh : x.mPeerConnection = false → x.descriptions = 0

/-- The stream has its connection now, and is otherwise what it was. -/
structure Opened (x x' : PeerStream) : Prop where
  fine : x.NoNullCall
  handle : x'.mHandleID = x.mHandleID
  sent : x'.LocalSDP = x.LocalSDP
  present : x'.mPeerConnection = true

section
variable {invited known : Int → Prop} {x x' : PeerStream} {h : Int} {factory : Factory}
  {d : Option SdpType}

theorem Opened.stands (opened : x.Opened x') (stands : x.Stands h) : x'.Stands h where
  handle := opened.handle.trans stands.handle
  fresh absent := by simp [opened.present] at absent

theorem Opened.bidden (opened : x.Opened x') (bidden : x.Bidden invited known)
    (knows : known x.mHandleID) (invites : 0 < x'.descriptions → invited x.mHandleID) :
    x'.Bidden invited known where
  sent := by
    rw [opened.sent]
    exact bidden.sent
  asked pending _ := opened.handle ▸ invites pending
  connected _ := opened.handle ▸ knows

theorem ensure_opened (fine : (x.ensurePeerConnection factory).1.NoNullCall) :
    x.Opened (x.ensurePeerConnection factory).1 ∧
      (x.ensurePeerConnection factory).1.descriptions = x.descriptions := by
  obtain ⟨before, makes⟩ := (ensurePeerConnection_noNullCall factory).1 fine
  rw [ensurePeerConnection]
  split_ifs with present
  · exact ⟨⟨before, rfl, rfl, present⟩, rfl⟩
  · have made : factory.connection = true := makes (by simpa using present)
    rw [initializePeerConnection_eq]
    exact ⟨⟨before, by simp [made], rfl, made⟩, rfl⟩

theorem ConnectToPeer_opened (fine : (x.ConnectToPeer factory).NoNullCall) :
    x.Opened (x.ConnectToPeer factory) := by
  rcases x.mPeerConnection.eq_false_or_eq_true with present | absent
  · have same : x.ConnectToPeer factory = x := if_pos present
    rw [same] at fine ⊢
    exact ⟨fine, rfl, rfl, present⟩
  · obtain ⟨before, made⟩ := (ConnectToPeer_noNullCall absent factory).1 fine
    rw [ConnectToPeer, if_neg (by simp [absent]), initializePeerConnection_eq]
    simp only [made, if_true]
    exact ⟨before, rfl, rfl, rfl⟩

/-- A description asks for an answer only if it is an offer. -/
theorem SetPeerSDP_opened (fine : (x.SetPeerSDP factory d).1.NoNullCall) :
    x.Opened (x.SetPeerSDP factory d).1 ∧
      (d ≠ some .kOffer → (x.SetPeerSDP factory d).1.descriptions = x.descriptions) := by
  have ensured := (ensurePeerConnection_noNullCall factory).2 ((SetPeerSDP_noNullCall factory d).1 fine)
  obtain ⟨opened, same⟩ := ensure_opened ensured
  have initialized : (x.ensurePeerConnection factory).2 = true :=
    (ensurePeerConnection_present factory).trans opened.present
  rw [SetPeerSDP]
  simp only [initialized, if_true]
  cases d with
  | none => exact ⟨opened, fun _ => same⟩
  | some type =>
    dsimp only
    split_ifs with offer
    · exact ⟨⟨opened.fine, opened.handle, opened.sent, opened.present⟩,
        fun other => absurd (congrArg some offer) other⟩
    · exact ⟨⟨opened.fine, opened.handle, opened.sent, opened.present⟩, fun _ => same⟩

theorem SetPeerSDP_bidden (fine : (x.SetPeerSDP factory d).1.NoNullCall) (stands : x.Stands h)
    (bidden : x.Bidden invited known) (knows : known h)
    (offers : d = some .kOffer → invited h) : (x.SetPeerSDP factory d).1.Bidden invited known := by
  obtain ⟨opened, asks⟩ := SetPeerSDP_opened fine
  have handle := stands.handle
  subst handle
  refine opened.bidden bidden knows fun pending => ?_
  by_cases offer : d = some .kOffer
  · exact offers offer
  · rw [asks offer] at pending
    refine bidden.asked pending ?_
    by_contra absent
    exact absurd (stands.fresh (by simpa using absent)) (Nat.ne_of_gt pending)

theorem ConnectToPeer_sent : (x.ConnectToPeer factory).LocalSDP = x.LocalSDP := by
  rw [ConnectToPeer, initializePeerConnection_eq]
  dsimp only
  split_ifs <;> rfl

theorem SetPeerSDP_sent : (x.SetPeerSDP factory d).1.LocalSDP = x.LocalSDP := by
  have ensured : (x.ensurePeerConnection factory).1.LocalSDP = x.LocalSDP := by
    rw [ensurePeerConnection, initializePeerConnection_eq]
    split_ifs <;> rfl
  rw [SetPeerSDP]
  dsimp only
  split_ifs
  · cases d with
    | none => exact ensured
    | some type =>
      dsimp only
      split_ifs <;> exact ensured
  · exact ensured

theorem OnSuccess_fine {desc : Jsep} (fine : (x.step (.OnSuccess desc)).NoNullCall)
    (asked : x.descriptions ≠ 0) : x.NoNullCall ∧ x.mPeerConnection = true := by
  obtain ⟨more, pending⟩ := Nat.exists_eq_succ_of_ne_zero asked
  rw [step, pending] at fine
  exact (OnSuccess_noNullCall desc).1 fine

/-- The shape of a stream after a description was made. -/
theorem OnSuccess_eq (asked : x.descriptions ≠ 0) (desc : Jsep) :
    x.step (.OnSuccess desc) = { x with
      descriptions := x.descriptions - 1
      calls := x.calls ++ [(.SetLocalDescription, x.mPeerConnection)]
      LocalSDP := x.LocalSDP ++ [(x.mHandleID, desc)] } := by
  obtain ⟨more, pending⟩ := Nat.exists_eq_succ_of_ne_zero asked
  rw [step, pending]
  rfl

end

end PeerStream

/-! ## The streams of a client -/

/-- The streams of one class. -/
def Client.registry (s : Client) : StreamClass → Registry
  | .VideoAudio => s.media.video
  | .DataChannels => s.media.data

/-- No stream was made, and every entry is one for the stream it was for. -/
structure Client.Retains (s s' : Client) (k : StreamClass) : Prop where
  made : (s'.registry k).made = (s.registry k).made
  entry : ∀ id info, (s'.registry k).table.lookup id = some info →
    ∃ info', (s.registry k).table.lookup id = some info' ∧ info'.stream = info.stream

/-- A stream was made and entered under `h`. -/
structure Client.Enters (s s' : Client) (k : StreamClass) (h : Int) : Prop where
  made : (s'.registry k).made = (s.registry k).made + 1
  entry : ∀ id info, (s'.registry k).table.lookup id = some info →
    id = h ∧ info.stream = (s.registry k).made ∨
      ∃ info', (s.registry k).table.lookup id = some info' ∧ info'.stream = info.stream

theorem Sound.registry {s : Client} (sound : Sound s) (k : StreamClass) : (s.registry k).Sound := by
  cases k
  · exact sound.video
  · exact sound.data

/-- A stream that a table lists is there. -/
theorem Sound.lives {s : Client} (sound : Sound s) {k : StreamClass} {id : Int}
    {info : RemoteStreamInfo} (found : (s.registry k).table.lookup id = some info) :
    s.lives k info.stream = true := by
  have handle := ((sound.registry k).entry found).2
  cases k with
  | VideoAudio =>
    obtain ⟨x, alive, -⟩ := Option.map_eq_some_iff.1 handle
    exact Option.isSome_iff_exists.2 ⟨x, alive⟩
  | DataChannels =>
    obtain ⟨x, alive, -⟩ := Option.map_eq_some_iff.1 handle
    exact Option.isSome_iff_exists.2 ⟨x, alive⟩

section
variable {s s' s'' : Client} {k : StreamClass} {i : Input}

namespace Client.Retains

theorem refl (s : Client) (k : StreamClass) : s.Retains s k := ⟨rfl, fun _ info found => ⟨info, found, rfl⟩⟩

theorem trans (first : s.Retains s' k) (second : s'.Retains s'' k) : s.Retains s'' k where
  made := second.made.trans first.made
  entry id info found := by
    obtain ⟨info', found', same'⟩ := second.entry id info found
    obtain ⟨info'', found'', same''⟩ := first.entry id info' found'
    exact ⟨info'', found'', same''.trans same'⟩

theorem same (media : s'.media = s.media) (k : StreamClass) : s.Retains s' k := by
  have registry : s'.registry k = s.registry k := by
    cases k <;> simp only [Client.registry, media]
  exact ⟨by rw [registry], fun _ info found => ⟨info, registry ▸ found, rfl⟩⟩

/-- An entry takes something up. -/
theorem store {table : StreamTable} {id : Int} {info info' : RemoteStreamInfo}
    (found : table.lookup id = some info) (stores : info.Stores info') (key : Int)
    (after : RemoteStreamInfo) (there : (table.insert id info').lookup key = some after) :
    ∃ before, table.lookup key = some before ∧ before.stream = after.stream := by
  by_cases one : key = id
  · subst one
    obtain rfl : info' = after := by simpa using there
    exact ⟨info, found, stores.stream.symm⟩
  · rw [AList.lookup_insert_ne one] at there
    exact ⟨after, there, rfl⟩

end Client.Retains

/-- The entries of a table in which a stream was entered. -/
theorem entered_cases {table : StreamTable} {h id : Int} {p : Ptr} {info : RemoteStreamInfo}
    (found : (table.insert h (ConferenceManager.newInfo p)).lookup id = some info) :
    id = h ∧ info.stream = p ∨ ∃ info', table.lookup id = some info' ∧ info'.stream = info.stream := by
  by_cases same : id = h
  · subst same
    obtain rfl : ConferenceManager.newInfo p = info := by simpa using found
    exact Or.inl ⟨rfl, rfl⟩
  · rw [AList.lookup_insert_ne same] at found
    exact Or.inr ⟨info, found, rfl⟩

theorem LeaveVideoRoom_retains (s : Client) (k : StreamClass) :
    s.Retains (ConferenceManager.LeaveVideoRoom s) k := by
  let freed := s.withWinds (s.conference.mRemoteWinds.map fun wind => (wind.1, 0))
  obtain ⟨conference, made, -, data⟩ :=
    deleteStreams_media freed s.conference.mRemoteStreamInfos_VideoAudio.entries
  cases k with
  | VideoAudio => exact ⟨made, fun id info found => by cases found⟩
  | DataChannels =>
    have same : (ConferenceManager.LeaveVideoRoom s).registry .DataChannels =
        s.registry .DataChannels := data
    exact ⟨by rw [same], fun _ info found => ⟨info, same ▸ found, rfl⟩⟩

/-- A removal keeps the entries of the other keys. -/
theorem onRemoteStreamRemove_entry {h id : Int} {info : RemoteStreamInfo}
    (found : ((ConferenceManager.onRemoteStreamRemove s h).registry k).table.lookup id = some info) :
    id ≠ h ∧ (s.registry k).table.lookup id = some info := by
  have tables : ((ConferenceManager.onRemoteStreamRemove s h).registry k).table =
      (s.registry k).table.erase h := by
    cases k <;> simp only [Client.registry, Media.video, Media.data, Client.media,
      onRemoteStreamRemove_conference]
  rw [tables] at found
  have other : id ≠ h := by
    rintro rfl
    rw [AList.lookup_erase] at found
    cases found
  exact ⟨other, by rwa [AList.lookup_erase_ne other] at found⟩

theorem onRemoteStreamRemove_made (s : Client) (h : Int) :
    ((ConferenceManager.onRemoteStreamRemove s h).registry k).made = (s.registry k).made := by
  have video : ((ConferenceManager.removeVideo s h).registry k).made = (s.registry k).made := by
    unfold ConferenceManager.removeVideo
    split
    · rfl
    · cases k with
      | VideoAudio => exact releaseVideo_videoStreams _ _
      | DataChannels => exact congrArg Registry.made (releaseVideo_data _ _)
  have data (t : Client) : ((ConferenceManager.removeData t h).registry k).made =
      (t.registry k).made := by
    unfold ConferenceManager.removeData
    split
    · rfl
    · cases k with
      | VideoAudio => exact congrArg Registry.made (releaseData_video _ _)
      | DataChannels => exact releaseData_dataStreams _ _
  rw [ConferenceManager.onRemoteStreamRemove_eq, data]
  cases k <;> exact video

theorem ConnectToPeer_VideoAudio_enters (s : Client) (h : Int) (show_ isConnect isLocal : Bool) :
    s.Enters (ConferenceManager.ConnectToPeer_VideoAudio s h show_ isConnect isLocal) .VideoAudio h ∧
      s.Retains (ConferenceManager.ConnectToPeer_VideoAudio s h show_ isConnect isLocal)
        .DataChannels := by
  have connected := ConnectToPeer_VideoAudio_connected s h show_ isConnect isLocal
  refine ⟨⟨connected.made, fun id info found => ?_⟩,
    ⟨congrArg Registry.made connected.data, fun id info found => ⟨info, ?_, rfl⟩⟩⟩
  · have tables : ((ConferenceManager.ConnectToPeer_VideoAudio s h show_ isConnect isLocal).registry
        .VideoAudio).table = s.conference.mRemoteStreamInfos_VideoAudio.insert h
          (ConferenceManager.newInfo s.videoStreams) := by
      simp only [Client.registry, Media.video, Client.media, connected.conference]
    rw [tables] at found
    exact entered_cases found
  · exact (congrArg Registry.table connected.data) ▸ found

theorem addStreamInfo_DataChannels_media (s : Client) (p : Ptr) :
    (ConferenceManager.addStreamInfo_DataChannels s p).conference = { s.conference with
      mRemoteStreamInfos_DataChannels := s.conference.mRemoteStreamInfos_DataChannels.insert
        (s.dataHandle p) (ConferenceManager.newInfo p) } ∧
      (ConferenceManager.addStreamInfo_DataChannels s p).dataStreams = s.dataStreams ∧
      (ConferenceManager.addStreamInfo_DataChannels s p).media.video = s.media.video := by
  unfold ConferenceManager.addStreamInfo_DataChannels
  dsimp only
  split
  · exact ⟨releaseData_conference, releaseData_dataStreams _ _, releaseData_video _ _⟩
  · exact ⟨rfl, rfl, rfl⟩

theorem replacedLocal_video (s : Client) (h : Int) :
    (s.replacedLocal h).media.video = s.media.video := by
  unfold Client.replacedLocal
  cases s.conference.LocalStream_DataChannels with
  | none => rfl
  | some q => exact releaseData_video _ q

theorem ConnectToPeer_DataChannels_enters (sound : Sound s) (h : Int) :
    s.Enters (ConferenceManager.ConnectToPeer_DataChannels s h) .DataChannels h ∧
      s.Retains (ConferenceManager.ConnectToPeer_DataChannels s h) .VideoAudio := by
  obtain ⟨-, alive, count, replaced⟩ := replacedLocal_sound sound h
  have handle : (s.appointed h).dataHandle s.dataStreams = h := by
    simp [Client.dataHandle, Client.appointed, Client.modifyData, alive]
  obtain ⟨conference, made, video⟩ := addStreamInfo_DataChannels_media (s.appointed h) s.dataStreams
  have same : (s.appointed h).media.video = s.media.video := replacedLocal_video s h
  rw [ConnectToPeer_DataChannels_eq]
  refine ⟨⟨made.trans count, fun id info found => ?_⟩,
    ⟨congrArg Registry.made (video.trans same), fun id info found => ⟨info, ?_, rfl⟩⟩⟩
  · have tables : ((ConferenceManager.addStreamInfo_DataChannels (s.appointed h) s.dataStreams).registry
        .DataChannels).table = s.conference.mRemoteStreamInfos_DataChannels.insert h
          (ConferenceManager.newInfo s.dataStreams) := by
      have before : (s.appointed h).conference.mRemoteStreamInfos_DataChannels =
          s.conference.mRemoteStreamInfos_DataChannels := by
        show (s.replacedLocal h).conference.mRemoteStreamInfos_DataChannels = _
        rw [replaced]
      simp only [Client.registry, Media.data, Client.media, conference, handle, before]
    rw [tables] at found
    exact entered_cases found
  · exact (congrArg Registry.table (video.trans same)) ▸ found

/-- What is no event of the socket makes no stream. -/
theorem Staged.retains {start : Client} (piece : Staged i start s s')
    (silent : ∀ object, ¬ i.Reports object) (k : StreamClass) : s.Retains s' k := by
  cases piece with
  | apart same => exact .same same k
  | windows => cases k <;> exact ⟨rfl, fun _ info found => ⟨info, found, rfl⟩⟩
  | described _ event => exact absurd event.event (silent _)
  | joined event => exact absurd event.1 (silent _)
  | removed event => exact absurd event.choose_spec.1 (silent _)
  | left => exact LeaveVideoRoom_retains s k
  | room => cases k <;> exact ⟨rfl, fun _ info found => ⟨info, found, rfl⟩⟩
  | storedVideo found stores =>
    cases k with
    | VideoAudio => exact ⟨rfl, Client.Retains.store found stores⟩
    | DataChannels => exact ⟨rfl, fun _ info there => ⟨info, there, rfl⟩⟩
  | storedData found stores =>
    cases k with
    | VideoAudio => exact ⟨rfl, fun _ info there => ⟨info, there, rfl⟩⟩
    | DataChannels => exact ⟨rfl, Client.Retains.store found stores⟩
  | opened => cases k <;> exact ⟨rfl, fun _ info found => ⟨info, found, rfl⟩⟩

end

/-! ## The streams with their connections -/

/-- What a stream can answer for that a signal says. -/
def PeerStream.Vouches (known : Int → Prop) (x : PeerStream) : Signal → Prop
  | .LocalSDP id sdp type => (id, { type, sdp }) ∈ x.LocalSDP
  | .LocalIceCandidate id _ => x.NoNullCall → known id
  | .IceGatheringComplete id => x.NoNullCall → known id

namespace Conference

/-- A stream, by its place in the order of construction. -/
def stream (c : Conference) (k : StreamClass) (p : Ptr) : Option PeerStream := (c.streams k)[p]?

/-- There are as many streams as the client made, what they signal was asked of them, and
each signal is that of a stream. -/
structure Bidding (invited known : Int → Prop) (c : Conference) : Prop where
  made : ∀ k, (c.streams k).length = (c.client.registry k).made
  bidden : ∀ k p x, c.stream k p = some x → x.NoNullCall → x.Bidden invited known
  vouched : ∀ signal ∈ c.signals.posted, ∃ k p x, c.stream k p = some x ∧ x.Vouches known signal

/-- A stream that a table lists goes by the key of its entry. -/
def Listed (c : Conference) : Prop :=
  ∀ k id info, (c.client.registry k).table.lookup id = some info →
    ∀ x, c.stream k info.stream = some x → x.NoNullCall → x.Stands id

structure Negotiating (invited known : Int → Prop) (c : Conference) : Prop where
  sound : Sound c.client
  bidding : c.Bidding invited known
  listed : c.Listed

section
variable {c : Conference} {s : Client} {k k' : StreamClass} {p q : Ptr} {h : Int}
  {invited known : Int → Prop} {f : PeerStream → PeerStream}

theorem become_stream : (c.become s).stream k p =
    (c.stream k p).map fun x => if s.lives k p then x else x.destroyed :=
  List.getElem?_mapIdx

theorem call_stream : (c.call k p f).stream k' q =
    if k' = k ∧ q = p then (c.stream k' q).map f else c.stream k' q := by
  unfold stream call
  dsimp only
  by_cases class_ : k' = k
  · subst class_
    rw [Function.update_self, List.getElem?_modify]
    by_cases same : q = p
    · simp [same]
    · simp [same, Ne.symm same]
  · rw [Function.update_of_ne class_, if_neg fun both => class_ both.1]

theorem construct_stream : (c.construct k h).stream k' q =
    if k' = k ∧ q = (c.streams k).length then some (.constructed k h) else c.stream k' q := by
  unfold stream construct
  dsimp only
  by_cases class_ : k' = k
  · subst class_
    rw [Function.update_self, List.getElem?_append]
    rcases Nat.lt_trichotomy q (c.streams k').length with before | same | after
    · rw [if_pos before, if_neg fun both => Nat.ne_of_lt before both.2]
    · simp [same]
    · rw [if_neg (Nat.lt_asymm after), if_neg fun both => Nat.ne_of_gt after both.2,
        List.getElem?_eq_none (Nat.le_of_lt after)]
      exact List.getElem?_eq_none (by simp; omega)
  · rw [Function.update_of_ne class_, if_neg fun both => class_ both.1]

/-! ### Destructors -/

theorem destroyed_fine {x : PeerStream} : x.destroyed.NoNullCall ↔ x.NoNullCall :=
  PeerStream.noNullCall_congr rfl

theorem destroyed_bidden {x : PeerStream} (bidden : x.Bidden invited known) :
    x.destroyed.Bidden invited known :=
  ⟨bidden.sent, nofun, nofun⟩

/-- What happens to a stream keeps its word if it keeps its descriptions and makes up for no
null call. -/
theorem vouches_mono {x x' : PeerStream} (sent : x.LocalSDP ⊆ x'.LocalSDP)
    (fine : x'.NoNullCall → x.NoNullCall) {signal : Signal} (vouches : x.Vouches known signal) :
    x'.Vouches known signal := by
  cases signal with
  | LocalSDP => exact sent vouches
  | LocalIceCandidate => exact fun there => vouches (fine there)
  | IceGatheringComplete => exact fun there => vouches (fine there)

theorem Bidding.become (bidding : c.Bidding invited known)
    (made : ∀ k, (s.registry k).made = (c.client.registry k).made) :
    (c.become s).Bidding invited known where
  made k := by
    rw [become_client, made, ← bidding.made]
    exact List.length_mapIdx
  bidden k p x found fine := by
    rw [become_stream] at found
    obtain ⟨x₀, before, rfl⟩ := Option.map_eq_some_iff.1 found
    split_ifs at fine ⊢
    · exact bidding.bidden k p x₀ before fine
    · exact destroyed_bidden (bidding.bidden k p x₀ before (destroyed_fine.1 fine))
  vouched signal posted := by
    obtain ⟨k, p, x, before, vouches⟩ := bidding.vouched signal posted
    refine ⟨k, p, _, by rw [become_stream, before, Option.map_some], ?_⟩
    split_ifs
    · exact vouches
    · exact vouches_mono (List.Subset.refl _) destroyed_fine.1 vouches

/-- A table that lists no stream anew finds its streams as they were. -/
theorem Listed.become (listed : c.Listed) (sound : Sound s)
    (retains : ∀ k, c.client.Retains s k) : (c.become s).Listed := by
  intro k id info found x there fine
  obtain ⟨info', before, same⟩ := (retains k).entry id info found
  rw [become_stream, sound.lives found] at there
  obtain ⟨x₀, stream, rfl⟩ := Option.map_eq_some_iff.1 there
  exact listed k id info' before x₀ (same ▸ stream) fine

theorem Negotiating.become (negotiating : c.Negotiating invited known) (sound : Sound s)
    (retains : ∀ k, c.client.Retains s k) : (c.become s).Negotiating invited known where
  sound := sound
  bidding := negotiating.bidding.become fun k => (retains k).made
  listed := negotiating.listed.become sound retains

/-- A new stream stands. -/
theorem Negotiating.enter (negotiating : c.Negotiating invited known) (sound : Sound s)
    (enters : c.client.Enters s k h) (retains : ∀ k' ≠ k, c.client.Retains s k') :
    ((c.construct k h).become s).Negotiating invited known := by
  have made := negotiating.bidding.made
  have new : (c.construct k h).stream k (c.streams k).length = some (.constructed k h) := by
    rw [construct_stream, if_pos ⟨rfl, rfl⟩]
  have old {k' : StreamClass} {q : Ptr} {x : PeerStream} (before : c.stream k' q = some x) :
      (c.construct k h).stream k' q = some x := by
    rw [construct_stream, if_neg, before]
    rintro ⟨rfl, rfl⟩
    simp [stream] at before
  refine ⟨sound, ⟨fun k' => ?_, fun k' p x found fine => ?_, fun signal posted => ?_⟩, ?_⟩
  · rw [become_client]
    refine List.length_mapIdx.trans ?_
    unfold construct
    dsimp only
    by_cases class_ : k' = k
    · subst class_
      rw [Function.update_self, List.length_append, made, enters.made]
      rfl
    · rw [Function.update_of_ne class_, made, (retains k' class_).made]
  · rw [become_stream, construct_stream] at found
    obtain ⟨x₀, before, rfl⟩ := Option.map_eq_some_iff.1 found
    have bidden : x₀.NoNullCall → x₀.Bidden invited known := by
      split_ifs at before
      · cases before
        exact fun _ => ⟨nofun, nofun, nofun⟩
      · exact negotiating.bidding.bidden k' p x₀ before
    split_ifs at fine ⊢
    · exact bidden fine
    · exact destroyed_bidden (bidden (destroyed_fine.1 fine))
  · obtain ⟨k', p, x, before, vouches⟩ := negotiating.bidding.vouched signal posted
    refine ⟨k', p, _, by rw [become_stream, old before, Option.map_some], ?_⟩
    split_ifs
    · exact vouches
    · exact vouches_mono (List.Subset.refl _) destroyed_fine.1 vouches
  · intro k' id info found x there fine
    rw [become_stream, sound.lives found] at there
    obtain ⟨x₀, stream, rfl⟩ := Option.map_eq_some_iff.1 there
    have earlier {info' : RemoteStreamInfo}
        (before : (c.client.registry k').table.lookup id = some info')
        (same : info'.stream = info.stream) : x₀.Stands id := by
      have older : info'.stream < (c.streams k').length := by
        rw [made]
        exact (negotiating.sound.registry k').older before
      rw [construct_stream, if_neg, ← same] at stream
      · exact negotiating.listed k' id info' before x₀ stream fine
      · rintro ⟨rfl, last⟩
        rw [same, last] at older
        exact Nat.lt_irrefl _ older
    by_cases class_ : k' = k
    · subst class_
      rcases enters.entry id info found with ⟨rfl, last⟩ | ⟨info', before, same⟩
      · rw [last, ← made, new] at stream
        cases stream
        exact ⟨rfl, fun _ => rfl⟩
      · exact earlier before same
    · obtain ⟨info', before, same⟩ := (retains k' class_).entry id info found
      exact earlier before same

/-! ### Calls -/

/-- A member of a stream that makes up for no null call and keeps its word. -/
theorem Bidding.call (bidding : c.Bidding invited known)
    (fine : ∀ x, c.stream k p = some x → (f x).NoNullCall → x.NoNullCall)
    (sent : ∀ x, c.stream k p = some x → x.LocalSDP ⊆ (f x).LocalSDP)
    (bidden : ∀ x, c.stream k p = some x → (f x).NoNullCall → x.Bidden invited known →
      (f x).Bidden invited known) : (c.call k p f).Bidding invited known where
  made k' := by
    rw [call_client, ← bidding.made]
    unfold Conference.call
    dsimp only
    by_cases class_ : k' = k
    · subst class_
      rw [Function.update_self, List.length_modify]
    · rw [Function.update_of_ne class_]
  bidden k' q x found still := by
    rw [call_stream] at found
    split_ifs at found with called
    · obtain ⟨rfl, rfl⟩ := called
      obtain ⟨x₀, before, rfl⟩ := Option.map_eq_some_iff.1 found
      exact bidden x₀ before still (bidding.bidden _ _ x₀ before (fine x₀ before still))
    · exact bidding.bidden k' q x found still
  vouched signal posted := by
    obtain ⟨k', q, x, before, vouches⟩ := bidding.vouched signal posted
    by_cases called : k' = k ∧ q = p
    · refine ⟨k', q, f x, by rw [call_stream, if_pos called, before, Option.map_some], ?_⟩
      obtain ⟨rfl, rfl⟩ := called
      exact vouches_mono (sent x before) (fine x before) vouches
    · exact ⟨k', q, x, by rw [call_stream, if_neg called, before], vouches⟩

theorem Listed.call (listed : c.Listed)
    (stands : ∀ x id, c.stream k p = some x → (f x).NoNullCall → (x.NoNullCall → x.Stands id) →
      (f x).Stands id) : (c.call k p f).Listed := by
  intro k' id info found x there fine
  rw [call_stream] at there
  split_ifs at there with called
  · obtain ⟨rfl, same⟩ := called
    obtain ⟨x₀, before, rfl⟩ := Option.map_eq_some_iff.1 there
    rw [same] at before
    exact stands x₀ id before fine (listed k' id info found x₀ (same ▸ before))
  · exact listed k' id info found x there fine

/-- A description made by a stream that the tables may list. -/
theorem Negotiating.call (negotiating : c.Negotiating invited known)
    (fine : ∀ x, c.stream k p = some x → (f x).NoNullCall → x.NoNullCall)
    (sent : ∀ x, c.stream k p = some x → x.LocalSDP ⊆ (f x).LocalSDP)
    (bidden : ∀ x, c.stream k p = some x → (f x).NoNullCall → x.Bidden invited known →
      (f x).Bidden invited known)
    (stands : ∀ x id, c.stream k p = some x → (f x).NoNullCall → x.Stands id → (f x).Stands id) :
    (c.call k p f).Negotiating invited known where
  sound := negotiating.sound
  bidding := negotiating.bidding.call fine sent bidden
  listed := negotiating.listed.call fun x id there still before =>
    stands x id there still (before (fine x there still))

/-! ### Handlers -/

variable {parse : CreateSessionDescription} {factory : Factory} {env : Env} {id : Int}

/-- A stream that is made to connect asks for an offer. -/
theorem Negotiating.ConnectToPeer_VideoAudio (negotiating : c.Negotiating invited known)
    (knows : known id) (show_ isConnect isLocal : Bool) (invites : isConnect = true → invited id) :
    (c.ConnectToPeer_VideoAudio factory id show_ isConnect isLocal).Negotiating invited known := by
  have connected := ConnectToPeer_VideoAudio_connected c.client id show_ isConnect isLocal
  obtain ⟨enters, retains⟩ := ConnectToPeer_VideoAudio_enters c.client id show_ isConnect isLocal
  have entered := negotiating.enter (negotiating.sound.connect connected) enters fun k' other => by
    cases k' with
    | VideoAudio => exact absurd rfl other
    | DataChannels => exact retains
  rw [Conference.ConnectToPeer_VideoAudio]
  cases isConnect with
  | false => exact entered
  | true =>
    have found : ((ConferenceManager.ConnectToPeer_VideoAudio c.client id show_ true isLocal).registry
        .VideoAudio).table.lookup id = some (ConferenceManager.newInfo c.client.videoStreams) := by
      simp [Client.registry, Media.video, Client.media, connected.conference]
    have stands := entered.listed .VideoAudio id _ found
    refine entered.call (fun _ _ fine => (PeerStream.ConnectToPeer_opened fine).fine)
      (fun _ _ => ?_) (fun x there fine bidden => ?_)
      (fun _ _ _ fine before => (PeerStream.ConnectToPeer_opened fine).stands before)
    · rw [PeerStream.ConnectToPeer_sent]
      exact List.Subset.refl _
    · have opened := PeerStream.ConnectToPeer_opened fine
      have handle := (stands x there opened.fine).handle
      exact opened.bidden bidden (handle.symm ▸ knows) fun _ => handle.symm ▸ invites rfl

/-- A stream is told a description of the peer of its entry. -/
theorem Negotiating.tell (negotiating : c.Negotiating invited known) {info : RemoteStreamInfo}
    (found : (c.client.registry k).table.lookup id = some info) (knows : known id)
    {d : Option SdpType} (invites : d = some .kOffer → invited id) :
    (c.call k info.stream fun x => (x.SetPeerSDP factory d).1).Negotiating invited known :=
  negotiating.call (fun _ _ fine => (PeerStream.SetPeerSDP_opened fine).1.fine)
    (fun _ _ => PeerStream.SetPeerSDP_sent.symm ▸ List.Subset.refl _)
    (fun x there fine bidden => PeerStream.SetPeerSDP_bidden fine
      (negotiating.listed k id info found x there (PeerStream.SetPeerSDP_opened fine).1.fine) bidden
      knows invites)
    (fun _ _ _ fine before => (PeerStream.SetPeerSDP_opened fine).1.stands before)

theorem Negotiating.emit (negotiating : c.Negotiating invited known) {e : Effect}
    (none : e.destroyed? = none) : (c.become (c.client.emit e)).Negotiating invited known :=
  negotiating.become (negotiating.sound.same (emit_media none))
    fun k => .same (emit_media none) k

theorem Negotiating.tellVideo (negotiating : c.Negotiating invited known) (knows : known id)
    {type sdp : String} (invites : parse type sdp = some .kOffer → invited id) :
    (c.tellVideo parse factory id type sdp).Negotiating invited known := by
  rw [Conference.tellVideo]
  split
  · next info found => exact (negotiating.emit rfl).tell (k := .VideoAudio) found knows invites
  · exact negotiating

theorem Negotiating.tellData (negotiating : c.Negotiating invited known) (knows : known id)
    {type sdp : String} (invites : parse type sdp = some .kOffer → invited id) :
    (c.tellData parse factory id type sdp).Negotiating invited known := by
  rw [Conference.tellData]
  split
  · next info found =>
    let opened := c.client.modifyData info.stream ({ · with mDataChannel := true })
    have data : opened.media.data = c.client.media.data := modifyData_handle _ _ _ fun _ => rfl
    have sound : Sound opened := ⟨negotiating.sound.video, data ▸ negotiating.sound.data⟩
    have told : (c.become (ConferenceManager.setPeerSDP_DataChannels c.client info.stream type
        sdp)).Negotiating invited known :=
      negotiating.become (sound.same (emit_media rfl)) fun k => by
        cases k <;> exact ⟨rfl, fun _ info found => ⟨info, found, rfl⟩⟩
    exact told.tell (k := .DataChannels) found knows invites
  · exact negotiating

theorem Negotiating.onRetmoeSDP (negotiating : c.Negotiating invited known) (knows : known id)
    {type sdp : String} (invites : parse type sdp = some .kOffer → invited id)
    (isTextRoom : Bool) :
    (c.onRetmoeSDP parse factory id type sdp isTextRoom).Negotiating invited known := by
  cases isTextRoom with
  | false =>
    rw [onRetmoeSDP_video]
    refine Negotiating.tellVideo ?_ knows invites
    split_ifs
    · exact negotiating.ConnectToPeer_VideoAudio knows _ _ _ nofun
    · exact negotiating
  | true =>
    rw [onRetmoeSDP_text]
    refine Negotiating.tellData ?_ knows invites
    split_ifs
    · obtain ⟨enters, retains⟩ := ConnectToPeer_DataChannels_enters negotiating.sound id
      refine negotiating.enter (ConnectToPeer_DataChannels_sound negotiating.sound id) enters
        fun k' other => ?_
      cases k' with
      | VideoAudio => exact retains
      | DataChannels => exact absurd rfl other
    · exact negotiating

/-- `DeletePeerConnection` on the stream of the entry of `id`, if there is one. -/
def drop (c : Conference) (k : StreamClass) (id : Int) : Conference :=
  match (c.client.registry k).table.lookup id with
  | some info => c.call k info.stream (·.DeletePeerConnection)
  | none => c

theorem onRemoteStreamRemove_drops : c.onRemoteStreamRemove id =
    ((c.drop .VideoAudio id).drop .DataChannels id).become
      (ConferenceManager.onRemoteStreamRemove
        ((c.drop .VideoAudio id).drop .DataChannels id).client id) := rfl

@[simp] theorem drop_client : (c.drop k id).client = c.client := by
  rw [drop]
  split <;> rfl

theorem drop_stream : (c.drop k id).stream k' p =
    if k' = k ∧ ∃ info, (c.client.registry k).table.lookup id = some info ∧ p = info.stream then
      (c.stream k' p).map (·.DeletePeerConnection) else c.stream k' p := by
  rw [drop]
  split
  · next info found =>
    rw [call_stream]
    simp [found]
  · next missing => simp [missing]

/-- A stream of another entry is not dropped. -/
theorem drop_other {info : RemoteStreamInfo} (sound : Sound c.client) {key : Int}
    (found : (c.client.registry k').table.lookup key = some info) (other : key ≠ id) :
    (c.drop k id).stream k' info.stream = c.stream k' info.stream := by
  rw [drop_stream, if_neg]
  rintro ⟨rfl, info', found', same⟩
  exact (sound.registry k').stream_ne found found' other same

theorem Bidding.drop (bidding : c.Bidding invited known) (k : StreamClass) (id : Int) :
    (c.drop k id).Bidding invited known := by
  rw [Conference.drop]
  split
  · exact bidding.call (fun _ _ fine => (PeerStream.noNullCall_congr rfl).1 fine)
      (fun _ _ => List.Subset.refl _) fun _ _ _ bidden => ⟨bidden.sent, nofun, nofun⟩
  · exact bidding

theorem Negotiating.onRemoteStreamRemove (negotiating : c.Negotiating invited known) (id : Int) :
    (c.onRemoteStreamRemove id).Negotiating invited known := by
  have sound := onRemoteStreamRemove_sound negotiating.sound id
  have dropped := (negotiating.bidding.drop .VideoAudio id).drop .DataChannels id
  rw [onRemoteStreamRemove_drops, drop_client, drop_client]
  refine ⟨sound, dropped.become fun k => ?_, ?_⟩
  · rw [onRemoteStreamRemove_made, drop_client, drop_client]
  · intro k key info found x there fine
    obtain ⟨other, before⟩ := onRemoteStreamRemove_entry found
    have still : (c.drop .VideoAudio id).client = c.client := drop_client
    rw [become_stream, sound.lives found, drop_other (still ▸ negotiating.sound) (still ▸ before) other,
      drop_other negotiating.sound before other] at there
    obtain ⟨x₀, stream, rfl⟩ := Option.map_eq_some_iff.1 there
    exact negotiating.listed k key info before x₀ stream fine

end

end Conference

/-! ## Every event -/

/-- The input asks the stream of `h` for a description: a peer has joined under that handle,
or has made an offer. -/
def Input.Invites (parse : Conference.CreateSessionDescription) (i : Input) (h : Int) : Prop :=
  (∃ object, i.Tags "joined" object ∧ senderOf object = h) ∨
    ∃ object isTextRoom, i.Describes object isTextRoom ∧ senderOf object = h ∧
      parse ((object.member "jsep").text "type") (offeredSdp object) = some .kOffer

namespace Conference

section
variable {env : Env} {parse : CreateSessionDescription} {factory : Factory} {c : Conference}
  {invited known : Int → Prop} {i : Input} {object : Json}

theorem Negotiating.same (negotiating : c.Negotiating invited known) {s : Client}
    (media : s.media = c.client.media) : (c.become s).Negotiating invited known :=
  negotiating.become (negotiating.sound.same media) fun k => .same media k

/-- A step that is no event of the socket makes no stream. -/
theorem Negotiating.silent (negotiating : c.Negotiating invited known)
    (silent : ∀ object, ¬ i.Reports object) :
    (c.become (WebrtcDemo.step env c.client i)).Negotiating invited known := by
  refine negotiating.become (negotiating.sound.step env i) ?_
  exact Machine.transitions_keep (P := fun s => ∀ k, c.client.Retains s k)
    (fun _ _ piece before k => (before k).trans (piece.retains silent k))
    (step_staged env c.client i) fun k => .refl _ k

section
variable (knows : ∀ h, i.Names h → known h) (invites : ∀ h, i.Invites parse h → invited h)
include knows invites

theorem Negotiating.onVideoRoomEventSdp (negotiating : c.Negotiating invited known)
    (event : i.Reports object) (isTextRoom : Bool)
    (tags : if isTextRoom then videoRoomTag object = none
      else videoRoomTag object = some "attached" ∨ videoRoomTag object = some "event") :
    (c.onVideoRoomEventSdp parse factory object isTextRoom).Negotiating invited known := by
  rw [Conference.onVideoRoomEventSdp]
  split_ifs with offered
  · refine (negotiating.emit rfl).onRetmoeSDP (knows _ ⟨object, event, rfl⟩) (fun offer => ?_) _
    exact invites _ (Or.inr ⟨object, isTextRoom, ⟨event, offered, tags⟩, rfl, offer⟩)
  · exact negotiating

theorem Negotiating.onVideoRoomEventJoin (negotiating : c.Negotiating invited known)
    (event : i.Tags "joined" object) :
    (c.onVideoRoomEventJoin factory env object).Negotiating invited known := by
  have published := negotiating.same (onVideoRoomEventPublisher_media env object)
  rw [Conference.onVideoRoomEventJoin]
  split
  · exact (published.emit rfl).ConnectToPeer_VideoAudio (knows _ ⟨object, event.1, rfl⟩) _ _ _
      fun _ => invites _ (Or.inl ⟨object, event, rfl⟩)
  · exact published

omit knows invites in
theorem Negotiating.onVideoRoomEventUnpublish (negotiating : c.Negotiating invited known)
    (object : Json) : (c.onVideoRoomEventUnpublish object).Negotiating invited known := by
  rw [Conference.onVideoRoomEventUnpublish]
  dsimp only
  split_ifs
  · split
    · exact ((negotiating.emit rfl).onRemoteStreamRemove _).same rfl
    · exact negotiating
  · exact negotiating

theorem Negotiating.onVideoRoomEvent (negotiating : c.Negotiating invited known) {tag : String}
    (event : i.Tags tag object) :
    (c.onVideoRoomEvent parse factory env tag object).Negotiating invited known := by
  rw [Conference.onVideoRoomEvent]
  split_ifs with joined attached happened
  · exact negotiating.onVideoRoomEventJoin knows invites (joined ▸ event)
  · exact negotiating.onVideoRoomEventSdp knows invites event.1 false (Or.inl (attached ▸ event.2))
  · have described : (c.onVideoRoomEventSdp parse factory object false).Negotiating invited known :=
      negotiating.onVideoRoomEventSdp knows invites event.1 false (Or.inr (happened ▸ event.2))
    exact (described.same (onVideoRoomEventPublisher_media env object)).onVideoRoomEventUnpublish _
  · exact negotiating

/-- **What happens to the client.** -/
theorem Negotiating.happened (negotiating : c.Negotiating invited known) :
    (c.happened env parse i factory).Negotiating invited known := by
  cases i
  case receivedMessage message =>
    rw [Conference.happened]
    cases message with
    | none => exact negotiating
    | some object =>
      have reply (kind : ReplyKind) (func : Continuation) :
          (JanusVideoRoomManager.callContinuation env
            (c.client.take kind (object.text "transaction") func object) func object).media =
              c.client.media :=
        (callContinuation_media _ _).trans take_media
      rw [onWebSocketReceivedMessage]
      split_ifs with success ack event
      · refine negotiating.same ?_
        rw [JanusVideoRoomManager.onMessageSuccess]
        split
        · exact reply .success _
        · rfl
      · refine negotiating.same ?_
        rw [JanusVideoRoomManager.onMessageAck]
        split
        · exact reply .ack _
        · rfl
      · have reports : (Input.receivedMessage (some object)).Reports object := ⟨rfl, event⟩
        split
        · next tag tagged => exact negotiating.onVideoRoomEvent knows invites ⟨reports, tagged⟩
        · next untagged =>
          split
          · exact negotiating.onVideoRoomEventSdp knows invites reports true untagged
          · exact negotiating
      · exact negotiating
  all_goals exact negotiating.silent fun object => by simp [Input.Reports]

end

/-! ### Signals -/

/-- A stream signals what it vouches for. -/
theorem Negotiating.signal (negotiating : c.Negotiating invited known) {signal : Signal}
    {k : StreamClass} {p : Ptr} {x : PeerStream} (there : c.stream k p = some x)
    (vouches : x.Vouches known signal) : (c.emit signal).Negotiating invited known where
  sound := negotiating.sound
  bidding :=
    { made := negotiating.bidding.made
      bidden := negotiating.bidding.bidden
      vouched := by
        intro posted member
        rcases List.mem_append.1 member with before | new
        · exact negotiating.bidding.vouched posted before
        · obtain rfl := List.mem_singleton.1 new
          exact ⟨k, p, x, there, vouches⟩ }
  listed := negotiating.listed

/-- Only a connection signals candidates. -/
theorem Negotiating.report (negotiating : c.Negotiating invited known) (k : StreamClass) (p : Ptr)
    {signal : Int → Signal}
    (vouches : ∀ x : PeerStream, (x.NoNullCall → known x.mHandleID) →
      x.Vouches known (signal x.mHandleID)) : (c.report k p signal).Negotiating invited known := by
  rw [Conference.report]
  split
  · next x there =>
    split_ifs with present
    · exact negotiating.signal there (vouches x fun fine =>
        (negotiating.bidding.bidden k p x there fine).connected present)
    · exact negotiating
  · exact negotiating

/-- A description that was asked for is made where there is a connection. -/
theorem Negotiating.OnSuccess (negotiating : c.Negotiating invited known) (k : StreamClass)
    (p : Ptr) (desc : Jsep) : (c.OnSuccess k p desc).Negotiating invited known := by
  rw [Conference.OnSuccess]
  split
  · next x there =>
    split_ifs with none
    · exact negotiating
    · have one {y : PeerStream} (found : c.stream k p = some y) : y = x :=
        Option.some.inj (found.symm.trans there)
      have shape := PeerStream.OnSuccess_eq none desc
      have made : (c.call k p (·.step (.OnSuccess desc))).Negotiating invited known := by
        refine negotiating.call (fun y found fine => ?_) (fun y found => ?_)
          (fun y found fine bidden => ?_) fun y id found fine stands => ?_
        · obtain rfl := one found
          exact (PeerStream.OnSuccess_fine fine none).1
        · obtain rfl := one found
          rw [shape]
          exact List.subset_append_left _ _
        · obtain rfl := one found
          have present := (PeerStream.OnSuccess_fine fine none).2
          have bid := bidden.asked (Nat.pos_of_ne_zero none) present
          rw [shape]
          refine ⟨fun entry member => ?_, fun _ _ => bid, bidden.connected⟩
          rcases List.mem_append.1 member with before | new
          · exact bidden.sent entry before
          · obtain rfl := List.mem_singleton.1 new
            exact bid
        · obtain rfl := one found
          have present := (PeerStream.OnSuccess_fine fine none).2
          rw [shape]
          exact ⟨stands.handle, fun absent => by simp [present] at absent⟩
      refine made.signal (k := k) (p := p) (x := x.step (.OnSuccess desc)) ?_ ?_
      · rw [call_stream, if_pos ⟨rfl, rfl⟩]
        exact congrArg (Option.map _) there
      · rw [shape]
        exact List.mem_append_right _ (List.mem_singleton_self _)
  · exact negotiating

/-- **Every event** that names the known and asks the invited. -/
theorem Negotiating.step (negotiating : c.Negotiating invited known) (e : ConferenceInput)
    (knows : ∀ i, e.input? = some i → ∀ h, i.Names h → known h)
    (invites : ∀ i, e.input? = some i → ∀ h, i.Invites parse h → invited h) :
    (c.step env parse e).Negotiating invited known := by
  cases e with
  | happened i other factory => exact negotiating.happened (knows i rfl) (invites i rfl)
  | delivered =>
    rw [Conference.step]
    split
    · next signal signals took =>
      have same := (Mailbox.take_eq_some took).1
      have taken : ({ c with signals := signals } : Conference).Negotiating invited known :=
        ⟨negotiating.sound, ⟨negotiating.bidding.made, negotiating.bidding.bidden, fun posted member =>
          negotiating.bidding.vouched posted (same ▸ member)⟩, negotiating.listed⟩
      exact taken.silent fun object => by cases signal <;> simp [Input.Reports, Signal.slot]
    · exact negotiating
  | OnSuccess k p desc => exact negotiating.OnSuccess k p desc
  | OnFailure k p =>
    refine negotiating.call (fun _ _ fine => (PeerStream.noNullCall_congr rfl).1 fine)
      (fun _ _ => List.Subset.refl _) (fun x _ _ bidden => ?_) fun x id _ _ stands => ?_
    · exact ⟨bidden.sent, fun pending => bidden.asked (Nat.lt_of_lt_of_le pending (Nat.sub_le _ _)),
        bidden.connected⟩
    · refine ⟨stands.handle, fun absent => ?_⟩
      show x.descriptions - 1 = 0
      rw [stands.fresh absent]
  | OnIceCandidate k p candidate =>
    rw [Conference.step]
    exact negotiating.report k p fun _ connected => connected
  | OnIceGatheringComplete k p =>
    rw [Conference.step]
    exact negotiating.report k p fun _ connected => connected

end

end Conference

/-! ## A run -/

/-- An event of the run names the handle. -/
def Named (es : List ConferenceInput) (h : Int) : Prop :=
  ∃ e ∈ es, ∃ i, e.input? = some i ∧ i.Names h

/-- An event of the run asks the stream of the handle for a description. -/
def Invited (parse : Conference.CreateSessionDescription) (es : List ConferenceInput) (h : Int) :
    Prop :=
  ∃ e ∈ es, ∃ i, e.input? = some i ∧ i.Invites parse h

section
variable (env : Env) (parse : Conference.CreateSessionDescription) (es : List ConferenceInput)

theorem negotiating_initial (invited known : Int → Prop) :
    (Conference.initial env).Negotiating invited known where
  sound := sound_initial env
  bidding :=
    { made := fun k => by cases k <;> rfl
      bidden := fun k p x there => by cases there
      vouched := fun signal posted => by cases posted }
  listed := fun k id info found => by cases k <;> cases found

theorem negotiating_after :
    (Machine.run (Conference.step env parse) (Conference.initial env) es).Negotiating
      (Invited parse es) (Named es) := by
  have inside : Machine.Along (Conference.step env parse) (fun _ e => e ∈ es)
      (Conference.initial env) es := Machine.along_inputs.2 fun _ member => member
  refine Machine.run_keeps (fun c e negotiating member => ?_) (negotiating_initial env _ _) inside
  exact negotiating.step e (fun i given h names => ⟨e, member, i, given, names⟩)
    fun i given h invites => ⟨e, member, i, given, invites⟩

end

/-- **Descriptions and candidates go where they belong.** As long as no operation meets a null
connection, a description leaves under the handle of the stream that made it, which an event
asked for one, and a candidate under the handle of a stream that signalled it, for which there
was an event. -/
theorem negotiated (env : Env) (parse : Conference.CreateSessionDescription)
    (es : List ConferenceInput) :
    let c := Machine.run (Conference.step env parse) (Conference.initial env) es
    (∀ k, ∀ x ∈ c.streams k, x.NoNullCall) →
      ∀ entry ∈ c.client.messages,
        (∀ h body jsep, entry.2.request = .message h body (some jsep) →
          ∃ id k, ∃ x ∈ c.streams k, h = castDouble id ∧ (id, jsep) ∈ x.LocalSDP ∧
            Invited parse es id) ∧
        ∀ h candidate, entry.2.request = .trickle h candidate →
          ∃ id, h = castDouble id ∧ Named es id ∧
            ((∃ c', .LocalIceCandidate id c' ∈ c.signals.posted ∧ candidate = c'.message) ∨
              .IceGatheringComplete id ∈ c.signals.posted ∧ candidate = .completed) := by
  intro c fine entry member
  have negotiating : c.Negotiating (Invited parse es) (Named es) := negotiating_after env parse es
  obtain ⟨⟨is, replays⟩, arrived⟩ := streams_refine env parse es
  rw [replays.client] at member
  obtain ⟨i, inside, due⟩ := messages_due env is entry member
  -- the input is a slot, so it ran for a signal
  have signalled (slot : i.isSlot = true) : ∃ signal ∈ c.signals.posted, signal.slot = i := by
    have there : i ∈ is.filter (·.isSlot) := List.mem_filter.2 ⟨inside, slot⟩
    rw [replays.slots] at there
    obtain ⟨signal, received, same⟩ := List.mem_map.1 there
    exact ⟨signal, arrived.subset received, same⟩
  constructor
  · intro h body jsep request
    rw [request] at due
    obtain ⟨id, rfl, handle⟩ := due
    obtain ⟨signal, posted, same⟩ := signalled rfl
    cases signal <;> cases same
    obtain ⟨k, p, x, there, vouches⟩ := negotiating.bidding.vouched _ posted
    have inside := List.mem_of_getElem? there
    have bidden := negotiating.bidding.bidden k p x there (fine k x inside)
    exact ⟨id, k, x, inside, handle, vouches, bidden.sent _ vouches⟩
  · intro h candidate request
    rw [request] at due
    obtain ⟨id, c', reports, handle, rfl⟩ := due
    have slot : i.isSlot = true := by
      cases i <;> first | rfl | cases reports
    obtain ⟨signal, posted, rfl⟩ := signalled slot
    obtain ⟨k, p, x, there, vouches⟩ := negotiating.bidding.vouched _ posted
    have fine := fine k x (List.mem_of_getElem? there)
    cases signal with
    | LocalSDP => cases reports
    | LocalIceCandidate =>
      cases reports
      exact ⟨id, handle, vouches fine, Or.inl ⟨c', posted, rfl⟩⟩
    | IceGatheringComplete =>
      cases reports
      exact ⟨id, handle, vouches fine, Or.inr ⟨posted, rfl⟩⟩

/-- A publisher joins, and its offer leaves when the signal is taken. -/
theorem negotiated_sample :
    let parse : Conference.CreateSessionDescription := fun _ _ => some .kOffer
    let factory : Factory := { connection := true }
    let es : List ConferenceInput := [.happened (.joinVideoRoom 1234 "cc") rfl factory,
      .happened (Server.success (Env.sample.random 0) 7) rfl factory,
      .happened (Server.event { tag := "joined", sender := 7 }) rfl factory,
      .OnSuccess .VideoAudio 0 ⟨"offer", "v=0"⟩, .delivered]
    let c := Machine.run (Conference.step Env.sample parse) (Conference.initial Env.sample) es
    c.client.messages.map (·.2.request) = [.attach .videoroom,
        .message 7 (.join 1234 (.publisher "cc")) none,
        .message 7 (.configure true true) (some ⟨"offer", "v=0"⟩)] ∧
      ∃ id k, ∃ x ∈ c.streams k, 7 = castDouble id ∧ (id, ⟨"offer", "v=0"⟩) ∈ x.LocalSDP ∧
        Invited parse es id := by
  intro parse factory es c
  have requests : c.client.messages.map (·.2.request) = [.attach .videoroom,
      .message 7 (.join 1234 (.publisher "cc")) none,
      .message 7 (.configure true true) (some ⟨"offer", "v=0"⟩)] := by
    decide +kernel
  refine ⟨requests, ?_⟩
  have fine : ∀ k, ∀ x ∈ c.streams k, x.NoNullCall := by
    have video : ∀ x ∈ c.streams .VideoAudio, ∀ call ∈ x.calls, call.2 = true := by decide +kernel
    have data : ∀ x ∈ c.streams .DataChannels, ∀ call ∈ x.calls, call.2 = true := by decide +kernel
    rintro (_ | _)
    · exact video
    · exact data
  obtain ⟨entry, member, request⟩ :
      ∃ entry ∈ c.client.messages, entry.2.request =
        .message 7 (.configure true true) (some ⟨"offer", "v=0"⟩) := by
    have last : .message 7 (.configure true true) (some ⟨"offer", "v=0"⟩) ∈
        c.client.messages.map (·.2.request) := by
      rw [requests]
      simp
    exact List.mem_map.1 last
  exact (negotiated Env.sample parse es fine entry member).1 7 _ _ request

end WebrtcDemo
