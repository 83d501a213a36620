import WebrtcDemo.Run.Binding
import WebrtcDemo.Run.Publishers
import WebrtcDemo.Run.Routing

/-!
# Streams and the peers behind them

A stream is found by the handle of a peer: its descriptions and candidates go out
on that peer, and unpublishing that peer's feed removes it. Nothing checks, when a
description arrives, that there is such a peer. `Settled` peers, listed and with
their handle assigned for good, keep their streams routable, so every stream stays
so in the runs that make streams for settled peers only.
-/

namespace WebrtcDemo

open JanusVideoRoomManager (construct)

section
variable {env : Env} {i : Input} {s s' : Client} {object : Json} {h id : Int} {p : Ptr}

/-! ## The keys of the video table -/

theorem streams_same (conference : s'.conference = s.conference) : s'.streams = s.streams := by
  rw [Client.streams, conference, Client.streams]

theorem releaseVideo_streams (s : Client) (p : Ptr) : (s.releaseVideo p).streams = s.streams :=
  streams_same releaseVideo_conference

theorem releaseData_streams (s : Client) (p : Ptr) : (s.releaseData p).streams = s.streams :=
  streams_same releaseData_conference

theorem showStream_streams (s : Client) (p : Ptr) (id : Int) :
    (ConferenceManager.showStream s p id).streams = s.streams := by
  rw [ConferenceManager.showStream]
  split <;> rfl

theorem addStreamInfo_VideoAudio_streams (s : Client) (p : Ptr) :
    (ConferenceManager.addStreamInfo_VideoAudio s p).streams = insert (s.videoHandle p) s.streams := by
  have inserted : {k | k ∈ s.conference.mRemoteStreamInfos_VideoAudio.insert (s.videoHandle p)
      (ConferenceManager.newInfo p)} = insert (s.videoHandle p) s.streams := by
    ext k
    simp [Client.streams, AList.mem_insert]
  rw [ConferenceManager.addStreamInfo_VideoAudio]
  split
  · exact (releaseVideo_streams _ _).trans inserted
  · exact inserted

/-- A new stream is in the table under its handle. -/
theorem ConnectToPeer_VideoAudio_streams (s : Client) (id : Int) (show_ isConnect isLocal : Bool) :
    (ConferenceManager.ConnectToPeer_VideoAudio s id show_ isConnect isLocal).streams =
      insert id s.streams := by
  have added := addStreamInfo_VideoAudio_streams { s with
    videoHeap := Function.update s.videoHeap s.videoStreams
      (some { mHandleID := id, mIsLocal := isLocal })
    videoStreams := s.videoStreams + 1 } s.videoStreams
  have handle : Client.videoHandle { s with
    videoHeap := Function.update s.videoHeap s.videoStreams
      (some { mHandleID := id, mIsLocal := isLocal })
    videoStreams := s.videoStreams + 1 } s.videoStreams = id := by
    simp [Client.videoHandle]
  rw [handle] at added
  rw [ConferenceManager.ConnectToPeer_VideoAudio]
  cases show_ <;> cases isConnect
  · exact added
  · exact added
  · exact (showStream_streams _ _ _).trans added
  · exact (showStream_streams _ _ _).trans added

theorem tellVideo_streams (s : Client) (id : Int) (type sdp : String) :
    (ConferenceManager.tellVideo s id type sdp).streams = s.streams := by
  unfold ConferenceManager.tellVideo
  split <;> rfl

/-- A video description makes a stream unless there is one. -/
theorem onRetmoeSDP_video_streams (s : Client) (id : Int) (type sdp : String) :
    (ConferenceManager.onRetmoeSDP s id type sdp false).streams = insert id s.streams := by
  rw [ConferenceManager.onRetmoeSDP_video, tellVideo_streams]
  split_ifs with missing
  · exact ConnectToPeer_VideoAudio_streams s id _ _ _
  · refine (Set.insert_eq_of_mem ?_).symm
    exact AList.lookup_isSome.1 (by simpa [Option.isNone_iff_eq_none, ← Option.ne_none_iff_isSome]
      using missing)

theorem addStreamInfo_DataChannels_streams (s : Client) (p : Ptr) :
    (ConferenceManager.addStreamInfo_DataChannels s p).streams = s.streams := by
  rw [ConferenceManager.addStreamInfo_DataChannels]
  split
  · exact releaseData_streams _ _
  · rfl

theorem ConnectToPeer_DataChannels_streams (s : Client) (id : Int) :
    (ConferenceManager.ConnectToPeer_DataChannels s id).streams = s.streams := by
  rw [ConferenceManager.ConnectToPeer_DataChannels]
  refine (addStreamInfo_DataChannels_streams _ _).trans ?_
  dsimp only
  split
  · exact releaseData_streams _ _
  · rfl

/-- A text description does not touch the video table. -/
theorem onRetmoeSDP_text_streams (s : Client) (id : Int) (type sdp : String) :
    (ConferenceManager.onRetmoeSDP s id type sdp true).streams = s.streams := by
  have told : ∀ t : Client, (ConferenceManager.tellData t id type sdp).streams = t.streams := by
    intro t
    unfold ConferenceManager.tellData
    split <;> rfl
  rw [ConferenceManager.onRetmoeSDP_text, told]
  split_ifs
  · exact ConnectToPeer_DataChannels_streams s id
  · rfl

theorem removeVideo_streams (s : Client) (id : Int) :
    (ConferenceManager.removeVideo s id).streams = s.streams \ {id} := by
  unfold ConferenceManager.removeVideo
  split
  · next missing =>
    have absent : id ∉ s.streams := AList.lookup_eq_none.1 missing
    exact (Set.sdiff_singleton_eq_self absent).symm
  · refine (releaseVideo_streams _ _).trans ?_
    ext k
    exact AList.mem_erase.trans and_comm

theorem removeData_streams (s : Client) (id : Int) :
    (ConferenceManager.removeData s id).streams = s.streams := by
  unfold ConferenceManager.removeData
  split
  · rfl
  · exact releaseData_streams _ _

/-- Removing a stream takes its key out, and no other. -/
theorem onRemoteStreamRemove_streams (s : Client) (id : Int) :
    (ConferenceManager.onRemoteStreamRemove s id).streams = s.streams \ {id} := by
  rw [ConferenceManager.onRemoteStreamRemove_eq, removeData_streams]
  exact removeVideo_streams s id

/-! ## What an event does to them -/

theorem onVideoRoomEventSdp_streams (s : Client) (object : Json) :
    (JanusVideoRoomManager.onVideoRoomEventSdp s object false).streams =
      if offeredSdp object = "" then s.streams else insert (senderOf object) s.streams := by
  rw [JanusVideoRoomManager.onVideoRoomEventSdp, offeredSdp]
  by_cases empty : (object.member "jsep").text "sdp" = ""
  · rw [if_neg (not_not.2 empty), if_pos empty]
  · rw [if_pos empty, if_neg empty]
    exact onRetmoeSDP_video_streams _ _ _ _

theorem onVideoRoomEventSdp_text_streams (s : Client) (object : Json) :
    (JanusVideoRoomManager.onVideoRoomEventSdp s object true).streams = s.streams := by
  rw [JanusVideoRoomManager.onVideoRoomEventSdp]
  split_ifs
  · exact onRetmoeSDP_text_streams _ _ _ _
  · rfl

theorem attachFeeds_conference (env : Env) (s : Client) (ids : List Int) :
    (ids.foldl (attachFeed env) s).conference = s.conference := by
  induction ids generalizing s with
  | nil => rfl
  | cons id more ih =>
    rw [List.foldl_cons, ih, attachFeed]
    simp

variable (env) in
theorem onVideoRoomEventPublisher_streams (s : Client) (object : Json) :
    (JanusVideoRoomManager.onVideoRoomEventPublisher env s object).streams = s.streams := by
  rw [onVideoRoomEventPublisher_eq]
  exact streams_same (attachFeeds_conference env _ _)

variable (env) in
/-- A `joined` event makes a stream for its sender if that is the handle of a listed
peer by then. -/
theorem onVideoRoomEventJoin_streams (s : Client) (object : Json) :
    (JanusVideoRoomManager.onVideoRoomEventJoin env s object).streams =
      s.streams ∨
    (JanusVideoRoomManager.onVideoRoomEventPublisher env s object).Routes .video (senderOf object) ∧
      (JanusVideoRoomManager.onVideoRoomEventJoin env s object).streams =
        insert (senderOf object) s.streams := by
  rw [JanusVideoRoomManager.onVideoRoomEventJoin]
  split
  · next p found =>
    obtain ⟨listed, x, alive, holds⟩ := findPeer_some found
    refine Or.inr ⟨⟨p, listed, x, alive, holds⟩, ?_⟩
    rw [← onVideoRoomEventPublisher_streams env s object]
    exact ConnectToPeer_VideoAudio_streams _ _ _ _ _
  · exact Or.inl (onVideoRoomEventPublisher_streams env s object)

end

/-! ## Settled peers -/

/-- `p` is listed with the handle `h`, and no reply is awaited that could change it. -/
structure Settled (p : Ptr) (h : Int) (s : Client) : Prop where
  listed : p ∈ s.listed .video
  holds : ∃ x, s.peers p = some x ∧ x.mVideoRoomHandleID = h
  idle : ¬ s.Awaits p

/-- Every stream belongs to a settled peer. -/
def Streamed (s : Client) : Prop := ∀ h ∈ s.streams, ∃ p, Settled p h s

section
variable {env : Env} {i : Input} {s s' : Client} {object : Json} {h id : Int} {p : Ptr}

theorem Settled.routes (settled : Settled p h s) : s.Routes .video h :=
  ⟨p, settled.listed, settled.holds⟩

theorem Settled.older (settled : Settled p h s) (owned : Owned s) : p < s.constructed :=
  owned.older (Client.listed_holders settled.listed)

/-- The administrative peer of a kind of rooms is not listed. -/
theorem Settled.not_admin (settled : Settled p h s) (owned : Owned s) {room : RoomKind} {q : Ptr}
    (holds : s.admin room = some q) : q ≠ p := by
  rintro rfl
  have once := owned.once
  have listed := settled.listed
  cases room <;> grind [Client.holders]

theorem Settled.keep (settled : Settled p h s) (listed : p ∈ s.listed .video → p ∈ s'.listed .video)
    (peers : s'.peers p = s.peers p) (awaits : s'.Awaits p → s.Awaits p) : Settled p h s' where
  listed := listed settled.listed
  holds := by
    rw [peers]
    exact settled.holds
  idle waits := settled.idle (awaits waits)

theorem Settled.same (settled : Settled p h s) (listed : s'.listed .video = s.listed .video)
    (peers : s'.peers p = s.peers p) (pending : s'.pending = s.pending) : Settled p h s' :=
  settled.keep (by rw [listed]; exact id) peers (Client.awaits_of_pending pending p).1

theorem Settled.quiet (settled : Settled p h s) (same : Quiet i s s') : Settled p h s' :=
  settled.same (same.listed .video) (by rw [same.peers]) same.pending

theorem Settled.take (settled : Settled p h s) (kind : ReplyKind) (t : String) (func : Continuation)
    (object : Json) : Settled p h (s.take kind t func object) :=
  settled.keep (by simp) (by simp) Client.awaits_of_take

theorem Settled.setPeer (settled : Settled p h s) {q : Ptr} (other : q ≠ p)
    (x : JanusPeerConnection) : Settled p h (s.setPeer q x) :=
  settled.same (by simp) (by simp [Function.update_of_ne other.symm]) rfl

/-- Another peer, or the manager, asks for something. -/
theorem Settled.ask (settled : Settled p h s) (sender : Option Ptr) (session : Option Int)
    (request : Request) (kind : ReplyKind) {func : Continuation}
    (elsewhere : ∀ member, func ≠ .peer p member) :
    Settled p h (s.ask env sender session request kind func) := by
  refine settled.keep (by simp) (by simp) ?_
  rintro ⟨key, member, waits⟩
  rw [Client.ask_pending, Function.update_apply] at waits
  split_ifs at waits
  · exact absurd (Option.some.inj waits) (elsewhere member)
  · exact ⟨key, member, waits⟩

theorem Settled.attach (settled : Settled p h s) (owned : Owned s) (room : RoomKind)
    (peer : JanusPeerConnection) : Settled p h (s.attachNew env room peer) := by
  have older := settled.older owned
  refine settled.keep (fun listed => ?_) (by simp [Function.update_of_ne older.ne]) ?_
  · rw [Client.attachNew_listed]
    split_ifs with video
    · subst video
      exact List.mem_append_left _ listed
    · exact listed
  · rintro ⟨key, member, waits⟩
    rw [Client.attachNew_pending, Function.update_apply] at waits
    split_ifs at waits
    · injection Option.some.inj waits with same
      exact absurd same older.ne'
    · exact ⟨key, member, waits⟩

/-- An input that is no event, and leaves no video room, neither unsettles a peer nor
makes a stream. -/
theorem Transition.settled (owned : Owned s) (silent : ∀ object, ¬ i.Reports object)
    (stays : i.leaves? ≠ some .video) (taken : Transition env i s s') :
    (∀ p h, Settled p h s → Settled p h s') ∧ s'.streams ⊆ s.streams := by
  cases taken with
  | quiet same =>
    refine ⟨fun p h settled => settled.quiet same, fun h stream => ?_⟩
    rcases same.streams h stream with before | ⟨object, event, -⟩
    · exact before
    · exact absurd event (silent object)
  | drawn => exact ⟨fun p h settled => settled.same rfl rfl rfl, subset_rfl⟩
  | settings => exact ⟨fun p h settled => settled.same rfl rfl rfl, subset_rfl⟩
  | manage own =>
    exact ⟨fun p h settled => settled.ask _ _ _ _ (by cases own <;> simp),
      (streams_same (by simp)).subset⟩
  | attach room peer =>
    exact ⟨fun p h settled => settled.attach owned room peer, (streams_same (by simp)).subset⟩
  | appoint room peer =>
    refine ⟨fun p h settled => ?_, (streams_same (by simp)).subset⟩
    have older := settled.older owned
    exact settled.same (by simp) (by simp [Function.update_of_ne older.ne]) (by simp)
  | administer _ holds alive =>
    refine ⟨fun p h settled => ?_, (streams_same (by simp)).subset⟩
    have other := settled.not_admin owned holds
    exact (settled.setPeer other _).ask _ _ _ _ (by simp [other])
  | lost => exact ⟨fun p h settled => settled.same rfl rfl rfl, subset_rfl⟩
  | unlist cause =>
    obtain ⟨object, event, -⟩ := cause
    exact absurd event (silent object)
  | leave room leaves =>
    obtain rfl : room = .text := by
      cases room
      · exact absurd leaves stays
      · rfl
    refine ⟨fun p h settled => ?_, (streams_same (by simp)).subset⟩
    have apart : p ∉ s.listed .text := by
      have once := owned.once
      have listed := settled.listed
      grind [Client.holders]
    refine settled.same (by simp [Client.leave_listed]) ?_ (by simp)
    rw [owned.leave_peers]
    simp [apart]
  | speak =>
    exact ⟨fun p h settled => settled.same (by simp) (by simp) rfl, (streams_same (by simp)).subset⟩

theorem Reply.settled (answered : Reply env i s s') :
    (∀ p h, Settled p h s → Settled p h s') ∧ s'.streams ⊆ s.streams := by
  have taken {p h} (settled : Settled p h s) := settled.take
  have awaiting {p h kind t q member object} (settled : Settled p h s)
      (answer : Answer i s kind t (.peer q member) object) : q ≠ p := by
    rintro rfl
    exact settled.idle ⟨_, _, answer.waiting⟩
  cases answered with
  | session =>
    exact ⟨fun p h settled => (taken settled _ _ _ _).same rfl rfl rfl,
      (streams_same Client.take_conference).subset⟩
  | heartBeat =>
    exact ⟨fun p h settled => (taken settled _ _ _ _).same rfl rfl rfl,
      (streams_same Client.take_conference).subset⟩
  | dead =>
    exact ⟨fun p h settled => (taken settled _ _ _ _).same rfl rfl rfl,
      (streams_same Client.take_conference).subset⟩
  | @joined _ _ _ object x room answer alive =>
    refine ⟨fun p h settled => ?_, (streams_same (by simp)).subset⟩
    exact ((taken settled _ _ _ _).setPeer (awaiting settled answer)
      (room.setHandle (JanusPeerConnection.replyId object) x)).same (by simp) (by simp) rfl
  | admin todo isAdmin answer alive =>
    refine ⟨fun p h settled => ?_, (streams_same (by simp)).subset⟩
    have other := awaiting settled answer
    exact ((taken settled _ _ _ _).setPeer other _).ask _ _ _ _ (by simp [other])
  | outcome _ answer _ same =>
    refine ⟨fun p h settled => (taken settled _ _ _ _).quiet same, fun h stream => ?_⟩
    rcases same.streams h stream with before | ⟨object, event, -⟩
    · rwa [streams_same Client.take_conference] at before
    · exact absurd answer.named (event.unanswered _ _ _)

/-! ## Events -/

variable (env) in
/-- The loop over the publishers does not touch who is settled. -/
theorem Settled.publisher (settled : Settled p h s) (owned : Owned s) (object : Json) :
    Settled p h (JanusVideoRoomManager.onVideoRoomEventPublisher env s object) := by
  have older := settled.older owned
  have subscribed := attachFeeds env (s.keyed object) (newFeeds object)
  rw [onVideoRoomEventPublisher_eq]
  refine settled.keep (fun listed => ?_) (subscribed.old p older) ?_
  · rw [attachFeeds_listed]
    exact List.mem_append_left _ listed
  · rintro ⟨key, member, waits⟩
    rcases subscribed.waiting key p member waits with before | ⟨k, -, new, -⟩
    · exact ⟨key, member, before⟩
    · have later : s.constructed ≤ p := new ▸ Nat.le_add_right _ _
      exact absurd older later.not_gt

/-- After the loop a listed peer has the handle `h` only if one had it before, or
memory held it where a new peer was made. -/
theorem publisher_routes (owned : Owned s)
    (routes : (JanusVideoRoomManager.onVideoRoomEventPublisher env s object).Routes .video h) :
    s.Routes .video h ∨ ∃ k < (newFeeds object).length,
      (env.junk (s.constructed + k)).mVideoRoomHandleID = h := by
  rcases findPeer_cases (JanusVideoRoomManager.onVideoRoomEventPublisher env s object) .video h with
    ⟨-, nobody⟩ | ⟨p, -, found, -⟩
  · exact absurd routes nobody
  rcases findPeer_published owned found with before | ⟨-, k, early, holds⟩
  · obtain ⟨listed, x, alive, holds⟩ := findPeer_some before
    exact Or.inl ⟨p, listed, x, alive, holds⟩
  · exact Or.inr ⟨k, early, holds⟩

/-- `eraseP` takes out what `find?` finds. -/
theorem mem_eraseP_of_ne {α : Type*} {list : List α} {test : α → Bool} {first a : α}
    (found : list.find? test = some first) (member : a ∈ list) (other : a ≠ first) :
    a ∈ list.eraseP test := by
  obtain ⟨holds, before, rest, rfl, none⟩ := List.find?_eq_some_iff_append.1 found
  have none' : ∀ b ∈ before, ¬ test b = true := by simpa using none
  rw [List.eraseP_append_right _ none', List.eraseP_cons_of_pos holds]
  rcases List.mem_append.1 member with early | late
  · exact List.mem_append_left _ early
  · exact List.mem_append_right _ ((List.mem_cons.1 late).resolve_left other)

/-- Unpublishing removes a stream and unlists the peer it belongs to, or does nothing. -/
theorem unpublish_cases (s : Client) (object : Json) :
    JanusVideoRoomManager.onVideoRoomEventUnpublish s object = s ∨
      ∃ q x u, JanusVideoRoomManager.findPeer s (s.listed .video) (·.mSubscribeId) u = some q ∧
        s.peers q = some x ∧ u ≠ 0 ∧
        JanusVideoRoomManager.onVideoRoomEventUnpublish s object =
          (JanusVideoRoomManager.OnRemoteStreamRemove s x.mVideoRoomHandleID).removeFeed u := by
  rw [JanusVideoRoomManager.onVideoRoomEventUnpublish]
  split_ifs with nonzero
  · split
    · next q found =>
      obtain ⟨-, x, alive, -⟩ := findPeer_some found
      refine Or.inr ⟨q, x, _, found, alive, nonzero, ?_⟩
      rw [Client.removeFeed, if_neg nonzero, alive]
      rfl
    · exact Or.inl rfl
  · exact Or.inl rfl

theorem OnRemoteStreamRemove_streams (s : Client) (id : Int) :
    (JanusVideoRoomManager.OnRemoteStreamRemove s id).streams = s.streams \ {id} :=
  onRemoteStreamRemove_streams _ id

/-- A settled peer whose stream stays is not unlisted. -/
theorem Settled.unpublish (settled : Settled p h s)
    (stream : h ∈ (JanusVideoRoomManager.onVideoRoomEventUnpublish s object).streams) :
    Settled p h (JanusVideoRoomManager.onVideoRoomEventUnpublish s object) := by
  rcases unpublish_cases s object with same | ⟨q, x, u, found, alive, nonzero, removed⟩
  · rwa [same]
  · have quiet : Quiet (.socketConnected) s
        (JanusVideoRoomManager.OnRemoteStreamRemove s x.mVideoRoomHandleID) :=
      Quiet.OnRemoteStreamRemove _ s _
    rw [removed] at stream ⊢
    have elsewhere : h ∈ s.streams \ {x.mVideoRoomHandleID} := by
      rw [← OnRemoteStreamRemove_streams]
      exact stream
    have other : p ≠ q := by
      rintro rfl
      obtain ⟨y, alive', holds⟩ := settled.holds
      obtain rfl := Option.some.inj (alive.symm.trans alive')
      exact elsewhere.2 holds.symm
    refine settled.keep (fun listed => ?_) (congrFun quiet.peers p) ?_
    · have member := mem_eraseP_of_ne found listed other
      rw [Client.listed, Client.removeFeed, if_neg nonzero]
      dsimp only
      rw [quiet.janus, quiet.peers]
      exact member
    · rintro ⟨key, member, waits⟩
      rw [Client.removeFeed_pending, quiet.pending] at waits
      exact ⟨key, member, waits⟩

theorem unpublish_streams (s : Client) (object : Json) :
    (JanusVideoRoomManager.onVideoRoomEventUnpublish s object).streams ⊆ s.streams := by
  rcases unpublish_cases s object with same | ⟨q, x, u, -, -, -, removed⟩
  · rw [same]
  · rw [removed]
    have fewer : (JanusVideoRoomManager.OnRemoteStreamRemove s x.mVideoRoomHandleID).streams ⊆
        s.streams := by
      rw [OnRemoteStreamRemove_streams]
      exact Set.sdiff_subset
    exact fewer

end

/-- The event makes a stream for its sender, unless there is one: it brings a
description, or joins from the handle of a listed peer. -/
def MakesStream (env : Env) (s : Client) (object : Json) : Prop :=
  (videoRoomTag object = some "attached" ∨ videoRoomTag object = some "event") ∧
      offeredSdp object ≠ "" ∨
    videoRoomTag object = some "joined" ∧
      (s.Routes .video (senderOf object) ∨ ∃ k < (newFeeds object).length,
        (env.junk (s.constructed + k)).mVideoRoomHandleID = senderOf object)

/-- Streams are made for settled peers only. -/
def Settling (env : Env) (s : Client) (i : Input) : Prop :=
  ∀ object, i.Reports object → MakesStream env s object →
    senderOf object ∈ s.streams ∨ ∃ p, Settled p (senderOf object) s

section
variable {env : Env} {i : Input} {s : Client} {object : Json}

theorem Streamed.event (streamed : Streamed s) (owned : Owned s) (event : i.Reports object)
    (settling : Settling env s i) : Streamed (WebrtcDemo.step env s i) := by
  have named : MakesStream env s object → ∀ h ∈ insert (senderOf object) s.streams,
      ∃ p, Settled p h s := by
    rintro makes h (rfl | stream)
    · exact (settling object event makes).elim (streamed _) id
    · exact streamed h stream
  -- the peers of streams made by a description, before the rest of the handler
  have described : (videoRoomTag object = some "attached" ∨ videoRoomTag object = some "event") →
      Streamed (JanusVideoRoomManager.onVideoRoomEventSdp s object false) := by
    intro tags h stream
    have quiet := onVideoRoomEventSdp_quiet (s := s) event false
    rw [onVideoRoomEventSdp_streams] at stream
    split_ifs at stream with none
    · obtain ⟨p, settled⟩ := streamed h stream
      exact ⟨p, settled.quiet quiet⟩
    · obtain ⟨p, settled⟩ := named (Or.inl ⟨tags, none⟩) h stream
      exact ⟨p, settled.quiet quiet⟩
  rcases step_event_cases env s event with
    ⟨tag, same⟩ | ⟨tag, same⟩ | ⟨tag, same⟩ | ⟨-, same⟩ | same
  · rw [same]
    intro h stream
    have settled : ∃ p, Settled p h s := by
      rcases onVideoRoomEventJoin_streams env s object with unchanged | ⟨routes, made⟩
      · exact streamed h (unchanged ▸ stream)
      · exact named (Or.inr ⟨tag, publisher_routes owned routes⟩) h (made ▸ stream)
    obtain ⟨p, settled⟩ := settled
    have published := settled.publisher env owned object
    refine ⟨p, ?_⟩
    rw [JanusVideoRoomManager.onVideoRoomEventJoin]
    split
    · exact published.quiet (Quiet.OnConnectToPeer ⟨object, event, rfl⟩ _ _ _)
    · exact published
  · rw [same]
    exact described (Or.inl tag)
  · rw [same, JanusVideoRoomManager.onVideoRoomEventEvent]
    intro h stream
    have before := unpublish_streams _ _ stream
    rw [onVideoRoomEventPublisher_streams] at before
    obtain ⟨p, settled⟩ := described (Or.inr tag) h before
    have owned' := owned.quiet (onVideoRoomEventSdp_quiet (s := s) event false)
    exact ⟨p, (settled.publisher env owned' object).unpublish stream⟩
  · rw [same]
    intro h stream
    rw [onVideoRoomEventSdp_text_streams] at stream
    obtain ⟨p, settled⟩ := streamed h stream
    exact ⟨p, settled.quiet (onVideoRoomEventSdp_quiet event true)⟩
  · rwa [same]

/-- A step that makes streams for settled peers only keeps every stream with one. -/
theorem Streamed.step (streamed : Streamed s) (owned : Owned s) (settling : Settling env s i) :
    Streamed (WebrtcDemo.step env s i) := by
  by_cases event : ∃ object, i.Reports object
  · obtain ⟨object, event⟩ := event
    exact streamed.event owned event settling
  · by_cases leaves : i.leaves? = some .video
    · obtain rfl : i = .leaveVideoRoom := by
        cases i <;> simp [Input.leaves?] at leaves ⊢
      intro h stream
      have empty : h ∈ (ConferenceManager.LeaveVideoRoom s).streams := by
        have same : ((ConferenceManager.LeaveVideoRoom s).leave .video).streams =
            (ConferenceManager.LeaveVideoRoom s).streams := streams_same Client.leave_conference
        exact same ▸ stream
      exact absurd empty (AList.notMem_empty h)
    · have kept : Owned (WebrtcDemo.step env s i) ∧
          (∀ p h, Settled p h s → Settled p h (WebrtcDemo.step env s i)) ∧
          (WebrtcDemo.step env s i).streams ⊆ s.streams := by
        refine (step_decomposes env).keeps (P := fun t : Client => Owned t ∧
          (∀ p h, Settled p h s → Settled p h t) ∧ t.streams ⊆ s.streams) ?_ ?_
          ⟨owned, fun _ _ => id, subset_rfl⟩
        · rintro a b answered ⟨owned, settled, fewer⟩
          exact ⟨owned.reply answered, fun p h before => answered.settled.1 p h (settled p h before),
            answered.settled.2.trans fewer⟩
        · rintro a b taken ⟨owned, settled, fewer⟩
          have each := taken.settled owned (not_exists.1 event) leaves
          exact ⟨owned.transition taken, fun p h before => each.1 p h (settled p h before),
            each.2.trans fewer⟩
      intro h stream
      obtain ⟨p, settled⟩ := streamed h (kept.2.2 stream)
      exact ⟨p, kept.2.1 p h settled⟩

end

/-! ## Every stream has its peer -/

/-- Every stream goes by the handle of a listed peer. -/
def Routable (s : Client) : Prop := ∀ h ∈ s.streams, s.Routes .video h

theorem streamed_initial (env : Env) : Streamed (Client.initial env) :=
  fun h stream => absurd stream (AList.notMem_empty h)

/-- **Every stream stays routable** in the runs that make streams for settled peers only. -/
theorem streams_routable (env : Env) (is : List Input)
    (settling : Machine.Along (step env) (Settling env) (Client.initial env) is) :
    Machine.Throughout (step env) Routable (Client.initial env) is := by
  have kept : Machine.Throughout (step env) (fun s => Owned s ∧ Streamed s) (Client.initial env) is :=
    Machine.throughout_of_keeps (fun s i both settling =>
      ⟨both.1.step i, both.2.step both.1 settling⟩) ⟨owned_initial, streamed_initial env⟩ settling
  rw [Machine.throughout_iff_prefix] at kept ⊢
  intro js isPrefix h stream
  obtain ⟨p, settled⟩ := (kept js isPrefix).2 h stream
  exact settled.routes

/-- A listed peer of a client that awaits no reply is settled. -/
theorem Settled.of_quiescent {s : Client} {p : Ptr} {h : Int}
    (empty : ∀ kind, (s.janus.callbacks kind).entries = []) (listed : p ∈ s.listed .video)
    (holds : (s.peers p).map (·.mVideoRoomHandleID) = some h) : Settled p h s where
  listed := listed
  holds := Option.map_eq_some_iff.1 holds
  idle := by
    rintro ⟨⟨kind, t⟩, member, waits⟩
    have waits : (s.janus.callbacks kind).lookup t = some (.peer p member) := waits
    have known : t ∈ s.janus.callbacks kind := AList.lookup_isSome.1 (by simp [waits])
    simp [AList.mem_keys, AList.keys, empty, List.keys] at known

theorem settling_of_silent {env : Env} {s : Client} {i : Input} (silent : ∀ object, ¬ i.Reports object) :
    Settling env s i :=
  fun object event => absurd event (silent object)

theorem Server.VideoEvent.settling {env : Env} {s : Client} (e : Server.VideoEvent) {p : Ptr}
    {h : Int} (sender : senderOf e.object = h) (settled : Settled p h s) :
    Settling env s (Server.event e) := by
  intro object event _
  obtain rfl := e.reports.only event
  exact Or.inr ⟨p, sender ▸ settled⟩

theorem joinVideoRoom_silent (room : Int32) (name : String) (object : Json) :
    ¬ (Input.joinVideoRoom room name).Reports object := by
  rintro ⟨same, -⟩
  simp at same

/-- A publisher and a subscriber, and the descriptions that come for the two. -/
theorem streams_routable_two :
    let is := [.joinVideoRoom 1234 "cc", Server.success (Env.sample.random 0) 7,
      Server.event { tag := "joined", sender := 7, publishers := [5] },
      Server.success (Env.sample.random 2) 8,
      Server.event { tag := "attached", sender := 8, offer := some "v=0" }]
    (after Env.sample is).conference.mRemoteStreamInfos_VideoAudio.keys = [8, 7] ∧
      Machine.Throughout (step Env.sample) Routable (Client.initial Env.sample) is := by
  intro is
  refine ⟨by decide +kernel, streams_routable Env.sample is ⟨?_, ?_, ?_, ?_, ?_, trivial⟩⟩
  · exact settling_of_silent (joinVideoRoom_silent _ _)
  · exact settling_of_silent Server.success_unreported
  · refine Server.VideoEvent.settling (p := 0) (h := 7) _ (by decide +kernel)
      (.of_quiescent (fun kind => ?_) (by decide +kernel) (by decide +kernel))
    cases kind <;> exact List.isEmpty_iff.1 (by decide +kernel)
  · exact settling_of_silent Server.success_unreported
  · refine Server.VideoEvent.settling (p := 1) (h := 8) _ (by decide +kernel)
      (.of_quiescent (fun kind => ?_) (by decide +kernel) (by decide +kernel))
    cases kind <;> exact List.isEmpty_iff.1 (by decide +kernel)

/-- A description that comes after its feed is unpublished makes a stream of no peer. -/
theorem late_description_unroutable : ¬ ∀ (env : Env) (is : List Input),
    (∀ i ∈ is, (∃ room name, i = .joinVideoRoom room name) ∨ ∃ message, i = .receivedMessage message) →
    Machine.Along (step env) Truthful (Client.initial env) is →
    Machine.Throughout (step env) Routable (Client.initial env) is := by
  intro always
  let joined : Server.VideoEvent := { tag := "joined", sender := 7, publishers := [5] }
  let gone : Server.VideoEvent := { tag := "event", sender := 7, unpublished := some 5 }
  let late : Server.VideoEvent := { tag := "event", sender := 8, offer := some "v=0" }
  let is := [.joinVideoRoom 1234 "cc", Server.success (Env.sample.random 0) 7,
    Server.event joined, Server.success (Env.sample.random 2) 8, Server.event gone,
    Server.event late]
  have kinds : ∀ i ∈ is, (∃ room name, i = .joinVideoRoom room name) ∨
      ∃ message, i = .receivedMessage message := by
    simp [is, Server.success, Server.event]
  have truthful : Machine.Along (step Env.sample) Truthful (Client.initial Env.sample) is := by
    refine ⟨truthful_of_silent (joinVideoRoom_silent _ _),
      truthful_of_silent Server.success_unreported, joined.truthful ?_ ?_ ?_,
      truthful_of_silent Server.success_unreported, gone.truthful ?_ ?_ ?_,
      late.truthful ?_ ?_ ?_, trivial⟩ <;> decide +kernel
  have routable : Routable (after Env.sample is) := (always Env.sample is kinds truthful).last
  obtain ⟨stream, one, handle⟩ :
      8 ∈ (after Env.sample is).conference.mRemoteStreamInfos_VideoAudio ∧
        (after Env.sample is).listed .video = [0] ∧
        ((after Env.sample is).peers 0).map (·.mVideoRoomHandleID) = some 7 := by
    decide +kernel
  generalize after Env.sample is = s at routable stream one handle
  obtain ⟨p, listed, x, alive, holds⟩ := routable 8 stream
  obtain rfl : p = 0 := List.mem_singleton.1 (one ▸ listed)
  rw [alive] at handle
  have seven : x.mVideoRoomHandleID = 7 := Option.some.inj handle
  exact absurd (holds.symm.trans seven) (by decide)

end WebrtcDemo
