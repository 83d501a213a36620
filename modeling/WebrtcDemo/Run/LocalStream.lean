import WebrtcDemo.Run.Ignored
import WebrtcDemo.Run.Lifetime

/-!
# The local data-channel stream

The client makes its data-channel streams where a text room describes itself, and the
last one made is the local one. So there is a local stream as soon as one description
of a text room has come, whatever else happens to the tables.
-/

namespace WebrtcDemo

/-- The input is an event of a text room that brings a description. -/
def Input.offersTextRoom : Input → Bool
  | .receivedMessage (some object) =>
    object.text "janus" = "event" && (videoRoomTag object).isNone && (textRoomTag object).isSome &&
      offeredSdp object ≠ ""
  | _ => false

/-- A client that has an entry in the table of data-channel streams has a local one. -/
def Client.Linked (s : Client) : Prop :=
  ∀ k ∈ s.conference.mRemoteStreamInfos_DataChannels, s.conference.LocalStream_DataChannels.isSome

section
variable {env : Env} {i : Input} {s s' : Client}

theorem Input.offersTextRoom_iff : i.offersTextRoom = true ↔
    ∃ object, i.Describes object true ∧ (textRoomTag object).isSome := by
  constructor
  · intro offers
    unfold offersTextRoom at offers
    split at offers
    · next object =>
      simp only [Bool.and_eq_true, decide_eq_true_eq, Option.isNone_iff_eq_none] at offers
      obtain ⟨⟨⟨event, video⟩, text⟩, offered⟩ := offers
      exact ⟨object, ⟨⟨rfl, event⟩, by simpa using offered, video⟩, text⟩
    · exact absurd offers (by simp)
  · rintro ⟨object, ⟨⟨rfl, event⟩, offered, video⟩, text⟩
    have video : videoRoomTag object = none := video
    simp [offersTextRoom, event, video, text, offered]

theorem Client.Linked.same (linked : s.Linked) (conference : s'.conference = s.conference) :
    s'.Linked := by
  rw [Client.Linked, conference]
  exact linked

/-! ## Descriptions -/

@[simp] theorem tellVideo_conference (id : Int) (type sdp : String) :
    (ConferenceManager.tellVideo s id type sdp).conference = s.conference := by
  unfold ConferenceManager.tellVideo
  split <;> rfl

@[simp] theorem tellData_conference (id : Int) (type sdp : String) :
    (ConferenceManager.tellData s id type sdp).conference = s.conference := by
  unfold ConferenceManager.tellData
  split <;> rfl

theorem addStreamInfo_DataChannels_local (p : Ptr) :
    (ConferenceManager.addStreamInfo_DataChannels s p).conference.LocalStream_DataChannels =
      s.conference.LocalStream_DataChannels := by
  unfold ConferenceManager.addStreamInfo_DataChannels
  dsimp only
  split
  · rw [releaseData_conference]
  · rfl

/-- The stream just made is the local one. -/
theorem ConnectToPeer_DataChannels_local (id : Int) :
    (ConferenceManager.ConnectToPeer_DataChannels s id).conference.LocalStream_DataChannels =
      some s.dataStreams := by
  rw [ConnectToPeer_DataChannels_eq, addStreamInfo_DataChannels_local]
  show (s.replacedLocal id).conference.LocalStream_DataChannels = some s.dataStreams
  unfold Client.replacedLocal
  cases s.conference.LocalStream_DataChannels with
  | none => rfl
  | some previous => exact congrArg (·.LocalStream_DataChannels) releaseData_conference

/-- After a description of a text room there is a local stream. -/
theorem onRetmoeSDP_local (linked : s.Linked) (id : Int) (type sdp : String) :
    (ConferenceManager.onRetmoeSDP s id type sdp true).conference.LocalStream_DataChannels.isSome := by
  rw [ConferenceManager.onRetmoeSDP_text, tellData_conference]
  split_ifs with missing
  · rw [ConnectToPeer_DataChannels_local]
    rfl
  · refine linked id (AList.lookup_isSome.1 ?_)
    simpa [Option.isNone_iff_eq_none, Option.isSome_iff_ne_none] using missing

/-- What describes itself to a video room leaves the data-channel streams alone. -/
theorem onRetmoeSDP_video_data (id : Int) (type sdp : String) :
    (ConferenceManager.onRetmoeSDP s id type sdp false).conference.LocalStream_DataChannels =
        s.conference.LocalStream_DataChannels ∧
      (ConferenceManager.onRetmoeSDP s id type sdp false).conference.mRemoteStreamInfos_DataChannels =
        s.conference.mRemoteStreamInfos_DataChannels := by
  rw [ConferenceManager.onRetmoeSDP_video, tellVideo_conference]
  split_ifs
  · rw [(ConnectToPeer_VideoAudio_connected s id true false false).conference]
    exact ⟨rfl, rfl⟩
  · exact ⟨rfl, rfl⟩

/-! ## Steps -/

/-- A piece of a step keeps the local stream, or is a description of a text room. -/
theorem Staged.local {start : Client} (piece : Staged i start s s') (linked : s.Linked) :
    s'.Linked ∧ (s'.conference.LocalStream_DataChannels = s.conference.LocalStream_DataChannels ∨
      (∃ object, i.Describes object true) ∧ s'.conference.LocalStream_DataChannels.isSome) := by
  cases piece with
  | apart same =>
    have conference : s'.conference = s.conference := congrArg Media.conference same
    exact ⟨linked.same conference, Or.inl (by rw [conference])⟩
  | windows => exact ⟨linked, Or.inl rfl⟩
  | @described object isTextRoom type event =>
    cases isTextRoom with
    | true =>
      have there := onRetmoeSDP_local linked (senderOf object) type (offeredSdp object)
      exact ⟨fun _ _ => there, Or.inr ⟨⟨object, event⟩, there⟩⟩
    | false =>
      obtain ⟨stream, table⟩ :=
        onRetmoeSDP_video_data (s := s) (senderOf object) type (offeredSdp object)
      refine ⟨?_, Or.inl stream⟩
      rw [Client.Linked, stream, table]
      exact linked
  | joined =>
    rw [Client.Linked, (ConnectToPeer_VideoAudio_connected s _ false true false).conference]
    exact ⟨linked, Or.inl rfl⟩
  | removed =>
    rw [Client.Linked, onRemoteStreamRemove_conference]
    exact ⟨fun k member => linked k (AList.mem_erase.1 member).2, Or.inl rfl⟩
  | left =>
    rw [Client.Linked, LeaveVideoRoom_conference]
    exact ⟨linked, Or.inl rfl⟩
  | room => exact ⟨linked, Or.inl rfl⟩
  | storedVideo => exact ⟨linked, Or.inl rfl⟩
  | storedData found =>
    have listed := AList.lookup_isSome.1 (Option.isSome_of_eq_some found)
    exact ⟨fun _ _ => linked _ listed, Or.inl rfl⟩
  | opened => exact ⟨linked, Or.inl rfl⟩

theorem Client.Linked.step (linked : s.Linked) (env : Env) (i : Input) :
    (WebrtcDemo.step env s i).Linked :=
  Machine.transitions_keep (fun _ _ piece linked => (piece.local linked).1) (step_staged env s i)
    linked

/-- A step that no text room describes itself in keeps the local stream. -/
theorem step_local_same (quiet : ∀ object, ¬ i.Describes object true) (linked : s.Linked) :
    (step env s i).conference.LocalStream_DataChannels = s.conference.LocalStream_DataChannels := by
  have kept := Machine.transitions_keep (P := fun t : Client => t.Linked ∧
    t.conference.LocalStream_DataChannels = s.conference.LocalStream_DataChannels)
    (fun _ _ piece before => ⟨(piece.local before.1).1, ?_⟩) (step_staged env s i) ⟨linked, rfl⟩
  · exact kept.2
  · rcases (piece.local before.1).2 with same | ⟨⟨object, described⟩, -⟩
    · exact same.trans before.2
    · exact absurd described (quiet object)

variable (env i) in
/-- **There is a local stream after a step** just if there was one before, or the step is the
description of a text room. -/
theorem step_local (linked : s.Linked) :
    (step env s i).conference.LocalStream_DataChannels.isSome ↔
      s.conference.LocalStream_DataChannels.isSome ∨ i.offersTextRoom = true := by
  rw [Input.offersTextRoom_iff]
  by_cases described : ∃ object, i.Describes object true
  · obtain ⟨object, described⟩ := described
    have video : videoRoomTag object = none := described.tags
    rcases text : textRoomTag object with _ | tag
    · have ignored : step env s i = s := by
        rw [step_reports described.event, video]
        dsimp only
        rw [show GetStringFromJsonObject _ "textroom" = none from text]
      rw [ignored]
      refine (or_iff_left ?_).symm
      rintro ⟨other, again, there⟩
      obtain rfl := described.event.only again.event
      simp [text] at there
    · refine iff_of_true ?_ (Or.inr ⟨object, described, by simp [text]⟩)
      rw [step_reports described.event, video]
      dsimp only
      rw [show GetStringFromJsonObject _ "textroom" = some tag from text]
      rw [JanusVideoRoomManager.onVideoRoomEventSdp]
      dsimp only
      rw [if_pos (show (object.member "jsep").text "sdp" ≠ "" from described.offered)]
      have emitted : (s.emit (.onRemoteSdp (senderOf object) ((object.member "jsep").text "type")
          (offeredSdp object) true)).Linked := linked
      exact onRetmoeSDP_local emitted _ _ _
  · rw [step_local_same (not_exists.1 described) linked]
    refine (or_iff_left ?_).symm
    rintro ⟨object, offers, -⟩
    exact described ⟨object, offers⟩

end

end WebrtcDemo
