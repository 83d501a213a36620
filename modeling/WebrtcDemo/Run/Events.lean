import WebrtcDemo.Run.Transition

/-!
# The handler of an event

An event is handled by its `videoroom` tag, or as one of a text room if it has none
but a `textroom` tag. Four handlers are registered; every other event is ignored.
-/

namespace WebrtcDemo

open JanusVideoRoomManager (dataObj)

/-- The `videoroom` tag of an event. -/
def videoRoomTag (object : Json) : Option String := GetStringFromJsonObject (dataObj object) "videoroom"

/-- The input is a videoroom event with this tag. -/
def Input.Tags (i : Input) (tag : String) (object : Json) : Prop :=
  i.Reports object ∧ videoRoomTag object = some tag

/-- The session description that an event brings, empty for none. -/
def offeredSdp (object : Json) : String := (object.member "jsep").text "sdp"

/-- The handle that an event comes from. -/
def senderOf (object : Json) : Int := JsonValueToLongLong object "sender"

section
variable {env : Env} {i : Input} {s : Client} {object : Json}

theorem Input.Reports.unanswered (event : i.Reports object) (kind : ReplyKind) (t : String)
    (object' : Json) : ¬ i.Answers kind t object' := by
  rintro ⟨same, tag, -⟩
  obtain rfl : object = object' := by simpa [event.1] using same
  rw [event.2] at tag
  cases kind <;> exact absurd tag (by decide)

theorem Input.Reports.only (event : i.Reports object) {object' : Json}
    (other : i.Reports object') : object' = object := by
  simpa [event.1] using other.1.symm

theorem step_reports (event : i.Reports object) :
    step env s i =
      match videoRoomTag object with
      | some tag => JanusVideoRoomManager.onVideoRoomEvent env s tag object
      | none =>
        match GetStringFromJsonObject (dataObj object) "textroom" with
        | some _ => JanusVideoRoomManager.onVideoRoomEventSdp s object true
        | none => s := by
  obtain ⟨rfl, isEvent⟩ := event
  have notSuccess : object.text "janus" ≠ "success" := by
    rw [isEvent]
    decide
  have notAck : object.text "janus" ≠ "ack" := by
    rw [isEvent]
    decide
  rw [step, JanusVideoRoomManager.onWebSocketReceivedMessage]
  simp only [if_neg notSuccess, if_neg notAck, if_pos isEvent]
  rfl

theorem step_videoRoom {tag : String} (event : i.Tags tag object) :
    step env s i = JanusVideoRoomManager.onVideoRoomEvent env s tag object := by
  rw [step_reports event.1, event.2]

variable (env s) in
/-- **The four handlers.** -/
theorem step_event_cases (event : i.Reports object) :
    videoRoomTag object = some "joined" ∧
        step env s i = JanusVideoRoomManager.onVideoRoomEventJoin env s object ∨
      videoRoomTag object = some "attached" ∧
        step env s i = JanusVideoRoomManager.onVideoRoomEventSdp s object false ∨
      videoRoomTag object = some "event" ∧
        step env s i = JanusVideoRoomManager.onVideoRoomEventEvent env s object ∨
      videoRoomTag object = none ∧
        step env s i = JanusVideoRoomManager.onVideoRoomEventSdp s object true ∨
      step env s i = s := by
  rw [step_reports event]
  split
  · next tag _ =>
    rw [JanusVideoRoomManager.onVideoRoomEvent]
    split_ifs with joined attached event
    · subst joined
      exact Or.inl ⟨by assumption, rfl⟩
    · subst attached
      exact Or.inr (Or.inl ⟨by assumption, rfl⟩)
    · subst event
      exact Or.inr (Or.inr (Or.inl ⟨by assumption, rfl⟩))
    · exact Or.inr (Or.inr (Or.inr (Or.inr rfl)))
  · split
    · exact Or.inr (Or.inr (Or.inr (Or.inl ⟨by assumption, rfl⟩)))
    · exact Or.inr (Or.inr (Or.inr (Or.inr rfl)))

end

end WebrtcDemo
