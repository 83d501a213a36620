import WebrtcDemo.Run.Leave
import WebrtcDemo.Run.Peers

/-!
# Texts that mean nothing

What the dispatcher does not understand, or has nothing to do for, changes nothing:
it descends through the text member by member, and every failing getter ends the
descent before anything is written.
-/

namespace WebrtcDemo

open JanusVideoRoomManager (dataObj)

/-- The `textroom` tag of an event. -/
def textRoomTag (object : Json) : Option String := GetStringFromJsonObject (dataObj object) "textroom"

/-- The texts that nothing is done for, by where the descent ends. -/
inductive Ignorable (s : Client) : Option Json → Prop where
  | rejected : Ignorable s none
  | shapeless {value : Json} (notObject : ∀ members, value ≠ .obj members) : Ignorable s (some value)
  | unknown {object : Json} (other : object.text "janus" ∉ ["success", "ack", "event"]) :
      Ignorable s (some object)
  | unawaited {object : Json} (kind : ReplyKind) (tag : object.text "janus" = kind.tag)
      (nothing : s.pending (kind, object.text "transaction") = none) : Ignorable s (some object)
  | untagged {object : Json} (event : object.text "janus" = "event")
      (video : videoRoomTag object = none) (text : textRoomTag object = none) :
      Ignorable s (some object)
  | unhandled {object : Json} {tag : String} (event : object.text "janus" = "event")
      (video : videoRoomTag object = some tag) (other : tag ∉ ["joined", "attached", "event"]) :
      Ignorable s (some object)
  | undescribed {object : Json} (event : object.text "janus" = "event")
      (tag : videoRoomTag object = some "attached" ∨
        videoRoomTag object = none ∧ (textRoomTag object).isSome)
      (nothing : offeredSdp object = "") : Ignorable s (some object)

/-- A `janus` that is none of the three is not looked at further. -/
theorem step_unknown (env : Env) (s : Client) {object : Json}
    (other : object.text "janus" ∉ ["success", "ack", "event"]) :
    step env s (.receivedMessage (some object)) = s := by
  simp only [List.mem_cons, List.not_mem_nil, or_false, not_or] at other
  obtain ⟨notSuccess, notAck, notEvent⟩ := other
  rw [step, JanusVideoRoomManager.onWebSocketReceivedMessage]
  simp only [if_neg notSuccess, if_neg notAck, if_neg notEvent]

/-- A value that is no object has no members. -/
theorem text_shapeless {value : Json} (notObject : ∀ members, value ≠ .obj members) (key : String) :
    value.text key = "" := by
  have absent : GetValueFromJsonObject value key = none := by
    cases value with
    | obj members => exact absurd rfl (notObject members)
    | _ => rfl
  rw [Json.text, GetStringFromJsonObject, absent]
  rfl

/-- **A text that nothing is done for leaves the whole client as it was.** -/
theorem ignorable_step (env : Env) (s : Client) (message : Option Json)
    (ignorable : Ignorable s message) : step env s (.receivedMessage message) = s := by
  cases ignorable with
  | rejected => rfl
  | shapeless notObject =>
    refine step_unknown env s ?_
    rw [text_shapeless notObject]
    decide
  | unknown other => exact step_unknown env s other
  | unawaited kind tag nothing => exact step_ignored ⟨rfl, tag, rfl⟩ nothing
  | @untagged object event video text =>
    have reports : Input.Reports (.receivedMessage (some object)) object := ⟨rfl, event⟩
    rw [textRoomTag] at text
    rw [step_reports reports, video, text]
  | @unhandled object tag event video other =>
    simp only [List.mem_cons, List.not_mem_nil, or_false, not_or] at other
    obtain ⟨notJoined, notAttached, notEvent⟩ := other
    rw [step_videoRoom ⟨⟨rfl, event⟩, video⟩, JanusVideoRoomManager.onVideoRoomEvent,
      if_neg notJoined, if_neg notAttached, if_neg notEvent]
  | @undescribed object event tag nothing =>
    have reports : Input.Reports (.receivedMessage (some object)) object := ⟨rfl, event⟩
    rcases tag with attached | ⟨video, text⟩
    · rw [step_videoRoom ⟨reports, attached⟩]
      exact sdp_nothing nothing false
    · obtain ⟨tag, text⟩ := Option.isSome_iff_exists.1 text
      rw [textRoomTag] at text
      rw [step_reports reports, video, text]
      exact sdp_nothing nothing true

/-- A `slow_link` event, after a session was asked for. -/
theorem ignorable_slow_link :
    step Env.sample (after Env.sample [.socketConnected]) (.receivedMessage (some
        (.obj [("janus", .str "event"), ("plugindata", .obj [("data",
          .obj [("videoroom", .str "slow_link")])])]))) =
      after Env.sample [.socketConnected] :=
  ignorable_step _ _ _ (.unhandled (by decide +kernel) (by decide +kernel : _ = some "slow_link")
    (by decide))

end WebrtcDemo
