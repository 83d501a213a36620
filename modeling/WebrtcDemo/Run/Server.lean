import WebrtcDemo.Json.LongLong
import WebrtcDemo.Run.Quiet

/-!
# What a server sends

The messages of a well-behaved server, as the client receives them, and what the
client reads in them. A number survives the way through its text as long as it is
a `long long`.
-/

namespace WebrtcDemo

open JanusVideoRoomManager (dataObj publisherIds)
open Numeral (llongMin llongMax)

namespace Server

/-- A `success` that carries an id: the reply to an attach request, or to `create`. -/
def successReply (transaction : String) (id : Int) : Json :=
  .obj [("data", .obj [("id", .int id)]), ("janus", .str "success"),
    ("transaction", .str transaction)]

def success (transaction : String) (id : Int) : Input :=
  .receivedMessage (some (successReply transaction id))

def ackReply (transaction : String) : Json :=
  .obj [("janus", .str "ack"), ("transaction", .str transaction)]

def ack (transaction : String) : Input := .receivedMessage (some (ackReply transaction))

/-- An event of the video room plugin. -/
structure VideoEvent where
  tag : String
  sender : Int
  publishers : List Int := []
  unpublished : Option Int := none
  offer : Option String := none

namespace VideoEvent

def data (e : VideoEvent) : Json :=
  .obj ([("publishers", .arr (e.publishers.map fun id => .obj [("id", .int id)]))] ++
    (e.unpublished.map fun id => ("unpublished", .int id)).toList ++ [("videoroom", .str e.tag)])

def object (e : VideoEvent) : Json :=
  .obj ([("janus", .str "event")] ++
    (e.offer.map fun sdp => ("jsep", .obj [("sdp", .str sdp), ("type", .str "offer")])).toList ++
    [("plugindata", .obj [("data", e.data)]), ("sender", .int e.sender)])

end VideoEvent

def event (e : VideoEvent) : Input := .receivedMessage (some e.object)

/-- An event of the text room plugin that brings a description. -/
def textOffer (sender : Int) (sdp : String) : Input :=
  .receivedMessage (some (.obj [("janus", .str "event"),
    ("jsep", .obj [("sdp", .str sdp), ("type", .str "offer")]),
    ("plugindata", .obj [("data", .obj [("textroom", .str "event")])]), ("sender", .int sender)]))

/-! ## What the client reads -/

section
variable {t t' : String} {id : Int} {kind : ReplyKind} {reply : Json}

theorem success_answers :
    (success t id).Answers kind t' reply ↔
      kind = .success ∧ t' = t ∧ reply = successReply t id := by
  have janus : (successReply t id).text "janus" = "success" := rfl
  have transaction : (successReply t id).text "transaction" = t := rfl
  constructor
  · rintro ⟨same, tag, name⟩
    obtain rfl : successReply t id = reply := by simpa [success] using same
    refine ⟨?_, name.symm.trans transaction, rfl⟩
    rw [janus] at tag
    cases kind
    · rfl
    · exact absurd tag (by decide)
  · rintro ⟨rfl, rfl, rfl⟩
    exact ⟨rfl, janus, transaction⟩

theorem replyId_success (low : llongMin ≤ id) (high : id ≤ llongMax) :
    JanusPeerConnection.replyId (successReply t id) = id :=
  JsonValueToLongLong_int rfl low high

/-- A reply is no event. -/
theorem success_unreported (object : Json) : ¬ (success t id).Reports object := by
  rintro ⟨same, isEvent⟩
  obtain rfl : successReply t id = object := by simpa [success] using same
  have janus : (successReply t id).text "janus" = "success" := rfl
  rw [janus] at isEvent
  exact absurd isEvent (by decide)

theorem ack_unreported (object : Json) : ¬ (ack t).Reports object := by
  rintro ⟨same, isEvent⟩
  obtain rfl : ackReply t = object := by simpa [ack] using same
  have janus : (ackReply t).text "janus" = "ack" := rfl
  rw [janus] at isEvent
  exact absurd isEvent (by decide)

variable (e : VideoEvent)

theorem VideoEvent.reports : (event e).Reports e.object := by
  exact ⟨rfl, rfl⟩

theorem VideoEvent.dataObj_object : dataObj e.object = e.data := by
  rcases e with ⟨tag, sender, publishers, unpublished, offer⟩
  cases offer <;> rfl

theorem VideoEvent.tag_object :
    GetStringFromJsonObject (dataObj e.object) "videoroom" = some e.tag := by
  rw [e.dataObj_object]
  rcases e with ⟨tag, sender, publishers, unpublished, offer⟩
  cases unpublished <;> rfl

theorem VideoEvent.sender_object (low : llongMin ≤ e.sender) (high : e.sender ≤ llongMax) :
    JsonValueToLongLong e.object "sender" = e.sender := by
  refine JsonValueToLongLong_int ?_ low high
  rcases e with ⟨tag, sender, publishers, unpublished, offer⟩
  cases offer <;> rfl

theorem VideoEvent.signed_object : (GetValueFromJsonObject e.object "sender").isSome := by
  rcases e with ⟨tag, sender, publishers, unpublished, offer⟩
  cases offer <;> rfl

/-- An event names the handle it comes from. -/
theorem VideoEvent.names {h : Int} (low : llongMin ≤ e.sender) (high : e.sender ≤ llongMax)
    (named : (event e).Names h) : h = e.sender := by
  obtain ⟨object, ⟨same, -⟩, rfl⟩ := named
  obtain rfl : e.object = object := by simpa [event] using same
  exact e.sender_object low high

theorem VideoEvent.publishers_object
    (inRange : ∀ id ∈ e.publishers, llongMin ≤ id ∧ id ≤ llongMax) :
    publisherIds e.object = e.publishers := by
  have array : (dataObj e.object).member "publishers" =
      .arr (e.publishers.map fun id => .obj [("id", .int id)]) := by
    rw [e.dataObj_object]
    rfl
  rw [publisherIds, array, JsonArrayToValueVector, List.map_map]
  conv_rhs => rw [← List.map_id e.publishers]
  refine List.map_congr_left fun id member => ?_
  obtain ⟨low, high⟩ := inRange id member
  exact JsonValueToLongLong_int rfl low high

end

end Server

end WebrtcDemo
