import WebrtcDemo.Client.State

/-!
# The texts that are sent

Every message is built member by member as a `Json::Value` and written by `FastWriter`. A
message to the server is read and written once more by Qt on its way to the socket
(`JsonValueToQString`), a message on a data channel is sent as it is written.
-/

namespace WebrtcDemo
open Numeral

/-! ## Objects -/

/-- `msg[k] = v`: the members of an object stand in the order of their keys. -/
def assign (k : String) (v : Json) : List (String × Json) → List (String × Json)
  | [] => [(k, v)]
  | (key, value) :: more =>
    if k = key then (k, v) :: more
    else if k < key then (k, v) :: (key, value) :: more
    else (key, value) :: assign k v more

/-- The object that a sequence of assignments makes of a null value. -/
def Json.object (assignments : List (String × Json)) : Json :=
  .obj (assignments.foldl (fun members (k, v) => assign k v members) [])

/-! ## Messages to the server -/

def Plugin.name : Plugin → String
  | .videoroom => "janus.plugin.videoroom"
  | .textroom => "janus.plugin.textroom"

def Ptype.members : Ptype → List (String × Json)
  | .publisher display => [("ptype", .str "publisher"), ("display", .str display)]
  | .subscriber feed private_id =>
    [("ptype", .str "subscriber"), ("feed", .real feed), ("private_id", .real private_id)]

/-- A room id, an `unsigned int`. -/
def roomJson (room : UInt32) : Json := .int room.toNat

def Body.json : Body → Json
  | .join room ptype =>
    .object ([("request", .str "join"), ("room", roomJson room)] ++ ptype.members)
  | .setup => .object [("request", .str "setup")]
  | .create room => .object [("request", .str "create"), ("room", roomJson room)]
  | .destroy room => .object [("request", .str "destroy"), ("room", roomJson room)]
  | .configure audio video =>
    .object [("request", .str "configure"), ("audio", .bool audio), ("video", .bool video)]
  | .start room => .object [("request", .str "start"), ("room", roomJson room)]
  | .ack => .object [("request", .str "ack")]

def Jsep.json (jsep : Jsep) : Json :=
  .object [("type", .str jsep.type), ("sdp", .str jsep.sdp)]

def Candidate.json : Candidate → Json
  | .completed => .object [("completed", .bool true)]
  | .candidate sdp sdpMid sdpMLineIndex =>
    .object [("candidate", .str sdp), ("sdpMid", .str sdpMid),
      ("sdpMLineIndex", .int sdpMLineIndex.toInt)]

/-- What a request is, by the members that are not in every message. -/
def Request.members : Request → List (String × Json)
  | .create => [("janus", .str "create")]
  | .keepalive => [("janus", .str "keepalive")]
  | .attach plugin => [("janus", .str "attach"), ("plugin", .str plugin.name)]
  | .message handle_id body none =>
    [("janus", .str "message"), ("handle_id", .real handle_id), ("body", body.json)]
  | .message handle_id body (some jsep) =>
    [("janus", .str "message"), ("handle_id", .real handle_id), ("body", body.json),
      ("jsep", jsep.json)]
  | .trickle handle_id candidate =>
    [("janus", .str "trickle"), ("handle_id", .real handle_id), ("candidate", candidate.json)]

/-- The value that is built of a message; only `create` has no session. -/
def Message.json (m : Message) : Json :=
  .object (m.request.members ++ [("transaction", .str m.transaction)] ++
    m.session_id.toList.map fun id => ("session_id", .real id))

/-- `toLatin1`: what Latin-1 does not have becomes a question mark. -/
def toLatin1 (text : List Char) : List Char :=
  text.map fun c => if c.toNat < 0x100 then c else '?'

/-- The bytes of a message that `ConvertToJson` has Qt read, before Qt writes them again. -/
def Message.text (m : Message) : List Char := toLatin1 (JsonValueToString m.json)

/-! ## Messages on a data channel -/

/-- The value that is built of a message; the display name is taken as a C string. -/
def DataMessage.json : DataMessage → Json
  | .join transaction room username display =>
    .object [("textroom", .str "join"), ("transaction", .str transaction), ("room", .int room.toInt),
      ("username", .str username), ("display", .str (String.ofList (cString display.toList)))]
  | .message transaction room text =>
    .object [("textroom", .str "message"), ("transaction", .str transaction),
      ("room", .int room.toInt), ("text", .str text)]

/-- What goes over the channel. -/
def DataMessage.text (m : DataMessage) : List Char := JsonValueToString m.json

end WebrtcDemo
