import WebrtcDemo.Client.Wire
import WebrtcDemo.Json.RoundTrip
import WebrtcDemo.Run.Echo

/-!
# What the texts say

A receiver that reads the JSON text of a message and looks its members up by their keys
gets the message, whatever strings are in it. So a text has one message only.
-/

namespace WebrtcDemo

open JsonText Numeral

/-! ## Looking members up -/

section
variable {k : String} {v : Json} {members assignments : List (String × Json)}

theorem lookup_cons (key : String) :
    ((k, v) :: members).lookup key = if key = k then some v else members.lookup key := by
  by_cases same : key = k
  · simp [same]
  · rw [List.lookup_cons, beq_false_of_ne same, if_neg same]

theorem assign_lookup (key : String) :
    (assign k v members).lookup key = if key = k then some v else members.lookup key := by
  induction members with
  | nil => rw [assign, lookup_cons]
  | cons first more ih =>
    obtain ⟨other, value⟩ := first
    by_cases replaced : k = other
    · rw [assign, if_pos replaced, lookup_cons, lookup_cons, ← replaced]
      split_ifs <;> rfl
    · by_cases before : k < other
      · rw [assign, if_neg replaced, if_pos before, lookup_cons]
      · rw [assign, if_neg replaced, if_neg before, lookup_cons, lookup_cons, ih]
        by_cases here : key = k
        · rw [if_pos here, if_pos here, if_neg (here ▸ replaced)]
        · rw [if_neg here, if_neg here]

theorem foldl_lookup (key : String) :
    (assignments.foldl (fun members (k, v) => assign k v members) members).lookup key =
      (assignments.reverse.lookup key).or (members.lookup key) := by
  induction assignments generalizing members with
  | nil => rfl
  | cons first more ih =>
    obtain ⟨k, v⟩ := first
    rw [List.foldl_cons, ih, List.reverse_cons, List.lookup_append, Option.or_assoc, assign_lookup,
      lookup_cons]
    split_ifs <;> rfl

/-- The last assignment to a key counts. -/
theorem object_member (key : String) :
    (Json.object assignments).member key = (assignments.reverse.lookup key).getD .null := by
  rw [Json.object, Json.member_obj, foldl_lookup, List.lookup_nil, Option.or_none]

theorem assign_plain (value : Plain v) (others : PlainMembers members) :
    PlainMembers (assign k v members) := by
  induction members with
  | nil => exact ⟨value, others⟩
  | cons first more ih =>
    rw [assign]
    split_ifs
    · exact ⟨value, others.2⟩
    · exact ⟨value, others⟩
    · exact ⟨others.1, ih others.2⟩

theorem object_plain (plain : ∀ assignment ∈ assignments, Plain assignment.2) :
    Plain (.object assignments) := by
  have from_ : ∀ members, PlainMembers members →
      PlainMembers (assignments.foldl (fun members (k, v) => assign k v members) members) := by
    induction assignments with
    | nil => exact fun _ => id
    | cons first more ih =>
      intro members others
      exact ih (fun assignment member => plain assignment (List.mem_cons_of_mem _ member)) _
        (assign_plain (plain first List.mem_cons_self) others)
  exact from_ [] trivial

theorem object_text (key : String) :
    (Json.object assignments).text key =
      ((assignments.reverse.lookup key).bind GetStringFromJson).getD "" := by
  rw [Json.text, GetStringFromJsonObject, Json.object, GetValueFromJsonObject, foldl_lookup,
    List.lookup_nil, Option.or_none]

end

/-! ## The receiver of a message to the server -/

/-- A member that is a double without fraction. -/
def Json.whole? (value : Json) (k : String) : Option Int :=
  match value.member k with
  | .real q => some q.num
  | _ => none

/-- A member that is an integer. -/
def Json.integer (value : Json) (k : String) : Int :=
  match value.member k with
  | .int n => n
  | _ => 0

def Json.flag (value : Json) (k : String) : Bool :=
  match value.member k with
  | .bool b => b
  | _ => false

def Ptype.ofJson (value : Json) : Option Ptype :=
  if value.text "ptype" = "publisher" then some (.publisher (value.text "display"))
  else (value.whole? "feed").bind fun feed => (value.whole? "private_id").map (.subscriber feed)

def Body.ofJson (value : Json) : Option Body :=
  let request := value.text "request"
  let room := UInt32.ofNat (value.integer "room").toNat
  if request = "join" then (Ptype.ofJson value).map (.join room)
  else if request = "setup" then some .setup
  else if request = "create" then some (.create room)
  else if request = "destroy" then some (.destroy room)
  else if request = "configure" then some (.configure (value.flag "audio") (value.flag "video"))
  else if request = "start" then some (.start room)
  else if request = "ack" then some .ack
  else none

def Jsep.ofJson : Json → Option Jsep
  | .null => none
  | value => some ⟨value.text "type", value.text "sdp"⟩

def Candidate.ofJson (value : Json) : Candidate :=
  if value.flag "completed" then .completed
  else .candidate (value.text "candidate") (value.text "sdpMid")
    (Int32.ofInt (value.integer "sdpMLineIndex"))

def Plugin.ofName (name : String) : Option Plugin :=
  if name = "janus.plugin.videoroom" then some .videoroom
  else if name = "janus.plugin.textroom" then some .textroom
  else none

def Request.ofJson (value : Json) : Option Request :=
  let janus := value.text "janus"
  if janus = "create" then some .create
  else if janus = "keepalive" then some .keepalive
  else if janus = "attach" then (Plugin.ofName (value.text "plugin")).map .attach
  else if janus = "message" then
    (value.whole? "handle_id").bind fun handle_id =>
      (Body.ofJson (value.member "body")).map fun body =>
        .message handle_id body (Jsep.ofJson (value.member "jsep"))
  else if janus = "trickle" then
    (value.whole? "handle_id").map fun handle_id =>
      .trickle handle_id (Candidate.ofJson (value.member "candidate"))
  else none

/-- The message that a receiver sees in a value. -/
def Message.ofJson (value : Json) : Option Message :=
  (Request.ofJson value).map fun request =>
    { transaction := value.text "transaction", session_id := value.whole? "session_id", request }

theorem Ptype.ofJson_members (room : UInt32) (ptype : Ptype) :
    Ptype.ofJson (Body.json (.join room ptype)) = some ptype := by
  cases ptype <;>
    simp [Body.json, Ptype.ofJson, Ptype.members, object_text, object_member, Json.whole?,
      List.lookup_cons, GetStringFromJson]

theorem Body.ofJson_json (body : Body) : Body.ofJson body.json = some body := by
  cases body with
  | join room ptype =>
    have request : (Body.json (.join room ptype)).text "request" = "join" := by
      cases ptype <;> simp [Body.json, Ptype.members, object_text, List.lookup_cons, GetStringFromJson]
    have number : (Body.json (.join room ptype)).integer "room" = room.toNat := by
      cases ptype <;>
        simp [Body.json, Ptype.members, object_member, roomJson, Json.integer, List.lookup_cons]
    simp [Body.ofJson, request, number, Ptype.ofJson_members]
  | _ =>
    simp [Body.json, Body.ofJson, object_text, object_member, Json.integer, Json.flag, roomJson,
      List.lookup_cons, GetStringFromJson]

theorem Jsep.ofJson_json (jsep : Jsep) : Jsep.ofJson jsep.json = some jsep := by
  have object : jsep.json ≠ .null := by simp [Jsep.json, Json.object]
  rw [Jsep.ofJson.eq_2 _ object]
  simp [Jsep.json, object_text, List.lookup_cons, GetStringFromJson]

theorem Candidate.ofJson_json (candidate : Candidate) : Candidate.ofJson candidate.json = candidate := by
  cases candidate <;>
    simp [Candidate.json, Candidate.ofJson, object_text, object_member, Json.integer, Json.flag,
      List.lookup_cons, GetStringFromJson]

theorem Plugin.ofName_name (plugin : Plugin) : Plugin.ofName plugin.name = some plugin := by
  cases plugin <;> simp [Plugin.name, Plugin.ofName]

theorem Request.ofJson_json (m : Message) : Request.ofJson m.json = some m.request := by
  obtain ⟨transaction, session_id, request⟩ := m
  have none : Jsep.ofJson .null = none := rfl
  cases request with
  | message handle_id body jsep =>
    cases jsep <;> cases session_id <;>
      simp [Message.json, Request.members, Request.ofJson, object_text, object_member, Json.whole?,
        List.lookup_cons, GetStringFromJson, Body.ofJson_json, Jsep.ofJson_json, none]
  | _ =>
    cases session_id <;>
      simp [Message.json, Request.members, Request.ofJson, object_text, object_member, Json.whole?,
        List.lookup_cons, GetStringFromJson, Candidate.ofJson_json, Plugin.ofName_name]

theorem Message.json_envelope (m : Message) :
    m.json.text "transaction" = m.transaction ∧ m.json.whole? "session_id" = m.session_id := by
  obtain ⟨transaction, session_id, request⟩ := m
  cases request with
  | message handle_id body jsep =>
    cases jsep <;> cases session_id <;>
      simp [Message.json, Request.members, object_text, object_member, Json.whole?,
        List.lookup_cons, GetStringFromJson]
  | _ =>
    cases session_id <;>
      simp [Message.json, Request.members, object_text, object_member, Json.whole?,
        List.lookup_cons, GetStringFromJson]

/-- **A receiver sees the message that was built.** -/
theorem Message.ofJson_json (m : Message) : Message.ofJson m.json = some m := by
  obtain ⟨transaction, session⟩ := m.json_envelope
  rw [Message.ofJson, Request.ofJson_json, Option.map_some, transaction, session]

/-! ## Its text -/

/-- The casts of `long long`s to `double`. -/
def Cast (id : Int) : Prop := ∃ n, id = castDouble n

/-- The feed and the key of a subscriber are casts. -/
def Body.Cast : Body → Prop
  | .join _ (.subscriber feed private_id) => WebrtcDemo.Cast feed ∧ WebrtcDemo.Cast private_id
  | _ => True

def Request.Cast : Request → Prop
  | .message handle_id body _ => WebrtcDemo.Cast handle_id ∧ body.Cast
  | .trickle handle_id _ => WebrtcDemo.Cast handle_id
  | _ => True

/-- All ids of a message are casts. -/
def Message.Cast (m : Message) : Prop := (∀ id ∈ m.session_id, WebrtcDemo.Cast id) ∧ m.request.Cast

theorem Cast.fits {id : Int} (cast : Cast id) : Rounding.Fits 53 id := by
  obtain ⟨n, rfl⟩ := cast
  obtain ⟨m, k, small, value⟩ := Rounding.roundBits_fits 53 n.natAbs
  refine ⟨n.sign * m, k, ?_, ?_⟩
  · rw [abs_mul]
    have sign : |n.sign| ≤ 1 := by
      rcases Int.sign_trichotomy n with same | same | same <;> simp [same]
    calc |n.sign| * |m| ≤ 1 * |m| := Int.mul_le_mul_of_nonneg_right sign (abs_nonneg m)
      _ ≤ 2 ^ 53 := by rwa [one_mul]
  · rw [castDouble]
    push_cast
    rw [value, mul_assoc]

theorem Body.plain {body : Body} (cast : body.Cast) : Plain body.json := by
  cases body with
  | join room ptype =>
    cases ptype with
    | publisher display => exact object_plain (by simp [Plain, Ptype.members, roomJson])
    | subscriber feed private_id =>
      exact object_plain (by simp [Plain, Ptype.members, roomJson, cast.1.fits, cast.2.fits])
  | _ => exact object_plain (by simp [Plain, roomJson])

theorem Request.members_plain {request : Request} (cast : request.Cast) :
    ∀ member ∈ request.members, Plain member.2 := by
  cases request with
  | message handle_id body jsep =>
    have body : Plain body.json := Body.plain cast.2
    cases jsep with
    | none => simp [Request.members, Plain, cast.1.fits, body]
    | some jsep =>
      have jsep : Plain jsep.json := object_plain (by simp [Plain])
      simp [Request.members, Plain, cast.1.fits, body, jsep]
  | trickle handle_id candidate =>
    have handle : Rounding.Fits 53 handle_id := WebrtcDemo.Cast.fits cast
    have candidate : Plain candidate.json := by
      cases candidate <;> exact object_plain (by simp [Plain])
    simp [Request.members, Plain, handle, candidate]
  | _ => simp [Request.members, Plain]

theorem Message.Cast.plain {m : Message} (cast : m.Cast) : Plain m.json := by
  refine object_plain fun member inside => ?_
  rcases List.mem_append.1 inside with front | back
  · rcases List.mem_append.1 front with own | transaction
    · exact Request.members_plain cast.2 member own
    · rw [List.mem_singleton.1 transaction]
      trivial
  · obtain ⟨id, some_, rfl⟩ := List.mem_map.1 back
    exact (cast.1 id (by simpa using some_)).fits

theorem toLatin1_ascii {text : List Char} (ascii : Ascii text) : toLatin1 text = text := by
  rw [toLatin1, List.map_congr_left (g := id), List.map_id]
  exact fun c member => if_pos ((ascii c member).trans (by decide))

/-- **What `JsonValueToQString` gives Qt to read** says the value, whatever its strings and its
doubles: Latin-1 loses nothing of a text that is ASCII. -/
theorem JsonValueToQString_reads (value : Json) (plain : Plain value) :
    read (toLatin1 (JsonValueToString value)) = some value := by
  rw [JsonValueToString, toLatin1_ascii (ascii_write value), read_write value plain]

/-- A double that is no short decimal, and a string with what JSON escapes. -/
theorem JsonValueToQString_reads_sample :
    read (toLatin1 (JsonValueToString (.arr [.real (2 ^ 60), .real (1 / 2 ^ 10), .str "\"é\n"]))) =
      some (.arr [.real (2 ^ 60), .real (1 / 2 ^ 10), .str "\"é\n"]) := by
  refine JsonValueToQString_reads _ ⟨?_, ?_, trivial, trivial⟩
  · exact ⟨1, 60, by norm_num, by norm_num⟩
  · exact ⟨1, -10, by norm_num, by norm_num⟩

theorem Message.text_eq (m : Message) : m.text = FastWriter.write m.json :=
  toLatin1_ascii (ascii_write m.json)

/-- **A message is read from its text.** -/
theorem Message.read_text {m : Message} (cast : m.Cast) :
    (read m.text).bind Message.ofJson = some m := by
  rw [m.text_eq, read_write m.json cast.plain, Option.bind_some, Message.ofJson_json]

/-! ## Every run -/

section
variable {env : Env} {i : Input} {s s' : Client} {sender : Option Ptr} {session : Option Int}
  {request : Request} {kind : ReplyKind} {func : Continuation}

/-- A piece of a step sends nothing, or one message under the next transaction. -/
def Utters (env : Env) (i : Input) (s s' : Client) : Prop :=
  (s'.messages = s.messages ∧ s.draws ≤ s'.draws) ∨
    ∃ sender session request,
      s'.messages = s.messages ++ [(sender, ⟨env.random s.draws, session, request⟩)] ∧
      s'.draws = s.draws + 1 ∧ request.Cast ∧ (request = .create → i = .socketConnected)

theorem Utters.nothing (messages : s'.messages = s.messages) (draws : s.draws ≤ s'.draws) :
    Utters env i s s' := Or.inl ⟨messages, draws⟩

section
variable {t : Client} (messages : t.messages = s.messages) (draws : t.draws = s.draws)
  (cast : request.Cast) (other : request ≠ .create)
include messages draws cast other

theorem Utters.speak : Utters env i s (t.speak env sender session request) := by
  refine Or.inr ⟨sender, session, request, ?_, ?_, cast, fun create => absurd create other⟩
  · rw [Client.speak_messages, messages, draws]
  · rw [Client.speak_draws, draws]

theorem Utters.ask : Utters env i s (t.ask env sender session request kind func) := by
  refine Or.inr ⟨sender, session, request, ?_, ?_, cast, fun create => absurd create other⟩
  · rw [Client.ask_messages, messages, draws]
  · rw [Client.ask_draws, draws]

end

theorem RoomKind.opening_cast (room : RoomKind) (peer : JanusPeerConnection) :
    (room.opening peer).Cast := by
  cases room with
  | text => trivial
  | video =>
    rw [RoomKind.opening, JanusPeerConnection.joinBody]
    split_ifs
    · trivial
    · exact ⟨⟨_, rfl⟩, ⟨_, rfl⟩⟩

theorem adminStep_cast {member : PeerMember} {todo : AdminStep} (isAdmin : adminStep member = some todo)
    (peer : JanusPeerConnection) : (todo.body peer).Cast := by
  cases member <;> first | (injection isAdmin with same; subst same; trivial) | cases isAdmin

theorem LocalRequest.cast {room : RoomKind} {peer : JanusPeerConnection}
    (own : LocalRequest room peer request) : request.Cast ∧ request ≠ .create := by
  refine ⟨?_, by cases own <;> simp⟩
  cases own with
  | sdp peer jsep =>
    refine ⟨⟨_, rfl⟩, ?_⟩
    rw [JanusPeerConnection.sdpBody]
    split_ifs <;> trivial
  | sdpText peer jsep => exact ⟨⟨_, rfl⟩, trivial⟩
  | candidate peer candidate => exact ⟨_, rfl⟩

theorem Transition.utters (taken : Transition env i s s') : Utters env i s s' := by
  cases taken with
  | quiet same => exact .nothing same.messages same.draws.ge
  | drawn => exact .nothing rfl (Nat.le_succ _)
  | settings => exact .nothing rfl le_rfl
  | manage own session =>
    refine Or.inr ⟨_, _, _, Client.ask_messages, Client.ask_draws, ?_, ?_⟩ <;> cases own
    · trivial
    · trivial
    · exact fun _ => rfl
    · exact nofun
  | attach room peer => exact .ask (by simp) (by simp) trivial nofun
  | appoint room peer => exact .nothing (by simp) (by simp)
  | administer _ _ alive => exact .ask rfl rfl trivial nofun
  | lost => exact .nothing rfl le_rfl
  | unlist => exact .nothing rfl le_rfl
  | leave => exact .nothing (by simp) (by simp)
  | speak room listed alive address own =>
    exact .speak rfl rfl own.cast.1 own.cast.2

theorem Reply.utters (answered : Reply env i s s') : Utters env i s s' := by
  cases answered with
  | session => exact .nothing Client.take_messages Client.take_draws.ge
  | heartBeat =>
    exact .nothing (Client.onHeartBeat_messages.trans Client.take_messages) Client.take_draws.ge
  | dead => exact .nothing Client.take_messages Client.take_draws.ge
  | joined room answer alive =>
    exact .speak (by simp) (by simp) ⟨⟨_, rfl⟩, room.opening_cast _⟩ nofun
  | admin todo isAdmin answer alive =>
    exact .ask (by simp) (by simp) ⟨⟨_, rfl⟩, adminStep_cast isAdmin _⟩ nofun
  | outcome _ _ _ same =>
    exact .nothing (same.messages.trans Client.take_messages) (by simp [same.draws])

/-- Each message so far took a transaction of its own, and the ids in it are casts. -/
structure Transacted (env : Env) (s : Client) : Prop where
  calls : ∃ calls : List Nat, calls.Pairwise (· < ·) ∧ (∀ call ∈ calls, call < s.draws) ∧
    s.messages.map (·.2.transaction) = calls.map env.random
  cast : ∀ entry ∈ s.messages, entry.2.request.Cast

theorem Transacted.utters (kept : Transacted env s) (utters : Utters env i s s') : Transacted env s' := by
  obtain ⟨calls, order, early, transactions⟩ := kept.calls
  rcases utters with ⟨messages, draws⟩ | ⟨sender, session, request, messages, draws, cast, -⟩
  · exact ⟨⟨calls, order, fun call member => (early call member).trans_le draws,
      messages ▸ transactions⟩, messages ▸ kept.cast⟩
  · refine ⟨⟨calls ++ [s.draws], ?_, ?_, ?_⟩, ?_⟩
    · refine List.pairwise_append.2 ⟨order, List.pairwise_singleton _ _, fun call member last now => ?_⟩
      rw [List.mem_singleton.1 now]
      exact early call member
    · intro call member
      rw [draws]
      rcases List.mem_append.1 member with before | now
      · exact Nat.lt_succ_of_lt (early call before)
      · rw [List.mem_singleton.1 now]
        exact Nat.lt_succ_self _
    · rw [messages, List.map_append, transactions, List.map_append]
      rfl
    · intro entry member
      rw [messages, List.mem_append, List.mem_singleton] at member
      rcases member with before | rfl
      · exact kept.cast entry before
      · exact cast

theorem transacted_after (env : Env) (is : List Input) : Transacted env (after env is) := by
  refine Machine.run_keeps (P := Transacted env) (fun s i kept _ => ?_) ⟨⟨[], ?_⟩, ?_⟩
    (Machine.along_true is)
  · exact (step_decomposes env).keeps (fun _ _ answered kept => kept.utters answered.utters)
      (fun _ _ taken kept => kept.utters taken.utters) kept
  · simp [Client.initial, Client.messages]
  · simp [Client.initial, Client.messages]

/-- A `create` request has no session. -/
def Client.Unseated (s : Client) : Prop :=
  ∀ entry ∈ s.messages, entry.2.request = .create → entry.2.session_id = none

theorem Client.Unseated.utters (unseated : s.Unseated) (other : i ≠ .socketConnected)
    (utters : Utters env i s s') : s'.Unseated := by
  rcases utters with ⟨messages, -⟩ | ⟨sender, session, request, messages, -, -, cause⟩
  · exact fun entry member => unseated entry (messages ▸ member)
  · intro entry member create
    rw [messages, List.mem_append, List.mem_singleton] at member
    rcases member with before | rfl
    · exact unseated entry before create
    · exact absurd (cause create) other

theorem Client.Unseated.step (unseated : s.Unseated) (i : Input) : (step env s i).Unseated := by
  by_cases connected : i = .socketConnected
  · subst connected
    have messages : (WebrtcDemo.step env s .socketConnected).messages =
        s.messages ++ [(none, ⟨env.random s.draws, none, .create⟩)] :=
      (Client.ask_messages : (s.ask env none none .create .success .onCreateSessionId).messages = _)
    intro entry member create
    rw [messages, List.mem_append, List.mem_singleton] at member
    rcases member with before | rfl
    · exact unseated entry before create
    · rfl
  · exact (step_decomposes env).keeps (P := Client.Unseated)
      (fun _ _ answered before => before.utters connected answered.utters)
      (fun _ _ taken before => before.utters connected taken.utters) unseated

theorem unseated_after (env : Env) (is : List Input) : (after env is).Unseated := by
  refine Machine.run_keeps (P := Client.Unseated) (fun s i unseated _ => unseated.step i) ?_
    (Machine.along_true is)
  simp [Client.Unseated, Client.initial, Client.messages]

theorem message_cast (env : Env) (is : List Input) :
    ∀ entry ∈ (after env is).messages, entry.2.Cast := by
  rintro ⟨sender, m⟩ member
  refine ⟨fun id session => ?_, (transacted_after env is).cast _ member⟩
  by_cases create : m.request = .create
  · rw [unseated_after env is _ member create] at session
    cases session
  · obtain ⟨e, logged, sent⟩ := List.mem_filterMap.1 member
    have isSent : e = .sent sender m := by
      cases e <;> simp [Effect.message?] at sent
      rw [sent.1, sent.2]
    obtain ⟨log, more, parts⟩ := List.append_of_mem (isSent ▸ logged)
    obtain ⟨earlier, -, established⟩ := (seated_after env is).said log sender m
      ⟨more, by rw [parts]; simp⟩ create
    rw [established] at session
    exact ⟨_, (Option.some.inj session).symm⟩

/-- **The server reads what the client says**: in every run each message is read from its text,
the bytes that Qt is given, and, as long as the random transactions differ, no two messages
have one text. -/
theorem texts_tell (env : Env) (is : List Input) :
    (∀ entry ∈ (after env is).messages, (read entry.2.text).bind Message.ofJson = some entry.2) ∧
    ((after env is).Distinct env → ((after env is).messages.map (·.2.text)).Nodup) := by
  have reads : ∀ entry ∈ (after env is).messages,
      (read entry.2.text).bind Message.ofJson = some entry.2 :=
    fun entry member => Message.read_text (message_cast env is entry member)
  refine ⟨reads, fun distinct => ?_⟩
  obtain ⟨calls, order, early, transactions⟩ := (transacted_after env is).calls
  have apart : ((after env is).messages.map (·.2.transaction)).Nodup := by
    rw [transactions]
    refine List.Nodup.map_on (fun a inside b inside' same => ?_) (order.imp Nat.ne_of_lt)
    exact distinct (early a inside) (early b inside') same
  refine List.Nodup.map_on (fun a inside b inside' same => ?_) apart.of_map
  have read := reads a inside
  rw [same, reads b inside'] at read
  refine List.inj_on_of_nodup_map apart inside inside' ?_
  rw [Option.some.inj read]

end

/-! ## Data channels -/

namespace DataMessage

/-- The message as it is written: a display name ends at its first NUL. -/
def shown : DataMessage → DataMessage
  | .join transaction room username display =>
    .join transaction room username (String.ofList (cString display.toList))
  | m => m

/-- The message that a receiver sees in a value. -/
def ofJson (value : Json) : Option DataMessage :=
  let transaction := value.text "transaction"
  let room := Int32.ofInt (value.integer "room")
  if value.text "textroom" = "join" then
    some (.join transaction room (value.text "username") (value.text "display"))
  else if value.text "textroom" = "message" then
    some (.message transaction room (value.text "text"))
  else none

theorem ofJson_json (m : DataMessage) : ofJson m.json = some m.shown := by
  cases m <;>
    simp [json, ofJson, shown, object_text, object_member, Json.integer, List.lookup_cons,
      GetStringFromJson]

theorem json_plain (m : DataMessage) : Plain m.json := by
  cases m <;> exact object_plain (by simp [Plain])

theorem read_text (m : DataMessage) : (read m.text).bind ofJson = some m.shown := by
  rw [text, JsonValueToString, read_write m.json m.json_plain, Option.bind_some, ofJson_json]

theorem json_shown (m : DataMessage) : m.shown.json = m.json := by
  have ends_ (display : List Char) : cString (cString display) = cString display :=
    List.takeWhile_idem
  cases m with
  | join transaction room username display => simp [shown, json, ends_]
  | message => rfl

/-- **No text passes for another.** A data-channel text is read as the message that was sent,
with the text that the user typed whatever is in it, and two messages have one text only where
they differ in a display name behind its first NUL. -/
theorem text_eq_iff (m m' : DataMessage) :
    (read m.text).bind ofJson = some m.shown ∧ (m.text = m'.text ↔ m.shown = m'.shown) := by
  refine ⟨m.read_text, fun same => ?_, fun same => ?_⟩
  · have read := m.read_text
    rw [same, m'.read_text] at read
    exact (Option.some.inj read).symm
  · rw [text, text, ← m.json_shown, ← m'.json_shown, same]

end DataMessage

end WebrtcDemo
