import WebrtcDemo.Run.Requests

/-!
# Reported rooms

The four member functions preset the room that was asked for and let the getter replace it.
The getter overwrites it with whatever a string converts to, accepted or not, and it takes
null and the booleans for numbers.
-/

namespace WebrtcDemo
open Numeral

/-- A number in the range of `unsigned int`, or a text that is one. -/
def Json.RoomNumber : Json → Prop
  | .int n => 0 ≤ n ∧ n < 2 ^ 32
  | .real q => 0 ≤ q ∧ q ≤ 2 ^ 32 - 1
  | .str s => ∃ n, decimal? s.toList = some n ∧ 0 ≤ n ∧ n < 2 ^ 32
  | _ => False

/-- The room a reply reports, when `out` was preset. -/
def readRoom (room : Option Json) (out : UInt32) : UInt32 :=
  match room with
  | some v => (GetUIntFromJson v out).2
  | none => out

/-- The rooms reported so far. -/
def Effect.roomId? : Effect → Option UInt32
  | .roomCallback _ roomId => some roomId
  | _ => none

def Client.reported (s : Client) : List UInt32 := s.log.filterMap Effect.roomId?

/-- The plugin data of a reply. -/
def Json.pluginData (recvMsg : Json) : Json := (recvMsg.member "plugindata").member "data"

/-- Each of the four member functions reports the room that was asked for, on a success with
this member `room`: once, if both the callback it tests and the one it calls are there. -/
def ReportsRequested (room : Option Json) : Prop :=
  ∀ (env : Env) (s : Client) (p : Ptr) (this : JanusPeerConnection) (op : RoomOperation)
    (recvMsg : Json), s.peers p = some this → op.status recvMsg = op.successTag →
    GetValueFromJsonObject recvMsg.pluginData "room" = room →
    (JanusPeerConnection.callMember env s p recvMsg op.outcome).reported = s.reported ++
      if (this.slot op.successed).isSome ∧ (this.slot op.calls).isSome then [op.room.roomOf this]
      else []

/-- A getter that fails leaves what it was given, and a room that is no number is no report:
the one asked for stays. -/
def KeepsPreset (room : Option Json) : Prop :=
  (∀ v, room = some v → ∀ out, (GetUIntFromJson v out).1 = false → (GetUIntFromJson v out).2 = out) ∧
    ((∀ v, room = some v → ¬ v.RoomNumber) → ReportsRequested room)

/-- A room that is not null, no boolean, and no text but that of a number. -/
def Readable (room : Option Json) : Prop :=
  ∀ v, room = some v → v ≠ .null ∧ (∀ b, v ≠ .bool b) ∧ ∀ s, v = .str s → v.RoomNumber

/-! ## The getter -/

section
variable {v : Json} {s : String} {out : UInt32}

/-- A string is converted into `*out`, whatever was there. -/
theorem GetUIntFromJson_str : (GetUIntFromJson (.str s) out).2 = .ofNat (strtoul s.toList).value := rfl

theorem GetUIntFromJson_number (number : (Json.str s).RoomNumber) :
    (GetUIntFromJson (.str s) out).1 = true := by
  obtain ⟨n, decimal, least, small⟩ := number
  simp only [GetUIntFromJson]
  rw [strtoul_of_decimal decimal least (by omega)]
  simpa using small

/-- What is no string is read, or left alone. -/
theorem GetUIntFromJson_convert (plain : ∀ s, v ≠ .str s) : GetUIntFromJson v out =
    (v.convertUInt?.isSome, match v.convertUInt? with
      | some n => .ofNat n
      | none => out) := by
  cases v with
  | str s => exact absurd rfl (plain s)
  | _ =>
    simp only [GetUIntFromJson]
    split <;> rename_i found <;> rw [found] <;> rfl

/-- What is no string stays out of it if it is no number. -/
theorem plain_keeps (plain : ∀ s, v ≠ .str s) (number : v.convertUInt?.isSome → v.RoomNumber) :
    (∀ out, (GetUIntFromJson v out).1 = false → (GetUIntFromJson v out).2 = out) ∧
      (¬ v.RoomNumber → ∀ out, (GetUIntFromJson v out).2 = out) := by
  simp only [GetUIntFromJson_convert plain]
  cases read : v.convertUInt? with
  | none => exact ⟨fun _ _ => rfl, fun _ _ => rfl⟩
  | some n =>
    rw [read] at number
    exact ⟨fun _ failed => (nomatch failed), fun wrong => absurd (number rfl) wrong⟩

/-- **When the preset room stays where it should**, as the getter alone decides it. -/
theorem readRoom_iff (room : Option Json) :
    ((∀ v, room = some v → ∀ out,
        (GetUIntFromJson v out).1 = false → (GetUIntFromJson v out).2 = out) ∧
      ((∀ v, room = some v → ¬ v.RoomNumber) → ∀ out, readRoom room out = out)) ↔
    Readable room := by
  cases room with
  | none => exact iff_of_true ⟨nofun, fun _ _ => rfl⟩ nofun
  | some v =>
    simp only [Option.some.injEq, forall_eq', readRoom, Readable]
    cases v with
    | null =>
      refine iff_of_false (fun keeps => ?_) fun readable => readable.1 rfl
      exact absurd (keeps.2 (fun number => number) 1) (by decide)
    | bool b =>
      refine iff_of_false (fun keeps => ?_) fun readable => readable.2.1 b rfl
      have read := keeps.2 (fun number => number) 2
      cases b <;> exact absurd read (by decide)
    | str s =>
      have readable : (Json.str s ≠ .null ∧ (∀ b, Json.str s ≠ .bool b) ∧
          ∀ s', Json.str s = .str s' → (Json.str s).RoomNumber) ↔ (Json.str s).RoomNumber :=
        ⟨fun readable => readable.2.2 s rfl, fun number => ⟨nofun, nofun, fun _ _ => number⟩⟩
      rw [readable]
      constructor
      · intro keeps
        by_contra wrong
        have zero := keeps.2 wrong 0
        have one := keeps.2 wrong 1
        rw [GetUIntFromJson_str] at zero one
        exact absurd (zero.symm.trans one) (by decide)
      · intro number
        refine ⟨fun out failed => ?_, fun wrong => absurd number wrong⟩
        rw [GetUIntFromJson_number number] at failed
        exact absurd failed (by decide)
    | int n =>
      refine iff_of_true (plain_keeps nofun fun read => ?_) ⟨nofun, nofun, nofun⟩
      rw [Json.convertUInt?, Json.asUInt?] at read
      · split_ifs at read with range
        · exact range
        · exact absurd read (by decide)
      all_goals nofun
    | real q =>
      refine iff_of_true (plain_keeps nofun fun read => ?_) ⟨nofun, nofun, nofun⟩
      rw [Json.convertUInt?] at read
      split_ifs at read with range
      · exact range
      · exact absurd read (by decide)
    | arr elements => exact iff_of_true (plain_keeps nofun nofun) ⟨nofun, nofun, nofun⟩
    | obj members => exact iff_of_true (plain_keeps nofun nofun) ⟨nofun, nofun, nofun⟩

end

/-! ## The member functions -/

section
variable {env : Env} {s : Client} {p : Ptr} {x : JanusPeerConnection} {object : Json}

theorem callRoomCallback_reported (s : Client) (callback : Option RoomCallback) (roomId : UInt32) :
    (JanusPeerConnection.callRoomCallback s callback roomId).reported =
      s.reported ++ if callback.isSome then [roomId] else [] := by
  cases callback <;>
    simp [JanusPeerConnection.callRoomCallback, Client.reported, Client.emit, Effect.roomId?]

/-- On success a member function reports the room it read, if its callbacks are there. -/
theorem roomOutcome_reported (alive : s.peers p = some x) {key failureTag successTag : String}
    (requested : JanusPeerConnection → UInt32)
    (failed tested called : JanusPeerConnection → Option RoomCallback)
    (success : object.pluginData.text key = successTag) (tags : successTag ≠ failureTag) :
    (JanusPeerConnection.roomOutcome s p object key failureTag successTag requested failed tested
      called).reported = s.reported ++
        if (tested x).isSome ∧ (called x).isSome then
          [readRoom (GetValueFromJsonObject object.pluginData "room") (requested x)]
        else [] := by
  have read : (GetUIntFromJsonObject object.pluginData "room" (requested x)).2 =
      readRoom (GetValueFromJsonObject object.pluginData "room") (requested x) := by
    rw [GetUIntFromJsonObject]
    cases GetValueFromJsonObject object.pluginData "room" <;> rfl
  have status : ((object.member "plugindata").member "data").text key = successTag := success
  rw [JanusPeerConnection.roomOutcome, Client.withPeer_live alive]
  dsimp only
  rw [status, if_neg tags, if_pos rfl, ite_and]
  by_cases tests : (tested x).isSome
  · rw [if_pos tests, if_pos tests, callRoomCallback_reported, ← read, Json.pluginData]
  · rw [if_neg tests, if_neg tests, List.append_nil]

theorem callMember_reported (op : RoomOperation) (alive : s.peers p = some x)
    (success : op.status object = op.successTag) :
    (JanusPeerConnection.callMember env s p object op.outcome).reported = s.reported ++
      if (x.slot op.successed).isSome ∧ (x.slot op.calls).isSome then
        [readRoom (GetValueFromJsonObject object.pluginData "room") (op.room.roomOf x)]
      else [] := by
  cases op <;> exact roomOutcome_reported alive _ _ _ _ success (by decide)

/-- A success with this member `room`. -/
def createdReply (room : Option Json) : Json :=
  .obj [("plugindata", .obj [("data",
    .obj (("videoroom", .str "created") :: (room.map (("room", ·))).toList))])]

/-- What is reported is the room asked for, for every peer, if and only if the getter leaves
every number it is given. -/
theorem reportsRequested_iff (room : Option Json) :
    ReportsRequested room ↔ ∀ out, readRoom room out = out := by
  constructor
  · intro reports out
    let x : JanusPeerConnection :=
      { (JanusVideoRoomManager.newPeer Env.sample (Client.initial Env.sample)).registered
          {.onCreateVideoRoomSuccessed} with mVideoRoomId := out }
    have alive : ((Client.initial Env.sample).setPeer 0 x).peers 0 = some x := Client.setPeer_self
    have success : RoomOperation.createVideoRoom.status (createdReply room) = "created" := by
      cases room <;> rfl
    have found : GetValueFromJsonObject (createdReply room).pluginData "room" = room := by
      cases room <;> rfl
    have reported :=
      reports Env.sample _ 0 x .createVideoRoom (createdReply room) alive success found
    rw [callMember_reported .createVideoRoom alive success, List.append_cancel_left_eq, found]
      at reported
    exact (List.cons.inj reported).1
  · intro keeps env s p this op recvMsg alive success found
    rw [callMember_reported op alive success, found, keeps]

end

/-- **The preset room survives where it should** if and only if the member `room` is absent,
or is neither null nor a boolean nor a text that is no number in range. -/
theorem keeps_preset_iff (room : Option Json) : KeepsPreset room ↔ Readable room := by
  rw [KeepsPreset, reportsRequested_iff, readRoom_iff]

/-- A word is reported as room 0. -/
theorem word_overwrites : ¬ ∀ room, KeepsPreset room := by
  intro always
  have keeps := (always (some (.str "lobby"))).1 _ rfl 1 (by decide)
  exact absurd keeps (by decide)

end WebrtcDemo
