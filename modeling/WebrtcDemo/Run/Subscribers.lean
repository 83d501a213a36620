import WebrtcDemo.Run.FanOut
import WebrtcDemo.Run.Feeds
import WebrtcDemo.Run.Unpublish

/-!
# What subscribers join with

The room and the private id of a subscriber's join are fixed when an event makes the
subscriber: they are the room that the manager holds then, and the private id at the top
level of that very event. Nothing that happens later shows in the join, and the last peer
of an event can always be made to join, so that what an event must hold for its joins to
come out right can be said of the event and the state before it.
-/

namespace WebrtcDemo

open JanusPeerConnection (joinBody)
open JanusVideoRoomManager (subscriber dataObj)

/-- `p` subscribes to a feed in a room, with a private id, and has joined so only. -/
structure JoinsAs (p : Ptr) (room : UInt32) (feed key : Int) (s : Client) : Prop where
  older : p < s.constructed
  unappointed : ∀ room, s.admin room ≠ some p
  fields : ∀ y, s.peers p = some y →
    y.mSubscribeId = feed ∧ y.mPrivateId = key ∧ y.mVideoRoomId = room
  joins : ∀ join ∈ s.joins p, join.2 = .join room (.subscriber (castDouble feed) (castDouble key))

section
variable {env : Env} {i e : Input} {s s' : Client} {p : Ptr} {room : UInt32} {feed key : Int}
  {k : Nat} {object : Json}

/-! ## From its construction on -/

variable (env) in
/-- A step makes the peer join, as it is, or leaves its joins alone. -/
theorem JoinsAs.joins_step (joinsAs : JoinsAs p room feed key s) (positive : 0 < feed) (i : Input) :
    ∀ join ∈ (step env s i).joins p,
      join.2 = .join room (.subscriber (castDouble feed) (castDouble key)) := by
  intro join member
  rcases step_aside env i joinsAs.older with ⟨kind, t, object, answer⟩ | aside
  · rcases alive : s.peers p with _ | y
    · have taken : Aside p s (s.take kind t (.peer p .onAttachVideoRoomJoin) object) :=
        Aside.take s _ _ _ _
      rw [step_answered answer, JanusVideoRoomManager.callContinuation,
        JanusPeerConnection.callMember_dead env (by simpa using alive)] at member
      refine joinsAs.joins join ?_
      rw [← taken.joins]
      exact member
    · obtain ⟨same, -⟩ := step_joins env answer alive
      rw [same, List.mem_append, List.mem_singleton] at member
      rcases member with before | rfl
      · exact joinsAs.joins join before
      · obtain ⟨rfl, rfl, rfl⟩ := joinsAs.fields y alive
        show joinBody y = _
        rw [joinBody, if_neg positive.ne']
  · exact joinsAs.joins join (aside.joins ▸ member)

variable (env) in
theorem JoinsAs.step (joinsAs : JoinsAs p room feed key s) (owned : Owned s) (positive : 0 < feed)
    (i : Input) : JoinsAs p room feed key (WebrtcDemo.step env s i) := by
  refine ⟨joinsAs.older.trans_le (step_constructed env s i), fun room holds => ?_,
    fun z alive => ?_, joinsAs.joins_step env positive i⟩
  · obtain ⟨z, alive⟩ := Option.isSome_iff_exists.1
      ((owned.step i).live p (Client.admin_holders holds))
    obtain ⟨y, -, follows⟩ := step_precedes owned joinsAs.older alive
    exact joinsAs.unappointed room ((follows.admin room).1 holds)
  · obtain ⟨y, before, follows⟩ := step_precedes owned joinsAs.older alive
    obtain ⟨w, after, -, feed', key', room'⟩ := follows.alive
    obtain rfl : z = w := Option.some.inj (alive.symm.trans after)
    obtain ⟨rfl, rfl, rfl⟩ := joinsAs.fields y before
    exact ⟨feed', key', room'.resolve_right fun administered =>
      joinsAs.unappointed _ administered.1⟩

theorem JoinsAs.run (joinsAs : JoinsAs p room feed key s) (owned : Owned s) (positive : 0 < feed)
    (is : List Input) : JoinsAs p room feed key (Machine.run (WebrtcDemo.step env) s is) := by
  have both : Owned (Machine.run (WebrtcDemo.step env) s is) ∧
      JoinsAs p room feed key (Machine.run (WebrtcDemo.step env) s is) :=
    Machine.run_keeps (P := fun t : Client => Owned t ∧ JoinsAs p room feed key t)
      (fun _ i kept _ => ⟨kept.1.step i, kept.2.step env kept.1 positive i⟩) ⟨owned, joinsAs⟩
      (Machine.along_true is)
  exact both.2

/-- The `k`-th peer that an event makes. -/
theorem Subscribed.joinsAs (subscribed : Subscribed env (s.keyed object) (newFeeds object) s')
    (owned : Owned s) (made : Made s) (early : k < (newFeeds object).length) :
    JoinsAs (s.constructed + k) s.janus.mVideoRoomID.toUInt32 (newFeeds object)[k]
      (JsonValueToLongLong object "private_id") s' where
  older := by
    rw [subscribed.constructed]
    exact Nat.add_lt_add_left early _
  unappointed := subscribed.unappointed owned k
  fields y alive := by
    have new : s'.peers (s.constructed + k) = _ := subscribed.new k early
    obtain rfl := Option.some.inj (new.symm.trans alive)
    exact ⟨rfl, rfl, rfl⟩
  joins := by
    have none : (s.keyed object).joins (s.constructed + k) = [] :=
      made.no_joins (Nat.le_add_right _ _)
    rw [subscribed.joins, none]
    simp

/-! ## The last of them joins -/

variable (env s) in
/-- The last request of the loop is waited for, whatever transactions it drew. -/
theorem attachFeeds_last {ids : List Int} (some' : ids ≠ []) :
    (ids.foldl (attachFeed env) s).pending (.success, env.random (s.draws + (ids.length - 1))) =
      some (.peer (s.constructed + (ids.length - 1)) .onAttachVideoRoomJoin) := by
  rcases List.eq_nil_or_concat ids with rfl | ⟨before, id, rfl⟩
  · exact absurd rfl some'
  · have sofar := attachFeeds env s before
    rw [List.concat_eq_append, List.foldl_append, List.foldl_cons, List.foldl_nil, attachFeed,
      Client.attachNew_pending,
      sofar.draws, sofar.constructed, List.length_append, List.length_singleton,
      Nat.add_sub_cancel, Function.update_self]
    rfl

variable (env) in
/-- **The last peer of an event joins on the reply to its request.** -/
theorem exists_join (event : e.Tags "joined" object ∨ e.Tags "event" object)
    (some' : newFeeds object ≠ []) :
    ∃ k < (newFeeds object).length, ∃ i, (step env (step env s e) i).joins (s.constructed + k) ≠ [] := by
  have early : (newFeeds object).length - 1 < (newFeeds object).length :=
    Nat.sub_lt (List.length_pos_iff.2 some') Nat.one_pos
  have subscribed := step_subscribed env s event
  obtain ⟨before, t, quiet, same, stepped⟩ := step_publishes env s event
  have waits : (step env s e).pending
      (.success, env.random (s.draws + ((newFeeds object).length - 1))) =
        some (.peer (s.constructed + ((newFeeds object).length - 1)) .onAttachVideoRoomJoin) := by
    have last := attachFeeds_last env (before.keyed object) some'
    have draws : (before.keyed object).draws = s.draws := quiet.draws
    have constructed : (before.keyed object).constructed = s.constructed := quiet.constructed
    rw [draws, constructed] at last
    rw [stepped, Client.removeFeed_pending, same.pending, last]
  obtain ⟨i, reply, named, -⟩ := exists_reply .success
    (env.random (s.draws + ((newFeeds object).length - 1)))
  have alive : (step env s e).peers (s.constructed + ((newFeeds object).length - 1)) = _ :=
    subscribed.new _ early
  refine ⟨_, early, i, ?_⟩
  rw [(step_joins env ⟨named, waits⟩ alive).1]
  exact List.concat_ne_nil _ _

end

/-! ## What an event must hold -/

/-- Whatever follows the event `e`, the peers that it makes join as subscribers only, each
with a room and a private id such that `P`. -/
def AllJoin (env : Env) (js : List Input) (e : Input) (object : Json) (P : UInt32 → Int → Prop) :
    Prop :=
  ∀ is, ∀ k < (newFeeds object).length,
    ∀ join ∈ (after env (js ++ e :: is)).joins ((after env js).constructed + k),
      ∃ room feed key, join.2 = .join room (.subscriber feed key) ∧ P room key

/-- **They join as they ought to if and only if the event makes none, or the room and the
private id that it finds are right.** -/
theorem allJoin_iff {env : Env} {js : List Input} {e : Input} {object : Json}
    (event : e.Tags "joined" object ∨ e.Tags "event" object) (P : UInt32 → Int → Prop) :
    AllJoin env js e object P ↔ newFeeds object = [] ∨
      P (after env js).janus.mVideoRoomID.toUInt32
        (castDouble (JsonValueToLongLong object "private_id")) := by
  have subscribed := step_subscribed env (after env js) event
  have owned := owned_after env js
  have later (is : List Input) : after env (js ++ e :: is) =
      Machine.run (step env) (step env (after env js) e) is := after_append env js _
  have joinsAs : ∀ is k (early : k < (newFeeds object).length),
      JoinsAs ((after env js).constructed + k) (after env js).janus.mVideoRoomID.toUInt32
        (newFeeds object)[k] (JsonValueToLongLong object "private_id")
        (after env (js ++ e :: is)) := by
    intro is k early
    rw [later]
    exact (subscribed.joinsAs owned (made_after env js) early).run (owned.step e)
      (newFeeds_pos (List.getElem_mem early)) is
  constructor
  · intro all
    by_cases none : newFeeds object = []
    · exact Or.inl none
    · right
      obtain ⟨k, early, i, joins⟩ := exists_join env (s := after env js) event none
      obtain ⟨join, member⟩ := List.exists_mem_of_ne_nil _ joins
      have member' : join ∈ (after env (js ++ e :: [i])).joins ((after env js).constructed + k) := by
        rw [later]
        exact member
      obtain ⟨room, feed, key, same, holds⟩ := all [i] k early join member'
      have sent := (joinsAs [i] k early).joins join member'
      rw [same] at sent
      injection sent with room' ptype
      injection ptype with _ key'
      rwa [room', key'] at holds
  · rintro found is k early join member
    have right := found.resolve_left fun none => by simp [none] at early
    exact ⟨_, _, _, (joinsAs is k early).joins join member, right⟩

/-! ## The room -/

/-- The peers that were given a handle in order to join a kind of rooms, with the handle. -/
def Client.granted (s : Client) (room : RoomKind) : List (Ptr × Int) :=
  s.log.filterMap fun
    | .invoked .success _ (.peer p member) object =>
      if member = room.joined then some (p, JanusPeerConnection.replyId object) else none
    | _ => none

theorem mem_granted {s : Client} {room : RoomKind} {p : Ptr} {h : Int} :
    (p, h) ∈ s.granted room ↔ ∃ t object,
      .invoked .success t (.peer p room.joined) object ∈ s.log ∧
        JanusPeerConnection.replyId object = h := by
  rw [Client.granted, List.mem_filterMap]
  constructor
  · rintro ⟨e, member, same⟩
    split at same
    · split_ifs at same with joined
      obtain ⟨rfl, rfl⟩ := Prod.mk.inj (Option.some.inj same)
      exact ⟨_, _, joined ▸ member, rfl⟩
    · exact absurd same (by simp)
  · rintro ⟨t, object, member, rfl⟩
    exact ⟨_, member, if_pos rfl⟩

/-- The peer that the server gave the handle `h` has joined the room `room`. -/
def Client.JoinedRoom (s : Client) (h : Int) (room : UInt32) : Prop :=
  ∃ p handle ptype, (p, h) ∈ s.granted .video ∧ (handle, .join room ptype) ∈ s.joins p

/-- The subscribers that `e` makes join the room of the peer that `e` is for. -/
def RoomKept (env : Env) (js : List Input) (e : Input) : Prop :=
  ∀ object, e.Tags "joined" object ∨ e.Tags "event" object →
    ∀ room, (after env js).JoinedRoom (senderOf object) room →
      AllJoin env js e object fun joined _ => joined = room

/-- `e` makes no peer, or finds the manager in the room of the peer that it is for. -/
def InRoom (env : Env) (js : List Input) (e : Input) : Prop :=
  ∀ object, e.Tags "joined" object ∨ e.Tags "event" object →
    ∀ room, (after env js).JoinedRoom (senderOf object) room →
      newFeeds object = [] ∨ (after env js).janus.mVideoRoomID.toUInt32 = room

theorem roomKept_iff_inRoom (env : Env) (js : List Input) (e : Input) :
    RoomKept env js e ↔ InRoom env js e :=
  forall₄_congr fun _ event _ _ => allJoin_iff event _

/-- **Subscribers join the room of the peer whose event made them** exactly when the room
last joined is that one. -/
theorem room_kept_iff (env : Env) (is : List Input) :
    Machine.EachStep (RoomKept env) is ↔ Machine.EachStep (InRoom env) is :=
  Machine.eachStep_congr (roomKept_iff_inRoom env)

/-- A late event of the first room, after the second is joined. -/
theorem room_mixed_up :
    ¬ ∀ (env : Env) (is : List Input), Machine.EachStep (RoomKept env) is := by
  intro always
  let late : Server.VideoEvent := { tag := "joined", sender := 7, publishers := [5] }
  let js : List Input := [.joinVideoRoom 1 "cc", Server.success (Env.sample.random 0) 7,
    .joinVideoRoom 2 "cc"]
  have joined : (after Env.sample js).JoinedRoom (senderOf late.object) 1 :=
    ⟨0, 7, .publisher "cc", by decide +kernel, by decide +kernel⟩
  have kept := always Env.sample (js ++ [Server.event late]) js _ List.prefix_rfl
  obtain ⟨room, feed, key, same, rfl⟩ := kept late.object
    (Or.inl ⟨late.reports, late.tag_object⟩) 1 joined [Server.success (Env.sample.random 3) 9] 0
    (by decide +kernel) (9, .join 2 (.subscriber 5 0)) (by decide +kernel)
  simp at same

/-! ## The private id -/

/-- The private id that a message supplies, at its top level or beside its publishers. -/
def suppliedKey (object : Json) : Option Int :=
  if (GetValueFromJsonObject object "private_id").isSome then
    some (JsonValueToLongLong object "private_id")
  else if (GetValueFromJsonObject (dataObj object) "private_id").isSome then
    some (JsonValueToLongLong (dataObj object) "private_id")
  else none

/-- The private id that an input supplies, if it is a `joined` message with one. -/
def Input.suppliedKey (i : Input) : Option Int :=
  match i.publication? with
  | some object =>
    if videoRoomTag object = some "joined" then WebrtcDemo.suppliedKey object else none
  | none => none

/-- The private id supplied last. -/
def keyInForce (is : List Input) : Option Int :=
  is.foldl (fun key i => i.suppliedKey.or key) none

/-- The private id that the peers made by a message are to join with: the one that a `joined`
message supplies itself, and the one supplied last for an `event`. -/
def expectedKey (js : List Input) (object : Json) : Option Int :=
  if videoRoomTag object = some "joined" then suppliedKey object else keyInForce js

/-- The subscribers that `e` makes join with the private id they are to join with, and an
`event` without one leaves the stored one alone. -/
structure KeyKept (env : Env) (js : List Input) (e : Input) : Prop where
  joins : ∀ object, e.Tags "joined" object ∨ e.Tags "event" object →
    ∀ key, expectedKey js object = some key →
      AllJoin env js e object fun _ sent => sent = castDouble key
  stored : ∀ object, e.Tags "event" object → suppliedKey object = none →
    (after env (js ++ [e])).janus.mPrivatedId = (after env js).janus.mPrivatedId

/-- `e` makes no peer, or brings at its top level the private id that its peers are to join
with, and an `event` without one finds none stored. -/
structure KeyCarried (env : Env) (js : List Input) (e : Input) : Prop where
  carries : ∀ object, e.Tags "joined" object ∨ e.Tags "event" object →
    ∀ key, expectedKey js object = some key →
      newFeeds object = [] ∨ castDouble (JsonValueToLongLong object "private_id") = castDouble key
  vacant : ∀ object, e.Tags "event" object → suppliedKey object = none →
    (after env js).janus.mPrivatedId = 0

/-- A message without a private id is read as one with the private id 0. -/
theorem key_of_none {object : Json} (none : suppliedKey object = none) :
    JsonValueToLongLong object "private_id" = 0 := by
  unfold suppliedKey at none
  split_ifs at none with here there
  apply JsonValueToLongLong_other
  rw [Json.member, Option.not_isSome_iff_eq_none.1 here]
  rfl

theorem keyKept_iff_keyCarried (env : Env) (js : List Input) (e : Input) :
    KeyKept env js e ↔ KeyCarried env js e := by
  have stored : ∀ object, e.Tags "event" object → suppliedKey object = none →
      ((after env (js ++ [e])).janus.mPrivatedId = (after env js).janus.mPrivatedId ↔
        (after env js).janus.mPrivatedId = 0) := by
    intro object event none
    have subscribed := step_subscribed env (after env js) (Or.inr event)
    have now : (step env (after env js) e).janus.mPrivatedId =
        JsonValueToLongLong object "private_id" := subscribed.settings.2.2
    rw [after_concat, now, key_of_none none, eq_comm]
  constructor
  · intro kept
    exact ⟨fun object event key expected => (allJoin_iff event _).1 (kept.joins object event key expected),
      fun object event none => (stored object event none).1 (kept.stored object event none)⟩
  · intro carried
    exact ⟨fun object event key expected =>
        (allJoin_iff event _).2 (carried.carries object event key expected),
      fun object event none => (stored object event none).2 (carried.vacant object event none)⟩

/-- **Subscribers join with the private id supplied last** exactly when every message that
makes some repeats it at the top level. -/
theorem key_kept_iff (env : Env) (is : List Input) :
    Machine.EachStep (KeyKept env) is ↔ Machine.EachStep (KeyCarried env) is :=
  Machine.eachStep_congr (keyKept_iff_keyCarried env)

/-- A private id beside the publishers is not read. -/
theorem key_not_read :
    ¬ ∀ (env : Env) (is : List Input), Machine.EachStep (KeyKept env) is := by
  intro always
  let object : Json := .obj [("janus", .str "event"),
    ("plugindata", .obj [("data", .obj [("private_id", .int 3),
      ("publishers", .arr [.obj [("id", .int 5)]]), ("videoroom", .str "joined")])]),
    ("sender", .int 7)]
  have joined : Input.Tags (.receivedMessage (some object)) "joined" object := ⟨⟨rfl, rfl⟩, rfl⟩
  have supplied : expectedKey [] object = some 3 := by decide +kernel
  have kept := always Env.sample [.receivedMessage (some object)] [] _ List.prefix_rfl
  obtain ⟨room, feed, key, same, rfl⟩ := kept.joins object (Or.inl joined) 3
    supplied [Server.success (Env.sample.random 0) 9] 0 (by decide +kernel)
    (9, .join 1234 (.subscriber 5 0)) (by decide +kernel)
  have sent : (0 : Int) = castDouble 3 := by
    injection same with _ ptype
    injection ptype
  exact absurd sent (by decide)

end WebrtcDemo
