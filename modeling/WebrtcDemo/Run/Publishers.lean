import Mathlib.Data.List.Find
import WebrtcDemo.Run.Events
import WebrtcDemo.Run.Peers

/-!
# The loop over the publishers

An event that lists publishers makes one peer for each positive id, in the order
of the array, and asks for a handle for each. `Subscribed` says what the loop has
done after `ids`: the peers are the next objects, their requests the next
transactions, and nothing older has changed. The handlers of the two events that
run the loop are quiet before and after it; what they do to the list is stated
apart, since an event may take a feed out of it again.
-/

namespace WebrtcDemo

open JanusVideoRoomManager (findPeer subscriber publisherIds dataObj)

/-- The ids an event makes peers for. -/
def newFeeds (object : Json) : List Int := (publisherIds object).filter (0 < ·)

theorem newFeeds_pos {object : Json} {u : Int} (member : u ∈ newFeeds object) : 0 < u := by
  simpa [newFeeds] using (List.mem_filter.1 member).2

/-- The `k`-th attach message of the loop that starts in `s`. -/
def attachMessage (env : Env) (s : Client) (k : Nat) : Option Ptr × Message :=
  (some (s.constructed + k),
    { transaction := env.random (s.draws + k)
      session_id := some (castDouble s.janus.mSessionId)
      request := .attach .videoroom })

/-- The loop over the ids `ids`, all positive, went from `s` to `t`. -/
structure Subscribed (env : Env) (s : Client) (ids : List Int) (t : Client) : Prop where
  constructed : t.constructed = s.constructed + ids.length
  draws : t.draws = s.draws + ids.length
  settings : t.janus.mVideoRoomID = s.janus.mVideoRoomID ∧
    t.janus.mSessionId = s.janus.mSessionId ∧ t.janus.mPrivatedId = s.janus.mPrivatedId
  others : t.listed .text = s.listed .text ∧ ∀ room, t.admin room = s.admin room
  old : ∀ p < s.constructed, t.peers p = s.peers p
  new : ∀ k (_ : k < ids.length), t.peers (s.constructed + k) =
    some (subscriber env { s with constructed := s.constructed + k } ids[k])
  waits : t.Distinct env → ∀ k < ids.length,
    t.pending (.success, env.random (s.draws + k)) =
      some (.peer (s.constructed + k) .onAttachVideoRoomJoin)
  waiting : ∀ key p member, t.pending key = some (.peer p member) →
    s.pending key = some (.peer p member) ∨
      ∃ k < ids.length, p = s.constructed + k ∧ key = (.success, env.random (s.draws + k))
  messages : t.messages = s.messages ++ (List.range ids.length).map (attachMessage env s)

/-- The first peer subscribed to `feed` is taken out of the list. -/
def Client.removeFeed (s : Client) (feed : Int) : Client :=
  { s with
    janus := { s.janus with
      mVideoRoomPeerList :=
        if feed = 0 then s.janus.mVideoRoomPeerList
        else s.janus.mVideoRoomPeerList.eraseP fun p =>
          (s.peers p).any fun peer => peer.mSubscribeId == feed } }

section
variable {env : Env} {i : Input} {s s' t : Client} {ids : List Int} {object : Json}

theorem Subscribed.nil : Subscribed env s [] s := by
  constructor <;> simp

/-- One more round. -/
theorem Subscribed.more (sofar : Subscribed env s ids t) (id : Int) :
    Subscribed env s (ids ++ [id]) (t.attachNew env .video (subscriber env t id)) where
  constructed := by
    simp [sofar.constructed]
    omega
  draws := by
    simp [sofar.draws]
    omega
  settings := by
    obtain ⟨room, session, key⟩ := sofar.settings
    simpa [Client.attachNew, Client.enlist, JanusVideoRoomManager.construct] using
      ⟨room, session, key⟩
  others := by
    simp [Client.attachNew_listed, sofar.others]
  old p older := by
    have newer : p < t.constructed := by
      rw [sofar.constructed]
      omega
    rw [Client.attachNew_peers, Function.update_of_ne newer.ne, sofar.old p older]
  new k early := by
    rw [Client.attachNew_peers]
    rw [List.length_append, List.length_singleton] at early
    obtain ⟨room, session, key⟩ := sofar.settings
    rcases Nat.lt_succ_iff_lt_or_eq.1 early with earlier | rfl
    · have newer : s.constructed + k < t.constructed := by
        rw [sofar.constructed]
        omega
      rw [Function.update_of_ne newer.ne, sofar.new k earlier, List.getElem_append_left earlier]
    · rw [sofar.constructed, Function.update_self, List.getElem_concat_length rfl]
      simp [subscriber, JanusVideoRoomManager.newPeer, sofar.constructed, room, session, key]
  waits distinct k early := by
    rw [Client.attachNew_pending]
    rw [List.length_append, List.length_singleton] at early
    rcases Nat.lt_succ_iff_lt_or_eq.1 early with earlier | rfl
    · rw [Function.update_of_ne, sofar.waits (distinct.of_le (by simp)) k earlier]
      intro same
      have drawn : env.random (s.draws + k) = env.random t.draws := by simpa using same
      have := distinct (Set.mem_Iio.2 (by simp [sofar.draws]; omega))
        (Set.mem_Iio.2 (by simp)) drawn
      rw [sofar.draws] at this
      omega
    · rw [← sofar.draws, ← sofar.constructed, Function.update_self]
      rfl
  waiting key p member pending := by
    rw [Client.attachNew_pending] at pending
    rw [List.length_append, List.length_singleton]
    rcases eq_or_ne key (.success, env.random t.draws) with rfl | other
    · obtain ⟨rfl, -⟩ : t.constructed = p ∧ _ := by simpa using pending
      exact Or.inr ⟨ids.length, by omega, sofar.constructed, by rw [sofar.draws]⟩
    · rw [Function.update_of_ne other] at pending
      rcases sofar.waiting key p member pending with before | ⟨k, early, same, drawn⟩
      · exact Or.inl before
      · exact Or.inr ⟨k, by omega, same, drawn⟩
  messages := by
    have here : (t.attachNew env .video (subscriber env t id)).messages =
        t.messages ++ [attachMessage env s ids.length] := by
      simp [Client.messages, Client.attachNew_log, Effect.message?, attachMessage,
        sofar.constructed, sofar.draws, subscriber, JanusVideoRoomManager.newPeer,
        sofar.settings.2.1, RoomKind.plugin]
    rw [here, sofar.messages]
    simp [List.range_succ]

/-- One round of the loop, for a positive id. -/
def attachFeed (env : Env) (s : Client) (id : Int) : Client :=
  s.attachNew env .video (subscriber env s id)

theorem attachFeeds (env : Env) (s : Client) (ids : List Int) :
    Subscribed env s ids (ids.foldl (attachFeed env) s) := by
  induction ids using List.reverseRecOn with
  | nil => exact .nil
  | append_singleton ids id ih =>
    rw [List.foldl_append]
    exact ih.more id

/-- The new peers are listed in the order of the array. -/
theorem attachFeeds_listed (env : Env) (s : Client) (ids : List Int) :
    (ids.foldl (attachFeed env) s).listed .video =
      s.listed .video ++ (List.range ids.length).map (s.constructed + ·) := by
  induction ids using List.reverseRecOn with
  | nil => simp
  | append_singleton ids id ih =>
    rw [List.foldl_append, List.foldl_cons, List.foldl_nil, attachFeed, Client.attachNew_listed,
      if_pos rfl, ih, (attachFeeds env s ids).constructed]
    simp [List.range_succ]

/-- Ids that are not positive make no peer. -/
theorem foldl_subscribe (env : Env) (s : Client) (ids : List Int) :
    ids.foldl (JanusVideoRoomManager.subscribe env) s =
      (ids.filter (0 < ·)).foldl (attachFeed env) s := by
  rw [List.foldl_filter]
  congr 1
  funext s id
  rw [JanusVideoRoomManager.subscribe_eq]
  simp [attachFeed]

/-- What is quiet before the loop does not show. -/
theorem Subscribed.before (sofar : Subscribed env s' ids t) (janus : s'.janus = s.janus)
    (peers : s'.peers = s.peers) (constructed : s'.constructed = s.constructed)
    (draws : s'.draws = s.draws) (messages : s'.messages = s.messages) :
    Subscribed env s ids t := by
  have listed := Client.listed_of_janus janus
  have admin := Client.admin_of_janus janus
  have pending := Client.pending_of_janus janus
  have attach : attachMessage env s' = attachMessage env s := by
    funext k
    simp [attachMessage, janus, constructed, draws]
  constructor
  · rw [sofar.constructed, constructed]
  · rw [sofar.draws, draws]
  · rw [← janus]
    exact sofar.settings
  · rw [← listed]
    exact ⟨sofar.others.1, fun room => (sofar.others.2 room).trans (admin room)⟩
  · rw [← peers, ← constructed]
    exact sofar.old
  · intro k early
    rw [← constructed, sofar.new k early]
    simp [subscriber, JanusVideoRoomManager.newPeer, janus, constructed]
  · rw [← draws, ← constructed]
    exact sofar.waits
  · rw [← pending, ← draws, ← constructed]
    exact sofar.waiting
  · rw [sofar.messages, messages, attach]

section RemoveFeed
variable {feed : Int}

theorem Client.removeFeed_zero : s.removeFeed 0 = s := by
  simp [Client.removeFeed]

theorem Client.removeFeed_pending : (s.removeFeed feed).pending = s.pending := by
  funext ⟨kind, t⟩
  cases kind <;> rfl

theorem Client.removeFeed_admin (room : RoomKind) :
    (s.removeFeed feed).admin room = s.admin room := by
  cases room <;> rfl

end RemoveFeed

/-- Nor what is quiet after it, nor what is taken out of the list then. -/
theorem Subscribed.after (sofar : Subscribed env s ids t) (same : Quiet i t s') (feed : Int) :
    Subscribed env s ids (s'.removeFeed feed) where
  constructed := same.constructed.trans sofar.constructed
  draws := same.draws.trans sofar.draws
  settings := by
    have janus : s'.janus = t.janus := same.janus
    simpa [Client.removeFeed, janus] using sofar.settings
  others := by
    refine ⟨(same.listed .text).trans sofar.others.1, fun room => ?_⟩
    rw [Client.removeFeed_admin, same.admin]
    exact sofar.others.2 room
  old p older := (congrFun same.peers p).trans (sofar.old p older)
  new k early := (congrFun same.peers _).trans (sofar.new k early)
  waits distinct k early := by
    rw [Client.removeFeed_pending, same.pending]
    exact sofar.waits (distinct.of_le same.draws.ge) k early
  waiting key p member pending := by
    rw [Client.removeFeed_pending, same.pending] at pending
    exact sofar.waiting key p member pending
  messages := same.messages.trans sofar.messages

/-! ## The events around the loop -/

/-- The feed an event takes out of the list, 0 for none. -/
def unpublishedFeed (object : Json) : Int :=
  if videoRoomTag object = some "event" then JsonValueToLongLong (dataObj object) "unpublished"
  else 0

/-- The private id of an event is kept for the peers it makes. -/
def Client.keyed (s : Client) (object : Json) : Client :=
  { s with janus := { s.janus with mPrivatedId := JsonValueToLongLong object "private_id" } }

theorem onVideoRoomEventUnpublish_eq (i : Input) (s : Client) (object : Json) :
    ∃ t, Quiet i s t ∧ JanusVideoRoomManager.onVideoRoomEventUnpublish s object =
      t.removeFeed (JsonValueToLongLong (dataObj object) "unpublished") := by
  rw [JanusVideoRoomManager.onVideoRoomEventUnpublish]
  split_ifs with nonzero
  · split
    · next p _ =>
      refine ⟨_, Quiet.OnRemoteStreamRemove i s ((s.peers p).elim 0 (·.mVideoRoomHandleID)), ?_⟩
      rw [Client.removeFeed, if_neg nonzero]
    · next missing =>
      refine ⟨s, Quiet.refl i s, ?_⟩
      have nobody : ∀ p ∈ s.janus.mVideoRoomPeerList, ¬ (s.peers p).any (fun peer =>
          peer.mSubscribeId == JsonValueToLongLong (dataObj object) "unpublished") :=
        fun p listed => List.find?_eq_none.1 missing p listed
      rw [Client.removeFeed, if_neg nonzero, List.eraseP_of_forall_not nobody]
  · refine ⟨s, Quiet.refl i s, ?_⟩
    rw [not_not.1 nonzero, Client.removeFeed_zero]

/-- The loop over the publishers of an event. -/
theorem onVideoRoomEventPublisher_eq (s : Client) (object : Json) :
    JanusVideoRoomManager.onVideoRoomEventPublisher env s object =
      (newFeeds object).foldl (attachFeed env) (s.keyed object) :=
  foldl_subscribe env (s.keyed object) (publisherIds object)

variable (env s) in
/-- **An event that lists publishers** is quiet, runs the loop, is quiet again, and
takes the unpublished feed out of the list. -/
theorem step_publishes (event : i.Tags "joined" object ∨ i.Tags "event" object) :
    ∃ before t, Quiet i s before ∧
      Quiet i ((newFeeds object).foldl (attachFeed env) (before.keyed object)) t ∧
      step env s i = t.removeFeed (unpublishedFeed object) := by
  rcases event with joined | event
  · have feed : unpublishedFeed object = 0 := by
      simp [unpublishedFeed, joined.2]
    rw [step_videoRoom joined, JanusVideoRoomManager.onVideoRoomEvent, if_pos rfl,
      JanusVideoRoomManager.onVideoRoomEventJoin, onVideoRoomEventPublisher_eq, feed]
    simp only [Client.removeFeed_zero]
    split
    · exact ⟨s, _, Quiet.refl i s, Quiet.OnConnectToPeer ⟨object, joined.1, rfl⟩ _ _ _, rfl⟩
    · exact ⟨s, _, Quiet.refl i s, Quiet.refl i _, rfl⟩
  · have told := onVideoRoomEventSdp_quiet (s := s) event.1 false
    have feed : unpublishedFeed object = JsonValueToLongLong (dataObj object) "unpublished" := by
      simp [unpublishedFeed, event.2]
    rw [step_videoRoom event, JanusVideoRoomManager.onVideoRoomEvent, if_neg (by decide),
      if_neg (by decide), if_pos rfl, JanusVideoRoomManager.onVideoRoomEventEvent,
      onVideoRoomEventPublisher_eq, feed]
    obtain ⟨t, same, removed⟩ := onVideoRoomEventUnpublish_eq i _ object
    exact ⟨_, t, told, same, removed⟩

/-- After the loop a search finds whom it found before, or a peer that the loop made. -/
theorem findPeer_published (owned : Owned s) {read : JanusPeerConnection → Int} {v : Int} {p : Ptr}
    (found : findPeer (JanusVideoRoomManager.onVideoRoomEventPublisher env s object)
      ((JanusVideoRoomManager.onVideoRoomEventPublisher env s object).listed .video) read v = some p) :
    findPeer s (s.listed .video) read v = some p ∨
      findPeer s (s.listed .video) read v = none ∧ ∃ k, ∃ early : k < (newFeeds object).length,
        read (subscriber env { s.keyed object with constructed := s.constructed + k }
          (newFeeds object)[k]) = v := by
  have subscribed := attachFeeds env (s.keyed object) (newFeeds object)
  rw [onVideoRoomEventPublisher_eq, attachFeeds_listed] at found
  unfold findPeer at found ⊢
  rw [List.find?_append] at found
  have old : (s.listed .video).find? (fun q =>
      (((newFeeds object).foldl (attachFeed env) (s.keyed object)).peers q).any (read · == v)) =
      (s.listed .video).find? fun q => (s.peers q).any (read · == v) := by
    refine List.find?_congr fun q listed => ?_
    have older : q < s.constructed := owned.older (Client.listed_holders listed)
    have same : ((newFeeds object).foldl (attachFeed env) (s.keyed object)).peers q = s.peers q :=
      subscribed.old q older
    rw [same]
  have first : (s.keyed object).listed .video = s.listed .video := rfl
  rw [first, old, Option.or_eq_some_iff] at found
  refine found.imp_right fun late => ⟨late.1, ?_⟩
  obtain ⟨-, late⟩ := late
  have holds := List.find?_some late
  obtain ⟨k, early, rfl⟩ := List.mem_map.1 (List.mem_of_find?_eq_some late)
  have early : k < (newFeeds object).length := List.mem_range.1 early
  rw [subscribed.new k early, Option.any_some, beq_iff_eq] at holds
  exact ⟨k, early, holds⟩

variable (env s) in
/-- What such an event does to everything but the video list. -/
theorem step_subscribed (event : i.Tags "joined" object ∨ i.Tags "event" object) :
    Subscribed env (s.keyed object) (newFeeds object) (step env s i) := by
  obtain ⟨before, t, quiet, same, stepped⟩ := step_publishes env s event
  have janus : (before.keyed object).janus = (s.keyed object).janus := by
    simp [Client.keyed, quiet.janus]
  rw [stepped]
  exact (Subscribed.before (attachFeeds env _ _) janus quiet.peers quiet.constructed quiet.draws
    quiet.messages).after same _

variable (env s) in
/-- **The list after such an event**: the new peers come at the end, and the first
peer subscribed to the unpublished feed goes. -/
theorem step_listed (event : i.Tags "joined" object ∨ i.Tags "event" object) :
    (step env s i).listed .video =
      let list := s.listed .video ++ (List.range (newFeeds object).length).map (s.constructed + ·)
      if unpublishedFeed object = 0 then list
      else list.eraseP fun p =>
        ((step env s i).peers p).any fun peer => peer.mSubscribeId == unpublishedFeed object := by
  obtain ⟨before, t, quiet, same, stepped⟩ := step_publishes env s event
  have list : t.listed .video =
      s.listed .video ++ (List.range (newFeeds object).length).map (s.constructed + ·) := by
    have unkeyed : (before.keyed object).listed .video = before.listed .video := rfl
    have constructed : (before.keyed object).constructed = s.constructed := quiet.constructed
    rw [same.listed, attachFeeds_listed, unkeyed, constructed, quiet.listed]
  rw [stepped, ← list]
  rfl

end

end WebrtcDemo
