import WebrtcDemo.Run.Lifetime
import WebrtcDemo.Run.Streams

/-!
# After the video room is left

Leaving is local: the peers and the streams go, the windows are freed, and the
server is not told. Its events go on, and are handled as ever. With no peer listed
most of them do nothing, but the loop over the publishers and the handler of a
description look for no peer first: what comes of a left room depends on what the
events bring, and on nothing else.
-/

namespace WebrtcDemo

/-- The message is for a video room: it asks for a handle, joins, or carries a
description or a candidate. -/
def Message.isForVideoRoom (m : Message) : Bool :=
  match m.request with
  | .attach .videoroom | .trickle _ _ => true
  | .message _ (.join _ _) _ | .message _ (.configure _ _) _ | .message _ (.start _) _ => true
  | _ => false

/-- Nothing is left of the video room that was left in the state `left`, and nothing
has been sent for one since. -/
structure Left (left s : Client) : Prop where
  unlisted : s.listed .video = []
  streamless : s.streams = ∅
  free : ∀ wind ∈ s.conference.mRemoteWinds, wind.2 = 0
  silent : ∃ sent, s.messages = left.messages ++ sent ∧ ∀ m ∈ sent, ¬ m.2.isForVideoRoom

/-- The input is an event of the video room plugin. -/
def Input.IsVideoRoomEvent (i : Input) : Prop := ∃ tag object, i.Tags tag object

/-- The event lists no feed to subscribe to and brings no description. -/
structure Inert (i : Input) : Prop where
  nobody : ∀ object, i.Tags "joined" object ∨ i.Tags "event" object → newFeeds object = []
  nothing : ∀ object, i.Tags "attached" object ∨ i.Tags "event" object → offeredSdp object = ""

section
variable {env : Env} {i : Input} {left s : Client} {tag : String} {object : Json}

/-! ## Handlers that find no peer -/

theorem publisher_nobody (nobody : newFeeds object = []) :
    JanusVideoRoomManager.onVideoRoomEventPublisher env s object = s.keyed object := by
  rw [onVideoRoomEventPublisher_eq, nobody]
  rfl

theorem sdp_nothing (nothing : offeredSdp object = "") (isTextRoom : Bool) :
    JanusVideoRoomManager.onVideoRoomEventSdp s object isTextRoom = s := by
  unfold JanusVideoRoomManager.onVideoRoomEventSdp
  rw [offeredSdp] at nothing
  simp [nothing]

theorem unpublish_unlisted (unlisted : s.listed .video = []) :
    JanusVideoRoomManager.onVideoRoomEventUnpublish s object = s := by
  rcases unpublish_cases s object with same | ⟨q, _, u, found, -⟩
  · exact same
  · rw [unlisted] at found
    simp [JanusVideoRoomManager.findPeer] at found

theorem join_unlisted (unlisted : s.listed .video = []) (nobody : newFeeds object = []) :
    JanusVideoRoomManager.onVideoRoomEventJoin env s object = s.keyed object := by
  have unlisted : (s.keyed object).janus.mVideoRoomPeerList = [] := unlisted
  rw [JanusVideoRoomManager.onVideoRoomEventJoin, publisher_nobody nobody]
  simp [JanusVideoRoomManager.findPeer, unlisted]

variable (env) in
/-- Of an event that lists no feed, only its description counts. -/
theorem event_unlisted (event : i.Reports object) (unlisted : s.listed .video = [])
    (nobody : newFeeds object = []) :
    JanusVideoRoomManager.onVideoRoomEventEvent env s object =
      (JanusVideoRoomManager.onVideoRoomEventSdp s object false).keyed object := by
  have told := onVideoRoomEventSdp_quiet (s := s) event false
  rw [JanusVideoRoomManager.onVideoRoomEventEvent, publisher_nobody nobody]
  exact unpublish_unlisted ((told.listed .video).trans unlisted)

variable (env) in
/-- A video room event that brings nothing changes at most the private id. -/
theorem step_inert (event : i.Tags tag object) (inert : Inert i) (unlisted : s.listed .video = []) :
    step env s i = s ∨ step env s i = s.keyed object := by
  rcases step_event_cases env s event.1 with
    ⟨joined, stepped⟩ | ⟨attached, stepped⟩ | ⟨happened, stepped⟩ | ⟨untagged, -⟩ | stepped
  · have nobody := inert.nobody object (Or.inl ⟨event.1, joined⟩)
    exact Or.inr (stepped.trans (join_unlisted unlisted nobody))
  · have nothing := inert.nothing object (Or.inl ⟨event.1, attached⟩)
    exact Or.inl (stepped.trans (sdp_nothing nothing false))
  · have nobody := inert.nobody object (Or.inr ⟨event.1, happened⟩)
    have nothing := inert.nothing object (Or.inr ⟨event.1, happened⟩)
    rw [stepped, event_unlisted env event.1 unlisted nobody, sdp_nothing nothing]
    exact Or.inr rfl
  · exact absurd (untagged.symm.trans event.2) (by simp)
  · exact Or.inl stepped

/-! ## A left room stays left -/

theorem Left.keyed (gone : Left left s) (object : Json) : Left left (s.keyed object) :=
  ⟨gone.unlisted, gone.streamless, gone.free, gone.silent⟩

/-- Feeds to subscribe to are subscribed to. -/
theorem Left.nobody_of_step (gone : Left left s) (after : Left left (step env s i))
    (event : i.Tags "joined" object ∨ i.Tags "event" object) : newFeeds object = [] := by
  by_contra some_
  obtain ⟨sent, before, -⟩ := gone.silent
  obtain ⟨sent', now, silent⟩ := after.silent
  have messages := (step_subscribed env s event).messages
  have extended : sent' = sent ++
      (List.range (newFeeds object).length).map (attachMessage env (s.keyed object)) := by
    have keyed : (s.keyed object).messages = s.messages := rfl
    rw [now, keyed, before, List.append_assoc] at messages
    exact List.append_cancel_left messages
  have first : attachMessage env (s.keyed object) 0 ∈ sent' := by
    rw [extended]
    refine List.mem_append_right _ (List.mem_map_of_mem (List.mem_range.2 ?_))
    exact List.length_pos_iff.2 some_
  exact silent _ first rfl

/-- A description makes a stream. -/
theorem Left.nothing_of_step (gone : Left left s) (after : Left left (step env s i))
    (event : i.Tags "attached" object ∨ i.Tags "event" object) : offeredSdp object = "" := by
  by_contra offered
  have made : senderOf object ∈ (step env s i).streams := by
    have stream : senderOf object ∈
        (JanusVideoRoomManager.onVideoRoomEventSdp s object false).streams := by
      rw [onVideoRoomEventSdp_streams, if_neg offered]
      exact Set.mem_insert _ _
    rcases event with attached | happened
    · rw [step_videoRoom attached, JanusVideoRoomManager.onVideoRoomEvent]
      exact stream
    · have nobody := gone.nobody_of_step after (Or.inr happened)
      rw [step_videoRoom happened, JanusVideoRoomManager.onVideoRoomEvent]
      exact (event_unlisted env happened.1 gone.unlisted nobody) ▸ stream
  rw [after.streamless] at made
  exact made

/-- A video room event leaves a left room left if and only if it brings nothing. -/
theorem Left.step_iff (gone : Left left s) (event : i.IsVideoRoomEvent) :
    Left left (WebrtcDemo.step env s i) ↔ Inert i := by
  constructor
  · intro after
    exact ⟨fun _ => gone.nobody_of_step after, fun _ => gone.nothing_of_step after⟩
  · intro inert
    obtain ⟨tag, object, event⟩ := event
    rcases step_inert env event inert gone.unlisted with same | keyed
    · rwa [same]
    · rw [keyed]
      exact gone.keyed object

/-! ## Leaving -/

theorem left_leaveVideoRoom (env : Env) (s : Client) :
    Left (step env s .leaveVideoRoom) (step env s .leaveVideoRoom) := by
  have conference : (step env s .leaveVideoRoom).conference =
      (ConferenceManager.LeaveVideoRoom s).conference := by
    change ((ConferenceManager.LeaveVideoRoom s).leave .video).conference = _
    exact Client.leave_conference
  rw [LeaveVideoRoom_conference] at conference
  refine ⟨rfl, ?_, ?_, ⟨[], by simp, by simp⟩⟩
  · rw [Client.streams, conference]
    exact Set.eq_empty_iff_forall_notMem.2 AList.notMem_empty
  · rw [conference]
    intro wind member
    obtain ⟨_, -, rfl⟩ := List.mem_map.1 member
    rfl

end

/-- The state in which the video room has just been left. -/
abbrev afterLeaving (env : Env) (js : List Input) : Client := after env (js ++ [.leaveVideoRoom])

/-- **A video room that was left stays left** through exactly the events that list no
feed and bring no description. -/
theorem stays_left_iff (env : Env) (js is : List Input) (events : ∀ i ∈ is, i.IsVideoRoomEvent) :
    Machine.Throughout (step env) (Left (afterLeaving env js)) (afterLeaving env js) is ↔
      ∀ i ∈ is, Inert i := by
  have start : Left (afterLeaving env js) (afterLeaving env js) := by
    rw [afterLeaving, after_concat]
    exact left_leaveVideoRoom env _
  have inputs : Machine.Along (step env) (fun _ i => Inert i) (afterLeaving env js) is ↔
      ∀ i ∈ is, Inert i := Machine.along_inputs
  refine Iff.trans ?_ inputs
  exact Machine.throughout_iff_along (Q := fun _ => True) (fun _ _ _ => trivial)
    (fun s i member _ gone => gone.step_iff (events i member)) trivial start

/-- An event of a subscriber that leaves, to a client that has left. -/
theorem stays_left_unpublished :
    let gone : Server.VideoEvent := { tag := "event", sender := 7, unpublished := some 5 }
    let js := [.joinVideoRoom 1234 "cc", Server.success (Env.sample.random 0) 7]
    Machine.Throughout (step Env.sample) (Left (afterLeaving Env.sample js))
      (afterLeaving Env.sample js) [Server.event gone] := by
  intro gone js
  refine (stays_left_iff Env.sample js [Server.event gone] ?_).2 ?_
  · rw [List.forall_mem_singleton]
    exact ⟨_, _, gone.reports, gone.tag_object⟩
  · rw [List.forall_mem_singleton]
    constructor
    · intro object event
      have event : (Server.event gone).Reports object := event.elim (·.1) (·.1)
      obtain rfl := gone.reports.only event
      decide +kernel
    · intro object event
      have event : (Server.event gone).Reports object := event.elim (·.1) (·.1)
      obtain rfl := gone.reports.only event
      decide +kernel

/-- A client that has left subscribes to the next feed that is announced. -/
theorem announced_after_leaving : ¬ ∀ (env : Env) (js is : List Input),
    (∀ i ∈ is, i.IsVideoRoomEvent) →
    Machine.Throughout (step env) (Left (afterLeaving env js)) (afterLeaving env js) is := by
  intro always
  let announced : Server.VideoEvent := { tag := "event", sender := 7, publishers := [5] }
  let js := [.joinVideoRoom 1234 "cc", Server.success (Env.sample.random 0) 7]
  have event : ∀ i ∈ [Server.event announced], i.IsVideoRoomEvent := by
    rw [List.forall_mem_singleton]
    exact ⟨_, _, announced.reports, announced.tag_object⟩
  have gone := (always Env.sample js _ event).last
  have listed : (Machine.run (step Env.sample) (afterLeaving Env.sample js)
      [Server.event announced]).listed .video = [1] := by decide +kernel
  exact absurd (gone.unlisted.symm.trans listed) (by simp)

end WebrtcDemo
