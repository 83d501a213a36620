import WebrtcDemo.Run.Lifetime
import WebrtcDemo.Run.Messages

/-!
# Local candidates

What a stream reports of its candidates joins the list of its entry and leaves it in the
same event, on the peer that goes by the same handle, so nothing waits and nothing is
passed over. A message carries the handle as a `double`: two handles that are one `double`
cannot be told apart by whoever receives it.
-/

namespace WebrtcDemo

/-- The candidate that an input reports, and the handle it reports it for. The end of the
candidates is one more. -/
def Input.candidate? : Input → Option (Int × iceCandidate)
  | .localIceCandidate id candidate => some (id, candidate)
  | .iceGatheringComplete id => some (id, { sdp_mid := "end", sdp_mline_index := -1, sdp := "end" })
  | _ => none

/-- What is sent of a candidate. -/
def iceCandidate.message (c : iceCandidate) : Candidate :=
  if c.sdp_mid = "end" then .completed else .candidate c.sdp c.sdp_mid c.sdp_mline_index

/-- The candidate of a trickle message with the handle id `h`. -/
def Request.trickle? (h : Int) : Request → Option Candidate
  | .trickle handle_id candidate => if handle_id = h then some candidate else none
  | _ => none

/-- The candidates sent with the handle id `h`, in order. -/
def Client.trickles (s : Client) (h : Int) : List Candidate :=
  s.messages.filterMap fun sent => sent.2.request.trickle? h

/-- The candidates that an input reports for `h`, as they are sent. -/
def Input.reported (i : Input) (h : Int) : Option Candidate :=
  i.candidate?.bind fun report => if report.1 = h then some report.2.message else none

/-- How many peers of the video list go by the handle `h`. -/
def Client.peersAt (s : Client) (h : Int) : Nat :=
  (s.listed .video).countP fun p => (s.peers p).any (·.mVideoRoomHandleID == h)

/-- A stream that is in the video table only, and goes by the handle of a listed peer. -/
structure Trickling (s : Client) (h : Int) : Prop where
  sound : Sound s
  stream : h ∈ s.conference.mRemoteStreamInfos_VideoAudio
  alone : h ∉ s.conference.mRemoteStreamInfos_DataChannels
  peer : s.peersAt h ≠ 0

section
variable {env : Env} {i : Input} {s s' : Client} {h id : Int} {c : iceCandidate}

/-! ## One candidate -/

/-- Candidates were sent, and nothing but the log and the entries of the tables changed. -/
structure Trickled (s s' : Client) (h : Int) (sent : List Candidate) : Prop where
  janus : s'.janus = s.janus
  peers : s'.peers = s.peers
  video : ∀ k, k ∈ s'.conference.mRemoteStreamInfos_VideoAudio ↔
    k ∈ s.conference.mRemoteStreamInfos_VideoAudio
  data : ∀ k, k ∈ s'.conference.mRemoteStreamInfos_DataChannels ↔
    k ∈ s.conference.mRemoteStreamInfos_DataChannels
  trickles : s'.trickles h = s.trickles h ++ sent

theorem Trickled.refl (s : Client) (h : Int) : Trickled s s h [] :=
  ⟨rfl, rfl, fun _ => Iff.rfl, fun _ => Iff.rfl, (List.append_nil _).symm⟩

theorem Trickled.trans {s'' : Client} {sent sent' : List Candidate} (first : Trickled s s' h sent)
    (second : Trickled s' s'' h sent') : Trickled s s'' h (sent ++ sent') where
  janus := second.janus.trans first.janus
  peers := second.peers.trans first.peers
  video k := (second.video k).trans (first.video k)
  data k := (second.data k).trans (first.data k)
  trickles := by
    rw [second.trickles, first.trickles, List.append_assoc]

/-- An entry that is there is written. -/
theorem Trickled.storeVideo {info : RemoteStreamInfo} (info' : RemoteStreamInfo)
    (found : s.conference.mRemoteStreamInfos_VideoAudio.lookup id = some info) :
    Trickled s (s.withVideo (s.conference.mRemoteStreamInfos_VideoAudio.insert id info')) h [] := by
  have member : id ∈ s.conference.mRemoteStreamInfos_VideoAudio :=
    AList.lookup_isSome.1 (by simp [found])
  refine ⟨rfl, rfl, fun k => ?_, fun _ => Iff.rfl, (List.append_nil _).symm⟩
  show k ∈ AList.insert id info' _ ↔ _
  rw [AList.mem_insert]
  exact or_iff_right_of_imp fun same => same ▸ member

theorem Trickled.storeData {info : RemoteStreamInfo} (info' : RemoteStreamInfo)
    (found : s.conference.mRemoteStreamInfos_DataChannels.lookup id = some info) :
    Trickled s (s.withData (s.conference.mRemoteStreamInfos_DataChannels.insert id info')) h [] := by
  have member : id ∈ s.conference.mRemoteStreamInfos_DataChannels :=
    AList.lookup_isSome.1 (by simp [found])
  refine ⟨rfl, rfl, fun _ => Iff.rfl, fun k => ?_, (List.append_nil _).symm⟩
  show k ∈ AList.insert id info' _ ↔ _
  rw [AList.mem_insert]
  exact or_iff_right_of_imp fun same => same ▸ member

theorem peersAt_ne_zero_iff : s.peersAt id ≠ 0 ↔
    (JanusVideoRoomManager.findPeer s s.janus.mVideoRoomPeerList (·.mVideoRoomHandleID) id).isSome := by
  unfold Client.peersAt JanusVideoRoomManager.findPeer
  rw [← Nat.pos_iff_ne_zero, List.countP_pos_iff, List.find?_isSome]
  rfl

/-- What a peer sends of a candidate. -/
theorem SendCandidate_message (env : Env) {p : Ptr} {x : JanusPeerConnection}
    (alive : s.peers p = some x) (c : iceCandidate) :
    JanusPeerConnection.SendCandidate env s p c =
      s.speak env (some p) (some (castDouble x.mSessionID))
        (.trickle (castDouble x.mVideoRoomHandleID) c.message) := by
  rw [JanusPeerConnection.SendCandidate, Client.withPeer_live alive]
  rfl

/-- A candidate goes out on the peer with the handle `id`, if there is one. -/
theorem SendCandidate_sends (env : Env) (s : Client) (id h : Int) (c : iceCandidate) :
    Trickled s (JanusVideoRoomManager.SendCandidate env s id c) (castDouble h)
      (if s.peersAt id ≠ 0 ∧ castDouble id = castDouble h then [c.message] else []) := by
  rw [JanusVideoRoomManager.SendCandidate]
  split
  · next p found =>
    obtain ⟨-, x, alive, rfl⟩ := findPeer_some found
    have there : s.peersAt x.mVideoRoomHandleID ≠ 0 := by
      rw [peersAt_ne_zero_iff, found]
      rfl
    rw [SendCandidate_message env alive]
    refine ⟨rfl, rfl, fun _ => Iff.rfl, fun _ => Iff.rfl, ?_⟩
    unfold Client.trickles
    rw [Client.speak_messages, List.filterMap_append]
    by_cases same : castDouble x.mVideoRoomHandleID = castDouble h
    · simp [Request.trickle?, same, there]
    · simp [Request.trickle?, same]
  · next missing =>
    have nobody : ¬ s.peersAt id ≠ 0 := by
      rw [peersAt_ne_zero_iff, missing]
      simp
    rw [if_neg fun both => nobody both.1]
    exact .refl s _

/-! ## One event -/

/-- Only an entry of a table passes a candidate on. -/
theorem Trickled.entry {table : StreamTable} {P : Prop} [Decidable P] {H : Int} {c : Candidate}
    (known : ∀ info, table.lookup id = some info → Trickled s s' H (if P then [c] else []))
    (unknown : table.lookup id = none → s' = s) :
    Trickled s s' H (if id ∈ table ∧ P then [c] else []) := by
  rcases found : table.lookup id with _ | info
  · have absent : id ∉ table := AList.lookup_eq_none.1 found
    rw [unknown found, if_neg fun both => absent both.1]
    exact .refl s H
  · have member : id ∈ table := AList.lookup_isSome.1 (by simp [found])
    simpa [member] using known info found

theorem candidateVideo_sends (env : Env) (sound : Sound s) (id h : Int) (c : iceCandidate) :
    Trickled s (ConferenceManager.candidateVideo env s id c) (castDouble h)
      (if id ∈ s.conference.mRemoteStreamInfos_VideoAudio ∧ s.peersAt id ≠ 0 ∧
        castDouble id = castDouble h then [c.message] else []) := by
  refine Trickled.entry (fun info found => ?_) fun missing => by
    rw [ConferenceManager.candidateVideo, missing]
  rw [sound.candidateVideo found]
  exact (Trickled.storeVideo _ found).trans (SendCandidate_sends env _ id h c)

theorem candidateData_sends (env : Env) (sound : Sound s) (id h : Int) (c : iceCandidate) :
    Trickled s (ConferenceManager.candidateData env s id c) (castDouble h)
      (if id ∈ s.conference.mRemoteStreamInfos_DataChannels ∧ s.peersAt id ≠ 0 ∧
        castDouble id = castDouble h then [c.message] else []) := by
  refine Trickled.entry (fun info found => ?_) fun missing => by
    rw [ConferenceManager.candidateData, missing]
  rw [sound.candidateData found]
  exact (Trickled.storeData _ found).trans (SendCandidate_sends env _ id h c)

theorem Trickled.peersAt {H : Int} {sent : List Candidate} (sends : Trickled s s' H sent) (id : Int) :
    s'.peersAt id = s.peersAt id := by
  unfold Client.peersAt Client.listed
  rw [sends.janus, sends.peers]

theorem step_candidate (env : Env) (s : Client) {i : Input} (reports : i.candidate? = some (id, c)) :
    step env s i = ConferenceManager.onLocalIceCandidate env s id c := by
  cases i <;> simp only [Input.candidate?, reduceCtorEq, Option.some.injEq, Prod.mk.injEq] at reports
  · obtain ⟨rfl, rfl⟩ := reports
    rfl
  · obtain ⟨rfl, rfl⟩ := reports
    rfl

/-- **What one event sends** for a stream that is in the video table only. -/
theorem Trickling.step (trickling : Trickling s h) (env : Env) {i : Input}
    (reports : i.candidate? = some (id, c)) (apart : castDouble id = castDouble h → id = h) :
    Trickling (WebrtcDemo.step env s i) h ∧
      (WebrtcDemo.step env s i).trickles (castDouble h) =
        s.trickles (castDouble h) ++ (i.reported h).toList := by
  have staged : Relation.ReflTransGen (Staged i s) s
      (ConferenceManager.candidateVideo env s id c) := candidateVideo_staged id c
  have sound' : Sound (ConferenceManager.candidateVideo env s id c) :=
    Machine.transitions_keep (fun _ _ piece before => piece.sound before) staged trickling.sound
  have video := candidateVideo_sends env trickling.sound id h c
  have both := video.trans (candidateData_sends env sound' id h c)
  have stepped : WebrtcDemo.step env s i =
      ConferenceManager.candidateData env (ConferenceManager.candidateVideo env s id c) id c := by
    rw [step_candidate env s reports, ConferenceManager.onLocalIceCandidate_eq]
  have sound := trickling.sound.step env i
  rw [stepped] at sound ⊢
  refine ⟨⟨sound, (both.video h).2 trickling.stream, fun member => trickling.alone ((both.data h).1 member),
    both.peersAt h ▸ trickling.peer⟩, ?_⟩
  rw [both.trickles]
  congr 1
  unfold Input.reported
  rw [reports]
  by_cases same : id = h
  · subst same
    have alone : id ∉ (ConferenceManager.candidateVideo env s id c).conference.mRemoteStreamInfos_DataChannels :=
      fun member => trickling.alone ((video.data id).1 member)
    simp [trickling.stream, trickling.peer, alone]
  · have other : castDouble id ≠ castDouble h := fun cast => same (apart cast)
    simp [same, other]

end

/-! ## Any sequence of events -/

theorem Trickling.run {env : Env} {s : Client} {h : Int} (trickling : Trickling s h) {es : List Input}
    (events : ∀ e ∈ es, e.candidate?.isSome)
    (apart : ∀ e ∈ es, ∀ id c, e.candidate? = some (id, c) → castDouble id = castDouble h → id = h) :
    Trickling (Machine.run (WebrtcDemo.step env) s es) h ∧
      (Machine.run (WebrtcDemo.step env) s es).trickles (castDouble h) =
        s.trickles (castDouble h) ++ es.filterMap (·.reported h) := by
  induction es generalizing s with
  | nil => exact ⟨trickling, (List.append_nil _).symm⟩
  | cons e more ih =>
    obtain ⟨⟨id, c⟩, reports⟩ := Option.isSome_iff_exists.1 (events e List.mem_cons_self)
    obtain ⟨next, sent⟩ := trickling.step env reports (apart e List.mem_cons_self id c reports)
    obtain ⟨last, rest⟩ := ih next (fun e member => events e (List.mem_cons_of_mem _ member))
      fun e member => apart e (List.mem_cons_of_mem _ member)
    refine ⟨last, ?_⟩
    rw [Machine.run_cons, rest, sent, List.append_assoc]
    congr 1
    cases there : e.reported h <;> simp [there]

/-- **The candidates of a stream are sent one for one, in order**, and none waits, when
no other stream that reports candidates has the same `double` for its handle. -/
theorem candidates_sent (env : Env) (is es : List Input) (h : Int)
    (stream : h ∈ (after env is).conference.mRemoteStreamInfos_VideoAudio)
    (alone : h ∉ (after env is).conference.mRemoteStreamInfos_DataChannels)
    (peer : (after env is).peersAt h ≠ 0) (events : ∀ e ∈ es, e.candidate?.isSome)
    (apart : ∀ e ∈ es, ∀ id c, e.candidate? = some (id, c) → castDouble id = castDouble h → id = h) :
    (Machine.run (step env) (after env is) es).trickles (castDouble h) =
        (after env is).trickles (castDouble h) ++ es.filterMap (·.reported h) ∧
      ∀ fs, fs <+: es → ∃ info,
        (Machine.run (step env) (after env is) fs).conference.mRemoteStreamInfos_VideoAudio.lookup h =
          some info ∧ info.iceCandidateList = [] := by
  have trickling : Trickling (after env is) h := ⟨sound_after env is, stream, alone, peer⟩
  refine ⟨(trickling.run events apart).2, fun fs isPrefix => ?_⟩
  have there : Trickling (Machine.run (step env) (after env is) fs) h :=
    (trickling.run (fun e member => events e (isPrefix.subset member))
      fun e member => apart e (isPrefix.subset member)).1
  obtain ⟨info, found⟩ := Option.isSome_iff_exists.1 (AList.lookup_isSome.2 there.stream)
  exact ⟨info, found, (there.sound.video.entry found).1.none⟩

/-- Two streams that report in turn. -/
theorem candidates_sent_two :
    let is := [.joinVideoRoom 1234 "cc", Server.success (Env.sample.random 0) 7,
      Server.event { tag := "joined", sender := 7, publishers := [5] },
      Server.success (Env.sample.random 2) 8,
      Server.event { tag := "attached", sender := 8, offer := some "v=0" }]
    let es : List Input := [.localIceCandidate 7 ⟨"a", 0, "one"⟩,
      .localIceCandidate 8 ⟨"a", 0, "two"⟩, .iceGatheringComplete 7]
    (Machine.run (step Env.sample) (after Env.sample is) es).trickles (castDouble 7) =
      [.candidate "one" "a" 0, .completed] := by
  intro is es
  have events : ∀ e ∈ es, e.candidate?.isSome := by
    simp [es, Input.candidate?]
  have apart : ∀ e ∈ es, ∀ id c, e.candidate? = some (id, c) →
      castDouble id = castDouble 7 → id = 7 := by
    intro e member id c reports cast
    have known : id = 7 ∨ id = 8 := by
      simp only [es, List.mem_cons, List.not_mem_nil, or_false] at member
      rcases member with rfl | rfl | rfl <;> simp_all [Input.candidate?]
    rcases known with rfl | rfl
    · rfl
    · exact absurd cast (by decide +kernel)
  have sent := (candidates_sent Env.sample is es 7 (by decide +kernel) (by decide +kernel)
    (by decide +kernel) events apart).1
  have before : (after Env.sample is).trickles (castDouble 7) = [] := by decide +kernel
  have reported : es.filterMap (·.reported 7) = [.candidate "one" "a" 0, .completed] := by
    decide +kernel
  rw [sent, before, reported]
  rfl

/-- The handle of this stream is no `double`. -/
theorem candidates_misaddressed : ¬ ∀ (env : Env) (is es : List Input) (h : Int)
    (info : RemoteStreamInfo), 0 < h →
    (after env is).conference.mRemoteStreamInfos_VideoAudio.lookup h = some info →
    (after env is).videoHandle info.stream = h →
    h ∉ (after env is).conference.mRemoteStreamInfos_DataChannels → (after env is).peersAt h = 1 →
    (∀ e ∈ es, e.candidate?.isSome) →
    (Machine.run (step env) (after env is) es).trickles h =
      (after env is).trickles h ++ es.filterMap (·.reported h) := by
  intro always
  let is := [.joinVideoRoom 1234 "cc", Server.success (Env.sample.random 0) 9007199254740993,
    Server.event { tag := "joined", sender := 9007199254740993 }]
  obtain ⟨info, found⟩ := Option.isSome_iff_exists.1 (show
    ((after Env.sample is).conference.mRemoteStreamInfos_VideoAudio.lookup 9007199254740993).isSome by
      decide +kernel)
  have sent := always Env.sample is [.iceGatheringComplete 9007199254740993] 9007199254740993 info
    (by decide) found ((sound_after Env.sample is).videoHandle found) (by decide +kernel)
    (by decide +kernel) (by simp [Input.candidate?])
  exact absurd sent (by decide +kernel)

end WebrtcDemo
