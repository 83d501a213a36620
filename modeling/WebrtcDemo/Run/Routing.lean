import WebrtcDemo.Run.Messages
import WebrtcDemo.Run.Server

/-!
# Where descriptions and candidates go

`SendSDP` looks the stream id up among the video peers and then among the text
peers; `SendCandidate` looks among the video peers only. So the two agree on an id
unless it is the handle of a text peer and of no video peer.
-/

namespace WebrtcDemo

open JanusVideoRoomManager (findPeer)

/-- `h` is the handle of a listed peer. -/
def Client.Routes (s : Client) (room : RoomKind) (h : Int) : Prop :=
  ∃ p ∈ s.listed room, ∃ x, s.peers p = some x ∧ room.handle x = h

/-- The messages sent between two states. -/
def sentSince (s s' : Client) : List (Option Ptr × Message) := s'.messages.drop s.messages.length

/-- Every candidate for `h` goes out as one trickle message on the handle that a
description for `h` goes out on. -/
def RoutesAlike (env : Env) (s : Client) (h : Int) : Prop :=
  ∀ sdp type c,
    (∃ sent ∈ sentSince s (JanusVideoRoomManager.SendSDP env s h sdp type),
      sent.2.handle_id? = some (castDouble h)) →
    ∃ sender m candidate, sentSince s (JanusVideoRoomManager.SendCandidate env s h c) = [(sender, m)] ∧
      m.request = .trickle (castDouble h) candidate

section
variable {env : Env} {s s' : Client} {room : RoomKind} {h : Int}

theorem sentSince_append {sent : List (Option Ptr × Message)}
    (messages : s'.messages = s.messages ++ sent) : sentSince s s' = sent := by
  rw [sentSince, messages, List.drop_left]

/-- A lookup fails where no listed peer has the handle. -/
theorem findPeer_none_iff :
    findPeer s (s.listed room) room.handle h = none ↔ ¬ s.Routes room h := by
  rw [findPeer, List.find?_eq_none, Client.Routes]
  constructor
  · rintro missing ⟨p, listed, x, alive, holds⟩
    exact missing p listed (by simp [alive, holds])
  · intro nobody p listed found
    obtain ⟨x, alive, holds⟩ := (Option.any_eq_true _ _).1 found
    exact nobody ⟨p, listed, x, alive, by simpa using holds⟩

/-- The lookup of a handle. -/
theorem findPeer_cases (s : Client) (room : RoomKind) (h : Int) :
    (findPeer s (s.listed room) room.handle h = none ∧ ¬ s.Routes room h) ∨
      ∃ p x, findPeer s (s.listed room) room.handle h = some p ∧ s.peers p = some x ∧
        room.handle x = h ∧ s.Routes room h := by
  rcases found : findPeer s (s.listed room) room.handle h with _ | p
  · exact Or.inl ⟨rfl, findPeer_none_iff.1 found⟩
  · obtain ⟨listed, x, alive, holds⟩ := findPeer_some found
    exact Or.inr ⟨p, x, rfl, alive, holds, p, listed, x, alive, holds⟩

/-- A candidate is sent if a video peer has the handle. -/
theorem SendCandidate_sent (env : Env) (s : Client) (h : Int) (c : iceCandidate) :
    (s.Routes .video h ∧ ∃ sender m candidate,
      sentSince s (JanusVideoRoomManager.SendCandidate env s h c) = [(sender, m)] ∧
        m.request = .trickle (castDouble h) candidate) ∨
      ¬ s.Routes .video h ∧ sentSince s (JanusVideoRoomManager.SendCandidate env s h c) = [] := by
  have lookup : findPeer s s.janus.mVideoRoomPeerList (·.mVideoRoomHandleID) h =
      findPeer s (s.listed .video) RoomKind.video.handle h := rfl
  rw [JanusVideoRoomManager.SendCandidate, lookup]
  rcases findPeer_cases s .video h with ⟨missing, nobody⟩ | ⟨p, x, found, alive, holds, routes⟩
  · rw [missing]
    exact Or.inr ⟨nobody, sentSince_append (List.append_nil _).symm⟩
  · obtain ⟨candidate, sent⟩ := JanusPeerConnection.SendCandidate_live env alive c
    obtain rfl : x.mVideoRoomHandleID = h := holds
    rw [found]
    dsimp only
    rw [sent]
    exact Or.inl ⟨routes, _, _, candidate, sentSince_append Client.speak_messages, rfl⟩

/-- A lookup sends `sent`, and only where it finds a peer. -/
structure Sends (s : Client) (room : RoomKind) (h : Int) (s' : Client)
    (sent : List (Option Ptr × Message)) : Prop where
  messages : s'.messages = s.messages ++ sent
  same : ∀ room, s'.Routes room h ↔ s.Routes room h
  routed : s.Routes room h → ∃ m ∈ sent, m.2.handle_id? = some (castDouble h)
  lost : ¬ s.Routes room h → sent = []

variable (env) in
theorem Client.sendTo_sends (s : Client) (room : RoomKind) (h : Int) (send : Client → Ptr → Client)
    (sends : ∀ p x, s.peers p = some x → ∃ body jsep, send s p =
      s.speak env (some p) (some (castDouble x.mSessionID))
        (.message (castDouble (room.handle x)) body jsep)) :
    ∃ sent, Sends s room h (s.sendTo room h send) sent := by
  rw [Client.sendTo]
  rcases findPeer_cases s room h with ⟨missing, nobody⟩ | ⟨p, x, found, alive, holds, routes⟩
  · rw [missing]
    exact ⟨[], by simp, fun _ => Iff.rfl, fun routes => absurd routes nobody, fun _ => rfl⟩
  · obtain ⟨body, jsep, sent⟩ := sends p x alive
    rw [found]
    dsimp only
    rw [sent]
    refine ⟨_, Client.speak_messages, by simp [Client.Routes], fun _ =>
      ⟨_, List.mem_singleton_self _, ?_⟩, fun nobody => absurd routes nobody⟩
    rw [← holds]
    rfl

/-- A description is sent if a video peer or a text peer has the handle. -/
theorem SendSDP_sent_iff (env : Env) (s : Client) (h : Int) (sdp type : String) :
    (∃ sent ∈ sentSince s (JanusVideoRoomManager.SendSDP env s h sdp type),
      sent.2.handle_id? = some (castDouble h)) ↔ s.Routes .video h ∨ s.Routes .text h := by
  rw [SendSDP_eq]
  obtain ⟨video, first⟩ := s.sendTo_sends env .video h
    (JanusPeerConnection.SendSDP env · · sdp type) fun p x alive =>
      ⟨_, _, JanusPeerConnection.sendOnHandle_live env alive _ _ _⟩
  generalize s.sendTo .video h _ = t at first
  obtain ⟨text, second⟩ := t.sendTo_sends env .text h
    (JanusPeerConnection.SendSDPText env · · sdp type) fun p x alive =>
      ⟨_, _, JanusPeerConnection.sendOnHandle_live env alive _ _ _⟩
  have messages : sentSince s (t.sendTo .text h (JanusPeerConnection.SendSDPText env · · sdp type)) =
      video ++ text :=
    sentSince_append (by rw [second.messages, first.messages, List.append_assoc])
  rw [messages]
  constructor
  · rintro ⟨m, member, -⟩
    by_contra nobody
    rw [not_or] at nobody
    have silent : video = [] ∧ text = [] :=
      ⟨first.lost nobody.1, second.lost fun routes => nobody.2 ((first.same .text).1 routes)⟩
    simp [silent] at member
  · rintro (routes | routes)
    · obtain ⟨m, member, handle⟩ := first.routed routes
      exact ⟨m, List.mem_append_left _ member, handle⟩
    · obtain ⟨m, member, handle⟩ := second.routed ((first.same .text).2 routes)
      exact ⟨m, List.mem_append_right _ member, handle⟩

end

/-- **Descriptions and candidates go the same way** if and only if the id is the handle
of a video peer, or not the handle of a text peer. -/
theorem routedAlike_iff (env : Env) (s : Client) (h : Int) :
    RoutesAlike env s h ↔ s.Routes .video h ∨ ¬ s.Routes .text h := by
  constructor
  · intro alike
    by_contra other
    rw [not_or, not_not] at other
    have sent := (SendSDP_sent_iff env s h "" "").2 (Or.inr other.2)
    obtain ⟨sender, m, candidate, one, -⟩ := alike "" "" ⟨"", 0, ""⟩ sent
    rcases SendCandidate_sent env s h ⟨"", 0, ""⟩ with ⟨routes, -⟩ | ⟨-, none⟩
    · exact other.1 routes
    · rw [none] at one
      exact absurd one (by simp)
  · intro routes sdp type c sent
    have video : s.Routes .video h := by
      rcases routes with video | noText
      · exact video
      · exact ((SendSDP_sent_iff env s h sdp type).1 sent).resolve_right noText
    rcases SendCandidate_sent env s h c with ⟨-, one⟩ | ⟨nobody, -⟩
    · exact one
    · exact absurd video nobody

/-- The description of a text peer goes out, its candidates do not. -/
theorem text_candidate_unsent : ¬ ∀ (env : Env) (is : List Input) (h : Int),
    RoutesAlike env (after env is) h := by
  intro always
  let is := [.joinDataChannelRoom 1234 "cc", Server.success (Env.sample.random 0) 7]
  have routes : (after Env.sample is).Routes .text 7 :=
    ⟨0, by decide +kernel, _, rfl, by decide +kernel⟩
  have unsent : sentSince (after Env.sample is)
      (JanusVideoRoomManager.SendCandidate Env.sample (after Env.sample is) 7 ⟨"0", 0, "c"⟩) = [] := by
    decide +kernel
  obtain ⟨sender, m, candidate, one, -⟩ := always Env.sample is 7 "v=0" "answer" ⟨"0", 0, "c"⟩
    ((SendSDP_sent_iff _ _ _ _ _).2 (Or.inr routes))
  rw [unsent] at one
  exact absurd one (by simp)

end WebrtcDemo
