import WebrtcDemo.Lib.Relay
import WebrtcDemo.Run.Descriptions
import WebrtcDemo.Run.Signals

/-!
# What the streams signal and what leaves

A slot writes a signal into the entries of the tables and passes it on to the peers with its
handle, once for each entry and each peer. So the client relays the signals of a handle: what
leaves under the handle is what its streams signalled, in order, as long as each
signal finds one entry and one peer.
-/

namespace WebrtcDemo

open JanusVideoRoomManager (findPeer)

/-! ## Words -/

/-- What a signal tells, and a message. -/
inductive Word where
  | description (jsep : Jsep)
  | candidate (candidate : Candidate)
  deriving DecidableEq

/-- The word of a message with the handle id `H`. -/
def Request.word? (H : Int) : Request → Option Word
  | .message handle_id _ (some jsep) => if handle_id = H then some (.description jsep) else none
  | .trickle handle_id candidate => if handle_id = H then some (.candidate candidate) else none
  | _ => none

/-- What was told with the handle id `H`, in order. -/
def Client.told (s : Client) (H : Int) : List Word :=
  s.messages.filterMap fun sent => sent.2.request.word? H

namespace Signal

def id : Signal → Int
  | LocalSDP id _ _ | LocalIceCandidate id _ | IceGatheringComplete id => id

def word : Signal → Word
  | LocalSDP _ sdp type => .description { type, sdp }
  | LocalIceCandidate _ c => .candidate c.message
  | IceGatheringComplete _ => .candidate .completed

/-- The word of a signal for `H`, the `double` of its handle. -/
def word? (signal : Signal) (H : Int) : Option Word :=
  if castDouble signal.id = H then some signal.word else none

end Signal

/-! ## Copies -/

namespace Client

/-- How many tables have an entry for the handle. -/
def entries (s : Client) (id : Int) : Nat :=
  (if id ∈ s.conference.mRemoteStreamInfos_VideoAudio then 1 else 0) +
    if id ∈ s.conference.mRemoteStreamInfos_DataChannels then 1 else 0

/-- 1 if a peer of the list goes by the handle. -/
def reached (s : Client) (room : RoomKind) (id : Int) : Nat :=
  if (findPeer s (s.listed room) room.handle id).isSome then 1 else 0

/-- How often a signal is passed on. -/
def copies (s : Client) : Signal → Nat
  | .LocalSDP id _ _ => s.entries id * (s.reached .video id + s.reached .text id)
  | .LocalIceCandidate id _ | .IceGatheringComplete id => s.entries id * s.reached .video id

/-- Words were sent with the handle id `H`; the peers and the keys of the tables are as they were. -/
structure Passes (s s' : Client) (H : Int) (words : List Word) : Prop where
  janus : s'.janus = s.janus
  peers : s'.peers = s.peers
  video : ∀ k, k ∈ s'.conference.mRemoteStreamInfos_VideoAudio ↔
    k ∈ s.conference.mRemoteStreamInfos_VideoAudio
  data : ∀ k, k ∈ s'.conference.mRemoteStreamInfos_DataChannels ↔
    k ∈ s.conference.mRemoteStreamInfos_DataChannels
  told : s'.told H = s.told H ++ words

end Client

/-- A word for `id`, `n` times, as it is seen under `H`. -/
def Word.times (w : Word) (id H : Int) (n : Nat) : List Word :=
  if castDouble id = H then List.replicate n w else []

section
variable {env : Env} {i : Input} {s s' s'' : Client} {id H : Int} {w : Word} {m n : Nat}

theorem Word.times_add : w.times id H (m + n) = w.times id H m ++ w.times id H n := by
  unfold Word.times
  split_ifs
  · exact List.replicate_add ..
  · rfl

namespace Client.Passes

theorem refl (s : Client) : Client.Passes s s H [] :=
  ⟨rfl, rfl, fun _ => Iff.rfl, fun _ => Iff.rfl, (List.append_nil _).symm⟩

theorem trans {words words' : List Word} (first : Client.Passes s s' H words)
    (second : Client.Passes s' s'' H words') : Client.Passes s s'' H (words ++ words') where
  janus := second.janus.trans first.janus
  peers := second.peers.trans first.peers
  video k := (second.video k).trans (first.video k)
  data k := (second.data k).trans (first.data k)
  told := by
    rw [second.told, first.told, List.append_assoc]

/-- Nothing was told. -/
theorem none (passes : Client.Passes s s' H []) : Client.Passes s s' H (w.times id H 0) := by
  have nothing : w.times id H 0 = [] := by
    rw [Word.times, List.replicate_zero, ite_self]
  rwa [nothing]

theorem reached {words : List Word} (passes : Client.Passes s s' H words) (room : RoomKind)
    (id : Int) : s'.reached room id = s.reached room id := by
  have listed : s'.listed room = s.listed room := by
    cases room <;> simp [Client.listed, passes.janus]
  rw [Client.reached, Client.reached, findPeer_congr listed passes.peers]

/-! ## The two lookups of a word -/

theorem speak {sender : Option Ptr} {session : Option Int} {request : Request}
    (word : request.word? H = if castDouble id = H then some w else Option.none) :
    Client.Passes s (s.speak env sender session request) H (w.times id H 1) := by
  refine ⟨rfl, rfl, fun _ => Iff.rfl, fun _ => Iff.rfl, ?_⟩
  rw [Client.told, Client.speak_messages, List.filterMap_append, Word.times]
  congr 1
  simp only [List.filterMap_cons, word, List.filterMap_nil]
  split_ifs <;> rfl

/-- A word goes to the peer of the list with the handle, if there is one. -/
theorem sendTo {room : RoomKind} {send : Client → Ptr → Client}
    (sends : ∀ p x, s.peers p = some x → room.handle x = id → ∃ session request,
      request.word? H = (if castDouble id = H then some w else Option.none) ∧
        send s p = s.speak env (some p) session request) :
    Client.Passes s (s.sendTo room id send) H (w.times id H (s.reached room id)) := by
  rw [Client.sendTo, Client.reached]
  split
  · next p found =>
    obtain ⟨-, x, alive, handle⟩ := findPeer_some found
    obtain ⟨session, request, word, sent⟩ := sends p x alive handle
    rw [found, sent, Option.isSome_some, if_pos rfl]
    exact speak word
  · next missing =>
    rw [missing, if_neg (by simp)]
    exact (refl s).none

theorem SendSDP (sdp type : String) :
    Client.Passes s (JanusVideoRoomManager.SendSDP env s id sdp type) H
      ((Word.description { type, sdp }).times id H (s.reached .video id + s.reached .text id)) := by
  rw [SendSDP_eq, Word.times_add]
  have video : Client.Passes s (s.sendTo .video id (JanusPeerConnection.SendSDP env · · sdp type)) H
      ((Word.description { type, sdp }).times id H (s.reached .video id)) := by
    refine sendTo fun p x alive handle =>
      ⟨_, _, ?_, JanusPeerConnection.sendOnHandle_live env alive _ _ _⟩
    rw [← handle]
    rfl
  rw [← video.reached .text id]
  refine video.trans (sendTo fun p x alive handle =>
    ⟨_, _, ?_, JanusPeerConnection.sendOnHandle_live env alive _ _ _⟩)
  rw [← handle]
  rfl

theorem SendCandidate (c : iceCandidate) :
    Client.Passes s (JanusVideoRoomManager.SendCandidate env s id c) H
      ((Word.candidate c.message).times id H (s.reached .video id)) := by
  rw [SendCandidate_eq]
  refine sendTo fun p x alive handle => ⟨_, _, ?_, SendCandidate_message env alive c⟩
  rw [← handle]
  rfl

/-! ## The two tables -/

/-- An entry is written, and then the word is sent. -/
theorem stored {t : Client} {words : List Word} (stored : Trickled s t H [])
    (passes : Client.Passes t s' H words) (told : t.messages = s.messages) :
    Client.Passes s s' H words where
  janus := passes.janus.trans stored.janus
  peers := passes.peers.trans stored.peers
  video k := (passes.video k).trans (stored.video k)
  data k := (passes.data k).trans (stored.data k)
  told := by
    rw [passes.told, Client.told, Client.told, told]

/-- Only an entry of a table passes a word on. -/
theorem entry {table : StreamTable}
    (known : ∀ info, table.lookup id = some info → Client.Passes s s' H (w.times id H n))
    (unknown : table.lookup id = Option.none → s' = s) :
    Client.Passes s s' H (w.times id H ((if id ∈ table then 1 else 0) * n)) := by
  rcases found : table.lookup id with _ | info
  · have absent : id ∉ table := AList.lookup_eq_none.1 found
    rw [unknown found, if_neg absent, Nat.zero_mul]
    exact (refl s).none
  · have member : id ∈ table := AList.lookup_isSome.1 (by simp [found])
    rw [if_pos member, Nat.one_mul]
    exact known info found

/-- Both tables are looked up, and each passes the word on as often. -/
theorem both
    (video : Client.Passes s s' H
      (w.times id H ((if id ∈ s.conference.mRemoteStreamInfos_VideoAudio then 1 else 0) * n)))
    (data : Client.Passes s' s'' H
      (w.times id H ((if id ∈ s'.conference.mRemoteStreamInfos_DataChannels then 1 else 0) * n))) :
    Client.Passes s s'' H (w.times id H (s.entries id * n)) := by
  rw [Client.entries, Nat.add_mul, Word.times_add]
  simp only [video.data] at data
  exact video.trans data

theorem onLocalSDP (sound : Sound s) (sdp type : String) :
    Client.Passes s (ConferenceManager.onLocalSDP env s id sdp type) H
      ((Word.description { type, sdp }).times id H
        (s.entries id * (s.reached .video id + s.reached .text id))) := by
  rw [ConferenceManager.onLocalSDP_eq]
  have video : Client.Passes s (ConferenceManager.localVideo env s id sdp type) H
      ((Word.description { type, sdp }).times id H
        ((if id ∈ s.conference.mRemoteStreamInfos_VideoAudio then 1 else 0) *
          (s.reached .video id + s.reached .text id))) := by
    refine entry (fun info found => ?_) fun missing => by
      rw [ConferenceManager.localVideo, missing]
    rw [sound.localVideo found]
    exact stored (.storeVideo _ found) (SendSDP sdp type) rfl
  refine both video ?_
  rw [← video.reached .video id, ← video.reached .text id]
  refine entry (fun info found => ?_) fun missing => by
    rw [ConferenceManager.localData, missing]
  rw [(sound.after_localVideo id sdp type).localData found]
  exact stored (.storeData _ found) (SendSDP sdp type) rfl

theorem onLocalIceCandidate (sound : Sound s) (c : iceCandidate) :
    Client.Passes s (ConferenceManager.onLocalIceCandidate env s id c) H
      ((Word.candidate c.message).times id H (s.entries id * s.reached .video id)) := by
  rw [ConferenceManager.onLocalIceCandidate_eq]
  have video : Client.Passes s (ConferenceManager.candidateVideo env s id c) H
      ((Word.candidate c.message).times id H
        ((if id ∈ s.conference.mRemoteStreamInfos_VideoAudio then 1 else 0) *
          s.reached .video id)) := by
    refine entry (fun info found => ?_) fun missing => by
      rw [ConferenceManager.candidateVideo, missing]
    rw [sound.candidateVideo found]
    exact stored (.storeVideo _ found) (SendCandidate c) rfl
  refine both video ?_
  rw [← video.reached .video id]
  refine entry (fun info found => ?_) fun missing => by
    rw [ConferenceManager.candidateData, missing]
  rw [(sound.after_candidateVideo id c).candidateData found]
  exact stored (.storeData _ found) (SendCandidate c) rfl

end Client.Passes

/-! ## One step -/

/-- **A slot passes its signal on** so many times. -/
theorem slot_told (sound : Sound s) (signal : Signal) :
    (step env s signal.slot).told H =
      s.told H ++ (signal.word? H).toList.flatMap (List.replicate (s.copies signal)) := by
  have passed (w : Word) (id : Int) (n : Nat) : w.times id H n =
      (if castDouble id = H then some w else none).toList.flatMap (List.replicate n) := by
    rw [Word.times]
    split_ifs <;> simp
  cases signal with
  | LocalSDP id sdp type =>
    exact (Client.Passes.onLocalSDP sound sdp type).told.trans (congrArg _ (passed _ _ _))
  | LocalIceCandidate id c =>
    exact (Client.Passes.onLocalIceCandidate sound c).told.trans (congrArg _ (passed _ _ _))
  | IceGatheringComplete id =>
    exact (Client.Passes.onLocalIceCandidate sound _).told.trans (congrArg _ (passed _ _ _))

/-- What is no slot tells nothing. -/
theorem other_told (sound : Sound s) (other : i.isSlot = false) : (step env s i).told H = s.told H := by
  obtain ⟨sent, messages, due⟩ := step_tells env sound i
  have nothing : sent.filterMap (fun entry => entry.2.request.word? H) = [] := by
    refine List.filterMap_eq_nil_iff.2 fun entry member => ?_
    have due := due entry member
    generalize entry.2.request = request at due
    unfold Request.Due at due
    split at due
    · obtain ⟨id, rfl, -⟩ := due
      cases other
    · obtain ⟨id, c, reports, -⟩ := due
      have slot : i.isSlot = true := by
        cases i <;> first | rfl | cases reports
      simp [slot] at other
    · unfold Request.word?
      split <;> simp_all
  rw [Client.told, messages, List.filterMap_append, nothing, List.append_nil]
  rfl

end

/-! ## The client and its streams -/

namespace Conference

/-- The signal that the client takes. -/
def takes (c : Conference) : ConferenceInput → Option Signal
  | .delivered => c.signals.take.map Prod.fst
  | _ => none

section
variable {env : Env} {parse : CreateSessionDescription} {c : Conference} {e : ConferenceInput}

/-- A signal is taken, and its slot runs. -/
theorem step_takes {signal : Signal} (took : c.takes e = some signal) :
    (c.step env parse e).client = WebrtcDemo.step env c.client signal.slot ∧
      (c.step env parse e).signals.received = c.signals.received ++ [signal] := by
  cases e with
  | delivered =>
    obtain ⟨⟨_, signals⟩, next, rfl⟩ := Option.map_eq_some_iff.1 took
    rw [step, next]
    exact ⟨rfl, (Mailbox.take_eq_some next).2⟩
  | _ => cases took

variable (env parse) in
/-- No signal is taken: nothing happens to the client, or something that is no slot. -/
theorem step_keeps (took : c.takes e = none) :
    ((c.step env parse e).client = c.client ∨ ∃ i, i.isSlot = false ∧
      (c.step env parse e).client = WebrtcDemo.step env c.client i) ∧
      (c.step env parse e).signals.received = c.signals.received := by
  cases e with
  | happened i other factory =>
    exact ⟨Or.inr ⟨i, other, happened_client i⟩, by rw [step, happened_signals]⟩
  | delivered =>
    rw [step, Option.map_eq_none_iff.1 took]
    exact ⟨Or.inl rfl, rfl⟩
  | OnSuccess k p desc => exact (OnSuccess_apart k p desc).imp_left Or.inl
  | OnFailure k p => exact ⟨Or.inl rfl, rfl⟩
  | OnIceCandidate k p candidate => exact (report_apart k p _).imp_left Or.inl
  | OnIceGatheringComplete k p => exact (report_apart k p _).imp_left Or.inl

theorem step_sound (sound : Sound c.client) : Sound (c.step env parse e).client := by
  cases took : c.takes e with
  | some signal =>
    rw [(step_takes took).1]
    exact sound.step env _
  | none =>
    obtain ⟨same | ⟨i, -, happened⟩, -⟩ := step_keeps env parse took
    · rwa [same]
    · rw [happened]
      exact sound.step env i

end

/-- **The client relays** the signals of a handle. -/
theorem relays (env : Env) (parse : CreateSessionDescription) (H : Int) :
    Machine.Relays (Conference.step env parse) (fun c => Sound c.client)
      (fun c => c.signals.received.filterMap (·.word? H)) (fun c => c.client.told H)
      (fun c e => (c.takes e).bind (·.word? H)) fun c e => (c.takes e).elim 0 c.client.copies where
  taking c e _ := by
    cases took : c.takes e with
    | some signal =>
      rw [(step_takes took).2, List.filterMap_append]
      cases word : signal.word? H <;> simp [word]
    | none =>
      rw [(step_keeps env parse took).2]
      simp
  sending c e sound := by
    cases took : c.takes e with
    | some signal =>
      rw [(step_takes took).1]
      exact slot_told sound signal
    | none =>
      obtain ⟨same | ⟨i, other, happened⟩, -⟩ := step_keeps env parse took
      · rw [same]
        simp
      · rw [happened, other_told sound other]
        simp

end Conference

/-- **What leaves under a handle is what was signalled.** In every state of a run the
descriptions and candidates sent with a handle id are those of the signals taken so far,
one for one in order, if and only if each of these found one entry and one peer. -/
theorem passed_on_iff (env : Env) (parse : Conference.CreateSessionDescription)
    (es : List ConferenceInput) (H : Int) :
    Machine.Throughout (Conference.step env parse)
        (fun c => c.client.told H = c.signals.received.filterMap (·.word? H))
        (Conference.initial env) es ↔
      Machine.Along (Conference.step env parse)
        (fun c e => ∀ signal ∈ c.takes e, castDouble signal.id = H → c.client.copies signal = 1)
        (Conference.initial env) es := by
  have once : (fun (c : Conference) (e : ConferenceInput) =>
      ((c.takes e).bind (·.word? H)).isSome → (c.takes e).elim 0 c.client.copies = 1) =
      fun c e => ∀ signal ∈ c.takes e, castDouble signal.id = H → c.client.copies signal = 1 := by
    funext c e
    cases c.takes e with
    | none => simp
    | some signal => simp [Signal.word?]
  rw [← once]
  exact (Conference.relays env parse H).throughout_iff (fun _ _ => Conference.step_sound)
    (sound_after env []) rfl es

end WebrtcDemo
