import WebrtcDemo.Run.Lifetime
import WebrtcDemo.Run.Server

/-!
# Who is shown in which window

The windows are slots (`Slots`), 0 stands for nobody, and the occupants are keys of the
video table. The table of windows keeps to that whatever is asked of the conference
manager, in any order. That a stream and the table agree on the window it was given is
another matter: the table is made anew by `SetVideoWindows`, and a stream that goes by
the handle 0 is in a window that looks free.
-/

namespace WebrtcDemo

open ConferenceManager (newInfo occupyWindow freeWindow)

/-! ## Runs of the conference manager -/

namespace ConferenceManager

/-- What is asked of the conference manager that concerns the windows. Only a description
asks for a stream to be shown. -/
inductive Operation where
  | SetVideoWindows (remote : List WindowId)
  | onRetmoeSDP (id : Int) (type sdp : String) (isTextRoom : Bool)
  | ConnectToPeer_VideoAudio (peerId : Int) (isConnect isLocal : Bool)
  | onRemoteStreamRemove (streamId : Int)
  | LeaveVideoRoom

def operate (s : Client) : Operation → Client
  | .SetVideoWindows remote => SetVideoWindows s remote
  | .onRetmoeSDP id type sdp isTextRoom => onRetmoeSDP s id type sdp isTextRoom
  | .ConnectToPeer_VideoAudio peerId isConnect isLocal =>
    ConnectToPeer_VideoAudio s peerId false isConnect isLocal
  | .onRemoteStreamRemove streamId => onRemoteStreamRemove s streamId
  | .LeaveVideoRoom => LeaveVideoRoom s

def Operation.windows? : Operation → Option (List WindowId)
  | .SetVideoWindows remote => some remote
  | _ => none

/-- The windows of the last `SetVideoWindows`, none before the first. -/
def lastWindows (ops : List Operation) : List WindowId :=
  (ops.filterMap Operation.windows?).getLast?.getD []

end ConferenceManager

/-! ## What concerns data channels only -/

/-- The video streams, their table and the windows are what they were. -/
structure SameVideo (s s' : Client) : Prop where
  table : s'.conference.mRemoteStreamInfos_VideoAudio = s.conference.mRemoteStreamInfos_VideoAudio
  winds : s'.conference.mRemoteWinds = s.conference.mRemoteWinds
  heap : s'.videoHeap = s.videoHeap

section
variable {s s' s'' : Client}

theorem SameVideo.refl (s : Client) : SameVideo s s := ⟨rfl, rfl, rfl⟩

theorem SameVideo.trans (first : SameVideo s s') (second : SameVideo s' s'') : SameVideo s s'' :=
  ⟨second.table.trans first.table, second.winds.trans first.winds, second.heap.trans first.heap⟩

theorem releaseData_sameVideo (s : Client) (p : Ptr) : SameVideo s (s.releaseData p) := by
  unfold Client.releaseData
  split_ifs <;> exact ⟨rfl, rfl, rfl⟩

theorem addStreamInfo_DataChannels_sameVideo (s : Client) (p : Ptr) :
    SameVideo s (ConferenceManager.addStreamInfo_DataChannels s p) := by
  unfold ConferenceManager.addStreamInfo_DataChannels
  dsimp only
  split
  · exact ⟨(releaseData_sameVideo _ _).table, (releaseData_sameVideo _ _).winds,
      (releaseData_sameVideo _ _).heap⟩
  · exact ⟨rfl, rfl, rfl⟩

theorem ConnectToPeer_DataChannels_sameVideo (s : Client) (id : Int) :
    SameVideo s (ConferenceManager.ConnectToPeer_DataChannels s id) := by
  rw [ConnectToPeer_DataChannels_eq]
  refine .trans ?_ (addStreamInfo_DataChannels_sameVideo _ _)
  unfold Client.appointed Client.replacedLocal
  cases s.conference.LocalStream_DataChannels with
  | none => exact ⟨rfl, rfl, rfl⟩
  | some q =>
    have released := releaseData_sameVideo (s.newLocal id) q
    exact ⟨released.table, released.winds, released.heap⟩

/-- A description for a text room. -/
theorem onRetmoeSDP_text_sameVideo (s : Client) (id : Int) (type sdp : String) :
    SameVideo s (ConferenceManager.onRetmoeSDP s id type sdp true) := by
  have told : ∀ t, SameVideo t (ConferenceManager.tellData t id type sdp) := by
    intro t
    unfold ConferenceManager.tellData
    split
    · exact ⟨rfl, rfl, rfl⟩
    · exact .refl t
  rw [ConferenceManager.onRetmoeSDP_text]
  refine .trans ?_ (told _)
  split_ifs
  · exact ConnectToPeer_DataChannels_sameVideo s id
  · exact .refl s

theorem tellVideo_sameVideo (s : Client) (id : Int) (type sdp : String) :
    SameVideo s (ConferenceManager.tellVideo s id type sdp) := by
  unfold ConferenceManager.tellVideo
  split <;> exact ⟨rfl, rfl, rfl⟩

/-- A description for a video room is told to a stream, a new one if there was none. -/
theorem onRetmoeSDP_video_cases (s : Client) (id : Int) (type sdp : String) :
    ∃ t, SameVideo t (ConferenceManager.onRetmoeSDP s id type sdp false) ∧
      (t = s ∧ id ∈ s.conference.mRemoteStreamInfos_VideoAudio ∨
        Connected s t id true false ∧ id ∉ s.conference.mRemoteStreamInfos_VideoAudio) := by
  rw [ConferenceManager.onRetmoeSDP_video]
  refine ⟨_, tellVideo_sameVideo _ id type sdp, ?_⟩
  by_cases missing : (s.conference.mRemoteStreamInfos_VideoAudio.lookup id).isNone
  · rw [if_pos missing]
    exact Or.inr ⟨ConnectToPeer_VideoAudio_connected s id true false false,
      AList.lookup_eq_none.1 (Option.isNone_iff_eq_none.1 missing)⟩
  · rw [if_neg missing]
    refine Or.inl ⟨rfl, AList.lookup_isSome.1 (Option.isSome_iff_ne_none.2 ?_)⟩
    simpa using missing

end

/-! ## Occupants are keys -/

/-- No one has two windows, and whoever has one is in the video table. -/
structure Occupied (s : Client) : Prop where
  once : (Slots.occupants 0 s.conference.mRemoteWinds).Nodup
  keys : ∀ h ∈ Slots.occupants 0 s.conference.mRemoteWinds,
    h ∈ s.conference.mRemoteStreamInfos_VideoAudio

/-- The handles of the windows, in order. -/
def Client.windows (s : Client) : List WindowId := s.conference.mRemoteWinds.map Prod.fst

section
variable {s s' : Client} {id : Int} {show_ isLocal : Bool}

theorem Occupied.grow (occupied : Occupied s)
    (winds : s'.conference.mRemoteWinds = s.conference.mRemoteWinds)
    (table : ∀ h ∈ s.conference.mRemoteStreamInfos_VideoAudio,
      h ∈ s'.conference.mRemoteStreamInfos_VideoAudio) : Occupied s' where
  once := winds ▸ occupied.once
  keys h member := table h (occupied.keys h (winds ▸ member))

theorem Occupied.same (occupied : Occupied s) (same : SameVideo s s') : Occupied s' :=
  occupied.grow same.winds fun _ member => same.table ▸ member

/-- Windows that are all free. -/
theorem Occupied.vacated (remote : List WindowId)
    (winds : s.conference.mRemoteWinds = Slots.fresh 0 remote) : Occupied s where
  once := by
    rw [winds, Slots.occupants_fresh]
    exact List.nodup_nil
  keys := by
    rw [winds, Slots.occupants_fresh]
    simp

/-- A stream that is to be shown is a new one. -/
theorem Occupied.connect (occupied : Occupied s) (connected : Connected s s' id show_ isLocal)
    (new : show_ → id ∉ s.conference.mRemoteStreamInfos_VideoAudio) : Occupied s' := by
  have table : ∀ h, h ∈ s'.conference.mRemoteStreamInfos_VideoAudio ↔
      h = id ∨ h ∈ s.conference.mRemoteStreamInfos_VideoAudio := by
    intro h
    rw [connected.conference]
    exact AList.mem_insert _
  have entered : ∀ h ∈ s.conference.mRemoteStreamInfos_VideoAudio,
      h ∈ s'.conference.mRemoteStreamInfos_VideoAudio := fun h member => (table h).2 (Or.inr member)
  cases shown : show_ with
  | false => exact occupied.grow (by simp [connected.conference, shown]) entered
  | true =>
    have winds : s'.conference.mRemoteWinds = (Slots.occupy 0 id s.conference.mRemoteWinds).1 := by
      rw [connected.conference, shown, ← occupyWindow_eq]
      rfl
    by_cases nobody : id = 0
    · subst nobody
      exact occupied.grow (winds.trans (Slots.occupy_vacant _)) entered
    · rcases given : (Slots.occupy 0 id s.conference.mRemoteWinds).2 with _ | w
      · exact occupied.grow (winds.trans (Slots.occupy_full given)) entered
      · have joined := Slots.occupants_occupy nobody given
        rw [← winds] at joined
        have outside : id ∉ Slots.occupants 0 s.conference.mRemoteWinds :=
          fun member => new shown (occupied.keys id member)
        constructor
        · exact joined.nodup_iff.2 (List.nodup_cons.2 ⟨outside, occupied.once⟩)
        · intro h member
          apply (table h).2
          rcases List.mem_cons.1 (joined.mem_iff.1 member) with same | before
          · exact Or.inl same
          · exact Or.inr (occupied.keys h before)

theorem Occupied.remove (occupied : Occupied s) (id : Int) :
    Occupied (ConferenceManager.onRemoteStreamRemove s id) := by
  have conference := onRemoteStreamRemove_conference s id
  have left : Slots.occupants 0 (ConferenceManager.onRemoteStreamRemove s id).conference.mRemoteWinds =
      (Slots.occupants 0 s.conference.mRemoteWinds).erase id := by
    rw [conference, freeWindow_eq, Slots.occupants_free]
  constructor
  · rw [left]
    exact occupied.once.erase id
  · intro h member
    rw [left] at member
    have other : h ≠ id := by
      rintro rfl
      exact occupied.once.not_mem_erase member
    rw [conference]
    exact AList.mem_erase.2 ⟨other, occupied.keys h (List.mem_of_mem_erase member)⟩

theorem Occupied.describe (occupied : Occupied s) (id : Int) (type sdp : String)
    (isTextRoom : Bool) : Occupied (ConferenceManager.onRetmoeSDP s id type sdp isTextRoom) := by
  cases isTextRoom with
  | true => exact occupied.same (onRetmoeSDP_text_sameVideo s id type sdp)
  | false =>
    obtain ⟨t, told, ⟨rfl, -⟩ | ⟨connected, new⟩⟩ := onRetmoeSDP_video_cases s id type sdp
    · exact occupied.same told
    · exact (occupied.connect connected fun _ => new).same told

/-! ### Every operation keeps them so -/

theorem Occupied.operate (occupied : Occupied s) (op : ConferenceManager.Operation) :
    Occupied (ConferenceManager.operate s op) := by
  cases op with
  | SetVideoWindows remote => exact .vacated remote rfl
  | onRetmoeSDP id type sdp isTextRoom => exact occupied.describe id type sdp isTextRoom
  | ConnectToPeer_VideoAudio id isConnect isLocal =>
    exact occupied.connect (ConnectToPeer_VideoAudio_connected s id false isConnect isLocal) (by simp)
  | onRemoteStreamRemove id => exact occupied.remove id
  | LeaveVideoRoom =>
    refine .vacated s.windows ?_
    rw [ConferenceManager.operate, LeaveVideoRoom_conference]
    simp [Slots.fresh, Client.windows]

theorem SameVideo.windows (same : SameVideo s s') : s'.windows = s.windows := by
  unfold Client.windows
  rw [same.winds]

theorem Connected.windows (connected : Connected s s' id show_ isLocal) : s'.windows = s.windows := by
  unfold Client.windows
  rw [connected.conference]
  cases show_ with
  | false => rfl
  | true =>
    rw [if_pos rfl, occupyWindow_eq]
    exact Slots.occupy_slots id _

theorem onRemoteStreamRemove_windows (s : Client) (id : Int) :
    (ConferenceManager.onRemoteStreamRemove s id).windows = s.windows := by
  unfold Client.windows
  rw [onRemoteStreamRemove_conference, freeWindow_eq]
  exact Slots.free_slots id _

theorem LeaveVideoRoom_windows (s : Client) :
    (ConferenceManager.LeaveVideoRoom s).windows = s.windows := by
  unfold Client.windows
  rw [LeaveVideoRoom_conference, List.map_map]
  rfl

theorem onRetmoeSDP_windows (s : Client) (id : Int) (type sdp : String) (isTextRoom : Bool) :
    (ConferenceManager.onRetmoeSDP s id type sdp isTextRoom).windows = s.windows := by
  cases isTextRoom with
  | true => exact (onRetmoeSDP_text_sameVideo s id type sdp).windows
  | false =>
    obtain ⟨t, told, ⟨rfl, -⟩ | ⟨connected, -⟩⟩ := onRetmoeSDP_video_cases s id type sdp
    · exact told.windows
    · exact told.windows.trans connected.windows

/-- The windows change with `SetVideoWindows` only. -/
theorem operate_windows (s : Client) (op : ConferenceManager.Operation) :
    (ConferenceManager.operate s op).windows = op.windows?.getD s.windows := by
  cases op with
  | SetVideoWindows remote =>
    show (ConferenceManager.SetVideoWindows s remote).conference.mRemoteWinds.map Prod.fst = remote
    exact Slots.fresh_slots remote
  | onRetmoeSDP id type sdp isTextRoom => exact onRetmoeSDP_windows s id type sdp isTextRoom
  | ConnectToPeer_VideoAudio id isConnect isLocal =>
    exact (ConnectToPeer_VideoAudio_connected s id false isConnect isLocal).windows
  | onRemoteStreamRemove id => exact onRemoteStreamRemove_windows s id
  | LeaveVideoRoom => exact LeaveVideoRoom_windows s

theorem run_windows (s : Client) (ops : List ConferenceManager.Operation) :
    (Machine.run ConferenceManager.operate s ops).windows =
      (ops.filterMap ConferenceManager.Operation.windows?).getLast?.getD s.windows := by
  induction ops generalizing s with
  | nil => rfl
  | cons op more ih =>
    rw [Machine.run_cons, ih, operate_windows]
    rcases set : op.windows? with _ | remote
    · simp [set]
    · rw [List.filterMap_cons_some set, List.getLast?_cons]
      rfl

end

/-- **Every occupant has one window and is in the video table**, and the windows are those
of the last `SetVideoWindows`, whatever the conference manager was asked. -/
theorem windows_occupied (env : Env) (ops : List ConferenceManager.Operation) :
    let s := Machine.run ConferenceManager.operate (Client.initial env) ops
    (∀ h ≠ 0, (s.conference.mRemoteWinds.countP fun wind => wind.2 = h) ≤ 1) ∧
      (∀ wind ∈ s.conference.mRemoteWinds, wind.2 ≠ 0 →
        wind.2 ∈ s.conference.mRemoteStreamInfos_VideoAudio) ∧
      s.conference.mRemoteWinds.map Prod.fst = ConferenceManager.lastWindows ops := by
  intro s
  have occupied : Occupied s :=
    Machine.run_keeps (fun _ op before _ => before.operate op) (.vacated [] rfl)
      (Machine.along_true ops)
  refine ⟨fun h somebody => ?_, fun wind member somebody => ?_, ?_⟩
  · have once := List.nodup_iff_count_le_one.1 occupied.once h
    rw [Slots.count_occupants somebody] at once
    exact once
  · exact occupied.keys _ (Slots.mem_occupants.2 ⟨somebody, wind.1, member⟩)
  · exact run_windows (Client.initial env) ops

/-! ## The windows of a whole client -/

section
variable {i : Input} {start s s' : Client}

theorem SameVideo.of_media (same : s'.media = s.media) : SameVideo s s' where
  table := congrArg (fun m : Media => m.conference.mRemoteStreamInfos_VideoAudio) same
  winds := congrArg (fun m : Media => m.conference.mRemoteWinds) same
  heap := congrArg Media.videoHeap same

theorem Staged.occupied (piece : Staged i start s s') (occupied : Occupied s) : Occupied s' := by
  cases piece with
  | apart same => exact occupied.same (.of_media same)
  | windows remote => exact occupied.operate (.SetVideoWindows remote)
  | described type => exact occupied.describe _ type _ _
  | joined => exact occupied.operate (.ConnectToPeer_VideoAudio _ true false)
  | removed _ _ id => exact occupied.remove id
  | left => exact occupied.operate .LeaveVideoRoom
  | room => exact occupied.same ⟨rfl, rfl, rfl⟩
  | storedVideo => exact occupied.grow rfl fun _ member => (AList.mem_insert _).2 (Or.inr member)
  | storedData => exact occupied.same ⟨rfl, rfl, rfl⟩
  | opened => exact occupied.same ⟨rfl, rfl, rfl⟩

/-- Occupants are keys in every reachable state of a client. -/
theorem occupied_after (env : Env) (is : List Input) : Occupied (after env is) :=
  Machine.run_keeps (fun s i occupied _ =>
    Machine.transitions_keep (fun _ _ piece before => piece.occupied before) (step_staged env s i)
      occupied) (.vacated [] rfl) (Machine.along_true is)

/-- The window a stream was given, if any. -/
def Client.windowOf (s : Client) (p : Ptr) : Option WindowId := (s.videoHeap p).bind (·.mWindowID)

/-- The streams of the table and the windows agree: no window was given to two streams,
and the one that was given a window is its occupant. -/
structure WindowsAgree (s : Client) : Prop where
  apart : ∀ {h h' info info' w},
    s.conference.mRemoteStreamInfos_VideoAudio.lookup h = some info →
    s.conference.mRemoteStreamInfos_VideoAudio.lookup h' = some info' →
    s.windowOf info.stream = some w → s.windowOf info'.stream = some w →
    info.stream = info'.stream
  recorded : ∀ {h info w}, s.conference.mRemoteStreamInfos_VideoAudio.lookup h = some info →
    s.windowOf info.stream = some w →
    (w, s.videoHandle info.stream) ∈ s.conference.mRemoteWinds

/-- The windows are set while no stream of the table has one, unless it goes by the handle
0 and its window is set again. -/
def SetsFree (s : Client) (i : Input) : Prop :=
  ∀ remote, i = .setVideoWindows remote → ∀ h info w,
    s.conference.mRemoteStreamInfos_VideoAudio.lookup h = some info →
    s.windowOf info.stream = some w → h = 0 ∧ w ∈ remote

/-- No description makes a stream while the window to be given is one that the stream with
the handle 0 has. -/
def ShowsFree (s : Client) (i : Input) : Prop :=
  ∀ object, i.Describes object false →
    senderOf object ∉ s.conference.mRemoteStreamInfos_VideoAudio →
    ∀ info w, s.conference.mRemoteStreamInfos_VideoAudio.lookup 0 = some info →
      s.windowOf info.stream = some w → Slots.firstFree 0 s.conference.mRemoteWinds ≠ some w

/-! ### What each piece does to the agreement -/

/-- Every stream with a window was there before, with that window, and is recorded still. -/
theorem WindowsAgree.keep (agree : WindowsAgree s) (sound : Sound s) (sound' : Sound s')
    (before : ∀ {h info w}, s'.conference.mRemoteStreamInfos_VideoAudio.lookup h = some info →
      s'.windowOf info.stream = some w →
      ∃ old, s.conference.mRemoteStreamInfos_VideoAudio.lookup h = some old ∧
        old.stream = info.stream ∧ s.windowOf old.stream = some w ∧
        ((w, h) ∈ s.conference.mRemoteWinds → (w, h) ∈ s'.conference.mRemoteWinds)) :
    WindowsAgree s' where
  apart := by
    intro h h' info info' w found found' given given'
    obtain ⟨old, there, stream, window, -⟩ := before found given
    obtain ⟨old', there', stream', window', -⟩ := before found' given'
    rw [← stream, ← stream']
    exact agree.apart there there' window window'
  recorded := by
    intro h info w found given
    obtain ⟨old, there, stream, window, stays⟩ := before found given
    have recorded := agree.recorded there window
    rw [sound.videoHandle there] at recorded
    rw [sound'.videoHandle found]
    exact stays recorded

theorem WindowsAgree.same (agree : WindowsAgree s) (sound : Sound s) (sound' : Sound s')
    (same : SameVideo s s') : WindowsAgree s' := by
  apply agree.keep sound sound'
  intro h info w found given
  rw [same.table] at found
  unfold Client.windowOf at given
  rw [same.heap] at given
  refine ⟨info, found, rfl, given, ?_⟩
  rw [same.winds]
  exact id

/-- A new stream that is given no window. -/
theorem WindowsAgree.unseen (agree : WindowsAgree s) (sound : Sound s) {id : Int}
    {show_ isLocal : Bool} (connected : Connected s s' id show_ isLocal)
    (none : s'.windowOf s.videoStreams = none)
    (winds : s'.conference.mRemoteWinds = s.conference.mRemoteWinds) : WindowsAgree s' := by
  apply agree.keep sound (sound.connect connected)
  intro h info w found given
  rw [connected.conference] at found
  dsimp only at found
  by_cases same : h = id
  · subst same
    obtain rfl : newInfo s.videoStreams = info := by simpa using found
    exact absurd (none.symm.trans given) (by simp)
  · rw [AList.lookup_insert_ne same] at found
    refine ⟨info, found, rfl, ?_, fun member => winds ▸ member⟩
    rw [← given]
    unfold Client.windowOf
    rw [connected.old info.stream (Nat.ne_of_lt (sound.video.older found))]
    exact fun info' found' => sound.video.stream_ne found found' same

/-- **A new stream that is given a window** agrees with the others if and only if none of
them is in it, and the only one that can be goes by the handle 0. -/
theorem WindowsAgree.shown_iff (agree : WindowsAgree s) (sound : Sound s)
    (different : s.windows.Nodup) {id : Int} {isLocal : Bool}
    (connected : Connected s s' id true isLocal)
    (new : id ∉ s.conference.mRemoteStreamInfos_VideoAudio) :
    WindowsAgree s' ↔ ∀ info w, s.conference.mRemoteStreamInfos_VideoAudio.lookup 0 = some info →
      s.windowOf info.stream = some w → Slots.firstFree 0 s.conference.mRemoteWinds ≠ some w := by
  have sound' := sound.connect connected
  have winds : s'.conference.mRemoteWinds = (Slots.occupy 0 id s.conference.mRemoteWinds).1 := by
    rw [connected.conference, ← occupyWindow_eq]
    rfl
  have window : s'.windowOf s.videoStreams = Slots.firstFree 0 s.conference.mRemoteWinds := by
    unfold Client.windowOf
    rw [connected.new, ← Slots.occupy_firstFree id, ← occupyWindow_eq]
    rfl
  have here : s'.conference.mRemoteStreamInfos_VideoAudio.lookup id = some (newInfo s.videoStreams) := by
    rw [connected.conference]
    exact AList.lookup_insert _
  have elsewhere : ∀ {h : Int}, h ≠ id → s'.conference.mRemoteStreamInfos_VideoAudio.lookup h =
      s.conference.mRemoteStreamInfos_VideoAudio.lookup h := by
    intro h other
    rw [connected.conference]
    exact AList.lookup_insert_ne other
  have stayed : ∀ {h : Int} {info}, h ≠ id →
      s.conference.mRemoteStreamInfos_VideoAudio.lookup h = some info →
      s'.windowOf info.stream = s.windowOf info.stream := by
    intro h info other found
    unfold Client.windowOf
    rw [connected.old info.stream (Nat.ne_of_lt (sound.video.older found))]
    exact fun info' found' => sound.video.stream_ne found found' other
  constructor
  · intro agree' info w found given free
    have other : (0 : Int) ≠ id := by
      rintro rfl
      exact new (AList.lookup_isSome.1 (by simp [found]))
    have same := agree'.apart here ((elsewhere other).trans found) (window.trans free)
      ((stayed other found).trans given)
    exact absurd same.symm (Nat.ne_of_lt (sound.video.older found))
  · intro nobody
    rcases free : Slots.firstFree 0 s.conference.mRemoteWinds with _ | w₀
    · refine agree.unseen sound connected (window.trans free) (winds.trans (Slots.occupy_full ?_))
      rw [Slots.occupy_firstFree, free]
    · have given : (Slots.occupy 0 id s.conference.mRemoteWinds).2 = some w₀ := by
        rw [Slots.occupy_firstFree, free]
      obtain ⟨vacant, taken⟩ := Slots.occupy_given given
      -- whoever was in a window before is not in the one given
      have outside : ∀ {h : Int} {info w}, h ≠ id →
          s.conference.mRemoteStreamInfos_VideoAudio.lookup h = some info →
          s.windowOf info.stream = some w → w ≠ w₀ := by
        rintro h info w other found seen rfl
        have recorded := agree.recorded found seen
        rw [sound.videoHandle found] at recorded
        obtain rfl : h = 0 := Slots.occupant_unique different recorded vacant
        exact nobody info w found seen free
      constructor
      · intro h h' info info' w found found' seen seen'
        by_cases one : h = id
        · subst one
          obtain rfl : newInfo s.videoStreams = info := Option.some.inj (here.symm.trans found)
          obtain rfl : w₀ = w := Option.some.inj ((window.trans free).symm.trans seen)
          by_cases two : h' = h
          · subst two
            exact congrArg RemoteStreamInfo.stream (Option.some.inj (found.symm.trans found'))
          · rw [elsewhere two] at found'
            rw [stayed two found'] at seen'
            exact absurd rfl (outside two found' seen')
        · rw [elsewhere one] at found
          rw [stayed one found] at seen
          by_cases two : h' = id
          · subst two
            obtain rfl : newInfo s.videoStreams = info' := Option.some.inj (here.symm.trans found')
            obtain rfl : w₀ = w := Option.some.inj ((window.trans free).symm.trans seen')
            exact absurd rfl (outside one found seen)
          · rw [elsewhere two] at found'
            rw [stayed two found'] at seen'
            exact agree.apart found found' seen seen'
      · intro h info w found seen
        rw [sound'.videoHandle found, winds]
        by_cases one : h = id
        · subst one
          obtain rfl : newInfo s.videoStreams = info := Option.some.inj (here.symm.trans found)
          obtain rfl : w₀ = w := Option.some.inj ((window.trans free).symm.trans seen)
          exact taken
        · rw [elsewhere one] at found
          rw [stayed one found] at seen
          have recorded := agree.recorded found seen
          rw [sound.videoHandle found] at recorded
          refine Slots.mem_occupy_of_ne recorded ?_
          rw [given]
          exact fun same => outside one found seen (Option.some.inj same).symm

theorem WindowsAgree.remove (agree : WindowsAgree s) (sound : Sound s) (id : Int) :
    WindowsAgree (ConferenceManager.onRemoteStreamRemove s id) := by
  apply agree.keep sound (onRemoteStreamRemove_sound sound id)
  intro h info w found given
  rw [onRemoteStreamRemove_conference] at found
  dsimp only at found
  have other : h ≠ id := by
    rintro rfl
    rw [AList.lookup_erase] at found
    simp at found
  rw [AList.lookup_erase_ne other] at found
  refine ⟨info, found, rfl, ?_, fun member => ?_⟩
  · rw [← given]
    unfold Client.windowOf
    rw [onRemoteStreamRemove_videoHeap]
    exact fun info' found' => sound.video.stream_ne found found' other
  · rw [onRemoteStreamRemove_conference, freeWindow_eq]
    exact Slots.mem_free_of_ne member other

/-- The windows set anew agree with the streams exactly if none has a window that is not
free after. -/
theorem WindowsAgree.set_iff (agree : WindowsAgree s) (sound : Sound s) (remote : List WindowId) :
    WindowsAgree (ConferenceManager.SetVideoWindows s remote) ↔ ∀ h info w,
      s.conference.mRemoteStreamInfos_VideoAudio.lookup h = some info →
      s.windowOf info.stream = some w → h = 0 ∧ w ∈ remote := by
  have fresh : ∀ w h, (w, h) ∈ (ConferenceManager.SetVideoWindows s remote).conference.mRemoteWinds ↔
      h = 0 ∧ w ∈ remote := by
    intro w h
    show (w, h) ∈ remote.map (fun wind => (wind, (0 : Int))) ↔ _
    simp only [List.mem_map, Prod.mk.injEq]
    constructor
    · rintro ⟨_, member, rfl, rfl⟩
      exact ⟨rfl, member⟩
    · rintro ⟨rfl, member⟩
      exact ⟨w, member, rfl, rfl⟩
  constructor
  · intro agree' h info w found given
    have recorded := (fresh _ _).1 (agree'.recorded found given)
    rw [show (ConferenceManager.SetVideoWindows s remote).videoHandle info.stream = h from
      sound.videoHandle found] at recorded
    exact recorded
  · intro free
    refine ⟨fun found found' => agree.apart found found', fun found given => ?_⟩
    obtain ⟨rfl, member⟩ := free _ _ _ found given
    exact (fresh _ _).2 ⟨sound.videoHandle found, member⟩

/-! ### What a step does -/

/-- What the windows and their occupants have to be for a step: the streams are accounted
for, no window is there twice, and the streams agree with the windows. -/
structure Shown (s : Client) : Prop where
  sound : Sound s
  different : s.windows.Nodup
  agree : WindowsAgree s

theorem Shown.same (shown : Shown s) (sound' : Sound s') (same : SameVideo s s') : Shown s' :=
  ⟨sound', same.windows ▸ shown.different, shown.agree.same shown.sound sound' same⟩

/-- A description keeps the agreement if and only if it shows no stream in a window that
the stream with the handle 0 has. -/
theorem Shown.describe_iff (shown : Shown s) (id : Int) (type sdp : String) :
    WindowsAgree (ConferenceManager.onRetmoeSDP s id type sdp false) ↔
      (id ∉ s.conference.mRemoteStreamInfos_VideoAudio →
        ∀ info w, s.conference.mRemoteStreamInfos_VideoAudio.lookup 0 = some info →
          s.windowOf info.stream = some w →
          Slots.firstFree 0 s.conference.mRemoteWinds ≠ some w) := by
  have sound' := onRetmoeSDP_sound shown.sound id type sdp false
  obtain ⟨t, told, ⟨rfl, there⟩ | ⟨connected, new⟩⟩ := onRetmoeSDP_video_cases s id type sdp
  · refine iff_of_true (shown.agree.same shown.sound sound' told) fun new => absurd there new
  · have untold : SameVideo (ConferenceManager.onRetmoeSDP s id type sdp false) t :=
      ⟨told.table.symm, told.winds.symm, told.heap.symm⟩
    have entered := shown.agree.shown_iff shown.sound shown.different connected new
    have sound := shown.sound.connect connected
    constructor
    · exact fun agree _ => entered.1 (agree.same sound' sound untold)
    · exact fun nobody => (entered.2 (nobody new)).same sound sound' told

/-- A piece of a step keeps the agreement, where the two that need it are taken under
their condition. -/
theorem Staged.shown (piece : Staged i start s s') (shown : Shown s)
    (distinct : ∀ remote, i = .setVideoWindows remote → remote.Nodup) (sets : SetsFree start i)
    (shows : ShowsFree start i) : Shown s' := by
  have sound' := piece.sound shown.sound
  cases piece with
  | apart same => exact shown.same sound' (.of_media same)
  | windows remote cause first =>
    have start : SameVideo s start := .of_media first.symm
    refine ⟨sound', ?_, ?_⟩
    · rw [show (ConferenceManager.SetVideoWindows s remote).windows = remote from
        operate_windows s (.SetVideoWindows remote)]
      exact distinct remote cause
    · apply (shown.agree.set_iff shown.sound remote).2
      intro h info w found given
      refine sets remote cause h info w (start.table ▸ found) ?_
      unfold Client.windowOf
      rw [start.heap]
      exact given
  | @described object isTextRoom type event first =>
    have start : SameVideo s start := .of_media first.symm
    cases isTextRoom with
    | true => exact shown.same sound' (onRetmoeSDP_text_sameVideo s _ type _)
    | false =>
      refine ⟨sound', (onRetmoeSDP_windows s _ type _ false) ▸ shown.different, ?_⟩
      apply (shown.describe_iff (senderOf object) type (offeredSdp object)).2
      intro new info w found given
      rw [← start.winds]
      refine shows object event (start.table ▸ new) info w (start.table ▸ found) ?_
      unfold Client.windowOf
      rw [start.heap]
      exact given
  | @joined object event =>
    have connected := ConnectToPeer_VideoAudio_connected s (senderOf object) false true false
    refine ⟨sound', connected.windows ▸ shown.different, ?_⟩
    apply shown.agree.unseen shown.sound connected
    · unfold Client.windowOf
      rw [connected.new]
      rfl
    · rw [connected.conference]
      rfl
  | removed _ _ id =>
    exact ⟨sound', onRemoteStreamRemove_windows s id ▸ shown.different,
      shown.agree.remove shown.sound id⟩
  | left =>
    refine ⟨sound', LeaveVideoRoom_windows s ▸ shown.different, ?_⟩
    have empty : (ConferenceManager.LeaveVideoRoom s).conference.mRemoteStreamInfos_VideoAudio = ∅ := by
      rw [LeaveVideoRoom_conference]
    constructor
    · intro h h' info info' w found
      simp [empty] at found
    · intro h info w found
      simp [empty] at found
  | room => exact shown.same sound' ⟨rfl, rfl, rfl⟩
  | @storedVideo id info info' there stores =>
    refine ⟨sound', shown.different, ?_⟩
    apply shown.agree.keep shown.sound sound'
    intro h stored w found given
    by_cases same : h = id
    · subst same
      obtain rfl : info' = stored :=
        Option.some.inj ((AList.lookup_insert _).symm.trans found)
      exact ⟨info, there, stores.stream.symm, stores.stream ▸ given, fun member => member⟩
    · have found : s.conference.mRemoteStreamInfos_VideoAudio.lookup h = some stored :=
        (AList.lookup_insert_ne same).symm.trans found
      exact ⟨stored, found, rfl, given, fun member => member⟩
  | storedData => exact shown.same sound' ⟨rfl, rfl, rfl⟩
  | opened => exact shown.same sound' ⟨rfl, rfl, rfl⟩

end

/-! ### Runs -/

/-- No event that brings a description unpublishes a feed as well. -/
def Input.Plain (i : Input) : Prop := ∀ object, i.Describes object false → i.Unpublishes 0

section
variable {env : Env} {i : Input} {s : Client}

/-- Of an event that brings a description and unpublishes nothing, the streams see the
description only. -/
theorem described_media {object : Json} (event : i.Describes object false) (plain : i.Plain) :
    (step env s i).media = (JanusVideoRoomManager.onVideoRoomEventSdp s object false).media := by
  obtain ⟨other, reports, none⟩ := plain object event
  obtain rfl := event.event.only reports
  have unpublish : ∀ t, JanusVideoRoomManager.onVideoRoomEventUnpublish t other = t := by
    intro t
    unfold JanusVideoRoomManager.onVideoRoomEventUnpublish
    simp [none]
  have tags : videoRoomTag other = some "attached" ∨ videoRoomTag other = some "event" := event.tags
  rcases tags with attached | happened
  · rw [step_videoRoom ⟨event.event, attached⟩, JanusVideoRoomManager.onVideoRoomEvent]
    rfl
  · rw [step_videoRoom ⟨event.event, happened⟩, JanusVideoRoomManager.onVideoRoomEvent]
    show (JanusVideoRoomManager.onVideoRoomEventEvent env s other).media = _
    unfold JanusVideoRoomManager.onVideoRoomEventEvent
    dsimp only
    rw [unpublish, onVideoRoomEventPublisher_media]

/-- A step that keeps the agreement was taken under the two conditions. -/
theorem Shown.conditions (shown : Shown s) (plain : i.Plain)
    (agree : WindowsAgree (step env s i)) : SetsFree s i ∧ ShowsFree s i := by
  constructor
  · rintro remote rfl
    exact (shown.agree.set_iff shown.sound remote).1 agree
  · intro object event new
    let told := s.emit (.onRemoteSdp (senderOf object) ((object.member "jsep").text "type")
      (offeredSdp object) false)
    have media : told.media = s.media := emit_media rfl
    have before : Shown told := shown.same (shown.sound.same media) (.of_media media)
    have stepped : (step env s i).media = (ConferenceManager.onRetmoeSDP told (senderOf object)
        ((object.member "jsep").text "type") (offeredSdp object) false).media := by
      rw [described_media event plain, JanusVideoRoomManager.onVideoRoomEventSdp]
      exact congrArg Client.media (if_pos event.offered)
    have described := agree.same (shown.sound.step env i)
      (onRetmoeSDP_sound before.sound _ _ _ _) (.of_media stepped.symm)
    exact (before.describe_iff _ _ _).1 described new

/-- A step under the two conditions keeps the agreement. -/
theorem Shown.step (shown : Shown s) (env : Env) (distinct : ∀ remote, i = .setVideoWindows remote → remote.Nodup)
    (sets : SetsFree s i) (shows : ShowsFree s i) : Shown (WebrtcDemo.step env s i) :=
  Machine.transitions_keep (fun _ _ piece before => piece.shown before distinct sets shows)
    (step_staged env s i) shown

theorem shown_initial (env : Env) : Shown (Client.initial env) where
  sound := sound_initial env
  different := List.nodup_nil
  agree := by
    constructor
    · intro h h' info info' w found
      simp [Client.initial] at found
    · intro h info w found
      simp [Client.initial] at found

end

/-- The two conditions under which a step keeps streams and windows in agreement. -/
def WindowsFree (s : Client) (i : Input) : Prop := SetsFree s i ∧ ShowsFree s i

/-- **Streams and windows agree** in every state of a run whose steps set the windows and
show streams under the two conditions. Where no event both brings a description and
unpublishes a feed, they agree in no other run. -/
theorem windows_agree (env : Env) (is : List Input)
    (distinct : ∀ remote, .setVideoWindows remote ∈ is → remote.Nodup) :
    (Machine.Along (step env) WindowsFree (Client.initial env) is →
        Machine.Throughout (step env) WindowsAgree (Client.initial env) is) ∧
      ((∀ i ∈ is, i.Plain) →
        Machine.Throughout (step env) WindowsAgree (Client.initial env) is →
        Machine.Along (step env) WindowsFree (Client.initial env) is) := by
  have each : ∀ i ∈ is, ∀ remote, i = .setVideoWindows remote → remote.Nodup := by
    rintro i member remote rfl
    exact distinct remote member
  constructor
  · intro free
    have both := Machine.along_and.2 ⟨free, Machine.along_inputs.2 each⟩
    exact (Machine.throughout_of_keeps (P := Shown)
      (fun s i shown ok => shown.step env ok.2 ok.1.1 ok.1.2) (shown_initial env) both).mono
      fun _ shown => shown.agree
  · intro plain
    exact Machine.along_of_throughout (R := Shown)
      (fun s i member shown agree => shown.conditions (plain i member) agree)
      (fun s i member shown ok => shown.step env (each i member) ok.1 ok.2) (shown_initial env)

/-- No stream goes by the handle 0, and the windows are not set. -/
theorem windowsFree_of_absent {s : Client} {i : Input} (sets : ∀ remote, i ≠ .setVideoWindows remote)
    (absent : (s.conference.mRemoteStreamInfos_VideoAudio.lookup 0).isNone) : WindowsFree s i := by
  constructor
  · exact fun remote same => absurd same (sets remote)
  · intro object event new info w found
    rw [Option.isNone_iff_eq_none.1 absent] at found
    simp at found

/-- Two streams in two windows. -/
theorem windows_agree_two :
    let is := [.setVideoWindows [11, 12],
      Server.event { tag := "attached", sender := 5, offer := some "v=0" },
      Server.event { tag := "attached", sender := 6, offer := some "v=0" }]
    (after Env.sample is).conference.mRemoteWinds = [(11, 5), (12, 6)] ∧
      Machine.Throughout (step Env.sample) WindowsAgree (Client.initial Env.sample) is := by
  intro is
  have distinct : ∀ remote, Input.setVideoWindows remote ∈ is → remote.Nodup := by
    intro remote member
    obtain rfl : remote = [11, 12] := by simpa [is, Server.event] using member
    decide
  refine ⟨by decide +kernel, (windows_agree Env.sample is distinct).1 ⟨⟨?_, ?_⟩, ?_, ?_, trivial⟩⟩
  · intro remote _ h info w found
    simp [Client.initial] at found
  · intro object event
    exact absurd event.event.1 (by simp)
  · exact windowsFree_of_absent (by simp [Server.event]) (by decide +kernel)
  · exact windowsFree_of_absent (by simp [Server.event]) (by decide +kernel)

/-- The user logs in again while a stream is shown: its window looks free. -/
theorem window_forgotten : ¬ ∀ (env : Env) (is : List Input),
    (∀ remote, .setVideoWindows remote ∈ is → remote.Nodup) →
    Machine.Throughout (step env) WindowsAgree (Client.initial env) is := by
  intro always
  let is := [.setVideoWindows [11],
    Server.event { tag := "attached", sender := 5, offer := some "v=0" }, .setVideoWindows [11]]
  have distinct : ∀ remote, Input.setVideoWindows remote ∈ is → remote.Nodup := by
    intro remote member
    obtain rfl : remote = [11] := by simpa [is, Server.event] using member
    decide
  have agree := (always Env.sample is distinct).last
  obtain ⟨info, found⟩ := Option.isSome_iff_exists.1 (show
    ((after Env.sample is).conference.mRemoteStreamInfos_VideoAudio.lookup 5).isSome by decide +kernel)
  have stream : ((after Env.sample is).conference.mRemoteStreamInfos_VideoAudio.lookup 5).map
      (·.stream) = some 0 := by decide +kernel
  have stream : info.stream = 0 := by simpa [found] using stream
  have given : (after Env.sample is).windowOf info.stream = some 11 := by
    rw [stream]
    decide +kernel
  have recorded : (11, (after Env.sample is).videoHandle info.stream) ∈
      (after Env.sample is).conference.mRemoteWinds := agree.recorded found given
  rw [stream] at recorded
  exact absurd recorded (by decide +kernel)

end WebrtcDemo
