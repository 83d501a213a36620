import WebrtcDemo.Lib.Machine
import WebrtcDemo.Stream.Connection

/-!
# Calls on a peer connection

The initialisers of a stream use the connection before they look whether there is
one, and forget the handle where there is none; a description that was asked for is
set on the connection when it comes, whether or not that was deleted meanwhile. So
no call meets a null pointer just while every attempt makes a connection and every
description comes while there is one.
-/

namespace WebrtcDemo

namespace PeerStream

/-- No operation was invoked on a null `mPeerConnection`. -/
def NoNullCall (s : PeerStream) : Prop := ∀ call ∈ s.calls, call.2 = true

/-- The event makes an attempt to create a connection. -/
def Attempts (s : PeerStream) (e : ConnectionEvent) (factory : Factory) : Prop :=
  s.mPeerConnection = false ∧
    (s.streamClass = .VideoAudio ∧ e = .ConnectToPeer factory ∨ ∃ d, e = .SetPeerSDP factory d)

/-- An attempt that makes no connection does what it should: `SetPeerSDP` returns false, no
offer is asked for, and the handle stays. -/
def FailsCleanly (s : PeerStream) (e : ConnectionEvent) : Prop :=
  ∀ factory, s.Attempts e factory → factory.connection = false →
    (∀ d, e = .SetPeerSDP factory d → (s.SetPeerSDP factory d).2 = false) ∧
      (s.step e).descriptions = s.descriptions ∧ (s.step e).mHandleID = s.mHandleID

/-- Every attempt makes a connection, and a description that was asked for comes while
there is one. -/
def Connected (s : PeerStream) (e : ConnectionEvent) : Prop :=
  (∀ factory, s.Attempts e factory → factory.connection = true) ∧
    ∀ desc, e = .OnSuccess desc → 0 < s.descriptions → s.mPeerConnection = true

/-- The operations that the initialisers invoke. -/
def initialCalls (s : PeerStream) (factory : Factory) : List ConnectionCall :=
  .SetBitrate ::
    match s.streamClass with
    | .VideoAudio => .GetSenders :: if factory.senders then [] else [.AddTrack, .AddTrack]
    | .DataChannels => [.CreateDataChannel]

section
variable {s : PeerStream}

theorem noNullCall_congr {s' : PeerStream} (calls : s'.calls = s.calls) :
    s'.NoNullCall ↔ s.NoNullCall := by
  rw [NoNullCall, calls, NoNullCall]

/-- An operation meets a null pointer exactly where there is no connection. -/
@[simp] theorem invoke_noNullCall (call : ConnectionCall) :
    (s.invoke call).NoNullCall ↔ s.NoNullCall ∧ s.mPeerConnection = true := by
  simp [NoNullCall, invoke, or_imp, forall_and]

@[simp] theorem invoke_mPeerConnection (call : ConnectionCall) :
    (s.invoke call).mPeerConnection = s.mPeerConnection := rfl

@[simp] theorem askDescription_noNullCall (call : ConnectionCall) :
    (s.askDescription call).NoNullCall ↔ s.NoNullCall ∧ s.mPeerConnection = true :=
  invoke_noNullCall call

/-- The initialisers in one piece: they report what the factory made, and invoke the same
operations whatever that is. -/
theorem initializePeerConnection_eq (s : PeerStream) (factory : Factory) :
    s.initializePeerConnection factory =
      ({ s with
        mPeerConnection := factory.connection
        mHandleID := if factory.connection then s.mHandleID else -1
        mDataChannel :=
          match s.streamClass with
          | .VideoAudio => s.mDataChannel
          | .DataChannels => factory.channel
        calls := s.calls ++ (s.initialCalls factory).map (·, factory.connection) },
      factory.connection) := by
  rcases made : factory.connection with _ | _ <;> rcases kind : s.streamClass with _ | _ <;>
    rcases senders : factory.senders with _ | _ <;>
    simp [initializePeerConnection, createPeerConnection, DeletePeerConnection, addTracks,
      CreateDataChannel, invoke, initialCalls, made, kind, senders]

/-- **The initialisers meet a null pointer exactly where no connection was made.** -/
theorem initialize_noNullCall (factory : Factory) :
    (s.initializePeerConnection factory).1.NoNullCall ↔
      s.NoNullCall ∧ factory.connection = true := by
  rw [initializePeerConnection_eq]
  simp only [NoNullCall, List.mem_append, or_imp, forall_and, List.forall_mem_map]
  refine and_congr_right fun _ => ⟨fun all => all .SetBitrate (by simp [initialCalls]), ?_⟩
  exact fun made _ _ => made

theorem ConnectToPeer_noNullCall (absent : s.mPeerConnection = false) (factory : Factory) :
    (s.ConnectToPeer factory).NoNullCall ↔ s.NoNullCall ∧ factory.connection = true := by
  rw [← initialize_noNullCall, ConnectToPeer, if_neg (by simp [absent])]
  dsimp only
  split_ifs with made
  · rw [askDescription_noNullCall]
    rw [initializePeerConnection_eq] at made
    exact and_iff_left (by rw [initializePeerConnection_eq]; exact made)
  · exact Iff.rfl

theorem ensurePeerConnection_noNullCall (factory : Factory) :
    (s.ensurePeerConnection factory).1.NoNullCall ↔
      s.NoNullCall ∧ (s.mPeerConnection = false → factory.connection = true) := by
  rw [ensurePeerConnection]
  rcases s.mPeerConnection.eq_false_or_eq_true with present | absent
  · simp [present]
  · simp [absent, initialize_noNullCall]

/-- What follows finds a connection. -/
theorem ensurePeerConnection_present (factory : Factory) :
    (s.ensurePeerConnection factory).2 = (s.ensurePeerConnection factory).1.mPeerConnection := by
  rw [ensurePeerConnection]
  split_ifs with present
  · exact present.symm
  · rw [initializePeerConnection_eq]

theorem SetPeerSDP_noNullCall (factory : Factory) (d : Option SdpType) :
    (s.SetPeerSDP factory d).1.NoNullCall ↔
      s.NoNullCall ∧ (s.mPeerConnection = false → factory.connection = true) := by
  rw [← ensurePeerConnection_noNullCall, SetPeerSDP]
  dsimp only
  split_ifs with initialized
  · have present := s.ensurePeerConnection_present factory ▸ initialized
    cases d with
    | none => exact Iff.rfl
    | some type =>
      dsimp only
      split_ifs <;> simp [present]
  · exact Iff.rfl

theorem OnSuccess_noNullCall (desc : Jsep) :
    (s.OnSuccess desc).NoNullCall ↔ s.NoNullCall ∧ s.mPeerConnection = true :=
  (noNullCall_congr rfl).trans (invoke_noNullCall .SetLocalDescription)

/-- **A step meets no null pointer exactly where it is connected.** -/
theorem step_noNullCall (fine : s.NoNullCall) (e : ConnectionEvent) :
    (s.step e).NoNullCall ↔ s.Connected e := by
  cases e with
  | ConnectToPeer factory =>
    rcases kind : s.streamClass with _ | _
    · rcases s.mPeerConnection.eq_false_or_eq_true with present | absent
      · simp [step, kind, ConnectToPeer, Connected, Attempts, present, fine]
      · simp [step, kind, ConnectToPeer_noNullCall absent, Connected, Attempts, absent, fine]
    · simp [step, kind, Connected, Attempts, fine]
  | SetPeerSDP factory d =>
    simp [step, SetPeerSDP_noNullCall, Connected, Attempts, fine]
  | DeletePeerConnection =>
    exact iff_of_true ((noNullCall_congr rfl).2 fine) (by simp [Connected, Attempts])
  | OnSuccess desc =>
    rcases asked : s.descriptions with _ | more
    · simp [step, asked, Connected, Attempts, fine]
    · have still : ({ s with descriptions := more } : PeerStream).NoNullCall := fine
      simp [step, asked, OnSuccess_noNullCall, Connected, Attempts, still]
  | OnFailure =>
    exact iff_of_true ((noNullCall_congr rfl).2 fine) (by simp [Connected, Attempts])

end

end PeerStream

open PeerStream

/-- **No operation is invoked on a null connection, and attempts fail cleanly,** in a whole
run if and only if every attempt makes a connection and every description that was asked for
comes while there is one. -/
theorem no_null_call_iff (streamClass : StreamClass) (inHandleID : Int)
    (es : List ConnectionEvent) :
    Machine.Throughout PeerStream.step NoNullCall (constructed streamClass inHandleID) es ∧
        Machine.Along PeerStream.step FailsCleanly (constructed streamClass inHandleID) es ↔
      Machine.Along PeerStream.step PeerStream.Connected (constructed streamClass inHandleID) es := by
  refine Machine.throughout_and_along_iff (Q := fun _ => True) (fun _ _ _ => trivial)
    (fun s e _ _ fine => ?_) trivial (by simp [NoNullCall, constructed])
  rw [step_noNullCall fine]
  refine and_iff_left_of_imp fun connected factory attempts failed => ?_
  simp [connected.1 factory attempts] at failed

/-- The factory makes no connection, and the bit rate is set on none. -/
theorem failed_attempt_null_call : ¬ ∀ (streamClass : StreamClass) (inHandleID : Int)
    (es : List ConnectionEvent),
    Machine.Throughout PeerStream.step NoNullCall (constructed streamClass inHandleID) es ∧
      Machine.Along PeerStream.step FailsCleanly (constructed streamClass inHandleID) es := by
  intro always
  obtain ⟨fine, -⟩ := always .VideoAudio 7 [.ConnectToPeer { connection := false }]
  exact absurd (fine.last (.SetBitrate, false)) (by decide)

end WebrtcDemo
