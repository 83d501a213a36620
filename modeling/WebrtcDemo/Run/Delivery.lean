import WebrtcDemo.Client.Interface
import WebrtcDemo.Stream.Channel

/-!
# What a data channel delivers

`SendDataViaDataChannel` returns true whenever there is a channel, open or not, and
whether or not the join message has gone out. So what the channel accepts is what
was promised only while every message is sent after the join message and over an
open channel.
-/

namespace WebrtcDemo

namespace Channel

/-- The join message first, then what `true` was returned for; before the join message
was accepted there is nothing, and its supplier is still there. -/
def InOrder (c : Channel) : Prop :=
  match c.supplied with
  | none => c.OnSendLocalInfoWhenOpenDataChannel ∧ c.accepted = [] ∧ c.returned = []
  | some join => c.accepted = join :: c.returned

/-- The supplier is discarded exactly when it was asked. -/
def Asked (c : Channel) : Prop := c.OnSendLocalInfoWhenOpenDataChannel = c.supplied.isNone

/-- A message is sent over a channel only after the join message and while it is open. -/
def InTime (c : Channel) (e : ChannelEvent) : Prop :=
  ∀ data, e = .SendDataViaDataChannel data → c.mDataChannel.isSome →
    c.OnSendLocalInfoWhenOpenDataChannel = false ∧ c.mDataChannel = some .kOpen

section
variable {c : Channel}

theorem InOrder.same {c' : Channel} (inOrder : c.InOrder) (accepted : c'.accepted = c.accepted)
    (supplied : c'.supplied = c.supplied) (returned : c'.returned = c.returned)
    (supplier : c'.OnSendLocalInfoWhenOpenDataChannel = c.OnSendLocalInfoWhenOpenDataChannel) :
    c'.InOrder := by
  rw [InOrder, accepted, supplied, returned, supplier]
  exact inOrder

/-- The first notification of an open channel sends the join message; no other does
anything. -/
theorem OnStateChange_cases (c : Channel) (join : DataMessage) :
    (c.mDataChannel = some .kOpen ∧ c.OnSendLocalInfoWhenOpenDataChannel = true ∧
      c.OnStateChange join = { c with
        accepted := c.accepted ++ [join]
        supplied := some join
        OnSendLocalInfoWhenOpenDataChannel := false }) ∨
      c.OnStateChange join = c := by
  rw [OnStateChange]
  split
  · next state channel =>
    split_ifs with isOpen supplier
    · subst isOpen
      exact Or.inl ⟨channel, supplier, by simp [SendDataViaDataChannel, Send, channel]⟩
    · exact Or.inr rfl
    · exact Or.inr rfl
  · exact Or.inr rfl

theorem step_send_none (missing : c.mDataChannel = none) (data : DataMessage) :
    c.step (.SendDataViaDataChannel data) = c := by
  simp [step, SendDataViaDataChannel, missing]

/-- A message sent over a channel is promised, and accepted where the channel is open. -/
theorem step_send_some {state : DataState} (channel : c.mDataChannel = some state)
    (data : DataMessage) :
    c.step (.SendDataViaDataChannel data) =
      { c with
        accepted := if state = .kOpen then c.accepted ++ [data] else c.accepted
        returned := c.returned ++ [data] } := by
  by_cases isOpen : state = .kOpen <;> simp [step, SendDataViaDataChannel, Send, channel, isOpen]

theorem Asked.step (asked : c.Asked) (e : ChannelEvent) : (c.step e).Asked := by
  cases e with
  | CreateDataChannel => exact asked
  | CloseDataChannel => exact asked
  | stateChanged => exact asked
  | OnStateChange join =>
    rcases c.OnStateChange_cases join with ⟨-, -, sent⟩ | same
    · rw [Channel.step, sent]
      rfl
    · rwa [Channel.step, same]
  | SendDataViaDataChannel data =>
    rcases channel : c.mDataChannel with _ | state
    · rwa [step_send_none channel]
    · rw [step_send_some channel]
      exact asked

/-- **A step keeps the order exactly where it is in time.** -/
theorem InOrder.step_iff (asked : c.Asked) (inOrder : c.InOrder) (e : ChannelEvent) :
    (c.step e).InOrder ↔ c.InTime e := by
  cases e with
  | CreateDataChannel => exact iff_of_true (inOrder.same rfl rfl rfl rfl) (by simp [InTime])
  | CloseDataChannel => exact iff_of_true (inOrder.same rfl rfl rfl rfl) (by simp [InTime])
  | stateChanged => exact iff_of_true (inOrder.same rfl rfl rfl rfl) (by simp [InTime])
  | OnStateChange join =>
    refine iff_of_true ?_ (by simp [InTime])
    rcases c.OnStateChange_cases join with ⟨-, supplier, sent⟩ | same
    · have unasked : c.supplied = none := by simpa [Asked, supplier] using asked
      simp only [InOrder, unasked] at inOrder
      simp [Channel.step, sent, InOrder, inOrder]
    · rwa [Channel.step, same]
  | SendDataViaDataChannel data =>
    rcases channel : c.mDataChannel with _ | state
    · rw [step_send_none channel]
      exact iff_of_true inOrder (by simp [InTime, channel])
    · rw [step_send_some channel]
      rcases supplied : c.supplied with _ | join
      · have supplier : c.OnSendLocalInfoWhenOpenDataChannel = true := by rw [asked, supplied]; rfl
        simp [InTime, InOrder, supplier, channel]
      · have supplier : c.OnSendLocalInfoWhenOpenDataChannel = false := by rw [asked, supplied]; rfl
        simp only [InOrder, supplied] at inOrder
        by_cases isOpen : state = .kOpen <;>
          simp [InTime, InOrder, channel, supplier, inOrder, isOpen]

end

end Channel

/-! ## The client's record of the channel -/

/-- The record that the client keeps of the stream `p` is `c`, without the channel's state. -/
def Client.Records (s : Client) (p : Ptr) (c : Channel) : Prop :=
  ∃ x, s.dataHeap p = some x ∧ x.mDataChannel = c.mDataChannel.isSome ∧
    x.OnSendLocalInfoWhenOpenDataChannel = c.OnSendLocalInfoWhenOpenDataChannel

section
variable {s : Client} {p : Ptr} {c : Channel}

/-- The client sends where `true` is returned, and its record follows the channel. -/
theorem Client.Records.send (records : s.Records p c) (m : DataMessage) :
    (WebrtcStreamDataChannels.SendDataViaDataChannel s p m).Records p
        (c.SendDataViaDataChannel m).1 ∧
      (WebrtcStreamDataChannels.SendDataViaDataChannel s p m).log =
        s.log ++ if (c.SendDataViaDataChannel m).2 then [.dataSent p m] else [] := by
  obtain ⟨x, stream, same, supplier⟩ := records
  rw [WebrtcStreamDataChannels.SendDataViaDataChannel, stream, Channel.SendDataViaDataChannel]
  dsimp only
  rw [same]
  rcases channel : c.mDataChannel with _ | state
  · exact ⟨⟨x, stream, by simpa [channel] using same, supplier⟩, by simp⟩
  · have kept : (c.Send m).mDataChannel = c.mDataChannel ∧
        (c.Send m).OnSendLocalInfoWhenOpenDataChannel = c.OnSendLocalInfoWhenOpenDataChannel := by
      rw [Channel.Send]
      split_ifs <;> exact ⟨rfl, rfl⟩
    exact ⟨⟨x, stream, by rw [kept.1, same], by rw [kept.2, supplier]⟩, rfl⟩

/-- A notification of an open channel does to the record what it does to the channel. -/
theorem Client.Records.notify (records : s.Records p c) (env : Env)
    (isOpen : ∀ state, c.mDataChannel = some state → state = .kOpen) :
    (WebrtcStreamDataChannels.OnStateChange env s p).Records p
      (c.OnStateChange (ConferenceManager.onSendLocalInfoWhenOpenDataChannel env s)) := by
  obtain ⟨x, stream, same, supplier⟩ := records
  rw [WebrtcStreamDataChannels.OnStateChange, stream]
  dsimp only
  rcases channel : c.mDataChannel with _ | state
  · rw [if_neg (by simp [same, channel]), Channel.OnStateChange, channel]
    exact ⟨x, stream, same, supplier⟩
  · obtain rfl := isOpen state channel
    have exists_ : x.mDataChannel = true := by simp [same, channel]
    rcases registered : c.OnSendLocalInfoWhenOpenDataChannel with _ | _
    · rw [if_neg (by simp [supplier, registered]), Channel.OnStateChange, channel]
      exact ⟨x, stream, by simp [same, registered], by simp [supplier, registered]⟩
    · rw [if_pos ⟨exists_, supplier.trans registered⟩]
      refine ⟨{ x with OnSendLocalInfoWhenOpenDataChannel := false }, ?_, ?_, ?_⟩
      · simp [WebrtcStreamDataChannels.SendDataViaDataChannel, Client.drawn, Client.modifyData,
          Client.emit, stream, exists_]
      · simp [Channel.OnStateChange, Channel.SendDataViaDataChannel, Channel.Send, channel,
          registered, exists_]
      · simp [Channel.OnStateChange, channel, registered]

end

open Channel

/-- **The channel accepts the join message and then just the messages promised,** in every
state of a run, if and only if every message sent over it is sent in time. -/
theorem inOrder_iff (mDataChannel : Option DataState) (es : List ChannelEvent) :
    Machine.Throughout Channel.step InOrder (registered mDataChannel) es ↔
      Machine.Along Channel.step InTime (registered mDataChannel) es :=
  Machine.throughout_iff_along (Q := Channel.Asked) (fun _ e asked => asked.step e)
    (fun _ e _ asked inOrder => inOrder.step_iff asked e) rfl ⟨rfl, rfl, rfl⟩

/-- A message sent while the channel connects is lost, though `true` was returned for it. -/
theorem early_message_lost : ¬ ∀ (mDataChannel : Option DataState) (es : List ChannelEvent),
    Machine.Throughout Channel.step InOrder (registered mDataChannel) es := by
  intro always
  have lost := (always (some .kConnecting)
    [.SendDataViaDataChannel (.message "t" 1 "hello")]).last
  have returned := lost.2.2
  exact absurd returned (by decide)

end WebrtcDemo
