import WebrtcDemo.Run.Joins
import WebrtcDemo.Run.Publishers

/-!
# After a feed is unpublished

Unpublishing edits the list of peers and nothing else. A peer that waits for its
attach reply still waits, and joins when the reply comes. So no join follows an
unpublished feed exactly when nobody waits in order to subscribe to it. Numbers go
out as doubles, and beyond `2 ^ 53` two feeds can go out as one.
-/

namespace WebrtcDemo

open JanusVideoRoomManager (construct subscriber publisherIds)

/-- The feed of a subscriber's join. -/
def Request.feed? : Request → Option Int
  | .message _ (.join _ (.subscriber feed _)) _ => some feed
  | _ => none

/-- The feeds of the subscribers' joins that a client has sent. -/
def Client.joinedFeeds (s : Client) : List Int := s.messages.filterMap (·.2.request.feed?)

/-- Nobody who waits in order to join is subscribed to a feed that goes out as `u`. -/
def Silent (u : Int) (s : Client) : Prop :=
  ∀ key p x, s.Joining p key → s.peers p = some x → castDouble x.mSubscribeId ≠ u

/-- No other feed goes out as the number `u`. -/
def SentAlone (u : Int) : Prop := ∀ v, 0 < v → v ≤ Numeral.llongMax → castDouble v = u → v = u

/-- Nobody is about to join `u`, and the joins of `u` are `n` so far. -/
structure Abstains (u : Int) (n : Nat) (s : Client) : Prop where
  owned : Owned s
  made : Made s
  silent : Silent u s
  joins : s.joinedFeeds.count u = n

section
variable {env : Env} {i : Input} {s s' : Client} {u : Int} {n : Nat} {object : Json}

/-! ## What requests join -/

/-- Only a join names a feed. -/
theorem Request.feed?_none {request : Request} (other : request.join? = none) :
    request.feed? = none := by
  cases request with
  | message handle_id body jsep =>
    cases body with
    | join room ptype => simp [Request.join?] at other
    | _ => rfl
  | _ => rfl

/-- A publisher joins no feed, a subscriber its own. -/
theorem joinBody_feed? (handle_id : Int) (x : JanusPeerConnection) (jsep : Option Jsep) :
    (Request.message handle_id (JanusPeerConnection.joinBody x) jsep).feed? =
      if x.mSubscribeId = 0 then none else some (castDouble x.mSubscribeId) := by
  rw [JanusPeerConnection.joinBody]
  split_ifs <;> rfl

theorem joinedFeeds_same (messages : s'.messages = s.messages) :
    s'.joinedFeeds = s.joinedFeeds := by
  rw [Client.joinedFeeds, messages, Client.joinedFeeds]

theorem joinedFeeds_append {sender : Option Ptr} {m : Message}
    (messages : s'.messages = s.messages ++ [(sender, m)]) :
    s'.joinedFeeds = s.joinedFeeds ++ m.request.feed?.toList := by
  rw [Client.joinedFeeds, messages, List.filterMap_append, Client.joinedFeeds]
  cases feed : m.request.feed? <;> simp [feed]

@[simp] theorem Client.speak_joinedFeeds {sender : Option Ptr} {session : Option Int}
    {request : Request} : (s.speak env sender session request).joinedFeeds =
      s.joinedFeeds ++ request.feed?.toList :=
  joinedFeeds_append Client.speak_messages

@[simp] theorem Client.ask_joinedFeeds {sender : Option Ptr} {session : Option Int}
    {request : Request} {kind : ReplyKind} {func : Continuation} :
    (s.ask env sender session request kind func).joinedFeeds =
      s.joinedFeeds ++ request.feed?.toList :=
  joinedFeeds_append Client.ask_messages

@[simp] theorem Client.take_joinedFeeds {kind : ReplyKind} {t : String} {func : Continuation}
    {object : Json} : (s.take kind t func object).joinedFeeds = s.joinedFeeds :=
  joinedFeeds_same Client.take_messages

@[simp] theorem Client.setPeer_joinedFeeds {p : Ptr} {x : JanusPeerConnection} :
    (s.setPeer p x).joinedFeeds = s.joinedFeeds := rfl

/-! ## Nobody starts to wait for a feed that is not announced -/

theorem Silent.keep (silent : Silent u s) (joining : ∀ p key, s'.Joining p key → s.Joining p key)
    (peers : ∀ p key x, s.Joining p key → s'.peers p = some x →
      ∃ y, s.peers p = some y ∧ x.mSubscribeId = y.mSubscribeId) : Silent u s' := by
  intro key p x waits alive
  obtain ⟨y, before, feed⟩ := peers p key x (joining p key waits) alive
  rw [feed]
  exact silent key p y (joining p key waits) before

theorem Silent.same (silent : Silent u s) (pending : s'.pending = s.pending)
    (peers : s'.peers = s.peers) : Silent u s' := by
  refine silent.keep (fun p key waits => ?_) fun p key x _ alive => ⟨x, peers ▸ alive, rfl⟩
  rwa [Client.Joining, pending] at waits

theorem Silent.setPeer (silent : Silent u s) {p : Ptr} {x w : JanusPeerConnection}
    (alive : s.peers p = some x) (feed : w.mSubscribeId = x.mSubscribeId) :
    Silent u (s.setPeer p w) := by
  refine silent.keep (fun _ _ => id) fun q _ z _ after => ?_
  rcases eq_or_ne q p with rfl | other
  · obtain rfl : w = z := by simpa using after
    exact ⟨x, alive, feed⟩
  · rw [Client.setPeer_peers, Function.update_of_ne other] at after
    exact ⟨z, after, rfl⟩

theorem Silent.take (silent : Silent u s) (kind : ReplyKind) (t : String) (func : Continuation)
    (object : Json) : Silent u (s.take kind t func object) := by
  refine silent.keep (fun p key waits => ?_) fun _ _ x _ after => ⟨x, by simpa using after, rfl⟩
  rw [Client.Joining, Client.take_pending, Function.update_apply] at waits
  split_ifs at waits
  exact waits

theorem Silent.ask (silent : Silent u s) (sender : Option Ptr) (session : Option Int)
    (request : Request) (kind : ReplyKind) {func : Continuation}
    (elsewhere : ∀ p, func ≠ .peer p .onAttachVideoRoomJoin) :
    Silent u (s.ask env sender session request kind func) := by
  refine silent.keep (fun p key waits => ?_) fun _ _ x _ after => ⟨x, by simpa using after, rfl⟩
  rw [Client.Joining, Client.ask_pending, Function.update_apply] at waits
  split_ifs at waits
  · exact absurd (Option.some.inj waits) (elsewhere p)
  · exact waits

/-- An object just made is nobody that waits. -/
theorem Silent.anew (silent : Silent u s) (made : Made s) (x : JanusPeerConnection) :
    Silent u (construct s x) := by
  refine silent.keep (fun _ _ => id) fun p key y waits after => ?_
  have older := made.awaited key p _ waits
  rw [Client.construct_peers, Function.update_of_ne older.ne] at after
  exact ⟨y, after, rfl⟩

/-- A new peer waits in order to join its feed. -/
theorem Silent.attach (silent : Silent u s) (made : Made s) (room : RoomKind)
    {peer : JanusPeerConnection} (feed : castDouble peer.mSubscribeId ≠ u) :
    Silent u (s.attachNew env room peer) := by
  intro key p x waits alive
  rw [Client.Joining, Client.attachNew_pending, Function.update_apply] at waits
  rw [Client.attachNew_peers] at alive
  split_ifs at waits with new
  · obtain rfl : s.constructed = p := by
      injection Option.some.inj waits
    obtain rfl : peer = x := by simpa using alive
    exact feed
  · have older := made.awaited key p _ waits
    rw [Function.update_of_ne older.ne] at alive
    exact silent key p x waits alive

theorem Abstains.transition (abstains : Abstains u n s) (nonzero : u ≠ 0)
    (unannounced : ∀ v, 0 < v → i.Announces v → castDouble v ≠ u)
    (taken : Transition env i s s') : Abstains u n s' := by
  have owned := abstains.owned.transition taken
  have made := Made.transition abstains.owned abstains.made taken
  suffices Silent u s' ∧ s'.joinedFeeds = s.joinedFeeds from
    ⟨owned, made, this.1, this.2 ▸ abstains.joins⟩
  have silent := abstains.silent
  cases taken with
  | quiet same => exact ⟨silent.same same.pending same.peers, joinedFeeds_same same.messages⟩
  | drawn => exact ⟨silent.same rfl rfl, rfl⟩
  | settings => exact ⟨silent.same rfl rfl, rfl⟩
  | manage own =>
    refine ⟨silent.ask _ _ _ _ (by cases own <;> simp), ?_⟩
    simp [Request.feed?_none own.join?_none]
  | attach room peer _ _ feed =>
    refine ⟨silent.attach abstains.made room ?_, ?_⟩
    · rcases feed with none | ⟨-, positive, announced⟩
      · rw [none]
        exact nonzero.symm
      · exact unannounced _ positive announced
    · simp [joinedFeeds_append Client.attachNew_messages, Request.feed?]
  | appoint room peer =>
    exact ⟨(silent.anew abstains.made peer).same (by simp) (by simp),
      joinedFeeds_same (by simp)⟩
  | administer request _ alive =>
    refine ⟨(silent.setPeer alive (by simp)).ask _ _ _ _ fun p same => ?_, ?_⟩
    · injection same with _ bound
      exact adminRequest_member request bound
    · simp [Request.feed?]
  | lost => exact ⟨silent.same rfl rfl, rfl⟩
  | unlist => exact ⟨silent.same rfl rfl, rfl⟩
  | leave room =>
    refine ⟨silent.keep (fun p key waits => ?_) fun p _ x _ after => ?_, joinedFeeds_same (by simp)⟩
    · rwa [Client.Joining, Client.leave_pending] at waits
    · rw [abstains.owned.leave_peers] at after
      dsimp only at after
      split_ifs at after
      exact ⟨x, after, rfl⟩
  | speak _ _ _ _ own =>
    refine ⟨silent.same rfl rfl, ?_⟩
    simp [Request.feed?_none own.join?_none]

theorem Abstains.reply (abstains : Abstains u n s) (answered : Reply env i s s') :
    Abstains u n s' := by
  have owned := abstains.owned.reply answered
  have made := Made.reply abstains.owned abstains.made answered
  suffices Silent u s' ∧ s'.joinedFeeds.count u = s.joinedFeeds.count u from
    ⟨owned, made, this.1, this.2.trans abstains.joins⟩
  have taken := abstains.silent.take
  cases answered with
  | session => exact ⟨(taken _ _ _ _).same rfl rfl, congrArg _ Client.take_joinedFeeds⟩
  | heartBeat =>
    refine ⟨(taken _ _ _ _).same rfl rfl, ?_⟩
    rw [joinedFeeds_same Client.onHeartBeat_messages, Client.take_joinedFeeds]
  | dead => exact ⟨(taken _ _ _ _).same rfl rfl, congrArg _ Client.take_joinedFeeds⟩
  | @joined kind t p object x room answer alive =>
    have written : Silent u ((s.take kind t (.peer p room.joined) object).setPeer p
        (room.setHandle (JanusPeerConnection.replyId object) x)) :=
      (taken _ _ _ _).setPeer (x := x) (by simpa using alive) (by simp)
    refine ⟨written.same rfl rfl, ?_⟩
    cases room with
    | text => simp [RoomKind.opening, Request.feed?]
    | video =>
      have other := abstains.silent _ p x answer.waiting alive
      rw [Client.speak_joinedFeeds, RoomKind.opening, joinBody_feed?]
      split_ifs
      · simp
      · simp [RoomKind.setHandle, other]
  | @admin kind t p member object x todo isAdmin answer alive =>
    have written : Silent u ((s.take kind t (.peer p member) object).setPeer p
        (todo.room.setHandle (JanusPeerConnection.replyId object) x)) :=
      (taken _ _ _ _).setPeer (x := x) (by simpa using alive) (by simp)
    refine ⟨written.ask _ _ _ _ fun p same => ?_, ?_⟩
    · injection same with _ bound
      exact (adminStep_join?_none isAdmin 0 x).2 bound
    · simp [Request.feed?_none (adminStep_join?_none isAdmin _ _).1]
  | outcome _ _ _ same =>
    refine ⟨(taken _ _ _ _).same same.pending same.peers, ?_⟩
    rw [joinedFeeds_same same.messages, Client.take_joinedFeeds]

theorem Input.Announces.le {v : Int} (announced : i.Announces v) : v ≤ Numeral.llongMax := by
  obtain ⟨object, -, member⟩ := announced
  obtain ⟨publisher, -, rfl⟩ := List.mem_map.1 member
  exact Numeral.atoll_le _

theorem Abstains.step (abstains : Abstains u n s) (nonzero : u ≠ 0) (alone : SentAlone u)
    (unannounced : ¬ i.Announces u) : Abstains u n (step env s i) := by
  have others : ∀ v, 0 < v → i.Announces v → castDouble v ≠ u := by
    intro v positive announced same
    exact unannounced (alone v positive announced.le same ▸ announced)
  exact (step_decomposes env).keeps (fun _ _ answered abstains => abstains.reply answered)
    (fun _ _ taken abstains => abstains.transition nonzero others taken) abstains

/-- **Silence lasts until the feed is announced.** -/
theorem Abstains.run (abstains : Abstains u n s) (nonzero : u ≠ 0) (alone : SentAlone u)
    {is : List Input} (unannounced : ∀ i ∈ is, ¬ i.Announces u) :
    Abstains u n (Machine.run (WebrtcDemo.step env) s is) := by
  induction is generalizing s with
  | nil => exact abstains
  | cons k more ih =>
    exact ih (abstains.step nonzero alone (unannounced k List.mem_cons_self))
      fun i member => unannounced i (List.mem_cons_of_mem _ member)

/-! ## Whoever waits can be made to join -/

/-- Some input answers a given transaction. -/
theorem exists_reply (kind : ReplyKind) (t : String) :
    ∃ (i : Input) (object : Json), i.Answers kind t object ∧ ∀ v, ¬ i.Announces v := by
  cases kind with
  | success =>
    exact ⟨Server.success t 1, _, Server.success_answers.2 ⟨rfl, rfl, rfl⟩,
      fun _ ⟨object, event, _⟩ => Server.success_unreported object event⟩
  | ack =>
    exact ⟨Server.ack t, Server.ackReply t, ⟨rfl, rfl, rfl⟩,
      fun _ ⟨object, event, _⟩ => Server.ack_unreported object event⟩

variable (env) in
/-- Someone who waits for a feed that goes out as `u` joins it on the reply. -/
theorem joins_of_waiting (nonzero : u ≠ 0) (waiting : ¬ Silent u s) :
    ∃ i, (∀ v, ¬ i.Announces v) ∧
      (step env s i).joinedFeeds.count u = s.joinedFeeds.count u + 1 := by
  simp only [Silent, not_forall, not_not] at waiting
  obtain ⟨⟨kind, t⟩, p, x, waits, alive, feed⟩ := waiting
  obtain ⟨i, object, reply, silent⟩ := exists_reply kind t
  have answer : Answer i s kind t (.peer p .onAttachVideoRoomJoin) object := ⟨reply, waits⟩
  have subscribed : x.mSubscribeId ≠ 0 := by
    intro none
    rw [none] at feed
    exact nonzero feed.symm
  refine ⟨i, silent, ?_⟩
  rw [step_joined answer alive, Client.speak_joinedFeeds, joinBody_feed?, if_neg subscribed, feed]
  simp

variable (env) in
/-- An event that announces one feed makes a peer that waits for it. -/
theorem waits_of_announcing {v : Int} (positive : 0 < v) (inRange : v ≤ Numeral.llongMax)
    (s : Client) :
    ∃ i, (∀ w, i.Announces w → w = v) ∧
      (step env s i).joinedFeeds = s.joinedFeeds ∧ ¬ Silent (castDouble v) (step env s i) := by
  let e : Server.VideoEvent := { tag := "joined", sender := 1, publishers := [v] }
  have low : Numeral.llongMin ≤ v := le_trans (by decide) positive.le
  have ids : publisherIds e.object = [v] := e.publishers_object (by simpa [e] using ⟨low, inRange⟩)
  have feeds : newFeeds e.object = [v] := by
    rw [newFeeds, ids]
    simpa using positive
  have tags : (Server.event e).Tags "joined" e.object := ⟨e.reports, e.tag_object⟩
  obtain ⟨before, t, quiet, same, stepped⟩ := step_publishes env s (Or.inl tags)
  have none : unpublishedFeed e.object = 0 := by
    simp [unpublishedFeed, tags.2]
  rw [feeds, List.foldl_cons, List.foldl_nil] at same
  rw [none, Client.removeFeed_zero] at stepped
  refine ⟨Server.event e, ?_, ?_, ?_⟩
  · rintro w ⟨object, ⟨isMessage, -⟩, member⟩
    obtain rfl : e.object = object := by simpa [Server.event] using isMessage
    simpa [ids] using member
  · let keyed := before.keyed e.object
    have attached : (keyed.attachNew env .video (subscriber env keyed v)).joinedFeeds = _ :=
      joinedFeeds_append Client.attachNew_messages
    have keyed : (before.keyed e.object).joinedFeeds = s.joinedFeeds :=
      joinedFeeds_same quiet.messages
    rw [stepped, joinedFeeds_same same.messages, attachFeed, attached, keyed]
    simp [Request.feed?]
  · rw [stepped]
    refine fun silent => silent (.success, env.random (before.keyed e.object).draws)
      before.constructed
      (subscriber env (before.keyed e.object) v) ?_ ?_ rfl
    · rw [Client.Joining, same.pending, attachFeed, Client.attachNew_pending, Function.update_self]
      rfl
    · rw [same.peers, attachFeed, Client.attachNew_peers]
      exact Function.update_self _ _ _

/-- After an event, those wait who waited before and those it made. -/
theorem silent_step_iff (event : i.Tags "joined" object ∨ i.Tags "event" object) (owned : Owned s)
    (made : Made s) (ledgered : Ledgered env s) (distinct : (step env s i).Distinct env) :
    Silent u (step env s i) ↔ Silent u s ∧ ∀ v ∈ newFeeds object, castDouble v ≠ u := by
  have subscribed : Subscribed env (s.keyed object) (newFeeds object) (step env s i) :=
    step_subscribed env _ event
  have reports : i.Reports object := event.elim (·.1) (·.1)
  constructor
  · intro silent
    refine ⟨fun key p x waits alive => ?_, fun v member => ?_⟩
    · have still := ledgered.waits_step distinct waits (reports.unanswered key.1 key.2)
      have same : (step env s i).peers p = s.peers p :=
        subscribed.old p (owned.below p (by simp [alive]))
      exact silent key p x still (same.trans alive)
    · obtain ⟨k, early, rfl⟩ := List.getElem_of_mem member
      exact silent _ _ _ (subscribed.waits distinct k early) (subscribed.new k early)
  · rintro ⟨silent, others⟩ key p x waits alive
    rcases subscribed.waiting key p _ waits with before | ⟨k, early, rfl, -⟩
    · have same : (step env s i).peers p = s.peers p :=
        subscribed.old p (made.awaited key p _ before)
      exact silent key p x before (same.symm.trans alive)
    · obtain rfl := Option.some.inj ((subscribed.new k early).symm.trans alive)
      exact others _ (List.getElem_mem early)

end

/-- **No join follows an unpublished feed until it is announced again** if and only if
nobody waits in order to subscribe to it when it is unpublished, the event itself does
not list it, and no other feed goes out as the same number. -/
theorem unpublished_unjoined_iff (env : Env) (js : List Input) (e : Input) (object : Json)
    (event : e.Tags "event" object) (nonzero : unpublishedFeed object ≠ 0)
    (distinct : (after env (js ++ [e])).Distinct env) :
    (∀ is, (∀ i ∈ is, ¬ i.Announces (unpublishedFeed object)) →
      (after env (js ++ [e] ++ is)).joinedFeeds.count (unpublishedFeed object) =
        (after env (js ++ [e])).joinedFeeds.count (unpublishedFeed object)) ↔
      Silent (unpublishedFeed object) (after env js) ∧
        (∀ v ∈ newFeeds object, castDouble v ≠ unpublishedFeed object) ∧
        SentAlone (unpublishedFeed object) := by
  generalize unpublishedFeed object = u at nonzero
  have stepped := after_concat env js e
  have distinct' : (step env (after env js) e).Distinct env := stepped ▸ distinct
  have ledgered := ledgered_after js (distinct'.of_le (step_draws_le env _ e))
  have silent_iff := silent_step_iff (u := u) (Or.inr event) (owned_after env js)
    (made_after env js) ledgered distinct'
  rw [← stepped] at silent_iff
  rw [← and_assoc, ← silent_iff]
  constructor
  · intro never
    refine ⟨?_, ?_⟩
    · by_contra waiting
      obtain ⟨i, unannounced, joins⟩ := joins_of_waiting env nonzero waiting
      have same := never [i] (by simpa using unannounced u)
      rw [after_append, Machine.run_cons, Machine.run_nil, joins] at same
      omega
    · intro v positive inRange same
      by_contra other
      obtain ⟨i, announces, joins, waiting⟩ :=
        waits_of_announcing env positive inRange (after env (js ++ [e]))
      rw [same] at waiting
      obtain ⟨i', unannounced, joins'⟩ := joins_of_waiting env nonzero waiting
      have unlisted : ¬ i.Announces u := fun announced => other (announces u announced).symm
      have same := never [i, i'] (by simpa using ⟨unlisted, unannounced u⟩)
      rw [after_append, Machine.run_cons, Machine.run_cons, Machine.run_nil, joins', joins] at same
      omega
  · rintro ⟨silent, alone⟩ is unannounced
    have abstains : Abstains u ((after env (js ++ [e])).joinedFeeds.count u) (after env (js ++ [e])) :=
      ⟨owned_after env _, made_after env _, silent, rfl⟩
    rw [after_append]
    exact (abstains.run nonzero alone unannounced).joins

/-- A feed that a double holds exactly goes out alone. -/
theorem sentAlone_of_lt {u : Int} (small : u < 2 ^ 53) : SentAlone u := by
  intro v positive _ same
  rw [castDouble, Int.sign_eq_one_of_pos positive, one_mul] at same
  have rounded : Rounding.roundBits 53 v.natAbs = u.natAbs := by omega
  have source := Rounding.eq_of_roundBits_eq (by norm_num) (by omega) rounded
  omega

/-- One feed is unpublished, another one joined. -/
theorem unpublished_unjoined_other :
    (after Env.sample [Server.event { tag := "event", sender := 7, unpublished := some 5 },
      Server.event { tag := "event", sender := 7, publishers := [6] },
      Server.success (Env.sample.random 0) 8]).joinedFeeds.count 5 = 0 := by
  let gone : Server.VideoEvent := { tag := "event", sender := 7, unpublished := some 5 }
  let other : Server.VideoEvent := { tag := "event", sender := 7, publishers := [6] }
  have feed : unpublishedFeed gone.object = 5 := by decide +kernel
  have silent : Silent 5 (after Env.sample []) :=
    fun _ _ _ _ alive => by simp [Client.initial] at alive
  have alone : SentAlone 5 := sentAlone_of_lt (by decide)
  have nothing : newFeeds gone.object = [] := by decide +kernel
  have never := (unpublished_unjoined_iff Env.sample [] (Server.event gone) gone.object
    ⟨gone.reports, gone.tag_object⟩ (by rw [feed]; decide) (sample_distinct (by decide +kernel))).2
    (by rw [feed]; exact ⟨silent, by simp [nothing], alone⟩)
  have unannounced : ∀ i ∈ [Server.event other, Server.success (Env.sample.random 0) 8],
      ¬ i.Announces (unpublishedFeed gone.object) := by
    rw [feed]
    rintro i member ⟨object, ⟨same, isEvent⟩, listed⟩
    obtain rfl | rfl : i = Server.event other ∨ i = Server.success (Env.sample.random 0) 8 := by
      simpa using member
    · obtain rfl : other.object = object := by simpa [Server.event] using same
      rw [other.publishers_object (by decide)] at listed
      exact absurd listed (by decide)
    · exact Server.success_unreported object ⟨same, isEvent⟩
  have same := never _ unannounced
  rw [feed] at same
  exact same.trans (by decide +kernel)

/-- A feed unpublished before its own attach reply is joined all the same. -/
theorem unpublished_joined : ¬ ∀ (env : Env) (js : List Input) (e : Input) (object : Json),
    e.Tags "event" object → unpublishedFeed object ≠ 0 →
    (after env (js ++ [e])).Distinct env →
    ∀ is, (∀ i ∈ is, ¬ i.Announces (unpublishedFeed object)) →
      (after env (js ++ [e] ++ is)).joinedFeeds.count (unpublishedFeed object) =
        (after env (js ++ [e])).joinedFeeds.count (unpublishedFeed object) := by
  intro always
  let joined : Server.VideoEvent := { tag := "joined", sender := 7, publishers := [5] }
  let gone : Server.VideoEvent := { tag := "event", sender := 7, unpublished := some 5 }
  have feed : unpublishedFeed gone.object = 5 := by decide +kernel
  have same := always Env.sample [Server.event joined] (Server.event gone) gone.object
    ⟨gone.reports, gone.tag_object⟩ (by rw [feed]; decide) (sample_distinct (by decide +kernel))
    [Server.success (Env.sample.random 0) 8] fun i member ⟨object, event, _⟩ => by
      obtain rfl := List.mem_singleton.1 member
      exact Server.success_unreported object event
  have before : (after Env.sample [Server.event joined, Server.event gone]).joinedFeeds = [] := by
    decide +kernel
  have late : (after Env.sample [Server.event joined, Server.event gone,
      Server.success (Env.sample.random 0) 8]).joinedFeeds = [5] := by
    decide +kernel
  simp only [feed, List.cons_append, List.nil_append, before, late] at same
  exact absurd same (by decide)

end WebrtcDemo
