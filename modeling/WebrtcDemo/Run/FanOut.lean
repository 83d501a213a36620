import WebrtcDemo.Run.Joins
import WebrtcDemo.Run.Publishers

/-!
# From an announcement to the joins

An event that lists publishers starts one conversation for each: attach, reply,
join. The conversations share the callback map and nothing else, so each goes from
`Awaiting` to `Joined` on its own reply, whatever happens meanwhile, and the order
of the replies does not show.
-/

namespace WebrtcDemo

open JanusVideoRoomManager (subscriber publisherIds)

/-- `p`, made like `x`, awaits the reply to `t` in order to join, and has not joined. -/
structure Awaiting (p : Ptr) (t : String) (x : JanusPeerConnection) (s : Client) : Prop where
  waits : s.Joining p (.success, t)
  only : ∀ key, s.Joining p key → key = (.success, t)
  alive : ∃ y, s.peers p = some y ∧ y.mSubscribeId = x.mSubscribeId ∧
    y.mPrivateId = x.mPrivateId ∧ y.mVideoRoomId = x.mVideoRoomId
  unappointed : ∀ room, s.admin room ≠ some p
  joins : s.joins p = []

/-- `p` has sent this one join, and waits for no reply in order to send another. -/
structure Joined (p : Ptr) (join : Int × Body) (s : Client) : Prop where
  older : p < s.constructed
  none : ∀ key, ¬ s.Joining p key
  joins : s.joins p = [join]

section
variable {env : Env} {i : Input} {s s' : Client} {p : Ptr} {t : String} {x : JanusPeerConnection}
  {join : Int × Body}

/-- A subscriber's join. -/
theorem joinBody_subscriber {y : JanusPeerConnection} (feed : x.mSubscribeId ≠ 0)
    (same : y.mSubscribeId = x.mSubscribeId ∧ y.mPrivateId = x.mPrivateId ∧
      y.mVideoRoomId = x.mVideoRoomId) :
    JanusPeerConnection.joinBody y = JanusPeerConnection.joinBody x := by
  obtain ⟨feed', key, room⟩ := same
  have feed'' : y.mSubscribeId ≠ 0 := feed' ▸ feed
  rw [JanusPeerConnection.joinBody, if_neg feed'', JanusPeerConnection.joinBody, if_neg feed, feed',
    key, room]

theorem Joined.step (joined : Joined p join s) (i : Input) : Joined p join (step env s i) := by
  rcases step_aside env i joined.older with ⟨kind, t, object, answer⟩ | aside
  · exact absurd answer.waiting (joined.none _)
  · exact ⟨joined.older.trans_le aside.constructed, fun key waits => joined.none key
      (aside.joining key waits), aside.joins.trans joined.joins⟩

theorem Joined.run (joined : Joined p join s) (is : List Input) :
    Joined p join (Machine.run (WebrtcDemo.step env) s is) :=
  Machine.run_keeps (P := Joined p join) (fun _ i joined _ => joined.step i) joined
    (Machine.along_true is)

theorem Awaiting.older (awaiting : Awaiting p t x s) (owned : Owned s) : p < s.constructed := by
  obtain ⟨y, alive, -⟩ := awaiting.alive
  exact owned.below p (by simp [alive])

/-- A step that does not bring the reply. -/
theorem Awaiting.step (awaiting : Awaiting p t x s) (owned : Owned s) (ledgered : Ledgered env s)
    (distinct : (WebrtcDemo.step env s i).Distinct env) (stays : i.leaves? = none)
    (unanswered : ∀ object, ¬ i.Answers .success t object) :
    Awaiting p t x (WebrtcDemo.step env s i) := by
  have older := awaiting.older owned
  have waits := ledgered.waits_step distinct awaiting.waits unanswered
  obtain ⟨y, alive, feed, key, room⟩ := awaiting.alive
  have follows := step_follows env i owned alive (by simp [stays])
  obtain ⟨z, alive', -, feed', key', room'⟩ := follows.alive
  have room'' : z.mVideoRoomId = y.mVideoRoomId :=
    room'.resolve_right fun administered => awaiting.unappointed _ administered.1
  rcases step_aside env i older with ⟨kind, t', object, answer⟩ | aside
  · obtain ⟨rfl, rfl⟩ : kind = .success ∧ t' = t := by
      simpa using awaiting.only _ answer.waiting
    exact absurd answer.named (unanswered object)
  · exact ⟨waits, fun key waits => awaiting.only key (aside.joining key waits),
      ⟨z, alive', feed'.trans feed, key'.trans key, room''.trans room⟩,
      fun room held => awaiting.unappointed room ((follows.admin room).1 held),
      aside.joins.trans awaiting.joins⟩

variable (env) in
/-- The step that brings it. -/
theorem Awaiting.answered (awaiting : Awaiting p t x s) (owned : Owned s)
    (feed : x.mSubscribeId ≠ 0) {object : Json} (reply : i.Answers .success t object) :
    Joined p (castDouble (JanusPeerConnection.replyId object), JanusPeerConnection.joinBody x)
      (WebrtcDemo.step env s i) := by
  have older := awaiting.older owned
  obtain ⟨y, alive, same⟩ := awaiting.alive
  have answer : Answer i s .success t (.peer p .onAttachVideoRoomJoin) object :=
    ⟨reply, awaiting.waits⟩
  obtain ⟨joins, constructed, joining⟩ := step_joins env answer alive
  refine ⟨constructed ▸ older, fun key waits => ?_, ?_⟩
  · exact (joining key waits).2 (awaiting.only key (joining key waits).1)
  · rw [joins, awaiting.joins, joinBody_subscriber feed same, List.nil_append]

/-- **A conversation ends in its join**, whatever else a run brings. -/
theorem Awaiting.run (awaiting : Awaiting p t x s) (owned : Owned s) (ledgered : Ledgered env s)
    {is : List Input} (distinct : (Machine.run (WebrtcDemo.step env) s is).Distinct env)
    (stays : ∀ k ∈ is, k.leaves? = none) (feed : x.mSubscribeId ≠ 0)
    (answered : ∃ k ∈ is, ∃ object, k.Answers .success t object) {handle : Int}
    (carries : ∀ k ∈ is, ∀ object, k.Answers .success t object →
      JanusPeerConnection.replyId object = handle) :
    Joined p (castDouble handle, JanusPeerConnection.joinBody x)
      (Machine.run (WebrtcDemo.step env) s is) := by
  induction is generalizing s with
  | nil => simp at answered
  | cons k more ih =>
    have distinct' : (WebrtcDemo.step env s k).Distinct env :=
      distinct.of_le (run_draws_le env _ more)
    by_cases now : ∃ object, k.Answers .success t object
    · obtain ⟨object, reply⟩ := now
      have joined := awaiting.answered env owned feed reply
      rw [carries k List.mem_cons_self object reply] at joined
      exact joined.run more
    · have unanswered : ∀ object, ¬ k.Answers .success t object := not_exists.1 now
      obtain ⟨k', member, object, reply⟩ := answered
      have later : k' ∈ more := by
        rcases List.mem_cons.1 member with rfl | later
        · exact absurd reply (unanswered object)
        · exact later
      exact ih (awaiting.step owned ledgered distinct' (stays k List.mem_cons_self) unanswered)
        (owned.step k) (ledgered.stepped k distinct') distinct
        (fun k member => stays k (List.mem_cons_of_mem _ member)) ⟨k', later, object, reply⟩
        fun k member => carries k (List.mem_cons_of_mem _ member)

/-! ## The list meanwhile -/

/-- The input neither leaves a room nor unpublishes a feed. -/
def Input.Calm (i : Input) : Prop := i.leaves? = none ∧ ∀ u, i.Unpublishes u → u = 0

theorem Server.success_calm (t : String) (id : Int) : (Server.success t id).Calm :=
  ⟨rfl, fun _ ⟨object, event, _⟩ => absurd event (Server.success_unreported object)⟩

theorem Transition.listed_grows (calm : i.Calm) (taken : Transition env i s s')
    (room : RoomKind) : s.listed room <+: s'.listed room := by
  cases taken with
  | quiet same => rw [same.listed]
  | drawn => exact List.prefix_rfl
  | settings => cases room <;> exact List.prefix_rfl
  | attach room' peer =>
    rw [Client.attachNew_listed]
    split_ifs with same
    · subst same
      exact List.prefix_append _ _
    · exact List.prefix_rfl
  | lost => cases room <;> exact List.prefix_rfl
  | unlist cause nonzero => exact absurd (calm.2 _ cause) nonzero
  | leave room leaves => simp [calm.1] at leaves
  | _ => simp

theorem step_listed_grows (calm : i.Calm) (s : Client) (room : RoomKind) :
    s.listed room <+: (step env s i).listed room :=
  (step_decomposes env).related (R := fun s s' : Client => s.listed room <+: s'.listed room)
    (fun _ => List.prefix_rfl) (fun _ _ _ => List.IsPrefix.trans)
    (fun _ _ answered => by rw [answered.same_peers.2])
    (fun _ _ taken => taken.listed_grows calm room) s

/-- Without leaving or unpublishing the lists only grow at their ends. -/
theorem run_listed_grows (s : Client) {is : List Input} (calm : ∀ k ∈ is, k.Calm)
    (room : RoomKind) : s.listed room <+: (Machine.run (step env) s is).listed room := by
  induction is generalizing s with
  | nil => exact List.prefix_rfl
  | cons k more ih =>
    exact (step_listed_grows (calm k List.mem_cons_self) s room).trans
      (ih _ fun k member => calm k (List.mem_cons_of_mem _ member))

/-! ## From the event on -/

/-- The server answers the `n` attach requests that follow `s`, in any order, with
the handles `handle`. -/
structure Granted (env : Env) (s : Client) (n : Nat) (handle : Nat → Int) (is : List Input) :
    Prop where
  exact_ : ∀ k < n, Exact (handle k)
  answered : ∀ k < n, ∃ i ∈ is, ∃ reply, i.Answers .success (env.random (s.draws + k)) reply
  carries : ∀ k < n, ∀ i ∈ is, ∀ reply, i.Answers .success (env.random (s.draws + k)) reply →
    JanusPeerConnection.replyId reply = handle k

/-- The join of the `k`-th peer that an event made, on the handle `handle`. -/
def feedJoin (s : Client) (object : Json) (id handle : Int) : Int × Body :=
  (handle, .join s.janus.mVideoRoomID.toUInt32
    (.subscriber id (castDouble (JsonValueToLongLong object "private_id"))))

section
variable {object : Json} {k : Nat}

/-- Nobody else sends a join of a peer that is still to be made. -/
theorem Made.no_joins (made : Made s) (later : s.constructed ≤ p) : s.joins p = [] := by
  rw [Client.joins, List.filterMap_eq_nil_iff]
  rintro ⟨sender, m⟩ member
  rw [joinFrom?, if_neg]
  rintro rfl
  exact absurd (made.senders p m member) later.not_gt

/-- Attach requests are no joins. -/
theorem Subscribed.joins {ids : List Int} (subscribed : Subscribed env s ids s') (p : Ptr) :
    s'.joins p = s.joins p := by
  rw [Client.joins, subscribed.messages, List.filterMap_append, Client.joins]
  have none : ((List.range ids.length).map (attachMessage env s)).filterMap (joinFrom? p) = [] := by
    rw [List.filterMap_eq_nil_iff]
    intro sent member
    obtain ⟨k, -, rfl⟩ := List.mem_map.1 member
    simp [joinFrom?, attachMessage, Request.join?]
  rw [none, List.append_nil]

/-- The new peers are no administrative ones. -/
theorem Subscribed.unappointed {ids : List Int} (subscribed : Subscribed env (s.keyed object) ids s')
    (owned : Owned s) (k : Nat) (room : RoomKind) : s'.admin room ≠ some (s.constructed + k) := by
  intro holds
  have held : s.admin room = some (s.constructed + k) :=
    (subscribed.others.2 room).symm.trans holds
  have older : s.constructed + k < s.constructed := owned.older (Client.admin_holders held)
  omega

/-- After the event, each new peer awaits the reply to its own request. -/
theorem Subscribed.awaiting (subscribed : Subscribed env (s.keyed object) (newFeeds object) s')
    (owned : Owned s) (made : Made s) (distinct : s'.Distinct env)
    (early : k < (newFeeds object).length) :
    Awaiting (s.constructed + k) (env.random (s.draws + k))
      (subscriber env { s.keyed object with constructed := s.constructed + k }
        (newFeeds object)[k]) s' where
  waits := subscribed.waits distinct k early
  only key waits := by
    rcases subscribed.waiting key _ _ waits with before | ⟨k', -, same, drawn⟩
    · have older : s.constructed + k < s.constructed := made.awaited key _ _ before
      omega
    · have same : s.constructed + k = s.constructed + k' := same
      obtain rfl : k = k' := by omega
      exact drawn
  alive := ⟨_, subscribed.new k early, rfl, rfl, rfl⟩
  unappointed := subscribed.unappointed owned k
  joins := by
    rw [subscribed.joins]
    exact made.no_joins (Nat.le_add_right _ _)

/-- What the peer of the `k`-th feed joins with. -/
theorem joinBody_feed (small : ∀ id ∈ newFeeds object, id ≤ 2 ^ 53)
    (early : k < (newFeeds object).length) {handle : Int} (exact_ : Exact handle) :
    (castDouble handle, JanusPeerConnection.joinBody
      (subscriber env { s.keyed object with constructed := s.constructed + k }
        (newFeeds object)[k])) = feedJoin s object (newFeeds object)[k] handle := by
  have positive := newFeeds_pos (List.getElem_mem early)
  have below := small _ (List.getElem_mem early)
  have feed : (subscriber env { s.keyed object with constructed := s.constructed + k }
      (newFeeds object)[k]).mSubscribeId ≠ 0 := positive.ne'
  rw [JanusPeerConnection.joinBody, if_neg feed, castDouble_exact exact_, feedJoin]
  simp only [subscriber, castDouble_exact ⟨positive, below⟩, Client.keyed]

end

/-! ## When nothing but the replies comes -/

variable (env) in
/-- A reply makes nobody join but the peer it is for. -/
theorem step_bystander (older : p < s.constructed) {ts : Set String}
    (reply : ∃ t ∈ ts, ∃ object, i.Answers .success t object)
    (elsewhere : ∀ t ∈ ts, ¬ s.Joining p (.success, t)) : Aside p s (step env s i) := by
  obtain ⟨t, member, object, named⟩ := reply
  rcases step_aside env i older with ⟨kind, t', object', answer⟩ | aside
  · obtain ⟨rfl, rfl, -⟩ := Client.Answers_kind named answer.named
    exact absurd answer.waiting (elsewhere t member)
  · exact aside

variable (env) in
theorem run_bystander (older : p < s.constructed) {ts : Set String} {is : List Input}
    (replies : ∀ k ∈ is, ∃ t ∈ ts, ∃ object, k.Answers .success t object)
    (elsewhere : ∀ t ∈ ts, ¬ s.Joining p (.success, t)) :
    (Machine.run (step env) s is).joins p = s.joins p := by
  induction is generalizing s with
  | nil => rfl
  | cons k more ih =>
    have aside := step_bystander env older (replies k List.mem_cons_self) elsewhere
    rw [Machine.run_cons, ih (older.trans_le aside.constructed)
      (fun k member => replies k (List.mem_cons_of_mem _ member))
      fun t member waits => elsewhere t member (aside.joining _ waits)]
    exact aside.joins

variable (env) in
/-- Replies neither make peers nor change the lists. -/
theorem run_replies (s : Client) {is : List Input}
    (replies : ∀ k ∈ is, ∃ t object, k.Answers .success t object) :
    (Machine.run (step env) s is).constructed = s.constructed ∧
      ∀ room, (Machine.run (step env) s is).listed room = s.listed room := by
  induction is generalizing s with
  | nil => exact ⟨rfl, fun _ => rfl⟩
  | cons k more ih =>
    obtain ⟨t, object, reply⟩ := replies k List.mem_cons_self
    have rest := ih (step env s k) fun k member => replies k (List.mem_cons_of_mem _ member)
    have here : (step env s k).constructed = s.constructed ∧
        ∀ room, (step env s k).listed room = s.listed room := by
      rcases step_reply env s reply with answered | ignored
      · exact answered.same_peers
      · rw [ignored]
        exact ⟨rfl, fun _ => rfl⟩
    exact ⟨rest.1.trans here.1, fun room => (rest.2 room).trans (here.2 room)⟩

end

/-- **Every feed an event lists is joined once, on its own handle**, whatever the order
of the replies, and the list keeps the order of the array. When nothing but the
replies comes, nobody else joins and the list stays what the event made it. -/
theorem feeds_joined (env : Env) (js : List Input) (e : Input) (object : Json) (is : List Input)
    (handle : Nat → Int) (event : e.Tags "joined" object ∨ e.Tags "event" object)
    (distinct : (after env (js ++ e :: is)).Distinct env)
    (small : ∀ id ∈ newFeeds object, id ≤ 2 ^ 53)
    (granted : Granted env (after env js) (newFeeds object).length handle is)
    (calm : ∀ i ∈ is, i.Calm) :
    let s := after env js
    let t := after env (js ++ e :: is)
    let n := (newFeeds object).length
    (step env s e).messages = s.messages ++ (List.range n).map (attachMessage env s) ∧
      (∀ k (_ : k < n), t.joins (s.constructed + k) =
        [feedJoin s object (newFeeds object)[k] (handle k)]) ∧
      (step env s e).listed .video <+: t.listed .video ∧
      (unpublishedFeed object = 0 →
        (step env s e).listed .video = s.listed .video ++ (List.range n).map (s.constructed + ·)) ∧
      ((∀ i ∈ is, ∃ k < n, ∃ reply, i.Answers .success (env.random (s.draws + k)) reply) →
        t.listed .video = (step env s e).listed .video ∧
          ∀ p, (∀ k < n, p ≠ s.constructed + k) → t.joins p = s.joins p) := by
  intro s t n
  have owned : Owned s := owned_after env js
  have made : Made s := made_after env js
  have ends : t = Machine.run (step env) (step env s e) is := by
    simp [t, s, after]
  have distinctEnd : (Machine.run (step env) (step env s e) is).Distinct env := ends ▸ distinct
  have distinctEvent : (step env s e).Distinct env := distinctEnd.of_le (run_draws_le env _ is)
  have ledgered : Ledgered env s := ledgered_after js (distinctEvent.of_le (step_draws_le env s e))
  have subscribed : Subscribed env (s.keyed object) (newFeeds object) (step env s e) :=
    step_subscribed env s event
  have awaiting : ∀ k (early : k < n), Awaiting (s.constructed + k) (env.random (s.draws + k))
      (subscriber env { s.keyed object with constructed := s.constructed + k }
        (newFeeds object)[k]) (step env s e) :=
    fun k early => subscribed.awaiting owned made distinctEvent early
  refine ⟨subscribed.messages, fun k early => ?_, ?_, fun noFeed => ?_, fun replies => ?_⟩
  · have joined := (awaiting k early).run (owned.step e) (ledgered.stepped e distinctEvent)
      distinctEnd (fun i member => (calm i member).1) (newFeeds_pos (List.getElem_mem early)).ne'
      (granted.answered k early) (granted.carries k early)
    rw [ends, joined.joins]
    exact congrArg (fun join => [join]) (joinBody_feed small early (granted.exact_ k early))
  · rw [ends]
    exact run_listed_grows _ calm .video
  · rw [step_listed env s event, if_pos noFeed]
  · have answers : ∀ i ∈ is, ∃ t object, i.Answers .success t object := by
      intro i member
      obtain ⟨k, -, reply, named⟩ := replies i member
      exact ⟨_, reply, named⟩
    obtain ⟨constructed, listed⟩ := run_replies env (step env s e) answers
    refine ⟨by rw [ends, listed], fun p other => ?_⟩
    rw [ends]
    rcases Nat.lt_or_ge p (step env s e).constructed with older | later
    · let ts : Set String := {t | ∃ k < n, t = env.random (s.draws + k)}
      have answers : ∀ i ∈ is, ∃ t ∈ ts, ∃ object, i.Answers .success t object := by
        intro i member
        obtain ⟨k, early, reply, named⟩ := replies i member
        exact ⟨_, ⟨k, early, rfl⟩, reply, named⟩
      have elsewhere : ∀ t ∈ ts, ¬ (step env s e).Joining p (.success, t) := by
        rintro t ⟨k, early, rfl⟩ waits
        have bound := (awaiting k early).waits.symm.trans waits
        have same : s.constructed + k = p := by simpa using bound
        exact other k early same.symm
      rw [run_bystander env older answers elsewhere]
      exact subscribed.joins p
    · have madeEnd : Made (Machine.run (step env) (step env s e) is) := ends ▸ made_after env _
      have older : s.constructed ≤ (step env s e).constructed := by
        rw [subscribed.constructed]
        exact Nat.le_add_right _ _
      rw [madeEnd.no_joins (constructed ▸ later), made.no_joins (older.trans later)]

/-- Two feeds, and the reply to the second request comes first. -/
theorem feeds_joined_reversed :
    let joined := Server.event { tag := "joined", sender := 9, publishers := [11, 0, 12] }
    let replies := [Server.success (Env.sample.random 1) 6, Server.success (Env.sample.random 0) 5]
    (after Env.sample (joined :: replies)).joins 0 = [(5, .join 1234 (.subscriber 11 0))] ∧
      (after Env.sample (joined :: replies)).joins 1 = [(6, .join 1234 (.subscriber 12 0))] ∧
      (after Env.sample (joined :: replies)).listed .video = [0, 1] := by
  intro joined replies
  let e : Server.VideoEvent := { tag := "joined", sender := 9, publishers := [11, 0, 12] }
  have feeds : newFeeds e.object = [11, 12] := by decide +kernel
  have two : (newFeeds e.object).length = 2 := by rw [feeds]; rfl
  have different : Env.sample.random 0 ≠ Env.sample.random 1 := by decide +kernel
  have granted : Granted Env.sample (after Env.sample []) 2 (fun k => if k = 0 then 5 else 6)
      replies := by
    refine ⟨fun k early => ?_, fun k early => ?_, fun k early i member reply named => ?_⟩
    all_goals obtain rfl | rfl : k = 0 ∨ k = 1 := by omega
    · exact ⟨by decide, by decide⟩
    · exact ⟨by decide, by decide⟩
    · exact ⟨_, List.mem_cons_of_mem _ List.mem_cons_self, _, Server.success_answers.2 ⟨rfl, rfl, rfl⟩⟩
    · exact ⟨_, List.mem_cons_self, _, Server.success_answers.2 ⟨rfl, rfl, rfl⟩⟩
    all_goals
      obtain rfl | rfl : i = Server.success (Env.sample.random 1) 6 ∨
        i = Server.success (Env.sample.random 0) 5 := by simpa [replies] using member
    · exact absurd (Server.success_answers.1 named).2.1 different
    · rw [(Server.success_answers.1 named).2.2]
      exact Server.replyId_success (by decide) (by decide)
    · rw [(Server.success_answers.1 named).2.2]
      exact Server.replyId_success (by decide) (by decide)
    · exact absurd (Server.success_answers.1 named).2.1 different.symm
  have calm : ∀ i ∈ replies, i.Calm := by
    simp [replies, Server.success_calm]
  obtain ⟨-, joins, -, made, only⟩ := feeds_joined Env.sample [] joined e.object replies _
    (Or.inl ⟨e.reports, e.tag_object⟩) (sample_distinct (by decide +kernel))
    (by rw [feeds]; decide) (two ▸ granted) calm
  have replied : ∀ i ∈ replies, ∃ k < 2, ∃ reply,
      i.Answers .success (Env.sample.random ((after Env.sample []).draws + k)) reply := by
    intro i member
    obtain rfl | rfl : i = Server.success (Env.sample.random 1) 6 ∨
      i = Server.success (Env.sample.random 0) 5 := by simpa [replies] using member
    · exact ⟨1, by decide, _, Server.success_answers.2 ⟨rfl, rfl, rfl⟩⟩
    · exact ⟨0, by decide, _, Server.success_answers.2 ⟨rfl, rfl, rfl⟩⟩
  have start : (after Env.sample []).constructed = 0 := rfl
  have join : ∀ id h, feedJoin (after Env.sample []) e.object id h =
      (h, .join 1234 (.subscriber id 0)) := by
    have key : castDouble (JsonValueToLongLong e.object "private_id") = 0 := by decide +kernel
    have room : (after Env.sample []).janus.mVideoRoomID.toUInt32 = 1234 := by decide +kernel
    intro id h
    rw [feedJoin, key, room]
  have made := made (by decide +kernel)
  have listed : (after Env.sample []).listed .video = [] := rfl
  simp only [start, join, feeds, listed] at joins made only
  exact ⟨joins 0 (by decide), joins 1 (by decide), (only replied).1.trans made⟩

end WebrtcDemo
