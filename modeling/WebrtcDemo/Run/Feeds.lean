import WebrtcDemo.Run.Publishers

/-!
# The feeds subscribed to

What the video list holds, as far as feeds go, is a plain register of numbers: an
event enters the feeds it lists and then strikes out one occurrence of the feed it
unpublishes, leaving empties the register, and nothing else touches it. Since one
occurrence is struck out, and entering does not look whether a feed is there
already, the register holds a feed at most once exactly as long as every feed
entered is new.
-/

namespace WebrtcDemo

open JanusVideoRoomManager (construct subscriber)

/-! ## The register -/

/-- Striking out one occurrence leaves none, and no other number twice, if and only
if no number was there twice. -/
theorem nodup_erase_iff {α : Type*} [DecidableEq α] {list : List α} {gone : α} :
    (list.erase gone).Nodup ∧ gone ∉ list.erase gone ↔ list.Nodup := by
  constructor
  · rintro ⟨once, none⟩
    by_cases member : gone ∈ list
    · exact (List.perm_cons_erase member).nodup_iff.2 (List.nodup_cons.2 ⟨none, once⟩)
    · rwa [List.erase_of_not_mem member] at once
  · intro once
    exact ⟨once.erase gone, once.not_mem_erase⟩

/-- The event that an input publishes feeds with, if it is one. -/
def Input.publication? : Input → Option Json
  | .receivedMessage (some object) =>
    if object.text "janus" = "event" ∧
        (videoRoomTag object = some "joined" ∨ videoRoomTag object = some "event") then some object
    else none
  | _ => none

/-- What an input does to the register. -/
def Input.register (i : Input) (feeds : List Int) : List Int :=
  match i.publication? with
  | some object => (feeds ++ newFeeds object).erase (unpublishedFeed object)
  | none => if i.leaves? = some .video then [] else feeds

/-- The feed of a peer, 0 for none. -/
def Client.feedOf (s : Client) (p : Ptr) : Int := (s.peers p).elim 0 (·.mSubscribeId)

/-- The feeds that the peers of the video list are subscribed to. -/
def Client.feeds (s : Client) : List Int := ((s.listed .video).map s.feedOf).filter (0 < ·)

/-- How many peers of the video list are subscribed to `u`. -/
def Client.subscribers (s : Client) (u : Int) : Nat :=
  (s.listed .video).countP fun p => (s.peers p).any (·.mSubscribeId == u)

section
variable {env : Env} {i : Input} {s s' : Client} {object : Json}

theorem Input.publication?_iff :
    i.publication? = some object ↔ i.Tags "joined" object ∨ i.Tags "event" object := by
  constructor
  · intro publishes
    rcases i with _ | _ | ⟨_ | object'⟩ <;> simp only [Input.publication?, reduceCtorEq] at publishes
    split_ifs at publishes with event
    obtain rfl : object' = object := Option.some.inj publishes
    rcases event with ⟨isEvent, joined | tagged⟩
    · exact Or.inl ⟨⟨rfl, isEvent⟩, joined⟩
    · exact Or.inr ⟨⟨rfl, isEvent⟩, tagged⟩
  · rintro (⟨⟨rfl, isEvent⟩, tagged⟩ | ⟨⟨rfl, isEvent⟩, tagged⟩) <;>
      simp [Input.publication?, isEvent, tagged]

theorem subscribed_to_iff {p : Ptr} {u : Int} (positive : u ≠ 0) :
    ((s.peers p).any fun peer => peer.mSubscribeId == u) = (s.feedOf p == u) := by
  rcases alive : s.peers p with _ | x
  · simp [Client.feedOf, alive, positive.symm]
  · simp [Client.feedOf, alive]

/-- The register counts the subscribers. -/
theorem Client.subscribers_eq {u : Int} (positive : 0 < u) :
    s.subscribers u = s.feeds.count u := by
  rw [Client.feeds, List.count_filter (by simpa using positive), List.count, List.countP_map,
    Client.subscribers]
  congr 1
  funext p
  exact subscribed_to_iff positive.ne'

theorem Client.feeds_positive {u : Int} (member : u ∈ s.feeds) : 0 < u := by
  simpa using (List.mem_filter.1 member).2

/-- Every feed has at most one subscriber if and only if the register has no
number twice. -/
theorem Client.subscribers_le_one_iff : (∀ u > 0, s.subscribers u ≤ 1) ↔ s.feeds.Nodup := by
  rw [List.nodup_iff_count_le_one]
  constructor
  · intro few u
    by_cases member : u ∈ s.feeds
    · rw [← Client.subscribers_eq (Client.feeds_positive member)]
      exact few u (Client.feeds_positive member)
    · simp [List.count_eq_zero.2 member]
  · intro few u positive
    rw [Client.subscribers_eq positive]
    exact few u

/-! ## What leaves the register alone -/

theorem feeds_keep (listed : s'.listed .video = s.listed .video)
    (same : ∀ p ∈ s.listed .video, s'.feedOf p = s.feedOf p) : s'.feeds = s.feeds := by
  rw [Client.feeds, listed, List.map_congr_left same, Client.feeds]

theorem feeds_same (listed : s'.listed .video = s.listed .video) (peers : s'.peers = s.peers) :
    s'.feeds = s.feeds :=
  feeds_keep listed fun p _ => by simp [Client.feedOf, peers]

/-- Writing a peer does not change its feed. -/
theorem feeds_written {p : Ptr} {x w : JanusPeerConnection} (alive : s.peers p = some x)
    (listed : s'.listed .video = s.listed .video)
    (peers : s'.peers = Function.update s.peers p (some w))
    (feed : w.mSubscribeId = x.mSubscribeId) : s'.feeds = s.feeds := by
  refine feeds_keep listed fun q _ => ?_
  rcases eq_or_ne q p with rfl | other
  · simp [Client.feedOf, peers, alive, feed]
  · simp [Client.feedOf, peers, Function.update_of_ne other]

theorem Owned.feedOf_update (owned : Owned s) (x : JanusPeerConnection)
    (peers : s'.peers = Function.update s.peers s.constructed (some x)) :
    ∀ p ∈ s.listed .video, s'.feedOf p = s.feedOf p := by
  intro p member
  have older := owned.older (Client.listed_holders member)
  rw [Client.feedOf, peers, Function.update_of_ne older.ne, Client.feedOf]

/-- An input that is no event, and does not leave, has no transition that enters or
strikes out a feed. -/
theorem Transition.feeds (owned : Owned s) (silent : ∀ object, ¬ i.Reports object)
    (stays : i.leaves? ≠ some .video) (taken : Transition env i s s') : s'.feeds = s.feeds := by
  cases taken with
  | quiet same => exact feeds_same (same.listed .video) same.peers
  | drawn => rfl
  | settings => rfl
  | manage => exact feeds_same (by simp) (by simp)
  | attach room peer _ _ feed =>
    have old : ∀ p ∈ s.listed .video, (s.attachNew env room peer).feedOf p = s.feedOf p :=
      owned.feedOf_update peer (by simp)
    rcases feed with none | ⟨-, -, object, event, -⟩
    · cases room with
      | text => exact feeds_keep (by simp [Client.attachNew_listed]) old
      | video =>
        have new : (s.attachNew env .video peer).feedOf s.constructed = 0 := by
          simp [Client.feedOf, none]
        rw [Client.feeds, Client.attachNew_listed, if_pos rfl, List.map_append,
          List.map_congr_left old, List.filter_append, Client.feeds]
        simp [new]
    · exact absurd event (silent object)
  | appoint room peer =>
    exact feeds_keep (by simp) (owned.feedOf_update peer (by simp))
  | administer _ _ alive =>
    exact feeds_written alive (by simp) (by simp; rfl) (by simp)
  | lost => rfl
  | unlist cause =>
    obtain ⟨object, event, -⟩ := cause
    exact absurd event (silent object)
  | leave room leaves =>
    cases room with
    | video => exact absurd leaves stays
    | text =>
      refine feeds_keep (by simp [Client.leave_listed]) fun p member => ?_
      have apart : p ∉ s.listed .text := by
        have once := owned.once
        intro both
        grind [Client.holders]
      rw [Client.feedOf, owned.leave_peers, Client.feedOf]
      simp [apart]
  | speak => exact feeds_same (by simp) (by simp)

theorem Reply.feeds (answered : Reply env i s s') : s'.feeds = s.feeds := by
  have listed := answered.same_peers.2 .video
  cases answered with
  | session => exact feeds_same listed (by simp [JanusVideoRoomManager.onCreateSessionId])
  | heartBeat => exact feeds_same listed (by simp [JanusVideoRoomManager.onHeartBeat, Client.emit])
  | dead => exact feeds_same listed (by simp)
  | joined room answer alive => exact feeds_written alive listed (by simp; rfl) (by simp)
  | admin todo _ answer alive => exact feeds_written alive listed (by simp; rfl) (by simp)
  | outcome _ _ _ same => exact feeds_same listed (by simp [same.peers])

/-- An event with another tag is quiet. -/
theorem step_untagged (event : i.Reports object) (other : i.publication? = none) :
    Quiet i s (step env s i) := by
  have silent : ¬ (i.Tags "joined" object ∨ i.Tags "event" object) := fun tags => by
    simp [Input.publication?_iff.2 tags] at other
  rcases step_event_cases env s event with
    ⟨tag, -⟩ | ⟨-, same⟩ | ⟨tag, -⟩ | ⟨-, same⟩ | same
  · exact absurd (Or.inl ⟨event, tag⟩) silent
  · rw [same]
    exact onVideoRoomEventSdp_quiet event false
  · exact absurd (Or.inr ⟨event, tag⟩) silent
  · rw [same]
    exact onVideoRoomEventSdp_quiet event true
  · rw [same]
    exact Quiet.refl i s

/-! ## The list refines the register -/

/-- Striking out the first subscriber of a feed strikes out the feed. -/
theorem map_eraseP_feeds (list : List Ptr) {u : Int} (nonzero : u ≠ 0) :
    ((list.eraseP fun p => (s.peers p).any fun peer => peer.mSubscribeId == u).map s.feedOf) =
      (list.map s.feedOf).erase u := by
  rw [List.erase_eq_eraseP', List.eraseP_map]
  congr 2
  funext p
  exact subscribed_to_iff nonzero

/-- The feeds of the peers an event makes. -/
theorem Subscribed.feeds_new {ids : List Int} (subscribed : Subscribed env s ids s') :
    ((List.range ids.length).map (s.constructed + ·)).map s'.feedOf = ids := by
  refine List.ext_getElem (by simp) fun k early early' => ?_
  simp [Client.feedOf, subscribed.new k early', subscriber]

/-- An event enters the feeds it lists and strikes out the one it unpublishes. -/
theorem step_publication (owned : Owned s) (publishes : i.publication? = some object) :
    (step env s i).feeds = (s.feeds ++ newFeeds object).erase (unpublishedFeed object) := by
  have event := Input.publication?_iff.1 publishes
  have subscribed : Subscribed env (s.keyed object) (newFeeds object) (step env s i) :=
    step_subscribed env s event
  have old : (s.listed .video).map (step env s i).feedOf = (s.listed .video).map s.feedOf := by
    refine List.map_congr_left fun p member => ?_
    have older := owned.older (Client.listed_holders member)
    have same : (step env s i).peers p = s.peers p := subscribed.old p older
    simp [Client.feedOf, same]
  have new : ((List.range (newFeeds object).length).map (s.constructed + ·)).map
      (step env s i).feedOf = newFeeds object := subscribed.feeds_new
  have positive : (newFeeds object).filter (0 < ·) = newFeeds object := by
    simp [newFeeds]
  have all : ((s.listed .video ++ (List.range (newFeeds object).length).map (s.constructed + ·)).map
      (step env s i).feedOf).filter (0 < ·) = s.feeds ++ newFeeds object := by
    rw [List.map_append, old, new, List.filter_append, positive, Client.feeds]
  rw [Client.feeds, step_listed env s event]
  dsimp only
  split_ifs with nothing
  · rw [all, nothing, List.erase_of_not_mem]
    intro member
    rw [← all] at member
    simpa using (List.mem_filter.1 member).2
  · rw [map_eraseP_feeds _ nothing, ← List.erase_filter, all]

variable (env) in
/-- **The video list refines the register**, step by step. -/
theorem step_feeds (owned : Owned s) (i : Input) : (step env s i).feeds = i.register s.feeds := by
  rw [Input.register]
  split
  · next object publishes => exact step_publication owned publishes
  · next other =>
    split_ifs with leaves
    · obtain ⟨t, -, stepped⟩ : ∃ t, Quiet i s t ∧ step env s i = t.leave .video := step_leaves leaves
      rw [stepped, Client.feeds, Client.leave_listed]
      rfl
    · by_cases event : ∃ object, i.Reports object
      · obtain ⟨object, event⟩ := event
        have same : Quiet i s (step env s i) := step_untagged event other
        exact feeds_same (same.listed .video) same.peers
      · have kept : Owned (step env s i) ∧ (step env s i).feeds = s.feeds :=
          (step_decomposes env).keeps (P := fun t : Client => Owned t ∧ t.feeds = s.feeds)
            (fun _ _ answered kept => ⟨kept.1.reply answered, answered.feeds.trans kept.2⟩)
            (fun _ _ taken kept => ⟨kept.1.transition taken,
              (taken.feeds kept.1 (not_exists.1 event) leaves).trans kept.2⟩) ⟨owned, rfl⟩
        exact kept.2

end

/-! ## One subscriber for a feed -/

/-- Every feed is subscribed to at most once. -/
def SubscribedOnce (s : Client) : Prop := ∀ u > 0, s.subscribers u ≤ 1

/-- The feed that an event unpublishes has no subscriber after it. -/
def Unsubscribes (env : Env) (s : Client) (i : Input) : Prop :=
  ∀ object, i.Tags "event" object → 0 < unpublishedFeed object →
    (step env s i).subscribers (unpublishedFeed object) = 0

/-- The feeds an event lists are all different, and none is subscribed to yet. -/
def Anew (s : Client) (i : Input) : Prop :=
  ∀ object, i.Tags "joined" object ∨ i.Tags "event" object →
    (newFeeds object).Nodup ∧ ∀ u ∈ newFeeds object, s.subscribers u = 0

/-- A number struck out of the register of positive numbers, 0 or less for none. -/
theorem nodup_struck_iff {feeds : List Int} (positive : ∀ v ∈ feeds, 0 < v) (u : Int) :
    (feeds.erase u).Nodup ∧ (0 < u → u ∉ feeds.erase u) ↔ feeds.Nodup := by
  by_cases struck : 0 < u
  · have erased : (feeds.erase u).Nodup ∧ u ∉ feeds.erase u ↔ feeds.Nodup := nodup_erase_iff
    simpa [struck] using erased
  · have absent : u ∉ feeds := fun member => struck (positive u member)
    simp [struck, List.erase_of_not_mem absent]

section
variable {env : Env} {i : Input} {s : Client} {object : Json}

theorem Client.subscribers_zero_iff {u : Int} (positive : 0 < u) :
    s.subscribers u = 0 ↔ u ∉ s.feeds := by
  rw [Client.subscribers_eq positive, List.count_eq_zero]

/-- The publications of one input are one. -/
theorem Input.publication?_only (publishes : i.publication? = some object) {object' : Json}
    (event : i.Tags "joined" object' ∨ i.Tags "event" object') : object' = object :=
  Option.some.inj ((Input.publication?_iff.2 event).symm.trans publishes)

theorem unsubscribes_iff (publishes : i.publication? = some object) :
    Unsubscribes env s i ↔ (0 < unpublishedFeed object →
      unpublishedFeed object ∉ (step env s i).feeds) := by
  constructor
  · intro done struck
    have event : i.Tags "event" object := by
      rcases Input.publication?_iff.1 publishes with joined | event
      · simp [unpublishedFeed, joined.2] at struck
      · exact event
    exact (Client.subscribers_zero_iff struck).1 (done object event struck)
  · intro gone object' event struck
    obtain rfl := Input.publication?_only publishes (Or.inr event)
    exact (Client.subscribers_zero_iff struck).2 (gone struck)

theorem anew_iff (publishes : i.publication? = some object) (nodup : s.feeds.Nodup) :
    Anew s i ↔ (s.feeds ++ newFeeds object).Nodup := by
  have one : Anew s i ↔ (newFeeds object).Nodup ∧ ∀ u ∈ newFeeds object, s.subscribers u = 0 := by
    constructor
    · exact fun anew => anew object (Input.publication?_iff.1 publishes)
    · intro fresh object' event
      rwa [Input.publication?_only publishes event]
  rw [one, List.nodup_append']
  constructor
  · rintro ⟨different, absent⟩
    exact ⟨nodup, different, fun u old new =>
      (Client.subscribers_zero_iff (newFeeds_pos new)).1 (absent u new) old⟩
  · rintro ⟨-, different, apart⟩
    exact ⟨different, fun u new =>
      (Client.subscribers_zero_iff (newFeeds_pos new)).2 fun old => apart old new⟩

/-- A step keeps every feed subscribed to at most once, and strikes out the only
subscriber of an unpublished one, if and only if the feeds it enters are new. -/
theorem subscribedOnce_step_iff (i : Input) (owned : Owned s) (once : SubscribedOnce s) :
    SubscribedOnce (step env s i) ∧ Unsubscribes env s i ↔ Anew s i := by
  have nodup : s.feeds.Nodup := Client.subscribers_le_one_iff.1 once
  have refined := step_feeds env owned i
  rw [SubscribedOnce, Client.subscribers_le_one_iff]
  rcases publishes : i.publication? with _ | object
  · have silent : ∀ object, ¬ (i.Tags "joined" object ∨ i.Tags "event" object) :=
      fun object event => by simp [Input.publication?_iff.2 event] at publishes
    have fresh : Anew s i := fun object event => absurd event (silent object)
    have done : Unsubscribes env s i := fun object event => absurd (Or.inr event) (silent object)
    have kept : (step env s i).feeds.Nodup := by
      rw [refined, Input.register, publishes]
      dsimp only
      split_ifs
      · exact List.nodup_nil
      · exact nodup
    exact ⟨fun _ => fresh, fun _ => ⟨kept, done⟩⟩
  · have entered : (step env s i).feeds =
        (s.feeds ++ newFeeds object).erase (unpublishedFeed object) := by
      rw [refined, Input.register, publishes]
    have positive : ∀ v ∈ s.feeds ++ newFeeds object, 0 < v := by
      intro v member
      rcases List.mem_append.1 member with old | new
      · exact Client.feeds_positive old
      · exact newFeeds_pos new
    rw [unsubscribes_iff publishes, anew_iff publishes nodup, entered]
    exact nodup_struck_iff positive _

end

/-- **A feed has one subscriber at most, and none once it is unpublished,** in exactly
the runs whose events list only feeds that are new. -/
theorem subscribedOnce_iff (env : Env) (is : List Input) :
    Machine.Throughout (step env) SubscribedOnce (Client.initial env) is ∧
      Machine.Along (step env) (Unsubscribes env) (Client.initial env) is ↔
      Machine.Along (step env) Anew (Client.initial env) is :=
  Machine.throughout_and_along_iff (Q := Owned) (fun _ i owned => owned.step i)
    (fun _ i _ owned once => subscribedOnce_step_iff i owned once) owned_initial
    fun u _ => by simp [Client.initial, Client.subscribers, Client.listed]

/-- A feed announced twice is subscribed to twice, and one subscriber outlives it. -/
theorem announced_twice_stays : ¬ ∀ (env : Env) (is : List Input),
    (∀ i ∈ is, (∃ room name, i = .joinVideoRoom room name) ∨
      ∃ object, i.Tags "joined" object ∨ i.Tags "event" object) →
    Machine.Throughout (step env) SubscribedOnce (Client.initial env) is ∧
      Machine.Along (step env) (Unsubscribes env) (Client.initial env) is := by
  intro always
  let joined : Server.VideoEvent := { tag := "joined", sender := 7, publishers := [5] }
  let again : Server.VideoEvent := { tag := "event", sender := 7, publishers := [5] }
  have kinds : ∀ i ∈ [Server.event joined, Server.event again],
      (∃ room name, i = .joinVideoRoom room name) ∨
        ∃ object, i.Tags "joined" object ∨ i.Tags "event" object := by
    intro i member
    obtain rfl | rfl : i = Server.event joined ∨ i = Server.event again := by simpa using member
    · exact Or.inr ⟨_, Or.inl ⟨joined.reports, joined.tag_object⟩⟩
    · exact Or.inr ⟨_, Or.inr ⟨again.reports, again.tag_object⟩⟩
  have once := (always Env.sample _ kinds).1.last
  have twice : (after Env.sample [Server.event joined, Server.event again]).subscribers 5 = 2 := by
    decide +kernel
  exact absurd (once 5 (by decide)) (by rw [twice]; decide)

end WebrtcDemo
