import WebrtcDemo.Client.Logout
import WebrtcDemo.Run.Feeds

/-!
# No peer is lost

What holds a peer holds a live one (`Owned`). The other way round, a live peer is held as
long as no event takes one out of the video list: unpublishing a feed unlists its subscriber
and forgets it, where leaving a room deletes what it unlists. The destructor of the manager
deletes what is held, so it deletes every peer exactly as long as none was forgotten.
-/

namespace WebrtcDemo

open JanusVideoRoomManager (construct subscriber)

/-- Every live peer is held. -/
def AllHeld (s : Client) : Prop := ∀ p, (s.peers p).isSome → p ∈ s.holders

/-- Every live peer is held by exactly one holder, every holder holds a live peer, and the
destructor of the manager deletes each of them and none that is gone. -/
structure Held (s : Client) : Prop where
  one : ∀ p, (s.peers p).isSome → s.holders.count p = 1
  live : ∀ p ∈ s.holders, (s.peers p).isSome
  deleted : ∀ p, (JanusVideoRoomManager.destructor s).peers p = none
  once : (JanusVideoRoomManager.destructor { s with fault := none }).fault = none

/-- The event unpublishes a feed that a listed peer is subscribed to, or that it publishes
itself. -/
def Forgets (s : Client) (i : Input) : Prop :=
  ∃ object, i.Tags "event" object ∧ unpublishedFeed object ≠ 0 ∧
    (s.subscribers (unpublishedFeed object) ≠ 0 ∨ unpublishedFeed object ∈ newFeeds object)

section
variable {env : Env} {i : Input} {s s' : Client} {object : Json} {p : Ptr}

/-! ## The destructor -/

/-- The administrative peer of a kind of rooms is deleted. -/
def Client.dismiss (s : Client) (room : RoomKind) : Client :=
  let s := JanusVideoRoomManager.deletePeers s (s.admin room).toList
  match room with
  | .video => { s with janus := { s.janus with pCreateVideoRoomPeer := none } }
  | .text => { s with janus := { s.janus with pCreateTextRoomPeer := none } }

theorem Owned.dismiss_eq (owned : Owned s) (room : RoomKind) :
    JanusVideoRoomManager.deletePeers s (s.admin room).toList =
      { s with peers := fun p => if p ∈ (s.admin room).toList then none else s.peers p } := by
  apply deletePeers_eq
  · cases s.admin room <;> simp
  · exact fun p member => owned.live p (Client.admin_holders (Option.mem_toList.1 member))

theorem Owned.dismiss_peers (owned : Owned s) (room : RoomKind) :
    (s.dismiss room).peers = fun p => if s.admin room = some p then none else s.peers p := by
  unfold Client.dismiss
  rw [owned.dismiss_eq]
  cases room <;> simp

theorem Owned.dismiss_fault (owned : Owned s) (room : RoomKind) :
    (s.dismiss room).fault = s.fault := by
  unfold Client.dismiss
  rw [owned.dismiss_eq]
  cases room <;> rfl

theorem Owned.dismiss_listed (owned : Owned s) (room room' : RoomKind) :
    (s.dismiss room).listed room' = s.listed room' := by
  unfold Client.dismiss
  rw [owned.dismiss_eq]
  cases room <;> cases room' <;> rfl

theorem Owned.dismiss_admin (owned : Owned s) (room room' : RoomKind) :
    (s.dismiss room).admin room' = if room' = room then none else s.admin room' := by
  unfold Client.dismiss
  rw [owned.dismiss_eq]
  cases room <;> cases room' <;> rfl

theorem Owned.dismiss_constructed (owned : Owned s) (room : RoomKind) :
    (s.dismiss room).constructed = s.constructed := by
  unfold Client.dismiss
  rw [owned.dismiss_eq]
  cases room <;> rfl

/-- What is left is held by the others. -/
theorem Owned.dismiss (owned : Owned s) (room : RoomKind) : Owned (s.dismiss room) := by
  refine owned.discard (owned.dismiss_constructed room) (owned.dismiss_peers room) ?_
    fun p held => ?_
  · cases room <;> simp [Client.holders, owned.dismiss_listed, owned.dismiss_admin]
  · have once := owned.once
    cases room <;> grind [Client.holders, Owned.dismiss_listed, Owned.dismiss_admin]

/-- What is held, and nothing else, is deleted. -/
theorem Owned.destructor (owned : Owned s) :
    (∀ p, (JanusVideoRoomManager.destructor s).peers p = if p ∈ s.holders then none else s.peers p) ∧
      (JanusVideoRoomManager.destructor s).fault = s.fault := by
  have video := owned.leave .video
  have text := video.leave .text
  have admin := text.dismiss .video
  constructor
  · intro p
    show ((((s.leave .video).leave .text).dismiss .video).dismiss .text).peers p = _
    rw [admin.dismiss_peers, text.dismiss_peers, video.leave_peers, owned.leave_peers]
    simp only [text.dismiss_admin, Client.leave_admin, Client.leave_listed, Client.holders,
      List.mem_append, Option.mem_toList]
    grind
  · show ((((s.leave .video).leave .text).dismiss .video).dismiss .text).fault = _
    rw [admin.dismiss_fault, text.dismiss_fault, video.leave_fault, owned.leave_fault]

theorem held_iff (owned : Owned s) : Held s ↔ AllHeld s := by
  have clear : Owned { s with fault := none } :=
    owned.keep rfl (fun _ => Iff.rfl) (List.Sublist.refl _)
  constructor
  · intro held p lives
    apply List.count_pos_iff.1
    rw [held.one p lives]
    exact Nat.one_pos
  · intro all
    refine ⟨fun p lives => List.count_eq_one_of_mem owned.once (all p lives), owned.live,
      fun p => ?_, clear.destructor.2⟩
    rw [owned.destructor.1]
    split_ifs with holds
    · rfl
    · exact Option.not_isSome_iff_eq_none.1 fun lives => holds (all p lives)

/-! ## Who is not forgotten -/

/-- What makes no peer, or holds the ones it makes. -/
theorem AllHeld.keep (all : AllHeld s)
    (alive : ∀ p, (s'.peers p).isSome → (s.peers p).isSome ∨ p ∈ s'.holders)
    (holders : s.holders ⊆ s'.holders) : AllHeld s' := by
  intro p lives
  rcases alive p lives with before | held
  · exact holders (all p before)
  · exact held

theorem AllHeld.same (all : AllHeld s) (peers : s'.peers = s.peers)
    (holders : s'.holders = s.holders) : AllHeld s' :=
  all.keep (fun _ lives => Or.inl (peers ▸ lives)) (List.Perm.of_eq holders.symm).subset

theorem AllHeld.quiet (all : AllHeld s) (same : Quiet i s s') : AllHeld s' :=
  all.same same.peers (by simp [Client.holders, same.listed, same.admin])

theorem AllHeld.written (all : AllHeld s) {x w : JanusPeerConnection} (alive : s.peers p = some x)
    (peers : s'.peers = Function.update s.peers p (some w))
    (holders : s'.holders = s.holders) : AllHeld s' := by
  refine all.keep (fun q lives => Or.inl ?_) (List.Perm.of_eq holders.symm).subset
  by_cases same : q = p
  · subst same
    simp [alive]
  · rwa [peers, Function.update_of_ne same] at lives

/-- A new object under a new holder. -/
theorem AllHeld.adopt (all : AllHeld s) {x : JanusPeerConnection}
    (peers : s'.peers = Function.update s.peers s.constructed (some x))
    (one : s'.holders.Perm (s.constructed :: s.holders)) : AllHeld s' := by
  refine all.keep (fun p lives => ?_) fun p held => one.symm.subset (List.mem_cons_of_mem _ held)
  by_cases new : p = s.constructed
  · subst new
    exact Or.inr (one.symm.subset List.mem_cons_self)
  · rw [peers, Function.update_of_ne new] at lives
    exact Or.inl lives

/-- Who leaves is deleted. -/
theorem AllHeld.leave (all : AllHeld s) (owned : Owned s) (room : RoomKind) :
    AllHeld (s.leave room) := by
  intro p lives
  rw [owned.leave_peers] at lives
  dsimp only at lives
  split_ifs at lives with listed
  · simp at lives
  · have held := all p lives
    cases room <;> grind [Client.holders, Client.leave_listed, Client.leave_admin]

theorem AllHeld.transition (all : AllHeld s) (owned : Owned s)
    (silent : ∀ object, ¬ i.Reports object) (taken : Transition env i s s') : AllHeld s' := by
  cases taken with
  | quiet same => exact all.quiet same
  | drawn => exact all.same rfl rfl
  | settings => exact all.same rfl rfl
  | manage => exact all.same (by simp) (by simp [Client.holders])
  | attach room peer => exact all.adopt (x := peer) (by simp) (Client.attachNew_holders room peer)
  | appoint room peer vacant =>
    refine all.adopt (x := peer) (by simp) ?_
    have vacant' : (construct s peer).admin room = none := by simpa using vacant
    simpa [Client.holders] using Client.appoint_holders vacant' s.constructed
  | administer _ _ alive => exact all.written alive (by simp; rfl) (by simp [Client.holders])
  | lost => exact all.same rfl rfl
  | unlist cause =>
    obtain ⟨object, event, -⟩ := cause
    exact absurd event (silent object)
  | leave room => exact all.leave owned room
  | speak => exact all.same (by simp) (by simp [Client.holders])

theorem AllHeld.reply (all : AllHeld s) (answered : Reply env i s s') : AllHeld s' := by
  have taken (kind t func object) : AllHeld (s.take kind t func object) :=
    all.same (by simp) (by simp [Client.holders])
  cases answered with
  | session => exact (taken _ _ _ _).same rfl rfl
  | heartBeat => exact (taken _ _ _ _).same rfl rfl
  | dead => exact (taken _ _ _ _).same rfl rfl
  | joined room answer alive => exact all.written alive (by simp; rfl) (by simp [Client.holders])
  | admin todo _ answer alive => exact all.written alive (by simp; rfl) (by simp [Client.holders])
  | outcome _ _ _ same => exact (taken _ _ _ _).quiet same

/-! ## Who is forgotten -/

/-- A peer just made is one more subscriber of its feed. -/
theorem Owned.attachFeed_subscribers (owned : Owned s) (id u : Int) :
    (attachFeed env s id).subscribers u = s.subscribers u + if id = u then 1 else 0 := by
  have old : ∀ p ∈ s.listed .video, (attachFeed env s id).peers p = s.peers p := by
    intro p member
    have older := owned.older (Client.listed_holders member)
    rw [attachFeed, Client.attachNew_peers, Function.update_of_ne older.ne]
  have new : (attachFeed env s id).peers s.constructed = some (subscriber env s id) := by
    simp [attachFeed]
  have listed : (attachFeed env s id).listed .video = s.listed .video ++ [s.constructed] := by
    rw [attachFeed, Client.attachNew_listed, if_pos rfl]
  unfold Client.subscribers
  rw [listed, List.countP_append, List.countP_singleton, new]
  congr 1
  · exact List.countP_congr fun p member => by rw [old p member]
  · simp [subscriber]

theorem attachFeed_owned (owned : Owned s) (id : Int) : Owned (attachFeed env s id) :=
  owned.adopt (x := subscriber env s id) (by simp [attachFeed]) (by simp [attachFeed])
    (Client.attachNew_holders .video _)

theorem AllHeld.attachFeed (all : AllHeld s) (id : Int) : AllHeld (attachFeed env s id) :=
  all.adopt (x := subscriber env s id) (by simp [WebrtcDemo.attachFeed])
    (Client.attachNew_holders .video _)

variable (env) in
/-- The peers of the loop are held. -/
theorem AllHeld.attachFeeds (all : AllHeld s) (owned : Owned s) (u : Int) (ids : List Int) :
    AllHeld (ids.foldl (WebrtcDemo.attachFeed env) s) ∧
      Owned (ids.foldl (WebrtcDemo.attachFeed env) s) ∧
      (ids.foldl (WebrtcDemo.attachFeed env) s).subscribers u = s.subscribers u + ids.count u := by
  induction ids generalizing s with
  | nil => exact ⟨all, owned, rfl⟩
  | cons id more ih =>
    obtain ⟨held, owns, counted⟩ := ih (all.attachFeed id) (attachFeed_owned owned id)
    refine ⟨held, owns, ?_⟩
    rw [List.foldl_cons, counted, owned.attachFeed_subscribers, List.count_cons]
    simp only [beq_iff_eq]
    omega

/-- Unlisting a subscriber forgets it. -/
theorem allHeld_removeFeed_iff (all : AllHeld s) (owned : Owned s) {u : Int} (nonzero : u ≠ 0) :
    AllHeld (s.removeFeed u) ↔ s.subscribers u = 0 := by
  have others : ∀ room, (s.removeFeed u).admin room = s.admin room :=
    fun room => Client.removeFeed_admin room
  have list : (s.removeFeed u).listed .video = (s.listed .video).eraseP fun p =>
      (s.peers p).any fun peer => peer.mSubscribeId == u := if_neg nonzero
  have text : (s.removeFeed u).listed .text = s.listed .text := rfl
  by_cases none : s.subscribers u = 0
  · have same : (s.removeFeed u).holders = s.holders := by
      rw [Client.holders, list, text, others, others, Client.holders,
        List.eraseP_of_forall_not (List.countP_eq_zero.1 none)]
    exact ⟨fun _ => none, fun _ => all.same rfl same⟩
  · obtain ⟨p, member, subscribed⟩ := List.countP_pos_iff.1 (Nat.pos_of_ne_zero none)
    obtain ⟨q, front, back, -, found, split, erased⟩ := List.exists_of_eraseP (p := fun p => (s.peers p).any (·.mSubscribeId == u)) member subscribed
    have lives : (s.peers q).isSome := by
      cases state : s.peers q <;> simp [state] at found ⊢
    have once := owned.once
    have lost : q ∉ (s.removeFeed u).holders := by
      rw [Client.holders, split] at once
      rw [Client.holders, list, erased, text, others, others]
      grind
    exact ⟨fun held => absurd (held q lives) lost, fun zero => absurd zero none⟩

variable (env) in
/-- **A step forgets a peer if and only if it unpublishes its feed.** -/
theorem allHeld_step_iff (owned : Owned s) (all : AllHeld s) (i : Input) :
    AllHeld (step env s i) ↔ ¬ Forgets s i := by
  rcases publishes : i.publication? with _ | object
  · have silent : ∀ object, ¬ i.Tags "event" object := fun object event => by
      simp [Input.publication?_iff.2 (Or.inr event)] at publishes
    have remembers : ¬ Forgets s i := fun ⟨object, event, _⟩ => silent object event
    refine ⟨fun _ => remembers, fun _ => ?_⟩
    by_cases event : ∃ object, i.Reports object
    · obtain ⟨object, event⟩ := event
      exact all.quiet (step_untagged event publishes)
    · have kept : Owned (step env s i) ∧ AllHeld (step env s i) :=
        (step_decomposes env).keeps (P := fun t : Client => Owned t ∧ AllHeld t)
          (fun _ _ answered kept => ⟨kept.1.reply answered, kept.2.reply answered⟩)
          (fun _ _ taken kept => ⟨kept.1.transition taken,
            kept.2.transition kept.1 (not_exists.1 event) taken⟩) ⟨owned, all⟩
      exact kept.2
  · have event := Input.publication?_iff.1 publishes
    have forgets : Forgets s i ↔ unpublishedFeed object ≠ 0 ∧
        (s.subscribers (unpublishedFeed object) ≠ 0 ∨ unpublishedFeed object ∈ newFeeds object) := by
      constructor
      · rintro ⟨object', tagged, found⟩
        obtain rfl := Input.publication?_only publishes (Or.inr tagged)
        exact found
      · rintro ⟨nonzero, found⟩
        refine ⟨object, event.resolve_left fun joined => ?_, nonzero, found⟩
        simp [unpublishedFeed, joined.2] at nonzero
    obtain ⟨before, t, quiet, same, stepped⟩ := step_publishes env s event
    have keyed : AllHeld (before.keyed object) := (all.quiet quiet).same rfl rfl
    have owns : Owned (before.keyed object) :=
      (owned.quiet quiet).keep rfl (fun _ => Iff.rfl) (List.Sublist.refl _)
    obtain ⟨held, owned', counted⟩ :=
      keyed.attachFeeds env owns (unpublishedFeed object) (newFeeds object)
    have subscribers : t.subscribers (unpublishedFeed object) =
        s.subscribers (unpublishedFeed object) +
          (newFeeds object).count (unpublishedFeed object) := by
      have start : (before.keyed object).subscribers (unpublishedFeed object) =
          s.subscribers (unpublishedFeed object) := by
        show before.subscribers _ = _
        rw [Client.subscribers, quiet.listed, quiet.peers, Client.subscribers]
      rw [← start, ← counted, Client.subscribers, same.listed, same.peers, Client.subscribers]
    rw [stepped, forgets]
    by_cases nothing : unpublishedFeed object = 0
    · rw [nothing, Client.removeFeed_zero]
      simp [held.quiet same]
    · rw [allHeld_removeFeed_iff (held.quiet same) (owned'.quiet same) nothing, subscribers]
      simp [nothing, List.count_eq_zero]

theorem allHeld_initial : AllHeld (Client.initial env) := by
  intro p lives
  simp [Client.initial] at lives

end

/-- **No peer is lost, and the destructor deletes each that lives once,** in exactly the
runs in which no event unpublishes the feed of a listed peer. -/
theorem held_throughout_iff (env : Env) (is : List Input) :
    Machine.Throughout (step env) Held (Client.initial env) is ↔
      Machine.Along (step env) (fun s i => ¬ Forgets s i) (Client.initial env) is := by
  have all : Machine.Throughout (step env) Held (Client.initial env) is ↔
      Machine.Throughout (step env) AllHeld (Client.initial env) is := by
    simp only [Machine.throughout_iff_prefix]
    exact forall₂_congr fun js _ => held_iff (owned_after env js)
  rw [all]
  exact Machine.throughout_iff_along (Q := Owned) (fun _ i owned => owned.step i)
    (fun _ i _ owned all => allHeld_step_iff env owned all i) owned_initial allHeld_initial

/-- The subscriber of an unpublished feed is in no list and is never deleted. -/
theorem subscriber_forgotten : ¬ ∀ (env : Env) (is : List Input),
    Machine.Throughout (step env) Held (Client.initial env) is := by
  intro always
  let joined : Server.VideoEvent := { tag := "joined", sender := 7, publishers := [5] }
  let gone : Server.VideoEvent := { tag := "event", sender := 7, unpublished := some 5 }
  have held := (always Env.sample [Server.event joined, Server.event gone]).last
  have lives : ((after Env.sample [Server.event joined, Server.event gone]).peers 0).isSome := by
    decide +kernel
  have nobody : (after Env.sample [Server.event joined, Server.event gone]).holders = [] := by
    decide +kernel
  have one := held.one 0 lives
  rw [nobody] at one
  exact absurd one (by decide)

end WebrtcDemo
