import WebrtcDemo.Run.Transition

/-!
# Who owns a peer

A peer is held by one of the two lists or by one of the two administrative
pointers, at most once, and what holds it holds a live object (`Owned`). That is
true of every run. A waiting continuation holds nothing: it is bound to a raw
pointer, and leaving a room deletes every listed peer whether or not one waits
for its attach reply. The runs in which no continuation is ever bound to a
deleted peer are exactly those that leave a room only when none of its peers
waits.
-/

namespace WebrtcDemo

open JanusVideoRoomManager (construct)

/-- Everything the manager holds a peer by. -/
def Client.holders (s : Client) : List Ptr :=
  s.listed .video ++ (s.listed .text ++ ((s.admin .video).toList ++ (s.admin .text).toList))

/-- Objects are numbered in the order of construction, and every holder holds a
live one of its own. -/
structure Owned (s : Client) : Prop where
  below : ∀ p, (s.peers p).isSome → p < s.constructed
  live : ∀ p ∈ s.holders, (s.peers p).isSome
  once : s.holders.Nodup

section
variable {env : Env} {i : Input} {s s' : Client}

namespace Client

theorem listed_holders {room : RoomKind} {p : Ptr} (listed : p ∈ s.listed room) :
    p ∈ s.holders := by
  cases room <;> simp [holders, listed]

theorem admin_holders {room : RoomKind} {p : Ptr} (holds : s.admin room = some p) :
    p ∈ s.holders := by
  cases room <;> simp [holders, holds]

theorem attachNew_holders (room : RoomKind) (peer : JanusPeerConnection) :
    (s.attachNew env room peer).holders.Perm (s.constructed :: s.holders) := by
  cases room
  · simp [holders, attachNew_listed]
  · simpa [holders, attachNew_listed] using
      (List.perm_middle.append_left (s.listed .video)).trans List.perm_middle

theorem appoint_holders {room : RoomKind} (vacant : s.admin room = none) (p : Ptr) :
    (s.appoint room p).holders.Perm (p :: s.holders) := by
  cases room <;> simp [holders, appoint_admin, vacant, ← List.append_assoc]

end Client

/-! ## Ownership is an invariant -/

theorem Owned.older (owned : Owned s) {p : Ptr} (held : p ∈ s.holders) : p < s.constructed :=
  owned.below p (owned.live p held)

/-- The administrative peers are on no list. -/
theorem Owned.admin_unlisted (owned : Owned s) {room : RoomKind} {p : Ptr}
    (holds : s.admin room = some p) (room' : RoomKind) : p ∉ s.listed room' := by
  intro listed
  have once := owned.once
  cases room <;> cases room' <;> grind [Client.holders]

/-- What changes neither which objects live nor who holds them keeps ownership. -/
theorem Owned.keep (owned : Owned s) (constructed : s'.constructed = s.constructed)
    (alive : ∀ p, (s'.peers p).isSome ↔ (s.peers p).isSome)
    (fewer : s'.holders.Sublist s.holders) : Owned s' where
  below p lives := constructed ▸ owned.below p ((alive p).1 lives)
  live p held := (alive p).2 (owned.live p (fewer.subset held))
  once := owned.once.sublist fewer

/-- What is deleted has no holder left. -/
theorem Owned.discard (owned : Owned s) {gone : Ptr → Prop} [DecidablePred gone]
    (constructed : s'.constructed = s.constructed)
    (peers : s'.peers = fun p => if gone p then none else s.peers p)
    (fewer : s'.holders.Sublist s.holders) (unheld : ∀ p ∈ s'.holders, ¬ gone p) : Owned s' where
  below p lives := by
    rw [peers] at lives
    dsimp only at lives
    split_ifs at lives
    · simp at lives
    · exact constructed ▸ owned.below p lives
  live p held := by
    rw [peers]
    dsimp only
    rw [if_neg (unheld p held)]
    exact owned.live p (fewer.subset held)
  once := owned.once.sublist fewer

/-- A new object under a new holder. -/
theorem Owned.adopt (owned : Owned s) (constructed : s'.constructed = s.constructed + 1)
    {x : JanusPeerConnection}
    (peers : s'.peers = Function.update s.peers s.constructed (some x))
    (one : s'.holders.Perm (s.constructed :: s.holders)) : Owned s' where
  below p lives := by
    rw [constructed]
    rcases eq_or_ne p s.constructed with rfl | other
    · exact Nat.lt_succ_self _
    · rw [peers, Function.update_of_ne other] at lives
      exact Nat.lt_succ_of_lt (owned.below p lives)
  live p held := by
    rcases eq_or_ne p s.constructed with rfl | other
    · simp [peers]
    · rw [peers, Function.update_of_ne other]
      exact owned.live p (((List.mem_cons.1 (one.subset held)).resolve_left other))
  once := by
    refine one.nodup_iff.2 (List.nodup_cons.2 ⟨fun held => ?_, owned.once⟩)
    exact absurd (owned.older held) (lt_irrefl _)

theorem setPeer_alive {p : Ptr} {x : JanusPeerConnection} (alive : s.peers p = some x)
    (peer : JanusPeerConnection) (q : Ptr) :
    ((s.setPeer p peer).peers q).isSome ↔ (s.peers q).isSome := by
  rcases eq_or_ne q p with rfl | other
  · simp [alive]
  · simp [Function.update_of_ne other]

/-- Deleting the peers of a list that are all live and all different. -/
theorem deletePeers_eq {list : List Ptr} (once : list.Nodup)
    (live : ∀ p ∈ list, (s.peers p).isSome) :
    JanusVideoRoomManager.deletePeers s list =
      { s with peers := fun p => if p ∈ list then none else s.peers p } := by
  induction list generalizing s with
  | nil => simp [JanusVideoRoomManager.deletePeers]
  | cons p more ih =>
    obtain ⟨fresh, once⟩ := List.nodup_cons.1 once
    obtain ⟨x, alive⟩ := Option.isSome_iff_exists.1 (live p List.mem_cons_self)
    have rest : ∀ q ∈ more, (Function.update s.peers p none q).isSome := by
      intro q member
      have other : q ≠ p := by
        rintro rfl
        exact fresh member
      rw [Function.update_of_ne other]
      exact live q (List.mem_cons_of_mem _ member)
    rw [JanusVideoRoomManager.deletePeers, alive]
    dsimp only
    rw [ih once rest]
    congr 1
    funext q
    rcases eq_or_ne q p with rfl | other
    · simp
    · simp [other]

theorem Owned.listed_once (owned : Owned s) (room : RoomKind) : (s.listed room).Nodup := by
  have := owned.once
  cases room <;> grind [Client.holders]

/-- What leaving deletes is exactly the list. -/
theorem Owned.deleted (owned : Owned s) (room : RoomKind) :
    JanusVideoRoomManager.deletePeers s (s.listed room) =
      { s with peers := fun p => if p ∈ s.listed room then none else s.peers p } :=
  deletePeers_eq (owned.listed_once room) fun p listed => owned.live p (Client.listed_holders listed)

theorem Owned.leave_peers (owned : Owned s) (room : RoomKind) :
    (s.leave room).peers = fun p => if p ∈ s.listed room then none else s.peers p := by
  have deleted := congrArg Client.peers (owned.deleted room)
  cases room <;> exact deleted

theorem Owned.leave_fault (owned : Owned s) (room : RoomKind) :
    (s.leave room).fault = s.fault := by
  have deleted := congrArg Client.fault (owned.deleted room)
  cases room <;> exact deleted

/-- What is left after leaving is held by the others. -/
theorem Owned.leave (owned : Owned s) (room : RoomKind) : Owned (s.leave room) := by
  refine owned.discard Client.leave_constructed (owned.leave_peers room) ?_ fun p held => ?_
  · cases room <;> simp [Client.holders, Client.leave_listed, Client.leave_admin]
  · have once := owned.once
    cases room <;> grind [Client.holders, Client.leave_listed, Client.leave_admin]

theorem Owned.quiet (owned : Owned s) (same : Quiet i s s') : Owned s' :=
  owned.keep same.constructed (fun p => by rw [same.peers])
    (by simp [Client.holders, same.listed, same.admin])

theorem Owned.transition (owned : Owned s) (taken : Transition env i s s') : Owned s' := by
  cases taken with
  | quiet same => exact owned.quiet same
  | drawn => exact owned.keep rfl (fun _ => Iff.rfl) (List.Sublist.refl _)
  | settings => exact owned.keep rfl (fun _ => Iff.rfl) (List.Sublist.refl _)
  | manage => exact owned.keep (by simp) (by simp) (by simp [Client.holders])
  | attach room peer => exact owned.adopt (x := peer) (by simp) (by simp) (Client.attachNew_holders room peer)
  | appoint room peer vacant =>
    refine owned.adopt (x := peer) (by simp) (by simp) ?_
    have vacant' : (construct s peer).admin room = none := by simpa using vacant
    simpa [Client.holders] using Client.appoint_holders vacant' s.constructed
  | administer _ _ alive =>
    exact owned.keep (by simp) (fun p => by simpa using setPeer_alive alive _ p)
      (by simp [Client.holders])
  | lost => exact owned.keep rfl (fun _ => Iff.rfl) (List.Sublist.refl _)
  | unlist _ _ fewer => exact owned.keep rfl (fun _ => Iff.rfl) (fewer.append_right _)
  | leave _ => exact owned.leave _
  | speak => exact owned.keep (by simp) (by simp) (by simp [Client.holders])

theorem Owned.reply (owned : Owned s) (answered : Reply env i s s') : Owned s' := by
  have taken (kind t func object) : Owned (s.take kind t func object) :=
    owned.keep (by simp) (by simp) (by simp [Client.holders])
  cases answered with
  | session => exact (taken _ _ _ _).keep rfl (fun _ => Iff.rfl) (List.Sublist.refl _)
  | heartBeat => exact (taken _ _ _ _).keep rfl (fun _ => Iff.rfl) (List.Sublist.refl _)
  | dead => exact (taken _ _ _ _).keep rfl (fun _ => Iff.rfl) (List.Sublist.refl _)
  | joined room answer alive =>
    exact owned.keep (by simp) (fun p => by simpa using setPeer_alive alive _ p)
      (by simp [Client.holders])
  | admin todo isAdmin answer alive =>
    exact owned.keep (by simp) (fun p => by simpa using setPeer_alive alive _ p)
      (by simp [Client.holders])
  | outcome _ _ _ same => exact (taken _ _ _ _).quiet same

theorem Owned.step (owned : Owned s) (i : Input) : Owned (step env s i) :=
  (step_decomposes env).keeps (fun _ _ answered owned => owned.reply answered)
    (fun _ _ taken owned => owned.transition taken) owned

theorem owned_initial : Owned (Client.initial env) :=
  ⟨fun p lives => by simp [Client.initial] at lives, fun p held => by
    simp [Client.initial, Client.holders, Client.listed, Client.admin] at held, by
    simp [Client.initial, Client.holders, Client.listed, Client.admin]⟩

/-- **Ownership holds in every reachable state.** -/
theorem owned_after (env : Env) (is : List Input) : Owned (after env is) :=
  Machine.run_keeps (fun _ i owned _ => owned.step i) owned_initial (Machine.along_true is)

end

end WebrtcDemo
