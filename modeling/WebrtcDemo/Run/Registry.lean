import WebrtcDemo.Lib.RefCount
import WebrtcDemo.Run.Media

/-!
# Tables of counted streams

The two kinds of streams are kept alike: a table under handle ids whose entries hold
counted references, and for the data channels one reference more. A `Registry` is what
the two have in common. It is `Sound` when its references are balanced and every entry
is ready and is one of a live stream that goes by the key of the entry; then no two
entries hold the same stream. The rules at the end are what the handlers do to it.
-/

namespace WebrtcDemo

open RefCount (Balanced Books)

/-- The references that a table holds. -/
def StreamTable.refs (table : StreamTable) : List Ptr := table.entries.map (·.2.stream)

/-- Streams of one kind: the handles of those alive, how many were made, the table, the
references held besides, and the streams destroyed. -/
structure Registry where
  handle : Ptr → Option Int
  made : Nat
  table : StreamTable
  others : List Ptr
  destroyed : List Ptr

def Registry.books (r : Registry) : Books := ⟨r.made, r.table.refs ++ r.others, r.destroyed⟩

structure Registry.Sound (r : Registry) : Prop where
  balanced : Balanced r.books
  entry : ∀ {id info}, r.table.lookup id = some info → info.Ready ∧ r.handle info.stream = some id

/-! ## References of a table -/

section
variable {table : StreamTable} {id : Int} {info info' : RemoteStreamInfo} {p : Ptr}

theorem StreamTable.refs_lookup (found : table.lookup id = some info) :
    table.refs.Perm (info.stream :: StreamTable.refs (table.erase id)) := by
  have member : id ∈ table.entries.keys := AList.lookup_isSome.1 (by simp [found])
  obtain ⟨other, before, rest, absent, entries, erased⟩ := List.exists_of_kerase member
  have same : some other = some info := by
    rw [← found, AList.lookup, entries, List.dlookup_append, List.dlookup_eq_none.2 absent]
    simp
  obtain rfl := Option.some.inj same
  have erased : (table.erase id).entries = before ++ rest := erased
  unfold StreamTable.refs
  rw [entries, erased]
  simp

theorem StreamTable.refs_insert (table : StreamTable) (id : Int) (info : RemoteStreamInfo) :
    StreamTable.refs (table.insert id info) = info.stream :: StreamTable.refs (table.erase id) := rfl

theorem StreamTable.erase_missing (missing : table.lookup id = none) : table.erase id = table :=
  AList.ext (List.kerase_of_notMem_keys (AList.lookup_eq_none.1 missing))

theorem StreamTable.mem_refs : p ∈ table.refs ↔ ∃ id info, table.lookup id = some info ∧ info.stream = p := by
  constructor
  · intro member
    obtain ⟨⟨id, info⟩, entry, rfl⟩ := List.mem_map.1 member
    exact ⟨id, info, AList.mem_lookup_iff.2 entry, rfl⟩
  · rintro ⟨id, info, found, rfl⟩
    exact List.mem_map.2 ⟨⟨id, info⟩, AList.mem_lookup_iff.1 found, rfl⟩

/-- Storing into an entry changes no reference. -/
theorem StreamTable.refs_stored (found : table.lookup id = some info)
    (same : info'.stream = info.stream) :
    (StreamTable.refs (table.insert id info')).Perm table.refs := by
  rw [StreamTable.refs_insert, same]
  exact (StreamTable.refs_lookup found).symm

end

namespace Registry.Sound

variable {r r' : Registry} {id id' : Int} {info info' : RemoteStreamInfo} {p : Ptr}

/-! ## What a sound registry holds -/

/-- A stream has one entry. -/
theorem key_unique (sound : r.Sound) (one : r.table.lookup id = some info)
    (two : r.table.lookup id' = some info') (same : info.stream = info'.stream) : id = id' := by
  have first := (sound.entry one).2
  rw [same, (sound.entry two).2] at first
  exact (Option.some.inj first).symm

theorem nodup_refs (sound : r.Sound) : r.table.refs.Nodup := by
  unfold StreamTable.refs
  refine List.Nodup.map_on ?_ (List.NodupKeys.nodup r.table.nodupKeys)
  rintro ⟨id, info⟩ one ⟨id', info'⟩ two same
  have one := AList.mem_lookup_iff.2 one
  have two := AList.mem_lookup_iff.2 two
  obtain rfl := sound.key_unique one two same
  obtain rfl := Option.some.inj (one.symm.trans two)
  rfl

theorem older (sound : r.Sound) (found : r.table.lookup id = some info) : info.stream < r.made :=
  sound.balanced.below _ (List.mem_append_left _ (StreamTable.mem_refs.2 ⟨id, info, found, rfl⟩))

/-- An entry of another key is one of another stream. -/
theorem stream_ne (sound : r.Sound) (one : r.table.lookup id = some info)
    (two : r.table.lookup id' = some info') (other : id ≠ id') : info.stream ≠ info'.stream :=
  fun same => other (sound.key_unique one two same)

/-! ## What the handlers do to it -/

/-- An entry takes something up. -/
theorem store (sound : r.Sound) (found : r.table.lookup id = some info) (stores : info.Stores info') :
    Sound { r with table := r.table.insert id info' } where
  balanced := by
    refine sound.balanced.perm ?_ (List.Perm.refl _)
    exact (StreamTable.refs_stored found stores.stream).append_right r.others
  entry := by
    intro key found_info found'
    by_cases same : key = id
    · subst same
      obtain rfl : info' = found_info := by simpa using found'
      obtain ⟨ready, handle⟩ := sound.entry found
      refine ⟨stores.ready ready, ?_⟩
      rwa [stores.stream]
    · rw [AList.lookup_insert_ne same] at found'
      exact sound.entry found'

/-- A stream is entered under its handle, and what the entry held before is given up. -/
theorem enter (sound : r.Sound) {made : Nat} {handle : Ptr → Option Int} {destroyed : List Ptr}
    (held : Balanced ⟨made, p :: (r.table.refs ++ r.others), r.destroyed⟩)
    (new : handle p = some id)
    (old : ∀ key info, key ≠ id → r.table.lookup key = some info →
      handle info.stream = r.handle info.stream)
    (missing : r.table.lookup id = none → destroyed = r.destroyed)
    (replaced : ∀ info, r.table.lookup id = some info → destroyed =
      if info.stream ∈ StreamTable.refs (r.table.insert id (ConferenceManager.newInfo p)) ++ r.others
      then r.destroyed else r.destroyed ++ [info.stream]) :
    Sound ⟨handle, made, r.table.insert id (ConferenceManager.newInfo p), r.others, destroyed⟩ where
  balanced := by
    unfold Registry.books
    dsimp only
    rcases found : r.table.lookup id with _ | info
    · rw [missing found, StreamTable.refs_insert, StreamTable.erase_missing found]
      exact held
    · rw [replaced info found]
      refine held.release ?_
      rw [StreamTable.refs_insert]
      have before := ((StreamTable.refs_lookup found).append_right r.others).cons p
      exact before.trans (List.Perm.swap _ _ _)
  entry := by
    intro key info' found
    by_cases same : key = id
    · subst same
      obtain rfl : ConferenceManager.newInfo p = info' := by simpa using found
      exact ⟨⟨rfl, rfl, rfl⟩, new⟩
    · rw [AList.lookup_insert_ne same] at found
      obtain ⟨ready, before⟩ := sound.entry found
      exact ⟨ready, (old key info' same found).trans before⟩

/-- An entry is taken out, and its reference is given up. -/
theorem remove (sound : r.Sound) (found : r.table.lookup id = some info)
    {handle : Ptr → Option Int}
    (old : ∀ key info, key ≠ id → r.table.lookup key = some info →
      handle info.stream = r.handle info.stream) :
    Sound ⟨handle, r.made, r.table.erase id, r.others,
      if info.stream ∈ StreamTable.refs (r.table.erase id) ++ r.others then r.destroyed
      else r.destroyed ++ [info.stream]⟩ where
  balanced := by
    refine sound.balanced.release ?_
    exact (StreamTable.refs_lookup found).append_right r.others
  entry := by
    intro key info' found'
    have other : key ≠ id := by
      rintro rfl
      rw [AList.lookup_erase] at found'
      simp at found'
    rw [AList.lookup_erase_ne other] at found'
    obtain ⟨ready, before⟩ := sound.entry found'
    exact ⟨ready, (old key info' other found').trans before⟩

/-- What changes no stream of the table changes nothing. -/
theorem keep (sound : r.Sound) {handle : Ptr → Option Int} {others destroyed : List Ptr} {made : Nat}
    (balanced : Balanced ⟨made, r.table.refs ++ others, destroyed⟩)
    (same : ∀ id info, r.table.lookup id = some info → handle info.stream = r.handle info.stream) :
    Sound ⟨handle, made, r.table, others, destroyed⟩ where
  balanced := balanced
  entry := by
    intro id info found
    obtain ⟨ready, before⟩ := sound.entry found
    exact ⟨ready, (same id info found).trans before⟩

end Registry.Sound

end WebrtcDemo
