import GatewaySocket.Container.UnorderedMap
import Mathlib.Logic.ExistsUnique

/-!
# Blocks and who owns them

A heap gives for each pointer the block that is allocated there. Reading, writing or
freeing a block that is not allocated is a fault.

The blocks are `Owned` by the slots of a queue and the entries of a map if every
pointer that is held is allocated, every allocated block is held in exactly one
place, and each entry has the key that is written in its block. Allocating into a new
slot, moving a block from a slot into the map, freeing the block of an entry that is
erased and writing to a block keep this. Under them the queue and the map of pointers
represent a queue and a map that hold the blocks themselves.
-/

/-- The blocks that are allocated. -/
abbrev Heap (P B : Type*) := UnorderedMap P B

/-- A block was used that is not allocated. -/
inductive HeapFault
  | dangling
  deriving DecidableEq

namespace Heap

variable {P B K : Type*} {heap : Heap P B} {p : P} {b b' : B}

def read (heap : Heap P B) (p : P) : Except HeapFault B :=
  match heap.find p with
  | some b => .ok b
  | none => .error .dangling

theorem read_eq (hp : heap.find p = some b) : heap.read p = .ok b := by
  rw [read, hp]

section Update

variable [DecidableEq P]

/-- `malloc` with what is then written to the block. -/
def malloc (heap : Heap P B) (p : P) (b : B) : Heap P B := heap.set p b

def write (heap : Heap P B) (p : P) (b : B) : Except HeapFault (Heap P B) :=
  match heap.find p with
  | some _ => .ok (heap.set p b)
  | none => .error .dangling

def free (heap : Heap P B) (p : P) : Except HeapFault (Heap P B) :=
  match heap.find p with
  | some _ => .ok (heap.erase p)
  | none => .error .dangling

theorem write_eq (hp : heap.find p = some b) (b' : B) : heap.write p b' = .ok (heap.set p b') := by
  rw [write, hp]

theorem free_eq (hp : heap.find p = some b) : heap.free p = .ok (heap.erase p) := by
  rw [free, hp]

end Update

/-! ## Owners -/

/-- Where a pointer may be held. -/
inductive Place (K : Type*)
  | slot (i : ℕ)
  | entry (k : K)

/-- The pointer that is held in a place. -/
def Place.holds (slots : List P) (m : UnorderedMap K P) : Place K → Option P
  | slot i => slots[i]?
  | entry k => m.find k

/-- The slots and the entries of the map own the blocks. -/
structure Owned (key : B → K) (heap : Heap P B) (slots : List P) (m : UnorderedMap K P) :
    Prop where
  nodup : slots.Nodup
  apart : ∀ k p, m.find k = some p → p ∉ slots
  has_iff : ∀ p, heap.Has p ↔ p ∈ slots ∨ ∃ k, m.find k = some p
  keyed : ∀ k p b, m.find k = some p → heap.find p = some b → key b = k

namespace Owned

variable {key : B → K} {slots : List P} {m : UnorderedMap K P} {k : K}

theorem empty (key : B → K) :
    Owned key (.empty : Heap P B) [] (.empty : UnorderedMap K P) where
  nodup := List.nodup_nil
  apart := nofun
  has_iff := fun p => by simp [UnorderedMap.Has, UnorderedMap.empty]
  keyed := nofun

/-- The block of an entry. -/
theorem find_of_entry (h : Owned key heap slots m) (hk : m.find k = some p) :
    ∃ b, heap.find p = some b ∧ key b = k := by
  obtain ⟨b, hb⟩ := UnorderedMap.has_iff.mp ((h.has_iff p).mpr (.inr ⟨k, hk⟩))
  exact ⟨b, hb, h.keyed k p b hk hb⟩

theorem entry_inj (h : Owned key heap slots m) {k k' : K} (hk : m.find k = some p)
    (hk' : m.find k' = some p) : k = k' := by
  obtain ⟨b, hb, rfl⟩ := h.find_of_entry hk
  exact h.keyed k' p b hk' hb

/-- A pointer that is held is allocated. -/
theorem has_of_holds (h : Owned key heap slots m) {place : Place K}
    (hplace : place.holds slots m = some p) : heap.Has p := by
  cases place with
  | slot i => exact (h.has_iff p).mpr (.inl (List.mem_of_getElem? hplace))
  | entry k => exact (h.has_iff p).mpr (.inr ⟨k, hplace⟩)

/-- A block that is allocated is held in exactly one place. -/
theorem existsUnique_place (h : Owned key heap slots m) (hp : heap.Has p) :
    ∃! place : Place K, place.holds slots m = some p := by
  have hapart : ∀ i k, slots[i]? = some p → m.find k = some p → False := fun i k hi hk =>
    h.apart k p hk (List.mem_of_getElem? hi)
  rcases (h.has_iff p).mp hp with hslot | ⟨k, hk⟩
  · obtain ⟨i, hi⟩ := List.getElem?_of_mem hslot
    refine ⟨.slot i, hi, ?_⟩
    rintro (j | k) hplace
    · have hlt : j < slots.length := (List.getElem?_eq_some_iff.mp hplace).1
      rw [(List.getElem?_inj hlt h.nodup).mp (hplace.trans hi.symm)]
    · exact absurd hplace fun hk => hapart i k hi hk
  · refine ⟨.entry k, hk, ?_⟩
    rintro (j | k') hplace
    · exact absurd hplace fun hj => hapart j k hj hk
    · rw [h.entry_inj hplace hk]

variable [DecidableEq P]

/-- Allocating a block into a new slot. -/
theorem malloc (h : Owned key heap slots m) (hp : ¬heap.Has p) (b : B) :
    Owned key (heap.malloc p b) (slots ++ [p]) m := by
  have hslot : p ∉ slots := fun hmem => hp ((h.has_iff p).mpr (.inl hmem))
  have hentry : ∀ k, m.find k ≠ some p := fun k hk => hp ((h.has_iff p).mpr (.inr ⟨k, hk⟩))
  exact {
    nodup := by
      rw [List.nodup_append]
      refine ⟨h.nodup, List.pairwise_singleton _ p, ?_⟩
      rintro q hq r hr rfl
      rw [List.mem_singleton.mp hr] at hq
      exact hslot hq
    apart := by
      intro k q hk hq
      rcases List.mem_append.mp hq with hq | hq
      · exact h.apart k q hk hq
      · exact hentry k (List.mem_singleton.mp hq ▸ hk)
    has_iff := by
      intro q
      rw [Heap.malloc, UnorderedMap.Has, UnorderedMap.find_set, List.mem_append,
        List.mem_singleton]
      by_cases hq : q = p
      · simp [hq]
      · rw [if_neg hq]
        simpa [hq, UnorderedMap.Has] using h.has_iff q
    keyed := by
      intro k q c hk hc
      have hq : q ≠ p := by
        rintro rfl
        exact hentry k hk
      rw [Heap.malloc, UnorderedMap.find_set, if_neg hq] at hc
      exact h.keyed k q c hk hc }

/-- Writing to a block what does not change its key. -/
theorem write (h : Owned key heap slots m) (hp : heap.find p = some b) (hkey : key b' = key b) :
    Owned key (heap.set p b') slots m where
  nodup := h.nodup
  apart := h.apart
  has_iff := by
    intro q
    rw [← h.has_iff q, UnorderedMap.Has, UnorderedMap.find_set, UnorderedMap.Has]
    by_cases hq : q = p
    · simp [hq, hp]
    · rw [if_neg hq]
  keyed := by
    intro k q c hk hc
    rw [UnorderedMap.find_set] at hc
    by_cases hq : q = p
    · rw [if_pos hq] at hc
      obtain rfl := Option.some.inj hc
      rw [hkey]
      exact h.keyed k p b (hq ▸ hk) hp
    · rw [if_neg hq] at hc
      exact h.keyed k q c hk hc

variable [DecidableEq K]

omit [DecidableEq P] in
/-- Moving a block from the first slot into the map. -/
theorem insert (h : Owned key heap (p :: slots) m) (hp : heap.find p = some b)
    (hnone : m.find (key b) = none) : Owned key heap slots (m.insert (key b) p) := by
  obtain ⟨hslot, hnodup⟩ := List.nodup_cons.mp h.nodup
  rw [UnorderedMap.insert_of_find_eq_none p hnone]
  exact {
    nodup := hnodup
    apart := by
      intro k q hk hq
      rw [UnorderedMap.find_set] at hk
      split at hk
      · exact hslot (Option.some.inj hk ▸ hq)
      · exact h.apart k q hk (List.mem_cons_of_mem p hq)
    has_iff := by
      intro q
      rw [h.has_iff q, List.mem_cons]
      simp only [UnorderedMap.find_set]
      constructor
      · rintro ((rfl | hq) | ⟨k, hk⟩)
        · exact .inr ⟨key b, if_pos rfl⟩
        · exact .inl hq
        · refine .inr ⟨k, ?_⟩
          rw [if_neg, hk]
          rintro rfl
          rw [hnone] at hk
          contradiction
      · rintro (hq | ⟨k, hk⟩)
        · exact .inl (.inr hq)
        · split at hk
          · exact .inl (.inl (Option.some.inj hk).symm)
          · exact .inr ⟨k, hk⟩
    keyed := by
      intro k q c hk hc
      rw [UnorderedMap.find_set] at hk
      split at hk
      · next heq =>
          obtain rfl := Option.some.inj hk
          rw [hp] at hc
          rw [heq, Option.some.inj hc]
      · exact h.keyed k q c hk hc }

/-- Freeing the block of an entry that is erased. -/
theorem free (h : Owned key heap slots m) (hk : m.find k = some p) :
    Owned key (heap.erase p) slots (m.erase k) where
  nodup := h.nodup
  apart := by
    intro k' q hk' hq
    rw [UnorderedMap.find_erase] at hk'
    split at hk'
    · contradiction
    · exact h.apart k' q hk' hq
  has_iff := by
    intro q
    rw [UnorderedMap.Has, UnorderedMap.find_erase]
    simp only [UnorderedMap.find_erase]
    by_cases hq : q = p
    · -- the entry was the only place of the block
      subst hq
      have hslot := h.apart k q hk
      have hentry : ∀ k', m.find k' = some q → k' = k := fun k' hk' => h.entry_inj hk' hk
      simpa [hslot] using fun k' hne hk' => hne (hentry k' hk')
    · rw [if_neg hq]
      refine (h.has_iff q).trans (or_congr_right ⟨?_, ?_⟩)
      · rintro ⟨k', hk'⟩
        refine ⟨k', ?_⟩
        rw [if_neg, hk']
        rintro rfl
        exact hq (Option.some.inj (hk'.symm.trans hk))
      · rintro ⟨k', hk'⟩
        split at hk'
        · contradiction
        · exact ⟨k', hk'⟩
  keyed := by
    intro k' q c hk' hc
    rw [UnorderedMap.find_erase] at hk' hc
    split at hk'
    · contradiction
    · split at hc
      · contradiction
      · exact h.keyed k' q c hk' hc

end Owned

/-! ## What the owners stand for -/

/-- A queue of blocks and a map of blocks, with each pointer replaced by its block. -/
structure Represents (key : B → K) (heap : Heap P B) (slots : List P) (m : UnorderedMap K P)
    (values : List B) (entries : UnorderedMap K B) : Prop where
  owned : Owned key heap slots m
  find_slots : slots.map heap.find = values.map some
  find_entries : ∀ k, entries.find k = (m.find k).bind heap.find

namespace Represents

variable {key : B → K} {slots : List P} {m : UnorderedMap K P} {values : List B}
  {entries : UnorderedMap K B} {k : K}

theorem empty (key : B → K) :
    Represents key (.empty : Heap P B) [] .empty [] (.empty : UnorderedMap K B) where
  owned := .empty key
  find_slots := rfl
  find_entries := fun _ => rfl

/-- An entry with its pointer and its block, or none. -/
theorem entry_cases (h : Represents key heap slots m values entries) (k : K) :
    m.find k = none ∧ entries.find k = none ∨
      ∃ p b, m.find k = some p ∧ heap.find p = some b ∧ key b = k ∧ entries.find k = some b := by
  have hentry := h.find_entries k
  cases hk : m.find k with
  | none =>
      rw [hk] at hentry
      exact .inl ⟨rfl, hentry⟩
  | some p =>
      obtain ⟨b, hb, hkey⟩ := h.owned.find_of_entry hk
      rw [hk, Option.bind_some, hb] at hentry
      exact .inr ⟨p, b, rfl, hb, hkey, hentry⟩

/-- The block of the first slot. -/
theorem find_head (h : Represents key heap (p :: slots) m (b :: values) entries) :
    heap.find p = some b := by
  have hslots := h.find_slots
  rw [List.map_cons, List.map_cons] at hslots
  exact (List.cons.inj hslots).1

/-- A slot does not hold the block of an entry. -/
theorem map_find_slots {heap' : Heap P B} (h : Represents key heap slots m values entries)
    (hk : m.find k = some p) (hother : ∀ q ≠ p, heap'.find q = heap.find q) :
    slots.map heap'.find = values.map some := by
  rw [← h.find_slots]
  refine List.map_congr_left fun q hq => hother q ?_
  rintro rfl
  exact h.owned.apart k q hk hq

variable [DecidableEq P]

theorem malloc (h : Represents key heap slots m values entries) (hp : ¬heap.Has p) (b : B) :
    Represents key (heap.malloc p b) (slots ++ [p]) m (values ++ [b]) entries := by
  have hother : ∀ q, heap.Has q → (heap.malloc p b).find q = heap.find q := by
    intro q hq
    rw [Heap.malloc, UnorderedMap.find_set, if_neg]
    rintro rfl
    exact hp hq
  have hslots : slots.map (heap.malloc p b).find = slots.map heap.find :=
    List.map_congr_left fun q hq => hother q ((h.owned.has_iff q).mpr (.inl hq))
  refine ⟨h.owned.malloc hp b, ?_, fun k => ?_⟩
  · rw [List.map_append, List.map_append, hslots, h.find_slots, List.map_singleton,
      List.map_singleton, Heap.malloc, UnorderedMap.find_set, if_pos rfl]
  · rw [h.find_entries k]
    cases hk : m.find k with
    | none => rfl
    | some q => exact (hother q ((h.owned.has_iff q).mpr (.inr ⟨k, hk⟩))).symm

variable [DecidableEq K]

theorem write (h : Represents key heap slots m values entries) (hk : m.find k = some p)
    (hp : heap.find p = some b) (hkey : key b' = key b) :
    Represents key (heap.set p b') slots m values (entries.set k b') := by
  have hother : ∀ q ≠ p, (heap.set p b').find q = heap.find q := fun q hq => by
    rw [UnorderedMap.find_set, if_neg hq]
  refine ⟨h.owned.write hp hkey, h.map_find_slots hk hother, fun k' => ?_⟩
  rw [UnorderedMap.find_set]
  by_cases hk' : k' = k
  · rw [if_pos hk', hk', hk, Option.bind_some, UnorderedMap.find_set, if_pos rfl]
  · rw [if_neg hk', h.find_entries k']
    cases hq : m.find k' with
    | none => rfl
    | some q =>
        refine (hother q ?_).symm
        rintro rfl
        exact hk' (h.owned.entry_inj hq hk)

omit [DecidableEq P] in
theorem insert (h : Represents key heap (p :: slots) m (b :: values) entries)
    (hnone : m.find (key b) = none) :
    Represents key heap slots (m.insert (key b) p) values (entries.insert (key b) b) := by
  have hentry : entries.find (key b) = none := by rw [h.find_entries, hnone, Option.bind_none]
  have hslots := h.find_slots
  rw [List.map_cons, List.map_cons] at hslots
  refine ⟨h.owned.insert h.find_head hnone, (List.cons.inj hslots).2, fun k => ?_⟩
  rw [UnorderedMap.insert_of_find_eq_none b hentry, UnorderedMap.insert_of_find_eq_none p hnone,
    UnorderedMap.find_set, UnorderedMap.find_set]
  by_cases hk : k = key b
  · rw [if_pos hk, if_pos hk]
    exact h.find_head.symm
  · rw [if_neg hk, if_neg hk]
    exact h.find_entries k

theorem free (h : Represents key heap slots m values entries) (hk : m.find k = some p) :
    Represents key (heap.erase p) slots (m.erase k) values (entries.erase k) := by
  have hother : ∀ q ≠ p, (heap.erase p).find q = heap.find q := fun q hq => by
    rw [UnorderedMap.find_erase, if_neg hq]
  refine ⟨h.owned.free hk, h.map_find_slots hk hother, fun k' => ?_⟩
  rw [UnorderedMap.find_erase, UnorderedMap.find_erase]
  by_cases hk' : k' = k
  · rw [if_pos hk', if_pos hk', Option.bind_none]
  · rw [if_neg hk', if_neg hk', h.find_entries k']
    cases hq : m.find k' with
    | none => rfl
    | some q =>
        refine (hother q ?_).symm
        rintro rfl
        exact hk' (h.owned.entry_inj hq hk)

end Represents

end Heap
