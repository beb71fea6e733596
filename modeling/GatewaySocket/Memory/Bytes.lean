import Mathlib.Data.List.GetD
import Mathlib.Data.Nat.Notation
import Mathlib.Tactic.Common

/-!
# Byte memory

A block of memory is a function from offsets to bytes, so reading is total:
what lies past the bytes a program has written is whatever the function gives
there. `load` and `store` are the two directions of `memcpy` between a block
and a value of fixed size, and the lemmas say how they compose: a load sees the
last store to its place and no store elsewhere. `image` cuts the first bytes of
a block out as a list, which is how a block leaves the program.

Numbers travel in network byte order; `ntohs`, `ntohl` and `htons` convert between
the octets in memory and the number they stand for.
-/

namespace ByteMemory

/-- `n` consecutive bytes, in the order in which they lie in memory. -/
abbrev Octets (n : ℕ) := Vector UInt8 n

/-- Memory seen from the start of a block. -/
abbrev Memory := ℕ → UInt8

/-- The `n` bytes that start at offset `pos`. -/
def load (m : Memory) (pos n : ℕ) : Octets n :=
  Vector.ofFn fun i => m (pos + i)

/-- Overwrite the bytes from offset `pos` on with `bytes`. -/
def store (m : Memory) (pos : ℕ) (bytes : List UInt8) : Memory := fun i =>
  if pos ≤ i ∧ i < pos + bytes.length then bytes.getD (i - pos) 0 else m i

/-- The first `n` bytes of a block. -/
def image (m : Memory) (n : ℕ) : List UInt8 :=
  (List.range n).map m

/-- The block that starts with `bytes` and goes on with zeros. -/
def ofList (bytes : List UInt8) : Memory := fun i =>
  bytes.getD i 0

@[simp] theorem getElem_load (m : Memory) (pos n i : ℕ) (hi : i < n) :
    (load m pos n)[i] = m (pos + i) := by
  simp [load]

theorem load_congr {m m' : Memory} {pos n : ℕ}
    (h : ∀ i, pos ≤ i → i < pos + n → m i = m' i) :
    load m pos n = load m' pos n := by
  apply Vector.ext
  intro i hi
  rw [getElem_load, getElem_load]
  exact h (pos + i) (by omega) (by omega)

theorem store_of_outside (m : Memory) {pos i : ℕ} {bytes : List UInt8}
    (h : i < pos ∨ pos + bytes.length ≤ i) : store m pos bytes i = m i := by
  have hnot : ¬(pos ≤ i ∧ i < pos + bytes.length) := by omega
  simp [store, hnot]

theorem store_of_inside (m : Memory) {pos i : ℕ} {bytes : List UInt8}
    (hlo : pos ≤ i) (hhi : i < pos + bytes.length) :
    store m pos bytes i = bytes.getD (i - pos) 0 := by
  simp [store, hlo, hhi]

/-- A store does not disturb what is loaded from elsewhere. -/
theorem load_store_of_disjoint (m : Memory) {pos start n : ℕ} {bytes : List UInt8}
    (h : start + n ≤ pos ∨ pos + bytes.length ≤ start) :
    load (store m pos bytes) start n = load m start n := by
  apply load_congr
  intro i hlo hhi
  exact store_of_outside m (by omega)

/-- What was stored is what is loaded. -/
theorem load_store_self (m : Memory) (pos : ℕ) {n : ℕ} (v : Octets n) :
    load (store m pos v.toList) pos n = v := by
  apply Vector.ext
  intro i hi
  rw [getElem_load, store_of_inside m (by omega) (by simpa using hi)]
  simp [hi]

/-- A store right behind another one. -/
theorem store_store_append (m : Memory) (pos : ℕ) (xs ys : List UInt8) :
    store (store m pos xs) (pos + xs.length) ys = store m pos (xs ++ ys) := by
  funext i
  by_cases hlo : i < pos
  · rw [store_of_outside _ (by omega), store_of_outside _ (by omega), store_of_outside _ (by omega)]
  by_cases hxs : i < pos + xs.length
  · rw [store_of_outside _ (by omega), store_of_inside _ (by omega) hxs,
      store_of_inside _ (by omega) (by rw [List.length_append]; omega),
      List.getD_append _ _ _ _ (by omega)]
  by_cases hys : i < pos + xs.length + ys.length
  · rw [store_of_inside _ (by omega) hys,
      store_of_inside _ (by omega) (by rw [List.length_append]; omega),
      List.getD_append_right _ _ _ _ (by omega), Nat.sub_sub]
  · rw [store_of_outside _ (by omega), store_of_outside _ (by omega),
      store_of_outside _ (by rw [List.length_append]; omega)]

/-- The later of two stores to one place counts. -/
theorem store_store_self (m : Memory) (pos : ℕ) {xs ys : List UInt8}
    (h : xs.length = ys.length) : store (store m pos xs) pos ys = store m pos ys := by
  funext i
  by_cases hin : pos ≤ i ∧ i < pos + ys.length
  · rw [store_of_inside _ hin.1 hin.2, store_of_inside _ hin.1 hin.2]
  · rw [store_of_outside _ (by omega), store_of_outside _ (by omega), store_of_outside _ (by omega)]

/-- Stores to places that do not meet commute. -/
theorem store_comm (m : Memory) {pos start : ℕ} {xs ys : List UInt8}
    (h : pos + xs.length ≤ start) :
    store (store m start ys) pos xs = store (store m pos xs) start ys := by
  funext i
  by_cases hxs : pos ≤ i ∧ i < pos + xs.length
  · rw [store_of_inside _ hxs.1 hxs.2, store_of_outside _ (by omega),
      store_of_inside _ hxs.1 hxs.2]
  by_cases hys : start ≤ i ∧ i < start + ys.length
  · rw [store_of_outside _ (by omega), store_of_inside _ hys.1 hys.2,
      store_of_inside _ hys.1 hys.2]
  · rw [store_of_outside _ (by omega), store_of_outside _ (by omega), store_of_outside _ (by omega),
      store_of_outside _ (by omega)]

@[simp] theorem image_length (m : Memory) (n : ℕ) : (image m n).length = n := by
  simp [image]

theorem getElem?_image (m : Memory) {n i : ℕ} (hi : i < n) :
    (image m n)[i]? = some (m i) := by
  simp [image, hi]

@[simp] theorem image_getD (m : Memory) {n i : ℕ} (hi : i < n) :
    (image m n).getD i 0 = m i := by
  simp [image, hi]

theorem image_congr {m m' : Memory} {n : ℕ} (h : ∀ i, i < n → m i = m' i) :
    image m n = image m' n := by
  apply List.map_congr_left
  intro i hi
  exact h i (List.mem_range.mp hi)

/-- A list is the image of the block that holds it. -/
theorem image_ofList (bytes : List UInt8) : image (ofList bytes) bytes.length = bytes := by
  apply List.ext_getElem
  · simp
  · intro i _ hi
    simp [image, ofList, hi]

/-- The block an image was cut from and the block that holds the image give the
same loads below the cut. -/
theorem load_ofList_image (m : Memory) {n pos k : ℕ} (h : pos + k ≤ n) :
    load (ofList (image m n)) pos k = load m pos k := by
  apply load_congr
  intro i _ hhi
  exact image_getD m (by omega)

/-- A byte of the middle part of a list. -/
theorem getD_append_middle {xs ys zs : List UInt8} {i : ℕ} (hlo : xs.length ≤ i)
    (hhi : i < xs.length + ys.length) :
    (xs ++ ys ++ zs).getD i 0 = ys.getD (i - xs.length) 0 := by
  rw [List.append_assoc, List.getD_append_right _ _ _ _ hlo, List.getD_append _ _ _ _ (by omega)]

/-- A value in the middle of a list is loaded from there. -/
theorem load_ofList_append (xs : List UInt8) {n : ℕ} (v : Octets n) (ys : List UInt8) :
    load (ofList (xs ++ v.toList ++ ys)) xs.length n = v := by
  apply Vector.ext
  intro i hi
  rw [getElem_load, ofList, getD_append_middle (by omega) (by simpa using hi)]
  simp [hi]

/-! ## Network byte order -/

/-- The number that two octets in network byte order stand for. -/
def ntohs (b : Octets 2) : UInt16 :=
  UInt16.ofNat (b[0].toNat * 256 + b[1].toNat)

/-- A number as two octets in network byte order. -/
def htons (v : UInt16) : Octets 2 :=
  #v[UInt8.ofNat (v.toNat / 256), UInt8.ofNat (v.toNat % 256)]

/-- The number that four octets in network byte order stand for. -/
def ntohl (b : Octets 4) : UInt32 :=
  UInt32.ofNat (((b[0].toNat * 256 + b[1].toNat) * 256 + b[2].toNat) * 256 + b[3].toNat)

theorem ntohs_htons (v : UInt16) : ntohs (htons v) = v := by
  apply UInt16.toNat_inj.mp
  have hv : v.toNat < 65536 := v.toNat_lt
  simp only [ntohs, htons, UInt16.toNat_ofNat', Vector.getElem_mk, List.getElem_toArray,
    List.getElem_cons_zero, List.getElem_cons_succ, UInt8.toNat_ofNat']
  omega

end ByteMemory
