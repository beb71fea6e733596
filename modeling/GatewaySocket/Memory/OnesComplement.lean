import Mathlib.Algebra.Order.Ring.Nat

/-!
# One's-complement sums

The checksum of the Internet protocols: a block is read as words of sixteen bits,
the words are added with the carry out of the top brought around to the bottom,
and the checksum is the complement of the sum. A receiver adds up the block with
the checksum in it and expects the word with all bits set.

Here words are natural numbers below 65536. The sum of many words is the natural
sum reduced modulo 65535, where a sum that is not zero is not reduced to zero.
-/

namespace OnesComplement

/-- The words of a block in network order; a last odd byte is padded with zero. -/
def words : List UInt8 → List ℕ
  | hi :: lo :: rest => (hi.toNat * 256 + lo.toNat) :: words rest
  | [hi] => [hi.toNat * 256]
  | [] => []

/-- Addition of two words; the carry is added at the bottom. -/
def add (a b : ℕ) : ℕ := if a + b < 65536 then a + b else a + b - 65535

/-- The one's-complement sum of words. -/
def sum (ws : List ℕ) : ℕ := ws.foldl add 0

/-- A natural number with all its carries brought around. -/
def reduce (n : ℕ) : ℕ := if n = 0 then 0 else (n - 1) % 65535 + 1

/-! ## Words -/

theorem words_lt {bytes : List UInt8} {w : ℕ} (h : w ∈ words bytes) : w < 65536 := by
  induction bytes using words.induct with
  | case1 hi lo rest ih =>
    have hhi : hi.toNat < 256 := hi.toNat_lt
    have hlo : lo.toNat < 256 := lo.toNat_lt
    rw [words, List.mem_cons] at h
    rcases h with rfl | h
    · omega
    · exact ih h
  | case2 hi =>
    have hhi : hi.toNat < 256 := hi.toNat_lt
    rw [words, List.mem_singleton] at h
    omega
  | case3 => cases h

/-- A block is cut into words from the start on, so a part of even length keeps
its words whatever follows. -/
theorem words_append {xs : List UInt8} (ys : List UInt8) (h : xs.length % 2 = 0) :
    words (xs ++ ys) = words xs ++ words ys := by
  induction xs using words.induct with
  | case1 hi lo rest ih =>
    rw [List.length_cons, List.length_cons] at h
    rw [List.cons_append, List.cons_append, words, words, ih (by omega), List.cons_append]
  | case2 hi => simp at h
  | case3 => rfl

/-- The natural sum of the words is bounded by their number. -/
theorem sum_words_le (bytes : List UInt8) :
    (words bytes).sum ≤ 65535 * ((bytes.length + 1) / 2) := by
  induction bytes using words.induct with
  | case1 hi lo rest ih =>
    have hhi : hi.toNat < 256 := hi.toNat_lt
    have hlo : lo.toNat < 256 := lo.toNat_lt
    rw [words, List.sum_cons, List.length_cons, List.length_cons]
    omega
  | case2 hi =>
    have hhi : hi.toNat < 256 := hi.toNat_lt
    simp only [words, List.sum_cons, List.sum_nil, List.length_singleton]
    omega
  | case3 => simp [words]

/-! ## Sums -/

theorem reduce_lt (n : ℕ) : reduce n < 65536 := by
  unfold reduce
  split <;> omega

/-- Reducing early or late makes no difference. -/
theorem add_reduce (n : ℕ) {w : ℕ} (hw : w < 65536) : add (reduce n) w = reduce (n + w) := by
  by_cases hzero : n = 0
  · subst hzero
    unfold add reduce
    split_ifs <;> omega
  · have hn : reduce n = (n - 1) % 65535 + 1 := if_neg hzero
    have hnw : reduce (n + w) = (n + w - 1) % 65535 + 1 := if_neg (by omega)
    rw [hn, hnw, add]
    split <;> omega

theorem foldl_add_reduce (n : ℕ) {ws : List ℕ} (h : ∀ w ∈ ws, w < 65536) :
    ws.foldl add (reduce n) = reduce (n + ws.sum) := by
  induction ws generalizing n with
  | nil => rfl
  | cons w ws ih =>
    rw [List.forall_mem_cons] at h
    rw [List.foldl_cons, add_reduce n h.1, ih _ h.2, List.sum_cons, Nat.add_assoc]

/-- The one's-complement sum is the natural sum, reduced. -/
theorem sum_eq_reduce {ws : List ℕ} (h : ∀ w ∈ ws, w < 65536) : sum ws = reduce ws.sum := by
  have hfold := foldl_add_reduce 0 h
  rwa [Nat.zero_add] at hfold

theorem sum_words (bytes : List UInt8) : sum (words bytes) = reduce (words bytes).sum :=
  sum_eq_reduce fun _ => words_lt

theorem reduce_eq_iff {n : ℕ} : reduce n = 65535 ↔ 0 < n ∧ n % 65535 = 0 := by
  by_cases hzero : n = 0
  · simp [reduce, hzero]
  · rw [reduce, if_neg hzero]
    omega

/-- A number and the complement of its reduction add up to the word with all bits set. -/
theorem reduce_add_complement (n : ℕ) : reduce (n + (65535 - reduce n)) = 65535 := by
  rw [reduce_eq_iff]
  by_cases hzero : n = 0
  · simp [reduce, hzero]
  · rw [reduce, if_neg hzero]
    omega

/-- **A checksum verifies.** With the complement of its sum in a word that was
zero, a block adds up to the word with all bits set. -/
theorem sum_words_complement {xs : List UInt8} (ys : List UInt8) {hi lo : UInt8}
    (heven : xs.length % 2 = 0)
    (hsum : hi.toNat * 256 + lo.toNat = 65535 - sum (words (xs ++ [0, 0] ++ ys))) :
    sum (words (xs ++ [hi, lo] ++ ys)) = 65535 := by
  have hwords : ∀ a b : UInt8, (words (xs ++ [a, b] ++ ys)).sum =
      (words xs).sum + (a.toNat * 256 + b.toNat) + (words ys).sum := by
    intro a b
    rw [List.append_assoc, words_append _ heven, List.sum_append, List.cons_append,
      List.cons_append, List.nil_append, words, List.sum_cons, ← Nat.add_assoc]
  have hzero : (words (xs ++ [0, 0] ++ ys)).sum = (words xs).sum + (words ys).sum := by
    simpa using hwords 0 0
  rw [sum_words, hwords, hsum, sum_words, hzero, Nat.add_right_comm, reduce_add_complement]

end OnesComplement
