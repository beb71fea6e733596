import GatewaySocket.Packet.Text
import Mathlib.Tactic.IntervalCases

/-!
# Spellings of a hardware address

What `readMAC` makes of a text depends on its hexadecimal digits alone. The loop
keeps the address that the digits read so far spell, with zeros for the digits
that are missing, and it leaves the string only when it has twelve of them.
-/

namespace GatewaySocket

open ByteMemory

/-- The value of a hexadecimal digit, in either case. -/
def hexValue (c : Char) : Option ℕ :=
  ("0123456789ABCDEF".toList.idxOf? c).or ("0123456789abcdef".toList.idxOf? c)

/-- The values of the hexadecimal digits of a text, in their order. -/
def hexValues (s : String) : List ℕ := s.toList.filterMap hexValue

/-- The address that twelve digits spell, the high half of each octet first;
missing digits count as zeros. -/
def spelledMAC (ds : List ℕ) : EtherAddr :=
  Vector.ofFn fun i => UInt8.ofNat (16 * ds.getD (2 * i) 0 + ds.getD (2 * i + 1) 0)

/-! ## Digits -/

theorem hexToByte_eq (c : Char) : hexToByte c = (hexValue c).map UInt8.ofNat := by
  by_cases hascii : c.toNat < 128
  · have hall : ∀ n : Fin 128, hexToByte (Char.ofNat n) =
        (hexValue (Char.ofNat n)).map UInt8.ofNat := by decide +kernel
    have hc := hall ⟨c.toNat, hascii⟩
    rwa [Char.ofNat_toNat] at hc
  · have hnotmem : ∀ {ds : List Char}, (ds.all fun d => d.toNat < 128) = true →
        ds.idxOf? c = none := by
      intro ds hall
      rw [List.idxOf?_eq_none_iff]
      exact fun hmem => hascii (of_decide_eq_true (List.all_eq_true.mp hall c hmem))
    have hval : hexValue c = none := by
      rw [hexValue, hnotmem (by decide), hnotmem (by decide)]
      rfl
    have hnot : ∀ d : Char, d.toNat < 128 → ¬c ≤ d := by
      intro d hd hle
      have hle' : c.toNat ≤ d.toNat := UInt32.le_iff_toNat_le.mp (Char.le_def.mp hle)
      omega
    have hf := hnot 'f' (by decide)
    have hF := hnot 'F' (by decide)
    have h9 := hnot '9' (by decide)
    rw [hval, hexToByte, if_neg (fun h => hf h.2), if_neg (fun h => hF h.2),
      if_neg (fun h => h9 h.2)]
    rfl

theorem hexValue_lt {c : Char} {d : ℕ} (h : hexValue c = some d) : d < 16 := by
  rw [hexValue, Option.or_eq_some_iff] at h
  obtain h | ⟨-, h⟩ := h
  · exact (List.findIdx?_eq_some_iff_findIdx_eq.mp h).1
  · exact (List.findIdx?_eq_some_iff_findIdx_eq.mp h).1

theorem hexValue_hexDigit {n : ℕ} (h : n < 16) : hexValue (hexDigit n) = some n := by
  have hall : ∀ n : Fin 16, hexValue (hexDigit n) = some n.val := by decide
  exact hall ⟨n, h⟩

/-- The digits of a printed octet are its halves. -/
theorem filterMap_printOctet (b : UInt8) :
    (printOctet b).filterMap hexValue = [b.toNat / 16, b.toNat % 16] := by
  have hb : b.toNat < 256 := b.toNat_lt
  simp [printOctet, hexValue_hexDigit (show b.toNat / 16 < 16 by omega),
    hexValue_hexDigit (show b.toNat % 16 < 16 by omega)]

/-! ## The loop -/

section Loop

variable {ds : List ℕ} {d : ℕ}

@[simp] theorem getElem_spelledMAC (ds : List ℕ) {i : ℕ} (hi : i < 6) :
    (spelledMAC ds)[i] = UInt8.ofNat (16 * ds.getD (2 * i) 0 + ds.getD (2 * i + 1) 0) := by
  simp [spelledMAC]

/-- Digits after the twelfth do not matter. -/
theorem spelledMAC_append (xs : List ℕ) (h : 12 ≤ ds.length) :
    spelledMAC (ds ++ xs) = spelledMAC ds := by
  apply Vector.ext
  intro i hi
  rw [getElem_spelledMAC _ hi, getElem_spelledMAC _ hi, List.getD_append _ _ _ _ (by omega),
    List.getD_append _ _ _ _ (by omega)]

/-- The two halves of an octet put it together again. -/
theorem or_halves (b : UInt8) :
    UInt8.ofNat (b.toNat / 16) <<< 4 ||| UInt8.ofNat (b.toNat % 16) = b := by
  have hb : b.toNat < 256 := b.toNat_lt
  apply UInt8.toNat_inj.mp
  have hshift : (UInt8.ofNat (b.toNat / 16) <<< 4).toNat = (b.toNat / 16) <<< 4 := by
    have hfour : (4 : UInt8).toNat % 8 = 4 := rfl
    rw [UInt8.toNat_shiftLeft, UInt8.toNat_ofNat', hfour, Nat.mod_eq_of_lt (by omega),
      Nat.shiftLeft_eq]
    omega
  have hlow : b.toNat % 16 % 2 ^ 8 = b.toNat % 16 := Nat.mod_eq_of_lt (by omega)
  rw [UInt8.toNat_or, hshift, UInt8.toNat_ofNat', hlow,
    ← Nat.shiftLeft_add_eq_or_of_lt (show b.toNat % 16 < 2 ^ 4 by omega), Nat.shiftLeft_eq]
  omega

theorem shiftLeft_ofNat (h : d < 16) : UInt8.ofNat d <<< 4 = UInt8.ofNat (16 * d) := by
  have hall : ∀ d : Fin 16, UInt8.ofNat d <<< 4 = UInt8.ofNat (16 * d) := by decide
  exact hall ⟨d, h⟩

/-- The low half is put beside the high half. -/
theorem or_ofNat {a : ℕ} (ha : a < 16) (hd : d < 16) :
    UInt8.ofNat (16 * a) ||| UInt8.ofNat d = UInt8.ofNat (16 * a + d) := by
  have hhi : (16 * a + d) / 16 = a := by omega
  have hlo : (16 * a + d) % 16 = d := by omega
  have hbyte : (UInt8.ofNat (16 * a + d)).toNat = 16 * a + d := by
    rw [UInt8.toNat_ofNat', Nat.mod_eq_of_lt (by omega)]
  have hhalves := or_halves (UInt8.ofNat (16 * a + d))
  rwa [hbyte, hhi, hlo, shiftLeft_ofNat ha] at hhalves

/-- The next digit changes the octet it belongs to and no other. -/
theorem setIfInBounds_spelledMAC {k : ℕ} {v : UInt8} (hk : ds.length / 2 = k)
    (hv : v = UInt8.ofNat
      (16 * (ds ++ [d]).getD (2 * k) 0 + (ds ++ [d]).getD (2 * k + 1) 0)) :
    (spelledMAC ds).setIfInBounds k v = spelledMAC (ds ++ [d]) := by
  apply Vector.ext
  intro i hi
  rw [Vector.getElem_setIfInBounds hi, getElem_spelledMAC _ hi, getElem_spelledMAC _ hi]
  by_cases hEq : k = i
  · rw [if_pos hEq, hv, hEq]
  · have hsame : ∀ j, j ≠ ds.length → (ds ++ [d]).getD j 0 = ds.getD j 0 := by
      intro j hj
      by_cases hlt : j < ds.length
      · exact List.getD_append _ _ _ _ hlt
      · rw [List.getD_eq_default _ _ (by simp; omega), List.getD_eq_default _ _ (by omega)]
    rw [if_neg hEq, hsame _ (by omega), hsame _ (by omega)]

/-- The loop reads a digit into the high half of an octet. -/
theorem readMACLoop_high {k : ℕ} {hex : Char} {buf : List Char} (hk : k < 6)
    (hds : ds.length = 2 * k) (hval : hexValue hex = some d) :
    readMACLoop (spelledMAC ds) k false (hex :: buf) =
      readMACLoop (spelledMAC (ds ++ [d])) k true buf := by
  have hbyte : hexToByte hex = some (UInt8.ofNat d) := by rw [hexToByte_eq, hval, Option.map_some]
  have hget : (spelledMAC ds).toList.getD k 0 = 0 := by
    have hzero : (spelledMAC ds)[k] = 0 := by
      rw [getElem_spelledMAC _ hk, List.getD_eq_default _ _ (by omega),
        List.getD_eq_default _ _ (by omega)]
      rfl
    simpa [hk] using hzero
  have hset : (spelledMAC ds).setIfInBounds k ((0 : UInt8) ||| UInt8.ofNat d <<< 4) =
      spelledMAC (ds ++ [d]) := by
    apply setIfInBounds_spelledMAC (by omega)
    have hhigh : (ds ++ [d]).getD (2 * k) 0 = d := by simp [← hds]
    have hlow : (ds ++ [d]).getD (2 * k + 1) 0 = 0 := by simp [← hds]
    rw [hhigh, hlow, shiftLeft_ofNat (hexValue_lt hval), UInt8.zero_or, Nat.add_zero]
  simp only [readMACLoop, hk, if_true, hbyte, hget, hset]

/-- The loop reads a digit into the low half of an octet. -/
theorem readMACLoop_low {k : ℕ} {hex : Char} {buf : List Char} (hk : k < 6)
    (hds : ds.length = 2 * k + 1) (hlt : ∀ x ∈ ds, x < 16) (hval : hexValue hex = some d) :
    readMACLoop (spelledMAC ds) k true (hex :: buf) =
      readMACLoop (spelledMAC (ds ++ [d])) (k + 1) false buf := by
  have hbyte : hexToByte hex = some (UInt8.ofNat d) := by rw [hexToByte_eq, hval, Option.map_some]
  have hhigh : ds.getD (2 * k) 0 < 16 := by
    rw [List.getD_eq_getElem _ _ (by omega)]
    exact hlt _ (List.getElem_mem _)
  have hget : (spelledMAC ds).toList.getD k 0 = UInt8.ofNat (16 * ds.getD (2 * k) 0) := by
    have hoctet : (spelledMAC ds)[k] = UInt8.ofNat (16 * ds.getD (2 * k) 0) := by
      rw [getElem_spelledMAC _ hk, List.getD_eq_default _ _ (by omega : ds.length ≤ 2 * k + 1),
        Nat.add_zero]
    simpa [hk] using hoctet
  have hset : (spelledMAC ds).setIfInBounds k
      (UInt8.ofNat (16 * ds.getD (2 * k) 0) ||| UInt8.ofNat d) = spelledMAC (ds ++ [d]) := by
    apply setIfInBounds_spelledMAC (by omega)
    have hlow : (ds ++ [d]).getD (2 * k + 1) 0 = d := by simp [← hds]
    rw [List.getD_append _ _ _ _ (by omega), hlow, or_ofNat hhigh (hexValue_lt hval)]
  simp only [readMACLoop, hk, if_true, hbyte, hget, hset]

/-- **The loop of `readMAC`.** After the digits `ds` it has the address they
spell, and it leaves the string if the rest has the digits that are missing. -/
theorem readMACLoop_spelledMAC {start : ℕ} {goNext : Bool} (buf : List Char)
    (hds : ds.length = 2 * start + goNext.toNat) (hlen : ds.length ≤ 12)
    (hlt : ∀ x ∈ ds, x < 16) :
    readMACLoop (spelledMAC ds) start goNext buf =
      if 12 ≤ (ds ++ buf.filterMap hexValue).length then
        some (spelledMAC (ds ++ buf.filterMap hexValue)) else none := by
  have hgo : goNext.toNat ≤ 1 := Bool.toNat_le goNext
  induction buf generalizing ds start goNext with
  | nil =>
    rw [List.filterMap_nil, List.append_nil, readMACLoop]
    by_cases hfull : start < 6
    · rw [if_pos hfull, if_neg (by omega)]
    · rw [if_neg hfull, if_pos (by omega)]
  | cons hex buf ih =>
    by_cases hfull : start < 6
    · cases hval : hexValue hex with
      | none =>
        have hbyte : hexToByte hex = none := by rw [hexToByte_eq, hval, Option.map_none]
        rw [List.filterMap_cons_none hval, ← ih hds hlen hlt hgo]
        simp only [readMACLoop, hfull, if_true, hbyte]
      | some d =>
        have hmem : ∀ x ∈ ds ++ [d], x < 16 := by
          simpa [or_imp, forall_and] using ⟨hlt, hexValue_lt hval⟩
        rw [List.filterMap_cons_some hval, List.append_cons]
        cases goNext with
        | false =>
          have hnext : (ds ++ [d]).length = 2 * start + true.toNat := by simpa using hds
          rw [readMACLoop_high hfull hds hval, ih hnext (by rw [hnext]; simp; omega) hmem (by simp)]
        | true =>
          have hnext : (ds ++ [d]).length = 2 * (start + 1) + false.toNat := by
            simp at hds ⊢; omega
          rw [readMACLoop_low hfull hds hlt hval,
            ih hnext (by rw [hnext]; simp; omega) hmem (by simp)]
    · have hend : readMACLoop (spelledMAC ds) start goNext (hex :: buf) =
          some (spelledMAC ds) := by
        simp only [readMACLoop, hfull, if_false]
      rw [hend, if_pos (by rw [List.length_append]; omega), spelledMAC_append _ (by omega)]

end Loop

/-- What `readMAC` makes of a text. -/
theorem readMAC_eq (s : String) :
    readMAC s = if 12 ≤ (hexValues s).length then some (spelledMAC (hexValues s)) else none := by
  have hzero : Vector.replicate 6 0 = spelledMAC [] := by decide
  rw [readMAC, hzero]
  exact readMACLoop_spelledMAC s.toList rfl (by simp) (by simp)

/-- `readMAC` stays within the string exactly if it has twelve digits. -/
theorem readMAC_isSome_iff (s : String) : (readMAC s).isSome ↔ 12 ≤ (hexValues s).length := by
  rw [readMAC_eq]
  split <;> simp_all

/-- The empty column of a row without an address is read past its end. -/
theorem readMAC_empty : ¬(readMAC "").isSome := by
  decide

/-! ## Printed addresses -/

/-- The digits of a printed address are the halves of its octets. -/
theorem hexValues_printMAC (addr : EtherAddr) :
    hexValues (printMAC addr) = addr.toList.flatMap fun b => [b.toNat / 16, b.toNat % 16] := by
  have hcolon : hexValue ':' = none := by decide
  have hjoin : ∀ bs : List UInt8,
      ([':'].intercalate (bs.map printOctet)).filterMap hexValue =
        bs.flatMap fun b => [b.toNat / 16, b.toNat % 16] := by
    intro bs
    induction bs with
    | nil => rfl
    | cons b bs ih =>
      cases bs with
      | nil => simp [filterMap_printOctet]
      | cons b' bs =>
        rw [List.map_cons] at ih
        rw [List.map_cons, List.map_cons, List.intercalate_cons_cons, List.filterMap_append,
          List.filterMap_append, ih, filterMap_printOctet, List.filterMap_cons_none hcolon]
        rfl
  rw [hexValues, printMAC, String.toList_ofList, hjoin]

theorem spelledMAC_halves (addr : EtherAddr) :
    spelledMAC (addr.toList.flatMap fun b => [b.toNat / 16, b.toNat % 16]) = addr := by
  have hlist : addr.toList = [addr[0], addr[1], addr[2], addr[3], addr[4], addr[5]] := by
    apply List.ext_getElem
    · simp
    · intro i hi _
      rw [Vector.length_toList] at hi
      interval_cases i <;> simp
  have hoctet : ∀ b : UInt8, UInt8.ofNat (16 * (b.toNat / 16) + b.toNat % 16) = b := by
    intro b
    rw [Nat.div_add_mod, UInt8.ofNat_toNat]
  apply Vector.ext
  intro i hi
  rw [getElem_spelledMAC _ hi, hlist]
  interval_cases i <;> exact hoctet _

/-- Reading a printed address gives it back. -/
theorem readMAC_printMAC (addr : EtherAddr) : readMAC (printMAC addr) = some addr := by
  have hlen : (hexValues (printMAC addr)).length = 12 := by
    simp [hexValues_printMAC, List.length_flatMap, List.map_const']
  rw [readMAC_eq, if_pos (by omega), hexValues_printMAC, spelledMAC_halves]

/-- Different addresses are printed differently. -/
theorem printMAC_injective : Function.Injective printMAC := by
  intro a b h
  have hread := congrArg readMAC h
  rw [readMAC_printMAC, readMAC_printMAC] at hread
  exact Option.some.inj hread

/-- What is read depends on the first twelve digits only. -/
theorem spelledMAC_take (ds : List ℕ) : spelledMAC (ds.take 12) = spelledMAC ds := by
  by_cases hlen : 12 ≤ ds.length
  · have happ : spelledMAC (ds.take 12 ++ ds.drop 12) = spelledMAC (ds.take 12) :=
      spelledMAC_append (ds.drop 12) (by simp; omega)
    rw [List.take_append_drop] at happ
    exact happ.symm
  · rw [List.take_of_length_le (by omega)]

/-- **Text and bytes correspond.** A text with twelve digits is read as the
octets its first twelve digits spell, whatever stands between them; a printed
address reads back; two spellings of an address have one canonical text; and
the key made from an address is the canonical text of a stored spelling exactly
if the spelling is one of that address. -/
theorem readMAC_spelling :
    (∀ s, 12 ≤ (hexValues s).length → readMAC s = some (spelledMAC (hexValues s))) ∧
      (∀ addr, readMAC (printMAC addr) = some addr) ∧
      (∀ s t, 12 ≤ (hexValues s).length → (hexValues s).take 12 = (hexValues t).take 12 →
        (readMAC s).isSome ∧ (readMAC s).map printMAC = (readMAC t).map printMAC) ∧
      ∀ s addr, (readMAC s).map printMAC = some (printMAC addr) ↔ readMAC s = some addr := by
  have hread : ∀ s, 12 ≤ (hexValues s).length →
      readMAC s = some (spelledMAC (hexValues s)) := by
    intro s hlen
    rw [readMAC_eq, if_pos hlen]
  refine ⟨hread, readMAC_printMAC, ?_, ?_⟩
  · intro s t hlen htake
    have hlen' : 12 ≤ (hexValues t).length := by
      have hcount := congrArg List.length htake
      rw [List.length_take, List.length_take] at hcount
      omega
    have hsame : spelledMAC (hexValues s) = spelledMAC (hexValues t) := by
      rw [← spelledMAC_take, htake, spelledMAC_take]
    rw [hread s hlen, hread t hlen', hsame]
    exact ⟨rfl, rfl⟩
  · intro s addr
    rw [← Option.map_some, (Option.map_injective printMAC_injective).eq_iff]

/-- Two spellings of the address of the gateway. -/
theorem readMAC_spelling_gateway :
    (readMAC "78:19:f7:58:30:01").map printMAC = (readMAC "7819.F758.3001").map printMAC :=
  (readMAC_spelling.2.2.1 _ _ (by decide) (by decide)).2

end GatewaySocket
