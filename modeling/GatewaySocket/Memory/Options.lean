import Mathlib.Data.List.Basic
import Mathlib.Tactic.Common

/-!
# Options by type, length and value

An option is a byte for its type, a byte for the length of its value, and the
value. Type 0 is a single byte of padding and type 255 ends the options. `walk`
reads options off a list of bytes as a receiver does, and `encode` is how a
sender writes them. The length has to fit its byte: the walk over an encoding
meets the options that were encoded exactly if every value is shorter than 256.
-/

namespace TypeLengthValue

/-- The type of an option with its value. -/
abbrev Item := UInt8 × List UInt8

abbrev pad : UInt8 := 0

abbrev endMark : UInt8 := 255

/-- Skip some bytes and walk over the rest: the options met, and what follows the
end option, if the walk gets there. -/
def walkFrom : ℕ → List UInt8 → List Item × Option (List UInt8)
  | _, [] => ([], none)
  | skip + 1, _ :: bytes => walkFrom skip bytes
  | 0, code :: bytes =>
    if code = pad then walkFrom 0 bytes
    else if code = endMark then ([], some bytes)
    else
      match bytes with
      | [] => ([], none)
      | len :: bytes =>
        if len.toNat ≤ bytes.length then
          let (items, rest) := walkFrom len.toNat bytes
          ((code, bytes.take len.toNat) :: items, rest)
        else ([], none)

def walk (bytes : List UInt8) : List Item × Option (List UInt8) := walkFrom 0 bytes

/-- The bytes of an option. -/
def encodeItem (item : Item) : List UInt8 := item.1 :: UInt8.ofNat item.2.length :: item.2

def encode (items : List Item) : List UInt8 := items.flatMap encodeItem

/-- The value of the first option of the type. -/
def find (code : UInt8) : List Item → Option (List UInt8)
  | [] => none
  | item :: items => if item.1 = code then some item.2 else find code items

/-- The type is neither that of padding nor that of the end. -/
def Item.Proper (item : Item) : Prop := item.1 ≠ pad ∧ item.1 ≠ endMark

instance : DecidablePred Item.Proper := fun _ => inferInstanceAs (Decidable (_ ∧ _))

variable {items : List Item} {item : Item} {bytes rest : List UInt8}

@[simp] theorem length_encodeItem (item : Item) : (encodeItem item).length = item.2.length + 2 := by
  simp [encodeItem]

theorem walkFrom_eq (skip : ℕ) (bytes : List UInt8) : walkFrom skip bytes = walk (bytes.drop skip) := by
  induction bytes generalizing skip with
  | nil => simp [walk, walkFrom]
  | cons b bytes ih =>
      cases skip with
      | zero => rfl
      | succ skip => simp [walkFrom, ih]

@[simp] theorem walk_end (bytes : List UInt8) : walk (endMark :: bytes) = ([], some bytes) := by
  have hne : endMark ≠ pad := by decide
  cases bytes <;> simp [walk, walkFrom, hne]

/-- A proper option is read with as many bytes as its length byte says. -/
theorem walk_cons {code len : UInt8} (h : code ≠ pad ∧ code ≠ endMark)
    (hlen : len.toNat ≤ bytes.length) :
    walk (code :: len :: bytes) =
      ((code, bytes.take len.toNat) :: (walk (bytes.drop len.toNat)).1,
        (walk (bytes.drop len.toNat)).2) := by
  rw [walk, walkFrom, if_neg h.1, if_neg h.2]
  simp only [if_pos hlen, walkFrom_eq]

theorem walk_encodeItem (h : item.Proper) (hlen : item.2.length < 256) :
    walk (encodeItem item ++ rest) = (item :: (walk rest).1, (walk rest).2) := by
  have hbyte : (UInt8.ofNat item.2.length).toNat = item.2.length := by
    simp only [UInt8.toNat_ofNat']
    omega
  rw [encodeItem, List.cons_append, List.cons_append, walk_cons h (by simp [hbyte]), hbyte,
    List.take_left, List.drop_left]

/-- **Round trip.** The walk meets the options that were encoded. -/
theorem walk_encode (hproper : ∀ item ∈ items, item.Proper)
    (hlen : ∀ item ∈ items, item.2.length < 256) :
    walk (encode items ++ rest) = (items ++ (walk rest).1, (walk rest).2) := by
  induction items with
  | nil => simp [encode]
  | cons item items ih =>
      simp only [List.mem_cons, forall_eq_or_imp] at hproper hlen
      have htail := ih hproper.2 hlen.2
      rw [encode, List.flatMap_cons, List.append_assoc, walk_encodeItem hproper.1 hlen.1, ← encode,
        htail, List.cons_append]

/-- Only where every value is that short. -/
theorem walk_encode_iff (hproper : ∀ item ∈ items, item.Proper) :
    walk (encode items ++ endMark :: rest) = (items, some rest) ↔
      ∀ item ∈ items, item.2.length < 256 := by
  constructor
  · intro h
    induction items with
    | nil => simp
    | cons item items ih =>
        simp only [List.mem_cons, forall_eq_or_imp] at hproper ⊢
        rw [encode, List.flatMap_cons, List.append_assoc, ← encode] at h
        have hle : (UInt8.ofNat item.2.length).toNat ≤
            (item.2 ++ (encode items ++ endMark :: rest)).length := by
          simp only [UInt8.toNat_ofNat', List.length_append]
          omega
        have hhead := h
        rw [encodeItem, List.cons_append, List.cons_append, walk_cons hproper.1 hle] at hhead
        -- the value read is no longer than its length byte
        have hshort : item.2.length < 256 := by
          have hvalue := congrArg (fun x => x.1.head?) hhead
          simp only [List.head?_cons, Option.some.injEq] at hvalue
          have hlength := congrArg (fun x => x.2.length) hvalue
          simp only [List.length_take, UInt8.toNat_ofNat'] at hlength
          omega
        rw [walk_encodeItem hproper.1 hshort, Prod.mk.injEq, List.cons.injEq] at h
        exact ⟨hshort, ih hproper.2 (Prod.ext h.1.2 h.2)⟩
  · intro h
    rw [walk_encode hproper h]
    simp

end TypeLengthValue
