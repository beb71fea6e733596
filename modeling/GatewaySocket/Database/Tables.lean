import GatewaySocket.Container.Assignment
import GatewaySocket.Container.KeyedTable
import Mathlib.Data.Int.Notation
import Mathlib.Data.Nat.Notation

/-!
# The database tables

The two tables and the prepared statements of `Database`, as functions on the
tables. `static_ip` is keyed by `ip` and `user` by `mac`. A query gives its rows
as a list; where SQL leaves their order open, the row that comes first is picked
by a number from outside.

`Tables.ipOf` is what the tables say about who holds which address text. Under
it the two updates of `create_dhcp` are the operations of an assignment.
-/

namespace GatewaySocket

/-- A row of `static_ip`. -/
structure StaticIpRow where
  ip : String
  mac : String
  isStatic : Bool
  deriving DecidableEq

/-- A row of `user`; `none` is NULL. -/
structure UserRow where
  mac : String
  ip : Option String
  accessed : Option ℤ
  deriving DecidableEq

structure Tables where
  staticIp : KeyedTable StaticIpRow StaticIpRow.ip
  user : KeyedTable UserRow UserRow.mac

/-- The row that comes first in a result of undetermined order. -/
def first {α : Type*} (choice : ℕ) (rows : List α) : Option α := rows[choice % rows.length]?

theorem first_eq_none_iff {α : Type*} {choice : ℕ} {rows : List α} :
    first choice rows = none ↔ rows = [] := by
  rw [first, List.getElem?_eq_none_iff]
  constructor
  · intro h
    by_contra hne
    exact absurd (Nat.mod_lt choice (List.length_pos_iff.mpr hne)) (Nat.not_lt.mpr h)
  · rintro rfl
    exact Nat.zero_le _

theorem mem_of_first {α : Type*} {choice : ℕ} {rows : List α} {r : α}
    (h : first choice rows = some r) : r ∈ rows :=
  List.mem_of_getElem? h

/-- The rows that ORDER BY accessed ASC may put first. -/
def stalest (rows : List (String × ℤ)) : List (String × ℤ) :=
  rows.filter fun x => rows.all fun y => x.2 ≤ y.2

namespace Tables

/-! ## Prepared statements -/

/-- SELECT mac FROM static_ip WHERE ip = ? -/
def selectMACwithIP (ip : String) (t : Tables) : List String :=
  (t.staticIp.rows.filter fun s => s.ip = ip).map StaticIpRow.mac

/-- SELECT * FROM static_ip -/
def selectAllIP (t : Tables) : List StaticIpRow := t.staticIp.rows

/-- SELECT * FROM user WHERE ip IS NOT NULL -/
def selectAllUser (t : Tables) : List UserRow := t.user.rows.filter fun r => r.ip.isSome

/-- SELECT ip FROM user WHERE mac = ? -/
def selectUserIPfromMAC (mac : String) (t : Tables) : List (Option String) :=
  (t.user.rows.filter fun r => r.mac = mac).map UserRow.ip

/-- UPDATE user SET accessed = ? WHERE mac = ?; the result counts the rows that are
changed, and not a row that has this access time already. -/
def updateAccessTime (utc : UInt64) (mac : String) (t : Tables) : ℕ × Tables :=
  (t.user.rows.countP fun r => r.mac = mac ∧ r.accessed ≠ some (utc.toNat : ℤ),
    { t with
      user := t.user.update (fun r => r.mac = mac) (fun r => { r with accessed := some utc.toNat })
        fun _ => rfl })

/-- SELECT S.ip FROM static_ip AS S WHERE S.isStatic = FALSE AND
(SELECT COUNT(ip) FROM user AS U WHERE U.ip = S.ip) = 0 -/
def selectUnusedDynamicIP (t : Tables) : List String :=
  (t.staticIp.rows.filter fun s =>
    s.isStatic = false ∧ t.user.rows.countP (fun r => r.ip = some s.ip) = 0).map StaticIpRow.ip

/-- SELECT S.ip FROM static_ip AS S, user AS U WHERE (S.isStatic = FALSE) AND
(S.ip = U.ip) AND (U.accessed < ?), each row with the U.accessed it is ordered by. -/
def selectUsingDynamicIP (before : UInt64) (t : Tables) : List (String × ℤ) :=
  t.staticIp.rows.flatMap fun s => t.user.rows.filterMap fun r =>
    match r.accessed with
    | some accessed =>
      if s.isStatic = false ∧ r.ip = some s.ip ∧ accessed < before.toNat then some (s.ip, accessed)
      else none
    | none => none

/-- UPDATE user SET ip = NULL WHERE ip = ? -/
def deleteDynamic (ip : String) (t : Tables) : Tables :=
  { t with
    user := t.user.update (fun r => r.ip = some ip) (fun r => { r with ip := none }) fun _ => rfl }

/-- UPDATE user SET ip = ? WHERE mac = ? -/
def insertDynamic (ip mac : String) (t : Tables) : Tables :=
  { t with
    user := t.user.update (fun r => r.mac = mac) (fun r => { r with ip := some ip }) fun _ => rfl }

variable {t : Tables} {ip mac : String} {before : UInt64}

/-- The MACs that have a row. -/
def macs (t : Tables) : List String := t.user.rows.map UserRow.mac

@[simp] theorem macs_updateAccessTime (utc : UInt64) (mac : String) (t : Tables) :
    (t.updateAccessTime utc mac).2.macs = t.macs := by
  simp [macs, updateAccessTime]

@[simp] theorem macs_deleteDynamic (ip : String) (t : Tables) :
    (t.deleteDynamic ip).macs = t.macs := by
  simp [macs, deleteDynamic]

@[simp] theorem macs_insertDynamic (ip mac : String) (t : Tables) :
    (t.insertDynamic ip mac).macs = t.macs := by
  simp [macs, insertDynamic]

/-! ## Who holds which address -/

/-- The address text in the row of a MAC. -/
def ipOf (t : Tables) : Assignment String String := fun mac => (t.user.row mac).bind UserRow.ip

theorem ipOf_eq_some_iff :
    t.ipOf mac = some ip ↔ ∃ r ∈ t.user.rows, r.mac = mac ∧ r.ip = some ip := by
  rw [ipOf, Option.bind_eq_some_iff]
  constructor
  · rintro ⟨r, hr, hip⟩
    obtain ⟨hmem, hmac⟩ := KeyedTable.row_eq_some_iff.mp hr
    exact ⟨r, hmem, hmac, hip⟩
  · rintro ⟨r, hmem, hmac, hip⟩
    exact ⟨r, KeyedTable.row_eq_some_iff.mpr ⟨hmem, hmac⟩, hip⟩

@[simp] theorem ipOf_updateAccessTime (utc : UInt64) (mac : String) (t : Tables) :
    (t.updateAccessTime utc mac).2.ipOf = t.ipOf := by
  funext m
  rw [ipOf, updateAccessTime, KeyedTable.row_update, ipOf]
  cases t.user.row m with
  | none => rfl
  | some r =>
      simp only [Option.map_some, Option.bind_some]
      split <;> rfl

@[simp] theorem ipOf_deleteDynamic (ip : String) (t : Tables) :
    (t.deleteDynamic ip).ipOf = t.ipOf.revoke ip := by
  funext m
  rw [ipOf, deleteDynamic, KeyedTable.row_update, Assignment.revoke, ipOf]
  cases t.user.row m with
  | none => rfl
  | some r =>
      simp only [Option.map_some, Option.bind_some, decide_eq_true_eq]
      split <;> rfl

/-- `insertDynamic` gives the address to a MAC that has a row. -/
theorem ipOf_insertDynamic {r : UserRow} (hr : t.user.row mac = some r) (ip : String) :
    (t.insertDynamic ip mac).ipOf = t.ipOf.give mac ip := by
  funext m
  rw [ipOf, insertDynamic, KeyedTable.row_update, Assignment.give_apply, ipOf]
  by_cases hm : m = mac
  · subst hm
    simp [hr, (KeyedTable.row_eq_some_iff.mp hr).2]
  · rw [if_neg hm]
    cases hrow : t.user.row m with
    | none => rfl
    | some s =>
        have hs : s.mac ≠ mac := by
          rw [(KeyedTable.row_eq_some_iff.mp hrow).2]
          exact hm
        simp [hs]

/-- Setting a row to the address it has changes nothing. -/
theorem insertDynamic_eq_self (hip : t.ipOf mac = some ip) : t.insertDynamic ip mac = t := by
  have hrows : (t.user.update (fun r => r.mac = mac) (fun r => { r with ip := some ip })
      fun _ => rfl) = t.user := by
    apply KeyedTable.update_eq_self
    intro r hr hmac
    obtain rfl := of_decide_eq_true hmac
    rw [ipOf, KeyedTable.row_key hr, Option.bind_some] at hip
    rw [← hip]
  rw [insertDynamic, hrows]

/-- The address is in `static_ip`, and not as a static one. -/
def Dynamic (t : Tables) (ip : String) : Prop :=
  ∃ s ∈ t.staticIp.rows, s.ip = ip ∧ s.isStatic = false

theorem mem_selectUnusedDynamicIP :
    ip ∈ t.selectUnusedDynamicIP ↔ t.Dynamic ip ∧ t.ipOf.Free ip := by
  have hcount : ∀ ip, t.user.rows.countP (fun r => r.ip = some ip) = 0 ↔ t.ipOf.Free ip := by
    intro ip
    rw [List.countP_eq_zero]
    constructor
    · intro h mac hmac
      obtain ⟨r, hr, -, hip⟩ := ipOf_eq_some_iff.mp hmac
      exact h r hr (by simpa using hip)
    · intro h r hr hip
      exact h r.mac (ipOf_eq_some_iff.mpr ⟨r, hr, rfl, by simpa using hip⟩)
  simp only [selectUnusedDynamicIP, List.mem_map, List.mem_filter, decide_eq_true_eq, hcount]
  constructor
  · rintro ⟨s, ⟨hs, hdyn, hfree⟩, rfl⟩
    exact ⟨⟨s, hs, rfl, hdyn⟩, hfree⟩
  · rintro ⟨⟨s, hs, rfl, hdyn⟩, hfree⟩
    exact ⟨s, ⟨hs, hdyn, hfree⟩, rfl⟩

theorem mem_selectUsingDynamicIP {accessed : ℤ} :
    (ip, accessed) ∈ t.selectUsingDynamicIP before ↔
      t.Dynamic ip ∧ accessed < before.toNat ∧
        ∃ r ∈ t.user.rows, r.ip = some ip ∧ r.accessed = some accessed := by
  simp only [selectUsingDynamicIP, List.mem_flatMap, List.mem_filterMap]
  constructor
  · rintro ⟨s, hs, r, hr, h⟩
    cases hacc : r.accessed with
    | none => simp [hacc] at h
    | some a =>
        simp only [hacc] at h
        split at h
        · next hcond =>
            obtain ⟨rfl, rfl⟩ : s.ip = ip ∧ a = accessed := by simpa using h
            exact ⟨⟨s, hs, rfl, hcond.1⟩, hcond.2.2, r, hr, hcond.2.1, hacc⟩
        · contradiction
  · rintro ⟨⟨s, hs, rfl, hdyn⟩, hlt, r, hr, hip, hacc⟩
    refine ⟨s, hs, r, hr, ?_⟩
    simp [hacc, hdyn, hip, hlt]

theorem selectUserIPfromMAC_head? :
    (t.selectUserIPfromMAC mac).head? = (t.user.row mac).map UserRow.ip := by
  rw [selectUserIPfromMAC, List.head?_map, List.head?_filter, KeyedTable.row]

theorem selectMACwithIP_head? :
    (t.selectMACwithIP ip).head? = (t.staticIp.row ip).map StaticIpRow.mac := by
  rw [selectMACwithIP, List.head?_map, List.head?_filter, KeyedTable.row]

/-- The update changes nothing where the MAC has no row, or one with the access time
that is written. -/
theorem updateAccessTime_fst_eq_zero {utc : UInt64} :
    (t.updateAccessTime utc mac).1 = 0 ↔
      ∀ r, t.user.row mac = some r → r.accessed = some (utc.toNat : ℤ) := by
  rw [updateAccessTime, List.countP_eq_zero]
  constructor
  · intro h r hrow
    obtain ⟨hr, hmac⟩ := KeyedTable.row_eq_some_iff.mp hrow
    have hsame := h r hr
    simpa [hmac] using hsame
  · intro h r hr
    by_cases hmac : r.mac = mac
    · have hsame := h r (KeyedTable.row_eq_some_iff.mpr ⟨hr, hmac⟩)
      simp [hsame]
    · simp [hmac]

end Tables

end GatewaySocket
