import GatewaySocket.Database.Process

/-!
# Access times

The access time of a client is written by `update_time` alone. Assigning
addresses moves them between rows and leaves the access times where they are.
-/

namespace GatewaySocket

open ByteMemory

/-- A value in range is read as it is. -/
theorem toNat_ofInt {a : ℤ} (hnonneg : 0 ≤ a) (hlt : a.toNat < UInt64.size) :
    (UInt64.ofInt a).toNat = a.toNat := by
  simp only [UInt64.size] at hlt
  have hmod : (a % 18446744073709551616).toNat = a.toNat := by
    rw [Int.emod_eq_of_lt hnonneg (by omega)]
  exact (UInt64.toNat_ofNat_of_lt' (by simp only [UInt64.size]; omega)).trans hmod

theorem ofInt_toNat (time : UInt64) : UInt64.ofInt time.toNat = time :=
  UInt64.toNat.inj (toNat_ofInt (Int.natCast_nonneg _) time.toNat_lt)

namespace Tables

variable {cfg : Config} {t t' : Tables} {mac : EtherAddr} {o : Outcome}

theorem mem_macs_iff {m : String} : m ∈ t.macs ↔ t.user.row m ≠ none := by
  rw [Ne, KeyedTable.row_eq_none_iff, macs, List.mem_map]
  simp

/-- The access time in the row of a client, as `getAllUser` reads it. -/
def accessedOf (t : Tables) (mac : EtherAddr) : UInt64 :=
  UInt64.ofInt (((t.user.row (printMAC mac)).bind UserRow.accessed).getD 0)

@[simp] theorem accessedOf_insertDynamic (ip m : String) :
    (t.insertDynamic ip m).accessedOf mac = t.accessedOf mac := by
  rw [accessedOf, insertDynamic, KeyedTable.row_update, accessedOf]
  cases t.user.row (printMAC mac) with
  | none => rfl
  | some r =>
      simp only [Option.map_some, Option.bind_some]
      split <;> rfl

@[simp] theorem accessedOf_deleteDynamic (ip : String) :
    (t.deleteDynamic ip).accessedOf mac = t.accessedOf mac := by
  rw [accessedOf, deleteDynamic, KeyedTable.row_update, accessedOf]
  cases t.user.row (printMAC mac) with
  | none => rfl
  | some r =>
      simp only [Option.map_some, Option.bind_some]
      split <;> rfl

/-- The update sets the access time of a client that has a row, and of no other. -/
theorem accessedOf_updateAccessTime (hrow : t.user.row (printMAC mac) ≠ none) (utc : UInt64)
    (mac' : EtherAddr) :
    (t.updateAccessTime utc (printMAC mac')).2.accessedOf mac =
      if mac' = mac then utc else t.accessedOf mac := by
  obtain ⟨r, hr⟩ := Option.ne_none_iff_exists'.mp hrow
  obtain ⟨-, hmac⟩ := KeyedTable.row_eq_some_iff.mp hr
  rw [accessedOf, updateAccessTime, KeyedTable.row_update, accessedOf, hr]
  by_cases heq : mac' = mac
  · subst heq
    simp [hmac, ofInt_toNat]
  · have hne : ¬printMAC mac = printMAC mac' := fun h => heq (printMAC_injective h).symm
    simp [hmac, hne, heq]

theorem accessedOf_of_assigns {m : String} {now : UInt64} {choice : Choice}
    {ip : Option String} (h : Assigns t m now choice ip t') : t'.accessedOf mac = t.accessedOf mac := by
  cases h <;> simp

/-- A DHCP request writes no access time. -/
theorem accessedOf_dhcp {request : DhcpRequest} {now : UInt64} {choice : Choice}
    {u : Indeterminate} {fault : Option ℕ}
    (h : t.process cfg (.dhcp request now choice u fault) = some o) :
    o.tables.accessedOf mac = t.accessedOf mac := by
  obtain ⟨ip, hassigns, -, -⟩ := process_dhcp h
  exact accessedOf_of_assigns hassigns

/-- Without an exception the update is carried out. -/
theorem updateTime_tables {request : UpdateTime} {fault : Option ℕ} (hfault : fault ≠ some 0) :
    (updateTime request ⟨t, fault⟩).2.tables =
      (t.updateAccessTime request.utc (printMAC request.mac)).2 := by
  have hstatement : ∃ n, Sql.catching (Sql.statement (Tables.updateAccessTime request.utc
      (printMAC request.mac))) (fun _ => pure 0) ⟨t, fault⟩ =
      (.ok (t.updateAccessTime request.utc (printMAC request.mac)).1,
        ⟨(t.updateAccessTime request.utc (printMAC request.mac)).2, n⟩) := by
    cases fault with
    | none => exact ⟨none, rfl⟩
    | some n =>
        cases n with
        | zero => exact absurd rfl hfault
        | succ n => exact ⟨some n, rfl⟩
  obtain ⟨n, hn⟩ := hstatement
  simp only [updateTime, bind, hn]
  split <;> rfl

/-- An update that raises no exception is what the client's row says afterwards. -/
theorem accessedOf_update {request : UpdateTime} {fault : Option ℕ}
    (h : t.process cfg (.update request fault) = some o) (hrow : t.user.row (printMAC mac) ≠ none)
    (hfault : request.mac = mac → fault ≠ some 0) :
    o.tables.accessedOf mac = if request.mac = mac then request.utc else t.accessedOf mac := by
  simp only [process] at h
  split at h
  · next calls s hs =>
      obtain rfl := Option.some.inj h
      by_cases hmac : request.mac = mac
      · have htables : (updateTime request ⟨t, fault⟩).2.tables =
            (t.updateAccessTime request.utc (printMAC request.mac)).2 :=
          updateTime_tables (hfault hmac)
        rw [hs] at htables
        rw [htables, accessedOf_updateAccessTime hrow]
      · rw [if_neg hmac]
        rcases (updateTime_ok hs).1 with hsame | hupdated
        · rw [hsame]
        · rw [hupdated, accessedOf_updateAccessTime hrow, if_neg hmac]
  · contradiction

/-- A granted entry starts without an access time, for a client with a row. -/
theorem entry_of_addUserInfo {a : Request} {info : UserInfo} (h : t.process cfg a = some o)
    (hcall : .addUserInfo info ∈ o.calls) :
    info.lastAccess = 0 ∧ info.timeout = cfg.timeout.toUInt64 ∧
      t.user.row (printMAC info.userMac) ≠ none := by
  obtain ⟨ans, hans, -, rfl⟩ := answer_of_addUserInfo h hcall
  obtain ⟨r, now, choice, u, fault, text, -, hrow, -, -, rfl⟩ := answer_eq h hans
  exact ⟨rfl, rfl, hrow⟩

end Tables

end GatewaySocket
