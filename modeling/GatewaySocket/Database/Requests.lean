import GatewaySocket.Database.Tables
import GatewaySocket.Gateway.State
import GatewaySocket.Packet.Spelling
import GatewaySocket.Transition.Session

/-!
# Processing a request

The bodies of the loops of `Database::create_dhcp` and `Database::update_time`:
what one request does in the database session, and which calls into the gateway
it makes afterwards. The two handlers differ in how they take an SQL exception:
`create_dhcp` ends the daemon, `update_time` goes on as if no row had matched.
-/

namespace GatewaySocket

open ByteMemory

/-- `DHCP_TIMEOUT`, in seconds. -/
abbrev dhcpTimeout : UInt32 := 7200

/-- What the options of the command line set. -/
structure Config where
  gatewayIP : InAddr
  subnetMask : InAddr
  dnsList : List InAddr
  timeout : UInt32

/-- What SQL leaves open in `create_dhcp`: which row comes first. -/
structure Choice where
  emptyIP : ℕ
  usingIP : ℕ

/-- What `create_dhcp` has made when it answers a request. -/
structure Answer where
  isDiscover : Bool
  userInfo : UserInfo
  packet : Packet

/-- The calls into the gateway for an answer. -/
def Answer.calls (a : Answer) : List Call :=
  (if a.isDiscover then [] else [.addUserInfo a.userInfo]) ++ [.sendPacketRequest a.packet]

/-- The answer with the address `ipAddr`. -/
def answer (cfg : Config) (request : DhcpRequest) (ipAddr : InAddr) (u : Indeterminate) : Answer :=
  let gatewayMac := (readMAC "78:19:f7:58:30:01").getD (Vector.replicate 6 0)
  let packet := (Packet.new myPacketLen (u.heap 0)).setLength myPacketLen
  let dhcp := (Packet.new myPacketLen (u.heap 1)).setLength
    ((myPacketLen - UDP.totalHeaderLen : ℕ) : ℤ)
  let (dhcp, dhcpLen) := DHCP.writeResponse dhcp 0 request.isDiscover (htons request.mtu)
    request.transID ipAddr request.mac cfg.gatewayIP cfg.subnetMask cfg.gatewayIP cfg.dnsList
    dhcpTimeout
  let dhcp := dhcp.setLength dhcpLen
  let (packet, udpLen) := UDP.makePacket packet gatewayMac request.mac cfg.gatewayIP ipAddr 67 68
    (image dhcp.inMemory dhcp.getLength.toNat) u
  { isDiscover := request.isDiscover
    userInfo := {
      ip := ipAddr
      userMac := request.mac
      lastAccess := 0
      timeout := cfg.timeout.toUInt64 }
    packet := packet.setLength udpLen }

/-- The branches of `create_dhcp` for a MAC without an address: an unused dynamic
address, or else the one of the user whose last access is longest ago. -/
def allocate (now : UInt64) (choice : Choice) : Sql Tables (Option String) := do
  let emptyIP ← Sql.executeQuery Tables.selectUnusedDynamicIP
  match first choice.emptyIP emptyIP with
  | some ip => return some ip
  | none =>
    let currentTime := now - (1000 * dhcpTimeout).toUInt64
    let usingIP ← Sql.executeQuery (Tables.selectUsingDynamicIP currentTime)
    match first choice.usingIP (stalest usingIP) with
    | some row =>
      Sql.statement fun t => ((), t.deleteDynamic row.1)
      return some row.1
    | none => return none

/-- The address that `create_dhcp` finds, if `found`: the one in the row of the
MAC, unless its text is empty. -/
def findAddress (ipStr : String) (now : UInt64) (choice : Choice) : Sql Tables (Option String) :=
  if ipStr.length = 0 then allocate now choice else pure (some ipStr)

/-- One round of `create_dhcp`. The text of a NULL address is empty. -/
def createDhcp (cfg : Config) (request : DhcpRequest) (now : UInt64) (choice : Choice)
    (u : Indeterminate) : Sql Tables (Option Answer) := do
  let macBuf := printMAC request.mac
  let result ← Sql.executeQuery (Tables.selectUserIPfromMAC macBuf)
  match result.head? with
  | none => return none
  | some ip =>
    let found ← findAddress (ip.getD "") now choice
    match found with
    | none => return none
    | some ipStr =>
      Sql.statement fun t => ((), t.insertDynamic ipStr macBuf)
      let result2 ← Sql.executeQuery (Tables.selectMACwithIP ipStr)
      match result2.head? with
      | none => return none
      | some _ => return some (answer cfg request (inetAddr ipStr) u)

/-- One round of `update_time`. -/
def updateTime (request : UpdateTime) : Sql Tables (List Call) := do
  let macBuf := printMAC request.mac
  let ret ← Sql.catching (Sql.statement (Tables.updateAccessTime request.utc macBuf))
    fun _ => return 0
  if ret = 0 then return [.delUserInfo request.ip] else return []

/-! ## What a request does -/

/-- The last moment before the timeout, as `create_dhcp` computes it. -/
def cutoff (now : UInt64) : UInt64 := now - (1000 * dhcpTimeout).toUInt64

/-- The MAC has a row without an address. -/
def Tables.Lacks (t : Tables) (mac : String) : Prop :=
  ∃ r, t.user.row mac = some r ∧ r.ip.getD "" = ""

instance (t : Tables) (mac : String) : Decidable (t.Lacks mac) :=
  decidable_of_iff ((t.user.row mac).any fun r => r.ip.getD "" = "") (by
    simp [Tables.Lacks, Option.any_eq_true])

/-- How a MAC comes by its address, and what the tables are then. -/
inductive Assigns (t : Tables) (mac : String) (now : UInt64) (choice : Choice) :
    Option String → Tables → Prop
  | unknown (hrow : t.user.row mac = none) : Assigns t mac now choice none t
  | kept (ip : String) (hip : t.ipOf mac = some ip) (hne : ip ≠ "") :
      Assigns t mac now choice (some ip) (t.insertDynamic ip mac)
  | unused (ip : String) (hlacks : t.Lacks mac)
      (hfirst : first choice.emptyIP t.selectUnusedDynamicIP = some ip) :
      Assigns t mac now choice (some ip) (t.insertDynamic ip mac)
  | evicted (ip : String) (accessed : ℤ) (hlacks : t.Lacks mac)
      (hnone : t.selectUnusedDynamicIP = [])
      (hfirst : first choice.usingIP (stalest (t.selectUsingDynamicIP (cutoff now))) =
        some (ip, accessed)) :
      Assigns t mac now choice (some ip) ((t.deleteDynamic ip).insertDynamic ip mac)
  | exhausted (hlacks : t.Lacks mac) (hnone : t.selectUnusedDynamicIP = [])
      (hfirst : first choice.usingIP (stalest (t.selectUsingDynamicIP (cutoff now))) = none) :
      Assigns t mac now choice none t

/-- The statements of `create_dhcp`. -/
inductive Statement
  | selectUserIPfromMAC
  | selectUnusedDynamicIP
  | selectUsingDynamicIP
  | deleteDynamic
  | insertDynamic
  | selectMACwithIP
  deriving DecidableEq

/-- The statements that give an address to a MAC, each with the tables in which it
is carried out. -/
def assignment (t : Tables) (ip mac : String) : List (Statement × Tables) :=
  [(.insertDynamic, t), (.selectMACwithIP, t.insertDynamic ip mac)]

/-- The statements for a MAC, in order. -/
def statements (t : Tables) (mac : String) (now : UInt64) (choice : Choice) :
    List (Statement × Tables) :=
  (.selectUserIPfromMAC, t) ::
    match t.user.row mac with
    | none => []
    | some r =>
      if r.ip.getD "" = "" then
        (.selectUnusedDynamicIP, t) ::
          match first choice.emptyIP t.selectUnusedDynamicIP with
          | some ip => assignment t ip mac
          | none =>
            (.selectUsingDynamicIP, t) ::
              match first choice.usingIP (stalest (t.selectUsingDynamicIP (cutoff now))) with
              | some row => (.deleteDynamic, t) :: assignment (t.deleteDynamic row.1) row.1 mac
              | none => []
      else assignment t (r.ip.getD "") mac

section CreateDhcp

variable {cfg : Config} {request : DhcpRequest} {now : UInt64} {choice : Choice}
  {u : Indeterminate} {s s' : Session Tables} {result : Option Answer} {t t' : Tables}
  {text : String}

theorem allocate_unused (hfirst : first choice.emptyIP t.selectUnusedDynamicIP = some text) :
    Sql.Runs (allocate now choice) t [t] t (some text) := by
  apply Sql.Runs.executeQuery_bind
  rw [hfirst]
  exact .pure t _

theorem allocate_evicted {accessed : ℤ} (hnone : t.selectUnusedDynamicIP = [])
    (hfirst : first choice.usingIP (stalest (t.selectUsingDynamicIP (cutoff now))) =
      some (text, accessed)) :
    Sql.Runs (allocate now choice) t [t, t, t] (t.deleteDynamic text) (some text) := by
  apply Sql.Runs.executeQuery_bind
  rw [first_eq_none_iff.mpr hnone]
  apply Sql.Runs.executeQuery_bind
  rw [cutoff] at hfirst
  rw [hfirst]
  exact .statement_bind (.pure _ _)

theorem allocate_exhausted (hnone : t.selectUnusedDynamicIP = [])
    (hfirst : first choice.usingIP (stalest (t.selectUsingDynamicIP (cutoff now))) = none) :
    Sql.Runs (allocate now choice) t [t, t] t none := by
  apply Sql.Runs.executeQuery_bind
  rw [first_eq_none_iff.mpr hnone]
  apply Sql.Runs.executeQuery_bind
  rw [cutoff] at hfirst
  rw [hfirst]
  exact .pure t _

/-- The address of a MAC is looked for in the tables `before`, and then assigned. -/
theorem createDhcp_found {r : UserRow} {before : List Tables}
    (hrow : t.user.row (printMAC request.mac) = some r)
    (hfind : Sql.Runs (findAddress (r.ip.getD "") now choice) t before t' (some text)) :
    Sql.Runs (createDhcp cfg request now choice u) t
      (t :: (before ++ (assignment t' text (printMAC request.mac)).map Prod.snd))
      (t'.insertDynamic text (printMAC request.mac))
      ((t'.staticIp.row text).map fun _ => answer cfg request (inetAddr text) u) := by
  apply Sql.Runs.executeQuery_bind
  rw [Tables.selectUserIPfromMAC_head?, hrow]
  apply hfind.bind
  apply Sql.Runs.statement_bind
  apply Sql.Runs.executeQuery_bind
  rw [Tables.selectMACwithIP_head?]
  change Sql.Runs (match (t'.staticIp.row text).map StaticIpRow.mac with
    | none => pure none
    | some _ => pure (some (answer cfg request (inetAddr text) u))) _ [] _ _
  cases t'.staticIp.row text with
  | none => exact .pure _ _
  | some row => exact .pure _ _

theorem createDhcp_not_found {r : UserRow} {before : List Tables}
    (hrow : t.user.row (printMAC request.mac) = some r)
    (hfind : Sql.Runs (findAddress (r.ip.getD "") now choice) t before t' none) :
    Sql.Runs (createDhcp cfg request now choice u) t (t :: before) t' none := by
  apply Sql.Runs.executeQuery_bind
  rw [Tables.selectUserIPfromMAC_head?, hrow, ← List.append_nil before]
  exact hfind.bind (.pure _ _)

theorem exists_assigns (t : Tables) (mac : String) (now : UInt64) (choice : Choice) :
    ∃ ip t', Assigns t mac now choice ip t' := by
  cases hrow : t.user.row mac with
  | none => exact ⟨_, _, .unknown hrow⟩
  | some r =>
      by_cases hempty : r.ip.getD "" = ""
      · have hlacks : t.Lacks mac := ⟨r, hrow, hempty⟩
        cases hunused : first choice.emptyIP t.selectUnusedDynamicIP with
        | some text => exact ⟨_, _, .unused text hlacks hunused⟩
        | none =>
            have hnone := first_eq_none_iff.mp hunused
            cases husing : first choice.usingIP
                (stalest (t.selectUsingDynamicIP (cutoff now))) with
            | some row => exact ⟨_, _, .evicted row.1 row.2 hlacks hnone husing⟩
            | none => exact ⟨_, _, .exhausted hlacks hnone husing⟩
      · have hip : t.ipOf mac = some (r.ip.getD "") := by
          rw [Tables.ipOf, hrow, Option.bind_some]
          cases hip : r.ip with
          | none => simp [hip] at hempty
          | some ip => rfl
        exact ⟨_, _, .kept _ hip hempty⟩

/-- The statements for a MAC that has an address. -/
theorem statements_kept {ip mac : String} (hip : t.ipOf mac = some ip) (hne : ip ≠ "") :
    statements t mac now choice = (.selectUserIPfromMAC, t) :: assignment t ip mac := by
  obtain ⟨r, hrow, hr⟩ := Option.bind_eq_some_iff.mp hip
  rw [statements, hrow]
  simp only [hr, Option.getD_some, if_neg hne]

/-- The statements for a MAC that has none. -/
theorem statements_lacks {mac : String} (hlacks : t.Lacks mac) :
    statements t mac now choice =
      (.selectUserIPfromMAC, t) :: (.selectUnusedDynamicIP, t) ::
        match first choice.emptyIP t.selectUnusedDynamicIP with
        | some ip => assignment t ip mac
        | none =>
          (.selectUsingDynamicIP, t) ::
            match first choice.usingIP (stalest (t.selectUsingDynamicIP (cutoff now))) with
            | some row => (.deleteDynamic, t) :: assignment (t.deleteDynamic row.1) row.1 mac
            | none => [] := by
  obtain ⟨r, hrow, hempty⟩ := hlacks
  rw [statements, hrow]
  simp only [if_pos hempty]

theorem createDhcp_runs_of_assigns {ip : Option String}
    (h : Assigns t (printMAC request.mac) now choice ip t') :
    Sql.Runs (createDhcp cfg request now choice u) t
      ((statements t (printMAC request.mac) now choice).map Prod.snd) t'
      (ip.bind fun ip => (t'.staticIp.row ip).map fun _ => answer cfg request (inetAddr ip) u) := by
  have hfind : ∀ text : String, text = "" → findAddress text now choice = allocate now choice :=
    fun text htext => if_pos (by rw [htext]; rfl)
  cases h with
  | unknown hrow =>
      simp only [statements, hrow]
      apply Sql.Runs.executeQuery_bind
      rw [Tables.selectUserIPfromMAC_head?, hrow]
      exact .pure t _
  | kept text hip hne =>
      rw [statements_kept hip hne]
      obtain ⟨r, hrow, hr⟩ := Option.bind_eq_some_iff.mp hip
      have hfound : Sql.Runs (findAddress (r.ip.getD "") now choice) t [] t (some text) := by
        rw [hr, Option.getD_some, findAddress, if_neg (by simpa using hne)]
        exact .pure t _
      exact createDhcp_found hrow hfound
  | unused text hlacks hfirst =>
      rw [statements_lacks hlacks, hfirst]
      obtain ⟨r, hrow, hempty⟩ := hlacks
      exact createDhcp_found hrow (hfind _ hempty ▸ allocate_unused hfirst)
  | evicted text accessed hlacks hnone hfirst =>
      rw [statements_lacks hlacks, first_eq_none_iff.mpr hnone, hfirst]
      obtain ⟨r, hrow, hempty⟩ := hlacks
      exact createDhcp_found hrow (hfind _ hempty ▸ allocate_evicted hnone hfirst)
  | exhausted hlacks hnone hfirst =>
      rw [statements_lacks hlacks, first_eq_none_iff.mpr hnone, hfirst]
      obtain ⟨r, hrow, hempty⟩ := hlacks
      exact createDhcp_not_found hrow (hfind _ hempty ▸ allocate_exhausted hnone hfirst)

/-- **The specification of `create_dhcp`.** Its statements are `statements`, they
assign as `Assigns` says, and the request is answered with the assigned address if
`static_ip` has it. -/
theorem createDhcp_runs (cfg : Config) (request : DhcpRequest) (now : UInt64) (choice : Choice)
    (u : Indeterminate) (t : Tables) :
    ∃ ip t', Assigns t (printMAC request.mac) now choice ip t' ∧
      Sql.Runs (createDhcp cfg request now choice u) t
        ((statements t (printMAC request.mac) now choice).map Prod.snd) t'
        (ip.bind fun ip => (t'.staticIp.row ip).map fun _ => answer cfg request (inetAddr ip) u) := by
  obtain ⟨ip, t', h⟩ := exists_assigns t (printMAC request.mac) now choice
  exact ⟨ip, t', h, createDhcp_runs_of_assigns h⟩

/-- A request that is processed without an exception assigns as `Assigns` says. -/
theorem createDhcp_ok (h : createDhcp cfg request now choice u s = (.ok result, s')) :
    ∃ ip, Assigns s.tables (printMAC request.mac) now choice ip s'.tables ∧
      result = ip.bind fun ip =>
        (s'.tables.staticIp.row ip).map fun _ => answer cfg request (inetAddr ip) u := by
  obtain ⟨ip, t', hassigns, hruns⟩ := createDhcp_runs cfg request now choice u s.tables
  obtain ⟨rfl, rfl⟩ := hruns.ok h
  exact ⟨ip, hassigns, rfl⟩

end CreateDhcp

/-- **The specification of `update_time`.** The exception of the update is caught
and counts as no changed row; only for a MAC that has a row is there no deletion. -/
theorem updateTime_ok {request : UpdateTime} {s s' : Session Tables} {calls : List Call}
    (h : updateTime request s = (.ok calls, s')) :
    (s'.tables = s.tables ∨
      s'.tables = (s.tables.updateAccessTime request.utc (printMAC request.mac)).2) ∧
    (calls = [.delUserInfo request.ip] ∨
      calls = [] ∧ s.tables.user.row (printMAC request.mac) ≠ none) := by
  obtain ⟨ret, s₁, hcatch, h⟩ := Sql.bind_ok h
  have hcalls : s' = s₁ ∧ calls = if ret = 0 then [.delUserInfo request.ip] else [] := by
    split at h
    · next hzero =>
        obtain ⟨rfl, rfl⟩ := Sql.pure_ok h
        exact ⟨rfl, (if_pos hzero).symm⟩
    · next hne =>
        obtain ⟨rfl, rfl⟩ := Sql.pure_ok h
        exact ⟨rfl, (if_neg hne).symm⟩
  obtain ⟨rfl, rfl⟩ := hcalls
  rcases Sql.catching_ok hcatch with hupdate | ⟨e, s₂, herror, hzero⟩
  · obtain ⟨rfl, hs'⟩ := Sql.statement_ok hupdate
    refine ⟨.inr hs', ?_⟩
    split
    · exact .inl rfl
    · next hne =>
        refine .inr ⟨rfl, fun hnone => hne (Tables.updateAccessTime_fst_eq_zero.mpr fun r hrow => ?_)⟩
        rw [hnone] at hrow
        contradiction
  · obtain ⟨rfl, rfl⟩ := Sql.pure_ok hzero
    exact ⟨.inl (Sql.statement_error herror), .inl rfl⟩

end GatewaySocket
