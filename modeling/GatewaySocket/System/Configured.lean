import GatewaySocket.CommandLine.Mandatory
import GatewaySocket.Database.Answered
import GatewaySocket.System.Activity
import GatewaySocket.System.Bounds
import GatewaySocket.System.Pipeline

/-!
# What the command line is good for

The addresses on the command line go from `getopt_long` into the variables of
`main`, into the database, and with every answer to the clients; the timeout goes
into the entries of the users. At the end a client reads in its reply what was
written on the command line, and every entry has the timeout that was asked for.
-/

namespace GatewaySocket

open ByteMemory Transition Tables Getopt

/-- What the database is made with, as the options say: the last of each counts, and
of the name servers all. -/
def configOf (calls : List (Getopt.Call Code)) : Config where
  gatewayIP := ((given (.flag 1) calls).getLast?.map inetAddr).getD (Vector.replicate 4 0)
  subnetMask := ((given (.flag 2) calls).getLast?.map inetAddr).getD (Vector.replicate 4 0)
  dnsList := (given dns calls).map inetAddr
  timeout := (((given (.val 't') calls).getLast?.map fun text =>
    if atoi text < 0 then 10000 else atoi text).getD 10000).toUInt32

theorem Main.Holds.config {m : Main} {calls : List (Getopt.Call Code)} (h : m.Holds calls) :
    m.config = configOf calls := by
  rw [Main.config, h.gatewayIP, h.subnetMask, h.dnsList, h.timeout]
  rfl

/-- An option that is not understood ends in `help`. -/
theorem Main.unknown_notMem_of_readAll {calls : List (Getopt.Call Code)} {m m' : Main}
    (h : m.readAll calls = some m') : .unknown ∉ calls := by
  induction calls generalizing m with
  | nil => exact List.not_mem_nil
  | cons call calls ih =>
      cases call with
      | unknown => contradiction
      | opt code optarg =>
          rw [Main.readAll] at h
          split at h
          · contradiction
          · next m₁ hread =>
              intro hmem
              rcases List.mem_cons.mp hmem with hhead | htail
              · contradiction
              · exact ih h htail

/-- Where `main` proceeds, the database is made with what the options say. -/
theorem config_of_proceeds {posixlyCorrect : Bool} {args : List String} {m : Main}
    (h : startup posixlyCorrect args = .proceeds m) :
    m.config = configOf (optionTable.getoptLong posixlyCorrect args) := by
  have hknown : .unknown ∉ optionTable.getoptLong posixlyCorrect args := by
    cases hread : Main.readAll {} (optionTable.getoptLong posixlyCorrect args) with
    | none =>
        rw [startup, hread] at h
        contradiction
    | some m' => exact Main.unknown_notMem_of_readAll hread
  obtain ⟨m', hholds, hstartup⟩ := startup_of_known hknown
  rw [hstartup] at h
  split at h
  · obtain rfl := Startup.proceeds.inj h
    exact hholds.config
  · contradiction

section

variable {cfg : Config} {request : DhcpRequest} {ip : InAddr} {leaseTime : UInt32}

/-- But for the lease time, the client reads what the server means. -/
theorem means_replyOf (hdns : cfg.dnsList ≠ []) :
    Means cfg request ip (ntohl (hostWord leaseTime)) (replyOf cfg request ip leaseTime) := by
  have hoption : ∀ code, (replyOf cfg request ip leaseTime).option code =
      TypeLengthValue.find code (responseTo cfg request ip leaseTime).options := fun _ => rfl
  exact {
    op := rfl
    xid := rfl
    yiaddr := rfl
    chaddr := rfl
    messageType := by
      rw [DHCP.Reply.messageType, hoption]
      rfl
    serverIdentifier := by
      simp [DHCP.Reply.serverIdentifier, hoption, responseTo, DHCP.Response.options,
        TypeLengthValue.find]
    leaseTime := leaseTime_replyOf
    subnetMask := by
      simp [DHCP.Reply.subnetMask, hoption, responseTo, DHCP.Response.options,
        TypeLengthValue.find]
    routers := by
      simp [DHCP.Reply.routers, hoption, responseTo, DHCP.Response.options, TypeLengthValue.find,
        routers_option]
    interfaceMtu := by
      simp [DHCP.Reply.interfaceMtu, hoption, responseTo, DHCP.Response.options,
        TypeLengthValue.find, ntohs_htons]
    domainNameServers := by
      simp [DHCP.Reply.domainNameServers, hoption, responseTo, DHCP.Response.options,
        TypeLengthValue.find, DHCP.someAddresses_flatMap hdns] }

end

namespace System

variable {cfg : Config} {s s' s₀ : System} {ev : Event} {es : List Event} {t₀ : Tables}
  {inHeap outHeap : Memory} {info : UserInfo}

/-! ## Timeouts -/

theorem timeout_step (hs : ∀ info, s.Knows info → info.timeout = cfg.timeout.toUInt64)
    (hstep : s.step cfg ev = some s') :
    ∀ info, s'.Knows info → info.timeout = cfg.timeout.toUInt64 := by
  intro info hk
  rcases knows_cases hstep hk with hold | ⟨a, old, rfl, ⟨f, u, -, hknown, -⟩, rfl⟩ | ⟨a, o, ho, hcall⟩
  · exact hs info hold
  · exact hs old (.inl (Gateway.known_eq_some hknown).1)
  · exact (entry_of_addUserInfo ho hcall).2.1

/-- Every entry has the timeout that the daemon was started with. -/
theorem timeout_run (hstart : start cfg t₀ inHeap outHeap = some s₀)
    (hrun : run (step cfg) s₀ es = some s) (hk : s.Knows info) :
    info.timeout = cfg.timeout.toUInt64 := by
  refine run_induction (P := fun m => ∀ info, m.Knows info → info.timeout = cfg.timeout.toUInt64)
    (fun _ _ _ hm hstep => timeout_step hm hstep) ?_ hrun info hk
  intro loaded hloaded
  obtain ⟨-, -, -, -, -, htimeout⟩ := loaded_of_knows (started hstart) hloaded
  exact htimeout

/-! ## Replies -/

/-- What `create_dhcp` builds for a request is its reply, with what the server means. -/
theorem Built.reply {x : System × Event} {packet : Packet} {out : Frame} (h : Built cfg x packet)
    (hdns : cfg.dnsList ≠ []) (hlen : cfg.dnsList.length ≤ 63)
    (hout : out ∈ Device.writePacket packet.inMemory packet.getLength) :
    ∃ request ip reply, .createDhcp request ∈ (processed cfg x).map Prod.fst ∧
      out.IsReply request ip ∧ DHCP.Reply.decode (out.drop out.udpPayload) = some reply ∧
      Means cfg request ip (ntohl (hostWord dhcpTimeout)) reply := by
  obtain ⟨r, now, choice, u, fault, temp, o, ans, hev, htemp, ho, hans, rfl⟩ := h
  obtain ⟨r', _, _, u', _, text, hr, -, -, -, rfl⟩ := answer_eq ho hans
  obtain ⟨rfl, -⟩ : r = r' ∧ True := by
    injection hr with hr
    exact ⟨hr, trivial⟩
  refine ⟨r, inetAddr text, replyOf cfg r (inetAddr text) dhcpTimeout, ?_, ?_, ?_,
    means_replyOf hdns⟩
  · simp [processed, hev, htemp, Job.request, ho]
  all_goals
    rw [answer_packet_eq hlen, (Packet.front_holds rfl).writePacket] at hout
    obtain rfl := List.mem_singleton.mp hout
  · exact isReply_frame hlen
  · rw [UDP.Datagram.drop_frame]
    exact decode_payload hlen

/-- Whatever comes from the port of a server to that of a client has been built. -/
theorem built_run (hstart : start cfg t₀ inHeap outHeap = some s₀)
    (hrun : run (step cfg) s₀ es = some s) {out : Frame}
    (hout : out ∈ (history (step cfg) s₀ es).flatMap fun x => (emission x).toInside)
    (hudp : out.IsUDP 67 68) :
    ∃ x ∈ history (step cfg) s₀ es, ∃ packet, Built cfg x packet ∧
      out ∈ Device.writePacket packet.inMemory packet.getLength := by
  obtain ⟨y, hy, hmem⟩ := List.mem_flatMap.mp hout
  have hall : Sources cfg (history (step cfg) s₀ es) s ∧ ∀ y ∈ history (step cfg) s₀ es,
      ∀ out ∈ (emission y).toInside, out.IsUDP 67 68 → ∃ x ∈ history (step cfg) s₀ es,
        ∃ packet, Built cfg x packet ∧ out ∈ Device.writePacket packet.inMemory packet.getLength := by
    refine history_induction (P := fun h m => Sources cfg h m ∧ ∀ y ∈ h,
      ∀ out ∈ (emission y).toInside, out.IsUDP 67 68 → ∃ x ∈ h,
        ∃ packet, Built cfg x packet ∧ out ∈ Device.writePacket packet.inMemory packet.getLength)
      ?_ ⟨sources_start hstart, fun _ => nofun⟩ hrun
    intro h m ev m' ⟨hm, hbuilt⟩ hstep
    refine ⟨sources_step hm hstep, fun y hy out hout hudp => ?_⟩
    rcases List.mem_append.mp hy with hold | hnew
    · obtain ⟨x, hx, hpacket⟩ := hbuilt y hold out hout hudp
      exact ⟨x, List.mem_append_left _ hx, hpacket⟩
    · obtain rfl := List.mem_singleton.mp hnew
      cases steps_of_step hstep with
      | gateway hopen hexec =>
          rw [emission_gateway hexec] at hout
          obtain ⟨-, packet, hqueued, hmem⟩ := Loop.queued_of_server_toInside hexec hout hudp
          obtain ⟨x, z, hsub, hx, -⟩ := hm.queued packet hqueued
          exact ⟨x, List.mem_append_left _ (hsub.subset List.mem_cons_self), packet, hx, hmem⟩
      | poll | dispatch | serve | deliver | others => contradiction
  exact hall.2 y hy out hmem hudp

/-- **The command line reaches the clients.** Where `main` proceeds with one to 63 name
servers, every datagram that is ever written from the port of a DHCP server to that
of a client is the reply to a request that was processed, and the client reads in it
the last gateway address and the last subnet mask of the command line and all of its
name servers in their order. Every entry of a user has the timeout that the command
line asks for. -/
theorem configured_run {posixlyCorrect : Bool} {args : List String} {m : Main}
    {calls : List (Getopt.Call Code)} (hproceeds : startup posixlyCorrect args = .proceeds m)
    (hcalls : optionTable.getoptLong posixlyCorrect args = calls) (hdns : given dns calls ≠ [])
    (hlen : (given dns calls).length ≤ 63)
    (hstart : start m.config t₀ inHeap outHeap = some s₀)
    (hrun : run (step m.config) s₀ es = some s) :
    (∀ out ∈ (history (step m.config) s₀ es).flatMap (fun x => (emission x).toInside),
      out.IsUDP 67 68 → ∃ request ip reply,
        .createDhcp request ∈
          ((history (step m.config) s₀ es).flatMap (processed m.config)).map Prod.fst ∧
        out.IsReply request ip ∧ DHCP.Reply.decode (out.drop out.udpPayload) = some reply ∧
        Means (configOf calls) request ip (ntohl (hostWord dhcpTimeout)) reply) ∧
    ∀ info, s.Knows info → info.timeout = (configOf calls).timeout.toUInt64 := by
  have hconfig : m.config = configOf calls := hcalls ▸ config_of_proceeds hproceeds
  have hservers : m.config.dnsList = (given dns calls).map inetAddr := by rw [hconfig]; rfl
  constructor
  · intro out hout hudp
    obtain ⟨x, hx, packet, hbuilt, hmem⟩ := built_run hstart hrun hout hudp
    obtain ⟨request, ip, reply, hrequest, hreply, hdecode, hmeans⟩ := hbuilt.reply
      (by rwa [hservers, Ne, List.map_eq_nil_iff]) (by rwa [hservers, List.length_map]) hmem
    refine ⟨request, ip, reply, ?_, hreply, hdecode, hconfig ▸ hmeans⟩
    rw [List.map_flatMap]
    exact List.mem_flatMap.mpr ⟨x, hx, hrequest⟩
  · intro info hk
    exact hconfig ▸ timeout_run hstart hrun hk

/-- The second client is told the server on the command line. -/
theorem configured_run_dns :
    ∃ m s₀ s, startup false ("--dns" :: "8.8.8.8" :: sampleArgs) = .proceeds m ∧
      start m.config sampleTables (fun _ => 0) (fun _ => 0) = some s₀ ∧
      run (step m.config) s₀ (sampleGrantRun 8) = some s ∧
      ∃ out ∈ (history (step m.config) s₀ (sampleGrantRun 8)).flatMap (fun x => (emission x).toInside),
        ∃ reply, DHCP.Reply.decode (out.drop out.udpPayload) = some reply ∧
          reply.domainNameServers = some [inetAddr "8.8.8.8"] := by
  have hproceeds : ∃ m, startup false ("--dns" :: "8.8.8.8" :: sampleArgs) = .proceeds m :=
    ⟨_, rfl⟩
  obtain ⟨m, hm⟩ := hproceeds
  have hcalls : (given dns (optionTable.getoptLong false ("--dns" :: "8.8.8.8" :: sampleArgs))) =
      ["8.8.8.8"] := by decide +kernel
  have hcheck : ∃ s₀ ∈ start m.config sampleTables (fun _ => 0) (fun _ => 0),
      ∃ s ∈ run (step m.config) s₀ (sampleGrantRun 8),
        ∃ out ∈ (history (step m.config) s₀ (sampleGrantRun 8)).flatMap (fun x => (emission x).toInside),
          out.IsUDP 67 68 := by
    rw [config_of_proceeds hm]
    decide +kernel
  obtain ⟨s₀, hstart, s, hrun, out, hout, hudp⟩ := hcheck
  obtain ⟨request, ip, reply, -, -, hdecode, hmeans⟩ := (configured_run hm rfl
    (by rw [hcalls]; decide) (by rw [hcalls]; decide) hstart hrun).1 out hout hudp
  refine ⟨m, s₀, s, hm, hstart, hrun, out, hout, reply, hdecode, hmeans.domainNameServers.trans ?_⟩
  rw [configOf, hcalls]
  rfl

end System

end GatewaySocket
