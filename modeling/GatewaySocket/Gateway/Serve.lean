import GatewaySocket.Gateway.State

/-!
# Forwarding one frame

`Gateway::serve` reads a frame from one device, checks it against the maps and
writes it to the other. `Gateway.inside` and `Gateway.outside` are the bodies of
its two burst loops. The branches of the inside loop end in a `Verdict`: either
the loop continues with the next frame, possibly after a call of
`Database::createDHCP`, or the frame falls through to the write.

An outbound branch reads the static address of the sender through an iterator it
has not compared with `end()`. Where there is no such entry the source has
undefined behaviour, which is the verdict `undefined` and the result `none`.
-/

namespace GatewaySocket

open ByteMemory

/-- How a branch of the inside loop ends. -/
inductive Verdict
  /-- `continue` -/
  | drop
  /-- `continue`, after a call of `Database::createDHCP` -/
  | createDHCP (request : DhcpRequest)
  /-- the frame goes on to the write, for the user entry found under a key -/
  | pass (packet : Packet) (user : Option (InAddr × UserInfo))
  /-- a read through the end iterator -/
  | undefined

/-- What the gateway's thread sends in one step: the frames written to the devices
and the requests to the database. -/
structure Emission where
  toInside : List Frame := []
  toOutside : List Frame := []
  dhcp : List DhcpRequest := []
  updates : List UpdateTime := []

/-- What the processing of one frame leaves behind: the gateway and the buffer. -/
structure Effect extends Emission where
  gateway : Gateway
  packet : Packet

/-- The filter both directions apply to the header of an ARP frame. -/
def arpAccepted (h : ArpHeader) : Bool :=
  h.arHrd == arphrdEther && h.arPro == ethertypeIp &&
    (h.arOp == arpopRequest || h.arOp == arpopReply) && h.arPln == 4 && h.arHln == 6

theorem arpAccepted_iff {h : ArpHeader} : arpAccepted h = true ↔ h.WellFormed := by
  simp only [arpAccepted, ArpHeader.WellFormed, Bool.and_eq_true, Bool.or_eq_true, beq_iff_eq]
  tauto

namespace Gateway

/-- The end of both outbound branches, from the three lookups on. They differ in
where they find the addresses and in what they `rewrite` with the static
hardware address of the sender. -/
def outbound (g : Gateway) (packet : Packet) (destIP srcIP : InAddr) (sourceMac : EtherAddr)
    (rewrite : EtherAddr → Packet) : Verdict :=
  let destIter := g.staticIPMap.find destIP
  let srcIter := g.staticIPMap.find srcIP
  let userIter := g.userMap.find srcIP
  if destIter.isSome then .drop
  else
    match userIter with
    | some info =>
      if info.userMac ≠ sourceMac then .drop
      else
        -- `srcIter->second` is read without a test against `end()`
        match srcIter with
        | some mac => .pass (rewrite mac) (some (srcIP, info))
        | none => .undefined
    | none => if srcIter.isSome then .drop else .pass packet none

/-- The ARP branch of the inside loop. -/
def insideARP (g : Gateway) (packet : Packet) (u : Indeterminate) : Verdict :=
  let arp := Ethernet.getNextOffset 0
  let arpHeader := ARP.getHeader packet arp
  if ¬arpAccepted arpHeader then .drop
  else
    let destIP := ARP.getDestinationIP packet arp (u.inAddr 0)
    let srcIP := ARP.getSourceIP packet arp (u.inAddr 1)
    let sourceMac := Ethernet.getSource packet 0 (u.etherAddr 0)
    g.outbound packet destIP srcIP sourceMac fun mac =>
      Ethernet.setSource (ARP.setSourceMAC packet arp mac) 0 mac

/-- The DHCP intake of the inside loop, for a UDP packet from port 68 to 67. -/
def insideDHCP (packet : Packet) (udp : ℕ) (u : Indeterminate) : Verdict :=
  let dhcp := UDP.getNextOffset udp
  if DHCP.getOpcode packet dhcp = 1 then
    let messageType := DHCP.getMessageType packet dhcp
    if messageType ≠ 1 ∧ messageType ≠ 3 then .drop
    else
      let request : DhcpRequest := {
        isDiscover := messageType = 1
        mtu := myMtu
        mac := DHCP.getClientMAC packet dhcp (u.etherAddr 1)
        transID := DHCP.getTransactionID packet dhcp (u.word 0) }
      let sourceMac := Ethernet.getSource packet 0 (u.etherAddr 2)
      if request.mac ≠ sourceMac then .drop else .createDHCP request
  else .drop

/-- The IPv4 branch of the inside loop. -/
def insideIP (g : Gateway) (packet : Packet) (readLen : ℤ) (u : Indeterminate) : Verdict :=
  let ip := Ethernet.getNextOffset 0
  if readLen < ((Ethernet.getNextOffset 0 + IP.getNextOffset packet ip : ℕ) : ℤ) then .drop
  else
    let destIP := IP.getDestination packet ip (u.inAddr 0)
    let srcIP := IP.getSource packet ip (u.inAddr 1)
    let udp := IP.getNextOffset packet ip
    if IP.getProtocol packet ip = ipprotoUdp ∧
        UDP.getSource packet udp (u.half 0) = 68 ∧ UDP.getDestination packet udp (u.half 1) = 67 then
      insideDHCP packet udp u
    else
      let sourceMac := Ethernet.getSource packet 0 (u.etherAddr 0)
      g.outbound packet destIP srcIP sourceMac fun mac => Ethernet.setSource packet 0 mac

/-- The branches of the inside loop by EtherType. -/
def insideVerdict (g : Gateway) (packet : Packet) (readLen : ℤ) (u : Indeterminate) : Verdict :=
  if Ethernet.getProtocol packet 0 = ethertypeArp then g.insideARP packet u
  else if Ethernet.getProtocol packet 0 = ethertypeIp then g.insideIP packet readLen u
  else .pass packet none

/-- The access time of a forwarded user: at most once in a timeout it is noted in
the entry and reported to the database. -/
def touch (g : Gateway) (currentTime : UInt64) :
    Option (InAddr × UserInfo) → Gateway × List UpdateTime
  | none => (g, [])
  | some (key, user) =>
    if user.lastAccess + user.timeout < currentTime then
      ({ g with userMap := g.userMap.set key { user with lastAccess := currentTime } },
        [{ mac := user.userMac, ip := user.ip, utc := currentTime }])
    else (g, [])

/-- One round of the inside loop, for a frame that `inDev` delivers. -/
def inside (g : Gateway) (currentTime : UInt64) (inPacket : Packet) (frame : Frame)
    (u : Indeterminate) : Option Effect :=
  let inPacket := { inPacket with inMemory := Device.readPacket inPacket.inMemory myPacketLen frame }
  let readLen : ℤ := frame.length
  if readLen > myPacketLen then
    let inPacket := inPacket.setLength myPacketLen
    some { gateway := g, packet := inPacket, toInside := icmpMtu inPacket myMtu u }
  else if readLen < (etherHeaderLen : ℤ) then some { gateway := g, packet := inPacket }
  else
    let inPacket := inPacket.setLength readLen
    match g.insideVerdict inPacket readLen u with
    | .undefined => none
    | .drop => some { gateway := g, packet := inPacket }
    | .createDHCP request => some { gateway := g, packet := inPacket, dhcp := [request] }
    | .pass packet user =>
      let (gateway, updates) := g.touch currentTime user
      some {
        gateway
        packet
        updates
        toOutside := Device.writePacket packet.inMemory packet.getLength }

def etherBroadcast : EtherAddr := #v[0xFF, 0xFF, 0xFF, 0xFF, 0xFF, 0xFF]

def ipv4Broadcast : InAddr := #v[0xFF, 0xFF, 0xFF, 0xFF]

def ipv4None : InAddr := #v[0, 0, 0, 0]

/-- A user entry whose address has no static entry is freed and erased. -/
def removeUser (g : Gateway) (ip : InAddr) : Gateway :=
  { g with userMap := g.userMap.erase ip }

/-- The ARP branch of the outside loop: the gateway afterwards, and the packet
unless the loop continues. -/
def outsideARP (g : Gateway) (packet : Packet) (u : Indeterminate) : Gateway × Option Packet :=
  let arp := Ethernet.getNextOffset 0
  let arpHeader := ARP.getHeader packet arp
  if ¬arpAccepted arpHeader then (g, none)
  else
    let destIP := ARP.getDestinationIP packet arp (u.inAddr 0)
    let srcIP := ARP.getSourceIP packet arp (u.inAddr 1)
    let destIter := g.staticIPMap.find destIP
    let srcIter := g.staticIPMap.find srcIP
    let userIter := g.userMap.find destIP
    if srcIter.isSome then (g, none)
    else
      match destIter, userIter with
      | some mac, some info =>
        let destMac := Ethernet.getDestination packet 0 (u.etherAddr 0)
        if mac ≠ destMac ∧ etherBroadcast ≠ destMac then (g, none)
        else
          let packet := ARP.setDestinationMAC packet arp info.userMac
          let packet := Ethernet.setDestination packet 0 info.userMac
          (g, some packet)
      | some _, none => (g, some packet)
      | none, some _ => (g.removeUser destIP, some packet)
      | none, none => (g, some packet)

/-- The last test of the IPv4 branch: DHCP between the null address and the
broadcast address. -/
def outsideDHCP (packet : Packet) (ip : ℕ) (srcIP destIP : InAddr) (u : Indeterminate) : Bool :=
  let udp := IP.getNextOffset packet ip
  IP.getProtocol packet ip = ipprotoUdp && ipv4None = srcIP && ipv4Broadcast = destIP &&
    ((UDP.getSource packet udp (u.half 2) = 68 && UDP.getDestination packet udp (u.half 3) = 67) ||
      (UDP.getSource packet udp (u.half 4) = 67 && UDP.getDestination packet udp (u.half 5) = 68))

/-- The IPv4 branch of the outside loop. -/
def outsideIP (g : Gateway) (packet : Packet) (readLen : ℤ) (u : Indeterminate) :
    Gateway × Option Packet :=
  let ip := Ethernet.getNextOffset 0
  let udp := IP.getNextOffset packet ip
  if readLen < ((Ethernet.getNextOffset 0 + IP.getNextOffset packet ip : ℕ) : ℤ) then (g, none)
  else if IP.getProtocol packet ip = ipprotoUdp ∧
      UDP.getSource packet udp (u.half 0) = 67 ∧ UDP.getDestination packet udp (u.half 1) = 68 then
    (g, none)
  else
    let destIP := IP.getDestination packet ip (u.inAddr 0)
    let srcIP := IP.getSource packet ip (u.inAddr 1)
    let destIter := g.staticIPMap.find destIP
    let srcIter := g.staticIPMap.find srcIP
    let userIter := g.userMap.find destIP
    if srcIter.isSome then (g, none)
    else
      match destIter, userIter with
      | some _, none => (g, none)
      | some mac, some info =>
        let destMac := Ethernet.getDestination packet 0 (u.etherAddr 0)
        if mac ≠ destMac then (g, none)
        else
          let packet := Ethernet.setDestination packet 0 info.userMac
          (g, if outsideDHCP packet ip srcIP destIP u then none else some packet)
      | none, some _ =>
        (g.removeUser destIP, if outsideDHCP packet ip srcIP destIP u then none else some packet)
      | none, none => (g, if outsideDHCP packet ip srcIP destIP u then none else some packet)

/-- The branches of the outside loop by EtherType. -/
def outsideVerdict (g : Gateway) (packet : Packet) (readLen : ℤ) (u : Indeterminate) :
    Gateway × Option Packet :=
  if Ethernet.getProtocol packet 0 = ethertypeArp then g.outsideARP packet u
  else if Ethernet.getProtocol packet 0 = ethertypeIp then g.outsideIP packet readLen u
  else (g, some packet)

/-- One round of the outside loop, for a frame that `outDev` delivers. -/
def outside (g : Gateway) (outPacket : Packet) (frame : Frame) (u : Indeterminate) : Effect :=
  let outPacket := { outPacket with inMemory := Device.readPacket outPacket.inMemory myPacketLen frame }
  let readLen : ℤ := frame.length
  if readLen > myPacketLen then
    let outPacket := outPacket.setLength myPacketLen
    { gateway := g, packet := outPacket, toOutside := icmpMtu outPacket myMtu u }
  else
    let outPacket := outPacket.setLength readLen
    match g.outsideVerdict outPacket readLen u with
    | (gateway, none) => { gateway, packet := outPacket }
    | (gateway, some packet) =>
      { gateway, packet, toInside := Device.writePacket packet.inMemory packet.getLength }

end Gateway

end GatewaySocket
