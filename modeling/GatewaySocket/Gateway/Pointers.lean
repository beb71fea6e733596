import GatewaySocket.Container.Heap
import GatewaySocket.Gateway.Serve

/-!
# User entries as blocks

`Gateway` holds the user entries themselves. The source holds pointers to them:
`addUserInfo` allocates a block, the queue and the map hold the pointer, and
`add_user`, `del_user` and the outside loop free it. `PointerGateway` is the gateway
with these pointers. Whatever goes through one is an operation on the heap, which
faults on a block that is not allocated; the rest is as in `Gateway`.
-/

namespace GatewaySocket

open ByteMemory

abbrev Pointer := UInt64

abbrev UserHeap := Heap Pointer UserInfo

abbrev UserPointerMap := UnorderedMap InAddr Pointer

structure PointerGateway where
  heap : UserHeap
  staticIPAddRequest : RequestQueue (InAddr × EtherAddr)
  staticIPDelRequest : RequestQueue InAddr
  userAddRequest : RequestQueue Pointer
  userDelRequest : RequestQueue InAddr
  sendPacketRequestQueue : RequestQueue Packet
  staticIPMap : StaticIPMap
  userMap : UserPointerMap

/-- `Verdict` with the pointer to the user entry. -/
inductive PointerVerdict
  | drop
  | createDHCP (request : DhcpRequest)
  | pass (packet : Packet) (user : Option Pointer)
  | undefined

structure PointerEffect extends Emission where
  gateway : PointerGateway
  packet : Packet

/-! ## Rounds of the handlers -/

/-- One round of `add_user`. The log reads the block that is freed. -/
def UserPointerMap.add (s : UserHeap × UserPointerMap) (info : Pointer) :
    Except HeapFault (UserHeap × UserPointerMap) := do
  let (heap, m) := s
  let key := (← heap.read info).ip
  let (heap, m) ←
    match m.find key with
    | some old => do
      let _ ← heap.read old
      let heap ← heap.free old
      pure (heap, m.erase key)
    | none => pure (heap, m)
  let key := (← heap.read info).ip
  return (heap, m.insert key info)

/-- One round of `del_user`. The log reads the block that is freed. -/
def UserPointerMap.del (s : UserHeap × UserPointerMap) (ip : InAddr) :
    Except HeapFault (UserHeap × UserPointerMap) := do
  let (heap, m) := s
  match m.find ip with
  | some info => do
    let _ ← heap.read info
    let heap ← heap.free info
    return (heap, m.erase ip)
  | none => return (heap, m)

namespace PointerGateway

/-- The gateway as its constructor leaves it. -/
def init : PointerGateway where
  heap := .empty
  staticIPAddRequest := .empty
  staticIPDelRequest := .empty
  userAddRequest := .empty
  userDelRequest := .empty
  sendPacketRequestQueue := .empty
  staticIPMap := .empty
  userMap := .empty

/-- A call of another thread. `addUserInfo` copies the entry into the block `copy`. -/
def call (g : PointerGateway) (copy : Pointer) : Call → PointerGateway
  | .addStaticIP ip mac => { g with staticIPAddRequest := g.staticIPAddRequest.push (ip, mac) }
  | .delStaticIP ip => { g with staticIPDelRequest := g.staticIPDelRequest.push ip }
  | .addUserInfo info =>
    { g with heap := g.heap.malloc copy info, userAddRequest := g.userAddRequest.push copy }
  | .delUserInfo ip => { g with userDelRequest := g.userDelRequest.push ip }
  | .sendPacketRequest packet =>
    { g with sendPacketRequestQueue := g.sendPacketRequestQueue.push packet }

def handle (g : PointerGateway) : Handler → Except HeapFault (PointerGateway × List Frame)
  | .addStaticIp =>
    let (requests, rest) := g.staticIPAddRequest.drain
    return ({ g with
      staticIPAddRequest := rest
      staticIPMap := requests.foldl StaticIPMap.add g.staticIPMap }, [])
  | .delStaticIp =>
    let (requests, rest) := g.staticIPDelRequest.drain
    return ({ g with
      staticIPDelRequest := rest
      staticIPMap := requests.foldl UnorderedMap.erase g.staticIPMap }, [])
  | .addUser => do
    let (requests, rest) := g.userAddRequest.drain
    let (heap, userMap) ← requests.foldlM UserPointerMap.add (g.heap, g.userMap)
    return ({ g with heap, userAddRequest := rest, userMap }, [])
  | .delUser => do
    let (requests, rest) := g.userDelRequest.drain
    let (heap, userMap) ← requests.foldlM UserPointerMap.del (g.heap, g.userMap)
    return ({ g with heap, userDelRequest := rest, userMap }, [])
  | .sendPacket =>
    let (requests, rest) := g.sendPacketRequestQueue.drain
    return ({ g with sendPacketRequestQueue := rest },
      requests.flatMap fun packet => Device.writePacket packet.inMemory packet.getLength)

/-! ## Frames from inside -/

def outbound (g : PointerGateway) (packet : Packet) (destIP srcIP : InAddr)
    (sourceMac : EtherAddr) (rewrite : EtherAddr → Packet) : Except HeapFault PointerVerdict := do
  let destIter := g.staticIPMap.find destIP
  let srcIter := g.staticIPMap.find srcIP
  let userIter := g.userMap.find srcIP
  if destIter.isSome then return .drop
  else
    match userIter with
    | some user => do
      if (← g.heap.read user).userMac ≠ sourceMac then return .drop
      else
        -- `srcIter->second` is read without a test against `end()`
        match srcIter with
        | some mac => return .pass (rewrite mac) (some user)
        | none => return .undefined
    | none => if srcIter.isSome then return .drop else return .pass packet none

def insideARP (g : PointerGateway) (packet : Packet) (u : Indeterminate) :
    Except HeapFault PointerVerdict :=
  let arp := Ethernet.getNextOffset 0
  let arpHeader := ARP.getHeader packet arp
  if ¬arpAccepted arpHeader then return .drop
  else
    let destIP := ARP.getDestinationIP packet arp (u.inAddr 0)
    let srcIP := ARP.getSourceIP packet arp (u.inAddr 1)
    let sourceMac := Ethernet.getSource packet 0 (u.etherAddr 0)
    g.outbound packet destIP srcIP sourceMac fun mac =>
      Ethernet.setSource (ARP.setSourceMAC packet arp mac) 0 mac

/-- The DHCP intake, which has nothing to do with the user entries. -/
def insideDHCP (packet : Packet) (udp : ℕ) (u : Indeterminate) : PointerVerdict :=
  match Gateway.insideDHCP packet udp u with
  | .createDHCP request => .createDHCP request
  | _ => .drop

def insideIP (g : PointerGateway) (packet : Packet) (readLen : ℤ) (u : Indeterminate) :
    Except HeapFault PointerVerdict :=
  let ip := Ethernet.getNextOffset 0
  if readLen < ((Ethernet.getNextOffset 0 + IP.getNextOffset packet ip : ℕ) : ℤ) then return .drop
  else
    let destIP := IP.getDestination packet ip (u.inAddr 0)
    let srcIP := IP.getSource packet ip (u.inAddr 1)
    let udp := IP.getNextOffset packet ip
    if IP.getProtocol packet ip = ipprotoUdp ∧
        UDP.getSource packet udp (u.half 0) = 68 ∧ UDP.getDestination packet udp (u.half 1) = 67 then
      return insideDHCP packet udp u
    else
      let sourceMac := Ethernet.getSource packet 0 (u.etherAddr 0)
      g.outbound packet destIP srcIP sourceMac fun mac => Ethernet.setSource packet 0 mac

def insideVerdict (g : PointerGateway) (packet : Packet) (readLen : ℤ) (u : Indeterminate) :
    Except HeapFault PointerVerdict :=
  if Ethernet.getProtocol packet 0 = ethertypeArp then g.insideARP packet u
  else if Ethernet.getProtocol packet 0 = ethertypeIp then g.insideIP packet readLen u
  else return .pass packet none

/-- The access time of a forwarded user, through the pointer kept since the lookup. -/
def touch (g : PointerGateway) (currentTime : UInt64) :
    Option Pointer → Except HeapFault (PointerGateway × List UpdateTime)
  | none => return (g, [])
  | some user => do
    let info ← g.heap.read user
    if info.lastAccess + info.timeout < currentTime then
      let heap ← g.heap.write user { info with lastAccess := currentTime }
      let info ← heap.read user
      return ({ g with heap }, [{ mac := info.userMac, ip := info.ip, utc := currentTime }])
    else return (g, [])

/-- One round of the inside loop; `none` is the read through the end iterator. -/
def inside (g : PointerGateway) (currentTime : UInt64) (inPacket : Packet) (frame : Frame)
    (u : Indeterminate) : Except HeapFault (Option PointerEffect) :=
  let inPacket := { inPacket with inMemory := Device.readPacket inPacket.inMemory myPacketLen frame }
  let readLen : ℤ := frame.length
  if readLen > myPacketLen then
    let inPacket := inPacket.setLength myPacketLen
    return some { gateway := g, packet := inPacket, toInside := icmpMtu inPacket myMtu u }
  else if readLen < (etherHeaderLen : ℤ) then return some { gateway := g, packet := inPacket }
  else do
    let inPacket := inPacket.setLength readLen
    match ← g.insideVerdict inPacket readLen u with
    | .undefined => return none
    | .drop => return some { gateway := g, packet := inPacket }
    | .createDHCP request => return some { gateway := g, packet := inPacket, dhcp := [request] }
    | .pass packet user =>
      let (gateway, updates) ← g.touch currentTime user
      return some {
        gateway
        packet
        updates
        toOutside := Device.writePacket packet.inMemory packet.getLength }

/-! ## Frames from outside -/

/-- An entry whose address has no static entry is freed and erased. -/
def removeUser (g : PointerGateway) (ip : InAddr) (user : Pointer) :
    Except HeapFault PointerGateway := do
  let heap ← g.heap.free user
  return { g with heap, userMap := g.userMap.erase ip }

def outsideARP (g : PointerGateway) (packet : Packet) (u : Indeterminate) :
    Except HeapFault (PointerGateway × Option Packet) :=
  let arp := Ethernet.getNextOffset 0
  let arpHeader := ARP.getHeader packet arp
  if ¬arpAccepted arpHeader then return (g, none)
  else
    let destIP := ARP.getDestinationIP packet arp (u.inAddr 0)
    let srcIP := ARP.getSourceIP packet arp (u.inAddr 1)
    let destIter := g.staticIPMap.find destIP
    let srcIter := g.staticIPMap.find srcIP
    let userIter := g.userMap.find destIP
    if srcIter.isSome then return (g, none)
    else
      match destIter, userIter with
      | some mac, some user => do
        let destMac := Ethernet.getDestination packet 0 (u.etherAddr 0)
        if mac ≠ destMac ∧ Gateway.etherBroadcast ≠ destMac then return (g, none)
        else
          let info ← g.heap.read user
          let packet := ARP.setDestinationMAC packet arp info.userMac
          let packet := Ethernet.setDestination packet 0 info.userMac
          return (g, some packet)
      | some _, none => return (g, some packet)
      | none, some user => do
        let g ← g.removeUser destIP user
        return (g, some packet)
      | none, none => return (g, some packet)

def outsideIP (g : PointerGateway) (packet : Packet) (readLen : ℤ) (u : Indeterminate) :
    Except HeapFault (PointerGateway × Option Packet) :=
  let ip := Ethernet.getNextOffset 0
  let udp := IP.getNextOffset packet ip
  if readLen < ((Ethernet.getNextOffset 0 + IP.getNextOffset packet ip : ℕ) : ℤ) then
    return (g, none)
  else if IP.getProtocol packet ip = ipprotoUdp ∧
      UDP.getSource packet udp (u.half 0) = 67 ∧ UDP.getDestination packet udp (u.half 1) = 68 then
    return (g, none)
  else
    let destIP := IP.getDestination packet ip (u.inAddr 0)
    let srcIP := IP.getSource packet ip (u.inAddr 1)
    let destIter := g.staticIPMap.find destIP
    let srcIter := g.staticIPMap.find srcIP
    let userIter := g.userMap.find destIP
    if srcIter.isSome then return (g, none)
    else
      match destIter, userIter with
      | some _, none => return (g, none)
      | some mac, some user => do
        let destMac := Ethernet.getDestination packet 0 (u.etherAddr 0)
        if mac ≠ destMac then return (g, none)
        else
          let info ← g.heap.read user
          let packet := Ethernet.setDestination packet 0 info.userMac
          return (g, if Gateway.outsideDHCP packet ip srcIP destIP u then none else some packet)
      | none, some user => do
        let g ← g.removeUser destIP user
        return (g, if Gateway.outsideDHCP packet ip srcIP destIP u then none else some packet)
      | none, none =>
        return (g, if Gateway.outsideDHCP packet ip srcIP destIP u then none else some packet)

def outsideVerdict (g : PointerGateway) (packet : Packet) (readLen : ℤ) (u : Indeterminate) :
    Except HeapFault (PointerGateway × Option Packet) :=
  if Ethernet.getProtocol packet 0 = ethertypeArp then g.outsideARP packet u
  else if Ethernet.getProtocol packet 0 = ethertypeIp then g.outsideIP packet readLen u
  else return (g, some packet)

/-- One round of the outside loop. -/
def outside (g : PointerGateway) (outPacket : Packet) (frame : Frame) (u : Indeterminate) :
    Except HeapFault PointerEffect :=
  let outPacket := { outPacket with inMemory := Device.readPacket outPacket.inMemory myPacketLen frame }
  let readLen : ℤ := frame.length
  if readLen > myPacketLen then
    let outPacket := outPacket.setLength myPacketLen
    return { gateway := g, packet := outPacket, toOutside := icmpMtu outPacket myMtu u }
  else do
    let outPacket := outPacket.setLength readLen
    match ← g.outsideVerdict outPacket readLen u with
    | (gateway, none) => return { gateway, packet := outPacket }
    | (gateway, some packet) =>
      return { gateway, packet, toInside := Device.writePacket packet.inMemory packet.getLength }

end PointerGateway

/-! ## Actions in any order -/

/-- What the gateway's thread and the callers do, with the block that `malloc` gives to
`addUserInfo`. -/
inductive Act
  | call (c : Call) (copy : Pointer)
  | handle (h : Handler)
  | inside (currentTime : UInt64) (inPacket : Packet) (frame : Frame) (u : Indeterminate)
  | outside (outPacket : Packet) (frame : Frame) (u : Indeterminate)

namespace PointerGateway

def exec (g : PointerGateway) : Act → Except HeapFault (Option (PointerGateway × Emission))
  | .call c copy => return some (g.call copy c, {})
  | .handle h => do
    let (gateway, toInside) ← g.handle h
    return some (gateway, { toInside })
  | .inside currentTime inPacket frame u => do
    let e ← g.inside currentTime inPacket frame u
    return e.map fun e => (e.gateway, e.toEmission)
  | .outside outPacket frame u => do
    let e ← g.outside outPacket frame u
    return some (e.gateway, e.toEmission)

/-- `malloc` gives a block that is not allocated. -/
def Fits (g : PointerGateway) : Act → Prop
  | .call (.addUserInfo _) copy => ¬g.heap.Has copy
  | _ => True

instance (g : PointerGateway) : DecidablePred g.Fits
  | .call (.addUserInfo _) copy => inferInstanceAs (Decidable (¬g.heap.Has copy))
  | .call (.addStaticIP _ _) _ | .call (.delStaticIP _) _ | .call (.delUserInfo _) _
  | .call (.sendPacketRequest _) _ | .handle _ | .inside _ _ _ _ | .outside _ _ _ =>
    inferInstanceAs (Decidable True)

/-- The gateway after an action that fits and has no undefined behaviour. -/
def step (g : PointerGateway) (a : Act) : Option PointerGateway :=
  if g.Fits a then
    match g.exec a with
    | .ok (some (g', _)) => some g'
    | _ => none
  else none

end PointerGateway

/-- An action on the gateway that holds the entries themselves. -/
def Gateway.exec (g : Gateway) : Act → Option (Gateway × Emission)
  | .call c _ => some (g.call c, {})
  | .handle h => some ((g.handle h).1, { toInside := (g.handle h).2 })
  | .inside currentTime inPacket frame u =>
    (g.inside currentTime inPacket frame u).map fun e => (e.gateway, e.toEmission)
  | .outside outPacket frame u =>
    some ((g.outside outPacket frame u).gateway, (g.outside outPacket frame u).toEmission)

end GatewaySocket
