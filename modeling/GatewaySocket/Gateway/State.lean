import GatewaySocket.Container.RequestQueue
import GatewaySocket.Container.UnorderedMap
import GatewaySocket.Packet.Build

/-!
# The gateway and its event handlers

`Gateway` holds the two maps that decide about frames and the five request
queues through which other threads reach it. A producer call appends to a
queue; the handler of the queue, run by the gateway's own thread, drains it.
Each of the two holds the lock of the queue all along, so both are single steps.

The source keeps user entries as pointers to malloc'ed blocks. Here the map and
the queue hold the blocks themselves, and a write through the pointer is a write
to the entry. `PointerGateway` has the pointers, and refines this gateway.
-/

namespace GatewaySocket

open ByteMemory

/-- `struct userInfo`; times are in milliseconds. -/
structure UserInfo where
  ip : InAddr
  userMac : EtherAddr
  lastAccess : UInt64
  timeout : UInt64
  deriving DecidableEq

/-- `struct dhcp_request`. There is one gateway, so the pointer to it is left
out, here and in `UpdateTime`. -/
structure DhcpRequest where
  mac : EtherAddr
  transID : Octets 4
  mtu : UInt16
  isDiscover : Bool
  deriving DecidableEq

/-- `struct update_time`. -/
structure UpdateTime where
  mac : EtherAddr
  ip : InAddr
  utc : UInt64
  deriving DecidableEq

abbrev StaticIPMap := UnorderedMap InAddr EtherAddr

abbrev UserMap := UnorderedMap InAddr UserInfo

structure Gateway where
  staticIPAddRequest : RequestQueue (InAddr × EtherAddr)
  staticIPDelRequest : RequestQueue InAddr
  userAddRequest : RequestQueue UserInfo
  userDelRequest : RequestQueue InAddr
  sendPacketRequestQueue : RequestQueue Packet
  staticIPMap : StaticIPMap
  userMap : UserMap

namespace Gateway

/-- The gateway as its constructor leaves it. -/
def init : Gateway where
  staticIPAddRequest := .empty
  staticIPDelRequest := .empty
  userAddRequest := .empty
  userDelRequest := .empty
  sendPacketRequestQueue := .empty
  staticIPMap := .empty
  userMap := .empty

/-! ## Producer calls -/

def addStaticIP (g : Gateway) (ip : InAddr) (mac : EtherAddr) : Gateway :=
  { g with staticIPAddRequest := g.staticIPAddRequest.push (ip, mac) }

def delStaticIP (g : Gateway) (ip : InAddr) : Gateway :=
  { g with staticIPDelRequest := g.staticIPDelRequest.push ip }

def addUserInfo (g : Gateway) (info : UserInfo) : Gateway :=
  { g with userAddRequest := g.userAddRequest.push info }

def delUserInfo (g : Gateway) (ip : InAddr) : Gateway :=
  { g with userDelRequest := g.userDelRequest.push ip }

def sendPacketRequest (g : Gateway) (packet : Packet) : Gateway :=
  { g with sendPacketRequestQueue := g.sendPacketRequestQueue.push packet }

end Gateway

/-- A call of another thread into the gateway. -/
inductive Call
  | addStaticIP (ip : InAddr) (mac : EtherAddr)
  | delStaticIP (ip : InAddr)
  | addUserInfo (info : UserInfo)
  | delUserInfo (ip : InAddr)
  | sendPacketRequest (packet : Packet)

/-- The entry that the call adds. -/
def Call.added : Call → Option UserInfo
  | addUserInfo info => some info
  | _ => none

/-- The address whose entry the call deletes. -/
def Call.deleted : Call → Option InAddr
  | delUserInfo ip => some ip
  | _ => none

theorem Call.mem_filterMap_added {cs : List Call} {info : UserInfo} :
    info ∈ cs.filterMap Call.added ↔ .addUserInfo info ∈ cs := by
  rw [List.mem_filterMap]
  constructor
  · rintro ⟨c, hc, hadded⟩
    cases c with
    | addUserInfo other =>
        obtain rfl := Option.some.inj hadded
        exact hc
    | _ => contradiction
  · intro h
    exact ⟨_, h, rfl⟩

def Gateway.call (g : Gateway) : Call → Gateway
  | .addStaticIP ip mac => g.addStaticIP ip mac
  | .delStaticIP ip => g.delStaticIP ip
  | .addUserInfo info => g.addUserInfo info
  | .delUserInfo ip => g.delUserInfo ip
  | .sendPacketRequest packet => g.sendPacketRequest packet

/-! ## Event handlers -/

/-- One round of `add_static_ip`. The source skips the `erase` on an empty map,
where it would change nothing. -/
def StaticIPMap.add (m : StaticIPMap) (data : InAddr × EtherAddr) : StaticIPMap :=
  (UnorderedMap.erase m data.1).insert data.1 data.2

/-- One round of `add_user`: an existing entry of the address is replaced. -/
def UserMap.add (m : UserMap) (info : UserInfo) : UserMap :=
  let m := if (m.find info.ip).isSome then m.erase info.ip else m
  m.insert info.ip info

/-- One round of `del_user`. -/
def UserMap.del (m : UserMap) (ip : InAddr) : UserMap :=
  if (m.find ip).isSome then m.erase ip else m

namespace Gateway

/-- `add_static_ip`. -/
def addStaticIpHandler (g : Gateway) : Gateway :=
  let (requests, rest) := g.staticIPAddRequest.drain
  { g with
    staticIPAddRequest := rest
    staticIPMap := requests.foldl StaticIPMap.add g.staticIPMap }

/-- `del_static_ip`. -/
def delStaticIpHandler (g : Gateway) : Gateway :=
  let (requests, rest) := g.staticIPDelRequest.drain
  { g with
    staticIPDelRequest := rest
    staticIPMap := requests.foldl UnorderedMap.erase g.staticIPMap }

/-- `add_user`. -/
def addUserHandler (g : Gateway) : Gateway :=
  let (requests, rest) := g.userAddRequest.drain
  { g with
    userAddRequest := rest
    userMap := requests.foldl UserMap.add g.userMap }

/-- `del_user`. -/
def delUserHandler (g : Gateway) : Gateway :=
  let (requests, rest) := g.userDelRequest.drain
  { g with
    userDelRequest := rest
    userMap := requests.foldl UserMap.del g.userMap }

/-- `send_packet`: the gateway afterwards and the frames written to `inDev`. -/
def sendPacketHandler (g : Gateway) : Gateway × List Frame :=
  let (requests, rest) := g.sendPacketRequestQueue.drain
  ({ g with sendPacketRequestQueue := rest },
    requests.flatMap fun packet => Device.writePacket packet.inMemory packet.getLength)

end Gateway

/-- The handlers registered with the gateway's event base. -/
inductive Handler
  | addStaticIp
  | delStaticIp
  | addUser
  | delUser
  | sendPacket
  deriving DecidableEq

namespace Gateway

/-- The descriptor of the handler is readable. -/
def ready (g : Gateway) : Handler → Bool
  | .addStaticIp => g.staticIPAddRequest.counter ≠ 0
  | .delStaticIp => g.staticIPDelRequest.counter ≠ 0
  | .addUser => g.userAddRequest.counter ≠ 0
  | .delUser => g.userDelRequest.counter ≠ 0
  | .sendPacket => g.sendPacketRequestQueue.counter ≠ 0

def handle (g : Gateway) : Handler → Gateway × List Frame
  | .addStaticIp => (g.addStaticIpHandler, [])
  | .delStaticIp => (g.delStaticIpHandler, [])
  | .addUser => (g.addUserHandler, [])
  | .delUser => (g.delUserHandler, [])
  | .sendPacket => g.sendPacketHandler

end Gateway

/-! ## What the handlers do to the maps -/

@[simp] theorem StaticIPMap.find_add (m : StaticIPMap) (data : InAddr × EtherAddr)
    (ip : InAddr) :
    (m.add data).find ip = if ip = data.1 then some data.2 else m.find ip :=
  UnorderedMap.find_insert_erase m data.1 data.2 ip

/-- `add_user` replaces the entry of the address, whether there was one or not. -/
@[simp] theorem UserMap.find_add (m : UserMap) (info : UserInfo) (ip : InAddr) :
    (m.add info).find ip = if ip = info.ip then some info else m.find ip := by
  have herase : (if (m.find info.ip).isSome then m.erase info.ip else m) = m.erase info.ip := by
    split
    · rfl
    · next h =>
        rw [UnorderedMap.erase_eq_self (by simpa using h)]
  simp only [UserMap.add, herase]
  exact UnorderedMap.find_insert_erase m info.ip info ip

@[simp] theorem UserMap.find_del (m : UserMap) (ip ip' : InAddr) :
    (m.del ip).find ip' = if ip' = ip then none else m.find ip' := by
  unfold UserMap.del
  split
  · exact UnorderedMap.find_erase m ip ip'
  · next h =>
      split
      · next heq => simpa [heq] using h
      · rfl

/-! Addresses for the examples: one that is handed out, and the hardware address
that ends in `last`. -/

def sampleIP : InAddr := #v[10, 0, 0, 5]

def sampleMAC (last : UInt8) : EtherAddr := #v[2, 0, 0, 0, 0, last]

end GatewaySocket
