import GatewaySocket.Gateway.Loop

/-!
# The DHCP intake

Every request that the gateway hands to the database was asked for by the client
it names: the frame it was made of is a DHCP message from that client, and the
fields that decide about it lie within the frame.
-/

namespace GatewaySocket

/-- The message type that the flag of a request stands for. -/
def DhcpRequest.messageType (r : DhcpRequest) : UInt8 := if r.isDiscover then 1 else 3

namespace Gateway

variable {g : Gateway} {p : Packet} {f : Frame} {u : Indeterminate} {t : UInt64} {e : Effect}
  {r : DhcpRequest}

/-- What the intake takes is a message of the client that its request names. -/
theorem isBootRequest_of_isTakenIn (hudp : f.IsUDP 68 67) (htaken : f.IsTakenIn) :
    f.IsBootRequest f.dhcpRequest.messageType f.dhcpRequest.mac := by
  obtain ⟨hip, hproto, hsrc, hdst⟩ := hudp
  obtain ⟨hop, hcomplete, htype, hmac⟩ := htaken
  exact {
    isIPv4 := hip
    complete := hcomplete
    protocol := hproto
    source := hsrc
    destination := hdst
    opcode := hop
    type := by
      rcases htype with hone | hthree
      · simp [DhcpRequest.messageType, Frame.dhcpRequest, hone]
      · simp [DhcpRequest.messageType, Frame.dhcpRequest, hthree]
    sender := hmac.symm
    client := rfl }

/-- **A request comes from the client it names.** -/
theorem isBootRequest_of_inside (h : g.inside t p f u = some e) (hr : r ∈ e.dhcp) :
    f.IsBootRequest r.messageType r.mac := by
  rcases inside_cases h with ⟨-, -, -, hnone, -⟩ |
    ⟨hlen, -, buf, -, hbuf, ⟨-, rfl⟩ | ⟨r', hv, rfl⟩ | ⟨q, user, -, rfl⟩⟩
  · rw [hnone] at hr
    contradiction
  · contradiction
  · obtain rfl := List.mem_singleton.mp hr
    by_cases hip : f.IsIPv4
    · rw [insideVerdict_of_isIPv4 hbuf hip] at hv
      split at hv
      · contradiction
      split at hv
      · next hudp =>
          split at hv
          · next htaken =>
              obtain rfl := Verdict.createDHCP.inj hv
              exact isBootRequest_of_isTakenIn hudp htaken
          · contradiction
      · exact absurd hv (outbound_ne_createDHCP r)
    · have hnotIp : f.etherType ≠ ethertypeIp := fun h => hip ⟨hlen, h⟩
      rw [insideVerdict, hbuf.getProtocol hlen, if_neg hnotIp, insideARP_eq] at hv
      split at hv
      · split at hv
        · exact absurd hv (outbound_ne_createDHCP r)
        · contradiction
      · contradiction
  · contradiction

/-- A frame from outside makes no request. -/
theorem dhcp_outside (g : Gateway) (p : Packet) (f : Frame) (u : Indeterminate) :
    (g.outside p f u).dhcp = [] := by
  simp only [outside]
  split
  · rfl
  · split <;> rfl

/-- The frame of a client that asks for an address, up to the message type. -/
def bootRequest (mac : EtherAddr) (messageType : UInt8) : Frame :=
  [255, 255, 255, 255, 255, 255] ++ mac.toList ++ [8, 0] ++
    [0x45, 0, 1, 15, 0, 0, 0, 0, 64, 17, 0, 0, 0, 0, 0, 0, 255, 255, 255, 255] ++
    [0, 68, 0, 67, 0, 251, 0, 0] ++
    [1, 1, 6, 0] ++ List.replicate 24 0 ++ mac.toList ++ List.replicate 202 0 ++
    [99, 130, 83, 99, 53, 1, messageType]

example : (sample.inside 1 sampleBuffer (bootRequest sampleUserMAC 3) default).map
    (fun e => e.dhcp.map fun r => (r.mac, r.isDiscover)) = some [(sampleUserMAC, false)] := by
  decide +kernel

end Gateway

/-- What the loop sends to `create_dhcp` it has taken in from a client. -/
theorem Loop.dhcp_of_exec {l l' : Loop} {a : Action} {e : Emission} {r : DhcpRequest}
    (h : l.exec a = some (l', e)) (hr : r ∈ e.dhcp) :
    ∃ f u, a = .inside (some f) u ∧ f.IsBootRequest r.messageType r.mac := by
  cases execs_of_exec h with
  | @inside frame u rounds effect hplace heffect =>
      exact ⟨frame, u, rfl, Gateway.isBootRequest_of_inside heffect hr⟩
  | outside hplace =>
      rw [Gateway.dhcp_outside] at hr
      contradiction
  | call c | handle hplace hready | quiet ha hgateway => contradiction

end GatewaySocket
