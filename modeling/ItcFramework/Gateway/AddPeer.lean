import ItcFramework.Gateway.Broadcast

/-!
# The announcement of a peer

`ITCGW_UDP_ADD_PEER` carries the address of a peer and its namespace from the UDP thread to the TCP
client thread: the address in a field of 25 bytes, the namespace behind it. Both are copied with
`strcpy`, the address first, and no length is looked at.

* `udpAddPeerMsg`, `readUdpAddPeer` — the two sides.
* `RoundTrips` — the message keeps within its block and gives back what it was made of.
* `roundTrips_iff` — exactly the addresses of at most 24 bytes, and the longer ones whose tail
  happens to be the namespace.
-/

set_option autoImplicit false

namespace ItcFramework

open ByteImage

/-! ## `struct itcgw_udp_add_peer` -/

def ITCGW_UDP_ADD_PEER : UInt32 := 0x101

def offAddPeerAddr : Nat := 4

def offAddPeerNamespace : Nat := 29

/-- The message that `handle_receive_broadcast_msg` sends; `mem` is what `malloc` answers. -/
def udpAddPeerMsg (e : Endian) (a : Allocator) (mem : Bool) (addr ns : CString) :
    Except MemFault ItcMessage := do
  let req ← deref (← itcAllocZz e a mem (offAddPeerNamespace + ns.strlen + 1) ITCGW_UDP_ADD_PEER)
  let body ← storeBytes req.body offAddPeerAddr addr.withNul
  let body ← storeBytes body offAddPeerNamespace ns.withNul
  return { req with body }

/-- `"tcp://%[^:]:%hu/"` -/
def tcpAddrFormat : List ScanDirective :=
  scanFormat tcpPrefix ++ .notUntil 58 :: (scanFormat [58] ++ .hu :: scanFormat [47])

/-- The locals `tcp_ip` and `tcp_port` of `handle_tcp_client_add_peer`. -/
structure TcpEndpoint where
  tcpIp : CString
  tcpPort : UInt16
  deriving DecidableEq, Repr

/-- What the `sscanf` of `handle_tcp_client_add_peer` leaves in its locals. -/
def scanTcpAddr (stack : TcpEndpoint) (addr : CString) : Except MemFault TcpEndpoint :=
  match scan tcpAddrFormat addr.bytes with
  | .chars tcpIp :: rest =>
      if tcpIp.strlen < TCP_IP_SIZE then
        match rest with
        | .number tcpPort :: _ => .ok ⟨tcpIp, tcpPort⟩
        | _ => .ok ⟨tcpIp, stack.tcpPort⟩
      else .error .outOfBounds
  | _ => .ok stack

/-- What the TCP client thread reads from the message. -/
structure AddPeer where
  addr : CString
  ns : CString
  endpoint : TcpEndpoint
  deriving DecidableEq, Repr

def readUdpAddPeer (stack : TcpEndpoint) (req : ItcMessage) : Except MemFault AddPeer := do
  let addr ← strAt req.body offAddPeerAddr
  let ns ← strAt req.body offAddPeerNamespace
  let endpoint ← scanTcpAddr stack addr
  return ⟨addr, ns, endpoint⟩

/-- The message keeps within its block, its `ENDPOINT` is intact, and it gives back what it was made
of. -/
def RoundTrips (e : Endian) (a : Allocator) (mem : Bool) (ns tcpIp : CString) (tcpPort : UInt16) :
    Prop :=
  ∃ req, udpAddPeerMsg e a mem (tcpAddr tcpIp (printHu tcpPort)) ns = .ok req ∧
    req.endpoint = .ok ENDPOINT ∧
    ∀ stack, readUdpAddPeer stack req =
      .ok ⟨tcpAddr tcpIp (printHu tcpPort), ns, ⟨tcpIp, tcpPort⟩⟩

/-! ## Addresses -/

section Address

variable (a b c d : UInt8) (tcpPort : UInt16)

/-- The address of a peer is not cut short. -/
theorem tcpAddr_inetNtoa : (tcpAddr (inetNtoa a b c d) (printHu tcpPort)).bytes =
      tcpPrefix ++ ((inetNtoa a b c d).bytes ++ 58 :: (decimal tcpPort.toNat ++ [47])) ∧
    (tcpAddr (inetNtoa a b c d) (printHu tcpPort)).strlen ≤ 28 := by
  obtain ⟨-, -, hip⟩ := inetNtoa_plain a b c d
  have hport : (decimal tcpPort.toNat).length ≤ 5 :=
    decimal_length_le (by omega) (Nat.lt_trans tcpPort.toNat_lt (by omega))
  have hprefix : tcpPrefix.length = 6 := rfl
  have hall : tcpPrefix ++ (inetNtoa a b c d).bytes ++ [58] ++ (printHu tcpPort).bytes ++ [47] =
      tcpPrefix ++ ((inetNtoa a b c d).bytes ++ 58 :: (decimal tcpPort.toNat ++ [47])) := by
    simp only [printHu, List.append_assoc, List.cons_append, List.nil_append]
  rw [CString.strlen] at hip
  have hlen : (tcpPrefix ++ ((inetNtoa a b c d).bytes ++ 58 ::
      (decimal tcpPort.toNat ++ [47]))).length ≤ 28 := by
    simp only [List.length_append, List.length_cons, List.length_nil, hprefix]
    omega
  have hbytes : (tcpAddr (inetNtoa a b c d) (printHu tcpPort)).bytes =
      tcpPrefix ++ ((inetNtoa a b c d).bytes ++ 58 :: (decimal tcpPort.toNat ++ [47])) := by
    rw [← hall] at hlen ⊢
    exact List.take_of_length_le (by omega)
  exact ⟨hbytes, by rw [CString.strlen, hbytes]; exact hlen⟩

/-- **The client reads the address and the port that the address was made of.** -/
theorem scanTcpAddr_tcpAddr (stack : TcpEndpoint) :
    scanTcpAddr stack (tcpAddr (inetNtoa a b c d) (printHu tcpPort)) =
      .ok ⟨inetNtoa a b c d, tcpPort⟩ := by
  obtain ⟨hipne, hcolon, hip⟩ := inetNtoa_plain a b c d
  have hprefix : ∀ x, tcpPrefix.getLast? = some x → isSpace x = false := by
    rintro x ⟨⟩
    rfl
  have hslash : ∀ x, ([47] : Bytes).head? = some x → isDigit x = false := by
    rintro x ⟨⟩
    rfl
  have hcolon' : ∀ x, ([58] : Bytes).getLast? = some x → isSpace x = false := by
    rintro x ⟨⟩
    rfl
  have hsep : scan (scanFormat [58] ++ .hu :: scanFormat [47])
      ([58] ++ (decimal tcpPort.toNat ++ [47])) = _ := scan_literal _ _ hcolon'
  rw [List.singleton_append] at hsep
  have hscan : scan tcpAddrFormat (tcpAddr (inetNtoa a b c d) (printHu tcpPort)).bytes =
      [.chars (inetNtoa a b c d), .number tcpPort] := by
    rw [(tcpAddr_inetNtoa a b c d tcpPort).1, tcpAddrFormat, scan_literal _ _ hprefix,
      scan_until _ _ hipne hcolon, hsep, scan_hu tcpPort _ hslash]
    rfl
  simp only [scanTcpAddr, hscan]
  exact if_pos (by simp only [TCP_IP_SIZE]; omega)

end Address

/-! ## The two copies -/

section Copies

variable {e : Endian} {a : Allocator} {mem : Bool} {addr ns : CString}

/-- The message before the copies. -/
def AddPeer.blank (e : Endian) (ns : CString) : ItcMessage :=
  .fresh e (offAddPeerNamespace + ns.strlen + 1) ITCGW_UDP_ADD_PEER

theorem itcAllocZz_addPeer (a : Allocator) (hns : ns.strlen < ITC_MAX_NAME_LENGTH) :
    itcAllocZz e a true (offAddPeerNamespace + ns.strlen + 1) ITCGW_UDP_ADD_PEER =
      .ok (some (AddPeer.blank e ns)) := by
  have hlimit := a.ge
  refine itcAllocZz_ok e a ITCGW_UDP_ADD_PEER ?_ (Nat.le_trans ?_ hlimit)
  · simp only [offAddPeerNamespace]
    omega
  · simp only [ITC_MAX_NAME_LENGTH] at hns
    simp only [offAddPeerNamespace, ITC_HEADER_SIZE, ITC_MAX_MSGSIZE]
    omega

/-- What the two copies give. -/
theorem udpAddPeerMsg_copied (hns : ns.strlen < ITC_MAX_NAME_LENGTH) {body body' : Bytes}
    (haddr : storeBytes (AddPeer.blank e ns).body offAddPeerAddr addr.withNul = .ok body)
    (hname : storeBytes body offAddPeerNamespace ns.withNul = .ok body') :
    udpAddPeerMsg e a true addr ns = .ok { AddPeer.blank e ns with body := body' } := by
  simp only [udpAddPeerMsg, itcAllocZz_addPeer a hns, bind, Except.bind, deref, haddr, hname]
  rfl

/-- A message that has been built: the allocation and the two copies. -/
theorem udpAddPeerMsg_ok {req : ItcMessage} (h : udpAddPeerMsg e a mem addr ns = .ok req) :
    mem = true ∧ ∃ start body, storeBytes start offAddPeerAddr addr.withNul = .ok body ∧
      storeBytes body offAddPeerNamespace ns.withNul = .ok req.body := by
  obtain ⟨o, halloc, h⟩ := bind_eq_ok h
  obtain ⟨start, hsome, h⟩ := bind_eq_ok h
  obtain ⟨body, haddr, h⟩ := bind_eq_ok h
  obtain ⟨body', hname, h⟩ := bind_eq_ok h
  cases h
  rw [deref_eq_ok hsome] at halloc
  exact ⟨(itcAllocZz_fits halloc).1.2, start.body, body, haddr, hname⟩

/-- The body is `msgno`, the bytes of the two fields, and `ENDPOINT`. -/
theorem AddPeer.blank_body (e : Endian) (ns : CString) {n m : Nat} (hnm : n + m = 26 + ns.strlen) :
    (AddPeer.blank e ns).body = word e ITCGW_UDP_ADD_PEER ++
      (List.replicate n 0 ++ (List.replicate m 0 ++ [ENDPOINT])) := by
  have hsize : offAddPeerNamespace + ns.strlen + 1 - 4 = n + m := by
    simp only [offAddPeerNamespace]
    omega
  rw [AddPeer.blank, ItcMessage.fresh, hsize, List.replicate_add, List.append_assoc,
    List.append_assoc]

/-- The `ENDPOINT` behind `u` is where the message has it. -/
theorem AddPeer.endpoint_eq (hns : ns.strlen < ITC_MAX_NAME_LENGTH) {body u : Bytes}
    (hbody : body = u ++ [ENDPOINT]) (hu : u.length = offAddPeerNamespace + ns.strlen + 1) :
    ({ AddPeer.blank e ns with body } : ItcMessage).endpoint = .ok ENDPOINT := by
  simp only [ITC_MAX_NAME_LENGTH] at hns
  have hsize : (UInt32.ofNat (offAddPeerNamespace + ns.strlen + 1)).toNat = u.length := by
    rw [hu, UInt32.toNat_ofNat']
    refine Nat.mod_eq_of_lt ?_
    simp only [offAddPeerNamespace]
    omega
  exact load8_of_eq (a := u) (c := []) hbody hsize

/-- An address that leaves room for its terminator. -/
theorem udpAddPeerMsg_short (hns : ns.strlen < ITC_MAX_NAME_LENGTH) (hshort : addr.strlen ≤ 24) :
    udpAddPeerMsg e a true addr ns = .ok { AddPeer.blank e ns with
      body := word e ITCGW_UDP_ADD_PEER ++ (addr.withNul ++
        (List.replicate (24 - addr.strlen) 0 ++ (ns.withNul ++ [ENDPOINT]))) } := by
  have hgap : List.replicate (24 - addr.strlen + (ns.strlen + 1)) (0 : UInt8) =
      List.replicate (24 - addr.strlen) 0 ++ List.replicate (ns.strlen + 1) 0 := List.replicate_add _ _ _
  have hbody := AddPeer.blank_body e ns (n := addr.strlen + 1)
    (m := 24 - addr.strlen + (ns.strlen + 1)) (by omega)
  rw [hgap, List.append_assoc] at hbody
  have haddr := storeBytes_of_eq hbody
    (show offAddPeerAddr = _ by rw [word_length]; rfl) (show addr.withNul.length = _ by simp)
  refine udpAddPeerMsg_copied hns haddr ?_
  have hsplit : word e ITCGW_UDP_ADD_PEER ++ (addr.withNul ++ (List.replicate (24 - addr.strlen) 0 ++
      (List.replicate (ns.strlen + 1) 0 ++ [ENDPOINT]))) =
      (word e ITCGW_UDP_ADD_PEER ++ (addr.withNul ++ List.replicate (24 - addr.strlen) 0)) ++
        (List.replicate (ns.strlen + 1) 0 ++ [ENDPOINT]) := by
    simp only [List.append_assoc]
  rw [storeBytes_of_eq hsplit ?_ (show ns.withNul.length = _ by simp)]
  · simp only [List.append_assoc]
  · simp only [List.length_append, word_length, CString.withNul_length, List.length_replicate,
      offAddPeerNamespace]
    omega

/-- An address that ends in the namespace. -/
theorem withNul_tail (hlong : 25 ≤ addr.strlen) (htail : ns.bytes = addr.bytes.drop 25) :
    addr.withNul = addr.bytes.take 25 ++ ns.withNul ∧ (addr.bytes.take 25).length = 25 ∧
      addr.strlen = 25 + ns.strlen := by
  rw [CString.strlen] at hlong
  refine ⟨?_, ?_, ?_⟩
  · rw [CString.withNul, CString.withNul, htail, ← List.append_assoc, List.take_append_drop]
  · rw [List.length_take]
    omega
  · rw [CString.strlen, CString.strlen, htail, List.length_drop]
    omega

/-- An address whose tail is the namespace: the second copy writes what the first has written. -/
theorem udpAddPeerMsg_tail (hns : ns.strlen < ITC_MAX_NAME_LENGTH) (hlong : 25 ≤ addr.strlen)
    (htail : ns.bytes = addr.bytes.drop 25) :
    udpAddPeerMsg e a true addr ns = .ok { AddPeer.blank e ns with
      body := word e ITCGW_UDP_ADD_PEER ++ (addr.withNul ++ [ENDPOINT]) } := by
  obtain ⟨hwith, htake, hlen⟩ := withNul_tail hlong htail
  have hbody := AddPeer.blank_body e ns (n := addr.strlen + 1) (m := 0) (by omega)
  rw [List.replicate_zero, List.nil_append] at hbody
  have haddr := storeBytes_of_eq hbody
    (show offAddPeerAddr = _ by rw [word_length]; rfl) (show addr.withNul.length = _ by simp)
  refine udpAddPeerMsg_copied hns haddr ?_
  have hsplit : word e ITCGW_UDP_ADD_PEER ++ (addr.withNul ++ [ENDPOINT]) =
      (word e ITCGW_UDP_ADD_PEER ++ addr.bytes.take 25) ++ (ns.withNul ++ [ENDPOINT]) := by
    simp only [hwith, List.append_assoc]
  rw [storeBytes_of_eq hsplit ?_ rfl]
  · rw [hsplit]
  · rw [List.length_append, word_length, htake]
    rfl

theorem udpAddPeerMsg_short_read (hns : ns.strlen < ITC_MAX_NAME_LENGTH)
    (hshort : addr.strlen ≤ 24) {body : Bytes}
    (hbody : body = word e ITCGW_UDP_ADD_PEER ++ (addr.withNul ++
      (List.replicate (24 - addr.strlen) 0 ++ (ns.withNul ++ [ENDPOINT])))) :
    ({ AddPeer.blank e ns with body } : ItcMessage).endpoint = .ok ENDPOINT ∧
      strAt body offAddPeerAddr = .ok addr ∧ strAt body offAddPeerNamespace = .ok ns := by
  have hfront : (word e ITCGW_UDP_ADD_PEER ++
      (addr.withNul ++ List.replicate (24 - addr.strlen) 0)).length = offAddPeerNamespace := by
    simp only [List.length_append, word_length, CString.withNul_length, List.length_replicate,
      offAddPeerNamespace]
    omega
  refine ⟨AddPeer.endpoint_eq hns (u := (word e ITCGW_UDP_ADD_PEER ++ (addr.withNul ++
    List.replicate (24 - addr.strlen) 0)) ++ ns.withNul) ?_ ?_, ?_, ?_⟩
  · rw [hbody]
    simp only [List.append_assoc]
  · rw [List.length_append, hfront, CString.withNul_length, Nat.add_assoc]
  · exact strAt_of_eq hbody (by rw [word_length]; rfl)
  · refine strAt_of_eq (c := [ENDPOINT]) ?_ hfront.symm
    rw [hbody]
    simp only [List.append_assoc]

theorem udpAddPeerMsg_tail_read (hns : ns.strlen < ITC_MAX_NAME_LENGTH) (hlong : 25 ≤ addr.strlen)
    (htail : ns.bytes = addr.bytes.drop 25) {body : Bytes}
    (hbody : body = word e ITCGW_UDP_ADD_PEER ++ (addr.withNul ++ [ENDPOINT])) :
    ({ AddPeer.blank e ns with body } : ItcMessage).endpoint = .ok ENDPOINT ∧
      strAt body offAddPeerAddr = .ok addr ∧ strAt body offAddPeerNamespace = .ok ns := by
  obtain ⟨hwith, htake, hlen⟩ := withNul_tail hlong htail
  refine ⟨AddPeer.endpoint_eq hns (u := word e ITCGW_UDP_ADD_PEER ++ addr.withNul) ?_ ?_, ?_, ?_⟩
  · rw [hbody, List.append_assoc]
  · rw [List.length_append, word_length, CString.withNul_length, hlen]
    simp only [offAddPeerNamespace]
    omega
  · exact strAt_of_eq hbody (by rw [word_length]; rfl)
  · refine strAt_of_eq (a := word e ITCGW_UDP_ADD_PEER ++ addr.bytes.take 25) (c := [ENDPOINT]) ?_ ?_
    · rw [hbody, hwith]
      simp only [List.append_assoc]
    · rw [List.length_append, word_length, htake]
      rfl

/-- **The namespace is written over the tail of a longer address.** -/
theorem udpAddPeerMsg_overlap {req : ItcMessage} (h : udpAddPeerMsg e a mem addr ns = .ok req)
    (hlong : 25 ≤ addr.strlen) :
    ∃ found, strAt req.body offAddPeerAddr = .ok found ∧
      found.bytes = addr.bytes.take 25 ++ ns.bytes := by
  obtain ⟨-, start, body, haddr, hname⟩ := udpAddPeerMsg_ok h
  obtain ⟨hfit, hlen⟩ := storeBytes_fits haddr
  rw [CString.strlen] at hlong
  simp only [CString.withNul_length, CString.strlen, offAddPeerAddr] at hfit
  have hstart : (start.take 4).length = 4 := by
    rw [List.length_take]
    omega
  have htake : (addr.bytes.take 25).length = 25 := by
    rw [List.length_take]
    omega
  have hbody : body.take offAddPeerNamespace = start.take 4 ++ addr.bytes.take 25 := by
    have hcopied : body = start.take 4 ++ (addr.bytes.take 25 ++ (addr.bytes.drop 25 ++
        ([0] ++ start.drop (offAddPeerAddr + addr.withNul.length)))) := by
      unfold storeBytes at haddr
      split at haddr
      · rw [← Except.ok.inj haddr, CString.withNul, ← List.append_assoc (addr.bytes.take 25),
          List.take_append_drop, List.append_assoc, offAddPeerAddr]
      · cases haddr
    rw [hcopied, ← List.append_assoc, show offAddPeerNamespace = (start.take 4 ++
      addr.bytes.take 25).length by rw [List.length_append, hstart, htake]; rfl, List.take_left]
  have hwhole : ∃ rest, req.body = start.take 4 ++ ((addr.bytes.take 25 ++ ns.bytes) ++ 0 :: rest) := by
    unfold storeBytes at hname
    split at hname
    · refine ⟨body.drop (offAddPeerNamespace + ns.withNul.length), ?_⟩
      rw [← Except.ok.inj hname, hbody, CString.withNul]
      simp only [List.append_assoc, List.singleton_append]
    · cases hname
  obtain ⟨rest, hwhole⟩ := hwhole
  have hno : 0 ∉ addr.bytes.take 25 ++ ns.bytes := by
    rw [List.mem_append]
    rintro (hmem | hmem)
    · exact addr.noNul (List.mem_of_mem_take hmem)
    · exact ns.noNul hmem
  refine ⟨⟨addr.bytes.take 25 ++ ns.bytes, hno⟩, ?_, rfl⟩
  refine strAt_of_eq (a := start.take 4) (c := rest) ?_ hstart.symm
  rw [hwhole, CString.withNul]
  simp only [List.append_assoc, List.singleton_append]

/-- The copy of the namespace is behind a shorter address. -/
theorem udpAddPeerMsg_addr {req : ItcMessage} (h : udpAddPeerMsg e a mem addr ns = .ok req)
    (hshort : addr.strlen ≤ 24) : strAt req.body offAddPeerAddr = .ok addr := by
  obtain ⟨-, start, body, haddr, hname⟩ := udpAddPeerMsg_ok h
  obtain ⟨hfit, -⟩ := storeBytes_fits haddr
  simp only [CString.withNul_length, offAddPeerAddr] at hfit
  have hstart : (start.take 4).length = 4 := by
    rw [List.length_take]
    omega
  have hbody : body = start.take 4 ++ (addr.withNul ++ start.drop (4 + addr.withNul.length)) := by
    unfold storeBytes at haddr
    split at haddr
    · rw [← Except.ok.inj haddr, offAddPeerAddr]
    · cases haddr
  have hlen : (start.take 4 ++ addr.withNul).length = 5 + addr.strlen := by
    rw [List.length_append, hstart, CString.withNul_length]
    omega
  obtain ⟨rest, hreq⟩ : ∃ rest, req.body = start.take 4 ++ (addr.withNul ++ rest) := by
    unfold storeBytes at hname
    split at hname
    · refine ⟨(start.drop (4 + addr.withNul.length)).take (24 - addr.strlen) ++ (ns.withNul ++
        body.drop (offAddPeerNamespace + ns.withNul.length)), ?_⟩
      have htake : body.take offAddPeerNamespace = start.take 4 ++ addr.withNul ++
          (start.drop (4 + addr.withNul.length)).take (24 - addr.strlen) := by
        rw [hbody, ← List.append_assoc, List.take_append, List.take_of_length_le (by
          rw [hlen, offAddPeerNamespace]; omega), hlen]
        congr 2
        simp only [offAddPeerNamespace]
        omega
      rw [← Except.ok.inj hname, htake]
      simp only [List.append_assoc]
    · cases hname
  exact strAt_of_eq (a := start.take 4) hreq hstart.symm

end Copies

/-! ## The round trip -/

/-- The address leaves room for its terminator, or the namespace is what the second copy would
have to preserve. -/
def AddrFits (addr ns : CString) : Prop := addr.strlen ≤ 24 ∨ ns.bytes = addr.bytes.drop 25

instance (addr ns : CString) : Decidable (AddrFits addr ns) :=
  inferInstanceAs (Decidable (_ ∨ _))

/-- **The client thread reads the address that was announced** exactly when it fits. -/
theorem strAt_udpAddPeerMsg_iff {e : Endian} {a : Allocator} {mem : Bool} {addr ns : CString}
    {req : ItcMessage} (hmsg : udpAddPeerMsg e a mem addr ns = .ok req) :
    strAt req.body offAddPeerAddr = .ok addr ↔ AddrFits addr ns := by
  by_cases hshort : addr.strlen ≤ 24
  · exact iff_of_true (udpAddPeerMsg_addr hmsg hshort) (.inl hshort)
  · obtain ⟨found, hfound, hbytes⟩ := udpAddPeerMsg_overlap hmsg (by omega)
    rw [hfound]
    constructor
    · intro hsame
      rw [Except.ok.inj hsame] at hbytes
      refine .inr ((List.append_right_inj (addr.bytes.take 25)).mp ?_)
      rw [← hbytes, List.take_append_drop]
    · intro hfits
      refine congrArg Except.ok (CString.ext_bytes (hbytes.trans ?_))
      rw [hfits.resolve_left hshort, List.take_append_drop]

/-- **The announcement of a peer round-trips exactly for the addresses that fit.** -/
theorem roundTrips_iff (e : Endian) (a : Allocator) (mem : Bool) (ns : GwNamespace)
    (ip1 ip2 ip3 ip4 : UInt8) (tcpPort : UInt16) :
    RoundTrips e a mem ns.name (inetNtoa ip1 ip2 ip3 ip4) tcpPort ↔
      mem = true ∧ AddrFits (tcpAddr (inetNtoa ip1 ip2 ip3 ip4) (printHu tcpPort)) ns.name := by
  have hscan := scanTcpAddr_tcpAddr ip1 ip2 ip3 ip4 tcpPort
  rw [RoundTrips, AddrFits]
  generalize tcpAddr (inetNtoa ip1 ip2 ip3 ip4) (printHu tcpPort) = addr at hscan ⊢
  constructor
  · rintro ⟨req, hmsg, -, hread⟩
    obtain ⟨found, hfound, hrest⟩ := bind_eq_ok (hread ⟨.empty, 0⟩)
    obtain ⟨_, -, hrest⟩ := bind_eq_ok hrest
    obtain ⟨_, -, hrest⟩ := bind_eq_ok hrest
    have hsame : found = addr := congrArg AddPeer.addr (Except.ok.inj hrest)
    rw [hsame] at hfound
    exact ⟨(udpAddPeerMsg_ok hmsg).1, (strAt_udpAddPeerMsg_iff hmsg).mp hfound⟩
  · rintro ⟨rfl, hfits⟩
    -- whichever way it fits, both strings stand in the message as they were
    obtain ⟨req, hmsg, hendpoint, haddr, hname⟩ : ∃ req, udpAddPeerMsg e a true addr ns.name = .ok req ∧
        req.endpoint = .ok ENDPOINT ∧ strAt req.body offAddPeerAddr = .ok addr ∧
        strAt req.body offAddPeerNamespace = .ok ns.name := by
      by_cases hshort : addr.strlen ≤ 24
      · exact ⟨_, udpAddPeerMsg_short ns.lt hshort, udpAddPeerMsg_short_read ns.lt hshort rfl⟩
      · have hlong : 25 ≤ addr.strlen := by omega
        have htail := hfits.resolve_left hshort
        exact ⟨_, udpAddPeerMsg_tail ns.lt hlong htail, udpAddPeerMsg_tail_read ns.lt hlong htail rfl⟩
    refine ⟨req, hmsg, hendpoint, fun stack => ?_⟩
    simp only [readUdpAddPeer, haddr, hname, hscan stack, bind, Except.bind]
    rfl

/-- **The announcement of a long address names another peer**: a gateway named `host` at
`192.168.100.100`, and the last bytes of its address are those of the name. -/
theorem long_address_overwritten :
    ∃ req, udpAddPeerMsg .little .least true (tcpAddr (inetNtoa 192 168 100 100) (printHu 22222))
        ⟨asciiBytes "host", by decide⟩ = .ok req ∧
      readUdpAddPeer ⟨.empty, 0⟩ req = .ok ⟨⟨asciiBytes "tcp://192.168.100.100:222host", by decide⟩,
        ⟨asciiBytes "host", by decide⟩, ⟨inetNtoa 192 168 100 100, 222⟩⟩ ∧
      ¬ RoundTrips .little .least true ⟨asciiBytes "host", by decide⟩
        (inetNtoa 192 168 100 100) 22222 := by
  have hbytes : (tcpAddr (inetNtoa 192 168 100 100) (printHu 22222)).bytes =
      asciiBytes "tcp://192.168.100.100:22222/" := by decide
  have haddr : tcpAddr (inetNtoa 192 168 100 100) (printHu 22222) =
      ⟨asciiBytes "tcp://192.168.100.100:22222/", by decide⟩ := CString.ext_bytes hbytes
  obtain ⟨req, hmsg, hread⟩ : ∃ req, udpAddPeerMsg .little .least true
      ⟨asciiBytes "tcp://192.168.100.100:22222/", by decide⟩ ⟨asciiBytes "host", by decide⟩ = .ok req ∧
      readUdpAddPeer ⟨.empty, 0⟩ req = .ok ⟨⟨asciiBytes "tcp://192.168.100.100:222host", by decide⟩,
        ⟨asciiBytes "host", by decide⟩, ⟨inetNtoa 192 168 100 100, 222⟩⟩ := by
    refine ⟨_, rfl, ?_⟩
    decide
  refine ⟨req, ?_, hread, ?_⟩
  · rw [haddr]
    exact hmsg
  · rintro ⟨req', hmsg', -, hback⟩
    rw [haddr, hmsg] at hmsg'
    rw [← Except.ok.inj hmsg', haddr] at hback
    have hport := congrArg (fun r => r.endpoint.tcpPort) (Except.ok.inj (hread.symm.trans
      (hback ⟨.empty, 0⟩)))
    revert hport
    decide

end ItcFramework
