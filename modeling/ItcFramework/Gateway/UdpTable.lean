import ItcFramework.Gateway.PeerTable

/-!
# The peers that have announced themselves

The UDP thread of `itc_gw.c` keeps the addresses that peers broadcast, each in a slot of
`udp_peers`, and finds them by `udp_tree`, which is ordered by the addresses in the slots.

* `UdpTable` — the slots and the tree; `handleReceiveBroadcastMsg`, `handleUdpRmvPeer` — the two
  handlers, up to the messages they send.
* `UdpTable.Inv` — the tree holds the slots that are taken.
-/

set_option autoImplicit false

namespace ItcFramework

open ByteImage SearchTree

/-! ## The table of the UDP thread -/

/-- `udp_peers`, each slot with its `addr`, and `udp_tree`. -/
structure UdpTable where
  peers : Nat → CString
  tree : SearchTree.Tree Nat

/-- `setup_udp_peer` -/
def UdpTable.init : UdpTable := ⟨fun _ => ITC_GATEWAY_NO_ADDR_STRING, .leaf⟩

def compareAddrUdpTree (peers : Nat → CString) (addr : CString) (peer : Nat) : Ordering :=
  CString.strcmp addr (peers peer)

def comparePeerUdpTree (peers : Nat → CString) (peerA peerB : Nat) : Ordering :=
  CString.strcmp (peers peerA) (peers peerB)

/-- `"tcp://"` -/
def tcpPrefix : Bytes := [116, 99, 112, 58, 47, 47]

/-- `snprintf(m_addr, 40, "tcp://%s:%hu/", tcp_ip, tcp_port)`; `tcpPort` is what `%hu` prints. -/
def tcpAddr (tcpIp tcpPort : CString) : CString where
  bytes := (tcpPrefix ++ tcpIp.bytes ++ [58] ++ tcpPort.bytes ++ [47]).take 39
  noNul := by
    intro hmem
    have hin := List.mem_of_mem_take hmem
    simp only [tcpPrefix, List.mem_append, List.mem_cons, List.not_mem_nil, or_false] at hin
    have hip := tcpIp.noNul
    have hport := tcpPort.noNul
    rcases hin with (((hin | hin) | hin) | hin) | hin
    · revert hin
      decide
    · exact hip hin
    · cases hin
    · exact hport hin
    · cases hin

/-- The loop over the slots: the first one that is free. -/
def freeUdpSlot (peers : Nat → CString) : Option Nat :=
  (List.range ITC_GATEWAY_MAX_PEERS).find? fun i => peers i == ITC_GATEWAY_NO_ADDR_STRING

def setAddr (peers : Nat → CString) (i : Nat) (addr : CString) : Nat → CString :=
  fun j => if j = i then addr else peers j

def UdpTable.place (impl : TreeImpl Nat) (tbl : UdpTable) (i : Nat) (addr : CString) : UdpTable :=
  let peers := setAddr tbl.peers i addr
  ⟨peers, impl.tsearch (comparePeerUdpTree peers i) i tbl.tree⟩

def UdpTable.find (tbl : UdpTable) (addr : CString) : Option Nat :=
  tbl.tree.find (compareAddrUdpTree tbl.peers addr)

/-- `handle_receive_broadcast_msg` for a message with these fields, with the `ITCGW_UDP_ADD_PEER`
it sends; `sent` tells whether `itc_send` and `sendto` succeed. -/
def handleReceiveBroadcastMsg (impl : TreeImpl Nat) (tbl : UdpTable) (ns tcpIp tcpPort : CString)
    (sent : Bool) : Bool × UdpTable × Option (CString × CString) :=
  let addr := tcpAddr tcpIp tcpPort
  match tbl.find addr with
  | some _ => (true, tbl, none)
  | none =>
      match freeUdpSlot tbl.peers with
      | none => (false, tbl, none)
      | some i =>
          if sent then (true, tbl.place impl i addr, some (addr, ns))
          else (false, tbl.place impl i addr, none)

/-- The slot is cleared before `tdelete` compares it with the others. -/
def UdpTable.remove (impl : TreeImpl Nat) (tbl : UdpTable) (i : Nat) : UdpTable :=
  let peers := setAddr tbl.peers i ITC_GATEWAY_NO_ADDR_STRING
  ⟨peers, impl.tdelete (comparePeerUdpTree peers i) tbl.tree⟩

def handleUdpRmvPeer (impl : TreeImpl Nat) (tbl : UdpTable) (addr : CString) : Bool × UdpTable :=
  match tbl.find addr with
  | none => (false, tbl)
  | some i => (true, tbl.remove impl i)

/-! ## The table of the UDP thread, step by step -/

theorem tcpAddr_ne (tcpIp tcpPort : CString) : tcpAddr tcpIp tcpPort ≠ ITC_GATEWAY_NO_ADDR_STRING := by
  intro heq
  have hhead := congrArg (fun s : CString => s.bytes.head?) heq
  simp only [tcpAddr, tcpPrefix, ITC_GATEWAY_NO_ADDR_STRING, List.cons_append, List.take_succ_cons,
    List.head?_cons, Option.some.injEq] at hhead
  revert hhead
  decide

theorem freeUdpSlot_some {peers : Nat → CString} {i : Nat} (h : freeUdpSlot peers = some i) :
    i < ITC_GATEWAY_MAX_PEERS ∧ peers i = ITC_GATEWAY_NO_ADDR_STRING := by
  have hmem := List.mem_of_find?_eq_some h
  have haddr := List.find?_some h
  exact ⟨List.mem_range.mp hmem, by simpa using haddr⟩

@[simp] theorem setAddr_self (peers : Nat → CString) (i : Nat) (addr : CString) :
    setAddr peers i addr i = addr := if_pos rfl

theorem setAddr_ne (peers : Nat → CString) {i j : Nat} (addr : CString) (h : j ≠ i) :
    setAddr peers i addr j = peers j := if_neg h

/-- The other slots keep their places. -/
theorem ordered_setAddr {peers : Nat → CString} {l : List Nat} {i : Nat} (hl : ∀ j ∈ l, j ≠ i)
    (hord : Ordered CString.strcmp peers l) (addr : CString) :
    Ordered CString.strcmp (setAddr peers i addr) l :=
  hord.congr fun j hj => setAddr_ne _ _ (hl j hj)

theorem UdpTable.place_peers (impl : TreeImpl Nat) (tbl : UdpTable) (i : Nat) (addr : CString) :
    (tbl.place impl i addr).peers = setAddr tbl.peers i addr := rfl

theorem UdpTable.remove_peers (impl : TreeImpl Nat) (tbl : UdpTable) (i : Nat) :
    (tbl.remove impl i).peers = setAddr tbl.peers i ITC_GATEWAY_NO_ADDR_STRING := rfl

/-- The tree holds the slots that are taken, ordered by address. -/
structure UdpTable.Inv (tbl : UdpTable) : Prop where
  ordered : Ordered CString.strcmp tbl.peers tbl.tree.toList
  mem : ∀ i, i ∈ tbl.tree.toList ↔
    i < ITC_GATEWAY_MAX_PEERS ∧ tbl.peers i ≠ ITC_GATEWAY_NO_ADDR_STRING

namespace UdpTable.Inv

variable {tbl : UdpTable} {i : Nat} {addr : CString}

theorem init : UdpTable.init.Inv :=
  ⟨List.Pairwise.nil, fun _ => iff_of_false List.not_mem_nil fun h => h.2 rfl⟩

theorem find_iff (h : tbl.Inv) :
    tbl.find addr = some i ↔ i ∈ tbl.tree.toList ∧ tbl.peers i = addr :=
  find_byKey h.ordered

theorem place (h : tbl.Inv) (impl : TreeImpl Nat) (hi : i < ITC_GATEWAY_MAX_PEERS)
    (hfree : tbl.peers i = ITC_GATEWAY_NO_ADDR_STRING) (haddr : addr ≠ ITC_GATEWAY_NO_ADDR_STRING)
    (hnew : tbl.find addr = none) : (tbl.place impl i addr).Inv := by
  have hnot : ∀ j ∈ tbl.tree.toList, j ≠ i := by
    rintro j hj rfl
    exact ((h.mem j).mp hj).2 hfree
  have hdistinct : ∀ j ∈ tbl.tree.toList,
      setAddr tbl.peers i addr j ≠ setAddr tbl.peers i addr i := by
    intro j hj heq
    rw [setAddr_ne _ _ (hnot j hj), setAddr_self] at heq
    rw [h.find_iff.mpr ⟨hj, heq⟩] at hnew
    cases hnew
  obtain ⟨hord, hmem⟩ :=
    impl.tsearch_spec (ordered_setAddr hnot h.ordered addr) hdistinct
  refine ⟨hord, fun j => ?_⟩
  by_cases hji : j = i
  · rw [hji]
    refine iff_of_true ((hmem i).mpr (.inl rfl)) ⟨hi, ?_⟩
    rw [place_peers, setAddr_self]
    exact haddr
  · refine (hmem j).trans ?_
    rw [place_peers, setAddr_ne _ _ hji, h.mem j]
    exact or_iff_right hji

/-- `tdelete` takes the cleared slot out when the walk for it still finds it. -/
theorem remove (h : tbl.Inv) (impl : WalkImpl Nat)
    (hfind : tbl.tree.find
      (comparePeerUdpTree (setAddr tbl.peers i ITC_GATEWAY_NO_ADDR_STRING) i) = some i) :
    (tbl.remove impl.toTreeImpl i).Inv := by
  obtain ⟨hord, hmem⟩ := impl.tdelete_spec h.ordered hfind
  have hnot : ∀ j ∈ (tbl.remove impl.toTreeImpl i).tree.toList, j ≠ i :=
    fun j hj => ((hmem j).mp hj).1
  refine ⟨ordered_setAddr hnot hord _, fun j => (hmem j).trans ?_⟩
  rw [h.mem j]
  by_cases hji : j = i
  · rw [hji]
    refine iff_of_false (fun hboth => hboth.1 rfl) fun hboth => hboth.2 ?_
    rw [remove_peers, setAddr_self]
  · rw [remove_peers, setAddr_ne _ _ hji]
    exact and_iff_right hji

/-- An address is in one slot at most. -/
theorem unique (h : tbl.Inv) {j : Nat} (hi : i < ITC_GATEWAY_MAX_PEERS)
    (hj : j < ITC_GATEWAY_MAX_PEERS) (haddr : tbl.peers i ≠ ITC_GATEWAY_NO_ADDR_STRING)
    (heq : tbl.peers i = tbl.peers j) : i = j := by
  have hi' := h.find_iff.mpr ⟨(h.mem i).mpr ⟨hi, haddr⟩, rfl⟩
  have hj' := h.find_iff.mpr ⟨(h.mem j).mpr ⟨hj, heq ▸ haddr⟩, rfl⟩
  rw [← heq, hi'] at hj'
  exact Option.some.inj hj'

end UdpTable.Inv

end ItcFramework
