import ItcFramework.Lib.SearchTree
import ItcFramework.Lib.Transition
import ItcFramework.Gateway.Framing

/-!
# The peer tables of the gateway

Embedding of the two TCP peer tables of `itc_gw.c`: 255 slots each, and a tree of pointers to
the slots in use. The trees are built with the address comparators and searched with the
namespace and socket comparators as well.

* `PeerTable.Inv` — the tree holds the slots in use, ordered by address; kept by every
  handler.
* `peersOk_iff` — every lookup finds the peer it is meant to find exactly when, among the
  connected peers, the order of the addresses agrees with that of the namespaces (client
  table) and of the sockets (both tables).
-/

set_option autoImplicit false

namespace ItcFramework

open ByteImage SearchTree Transition

def ITC_GATEWAY_MAX_PEERS : Nat := 255

/-- `"NO_ADDR"` -/
def ITC_GATEWAY_NO_ADDR_STRING : CString := ⟨[78, 79, 95, 65, 68, 68, 82], by decide⟩

/-! ## Tables and comparators -/

structure TcpPeerInfo where
  addr : CString
  fd : Int
  ns : CString
  deriving DecidableEq, Repr

/-- The slots, and the tree of pointers to them. -/
structure PeerTable where
  peers : Nat → TcpPeerInfo
  tree : SearchTree.Tree Nat

/-- `setup_tcp_server_peer` and its client counterpart. -/
def PeerTable.init : PeerTable := ⟨fun _ => ⟨ITC_GATEWAY_NO_ADDR_STRING, -1, .empty⟩, .leaf⟩

def compareAddrTcpTree (peers : Nat → TcpPeerInfo) (addr : CString) (peer : Nat) : Ordering :=
  CString.strcmp addr (peers peer).addr

def comparePeerTcpTree (peers : Nat → TcpPeerInfo) (peerA peerB : Nat) : Ordering :=
  CString.strcmp (peers peerA).addr (peers peerB).addr

def compareSockfdTcpTree (peers : Nat → TcpPeerInfo) (sockfd : Int) (peer : Nat) : Ordering :=
  if sockfd = (peers peer).fd then .eq
  else if sockfd > (peers peer).fd then .gt
  else .lt

def compareNamespaceTcpTree (peers : Nat → TcpPeerInfo) (ns : CString) (peer : Nat) : Ordering :=
  CString.strcmp ns (peers peer).ns

/-! ## Handlers -/

/-- The loop over the slots: the first one that is free. -/
def freeSlot (peers : Nat → TcpPeerInfo) : Option Nat :=
  (List.range ITC_GATEWAY_MAX_PEERS).find? fun i => (peers i).fd == -1

def setPeer (peers : Nat → TcpPeerInfo) (i : Nat) (p : TcpPeerInfo) : Nat → TcpPeerInfo :=
  fun j => if j = i then p else peers j

/-- Filling slot `i` and adding it to the tree. -/
def PeerTable.place (impl : TreeImpl Nat) (tbl : PeerTable) (i : Nat) (p : TcpPeerInfo) :
    PeerTable :=
  let peers := setPeer tbl.peers i p
  ⟨peers, impl.tsearch (comparePeerTcpTree peers i) i tbl.tree⟩

/-- `conn` is the socket that `socket()` and `connect()` give, if they succeed. -/
def handleTcpClientAddPeer (impl : TreeImpl Nat) (tbl : PeerTable) (addr ns : CString)
    (conn : Option Int) : Bool × PeerTable :=
  match tbl.tree.find (compareAddrTcpTree tbl.peers addr) with
  | some _ => (false, tbl)
  | none =>
      match conn with
      | none => (false, tbl)
      | some newFd =>
          match freeSlot tbl.peers with
          | none => (false, tbl)
          | some i => (true, tbl.place impl i ⟨addr, newFd, ns⟩)

/-- What `accept()` gives. -/
inductive AcceptResult where
  | interrupted
  | failed
  | accepted (newFd : Int) (addr : CString)
  deriving DecidableEq, Repr

def handleAcceptNewConnection (impl : TreeImpl Nat) (tbl : PeerTable) :
    AcceptResult → Bool × PeerTable
  | .interrupted => (true, tbl)
  | .failed => (false, tbl)
  | .accepted newFd addr =>
      match tbl.tree.find (compareAddrTcpTree tbl.peers addr) with
      | some _ => (true, tbl)
      | none =>
          match freeSlot tbl.peers with
          | none => (false, tbl)
          | some i => (true, tbl.place impl i ⟨addr, newFd, (tbl.peers i).ns⟩)

/-- Closing the peer in slot `i` and taking it out of the tree by its address. -/
def PeerTable.detach (impl : TreeImpl Nat) (tbl : PeerTable) (i : Nat) : PeerTable :=
  let peers := setPeer tbl.peers i { tbl.peers i with fd := -1 }
  ⟨peers, impl.tdelete (compareAddrTcpTree peers (peers i).addr) tbl.tree⟩

def PeerTable.clearAddr (tbl : PeerTable) (i : Nat) : PeerTable :=
  { tbl with peers := setPeer tbl.peers i { tbl.peers i with addr := ITC_GATEWAY_NO_ADDR_STRING } }

def PeerTable.findSockfd (tbl : PeerTable) (sockfd : Int) : Option Nat :=
  tbl.tree.find (compareSockfdTcpTree tbl.peers sockfd)

def PeerTable.findNamespace (tbl : PeerTable) (ns : CString) : Option Nat :=
  tbl.tree.find (compareNamespaceTcpTree tbl.peers ns)

def handleTcpClientRmvPeer (impl : TreeImpl Nat) (tbl : PeerTable) (sockfd : Int) :
    Bool × PeerTable :=
  match tbl.findSockfd sockfd with
  | none => (false, tbl)
  | some i => (true, (tbl.detach impl i).clearAddr i)

/-- The address stays in the freed slot when the UDP thread cannot be notified. -/
def deleteTcpPeerResource (impl : TreeImpl Nat) (tbl : PeerTable) (sockfd : Int)
    (notified : Bool) : Bool × PeerTable :=
  match tbl.findSockfd sockfd with
  | none => (false, tbl)
  | some i =>
      if notified then (true, (tbl.detach impl i).clearAddr i) else (false, tbl.detach impl i)

/-- `handle_fwd_data_out`: the socket and the bytes of its `send()`, `none` when the namespace
is not found and the message is dropped. -/
def handleFwdDataOut (e : Endian) (pid : UInt32) (tbl : PeerTable) (msg : ItcMessage) :
    Except MemFault (Option (Int × Bytes)) := do
  let rep ← fwdDataPacket e pid msg
  let ns ← strAt msg.body offToNamespace
  match tbl.findNamespace ns with
  | none => return none
  | some i => return some ((tbl.peers i).fd, rep)

/-! ## Runs -/

/-- Both tables of a gateway. -/
structure TcpPeers where
  server : PeerTable
  client : PeerTable

inductive PeerAction where
  | addPeer (addr ns : CString) (conn : Option Int)
  | rmvPeer (sockfd : Int)
  | accept (r : AcceptResult)
  | deletePeer (sockfd : Int) (notified : Bool)

def TcpPeers.step (impl : TreeImpl Nat) (g : TcpPeers) : PeerAction → TcpPeers
  | .addPeer addr ns conn => { g with client := (handleTcpClientAddPeer impl g.client addr ns conn).2 }
  | .rmvPeer sockfd => { g with client := (handleTcpClientRmvPeer impl g.client sockfd).2 }
  | .accept r => { g with server := (handleAcceptNewConnection impl g.server r).2 }
  | .deletePeer sockfd notified =>
      { g with server := (deleteTcpPeerResource impl g.server sockfd notified).2 }

def PeerStep (impl : TreeImpl Nat) (g : TcpPeers) (act : PeerAction) (g' : TcpPeers) : Prop :=
  g' = g.step impl act

/-- A slot in use. -/
def PeerTable.Connected (tbl : PeerTable) (i : Nat) : Prop :=
  i < ITC_GATEWAY_MAX_PEERS ∧ (tbl.peers i).fd ≠ -1

/-- A socket the kernel can give out: valid, and not one that is still open here. -/
def PeerTable.FreshFd (tbl : PeerTable) (fd : Int) : Prop :=
  0 ≤ fd ∧ ∀ i, tbl.Connected i → (tbl.peers i).fd ≠ fd

/-- Sockets are distinct, and so are the namespaces of different addresses. -/
def DistinctPeers (g : TcpPeers) : PeerAction → Prop
  | .addPeer addr ns conn =>
      (∀ fd, conn = some fd → g.client.FreshFd fd) ∧
        ∀ i, g.client.Connected i → (g.client.peers i).ns = ns → (g.client.peers i).addr = addr
  | .accept (.accepted newFd _) => g.server.FreshFd newFd
  | _ => True

/-! ## The invariant of a table -/

variable {impl : TreeImpl Nat} {tbl : PeerTable}

structure PeerTable.Inv (tbl : PeerTable) : Prop where
  ordered : Ordered CString.strcmp (fun i => (tbl.peers i).addr) tbl.tree.toList
  mem : ∀ i, i ∈ tbl.tree.toList ↔ tbl.Connected i

theorem PeerTable.Inv.init : PeerTable.init.Inv :=
  ⟨List.Pairwise.nil, fun i => ⟨fun h => by simp [PeerTable.init, SearchTree.Tree.toList] at h,
    fun h => absurd rfl h.2⟩⟩

theorem freeSlot_some {peers : Nat → TcpPeerInfo} {i : Nat} (h : freeSlot peers = some i) :
    i < ITC_GATEWAY_MAX_PEERS ∧ (peers i).fd = -1 := by
  have hmem := List.mem_of_find?_eq_some h
  have hfd := List.find?_some h
  exact ⟨List.mem_range.mp hmem, by simpa using hfd⟩

@[simp] theorem setPeer_self (peers : Nat → TcpPeerInfo) (i : Nat) (p : TcpPeerInfo) :
    setPeer peers i p i = p := by
  simp [setPeer]

theorem setPeer_ne (peers : Nat → TcpPeerInfo) {i j : Nat} (p : TcpPeerInfo) (h : j ≠ i) :
    setPeer peers i p j = peers j := by
  simp [setPeer, h]

/-- The order of a sequence does not depend on slots that are not in it. -/
theorem ordered_setPeer {peers : Nat → TcpPeerInfo} {l : List Nat} {i : Nat} (p : TcpPeerInfo)
    (hi : i ∉ l ∨ p.addr = (peers i).addr)
    (h : Ordered CString.strcmp (fun j => (peers j).addr) l) :
    Ordered CString.strcmp (fun j => (setPeer peers i p j).addr) l := by
  have hsame : ∀ j ∈ l, (setPeer peers i p j).addr = (peers j).addr := by
    intro j hj
    by_cases hji : j = i
    · subst hji
      rcases hi with hi | hi
      · exact absurd hj hi
      · rw [setPeer_self, hi]
    · rw [setPeer_ne _ _ hji]
  refine List.Pairwise.imp_of_mem (fun hx hy hlt => ?_) h
  simp only [hsame _ hx, hsame _ hy]
  exact hlt

theorem PeerTable.place_ne {impl : TreeImpl Nat} {tbl : PeerTable} {i j : Nat} (p : TcpPeerInfo)
    (h : j ≠ i) : (tbl.place impl i p).peers j = tbl.peers j := setPeer_ne _ _ h

theorem PeerTable.detach_ne {impl : TreeImpl Nat} {tbl : PeerTable} {i j : Nat} (h : j ≠ i) :
    (tbl.detach impl i).peers j = tbl.peers j := setPeer_ne _ _ h

theorem PeerTable.detach_clearAddr_ne {impl : TreeImpl Nat} {tbl : PeerTable} {i j : Nat}
    (h : j ≠ i) : ((tbl.detach impl i).clearAddr i).peers j = tbl.peers j :=
  (setPeer_ne _ _ h).trans (setPeer_ne _ _ h)

theorem PeerTable.Connected.ne_free {tbl : PeerTable} {i j : Nat} (h : tbl.Connected j)
    (hi : freeSlot tbl.peers = some i) : j ≠ i := by
  rintro rfl
  exact h.2 (freeSlot_some hi).2

/-- **Placing a peer with a new address in a free slot.** -/
theorem PeerTable.Inv.place (h : tbl.Inv) {i : Nat} {p : TcpPeerInfo}
    (hi : i < ITC_GATEWAY_MAX_PEERS) (hfree : (tbl.peers i).fd = -1) (hfd : p.fd ≠ -1)
    (hnew : tbl.tree.find (compareAddrTcpTree tbl.peers p.addr) = none) :
    (tbl.place impl i p).Inv ∧
      ∀ j, (tbl.place impl i p).Connected j ↔ j = i ∨ tbl.Connected j := by
  have hnot : i ∉ tbl.tree.toList := fun hmem => ((h.mem i).mp hmem).2 hfree
  have hconn : ∀ j, (tbl.place impl i p).Connected j ↔ j = i ∨ tbl.Connected j := by
    intro j
    simp only [PeerTable.Connected, PeerTable.place]
    by_cases hji : j = i
    · subst hji
      simp [hi, hfd]
    · rw [setPeer_ne _ _ hji]
      simp [hji]
  have hord := ordered_setPeer p (.inl hnot) h.ordered
  have hdistinct : ∀ x ∈ tbl.tree.toList, (setPeer tbl.peers i p x).addr ≠
      (setPeer tbl.peers i p i).addr := by
    intro x hx heq
    have hxi : x ≠ i := fun he => hnot (he ▸ hx)
    rw [setPeer_ne _ _ hxi, setPeer_self] at heq
    have hfound : tbl.tree.find (compareAddrTcpTree tbl.peers p.addr) = some x :=
      (find_byKey h.ordered).mpr ⟨hx, heq⟩
    rw [hnew] at hfound
    cases hfound
  obtain ⟨hord', hmem'⟩ := impl.tsearch_spec hord hdistinct
  refine ⟨⟨hord', fun j => ?_⟩, hconn⟩
  rw [hconn]
  exact (hmem' j).trans (or_congr_right (h.mem j))

/-- **Detaching a connected peer.** -/
theorem PeerTable.Inv.detach (h : tbl.Inv) {i : Nat} (hi : tbl.Connected i) :
    (tbl.detach impl i).Inv ∧
      ∀ j, (tbl.detach impl i).Connected j ↔ j ≠ i ∧ tbl.Connected j := by
  have hconn : ∀ j, (tbl.detach impl i).Connected j ↔ j ≠ i ∧ tbl.Connected j := by
    intro j
    simp only [PeerTable.Connected, PeerTable.detach]
    by_cases hji : j = i
    · subst hji
      simp
    · rw [setPeer_ne _ _ hji]
      simp [hji]
  have hord := ordered_setPeer { tbl.peers i with fd := -1 } (.inr rfl) h.ordered
  obtain ⟨hord', hmem'⟩ := impl.tdelete_spec hord ((h.mem i).mpr hi)
  refine ⟨⟨hord', fun j => ?_⟩, hconn⟩
  rw [hconn]
  exact (hmem' j).trans (and_congr_right fun _ => h.mem j)

/-- Resetting the address of a slot that is not in use. -/
theorem PeerTable.Inv.clearAddr (h : tbl.Inv) {i : Nat} (hi : ¬ tbl.Connected i) :
    (tbl.clearAddr i).Inv ∧ ∀ j, (tbl.clearAddr i).Connected j ↔ tbl.Connected j := by
  have hconn : ∀ j, (tbl.clearAddr i).Connected j ↔ tbl.Connected j := by
    intro j
    simp only [PeerTable.Connected, PeerTable.clearAddr]
    by_cases hji : j = i
    · subst hji
      simp
    · rw [setPeer_ne _ _ hji]
  have hnot : i ∉ tbl.tree.toList := fun hmem => hi ((h.mem i).mp hmem)
  exact ⟨⟨ordered_setPeer _ (.inl hnot) h.ordered, fun j => (h.mem j).trans (hconn j).symm⟩, hconn⟩

theorem PeerTable.Inv.detach_clearAddr (h : tbl.Inv) {i : Nat} (hi : tbl.Connected i) :
    ((tbl.detach impl i).clearAddr i).Inv ∧
      ∀ j, ((tbl.detach impl i).clearAddr i).Connected j ↔ j ≠ i ∧ tbl.Connected j := by
  obtain ⟨hinv, hconn⟩ : (tbl.detach impl i).Inv ∧ _ := h.detach hi
  obtain ⟨hinv', hconn'⟩ := hinv.clearAddr (i := i) fun hc => ((hconn i).mp hc).1 rfl
  exact ⟨hinv', fun j => (hconn' j).trans (hconn j)⟩

/-- A socket is only ever found where it is. -/
theorem PeerTable.Inv.findSockfd_some (h : tbl.Inv) {sockfd : Int} {i : Nat}
    (hf : tbl.findSockfd sockfd = some i) : tbl.Connected i :=
  (h.mem i).mp (SearchTree.Tree.find_some hf).1

/-! ## Every handler keeps the invariant -/

theorem handleTcpClientAddPeer_inv (h : tbl.Inv) {addr ns : CString} {conn : Option Int}
    (hfd : ∀ fd, conn = some fd → 0 ≤ fd) : (handleTcpClientAddPeer impl tbl addr ns conn).2.Inv := by
  unfold handleTcpClientAddPeer
  split
  · exact h
  · rename_i hnone
    split
    · exact h
    · rename_i newFd
      split
      · exact h
      · rename_i i hfree
        obtain ⟨hi, hfd0⟩ := freeSlot_some hfree
        have h0 := hfd newFd rfl
        exact (h.place hi hfd0 (by simp only; omega) hnone).1

theorem handleAcceptNewConnection_inv (h : tbl.Inv) {r : AcceptResult}
    (hfd : ∀ fd addr, r = .accepted fd addr → 0 ≤ fd) :
    (handleAcceptNewConnection impl tbl r).2.Inv := by
  cases r with
  | interrupted => exact h
  | failed => exact h
  | accepted newFd addr =>
    unfold handleAcceptNewConnection
    dsimp only
    split
    · exact h
    · rename_i hnone
      split
      · exact h
      · rename_i i hfree
        obtain ⟨hi, hfd0⟩ := freeSlot_some hfree
        have h0 := hfd newFd addr rfl
        exact (h.place hi hfd0 (by simp only; omega) hnone).1

theorem handleTcpClientRmvPeer_inv (h : tbl.Inv) (sockfd : Int) :
    (handleTcpClientRmvPeer impl tbl sockfd).2.Inv := by
  unfold handleTcpClientRmvPeer
  split
  · exact h
  · rename_i i hf
    exact (h.detach_clearAddr (h.findSockfd_some hf)).1

theorem deleteTcpPeerResource_inv (h : tbl.Inv) (sockfd : Int) (notified : Bool) :
    (deleteTcpPeerResource impl tbl sockfd notified).2.Inv := by
  unfold deleteTcpPeerResource
  split
  · exact h
  · rename_i i hf
    split
    · exact (h.detach_clearAddr (h.findSockfd_some hf)).1
    · exact (h.detach (h.findSockfd_some hf)).1

/-- Both tables. -/
structure TcpPeers.Inv (g : TcpPeers) : Prop where
  server : g.server.Inv
  client : g.client.Inv

theorem TcpPeers.Inv.step {g g' : TcpPeers} {act : PeerAction} (h : g.Inv)
    (hd : DistinctPeers g act) (hstep : PeerStep impl g act g') : g'.Inv := by
  rw [PeerStep] at hstep
  subst hstep
  cases act with
  | addPeer addr ns conn =>
    exact ⟨h.server, handleTcpClientAddPeer_inv h.client fun fd hc => (hd.1 fd hc).1⟩
  | rmvPeer sockfd => exact ⟨h.server, handleTcpClientRmvPeer_inv h.client sockfd⟩
  | accept r =>
    refine ⟨handleAcceptNewConnection_inv h.server fun fd addr hr => ?_, h.client⟩
    subst hr
    exact hd.1
  | deletePeer sockfd notified =>
    exact ⟨deleteTcpPeerResource_inv h.server sockfd notified, h.client⟩

def TcpPeers.init : TcpPeers := ⟨.init, .init⟩

/-- **In every reachable state the trees hold the slots in use, ordered by address.** -/
theorem TcpPeers.Inv.run {g : TcpPeers} {as : List PeerAction}
    (hrun : Run (Guarded (PeerStep impl) DistinctPeers) .init as g) : g.Inv :=
  hrun.invariant_of_guard (fun _ _ _ hi hg hs => hi.step hg hs)
    ⟨PeerTable.Inv.init, PeerTable.Inv.init⟩

/-! ## What the lookups find -/

/-- Among the connected peers a smaller address goes with a smaller namespace. -/
def PeerTable.NamespaceOrderAgrees (tbl : PeerTable) : Prop :=
  ∀ i j, tbl.Connected i → tbl.Connected j →
    CString.strcmp (tbl.peers i).addr (tbl.peers j).addr = .lt →
      CString.strcmp (tbl.peers i).ns (tbl.peers j).ns = .lt

/-- Among the connected peers a smaller address goes with a smaller socket. -/
def PeerTable.SockfdOrderAgrees (tbl : PeerTable) : Prop :=
  ∀ i j, tbl.Connected i → tbl.Connected j →
    CString.strcmp (tbl.peers i).addr (tbl.peers j).addr = .lt →
      (tbl.peers i).fd < (tbl.peers j).fd

theorem compareSockfdTcpTree_eq (peers : Nat → TcpPeerInfo) (sockfd : Int) :
    compareSockfdTcpTree peers sockfd = byKey compare (fun i => (peers i).fd) sockfd := by
  funext i
  simp only [compareSockfdTcpTree, byKey]
  rcases lt_trichotomy sockfd (peers i).fd with h | h | h
  · rw [if_neg (by omega), if_neg (by omega), compare_lt_iff_lt.mpr h]
  · rw [if_pos h, compare_eq_iff_eq.mpr h]
  · rw [if_neg (by omega), if_pos h, compare_gt_iff_gt.mpr h]

theorem PeerTable.Inv.findNamespace_iff (h : tbl.Inv) :
    (∀ ns i, tbl.findNamespace ns = some i ↔ tbl.Connected i ∧ (tbl.peers i).ns = ns) ↔
      tbl.NamespaceOrderAgrees := by
  have key := find_other_key_iff CString.strcmp (fun i => (tbl.peers i).ns) h.ordered
  simp only [h.mem] at key
  rw [PeerTable.NamespaceOrderAgrees]
  exact key.trans ⟨fun hk i j hi hj => hk i hi j hj, fun hk i hi j hj => hk i j hi hj⟩

theorem PeerTable.Inv.findSockfd_iff (h : tbl.Inv) :
    (∀ sockfd i, tbl.findSockfd sockfd = some i ↔ tbl.Connected i ∧ (tbl.peers i).fd = sockfd) ↔
      tbl.SockfdOrderAgrees := by
  have key := find_other_key_iff (compare : Int → Int → Ordering) (fun i => (tbl.peers i).fd)
    h.ordered
  simp only [h.mem, ← compareSockfdTcpTree_eq, compare_lt_iff_lt] at key
  rw [PeerTable.SockfdOrderAgrees]
  exact key.trans ⟨fun hk i j hi hj => hk i hi j hj, fun hk i hi j hj => hk i j hi hj⟩

/-- What the gateway needs of its tables: a lookup gives the connected peer that has the
namespace or the socket, and nothing otherwise; so a message to a connected namespace is sent
on that peer's socket, and a peer that disconnects is removed. -/
structure PeersOk (impl : TreeImpl Nat) (g : TcpPeers) : Prop where
  byNamespace : ∀ ns i,
    g.client.findNamespace ns = some i ↔ g.client.Connected i ∧ (g.client.peers i).ns = ns
  clientBySockfd : ∀ sockfd i,
    g.client.findSockfd sockfd = some i ↔ g.client.Connected i ∧ (g.client.peers i).fd = sockfd
  serverBySockfd : ∀ sockfd i,
    g.server.findSockfd sockfd = some i ↔ g.server.Connected i ∧ (g.server.peers i).fd = sockfd
  fwdDataOut : ∀ e pid msg rep i, g.client.Connected i → fwdDataPacket e pid msg = .ok rep →
    strAt msg.body offToNamespace = .ok (g.client.peers i).ns →
      handleFwdDataOut e pid g.client msg = .ok (some ((g.client.peers i).fd, rep))
  clientRemoved : ∀ i, g.client.Connected i →
    ¬ (handleTcpClientRmvPeer impl g.client (g.client.peers i).fd).2.Connected i
  serverRemoved : ∀ i notified, g.server.Connected i →
    ¬ (deleteTcpPeerResource impl g.server (g.server.peers i).fd notified).2.Connected i

/-- The three orders that must agree with the order of the addresses. -/
structure PeerOrdersAgree (g : TcpPeers) : Prop where
  clientNamespace : g.client.NamespaceOrderAgrees
  clientSockfd : g.client.SockfdOrderAgrees
  serverSockfd : g.server.SockfdOrderAgrees

/-- **Peer lookup.** In every reachable state the lookups are complete exactly when the orders
of the connected peers' addresses, namespaces and sockets agree. -/
theorem peersOk_iff (impl : TreeImpl Nat) (as : List PeerAction) (g : TcpPeers)
    (hrun : Run (Guarded (PeerStep impl) DistinctPeers) .init as g) :
    PeersOk impl g ↔ PeerOrdersAgree g := by
  have hinv := TcpPeers.Inv.run hrun
  constructor
  · intro h
    exact ⟨hinv.client.findNamespace_iff.mp h.byNamespace,
      hinv.client.findSockfd_iff.mp h.clientBySockfd,
      hinv.server.findSockfd_iff.mp h.serverBySockfd⟩
  · intro h
    have hns := hinv.client.findNamespace_iff.mpr h.clientNamespace
    have hcfd := hinv.client.findSockfd_iff.mpr h.clientSockfd
    have hsfd := hinv.server.findSockfd_iff.mpr h.serverSockfd
    refine ⟨hns, hcfd, hsfd, fun e pid msg rep i hi hrep hname => ?_, fun i hi => ?_,
      fun i notified hi => ?_⟩
    · have hfind := (hns _ i).mpr ⟨hi, rfl⟩
      simp only [handleFwdDataOut, hrep, hname, hfind, bind, Except.bind]
      rfl
    · simp only [handleTcpClientRmvPeer, (hcfd _ i).mpr ⟨hi, rfl⟩]
      exact fun hc => (((hinv.client.detach_clearAddr hi).2 i).mp hc).1 rfl
    · simp only [deleteTcpPeerResource, (hsfd _ i).mpr ⟨hi, rfl⟩]
      split
      · exact fun hc => (((hinv.server.detach_clearAddr hi).2 i).mp hc).1 rfl
      · exact fun hc => (((hinv.server.detach hi).2 i).mp hc).1 rfl

theorem PeerTable.Connected.of_place {i j : Nat} {p : TcpPeerInfo}
    (h : (tbl.place impl i p).Connected j) : j = i ∨ tbl.Connected j := by
  by_cases hj : j = i
  · exact .inl hj
  · refine .inr ⟨h.1, ?_⟩
    rw [← PeerTable.place_ne p hj]
    exact h.2

theorem PeerTable.init_not_connected (i : Nat) : ¬ PeerTable.init.Connected i := fun h => h.2 rfl

/-- Two hosts with their namespaces, and the order in which they connect. -/
def twoHosts (addr₁ addr₂ ns₁ ns₂ first second : CString) : List PeerAction :=
  [.addPeer addr₁ ns₁ (some 7), .addPeer addr₂ ns₂ (some 8), .accept (.accepted 9 first),
    .accept (.accepted 10 second)]

theorem twoHosts_run (impl : TreeImpl Nat) (addr₁ addr₂ : CString) {ns₁ ns₂ : CString}
    (hns : ns₁ ≠ ns₂) (first second : CString) :
    Run (Guarded (PeerStep impl) DistinctPeers) .init (twoHosts addr₁ addr₂ ns₁ ns₂ first second)
      ((twoHosts addr₁ addr₂ ns₁ ns₂ first second).foldl (TcpPeers.step impl) .init) := by
  have hfirst : ∀ {p : TcpPeerInfo} {i : Nat}, (PeerTable.init.place impl 0 p).Connected i →
      i = 0 := fun h => h.of_place.resolve_right (PeerTable.init_not_connected _)
  refine .cons ⟨⟨?_, fun i hi => ?_⟩, rfl⟩
    (.cons ⟨⟨?_, fun i hi hname => ?_⟩, rfl⟩ (.cons ⟨?_, rfl⟩ (.cons ⟨?_, rfl⟩ (.nil _))))
  · rintro _ ⟨⟩
    exact ⟨by decide, fun i hi => absurd hi (PeerTable.init_not_connected i)⟩
  · exact absurd hi (PeerTable.init_not_connected i)
  · rintro _ ⟨⟩
    refine ⟨by decide, fun i hi => ?_⟩
    rw [hfirst hi]
    exact show (7 : Int) ≠ 8 by decide
  · rw [hfirst hi] at hname
    exact absurd hname hns
  · exact ⟨by decide, fun i hi => absurd hi (PeerTable.init_not_connected i)⟩
  · refine ⟨by decide, fun i hi => ?_⟩
    rw [hfirst hi]
    exact show (9 : Int) ≠ 10 by decide

/-- Two hosts whose orders agree: both namespaces and both sockets are found. -/
theorem peersOk_iff_ordered :
    ∃ g, Run (Guarded (PeerStep (.plain Nat)) DistinctPeers) .init
        (twoHosts ⟨[49], by decide⟩ ⟨[50], by decide⟩ ⟨[97], by decide⟩ ⟨[98], by decide⟩
          ⟨[49], by decide⟩ ⟨[50], by decide⟩) g ∧
      (g.client.Connected 0 ∧ g.client.Connected 1) ∧
      (g.server.Connected 0 ∧ g.server.Connected 1) ∧ PeersOk (.plain Nat) g := by
  have hns : (⟨[97], by decide⟩ : CString) ≠ ⟨[98], by decide⟩ := by decide
  have hrun := twoHosts_run (.plain Nat) ⟨[49], by decide⟩ ⟨[50], by decide⟩ hns
    ⟨[49], by decide⟩ ⟨[50], by decide⟩
  refine ⟨_, hrun, ⟨⟨by decide, by decide⟩, by decide, by decide⟩,
    ⟨⟨by decide, by decide⟩, by decide, by decide⟩, (peersOk_iff _ _ _ hrun).mpr ?_⟩
  have htwo : ∀ {p q : TcpPeerInfo} {i : Nat},
      ((PeerTable.init.place (.plain Nat) 0 p).place (.plain Nat) 1 q).Connected i →
        i = 0 ∨ i = 1 := fun h =>
    h.of_place.symm.imp_left fun h => h.of_place.resolve_right (PeerTable.init_not_connected _)
  refine ⟨fun i j hi hj => ?_, fun i j hi hj => ?_, fun i j hi hj => ?_⟩
  all_goals
    obtain rfl | rfl := htwo hi <;> obtain rfl | rfl := htwo hj <;> decide

/-- Two hosts: the second address is the greater one but its namespace the smaller, and the
second connection accepted comes from the smaller address. The second namespace and the second
socket are not found. -/
theorem connected_peer_not_found :
    let as := [PeerAction.addPeer ⟨[49], by decide⟩ ⟨[98], by decide⟩ (some 7),
      .addPeer ⟨[50], by decide⟩ ⟨[97], by decide⟩ (some 8),
      .accept (.accepted 9 ⟨[50], by decide⟩), .accept (.accepted 10 ⟨[49], by decide⟩)]
    ∃ g, Run (Guarded (PeerStep (.plain Nat)) DistinctPeers) .init as g ∧
      (g.client.Connected 1 ∧ (g.client.peers 1).ns = ⟨[97], by decide⟩ ∧
        g.client.findNamespace ⟨[97], by decide⟩ = none) ∧
      (g.server.Connected 1 ∧ (g.server.peers 1).fd = 10 ∧ g.server.findSockfd 10 = none) ∧
      ¬ PeersOk (.plain Nat) g := by
  intro as
  have hrun : Run (Guarded (PeerStep (.plain Nat)) DistinctPeers) .init as
      (as.foldl (TcpPeers.step (.plain Nat)) .init) :=
    twoHosts_run _ _ _ (by decide) _ _
  have hns : (as.foldl (TcpPeers.step (.plain Nat)) .init).client.findNamespace
      ⟨[97], by decide⟩ = none := by decide
  have hclient : (as.foldl (TcpPeers.step (.plain Nat)) .init).client.Connected 1 :=
    ⟨by decide, by decide⟩
  refine ⟨_, hrun, ⟨hclient, by decide, hns⟩, ⟨⟨by decide, by decide⟩, by decide, by decide⟩,
    fun h => ?_⟩
  have hfound := (h.byNamespace ⟨[97], by decide⟩ 1).mpr ⟨hclient, by decide⟩
  rw [hns] at hfound
  cases hfound

end ItcFramework
