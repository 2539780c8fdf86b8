import ItcFramework.Gateway.UdpTable
import ItcFramework.Lib.Custody

/-!
# The sockets of the peer tables

`handle_accept_new_connection` and `handle_tcp_client_add_peer` get a socket, and
`delete_tcp_peer_resource` and `handle_tcp_client_rmv_peer` close what a slot holds. Two of the
exits between `accept()` or `socket()` and the slot forget the socket: an address that is already in
the server table, and a table with no free slot.

* `SockCall` — what a handler does with descriptors, in order.
* `Connections` — the two tables, with the sockets that are open and the closes of each slot.
* `Connections.Conserved` — every open socket is in one slot, and a slot in use again was closed
  once.
* `Connections.Stores` — a new connection is stored.
* `connections_conserved_iff` — the runs that conserve the sockets are those that store every new
  connection.
-/

set_option autoImplicit false

namespace ItcFramework

open ByteImage SearchTree Transition Custody

/-! ## Descriptors -/

inductive SockCall where
  | obtained (fd : Int)
  | closed (fd : Int)
  deriving DecidableEq, Repr

/-- The `accept()` of `handle_accept_new_connection`; no exit closes the socket. -/
def acceptCalls : AcceptResult → List SockCall
  | .accepted newFd _ => [.obtained newFd]
  | _ => []

/-- `handle_tcp_client_add_peer`: `sock` is what `socket()` gives, and the socket is closed when
`connect()` fails. -/
def addPeerCalls (tbl : PeerTable) (addr : CString) (sock : Option Int) (connected : Bool) :
    List SockCall :=
  match tbl.tree.find (compareAddrTcpTree tbl.peers addr) with
  | some _ => []
  | none =>
      match sock with
      | none => []
      | some newFd => if connected then [.obtained newFd] else [.obtained newFd, .closed newFd]

/-- `handle_tcp_client_rmv_peer` and `delete_tcp_peer_resource`. -/
def closeCalls (tbl : PeerTable) (sockfd : Int) : List SockCall :=
  match tbl.findSockfd sockfd with
  | none => []
  | some i => [.closed (tbl.peers i).fd]

def openedAfter (opened : List Int) (calls : List SockCall) : List Int :=
  calls.foldl (fun opened call =>
    match call with
    | .obtained fd => fd :: opened
    | .closed fd => opened.erase fd) opened

def closedBy (calls : List SockCall) : List Int :=
  calls.filterMap fun call =>
    match call with
    | .obtained _ => none
    | .closed fd => some fd

/-! ## Tables and slots -/

inductive TcpSide where
  | server
  | client
  deriving DecidableEq, Repr

def TcpPeers.table (g : TcpPeers) : TcpSide → PeerTable
  | .server => g.server
  | .client => g.client

/-- What a slot holds. -/
def PeerTable.holding (tbl : PeerTable) (i : Nat) : Option Int :=
  if i < ITC_GATEWAY_MAX_PEERS ∧ (tbl.peers i).fd ≠ -1 then some (tbl.peers i).fd else none

def TcpPeers.holding (g : TcpPeers) (slot : TcpSide × Nat) : Option Int :=
  (g.table slot.1).holding slot.2

structure Connections where
  peers : TcpPeers
  serverUp : Bool
  /-- Obtained and not closed. -/
  opened : List Int
  /-- How often each slot has closed the socket that it holds or held last. -/
  closes : TcpSide × Nat → Nat

inductive ConnEvent where
  | accept (r : AcceptResult)
  | addPeer (addr ns : CString) (sock : Option Int) (connected : Bool)
  | rmvPeer (sockfd : Int)
  | deletePeer (sockfd : Int) (notified : Bool)

namespace Connections

def init : Connections := ⟨.init, true, [], fun _ => 1⟩

def calls (c : Connections) : ConnEvent → List SockCall
  | .accept r => acceptCalls r
  | .addPeer addr _ sock connected => addPeerCalls c.peers.client addr sock connected
  | .rmvPeer sockfd => closeCalls c.peers.client sockfd
  | .deletePeer sockfd _ => closeCalls c.peers.server sockfd

def action : ConnEvent → PeerAction
  | .accept r => .accept r
  | .addPeer addr ns sock connected => .addPeer addr ns (if connected then sock else none)
  | .rmvPeer sockfd => .rmvPeer sockfd
  | .deletePeer sockfd notified => .deletePeer sockfd notified

/-- The server thread returns when `handle_accept_new_connection` does with `false`. -/
def next (impl : TreeImpl Nat) (c : Connections) (ev : ConnEvent) : Connections where
  peers := c.peers.step impl (action ev)
  serverUp :=
    match ev with
    | .accept r => (handleAcceptNewConnection impl c.peers.server r).1
    | _ => c.serverUp
  opened := openedAfter c.opened (c.calls ev)
  closes := closesAfter c.peers.holding (c.peers.step impl (action ev)).holding
    (closedBy (c.calls ev)) c.closes

/-- A descriptor that the kernel can give out. -/
def FreshFd (c : Connections) (fd : Int) : Prop := 0 ≤ fd ∧ fd ∉ c.opened

def Enabled (c : Connections) : ConnEvent → Prop
  | .accept r => c.serverUp = true ∧ ∀ fd addr, r = .accepted fd addr → c.FreshFd fd
  | .addPeer _ _ sock _ => ∀ fd, sock = some fd → c.FreshFd fd
  | .rmvPeer sockfd => ∃ i, c.peers.client.holding i = some sockfd
  | .deletePeer sockfd _ => c.serverUp = true ∧ ∃ i, c.peers.server.holding i = some sockfd

/-- Every open socket is in one slot, a slot holds an open socket, and one that holds none has
closed its last socket once. -/
def Conserved (c : Connections) : Prop := Custody.Conserved c.peers.holding c.opened c.closes

/-- A new connection comes from an address that the table does not have, and finds a free slot. -/
def Stores (c : Connections) : ConnEvent → Prop
  | .accept (.accepted _ addr) =>
      c.peers.server.tree.find (compareAddrTcpTree c.peers.server.peers addr) = none ∧
        freeSlot c.peers.server.peers ≠ none
  | .addPeer addr _ sock connected =>
      c.peers.client.tree.find (compareAddrTcpTree c.peers.client.peers addr) = none →
        sock ≠ none → connected = true → freeSlot c.peers.client.peers ≠ none
  | _ => True

end Connections

def ConnStep (impl : TreeImpl Nat) (c : Connections) (ev : ConnEvent) (c' : Connections) : Prop :=
  c.Enabled ev ∧ c' = c.next impl ev

/-! ## What a handler does to the slots -/

section Slots

variable {impl : TreeImpl Nat} {tbl : PeerTable} {i : Nat} {fd : Int}

theorem PeerTable.holding_eq_some :
    tbl.holding i = some fd ↔ tbl.Connected i ∧ (tbl.peers i).fd = fd := by
  unfold PeerTable.holding PeerTable.Connected
  split
  · next hused => simp [hused]
  · next hfree => simp [hfree]

theorem PeerTable.holding_free (hfree : (tbl.peers i).fd = -1) : tbl.holding i = none :=
  if_neg fun hused => hused.2 hfree

theorem PeerTable.holding_place {p : TcpPeerInfo} (hi : i < ITC_GATEWAY_MAX_PEERS)
    (hfd : p.fd ≠ -1) :
    (tbl.place impl i p).holding = Function.update tbl.holding i (some p.fd) := by
  funext j
  by_cases hji : j = i
  · rw [hji, Function.update_self, PeerTable.holding_eq_some]
    exact ⟨⟨hi, by simpa [PeerTable.place] using hfd⟩, by simp [PeerTable.place]⟩
  · rw [Function.update_of_ne hji]
    simp only [PeerTable.holding, PeerTable.place_ne _ hji]

theorem PeerTable.holding_detach :
    (tbl.detach impl i).holding = Function.update tbl.holding i none := by
  funext j
  by_cases hji : j = i
  · rw [hji, Function.update_self]
    exact PeerTable.holding_free (by simp [PeerTable.detach])
  · rw [Function.update_of_ne hji]
    simp only [PeerTable.holding, PeerTable.detach_ne hji]

theorem PeerTable.holding_clearAddr : (tbl.clearAddr i).holding = tbl.holding := by
  funext j
  by_cases hji : j = i
  · simp only [PeerTable.holding, PeerTable.clearAddr, hji, setPeer_self]
  · simp only [PeerTable.holding, PeerTable.clearAddr, setPeer_ne _ _ hji]

/-- The slots of both tables when one slot of one table changes. -/
theorem TcpPeers.holding_update {g g' : TcpPeers} {side : TcpSide} {o : Option Int}
    (hsame : ∀ other, other ≠ side → g'.table other = g.table other)
    (hone : (g'.table side).holding = Function.update (g.table side).holding i o) :
    g'.holding = Function.update g.holding (side, i) o := by
  funext slot
  obtain ⟨other, j⟩ := slot
  by_cases hside : other = side
  · subst hside
    by_cases hji : j = i
    · rw [hji, Function.update_self, TcpPeers.holding, hone, Function.update_self]
    · rw [Function.update_of_ne (by simp [hji]), TcpPeers.holding, hone,
        Function.update_of_ne hji]
      rfl
  · rw [Function.update_of_ne (by simp [hside]), TcpPeers.holding, hsame other hside]
    rfl

end Slots

namespace Connections

variable {impl : TreeImpl Nat} {c c' : Connections}

/-- The tables are in order, and the sockets are conserved. -/
structure Inv (c : Connections) : Prop where
  tables : c.peers.Inv
  conserved : c.Conserved

theorem Inv.init : Connections.init.Inv where
  tables := ⟨.init, .init⟩
  conserved := by
    have hnone : ∀ slot, Connections.init.peers.holding slot = none := by
      rintro ⟨side, i⟩
      cases side <;> exact PeerTable.holding_free rfl
    refine ⟨List.nodup_nil, fun r hr => absurd hr List.not_mem_nil, fun slot r hr => ?_,
      fun slot => ?_⟩
    · rw [hnone] at hr
      cases hr
    · rw [hnone]
      rfl

/-- A handler that leaves the slots alone and opens and closes nothing. -/
theorem Inv.idle (h : c.Inv) {ev : ConnEvent} (hpeers : c.peers.step impl (action ev) = c.peers)
    (hcalls : c.calls ev = []) : (c.next impl ev).Inv := by
  refine ⟨by simpa only [next, hpeers] using h.tables, ?_⟩
  simp only [Conserved, next, hpeers, hcalls]
  exact h.conserved.idle fun _ hr => absurd hr List.not_mem_nil

theorem Inv.fresh_ne (h : c.Inv) {fd : Int} (hfresh : c.FreshFd fd) (slot : TcpSide × Nat) :
    c.peers.holding slot ≠ some fd := fun hheld => hfresh.2 (h.conserved.live slot fd hheld)

/-! ## New connections -/

section Place

variable {ev : ConnEvent} {i : Nat} {p : TcpPeerInfo}

/-- A new socket goes into a free slot. -/
theorem Inv.placed (h : c.Inv) (side : TcpSide) (hfresh : c.FreshFd p.fd) (hcalls : c.calls ev = [.obtained p.fd])
    (hslot : freeSlot (c.peers.table side).peers = some i)
    (hone : (c.peers.step impl (action ev)).table side = (c.peers.table side).place impl i p)
    (hother : ∀ other, other ≠ side →
      (c.peers.step impl (action ev)).table other = c.peers.table other)
    (htables : (c.peers.step impl (action ev)).Inv) : (c.next impl ev).Inv := by
  obtain ⟨hi, hfree⟩ := freeSlot_some hslot
  have hfd : p.fd ≠ -1 := by
    have hpos := hfresh.1
    omega
  have hheld : (c.peers.step impl (action ev)).holding =
      Function.update c.peers.holding (side, i) (some p.fd) := by
    refine TcpPeers.holding_update hother ?_
    rw [hone]
    exact PeerTable.holding_place hi hfd
  refine ⟨htables, ?_⟩
  simp only [Conserved, next, hheld, hcalls]
  exact h.conserved.fill (PeerTable.holding_free hfree) hfresh.2

/-- A new socket that goes into no slot. -/
theorem Inv.not_stored (h : c.Inv) {fd : Int} (hfresh : c.FreshFd fd)
    (hcalls : c.calls ev = [.obtained fd]) (hpeers : c.peers.step impl (action ev) = c.peers) :
    ¬ (c.next impl ev).Conserved := by
  simp only [Conserved, next, hpeers, hcalls]
  exact h.conserved.not_dropped hfresh.2

end Place

theorem step_accept_known {fd : Int} {addr : CString} {i : Nat}
    (hfind : c.peers.server.tree.find (compareAddrTcpTree c.peers.server.peers addr) = some i) :
    c.peers.step impl (.accept (.accepted fd addr)) = c.peers := by
  simp only [TcpPeers.step, handleAcceptNewConnection, hfind]

theorem step_accept_full {fd : Int} {addr : CString}
    (hfind : c.peers.server.tree.find (compareAddrTcpTree c.peers.server.peers addr) = none)
    (hslot : freeSlot c.peers.server.peers = none) :
    c.peers.step impl (.accept (.accepted fd addr)) = c.peers := by
  simp only [TcpPeers.step, handleAcceptNewConnection, hfind, hslot]

theorem step_accept_new {fd : Int} {addr : CString} {i : Nat}
    (hfind : c.peers.server.tree.find (compareAddrTcpTree c.peers.server.peers addr) = none)
    (hslot : freeSlot c.peers.server.peers = some i) :
    c.peers.step impl (.accept (.accepted fd addr)) =
      { c.peers with
        server := c.peers.server.place impl i ⟨addr, fd, (c.peers.server.peers i).ns⟩ } := by
  simp only [TcpPeers.step, handleAcceptNewConnection, hfind, hslot]

theorem Inv.accept (h : c.Inv) {r : AcceptResult} (hen : c.Enabled (.accept r)) :
    (c.Stores (.accept r) → (c.next impl (.accept r)).Inv) ∧
      ((c.next impl (.accept r)).Conserved → c.Stores (.accept r)) := by
  cases r with
  | interrupted => exact ⟨fun _ => h.idle rfl rfl, fun _ => trivial⟩
  | failed => exact ⟨fun _ => h.idle rfl rfl, fun _ => trivial⟩
  | accepted fd addr =>
    have hfresh : c.FreshFd fd := hen.2 fd addr rfl
    have hcalls : c.calls (.accept (.accepted fd addr)) = [.obtained fd] := rfl
    constructor
    · rintro ⟨hfind, hfree⟩
      obtain ⟨i, hslot⟩ := Option.ne_none_iff_exists'.mp hfree
      have hstep : c.peers.step impl (.accept (.accepted fd addr)) = _ := step_accept_new hfind hslot
      refine h.placed .server (p := ⟨addr, fd, (c.peers.server.peers i).ns⟩) hfresh hcalls
        hslot ?_ ?_ ?_
      · exact congrArg TcpPeers.server hstep
      · intro other hother
        cases other with
        | server => exact absurd rfl hother
        | client => rfl
      · refine ⟨handleAcceptNewConnection_inv h.tables.server ?_, h.tables.client⟩
        rintro _ _ ⟨⟩
        exact hfresh.1
    · intro hcons
      cases hfind : c.peers.server.tree.find (compareAddrTcpTree c.peers.server.peers addr) with
      | some i => exact absurd hcons (h.not_stored hfresh hcalls (step_accept_known hfind))
      | none =>
        refine ⟨hfind, fun hslot => ?_⟩
        exact absurd hcons (h.not_stored hfresh hcalls (step_accept_full hfind hslot))

theorem step_addPeer_known {addr ns : CString} {conn : Option Int} {i : Nat}
    (hfind : c.peers.client.tree.find (compareAddrTcpTree c.peers.client.peers addr) = some i) :
    c.peers.step impl (.addPeer addr ns conn) = c.peers := by
  simp only [TcpPeers.step, handleTcpClientAddPeer, hfind]

theorem step_addPeer_none {addr ns : CString} :
    c.peers.step impl (.addPeer addr ns none) = c.peers := by
  simp only [TcpPeers.step, handleTcpClientAddPeer]
  split <;> rfl

theorem step_addPeer_full {addr ns : CString} {conn : Option Int}
    (hslot : freeSlot c.peers.client.peers = none) :
    c.peers.step impl (.addPeer addr ns conn) = c.peers := by
  simp only [TcpPeers.step, handleTcpClientAddPeer, hslot]
  split
  · rfl
  · split <;> rfl

theorem step_addPeer_new {addr ns : CString} {fd : Int} {i : Nat}
    (hfind : c.peers.client.tree.find (compareAddrTcpTree c.peers.client.peers addr) = none)
    (hslot : freeSlot c.peers.client.peers = some i) :
    c.peers.step impl (.addPeer addr ns (some fd)) =
      { c.peers with client := c.peers.client.place impl i ⟨addr, fd, ns⟩ } := by
  simp only [TcpPeers.step, handleTcpClientAddPeer, hfind, hslot]

/-- The socket that does not connect is closed again. -/
theorem Inv.connect_fails (h : c.Inv) {addr ns : CString} {fd : Int} (hfresh : c.FreshFd fd)
    (hfind : c.peers.client.tree.find (compareAddrTcpTree c.peers.client.peers addr) = none) :
    (c.next impl (.addPeer addr ns (some fd) false)).Inv := by
  have hpeers : c.peers.step impl (action (.addPeer addr ns (some fd) false)) = c.peers :=
    step_addPeer_none
  have hcalls : c.calls (.addPeer addr ns (some fd) false) = [.obtained fd, .closed fd] := by
    simp only [calls, addPeerCalls, hfind, Bool.false_eq_true, if_false]
  refine ⟨by simpa only [next, hpeers] using h.tables, ?_⟩
  simp only [Conserved, next, hpeers, hcalls]
  have hopened : openedAfter c.opened [.obtained fd, .closed fd] = c.opened :=
    List.erase_cons_head fd c.opened
  rw [hopened]
  refine h.conserved.idle fun r hr => ?_
  cases List.mem_singleton.mp hr
  exact hfresh.2

theorem Inv.addPeer (h : c.Inv) {addr ns : CString} {sock : Option Int} {connected : Bool}
    (hen : c.Enabled (.addPeer addr ns sock connected)) :
    (c.Stores (.addPeer addr ns sock connected) →
        (c.next impl (.addPeer addr ns sock connected)).Inv) ∧
      ((c.next impl (.addPeer addr ns sock connected)).Conserved →
        c.Stores (.addPeer addr ns sock connected)) := by
  cases hfind : c.peers.client.tree.find (compareAddrTcpTree c.peers.client.peers addr) with
  | some i =>
    refine ⟨fun _ => h.idle (step_addPeer_known hfind) ?_, fun _ hnone => ?_⟩
    · simp only [calls, addPeerCalls, hfind]
    · rw [hfind] at hnone
      cases hnone
  | none =>
    cases sock with
    | none =>
      refine ⟨fun _ => h.idle ?_ ?_, fun _ _ hsock => absurd rfl hsock⟩
      · cases connected <;> exact step_addPeer_none
      · simp only [calls, addPeerCalls, hfind]
    | some fd =>
      have hfresh : c.FreshFd fd := hen fd rfl
      cases connected with
      | false => exact ⟨fun _ => h.connect_fails hfresh hfind, fun _ _ _ hconn => by cases hconn⟩
      | true =>
        have hcalls : c.calls (.addPeer addr ns (some fd) true) = [.obtained fd] := by
          simp only [calls, addPeerCalls, hfind, if_true]
        constructor
        · intro hstores
          have hfree := hstores hfind (Option.some_ne_none fd) rfl
          obtain ⟨i, hslot⟩ := Option.ne_none_iff_exists'.mp hfree
          have hstep : c.peers.step impl (.addPeer addr ns (some fd)) = _ :=
            step_addPeer_new hfind hslot
          refine h.placed .client (p := ⟨addr, fd, ns⟩) hfresh hcalls hslot ?_ ?_ ?_
          · exact congrArg TcpPeers.client hstep
          · intro other hother
            cases other with
            | server => rfl
            | client => exact absurd rfl hother
          · refine ⟨h.tables.server, handleTcpClientAddPeer_inv h.tables.client ?_⟩
            rintro _ ⟨⟩
            exact hfresh.1
        · intro hcons _ _ _ hslot
          exact absurd hcons (h.not_stored hfresh hcalls (step_addPeer_full hslot))

/-! ## Disconnects -/

/-- The slot that is found closes what it holds. -/
theorem Inv.detached (h : c.Inv) (side : TcpSide) {ev : ConnEvent} {i : Nat} {sockfd : Int}
    (hfind : (c.peers.table side).findSockfd sockfd = some i)
    (hcalls : c.calls ev = closeCalls (c.peers.table side) sockfd)
    (hone : ((c.peers.step impl (action ev)).table side).holding =
      Function.update (c.peers.table side).holding i none)
    (hother : ∀ other, other ≠ side →
      (c.peers.step impl (action ev)).table other = c.peers.table other)
    (htable : (c.peers.table side).Inv)
    (htables : (c.peers.step impl (action ev)).Inv) : (c.next impl ev).Inv := by
  have hheld : c.peers.holding (side, i) = some ((c.peers.table side).peers i).fd :=
    PeerTable.holding_eq_some.mpr ⟨htable.findSockfd_some hfind, rfl⟩
  refine ⟨htables, ?_⟩
  simp only [Conserved, next, TcpPeers.holding_update hother hone, hcalls, closeCalls, hfind]
  exact h.conserved.release hheld

theorem Inv.rmvPeer (h : c.Inv) (sockfd : Int) : (c.next impl (.rmvPeer sockfd)).Inv := by
  cases hfind : c.peers.client.findSockfd sockfd with
  | none =>
    refine h.idle ?_ ?_
    · simp only [action, TcpPeers.step, handleTcpClientRmvPeer, hfind]
    · simp only [calls, closeCalls, hfind]
  | some i =>
    refine h.detached .client hfind rfl ?_ ?_ h.tables.client
      ⟨h.tables.server, handleTcpClientRmvPeer_inv h.tables.client sockfd⟩
    · simp only [TcpPeers.table, action, TcpPeers.step, handleTcpClientRmvPeer, hfind,
        PeerTable.holding_clearAddr, PeerTable.holding_detach]
    · intro other hother
      cases other with
      | server => rfl
      | client => exact absurd rfl hother

theorem Inv.deletePeer (h : c.Inv) (sockfd : Int) (notified : Bool) :
    (c.next impl (.deletePeer sockfd notified)).Inv := by
  cases hfind : c.peers.server.findSockfd sockfd with
  | none =>
    refine h.idle ?_ ?_
    · simp only [action, TcpPeers.step, deleteTcpPeerResource, hfind]
    · simp only [calls, closeCalls, hfind]
  | some i =>
    refine h.detached .server hfind rfl ?_ ?_ h.tables.server
      ⟨deleteTcpPeerResource_inv h.tables.server sockfd notified, h.tables.client⟩
    · simp only [TcpPeers.table, action, TcpPeers.step, deleteTcpPeerResource, hfind]
      split
      · rw [PeerTable.holding_clearAddr, PeerTable.holding_detach]
      · exact PeerTable.holding_detach
    · intro other hother
      cases other with
      | server => exact absurd rfl hother
      | client => rfl

/-- A step that stores keeps the invariant, and one that does not loses a socket. -/
theorem Inv.step (h : c.Inv) {ev : ConnEvent} (hstep : ConnStep impl c ev c') :
    (c.Stores ev → c'.Inv) ∧ (c'.Conserved → c.Stores ev) := by
  obtain ⟨hen, rfl⟩ := hstep
  cases ev with
  | accept r => exact h.accept hen
  | addPeer addr ns sock connected => exact h.addPeer hen
  | rmvPeer sockfd => exact ⟨fun _ => h.rmvPeer sockfd, fun _ => trivial⟩
  | deletePeer sockfd notified => exact ⟨fun _ => h.deletePeer sockfd notified, fun _ => trivial⟩

end Connections

/-- **The sockets are conserved along the runs that store every new connection.** -/
theorem connections_conserved_iff (impl : TreeImpl Nat) (evs : List ConnEvent) (c : Connections) :
    Run (Into (ConnStep impl) Connections.Conserved) .init evs c ↔
      Run (Guarded (ConnStep impl) Connections.Stores) .init evs c :=
  Run.into_iff_guarded (I := Connections.Inv)
    (fun c ev c' h hstores (hstep : ConnStep impl c ev c') => (h.step hstep).1 hstores)
    (fun _ h => h.conserved)
    (fun c ev c' h (hstep : ConnStep impl c ev c') hcons => (h.step hstep).2 hcons) .init

/-- One host connects twice. -/
def secondConnection : List ConnEvent :=
  [.accept (.accepted 7 ⟨[49], by decide⟩), .accept (.accepted 8 ⟨[49], by decide⟩)]

/-- **A second connection from one address is lost**: its socket is open, and no slot has it. -/
theorem second_connection_lost :
    ∃ c, Run (ConnStep (TreeImpl.plain Nat)) .init secondConnection c ∧ ¬ c.Conserved ∧
      8 ∈ c.opened ∧ ∀ slot, c.peers.holding slot ≠ some 8 := by
  have hen₁ : Connections.init.Enabled (.accept (.accepted 7 ⟨[49], by decide⟩)) := by
    refine ⟨rfl, ?_⟩
    rintro _ _ ⟨⟩
    exact ⟨by decide, List.not_mem_nil⟩
  let c₁ := Connections.init.next (TreeImpl.plain Nat) (.accept (.accepted 7 ⟨[49], by decide⟩))
  have hinv : c₁.Inv := (Connections.Inv.init.accept hen₁).1 ⟨rfl, by decide⟩
  have hfresh : c₁.FreshFd 8 := ⟨by decide, by decide⟩
  have hpeers : c₁.peers.step (TreeImpl.plain Nat) (.accept (.accepted 8 ⟨[49], by decide⟩)) =
      c₁.peers := Connections.step_accept_known (i := 0) (by decide)
  refine ⟨_, .cons ⟨hen₁, rfl⟩ (.cons ⟨⟨rfl, ?_⟩, rfl⟩ (.nil _)),
    hinv.not_stored hfresh rfl hpeers, List.mem_cons_self, fun slot => ?_⟩
  · rintro _ _ ⟨⟩
    exact hfresh
  · intro hheld
    refine hinv.fresh_ne hfresh slot ?_
    rw [← hpeers]
    exact hheld

end ItcFramework
