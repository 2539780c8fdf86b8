import ItcFramework.Gateway.Network

/-!
# What a network of gateways carries

* `GatewayNet.Routes` — every request that a client thread has dealt with went once on each of its
  connections, a message on one at most and to the host of its namespace; every connection carries
  that and nothing else, in order.
* `Tables`, `Mail`, `Logs` — the invariant: the slots of the client tables, the mailboxes of the
  client threads, the connections.
* `gateway_network_routes` — it holds in every reachable state.
-/

set_option autoImplicit false

namespace ItcFramework

open ByteImage SearchTree Transition

variable {H : Type}

/-- The namespace of the slot that is found. -/
theorem PeerTable.Inv.findNamespace_some {tbl : PeerTable} {j : Nat} (ht : tbl.Inv)
    {ns : CString} (hfind : tbl.findNamespace ns = some j) :
    tbl.Connected j ∧ (tbl.peers j).ns = ns := by
  obtain ⟨hmem, heq⟩ := SearchTree.Tree.find_some hfind
  exact ⟨(ht.mem j).mp hmem, (Std.LawfulEqCmp.eq_of_compare heq).symm⟩

theorem PeerTable.Inv.connected_of_takes {tbl : PeerTable} {j : Nat} (ht : tbl.Inv) {f : Frame}
    (htakes : tbl.Takes f j) : tbl.Connected j := by
  cases f with
  | fwd message myMbox toMbox ns => exact (ht.findNamespace_some htakes).1
  | locate itccoordMbox mboxname => exact htakes

/-- The socket of the slot that is found. -/
theorem PeerTable.Inv.findSockfd_fd {tbl : PeerTable} {j : Nat} (ht : tbl.Inv) {sockfd : Int}
    (hfind : tbl.findSockfd sockfd = some j) : tbl.Connected j ∧ (tbl.peers j).fd = sockfd := by
  have heq := (SearchTree.Tree.find_some hfind).2
  rw [compareSockfdTcpTree_eq] at heq
  exact ⟨ht.findSockfd_some hfind, (compare_eq_iff_eq.mp heq).symm⟩

/-! ## Lists -/

theorem exists_of_mem_forall₂ {α β : Type} {R : α → β → Prop} {l : List α} {l' : List β}
    (h : List.Forall₂ R l l') {a : α} (ha : a ∈ l) : ∃ b ∈ l', R a b := by
  induction h with
  | nil => exact absurd ha List.not_mem_nil
  | @cons a' b l l' hab hrest ih =>
    rcases List.mem_cons.mp ha with rfl | ha
    · exact ⟨b, List.mem_cons_self, hab⟩
    · obtain ⟨b', hb', hab'⟩ := ih ha
      exact ⟨b', List.mem_cons_of_mem b hb', hab'⟩

/-- A relation under which an element goes with one at most keeps lists without duplicates. -/
theorem nodup_of_forall₂ {α β : Type} {R : α → β → Prop}
    (hR : ∀ a b b', R a b → R a b' → b = b') {l : List α} {l' : List β}
    (h : List.Forall₂ R l l') (hl' : l'.Nodup) : l.Nodup := by
  induction h with
  | nil => exact List.nodup_nil
  | @cons a b l l' hab hrest ih =>
    rw [List.nodup_cons] at hl' ⊢
    refine ⟨fun ha => hl'.1 ?_, ih hl'.2⟩
    obtain ⟨b', hb', hab'⟩ := exists_of_mem_forall₂ hrest ha
    rw [hR a b b' hab hab']
    exact hb'

theorem eq_map_of_forall₂ {α β : Type} {g : α → β} {l : List α} {l' : List β}
    (h : List.Forall₂ (fun a b => b = g a) l l') : l' = l.map g := by
  induction h with
  | nil => rfl
  | cons hab _ ih => rw [hab, ih, List.map_cons]

theorem length_le_one {α : Type} {l : List α} (hnodup : l.Nodup)
    (hsame : ∀ a ∈ l, ∀ b ∈ l, a = b) : l.length ≤ 1 := by
  cases l with
  | nil => exact Nat.zero_le 1
  | cons a l =>
    cases l with
    | nil => exact Nat.le_refl 1
    | cons b l =>
      have heq := hsame a List.mem_cons_self b (List.mem_cons_of_mem a List.mem_cons_self)
      rw [heq, List.nodup_cons] at hnodup
      exact absurd List.mem_cons_self hnodup.1

/-! ## What is expected -/

/-- A frame may go to the host of a namespace. -/
def Frame.GoesTo : Frame → CString → Prop
  | .fwd _ _ _ ns, ns' => ns' = ns
  | .locate _ _, _ => True

def Frame.IsFwd : Frame → Prop
  | .fwd _ _ _ _ => True
  | .locate _ _ => False

/-- What a client thread may make of the answer of `k`: a message to its coordinator with the
mailbox that was found and the namespace of `k`, or none when its tree does not give the socket. -/
def AnswerOf (N : GatewayHosts H) (k : H) (x : CString × MboxId) (event : ClientEvent) : Prop :=
  event = .peerNotFound ∨ ∃ msg, event = .sendReply msg ∧
    locateMboxFromItcgwsReply N.endian N.malloc x.2 (N.host k).ns.name = .ok msg

/-- The message is what its topic says. -/
def ClientLetter.Ok (N : GatewayHosts H) (l : ClientLetter) : Prop :=
  match l.topic with
  | some f => f.Admissible N.malloc ∧ f.request N.endian N.malloc = .ok l.msg
  | none => OtherClientMessage N.endian l.msg ∨ ∃ k, udpAddPeerMsg N.endian N.malloc true
      (N.host k).addr (N.host k).ns.name = .ok l.msg

namespace GatewayNet

structure Routes (N : GatewayHosts H) (s : GatewayNet H) : Prop where
  /-- The client thread deals with the requests in their order, and with none twice. -/
  asked : ∀ h, ((s.routed h).map Prod.fst ++ s.waiting h).Sublist (s.asked h)
  /-- A frame goes on connections of the host, once on each, to hosts that it may go to. -/
  once : ∀ h, ∀ r ∈ s.routed h, r.2.Nodup ∧
    ∀ i ∈ r.2, ∃ k, s.Joins i h k ∧ r.1.GoesTo (N.host k).ns.name
  oneWay : ∀ h, ∀ r ∈ s.routed h, r.1.IsFwd → r.2.length ≤ 1
  /-- A connection carries what has been routed on it. -/
  sent : ∀ i c, s.conns i = some c →
    c.out.sent = ((s.routed c.client).filter fun r => i ∈ r.2).map Prod.fst
  /-- The server has made of a first part of it what it was meant to. -/
  got : ∀ i c, s.conns i = some c → c.out.got <+: c.out.sent.map Frame.event
  /-- The server has answered requests that it has got. -/
  answers : ∀ i c, s.conns i = some c → ∀ x ∈ c.back.sent, ServerEvent.locateSync x.1 ∈ c.out.got
  /-- The client has heard a first part of the answers. -/
  heard : ∀ i c, s.conns i = some c → ∃ told rest, c.back.sent = told ++ rest ∧
    List.Forall₂ (AnswerOf N c.server) told c.back.got

/-! ## The invariant -/

/-- The ends of a connection, as far as a client table knows them. -/
def ends (s : GatewayNet H) (i : Nat) : Option (H × H × Option Int) :=
  (s.conns i).map fun c => (c.client, c.server, c.clientFd)

/-- Every slot in use has a connection to the peer that it names; sockets are distinct. -/
structure Tables (N : GatewayHosts H) (s : GatewayNet H) : Prop where
  table : ∀ h, (s.node h).client.Inv
  slots : ∀ h j, (s.node h).client.Connected j → ∃ i k,
    s.ends i = some (h, k, some ((s.node h).client.peers j).fd) ∧
      ((s.node h).client.peers j).addr = (N.host k).addr ∧
      ((s.node h).client.peers j).ns = (N.host k).ns.name
  fds : ∀ i i' h k k' fd, s.ends i = some (h, k, some fd) → s.ends i' = some (h, k', some fd) →
    i = i'

structure Mail (N : GatewayHosts H) (s : GatewayNet H) : Prop where
  letters : ∀ h, ∀ l ∈ (s.node h).clientMbox, l.Ok N
  asked : ∀ h, ((s.routed h).map Prod.fst ++ s.waiting h).Sublist (s.asked h)
  admissible : ∀ h, ∀ f ∈ s.asked h, f.Admissible N.malloc

/-- A connection whose client has routed these frames. -/
structure ConnOk (N : GatewayHosts H) (routed : List (Frame × List Nat)) (i : Nat)
    (c : GatewayConn H) : Prop where
  sent : c.out.sent = routed.flatMap fun r => List.replicate (r.2.count i) r.1
  out : c.out.Carries (Frame.bytes N.endian (N.host c.client).pid) fun f event => event = f.event
  back : c.back.Carries (fun x => locateReplyPacket N.endian (N.host c.server).pid x.2)
    (AnswerOf N c.server)
  answers : ∀ x ∈ c.back.sent, ServerEvent.locateSync x.1 ∈ c.out.got

structure Logs (N : GatewayHosts H) (s : GatewayNet H) : Prop where
  once : ∀ h, ∀ r ∈ s.routed h, r.2.Nodup ∧
    ∀ i ∈ r.2, ∃ k, s.Joins i h k ∧ r.1.GoesTo (N.host k).ns.name
  oneWay : ∀ h, ∀ r ∈ s.routed h, r.1.IsFwd → r.2.length ≤ 1
  conn : ∀ i c, s.conns i = some c → ConnOk N (s.routed c.client) i c

structure Inv (N : GatewayHosts H) (s : GatewayNet H) : Prop where
  tables : s.Tables N
  mail : s.Mail N
  logs : s.Logs N

variable {N : GatewayHosts H} {s s' : GatewayNet H} {h k : H} {i j : Nat} {c : GatewayConn H}

theorem Inv.init : (init : GatewayNet H).Inv N where
  tables :=
    { table := fun _ => PeerTable.Inv.init
      slots := fun _ _ hj => absurd rfl hj.2
      fds := fun i i' h k k' fd hi => by cases hi }
  mail :=
    { letters := fun _ _ hl => absurd hl List.not_mem_nil
      asked := fun _ => List.Sublist.refl _
      admissible := fun _ _ hf => absurd hf List.not_mem_nil }
  logs :=
    { once := fun _ _ hr => absurd hr List.not_mem_nil
      oneWay := fun _ _ hr => absurd hr List.not_mem_nil
      conn := fun i c hc => by cases hc }

/-! ## What the invariant gives -/

theorem ends_eq_some {x : H × H × Option Int} : s.ends i = some x ↔
    ∃ c, s.conns i = some c ∧ (c.client, c.server, c.clientFd) = x := by
  rw [ends, Option.map_eq_some_iff]

theorem HasClientFd.ends {fd : Int} (hfd : s.HasClientFd h i fd) :
    ∃ k, s.Joins i h k ∧ s.ends i = some (h, k, some fd) := by
  obtain ⟨c, hc, rfl, hfd⟩ := hfd
  refine ⟨c.server, ⟨c, hc, rfl, rfl⟩, ends_eq_some.mpr ⟨c, hc, ?_⟩⟩
  rw [hfd]

theorem Tables.slot_unique (ht : s.Tables N) {j' : Nat} (hj : (s.node h).client.Connected j)
    (hj' : (s.node h).client.Connected j')
    (hfd : ((s.node h).client.peers j).fd = ((s.node h).client.peers j').fd) : j = j' := by
  obtain ⟨i, k, hi, haddr, -⟩ := ht.slots h j hj
  obtain ⟨i', k', hi', haddr', -⟩ := ht.slots h j' hj'
  rw [hfd] at hi
  have hsame := ht.fds i i' h k k' _ hi hi'
  rw [hsame, hi'] at hi
  cases hi
  have hinv := ht.table h
  have hfind := (find_byKey hinv.ordered).mpr ⟨(hinv.mem j).mpr hj, rfl⟩
  have hfind' := (find_byKey hinv.ordered).mpr ⟨(hinv.mem j').mpr hj', rfl⟩
  rw [haddr] at hfind
  rw [haddr', hfind] at hfind'
  exact Option.some.inj hfind'

/-- The connection of a slot. -/
theorem Tables.joins (ht : s.Tables N) (hj : (s.node h).client.Connected j)
    (hfd : s.HasClientFd h i ((s.node h).client.peers j).fd) :
    ∃ k, s.Joins i h k ∧ ((s.node h).client.peers j).ns = (N.host k).ns.name := by
  obtain ⟨i', k', hi', -, hns⟩ := ht.slots h j hj
  obtain ⟨k, hjoins, hi⟩ := hfd.ends
  have hsame := ht.fds i i' h k k' _ hi hi'
  rw [← hsame, hi] at hi'
  simp only [Option.some.injEq, Prod.mk.injEq, true_and, and_true] at hi'
  exact ⟨k, hjoins, hi' ▸ hns⟩

/-- The sockets of one turn belong to different connections. -/
theorem Tables.sockets_nodup (ht : s.Tables N) {slots is : List Nat} (hnodup : slots.Nodup)
    (hslots : ∀ j ∈ slots, (s.node h).client.Connected j)
    (his : List.Forall₂ (s.HasClientFd h) is
      (slots.map fun j => ((s.node h).client.peers j).fd)) : is.Nodup := by
  have hsockets : (slots.map fun j => ((s.node h).client.peers j).fd).Nodup :=
    hnodup.map_on fun j hj j' hj' hfd => ht.slot_unique (hslots j hj) (hslots j' hj') hfd
  refine nodup_of_forall₂ (fun i fd fd' hfd hfd' => ?_) his hsockets
  obtain ⟨c, hc, -, hfd⟩ := hfd
  obtain ⟨c', hc', -, hfd'⟩ := hfd'
  rw [hc] at hc'
  cases hc'
  exact Option.some.inj (hfd.symm.trans hfd')

/-! ## The turns of a client thread -/

section Turns

variable {l : ClientLetter} {sys : ClientSys} {tbl : PeerTable} {itccoordMboxId : MboxId}
  {turn : ClientTurn}

/-- A message that announces the host `k`. -/
theorem addPeer_turn (hl : udpAddPeerMsg N.endian N.malloc true (N.host k).addr
      (N.host k).ns.name = .ok l.msg)
    (hcall : handleReceiveItcmsgAtClient N.endian N.malloc (N.host h).pid N.tree sys tbl
      itccoordMboxId l.msg = .ok turn) :
    turn.client = (handleTcpClientAddPeer N.tree tbl (N.host k).addr (N.host k).ns.name
        sys.connect).2 ∧ turn.sockets = [] ∧
      turn.connected = match tbl.tree.find (compareAddrTcpTree tbl.peers (N.host k).addr) with
        | some _ => none
        | none => sys.connect.map fun fd =>
            (⟨(N.host k).tcpIp, ITC_GATEWAY_TCP_LISTENING_PORT⟩, fd) := by
  have hturn := clientTurn_addPeer (N.host h).pid N.tree sys tbl itccoordMboxId (N.host k).ns.lt
    (N.addrFits k) hl
  rw [hturn] at hcall
  cases hcall
  exact ⟨rfl, rfl, rfl⟩

/-- Only a message that is a request is sent on. -/
theorem sockets_of_none (hl : l.Ok N) (htopic : l.topic = none)
    (hcall : handleReceiveItcmsgAtClient N.endian N.malloc (N.host h).pid N.tree sys tbl
      itccoordMboxId l.msg = .ok turn) : turn.sockets = [] := by
  rw [ClientLetter.Ok, htopic] at hl
  rcases hl with hother | ⟨k, hadd⟩
  · rw [clientTurn_other hother hcall]
  · exact (addPeer_turn hadd hcall).2.1

/-- A turn that does not connect leaves the table alone. -/
theorem client_of_not_connected (hl : l.Ok N)
    (hcall : handleReceiveItcmsgAtClient N.endian N.malloc (N.host h).pid N.tree sys tbl
      itccoordMboxId l.msg = .ok turn) (hconn : turn.connected = none) : turn.client = tbl := by
  cases htopic : l.topic with
  | some f =>
    rw [ClientLetter.Ok, htopic] at hl
    exact (clientTurn_frame hl.1 hl.2 hcall).1
  | none =>
    rw [ClientLetter.Ok, htopic] at hl
    rcases hl with hother | ⟨k, hadd⟩
    · rw [clientTurn_other hother hcall]
    · obtain ⟨hclient, -, hconnected⟩ := addPeer_turn hadd hcall
      rw [hclient]
      cases hfind : tbl.tree.find (compareAddrTcpTree tbl.peers (N.host k).addr) with
      | some _ => simp only [handleTcpClientAddPeer, hfind]
      | none =>
        rw [hfind, hconn] at hconnected
        simp only [handleTcpClientAddPeer, hfind, Option.map_eq_none_iff.mp hconnected.symm]

/-- **A turn that connects** was for a host that no slot has the address of, and puts it in a free
slot. -/
theorem client_of_connected (hl : l.Ok N)
    (hcall : handleReceiveItcmsgAtClient N.endian N.malloc (N.host h).pid N.tree sys tbl
      itccoordMboxId l.msg = .ok turn) {endpoint : TcpEndpoint} {fd : Int}
    (hconn : turn.connected = some (endpoint, fd)) :
    l.topic = none ∧ ∃ k, endpoint = ⟨(N.host k).tcpIp, ITC_GATEWAY_TCP_LISTENING_PORT⟩ ∧
      tbl.tree.find (compareAddrTcpTree tbl.peers (N.host k).addr) = none ∧
      (turn.client = tbl ∨ ∃ j, freeSlot tbl.peers = some j ∧
        turn.client = tbl.place N.tree j ⟨(N.host k).addr, fd, (N.host k).ns.name⟩) := by
  cases htopic : l.topic with
  | some f =>
    rw [ClientLetter.Ok, htopic] at hl
    rw [(clientTurn_frame hl.1 hl.2 hcall).2.1] at hconn
    cases hconn
  | none =>
    refine ⟨rfl, ?_⟩
    rw [ClientLetter.Ok, htopic] at hl
    rcases hl with hother | ⟨k, hadd⟩
    · rw [clientTurn_other hother hcall] at hconn
      cases hconn
    · obtain ⟨hclient, -, hconnected⟩ := addPeer_turn hadd hcall
      cases hfind : tbl.tree.find (compareAddrTcpTree tbl.peers (N.host k).addr) with
      | some _ =>
        rw [hfind, hconn] at hconnected
        cases hconnected
      | none =>
        rw [hfind, hconn] at hconnected
        obtain ⟨fd', hsys, heq⟩ := Option.map_eq_some_iff.mp hconnected.symm
        cases heq
        refine ⟨k, rfl, hfind, ?_⟩
        cases hfree : freeSlot tbl.peers with
        | none => exact .inl (by simp only [hclient, handleTcpClientAddPeer, hfind, hsys, hfree])
        | some j =>
          refine .inr ⟨j, rfl, ?_⟩
          simp only [hclient, handleTcpClientAddPeer, hfind, hsys, hfree]

end Turns

/-! ## The parts of the invariant, change by change -/

theorem Tables.keep (ht : s.Tables N) (hclient : ∀ h, (s'.node h).client = (s.node h).client)
    (hends : s'.ends = s.ends) : s'.Tables N where
  table h := hclient h ▸ ht.table h
  slots h j hj := by
    rw [hclient] at hj ⊢
    rw [hends]
    exact ht.slots h j hj
  fds := by
    rw [hends]
    exact ht.fds

theorem Mail.keep (hm : s.Mail N)
    (hmbox : ∀ h, (s'.node h).clientMbox.Sublist (s.node h).clientMbox)
    (hasked : s'.asked = s.asked) (hrouted : s'.routed = s.routed) : s'.Mail N where
  letters h l hl := hm.letters h l ((hmbox h).subset hl)
  asked h := by
    rw [hasked, hrouted]
    exact (List.Sublist.append (List.Sublist.refl _) ((hmbox h).filterMap _)).trans (hm.asked h)
  admissible := by
    rw [hasked]
    exact hm.admissible

theorem Logs.keep (hl : s.Logs N) (hrouted : s'.routed = s.routed)
    (hjoins : ∀ i h k, s.Joins i h k → s'.Joins i h k)
    (hconn : ∀ i c, s'.conns i = some c → ConnOk N (s.routed c.client) i c) : s'.Logs N where
  once h r hr := by
    rw [hrouted] at hr
    obtain ⟨hnodup, hgoes⟩ := hl.once h r hr
    refine ⟨hnodup, fun i hi => ?_⟩
    obtain ⟨k, hk, hto⟩ := hgoes i hi
    exact ⟨k, hjoins i h k hk, hto⟩
  oneWay := by
    rw [hrouted]
    exact hl.oneWay
  conn i c hc := by
    rw [hrouted]
    exact hconn i c hc

/-- The frames of a connection were asked for, so they are admissible. -/
theorem Inv.admissible (hs : s.Inv N) (hc : s.conns i = some c) {f : Frame}
    (hf : f ∈ c.out.sent) : f.Admissible N.malloc := by
  rw [(hs.logs.conn i c hc).sent, List.mem_flatMap] at hf
  obtain ⟨r, hr, hf⟩ := hf
  rw [List.eq_of_mem_replicate hf]
  refine hs.mail.admissible c.client r.1 ((hs.mail.asked c.client).subset ?_)
  exact List.mem_append_left _ (List.mem_map_of_mem hr)

theorem Joins.setConn {c' : GatewayConn H} (hc : s.conns i = some c)
    (hclient : c'.client = c.client) (hserver : c'.server = c.server) {i' : Nat}
    (hj : s.Joins i' h k) : (s.setConn i c').Joins i' h k := by
  obtain ⟨c₀, hc₀, rfl, rfl⟩ := hj
  by_cases heq : i' = i
  · rw [heq, hc] at hc₀
    cases hc₀
    exact ⟨c', if_pos heq, hclient, hserver⟩
  · exact ⟨c₀, (if_neg heq).trans hc₀, rfl, rfl⟩

theorem ends_setConn {c' : GatewayConn H} (i' : Nat) : (s.setConn i c').ends i' =
    if i' = i then some (c'.client, c'.server, c'.clientFd) else s.ends i' := by
  rw [ends, setConn_conns]
  split
  · rfl
  · rfl

theorem Joins.connect {fd : Int} {h₀ k₀ h₁ k₁ : H} {i' : Nat} (hnew : s.conns i = none)
    (hj : s.Joins i' h₁ k₁) : (s.setConn i (.fresh h₀ k₀ fd)).Joins i' h₁ k₁ := by
  obtain ⟨c, hc, hends⟩ := hj
  refine ⟨c, (if_neg ?_).trans hc, hends⟩
  rintro rfl
  rw [hnew] at hc
  cases hc

/-- Nothing has been routed on a new connection. -/
theorem Logs.connect (hl : s.Logs N) (hnew : s.conns i = none) {fd : Int} :
    (s.setConn i (.fresh h k fd)).Logs N := by
  refine hl.keep rfl (fun i' h' k' hj => hj.connect hnew) fun i' c hc => ?_
  rw [setConn_conns] at hc
  split at hc
  · rename_i heq
    cases hc
    refine ⟨?_, .empty, .empty, fun x hx => absurd hx List.not_mem_nil⟩
    refine (List.flatMap_eq_nil_iff.mpr fun r hr => ?_).symm
    rw [List.count_eq_zero_of_not_mem, List.replicate_zero]
    intro hi
    obtain ⟨k', ⟨c, hc, -⟩, -⟩ := (hl.once h r hr).2 i' hi
    rw [heq, hnew] at hc
    cases hc
  · exact hl.conn i' c hc

theorem Logs.setConn (hl : s.Logs N) {c' : GatewayConn H} (hc : s.conns i = some c)
    (hclient : c'.client = c.client) (hserver : c'.server = c.server)
    (hok : ConnOk N (s.routed c'.client) i c') : (s.setConn i c').Logs N := by
  refine hl.keep rfl (fun i' h k hj => hj.setConn hc hclient hserver) fun i' c₀ hc₀ => ?_
  rw [setConn_conns] at hc₀
  split at hc₀
  · rename_i heq
    cases hc₀
    rw [heq]
    exact hok
  · exact hl.conn i' c₀ hc₀

/-- A connection changes otherwise than at the client's end. -/
theorem Inv.setConn (hs : s.Inv N) {c' : GatewayConn H} (hc : s.conns i = some c)
    (hclient : c'.client = c.client) (hserver : c'.server = c.server)
    (hfd : c'.clientFd = c.clientFd) (hok : ConnOk N (s.routed c'.client) i c') :
    (s.setConn i c').Inv N where
  tables := hs.tables.keep (fun _ => rfl) (funext fun i' => by
    rw [ends_setConn]
    split
    · rename_i heq
      rw [heq, hclient, hserver, hfd]
      exact (ends_eq_some.mpr ⟨c, hc, rfl⟩).symm
    · rfl)
  mail := hs.mail.keep (fun _ => List.Sublist.refl _) rfl rfl
  logs := hs.logs.setConn hc hclient hserver hok

/-! ## The connections -/

/-- An answer is written, or not. -/
theorem answered_cases (e : Endian) (pid : UInt32) (event : ServerEvent) (mboxId : MboxId)
    (sent : Bool) (back : Pipe UInt8 (CString × MboxId) ClientEvent) :
    answered e pid event mboxId sent back = back ∨ ∃ name, event = .locateSync name ∧
      answered e pid event mboxId sent back =
        back.write (locateReplyPacket e pid mboxId) (some (name, mboxId)) := by
  unfold answered
  split
  · rename_i name
    split
    · exact .inl rfl
    · exact .inr ⟨name, rfl, rfl⟩
  · exact .inl rfl

/-- **The server reads a packet** as the frame that was written, and may answer it. -/
theorem ConnOk.take {routed : List (Frame × List Nat)} (hok : ConnOk N routed i c)
    (hadm : ∀ f ∈ c.out.sent, f.Admissible N.malloc) {sock sock' : ByteStream}
    {event : ServerEvent} (hpending : c.out.pending ≠ []) (hsock : sock.bytes = c.out.pending)
    (hcall : handleReceiveTcpPacketAtServer N.endian N.malloc sock = .ok (event, sock'))
    (mboxId : MboxId) (sent : Bool) :
    ConnOk N routed i { c with
      out := c.out.read sock'.bytes event
      back := answered N.endian (N.host c.server).pid event mboxId sent c.back } := by
  obtain ⟨f, rest, hf, hnext, hread⟩ := hok.out.next hpending
  rw [hnext] at hsock
  obtain ⟨sock₁, hframe, hrest⟩ := handleReceiveTcpPacketAtServer_frame N.endian N.malloc
    (N.host c.client).pid (hadm f hf) hsock
  rw [hcall] at hframe
  cases hframe
  rw [hrest]
  have hold : ∀ x ∈ c.back.sent, ServerEvent.locateSync x.1 ∈ c.out.got ++ [f.event] :=
    fun x hx => List.mem_append_left _ (hok.answers x hx)
  rcases answered_cases N.endian (N.host c.server).pid f.event mboxId sent c.back with
    hback | ⟨name, hname, hback⟩
  · rw [hback]
    exact ⟨hok.sent, hread _ rfl, hok.back, hold⟩
  · rw [hback]
    refine ⟨hok.sent, hread _ rfl, hok.back.write (name, mboxId), fun x hx => ?_⟩
    rw [Pipe.write_sent, List.mem_append] at hx
    rcases hx with hx | hx
    · exact hold x hx
    · rw [List.mem_singleton.mp hx, ← hname]
      exact List.mem_append_right _ (List.mem_singleton_self _)

/-- **The client hears an answer**, and knows its peer or does not find it. -/
theorem ConnOk.hear {routed : List (Frame × List Nat)} (hok : ConnOk N routed i c)
    {peer : Option CString} (hpeer : ∀ ns, peer = some ns → ns = (N.host c.server).ns.name)
    {sock sock' : ByteStream} {event : ClientEvent} (hpending : c.back.pending ≠ [])
    (hsock : sock.bytes = c.back.pending)
    (hcall : handleReceiveTcpPacketAtClient N.endian N.malloc peer sock = .ok (event, sock')) :
    ConnOk N routed i { c with back := c.back.read sock'.bytes event } := by
  obtain ⟨x, rest, -, hnext, hread⟩ := hok.back.next hpending
  rw [hnext] at hsock
  obtain ⟨hrest, hevent⟩ := handleReceiveTcpPacketAtClient_reply hsock hcall
  rw [hrest]
  refine ⟨hok.sent, hok.out, hread event ?_, hok.answers⟩
  cases peer with
  | none => exact .inl hevent
  | some ns =>
    obtain ⟨msg, hmsg, hreply⟩ := hevent
    exact .inr ⟨msg, hmsg, hpeer ns rfl ▸ hreply⟩

section Changes

variable [DecidableEq H] {n : GatewayNode}

theorem setNode_client (hclient : n.client = (s.node h).client) (h' : H) :
    ((s.setNode h n).node h').client = (s.node h').client := by
  rw [setNode_node]
  split
  · rename_i heq
    rw [hclient, heq]
  · rfl

theorem Logs.setNode (hl : s.Logs N) : (s.setNode h n).Logs N :=
  hl.keep rfl (fun _ _ _ hj => hj) hl.conn

/-- One more message, which is what its topic says. -/
theorem Mail.letters_append (hm : s.Mail N) {l : ClientLetter}
    (hmbox : n.clientMbox = (s.node h).clientMbox ++ [l]) (hok : l.Ok N) (h' : H) :
    ∀ l' ∈ ((s.setNode h n).node h').clientMbox, l'.Ok N := by
  intro l' hl'
  rw [setNode_node] at hl'
  split at hl'
  · rw [hmbox, List.mem_append, List.mem_singleton] at hl'
    rcases hl' with hl' | rfl
    · exact hm.letters h l' hl'
    · exact hok
  · exact hm.letters h' l' hl'

/-- A step that leaves the client's table and the connections alone. -/
theorem Inv.setNode (hs : s.Inv N) (hclient : n.client = (s.node h).client)
    (hmbox : n.clientMbox.Sublist (s.node h).clientMbox) : (s.setNode h n).Inv N where
  tables := hs.tables.keep (setNode_client hclient) rfl
  mail := hs.mail.keep (fun h' => by
    rw [setNode_node]
    split
    · rename_i heq
      rw [heq]
      exact hmbox
    · exact List.Sublist.refl _) rfl rfl
  logs := hs.logs.setNode

/-- A message that is no request comes to the client thread. -/
theorem Inv.post (hs : s.Inv N) {msg : ItcMessage} (hclient : n.client = (s.node h).client)
    (hmbox : n.clientMbox = (s.node h).clientMbox ++ [⟨msg, none⟩])
    (hok : (ClientLetter.mk msg none).Ok N) : (s.setNode h n).Inv N where
  tables := hs.tables.keep (setNode_client hclient) rfl
  mail :=
    { letters := hs.mail.letters_append hmbox hok
      asked := by
        intro h'
        have hkept : (s.setNode h n).waiting h' = s.waiting h' := by
          rw [waiting, setNode_node]
          split
          · rename_i heq
            rw [hmbox, List.filterMap_append, heq, waiting]
            exact List.append_nil _
          · rfl
        rw [hkept]
        exact hs.mail.asked h'
      admissible := hs.mail.admissible }
  logs := hs.logs.setNode

/-- A request for a frame comes to the client thread. -/
theorem Inv.ask (hs : s.Inv N) {f : Frame} {msg : ItcMessage} (hf : f.Admissible N.malloc)
    (hmsg : f.request N.endian N.malloc = .ok msg) :
    ((s.setNode h { s.node h with
      clientMbox := (s.node h).clientMbox ++ [⟨msg, some f⟩] }).ask h f).Inv N where
  tables := hs.tables.keep (setNode_client rfl) rfl
  mail :=
    { letters := hs.mail.letters_append rfl ⟨hf, hmsg⟩
      asked := by
        intro h'
        have hold := hs.mail.asked h'
        by_cases heq : h' = h
        · subst heq
          simp only [waiting, ask_node, ask_asked, ask_routed, setNode_node, setNode_asked,
            setNode_routed, if_true, List.filterMap_append]
          rw [← List.append_assoc]
          exact hold.append (List.Sublist.refl _)
        · simp only [waiting, ask_node, ask_asked, ask_routed, setNode_node, setNode_asked,
            setNode_routed, heq, if_false]
          exact hold
      admissible := by
        intro h' g hg
        rw [ask_asked] at hg
        split at hg
        · rw [List.mem_append, List.mem_singleton] at hg
          rcases hg with hg | rfl
          · exact hs.mail.admissible h' g hg
          · exact hf
        · exact hs.mail.admissible h' g hg }
  logs := hs.logs.keep rfl (fun _ _ _ hj => hj) hs.logs.conn

/-- **A client thread closes a connection**: its slot goes with it. -/
theorem Tables.detach (ht : s.Tables N) (hc : s.conns i = some c) (hclient : c.client = h)
    {fd : Int} (hfd : c.clientFd = some fd)
    (hfind : (s.node h).client.findSockfd fd = some j) :
    ((s.setNode h { s.node h with
      client := (handleTcpClientRmvPeer N.tree (s.node h).client fd).2 }).setConn i
        { c with clientFd := none }).Tables N := by
  obtain ⟨hj, hjfd⟩ := (ht.table h).findSockfd_fd hfind
  obtain ⟨hinv, hconn⟩ : ((((s.node h).client.detach N.tree j).clearAddr j).Inv ∧ _) :=
    (ht.table h).detach_clearAddr hj
  have hrmv : (handleTcpClientRmvPeer N.tree (s.node h).client fd).2 =
      ((s.node h).client.detach N.tree j).clearAddr j := by
    simp only [handleTcpClientRmvPeer, hfind]
  have hmine : s.ends i = some (h, c.server, some fd) :=
    ends_eq_some.mpr ⟨c, hc, by rw [hclient, hfd]⟩
  rw [hrmv]
  have hother : ∀ {h' k' : H} {i' j' : Nat}, (s.node h').client.Connected j' →
      s.ends i' = some (h', k', some ((s.node h').client.peers j').fd) →
      (h' = h → j' ≠ j) → i' ≠ i := by
    rintro h' k' i' j' hj' hends hne rfl
    rw [hmine] at hends
    simp only [Option.some.injEq, Prod.mk.injEq] at hends
    obtain ⟨rfl, -, hsame⟩ := hends
    exact hne rfl (ht.slot_unique hj' hj (hsame.symm.trans hjfd.symm))
  refine ⟨fun h' => ?_, fun h' j' hj' => ?_, ?_⟩
  · rw [setConn_node, setNode_node]
    split
    · exact hinv
    · exact ht.table h'
  · rw [setConn_node, setNode_node] at hj' ⊢
    split at hj'
    · rename_i heq
      rw [if_pos heq]
      obtain ⟨hne, hj'⟩ := (hconn j').mp hj'
      obtain ⟨i', k', hends, haddr, hns⟩ := ht.slots h j' hj'
      simp only [PeerTable.detach_clearAddr_ne hne]
      refine ⟨i', k', ?_, haddr, hns⟩
      rw [ends_setConn, if_neg (hother hj' hends fun _ => hne), heq]
      exact hends
    · rename_i heq
      rw [if_neg heq]
      obtain ⟨i', k', hends, haddr, hns⟩ := ht.slots h' j' hj'
      refine ⟨i', k', ?_, haddr, hns⟩
      rw [ends_setConn, if_neg (hother hj' hends fun hsame => absurd hsame heq)]
      exact hends
  · intro i₁ i₂ h' k₁ k₂ fd' h₁ h₂
    rw [ends_setConn] at h₁ h₂
    split at h₁
    · cases h₁
    · split at h₂
      · cases h₂
      · exact ht.fds i₁ i₂ h' k₁ k₂ fd' h₁ h₂

theorem ends_exit {i' : Nat} {h' k' : H} {fd : Int} :
    (s.exit h).ends i' = some (h', k', some fd) ↔
      h' ≠ h ∧ s.ends i' = some (h', k', some fd) := by
  simp only [ends_eq_some, exit_conns, Option.map_eq_some_iff]
  constructor
  · rintro ⟨_, ⟨c, hc, rfl⟩, heq⟩
    simp only [GatewayConn.closedBy, Prod.mk.injEq] at heq
    obtain ⟨hclient, hserver, hfd⟩ := heq
    split at hfd
    · cases hfd
    · rename_i hne
      exact ⟨fun hsame => hne (hclient.trans hsame), c, hc, by rw [hclient, hserver, hfd]⟩
  · rintro ⟨hne, c, hc, heq⟩
    simp only [Prod.mk.injEq] at heq
    obtain ⟨hclient, hserver, hfd⟩ := heq
    refine ⟨_, ⟨c, hc, rfl⟩, ?_⟩
    simp only [GatewayConn.closedBy, hclient, hserver, hfd, if_neg hne]

/-- **A process exits**: its ends are closed and its mailboxes lost. -/
theorem Inv.exit (hs : s.Inv N) : (s.exit h).Inv N where
  tables :=
    { table := by
        intro h'
        rw [exit_node]
        split
        · exact PeerTable.Inv.init
        · exact hs.tables.table h'
      slots := by
        intro h' j hj
        rw [exit_node] at hj ⊢
        split at hj
        · exact absurd rfl hj.2
        · rename_i hne
          rw [if_neg hne]
          obtain ⟨i, k, hends, hrest⟩ := hs.tables.slots h' j hj
          exact ⟨i, k, ends_exit.mpr ⟨hne, hends⟩, hrest⟩
      fds := by
        intro i i' h' k k' fd hi hi'
        exact hs.tables.fds i i' h' k k' fd (ends_exit.mp hi).2 (ends_exit.mp hi').2 }
  mail := hs.mail.keep (fun h' => by
    rw [exit_node]
    split
    · exact List.nil_sublist _
    · exact List.Sublist.refl _) rfl rfl
  logs := hs.logs.keep rfl (fun i h' k hj => by
      obtain ⟨c, hc, hclient, hserver⟩ := hj
      exact ⟨c.closedBy h, by rw [exit_conns, hc, Option.map_some], hclient, hserver⟩)
    (fun i c hc => by
      rw [exit_conns, Option.map_eq_some_iff] at hc
      obtain ⟨c, hc, rfl⟩ := hc
      have hok := hs.logs.conn i c hc
      exact ⟨hok.sent, hok.out, hok.back, hok.answers⟩)

/-! ### A turn of a client thread -/

section AfterTurn

variable {l : ClientLetter} {rest : List ClientLetter} {turn : ClientTurn} {is : List Nat}

theorem afterTurn_conns {topic : Option Frame} : (s.afterTurn h rest topic turn is).conns i =
    (s.conns i).map fun c => { c with out := c.out.writes turn.packet topic (is.count i) } := rfl

theorem ends_afterTurn {topic : Option Frame} :
    (s.afterTurn h rest topic turn is).ends = s.ends := by
  funext i
  rw [ends, ends, afterTurn_conns, Option.map_map]
  rfl

theorem Joins.afterTurn {topic : Option Frame} {h₁ k₁ : H} (hj : s.Joins i h₁ k₁) :
    (s.afterTurn h rest topic turn is).Joins i h₁ k₁ := by
  obtain ⟨c, hc, hclient, hserver⟩ := hj
  exact ⟨{ c with out := c.out.writes turn.packet topic (is.count i) },
    by rw [afterTurn_conns, hc, Option.map_some], hclient, hserver⟩

/-- The message leaves the mailbox, and its frame is dealt with. -/
theorem Mail.afterTurn (hm : s.Mail N) (hmbox : (s.node h).clientMbox = l :: rest) :
    (s.afterTurn h rest l.topic turn is).Mail N where
  letters := by
    intro h' l' hl'
    simp only [GatewayNet.afterTurn, route_node, sendOn_node, setNode_node] at hl'
    split at hl'
    · exact hm.letters h l' (hmbox ▸ List.mem_cons_of_mem l hl')
    · exact hm.letters h' l' hl'
  asked := by
    intro h'
    have hold := hm.asked h'
    by_cases heq : h' = h
    · subst heq
      have hmoved : ((s.afterTurn h' rest l.topic turn is).routed h').map Prod.fst ++
          (s.afterTurn h' rest l.topic turn is).waiting h' =
            (s.routed h').map Prod.fst ++ s.waiting h' := by
        simp only [waiting, GatewayNet.afterTurn, route_node, route_routed, sendOn_node,
          sendOn_routed, setNode_node, setNode_routed, if_true, hmbox, List.map_append,
          List.append_assoc]
        cases htopic : l.topic with
        | none => rw [List.filterMap_cons_none htopic, Option.toList_none, List.map_nil,
            List.map_nil, List.nil_append]
        | some f => rw [List.filterMap_cons_some htopic]; rfl
      rw [hmoved]
      exact hold
    · simp only [waiting, GatewayNet.afterTurn, route_node, route_routed, route_asked, sendOn_node,
        sendOn_routed, sendOn_asked, setNode_node, setNode_routed, setNode_asked, heq, if_false]
      exact hold
  admissible := hm.admissible

/-- A turn that sends nothing. -/
theorem Logs.afterTurn_none (hl : s.Logs N) : (s.afterTurn h rest none turn []).Logs N := by
  refine hl.keep ?_ (fun i h' k hj => hj.afterTurn) fun i c hc => ?_
  · funext h'
    simp only [GatewayNet.afterTurn, route_routed, sendOn_routed, setNode_routed,
      Option.toList_none, List.map_nil, List.append_nil, ite_self]
  · rw [afterTurn_conns, Option.map_eq_some_iff] at hc
    obtain ⟨c, hc, rfl⟩ := hc
    have hok := hl.conn i c hc
    exact ⟨hok.sent, hok.out, hok.back, hok.answers⟩

/-- **A turn with a request** sends the frame once on each of its connections. -/
theorem Logs.afterTurn_some (hs : s.Inv N) {f : Frame} {slots : List Nat}
    (hpacket : turn.sockets ≠ [] → turn.packet = f.bytes N.endian (N.host h).pid)
    (hnodup : slots.Nodup) (htakes : ∀ j ∈ slots, (s.node h).client.Takes f j)
    (hsockets : turn.sockets = slots.map fun j => ((s.node h).client.peers j).fd)
    (his : List.Forall₂ (s.HasClientFd h) is turn.sockets) :
    (s.afterTurn h rest (some f) turn is).Logs N := by
  have ht := hs.tables
  have hslots : ∀ j ∈ slots, (s.node h).client.Connected j :=
    fun j hj => (ht.table h).connected_of_takes (htakes j hj)
  have hmine : ∀ i ∈ is, ∃ j ∈ slots, s.HasClientFd h i ((s.node h).client.peers j).fd := by
    intro i hi
    obtain ⟨fd, hfd, hhas⟩ := exists_of_mem_forall₂ his hi
    rw [hsockets] at hfd
    obtain ⟨j, hj, rfl⟩ := List.mem_map.mp hfd
    exact ⟨j, hj, hhas⟩
  have hrouted : ∀ h', (s.afterTurn h rest (some f) turn is).routed h' =
      if h' = h then s.routed h' ++ [(f, is)] else s.routed h' := fun h' => rfl
  refine ⟨fun h' r hr => ?_, fun h' r hr hfwd => ?_, fun i c hc => ?_⟩
  · have hkeep : ∀ r ∈ s.routed h', r.2.Nodup ∧ ∀ i ∈ r.2, ∃ k,
        (s.afterTurn h rest (some f) turn is).Joins i h' k ∧ r.1.GoesTo (N.host k).ns.name := by
      intro r hr
      obtain ⟨hnodup, hgoes⟩ := hs.logs.once h' r hr
      refine ⟨hnodup, fun i hi => ?_⟩
      obtain ⟨k, hk, hto⟩ := hgoes i hi
      exact ⟨k, hk.afterTurn, hto⟩
    rw [hrouted] at hr
    split at hr
    · rename_i heq
      rw [List.mem_append, List.mem_singleton] at hr
      rcases hr with hr | rfl
      · exact hkeep r hr
      · refine ⟨ht.sockets_nodup hnodup hslots (hsockets ▸ his), fun i hi => ?_⟩
        obtain ⟨j, hj, hhas⟩ := hmine i hi
        obtain ⟨k, hk, hns⟩ := ht.joins (hslots j hj) hhas
        refine ⟨k, ?_, ?_⟩
        · rw [heq]
          exact hk.afterTurn
        cases f with
        | fwd message myMbox toMbox ns =>
          exact hns.symm.trans ((ht.table h).findNamespace_some (htakes j hj)).2
        | locate itccoordMbox mboxname => trivial
    · exact hkeep r hr
  · rw [hrouted] at hr
    split at hr
    · rw [List.mem_append, List.mem_singleton] at hr
      rcases hr with hr | rfl
      · exact hs.logs.oneWay h' r hr hfwd
      · cases f with
        | fwd message myMbox toMbox ns =>
          have hsame : ∀ j ∈ slots, ∀ j' ∈ slots, j = j' := fun j hj j' hj' =>
            Option.some.inj ((htakes j hj).symm.trans (htakes j' hj'))
          have hlen : is.length = slots.length := by
            rw [his.length_eq, hsockets, List.length_map]
          exact hlen ▸ length_le_one hnodup hsame
        | locate itccoordMbox mboxname => exact absurd hfwd id
    · exact hs.logs.oneWay h' r hr hfwd
  · rw [afterTurn_conns, Option.map_eq_some_iff] at hc
    obtain ⟨c, hc, rfl⟩ := hc
    have hok := hs.logs.conn i c hc
    rw [hrouted]
    by_cases hclient : c.client = h
    · rw [if_pos hclient]
      refine ⟨?_, ?_, hok.back, ?_⟩
      · simp only [Pipe.writes_sent, List.flatMap_append, List.flatMap_singleton]
        rw [hok.sent]
      · by_cases hi : i ∈ is
        · have hne : turn.sockets ≠ [] := by
            intro hempty
            rw [hempty] at his
            cases his
            exact List.not_mem_nil hi
          rw [hpacket hne, ← hclient]
          exact hok.out.writes f (is.count i)
        · rw [List.count_eq_zero_of_not_mem hi]
          exact hok.out
      · simp only [Pipe.writes_got]
        exact hok.answers
    · rw [if_neg hclient]
      have hcount : is.count i = 0 := by
        refine List.count_eq_zero_of_not_mem fun hi => ?_
        obtain ⟨j, -, c', hc', hclient', -⟩ := hmine i hi
        rw [hc] at hc'
        cases hc'
        exact hclient hclient'
      rw [hcount]
      exact ⟨hok.sent, hok.out, hok.back, hok.answers⟩

/-- **A client thread connects to `k`**: it has a slot for it, or none was free. -/
theorem Tables.connect (ht : s.Tables N) (hnew : s.conns i = none) {fd : Int}
    (hfresh : s.FreshFd h fd)
    (hfind : (s.node h).client.tree.find
      (compareAddrTcpTree (s.node h).client.peers (N.host k).addr) = none)
    (hclient : turn.client = (s.node h).client ∨ ∃ j, freeSlot (s.node h).client.peers = some j ∧
      turn.client = (s.node h).client.place N.tree j ⟨(N.host k).addr, fd, (N.host k).ns.name⟩)
    {topic : Option Frame} :
    ((s.afterTurn h rest topic turn is).setConn i (.fresh h k fd)).Tables N := by
  have hends : ∀ i', ((s.afterTurn h rest topic turn is).setConn i (.fresh h k fd)).ends i' =
      if i' = i then some (h, k, some fd) else s.ends i' := by
    intro i'
    rw [ends_setConn, ends_afterTurn]
    rfl
  have hnone : s.ends i = none := by rw [ends, hnew, Option.map_none]
  have hnode : ∀ h', (((s.afterTurn h rest topic turn is).setConn i (.fresh h k fd)).node
      h').client = if h' = h then turn.client else (s.node h').client := by
    intro h'
    simp only [GatewayNet.afterTurn, setConn_node, route_node, sendOn_node, setNode_node]
    split
    · rfl
    · rfl
  have hold : ∀ {h' : H} {j' : Nat}, (s.node h').client.Connected j' → ∃ i' k',
      ((s.afterTurn h rest topic turn is).setConn i (.fresh h k fd)).ends i' =
        some (h', k', some ((s.node h').client.peers j').fd) ∧
      ((s.node h').client.peers j').addr = (N.host k').addr ∧
      ((s.node h').client.peers j').ns = (N.host k').ns.name := by
    intro h' j' hj'
    obtain ⟨i', k', hi', hrest⟩ := ht.slots h' j' hj'
    refine ⟨i', k', ?_, hrest⟩
    rw [hends, if_neg]
    · exact hi'
    · rintro rfl
      rw [hnone] at hi'
      cases hi'
  have hunused : ∀ {i' : Nat} {k' : H}, s.ends i' ≠ some (h, k', some fd) := by
    intro i' k' hi'
    obtain ⟨c, hc, heq⟩ := ends_eq_some.mp hi'
    simp only [Prod.mk.injEq] at heq
    exact (hfresh.2 i' c hc).1 heq.1 heq.2.2
  refine ⟨fun h' => ?_, fun h' j' hj' => ?_, ?_⟩
  · rw [hnode]
    split
    · rcases hclient with hsame | ⟨j, hfree, hplace⟩
      · rw [hsame]
        exact ht.table h
      · obtain ⟨hj, hfd⟩ := freeSlot_some hfree
        have h0 := hfresh.1
        rw [hplace]
        exact ((ht.table h).place hj hfd (by simp only; omega) hfind).1
    · exact ht.table h'
  · rw [hnode] at hj' ⊢
    split at hj'
    · rename_i heq
      rw [if_pos heq]
      rcases hclient with hsame | ⟨j, hfree, hplace⟩
      · rw [hsame] at hj' ⊢
        rw [heq]
        exact hold hj'
      · obtain ⟨hj, hfd⟩ := freeSlot_some hfree
        have h0 := hfresh.1
        rw [hplace] at hj' ⊢
        have hconn : ((s.node h).client.place N.tree j
            ⟨(N.host k).addr, fd, (N.host k).ns.name⟩).Connected j' ↔
              j' = j ∨ (s.node h).client.Connected j' :=
          ((ht.table h).place hj hfd (by simp only; omega) hfind).2 j'
        rcases hconn.mp hj' with rfl | hj'
        · have hslot : ((s.node h).client.place N.tree j'
              ⟨(N.host k).addr, fd, (N.host k).ns.name⟩).peers j' =
                ⟨(N.host k).addr, fd, (N.host k).ns.name⟩ := setPeer_self _ _ _
          rw [hslot, heq]
          exact ⟨i, k, (hends i).trans (if_pos rfl), rfl, rfl⟩
        · rw [PeerTable.place_ne _ (hj'.ne_free hfree), heq]
          exact hold hj'
    · rename_i heq
      rw [if_neg heq]
      exact hold hj'
  · intro i₁ i₂ h' k₁ k₂ fd' h₁ h₂
    rw [hends] at h₁ h₂
    split at h₁
    · rename_i heq₁
      split at h₂
      · rename_i heq₂
        rw [heq₁, heq₂]
      · cases h₁
        exact absurd h₂ hunused
    · split at h₂
      · cases h₂
        exact absurd h₁ hunused
      · exact ht.fds i₁ i₂ h' k₁ k₂ fd' h₁ h₂

end AfterTurn

end Changes

/-! ## Runs -/

/-- A greeting is read as it was made. -/
theorem receiveBroadcast_greeting (N : GatewayHosts H) (h : H) (udp : UdpTable) (stack : Greeting)
    (sent : Bool) : receiveBroadcast N.tree udp stack (N.greeting h) sent =
      .ok (handleReceiveBroadcastMsg N.tree udp (N.host h).ns.name (N.host h).tcpIp
        (printHu ITC_GATEWAY_TCP_LISTENING_PORT) sent) := by
  have hread := (extracts_iff (N.host h).ns (N.host h).ip.1 (N.host h).ip.2.1 (N.host h).ip.2.2.1
    (N.host h).ip.2.2.2 ITC_GATEWAY_TCP_LISTENING_PORT).mpr (N.nsPlain h) stack
  simp only [receiveBroadcast, GatewayHosts.greeting, GatewayHost.tcpIp, hread, bind, Except.bind]
  rfl

/-- What a greeting makes of the mailbox of a client thread. -/
theorem greeting_announces {udp udp' : UdpTable} {stack : Greeting} {sent : Bool}
    {addr ns : CString} (hcall : receiveBroadcast N.tree udp stack (N.greeting h) sent =
      .ok (true, udp', some (addr, ns))) :
    addr = (N.host h).addr ∧ ns = (N.host h).ns.name := by
  rw [receiveBroadcast_greeting] at hcall
  have hreq := congrArg (fun r => r.2.2) (Except.ok.inj hcall)
  simp only [handleReceiveBroadcastMsg] at hreq
  split at hreq
  · cases hreq
  · split at hreq
    · cases hreq
    · split at hreq
      · cases hreq
        exact ⟨rfl, rfl⟩
      · cases hreq

/-- A list of records with one copy for each time that `i` is in their lists. -/
theorem flatMap_count_eq (i : Nat) {l : List (Frame × List Nat)} (hl : ∀ r ∈ l, r.2.Nodup) :
    (l.flatMap fun r => List.replicate (r.2.count i) r.1) =
      (l.filter fun r => i ∈ r.2).map Prod.fst := by
  induction l with
  | nil => rfl
  | cons r l ih =>
    have hrest := ih fun r' hr' => hl r' (List.mem_cons_of_mem r hr')
    rw [List.flatMap_cons, hrest]
    by_cases hi : i ∈ r.2
    · have hone := List.count_eq_one_of_mem (hl r List.mem_cons_self) hi
      rw [hone, List.filter_cons_of_pos (by simpa using hi), List.map_cons]
      rfl
    · rw [List.count_eq_zero_of_not_mem hi, List.filter_cons_of_neg (by simpa using hi)]
      rfl

theorem Inv.routes (hs : s.Inv N) : s.Routes N where
  asked := hs.mail.asked
  once := hs.logs.once
  oneWay := hs.logs.oneWay
  sent i c hc := by
    rw [(hs.logs.conn i c hc).sent]
    exact flatMap_count_eq i fun r hr => (hs.logs.once c.client r hr).1
  got i c hc := by
    obtain ⟨done, rest, hsent, hgot, -⟩ := (hs.logs.conn i c hc).out.split
    rw [hsent, List.map_append, eq_map_of_forall₂ hgot]
    exact List.prefix_append _ _
  answers i c hc := (hs.logs.conn i c hc).answers
  heard i c hc := by
    obtain ⟨told, rest, hsent, hgot, -⟩ := (hs.logs.conn i c hc).back.split
    exact ⟨told, rest, hsent, hgot⟩

variable [DecidableEq H]

/-- **Every step keeps the invariant.** -/
theorem Inv.step {a : GatewayAction H} (hs : s.Inv N) (hstep : GatewayStep N s a s') :
    s'.Inv N := by
  cases hstep with
  | greetsKnown hcall => exact hs.setNode rfl (List.Sublist.refl _)
  | @greetsNew h k _ _ _ _ _ _ hup hcall hmsg =>
    obtain ⟨rfl, rfl⟩ := greeting_announces hcall
    exact hs.post rfl rfl (.inr ⟨h, hmsg⟩)
  | asks hup hf hmsg => exact hs.ask hf hmsg
  | mail hup hmsg => exact hs.post rfl rfl (.inl hmsg)
  | @clientTakes h sys l rest turn is hup hmbox hcall hconn his =>
    have hl := hs.mail.letters h l (by rw [hmbox]; exact List.mem_cons_self)
    have hclient := client_of_not_connected hl hcall hconn
    have htables : (s.afterTurn h rest l.topic turn is).Tables N :=
      hs.tables.keep (setNode_client hclient) ends_afterTurn
    refine ⟨htables, hs.mail.afterTurn hmbox, ?_⟩
    cases htopic : l.topic with
    | none =>
      rw [sockets_of_none hl htopic hcall] at his
      cases his
      exact hs.logs.afterTurn_none
    | some f =>
      rw [ClientLetter.Ok, htopic] at hl
      obtain ⟨-, -, hpacket, slots, hnodup, htakes, hsockets⟩ := clientTurn_frame hl.1 hl.2 hcall
      exact Logs.afterTurn_some hs hpacket hnodup htakes hsockets his
  | @clientConnects h k sys l rest turn endpoint fd i hup hmbox hcall hconn haddr hfresh hnew =>
    have hl := hs.mail.letters h l (by rw [hmbox]; exact List.mem_cons_self)
    obtain ⟨htopic, k', hendpoint, hfind, hclient⟩ := client_of_connected hl hcall hconn
    have hk : k' = k := N.tcpIp_inj k' k (congrArg TcpEndpoint.tcpIp (hendpoint.symm.trans haddr))
    subst hk
    have hmail : (s.afterTurn h rest l.topic turn []).Mail N := hs.mail.afterTurn hmbox
    rw [htopic] at hmail ⊢
    have hconns : (s.afterTurn h rest none turn []).conns i = none := by
      rw [afterTurn_conns, hnew, Option.map_none]
    exact ⟨hs.tables.connect hnew hfresh hfind hclient,
      hmail.keep (fun _ => List.Sublist.refl _) rfl rfl, hs.logs.afterTurn_none.connect hconns⟩
  | @accepts k i c fd ok server hup hc hserver hend hfresh hcall =>
    have hok := hs.logs.conn i c hc
    have hnode := hs.setNode (h := k) (n := { s.node k with server, serverUp := ok }) rfl
      (List.Sublist.refl _)
    exact hnode.setConn hc rfl rfl rfl ⟨hok.sent, hok.out, hok.back, hok.answers⟩
  | @serverTakes k i j c fd sock sock' event mboxId sent hup hc hserver hend hslot hpending hsock
      hcall =>
    subst hserver
    have hok := (hs.logs.conn i c hc).take (fun f hf => hs.admissible hc hf) hpending hsock hcall
      mboxId sent
    exact hs.setConn hc rfl rfl rfl hok
  | @serverEof k i j c fd notified msg hup hc hserver hend hpending hclosed hfind hmsg =>
    have hok := hs.logs.conn i c hc
    refine Inv.setConn ?_ hc rfl rfl rfl ⟨hok.sent, hok.out, hok.back, hok.answers⟩
    exact hs.setNode rfl (List.Sublist.refl _)
  | @clientHears h i j c fd sock sock' event hup hc hclient hfd hslot hpending hsock hcall =>
    refine hs.setConn hc rfl rfl rfl ?_
    refine (hs.logs.conn i c hc).hear (fun ns hns => ?_) hpending hsock hcall
    obtain ⟨j', hfind, rfl⟩ := Option.map_eq_some_iff.mp hns
    obtain ⟨hj', hjfd⟩ := (hs.tables.table h).findSockfd_fd hfind
    obtain ⟨k, hjoins, hname⟩ := hs.tables.joins (i := i) hj' ⟨c, hc, hclient, by rw [hfd, hjfd]⟩
    obtain ⟨c', hc', -, rfl⟩ := hjoins
    rw [hc] at hc'
    cases hc'
    exact hname
  | @clientEof h i j c fd hup hc hclient hfd hpending hclosed hfind =>
    have hok := hs.logs.conn i c hc
    refine ⟨hs.tables.detach hc hclient hfd hfind, hs.mail.keep (fun h' => ?_) rfl rfl, ?_⟩
    · rw [setConn_node, setNode_node]
      split
      · rename_i heq
        rw [heq]
      · exact List.Sublist.refl _
    · exact hs.logs.setNode.setConn hc rfl rfl ⟨hok.sent, hok.out, hok.back, hok.answers⟩
  | udpMail => exact hs.setNode rfl (List.Sublist.refl _)
  | udpTakes hmbox hcall => exact hs.setNode rfl (List.Sublist.refl _)
  | clientFails => exact hs.setNode rfl (List.nil_sublist _)
  | serverFails => exact hs.setNode rfl (List.Sublist.refl _)
  | exits => exact hs.exit

theorem Inv.run {as : List (GatewayAction H)} (hrun : Run (GatewayStep N) .init as s) : s.Inv N :=
  hrun.invariant (fun _ _ _ hs hstep => hs.step hstep) .init

end GatewayNet

open GatewayNet in
/-- **Routing between gateways.** In every reachable state of the network a client thread has dealt
with its requests in order and none twice; a message went on one connection at most, to the host of
its namespace, and a locate request once on each of its connections; a connection carries what was
routed on it and nothing else, its server has made of a first part of that what was meant, and its
client has heard a first part of the server's answers. -/
theorem gateway_network_routes [DecidableEq H] (N : GatewayHosts H) (as : List (GatewayAction H))
    (s : GatewayNet H) (hrun : Run (GatewayStep N) .init as s) : s.Routes N :=
  (Inv.run hrun).routes

/-! ### Two hosts -/

/-- `a` at `10.0.0.1` and `b` at `10.0.0.2`. -/
def GatewayHosts.pair : GatewayHosts Bool where
  endian := .little
  malloc := .least
  tree := .plain Nat
  host
    | false => ⟨⟨⟨[97], by decide⟩, by decide, by decide⟩, (10, 0, 0, 1), 41⟩
    | true => ⟨⟨⟨[98], by decide⟩, by decide, by decide⟩, (10, 0, 0, 2), 42⟩
  nsPlain := by decide
  addrFits := by decide
  tcpIp_inj := by decide

/-- Every call succeeds. -/
def ClientSys.willing : ClientSys := ⟨⟨.empty, 0⟩, some 7, true, fun _ => true⟩

namespace GatewayNet

/-- `a` has connected to `b`, which has accepted. -/
structure PairConnected (s : GatewayNet Bool) : Prop where
  mbox : (s.node false).clientMbox = []
  clientUp : (s.node false).clientUp = true
  sockets : fwdSockets .willing (s.node false).client ⟨[98], by decide⟩ = [7]
  serverUp : (s.node true).serverUp = true
  slot : (s.node true).server.Connected 0 ∧ ((s.node true).server.peers 0).fd = 8
  conn : s.conns 0 = some { GatewayConn.fresh false true 7 with serverEnd := .accepted 8 }

/-- The greeting of `b`, the connection, and its other end. -/
theorem pair_connects : ∃ as s, Run (GatewayStep .pair) .init as s ∧ s.PairConnected := by
  have hgreet : receiveBroadcast (.plain Nat) .init ⟨.empty, .empty, 0⟩
      (GatewayHosts.pair.greeting true) true = .ok (true,
        UdpTable.init.place (.plain Nat) 0 (GatewayHosts.pair.host true).addr,
        some ((GatewayHosts.pair.host true).addr, (GatewayHosts.pair.host true).ns.name)) :=
    receiveBroadcast_greeting .pair true .init ⟨.empty, .empty, 0⟩ true
  obtain ⟨msg, hmsg⟩ : ∃ msg, udpAddPeerMsg .little .least true (GatewayHosts.pair.host true).addr
      (GatewayHosts.pair.host true).ns.name = .ok msg :=
    ⟨_, udpAddPeerMsg_short (GatewayHosts.pair.host true).ns.lt (GatewayHosts.pair.addrFits true)⟩
  obtain ⟨s₁, hstep₁, hs₁⟩ : ∃ s₁, GatewayStep .pair .init (.greets true false) s₁ ∧
      s₁ = GatewayNet.init.setNode false { GatewayNode.init with
        udp := UdpTable.init.place (.plain Nat) 0 (GatewayHosts.pair.host true).addr
        clientMbox := [⟨msg, none⟩] } :=
    ⟨_, .greetsNew rfl hgreet hmsg, rfl⟩
  have hconnect := clientTurn_addPeer 41 (.plain Nat) .willing .init ITC_NO_MBOX_ID
    (GatewayHosts.pair.host true).ns.lt (GatewayHosts.pair.addrFits true) hmsg
  obtain ⟨tbl, htbl⟩ : ∃ tbl, tbl = (handleTcpClientAddPeer (.plain Nat) .init
      (GatewayHosts.pair.host true).addr (GatewayHosts.pair.host true).ns.name (some 7)).2 :=
    ⟨_, rfl⟩
  have hsockets : fwdSockets .willing tbl ⟨[98], by decide⟩ = [7] := by
    rw [htbl]
    decide
  obtain ⟨s₂, hstep₂, hclient₂, hmbox₂, hup₂, hserver₂, hsup₂, hconns₂⟩ : ∃ s₂,
      GatewayStep .pair s₁ (.clientConnects false true .willing) s₂ ∧
      (s₂.node false).client = tbl ∧ (s₂.node false).clientMbox = [] ∧
      (s₂.node false).clientUp = true ∧ (s₂.node true).server = .init ∧
      (s₂.node true).serverUp = true ∧
      ∀ i, s₂.conns i = if i = 0 then some (.fresh false true 7) else none := by
    rw [hs₁, htbl]
    exact ⟨_, .clientConnects (i := 0) rfl rfl hconnect rfl rfl
      ⟨by decide, fun i c hc => by cases hc⟩ rfl, rfl, rfl, rfl, rfl, rfl, fun i => rfl⟩
  obtain ⟨server, haccept⟩ : ∃ server, handleAcceptNewConnection (.plain Nat) .init
      (.accepted 8 (acceptAddr (GatewayHosts.pair.host false).tcpIp)) = (true, server) := ⟨_, rfl⟩
  have hslot : server.Connected 0 ∧ (server.peers 0).fd = 8 := by
    cases haccept
    exact ⟨⟨by decide, by decide⟩, by decide⟩
  have hfresh : s₂.FreshFd true 8 := by
    refine ⟨by decide, fun i c hc => ?_⟩
    rw [hconns₂] at hc
    split at hc
    · cases hc
      exact ⟨by decide, fun _ => by decide⟩
    · cases hc
  rw [← hserver₂] at haccept
  have hstep₃ := GatewayStep.accepts (N := .pair) hsup₂ (hconns₂ 0) rfl rfl hfresh haccept
  exact ⟨_, _, .cons hstep₁ (.cons hstep₂ (.cons hstep₃ (.nil _))), hmbox₂, hup₂,
    hclient₂ ▸ hsockets, rfl, hslot, rfl⟩

end GatewayNet

open GatewayNet in
/-- `b` greets `a`, which connects to it and forwards it a message. -/
theorem gateway_network_routes_pair : ∃ as s c,
    Run (GatewayStep .pair) .init as s ∧ s.Routes .pair ∧ s.conns 0 = some c ∧
      c.client = false ∧ c.server = true ∧
      c.out.got =
        [.sendInternal ((ItcMessage.fresh .little 8 7).stamp 0x00500001 0x00900002)] := by
  obtain ⟨as, s, hrun, hs⟩ := pair_connects
  obtain ⟨f, hf⟩ : ∃ f, f = Frame.fwd (ItcMessage.fresh .little 8 7) 0x00500001 0x00900002
    ⟨[98], by decide⟩ := ⟨_, rfl⟩
  have hm : (ItcMessage.fresh .little 8 7).WellFormed :=
    ItcMessage.fresh_wellFormed .little 7 (by decide) (by decide)
  have hadm : f.Admissible .least := by
    rw [hf]
    exact ⟨hm, by decide, by decide⟩
  obtain ⟨req, hreq⟩ : ∃ req, f.request .little .least = .ok req := by
    rw [hf, Frame.request,
      fwdRequest_ok .little .least (hm.stamp _ _) (by decide) (by decide)]
    exact ⟨_, rfl⟩
  -- the request
  obtain ⟨s₁, hask, hclient₁, hmbox₁, hup₁, hserver₁, hsup₁, hconns₁⟩ : ∃ s₁,
      GatewayStep .pair s (.asks false f) s₁ ∧
      (s₁.node false).client = (s.node false).client ∧
      (s₁.node false).clientMbox = [⟨req, some f⟩] ∧ (s₁.node false).clientUp = true ∧
      (s₁.node true).server = (s.node true).server ∧ (s₁.node true).serverUp = true ∧
      s₁.conns 0 = s.conns 0 := by
    refine ⟨_, .asks hs.clientUp hadm hreq, rfl, ?_, hs.clientUp, rfl, hs.serverUp, rfl⟩
    show (s.node false).clientMbox ++ _ = _
    rw [hs.mbox]
    rfl
  rw [hs.conn] at hconns₁
  -- its packet
  have his : List.Forall₂ (s₁.HasClientFd false) [0] [7] := .cons ⟨_, hconns₁, rfl, rfl⟩ .nil
  obtain ⟨packet, hturn, hpacket⟩ : ∃ packet, handleReceiveItcmsgAtClient .little .least 41
      (.plain Nat) .willing (s₁.node false).client (s₁.node false).itccoordMboxId req =
        .ok { client := (s₁.node false).client
              itccoordMboxId := (s₁.node false).itccoordMboxId, packet, sockets := [7] } ∧
      packet = f.bytes .little 41 := by
    rw [hf] at hadm hreq ⊢
    obtain ⟨packet, hturn, hpacket⟩ := clientTurn_fwd 41 (.plain Nat) .willing
      (s₁.node false).client (s₁.node false).itccoordMboxId hadm hreq
    rw [hclient₁, hs.sockets] at hturn hpacket
    rw [hclient₁]
    exact ⟨packet, hturn, hpacket (List.cons_ne_nil 7 [])⟩
  obtain ⟨s₂, htake, hserver₂, hsup₂, hconns₂⟩ : ∃ s₂,
      GatewayStep .pair s₁ (.clientTakes false .willing) s₂ ∧
      (s₂.node true).server = (s.node true).server ∧ (s₂.node true).serverUp = true ∧
      s₂.conns 0 = some { GatewayConn.fresh false true 7 with
        serverEnd := .accepted 8, out := ⟨f.bytes .little 41, [f], []⟩ } := by
    refine ⟨_, .clientTakes hup₁ hmbox₁ hturn rfl his, hserver₁, hsup₁, ?_⟩
    rw [afterTurn_conns, hconns₁, ← hpacket]
    rfl
  -- what `b` makes of it
  have hne : f.bytes .little 41 ≠ [] := by
    rw [hf]
    exact List.cons_ne_nil _ _
  obtain ⟨sock, hsock⟩ : ∃ sock : ByteStream, sock.bytes = f.bytes .little 41 ++ [] :=
    ⟨⟨[f.bytes .little 41], fun b hb => List.mem_singleton.mp hb ▸ hne⟩, rfl⟩
  obtain ⟨sock', hcall, -⟩ := handleReceiveTcpPacketAtServer_frame .little .least 41 hadm hsock
  obtain ⟨s₃, c, hread, hconns₃, hclient₃, hserver₃, hgot₃⟩ : ∃ s₃ c,
      GatewayStep .pair s₂ (.serverTakes true 0) s₃ ∧ s₃.conns 0 = some c ∧
        c.client = false ∧ c.server = true ∧ c.out.got = [f.event] :=
    ⟨_, _, @GatewayStep.serverTakes Bool _ .pair s₂ true 0 0 _ 8 sock sock' f.event 0 true
      hsup₂ hconns₂ rfl rfl (by rw [hserver₂]; exact hs.slot) hne
      (hsock.trans (List.append_nil _)) hcall, rfl, rfl, rfl, rfl⟩
  have hrun₃ := hrun.append (.cons hask (.cons htake (.cons hread (.nil _))))
  exact ⟨_, s₃, c, hrun₃, gateway_network_routes .pair _ s₃ hrun₃, hconns₃, hclient₃, hserver₃,
    by rw [hgot₃, hf]; rfl⟩

end ItcFramework
