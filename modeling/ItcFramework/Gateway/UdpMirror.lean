import ItcFramework.Gateway.UdpTable

/-!
# The UDP peer tree and its slots

`handle_udp_rmv_peer` overwrites the address of a slot before it asks `tdelete` to take the slot
out of `udp_tree`, so the walk looks for `"NO_ADDR"`, which every address compares greater than.

* `UdpRun` — the table, with the addresses that are added and not since removed.
* `Mirrors` — every slot in use is in the tree once and no other is, the tree is ordered, and a
  lookup finds what was added.
* `OnLeftEdge` — every slot that the lookup for the removed address passes has a greater address.
* `udp_mirrors_iff` — the runs whose states all mirror the slots are those that remove such
  addresses only.
-/

set_option autoImplicit false

namespace ItcFramework

open ByteImage SearchTree Transition

structure UdpRun where
  tbl : UdpTable
  /-- The addresses added and not since removed. -/
  added : List CString

inductive UdpEvent where
  | broadcast (ns tcpIp tcpPort : CString) (sent : Bool)
  | rmvPeer (addr : CString)

namespace UdpRun

def init : UdpRun := ⟨.init, []⟩

/-- What a new peer makes of the addresses; no more than the slots can take are added. -/
def record (w : UdpRun) (addr : CString) : List CString :=
  if addr ∈ w.added ∨ freeUdpSlot w.tbl.peers = none then w.added else addr :: w.added

def next (impl : TreeImpl Nat) (w : UdpRun) : UdpEvent → UdpRun
  | .broadcast ns tcpIp tcpPort sent =>
      ⟨(handleReceiveBroadcastMsg impl w.tbl ns tcpIp tcpPort sent).2.1,
        w.record (tcpAddr tcpIp tcpPort)⟩
  | .rmvPeer addr => ⟨(handleUdpRmvPeer impl w.tbl addr).2, w.added.filter (· ≠ addr)⟩

/-- `udp_tree` mirrors `udp_peers`. -/
structure Mirrors (w : UdpRun) : Prop where
  once : ∀ i, w.tbl.tree.toList.count i =
    if i < ITC_GATEWAY_MAX_PEERS ∧ w.tbl.peers i ≠ ITC_GATEWAY_NO_ADDR_STRING then 1 else 0
  ordered : Ordered CString.strcmp w.tbl.peers w.tbl.tree.toList
  lookup : ∀ addr, (w.tbl.find addr).isSome = true ↔ addr ∈ w.added

/-- A lookup of the removed address passes no slot with a smaller address. -/
def OnLeftEdge (w : UdpRun) : UdpEvent → Prop
  | .broadcast .. => True
  | .rmvPeer addr => ∀ i, w.tbl.find addr = some i →
      ∀ a ∈ w.tbl.tree.visited (compareAddrUdpTree w.tbl.peers addr), a ≠ i →
        CString.strcmp addr (w.tbl.peers a) = .lt

end UdpRun

def UdpStep (impl : TreeImpl Nat) (w : UdpRun) (ev : UdpEvent) (w' : UdpRun) : Prop :=
  w' = w.next impl ev

/-! ## What the runs keep -/

/-- A mirror whose addresses all begin like `"tcp://"`. -/
structure UdpRun.Inv (w : UdpRun) : Prop where
  tbl : w.tbl.Inv
  tcp : ∀ i, w.tbl.peers i = ITC_GATEWAY_NO_ADDR_STRING ∨
    CString.strcmp ITC_GATEWAY_NO_ADDR_STRING (w.tbl.peers i) = .lt
  added : ∀ addr, addr ∈ w.added ↔ ∃ i ∈ w.tbl.tree.toList, w.tbl.peers i = addr

theorem strcmp_tcpAddr (tcpIp tcpPort : CString) :
    CString.strcmp ITC_GATEWAY_NO_ADDR_STRING (tcpAddr tcpIp tcpPort) = .lt := by
  have hhead : (tcpAddr tcpIp tcpPort).bytes = 116 ::
      ([99, 112, 58, 47, 47] ++ tcpIp.bytes ++ [58] ++ tcpPort.bytes ++ [47]).take 38 := by
    simp only [tcpAddr, tcpPrefix, List.cons_append, List.take_succ_cons, List.nil_append]
  rw [CString.strcmp, hhead, ITC_GATEWAY_NO_ADDR_STRING]
  rfl

section Broadcast

variable (impl : TreeImpl Nat) {tbl : UdpTable} {ns tcpIp tcpPort : CString} {sent : Bool} {i : Nat}

theorem broadcast_known (hfind : tbl.find (tcpAddr tcpIp tcpPort) = some i) :
    (handleReceiveBroadcastMsg impl tbl ns tcpIp tcpPort sent).2.1 = tbl := by
  simp only [handleReceiveBroadcastMsg, hfind]

theorem broadcast_full (hfind : tbl.find (tcpAddr tcpIp tcpPort) = none)
    (hslot : freeUdpSlot tbl.peers = none) :
    (handleReceiveBroadcastMsg impl tbl ns tcpIp tcpPort sent).2.1 = tbl := by
  simp only [handleReceiveBroadcastMsg, hfind, hslot]

theorem broadcast_new (hfind : tbl.find (tcpAddr tcpIp tcpPort) = none)
    (hslot : freeUdpSlot tbl.peers = some i) :
    (handleReceiveBroadcastMsg impl tbl ns tcpIp tcpPort sent).2.1 =
      tbl.place impl i (tcpAddr tcpIp tcpPort) := by
  simp only [handleReceiveBroadcastMsg, hfind, hslot]
  split <;> rfl

end Broadcast

namespace UdpRun.Inv

variable {w : UdpRun} {addr : CString}

theorem init : UdpRun.init.Inv where
  tbl := .init
  tcp := fun _ => .inl rfl
  added := fun _ => iff_of_false List.not_mem_nil fun ⟨_, h, _⟩ => absurd h List.not_mem_nil

theorem lookup (h : w.Inv) : (w.tbl.find addr).isSome = true ↔ addr ∈ w.added := by
  rw [h.added, Option.isSome_iff_exists]
  exact exists_congr fun i => h.tbl.find_iff

theorem mirrors (h : w.Inv) : w.Mirrors where
  once := by
    intro i
    have hnodup := h.tbl.ordered.nodup
    split
    · next hused => exact List.count_eq_one_of_mem hnodup ((h.tbl.mem i).mpr hused)
    · next hfree => exact List.count_eq_zero_of_not_mem fun hi => hfree ((h.tbl.mem i).mp hi)
  ordered := h.tbl.ordered
  lookup := fun _ => h.lookup

/-- The walk for the cleared slot goes left at every slot in use, so it comes to the slot exactly
when the lookup of its address goes left all the way. -/
theorem cleared_found_iff (h : w.Inv) {i : Nat} (hfind : w.tbl.find addr = some i) :
    w.tbl.tree.find (comparePeerUdpTree (setAddr w.tbl.peers i ITC_GATEWAY_NO_ADDR_STRING) i) =
        some i ↔ w.OnLeftEdge (.rmvPeer addr) := by
  obtain ⟨hmem, rfl⟩ := h.tbl.find_iff.mp hfind
  have hleft : ∀ a ∈ w.tbl.tree.toList, a ≠ i →
      comparePeerUdpTree (setAddr w.tbl.peers i ITC_GATEWAY_NO_ADDR_STRING) i a = .lt := by
    intro a ha hai
    rw [comparePeerUdpTree, setAddr_self, setAddr_ne _ _ hai]
    exact (h.tcp a).resolve_left ((h.tbl.mem a).mp ha).2
  have hself : comparePeerUdpTree (setAddr w.tbl.peers i ITC_GATEWAY_NO_ADDR_STRING) i i = .eq := by
    rw [comparePeerUdpTree]
    exact Std.ReflCmp.compare_self
  rw [find_iff_above h.tbl.ordered hmem]
  constructor
  · rintro ⟨-, habove⟩ j hj a ha haj
    rw [hfind, Option.some.injEq] at hj
    subst hj
    have hway := habove a ha haj
    rw [hleft a (SearchTree.Tree.visited_subset _ _ a ha) haj] at hway
    exact hway.symm
  · intro hedge
    refine ⟨hself, fun a ha hai => ?_⟩
    rw [hleft a (SearchTree.Tree.visited_subset _ _ a ha) hai]
    exact (hedge i hfind a ha hai).symm

/-- The slot holds the new address, and the others what they held. -/
theorem added_place (h : w.Inv) (impl : TreeImpl Nat) {i : Nat} (hi : i < ITC_GATEWAY_MAX_PEERS)
    (hfree : w.tbl.peers i = ITC_GATEWAY_NO_ADDR_STRING)
    (hnew : addr ≠ ITC_GATEWAY_NO_ADDR_STRING) (hplace : (w.tbl.place impl i addr).Inv)
    (other : CString) :
    other ∈ addr :: w.added ↔
      ∃ j ∈ (w.tbl.place impl i addr).tree.toList, (w.tbl.place impl i addr).peers j = other := by
  have hmem : ∀ j, j ∈ (w.tbl.place impl i addr).tree.toList ↔ j = i ∨ j ∈ w.tbl.tree.toList := by
    intro j
    rw [hplace.mem, h.tbl.mem, UdpTable.place_peers]
    by_cases hji : j = i
    · rw [hji, setAddr_self]
      exact iff_of_true ⟨hi, hnew⟩ (.inl rfl)
    · rw [setAddr_ne _ _ hji]
      exact (or_iff_right hji).symm
  have hnot : i ∉ w.tbl.tree.toList := fun hin => ((h.tbl.mem i).mp hin).2 hfree
  rw [List.mem_cons, h.added]
  constructor
  · rintro (rfl | ⟨j, hj, rfl⟩)
    · exact ⟨i, (hmem i).mpr (.inl rfl), by rw [UdpTable.place_peers, setAddr_self]⟩
    · have hji : j ≠ i := fun heq => hnot (heq ▸ hj)
      exact ⟨j, (hmem j).mpr (.inr hj), by rw [UdpTable.place_peers, setAddr_ne _ _ hji]⟩
  · rintro ⟨j, hj, rfl⟩
    rcases (hmem j).mp hj with rfl | hj
    · exact .inl (by rw [UdpTable.place_peers, setAddr_self])
    · have hji : j ≠ i := fun heq => hnot (heq ▸ hj)
      exact .inr ⟨j, hj, by rw [UdpTable.place_peers, setAddr_ne _ _ hji]⟩

theorem broadcast (h : w.Inv) (impl : TreeImpl Nat) (ns tcpIp tcpPort : CString) (sent : Bool) :
    (w.next impl (.broadcast ns tcpIp tcpPort sent)).Inv := by
  have hlookup : (w.tbl.find (tcpAddr tcpIp tcpPort)).isSome = true ↔
      tcpAddr tcpIp tcpPort ∈ w.added := h.lookup
  rw [UdpRun.next]
  cases hfind : w.tbl.find (tcpAddr tcpIp tcpPort) with
  | some i =>
    have hin := hlookup.mp (by rw [hfind]; rfl)
    rw [broadcast_known impl hfind, UdpRun.record, if_pos (.inl hin)]
    exact h
  | none =>
    cases hslot : freeUdpSlot w.tbl.peers with
    | none =>
      rw [broadcast_full impl hfind hslot, UdpRun.record, if_pos (.inr hslot)]
      exact h
    | some i =>
      have hnot : ¬ (tcpAddr tcpIp tcpPort ∈ w.added ∨ freeUdpSlot w.tbl.peers = none) := by
        rintro (hin | hfull)
        · have hsome := hlookup.mpr hin
          rw [hfind] at hsome
          cases hsome
        · rw [hslot] at hfull
          cases hfull
      obtain ⟨hi, hfree⟩ := freeUdpSlot_some hslot
      have hplace := h.tbl.place impl hi hfree (tcpAddr_ne tcpIp tcpPort) hfind
      rw [broadcast_new impl hfind hslot, UdpRun.record, if_neg hnot]
      refine ⟨hplace, fun j => ?_, h.added_place impl hi hfree (tcpAddr_ne tcpIp tcpPort) hplace⟩
      dsimp only
      rw [UdpTable.place_peers]
      by_cases hji : j = i
      · rw [hji, setAddr_self]
        exact .inr (strcmp_tcpAddr _ _)
      · rw [setAddr_ne _ _ hji]
        exact h.tcp j

theorem rmvPeer (h : w.Inv) (impl : WalkImpl Nat) (hedge : w.OnLeftEdge (.rmvPeer addr)) :
    (w.next impl.toTreeImpl (.rmvPeer addr)).Inv := by
  rw [UdpRun.next, handleUdpRmvPeer]
  cases hfind : w.tbl.find addr with
  | none =>
    have hnot : addr ∉ w.added := by
      intro hin
      have hsome := h.lookup.mpr hin
      rw [hfind] at hsome
      cases hsome
    have hsame : w.added.filter (· ≠ addr) = w.added := by
      rw [List.filter_eq_self]
      intro a ha
      simpa using fun heq : a = addr => hnot (heq ▸ ha)
    rw [hsame]
    exact h
  | some i =>
    have hwalk := (h.cleared_found_iff hfind).mpr hedge
    have hremove := h.tbl.remove impl hwalk
    obtain ⟨hi, rfl⟩ := h.tbl.find_iff.mp hfind
    refine ⟨hremove, fun j => ?_, fun other => ?_⟩
    · dsimp only
      rw [UdpTable.remove_peers]
      by_cases hji : j = i
      · rw [hji, setAddr_self]
        exact .inl rfl
      · rw [setAddr_ne _ _ hji]
        exact h.tcp j
    · have hmem : ∀ j, j ∈ (w.tbl.remove impl.toTreeImpl i).tree.toList ↔
          j ≠ i ∧ j ∈ w.tbl.tree.toList := (impl.tdelete_spec h.tbl.ordered hwalk).2
      dsimp only
      rw [List.mem_filter, h.added]
      constructor
      · rintro ⟨⟨j, hj, rfl⟩, hne⟩
        have hji : j ≠ i := by
          rintro rfl
          simp at hne
        exact ⟨j, (hmem j).mpr ⟨hji, hj⟩, by rw [UdpTable.remove_peers, setAddr_ne _ _ hji]⟩
      · rintro ⟨j, hj, rfl⟩
        obtain ⟨hji, hj⟩ := (hmem j).mp hj
        rw [UdpTable.remove_peers, setAddr_ne _ _ hji]
        refine ⟨⟨j, hj, rfl⟩, ?_⟩
        have huniq : w.tbl.peers j ≠ w.tbl.peers i := by
          intro heq
          have hfj := h.tbl.find_iff.mpr ⟨hj, heq⟩
          rw [hfind] at hfj
          exact hji (Option.some.inj hfj).symm
        simpa using huniq

/-- A slot that the walk does not find stays in the tree with no address. -/
theorem rmvPeer_exact (h : w.Inv) (impl : StrictWalkImpl Nat)
    (hmirrors : (w.next impl.toTreeImpl (.rmvPeer addr)).Mirrors) :
    w.OnLeftEdge (.rmvPeer addr) := by
  cases hfind : w.tbl.find addr with
  | none =>
    intro i hi
    rw [hfind] at hi
    cases hi
  | some i =>
    rw [← h.cleared_found_iff hfind]
    have hmem := (h.tbl.find_iff.mp hfind).1
    by_contra hlost
    have hnone : w.tbl.tree.find
        (comparePeerUdpTree (setAddr w.tbl.peers i ITC_GATEWAY_NO_ADDR_STRING) i) = none := by
      by_contra hsome
      obtain ⟨j, hj⟩ := Option.ne_none_iff_exists'.mp hsome
      obtain ⟨hjmem, heq⟩ := SearchTree.Tree.find_some hj
      by_cases hji : j = i
      · exact hlost (hji ▸ hj)
      · rw [comparePeerUdpTree, setAddr_self, setAddr_ne _ _ hji,
          (h.tcp j).resolve_left ((h.tbl.mem j).mp hjmem).2] at heq
        cases heq
    have hpeers : (w.next impl.toTreeImpl (.rmvPeer addr)).tbl.peers i =
        ITC_GATEWAY_NO_ADDR_STRING := by
      rw [UdpRun.next, handleUdpRmvPeer, hfind]
      exact setAddr_self _ _ _
    have htree : (w.next impl.toTreeImpl (.rmvPeer addr)).tbl.tree.toList =
        w.tbl.tree.toList := by
      rw [UdpRun.next, handleUdpRmvPeer, hfind]
      exact impl.tdelete_lost hnone
    have honce := hmirrors.once i
    rw [if_neg (fun hboth => hboth.2 hpeers), htree] at honce
    exact List.count_eq_zero.mp honce hmem

theorem step (h : w.Inv) (impl : WalkImpl Nat) {ev : UdpEvent} {w' : UdpRun}
    (hedge : w.OnLeftEdge ev) (hstep : UdpStep impl.toTreeImpl w ev w') : w'.Inv := by
  cases hstep
  cases ev with
  | broadcast ns tcpIp tcpPort sent => exact h.broadcast impl.toTreeImpl ns tcpIp tcpPort sent
  | rmvPeer addr => exact h.rmvPeer impl hedge

end UdpRun.Inv

/-- **The UDP peer tree mirrors its slots along the runs that remove peers on the left edge only.** -/
theorem udp_mirrors_iff (impl : StrictWalkImpl Nat) (evs : List UdpEvent) (w : UdpRun) :
    Run (Into (UdpStep impl.toTreeImpl) UdpRun.Mirrors) .init evs w ↔
      Run (Guarded (UdpStep impl.toTreeImpl) UdpRun.OnLeftEdge) .init evs w := by
  refine Run.into_iff_guarded (I := UdpRun.Inv) (fun w ev w' h hedge hstep => h.step impl.toWalkImpl hedge hstep)
    (fun w h => h.mirrors) (fun w ev w' h hstep hmirrors => ?_) UdpRun.Inv.init
  cases hstep
  cases ev with
  | broadcast => trivial
  | rmvPeer addr => exact h.rmvPeer_exact impl hmirrors

/-- The address `tcp://<digit>:1/`. -/
def digitIp (d : UInt8) (h : d ≠ 0) : CString := ⟨[d], by simpa using h.symm⟩

def twoPeers : List UdpEvent :=
  [.broadcast .empty (digitIp 49 (by decide)) (digitIp 49 (by decide)) true,
    .broadcast .empty (digitIp 50 (by decide)) (digitIp 49 (by decide)) true,
    .rmvPeer (tcpAddr (digitIp 50 (by decide)) (digitIp 49 (by decide)))]

/-- **A removed peer stays in the tree**: of two peers the one with the greater address is removed,
and its slot, which is free now, is still there. -/
theorem removed_peer_stays :
    ∃ w, Run (UdpStep (TreeImpl.plain Nat)) .init twoPeers w ∧ ¬ w.Mirrors ∧
      w.tbl.peers 1 = ITC_GATEWAY_NO_ADDR_STRING ∧ 1 ∈ w.tbl.tree.toList := by
  refine ⟨_, .cons rfl (.cons rfl (.cons rfl (.nil _))), ?_, by decide, by decide⟩
  intro h
  exact absurd (h.once 1) (by decide)

end ItcFramework
