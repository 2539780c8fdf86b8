import ItcFramework.Coord.OutOfSlots

/-!
# The scan of `used_list`

The `for` loop of `main` (`itccoord.c`) over `used_list`, node by node. The body connects,
disconnects or skips the process of a node; where it does not leave the loop, `iter->next` is read
from that node afterwards.

* `scanBody`, `scanUsedList` — the body and the loop.
* `disconnectSlot_frees` — `disconnect_from_process` frees the node of its process.
* `scanUsedList_safe_iff` — the loop reads a freed node just when it comes to a process whose
  `accept` is aborted or whose ack meets a closed socket: `connect_to_process` disconnects that
  process and returns true, and the loop goes on from its node.
-/

set_option autoImplicit false

namespace ItcFramework

open ByteImage HeapModel LinkedChain Transition

/-! ## The loop -/

def NR_PROC_ALIVENESS_CHECK_RETRIES : Int := 10

def FREELIST_LOW_THRESHOLD : UInt32 := 10

/-- What the system answers in one scan: the descriptors that `select` leaves in the set, and
for each process the answers to the calls made for it, which is visited once. -/
structure ScanSys where
  ready : Int → Bool
  connect : Nat → ConnectSys
  disconnect : Nat → DisconnectSys
  /-- `kill(pid, 0)` fails with `ESRCH`. -/
  esrch : Nat → Bool

/-- The end of the loop: by running out of nodes or `break`, or by `exit`. -/
structure ScanEnd where
  running : Bool
  zcCounter : Int
  coord : CoordSlots

/-- What follows the body. -/
inductive AfterBody where
  | next (coord : CoordSlots)
  | leave (out : ScanEnd)

/-- The process is in state `PROC_LISTENING` and has to be tried with `kill`. -/
def ProcSlot.checked (p : ProcSlot) (zcCounter : Int) (freelistCount : UInt32) : Bool :=
  (zcCounter = NR_PROC_ALIVENESS_CHECK_RETRIES - 1 ∨ freelistCount < FREELIST_LOW_THRESHOLD) ∧
    p.state = .listening ∧ p.pid > 0

def ProcSlot.isSet (p : ProcSlot) (ready : Int → Bool) : Bool := p.sockfd ≠ -1 ∧ ready p.sockfd

/-- The body of the loop for `proc`. -/
def scanBody (fuel : Nat) (sys : ScanSys) (zcCounter : Int) (s : CoordSlots) (proc : Nat) :
    Except MemFault (Option AfterBody) :=
  let p := s.processes proc
  if p.isSet sys.ready then
    match p.state with
    | .listening => do
        let some (connected, s) ← connectToProcess fuel (sys.connect proc) s proc | return none
        if ! connected then return some (.leave ⟨false, zcCounter, s⟩)
        return some (.next s)
    | .connected => do
        let some (closed, s) ← disconnectSlot fuel (sys.disconnect proc) s proc | return none
        return some (.leave ⟨closed, zcCounter, s⟩)
    | _ => .ok (some (.leave ⟨false, zcCounter, s⟩))
  else if p.checked zcCounter s.freelistCount && sys.esrch proc then do
    let some (_, s) ← disconnectSlot fuel (sys.disconnect proc) s proc | return none
    return some (.leave ⟨true, zcCounter - 1, s⟩)
  else .ok (some (.next s))

/-- The loop from the node `iter` on, on `fuel` nodes; `none` while it still runs. -/
def scanUsedList (sys : ScanSys) (zcCounter : Int) :
    Nat → CoordSlots → Option Nat → Except MemFault (Option ScanEnd)
  | 0, _, _ => .ok none
  | _ + 1, s, none => .ok (some ⟨true, zcCounter, s⟩)
  | fuel + 1, s, some iter => do
      let node ← s.usedList.nodes.read iter
      let some after ← scanBody fuel sys zcCounter s node.pData | return none
      match after with
      | .leave out => return some out
      | .next s => do
          let node ← s.usedList.nodes.read iter
          scanUsedList sys zcCounter fuel s node.next

/-! ## What the body does to the lists -/

section Body

variable {s s' : CoordSlots} {fl ul : List Nat} {fuel proc : Nat}

/-- `q_enqueue` finds `free_list` in order, or does not look at it. -/
theorem SlotLists.enqueue_ok (h : SlotLists s fl ul) (mem : Bool) (data : Nat) :
    ∃ r, qEnqueue mem s.rc s.freeList data = .ok r := by
  cases mem with
  | false => exact ⟨_, rfl⟩
  | true =>
    by_cases hrc : s.rc = ITC_OK
    · have hlen := h.length_le
      obtain ⟨q', henq, -⟩ := ItcQueue.qEnqueue_spec (h.free hrc) (by omega) data
      rw [hrc]
      exact ⟨_, henq⟩
    · refine ⟨(s.rc, { s.freeList with nodes := s.freeList.nodes.push ⟨none, none, data⟩ }), ?_⟩
      unfold qEnqueue
      simp only [not_true_eq_false, if_false, Heap.alloc, ne_eq, hrc, not_false_eq_true, if_true]
      rfl

/-- Once the node is out of `used_list`, nothing faults. -/
theorem SlotLists.disconnect_of_remove (h : SlotLists s fl ul) (sys : DisconnectSys)
    {usedList : ItcQueue} (hremove : qRemove fuel s.usedList proc = .ok (some usedList)) :
    ∃ closed s', disconnectSlot fuel sys s proc = .ok (some (closed, s')) ∧
      s'.usedList = usedList := by
  unfold disconnectSlot
  rw [hremove]
  simp only [bind, Except.bind]
  generalize closeSocketConnection sys { s.processes proc with state := .unused, pid := -1 } = out
  obtain ⟨closed, p⟩ := out
  cases closed with
  | false => exact ⟨_, _, rfl, rfl⟩
  | true =>
    obtain ⟨⟨rc, freeList⟩, henq⟩ := h.enqueue_ok sys.node proc
    simp only [CoordSlots.setProc, henq, Bool.not_true, Bool.false_eq_true, if_false]
    exact ⟨_, _, rfl, rfl⟩

/-- `disconnect_from_process` takes the slot of its process out, whatever the system answers. -/
theorem SlotLists.disconnect_returns (h : SlotLists s fl ul) (hproc : proc ∈ ul) (fuel : Nat)
    (sys : DisconnectSys) :
    Returns (disconnectSlot fuel sys s proc) fun r => ∃ fl', SlotLists r.2 fl' (ul.erase proc) := by
  obtain ⟨o, hremove, -⟩ := ItcQueue.qRemove_returns h.used hproc fuel
  cases o with
  | none =>
    unfold disconnectSlot
    rw [hremove]
    exact .running
  | some usedList =>
    obtain ⟨closed, s', hcall, -⟩ := h.disconnect_of_remove sys hremove
    rw [hcall]
    exact .result (h.disconnected hproc hcall).1

/-- **It frees the node of its process.** -/
theorem disconnectSlot_frees (h : SlotLists s fl ul) {c : List (Nat × Nat)}
    (hc : s.usedList.Chain c) (hdata : c.map Prod.snd = ul) {iter : Nat} (hmem : (iter, proc) ∈ c)
    (hfuel : c.length ≤ fuel) (sys : DisconnectSys) :
    ∃ closed s', disconnectSlot fuel sys s proc = .ok (some (closed, s')) ∧
      s'.usedList.nodes.cells iter = none := by
  obtain ⟨xs, ys, rfl⟩ := List.append_of_mem hmem
  have hnot : proc ∉ xs.map Prod.snd := by
    have hnd := (List.nodup_append.mp h.nodup).2.1
    rw [← hdata, List.map_append, List.map_cons] at hnd
    intro hin
    exact (List.nodup_append.mp hnd).2.2 proc hin proc List.mem_cons_self rfl
  have hlt : xs.length < fuel := by
    rw [List.length_append, List.length_cons] at hfuel
    omega
  obtain ⟨q', hremove, -, hdead⟩ := hc.remove hnot hlt
  obtain ⟨closed, s', hcall, rfl⟩ := h.disconnect_of_remove sys hremove
  refine ⟨closed, s', hcall, ?_⟩
  unfold dataOf at hdead
  exact Option.map_eq_none_iff.mp hdead

end Body

/-! ## Where the loop comes to -/

/-- `accept` and `send` succeed. -/
def ConnectSys.connects (sys : ConnectSys) : Bool :=
  match sys.accept, sys.send with
  | .accepted _, .sent => true
  | _, _ => false

/-- The loop goes on to the next node, and the process stays in `used_list`. -/
def ScanSys.passes (sys : ScanSys) (zcCounter : Int) (s : CoordSlots) (proc : Nat) : Bool :=
  let p := s.processes proc
  if p.isSet sys.ready then p.state = .listening && (sys.connect proc).connects
  else ! (p.checked zcCounter s.freelistCount && sys.esrch proc)

/-- The processes that the loop comes to: up to the first one for which it does not go on. -/
def ScanSys.comesTo (sys : ScanSys) (zcCounter : Int) (s : CoordSlots) : List Nat → List Nat
  | [] => []
  | proc :: rest => proc :: if sys.passes zcCounter s proc then comesTo sys zcCounter s rest else []

/-- The process has a request waiting and is disconnected over it: `accept` answers
`ECONNABORTED`, or the ack `EPIPE`. -/
structure ScanSys.Aborts (sys : ScanSys) (s : CoordSlots) (proc : Nat) : Prop where
  ready : (s.processes proc).isSet sys.ready = true
  listening : (s.processes proc).state = .listening
  disconnects : (sys.connect proc).Disconnects

/-- Nothing that the loop looks at has changed but the process it has passed. -/
structure Passed (s s' : CoordSlots) (proc : Nat) : Prop where
  usedList : s'.usedList = s.usedList
  freelistCount : s'.freelistCount = s.freelistCount
  processes : ∀ j, j ≠ proc → s'.processes j = s.processes j

section Scan

variable {s s' : CoordSlots} {fl ul : List Nat} {proc : Nat} {sys : ScanSys} {zcCounter : Int}

theorem Passed.passes (h : Passed s s' proc) {j : Nat} (hj : j ≠ proc) :
    sys.passes zcCounter s' j = sys.passes zcCounter s j := by
  unfold ScanSys.passes
  rw [h.processes j hj, h.freelistCount]

theorem Passed.aborts (h : Passed s s' proc) {j : Nat} (hj : j ≠ proc) :
    sys.Aborts s' j ↔ sys.Aborts s j := by
  constructor
  · rintro ⟨hready, hlistening, hdis⟩
    rw [h.processes j hj] at hready hlistening
    exact ⟨hready, hlistening, hdis⟩
  · rintro ⟨hready, hlistening, hdis⟩
    rw [← h.processes j hj] at hready hlistening
    exact ⟨hready, hlistening, hdis⟩

theorem Passed.comesTo (h : Passed s s' proc) {l : List Nat} (hl : proc ∉ l) :
    sys.comesTo zcCounter s' l = sys.comesTo zcCounter s l := by
  induction l with
  | nil => rfl
  | cons j l ih =>
    rw [List.mem_cons, not_or] at hl
    rw [ScanSys.comesTo, ScanSys.comesTo, h.passes (Ne.symm hl.1), ih hl.2]

theorem ScanSys.comesTo_subset {l : List Nat} : ∀ j ∈ sys.comesTo zcCounter s l, j ∈ l := by
  induction l with
  | nil => exact fun _ hj => hj
  | cons i l ih =>
    intro j hj
    rw [ScanSys.comesTo] at hj
    rcases List.mem_cons.mp hj with rfl | hj
    · exact List.mem_cons_self
    · split at hj
      · exact List.mem_cons_of_mem _ (ih j hj)
      · cases hj

/-- Where the process is not disconnected in passing, the body keeps the lists in order, and
going on it keeps the nodes as well. -/
theorem scanBody_returns (h : SlotLists s fl ul) (hproc : proc ∈ ul) (fuel : Nat)
    (hno : ¬ sys.Aborts s proc) :
    (∃ s', scanBody fuel sys zcCounter s proc = .ok (some (.next s')) ∧
        sys.passes zcCounter s proc = true ∧ SlotLists s' fl ul ∧ Passed s s' proc) ∨
      sys.passes zcCounter s proc = false ∧
        Returns (scanBody fuel sys zcCounter s proc) fun after =>
          ∃ out fl' ul', after = .leave out ∧ SlotLists out.coord fl' ul' := by
  -- a process that is disconnected in a branch that leaves the loop
  have hleave : ∀ (dsys : DisconnectSys)
      (rest : Option (Bool × CoordSlots) → Except MemFault (Option AfterBody)),
      rest none = .ok none →
      (∀ closed t, ∃ running zc, rest (some (closed, t)) = .ok (some (.leave ⟨running, zc, t⟩))) →
      Returns (disconnectSlot fuel dsys s proc >>= rest) fun after =>
        ∃ out fl' ul', after = .leave out ∧ SlotLists out.coord fl' ul' := by
    intro dsys rest hnone hsome
    obtain ⟨o, hcall, hQ⟩ := h.disconnect_returns hproc fuel dsys
    rw [hcall]
    cases o with
    | none =>
      show Returns (rest none) _
      rw [hnone]
      exact .running
    | some r =>
      obtain ⟨closed, t⟩ := r
      obtain ⟨fl', hlists⟩ := hQ _ rfl
      obtain ⟨running, zc, hrest⟩ := hsome closed t
      show Returns (rest (some (closed, t))) _
      rw [hrest]
      exact .result ⟨_, fl', _, rfl, hlists⟩
  unfold scanBody ScanSys.passes
  by_cases hset : (s.processes proc).isSet sys.ready = true
  · simp only [hset, if_true]
    cases hstate : (s.processes proc).state with
    | listening =>
      simp only [decide_true, Bool.true_and]
      unfold connectToProcess ConnectSys.connects
      cases haccept : (sys.connect proc).accept with
      | failed =>
        exact .inr ⟨rfl, .result ⟨⟨false, zcCounter, s⟩, fl, ul, rfl, h⟩⟩
      | econnaborted => exact absurd ⟨hset, hstate, .inl haccept⟩ hno
      | accepted sd =>
        have haccepted : SlotLists (s.accept proc sd) fl ul := h.setProc rfl
        cases hsend : (sys.connect proc).send with
        | failed =>
          exact .inr ⟨rfl, .result ⟨⟨false, zcCounter, s.accept proc sd⟩, fl, ul, rfl, haccepted⟩⟩
        | epipe =>
          exact absurd ⟨hset, hstate, .inr ⟨by rw [haccept]; exact nofun, hsend⟩⟩ hno
        | sent =>
          refine .inl ⟨(s.accept proc sd).connect proc, rfl, rfl, haccepted.setProc rfl, rfl, rfl,
            fun j hj => ?_⟩
          exact (CoordSlots.setProc_ne _ _ hj).trans (CoordSlots.setProc_ne _ _ hj)
    | connected =>
      refine .inr ⟨rfl, hleave _ _ rfl fun closed t => ?_⟩
      exact ⟨closed, zcCounter, rfl⟩
    | unused => exact .inr ⟨rfl, .result ⟨⟨false, zcCounter, s⟩, fl, ul, rfl, h⟩⟩
    | invalid => exact .inr ⟨rfl, .result ⟨⟨false, zcCounter, s⟩, fl, ul, rfl, h⟩⟩
  · simp only [hset, Bool.false_eq_true, if_false]
    by_cases hzombie : ((s.processes proc).checked zcCounter s.freelistCount &&
        sys.esrch proc) = true
    · simp only [hzombie, if_true]
      refine .inr ⟨rfl, hleave _ _ rfl fun closed t => ?_⟩
      exact ⟨true, zcCounter - 1, rfl⟩
    · rw [Bool.not_eq_true] at hzombie
      simp only [hzombie, Bool.false_eq_true, if_false]
      exact .inl ⟨s, rfl, rfl, h, rfl, rfl, fun _ _ => rfl⟩

/-! ## The loop node by node -/

/-- What the loop reads from a node: the process, and the node behind it. -/
theorem ItcQueue.Chain.read_node {q : ItcQueue} {xs c : List (Nat × Nat)} {iter data : Nat}
    (hc : q.Chain (xs ++ (iter, data) :: c)) :
    ∃ prev, q.nodes.read iter = .ok ⟨(c.map Prod.fst).head?, prev, data⟩ := by
  have hcell := read_of_data (hc.data (iter, data) (by simp))
  have hlinked := hc.links.threaded.linked
  rw [List.map_append, List.map_cons] at hlinked
  have hnext : nextOf q.nodes iter = (c.map Prod.fst).head? := hlinked.of_append_right.1
  rw [hnext] at hcell
  exact ⟨_, Heap.read_of_live hcell⟩

/-- The process of a node is in the list, and in no node behind this one. -/
theorem SlotLists.node_data (h : SlotLists s fl ul) {xs c : List (Nat × Nat)} {iter : Nat}
    (hdata : (xs ++ (iter, proc) :: c).map Prod.snd = ul) :
    proc ∈ ul ∧ proc ∉ c.map Prod.snd := by
  rw [List.map_append, List.map_cons] at hdata
  have hnd := (List.nodup_append.mp h.nodup).2.1
  rw [← hdata] at hnd ⊢
  refine ⟨by simp, ?_⟩
  exact (List.nodup_cons.mp (List.nodup_append.mp hnd).2.1).1

/-- **A loop that comes to no process disconnected in passing faults nowhere**, and leaves the
lists in order. -/
theorem scanUsedList_returns (h : SlotLists s fl ul) {xs c : List (Nat × Nat)}
    (hc : s.usedList.Chain (xs ++ c)) (hdata : (xs ++ c).map Prod.snd = ul)
    (hno : ∀ i ∈ sys.comesTo zcCounter s (c.map Prod.snd), ¬ sys.Aborts s i) (fuel : Nat) :
    Returns (scanUsedList sys zcCounter fuel s (c.map Prod.fst).head?) fun out =>
      ∃ fl' ul', SlotLists out.coord fl' ul' := by
  induction c generalizing s xs fuel with
  | nil =>
    cases fuel with
    | zero => exact .running
    | succ fuel => exact .result ⟨fl, ul, h⟩
  | cons p c ih =>
    obtain ⟨iter, proc⟩ := p
    cases fuel with
    | zero => exact .running
    | succ fuel =>
      obtain ⟨prev, hread⟩ := hc.read_node
      obtain ⟨hproc, hnot⟩ := h.node_data hdata
      have hhere : ¬ sys.Aborts s proc := hno proc List.mem_cons_self
      simp only [List.map_cons, List.head?_cons, scanUsedList, hread, bind, Except.bind]
      rcases scanBody_returns h hproc fuel hhere with
        ⟨s', hbody, hpass, hlists, hpassed⟩ | ⟨-, o, hbody, hleave⟩
      · -- on to the next node, which is where it was
        rw [hbody]
        simp only [hpassed.usedList, hread]
        have hc' : s'.usedList.Chain ((xs ++ [(iter, proc)]) ++ c) := by
          rw [hpassed.usedList, List.append_assoc]
          exact hc
        apply ih hlists hc' (by simpa using hdata) ?_ fuel
        intro i hi
        rw [hpassed.comesTo hnot] at hi
        have hne : i ≠ proc := fun heq => hnot (heq ▸ ScanSys.comesTo_subset i hi)
        rw [hpassed.aborts hne]
        apply hno i
        rw [List.map_cons, ScanSys.comesTo, if_pos hpass]
        exact List.mem_cons_of_mem _ hi
      · rw [hbody]
        cases o with
        | none => exact .running
        | some after =>
          obtain ⟨out, fl', ul', rfl, hlists⟩ := hleave after rfl
          exact .result ⟨fl', ul', hlists⟩

/-- The body returns to the loop from a process that it has disconnected, and its node is gone. -/
theorem scanBody_aborts (h : SlotLists s fl ul) {c : List (Nat × Nat)} (hc : s.usedList.Chain c)
    (hdata : c.map Prod.snd = ul) {iter : Nat} (hmem : (iter, proc) ∈ c) {fuel : Nat}
    (hfuel : c.length ≤ fuel) (haborts : sys.Aborts s proc) :
    ∃ s', scanBody fuel sys zcCounter s proc = .ok (some (.next s')) ∧
      s'.usedList.nodes.cells iter = none := by
  obtain ⟨hset, hstate, hdis⟩ := haborts
  unfold scanBody
  simp only [hset, if_true, hstate]
  unfold connectToProcess
  cases haccept : (sys.connect proc).accept with
  | failed =>
    rcases hdis with hdis | ⟨hdis, -⟩
    · rw [haccept] at hdis
      cases hdis
    · exact absurd haccept hdis
  | econnaborted =>
    obtain ⟨closed, s', hcall, hdead⟩ :=
      disconnectSlot_frees h hc hdata hmem hfuel (sys.connect proc).disconnect
    simp only [hcall, bind, Except.bind]
    exact ⟨s', rfl, hdead⟩
  | accepted sd =>
    have hsend : (sys.connect proc).send = .epipe := by
      rcases hdis with hdis | ⟨-, hdis⟩
      · rw [haccept] at hdis
        cases hdis
      · exact hdis
    have haccepted : SlotLists (s.accept proc sd) fl ul := h.setProc rfl
    obtain ⟨closed, s', hcall, hdead⟩ :=
      disconnectSlot_frees haccepted hc hdata hmem hfuel (sys.connect proc).disconnect
    unfold CoordSlots.accept at hcall
    simp only [hsend, hcall, bind, Except.bind]
    exact ⟨s', rfl, hdead⟩

/-- **A loop that comes to such a process reads its node again**, which is free by then. -/
theorem scanUsedList_faults (h : SlotLists s fl ul) {xs c : List (Nat × Nat)}
    (hc : s.usedList.Chain (xs ++ c)) (hdata : (xs ++ c).map Prod.snd = ul) {i : Nat}
    (hi : i ∈ sys.comesTo zcCounter s (c.map Prod.snd)) (haborts : sys.Aborts s i) {fuel : Nat}
    (hfuel : (xs ++ c).length + c.length ≤ fuel) :
    scanUsedList sys zcCounter fuel s (c.map Prod.fst).head? = .error .useAfterFree := by
  induction c generalizing s xs fuel with
  | nil => cases hi
  | cons p c ih =>
    obtain ⟨iter, proc⟩ := p
    cases fuel with
    | zero =>
      rw [List.length_append, List.length_cons] at hfuel
      omega
    | succ fuel =>
      obtain ⟨prev, hread⟩ := hc.read_node
      obtain ⟨hproc, hnot⟩ := h.node_data hdata
      rw [List.length_cons] at hfuel
      simp only [List.map_cons, List.head?_cons, scanUsedList, hread, bind, Except.bind]
      by_cases hhere : sys.Aborts s proc
      · have hmem : (iter, proc) ∈ xs ++ (iter, proc) :: c := by simp
        have hlen : (xs ++ (iter, proc) :: c).length ≤ fuel := by omega
        obtain ⟨s', hbody, hdead⟩ := scanBody_aborts h hc hdata hmem hlen hhere
        have hfreed : s'.usedList.nodes.read iter = .error .useAfterFree := by
          rw [Heap.read, hdead]
        rw [hbody]
        simp only [hfreed]
      · have hrest : i ∈ sys.comesTo zcCounter s (c.map Prod.snd) ∧
            sys.passes zcCounter s proc = true := by
          rw [List.map_cons, ScanSys.comesTo] at hi
          rcases List.mem_cons.mp hi with rfl | hi
          · exact absurd haborts hhere
          · split at hi
            · rename_i hpass
              exact ⟨hi, hpass⟩
            · cases hi
        rcases scanBody_returns h hproc fuel hhere with
          ⟨s', hbody, -, hlists, hpassed⟩ | ⟨hpass, -⟩
        · have hne : i ≠ proc := fun heq => hnot (heq ▸ ScanSys.comesTo_subset i hrest.1)
          rw [hbody]
          simp only [hpassed.usedList, hread]
          have hc' : s'.usedList.Chain ((xs ++ [(iter, proc)]) ++ c) := by
            rw [hpassed.usedList, List.append_assoc]
            exact hc
          apply ih hlists hc' (by simpa using hdata) ?_ ((hpassed.aborts hne).mpr haborts) ?_
          · rw [hpassed.comesTo hnot]
            exact hrest.1
          · simp only [List.length_append, List.length_cons, List.length_nil] at hfuel ⊢
            omega
        · rw [hpass] at hrest
          cases hrest.2

end Scan

/-! ## The claim -/

/-- The loop reads no freed node, however far it gets. -/
def ScanSafe (sys : ScanSys) (zcCounter : Int) (s : CoordSlots) : Prop :=
  ∀ fuel, scanUsedList sys zcCounter fuel s s.usedList.head ≠ .error .useAfterFree

/-- **The scan reads no freed node just when it comes to no process that is disconnected in
passing**, over every `used_list` and whatever the system answers. -/
theorem scanUsedList_safe_iff {s : CoordSlots} {fl ul : List Nat} (h : SlotLists s fl ul)
    (sys : ScanSys) (zcCounter : Int) :
    ScanSafe sys zcCounter s ↔ ∀ proc ∈ sys.comesTo zcCounter s ul, ¬ sys.Aborts s proc := by
  obtain ⟨c, hc, rfl⟩ := h.used
  have hc' : s.usedList.Chain ([] ++ c) := hc
  have hhead : s.usedList.head = (c.map Prod.fst).head? := hc.links.threaded.head_eq
  constructor
  · intro hsafe proc hproc haborts
    apply hsafe (c.length + c.length)
    rw [hhead]
    exact scanUsedList_faults h hc' rfl hproc haborts (Nat.le_refl _)
  · intro hno fuel
    rw [hhead]
    exact (scanUsedList_returns h hc' rfl hno fuel).no_fault .useAfterFree

/-- A scan in which the socket of the first process is ready and `accept` gives `answer`. -/
def ScanSys.firstReady (answer : AcceptAnswer) : ScanSys where
  ready fd := fd = 6
  connect _ := ⟨answer, .sent, ⟨.closed, .unlinked, true⟩⟩
  disconnect _ := ⟨.closed, .unlinked, true⟩
  esrch _ := false

/-- One process listens, and is connected. -/
theorem scanUsedList_safe_iff_connected :
    ∃ s₀ s fl ul, CoordSlots.init 100 = .ok s₀ ∧
      Run (SlotEventStep 0x00100001) s₀ [.locate (.smooth 5 6 200)] s ∧ SlotLists s fl ul ∧
      ScanSafe (.firstReady (.accepted 7)) 0 s := by
  obtain ⟨s₀, hinit, hstart⟩ := CoordSlots.init_ok 100
  have hqueues : SlotQueues s₀ slotRange [] := ⟨hstart.free, hstart.used, hstart.rc⟩
  obtain ⟨s, hcall, -⟩ := hqueues.request 0x00100001 (by decide) 0 5 6 200
  have hrun : Run (SlotEventStep 0x00100001) s₀ [.locate (.smooth 5 6 200)] s :=
    .cons (.locate hcall) (.nil s)
  obtain ⟨fl, ul, hlists⟩ := slotEvents_lists hinit hrun
  refine ⟨s₀, s, fl, ul, hinit, hrun, hlists, ?_⟩
  apply (scanUsedList_safe_iff hlists _ 0).mpr
  rintro proc - ⟨-, -, hdis | ⟨-, hdis⟩⟩
  · cases hdis
  · cases hdis

/-- **`accept` answers `ECONNABORTED` for the only process**: the scan reads its node after
`q_remove` has freed it. -/
theorem scan_reads_freed_node :
    ∃ s₀ s, CoordSlots.init 100 = .ok s₀ ∧
      Run (SlotEventStep 0x00100001) s₀ [.locate (.smooth 5 6 200)] s ∧
      scanUsedList (.firstReady .econnaborted) 0 2 s s.usedList.head = .error .useAfterFree ∧
      ¬ ScanSafe (.firstReady .econnaborted) 0 s := by
  obtain ⟨s₀, hinit, hstart⟩ := CoordSlots.init_ok 100
  have hqueues : SlotQueues s₀ slotRange [] := ⟨hstart.free, hstart.used, hstart.rc⟩
  obtain ⟨s, hcall, -⟩ := hqueues.request 0x00100001 (by decide) 0 5 6 200
  have hfault : (CoordSlots.init 100 >>= fun s =>
      handleLocateCoordRequestReply 0 0x00100001 (.smooth 5 6 200) s >>= fun o =>
        o.elim (.ok none) fun out => scanUsedList (.firstReady .econnaborted) 0 2 out.coord
          out.coord.usedList.head).map (fun _ => ()) = .error .useAfterFree := by
    decide +kernel
  rw [hinit] at hfault
  change (handleLocateCoordRequestReply 0 0x00100001 (.smooth 5 6 200) s₀ >>= _).map _ = _ at hfault
  rw [hcall] at hfault
  have hscan : scanUsedList (.firstReady .econnaborted) 0 2 s s.usedList.head =
      .error .useAfterFree := fault_eq hfault
  exact ⟨s₀, s, hinit, .cons (.locate hcall) (.nil s), hscan, fun hsafe => hsafe 2 hscan⟩

end ItcFramework
