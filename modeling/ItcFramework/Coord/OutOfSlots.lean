import ItcFramework.Coord.Handshake

/-!
# Requests while no slot is free

`handle_locate_coord_request` (`itccoord.c`) once more, with the reply that it sends and with its
branches for no process, under the main loop that exits when the handler returns false.

* `handleLocateCoordRequestReply_state` — without the reply it is the handler of `Coord.Slots`.
* `exhaust` — 253 requests empty `free_list`.
* `outOfSlots_survived_iff` — the coordinator survives an empty `free_list` only as long as
  nobody asks: `q_dequeue` sets `ITC_QUEUE_EMPTY`, the handler takes it for a failure, and the
  reply with `ITC_NO_MBOX_ID` is never reached.
-/

set_option autoImplicit false

namespace ItcFramework

open ByteImage HeapModel Transition

/-! ## The handler with its reply -/

/-- `struct itc_locate_coord_reply`. -/
structure LocateCoordReply where
  myMboxIdInItccoord : MboxId
  itccoordMask : UInt32
  itccoordMboxId : MboxId
  deriving DecidableEq, Repr

/-- What a call of the handler comes to: the reply it has sent, what it returns, and the slots. -/
structure LocateOutcome where
  reply : Option LocateCoordReply
  returned : Bool
  coord : CoordSlots

/-- The answer of the coordinator `mboxId` to a request, `tmp` being the slot it gives. -/
def locateCoordReply (mboxId : MboxId) (s : CoordSlots) : Option Nat → LocateCoordReply
  | none => ⟨ITC_NO_MBOX_ID, ITC_COORD_MASK, mboxId⟩
  | some tmp => ⟨(s.processes tmp).mboxIdInItccoord, ITC_COORD_MASK, mboxId⟩

/-- From `malloc` of the reply on. After `EPIPE` the trace reads `tmp->pid` before `tmp` is
compared with `NULL`. -/
def sendLocateCoordReply (fuel : Nat) (mboxId : MboxId) (sys : LocateSys) (s : CoordSlots)
    (tmp : Option Nat) : Except MemFault (Option LocateOutcome) :=
  if ! sys.mallocReply then .ok (some ⟨none, false, s⟩)
  else
    match sys.send with
    | .failed => .ok (some ⟨none, false, s⟩)
    | .epipe => do
        let proc ← deref tmp
        let some (_, s) ← disconnectSlot fuel sys.disconnect s proc | return none
        return some ⟨none, false, s⟩
    | .sent => .ok (some ⟨some (locateCoordReply mboxId s tmp), sys.close, s⟩)

/-- What is done for `tmp != NULL`; false where the handler returns. -/
def giveSlot (sys : LocateSys) (s : CoordSlots) (pid : Int) (tmp : Nat) :
    Except MemFault (Bool × CoordSlots) := do
  let s := { s with freelistCount := s.freelistCount - 1 }
  let (rc, usedList) ← qEnqueue sys.node s.rc s.usedList tmp
  let s := { s with rc, usedList }
  if rc ≠ ITC_OK then return (false, s)
  let s := s.setProc tmp { s.processes tmp with pid }
  match sys.socket with
  | none => return (false, s)
  | some sockfd =>
      let s := s.setProc tmp { s.processes tmp with sockfd }
      if ! (sys.bind && sys.chmod && sys.listen) then return (false, s)
      return (true, s.setProc tmp { s.processes tmp with state := .listening })

def locateSlotReply (fuel : Nat) (mboxId : MboxId) (sys : LocateSys) (s : CoordSlots)
    (pid : Int) : Except MemFault (Option LocateOutcome) := do
  let (rc, tmp, freeList) ← qDequeue s.rc s.freeList
  let s := { s with rc, freeList }
  if rc ≠ ITC_OK then return some ⟨none, false, s⟩
  match tmp with
  | none => sendLocateCoordReply fuel mboxId sys s none
  | some proc =>
      let (given, s) ← giveSlot sys s pid proc
      if ! given then return some ⟨none, false, s⟩
      sendLocateCoordReply fuel mboxId sys s (some proc)

/-- `handle_locate_coord_request`. -/
def handleLocateCoordRequestReply (fuel : Nat) (mboxId : MboxId) (sys : LocateSys)
    (s : CoordSlots) : Except MemFault (Option LocateOutcome) :=
  match sys.accept with
  | .econnaborted => .ok (some ⟨none, true, s⟩)
  | .failed => .ok (some ⟨none, false, s⟩)
  | .accepted _ =>
      if ! sys.mallocRequest then .ok (some ⟨none, false, s⟩)
      else
        match sys.recv with
        | .short true => .ok (some ⟨none, true, s⟩)
        | .short false => locateSlotReply fuel mboxId sys s (-1)
        | .unknown => .ok (some ⟨none, false, s⟩)
        | .request myPid => locateSlotReply fuel mboxId sys s myPid

/-- The main loop while only requests come in: one that is refused is its last. The replies are
those to the requests that were handled. -/
def serveRequests (fuel : Nat) (mboxId : MboxId) : CoordSlots → List LocateSys →
    Except MemFault (Option (List (Option LocateCoordReply) × Bool × CoordSlots))
  | s, [] => .ok (some ([], true, s))
  | s, sys :: rest => do
      let some out ← handleLocateCoordRequestReply fuel mboxId sys s | return none
      if ! out.returned then return some ([out.reply], false, out.coord)
      let some (replies, running, s) ← serveRequests fuel mboxId out.coord rest | return none
      return some (out.reply :: replies, running, s)

/-! ## The handler without its reply -/

/-- What `Coord.Slots` keeps of an outcome. -/
def LocateOutcome.state (out : LocateOutcome) : Bool × CoordSlots := (out.returned, out.coord)

theorem qDequeue_some {rc : UInt32} {q q' : ItcQueue} {data : Option Nat}
    (hcall : qDequeue rc q = .ok (ITC_OK, data, q')) : ∃ d, data = some d := by
  unfold qDequeue at hcall
  split at hcall
  · have hflag := (UInt32.or_eq_zero_iff.mp (Prod.mk.inj (Except.ok.inj hcall)).1).2
    exact absurd hflag (by decide)
  · obtain ⟨node, -, hcall⟩ := bind_eq_ok hcall
    split at hcall
    · obtain ⟨nodes, -, hcall⟩ := bind_eq_ok hcall
      exact ⟨_, (Prod.mk.inj (Prod.mk.inj (Except.ok.inj hcall)).2).1.symm⟩
    · obtain ⟨second, -, hcall⟩ := bind_eq_ok hcall
      obtain ⟨n, -, hcall⟩ := bind_eq_ok hcall
      split at hcall
      · have hflag := (UInt32.or_eq_zero_iff.mp (Prod.mk.inj (Except.ok.inj hcall)).1).2
        exact absurd hflag (by decide)
      · obtain ⟨nodes, -, hcall⟩ := bind_eq_ok hcall
        obtain ⟨nodes', -, hcall⟩ := bind_eq_ok hcall
        exact ⟨_, (Prod.mk.inj (Prod.mk.inj (Except.ok.inj hcall)).2).1.symm⟩

theorem locateSlotReply_state (fuel : Nat) (mboxId : MboxId) (sys : LocateSys) (s : CoordSlots)
    (pid : Int) :
    (locateSlotReply fuel mboxId sys s pid).map (Option.map LocateOutcome.state) =
      locateSlot fuel sys s pid := by
  unfold locateSlotReply locateSlot
  cases hdeq : qDequeue s.rc s.freeList with
  | error fault => rfl
  | ok out =>
    obtain ⟨rc, tmp, freeList⟩ := out
    simp only [bind, Except.bind]
    by_cases hrc : rc = ITC_OK
    · subst hrc
      obtain ⟨proc, rfl⟩ := qDequeue_some hdeq
      simp only [ne_eq, not_true_eq_false, if_false, deref, giveSlot, bind, Except.bind]
      cases henq : qEnqueue sys.node ITC_OK s.usedList proc with
      | error fault => rfl
      | ok out =>
        obtain ⟨rc', usedList⟩ := out
        by_cases hrc' : rc' = ITC_OK
        · subst hrc'
          simp only [not_true_eq_false, if_false]
          cases sys.socket with
          | none => rfl
          | some sockfd =>
            simp only
            by_cases hlisten : (sys.bind && sys.chmod && sys.listen) = true
            · simp only [hlisten, Bool.not_true, Bool.false_eq_true, if_false, pure, Except.pure,
                sendLocateCoordReply]
              by_cases hmalloc : sys.mallocReply = true
              · simp only [hmalloc, Bool.not_true, Bool.false_eq_true, if_false]
                cases sys.send with
                | failed => rfl
                | sent => rfl
                | epipe =>
                  simp only [deref, bind, Except.bind]
                  generalize disconnectSlot fuel sys.disconnect _ proc = call
                  cases call with
                  | error fault => rfl
                  | ok o =>
                    cases o with
                    | none => rfl
                    | some r => rfl
              · simp only [hmalloc, Bool.not_false, if_true]
                rfl
            · simp only [hlisten, Bool.not_false, if_true]
              rfl
        · simp only [hrc', not_false_eq_true, if_true]
          rfl
    · simp only [ne_eq, hrc, not_false_eq_true, if_true]
      rfl

/-- **Without its reply the handler is the one of the slots.** -/
theorem handleLocateCoordRequestReply_state (fuel : Nat) (mboxId : MboxId) (sys : LocateSys)
    (s : CoordSlots) :
    (handleLocateCoordRequestReply fuel mboxId sys s).map (Option.map LocateOutcome.state) =
      handleLocateCoordRequest fuel sys s := by
  unfold handleLocateCoordRequestReply handleLocateCoordRequest
  cases sys.accept with
  | econnaborted => rfl
  | failed => rfl
  | accepted sd =>
    simp only
    split
    · rfl
    · cases sys.recv with
      | unknown => rfl
      | request myPid => exact locateSlotReply_state ..
      | short socketClosed =>
        cases socketClosed with
        | true => rfl
        | false => exact locateSlotReply_state ..

/-! ## Steps -/

inductive SlotEvent where
  | locate (sys : LocateSys)
  | connect (proc : Nat) (sys : ConnectSys)
  | disconnect (proc : Nat) (sys : DisconnectSys)
  /-- Of a process that `kill` has not found; what `disconnect_from_process` returns is not looked
  at. -/
  | zombie (proc : Nat) (sys : DisconnectSys)

/-- A call of the main loop after which it goes on, whatever the system has answered. -/
inductive SlotEventStep (mboxId : MboxId) (s : CoordSlots) :
    SlotEvent → CoordSlots → Prop where
  | locate {sys : LocateSys} {s' : CoordSlots} {fuel : Nat} {reply : Option LocateCoordReply}
      (h : handleLocateCoordRequestReply fuel mboxId sys s = .ok (some ⟨reply, true, s'⟩)) :
      SlotEventStep mboxId s (.locate sys) s'
  | connect {proc : Nat} {sys : ConnectSys} {s' : CoordSlots} {fuel : Nat}
      (hused : s.usedList.Contains proc)
      (h : connectToProcess fuel sys s proc = .ok (some (true, s'))) :
      SlotEventStep mboxId s (.connect proc sys) s'
  | disconnect {proc : Nat} {sys : DisconnectSys} {s' : CoordSlots} {fuel : Nat}
      (hused : s.usedList.Contains proc)
      (h : disconnectSlot fuel sys s proc = .ok (some (true, s'))) :
      SlotEventStep mboxId s (.disconnect proc sys) s'
  | zombie {proc : Nat} {sys : DisconnectSys} {s' : CoordSlots} {fuel : Nat} {closed : Bool}
      (hused : s.usedList.Contains proc)
      (h : disconnectSlot fuel sys s proc = .ok (some (closed, s'))) :
      SlotEventStep mboxId s (.zombie proc sys) s'

/-! ## What the lists keep -/

section Lists

variable {s s' : CoordSlots} {fl ul : List Nat} {mboxId : MboxId}

theorem SlotLists.located_any (h : SlotLists s fl ul) {fuel : Nat} {sys : LocateSys} {pid : Int}
    (hcall : locateSlot fuel sys s pid = .ok (some (true, s'))) :
    ∃ fl' ul', SlotLists s' fl' ul' := by
  have hdeq : ∃ rc proc freeList, qDequeue s.rc s.freeList = .ok (rc, some proc, freeList) := by
    unfold locateSlot at hcall
    obtain ⟨⟨rc, tmp, freeList⟩, hdeq, hcall⟩ := bind_eq_ok hcall
    simp only at hcall
    split at hcall
    · cases hcall
    · obtain ⟨proc, hproc, -⟩ := bind_eq_ok hcall
      rw [deref_eq_ok hproc] at hdeq
      exact ⟨rc, proc, freeList, hdeq⟩
  obtain ⟨rc, proc, freeList, hdeq⟩ := hdeq
  cases hsocket : sys.socket with
  | some sockfd =>
    obtain ⟨-, ⟨fl', hlists⟩, -, -⟩ := h.located hsocket hcall hdeq
    exact ⟨fl', _, hlists⟩
  | none =>
    unfold locateSlot at hcall
    obtain ⟨⟨rc, tmp, freeList⟩, -, hcall⟩ := bind_eq_ok hcall
    simp only at hcall
    split at hcall
    · cases hcall
    · obtain ⟨proc, -, hcall⟩ := bind_eq_ok hcall
      obtain ⟨⟨rc', usedList⟩, -, hcall⟩ := bind_eq_ok hcall
      simp only [hsocket] at hcall
      split at hcall
      · cases hcall
      · cases hcall

/-- A call that returns true has disconnected the process, before or after `accept`, or connected
it. -/
theorem connectToProcess_cases {proc fuel : Nat} {sys : ConnectSys}
    (hcall : connectToProcess fuel sys s proc = .ok (some (true, s'))) :
    (∃ t closed, (t = s ∨ ∃ sd, t = s.accept proc sd) ∧
        disconnectSlot fuel sys.disconnect t proc = .ok (some (closed, s'))) ∨
      ∃ sd, s' = (s.accept proc sd).connect proc := by
  unfold connectToProcess at hcall
  split at hcall
  · cases hcall
  · obtain ⟨r, hdis, hcall⟩ := bind_some_eq_ok hcall rfl
    cases hcall
    exact .inl ⟨s, _, .inl rfl, hdis⟩
  · rename_i sd haccept
    simp only at hcall
    split at hcall
    · cases hcall
    · obtain ⟨r, hdis, hcall⟩ := bind_some_eq_ok hcall rfl
      cases hcall
      exact .inl ⟨s.accept proc sd, _, .inr ⟨sd, rfl⟩, hdis⟩
    · cases hcall
      exact .inr ⟨sd, rfl⟩

theorem SlotLists.connected_any (h : SlotLists s fl ul) {proc : Nat} (hproc : proc ∈ ul)
    {fuel : Nat} {sys : ConnectSys}
    (hcall : connectToProcess fuel sys s proc = .ok (some (true, s'))) :
    ∃ fl' ul', SlotLists s' fl' ul' := by
  rcases connectToProcess_cases hcall with ⟨t, closed, ht, hdis⟩ | ⟨sd, rfl⟩
  · have hlists : SlotLists t fl ul := by
      rcases ht with rfl | ⟨sd, rfl⟩
      · exact h
      · exact h.setProc rfl
    obtain ⟨⟨fl', hlists'⟩, -⟩ := hlists.disconnected hproc hdis
    exact ⟨fl', _, hlists'⟩
  · have haccept : SlotLists (s.accept proc sd) fl ul := h.setProc rfl
    exact ⟨fl, ul, haccept.setProc rfl⟩

theorem SlotLists.event (h : SlotLists s fl ul) {act : SlotEvent}
    (hstep : SlotEventStep mboxId s act s') : ∃ fl' ul', SlotLists s' fl' ul' := by
  have hmem : ∀ {proc : Nat}, s.usedList.Contains proc → proc ∈ ul := by
    rintro proc ⟨l, hl, hproc⟩
    rwa [h.used.unique hl]
  cases hstep with
  | @locate sys _ fuel reply hcall =>
    have hstate := handleLocateCoordRequestReply_state fuel mboxId sys s
    rw [hcall] at hstate
    by_cases hserved : sys.Served
    · obtain ⟨pid, hlocate, -⟩ := handleLocateCoordRequest_served hserved hstate.symm
      exact h.located_any hlocate
    · obtain rfl : s' = s := handleLocateCoordRequest_ignored hserved hstate.symm
      exact ⟨fl, ul, h⟩
  | connect hused hcall => exact h.connected_any (hmem hused) hcall
  | disconnect hused hcall =>
    obtain ⟨⟨fl', hlists⟩, -⟩ := h.disconnected (hmem hused) hcall
    exact ⟨fl', _, hlists⟩
  | zombie hused hcall =>
    obtain ⟨⟨fl', hlists⟩, -⟩ := h.disconnected (hmem hused) hcall
    exact ⟨fl', _, hlists⟩

end Lists

/-- The two queues hold these slots and no call has set a flag. -/
structure SlotQueues (s : CoordSlots) (fl ul : List Nat) : Prop where
  free : s.freeList.Holds fl
  used : s.usedList.Holds ul
  rc : s.rc = ITC_OK

namespace SlotQueues

variable {s : CoordSlots} {fl ul : List Nat} {proc : Nat} (mboxId : MboxId)

/-- A request is given the first free slot. -/
theorem request (h : SlotQueues s (proc :: fl) ul) (hlen : ul.length < 253) (fuel : Nat)
    (sd sockfd pid : Int) :
    ∃ s', handleLocateCoordRequestReply fuel mboxId (.smooth sd sockfd pid) s =
        .ok (some ⟨some ⟨(s.processes proc).mboxIdInItccoord, ITC_COORD_MASK, mboxId⟩, true, s'⟩) ∧
      SlotQueues s' fl (ul ++ [proc]) := by
  obtain ⟨freeList, hdeq, hfree⟩ := ItcQueue.qDequeue_cons h.free ITC_OK
  obtain ⟨usedList, henq, hused⟩ := ItcQueue.qEnqueue_spec h.used (by omega) proc
  have hcall : handleLocateCoordRequestReply fuel mboxId (.smooth sd sockfd pid) s =
      locateSlotReply fuel mboxId (.smooth sd sockfd pid) s pid := rfl
  rw [hcall, locateSlotReply, h.rc, hdeq]
  simp only [bind, Except.bind, ne_eq, not_true_eq_false, if_false, giveSlot, LocateSys.smooth,
    henq, Bool.and_self, Bool.not_true, Bool.false_eq_true, pure, Except.pure,
    sendLocateCoordReply, locateCoordReply, CoordSlots.setProc_self]
  exact ⟨_, rfl, hfree, hused, rfl⟩

/-- A slot that is released is the only free one. -/
theorem disconnect (h : SlotQueues s [] ul) (hproc : proc ∈ ul) {sys : DisconnectSys}
    (hcloses : sys.Closes) (hnode : sys.node = true) :
    ∃ fuel s', disconnectSlot fuel sys s proc = .ok (some (true, s')) ∧
      SlotQueues s' [proc] (ul.erase proc) ∧
      (s'.processes proc).mboxIdInItccoord = (s.processes proc).mboxIdInItccoord := by
  obtain ⟨usedList, hremove, hused⟩ := ItcQueue.qRemove_spec h.used hproc (Nat.lt_succ_self _)
  obtain ⟨freeList, henq, hfree⟩ := ItcQueue.qEnqueue_spec h.free (by decide) proc
  let freed : CoordSlots := { s with
    usedList, freeList, rc := ITC_OK
    freelistCount := s.freelistCount + 1
    processes := Function.update s.processes proc
      { s.processes proc with state := .unused, pid := -1, sockfd := -1 } }
  refine ⟨ul.length + 1, freed, ?_, ⟨hfree, hused, rfl⟩, ?_⟩
  · rw [disconnectSlot, hremove]
    simp only [bind, Except.bind, closeSocketConnection_closes hcloses, CoordSlots.setProc, hnode,
      h.rc, henq, Bool.not_true, Bool.false_eq_true, if_false]
    rfl
  · show (Function.update s.processes proc _ proc).mboxIdInItccoord = _
    rw [Function.update_self]

/-- **Enough requests empty `free_list`**, and the coordinator goes on. -/
theorem exhaust (sd sockfd pid : Int) (h : SlotQueues s fl ul)
    (hlen : fl.length + ul.length ≤ 253) :
    ∃ s', Run (SlotEventStep mboxId) s
        (List.replicate fl.length (.locate (.smooth sd sockfd pid))) s' ∧
      SlotQueues s' [] (ul ++ fl) := by
  induction fl generalizing s ul with
  | nil => exact ⟨s, .nil s, by rwa [List.append_nil]⟩
  | cons proc fl ih =>
    rw [List.length_cons] at hlen
    obtain ⟨s₁, hcall, h₁⟩ := h.request mboxId (by omega) 0 sd sockfd pid
    obtain ⟨s', hrun, h'⟩ := ih h₁ (by rw [List.length_append, List.length_singleton]; omega)
    refine ⟨s', ?_, ?_⟩
    · rw [List.length_cons, List.replicate_succ]
      exact .cons (.locate hcall) hrun
    · rwa [List.append_assoc] at h'

end SlotQueues

/-! ## The claim -/

/-- The request of a process has reached the handler. -/
def LocateSys.Arrives (sys : LocateSys) : Prop :=
  (∃ sd, sys.accept = .accepted sd) ∧ sys.mallocRequest = true ∧ ∃ pid, sys.recv = .request pid

/-- Every one of the requests is answered with `ITC_NO_MBOX_ID` and changes nothing; and once a
process has been disconnected, its slot goes to the next request. -/
structure Survives (mboxId : MboxId) (s : CoordSlots) (reqs : List LocateSys) : Prop where
  answered : ∃ fuel, serveRequests fuel mboxId s reqs =
    .ok (some (List.replicate reqs.length (some (locateCoordReply mboxId s none)), true, s))
  granted : ∀ proc, s.usedList.Contains proc → ∀ sys : DisconnectSys, sys.Closes →
    sys.node = true → ∀ sd sockfd pid, ∃ fuel s₁ s₂,
      disconnectSlot fuel sys s proc = .ok (some (true, s₁)) ∧
      handleLocateCoordRequestReply fuel mboxId (.smooth sd sockfd pid) s₁ =
        .ok (some ⟨some (locateCoordReply mboxId s (some proc)), true, s₂⟩) ∧
      s₂.usedList.Contains proc

section Refused

variable {mboxId : MboxId} {s : CoordSlots} {fuel : Nat} {sys : LocateSys}

/-- A flag that is set when the slot has been dequeued ends the coordinator. -/
theorem locateSlotReply_refused {pid : Int} {out : LocateOutcome}
    (hflag : ∀ {tmp freeList}, qDequeue s.rc s.freeList ≠ .ok (ITC_OK, tmp, freeList))
    (hcall : locateSlotReply fuel mboxId sys s pid = .ok (some out)) :
    out.reply = none ∧ out.returned = false := by
  unfold locateSlotReply at hcall
  obtain ⟨⟨rc, tmp, freeList⟩, hdeq, hcall⟩ := bind_eq_ok hcall
  have hrc : rc ≠ ITC_OK := by
    rintro rfl
    exact hflag hdeq
  simp only [ne_eq, hrc, not_false_eq_true, if_true] at hcall
  cases hcall
  exact ⟨rfl, rfl⟩

theorem arrives_eq (mboxId : MboxId) (s : CoordSlots) (fuel : Nat) (h : sys.Arrives) :
    ∃ pid, handleLocateCoordRequestReply fuel mboxId sys s =
      locateSlotReply fuel mboxId sys s pid := by
  obtain ⟨⟨sd, haccept⟩, hmalloc, pid, hrecv⟩ := h
  refine ⟨pid, ?_⟩
  rw [handleLocateCoordRequestReply, haccept]
  simp only [hmalloc, Bool.not_true, Bool.false_eq_true, if_false, hrecv]

/-- On an empty `free_list` the flag is `ITC_QUEUE_EMPTY`. -/
theorem empty_flag (hempty : s.freeList.head = none) {tmp : Option Nat} {freeList : ItcQueue} :
    qDequeue s.rc s.freeList ≠ .ok (ITC_OK, tmp, freeList) := by
  intro hdeq
  obtain ⟨d, rfl⟩ := qDequeue_some hdeq
  rw [qDequeue, hempty] at hdeq
  cases (Prod.mk.inj (Prod.mk.inj (Except.ok.inj hdeq)).2).1

/-- No request is answered. -/
theorem request_not_answered (hempty : s.freeList.head = none) (h : sys.Arrives) {reqs : List LocateSys}
    {replies : List (Option LocateCoordReply)} {s' : CoordSlots} :
    serveRequests fuel mboxId s (sys :: reqs) ≠ .ok (some (replies, true, s')) := by
  intro hserve
  rw [serveRequests] at hserve
  obtain ⟨out, hcall, hserve⟩ := bind_some_eq_ok hserve rfl
  obtain ⟨pid, heq⟩ := arrives_eq mboxId s fuel h
  rw [heq] at hcall
  obtain ⟨-, hreturned⟩ := locateSlotReply_refused (empty_flag hempty) hcall
  simp only [hreturned, Bool.not_false, if_true] at hserve
  cases hserve

/-- `disconnect_from_process` clears no flag. -/
theorem disconnectSlot_rc {sys : DisconnectSys} {proc : Nat} {closed : Bool} {s' : CoordSlots}
    (hcall : disconnectSlot fuel sys s proc = .ok (some (closed, s'))) (hrc : s'.rc = ITC_OK) :
    s.rc = ITC_OK := by
  unfold disconnectSlot at hcall
  obtain ⟨usedList, -, hcall⟩ := bind_some_eq_ok hcall rfl
  simp only at hcall
  split at hcall
  · cases hcall
    exact hrc
  · obtain ⟨⟨rc, freeList⟩, henq, hcall⟩ := bind_eq_ok hcall
    cases hcall
    exact (SlotLists.qEnqueue_rc henq hrc).1

end Refused

theorem LocateSys.smooth_arrives (sd sockfd pid : Int) :
    (LocateSys.smooth sd sockfd pid).Arrives :=
  ⟨⟨sd, rfl⟩, rfl, pid, rfl⟩

/-- The lists of a state that the coordinator reaches. -/
theorem slotEvents_lists {pid : Int} {s₀ s : CoordSlots} (hinit : CoordSlots.init pid = .ok s₀)
    {mboxId : MboxId} {acts : List SlotEvent} (hrun : Run (SlotEventStep mboxId) s₀ acts s) :
    ∃ fl ul, SlotLists s fl ul := by
  obtain ⟨s₀', hinit', hstart⟩ := CoordSlots.init_ok pid
  obtain rfl := Except.ok.inj (hinit.symm.trans hinit')
  have hlists : SlotLists s₀ slotRange [] := by
    refine ⟨fun _ => hstart.free, hstart.used, hstart.states.nodup, fun i hi => ?_,
      fun i hi => ?_⟩
    · rwa [List.append_nil] at hi
    · rw [slotId]
      exact hstart.states.id i hi
  refine hrun.invariant (I := fun t => ∃ fl ul, SlotLists t fl ul) ?_ ⟨_, _, hlists⟩
  rintro t act t' ⟨fl, ul, ht⟩ hstep
  exact ht.event hstep

/-- **The coordinator survives an empty `free_list` just as long as no request comes in**: in every
state that it reaches with an empty `free_list`, whatever the system has answered, the requests
are answered and the next slot that is released is given away just when there is no request and
no flag is left in `rc` from before (or no process is left to disconnect). -/
theorem outOfSlots_survived_iff {pid : Int} {s₀ s : CoordSlots}
    (hinit : CoordSlots.init pid = .ok s₀) {mboxId : MboxId} {acts : List SlotEvent}
    (hrun : Run (SlotEventStep mboxId) s₀ acts s) (hempty : s.freeList.head = none)
    {reqs : List LocateSys} (hreqs : ∀ sys ∈ reqs, sys.Arrives) :
    Survives mboxId s reqs ↔
      reqs = [] ∧ (s.rc = ITC_OK ∨ ∀ proc, ¬ s.usedList.Contains proc) := by
  obtain ⟨fl, ul, hlists⟩ := slotEvents_lists hinit hrun
  constructor
  · intro h
    constructor
    · cases reqs with
      | nil => rfl
      | cons sys reqs =>
        obtain ⟨fuel, hserve⟩ := h.answered
        exact absurd hserve (request_not_answered hempty (hreqs sys List.mem_cons_self))
    · by_contra hnot
      rw [not_or] at hnot
      obtain ⟨hrc, hproc⟩ := hnot
      obtain ⟨proc, hproc⟩ : ∃ proc, s.usedList.Contains proc := by
        by_contra hnone
        exact hproc fun proc hcontains => hnone ⟨proc, hcontains⟩
      -- the flag outlives the disconnection and ends the coordinator at the next request
      obtain ⟨fuel, s₁, s₂, hdis, hcall, -⟩ := h.granted proc hproc ⟨.closed, .unlinked, true⟩
        ⟨by decide, by decide⟩ rfl 5 6 200
      have hrc₁ : s₁.rc ≠ ITC_OK := fun heq => hrc (disconnectSlot_rc hdis heq)
      have hflag : ∀ {tmp freeList}, qDequeue s₁.rc s₁.freeList ≠ .ok (ITC_OK, tmp, freeList) :=
        fun hdeq => hrc₁ (SlotLists.qDequeue_rc hdeq rfl)
      have hrefused : locateSlotReply fuel mboxId (.smooth 5 6 200) s₁ 200 =
          .ok (some ⟨some (locateCoordReply mboxId s (some proc)), true, s₂⟩) := hcall
      obtain ⟨-, hreturned⟩ := locateSlotReply_refused hflag hrefused
      cases hreturned
  · rintro ⟨rfl, hrc⟩
    refine ⟨⟨0, rfl⟩, fun proc hproc sys hcloses hnode sd sockfd pid => ?_⟩
    have hrc : s.rc = ITC_OK := hrc.resolve_right fun hnone => hnone proc hproc
    obtain ⟨l, hl, hmem⟩ := hproc
    obtain rfl := hlists.used.unique hl
    -- an empty `free_list` holds no slot
    have hfree := hlists.free hrc
    obtain rfl : fl = [] := by
      obtain ⟨c, hc, rfl⟩ := hfree
      have hnil := hc.links.threaded.head_none_iff.mp hempty
      rw [List.map_eq_nil_iff.mp hnil, List.map_nil]
    have hqueues : SlotQueues s [] ul := ⟨hfree, hlists.used, hrc⟩
    obtain ⟨fuel, s₁, hdis, h₁, hid⟩ := hqueues.disconnect hmem hcloses hnode
    have hlen : (ul.erase proc).length < 253 := by
      have hle := hlists.length_le
      have hpos := List.length_pos_of_mem hmem
      rw [List.length_erase_of_mem hmem]
      omega
    obtain ⟨s₂, hcall, h₂⟩ := h₁.request mboxId hlen fuel sd sockfd pid
    rw [hid] at hcall
    exact ⟨fuel, s₁, s₂, hdis, hcall, _, h₂.used, List.mem_append_right _ List.mem_cons_self⟩

/-- The coordinator after the 253 requests that it can grant. -/
theorem outOfSlots_reached (mboxId : MboxId) :
    ∃ s₀ s, CoordSlots.init 100 = .ok s₀ ∧
      Run (SlotEventStep mboxId) s₀ (List.replicate 253 (.locate (.smooth 5 6 200))) s ∧
      SlotQueues s [] slotRange := by
  obtain ⟨s₀, hinit, hstart⟩ := CoordSlots.init_ok 100
  have hqueues : SlotQueues s₀ slotRange [] := ⟨hstart.free, hstart.used, hstart.rc⟩
  have hlen : slotRange.length = 253 := List.length_range'
  obtain ⟨s, hrun, h⟩ := hqueues.exhaust mboxId 5 6 200 (by rw [hlen, List.length_nil])
  rw [hlen] at hrun
  exact ⟨s₀, s, hinit, hrun, h⟩

theorem SlotQueues.empty {s : CoordSlots} {ul : List Nat} (h : SlotQueues s [] ul) :
    s.freeList.head = none := by
  obtain ⟨c, hc, hnil⟩ := h.free
  rw [List.map_eq_nil_iff] at hnil
  subst hnil
  exact hc.links.threaded.head_none_iff.mpr rfl

/-- All slots are taken: the coordinator goes on while nobody asks, and does not outlive two more
requests. -/
theorem outOfSlots_survived_iff_requests :
    ∃ s₀ s, CoordSlots.init 100 = .ok s₀ ∧
      Run (SlotEventStep 0x00100001) s₀ (List.replicate 253 (.locate (.smooth 5 6 200))) s ∧
      s.freeList.head = none ∧ Survives 0x00100001 s [] ∧
      ¬ Survives 0x00100001 s [.smooth 5 6 200, .smooth 7 8 300] := by
  obtain ⟨s₀, s, hinit, hrun, h⟩ := outOfSlots_reached 0x00100001
  refine ⟨s₀, s, hinit, hrun, h.empty, ?_, fun hsurvives => ?_⟩
  · exact (outOfSlots_survived_iff hinit hrun h.empty fun _ hsys => absurd hsys
      List.not_mem_nil).mpr ⟨rfl, .inl h.rc⟩
  · have harrive : ∀ sys ∈ [LocateSys.smooth 5 6 200, .smooth 7 8 300], sys.Arrives :=
      List.forall_mem_cons.mpr ⟨LocateSys.smooth_arrives 5 6 200,
        List.forall_mem_singleton.mpr (LocateSys.smooth_arrives 7 8 300)⟩
    obtain ⟨hno, -⟩ := (outOfSlots_survived_iff hinit hrun h.empty harrive).mp hsurvives
    cases hno

/-- **The 254th request gets no reply and ends the coordinator.** -/
theorem request_ends_coordinator :
    ∃ s₀ s s', CoordSlots.init 100 = .ok s₀ ∧
      Run (SlotEventStep 0x00100001) s₀ (List.replicate 253 (.locate (.smooth 5 6 200))) s ∧
      s.freeList.head = none ∧
      serveRequests 0 0x00100001 s [.smooth 5 6 200] = .ok (some ([none], false, s')) ∧
      ¬ Survives 0x00100001 s [.smooth 5 6 200] := by
  obtain ⟨s₀, s, hinit, hrun, h⟩ := outOfSlots_reached 0x00100001
  refine ⟨s₀, s, { s with rc := ITC_OK ||| ITC_QUEUE_EMPTY }, hinit, hrun, h.empty, ?_,
    fun hsurvives => ?_⟩
  · have hcall : handleLocateCoordRequestReply 0 0x00100001 (.smooth 5 6 200) s =
        locateSlotReply 0 0x00100001 (.smooth 5 6 200) s 200 := rfl
    rw [serveRequests, hcall, locateSlotReply, h.rc, ItcQueue.qDequeue_nil h.free]
    rfl
  · obtain ⟨fuel, hserve⟩ := hsurvives.answered
    exact request_not_answered h.empty (LocateSys.smooth_arrives 5 6 200) hserve

end ItcFramework
