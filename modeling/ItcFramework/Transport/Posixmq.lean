import ItcFramework.Itc.Process
import ItcFramework.Lib.Transition
import ItcFramework.Transport.SysvmqDelivery

/-!
# The POSIX message-queue transport

Embedding of the buffer of `itc_posixmq.c`: the messages that have arrived in a process wait in
a tree ordered by their addresses, and `posixmq_receive` walks it by receiver.

* `processReceivedMessage`, `posixmqReceive`, `posixmqCreateMbox`, `posixmqDeleteMbox` — the
  functions.
* `FifoStep` — what the buffer should be: a FIFO for each mailbox.
* `Buffers` — along every run the tree holds the messages that have arrived and were not
  received.
* `posixmqBuffer_fifo_iff` — a run is a run of the FIFOs exactly when, at each receive, the
  oldest message of the mailbox compares with the messages above it by receiver as it does by
  address.
-/

set_option autoImplicit false

namespace ItcFramework

open ByteImage SearchTree Transition

def MAX_NUM_MESSAGES_ALLOWED_IN_TREE : UInt32 := 100

/-- The fields of `struct posixmq_instance` that buffer messages, and what lies at the addresses
that `itc_alloc` has given out. -/
structure PosixmqInst where
  messages : Nat → ItcMessage
  itcMessageBufferTree : SearchTree.Tree Nat
  numMessages : UInt32
  mActiveMboxTree : SearchTree.Tree Nat

def PosixmqInst.init : PosixmqInst := ⟨fun _ => ⟨0, 0, 0, 0, []⟩, .leaf, 0, .leaf⟩

/-! ## Functions -/

def compareMboxidInItcmessageTree (messages : Nat → ItcMessage) (mboxid : MboxId)
    (message : Nat) : Ordering :=
  if mboxid = (messages message).receiver then .eq
  else if mboxid > (messages message).receiver then .gt
  else .lt

def compareMsgInItcmessageTree (pa pb : Nat) : Ordering :=
  if pa = pb then .eq else if pa > pb then .gt else .lt

def compareMboxidInItcmailboxTree (mboxes : Nat → ItcMailbox) (mboxid : MboxId) (mbox : Nat) :
    Ordering :=
  if mboxid = (mboxes mbox).mboxId then .eq
  else if mboxid > (mboxes mbox).mboxId then .gt
  else .lt

/-- `compare_mbox_in_itcmailbox_tree`. -/
def compareMboxInItcmailboxTree (mboxes : Nat → ItcMailbox) (mbox1 mbox2 : Nat) : Ordering :=
  compareMboxidInItcmailboxTree mboxes (mboxes mbox1).mboxId mbox2

def notifyReceiverAboutMsgArrival (mboxes : Nat → ItcMailbox) (i : Nat) :
    Except MemFault (Nat → ItcMailbox) :=
  if ¬ (mboxes i).pRxqInfo then .error .nullDeref
  else .ok (Function.update mboxes i { mboxes i with rxqInfo := (mboxes i).rxqInfo.onSend })

/-- The part of `process_received_message` under `itc_message_buffer_mtx`. -/
def PosixmqInst.store (impl : TreeImpl Nat) (inst : PosixmqInst) (addr : Nat)
    (message : ItcMessage) : PosixmqInst :=
  { inst with
    messages := Function.update inst.messages addr message
    itcMessageBufferTree :=
      impl.tsearch (compareMsgInItcmessageTree addr) addr inst.itcMessageBufferTree
    numMessages := inst.numMessages + 1 }

/-- `process_received_message`; `addr` is what `itc_alloc` answers. -/
def processReceivedMessage (e : Endian) (a : Allocator) (impl : TreeImpl Nat)
    (inst : PosixmqInst) (mboxes : Nat → ItcMailbox) (addr : Nat) (rxBuffer : Bytes) (num : Nat) :
    Except MemFault (PosixmqInst × (Nat → ItcMailbox)) := do
  if num ≤ ITC_HEADER_SIZE then return (inst, mboxes)
  -- the check of the `ENDPOINT` and the copy are those of `forward_sysvmq_msg`
  match ← forwardSysvmqMsg e a rxBuffer with
  | none => return (inst, mboxes)
  | some message =>
      -- beyond the limit the copy is freed again
      if inst.numMessages > MAX_NUM_MESSAGES_ALLOWED_IN_TREE then return (inst, mboxes)
      let inst := inst.store impl addr message
      match inst.mActiveMboxTree.find (compareMboxidInItcmailboxTree mboxes message.receiver) with
      | none => return (inst, mboxes)
      | some i => do
          let mboxes ← notifyReceiverAboutMsgArrival mboxes i
          return (inst, mboxes)

def posixmqReceive (impl : TreeImpl Nat) (inst : PosixmqInst) (mboxId : MboxId) :
    Option Nat × PosixmqInst :=
  let c := compareMboxidInItcmessageTree inst.messages mboxId
  match inst.itcMessageBufferTree.find c with
  | none => (none, inst)
  | some message =>
      (some message, { inst with
        numMessages := inst.numMessages - 1
        itcMessageBufferTree := impl.tdelete c inst.itcMessageBufferTree })

/-- `posixmq_create_mbox`; a mailbox that is there already leaves the mutex locked, which
`none` stands for. -/
def posixmqCreateMbox (impl : TreeImpl Nat) (inst : PosixmqInst) (mboxes : Nat → ItcMailbox)
    (mailbox : Nat) : Option PosixmqInst :=
  match inst.mActiveMboxTree.find (compareMboxidInItcmailboxTree mboxes (mboxes mailbox).mboxId) with
  | some _ => none
  | none => some { inst with
      mActiveMboxTree :=
        impl.tsearch (compareMboxInItcmailboxTree mboxes mailbox) mailbox inst.mActiveMboxTree }

/-- `posixmq_delete_mbox`; a mailbox that is not there leaves the mutex locked. -/
def posixmqDeleteMbox (impl : TreeImpl Nat) (inst : PosixmqInst) (mboxes : Nat → ItcMailbox)
    (mailbox : Nat) : Option PosixmqInst :=
  match inst.mActiveMboxTree.find (compareMboxidInItcmailboxTree mboxes (mboxes mailbox).mboxId) with
  | none => none
  | some _ => some { inst with
      mActiveMboxTree :=
        impl.tdelete (compareMboxInItcmailboxTree mboxes mailbox) inst.mActiveMboxTree }

/-! ## Runs -/

/-- A message in the buffer: its address and what it is. -/
abbrev Arrival := Nat × ItcMessage

inductive BufferEvent where
  | insert (arrival : Arrival)
  | receive (mboxId : MboxId) (ret : Option Nat)

/-- The messages that wait, oldest first. -/
def waiting (l : List Arrival) : BufferEvent → List Arrival
  | .insert x => l ++ [x]
  | .receive _ none => l
  | .receive _ (some p) => l.eraseP fun x => x.1 == p

/-- The oldest message for a mailbox. -/
def oldestFor (mboxId : MboxId) (l : List Arrival) : Option Arrival :=
  l.find? fun x => x.2.receiver == mboxId

/-- A FIFO for each mailbox. -/
inductive FifoStep : List Arrival → BufferEvent → List Arrival → Prop where
  | insert (l : List Arrival) (x : Arrival) : FifoStep l (.insert x) (l ++ [x])
  | receive {l : List Arrival} {mboxId : MboxId} {x : Arrival} (hx : oldestFor mboxId l = some x) :
      FifoStep l (.receive mboxId (some x.1)) (l.eraseP fun y => y.1 == x.1)
  | none {l : List Arrival} {mboxId : MboxId} (hnone : oldestFor mboxId l = .none) :
      FifoStep l (.receive mboxId .none) l

variable {e : Endian} {a : Allocator} {impl : WalkImpl Nat}

/-- One call: a message is stored at an address that no waiting message has, below the limit,
whatever mailboxes there are; or a mailbox asks for one. -/
inductive BufferStep (e : Endian) (a : Allocator) (impl : WalkImpl Nat) :
    PosixmqInst → BufferEvent → PosixmqInst → Prop where
  | insert {s s' : PosixmqInst} {addr num : Nat} {m : ItcMessage} {rxBuffer : Bytes}
      {mboxes mboxes' : Nat → ItcMailbox} (hnum : ITC_HEADER_SIZE < num)
      (hcopy : forwardSysvmqMsg e a rxBuffer = .ok (some m))
      (hlimit : ¬ s.numMessages > MAX_NUM_MESSAGES_ALLOWED_IN_TREE)
      (haddr : addr ∉ s.itcMessageBufferTree.toList)
      (hcall : processReceivedMessage e a impl.toTreeImpl s mboxes addr rxBuffer num =
        .ok (s', mboxes')) :
      BufferStep e a impl s (.insert (addr, m)) s'
  | receive (s : PosixmqInst) (mboxId : MboxId) :
      BufferStep e a impl s (.receive mboxId (posixmqReceive impl.toTreeImpl s mboxId).1)
        (posixmqReceive impl.toTreeImpl s mboxId).2

/-- The instance with the messages that wait. -/
structure BufferState where
  inst : PosixmqInst
  arrived : List Arrival

def BufferState.Step (e : Endian) (a : Allocator) (impl : WalkImpl Nat) (t : BufferState)
    (ev : BufferEvent) (t' : BufferState) : Prop :=
  BufferStep e a impl t.inst ev t'.inst ∧ t'.arrived = waiting t.arrived ev

/-- The tree holds the waiting messages, by address. -/
structure Buffers (t : BufferState) : Prop where
  order : Ordered compare id t.inst.itcMessageBufferTree.toList
  mem : ∀ p, p ∈ t.inst.itcMessageBufferTree.toList ↔ p ∈ t.arrived.map Prod.fst
  nodup : (t.arrived.map Prod.fst).Nodup
  stored : ∀ x ∈ t.arrived, t.inst.messages x.1 = x.2
  num : t.inst.numMessages.toNat = t.arrived.length

theorem compareMsgInItcmessageTree_eq (p : Nat) :
    compareMsgInItcmessageTree p = byKey compare id p := by
  funext q
  rw [compareMsgInItcmessageTree, byKey, id, Nat.compare_eq_ite_lt]
  split_ifs <;> first | rfl | omega

theorem compareMboxidInItcmessageTree_eq_iff {messages : Nat → ItcMessage} {mboxId : MboxId}
    {p : Nat} :
    compareMboxidInItcmessageTree messages mboxId p = .eq ↔ (messages p).receiver = mboxId := by
  rw [compareMboxidInItcmessageTree]
  split_ifs with heq hgt
  · exact iff_of_true rfl heq.symm
  · exact iff_of_false (by decide) (Ne.symm heq)
  · exact iff_of_false (by decide) (Ne.symm heq)

theorem oldestFor_some {mboxId : MboxId} {l : List Arrival} {x : Arrival}
    (h : oldestFor mboxId l = some x) : x ∈ l ∧ x.2.receiver = mboxId :=
  ⟨List.mem_of_find?_eq_some h, by simpa using List.find?_some h⟩

theorem oldestFor_none {mboxId : MboxId} {l : List Arrival} (h : oldestFor mboxId l = none)
    {x : Arrival} (hx : x ∈ l) : x.2.receiver ≠ mboxId := by
  simpa using List.find?_eq_none.mp h x hx

/-- Below the limit a message is stored, whatever becomes of the notification. -/
theorem processReceivedMessage_stored {s s' : PosixmqInst} {addr num : Nat} {m : ItcMessage}
    {rxBuffer : Bytes} {mboxes mboxes' : Nat → ItcMailbox} {impl : TreeImpl Nat}
    (hnum : ITC_HEADER_SIZE < num) (hcopy : forwardSysvmqMsg e a rxBuffer = .ok (some m))
    (hlimit : ¬ s.numMessages > MAX_NUM_MESSAGES_ALLOWED_IN_TREE)
    (hcall : processReceivedMessage e a impl s mboxes addr rxBuffer num = .ok (s', mboxes')) :
    s' = s.store impl addr m := by
  simp only [processReceivedMessage, if_neg (Nat.not_le_of_lt hnum), hcopy, if_neg hlimit, bind,
    Except.bind, pure, Except.pure] at hcall
  split at hcall
  · rw [Except.ok.injEq, Prod.mk.injEq] at hcall
    exact hcall.1.symm
  · split at hcall
    · cases hcall
    · rw [Except.ok.injEq, Prod.mk.injEq] at hcall
      exact hcall.1.symm

/-- A FIFO step takes away what the receive returns. -/
theorem FifoStep.eq_waiting {l l' : List Arrival} {ev : BufferEvent} (h : FifoStep l ev l') :
    l' = waiting l ev := by
  cases h <;> rfl

theorem fifoStep_receive_iff {l : List Arrival} {mboxId : MboxId} {ret : Option Nat} :
    FifoStep l (.receive mboxId ret) (waiting l (.receive mboxId ret)) ↔
      ret = (oldestFor mboxId l).map Prod.fst := by
  constructor
  · intro h
    generalize waiting l (.receive mboxId ret) = l' at h
    cases h with
    | receive hx => rw [hx, Option.map_some]
    | none hnone => rw [hnone, Option.map_none]
  · rintro rfl
    cases hx : oldestFor mboxId l with
    | none => exact .none hx
    | some x => exact .receive hx

theorem posixmqReceive_none {impl : TreeImpl Nat} {inst : PosixmqInst} {mboxId : MboxId}
    (hfind : inst.itcMessageBufferTree.find
      (compareMboxidInItcmessageTree inst.messages mboxId) = none) :
    posixmqReceive impl inst mboxId = (none, inst) := by
  simp only [posixmqReceive, hfind]

theorem posixmqReceive_some {impl : TreeImpl Nat} {inst : PosixmqInst} {mboxId : MboxId} {p : Nat}
    (hfind : inst.itcMessageBufferTree.find
      (compareMboxidInItcmessageTree inst.messages mboxId) = some p) :
    posixmqReceive impl inst mboxId = (some p, { inst with
      numMessages := inst.numMessages - 1
      itcMessageBufferTree := impl.tdelete (compareMboxidInItcmessageTree inst.messages mboxId)
        inst.itcMessageBufferTree }) := by
  simp only [posixmqReceive, hfind]

theorem posixmqReceive_fst (impl : TreeImpl Nat) (inst : PosixmqInst) (mboxId : MboxId) :
    (posixmqReceive impl inst mboxId).1 =
      inst.itcMessageBufferTree.find (compareMboxidInItcmessageTree inst.messages mboxId) := by
  cases hfind : inst.itcMessageBufferTree.find
      (compareMboxidInItcmessageTree inst.messages mboxId) with
  | none => rw [posixmqReceive_none hfind]
  | some p => rw [posixmqReceive_some hfind]

namespace Buffers

variable {t t' : BufferState}

theorem init : Buffers ⟨.init, []⟩ where
  order := List.Pairwise.nil
  mem := by simp [PosixmqInst.init, SearchTree.Tree.toList]
  nodup := List.nodup_nil
  stored := by simp
  num := rfl

theorem insert (h : Buffers t) {addr : Nat} {m : ItcMessage}
    (hlimit : ¬ t.inst.numMessages > MAX_NUM_MESSAGES_ALLOWED_IN_TREE)
    (haddr : addr ∉ t.inst.itcMessageBufferTree.toList) :
    Buffers ⟨t.inst.store impl.toTreeImpl addr m, t.arrived ++ [(addr, m)]⟩ := by
  obtain ⟨horder, hmem⟩ := impl.tsearch_spec (a := addr) h.order
    fun x hx heq => haddr (Eq.mp (congrArg (· ∈ _) heq) hx)
  rw [PosixmqInst.store, compareMsgInItcmessageTree_eq]
  have hfresh : addr ∉ t.arrived.map Prod.fst := fun hin => haddr ((h.mem addr).mpr hin)
  refine ⟨horder, fun p => ?_, ?_, ?_, ?_⟩
  · rw [List.map_append, List.mem_append, ← h.mem p]
    refine (hmem p).trans ?_
    rw [List.map_singleton, List.mem_singleton]
    exact or_comm
  · rw [List.map_append, List.map_singleton]
    exact List.nodup_append.mpr ⟨h.nodup, List.nodup_singleton addr, by
      intro p hp q hq heq
      rw [heq, List.mem_singleton.mp hq] at hp
      exact hfresh hp⟩
  · intro x hx
    rcases List.mem_append.mp hx with hx | hx
    · have hne : x.1 ≠ addr := fun heq => hfresh (heq ▸ List.mem_map_of_mem hx)
      exact (Function.update_of_ne hne _ _).trans (h.stored x hx)
    · rw [List.mem_singleton.mp hx]
      exact Function.update_self _ _ _
  · have hle : t.inst.numMessages.toNat ≤ 100 :=
      UInt32.le_iff_toNat_le.mp (UInt32.not_lt.mp hlimit)
    have hnum := h.num
    rw [List.length_append, List.length_singleton]
    show (t.inst.numMessages + 1).toNat = _
    rw [UInt32.toNat_add, UInt32.toNat_one]
    omega

/-- Whatever `posixmq_receive` returns, this is what leaves the buffer. -/
theorem receive (h : Buffers t) (mboxId : MboxId) :
    Buffers ⟨(posixmqReceive impl.toTreeImpl t.inst mboxId).2,
      waiting t.arrived (.receive mboxId (posixmqReceive impl.toTreeImpl t.inst mboxId).1)⟩ := by
  cases hfind : t.inst.itcMessageBufferTree.find
      (compareMboxidInItcmessageTree t.inst.messages mboxId) with
  | none =>
    rw [posixmqReceive_none hfind]
    exact h
  | some p =>
    rw [posixmqReceive_some hfind]
    obtain ⟨horder, hmem⟩ := impl.tdelete_spec h.order hfind
    have hp : p ∈ t.arrived.map Prod.fst := (h.mem p).mp (SearchTree.Tree.find_some hfind).1
    have hlen := List.length_pos_of_mem hp
    have herase : (t.arrived.eraseP fun x => x.1 == p).map Prod.fst =
        (t.arrived.map Prod.fst).erase p := by
      rw [List.erase_eq_eraseP', List.eraseP_map]
      rfl
    refine ⟨horder, fun q => ?_, ?_, fun x hx => h.stored x (List.mem_of_mem_eraseP hx), ?_⟩
    · rw [waiting, herase, h.nodup.mem_erase_iff, ← h.mem q]
      exact hmem q
    · rw [waiting, herase]
      exact h.nodup.erase p
    · rw [List.length_map] at hlen
      rw [waiting, ← List.length_map (f := Prod.fst), herase, List.length_erase_of_mem hp,
        List.length_map, ← h.num]
      rw [← h.num] at hlen
      exact UInt32.toNat_sub_of_le _ _ (UInt32.le_iff_toNat_le.mpr hlen)

theorem step (h : Buffers t) {ev : BufferEvent} (hstep : t.Step e a impl ev t') : Buffers t' := by
  obtain ⟨inst', arrived'⟩ := t'
  obtain ⟨hcall, rfl⟩ := hstep
  cases hcall with
  | insert hnum hcopy hlimit haddr hcall =>
    obtain rfl := processReceivedMessage_stored hnum hcopy hlimit hcall
    exact h.insert hlimit haddr
  | receive mboxId => exact h.receive _

end Buffers

/-- The message compares by receiver as it does by address with every message above it in the
tree. -/
def AgreesAbove (inst : PosixmqInst) (x : Arrival) : Prop :=
  ∀ p ∈ inst.itcMessageBufferTree.visited (compareMsgInItcmessageTree x.1), p ≠ x.1 →
    compareMboxidInItcmessageTree inst.messages x.2.receiver p = compareMsgInItcmessageTree x.1 p

/-- A receive is made when the oldest message of the mailbox, if any, agrees with those above
it. -/
def OrdersAgree (t : BufferState) : BufferEvent → Prop
  | .insert _ => True
  | .receive mboxId _ => ∀ x, oldestFor mboxId t.arrived = some x → AgreesAbove t.inst x

namespace Buffers

variable {t t' : BufferState} {mboxId : MboxId}

theorem find_oldest_iff (h : Buffers t) {x : Arrival} (hx : oldestFor mboxId t.arrived = some x) :
    t.inst.itcMessageBufferTree.find (compareMboxidInItcmessageTree t.inst.messages mboxId) =
      some x.1 ↔ AgreesAbove t.inst x := by
  obtain ⟨hmem, rfl⟩ := oldestFor_some hx
  have htree := (h.mem x.1).mpr (List.mem_map_of_mem hmem)
  rw [find_iff_above h.order htree, AgreesAbove, compareMsgInItcmessageTree_eq]
  refine and_iff_right (compareMboxidInItcmessageTree_eq_iff.mpr ?_)
  rw [h.stored x hmem]

theorem find_none (h : Buffers t) (hnone : oldestFor mboxId t.arrived = none) :
    t.inst.itcMessageBufferTree.find (compareMboxidInItcmessageTree t.inst.messages mboxId) =
      none := by
  cases hfind : t.inst.itcMessageBufferTree.find
      (compareMboxidInItcmessageTree t.inst.messages mboxId) with
  | none => rfl
  | some p =>
    obtain ⟨hmem, heq⟩ := SearchTree.Tree.find_some hfind
    obtain ⟨x, hx, rfl⟩ := List.mem_map.mp ((h.mem p).mp hmem)
    rw [compareMboxidInItcmessageTree_eq_iff, h.stored x hx] at heq
    exact absurd heq (oldestFor_none hnone hx)

/-- **A call does what the FIFOs do exactly when the orders agree.** -/
theorem fifoStep_iff (h : Buffers t) {ev : BufferEvent} (hstep : t.Step e a impl ev t') :
    FifoStep t.arrived ev t'.arrived ↔ OrdersAgree t ev := by
  obtain ⟨inst', arrived'⟩ := t'
  obtain ⟨hcall, rfl⟩ := hstep
  cases hcall with
  | insert => exact iff_of_true (.insert _ _) trivial
  | receive mboxId =>
    rw [fifoStep_receive_iff, posixmqReceive_fst]
    cases hx : oldestFor mboxId t.arrived with
    | none =>
      refine iff_of_true (h.find_none hx) fun x hx' => ?_
      rw [hx] at hx'
      cases hx'
    | some x =>
      rw [Option.map_some, h.find_oldest_iff hx]
      constructor
      · intro hagree x' hx'
        rw [hx, Option.some.injEq] at hx'
        exact hx' ▸ hagree
      · exact fun hall => hall x hx

theorem fifo_of_guarded (h : Buffers t) {es : List BufferEvent}
    (hrun : Run (Guarded (BufferState.Step e a impl) OrdersAgree) t es t') :
    Run FifoStep t.arrived es t'.arrived := by
  induction hrun with
  | nil t => exact .nil t.arrived
  | cons hstep _ ih =>
    exact .cons ((h.fifoStep_iff hstep.2).mpr hstep.1) (ih (h.step hstep.2))

theorem guarded_of_fifo (h : Buffers t) {es : List BufferEvent}
    (hrun : Run (BufferState.Step e a impl) t es t') (hfifo : Run FifoStep t.arrived es t'.arrived) :
    Run (Guarded (BufferState.Step e a impl) OrdersAgree) t es t' := by
  induction hrun with
  | nil t => exact .nil t
  | cons hstep _ ih =>
    cases hfifo with
    | cons hhead htail =>
      obtain rfl := hhead.eq_waiting.trans hstep.2.symm
      exact .cons ⟨(h.fifoStep_iff hstep).mp hhead, hstep⟩ (ih (h.step hstep) htail)

end Buffers

/-- **The buffer is a FIFO for each mailbox exactly along the runs in which, at each receive, the
oldest message of the mailbox compares with those above it by receiver as by address.** Along
every run, what a receive returns is what leaves the buffer. -/
theorem posixmqBuffer_fifo_iff (e : Endian) (a : Allocator) (impl : WalkImpl Nat)
    (es : List BufferEvent) (t : BufferState)
    (hrun : Run (BufferState.Step e a impl) ⟨.init, []⟩ es t) :
    Buffers t ∧ (Run FifoStep [] es t.arrived ↔
      Run (Guarded (BufferState.Step e a impl) OrdersAgree) ⟨.init, []⟩ es t) :=
  ⟨hrun.invariant (fun _ _ _ h hstep => h.step hstep) .init,
    Buffers.init.guarded_of_fifo hrun, Buffers.init.fifo_of_guarded⟩

/-- A message for mailbox `toMbox`. -/
def arrivalFor (toMbox : MboxId) : UserMessage := .fresh .little 4 0 toMbox (by omega) (by omega)

theorem forwardSysvmqMsg_arrivalFor (toMbox : MboxId) :
    forwardSysvmqMsg .little .least ((arrivalFor toMbox).msg.image .little) =
      .ok (some (arrivalFor toMbox).msg) := by
  have himage := forwardSysvmqMsg_image (e := .little) (a := .least) (m := arrivalFor toMbox) []
    (show 4 + ITC_HEADER_SIZE + 1 ≤ ITC_MAX_MSGSIZE by decide)
  rwa [List.append_nil] at himage

/-- It is stored at an address that is free. -/
theorem bufferStep_arrivalFor {s : PosixmqInst} {addr : Nat} (toMbox : MboxId)
    (hlimit : ¬ s.numMessages > MAX_NUM_MESSAGES_ALLOWED_IN_TREE)
    (haddr : addr ∉ s.itcMessageBufferTree.toList) (hidle : s.mActiveMboxTree = .leaf) :
    BufferStep .little .least impl s (.insert (addr, (arrivalFor toMbox).msg))
      (s.store impl.toTreeImpl addr (arrivalFor toMbox).msg) := by
  have hcopy := forwardSysvmqMsg_arrivalFor toMbox
  have hnum : ITC_HEADER_SIZE < 100 := by decide
  have hcall : processReceivedMessage .little .least impl.toTreeImpl s
      (ItcInstance.init 1 1 0 ()).mboxes addr ((arrivalFor toMbox).msg.image .little) 100 =
      .ok (s.store impl.toTreeImpl addr (arrivalFor toMbox).msg,
        (ItcInstance.init 1 1 0 ()).mboxes) := by
    simp only [processReceivedMessage, if_neg (Nat.not_le_of_lt hnum), hcopy, if_neg hlimit, bind,
      Except.bind, pure, Except.pure, PosixmqInst.store, hidle, SearchTree.Tree.find]
  exact .insert hnum hcopy hlimit haddr hcall

/-- One message that is received. -/
theorem posixmqBuffer_fifo_iff_single :
    ∃ t, Run FifoStep []
      [.insert (10, (arrivalFor 1).msg), .receive 1 (some 10)] t.arrived ∧ Buffers t := by
  let impl := WalkImpl.plain Nat
  let t₁ : BufferState := ⟨PosixmqInst.init.store impl.toTreeImpl 10 (arrivalFor 1).msg,
    [(10, (arrivalFor 1).msg)]⟩
  have hinsert : BufferState.Step .little .least impl ⟨.init, []⟩
      (.insert (10, (arrivalFor 1).msg)) t₁ :=
    ⟨bufferStep_arrivalFor 1 (by decide) List.not_mem_nil rfl, rfl⟩
  have hret : (posixmqReceive impl.toTreeImpl t₁.inst 1).1 = some 10 := rfl
  have hreceive : BufferState.Step .little .least impl t₁ (.receive 1 (some 10))
      ⟨(posixmqReceive impl.toTreeImpl t₁.inst 1).2, []⟩ :=
    ⟨hret ▸ .receive t₁.inst 1, rfl⟩
  have hagree : OrdersAgree t₁ (.receive 1 (some 10)) := by
    intro x hx
    obtain rfl : (10, (arrivalFor 1).msg) = x := Option.some.inj hx
    intro p hp hne
    exact absurd (List.mem_singleton.mp hp) hne
  have hiff := posixmqBuffer_fifo_iff .little .least impl _ _ (.cons hinsert (.cons hreceive (.nil _)))
  exact ⟨_, hiff.2.mpr (.cons ⟨trivial, hinsert⟩ (.cons ⟨hagree, hreceive⟩ (.nil _))), hiff.1⟩

/-- A waiting message is not found: the message for mailbox 2 lies above the one for mailbox 1 in
the tree, at a smaller address. -/
theorem waiting_message_not_received :
    ∃ t, Run (BufferState.Step .little .least (.plain Nat)) ⟨.init, []⟩
        [.insert (10, (arrivalFor 2).msg), .insert (20, (arrivalFor 1).msg), .receive 1 none] t ∧
      ¬ Run FifoStep []
        [.insert (10, (arrivalFor 2).msg), .insert (20, (arrivalFor 1).msg), .receive 1 none]
        t.arrived := by
  let impl := WalkImpl.plain Nat
  let t₁ : BufferState := ⟨PosixmqInst.init.store impl.toTreeImpl 10 (arrivalFor 2).msg,
    [(10, (arrivalFor 2).msg)]⟩
  let t₂ : BufferState := ⟨t₁.inst.store impl.toTreeImpl 20 (arrivalFor 1).msg,
    [(10, (arrivalFor 2).msg), (20, (arrivalFor 1).msg)]⟩
  have hret : (posixmqReceive impl.toTreeImpl t₂.inst 1).1 = none := rfl
  have hinsert₁ : BufferState.Step .little .least impl ⟨.init, []⟩
      (.insert (10, (arrivalFor 2).msg)) t₁ :=
    ⟨bufferStep_arrivalFor 2 (by decide) List.not_mem_nil rfl, rfl⟩
  have hinsert₂ : BufferState.Step .little .least impl t₁ (.insert (20, (arrivalFor 1).msg)) t₂ :=
    ⟨bufferStep_arrivalFor 1 (by decide) (by decide) rfl, rfl⟩
  have hreceive : BufferState.Step .little .least impl t₂ (.receive 1 none)
      ⟨(posixmqReceive impl.toTreeImpl t₂.inst 1).2, t₂.arrived⟩ :=
    ⟨hret ▸ .receive t₂.inst 1, rfl⟩
  refine ⟨_, .cons hinsert₁ (.cons hinsert₂ (.cons hreceive (.nil _))), fun hfifo => ?_⟩
  cases hfifo with
  | cons h₁ hfifo =>
    cases h₁
    cases hfifo with
    | cons h₂ hfifo =>
      cases h₂
      cases hfifo with
      | cons h₃ _ =>
        cases h₃ with
        | none hnone => cases hnone

end ItcFramework
