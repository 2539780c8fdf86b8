import ItcFramework.Coord.Recycling
import ItcFramework.Itc.Locate

/-!
# Answering locate requests

Embedding of `handle_locate_mbox` (`itccoord.c`) over the registry, with the exchange with the
gateway in the middle. What the ITC calls answer is an argument; the result is the list of
messages that `itc_send` has taken.

* `ItccoordInst.TreeOk` — what holds of `mbox_tree` in every state, whoever removes what.
* `Finds` — the mailboxes that a search finds: here, or by the lookups on the other hosts.
* `locateMbox_answered_iff` — when a request gets its reply: the handler returns without one where
  the gateway is not registered, cannot be asked, keeps silent or is overtaken by another message,
  and passes on whatever id the gateway's reply has.
* `finds_of_gatewayReplies` — a reply to this very search is right unless a lookup for it ran out
  of time.
-/

set_option autoImplicit false

namespace ItcFramework

open ByteImage HeapModel SearchTree Transition

/-! ## The handler -/

/-- What the calls of `handle_locate_mbox` answer. -/
structure LocateMboxSys where
  /-- The `itc_send` to the gateway. -/
  sendRequest : Bool
  /-- `itc_receive(timeout)`: the next message for the coordinator, whoever has sent it. -/
  receive : UInt32 → Option ItcMessage
  /-- The `itc_send` to `from_mbox`. -/
  sendReply : Bool
  /-- What is in `pid`, which the search through the gateway leaves unset. -/
  uninitPid : UInt32

/-- A message with the mailbox it is sent to. -/
abbrev Outgoing := MboxId × ItcMessage

/-- `tfind` in `mbox_tree`, and the mailbox that is found. -/
def tfindMbox (s : ItccoordInst) (name : CString) : Except MemFault (Option ItcMboxInfo) := do
  let c := mboxNameCmpfunc s.heap name
  match ← walk s.heap c s.mboxTree (s.mboxTree.find c) with
  | none => return none
  | some mbox => return some (← s.heap.read mbox)

/-- What is taken from the gateway's message: `none` when it is not a reply. The namespace is
copied into a `char namespace[ITC_MAX_NAME_LENGTH]`. -/
def readGatewayReply (e : Endian) (m : ItcMessage) :
    Except MemFault (Option (MboxId × CString)) := do
  let msgno ← m.msgno e
  if msgno ≠ ITC_LOCATE_MBOX_FROM_ITCGWS_REPLY then return none
  let mboxId ← load32 e m.body 4
  let ns ← strAt m.body offMboxname
  if ns.strlen + 1 > ITC_MAX_NAME_LENGTH then .error .outOfBounds
  else return some (mboxId, ns)

/-- The end of the handler. -/
def sendLocateReply (e : Endian) (a : Allocator) (sys : LocateMboxSys) (fromMbox mboxId : MboxId)
    (pid : UInt32) (isExternal : Bool) (ns : CString) : Except MemFault (List Outgoing) := do
  let msg ← locateMboxSyncReply e a mboxId pid isExternal ns
  return if sys.sendReply then [(fromMbox, msg)] else []

/-- The search through the gateway. -/
def locateThroughGateway (e : Endian) (a : Allocator) (sys : LocateMboxSys) (s : ItccoordInst)
    (itccoordMboxId fromMbox : MboxId) (timeout : UInt32) (name : CString) :
    Except MemFault (List Outgoing) := do
  let req ← idNameMsg e a ITC_LOCATE_MBOX_FROM_ITCGWS_REQUEST itccoordMboxId name
  match ← tfindMbox s ITC_GATEWAY_MBOX_TCP_CLI_NAME with
  | none => return []
  | some itcgw =>
      if ! sys.sendRequest then return []
      let sent := [(itcgw.mboxId, req)]
      match sys.receive timeout with
      | none => return sent
      | some m =>
          match ← readGatewayReply e m with
          | none => return sent
          | some (mboxId, ns) =>
              let reply ← sendLocateReply e a sys fromMbox mboxId sys.uninitPid true ns
              return sent ++ reply

def handleLocateMbox (e : Endian) (a : Allocator) (sys : LocateMboxSys) (w : CoordLife)
    (itccoordMboxId fromMbox : MboxId) (timeout : UInt32) (findOnlyInternal : Bool)
    (name : CString) : Except MemFault (List Outgoing) := do
  match ← tfindMbox w.inst name with
  | none =>
      if findOnlyInternal then
        sendLocateReply e a sys fromMbox ITC_NO_MBOX_ID (UInt32.ofInt (-1)) false .empty
      else locateThroughGateway e a sys w.inst itccoordMboxId fromMbox timeout name
  | some mbox =>
      match ← findProcess mbox.mboxId with
      | none => return []
      | some proc =>
          if (w.inst.processes proc).state ≠ .connected then return []
          let pid := UInt32.ofInt (w.pids proc)
          sendLocateReply e a sys fromMbox mbox.mboxId pid false .empty

/-! ## The tree of all mailboxes -/

/-- What `mbox_tree` keeps over every run: it is ordered and holds live mailboxes only. -/
structure ItccoordInst.TreeOk (s : ItccoordInst) : Prop where
  ordered : Ordered CString.strcmp (mboxName s.heap) s.mboxTree.toList
  live : ∀ mbox ∈ s.mboxTree.toList, ∃ info, s.heap.cells mbox = some info
  slots : ∀ proc, proc ∈ s.freeList ∨ proc ∈ s.usedList ∨ s.Connected proc →
    proc < MAX_SUPPORTED_PROCESSES

namespace ItccoordInst

variable {s s' : ItccoordInst}

theorem Inv.treeOk (h : s.Inv) : s.TreeOk where
  ordered := h.ordered
  live _ hmbox := (h.live hmbox).imp fun _ hi => hi.1
  slots := h.slots

theorem TreeOk.walk_ok (h : s.TreeOk) {β : Type} (c : Nat → Ordering) (r : β) :
    walk s.heap c s.mboxTree r = .ok r := by
  apply ItcFramework.walk_ok
  intro mbox hmbox
  obtain ⟨info, hinfo⟩ := h.live mbox hmbox
  rw [hinfo]
  rfl

/-- The slots and their states are those of a state before. -/
theorem TreeOk.slots_kept (h : s.TreeOk) (hkept : s.SlotsKept s') (proc : Nat)
    (hproc : proc ∈ s'.freeList ∨ proc ∈ s'.usedList ∨ s'.Connected proc) :
    proc < MAX_SUPPORTED_PROCESSES := by
  apply h.slots proc
  rwa [hkept.freeList, hkept.usedList, hkept.connected] at hproc

theorem TreeOk.addMbox (h : s.TreeOk) {impl : TreeImpl Nat} {mboxId : MboxId} {name : CString}
    (hcall : handleAddMbox impl s mboxId name = .ok s') : s'.TreeOk := by
  have hkept := handleAddMbox_kept hcall
  have hkeep : ∀ mbox ∈ s.mboxTree.toList, ∃ info, s.heap.cells mbox = some info ∧
      (s.heap.push ⟨mboxId, name⟩).cells mbox = some info := fun mbox hmbox =>
    (h.live mbox hmbox).imp fun _ hinfo => ⟨hinfo, Heap.push_of_live hinfo⟩
  have hord : Ordered CString.strcmp (mboxName (s.heap.push ⟨mboxId, name⟩))
      s.mboxTree.toList := by
    refine h.ordered.congr fun mbox hmbox => ?_
    obtain ⟨info, hinfo, hinfo'⟩ := hkeep mbox hmbox
    rw [mboxName_of_live hinfo, mboxName_of_live hinfo']
  rcases handleAddMbox_cases hcall with rfl | rfl | ⟨proc, list, -, hfind, rfl⟩
  · exact h
  · exact ⟨hord, fun mbox hmbox => (hkeep mbox hmbox).imp fun _ hi => hi.2, h.slots_kept hkept⟩
  · have hfresh : ∀ mbox ∈ s.mboxTree.toList, mboxName (s.heap.push ⟨mboxId, name⟩) mbox ≠
        mboxName (s.heap.push ⟨mboxId, name⟩) s.heap.next := by
      intro mbox hmbox heq
      have hfound := (find_byKey hord).mpr ⟨hmbox, heq⟩
      rw [mboxNameCmpfunc2_eq, hfound] at hfind
      cases hfind
    obtain ⟨hord', hmem⟩ := impl.tsearch_spec hord hfresh
    refine ⟨hord', fun mbox hmbox => ?_, h.slots_kept hkept⟩
    rcases (hmem mbox).mp hmbox with rfl | hold
    · exact ⟨_, Heap.push_next _ _⟩
    · exact (hkeep mbox hold).imp fun _ hi => hi.2

theorem TreeOk.rmvMbox (h : s.TreeOk) {impl : TreeImpl Nat} {mboxId : MboxId} {name : CString}
    (hcall : handleRemoveMbox impl s mboxId name = .ok s') : s'.TreeOk := by
  have hkept := handleRemoveMbox_kept hcall
  rcases handleRemoveMbox_cases hcall with ⟨rfl, -⟩ | ⟨proc, mbox, heap, list, -, hfind, hfree, rfl⟩
  · exact h
  · obtain ⟨hmbox, hname⟩ := (find_byKey h.ordered).mp hfind
    obtain ⟨info, hinfo⟩ := h.live mbox hmbox
    obtain ⟨heap', hfree', -, hframe, -⟩ := Heap.free_of_live hinfo
    rw [hfree] at hfree'
    cases hfree'
    obtain ⟨hord, hmem⟩ := impl.tdelete_spec h.ordered hmbox
    rw [hname] at hord hmem
    have hkeep : ∀ m ∈ (impl.tdelete (mboxNameCmpfunc s.heap name) s.mboxTree).toList,
        heap.cells m = s.heap.cells m := fun m hm => hframe m ((hmem m).mp hm).1
    refine ⟨hord.congr fun m hm => (keys_of_frame (hkeep m hm)).1, fun m hm => ?_,
      h.slots_kept hkept⟩
    have hcell : heap.cells m = s.heap.cells m := hkeep m hm
    show ∃ info, heap.cells m = some info
    rw [hcell]
    exact h.live m ((hmem m).mp hm).2

/-- The callback of `twalk` over a list of any mailboxes: they all leave `mbox_tree`, together with
others of the same names. -/
theorem foldlM_deleteCounterpart_gone {impl : TreeImpl Nat} {heap : Heap ItcMboxInfo}
    {mboxTree mboxTree' : SearchTree.Tree Nat} {l : List Nat}
    (hord : Ordered CString.strcmp (mboxName heap) mboxTree.toList)
    (hcall : l.foldlM (deleteCounterpartMailboxesInMailboxtree impl heap) mboxTree =
      .ok mboxTree') :
    Ordered CString.strcmp (mboxName heap) mboxTree'.toList ∧
      ∀ mbox ∈ mboxTree'.toList, mbox ∈ mboxTree.toList ∧ mbox ∉ l := by
  induction l generalizing mboxTree with
  | nil =>
    cases hcall
    exact ⟨hord, fun mbox hmbox => ⟨hmbox, List.not_mem_nil⟩⟩
  | cons pnode l ih =>
    rw [List.foldlM_cons] at hcall
    obtain ⟨mboxTree₁, hdel, hcall⟩ := bind_eq_ok hcall
    -- one callback
    obtain ⟨hord₁, hmem₁⟩ : Ordered CString.strcmp (mboxName heap) mboxTree₁.toList ∧
        ∀ mbox ∈ mboxTree₁.toList, mbox ∈ mboxTree.toList ∧ mbox ≠ pnode := by
      unfold deleteCounterpartMailboxesInMailboxtree at hdel
      obtain ⟨info, hread, hdel⟩ := bind_eq_ok hdel
      have hinfo := Heap.live_of_read hread
      obtain ⟨found, hfound, hdel⟩ := bind_eq_ok hdel
      have hfind := walk_eq hfound
      rw [mboxNameCmpfunc_eq] at hfind
      cases found with
      | none =>
        cases hdel
        refine ⟨hord, fun mbox hmbox => ⟨hmbox, ?_⟩⟩
        rintro rfl
        have hself := (find_byKey hord).mpr ⟨hmbox, mboxName_of_live hinfo⟩
        rw [← hfind] at hself
        cases hself
      | some mbox' =>
        obtain rfl := walk_eq hdel
        obtain ⟨hmbox', hname⟩ := (find_byKey hord).mp hfind.symm
        obtain ⟨hord', hmem'⟩ := impl.tdelete_spec hord hmbox'
        rw [hname] at hord' hmem'
        refine ⟨hord', fun mbox hmbox => ?_⟩
        obtain ⟨hne, hold⟩ := (hmem' mbox).mp hmbox
        refine ⟨hold, ?_⟩
        rintro rfl
        have hself := (find_byKey hord).mpr ⟨hold, mboxName_of_live hinfo⟩
        exact hne (Option.some.inj (hself.symm.trans hfind.symm))
    obtain ⟨hord', hmem'⟩ := ih hord₁ hcall
    refine ⟨hord', fun mbox hmbox => ?_⟩
    obtain ⟨hold, hnot⟩ := hmem' mbox hmbox
    obtain ⟨hold, hne⟩ := hmem₁ mbox hold
    exact ⟨hold, fun hmem => (List.mem_cons.mp hmem).elim hne hnot⟩

theorem TreeOk.disconnect (h : s.TreeOk) {impl : TreeImpl Nat} {proc : Nat}
    (hproc : proc ∈ s.usedList) (hcall : disconnectFromProcess impl s proc = .ok s')
    {freeList : List Nat} (hfree : freeList.Sublist s'.freeList) :
    ({ s' with freeList } : ItccoordInst).TreeOk := by
  obtain ⟨list, heap, mboxTree, htree, hheap, rfl⟩ := disconnectFromProcess_release hcall
  obtain ⟨hord, hmem⟩ := foldlM_deleteCounterpart_gone h.ordered htree
  have hkeep : ∀ m ∈ mboxTree.toList, heap.cells m = s.heap.cells m := fun m hm =>
    Heap.foldlM_free_frame hheap m (hmem m hm).2
  refine ⟨hord.congr fun m hm => (keys_of_frame (hkeep m hm)).1, fun m hm => ?_, fun i hi => ?_⟩
  · show ∃ info, heap.cells m = some info
    rw [hkeep m hm]
    exact h.live m (hmem m hm).1
  · have hused := h.slots proc (.inr (.inl hproc))
    rcases hi with hi | hi | hi
    · have hi : i ∈ s.freeList ++ [proc] := hfree.subset hi
      rcases List.mem_append.mp hi with hi | hi
      · exact h.slots i (.inl hi)
      · rwa [List.mem_singleton.mp hi]
    · exact h.slots i (.inr (.inl (List.mem_of_mem_erase hi)))
    · by_cases hip : i = proc
      · rwa [hip]
      · have hconn : ((s.release proc list heap mboxTree).processes i).state = .connected := hi
        rw [release, setProc_ne _ _ hip] at hconn
        exact h.slots i (.inr (.inr hconn))

theorem TreeOk.setState (h : s.TreeOk) {proc : Nat} (hproc : proc < MAX_SUPPORTED_PROCESSES)
    (state : ProcessState) {freeList usedList : List Nat}
    (hsub : ∀ i, i ∈ freeList ∨ i ∈ usedList → i ∈ s.freeList ∨ i ∈ s.usedList) :
    (({ s with freeList, usedList } : ItccoordInst).setState proc state).TreeOk := by
  refine ⟨h.ordered, h.live, fun i hi => ?_⟩
  by_cases hip : i = proc
  · rwa [hip]
  · rcases hi with hi | hi | hi
    · exact h.slots i ((hsub i (.inl hi)).imp_right .inl)
    · exact h.slots i ((hsub i (.inr hi)).imp_right .inl)
    · rw [Connected, ItccoordInst.setState, setProc_ne _ _ hip] at hi
      exact h.slots i (.inr (.inr hi))

end ItccoordInst

/-- **Every state that the coordinator reaches has its tree in order.** -/
theorem treeOk_of_run {impl : TreeImpl Nat} {pid : Int} {as : List LifeAction} {w : CoordLife}
    (hrun : Run (LifeStep impl) (.init pid) as w) : w.inst.TreeOk := by
  refine hrun.invariant (I := fun w => w.inst.TreeOk) (fun w act w' h hstep => ?_)
    ItccoordInst.Inv.init.treeOk
  cases hstep with
  | lose hused hcall =>
    refine h.disconnect hused hcall ?_
    obtain ⟨list, heap, mboxTree, -, -, rfl⟩ := ItccoordInst.disconnectFromProcess_release hcall
    exact List.sublist_append_left ..
  | abandon hused hstate =>
    exact h.setState (h.slots _ (.inr (.inl hused))) _ fun i hi =>
      hi.imp_right List.mem_of_mem_erase
  | @locate inst proc rest myPid hfree hcoord =>
    cases hcoord with
    | @locateCoord proc' rest' hfree' =>
      have hmem : proc' ∈ w.inst.freeList := by
        rw [hfree']
        exact List.mem_cons_self
      refine h.setState (h.slots _ (.inl hmem)) _ fun i hi => ?_
      rcases hi with hi | hi
      · exact .inl (by rw [hfree']; exact List.mem_cons_of_mem _ hi)
      · rcases List.mem_append.mp hi with hi | hi
        · exact .inr hi
        · rw [List.mem_singleton.mp hi]
          exact .inl hmem
  | @serve inst act hact hcoord =>
    cases hcoord with
    | locateCoord => exact absurd rfl hact
    | addMbox hcall => exact h.addMbox hcall
    | rmvMbox hcall => exact h.rmvMbox hcall
    | connect hused hstate =>
      exact h.setState (h.slots _ (.inr (.inl hused))) _ fun i hi => hi
    | disconnect hused hcall => exact h.disconnect hused hcall (List.Sublist.refl _)

/-! ## When a request is answered -/

/-- The mailbox of this name in `mbox_tree`. -/
def ItccoordInst.registered (s : ItccoordInst) (name : CString) : Option ItcMboxInfo :=
  (s.mboxTree.find (mboxNameCmpfunc s.heap name)).bind s.heap.cells

/-- The gateway's reply, if that is what `itc_receive` gives. -/
def LocateMboxSys.gatewayReply (sys : LocateMboxSys) (e : Endian) (timeout : UInt32) :
    Option (MboxId × CString) :=
  match sys.receive timeout with
  | none => none
  | some m =>
      match readGatewayReply e m with
      | .ok reply => reply
      | .error _ => none

/-- How the lookup on another host ends: `itc_locate_sync` there finds a mailbox, is told that there
is none, or gets no reply in time. -/
inductive PeerLookup where
  | found (mboxId : MboxId)
  | unknown
  | expired
  deriving DecidableEq, Repr

/-- What `itc_locate_sync` returns. -/
def PeerLookup.ret : PeerLookup → MboxId
  | .found mboxId => mboxId
  | .unknown => ITC_NO_MBOX_ID
  -- `return false`
  | .expired => 0

/-- The id that `handle_receive_locate_mbox` replies with, `none` when it sends no reply. -/
def PeerLookup.reply (l : PeerLookup) : Option MboxId :=
  if l.ret = ITC_NO_MBOX_ID then none else some l.ret

/-- The ids that the gateway sends its coordinator for one request: those of the hosts it is
connected to, or its own `ITC_NO_MBOX_ID` when there are none. -/
def gatewayReplies (lookups : List PeerLookup) : List MboxId :=
  if lookups = [] then [ITC_NO_MBOX_ID] else lookups.filterMap PeerLookup.reply

/-- The search finds this mailbox: the one that is registered here or, for a search in all hosts,
one that a lookup has found; and `ITC_NO_MBOX_ID` when there is none. -/
def Finds (s : ItccoordInst) (lookups : List PeerLookup) (findOnlyInternal : Bool)
    (name : CString) (mboxId : MboxId) : Prop :=
  match s.registered name with
  | some mbox => mboxId = mbox.mboxId
  | none =>
      if findOnlyInternal then mboxId = ITC_NO_MBOX_ID
      else .found mboxId ∈ lookups ∨
        mboxId = ITC_NO_MBOX_ID ∧ ∀ mboxId', .found mboxId' ∉ lookups

def isSyncReply (e : Endian) (fromMbox : MboxId) (o : Outgoing) : Bool :=
  o.1 = fromMbox ∧ o.2.msgno e = .ok ITC_LOCATE_MBOX_SYNC_REPLY

/-- The handler has sent exactly one reply to `fromMbox`, with an id that is right. -/
def Answered (e : Endian) (fromMbox : MboxId) (right : MboxId → Prop)
    (call : Except MemFault (List Outgoing)) : Prop :=
  ∃ sent reply mboxId, call = .ok sent ∧ sent.filter (isSyncReply e fromMbox) = [reply] ∧
    load32 e reply.2.body 4 = .ok mboxId ∧ right mboxId

/-- The reply can be sent; and the name is registered by a process that is connected, or only this
host is searched, or the gateway is registered, can be asked, and the next message is a reply of it
with the id of a mailbox that the search finds. -/
def Answerable (e : Endian) (sys : LocateMboxSys) (s : ItccoordInst) (lookups : List PeerLookup)
    (timeout : UInt32) (findOnlyInternal : Bool) (name : CString) : Prop :=
  sys.sendReply = true ∧
    match s.registered name with
    | some mbox => s.Connected (procOf mbox.mboxId)
    | none => findOnlyInternal = true ∨ s.registered ITC_GATEWAY_MBOX_TCP_CLI_NAME ≠ none ∧
        sys.sendRequest = true ∧ ∃ mboxId ns, sys.gatewayReply e timeout = some (mboxId, ns) ∧
          Finds s lookups findOnlyInternal name mboxId

section Finding

variable {s : ItccoordInst} {lookups : List PeerLookup} {name : CString} {mboxId : MboxId}

/-- **A reply to this search is right**, unless a lookup ran out of time. -/
theorem finds_of_gatewayReplies (hunknown : s.registered name = none)
    (hreply : mboxId ∈ gatewayReplies lookups) (htime : .expired ∉ lookups) :
    Finds s lookups false name mboxId := by
  simp only [Finds, hunknown, Bool.false_eq_true, if_false]
  unfold gatewayReplies at hreply
  split at hreply
  · rename_i hnone
    rw [List.mem_singleton.mp hreply, hnone]
    exact .inr ⟨rfl, fun _ => List.not_mem_nil⟩
  · obtain ⟨l, hl, hid⟩ := List.mem_filterMap.mp hreply
    unfold PeerLookup.reply at hid
    split at hid
    · cases hid
    · rename_i hno
      cases l with
      | found mboxId' =>
        cases hid
        exact .inl hl
      | unknown => exact absurd rfl hno
      | expired => exact absurd hl htime

/-- The reply of a lookup that ran out of time is wrong: no mailbox has the id 0. -/
theorem not_finds_expired (hunknown : s.registered name = none)
    (hids : .found 0 ∉ lookups) :
    ∃ mboxId, PeerLookup.reply .expired = some mboxId ∧ ¬ Finds s lookups false name mboxId := by
  refine ⟨0, by decide, ?_⟩
  simp only [Finds, hunknown, Bool.false_eq_true, if_false]
  rintro (hfound | ⟨hno, -⟩)
  · exact hids hfound
  · exact absurd hno (by decide)

end Finding

section Answering

variable {e : Endian} {a : Allocator} {sys : LocateMboxSys} {s : ItccoordInst}
  {fromMbox mboxId : MboxId} {right : MboxId → Prop}

theorem ItccoordInst.TreeOk.tfindMbox (h : s.TreeOk) (name : CString) :
    tfindMbox s name = .ok (s.registered name) := by
  simp only [ItcFramework.tfindMbox, h.walk_ok, bind, Except.bind, ItccoordInst.registered]
  cases hfind : s.mboxTree.find (mboxNameCmpfunc s.heap name) with
  | none => rfl
  | some mbox =>
    obtain ⟨info, hinfo⟩ := h.live mbox (SearchTree.Tree.find_some hfind).1
    simp only [Heap.read_of_live hinfo, Option.bind, hinfo]
    rfl

/-- The reply is built, whether it can be sent or not. -/
theorem sendLocateReply_spec (e : Endian) (a : Allocator) (sys : LocateMboxSys)
    (fromMbox mboxId : MboxId) (pid : UInt32) (isExternal : Bool) {ns : CString}
    (hns : ns.strlen + 1 ≤ ITC_MAX_NAME_LENGTH) :
    ∃ reply : Outgoing, sendLocateReply e a sys fromMbox mboxId pid isExternal ns =
        .ok (if sys.sendReply then [reply] else []) ∧
      isSyncReply e fromMbox reply = true ∧ load32 e reply.2.body 4 = .ok mboxId := by
  have hge := a.ge
  have hfits : offSyncName + ns.strlen + 1 + ITC_HEADER_SIZE + 1 ≤ a.maxMallocsize := by
    simp only [offSyncName, ITC_HEADER_SIZE, ITC_MAX_NAME_LENGTH, ITC_MAX_MSGSIZE] at hns hge ⊢
    omega
  obtain ⟨m, hm, hbody⟩ := syncMsg_ok e a ITC_LOCATE_MBOX_SYNC_REPLY mboxId pid isExternal hfits
  rw [syncBytes, List.append_assoc, List.append_assoc] at hbody
  have hmsgno : m.msg.msgno e = .ok ITC_LOCATE_MBOX_SYNC_REPLY :=
    load32_of_eq (a := []) (by rw [hbody, List.nil_append]) rfl
  refine ⟨(fromMbox, m.msg), ?_, ?_, ?_⟩
  · simp only [sendLocateReply, locateMboxSyncReply, hm, bind, Except.bind]
    rfl
  · simp only [isSyncReply, hmsgno, and_self, decide_true]
  · exact load32_of_eq hbody (word_length ..).symm

/-- Behind messages that are no replies. -/
theorem answered_sendLocateReply_iff (right : MboxId → Prop) {ns : CString}
    (hns : ns.strlen + 1 ≤ ITC_MAX_NAME_LENGTH)
    {sent : List Outgoing} (hsent : sent.filter (isSyncReply e fromMbox) = []) (a : Allocator)
    (sys : LocateMboxSys) (mboxId : MboxId) (pid : UInt32) (isExternal : Bool) :
    Answered e fromMbox right
        ((sendLocateReply e a sys fromMbox mboxId pid isExternal ns).map (sent ++ ·)) ↔
      sys.sendReply = true ∧ right mboxId := by
  obtain ⟨reply, hcall, hreply, hid⟩ := sendLocateReply_spec e a sys fromMbox mboxId pid isExternal
    hns
  have hfilter : (sent ++ [reply]).filter (isSyncReply e fromMbox) = [reply] := by
    rw [List.filter_append, hsent, List.nil_append, List.filter_cons_of_pos hreply]
    rfl
  rw [hcall]
  cases hsend : sys.sendReply with
  | false =>
    refine ⟨?_, fun h => absurd h.1 Bool.false_ne_true⟩
    rintro ⟨sent', reply', mboxId', hok, hone, -⟩
    simp only [Bool.false_eq_true, if_false, Except.map, List.append_nil] at hok
    cases hok
    rw [hsent] at hone
    cases hone
  | true =>
    constructor
    · rintro ⟨sent', reply', mboxId', hok, hone, hid', hright⟩
      simp only [if_true, Except.map] at hok
      cases hok
      rw [hfilter] at hone
      cases hone
      rw [hid] at hid'
      cases hid'
      exact ⟨rfl, hright⟩
    · rintro ⟨-, hright⟩
      exact ⟨sent ++ [reply], reply, mboxId, rfl, hfilter, hid, hright⟩

theorem not_answered {sent : List Outgoing}
    (hsent : sent.filter (isSyncReply e fromMbox) = []) :
    ¬ Answered e fromMbox right (.ok sent) := by
  rintro ⟨sent', reply, mboxId, hok, hfilter, -⟩
  cases hok
  rw [hsent] at hfilter
  cases hfilter

theorem readGatewayReply_fits {m : ItcMessage} {ns : CString}
    (hread : readGatewayReply e m = .ok (some (mboxId, ns))) :
    ns.strlen + 1 ≤ ITC_MAX_NAME_LENGTH := by
  unfold readGatewayReply at hread
  obtain ⟨msgno, -, hread⟩ := bind_eq_ok hread
  split at hread
  · cases hread
  · obtain ⟨id, -, hread⟩ := bind_eq_ok hread
    obtain ⟨ns', -, hread⟩ := bind_eq_ok hread
    split at hread
    · cases hread
    · rename_i hle
      cases hread
      exact Nat.le_of_not_lt hle

/-- The request to the gateway is built, and is not the reply. -/
theorem gatewayRequest_spec (e : Endian) (fromMbox itccoordMboxId : MboxId) {name : CString}
    (hfits : offSyncName + name.strlen + 1 + ITC_HEADER_SIZE + 1 ≤ a.maxMallocsize) :
    ∃ req, idNameMsg e a ITC_LOCATE_MBOX_FROM_ITCGWS_REQUEST itccoordMboxId name = .ok req ∧
      ∀ itcgwMboxid, [(itcgwMboxid, req)].filter (isSyncReply e fromMbox) = [] := by
  have hle : offMboxname + name.strlen + 1 + ITC_HEADER_SIZE + 1 ≤ a.maxMallocsize := by
    simp only [offSyncName, offMboxname] at hfits ⊢
    omega
  obtain ⟨req, hreq, hbody⟩ := idNameMsg_ok e a ITC_LOCATE_MBOX_FROM_ITCGWS_REQUEST itccoordMboxId
    hle
  have hmsgno : req.msg.msgno e = .ok ITC_LOCATE_MBOX_FROM_ITCGWS_REQUEST :=
    load32_of_eq (a := []) (by rw [hbody, List.nil_append]) rfl
  refine ⟨req.msg, hreq, fun itcgwMboxid => List.filter_cons_of_neg ?_⟩
  have hne : (Except.ok ITC_LOCATE_MBOX_FROM_ITCGWS_REQUEST : Except MemFault UInt32) ≠
      .ok ITC_LOCATE_MBOX_SYNC_REPLY := by decide
  simp only [isSyncReply, hmsgno, hne, and_false, decide_false, Bool.false_eq_true,
    not_false_eq_true]

/-- The search through the gateway is answered when the gateway is there and its reply is right. -/
theorem locateThroughGateway_answered_iff (h : s.TreeOk) (itccoordMboxId : MboxId)
    (timeout : UInt32) {name : CString}
    (hfits : offSyncName + name.strlen + 1 + ITC_HEADER_SIZE + 1 ≤ a.maxMallocsize) :
    Answered e fromMbox right
        (locateThroughGateway e a sys s itccoordMboxId fromMbox timeout name) ↔
      sys.sendReply = true ∧ s.registered ITC_GATEWAY_MBOX_TCP_CLI_NAME ≠ none ∧
        sys.sendRequest = true ∧
        ∃ mboxId ns, sys.gatewayReply e timeout = some (mboxId, ns) ∧ right mboxId := by
  obtain ⟨req, hreq, hnone⟩ := gatewayRequest_spec e fromMbox itccoordMboxId hfits
  have hnil : ([] : List Outgoing).filter (isSyncReply e fromMbox) = [] := rfl
  simp only [locateThroughGateway, hreq, h.tfindMbox, bind, Except.bind]
  cases hgw : s.registered ITC_GATEWAY_MBOX_TCP_CLI_NAME with
  | none => exact ⟨fun hans => absurd hans (not_answered hnil), fun hans => absurd rfl hans.2.1⟩
  | some itcgw =>
    cases hsend : sys.sendRequest with
    | false =>
      refine ⟨fun hans => absurd hans (not_answered hnil), fun hans => ?_⟩
      exact absurd hans.2.2.1 Bool.false_ne_true
    | true =>
      simp only [Bool.not_true, Bool.false_eq_true, if_false, LocateMboxSys.gatewayReply]
      cases sys.receive timeout with
      | none =>
        refine ⟨fun hans => absurd hans (not_answered (hnone itcgw.mboxId)), ?_⟩
        rintro ⟨-, -, -, mboxId, ns, hno, -⟩
        cases hno
      | some m =>
        simp only
        cases hread : readGatewayReply e m with
        | error fault =>
          constructor
          · rintro ⟨sent, reply, mboxId, hok, -⟩
            cases hok
          · rintro ⟨-, -, -, mboxId, ns, hno, -⟩
            cases hno
        | ok reply =>
          cases reply with
          | none =>
            refine ⟨fun hans => absurd hans (not_answered (hnone itcgw.mboxId)), ?_⟩
            rintro ⟨-, -, -, mboxId, ns, hno, -⟩
            cases hno
          | some reply =>
            obtain ⟨mboxId, ns⟩ := reply
            have hiff := answered_sendLocateReply_iff right
              (readGatewayReply_fits hread) (hnone itcgw.mboxId) a sys mboxId sys.uninitPid true
            refine hiff.trans ⟨fun hans => ⟨hans.1, nofun, trivial, mboxId, ns, rfl, hans.2⟩, ?_⟩
            rintro ⟨hreply, -, -, mboxId', ns', hid, hright⟩
            cases hid
            exact ⟨hreply, hright⟩

/-- **A request is answered just when the condition holds**, in every state of the registry. -/
theorem handleLocateMbox_answered_iff {w : CoordLife} (h : w.inst.TreeOk)
    (lookups : List PeerLookup) (itccoordMboxId : MboxId) (timeout : UInt32)
    (findOnlyInternal : Bool) {name : CString}
    (hfits : offSyncName + name.strlen + 1 + ITC_HEADER_SIZE + 1 ≤ a.maxMallocsize) :
    Answered e fromMbox (Finds w.inst lookups findOnlyInternal name)
        (handleLocateMbox e a sys w itccoordMboxId fromMbox timeout findOnlyInternal name) ↔
      Answerable e sys w.inst lookups timeout findOnlyInternal name := by
  have hnil : ([] : List Outgoing).filter (isSyncReply e fromMbox) = [] := rfl
  -- a reply that nothing was sent before
  have hreply : ∀ (right : MboxId → Prop) (mboxId : MboxId) (pid : UInt32), right mboxId →
      (Answered e fromMbox right (sendLocateReply e a sys fromMbox mboxId pid false .empty) ↔
        sys.sendReply = true) := by
    intro right mboxId pid hright
    have hempty : CString.empty.strlen + 1 ≤ ITC_MAX_NAME_LENGTH := by decide
    have hiff := (answered_sendLocateReply_iff right hempty hnil a sys mboxId pid
      false).trans (and_iff_left hright)
    cases hcall : sendLocateReply e a sys fromMbox mboxId pid false .empty with
    | error fault => rwa [hcall] at hiff
    | ok sent => rwa [hcall] at hiff
  cases hreg : w.inst.registered name with
  | none =>
    simp only [handleLocateMbox, h.tfindMbox, hreg, bind, Except.bind, Answerable]
    cases findOnlyInternal with
    | true =>
      have hright : Finds w.inst lookups true name ITC_NO_MBOX_ID := by
        simp only [Finds, hreg, if_true]
      exact (hreply _ _ _ hright).trans ⟨fun hsend => ⟨hsend, .inl rfl⟩, fun hans => hans.1⟩
    | false =>
      refine (locateThroughGateway_answered_iff h itccoordMboxId timeout hfits).trans ?_
      simp only [Bool.false_eq_true, false_or]
  | some mbox =>
    have hright : Finds w.inst lookups findOnlyInternal name mbox.mboxId := by
      simp only [Finds, hreg]
    simp only [handleLocateMbox, h.tfindMbox, hreg, bind, Except.bind, Answerable]
    by_cases hconn : w.inst.Connected (procOf mbox.mboxId)
    · have hslot := h.slots _ (.inr (.inr hconn))
      have hstate : (w.inst.processes (procOf mbox.mboxId)).state = .connected := hconn
      simp only [ItccoordInst.findProcess_some hslot, hstate, ne_eq, not_true_eq_false, if_false]
      exact (hreply _ _ _ hright).trans ⟨fun hsend => ⟨hsend, hconn⟩, fun hans => hans.1⟩
    · refine ⟨fun hans => ?_, fun hans => absurd hans.2 hconn⟩
      have hstate : (w.inst.processes (procOf mbox.mboxId)).state ≠ .connected := hconn
      cases hproc : findProcess mbox.mboxId with
      | error fault =>
        rw [hproc] at hans
        obtain ⟨sent, reply, mboxId, hok, -⟩ := hans
        cases hok
      | ok proc =>
        rw [hproc] at hans
        cases proc with
        | none => exact absurd hans (not_answered hnil)
        | some proc =>
          obtain rfl : proc = procOf mbox.mboxId := by
            unfold findProcess at hproc
            split at hproc
            · cases hproc
            · split at hproc
              · exact (Option.some.inj (Except.ok.inj hproc)).symm
              · cases hproc
          simp only [hstate, ne_eq, not_false_eq_true, if_true] at hans
          exact absurd hans (not_answered hnil)

end Answering

/-- **A locate request gets its reply just when the condition holds**, in every state that the
coordinator reaches, whatever the ITC calls of the handler answer and however the lookups on the
other hosts end; the request itself has been allocated, which bounds its name. -/
theorem locateMbox_answered_iff {impl : TreeImpl Nat} {pid : Int} {as : List LifeAction}
    {w : CoordLife} (hrun : Run (LifeStep impl) (.init pid) as w) (e : Endian) (a : Allocator)
    (sys : LocateMboxSys) (lookups : List PeerLookup) (itccoordMboxId fromMbox : MboxId)
    (timeout : UInt32) (findOnlyInternal : Bool) (name : CString)
    (hfits : offSyncName + name.strlen + 1 + ITC_HEADER_SIZE + 1 ≤ a.maxMallocsize) :
    Answered e fromMbox (Finds w.inst lookups findOnlyInternal name)
        (handleLocateMbox e a sys w itccoordMboxId fromMbox timeout findOnlyInternal name) ↔
      Answerable e sys w.inst lookups timeout findOnlyInternal name :=
  handleLocateMbox_answered_iff (treeOk_of_run hrun) lookups itccoordMboxId timeout
    findOnlyInternal hfits

/-- Nobody answers, but everything can be sent. -/
def LocateMboxSys.silent : LocateMboxSys := ⟨true, fun _ => none, true, 0⟩

/-- A search in this host for a name that nobody has registered. -/
theorem locateMbox_answered_iff_internal :
    Answered .little 0x00200001 (Finds (CoordLife.init 100).inst [] true ⟨[97], by decide⟩)
      (handleLocateMbox .little .least .silent (.init 100) 0x00100001 0x00200001 1000 true
        ⟨[97], by decide⟩) :=
  (locateMbox_answered_iff (.nil (CoordLife.init 100) : Run (LifeStep (TreeImpl.plain Nat)) _ [] _)
    .little .least .silent [] 0x00100001 0x00200001 1000 true ⟨[97], by decide⟩
    (by decide)).mpr ⟨rfl, .inl rfl⟩

/-- **Without a gateway a search for an unknown name is not answered at all.** -/
theorem locate_without_gateway :
    handleLocateMbox .little .least .silent (.init 100) 0x00100001 0x00200001 1000 false
        ⟨[97], by decide⟩ = .ok [] ∧
      ∀ right, ¬ Answered .little 0x00200001 right (handleLocateMbox .little .least .silent
        (.init 100) 0x00100001 0x00200001 1000 false ⟨[97], by decide⟩) := by
  have hcall : handleLocateMbox .little .least .silent (.init 100) 0x00100001 0x00200001 1000 false
      ⟨[97], by decide⟩ = .ok [] := by decide +kernel
  refine ⟨hcall, fun right hans => ?_⟩
  rw [hcall] at hans
  exact not_answered rfl hans

end ItcFramework
