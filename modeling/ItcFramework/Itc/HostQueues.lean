import ItcFramework.Itc.Waiting
import ItcFramework.Transport.SysvmqDelivery

/-!
# What a call does to the queues of the host

The calls of a process whose kernel has stable queues (`limitKernel`).

* `Posted` — the messages that a call has put into the queues of the processes, in order.
* `itcSend_posts` — a send to another process that returns `true` has put its message there, with
  the caller's mailbox for sender; one that returns `false` has put nothing.
* `ItcStep.posts` — whatever else a process calls puts nothing into a queue but the notifications
  for the coordinator.
-/

set_option autoImplicit false

namespace ItcFramework

open ByteImage HeapModel ItcInstance

/-! ## Process indices -/

theorem coordMask_toNat (mboxId : MboxId) :
    (mboxId &&& ITC_COORD_MASK).toNat = 2 ^ mboxBits * (mboxId.toNat / 2 ^ mboxBits) := by
  have hlt := mboxId.toNat_lt
  have hsplit : mboxId = UInt32.ofNat (2 ^ mboxBits * (mboxId.toNat / 2 ^ mboxBits)) |||
      UInt32.ofNat (mboxId.toNat % 2 ^ mboxBits) := by
    apply UInt32.toNat_inj.mp
    rw [UInt32.toNat_or, UInt32.toNat_ofNat', UInt32.toNat_ofNat', mboxBits,
      Nat.mod_eq_of_lt (by omega), Nat.mod_eq_of_lt (by omega),
      ← Nat.two_pow_add_eq_or_of_lt (Nat.mod_lt _ (by omega))]
    omega
  have hhigh : (UInt32.ofNat (2 ^ mboxBits * (mboxId.toNat / 2 ^ mboxBits))).toNat =
      2 ^ mboxBits * (mboxId.toNat / 2 ^ mboxBits) := by
    rw [UInt32.toNat_ofNat', mboxBits]
    omega
  rw [hsplit, mboxId_and_coordMask (by rw [hhigh]; exact Nat.mul_mod_right _ _)
    (Nat.mod_lt _ (by decide)), ← hsplit, hhigh]

theorem procOf_eq_div (mboxId : MboxId) : procOf mboxId = mboxId.toNat / 2 ^ mboxBits := by
  have hshift : ITC_COORD_SHIFT.toNat % 32 = 20 := by decide
  rw [procOf, UInt32.toNat_shiftRight, hshift, coordMask_toNat, Nat.shiftRight_eq_div_pow, mboxBits]
  omega

theorem and_coordMask_eq_iff {my : MboxId} (hmy : my.toNat % 2 ^ mboxBits = 0) (mboxId : MboxId) :
    mboxId &&& ITC_COORD_MASK = my ↔ procOf mboxId = procOf my := by
  rw [← UInt32.toNat_inj, coordMask_toNat, procOf_eq_div, procOf_eq_div]
  rw [mboxBits] at *
  omega

/-! ## Posting -/

/-- The texts of `new i` come behind those of queue `i`. -/
def KernelQueues.post (e : Endian) (k : KernelQueues) (new : Nat → List UserMessage) :
    KernelQueues :=
  fun i => (k i).map (· ++ (new i).map fun m => m.msg.image e)

theorem UserMessage.image_inj {e : Endian} {m m' : UserMessage}
    (h : m.msg.image e = m'.msg.image e) : m = m' := by
  have hmsg : m.msg = m'.msg := by
    have hread := ItcMessage.ofImage_image e m.msg
    rw [h, ItcMessage.ofImage_image] at hread
    exact (Except.ok.inj hread).symm
  cases m
  cases m'
  cases hmsg
  rfl

/-- The queues tell what has been put into them. -/
theorem KernelQueues.post_inj {e : Endian} {k : KernelQueues} {new new' : Nat → List UserMessage}
    (h : k.post e new = k.post e new') (hnew : ∀ i, k i = none → new i = [])
    (hnew' : ∀ i, k i = none → new' i = []) : new = new' := by
  funext i
  have hi := congrFun h i
  rw [post, post] at hi
  cases hk : k i with
  | none => rw [hnew i hk, hnew' i hk]
  | some ts =>
    rw [hk, Option.map_some, Option.map_some, Option.some.injEq] at hi
    have hinj : Function.Injective fun m : UserMessage => m.msg.image e :=
      fun _ _ heq => UserMessage.image_inj heq
    exact List.map_injective_iff.mpr hinj (List.append_cancel_left hi)

/-- One message for the process `pid`. -/
def toProc (pid : Nat) (m : UserMessage) : Nat → List UserMessage :=
  fun i => if i = pid then [m] else []

def toNobody : Nat → List UserMessage := fun _ => []

theorem mem_toProc {pid i : Nat} {m m' : UserMessage} (h : m' ∈ toProc pid m i) :
    i = pid ∧ m' = m := by
  rw [toProc] at h
  split at h
  · rename_i hi
    exact ⟨hi, List.mem_singleton.mp h⟩
  · cases h

theorem KernelQueues.post_toNobody (e : Endian) (k : KernelQueues) : k.post e toNobody = k := by
  funext i
  cases hk : k i <;> simp only [post, toNobody, hk, Option.map_none, Option.map_some, List.map_nil,
    List.append_nil]

theorem KernelQueues.post_isSome (e : Endian) (k : KernelQueues) (new : Nat → List UserMessage)
    (i : Nat) : (k.post e new i).isSome = (k i).isSome := by
  rw [post, Option.isSome_map]

/-- Nothing has happened to the sysvmq transport. -/
structure SameSysvmq (s s' : ItcInstance KernelQueues) : Prop where
  kernel : s'.kernel = s.kernel
  inst : s'.sysvmqInst = s.sysvmqInst
  coord : s'.itccoordMboxId = s.itccoordMboxId

theorem SameSysvmq.refl (s : ItcInstance KernelQueues) : SameSysvmq s s := ⟨rfl, rfl, rfl⟩

/-- The messages `new` have gone into queues that are there, and the contacts are good. -/
structure Posted (e : Endian) (s s' : ItcInstance KernelQueues) (new : Nat → List UserMessage) :
    Prop where
  kernel : s'.kernel = s.kernel.post e new
  queued : ∀ i, s.kernel i = none → new i = []
  receivers : ∀ i, ∀ m ∈ new i, procOf m.msg.receiver = i
  contacts : ContactOk s'.kernel s'.sysvmqInst
  coord : s'.itccoordMboxId = s.itccoordMboxId

variable {E : ItcEnv KernelQueues} {s s₁ s' : ItcInstance KernelQueues} {q : Queues} {M : Nat}
  {new : Nat → List UserMessage}

namespace Posted

theorem nothing {e : Endian} (h : ContactOk s.kernel s.sysvmqInst) (hsame : SameSysvmq s s') :
    Posted e s s' toNobody where
  kernel := by rw [KernelQueues.post_toNobody, hsame.kernel]
  queued := fun _ _ => rfl
  receivers := fun _ _ hm => absurd hm List.not_mem_nil
  contacts := by rw [hsame.kernel, hsame.inst]; exact h
  coord := hsame.coord

/-- What comes before or after leaves queues and contacts alone. -/
theorem congr {e : Endian} {t t' : ItcInstance KernelQueues} (h : Posted e s s' new)
    (hbefore : SameSysvmq t s) (hafter : SameSysvmq s' t') : Posted e t t' new where
  kernel := by rw [hafter.kernel, h.kernel, hbefore.kernel]
  queued := by rw [← hbefore.kernel]; exact h.queued
  receivers := h.receivers
  contacts := by rw [hafter.kernel, hafter.inst]; exact h.contacts
  coord := hafter.coord.trans (h.coord.trans hbefore.coord)

end Posted

/-! ## Sending -/

/-- What the local transport takes does not go into a queue of the host. -/
theorem transSend_posts_local {fuel p : Nat} {toMbox : MboxId}
    {taken : Option Taken} (h : s.Inv q) (hcontacts : ContactOk s.kernel s.sysvmqInst)
    (haccepts : LocalAccepts E.qitemMem s.localInst toMbox) {u : UserMessage}
    (hu : s.heap.cells p = some u.msg)
    (hsend : transSend E fuel s p toMbox = .ok (some (taken, s'))) :
    Posted E.endian s s' toNobody := by
  obtain ⟨hmem, i, hlocal, hrxq⟩ := haccepts
  obtain ⟨l, hq⟩ : ∃ l, q i = some l := by
    cases hqi : q i with
    | none =>
      have hi := h.holds i
      rw [hqi] at hi
      exact absurd hi.of_none hrxq
    | some l => exact ⟨l, rfl⟩
  obtain ⟨rxq, heap', htrans, -, -⟩ := transSend_local (E := E) fuel h.holds hmem hlocal hq hu
  rw [htrans] at hsend
  cases hsend
  exact .nothing hcontacts ⟨rfl, rfl, rfl⟩

/-- A text that the kernel has taken is the last of its queue. -/
theorem KernelQueues.post_toProc {e : Endian} {k : KernelQueues} {pid : Nat} {m : UserMessage}
    {ts : List Bytes} (hts : k pid = some ts) :
    k.post e (toProc pid m) =
      fun i => if i = pid then some (ts ++ [m.msg.image e]) else k i := by
  funext i
  by_cases hi : i = pid
  · rw [hi, post, toProc, if_pos rfl, if_pos rfl, hts]
    rfl
  · rw [post, toProc, if_neg hi, if_neg hi]
    cases k i with
    | none => rfl
    | some ts => exact congrArg some (List.append_nil ts)

/-- What it does not take goes there, or is not sent. -/
theorem transSend_posts {fuel p : Nat} {toMbox : MboxId} {taken : Option Taken} {u : UserMessage}
    (hE : E.kernel = limitKernel M) (hcontacts : ContactOk s.kernel s.sysvmqInst)
    (hno : ¬ LocalAccepts E.qitemMem s.localInst toMbox) (hu : s.heap.cells p = some u.msg)
    (hto : u.msg.receiver = toMbox)
    (hsend : transSend E fuel s p toMbox = .ok (some (taken, s'))) :
    Posted E.endian s s' (if taken.isSome then toProc (procOf toMbox) u else toNobody) := by
  subst hto
  obtain ⟨rc, hrc, hlocal⟩ := localSend_refused hno s.heap p
  rw [transSend, hlocal, hE] at hsend
  obtain ⟨_, ⟨⟩, hsend⟩ := bind_eq_ok hsend
  simp only [if_neg hrc] at hsend
  obtain ⟨m, hread, hsend⟩ := bind_eq_ok hsend
  rw [setLocal_heap, Heap.read_of_live hu] at hread
  cases hread
  obtain ⟨r, hret, hsend⟩ := bind_some_eq_ok hsend rfl
  obtain ⟨hok, hspec⟩ := sysvmqSend_limit hcontacts hret
  obtain ⟨t, heap', rfl, rfl⟩ : ∃ t heap', taken = (if r.state.rc = ITC_OK then some t else none) ∧
      s' = (s.setLocal s.localInst s.heap).setSysvmq r.state.inst r.state.kernel heap' := by
    simp only at hsend
    split at hsend
    · obtain ⟨heap', -, hsend⟩ := bind_eq_ok hsend
      cases hsend
      exact ⟨_, heap', rfl, rfl⟩
    · obtain ⟨heap', -, hsend⟩ := bind_eq_ok hsend
      cases hsend
      exact ⟨_, heap', rfl, rfl⟩
  by_cases hOk : r.state.rc = ITC_OK
  · rw [if_pos hOk] at hspec
    obtain ⟨-, ts, hts, hk⟩ := hspec
    rw [if_pos hOk, Option.isSome_some, if_pos rfl]
    refine ⟨hk.trans (KernelQueues.post_toProc hts).symm, fun i hi => if_neg ?_, ?_, hok, rfl⟩
    · rintro rfl
      rw [hts] at hi
      cases hi
    · exact fun i m hm => by rw [(mem_toProc hm).2, (mem_toProc hm).1]
  · rw [if_neg hOk] at hspec
    rw [if_neg hOk, Option.isSome_none, if_neg Bool.false_ne_true]
    refine ⟨?_, fun _ _ => rfl, fun _ _ hm => absurd hm List.not_mem_nil, hok, rfl⟩
    rw [KernelQueues.post_toNobody]
    exact hspec.1

theorem notifyReceiver_same (s : ItcInstance KernelQueues) (o : Option Nat) :
    SameSysvmq s (notifyReceiver s o) := by
  unfold notifyReceiver
  split
  · exact .refl s
  · split
    · exact ⟨rfl, rfl, rfl⟩
    · exact .refl s

/-- What `itc_send_zz` has come to, up to the transports. -/
theorem itcSend_cases {fuel tid p : Nat} {u : UserMessage} {toMbox fromMbox : MboxId}
    {r : SendResult KernelQueues} (hu : s.heap.cells p = some u.msg)
    (hsend : itcSend E fuel s tid (some p) toMbox fromMbox = .ok (some r)) :
    (r.ret = false ∧ SameSysvmq s r.s) ∨
      ∃ heap taken s₁, OnlyAt s.heap heap p (some (u.stamp (s.myMboxId tid) toMbox).msg) ∧
        transSend E fuel (s.setHeap heap) p toMbox = .ok (some (taken, s₁)) ∧
        r.ret = taken.isSome ∧ SameSysvmq s₁ r.s := by
  unfold itcSend at hsend
  split at hsend
  · cases hsend
    exact .inl ⟨rfl, rfl, rfl, rfl⟩
  · rename_i me hme
    have hmy : s.myMboxId tid = (s.mboxes me).mboxId := by rw [myMboxId, hme]; rfl
    simp only at hsend
    split at hsend
    · cases hsend
      exact .inl ⟨rfl, rfl, rfl, rfl⟩
    · split at hsend
      · cases hsend
        exact .inl ⟨rfl, rfl, rfl, rfl⟩
      · obtain ⟨m, hread, hsend⟩ := bind_eq_ok hsend
        rw [Heap.read_of_live hu] at hread
        cases hread
        obtain ⟨heap, hwrite, hself, hframe, hnext⟩ :=
          Heap.write_of_live (b := u.msg.stamp (s.mboxes me).mboxId toMbox) hu
        rw [hwrite] at hsend
        obtain ⟨_, ⟨⟩, hsend⟩ := bind_eq_ok hsend
        simp only at hsend
        split at hsend
        · cases hsend
          exact .inl ⟨rfl, rfl, rfl, rfl⟩
        · obtain ⟨⟨taken, s₁⟩, htrans, hsend⟩ := bind_some_eq_ok hsend rfl
          refine .inr ⟨heap, taken, s₁, ⟨by rw [hmy]; exact hself, hframe, hnext⟩, htrans, ?_⟩
          simp only at hsend
          split at hsend
          · rename_i hsome
            cases hsend
            exact ⟨hsome.symm, notifyReceiver_same s₁ _⟩
          · rename_i hnone
            split at hsend
            · cases hsend
            · cases hsend
              exact ⟨(Bool.eq_false_of_not_eq_true hnone).symm, .refl s₁⟩

/-- A message for a mailbox of the process does not go into a queue of the host. -/
theorem itcSend_posts_local {fuel tid p : Nat} {u : UserMessage} {toMbox fromMbox : MboxId}
    {r : SendResult KernelQueues} (h : s.Inv q) (hcontacts : ContactOk s.kernel s.sysvmqInst)
    (haccepts : LocalAccepts E.qitemMem s.localInst toMbox) (hu : s.heap.cells p = some u.msg)
    (hsend : itcSend E fuel s tid (some p) toMbox fromMbox = .ok (some r)) :
    Posted E.endian s r.s toNobody := by
  rcases itcSend_cases hu hsend with ⟨-, hsame⟩ | ⟨heap, taken, s₁, hheap, htrans, -, hsame⟩
  · exact .nothing hcontacts hsame
  · have hinv : (s.setHeap heap).Inv q := h.ofHeld hu hheap.frame
    exact (transSend_posts_local hinv hcontacts haccepts hheap.self htrans).congr ⟨rfl, rfl, rfl⟩
      hsame

/-- **A send to another process** puts its message into the queue of that process, with the
caller's mailbox for sender, or returns `false`. -/
theorem itcSend_posts {fuel tid p : Nat} {u : UserMessage} {toMbox fromMbox : MboxId}
    {r : SendResult KernelQueues} (hE : E.kernel = limitKernel M)
    (hcontacts : ContactOk s.kernel s.sysvmqInst)
    (hno : ¬ LocalAccepts E.qitemMem s.localInst toMbox) (hu : s.heap.cells p = some u.msg)
    (hsend : itcSend E fuel s tid (some p) toMbox fromMbox = .ok (some r)) :
    Posted E.endian s r.s (if r.ret then toProc (procOf toMbox) (u.stamp (s.myMboxId tid) toMbox)
      else toNobody) := by
  rcases itcSend_cases hu hsend with ⟨hret, hsame⟩ | ⟨heap, taken, s₁, hheap, htrans, hret, hsame⟩
  · rw [hret]
    exact .nothing hcontacts hsame
  · have hposted := transSend_posts (s := s.setHeap heap) hE hcontacts hno hheap.self rfl htrans
    rw [hret]
    exact hposted.congr ⟨rfl, rfl, rfl⟩ hsame

/-! ## Notifying the coordinator -/

/-- Ids of another process are no business of the local transport. -/
theorem not_localAccepts {mem : Bool} {toMbox : MboxId} (h : s.Layout)
    (hremote : toMbox &&& ITC_COORD_MASK ≠ s.myMboxIdInItccoord) :
    ¬ LocalAccepts mem s.localInst toMbox := by
  rintro ⟨-, i, hfind, -⟩
  obtain ⟨hproc, -, -⟩ := (h.numbered.findLocal_eq_ok toMbox i).mp hfind
  exact hremote hproc

theorem itcFree_same {p : Nat} (hcall : itcFree s p = .ok s') : SameSysvmq s s' := by
  obtain ⟨heap, -, hcall⟩ := bind_eq_ok hcall
  cases hcall
  exact ⟨rfl, rfl, rfl⟩

/-- **Only the coordinator's queue gets a notification.** -/
theorem notifyCoord_posts {fuel tid : Nat} {msgno : UInt32} {mboxId : MboxId} {name : CString}
    (hE : E.kernel = limitKernel M) (h : s.Layout) (hcontacts : ContactOk s.kernel s.sysvmqInst)
    (hname : name.strlen < ITC_MAX_NAME_LENGTH)
    (hcall : notifyCoord E fuel s tid msgno mboxId name = .ok (some s')) :
    ∃ new, Posted E.endian s s' new ∧ ∀ i, i ≠ procOf s.itccoordMboxId → new i = [] := by
  unfold notifyCoord at hcall
  split at hcall
  · cases hcall
    exact ⟨toNobody, .nothing hcontacts ⟨rfl, rfl, rfl⟩, fun _ _ => rfl⟩
  · rename_i hother
    obtain ⟨m, hm, -⟩ := idNameMsg_ok E.endian E.malloc msgno mboxId (name_fits E.malloc hname)
    rw [hm] at hcall
    obtain ⟨_, ⟨⟩, hcall⟩ := bind_eq_ok hcall
    obtain ⟨⟨sent, s₁⟩, hsend, hcall⟩ := bind_some_eq_ok hcall rfl
    cases hcall
    obtain ⟨r, hsend, hfree⟩ := sendOrFree_changes hsend
    have hno : ¬ LocalAccepts E.qitemMem (s.alloc m.msg).2.localInst s.itccoordMboxId :=
      not_localAccepts (s := s) h (by rw [← h.mask]; exact Ne.symm hother)
    have hposted := itcSend_posts (s := (s.alloc m.msg).2) hE hcontacts hno
      (Heap.push_next s.heap m.msg) hsend
    have hsame : SameSysvmq r.s s' := by
      rcases hfree with ⟨-, rfl⟩ | ⟨-, hfree⟩
      · exact .refl _
      · exact itcFree_same hfree
    refine ⟨_, hposted.congr ⟨rfl, rfl, rfl⟩ hsame, fun i hi => ?_⟩
    split
    · exact if_neg hi
    · rfl

/-- A mailbox that is created is its thread's when the coordinator is notified. -/
theorem itcCreateMailbox_notifies {fuel tid : Nat} {name : CString} {flags : UInt32} {ret : MboxId}
    (h : s.Inv q) (hname : name.strlen < ITC_MAX_NAME_LENGTH)
    (hcall : itcCreateMailbox E fuel s tid name flags = .ok (some (ret, s'))) :
    s' = s ∨ ∃ q₁ i s₁, s₁.Inv q₁ ∧ SameSysvmq s s₁ ∧
      s₁.myMboxIdInItccoord = s.myMboxIdInItccoord ∧ s₁.myThreadlocalMbox tid = some i ∧
      ret = (s₁.mboxes i).mboxId ∧
      notifyCoord E fuel s₁ tid ITC_NOTIFY_COORD_ADD_MBOX ret name = .ok (some s') := by
  unfold itcCreateMailbox at hcall
  cases ht : s.myThreadlocalMbox tid with
  | some _ =>
    rw [ht] at hcall
    cases hcall
    exact .inl rfl
  | none =>
    cases hfree : s.freeMboxesQueue with
    | nil =>
      rw [ht, hfree] at hcall
      cases hcall
      exact .inl rfl
    | cons i rest =>
      obtain ⟨hlt, hq⟩ := h.slots.free i (by rw [hfree]; exact List.mem_cons_self)
      obtain ⟨hcreate, hholds⟩ := localCreateMbox_spec h.holds (h.layout.findLocal_id hlt) flags hq
      have hconf := h.layout.localInst.setData i ⟨(s.mboxes i).mboxId, flags, some initQueue⟩
      obtain ⟨t, htree⟩ := insertMboxToTree_eq E
        (((s.setFree rest).setMbox i ((s.mboxes i).create tid name flags)).setLocal
          (s.localInst.setData i ⟨(s.mboxes i).mboxId, flags, some initQueue⟩) s.heap) i
      have hinv := h.claim tid name flags t hfree hname hconf hholds
      rw [ht, hfree] at hcall
      simp only [if_neg (show ¬ name.strlen > ITC_MAX_NAME_LENGTH by omega),
        if_neg (show ¬ name.strlen + 1 > ITC_MAX_NAME_LENGTH by omega), setFree_localInst,
        setFree_mboxes, ItcMailbox.create_mboxId, hcreate, setFree_heap, ne_eq, not_true_eq_false,
        if_false, htree] at hcall
      obtain ⟨s₁, hnotify, hcall⟩ := bind_some_eq_ok hcall rfl
      cases hcall
      have hself : (s.claim tid i rest ((s.mboxes i).create tid name flags)
          (s.localInst.setData i ⟨(s.mboxes i).mboxId, flags, some initQueue⟩) t).mboxes i =
          (s.mboxes i).create tid name flags := if_pos rfl
      exact .inr ⟨_, i, _, hinv, ⟨rfl, rfl, rfl⟩, rfl, if_pos rfl, by rw [hself]; rfl, hnotify⟩

theorem itcCreateMailbox_posts {fuel tid : Nat} {name : CString} {flags : UInt32} {ret : MboxId}
    (hE : E.kernel = limitKernel M) (h : s.Inv q) (hcontacts : ContactOk s.kernel s.sysvmqInst)
    (hname : name.strlen < ITC_MAX_NAME_LENGTH)
    (hcall : itcCreateMailbox E fuel s tid name flags = .ok (some (ret, s'))) :
    ∃ new, Posted E.endian s s' new ∧ ∀ i, i ≠ procOf s.itccoordMboxId → new i = [] := by
  rcases itcCreateMailbox_notifies h hname hcall with
    rfl | ⟨q₁, i, s₁, hinv, hsame, -, -, -, hnotify⟩
  · exact ⟨toNobody, .nothing hcontacts (.refl _), fun _ _ => rfl⟩
  · have hcontacts₁ : ContactOk s₁.kernel s₁.sysvmqInst := by
      rw [hsame.kernel, hsame.inst]
      exact hcontacts
    obtain ⟨new, hposted, hnew⟩ := notifyCoord_posts hE hinv.layout hcontacts₁ hname hnotify
    rw [hsame.coord] at hnew
    exact ⟨new, hposted.congr hsame (.refl _), hnew⟩

/-- A mailbox that is deleted is its thread's until the coordinator has been notified. -/
theorem itcDeleteMailbox_notifies {fuel tid : Nat} {mboxId : MboxId} {ret : Bool}
    (h : s.Inv q) (hcall : itcDeleteMailbox E fuel s tid mboxId = .ok (some (ret, s'))) :
    s' = s ∧ ret = false ∨ ∃ me s₁ s₂, s₁.Inv q ∧ SameSysvmq s s₁ ∧
      s₁.myMboxIdInItccoord = s.myMboxIdInItccoord ∧ s.myThreadlocalMbox tid = some me ∧
      s₁.myThreadlocalMbox tid = some me ∧ mboxId = (s.mboxes me).mboxId ∧
      mboxId = (s₁.mboxes me).mboxId ∧
      notifyCoord E fuel s₁ tid ITC_NOTIFY_COORD_RMV_MBOX mboxId (s.mboxes me).name =
        .ok (some s₂) ∧ SameSysvmq s₂ s' := by
  unfold itcDeleteMailbox at hcall
  split at hcall
  · cases hcall
    exact .inl ⟨rfl, rfl⟩
  · rename_i me ht
    split at hcall
    · cases hcall
      exact .inl ⟨rfl, rfl⟩
    · rename_i hid
      rw [ne_eq, not_not] at hid
      split at hcall
      · cases hcall
      · obtain ⟨t, htree⟩ := removeMboxFromTree_eq E s me
        simp only [htree] at hcall
        obtain ⟨s₂, hnotify, hcall⟩ := bind_some_eq_ok hcall rfl
        have htreeInv : (s.setTree t).Inv q := ⟨{ h.layout with }, h.holds, h.messages,
          ⟨h.slots.queue, h.slots.inuse, h.slots.closed, h.slots.freeNodup, h.slots.free,
            h.slots.thread, h.slots.threadInj, h.slots.names⟩⟩
        have hinv : ((s.setTree t).setMbox me ((s.setTree t).mboxes me).close).Inv q :=
          ⟨htreeInv.layout.setMbox rfl, h.holds, h.messages,
            htreeInv.slots.setMbox rfl (fun hs => by cases hs) (fun _ => rfl) rfl⟩
        have hclose : ((s.setTree t).setMbox me ((s.setTree t).mboxes me).close).mboxes me =
            (s.mboxes me).close := if_pos rfl
        refine .inr ⟨me, _, s₂, hinv, ⟨rfl, rfl, rfl⟩, rfl, ht, ht, hid, ?_, ?_, ?_⟩
        · rw [hclose]
          exact hid
        · rw [hclose] at hnotify
          exact hnotify
        · obtain ⟨⟨rc, inst, heap⟩, -, hcall⟩ := bind_some_eq_ok hcall rfl
          simp only at hcall
          split at hcall
          · cases hcall
            exact ⟨rfl, rfl, rfl⟩
          · cases hcall
            exact ⟨rfl, rfl, rfl⟩

theorem itcDeleteMailbox_posts {fuel tid : Nat} {mboxId : MboxId} {ret : Bool}
    (hE : E.kernel = limitKernel M) (h : s.Inv q) (hcontacts : ContactOk s.kernel s.sysvmqInst)
    (hcall : itcDeleteMailbox E fuel s tid mboxId = .ok (some (ret, s'))) :
    ∃ new, Posted E.endian s s' new ∧ ∀ i, i ≠ procOf s.itccoordMboxId → new i = [] := by
  rcases itcDeleteMailbox_notifies h hcall with
    ⟨rfl, -⟩ | ⟨me, s₁, s₂, hinv, hsame, -, -, -, -, -, hnotify, hafter⟩
  · exact ⟨toNobody, .nothing hcontacts (.refl _), fun _ _ => rfl⟩
  · have hcontacts₁ : ContactOk s₁.kernel s₁.sysvmqInst := by
      rw [hsame.kernel, hsame.inst]
      exact hcontacts
    obtain ⟨new, hposted, hnew⟩ :=
      notifyCoord_posts hE hinv.layout hcontacts₁ (h.slots.names me) hnotify
    rw [hsame.coord] at hnew
    exact ⟨new, hposted.congr hsame hafter, hnew⟩

/-! ## Every call -/

/-- What a user has put into a message. -/
def ItcMessage.content (m : ItcMessage) : ItcMessage :=
  { m with flags := 0, sender := 0, receiver := 0 }

/-- What a call has left to another process for its mailbox `id`. -/
def ItcInstance.posted (s : ItcInstance KernelQueues) : ItcEvent → MboxId → List ItcMessage
  | .send _ (some d) toMbox _ true, id =>
      if toMbox = id ∧ procOf toMbox ≠ procOf s.myMboxIdInItccoord then
        ((s.heap.cells d.1).map ItcMessage.content).toList
      else []
  | _, _ => []

/-- The contents of the messages for the mailbox `id`. -/
def contentsFor (id : MboxId) (l : List UserMessage) : List ItcMessage :=
  ((l.map UserMessage.msg).filter fun m => m.receiver = id).map ItcMessage.content

/-- The messages of a send have its receiver. -/
def ItcEvent.SendsTo (a : ItcEvent) (id : MboxId) : Prop :=
  match a with
  | .send _ _ toMbox _ _ => toMbox = id
  | _ => False

/-- What the call sends for another mailbox of its process is for one that exists. -/
def KnowsOwn (s : ItcInstance KernelQueues) (a : ItcEvent) : Prop :=
  ∀ id, a.SendsTo id → procOf id = procOf s.myMboxIdInItccoord →
    ∃ i, i < s.nrMboxes.toNat ∧ (s.mboxes i).mboxId = id

theorem contentsFor_append (id : MboxId) (l l' : List UserMessage) :
    contentsFor id (l ++ l') = contentsFor id l ++ contentsFor id l' := by
  rw [contentsFor, List.map_append, List.filter_append, List.map_append, contentsFor, contentsFor]

theorem contentsFor_cons (id : MboxId) (m : UserMessage) (l : List UserMessage) :
    contentsFor id (m :: l) =
      (if m.msg.receiver = id then [m.msg.content] else []) ++ contentsFor id l := by
  rw [contentsFor, List.map_cons, List.filter_cons]
  by_cases hm : m.msg.receiver = id
  · rw [if_pos (decide_eq_true hm), if_pos hm]
    rfl
  · rw [if_neg (by rw [decide_eq_true_iff]; exact hm), if_neg hm]
    rfl

theorem toProc_contents {u : UserMessage} {my toMbox id : MboxId} {i : Nat} (hid : procOf id = i) :
    contentsFor id (toProc (procOf toMbox) (u.stamp my toMbox) i) =
      if toMbox = id then [u.msg.content] else [] := by
  subst hid
  have hreceiver : (u.stamp my toMbox).msg.receiver = toMbox := rfl
  by_cases hto : toMbox = id
  · rw [if_pos hto, toProc, hto, if_pos rfl]
    simp only [contentsFor, List.map_cons, List.map_nil, ← hto, hreceiver, decide_true,
      List.filter_cons_of_pos, List.filter_nil]
    rfl
  · rw [if_neg hto, toProc]
    split
    · simp only [contentsFor, List.map_cons, List.map_nil, List.filter_cons, hreceiver, hto,
        decide_false, Bool.false_eq_true, if_false, List.filter_nil]
    · rfl

/-- What a call has put into the queue of a process other than the coordinator's. -/
structure PostedBy (s : ItcInstance KernelQueues) (a : ItcEvent) (i : Nat)
    (l : List UserMessage) : Prop where
  receiver : ∀ m ∈ l, a.SendsTo m.msg.receiver
  contents : ∀ id, procOf id = i → contentsFor id l = s.posted a id

theorem PostedBy.nil {a : ItcEvent} {i : Nat} (h : ∀ id, procOf id = i → s.posted a id = []) :
    PostedBy s a i [] :=
  ⟨fun _ hm => absurd hm List.not_mem_nil, fun id hid => (h id hid).symm⟩

/-- The message of a send to another process. -/
theorem PostedBy.send {tid p i : Nat} {u : UserMessage} {toMbox fromMbox : MboxId}
    {r : SendResult KernelQueues} (hu : s.heap.cells p = some u.msg)
    (hremote : procOf toMbox ≠ procOf s.myMboxIdInItccoord) :
    PostedBy s (.send tid (some (r.s.delivery p)) toMbox fromMbox r.ret) i
      ((if r.ret then toProc (procOf toMbox) (u.stamp (s.myMboxId tid) toMbox)
        else toNobody) i) := by
  have hcell : s.heap.cells (r.s.delivery p).1 = some u.msg := hu
  cases hret : r.ret with
  | false => exact .nil fun _ _ => rfl
  | true =>
    rw [if_pos rfl]
    constructor
    · intro m hm
      rw [(mem_toProc hm).2]
      rfl
    · intro id hid
      rw [toProc_contents hid, ItcInstance.posted, hcell]
      by_cases hto : toMbox = id
      · rw [if_pos hto, if_pos ⟨hto, hremote⟩]
        rfl
      · rw [if_neg hto, if_neg fun hboth => hto hboth.1]

/-- A send within the process leaves nothing to another. -/
theorem posted_own {tid : Nat} {d : Option Delivery} {toMbox fromMbox id : MboxId} {ret : Bool}
    (hown : procOf toMbox = procOf s.myMboxIdInItccoord) :
    s.posted (.send tid d toMbox fromMbox ret) id = [] := by
  cases d with
  | none => rfl
  | some d =>
    cases ret with
    | false => rfl
    | true => exact if_neg fun hboth => hboth.2 hown

/-- Into its own process's queue a call puts nothing. -/
theorem PostedBy.own {a : ItcEvent} {l : List UserMessage}
    (h : PostedBy s a (procOf s.myMboxIdInItccoord) l)
    (hreceivers : ∀ m ∈ l, procOf m.msg.receiver = procOf s.myMboxIdInItccoord) : l = [] := by
  cases l with
  | nil => rfl
  | cons m l =>
    have hto := h.receiver m List.mem_cons_self
    have hproc := hreceivers m List.mem_cons_self
    have hcontents := h.contents m.msg.receiver hproc
    rw [contentsFor_cons, if_pos rfl] at hcontents
    cases a with
    | send tid d toMbox fromMbox ret =>
      rw [posted_own (by rw [show toMbox = m.msg.receiver from hto, hproc])] at hcontents
      cases hcontents
    | _ => exact hto.elim

/-- A send to a mailbox of the process goes into no queue of the host. -/
theorem itcSend_posts_own {fuel tid p i : Nat} {u : UserMessage} {fromMbox : MboxId}
    {r : SendResult KernelQueues} (hmem : E.qitemMem = true) (h : s.Inv q)
    (hcontacts : ContactOk s.kernel s.sysvmqInst) (hi : i < s.nrMboxes.toNat)
    (hu : s.heap.cells p = some u.msg)
    (hsend : itcSend E fuel s tid (some p) (s.mboxes i).mboxId fromMbox = .ok (some r)) :
    Posted E.endian s r.s toNobody := by
  cases (itcSend_returns h hu fuel tid _ fromMbox).of_eq hsend with
  | rejected _ => exact .nothing hcontacts ⟨rfl, rfl, rfl⟩
  | host _ hhost =>
    rcases hhost.ofId h hmem hi with ⟨heap', -, -, rfl⟩ | ⟨l, rxq, heap', -, -, -, rfl⟩
    · exact .nothing hcontacts ⟨rfl, rfl, rfl⟩
    · exact .nothing hcontacts ⟨rfl, rfl, rfl⟩

/-- **What a call puts into the queues of the host**: the message of a send to another process that
returns `true`, and notifications for the coordinator. -/
theorem ItcStep.posts {a : ItcEvent} (hE : E.kernel = limitKernel M) (hmem : E.qitemMem = true)
    (h : s.Inv q) (hcontacts : ContactOk s.kernel s.sysvmqInst) (hown : UsesOwn s a)
    (hcoord : procOf s.itccoordMboxId = 1)
    (hknows : procOf s.myMboxIdInItccoord ≠ 1 → KnowsOwn s a) (hstep : ItcStep E s a s') :
    ∃ new, Posted E.endian s s' new ∧ ∀ i, i ≠ 1 → PostedBy s a i (new i) := by
  have hnothing {a : ItcEvent} (hsame : SameSysvmq s s') (hnone : ∀ id, s.posted a id = []) :
      ∃ new, Posted E.endian s s' new ∧ ∀ i, i ≠ 1 → PostedBy s a i (new i) :=
    ⟨toNobody, .nothing hcontacts hsame, fun i _ => .nil fun id _ => hnone id⟩
  cases hstep with
  | alloc _ => exact hnothing ⟨rfl, rfl, rfl⟩ fun _ => rfl
  | write _ => exact hnothing ⟨rfl, rfl, rfl⟩ fun _ => rfl
  | free call =>
    exact hnothing (itcFree_same call) fun _ => rfl
  | createMailbox call =>
    obtain ⟨new, hposted, hnew⟩ := itcCreateMailbox_posts hE h hcontacts hown call
    rw [hcoord] at hnew
    exact ⟨new, hposted, fun i hi => by rw [hnew i hi]; exact .nil fun _ _ => rfl⟩
  | @send fuel tid msg toMbox fromMbox r call =>
    cases msg with
    | none =>
      rw [itcSend_null] at call
      cases call
      exact hnothing ⟨rfl, rfl, rfl⟩ fun _ => rfl
    | some p =>
      obtain ⟨u, hu⟩ := hown _ rfl
      have hlayout := h.layout
      by_cases hproc : procOf toMbox = procOf s.myMboxIdInItccoord
      · have hnone : ∀ i,
            PostedBy s (.send tid (some (r.s.delivery p)) toMbox fromMbox r.ret) i [] :=
          fun i => .nil fun id _ => posted_own hproc
        by_cases hmy : procOf s.myMboxIdInItccoord = 1
        · by_cases haccepts : LocalAccepts E.qitemMem s.localInst toMbox
          · exact ⟨toNobody, itcSend_posts_local h hcontacts haccepts hu call, fun i _ => hnone i⟩
          · refine ⟨_, itcSend_posts hE hcontacts haccepts hu call, fun i hi => ?_⟩
            split
            · rw [toProc, if_neg (by rw [hproc, hmy]; exact hi)]
              exact hnone i
            · exact hnone i
        · obtain ⟨i, hi, rfl⟩ := hknows hmy toMbox rfl hproc
          exact ⟨toNobody, itcSend_posts_own hmem h hcontacts hi hu call, fun i _ => hnone i⟩
      · have hno : ¬ LocalAccepts E.qitemMem s.localInst toMbox :=
          not_localAccepts hlayout (mt (and_coordMask_eq_iff hlayout.my toMbox).mp hproc)
        exact ⟨_, itcSend_posts hE hcontacts hno hu call, fun i _ => .send hu hproc⟩
  | receive call =>
    rcases itcReceive_changes call with rfl | ⟨_, _, _, _, _, _, -, rfl⟩
    · exact hnothing ⟨rfl, rfl, rfl⟩ fun _ => rfl
    · exact hnothing ⟨rfl, rfl, rfl⟩ fun _ => rfl
  | getFd call =>
    rcases itcGetFd_changes call with rfl | ⟨_, _, rfl⟩
    · exact hnothing ⟨rfl, rfl, rfl⟩ fun _ => rfl
    · exact hnothing ⟨rfl, rfl, rfl⟩ fun _ => rfl
  | deleteMailbox call =>
    obtain ⟨new, hposted, hnew⟩ := itcDeleteMailbox_posts hE h hcontacts call
    rw [hcoord] at hnew
    exact ⟨new, hposted, fun i hi => by rw [hnew i hi]; exact .nil fun _ _ => rfl⟩

end ItcFramework
