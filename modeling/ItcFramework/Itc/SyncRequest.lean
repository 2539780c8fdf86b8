import ItcFramework.Itc.Ownership
import ItcFramework.Itc.Waiting

/-!
# The synchronous requests of a process are exchanges

`itc_locate_sync_zz`, `itc_get_namespace_zz` and `itc_send_zz` for a foreign namespace wait for a
reply in the caller's rx queue.

* `locateWaits`, `namespaceWaits`, `sendWaits` — the waits of a call;
* `itcLocateSync_exchange`, `itcGetNamespace_exchange`, `itcSendZz_exchange` — each call is an
  exchange with these waits.
-/

set_option autoImplicit false

namespace ItcFramework

open ByteImage HeapModel ItcInstance Transition

variable {σ : Type} {E : ItcEnv σ} {s s' : ItcInstance σ} {q : Queues} {own : Nat → Prop}
  {tid me : Nat}

/-! ## Exchanges of one wait -/

/-- The end of the wait for the `reply` to `request` that starts in `s`. -/
def Wait.finish (wait : Wait σ) (request : Nat) (reply : UInt32) (s : ItcInstance σ) :
    WaitEnd σ :=
  ⟨(wait s).1, (wait s).2, request, reply⟩

/-- The process is in order once the thread has looked into its queue. -/
theorem Takes.refl_after {w : WaitEnd σ} (h : Takes tid me w s') : Quiet tid me s' s' := by
  cases h with
  | nothing _ hquiet =>
    obtain ⟨q', h'⟩ := hquiet.inv
    exact .refl h' hquiet.thread
  | first _ _ hs ht _ _ _ =>
    obtain ⟨q', h'⟩ := hs
    exact .refl h' ht

/-- Nothing but the wait touches the queue of the thread. -/
theorem Exchange.of_receiveTmo {wait : Wait σ} {o : Option Nat} {s₁ s₂ : ItcInstance σ}
    (request : Nat) (reply : UInt32) (hwait : wait.Others E tid own) (h : s.Inv q)
    (ht : s.myThreadlocalMbox tid = some me)
    (hcall : itcReceiveTmo wait s tid = .ok (some (o, s₁)))
    (hfree : ∀ p, o = some p → itcFree s₁ p = .ok s₂) (hnone : o = none → s₂ = s₁) :
    Exchange tid me s [wait.finish request reply s] s₂ := by
  have htakes := takes_of_receiveTmo request reply hwait h ht hcall hfree hnone
  exact .wait (hwait.quiet h ht) htakes (.done htakes.refl_after)

/-! ## Locating -/

theorem Quiet.sendLocateRequest {fuel : Nat} {myMbox : MboxId} {timeout : UInt32}
    {name : CString} {findOnlyInternal b : Bool} (h : s.Inv q)
    (ht : s.myThreadlocalMbox tid = some me)
    (hcall : sendLocateRequest E fuel s tid myMbox timeout name findOnlyInternal =
      .ok (some (b, s'))) : Quiet tid me s s' := by
  obtain ⟨m, hm, hcall⟩ := bind_eq_ok hcall
  obtain ⟨u, rfl, -⟩ := syncMsg_made hm
  have hquiet := Quiet.alloc h ht u.msg
  obtain ⟨q', h'⟩ := hquiet.inv
  exact hquiet.trans (.sendOrFree h' hquiet.thread (Heap.push_next s.heap u.msg) hcall)

/-- The waits of `itc_locate_sync_zz`. The request is the first message that the call allocates. -/
def locateWaits (E : ItcEnv σ) (fuel : Nat) (wait : Wait σ) (s : ItcInstance σ) (tid : Nat)
    (timeout : UInt32) (name : CString) (findOnlyInternal : Bool) : List (WaitEnd σ) :=
  match s.myThreadlocalMbox tid, locateLocalMbox s name with
  | some me, none =>
      match sendLocateRequest E fuel s tid (s.mboxes me).mboxId timeout name findOnlyInternal with
      | .ok (some (true, s')) => [wait.finish s.heap.next ITC_LOCATE_MBOX_SYNC_REPLY s']
      | _ => []
  | _, _ => []

theorem awaitLocateReply_exchange {wait : Wait σ} {findOnlyInternal : Bool} {r : LocateResult}
    (request : Nat) (h : s.Inv q) (ht : s.myThreadlocalMbox tid = some me) (hwait : wait.Others E tid own)
    (hcall : awaitLocateReply E wait s tid findOnlyInternal = .ok (some (r, s'))) :
    Exchange tid me s [wait.finish request ITC_LOCATE_MBOX_SYNC_REPLY s] s' := by
  obtain ⟨⟨msg, s₁⟩, hreceive, hcall⟩ := bind_some_eq_ok hcall rfl
  cases msg with
  | none =>
    cases hcall
    exact .of_receiveTmo _ _ hwait h ht hreceive (fun p hp => by cases hp) fun _ => rfl
  | some p =>
    obtain ⟨m, -, hcall⟩ := bind_eq_ok hcall
    obtain ⟨reply, -, hcall⟩ := bind_eq_ok hcall
    obtain ⟨s₂, hfree, hcall⟩ := bind_eq_ok hcall
    cases hcall
    refine .of_receiveTmo _ _ hwait h ht hreceive ?_ fun hp => by cases hp
    rintro _ ⟨⟩
    exact hfree

/-- **A search for a mailbox is an exchange**, whatever it finds. -/
theorem itcLocateSync_exchange {fuel : Nat} {wait : Wait σ} {timeout : UInt32} {name : CString}
    {findOnlyInternal : Bool} {r : LocateResult} (h : s.Inv q)
    (ht : s.myThreadlocalMbox tid = some me) (hwait : wait.Others E tid own)
    (hcall : itcLocateSync E fuel wait s tid timeout name findOnlyInternal = .ok (some (r, s'))) :
    Exchange tid me s (locateWaits E fuel wait s tid timeout name findOnlyInternal) s' := by
  simp only [itcLocateSync, ht] at hcall
  simp only [locateWaits, ht]
  cases hlocal : locateLocalMbox s name with
  | some mbox =>
    rw [hlocal] at hcall
    cases hcall
    exact .done (.refl h ht)
  | none =>
    rw [hlocal] at hcall
    obtain ⟨⟨sent, s₁⟩, hsend, hcall⟩ := bind_some_eq_ok hcall rfl
    simp only [hsend]
    have hquiet := Quiet.sendLocateRequest h ht hsend
    cases sent with
    | false =>
      cases hcall
      exact .done hquiet
    | true =>
      obtain ⟨q₁, h₁⟩ := hquiet.inv
      exact .of_quiet hquiet (awaitLocateReply_exchange _ h₁ hquiet.thread hwait hcall)

/-! ## The namespace -/

/-- The process but for what the calls remember of the gateway. -/
theorem ItcInstance.Inv.setNs (h : s.Inv q) (ns : CString) : (s.setNs ns).Inv q where
  layout := ⟨h.layout.my, h.layout.mask, h.layout.nrPos, h.layout.nrLt, h.layout.localMask,
    h.layout.ids, h.layout.localInst, h.layout.sysvmqInst⟩
  holds := h.holds
  messages := h.messages
  slots := ⟨h.slots.queue, h.slots.inuse, h.slots.closed, h.slots.freeNodup, h.slots.free,
    h.slots.thread, h.slots.threadInj, h.slots.names⟩

/-- The request is small enough to be granted. -/
theorem getNamespaceRequest_ok (e : Endian) (a : Allocator) (mboxId : MboxId) :
    ∃ u : UserMessage, getNamespaceRequest e a mboxId = .ok u.msg := by
  have ha := a.ge
  have halloc := itcAllocZz_ok e a ITC_GET_NAMESPACE_REQUEST (show 4 ≤ 8 by omega)
    (by simp only [ITC_MAX_MSGSIZE, ITC_HEADER_SIZE] at ha ⊢; omega)
  have hstore : store32 e (ItcMessage.fresh e 8 ITC_GET_NAMESPACE_REQUEST).body 4 mboxId =
      .ok (word e ITC_GET_NAMESPACE_REQUEST ++ (word e mboxId ++ [ENDPOINT])) :=
    store32_of_eq (a := word e ITC_GET_NAMESPACE_REQUEST) (o := List.replicate 4 0)
      (by simp only [ItcMessage.fresh, List.append_assoc]) (by simp) (by simp)
  obtain ⟨u, hu, -⟩ := exists_userMessage e 8 ITC_GET_NAMESPACE_REQUEST
    (word e ITC_GET_NAMESPACE_REQUEST ++ word e mboxId) (by omega) (by omega) (by simp)
  refine ⟨u, ?_⟩
  rw [← hu]
  simp only [getNamespaceRequest, halloc, deref, bind, Except.bind, hstore, List.append_assoc]
  rfl

/-- The waits of `itc_get_namespace_zz`. -/
def namespaceWaits (E : ItcEnv σ) (fuel : Nat) (wait₁ wait₂ : Wait σ) (s : ItcInstance σ)
    (tid : Nat) (timeout : UInt32) : List (WaitEnd σ) :=
  match s.myThreadlocalMbox tid with
  | none => []
  | some me =>
      if s.ns ≠ .empty then []
      else
        match getNamespaceRequest E.endian E.malloc (s.mboxes me).mboxId with
        | .error _ => []
        | .ok m =>
            let (req, s) := s.alloc m
            locateWaits E fuel wait₁ s tid timeout ITC_GATEWAY_MBOX_UDP_NAME true ++
              match itcLocateSync E fuel wait₁ s tid timeout ITC_GATEWAY_MBOX_UDP_NAME true with
              | .ok (some (udp, s)) =>
                  if udp.mboxId = ITC_NO_MBOX_ID then []
                  else
                    match sendOrFree E fuel s tid req udp.mboxId ITC_MY_MBOX_ID with
                    | .ok (some (true, s)) => [wait₂.finish req ITC_GET_NAMESPACE_REPLY s]
                    | _ => []
              | _ => []

theorem awaitNamespaceReply_exchange {wait : Wait σ} {r : Option CString} (request : Nat)
    (h : s.Inv q) (ht : s.myThreadlocalMbox tid = some me) (hwait : wait.Others E tid own)
    (hcall : awaitNamespaceReply E wait s tid = .ok (some (r, s'))) :
    Exchange tid me s [wait.finish request ITC_GET_NAMESPACE_REPLY s] s' := by
  obtain ⟨⟨msg, s₁⟩, hreceive, hcall⟩ := bind_some_eq_ok hcall rfl
  cases msg with
  | none =>
    cases hcall
    exact .of_receiveTmo _ _ hwait h ht hreceive (fun p hp => by cases hp) fun _ => rfl
  | some p =>
    obtain ⟨m, -, hcall⟩ := bind_eq_ok hcall
    obtain ⟨reply, -, hcall⟩ := bind_eq_ok hcall
    obtain ⟨s₂, hfree, hcall⟩ := bind_eq_ok hcall
    have hexchange : Exchange tid me s [wait.finish request ITC_GET_NAMESPACE_REPLY s] s₂ := by
      refine .of_receiveTmo _ _ hwait h ht hreceive ?_ fun hp => by cases hp
      rintro _ ⟨⟩
      exact hfree
    cases reply with
    | none =>
      cases hcall
      exact hexchange
    | some ns =>
      cases hcall
      obtain ⟨q₂, h₂⟩ := hexchange.inv
      exact hexchange.then_quiet
        (.of_inv h₂ (h₂.setNs ns) hexchange.thread (fun _ _ _ _ => rfl) (.refl _)
          fun hr => hr.congr rfl fun _ => rfl)

/-- **A request for the namespace is an exchange.** The other threads leave the request alone while
the gateway's mailbox is being located. -/
theorem itcGetNamespace_exchange {fuel : Nat} {wait₁ wait₂ : Wait σ} {timeout : UInt32}
    {r : Option CString} (h : s.Inv q) (ht : s.myThreadlocalMbox tid = some me)
    (hwait₁ : wait₁.Others E tid own) (hwait₂ : wait₂.Others E tid own) (hown : own s.heap.next)
    (hcall : itcGetNamespace E fuel wait₁ wait₂ s tid timeout = .ok (some (r, s'))) :
    Exchange tid me s (namespaceWaits E fuel wait₁ wait₂ s tid timeout) s' := by
  obtain ⟨u, hu⟩ := getNamespaceRequest_ok E.endian E.malloc (s.mboxes me).mboxId
  simp only [itcGetNamespace, ht] at hcall
  simp only [namespaceWaits, ht]
  split at hcall
  · rename_i hns
    rw [if_pos hns]
    cases hcall
    exact .done (.refl h ht)
  · rename_i hns
    rw [if_neg hns]
    simp only [hu]
    simp only [hu, bind, Except.bind] at hcall
    have hquiet := Quiet.alloc h ht u.msg
    obtain ⟨q₁, h₁⟩ := hquiet.inv
    obtain ⟨⟨udp, s₂⟩, hlocate, hcall⟩ := bind_some_eq_ok hcall rfl
    simp only [hlocate]
    have hsearch := itcLocateSync_exchange h₁ hquiet.thread hwait₁ hlocate
    obtain ⟨⟨q₂, h₂⟩, hheld⟩ := itcLocateSync_kept h₁ hwait₁.keeps hlocate
    have hreq : s₂.heap.cells s.heap.next = some u.msg :=
      hheld s.heap.next u hown (Heap.push_next s.heap u.msg)
    refine .of_quiet hquiet (hsearch.append ?_)
    simp only at hcall ⊢
    split at hcall
    · rename_i hno
      rw [if_pos hno]
      obtain ⟨s₃, hfree, hcall⟩ := bind_eq_ok hcall
      cases hcall
      exact .done (.free h₂ hsearch.thread hreq hfree)
    · rename_i hno
      rw [if_neg hno]
      obtain ⟨⟨sent, s₃⟩, hsend, hcall⟩ := bind_some_eq_ok hcall rfl
      simp only [hsend]
      have hquiet₃ := Quiet.sendOrFree h₂ hsearch.thread hreq hsend
      cases sent with
      | false =>
        cases hcall
        exact .done hquiet₃
      | true =>
        obtain ⟨q₃, h₃⟩ := hquiet₃.inv
        exact .of_quiet hquiet₃
          (awaitNamespaceReply_exchange _ h₃ hquiet₃.thread hwait₂ hcall)

/-! ## Sending out of the host -/

/-- The waits of `itc_send_zz` from the point where the message leaves the host. -/
def forwardWaits (E : ItcEnv σ) (fuel : Nat) (wait : Wait σ) (s : ItcInstance σ) (tid : Nat)
    (myMbox : MboxId) (message : Nat) (toMbox : MboxId) (ns : CString) : List (WaitEnd σ) :=
  match s.heap.read message with
  | .error _ => []
  | .ok m =>
      match s.heap.write message (m.stamp myMbox toMbox),
        fwdRequest E.endian E.malloc (m.stamp myMbox toMbox) ns with
      | .ok heap, .ok (some req) =>
          let (_, s) := (s.setHeap heap).alloc req
          if s.itcgwMboxid ≠ ITC_NO_MBOX_ID then []
          else locateWaits E fuel wait s tid 1000 ITC_GATEWAY_MBOX_TCP_CLI_NAME true
      | _, _ => []

/-- The waits of `itc_send_zz`. -/
def sendWaits (E : ItcEnv σ) (fuel : Nat) (wait : Wait σ) (s : ItcInstance σ) (tid : Nat)
    (msg : Option Nat) (toMbox fromMbox : MboxId) (ns : Option CString) : List (WaitEnd σ) :=
  match ns, s.myThreadlocalMbox tid, msg with
  | some ns, some me, some message =>
      let myMbox := (s.mboxes me).mboxId
      if ns = s.ns ∨ fromMbox ≠ ITC_MY_MBOX_ID ∧ fromMbox ≠ myMbox then []
      else forwardWaits E fuel wait s tid myMbox message toMbox ns
  | _, _, _ => []

/-- Stamping the message, the request and the search for the gateway. -/
theorem prepareForward_exchange {fuel p : Nat} {wait : Wait σ} {m : UserMessage}
    {myMbox toMbox : MboxId} {ns : CString} {o : Option (Nat × MboxId)} (h : s.Inv q)
    (ht : s.myThreadlocalMbox tid = some me) (hm : s.heap.cells p = some m.msg)
    (hwait : wait.Others E tid own) (hown : own s.heap.next)
    (hcall : prepareForward E fuel wait s tid myMbox p toMbox ns = .ok (some (o, s'))) :
    Exchange tid me s (forwardWaits E fuel wait s tid myMbox p toMbox ns) s' := by
  obtain ⟨heap₁, hwrite, hself, hframe, hnext⟩ :=
    Heap.write_of_live (b := m.msg.stamp myMbox toMbox) hm
  have h₁ : (s.setHeap heap₁).Inv q := h.ofHeld hm hframe
  have hstamp : Quiet tid me s (s.setHeap heap₁) := .of_held h h₁ ht hm hframe (.write hwrite)
    fun hr => hr.congr rfl fun _ => rfl
  simp only [prepareForward, Heap.read_of_live hm, hwrite, bind, Except.bind] at hcall
  simp only [forwardWaits, Heap.read_of_live hm, hwrite]
  obtain ⟨o₁, hreq, hcall⟩ := bind_eq_ok hcall
  simp only [hreq]
  cases o₁ with
  | none =>
    cases hcall
    exact .done hstamp
  | some req =>
    obtain ⟨u, rfl⟩ := fwdRequest_user (m.stamp myMbox toMbox).wellFormed hreq
    have halloc := hstamp.trans (.alloc h₁ hstamp.thread u.msg)
    obtain ⟨q₂, h₂⟩ := halloc.inv
    refine .of_quiet halloc ?_
    obtain ⟨⟨itcgw, s₃⟩, hfind, hcall⟩ := bind_some_eq_ok hcall rfl
    -- the search for the gateway, which the process remembers
    have hsearch : Exchange tid me ((s.setHeap heap₁).alloc u.msg).2
        (if ((s.setHeap heap₁).alloc u.msg).2.itcgwMboxid ≠ ITC_NO_MBOX_ID then []
          else locateWaits E fuel wait ((s.setHeap heap₁).alloc u.msg).2 tid 1000
            ITC_GATEWAY_MBOX_TCP_CLI_NAME true) s₃ := by
      unfold findItcgw at hfind
      split at hfind
      · rename_i hknown
        rw [if_pos hknown]
        cases hfind
        exact .done (.refl h₂ halloc.thread)
      · rename_i hknown
        rw [if_neg hknown]
        obtain ⟨⟨r, s₄⟩, hlocate, hfind⟩ := bind_some_eq_ok hfind rfl
        cases hfind
        have hexchange := itcLocateSync_exchange h₂ halloc.thread hwait hlocate
        obtain ⟨q₄, h₄⟩ := hexchange.inv
        exact hexchange.then_quiet (.of_inv h₄ (h₄.setItcgwMboxid r.mboxId) hexchange.thread
          (fun _ _ _ _ => rfl) (.refl _) fun hr => hr.congr rfl fun _ => rfl)
    have hkept := findItcgw_kept h₂ hwait.keeps hfind
    have hreq₃ : s₃.heap.cells heap₁.next = some u.msg :=
      hkept.held heap₁.next u (by rwa [hnext]) (Heap.push_next heap₁ u.msg)
    simp only at hcall
    split at hcall
    · obtain ⟨q₃, h₃⟩ := hsearch.inv
      obtain ⟨_, hfree, hcall⟩ := bind_eq_ok hcall
      cases hcall
      exact hsearch.then_quiet (.free h₃ hsearch.thread hreq₃ hfree)
    · cases hcall
      exact hsearch

/-- **A send is an exchange**: to a foreign namespace it looks for the gateway first. The other
threads leave the message and its request alone. -/
theorem itcSendZz_exchange {fuel : Nat} {wait : Wait σ} {msg : Option Nat}
    {toMbox fromMbox : MboxId} {ns : Option CString} {r : SendResult σ} (h : s.Inv q)
    (ht : s.myThreadlocalMbox tid = some me) (hmsg : ∀ p, msg = some p → s.Held p ∧
      wait.Others E tid fun p' => p' = p ∨ p' = s.heap.next)
    (hcall : itcSendZz E fuel wait s tid msg toMbox fromMbox ns = .ok (some r)) :
    Exchange tid me s (sendWaits E fuel wait s tid msg toMbox fromMbox ns) r.s := by
  cases msg with
  | none =>
    rw [itcSendZz_null] at hcall
    cases hcall
    have hwaits : sendWaits E fuel wait s tid none toMbox fromMbox ns = [] := by
      unfold sendWaits
      split
      · rename_i hnone
        cases hnone
      · rfl
    rw [hwaits]
    exact .done (.refl h ht)
  | some p =>
    obtain ⟨⟨m, hm⟩, hwait⟩ := hmsg p rfl
    cases ns with
    | none => exact .done (.send h ht hm hcall)
    | some ns =>
      simp only [itcSendZz, ht] at hcall
      simp only [sendWaits, ht]
      by_cases hns : ns = s.ns
      · rw [if_pos hns] at hcall
        rw [if_pos (.inl hns)]
        exact .done (.send h ht hm hcall)
      · rw [if_neg hns] at hcall
        by_cases hfrom : fromMbox ≠ ITC_MY_MBOX_ID ∧ fromMbox ≠ (s.mboxes me).mboxId
        · rw [if_pos hfrom] at hcall
          rw [if_pos (.inr hfrom)]
          cases hcall
          exact .done (.refl h ht)
        · rw [if_neg hfrom] at hcall
          rw [if_neg (not_or.mpr ⟨hns, hfrom⟩)]
          obtain ⟨⟨request, s₁⟩, hprepare, hcall⟩ := bind_some_eq_ok hcall rfl
          have hexchange := prepareForward_exchange h ht hm hwait (.inr rfl) hprepare
          obtain ⟨⟨q₁, h₁⟩, hp₁, hreq₁⟩ := prepareForward_spec h hm hwait.keeps hprepare
          cases request with
          | none =>
            cases hcall
            exact hexchange
          | some request =>
            obtain ⟨req, itcgw⟩ := request
            obtain ⟨hne, u, hu, -⟩ := hreq₁ req itcgw rfl
            obtain ⟨r₁, hsend, hcall⟩ := bind_some_eq_ok hcall rfl
            have hquiet := Quiet.send h₁ hexchange.thread hu hsend
            have hsent := (itcSend_returns h₁ hu fuel tid itcgw ITC_MY_MBOX_ID).of_eq hsend
            obtain ⟨⟨q₂, h₂⟩, hframe₂⟩ := hsent.inv h₁ hu
            cases hret : r₁.ret with
            | false =>
              obtain ⟨-, -, u', hu', -⟩ := hsent.failed hu hret
              simp only [hret, Bool.false_eq_true, not_false_eq_true, if_true] at hcall
              obtain ⟨s₃, hfree, hcall⟩ := bind_eq_ok hcall
              cases hcall
              exact hexchange.then_quiet (hquiet.trans (.free h₂ hquiet.thread hu' hfree))
            | true =>
              have hp₂ := (hframe₂ p hne.symm).trans hp₁
              obtain ⟨heap₃, hfree, -, hframe₃, -⟩ := itcFreeZz_user hp₂
              have hgone : itcFree r₁.s p = .ok (r₁.s.setHeap heap₃) := by
                simp only [itcFree, hfree, bind, Except.bind]
                rfl
              simp only [hret, not_true_eq_false, if_false, Heap.read_of_live hp₂, hfree,
                bind, Except.bind] at hcall
              cases hcall
              exact hexchange.then_quiet (hquiet.trans (.free h₂ hquiet.thread hp₂ hgone))

end ItcFramework
