import ItcFramework.Gateway.ByteOrder
import ItcFramework.Itc.Relay

/-!
# The journey of a message

From the thread that calls `itc_send` for mailbox `b` to the `itc_receive` that gives the message
to the owner of `b`, in the same process, in another one, or on another host. Every thread that
sends the message on calls `itc_send` with its own mailbox, and `itc_send` writes that mailbox
into the message.

* `Journey` — the ways a message goes; the index lists the mailboxes of the threads that have sent
  it, the sender's first.
* `itcSendZz_departs` — a call that returns `true` is where a journey begins.
* `identity_kept_iff` — the journeys at whose end sender and receiver are those of the first call.
-/

set_option autoImplicit false

namespace ItcFramework

open ByteImage HeapModel ItcInstance Transition

variable {σ : Type}

/-! ## Out of the host -/

/-- `itc_send` for a foreign namespace has returned `true`: the request that carries the message
is on its way to the gateway. -/
inductive RequestSent (E : ItcEnv σ) (s : ItcInstance σ) (tid p : Nat) (toMbox : MboxId) :
    SendResult σ → Nat → Prop where
  | request {fuel req : Nat} {wait : Wait σ} {ns : CString} {itcgw : MboxId}
      {s₁ : ItcInstance σ} {r : SendResult σ} (hns : ns ≠ s.ns)
      (hwait : wait.Others E tid fun p' => p' = p ∨ p' = s.heap.next)
      (hprepare : prepareForward E fuel wait s tid (s.myMboxId tid) p toMbox ns =
        .ok (some (some (req, itcgw), s₁)))
      (hsend : itcSend E fuel s₁ tid (some req) itcgw ITC_MY_MBOX_ID = .ok (some r))
      (hret : r.ret = true) : RequestSent E s tid p toMbox r req

/-- The server thread of a gateway reads the packet from its connection and sends the message
on within its host. -/
inductive ServerSends (E : ItcEnv σ) (packet : Bytes) : MboxId → Place σ → Prop where
  | packet {s : ItcInstance σ} {fuel tid p : Nat} {sock sock' : ByteStream} {rest : Bytes}
      {message : ItcMessage} {r : SendResult σ} {place : Place σ} (hs : Reached E s)
      (hsock : sock.bytes = packet ++ rest)
      (hserver : handleReceiveTcpPacketAtServer E.endian E.malloc sock =
        .ok (.sendInternal message, sock'))
      (hsend : sendCopy E fuel s tid message = .ok (some (p, r)))
      (hplace : r.place E p = some place) : ServerSends E packet (s.myMboxId tid) place

/-- A message that the owner of mailbox `a` has sent to mailbox `b`, from a host of the byte order
`first` to one of the byte order `last`, is received as `m`. -/
inductive Journey (σ : Type) (a b : MboxId) :
    Endian → Endian → List MboxId → ItcMessage → Prop where
  | withinHost {E : ItcEnv σ} {s : ItcInstance σ} {fuel tid p : Nat} {wait : Wait σ}
      {ns : Option CString} {r : SendResult σ} {place : Place σ} {hops : List MboxId}
      {m : ItcMessage} (hs : Reached E s) (hp : s.Held p) (ha : s.myMboxId tid = a)
      (hns : ns = none ∨ ns = some s.ns)
      (hsend : itcSendZz E fuel wait s tid (some p) b ITC_MY_MBOX_ID ns = .ok (some r))
      (hret : r.ret = true) (hplace : r.place E p = some place)
      (hdelivered : Delivered E.endian place hops m) :
      Journey σ a b E.endian E.endian (a :: hops) m
  /-- The client thread of the gateway receives the request, and its packet comes to a peer. -/
  | acrossHosts {E E' : ItcEnv σ} {s : ItcInstance σ} {tid p req : Nat} {r : SendResult σ}
      {toGateway place : Place σ} {hops₁ hops : List MboxId} {request m : ItcMessage}
      {pid : UInt32} {packet : Bytes} {gateway : MboxId} (hs : Reached E s) (hp : s.Held p)
      (ha : s.myMboxId tid = a) (hrequest : RequestSent E s tid p b r req)
      (hplace : r.place E req = some toGateway)
      (hgateway : Delivered E.endian toGateway hops₁ request)
      (hpacket : fwdDataPacket E.endian pid request = .ok packet)
      (hserver : ServerSends E' packet gateway place)
      (hdelivered : Delivered E'.endian place hops m) :
      Journey σ a b E.endian E'.endian (a :: gateway :: hops) m

variable {E : ItcEnv σ} {s : ItcInstance σ} {q : Queues} {p tid : Nat} {u : UserMessage}

/-- **Where a journey begins**: a call of `itc_send` that returns `true` has sent the message
within the host, or a request for it to the gateway. -/
theorem itcSendZz_departs {fuel : Nat} {wait : Wait σ} {toMbox : MboxId} {ns : Option CString}
    {r : SendResult σ} (hwait : wait.Others E tid fun p' => p' = p ∨ p' = s.heap.next)
    (hcall : itcSendZz E fuel wait s tid (some p) toMbox ITC_MY_MBOX_ID ns = .ok (some r))
    (hret : r.ret = true) :
    (ns = none ∨ ns = some s.ns) ∨ ∃ r₁ req, RequestSent E s tid p toMbox r₁ req := by
  cases ns with
  | none => exact .inl (.inl rfl)
  | some ns =>
    by_cases hns : ns = s.ns
    · exact .inl (.inr (by rw [hns]))
    simp only [itcSendZz, if_neg hns] at hcall
    cases hme : s.myThreadlocalMbox tid with
    | none =>
      rw [hme] at hcall
      cases hcall
      cases hret
    | some me =>
      simp only [hme, ne_eq, not_true_eq_false, false_and, if_false] at hcall
      obtain ⟨⟨request, s₁⟩, hprepare, hcall⟩ := bind_some_eq_ok hcall rfl
      cases request with
      | none =>
        cases hcall
        cases hret
      | some request =>
        obtain ⟨req, itcgw⟩ := request
        obtain ⟨r₁, hsend, hcall⟩ := bind_some_eq_ok hcall rfl
        cases hret₁ : r₁.ret with
        | false =>
          simp only [hret₁, Bool.false_eq_true, not_false_eq_true, if_true] at hcall
          obtain ⟨s₂, -, hcall⟩ := bind_eq_ok hcall
          cases hcall
          cases hret
        | true =>
          have hmy : s.myMboxId tid = (s.mboxes me).mboxId := by
            rw [ItcInstance.myMboxId, hme]
            rfl
          rw [← hmy] at hprepare
          exact .inr ⟨r₁, req, .request hns hwait hprepare hsend hret₁⟩

/-! ## The addresses on the way -/

/-- The request carries the message with the addresses that the sender has put there. -/
theorem RequestSent.packet {toMbox : MboxId} {req : Nat} {r : SendResult σ} {place : Place σ}
    {hops : List MboxId} {request : ItcMessage} {pid : UInt32} {packet : Bytes} (h : s.Inv q)
    (hp : s.heap.cells p = some u.msg) (hsent : RequestSent E s tid p toMbox r req)
    (hplace : r.place E req = some place) (hdelivered : Delivered E.endian place hops request)
    (hpacket : fwdDataPacket E.endian pid request = .ok packet) :
    u.msg.size.toNat + ITC_HEADER_SIZE ≤ ITC_GATEWAY_ETH_PACKET_SIZE ∧
      packet = dataFwdFrame E.endian pid (u.stamp (s.myMboxId tid) toMbox).msg := by
  cases hsent with
  | @request fuel _ wait ns itcgw s₁ _ hns hwait hprepare hsend hret =>
    obtain ⟨⟨q₁, h₁⟩, -, hreq⟩ := prepareForward_spec h hp hwait.keeps hprepare
    obtain ⟨-, v, hv, hbuilt⟩ := hreq req itcgw rfl
    have hm := (u.stamp (s.myMboxId tid) toMbox).wellFormed
    obtain ⟨hfit, hlen⟩ := fwdRequest_fits hm.size_ge hbuilt
    rw [fwdRequest_ok E.endian E.malloc hm hfit hlen] at hbuilt
    -- the gateway's client has received the request with its body unchanged
    have hholds := ((itcSend_returns h₁ hv fuel tid itcgw ITC_MY_MBOX_ID).of_eq hsend).holds h₁ hv
      hplace
    have hbody : request.body = v.msg.body := by
      rw [hdelivered.message hholds]
      rfl
    rw [← Option.some.inj (Except.ok.inj hbuilt)] at hbody
    rw [fwdDataPacket_ok E.endian pid hm hfit hlen hbody] at hpacket
    exact ⟨hfit, (Except.ok.inj hpacket).symm⟩

/-- The server sends a user's message on, to the mailbox that the sender's bytes name here. -/
theorem ServerSends.holds {e : Endian} {pid : UInt32} {gateway : MboxId} {place : Place σ}
    (hfit : u.msg.size.toNat + ITC_HEADER_SIZE ≤ ITC_GATEWAY_ETH_PACKET_SIZE)
    (h : ServerSends E (dataFwdFrame e pid u.msg) gateway place) :
    ∃ v : UserMessage, place.Holds E.endian v ∧ v.msg.sender = gateway ∧
      v.msg.receiver = ofWord E.endian (word e u.msg.receiver) := by
  cases h with
  | packet hs hsock hserver hsend hplace =>
    obtain ⟨q, hinv⟩ := hs.inv
    obtain ⟨v, rfl, hreceiver⟩ := handleReceiveTcpPacketAtServer_user hfit hsock hserver
    exact ⟨_, sendCopy_holds hinv hsend hplace, rfl, hreceiver⟩

/-- **The addresses of a message when it is received**: the sender is the last that has sent it,
and the receiver is the one it was sent to, as the last host reads its bytes. -/
theorem Journey.addresses {a b : MboxId} {first last : Endian} {hops : List MboxId}
    {m : ItcMessage} (h : Journey σ a b first last hops m) :
    hops.getLast? = some m.sender ∧ m.receiver = ofWord last (word first b) := by
  cases h with
  | @withinHost E s fuel tid p wait ns r place hops _ hs hp ha hns hsend hret hplace hdelivered =>
    obtain ⟨q, h⟩ := hs.inv
    obtain ⟨u, hu⟩ := hp
    have hhere : itcSend E fuel s tid (some p) b ITC_MY_MBOX_ID = .ok (some r) := by
      rcases hns with rfl | rfl
      · exact hsend
      · rwa [itcSendZz, if_pos rfl] at hsend
    have hholds := ((itcSend_returns h hu fuel tid b ITC_MY_MBOX_ID).of_eq hhere).holds h hu hplace
    rw [hdelivered.message hholds, ofWord_word, List.getLast?_cons,
      ← List.getLastD_eq_getLast?, ← ha]
    exact ⟨rfl, rfl⟩
  | @acrossHosts E E' s tid p req r toGateway place hops₁ hops request _ pid packet gateway hs hp
      ha hrequest hplace hgateway hpacket hserver hdelivered =>
    obtain ⟨q, h⟩ := hs.inv
    obtain ⟨u, hu⟩ := hp
    obtain ⟨hfit, rfl⟩ := hrequest.packet h hu hplace hgateway hpacket
    obtain ⟨v, hholds, hsender, hreceiver⟩ :=
      hserver.holds (u := u.stamp (s.myMboxId tid) b) hfit
    rw [hdelivered.message hholds, List.getLast?_cons_cons, List.getLast?_cons,
      ← List.getLastD_eq_getLast?, ← hsender]
    exact ⟨rfl, hreceiver⟩

/-! ## Whose message it is -/

/-- **A message keeps its sender and its receiver just when the thread that sends it last has the
sender's mailbox**, and the two hosts read the receiver's bytes alike. -/
theorem identity_kept_iff {a b : MboxId} {first last : Endian} {hops : List MboxId}
    {m : ItcMessage} (h : Journey σ a b first last hops m) :
    m.sender = a ∧ m.receiver = b ↔
      hops.getLast? = some a ∧ ofWord last (word first b) = b := by
  obtain ⟨hsender, hreceiver⟩ := h.addresses
  rw [hsender, Option.some.injEq, hreceiver]

/-- Two threads of one process: nobody sends the message on. -/
theorem journey_withinProcess :
    ∃ m : ItcMessage, Journey Unit 0x00200000 0x00200001 .little .little [0x00200000] m := by
  let s₀ : ItcInstance Unit := .init 2 3 0 ()
  let c₁ := returned (0, s₀) (itcCreateMailbox ItcEnv.willing 1 s₀ 0 .empty 0)
  let c₂ := returned (0, s₀) (itcCreateMailbox ItcEnv.willing 1 c₁.2 1 .empty 0)
  let s₃ := (c₂.2.alloc (.fresh .little 4 0)).2
  let r := returned ⟨false, none, none, s₀⟩
    (itcSend ItcEnv.willing 1 s₃ 0 (some 2) 0x00200001 ITC_MY_MBOX_ID)
  let d := returned (none, s₀) (itcReceive r.s 1)
  have hempty : CString.empty.strlen < ITC_MAX_NAME_LENGTH := by decide
  have hcreate₁ : itcCreateMailbox ItcEnv.willing 1 s₀ 0 .empty 0 = .ok (some (c₁.1, c₁.2)) :=
    returned_eq (by decide +kernel)
  have hcreate₂ : itcCreateMailbox ItcEnv.willing 1 c₁.2 1 .empty 0 = .ok (some (c₂.1, c₂.2)) :=
    returned_eq (by decide +kernel)
  have hsend : itcSendZz ItcEnv.willing 1 (fun s => (true, s)) s₃ 0 (some 2) 0x00200001
      ITC_MY_MBOX_ID none = .ok (some r) := returned_eq (by decide +kernel)
  have hreceive : itcReceive r.s 1 = .ok (some (d.1, d.2)) := returned_eq (by decide +kernel)
  have hret : r.ret = true := by decide +kernel
  have htaken : r.taken = some .rxQueue := by decide +kernel
  have hfirst : d.1 = some 2 := by decide +kernel
  have hcell : d.2.heap.cells 2 =
      some ((ItcMessage.fresh .little 4 0).stamp 0x00200000 0x00200001) := by decide +kernel
  have hmsg : (ItcMessage.fresh .little 4 0).WellFormed :=
    ItcMessage.fresh_wellFormed _ _ (by omega) (by omega)
  have hlive : s₃.heap.cells 2 = some (.fresh .little 4 0) := by decide +kernel
  have hheld : s₃.Held 2 := ⟨⟨_, hmsg, rfl⟩, hlive⟩
  have hreached : Reached ItcEnv.willing s₃ :=
    (((Reached.init 2 3 0 () (by decide) (by decide)).call (.createMailbox hcreate₁) hempty).call
      (.createMailbox hcreate₂) hempty).call
        (.alloc (itcAllocZz_ok .little .least 0 (by omega) (by decide))) trivial
  rw [hfirst] at hreceive
  exact ⟨_, .withinHost hreached hheld (by decide +kernel) (.inl rfl) hsend
    hret (by rw [SendResult.place, htaken]) (.receive hreceive hcell)⟩

/-- A thread of process 2 sends to a mailbox of process 3, whose rx thread has the mailbox
`0x00300000` and sends the message on. -/
theorem journey_betweenProcesses :
    ∃ m : ItcMessage,
      Journey Unit 0x00200000 0x00300001 .little .little [0x00200000, 0x00300000] m := by
  let s₀ : ItcInstance Unit := .init 2 3 0 ()
  let t₀ : ItcInstance Unit := .init 3 3 0 ()
  let c := returned (0, s₀) (itcCreateMailbox ItcEnv.willing 1 s₀ 0 .empty 0)
  let s₂ := (c.2.alloc (.fresh .little 8 0)).2
  let r := returned ⟨false, none, none, s₀⟩
    (itcSend ItcEnv.willing 1 s₂ 0 (some 1) 0x00300001 ITC_MY_MBOX_ID)
  -- the receiving process, thread 0 of which is the rx thread
  let d₁ := returned (0, t₀) (itcCreateMailbox ItcEnv.willing 1 t₀ 0 .empty 0)
  let d₂ := returned (0, t₀) (itcCreateMailbox ItcEnv.willing 1 d₁.2 1 .empty 0)
  let message := (ItcMessage.fresh .little 8 0).stamp 0x00200000 0x00300001
  let rx : SysvmqRx := ⟨List.replicate 32 0, false⟩
  let copy := returned (0, ⟨false, none, none, t₀⟩) (sendCopy ItcEnv.willing 1 d₂.2 0 message)
  let e := returned (none, t₀) (itcReceive copy.2.s 1)
  have hempty : CString.empty.strlen < ITC_MAX_NAME_LENGTH := by decide
  have hcreate : itcCreateMailbox ItcEnv.willing 1 s₀ 0 .empty 0 = .ok (some (c.1, c.2)) :=
    returned_eq (by decide +kernel)
  have hsend : itcSendZz ItcEnv.willing 1 (fun s => (true, s)) s₂ 0 (some 1) 0x00300001
      ITC_MY_MBOX_ID none = .ok (some r) := returned_eq (by decide +kernel)
  have hret : r.ret = true := by decide +kernel
  have htaken : r.taken = some (.copied (message.image .little)) := by decide +kernel
  have hcreate₁ : itcCreateMailbox ItcEnv.willing 1 t₀ 0 .empty 0 = .ok (some (d₁.1, d₁.2)) :=
    returned_eq (by decide +kernel)
  have hcreate₂ : itcCreateMailbox ItcEnv.willing 1 d₁.2 1 .empty 0 = .ok (some (d₂.1, d₂.2)) :=
    returned_eq (by decide +kernel)
  have hrx : sysvmqRxThread .little .least rx (.text (message.image .little)) =
      .ok (⟨message.image .little ++ List.replicate 7 0, false⟩, some message) := by
    decide +kernel
  have hcopy : sendCopy ItcEnv.willing 1 d₂.2 0 message = .ok (some (copy.1, copy.2)) :=
    returned_eq (by decide +kernel)
  have htaken₂ : copy.2.taken = some .rxQueue := by decide +kernel
  have hreceive : itcReceive copy.2.s 1 = .ok (some (e.1, e.2)) := returned_eq (by decide +kernel)
  have hfirst : e.1 = some copy.1 := by decide +kernel
  have hcell : e.2.heap.cells copy.1 =
      some ((ItcMessage.fresh .little 8 0).stamp 0x00300000 0x00300001) := by decide +kernel
  have hmsg : (ItcMessage.fresh .little 8 0).WellFormed :=
    ItcMessage.fresh_wellFormed _ _ (by omega) (by omega)
  have hlive : s₂.heap.cells 1 = some (.fresh .little 8 0) := by decide +kernel
  have hheld : s₂.Held 1 := ⟨⟨_, hmsg, rfl⟩, hlive⟩
  have hreached : Reached ItcEnv.willing s₂ :=
    ((Reached.init 2 3 0 () (by decide) (by decide)).call (.createMailbox hcreate) hempty).call
      (.alloc (itcAllocZz_ok .little .least 0 (by omega) (by decide))) trivial
  have hreached₂ : Reached ItcEnv.willing d₂.2 :=
    ((Reached.init 3 3 0 () (by decide) (by decide)).call (.createMailbox hcreate₁) hempty).call
      (.createMailbox hcreate₂) hempty
  rw [hfirst] at hreceive
  have hrxMbox : d₂.2.myMboxId 0 = 0x00300000 := by decide +kernel
  have hdelivered : Delivered .little (.sysvmq (message.image .little)) [d₂.2.myMboxId 0] _ :=
    .relay (E := ItcEnv.willing) rfl hreached₂ hrx hcopy (by rw [SendResult.place, htaken₂])
      (.receive hreceive hcell)
  rw [hrxMbox] at hdelivered
  exact ⟨_, .withinHost hreached hheld (by decide +kernel)
    (.inl rfl) hsend hret (by rw [SendResult.place, htaken]) hdelivered⟩

/-- Within a process the sender is kept; one more hop, and it is not. -/
theorem identity_kept_iff_hops :
    (∃ m : ItcMessage, Journey Unit 0x00200000 0x00200001 .little .little [0x00200000] m ∧
      m.sender = 0x00200000 ∧ m.receiver = 0x00200001) ∧
    ∃ m : ItcMessage,
      Journey Unit 0x00200000 0x00300001 .little .little [0x00200000, 0x00300000] m ∧
        ¬ (m.sender = 0x00200000 ∧ m.receiver = 0x00300001) := by
  constructor
  · obtain ⟨m, hjourney⟩ := journey_withinProcess
    exact ⟨m, hjourney, (identity_kept_iff hjourney).mpr ⟨rfl, ofWord_word ..⟩⟩
  · obtain ⟨m, hjourney⟩ := journey_betweenProcesses
    refine ⟨m, hjourney, fun hkept => ?_⟩
    obtain ⟨hlast, -⟩ := (identity_kept_iff hjourney).mp hkept
    exact absurd hlast (by decide)

/-- **Between processes the rx thread's mailbox becomes the sender.** -/
theorem forwarded_message_renamed :
    ∃ (hops : List MboxId) (m : ItcMessage),
      Journey Unit 0x00200000 0x00300001 .little .little hops m ∧ m.sender = 0x00300000 ∧
        ¬ (m.sender = 0x00200000 ∧ m.receiver = 0x00300001) := by
  obtain ⟨m, hjourney⟩ := journey_betweenProcesses
  obtain ⟨hlast, -⟩ := hjourney.addresses
  have hsender : m.sender = 0x00300000 := (Option.some.inj hlast).symm
  refine ⟨_, m, hjourney, hsender, ?_⟩
  rintro ⟨hkept, -⟩
  rw [hsender] at hkept
  exact absurd hkept (by decide)

end ItcFramework
