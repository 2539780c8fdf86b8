import ItcFramework.Itc.CallSpecs

/-!
# Forwarding

Embedding of the two places where a message that has arrived from another process or another
host is copied and sent on: `forward_sysvmq_msg` in the rx thread of a process, and
`handle_receive_data_fwd` in the TCP server thread of the gateway. Each copies what has arrived
onto the heap and calls `itc_send` for the mailbox that the copy names.
-/

set_option autoImplicit false

namespace ItcFramework

open ByteImage HeapModel ItcInstance

variable {σ : Type} {E : ItcEnv σ} {s : ItcInstance σ} {q : Queues}

/-- `itc_send(&msg, message->receiver, ITC_MY_MBOX_ID, NULL)` for a copy that has just been made:
where the copy is, and how the send ended. -/
def sendCopy (E : ItcEnv σ) (fuel : Nat) (s : ItcInstance σ) (tid : Nat) (message : ItcMessage) :
    Except MemFault (Option (Nat × SendResult σ)) := do
  let (msg, s) := s.alloc message
  let some r ← itcSend E fuel s tid (some msg) message.receiver ITC_MY_MBOX_ID | return none
  return some (msg, r)

/-- `forward_sysvmq_msg`, which does not look at what `itc_send` returns: the copy, if one was
made. -/
def forwardSysvmq (E : ItcEnv σ) (fuel : Nat) (s : ItcInstance σ) (tid : Nat) (mtext : Bytes) :
    Except MemFault (Option (Option Nat × ItcInstance σ)) := do
  let some message ← forwardSysvmqMsg E.endian E.malloc mtext | return some (none, s)
  let some (msg, r) ← sendCopy E fuel s tid message | return none
  return some (some msg, r.s)

/-- `handle_receive_data_fwd`: what it returns, the copy, if one was made, and the socket. -/
def forwardData (E : ItcEnv σ) (fuel : Nat) (s : ItcInstance σ) (tid : Nat) (sock : ByteStream)
    (header : ItcgwHeader) :
    Except MemFault (Option ((Bool × Option Nat) × ItcInstance σ × ByteStream)) := do
  let (event, sock) ← handleReceiveDataFwd E.endian E.malloc sock header
  match event with
  | .sendInternal message =>
      let some (msg, r) ← sendCopy E fuel s tid message | return none
      return some ((r.ret, some msg), r.s, sock)
  | _ => return some ((false, none), s, sock)

/-- The copy is a user's message, and what happens to it is what happens to any such message. -/
theorem sendCopy_returns (h : s.Inv q) (fuel tid : Nat) (m : UserMessage) :
    Returns (sendCopy E fuel s tid m.msg) fun r => r.1 = s.heap.next ∧
      Sent E (s.alloc m.msg).2 q tid s.heap.next m m.msg.receiver ITC_MY_MBOX_ID r.2 := by
  have hinv : (s.alloc m.msg).2.Inv q := h.ofHeap (h.messages.alloc m.msg) h.layout.sysvmqInst
  obtain ⟨o, hsend, hout⟩ := itcSend_returns (E := E) (p := s.heap.next) hinv
    (Heap.push_next s.heap m.msg) fuel tid m.msg.receiver ITC_MY_MBOX_ID
  have hcall : itcSend E fuel (s.alloc m.msg).2 tid (some (s.alloc m.msg).1) m.msg.receiver
      ITC_MY_MBOX_ID = .ok o := hsend
  simp only [sendCopy, hcall, bind, Except.bind]
  cases o with
  | none => exact .running
  | some r => exact .result ⟨rfl, hout r rfl⟩

end ItcFramework
