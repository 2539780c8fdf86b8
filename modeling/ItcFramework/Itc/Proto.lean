import ItcFramework.Itc.Message

/-!
# Messages between a process and the coordinator

The messages of `itc_proto.h` that `itc.c` and `itccoord.c` exchange, as blocks of memory, and
the functions that build and read them. An allocation below the allocator's limit is granted.

* `idNameMsg` — the messages made of a mailbox id and a name: the notifications about added and
  removed mailboxes, and the coordinator's request to its gateway;
* `locateMboxSyncRequest`, `locateMboxSyncReply` — the exchange of `itc_locate_sync_zz`.
-/

set_option autoImplicit false

namespace ItcFramework

open ByteImage

/-! ## Constants and layout -/

def ITC_NOTIFY_COORD_ADD_MBOX : UInt32 := ITC_PROTO_MSG_BASE + 0x3
def ITC_NOTIFY_COORD_RMV_MBOX : UInt32 := ITC_PROTO_MSG_BASE + 0x4
def ITC_LOCATE_MBOX_SYNC_REQUEST : UInt32 := ITC_PROTO_MSG_BASE + 0x5
def ITC_LOCATE_MBOX_SYNC_REPLY : UInt32 := ITC_PROTO_MSG_BASE + 0x6
def ITC_FWD_DATA_TO_ITCGWS : UInt32 := ITC_PROTO_MSG_BASE + 0x7
def ITC_LOCATE_MBOX_FROM_ITCGWS_REQUEST : UInt32 := ITC_PROTO_MSG_BASE + 0xA
def ITC_LOCATE_MBOX_FROM_ITCGWS_REPLY : UInt32 := ITC_PROTO_MSG_BASE + 0xB

/-- `offsetof(struct itc_locate_mbox_from_itcgws_request, mboxname)`, also the offset of the name
in `struct itc_notify_coord_add_rmv_mbox`. -/
def offMboxname : Nat := 8

/-- `offsetof(struct itc_locate_mbox_sync_request, mbox_name)`, also that of the namespace in the
reply. -/
def offSyncName : Nat := 13

/-- A `bool` in memory. -/
def boolByte (b : Bool) : UInt8 := if b then 1 else 0

/-! ## A mailbox id and a name -/

def idNameMsg (e : Endian) (a : Allocator) (msgno : UInt32) (mboxId : MboxId) (name : CString) :
    Except MemFault ItcMessage := do
  let msg ← deref (← itcAllocZz e a true (offMboxname + name.strlen + 1) msgno)
  let body ← store32 e msg.body 4 mboxId
  let body ← storeBytes body offMboxname name.withNul
  return { msg with body }

/-- A block built on a fresh message is a user's message. -/
theorem exists_userMessage (e : Endian) (size : Nat) (msgno : UInt32) (u : Bytes) (h4 : 4 ≤ size)
    (hlt : size < 2 ^ 32) (hu : u.length = size) :
    ∃ m : UserMessage,
      { ItcMessage.fresh e size msgno with body := u ++ [ENDPOINT] } = m.msg ∧
        m.msg.body = u ++ [ENDPOINT] := by
  have hsize : (UInt32.ofNat size).toNat = size := by
    rw [UInt32.toNat_ofNat', Nat.mod_eq_of_lt hlt]
  refine ⟨⟨{ ItcMessage.fresh e size msgno with body := u ++ [ENDPOINT] }, ?_, rfl⟩, rfl, rfl⟩
  refine .of_body (u := u) ?_ ?_ rfl
  · simp only [ItcMessage.fresh, hsize]
    exact h4
  · simp only [ItcMessage.fresh, hsize]
    exact hu

theorem idNameMsg_ok (e : Endian) (a : Allocator) (msgno : UInt32) (mboxId : MboxId)
    {name : CString}
    (h : offMboxname + name.strlen + 1 + ITC_HEADER_SIZE + 1 ≤ a.maxMallocsize) :
    ∃ m : UserMessage, idNameMsg e a msgno mboxId name = .ok m.msg ∧
      m.msg.body = word e msgno ++ (word e mboxId ++ (name.withNul ++ [ENDPOINT])) := by
  have hlt := a.lt
  have halloc := itcAllocZz_ok e a msgno
    (show 4 ≤ offMboxname + name.strlen + 1 by simp only [offMboxname]; omega) h
  have hzero : List.replicate (offMboxname + name.strlen + 1 - 4) (0 : UInt8) =
      List.replicate 4 0 ++ List.replicate (name.strlen + 1) 0 := by
    rw [← List.replicate_add]
    congr 1
    simp only [offMboxname]
    omega
  have h1 : store32 e (ItcMessage.fresh e (offMboxname + name.strlen + 1) msgno).body 4 mboxId =
      .ok (word e msgno ++ (word e mboxId ++
        (List.replicate (name.strlen + 1) 0 ++ [ENDPOINT]))) :=
    store32_of_eq (a := word e msgno) (o := List.replicate 4 0)
      (by simp only [ItcMessage.fresh, hzero, List.append_assoc]) (by simp) (by simp)
  have h2 : storeBytes (word e msgno ++ (word e mboxId ++
      (List.replicate (name.strlen + 1) 0 ++ [ENDPOINT]))) offMboxname name.withNul =
      .ok (word e msgno ++ word e mboxId ++ (name.withNul ++ [ENDPOINT])) :=
    storeBytes_of_eq (o := List.replicate (name.strlen + 1) 0)
      (by simp only [List.append_assoc]) (by simp [offMboxname]) (by simp)
  obtain ⟨m, hm, hbody⟩ := exists_userMessage e (offMboxname + name.strlen + 1) msgno
    (word e msgno ++ (word e mboxId ++ name.withNul))
    (by simp only [offMboxname]; omega) (by omega) (by simp [offMboxname]; omega)
  refine ⟨m, ?_, by rw [hbody]; simp only [List.append_assoc]⟩
  rw [← hm]
  simp only [idNameMsg, halloc, deref, bind, Except.bind, h1, h2, List.append_assoc]
  rfl

/-- What the builder has made. -/
theorem idNameMsg_made {e : Endian} {a : Allocator} {msgno : UInt32} {mboxId : MboxId}
    {name : CString} {m : ItcMessage} (h : idNameMsg e a msgno mboxId name = .ok m) :
    offMboxname + name.strlen + 1 + ITC_HEADER_SIZE + 1 ≤ a.maxMallocsize ∧
      ∃ u : UserMessage, m = u.msg ∧
        u.msg.body = word e msgno ++ (word e mboxId ++ (name.withNul ++ [ENDPOINT])) := by
  obtain ⟨o, halloc, -⟩ := bind_eq_ok h
  cases o with
  | none =>
    rw [idNameMsg, halloc] at h
    cases h
  | some msg =>
    have hle := (itcAllocZz_fits halloc).1.1
    rw [Nat.max_eq_left (by simp only [offMboxname]; omega)] at hle
    obtain ⟨u, hu, hbody⟩ := idNameMsg_ok e a msgno mboxId hle
    rw [hu] at h
    cases h
    exact ⟨hle, u, rfl, hbody⟩

/-! ## Locating a mailbox -/

/-- Two words, a `bool` and a string behind the `msgno`. -/
def syncMsg (e : Endian) (a : Allocator) (msgno w1 w2 : UInt32) (flag : Bool) (name : CString) :
    Except MemFault ItcMessage := do
  let msg ← deref (← itcAllocZz e a true (offSyncName + name.strlen + 1) msgno)
  let body ← store32 e msg.body 4 w1
  let body ← store32 e body 8 w2
  let body ← store8 body 12 (boolByte flag)
  let body ← storeBytes body offSyncName name.withNul
  return { msg with body }

/-- The request of `itc_locate_sync_zz`. -/
def locateMboxSyncRequest (e : Endian) (a : Allocator) (fromMbox : MboxId) (timeout : UInt32)
    (findOnlyInternal : Bool) (name : CString) : Except MemFault ItcMessage :=
  syncMsg e a ITC_LOCATE_MBOX_SYNC_REQUEST fromMbox timeout findOnlyInternal name

/-- The reply of `handle_locate_mbox`. -/
def locateMboxSyncReply (e : Endian) (a : Allocator) (mboxId : MboxId) (pid : UInt32)
    (isExternal : Bool) (ns : CString) : Except MemFault ItcMessage :=
  syncMsg e a ITC_LOCATE_MBOX_SYNC_REPLY mboxId pid isExternal ns

/-- The user bytes that `syncMsg` builds. -/
def syncBytes (e : Endian) (msgno w1 w2 : UInt32) (flag : Bool) (name : CString) : Bytes :=
  word e msgno ++ (word e w1 ++ (word e w2 ++ (boolByte flag :: name.withNul)))

theorem syncMsg_ok (e : Endian) (a : Allocator) (msgno w1 w2 : UInt32) (flag : Bool)
    {name : CString} (h : offSyncName + name.strlen + 1 + ITC_HEADER_SIZE + 1 ≤ a.maxMallocsize) :
    ∃ m : UserMessage, syncMsg e a msgno w1 w2 flag name = .ok m.msg ∧
      m.msg.body = syncBytes e msgno w1 w2 flag name ++ [ENDPOINT] := by
  have hlt := a.lt
  have halloc := itcAllocZz_ok e a msgno
    (show 4 ≤ offSyncName + name.strlen + 1 by simp only [offSyncName]; omega) h
  have hzero : List.replicate (offSyncName + name.strlen + 1 - 4) (0 : UInt8) =
      List.replicate 4 0 ++ (List.replicate 4 0 ++ (0 :: List.replicate (name.strlen + 1) 0)) := by
    rw [← List.replicate_succ, ← List.replicate_add, ← List.replicate_add]
    congr 1
    simp only [offSyncName]
    omega
  have h1 : store32 e (ItcMessage.fresh e (offSyncName + name.strlen + 1) msgno).body 4 w1 =
      .ok (word e msgno ++ (word e w1 ++ (List.replicate 4 0 ++
        (0 :: (List.replicate (name.strlen + 1) 0 ++ [ENDPOINT]))))) :=
    store32_of_eq (a := word e msgno) (o := List.replicate 4 0)
      (by simp only [ItcMessage.fresh, hzero, List.append_assoc, List.cons_append])
      (by simp) (by simp)
  have h2 : store32 e (word e msgno ++ (word e w1 ++ (List.replicate 4 0 ++
      (0 :: (List.replicate (name.strlen + 1) 0 ++ [ENDPOINT]))))) 8 w2 =
      .ok (word e msgno ++ word e w1 ++ (word e w2 ++
        (0 :: (List.replicate (name.strlen + 1) 0 ++ [ENDPOINT])))) :=
    store32_of_eq (o := List.replicate 4 0) (by simp only [List.append_assoc]) (by simp) (by simp)
  have h3 : store8 (word e msgno ++ word e w1 ++ (word e w2 ++
      (0 :: (List.replicate (name.strlen + 1) 0 ++ [ENDPOINT])))) 12 (boolByte flag) =
      .ok (word e msgno ++ word e w1 ++ word e w2 ++
        boolByte flag :: (List.replicate (name.strlen + 1) 0 ++ [ENDPOINT])) :=
    store8_of_eq (x := 0) (by simp only [List.append_assoc]) (by simp)
  have h4 : storeBytes (word e msgno ++ word e w1 ++ word e w2 ++
      boolByte flag :: (List.replicate (name.strlen + 1) 0 ++ [ENDPOINT])) offSyncName
      name.withNul = .ok (word e msgno ++ word e w1 ++ word e w2 ++ [boolByte flag] ++
        (name.withNul ++ [ENDPOINT])) :=
    storeBytes_of_eq (o := List.replicate (name.strlen + 1) 0)
      (by simp only [List.append_assoc, List.singleton_append]) (by simp [offSyncName]) (by simp)
  obtain ⟨m, hm, hbody⟩ := exists_userMessage e (offSyncName + name.strlen + 1) msgno
    (syncBytes e msgno w1 w2 flag name)
    (by simp only [offSyncName]; omega) (by omega) (by simp [offSyncName, syncBytes]; omega)
  refine ⟨m, ?_, hbody⟩
  rw [← hm]
  simp only [syncMsg, halloc, deref, bind, Except.bind, h1, h2, h3, h4]
  simp only [syncBytes, List.append_assoc, List.cons_append]
  rfl

/-- What the builder has made. -/
theorem syncMsg_made {e : Endian} {a : Allocator} {msgno w1 w2 : UInt32} {flag : Bool}
    {name : CString} {m : ItcMessage} (h : syncMsg e a msgno w1 w2 flag name = .ok m) :
    ∃ u : UserMessage, m = u.msg ∧
      u.msg.body = syncBytes e msgno w1 w2 flag name ++ [ENDPOINT] := by
  obtain ⟨o, halloc, -⟩ := bind_eq_ok h
  cases o with
  | none =>
    rw [syncMsg, halloc] at h
    cases h
  | some msg =>
    have hle := (itcAllocZz_fits halloc).1.1
    rw [Nat.max_eq_left (by simp only [offSyncName]; omega)] at hle
    obtain ⟨u, hu, hbody⟩ := syncMsg_ok e a msgno w1 w2 flag hle
    rw [hu] at h
    cases h
    exact ⟨u, rfl, hbody⟩

end ItcFramework
