import ItcFramework.Gateway.UdpTable
import ItcFramework.Itc.Locate
import ItcFramework.Lib.Scan

/-!
# Greetings

The UDP thread of a gateway broadcasts its namespace and its TCP address as a line of text, and
reads the lines of the others with `sscanf` into buffers on its stack. It does not look at the
number of fields that were read.

* `createBroadcastMessage`, `greetingLocals` — the line, and what the locals of
  `handle_receive_broadcast_msg` hold after the `sscanf`.
* `receiveBroadcast` — the whole handler on a datagram.
* `Extracts`, `Harmless` — a greeting gives back what it was made of, and a datagram leaves the
  peers alone.
* `greetings_iff` — when they hold: the namespace has no `'>'`; the datagram and its fields fit
  their buffers, and the address that the locals give is known already or there is no slot for it.
-/

set_option autoImplicit false

namespace ItcFramework

open ByteImage SearchTree

/-! ## The line -/

/-- A namespace that the `-n` option accepts. -/
structure GwNamespace where
  name : CString
  nonempty : name.bytes ≠ []
  lt : name.strlen < ITC_MAX_NAME_LENGTH

/-- What `%hu` prints. -/
def printHu (n : UInt16) : CString where
  bytes := decimal n.toNat
  noNul := fun hmem => absurd (decimal_isDigit _ _ hmem) (by decide)

/-- `inet_ntoa` -/
def inetNtoa (a b c d : UInt8) : CString where
  bytes := decimal a.toNat ++ 46 :: (decimal b.toNat ++ 46 :: (decimal c.toNat ++
    46 :: decimal d.toNat))
  noNul := by
    have hdigit : ∀ n, 0 ∉ decimal n := fun n hmem => absurd (decimal_isDigit n _ hmem) (by decide)
    simp [hdigit]

def greetingHead : Bytes := asciiBytes "Broadcast Message: ITCGW from host <"
def greetingMiddle : Bytes := asciiBytes "> listening on tcp://"

/-- The `snprintf` of `create_broadcast_message`. -/
def createBroadcastMessage (ns tcpIp : CString) (tcpPort : UInt16) : Bytes :=
  (greetingHead ++ (ns.bytes ++ (greetingMiddle ++ (tcpIp.bytes ++ 58 :: (decimal tcpPort.toNat ++
    [47]))))).take (ITC_MAX_NAME_LENGTH * 2 - 1)

/-! ## The handler -/

/-- `"Broadcast Message: ITCGW from host <%[^>]> listening on tcp://%[^:]:%hu/"` -/
def greetingFormat : List ScanDirective :=
  scanFormat greetingHead ++ .notUntil 62 :: (scanFormat greetingMiddle ++
    .notUntil 58 :: (scanFormat [58] ++ .hu :: scanFormat [47]))

/-- The locals `namespace`, `tcp_ip` and `tcp_port`. -/
structure Greeting where
  ns : CString
  tcpIp : CString
  tcpPort : UInt16
  deriving DecidableEq, Repr

def scannedNs : List ScanValue → Option CString
  | .chars ns :: _ => some ns
  | _ => none

def scannedIp : List ScanValue → Option CString
  | _ :: .chars tcpIp :: _ => some tcpIp
  | _ => none

def scannedPort : List ScanValue → Option UInt16
  | _ :: _ :: .number tcpPort :: _ => some tcpPort
  | _ => none

/-- `sizeof(tcp_ip)` -/
def TCP_IP_SIZE : Nat := 25

/-- The fields fit `namespace` and `tcp_ip`, with their terminators. -/
def RunsFit (values : List ScanValue) : Prop :=
  (∀ ns, scannedNs values = some ns → ns.strlen < ITC_MAX_NAME_LENGTH) ∧
    ∀ tcpIp, scannedIp values = some tcpIp → tcpIp.strlen < TCP_IP_SIZE

instance (values : List ScanValue) : Decidable (RunsFit values) :=
  inferInstanceAs (Decidable ((∀ ns, _ = some ns → _) ∧ ∀ tcpIp, _ = some tcpIp → _))

/-- What `sscanf` finds in a datagram. -/
def greetingValues (datagram : Bytes) : List ScanValue :=
  scan greetingFormat (CString.ofBytes datagram).bytes

/-- A local that `sscanf` does not reach keeps what was on the stack. -/
def Greeting.update (stack : Greeting) (values : List ScanValue) : Greeting where
  ns := (scannedNs values).getD stack.ns
  tcpIp := (scannedIp values).getD stack.tcpIp
  tcpPort := (scannedPort values).getD stack.tcpPort

/-- `handle_receive_broadcast_msg` up to its `sscanf`; `rx_buff[res] = '\0'` comes first. -/
def greetingLocals (stack : Greeting) (datagram : Bytes) : Except MemFault Greeting :=
  if datagram.length ≥ ITC_GATEWAY_ETH_PACKET_SIZE then .error .outOfBounds
  else if RunsFit (greetingValues datagram) then .ok (stack.update (greetingValues datagram))
  else .error .outOfBounds

def receiveBroadcast (impl : TreeImpl Nat) (tbl : UdpTable) (stack : Greeting) (datagram : Bytes)
    (sent : Bool) : Except MemFault (Bool × UdpTable × Option (CString × CString)) := do
  let greeting ← greetingLocals stack datagram
  return handleReceiveBroadcastMsg impl tbl greeting.ns greeting.tcpIp (printHu greeting.tcpPort)
    sent

/-! ## What is expected of it -/

/-- A greeting gives back what it was made of, whatever was on the stack. -/
def Extracts (ns tcpIp : CString) (tcpPort : UInt16) : Prop :=
  ∀ stack, greetingLocals stack (createBroadcastMessage ns tcpIp tcpPort) =
    .ok ⟨ns, tcpIp, tcpPort⟩

/-- Nothing is written outside the locals, no peer is added and none is announced. -/
def Harmless (impl : TreeImpl Nat) (tbl : UdpTable) (stack : Greeting) (datagram : Bytes)
    (sent : Bool) : Prop :=
  ∃ ret, receiveBroadcast impl tbl stack datagram sent = .ok (ret, tbl, none)

/-- The address that the locals give is in the tree, or there is no slot for it. -/
def NothingToAdd (tbl : UdpTable) (greeting : Greeting) : Prop :=
  (tbl.find (tcpAddr greeting.tcpIp (printHu greeting.tcpPort))).isSome = true ∨
    freeUdpSlot tbl.peers = none

structure DatagramOk (tbl : UdpTable) (stack : Greeting) (datagram : Bytes) : Prop where
  /-- There is room for the terminator behind it. -/
  length : datagram.length < ITC_GATEWAY_ETH_PACKET_SIZE
  runs : RunsFit (greetingValues datagram)
  nothing : NothingToAdd tbl (stack.update (greetingValues datagram))

/-! ## Greetings -/

section Extract

variable {ns tcpIp : CString} {tcpPort : UInt16}

/-- What is read as a namespace ends before a `'>'`. -/
theorem scannedNs_stop {input : Bytes} (h : scannedNs (scan greetingFormat input) = some ns) :
    62 ∉ ns.bytes := by
  rcases scan_format_cases greetingHead (.notUntil 62 :: (scanFormat greetingMiddle ++
    .notUntil 58 :: (scanFormat [58] ++ .hu :: scanFormat [47]))) input with hnil | ⟨rest, hrest⟩
  · rw [greetingFormat, hnil] at h
    cases h
  · rw [greetingFormat, hrest, scan] at h
    split at h
    · cases h
    · cases h
      intro hmem
      have hrun := (List.takeWhile_sublist _).mem hmem
      have hne := List.mem_takeWhile_imp hrun
      simp at hne

theorem decimal_not_mem {b : UInt8} (n : Nat) (hb : isDigit b = false) : b ∉ decimal n := by
  intro hmem
  rw [decimal_isDigit n b hmem] at hb
  cases hb

/-- A greeting of an address is not cut short by its buffer. -/
theorem createBroadcastMessage_eq (hns : ns.strlen < ITC_MAX_NAME_LENGTH)
    (hip : tcpIp.strlen < TCP_IP_SIZE) :
    createBroadcastMessage ns tcpIp tcpPort = greetingHead ++ (ns.bytes ++ (greetingMiddle ++
      (tcpIp.bytes ++ 58 :: (decimal tcpPort.toNat ++ [47])))) := by
  have hport : (decimal tcpPort.toNat).length ≤ 5 :=
    decimal_length_le (by omega) (Nat.lt_trans tcpPort.toNat_lt (by omega))
  have hhead : greetingHead.length = 36 := by decide
  have hmiddle : greetingMiddle.length = 21 := by decide
  simp only [CString.strlen, ITC_MAX_NAME_LENGTH, TCP_IP_SIZE] at hns hip
  refine List.take_of_length_le ?_
  simp only [List.length_append, List.length_cons, List.length_nil, hhead, hmiddle,
    ITC_MAX_NAME_LENGTH]
  omega

/-- **The scan of a greeting.** -/
theorem scan_greeting (hne : ns.bytes ≠ []) (hstop : 62 ∉ ns.bytes) (hip : tcpIp.bytes ≠ [])
    (hcolon : 58 ∉ tcpIp.bytes) :
    scan greetingFormat (greetingHead ++ (ns.bytes ++ (greetingMiddle ++
      (tcpIp.bytes ++ 58 :: (decimal tcpPort.toNat ++ [47]))))) =
      [.chars ns, .chars tcpIp, .number tcpPort] := by
  have hhead : ∀ b, greetingHead.getLast? = some b → isSpace b = false := by
    rintro b ⟨⟩
    rfl
  have hmiddle : ∀ b, greetingMiddle.getLast? = some b → isSpace b = false := by
    rintro b ⟨⟩
    rfl
  have hsplit : ∀ rest, greetingMiddle ++ rest = 62 :: (greetingMiddle.tail ++ rest) :=
    fun rest => rfl
  have hslash : ∀ b, ([47] : Bytes).head? = some b → isDigit b = false := by
    rintro b ⟨⟩
    rfl
  have hmid := scan_literal (tcpIp.bytes ++ 58 :: (decimal tcpPort.toNat ++ [47]))
    (.notUntil 58 :: (scanFormat [58] ++ .hu :: scanFormat [47])) hmiddle
  have hcolon' : ∀ b, ([58] : Bytes).getLast? = some b → isSpace b = false := by
    rintro b ⟨⟩
    rfl
  have hsep : scan (scanFormat [58] ++ .hu :: scanFormat [47])
      ([58] ++ (decimal tcpPort.toNat ++ [47])) = _ := scan_literal _ _ hcolon'
  rw [List.singleton_append] at hsep
  rw [greetingFormat, scan_literal _ _ hhead, hsplit, scan_until _ _ hne hstop, ← hsplit, hmid,
    scan_until _ _ hip hcolon, hsep, scan_hu tcpPort _ hslash]
  rfl

/-- No NUL is in a greeting. -/
theorem greetingValues_eq (hns : ns.strlen < ITC_MAX_NAME_LENGTH) (hip : tcpIp.strlen < TCP_IP_SIZE) :
    greetingValues (createBroadcastMessage ns tcpIp tcpPort) =
      scan greetingFormat (createBroadcastMessage ns tcpIp tcpPort) := by
  have hno : 0 ∉ createBroadcastMessage ns tcpIp tcpPort := by
    have hhead : 0 ∉ greetingHead := by decide
    have hmiddle : 0 ∉ greetingMiddle := by decide
    have hport : 0 ∉ decimal tcpPort.toNat := decimal_not_mem _ (by decide)
    rw [createBroadcastMessage_eq hns hip]
    simp [hhead, hmiddle, hport, ns.noNul, tcpIp.noNul]
  exact congrArg (scan greetingFormat) (congrArg CString.bytes (CString.ofBytes_bytes ⟨_, hno⟩))

theorem inetNtoa_plain (a b c d : UInt8) : (inetNtoa a b c d).bytes ≠ [] ∧
    58 ∉ (inetNtoa a b c d).bytes ∧ (inetNtoa a b c d).strlen ≤ 15 := by
  have hcolon : ∀ n, 58 ∉ decimal n := fun n => decimal_not_mem n (by decide)
  have hlen : ∀ x : UInt8, (decimal x.toNat).length ≤ 3 :=
    fun x => decimal_length_le (by omega) (Nat.lt_trans x.toNat_lt (by omega))
  refine ⟨?_, ?_, ?_⟩
  · rw [inetNtoa]
    exact List.append_ne_nil_of_right_ne_nil _ (List.cons_ne_nil _ _)
  · simp [inetNtoa, hcolon]
  · have ha := hlen a
    have hb := hlen b
    have hc := hlen c
    have hd := hlen d
    simp only [CString.strlen, inetNtoa, List.length_append, List.length_cons]
    omega

/-- **A greeting is read back unless its namespace has a `'>'`.** -/
theorem extracts_iff (ns : GwNamespace) (a b c d : UInt8) (tcpPort : UInt16) :
    Extracts ns.name (inetNtoa a b c d) tcpPort ↔ 62 ∉ ns.name.bytes := by
  obtain ⟨hipne, hcolon, hiplen⟩ := inetNtoa_plain a b c d
  have hip : (inetNtoa a b c d).strlen < TCP_IP_SIZE := by
    simp only [TCP_IP_SIZE]
    omega
  constructor
  · intro h hmem
    have hcall := h ⟨.empty, .empty, 0⟩
    unfold greetingLocals at hcall
    split at hcall
    · cases hcall
    · split at hcall
      · have hname := congrArg Greeting.ns (Except.ok.inj hcall)
        simp only [Greeting.update] at hname
        cases hscan : scannedNs (greetingValues (createBroadcastMessage ns.name (inetNtoa a b c d)
          tcpPort)) with
        | none =>
          rw [hscan] at hname
          exact ns.nonempty (congrArg CString.bytes hname.symm)
        | some found =>
          rw [hscan, Option.getD_some] at hname
          rw [hname] at hscan
          exact scannedNs_stop hscan hmem
      · cases hcall
  · intro hstop stack
    have hport : (decimal tcpPort.toNat).length ≤ 5 :=
      decimal_length_le (by omega) (Nat.lt_trans tcpPort.toNat_lt (by omega))
    have hlen : ¬ (createBroadcastMessage ns.name (inetNtoa a b c d) tcpPort).length ≥
        ITC_GATEWAY_ETH_PACKET_SIZE := by
      rw [createBroadcastMessage, List.length_take]
      simp only [ITC_MAX_NAME_LENGTH, ITC_GATEWAY_ETH_PACKET_SIZE]
      omega
    have hvalues : greetingValues (createBroadcastMessage ns.name (inetNtoa a b c d) tcpPort) =
        [.chars ns.name, .chars (inetNtoa a b c d), .number tcpPort] := by
      rw [greetingValues_eq ns.lt hip, createBroadcastMessage_eq ns.lt hip,
        scan_greeting ns.nonempty hstop hipne hcolon]
    have hfit : RunsFit (greetingValues (createBroadcastMessage ns.name (inetNtoa a b c d)
        tcpPort)) := by
      rw [hvalues]
      refine ⟨?_, ?_⟩
      · rintro _ ⟨⟩
        exact ns.lt
      · rintro _ ⟨⟩
        exact hip
    rw [greetingLocals, if_neg hlen, if_pos hfit, hvalues]
    rfl

end Extract

/-! ## Other datagrams -/

/-- **A datagram is harmless when it fits, its fields fit, and it names no new peer.** -/
theorem harmless_iff (impl : TreeImpl Nat) (tbl : UdpTable) (stack : Greeting) (datagram : Bytes)
    (sent : Bool) :
    Harmless impl tbl stack datagram sent ↔ DatagramOk tbl stack datagram := by
  have hno : ∀ fault, greetingLocals stack datagram = .error fault →
      ¬ Harmless impl tbl stack datagram sent := by
    rintro fault hfault ⟨ret, hcall⟩
    rw [receiveBroadcast, hfault] at hcall
    cases hcall
  by_cases hlen : datagram.length ≥ ITC_GATEWAY_ETH_PACKET_SIZE
  · refine iff_of_false (hno .outOfBounds (if_pos hlen)) fun h => ?_
    exact absurd h.length (Nat.not_lt_of_le hlen)
  · by_cases hfit : RunsFit (greetingValues datagram)
    · have hlocals : greetingLocals stack datagram =
          .ok (stack.update (greetingValues datagram)) := by
        rw [greetingLocals, if_neg hlen, if_pos hfit]
      generalize hg : stack.update (greetingValues datagram) = greeting at hlocals
      have hcall : receiveBroadcast impl tbl stack datagram sent = .ok (handleReceiveBroadcastMsg
          impl tbl greeting.ns greeting.tcpIp (printHu greeting.tcpPort) sent) := by
        simp only [receiveBroadcast, hlocals, bind, Except.bind]
        rfl
      have hadds : DatagramOk tbl stack datagram ↔ NothingToAdd tbl greeting := by
        rw [← hg]
        exact ⟨fun h => h.nothing, fun h => ⟨by omega, hfit, h⟩⟩
      rw [hadds, Harmless, hcall, NothingToAdd]
      cases hfind : tbl.find (tcpAddr greeting.tcpIp (printHu greeting.tcpPort)) with
      | some i => simp only [handleReceiveBroadcastMsg, hfind, Option.isSome_some, true_or, iff_true]
                  exact ⟨true, rfl⟩
      | none =>
        cases hslot : freeUdpSlot tbl.peers with
        | none => simp only [handleReceiveBroadcastMsg, hfind, hslot, or_true, iff_true]
                  exact ⟨false, rfl⟩
        | some i =>
          refine iff_of_false ?_ ?_
          · rintro ⟨ret, hret⟩
            obtain ⟨-, hfree⟩ := freeUdpSlot_some hslot
            have htbl : tbl.place impl i (tcpAddr greeting.tcpIp (printHu greeting.tcpPort)) = tbl := by
              have heq := congrArg (fun r => r.2.1) (Except.ok.inj hret)
              simp only [handleReceiveBroadcastMsg, hfind, hslot] at heq
              split at heq <;> exact heq
            have haddr := congrArg (fun t => t.peers i) htbl
            simp only [UdpTable.place_peers, setAddr_self, hfree] at haddr
            exact tcpAddr_ne _ _ haddr
          · rintro (hsome | hnone)
            · cases hsome
            · cases hnone
    · refine iff_of_false (hno .outOfBounds ?_) fun h => hfit h.runs
      rw [greetingLocals, if_neg hlen, if_neg hfit]

/-- **Greetings are parsed exactly when the namespace has no `'>'`, and a datagram is harmless
exactly when it fits and names no new peer.** -/
theorem greetings_iff (impl : TreeImpl Nat) (tbl : UdpTable) (stack : Greeting) (sent : Bool) :
    (∀ (ns : GwNamespace) (a b c d : UInt8) (tcpPort : UInt16),
      Extracts ns.name (inetNtoa a b c d) tcpPort ↔ 62 ∉ ns.name.bytes) ∧
    ∀ datagram, Harmless impl tbl stack datagram sent ↔ DatagramOk tbl stack datagram :=
  ⟨extracts_iff, fun datagram => harmless_iff impl tbl stack datagram sent⟩

/-- **An empty datagram adds a peer**, with the address that the stack holds; and a namespace with a
`'>'` is not read back. -/
theorem empty_datagram_adds_peer :
    ¬ Harmless (TreeImpl.plain Nat) .init ⟨.empty, .empty, 0⟩ [] true ∧
      receiveBroadcast (TreeImpl.plain Nat) .init ⟨.empty, .empty, 0⟩ [] true =
        .ok (true, UdpTable.init.place (TreeImpl.plain Nat) 0 (tcpAddr .empty (printHu 0)),
          some (tcpAddr .empty (printHu 0), .empty)) ∧
      ¬ Extracts ⟨[97, 62, 98], by decide⟩ (inetNtoa 10 0 0 1) 22222 := by
  have hvalues : greetingValues [] = [] := by decide
  have hfree : freeUdpSlot UdpTable.init.peers = some 0 := by decide
  have hlocals : greetingLocals ⟨.empty, .empty, 0⟩ [] = .ok ⟨.empty, .empty, 0⟩ := by
    rw [greetingLocals, if_neg (by decide), if_pos (by rw [hvalues]; decide), hvalues]
    rfl
  refine ⟨?_, ?_, ?_⟩
  · rw [harmless_iff]
    intro h
    rcases h.nothing with hsome | hnone
    · cases hsome
    · rw [hfree] at hnone
      cases hnone
  · simp only [receiveBroadcast, hlocals, bind, Except.bind]
    rfl
  · intro h
    have hmem := (extracts_iff ⟨⟨[97, 62, 98], by decide⟩, by decide, by decide⟩ 10 0 0 1 22222).1 h
    exact hmem (by decide)

end ItcFramework
