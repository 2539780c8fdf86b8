import ItcFramework.Coord.LocateNet
import ItcFramework.Coord.Notifications
import ItcFramework.Lib.Simulation

/-!
# The registry of the coordinator and the mailboxes of its host

The processes of a host tell the coordinator of the mailboxes that they create and delete, by
messages that go through the System V queue of its process and the rx queue of its mailbox. Its
registry follows the mailboxes of the host, behind by the notifications on their way.

* `handleIncomingRequest_turn` — what a turn of `main` does to the registry, and when it waits for
  the gateway.
* `Registers` — what a notification does to a set of mailboxes, and when it is right.
* `handleNotification_registers` — the handlers do that to the registry.
* `Directory`, `DirectoryStep` — the host with the coordinator in its process 1.
* `DirectoryMay` — how the host is used: mailboxes in use have different names, nobody but
  `itc_create_mailbox` and `itc_delete_mailbox` notifies the coordinator, and no notification is
  the message that `main` takes for the answer of the gateway.
-/

set_option autoImplicit false

namespace ItcFramework

open ByteImage HeapModel ItcInstance SearchTree Transition Coordinator

/-! ## Registered mailboxes -/

namespace Coordinator

/-- The mailbox that is announced or withdrawn. -/
def Request.notifies : Request → Option MboxId
  | .addMbox mboxId _ | .rmvMbox mboxId _ => some mboxId
  | .locateMbox _ | .unknown => none

/-- What the coordinator reads from a message, `unknown` where it would read behind the end. -/
def request (e : Endian) (m : ItcMessage) : Request := (readRequest e m).toOption.getD .unknown

/-- What `handle_incoming_request` does to the registry. -/
def handleNotification (impl : TreeImpl Nat) (s : ItccoordInst) :
    Request → Except MemFault ItccoordInst
  | .addMbox mboxId name => handleAddMbox impl s mboxId name
  | .rmvMbox mboxId name => handleRemoveMbox impl s mboxId name
  | .locateMbox _ | .unknown => .ok s

theorem handleRequest_notification {σ : Type} {E : ItcEnv σ} {impl : TreeImpl Nat} {fuel : Nat}
    {wait : Wait σ} {c c' : Coordinator σ} {tid : Nat} {itccoordMboxId : MboxId}
    {uninitPid : UInt32} {r : Request}
    (hcall : handleRequest E impl fuel wait c tid itccoordMboxId uninitPid r = .ok (some c')) :
    handleNotification impl c.registry.inst r = .ok c'.registry.inst := by
  cases r with
  | addMbox mboxId name =>
    obtain ⟨inst, hadd, hcall⟩ := bind_eq_ok hcall
    cases hcall
    exact hadd
  | rmvMbox mboxId name =>
    obtain ⟨inst, hrmv, hcall⟩ := bind_eq_ok hcall
    cases hcall
    exact hrmv
  | locateMbox r =>
    obtain ⟨itc, -, hcall⟩ := bind_some_eq_ok hcall rfl
    cases hcall
    rfl
  | unknown =>
    cases hcall
    rfl

/-- A search that leaves the host: the name is not registered, and the gateway is. -/
def AsksGateway (s : ItccoordInst) (r : LocateRequest) : Prop :=
  tfindMbox s r.name = .ok none ∧ r.findOnlyInternal = false ∧
    ∃ itcgw, tfindMbox s ITC_GATEWAY_MBOX_TCP_CLI_NAME = .ok (some itcgw)

/-- Where `main` is: between two turns, or in `handle_locate_mbox` at the `itc_receive` that waits
for the gateway. -/
inductive MainPoint where
  | idle
  | searching
  deriving DecidableEq, Repr

/-- Where a request takes `main`: it waits if the gateway is asked and the request to it has been
sent. -/
inductive TakesMain (s : ItccoordInst) (sent : Bool) : Request → MainPoint → Prop where
  | idle {r : Request}
      (hstays : sent = true → ∀ search, r = .locateMbox search → ¬ AsksGateway s search) :
      TakesMain s sent r .idle
  | searching {search : LocateRequest} (hsent : sent = true) (hasks : AsksGateway s search) :
      TakesMain s sent (.locateMbox search) .searching

/-- A request for which `main` asks no gateway. -/
def Request.staysHere : Request → Bool
  | .locateMbox r => r.findOnlyInternal
  | _ => true

theorem TakesMain.of_staysHere {r : Request} (h : r.staysHere = true) (s : ItccoordInst)
    (sent : Bool) : TakesMain s sent r .idle := by
  refine .idle fun _ search hr hasks => ?_
  subst hr
  have hinternal : search.findOnlyInternal = true := h
  rw [hasks.2.1] at hinternal
  cases hinternal

/-- `handle_locate_mbox` waits just if it has asked the gateway. -/
theorem locateMboxWaits_takesMain {σ : Type} {E : ItcEnv σ} {fuel : Nat} {wait : Wait σ}
    {s s' : ItcInstance σ} {tid : Nat} {w : CoordLife} {itccoordMboxId : MboxId}
    {uninitPid : UInt32} {r : LocateRequest}
    (hcall : handleLocateMbox E fuel wait s tid w itccoordMboxId uninitPid r = .ok (some s')) :
    ∃ sent main, TakesMain w.inst sent (.locateMbox r) main ∧
      (locateMboxWaits E fuel wait s tid w itccoordMboxId r).length =
        if main = .searching then 1 else 0 := by
  obtain ⟨found, hfound, hcall⟩ := bind_eq_ok hcall
  simp only [locateMboxWaits, hfound]
  cases found with
  | some mbox =>
    refine ⟨true, .idle, .idle ?_, rfl⟩
    rintro - _ ⟨⟩ ⟨hname, -⟩
    rw [hfound] at hname
    cases hname
  | none =>
    simp only at hcall ⊢
    split at hcall
    · rename_i hinternal
      rw [if_pos hinternal]
      have hstays : (Request.locateMbox r).staysHere = true := hinternal
      exact ⟨true, .idle, .of_staysHere hstays _ _, rfl⟩
    · rename_i hinternal
      rw [if_neg hinternal]
      obtain ⟨⟨sent, s₁⟩, hsend, -⟩ := bind_some_eq_ok hcall rfl
      simp only [hsend]
      cases sent with
      | false => exact ⟨false, .idle, .idle fun hsent => absurd hsent Bool.false_ne_true, rfl⟩
      | true =>
        refine ⟨true, .searching, .searching rfl ⟨hfound, Bool.eq_false_iff.mpr hinternal, ?_⟩, rfl⟩
        obtain ⟨m, -, hsend⟩ := bind_eq_ok hsend
        obtain ⟨itcgw, hgw, hsend⟩ := bind_eq_ok hsend
        cases itcgw with
        | some itcgw => exact ⟨itcgw, hgw⟩
        | none =>
          obtain ⟨_, -, hsend⟩ := bind_eq_ok hsend
          cases hsend

/-- **A turn of `main`**: the message that it receives says what `handle_incoming_request` does to
the registry, and whether it takes another message meanwhile. -/
theorem handleIncomingRequest_turn {σ : Type} {E : ItcEnv σ} {impl : TreeImpl Nat}
    {fuel : Nat} {wait : Wait σ} {c c' : Coordinator σ} {tid : Nat} {itccoordMboxId : MboxId}
    {uninitPid : UInt32}
    (hcall : handleIncomingRequest E impl fuel wait c tid itccoordMboxId uninitPid =
      .ok (some c')) :
    ∃ msg s₁ m r sent main, itcReceive c.itc tid = .ok (some (some msg, s₁)) ∧
      s₁.heap.read msg = .ok m ∧ readRequest E.endian m = .ok r ∧
      handleNotification impl c.registry.inst r = .ok c'.registry.inst ∧
      TakesMain c'.registry.inst sent r main ∧
      (requestWaits E fuel wait c tid itccoordMboxId).length =
        if main = .searching then 1 else 0 := by
  obtain ⟨⟨msg, s₁⟩, hreceive, hcall⟩ := bind_some_eq_ok hcall rfl
  cases msg with
  | none => cases hcall
  | some msg =>
    obtain ⟨m, hread, hcall⟩ := bind_eq_ok hcall
    obtain ⟨r, hrequest, hcall⟩ := bind_eq_ok hcall
    obtain ⟨c₁, hhandle, hcall⟩ := bind_some_eq_ok hcall rfl
    obtain ⟨itc, -, hcall⟩ := bind_eq_ok hcall
    have hregistry := handleRequest_notification hhandle
    cases hcall
    have hread' : (s₁.heap.read msg >>= readRequest E.endian) = .ok r := by
      rw [hread]
      exact hrequest
    -- the notifications do not wait
    have hnone (hr : r.staysHere = true)
        (hwaits : requestWaits E fuel wait c tid itccoordMboxId = []) :
        TakesMain c₁.registry.inst true r .idle ∧
          (requestWaits E fuel wait c tid itccoordMboxId).length = 0 :=
      ⟨.of_staysHere hr _ _, by rw [hwaits]; rfl⟩
    cases r with
    | locateMbox r =>
      obtain ⟨itc, hlocate, hhandle⟩ := bind_some_eq_ok hhandle rfl
      cases hhandle
      obtain ⟨sent, main, hmain, hwaits⟩ := locateMboxWaits_takesMain hlocate
      refine ⟨msg, s₁, m, _, sent, main, hreceive, hread, hrequest, hregistry, hmain, ?_⟩
      simp only [requestWaits, hreceive, hread']
      exact hwaits
    | addMbox mboxId name =>
      obtain ⟨hmain, hlen⟩ := hnone rfl (by simp only [requestWaits, hreceive, hread'])
      exact ⟨msg, s₁, m, _, true, .idle, hreceive, hread, hrequest, hregistry, hmain, hlen⟩
    | rmvMbox mboxId name =>
      obtain ⟨hmain, hlen⟩ := hnone rfl (by simp only [requestWaits, hreceive, hread'])
      exact ⟨msg, s₁, m, _, true, .idle, hreceive, hread, hrequest, hregistry, hmain, hlen⟩
    | unknown =>
      obtain ⟨hmain, hlen⟩ := hnone rfl (by simp only [requestWaits, hreceive, hread'])
      exact ⟨msg, s₁, m, _, true, .idle, hreceive, hread, hrequest, hregistry, hmain, hlen⟩

end Coordinator

/-- A notification of a process for which `C` holds adds a mailbox under a new name, or removes the
one that has the name; of any other process, and any other message, changes nothing. -/
inductive Registers (C : Nat → Prop) : Set ItcMboxInfo → Request → Set ItcMboxInfo → Prop where
  | add {S : Set ItcMboxInfo} {mboxId : MboxId} {name : CString} (hproc : C (procOf mboxId))
      (hnew : ∀ info ∈ S, info.mboxName ≠ name) :
      Registers C S (.addMbox mboxId name) (insert ⟨mboxId, name⟩ S)
  | rmv {S : Set ItcMboxInfo} {mboxId : MboxId} {name : CString} (hproc : C (procOf mboxId))
      (hown : ∀ info ∈ S, info.mboxName = name → info.mboxId = mboxId) :
      Registers C S (.rmvMbox mboxId name) (S \ {⟨mboxId, name⟩})
  | skip {S : Set ItcMboxInfo} {r : Request}
      (hgone : ∀ mboxId, r.notifies = some mboxId → ¬ C (procOf mboxId)) : Registers C S r S

namespace Registers

variable {C C' : Nat → Prop} {S S' : Set ItcMboxInfo} {r : Request}

/-- A message that is no notification says nothing. -/
theorem eq_of_notifies_none (h : Registers C S r S') (hnone : r.notifies = none) : S' = S := by
  cases h with
  | add _ _ => cases hnone
  | rmv _ _ => cases hnone
  | skip _ => rfl

/-- The mailboxes of other processes. -/
def without (p : Nat) (S : Set ItcMboxInfo) : Set ItcMboxInfo :=
  {info | info ∈ S ∧ procOf info.mboxId ≠ p}

/-- **A process that has gone takes its mailboxes and its notifications with it.** -/
theorem leave (p : Nat) (hC : ∀ i, C' i ↔ C i ∧ i ≠ p) :
    Simulation (Registers C) (Registers C') fun S T => T = without p S where
  forward := by
    rintro S r S' T rfl hreg
    refine ⟨_, ?_, rfl⟩
    cases hreg with
    | @add mboxId name hproc hnew =>
      by_cases hp : procOf mboxId = p
      · have hsame : without p (insert ⟨mboxId, name⟩ S) = without p S := by
          ext info
          simp only [without, Set.mem_ofPred_eq, Set.mem_insert_iff]
          refine and_congr_left fun hne => or_iff_right ?_
          rintro rfl
          exact hne hp
        rw [hsame]
        refine .skip ?_
        rintro _ ⟨⟩ hproc'
        exact ((hC _).mp hproc').2 hp
      · have hinsert : without p (insert ⟨mboxId, name⟩ S) =
            insert ⟨mboxId, name⟩ (without p S) := by
          ext info
          simp only [without, Set.mem_ofPred_eq, Set.mem_insert_iff]
          rw [or_and_right]
          refine or_congr_left (and_iff_left_of_imp ?_)
          rintro rfl
          exact hp
        rw [hinsert]
        exact .add ((hC _).mpr ⟨hproc, hp⟩) fun info hinfo => hnew info hinfo.1
    | @rmv mboxId name hproc hown =>
      have hdiff : without p (S \ {⟨mboxId, name⟩}) = without p S \ {⟨mboxId, name⟩} := by
        ext info
        simp only [without, Set.mem_ofPred_eq, Set.mem_sdiff]
        tauto
      rw [hdiff]
      by_cases hp : procOf mboxId = p
      · rw [Set.sdiff_singleton_eq_self fun hmem => hmem.2 hp]
        refine .skip ?_
        rintro _ ⟨⟩ hproc'
        exact ((hC _).mp hproc').2 hp
      · exact .rmv ((hC _).mpr ⟨hproc, hp⟩) fun info hinfo => hown info hinfo.1
    | skip hgone =>
      exact .skip fun mboxId hid hproc => hgone mboxId hid ((hC _).mp hproc).1

/-- A process that comes has not announced anything. -/
theorem join {p : Nat} (hC : ∀ i, C' i ↔ C i ∨ i = p) (hreg : Registers C S r S')
    (hnot : ∀ mboxId, r.notifies = some mboxId → procOf mboxId ≠ p) : Registers C' S r S' := by
  cases hreg with
  | add hproc hnew => exact .add ((hC _).mpr (.inl hproc)) hnew
  | rmv hproc hown => exact .rmv ((hC _).mpr (.inl hproc)) hown
  | skip hgone =>
    refine .skip fun mboxId hid hproc => ?_
    rcases (hC _).mp hproc with hproc | hp
    · exact hgone mboxId hid hproc
    · exact hnot mboxId hid hp

theorem run_join {p : Nat} (hC : ∀ i, C' i ↔ C i ∨ i = p) {rs : List Request}
    (hrun : Run (Registers C) S rs S')
    (hnot : ∀ r ∈ rs, ∀ mboxId, r.notifies = some mboxId → procOf mboxId ≠ p) :
    Run (Registers C') S rs S' := by
  induction hrun with
  | nil S => exact .nil S
  | cons hreg _ ih =>
    rw [List.forall_mem_cons] at hnot
    exact .cons (hreg.join hC hnot.1) (ih hnot.2)

end Registers

/-! ## The handlers -/

namespace ItccoordInst

variable {s s' : ItccoordInst} {impl : TreeImpl Nat} {mboxId : MboxId} {name : CString}

/-- The mailboxes in `mbox_tree`. -/
def registry (s : ItccoordInst) : Set ItcMboxInfo := {info | info ∈ s.mailboxes}

theorem mem_registry {info : ItcMboxInfo} :
    info ∈ s.registry ↔ ∃ mbox ∈ s.mboxTree.toList, s.heap.cells mbox = some info := by
  rw [registry, Set.mem_ofPred_eq, mailboxes, List.mem_filterMap]

/-- **`handle_add_mbox` enters a new name.** -/
theorem Inv.addMbox_registry (h : s.Inv) (hconn : s.Connected (procOf mboxId))
    (hnew : ∀ info ∈ s.registry, info.mboxName ≠ name)
    (hcall : handleAddMbox impl s mboxId name = .ok s') :
    s'.registry = insert ⟨mboxId, name⟩ s.registry := by
  have hlt := h.slots _ (.inr (.inr hconn))
  have hkeep : ∀ mbox ∈ s.mboxTree.toList,
      (s.heap.push ⟨mboxId, name⟩).cells mbox = s.heap.cells mbox := by
    intro mbox hmbox
    obtain ⟨info, hinfo, -⟩ := h.live hmbox
    rw [hinfo, Heap.push_of_live hinfo]
  have hkey : ∀ mbox ∈ s.mboxTree.toList,
      mboxName (s.heap.push ⟨mboxId, name⟩) mbox = mboxName s.heap mbox := fun mbox hmbox =>
    (keys_of_frame (hkeep mbox hmbox)).1
  have hname : mboxName (s.heap.push ⟨mboxId, name⟩) s.heap.next = name :=
    mboxName_of_live (Heap.push_next _ _)
  have hfresh : ∀ mbox ∈ s.mboxTree.toList, mboxName (s.heap.push ⟨mboxId, name⟩) mbox ≠
      mboxName (s.heap.push ⟨mboxId, name⟩) s.heap.next := by
    intro mbox hmbox
    obtain ⟨info, hinfo, -⟩ := h.live hmbox
    rw [hkey mbox hmbox, hname, mboxName_of_live hinfo]
    exact hnew info (mem_registry.mpr ⟨mbox, hmbox, hinfo⟩)
  obtain ⟨-, hmem⟩ := impl.tsearch_spec (h.ordered.congr hkey) hfresh
  unfold handleAddMbox at hcall
  rw [findProcess_some hlt] at hcall
  obtain ⟨_, ⟨⟩, hcall⟩ := bind_eq_ok hcall
  have hstate : ¬ (s.processes (procOf mboxId)).state ≠ .connected := not_not.mpr hconn
  simp only [if_neg hstate] at hcall
  obtain ⟨found, hfound, hcall⟩ := bind_eq_ok hcall
  have hfind := walk_eq hfound
  cases found with
  | some mbox =>
    obtain ⟨hmbox, heq⟩ := (find_byKey (h.ordered.congr hkey)).mp hfind.symm
    exact absurd heq (hfresh mbox hmbox)
  | none =>
    obtain ⟨mboxTree, htree, hcall⟩ := bind_eq_ok hcall
    obtain ⟨list, -, hcall⟩ := bind_eq_ok hcall
    obtain ⟨list', -, hcall⟩ := bind_eq_ok hcall
    obtain rfl := walk_eq htree
    cases hcall
    ext info
    rw [mem_registry, Set.mem_insert_iff, mem_registry]
    constructor
    · rintro ⟨mbox, hmbox, hinfo⟩
      rcases (hmem mbox).mp hmbox with rfl | hold
      · exact .inl (Option.some.inj ((Heap.push_next _ _).symm.trans hinfo)).symm
      · exact .inr ⟨mbox, hold, (hkeep mbox hold).symm.trans hinfo⟩
    · rintro (rfl | ⟨mbox, hold, hinfo⟩)
      · exact ⟨s.heap.next, (hmem _).mpr (.inl rfl), Heap.push_next _ _⟩
      · exact ⟨mbox, (hmem mbox).mpr (.inr hold), (hkeep mbox hold).trans hinfo⟩

/-- **A process that disconnects** takes its mailboxes out of the registry. -/
theorem Inv.disconnect_registry (h : s.Inv) {p : Nat}
    (hroot : (s.processes p).listMboxesTree ≠ .dangling)
    (hcall : disconnectFromProcess impl s p = .ok s') :
    s'.registry = Registers.without p s.registry := by
  obtain ⟨list, ht, hlist⟩ := h.listOf hroot
  obtain ⟨mboxTree, hfold, -, hmem⟩ := foldlM_deleteCounterpart impl h.ordered
    (fun mbox hmbox => (h.live hmbox).imp fun _ hi => hi.1) hlist.ordered.nodup
    fun mbox hm => ((hlist.mem mbox).mp hm).1
  have hmine : ∀ mbox ∈ s.mboxTree.toList, ∀ info, s.heap.cells mbox = some info →
      (mbox ∈ list.toList ↔ procOf info.mboxId = p) := by
    intro mbox hmbox info hinfo
    rw [hlist.mem, ownerOf, hinfo, and_iff_right hmbox]
    exact Option.some_inj
  unfold disconnectFromProcess at hcall
  rw [ht] at hcall
  obtain ⟨_, ⟨⟩, hcall⟩ := bind_eq_ok hcall
  obtain ⟨mboxTree', hfold', hcall⟩ := bind_eq_ok hcall
  obtain rfl := Except.ok.inj (hfold.symm.trans hfold')
  obtain ⟨heap, hheap, hcall⟩ := bind_eq_ok hcall
  cases hcall
  have hkeep : ∀ mbox, mbox ∉ list.toList → heap.cells mbox = s.heap.cells mbox := fun mbox hm =>
    Heap.foldlM_free_frame hheap mbox hm
  ext info
  simp only [Registers.without, Set.mem_ofPred_eq]
  rw [mem_registry, mem_registry]
  constructor
  · rintro ⟨mbox, hmbox, hinfo⟩
    obtain ⟨hnot, hold⟩ := (hmem mbox).mp hmbox
    have hinfo' : s.heap.cells mbox = some info := (hkeep mbox hnot).symm.trans hinfo
    exact ⟨⟨mbox, hold, hinfo'⟩, fun hp => hnot ((hmine mbox hold info hinfo').mpr hp)⟩
  · rintro ⟨⟨mbox, hold, hinfo⟩, hp⟩
    have hnot : mbox ∉ list.toList := fun hm => hp ((hmine mbox hold info hinfo).mp hm)
    exact ⟨mbox, (hmem mbox).mpr ⟨hnot, hold⟩, (hkeep mbox hnot).trans hinfo⟩

/-- A notification of a process that is not connected is ignored. -/
theorem handleNotification_gone (hidx : procOf mboxId ≠ MAX_SUPPORTED_PROCESSES)
    (hgone : ¬ s.Connected (procOf mboxId)) :
    handleAddMbox impl s mboxId name = .ok s ∧ handleRemoveMbox impl s mboxId name = .ok s := by
  have hstate : (s.processes (procOf mboxId)).state ≠ .connected := hgone
  rw [handleAddMbox, handleRemoveMbox]
  rcases Nat.lt_or_gt_of_ne hidx with hlt | hgt
  · rw [findProcess_some hlt]
    simp only [bind, Except.bind, if_pos hstate]
    exact ⟨rfl, rfl⟩
  · rw [findProcess_none hgt]
    exact ⟨rfl, rfl⟩

end ItccoordInst

/-- **The handlers do to the registry what a right notification says**, and do not fault. -/
theorem handleNotification_registers {s : ItccoordInst} (h : s.Inv) (impl : TreeImpl Nat)
    {r : Request} {S' : Set ItcMboxInfo}
    (hidx : ∀ mboxId, r.notifies = some mboxId → procOf mboxId ≠ MAX_SUPPORTED_PROCESSES)
    (hreg : Registers s.Connected s.registry r S') :
    ∃ s', handleNotification impl s r = .ok s' ∧ s'.Inv ∧ s.SlotsKept s' ∧ s'.registry = S' := by
  cases hreg with
  | @add mboxId name hproc hnew =>
    obtain ⟨s', hcall, hinv, -⟩ := h.addMbox impl name (hidx mboxId rfl)
    exact ⟨s', hcall, hinv, ItccoordInst.handleAddMbox_kept hcall,
      h.addMbox_registry hproc hnew hcall⟩
  | @rmv mboxId name hproc hown =>
    obtain ⟨s', hcall, hinv, hentries⟩ := h.rmvMbox impl (hidx mboxId rfl)
      fun _ mbox hmbox mboxId' hnames =>
        hown _ (ItccoordInst.mem_registry.mpr ⟨mbox, hmbox, hnames⟩) rfl
    refine ⟨s', hcall, hinv, ItccoordInst.handleRemoveMbox_kept hcall, ?_⟩
    ext ⟨mboxId', name'⟩
    rw [ItccoordInst.mem_registry, Set.mem_sdiff, ItccoordInst.mem_registry,
      Set.mem_singleton_iff, ItcMboxInfo.mk.injEq]
    constructor
    · rintro ⟨mbox, hentry⟩
      obtain ⟨hold, hne⟩ := (hentries mbox mboxId' name').mp hentry
      exact ⟨⟨mbox, hold⟩, hne⟩
    · rintro ⟨⟨mbox, hold⟩, hne⟩
      exact ⟨mbox, (hentries mbox mboxId' name').mpr ⟨hold, hne⟩⟩
  | skip hgone =>
    cases r with
    | addMbox mboxId name =>
      obtain ⟨hcall, -⟩ := ItccoordInst.handleNotification_gone (hidx mboxId rfl)
        (hgone mboxId rfl)
      exact ⟨s, hcall, h, .refl s, rfl⟩
    | rmvMbox mboxId name =>
      obtain ⟨-, hcall⟩ := ItccoordInst.handleNotification_gone (hidx mboxId rfl)
        (hgone mboxId rfl)
      exact ⟨s, hcall, h, .refl s, rfl⟩
    | locateMbox _ => exact ⟨s, rfl, h, .refl s, rfl⟩
    | unknown => exact ⟨s, rfl, h, .refl s, rfl⟩

/-- Notifications that are right one after the other. -/
theorem foldlM_registers {s : ItccoordInst} (h : s.Inv) (impl : TreeImpl Nat) {rs : List Request}
    {S' : Set ItcMboxInfo}
    (hidx : ∀ r ∈ rs, ∀ mboxId, r.notifies = some mboxId →
      procOf mboxId ≠ MAX_SUPPORTED_PROCESSES)
    (hrun : Run (Registers s.Connected) s.registry rs S') :
    ∃ s', rs.foldlM (handleNotification impl) s = .ok s' ∧ s'.registry = S' := by
  induction rs generalizing s with
  | nil =>
    cases hrun
    exact ⟨s, rfl, rfl⟩
  | cons r rs ih =>
    rw [List.forall_mem_cons] at hidx
    obtain ⟨S₁, hreg, hrest⟩ : ∃ S₁, Registers s.Connected s.registry r S₁ ∧
        Run (Registers s.Connected) S₁ rs S' := by
      cases hrun with
      | cons head tail => exact ⟨_, head, tail⟩
    obtain ⟨s₁, hcall, hinv, hkept, hregistry⟩ := handleNotification_registers h impl hidx.1 hreg
    have hconn : s.Connected = s₁.Connected := funext fun i => propext (hkept.connected i).symm
    rw [hconn, ← hregistry] at hrest
    obtain ⟨s', hfold, hS'⟩ := ih hinv hidx.2 hrest
    refine ⟨s', ?_, hS'⟩
    rw [List.foldlM_cons, hcall]
    exact hfold

/-! ## The system -/

/-- The thread of the coordinator's process that runs `main`. -/
def coordTid : Nat := 1

/-- The place of its mailbox; the rx thread has the other one. -/
def coordMbox : Nat := 1

structure Directory where
  /-- Process 1 is the coordinator's. -/
  host : Host
  inst : ItccoordInst
  main : MainPoint

/-- The mailboxes of connected processes that are in use. -/
def Directory.inUse (d : Directory) : Set ItcMboxInfo :=
  {info | ∃ p, p ≠ 1 ∧ d.inst.Connected p ∧ info ∈ (d.host.procs p).s.inUse}

inductive DirectoryAction where
  | host (act : HostAction)
  /-- `main` receives a message and, if it is a notification, updates the registry; `sent` says
  whether a request to the gateway can be sent. -/
  | serve (sent : Bool)
  /-- In a search, `main` takes a message for the answer of the gateway. -/
  | takeReply (m : ItcMessage)
  /-- No message has come in time. -/
  | timeout
  /-- `main` at its sockets. -/
  | sockets (act : CoordAction)

inductive DirectoryStep (E : ItcEnv KernelQueues) (M : Nat) (impl : TreeImpl Nat) :
    Directory → DirectoryAction → Directory → Prop where
  | host {d : Directory} {act : HostAction} {h' : Host} (hstep : HostStep E M d.host act h') :
      DirectoryStep E M impl d (.host act) { d with host := h' }
  | serve {d : Directory} {h' : Host} {p : Nat} {m : ItcMessage} {r : Request}
      {inst' : ItccoordInst} {sent : Bool} {main' : MainPoint} (hidle : d.main = .idle)
      (hreceive : HostStep E M d.host
        (.call 1 (.receive coordTid coordMboxId (some (p, some m)))) h')
      (hrequest : readRequest E.endian m = .ok r)
      (hhandle : handleNotification impl d.inst r = .ok inst')
      (hmain : TakesMain inst' sent r main') :
      DirectoryStep E M impl d (.serve sent) ⟨h', inst', main'⟩
  | takeReply {d : Directory} {h' : Host} {p : Nat} {m : ItcMessage}
      (hsearching : d.main = .searching)
      (hreceive : HostStep E M d.host
        (.call 1 (.receive coordTid coordMboxId (some (p, some m)))) h') :
      DirectoryStep E M impl d (.takeReply m) ⟨h', d.inst, .idle⟩
  | timeout {d : Directory} (hsearching : d.main = .searching)
      (hempty : (d.host.procs 1).s.RxMessages coordMbox []) :
      DirectoryStep E M impl d .timeout { d with main := .idle }
  | sockets {d : Directory} {act : CoordAction} {inst' : ItccoordInst} (hidle : d.main = .idle)
      (hstep : CoordStep impl d.inst act inst') :
      DirectoryStep E M impl d (.sockets act) { d with inst := inst' }

/-- What the threads of other processes do: a new mailbox gets a name that no mailbox in use has,
and what they send to the coordinator themselves are no notifications: requests to locate a mailbox,
the answers of the gateway. -/
def Directory.UserMay (d : Directory) (e : Endian) (p : Nat) : ItcEvent → Prop
  | .createMailbox _ name _ _ => ∀ info ∈ d.inUse, info.mboxName ≠ name
  | .send _ (some (msg, _)) toMbox _ _ => procOf toMbox = 1 → toMbox = coordMboxId ∧
      ∀ m, (d.host.procs p).s.heap.cells msg = some m →
        ∃ r, HasRequest e m r ∧ r.notifies = none
  | _ => True

/-- How the host is used. A process is connected while it calls; the process that connects to a slot
has not created a mailbox before, and the slot has no list of another. What `main` takes in a search
is no notification. -/
def DirectoryMay (e : Endian) (d : Directory) : DirectoryAction → Prop
  | .host (.call p a) => HostMay d.host (.call p a) ∧
      if p = 1 then CoordMay a else d.inst.Connected p ∧ d.UserMay e p a
  | .host (.rx _) => True
  | .serve _ => True
  | .takeReply m => (request e m).notifies = none
  | .timeout => True
  | .sockets .locateCoord => True
  | .sockets (.connect p) => p ≠ 1 ∧ (d.host.procs p).log.created = [] ∧
      (d.inst.processes p).listMboxesTree ≠ .dangling
  | .sockets (.disconnect p) => (d.inst.processes p).listMboxesTree ≠ .dangling
  | .sockets (.addMbox _ _) => False
  | .sockets (.rmvMbox _ _) => False

/-- The messages for the coordinator that `main` has not received: those in its rx queue, and behind
them those in the System V queue of its process. -/
structure Host.CoordMail (h : Host) (e : Endian) (ms : List UserMessage) : Prop where
  queued : ∃ l ls ts, (h.procs 1).s.RxMessages coordMbox l ∧
    l.map (h.procs 1).s.heap.cells = ls.map (fun m => some m.queued) ∧
    h.queues 1 = some (ts.map fun m => m.msg.image e) ∧ ms = ls ++ ts

/-- The coordinator has created the mailboxes of its process. -/
structure Host.CoordReady (h : Host) : Prop where
  running : (h.queues 1).isSome
  mbox : (h.procs 1).s.myThreadlocalMbox coordTid = some coordMbox
  inuse : ((h.procs 1).s.mboxes coordMbox).mboxState = .inuse
  mboxId : ((h.procs 1).s.mboxes coordMbox).mboxId = coordMboxId
  rx : (h.procs 1).s.myThreadlocalMbox sysvmqRxTid ≠ none

/-- The coordinator has started: its rx thread and `main` have created their mailboxes, and nobody
else has done anything. -/
structure Directory.Started (E : ItcEnv KernelQueues) (M : Nat) (nr : Nat → UInt32)
    (d : Directory) : Prop where
  host : ∃ rxName rxFlags rxId name flags, rxId ≠ ITC_NO_MBOX_ID ∧
    Run (Guarded (HostStep E M) HostMay) (.init M nr)
      [.call 1 (.createMailbox sysvmqRxTid rxName rxFlags rxId),
        .call 1 (.createMailbox coordTid name flags coordMboxId)] d.host
  inst : d.inst = .init
  main : d.main = .idle

end ItcFramework
