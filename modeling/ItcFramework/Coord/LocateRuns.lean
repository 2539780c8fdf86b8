import ItcFramework.Coord.LocateNet

/-!
# Answers and questions

Which runs of the network answer the questions that were asked.

* `LocateNet.Matched` — a step does what is expected: no call gives up, and a reply that is taken
  was produced for the same name. The runs that keep `LocateNet.Correct` are those of such steps.
* `LocateNet.Uncrossed` — what a caller can look after: no call gives up, and a request leaves when
  nothing of an earlier one for another name is left, be it on its way, in service or unread.
* `locate_answers_iff` — both.
-/

set_option autoImplicit false

namespace ItcFramework

open ByteImage HeapModel ItcInstance SearchTree Transition

variable {σ : Type} {N : LocateHosts σ} {s s' : LocateNet} {a : LocateAction}

/-! ## What a step does, and what is left over -/

namespace LocateNet

/-- No call gives up, and no call and no search takes a reply that is for another name. -/
def Matched (N : LocateHosts σ) (s : LocateNet) : LocateAction → Prop
  | .locateExpires _ _ => False
  | .locateTakes h c => ∀ k l rest, s.calls h c = some k → s.queue h c = l :: rest →
      ∀ name, l.topic.reply? = some name → name = k.name
  | .searchTakes h => ∀ r l rest, s.serving h = some r →
      s.queue h (N.itccoordMboxId h) = l :: rest →
      ∀ name, l.topic.searchReply? = some name → name = r.name
  | _ => True

/-- Something of a request of mailbox `c` for this name is left over. -/
inductive Outstanding (s : LocateNet) (h : Nat) (c : MboxId) : CString → Prop where
  | request {dest : MboxId} {l : Letter} {r : LocateRequest} (hl : s.Holds h dest l)
      (htopic : l.topic = .request r) (hr : r.fromMbox = c) : Outstanding s h c r.name
  | serving {r : LocateRequest} (hserving : s.serving h = some r) (hr : r.fromMbox = c) :
      Outstanding s h c r.name
  | reply {l : Letter} {name : CString} (hl : s.Holds h c l) (htopic : l.topic = .reply name) :
      Outstanding s h c name

/-- Something of a search of the coordinator for this name is left over. -/
inductive Searched (s : LocateNet) (h : Nat) : CString → Prop where
  | search {dest : MboxId} {l : Letter} {name : CString} (hl : s.Holds h dest l)
      (htopic : l.topic = .search name) : Searched s h name
  | ask {k : Packet} (hk : k ∈ s.asks) (hsrc : k.src = h) : Searched s h k.name
  | call {h' : Nat} {c : MboxId} {k : LocateCall} (hcall : s.calls h' c = some k)
      (hpeer : k.peer = some h) : Searched s h k.name
  | tell {k : Packet} (hk : k ∈ s.tells) (hdst : k.dst = h) : Searched s h k.name
  | searchReply {dest : MboxId} {l : Letter} {name : CString} (hl : s.Holds h dest l)
      (htopic : l.topic = .searchReply name) : Searched s h name

/-- No call gives up, and a request leaves when nothing of an earlier one for another name is left
over. -/
def Uncrossed (s : LocateNet) : LocateAction → Prop
  | .locateExpires _ _ => False
  | .locateAsks h c k => ∀ name, s.Outstanding h c name → name = k.name
  | .search h r => ∀ name, s.Searched h name → name = r.name
  | _ => True

end LocateNet

/-! ## Messages and their topics -/

def Topic.msgno : Topic → Option UInt32
  | .other => none
  | .request _ => some ITC_LOCATE_MBOX_SYNC_REQUEST
  | .reply _ => some ITC_LOCATE_MBOX_SYNC_REPLY
  | .search _ => some ITC_LOCATE_MBOX_FROM_ITCGWS_REQUEST
  | .searchReply _ => some ITC_LOCATE_MBOX_FROM_ITCGWS_REPLY

/-- The message is what its topic says. -/
structure Letter.Ok (e : Endian) (named : List ItcMboxInfo) (l : Letter) : Prop where
  msgno : ∀ n, l.topic.msgno = some n → l.msg.msgno e = .ok n
  other : l.topic.msgno = none → OtherMessage e l.msg
  request : ∀ r, l.topic = .request r → Coordinator.readRequest e l.msg = .ok (.locateMbox r)
  reply : ∀ name, l.topic.reply? = some name ∨ l.topic.searchReply? = some name →
    ∃ mboxId, load32 e l.msg.body 4 = .ok mboxId ∧ IsAnswer named name mboxId
  search : ∀ name, l.topic = .search name → strAt l.msg.body offMboxname = .ok name ∧
    offLocateMboxname + name.strlen + 1 < 2 ^ 32

theorem Topic.eq_reply {t : Topic} {name : CString} (ht : t.reply? = some name) :
    t = .reply name := by
  cases t with
  | reply name' =>
    cases ht
    rfl
  | other | request _ | search _ | searchReply _ => cases ht

theorem Topic.eq_searchReply {t : Topic} {name : CString} (ht : t.searchReply? = some name) :
    t = .searchReply name := by
  cases t with
  | searchReply name' =>
    cases ht
    rfl
  | other | request _ | reply _ | search _ => cases ht

namespace Letter.Ok

variable {e : Endian} {named named' : List ItcMboxInfo} {l : Letter}

theorem mono (h : l.Ok e named) (hle : named ⊆ named') : l.Ok e named' where
  msgno := h.msgno
  other := h.other
  request := h.request
  reply name htopic := (h.reply name htopic).imp fun _ hid => ⟨hid.1, hid.2.mono hle⟩
  search := h.search

/-- A message of the exchanges has the topic that its number says. -/
theorem topic_msgno (h : l.Ok e named) {n : UInt32} (hn : l.msg.msgno e = .ok n)
    (hmem : n = ITC_LOCATE_MBOX_SYNC_REQUEST ∨ n = ITC_LOCATE_MBOX_SYNC_REPLY ∨
      n = ITC_LOCATE_MBOX_FROM_ITCGWS_REQUEST ∨ n = ITC_LOCATE_MBOX_FROM_ITCGWS_REPLY) :
    l.topic.msgno = some n := by
  cases htopic : l.topic.msgno with
  | none =>
    obtain ⟨h₁, h₂, h₃, h₄⟩ := h.other htopic n hn
    rcases hmem with hmem | hmem | hmem | hmem
    · exact absurd hmem h₁
    · exact absurd hmem h₂
    · exact absurd hmem h₃
    · exact absurd hmem h₄
  | some n' =>
    have hn' := h.msgno n' htopic
    rw [hn] at hn'
    cases hn'
    rfl

theorem topic_request (h : l.Ok e named) {r : LocateRequest}
    (hread : Coordinator.readRequest e l.msg = .ok (.locateMbox r)) : l.topic = .request r := by
  have hn : l.msg.msgno e = .ok ITC_LOCATE_MBOX_SYNC_REQUEST := by
    obtain ⟨n, hn, hcall⟩ := bind_eq_ok hread
    split at hcall
    · obtain ⟨mboxId, -, hcall⟩ := bind_eq_ok hcall
      obtain ⟨name, -, hcall⟩ := bind_eq_ok hcall
      cases hcall
    · split at hcall
      · obtain ⟨mboxId, -, hcall⟩ := bind_eq_ok hcall
        obtain ⟨name, -, hcall⟩ := bind_eq_ok hcall
        cases hcall
      · split at hcall
        · rename_i heq
          rw [← heq]
          exact hn
        · cases hcall
  have htopic := h.topic_msgno hn (.inl rfl)
  cases ht : l.topic with
  | request r' =>
    have hread' := h.request r' ht
    rw [hread] at hread'
    cases hread'
    rfl
  | other =>
    rw [ht] at htopic
    cases htopic
  | reply _ | search _ | searchReply _ =>
    rw [ht] at htopic
    exact absurd (Option.some.inj htopic) (by decide)

/-- What a call takes for its reply is one. -/
theorem topic_reply (h : l.Ok e named) {findOnlyInternal : Bool} {res : LocateResult}
    (hread : readLocateReply e l.msg findOnlyInternal = .ok (some res)) :
    ∃ name, l.topic.reply? = some name ∧ IsAnswer named name res.mboxId := by
  obtain ⟨n, hn, hread⟩ := bind_eq_ok hread
  split at hread
  · cases hread
  · rename_i heq
    rw [not_not] at heq
    rw [heq] at hn
    obtain ⟨mboxId, hid, hread⟩ := bind_eq_ok hread
    have hres : res.mboxId = mboxId := by
      split at hread
      · cases hread
        rfl
      · obtain ⟨isExternal, -, hread⟩ := bind_eq_ok hread
        obtain ⟨ns, -, hread⟩ := bind_eq_ok hread
        cases hread
        rfl
    have htopic := h.topic_msgno hn (.inr (.inl rfl))
    cases ht : l.topic with
    | reply name =>
      obtain ⟨mboxId', hid', hanswer⟩ := h.reply name (.inl (by rw [ht]; rfl))
      rw [hid] at hid'
      cases hid'
      refine ⟨name, rfl, ?_⟩
      rw [hres]
      exact hanswer
    | other =>
      rw [ht] at htopic
      cases htopic
    | request _ | search _ | searchReply _ =>
      rw [ht] at htopic
      exact absurd (Option.some.inj htopic) (by decide)

/-- What the coordinator takes for the gateway's reply is one. -/
theorem topic_searchReply (h : l.Ok e named) {mboxId : MboxId} {ns : CString}
    (hread : readGatewayReply e l.msg = .ok (some (mboxId, ns))) :
    ∃ name, l.topic.searchReply? = some name ∧ IsAnswer named name mboxId := by
  obtain ⟨n, hn, hread⟩ := bind_eq_ok hread
  split at hread
  · cases hread
  · rename_i heq
    rw [not_not] at heq
    rw [heq] at hn
    obtain ⟨id, hid, hread⟩ := bind_eq_ok hread
    have hres : mboxId = id := by
      obtain ⟨ns', -, hread⟩ := bind_eq_ok hread
      split at hread
      · cases hread
      · cases hread
        rfl
    have htopic := h.topic_msgno hn (.inr (.inr (.inr rfl)))
    cases ht : l.topic with
    | searchReply name =>
      obtain ⟨id', hid', hanswer⟩ := h.reply name (.inr (by rw [ht]; rfl))
      rw [hid] at hid'
      cases hid'
      refine ⟨name, rfl, ?_⟩
      rw [hres]
      exact hanswer
    | other =>
      rw [ht] at htopic
      cases htopic
    | request _ | reply _ | search _ =>
      rw [ht] at htopic
      exact absurd (Option.some.inj htopic) (by decide)

/-- What the gateway takes for its coordinator's request is one. -/
theorem topic_search (h : l.Ok e named) {name : CString}
    (hn : l.msg.msgno e = .ok ITC_LOCATE_MBOX_FROM_ITCGWS_REQUEST)
    (hname : strAt l.msg.body offMboxname = .ok name) :
    l.topic = .search name ∧ offLocateMboxname + name.strlen + 1 < 2 ^ 32 := by
  have htopic := h.topic_msgno hn (.inr (.inr (.inl rfl)))
  cases ht : l.topic with
  | search name' =>
    obtain ⟨hname', hlt⟩ := h.search name' ht
    rw [hname] at hname'
    cases hname'
    exact ⟨rfl, hlt⟩
  | other =>
    rw [ht] at htopic
    cases htopic
  | request _ | reply _ | searchReply _ =>
    rw [ht] at htopic
    exact absurd (Option.some.inj htopic) (by decide)

end Letter.Ok

/-! ## The messages that are built -/

section Built

variable {e : Endian} {al : Allocator} {named : List ItcMboxInfo} {m : ItcMessage}

theorem Letter.Ok.of_other (hm : OtherMessage e m) : Letter.Ok e named ⟨m, .other⟩ where
  msgno := nofun
  other _ := hm
  request := nofun
  reply := nofun
  search := nofun

theorem Letter.Ok.of_request {c : MboxId} {timeout : UInt32} {findOnlyInternal : Bool}
    {name : CString}
    (hm : locateMboxSyncRequest e al c timeout findOnlyInternal name = .ok m) :
    Letter.Ok e named ⟨m, .request ⟨c, timeout, findOnlyInternal, name⟩⟩ := by
  obtain ⟨hmsgno, hfrom, htimeout, hflag, hname⟩ := syncMsg_reads hm
  refine ⟨?_, nofun, ?_, nofun, nofun⟩
  · rintro _ ⟨⟩
    exact hmsgno
  · rintro _ ⟨⟩
    have hbool : (boolByte findOnlyInternal != 0) = findOnlyInternal := by
      cases findOnlyInternal <;> rfl
    simp only [Coordinator.readRequest, hmsgno, hfrom, htimeout, hflag, hname, bind, Except.bind,
      hbool]
    rfl

theorem Letter.Ok.of_reply {mboxId : MboxId} {pid : UInt32} {isExternal : Bool} {ns name : CString}
    (hm : locateMboxSyncReply e al mboxId pid isExternal ns = .ok m)
    (hanswer : IsAnswer named name mboxId) : Letter.Ok e named ⟨m, .reply name⟩ := by
  obtain ⟨hmsgno, hid, -⟩ := syncMsg_reads hm
  refine ⟨?_, nofun, nofun, ?_, nofun⟩
  · rintro _ ⟨⟩
    exact hmsgno
  · rintro name' (⟨⟨⟩⟩ | htopic)
    · exact ⟨mboxId, hid, hanswer⟩
    · cases htopic

theorem Letter.Ok.of_search {itccoordMboxId : MboxId} {name : CString}
    (hm : idNameMsg e al ITC_LOCATE_MBOX_FROM_ITCGWS_REQUEST itccoordMboxId name = .ok m) :
    Letter.Ok e named ⟨m, .search name⟩ := by
  obtain ⟨hmsgno, -, hname⟩ := idNameMsg_reads hm
  refine ⟨?_, nofun, nofun, nofun, ?_⟩
  · rintro _ ⟨⟩
    exact hmsgno
  · rintro _ ⟨⟩
    refine ⟨hname, ?_⟩
    have hlt := idNameMsg_lt hm
    simp only [offMboxname] at hlt
    simp only [offLocateMboxname]
    omega

theorem Letter.Ok.of_searchReply {mboxId : MboxId} {ns name : CString}
    (hm : locateMboxFromItcgwsReply e al mboxId ns = .ok m)
    (hanswer : IsAnswer named name mboxId) : Letter.Ok e named ⟨m, .searchReply name⟩ := by
  obtain ⟨hmsgno, hid, -⟩ := idNameMsg_reads hm
  refine ⟨?_, nofun, nofun, ?_, nofun⟩
  · rintro _ ⟨⟩
    exact hmsgno
  · rintro name' (htopic | ⟨⟨⟩⟩)
    · cases htopic
    · exact ⟨mboxId, hid, hanswer⟩

/-- What a call returns when it has taken a message. -/
theorem locateReturn_some {l : Letter} {findOnlyInternal : Bool} {mboxId : MboxId}
    (h : l.Ok e named) (hreturn : locateReturn e findOnlyInternal (some l.msg) = .ok mboxId) :
    mboxId = ITC_NO_MBOX_ID ∨ ∃ name, l.topic.reply? = some name ∧ IsAnswer named name mboxId := by
  obtain ⟨reply, hread, hreturn⟩ := bind_eq_ok hreturn
  cases hreturn
  cases reply with
  | none => exact .inl rfl
  | some res => exact .inr (h.topic_reply hread)

end Built

/-! ## Letters and where they are -/

theorem mem_of_split {α : Type} {l xs ys : List α} {x : α} (h : l = xs ++ x :: ys) : x ∈ l := by
  rw [h]
  exact List.mem_append_right _ List.mem_cons_self

theorem subset_of_split {α : Type} {l xs ys : List α} {x : α} (h : l = xs ++ x :: ys) :
    xs ++ ys ⊆ l := by
  rw [h]
  exact ((List.sublist_cons_self x ys).append_left xs).subset

namespace LocateNet

variable {h h' : Nat} {c c' : MboxId} {l l' : Letter}

theorem holds_post {letters : List (MboxId × Letter)} :
    (s.post h letters).Holds h' c' l' ↔ s.Holds h' c' l' ∨ h' = h ∧ (c', l') ∈ letters := by
  simp only [Holds, post_queue, post_flight, List.mem_append, List.mem_map, Prod.mk.injEq]
  constructor
  · rintro (hq | hf | ⟨o, ho, rfl, rfl, rfl⟩)
    · exact .inl (.inl hq)
    · exact .inl (.inr hf)
    · exact .inr ⟨rfl, ho⟩
  · rintro ((hq | hf) | ⟨rfl, ho⟩)
    · exact .inl hq
    · exact .inr (.inl hf)
    · exact .inr (.inr ⟨(c', l'), ho, rfl, rfl, rfl⟩)

theorem holds_rest {rest : List Letter} (hqueue : s.queue h c = l :: rest)
    (hl : (s.setQueue h c rest).Holds h' c' l') : s.Holds h' c' l' := by
  rcases hl with hq | hf
  · simp only [setQueue_queue] at hq
    split at hq
    · rename_i heq
      obtain ⟨rfl, rfl⟩ := heq
      exact .inl (by rw [hqueue]; exact List.mem_cons_of_mem _ hq)
    · exact .inl hq
  · exact .inr hf

theorem holds_first {rest : List Letter} (hqueue : s.queue h c = l :: rest) : s.Holds h c l :=
  .inl (by rw [hqueue]; exact List.mem_cons_self)

theorem holds_deliver {xs ys : List (Nat × MboxId × Letter)}
    (hflight : s.flight = xs ++ (h, c, l) :: ys)
    (hl : ((s.setFlight (xs ++ ys)).setQueue h c (s.queue h c ++ [l])).Holds h' c' l') :
    s.Holds h' c' l' := by
  rcases hl with hq | hf
  · simp only [setQueue_queue, setFlight_queue] at hq
    split at hq
    · rename_i heq
      obtain ⟨rfl, rfl⟩ := heq
      rcases List.mem_append.mp hq with hq | hq
      · exact .inl hq
      · obtain rfl := List.mem_singleton.mp hq
        exact .inr (mem_of_split hflight)
    · exact .inl hq
  · exact .inr (subset_of_split hflight hf)

theorem holds_lose {xs ys : List (Nat × MboxId × Letter)}
    (hflight : s.flight = xs ++ (h, c, l) :: ys) (hl : (s.setFlight (xs ++ ys)).Holds h' c' l') :
    s.Holds h' c' l' :=
  hl.imp_right fun hf => subset_of_split hflight hf

end LocateNet

/-! ## What is in order -/

/-- The packet asks for its name. -/
def Packet.Asks (k : Packet) : Prop :=
  ∃ (e : Endian) (pid : UInt32) (req : ItcMessage), strAt req.body offMboxname = .ok k.name ∧
    offLocateMboxname + k.name.strlen + 1 < 2 ^ 32 ∧ locateMboxPacket e pid req = .ok k.bytes

/-- The packet answers the question for its name. -/
def Packet.Tells (named : List ItcMboxInfo) (k : Packet) : Prop :=
  ∃ (e : Endian) (pid : UInt32) (mboxId : MboxId), k.bytes = locateReplyPacket e pid mboxId ∧
    IsAnswer named k.name mboxId

theorem Packet.Tells.mono {named named' : List ItcMboxInfo} {k : Packet} (h : k.Tells named)
    (hle : named ⊆ named') : k.Tells named' := by
  obtain ⟨e, pid, mboxId, hbytes, hanswer⟩ := h
  exact ⟨e, pid, mboxId, hbytes, hanswer.mono hle⟩

theorem tellPeer_tells {named : List ItcMboxInfo} {e : Endian} {pid : UInt32} {sent : Bool} {h : Nat}
    {k : LocateCall} {mboxId : MboxId} (hanswer : IsAnswer named k.name mboxId) :
    ∀ p ∈ tellPeer e pid sent h k mboxId, p.Tells named := by
  intro p hp
  unfold tellPeer at hp
  split at hp
  · cases hp
  · split at hp
    · cases hp
    · obtain rfl := List.mem_singleton.mp hp
      exact ⟨e, pid, mboxId, rfl, hanswer⟩

namespace LocateNet

/-- Every message and packet is what its topic says, every reply is right for the name it was
produced for, and the calls that have returned were answered. -/
structure Sound (N : LocateHosts σ) (s : LocateNet) : Prop where
  named : ∀ h, (s.registry h).inst.mailboxes ⊆ s.named
  letters : ∀ h c l, s.Holds h c l → l.Ok (N.env h).endian s.named
  asks : ∀ k ∈ s.asks, k.Asks
  tells : ∀ k ∈ s.tells, k.Tells s.named
  correct : s.Correct

theorem Sound.init : (init N).Sound N where
  named _ := List.nil_subset _
  letters := by
    rintro h c l (hq | hf)
    · cases hq
    · cases hf
  asks := nofun
  tells := nofun
  correct := ⟨nofun, nofun, nofun⟩

namespace Sound

variable {h : Nat} {c : MboxId} {l : Letter}

/-- Letters move, or go. -/
theorem mail (hs : s.Sound N) {queue : Nat → MboxId → List Letter}
    {flight : List (Nat × MboxId × Letter)}
    (hholds : ∀ h c l, Holds { s with queue, flight } h c l → s.Holds h c l) :
    Sound N { s with queue, flight } where
  named := hs.named
  letters h c l hl := hs.letters h c l (hholds h c l hl)
  asks := hs.asks
  tells := hs.tells
  correct := ⟨hs.correct.answers, hs.correct.timeouts, hs.correct.matched⟩

theorem rest (hs : s.Sound N) {rest : List Letter} (hqueue : s.queue h c = l :: rest) :
    (s.setQueue h c rest).Sound N :=
  hs.mail fun _ _ _ => holds_rest hqueue

theorem first (hs : s.Sound N) {rest : List Letter} (hqueue : s.queue h c = l :: rest) :
    l.Ok (N.env h).endian s.named :=
  hs.letters h c l (holds_first hqueue)

theorem post (hs : s.Sound N) {letters : List (MboxId × Letter)}
    (hletters : ∀ o ∈ letters, o.2.Ok (N.env h).endian s.named) : (s.post h letters).Sound N where
  named := hs.named
  letters h' c l hl := by
    rcases holds_post.mp hl with hold | ⟨rfl, hnew⟩
    · exact hs.letters h' c l hold
    · exact hletters (c, l) hnew
  asks := hs.asks
  tells := hs.tells
  correct := ⟨hs.correct.answers, hs.correct.timeouts, hs.correct.matched⟩

theorem learn (hs : s.Sound N) (mailboxes : List ItcMboxInfo) : (s.learn mailboxes).Sound N where
  named h _ hi := List.mem_append_left _ (hs.named h hi)
  letters h c l hl := (hs.letters h c l hl).mono (List.subset_append_left ..)
  asks := hs.asks
  tells k hk := (hs.tells k hk).mono (List.subset_append_left ..)
  correct := ⟨fun r hr => (hs.correct.answers r hr).mono (List.subset_append_left ..),
    hs.correct.timeouts, hs.correct.matched⟩

theorem setRegistry (hs : s.Sound N) (h : Nat) (w : CoordLife) : (s.setRegistry h w).Sound N :=
  have hlearn := hs.learn w.inst.mailboxes
  { hlearn with
    named := by
      intro h'
      simp only [setRegistry_registry, setRegistry_named]
      split
      · exact List.subset_append_right ..
      · exact hlearn.named h'
    correct := ⟨hlearn.correct.answers, hlearn.correct.timeouts, hlearn.correct.matched⟩ }

theorem setPackets (hs : s.Sound N) {asks tells : List Packet} (hasks : ∀ k ∈ asks, k.Asks)
    (htells : ∀ k ∈ tells, k.Tells s.named) : (s.setPackets asks tells).Sound N where
  named := hs.named
  letters := hs.letters
  asks := hasks
  tells := htells
  correct := ⟨hs.correct.answers, hs.correct.timeouts, hs.correct.matched⟩

theorem setCall (hs : s.Sound N) (h : Nat) (c : MboxId) (k : Option LocateCall) :
    (s.setCall h c k).Sound N :=
  { hs with correct := ⟨hs.correct.answers, hs.correct.timeouts, hs.correct.matched⟩ }

theorem setServing (hs : s.Sound N) (h : Nat) (r : Option LocateRequest) :
    (s.setServing h r).Sound N :=
  { hs with correct := ⟨hs.correct.answers, hs.correct.timeouts, hs.correct.matched⟩ }

theorem setGwItccoord (hs : s.Sound N) (h : Nat) (mboxId : MboxId) :
    (s.setGwItccoord h mboxId).Sound N :=
  { hs with correct := ⟨hs.correct.answers, hs.correct.timeouts, hs.correct.matched⟩ }

theorem take (hs : s.Sound N) {name : CString} {replyTo : Option CString}
    (hmatch : ∀ name', replyTo = some name' → name' = name) : (s.take name replyTo).Sound N :=
  { hs with
    correct := by
      refine ⟨hs.correct.answers, hs.correct.timeouts, fun t ht => ?_⟩
      rcases List.mem_append.mp ht with ht | ht
      · exact hs.correct.matched t ht
      · obtain ⟨name', hname', rfl⟩ := List.mem_map.mp ht
        exact hmatch name' (Option.mem_toList.mp hname') }

theorem finish (hs : s.Sound N) {k : LocateCall} {expired : Bool} {mboxId : MboxId}
    {told : List Packet} (hanswer : IsAnswer s.named k.name mboxId)
    (hexpired : expired = true → mboxId = ITC_NO_MBOX_ID) (htold : ∀ p ∈ told, p.Tells s.named) :
    (s.finish h c k expired mboxId told).Sound N where
  named := hs.named
  letters := hs.letters
  asks := hs.asks
  tells p hp := (List.mem_append.mp hp).elim (hs.tells p) (htold p)
  correct := by
    refine ⟨fun r hr => ?_, fun r hr => ?_, hs.correct.matched⟩
    · rcases List.mem_append.mp hr with hr | hr
      · exact hs.correct.answers r hr
      · obtain rfl := List.mem_singleton.mp hr
        exact hanswer
    · rcases List.mem_append.mp hr with hr | hr
      · exact hs.correct.timeouts r hr
      · obtain rfl := List.mem_singleton.mp hr
        exact hexpired

theorem begins (hs : s.Sound N) {k : LocateCall} {s₁ : LocateNet} (hbegin : Begins N s h c k s₁) :
    s₁.Sound N := by
  cases hbegin with
  | user => exact hs
  | server hc hasks hdst hsock hserver =>
    exact hs.setPackets (fun k hk => hs.asks k (subset_of_split hasks hk)) hs.tells

end Sound

/-! ## One step -/

theorem Sound.step (hs : s.Sound N) (hmatched : s.Matched N a) (hstep : LocateStep N s a s') :
    s'.Sound N := by
  cases hstep with
  | registry => exact hs.setRegistry _ _
  | send hm =>
    refine hs.post fun o ho => ?_
    obtain rfl := List.mem_singleton.mp ho
    exact .of_other hm
  | deliver hflight => exact hs.mail fun _ _ _ => holds_deliver hflight
  | lose hflight => exact hs.mail fun _ _ _ => holds_lose hflight
  | receive hidle hc hqueue => exact hs.rest hqueue
  | @locateHere h c k s₁ p mbox _ _ hidle hbegin howner hlocal =>
    have hanswer : IsAnswer (s₁.learn p.mailboxes).named k.name (p.mboxes mbox).mboxId :=
      .inr (List.mem_append_right _ (locateLocalMbox_mem hlocal))
    exact ((hs.begins hbegin).learn _).finish hanswer nofun (tellPeer_tells hanswer)
  | locateUnsent hidle hbegin howner hlocal =>
    exact (hs.begins hbegin).finish (.inl rfl) nofun nofun
  | locateAsks hidle hbegin howner hlocal hreq =>
    refine ((hs.begins hbegin).post fun o ho => ?_).setCall _ _ _
    obtain rfl := List.mem_singleton.mp ho
    exact .of_request hreq
  | locateExpires => exact hmatched.elim
  | @locateTakes h c k l rest mboxId _ _ hcall hqueue hreturn =>
    have hmatch := hmatched k l rest hcall hqueue
    have hanswer : IsAnswer s.named k.name mboxId := by
      rcases locateReturn_some (hs.first hqueue) hreturn with hno | ⟨name, htopic, hanswer⟩
      · exact .inl hno
      · rwa [← hmatch name htopic]
    exact ((hs.rest hqueue).take hmatch).finish hanswer nofun (tellPeer_tells hanswer)
  | serve hidle hqueue hread hother => exact hs.rest hqueue
  | @serveLocate h l rest r sys sent hidle hqueue hread hstays hcall =>
    refine (hs.rest hqueue).post fun o ho => ?_
    obtain ⟨o', ho', rfl⟩ := List.mem_map.mp ho
    obtain ⟨-, mboxId, pid, isExternal, ns, hm, hanswer⟩ :=
      handleLocateMbox_replies hstays hcall o' ho'
    exact .of_reply hm (hanswer.mono (hs.named h))
  | search hidle hqueue hread hsearch hreq =>
    refine ((hs.rest hqueue).post fun o ho => ?_).setServing _ _
    obtain rfl := List.mem_singleton.mp ho
    exact .of_search hreq
  | searchExpires => exact hs.setServing _ _
  | @searchTakes h r l rest sys sent hserving hqueue hcall =>
    have hmatch := hmatched r l rest hserving hqueue
    refine (((hs.rest hqueue).take hmatch).post fun o ho => ?_).setServing _ _
    obtain ⟨o', ho', rfl⟩ := List.mem_map.mp ho
    obtain ⟨-, mboxId, pid, isExternal, ns, hm, ns', hread⟩ :=
      answerFromGateway_replies hcall o' ho'
    obtain ⟨name, htopic, hanswer⟩ := (hs.first hqueue).topic_searchReply hread
    rw [hmatch name htopic] at hanswer
    exact .of_reply hm hanswer
  | gatewayAsks hpeers hqueue hmsgno hcoord hname hpacket =>
    have hlt := ((hs.first hqueue).topic_search hmsgno hname).2
    refine ((hs.rest hqueue).setGwItccoord _ _).setPackets (fun k hk => ?_) hs.tells
    rcases List.mem_append.mp hk with hk | hk
    · exact hs.asks k hk
    · obtain ⟨peer, -, rfl⟩ := List.mem_map.mp hk
      exact ⟨_, _, _, hname, hlt, hpacket⟩
  | gatewayAlone hqueue hmsgno hcoord hname hreply =>
    refine ((hs.rest hqueue).setGwItccoord _ _).post fun o ho => ?_
    obtain rfl := List.mem_singleton.mp ho
    exact .of_searchReply hreply (.inl rfl)
  | @gatewayTells h xs ys k sock sock' rest peer m htells hdst hsock hclient =>
    obtain ⟨e, pid, mboxId, hbytes, hanswer⟩ := hs.tells k (mem_of_split htells)
    rw [hbytes] at hsock
    obtain ⟨-, hevent⟩ := handleReceiveTcpPacketAtClient_reply hsock hclient
    refine (hs.setPackets hs.asks fun p hp => hs.tells p (subset_of_split htells hp)).post
      fun o ho => ?_
    obtain rfl := List.mem_singleton.mp ho
    cases peer with
    | none => cases hevent
    | some ns =>
      obtain ⟨msg, heq, hmsg⟩ := hevent
      cases heq
      exact .of_searchReply hmsg hanswer
  | disconnect hasks htells =>
    exact hs.setPackets (fun k hk => hs.asks k (hasks.subset hk))
      fun k hk => hs.tells k (htells.subset hk)

/-- A step that does not do what is expected breaks what is expected of the calls. -/
theorem Sound.matched_of_correct (hstep : LocateStep N s a s') (hcorrect : s'.Correct) :
    s.Matched N a := by
  cases hstep with
  | @locateExpires h c k mboxId pid sent hcall hreturn =>
    have hno : mboxId = ITC_NO_MBOX_ID := hcorrect.timeouts ⟨k.name, true, mboxId⟩
      (List.mem_append_right _ (List.mem_singleton.mpr rfl)) rfl
    cases hreturn
    cases hno
  | @locateTakes h c k l rest mboxId pid sent hcall hqueue hreturn =>
    intro k' l' rest' hcall' hqueue' name htopic
    rw [hcall] at hcall'
    rw [hqueue] at hqueue'
    cases hcall'
    cases hqueue'
    refine hcorrect.matched (k.name, name) (List.mem_append_right _ ?_)
    rw [htopic]
    exact List.mem_singleton.mpr rfl
  | @searchTakes h r l rest sys sent hserving hqueue hcall =>
    intro r' l' rest' hserving' hqueue' name htopic
    rw [hserving] at hserving'
    rw [hqueue] at hqueue'
    cases hserving'
    cases hqueue'
    refine hcorrect.matched (r.name, name) (List.mem_append_right _ ?_)
    rw [htopic]
    exact List.mem_singleton.mpr rfl
  | registry | send | deliver | lose | receive | locateHere | locateUnsent | locateAsks | serve
  | serveLocate | search | searchExpires | gatewayAsks | gatewayAlone | gatewayTells
  | disconnect => trivial

end LocateNet

/-! ## What is left over -/

namespace LocateNet

variable {h h' : Nat} {c c' : MboxId} {name : CString} {k : LocateCall} {s₁ : LocateNet}

theorem Outstanding.mono (ho : s'.Outstanding h c name)
    (hholds : ∀ c l, s'.Holds h c l → s.Holds h c l) (hserving : s'.serving h = s.serving h) :
    s.Outstanding h c name := by
  cases ho with
  | request hl htopic hr => exact .request (hholds _ _ hl) htopic hr
  | serving hr hfrom => exact .serving (hserving ▸ hr) hfrom
  | reply hl htopic => exact .reply (hholds _ _ hl) htopic

theorem Outstanding.of_post {letters : List (MboxId × Letter)}
    (ho : (s.post h letters).Outstanding h' c name) :
    s.Outstanding h' c name ∨ h' = h ∧ ∃ o ∈ letters,
      (∃ r, o.2.topic = .request r ∧ r.fromMbox = c ∧ r.name = name) ∨
        o.1 = c ∧ o.2.topic = .reply name := by
  cases ho with
  | @request dest l r hl htopic hr =>
    rcases holds_post.mp hl with hl | ⟨heq, hl⟩
    · exact .inl (.request hl htopic hr)
    · exact .inr ⟨heq, (dest, l), hl, .inl ⟨r, htopic, hr, rfl⟩⟩
  | serving hr hfrom => exact .inl (.serving hr hfrom)
  | @reply l _ hl htopic =>
    rcases holds_post.mp hl with hl | ⟨heq, hl⟩
    · exact .inl (.reply hl htopic)
    · exact .inr ⟨heq, (c, l), hl, .inr ⟨rfl, htopic⟩⟩

/-- Neither requests nor replies are sent. -/
theorem Outstanding.of_post_other {letters : List (MboxId × Letter)}
    (ho : (s.post h letters).Outstanding h' c name)
    (hother : ∀ o ∈ letters, (∀ r, o.2.topic ≠ .request r) ∧ ∀ name, o.2.topic ≠ .reply name) :
    s.Outstanding h' c name := by
  rcases ho.of_post with hold | ⟨-, o, ho, ⟨r, htopic, -⟩ | ⟨-, htopic⟩⟩
  · exact hold
  · exact absurd htopic ((hother o ho).1 r)
  · exact absurd htopic ((hother o ho).2 name)

theorem Outstanding.of_setServing {r : Option LocateRequest}
    (ho : (s.setServing h r).Outstanding h' c name) :
    s.Outstanding h' c name ∨ h' = h ∧ ∃ r', r = some r' ∧ r'.fromMbox = c ∧ r'.name = name := by
  cases ho with
  | request hl htopic hr => exact .inl (.request hl htopic hr)
  | serving hr hfrom =>
    simp only [setServing_serving] at hr
    split at hr
    · rename_i heq
      exact .inr ⟨heq, _, hr, hfrom, rfl⟩
    · exact .inl (.serving hr hfrom)
  | reply hl htopic => exact .inl (.reply hl htopic)

/-- **What a step leaves over of the requests**: what was left over before, unless it is the step
that sends the request. -/
theorem outstanding_step (hs : s.Sound N) (hstep : LocateStep N s a s')
    (ho : s'.Outstanding h c name) :
    s.Outstanding h c name ∨ ∃ k, a = .locateAsks h c k ∧ name = k.name := by
  cases hstep with
  | registry => exact .inl (ho.mono (fun _ _ hl => hl) rfl)
  | send hm => exact .inl (ho.of_post_other (List.forall_mem_singleton.mpr ⟨nofun, nofun⟩))
  | deliver hflight => exact .inl (ho.mono (fun _ _ => holds_deliver hflight) rfl)
  | lose hflight => exact .inl (ho.mono (fun _ _ => holds_lose hflight) rfl)
  | receive hidle hc hqueue => exact .inl (ho.mono (fun _ _ => holds_rest hqueue) rfl)
  | locateHere hidle hbegin howner hlocal =>
    cases hbegin <;> exact .inl (ho.mono (fun _ _ hl => hl) rfl)
  | locateUnsent hidle hbegin howner hlocal =>
    cases hbegin <;> exact .inl (ho.mono (fun _ _ hl => hl) rfl)
  | @locateAsks h₀ c₀ k s₁ p timeout req hidle hbegin howner hlocal hreq =>
    have hpost : (s₁.post h₀ [(N.itccoordMboxId h₀,
        ⟨req, .request ⟨c₀, timeout, k.findOnlyInternal, k.name⟩⟩)]).Outstanding h c name :=
      ho.mono (fun _ _ hl => hl) rfl
    rcases hpost.of_post with hold | ⟨rfl, o, ho, hnew⟩
    · cases hbegin <;> exact .inl (hold.mono (fun _ _ hl => hl) rfl)
    · obtain rfl := List.mem_singleton.mp ho
      rcases hnew with ⟨r, htopic, rfl, rfl⟩ | ⟨-, htopic⟩
      · cases htopic
        exact .inr ⟨k, rfl, rfl⟩
      · cases htopic
  | locateExpires => exact .inl (ho.mono (fun _ _ hl => hl) rfl)
  | locateTakes hcall hqueue hreturn => exact .inl (ho.mono (fun _ _ => holds_rest hqueue) rfl)
  | serve hidle hqueue hread hother => exact .inl (ho.mono (fun _ _ => holds_rest hqueue) rfl)
  | serveLocate hidle hqueue hread hstays hcall =>
    rcases ho.of_post with hold | ⟨rfl, o, ho, hnew⟩
    · exact .inl (hold.mono (fun _ _ => holds_rest hqueue) rfl)
    · obtain ⟨o', ho', rfl⟩ := List.mem_map.mp ho
      obtain ⟨hdest, -⟩ := handleLocateMbox_replies hstays hcall o' ho'
      rcases hnew with ⟨r', htopic, -⟩ | ⟨hc, htopic⟩
      · cases htopic
      · cases htopic
        exact .inl (.request (holds_first hqueue) ((hs.first hqueue).topic_request hread)
          (hdest.symm.trans hc))
  | search hidle hqueue hread hsearch hreq =>
    have hrequest := (hs.first hqueue).topic_request hread
    rcases ho.of_setServing with ho | ⟨rfl, r, hr, hfrom, rfl⟩
    · have hold := ho.of_post_other (List.forall_mem_singleton.mpr ⟨nofun, nofun⟩)
      exact .inl (hold.mono (fun _ _ => holds_rest hqueue) rfl)
    · cases hr
      exact .inl (.request (holds_first hqueue) hrequest hfrom)
  | searchExpires hserving =>
    rcases ho.of_setServing with ho | ⟨-, r, hr, -⟩
    · exact .inl ho
    · cases hr
  | searchTakes hserving hqueue hcall =>
    rcases ho.of_setServing with ho | ⟨-, r, hr, -⟩
    · rcases ho.of_post with hold | ⟨rfl, o, ho, hnew⟩
      · exact .inl (hold.mono (fun _ _ => holds_rest hqueue) rfl)
      · obtain ⟨o', ho', rfl⟩ := List.mem_map.mp ho
        obtain ⟨hdest, -⟩ := answerFromGateway_replies hcall o' ho'
        rcases hnew with ⟨r', htopic, -⟩ | ⟨hc, htopic⟩
        · cases htopic
        · cases htopic
          exact .inl (.serving hserving (hdest.symm.trans hc))
    · cases hr
  | gatewayAsks hpeers hqueue hmsgno hcoord hname hpacket =>
    exact .inl (ho.mono (fun _ _ => holds_rest hqueue) rfl)
  | gatewayAlone hqueue hmsgno hcoord hname hreply =>
    have hold := ho.of_post_other (List.forall_mem_singleton.mpr ⟨nofun, nofun⟩)
    exact .inl (hold.mono (fun _ _ => holds_rest hqueue) rfl)
  | gatewayTells htells hdst hsock hclient =>
    have hold := ho.of_post_other (List.forall_mem_singleton.mpr ⟨nofun, nofun⟩)
    exact .inl (hold.mono (fun _ _ hl => hl) rfl)
  | disconnect => exact .inl (ho.mono (fun _ _ hl => hl) rfl)

end LocateNet

/-! ## What is left over of a search -/

theorem mem_tellPeer {e : Endian} {pid : UInt32} {sent : Bool} {h : Nat} {k : LocateCall}
    {mboxId : MboxId} {p : Packet} (hp : p ∈ tellPeer e pid sent h k mboxId) :
    k.peer = some p.dst ∧ p.name = k.name := by
  unfold tellPeer at hp
  split at hp
  · cases hp
  · rename_i peer hpeer
    split at hp
    · cases hp
    · obtain rfl := List.mem_singleton.mp hp
      exact ⟨hpeer, rfl⟩

namespace LocateNet

variable {h h' : Nat} {c c' : MboxId} {name : CString} {k : LocateCall} {s₁ : LocateNet}

theorem Searched.mono (ho : s'.Searched h name) (hholds : ∀ c l, s'.Holds h c l → s.Holds h c l)
    (hasks : s'.asks ⊆ s.asks) (htells : s'.tells ⊆ s.tells)
    (hcalls : s'.calls = s.calls) : s.Searched h name := by
  cases ho with
  | search hl htopic => exact .search (hholds _ _ hl) htopic
  | ask hk hsrc => exact .ask (hasks hk) hsrc
  | call hcall hpeer => exact .call (hcalls ▸ hcall) hpeer
  | tell hk hdst => exact .tell (htells hk) hdst
  | searchReply hl htopic => exact .searchReply (hholds _ _ hl) htopic

/-- Only letters move, or go. -/
theorem Searched.of_holds (ho : s'.Searched h name) (hholds : ∀ c l, s'.Holds h c l → s.Holds h c l)
    (hsame : s'.asks = s.asks ∧ s'.tells = s.tells ∧ s'.calls = s.calls) : s.Searched h name :=
  ho.mono hholds (hsame.1 ▸ List.Subset.refl _) (hsame.2.1 ▸ List.Subset.refl _) hsame.2.2

theorem Searched.of_post {letters : List (MboxId × Letter)}
    (ho : (s.post h letters).Searched h' name) :
    s.Searched h' name ∨ h' = h ∧ ∃ o ∈ letters,
      o.2.topic = .search name ∨ o.2.topic = .searchReply name := by
  cases ho with
  | @search dest l _ hl htopic =>
    rcases holds_post.mp hl with hl | ⟨heq, hl⟩
    · exact .inl (.search hl htopic)
    · exact .inr ⟨heq, (dest, l), hl, .inl htopic⟩
  | ask hk hsrc => exact .inl (.ask hk hsrc)
  | call hcall hpeer => exact .inl (.call hcall hpeer)
  | tell hk hdst => exact .inl (.tell hk hdst)
  | @searchReply dest l _ hl htopic =>
    rcases holds_post.mp hl with hl | ⟨heq, hl⟩
    · exact .inl (.searchReply hl htopic)
    · exact .inr ⟨heq, (dest, l), hl, .inr htopic⟩

/-- Neither searches nor replies to them are sent. -/
theorem Searched.of_post_other {letters : List (MboxId × Letter)}
    (ho : (s.post h letters).Searched h' name)
    (hother : ∀ o ∈ letters, (∀ name, o.2.topic ≠ .search name) ∧
      ∀ name, o.2.topic ≠ .searchReply name) : s.Searched h' name := by
  rcases ho.of_post with hold | ⟨-, o, ho, htopic | htopic⟩
  · exact hold
  · exact absurd htopic ((hother o ho).1 name)
  · exact absurd htopic ((hother o ho).2 name)

/-- Packets come and go. -/
theorem Searched.of_setPackets {asks tells : List Packet}
    (ho : (s.setPackets asks tells).Searched h name) :
    s.Searched h name ∨ (∃ p ∈ asks, p.src = h ∧ p.name = name) ∨
      ∃ p ∈ tells, p.dst = h ∧ p.name = name := by
  cases ho with
  | search hl htopic => exact .inl (.search hl htopic)
  | ask hk hsrc => exact .inr (.inl ⟨_, hk, hsrc, rfl⟩)
  | call hcall hpeer => exact .inl (.call hcall hpeer)
  | tell hk hdst => exact .inr (.inr ⟨_, hk, hdst, rfl⟩)
  | searchReply hl htopic => exact .inl (.searchReply hl htopic)

/-- A call returns to the user, or the server thread tells its peer. -/
theorem Searched.of_finish {expired : Bool} {mboxId : MboxId} {told : List Packet}
    (ho : (s.finish h c k expired mboxId told).Searched h' name) :
    s.Searched h' name ∨ ∃ p ∈ told, p.dst = h' ∧ p.name = name := by
  cases ho with
  | search hl htopic => exact .inl (.search hl htopic)
  | ask hk hsrc => exact .inl (.ask hk hsrc)
  | call hcall hpeer =>
    simp only [finish_calls] at hcall
    split at hcall
    · cases hcall
    · exact .inl (.call hcall hpeer)
  | tell hk hdst =>
    rcases List.mem_append.mp hk with hk | hk
    · exact .inl (.tell hk hdst)
    · exact .inr ⟨_, hk, hdst, rfl⟩
  | searchReply hl htopic => exact .inl (.searchReply hl htopic)

theorem Searched.of_tellPeer {expired : Bool} {mboxId : MboxId} {e : Endian} {pid : UInt32}
    {sent : Bool}
    (ho : (s.finish h c k expired mboxId (tellPeer e pid sent h k mboxId)).Searched h' name) :
    s.Searched h' name ∨ k.peer = some h' ∧ name = k.name := by
  rcases ho.of_finish with hold | ⟨p, hp, rfl, rfl⟩
  · exact .inl hold
  · exact .inr (mem_tellPeer hp)

theorem Searched.of_setCall {k : Option LocateCall} (ho : (s.setCall h c k).Searched h' name) :
    s.Searched h' name ∨ ∃ k', k = some k' ∧ k'.peer = some h' ∧ k'.name = name := by
  cases ho with
  | search hl htopic => exact .inl (.search hl htopic)
  | ask hk hsrc => exact .inl (.ask hk hsrc)
  | call hcall hpeer =>
    simp only [setCall_calls] at hcall
    split at hcall
    · exact .inr ⟨_, hcall, hpeer, rfl⟩
    · exact .inl (.call hcall hpeer)
  | tell hk hdst => exact .inl (.tell hk hdst)
  | searchReply hl htopic => exact .inl (.searchReply hl htopic)

/-- A call of the server thread is left over of the search of its peer. -/
theorem searched_of_peer (hs : s.Sound N) (hbegin : Begins N s h c k s₁) (hpeer : k.peer = some h') :
    s.Searched h' k.name := by
  cases hbegin with
  | user => cases hpeer
  | @server xs ys p sock sock' rest name hc hasks hdst hsock hserver =>
    obtain ⟨e, pid, req, hname, hlt, hpacket⟩ := hs.asks p (mem_of_split hasks)
    obtain ⟨heq, -⟩ := handleReceiveTcpPacketAtServer_locate hname hlt hpacket hsock hserver
    cases heq
    cases hpeer
    exact .ask (mem_of_split hasks) rfl

/-- What it leaves over was left over before. -/
theorem Searched.of_begins (ho : s₁.Searched h' name) (hbegin : Begins N s h c k s₁) :
    s.Searched h' name := by
  cases hbegin with
  | user => exact ho
  | server hc hasks hdst hsock hserver =>
    exact ho.mono (fun _ _ hl => hl) (subset_of_split hasks) (List.Subset.refl _) rfl

/-- **What a step leaves over of the searches**: what was left over before, unless it is the step
that asks the gateway. -/
theorem searched_step (hs : s.Sound N) (hstep : LocateStep N s a s') (ho : s'.Searched h name) :
    s.Searched h name ∨ ∃ r, a = .search h r ∧ name = r.name := by
  cases hstep with
  | registry => exact .inl (ho.of_holds (fun _ _ hl => hl) ⟨rfl, rfl, rfl⟩)
  | send hm => exact .inl (ho.of_post_other (List.forall_mem_singleton.mpr ⟨nofun, nofun⟩))
  | deliver hflight =>
    exact .inl (ho.of_holds (fun _ _ => holds_deliver hflight) ⟨rfl, rfl, rfl⟩)
  | lose hflight =>
    exact .inl (ho.of_holds (fun _ _ => holds_lose hflight) ⟨rfl, rfl, rfl⟩)
  | receive hidle hc hqueue =>
    exact .inl (ho.of_holds (fun _ _ => holds_rest hqueue) ⟨rfl, rfl, rfl⟩)
  | @locateHere _ _ _ s₁ _ _ _ _ hidle hbegin howner hlocal =>
    rcases ho.of_tellPeer with hold | ⟨hpeer, rfl⟩
    · have hold₁ : s₁.Searched h name := hold.of_holds (fun _ _ hl => hl) ⟨rfl, rfl, rfl⟩
      exact .inl (hold₁.of_begins hbegin)
    · exact .inl (searched_of_peer hs hbegin hpeer)
  | locateUnsent hidle hbegin howner hlocal =>
    rcases ho.of_finish with hold | ⟨p, hp, -⟩
    · exact .inl (hold.of_begins hbegin)
    · cases hp
  | locateAsks hidle hbegin howner hlocal hreq =>
    rcases ho.of_setCall with ho | ⟨k', hk, hpeer, rfl⟩
    · have hold := ho.of_post_other (List.forall_mem_singleton.mpr ⟨nofun, nofun⟩)
      exact .inl (hold.of_begins hbegin)
    · cases hk
      exact .inl (searched_of_peer hs hbegin hpeer)
  | locateExpires hcall hreturn =>
    rcases ho.of_tellPeer with hold | ⟨hpeer, rfl⟩
    · exact .inl hold
    · exact .inl (.call hcall hpeer)
  | locateTakes hcall hqueue hreturn =>
    rcases ho.of_tellPeer with hold | ⟨hpeer, rfl⟩
    · exact .inl (hold.of_holds (fun _ _ => holds_rest hqueue) ⟨rfl, rfl, rfl⟩)
    · exact .inl (.call hcall hpeer)
  | serve hidle hqueue hread hother =>
    exact .inl (ho.of_holds (fun _ _ => holds_rest hqueue) ⟨rfl, rfl, rfl⟩)
  | serveLocate hidle hqueue hread hstays hcall =>
    have hold := ho.of_post_other (List.forall_mem_map.mpr fun _ _ => ⟨nofun, nofun⟩)
    exact .inl (hold.of_holds (fun _ _ => holds_rest hqueue) ⟨rfl, rfl, rfl⟩)
  | @search h₀ l rest r sys itcgw req hidle hqueue hread hsearch hreq =>
    have hpost : ((s.setQueue h₀ (N.itccoordMboxId h₀) rest).post h₀
        [(itcgw.mboxId, ⟨req, .search r.name⟩)]).Searched h name :=
      ho.of_holds (fun _ _ hl => hl) ⟨rfl, rfl, rfl⟩
    rcases hpost.of_post with hold | ⟨rfl, o, ho, htopic⟩
    · exact .inl (hold.of_holds (fun _ _ => holds_rest hqueue) ⟨rfl, rfl, rfl⟩)
    · obtain rfl := List.mem_singleton.mp ho
      rcases htopic with htopic | htopic
      · cases htopic
        exact .inr ⟨r, rfl, rfl⟩
      · cases htopic
  | searchExpires hserving =>
    exact .inl (ho.of_holds (fun _ _ hl => hl) ⟨rfl, rfl, rfl⟩)
  | @searchTakes h₀ r l rest sys sent hserving hqueue hcall =>
    have hpost : (((s.setQueue h₀ (N.itccoordMboxId h₀) rest).take r.name
        l.topic.searchReply?).post h₀
          (sent.map fun o => (o.1, ⟨o.2, .reply r.name⟩))).Searched h name :=
      ho.of_holds (fun _ _ hl => hl) ⟨rfl, rfl, rfl⟩
    have hold := hpost.of_post_other (List.forall_mem_map.mpr fun _ _ => ⟨nofun, nofun⟩)
    exact .inl (hold.of_holds (fun _ _ => holds_rest hqueue) ⟨rfl, rfl, rfl⟩)
  | gatewayAsks hpeers hqueue hmsgno hcoord hname hpacket =>
    have hsearch := ((hs.first hqueue).topic_search hmsgno hname).1
    rcases ho.of_setPackets with hold | ⟨p, hp, rfl, rfl⟩ | ⟨p, hp, rfl, rfl⟩
    · exact .inl (hold.of_holds (fun _ _ => holds_rest hqueue) ⟨rfl, rfl, rfl⟩)
    · rcases List.mem_append.mp hp with hp | hp
      · exact .inl (.ask hp rfl)
      · obtain ⟨peer, -, rfl⟩ := List.mem_map.mp hp
        exact .inl (.search (holds_first hqueue) hsearch)
    · exact .inl (.tell hp rfl)
  | gatewayAlone hqueue hmsgno hcoord hname hreply =>
    have hsearch := ((hs.first hqueue).topic_search hmsgno hname).1
    rcases ho.of_post with hold | ⟨rfl, o, ho, htopic⟩
    · exact .inl (hold.of_holds (fun _ _ => holds_rest hqueue) ⟨rfl, rfl, rfl⟩)
    · obtain rfl := List.mem_singleton.mp ho
      rcases htopic with htopic | htopic
      · cases htopic
      · cases htopic
        exact .inl (.search (holds_first hqueue) hsearch)
  | gatewayTells htells hdst hsock hclient =>
    rcases ho.of_post with hold | ⟨rfl, o, ho, htopic⟩
    · exact .inl (hold.mono (fun _ _ hl => hl) (List.Subset.refl _) (subset_of_split htells) rfl)
    · obtain rfl := List.mem_singleton.mp ho
      rcases htopic with htopic | htopic
      · cases htopic
      · cases htopic
        exact .inl (.tell (mem_of_split htells) hdst)
  | disconnect hasks htells =>
    exact .inl (ho.mono (fun _ _ hl => hl) hasks.subset htells.subset rfl)

end LocateNet

/-! ## Runs -/

namespace LocateNet

variable {h : Nat} {c : MboxId} {k : LocateCall} {r : LocateRequest}

theorem calls_step (hstep : LocateStep N s a s') (hcall : s'.calls h c = some k) :
    s.calls h c = some k ∨ a = .locateAsks h c k := by
  -- a call that returns leaves nothing behind
  have hfinish : ∀ {h₀ : Nat} {c₀ : MboxId},
      (if h = h₀ ∧ c = c₀ then none else s.calls h c) = some k → s.calls h c = some k := by
    intro h₀ c₀ hcall
    split at hcall
    · cases hcall
    · exact hcall
  cases hstep with
  | locateHere hidle hbegin howner hlocal => cases hbegin <;> exact .inl (hfinish hcall)
  | locateUnsent hidle hbegin howner hlocal => cases hbegin <;> exact .inl (hfinish hcall)
  | locateAsks hidle hbegin howner hlocal hreq =>
    simp only [setCall_calls] at hcall
    split at hcall
    · rename_i heq
      obtain ⟨rfl, rfl⟩ := heq
      cases hcall
      exact .inr rfl
    · cases hbegin <;> exact .inl hcall
  | locateExpires => exact .inl (hfinish hcall)
  | locateTakes => exact .inl (hfinish hcall)
  | registry | send | deliver | lose | receive | serve | serveLocate | search | searchExpires
  | searchTakes | gatewayAsks | gatewayAlone | gatewayTells | disconnect => exact .inl hcall

theorem serving_step (hstep : LocateStep N s a s') (hserving : s'.serving h = some r) :
    s.serving h = some r ∨ a = .search h r := by
  cases hstep with
  | locateHere hidle hbegin howner hlocal => cases hbegin <;> exact .inl hserving
  | locateUnsent hidle hbegin howner hlocal => cases hbegin <;> exact .inl hserving
  | locateAsks hidle hbegin howner hlocal hreq => cases hbegin <;> exact .inl hserving
  | search hidle hqueue hread hsearch hreq =>
    simp only [setServing_serving] at hserving
    split at hserving
    · rename_i heq
      cases hserving
      rw [heq]
      exact .inr rfl
    · exact .inl hserving
  | searchExpires =>
    simp only [setServing_serving] at hserving
    split at hserving
    · cases hserving
    · exact .inl hserving
  | searchTakes =>
    simp only [setServing_serving] at hserving
    split at hserving
    · cases hserving
    · exact .inl hserving
  | registry | send | deliver | lose | receive | locateExpires | locateTakes | serve | serveLocate
  | gatewayAsks | gatewayAlone | gatewayTells | disconnect => exact .inl hserving

/-- While a call or a search waits, whatever is on its way is about its name. -/
structure Alone (s : LocateNet) : Prop where
  calls : ∀ h c k, s.calls h c = some k → ∀ name, s.Outstanding h c name → name = k.name
  searches : ∀ h r, s.serving h = some r → ∀ name, s.Searched h name → name = r.name

theorem Alone.init : (init N).Alone := ⟨nofun, nofun⟩

theorem Alone.step (hs : s.Sound N) (halone : s.Alone) (hguard : s.Uncrossed a)
    (hstep : LocateStep N s a s') : s'.Alone where
  calls h c k hcall name ho := by
    rcases outstanding_step hs hstep ho with hold | ⟨k', rfl, rfl⟩
    · rcases calls_step hstep hcall with hcall | rfl
      · exact halone.calls h c k hcall name hold
      · exact hguard name hold
    · rcases calls_step hstep hcall with hbefore | heq
      · cases hstep with
        | locateAsks hidle =>
          rw [hidle] at hbefore
          cases hbefore
      · cases heq
        rfl
  searches h r hserving name ho := by
    rcases searched_step hs hstep ho with hold | ⟨r', rfl, rfl⟩
    · rcases serving_step hstep hserving with hserving | rfl
      · exact halone.searches h r hserving name hold
      · exact hguard name hold
    · rcases serving_step hstep hserving with hbefore | heq
      · cases hstep with
        | search hidle =>
          rw [hidle] at hbefore
          cases hbefore
      · cases heq
        rfl

/-- What a call or a search takes then is for its name. -/
theorem Alone.matched (halone : s.Alone) (hguard : s.Uncrossed a) : s.Matched N a := by
  cases a with
  | locateExpires => exact hguard.elim
  | locateTakes h c =>
    intro k l rest hcall hqueue name htopic
    exact halone.calls h c k hcall name (.reply (holds_first hqueue) (Topic.eq_reply htopic))
  | searchTakes h =>
    intro r l rest hserving hqueue name htopic
    exact halone.searches h r hserving name
      (.searchReply (holds_first hqueue) (Topic.eq_searchReply htopic))
  | registry | send | deliver | lose | receive | locateHere | locateUnsent | locateAsks | serve
  | serveLocate | search | searchExpires | gatewayAsks | gatewayTells | disconnect => trivial

end LocateNet

open LocateNet in
/-- **Locate answers the question that was asked** in the runs whose steps do what is expected, and
in no other; they do when no call gives up and requests for different names do not cross. -/
theorem locate_answers_iff (N : LocateHosts σ) (as : List LocateAction) (s : LocateNet) :
    (Run (Into (LocateStep N) Correct) (.init N) as s ↔
      Run (Guarded (LocateStep N) (Matched N)) (.init N) as s) ∧
    (Run (Guarded (LocateStep N) Uncrossed) (.init N) as s →
      Run (Into (LocateStep N) Correct) (.init N) as s) := by
  have hiff : Run (Into (LocateStep N) Correct) (.init N) as s ↔
      Run (Guarded (LocateStep N) (Matched N)) (.init N) as s :=
    Run.into_iff_guarded (fun _ _ _ hs hmatched hstep => Sound.step hs hmatched hstep)
      (fun _ hs => hs.correct) (fun _ _ _ _ hstep => Sound.matched_of_correct hstep) Sound.init
  refine ⟨hiff, fun hrun => hiff.mpr ?_⟩
  refine hrun.guarded_imp (I := fun s => s.Sound N ∧ s.Alone) ?_ ?_ ⟨Sound.init, Alone.init⟩
  · rintro s a s' ⟨hs, halone⟩ hguard hstep
    exact ⟨hs.step (halone.matched hguard) hstep, halone.step hs hguard hstep⟩
  · rintro s a s' ⟨-, halone⟩ hguard -
    exact halone.matched hguard

/-- Hosts on which every call succeeds. -/
def LocateHosts.willing : LocateHosts Unit where
  env _ := ItcEnv.willing
  pid _ := 100
  itccoordMboxId _ := 0x00100001
  tcpClientMboxId _ := 0x00500001
  tcpServerMboxId _ := 0x00500002

/-- The thread of process 3 that owns its first mailbox. -/
theorem owns_willing : ∃ p : ItcInstance Unit, Owns ItcEnv.willing p 0x00300000 ∧
    ∀ name : CString, name.bytes ≠ [] → locateLocalMbox p name = none := by
  let p₀ : ItcInstance Unit := .init 3 3 0 ()
  let c₁ := returned (0, p₀) (itcCreateMailbox ItcEnv.willing 1 p₀ 0 .empty 0)
  have hempty : CString.empty.strlen < ITC_MAX_NAME_LENGTH := by decide
  have hcreate : itcCreateMailbox ItcEnv.willing 1 p₀ 0 .empty 0 = .ok (some (c₁.1, c₁.2)) :=
    returned_eq (by decide +kernel)
  have hreached : Reached ItcEnv.willing c₁.2 :=
    (Reached.init 3 3 0 () (by decide) (by decide)).call (.createMailbox hcreate) hempty
  have hthread : c₁.2.myThreadlocalMbox 0 = some 0 := by decide +kernel
  have hid : (c₁.2.mboxes 0).mboxId = 0x00300000 := by decide +kernel
  have hnodes : c₁.2.localLocatingMboxTree.toList.all fun i =>
      decide ((c₁.2.mboxes i).name = .empty) := by decide +kernel
  refine ⟨c₁.2, ⟨hreached, 0, 0, hthread, hid⟩, fun name hne => ?_⟩
  cases hlocal : locateLocalMbox c₁.2 name with
  | none => rfl
  | some i =>
    obtain ⟨hmem, heq⟩ := SearchTree.Tree.find_some hlocal
    have hname : name = (c₁.2.mboxes i).name := Std.LawfulEqCmp.eq_of_compare heq
    have hnode := of_decide_eq_true (List.all_eq_true.mp hnodes i hmem)
    rw [hname, hnode] at hne
    exact absurd rfl hne

/-- Nobody has registered `"a"`, and the call is told so. -/
theorem locate_answers_iff_unknown :
    ∃ (as : List LocateAction) (s : LocateNet),
      s.returns = [⟨⟨[97], by decide⟩, false, ITC_NO_MBOX_ID⟩] ∧
        Run (Into (LocateStep .willing) LocateNet.Correct) (.init .willing) as s := by
  obtain ⟨p, howner, hlocal⟩ := owns_willing
  let name : CString := ⟨[97], by decide⟩
  obtain ⟨req, hreq, -⟩ := @syncMsg_ok .little .least ITC_LOCATE_MBOX_SYNC_REQUEST 0x00300000 1000
    true name (by decide)
  obtain ⟨reply, hreply, -⟩ := @syncMsg_ok .little .least ITC_LOCATE_MBOX_SYNC_REPLY ITC_NO_MBOX_ID
    (UInt32.ofInt (-1)) false .empty (by decide)
  have hread : Coordinator.readRequest .little req.msg =
      .ok (.locateMbox ⟨0x00300000, 1000, true, name⟩) :=
    (@Letter.Ok.of_request _ _ [] _ _ _ _ _ hreq).request _ rfl
  have hreturn : locateReturn .little true (some reply.msg) = .ok ITC_NO_MBOX_ID := by
    obtain ⟨hmsgno, hid, -⟩ := syncMsg_reads hreply
    simp only [locateReturn, readLocateReply, hmsgno, hid, bind, Except.bind]
    rfl
  have hfind : tfindMbox (CoordLife.init 100).inst name = .ok none := rfl
  have hcall : handleLocateMbox .little .least .silent (.init 100) 0x00100001 0x00300000 1000 true
      name = .ok [(0x00300000, reply.msg)] := by
    simp only [handleLocateMbox, hfind, bind, Except.bind, if_true, sendLocateReply,
      locateMboxSyncReply, hreply]
    rfl
  have hfresh : (LocateNet.init LocateHosts.willing).Uncrossed
      (.locateAsks 0 0x00300000 ⟨name, true, none⟩) := by
    rintro name' (⟨hq | hf, -, -⟩ | ⟨hserving, -⟩ | ⟨hq | hf, -⟩)
    · cases hq
    · cases hf
    · cases hserving
    · cases hq
    · cases hf
  obtain ⟨s, hrun, hreturns⟩ : ∃ s, Run (Guarded (LocateStep .willing) LocateNet.Uncrossed)
      (.init .willing) [.locateAsks 0 0x00300000 ⟨name, true, none⟩, .deliver 0 0x00100001,
        .serveLocate 0, .deliver 0 0x00300000, .locateTakes 0 0x00300000] s ∧
      s.returns = [⟨name, false, ITC_NO_MBOX_ID⟩] :=
    ⟨_, .cons ⟨hfresh, .locateAsks rfl (.user name true) howner (hlocal name (by decide)) hreq⟩ <|
      .cons ⟨trivial, @LocateStep.deliver _ _ _ _ _ _ [] [] rfl⟩ <|
      .cons ⟨trivial, .serveLocate rfl rfl hread
        (fun itcgw hsearch => Bool.noConfusion hsearch.external) hcall⟩ <|
      .cons ⟨trivial, @LocateStep.deliver _ _ _ _ _ _ [] [] rfl⟩ <|
      .cons ⟨trivial, @LocateStep.locateTakes _ _ _ _ _ _ _ _ _ 0 true rfl rfl hreturn⟩ (.nil _), rfl⟩
  exact ⟨_, s, hreturns, (locate_answers_iff .willing _ s).2 hrun⟩

/-- **A late reply is the answer to the next question.** Process 2 has a mailbox `"a"`. A call that
asks for `"a"` gives up and returns 0; the next one asks for `"b"` and is given the mailbox `"a"`. -/
theorem late_reply_answers_next_call :
    ∃ (as : List LocateAction) (s : LocateNet),
      Run (LocateStep .willing) (.init .willing) as s ∧
      s.named = [⟨0x00200000, ⟨[97], by decide⟩⟩] ∧
      s.returns = [⟨⟨[97], by decide⟩, true, 0⟩, ⟨⟨[98], by decide⟩, false, 0x00200000⟩] ∧
      ¬ IsAnswer s.named ⟨[98], by decide⟩ 0x00200000 ∧ ¬ s.Correct := by
  obtain ⟨p, howner, hlocal⟩ := owns_willing
  let a : CString := ⟨[97], by decide⟩
  let b : CString := ⟨[98], by decide⟩
  obtain ⟨reqA, hreqA, -⟩ := @syncMsg_ok .little .least ITC_LOCATE_MBOX_SYNC_REQUEST 0x00300000
    1000 true a (by decide)
  obtain ⟨reqB, hreqB, -⟩ := @syncMsg_ok .little .least ITC_LOCATE_MBOX_SYNC_REQUEST 0x00300000
    1000 true b (by decide)
  obtain ⟨reply, hreply, -⟩ := @syncMsg_ok .little .least ITC_LOCATE_MBOX_SYNC_REPLY 0x00200000
    (UInt32.ofInt 200) false .empty (by decide)
  have hread : Coordinator.readRequest .little reqA.msg =
      .ok (.locateMbox ⟨0x00300000, 1000, true, a⟩) :=
    (@Letter.Ok.of_request _ _ [] _ _ _ _ _ hreqA).request _ rfl
  have hreturn : locateReturn .little true (some reply.msg) = .ok 0x00200000 := by
    obtain ⟨hmsgno, hid, -⟩ := syncMsg_reads hreply
    simp only [locateReturn, readLocateReply, hmsgno, hid, bind, Except.bind]
    rfl
  -- process 2 connects and registers its mailbox
  obtain ⟨s₃, hrun₃, hnamed, hs₃, hfind, hstate, hpid⟩ : ∃ s₃,
      Run (LocateStep .willing) (.init .willing) [.registry 0 (.locate 200),
        .registry 0 (.serve (.connect 2)), .registry 0 (.serve (.addMbox 0x00200000 a))] s₃ ∧
      s₃.named = [⟨0x00200000, a⟩] ∧
      s₃ = { LocateNet.init LocateHosts.willing with registry := s₃.registry, named := s₃.named } ∧
      tfindMbox (s₃.registry 0).inst a = .ok (some ⟨0x00200000, a⟩) ∧
      ((s₃.registry 0).inst.processes 2).state = .connected ∧ (s₃.registry 0).pids 2 = 200 :=
    ⟨_, .cons (.registry (.locate 200 (show _ = 2 :: List.range' 3 252 from rfl)
        (.locateCoord rfl))) <|
      .cons (.registry (.serve (by rintro ⟨⟩) (.connect (List.mem_singleton_self 2) rfl))) <|
      .cons (.registry (.serve (by rintro ⟨⟩) (.addMbox rfl))) (.nil _), rfl, rfl, rfl, rfl, rfl⟩
  have hproc : findProcess 0x00200000 = .ok (some 2) := by decide
  have hcall : handleLocateMbox .little .least .silent (s₃.registry 0) 0x00100001 0x00300000 1000
      true a = .ok [(0x00300000, reply.msg)] := by
    simp only [handleLocateMbox, hfind, hproc, hstate, hpid, bind, Except.bind, ne_eq,
      not_true_eq_false, if_false, sendLocateReply, locateMboxSyncReply, hreply]
    rfl
  obtain ⟨s, hrun, hreturns, hnamed'⟩ : ∃ s, Run (LocateStep .willing) s₃
      [.locateAsks 0 0x00300000 ⟨a, true, none⟩, .locateExpires 0 0x00300000,
        .deliver 0 0x00100001, .serveLocate 0, .deliver 0 0x00300000,
        .locateAsks 0 0x00300000 ⟨b, true, none⟩, .locateTakes 0 0x00300000] s ∧
      s.returns = [⟨a, true, 0⟩, ⟨b, false, 0x00200000⟩] ∧ s.named = s₃.named := by
    rw [hs₃]
    exact ⟨_, .cons (.locateAsks rfl (.user a true) howner (hlocal a (by decide)) hreqA) <|
      .cons (@LocateStep.locateExpires _ _ _ _ _ _ _ 0 true rfl rfl) <|
      .cons (@LocateStep.deliver _ _ _ _ _ _ [] [] rfl) <|
      .cons (.serveLocate rfl rfl hread
        (fun itcgw hsearch => Bool.noConfusion hsearch.external) hcall) <|
      .cons (@LocateStep.deliver _ _ _ _ _ _ [] [] rfl) <|
      .cons (.locateAsks rfl (.user b true) howner (hlocal b (by decide)) hreqB) <|
      .cons (@LocateStep.locateTakes _ _ _ _ _ _ _ _ _ 0 true rfl rfl hreturn) (.nil _), rfl, rfl⟩
  have hnamed₁ := hnamed'.trans hnamed
  refine ⟨_, s, hrun₃.append hrun, hnamed₁, hreturns, ?_, fun hcorrect => ?_⟩
  · rw [hnamed₁]
    rintro (hno | hmem)
    · exact absurd hno (by decide)
    · have hname := congrArg ItcMboxInfo.mboxName (List.mem_singleton.mp hmem)
      exact absurd (congrArg CString.bytes hname) (by decide)
  have hmem : (⟨a, true, 0⟩ : Located) ∈ s.returns := by
    rw [hreturns]
    exact List.mem_cons_self
  have hno : (0 : MboxId) = ITC_NO_MBOX_ID := hcorrect.timeouts _ hmem rfl
  cases hno

end ItcFramework
