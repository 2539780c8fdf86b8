import ItcFramework.Lib.Heap
import ItcFramework.Lib.SearchTree
import ItcFramework.Itc.Message

/-!
# The registry of the coordinator

Embedding of the part of `itccoord.c` that keeps track of processes and mailboxes. Every
registered mailbox is one `itc_mbox_info` on the heap with a node in two trees, the global
`mbox_tree` and the `list_mboxes_tree` of its process, both ordered by name.

A walk through a tree reads the objects its nodes point to, so meeting one that was freed is a
fault, and so is a walk from the root of a tree that `tdestroy` has destroyed.
-/

set_option autoImplicit false

namespace ItcFramework

open ByteImage HeapModel SearchTree

/-! ## State -/

/-- `struct itc_mbox_info`. -/
structure ItcMboxInfo where
  mboxId : MboxId
  mboxName : CString
  deriving DecidableEq, Repr

/-- `process_state_e`. -/
inductive ProcessState where
  | unused
  | listening
  | connected
  | invalid
  deriving DecidableEq, Repr

/-- A `void *` root that `tsearch` works on. `tdestroy` frees the nodes and leaves the root
pointing to them. -/
inductive TreeRoot where
  | root (t : SearchTree.Tree Nat)
  | dangling
  deriving DecidableEq, Repr

/-- `struct itc_process`, as far as the registry reads it. -/
structure ItcProcess where
  state : ProcessState
  listMboxesTree : TreeRoot

structure ItccoordInst where
  heap : Heap ItcMboxInfo
  mboxTree : SearchTree.Tree Nat
  processes : Nat → ItcProcess
  freeList : List Nat
  usedList : List Nat

namespace ItccoordInst

/-- After the initialisation in `main`: slot 0 is illegal, slot 1 is the coordinator's own. -/
def init : ItccoordInst where
  heap := .empty
  mboxTree := .leaf
  processes := fun i => ⟨if i = 0 then .invalid else if i = 1 then .connected else .unused,
    .root .leaf⟩
  freeList := List.range' 2 (MAX_SUPPORTED_PROCESSES - 2)
  usedList := []

def setProc (s : ItccoordInst) (i : Nat) (proc : ItcProcess) : ItccoordInst :=
  { s with processes := fun j => if j = i then proc else s.processes j }

def setState (s : ItccoordInst) (i : Nat) (state : ProcessState) : ItccoordInst :=
  s.setProc i { s.processes i with state }

def setList (s : ItccoordInst) (i : Nat) (list : SearchTree.Tree Nat) : ItccoordInst :=
  s.setProc i { s.processes i with listMboxesTree := .root list }

def Connected (s : ItccoordInst) (i : Nat) : Prop := (s.processes i).state = .connected

end ItccoordInst

/-! ## Searching -/

def TreeRoot.get : TreeRoot → Except MemFault (SearchTree.Tree Nat)
  | .root t => .ok t
  | .dangling => .error .useAfterFree

/-- The name that a node's pointer leads to. -/
def mboxName (heap : Heap ItcMboxInfo) (mbox : Nat) : CString :=
  ((heap.cells mbox).map ItcMboxInfo.mboxName).getD .empty

def mboxNameCmpfunc (heap : Heap ItcMboxInfo) (name : CString) (mbox : Nat) : Ordering :=
  CString.strcmp name (mboxName heap mbox)

def mboxNameCmpfunc2 (heap : Heap ItcMboxInfo) (mbox1 mbox2 : Nat) : Ordering :=
  CString.strcmp (mboxName heap mbox1) (mboxName heap mbox2)

/-- A call that walks through `t` and gives `r`. -/
def walk {β : Type} (heap : Heap ItcMboxInfo) (c : Nat → Ordering)
    (t : SearchTree.Tree Nat) (r : β) : Except MemFault β :=
  if (t.visited c).all fun mbox => (heap.cells mbox).isSome then .ok r else .error .useAfterFree

/-- `find_process`: no process for an index above `MAX_SUPPORTED_PROCESSES`. The index
`MAX_SUPPORTED_PROCESSES` itself gives the address behind the array, which every caller
reads. -/
def findProcess (mboxId : MboxId) : Except MemFault (Option Nat) :=
  if procOf mboxId > MAX_SUPPORTED_PROCESSES then .ok none
  else if procOf mboxId < MAX_SUPPORTED_PROCESSES then .ok (some (procOf mboxId))
  else .error .outOfBounds

/-! ## Handlers -/

def handleAddMbox (impl : TreeImpl Nat) (s : ItccoordInst) (mboxId : MboxId) (name : CString) :
    Except MemFault ItccoordInst := do
  match ← findProcess mboxId with
  | none => return s
  | some proc =>
      if (s.processes proc).state ≠ .connected then return s
      else
        let (mbox, heap) := s.heap.alloc ⟨mboxId, name⟩
        let c := mboxNameCmpfunc2 heap mbox
        match ← walk heap c s.mboxTree (s.mboxTree.find c) with
        | some _ => return { s with heap }
        | none =>
            let mboxTree ← walk heap c s.mboxTree (impl.tsearch c mbox s.mboxTree)
            let list ← (s.processes proc).listMboxesTree.get
            let list ← walk heap c list (impl.tsearch c mbox list)
            return { s with heap, mboxTree }.setList proc list

def handleRemoveMbox (impl : TreeImpl Nat) (s : ItccoordInst) (mboxId : MboxId)
    (name : CString) : Except MemFault ItccoordInst := do
  match ← findProcess mboxId with
  | none => return s
  | some proc =>
      if (s.processes proc).state ≠ .connected then return s
      else
        let c := mboxNameCmpfunc s.heap name
        match ← walk s.heap c s.mboxTree (s.mboxTree.find c) with
        | none => return s
        | some mbox =>
            let mboxTree ← walk s.heap c s.mboxTree (impl.tdelete c s.mboxTree)
            let list ← (s.processes proc).listMboxesTree.get
            let list ← walk s.heap c list (impl.tdelete c list)
            let heap ← s.heap.free mbox
            return { s with heap, mboxTree }.setList proc list

def deleteCounterpartMailboxesInMailboxtree (impl : TreeImpl Nat) (heap : Heap ItcMboxInfo)
    (mboxTree : SearchTree.Tree Nat) (pnode : Nat) : Except MemFault (SearchTree.Tree Nat) := do
  let info ← heap.read pnode
  let c := mboxNameCmpfunc heap info.mboxName
  match ← walk heap c mboxTree (mboxTree.find c) with
  | none => return mboxTree
  | some _ => walk heap c mboxTree (impl.tdelete c mboxTree)

/-- A slot goes back to the free list; the root of its list is not reset. -/
def ItccoordInst.release (s : ItccoordInst) (proc : Nat) (list : SearchTree.Tree Nat)
    (heap : Heap ItcMboxInfo) (mboxTree : SearchTree.Tree Nat) : ItccoordInst :=
  { s with
    heap, mboxTree
    usedList := s.usedList.erase proc
    freeList := s.freeList ++ [proc] }.setProc proc
      ⟨.unused, if list = SearchTree.Tree.leaf then .root .leaf else .dangling⟩

/-- `disconnect_from_process`, with its socket closed without error. `twalk` calls back once a
node, from left to right; `tdestroy` frees what the nodes point to. -/
def disconnectFromProcess (impl : TreeImpl Nat) (s : ItccoordInst) (proc : Nat) :
    Except MemFault ItccoordInst := do
  let list ← (s.processes proc).listMboxesTree.get
  let mboxTree ← list.toList.foldlM (deleteCounterpartMailboxesInMailboxtree impl s.heap)
    s.mboxTree
  let heap ← list.toList.foldlM Heap.free s.heap
  return s.release proc list heap mboxTree

/-! ## Steps -/

inductive CoordAction where
  | addMbox (mboxId : MboxId) (name : CString)
  | rmvMbox (mboxId : MboxId) (name : CString)
  | locateCoord
  | connect (proc : Nat)
  | disconnect (proc : Nat)

/-- One step of the main loop: a notification, a process that locates the coordinator and takes
a slot, its connection, its end. A step that faults is none. -/
inductive CoordStep (impl : TreeImpl Nat) : ItccoordInst → CoordAction → ItccoordInst → Prop where
  | addMbox {s s' : ItccoordInst} {mboxId : MboxId} {name : CString}
      (h : handleAddMbox impl s mboxId name = .ok s') : CoordStep impl s (.addMbox mboxId name) s'
  | rmvMbox {s s' : ItccoordInst} {mboxId : MboxId} {name : CString}
      (h : handleRemoveMbox impl s mboxId name = .ok s') :
      CoordStep impl s (.rmvMbox mboxId name) s'
  | locateCoord {s : ItccoordInst} {proc : Nat} {rest : List Nat}
      (hfree : s.freeList = proc :: rest) :
      CoordStep impl s .locateCoord ({ s with
        freeList := rest, usedList := s.usedList ++ [proc] }.setState proc .listening)
  | connect {s : ItccoordInst} {proc : Nat} (hused : proc ∈ s.usedList)
      (hstate : (s.processes proc).state = .listening) :
      CoordStep impl s (.connect proc) (s.setState proc .connected)
  | disconnect {s s' : ItccoordInst} {proc : Nat} (hused : proc ∈ s.usedList)
      (h : disconnectFromProcess impl s proc = .ok s') : CoordStep impl s (.disconnect proc) s'

end ItcFramework
