import Kpnet.Lib.Acquisition
import Kpnet.Xdp.Umem

/-!
# The environment of an interface

`xdp_open.c`, `eth_open.c` with `eth_close.c`, and `kpnet_env_init.c` above them. Each acquires one
resource after the other and jumps to a label when something fails, from where it falls through what
has to be released. Both kinds of sockets come as a whole or not at all; the environment as a whole
loses some of what it has when it fails.
-/
namespace Kpnet.Xdp

open Acquisition

/-- A block of the heap, a file descriptor, or a mapping with its length. -/
inductive Resource where
  | block (p : Nat)
  | descriptor (fd : Int)
  | mapping (addr len : Nat)
  deriving DecidableEq, Repr

/-- The calls that acquire or release something. `NULL` may be freed. `MAP_FAILED`, which is `none`,
is no page, so `munmap` refuses it. -/
inductive Call where
  | malloc (p : Nat)
  | free (p : Option Nat)
  | socket (fd : Int)
  | close (fd : Int)
  | mmap (addr len : Nat)
  | munmap (addr : Option Nat) (len : Nat)
  deriving DecidableEq, Repr

def Call.effect : Call → List (Event Resource)
  | .malloc p => [.acquire (.block p)]
  | .free none => []
  | .free (some p) => [.release (.block p)]
  | .socket fd => [.acquire (.descriptor fd)]
  | .close fd => [.release (.descriptor fd)]
  | .mmap addr len => [.acquire (.mapping addr len)]
  | .munmap none _ => []
  | .munmap (some addr) len => [.release (.mapping addr len)]

def effects (log : List Call) : List (Event Resource) := log.flatMap Call.effect

/-- `xdp_ring_offset_t`, as far as it is used. -/
structure XdpRingOffset where
  producer : Nat
  consumer : Nat
  desc : Nat
  deriving DecidableEq, Repr

/-- `xdp_mmap_offsets_t`. -/
structure XdpMmapOffsets where
  rx : XdpRingOffset
  tx : XdpRingOffset
  fr : XdpRingOffset
  cr : XdpRingOffset
  deriving DecidableEq, Repr

/-- The three pointers into a mapped ring. -/
structure RingPointers where
  consumer : Nat
  producer : Nat
  ring : Nat
  deriving DecidableEq, Repr

/-- `xdp_t`. -/
structure XdpHandle where
  fd : Int
  umem : Option Nat
  rxRingMmap : Option Nat
  txRingMmap : Option Nat
  fillRingMmap : Option Nat
  completionRingMmap : Option Nat
  rx : RingPointers
  tx : RingPointers
  fill : RingPointers
  completion : RingPointers
  deriving DecidableEq, Repr

/-- `UMEM_LEN`. -/
def umemLen : Nat := 4096 * 4096

/-- `RING_DESC_SZ` and `RING_ADDR_SZ`. -/
def ringDescSz : Nat := 4096 * 16

def ringAddrSz : Nat := 4096 * 8

def XdpMmapOffsets.rxLen (o : XdpMmapOffsets) : Nat := o.rx.desc + ringDescSz

def XdpMmapOffsets.txLen (o : XdpMmapOffsets) : Nat := o.tx.desc + ringDescSz

def XdpMmapOffsets.frLen (o : XdpMmapOffsets) : Nat := o.fr.desc + ringAddrSz

def XdpMmapOffsets.crLen (o : XdpMmapOffsets) : Nat := o.cr.desc + ringAddrSz

/-- What the calls of `xdp_open` come back with, each in case it is made. -/
structure XdpHost where
  malloc : Option Nat
  socket : Int
  umem : Option Nat
  umemReg : Bool
  rxRing : Bool
  txRing : Bool
  fillRing : Bool
  completionRing : Bool
  offsets : Option XdpMmapOffsets
  rxRingMmap : Option Nat
  txRingMmap : Option Nat
  fillRingMmap : Option Nat
  completionRingMmap : Option Nat
  bind : Bool

/-- The labels at the end, from the last one up. -/
def errMalloc (xdp : Option Nat) : List Call := [.free xdp]

def errUmemMmap (xdp : Nat) (x : XdpHandle) : List Call := .close x.fd :: errMalloc (some xdp)

def errUmemReg (xdp : Nat) (x : XdpHandle) : List Call :=
  .munmap x.umem umemLen :: errUmemMmap xdp x

def errRxRing (xdp : Nat) (x : XdpHandle) (o : XdpMmapOffsets) : List Call :=
  .munmap x.rxRingMmap o.rxLen :: errUmemReg xdp x

def errTxRing (xdp : Nat) (x : XdpHandle) (o : XdpMmapOffsets) : List Call :=
  .munmap x.txRingMmap o.txLen :: errRxRing xdp x o

def errFrRing (xdp : Nat) (x : XdpHandle) (o : XdpMmapOffsets) : List Call :=
  .munmap x.fillRingMmap o.frLen :: errTxRing xdp x o

def errCrRing (xdp : Nat) (x : XdpHandle) (o : XdpMmapOffsets) : List Call :=
  .munmap x.completionRingMmap o.crLen :: errFrRing xdp x o

/-- After `memset`. -/
def XdpHandle.zero : XdpHandle :=
  { fd := 0, umem := some 0, rxRingMmap := some 0, txRingMmap := some 0, fillRingMmap := some 0
    completionRingMmap := some 0, rx := ⟨0, 0, 0⟩, tx := ⟨0, 0, 0⟩, fill := ⟨0, 0, 0⟩
    completion := ⟨0, 0, 0⟩ }

/-- `mmap + offset` for the indices and the entries of a ring. -/
def ringPointers (mmap : Nat) (o : XdpRingOffset) : RingPointers :=
  ⟨mmap + o.consumer, mmap + o.producer, mmap + o.desc⟩

/-- The second half of `xdp_open`, with the offsets of the rings. A ring that could not be mapped is
passed to `munmap` with those that were. -/
def mapRings (h : XdpHost) (p : Nat) (xdp : XdpHandle) (o : XdpMmapOffsets) :
    Option XdpHandle × List Call :=
  let xdp := { xdp with rxRingMmap := h.rxRingMmap }
  match h.rxRingMmap with
  | none => (none, errRxRing p xdp o)
  | some rx =>
    let xdp := { xdp with txRingMmap := h.txRingMmap }
    match h.txRingMmap with
    | none => (none, .mmap rx o.rxLen :: errTxRing p xdp o)
    | some tx =>
      let xdp := { xdp with fillRingMmap := h.fillRingMmap }
      match h.fillRingMmap with
      | none => (none, [.mmap rx o.rxLen, .mmap tx o.txLen] ++ errFrRing p xdp o)
      | some fr =>
        let xdp := { xdp with completionRingMmap := h.completionRingMmap }
        match h.completionRingMmap with
        | none =>
          (none, [.mmap rx o.rxLen, .mmap tx o.txLen, .mmap fr o.frLen] ++ errCrRing p xdp o)
        | some cr =>
          let xdp := { xdp with
            rx := ringPointers rx o.rx
            tx := ringPointers tx o.tx
            fill := ringPointers fr o.fr
            completion := ringPointers cr o.cr }
          let rings := [.mmap rx o.rxLen, .mmap tx o.txLen, .mmap fr o.frLen, .mmap cr o.crLen]
          if h.bind then (some xdp, rings) else (none, rings ++ errCrRing p xdp o)

/-- `xdp_open`: what it returns, and the calls it has made. -/
def xdpOpen (h : XdpHost) : Option XdpHandle × List Call :=
  match h.malloc with
  | none => (none, errMalloc none)
  | some p =>
    let xdp := { XdpHandle.zero with fd := h.socket }
    if h.socket < 0 then (none, .malloc p :: errMalloc (some p))
    else
      let xdp := { xdp with umem := h.umem }
      match h.umem with
      | none => (none, [.malloc p, .socket h.socket] ++ errUmemMmap p xdp)
      | some umem =>
        let opened := [.malloc p, .socket h.socket, .mmap umem umemLen]
        if !h.umemReg then (none, opened ++ errUmemReg p xdp)
        else if !(h.rxRing && h.txRing && h.fillRing && h.completionRing) then
          (none, opened ++ errUmemReg p xdp)
        else
          match h.offsets with
          | none => (none, opened ++ errUmemReg p xdp)
          | some o =>
            let (r, log) := mapRings h p xdp o
            (r, opened ++ log)

/-- `eth_t`; `ifindex` is found in `ifr` and goes into `sll`. -/
structure EthHandle where
  fd : Int
  ifindex : Int
  deriving DecidableEq, Repr

/-- What the calls of `eth_open` come back with, and whether it is given a name. -/
structure EthHost where
  device : Bool
  calloc : Option Nat
  socket : Int
  ifindex : Option Int
  bind : Bool
  getfl : Bool
  setfl : Bool

/-- `eth_close`. -/
def ethClose (eth : Nat) (fd : Int) : List Call :=
  (if 0 ≤ fd then [.close fd] else []) ++ [.free (some eth)]

/-- `eth_open`. Whether outgoing frames can be ignored makes no difference. -/
def ethOpen (h : EthHost) : Option EthHandle × List Call :=
  match if h.device then h.calloc else none with
  | none => (none, [])
  | some p =>
    -- a descriptor 0 is taken for a failure, but closed as any other
    let opened := .malloc p :: (if 0 ≤ h.socket then [.socket h.socket] else [])
    if h.socket < 1 then (none, opened ++ ethClose p h.socket)
    else
      match h.ifindex with
      | none => (none, opened ++ ethClose p h.socket)
      | some ifindex =>
        if !h.bind then (none, opened ++ ethClose p h.socket)
        else if !h.getfl then (none, opened ++ ethClose p h.socket)
        else if !h.setfl then (none, opened ++ ethClose p h.socket)
        else (some ⟨h.socket, ifindex⟩, opened)

/-- What the calls of `kpnet_env_init` come back with. -/
structure EnvHost where
  malloc : Option Nat
  stack : Option Nat
  addrs : Option Nat
  xdp : XdpHost
  eth : EthHost

/-- `create_umem_stack`, by its blocks. -/
def openStack (h : EnvHost) : Bool × List Call :=
  match h.stack with
  | none => (false, [])
  | some stack =>
    match h.addrs with
    | none => (false, [.malloc stack, .free (some stack)])
    | some addrs => (true, [.malloc stack, .malloc addrs])

/-- `kpnet_env_init`; the labels below `err_eth` free the record of the stack and the environment. -/
def kpnetEnvInit (h : EnvHost) : Option (XdpHandle × EthHandle) × List Call :=
  match h.malloc with
  | none => (none, [])
  | some env =>
    let (created, log) := openStack h
    if !created then (none, .malloc env :: log ++ [.free (some env)])
    else
      let (xdp, log') := xdpOpen h.xdp
      match xdp with
      | none => (none, .malloc env :: log ++ log' ++ [.free h.stack, .free (some env)])
      | some xdp =>
        let (eth, log'') := ethOpen h.eth
        match eth with
        | none => (none, .malloc env :: log ++ log' ++ log'' ++ [.free h.stack, .free (some env)])
        | some eth => (some (xdp, eth), .malloc env :: log ++ log' ++ log'')

/-- What an open XDP socket owns, with its record at `p`. -/
def XdpHandle.resources (xdp : XdpHandle) (p : Nat) (o : XdpMmapOffsets) : List Resource :=
  [.block p, .descriptor xdp.fd, .mapping (xdp.umem.getD 0) umemLen,
    .mapping (xdp.rxRingMmap.getD 0) o.rxLen, .mapping (xdp.txRingMmap.getD 0) o.txLen,
    .mapping (xdp.fillRingMmap.getD 0) o.frLen, .mapping (xdp.completionRingMmap.getD 0) o.crLen]

/-- Its pointers into the rings are those into the mappings it has. -/
structure XdpHandle.Mapped (xdp : XdpHandle) (o : XdpMmapOffsets) : Prop where
  umem : xdp.umem.isSome
  rx : ∃ m, xdp.rxRingMmap = some m ∧ xdp.rx = ringPointers m o.rx
  tx : ∃ m, xdp.txRingMmap = some m ∧ xdp.tx = ringPointers m o.tx
  fill : ∃ m, xdp.fillRingMmap = some m ∧ xdp.fill = ringPointers m o.fr
  completion : ∃ m, xdp.completionRingMmap = some m ∧ xdp.completion = ringPointers m o.cr

section Undone

variable {held : Multiset Resource} {log : List Call}

/-- The labels are a ladder: they undo what was done so far. -/
theorem run_undone (rs : List Resource) (undone : effects log = rs.map .acquire ++ releases rs) :
    run held (effects log) = some held := by
  rw [undone, run_ladder]

theorem run_done (rs : List Resource) (done : effects log = rs.map .acquire) :
    run held (effects log) = some (held + rs) := by
  rw [done, run_acquires]

end Undone

/-- The rings on top of the socket and the packet area; `bind` is the last to fail. -/
theorem mapRings_spec (h : XdpHost) (p umem : Nat) (fd : Int) (o : XdpMmapOffsets)
    (held : Multiset Resource) :
    match (mapRings h p { XdpHandle.zero with fd := fd, umem := some umem } o).1 with
    | none => run held (effects ([.malloc p, .socket fd, .mmap umem umemLen] ++
        (mapRings h p { XdpHandle.zero with fd := fd, umem := some umem } o).2)) = some held
    | some xdp => xdp.Mapped o ∧ run held (effects ([.malloc p, .socket fd, .mmap umem umemLen] ++
        (mapRings h p { XdpHandle.zero with fd := fd, umem := some umem } o).2)) =
          some (held + xdp.resources p o) := by
  let opened : List Resource := [.block p, .descriptor fd, .mapping umem umemLen]
  unfold mapRings
  cases rxMapped : h.rxRingMmap with
  | none => exact run_undone opened rfl
  | some rx =>
    cases txMapped : h.txRingMmap with
    | none => exact run_undone (opened ++ [.mapping rx o.rxLen]) rfl
    | some tx =>
      cases frMapped : h.fillRingMmap with
      | none => exact run_undone (opened ++ [.mapping rx o.rxLen, .mapping tx o.txLen]) rfl
      | some fr =>
        cases crMapped : h.completionRingMmap with
        | none =>
          exact run_undone (opened ++ [.mapping rx o.rxLen, .mapping tx o.txLen,
            .mapping fr o.frLen]) rfl
        | some cr =>
          cases bound : h.bind with
          | false =>
            exact run_undone (opened ++ [.mapping rx o.rxLen, .mapping tx o.txLen,
              .mapping fr o.frLen, .mapping cr o.crLen]) rfl
          | true =>
            exact ⟨⟨rfl, ⟨rx, rfl, rfl⟩, ⟨tx, rfl, rfl⟩, ⟨fr, rfl, rfl⟩, ⟨cr, rfl, rfl⟩⟩,
              run_done (opened ++ [.mapping rx o.rxLen, .mapping tx o.txLen,
                .mapping fr o.frLen, .mapping cr o.crLen]) rfl⟩

/-- `xdp_open`, whichever of its calls fail: nothing that it has acquired is left when it returns
`NULL`, and everything else as it was; otherwise there is a record of exactly what was acquired. -/
theorem xdpOpen_spec (h : XdpHost) (held : Multiset Resource) :
    match (xdpOpen h).1 with
    | none => run held (effects (xdpOpen h).2) = some held
    | some xdp => ∃ p o, h.malloc = some p ∧ h.offsets = some o ∧ xdp.Mapped o ∧
        run held (effects (xdpOpen h).2) = some (held + xdp.resources p o) := by
  unfold xdpOpen
  cases allocated : h.malloc with
  | none => rfl
  | some p =>
    by_cases refused : h.socket < 0
    · simp only [if_pos refused]
      exact run_undone [.block p] rfl
    · simp only [if_neg refused]
      cases mapped : h.umem with
      | none => exact run_undone [.block p, .descriptor h.socket] rfl
      | some umem =>
        let opened : List Resource := [.block p, .descriptor h.socket, .mapping umem umemLen]
        cases registered : h.umemReg with
        | false => exact run_undone opened rfl
        | true =>
          cases sized : h.rxRing && h.txRing && h.fillRing && h.completionRing with
          | false => exact run_undone opened rfl
          | true =>
            cases found : h.offsets with
            | none => exact run_undone opened rfl
            | some o =>
              have rings := mapRings_spec h p umem h.socket o held
              simp only [Bool.not_true, Bool.false_eq_true, if_false]
              cases result : (mapRings h p { XdpHandle.zero with
                  fd := h.socket, umem := some umem } o).1 with
              | none =>
                rw [result] at rings
                exact rings
              | some xdp =>
                rw [result] at rings
                exact ⟨p, o, rfl, rfl, rings⟩

/-- What an open packet socket owns, with its record at `p`. -/
def EthHandle.resources (eth : EthHandle) (p : Nat) : List Resource :=
  [.block p, .descriptor eth.fd]

/-- `eth_open` in the same way. -/
theorem ethOpen_spec (h : EthHost) (held : Multiset Resource) :
    match (ethOpen h).1 with
    | none => run held (effects (ethOpen h).2) = some held
    | some eth => ∃ p, h.calloc = some p ∧ 1 ≤ eth.fd ∧
        run held (effects (ethOpen h).2) = some (held + eth.resources p) := by
  unfold ethOpen
  cases allocated : if h.device then h.calloc else none with
  | none => rfl
  | some p =>
    have block : h.calloc = some p := by
      split at allocated
      · exact allocated
      · cases allocated
    have closed : run held (effects ((.malloc p ::
        (if 0 ≤ h.socket then [.socket h.socket] else [])) ++ ethClose p h.socket)) = some held := by
      by_cases opened : 0 ≤ h.socket
      · rw [ethClose, if_pos opened, if_pos opened]
        exact run_undone [.block p, .descriptor h.socket] rfl
      · rw [ethClose, if_neg opened, if_neg opened]
        exact run_undone [.block p] rfl
    by_cases refused : h.socket < 1
    · simp only [if_pos refused]
      exact closed
    · simp only [if_neg refused]
      cases found : h.ifindex with
      | none => exact closed
      | some ifindex =>
        cases bound : h.bind with
        | false => exact closed
        | true =>
          cases got : h.getfl with
          | false => exact closed
          | true =>
            cases set : h.setfl with
            | false => exact closed
            | true =>
              refine ⟨p, block, by dsimp only; omega, ?_⟩
              simp only [Bool.not_true, Bool.false_eq_true, if_false,
                if_pos (show 0 ≤ h.socket by omega)]
              exact run_done [.block p, .descriptor h.socket] rfl

/-- What the socket owns, if it is open. -/
def XdpHost.resources (h : XdpHost) : List Resource :=
  match (xdpOpen h).1, h.malloc, h.offsets with
  | some xdp, some p, some o => xdp.resources p o
  | _, _, _ => []

def EthHost.resources (h : EthHost) : List Resource :=
  match (ethOpen h).1, h.calloc with
  | some eth, some p => eth.resources p
  | _, _ => []

theorem run_xdpOpen (h : XdpHost) (held : Multiset Resource) :
    run held (effects (xdpOpen h).2) = some (held + h.resources) := by
  have spec := xdpOpen_spec h held
  rw [XdpHost.resources]
  cases opened : (xdpOpen h).1 with
  | none =>
    rw [opened] at spec
    exact spec.trans (congrArg some (Multiset.add_zero held).symm)
  | some xdp =>
    rw [opened] at spec
    obtain ⟨p, o, malloc, offsets, -, ran⟩ := spec
    rw [malloc, offsets]
    exact ran

theorem run_ethOpen (h : EthHost) (held : Multiset Resource) :
    run held (effects (ethOpen h).2) = some (held + h.resources) := by
  have spec := ethOpen_spec h held
  rw [EthHost.resources]
  cases opened : (ethOpen h).1 with
  | none =>
    rw [opened] at spec
    exact spec.trans (congrArg some (Multiset.add_zero held).symm)
  | some eth =>
    rw [opened] at spec
    obtain ⟨p, calloc, -, ran⟩ := spec
    rw [calloc]
    exact ran

/-- What there is after `kpnet_env_init`. If it fails for one of the sockets, the addresses of the
stack are lost, and if it fails for the second one, so is all that belongs to the first. -/
def EnvHost.left (h : EnvHost) : List Resource :=
  match h.malloc, h.stack, h.addrs with
  | some env, some stack, some addrs =>
    match (kpnetEnvInit h).1 with
    | some _ => [.block env, .block stack, .block addrs] ++ h.xdp.resources ++ h.eth.resources
    | none => .block addrs :: h.xdp.resources
  | _, _, _ => []

theorem effects_append (log log' : List Call) :
    effects (log ++ log') = effects log ++ effects log' :=
  List.flatMap_append

/-- The labels at the end give back the environment and the record of the stack, but not its
addresses. -/
theorem run_labels (env stack addrs : Nat) (held others : Multiset Resource) :
    run (held + Multiset.ofList [.block env, .block stack, .block addrs] + others)
      (effects [.free (some stack), .free (some env)]) = some (held + (.block addrs ::ₘ others)) := by
  have before : held + Multiset.ofList [.block env, .block stack, .block addrs] + others =
      held + others + (Resource.block env ::ₘ .block stack ::ₘ {.block addrs}) := by
    rw [Multiset.add_assoc, Multiset.add_comm _ others, ← Multiset.add_assoc]
    rfl
  have after : held + (Resource.block addrs ::ₘ others) = held + others + {.block addrs} := by
    rw [← Multiset.singleton_add, Multiset.add_comm {_}, Multiset.add_assoc]
  rw [before, after]
  apply run_frame
  rw [Multiset.cons_swap]
  simp [effects, Call.effect, run]

/-- `kpnet_env_init`, whichever calls fail below it: what is left is exactly known, and nothing was
released twice. If it fails, everything was given back only if the environment or the stack of chunks
could not be allocated. -/
theorem kpnetEnvInit_spec (h : EnvHost) (held : Multiset Resource) :
    run held (effects (kpnetEnvInit h).2) = some (held + h.left) ∧
    ((kpnetEnvInit h).1 = none →
      (h.left = [] ↔ h.malloc = none ∨ h.stack = none ∨ h.addrs = none)) := by
  obtain ⟨malloc, stack, addrs, xdp, eth⟩ := h
  have nothing : held + (([] : List Resource) : Multiset Resource) = held := Multiset.add_zero held
  cases malloc with
  | none => exact ⟨congrArg some nothing.symm, fun _ => iff_of_true rfl (.inl rfl)⟩
  | some env =>
    cases stack with
    | none => exact ⟨(run_undone [.block env] rfl).trans (congrArg some nothing.symm),
        fun _ => iff_of_true rfl (.inr (.inl rfl))⟩
    | some stack =>
      cases addrs with
      | none => exact ⟨(run_undone [.block env, .block stack] rfl).trans (congrArg some nothing.symm),
          fun _ => iff_of_true rfl (.inr (.inr rfl))⟩
      | some addrs =>
        -- the three blocks, and then what the first socket owns
        have opened : run held (effects ([.malloc env, .malloc stack, .malloc addrs] ++
            (xdpOpen xdp).2)) =
            some (held + Multiset.ofList [.block env, .block stack, .block addrs] +
              Multiset.ofList xdp.resources) := by
          have blocks : run held (effects [.malloc env, .malloc stack, .malloc addrs]) =
              some (held + Multiset.ofList [.block env, .block stack, .block addrs]) :=
            run_done _ rfl
          rw [effects_append, run_append, blocks]
          exact run_xdpOpen xdp _
        unfold EnvHost.left kpnetEnvInit
        simp only [openStack, Bool.not_true, Bool.false_eq_true, if_false]
        cases first : (xdpOpen xdp).1 with
        | none =>
          refine ⟨?_, fun _ => by simp⟩
          rw [effects_append, run_append, opened]
          exact run_labels env stack addrs held _
        | some x =>
          cases second : (ethOpen eth).1 with
          | none =>
            refine ⟨?_, fun _ => by simp⟩
            have closed := run_ethOpen eth (held +
              Multiset.ofList [.block env, .block stack, .block addrs] + Multiset.ofList xdp.resources)
            have empty : eth.resources = [] := by
              rw [EthHost.resources, second]
            rw [empty, Multiset.coe_nil, Multiset.add_zero] at closed
            rw [effects_append, run_append, effects_append, run_append, opened, Option.bind_some,
              closed]
            exact run_labels env stack addrs held _
          | some e =>
            refine ⟨?_, nofun⟩
            rw [effects_append, run_append, opened, Option.bind_some, run_ethOpen,
              ← Multiset.coe_add, ← Multiset.coe_add, Multiset.add_assoc, Multiset.add_assoc,
              Multiset.add_assoc]

end Kpnet.Xdp
