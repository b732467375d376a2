import Kpnet.Sctp.Setup
import Kpnet.Xdp.Available

/-!
# The blocks of an association

`sctp_assoc_create.c` once more, with the addresses of the four blocks it takes, the records it
stores in them and every result of `get_ifmac.c`: what a call that fails has taken away from the
slab allocator, and where the blocks of an association lie.
-/
namespace Kpnet.Sctp

open Bytes
open Runs
open Kpnet.Xdp (UmemStack Mapped SlabSystem SlabAction Allocation ProperUse Slabbed slabAct
  slabAvailable slabAlloc64b)

/-- A named interface: as much of its hardware address as `get_ifmac` copies. -/
structure IfMac where
  stored : List UInt8
  fits : stored.length ≤ 6

/-- The arguments of `sctp_assoc_create`, and the random `indent` of the template; `none` is a
`NULL` name. -/
structure AssocArgs where
  srcIp : UInt32
  srcPort : UInt16
  dstIp : UInt32
  dstPort : UInt16
  initialState : UInt32
  gwIfname : Option IfMac
  devIfname : Option IfMac
  indent : UInt16

/-- The pointers of an association into the packet area; `state` is `base->state`. -/
structure AssocBlocks where
  ulp : UInt64
  base : UInt64
  state : UInt64
  prefilledUmemPacket : UInt64

def AssocArgs.ulp (args : AssocArgs) : SctpUlpConfig :=
  { srcIp := args.srcIp
    dstIp := args.dstIp
    srcPort := args.srcPort.toUInt32
    dstPort := args.dstPort.toUInt32
    srcArwnd := 65535
    srcOs := 32
    srcMis := 32 }

/-- `get_ifmac` falls short of six bytes. -/
def IfMac.fails (ifname : IfMac) : Bool := decide (ifname.stored.length < 6)

/-- `ifname && get_ifmac (ifname, mac)`. -/
def getIfmac (ifname : Option IfMac) (mac : UInt64) (env : KpnetEnv) : Bool × KpnetEnv :=
  match ifname with
  | none => (false, env)
  | some ifname => (ifname.fails, env.write mac ifname.stored)

/-- The fields of `meta` from `src_ip` to `src_mis`. -/
def storeMeta (args : AssocArgs) (data : UInt64) (env : KpnetEnv) : KpnetEnv :=
  env.write (data + 20) (le32 args.srcIp ++ le32 args.dstIp ++ le32 args.srcPort.toUInt32 ++
    le32 args.dstPort.toUInt32 ++ le32 args.initialState ++ le32 65535 ++ le16 32 ++ le16 32)

/-- The fields of `ulp`, with `src_tsn` left out in the middle. -/
def storeUlp (args : AssocArgs) (ulp : UInt64) (env : KpnetEnv) : KpnetEnv :=
  (env.write (ulp + 24) (le32 args.srcIp ++ le32 args.dstIp ++ le32 args.srcPort.toUInt32 ++
    le32 args.dstPort.toUInt32 ++ le32 65535)).write (ulp + 48) (le16 32 ++ le16 32)

/-- `state`, `sync` and `plen` of `frame`. -/
def storeFrame (data frame : UInt64) (env : KpnetEnv) : KpnetEnv :=
  ((env.write (frame + 32) (le64 data)).write (frame + 24) (le64 0)).write (frame + 16) (le16 0)

/-- The middle of `sctp_assoc_create`: all that is stored in its first three blocks, as far as it
gets, and whether it gives up. -/
def storeRecords (args : AssocArgs) (ulp data frame : UInt64) (env : KpnetEnv) : Bool × KpnetEnv :=
  let env := storeMeta args data env
  let (failed, env) := getIfmac args.gwIfname (data + 54) env
  if failed then (true, env)
  else
    let (failed, env) := getIfmac args.devIfname (data + 48) env
    if failed then (true, env)
    else (false, storeFrame data frame (storeUlp args ulp env))

/-- Six bytes of the packet area. -/
def KpnetEnv.mac (env : KpnetEnv) (ptr : UInt64) : Vector UInt8 6 :=
  Vector.ofFn fun i => env.umem ((ptr - env.umemBase).toNat + i)

/-- Both interfaces are named. -/
def AssocArgs.Named (args : AssocArgs) : Prop := args.gwIfname.isSome ∧ args.devIfname.isSome

instance (args : AssocArgs) : Decidable args.Named := inferInstanceAs (Decidable (_ ∧ _))

/-- The rest of `sctp_assoc_create` once it has three blocks. -/
def sctpAssocCreateFrom (args : AssocArgs) (ulp data frame : UInt64) (env : KpnetEnv) :
    Option (Option AssocBlocks × KpnetEnv) :=
  let (failed, env) := storeRecords args ulp data frame env
  if failed then some (none, env)
  else
    let (packet, env) := env.alloc
    if args.Named then
      -- `prefill_sctp_mac_ip`, which does not look at the pointer
      if packet = 0 then none
      else some (some ⟨ulp, frame, data, packet + 2⟩, env.write packet
        (prefilledHdr args.ulp (env.mac (data + 54)) (env.mac (data + 48)) args.indent))
    else some (some ⟨ulp, frame, data, packet⟩, env)

/-- `sctp_assoc_create`; `some (none, _)` is a `NULL` result and `none` a header that is copied
to `NULL`. -/
def sctpAssocCreateBlocks (env : KpnetEnv) (allocated : Bool) (args : AssocArgs) :
    Option (Option AssocBlocks × KpnetEnv) :=
  if allocated then
    let (ulp, env) := env.alloc
    let (data, env) := env.alloc
    let (frame, env) := env.alloc
    if ulp = 0 ∨ data = 0 ∨ frame = 0 then some (none, env)
    else sctpAssocCreateFrom args ulp data frame env
  else some (none, env)

/-- What `slab_alloc_64b` can still hand out from `state_alloc`. -/
def KpnetEnv.available (env : KpnetEnv) : Set UInt64 :=
  slabAvailable env.umemBase env.umem env.stateAlloc

/-- One of the named interfaces fails. -/
def AssocArgs.Fails (args : AssocArgs) : Prop :=
  ∃ ifname, (args.gwIfname = some ifname ∨ args.devIfname = some ifname) ∧ ifname.fails

/-- The four pointers lead into blocks of a supply that are distinct and not `NULL`. -/
def AssocBlocks.Placed (blocks : AssocBlocks) (available : Set UInt64) : Prop :=
  ∃ packet : UInt64, packet.toNat ≤ blocks.prefilledUmemPacket.toNat ∧
    blocks.prefilledUmemPacket.toNat < packet.toNat + 64 ∧
    [blocks.ulp, blocks.base, blocks.state, packet].Nodup ∧
    ∀ p ∈ [blocks.ulp, blocks.base, blocks.state, packet], p ≠ 0 ∧ p ∈ available

/-- An environment whose allocator has come through any calls, with the blocks that are out. -/
def KpnetEnv.Lends (stack : UmemStack) (env : KpnetEnv) (live : List UInt64) : Prop :=
  Mapped env.umemBase stack ∧ ∃ popped free,
    Slabbed env.umemBase stack popped ⟨env.stateAlloc, env.umem, live⟩ free

namespace KpnetEnv

variable {stack : UmemStack} {env env' : KpnetEnv} {live : List UInt64} {ptr : UInt64}

theorem alloc_eq (env : KpnetEnv) :
    env.alloc = ((slabAlloc64b env.umemBase env.umem env.stateAlloc).1, { env with
      stateAlloc := (slabAlloc64b env.umemBase env.umem env.stateAlloc).2 }) := rfl

theorem Lends.alloc_block (lends : Lends stack env live) (given : env.alloc = (ptr, env'))
    (block : ptr ≠ 0) :
    Lends stack env' (ptr :: live) ∧ env.available = insert ptr env'.available ∧
      ptr ∉ env'.available := by
  obtain ⟨mapped, popped, free, inv⟩ := lends
  obtain ⟨rfl, rfl⟩ := Prod.mk.inj ((alloc_eq env).symm.trans given)
  obtain ⟨taken, fresh⟩ := inv.available_of_block mapped block
  obtain ⟨⟨popped', free', inv'⟩, -⟩ := inv.allocated mapped
  dsimp only at inv'
  rw [if_neg block] at inv'
  exact ⟨⟨mapped, popped', free', inv'⟩, taken, fresh⟩

theorem Lends.alloc_null (lends : Lends stack env live) (given : env.alloc = (0, env')) :
    env' = env ∧ env.available = ∅ := by
  obtain ⟨mapped, popped, free, inv⟩ := lends
  rw [alloc_eq, Prod.mk.injEq] at given
  obtain ⟨null, rfl⟩ := given
  obtain ⟨same, empty⟩ := inv.available_of_null mapped null
  dsimp only at same
  rw [same]
  exact ⟨rfl, empty⟩

theorem Lends.live_notMem (lends : Lends stack env live) (held : ptr ∈ live) :
    ptr ∉ env.available := by
  obtain ⟨mapped, popped, free, inv⟩ := lends
  have apart := inv.live_notMem mapped held
  exact apart

/-- The two environments differ in the bytes of blocks that are out. -/
structure Keeps (stack : UmemStack) (live : List UInt64) (env env' : KpnetEnv) : Prop where
  lends : Lends stack env' live
  available : env'.available = env.available
  next : slabAlloc64b env'.umemBase env'.umem env'.stateAlloc =
    slabAlloc64b env.umemBase env.umem env.stateAlloc

theorem Keeps.refl (lends : Lends stack env live) : Keeps stack live env env := ⟨lends, rfl, rfl⟩

/-- Where an address inside of a block is. -/
theorem Lends.toNat_add_sub (lends : Lends stack env live) (held : ptr ∈ live) (offset : UInt64)
    (inside : offset.toNat ≤ 64) :
    (ptr + offset).toNat = ptr.toNat + offset.toNat ∧
    (ptr + offset - env.umemBase).toNat = (ptr - env.umemBase).toNat + offset.toNat := by
  obtain ⟨mapped, popped, free, inv⟩ := lends
  obtain ⟨off, taken, block⟩ := inv.blocks ptr (List.mem_append_left free held)
  have member := inv.mem_stack taken
  obtain ⟨-, start, low, -⟩ := block.offset mapped member
  obtain ⟨j, small, address⟩ := block
  have room := mapped.inside off member
  have sum : (ptr + offset).toNat = ptr.toNat + offset.toNat := by
    rw [UInt64.toNat_add, Nat.mod_eq_of_lt (by omega)]
  refine ⟨sum, ?_⟩
  rw [UInt64.toNat_sub_of_le _ _ (UInt64.le_iff_toNat_le.mpr (by omega)), sum, start]
  omega

/-- A store into a block that is out. -/
theorem Keeps.write (keeps : Keeps stack live env env') (held : ptr ∈ live) {offset : UInt64}
    {l : List UInt8} (inside : offset.toNat + l.length ≤ 64) :
    Keeps stack live env (env'.write (ptr + offset) l) := by
  obtain ⟨-, address⟩ := keeps.lends.toNat_add_sub held offset (by omega)
  obtain ⟨⟨mapped, popped, free, inv⟩, same, next⟩ := keeps
  have above : (ptr - env'.umemBase).toNat ≤ (ptr + offset - env'.umemBase).toNat := by omega
  have below : (ptr + offset - env'.umemBase).toNat + l.length ≤
      (ptr - env'.umemBase).toNat + 64 := by omega
  constructor
  · exact ⟨mapped, popped, free, inv.store_live mapped held above below⟩
  · have stored := inv.available_store mapped held above below
    exact Eq.trans stored same
  · have stored := inv.slabAlloc64b_store mapped held above below
    exact Eq.trans stored next

theorem Keeps.getIfmac (keeps : Keeps stack live env env') (held : ptr ∈ live) (offset : UInt64)
    (inside : offset.toNat + 6 ≤ 64) (ifname : Option IfMac) :
    Keeps stack live env (getIfmac ifname (ptr + offset) env').2 := by
  cases ifname with
  | none => exact keeps
  | some ifname =>
    have fits := ifname.fits
    exact keeps.write held (by omega)

theorem Keeps.storeMeta (keeps : Keeps stack live env env') (held : ptr ∈ live)
    (args : AssocArgs) : Keeps stack live env (storeMeta args ptr env') :=
  keeps.write held (by simp)

theorem Keeps.storeUlp (keeps : Keeps stack live env env') (held : ptr ∈ live)
    (args : AssocArgs) : Keeps stack live env (storeUlp args ptr env') := by
  apply Keeps.write _ held
  · simp
  · exact keeps.write held (by simp)

theorem Keeps.storeFrame (keeps : Keeps stack live env env') (held : ptr ∈ live)
    (data : UInt64) : Keeps stack live env (storeFrame data ptr env') := by
  apply Keeps.write _ held
  · simp
  · apply Keeps.write _ held
    · simp
    · exact keeps.write held (by simp)

end KpnetEnv

open KpnetEnv (Lends Keeps)

section

variable {stack : UmemStack} {env : KpnetEnv} {live : List UInt64}

theorem getIfmac_fails (ifname : Option IfMac) (mac : UInt64) (env : KpnetEnv) :
    (getIfmac ifname mac env).1 = true ↔ ∃ i, ifname = some i ∧ i.fails := by
  cases ifname with
  | none => simp [getIfmac]
  | some ifname => simp [getIfmac]

/-- The stores stay inside of the three blocks, and the calls of `get_ifmac` decide. -/
theorem storeRecords_keeps (lends : Lends stack env live) (args : AssocArgs) (ulp data frame : UInt64)
    (ulpHeld : ulp ∈ live) (dataHeld : data ∈ live) (frameHeld : frame ∈ live) :
    Keeps stack live env (storeRecords args ulp data frame env).2 ∧
    ((storeRecords args ulp data frame env).1 = true ↔ args.Fails) := by
  have filled : Keeps stack live env (storeMeta args data env) :=
    (Keeps.refl lends).storeMeta dataHeld args
  have gateway := getIfmac_fails args.gwIfname (data + 54) (storeMeta args data env)
  have stored := filled.getIfmac dataHeld 54 (by decide) args.gwIfname
  unfold storeRecords
  dsimp only
  generalize getIfmac args.gwIfname (data + 54) (storeMeta args data env) = first at gateway stored
  obtain ⟨failed, env₁⟩ := first
  have dev := getIfmac_fails args.devIfname (data + 48) env₁
  have stored' := stored.getIfmac dataHeld 48 (by decide) args.devIfname
  dsimp only at gateway stored dev stored' ⊢
  generalize getIfmac args.devIfname (data + 48) env₁ = second at dev stored'
  obtain ⟨failed', env₂⟩ := second
  dsimp only at dev stored' ⊢
  have either : args.Fails ↔ failed = true ∨ failed' = true := by
    rw [gateway, dev, ← exists_or]
    exact exists_congr fun i => or_and_right
  rw [either]
  cases failed with
  | true => exact ⟨stored, by simp⟩
  | false =>
    cases failed' with
    | true => exact ⟨stored', by simp⟩
    | false =>
      have records := (stored'.storeUlp ulpHeld args).storeFrame frameHeld data
      exact ⟨records, by simp⟩

/-- What a call comes to, by what is left in the supply. -/
inductive CreateOutcome (env : KpnetEnv) (allocated : Bool) (args : AssocArgs) :
    Option (Option AssocBlocks × KpnetEnv) → Prop
  | untouched (nothing : allocated = false ∨ env.available = ∅) :
    CreateOutcome env allocated args (some (none, env))
  | lost (after : KpnetEnv) (ptr : UInt64) (tried : allocated = true)
    (before : ptr ∈ env.available) (gone : ptr ∉ after.available)
    (failed : env.available.encard < 3 ∨ args.Fails) :
    CreateOutcome env allocated args (some (none, after))
  | crashed (tried : allocated = true) (three : env.available.encard = 3) (found : ¬args.Fails)
    (named : args.Named) : CreateOutcome env allocated args none
  | unplaced (blocks : AssocBlocks) (after : KpnetEnv) (tried : allocated = true)
    (three : env.available.encard = 3) (found : ¬args.Fails) (unnamed : ¬args.Named)
    (null : blocks.prefilledUmemPacket = 0) :
    CreateOutcome env allocated args (some (some blocks, after))
  | created (blocks : AssocBlocks) (after : KpnetEnv) (tried : allocated = true)
    (four : 4 ≤ env.available.encard) (found : ¬args.Fails) (placed : blocks.Placed env.available) :
    CreateOutcome env allocated args (some (some blocks, after))

theorem available_alloc_subset {env' : KpnetEnv} {ptr : UInt64} (lends : Lends stack env live)
    (given : env.alloc = (ptr, env')) : env'.available ⊆ env.available := by
  by_cases null : ptr = 0
  · rw [null] at given
    obtain ⟨rfl, -⟩ := lends.alloc_null given
    exact subset_rfl
  · obtain ⟨-, taken, -⟩ := lends.alloc_block given null
    rw [taken]
    exact Set.subset_insert _ _

theorem encard_available {env' : KpnetEnv} {ptr : UInt64} (lends : Lends stack env live)
    (given : env.alloc = (ptr, env')) (block : ptr ≠ 0) :
    env.available.encard = env'.available.encard + 1 := by
  obtain ⟨-, taken, fresh⟩ := lends.alloc_block given block
  rw [taken, Set.encard_insert_of_notMem fresh]

/-- Once a first block is taken, a second or third that is missing loses it. -/
theorem lost_of_null {env₁ env₂ env₃ : KpnetEnv} {ulp data frame : UInt64}
    (lends : Lends stack env live) (first : env.alloc = (ulp, env₁))
    (second : env₁.alloc = (data, env₂)) (third : env₂.alloc = (frame, env₃)) (block : ulp ≠ 0)
    (null : data = 0 ∨ frame = 0) :
    ulp ∈ env.available ∧ ulp ∉ env₃.available ∧ env.available.encard < 3 := by
  have count := encard_available lends first block
  obtain ⟨lends₁, taken, fresh⟩ := lends.alloc_block first block
  have before : ulp ∈ env.available := by
    rw [taken]
    exact Set.mem_insert _ _
  by_cases missing : data = 0
  · rw [missing] at second
    obtain ⟨rfl, empty⟩ := lends₁.alloc_null second
    refine ⟨before, fun again => fresh (available_alloc_subset lends₁ third again), ?_⟩
    rw [count, empty, Set.encard_empty]
    norm_num
  · have count₁ := encard_available lends₁ second missing
    obtain ⟨lends₂, -, -⟩ := lends₁.alloc_block second missing
    rw [null.resolve_left missing] at third
    obtain ⟨rfl, empty⟩ := lends₂.alloc_null third
    refine ⟨before, fun again => fresh (available_alloc_subset lends₁ second again), ?_⟩
    rw [count, count₁, empty, Set.encard_empty]
    norm_num

/-- Three blocks were taken out of the supply. -/
structure Taken (env after : KpnetEnv) (ulp data frame : UInt64) : Prop where
  blocks : ∀ p ∈ [ulp, frame, data], p ≠ 0 ∧ p ∈ env.available ∧ p ∉ after.available
  distinct : [ulp, frame, data].Nodup
  rest : after.available ⊆ env.available
  count : env.available.encard = after.available.encard + 3

theorem taken_of_allocs {env₁ env₂ env₃ : KpnetEnv} {ulp data frame : UInt64}
    (lends : Lends stack env live) (first : env.alloc = (ulp, env₁))
    (second : env₁.alloc = (data, env₂)) (third : env₂.alloc = (frame, env₃))
    (given : ulp ≠ 0 ∧ data ≠ 0 ∧ frame ≠ 0) :
    Lends stack env₃ (frame :: data :: ulp :: live) ∧ Taken env env₃ ulp data frame := by
  obtain ⟨ulpBlock, dataBlock, frameBlock⟩ := given
  have count₁ := encard_available lends first ulpBlock
  obtain ⟨lends₁, taken₁, fresh₁⟩ := lends.alloc_block first ulpBlock
  have count₂ := encard_available lends₁ second dataBlock
  obtain ⟨lends₂, taken₂, fresh₂⟩ := lends₁.alloc_block second dataBlock
  have count₃ := encard_available lends₂ third frameBlock
  obtain ⟨lends₃, taken₃, fresh₃⟩ := lends₂.alloc_block third frameBlock
  rw [count₂, count₃, add_assoc, add_assoc] at count₁
  rw [taken₂, taken₃, Set.mem_insert_iff, Set.mem_insert_iff, not_or, not_or] at fresh₁
  rw [taken₃, Set.mem_insert_iff, not_or] at fresh₂
  rw [taken₂, taken₃] at taken₁
  obtain ⟨ulpData, ulpFrame, ulpGone⟩ := fresh₁
  obtain ⟨dataFrame, dataGone⟩ := fresh₂
  refine ⟨lends₃, ?_, ?_, ?_, count₁⟩
  · rw [taken₁]
    simp [ulpBlock, dataBlock, frameBlock, ulpGone, dataGone, fresh₃]
  · simp [ulpData, ulpFrame, Ne.symm dataFrame]
  · rw [taken₁]
    intro p member
    exact .inr (.inr (.inr member))

/-- A fourth block, taken from what three others have left. -/
theorem Taken.placed {after : KpnetEnv} {ulp data frame packet prefilled : UInt64}
    (taken : Taken env after ulp data frame) (block : packet ≠ 0) (left : packet ∈ after.available)
    (low : packet.toNat ≤ prefilled.toNat) (high : prefilled.toNat < packet.toNat + 64) :
    AssocBlocks.Placed ⟨ulp, frame, data, prefilled⟩ env.available := by
  have apart : ∀ p ∈ [ulp, frame, data], ∀ q ∈ [packet], p ≠ q := by
    intro p member q last same
    rw [List.mem_singleton.mp last] at same
    exact (taken.blocks p member).2.2 (same ▸ left)
  refine ⟨packet, low, high, ?_, ?_⟩
  · exact List.nodup_append.mpr ⟨taken.distinct, List.nodup_singleton packet, apart⟩
  · intro p member
    have split : p ∈ [ulp, frame, data] ++ [packet] := member
    rcases List.mem_append.mp split with old | last
    · exact ⟨(taken.blocks p old).1, (taken.blocks p old).2.1⟩
    · rw [List.mem_singleton.mp last]
      exact ⟨block, taken.rest left⟩

/-- What becomes of a call that has its three blocks. -/
theorem createFrom_outcome {after : KpnetEnv} {ulp data frame : UInt64} {allocated : Bool}
    (tried : allocated = true) (lends : Lends stack after (frame :: data :: ulp :: live))
    (taken : Taken env after ulp data frame) (args : AssocArgs) :
    CreateOutcome env allocated args (sctpAssocCreateFrom args ulp data frame after) := by
  obtain ⟨keeps, decided⟩ := storeRecords_keeps lends args ulp data frame (by simp)
    (by simp) (by simp)
  unfold sctpAssocCreateFrom
  generalize storeRecords args ulp data frame after = records at keeps decided ⊢
  obtain ⟨failed, env'⟩ := records
  dsimp only at keeps decided ⊢
  cases failed with
  | true =>
    obtain ⟨-, before, gone⟩ := taken.blocks ulp List.mem_cons_self
    rw [← keeps.available] at gone
    rw [if_pos rfl]
    exact .lost env' ulp tried before gone (.inr (decided.mp rfl))
  | false =>
    have found : ¬args.Fails := fun fails => Bool.false_ne_true (decided.mpr fails)
    rw [if_neg Bool.false_ne_true]
    have count := taken.count
    rw [← keeps.available] at count
    rcases fourth : env'.alloc with ⟨packet, last⟩
    dsimp only
    by_cases missing : packet = 0
    · rw [missing] at fourth
      obtain ⟨-, empty⟩ := keeps.lends.alloc_null fourth
      rw [empty, Set.encard_empty, zero_add] at count
      by_cases named : args.Named
      · rw [if_pos named, if_pos missing]
        exact .crashed tried count found named
      · rw [if_neg named]
        exact .unplaced _ _ tried count found named missing
    · obtain ⟨lends', left, -⟩ := keeps.lends.alloc_block fourth missing
      have four : 4 ≤ env.available.encard := by
        rw [count, encard_available keeps.lends fourth missing, add_assoc]
        exact le_add_self
      have member : packet ∈ after.available := by
        rw [← keeps.available, left]
        exact Set.mem_insert _ _
      by_cases named : args.Named
      · obtain ⟨address, -⟩ := lends'.toNat_add_sub List.mem_cons_self 2 (by decide)
        have offset : (2 : UInt64).toNat = 2 := rfl
        rw [if_pos named, if_neg missing]
        exact .created _ _ tried four found (taken.placed missing member (by omega) (by omega))
      · rw [if_neg named]
        exact .created _ _ tried four found (taken.placed missing member (by omega) (by omega))

theorem create_outcome (lends : Lends stack env live) (allocated : Bool) (args : AssocArgs) :
    CreateOutcome env allocated args (sctpAssocCreateBlocks env allocated args) := by
  unfold sctpAssocCreateBlocks
  by_cases tried : allocated = true
  · rw [if_pos tried]
    rcases first : env.alloc with ⟨ulp, env₁⟩
    dsimp only
    rcases second : env₁.alloc with ⟨data, env₂⟩
    dsimp only
    rcases third : env₂.alloc with ⟨frame, env₃⟩
    dsimp only
    by_cases null : ulp = 0 ∨ data = 0 ∨ frame = 0
    · rw [if_pos null]
      by_cases none : ulp = 0
      · -- the two other calls find nothing either
        rw [none] at first
        obtain ⟨rfl, empty⟩ := lends.alloc_null first
        cases first.symm.trans second
        cases first.symm.trans third
        exact .untouched (.inr empty)
      · obtain ⟨before, gone, few⟩ :=
          lost_of_null lends first second third none (null.resolve_left none)
        exact .lost env₃ ulp tried before gone (.inl few)
    · rw [if_neg null]
      push Not at null
      obtain ⟨lends₃, taken⟩ := taken_of_allocs lends first second third null
      exact createFrom_outcome tried lends₃ taken args
  · rw [if_neg tried]
    exact .untouched (.inl (Bool.not_eq_true _ ▸ tried))

end

/-- The result of `get_ifmac` that an optional address stands for. -/
def IfMac.ofMac (mac : Option (Vector UInt8 6)) : IfMac :=
  match mac with
  | none => ⟨[], by decide⟩
  | some mac => ⟨mac.toList, by simp⟩

/-- The same call with the records in the packet area. -/
def Creation.call (args : Creation) (initialState : UInt32) : AssocArgs :=
  { srcIp := args.srcIp
    srcPort := args.srcPort
    dstIp := args.dstIp
    dstPort := args.dstPort
    initialState := initialState
    gwIfname := some (IfMac.ofMac args.gateway)
    devIfname := some (IfMac.ofMac args.dev)
    indent := args.indent }

theorem IfMac.ofMac_fails (mac : Option (Vector UInt8 6)) : (IfMac.ofMac mac).fails ↔ mac = none := by
  cases mac with
  | none => simp [ofMac, fails]
  | some mac => simp [ofMac, fails]

theorem Creation.call_fails (args : Creation) (initialState : UInt32) :
    (args.call initialState).Fails ↔ args.gateway = none ∨ args.dev = none := by
  rw [← IfMac.ofMac_fails, ← IfMac.ofMac_fails]
  constructor
  · rintro ⟨ifname, named | named, fails⟩
    · cases named
      exact .inl fails
    · cases named
      exact .inr fails
  · rintro (fails | fails)
    · exact ⟨_, .inl rfl, fails⟩
    · exact ⟨_, .inr rfl, fails⟩

/-- Records that are kept aside or in their blocks: the association and the allocator it leaves are
the same. -/
theorem sctpAssocCreate_eq_blocks {stack : UmemStack} {env : KpnetEnv} {live : List UInt64}
    (lends : Lends stack env live) (allocated : Bool) (args : Creation) (initialState : UInt32) :
    (sctpAssocCreate env allocated args).map
      (fun r => (r.1.prefilledUmemPacket, r.2.stateAlloc)) =
    (sctpAssocCreateBlocks env allocated (args.call initialState)).bind fun r =>
      r.1.map fun blocks => (blocks.prefilledUmemPacket, r.2.stateAlloc) := by
  unfold sctpAssocCreate sctpAssocCreateBlocks
  by_cases tried : allocated = true
  · rw [if_pos tried, if_pos tried]
    rcases first : env.alloc with ⟨ulp, env₁⟩
    dsimp only
    rcases second : env₁.alloc with ⟨data, env₂⟩
    dsimp only
    rcases third : env₂.alloc with ⟨frame, env₃⟩
    dsimp only
    by_cases null : ulp = 0 ∨ data = 0 ∨ frame = 0
    · rw [if_pos null, if_pos null]
      rfl
    · rw [if_neg null, if_neg null]
      push Not at null
      obtain ⟨lends₃, -⟩ := taken_of_allocs lends first second third null
      obtain ⟨keeps, decided⟩ := storeRecords_keeps lends₃ (args.call initialState) ulp
        data frame (by simp) (by simp) (by simp)
      unfold sctpAssocCreateFrom
      generalize storeRecords (args.call initialState) ulp data frame env₃ = records
        at keeps decided ⊢
      obtain ⟨failed, env'⟩ := records
      rw [Creation.call_fails] at decided
      dsimp only at keeps decided ⊢
      have next := keeps.next
      rw [KpnetEnv.alloc_eq env', KpnetEnv.alloc_eq env₃, next]
      by_cases short : args.gateway = none ∨ args.dev = none
      · obtain rfl : failed = true := decided.mpr short
        rcases short with missing | missing
        · rw [missing]
          rfl
        · rw [missing]
          cases args.gateway with
          | none => rfl
          | some gateway => rfl
      · obtain rfl : failed = false := Bool.eq_false_iff.mpr (mt decided.mp short)
        push Not at short
        obtain ⟨gateway, gatewayFound⟩ := Option.ne_none_iff_exists'.mp short.1
        obtain ⟨dev, devFound⟩ := Option.ne_none_iff_exists'.mp short.2
        have named : (args.call initialState).Named := ⟨rfl, rfl⟩
        rw [gatewayFound, devFound, if_neg Bool.false_ne_true, if_pos named]
        dsimp only
        split
        · rfl
        · rfl
  · rw [if_neg tried, if_neg tried]
    rfl

/-- What is promised of a call that returns: a `NULL` result has cost no block, and the pointers of
an association lead to distinct blocks. -/
def Intact (env : KpnetEnv) (result : Option AssocBlocks) (after : KpnetEnv) : Prop :=
  (result = none → after.available = env.available) ∧
  ∀ blocks, result = some blocks → blocks.Placed env.available

theorem CreateOutcome.crashed_iff {env : KpnetEnv} {allocated : Bool} {args : AssocArgs}
    {result : Option (Option AssocBlocks × KpnetEnv)}
    (outcome : CreateOutcome env allocated args result) :
    result = none ↔
      allocated = true ∧ env.available.encard = 3 ∧ args.Named ∧ ¬args.Fails := by
  have apart : (0 : ℕ∞) ≠ 3 := by decide
  cases outcome with
  | untouched nothing =>
    refine iff_of_false nofun ?_
    rintro ⟨tried, three, -⟩
    rcases nothing with untried | empty
    · exact Bool.false_ne_true (untried.symm.trans tried)
    · rw [empty, Set.encard_empty] at three
      exact apart three
  | lost after ptr tried before gone failed =>
    refine iff_of_false nofun ?_
    rintro ⟨-, three, -, found⟩
    exact (failed.resolve_right found).ne three
  | crashed tried three found named => exact iff_of_true rfl ⟨tried, three, named, found⟩
  | unplaced blocks after tried three found unnamed null =>
    exact iff_of_false nofun fun crash => unnamed crash.2.2.1
  | created blocks after tried four found placed =>
    refine iff_of_false nofun ?_
    rintro ⟨-, three, -⟩
    rw [three] at four
    exact absurd four (by decide)

theorem CreateOutcome.intact_iff {env after : KpnetEnv} {allocated : Bool} {args : AssocArgs}
    {result : Option AssocBlocks}
    (outcome : CreateOutcome env allocated args (some (result, after))) :
    Intact env result after ↔
      allocated = false ∨ env.available = ∅ ∨ (4 ≤ env.available.encard ∧ ¬args.Fails) := by
  cases outcome with
  | untouched nothing =>
    refine iff_of_true ⟨fun _ => rfl, nofun⟩ ?_
    exact nothing.imp_right .inl
  | lost after ptr tried before gone failed =>
    refine iff_of_false (fun intact => gone (intact.1 rfl ▸ before)) ?_
    rintro (untried | empty | ⟨four, found⟩)
    · exact Bool.false_ne_true (untried.symm.trans tried)
    · rw [empty] at before
      exact before
    · exact absurd (four.trans_lt (failed.resolve_right found)) (by decide)
  | unplaced blocks after tried three found unnamed null =>
    refine iff_of_false ?_ ?_
    · -- the fourth pointer is `NULL`, and so would be its block
      rintro ⟨-, placed⟩
      obtain ⟨packet, low, -, -, real⟩ := placed _ rfl
      rw [null, UInt64.toNat_zero, Nat.le_zero] at low
      exact (real packet (by simp)).1 (UInt64.toNat_inj.mp low)
    · rintro (untried | empty | ⟨four, -⟩)
      · exact Bool.false_ne_true (untried.symm.trans tried)
      · rw [empty, Set.encard_empty] at three
        exact absurd three (by decide)
      · rw [three] at four
        exact absurd four (by decide)
  | created blocks after tried four found placed =>
    refine iff_of_true ⟨nofun, ?_⟩ (.inr (.inr ⟨four, found⟩))
    rintro _ ⟨⟩
    exact placed

/-- Whatever the allocator has been through: a call returns unless exactly three blocks are left for
two interfaces that are found, and one that returns keeps its promise if and only if it took
nothing, because there was no memory for the association or no block at all, or found four
blocks and every interface it was given. -/
theorem sctpAssocCreate_intact_iff (stack : UmemStack) (env : KpnetEnv)
    (mapped : Mapped env.umemBase stack) (umem : Bytes) (actions : List SlabAction)
    (live : List UInt64) (log : List Allocation)
    (ran : run (slabAct env.umemBase) (.initial stack umem) actions =
      some (⟨env.stateAlloc, env.umem, live⟩, log))
    (proper : Along (slabAct env.umemBase) (ProperUse env.umemBase) (.initial stack umem) actions)
    (allocated : Bool) (args : AssocArgs) :
    (sctpAssocCreateBlocks env allocated args = none ↔
      allocated = true ∧ env.available.encard = 3 ∧ args.Named ∧ ¬args.Fails) ∧
    ∀ result after, sctpAssocCreateBlocks env allocated args = some (result, after) →
      (Intact env result after ↔
        allocated = false ∨ env.available = ∅ ∨ (4 ≤ env.available.encard ∧ ¬args.Fails)) := by
  obtain ⟨⟨popped, free, inv⟩, -⟩ := Kpnet.Xdp.run_slabbed mapped ran proper
  have outcome := create_outcome ⟨mapped, popped, free, inv⟩ allocated args
  refine ⟨outcome.crashed_iff, fun result after returned => ?_⟩
  rw [returned] at outcome
  exact outcome.intact_iff

/-- An environment as `kpnet_env_init` leaves it, on a stack of one chunk. -/
def freshEnv : KpnetEnv :=
  { stateAlloc := (SlabSystem.initial Kpnet.Xdp.oneChunk fun _ => 0).alloc
    umemBase := 65536
    umem := fun _ => 0 }

/-- A call with two named interfaces. -/
def dial (gwIfname devIfname : IfMac) : AssocArgs :=
  { srcIp := 1
    srcPort := 1000
    dstIp := 2
    dstPort := 2000
    initialState := 2
    gwIfname := some gwIfname
    devIfname := some devIfname
    indent := 7 }

theorem sctpAssocCreate_intact_iff_fresh : ∃ result after,
    sctpAssocCreateBlocks freshEnv true (dial ⟨[2, 0, 0, 0, 0, 1], by decide⟩
      ⟨[2, 0, 0, 0, 0, 2], by decide⟩) = some (result, after) ∧ Intact freshEnv result after := by
  have sure := sctpAssocCreate_intact_iff Kpnet.Xdp.oneChunk freshEnv Kpnet.Xdp.mapped_oneChunk
    (fun _ => 0) [] [] [] rfl trivial true
    (dial ⟨[2, 0, 0, 0, 0, 1], by decide⟩ ⟨[2, 0, 0, 0, 0, 2], by decide⟩)
  have four : 4 ≤ freshEnv.available.encard := by
    have some : (({73728, 73792, 73856, 73920} : Finset UInt64) : Set UInt64) ⊆
        freshEnv.available := by
      intro p member
      simp only [Finset.coe_insert, Finset.coe_singleton, Set.mem_insert_iff,
        Set.mem_singleton_iff] at member
      rcases member with rfl | rfl | rfl | rfl
      · exact ⟨0, rfl⟩
      · exact ⟨1, rfl⟩
      · exact ⟨2, rfl⟩
      · exact ⟨3, rfl⟩
    have count := Set.encard_le_encard some
    rw [Set.encard_coe_eq_coe_finsetCard] at count
    exact count
  have found : ¬(dial ⟨[2, 0, 0, 0, 0, 1], by decide⟩ ⟨[2, 0, 0, 0, 0, 2], by decide⟩).Fails := by
    rintro ⟨ifname, named | named, fails⟩
    · cases named
      cases fails
    · cases named
      cases fails
  have returns := mt sure.1.mp fun crash => absurd (crash.2.1 ▸ four) (by decide)
  obtain ⟨⟨result, after⟩, returned⟩ := Option.ne_none_iff_exists'.mp returns
  exact ⟨result, after, returned, (sure.2 result after returned).mpr (.inr (.inr ⟨four, found⟩))⟩

/-- The interface of the gateway is not found: the call fails, and does not give back what it
took. -/
theorem failed_creation_leaks : ∃ after,
    sctpAssocCreateBlocks freshEnv true (dial ⟨[], by decide⟩ ⟨[2, 0, 0, 0, 0, 2], by decide⟩) =
      some (none, after) ∧ after.available ≠ freshEnv.available := by
  have seen : (sctpAssocCreateBlocks freshEnv true (dial ⟨[], by decide⟩
      ⟨[2, 0, 0, 0, 0, 2], by decide⟩)).map (fun r => r.1.isNone) = some true := by
    decide
  obtain ⟨⟨result, after⟩, returned, null⟩ := Option.map_eq_some_iff.mp seen
  obtain rfl : result = none := Option.isNone_iff_eq_none.mp null
  refine ⟨after, returned, fun same => ?_⟩
  have fresh : Lends Kpnet.Xdp.oneChunk freshEnv [] :=
    ⟨Kpnet.Xdp.mapped_oneChunk, [], [], Kpnet.Xdp.slabbed_initial 65536 _ _⟩
  have outcome := create_outcome fresh true
    (dial ⟨[], by decide⟩ ⟨[2, 0, 0, 0, 0, 2], by decide⟩)
  rw [returned] at outcome
  rcases outcome.intact_iff.mp ⟨fun _ => same, nofun⟩ with untried | empty | ⟨-, found⟩
  · exact Bool.false_ne_true untried.symm
  · have first : (73728 : UInt64) ∈ freshEnv.available := ⟨0, rfl⟩
    rw [empty] at first
    exact first
  · exact found ⟨⟨[], by decide⟩, .inl rfl, rfl⟩

end Kpnet.Sctp
