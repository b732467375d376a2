import Kpnet.Sctp.Association
import Kpnet.Xdp.Umem

/-!
# Setting an association up

The two ends as `create_client.c` and `create_server.c` make them: `sctp_assoc_create.c`
on the slab allocator of `Kpnet.Xdp.Umem`, the template header of `prefill_sctp_mac_ip.c`,
and the client's INIT, sent in two segments by `sctp_prepare_packet.c`,
`build_prefilled_mac_ip_sctp_init_hdr.c`, `sctp_push_to_xdp_segs.c` and `eth_send_sctp.c`.
Pointers into the shared packet area are addresses.
-/
namespace Kpnet.Sctp

open Bytes
open Kpnet.Ring (RingQueue)
open Kpnet.Xdp (UmemSlabAllocator slabAlloc64b)

/-- `kpnet_env_t`: the slab allocator and the packet area, mapped at `umemBase`. -/
structure KpnetEnv where
  stateAlloc : UmemSlabAllocator
  umemBase : UInt64
  umem : Bytes

/-- The next block of the environment, if there is one. -/
def KpnetEnv.alloc (env : KpnetEnv) : UInt64 × KpnetEnv :=
  let (ptr, stateAlloc) := slabAlloc64b env.umemBase env.umem env.stateAlloc
  (ptr, { env with stateAlloc := stateAlloc })

/-- A `memcpy` to an address of the packet area. -/
def KpnetEnv.write (env : KpnetEnv) (ptr : UInt64) (l : List UInt8) : KpnetEnv :=
  { env with umem := put env.umem (ptr - env.umemBase).toNat l }

/-- The header of `prefill_sctp_mac_ip`, behind `NET_IP_ALIGN` bytes of padding. -/
def prefilledHdr (ulp : SctpUlpConfig) (gateway dev : Vector UInt8 6) (indent : UInt16) :
    List UInt8 :=
  [0, 0] ++ gateway.toList ++ dev.toList ++ [0x08, 0x00] ++
    [0x45, 0x02] ++ le16 0 ++ le16 indent ++ le16 0 ++ [141, 132] ++ le16 0 ++ le32 ulp.srcIp ++
    le32 ulp.dstIp ++
    le16 (htons ulp.srcPort.toUInt16) ++ le16 (htons ulp.dstPort.toUInt16) ++ le32 0 ++ le32 0

/-- What `sctp_assoc_create` is called with, and what it gets from its surroundings: the
addresses of the two interfaces, the random `id`, and the random `indent` of the template. -/
structure Creation where
  srcIp : UInt32
  srcPort : UInt16
  dstIp : UInt32
  dstPort : UInt16
  initialState : SctpStatus
  gateway : Option (Vector UInt8 6)
  dev : Option (Vector UInt8 6)
  id : UInt16
  indent : UInt16

/-- `ulp` as `sctp_assoc_create` fills it. -/
def Creation.ulp (args : Creation) : SctpUlpConfig :=
  { srcIp := args.srcIp
    dstIp := args.dstIp
    srcPort := args.srcPort.toUInt32
    dstPort := args.dstPort.toUInt32
    srcArwnd := 65535
    srcOs := 32
    srcMis := 32 }

/-- `meta` likewise. -/
def Creation.meta (args : Creation) (gateway dev : Vector UInt8 6) : IfIpSctpMeta :=
  { state := args.initialState
    srcIp := args.srcIp
    dstIp := args.dstIp
    srcPort := args.srcPort.toUInt32
    dstPort := args.dstPort.toUInt32
    srcArwnd := 65535
    srcOs := 32
    srcMis := 32
    dev := dev
    gateway := gateway }

/-- The association it returns; all that is not set is 0 or `NULL`. -/
def Creation.assoc (args : Creation) (gateway dev : Vector UInt8 6) (packet : UInt64) :
    SctpAssociation :=
  { id := args.id
    status := args.initialState
    verTag := 0
    initTag := 0
    aRwnd := 0
    dstPort := 0
    dstIp := 0
    os := htons 16
    mis := htons 16
    tsn := 0
    dstTsn := 0
    umemHdrsCursor := 0
    srtt := 0
    rttvar := 0
    rto := 0
    mtu := 1500 - 14 - 20 - 12
    osThreads := none
    misThreads := none
    retryRing := none
    base := some { plen := 0, state := some (args.meta gateway dev) }
    ulp := args.ulp
    remainPlen := 0
    prefilledUmemPacket := packet + 2
    prefilledUmemPacketLen := 46
    xdpSegs := fun _ => 0
    xdpSegLens := fun _ => 0
    xdpSegCount := 0 }

/-- `sctp_assoc_create`, called with two interface names as both callers do. The rings for
DATA chunks are left out. `none` is a `NULL` result or a template written through `NULL`. -/
def sctpAssocCreate (env : KpnetEnv) (allocated : Bool) (args : Creation) :
    Option (SctpAssociation × KpnetEnv) :=
  if allocated then
    let (ulp, env) := env.alloc
    let (data, env) := env.alloc
    let (frame, env) := env.alloc
    -- what the others have taken by then is not given back
    if ulp = 0 ∨ data = 0 ∨ frame = 0 then none
    else
      match args.gateway, args.dev with
      | some gateway, some dev =>
        let (packet, env) := env.alloc
        -- the one block that is not tested before it is written to
        if packet = 0 then none
        else some (args.assoc gateway dev packet,
          env.write packet (prefilledHdr args.ulp gateway dev args.indent))
      | _, _ => none
  else none

/-- `sctp_prepare_packet`. -/
def sctpPreparePacket (umemBase : UInt64) (assoc : SctpAssociation) : SctpAssociation :=
  { assoc with
    xdpSegs := Function.update assoc.xdpSegs 0 (assoc.prefilledUmemPacket - umemBase)
    xdpSegLens := Function.update assoc.xdpSegLens 0 assoc.prefilledUmemPacketLen
    xdpSegCount := 1
    remainPlen := assoc.mtu }

/-- `sctp_push_to_xdp_segs`. -/
def sctpPushToXdpSegs (umemBase : UInt64) (len : UInt32) (assoc : SctpAssociation) :
    SctpAssociation :=
  -- -1 is returned, which nobody looks at
  if 16 ≤ assoc.xdpSegCount then assoc
  else { assoc with
    xdpSegs := Function.update assoc.xdpSegs assoc.xdpSegCount.toNat
      (assoc.umemHdrsCursor - umemBase)
    xdpSegLens := Function.update assoc.xdpSegLens assoc.xdpSegCount.toNat len
    xdpSegCount := assoc.xdpSegCount + 1 }

/-- Whether `xdp_tx` takes `n` segments at these readings of the two ring indices. -/
def xdpTxTakes (n : UInt32) (reading : UInt32 × UInt32) : Bool :=
  decide (n ≠ 0 ∧ n ≤ 16 ∧ n ≤ 4096 - (reading.1 - reading.2))

/-- `eth_send_sctp`: the frame it puts on the wire, gathered from the segments, and the packet
area it leaves. The readings are those of `xdp_tx`, which is called until it takes the frame;
with none left the loop is still running. -/
def ethSendSctp (readings : List (UInt32 × UInt32)) (assoc : SctpAssociation) (env : KpnetEnv) :
    Option (List UInt8 × KpnetEnv) :=
  let len := htons (assoc.mtu - assoc.remainPlen + 20 + 12).toUInt16
  let env := env.write (assoc.prefilledUmemPacket + 16) (le16 len)
  if readings.any (xdpTxTakes assoc.xdpSegCount) then
    some ((List.range assoc.xdpSegCount.toNat).flatMap
      (fun i => slice env.umem (assoc.xdpSegs i).toNat (assoc.xdpSegLens i).toNat), env)
  else none

/-- The chunk of the INIT that a client sends for its configuration. -/
def initChunk (host : Host) (ulp : SctpUlpConfig) : List UInt8 :=
  fldHdr sctpInit (htons 20) ++ (advertisedHdr host ulp).encode

/-- `build_prefilled_mac_ip_sctp_init_hdr`. -/
def buildPrefilledMacIpSctpInitHdr (host : Host) (readings : List (UInt32 × UInt32))
    (assoc : SctpAssociation) (env : KpnetEnv) :
    Option (List UInt8 × SctpAssociation × KpnetEnv) :=
  let env := env.write assoc.umemHdrsCursor (initChunk host assoc.ulp)
  let assoc := { assoc with remainPlen := assoc.remainPlen - 20 }
  let assoc := sctpPushToXdpSegs env.umemBase 20 assoc
  match ethSendSctp readings assoc env with
  | none => none
  | some (frame, env) => some (frame, assoc, env)

/-- `create_client` up to the transmission of its INIT, less the timer. The association is
created as `SCTP_INIT_SENT` and put into `SCTP_COOKIE_WAIT` before the INIT goes out. -/
def createClient (env : KpnetEnv) (allocated : Bool) (args : Creation) (host : Host)
    (readings : List (UInt32 × UInt32)) : Option (List UInt8 × SctpAssociation × KpnetEnv) :=
  match sctpAssocCreate env allocated { args with initialState := .initSent } with
  | none => none
  | some (assoc, env) =>
    let assoc := sctpPreparePacket env.umemBase assoc
    let (cursor, env) := env.alloc
    if cursor = 0 then none
    else
      buildPrefilledMacIpSctpInitHdr host readings
        { assoc with umemHdrsCursor := cursor, status := .cookieWait } env

/-- `create_server`. -/
def createServer (env : KpnetEnv) (allocated : Bool) (args : Creation) :
    Option (SctpAssociation × KpnetEnv) :=
  sctpAssocCreate env allocated { args with initialState := .listen }

/-- `create_client` leaves its association in a status of its own. -/
theorem createClient_status {env after : KpnetEnv} {allocated : Bool} {args : Creation}
    {host : Host} {readings : List (UInt32 × UInt32)} {frame : List UInt8}
    {assoc : SctpAssociation}
    (created : createClient env allocated args host readings = some (frame, assoc, after)) :
    assoc.status = .cookieWait := by
  -- neither the chunk nor the transmission touches the status
  have pushed (umemBase : UInt64) (len : UInt32) (assoc : SctpAssociation) :
      (sctpPushToXdpSegs umemBase len assoc).status = assoc.status := by
    unfold sctpPushToXdpSegs
    split
    · rfl
    · rfl
  unfold createClient at created
  split at created
  · cases created
  · dsimp only at created
    split at created
    · cases created
    · unfold buildPrefilledMacIpSctpInitHdr at created
      dsimp only at created
      split at created
      · cases created
      · cases created
        rw [pushed]

theorem createServer_status {env after : KpnetEnv} {allocated : Bool} {args : Creation}
    {assoc : SctpAssociation} (created : createServer env allocated args = some (assoc, after)) :
    assoc.status = .listen := by
  simp only [createServer, sctpAssocCreate] at created
  split at created
  · split at created
    · cases created
    · split at created
      · split at created
        · cases created
        · cases created
          rfl
      · cases created
  · cases created

/-- The arguments of `create_client`: 192.168.1.2 to port 80 of 192.168.1.3. -/
def clientArgs (srcPort : UInt16) (gateway dev : Option (Vector UInt8 6)) (id indent : UInt16) :
    Creation :=
  { srcIp := 0x0201A8C0
    srcPort := srcPort
    dstIp := 0x0301A8C0
    dstPort := 80
    initialState := .initSent
    gateway := gateway
    dev := dev
    id := id
    indent := indent }

/-- The arguments of `create_server`. -/
def serverArgs (gateway dev : Option (Vector UInt8 6)) (id indent : UInt16) : Creation :=
  { srcIp := 0x0301A8C0
    srcPort := 80
    dstIp := 0xFFFFFFFF
    dstPort := 0xFFFF
    initialState := .listen
    gateway := gateway
    dev := dev
    id := id
    indent := indent }

/-- A ring with two template buffers of the length of the prefilled headers. -/
def twoTemplates : RingQueue Nat :=
  RingQueue.pair id 1 46

theorem contents_twoTemplates : twoTemplates.contents = [(some 0, 46), (some 1, 46)] := by
  rw [twoTemplates, RingQueue.contents_pair]
  rfl

theorem contents_popped_twoTemplates : twoTemplates.pop.2.pop.2.contents = [] := by
  rw [RingQueue.contents_pop, RingQueue.contents_pop, contents_twoTemplates]
  rfl

/-- The addresses and ports of a template frame, with all else blank. -/
def template (ulp : SctpUlpConfig) : Bytes :=
  put (fun _ => 0) 26 (le32 ulp.srcIp ++ le32 ulp.dstIp ++
    le16 (htons ulp.srcPort.toUInt16) ++ le16 (htons ulp.dstPort.toUInt16))

/-- An association between an empty transmit ring and two templates. -/
def Endpoint.fresh (assoc : SctpAssociation) : Endpoint :=
  { assoc := assoc
    txRing := some twoTemplates.pop.2.pop.2
    prefilledRing := some twoTemplates
    frames := fun _ => template assoc.ulp }

/-- The two ends as they are created, before the client has changed its status. -/
def createdServer : Endpoint :=
  Endpoint.fresh ((serverArgs none none 7 1).assoc (.replicate 6 2) (.replicate 6 3) 64)

def createdClient : Endpoint :=
  Endpoint.fresh ((clientArgs 4000 none none 8 2).assoc (.replicate 6 3) (.replicate 6 2) 64)

/-- An INIT from the one to the other. -/
def plainInit (host : Host) : Bytes :=
  put (template createdClient.assoc.ulp) 46 (initChunk host createdClient.assoc.ulp)

theorem Endpoint.fresh_supplied (assoc : SctpAssociation) : (Endpoint.fresh assoc).Supplied :=
  ⟨⟨_, rfl⟩, twoTemplates, rfl, by simp [contents_twoTemplates]⟩

theorem Endpoint.fresh_template (assoc : SctpAssociation) :
    (Endpoint.fresh assoc).Template 0 46 :=
  ⟨twoTemplates, rfl, by rw [contents_twoTemplates, List.head?_cons]⟩

end Kpnet.Sctp
