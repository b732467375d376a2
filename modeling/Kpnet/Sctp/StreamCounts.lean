import Kpnet.Sctp.Handshake

/-!
# Stream counts

The limits that two hosts give each other in INIT, cookie and INIT ACK, up to the tables that
`prepare_sctp_threads.c` makes of them. Each end goes on with the two counts of its peer as they
are: it opens as many outbound streams as the peer, and expects as many inbound ones.
-/
namespace Kpnet.Sctp

open Bytes

/-- The streams an association sends on. -/
def SctpAssociation.outboundThreads (assoc : SctpAssociation) : List (Nat × SctpThread) :=
  assoc.osThreads.getD []

/-- The streams it receives on: `mis_threads` up to where `os_threads` points. -/
def SctpAssociation.inboundThreads (assoc : SctpAssociation) : List (Nat × SctpThread) :=
  (assoc.misThreads.getD []).take
    ((assoc.misThreads.getD []).length - assoc.outboundThreads.length)

/-- The exchange between the handlers of the two ends, from an INIT that has arrived up to the
COOKIE ACK. Every answer is the frame that its handler has queued. -/
def connect (initHost echoHost ackHost : Host) (server client : Endpoint) (init : Bytes) :
    Option (Endpoint × Endpoint) := do
  let server ← succeeded (sctpProcessSctpInit initHost server (shift init 14))
  let initAck ← server.lastSent
  let client ← succeeded (sctpProcessSctpInitAck client (shift initAck 50) (u16 initAck 48))
  let cookieEcho ← client.lastSent
  let server ← succeeded (sctpProcessSctpCookieEcho echoHost server (shift cookieEcho 46)
    (u16 cookieEcho 48))
  let cookieAck ← server.lastSent
  let client ← succeeded (sctpProcessSctpCookieAck ackHost client (u16 cookieAck 48))
  return (server, client)

/-- The blocks that a table for these streams takes: the table and one for each stream. -/
def Allocates (alloc : Nat → Option Nat) (os mis : UInt16) : Prop :=
  ∀ i ≤ mis.toNat + os.toNat, alloc i ≠ none

/-- Where no allocation fails the loop makes one thread after the other. -/
theorem allocThreads_length (alloc : Nat → Option Nat) (n : Nat)
    (succeeds : ∀ i ≤ n, alloc i ≠ none) :
    ∃ threads, allocThreads alloc n = some threads ∧ threads.length = n := by
  induction n with
  | zero => exact ⟨[], rfl, rfl⟩
  | succ n ih =>
    obtain ⟨threads, made, length⟩ := ih fun i below => succeeds i (Nat.le_succ_of_le below)
    obtain ⟨block, given⟩ := Option.ne_none_iff_exists'.mp (succeeds (n + 1) (Nat.le_refl _))
    refine ⟨threads ++ [(block, SctpThread.zero)], ?_, ?_⟩
    · simp only [allocThreads, made, given]
    · rw [List.length_append, length, List.length_singleton]

/-- The table is cut where the inbound streams end. -/
theorem prepareSctpThreads_counts {alloc : Nat → Option Nat} {assoc : SctpAssociation}
    {os mis : UInt16} (outbound : assoc.os = htons os) (inbound : assoc.mis = htons mis)
    (succeeds : Allocates alloc os mis) :
    (prepareSctpThreads alloc assoc).2.outboundThreads.length = os.toNat ∧
    (prepareSctpThreads alloc assoc).2.inboundThreads.length = mis.toNat := by
  -- block 0 is the table, the others are the threads
  obtain ⟨table, given⟩ := Option.ne_none_iff_exists'.mp (succeeds 0 (Nat.zero_le _))
  obtain ⟨threads, made, length⟩ := allocThreads_length alloc (mis.toNat + os.toNat) succeeds
  have rest : (threads.drop mis.toNat).length = os.toNat := by
    rw [List.length_drop, length, Nat.add_sub_cancel_left]
  rw [prepareSctpThreads, given, outbound, inbound, ntohs_htons, ntohs_htons, made]
  refine ⟨rest, ?_⟩
  simp only [SctpAssociation.inboundThreads, SctpAssociation.outboundThreads, Option.getD_some,
    rest, length, Nat.add_sub_cancel_right, List.length_take]
  exact Nat.min_eq_left (Nat.le_add_right _ _)

/-- The two counts of the client, as the server takes them out of its INIT. -/
theorem initAssoc_counts {host : Host} {ulp : SctpUlpConfig} {init : Bytes}
    (sent : slice init 46 20 = initChunk host ulp) (assoc : SctpAssociation) :
    (initAssoc assoc (shift init 14)).os = htons ulp.srcOs ∧
    (initAssoc assoc (shift init 14)).mis = htons ulp.srcMis := by
  have header : SctpInitHdr.read (shift init 50) = advertisedHdr host ulp :=
    SctpInitHdr.read_encode _ _ _ (slice_of_slice sent 4 16 _ (by omega) rfl)
  simp only [initAssoc, shift_shift]
  rw [header]
  exact ⟨rfl, rfl⟩

/-- The exchange goes through, and each end has the counts of the other. -/
theorem connect_counts (initHost echoHost ackHost sender : Host) (server client : Endpoint)
    (init : Bytes) (serverStocked : server.Stocked 2) (clientStocked : client.Stocked 1)
    (sent : slice init 46 20 = initChunk sender client.assoc.ulp)
    (serverAllocates : Allocates echoHost.alloc client.assoc.ulp.srcOs client.assoc.ulp.srcMis)
    (clientAllocates : Allocates ackHost.alloc server.assoc.ulp.srcOs server.assoc.ulp.srcMis) :
    ∃ server' client',
      connect initHost echoHost ackHost server client init = some (server', client') ∧
      server'.assoc.outboundThreads.length = client.assoc.ulp.srcOs.toNat ∧
      server'.assoc.inboundThreads.length = client.assoc.ulp.srcMis.toNat ∧
      client'.assoc.outboundThreads.length = server.assoc.ulp.srcOs.toNat ∧
      client'.assoc.inboundThreads.length = server.assoc.ulp.srcMis.toNat := by
  obtain ⟨listening, initAck, answered, sent₁, same, restocked, -, -, chunk₁⟩ :=
    init_answered initHost init serverStocked
  obtain ⟨connected, cookieEcho, -, -, acked, sent₂, connects, -, -, -, chunk₂⟩ :=
    initAck_answered initHost clientStocked chunk₁
  obtain ⟨served, cookieAck, echoed, sent₃, serves, -, -, chunk₃⟩ :=
    cookieEcho_answered echoHost restocked chunk₂
  have len : u16 cookieAck 48 = htons 4 := u16_of_slice chunk₃ 2 _ (by omega) rfl
  let acknowledged := (prepareSctpThreads ackHost.alloc (cookieAckAssoc connected.assoc)).2
  have confirmed : sctpProcessSctpCookieAck ackHost connected (u16 cookieAck 48) =
      some (0, { connected with assoc := acknowledged }) := by
    rw [len, sctpProcessSctpCookieAck, if_neg (by decide)]
  -- the cookie carries the client's counts, the INIT ACK those of the server
  obtain ⟨initOs, initMis⟩ := initAssoc_counts sent server.assoc
  let cookie := stateCookie initHost (initAssoc server.assoc (shift init 14))
  have echoOs : (cookieEchoAssoc listening.assoc cookie).os = htons client.assoc.ulp.srcOs := initOs
  have serverCounts := prepareSctpThreads_counts echoOs initMis serverAllocates
  have header := (initAck_frame chunk₁).2.1
  have ackOs : (cookieAckAssoc connected.assoc).os = htons server.assoc.ulp.srcOs := by
    rw [connects]
    exact congrArg SctpInitHdr.os header
  have ackMis : (cookieAckAssoc connected.assoc).mis = htons server.assoc.ulp.srcMis := by
    rw [connects]
    exact congrArg SctpInitHdr.mis header
  have clientCounts := prepareSctpThreads_counts ackOs ackMis clientAllocates
  refine ⟨served, { connected with assoc := acknowledged }, ?_, ?_, ?_, clientCounts⟩
  · simp [connect, succeeded, answered, sent₁, acked, sent₂, echoed, sent₃, confirmed]
  · rw [serves]
    exact serverCounts.1
  · rw [serves]
    exact serverCounts.2

/-- No end opens more streams than the other expects exactly if the configurations are such that
it would not with the counts of its peer for its own. -/
theorem stream_counts_agree_iff (initHost echoHost ackHost sender : Host)
    (server client : Endpoint) (init : Bytes) (serverStocked : server.Stocked 2)
    (clientStocked : client.Stocked 1)
    (sent : slice init 46 20 = initChunk sender client.assoc.ulp)
    (serverAllocates : Allocates echoHost.alloc client.assoc.ulp.srcOs client.assoc.ulp.srcMis)
    (clientAllocates : Allocates ackHost.alloc server.assoc.ulp.srcOs server.assoc.ulp.srcMis) :
    ∃ server' client',
      connect initHost echoHost ackHost server client init = some (server', client') ∧
      ((client'.assoc.outboundThreads.length ≤ server'.assoc.inboundThreads.length ∧
        server'.assoc.outboundThreads.length ≤ client'.assoc.inboundThreads.length) ↔
      server.assoc.ulp.srcOs ≤ client.assoc.ulp.srcMis ∧
        client.assoc.ulp.srcOs ≤ server.assoc.ulp.srcMis) := by
  obtain ⟨server', client', through, serverOut, serverIn, clientOut, clientIn⟩ :=
    connect_counts initHost echoHost ackHost sender server client init serverStocked clientStocked
      sent serverAllocates clientAllocates
  refine ⟨server', client', through, ?_⟩
  rw [serverOut, serverIn, clientOut, clientIn, UInt16.le_iff_toNat_le, UInt16.le_iff_toNat_le]

theorem stream_counts_agree_iff_created : ∃ server' client',
    connect ⟨11, 12, 13, some⟩ ⟨21, 22, 23, some⟩ ⟨41, 42, 43, some⟩ createdServer createdClient
      (plainInit ⟨31, 32, 33, some⟩) = some (server', client') ∧
    client'.assoc.outboundThreads.length ≤ server'.assoc.inboundThreads.length := by
  obtain ⟨server', client', through, agree⟩ := stream_counts_agree_iff ⟨11, 12, 13, some⟩
    ⟨21, 22, 23, some⟩ ⟨41, 42, 43, some⟩ ⟨31, 32, 33, some⟩ createdServer createdClient
    (plainInit ⟨31, 32, 33, some⟩) (Endpoint.fresh_stocked _ (by omega))
    (Endpoint.fresh_stocked _ (by omega)) (slice_put_self _ _ _)
    (fun _ _ => Option.some_ne_none _) (fun _ _ => Option.some_ne_none _)
  exact ⟨server', client', through, (agree.mpr (by decide)).1⟩

/-- A server that is configured for 64 outbound streams. -/
def wideServer : Endpoint :=
  Endpoint.fresh { createdServer.assoc with ulp := { createdServer.assoc.ulp with srcOs := 64 } }

/-- Its client, with 32 streams each way, opens 64, where the server expects 32. -/
theorem stream_counts_disagree : ∃ server' client',
    connect ⟨11, 12, 13, some⟩ ⟨21, 22, 23, some⟩ ⟨41, 42, 43, some⟩ wideServer createdClient
      (plainInit ⟨31, 32, 33, some⟩) = some (server', client') ∧
    client'.assoc.outboundThreads.length = 64 ∧ server'.assoc.inboundThreads.length = 32 ∧
    ¬(client'.assoc.outboundThreads.length ≤ server'.assoc.inboundThreads.length ∧
      server'.assoc.outboundThreads.length ≤ client'.assoc.inboundThreads.length) := by
  obtain ⟨server', client', through, -, expected, opened, -⟩ := connect_counts ⟨11, 12, 13, some⟩
    ⟨21, 22, 23, some⟩ ⟨41, 42, 43, some⟩ ⟨31, 32, 33, some⟩ wideServer createdClient
    (plainInit ⟨31, 32, 33, some⟩) (Endpoint.fresh_stocked _ (by omega))
    (Endpoint.fresh_stocked _ (by omega)) (slice_put_self _ _ _)
    (fun _ _ => Option.some_ne_none _) (fun _ _ => Option.some_ne_none _)
  refine ⟨server', client', through, opened, expected, ?_⟩
  rw [opened, expected]
  rintro ⟨fewer, -⟩
  exact absurd fewer (by decide)

end Kpnet.Sctp
