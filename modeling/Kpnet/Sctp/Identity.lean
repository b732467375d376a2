import Kpnet.Sctp.Handshake

/-!
# Who the association belongs to

A COOKIE ECHO makes its sender the peer of a listening server, and leaves the server
listening. So a later one does the same again, and all that stands between an association
and the next peer is that the cookie is sealed.
-/
namespace Kpnet.Sctp

open Bytes
open Runs

/-- The address, the port and the tag an association answers to. -/
def SctpAssociation.peer (assoc : SctpAssociation) : UInt32 × UInt32 × UInt32 :=
  (assoc.dstIp, assoc.dstPort, assoc.verTag)

/-- The peer that a cookie was sealed for. -/
def Cookie.peer (cookie : Cookie) : UInt32 × UInt32 × UInt32 :=
  (cookie.srcIp, cookie.srcPort, cookie.verTag)

/-- The one TSN is behind the other, in the arithmetic of serial numbers; both are as they
stand in the association. -/
def Rewinds (old new : UInt32) : Prop :=
  new ≠ old ∧ (ntohl old - ntohl new).toNat < 2 ^ 31

instance (old new : UInt32) : Decidable (Rewinds old new) := inferInstanceAs (Decidable (_ ∧ _))

/-- The packet left the association with its peer, and its TSN where it was or ahead. -/
structure Receipt.Keeps (r : Receipt) : Prop where
  peer : r.after.assoc.peer = r.before.assoc.peer
  tsn : ¬Rewinds r.before.assoc.tsn r.after.assoc.tsn

/-- A cookie that is sealed for the peer there already is, with a TSN not behind its own. -/
def Renews (assoc : SctpAssociation) (cookie : Cookie) : Prop :=
  cookie.peer = assoc.peer ∧ ¬Rewinds assoc.tsn cookie.tsn

/-- The input is no COOKIE ECHO that gets through the checks, or one that renews. -/
def Harmless (e : Endpoint) (input : Host × Option Bytes) : Prop :=
  ∀ p, input.2 = some p → p 46 = sctpCookieEcho → Addressed e p → Admitted e p →
    Renews e.assoc (Cookie.read (shift p 50))

theorem not_rewinds_self (tsn : UInt32) : ¬Rewinds tsn tsn := fun rewinds => rewinds.1 rfl

/-- A call that leaves the association alone keeps everything. -/
theorem Receipt.keeps_of_same {r : Receipt} (same : r.after.assoc = r.before.assoc) : r.Keeps := by
  constructor
  · rw [same]
  · rw [same]
    exact not_rewinds_self _

/-- The peer and the TSN that an admitted COOKIE ECHO leaves are those of its cookie. -/
theorem received_cookieEcho (host : Host) (assoc : SctpAssociation) {p : Bytes}
    (type : p 46 = sctpCookieEcho) :
    (received host p assoc).peer = (Cookie.read (shift p 50)).peer ∧
    (received host p assoc).tsn = (Cookie.read (shift p 50)).tsn := by
  have cookie : received host p assoc =
      (prepareSctpThreads host.alloc (cookieEchoAssoc assoc (Cookie.read (shift p 50)))).2 := by
    rw [received, if_neg (by rw [type]; decide), if_pos type]
  obtain ⟨os, mis, prepared⟩ :=
    prepareSctpThreads_eq host.alloc (cookieEchoAssoc assoc (Cookie.read (shift p 50)))
  rw [cookie, prepared]
  exact ⟨rfl, rfl⟩

/-- A listening server still listens after any packet. -/
theorem deliver_listens {e after : Endpoint} {input : Host × Option Bytes} {ev : List Receipt}
    (listens : e.assoc.status = .listen) (delivered : deliver e input = some (after, ev)) :
    after.assoc.status = .listen := by
  unfold deliver at delivered
  split at delivered
  · cases delivered
  next accepted left returned =>
    cases delivered
    obtain ⟨-, rfl⟩ | ⟨-, p, -, admitted, changed⟩ := ifIpSctp_cases returned
    · exact listens
    · rw [changed]
      -- two of the four kinds are for clients, and the other two leave the server listening
      rcases received_status input.1 admitted with ⟨-, -, same⟩ | ⟨-, -, sent, -⟩ | ⟨-, -, stays⟩ |
        ⟨-, waits, -⟩
      · rw [same, listens]
      · cases listens.symm.trans sent
      · exact stays
      · cases listens.symm.trans waits

/-- One packet at a listening server. -/
theorem deliver_keeps_iff {e after : Endpoint} {input : Host × Option Bytes} {ev : List Receipt}
    (listens : e.assoc.status = .listen) (delivered : deliver e input = some (after, ev)) :
    (∀ r ∈ ev, r.Keeps) ↔ Harmless e input := by
  unfold deliver at delivered
  split at delivered
  · cases delivered
  next accepted left returned =>
    cases delivered
    rw [List.forall_mem_singleton]
    obtain ⟨host, packet⟩ := input
    cases packet with
    | none =>
      -- no packet, nothing done
      obtain ⟨-, rfl⟩ | ⟨-, p, given, -⟩ := ifIpSctp_cases returned
      · exact ⟨fun _ p given => (Option.some_ne_none p given.symm).elim,
          fun _ => Receipt.keeps_of_same rfl⟩
      · cases given
    | some p =>
      have filters := ifIpSctp_filters host e p
      by_cases admitted : Addressed e p ∧ Admitted e p
      · have changed := (filters.passes admitted accepted after returned).2
        by_cases type : p 46 = sctpCookieEcho
        · -- the association is the cookie's from here on
          obtain ⟨peer, tsn⟩ := received_cookieEcho host e.assoc type
          rw [← changed] at peer tsn
          constructor
          · rintro keeps _ ⟨⟩ _ _ _
            exact ⟨peer.symm.trans keeps.peer, tsn ▸ keeps.tsn⟩
          · intro harmless
            obtain ⟨samePeer, ahead⟩ := harmless p rfl type admitted.1 admitted.2
            exact ⟨peer.trans samePeer, tsn.symm ▸ ahead⟩
        · -- all that is left for a listening server is an INIT, which it forgets
          have same : received host p e.assoc = e.assoc := by
            rcases received_status host admitted.2 with ⟨-, -, same⟩ | ⟨-, -, sent, -⟩ |
              ⟨echo, -⟩ | ⟨-, waits, -⟩
            · exact same
            · cases listens.symm.trans sent
            · exact absurd echo type
            · cases listens.symm.trans waits
          constructor
          · rintro _ _ ⟨⟩ echo
            exact absurd echo type
          · intro _
            exact Receipt.keeps_of_same (changed.trans same)
      · -- a packet that is refused is harmless
        rw [filters.refuses admitted] at returned
        cases returned
        constructor
        · rintro _ _ ⟨⟩ _ addressed valid
          exact absurd ⟨addressed, valid⟩ admitted
        · intro _
          exact Receipt.keeps_of_same rfl

/-- After an accepted COOKIE ECHO, a run of any packets keeps the peer and never rewinds the
TSN exactly if every further COOKIE ECHO that gets through the checks is sealed for that very
peer, with a TSN that is not behind. -/
theorem peer_kept_iff (host : Host) (echo : Bytes) (before server after : Endpoint)
    (inputs : List (Host × Option Bytes)) (log : List Receipt)
    (type : echo 46 = sctpCookieEcho)
    (accepted : ifIpSctp host (some echo) before = some (true, server))
    (ran : run deliver server inputs = some (after, log)) :
    (∀ r ∈ log, r.Keeps) ↔ Along deliver Harmless server inputs := by
  have listens : server.assoc.status = .listen := by
    obtain ⟨impossible, -⟩ | ⟨-, p, given, admitted, changed⟩ := ifIpSctp_cases accepted
    · cases impossible
    · cases given
      rw [changed]
      -- of the four kinds of packet that get in, the type leaves one
      rcases received_status host admitted with ⟨init, -⟩ | ⟨initAck, -⟩ | ⟨-, -, stays⟩ | ⟨ack, -⟩
      · cases type.symm.trans init
      · cases type.symm.trans initAck
      · exact stays
      · cases type.symm.trans ack
  exact forall_log_iff_along deliver Harmless (fun e => e.assoc.status = .listen) Receipt.Keeps
    (fun _ _ _ _ listens _ => deliver_listens listens) (fun _ _ _ _ => deliver_keeps_iff) inputs server after log
    listens ran

/-- A COOKIE ECHO that brings a cookie back under its code, to the server's address. -/
def sealedEcho (cookie : Cookie) : Bytes :=
  put (template createdClient.assoc.ulp) 46
    (fldHdr sctpCookieEcho (htons 60) ++ (cookie.encode ++ hmacMd5 cookie.encode hmacKey))

/-- The cookie the server seals for the INIT of the client, and the one for an INIT from
192.168.1.4. -/
def clientCookie : Cookie :=
  stateCookie ⟨11, 12, 13, some⟩
    (initAssoc createdServer.assoc (shift (plainInit ⟨31, htonl 32, 33, some⟩) 14))

def strangerCookie : Cookie :=
  stateCookie ⟨11, 12, 14, some⟩
    (initAssoc createdServer.assoc
      (shift (put (plainInit ⟨41, htonl 22, 43, some⟩) 26 (le32 0x0401A8C0)) 14))

/-- Any sealed cookie is taken by a server that listens, as created or later. -/
theorem sealedEcho_accepted (host : Host) (cookie : Cookie) (n : Nat) (server : Endpoint)
    (listens : server.assoc.status = .listen) (stocked : server.Stocked (n + 1))
    (base : server.assoc.base = createdServer.assoc.base)
    (ulp : server.assoc.ulp = createdServer.assoc.ulp) :
    ∃ after, ifIpSctp host (some (sealedEcho cookie)) server = some (true, after) ∧
      after.Stocked n ∧
      after.assoc = (prepareSctpThreads host.alloc (cookieEchoAssoc server.assoc cookie)).2 := by
  have length : (fldHdr sctpCookieEcho (htons 60) ++
      (cookie.encode ++ hmacMd5 cookie.encode hmacKey)).length = 60 := by simp [fldHdr]
  have chunk : slice (sealedEcho cookie) 46 60 = fldHdr sctpCookieEcho (htons 60) ++
      (cookie.encode ++ hmacMd5 cookie.encode hmacKey) := by
    have stored := slice_put_self (template createdClient.assoc.ulp) 46
      (fldHdr sctpCookieEcho (htons 60) ++ (cookie.encode ++ hmacMd5 cookie.encode hmacKey))
    rw [length] at stored
    exact stored
  have addressed : Addressed server (sealedEcho cookie) := by
    rw [Addressed, base, ulp]
    refine ⟨⟨_, rfl, Option.some_ne_none _⟩, ?_, ?_⟩
    · rw [sealedEcho, u32_put_of_disjoint _ _ _ _ (by omega)]
      decide
    · rw [sealedEcho, u16_put_of_disjoint _ _ _ _ (by omega)]
      decide
  obtain ⟨buffer, cellPlen, template⟩ := stocked.template
  obtain ⟨after, echoed, queued⟩ :=
    sctpProcessSctpCookieEcho_queued host stocked.supplied template chunk
  have type : sealedEcho cookie 46 = sctpCookieEcho := head_of_slice chunk
  let prepared := (prepareSctpThreads host.alloc (cookieEchoAssoc server.assoc cookie)).2
  refine ⟨{ after with assoc := prepared }, ?_, (queued.stocked ⟨stocked.1, stocked.2⟩).2, rfl⟩
  -- past the address filters, the third case of the `switch`
  rw [ifIpSctp_addressed host addressed, dispatch, if_neg (by rw [type]; decide),
    if_neg (by rw [type]; decide), if_pos type, if_pos listens, echoed]
  rfl

/-- The server takes the client's cookie, and after it another one. -/
theorem sealedEcho_twice (cookie : Cookie) :
    ∃ server after,
      ifIpSctp ⟨0, 0, 0, some⟩ (some (sealedEcho clientCookie)) createdServer = some (true, server) ∧
      ifIpSctp ⟨0, 0, 0, some⟩ (some (sealedEcho cookie)) server = some (true, after) ∧
      (server.assoc.peer = clientCookie.peer ∧ server.assoc.tsn = clientCookie.tsn) ∧
      after.assoc.peer = cookie.peer ∧ after.assoc.tsn = cookie.tsn := by
  obtain ⟨server, accepted, stocked, assoc⟩ := sealedEcho_accepted ⟨0, 0, 0, some⟩ clientCookie
    1 createdServer rfl meeting_created.serverStocked rfl rfl
  obtain ⟨os, mis, prepared⟩ := prepareSctpThreads_eq some
    (cookieEchoAssoc createdServer.assoc clientCookie)
  rw [prepared] at assoc
  obtain ⟨after, again, -, assoc'⟩ := sealedEcho_accepted ⟨0, 0, 0, some⟩ cookie
    0 server (by rw [assoc]; rfl) stocked (by rw [assoc]; rfl) (by rw [assoc]; rfl)
  obtain ⟨os', mis', prepared'⟩ := prepareSctpThreads_eq some (cookieEchoAssoc server.assoc cookie)
  rw [prepared'] at assoc'
  refine ⟨server, after, accepted, again, ⟨?_, ?_⟩, ?_, ?_⟩
  · rw [assoc]
    rfl
  · rw [assoc]
    rfl
  · rw [assoc']
    rfl
  · rw [assoc']
    rfl

theorem deliver_of_accepted {host : Host} {packet : Bytes} {e after : Endpoint}
    (accepted : ifIpSctp host (some packet) e = some (true, after)) :
    run deliver e [(host, some packet)] = some (after, [⟨some packet, true, e, after⟩]) := by
  simp [run, deliver, accepted]

theorem peer_kept_iff_replayed : ∃ server after,
    ifIpSctp ⟨0, 0, 0, some⟩ (some (sealedEcho clientCookie)) createdServer = some (true, server) ∧
    ifIpSctp ⟨0, 0, 0, some⟩ (some (sealedEcho clientCookie)) server = some (true, after) ∧
    Along deliver Harmless server [(⟨0, 0, 0, some⟩, some (sealedEcho clientCookie))] := by
  obtain ⟨server, after, accepted, again, ⟨peer, tsn⟩, peer', tsn'⟩ := sealedEcho_twice clientCookie
  refine ⟨server, after, accepted, again, ?_⟩
  have ran := deliver_of_accepted again
  have type : sealedEcho clientCookie 46 = sctpCookieEcho := by
    simp [sealedEcho, put, fldHdr]
  refine (peer_kept_iff ⟨0, 0, 0, some⟩ (sealedEcho clientCookie) createdServer server after _ _ type
    accepted ran).mp ?_
  -- the second time it brings what the association has already
  rw [List.forall_mem_singleton]
  refine ⟨peer'.trans peer.symm, ?_⟩
  rw [show server.assoc.tsn = after.assoc.tsn from tsn.trans tsn'.symm]
  exact not_rewinds_self _

/-- The cookie sealed for a stranger takes the association from the client, and its TSN back. -/
theorem peer_hijacked : ∃ server after,
    ifIpSctp ⟨0, 0, 0, some⟩ (some (sealedEcho clientCookie)) createdServer = some (true, server) ∧
    ifIpSctp ⟨0, 0, 0, some⟩ (some (sealedEcho strangerCookie)) server = some (true, after) ∧
    after.assoc.dstIp ≠ server.assoc.dstIp ∧ after.assoc.verTag ≠ server.assoc.verTag ∧
    Rewinds server.assoc.tsn after.assoc.tsn := by
  obtain ⟨server, after, accepted, again, ⟨peer, tsn⟩, peer', tsn'⟩ :=
    sealedEcho_twice strangerCookie
  refine ⟨server, after, accepted, again, ?_, ?_, ?_⟩
  · rw [show after.assoc.dstIp = strangerCookie.peer.1 from congrArg Prod.fst peer',
      show server.assoc.dstIp = clientCookie.peer.1 from congrArg Prod.fst peer]
    decide
  · rw [show after.assoc.verTag = strangerCookie.peer.2.2 from congrArg (fun p => p.2.2) peer',
      show server.assoc.verTag = clientCookie.peer.2.2 from congrArg (fun p => p.2.2) peer]
    decide
  · rw [tsn, tsn']
    decide

end Kpnet.Sctp
