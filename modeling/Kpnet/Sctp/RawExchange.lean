import Kpnet.Lib.Runs
import Kpnet.Sctp.Filtered

/-!
# Two ends that build and wait

`build_sctp_hdr_raw` on one end and `recv_filtered` with `if_ipv4_sctp` on the other, over a wire
that may lose, repeat and reorder what is sent, with frames of others in between. An end can only
come by tags that the other end has drawn; where nothing is lost, four headers are enough for both
to have them.
-/
namespace Kpnet.Sctp

open Bytes Runs

/-- A frame that is not for the connection: too short, from elsewhere, or for other ports. -/
def Stranger (args : ConnectionArgs) (data : List UInt8) : Prop :=
  data.length ≤ 46 ∨
    u32 (put (fun _ => 0) 0 data) 26 ≠ u32 args.ipv4 16 ∨
    (u16 (put (fun _ => 0) 0 data) 34).toUInt32 ≠ args.dstport ∨
    (u16 (put (fun _ => 0) 0 data) 36).toUInt32 ≠ args.srcport

/-- A frame with a header behind the MAC and IP headers. -/
structure Carries (data : List UInt8) (message : List UInt8) : Prop where
  fits : data.length ≤ 65536
  found : (data.drop 34).take message.length = message

section Frames

variable {fuel : Nat} {malloc : UInt64} {c : Connection} {data : List UInt8} {type : SctpHdrType}
  {h : HdrArgs} {r : RawConnection}

theorem put_front (buffer buffer' : Bytes) (data : List UInt8) :
    ∀ i < data.length, put buffer 0 data i = put buffer' 0 data i := by
  intro i inside
  have first := put_inside buffer 0 i data inside
  have second := put_inside buffer' 0 i data inside
  rw [Nat.zero_add] at first second
  rw [first, second]

/-- A stranger is refused in any buffer. -/
theorem Stranger.refused (stranger : Stranger c.args data) (long : 46 < data.length) (fuel : Nat)
    (malloc : UInt64) (buffer : Bytes) (size : UInt64) :
    verdict (ifIpv4Sctp fuel malloc (put buffer 0 data) size c) = .ok (false, c) := by
  have same := put_front (fun _ => 0) buffer data
  by_cases taken : IfIpv4 (put buffer 0 data) size c
  case neg => exact verdict_of_not_ifIpv4 taken fuel malloc
  have foreign : (u16 (put buffer 0 data) 34).toUInt32 ≠ c.args.dstport ∨
      (u16 (put buffer 0 data) 36).toUInt32 ≠ c.args.srcport := by
    rcases stranger with short | other | ports
    · exact absurd short (by omega)
    · rw [u32_front same (by omega)] at other
      exact absurd taken.2 other
    · rwa [u16_front same (by omega), u16_front same (by omega)] at ports
  rw [verdict_ifIpv4Sctp taken, ifSctp]
  split
  · rfl
  · simp only [u16_shift, Nat.add_zero, if_pos foreign]
    rfl

/-- The part of a header that is sent. -/
def messageOf (type : SctpHdrType) (h : HdrArgs) (r : RawConnection) : List UInt8 :=
  slice (buildSctpHdrRaw type h r).2.sctp 0 type.total

theorem Carries.long (carries : Carries data (messageOf type h r)) :
    34 + type.total ≤ data.length := by
  have length := congrArg List.length carries.found
  have some := (type.total_bounds h r).1
  rw [messageOf, length_slice, List.length_take, List.length_drop] at length
  omega

/-- A header in a frame is taken exactly if it is for the connection, which waits for it. -/
theorem Carries.judged (carries : Carries data (messageOf type h r)) (handshakes : type.Handshakes)
    (fuel : Nat) (malloc : UInt64) (buffer : Bytes) :
    (u32 (put buffer 0 data) 26 = u32 c.args.ipv4 16 ∧ Ported h c.args ∧ Expects malloc type r c →
      verdict (ifIpv4Sctp fuel malloc (put buffer 0 data) (UInt64.ofNat data.length) c) =
        .ok (true, afterHdr malloc type h r c)) ∧
    (∀ after, verdict (ifIpv4Sctp fuel malloc (put buffer 0 data) (UInt64.ofNat data.length) c) =
      .ok (true, after) →
        Ported h c.args ∧ Expects malloc type r c ∧ after = afterHdr malloc type h r c) := by
  have long := carries.long
  have enough := (type.total_bounds h r).1
  have fits := carries.fits
  have size : (UInt64.ofNat data.length).toNat = data.length :=
    UInt64.toNat_ofNat_of_lt' (lt_of_le_of_lt fits (by decide))
  have sent : slice (shift (put buffer 0 data) 34) 0 type.total =
      slice (buildSctpHdrRaw type h r).2.sctp 0 type.total := by
    have placed := slice_put buffer 0 34 type.total data long
    have found := carries.found
    rw [messageOf, length_slice] at found
    rw [slice_shift, Nat.add_zero, ← found]
    rwa [Nat.zero_add] at placed
  obtain ⟨start, room⟩ := room_of_long (show 50 ≤ (UInt64.ofNat data.length).toNat by omega)
  obtain ⟨takes, only⟩ := built_header_received handshakes h r c (shift (put buffer 0 data) 34)
    (UInt64.ofNat data.length - 14 - 20) room sent fuel malloc
  constructor
  · rintro ⟨source, expected⟩
    have taken : IfIpv4 (put buffer 0 data) (UInt64.ofNat data.length) c :=
      ⟨start, source⟩
    rw [verdict_ifIpv4Sctp taken, takes expected]
    rfl
  · intro after accepted
    by_cases taken : IfIpv4 (put buffer 0 data) (UInt64.ofNat data.length) c
    · rw [verdict_ifIpv4Sctp taken] at accepted
      by_cases expected : Ported h c.args ∧ Expects malloc type r c
      · rw [takes expected] at accepted
        exact ⟨expected.1, expected.2, (Prod.mk.inj (Except.ok.inj accepted)).2.symm⟩
      · have refused := only expected
        cases result : ifSctp fuel malloc (shift (put buffer 0 data) 34)
            (UInt64.ofNat data.length - 14 - 20) c with
        | error stuck =>
          rw [result] at accepted
          cases accepted
        | ok found =>
          obtain ⟨flag, packet, last⟩ := found
          rw [result] at accepted
          cases accepted
          exact absurd result (refused packet after)
    · rw [verdict_of_not_ifIpv4 taken] at accepted
      cases accepted

end Frames

section Waiting

variable {fuel : Nat} {malloc : UInt64} {c : Connection} {data : List UInt8}
  {frames : List (List UInt8)}

/-- A turn of the loop, by the verdict of the filter. -/
theorem recvFiltered_refused (frames : List (List UInt8)) {buffer : Bytes}
    (refused : 46 < data.length →
      verdict (ifIpv4Sctp fuel malloc (put buffer 0 data) (UInt64.ofNat data.length) c) =
        .ok (false, c)) :
    ∃ buffer', recvFiltered (ifIpv4Sctp fuel malloc) buffer c (data :: frames) =
      recvFiltered (ifIpv4Sctp fuel malloc) buffer' c frames := by
  by_cases long : 46 < data.length
  · have refused := refused long
    cases result : ifIpv4Sctp fuel malloc (put buffer 0 data) (UInt64.ofNat data.length) c with
    | error stuck =>
      rw [result] at refused
      cases refused
    | ok found =>
      obtain ⟨taken, packet, last⟩ := found
      rw [result] at refused
      cases refused
      refine ⟨packet, ?_⟩
      simp only [recvFiltered, if_pos long, result]
  · refine ⟨put buffer 0 data, ?_⟩
    simp only [recvFiltered, if_neg long]

theorem recvFiltered_taken {buffer : Bytes} {after : Connection} (long : 46 < data.length)
    (taken : verdict (ifIpv4Sctp fuel malloc (put buffer 0 data) (UInt64.ofNat data.length) c) =
      .ok (true, after)) :
    recvFiltered (ifIpv4Sctp fuel malloc) buffer c (data :: frames) =
      .ok (some (after, frames)) := by
  cases result : ifIpv4Sctp fuel malloc (put buffer 0 data) (UInt64.ofNat data.length) c with
  | error stuck =>
    rw [result] at taken
    cases taken
  | ok found =>
    obtain ⟨flag, packet, last⟩ := found
    rw [result] at taken
    cases taken
    simp only [recvFiltered, if_pos long, result]

/-- Strangers are waited out. -/
theorem recvFiltered_strangers {noise : List (List UInt8)}
    (strangers : ∀ data ∈ noise, Stranger c.args data) (fuel : Nat) (malloc : UInt64)
    (frames : List (List UInt8)) (buffer : Bytes) :
    ∃ buffer', recvFiltered (ifIpv4Sctp fuel malloc) buffer c (noise ++ frames) =
      recvFiltered (ifIpv4Sctp fuel malloc) buffer' c frames := by
  induction noise generalizing buffer with
  | nil => exact ⟨buffer, rfl⟩
  | cons data noise ih =>
    have stranger := strangers data List.mem_cons_self
    obtain ⟨mid, turned⟩ := recvFiltered_refused (noise ++ frames)
      fun long => stranger.refused long fuel malloc buffer _
    obtain ⟨last, waited⟩ :=
      ih (fun data member => strangers data (List.mem_cons_of_mem _ member)) mid
    exact ⟨last, turned.trans waited⟩

/-- Where all frames are strangers or have a header out of some set, one of these is taken. -/
theorem recvFiltered_only (post : SctpHdrType → HdrArgs → RawConnection → Prop)
    (known : ∀ data ∈ frames, Stranger c.args data ∨ ∃ type h r, post type h r ∧
      type.Handshakes ∧ Carries data (messageOf type h r))
    {buffer : Bytes} {after : Connection} {rest : List (List UInt8)}
    (returned : recvFiltered (ifIpv4Sctp fuel malloc) buffer c frames = .ok (some (after, rest))) :
    ∃ type h r, post type h r ∧ type.Handshakes ∧ Ported h c.args ∧ Expects malloc type r c ∧
      after = afterHdr malloc type h r c := by
  induction frames generalizing buffer with
  | nil => cases returned
  | cons data frames ih =>
    have others := fun data member => known data (List.mem_cons_of_mem _ member)
    have again (buffer' : Bytes)
        (turned : recvFiltered (ifIpv4Sctp fuel malloc) buffer c (data :: frames) =
          recvFiltered (ifIpv4Sctp fuel malloc) buffer' c frames) := ih others (turned ▸ returned)
    rcases known data List.mem_cons_self with stranger | ⟨type, h, r, sent, handshakes, carries⟩
    · obtain ⟨buffer', turned⟩ := recvFiltered_refused frames
        fun long => stranger.refused long fuel malloc buffer _
      exact again buffer' turned
    · have long : 46 < data.length := by
        have enough := (type.total_bounds h r).1
        have bound := carries.long
        omega
      cases judged : verdict (ifIpv4Sctp fuel malloc (put buffer 0 data)
          (UInt64.ofNat data.length) c) with
      | error stuck =>
        cases result : ifIpv4Sctp fuel malloc (put buffer 0 data) (UInt64.ofNat data.length) c with
        | error stuck' =>
          simp only [recvFiltered, if_pos long, result] at returned
          cases returned
        | ok found =>
          rw [result] at judged
          cases judged
      | ok found =>
        obtain ⟨flag, last⟩ := found
        cases flag with
        | true =>
          obtain ⟨ported, expected, rfl⟩ :=
            (carries.judged handshakes fuel malloc buffer).2 last judged
          rw [recvFiltered_taken long judged] at returned
          cases returned
          exact ⟨type, h, r, sent, handshakes, ported, expected, rfl⟩
        | false =>
          have kept := ifIpv4Sctp_refuses judged
          rw [kept] at judged
          obtain ⟨buffer', turned⟩ := recvFiltered_refused frames fun _ => judged
          exact again buffer' turned

end Waiting

/-- What the caller sets: how far the connection is, and the cookie. -/
def RawConnection.move (r : RawConnection) (status : SctpStatus) (hmac : UInt64) : RawConnection :=
  { r with conn := { r.conn with args := { r.conn.args with status := status, hmac := hmac } } }

/-- What arrives while an end waits: strangers, and then a message from where the connection is
with. -/
structure Delivery (args : ConnectionArgs) (message : List UInt8) where
  buffer : Bytes
  noise : List (List UInt8)
  frame : List UInt8
  rest : List (List UInt8)
  strangers : ∀ data ∈ noise, Stranger args data
  source : u32 (put (fun _ => 0) 0 frame) 26 = u32 args.ipv4 16
  carries : Carries frame message

def Delivery.frames {args : ConnectionArgs} {message : List UInt8} (d : Delivery args message) :
    List (List UInt8) :=
  d.noise ++ d.frame :: d.rest

/-- What is expected is received. -/
theorem Delivery.received {c : Connection} {type : SctpHdrType} {h : HdrArgs} {r : RawConnection}
    (d : Delivery c.args (messageOf type h r)) (handshakes : type.Handshakes) (fuel : Nat)
    (malloc : UInt64) (ported : Ported h c.args) (expected : Expects malloc type r c) :
    recvFiltered (ifIpv4Sctp fuel malloc) d.buffer c d.frames =
      .ok (some (afterHdr malloc type h r c, d.rest)) := by
  obtain ⟨buffer, waited⟩ := recvFiltered_strangers d.strangers fuel malloc (d.frame :: d.rest)
    d.buffer
  have long := d.carries.long
  have enough := (type.total_bounds h r).1
  have source : u32 (put buffer 0 d.frame) 26 = u32 c.args.ipv4 16 := by
    rw [← d.source]
    exact u32_front (put_front _ _ _) (by omega)
  have taken := (d.carries.judged handshakes fuel malloc buffer).1 ⟨source, ported, expected⟩
  rw [Delivery.frames, waited]
  exact recvFiltered_taken (by omega) taken

/-- MAC and IP headers with nothing but the address in them. -/
def plainFront (args : ConnectionArgs) : List UInt8 :=
  List.replicate 26 0 ++ (le32 (u32 args.ipv4 16) ++ List.replicate 4 0)

theorem length_plainFront (args : ConnectionArgs) : (plainFront args).length = 34 := by
  simp [plainFront]

/-- A message behind these, after an empty frame. -/
def Delivery.plain (args : ConnectionArgs) (type : SctpHdrType) (h : HdrArgs) (r : RawConnection) :
    Delivery args (messageOf type h r) where
  buffer := fun _ => 0
  noise := [[]]
  frame := plainFront args ++ messageOf type h r
  rest := []
  strangers := by simp [Stranger]
  source := by
    have placed := slice_put (fun _ => 0) 0 26 4 (plainFront args ++ messageOf type h r)
      (by rw [List.length_append, length_plainFront]; omega)
    rw [plainFront, List.append_assoc, List.append_assoc, List.drop_left' (by simp),
      List.take_left' (by simp)] at placed
    exact u32_of_slice placed 0 _ le_rfl (List.take_of_length_le (by simp))
  carries := by
    have bound := (type.total_bounds h r).2
    constructor
    · rw [List.length_append, length_plainFront, messageOf, length_slice]
      omega
    · rw [List.drop_left' (length_plainFront args), List.take_length]

/-- Four headers, with whatever comes in front of each of them: every end returns from every wait,
and then both have the tags of each other. The cookie is never that of the INIT ACK, which has none:
it is a stale one if the two records do not have the same to begin with. -/
theorem handshake_completes (fuel : Nat) (malloc : UInt64) (client server : RawConnection)
    (init ack echo done : HdrArgs) (cookie : UInt64)
    (listens : server.conn.args.status = .listen) (empty : server.conn.args.errors = 0)
    (memory : malloc ≠ 0) (initPorts : Ported init server.conn.args)
    (ackPorts : Ported ack client.conn.args) (echoPorts : Ported echo server.conn.args)
    (donePorts : Ported done client.conn.args) :
    let client₁ := (buildSctpHdrRaw .init init client).2
    ∀ d₁ : Delivery server.conn.args (messageOf .init init client), ∃ c₁,
      recvFiltered (ifIpv4Sctp fuel malloc) d₁.buffer server.conn d₁.frames =
        .ok (some (c₁, d₁.rest)) ∧
    let server₁ := { server with conn := c₁ }
    let server₂ := ((buildSctpHdrRaw .initAck ack server₁).2).move .initAckSent cookie
    ∀ d₂ : Delivery client₁.conn.args (messageOf .initAck ack server₁), ∃ c₂,
      recvFiltered (ifIpv4Sctp fuel malloc) d₂.buffer client₁.conn d₂.frames =
        .ok (some (c₂, d₂.rest)) ∧
    let client₂ := { client₁ with conn := c₂ }
    let client₃ := (buildSctpHdrRaw .cookieEcho echo client₂).2
    ∀ d₃ : Delivery server₂.conn.args (messageOf .cookieEcho echo client₂), ∃ c₃,
      recvFiltered (ifIpv4Sctp fuel malloc) d₃.buffer server₂.conn d₃.frames =
        .ok (some (c₃, d₃.rest)) ∧
    let server₃ := { server₂ with conn := c₃ }
    ∀ d₄ : Delivery client₃.conn.args (messageOf .cookieAck done server₃), ∃ c₄,
      recvFiltered (ifIpv4Sctp fuel malloc) d₄.buffer client₃.conn d₄.frames =
        .ok (some (c₄, d₄.rest)) ∧
      c₃.args.dstVerTag = ack.tag ∧ c₄.args.srcVerTag = ack.tag ∧
      c₄.args.dstVerTag = init.tag ∧ c₃.args.srcVerTag = init.tag ∧
      c₃.args.destOs = init.os ∧ c₄.args.destOs = htons ack.os ∧
      c₃.args.errors =
        if client.conn.args.hmac.toUInt32.toUInt64 = cookie then 0 else malloc := by
  intro client₁ d₁
  refine ⟨_, d₁.received (.inl rfl) fuel malloc initPorts listens, ?_⟩
  intro server₁ server₂ d₂
  refine ⟨_, d₂.received (.inr (.inl rfl)) fuel malloc ackPorts rfl, ?_⟩
  intro client₂ client₃ d₃
  -- the port of the peer was stored anew, as it was
  have ported : Ported echo server₂.conn.args := ⟨echoPorts.1.trans initPorts.1.symm, echoPorts.2⟩
  have accepted : client.conn.args.hmac.toUInt32.toUInt64 = cookie ∨
      server.conn.args.errors = 0 ∧ malloc ≠ 0 := .inr ⟨empty, memory⟩
  refine ⟨_, d₃.received (.inr (.inr (.inl rfl))) fuel malloc ported ⟨rfl, rfl, accepted⟩, ?_⟩
  intro server₃ d₄
  refine ⟨_, d₄.received (.inr (.inr (.inr rfl))) fuel malloc donePorts trivial, ?_⟩
  -- an error in the list is all that the COOKIE ECHO changes
  have taken : afterHdr malloc .cookieEcho echo client₂ server₂.conn =
      if client.conn.args.hmac.toUInt32.toUInt64 = cookie then server₂.conn
      else ⟨{ server₂.conn.args with errors := malloc },
        Function.update server₂.conn.heap malloc ⟨staleCookieError, 0⟩⟩ := rfl
  rw [taken]
  by_cases fresh : client.conn.args.hmac.toUInt32.toUInt64 = cookie
  · rw [if_pos fresh, if_pos fresh]
    exact ⟨rfl, rfl, rfl, rfl, rfl, rfl, empty⟩
  · rw [if_neg fresh, if_neg fresh]
    exact ⟨rfl, rfl, rfl, rfl, rfl, rfl, rfl⟩

/-- The end that listens, with the record of the client otherwise. -/
def server : RawConnection := { client with conn := listening }

/-- What it answers. -/
def replyArgs : HdrArgs := ⟨2, 1, 20, 21, 65536, 200, 0x05060708⟩

theorem handshake_completes_plain :
    let client₁ := (buildSctpHdrRaw .init firstArgs client).2
    let d₁ := Delivery.plain server.conn.args .init firstArgs client
    ∃ c₁, recvFiltered (ifIpv4Sctp 0 4096) d₁.buffer server.conn d₁.frames =
      .ok (some (c₁, [])) ∧
    let server₁ := { server with conn := c₁ }
    let d₂ := Delivery.plain client₁.conn.args .initAck replyArgs server₁
    ∃ c₂, recvFiltered (ifIpv4Sctp 0 4096) d₂.buffer client₁.conn d₂.frames =
      .ok (some (c₂, [])) ∧
    let server₂ := ((buildSctpHdrRaw .initAck replyArgs server₁).2).move .initAckSent 7
    let d₃ := Delivery.plain server₂.conn.args .cookieEcho firstArgs { client₁ with conn := c₂ }
    ∃ c₃, recvFiltered (ifIpv4Sctp 0 4096) d₃.buffer server₂.conn d₃.frames =
      .ok (some (c₃, [])) ∧
      c₃.args.dstVerTag = replyArgs.tag ∧ c₃.args.srcVerTag = firstArgs.tag := by
  intro client₁ d₁
  have toServer : Ported firstArgs server.conn.args := by
    constructor
    · decide
    · decide
  have toClient : Ported replyArgs client.conn.args := by
    constructor
    · decide
    · decide
  obtain ⟨c₁, first, more⟩ := handshake_completes 0 4096 client server firstArgs replyArgs firstArgs
    replyArgs 7 rfl rfl (by decide) toServer toClient toServer toClient d₁
  obtain ⟨c₂, second, more⟩ := more (Delivery.plain _ _ _ _)
  obtain ⟨c₃, third, more⟩ := more (Delivery.plain _ _ _ _)
  obtain ⟨c₄, -, tag, -, -, peer, -⟩ := more (Delivery.plain _ _ _ _)
  exact ⟨c₁, first, c₂, second, c₃, third, tag, peer⟩

inductive Side where
  | first
  | second
  deriving DecidableEq, Repr

def Side.other : Side → Side
  | .first => .second
  | .second => .first

/-- The two ends, the headers that each has built for the other, and the tags it has drawn, the
newest first. -/
structure Wire where
  ends : Side → RawConnection
  sent : Side → List (List UInt8)
  tags : Side → List UInt32

/-- What can happen: an end builds a header, it waits for one, or its caller moves it on. -/
inductive WireAction where
  | build (s : Side) (type : SctpHdrType) (h : HdrArgs)
  | receive (s : Side) (fuel : Nat) (malloc : UInt64) (buffer : Bytes) (frames : List (List UInt8))
  | move (s : Side) (status : SctpStatus) (hmac : UInt64)

/-- The types whose header has a tag drawn for it. -/
def SctpHdrType.draws : SctpHdrType → Bool
  | .init | .initAck => true
  | _ => false

/-- The state of an end is replaced. -/
def Wire.set (w : Wire) (s : Side) (r : RawConnection) : Wire :=
  { w with ends := Function.update w.ends s r }

/-- A step, with the end that has taken a header. It is stuck where a list of errors is followed
through `NULL`. -/
def wireAct (w : Wire) : WireAction → Option (Wire × List Side)
  | .build s type h =>
    let built := (buildSctpHdrRaw type h (w.ends s)).2
    let message := slice built.sctp 0 type.total
    let tags := if type.draws then h.tag :: w.tags s else w.tags s
    some ({ w.set s built with
      sent := Function.update w.sent s (message :: w.sent s)
      tags := Function.update w.tags s tags }, [])
  | .receive s fuel malloc buffer frames =>
    match recvFiltered (ifIpv4Sctp fuel malloc) buffer (w.ends s).conn frames with
    | .error _ => none
    | .ok none => some (w, [])
    | .ok (some (conn, _)) => some (w.set s { w.ends s with conn := conn }, [s])
  | .move s status hmac => some (w.set s ((w.ends s).move status hmac), [])

/-- Headers of the handshake are built, and the frames that arrive are strangers or carry a header
of the other end, one that was sent at any time and however often. -/
def Fair (w : Wire) : WireAction → Prop
  | .build _ type _ => type.Handshakes
  | .receive s _ _ _ frames => ∀ data ∈ frames, Stranger (w.ends s).conn.args data ∨
      ∃ message ∈ w.sent s.other, Carries data message
  | .move _ _ _ => True

/-- What an end knows of the tag of the other. -/
def Knows (start w : Wire) (s : Side) (tag : UInt32) : Prop :=
  tag = (start.ends s).conn.args.srcVerTag ∨ tag ∈ w.tags s.other

/-- What holds of a wire: every end knows the newest of its own tags, and of the other end one that
was drawn there; so does the end that has built a header. -/
structure Agreed (start w : Wire) : Prop where
  own : ∀ s, (w.ends s).conn.args.dstVerTag =
    (w.tags s).headD (start.ends s).conn.args.dstVerTag
  peer : ∀ s, Knows start w s (w.ends s).conn.args.srcVerTag
  mail : ∀ s, ∀ message ∈ w.sent s, ∃ type h r, message = messageOf type h r ∧ type.Handshakes ∧
    Knows start w s r.conn.args.srcVerTag ∧ (type.draws → h.tag ∈ w.tags s)

section Steps

variable {start w : Wire} {s : Side} {type : SctpHdrType} {h : HdrArgs}

/-- What building a header does to the tags of a record. -/
theorem buildSctpHdrRaw_tags (handshakes : type.Handshakes) (h : HdrArgs) (r : RawConnection) :
    (buildSctpHdrRaw type h r).2.conn.args.srcVerTag = r.conn.args.srcVerTag ∧
    (buildSctpHdrRaw type h r).2.conn.args.dstVerTag =
      if type.draws then h.tag else r.conn.args.dstVerTag := by
  obtain rfl | rfl | rfl | rfl := handshakes
  · exact ⟨rfl, rfl⟩
  · exact ⟨rfl, rfl⟩
  · exact ⟨rfl, rfl⟩
  · exact ⟨rfl, rfl⟩

/-- And what taking one does. -/
theorem afterHdr_tags (handshakes : type.Handshakes) (malloc : UInt64) (h : HdrArgs)
    (r : RawConnection) (c : Connection) :
    (afterHdr malloc type h r c).args.dstVerTag = c.args.dstVerTag ∧
    (afterHdr malloc type h r c).args.srcVerTag =
      if type.draws then h.tag else c.args.srcVerTag := by
  obtain rfl | rfl | rfl | rfl := handshakes
  · exact ⟨rfl, rfl⟩
  · exact ⟨rfl, rfl⟩
  · rw [afterHdr]
    split
    · exact ⟨rfl, rfl⟩
    · exact ⟨rfl, rfl⟩
  · exact ⟨rfl, rfl⟩

/-- Tags are never forgotten. -/
theorem Knows.mono {w' : Wire} {tag : UInt32} (knows : Knows start w s tag)
    (grows : ∀ t ∈ w.tags s.other, t ∈ w'.tags s.other) : Knows start w' s tag :=
  knows.imp_right (grows tag)

/-- A step that changes the record of one end and draws nothing. -/
theorem Agreed.set (agreed : Agreed start w) {r : RawConnection}
    (own : r.conn.args.dstVerTag = (w.ends s).conn.args.dstVerTag)
    (peer : Knows start w s r.conn.args.srcVerTag) : Agreed start (w.set s r) := by
  constructor
  case own =>
    intro s'
    by_cases same : s' = s
    · subst same
      simp only [Wire.set, Function.update_self, own]
      exact agreed.own s'
    · simp only [Wire.set, Function.update_of_ne same]
      exact agreed.own s'
  case peer =>
    intro s'
    by_cases same : s' = s
    · subst same
      simp only [Wire.set, Function.update_self]
      exact peer
    · simp only [Wire.set, Function.update_of_ne same]
      exact agreed.peer s'
  case mail => exact agreed.mail

theorem Agreed.build (agreed : Agreed start w) (handshakes : type.Handshakes) (h : HdrArgs) :
    Agreed start { w.set s (buildSctpHdrRaw type h (w.ends s)).2 with
      sent := Function.update w.sent s (messageOf type h (w.ends s) :: w.sent s)
      tags := Function.update w.tags s (if type.draws then h.tag :: w.tags s else w.tags s) } := by
  obtain ⟨src, dst⟩ := buildSctpHdrRaw_tags handshakes h (w.ends s)
  have grows (s' : Side) : ∀ t ∈ w.tags s',
      t ∈ Function.update w.tags s (if type.draws then h.tag :: w.tags s else w.tags s) s' := by
    intro t member
    by_cases same : s' = s
    · subst same
      rw [Function.update_self]
      split
      · exact List.mem_cons_of_mem _ member
      · exact member
    · rwa [Function.update_of_ne same]
  constructor
  case own =>
    intro s'
    by_cases same : s' = s
    · subst same
      simp only [Wire.set, Function.update_self, dst]
      split
      · rfl
      · exact agreed.own s'
    · simp only [Wire.set, Function.update_of_ne same]
      exact agreed.own s'
  case peer =>
    intro s'
    apply Knows.mono (w := w) _ (grows s'.other)
    by_cases same : s' = s
    · subst same
      simp only [Wire.set, Function.update_self, src]
      exact agreed.peer s'
    · simp only [Wire.set, Function.update_of_ne same]
      exact agreed.peer s'
  case mail =>
    intro s' message member
    by_cases same : s' = s
    · subst same
      simp only [Function.update_self, List.mem_cons] at member
      rcases member with rfl | old
      · refine ⟨type, h, w.ends s', rfl, handshakes, (agreed.peer s').mono (grows _), ?_⟩
        intro draws
        simp only [Function.update_self, if_pos draws]
        exact List.mem_cons_self
      · obtain ⟨type', h', r, rfl, handshakes', knows, drawn⟩ := agreed.mail s' message old
        exact ⟨type', h', r, rfl, handshakes', knows.mono (grows _),
          fun draws => grows s' h'.tag (drawn draws)⟩
    · simp only [Function.update_of_ne same] at member
      obtain ⟨type', h', r, rfl, handshakes', knows, drawn⟩ := agreed.mail s' message member
      exact ⟨type', h', r, rfl, handshakes', knows.mono (grows _),
        fun draws => grows s' h'.tag (drawn draws)⟩

/-- What arrives was drawn by the other end. -/
theorem Agreed.receive (agreed : Agreed start w) {fuel : Nat} {malloc : UInt64} {buffer : Bytes}
    {frames rest : List (List UInt8)} {after : Connection}
    (fair : Fair w (.receive s fuel malloc buffer frames))
    (returned : recvFiltered (ifIpv4Sctp fuel malloc) buffer (w.ends s).conn frames =
      .ok (some (after, rest))) : Agreed start (w.set s { w.ends s with conn := after }) := by
  obtain ⟨type, h, r, drawn, handshakes, -, -, rfl⟩ := recvFiltered_only
    (fun type h _ => type.draws → h.tag ∈ w.tags s.other)
    (fun data member => (fair data member).imp_right fun ⟨message, sent, carries⟩ => by
      obtain ⟨type, h, r, rfl, handshakes, -, drawn⟩ := agreed.mail s.other message sent
      exact ⟨type, h, r, drawn, handshakes, carries⟩) returned
  obtain ⟨dst, src⟩ := afterHdr_tags handshakes malloc h r (w.ends s).conn
  apply agreed.set
  · exact dst
  · simp only [src]
    split
    next draws => exact .inr (drawn draws)
    · exact agreed.peer s

end Steps

/-- Nothing was built yet. -/
structure Wire.Fresh (start : Wire) : Prop where
  sent : ∀ s, start.sent s = []
  tags : ∀ s, start.tags s = []

theorem Wire.Fresh.agreed {start : Wire} (fresh : start.Fresh) : Agreed start start where
  own s := by rw [fresh.tags s, List.headD_nil]
  peer _ := .inl rfl
  mail s message member := by
    rw [fresh.sent s] at member
    cases member

/-- One step from an agreement leads to one. -/
theorem Agreed.step {start w after : Wire} {i : WireAction} {log : List Side}
    (agreed : Agreed start w) (fair : Fair w i) (stepped : wireAct w i = some (after, log)) :
    Agreed start after := by
  cases i with
  | build s type h =>
    cases stepped
    exact agreed.build fair h
  | receive s fuel malloc buffer frames =>
    simp only [wireAct] at stepped
    split at stepped
    · cases stepped
    · cases stepped
      exact agreed
    next conn rest returned =>
      cases stepped
      exact agreed.receive fair returned
  | move s status hmac =>
    cases stepped
    exact agreed.set rfl (agreed.peer s)

/-- Whatever two ends build, and however their headers are lost, repeated and reordered between
frames of others: an end knows the newest of its own tags, and of the other end, if anything, a tag
that was drawn there; every header carries no more than its builder knew. With a single tag drawn by
the other end, the one that an end has come to know is the one the other end has for its own. -/
theorem tags_agree (start : Wire) (fresh : start.Fresh) (is : List WireAction) (w : Wire)
    (log : List Side) (ran : run wireAct start is = some (w, log))
    (fair : Along wireAct Fair start is) :
    Agreed start w ∧
    ∀ s t, w.tags s.other = [t] →
      (w.ends s).conn.args.srcVerTag ≠ (start.ends s).conn.args.srcVerTag →
      (w.ends s).conn.args.srcVerTag = (w.ends s.other).conn.args.dstVerTag := by
  have agreed : Agreed start w := run_induction wireAct Fair start
    (fun _ w _ => Agreed start w) fresh.agreed
    (fun _ _ _ _ _ _ _ held fair stepped => held.step fair stepped) is w log ran fair
  refine ⟨agreed, ?_⟩
  intro s t single new
  have known := (agreed.peer s).resolve_left new
  rw [single, List.mem_singleton] at known
  rw [known, agreed.own s.other, single, List.headD_cons]

/-- The INIT is built, and received behind an empty frame. -/
theorem tags_agree_init :
    let start : Wire := ⟨fun s => if s = .first then client else server, fun _ => [], fun _ => []⟩
    let d := Delivery.plain server.conn.args .init firstArgs client
    ∃ w, run wireAct start [.build .first .init firstArgs,
        .receive .second 0 4096 d.buffer d.frames] = some (w, [.second]) ∧
      Agreed start w := by
  intro start d
  have ported : Ported firstArgs server.conn.args := by
    constructor
    · decide
    · decide
  have returned := d.received (.inl rfl) 0 4096 ported rfl
  let w₁ : Wire :=
    { ends := Function.update start.ends .first (buildSctpHdrRaw .init firstArgs client).2
      sent := Function.update start.sent .first [messageOf .init firstArgs client]
      tags := Function.update start.tags .first [firstArgs.tag] }
  have built : wireAct start (.build .first .init firstArgs) = some (w₁, []) := rfl
  have waits : (w₁.ends .second).conn = server.conn := rfl
  have taken : ∃ w, wireAct w₁ (.receive .second 0 4096 d.buffer d.frames) =
      some (w, [.second]) := by
    simp only [wireAct, waits, returned]
    exact ⟨_, rfl⟩
  obtain ⟨w, taken⟩ := taken
  have ran : run wireAct start [.build .first .init firstArgs,
      .receive .second 0 4096 d.buffer d.frames] = some (w, [.second]) := by
    simp only [run, built, taken]
    rfl
  have fair : Along wireAct Fair start [.build .first .init firstArgs,
      .receive .second 0 4096 d.buffer d.frames] := by
    refine ⟨.inl rfl, ?_⟩
    rintro _ _ step
    cases built.symm.trans step
    refine ⟨?_, fun _ _ _ => trivial⟩
    intro data member
    rcases List.mem_append.mp member with noise | last
    · exact .inl (d.strangers data noise)
    · rw [List.mem_singleton.mp last]
      exact .inr ⟨_, List.mem_singleton.mpr rfl, d.carries⟩
  exact ⟨_, ran, (tags_agree start ⟨fun _ => rfl, fun _ => rfl⟩ _ _ _ ran fair).1⟩

end Kpnet.Sctp
