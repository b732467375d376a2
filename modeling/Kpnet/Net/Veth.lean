import Kpnet.Lib.Attributes
import Kpnet.Lib.Cleared

/-!
# The request for a pair of interfaces

`create_veth_pair.c` writes an RTM_NEWLINK request into a cleared buffer, with attributes in
attributes and every length added up by hand. The attributes come out right; the length of the whole
counts the kind of the link twice.
-/
namespace Kpnet.Net

open Bytes Attributes

def iflaIfname : UInt16 := 3

def iflaLinkinfo : UInt16 := 18

def iflaInfoKind : UInt16 := 1

def iflaInfoData : UInt16 := 2

/-- The type of `pinfi`. -/
def vethInfoPeer : UInt16 := 1

/-- `nlmsg_len`. -/
def nlmsgLen (m : Bytes) : Nat := (u32 m 0).toNat

def setNlmsgLen (m : Bytes) (len : Nat) : Bytes := put m 0 (le32 (UInt32.ofNat len))

/-- `rta_len` of an attribute. -/
def rtaLen (m : Bytes) (rta : Nat) : Nat := (u16 m rta).toNat

def setRtaLen (m : Bytes) (rta len : Nat) : Bytes := put m rta (le16 (UInt16.ofNat len))

/-- Both fields of a `struct rtattr`. -/
def putRta (m : Bytes) (rta len : Nat) (type : UInt16) : Bytes :=
  put m rta (le16 (UInt16.ofNat len) ++ le16 type)

/-- `RTA_LENGTH`. -/
def rtaLength (len : Nat) : Nat := 4 + len

/-- The fields of a `struct nlmsghdr` behind its length. -/
def nlmsgFields (pid : UInt32) : List UInt8 := le16 16 ++ (le16 0x605 ++ (le32 1 ++ le32 pid))

/-- A `struct ifinfomsg` that is clear but for its family. -/
def ifinfomsg (family : UInt8) : List UInt8 :=
  [family, 0] ++ (le16 0 ++ (le32 0 ++ (le32 0 ++ le32 0)))

/-- The kind of the link, with its null character. -/
def veth : List UInt8 := [118, 101, 116, 104, 0]

/-- The header of the request and the name of the interface. -/
def putIfname (pid : UInt32) (src : List UInt8) (m : Bytes) : Bytes :=
  let m := put m 0 (le32 32 ++ nlmsgFields pid)
  let ifinfo := 16
  let m := put m ifinfo (ifinfomsg 2)
  let rta := ifinfo + 16
  let m := putRta m rta (rtaLength (src.length + 1)) iflaIfname
  let m := setNlmsgLen m (nlmsgLen m + rtaLen m rta)
  put m (rta + 4) (src ++ [0])

/-- `linkinfo` and its first child, with `linkinfo` and `nfdata`. -/
def putLinkinfo (m : Bytes) : Bytes × Nat × Nat :=
  let linkinfo := align (nlmsgLen m)
  let m := putRta m linkinfo (rtaLength 0) iflaLinkinfo
  let m := setNlmsgLen m (align (nlmsgLen m) + rtaLen m linkinfo)
  let rta := linkinfo + rtaLen m linkinfo
  let m := putRta m rta (rtaLength 5) iflaInfoKind
  let m := setRtaLen m linkinfo (rtaLen m linkinfo + align (rtaLen m rta))
  -- the kind is counted here, and once more with `linkinfo` at the end
  let m := setNlmsgLen m (nlmsgLen m + align (rtaLen m rta))
  let m := put m (rta + 4) veth
  (m, linkinfo, rta + align (rtaLen m rta))

/-- `nfdata`, the peer in it, and the peer's name. -/
def putPeer (nfdata : Nat) (dst : List UInt8) (m : Bytes) : Bytes :=
  let m := putRta m nfdata (rtaLength 0) iflaInfoData
  let pinfi := nfdata + rtaLength 0
  let m := putRta m pinfi (rtaLength 16) vethInfoPeer
  let ifpifi := pinfi + 4
  let m := put m ifpifi (ifinfomsg 0)
  let pinaatr := ifpifi + align 16
  let m := putRta m pinaatr (rtaLength (dst.length + 1)) iflaIfname
  put m (pinaatr + 4) (dst ++ [0])

/-- The lengths, from the inside out. -/
def closeLengths (linkinfo nfdata : Nat) (m : Bytes) : Bytes :=
  let pinfi := nfdata + rtaLength 0
  let pinaatr := pinfi + 4 + align 16
  let m := setRtaLen m pinfi (rtaLen m pinfi + align (rtaLen m pinaatr))
  let m := setRtaLen m nfdata (rtaLen m nfdata + align (rtaLen m pinfi))
  let m := setRtaLen m linkinfo (rtaLen m linkinfo + align (rtaLen m nfdata))
  -- the children of `linkinfo` up to here are in `nlmsg_len` already
  setNlmsgLen m (align (nlmsgLen m) + align (rtaLen m linkinfo) - rtaLength 0)

/-- `create_veth_pair`: the request in the buffer that `calloc` returned, of which `nlmsg_len` bytes
are sent. The names come without their null characters. -/
def createVethPair (pid : UInt32) (src dst : List UInt8) (m : Bytes) : Bytes :=
  let (m, linkinfo, nfdata) := putLinkinfo (putIfname pid src m)
  closeLengths linkinfo nfdata (putPeer nfdata dst m)

@[simp] theorem length_nlmsgFields (pid : UInt32) : (nlmsgFields pid).length = 12 := by
  simp [nlmsgFields]

@[simp] theorem length_ifinfomsg (family : UInt8) : (ifinfomsg family).length = 16 := by
  simp [ifinfomsg]

section Fields

variable {n : Nat} {m : Bytes} {fields : List (List UInt8)} {len k : Nat}

theorem nlmsgLen_eq (cleared : Cleared n m (le32 (UInt32.ofNat k) :: fields)) (small : k < 2 ^ 32) :
    nlmsgLen m = k := by
  rw [nlmsgLen, cleared.u32_eq 0 0 rfl rfl, UInt32.toNat_ofNat_of_lt' small]

theorem set_nlmsgLen (cleared : Cleared n m (le32 (UInt32.ofNat k) :: fields)) (len : Nat) :
    Cleared n (setNlmsgLen m len) (le32 (UInt32.ofNat len) :: fields) :=
  cleared.patch 0 0 rfl rfl (by simp)

theorem rtaLen_eq (cleared : Cleared n m fields) (i o : Nat)
    (found : fields[i]? = some (le16 (UInt16.ofNat k))) (place : (fields.take i).flatten.length = o)
    (small : k < 2 ^ 16) : rtaLen m o = k := by
  rw [rtaLen, cleared.u16_eq i o found place, UInt16.toNat_ofNat_of_lt' small]

theorem set_rtaLen (cleared : Cleared n m fields) (i o : Nat)
    (found : fields[i]? = some (le16 (UInt16.ofNat k))) (place : (fields.take i).flatten.length = o)
    (len : Nat) : Cleared n (setRtaLen m o len) (fields.set i (le16 (UInt16.ofNat len))) :=
  cleared.patch i o found place (by simp)

theorem put_rta (cleared : Cleared n m fields) (o : Nat) (place : fields.flatten.length = o)
    (len : Nat) (type : UInt16) :
    Cleared n (putRta m o len type) (fields ++ [le16 (UInt16.ofNat len), le16 type]) :=
  (cleared.write o place _).congr (by simp)

end Fields

section Stages

variable {m : Bytes} {dst base rest : List UInt8}

/-- The request with the name of the interface. -/
theorem putIfname_spec (cleared : Cleared 4096 m []) (pid : UInt32) (src : List UInt8)
    (short : src.length < 4096) :
    Cleared 4096 (putIfname pid src m) [le32 (UInt32.ofNat (32 + rtaLength (src.length + 1))),
      nlmsgFields pid, ifinfomsg 2, le16 (UInt16.ofNat (rtaLength (src.length + 1))),
      le16 iflaIfname, src ++ [0]] := by
  have small : rtaLength (src.length + 1) < 2 ^ 16 := by
    unfold rtaLength
    omega
  unfold putIfname
  dsimp only
  have header : Cleared 4096 (put m 0 (le32 32 ++ nlmsgFields pid))
      [le32 (UInt32.ofNat 32), nlmsgFields pid] :=
    (cleared.write 0 rfl _).congr (by simp)
  have info := header.write 16 (by simp) (ifinfomsg 2)
  have name := put_rta info 32 (by simp) (rtaLength (src.length + 1)) iflaIfname
  rw [nlmsgLen_eq name (by decide), rtaLen_eq name 3 32 rfl (by simp) small]
  exact (set_nlmsgLen name _).write 36 (by simp) (src ++ [0])

/-- The link with its kind; all that is before it counts as one field. -/
theorem putLinkinfo_spec {len : Nat} (cleared : Cleared 4096 m [le32 (UInt32.ofNat len), base])
    (whole : 4 + base.length = align len) (small : len < 2 ^ 16) :
    Cleared 4096 (putLinkinfo m).1 [le32 (UInt32.ofNat (align len + 4 + 12)), base,
      le16 (UInt16.ofNat (4 + 12)), le16 iflaLinkinfo, le16 (UInt16.ofNat 9), le16 iflaInfoKind,
      veth] ∧
    (putLinkinfo m).2 = (align len, align len + 4 + 12) := by
  have bound := (le_align len).2.1
  have header : rtaLength 0 = 4 := rfl
  have kind : align 9 = 12 := rfl
  unfold putLinkinfo
  dsimp only
  rw [nlmsgLen_eq cleared (by omega), header]
  -- the stores one after the other, each with the loads that come before the next
  have link := put_rta cleared (align len) (by simpa using whole) 4 iflaLinkinfo
  rw [nlmsgLen_eq link (by omega),
    rtaLen_eq link 2 (align len) rfl (by simpa using whole) (by decide)]
  have grown := set_nlmsgLen link (align len + 4)
  rw [rtaLen_eq grown 2 (align len) rfl (by simpa using whole) (by decide)]
  have child := put_rta grown (align len + 4) (by simp; omega) (rtaLength 5) iflaInfoKind
  rw [rtaLen_eq child 2 (align len) rfl (by simpa using whole) (by decide),
    rtaLen_eq child 4 (align len + 4) rfl (by simp; omega) (by decide)]
  have nested := set_rtaLen child 2 (align len) rfl (by simpa using whole) (4 + align (rtaLength 5))
  rw [nlmsgLen_eq nested (by omega), rtaLen_eq nested 4 (align len + 4) rfl (by simp; omega)
    (by decide)]
  have longer := set_nlmsgLen nested (align len + 4 + align (rtaLength 5))
  have named := longer.write (align len + 4 + 4) (by simp; omega) veth
  rw [rtaLen_eq named 4 (align len + 4) rfl (by simp; omega) (by decide)]
  exact ⟨named, rfl⟩

/-- The peer, behind all that was written before. -/
theorem putPeer_spec {fields : List (List UInt8)} (cleared : Cleared 4096 m fields) (nfdata : Nat)
    (place : fields.flatten.length = nfdata) (dst : List UInt8) :
    Cleared 4096 (putPeer nfdata dst m) (fields ++ [le16 (UInt16.ofNat 4), le16 iflaInfoData,
      le16 (UInt16.ofNat 20), le16 vethInfoPeer, ifinfomsg 0,
      le16 (UInt16.ofNat (rtaLength (dst.length + 1))), le16 iflaIfname, dst ++ [0]]) := by
  subst place
  have data := put_rta cleared _ rfl 4 iflaInfoData
  have peer := put_rta data (fields.flatten.length + 4) (by simp) 20 vethInfoPeer
  have info := peer.write (fields.flatten.length + 4 + 4) (by simp) (ifinfomsg 0)
  have name := put_rta info (fields.flatten.length + 4 + 4 + 16) (by simp)
    (rtaLength (dst.length + 1)) iflaIfname
  have named := name.write (fields.flatten.length + 4 + 4 + 16 + 4) (by simp) (dst ++ [0])
  exact named.congr (by simp)

/-- The lengths at the end. The one of the whole is too large by the kind of the link. -/
theorem closeLengths_spec (place data width : Nat) (cleared : Cleared 4096 m
      [le32 (UInt32.ofNat (place + 4 + 12)), base, le16 (UInt16.ofNat (4 + 12)), le16 iflaLinkinfo,
        rest, le16 (UInt16.ofNat 4), le16 iflaInfoData, le16 (UInt16.ofNat 20), le16 vethInfoPeer,
        ifinfomsg 0, le16 (UInt16.ofNat width), le16 iflaIfname, dst ++ [0]])
    (start : 4 + base.length = place) (kind : place + 4 + rest.length = data)
    (aligned : place % 4 = 0) (small : place + width < 2 ^ 15) :
    Cleared 4096 (closeLengths place data m)
      [le32 (UInt32.ofNat (place + 52 + align width)), base, le16 (UInt16.ofNat (40 + align width)),
        le16 iflaLinkinfo, rest, le16 (UInt16.ofNat (24 + align width)), le16 iflaInfoData,
        le16 (UInt16.ofNat (20 + align width)), le16 vethInfoPeer, ifinfomsg 0,
        le16 (UInt16.ofNat width), le16 iflaIfname, dst ++ [0]] := by
  have bound := le_align width
  have header : rtaLength 0 = 4 := rfl
  have gap : align 16 = 16 := rfl
  unfold closeLengths
  dsimp only
  rw [header, gap, rtaLen_eq cleared 7 (data + 4) rfl (by simp; omega) (by decide),
    rtaLen_eq cleared 10 (data + 4 + 4 + 16) rfl (by simp; omega) (by omega)]
  -- each container takes the length of its child, which is aligned already
  have peer := set_rtaLen cleared 7 (data + 4) rfl (by simp; omega) (20 + align width)
  rw [rtaLen_eq peer 5 data rfl (by simp; omega) (by decide),
    rtaLen_eq peer 7 (data + 4) rfl (by simp; omega) (by omega),
    align_eq (n := 20 + align width) (by omega)]
  have nested := set_rtaLen peer 5 data rfl (by simp; omega) (4 + (20 + align width))
  rw [rtaLen_eq nested 2 place rfl (by simpa using start) (by decide),
    rtaLen_eq nested 5 data rfl (by simp; omega) (by omega),
    align_eq (n := 4 + (20 + align width)) (by omega)]
  have link := set_rtaLen nested 2 place rfl (by simpa using start)
    (4 + 12 + (4 + (20 + align width)))
  rw [nlmsgLen_eq link (by omega), rtaLen_eq link 2 place rfl (by simpa using start) (by omega),
    align_eq (n := place + 4 + 12) (by omega),
    align_eq (n := 4 + 12 + (4 + (20 + align width))) (by omega)]
  have total := set_nlmsgLen link
    (place + 4 + 12 + (4 + 12 + (4 + (20 + align width))) - 4)
  have sum : place + 4 + 12 + (4 + 12 + (4 + (20 + align width))) - 4 = place + 52 + align width := by
    omega
  have outer : 4 + 12 + (4 + (20 + align width)) = 40 + align width := by omega
  have inner : 4 + (20 + align width) = 24 + align width := by omega
  rw [sum, outer, inner] at total
  rw [sum, outer, inner]
  exact total

end Stages

/-- The attributes of a request, from the inside out. -/
def peerName (dst : List UInt8) : Attribute := ⟨iflaIfname, dst ++ [0]⟩

def peerInfo (dst : List UInt8) : Attribute :=
  ⟨vethInfoPeer, ifinfomsg 0 ++ encodeAll [peerName dst]⟩

def infoData (dst : List UInt8) : Attribute := ⟨iflaInfoData, encodeAll [peerInfo dst]⟩

def infoKind : Attribute := ⟨iflaInfoKind, veth⟩

def linkinfo (dst : List UInt8) : Attribute := ⟨iflaLinkinfo, encodeAll [infoKind, infoData dst]⟩

def ifname (src : List UInt8) : Attribute := ⟨iflaIfname, src ++ [0]⟩

section Lengths

variable (src dst : List UInt8)

theorem length_ifname : (ifname src).length = rtaLength (src.length + 1) := by
  simp [ifname, Attribute.length, rtaLength]

theorem length_peerName : (peerName dst).length = rtaLength (dst.length + 1) := by
  simp [peerName, Attribute.length, rtaLength]

theorem length_peerInfo : (peerInfo dst).length = 20 + align (peerName dst).length := by
  rw [peerInfo, Attribute.length, List.length_append, length_encodeAll_cons, length_ifinfomsg]
  simp [encodeAll]
  omega

theorem length_infoData : (infoData dst).length = 24 + align (peerName dst).length := by
  have bound := le_align (peerName dst).length
  rw [infoData, Attribute.length, length_encodeAll_cons, length_peerInfo,
    align_eq (n := 20 + align (peerName dst).length) (by omega)]
  simp [encodeAll]
  omega

theorem length_linkinfo : (linkinfo dst).length = 40 + align (peerName dst).length := by
  have bound := le_align (peerName dst).length
  have kind : align infoKind.length = 12 := rfl
  rw [linkinfo, Attribute.length, length_encodeAll_cons, length_encodeAll_cons, length_infoData, kind,
    align_eq (n := 24 + align (peerName dst).length) (by omega)]
  simp [encodeAll]
  omega

end Lengths

theorem encode_ifname (src : List UInt8) :
    (ifname src).encode = le16 (UInt16.ofNat (rtaLength (src.length + 1))) ++ (le16 iflaIfname ++
      ((src ++ [0]) ++ zeros (align (ifname src).length - (ifname src).length))) := by
  rw [Attribute.encode, length_ifname]
  rfl

theorem encode_peerName (dst : List UInt8) :
    (peerName dst).encode = le16 (UInt16.ofNat (rtaLength (dst.length + 1))) ++ (le16 iflaIfname ++
      ((dst ++ [0]) ++ zeros (align (peerName dst).length - (peerName dst).length))) := by
  rw [Attribute.encode, length_peerName]
  rfl

theorem encode_linkinfo (dst : List UInt8) :
    (linkinfo dst).encode = le16 (UInt16.ofNat (40 + align (peerName dst).length)) ++
      (le16 iflaLinkinfo ++ (infoKind.encode ++
      (le16 (UInt16.ofNat (24 + align (peerName dst).length)) ++ (le16 iflaInfoData ++
      (le16 (UInt16.ofNat (20 + align (peerName dst).length)) ++ (le16 vethInfoPeer ++
      (ifinfomsg 0 ++ (peerName dst).encode))))))) := by
  have bound := le_align (peerName dst).length
  have link := length_linkinfo dst
  have data := length_infoData dst
  have peer := length_peerInfo dst
  rw [Attribute.encode_whole (a := linkinfo dst) (by omega), link]
  simp only [linkinfo, encodeAll, List.flatMap_cons, List.flatMap_nil, List.append_nil]
  rw [Attribute.encode_whole (a := infoData dst) (by omega), data]
  simp only [infoData, encodeAll, List.flatMap_cons, List.flatMap_nil, List.append_nil]
  rw [Attribute.encode_whole (a := peerInfo dst) (by omega), peer]
  simp only [peerInfo, encodeAll, List.flatMap_cons, List.flatMap_nil, List.append_nil]

theorem align_ifname (src : List UInt8) :
    align (ifname src).length = align (37 + src.length) - 32 := by
  have header : rtaLength (src.length + 1) = 5 + src.length := by
    unfold rtaLength
    omega
  rw [length_ifname, header]
  unfold align
  omega

theorem length_attributes (src dst : List UInt8) :
    (encodeAll [ifname src, linkinfo dst]).length =
      align (37 + src.length) + 8 + align (peerName dst).length := by
  have start := le_align (37 + src.length)
  have behind := le_align (peerName dst).length
  rw [length_encodeAll_cons, length_encodeAll_cons, length_linkinfo, align_ifname,
    align_eq (n := 40 + align (peerName dst).length) (by omega)]
  simp [encodeAll]
  omega

/-- Up to `linkinfo`, with the filling behind the name. -/
theorem putIfname_encoded {m : Bytes} (cleared : Cleared 4096 m []) (pid : UInt32)
    (src : List UInt8) (short : align (37 + src.length) ≤ 4096) :
    Cleared 4096 (putIfname pid src m) [le32 (UInt32.ofNat (37 + src.length)),
      nlmsgFields pid ++ (ifinfomsg 2 ++ (ifname src).encode)] := by
  have start := le_align (37 + src.length)
  have length := length_ifname src
  have filled := align_ifname src
  have header : rtaLength (src.length + 1) = 5 + src.length := by
    unfold rtaLength
    omega
  have written := (putIfname_spec cleared pid src (by omega)).skip
    (align (ifname src).length - (ifname src).length) (by simp; omega)
  have head : 32 + rtaLength (src.length + 1) = 37 + src.length := by omega
  apply written.congr
  rw [encode_ifname, head]
  simp [zeros]

/-- Up to `nfdata`, with the filling behind the kind. -/
theorem putLinkinfo_encoded {m : Bytes} {base : List UInt8} {len : Nat}
    (cleared : Cleared 4096 m [le32 (UInt32.ofNat len), base])
    (whole : 4 + base.length = align len) (room : align len + 4 + 12 ≤ 4096) :
    Cleared 4096 (putLinkinfo m).1 [le32 (UInt32.ofNat (align len + 4 + 12)), base,
      le16 (UInt16.ofNat (4 + 12)), le16 iflaLinkinfo, infoKind.encode] := by
  have start := le_align len
  have linked := (putLinkinfo_spec cleared whole (by omega)).1
  have written := linked.skip 3 (by simp [veth]; omega)
  have encoded : infoKind.encode = le16 (UInt16.ofNat 9) ++
      (le16 iflaInfoKind ++ (veth ++ List.replicate 3 0)) := rfl
  apply written.congr
  rw [encoded]
  simp

/-- The request that is written: its attributes, and 12 bytes more that it counts. -/
theorem createVethPair_spec {m : Bytes} (cleared : Cleared 4096 m []) (pid : UInt32)
    (src dst : List UInt8) (fits : align (37 + src.length) + 45 + dst.length ≤ 4096) :
    Cleared 4096 (createVethPair pid src dst m)
      [le32 (UInt32.ofNat (32 + (encodeAll [ifname src, linkinfo dst]).length + 12)), nlmsgFields pid,
        ifinfomsg 2, encodeAll [ifname src, linkinfo dst]] := by
  have start := le_align (37 + src.length)
  have behind := le_align (peerName dst).length
  have length := length_peerName dst
  have filled := align_ifname src
  have width : (peerName dst).length = 5 + dst.length := by
    rw [length]
    unfold rtaLength
    omega
  have named := putIfname_encoded cleared pid src (by omega)
  have whole : 4 + (nlmsgFields pid ++ (ifinfomsg 2 ++ (ifname src).encode)).length =
      align (37 + src.length) := by
    simp
    omega
  have places := (putLinkinfo_spec named whole (by omega)).2
  have kind := putLinkinfo_encoded named whole (by omega)
  unfold createVethPair
  generalize putLinkinfo (putIfname pid src m) = result at kind places ⊢
  obtain ⟨m', place, data⟩ := result
  cases places
  dsimp only at kind ⊢
  have wide : align infoKind.length = 12 := rfl
  have peer := putPeer_spec kind (align (37 + src.length) + 4 + 12) (by simp; omega) dst
  have closed := closeLengths_spec (align (37 + src.length)) (align (37 + src.length) + 4 + 12) _
    peer whole (by simp; omega) (by omega) (by omega)
  -- the filling behind the name of the peer fits, since all the rest is aligned
  have written := closed.skip (align (peerName dst).length - (peerName dst).length)
    (by simp [wide, filled, ← Nat.add_assoc]; omega)
  have sum : 32 + (align (37 + src.length) + 8 + align (peerName dst).length) + 12 =
      align (37 + src.length) + 52 + align (peerName dst).length := by omega
  apply written.congr
  rw [length_attributes, sum, encodeAll, List.flatMap_cons, List.flatMap_cons, List.flatMap_nil,
    encode_linkinfo, encode_peerName, ← length]
  simp [zeros]

/-- The first `len` bytes are a request for a link `src` of the kind veth with the peer `dst`: every
container holds the attributes that it should, and nothing else. -/
def Requests (m : Bytes) (len : Nat) (src dst : List UInt8) : Prop :=
  ∃ link data peer,
    parse (slice m 32 (len - 32)) =
      some [⟨iflaIfname, src ++ [0]⟩, ⟨iflaLinkinfo, link⟩] ∧
    parse link = some [⟨iflaInfoKind, veth⟩, ⟨iflaInfoData, data⟩] ∧
    parse data = some [⟨vethInfoPeer, ifinfomsg 0 ++ peer⟩] ∧
    parse peer = some [⟨iflaIfname, dst ++ [0]⟩]

section Request

variable {src dst : List UInt8}

theorem requests_of_parse {m : Bytes} {len : Nat}
    (parsed : parse (slice m 32 (len - 32)) = some [ifname src, linkinfo dst])
    (small : (linkinfo dst).length < 65536) : Requests m len src dst := by
  have link := length_linkinfo dst
  have data := length_infoData dst
  have peer := length_peerInfo dst
  have name := (le_align (peerName dst).length).1
  refine ⟨encodeAll [infoKind, infoData dst], encodeAll [peerInfo dst], encodeAll [peerName dst],
    parsed, ?_, ?_, ?_⟩
  · apply parse_encodeAll
    simp only [List.forall_mem_cons]
    exact ⟨by decide, by omega, List.forall_mem_nil _⟩
  · apply parse_encodeAll
    simp only [List.forall_mem_cons]
    exact ⟨by omega, List.forall_mem_nil _⟩
  · apply parse_encodeAll
    simp only [List.forall_mem_cons]
    exact ⟨by omega, List.forall_mem_nil _⟩

theorem short_of_fits (fits : align (37 + src.length) + 45 + dst.length ≤ 4096) :
    (linkinfo dst).length < 65536 ∧ (ifname src).length < 65536 := by
  have start := (le_align (37 + src.length)).1
  have behind := (le_align (peerName dst).length).2.1
  rw [length_linkinfo, length_ifname]
  rw [length_peerName] at behind ⊢
  unfold rtaLength at behind ⊢
  omega

theorem length_attributes_lt (fits : align (37 + src.length) + 45 + dst.length ≤ 4096) :
    (encodeAll [ifname src, linkinfo dst]).length < 4096 := by
  have behind := (le_align (peerName dst).length).2.1
  rw [length_attributes]
  rw [length_peerName] at behind ⊢
  unfold rtaLength at behind ⊢
  omega

theorem attributes_small (small : (linkinfo dst).length < 65536 ∧ (ifname src).length < 65536) :
    ∀ a ∈ [ifname src, linkinfo dst], a.length < 65536 := by
  simp only [List.forall_mem_cons]
  exact ⟨small.2, small.1, List.forall_mem_nil _⟩

/-- No message that goes on behind the attributes is a request. -/
theorem not_requests_of_longer {m : Bytes} (len n : Nat) (more : 0 < n)
    (written : slice m 32 (len - 32) = encodeAll [ifname src, linkinfo dst])
    (small : (linkinfo dst).length < 65536 ∧ (ifname src).length < 65536) (start : 32 ≤ len) :
    ¬Requests m (len + n) src dst := by
  rintro ⟨link, data, peer, outer, inner, -⟩
  have reach : len + n - 32 = len - 32 + n := by omega
  have rest : slice m (32 + (len - 32)) n ≠ [] := by
    intro empty
    have length := length_slice m (32 + (len - 32)) n
    rw [empty] at length
    exact more.ne length
  rw [reach, slice_add, written, parse_encodeAll_append _ (attributes_small small)] at outer
  obtain ⟨others, parsed, joined⟩ := Option.map_eq_some_iff.mp outer
  -- two attributes are there already, so that no other is left to be parsed
  have count := congrArg List.length joined
  have none : others = [] := by
    apply List.eq_nil_of_length_eq_zero
    rw [List.length_append] at count
    simpa using count
  rw [none, parse_eq_some_nil_iff] at parsed
  exact rest parsed

end Request

/-- For any two names that fit: the request is written as it should be, every container with its
children and no more, but the length that is sent reaches 12 bytes behind the last attribute, and
what is sent is never a request. -/
theorem veth_request_length_wrong (pid : UInt32) (src dst : List UInt8) (m : Bytes)
    (calloc : ∀ i < 4096, m i = 0) (fits : align (37 + src.length) + 45 + dst.length ≤ 4096) :
    Requests (createVethPair pid src dst m) (nlmsgLen (createVethPair pid src dst m) - 12) src dst ∧
    ¬Requests (createVethPair pid src dst m) (nlmsgLen (createVethPair pid src dst m)) src dst := by
  have cleared : Cleared 4096 m [] := ⟨rfl, fun i _ inside => calloc i inside⟩
  have message := createVethPair_spec cleared pid src dst fits
  have small := short_of_fits fits
  have total := length_attributes_lt fits
  have attributes := message.slice_eq 3 32 rfl (by simp)
  rw [nlmsgLen_eq message (by omega)]
  have cut : slice (createVethPair pid src dst m) 32
      (32 + (encodeAll [ifname src, linkinfo dst]).length - 32) =
      encodeAll [ifname src, linkinfo dst] := by
    rw [Nat.add_sub_cancel_left, attributes]
  constructor
  · rw [Nat.add_sub_cancel]
    apply requests_of_parse _ small.1
    rw [cut]
    exact parse_encodeAll _ (attributes_small small)
  · exact not_requests_of_longer _ 12 (by decide) cut small (by omega)

/-- `CLIENT_INAME` and `SERVER_INAME`. -/
def clientIname : List UInt8 := [108, 105, 98, 107, 112, 110, 101, 116, 95, 99]

def serverIname : List UInt8 := [108, 105, 98, 107, 112, 110, 101, 116, 95, 115]

theorem veth_request_length_wrong_libkpnet :
    Requests (createVethPair 1 clientIname serverIname fun _ => 0)
      (nlmsgLen (createVethPair 1 clientIname serverIname fun _ => 0) - 12) clientIname serverIname ∧
    ¬Requests (createVethPair 1 clientIname serverIname fun _ => 0)
      (nlmsgLen (createVethPair 1 clientIname serverIname fun _ => 0)) clientIname serverIname :=
  veth_request_length_wrong 1 clientIname serverIname (fun _ => 0) (fun _ _ => rfl) (by decide)

/-- The pair that the program makes: 116 bytes are sent for a request of 104. -/
theorem libkpnet_request_too_long :
    nlmsgLen (createVethPair 1 clientIname serverIname fun _ => 0) = 116 ∧
    ¬Requests (createVethPair 1 clientIname serverIname fun _ => 0) 116 clientIname serverIname := by
  have fits : align (37 + clientIname.length) + 45 + serverIname.length ≤ 4096 := by decide
  have message := createVethPair_spec (m := fun _ => 0) ⟨rfl, fun _ _ _ => rfl⟩ 1 clientIname
    serverIname fits
  have length : (encodeAll [ifname clientIname, linkinfo serverIname]).length = 72 := rfl
  have attributes := message.slice_eq 3 32 rfl (by simp)
  rw [length] at attributes
  constructor
  · rw [nlmsgLen_eq message (by rw [length]; decide), length]
  · exact not_requests_of_longer 104 12 (by decide) attributes (short_of_fits fits) (by decide)

end Kpnet.Net
