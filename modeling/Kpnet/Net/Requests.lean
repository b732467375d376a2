import Kpnet.Net.Veth
import Kpnet.Sctp.AssocBlocks

/-!
# Questions to the kernel

`get_ifid.c` and `get_iftype.c` ask for an interface by its name, and `bind_if.c` for an address on
one; `get_iftype` then looks for an attribute of the answer. The lengths in an answer are taken from
the answer, so the search is followed through whatever the buffer holds.
-/
namespace Kpnet.Net

open Bytes Attributes

def iflaAddress : UInt16 := 1

def ifaAddress : UInt16 := 1

def ifaLocal : UInt16 := 2

/-- The fields of a `struct nlmsghdr` behind its length, with the sequence number 1. -/
def nlmsghdr (type flags : UInt16) (pid : UInt32) : List UInt8 :=
  le16 type ++ (le16 flags ++ (le32 1 ++ le32 pid))

/-- The `struct ifinfomsg` of a question: family, filling, type, index, flags and change. -/
def linkinfomsg : List UInt8 := [0, 0] ++ (le16 1 ++ (le32 0 ++ (le32 0 ++ le32 0)))

/-- The `struct ifaddrmsg` for a local address with 24 bits of network. -/
def ifaddrmsg (index : UInt32) : List UInt8 := [2, 24, 0, 0] ++ le32 index

/-- The request of `get_ifid` and `get_iftype`, in the buffer that `calloc` returned. The name comes
without its null character. -/
def getlink (pid : UInt32) (name : List UInt8) (m : Bytes) : Bytes :=
  let m := put m 0 (le32 32 ++ nlmsghdr 18 5 pid)
  let ifinfo := 16
  let m := put m ifinfo linkinfomsg
  let rta := ifinfo + 16
  let m := putRta m rta (rtaLength (name.length + 1)) iflaIfname
  let m := setNlmsgLen m (nlmsgLen m + rtaLen m rta)
  put m (rta + 4) (name ++ [0])

/-- `bind_if`: the address is given twice, as the own one and as that of the interface. -/
def bindIf (pid index ip : UInt32) (m : Bytes) : Bytes :=
  let m := put m 0 (le32 24 ++ nlmsghdr 20 0x405 pid)
  let ifa := 16
  let m := put m ifa (ifaddrmsg index)
  let rta := ifa + 8
  let m := putRta m rta (rtaLength 4) ifaLocal
  let m := put m (rta + 4) (le32 ip)
  let m := setNlmsgLen m (nlmsgLen m + align (rtaLen m rta))
  let rta := align (nlmsgLen m)
  let m := putRta m rta (rtaLength 4) ifaAddress
  let m := put m (rta + 4) (le32 ip)
  setNlmsgLen m (nlmsgLen m + align (rtaLen m rta))

/-- `IFLA_PAYLOAD`, as it is stored in the `int` `rlen`. -/
def iflaPayload (resp : Bytes) : Int := (u32 resp 0 - 32).toInt32.toInt

/-- `RTA_OK`. -/
def rtaOk (m : Bytes) (rta : Nat) (rlen : Int) : Prop :=
  4 ≤ rlen ∧ 4 ≤ rtaLen m rta ∧ (rtaLen m rta : Int) ≤ rlen

instance (m : Bytes) (rta : Nat) (rlen : Int) : Decidable (rtaOk m rta rlen) :=
  inferInstanceAs (Decidable (_ ∧ _))

/-- The loop of `get_iftype`, up to an attribute of the type; `rlen` may end up below 0. -/
def findRta (m : Bytes) (type : UInt16) : Nat → Nat → Int → Option Nat
  | 0, _, _ => none
  | fuel + 1, rta, rlen =>
    if rtaOk m rta rlen then
      if u16 m (rta + 2) = type then some rta
      else findRta m type fuel (rta + align (rtaLen m rta)) (rlen - align (rtaLen m rta))
    else none

/-- `get_iftype` on the answer: its result, and what it leaves behind `buf`. -/
def getIftype (type buflen : UInt16) (resp buf : Bytes) : Int × Bytes :=
  let rlen := iflaPayload resp
  match findRta resp type (rlen.toNat + 1) 32 rlen with
  | none => (1, buf)
  | some rta =>
    let len := rtaLen resp rta - rtaLength 0
    if buflen.toNat < len then (-1, buf) else (len, put buf 0 (slice resp (rta + 4) len))

/-- `get_ifmac`. -/
def getIfmac (resp mac : Bytes) : Bool × Bytes :=
  let (r, mac) := getIftype iflaAddress 6 resp mac
  (decide (r < 6), mac)

/-- The first bytes of a buffer, as many as they say themselves, are this message. -/
def Asks (m : Bytes) (fields : List UInt8) (as : List Attribute) : Prop :=
  slice m 4 fields.length = fields ∧
    parse (slice m (4 + fields.length) (nlmsgLen m - (4 + fields.length))) = some as

section Search

variable (m : Bytes) (type : UInt16)

/-- The macros read off the same attribute as the scanner. -/
theorem scan_slice (rta n : Nat) : scan (slice m rta n) =
    if 4 ≤ n ∧ 4 ≤ rtaLen m rta ∧ rtaLen m rta ≤ n then
      ⟨u16 m (rta + 2), slice m (rta + 4) (rtaLen m rta - rtaLength 0)⟩ ::
        scan (slice m (rta + align (rtaLen m rta)) (n - align (rtaLen m rta)))
    else [] := by
  rw [scan, length_slice]
  by_cases short : n < 4
  · rw [if_pos short, if_neg (by omega)]
  · have length : word ((slice m rta n).take 2) = rtaLen m rta := by
      have field := take_drop_slice m rta n 0 2 (by omega)
      rw [List.drop_zero, Nat.add_zero] at field
      rw [field, rtaLen, toNat_u16]
    rw [if_neg short]
    simp only [length]
    by_cases bad : rtaLen m rta < 4 ∨ n < rtaLen m rta
    · rw [if_pos bad, if_neg (by omega)]
    · have payload : rtaLength 0 = 4 := rfl
      rw [if_neg bad, if_pos (by omega), take_drop_slice m rta n 2 2 (by omega),
        take_drop_slice m rta n 4 _ (by omega), drop_slice, payload, u16]

/-- The loop finds the first attribute of its type among those that fit. -/
theorem findRta_eq_find (fuel rta : Nat) (rlen : Int) (enough : rlen.toNat < fuel) :
    ((findRta m type fuel rta rlen).map fun p =>
        (⟨type, slice m (p + 4) (rtaLen m p - rtaLength 0)⟩ : Attribute)) =
      (scan (slice m rta rlen.toNat)).find? fun a => a.type = type := by
  induction fuel generalizing rta rlen with
  | zero => omega
  | succ fuel ih =>
    have above := le_align (rtaLen m rta)
    rw [findRta, scan_slice]
    by_cases ok : rtaOk m rta rlen
    · obtain ⟨four, header, inside⟩ := ok
      have fits : 4 ≤ rlen.toNat ∧ 4 ≤ rtaLen m rta ∧ rtaLen m rta ≤ rlen.toNat := by omega
      rw [if_pos ⟨four, header, inside⟩, if_pos fits, List.find?_cons]
      by_cases found : u16 m (rta + 2) = type
      · rw [if_pos found]
        simp [found]
      · -- the next one is behind the filling of this one
        have rest : (rlen - align (rtaLen m rta)).toNat = rlen.toNat - align (rtaLen m rta) := by
          omega
        rw [if_neg found, ih _ _ (by omega), rest]
        simp [found]
    · have stops : ¬(4 ≤ rlen.toNat ∧ 4 ≤ rtaLen m rta ∧ rtaLen m rta ≤ rlen.toNat) := by
        unfold rtaOk at ok
        omega
      rw [if_neg ok, if_neg stops]
      rfl

end Search

/-- The answer of any length and with any bytes: of the attributes up to the first that does not fit,
the first of its type is copied if the buffer is large enough for it, and nothing else is stored. -/
theorem getIftype_spec (type buflen : UInt16) (resp buf : Bytes) :
    getIftype type buflen resp buf =
      match (scan (slice resp 32 (iflaPayload resp).toNat)).find? fun a => a.type = type with
      | none => (1, buf)
      | some a =>
        if buflen.toNat < a.payload.length then (-1, buf)
        else (a.payload.length, put buf 0 a.payload) := by
  have search := findRta_eq_find resp type ((iflaPayload resp).toNat + 1) 32 (iflaPayload resp)
    (Nat.lt_succ_self _)
  rw [← search, getIftype]
  dsimp only
  cases findRta resp type ((iflaPayload resp).toNat + 1) 32 (iflaPayload resp) with
  | none => rfl
  | some p => simp only [Option.map_some, length_slice]

/-- It is what `sctp_assoc_create` takes it for: it stores up to six bytes and fails if there are fewer.
It succeeds exactly on an address of six bytes. -/
theorem getIfmac_spec (resp mac : Bytes) :
    (∃ stored : Sctp.IfMac, getIfmac resp mac = (stored.fails, put mac 0 stored.stored)) ∧
    ((getIfmac resp mac).1 = false ↔ ∃ a : Attribute, a.payload.length = 6 ∧
      ((scan (slice resp 32 (iflaPayload resp).toNat)).find? fun a => a.type = iflaAddress) = some a ∧
      (getIfmac resp mac).2 = put mac 0 a.payload) := by
  have nothing : put mac 0 [] = mac := put_nil mac 0
  have six : (6 : UInt16).toNat = 6 := rfl
  rw [getIfmac, getIftype_spec, six]
  cases (scan (slice resp 32 (iflaPayload resp).toNat)).find? fun a => a.type = iflaAddress with
  | none =>
    constructor
    · exact ⟨⟨[], by decide⟩, by rw [nothing]; rfl⟩
    · simp
  | some a =>
    dsimp only
    by_cases large : 6 < a.payload.length
    · rw [if_pos large]
      constructor
      · exact ⟨⟨[], by decide⟩, by rw [nothing]; rfl⟩
      · simp
        omega
    · rw [if_neg large]
      constructor
      · refine ⟨⟨a.payload, Nat.not_lt.mp large⟩, ?_⟩
        simp [Sctp.IfMac.fails]
      · simp
        omega

@[simp] theorem length_nlmsghdr (type flags : UInt16) (pid : UInt32) :
    (nlmsghdr type flags pid).length = 12 := by
  simp [nlmsghdr]

@[simp] theorem length_linkinfomsg : linkinfomsg.length = 16 := rfl

@[simp] theorem length_ifaddrmsg (index : UInt32) : (ifaddrmsg index).length = 8 := by
  simp [ifaddrmsg]

section Written

variable {m : Bytes} {header fields : List UInt8}

/-- A message whose length is that of its parts asks what its attributes say. -/
theorem asks_of_cleared {attributes : List UInt8} {as : List Attribute} {len : Nat}
    (cleared : Cleared 4096 m [le32 (UInt32.ofNat len), fields, attributes])
    (whole : 4 + fields.length + attributes.length = len) (small : len < 2 ^ 32)
    (parsed : parse attributes = some as) : nlmsgLen m = len ∧ Asks m fields as := by
  have length := nlmsgLen_eq cleared small
  have first := cleared.slice_eq 1 4 rfl (by simp)
  have second := cleared.slice_eq 2 (4 + fields.length) rfl (by simp)
  refine ⟨length, first, ?_⟩
  rw [length, ← whole, Nat.add_sub_cancel_left, second, parsed]

/-- The question for a name. -/
theorem getlink_spec (cleared : Cleared 4096 m []) (pid : UInt32) (name : List UInt8)
    (fits : 37 + name.length ≤ 4096) :
    Cleared 4096 (getlink pid name m) [le32 (UInt32.ofNat (37 + name.length)),
      nlmsghdr 18 5 pid ++ linkinfomsg,
      le16 (UInt16.ofNat (ifname name).length) ++ (le16 iflaIfname ++ (name ++ [0]))] := by
  have long : rtaLength (name.length + 1) = 5 + name.length := by
    unfold rtaLength
    omega
  have length : (ifname name).length = 5 + name.length := by
    rw [length_ifname, long]
  unfold getlink
  dsimp only
  have header : Cleared 4096 (put m 0 (le32 32 ++ nlmsghdr 18 5 pid))
      [le32 (UInt32.ofNat 32), nlmsghdr 18 5 pid] :=
    (cleared.write 0 rfl _).congr (by simp)
  have info := header.write 16 (by simp) linkinfomsg
  have rta := put_rta info 32 (by simp) (5 + name.length) iflaIfname
  rw [long, nlmsgLen_eq rta (by decide), rtaLen_eq rta 3 32 rfl (by simp) (by omega)]
  have named := (set_nlmsgLen rta (32 + (5 + name.length))).write 36 (by simp) (name ++ [0])
  have total : 32 + (5 + name.length) = 37 + name.length := by omega
  rw [total] at named ⊢
  apply named.congr
  rw [length]
  simp

/-- An address on an interface, twice. -/
theorem bindIf_spec (cleared : Cleared 4096 m []) (pid index ip : UInt32) :
    Cleared 4096 (bindIf pid index ip m) [le32 (UInt32.ofNat 40),
      nlmsghdr 20 0x405 pid ++ ifaddrmsg index,
      encodeAll [⟨ifaLocal, le32 ip⟩, ⟨ifaAddress, le32 ip⟩]] := by
  have eight : rtaLength 4 = 8 := rfl
  have aligned : align 8 = 8 ∧ align 32 = 32 := ⟨rfl, rfl⟩
  unfold bindIf
  dsimp only
  have header : Cleared 4096 (put m 0 (le32 24 ++ nlmsghdr 20 0x405 pid))
      [le32 (UInt32.ofNat 24), nlmsghdr 20 0x405 pid] :=
    (cleared.write 0 rfl _).congr (by simp)
  have info := header.write 16 (by simp) (ifaddrmsg index)
  have first := (put_rta info 24 (by simp) 8 ifaLocal).write 28 (by simp) (le32 ip)
  rw [eight, nlmsgLen_eq first (by decide), rtaLen_eq first 3 24 rfl (by simp) (by decide), aligned.1]
  -- the second attribute goes where the length now ends
  have longer := set_nlmsgLen first 32
  rw [nlmsgLen_eq longer (by decide), aligned.2]
  have second := (put_rta longer 32 (by simp) 8 ifaAddress).write 36 (by simp) (le32 ip)
  rw [nlmsgLen_eq second (by decide), rtaLen_eq second 6 32 rfl (by simp) (by decide), aligned.1]
  apply (set_nlmsgLen second 40).congr
  simp [encodeAll, Attribute.encode, Attribute.length, zeros, align]

end Written

/-- For any name that fits and any address: what is sent is as long as it says, and has exactly the
attributes that it should. -/
theorem requests_ask (m : Bytes) (clear : ∀ i < 4096, m i = 0) (pid index ip : UInt32)
    (name : List UInt8) (fits : 37 + name.length ≤ 4096) :
    nlmsgLen (getlink pid name m) = 37 + name.length ∧
    Asks (getlink pid name m) (nlmsghdr 18 5 pid ++ linkinfomsg) [ifname name] ∧
    nlmsgLen (bindIf pid index ip m) = 40 ∧
    Asks (bindIf pid index ip m) (nlmsghdr 20 0x405 pid ++ ifaddrmsg index)
      [⟨ifaLocal, le32 ip⟩, ⟨ifaAddress, le32 ip⟩] := by
  have cleared : Cleared 4096 m [] := ⟨rfl, fun i _ => clear i⟩
  have length : (ifname name).length = 5 + name.length := by
    rw [length_ifname]
    unfold rtaLength
    omega
  have name := asks_of_cleared (getlink_spec cleared pid name fits) (by simp; omega) (by omega)
    (parse_unfilled (ifname name) (by omega))
  have address := asks_of_cleared (bindIf_spec cleared pid index ip)
    (by simp [encodeAll, Attribute.length, align]) (by decide)
    (parse_encodeAll _ (by simp [Attribute.length]))
  exact ⟨name.1, name.2, address⟩

theorem requests_ask_client : nlmsgLen (getlink 100 clientIname fun _ => 0) = 47 ∧
    Asks (getlink 100 clientIname fun _ => 0) (nlmsghdr 18 5 100 ++ linkinfomsg)
      [ifname clientIname] := by
  obtain ⟨length, asks, -⟩ := requests_ask (fun _ => 0) (fun _ _ => rfl) 100 1 0x0201A8C0
    clientIname (by decide)
  exact ⟨length, asks⟩

end Kpnet.Net
