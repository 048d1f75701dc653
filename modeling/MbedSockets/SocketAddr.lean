import MbedSockets.Lib.Inet
import MbedSockets.Sal

/-!
Texts of addresses. `SocketAddr` formats and parses through the functions of
the abstraction layer and adds only where in its sixteen bytes they read and
write. For IPv4 the two directions do not agree: `fmtIPv4` hands over the last
word of the storage, and `setAddr` the storage from its start, with nothing
that would put the IPv4-mapped prefix in place.

Memory at a pointer is the list of the bytes from there to the end of the
storage, and a text is the characters before the terminator.
-/

namespace MbedSockets

/-- What `SocketAddr` calls. `inetNtop` says whether the result is non-null
and what is in the buffer then; `inetPton` gives its return code and the
memory it leaves behind. -/
structure Inet where
  inetNtop : AddressFamily → List UInt8 → List Char → Nat → Bool × List Char
  inetPton : AddressFamily → List Char → List UInt8 → Int × List UInt8
  socketAddrIsIpv4 : RawAddr → Bool

namespace SocketAddr

def bytes (a : SocketAddr) : List UInt8 := List.ofFn a.addr

/-- The storage after a call that was given a pointer to it. -/
def ofMemory (a : SocketAddr) (memory : List UInt8) : SocketAddr :=
  ⟨fun i => memory.getD i (a.addr i)⟩

/-- `setAddr(socket_address_family_t, const char *)`. -/
def setAddrText (inet : Inet) (af : AddressFamily) (addr : List Char) (self : SocketAddr) :
    SocketError × SocketAddr :=
  let (rc, memory) := inet.inetPton af addr self.bytes
  (match rc with
    | 1 => .none
    | 0 => .badAddress
    | -1 => .badArgument
    | _ => .unknown,
    self.ofMemory memory)

def isV4 (inet : Inet) (self : SocketAddr) : Bool := inet.socketAddrIsIpv4 self.addr

/-- A null buffer is `none`; the buffer is returned beside the code. -/
def fmtIPv4 (inet : Inet) (buf : Option (List Char)) (size : Nat) (self : SocketAddr) :
    Int × Option (List Char) :=
  if self.isV4 inet = false then
    (-1, buf)
  else
    match buf with
    | none => (-1, none)
    | some buf =>
      -- `&(_addr.ipv6be[3])` is twelve bytes into the storage.
      let (ptr, text) := inet.inetNtop .inet4 (self.bytes.drop 12) buf size
      (if ptr then 0 else -1, some text)

def fmtIPv6 (inet : Inet) (buf : Option (List Char)) (size : Nat) (self : SocketAddr) :
    Int × Option (List Char) :=
  match buf with
  | none => (-1, none)
  | some buf =>
    let (ptr, text) := inet.inetNtop .inet6 self.bytes buf size
    (if ptr then 0 else -1, some text)

/-- The address is in `::ffff:0:0/96`. -/
def Mapped (a : SocketAddr) : Prop := a.bytes.take 12 = Lib.Inet.mappedPrefix

instance (a : SocketAddr) : Decidable a.Mapped := inferInstanceAs (Decidable (_ = _))

end SocketAddr

/-- The bytes of an address. -/
def AddressFamily.width : AddressFamily → Nat
  | .inet4 => 4
  | .inet6 => 16

/-- A buffer that holds every text of the family. -/
def AddressFamily.textSize : AddressFamily → Nat
  | .inet4 => 16
  | .inet6 => 46

/-- The contract of the abstraction layer: a text is produced if it fits, a
produced text is valid, and each function touches the bytes of its family at
the pointer and no others. -/
structure Inet.Standard (inet : Inet) : Prop where
  formats : ∀ af src buf size, af.width ≤ src.length → af.textSize ≤ size →
    (inet.inetNtop af src buf size).1 = true
  parses : ∀ af src buf size dst, af.width ≤ src.length → af.width ≤ dst.length →
    af.textSize ≤ size →
      inet.inetPton af (inet.inetNtop af src buf size).2 dst =
        (1, src.take af.width ++ dst.drop af.width)
  mapped : ∀ a : SocketAddr, inet.socketAddrIsIpv4 a.addr = true ↔ a.Mapped

namespace SocketAddr

/-- Parsing into `b` undoes the formatting of `a`, in both families. -/
structure RoundTrips (inet : Inet) (a b : SocketAddr) : Prop where
  ipv6 : ∀ buf size, 46 ≤ size → ∃ text, a.fmtIPv6 inet (some buf) size = (0, some text) ∧
    b.setAddrText inet .inet6 text = (.none, a)
  fmtIPv4_iff : ∀ buf size, 16 ≤ size → ((a.fmtIPv4 inet (some buf) size).1 = 0 ↔ a.Mapped)
  ipv4 : a.Mapped → ∀ buf size, 16 ≤ size →
    ∃ text, a.fmtIPv4 inet (some buf) size = (0, some text) ∧
      (b.setAddrText inet .inet4 text).1 = .none ∧
      (b.setAddrText inet .inet4 text).2.isV4 inet = true ∧
      (b.setAddrText inet .inet4 text).2 = a

@[simp] theorem length_bytes (a : SocketAddr) : a.bytes.length = 16 := List.length_ofFn

theorem ofMemory_bytes (a : SocketAddr) {memory : List UInt8} (hlen : memory.length = 16) :
    (a.ofMemory memory).bytes = memory := by
  apply List.ext_getElem
  · rw [length_bytes, hlen]
  · intro i hi hi'
    simp only [bytes, ofMemory, List.getElem_ofFn, List.getD_eq_getElem?_getD,
      List.getElem?_eq_getElem hi', Option.getD_some]

theorem eq_iff_bytes {a b : SocketAddr} : a = b ↔ a.bytes = b.bytes := by
  constructor
  · rintro rfl
    rfl
  · intro h
    have hraw : a.addr = b.addr := List.ofFn_injective h
    cases a
    cases b
    exact congrArg SocketAddr.mk hraw

section contract

variable {inet : Inet} (hstd : inet.Standard)

include hstd

/-- What parsing a produced text does to the storage: the bytes of the family
are put at its start, and the others stay. -/
theorem setAddrText_inetNtop (af : AddressFamily) (src : List UInt8) (b : SocketAddr)
    (buf : List Char) {size : Nat} (hsrc : af.width ≤ src.length) (hsize : af.textSize ≤ size) :
    (b.setAddrText inet af (inet.inetNtop af src buf size).2).1 = .none ∧
      (b.setAddrText inet af (inet.inetNtop af src buf size).2).2.bytes =
        src.take af.width ++ b.bytes.drop af.width := by
  have hwidth : af.width ≤ 16 := by cases af <;> decide
  rw [setAddrText, hstd.parses af src buf size b.bytes hsrc (by simpa using hwidth) hsize]
  refine ⟨rfl, ofMemory_bytes b ?_⟩
  rw [List.length_append, List.length_take_of_le hsrc, List.length_drop, length_bytes]
  omega

theorem isV4_iff (a : SocketAddr) : a.isV4 inet = true ↔ a.Mapped := hstd.mapped a

theorem fmtIPv6_eq (a : SocketAddr) (buf : List Char) {size : Nat} (hsize : 46 ≤ size) :
    a.fmtIPv6 inet (some buf) size = (0, some (inet.inetNtop .inet6 a.bytes buf size).2) := by
  have hok := hstd.formats .inet6 a.bytes buf size (by simp [AddressFamily.width]) hsize
  simp [fmtIPv6, hok]

theorem fmtIPv4_eq {a : SocketAddr} (hmapped : a.Mapped) (buf : List Char) {size : Nat}
    (hsize : 16 ≤ size) :
    a.fmtIPv4 inet (some buf) size =
      (0, some (inet.inetNtop .inet4 (a.bytes.drop 12) buf size).2) := by
  have hok := hstd.formats .inet4 (a.bytes.drop 12) buf size (by simp [AddressFamily.width]) hsize
  have hv4 := (isV4_iff hstd a).mpr hmapped
  simp [fmtIPv4, hok, hv4]

/-- An address that is not mapped has no IPv4 text. -/
theorem fmtIPv4_eq_zero_iff (a : SocketAddr) (buf : List Char) {size : Nat} (hsize : 16 ≤ size) :
    (a.fmtIPv4 inet (some buf) size).1 = 0 ↔ a.Mapped := by
  constructor
  · intro hzero
    by_contra hmapped
    have hv4 : a.isV4 inet = false := by
      rw [← Bool.not_eq_true, isV4_iff hstd]
      exact hmapped
    simp [fmtIPv4, hv4] at hzero
  · intro hmapped
    rw [fmtIPv4_eq hstd hmapped buf hsize]

theorem setAddrText_fmtIPv6 (a b : SocketAddr) (buf : List Char) {size : Nat} (hsize : 46 ≤ size) :
    b.setAddrText inet .inet6 (inet.inetNtop .inet6 a.bytes buf size).2 = (.none, a) := by
  obtain ⟨hcode, hbytes⟩ := setAddrText_inetNtop hstd .inet6 a.bytes b buf a.length_bytes.ge hsize
  refine Prod.ext hcode (eq_iff_bytes.mpr ?_)
  rw [hbytes, AddressFamily.width, List.take_of_length_le a.length_bytes.le,
    List.drop_eq_nil_of_le b.length_bytes.le, List.append_nil]

/-- What is left of an IPv4 address after formatting and parsing: its four
bytes, but in front of twelve bytes of what was there before. -/
theorem setAddrText_fmtIPv4 (a b : SocketAddr) (buf : List Char) {size : Nat} (hsize : 16 ≤ size) :
    (b.setAddrText inet .inet4 (inet.inetNtop .inet4 (a.bytes.drop 12) buf size).2).1 = .none ∧
      (b.setAddrText inet .inet4 (inet.inetNtop .inet4 (a.bytes.drop 12) buf size).2).2.bytes =
        a.bytes.drop 12 ++ b.bytes.drop 4 := by
  have hlen : (a.bytes.drop 12).length = 4 := by simp
  have hparsed := setAddrText_inetNtop hstd .inet4 (a.bytes.drop 12) b buf hlen.ge hsize
  rwa [AddressFamily.width, List.take_of_length_le hlen.le] at hparsed

end contract

/-- A mapped address starts with zeros, so its last four bytes are found at
the start only if they are zeros too. -/
theorem moved_eq_iff {a b : SocketAddr} (hmapped : a.Mapped) :
    a.bytes.drop 12 ++ b.bytes.drop 4 = a.bytes ↔
      a.bytes.drop 12 = [0, 0, 0, 0] ∧ b.bytes.drop 4 = a.bytes.drop 4 := by
  have hstart : a.bytes.take 4 = [0, 0, 0, 0] := by
    have htake : (a.bytes.take 12).take 4 = a.bytes.take 4 := by simp [List.take_take]
    rw [← htake, hmapped]
    rfl
  constructor
  · intro h
    have hsplit : a.bytes.drop 12 ++ b.bytes.drop 4 = a.bytes.take 4 ++ a.bytes.drop 4 := by
      rw [h, List.take_append_drop]
    obtain ⟨hfront, hback⟩ := List.append_inj hsplit (by simp)
    exact ⟨hfront.trans hstart, hback⟩
  · rintro ⟨hfront, hback⟩
    rw [hfront, hback, ← hstart, List.take_append_drop]

/-- Parsing undoes formatting exactly for the addresses outside
`::ffff:0:0/96` and, where the last twelve bytes of the destination are right
already, for `::ffff:0.0.0.0`. -/
theorem round_trips_iff (inet : Inet) (hstd : inet.Standard) (a b : SocketAddr) :
    RoundTrips inet a b ↔
      (a.Mapped → a.bytes.drop 12 = [0, 0, 0, 0] ∧ b.bytes.drop 4 = a.bytes.drop 4) := by
  constructor
  · intro hround hmapped
    obtain ⟨text, hfmt, _, _, hback⟩ := hround.ipv4 hmapped [] 16 le_rfl
    rw [fmtIPv4_eq hstd hmapped [] le_rfl, Prod.mk.injEq, Option.some.injEq] at hfmt
    obtain ⟨_, rfl⟩ := hfmt
    rw [← moved_eq_iff hmapped, ← (setAddrText_fmtIPv4 hstd a b [] le_rfl).2, hback]
  · intro hcond
    refine ⟨?_, fun buf size hsize => fmtIPv4_eq_zero_iff hstd a buf hsize, ?_⟩
    · intro buf size hsize
      exact ⟨_, fmtIPv6_eq hstd a buf hsize, setAddrText_fmtIPv6 hstd a b buf hsize⟩
    · intro hmapped buf size hsize
      refine ⟨_, fmtIPv4_eq hstd hmapped buf hsize, ?_⟩
      obtain ⟨hcode, hbytes⟩ := setAddrText_fmtIPv4 hstd a b buf hsize
      have hback := eq_iff_bytes.mpr (hbytes.trans ((moved_eq_iff hmapped).mpr (hcond hmapped)))
      refine ⟨hcode, ?_, hback⟩
      rw [hback, isV4_iff hstd]
      exact hmapped

end SocketAddr

/-! ### The usual texts -/

/-- The functions as a stack would have them, on the usual texts. -/
def Inet.usual : Inet where
  inetNtop af src buf size :=
    let text :=
      match af with
      | .inet4 => Lib.Inet.quadText (src.take 4)
      | .inet6 => Lib.Inet.groupsText (src.take 16)
    if text.length < size then (true, text) else (false, buf)
  inetPton af text dst :=
    let address :=
      match af with
      | .inet4 => Lib.Inet.readQuad text
      | .inet6 => Lib.Inet.readGroups text
    match address with
    | some address => (1, address ++ dst.drop af.width)
    | none => (0, dst)
  socketAddrIsIpv4 a := (List.ofFn a).take 12 = Lib.Inet.mappedPrefix

theorem Inet.usual_inetNtop (af : AddressFamily) {src : List UInt8} (buf : List Char) {size : Nat}
    (hsrc : af.width ≤ src.length) (hsize : af.textSize ≤ size) :
    Inet.usual.inetNtop af src buf size =
      (true, match af with
        | .inet4 => Lib.Inet.quadText (src.take 4)
        | .inet6 => Lib.Inet.groupsText (src.take 16)) := by
  cases af with
  | inet4 =>
      have hlt := Lib.Inet.length_quadText_lt (List.length_take_of_le hsrc)
      exact if_pos (Nat.lt_of_lt_of_le hlt hsize)
  | inet6 =>
      have hlt := Lib.Inet.length_groupsText_lt (List.length_take_of_le hsrc)
      exact if_pos (Nat.lt_of_lt_of_le hlt hsize)

theorem Inet.usual_standard : Inet.usual.Standard where
  formats af src buf size hsrc hsize := by rw [Inet.usual_inetNtop af buf hsrc hsize]
  parses af src buf size dst hsrc _ hsize := by
    rw [Inet.usual_inetNtop af buf hsrc hsize]
    cases af with
    | inet4 =>
        have hread := Lib.Inet.readQuad_quadText (List.length_take_of_le hsrc)
        simp only [Inet.usual, hread]
        rfl
    | inet6 =>
        have hread := Lib.Inet.readGroups_groupsText (List.length_take_of_le hsrc)
        simp only [Inet.usual, hread]
        rfl
  mapped a := by simp [Inet.usual, SocketAddr.Mapped, SocketAddr.bytes]

example : Inet.usual.inetNtop .inet4 [192, 168, 0, 1] [] 16 = (true, "192.168.0.1".toList) := by
  decide

namespace SocketAddr

/-- The mapped form of an IPv4 address. -/
def ofIPv4 (quad : List UInt8) : SocketAddr :=
  ⟨fun i => (Lib.Inet.mappedPrefix ++ quad).getD i 0⟩

/-- `2001:db8:1:2:3:4:5:6`. -/
def documentation : SocketAddr :=
  ⟨fun i => [0x20, 0x01, 0x0d, 0xb8, 0, 1, 0, 2, 0, 3, 0, 4, 0, 5, 0, 6].getD i 0⟩

theorem documentation_round_trips :
    RoundTrips Inet.usual documentation (ofIPv4 [10, 0, 0, 1]) ∧
      RoundTrips Inet.usual (ofIPv4 [0, 0, 0, 0]) (ofIPv4 [0, 0, 0, 0]) :=
  ⟨(round_trips_iff _ Inet.usual_standard _ _).mpr (by decide),
    (round_trips_iff _ Inet.usual_standard _ _).mpr (by decide)⟩

/-- `10.0.0.1`, formatted and parsed into an address that was all zeros. -/
theorem private_address_moved :
    let a := ofIPv4 [10, 0, 0, 1]
    let b : SocketAddr := ⟨fun _ => 0⟩
    Inet.usual.Standard ∧ a.Mapped ∧
      a.fmtIPv4 Inet.usual (some []) 16 = (0, some "10.0.0.1".toList) ∧
      (b.setAddrText Inet.usual .inet4 "10.0.0.1".toList).2.bytes =
        [10, 0, 0, 1, 0, 0, 0, 0, 0, 0, 0, 0, 0, 0, 0, 0] ∧
      ¬ RoundTrips Inet.usual a b := by
  have hfmt : (ofIPv4 [10, 0, 0, 1]).fmtIPv4 Inet.usual (some []) 16 =
      (0, some "10.0.0.1".toList) := by decide
  refine ⟨Inet.usual_standard, by decide, hfmt, by decide, ?_⟩
  intro hround
  obtain ⟨text, htext, _, hv4, _⟩ := hround.ipv4 (by decide) [] 16 le_rfl
  obtain rfl : "10.0.0.1".toList = text := by
    rw [hfmt] at htext
    simpa using htext
  revert hv4
  decide

end SocketAddr

end MbedSockets
