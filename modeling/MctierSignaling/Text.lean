import MctierSignaling.Config
import Mathlib.Algebra.Ring.Nat
import Mathlib.Data.List.Basic

/-!
# Texts and numbers as the server reads them

Rust's `str` and `char` operations the server uses, on lists of characters: `trim`, `is_control`,
`split`, `split_once`, `parse` for unsigned integers and IPv4 addresses, and `to_string` for an
address. A `String` is a sequence of Unicode scalar values, and its length is that of its UTF-8
encoding.
-/

namespace MctierSignaling

/-- `str::as_bytes`. -/
def utf8Bytes (s : String) : List UInt8 := s.toByteArray.data.toList

/-- `char::is_whitespace`: the Unicode property `White_Space`. -/
def isWhitespace (c : Char) : Bool :=
  let n := c.toNat
  (0x9 ≤ n && n ≤ 0xD) || n == 0x20 || n == 0x85 || n == 0xA0 || n == 0x1680 ||
    (0x2000 ≤ n && n ≤ 0x200A) || n == 0x2028 || n == 0x2029 || n == 0x202F || n == 0x205F ||
    n == 0x3000

/-- `char::is_control`: the Unicode category `Cc`. -/
def isControl (c : Char) : Bool :=
  let n := c.toNat
  n < 0x20 || (0x7F ≤ n && n < 0xA0)

/-- `str::trim`. -/
def trim (s : List Char) : List Char :=
  ((s.dropWhile isWhitespace).reverse.dropWhile isWhitespace).reverse

/-- The value of an ASCII decimal digit. -/
def digit? (c : Char) : Option Nat :=
  if '0' ≤ c ∧ c ≤ '9' then some (c.toNat - '0'.toNat) else none

/-- The number written by a list of ASCII digits, most significant first. -/
def digits? : Nat → List Char → Option Nat
  | acc, [] => some acc
  | acc, c :: cs => (digit? c).bind fun d => digits? (acc * 10 + d) cs

/-- `str::parse` for an unsigned integer type of maximum `max`: an optional `+`, then at least one
ASCII digit, with a value in range. -/
def parseUnsigned (max : Nat) (s : List Char) : Option Nat :=
  let ds := match s with
    | '+' :: rest => rest
    | _ => s
  if ds = [] then none else (digits? 0 ds).filter (· ≤ max)

/-- `str::parse::<u32>`. -/
def parseU32 (s : List Char) : Option Nat := parseUnsigned (2 ^ 32 - 1) s

/-- `std::net::Ipv4Addr`, by its octets. -/
structure Ipv4Addr where
  o0 : UInt8
  o1 : UInt8
  o2 : UInt8
  o3 : UInt8
  deriving DecidableEq, Repr

/-- One octet of `Ipv4Addr::from_str`: one to three digits, no leading zero, at most 255. -/
def parseOctet (s : List Char) : Option UInt8 :=
  if s = [] ∨ 3 < s.length ∨ (s.head? = some '0' ∧ s.length ≠ 1) then none
  else (digits? 0 s).bind fun n => if n ≤ 255 then some (UInt8.ofNat n) else none

/-- `Ipv4Addr::from_str`. -/
def parseIpv4 (s : List Char) : Option Ipv4Addr :=
  match s.splitOn '.' with
  | [a, b, c, d] => do
    let o0 ← parseOctet a
    let o1 ← parseOctet b
    let o2 ← parseOctet c
    let o3 ← parseOctet d
    return ⟨o0, o1, o2, o3⟩
  | _ => none

/-- The decimal digit of a number below ten. -/
def digitChar (n : Nat) : Char := Char.ofNat ('0'.toNat + n)

/-- An octet in decimal. -/
def octetText (o : UInt8) : List Char :=
  let n := o.toNat
  if n < 10 then [digitChar n]
  else if n < 100 then [digitChar (n / 10), digitChar (n % 10)]
  else [digitChar (n / 100), digitChar (n / 10 % 10), digitChar (n % 10)]

/-- `Ipv4Addr::to_string`, as characters. -/
def Ipv4Addr.text (ip : Ipv4Addr) : List Char :=
  octetText ip.o0 ++ '.' :: (octetText ip.o1 ++ '.' :: (octetText ip.o2 ++ '.' :: octetText ip.o3))

/-- `Ipv4Addr::to_string`. -/
def Ipv4Addr.toString (ip : Ipv4Addr) : String := String.ofList ip.text

/-- `std::net::Ipv6Addr`, by its segments. -/
structure Ipv6Addr where
  s0 : UInt16
  s1 : UInt16
  s2 : UInt16
  s3 : UInt16
  s4 : UInt16
  s5 : UInt16
  s6 : UInt16
  s7 : UInt16
  deriving DecidableEq, Repr

/-- `std::net::IpAddr`. -/
inductive IpAddr where
  | v4 (ip : Ipv4Addr)
  | v6 (ip : Ipv6Addr)
  deriving DecidableEq, Repr

/-- `Ipv6Addr::to_ipv4_mapped`. -/
def Ipv6Addr.toIpv4Mapped (ip : Ipv6Addr) : Option Ipv4Addr :=
  if ip.s0 = 0 ∧ ip.s1 = 0 ∧ ip.s2 = 0 ∧ ip.s3 = 0 ∧ ip.s4 = 0 ∧ ip.s5 = 0xffff then
    some ⟨(ip.s6 >>> 8).toUInt8, ip.s6.toUInt8, (ip.s7 >>> 8).toUInt8, ip.s7.toUInt8⟩
  else none

/-- An IPv4-mapped address is its IPv4 address. Reference: `canonical` (`connection_guard.rs:6`). -/
def canonical : IpAddr → IpAddr
  | .v6 ip => (ip.toIpv4Mapped.map .v4).getD (.v6 ip)
  | ip => ip

/-- The source a quota is charged to: an IPv4 address, or the /64 network of an IPv6 address.
Reference: `quota_source` (`connection_guard.rs:17`). -/
def quotaSource (ip : IpAddr) : IpAddr :=
  match canonical ip with
  | .v6 ip => .v6 { ip with s4 := 0, s5 := 0, s6 := 0, s7 := 0 }
  | ip => ip

/-! ## An address reads back from its text -/

/-- Every octet reads back from its decimal text, which holds no dot. -/
theorem octetText_spec (o : UInt8) : parseOctet (octetText o) = some o ∧ '.' ∉ octetText o := by
  have h : ∀ n : Fin 256, parseOctet (octetText (UInt8.ofNat n.1)) = some (UInt8.ofNat n.1) ∧
      '.' ∉ octetText (UInt8.ofNat n.1) := by decide +kernel
  have ho := h ⟨o.toNat, o.toNat_lt⟩
  rwa [UInt8.ofNat_toNat] at ho

/-- An address reads back from its text. -/
theorem parseIpv4_text (ip : Ipv4Addr) : parseIpv4 ip.text = some ip := by
  have ⟨h0, n0⟩ := octetText_spec ip.o0
  have ⟨h1, n1⟩ := octetText_spec ip.o1
  have ⟨h2, n2⟩ := octetText_spec ip.o2
  have ⟨h3, n3⟩ := octetText_spec ip.o3
  have hsplit : ip.text.splitOn '.' =
      [octetText ip.o0, octetText ip.o1, octetText ip.o2, octetText ip.o3] := by
    rw [Ipv4Addr.text, List.splitOn_append_cons_self_of_not_mem n0,
      List.splitOn_append_cons_self_of_not_mem n1, List.splitOn_append_cons_self_of_not_mem n2,
      List.splitOn_eq_singleton n3]
  simp [parseIpv4, hsplit, h0, h1, h2, h3]

/-- An address is determined by its text. -/
theorem Ipv4Addr.text_injective : Function.Injective Ipv4Addr.text := fun a b h =>
  Option.some.inj ((parseIpv4_text a).symm.trans (h ▸ parseIpv4_text b))

end MctierSignaling
