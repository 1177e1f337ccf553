import Mathlib.Data.BitVec
import Mathlib.Data.Nat.Digits.Defs

/-!
# IP addresses and address blocks

Addresses, CIDR blocks and their textual forms, following Go's `net/netip`. The zero `netip.Addr`
is `none : Option Addr`; conversions that panic on the wrong family return `none`.
-/

namespace Bacchus.Netip

open List

/-- A valid address. An IPv6 address may carry a zone. -/
inductive Addr where
  | v4 (bits : BitVec 32)
  | v6 (bits : BitVec 128) (zone : String)
deriving DecidableEq

namespace Addr

/-- IPv4, excluding IPv4-mapped IPv6 addresses. -/
def is4 : Addr → Bool
  | v4 _ => true
  | v6 _ _ => false

/-- IPv6, including IPv4-mapped IPv6 addresses. -/
def is6 (addr : Addr) : Bool := !addr.is4

/-- Number of bits of the address family. -/
def bitLen : Addr → Nat
  | v4 _ => 32
  | v6 _ _ => 128

/-- The IPv4-mapped block `::ffff:0:0/96`. -/
def is4In6 : Addr → Bool
  | v4 _ => false
  | v6 bits _ => bits.toNat / 2 ^ 32 == 0xffff

/-- Strip the IPv4-mapped wrapping, if any. -/
def unmap (addr : Addr) : Addr :=
  match addr with
  | v6 bits _ => if addr.is4In6 then v4 (bits.setWidth 32) else addr
  | v4 _ => addr

/-- The zone; empty for an IPv4 address. -/
def zone : Addr → String
  | v4 _ => ""
  | v6 _ zone => zone

/-- Drop the zone. -/
def withoutZone : Addr → Addr
  | v4 bits => v4 bits
  | v6 bits _ => v6 bits ""

/-- The four bytes of an IPv4 or IPv4-mapped address; `none` where `As4` panics. -/
def as4 (addr : Addr) : Option (BitVec 32) :=
  match addr with
  | v4 bits => some bits
  | v6 bits _ => if addr.is4In6 then some (bits.setWidth 32) else none

/-- Keep the top `count` bits and drop the zone. -/
def keepTop (count : Nat) : Addr → Addr
  | v4 bits => v4 (bits &&& (BitVec.allOnes 32 <<< (32 - count)))
  | v6 bits _ => v6 (bits &&& (BitVec.allOnes 128 <<< (128 - count))) ""

@[simp] theorem bitLen_keepTop (count : Nat) (addr : Addr) :
    (addr.keepTop count).bitLen = addr.bitLen := by
  cases addr <;> rfl

end Addr

/-- A CIDR block whose length fits the family of its address. -/
structure Prefix where
  addr : Addr
  bits : Nat
  bounded : bits ≤ addr.bitLen
deriving DecidableEq

namespace Prefix

/-- The block with its host bits cleared. -/
def masked (block : Prefix) : Prefix where
  addr := block.addr.keepTop block.bits
  bits := block.bits
  bounded := by simpa using block.bounded

/-- The block holding exactly one address; a block carries no zone. -/
def single (addr : Addr) : Prefix where
  addr := match addr with
    | .v4 bits => .v4 bits
    | .v6 bits _ => .v6 bits ""
  bits := addr.bitLen
  bounded := by cases addr <;> exact Nat.le_refl _

/-- `Contains`: an address of the family with the block's leading bits; one with a zone is in no
block. -/
def contains (block : Prefix) : Addr → Bool
  | .v4 bits =>
    match block.addr with
    | .v4 network => (bits ^^^ network) >>> (32 - block.bits) == 0
    | .v6 _ _ => false
  | .v6 bits zone =>
    match block.addr with
    | .v4 _ => false
    | .v6 network _ => zone == "" && (bits ^^^ network) >>> (128 - block.bits) == 0

end Prefix

private def digitValue (char : Char) : Nat := char.toNat - '0'.toNat

/-- The value of a hexadecimal digit, `none` for any other character. -/
def hexDigit? (char : Char) : Option Nat :=
  if '0' ≤ char ∧ char ≤ '9' then some (digitValue char)
  else if 'a' ≤ char ∧ char ≤ 'f' then some (char.toNat - 'a'.toNat + 10)
  else if 'A' ≤ char ∧ char ≤ 'F' then some (char.toNat - 'A'.toNat + 10)
  else none

/-- The loop of `parseIPv4Fields`: the octet being read, its digit count, and the octets before. -/
def ipv4Loop : List Char → Nat → Nat → List Nat → Option (List Nat)
  | [], value, _, octets => if octets.length < 3 then none else some (octets ++ [value])
  | char :: rest, value, digits, octets =>
    if char.isDigit then
      -- A leading zero is refused: "01" could be read as octal.
      if digits = 1 ∧ value = 0 then none
      else if value * 10 + digitValue char > 255 then none
      else ipv4Loop rest (value * 10 + digitValue char) (digits + 1) octets
    else if char = '.' then
      if digits = 0 ∨ rest = [] then none
      else if octets.length = 3 then none
      else ipv4Loop rest 0 0 (octets ++ [value])
    else none

/-- Four dotted decimal octets. -/
def parseIPv4Fields (text : List Char) : Option (List Nat) := ipv4Loop text 0 0 []

private def joinDigits (base : Nat) (digits : List Nat) : Nat :=
  digits.foldl (fun total digit => total * base + digit) 0

/-- The loop of `parseIPv6`: at most eight groups, at most one `::`, and an IPv4 address in place of
the last two. Returns the groups, the position of the ellipsis and the rest. -/
def ipv6Loop : Nat → List Char → List Nat → Option Nat → Option (List Nat × Option Nat × List Char)
  | 0, text, groups, ellipsis => some (groups, ellipsis, text)
  | fuel + 1, text, groups, ellipsis =>
    let digits := (text.takeWhile fun char => (hexDigit? char).isSome).filterMap hexDigit?
    let group := joinDigits 16 digits
    if digits.length = 0 ∨ digits.length > 4 then none
    else
      match text.drop digits.length with
      | [] => some (groups ++ [group], ellipsis, [])
      | '.' :: _ =>
        if ellipsis = none ∧ groups.length ≠ 6 then none
        else if groups.length > 6 then none
        else
          match parseIPv4Fields text with
          | some [a, b, c, d] => some (groups ++ [a * 256 + b, c * 256 + d], ellipsis, [])
          | _ => none
      | [':'] => none
      | ':' :: ':' :: rest =>
        if ellipsis.isSome then none
        else if rest = [] then some (groups ++ [group], some (groups.length + 1), [])
        else ipv6Loop fuel rest (groups ++ [group]) (some (groups.length + 1))
      | ':' :: rest => ipv6Loop fuel rest (groups ++ [group]) ellipsis
      | _ :: _ => none

/-- Fill in the zero groups an ellipsis stands for, at least one. -/
def expandEllipsis (groups : List Nat) : Option Nat → Option (List Nat)
  | none => if groups.length < 8 then none else some groups
  | some pos =>
    if groups.length < 8 then
      some (groups.take pos ++ replicate (8 - groups.length) 0 ++ groups.drop pos)
    else none

/-- `parseIPv6`: an optional non-empty zone, then the groups. -/
def parseIPv6 (text : List Char) : Option Addr :=
  let body := text.takeWhile (· ≠ '%')
  let zone := (text.dropWhile (· ≠ '%')).drop 1
  if body.length < text.length ∧ zone = [] then none
  else
    let finish (parsed : List Nat × Option Nat × List Char) : Option Addr :=
      if parsed.2.2 ≠ [] then none
      else (expandEllipsis parsed.1 parsed.2.1).map fun groups =>
        .v6 (BitVec.ofNat 128 (joinDigits 65536 groups)) (String.ofList zone)
    match body with
    | ':' :: ':' :: rest =>
      if rest = [] then some (.v6 0 (String.ofList zone))
      else (ipv6Loop 8 rest [] (some 0)).bind finish
    | _ => (ipv6Loop 8 body [] none).bind finish

/-- `netip.ParseAddr`: the first `.`, `:` or `%` decides the form. -/
def parseAddr (text : String) : Option Addr :=
  match text.toList.find? fun char => char = '.' ∨ char = ':' ∨ char = '%' with
  | some '.' =>
    (parseIPv4Fields text.toList).map fun octets => .v4 (BitVec.ofNat 32 (joinDigits 256 octets))
  | some ':' => parseIPv6 text.toList
  | _ => none

/-- The bits after the slash: decimal digits without sign or leading zero. -/
def parseBits (text : List Char) : Option Nat :=
  if text.length > 1 ∧ text.head? = some '0' then none
  else if text ≠ [] ∧ text.all Char.isDigit then some (joinDigits 10 (text.map digitValue))
  else none

/-- `netip.ParsePrefix`: an address without zone, the last slash, a length in range. -/
def parsePrefix (text : String) : Option Prefix :=
  let reversed := text.toList.reverse
  let bitsText := (reversed.takeWhile (· ≠ '/')).reverse
  let addrText := ((reversed.dropWhile (· ≠ '/')).drop 1).reverse
  if '/' ∈ text.toList then
    match parseAddr (String.ofList addrText), parseBits bitsText with
    | some (.v6 bits zone), some count =>
      if bounded : zone = "" ∧ count ≤ 128 then some ⟨.v6 bits zone, count, bounded.2⟩ else none
    | some (.v4 bits), some count =>
      if bounded : count ≤ 32 then some ⟨.v4 bits, count, bounded⟩ else none
    | _, _ => none
  else none

def isSpace (char : Char) : Bool :=
  char.toNat ∈ [0x09, 0x0a, 0x0b, 0x0c, 0x0d, 0x20, 0x85, 0xa0, 0x1680, 0x2028, 0x2029, 0x202f,
    0x205f, 0x3000] || (0x2000 ≤ char.toNat && char.toNat ≤ 0x200a)

def trimSpace (text : String) : String :=
  String.ofList ((text.toList.dropWhile isSpace).reverse.dropWhile isSpace).reverse

/-- A text without white space is left as it is. -/
theorem trimSpace_eq_self {text : String} (clean : ∀ char ∈ text.toList, isSpace char = false) :
    trimSpace text = text := by
  have kept : ∀ chars : List Char, (∀ char ∈ chars, isSpace char = false) →
      chars.dropWhile isSpace = chars := by
    intro chars clean
    cases chars with
    | nil => rfl
    | cons char => rw [dropWhile_cons_of_neg (by simp [clean char (.head _)])]
  have backwards : ∀ char ∈ text.toList.reverse, isSpace char = false :=
    fun char member => clean char (mem_reverse.mp member)
  rw [trimSpace, kept _ clean, kept _ backwards, reverse_reverse, String.ofList_toList]

/-- `net.SplitHostPort`: the last colon starts the port; brackets only stand around the whole
host. -/
def splitHostPort (text : String) : Option (String × String) :=
  let chars := text.toList
  let port := (chars.reverse.takeWhile (· ≠ ':')).reverse
  let before := ((chars.reverse.dropWhile (· ≠ ':')).drop 1).reverse
  if ':' ∉ chars then none
  else
    match chars with
    | '[' :: rest =>
      let host := rest.takeWhile (· ≠ ']')
      if before = '[' :: host ++ [']'] ∧ '[' ∉ rest ∧ ']' ∉ port then
        some (.ofList host, .ofList port)
      else none
    | _ =>
      if ':' ∈ before ∨ '[' ∈ chars ∨ ']' ∈ chars then none
      else some (.ofList before, .ofList port)

/-- The host of an endpoint; another text is taken as a bare host. -/
def hostOf (text : String) : String := ((splitHostPort text).map Prod.fst).getD text

/-- The lower-case hexadecimal digits of a number below `2 ^ 16`, no leading zeros. -/
def groupText (group : Nat) : List Char := Nat.toDigits 16 group

/-- The eight 16-bit groups of an IPv6 address. -/
def groupsOf (bits : BitVec 128) : List Nat :=
  (range 8).map fun index => bits.toNat / 65536 ^ (7 - index) % 65536

/-- Length of the run of zero groups starting at a position. -/
def zeroRun (groups : List Nat) (start : Nat) : Nat :=
    ((groups.drop start).takeWhile (· = 0)).length

/-- The first longest run of at least two zero groups, as start and length. -/
def longestZeroRun (groups : List Nat) : Option (Nat × Nat) :=
  (range groups.length).foldl (fun best start =>
    if zeroRun groups start > max 1 ((best.map Prod.snd).getD 1) then
      some (start, zeroRun groups start)
    else best) none

private def colonSeparated (groups : List Nat) : List Char :=
  intercalate [':'] (groups.map groupText)

private def dotted (value : Nat) : List Char :=
  intercalate ['.'] <| [3, 2, 1, 0].map fun octet => Nat.toDigits 10 (value / 256 ^ octet % 256)

/-- `Addr.String`. -/
def Addr.text (addr : Addr) : List Char :=
  match addr with
  | .v4 bits => dotted bits.toNat
  | .v6 bits zone =>
    let body :=
      if addr.is4In6 then "::ffff:".toList ++ dotted (bits.toNat % 2 ^ 32)
      else
        match longestZeroRun (groupsOf bits) with
        | none => colonSeparated (groupsOf bits)
        | some (start, length) =>
          colonSeparated ((groupsOf bits).take start) ++ "::".toList ++
            colonSeparated ((groupsOf bits).drop (start + length))
    if zone = "" then body else body ++ '%' :: zone.toList

theorem length_toDigits_octet (value : Nat) : (Nat.toDigits 10 (value % 256)).length ≤ 3 :=
  Nat.toDigits_length 10 (value % 256) 3 (by decide) (by omega)

/-- The text of an IPv4 address is short. -/
theorem length_text_v4 (bits : BitVec 32) : (Addr.v4 bits).text.length ≤ 15 := by
  have first := length_toDigits_octet (bits.toNat / 256 ^ 3)
  have second := length_toDigits_octet (bits.toNat / 256 ^ 2)
  have third := length_toDigits_octet (bits.toNat / 256 ^ 1)
  have fourth := length_toDigits_octet (bits.toNat / 256 ^ 0)
  simp only [Addr.text, dotted, map_cons, map_nil, intercalate, intersperse,
    flatten_cons, flatten_nil, length_append, length_cons, length_nil]
  omega

example : parseAddr "::ffff:192.0.2.1" = some (.v6 0xffffc0000201#128 "") := by decide
example : parseAddr "fe80::1%eth0" = some (.v6 0xfe800000000000000000000000000001#128 "eth0") := by
  decide
example : (parsePrefix "2001:db8::/32").map (fun block => (block.addr, block.bits)) =
    some (.v6 0x20010db8000000000000000000000000#128 "", 32) := by decide
example : (Addr.v6 0x20010db8000000000000000000000001#128 "").text =
  "2001:db8::1".toList := by decide

end Bacchus.Netip
