import Mathlib.Algebra.Order.Ring.Int

set_option autoImplicit false

/-! # Addresses that are not fetched

`isDeniedIP`, which `trust/preview_fetcher.go` and `outboundhttp/ssrf_client.go` have in the same words. A
`net.IP` is a list of bytes, of which 4 or 16 are an address; a `netip.Addr` is such a list.

An IPv4 address can also be written in 16 bytes. A dialer prints an address and reads it back, which leaves the
short form, so `isDeniedIP_Unmap` is what makes the check an answer about the connection. -/

namespace LesserHost.Outbound

abbrev IP := List UInt8

/-! ## The forms of an address -/

/-- The first 12 bytes of an IPv4 address in 16 bytes. -/
def mappedPrefix : IP := [0, 0, 0, 0, 0, 0, 0, 0, 0, 0, 0xff, 0xff]

def Is4In6 (ip : IP) : Prop := ip.length = 16 ∧ ip.take 12 = mappedPrefix

instance (ip : IP) : Decidable (Is4In6 ip) := inferInstanceAs (Decidable (_ ∧ _))

/-- `netip.Addr.Unmap`. -/
def Unmap (ip : IP) : IP := if Is4In6 ip then ip.drop 12 else ip

/-- `net.IP.To4`. -/
def To4 (ip : IP) : Option IP :=
  if ip.length = 4 then some ip else if Is4In6 ip then some (ip.drop 12) else none

def byte (ip : IP) (i : Nat) : UInt8 := ip.getD i 0

def value (ip : IP) : Nat := ip.foldl (fun n b => 256 * n + b.toNat) 0

/-! ## Kinds of addresses -/

def IsUnspecified (addr : IP) : Bool := addr.all fun b => b == 0

def IsLoopback (addr : IP) : Bool :=
  if addr.length = 4 then byte addr 0 == 127 else value addr == 1

def IsMulticast (addr : IP) : Bool :=
  if addr.length = 4 then byte addr 0 &&& 0xf0 == 0xe0 else byte addr 0 == 0xff

def IsLinkLocalUnicast (addr : IP) : Bool :=
  if addr.length = 4 then byte addr 0 == 169 && byte addr 1 == 254
  else byte addr 0 == 0xfe && byte addr 1 &&& 0xc0 == 0x80

def IsLinkLocalMulticast (addr : IP) : Bool :=
  if addr.length = 4 then byte addr 0 == 224 && byte addr 1 == 0 && byte addr 2 == 0
  else byte addr 0 == 0xff && byte addr 1 &&& 0x0f == 0x02

/-- `net.IP.IsPrivate`. -/
def IsPrivate (ip : IP) : Bool :=
  match To4 ip with
  | some ip4 =>
      byte ip4 0 == 10 || (byte ip4 0 == 172 && byte ip4 1 &&& 0xf0 == 16) ||
        (byte ip4 0 == 192 && byte ip4 1 == 168)
  | none => ip.length == 16 && byte ip 0 &&& 0xfe == 0xfc

structure Prefix where
  addr : IP
  bits : Nat

/-- The address has the length and the first bits of the prefix. -/
def Prefix.Contains (pfx : Prefix) (addr : IP) : Bool :=
  addr.length == pfx.addr.length &&
    value addr / 2 ^ (8 * addr.length - pfx.bits) == value pfx.addr / 2 ^ (8 * addr.length - pfx.bits)

/-- An address of 16 bytes by its first ones. -/
def v6 (first : List UInt8) : IP := first ++ List.replicate (16 - first.length) 0

def deniedIPRanges : List Prefix :=
  [⟨[0, 0, 0, 0], 8⟩, ⟨[10, 0, 0, 0], 8⟩, ⟨[100, 64, 0, 0], 10⟩, ⟨[127, 0, 0, 0], 8⟩, ⟨[169, 254, 0, 0], 16⟩,
    ⟨[172, 16, 0, 0], 12⟩, ⟨[192, 0, 0, 0], 24⟩, ⟨[192, 0, 2, 0], 24⟩, ⟨[192, 168, 0, 0], 16⟩,
    ⟨[198, 18, 0, 0], 15⟩, ⟨[198, 51, 100, 0], 24⟩, ⟨[203, 0, 113, 0], 24⟩, ⟨[224, 0, 0, 0], 4⟩,
    ⟨[240, 0, 0, 0], 4⟩, ⟨v6 [], 128⟩, ⟨v6 [0, 0, 0, 0, 0, 0, 0, 0, 0, 0, 0, 0, 0, 0, 0, 1], 128⟩,
    ⟨v6 [0xfc], 7⟩, ⟨v6 [0xfe, 0x80], 10⟩, ⟨v6 [0xff], 8⟩, ⟨v6 [0x20, 0x01, 0x0d, 0xb8], 32⟩]

def isDeniedIP (ip : IP) : Bool :=
  if ip.length = 4 ∨ ip.length = 16 then
    let addr := Unmap ip
    IsUnspecified addr || IsLoopback addr || IsMulticast addr || IsLinkLocalUnicast addr ||
      IsLinkLocalMulticast addr || (deniedIPRanges.any fun pfx => pfx.Contains addr) || IsPrivate ip
  else
    -- `netip.AddrFromSlice` fails
    true

/-! ## One answer for both forms -/

theorem length_drop_mapped {ip : IP} (h : Is4In6 ip) : (ip.drop 12).length = 4 := by
  rw [List.length_drop, h.1]

theorem not_is4In6_of_length {ip : IP} (h : ip.length = 4) : ¬ Is4In6 ip := by
  intro hmapped
  rw [hmapped.1] at h
  cases h

theorem Unmap_Unmap (ip : IP) : Unmap (Unmap ip) = Unmap ip := by
  by_cases h : Is4In6 ip
  · have hshort : Unmap ip = ip.drop 12 := if_pos h
    rw [hshort, Unmap, if_neg (not_is4In6_of_length (length_drop_mapped h))]
  · have hsame : Unmap ip = ip := if_neg h
    rw [hsame, hsame]

theorem To4_Unmap (ip : IP) : To4 (Unmap ip) = To4 ip := by
  by_cases h : Is4In6 ip
  · have hlong : ip.length ≠ 4 := fun hlength => not_is4In6_of_length hlength h
    rw [Unmap, if_pos h, To4, To4, if_pos (length_drop_mapped h), if_neg hlong, if_pos h]
  · rw [Unmap, if_neg h]

theorem IsPrivate_Unmap (ip : IP) : IsPrivate (Unmap ip) = IsPrivate ip := by
  by_cases h : Is4In6 ip
  · have hshort : To4 ip = some (ip.drop 12) := by
      rw [To4, if_neg (fun hlength => not_is4In6_of_length hlength h), if_pos h]
    simp only [IsPrivate, To4_Unmap, hshort]
  · rw [Unmap, if_neg h]

/-- **The check does not depend on the form of an address.** -/
theorem isDeniedIP_Unmap (ip : IP) : isDeniedIP (Unmap ip) = isDeniedIP ip := by
  by_cases h : Is4In6 ip
  · have hlength : (Unmap ip).length = 4 := by
      rw [Unmap, if_pos h]
      exact length_drop_mapped h
    rw [isDeniedIP, isDeniedIP, if_pos (Or.inl hlength), if_pos (Or.inr h.1), Unmap_Unmap, IsPrivate_Unmap]
  · rw [Unmap, if_neg h]

example : isDeniedIP [0, 0, 0, 0, 0, 0, 0, 0, 0, 0, 0xff, 0xff, 169, 254, 169, 254] = true ∧
    isDeniedIP (v6 [0xfd, 0x12]) = true ∧ isDeniedIP [1, 1, 1, 1] = false := by
  decide +kernel

end LesserHost.Outbound
