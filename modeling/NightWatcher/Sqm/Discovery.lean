import NightWatcher.Lib.Ipv4
import NightWatcher.Lib.NumberText

/-!
# `discovery.cpp`: the hosts of a subnet

A scan asks every host of a block in CIDR notation. `cidrHosts` reads the notation and counts up
from the first host to the last, in a `uint32_t` that wraps behind 255.255.255.255.

`Host` says which addresses a block's hosts are, by the bits they share with the given one, and
`cidr_hosts_exact` that they are what is returned.
-/

namespace NightWatcher.Sqm

open Ipv4 NumberText

/-- The text that `c_str()` shows to a C function. -/
def cString (cs : List Char) : List Char := cs.takeWhile fun c => c.toNat ≠ 0

def ipv4ToU32 (s : List Char) : Except String (BitVec 32) :=
  match inetPton (cString s) with
  | none => .error ("invalid IPv4 address: " ++ String.ofList s)
  | some v => .ok v

def u32ToIpv4 (v : BitVec 32) : String := String.ofList (inetNtop v)

/-- The loop over the hosts, which ends behind `last`. -/
def hostsFrom (a last : BitVec 32) : List String :=
  u32ToIpv4 a :: if a = last then [] else hostsFrom (a + 1) last
  termination_by (last - a).toNat
  decreasing_by
    rename_i hne
    bv_omega

def cidrHosts (cidr : String) : Except String (List String) := do
  if '/' ∉ cidr.toList then
    throw ("expected CIDR like 192.168.1.0/24: " ++ cidr)
  let base := cidr.toList.takeWhile (· ≠ '/')
  let len ← stoi (cidr.toList.dropWhile (· ≠ '/')).tail
  if len < 0 ∨ 32 < len then
    throw ("invalid CIDR prefix: " ++ cidr)
  let ip ← ipv4ToU32 base
  let mask := netmask len.toNat
  let network := ip &&& mask
  let broadcast := network ||| ~~~mask
  let first := if len ≤ 30 then network + 1 else network
  let last := if len ≤ 30 then broadcast - 1 else broadcast
  -- in 64 bits
  let count := (last.toNat + 2 ^ 64 - first.toNat + 1) % 2 ^ 64
  if 65536 < count then
    throw ("subnet too large to scan (" ++ toString count ++ " hosts); use a /16 or smaller range")
  return hostsFrom first last

/-! ## The hosts of a block -/

/-- The addresses that share the leading `len` bits with `ip`. -/
def InSubnet (ip : BitVec 32) (len : Nat) (a : BitVec 32) : Prop :=
  a.toNat / 2 ^ (32 - len) = ip.toNat / 2 ^ (32 - len)

/-- The lowest and the highest address of a subnet. -/
def networkAddress (ip : BitVec 32) (len : Nat) : Nat :=
  ip.toNat / 2 ^ (32 - len) * 2 ^ (32 - len)

def broadcastAddress (ip : BitVec 32) (len : Nat) : Nat :=
  networkAddress ip len + (2 ^ (32 - len) - 1)

/-- The addresses of a subnet that a host can have. -/
structure Host (ip : BitVec 32) (len : Nat) (a : BitVec 32) : Prop where
  inside : InSubnet ip len a
  usable : len ≤ 30 → a.toNat ≠ networkAddress ip len ∧ a.toNat ≠ broadcastAddress ip len

/-- How many there are. -/
def hostCount (len : Nat) : Nat := if len ≤ 30 then 2 ^ (32 - len) - 2 else 2 ^ (32 - len)

/-- An address and the length of a subnet, as they are written. -/
def cidrText (ip : BitVec 32) (len : Nat) : String :=
  String.ofList (inetNtop ip ++ '/' :: Nat.toDigits 10 len)

theorem inSubnet_iff {ip : BitVec 32} {len : Nat} {a : BitVec 32} :
    InSubnet ip len a ↔ networkAddress ip len ≤ a.toNat ∧ a.toNat ≤ broadcastAddress ip len := by
  have hpos : 0 < 2 ^ (32 - len) := Nat.two_pow_pos _
  unfold InSubnet broadcastAddress networkAddress
  rw [Nat.div_eq_iff hpos, Nat.add_sub_assoc hpos]

/-- The loop counts up, for it does not begin behind its end. -/
theorem hostsFrom_eq {first last : BitVec 32} (h : first.toNat ≤ last.toNat) :
    hostsFrom first last = (List.range' first.toNat (last.toNat + 1 - first.toNat)).map
      fun n => u32ToIpv4 (BitVec.ofNat 32 n) := by
  induction hn : last.toNat - first.toNat generalizing first with
  | zero =>
    have heq : first = last := BitVec.eq_of_toNat_eq (by omega)
    have hone : last.toNat + 1 - first.toNat = 1 := by omega
    rw [hostsFrom, if_pos heq, hone, List.range'_one, List.map_singleton, BitVec.ofNat_toNat,
      BitVec.setWidth_eq]
  | succ n ih =>
    have hlast := last.isLt
    have hne : first ≠ last := fun heq => by
      rw [heq] at hn
      omega
    have hnext : (first + 1).toNat = first.toNat + 1 := by
      rw [BitVec.toNat_add]
      exact Nat.mod_eq_of_lt (by show first.toNat + 1 < 2 ^ 32; omega)
    have hstep : last.toNat + 1 - first.toNat = (last.toNat + 1 - (first + 1).toNat) + 1 := by omega
    rw [hostsFrom, if_neg hne, ih (by omega) (by omega), hstep, List.range'_succ, List.map_cons,
      BitVec.ofNat_toNat, BitVec.setWidth_eq, hnext]

/-- The subnet ends within the address space. -/
theorem broadcastAddress_lt (ip : BitVec 32) {len : Nat} (h : len ≤ 32) :
    broadcastAddress ip len < 2 ^ 32 := by
  unfold broadcastAddress networkAddress
  rw [← mask_or ip h]
  exact BitVec.isLt _

theorem block_size {len : Nat} (h : len ≤ 32) :
    (len ≤ 30 → 4 ≤ 2 ^ (32 - len)) ∧ 1 ≤ 2 ^ (32 - len) ∧ 2 ^ (32 - len) ≤ 2 ^ 32 := by
  refine ⟨fun hlen => ?_, Nat.one_le_two_pow, Nat.pow_le_pow_right (by decide) (by omega)⟩
  calc 4 = 2 ^ 2 := rfl
    _ ≤ 2 ^ (32 - len) := Nat.pow_le_pow_right (by decide) (by omega)

/-- The first host, by number. -/
def firstHost (ip : BitVec 32) (len : Nat) : Nat :=
  if len ≤ 30 then networkAddress ip len + 1 else networkAddress ip len

/-- The hosts follow one another. -/
theorem host_iff {ip : BitVec 32} {len : Nat} (h : len ≤ 32) {a : BitVec 32} :
    Host ip len a ↔ firstHost ip len ≤ a.toNat ∧ a.toNat < firstHost ip len + hostCount len := by
  obtain ⟨hfour, hone, -⟩ := block_size h
  have hin := @inSubnet_iff ip len a
  unfold broadcastAddress at hin
  unfold firstHost hostCount
  by_cases hlen : len ≤ 30
  · have hsize := hfour hlen
    rw [if_pos hlen, if_pos hlen]
    constructor
    · intro ⟨hinside, husable⟩
      have hends := husable hlen
      unfold broadcastAddress at hends
      have hbounds := hin.mp hinside
      omega
    · intro hbounds
      refine ⟨hin.mpr (by omega), fun _ => ?_⟩
      unfold broadcastAddress
      omega
  · rw [if_neg hlen, if_neg hlen]
    constructor
    · intro ⟨hinside, _⟩
      have hbounds := hin.mp hinside
      omega
    · intro hbounds
      exact ⟨hin.mpr (by omega), fun h => absurd h hlen⟩

theorem ipv4ToU32_inetNtop (ip : BitVec 32) : ipv4ToU32 (inetNtop ip) = .ok ip := by
  have hwhole : cString (inetNtop ip) = inetNtop ip := by
    refine List.takeWhile_eq_self_iff.mpr fun c hc => decide_eq_true ?_
    rcases mem_inetNtop hc with h | h
    · rw [h]
      decide
    · have hrange : 48 ≤ c.toNat := by
        simp only [Char.isDigit, Bool.and_eq_true, decide_eq_true_eq, UInt32.le_iff_toNat_le] at h
        exact h.1
      omega
  unfold ipv4ToU32
  rw [hwhole, inetPton_inetNtop]

/-- The two ends of the loop. -/
theorem host_ends (ip : BitVec 32) {len : Nat} (h : len ≤ 32) :
    (if (len : Int) ≤ 30 then (ip &&& netmask len) + 1 else ip &&& netmask len).toNat =
        firstHost ip len ∧
      (if (len : Int) ≤ 30 then (ip &&& netmask len ||| ~~~netmask len) - 1
        else ip &&& netmask len ||| ~~~netmask len).toNat + 1 =
        firstHost ip len + hostCount len := by
  obtain ⟨hfour, hone, -⟩ := block_size h
  have hlast := broadcastAddress_lt ip h
  have hfirst : (ip &&& netmask len).toNat = networkAddress ip len := mask_and ip h
  have hbroadcast : (ip &&& netmask len ||| ~~~netmask len).toNat = broadcastAddress ip len :=
    mask_or ip h
  unfold broadcastAddress at hlast hbroadcast
  unfold firstHost hostCount
  by_cases hlen : len ≤ 30
  · have hsize := hfour hlen
    have hunit : (1 : BitVec 32).toNat = 1 := rfl
    have hint : (len : Int) ≤ 30 := by omega
    rw [if_pos hint, if_pos hint, if_pos hlen, if_pos hlen, BitVec.toNat_add, BitVec.toNat_sub,
      hfirst, hbroadcast, hunit]
    omega
  · have hint : ¬(len : Int) ≤ 30 := by omega
    rw [if_neg hint, if_neg hint, if_neg hlen, if_neg hlen, hfirst, hbroadcast]
    omega

theorem hostCount_pos {len : Nat} (h : len ≤ 32) : 0 < hostCount len := by
  obtain ⟨hfour, hone, -⟩ := block_size h
  unfold hostCount
  by_cases hlen : len ≤ 30
  · have hsize := hfour hlen
    rw [if_pos hlen]
    omega
  · rw [if_neg hlen]
    omega

/-- What is returned for a subnet that is written as usual. -/
theorem cidrHosts_text (ip : BitVec 32) {len : Nat} (h : len ≤ 32) :
    cidrHosts (cidrText ip len) =
      if 65536 < hostCount len then
        .error ("subnet too large to scan (" ++ toString (hostCount len) ++
          " hosts); use a /16 or smaller range")
      else
        .ok ((List.range' (firstHost ip len) (hostCount len)).map
          fun n => u32ToIpv4 (BitVec.ofNat 32 n)) := by
  have htext : (cidrText ip len).toList = inetNtop ip ++ '/' :: Nat.toDigits 10 len :=
    String.toList_ofList
  -- an address has no slash in it, so the text is cut where it was put together
  have haddress : ∀ c ∈ inetNtop ip, decide (c ≠ '/') = true := by
    intro c hc
    refine decide_eq_true fun heq => ?_
    rw [heq] at hc
    exact absurd (mem_inetNtop hc) (by decide)
  have hbase : (cidrText ip len).toList.takeWhile (· ≠ '/') = inetNtop ip := by
    rw [htext, List.takeWhile_append_of_pos haddress, List.takeWhile_cons_of_neg (by decide),
      List.append_nil]
  have hlength : ((cidrText ip len).toList.dropWhile (· ≠ '/')).tail = Nat.toDigits 10 len := by
    rw [htext, List.dropWhile_append_of_pos haddress, List.dropWhile_cons_of_neg (by decide)]
    rfl
  have hslash : ¬ '/' ∉ (cidrText ip len).toList := by
    rw [htext]
    exact not_not.mpr (List.mem_append_right _ List.mem_cons_self)
  obtain ⟨hfirst, hlast⟩ := host_ends ip h
  have hpos := hostCount_pos h
  unfold cidrHosts
  rw [if_neg hslash, hbase, hlength, stoi_toDigits (by omega)]
  simp only [bind, Except.bind, pure, Except.pure]
  rw [if_neg (by omega), ipv4ToU32_inetNtop]
  dsimp only
  rw [Int.toNat_natCast]
  -- the loop runs on 64-bit counters, over a range that fits 32 bits
  generalize (if (len : Int) ≤ 30 then (ip &&& netmask len) + 1 else ip &&& netmask len) = first
    at hfirst ⊢
  generalize (if (len : Int) ≤ 30 then (ip &&& netmask len ||| ~~~netmask len) - 1
    else ip &&& netmask len ||| ~~~netmask len) = last at hlast ⊢
  have hbits := last.isLt
  have hrange : (last.toNat + 2 ^ 64 - first.toNat + 1) % 2 ^ 64 = hostCount len := by omega
  have hsteps : last.toNat + 1 - first.toNat = hostCount len := by omega
  rw [hrange, hostsFrom_eq (by omega), hsteps, hfirst]
  split
  · rfl
  · rfl

theorem hosts_lt (ip : BitVec 32) {len : Nat} (h : len ≤ 32) :
    firstHost ip len + hostCount len ≤ 2 ^ 32 := by
  rw [← (host_ends ip h).2]
  exact BitVec.isLt _

theorem mem_hosts (ip : BitVec 32) {len : Nat} (h : len ≤ 32) (a : BitVec 32) :
    a ∈ (List.range' (firstHost ip len) (hostCount len)).map (BitVec.ofNat 32) ↔
      firstHost ip len ≤ a.toNat ∧ a.toNat < firstHost ip len + hostCount len := by
  have hend := hosts_lt ip h
  rw [List.mem_map]
  constructor
  · intro ⟨n, hn, ha⟩
    have hbounds := List.mem_range'_1.mp hn
    rw [← ha, BitVec.toNat_ofNat, Nat.mod_eq_of_lt (by omega)]
    exact hbounds
  · intro hbounds
    exact ⟨a.toNat, List.mem_range'_1.mpr hbounds, by rw [BitVec.ofNat_toNat, BitVec.setWidth_eq]⟩

theorem hosts_ascend (ip : BitVec 32) {len : Nat} (h : len ≤ 32) :
    ((List.range' (firstHost ip len) (hostCount len)).map (BitVec.ofNat 32)).Pairwise
      fun a b => a.toNat < b.toNat := by
  have hend := hosts_lt ip h
  refine List.pairwise_map.mpr (List.Pairwise.imp_of_mem ?_ List.pairwise_lt_range')
  intro n m hn hm hlt
  have hn := List.mem_range'_1.mp hn
  have hm := List.mem_range'_1.mp hm
  rw [BitVec.toNat_ofNat, BitVec.toNat_ofNat, Nat.mod_eq_of_lt (by omega), Nat.mod_eq_of_lt (by omega)]
  exact hlt

/-- A subnet is refused exactly if it has more than 65536 hosts; of any other the hosts are
returned, each once and in ascending order. -/
theorem cidr_hosts_exact (ip : BitVec 32) {len : Nat} (h : len ≤ 32) :
    ((∃ e, cidrHosts (cidrText ip len) = .error e) ↔ 65536 < hostCount len) ∧
      (hostCount len ≤ 65536 → ∃ hosts : List (BitVec 32),
        cidrHosts (cidrText ip len) = .ok (hosts.map u32ToIpv4) ∧
        hosts.Pairwise (fun a b => a.toNat < b.toNat) ∧ (hosts.map u32ToIpv4).Nodup ∧
        hosts.length = hostCount len ∧ ∀ a, a ∈ hosts ↔ Host ip len a) := by
  rw [cidrHosts_text ip h]
  refine ⟨?_, fun hcount => ⟨(List.range' (firstHost ip len) (hostCount len)).map (BitVec.ofNat 32),
    ?_, ?_, ?_, ?_, fun a => ?_⟩⟩
  · constructor
    · intro ⟨e, he⟩
      by_contra hcount
      rw [if_neg hcount] at he
      cases he
    · intro hcount
      exact ⟨_, if_pos hcount⟩
  · rw [if_neg (by omega), List.map_map]
    rfl
  · exact hosts_ascend ip h
  · refine List.pairwise_map.mpr ((hosts_ascend ip h).imp fun hlt htext => ?_)
    rw [inetNtop_injective (String.ofList_injective htext)] at hlt
    exact Nat.lt_irrefl _ hlt
  · rw [List.length_map, List.length_range']
  · rw [mem_hosts ip h, host_iff h]

/-- The last subnet of the address space has its last address. -/
theorem cidr_hosts_exact_end :
    ((∃ e, cidrHosts (cidrText 0xFFFFFFFE#32 31) = .error e) ↔ 65536 < hostCount 31) ∧
      (hostCount 31 ≤ 65536 → ∃ hosts : List (BitVec 32),
        cidrHosts (cidrText 0xFFFFFFFE#32 31) = .ok (hosts.map u32ToIpv4) ∧
        hosts.Pairwise (fun a b => a.toNat < b.toNat) ∧ (hosts.map u32ToIpv4).Nodup ∧
        hosts.length = hostCount 31 ∧ ∀ a, a ∈ hosts ↔ Host 0xFFFFFFFE#32 31 a) :=
  cidr_hosts_exact 0xFFFFFFFE#32 (by decide)

end NightWatcher.Sqm
