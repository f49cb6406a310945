import NightWatcher.Lib.WorkPool
import NightWatcher.Sqm.Discovery
import NightWatcher.World

/-!
# `discovery.cpp`: the scans

`discover` asks every host of a subnet for its unit information, `discover_serial`
every serial device, each with a pool of threads behind one atomic counter. A scan is
a run of that pool, in whatever order the threads get their turns.

The order leaves no trace: every scan of a subnet comes to the answer that asking one
host after the other gives (`discover_exact`), and every scan of the serial devices to
the devices that answer, by path (`discover_serial_exact`). A device is asked once, under
one of its names (`serial_devices_once`).
-/

namespace NightWatcher.Sqm

open WorkPool

/-! ## The pool of a scan -/

/-- What comes of opening an address and asking it `ix`: a line, or an exception. -/
abbrev Replies := String → Except String String

/-- The body of the `try` of a worker. -/
def probe (codec : Codec) (reply : Replies) (address : String) : Option UnitInfo :=
  match reply address >>= codec.parseUnitInfo with
  | .ok info => some info
  | .error _ => none

/-- What is pushed for the job of this number. -/
def pushed {ρ : Type} (codec : Codec) (reply : Replies) (make : String → UnitInfo → ρ)
    (jobs : List String) (i : Nat) : Option ρ :=
  jobs[i]?.bind fun address => (probe codec reply address).map (make address)

/-- `nthreads` -/
def threads (concurrency : Int) (jobs : List String) : Nat :=
  (max 1 (min concurrency jobs.length)).toNat

theorem threads_pos (concurrency : Int) (jobs : List String) : 0 < threads concurrency jobs := by
  unfold threads
  omega

/-- Where a scan of the jobs may have come to, by any interleaving of its threads. -/
def Scanning {ρ : Type} (codec : Codec) (reply : Replies) (make : String → UnitInfo → ρ)
    (jobs : List String) (nthreads : Nat) : Pool ρ → Prop :=
  Runs jobs.length (pushed codec reply make jobs) (start nthreads)

theorem scanning_start {ρ : Type} (codec : Codec) (reply : Replies) (make : String → UnitInfo → ρ)
    (jobs : List String) (nthreads : Nat) :
    Scanning codec reply make jobs nthreads (start nthreads) := .refl

section Pools

variable {ρ : Type} {codec : Codec} {reply : Replies} {make : String → UnitInfo → ρ}
  {jobs : List String}

/-- Whatever the threads have done so far, they can go on to the end. -/
theorem Scanning.brought_to_end {nthreads : Nat} {p : Pool ρ}
    (h : Scanning codec reply make jobs nthreads p) :
    ∃ p', Scanning codec reply make jobs nthreads p' ∧ Ended p' ∧
      Runs jobs.length (pushed codec reply make jobs) p p' := by
  obtain ⟨p', hrest, hend⟩ := comes_to_end jobs.length (pushed codec reply make jobs) p
  exact ⟨p', h.trans hrest, hend, hrest⟩

/-- A job's number stands for its address. -/
theorem pushed_range : (List.range jobs.length).filterMap (pushed codec reply make jobs) =
    jobs.filterMap fun address => (probe codec reply address).map (make address) := by
  induction jobs using List.reverseRecOn with
  | nil => rfl
  | append_singleton jobs last ih =>
    rw [List.length_append, List.length_singleton, List.range_succ, List.filterMap_append,
      List.filterMap_append, ← ih]
    congr 1
    · refine List.filterMap_congr fun i hi => ?_
      unfold pushed
      rw [List.getElem?_append_left (List.mem_range.mp hi)]
    · show [jobs.length].filterMap _ = [last].filterMap _
      have hlast : (jobs ++ [last])[jobs.length]? = some last := by simp
      unfold pushed
      rw [List.filterMap_cons, List.filterMap_cons, hlast]
      rfl

/-- Distinct ascending keys fix the order of a sorted list. -/
theorem mergeSort_eq {α κ : Type} [LinearOrder κ] {key : α → κ} {l target : List α} (h : l.Perm target)
    (hsorted : (target.map key).Pairwise (· < ·)) :
    l.mergeSort (fun a b => decide (key a ≤ key b)) = target := by
  have hperm := (List.mergeSort_perm l fun a b => decide (key a ≤ key b)).trans h
  have hle : (l.mergeSort fun a b => decide (key a ≤ key b)).Pairwise fun a b =>
    decide (key a ≤ key b) = true :=
    List.pairwise_mergeSort (fun a b c hab hbc => by
      rw [decide_eq_true_iff] at hab hbc ⊢
      exact hab.trans hbc)
    (fun a b => by
      rw [Bool.or_eq_true, decide_eq_true_iff, decide_eq_true_iff]
      exact le_total _ _) l
  have htarget : target.Pairwise fun a b => decide (key a ≤ key b) = true :=
    (List.pairwise_map.mp hsorted).imp fun hlt => decide_eq_true hlt.le
  have hnodup : (target.map key).Nodup := hsorted.imp fun hlt => hlt.ne
  refine hperm.eq_of_pairwise (fun a b ha hb hab hba => ?_) hle htarget
  rw [decide_eq_true_iff] at hab hba
  exact List.inj_on_of_nodup_map hnodup (hperm.subset ha) hb (hab.antisymm hba)

end Pools

/-! ## Subnets -/

structure Discovered where
  ip : String
  info : UnitInfo

/-- `std::sort` by address; the comparison throws on what is none. -/
def sortByIp (results : List Discovered) : Except String (List Discovered) := do
  let keyed ← results.mapM fun r => do
    let v ← ipv4ToU32 r.ip.toList
    return (v.toNat, r)
  return (keyed.mergeSort fun a b => decide (a.1 ≤ b.1)).map Prod.snd

/-- What a call of `discover` can come to. -/
inductive Discovers (codec : Codec) (reply : Replies) (cidr : String) (concurrency : Int) :
    Except String (List Discovered) → Prop
  | refused {e : String} (h : cidrHosts cidr = .error e) : Discovers codec reply cidr concurrency
        (.error e)
  | scanned {hosts : List String} (h : cidrHosts cidr = .ok hosts) {p : Pool Discovered}
    (hrun : Scanning codec reply Discovered.mk hosts (threads concurrency hosts) p)
    (hend : Ended p) : Discovers codec reply cidr concurrency (sortByIp p.results)

/-- One host after the other. -/
def askInTurn (codec : Codec) (reply : Replies) (hosts : List String) : List Discovered :=
  hosts.filterMap fun ip => (probe codec reply ip).map (Discovered.mk ip)

/-- The hosts of a block count up. -/
theorem cidrHosts_ascend {cidr : String} {hosts : List String} (h : cidrHosts cidr = .ok hosts) :
    ∃ as : List (BitVec 32), hosts = as.map u32ToIpv4 ∧ as.Pairwise fun a b => a.toNat < b.toNat := by
  unfold cidrHosts at h
  simp only [bind, Except.bind, pure, Except.pure] at h
  split at h
  · cases h
  split at h
  · cases h
  split at h
  · cases h
  next len _ hrange =>
    split at h
    · cases h
    next ip _ =>
      -- the two ends, which the length of the prefix decides
      obtain ⟨n, rfl⟩ : ∃ n : Nat, len = n := ⟨len.toNat, by omega⟩
      have hn : n ≤ 32 := by omega
      obtain ⟨hfirst, hlast⟩ := host_ends ip hn
      rw [Int.toNat_natCast] at h
      generalize (if (n : Int) ≤ 30 then (ip &&& Ipv4.netmask n) + 1 else ip &&& Ipv4.netmask n) = first
        at hfirst h
      generalize (if (n : Int) ≤ 30 then (ip &&& Ipv4.netmask n ||| ~~~Ipv4.netmask n) - 1
        else ip &&& Ipv4.netmask n ||| ~~~Ipv4.netmask n) = last at hlast h
      split at h
      · cases h
      · have hpos := hostCount_pos hn
        have hsteps : last.toNat + 1 - first.toNat = hostCount n := by omega
        rw [← Except.ok.inj h, hostsFrom_eq (by omega), hsteps, hfirst]
        refine ⟨(List.range' (firstHost ip n) (hostCount n)).map (BitVec.ofNat 32), ?_,
            hosts_ascend ip hn⟩
        rw [List.map_map]
        rfl

theorem ipv4ToU32_u32ToIpv4 (v : BitVec 32) : ipv4ToU32 (u32ToIpv4 v).toList = .ok v := by
  unfold u32ToIpv4
  rw [String.toList_ofList, ipv4ToU32_inetNtop]

/-- The number of an address. -/
def hostNumber (ip : String) : Nat := ((ipv4ToU32 ip.toList).toOption.map BitVec.toNat).getD 0

theorem hostNumber_u32ToIpv4 (v : BitVec 32) : hostNumber (u32ToIpv4 v) = v.toNat := by
  unfold hostNumber
  rw [ipv4ToU32_u32ToIpv4]
  rfl

/-- Where every result has an address, the sort has a key for each. -/
theorem sortByIp_eq {results : List Discovered}
    (h : ∀ r ∈ results, ∃ v, ipv4ToU32 r.ip.toList = .ok v) :
    sortByIp results =
      .ok (results.mergeSort fun a b => decide (hostNumber a.ip ≤ hostNumber b.ip)) := by
  have hkeyed : results.mapM (fun r => do
      let v ← ipv4ToU32 r.ip.toList
      return (v.toNat, r)) = Except.ok (ε := String) (results.map fun r => (hostNumber r.ip, r)) := by
    induction results with
    | nil => rfl
    | cons r rest ih =>
      obtain ⟨v, hv⟩ := h r List.mem_cons_self
      have hnumber : hostNumber r.ip = v.toNat := by
        unfold hostNumber
        rw [hv]
        rfl
      rw [List.mapM_cons, ih fun x hx => h x (List.mem_cons_of_mem _ hx), hv, List.map_cons, hnumber]
      rfl
  unfold sortByIp
  rw [hkeyed]
  show Except.ok _ = Except.ok _
  rw [← List.map_mergeSort (r := fun a b => decide (hostNumber a.ip ≤ hostNumber b.ip))
    fun _ _ _ _ => rfl, List.map_map]
  exact congrArg _ (List.map_id _)

/-- What is found on ascending hosts is sorted as it is. -/
theorem sortByIp_found {codec : Codec} {reply : Replies} {as : List (BitVec 32)}
    {results : List Discovered}
    (hascend : as.Pairwise fun a b => a.toNat < b.toNat)
    (hfound : results.Perm (askInTurn codec reply (as.map u32ToIpv4))) :
    sortByIp results = .ok (askInTurn codec reply (as.map u32ToIpv4)) := by
  have haddress : ∀ r ∈ results, ∃ v, ipv4ToU32 r.ip.toList = .ok v := by
    intro r hr
    obtain ⟨ip, hip, hr⟩ := List.mem_filterMap.mp (hfound.subset hr)
    obtain ⟨v, -, rfl⟩ := List.mem_map.mp hip
    obtain ⟨info, -, rfl⟩ := Option.map_eq_some_iff.mp hr
    exact ⟨v, ipv4ToU32_u32ToIpv4 v⟩
  have hsorted : ((askInTurn codec reply (as.map u32ToIpv4)).map fun r => hostNumber r.ip).Pairwise
      (· < ·) := by
    unfold askInTurn
    rw [List.pairwise_map, List.pairwise_filterMap, List.pairwise_map]
    refine hascend.imp fun {a b} hlt r hr r' hr' => ?_
    obtain ⟨_, -, rfl⟩ := Option.map_eq_some_iff.mp hr
    obtain ⟨_, -, rfl⟩ := Option.map_eq_some_iff.mp hr'
    rw [hostNumber_u32ToIpv4, hostNumber_u32ToIpv4]
    exact hlt
  rw [sortByIp_eq haddress, mergeSort_eq hfound hsorted]

/-- However the threads take turns, a scan of a subnet answers what asking its hosts one after the
other answers, and from wherever it has come to a scan can be brought to its end. -/
theorem discover_exact (codec : Codec) (reply : Replies) (cidr : String) (concurrency : Int) :
    (∀ out, Discovers codec reply cidr concurrency out →
      out = (cidrHosts cidr).map (askInTurn codec reply)) ∧
    (∃ out, Discovers codec reply cidr concurrency out) ∧
    ∀ hosts p, cidrHosts cidr = .ok hosts →
      Scanning codec reply Discovered.mk hosts (threads concurrency hosts) p →
      ∃ p', Scanning codec reply Discovered.mk hosts (threads concurrency hosts) p' ∧ Ended p' ∧
        Runs hosts.length (pushed codec reply Discovered.mk hosts) p p' := by
  refine ⟨?_, ?_, fun hosts p _ hrun => hrun.brought_to_end⟩
  · intro out h
    cases h with
    | refused h =>
      rw [h]
      rfl
    | scanned h hrun hend =>
      rename_i hosts p
      obtain ⟨as, rfl, hascend⟩ := cidrHosts_ascend h
      have hfound := (ended (threads_pos concurrency _) hrun hend).2
      rw [pushed_range] at hfound
      rw [h, sortByIp_found hascend hfound]
      rfl
  · cases h : cidrHosts cidr with
    | error e => exact ⟨_, .refused h⟩
    | ok hosts =>
      obtain ⟨p, hrun, hend, -⟩ := (scanning_start codec reply Discovered.mk hosts
        (threads concurrency hosts)).brought_to_end
      exact ⟨_, .scanned h hrun hend⟩

/-! ## Serial devices -/

/-- The device files: the names that `readdir` gives of a directory that can be opened, and what a
path is resolved to. -/
structure DevTree where
  byId : Option (List String)
  dev : Option (List String)
  realpath : String → Option String

/-- What a device is known by: the file its path leads to. -/
def DevTree.target (t : DevTree) (path : String) : String := (t.realpath path).getD path

/-- `add`, on the devices and the targets seen so far. -/
def DevTree.add (t : DevTree) (st : List String × List String) (path : String) :
    List String × List String :=
  if t.target path ∈ st.2 then st else (st.1 ++ [path], t.target path :: st.2)

/-- The stable names. -/
def DevTree.byIdPaths (t : DevTree) : List String :=
  ((t.byId.getD []).filter fun name => name.toList.head? ≠ some '.').map ("/dev/serial/by-id/" ++ ·)

/-- The raw names. -/
def DevTree.rawPaths (t : DevTree) : List String :=
  ((t.dev.getD []).filter fun name =>
    "ttyUSB".toList.isPrefixOf name.toList || "ttyACM".toList.isPrefixOf name.toList).map ("/dev/" ++ ·)

def enumerateSerialDevices (t : DevTree) : List String :=
  (t.rawPaths.foldl t.add (t.byIdPaths.foldl t.add ([], []))).1

structure DiscoveredSerial where
  device : String
  info : UnitInfo

/-- `std::sort` by device path. -/
def sortByDevice (results : List DiscoveredSerial) : List DiscoveredSerial :=
  results.mergeSort fun a b => decide (a.device ≤ b.device)

/-- What a call of `discover_serial` can come to; eight threads at most. -/
inductive DiscoversSerial (codec : Codec) (reply : Replies) (t : DevTree) : List DiscoveredSerial → Prop
  | none (h : enumerateSerialDevices t = []) : DiscoversSerial codec reply t []
  | scanned (h : enumerateSerialDevices t ≠ []) {p : Pool DiscoveredSerial}
    (hrun : Scanning codec reply DiscoveredSerial.mk (enumerateSerialDevices t)
      (threads 8 (enumerateSerialDevices t)) p)
    (hend : Ended p) : DiscoversSerial codec reply t (sortByDevice p.results)

/-- What the devices found so far cover of the paths gone through. -/
structure Covers (t : DevTree) (paths : List String) (st : List String × List String) : Prop where
  seen : st.2 = (st.1.map t.target).reverse
  nodup : (st.1.map t.target).Nodup
  sub : st.1.Sublist paths
  all : ∀ path ∈ paths, t.target path ∈ st.1.map t.target

theorem covers_add {t : DevTree} {paths : List String} {st : List String × List String}
    (h : Covers t paths st) (path : String) : Covers t (paths ++ [path]) (t.add st path) := by
  have hmem : t.target path ∈ st.2 ↔ t.target path ∈ st.1.map t.target := by
    rw [h.seen, List.mem_reverse]
  unfold DevTree.add
  by_cases hseen : t.target path ∈ st.2
  · rw [if_pos hseen]
    refine { h with sub := h.sub.trans (List.sublist_append_left _ _), all := fun q hq => ?_ }
    rcases List.mem_append.mp hq with hold | hlast
    · exact h.all q hold
    · rw [List.mem_singleton.mp hlast]
      exact hmem.mp hseen
  · rw [if_neg hseen]
    refine ⟨?_, ?_, h.sub.append (List.Sublist.refl _), fun q hq => ?_⟩
    · rw [h.seen, List.map_append, List.reverse_append]
      rfl
    · rw [List.map_append, List.nodup_append]
      refine ⟨h.nodup, List.nodup_singleton _, fun a ha b hb heq => ?_⟩
      rw [List.mem_singleton.mp hb] at heq
      rw [heq] at ha
      exact hseen (hmem.mpr ha)
    · rw [List.map_append]
      rcases List.mem_append.mp hq with hold | hlast
      · exact List.mem_append_left _ (h.all q hold)
      · rw [List.mem_singleton.mp hlast]
        exact List.mem_append_right _ List.mem_cons_self

theorem covers_foldl {t : DevTree} {paths : List String} {st : List String × List String}
    (h : Covers t paths st) (more : List String) : Covers t (paths ++ more) (more.foldl t.add st) := by
  induction more generalizing paths st with
  | nil =>
    rw [List.append_nil]
    exact h
  | cons path rest ih =>
    rw [List.foldl_cons, List.append_cons]
    exact ih (covers_add h path)

theorem covers_nil (t : DevTree) : Covers t [] ([], []) :=
  ⟨rfl, List.nodup_nil, List.Sublist.refl _, fun _ h => absurd h List.not_mem_nil⟩

/-- What `add` has queued stays in front. -/
theorem foldl_add_prefix (t : DevTree) (more : List String) (st : List String × List String) :
    ∃ new, (more.foldl t.add st).1 = st.1 ++ new ∧ (∀ p ∈ new, t.target p ∉ st.2) := by
  induction more generalizing st with
  | nil => exact ⟨[], (List.append_nil _).symm, fun _ h => absurd h List.not_mem_nil⟩
  | cons path rest ih =>
    obtain ⟨new, hnew, hout⟩ := ih (t.add st path)
    rw [List.foldl_cons, hnew]
    unfold DevTree.add at hout ⊢
    by_cases hseen : t.target path ∈ st.2
    · rw [if_pos hseen] at hout ⊢
      exact ⟨new, rfl, hout⟩
    · rw [if_neg hseen] at hout ⊢
      refine ⟨path :: new, (List.append_cons ..).symm, fun p hp => ?_⟩
      rcases List.mem_cons.mp hp with rfl | hp
      · exact hseen
      · exact fun hin => hout p hp (List.mem_cons_of_mem _ hin)

/-- Every device file that has a candidate name is queued once, and under its stable name if it
has one. -/
theorem serial_devices_once (t : DevTree) :
    ((enumerateSerialDevices t).map t.target).Nodup ∧
      (enumerateSerialDevices t).Sublist (t.byIdPaths ++ t.rawPaths) ∧
      (∀ path ∈ t.byIdPaths ++ t.rawPaths, t.target path ∈ (enumerateSerialDevices t).map t.target) ∧
      ∀ device ∈ enumerateSerialDevices t, device ∉ t.byIdPaths →
        ∀ path ∈ t.byIdPaths, t.target path ≠ t.target device := by
  have hstable := covers_foldl (covers_nil t) t.byIdPaths
  have hall := covers_foldl hstable t.rawPaths
  rw [List.nil_append] at hstable hall
  refine ⟨hall.nodup, hall.sub, hall.all, fun device hdevice hraw path hpath heq => ?_⟩
  obtain ⟨new, hsplit, hout⟩ := foldl_add_prefix t t.rawPaths (t.byIdPaths.foldl t.add ([], []))
  unfold enumerateSerialDevices at hdevice
  rw [hsplit] at hdevice
  rcases List.mem_append.mp hdevice with hold | hnew
  · exact hraw (hstable.sub.subset hold)
  · refine hout device hnew ?_
    rw [hstable.seen, List.mem_reverse, ← heq]
    exact hstable.all path hpath

/-- The devices that answer, in the order they are queued in. -/
def answering (codec : Codec) (reply : Replies) (t : DevTree) : List DiscoveredSerial :=
  (enumerateSerialDevices t).filterMap fun device =>
    (probe codec reply device).map (DiscoveredSerial.mk device)

theorem mem_answering {codec : Codec} {reply : Replies} {t : DevTree} {r : DiscoveredSerial} :
    r ∈ answering codec reply t ↔
      r.device ∈ enumerateSerialDevices t ∧ probe codec reply r.device = some r.info := by
  unfold answering
  rw [List.mem_filterMap]
  constructor
  · rintro ⟨device, hdevice, hr⟩
    obtain ⟨info, hinfo, rfl⟩ := Option.map_eq_some_iff.mp hr
    exact ⟨hdevice, hinfo⟩
  · rintro ⟨hdevice, hinfo⟩
    exact ⟨r.device, hdevice, by rw [hinfo, Option.map_some]⟩

theorem answering_devices_nodup (codec : Codec) (reply : Replies) (t : DevTree) :
    ((answering codec reply t).map DiscoveredSerial.device).Nodup := by
  have hdevices : (enumerateSerialDevices t).Nodup := (serial_devices_once t).1.of_map
  unfold answering
  rw [List.Nodup, List.pairwise_map, List.pairwise_filterMap]
  refine hdevices.imp fun {a b} hne r hr r' hr' => ?_
  obtain ⟨_, -, rfl⟩ := Option.map_eq_some_iff.mp hr
  obtain ⟨_, -, rfl⟩ := Option.map_eq_some_iff.mp hr'
  exact hne

theorem mem_sortByDevice {results : List DiscoveredSerial} {r : DiscoveredSerial} :
    r ∈ sortByDevice results ↔ r ∈ results :=
  (List.mergeSort_perm results _).mem_iff

theorem sortByDevice_ascends {results : List DiscoveredSerial}
    (hnodup : (results.map DiscoveredSerial.device).Nodup) :
    ((sortByDevice results).map DiscoveredSerial.device).Pairwise (· < ·) := by
  have hle : (sortByDevice results).Pairwise fun a b => decide (a.device ≤ b.device) = true :=
    List.pairwise_mergeSort (fun a b c hab hbc => by
      rw [decide_eq_true_iff] at hab hbc ⊢
      exact hab.trans hbc)
    (fun a b => by
      rw [Bool.or_eq_true, decide_eq_true_iff, decide_eq_true_iff]
      exact le_total _ _) results
  have hsorted : ((sortByDevice results).map DiscoveredSerial.device).Nodup :=
    ((List.mergeSort_perm results _).map _).nodup_iff.mpr hnodup
  rw [List.Nodup, List.pairwise_map] at hsorted
  rw [List.pairwise_map]
  exact hle.imp₂ (fun _ _ hab hne => lt_of_le_of_ne (of_decide_eq_true hab) hne) hsorted

/-- However the threads take turns, a scan answers the devices that answer, by path, and from
wherever it has come to a scan can be brought to its end. -/
theorem discover_serial_exact (codec : Codec) (reply : Replies) (t : DevTree) :
    let devices := enumerateSerialDevices t
    (∀ out, DiscoversSerial codec reply t out →
      (out.map DiscoveredSerial.device).Pairwise (· < ·) ∧
        ∀ r, r ∈ out ↔ r.device ∈ devices ∧ probe codec reply r.device = some r.info) ∧
    (∃ out, DiscoversSerial codec reply t out) ∧
    ∀ p, Scanning codec reply DiscoveredSerial.mk devices (threads 8 devices) p →
      ∃ p', Scanning codec reply DiscoveredSerial.mk devices (threads 8 devices) p' ∧ Ended p' ∧
        Runs devices.length (pushed codec reply DiscoveredSerial.mk devices) p p' := by
  refine ⟨?_, ?_, fun p hrun => hrun.brought_to_end⟩
  · intro out h
    cases h with
    | none h =>
      rw [h]
      exact ⟨List.Pairwise.nil, fun r => ⟨fun hr => absurd hr List.not_mem_nil,
        fun hr => absurd hr.1 List.not_mem_nil⟩⟩
    | scanned h hrun hend =>
      have hfound := (ended (threads_pos 8 _) hrun hend).2
      rw [pushed_range] at hfound
      refine ⟨sortByDevice_ascends ?_, fun r => ?_⟩
      · exact (hfound.map _).nodup_iff.mpr (answering_devices_nodup codec reply t)
      · rw [mem_sortByDevice, hfound.mem_iff]
        exact mem_answering
  · by_cases h : enumerateSerialDevices t = []
    · exact ⟨_, .none h⟩
    · obtain ⟨p, hrun, hend, -⟩ := (scanning_start codec reply DiscoveredSerial.mk
        (enumerateSerialDevices t) (threads 8 (enumerateSerialDevices t))).brought_to_end
      exact ⟨_, .scanned h hrun hend⟩

/-- The device file behind a job's number. -/
def jobTarget (t : DevTree) (i : Nat) : Option String := (enumerateSerialDevices t)[i]?.map t.target

/-- In no interleaving does a thread open a device file that another has open, or that was opened
before. -/
theorem serial_ports_once (codec : Codec) (reply : Replies) (t : DevTree) {p : Pool DiscoveredSerial}
    (hrun : Scanning codec reply DiscoveredSerial.mk (enumerateSerialDevices t)
      (threads 8 (enumerateSerialDevices t)) p) :
    ((p.worked ++ p.workers.filterMap Worker.job?).filterMap (jobTarget t)).Nodup := by
  have honce := (hrun.inv (inv_start _ _ _)).once
  refine honce.filterMap fun i j target hi hj => ?_
  have htargets := (serial_devices_once t).1
  have hmap : ∀ k, jobTarget t k = ((enumerateSerialDevices t).map t.target)[k]? := fun k =>
    List.getElem?_map.symm
  rw [Option.mem_def, hmap] at hi hj
  obtain ⟨hlt, -⟩ := List.getElem?_eq_some_iff.mp hi
  exact (List.getElem?_inj hlt htargets).mp (hi.trans hj.symm)

/-- Two devices, one of which has a stable name too. -/
def twoPorts : DevTree where
  byId := some [".", "sqm"]
  dev := some ["ttyUSB0", "tty", "ttyACM0"]
  realpath path := if path = "/dev/serial/by-id/sqm" then some "/dev/ttyUSB0" else some path

theorem twoPorts_devices :
    enumerateSerialDevices twoPorts = ["/dev/serial/by-id/sqm", "/dev/ttyACM0"] := by
  decide +kernel

/-- Both threads have drawn their device. -/
theorem serial_ports_once_two :
    ((([] : List Nat) ++ [Worker.work (ρ := DiscoveredSerial) 0, .work 1].filterMap
        Worker.job?).filterMap
      (jobTarget twoPorts)).Nodup := by
  have hrun : Runs (enumerateSerialDevices twoPorts).length
      (pushed (Deps.plain []).codec (fun _ => .error "open") DiscoveredSerial.mk
        (enumerateSerialDevices twoPorts)) (start (threads 8 (enumerateSerialDevices twoPorts)))
      { counter := 2, workers := [.work 0, .work 1] } := by
    rw [twoPorts_devices]
    have hfirst : Step 2 (pushed (Deps.plain []).codec (fun _ => .error "open") DiscoveredSerial.mk
        ["/dev/serial/by-id/sqm", "/dev/ttyACM0"]) (start 2) { counter := 1,
                                                               workers := [.work 0, .draw] } :=
      @Step.draw _ _ _ (start 2) [] [.draw] rfl (by decide)
    exact .tail (.single hfirst) (@Step.draw _ _ _ _ [.work 0] [] rfl (by decide))
  exact serial_ports_once (Deps.plain []).codec (fun _ => .error "open") twoPorts hrun

end NightWatcher.Sqm
