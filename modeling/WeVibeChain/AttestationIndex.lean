import WeVibeChain.AttestationKeeper
import WeVibeChain.Shared.Tables

/-!
# x/attestation: the scan of an epoch

`prefixEndBytes` raises the last byte that can be raised and leaves zeros behind
it. Where the start of a scan ends in `0xff`, the scan meets keys that do not begin
with it. The starts that the keeper uses end in a slash.

The record of a session is written again when the session is set again, but the
entry of an earlier epoch stays. An epoch lists it as long as nothing of the same
session and epoch takes its place.
-/

set_option autoImplicit false

namespace WeVibeChain.Attestation

open Bytes OrderedMap

section Range
variable {start k : Bytes}

theorem byte_covBy {b : UInt8} (h : b ≠ 255) : b ⋖ b + 1 ∧ b + 1 ≠ 0 := by
  have hne : b.toNat ≠ 255 := fun heq => h (UInt8.toNat_inj.mp heq)
  have hbound := b.toNat_lt
  have hadd : (b + 1).toNat = b.toNat + 1 := by
    rw [UInt8.toNat_add]
    change (b.toNat + 1) % 256 = b.toNat + 1
    omega
  refine ⟨⟨?_, ?_⟩, ?_⟩
  · rw [UInt8.lt_iff_toNat_lt]
    omega
  · intro c hbc hcb
    rw [UInt8.lt_iff_toNat_lt] at hbc hcb
    omega
  · intro hzero
    rw [hzero] at hadd
    cases hadd

theorem isTop_byte : IsTop (255 : UInt8) := by
  intro b
  rw [UInt8.le_iff_toNat_le]
  exact Nat.le_of_lt_succ b.toNat_lt

theorem isBot_byte : IsBot (0 : UInt8) := by
  intro b
  rw [UInt8.le_iff_toNat_le]
  exact Nat.zero_le _

theorem prefixEndLoop_succ (front tail : Bytes) (b : UInt8) :
    prefixEndLoop (front.length + 1) (front ++ b :: tail) =
      if b + 1 ≠ 0 then some (front ++ (b + 1) :: tail)
      else prefixEndLoop front.length (front ++ (b + 1) :: tail) := by
  have hraised : (front ++ b :: tail).modify front.length (fun b => b + 1) =
      front ++ (b + 1) :: tail := by
    induction front with
    | nil => rfl
    | cons x front ih => exact congrArg (x :: ·) ih
  rw [prefixEndLoop, hraised]
  simp

/-- Bytes that cannot be raised become zero. -/
theorem prefixEndLoop_carry (front tail : Bytes) (m : Nat) :
    prefixEndLoop (front.length + m) (front ++ (List.replicate m 255 ++ tail)) =
      prefixEndLoop front.length (front ++ (List.replicate m 0 ++ tail)) := by
  induction m generalizing tail with
  | zero => rfl
  | succ m ih =>
    have hstep := prefixEndLoop_succ (front ++ List.replicate m 255) tail 255
    rw [if_neg (by decide), List.append_assoc, List.append_assoc, List.length_append,
      List.length_replicate] at hstep
    rw [List.replicate_succ', List.replicate_succ', List.append_assoc, List.append_assoc,
      List.singleton_append, List.singleton_append]
    exact hstep.trans (ih (0 :: tail))

theorem prefixEndBytes_replicate (n : Nat) : prefixEndBytes (List.replicate n 255) = none := by
  unfold prefixEndBytes
  split
  · rfl
  · have hcarry := prefixEndLoop_carry [] [] n
    rw [List.append_nil, List.nil_append, List.length_nil, Nat.zero_add] at hcarry
    rw [List.length_replicate]
    exact hcarry

theorem prefixEndBytes_carry (front : Bytes) {b : UInt8} (hb : b ≠ 255) (m : Nat) :
    prefixEndBytes (front ++ b :: List.replicate m 255) =
      some (front ++ (b + 1) :: List.replicate m 0) := by
  have hlength : (front ++ b :: List.replicate m 255).length = (front ++ [b]).length + m := by
    simp only [List.length_append, List.length_cons, List.length_replicate, List.length_nil]
    omega
  have hcarry := prefixEndLoop_carry (front ++ [b]) [] m
  have hstep := prefixEndLoop_succ front (List.replicate m 0) b
  rw [if_pos (byte_covBy hb).2] at hstep
  rw [prefixEndBytes, if_neg (by simp), hlength]
  simpa [hstep] using hcarry

theorem inRange_replicate_iff (n : Nat) :
    InRange (List.replicate n 255) (prefixEndBytes (List.replicate n 255)) k ↔
      List.replicate n 255 <+: k := by
  rw [InRange, prefixEndBytes_replicate, PrefixRange.replicate_top_le_iff isTop_byte]
  exact and_iff_left nofun

theorem inRange_carry_iff (front : Bytes) {b : UInt8} (hb : b ≠ 255) (m : Nat) :
    InRange (front ++ b :: List.replicate m 255)
        (prefixEndBytes (front ++ b :: List.replicate m 255)) k ↔
      front ++ b :: List.replicate m 255 <+: k ∨
        ∃ j < m, k = front ++ (b + 1) :: List.replicate j 0 := by
  rw [← PrefixRange.between_carried_iff (byte_covBy hb).1 isTop_byte isBot_byte, InRange,
    prefixEndBytes_carry front hb m]
  simp only [Option.mem_def, Option.some.injEq, forall_eq']

/-- The starts of the keeper's scans. -/
theorem inRange_slash_iff (front k : Bytes) :
    InRange (front ++ [slash]) (prefixEndBytes (front ++ [slash])) k ↔ front ++ [slash] <+: k := by
  refine (inRange_carry_iff front (b := slash) (by decide) 0).trans (or_iff_left ?_)
  rintro ⟨j, hj, -⟩
  exact Nat.not_lt_zero j hj

/-- A key that the scan from `start` meets although it does not begin with `start`. -/
def Stray (start k : Bytes) : Prop :=
  ∃ front b m j, b ≠ 255 ∧ start = front ++ b :: List.replicate m 255 ∧ j < m ∧
    k = front ++ (b + 1) :: List.replicate j 0

theorem Stray.not_isPrefix (h : Stray start k) : ¬ start <+: k := by
  obtain ⟨front, b, m, j, hb, rfl, -, rfl⟩ := h
  rw [List.prefix_append_right_inj, List.cons_prefix_cons]
  exact fun hcons => (byte_covBy hb).1.1.ne hcons.1

theorem inRange_iff (start k : Bytes) :
    InRange start (prefixEndBytes start) k ↔ start <+: k ∨ Stray start k := by
  constructor
  · intro h
    rcases PrefixRange.eq_replicate_or_exists_last_ne 255 start with hall | ⟨front, b, m, hb, rfl⟩
    · rw [hall] at h ⊢
      exact Or.inl ((inRange_replicate_iff _).mp h)
    · refine ((inRange_carry_iff front hb m).mp h).imp_right ?_
      rintro ⟨j, hj, rfl⟩
      exact ⟨front, b, m, j, hb, rfl, hj, rfl⟩
  · rintro (hbegins | ⟨front, b, m, j, hb, rfl, hj, rfl⟩)
    · rcases PrefixRange.eq_replicate_or_exists_last_ne 255 start with hall | ⟨front, b, m, hb, rfl⟩
      · rw [hall] at hbegins ⊢
        exact (inRange_replicate_iff _).mpr hbegins
      · exact (inRange_carry_iff front hb m).mpr (Or.inl hbegins)
    · exact (inRange_carry_iff front hb m).mpr (Or.inr ⟨j, hj, rfl⟩)

theorem inRange_exact_iff (start k : Bytes) :
    (InRange start (prefixEndBytes start) k ↔ start <+: k) ↔ ¬ Stray start k := by
  rw [inRange_iff]
  constructor
  · exact fun h hstray => hstray.not_isPrefix (h.mp (Or.inr hstray))
  · exact fun h => or_iff_left h

/-- A start has no stray keys exactly if its last byte can be raised or none of its bytes can. -/
theorem forall_not_stray_iff (h : start ≠ []) :
    (∀ k, ¬ Stray start k) ↔ start.getLast h ≠ 255 ∨ ∀ b ∈ start, b = 255 := by
  constructor
  · intro hnone
    rcases PrefixRange.eq_replicate_or_exists_last_ne 255 start with hall | ⟨front, b, m, hb, rfl⟩
    · right
      intro b hmem
      rw [hall] at hmem
      exact List.eq_of_mem_replicate hmem
    · left
      cases m with
      | zero => simpa using hb
      | succ m => exact absurd ⟨front, b, m + 1, 0, hb, rfl, Nat.succ_pos m, rfl⟩ (hnone _)
  · rintro hcase k ⟨front, b, m, j, hb, rfl, hj, -⟩
    rcases hcase with hlast | hall
    · apply hlast
      obtain ⟨n, rfl⟩ := Nat.exists_eq_succ_of_ne_zero (Nat.ne_of_gt (Nat.zero_lt_of_lt hj))
      simp [List.replicate_succ']
    · exact hb (hall b (List.mem_append_right front List.mem_cons_self))

/-- The range up to `prefixEndBytes` is exact for a key exactly if the key is not stray, and for
all keys exactly if the last byte of the start can be raised or none of its bytes can. -/
theorem prefixEndBytes_exact_iff (start : Bytes) (h : start ≠ []) :
    (∀ k, (InRange start (prefixEndBytes start) k ↔ start <+: k) ↔ ¬ Stray start k) ∧
      ((∀ k, InRange start (prefixEndBytes start) k ↔ start <+: k) ↔
        start.getLast h ≠ 255 ∨ ∀ b ∈ start, b = 255) := by
  refine ⟨inRange_exact_iff start, ?_⟩
  rw [← forall_not_stray_iff h]
  exact forall_congr' (inRange_exact_iff start)

theorem prefixEndBytes_exact_at_slash :
    ([1, 255, slash] : Bytes) ≠ [] ∧
      ∀ k, InRange [1, 255, slash] (prefixEndBytes [1, 255, slash]) k ↔ [1, 255, slash] <+: k :=
  ⟨nofun, (prefixEndBytes_exact_iff [1, 255, slash] nofun).2.mpr (Or.inl (by decide))⟩

/-- The carry from `[1, 0xff]` gives `[2, 0]`, and `[2]` comes before it. -/
theorem prefixEndBytes_meets_foreign_key :
    prefixEndBytes [1, 255] = some [2, 0] ∧ InRange [1, 255] (prefixEndBytes [1, 255]) [2] ∧
      ¬ ([1, 255] : Bytes) <+: [2] := by
  decide

end Range

section Keys
variable {o o' h h' rest : Bytes} {e e' : UInt64}

theorem slash_notMem_contentHashToHex (h : Bytes) : slash ∉ contentHashToHex h :=
  slash_notMem_hexEncode h

@[simp] theorem contentHashToHex_inj : contentHashToHex h = contentHashToHex h' ↔ h = h' :=
  hexEncode_inj

theorem attestationKey_inj : attestationKey o h = attestationKey o' h' ↔ o = o' ∧ h = h' := by
  unfold attestationKey
  rw [append_cons_inj_of_notMem (slash_notMem_contentHashToHex h) (slash_notMem_contentHashToHex h'),
    List.append_cancel_left_eq, contentHashToHex_inj]

theorem attestationByEpochKey_eq (o : Bytes) (e : UInt64) (h : Bytes) :
    attestationByEpochKey o e h = attestationByEpochPrefix o e ++ contentHashToHex h := by
  unfold attestationByEpochKey attestationByEpochPrefix
  rw [List.append_assoc _ [slash], List.singleton_append]

theorem attestationByEpochPrefix_append_inj (hr : slash ∉ rest) :
    attestationByEpochPrefix o e ++ rest = attestationByEpochKey o' e' h' ↔
      o = o' ∧ e = e' ∧ rest = contentHashToHex h' := by
  unfold attestationByEpochPrefix attestationByEpochKey
  rw [List.append_assoc _ [slash], List.singleton_append,
    append_cons_inj_of_notMem hr (slash_notMem_contentHashToHex h'),
    append_cons_inj_of_notMem (slash_notMem_formatUint e) (slash_notMem_formatUint e'),
    List.append_cancel_left_eq, formatUint_inj, and_assoc]

theorem attestationByEpochKey_inj :
    attestationByEpochKey o e h = attestationByEpochKey o' e' h' ↔ o = o' ∧ e = e' ∧ h = h' := by
  rw [attestationByEpochKey_eq,
    attestationByEpochPrefix_append_inj (slash_notMem_contentHashToHex h), contentHashToHex_inj]

theorem attestationKey_ne (e : UInt64) : attestationKey o h ≠ attestationByEpochKey o' e h' := by
  intro heq
  cases (List.cons.inj heq).1

/-- A key of an org without a slash that begins with the start of an epoch is of that org and
epoch. The key has three slashes, and the start has them already. -/
theorem attestationByEpochPrefix_append_eq (ho : slash ∉ o')
    (heq : attestationByEpochPrefix o e ++ rest = attestationByEpochKey o' e' h') :
    o = o' ∧ e = e' ∧ rest = contentHashToHex h' := by
  have hrest : slash ∉ rest := by
    have hcount := congrArg (List.count slash) heq
    unfold attestationByEpochPrefix attestationByEpochKey at hcount
    simp only [List.count_append, List.count_cons_self, List.count_nil,
      List.count_eq_zero_of_not_mem ho,
      List.count_eq_zero_of_not_mem (slash_notMem_contentHashToHex _),
      List.count_eq_zero_of_not_mem (slash_notMem_formatUint _)] at hcount
    rw [← List.count_eq_zero]
    omega
  exact (attestationByEpochPrefix_append_inj hrest).mp heq

end Keys

section Calls
variable {calls : List StoredSessionAttestation} {orgID : Bytes} {epoch : UInt64}
  {a b : StoredSessionAttestation}

/-- The last call for a session. -/
def lastCall (calls : List StoredSessionAttestation) (orgID sessionHash : Bytes) :
    Option StoredSessionAttestation :=
  calls.reverse.find? fun a => a.orgId = orgID ∧ a.sessionHash = sessionHash

/-- The last call for a session with the epoch. -/
def lastCallIn (calls : List StoredSessionAttestation) (orgID : Bytes) (epoch : UInt64)
    (sessionHash : Bytes) : Option StoredSessionAttestation :=
  calls.reverse.find? fun a => a.orgId = orgID ∧ a.epoch = epoch ∧ a.sessionHash = sessionHash

theorem get_calls (calls : List StoredSessionAttestation) (orgID sessionHash : Bytes) :
    (calls.foldl setSessionAttestation {}).records.get (attestationKey orgID sessionHash) =
      lastCall calls orgID sessionHash := by
  induction calls using List.reverseRecOn with
  | nil => rfl
  | append_singleton calls a ih =>
    rw [List.foldl_append, List.foldl_cons, List.foldl_nil, setSessionAttestation,
      get_set_of_ne _ _ (attestationKey_ne a.epoch), get_set, ih, lastCall, lastCall,
      find?_reverse_append_singleton]
    simp only [attestationKey_inj, decide_eq_true_eq, @eq_comm _ orgID, @eq_comm _ sessionHash]

theorem get_calls_in (calls : List StoredSessionAttestation) (orgID : Bytes) (epoch : UInt64)
    (sessionHash : Bytes) :
    (calls.foldl setSessionAttestation {}).records.get
        (attestationByEpochKey orgID epoch sessionHash) =
      lastCallIn calls orgID epoch sessionHash := by
  induction calls using List.reverseRecOn with
  | nil => rfl
  | append_singleton calls a ih =>
    rw [List.foldl_append, List.foldl_cons, List.foldl_nil, setSessionAttestation, get_set,
      get_set_of_ne _ _ (attestationKey_ne epoch).symm, ih, lastCallIn, lastCallIn,
      find?_reverse_append_singleton]
    simp only [attestationByEpochKey_inj, decide_eq_true_eq, @eq_comm _ orgID, @eq_comm _ epoch,
      @eq_comm _ sessionHash]

theorem lastCall_eq_some {sessionHash : Bytes} (h : lastCall calls orgID sessionHash = some a) :
    a.orgId = orgID ∧ a.sessionHash = sessionHash := by
  have hfound := List.find?_some h
  rwa [decide_eq_true_eq] at hfound

theorem lastCallIn_eq_some {sessionHash : Bytes}
    (h : lastCallIn calls orgID epoch sessionHash = some a) :
    a ∈ calls ∧ a.orgId = orgID ∧ a.epoch = epoch ∧ a.sessionHash = sessionHash := by
  have hfound := List.find?_some h
  rw [decide_eq_true_eq] at hfound
  exact ⟨mem_of_find?_reverse h, hfound⟩

theorem exists_lastCall (ha : a ∈ calls) : ∃ b, lastCall calls a.orgId a.sessionHash = some b :=
  exists_find?_reverse ha (decide_eq_true ⟨rfl, rfl⟩)

theorem exists_lastCallIn (ha : a ∈ calls) :
    ∃ b, lastCallIn calls a.orgId a.epoch a.sessionHash = some b :=
  exists_find?_reverse ha (decide_eq_true ⟨rfl, rfl, rfl⟩)

/-- A last call with the epoch is the last one with the epoch. -/
theorem lastCallIn_of_lastCall {sessionHash : Bytes}
    (h : lastCall calls orgID sessionHash = some a) (hepoch : a.epoch = epoch) :
    lastCallIn calls orgID epoch sessionHash = some a := by
  unfold lastCall at h
  obtain ⟨hfound, newer, older, hsplit, hnewer⟩ := List.find?_eq_some_iff_append.mp h
  simp only [decide_eq_true_eq] at hfound
  refine List.find?_eq_some_iff_append.mpr ⟨?_, newer, older, hsplit, ?_⟩
  · exact decide_eq_true ⟨hfound.1, hepoch, hfound.2⟩
  · intro b hb
    have hother := hnewer b hb
    simp only [Bool.not_eq_true', decide_eq_false_iff_not] at hother ⊢
    exact fun hsame => hother ⟨hsame.1, hsame.2.2⟩

/-- Every record is under one of the two keys that it names. -/
def Keyed (s : Store) : Prop :=
  s.records.Forall fun k a => slash ∉ a.orgId ∧
    (k = attestationKey a.orgId a.sessionHash ∨
      k = attestationByEpochKey a.orgId a.epoch a.sessionHash)

theorem Keyed.setSessionAttestation {s : Store} (h : Keyed s) (ha : slash ∉ a.orgId) :
    Keyed (setSessionAttestation s a) :=
  (OrderedMap.Forall.set h ⟨ha, Or.inl rfl⟩).set ⟨ha, Or.inr rfl⟩

theorem keyed_calls (h : ∀ a ∈ calls, slash ∉ a.orgId) :
    Keyed (calls.foldl setSessionAttestation {}) := by
  induction calls using List.reverseRecOn with
  | nil => exact forall_empty
  | append_singleton calls a ih =>
    rw [List.foldl_append]
    refine (ih fun b hb => h b (List.mem_append_left _ hb)).setSessionAttestation ?_
    exact h a (List.mem_append_right _ (List.mem_singleton_self a))

end Calls

section Listing
variable {s : Store} {orgID rest : Bytes} {epoch : UInt64} {a : StoredSessionAttestation}

theorem listSessionAttestations_eq (s : Store) (orgID : Bytes) (epoch : UInt64) :
    listSessionAttestations s orgID epoch =
      (s.records.under (attestationByEpochPrefix orgID epoch)).values :=
  between_eq_under (inRange_slash_iff _)

theorem Keyed.under (h : Keyed s)
    (hget : (s.records.under (attestationByEpochPrefix orgID epoch)).get rest = some a) :
    a.orgId = orgID ∧ a.epoch = epoch ∧ rest = contentHashToHex a.sessionHash := by
  rw [get_under] at hget
  obtain ⟨horg, hkey | hkey⟩ := h _ a hget
  · cases (List.cons.inj hkey).1
  · obtain ⟨ho, he, hr⟩ := attestationByEpochPrefix_append_eq horg hkey
    exact ⟨ho.symm, he.symm, hr⟩

theorem Keyed.mem_list_iff (h : Keyed s) :
    a ∈ listSessionAttestations s orgID epoch ↔
      a.orgId = orgID ∧ a.epoch = epoch ∧
        s.records.get (attestationByEpochKey orgID epoch a.sessionHash) = some a := by
  rw [listSessionAttestations_eq, mem_values_iff, attestationByEpochKey_eq, ← get_under]
  constructor
  · rintro ⟨rest, hget⟩
    obtain ⟨horg, hepoch, rfl⟩ := h.under hget
    exact ⟨horg, hepoch, hget⟩
  · rintro ⟨-, -, hget⟩
    exact ⟨_, hget⟩

/-- The entries of an epoch are of different sessions. -/
theorem Keyed.nodup_list (h : Keyed s) : (listSessionAttestations s orgID epoch).Nodup := by
  rw [listSessionAttestations_eq]
  refine List.Nodup.of_map (fun a => contentHashToHex a.sessionHash) ?_
  have hkeys := (s.records.under (attestationByEpochPrefix orgID epoch)).keys_nodup
  have hsame : (s.records.under (attestationByEpochPrefix orgID epoch)).keys =
      (s.records.under (attestationByEpochPrefix orgID epoch)).values.map
        fun a => contentHashToHex a.sessionHash := by
    rw [keys, values, List.map_map]
    refine List.map_congr_left fun e he => ?_
    exact (h.under (get_eq_some_iff.mpr he)).2.2
  rwa [hsame] at hkeys

theorem getSessionAttestation_eq_ok_iff {sessionHash : Bytes} :
    getSessionAttestation s orgID sessionHash = .ok a ↔
      s.records.get (attestationKey orgID sessionHash) = some a := by
  unfold getSessionAttestation
  split
  · rename_i hnone
    rw [hnone]
    exact ⟨nofun, nofun⟩
  · rename_i b hsome
    rw [hsome, Except.ok.injEq, Option.some.injEq]

/-- The scan of an epoch gives what is stored for the sessions of the org with that epoch, each
once. -/
def ListsSessions (s : Store) (orgID : Bytes) (epoch : UInt64) : Prop :=
  (listSessionAttestations s orgID epoch).Nodup ∧
    ∀ a, a ∈ listSessionAttestations s orgID epoch ↔
      a.epoch = epoch ∧ ∃ sessionHash, getSessionAttestation s orgID sessionHash = .ok a

/-- A session of the org that was set with the epoch was set with it last. -/
def SettledIn (calls : List StoredSessionAttestation) (orgID : Bytes) (epoch : UInt64) : Prop :=
  ∀ a ∈ calls, a.orgId = orgID → a.epoch = epoch →
    ∀ b ∈ lastCall calls orgID a.sessionHash, b.epoch = epoch

variable {calls : List StoredSessionAttestation}

theorem settledIn_of_listsSessions (hkeyed : Keyed (calls.foldl setSessionAttestation {}))
    (h : ListsSessions (calls.foldl setSessionAttestation {}) orgID epoch) :
    SettledIn calls orgID epoch := by
  rintro a ha rfl rfl b hb
  obtain ⟨c, hc⟩ := exists_lastCallIn ha
  obtain ⟨-, horg, hepoch, hhash⟩ := lastCallIn_eq_some hc
  -- The entry of the epoch is listed, so it is what is stored for the session.
  have hlisted : c ∈ listSessionAttestations (calls.foldl setSessionAttestation {}) a.orgId
      a.epoch := by
    rw [hkeyed.mem_list_iff, get_calls_in, hhash]
    exact ⟨horg, hepoch, hc⟩
  obtain ⟨-, sessionHash, hget⟩ := (h.2 c).mp hlisted
  rw [getSessionAttestation_eq_ok_iff, get_calls] at hget
  obtain ⟨-, hsame⟩ := lastCall_eq_some hget
  rw [← hsame, hhash, Option.mem_def.mp hb] at hget
  rw [Option.some.inj hget, hepoch]

theorem listsSessions_of_settledIn (hkeyed : Keyed (calls.foldl setSessionAttestation {}))
    (h : SettledIn calls orgID epoch) :
    ListsSessions (calls.foldl setSessionAttestation {}) orgID epoch := by
  refine ⟨hkeyed.nodup_list, fun a => ?_⟩
  rw [hkeyed.mem_list_iff, get_calls_in]
  simp only [getSessionAttestation_eq_ok_iff, get_calls]
  constructor
  · rintro ⟨rfl, rfl, hlast⟩
    obtain ⟨b, hb⟩ := exists_lastCall (lastCallIn_eq_some hlast).1
    have hepoch := h a (lastCallIn_eq_some hlast).1 rfl rfl b hb
    rw [lastCallIn_of_lastCall hb hepoch] at hlast
    rw [Option.some.inj hlast] at hb
    exact ⟨rfl, a.sessionHash, hb⟩
  · rintro ⟨hepoch, sessionHash, hlast⟩
    obtain ⟨horg, rfl⟩ := lastCall_eq_some hlast
    exact ⟨horg, hepoch, lastCallIn_of_lastCall hlast hepoch⟩

/-- Of orgs without a slash, an epoch lists what is stored for its sessions exactly if each session
that was set with the epoch was set with it last. -/
theorem listSessionAttestations_exact_iff (calls : List StoredSessionAttestation)
    (h : ∀ a ∈ calls, slash ∉ a.orgId) (orgID : Bytes) (epoch : UInt64) :
    ListsSessions (calls.foldl setSessionAttestation {}) orgID epoch ↔
      SettledIn calls orgID epoch :=
  ⟨settledIn_of_listsSessions (keyed_calls h), listsSessions_of_settledIn (keyed_calls h)⟩

theorem ListsSessions.of_records {s' : Store} (hrecords : s'.records = s.records)
    (h : ListsSessions s orgID epoch) : ListsSessions s' orgID epoch := by
  unfold ListsSessions listSessionAttestations getSessionAttestation at h ⊢
  rwa [hrecords]

section Genesis

/-- What is exported are the records of the sessions. -/
theorem Keyed.mem_export (h : Keyed s) (ha : a ∈ (exportGenesis s).attestations) :
    slash ∉ a.orgId ∧ s.records.get (attestationKey a.orgId a.sessionHash) = some a := by
  have hscan : (exportGenesis s).attestations = (s.records.under (ascii "attestation/")).values :=
    between_eq_under (inRange_slash_iff (ascii "attestation"))
  rw [hscan, mem_values_iff] at ha
  obtain ⟨rest, hget⟩ := ha
  rw [get_under] at hget
  obtain ⟨horg, hkey | hkey⟩ := h _ a hget
  · rw [hkey] at hget
    exact ⟨horg, hget⟩
  · cases (List.cons.inj hkey).1

/-- A chain that starts from an exported file lists every session in its epoch only, whatever
entries of earlier epochs the exported store had. -/
theorem listsSessions_of_export (h : Keyed s) (authority : Bytes) (msgs : List Msg) (orgID : Bytes)
    (epoch : UInt64) :
    ListsSessions ((chain authority).run (initGenesis {} (exportGenesis s)) msgs) orgID epoch := by
  refine ListsSessions.of_records (records_run authority _ msgs) ?_
  refine listsSessions_of_settledIn (keyed_calls fun a ha => (h.mem_export ha).1) ?_
  rintro a ha rfl rfl b hb
  have hbexport : b ∈ (exportGenesis s).attestations := mem_of_find?_reverse hb
  obtain ⟨horg, hhash⟩ := lastCall_eq_some hb
  have hstored := (h.mem_export hbexport).2
  rw [horg, hhash, (h.mem_export ha).2] at hstored
  rw [Option.some.inj hstored]

end Genesis

def sampleAttestation (epoch : UInt64) : StoredSessionAttestation where
  orgId := ascii "org-1"
  sessionHash := List.replicate 32 0
  modelId := ascii "qwen3:4b"
  turnCount := 5
  tokenCount := 1200
  providerType := .localProvider
  commitllmReceiptHash := []
  providerSignatureHash := []
  contributorId := ascii "contributor-1"
  epoch := epoch
  submittedAtHeight := 100

theorem session_of_one_epoch_is_listed :
    (∀ a ∈ [sampleAttestation 1, sampleAttestation 1], slash ∉ a.orgId) ∧
      ListsSessions ([sampleAttestation 1, sampleAttestation 1].foldl setSessionAttestation {})
        (ascii "org-1") 1 := by
  have horgs : ∀ a ∈ [sampleAttestation 1, sampleAttestation 1], slash ∉ a.orgId := by decide
  refine ⟨horgs, (listSessionAttestations_exact_iff _ horgs _ _).mpr ?_⟩
  unfold SettledIn
  decide

/-- A session that is set with epoch 1 and then with epoch 2 is still listed in epoch 1. -/
theorem session_stays_in_old_epoch :
    (∀ a ∈ [sampleAttestation 1, sampleAttestation 2], slash ∉ a.orgId) ∧
      listSessionAttestations
          ([sampleAttestation 1, sampleAttestation 2].foldl setSessionAttestation {})
          (ascii "org-1") 1 = [sampleAttestation 1] ∧
      getSessionAttestation
          ([sampleAttestation 1, sampleAttestation 2].foldl setSessionAttestation {})
          (ascii "org-1") (List.replicate 32 0) = .ok (sampleAttestation 2) ∧
      ¬ ListsSessions ([sampleAttestation 1, sampleAttestation 2].foldl setSessionAttestation {})
        (ascii "org-1") 1 := by
  have horgs : ∀ a ∈ [sampleAttestation 1, sampleAttestation 2], slash ∉ a.orgId := by decide
  refine ⟨horgs, by decide +kernel, ?_, fun h => ?_⟩
  · rw [getSessionAttestation_eq_ok_iff]
    decide +kernel
  · have hsettled := settledIn_of_listsSessions (keyed_calls horgs) h
    have hepoch := hsettled (sampleAttestation 1) List.mem_cons_self rfl rfl (sampleAttestation 2)
      (by decide)
    cases hepoch

end Listing

end WeVibeChain.Attestation
