import WeVibeChain.BandwidthMeter
import WeVibeChain.Shared.Tables
import WeVibeChain.Shared.Wire

/-!
# x/bandwidth: genesis export and import

Both scans of the export begin at a prefix and have no end. Nothing follows the
states, but the parameters and the states follow the overrides, and a record is
skipped only if its bytes do not decode as an override. The bytes of a state
always do: its epoch and its memory usage stand where an override has its caps.

An org that has used its quota and has no override comes back with one. The
parameters are not exported.
-/

set_option autoImplicit false

namespace WeVibeChain.Bandwidth

open Bytes Wire OrderedMap

section Entries

/-- A value of any key family. -/
inductive Entry where
  | override (value : BandwidthOverride)
  | params (value : Params)
  | state (value : BandwidthState)
  deriving DecidableEq

/-- In key order. -/
def Store.entries (s : Store) : List (Bytes × Entry) :=
  s.override.entries.map (fun e => (e.1, .override e.2)) ++
    (s.params.toList.map (fun v => (ascii "params", .params v)) ++
      s.state.entries.map (fun e => (e.1, .state e.2)))

/-- An iterator that starts at `lo` and has no end. -/
def Store.iteratorFrom (s : Store) (lo : Bytes) : List (Bytes × Entry) :=
  s.entries.filter fun e => lo ≤ e.1

end Entries

section Decoding

def overrideFields (o : BandwidthOverride) : List Field :=
  bytesField 1 o.orgID ++ (varintField 2 o.memoryCap ++ (varintField 3 o.serveCap ++ []))

def paramsFields (p : Params) : List Field :=
  varintField 1 p.defaultMemoryCapPerEpoch ++ (varintField 2 p.defaultServeCapPerEpoch ++ [])

def stateFields (b : BandwidthState) : List Field :=
  bytesField 1 b.orgID ++ (varintField 2 b.epoch ++ (varintField 3 b.memoryUsed ++
    (varintField 4 b.memoryCap ++ (varintField 5 b.serveUsed ++ (varintField 6 b.serveCap ++ [])))))

/-- A field of the record's type must have the right form, and any other field is skipped. -/
def readOverrideField (o : BandwidthOverride) : Field → Option BandwidthOverride
  | ⟨1, .bytes b⟩ => some { o with orgID := b }
  | ⟨2, .varint n⟩ => some { o with memoryCap := n }
  | ⟨3, .varint n⟩ => some { o with serveCap := n }
  | ⟨number, _⟩ => if number ∈ [1, 2, 3] then none else some o

def readStateField (b : BandwidthState) : Field → Option BandwidthState
  | ⟨1, .bytes orgID⟩ => some { b with orgID := orgID }
  | ⟨2, .varint n⟩ => some { b with epoch := n }
  | ⟨3, .varint n⟩ => some { b with memoryUsed := n }
  | ⟨4, .varint n⟩ => some { b with memoryCap := n }
  | ⟨5, .varint n⟩ => some { b with serveUsed := n }
  | ⟨6, .varint n⟩ => some { b with serveCap := n }
  | ⟨number, _⟩ => if number ∈ [1, 2, 3, 4, 5, 6] then none else some b

def overrideOfFields (fields : List Field) : Option BandwidthOverride :=
  readInto readOverrideField ⟨[], 0, 0⟩ fields

def stateOfFields (fields : List Field) : Option BandwidthState :=
  readInto readStateField ⟨[], 0, 0, 0, 0, 0⟩ fields

/-- What the decoder of overrides makes of a value of any family. -/
def decodeOverride : Entry → Option BandwidthOverride
  | .override o => some o
  | .params p => overrideOfFields (paramsFields p)
  | .state b => overrideOfFields (stateFields b)

def decodeState : Entry → Option BandwidthState
  | .override o => stateOfFields (overrideFields o)
  | .params p => stateOfFields (paramsFields p)
  | .state b => some b

def Entry.fields : Entry → List Field
  | .override o => overrideFields o
  | .params p => paramsFields p
  | .state b => stateFields b

theorem overrideOfFields_overrideFields (o : BandwidthOverride) :
    overrideOfFields (overrideFields o) = some o := by
  unfold overrideOfFields overrideFields
  refine readInto_bytesField ?_
  refine readInto_varintField ?_
  refine readInto_varintField ?_
  rfl

theorem stateOfFields_stateFields (b : BandwidthState) :
    stateOfFields (stateFields b) = some b := by
  unfold stateOfFields stateFields
  refine readInto_bytesField ?_
  refine readInto_varintField ?_
  refine readInto_varintField ?_
  refine readInto_varintField ?_
  refine readInto_varintField ?_
  refine readInto_varintField ?_
  rfl

/-- This is what the decoders make of the bytes, as long as no org id is too long for a length of
64 bits. -/
theorem decode_bytes (entry : Entry) (hlength : ∀ f ∈ entry.fields, f.value.weight < 2 ^ 64) :
    (parse (write entry.fields)).bind overrideOfFields = decodeOverride entry ∧
      (parse (write entry.fields)).bind stateOfFields = decodeState entry := by
  have hplain : Plain entry.fields := by
    cases entry with
    | override o => simp [Entry.fields, overrideFields]
    | params p => simp [Entry.fields, paramsFields]
    | state b => simp [Entry.fields, stateFields]
  rw [parse_write hplain hlength]
  cases entry with
  | override o => exact ⟨overrideOfFields_overrideFields o, rfl⟩
  | params p => exact ⟨rfl, rfl⟩
  | state b => exact ⟨rfl, stateOfFields_stateFields b⟩

theorem decodeOverride_state (b : BandwidthState) :
    decodeOverride (.state b) = some ⟨b.orgID, b.epoch, b.memoryUsed⟩ := by
  change readInto readOverrideField ⟨[], 0, 0⟩ (stateFields b) = _
  unfold stateFields
  refine readInto_bytesField ?_
  refine readInto_varintField ?_
  refine readInto_varintField ?_
  -- the other numbers are not fields of an override
  refine readInto_varintField ?_
  refine readInto_varintField ?_
  refine readInto_varintField ?_
  rfl

/-- The first number of the parameters stands where an override has the org's name, so they decode
only if it is zero and is not written. -/
theorem decodeOverride_params (p : Params) :
    decodeOverride (.params p) =
      if p.defaultMemoryCapPerEpoch = 0 then some ⟨[], p.defaultServeCapPerEpoch, 0⟩ else none := by
  change readInto readOverrideField ⟨[], 0, 0⟩ (paramsFields p) = _
  unfold paramsFields
  refine readInto_varintField_refused ?_
  refine readInto_varintField ?_
  rfl

end Decoding

section Genesis

structure GenesisState where
  bandwidthStates : List BandwidthState := []
  bandwidthOverrides : List BandwidthOverride := []
  deriving DecidableEq

def initGenesis (s : Store) (g : GenesisState) : Store :=
  { s with
    state := g.bandwidthStates.foldl (fun m b => m.set (stateKey b.orgID b.epoch) b) s.state
    override := (firstSeen BandwidthOverride.orgID [] g.bandwidthOverrides).foldl
      (fun m o => m.set (overrideKey o.orgID) o) s.override }

def exportGenesis (s : Store) : GenesisState where
  bandwidthStates := (s.iteratorFrom (ascii "state/")).filterMap fun e => decodeState e.2
  bandwidthOverrides := firstSeen BandwidthOverride.orgID []
    ((s.iteratorFrom (ascii "override/")).filterMap fun e => decodeOverride e.2)

end Genesis

section Keys

/-- Every record is stored under the key that it names. -/
structure Keyed (s : Store) : Prop where
  state : s.state.Forall fun k b => stateKey b.orgID b.epoch = k
  override : s.override.Forall fun k o => overrideKey o.orgID = k

variable {s : Store}

theorem quota_named (hs : Keyed s) (orgID : Bytes) (epoch : UInt64) :
    (quota s orgID epoch).orgID = orgID ∧ (quota s orgID epoch).epoch = epoch := by
  cases hget : s.state.get (stateKey orgID epoch) with
  | none =>
    rw [quota_of_absent hget]
    exact ⟨rfl, rfl⟩
  | some state =>
    rw [quota_of_state hget]
    exact stateKey_inj.mp (hs.state _ state hget)

/-- A change of one state to a record of its org and epoch number. -/
theorem Keyed.changed (hs : Keyed s) {state : OrderedMap Bytes BandwidthState} {orgID : Bytes}
    {epoch : UInt64} {b : BandwidthState} (hself : state.get (stateKey orgID epoch) = some b)
    (horg : b.orgID = orgID) (hepoch : b.epoch = epoch)
    (hother : ∀ key, key ≠ stateKey orgID epoch → state.get key = s.state.get key) :
    Keyed { s with state := state } := by
  refine ⟨?_, hs.override⟩
  intro k b' hget
  by_cases hk : k = stateKey orgID epoch
  · change state.get k = some b' at hget
    rw [hk, hself] at hget
    rw [← Option.some.inj hget, horg, hepoch, hk]
  · change state.get k = some b' at hget
    rw [hother k hk] at hget
    exact hs.state k b' hget

theorem Keyed.getOrInit (hs : Keyed s) (orgID : Bytes) (epoch : UInt64) :
    Keyed (getOrInitBandwidthState s orgID epoch).1 := by
  unfold getOrInitBandwidthState
  split
  · exact hs
  · exact ⟨hs.state.set rfl, hs.override⟩

theorem Keyed.perform (authority : Bytes) (hs : Keyed s) (call : Call) :
    Keyed (perform authority s call).1 := by
  cases call with
  | consumeMemory orgID epoch =>
    unfold Bandwidth.perform
    dsimp only
    split
    · exact hs.getOrInit orgID epoch
    · rename_i s' hconsume
      obtain ⟨state, rfl, hself, hother⟩ := consumeMemoryBandwidth_ok hconsume
      obtain ⟨horg, hepoch⟩ := quota_named hs orgID epoch
      exact hs.changed hself horg hepoch hother
  | consumeServe orgID epoch count =>
    unfold Bandwidth.perform
    dsimp only
    split
    · exact hs.getOrInit orgID epoch
    · rename_i s' hconsume
      obtain ⟨-, state, rfl, hself, hother⟩ := consumeServeBandwidth_ok hconsume
      obtain ⟨horg, hepoch⟩ := quota_named hs orgID epoch
      exact hs.changed hself horg hepoch hother
  | setOverride orgID memoryCap serveCap => exact ⟨hs.state, hs.override.set rfl⟩
  | deleteOverride orgID => exact ⟨hs.state, hs.override.delete _⟩
  | updateParams msg =>
    unfold Bandwidth.perform
    dsimp only
    split
    · exact hs
    · rename_i s' hupdate
      obtain rfl := updateParamsMsg_ok hupdate
      exact ⟨hs.state, hs.override⟩
  | getRemaining orgID epoch => exact hs.getOrInit orgID epoch

theorem Keyed.next (authority : Bytes) (hs : Keyed s) (input : Input) :
    Keyed ((meter authority).next s input) := by
  unfold meter Machine.next
  dsimp only
  split
  · exact hs
  · exact hs.perform authority input.call

theorem keyed_run (authority : Bytes) (inputs : List Input) :
    Keyed ((meter authority).run {} inputs) :=
  (meter authority).run_always (I := Keyed) (fun _ input hs => hs.next authority input)
    ⟨forall_empty, forall_empty⟩ inputs

theorem overrideKey_injective : Function.Injective overrideKey := by
  intro o o' h
  exact List.append_cancel_left h

end Keys

section Scans
variable {s : Store}

theorem Keyed.override_le (hs : Keyed s) : s.override.Forall fun k _ => ascii "override/" ≤ k := by
  intro k o hget
  rw [← hs.override k o hget]
  exact le_append _ _

theorem Keyed.state_le (hs : Keyed s) : s.state.Forall fun k _ => ascii "state/" ≤ k := by
  intro k b hget
  rw [← hs.state k b hget, stateKey, List.append_assoc]
  exact le_append _ _

/-- The overrides come first, so their scan meets everything. -/
theorem iteratorFrom_override (hs : Keyed s) : s.iteratorFrom (ascii "override/") = s.entries := by
  have hparams : ascii "override/" ≤ ascii "params" := by decide
  have hstate : ascii "override/" ≤ ascii "state/" := by decide
  rw [Store.iteratorFrom, Store.entries, List.filter_append, List.filter_append,
    scan_eq_self hs.override_le, scan_entry_eq_self _ hparams,
    scan_eq_self (hs.state_le.imp fun _ _ h => hstate.trans h)]

/-- The states come last. -/
theorem iteratorFrom_state (hs : Keyed s) :
    s.iteratorFrom (ascii "state/") = s.state.entries.map fun e => (e.1, .state e.2) := by
  have hparams : ascii "params" < ascii "state/" := by decide
  have hbefore : s.override.Forall fun k _ => k < ascii "state/" := by
    intro k o hget
    rw [← hs.override k o hget]
    exact cons_lt_cons_of_lt (by decide) _ _
  rw [Store.iteratorFrom, Store.entries, List.filter_append, List.filter_append,
    scan_eq_nil hbefore, scan_entry_eq_nil _ hparams, scan_eq_self hs.state_le]
  rfl

/-- What the scan of the overrides finds after the last of them. -/
def foreignOverrides (s : Store) : List BandwidthOverride :=
  (s.params.toList.filterMap fun p => decodeOverride (.params p)) ++
    s.state.values.map fun b => ⟨b.orgID, b.epoch, b.memoryUsed⟩

theorem exported_states (hs : Keyed s) : (exportGenesis s).bandwidthStates = s.state.values := by
  change (s.iteratorFrom (ascii "state/")).filterMap _ = _
  rw [iteratorFrom_state hs, List.filterMap_map, values, ← List.filterMap_eq_map]
  rfl

theorem exported_overrides (hs : Keyed s) :
    (exportGenesis s).bandwidthOverrides =
      firstSeen BandwidthOverride.orgID [] (s.override.values ++ foreignOverrides s) := by
  have hoverride : (s.override.entries.map fun e => (e.1, Entry.override e.2)).filterMap
      (fun e => decodeOverride e.2) = s.override.values := by
    rw [List.filterMap_map, values, ← List.filterMap_eq_map]
    rfl
  have hparams : (s.params.toList.map fun v => (ascii "params", Entry.params v)).filterMap
      (fun e => decodeOverride e.2) = s.params.toList.filterMap fun p => decodeOverride (.params p) := by
    rw [List.filterMap_map]
    rfl
  have hstate : (s.state.entries.map fun e => (e.1, Entry.state e.2)).filterMap
      (fun e => decodeOverride e.2) =
      s.state.values.map fun b => ⟨b.orgID, b.epoch, b.memoryUsed⟩ := by
    rw [List.filterMap_map, values, List.map_map, ← List.filterMap_eq_map]
    apply List.filterMap_congr
    intro e _
    exact decodeOverride_state e.2
  change firstSeen _ [] ((s.iteratorFrom (ascii "override/")).filterMap _) = _
  rw [iteratorFrom_override hs, Store.entries, List.filterMap_append, List.filterMap_append,
    hoverride, hparams, hstate]
  rfl

end Scans

section RoundTrip
variable {s : Store}

/-- The export imported into an empty store. -/
def roundTrip (s : Store) : Store := initGenesis {} (exportGenesis s)

theorem roundTrip_state (hs : Keyed s) : (roundTrip s).state = s.state := by
  change (exportGenesis s).bandwidthStates.foldl _ ∅ = _
  rw [exported_states hs]
  exact load_values hs.state

theorem roundTrip_override (hs : Keyed s) (orgID : Bytes) :
    (roundTrip s).override.get (overrideKey orgID) =
      (s.override.get (overrideKey orgID)).or
        ((foreignOverrides s).find? fun o => o.orgID = orgID) := by
  change OrderedMap.get
    (List.foldl _ ∅ (firstSeen _ [] (exportGenesis s).bandwidthOverrides)) _ = _
  rw [exported_overrides hs, firstSeen_firstSeen]
  refine (get_load_firstSeen overrideKey_injective orgID).trans ?_
  rw [Option.map_id', List.find?_append, find?_values overrideKey_injective hs.override]

/-- Other keys are not written. -/
theorem roundTrip_override_none {k : Bytes} (hk : ∀ orgID, overrideKey orgID ≠ k) :
    (roundTrip s).override.get k = none :=
  get_load_of_notMem fun o _ => hk o.orgID

/-- What the import has to give back. With the parameters of the original store the caps of every
org are the same, and so is the rest. -/
structure Restored (s s' : Store) : Prop where
  states : s'.state = s.state
  overrides : s'.override = s.override
  caps : ∀ orgID, currentCaps { s' with params := s.params } orgID = currentCaps s orgID

/-- No record behind the overrides is taken for the override of an org that has none: an org with a
bandwidth state has an override, and if the default memory cap is set to zero, so has the org with
the empty name. -/
structure Covered (s : Store) : Prop where
  states : ∀ k b, s.state.get k = some b → s.override.has (overrideKey b.orgID) = true
  params : ∀ p, s.params = some p → p.defaultMemoryCapPerEpoch = 0 →
    s.override.has (overrideKey []) = true

theorem Covered.of_restored (hs : Keyed s) (h : Restored s (roundTrip s)) : Covered s := by
  have hfound : ∀ o ∈ foreignOverrides s, s.override.has (overrideKey o.orgID) = true := by
    intro o ho
    have hget := roundTrip_override hs o.orgID
    rw [h.overrides] at hget
    cases hown : s.override.get (overrideKey o.orgID) with
    | some own => exact has_iff.mpr ⟨own, hown⟩
    | none =>
      rw [hown, Option.none_or] at hget
      have hnone := List.find?_eq_none.mp hget.symm o ho
      exact absurd (decide_eq_true rfl) hnone
  constructor
  · intro k b hb
    exact hfound ⟨b.orgID, b.epoch, b.memoryUsed⟩ (List.mem_append_right _
      (List.mem_map_of_mem (mem_values_iff.mpr ⟨k, hb⟩)))
  · intro p hp hzero
    refine hfound ⟨[], p.defaultServeCapPerEpoch, 0⟩ (List.mem_append_left _ ?_)
    rw [List.mem_filterMap]
    refine ⟨p, Option.mem_toList.mpr hp, ?_⟩
    rw [decodeOverride_params, if_pos hzero]

theorem Covered.foreign (h : Covered s) {o : BandwidthOverride} (ho : o ∈ foreignOverrides s) :
    s.override.has (overrideKey o.orgID) = true := by
  rcases List.mem_append.mp ho with hparams | hstate
  · obtain ⟨p, hp, hdecode⟩ := List.mem_filterMap.mp hparams
    rw [decodeOverride_params] at hdecode
    split at hdecode
    · rename_i hzero
      obtain rfl := Option.some.inj hdecode
      exact h.params p (Option.mem_toList.mp hp) hzero
    · cases hdecode
  · obtain ⟨b, hb, rfl⟩ := List.mem_map.mp hstate
    obtain ⟨k, hget⟩ := mem_values_iff.mp hb
    exact h.states k b hget

theorem Covered.restored (hs : Keyed s) (h : Covered s) : Restored s (roundTrip s) := by
  have hoverride : (roundTrip s).override = s.override := by
    ext1 k
    by_cases hk : ∃ orgID, overrideKey orgID = k
    · obtain ⟨orgID, rfl⟩ := hk
      rw [roundTrip_override hs]
      cases hown : s.override.get (overrideKey orgID) with
      | some own => rfl
      | none =>
        rw [Option.none_or, List.find?_eq_none]
        intro o ho hname
        obtain ⟨own, hget⟩ := has_iff.mp (h.foreign ho)
        rw [of_decide_eq_true hname, hown] at hget
        cases hget
    · rw [roundTrip_override_none fun orgID heq => hk ⟨orgID, heq⟩]
      cases hown : s.override.get k with
      | none => rfl
      | some o => exact absurd ⟨o.orgID, hs.override k o hown⟩ hk
  refine ⟨roundTrip_state hs, hoverride, ?_⟩
  intro orgID
  unfold currentCaps
  rw [hoverride]
  rfl

theorem quotas_restored_iff (authority : Bytes) (inputs : List Input) :
    Restored ((meter authority).run {} inputs) (roundTrip ((meter authority).run {} inputs)) ↔
      Covered ((meter authority).run {} inputs) :=
  ⟨Covered.of_restored (keyed_run authority inputs), Covered.restored (keyed_run authority inputs)⟩

end RoundTrip

section Sample

/-- An org without an override uses its memory quota once, in epoch 7. -/
def sampleUse : List Input := [⟨.consumeMemory (ascii "org") 7, false⟩]

def sampleUsed : Store := (meter (ascii "gov")).run {} sampleUse

/-- After the round trip it has an override: a memory cap of 7 and a serve cap of 1. -/
theorem sampleUsed_not_restored :
    currentCaps sampleUsed (ascii "org") = (10000, 50000) ∧
      (roundTrip sampleUsed).override.get (overrideKey (ascii "org")) =
        some ⟨ascii "org", 7, 1⟩ ∧
      ¬ Restored sampleUsed (roundTrip sampleUsed) := by
  have hsample : currentCaps sampleUsed (ascii "org") = (10000, 50000) ∧
      (roundTrip sampleUsed).override.get (overrideKey (ascii "org")) =
        some ⟨ascii "org", 7, 1⟩ ∧
      sampleUsed.override.get (overrideKey (ascii "org")) = none := by
    decide +kernel
  obtain ⟨hcaps, hafter, hbefore⟩ := hsample
  refine ⟨hcaps, hafter, ?_⟩
  intro h
  rw [h.overrides, hbefore] at hafter
  cases hafter

end Sample

end WeVibeChain.Bandwidth
