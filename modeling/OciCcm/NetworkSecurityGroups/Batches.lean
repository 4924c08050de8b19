import OciCcm.Go.View
import OciCcm.NetworkSecurityGroups.Rules

/-! # Batches that share an array

The batches of the rules are slices of one array. Each but the last has no room behind
its elements, so an append to it takes a new array, and the room behind the last one is
behind all of them.
-/

namespace OciCcm.NetworkSecurityGroups.Batching

open Go List

variable {α : Type}

/-- A slice of slices, with the memory that it is in. -/
abbrev Slices (α : Type) := Heap (View α) × View (View α)

def Slices.read (batches : Slices α) : List (View α) := batches.2.read batches.1

/-- The loop, where every iteration shortens the slice; `none` also stands for bounds of a
slice that are out of range. -/
def cutBatches (grow : Growth) : Nat → View α → Slices α → Option (Slices α)
  | 0, _, _ => none
  | fuel + 1, rules, (memory, securityRulesInBatches) =>
    if batchSize < rules.len then do
      let rest ← rules.slice batchSize rules.len rules.cap
      -- The third bound leaves no room behind the batch.
      let batch ← rules.slice 0 batchSize batchSize
      cutBatches grow fuel rest (securityRulesInBatches.append grow memory [batch])
    else some (securityRulesInBatches.append grow memory [rules])

/-- The body of the two functions that split. -/
def splitIntoBatches (grow : Growth) (memory : Heap (View α)) (rules : View α) :
    Option (Slices α) :=
  cutBatches grow (rules.len + 1) rules
    (View.make memory ((rules.len + batchSize - 1) / batchSize))

def splitRulesIntoBatches := @splitIntoBatches SecurityRule

def splitRuleIdsIntoBatches := @splitIntoBatches String

/-- The parts lie in the slice one after the other, with their capacities. -/
structure PartsOf (rules : View α) (parts : List (View α)) : Prop where
  inside : ∀ part ∈ parts,
    rules.first ≤ part.first ∧ part.first + part.cap ≤ rules.first + rules.cap
  apart : parts.Pairwise View.Apart

variable {rules : View α} {parts : List (View α)}

theorem partsOf_singleton : PartsOf rules [rules] where
  inside := by simp
  apart := pairwise_singleton ..

theorem PartsOf.cons {batch rest : View α} (h : PartsOf rest parts)
    (hfirst : batch.first = rules.first) (hnext : batch.first + batch.cap = rest.first)
    (hend : rest.first + rest.cap = rules.first + rules.cap) : PartsOf rules (batch :: parts) := by
  refine ⟨forall_mem_cons.mpr ⟨by omega, fun part hpart => ?_⟩,
    pairwise_cons.mpr ⟨fun part hpart => .inl ?_, h.apart⟩⟩
  · have hinside := h.inside part hpart
    omega
  · exact hnext.trans_le (h.inside part hpart).1

/-- The loop ends. What is read from the batches is what the list is cut into. -/
theorem exists_cutBatches (grow : Growth) (memory : Heap α) {fuel : Nat}
    (batches : Slices α) (hfuel : rules.len ≤ fuel) :
    ∃ batches' parts, cutBatches grow (fuel + 1) rules batches = some batches' ∧
      batches'.read = batches.read ++ parts ∧ PartsOf rules parts ∧
      parts.map (·.read memory) = NetworkSecurityGroups.cutBatches fuel (rules.read memory) := by
  induction fuel generalizing rules batches with
  | zero =>
    rw [cutBatches, if_neg (by omega)]
    exact ⟨_, [rules], rfl, View.read_append, partsOf_singleton, rfl⟩
  | succ fuel ih =>
    rw [cutBatches, NetworkSecurityGroups.cutBatches, View.length_read]
    split
    · rename_i hlt
      have hpos : 0 < batchSize := by decide
      have hcap := hlt.le.trans rules.len_le
      obtain ⟨rest, hrest, hfirst, hlen, hend⟩ := View.exists_slice hlt.le rules.len_le le_rfl
      obtain ⟨batch, hbatch, hfirst', hlen', hend'⟩ :=
        View.exists_slice (Nat.zero_le batchSize) le_rfl hcap
      have hfuel' : rest.len ≤ fuel := by omega
      obtain ⟨batches', parts, hcut, hread, hparts, hlists⟩ :=
        ih (batches.2.append grow batches.1 [batch]) hfuel'
      refine ⟨batches', batch :: parts, ?_, ?_, hparts.cons hfirst' (by omega) (by omega), ?_⟩
      · rw [hrest, hbatch]
        exact hcut
      · rw [hread, Slices.read, View.read_append, append_assoc, singleton_append]
        rfl
      · rw [map_cons, hlists, View.read_slice hfirst hlen le_rfl,
          View.read_slice hfirst' hlen' hlt.le, drop_zero,
          take_of_length_le View.length_read.le]
    · exact ⟨_, [rules], rfl, View.read_append, partsOf_singleton, rfl⟩

theorem PartsOf.separate {memory : Heap α} (h : PartsOf rules parts) (hrules : rules.InUse memory) :
    (⟨memory, parts.zipIdx⟩ : Views α).Separate where
  inUse v hv := by
    have hmem : v.1 ∈ parts := mem_of_getElem? (mem_zipIdx_iff_getElem?.mp hv)
    exact (h.inside v.1 hmem).2.trans hrules
  pairwise := by
    have hapart : (parts.zipIdx.map Prod.fst).Pairwise View.Apart := by
      rw [zipIdx_map_fst]
      exact h.apart
    refine (pairwise_map.mp hapart).imp ?_
    exact fun h _ => h

/-- The batches are made of all the elements, and appends to one of them, to what such appends
return and so on never write into another. -/
def LosesNothing (split : Growth → Heap (View α) → View α → Option (Slices α)) : Prop :=
  ∀ grow slices (memory : Heap α) rules, rules.InUse memory →
    ∃ batches, split grow slices rules = some batches ∧
      AreBatches (rules.read memory) (batches.read.map (·.read memory)) ∧
      ∀ grow' appends, Runs.Along (Views.append grow') (Views.Spares grow')
        ⟨memory, batches.read.zipIdx⟩ appends

theorem losesNothing_splitIntoBatches : LosesNothing (@splitIntoBatches α) := by
  intro grow slices memory rules hrules
  obtain ⟨batches, parts, hcut, hread, hparts, hlists⟩ :=
    exists_cutBatches grow memory (View.make slices _) (le_refl rules.len)
  have hread : batches.read = parts := hread
  refine ⟨batches, hcut, ?_, fun grow' appends => ?_⟩
  · rw [hread, hlists]
    exact areBatches_cutBatches View.length_read.le
  · rw [hread]
    exact Runs.along_of_invariant (fun _ _ h => h.spares) (fun _ _ h => h.append)
      (hparts.separate hrules)

theorem losesNothing_split :
    LosesNothing splitRulesIntoBatches ∧ LosesNothing splitRuleIdsIntoBatches :=
  ⟨losesNothing_splitIntoBatches, losesNothing_splitIntoBatches⟩

end OciCcm.NetworkSecurityGroups.Batching
