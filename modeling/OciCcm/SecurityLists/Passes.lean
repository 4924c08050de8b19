import OciCcm.SecurityLists.Manager
import Mathlib.Logic.Function.Iterate

/-! # A loop over subnets as passes over lists

Writing to a security list changes neither its id nor its time of creation, so
the list in charge of a subnet stays the same throughout. A loop over subnets
then rewrites every list as often as there are subnets that it is in charge of.
-/

namespace OciCcm.SecurityLists

open Go Kubernetes LoadBalancer List Option

/-- One pass over a security list: its rules are replaced if they changed. -/
def pass (rewrite : SecurityList → List SecurityRule × List SecurityRule)
    (secList : SecurityList) : SecurityList :=
  if securityListRulesChanged secList (rewrite secList).1 (rewrite secList).2 then
    { secList with
      ingressSecurityRules := (rewrite secList).1
      egressSecurityRules := (rewrite secList).2 }
  else secList

/-- Do the two stores hold the same lists, perhaps with different rules? -/
def SameLists (store store' : Store) : Prop :=
  ∀ id, (store'.lookup id).map (·.timeCreated) = (store.lookup id).map (·.timeCreated)

theorem SameLists.refl (store : Store) : SameLists store store := fun _ => rfl

variable {store store' : Store}

theorem SameLists.symm (h : SameLists store store') :
    SameLists store' store := fun id => (h id).symm

theorem SameLists.trans {store₁ store₂ store₃ : Store} (h : SameLists store₁ store₂)
    (h' : SameLists store₂ store₃) : SameLists store₁ store₃ :=
  fun id => (h' id).trans (h id)

theorem SameLists.lookup (h : SameLists store store') {id : String} {secList : SecurityList}
    (hlookup : store.lookup id = some secList) :
    ∃ secList', store'.lookup id = some secList' ∧
      secList'.timeCreated = secList.timeCreated := by
  have hid := h id
  rw [hlookup, map_some, map_eq_some_iff] at hid
  exact hid

theorem timeCreated_iterate_pass (rewrite : SecurityList → List SecurityRule × List SecurityRule)
    (n : Nat) (secList : SecurityList) :
    ((pass rewrite)^[n] secList).timeCreated = secList.timeCreated := by
  induction n generalizing secList with
  | zero => rfl
  | succ n ih =>
    rw [Function.iterate_succ_apply, ih]
    unfold pass
    split <;> rfl

section Oldest

variable {α β : Type} {f : α → SecurityList} {g : β → SecurityList}

theorem oldest_mem (r : α) (rs : List α) : oldest f r rs ∈ r :: rs := by
  induction rs generalizing r with
  | nil => exact mem_cons_self
  | cons x rs ih =>
    unfold oldest
    rw [foldl_cons]
    rcases mem_cons.mp (ih (if (f x).timeCreated < (f r).timeCreated then x else r)) with
      h | h
    · unfold oldest at h
      rw [h]
      split
      · exact mem_cons_of_mem _ mem_cons_self
      · exact mem_cons_self
    · exact mem_cons_of_mem _ (mem_cons_of_mem _ h)

/-- Answers that are related have related oldest lists if they agree on the times. -/
theorem rel_oldest {R : α → β → Prop} (hR : ∀ a b, R a b → (f a).timeCreated = (g b).timeCreated)
    {r : α} {r' : β} {rs : List α} {rs' : List β} (h : R r r') (hs : List.Forall₂ R rs rs') :
    R (oldest f r rs) (oldest g r' rs') := by
  induction hs generalizing r r' with
  | nil => exact h
  | @cons x x' rs rs' hx hs ih =>
    apply ih
    dsimp only
    rw [hR _ _ h, hR _ _ hx]
    split
    · exact hx
    · exact h

end Oldest

namespace BaseSecurityListManager

variable {s : BaseSecurityListManager} {store store' : Store} {subnet : SubnetWithLists}
  {id : String} {secList : SecurityList} {r : String × SecurityList} {ids : List String}
  {rs : List (String × SecurityList)} {subnets : List SubnetWithLists} {kind₁ kind₂ : String}
  {rewrite₁ rewrite₂ : SecurityList → List SecurityRule × List SecurityRule}
  {subnets₁ subnets₂ : List SubnetWithLists}

/-! ## The list in charge of a subnet -/

theorem response_ok {id' : String} (h : s.response store id = .ok (id', secList)) :
    id' = id ∧ store.lookup id = some secList ∧ s.client.getError id = none := by
  unfold response NetworkingClient.getSecurityList at h
  cases herr : s.client.getError id with
  | some err => simp [herr, Except.map] at h
  | none =>
    cases hlookup : store.lookup id with
    | none => simp [herr, hlookup, Except.map] at h
    | some l =>
      simp only [herr, hlookup, Except.map, Except.ok.injEq, Prod.mk.injEq] at h
      exact ⟨h.1.symm, congrArg some h.2, rfl⟩

theorem response_of_lookup (herr : s.client.getError id = none)
    (hlookup : store.lookup id = some secList) : s.response store id = .ok (id, secList) := by
  simp [response, NetworkingClient.getSecurityList, herr, hlookup, Except.map]

/-- The answers for two stores with the same lists: the same ids and times of creation. -/
def SameAnswer (r r' : String × SecurityList) : Prop :=
  r'.1 = r.1 ∧ r'.2.timeCreated = r.2.timeCreated

theorem response_congr (hsame : SameLists store store') (h : s.response store id = .ok r) :
    ∃ r', s.response store' id = .ok r' ∧ SameAnswer r r' := by
  obtain ⟨hid, hlookup, herr⟩ := response_ok h
  obtain ⟨secList', hlookup', htime⟩ := hsame.lookup hlookup
  exact ⟨(id, secList'), response_of_lookup herr hlookup', hid.symm, htime⟩

theorem mapM_response_congr (hsame : SameLists store store')
    (h : ids.mapM (s.response store) = .ok rs) :
    ∃ rs', ids.mapM (s.response store') = .ok rs' ∧ List.Forall₂ SameAnswer rs rs' := by
  induction ids generalizing rs with
  | nil =>
    obtain rfl : [] = rs := Except.ok.inj h
    exact ⟨[], rfl, .nil⟩
  | cons id ids ih =>
    rw [mapM_cons] at h
    obtain ⟨r, hr, h⟩ := bind_ok h
    obtain ⟨rest, hrest, h⟩ := bind_ok h
    obtain rfl : r :: rest = rs := Except.ok.inj h
    obtain ⟨r', hr', hsame₁⟩ := response_congr hsame hr
    obtain ⟨rest', hrest', hsame₂⟩ := ih hrest
    refine ⟨r' :: rest', ?_, .cons hsame₁ hsame₂⟩
    rw [mapM_cons, hr', hrest']
    rfl

theorem lookup_of_mem_mapM_response (h : ids.mapM (s.response store) = .ok rs) (hr : r ∈ rs) :
    store.lookup r.1 = some r.2 := by
  induction ids generalizing rs with
  | nil =>
    obtain rfl : [] = rs := Except.ok.inj h
    cases hr
  | cons id ids ih =>
    rw [mapM_cons] at h
    obtain ⟨r', hr', h⟩ := bind_ok h
    obtain ⟨rest, hrest, h⟩ := bind_ok h
    obtain rfl : r' :: rest = rs := Except.ok.inj h
    rcases mem_cons.mp hr with rfl | hr
    · obtain ⟨hid, hlookup, -⟩ := response_ok hr'
      rw [hid, hlookup]
    · exact ih hrest hr

theorem lookup_of_getSecurityList (h : s.getSecurityList store subnet = .ok (id, secList)) :
    store.lookup id = some secList := by
  unfold getSecurityList at h
  split at h
  · cases h
  next id₀ ids _ =>
    split at h
    · obtain ⟨rfl, hlookup, -⟩ := response_ok h
      exact hlookup
    · obtain ⟨r, hr, h⟩ := bind_ok h
      obtain ⟨rs, hrs, h⟩ := bind_ok h
      have hall : (id₀ :: ids).mapM (s.response store) = .ok (r :: rs) := by
        rw [mapM_cons, hr, hrs]
        rfl
      have hmem := oldest_mem (f := Prod.snd) r rs
      rw [Except.ok.inj h] at hmem
      exact lookup_of_mem_mapM_response hall hmem

/-- The list in charge of a subnet stays the same. -/
theorem getSecurityList_congr (hsame : SameLists store store')
    (h : s.getSecurityList store subnet = .ok (id, secList)) :
    ∃ secList', s.getSecurityList store' subnet = .ok (id, secList') := by
  unfold getSecurityList at h ⊢
  cases hids : subnet.securityListIds with
  | nil =>
    rw [hids] at h
    cases h
  | cons id₀ ids =>
    rw [hids] at h
    dsimp only at h ⊢
    cases hconfig : (s.securityLists.lookup subnet.id).filter (· ∈ id₀ :: ids) with
    | some id' =>
      rw [hconfig] at h
      obtain ⟨⟨id'', secList'⟩, h', hid, -⟩ := response_congr hsame h
      obtain rfl : id'' = id := hid
      exact ⟨secList', h'⟩
    | none =>
      rw [hconfig] at h
      obtain ⟨r, hr, h⟩ := bind_ok h
      obtain ⟨rs, hrs, h⟩ := bind_ok h
      obtain ⟨r', hr', hsame₁⟩ := response_congr hsame hr
      obtain ⟨rs', hrs', hsame₂⟩ := mapM_response_congr hsame hrs
      have hold := rel_oldest (f := Prod.snd) (fun _ _ h => h.2.symm) hsame₁ hsame₂
      rw [Except.ok.inj h] at hold
      refine ⟨(oldest Prod.snd r' rs').2, ?_⟩
      dsimp only
      rw [hr', hrs']
      exact congrArg Except.ok (Prod.ext hold.1 rfl)

/-- The id of the list in charge of a subnet. -/
def listInCharge (s : BaseSecurityListManager) (store : Store) (subnet : SubnetWithLists) :
    Option String :=
  (s.getSecurityList store subnet).toOption.map (·.1)

theorem listInCharge_eq_some :
    s.listInCharge store subnet = some id ↔
      ∃ secList, s.getSecurityList store subnet = .ok (id, secList) := by
  unfold listInCharge
  cases h : s.getSecurityList store subnet with
  | error err => simp [Except.toOption]
  | ok r =>
    simp only [Except.toOption, map_some, Option.some.injEq, Except.ok.injEq]
    constructor
    · rintro rfl
      exact ⟨r.2, rfl⟩
    · rintro ⟨l, rfl⟩
      rfl

theorem listInCharge_congr (hsame : SameLists store store') (subnet : SubnetWithLists) :
    s.listInCharge store' subnet = s.listInCharge store subnet := by
  ext id
  rw [listInCharge_eq_some, listInCharge_eq_some]
  constructor
  · rintro ⟨secList, h⟩
    exact getSecurityList_congr hsame.symm h
  · rintro ⟨secList, h⟩
    exact getSecurityList_congr hsame h

theorem exists_mapM_response (h : ∀ id ∈ ids, ∃ r, s.response store id = .ok r) :
    ∃ rs, ids.mapM (s.response store) = .ok rs := by
  induction ids with
  | nil => exact ⟨[], rfl⟩
  | cons id ids ih =>
    obtain ⟨r, hr⟩ := h id mem_cons_self
    obtain ⟨rs, hrs⟩ := ih fun id' hid' => h id' (mem_cons_of_mem _ hid')
    refine ⟨r :: rs, ?_⟩
    rw [mapM_cons, hr, hrs]
    rfl

/-- A subnet has a list in charge if its lists exist and can be read. -/
theorem exists_listInCharge (hget : ∀ id, s.client.getError id = none)
    (hne : subnet.securityListIds ≠ [])
    (hids : ∀ id ∈ subnet.securityListIds, (store.lookup id).isSome) :
    ∃ id, s.listInCharge store subnet = some id := by
  have hresponse : ∀ id ∈ subnet.securityListIds, ∃ r, s.response store id = .ok r := by
    intro id hid
    obtain ⟨secList, hlookup⟩ := isSome_iff_exists.mp (hids id hid)
    exact ⟨(id, secList), response_of_lookup (hget id) hlookup⟩
  have hget : ∃ r, s.getSecurityList store subnet = .ok r := by
    unfold getSecurityList
    cases hlist : subnet.securityListIds with
    | nil => exact absurd hlist hne
    | cons id₀ ids =>
      rw [hlist] at hresponse
      dsimp only
      cases hconfig : (s.securityLists.lookup subnet.id).filter (· ∈ id₀ :: ids) with
      | some id =>
        have hmem := (filter_eq_some_iff.mp hconfig).2
        exact hresponse id (of_decide_eq_true hmem)
      | none =>
        obtain ⟨r, hr⟩ := hresponse id₀ mem_cons_self
        obtain ⟨rs, hrs⟩ := exists_mapM_response fun id hid =>
          hresponse id (mem_cons_of_mem _ hid)
        refine ⟨oldest Prod.snd r rs, ?_⟩
        dsimp only
        rw [hr, hrs]
        rfl
  obtain ⟨⟨id, secList⟩, hget⟩ := hget
  exact ⟨id, listInCharge_eq_some.mpr ⟨secList, hget⟩⟩

/-! ## The loops -/

variable {kind : String} {rewrite : SecurityList → List SecurityRule × List SecurityRule}

/-- One iteration is a pass over the list in charge. -/
theorem rewriteStep_ok (h : s.rewriteStep kind rewrite store subnet = .ok store') :
    ∃ id, s.listInCharge store subnet = some id ∧
      ∀ id', store'.lookup id' =
        if id' = id then (store.lookup id').map (pass rewrite) else store.lookup id' := by
  obtain ⟨⟨id, secList⟩, hget, h⟩ := bind_ok h
  rw [mapError_ok] at hget
  have hlookup := lookup_of_getSecurityList hget
  refine ⟨id, listInCharge_eq_some.mpr ⟨secList, hget⟩, fun id' => ?_⟩
  dsimp only at h
  by_cases hchanged : securityListRulesChanged secList (rewrite secList).1 (rewrite secList).2
  · rw [if_pos hchanged, mapError_ok] at h
    unfold NetworkingClient.updateSecurityList at h
    rw [hlookup] at h
    cases herr : s.client.updateError id with
    | some err => simp [herr] at h
    | none =>
      simp only [herr, Except.ok.injEq] at h
      rw [← h, GoMap.lookup_insert_eq_ite]
      split
      · next heq => rw [heq, hlookup, map_some, pass, if_pos hchanged]
      · rfl
  · rw [if_neg hchanged] at h
    cases h
    split
    · next heq => rw [heq, hlookup, map_some, pass, if_neg hchanged]
    · rfl

theorem sameLists_of_rewriteStep (h : s.rewriteStep kind rewrite store subnet = .ok store') :
    SameLists store store' := by
  obtain ⟨id, -, hlookup⟩ := rewriteStep_ok h
  intro id'
  rw [hlookup]
  split
  · rw [Option.map_map]
    congr 1
    funext secList
    exact timeCreated_iterate_pass rewrite 1 secList
  · rfl

/-- The number of subnets that a list is in charge of. -/
def subnetsInCharge (s : BaseSecurityListManager) (store : Store)
    (subnets : List SubnetWithLists) (id : String) : Nat :=
  subnets.countP fun subnet => s.listInCharge store subnet = some id

theorem subnetsInCharge_congr (hsame : SameLists store store') (subnets : List SubnetWithLists)
    (id : String) : s.subnetsInCharge store' subnets id = s.subnetsInCharge store subnets id := by
  unfold subnetsInCharge
  simp only [listInCharge_congr hsame]

/-- A loop is, for every list, as many passes as there are subnets it is in charge of. -/
theorem foldlM_rewriteStep_ok (h : subnets.foldlM (s.rewriteStep kind rewrite) store = .ok store') :
    SameLists store store' ∧
    (∀ subnet ∈ subnets, ∃ id, s.listInCharge store subnet = some id) ∧
    ∀ id, store'.lookup id =
      (store.lookup id).map ((pass rewrite)^[s.subnetsInCharge store subnets id]) := by
  induction subnets generalizing store with
  | nil =>
    obtain rfl : store = store' := Except.ok.inj h
    refine ⟨SameLists.refl store, fun _ hs => absurd hs not_mem_nil, fun id => ?_⟩
    exact map_id'.symm
  | cons subnet subnets ih =>
    obtain ⟨store₁, hstep, h⟩ := foldlM_cons_ok h
    obtain ⟨id₁, hcharge, hlookup₁⟩ := rewriteStep_ok hstep
    have hsame₁ := sameLists_of_rewriteStep hstep
    obtain ⟨hsame, hall, hlookup⟩ := ih h
    refine ⟨hsame₁.trans hsame, ?_, fun id => ?_⟩
    · intro subnet' hsubnet'
      rcases mem_cons.mp hsubnet' with rfl | hsubnet'
      · exact ⟨id₁, hcharge⟩
      · rw [← listInCharge_congr hsame₁]
        exact hall subnet' hsubnet'
    · rw [hlookup, hlookup₁, subnetsInCharge_congr hsame₁]
      unfold subnetsInCharge
      rw [countP_cons, hcharge]
      by_cases heq : id = id₁
      · subst heq
        simp [Function.iterate_succ]
      · simp [heq, Ne.symm heq]

theorem exists_rewriteStep (hupdate : ∀ id, s.client.updateError id = none)
    (hid : s.listInCharge store subnet = some id) :
    ∃ store', s.rewriteStep kind rewrite store subnet = .ok store' := by
  obtain ⟨secList, hget⟩ := listInCharge_eq_some.mp hid
  have hlookup := lookup_of_getSecurityList hget
  unfold rewriteStep
  rw [hget]
  dsimp only [Except.mapError, bind, Except.bind]
  split
  · rw [NetworkingClient.updateSecurityList, hupdate, hlookup]
    exact ⟨_, rfl⟩
  · exact ⟨store, rfl⟩

theorem exists_foldlM_rewriteStep (hupdate : ∀ id, s.client.updateError id = none)
    (hids : ∀ subnet ∈ subnets, ∃ id, s.listInCharge store subnet = some id) :
    ∃ store', subnets.foldlM (s.rewriteStep kind rewrite) store = .ok store' := by
  induction subnets generalizing store with
  | nil => exact ⟨store, rfl⟩
  | cons subnet subnets ih =>
    obtain ⟨id, hid⟩ := hids subnet (by simp)
    obtain ⟨store₁, hstep⟩ := @exists_rewriteStep s store subnet id kind rewrite hupdate hid
    obtain ⟨store₂, hrest⟩ := @ih store₁ fun subnet' hsubnet' => by
      rw [listInCharge_congr (sameLists_of_rewriteStep hstep)]
      exact hids subnet' (mem_cons_of_mem _ hsubnet')
    refine ⟨store₂, ?_⟩
    rw [foldlM_cons, hstep]
    exact hrest

theorem two_loops_ok (h : (subnets₁.foldlM (s.rewriteStep kind₁ rewrite₁) store >>=
      fun store => subnets₂.foldlM (s.rewriteStep kind₂ rewrite₂) store) = .ok store') :
    SameLists store store' ∧ ∀ id, store'.lookup id = (store.lookup id).map fun secList =>
      (pass rewrite₂)^[s.subnetsInCharge store subnets₂ id]
        ((pass rewrite₁)^[s.subnetsInCharge store subnets₁ id] secList) := by
  obtain ⟨store₁, h₁, h₂⟩ := bind_ok h
  obtain ⟨hsame₁, -, hlookup₁⟩ := foldlM_rewriteStep_ok h₁
  obtain ⟨hsame₂, -, hlookup₂⟩ := foldlM_rewriteStep_ok h₂
  refine ⟨hsame₁.trans hsame₂, fun id => ?_⟩
  rw [hlookup₂, hlookup₁, Option.map_map, subnetsInCharge_congr hsame₁]
  rfl

theorem exists_two_loops (hupdate : ∀ id, s.client.updateError id = none)
    (hids : ∀ subnet ∈ subnets₁ ++ subnets₂, (s.listInCharge store subnet).isSome) :
    ∃ store', (subnets₁.foldlM (s.rewriteStep kind₁ rewrite₁) store >>=
      fun store => subnets₂.foldlM (s.rewriteStep kind₂ rewrite₂) store) = .ok store' := by
  obtain ⟨store₁, h₁⟩ := @exists_foldlM_rewriteStep s store subnets₁ kind₁ rewrite₁ hupdate
    fun subnet hsubnet => isSome_iff_exists.mp (hids subnet (mem_append_left _ hsubnet))
  obtain ⟨store₂, h₂⟩ := @exists_foldlM_rewriteStep s store₁ subnets₂ kind₂ rewrite₂ hupdate
    fun subnet hsubnet => by
      rw [listInCharge_congr (foldlM_rewriteStep_ok h₁).1]
      exact isSome_iff_exists.mp (hids subnet (mem_append_right _ hsubnet))
  refine ⟨store₂, ?_⟩
  rw [h₁]
  exact h₂

theorem subnetsInCharge_pos (hsubnet : subnet ∈ subnets)
    (h : s.listInCharge store subnet = some id) : 0 < s.subnetsInCharge store subnets id := by
  unfold subnetsInCharge
  rw [countP_pos_iff]
  exact ⟨subnet, hsubnet, by simpa using h⟩

end BaseSecurityListManager

end OciCcm.SecurityLists
