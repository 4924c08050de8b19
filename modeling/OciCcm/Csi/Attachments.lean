import OciCcm.Listings

/-! # Attachments of a volume

`FindVolumeAttachment` goes through the attachments of a volume page by page. It
stops at the first one that is in use, but also at the first one that is being
detached.
-/

namespace OciCcm.Csi.Attachments

open Client Go Pages Listings List

inductive VolumeAttachmentLifecycleState where
  | attaching
  | attached
  | detaching
  | detached
deriving DecidableEq, Repr

structure VolumeAttachment where
  id : String
  instanceId : String
  lifecycleState : VolumeAttachmentLifecycleState
deriving DecidableEq, Repr

namespace VolumeAttachment

abbrev InUse (a : VolumeAttachment) : Prop :=
  a.lifecycleState = .attaching ∨ a.lifecycleState = .attached

abbrev Detaching (a : VolumeAttachment) : Prop := a.lifecycleState = .detaching

theorem InUse.not_detaching {a : VolumeAttachment} (h : a.InUse) : ¬a.Detaching := by
  rintro hdetaching
  rcases h with h | h
  · cases h.symm.trans hdetaching
  · cases h.symm.trans hdetaching

end VolumeAttachment

/-- An attachment that is being detached is returned with an error. -/
def findVolumeAttachment :
    Loop ClientError VolumeAttachment Unit (Option VolumeAttachment × Option ClientError) where
  passesToken := true
  start := ()
  visit _ a :=
    if a.InUse then .inr (some a, none)
    else if a.Detaching then .inr (some a, some .errNotFound)
    else .inl ()
  failed _ err := (none, some err)
  finish _ := (none, some .errNotFound)

/-! ## The result -/

/-- Does the loop stop at the attachment? -/
abbrev Stops (a : VolumeAttachment) : Prop := a.InUse ∨ a.Detaching

theorem visitAll_of_not_stops {items : List VolumeAttachment} (h : ∀ a ∈ items, ¬Stops a) :
    findVolumeAttachment.visitAll () items = .inl () := by
  induction items with
  | nil => rfl
  | cons a items ih =>
    have ha := h a mem_cons_self
    rw [Stops, not_or] at ha
    have hvisit : findVolumeAttachment.visit () a = .inl () := by
      simp only [findVolumeAttachment, if_neg ha.1, if_neg ha.2]
    rw [Loop.visitAll, hvisit]
    exact ih fun b hb => h b (mem_cons_of_mem _ hb)

theorem result_of_first {before after : List VolumeAttachment} {a : VolumeAttachment}
    (hbefore : ∀ b ∈ before, ¬Stops b) (ha : Stops a) :
    findVolumeAttachment.result () (before ++ a :: after) =
      (some a, if a.InUse then none else some .errNotFound) := by
  rw [Loop.result_append before _ (visitAll_of_not_stops hbefore), Loop.result, Loop.visitAll]
  by_cases huse : a.InUse
  · simp only [findVolumeAttachment, if_pos huse]
  · simp only [findVolumeAttachment, if_neg huse, if_pos (ha.resolve_left huse)]

theorem result_cases (items : List VolumeAttachment) :
    ((∀ a ∈ items, ¬Stops a) ∧
      findVolumeAttachment.result () items = (none, some .errNotFound)) ∨
    ∃ a ∈ items, Stops a ∧ findVolumeAttachment.result () items =
      (some a, if a.InUse then none else some .errNotFound) := by
  cases hfind : items.find? fun a => Stops a with
  | none =>
    have hnone : ∀ a ∈ items, ¬Stops a := by simpa [List.find?_eq_none] using hfind
    refine .inl ⟨hnone, ?_⟩
    rw [Loop.result, visitAll_of_not_stops hnone]
    rfl
  | some a =>
    obtain ⟨ha, before, after, rfl, hbefore⟩ := List.find?_eq_some_iff_append.mp hfind
    refine .inr ⟨a, by simp, of_decide_eq_true ha, ?_⟩
    exact result_of_first (by simpa using hbefore) (of_decide_eq_true ha)

theorem result_of_not_both {items : List VolumeAttachment}
    (h : ¬((∃ a ∈ items, a.InUse) ∧ ∃ a ∈ items, a.Detaching)) :
    (∃ a ∈ items, a.InUse ∧ findVolumeAttachment.result () items = (some a, none)) ∨
    (∀ a ∈ items, ¬a.InUse) ∧ (findVolumeAttachment.result () items).2 = some .errNotFound := by
  rcases result_cases items with ⟨hnone, hresult⟩ | ⟨a, hmem, hstops, hresult⟩
  · refine .inr ⟨fun a ha huse => hnone a ha (.inl huse), ?_⟩
    rw [hresult]
  · by_cases huse : a.InUse
    · rw [if_pos huse] at hresult
      exact .inl ⟨a, hmem, huse, hresult⟩
    · rw [if_neg huse] at hresult
      refine .inr ⟨fun b hb hbuse => h ⟨⟨b, hb, hbuse⟩, a, hmem, hstops.resolve_left huse⟩, ?_⟩
      rw [hresult]

/-! ## Lists in pages -/

/-- The search returns the result for a list of attachments in pages. -/
def Returns (s : Split VolumeAttachment)
    (result : Option VolumeAttachment × Option ClientError) : Prop :=
  ∃ fuel requests,
    findVolumeAttachment.run (s.serve unknownPage) fuel 0 none () = some (result, requests)

theorem returns_iff {s : Split VolumeAttachment}
    {result : Option VolumeAttachment × Option ClientError} :
    Returns s result ↔ result = findVolumeAttachment.result () s.items := by
  obtain ⟨fuel, requests, hrun, -⟩ : ∃ fuel requests,
      findVolumeAttachment.run (s.serve unknownPage) fuel 0 none () =
        some (findVolumeAttachment.result () s.items, requests) ∧ requests.Nodup :=
    Split.run_of_passesToken (l := findVolumeAttachment) rfl
  constructor
  · rintro ⟨fuel', requests', hrun'⟩
    exact (Prod.mk.inj (Loop.run_unique hrun' hrun)).1
  · rintro rfl
    exact ⟨fuel, requests, hrun⟩

/-- An attachment in use is returned if there is one, and otherwise the error that there is
none. -/
def FindsInUse (s : Split VolumeAttachment) : Prop :=
  ∃ result, Returns s result ∧
    ((∃ a ∈ s.items, a.InUse) → ∃ a ∈ s.items, a.InUse ∧ result = (some a, none)) ∧
    ((∀ a ∈ s.items, ¬a.InUse) → ∃ err, result.2 = some err ∧ isNotFound err)

/-- The same attachments in another order, or on other pages, are found or not found alike. -/
def OrderIrrelevant (s : Split VolumeAttachment) : Prop :=
  ∀ s' result result', s'.items.Perm s.items → Returns s result → Returns s' result' →
    (result.2 = none ↔ result'.2 = none)

/-- An attachment in use is found in every order of the list exactly if no other one is being
detached. -/
theorem findsInUse_iff (s : Split VolumeAttachment) :
    (FindsInUse s ∧ OrderIrrelevant s) ↔
      ¬((∃ a ∈ s.items, a.InUse) ∧ ∃ a ∈ s.items, a.Detaching) := by
  constructor
  · rintro ⟨⟨result, hresult, hfinds, -⟩, horder⟩ ⟨huse, d, hmem, hd⟩
    obtain ⟨a, -, -, rfl⟩ := hfinds huse
    -- with the other attachment in front the search does not get to one in use
    have hperm : (Split.single (d :: s.items.erase d)).items.Perm s.items := by
      rw [Split.items, Split.single, flatMap_nil, append_nil]
      exact (perm_cons_erase hmem).symm
    have hfirst : findVolumeAttachment.result () (d :: s.items.erase d) =
        (some d, if d.InUse then none else some .errNotFound) :=
      @result_of_first [] _ d (by simp) (.inr hd)
    rw [if_neg fun h => h.not_detaching hd] at hfirst
    have hreturns : Returns (Split.single (d :: s.items.erase d)) (some d, some .errNotFound) := by
      rw [returns_iff, Split.items, Split.single, flatMap_nil, append_nil, hfirst]
    cases (horder _ _ _ hperm hresult hreturns).mp rfl
  · intro h
    constructor
    · refine ⟨_, returns_iff.mpr rfl, fun huse => ?_, fun hnone => ?_⟩
      · rcases result_of_not_both h with hfound | ⟨hnone, -⟩
        · exact hfound
        · obtain ⟨a, ha, huse⟩ := huse
          exact absurd huse (hnone a ha)
      · rcases result_of_not_both h with ⟨a, ha, huse, -⟩ | ⟨-, herror⟩
        · exact absurd huse (hnone a ha)
        · exact ⟨_, herror, rfl⟩
    · intro s' result result' hperm hresult hresult'
      have h' : ¬((∃ a ∈ s'.items, a.InUse) ∧ ∃ a ∈ s'.items, a.Detaching) := by
        simpa only [hperm.mem_iff] using h
      rw [returns_iff.mp hresult, returns_iff.mp hresult']
      rcases result_of_not_both h with ⟨a, ha, huse, hfound⟩ | ⟨hnone, herror⟩
      · rcases result_of_not_both h' with ⟨a', -, -, hfound'⟩ | ⟨hnone', -⟩
        · rw [hfound, hfound']
        · exact absurd huse (hnone' a (hperm.mem_iff.mpr ha))
      · rcases result_of_not_both h' with ⟨a', ha', huse', -⟩ | ⟨-, herror'⟩
        · exact absurd huse' (hnone a' (hperm.mem_iff.mp ha'))
        · rw [herror, herror']

/-- A volume that is detached from one instance and attached to another. -/
def movedVolume : Split VolumeAttachment :=
  .single [⟨"old", "instance-a", .detaching⟩, ⟨"new", "instance-b", .attached⟩]

/-- The new attachment is not found. -/
theorem not_findsInUse_movedVolume : ¬FindsInUse movedVolume := by
  rintro ⟨result, hresult, hfinds, -⟩
  rw [returns_iff] at hresult
  obtain ⟨a, -, -, rfl⟩ := hfinds ⟨⟨"new", "instance-b", .attached⟩, by decide, by decide⟩
  cases hresult

end OciCcm.Csi.Attachments
