import OciCcm.Csi.LustreStaging

/-! # Does the set-up of lnet come to rest?

`SetupLnet` runs at every staging of a volume. It is to leave a net that is
already configured as it is, since deleting it disturbs the file systems that are
mounted over it. The entries of the net are compared with every address that the
interfaces have in the subnet, although an entry has only one of them.
-/

namespace OciCcm.Csi.Lustre

open Go Program List

/-! ## Interfaces and entries -/

structure HostInterface where
  name : String
  /-- The addresses, unless they cannot be read. -/
  addrs : Option (List String)
deriving DecidableEq, Repr

/-- The loop in `GetNetInterfacesInSubnet`, where `contains` says if an address is one of IPv4 in
the subnet. -/
def matchingInterfaces (contains : String → Bool) (interfaces : List HostInterface) :
    List NetInterface :=
  interfaces.flatMap fun intf =>
    ((intf.addrs.getD []).filter contains).map fun ip =>
      { interfaceIPv4 := ip, interfaceName := intf.name }

section Net

variable (interfaces : List NetInterface) (lnetLabel : String)

/-- The first address of an interface in the subnet. -/
def firstAddress (interfaceName : String) : String :=
  ((interfaces.find? (·.interfaceName = interfaceName)).map NetInterface.interfaceIPv4).getD ""

/-- The entry of an interface that is added. -/
def upEntry (interfaceName : String) : LocalNI :=
  ⟨firstAddress interfaces interfaceName ++ "@" ++ lnetLabel, "up", some interfaceName⟩

def withInterface (entries : List LocalNI) (interfaceName : String) : List LocalNI :=
  entries.filter (fun localNI => localNI.interface ≠ some interfaceName) ++
    [upEntry interfaces lnetLabel interfaceName]

/-- What a command that succeeds does to the entries of the net. -/
def netAfter (entries : List LocalNI) : Command → List LocalNI
  | .deleteLnetInterface _ => []
  | .configureLnetInterface _ interfaceName =>
    withInterface interfaces lnetLabel entries interfaceName
  | _ => entries

def serveNet (entries : List LocalNI) (call : Call) (reply : Reply) :
    List LocalNI × Answer call :=
  match call with
  | .command c =>
    (if reply.output.isOk then netAfter interfaces lnetLabel entries c else entries, reply.output)
  | .getNetInterfacesInSubnet _ => (entries, reply.interfaces.map fun _ => interfaces)
  | .isMountPoint _ => (entries, mountPointAnswer false reply.pathError)
  | .mkdirAll _ | .mount .. | .unmount _ => (entries, reply.result)

/-- What is shown of the net are its entries. -/
def Shows (d : LustreNodeDriver) (entries : List LocalNI) (call : Call) (reply : Reply) : Prop :=
  ∀ label output, call = .command (.showConfiguredLnet label) → reply.output = .ok output →
    ∃ netInfo, d.unmarshalNetInfo output = .ok netInfo ∧ netInfo.flatten = entries

/-- The calls that change the net. -/
def Call.Disturbs : Call → Prop
  | .command (.deleteLnetInterface _) | .command (.configureLnetInterface ..) => True
  | _ => False

end Net

/-- Once the set-up has succeeded it does not change the net any more, whatever the net was before
and however it is shown. -/
def Stable (interfaces : List NetInterface) (subnetCIDR lnetLabel : String) : Prop :=
  ∀ d entries entries' replies,
    Along (serveNet interfaces lnetLabel) (Shows d) (setupLnet d subnetCIDR lnetLabel) entries
      replies →
    exec (serveNet interfaces lnetLabel) (setupLnet d subnetCIDR lnetLabel) entries replies =
      (entries', .done (.ok ())) →
    ∀ replies',
      Along (serveNet interfaces lnetLabel) (Shows d) (setupLnet d subnetCIDR lnetLabel) entries'
        replies' →
      ∀ call ∈ calls (serveNet interfaces lnetLabel) (setupLnet d subnetCIDR lnetLabel) entries'
        replies', ¬call.Disturbs

/-- No interface has two addresses in the subnet. -/
abbrev OneAddress (interfaces : List NetInterface) : Prop :=
  ∀ iface ∈ interfaces, ∀ iface' ∈ interfaces, iface.interfaceName = iface'.interfaceName →
    iface.interfaceIPv4 = iface'.interfaceIPv4

/-! ## The steps of the set-up -/

section Steps

variable {d : LustreNodeDriver} {subnetCIDR lnetLabel : String} {interfaces : List NetInterface}
  {entries : List LocalNI} {netInfo : NetInfo} {c : Command}
  {post : Except String String → List LocalNI → Prop}

/-! ## What the steps ensure -/

variable {May : List LocalNI → Call → Reply → Prop}
  {Inv : List LocalNI → Call → List LocalNI → Prop}

/-- A call that does not change the net may fail. -/
def MayFail (May : List LocalNI → Call → Reply → Prop) (entries : List LocalNI) : Prop :=
  ∃ call reply, ¬call.Disturbs ∧ May entries call reply ∧
    ((∃ c, call = .command c ∧ reply.output.isOk = false) ∨
      (∃ cidr, call = .getNetInterfacesInSubnet cidr ∧ reply.interfaces.isOk = false))

theorem netAfter_of_not_disturbs (h : ¬(Call.command c).Disturbs) :
    netAfter interfaces lnetLabel entries c = entries := by
  cases c with
  | deleteLnetInterface | configureLnetInterface => exact absurd trivial h
  | _ => rfl

theorem ensures_executeCommandOnWorkerNode (hinv : ∀ entries', Inv entries (.command c) entries')
    (hok : ∀ reply output, May entries (.command c) reply → reply.output = .ok output →
      post (.ok output) (netAfter interfaces lnetLabel entries c))
    (herr : ∀ reply err output, May entries (.command c) reply → reply.output = .error output →
      post (.error err) entries) :
    Ensures (serveNet interfaces lnetLabel) May Inv post (executeCommandOnWorkerNode c)
      entries := by
  intro reply hmay
  refine ⟨hinv _, ?_⟩
  rcases reply with ⟨output | output, _, _, _⟩
  · exact herr _ _ output hmay rfl
  · exact hok _ output hmay rfl

theorem ensures_quiet (hc : ¬(Call.command c).Disturbs)
    (hinv : ∀ entries', Inv entries (.command c) entries')
    (hok : ∀ output, post (.ok output) entries)
    (herr : MayFail May entries → ∀ err, post (.error err) entries) :
    Ensures (serveNet interfaces lnetLabel) May Inv post (executeCommandOnWorkerNode c)
      entries := by
  refine ensures_executeCommandOnWorkerNode hinv ?_ ?_
  · intro reply output _ _
    rw [netAfter_of_not_disturbs hc]
    exact hok output
  · intro reply err output hmay houtput
    refine herr ⟨_, reply, hc, hmay, .inl ⟨c, rfl, ?_⟩⟩ err
    rw [houtput]
    rfl

theorem ensures_getLnetInfoByLnetLabel {post : Except String NetInfo → List LocalNI → Prop}
    (hmay : ∀ call reply, May entries call reply → Shows d entries call reply)
    (hinv : ∀ call entries', ¬call.Disturbs → Inv entries call entries')
    (hok : ∀ netInfo, netInfo.flatten = entries → post (.ok netInfo) entries)
    (herr : MayFail May entries → ∀ err, post (.error err) entries) :
    Ensures (serveNet interfaces lnetLabel) May Inv post (getLnetInfoByLnetLabel d lnetLabel)
      entries := by
  have hquiet : ¬(Call.command (.showConfiguredLnet lnetLabel)).Disturbs := id
  refine Ensures.bind (Ensures.mapError (ensures_executeCommandOnWorkerNode
    (fun _ => hinv _ _ hquiet) ?_ ?_))
  · intro reply output hreply houtput
    obtain ⟨netInfo, hparse, hflatten⟩ := hmay _ reply hreply _ output rfl houtput
    change post ((d.unmarshalNetInfo output).mapError _) entries
    rw [hparse]
    exact hok netInfo hflatten
  · intro reply err output hreply houtput
    refine herr ⟨_, reply, hquiet, hreply, .inl ⟨_, rfl, ?_⟩⟩ _
    rw [houtput]
    rfl

theorem ensures_prepareLnet
    {post : Except String (List NetInterface × NetInfo) → List LocalNI → Prop}
    (hmay : ∀ call reply, May entries call reply → Shows d entries call reply)
    (hinv : ∀ call entries', ¬call.Disturbs → Inv entries call entries')
    (hok : ∀ netInfo, netInfo.flatten = entries → post (.ok (interfaces, netInfo)) entries)
    (herr : interfaces = [] ∨ MayFail May entries → ∀ err, post (.error err) entries) :
    Ensures (serveNet interfaces lnetLabel) May Inv post (prepareLnet d subnetCIDR lnetLabel)
      entries := by
  have hfail (h : MayFail May entries) (err : String) : post (.error err) entries :=
    herr (.inr h) err
  refine Ensures.bind fun reply hreply => ⟨hinv _ _ id, ?_⟩
  rcases reply with ⟨_, err | _, _, _⟩
  · exact hfail ⟨_, _, id, hreply, .inr ⟨_, rfl, rfl⟩⟩ err
  change Ensures _ _ _ _ (if interfaces = [] then _ else _) entries
  split
  · next hnil => exact herr (.inl hnil) _
  -- Whether the packages are installed only changes texts of errors.
  have hinstalled : Ensures (serveNet interfaces lnetLabel) May Inv
      (fun _ entries' => entries' = entries) (executeCommandOnWorkerNode .lfsVersion) entries :=
    ensures_quiet id (fun _ => hinv _ _ id) (fun _ => rfl) fun _ _ => rfl
  refine Ensures.bind (p := isLustreClientPackagesInstalled) (Ensures.bind (Ensures.attempt
    (hinstalled.mono (fun _ _ _ h => h) ?_)))
  rintro installed _ rfl
  refine Ensures.bind (Ensures.mapError (ensures_quiet id (fun _ => hinv _ _ id) ?_
    fun h err => hfail h _))
  intro _
  refine Ensures.bind (Ensures.mapError (ensures_quiet id (fun _ => hinv _ _ id) ?_
    fun h err => hfail h _))
  intro _
  exact Ensures.bind (ensures_getLnetInfoByLnetLabel hmay hinv hok hfail)

/-- The set-up ensures what configuring the net ensures, if showing it again does no harm. -/
theorem ensures_setupLnet {post : Except String Unit → List LocalNI → Prop}
    (hmay : ∀ entries call reply, May entries call reply → Shows d entries call reply)
    (hinv : ∀ entries call entries', ¬call.Disturbs → Inv entries call entries')
    (herr : interfaces = [] ∨ MayFail May entries → ∀ err, post (.error err) entries)
    (hshow : ∀ entries', post (.ok ()) entries' → MayFail May entries' →
      ∀ err, post (.error err) entries')
    (h : ∀ netInfo, netInfo.flatten = entries →
      Ensures (serveNet interfaces lnetLabel) May Inv post
        (configureLnet interfaces lnetLabel netInfo) entries) :
    Ensures (serveNet interfaces lnetLabel) May Inv post (setupLnet d subnetCIDR lnetLabel)
      entries := by
  refine Ensures.bind (ensures_prepareLnet (hmay entries) (hinv entries) ?_ herr)
  intro netInfo hnetInfo
  refine Ensures.bind ((h netInfo hnetInfo).mono (fun _ _ _ h => h) ?_)
  rintro (err | ⟨⟩) entries' hpost
  · exact hpost
  · exact Ensures.bind (ensures_getLnetInfoByLnetLabel (hmay entries') (hinv entries')
      (fun _ _ => hpost) (hshow entries' hpost))

/-- Is the interface to be added, with the entries that were shown? -/
def NeedsAdding (interfaces : List NetInterface) (lnetLabel : String) (netInfo : NetInfo)
    (iface : NetInterface) : Prop :=
  (noted lnetLabel netInfo iface).lnetConfigured = false ∨
    staleLnetInterfaces interfaces lnetLabel netInfo ≠ []

/-- The loop over the interfaces: `J` holds of those that it has gone through. -/
theorem ensures_addInterfaces {J : List NetInterface → List LocalNI → Prop}
    {post : Except String Unit → List LocalNI → Prop} (h₀ : J [] entries)
    (hskip : ∀ before iface after entries, interfaces = before ++ iface :: after →
      J before entries → ¬NeedsAdding interfaces lnetLabel netInfo iface →
        J (before ++ [iface]) entries)
    (hadd : ∀ before iface after entries, interfaces = before ++ iface :: after →
      J before entries → NeedsAdding interfaces lnetLabel netInfo iface →
        (∀ entries', Inv entries (.command (.configureLnetInterface lnetLabel iface.interfaceName))
          entries') ∧
        J (before ++ [iface]) (withInterface interfaces lnetLabel entries iface.interfaceName))
    (herr : ∀ entries interfaceName reply,
      May entries (.command (.configureLnetInterface lnetLabel interfaceName)) reply →
        reply.output.isOk = false → ∀ err, post (.error err) entries)
    (hpost : ∀ entries, J interfaces entries → post (.ok ()) entries) :
    Ensures (serveNet interfaces lnetLabel) May Inv post
      (addInterfaces (interfaces.map (noted lnetLabel netInfo)) lnetLabel
        (staleLnetInterfaces interfaces lnetLabel netInfo)) entries := by
  refine Ensures.forM (J := fun visited entries' =>
    ∃ before, visited = before.map (noted lnetLabel netInfo) ∧ before <+: interfaces ∧
      J before entries') ⟨[], rfl, nil_prefix, h₀⟩ ?_ ?_
  · rintro _ x rest entries' hmap ⟨before, rfl, ⟨after, hafter⟩, hJ⟩
    rw [← hafter, map_append] at hmap
    obtain ⟨iface, after', rfl, rfl, -⟩ := map_eq_cons_iff.mp (append_cancel_left hmap)
    have hnext : before ++ [iface] <+: interfaces :=
      ⟨after', by rw [← hafter, append_assoc, singleton_append]⟩
    by_cases hneeds : NeedsAdding interfaces lnetLabel netInfo iface
    · obtain ⟨hinv, hadded⟩ := hadd before iface after' entries' hafter.symm hJ hneeds
      rw [if_pos (by simpa [NeedsAdding] using hneeds)]
      refine Ensures.bind (Ensures.mapError (ensures_executeCommandOnWorkerNode hinv ?_ ?_))
      · intro _ _ _ _
        exact ⟨before ++ [iface], by rw [map_append]; rfl, hnext, hadded⟩
      · intro reply err output hmay houtput
        exact herr entries' _ reply hmay (by rw [houtput]; rfl) _
    · rw [if_neg (by simpa [NeedsAdding] using hneeds)]
      exact ⟨before ++ [iface], by rw [map_append]; rfl, hnext,
        hskip before iface after' entries' hafter.symm hJ hneeds⟩
  · rintro entries' ⟨before, hmap, hprefix, hJ⟩
    have hlength : interfaces.length = before.length := by simpa using congrArg List.length hmap
    obtain rfl := hprefix.eq_of_length hlength.symm
    exact hpost entries' hJ

end Steps

/-! ## Nets that are at rest -/

section Settled

variable {d : LustreNodeDriver} {subnetCIDR lnetLabel : String} {interfaces : List NetInterface}
  {entries : List LocalNI} {netInfo : NetInfo} {iface : NetInterface} {interfaceName : String}
  {before : List NetInterface}

/-- No entry is stale, and every interface is configured. -/
structure Settled (interfaces : List NetInterface) (lnetLabel : String) (entries : List LocalNI) :
    Prop where
  fresh : ∀ iface ∈ interfaces, ∀ localNI ∈ entries, staleIn lnetLabel iface localNI = none
  configured : ∀ iface ∈ interfaces, ∃ localNI ∈ entries, configuredBy lnetLabel iface localNI

theorem firstAddress_eq (hone : OneAddress interfaces) (h : iface ∈ interfaces) :
    firstAddress interfaces iface.interfaceName = iface.interfaceIPv4 := by
  unfold firstAddress
  cases hfind : interfaces.find? (·.interfaceName = iface.interfaceName) with
  | none =>
    exact absurd (decide_eq_true rfl) (List.find?_eq_none.mp hfind iface h)
  | some iface' =>
    have hname : iface'.interfaceName = iface.interfaceName := by
      simpa using List.find?_some hfind
    exact hone iface' (mem_of_find?_eq_some hfind) iface h hname

theorem configuredBy_upEntry (hone : OneAddress interfaces) (h : iface ∈ interfaces) :
    configuredBy lnetLabel iface (upEntry interfaces lnetLabel iface.interfaceName) := by
  simp [configuredBy, upEntry, firstAddress_eq hone h]

theorem staleIn_upEntry (hone : OneAddress interfaces) (h : iface ∈ interfaces)
    (interfaceName : String) :
    staleIn lnetLabel iface (upEntry interfaces lnetLabel interfaceName) = none := by
  unfold staleIn upEntry
  by_cases hname : interfaceName = iface.interfaceName
  · simp [hname, firstAddress_eq hone h]
  · simp [hname]

theorem fresh_withInterface (hone : OneAddress interfaces) (hiface : iface ∈ interfaces)
    (h : ∀ localNI ∈ entries, staleIn lnetLabel iface localNI = none) :
    ∀ localNI ∈ withInterface interfaces lnetLabel entries interfaceName,
      staleIn lnetLabel iface localNI = none := by
  intro localNI hmem
  rcases mem_append.mp hmem with hmem | hmem
  · exact h localNI (mem_filter.mp hmem).1
  · rw [mem_singleton.mp hmem]
    exact staleIn_upEntry hone hiface interfaceName

theorem configured_withInterface (hone : OneAddress interfaces) (hiface : iface ∈ interfaces)
    (h : iface.interfaceName = interfaceName ∨
      ∃ localNI ∈ entries, configuredBy lnetLabel iface localNI) :
    ∃ localNI ∈ withInterface interfaces lnetLabel entries interfaceName,
      configuredBy lnetLabel iface localNI := by
  by_cases hname : iface.interfaceName = interfaceName
  · subst hname
    exact ⟨_, mem_append_right _ (mem_singleton_self _), configuredBy_upEntry hone hiface⟩
  · obtain ⟨localNI, hmem, hconfigured⟩ := h.resolve_left hname
    refine ⟨localNI, mem_append_left _ (mem_filter.mpr ⟨hmem, ?_⟩), hconfigured⟩
    have hinterface : localNI.interface = some iface.interfaceName := by
      simp only [configuredBy, Bool.and_eq_true, decide_eq_true_eq] at hconfigured
      exact hconfigured.1.1
    simpa [hinterface] using hname

theorem noted_lnetConfigured (hfresh : iface.lnetConfigured = false) :
    (noted lnetLabel netInfo iface).lnetConfigured = true ↔
      ∃ localNI ∈ netInfo.flatten, configuredBy lnetLabel iface localNI := by
  rw [noted, hfresh, Bool.false_or, any_eq_true]

theorem staleLnetInterfaces_eq_nil :
    staleLnetInterfaces interfaces lnetLabel netInfo = [] ↔
      ∀ iface ∈ interfaces, ∀ localNI ∈ netInfo.flatten,
        staleIn lnetLabel iface localNI = none := by
  unfold staleLnetInterfaces
  rw [flatMap_eq_nil_iff]
  exact forall₂_congr fun iface _ => filterMap_eq_nil_iff

/-- What the loop keeps: no entry is stale, and the interfaces that it has gone through or will
leave out are configured. -/
structure Settling (interfaces : List NetInterface) (lnetLabel : String) (netInfo : NetInfo)
    (before : List NetInterface) (entries : List LocalNI) : Prop where
  fresh : ∀ iface ∈ interfaces, ∀ localNI ∈ entries, staleIn lnetLabel iface localNI = none
  configured : ∀ iface ∈ interfaces,
    iface ∈ before ∨ ¬NeedsAdding interfaces lnetLabel netInfo iface →
      ∃ localNI ∈ entries, configuredBy lnetLabel iface localNI

theorem Settling.skip (h : Settling interfaces lnetLabel netInfo before entries)
    (hneeds : ¬NeedsAdding interfaces lnetLabel netInfo iface) :
    Settling interfaces lnetLabel netInfo (before ++ [iface]) entries := by
  refine ⟨h.fresh, fun iface' hiface' hor => h.configured iface' hiface' ?_⟩
  rcases hor with hmem | hnot
  · rcases mem_append.mp hmem with hmem | hmem
    · exact .inl hmem
    · rw [mem_singleton.mp hmem]
      exact .inr hneeds
  · exact .inr hnot

theorem Settling.add (hone : OneAddress interfaces)
    (h : Settling interfaces lnetLabel netInfo before entries) :
    Settling interfaces lnetLabel netInfo (before ++ [iface])
      (withInterface interfaces lnetLabel entries iface.interfaceName) := by
  refine ⟨fun iface' hiface' => fresh_withInterface hone hiface' (h.fresh iface' hiface'), ?_⟩
  intro iface' hiface' hor
  refine configured_withInterface hone hiface' ?_
  rcases hor with hmem | hnot
  · rcases mem_append.mp hmem with hmem | hmem
    · exact .inr (h.configured iface' hiface' (.inl hmem))
    · rw [mem_singleton.mp hmem]
      exact .inl rfl
  · exact .inr (h.configured iface' hiface' (.inr hnot))

theorem Settling.settled (h : Settling interfaces lnetLabel netInfo interfaces entries) :
    Settled interfaces lnetLabel entries :=
  ⟨h.fresh, fun iface hiface => h.configured iface hiface (.inl hiface)⟩

theorem ensures_settling (hone : OneAddress interfaces)
    (h : Settling interfaces lnetLabel netInfo [] entries) :
    Ensures (serveNet interfaces lnetLabel) (Shows d) (fun _ _ _ => True)
      (fun r entries' => r = .ok () → Settled interfaces lnetLabel entries')
      (addInterfaces (interfaces.map (noted lnetLabel netInfo)) lnetLabel
        (staleLnetInterfaces interfaces lnetLabel netInfo)) entries := by
  refine ensures_addInterfaces (J := Settling interfaces lnetLabel netInfo) h ?_ ?_ ?_ ?_
  · intro before iface after entries' _ hJ hneeds
    exact hJ.skip hneeds
  · intro before iface after entries' _ hJ _
    exact ⟨fun _ => trivial, hJ.add hone⟩
  · intro _ _ _ _ _ err herr
    cases herr
  · intro entries' hJ _
    exact hJ.settled

/-- After a set-up that succeeds the net is at rest. -/
theorem ensures_settled (hone : OneAddress interfaces)
    (hfresh : ∀ iface ∈ interfaces, iface.lnetConfigured = false) :
    Ensures (serveNet interfaces lnetLabel) (Shows d) (fun _ _ _ => True)
      (fun r entries' => r = .ok () → Settled interfaces lnetLabel entries')
      (setupLnet d subnetCIDR lnetLabel) entries := by
  refine ensures_setupLnet (fun _ _ _ h => h) (fun _ _ _ _ => trivial) (fun _ _ h => by cases h)
    (fun _ _ _ _ h => by cases h) ?_
  rintro netInfo rfl
  unfold configureLnet
  dsimp only
  by_cases hstale : staleLnetInterfaces interfaces lnetLabel netInfo = []
  · rw [if_neg (not_not_intro hstale)]
    refine ensures_settling hone ⟨staleLnetInterfaces_eq_nil.mp hstale, ?_⟩
    rintro iface hiface (hmem | hneeds)
    · cases hmem
    · refine (noted_lnetConfigured (hfresh iface hiface)).mp ?_
      rw [NeedsAdding, not_or] at hneeds
      simpa using hneeds.1
  · -- After the deletion every interface is added again.
    rw [if_pos hstale]
    refine Ensures.bind (Ensures.mapError (ensures_executeCommandOnWorkerNode (fun _ => trivial)
      ?_ ?_))
    · intro _ _ _ _
      refine ensures_settling hone ⟨fun _ _ _ hmem => (by cases hmem), ?_⟩
      rintro iface - (hmem | hneeds)
      · cases hmem
      · exact absurd (.inr hstale) hneeds
    · intro _ _ _ _ _ herr
      cases herr

/-- A net at rest is left as it is. -/
theorem ensures_quiet_of_settled (hfresh : ∀ iface ∈ interfaces, iface.lnetConfigured = false)
    (h : Settled interfaces lnetLabel entries) :
    Ensures (serveNet interfaces lnetLabel) (Shows d) (fun _ call _ => ¬call.Disturbs)
      (fun _ _ => True) (setupLnet d subnetCIDR lnetLabel) entries := by
  refine ensures_setupLnet (fun _ _ _ h => h) (fun _ _ _ h => h) (fun _ _ => trivial)
    (fun _ _ _ _ => trivial) ?_
  rintro netInfo rfl
  have hstale : staleLnetInterfaces interfaces lnetLabel netInfo = [] :=
    staleLnetInterfaces_eq_nil.mpr h.fresh
  have hneeds : ∀ iface ∈ interfaces, ¬NeedsAdding interfaces lnetLabel netInfo iface := by
    rintro iface hiface (hnot | hne)
    · rw [(noted_lnetConfigured (hfresh iface hiface)).mpr (h.configured iface hiface)] at hnot
      cases hnot
    · exact hne hstale
  rw [configureLnet, if_neg (not_not_intro hstale)]
  refine ensures_addInterfaces (J := fun _ _ => True) trivial (fun _ _ _ _ _ _ _ => trivial) ?_
    (fun _ _ _ _ _ _ => trivial) fun _ _ => trivial
  intro before iface after _ hsplit _ hneeded
  exact absurd hneeded (hneeds iface (by simp [hsplit]))

/-! ## Nets that never come to rest -/

/-- Some output of `lnetctl` is read as these entries. -/
def Representable (d : LustreNodeDriver) (entries : List LocalNI) : Prop :=
  ∃ output netInfo, d.unmarshalNetInfo output = .ok netInfo ∧ netInfo.flatten = entries

/-- Nothing fails that need not. -/
def Smooth (d : LustreNodeDriver) (entries : List LocalNI) (call : Call) (reply : Reply) : Prop :=
  Shows d entries call reply ∧ reply.interfaces.isOk ∧
    match call with
    | .command (.showConfiguredLnet _) => Representable d entries → reply.output.isOk
    | _ => reply.output.isOk

theorem exists_smooth (entries : List LocalNI) (call : Call) :
    ∃ reply, Smooth d entries call reply := by
  by_cases hshow : ∃ label, call = .command (.showConfiguredLnet label)
  · obtain ⟨label, rfl⟩ := hshow
    by_cases hentries : Representable d entries
    · obtain ⟨output, netInfo, hparse, hflatten⟩ := hentries
      refine ⟨{ output := .ok output }, ?_, rfl, fun _ => rfl⟩
      rintro _ _ - houtput
      cases houtput
      exact ⟨netInfo, hparse, hflatten⟩
    · refine ⟨{ output := .error "" }, ?_, rfl, fun h => absurd h hentries⟩
      rintro _ _ - houtput
      cases houtput
  · refine ⟨{}, fun label _ hcall _ => absurd ⟨label, hcall⟩ hshow, rfl, ?_⟩
    split
    · next _ label => exact absurd ⟨label, rfl⟩ hshow
    · rfl

theorem not_mayFail (h : Representable d entries) : ¬MayFail (Smooth d) entries := by
  rintro ⟨call, reply, -, ⟨-, hinterfaces, houtput⟩, ⟨c, rfl, hfails⟩ | ⟨_, rfl, hfails⟩⟩
  · have hok : reply.output.isOk := by
      cases c with
      | showConfiguredLnet => exact houtput h
      | _ => exact houtput
    rw [hfails] at hok
    cases hok
  · rw [hfails] at hinterfaces
    cases hinterfaces

/-- The entries after all interfaces were added to an empty net. -/
def allAdded (interfaces : List NetInterface) (lnetLabel : String) : List LocalNI :=
  interfaces.foldl (fun entries iface => withInterface interfaces lnetLabel entries
    iface.interfaceName) []

theorem mem_foldl_withInterface (added : List NetInterface)
    (h : upEntry interfaces lnetLabel interfaceName ∈ entries ∨
      ∃ iface ∈ added, iface.interfaceName = interfaceName) :
    upEntry interfaces lnetLabel interfaceName ∈
      added.foldl (fun entries iface => withInterface interfaces lnetLabel entries
        iface.interfaceName) entries := by
  induction added generalizing entries with
  | nil => simpa using h
  | cons iface added ih =>
    refine ih ?_
    by_cases hname : iface.interfaceName = interfaceName
    · subst hname
      exact .inl (mem_append_right _ (mem_singleton_self _))
    · rcases h with hmem | ⟨iface', hmem, hname'⟩
      · refine .inl (mem_append_left _ (mem_filter.mpr ⟨hmem, ?_⟩))
        simpa [upEntry] using Ne.symm hname
      · rcases mem_cons.mp hmem with rfl | hmem
        · exact absurd hname' hname
        · exact .inr ⟨iface', hmem, hname'⟩

theorem exists_stale_allAdded (h : ¬OneAddress interfaces) :
    ∃ iface ∈ interfaces, ∃ localNI ∈ allAdded interfaces lnetLabel,
      staleIn lnetLabel iface localNI ≠ none := by
  have hstale {iface : NetInterface} (hiface : iface ∈ interfaces)
      (hne : firstAddress interfaces iface.interfaceName ≠ iface.interfaceIPv4) :
      ∃ iface ∈ interfaces, ∃ localNI ∈ allAdded interfaces lnetLabel,
        staleIn lnetLabel iface localNI ≠ none := by
    refine ⟨iface, hiface, _, mem_foldl_withInterface interfaces (.inr ⟨iface, hiface, rfl⟩), ?_⟩
    simp [staleIn, upEntry, hne, Option.filter]
  simp only [OneAddress, not_forall] at h
  obtain ⟨iface, hiface, iface', hiface', hname, hne⟩ := h
  by_cases hfirst : firstAddress interfaces iface.interfaceName = iface.interfaceIPv4
  · refine hstale hiface' ?_
    rw [← hname, hfirst]
    exact hne
  · exact hstale hiface hfirst

/-- From an empty net the set-up can succeed. -/
theorem ensures_allAdded (hne : interfaces ≠ [])
    (hfresh : ∀ iface ∈ interfaces, iface.lnetConfigured = false) (hnil : Representable d [])
    (hall : Representable d (allAdded interfaces lnetLabel)) :
    Ensures (serveNet interfaces lnetLabel) (Smooth d) (fun _ _ _ => True)
      (fun r entries' => r = .ok () ∧ entries' = allAdded interfaces lnetLabel)
      (setupLnet d subnetCIDR lnetLabel) [] := by
  refine ensures_setupLnet (fun _ _ _ h => h.1) (fun _ _ _ _ => trivial) ?_ ?_ ?_
  · rintro (h | h)
    · exact absurd h hne
    · exact absurd h (not_mayFail hnil)
  · rintro _ ⟨-, rfl⟩ h
    exact absurd h (not_mayFail hall)
  · intro netInfo hnetInfo
    have hstale : staleLnetInterfaces interfaces lnetLabel netInfo = [] := by
      rw [staleLnetInterfaces_eq_nil, hnetInfo]
      intro _ _ _ hmem
      cases hmem
    rw [configureLnet, if_neg (not_not_intro hstale)]
    refine ensures_addInterfaces (J := fun before entries => entries = before.foldl (fun entries
      iface => withInterface interfaces lnetLabel entries iface.interfaceName) []) rfl ?_ ?_ ?_ ?_
    · intro before iface after _ hsplit _ hneeds
      refine absurd (.inl ?_) hneeds
      rw [noted, hfresh iface (by simp [hsplit]), hnetInfo]
      rfl
    · rintro before iface after _ - rfl -
      rw [foldl_append]
      exact ⟨fun _ => trivial, rfl⟩
    · rintro _ _ reply ⟨-, -, hok⟩ hfails
      rw [hfails] at hok
      cases hok
    · rintro _ rfl
      exact ⟨rfl, rfl⟩

/-- A second run then deletes the net. -/
theorem reaches_disturbs (h : ¬OneAddress interfaces) (hne : interfaces ≠ [])
    (hall : Representable d (allAdded interfaces lnetLabel)) :
    Reaches (serveNet interfaces lnetLabel) (Smooth d) Call.Disturbs
      (setupLnet d subnetCIDR lnetLabel) (allAdded interfaces lnetLabel) := by
  refine Reaches.bind exists_smooth (ensures_prepareLnet (fun _ _ h => h.1) (fun _ _ _ => trivial)
    ?_ ?_)
  · intro netInfo hnetInfo
    refine ⟨_, rfl, ?_⟩
    have hstale : staleLnetInterfaces interfaces lnetLabel netInfo ≠ [] := by
      rw [ne_eq, staleLnetInterfaces_eq_nil, hnetInfo]
      obtain ⟨iface, hiface, localNI, hmem, hstale⟩ := exists_stale_allAdded h
      exact fun hnone => hstale (hnone iface hiface localNI hmem)
    dsimp only
    rw [configureLnet, if_pos hstale]
    obtain ⟨reply, hreply⟩ := exists_smooth (d := d) (allAdded interfaces lnetLabel)
      (.command (.deleteLnetInterface lnetLabel))
    exact Reaches.call hreply trivial
  · rintro (h | h)
    · exact absurd h hne
    · exact absurd h (not_mayFail hall)

/-- The set-up is stable if and only if no interface has two addresses in the subnet. -/
theorem stable_iff_of_fresh (hfresh : ∀ iface ∈ interfaces, iface.lnetConfigured = false) :
    Stable interfaces subnetCIDR lnetLabel ↔ OneAddress interfaces := by
  constructor
  · intro hstable
    by_contra hone
    have hne : interfaces ≠ [] := by
      rintro rfl
      exact hone fun _ hmem => by cases hmem
    let d : LustreNodeDriver := { driverWith ∅ with
      unmarshalNetInfo := fun output =>
        .ok (if output = "" then [] else [allAdded interfaces lnetLabel]) }
    have hnil : Representable d [] := ⟨"", [], rfl, rfl⟩
    have hall : Representable d (allAdded interfaces lnetLabel) :=
      ⟨"net", [allAdded interfaces lnetLabel], rfl, by simp⟩
    have hrun : ∃ replies entries' r, Along (serveNet interfaces lnetLabel) (Smooth d)
        (setupLnet d subnetCIDR lnetLabel) [] replies ∧ exec (serveNet interfaces lnetLabel)
          (setupLnet d subnetCIDR lnetLabel) [] replies = (entries', .done r) :=
      exists_exec_done exists_smooth _ []
    have hreaches : Reaches (serveNet interfaces lnetLabel) (Smooth d) Call.Disturbs
        (setupLnet d subnetCIDR lnetLabel) (allAdded interfaces lnetLabel) :=
      reaches_disturbs hone hne hall
    obtain ⟨replies, entries', r, halong, hexec⟩ := hrun
    obtain ⟨rfl, rfl⟩ := (ensures_allAdded hne hfresh hnil hall).of_exec halong hexec
    obtain ⟨replies', halong', call, hcall, hdisturbs⟩ := hreaches
    exact hstable d [] _ replies (halong.mono fun _ _ _ h => h.1) hexec replies'
      (halong'.mono fun _ _ _ h => h.1) call hcall hdisturbs
  · intro hone d entries entries' replies halong hexec replies' halong' call hcall
    have hsettled := (ensures_settled hone hfresh).of_exec halong hexec rfl
    exact (ensures_quiet_of_settled hfresh hsettled).of_mem_calls halong' hcall

end Settled

theorem lnetConfigured_of_mem_matchingInterfaces {contains : String → Bool}
    {host : List HostInterface} {iface : NetInterface}
    (h : iface ∈ matchingInterfaces contains host) : iface.lnetConfigured = false := by
  obtain ⟨intf, -, hmem⟩ := mem_flatMap.mp h
  obtain ⟨ip, -, rfl⟩ := mem_map.mp hmem
  rfl

/-- The set-up for the interfaces of a node is stable if and only if none of them has two addresses
in the subnet. -/
theorem stable_matchingInterfaces_iff (contains : String → Bool) (host : List HostInterface)
    (subnetCIDR lnetLabel : String) :
    Stable (matchingInterfaces contains host) subnetCIDR lnetLabel ↔
      OneAddress (matchingInterfaces contains host) :=
  stable_iff_of_fresh fun _ => lnetConfigured_of_mem_matchingInterfaces

/-- An interface with a second address. -/
def twoAddresses : List NetInterface :=
  matchingInterfaces (hasPrefix · "10.0.1.") [⟨"lo", some ["127.0.0.1"]⟩,
    ⟨"ens5", some ["10.0.1.5", "10.0.1.6"]⟩]

/-- Its entry has the first address, and is stale for the second one. -/
theorem not_stable_twoAddresses : ¬Stable twoAddresses "10.0.1.0/24" "tcp1" := by
  have hone : ¬OneAddress twoAddresses := by decide
  exact fun hstable =>
    hone ((stable_iff_of_fresh fun _ => lnetConfigured_of_mem_matchingInterfaces).mp hstable)

end OciCcm.Csi.Lustre
