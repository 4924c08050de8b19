import OciCcm.Csi.LustreNode
import OciCcm.Go.Shell

/-! # What users can put into a command line

The label of the net comes with the handle of a volume, and the names and values
of parameters with its context. They are checked against a list of characters
that misses tabs, newlines, backslashes and the characters of patterns.
-/

namespace OciCcm.Csi.Lustre

open Go List
open Program (Makes)

/-! ## Command lines that keep their words -/

namespace Command

/-- What comes from the user. -/
def inputs : Command → List String
  | showConfiguredLnet lnetLabel | deleteLnetInterface lnetLabel
  | configureLnetInterface lnetLabel _ => [lnetLabel]
  | lctlSetParam key value => [key, value]
  | loadLnetKernelModule | configureLnetKernelService | lfsVersion => []

/-- A place for the last word of a command line. -/
def lastSlot (before : String) (h : before.toList.getLast? = some ' ') : Shell.Slot where
  before := before
  after := ""
  blank_before := (List.getLast?_eq_some_iff.mp h).imp fun _ hl => ⟨' ', by decide, hl⟩
  blank_after := .inl rfl

/-- The place for the label where an interface is added. -/
def interfaceSlot (interfaceName : String) : Shell.Slot where
  before := "lnetctl net add --net "
  after := " --if " ++ interfaceName ++ " --peer-timeout 180 --peer-credits 120 --credits 1024"
  blank_before := ⟨"lnetctl net add --net".toList, ' ', by decide, by decide⟩
  blank_after := .inr ⟨' ', by decide, _, by rw [String.toList_append, String.toList_append]; rfl⟩

/-- The word of the command line that is made of the inputs, and its place. -/
def slot : Command → Option (Shell.Slot × String)
  | showConfiguredLnet lnetLabel => some (lastSlot "lnetctl net show --net " (by decide), lnetLabel)
  | deleteLnetInterface lnetLabel => some (lastSlot "lnetctl net del --net " (by decide), lnetLabel)
  | configureLnetInterface lnetLabel interfaceName => some (interfaceSlot interfaceName, lnetLabel)
  | lctlSetParam key value => some (lastSlot "lctl set_param " (by decide), key ++ "=" ++ value)
  | loadLnetKernelModule | configureLnetKernelService | lfsVersion => none

/-- The inputs are plain, and the word made of them is one word of the command line, with all
other words as they are without it. -/
structure Intact (c : Command) : Prop where
  plain : ∀ input ∈ c.inputs, Shell.Plain input
  words : ∀ slot word, c.slot = some (slot, word) → ∀ glob,
    Shell.words glob c.text = Shell.words glob slot.before ++ word :: Shell.words glob slot.after

variable {c : Command} {slot : Shell.Slot} {word : String}

theorem text_eq_line (h : c.slot = some (slot, word)) : c.text = slot.line word := by
  cases c with
  | showConfiguredLnet | deleteLnetInterface =>
    cases h
    exact (String.append_empty).symm
  | configureLnetInterface _ interfaceName =>
    cases h
    show "lnetctl net add --net " ++ word ++ " --if " ++ interfaceName ++ _ =
      "lnetctl net add --net " ++ word ++ (" --if " ++ interfaceName ++ _)
    simp only [String.append_assoc]
  | lctlSetParam key value =>
    cases h
    show "lctl set_param " ++ key ++ "=" ++ value = "lctl set_param " ++ (key ++ "=" ++ value) ++ ""
    simp only [String.append_assoc, String.append_empty]
  | loadLnetKernelModule | configureLnetKernelService | lfsVersion => cases h

theorem plain_of_slot (h : c.slot = some (slot, word)) (hplain : ∀ input ∈ c.inputs, Shell.Plain input) :
    Shell.Plain word := by
  cases c with
  | showConfiguredLnet | deleteLnetInterface | configureLnetInterface =>
    cases h
    exact hplain _ mem_cons_self
  | lctlSetParam key value =>
    cases h
    have hkey := hplain key mem_cons_self
    have hvalue := hplain value (mem_cons_of_mem _ mem_cons_self)
    have hequals : Shell.Plain "=" := by decide
    rw [Shell.Plain, String.toList_append, String.toList_append]
    exact forall_mem_append.mpr ⟨forall_mem_append.mpr ⟨hkey, hequals⟩, hvalue⟩
  | loadLnetKernelModule | configureLnetKernelService | lfsVersion => cases h

theorem intact_iff_of_slot (h : c.slot = some (slot, word)) :
    c.Intact ↔ (∀ input ∈ c.inputs, Shell.Plain input) ∧ word ≠ "" := by
  have hwords : (∀ glob, Shell.words glob c.text =
      Shell.words glob slot.before ++ word :: Shell.words glob slot.after) ↔ slot.Keeps word := by
    rw [text_eq_line h, Shell.Slot.Keeps]
  constructor
  · intro hintact
    exact ⟨hintact.plain, ((slot.keeps_iff).mp (hwords.mp (hintact.words slot word h))).1⟩
  · rintro ⟨hplain, hne⟩
    refine ⟨hplain, fun slot' word' h' => ?_⟩
    obtain ⟨rfl, rfl⟩ := Prod.mk.inj (Option.some.inj (h.symm.trans h'))
    refine hwords.mpr (slot.keeps_iff.mpr ⟨hne, fun c hc => ?_⟩)
    exact Shell.notMem_of_notMem_metacharacters (plain_of_slot h hplain c hc)

end Command

/-! ## The characters that are missed -/

def missedChars : List Char := ['\t', '\n', '\\', '*', '?', '[']

/-- The text has none of the characters that the check misses. -/
def NoneMissed (text : String) : Prop := ∀ c ∈ text.toList, c ∉ missedChars

instance : DecidablePred NoneMissed := fun text =>
  List.decidableBAll (· ∉ missedChars) text.toList

theorem mem_metacharacters_iff {c : Char} (h : c ∉ refusedChars) :
    c ∈ Shell.metacharacters ↔ c ∈ missedChars := by
  have hsub : ∀ c ∈ Shell.metacharacters, c ∈ refusedChars ∨ c ∈ missedChars :=
    all_iff_forall_prop.mp (by decide)
  have hsub' : ∀ c ∈ missedChars, c ∈ Shell.metacharacters :=
    all_iff_forall_prop.mp (by decide)
  exact ⟨fun hc => (hsub c hc).resolve_left h, hsub' c⟩

theorem plain_iff {text : String} (h : isValidShellInput text) :
    Shell.Plain text ↔ NoneMissed text := by
  refine forall₂_congr fun c hc => not_congr ?_
  exact mem_metacharacters_iff (isValidShellInput_iff.mp h c hc)

/-! ## What is accepted -/

theorem isValidShellInput_of_validateNids {lnetLabel label : String} {nids : List String}
    (h : validateNids lnetLabel nids = (true, label)) (hlabel : isValidShellInput lnetLabel) :
    isValidShellInput label := by
  induction nids generalizing lnetLabel with
  | nil =>
    cases h
    exact hlabel
  | cons nid nids ih =>
    rw [validateNids] at h
    split at h
    · split at h
      · cases h
      split at h
      · cases h
      · next hvalid => exact ih h (by simpa using hvalid)
    · cases h

theorem isValidShellInput_of_validateLustreVolumeId {volumeId label : String}
    (h : validateLustreVolumeId volumeId = (true, label)) : isValidShellInput label := by
  rw [validateLustreVolumeId] at h
  split at h
  · cases h
  generalize hnids : validateNids "" _ = result at h
  obtain ⟨valid, lnetLabel⟩ := result
  dsimp only at h
  split at h
  · cases h
  next hvalid =>
    split at h
    · cases h
    · cases h
      rw [Bool.not_eq_true, Bool.not_eq_false'] at hvalid
      subst hvalid
      exact isValidShellInput_of_validateNids hnids (by decide)

variable {o : RangeOrder.{0}} {params : List Parameter} {lnetLabel : String} {c : Command}

theorem mem_visited {key : String} {value : Json} :
    (key, value) ∈ visited o params ↔ ∃ param ∈ params, param.lookup key = some value := by
  rw [visited, mem_flatten]
  constructor
  · rintro ⟨entries, hentries, hmem⟩
    obtain ⟨i, hi, rfl⟩ := mem_mapIdx.mp hentries
    exact ⟨params[i], getElem_mem hi, RangeOrder.mem_range.mp hmem⟩
  · rintro ⟨param, hparam, hvalue⟩
    obtain ⟨i, hi, rfl⟩ := mem_iff_getElem.mp hparam
    exact ⟨o.range i params[i], mem_mapIdx.mpr ⟨i, hi, rfl⟩, RangeOrder.mem_range.mpr hvalue⟩

theorem isValidShellInput_of_validateLustreParameters {lib : Library} {json : String}
    (h : validateLustreParameters lib o json = .ok ()) (hjson : json ≠ "")
    (hparams : lib.unmarshalParameters json = .ok params) {param : Parameter}
    (hparam : param ∈ params) {key : String} {value : Json} (hvalue : param.lookup key = some value) :
    isValidShellInput key ∧ isValidShellInput value.text := by
  rw [validateLustreParameters, if_neg hjson] at h
  obtain ⟨params', hparams', h⟩ := bind_ok h
  obtain rfl := Except.ok.inj (hparams.symm.trans hparams')
  dsimp only at h
  split at h
  · cases h
  · next hnone =>
    have hmem := mem_visited (o := o).mpr ⟨param, hparam, hvalue⟩
    have hvalid := filter_eq_nil_iff.mp (not_not.mp hnone) (key, value) hmem
    simpa using hvalid

/-! ## The calls -/

def Call.Intact : Call → Prop
  | .command c => c.Intact
  | _ => True

variable {d : LustreNodeDriver} {C : Call → Prop} {req : NodeStageVolumeRequest}

theorem makes_getLnetInfoByLnetLabel_iff :
    (getLnetInfoByLnetLabel d lnetLabel).Makes C ↔ C (.command (.showConfiguredLnet lnetLabel)) := by
  refine ⟨fun h => h.1, fun h => ⟨h, fun answer => ?_⟩⟩
  cases answer <;> trivial

theorem makes_executeCommandOnWorkerNode (h : C (.command c)) :
    (executeCommandOnWorkerNode c).Makes C :=
  ⟨h, fun answer => by cases answer <;> trivial⟩

theorem makes_configureLnet {interfaces : List NetInterface} {netInfo : NetInfo}
    (hdelete : C (.command (.deleteLnetInterface lnetLabel)))
    (hadd : ∀ interfaceName, C (.command (.configureLnetInterface lnetLabel interfaceName))) :
    (configureLnet interfaces lnetLabel netInfo).Makes C := by
  have hadds {interfaces : List NetInterface} {stale : List String} :
      (addInterfaces interfaces lnetLabel stale).Makes C := by
    refine Makes.forM fun iface _ => ?_
    split
    · exact (makes_executeCommandOnWorkerNode (hadd _)).mapError.bind fun _ => trivial
    · trivial
  unfold configureLnet
  dsimp only
  split
  · exact (makes_executeCommandOnWorkerNode hdelete).mapError.bind fun _ => hadds
  · exact hadds

theorem makes_forM_lctlSetParam_iff {entries : List (String × Json)} :
    (entries.forM fun (key, value) => do
      let _ ← executeCommandOnWorkerNode (.lctlSetParam key value.text) : NodeProgram Unit).Makes C ↔
      ∀ entry ∈ entries, C (.command (.lctlSetParam entry.1 entry.2.text)) := by
  constructor
  · intro h
    induction entries with
    | nil => exact nofun
    | cons entry entries ih =>
      exact forall_mem_cons.mpr ⟨h.1, ih (h.2 (.ok ""))⟩
  · intro h
    exact Makes.forM fun entry hentry =>
      (makes_executeCommandOnWorkerNode (h entry hentry)).bind fun _ => trivial

theorem makes_applyLustreParameters_iff {json : String} :
    (applyLustreParameters d json).Makes C ↔
      json ≠ "" → ∀ params, d.lib.unmarshalParameters json = .ok params →
        ∀ param ∈ params, ∀ key value, param.lookup key = some value →
          C (.command (.lctlSetParam key value.text)) := by
  rw [applyLustreParameters]
  split
  · next hjson => exact ⟨fun _ h => absurd hjson h, fun _ => trivial⟩
  · next hjson =>
    cases hparams : d.lib.unmarshalParameters json with
    | error err => exact ⟨nofun, fun _ => trivial⟩
    | ok params =>
      rw [Program.done_ok_bind]
      refine makes_forM_lctlSetParam_iff.trans ⟨fun h _ params' hparams' => ?_, fun h => ?_⟩
      · cases hparams'
        exact fun param hparam key value hvalue =>
          h (key, value) (mem_visited.mpr ⟨param, hparam, hvalue⟩)
      · rintro ⟨key, value⟩ hentry
        obtain ⟨param, hparam, hvalue⟩ := mem_visited.mp hentry
        exact h hjson params rfl param hparam key value hvalue

/-! ## Nothing is injected -/

/-- Every command line with an input from the user is intact, whatever the node answers. -/
structure CannotInject (d : LustreNodeDriver) (lnetLabel lustreParamsJson : String) : Prop where
  getLnetInfoByLnetLabel : (getLnetInfoByLnetLabel d lnetLabel).Makes Call.Intact
  configureLnet : ∀ interfaces netInfo, (configureLnet interfaces lnetLabel netInfo).Makes Call.Intact
  applyLustreParameters : (applyLustreParameters d lustreParamsJson).Makes Call.Intact

theorem intact_label_iff {slot : Shell.Slot} (hvalid : isValidShellInput lnetLabel)
    (hinputs : c.inputs = [lnetLabel]) (hslot : c.slot = some (slot, lnetLabel)) :
    c.Intact ↔ NoneMissed lnetLabel ∧ lnetLabel ≠ "" := by
  rw [Command.intact_iff_of_slot hslot, hinputs, forall_mem_singleton, plain_iff hvalid]

theorem intact_lctlSetParam_iff {key value : String} (hkey : isValidShellInput key)
    (hvalue : isValidShellInput value) :
    (Command.lctlSetParam key value).Intact ↔ NoneMissed key ∧ NoneMissed value := by
  have hne : key ++ "=" ++ value ≠ "" := by simp
  rw [Command.intact_iff_of_slot rfl, and_iff_left hne, Command.inputs, forall_mem_cons,
    forall_mem_singleton, plain_iff hkey, plain_iff hvalue]

/-- A handle and parameters that are accepted inject nothing where the label is not empty and
none of the characters that the check misses is there. -/
theorem cannotInject_iff (d : LustreNodeDriver) (lusterVolumeId lnetLabel lustreParamsJson : String)
    (hid : validateLustreVolumeId lusterVolumeId = (true, lnetLabel))
    (hjson : validateLustreParameters d.lib d.validateOrder lustreParamsJson = .ok ()) :
    CannotInject d lnetLabel lustreParamsJson ↔
      lnetLabel ≠ "" ∧ NoneMissed lnetLabel ∧
        (lustreParamsJson ≠ "" → ∀ params, d.lib.unmarshalParameters lustreParamsJson = .ok params →
          ∀ param ∈ params, ∀ key value, param.lookup key = some value →
            NoneMissed key ∧ NoneMissed value.text) := by
  have hvalid := isValidShellInput_of_validateLustreVolumeId hid
  constructor
  · intro h
    have hshow := makes_getLnetInfoByLnetLabel_iff.mp h.getLnetInfoByLnetLabel
    obtain ⟨hnone, hne⟩ := (intact_label_iff hvalid rfl rfl).mp hshow
    refine ⟨hne, hnone, fun hne params hparams param hmem key value hvalue => ?_⟩
    obtain ⟨hkey, htext⟩ :=
      isValidShellInput_of_validateLustreParameters hjson hne hparams hmem hvalue
    have hset := makes_applyLustreParameters_iff.mp h.applyLustreParameters
    exact (intact_lctlSetParam_iff hkey htext).mp (hset hne params hparams param hmem key value hvalue)
  · rintro ⟨hne, hnone, hparams⟩
    have hlabel {c : Command} {slot : Shell.Slot} (hinputs : c.inputs = [lnetLabel])
        (hslot : c.slot = some (slot, lnetLabel)) : c.Intact :=
      (intact_label_iff hvalid hinputs hslot).mpr ⟨hnone, hne⟩
    refine ⟨makes_getLnetInfoByLnetLabel_iff.mpr (hlabel rfl rfl),
      fun _ _ => makes_configureLnet (hlabel rfl rfl) fun _ => hlabel rfl rfl,
      makes_applyLustreParameters_iff.mpr fun hne params hok param hmem key value hvalue => ?_⟩
    obtain ⟨hkey, htext⟩ :=
      isValidShellInput_of_validateLustreParameters hjson hne hok hmem hvalue
    exact (intact_lctlSetParam_iff hkey htext).mpr (hparams hne params hok param hmem key value hvalue)

/-! ## Staging -/

theorem checkStageRequest_ok {acquired : Bool} {source lnetLabel : String}
    (h : checkStageRequest d req acquired = .ok (source, lnetLabel)) :
    validateLustreVolumeId (stripLustreOCIDPrefix req.volumeId) = (true, lnetLabel) ∧
      (postMountParameters d req).elim (.ok ()) (validateLustreParameters d.lib d.validateOrder) =
        .ok () := by
  unfold checkStageRequest at h
  split at h
  · cases h
  split at h
  · cases h
  split at h
  · cases h
  dsimp only at h
  split at h
  · cases h
  next hvalid =>
    split at h
    · cases h
    next hparameters =>
      split at h
      · cases h
      · obtain ⟨-, rfl⟩ := Prod.mk.inj (Except.ok.inj h)
        refine ⟨?_, hparameters⟩
        generalize validateLustreVolumeId (stripLustreOCIDPrefix req.volumeId) = result at hvalid ⊢
        exact Prod.ext (by simpa using hvalid) rfl

theorem makes_orInternal {step : NodeProgram Unit} {message : String → String}
    {next : NodeProgram (Except Status Unit)} (hstep : step.Makes C) (hnext : next.Makes C) :
    (orInternal step message next).Makes C := by
  refine hstep.attempt.bind fun result => ?_
  cases result with
  | error err => trivial
  | ok _ => exact hnext

variable {lnetLabel lustreParamsJson : String}

theorem makes_setupLnet {lustreSubnetCIDR : String}
    (hinterfaces : C (.getNetInterfacesInSubnet lustreSubnetCIDR))
    (hfixed : ∀ c : Command, c.inputs = [] → C (.command c))
    (hshow : (getLnetInfoByLnetLabel d lnetLabel).Makes C)
    (hconfigure : ∀ interfaces netInfo, (configureLnet interfaces lnetLabel netInfo).Makes C) :
    (setupLnet d lustreSubnetCIDR lnetLabel).Makes C := by
  have hcommand {c : Command} (hc : c.inputs = []) : (executeCommandOnWorkerNode c).Makes C :=
    makes_executeCommandOnWorkerNode (hfixed c hc)
  refine Makes.bind (Makes.bind ⟨hinterfaces, fun _ => trivial⟩ fun interfaces => ?_) fun prepared =>
    (hconfigure _ _).bind fun _ => hshow.bind fun _ => trivial
  split
  · trivial
  refine Makes.bind ((hcommand rfl).attempt.bind fun _ => trivial) fun installed => ?_
  refine (hcommand rfl).mapError.bind fun _ => (hcommand rfl).mapError.bind fun _ => ?_
  exact hshow.bind fun _ => trivial

theorem Command.intact_of_inputs (h : c.inputs = []) : c.Intact := by
  refine ⟨?_, ?_⟩
  · simp [h]
  · cases c with
    | loadLnetKernelModule | configureLnetKernelService | lfsVersion => simp [Command.slot]
    | _ => cases h

theorem CannotInject.makes_mountIfNeeded
    (h : CannotInject d lnetLabel ((postMountParameters d req).getD "")) (source : String) :
    (mountIfNeeded d req source).Makes Call.Intact := by
  have hmount : (mountVolume d req source).Makes Call.Intact := by
    refine makes_orInternal ⟨trivial, fun _ => trivial⟩ ?_
    split
    · trivial
    · next json hjson =>
      rw [hjson] at h
      refine h.applyLustreParameters.attempt.bind fun result => ?_
      cases result with
      | ok _ => trivial
      | error err => exact ⟨trivial, fun _ => trivial⟩
  refine ⟨trivial, fun answer => ?_⟩
  cases answer with
  | ok mountPoint =>
    cases mountPoint with
    | true => trivial
    | false => exact hmount
  | error err =>
    dsimp only
    split
    · exact makes_orInternal ⟨trivial, fun _ => trivial⟩ hmount
    · trivial

/-- If nothing can be injected, all command lines of `NodeStageVolume` are intact. -/
theorem makes_nodeStageVolume (acquired : Bool)
    (h : ∀ lnetLabel, validateLustreVolumeId (stripLustreOCIDPrefix req.volumeId) = (true, lnetLabel) →
      CannotInject d lnetLabel ((postMountParameters d req).getD "")) :
    (nodeStageVolume d req acquired).Makes Call.Intact := by
  unfold nodeStageVolume
  split
  · trivial
  · next source lnetLabel hcheck =>
    have hsafe := h lnetLabel (checkStageRequest_ok hcheck).1
    split
    · exact makes_orInternal (makes_setupLnet trivial (fun _ => Command.intact_of_inputs)
        hsafe.getLnetInfoByLnetLabel hsafe.configureLnet) (hsafe.makes_mountIfNeeded source)
    · exact hsafe.makes_mountIfNeeded source

/-- A driver that is given the parameters of a volume. -/
def driverWith (param : Parameter) : LustreNodeDriver where
  lib :=
    { unmarshalStrings := fun _ => .ok []
      unmarshalFreeformTags := fun _ => .ok none
      unmarshalDefinedTags := fun _ => .ok none
      unmarshalParameters := fun _ => .ok [param]
      parseCIDR := fun _ => true }
  unmarshalNetInfo := fun _ => .ok []

theorem cannotInject_plain :
    CannotInject (driverWith (GoMap.ofPairs [("at_min", .number "40")])) "tcp1"
      "[\x7b\"at_min\":40\x7d]" := by
  refine (cannotInject_iff _ "10.0.1.10@tcp1:/lustrefs" _ _ (by decide) (by decide)).mpr
    ⟨by decide, by decide, ?_⟩
  intro _ params hparams param hparam key value hvalue
  cases hparams
  obtain rfl := mem_singleton.mp hparam
  obtain ⟨rfl, rfl⟩ := Prod.mk.inj (mem_singleton.mp (GoMap.mem_toPairs.mpr hvalue))
  decide

/-- Tabs are accepted. The label becomes two words, and a second parameter is set. -/
theorem not_cannotInject_tab :
    let d := driverWith (GoMap.ofPairs [("at_min", .string "40\tat_max=600")])
    validateLustreVolumeId "10.0.1.10@tcp\t--all:/lustrefs" = (true, "tcp\t--all") ∧
      validateLustreParameters d.lib d.validateOrder "[\x7b\"at_min\":\"40\\tat_max=600\"\x7d]" = .ok () ∧
      Shell.words (fun _ => []) (Command.showConfiguredLnet "tcp\t--all").text =
        ["lnetctl", "net", "show", "--net", "tcp", "--all"] ∧
      Shell.words (fun _ => []) (Command.lctlSetParam "at_min" "40\tat_max=600").text =
        ["lctl", "set_param", "at_min=40", "at_max=600"] ∧
      ¬CannotInject d "tcp\t--all" "[\x7b\"at_min\":\"40\\tat_max=600\"\x7d]" := by
  refine ⟨by decide, by decide, by decide, by decide, fun h => ?_⟩
  exact absurd (h.getLnetInfoByLnetLabel.1.plain _ mem_cons_self) (by decide)

end OciCcm.Csi.Lustre
