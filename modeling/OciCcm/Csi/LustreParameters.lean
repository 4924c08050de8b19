import OciCcm.Client
import OciCcm.Csi.Status
import OciCcm.Go.Strings
import OciCcm.Tags

/-! # Parameters of a Lustre file system

The parameters of the storage class of a Lustre file system, and the checks of
the values that end up in a command line of a node.
-/

namespace OciCcm.Csi.Lustre

open Client Go Tags

/-! ## Values of JSON -/

/-- What `json.Unmarshal` stores in an `interface{}`. A number is given by its text, an object by
its members in the order of their names. -/
inductive Json where
  | null
  | bool (b : Bool)
  | number (text : String)
  | string (s : String)
  | array (elements : List Json)
  | object (members : List (String × Json))

mutual

/-- `fmt.Sprintf("%v", value)`. -/
def Json.text : Json → String
  | .null => "<nil>"
  | .bool b => if b then "true" else "false"
  | .number text => text
  | .string s => s
  | .array elements => "[" ++ join (Json.elementTexts elements) " " ++ "]"
  | .object members => "map[" ++ join (Json.memberTexts members) " " ++ "]"

def Json.elementTexts : List Json → List String
  | [] => []
  | value :: elements => value.text :: Json.elementTexts elements

def Json.memberTexts : List (String × Json) → List String
  | [] => []
  | (key, value) :: members => (key ++ ":" ++ value.text) :: Json.memberTexts members

end

abbrev Parameter := GoMap Json

/-- The texts that functions of the standard library accept, and what they make of them. The
text `null` gives a nil map. -/
structure Library where
  unmarshalStrings : String → Except String (List String)
  unmarshalFreeformTags : String → Except String (Option (GoMap String))
  unmarshalDefinedTags : String → Except String (Option DefinedTags)
  unmarshalParameters : String → Except String (List Parameter)
  /-- Does `net.ParseCIDR` accept the text? -/
  parseCIDR : String → Bool

/-! ## Values in a command line -/

def forbiddenChars : List String :=
  [";", "&", "|", "<", ">", "(", ")", "\x60", "'", "\"", "$", "!"]

def isValidShellInput (input : String) : Bool :=
  !Go.contains input " " && forbiddenChars.all fun char => !Go.contains input char

/-- The characters that are refused. -/
def refusedChars : List Char :=
  [' ', ';', '&', '|', '<', '>', '(', ')', '\x60', '\x27', '"', '$', '!']

theorem isValidShellInput_iff {input : String} :
    isValidShellInput input ↔ ∀ c ∈ input.toList, c ∉ refusedChars := by
  have hall : isValidShellInput input =
      refusedChars.all fun char => !Go.contains input (String.singleton char) := rfl
  have hmem (c : Char) : Go.contains input (String.singleton c) ↔ c ∈ input.toList :=
    contains_iff_mem (String.toList_singleton c)
  simp only [hall, List.all_eq_true, Bool.not_eq_true', Bool.eq_false_iff, ne_eq, hmem]
  exact ⟨fun h c hc hrefused => h c hrefused hc, fun h c hrefused hc => h c hc hrefused⟩

/-- The parameters in the order in which they are visited. -/
def visited (o : RangeOrder.{0}) (lustreParams : List Parameter) : List (String × Json) :=
  (lustreParams.mapIdx fun i param => o.range i param).flatten

/-- The parameters that are refused are reported together. -/
def validateLustreParameters (lib : Library) (o : RangeOrder.{0}) (lustreParamsJson : String) :
    Except String Unit :=
  if lustreParamsJson = "" then .ok ()
  else do
    let lustreParams ← lib.unmarshalParameters lustreParamsJson
    let invalidParams := (visited o lustreParams).filter fun (key, value) =>
      !isValidShellInput key || !isValidShellInput value.text
    if invalidParams ≠ [] then
      .error (join (invalidParams.map fun (key, value) => key ++ "=" ++ value.text) ",")
    else .ok ()

/-! ## The name of the file system -/

def isNameChar (c : Char) : Bool :=
  'A' ≤ c ∧ c ≤ 'Z' ∨ 'a' ≤ c ∧ c ≤ 'z' ∨ '0' ≤ c ∧ c ≤ '9' ∨ c = '_'

def validateLustreFileSystemName (name : String) : Except String Unit :=
  if name = "" then .error "empty"
  else if name.utf8ByteSize > 8 then .error "length must be <= 8"
  else if !name.toList.all isNameChar then .error "allowed characters are [A-Za-z0-9_]"
  else .ok ()

def isAllowed (ch : Char) : Bool :=
  'a' ≤ ch ∧ ch ≤ 'z' ∨ 'A' ≤ ch ∧ ch ≤ 'Z' ∨ '0' ≤ ch ∧ ch ≤ '9'

/-- The loop over the name of a volume from its end. -/
def collectAllowed : List Char → List Char → List Char
  | [], allowed => allowed
  | ch :: rest, allowed =>
    if allowed.length ≤ 6 then collectAllowed rest (if isAllowed ch then ch :: allowed else allowed)
    else allowed

def deriveDefaultFSName (volumeName : String) : String :=
  if volumeName = "" then "pvlustre"
  else
    let allowed := collectAllowed volumeName.toList.reverse []
    let fs := "pv" ++ String.ofList (allowed.drop (allowed.length - 6))
    match validateLustreFileSystemName fs with
    | .error _ => "pvlustre"
    | .ok () => fs

/-! ## The storage class -/

structure LustreStorageClassParameters where
  subnetId : String
  compartmentId : String
  availabilityDomain : String
  nsgIds : List String
  fileSystemName : String
  performanceTier : String
  kmsKeyId : String
  rootSquashEnabled : Bool
  rootSquashUid : Option Int
  rootSquashGid : Option Int
  rootSquashClientExceptions : List String
  setupLnet : String
  lustreSubnetCidr : String
  lustrePostMountParameters : String
  scTags : TagConfig

/-- The tags of the configuration that concern Lustre. -/
structure InitialTags where
  lustre : Option TagConfig := none
  common : Option TagConfig := none

structure LustreControllerDriver where
  compartmentID : String
  tags : Option InitialTags := none
  enableOkeSystemTags : Bool := false

section Parameters

variable (lib : Library) (parameters : GoMap String)

/-- The value of a parameter, unless it is blank. -/
def given (key : String) : Option String :=
  (parameters.lookup key).filter fun value => trimSpace value ≠ ""

def invalid {α : Type} (message : String) : Except Status α := .error ⟨.invalidArgument, message⟩

def required (key : String) : Except Status String :=
  match given parameters key with
  | some value => .ok value
  | none => invalid ("Missing required parameter: " ++ key)

/-- A list of strings, empty if the parameter is not given. -/
def stringsParameter (key : String) : Except Status (List String) :=
  match given parameters key with
  | none => .ok []
  | some value =>
    match lib.unmarshalStrings value with
    | .ok strings => .ok strings
    | .error err => invalid ("Failed to parse " ++ key ++ " (expect JSON array of strings) : " ++ err)

def performanceTiers : List String :=
  ["MBPS_PER_TB_125", "MBPS_PER_TB_250", "MBPS_PER_TB_500", "MBPS_PER_TB_1000"]

def performanceTier : Except Status String := do
  let tier ← required parameters "performanceTier"
  match performanceTiers.find? fun value => toLower value = toLower (trimSpace tier) with
  | some tierEnum => .ok tierEnum
  | none => invalid ("Invalid performanceTier: " ++ trimSpace tier ++ ". Supported values: " ++
      join performanceTiers ",")

/-- The text `true` or `false` in lower case, or none if the parameter is not given. -/
def boolParameter (key : String) : Except Status (Option String) :=
  match given parameters key with
  | none => .ok none
  | some value =>
    let lower := toLower (trimSpace value)
    if lower = "true" ∨ lower = "false" then .ok (some lower)
    else invalid ("Invalid " ++ key ++ ": " ++ value ++ ". Allowed values: true or false")

def idParameter (key : String) : Except Status (Option Int) :=
  match given parameters key with
  | none => .ok none
  | some value =>
    match (parseInt (trimSpace value)).filter (0 ≤ ·) with
    | some id => .ok (some id)
    | none => invalid ("Invalid " ++ key ++ ": " ++ value)

def rootSquashClientExceptions : Except Status (List String) := do
  let exceptions ← stringsParameter lib parameters "rootSquashClientExceptions"
  if exceptions.length > 10 then invalid "rootSquashClientExceptions supports max 10 entries"
  else .ok exceptions

def lustreSubnetCidr : Except Status String :=
  let cidr := trimSpace ((parameters.lookup "lustreSubnetCidr").getD "")
  if cidr ≠ "" ∧ !lib.parseCIDR cidr then invalid ("Invalid lustreSubnetCidr: " ++ cidr)
  else .ok cidr

def lustrePostMountParameters (o : RangeOrder.{0}) : Except Status String :=
  let text := trimSpace ((parameters.lookup "lustrePostMountParameters").getD "")
  match validateLustreParameters lib o text with
  | .error err => invalid ("Invalid lustrePostMountParameters: " ++ err)
  | .ok () => .ok text

def fileSystemName (volumeName : String) : Except Status String :=
  match given parameters "fileSystemName" with
  | none => .ok (deriveDefaultFSName volumeName)
  | some name =>
    match validateLustreFileSystemName (trimSpace name) with
    | .error err => invalid ("Invalid fileSystemName: " ++ err)
    | .ok () => .ok (trimSpace name)

/-- The tags of one kind in the storage class, or else those of the configuration. -/
def tagsOverride {α : Type} (key kind : String) (unmarshal : String → Except String (Option α))
    (tags : Option α) : Except Status (Option α) :=
  match given parameters key with
  | none => .ok tags
  | some text =>
    match unmarshal text with
    | .ok tags => .ok tags
    | .error err =>
      invalid ("failed to parse " ++ kind ++ " tags provided for storageclass : " ++ err)

/-- The full name of the availability domain, which the cloud is asked for. -/
def availabilityDomain (compartmentId : String) (ad : Except ClientError String) :
    Except Status String := do
  let name ← required parameters "availabilityDomain"
  match ad with
  | .ok full => .ok full
  | .error err => invalid ("Invalid availabilityDomain: " ++ trimSpace name ++ " for compartment " ++
      compartmentId ++ ", error: " ++ err.error)

def extractLustreStorageClassParameters (d : LustreControllerDriver) (o : RangeOrder.{0})
    (volumeName : String) (ad : Except ClientError String) :
    Except Status LustreStorageClassParameters := do
  let lustreTags := (d.tags.bind (·.lustre)).getD {}
  let subnetId ← required parameters "subnetId"
  let compartmentId := (given parameters "compartmentId").getD d.compartmentID
  let nsgIds ← stringsParameter lib parameters "nsgIds"
  let performanceTier ← performanceTier parameters
  let rootSquashEnabled ← boolParameter parameters "rootSquashEnabled"
  let rootSquashUid ← idParameter parameters "rootSquashUid"
  let rootSquashGid ← idParameter parameters "rootSquashGid"
  let rootSquashClientExceptions ← rootSquashClientExceptions lib parameters
  let setupLnet ← boolParameter parameters "setupLnet"
  let lustreSubnetCidr ← lustreSubnetCidr lib parameters
  let lustrePostMountParameters ← lustrePostMountParameters lib parameters o
  let fileSystemName ← fileSystemName parameters volumeName
  let freeformTags ← tagsOverride parameters "oci.oraclecloud.com/initial-freeform-tags-override"
    "freeform" lib.unmarshalFreeformTags lustreTags.freeformTags
  let definedTags ← tagsOverride parameters "oci.oraclecloud.com/initial-defined-tags-override"
    "defined" lib.unmarshalDefinedTags lustreTags.definedTags
  let availabilityDomain ← availabilityDomain parameters compartmentId ad
  return {
    subnetId, compartmentId, availabilityDomain, nsgIds, fileSystemName, performanceTier
    kmsKeyId := ((given parameters "kmsKeyId").map trimSpace).getD ""
    rootSquashEnabled := rootSquashEnabled = some "true"
    rootSquashUid, rootSquashGid, rootSquashClientExceptions
    setupLnet := setupLnet.getD ""
    lustreSubnetCidr, lustrePostMountParameters
    scTags := ⟨freeformTags, definedTags⟩ }

end Parameters

end OciCcm.Csi.Lustre
