import OciCcm.Go.Map

/-! # Tags of resources

Freeform tags are a map, defined tags a map for each namespace. The maps of a
configuration may be nil, which a reader cannot tell from empty ones.
-/

namespace OciCcm.Tags

open Go

/-- The value of a defined tag: a string, or a value of another type. -/
inductive TagValue where
  | string (s : String)
  | other (repr : String)
deriving DecidableEq, Repr

/-- The tags of a namespace, which may be nil. -/
abbrev NamespaceTags := Option (GoMap TagValue)

abbrev DefinedTags := GoMap NamespaceTags

/-- The value under a key of a namespace. -/
def NamespaceTags.get (tags : NamespaceTags) (key : String) : Option TagValue :=
  tags.bind (·.lookup key)

structure TagConfig where
  freeformTags : Option (GoMap String) := none
  definedTags : Option DefinedTags := none

namespace TagConfig

def freeform (t : TagConfig) (key : String) : Option String :=
  t.freeformTags.bind (·.lookup key)

def namespaceTags (t : TagConfig) (ns : String) : Option NamespaceTags :=
  t.definedTags.bind (·.lookup ns)

def defined (t : TagConfig) (ns key : String) : Option TagValue :=
  (t.namespaceTags ns).bind (NamespaceTags.get · key)

end TagConfig

def mergeFreeFormTags (freeformTags : List (Option (GoMap String))) : GoMap String :=
  GoMap.mergeAll (freeformTags.map (·.getD ∅))

/-- The tags of a namespace are not merged: the last map that has the namespace gives all of
them. -/
def mergeDefinedTags (definedTags : List (Option DefinedTags)) : DefinedTags :=
  GoMap.mergeAll (definedTags.map (·.getD ∅))

/-- The second configuration takes precedence. -/
def mergeTagConfig (srcTagConfig dstTagConfig : TagConfig) : TagConfig where
  freeformTags := mergeFreeFormTags [srcTagConfig.freeformTags, dstTagConfig.freeformTags]
  definedTags := mergeDefinedTags [srcTagConfig.definedTags, dstTagConfig.definedTags]

theorem lookup_getD_empty {V : Type} (m : Option (GoMap V)) (k : String) :
    (m.getD ∅).lookup k = m.bind (·.lookup k) := by
  cases m with
  | none => rfl
  | some m => rfl

theorem freeform_mergeTagConfig (src dst : TagConfig) (key : String) :
    (mergeTagConfig src dst).freeform key = (dst.freeform key).or (src.freeform key) := by
  simp only [TagConfig.freeform, mergeTagConfig, mergeFreeFormTags, List.map_cons, List.map_nil,
    Option.bind_some, GoMap.lookup_mergeAll_pair, lookup_getD_empty]

theorem namespaceTags_mergeTagConfig (src dst : TagConfig) (ns : String) :
    (mergeTagConfig src dst).namespaceTags ns =
      (dst.namespaceTags ns).or (src.namespaceTags ns) := by
  simp only [TagConfig.namespaceTags, mergeTagConfig, mergeDefinedTags, List.map_cons,
    List.map_nil, Option.bind_some, GoMap.lookup_mergeAll_pair, lookup_getD_empty]

theorem defined_mergeTagConfig (src dst : TagConfig) (ns key : String) :
    (mergeTagConfig src dst).defined ns key =
      if (dst.namespaceTags ns).isSome then dst.defined ns key else src.defined ns key := by
  unfold TagConfig.defined
  rw [namespaceTags_mergeTagConfig]
  cases dst.namespaceTags ns with
  | none => simp
  | some tags => simp

end OciCcm.Tags
