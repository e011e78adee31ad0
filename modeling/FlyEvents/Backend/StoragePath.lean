import FlyEvents.Foundation.Segments

/-! # Paths in the storage of the backend

A path is a bucket and an object in it. The object is kept in a standard form,
so that it can be read as a list of components.

The functions here are those of `NSString`, and take a text by its scalars. Only
`replacingOccurrences` passes over a slash that a scalar combines with, which is
left out.
-/

namespace FlyEvents

open Segments

/-- Takes off the separators to spare: `/foo//bar///baz////` becomes
`foo/bar/baz`. -/
def standardizedPathForString (string : String) : String :=
  .ofList (stripped '/' (collapsed '/' string.toList))

/-- The components of a text. -/
def pathSegments (string : String) : List (List Char) := segments '/' string.toList

@[simp] theorem toList_standardizedPathForString (string : String) :
    (standardizedPathForString string).toList = joined '/' (pathSegments string) := by
  simp [standardizedPathForString, stripped_collapsed, pathSegments]

@[simp] theorem pathSegments_standardized (string : String) :
    pathSegments (standardizedPathForString string) = pathSegments string := by
  rw [pathSegments, toList_standardizedPathForString]
  exact segments_joined fun part hmem => isSegment_of_mem hmem

theorem standardizedPathForString_idem (string : String) :
    standardizedPathForString (standardizedPathForString string) =
      standardizedPathForString string := by
  apply String.toList_injective
  rw [toList_standardizedPathForString, toList_standardizedPathForString,
    pathSegments_standardized]

structure StoragePath where
  bucket : String
  object : Option String
  standardized : ∀ text ∈ object, standardizedPathForString text = text

namespace StoragePath

@[ext] theorem ext_object {first second : StoragePath} (hbucket : first.bucket = second.bucket)
    (hobject : first.object = second.object) : first = second := by
  cases first
  cases second
  simp_all

/-- `StoragePath(with:object:)` -/
def initWith (bucket : String) (object : Option String) : StoragePath where
  bucket
  object := object.map standardizedPathForString
  standardized := by
    intro text hmem
    obtain ⟨string, -, rfl⟩ := Option.map_eq_some_iff.mp hmem
    exact standardizedPathForString_idem string

/-- The components of the object; none at the root of the bucket. -/
def components (path : StoragePath) : List (List Char) := pathSegments (path.object.getD "")

@[simp] theorem components_initWith_some (bucket object : String) :
    (initWith bucket (some object)).components = pathSegments object := by
  simp [components, initWith]

@[simp] theorem components_initWith_none (bucket : String) :
    (initWith bucket none).components = [] := by
  simp [components, initWith, pathSegments]

/-- The object is what its components are joined to. -/
theorem toList_object (path : StoragePath) :
    (path.object.getD "").toList = joined '/' path.components := by
  unfold components
  cases hobject : path.object with
  | none => simp [pathSegments]
  | some text =>
      have htext := path.standardized text hobject
      rw [Option.getD_some, ← toList_standardizedPathForString, htext]

/-! ## Children and parents -/

/-- `appendingPathComponent`: a separator goes between the two where there is
something in front and no separator yet. -/
def appendingPathComponent (first second : String) : String :=
  if first.toList = [] ∨ first.toList.getLast? = some '/' then first ++ second
  else first ++ "/" ++ second

/-- `deletingLastPathComponent`: with the last component goes the separator in
front of it, but not that of the root. -/
def deletingLastPathComponent (string : String) : String :=
  let parent := (string.toList.rdropWhile (· == '/')).rdropWhile (· != '/')
  if string.toList.head? = some '/' ∧ parent.all (· == '/') then "/"
  else .ofList (parent.rdropWhile (· == '/'))

def child (path : StoragePath) (string : String) : StoragePath :=
  if string = "" then path
  else
    match path.object with
    | some object => initWith path.bucket (some (appendingPathComponent object string))
    | none => initWith path.bucket (some string)

def parent (path : StoragePath) : Option StoragePath :=
  match path.object with
  | some object =>
      if object = "" then none
      else some (initWith path.bucket (some (deletingLastPathComponent object)))
  | none => none

def root (path : StoragePath) : StoragePath := initWith path.bucket none

/-- `gs://bucket/path/to/object` -/
def stringValue (path : StoragePath) : String :=
  "gs://" ++ path.bucket ++ "/" ++ path.object.getD ""

theorem pathSegments_appendingPathComponent (first second : String) :
    pathSegments (appendingPathComponent first second) =
      pathSegments first ++ pathSegments second := by
  unfold appendingPathComponent pathSegments
  split
  next hfirst =>
    rcases hfirst with hempty | hslash
    · simp [hempty]
    · obtain ⟨front, hfront⟩ := List.getLast?_eq_some_iff.mp hslash
      simp [hfront]
  next => simp

theorem pathSegments_deletingLastPathComponent (string : String) :
    pathSegments (deletingLastPathComponent string) = (pathSegments string).dropLast := by
  have hparent : segments '/' ((string.toList.rdropWhile (· == '/')).rdropWhile (· != '/')) =
      (pathSegments string).dropLast := by
    rw [segments_rdropWhile_ne (getLast?_rdropWhile _ _), segments_rdropWhile, pathSegments]
  unfold deletingLastPathComponent
  simp only
  split
  next hroot =>
    -- Only separators are left, so there was one component at most.
    have hnil := List.rdropWhile_eq_nil_iff.mpr (List.all_eq_true.mp hroot.2)
    rw [← hparent, ← segments_rdropWhile, hnil]
    simp [pathSegments]
  next => rw [pathSegments, String.toList_ofList, segments_rdropWhile, hparent]

/-! ## Where a path leads -/

/-- What a path stands for: a bucket, and the way from its root to the object. -/
def location (path : StoragePath) : String × List (List Char) := (path.bucket, path.components)

theorem object_ne_empty_iff {path : StoragePath} :
    path.object.getD "" ≠ "" ↔ path.components ≠ [] := by
  rw [not_iff_not]
  constructor
  · intro hempty
    simp [components, hempty, pathSegments]
  · intro hnil
    apply String.toList_injective
    simp [toList_object, hnil]

theorem location_child (path : StoragePath) (string : String) :
    (path.child string).location = (path.bucket, path.components ++ pathSegments string) := by
  unfold child
  split
  next hempty => simp [location, hempty, pathSegments]
  next =>
    cases hobject : path.object with
    | none =>
        have hroot : path.components = [] := by simp [components, hobject, pathSegments]
        simp only [location, components_initWith_some, hroot, List.nil_append]
        rfl
    | some object =>
        simp only [location, components_initWith_some, pathSegments_appendingPathComponent]
        simp [components, hobject, initWith]

theorem location_parent (path : StoragePath) :
    path.parent.map location =
      if path.components = [] then none else some (path.bucket, path.components.dropLast) := by
  have hempty : path.object.getD "" ≠ "" ↔ path.components ≠ [] := object_ne_empty_iff
  unfold parent
  cases hobject : path.object with
  | none =>
      rw [if_pos (by simpa [hobject] using hempty)]
      rfl
  | some object =>
      rw [hobject, Option.getD_some] at hempty
      by_cases hnil : path.components = []
      · have hobjectNil : object = "" := by
          by_contra hne
          exact hempty.mp hne hnil
        simp [hnil, hobjectNil]
      · simp only [hempty.mpr hnil, hnil, if_false, Option.map_some, location,
          components_initWith_some, pathSegments_deletingLastPathComponent]
        simp [components, hobject, initWith]

/-- Paths are handled as what they stand for: a child goes on by the components
of its name, a parent goes one component back, and the root has none. -/
theorem paths_are_locations (path : StoragePath) (string : String) :
    (path.child string).location = (path.bucket, path.components ++ pathSegments string) ∧
    path.parent.map location =
      (if path.components = [] then none else some (path.bucket, path.components.dropLast)) ∧
    path.root.location = (path.bucket, []) ∧
    ((pathSegments string).length = 1 →
      (path.child string).parent.map location = some path.location) := by
  refine ⟨path.location_child string, path.location_parent, ?_, fun hone => ?_⟩
  · simp [root, location, initWith, components, pathSegments]
  · obtain ⟨component, hcomponent⟩ := List.length_eq_one_iff.mp hone
    obtain ⟨hbucket, hcomponents⟩ := Prod.mk.inj (path.location_child string)
    rw [hcomponent] at hcomponents
    rw [location_parent, hcomponents, hbucket, if_neg (by simp), List.dropLast_concat]
    rfl

/-- An empty object leads to the root, as no object does. -/
theorem location_initWith_filter (path : StoragePath) :
    (initWith path.bucket (path.object.filter (· ≠ ""))).location = path.location := by
  cases hobject : path.object with
  | none => simp [location, components, hobject, initWith]
  | some object =>
      by_cases hempty : object = ""
      · simp [location, components, hobject, hempty, initWith, Option.filter]
      · simp [location, components, hobject, hempty, initWith, Option.filter]

theorem initWith_filter_eq_iff (path : StoragePath) :
    initWith path.bucket (path.object.filter (· ≠ "")) = path ↔ path.object ≠ some "" := by
  rw [StoragePath.ext_object_iff]
  cases hobject : path.object with
  | none => simp [initWith]
  | some object =>
      have hstandardized := path.standardized object hobject
      by_cases hempty : object = ""
      · simp [hempty, initWith, Option.filter]
      · simp [hempty, initWith, Option.filter, hstandardized]

end StoragePath

end FlyEvents
