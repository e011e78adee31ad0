import FlyEvents.Backend.StoragePath
import FlyEvents.Foundation.Separator

/-! # References into the storage of the backend

`Storage.reference(forURL:)` reads an address as a path, and compares its bucket
with the one of the app. An address it cannot read, or of another bucket, ends
the process.

An address is read by its characters, and a slash that something combines with is
none of their slashes. How a string falls into characters, which strings are
equal, and what the path components of a web address are, is up to the platform.
A character stands here for its scalars: the only ones that the parser compares
are slashes and those of the schemes, which are equal to no others.
-/

namespace FlyEvents

open Separator

variable {Character : Type} [DecidableEq Character]

/-- The storage of the app, with the parts of the platform its parser uses. An
empty bucket means that none is configured. -/
structure Storage (Character : Type) where
  storageBucket : String
  characters : String → List Character
  /-- `String.init`, of the characters of a part. -/
  string : List Character → String
  slash : Character
  /-- `first == second`, also for texts of other scalars that are equivalent. -/
  same : String → String → Bool
  /-- `URL(string:)?.pathComponents` -/
  pathComponents : String → Option (List String)

namespace Storage

variable (storage : Storage Character)

/-- `string.hasPrefix(prefix)` -/
def hasPrefix (string start : String) : Bool :=
  (storage.characters start).isPrefixOf (storage.characters string)

/-- `StoragePath.path(GSURI:)`: an error is thrown, and `none` is where the
process ends. -/
def pathGSURI (aURIString : String) : Option (Except String StoragePath) :=
  let bucketObject :=
    (storage.characters aURIString).drop (storage.characters "gs://").length
  if storage.hasPrefix aURIString "gs://" then
    if storage.slash ∈ bucketObject then
      match splitOnce storage.slash bucketObject with
      | [] => none
      | bucket :: object => some (.ok (.initWith (storage.string bucket)
          (object.head?.map storage.string)))
    else if bucketObject ≠ [] then some (.ok (.initWith (storage.string bucketObject) none))
    else some (.error
      "Internal error: URI must be in the form of gs://<bucket>/<path/to/object>")
  else some (.error "Internal error: URI must be in the form of gs://<bucket>/<path/to/object>")

/-- `StoragePath.path(HTTPURL:)`. The component `o` in front of the object is not
looked at, and with it as the last one the object is read out of range. -/
def pathHTTPURL (aURLString : String) : Option (Except String StoragePath) :=
  match storage.pathComponents aURLString with
  | some (_ :: version :: b :: bucketName :: object) =>
      if storage.same version "v0" ∧ storage.same b "b" then
        match object with
        | [] => some (.ok (.initWith bucketName none))
        | [_] => none
        | _ :: objectName :: rest =>
            some (.ok (.initWith bucketName (some (rest.foldl
              (fun objectName component => objectName ++ "/" ++ component) objectName))))
      else some (.error ("Internal error: URL must be in the form of " ++
        "http[s]://<host>/v0/b/<bucket>/o/<path/to/object>[?token=signed_url_params]"))
  | _ => some (.error ("Internal error: URL must be in the form of " ++
      "http[s]://<host>/v0/b/<bucket>/o/<path/to/object>[?token=signed_url_params]"))

/-- `StoragePath.path(string:)` -/
def path (string : String) : Option (Except String StoragePath) :=
  if storage.hasPrefix string "gs://" then storage.pathGSURI string
  else if storage.hasPrefix string "http://" || storage.hasPrefix string "https://" then
    storage.pathHTTPURL string
  else some (.error "Internal error: URL scheme must be one of gs://, http://, or https://")

/-- `bucket(for:)`, given the bucket of the app's options. -/
def bucketForApp (storageBucket : String) : Option String :=
  if storageBucket = "" then some ""
  else
    match storage.pathGSURI ("gs://" ++ storageBucket ++ "/") with
    | some (.ok path) =>
        if path.object = none ∨ path.object = some "" then some path.bucket else none
    | _ => none

/-- `reference(forURL:)`: the path of the reference, and `none` where the process
ends. -/
def referenceForURL (url : String) : Option StoragePath :=
  match storage.path url with
  | some (.ok path) =>
      if storage.storageBucket = "" then some path
      else if storage.same path.bucket storage.storageBucket then some path
      else none
  | _ => none

/-- `reference(forURL:)` returns, and does not end the process. -/
def acceptsURL (url : String) : Bool := (storage.referenceForURL url).isSome

end Storage

/-- The storage of an app with a bucket, for addresses in ASCII; it has no web
addresses. -/
def Storage.ofBucket (bucket : String) : Storage Char where
  storageBucket := bucket
  characters := String.toList
  string := String.ofList
  slash := '/'
  same first second := first = second
  pathComponents _ := none

example : (Storage.ofBucket "fly").acceptsURL "gs://fly/dj/1.png" = true := by decide
example : (Storage.ofBucket "fly").acceptsURL "gs:///" = false := by decide

/-! ## Reading an address back -/

namespace Storage

/-- What is relied on: texts are made up of their characters, the last slash of a
scheme is one of them, a text cut at a slash falls into the same characters, and
equal texts are alike in what is no text and what has a slash. -/
structure Lawful (storage : Storage Character) : Prop where
  string_characters : ∀ text, storage.string (storage.characters text) = text
  characters_empty : storage.characters "" = []
  scheme : ∃ front, storage.characters "gs://" = front ++ [storage.slash]
  parts : ∀ text before after,
    storage.characters text = before ++ storage.slash :: after →
      storage.characters (storage.string before) = before ∧
      storage.characters (storage.string after) = after
  same_characters : ∀ first second, storage.same first second = true →
    (storage.characters first = [] ↔ storage.characters second = []) ∧
    (storage.slash ∈ storage.characters first ↔ storage.slash ∈ storage.characters second)

theorem lawful_ofBucket (bucket : String) : (ofBucket bucket).Lawful where
  string_characters _ := String.ofList_toList
  characters_empty := rfl
  scheme := ⟨"gs:/".toList, rfl⟩
  parts _ _ _ _ := ⟨String.toList_ofList, String.toList_ofList⟩
  same_characters first second hsame := by
    obtain rfl : first = second := of_decide_eq_true hsame
    exact ⟨Iff.rfl, Iff.rfl⟩

/-- The address of the path falls into the characters of its parts: nothing
combines with a slash between them. -/
def KeepsApart (storage : Storage Character) (path : StoragePath) : Prop :=
  storage.characters path.stringValue = storage.characters "gs://" ++
    (storage.characters path.bucket ++
      storage.slash :: storage.characters (path.object.getD ""))

theorem keepsApart_ofBucket (bucket : String) (path : StoragePath) :
    (ofBucket bucket).KeepsApart path := by
  simp [KeepsApart, ofBucket, StoragePath.stringValue]

variable {storage : Storage Character}

theorem hasPrefix_iff {string start : String} :
    storage.hasPrefix string start = true ↔
      storage.characters start <+: storage.characters string := List.isPrefixOf_iff_prefix

namespace Lawful

omit [DecidableEq Character] in
theorem characters_eq_nil_iff (hlawful : storage.Lawful) {text : String} :
    storage.characters text = [] ↔ text = "" := by
  refine ⟨fun hnil => ?_, fun hempty => hempty ▸ hlawful.characters_empty⟩
  rw [← hlawful.string_characters text, hnil, ← hlawful.characters_empty,
    hlawful.string_characters]

omit [DecidableEq Character] in
/-- A part between a slash and another one, or the end, keeps its characters. -/
theorem characters_part (hlawful : storage.Lawful) {text : String}
    {front part behind : List Character}
    (htext : storage.characters text = front ++ storage.slash :: (part ++ behind))
    (hbehind : behind = [] ∨ ∃ rest, behind = storage.slash :: rest) :
    storage.characters (storage.string part) = part := by
  have hafter := (hlawful.parts text front _ htext).2
  rcases hbehind with rfl | ⟨rest, rfl⟩
  · rwa [List.append_nil] at hafter
  · exact (hlawful.parts _ part rest hafter).1

/-- A bucket that is read from a `gs://` address has a name, without a slash. -/
theorem bucket_of_pathGSURI (hlawful : storage.Lawful) {url : String} {path : StoragePath}
    (hread : storage.pathGSURI url = some (.ok path)) :
    storage.characters path.bucket ≠ [] ∧ storage.slash ∉ storage.characters path.bucket := by
  obtain ⟨scheme, hscheme⟩ := hlawful.scheme
  unfold pathGSURI at hread
  simp only at hread
  split at hread
  next hbegins =>
    obtain ⟨bucketObject, hurl⟩ := hasPrefix_iff.mp hbegins
    rw [← hurl, List.drop_left] at hread
    rw [hscheme, List.append_assoc, List.singleton_append] at hurl
    split at hread
    next =>
      split at hread
      next => cases hread
      next bucket object hsplit =>
        cases hread
        obtain ⟨hne, hslash, front, behind, rfl, hfront, hbehind⟩ := exists_of_splitOnce hsplit
        have hpart : storage.characters (storage.string bucket) = bucket := by
          rcases List.eq_nil_or_concat front with rfl | ⟨before, last, rfl⟩
          · exact hlawful.characters_part hurl.symm hbehind
          · obtain rfl := hfront last (by simp)
            have hbefore : storage.characters url =
                (scheme ++ storage.slash :: before) ++ storage.slash :: (bucket ++ behind) := by
              simp [← hurl]
            exact hlawful.characters_part hbefore hbehind
        exact ⟨hpart.symm ▸ hne, hpart.symm ▸ hslash⟩
    next hslash =>
      split at hread
      next hne =>
        cases hread
        have hpart := (hlawful.parts url scheme bucketObject hurl.symm).2
        exact ⟨hpart.symm ▸ hne, hpart.symm ▸ hslash⟩
      next => cases hread
  next => cases hread

theorem bucket_of_bucketForApp (hlawful : storage.Lawful) {options bucket : String}
    (hbucket : bucket ≠ "") (hconfigured : storage.bucketForApp options = some bucket) :
    storage.characters bucket ≠ [] ∧ storage.slash ∉ storage.characters bucket := by
  unfold bucketForApp at hconfigured
  split at hconfigured
  next =>
    cases hconfigured
    exact absurd rfl hbucket
  next =>
    split at hconfigured
    next path hread =>
      split at hconfigured
      next =>
        cases hconfigured
        exact hlawful.bucket_of_pathGSURI hread
      next => cases hconfigured
    next => cases hconfigured

/-- A path is read back from its address, except that an empty object is lost. -/
theorem pathGSURI_stringValue (hlawful : storage.Lawful) {path : StoragePath}
    (hapart : storage.KeepsApart path) (hbucket : storage.characters path.bucket ≠ [])
    (hslash : storage.slash ∉ storage.characters path.bucket) :
    storage.pathGSURI path.stringValue =
      some (.ok (.initWith path.bucket (path.object.filter (· ≠ "")))) := by
  have hbegins : storage.hasPrefix path.stringValue "gs://" = true :=
    hasPrefix_iff.mpr ⟨_, hapart.symm⟩
  unfold pathGSURI
  simp only [hbegins, if_true]
  rw [hapart, List.drop_left, if_pos (by simp), splitOnce_append_cons hbucket hslash]
  simp only [hlawful.string_characters, hlawful.characters_eq_nil_iff]
  cases path.object with
  | none => rfl
  | some object =>
      by_cases hempty : object = ""
      · simp [hempty, Option.filter]
      · simp [hempty, Option.filter, hlawful.string_characters]

end Lawful

/-- A path that the app's storage read, from either form of address, is read back
from its own address if nothing combines with a slash there, and leads to the
same place. It is the same path unless its object is empty and not absent. -/
theorem accepted_address_read_back (storage : Storage Character) (hlawful : storage.Lawful)
    (options : String) (hconfigured : storage.bucketForApp options = some storage.storageBucket)
    (hbucket : storage.storageBucket ≠ "") (url : String) (path : StoragePath)
    (haccepted : storage.referenceForURL url = some path) (hapart : storage.KeepsApart path) :
    ∃ read, storage.referenceForURL path.stringValue = some read ∧
      read.location = path.location ∧ (read = path ↔ path.object ≠ some "") := by
  obtain ⟨hne, hslash⟩ := hlawful.bucket_of_bucketForApp hbucket hconfigured
  have hsame : storage.same path.bucket storage.storageBucket = true := by
    unfold referenceForURL at haccepted
    split at haccepted
    next =>
      rw [if_neg hbucket] at haccepted
      split at haccepted
      next hsame =>
        cases haccepted
        exact hsame
      next => cases haccepted
    next => cases haccepted
  obtain ⟨hempty, hslashes⟩ := hlawful.same_characters _ _ hsame
  refine ⟨_, ?_, path.location_initWith_filter, path.initWith_filter_eq_iff⟩
  have hbegins : storage.hasPrefix path.stringValue "gs://" = true :=
    hasPrefix_iff.mpr ⟨_, hapart.symm⟩
  rw [referenceForURL, Storage.path, if_pos hbegins,
    hlawful.pathGSURI_stringValue hapart (mt hempty.mp hne) (mt hslashes.mp hslash)]
  simp [hbucket, hsame, StoragePath.initWith]

theorem accepted_address_read_back_dj :
    ∃ path read, (ofBucket "fly").referenceForURL "gs://fly/dj//1.png" = some path ∧
      (ofBucket "fly").referenceForURL path.stringValue = some read ∧
      read.location = path.location := by
  obtain ⟨path, haccepted⟩ : ∃ path,
      (ofBucket "fly").referenceForURL "gs://fly/dj//1.png" = some path :=
    Option.isSome_iff_exists.mp (by decide)
  obtain ⟨read, hread, hsame, -⟩ := accepted_address_read_back (ofBucket "fly")
    (lawful_ofBucket "fly") "fly" (by decide) (by decide) _ path haccepted
    (keepsApart_ofBucket "fly" path)
  exact ⟨path, read, haccepted, hread, hsame⟩

/-- A storage with one web address, where an accent combines with the character
in front of it. -/
def accented : Storage String where
  storageBucket := "fly"
  characters text := (text.toList.splitBy fun _ next => next = '\u0301').map String.ofList
  string := String.join
  slash := "/"
  same first second := first = second
  pathComponents _ := some ["/", "v0", "b", "fly", "o", "\u0301a.png"]

-- The address of the path has lost the slash in front of the object.
example : accented.acceptsURL "https://host/v0/b/fly/o/%CC%81a.png" = true ∧
    accented.acceptsURL (StoragePath.initWith "fly" (some "\u0301a.png")).stringValue = false := by
  decide +kernel

end Storage

end FlyEvents
