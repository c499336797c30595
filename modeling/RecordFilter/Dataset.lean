import RecordFilter.Files
import RecordFilter.Json
import RecordFilter.Record

/-! # Datasets

All records that can be queried, and their form as JSON. A record is an object with a member for
each of its fields; it may also be an array of the fields in order. Members with other names are
skipped, but no field may occur twice. A version defaults to 0 and the weather to being unknown;
all other fields are required. -/

namespace RecordFilter

/-- The users and the sessions at hand. -/
structure Dataset where
  users : List User
  joggings : List Jogging
  deriving DecidableEq

namespace Dataset

/-- The dataset without records. -/
def empty : Dataset :=
  ⟨[], []⟩

end Dataset

/-! ### Writing -/

/-- The member for an optional text, left out if the text is absent. -/
def Json.optionalMember (name : String) (value : Option String) : List (String × Json) :=
  match value with
  | some s => [(name, .ofString s)]
  | none => []

/-- The stored form of a user. -/
def User.toJson (u : User) : Json :=
  .ofMembers [("id", .ofInt64 u.id), ("version", .ofInt64 u.version), ("name", .ofString u.name),
    ("role", .ofString u.role.name)]

/-- The stored form of a session. -/
def Jogging.toJson (j : Jogging) : Json :=
  .ofMembers ([("id", .ofInt64 j.id), ("version", .ofInt64 j.version), ("user", .ofString j.user),
    ("date", .ofString j.date.text), ("distance", .ofInt64 j.distance),
    ("time", .ofString j.time.preciseText), ("location", .ofString j.location)]
    ++ Json.optionalMember "averageTemperature" j.averageTemperature
    ++ Json.optionalMember "weatherCondition" j.weatherCondition)

/-- The stored form of a dataset. -/
def Dataset.toJson (d : Dataset) : Json :=
  .ofMembers [("users", .array (d.users.map User.toJson)),
    ("joggings", .array (d.joggings.map Jogging.toJson))]

/-! ### Reading fields -/

namespace Json

/-- A 64-bit number. -/
def int64? : Json → Option Int64
  | .integer n => toInt64? n
  | _ => none

/-- A text. -/
def text? : Json → Option String
  | .string text => text
  | _ => none

/-- A text or null. -/
def optionalText? : Json → Option (Option String)
  | .null => some none
  | j => j.text?.map some

/-- A role, given by its name, or as an object whose only member has that name and is null. -/
def role? : Json → Option Role
  | .string (some name) => Role.ofName? name
  | .object [(some name, .null)] => Role.ofName? name
  | _ => none

/-- A date in its stored form. -/
def date? (j : Json) : Option Date :=
  j.text?.bind fun s => Date.readLoose? s.toList

/-- A time in its stored form. -/
def time? (j : Json) : Option TimeOfDay :=
  j.text?.bind fun s => TimeOfDay.readLoose? s.toList

/-- A list of values that are all readable. -/
def list? {α : Type} (item? : Json → Option α) : Json → Option (List α)
  | .array items => items.mapM item?
  | _ => none

/-! ### Reading records -/

/-- The members of a record with the given fields, each under its name. -/
def members? (fields : List String) : Json → Option (List (String × Json))
  | .object members => do
    let members ← members.mapM fun (name, value) => name.map (·, value)
    let known := members.filter (fields.contains ·.1)
    if (known.map (·.1)).Nodup then some known else none
  | .array items => if items.length ≤ fields.length then some (fields.zip items) else none
  | _ => none

/-- A field that must be given. -/
def required {α : Type} (members : List (String × Json)) (name : String)
    (value? : Json → Option α) : Option α :=
  (members.lookup name).bind value?

/-- A field that has a default. -/
def optional {α : Type} (members : List (String × Json)) (name : String) (default : α)
    (value? : Json → Option α) : Option α :=
  match members.lookup name with
  | some value => value? value
  | none => some default

end Json

/-- The user that a value stands for. -/
def User.ofJson? (j : Json) : Option User := do
  let members ← j.members? ["id", "version", "name", "role"]
  let id ← Json.required members "id" Json.int64?
  let version ← Json.optional members "version" 0 Json.int64?
  let name ← Json.required members "name" Json.text?
  let role ← Json.required members "role" Json.role?
  return ⟨id, version, name, role⟩

/-- The session that a value stands for. -/
def Jogging.ofJson? (j : Json) : Option Jogging := do
  let members ← j.members? ["id", "version", "user", "date", "distance", "time", "location",
    "averageTemperature", "weatherCondition"]
  let id ← Json.required members "id" Json.int64?
  let version ← Json.optional members "version" 0 Json.int64?
  let user ← Json.required members "user" Json.text?
  let date ← Json.required members "date" Json.date?
  let distance ← Json.required members "distance" Json.int64?
  let time ← Json.required members "time" Json.time?
  let location ← Json.required members "location" Json.text?
  let averageTemperature ← Json.optional members "averageTemperature" none Json.optionalText?
  let weatherCondition ← Json.optional members "weatherCondition" none Json.optionalText?
  return ⟨id, version, user, date, distance, time, location, averageTemperature,
    weatherCondition⟩

namespace Dataset

/-- The dataset that a value stands for. -/
def ofJson? (j : Json) : Option Dataset := do
  let members ← j.members? ["users", "joggings"]
  let users ← Json.optional members "users" [] (Json.list? User.ofJson?)
  let joggings ← Json.optional members "joggings" [] (Json.list? Jogging.ofJson?)
  return ⟨users, joggings⟩

/-- The text in which a dataset is stored. -/
def text (d : Dataset) : String :=
  d.toJson.text

/-- The dataset that a text stores. -/
def read? (s : String) : Option Dataset :=
  (Json.read? s).bind ofJson?

end Dataset

/-! ## Stored datasets

Loading and saving a dataset. A dataset is written to a draft beside its file, which then takes
the place of the file, so that the file does not hold a part of a dataset in between. The draft has
the extension `tmp`. Where that is the extension of the file already, the draft is the file itself,
and the dataset is written in place. -/

/-- Why a dataset cannot be loaded or saved. -/
inductive StorageError where
  | unreadable (path : Path) (reason : FileError)
  | malformed
  | noDirectory (path : Path) (reason : FileError)
  | unwritable (path : Path) (reason : FileError)
  deriving DecidableEq

/-- The message shown for the error. Why a text holds no dataset is left out. -/
def StorageError.message : StorageError → String
  | .unreadable path reason =>
    "failed to read dataset file '" ++ path.text ++ "': " ++ reason.message
  | .malformed => "JSON error"
  | .noDirectory path reason =>
    "failed to create data directory '" ++ path.text ++ "': " ++ reason.message
  | .unwritable path reason =>
    "failed to write dataset file '" ++ path.text ++ "': " ++ reason.message

namespace Dataset

/-- Where a dataset is written before it takes its place. -/
def draftPath (p : Path) : Path :=
  p.withExtension "tmp"

variable {m : Type → Type} [Monad m] [Files m]

/-- The dataset at a path. -/
def load (p : Path) : ExceptT StorageError m Dataset := do
  match ← Files.readText p with
  | .ok text =>
    match read? text with
    | some d => return d
    | none => throw .malformed
  | .error reason => throw (.unreadable p reason)

/-- The dataset at a path, which is empty if there is no file. -/
def loadOrEmpty (p : Path) : ExceptT StorageError m Dataset :=
  tryCatch (load p) fun
    | .unreadable _ .notFound => return empty
    | e => throw e

/-- Stores a dataset at a path, in a directory that is made if need be. -/
def save (p : Path) (d : Dataset) : ExceptT StorageError m Unit := do
  match p.parent? with
  | some parent =>
    match ← Files.ensurePath parent with
    | .ok () => pure ()
    | .error reason => throw (.noDirectory parent reason)
  | none => pure ()
  match ← Files.writeText (draftPath p) d.text with
  | .ok () => pure ()
  | .error reason => throw (.unwritable (draftPath p) reason)
  match ← Files.moveFile (draftPath p) p with
  | .ok () => return ()
  | .error reason => throw (.unwritable p reason)

end Dataset

end RecordFilter
