import RecordFilter.Predicate

/-! # Records

The kinds of records that filters can be applied to: accounts and running sessions. -/

namespace RecordFilter

/-! ## Records

Kinds of records that filters can be applied to. -/

/-- A kind of record: its fields and their values. -/
class Record (α : Type) where
  /-- The fields that filters may name. -/
  table : FieldTable
  /-- The value of the field with exactly this name, if there is such a field. -/
  value : α → String → Option Value

/-- Whether a record satisfies a predicate. -/
def Predicate.matches {α : Type} [Record α] (p : Predicate) (r : α) : Bool :=
  p.holds (Record.value r)

/-! ## Users

Accounts with a role. Roles ascend from `USER` to `ADMIN`. -/

/-- What an account may do. -/
inductive Role where
  | user
  | manager
  | admin
  deriving DecidableEq

namespace Role

/-- All roles in ascending order. -/
def all : List Role := [.user, .manager, .admin]

/-- The name of the role in data and in filters. -/
def name : Role → String
  | .user => "USER"
  | .manager => "MANAGER"
  | .admin => "ADMIN"

/-- The place of the role among all. -/
def rank : Role → Nat
  | .user => 0
  | .manager => 1
  | .admin => 2

/-- The role of exactly this name. -/
def ofName? (name : String) : Option Role :=
  all.find? (·.name == name)

/-- The roles as the type of a field. -/
def type : EnumType :=
  ⟨"role", all.map name⟩

/-- The role as a value of its type. -/
def variant (r : Role) : EnumVariant :=
  ⟨r.rank, r.name⟩

end Role

/-- An account. -/
structure User where
  id : Int64
  version : Int64
  name : String
  role : Role
  deriving DecidableEq

namespace User

/-- The fields of accounts. -/
def table : FieldTable :=
  ⟨"user", [⟨"id", .integer⟩, ⟨"version", .integer⟩, ⟨"name", .text⟩, ⟨"role", .enum Role.type⟩]⟩

/-- The values of an account's fields. -/
def value (u : User) (field : String) : Option Value :=
  match field with
  | "id" => some (.integer u.id)
  | "version" => some (.integer u.version)
  | "name" => some (.text u.name)
  | "role" => some (.enum u.role.variant)
  | _ => none

instance : Record User :=
  ⟨table, value⟩

end User

/-! ## Joggings

Running sessions. Each belongs to a user; that owner is a reference and cannot be named in a
filter, so that sessions are confined to an owner by a predicate of their own. -/

/-- A running session. The distance is in meters, and the weather is known only if it was
recorded. -/
structure Jogging where
  id : Int64
  version : Int64
  user : String
  date : Date
  distance : Int64
  time : TimeOfDay
  location : String
  averageTemperature : Option String
  weatherCondition : Option String
  deriving DecidableEq

namespace Jogging

/-- The fields of sessions. -/
def table : FieldTable :=
  ⟨"jogging", [⟨"id", .integer⟩, ⟨"version", .integer⟩, ⟨"user", .reference⟩, ⟨"date", .date⟩,
    ⟨"distance", .integer⟩, ⟨"time", .time⟩, ⟨"location", .text⟩, ⟨"averageTemperature", .text⟩,
    ⟨"weatherCondition", .text⟩]⟩

/-- The values of a session's fields. -/
def value (j : Jogging) (field : String) : Option Value :=
  match field with
  | "id" => some (.integer j.id)
  | "version" => some (.integer j.version)
  | "user" => some (.text j.user)
  | "date" => some (.date j.date)
  | "distance" => some (.integer j.distance)
  | "time" => some (.time j.time)
  | "location" => some (.text j.location)
  | "averageTemperature" => some (.ofText? j.averageTemperature)
  | "weatherCondition" => some (.ofText? j.weatherCondition)
  | _ => none

instance : Record Jogging :=
  ⟨table, value⟩

/-- The condition that a session belongs to the user. -/
def ownedBy (user : String) : Predicate :=
  .compare "user" .eq (.text user)

end Jogging

end RecordFilter
