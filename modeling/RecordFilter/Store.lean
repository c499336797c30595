import RecordFilter.Predicate
import RecordFilter.Record

/-! # Queries to stores

Which of the stored records are asked for: those that satisfy a filter, and of these one page. -/

namespace RecordFilter

/-! ## Pages

Requests for a page of results. Pages are counted from 1; a request that names only the page or
only its size gets the other by default. -/

/-- A part of a list: how many entries to skip, and how many to take at most. -/
structure Window where
  offset : Nat
  limit : Nat
  deriving DecidableEq

namespace Window

/-- The entries of a list that lie in the window. -/
def slice {α : Type} (w : Window) (entries : List α) : List α :=
  (entries.drop w.offset).take w.limit

end Window

/-- Why a page request cannot be met. -/
inductive PageError where
  | indexBelowOne
  | sizeBelowOne
  deriving DecidableEq

/-- The message shown for the error. -/
def PageError.message : PageError → String
  | .indexBelowOne => "Page index should start at 1"
  | .sizeBelowOne => "Page size cannot be less than one"

/-- A page of results: its index, counted from 0, and the number of records on it. -/
structure Page where
  index : Nat
  size : Nat
  size_pos : 0 < size
  deriving DecidableEq

namespace Page

/-- The page that is meant if only a size is given. -/
def defaultIndex : Int64 := 1

/-- The size that is meant if only a page is given. -/
def defaultSize : Int64 := 10

/-- The largest number of records that can be skipped. -/
def maxOffset : Nat := UInt64.size - 1

/-- The page with the given index, counted from 1, and size. The index is checked first. -/
def ofNumbers (index size : Int) : Except PageError Page :=
  if index < 1 then .error .indexBelowOne
  else if h : size < 1 then .error .sizeBelowOne
  else .ok ⟨(index - 1).toNat, size.toNat, by omega⟩

/-- The page that is requested, or none if neither its index nor its size is given. -/
def ofRequest : (index size : Option Int64) → Except PageError (Option Page)
  | none, none => .ok none
  | index, size =>
    (ofNumbers (index.getD defaultIndex).toInt (size.getD defaultSize).toInt).map some

/-- The number of records before the page, as far as it can be expressed. -/
def offset (p : Page) : Nat :=
  min (p.index * p.size) maxOffset

/-- The part of the results that is on the page. -/
def window (p : Page) : Window :=
  ⟨p.offset, p.size⟩

end Page

/-! ## Queries

Which records of a collection are asked for: those that satisfy a predicate, in the order in
which they were stored, and of these the ones in a window. -/

/-- A question to a collection of records. -/
structure Query where
  predicate : Option Predicate
  window : Option Window
  deriving DecidableEq

namespace Query

/-- The query for every record. -/
def all : Query :=
  ⟨none, none⟩

/-- Whether the query asks for a record. -/
def selects {α : Type} [Record α] (q : Query) (r : α) : Bool :=
  match q.predicate with
  | some p => p.matches r
  | none => true

/-- The records that a query asks for. -/
def run {α : Type} [Record α] (q : Query) (records : List α) : List α :=
  let selected := records.filter q.selects
  match q.window with
  | some w => w.slice selected
  | none => selected

/-- The query for the records that satisfy a filter text and an extra predicate, which stands in
front. A text that is given must be a filter, even if it is empty. -/
def ofFilter {ω : Type} [Operation ω] (registry : Registry ω) (table : FieldTable)
    (filter : Option String) (page : Option Page) (extra : Option Predicate) :
    Except FilterError Query := do
  let window := page.map Page.window
  match filter with
  | none => return ⟨extra, window⟩
  | some text =>
    let compiled ← Predicate.ofText registry table text
    match extra with
    | some extra => return ⟨some (.joined .and extra compiled), window⟩
    | none => return ⟨some compiled, window⟩

end Query

section find
variable {ω : Type} [Operation ω]

/-- The records that satisfy a filter text and an extra predicate, and of these one page. -/
def find {α : Type} [Record α] (registry : Registry ω) (records : List α) (filter : Option String)
    (page : Option Page) (extra : Option Predicate) : Except FilterError (List α) :=
  (Query.ofFilter registry (Record.table α) filter page extra).map (·.run records)

/-- The sessions of one user that satisfy a filter text, and of these one page. -/
def findOwned (registry : Registry ω) (records : List Jogging) (owner : String)
    (filter : Option String) (page : Option Page) : Except FilterError (List Jogging) :=
  find registry records filter page (some (Jogging.ownedBy owner))

end find

/-! ## Stores

Records in memory, in the order in which they came. A store takes new records behind those that it
has, and answers queries about all of them. -/

/-- The records at hand. -/
structure Store (α : Type) where
  records : List α
  deriving DecidableEq

namespace Store

variable {α : Type}

/-- Adds a record behind all others. -/
def push (record : α) : StateM (Store α) Unit :=
  modify fun s => ⟨s.records ++ [record]⟩

/-- The records that a query asks for. -/
def execute [Record α] (q : Query) : StateM (Store α) (List α) := do
  return q.run (← get).records

end Store

end RecordFilter
