import DirectoryAccess.DistinguishedName.Hierarchy
import DirectoryAccess.DistinguishedName.Reading
import DirectoryAccess.Filter.Basic
import DirectoryAccess.Time.Duration

/-!
# Searches

A query is a search as a caller describes it, a request is a search as a connection is asked for it.
They differ in one point: a query may leave open whether whole entries are wanted, which then depends on
what the caller does with the entries.
-/

namespace DirectoryAccess

/-- How deep a search goes. -/
inductive SearchScope where
  /-- The base itself. -/
  | base
  /-- The immediate children of the base. -/
  | oneLevel
  /-- The base and all that is below it. -/
  | subtree
  deriving DecidableEq, Repr

/-- The number of a scope on the wire. -/
def SearchScope.code : SearchScope → Nat
  | .base => 0
  | .oneLevel => 1
  | .subtree => 2

/-- A search as a caller describes it. -/
structure SearchQuery where
  /-- Where the search starts, relative to the base of the connections. -/
  base : DistinguishedName
  /-- Which entries are wanted. -/
  filter : Filter
  /-- How deep the search goes. -/
  scope : SearchScope := .subtree
  /-- How many entries are wanted at most; zero sets no limit. -/
  sizeLimit : Int := 0
  /-- How long the server may search. -/
  timeLimit? : Option Duration := none
  /-- Which attributes are wanted; an empty list stands for all. -/
  attributes : List String := []
  /-- Whether whole entries are wanted, if the caller says so. -/
  wholeEntries? : Option Bool := none

namespace SearchQuery

/-- A search of the subtree below a base, without limits. -/
def make? (base : NameInput) (filter : Filter) : Except NameError SearchQuery :=
  base.resolve.map fun name => { base := name, filter }

/-- Whether whole entries are asked for. They always are where the caller maps contexts. -/
def wantsWholeEntries (q : SearchQuery) (mapsContexts : Bool) : Bool :=
  mapsContexts || q.wholeEntries?.getD false

/-- Whether two queries are the same; their bases are compared as names. -/
def same (q r : SearchQuery) : Bool :=
  q.base == r.base && q.filter.same r.filter && q.scope == r.scope && q.sizeLimit == r.sizeLimit &&
    q.timeLimit? == r.timeLimit? && q.attributes == r.attributes && q.wholeEntries? == r.wholeEntries?

end SearchQuery

/-- A search as a connection is asked for it. -/
structure SearchRequest where
  /-- Where the search starts, relative to the base of the connections. -/
  base : DistinguishedName
  /-- The text of the filter. -/
  filter : String
  /-- How deep the search goes. -/
  scope : SearchScope
  /-- How many entries are wanted at most; zero sets no limit. -/
  sizeLimit : Int := 0
  /-- How long the server may search. -/
  timeLimit? : Option Duration := none
  /-- Which attributes are wanted; an empty list stands for all. -/
  attributes : List String := []
  /-- Whether whole entries are wanted. -/
  wholeEntries : Bool := false
  deriving DecidableEq, Repr

namespace SearchRequest

/-- The request for a query. -/
def ofQuery (q : SearchQuery) (wholeEntries : Bool) : SearchRequest :=
  { base := q.base, filter := toString q.filter, scope := q.scope, sizeLimit := q.sizeLimit,
    timeLimit? := q.timeLimit?, attributes := q.attributes, wholeEntries }

/-- The filter that every entry satisfies. -/
def anyEntry : String := "(objectClass=*)"

/-- The request for all immediate children of an entry. -/
def children (base : DistinguishedName) (attributes : List String) : SearchRequest :=
  { base, filter := anyEntry, scope := .oneLevel, attributes }

/-- The request for an entry itself. -/
def entry (base : DistinguishedName) (attributes : List String) : SearchRequest :=
  { base, filter := anyEntry, scope := .base, attributes, wholeEntries := true }

end SearchRequest

end DirectoryAccess
