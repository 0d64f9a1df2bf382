import DataGrid.Document.Value

/-!
# DataGrid.Columns.Predicate -- the clauses of a condition callback

A condition callback writes clauses into a predicate, which conjoins them. Each function
here adds one clause.
-/

namespace DataGrid

structure Predicate where
  clauses : List Document

namespace Predicate

def empty : Predicate := ⟨[]⟩

def isEmpty (p : Predicate) : Bool := p.clauses.isEmpty

/-- Adds a filter document as it is. -/
def add (p : Predicate) (clause : Document) : Predicate := ⟨p.clauses ++ [clause]⟩

/-- Adds the clause that a field compares with a value by an operator. -/
def compare (p : Predicate) (field operator : String) (value : Value) : Predicate :=
  p.add [(field, .document [(operator, value)])]

def eq (p : Predicate) (field : String) (value : Value) : Predicate := p.compare field "$eq" value
def ne (p : Predicate) (field : String) (value : Value) : Predicate := p.compare field "$ne" value
def gt (p : Predicate) (field : String) (value : Value) : Predicate := p.compare field "$gt" value
def gte (p : Predicate) (field : String) (value : Value) : Predicate :=
  p.compare field "$gte" value
def lt (p : Predicate) (field : String) (value : Value) : Predicate := p.compare field "$lt" value
def lte (p : Predicate) (field : String) (value : Value) : Predicate :=
  p.compare field "$lte" value

def inValues (p : Predicate) (field : String) (values : List Value) : Predicate :=
  p.compare field "$in" (.array values)

def notIn (p : Predicate) (field : String) (values : List Value) : Predicate :=
  p.compare field "$nin" (.array values)

def exists? (p : Predicate) (field : String) (present : Bool) : Predicate :=
  p.compare field "$exists" (.boolean present)

/-- Adds a pattern that ignores case. -/
def regex (p : Predicate) (field pattern : String) : Predicate :=
  p.add [(field, .document [("$regex", .string pattern), ("$options", .string "i")])]

/-- The conjunction: none without clauses, the only clause, or all of them under `$and`. -/
def toDocument? (p : Predicate) : Option Document :=
  match p.clauses with
  | [] => none
  | [only] => some only
  | many => some [("$and", .array (many.map .document))]

end Predicate
end DataGrid
