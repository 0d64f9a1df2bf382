import DataGrid.Error
import DataGrid.Json.Writer

/-!
# DataGrid.Response.Reply -- what goes back to a client

A status, headers and a JSON body. A failure tells the client its wording and its number,
and hides what a store said.
-/

namespace DataGrid

structure Reply where
  status : Nat
  headers : List (String × String)
  body : String
deriving DecidableEq, Repr

namespace Reply

/-- The values of a header. -/
def valuesOf (r : Reply) (name : String) : List String :=
  (r.headers.filter fun header => header.1 == name).map Prod.snd

/-- A reply with a JSON body. -/
def ofJson (status : Nat) (headers : List (String × String)) (body : Json) : Reply :=
  ⟨status, headers ++ [("content-type", "application/json")], body.toText⟩

/-- The reply to a request that failed. -/
def ofError (e : GridError) : Reply :=
  .ofJson e.status [] (.object
    [Json.field "error" (.ofText e.clientMessage), Json.field "code" (.ofNat e.code)])

end Reply
end DataGrid
