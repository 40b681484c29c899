/-
The four endpoints of the gateway and their addresses.
-/
namespace TableGateway

inductive Endpoint where
  | fetch
  | insert
  | update
  | delete
deriving DecidableEq

namespace Endpoint

def all : List Endpoint := [fetch, insert, update, delete]

/-- The path below the base address. -/
def path : Endpoint → String
  | fetch => "/gateway/fetch"
  | insert => "/gateway/insert"
  | update => "/gateway/update"
  | delete => "/gateway/delete"

def method : Endpoint → String
  | fetch => "POST"
  | insert => "PUT"
  | update => "POST"
  | delete => "DELETE"

/-- The method and the path. -/
def display (e : Endpoint) : String :=
  e.method ++ " " ++ e.path

/-- The text without one slash at its end, if it has one there. -/
def withoutSlash (base : String) : String :=
  match base.toList.reverse with
  | '/' :: rest => String.ofList rest.reverse
  | _ => base

/-- The full address below a base address. -/
def url (e : Endpoint) (base : String) : String :=
  withoutSlash base ++ e.path

end Endpoint

end TableGateway
