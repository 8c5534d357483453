import GraphQLProjections.Endpoint.Header
import GraphQLProjections.Endpoint.Url

/-! An endpoint that serves a schema: where it is and what a request to it says. -/
namespace GraphQLProjections

structure Endpoint where
  url : Url
  /-- Header names are distinct; the last value given for a name counts. -/
  headers : Entries String
  /-- In seconds. -/
  timeout : Nat
  deriving Repr, Inhabited

namespace Endpoint

def standardTimeout : Nat := 30

def ofUrl (text : String) : Except Error Endpoint :=
  match Url.parse text with
  | .error fault => .error (.url fault)
  | .ok url =>
    if url.scheme = "http" ∨ url.scheme = "https" then .ok ⟨url, [], standardTimeout⟩
    else .error (.settings (.endpointScheme url.text))

/-- Add a header. The fault of a name shows it as given, the fault of a value in lower case. -/
def withHeader (endpoint : Endpoint) (name value : String) : Except Error Endpoint :=
  match Header.name? name with
  | none => .error (.settings (.headerName name))
  | some key =>
    match Header.value? value with
    | none => .error (.settings (.headerValue key))
    | some shown => .ok { endpoint with headers := endpoint.headers.insert key shown }

def withHeaders (endpoint : Endpoint) (headers : List (String × String)) : Except Error Endpoint :=
  headers.foldlM (fun endpoint header => endpoint.withHeader header.1 header.2) endpoint

end Endpoint
end GraphQLProjections
