import ApiSurvey.Schema.Walk
import ApiSurvey.Text.Blank
import ApiSurvey.Text.Case

/-!
# Operations

An operation is addressed by a method and a path, written `POST /orders`.  The document lists its
operations under their paths; the method of a path item is matched without regard to case.  The
schema of a request body is found through the media type: the one asked for, else the first that
speaks of JSON, else the first.
-/

namespace ApiSurvey.Schema

structure Operation where
  method : String
  path : String
deriving DecidableEq, Repr

/-- Why a text addresses no operation. -/
inductive OperationError
  /-- There is no blank between a method and a path. -/
  | oneWord (text : String)
  | unknownMethod (method : String)
  | noSlash (path : String)
deriving DecidableEq, Repr

def OperationError.message : OperationError → String
  | oneWord text => "expected 'METHOD /path', got '" ++ text ++ "'"
  | unknownMethod method => "unknown HTTP method '" ++ method ++ "'"
  | noSlash path => "path '" ++ path ++ "' must start with '/'"

/-- The methods that a path item may describe. -/
def httpMethods : List String :=
  ["get", "put", "post", "delete", "options", "head", "patch", "trace"]

namespace Operation

/-- The operation as it is written, the method in capitals. -/
def render (o : Operation) : String :=
  String.ofList (Text.uppercase o.method.toList) ++ " " ++ o.path

/-- The operation that a text addresses. -/
def parse (text : String) : Except OperationError Operation :=
  match Text.splitOnce Text.isBlank (Text.trim text.toList) with
  | none => .error (.oneWord text)
  | some (method, rest) =>
    let path := Text.trim rest
    if !httpMethods.any fun m => Text.eqAsciiCase m.toList method then
      .error (.unknownMethod (String.ofList method))
    else if path.head? != some '/' then .error (.noSlash (String.ofList path))
    else .ok ⟨String.ofList (Text.lowercase method), String.ofList path⟩

end Operation

namespace Document

/-- The methods of a path item, in order. -/
def methodsOf (item : Json.Members) : List String :=
  (item.map fun entry => String.ofList (Text.lowercase entry.1.toList)).filter httpMethods.contains

/-- The operations of a document, in order. -/
def operations (d : Document) : List Operation :=
  (((d.root.get? "paths").bind Json.members?).getD []).flatMap fun (path, item) =>
    (methodsOf (item.members?.getD [])).map (Operation.mk · path)

/-- The media type that describes a body: the one asked for, else a likely one. -/
def selectMedia? (content : Json.Members) (contentType : Option String) : Option Json :=
  match contentType with
  | some type => content.lookup type
  | none =>
    ((content.find? fun entry => Text.occurs "json".toList entry.1.toList).or content.head?).map
      Prod.snd

/-- The description of an operation. -/
def operation? (d : Document) (o : Operation) : Option Json := do
  let item ← (← (← d.root.get? "paths").get? o.path).members?
  (item.find? fun entry => Text.eqAsciiCase entry.1.toList o.method.toList).map Prod.snd

/-- The schema of the request body of an operation. -/
def requestBody? (d : Document) (o : Operation) (contentType : Option String) : Option Json := do
  let description ← d.operation? o
  let body := d.resolve requestBodiesSection (← description.get? "requestBody")
  let content ← (← body.get? "content").members?
  (← selectMedia? content contentType).get? "schema"

end Document

/-- The fields of the request body of an operation, if it has one.  Its schema stands with the paths
or the request bodies, so it is no component schema. -/
def operationTable? (d : Document) (maxDepth : Nat) (o : Operation)
    (contentType : Option String) : Option FieldTable :=
  (d.requestBody? o contentType).map fun schema => bodyTable d maxDepth (.value schema)

end ApiSurvey.Schema
