import BuildRegistry.Http.Accept
import BuildRegistry.Json
import BuildRegistry.Text.Blank
import BuildRegistry.Text.Query

/-
  Requests to the server and its answers. A request's target is a path and a query string, both of
  characters that URIs admit; the path is taken by its segments, percent-decoded and without empty
  ones.
-/

namespace BuildRegistry.Http

inductive Method where
  | get
  | head
  | post
  | put
  | delete
  | other (name : String)
deriving DecidableEq, Repr

/-- The method of that name, whatever the case of its letters. -/
def Method.ofName (s : String) : Method :=
  let name := s.map Char.toUpper
  if name = "GET" then .get
  else if name = "HEAD" then .head
  else if name = "POST" then .post
  else if name = "PUT" then .put
  else if name = "DELETE" then .delete
  else .other s

/-- The methods without routes of their own. -/
def Method.unrouted : List String := ["OPTIONS", "TRACE", "CONNECT", "PATCH"]

def Method.isKnown : Method → Bool
  | .other name => unrouted.contains (name.map Char.toUpper)
  | _ => true

structure Request where
  method : Method
  target : String
  headers : List (String × String)
  body : String
deriving DecidableEq, Repr

/-- What an answer holds: a document, bytes, the files of an archive, the page that describes an
error, or nothing. -/
inductive Body where
  | document (j : Json)
  | bytes (b : Bytes)
  | archive (data : Bytes)
  | page (status : Nat)
  | nothing

structure Response where
  status : Nat
  contentType : String
  disposition : Option String
  body : Body

namespace Request

def isPathChar (c : Char) : Bool :=
  c.isAlphanum || ['-', '.', '_', '~', '%', '!', '$', '&', '\'', '(', ')', '*', '+', ',', ';',
    '=', ':', '@', '/', '[', ']'].contains c

def isQueryChar (c : Char) : Bool :=
  isPathChar c || ['?', '\x7b', '\x7d', '\\', '^', '`', '|'].contains c

def path (r : Request) : List Char := r.target.toList.takeWhile (· ≠ '?')

def query (r : Request) : List Char := (r.target.toList.dropWhile (· ≠ '?')).drop 1

def fields (r : Request) : Query.Fields := Query.parse r.query

def isWellFormed (r : Request) : Bool :=
  r.path.head? = some '/' && r.path.all isPathChar && r.query.all isQueryChar

def segments (r : Request) : List String :=
  ((Text.splitAt '/' r.path).filter (!·.isEmpty)).map Query.unescaped

/-- The value of the first header of that name, whatever the case of its letters. -/
def header? (r : Request) (name : String) : Option String :=
  let lower (s : String) := s.toList.map Char.toLower
  (r.headers.find? fun h => lower h.1 = lower name).map (·.2)

/-- The credential of a request. -/
def bearer? (r : Request) : Option String := do
  let value := (← r.header? "Authorization").toList
  let mark := "Bearer ".toList
  if mark.isPrefixOf value then
    let token := Text.trimChars (value.drop mark.length)
    if token.isEmpty then none else some (String.ofList token)
  else none

/-- Whether documents are wanted, errors included. -/
def prefersDocuments (r : Request) : Bool :=
  (((r.header? "Accept").bind Choice.list?).bind Choice.preferred?).any (·.type.isJson)

/-! Methods in forms -/

/-- The field of a form that names a method, and as much of the form as is looked at for it. -/
def methodField : String := "_method"

def leastForm : Nat := Bytes.lengthOf "_method=get".toList

def formPeek : Nat := Bytes.lengthOf "_method=delete".toList

def isForm (r : Request) : Bool :=
  ((r.header? "Content-Type").bind MediaType.ofText?).any (·.isForm)

/-- The method that a form asks for by its first field. -/
def formMethod? (r : Request) : Option Method := do
  let body := Bytes.ofString r.body
  if !r.isForm || r.method ≠ .post || body.length < leastForm then none
  else
    let start ← Bytes.toString? (body.take formPeek)
    let field ← (Text.splitAt '&' start.toList).find? (!·.isEmpty)
    let (name, value) ← Text.cutAt '=' field
    let method := Method.ofName (String.ofList value)
    if (Query.spellings methodField).contains (String.ofList name) && method.isKnown then
      some method
    else none

/-- The request with the method that it asks for. -/
def asMeant (r : Request) : Request := { r with method := r.formMethod?.getD r.method }

end Request

def jsonType : String := "application/json"

def textType : String := "text/plain; charset=utf-8"

def pageType : String := "text/html; charset=utf-8"

def archiveType : String := "application/gzip"

namespace Response

def document (status : Nat) (j : Json) : Response := ⟨status, jsonType, none, .document j⟩

def failure (status : Nat) (message : String) : Response :=
  document status (.object [("error", .str message)])

def withoutBody (r : Response) : Response := { r with body := .nothing }

end Response

end BuildRegistry.Http
