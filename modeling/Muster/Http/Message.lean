/-
  HTTP messages, as far as a health store needs them.

  A request names a path, and a query as a list of pairs: how the two are written into one text is the
  client's business.  A response is a status, headers and a body.
-/
import Muster.Duration
import Muster.Json.Basic

namespace Muster.Http

/-- The methods in use. -/
inductive Method where
  | get | put
deriving DecidableEq, Repr

/-- The name of a method. -/
def Method.text : Method → String
  | get => "GET"
  | put => "PUT"

/-- **A request.** -/
structure Request where
  method : Method
  /-- The URL up to the query. -/
  url : String
  query : List (String × String) := []
  body : Option Json := none
  /-- How long the client waits for the response; for ever if `none`. -/
  limit : Option Duration := none

/-- **A response.** -/
structure Response where
  status : Nat
  headers : List (String × ByteArray)
  body : ByteArray

/-- The words that go with a status. -/
def reasons : List (Nat × String) :=
  [(100, "Continue"), (101, "Switching Protocols"), (102, "Processing"), (103, "Early Hints"),
    (200, "OK"), (201, "Created"), (202, "Accepted"), (203, "Non Authoritative Information"),
    (204, "No Content"), (205, "Reset Content"), (206, "Partial Content"), (207, "Multi-Status"),
    (208, "Already Reported"), (226, "IM Used"), (300, "Multiple Choices"),
    (301, "Moved Permanently"), (302, "Found"), (303, "See Other"), (304, "Not Modified"),
    (305, "Use Proxy"), (307, "Temporary Redirect"), (308, "Permanent Redirect"),
    (400, "Bad Request"), (401, "Unauthorized"), (402, "Payment Required"), (403, "Forbidden"),
    (404, "Not Found"), (405, "Method Not Allowed"), (406, "Not Acceptable"),
    (407, "Proxy Authentication Required"), (408, "Request Timeout"), (409, "Conflict"),
    (410, "Gone"), (411, "Length Required"), (412, "Precondition Failed"),
    (413, "Payload Too Large"), (414, "URI Too Long"), (415, "Unsupported Media Type"),
    (416, "Range Not Satisfiable"), (417, "Expectation Failed"), (418, "I\x27m a teapot"),
    (421, "Misdirected Request"), (422, "Unprocessable Entity"), (423, "Locked"),
    (424, "Failed Dependency"), (425, "Too Early"), (426, "Upgrade Required"),
    (428, "Precondition Required"), (429, "Too Many Requests"),
    (431, "Request Header Fields Too Large"), (451, "Unavailable For Legal Reasons"),
    (500, "Internal Server Error"), (501, "Not Implemented"), (502, "Bad Gateway"),
    (503, "Service Unavailable"), (504, "Gateway Timeout"), (505, "HTTP Version Not Supported"),
    (506, "Variant Also Negotiates"), (507, "Insufficient Storage"), (508, "Loop Detected"),
    (510, "Not Extended"), (511, "Network Authentication Required")]

/-- How a status is shown. -/
def statusText (status : Nat) : String :=
  Decimal.ofInt status ++ " " ++ (reasons.lookup status).getD "<unknown status code>"

/-- Whether a status says that the request failed. -/
def isFailure (status : Nat) : Bool := 400 ≤ status && status < 600

/-- The value of a header, whose name is spelled in any case. -/
def Response.header? (r : Response) (name : String) : Option ByteArray :=
  (r.headers.find? fun h => h.1.toList.map Char.toLower == name.toList.map Char.toLower).map (·.2)

/-- **A network**: what it makes of a request. -/
abbrev Network := Request → Except String Response

/-- The network in which nothing can be reached. -/
def Network.down : Network := fun _ => .error "error sending request"

end Muster.Http
