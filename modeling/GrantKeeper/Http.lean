import GrantKeeper.Encoding.Form
import GrantKeeper.Url.Reader

/-! Requests to web servers, their responses, and the network between them. -/
namespace GrantKeeper.Http

structure Header where
  name : String
  value : List UInt8
  /-- Whether the value is kept out of logs. -/
  sensitive : Bool := false
deriving DecidableEq, Repr

structure Request where
  method : String := "GET"
  url : Url
  headers : List Header := []
  body : String := ""
deriving DecidableEq, Repr

/-- A response has come in whole. Where a connection breaks within a body, a command would say that it failed
to read the response, and an error would be told with "<no body>" for the body; neither is modelled. -/
structure Response where
  status : Nat
  body : List UInt8 := []
deriving DecidableEq, Repr

/-- What carries requests to servers. A request that gets no response fails with a text. -/
structure Network (m : Type → Type) where
  send : Request → m (Except String Response)

def reasons : List (Nat × String) := [
  (100, "Continue"), (101, "Switching Protocols"), (102, "Processing"), (103, "Early Hints"),
  (200, "OK"), (201, "Created"), (202, "Accepted"), (203, "Non Authoritative Information"),
  (204, "No Content"), (205, "Reset Content"), (206, "Partial Content"), (207, "Multi-Status"),
  (208, "Already Reported"), (226, "IM Used"), (300, "Multiple Choices"),
  (301, "Moved Permanently"), (302, "Found"), (303, "See Other"), (304, "Not Modified"),
  (305, "Use Proxy"), (307, "Temporary Redirect"), (308, "Permanent Redirect"),
  (400, "Bad Request"), (401, "Unauthorized"), (402, "Payment Required"), (403, "Forbidden"),
  (404, "Not Found"), (405, "Method Not Allowed"), (406, "Not Acceptable"),
  (407, "Proxy Authentication Required"), (408, "Request Timeout"), (409, "Conflict"),
  (410, "Gone"), (411, "Length Required"), (412, "Precondition Failed"),
  (413, "Payload Too Large"), (414, "URI Too Long"), (415, "Unsupported Media Type"),
  (416, "Range Not Satisfiable"), (417, "Expectation Failed"), (418, "I\x27m a teapot"),
  (421, "Misdirected Request"), (422, "Unprocessable Entity"), (423, "Locked"),
  (424, "Failed Dependency"), (425, "Too Early"), (426, "Upgrade Required"),
  (428, "Precondition Required"), (429, "Too Many Requests"),
  (431, "Request Header Fields Too Large"), (451, "Unavailable For Legal Reasons"),
  (500, "Internal Server Error"), (501, "Not Implemented"), (502, "Bad Gateway"),
  (503, "Service Unavailable"), (504, "Gateway Timeout"), (505, "HTTP Version Not Supported"),
  (506, "Variant Also Negotiates"), (507, "Insufficient Storage"), (508, "Loop Detected"),
  (510, "Not Extended"), (511, "Network Authentication Required")]

def statusText (status : Nat) : String :=
  toString status ++ " " ++ ((reasons.find? (·.1 == status)).map (·.2)).getD "<unknown status code>"

namespace Response

def isSuccess (r : Response) : Bool := 200 ≤ r.status && r.status < 300

def text (r : Response) : String := Utf8.lossy r.body

end Response

def Request.ofForm (url : Url) (fields : List (String × String)) : Request where
  method := "POST"
  url := url
  headers := [⟨"content-type", Utf8.encode "application/x-www-form-urlencoded", false⟩]
  body := Form.encode fields

def refusal : String := "builder error"

namespace Network

variable {m : Type → Type} [Monad m]

def accepts (url : Url) : Bool := url.scheme == "http" || url.scheme == "https"

def ask (network : Network m) (request : Request) : m (Except String Response) :=
  if accepts request.url then network.send request else pure (.error refusal)

def post (network : Network m) (address : String) (fields : List (String × String)) :
    m (Except String Response) :=
  match Url.read address with
  | .ok url => network.ask (.ofForm url fields)
  | .error _ => pure (.error refusal)

def unreachable : Network m where
  send request := pure (.error ("error sending request for url (" ++ request.url.textToQuery ++ ")"))

def hoist {n : Type → Type} (move : ∀ {α}, m α → n α) (network : Network m) : Network n where
  send request := move (network.send request)

end Network
end GrantKeeper.Http
