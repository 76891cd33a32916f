import EnclaveProvenance.Fault
import EnclaveProvenance.Url.Basic

/-!
Requests over HTTP. A network is what answers them; a request that it leaves without an answer could
not be sent.
-/

namespace EnclaveProvenance.Retrieval

structure Response where
  status : Nat
  body : Bytes
deriving DecidableEq, Repr

abbrev Network := Url → Option Response

def disconnected : Network := fun _ => none

def reasons : List (Nat × String) := [
  (100, "Continue"), (101, "Switching Protocols"), (102, "Processing"),
  (300, "Multiple Choices"), (301, "Moved Permanently"), (302, "Found"), (303, "See Other"),
  (304, "Not Modified"), (305, "Use Proxy"), (307, "Temporary Redirect"),
  (308, "Permanent Redirect"), (400, "Bad Request"), (401, "Unauthorized"),
  (402, "Payment Required"), (403, "Forbidden"), (404, "Not Found"), (405, "Method Not Allowed"),
  (406, "Not Acceptable"), (407, "Proxy Authentication Required"), (408, "Request Timeout"),
  (409, "Conflict"), (410, "Gone"), (411, "Length Required"), (412, "Precondition Failed"),
  (413, "Payload Too Large"), (414, "URI Too Long"), (415, "Unsupported Media Type"),
  (416, "Range Not Satisfiable"), (417, "Expectation Failed"), (418, "I'm a teapot"),
  (421, "Misdirected Request"), (422, "Unprocessable Entity"), (423, "Locked"),
  (424, "Failed Dependency"), (425, "Too Early"), (426, "Upgrade Required"),
  (428, "Precondition Required"), (429, "Too Many Requests"),
  (431, "Request Header Fields Too Large"), (451, "Unavailable For Legal Reasons"),
  (500, "Internal Server Error"), (501, "Not Implemented"), (502, "Bad Gateway"),
  (503, "Service Unavailable"), (504, "Gateway Timeout"), (505, "HTTP Version Not Supported"),
  (506, "Variant Also Negotiates"), (507, "Insufficient Storage"), (508, "Loop Detected"),
  (510, "Not Extended"), (511, "Network Authentication Required")]

def isSuccess (status : Nat) : Bool := 200 ≤ status && status < 300

/-- Whether a host can be asked: its characters are those of a request line. -/
def isAskable (host : String) : Bool :=
  host.toList.all fun character => !"\"\x60\x7b\x7d".toList.contains character

def requestUrl (text : String) : Except RequestDefect Url :=
  match Url.read? text with
  | none => .error (.builder none)
  | some url =>
    if (url.scheme = "http" ∨ url.scheme = "https") ∧ url.host.all isAskable then .ok url
    else .error (.builder (some url.text))

def get (network : Network) (text : String) : Except Fault Bytes := do
  let url ← (requestUrl text).mapError .request
  let some response := network url | throw (.request (.sending url.text))
  if isSuccess response.status then return response.body
  throw (.answer (.status text response.status (reasons.lookup response.status)))

end EnclaveProvenance.Retrieval
