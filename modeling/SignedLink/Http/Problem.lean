import SignedLink.Http.Headers
import SignedLink.Value.Numeral
/-!
# SignedLink — problems

An answer that tells of a problem has a status, a message, a code of its own
and particulars. The code is the status unless another one is given, and a
problem without a message is described by the standard words of its status.
-/

namespace SignedLink.Http

/-- The standard words of the status codes. -/
def reasons : List (Int × String) :=
  [(100, "Continue"), (101, "Switching Protocols"), (102, "Processing"), (103, "Early Hints"),
    (200, "OK"), (201, "Created"), (202, "Accepted"), (203, "Non-Authoritative Information"),
    (204, "No Content"), (205, "Reset Content"), (206, "Partial Content"), (207, "Multi-Status"),
    (208, "Already Reported"), (226, "IM Used"), (300, "Multiple Choices"),
    (301, "Moved Permanently"), (302, "Found"), (303, "See Other"), (304, "Not Modified"),
    (305, "Use Proxy"), (307, "Temporary Redirect"), (308, "Permanent Redirect"),
    (400, "Bad Request"), (401, "Unauthorized"), (402, "Payment Required"), (403, "Forbidden"),
    (404, "Not Found"), (405, "Method Not Allowed"), (406, "Not Acceptable"),
    (407, "Proxy Authentication Required"), (408, "Request Timeout"), (409, "Conflict"),
    (410, "Gone"), (411, "Length Required"), (412, "Precondition Failed"),
    (413, "Request Entity Too Large"), (414, "Request-URI Too Long"),
    (415, "Unsupported Media Type"), (416, "Requested Range Not Satisfiable"),
    (417, "Expectation Failed"), (418, "I'm a Teapot"), (421, "Misdirected Request"),
    (422, "Unprocessable Entity"), (423, "Locked"), (424, "Failed Dependency"), (425, "Too Early"),
    (426, "Upgrade Required"), (428, "Precondition Required"), (429, "Too Many Requests"),
    (431, "Request Header Fields Too Large"), (451, "Unavailable For Legal Reasons"),
    (500, "Internal Server Error"), (501, "Not Implemented"), (502, "Bad Gateway"),
    (503, "Service Unavailable"), (504, "Gateway Timeout"), (505, "HTTP Version Not Supported"),
    (506, "Variant Also Negotiates"), (507, "Insufficient Storage"), (508, "Loop Detected"),
    (510, "Not Extended"), (511, "Network Authentication Required")]

/-- The standard words of a status; an unknown status has none. -/
def reason (status : Int) : String :=
  (reasons.lookup status).getD ""

/-- What an answer tells about a problem. -/
structure Problem where
  status : Int
  message : Value
  code : Int
  requestId : Value
  details : Value
  headers : Option (List (String × Value))

namespace Problem

/-- A problem with a code of any kind; a code that is not set is the status. -/
def make (status : Int) (message code requestId details : Value)
    (headers : Option (List (String × Value))) : Except Fault Problem :=
  (if code.isTruthy then code.toInteger else .ok status).map fun code =>
    { status, message, code, requestId, details, headers }

/-- The names of what a problem is made from, those first that have to be given. -/
def requiredNames : List String := ["status_code", "message"]
def optionalNames : List String := ["code", "request_id", "details", "headers"]

/-- The name under which problems are made. -/
def maker : String := "AppException.__init__()"
def unavailableMaker : String := "ProviderUnavailableException.__init__()"

/-- Values under names that are all among some. -/
def checkedNames (maker : String) (known : List String) (given : Fields) : Except Fault Unit :=
  match (given.map (·.1)).find? fun name => !known.contains name with
  | some name => .error (.unexpectedArgument maker name)
  | none => .ok ()

/-- A problem from values under names. -/
def ofFields (given : Fields) : Except Fault Problem := do
  checkedNames maker (requiredNames ++ optionalNames) given
  let missing := requiredNames.filter fun name => (Fields.find? given name).isNone
  unless missing.isEmpty do .error (.missingArguments maker missing)
  let status ← (given.get "status_code").toInteger
  make status (given.get "message") (given.get "code") (given.get "request_id")
    (given.get "details") (given.get "headers").fields?

/-- A problem with a message and the status as its code. -/
def of (status : Int) (message : String) (headers : Option (List (String × Value))) : Problem where
  status := status
  message := .text message
  code := status
  requestId := .null
  details := .null
  headers := headers

/-- There is no configuration to sign with. -/
def unavailable (requestId : Value) : Problem :=
  { of 503 "CDN redirect unavailable" none with requestId := requestId }

/-- That there is no configuration, from values under names. -/
def unavailableOfFields (given : Fields) : Except Fault Problem :=
  (checkedNames unavailableMaker ["request_id"] given).map fun () =>
    unavailable (given.get "request_id")

/-- The description: the message, or the standard words of the status. -/
def detail (p : Problem) : Value :=
  if p.message.isNull then .text (reason p.status) else p.message

/-- The name of the request, or another one, or a mark that there is none. -/
def shownRequestId (p : Problem) (fallback : Value) : Value :=
  if p.requestId.isTruthy then p.requestId
  else if fallback.isTruthy then fallback
  else .text "N/A"

/-- The document that tells of the problem. -/
def document (p : Problem) (fallback : Value) : Fields :=
  [("error", .boolean true), ("message", p.message), ("code", .integer p.code),
      ("request_id", p.shownRequestId fallback)] ++
    if p.details.isNull then [] else [("details", p.details)]

/-- The problem in one line. -/
def text (p : Problem) : String :=
  String.ofList (Text.decimal p.status) ++ ": " ++ p.detail.plain

end Problem

end SignedLink.Http
