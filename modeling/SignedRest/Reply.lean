/-
Replies as they come from the network. The body is read at most once; whoever takes it releases it,
and how much of it was handed out stays known.
-/

import SignedRest.Header
import SignedRest.Text.Quoted
import SignedRest.Text.Utf8

namespace SignedRest

/-- A body that arrives in pieces. The sizes say how many bytes at most each read hands out in its
turn; the reads that come after them hand out as many as are asked for. After its last byte a body
ends, or breaks off. -/
structure Body where
  content : Bytes
  sizes : List Nat
  breaksOff : Bool
  sizes_pos : ∀ size ∈ sizes, 0 < size
deriving DecidableEq

namespace Body

/-- What was handed out, and whether the end came without a failure. -/
structure Contents where
  bytes : Bytes
  complete : Bool
deriving DecidableEq, Inhabited

/-- How many bytes the next read hands out where there is room for some. -/
def portion (body : Body) (room : Nat) : Nat :=
  let offered := match body.sizes with
    | size :: _ => min size room
    | [] => room
  min offered body.content.length

/-- What is left after a read. -/
def advance (body : Body) (count : Nat) : Body where
  content := body.content.drop count
  sizes := body.sizes.tail
  breaksOff := body.breaksOff
  sizes_pos := fun size later => body.sizes_pos size (List.mem_of_mem_tail later)

@[simp] theorem content_advance (body : Body) (count : Nat) :
    (body.advance count).content = body.content.drop count := rfl

@[simp] theorem breaksOff_advance (body : Body) (count : Nat) :
    (body.advance count).breaksOff = body.breaksOff := rfl

theorem portion_pos {body : Body} {room : Nat} (asked : room ≠ 0)
    (filled : body.content.length ≠ 0) : 0 < body.portion room := by
  rw [portion]
  split
  · rename_i size later listed
    have positive := body.sizes_pos size (listed ▸ List.mem_cons_self)
    omega
  · omega

/-- Reads until the end or until so many bytes have come. -/
def readUpTo (body : Body) (limit : Nat) : Contents :=
  if limit = 0 then ⟨[], true⟩
  else if body.content.length = 0 then ⟨[], !body.breaksOff⟩
  else
    let count := body.portion limit
    let later := readUpTo (body.advance count) (limit - count)
    ⟨body.content.take count ++ later.bytes, later.complete⟩
termination_by limit
decreasing_by
  rename_i asked filled
  have advances := portion_pos asked filled
  omega

/-- Reads to the end. -/
def readAll (body : Body) : Contents :=
  readUpTo body (body.content.length + 1)

/-- A body that is there at once and ends. -/
def whole (content : Bytes) : Body :=
  ⟨content, [], false, fun _ absent => nomatch absent⟩

end Body

/-- The body of a reply: not there, still attached, or released after some bytes were read. -/
inductive Content where
  | none
  | attached (body : Body)
  | released (read : Nat)
deriving DecidableEq

structure Reply where
  status : Nat
  statusText : String
  headers : Fields
  content : Content
deriving DecidableEq

/-- The phrases of the status codes that have one. -/
def statusPhrases : List (Nat × String) :=
  [(100, "Continue"), (101, "Switching Protocols"), (102, "Processing"), (103, "Early Hints"),
   (200, "OK"), (201, "Created"), (202, "Accepted"), (203, "Non Authoritative Information"),
   (204, "No Content"), (205, "Reset Content"), (206, "Partial Content"), (207, "Multi-Status"),
   (208, "Already Reported"), (226, "IM Used"),
   (300, "Multiple Choices"), (301, "Moved Permanently"), (302, "Found"), (303, "See Other"),
   (304, "Not Modified"), (305, "Use Proxy"), (307, "Temporary Redirect"),
   (308, "Permanent Redirect"),
   (400, "Bad Request"), (401, "Unauthorized"), (402, "Payment Required"), (403, "Forbidden"),
   (404, "Not Found"), (405, "Method Not Allowed"), (406, "Not Acceptable"),
   (407, "Proxy Authentication Required"), (408, "Request Timeout"), (409, "Conflict"),
   (410, "Gone"), (411, "Length Required"), (412, "Precondition Failed"),
   (413, "Payload Too Large"), (414, "URI Too Long"), (415, "Unsupported Media Type"),
   (416, "Range Not Satisfiable"), (417, "Expectation Failed"), (418, "I'm a teapot"),
   (421, "Misdirected Request"), (422, "Unprocessable Entity"), (423, "Locked"),
   (424, "Failed Dependency"), (425, "Too Early"), (426, "Upgrade Required"),
   (428, "Precondition Required"), (429, "Too Many Requests"),
   (431, "Request Header Fields Too Large"), (451, "Unavailable For Legal Reasons"),
   (500, "Internal Server Error"), (501, "Not Implemented"), (502, "Bad Gateway"),
   (503, "Service Unavailable"), (504, "Gateway Timeout"), (505, "HTTP Version Not Supported"),
   (506, "Variant Also Negotiates"), (507, "Insufficient Storage"), (508, "Loop Detected"),
   (510, "Not Extended"), (511, "Network Authentication Required")]

def statusPhrase (status : Nat) : String :=
  (statusPhrases.lookup status).getD ""

namespace Reply

def make (status : Nat) : Reply :=
  ⟨status, statusPhrase status, Table.empty, .none⟩

def withHeader (reply : Reply) (name value : String) : Reply :=
  { reply with headers := reply.headers.insert name.toLower value }

def header? (reply : Reply) (name : String) : Option String :=
  reply.headers.get? name.toLower

def withBody (reply : Reply) (body : Body) : Reply :=
  { reply with content := .attached body }

def isSuccess (reply : Reply) : Bool :=
  reply.status / 100 == 2

def hasContent (reply : Reply) : Bool :=
  match reply.content with
  | .attached _ => true
  | _ => false

/-- The body, if it is still attached. -/
def body? (reply : Reply) : Option Body :=
  match reply.content with
  | .attached body => some body
  | _ => none

/-- Ends the life of the body after some bytes of it were read. -/
def release (reply : Reply) (read : Nat) : Reply :=
  match reply.content with
  | .attached _ => { reply with content := .released read }
  | _ => reply

/-- A form for logs. -/
def describe (reply : Reply) : String :=
  let field (entry : String × String) : String := Text.quoted entry.1 ++ ": " ++ Text.quoted entry.2
  "BceHttpResponse \x7b status_code: " ++ toString reply.status ++ ", status_text: " ++
    Text.quoted reply.statusText ++ ", headers: \x7b" ++
    ", ".intercalate (reply.headers.entries.map field) ++ "\x7d, has_content: " ++
    toString reply.hasContent ++ " \x7d"

end Reply

end SignedRest
