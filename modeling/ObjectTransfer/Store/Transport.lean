import ObjectTransfer.Collections.Headers
import ObjectTransfer.Store.Content
import ObjectTransfer.Url.Basic

/-!
# Requests to a bucket

A transport carries one request and brings back the final response, or none. A request can be made
only over the web, to a URL that is not too long and whose host is fit for a header. Statuses from
200 to 299 are good.
-/

set_option autoImplicit false

namespace ObjectTransfer

structure BucketRequest where
  method : String
  url : Url
  contentType : Option String
  body : Octets

structure BucketResponse where
  status : Nat
  headers : List (String × String)
  body : Content

/-- Why there is no response: the request could not be made, or it was not answered. -/
inductive TransportFault where
  | unbuildable (url : Url)
  | unanswered (url : Url)
  deriving DecidableEq

/-- The URL is shown as it is sent, without a login. -/
def TransportFault.message : TransportFault → String
  | .unbuildable url => "builder error for url (" ++ url.withoutLogin.text ++ ")"
  | .unanswered url => "error sending request for url (" ++ url.withoutLogin.text ++ ")"

namespace BucketRequest

def longestUrl : Nat := 65534

def isWeb (url : Url) : Bool := url.scheme == "http" || url.scheme == "https"

/-- What a domain name may hold, but not the host of a request. -/
def isUnsendable (c : Char) : Bool := ['"', '\x60', '\x7b', '\x7d'].contains c

def canSend (url : Url) : Bool :=
  isWeb url && !(url.hostText?.any fun host => host.any isUnsendable) &&
    url.withoutLogin.chars.length ≤ longestUrl

def fault (url : Url) : TransportFault :=
  if canSend url then .unanswered url else .unbuildable url

end BucketRequest

/-- Carries a request; nothing is what an interrupted connection brings back. -/
abbrev Transport (τ : Type) := BucketRequest → StateM τ (Option BucketResponse)

def Transport.unreachable {τ : Type} : Transport τ := fun _ => pure none

namespace BucketResponse

def isGood (response : BucketResponse) : Bool := 200 ≤ response.status && response.status < 300

def isReadable (c : Char) : Bool := c == '\t' || (' ' ≤ c && c ≤ '~')

/-- The first header of a name in any case, if all of it can be read. -/
def header? (response : BucketResponse) (name : String) : Option String :=
  ((response.headers.find? fun entry => Headers.sameName entry.1 name).map Prod.snd).filter
    fun value => value.toList.all isReadable

/-- A size in decimal, below 2^64; a plus sign may stand in front. -/
def sizeOf? (text : String) : Option Nat :=
  let digits := match text.toList with
    | '+' :: rest => rest
    | all => all
  if digits.isEmpty ∨ ¬ digits.all Char.isDigit then none
  else
    let value := digits.foldl (fun sum c => sum * 10 + (c.toNat - 48)) 0
    if value < UInt64.size then some value else none

def size? (response : BucketResponse) : Option Nat :=
  (response.header? "content-length").bind sizeOf?

def phrase : Nat → String
  | 100 => "Continue"
  | 101 => "Switching Protocols"
  | 102 => "Processing"
  | 200 => "OK"
  | 201 => "Created"
  | 202 => "Accepted"
  | 203 => "Non Authoritative Information"
  | 204 => "No Content"
  | 205 => "Reset Content"
  | 206 => "Partial Content"
  | 207 => "Multi-Status"
  | 208 => "Already Reported"
  | 226 => "IM Used"
  | 300 => "Multiple Choices"
  | 301 => "Moved Permanently"
  | 302 => "Found"
  | 303 => "See Other"
  | 304 => "Not Modified"
  | 305 => "Use Proxy"
  | 307 => "Temporary Redirect"
  | 308 => "Permanent Redirect"
  | 400 => "Bad Request"
  | 401 => "Unauthorized"
  | 402 => "Payment Required"
  | 403 => "Forbidden"
  | 404 => "Not Found"
  | 405 => "Method Not Allowed"
  | 406 => "Not Acceptable"
  | 407 => "Proxy Authentication Required"
  | 408 => "Request Timeout"
  | 409 => "Conflict"
  | 410 => "Gone"
  | 411 => "Length Required"
  | 412 => "Precondition Failed"
  | 413 => "Payload Too Large"
  | 414 => "URI Too Long"
  | 415 => "Unsupported Media Type"
  | 416 => "Range Not Satisfiable"
  | 417 => "Expectation Failed"
  | 418 => "I'm a teapot"
  | 421 => "Misdirected Request"
  | 422 => "Unprocessable Entity"
  | 423 => "Locked"
  | 424 => "Failed Dependency"
  | 425 => "Too Early"
  | 426 => "Upgrade Required"
  | 428 => "Precondition Required"
  | 429 => "Too Many Requests"
  | 431 => "Request Header Fields Too Large"
  | 451 => "Unavailable For Legal Reasons"
  | 500 => "Internal Server Error"
  | 501 => "Not Implemented"
  | 502 => "Bad Gateway"
  | 503 => "Service Unavailable"
  | 504 => "Gateway Timeout"
  | 505 => "HTTP Version Not Supported"
  | 506 => "Variant Also Negotiates"
  | 507 => "Insufficient Storage"
  | 508 => "Loop Detected"
  | 510 => "Not Extended"
  | 511 => "Network Authentication Required"
  | _ => "<unknown status code>"

def statusText (response : BucketResponse) : String :=
  toString response.status ++ " " ++ phrase response.status

end BucketResponse

end ObjectTransfer
