import RobotRaconteurLite.Connection
import RobotRaconteurLite.Scanners

/-!
# URLs (`url.c`)

`robotraconteurlite_url_parse` goes through a URL with one index: the scheme, the
host in brackets or without, the port, the path and the parameters of the query.
What a host and a port mean is found out on copies in buffers on the stack, and
what reads them there looks for a NUL. A copy without one is `undefined`, as is an
index that is not below the length.

Name resolution, socket addresses and the ranges of `long` and `unsigned long` are
the platform's.
-/

namespace RobotRaconteurLite

open IndexScan

/-- What `fill_sockaddr` and `fill_sockaddr6` are given. A port is what `htons` was given. -/
inductive SocketAddr
  | ip4 (ipAddr : List UInt8) (port : UInt16)
  | ip6 (ipAddr : List UInt8) (port : UInt16) (scopeid : UInt32)
  deriving DecidableEq, Repr

/-- The platform, with the layout of its socket addresses. The texts are what stands before the
NUL. -/
structure UrlPlatform where
  fillSockaddr : SocketAddr → List UInt8
  inetPton : List UInt8 → Option (List UInt8)
  inetPton6 : List UInt8 → Option (List UInt8)
  ifNametoindex : List UInt8 → UInt32
  longMax : Nat
  ulongBits : Nat

/-! ## Characters -/

def isNumericChar (c : UInt8) : Bool := 48 ≤ c && c ≤ 57

def isAlphaNumeric (c : UInt8) : Bool :=
  (65 ≤ c && c ≤ 90) || (97 ≤ c && c ≤ 122) || isNumericChar c

/-- With `.`, `+` and `-`. -/
def isSchemeChar (c : UInt8) : Bool := isAlphaNumeric c || [46, 43, 45].contains c

/-- With `.` and `-`. -/
def isHostnameChar (c : UInt8) : Bool := isAlphaNumeric c || [46, 45].contains c

/-- With `.`, `-`, `%`, `_` and `:`. -/
def isIpv6Char (c : UInt8) : Bool := isAlphaNumeric c || [46, 45, 37, 95, 58].contains c

/-- With `.-_~!$&'()*+:,;=?@/`. -/
def isPathChar (c : UInt8) : Bool :=
  isAlphaNumeric c || [46, 45, 95, 126, 33, 36, 38, 39, 40, 41, 42, 43, 58, 44, 59, 61, 63, 64,
    47].contains c

/-- `/` or `?`, where the path starts. -/
def isPathStart (c : UInt8) : Bool := c == 47 || c == 63

/-- `:`, `/` or `?`, where a host name ends. -/
def isHostEnd (c : UInt8) : Bool := c == 58 || isPathStart c

/-! ## Text on the stack -/

/-- A text in a zeroed buffer of a size that it fits in, as far as its NUL. -/
def stackText (size : Nat) (text : List UInt8) : Result (List UInt8) :=
  let tempBuf := text ++ List.replicate (size - text.length) 0
  if (0 : UInt8) ∈ tempBuf then .ok (tempBuf.takeWhile (· ≠ 0)) else .error .undefined

/-- The value of decimal digits. -/
def decimalValue (digits : List UInt8) : Nat :=
  digits.foldl (fun n c => n * 10 + (c.toNat - 48)) 0

/-- `strtol` in base 10: the number, or nothing where there is none or `errno` is set. -/
def strtol10 (longMax : Nat) (text : List UInt8) : Option Int :=
  let (negative, text) := splitSign (text.dropWhile isSpace)
  let digits := text.takeWhile isNumericChar
  let n := decimalValue digits
  if digits = [] then none
  else if negative then if n > longMax + 1 then none else some (-n)
  else if n > longMax then none
  else some n

/-! ## What a URL says -/

/-- What the host and the port say, and the index behind them. -/
structure UrlHost where
  socketAddr : SocketAddr
  flags : BitVec 32
  pathStart : Nat

/-- What the parameters say. -/
structure UrlQuery where
  serviceName : List UInt8
  nodename : List UInt8
  nodeid : NodeId

/-! ## The port -/

/-- The number that `parse_port` finds between the colon and the path. -/
def parsePortNumber (platform : UrlPlatform) (url : List UInt8) (portStart slashDelim : Nat) :
    Result UInt16 :=
  if slashDelim - portStart ≥ 80 then throw .invalidArgument
  else do
    let text ← readRange .undefined url portStart (slashDelim - portStart)
    let tempBuf ← stackText 80 text
    match strtol10 platform.longMax tempBuf with
    | none => throw .invalidArgument
    | some port => if port > 0xFFFFF then throw .invalidArgument else pure (UInt16.ofInt port)

/-- `parse_port`, with the index behind the port. -/
def parsePort (platform : UrlPlatform) (url : List UInt8) (i : Nat) : Result (UInt16 × Nat) := do
  let c ← readAt .undefined url i
  if isPathStart c then pure (0, i)
  else if c = 58 then
    match ← scan .undefined (breakStep .invalidArgument isPathStart isNumericChar) url
        (url.length - (i + 1)) (i + 1) () with
    | (none, _) => throw .invalidArgument
    | (some slashDelim, _) => do
        let port ← parsePortNumber platform url (i + 1) slashDelim
        pure (port, slashDelim)
  else throw .invalidArgument

/-! ## The scheme -/

/-- The body of the loop that looks for the colon. -/
def urlSchemeStep (url : List UInt8) (i : Nat) (c : UInt8) (_ : Unit) : Step Status Unit :=
  if c = 58 then
    if i = 0 then .fail .invalidArgument
    else if url.length < i + 3 then .fail .invalidArgument
    else
      match readAt .undefined url (i + 1) with
      | .error e => .fail e
      | .ok c =>
          if c ≠ 47 then .fail .invalidArgument
          else
            match readAt .undefined url (i + 2) with
            | .error e => .fail e
            | .ok c => if c ≠ 47 then .fail .invalidArgument else .stop
  else if isSchemeChar c then .next ()
  else .fail .invalidArgument

/-- The index behind the scheme. -/
def urlParseScheme (url : List UInt8) : Result Nat := do
  match ← scan .undefined (urlSchemeStep url) url url.length 0 () with
  | (none, _) => throw .invalidArgument
  | (some i, _) => pure (i + 3)

/-! ## The host -/

/-- The body of the loop that looks for the closing bracket. It keeps where the scope starts. -/
def urlIpv6Step (i : Nat) (c : UInt8) (scopeDelim : Nat) : Step Status Nat :=
  if c = 93 then .stop
  else
    let scopeDelim := if c = 37 then i else scopeDelim
    if isIpv6Char c then .next scopeDelim else .fail .invalidArgument

/-- The scope id behind `%`: a number, or the name of an interface. -/
def urlScopeId (platform : UrlPlatform) (url : List UInt8) (scopeDelim ipv6End : Nat) :
    Result UInt32 :=
  if scopeDelim = 0 then pure 0
  else if ipv6End - scopeDelim < 2 then throw .invalidArgument
  else if ipv6End - scopeDelim - 1 ≥ 80 then throw .invalidArgument
  else do
    let text ← readRange .undefined url (scopeDelim + 1) (ipv6End - scopeDelim - 1)
    let tempBuf ← stackText 80 text
    match strtol10 platform.longMax tempBuf with
    | some scope => pure (UInt32.ofInt scope)
    | none => pure (platform.ifNametoindex tempBuf)

/-- A host in brackets. -/
def urlParseIpv6 (platform : UrlPlatform) (url : List UInt8) (k : Nat) : Result UrlHost := do
  match ← scan .undefined urlIpv6Step url (url.length - (k + 1)) (k + 1) 0 with
  | (none, _) => throw .invalidArgument
  | (some ipv6End, scopeDelim) =>
      if ipv6End + 1 ≥ url.length then throw .invalidArgument
      else if ipv6End - (k + 1) > 80 then throw .invalidArgument
      else do
        let addrEnd := if scopeDelim = 0 then ipv6End else scopeDelim
        let text ← readRange .undefined url (k + 1) (addrEnd - k - 1)
        let tempBuf ← stackText 80 text
        match platform.inetPton6 tempBuf with
        | none => throw .invalidArgument
        | some sin6Addr => do
            let sin6ScopeId ← urlScopeId platform url scopeDelim ipv6End
            let (sin6Port, i) ← parsePort platform url (ipv6End + 1)
            pure ⟨.ip6 sin6Addr sin6Port sin6ScopeId, ADDR_FLAGS_SOCKADDR_VALID, i⟩

/-- A host name, or an address with dots. The address of a name is zero. -/
def urlParseHostname (platform : UrlPlatform) (url : List UInt8) (k : Nat) : Result UrlHost := do
  match ← scan .undefined (breakStep .invalidArgument isHostEnd isHostnameChar) url
      (url.length - k) k () with
  | (none, _) => throw .invalidArgument
  | (some hostEnd, _) =>
      if hostEnd - k > 120 then throw .invalidArgument
      else do
        let text ← readRange .undefined url k (hostEnd - k)
        let tempBuf ← stackText 120 text
        let (sinAddr, flags) := match platform.inetPton tempBuf with
          | some sinAddr => (sinAddr, ADDR_FLAGS_SOCKADDR_VALID)
          | none => (List.replicate 4 0, 0)
        let (sinPort, i) ← parsePort platform url hostEnd
        pure ⟨.ip4 sinAddr sinPort, flags, i⟩

/-- The host, and the port behind it. -/
def urlParseHost (platform : UrlPlatform) (url : List UInt8) (k : Nat) : Result UrlHost := do
  let c ← readAt .undefined url k
  if c = 91 then urlParseIpv6 platform url k else urlParseHostname platform url k

/-! ## The query -/

/-- Whether a parameter with its `=` at `paramEq` has the name. -/
def urlParamIs (url : List UInt8) (paramStart paramEq : Nat) (name : List UInt8) : Result Bool :=
  if paramEq - paramStart = name.length then do
    let text ← readRange .undefined url paramStart name.length
    pure (text == name)
  else pure false

/-- `service`. -/
def URL_PARAM_SERVICE : List UInt8 := [0x73, 0x65, 0x72, 0x76, 0x69, 0x63, 0x65]

/-- `nodename`. -/
def URL_PARAM_NODENAME : List UInt8 := [0x6e, 0x6f, 0x64, 0x65, 0x6e, 0x61, 0x6d, 0x65]

/-- `nodeid`. -/
def URL_PARAM_NODEID : List UInt8 := [0x6e, 0x6f, 0x64, 0x65, 0x69, 0x64]

/-- A parameter that ends at `i`. One with an empty value says nothing. -/
def urlFinishParam (platform : UrlPlatform) (url : List UInt8) (i paramStart paramEq : Nat)
    (query : UrlQuery) : Result UrlQuery :=
  if paramEq = 0 then throw .invalidArgument
  else do
    let value := (url.drop (paramEq + 1)).take (i - paramEq - 1)
    let there : Bool := i - paramEq > 1
    let isService ← urlParamIs url paramStart paramEq URL_PARAM_SERVICE
    let query := if isService && there then { query with serviceName := value } else query
    let isNodename ← urlParamIs url paramStart paramEq URL_PARAM_NODENAME
    let query := if isNodename && there then { query with nodename := value } else query
    let isNodeid ← urlParamIs url paramStart paramEq URL_PARAM_NODEID
    if isNodeid && there then
      match nodeidParse platform.ulongBits value query.nodeid with
      | (.ok (), nodeid) => pure { query with nodeid := nodeid }
      | (.error _, _) => throw .invalidArgument
    else pure query

/-- What the loop over the parameters carries. -/
structure UrlParamState where
  paramStart : Nat
  paramEq : Nat
  query : UrlQuery

/-- The body of the loop over the parameters, before the end of the string. -/
def urlParamStep (platform : UrlPlatform) (url : List UInt8) (i : Nat) (c : UInt8)
    (s : UrlParamState) : Step Status UrlParamState :=
  if c = 38 then
    match urlFinishParam platform url i s.paramStart s.paramEq s.query with
    | .error e => .fail e
    | .ok query => .next ⟨i + 1, 0, query⟩
  else if c = 61 then .next { s with paramEq := i }
  else .next s

/-- The parameters of the query of a path. A `?` at the very end starts none. -/
def urlParseQuery (platform : UrlPlatform) (url : List UInt8) (k : Nat) : Result UrlQuery := do
  match ← scan .undefined (breakStep .invalidArgument (· == 63) fun _ => true) url
      (url.length - 1 - k) k () with
  | (none, _) => pure ⟨[], [], .any⟩
  | (some i, _) =>
      let queryStart := i + 1
      let (_, s) ← scan .undefined (urlParamStep platform url) url (url.length - queryStart)
        queryStart ⟨queryStart, 0, ⟨[], [], .any⟩⟩
      urlFinishParam platform url url.length s.paramStart s.paramEq s.query

/-! ## The URL -/

/-- `robotraconteurlite_url_parse`, with the address where it succeeds. -/
def urlParse (platform : UrlPlatform) (url : List UInt8) : Result Addr := do
  let k ← urlParseScheme url
  let host ← urlParseHost platform url k
  let _ ← scan .undefined (breakStep .invalidArgument (fun _ => false) isPathChar) url
    (url.length - host.pathStart) host.pathStart ()
  let query ← urlParseQuery platform url host.pathStart
  pure {
    scheme := url.take k
    socketAddr := platform.fillSockaddr host.socketAddr
    nodeid := query.nodeid
    nodename := query.nodename
    serviceName := query.serviceName
    flags := host.flags
    httpHost := (url.drop k).take (host.pathStart - k)
    httpPath := url.drop host.pathStart }

end RobotRaconteurLite
