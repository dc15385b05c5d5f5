import Mathlib.Algebra.GroupWithZero.Nat
import Mathlib.Algebra.Order.Ring.Int
import ServerPilot.Lib.Coroutine

/-!
# The limit on a request's body

`RequestBodyLimitMiddleware` reads the messages of a request up to the end of its body, refuses
with one 413 when too many bytes are declared or come, and hands the app a channel that gives the
messages read again and then goes on with the live one.
-/

namespace ServerPilot.Api

open Coroutine

abbrev Bytes := List UInt8

/-! ## `int` of bytes -/

/-- `Py_ISSPACE`. -/
def isByteSpace (b : UInt8) : Bool := b ∈ [9, 10, 11, 12, 13, 32]

def stripBytes (bs : Bytes) : Bytes :=
  ((bs.dropWhile isByteSpace).reverse.dropWhile isByteSpace).reverse

def isByteDigit (b : UInt8) : Bool := 48 ≤ b && b ≤ 57

/-- Decimal digits, with single underscores between them. -/
def byteDigits : Bytes → Option (List ℕ)
  | [] => none
  | [d] => if isByteDigit d then some [d.toNat - 48] else none
  | d :: e :: rest =>
    if isByteDigit d then
      let digits := if e = 95 then byteDigits rest else byteDigits (e :: rest)
      digits.map fun ds => (d.toNat - 48) :: ds
    else none

/-- `sys.int_info.default_max_str_digits`. -/
def maxStrDigits : ℕ := 4300

/-- `int(bytes)`; `none` is a `ValueError`. -/
def intOfBytes (bs : Bytes) : Option ℤ :=
  let text := stripBytes bs
  let digits := if text.head? = some 43 ∨ text.head? = some 45 then text.tail else text
  (byteDigits digits).bind fun ds =>
    if ds.length ≤ maxStrDigits then
      let n : ℕ := ds.foldl (fun n d => 10 * n + d) 0
      some (if text.head? = some 45 then -n else n)
    else none

/-! ## Requests -/

structure Scope where
  type : Option String
  headers : List (Bytes × Bytes) := []
  deriving DecidableEq, Repr

/-- A message of the channel: its type, and the keys of an `http.request`. -/
structure Message where
  type : Option String
  body : Option Bytes := none
  moreBody : Option Bool := none
  deriving DecidableEq, Repr

def Message.isRequest (m : Message) : Bool := m.type = some "http.request"

/-- `len(message.get("body", b""))`. -/
def Message.length (m : Message) : ℕ := (m.body.getD []).length

/-- Whether the loop asks for another message after this one. -/
def Message.continues (m : Message) : Bool := m.isRequest && m.moreBody.getD false

/-- `bytes.lower`. -/
def lowerBytes (bs : Bytes) : Bytes := bs.map fun b => if 65 ≤ b && b ≤ 90 then b + 32 else b

def contentLengthKey : Bytes := "content-length".toList.map fun c => UInt8.ofNat c.toNat

/-- `headers.get(b"content-length")`: of headers with the same key the last one stays. -/
def Scope.contentLength (s : Scope) : Option Bytes :=
  ((s.headers.filter fun h => lowerBytes h.1 = contentLengthKey).getLast?).map Prod.snd

/-- `declared_length`. -/
def Scope.declaredLength (s : Scope) : Option ℤ := s.contentLength.bind intOfBytes

/-- The declared length is a number, and more than is allowed. -/
def Scope.declaresTooMuch (s : Scope) (maxBytes : ℕ) : Bool :=
  s.declaredLength.any fun n => decide ((maxBytes : ℤ) < n)

/-! ## The middleware -/

/-- What the middleware answers itself. -/
structure Response where
  statusCode : ℕ
  code : String
  message : String
  deriving DecidableEq, Repr

/-- `_reject`. -/
def reject : Response where
  statusCode := 413
  code := "body_too_large"
  message := "请求内容过大。"

/-- What became of reading the body; `live` is what is left of the channel. -/
inductive BodyRead
  | tooLarge
  | buffered (messages live : List Message)
  | waiting (messages : List Message)
  deriving DecidableEq, Repr

/-- The loop that buffers the body: `received` bytes and the `messages` so far. -/
def readBody (maxBytes : ℕ) : ℕ → List Message → List Message → BodyRead
  | _, messages, [] => .waiting messages
  | received, messages, message :: live =>
    let received := if message.isRequest then received + message.length else received
    if message.isRequest ∧ maxBytes < received then .tooLarge
    else if message.continues then readBody maxBytes received (messages ++ [message]) live
    else .buffered (messages ++ [message]) live

/-- The channel of a server: the messages that come, in order. After them a call waits. -/
def receive : List Message → Option (Message × List Message)
  | [] => none
  | message :: live => some (message, live)

/-- `replay_receive`: what the iterator still has, then the live channel. -/
def replayReceive : List Message × List Message → Option (Message × (List Message × List Message))
  | (message :: messages, live) => some (message, (messages, live))
  | ([], live) => (receive live).map fun x => (x.1, ([], x.2))

/-- What a call of the middleware came to: the answers it gave itself, and the channel the app was
called with, if it was. -/
structure Handled where
  answers : List Response := []
  app : Option (List Message × List Message) := none
  deriving DecidableEq, Repr

/-- `RequestBodyLimitMiddleware.__call__`; outside HTTP the app has the channel as it is. -/
def requestBodyLimit (maxBytes : ℕ) (scope : Scope) (channel : List Message) : Handled :=
  if scope.type ≠ some "http" then { app := some ([], channel) }
  else if scope.declaresTooMuch maxBytes then { answers := [reject] }
  else
    match readBody maxBytes 0 [] channel with
    | .tooLarge => { answers := [reject] }
    | .buffered messages live => { app := some (messages, live) }
    | .waiting _ => {}

/-! ## The body of a channel -/

/-- The messages up to the end of the body: the first one after which no more is announced, or
which is no part of a body. -/
def bodyMessages (channel : List Message) : List Message :=
  channel.takeWhile Message.continues ++ (channel.dropWhile Message.continues).take 1

/-- The bytes received with the body. -/
def bodyReceived (channel : List Message) : ℕ :=
  ((bodyMessages channel).map fun m => if m.isRequest then m.length else 0).sum

/-- The body ends, or the client disconnects in it. -/
def bodyEnds (channel : List Message) : Bool := channel.any fun m => !m.continues

end ServerPilot.Api
