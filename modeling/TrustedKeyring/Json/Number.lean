import TrustedKeyring.Json.Fault

/-!
# JSON numbers

The grammar of numbers, and the numbers that are too large for a double-precision value.  A number
is read with as many leading digits as fit 64 bits and a power of ten for the rest.
-/

namespace TrustedKeyring.Json.Number

def isDigit (c : Char) : Bool :=
  '0' ≤ c && c ≤ '9'

def digitValue (c : Char) : Nat :=
  c.toNat - 48

def maxSignificand : Nat := 0xFFFFFFFFFFFFFFFF

/-- The nearest number with at most 53 significant bits; of two, the one with an even last bit. -/
def roundTo53 (n : Nat) : Nat :=
  let unit := Nat.pow 2 (n.log2 + 1 - 53)
  let low := n / unit * unit
  let excess := n - low
  if 2 * excess < unit then low
  else if unit < 2 * excess then low + unit
  else if n / unit % 2 = 0 then low else low + unit

def infinityBound : Nat := Nat.pow 2 1024 - Nat.pow 2 970

def overflows (significand : Nat) (exponent : Int) : Bool :=
  if significand = 0 ∨ exponent < 0 then false
  -- the largest power of ten below infinity has the exponent 308
  else if 308 < exponent then true
  else infinityBound ≤ roundTo53 significand * roundTo53 (Nat.pow 10 exponent.toNat)

def inRange (significand : Nat) (exponent : Int) : Except Fault Unit :=
  if overflows significand exponent then .error .malformed else .ok ()

def exponentDigits (significand : Nat) (exponent : Int) (negative : Bool) (text : List Char) :
    Except Fault Unit :=
  match text with
  | [] => .error .truncated
  | c :: _ =>
    if isDigit c then
      let power : Int := (text.takeWhile isDigit).foldl (fun n d => 10 * n + digitValue d) 0
      inRange significand (if negative then exponent - power else exponent + power)
    else .error .malformed

def exponentPart (significand : Nat) (exponent : Int) (text : List Char) : Except Fault Unit :=
  match text with
  | '+' :: rest => exponentDigits significand exponent false rest
  | '-' :: rest => exponentDigits significand exponent true rest
  | rest => exponentDigits significand exponent false rest

def afterDigits (significand : Nat) (exponent : Int) : List Char → Except Fault Unit
  | 'e' :: rest => exponentPart significand exponent rest
  | 'E' :: rest => exponentPart significand exponent rest
  | _ => inRange significand exponent

/-- Reads fraction digits while the significand has room; the digits after that are dropped. -/
def fractionDigits (significand : Nat) (exponent : Int) : List Char → Except Fault Unit
  | [] => inRange significand exponent
  | c :: rest =>
    if !isDigit c then afterDigits significand exponent (c :: rest)
    else if maxSignificand < 10 * significand + digitValue c then
      afterDigits significand exponent (rest.dropWhile isDigit)
    else fractionDigits (10 * significand + digitValue c) (exponent - 1) rest

def fractionPart (significand : Nat) (exponent : Int) (text : List Char) : Except Fault Unit :=
  match text with
  | [] => .error .truncated
  | c :: _ =>
    if !isDigit c then .error .malformed
    else if maxSignificand < 10 * significand + digitValue c then
      afterDigits significand exponent (text.dropWhile isDigit)
    else fractionDigits significand exponent text

def integerDigits (significand : Nat) : List Char → Except Fault Unit
  | [] => inRange significand 0
  | c :: rest =>
    if c = '.' then fractionPart significand 0 rest
    else if !isDigit c then afterDigits significand 0 (c :: rest)
    else if maxSignificand < 10 * significand + digitValue c then
      -- the significand is full: the digits from here on only raise the exponent
      let dropped : Int := ((c :: rest).takeWhile isDigit).length
      match (c :: rest).dropWhile isDigit with
      | '.' :: rest => fractionPart significand dropped rest
      | rest => afterDigits significand dropped rest
    else integerDigits (10 * significand + digitValue c) rest

def unsigned : List Char → Except Fault Unit
  | [] => .error .truncated
  | '0' :: c :: rest =>
    if isDigit c then .error .malformed else integerDigits 0 (c :: rest)
  | c :: rest => if isDigit c then integerDigits 0 (c :: rest) else .error .malformed

/-- Passes over a number of which only the grammar matters, without its sign.  A number that the
text cuts short breaks the grammar. -/
def skip (text : List Char) : Except Fault (List Char) :=
  let afterInteger : Except Fault (List Char) :=
    match text with
    | '0' :: c :: rest => if isDigit c then .error .malformed else .ok (c :: rest)
    | c :: rest => if isDigit c then .ok (rest.dropWhile isDigit) else .error .malformed
    | [] => .error .malformed
  let digits (text : List Char) : Except Fault (List Char) :=
    match text with
    | c :: rest => if isDigit c then .ok (rest.dropWhile isDigit) else .error .malformed
    | [] => .error .malformed
  let exponent (text : List Char) : Except Fault (List Char) :=
    match text with
    | '+' :: rest => digits rest
    | '-' :: rest => digits rest
    | rest => digits rest
  let marked (text : List Char) : Except Fault (List Char) :=
    match text with
    | 'e' :: rest => exponent rest
    | 'E' :: rest => exponent rest
    | rest => .ok rest
  match afterInteger with
  | .error fault => .error fault
  | .ok ('.' :: rest) =>
    match digits rest with
    | .error fault => .error fault
    | .ok rest => marked rest
  | .ok rest => marked rest

end TrustedKeyring.Json.Number
