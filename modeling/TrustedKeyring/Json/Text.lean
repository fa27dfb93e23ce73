import TrustedKeyring.Hex
import TrustedKeyring.Json.Fault

/-!
# JSON strings

Reading and writing the body of a JSON string.  Reading refuses raw control characters and
surrogate escapes that are not paired; writing escapes what must be escaped and nothing else.
-/

namespace TrustedKeyring.Json

def letterEscape? : Char → Option Char
  | '"' => some '"'
  | '\\' => some '\\'
  | '/' => some '/'
  | 'b' => some '\x08'
  | 'f' => some '\x0c'
  | 'n' => some '\n'
  | 'r' => some '\r'
  | 't' => some '\t'
  | _ => none

/-- Reads the four digits of an escape.  The text counts as ended when fewer than four octets are
left of it. -/
def hexUnit (text : List Char) : Except Fault (Nat × List Char) :=
  match text with
  | a :: b :: c :: d :: rest =>
    match Hex.value? a, Hex.value? b, Hex.value? c, Hex.value? d with
    | some a, some b, some c, some d => .ok (((a * 16 + b) * 16 + c) * 16 + d, rest)
    | _, _, _, _ => .error .malformed
  | _ =>
    if text.foldl (fun n c => n + c.utf8Size) 0 < 4 then .error .truncated
    else .error .malformed

def isHighSurrogate (unit : Nat) : Bool :=
  0xD800 ≤ unit && unit ≤ 0xDBFF

def isLowSurrogate (unit : Nat) : Bool :=
  0xDC00 ≤ unit && unit ≤ 0xDFFF

def combine (high low : Nat) : Char :=
  Char.ofNat ((high - 0xD800) * 0x400 + (low - 0xDC00) + 0x10000)

def unicodeEscape (text : List Char) : Except Fault (Char × List Char) :=
  match hexUnit text with
  | .error fault => .error fault
  | .ok (unit, rest) =>
    if isLowSurrogate unit then .error .malformed
    else if !isHighSurrogate unit then .ok (Char.ofNat unit, rest)
    else match rest with
      | [] => .error .truncated
      | ['\\'] => .error .truncated
      | '\\' :: 'u' :: rest =>
        match hexUnit rest with
        | .error fault => .error fault
        | .ok (low, rest) =>
          if isLowSurrogate low then .ok (combine unit low, rest) else .error .malformed
      | _ => .error .malformed

def stringItem : List Char → Except Fault (Option Char × List Char)
  | [] => .error .truncated
  | '"' :: rest => .ok (none, rest)
  | ['\\'] => .error .truncated
  | '\\' :: 'u' :: rest => (unicodeEscape rest).map fun (c, rest) => (some c, rest)
  | '\\' :: letter :: rest =>
    match letterEscape? letter with
    | some c => .ok (some c, rest)
    | none => .error .malformed
  | c :: rest => if c.toNat < 0x20 then .error .malformed else .ok (some c, rest)

theorem length_hexUnit {text rest : List Char} {unit : Nat}
    (h : hexUnit text = .ok (unit, rest)) : rest.length < text.length := by
  unfold hexUnit at h
  split at h
  · split at h
    · cases h
      simp only [List.length_cons]
      omega
    · cases h
  · split at h <;> cases h

theorem length_unicodeEscape {text rest : List Char} {c : Char}
    (h : unicodeEscape text = .ok (c, rest)) : rest.length < text.length := by
  unfold unicodeEscape at h
  split at h
  · cases h
  next unit middle hunit =>
    have hmiddle := length_hexUnit hunit
    split at h
    · cases h
    · split at h
      · cases h
        exact hmiddle
      · split at h
        · cases h
        · cases h
        · split at h
          · cases h
          next hlow =>
            have hrest := length_hexUnit hlow
            split at h
            · simp only [Except.ok.injEq, Prod.mk.injEq] at h
              simp only [List.length_cons, ← h.2] at hmiddle ⊢
              omega
            · cases h
        · cases h

theorem length_stringItem {text rest : List Char} {c : Option Char}
    (h : stringItem text = .ok (c, rest)) : rest.length < text.length := by
  unfold stringItem at h
  split at h
  · cases h
  · cases h
    simp
  · cases h
  next rest' =>
    cases hu : unicodeEscape rest' with
    | error fault => simp [hu, Except.map] at h
    | ok value =>
      obtain ⟨c', tail⟩ := value
      have hlength := length_unicodeEscape hu
      simp only [hu, Except.map, Except.ok.injEq, Prod.mk.injEq] at h
      simp only [List.length_cons, ← h.2]
      omega
  · split at h
    · cases h
      simp only [List.length_cons]
      omega
    · cases h
  · split at h
    · cases h
    · cases h
      simp

def stringBody (text : List Char) : Except Fault (List Char × List Char) :=
  match _h : stringItem text with
  | .error fault => .error fault
  | .ok (none, rest) => .ok ([], rest)
  | .ok (some c, rest) => (stringBody rest).map fun (cs, rest) => (c :: cs, rest)
termination_by text.length
decreasing_by exact length_stringItem _h

def escape (c : Char) : List Char :=
  match c with
  | '"' => ['\\', '"']
  | '\\' => ['\\', '\\']
  | '\x08' => ['\\', 'b']
  | '\x0c' => ['\\', 'f']
  | '\n' => ['\\', 'n']
  | '\r' => ['\\', 'r']
  | '\t' => ['\\', 't']
  | c => if c.toNat < 0x20 then '\\' :: 'u' :: Hex.padded 4 c.toNat else [c]

def quote (text : List Char) : List Char :=
  '"' :: text.flatMap escape ++ ['"']

end TrustedKeyring.Json
