import PetriCluster.Bytes

/-!
# Socket addresses

An address is an IP address with a port: `127.0.0.1:7401` or `[2001:db8::1%3]:80`. `ofString?`
reads the text of a configuration, `toString` writes it in its shortest usual form: groups in
lower case without leading zeros, the first longest run of at least two zero groups as `::`, and
addresses that map an IPv4 address with that address spelt out.
-/

namespace PetriCluster

/-- An internet address of either version. -/
inductive IpAddress where
  | v4 (a b c d : UInt8)
  | v6 (groups : List UInt16)
  deriving DecidableEq, Repr

/-- An internet address with a port. -/
structure SocketAddress where
  ip : IpAddress
  /-- The interface a version 6 address belongs to; 0 when there is none to name. -/
  scope : UInt32
  port : UInt16
  deriving DecidableEq, Repr

namespace IpAddress

/-- Groups in lower-case hexadecimal, separated by colons. -/
def groupsText (groups : List UInt16) : String :=
  ":".intercalate (groups.map fun g => String.ofList (Nat.toDigits 16 g.toNat))

/-- The first longest run of zero groups, as its start and length. -/
def longestZeroRun (groups : List UInt16) : Nat × Nat :=
  let step := fun (s : Nat × (Nat × Nat) × (Nat × Nat)) (g : UInt16) =>
    let (i, current, best) := s
    if g = 0 then
      let current := if current.2 = 0 then (i, 1) else (current.1, current.2 + 1)
      (i + 1, current, if current.2 > best.2 then current else best)
    else (i + 1, (0, 0), best)
  (groups.foldl step (0, (0, 0), (0, 0))).2.2

/-- The usual text of an address. -/
def toString : IpAddress → String
  | v4 a b c d => s!"{a.toNat}.{b.toNat}.{c.toNat}.{d.toNat}"
  | v6 groups =>
    match groups with
    | [0, 0, 0, 0, 0, 0xffff, hi, lo] =>
      let (h, l) := (hi.toNat, lo.toNat)
      s!"::ffff:{h / 256}.{h % 256}.{l / 256}.{l % 256}"
    | _ =>
      let (start, length) := longestZeroRun groups
      if length > 1 then
        groupsText (groups.take start) ++ "::" ++ groupsText (groups.drop (start + length))
      else groupsText groups

end IpAddress

namespace SocketAddress

/-- The address of a port on the own host. -/
def loopback (port : UInt16) : SocketAddress := ⟨.v4 127 0 0 1, 0, port⟩

/-- The text of an address and port; version 6 addresses stand in brackets. -/
def toString (a : SocketAddress) : String :=
  match a.ip with
  | .v4 .. => s!"{a.ip.toString}:{a.port.toNat}"
  | .v6 .. =>
    if a.scope = 0 then s!"[{a.ip.toString}]:{a.port.toNat}"
    else s!"[{a.ip.toString}%{a.scope.toNat}]:{a.port.toNat}"

instance : ToString SocketAddress := ⟨toString⟩

/-! ## Reading

A reader takes what it needs from the front of the text and returns the rest. -/

/-- A reader of a value from the front of a text. -/
abbrev Reader (α : Type) := List Char → Option (α × List Char)

/-- Read the given character. -/
def readChar (c : Char) : Reader Unit
  | d :: rest => if d = c then some ((), rest) else none
  | [] => none

/-- The value of a digit in base 10 or 16. -/
def digitValue? (base : Nat) (c : Char) : Option Nat :=
  (Bytes.hexValue? c).filter (· < base)

/-- How the numbers of an address are written. -/
structure NumberForm where
  base : Nat
  maxDigits : Option Nat
  leadingZero : Bool
  largest : Nat

/-- An octet: up to three decimal digits. -/
def octetForm : NumberForm := ⟨10, some 3, false, 255⟩

/-- A group: up to four hexadecimal digits. -/
def groupForm : NumberForm := ⟨16, some 4, true, 65535⟩

/-- A port: decimal digits, as many as there are. -/
def portForm : NumberForm := ⟨10, none, true, 65535⟩

/-- The interface number of a version 6 address. -/
def scopeForm : NumberForm := ⟨10, none, true, 4294967295⟩

/-- All digits at the front of the text, as a number of the given form. -/
def readNumber (form : NumberForm) : Reader Nat := fun text =>
  let isDigit := fun c => (digitValue? form.base c).isSome
  let digits := text.takeWhile isDigit
  let rest := text.dropWhile isDigit
  let value := digits.foldl (fun n c => n * form.base + (digitValue? form.base c).getD 0) 0
  let tooLong := match form.maxDigits with
    | some most => decide (most < digits.length)
    | none => false
  let badZero := !form.leadingZero && digits.head? == some '0' && decide (1 < digits.length)
  if digits.isEmpty || tooLong || badZero || decide (form.largest < value) then none
  else some (value, rest)

/-- Read four octets. -/
def readV4 : Reader (UInt8 × UInt8 × UInt8 × UInt8) := fun text => do
  let (a, text) ← readNumber octetForm text
  let ((), text) ← readChar '.' text
  let (b, text) ← readNumber octetForm text
  let ((), text) ← readChar '.' text
  let (c, text) ← readNumber octetForm text
  let ((), text) ← readChar '.' text
  let (d, text) ← readNumber octetForm text
  return ((UInt8.ofNat a, UInt8.ofNat b, UInt8.ofNat c, UInt8.ofNat d), text)

/-- A value preceded by a colon unless it is the first of its row. -/
def readAfterColon {α : Type} (first : Bool) (read : Reader α) : Reader α := fun text =>
  if first then read text
  else do
    let ((), text) ← readChar ':' text
    read text

/-- A row of at most `limit` groups, of which the last two may be written as a version 4
address; says whether they were. `room` is what is left of the limit. -/
def readGroups (limit : Nat) : (room : Nat) → List Char → (List UInt16 × Bool) × List Char
  | 0, text => (([], false), text)
  | room + 1, text =>
    let first := decide (room + 1 = limit)
    let embedded := if 0 < room then readAfterColon first readV4 text else none
    match embedded with
    | some ((a, b, c, d), rest) =>
      (([UInt16.ofNat (a.toNat * 256 + b.toNat), UInt16.ofNat (c.toNat * 256 + d.toNat)], true),
        rest)
    | none =>
      match readAfterColon first (readNumber groupForm) text with
      | some (g, rest) =>
        let ((groups, v4), rest) := readGroups limit room rest
        ((UInt16.ofNat g :: groups, v4), rest)
      | none => (([], false), text)

/-- A version 6 address: eight groups, or fewer with `::` for a run of zeros. -/
def readV6 : Reader (List UInt16) := fun text =>
  let ((head, headV4), rest) := readGroups 8 8 text
  if head.length = 8 then some (head, rest)
  else if headV4 then none
  else do
    let ((), rest) ← readChar ':' rest
    let ((), rest) ← readChar ':' rest
    let room := 7 - head.length
    let ((tail, _), rest) := readGroups room room rest
    return (head ++ List.replicate (8 - head.length - tail.length) 0 ++ tail, rest)

/-- Read a colon and a port. -/
def readPort : Reader UInt16 := fun text => do
  let ((), text) ← readChar ':' text
  let (port, text) ← readNumber portForm text
  return (UInt16.ofNat port, text)

/-- The whole text as a version 4 address with a port. -/
def ofV4Text? (text : List Char) : Option SocketAddress := do
  let ((a, b, c, d), text) ← readV4 text
  let (port, text) ← readPort text
  if text.isEmpty then return ⟨.v4 a b c d, 0, port⟩ else none

/-- The whole text as a bracketed version 6 address with a port. -/
def ofV6Text? (text : List Char) : Option SocketAddress := do
  let ((), text) ← readChar '[' text
  let (groups, text) ← readV6 text
  let withScope : Option (Nat × List Char) := do
    let ((), rest) ← readChar '%' text
    readNumber scopeForm rest
  let (scope, text) := withScope.getD (0, text)
  let ((), text) ← readChar ']' text
  let (port, text) ← readPort text
  if text.isEmpty then return ⟨.v6 groups, UInt32.ofNat scope, port⟩ else none

/-- The address a whole text spells. -/
def ofString? (s : String) : Option SocketAddress :=
  ofV4Text? s.toList <|> ofV6Text? s.toList

end SocketAddress

end PetriCluster
