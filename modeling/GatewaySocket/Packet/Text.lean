import GatewaySocket.Packet.Basic
import Mathlib.Algebra.Order.Ring.Nat

/-!
# Addresses as text

The database holds addresses as text. `printMAC` writes a hardware address in
the canonical spelling the database is searched with, `readMAC` reads any
spelling, and `inetAddr` is the C library's `inet_addr`.

`readMAC` has no test for the end of the string: it goes on until it has twelve
digits. `none` stands for a call that runs past the terminating NUL.
-/

namespace GatewaySocket

open ByteMemory

def hexDigit (n : ℕ) : Char := "0123456789ABCDEF".toList.getD n '0'

/-- `%02X`. -/
def printOctet (b : UInt8) : List Char := [hexDigit (b.toNat / 16), hexDigit (b.toNat % 16)]

/-- `Ethernet::printMAC`. -/
def printMAC (addr : EtherAddr) : String :=
  String.ofList ([':'].intercalate (addr.toList.map printOctet))

/-- `hex_to_byte`; `none` is its result `-1`. -/
def hexToByte (hex : Char) : Option UInt8 :=
  if 'a' ≤ hex ∧ hex ≤ 'f' then some (UInt8.ofNat (hex.toNat + 10 - 'a'.toNat))
  else if 'A' ≤ hex ∧ hex ≤ 'F' then some (UInt8.ofNat (hex.toNat + 10 - 'A'.toNat))
  else if '0' ≤ hex ∧ hex ≤ '9' then some (UInt8.ofNat (hex.toNat - '0'.toNat))
  else none

/-- The loop of `readMAC`: `start` octets of `temp` are complete, and `goNext`
says whether the high half of the next one is. -/
def readMACLoop : EtherAddr → ℕ → Bool → List Char → Option EtherAddr
  | temp, start, _, [] => if start < 6 then none else some temp
  | temp, start, goNext, hex :: buf =>
    if start < 6 then
      match hexToByte hex, goNext with
      | none, goNext => readMACLoop temp start goNext buf
      | some current, false =>
          readMACLoop (temp.setIfInBounds start (temp.toList.getD start 0 ||| current <<< 4))
            start true buf
      | some current, true =>
          readMACLoop (temp.setIfInBounds start (temp.toList.getD start 0 ||| current))
            (start + 1) false buf
    else some temp

/-- `Ethernet::readMAC`. -/
def readMAC (buf : String) : Option EtherAddr :=
  readMACLoop (Vector.replicate 6 0) 0 false buf.toList

/-- The digits of `strtoul` in the given base, as far as they go. -/
def scanDigits (base : ℕ) : ℕ → List Char → ℕ × List Char
  | value, [] => (value, [])
  | value, c :: cs =>
    match hexToByte c with
    | some d =>
      if d.toNat < base then scanDigits base (value * base + d.toNat) cs else (value, c :: cs)
    | none => (value, c :: cs)

/-- `strtoul` with base 0, on text that starts with a decimal digit. -/
def scanNumber : List Char → Option (ℕ × List Char)
  | '0' :: x :: c :: cs =>
    if (x = 'x' ∨ x = 'X') ∧ (hexToByte c).isSome then some (scanDigits 16 0 (c :: cs))
    else some (scanDigits 8 0 (x :: c :: cs))
  | '0' :: cs => some (scanDigits 8 0 cs)
  | c :: cs => if '0' ≤ c ∧ c ≤ '9' then some (scanDigits 10 0 (c :: cs)) else none
  | [] => none

/-- The parts of an address text: the octets before the last dot, the last
number, and what follows it. -/
def scanParts (cs : List Char) (parts : List ℕ) : ℕ → Option (List ℕ × ℕ × List Char)
  | 0 => none
  | fuel + 1 =>
    match scanNumber cs with
    | none => none
    | some (value, '.' :: rest) =>
        if parts.length < 3 ∧ value ≤ 255 then scanParts rest (parts ++ [value]) fuel else none
    | some (value, rest) => some (parts, value, rest)

def isSpace (c : Char) : Bool :=
  c = ' ' || c = '\t' || c = '\n' || c = '\r' || c = '\x0b' || c = '\x0c'

/-- `INADDR_NONE`, which `inet_addr` returns for text that is no address. -/
def inaddrNone : InAddr := Vector.replicate 4 255

/-- `inet_addr`: one to four numbers, decimal, octal or hexadecimal, the last of
which fills the octets that are left. -/
def inetAddr (cp : String) : InAddr :=
  match scanParts cp.toList [] 4 with
  | none => inaddrNone
  | some (parts, last, rest) =>
    if last < 256 ^ (4 - parts.length) ∧ (rest.head?.all isSpace) then
      let value := (parts.zipIdx.map fun x => x.1 * 256 ^ (3 - x.2)).sum + last
      #v[UInt8.ofNat (value / 256 ^ 3), UInt8.ofNat (value / 256 ^ 2 % 256),
        UInt8.ofNat (value / 256 % 256), UInt8.ofNat (value % 256)]
    else inaddrNone

end GatewaySocket
