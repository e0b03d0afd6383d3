import PartitionBoot.Text.Shapeless

/-!
The forms in which numbers and byte strings appear in messages.
-/

namespace PartitionBoot

def hexDigits (value : Nat) : String :=
  String.ofList (Nat.toDigits 16 value)

def hex (value : Nat) : String :=
  "0x" ++ hexDigits value

def hexPadded (width value : Nat) : String :=
  let digits := Nat.toDigits 16 value
  "0x" ++ String.ofList (List.replicate (width - digits.length) '0' ++ digits)

def digitValue (digit : Char) : Nat :=
  if digit.isDigit then digit.toNat - 48
  else if digit.isUpper then digit.toNat - 55
  else digit.toNat - 87

def ofHexDigits (digits : List Char) : Nat :=
  digits.foldl (fun value digit => 16 * value + digitValue digit) 0

def hexBytes (bytes : List UInt8) : String :=
  String.ofList (bytes.flatMap fun byte =>
    [Nat.digitChar (byte.toNat / 16), Nat.digitChar (byte.toNat % 16)])

/-- The bytes that pairs of hexadecimal digits stand for, in front of which come those read
already, last first. -/
def ofHexPairs : List Char → List UInt8 → List UInt8
  | high :: low :: rest, read =>
      ofHexPairs rest (UInt8.ofNat (16 * digitValue high + digitValue low) :: read)
  | _, read => read.reverse

def ofHexBytes (text : String) : List UInt8 := ofHexPairs text.toList []

def latin1 (bytes : List UInt8) : String :=
  String.ofList (bytes.map fun byte => Char.ofNat byte.toNat)

def quotedChar (char : Char) : List Char :=
  match char with
  | '"' => ['\\', '"']
  | '\\' => ['\\', '\\']
  | '\n' => ['\\', 'n']
  | '\r' => ['\\', 'r']
  | '\t' => ['\\', 't']
  | '\x00' => ['\\', '0']
  | other =>
      if isShapeless other then
        ['\\', 'u', '\x7b'] ++ Nat.toDigits 16 other.toNat ++ ['\x7d']
      else [other]

def quoted (text : String) : String :=
  String.ofList ('"' :: text.toList.flatMap quotedChar ++ ['"'])

def nameBytes (name : String) : List UInt8 :=
  name.toUTF8.data.toList

end PartitionBoot
