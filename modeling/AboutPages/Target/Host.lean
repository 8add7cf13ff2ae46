import AboutPages.Domain.Label
import AboutPages.Target.Ip
import AboutPages.Text.Bytes

/-!
# Hosts of web addresses

What may stand as a host, and why a text may not. Addresses of the web's own schemes hold a domain
name or a numeric address; in any other scheme a host is free text without a few delimiters.
-/

namespace AboutPages

open Text

inductive TargetFault where
  | noScheme
  | emptyHost
  | domainName
  | domainCharacter
  | portNumber
  | ipv4Address
  | ipv6Address
  deriving DecidableEq, Repr

def TargetFault.reason : TargetFault → String
  | noScheme => "relative URL without a base"
  | emptyHost => "empty host"
  | domainName => "invalid international domain name"
  | domainCharacter => "invalid domain character"
  | portNumber => "invalid port number"
  | ipv4Address => "invalid IPv4 address"
  | ipv6Address => "invalid IPv6 address"

namespace Target

def hexByte? (b : UInt8) : Option Nat :=
  let c := Char.ofNat b.toNat
  if isHexDigit c then some (digitValue c) else none

/-- Each percent sign with two hexadecimal digits stands for a byte. -/
def percentDecoded : Bytes → Bytes
  | a :: b :: c :: rest =>
      match a == 0x25, hexByte? b, hexByte? c with
      | true, some high, some low => UInt8.ofNat (high * 16 + low) :: percentDecoded rest
      | _, _, _ => a :: percentDecoded (b :: c :: rest)
  | bytes => bytes

/-- An address in square brackets, of which the first is taken off already. -/
def checkBracketed (text : List Char) : Except TargetFault Unit :=
  if text.getLast? = some ']' ∧ isIpv6 text.dropLast then .ok () else .error .ipv6Address

/-- A domain name, or an IPv4 address if its last part is a number. -/
def checkDomain (text : List Char) : Except TargetFault Unit :=
  match ofUtf8? (percentDecoded (utf8 (String.ofList text))) with
  | none => .error .domainName
  | some decoded =>
      match Domain.labels? decoded.toList with
      | none => .error .domainName
      | some labels =>
          if labels = [[]] then .error .emptyHost
          else if endsInNumber labels && !isIpv4 labels then .error .ipv4Address
          else .ok ()

def checkWebHost : List Char → Except TargetFault Unit
  | '[' :: text => checkBracketed text
  | text => checkDomain text

def isDelimiter (c : Char) : Bool :=
  decide (c ∈ ['\x00', '\t', '\n', '\r', ' ', '#', '/', ':', '<', '>', '?', '@', '[', '\\', ']',
    '^', '|'])

def checkFreeHost : List Char → Except TargetFault Unit
  | '[' :: text => checkBracketed text
  | text => if text.any isDelimiter then .error .domainCharacter else .ok ()

end Target

end AboutPages
