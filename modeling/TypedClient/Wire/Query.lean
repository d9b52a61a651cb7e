import TypedClient.Text.Basic
import TypedClient.Wire.Percent

namespace TypedClient.Wire.Query

def isPlain (c : Char) : Bool := c.isAlphanum || ['*', '-', '.', '_'].contains c

def encodeOctet (b : UInt8) : List Char :=
  if b = 0x20 then ['+'] else if isPlain (asciiChar b) then [asciiChar b] else percent b

def encodeText (s : String) : List Char := percentEncode encodeOctet s.toList

def encodePair (p : String × String) : List Char := encodeText p.1 ++ '=' :: encodeText p.2

def encode (pairs : List (String × String)) : String :=
  String.ofList (['&'].intercalate (pairs.map encodePair))

def decodeText? (cs : List Char) : Option String := do
  let octets ← percentDecode? (cs.map fun c => if c = '+' then ' ' else c)
  return String.ofList (← Text.Utf8.decode? octets)

/-- The pair that a part of a query writes. Its value follows the first equals sign. -/
def decodePair? (cs : List Char) : Option (String × String) := do
  let (key, rest) := cs.span (· ≠ '=')
  return (← decodeText? key, ← decodeText? rest.tail)

def decode? (query : String) : Option (List (String × String)) :=
  if query.isEmpty then some [] else (Text.splitAt '&' query.toList).mapM decodePair?

end TypedClient.Wire.Query
