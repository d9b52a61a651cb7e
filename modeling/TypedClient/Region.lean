import TypedClient.Text.Basic

namespace TypedClient

structure Date where
  year : Int
  month : Nat
  day : Nat
deriving DecidableEq, Repr, Ord

structure Region where
  name : String
  platformId : String
  launched : Option Date
  number : Int
  /-- The host of a region that is not served under its own name. -/
  fixedHost : Option String
deriving DecidableEq, Repr

namespace Region

def globalName : String := "Global"

def testName : String := "PBE"

/-- The first number of a regular region; the ones below are for special regions. -/
def firstRegular : Int := 10

variable (r : Region)

def isGlobal : Bool := r.name == globalName

def isSpecial : Bool := r.name == globalName || r.name == testName

def host : String := r.fixedHost.getD (Text.onChars Text.lowercase r.name ++ ".api.pvp.net")

def constant : String := Text.onChars Text.uppercase r.name

/-- Special regions come first, the global one before the test region. -/
def rank : Nat := if r.name = globalName then 0 else if r.name = testName then 1 else 2

/-- Rank, then launch (unknown dates first), then name. -/
def order (a b : Region) : Ordering :=
  (compare a.rank b.rank).then ((compare a.launched b.launched).then (compare a.name b.name))

def numberFrom (next : Int) : List Region → List Region
  | [] => []
  | r :: rs =>
    if r.isSpecial then r :: numberFrom next rs
    else { r with number := next } :: numberFrom (next + 1) rs

def numberAll (rs : List Region) : List Region :=
  numberFrom firstRegular (rs.mergeSort fun a b => (order a b).isLE)

private def special (name platformId : String) (number : Int) : Region :=
  ⟨name, platformId, none, number, none⟩

private def regular (name platformId : String) (year : Int) (month day : Nat) : Region :=
  ⟨name, platformId, some ⟨year, month, day⟩, 0, none⟩

def announced : List Region :=
  [special globalName "" 1, special testName "PBE" 2,
   regular "BR" "BR1" 2012 9 13, regular "EUNE" "EUN1" 2010 7 13, regular "EUW" "EUW1" 2010 7 13,
   regular "KR" "KR" 2011 12 12, regular "LAN" "LA1" 2013 6 5, regular "LAS" "LA2" 2013 6 5,
   regular "NA" "NA1" 2009 10 27, regular "OCE" "OC1" 2013 7 28, regular "TR" "TR1" 2012 9 27,
   regular "RU" "RU" 2013 5 17]

def all : List Region := numberAll announced

def valid : List Region := all.filter (!·.isGlobal)

def named? (name : String) : Option Region :=
  all.find? fun r => Text.equalIgnoringCase r.name.toList name.toList

end Region

end TypedClient
