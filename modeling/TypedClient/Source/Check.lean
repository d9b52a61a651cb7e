import TypedClient.Failure
import TypedClient.Source.Syntax
import TypedClient.Source.View
import TypedClient.Text.IdentifierChar

namespace TypedClient.Source

open Text

def isWord : List Char → Bool
  | [] => false
  | c :: cs => (isIdentifierStart c || c == '_') && cs.all isIdentifierContinue && c :: cs ≠ ['_']

/-- The keywords of the generated source. One more is kept for later editions only. -/
def isKeyword (cs : List Char) : Bool :=
  (keywords.filter (· ≠ "gen")).contains (String.ofList cs)

def isIdentifier (cs : List Char) : Bool :=
  match cs with
  | 'r' :: '#' :: cs => isWord cs && !firmKeywords.contains (String.ofList cs)
  | cs => isWord cs && !isKeyword cs

def isIdentifierText (s : String) : Bool := isIdentifier (trim s.toList)

def segments : List Char → List (List Char)
  | [] => [[]]
  | ':' :: ':' :: cs => [] :: segments cs
  | c :: cs =>
    match segments cs with
    | [] => [[c]]
    | s :: more => (c :: s) :: more

def isSegment (leading : List String) (cs : List Char) : Bool :=
  let cs := trim cs
  isIdentifier cs || leading.contains (String.ofList cs)

def isImportPath (s : String) : Bool :=
  let leading := ["self", "super", "crate", "try"]
  match segments (trim s.toList) with
  | first :: second :: more =>
    ((trim first).isEmpty || isSegment leading first) && (second :: more).all (isSegment leading)
  | pieces => pieces.all (isSegment leading)

def isTypePath (s : String) : Bool :=
  (segments (trim s.toList)).all (isSegment ["self", "Self", "super", "crate", "try"])

def normalPath (s : String) : String :=
  joinWith "::" ((segments (trim s.toList)).map fun cs => String.ofList (trim cs))

def isLine (s : String) : Bool := s.toList.all fun c => c ≠ '\n' && c ≠ '\r'

/-- Whether a text can be read as comments: no carriage return stands inside a line. -/
def isComment (text : String) : Bool := (docLines text).all fun line => !line.contains '\r'

def isTypeText : TypeExpr → Bool
  | .path s => isTypePath s
  | .one head t => isTypePath head && isTypeText t
  | .two head t u => isTypePath head && isTypeText t && isTypeText u

def isRegion (r : Region) : Bool := isIdentifierText r.constant

/-- A single underscore is taken as the name of a field. -/
def isField (f : FieldView) : Bool :=
  (isIdentifierText f.identifier || onChars trim f.identifier == "_") && isTypeText f.type

def isMethod (m : MethodView) : Bool := isIdentifierText m.identifier && isIdentifierText m.field

def isClass (c : ClassView) : Bool :=
  isIdentifierText c.name && c.fields.all isField && c.methods.all isMethod

def isParameter (p : ParameterView) : Bool := isIdentifierText p.identifier && isTypeText p.type

def isOperation (op : OperationView) : Bool :=
  isIdentifierText op.builder && isIdentifierText op.identifier && isLine op.identifier
    && op.pathParameters.all isParameter && op.query.all isParameter
    && (!op.needsRegion || op.regions.all isIdentifierText) && isTypeText op.resultType
    && op.rawType.all isTypeText

end TypedClient.Source
